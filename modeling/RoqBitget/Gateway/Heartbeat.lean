import Mathlib.Tactic.Linarith
import Mathlib.Tactic.Ring
import RoqBitget.Gateway.Session
import RoqBitget.Protocol.Encoder

set_option relaxedAutoImplicit false
set_option autoImplicit false

/-!
# The dead-man switch

While it is ready, the REST stream asks the exchange again and again to cancel all orders after
a countdown, so that the orders are cancelled once the gateway is gone. How often it does and
how long the countdown is both follow from `ping_freq`: a third of it, and all of it in whole
seconds, but from 5 to 60 of them.

## Main definitions

* `RoqBitget.Gateway.OrderEntry.countdown` — the countdown of a message.
* `RoqBitget.Gateway.Ticking` — ticks at most a second apart, and sends that succeed.
* `RoqBitget.Gateway.RefreshedInTime` — every message comes before the countdown of the one
  before it has ended.

## Main results

* `RoqBitget.Gateway.beat_restTimer` — what a tick does to the heartbeat.
* `RoqBitget.Gateway.Beating.step` — what is known between two messages.
* `RoqBitget.Gateway.interval_le`, `exists_interval_eq` — the longest time between two messages.
* `RoqBitget.Gateway.refreshedInTime_iff` — for which settings the countdown never ends.

## Implementation notes

Between two messages of which it is said how far they are apart, the stream stays ready. The
times are not bounded, so that a sum of two of them is exact.
-/

namespace RoqBitget.Gateway

open RoqBitget.Core Runs Effects DropCopy
open RoqBitget.Protocol

/-! ## The message -/

namespace OrderEntry

/-- `std::chrono::duration_cast<std::chrono::seconds>`. -/
def toSeconds (t : Nanoseconds) : ℤ := t.tdiv 1000000000

/-- The body of the message of `OrderEntry::countdown_cancel_all`. -/
def countdownBody (config : Config) (encodeBuffer : String) : String :=
  Encoder.countdownCancelAll encodeBuffer (toSeconds config.pingFreq)

/-- The countdown of a message, in seconds. -/
def countdown (config : Config) : ℤ := Encoder.clampCountdown (toSeconds config.pingFreq)

/-- The countdown is what the message says. -/
theorem countdownBody_writes (config : Config) (encodeBuffer : String) :
    Encoder.Writes (countdownBody config encodeBuffer)
      [JsonText.member "countdown" (toString (countdown config))] :=
  Encoder.countdownCancelAll_writes encodeBuffer (toSeconds config.pingFreq)

/-! ## What leaves the heartbeat alone -/

variable {L : LimitRequest}

/-- The time of the next heartbeat and the status stay the same, and no heartbeat is sent. -/
structure Unbeaten (w w' : World L) : Prop where
  nextHeartbeat : w'.nextHeartbeat = w.nextHeartbeat
  orderEntryStatus : w'.orderEntryStatus = w.orderEntryStatus
  heartbeat : .heartbeat ∈ w'.actions ↔ .heartbeat ∈ w.actions

namespace Unbeaten

theorem refl (w : World L) : Unbeaten w w := ⟨rfl, rfl, Iff.rfl⟩

theorem trans (u v w : World L) (h : Unbeaten u v) (h' : Unbeaten v w) : Unbeaten u w :=
  ⟨h'.nextHeartbeat.trans h.nextHeartbeat, h'.orderEntryStatus.trans h.orderEntryStatus,
    h'.heartbeat.trans h.heartbeat⟩

/-- Another action than a heartbeat. -/
theorem act {action : Action} (h : action ≠ .heartbeat) (w : World L) :
    Unbeaten w (w.act action) :=
  ⟨rfl, rfl, by simp [World.act, h.symm]⟩

/-- A change of a slot, and another action than a heartbeat. -/
theorem act_updateSlot {action : Action} (h : action ≠ .heartbeat) (slot : Slot)
    (f : L.Object → L.Object) (w : World L) : Unbeaten w ((w.updateSlot slot f).act action) :=
  { act h (w.updateSlot slot f) with }

end Unbeaten

/-- **The websocket stream leaves the heartbeat alone.** -/
theorem respects_unbeaten (config : Config) : Respects config (Unbeaten (L := L)) where
  refl := Unbeaten.refl
  trans := fun {u v w} => Unbeaten.trans u v w
  publish status reason w :=
    { Unbeaten.act (by simp : Action.publish status reason ≠ .heartbeat) w with }
  request slot w := Unbeaten.act_updateSlot (by simp) slot L.request w
  subscribe topic w := Unbeaten.act (by simp) w
  look stale w :=
    { Unbeaten.act (by simp : Action.checkStaleOrders _ ≠ .heartbeat) w with }
  schedule _ w := ⟨rfl, rfl, Iff.rfl⟩
  refused w := ⟨rfl, rfl, Iff.rfl⟩
  notEmpty _ w := ⟨rfl, rfl, Iff.rfl⟩

/-- What follows an answer leaves the heartbeat alone if the answer's end does. -/
theorem unbeaten_finish {next : World L → World L} (h : ∀ w, Unbeaten w (next w))
    (endpoint : Endpoint) (outcome : Outcome) (w : World L) :
    Unbeaten w (finish endpoint outcome next w) := by
  cases outcome with
  | dispatched => exact Unbeaten.trans _ _ _ (Unbeaten.act (by simp) w) (h _)
  | failed failure => exact Unbeaten.trans _ _ _ (Unbeaten.act (by simp) w) (h _)
  | ignored => exact h w
  | fatal fatal => exact ⟨rfl, rfl, Iff.rfl⟩

/-- Committing an answer leaves the heartbeat alone. -/
theorem unbeaten_commit (slot : Slot) (w : World L) : Unbeaten w (commit slot w) :=
  Unbeaten.act_updateSlot (by simp) slot L.commit w

/-- Counting an answer leaves the heartbeat alone. -/
theorem unbeaten_countOrderDetails (w : World L) : Unbeaten w (countOrderDetails w) := by
  rcases countOrderDetails_cases w with ⟨-, heq⟩ | ⟨-, heq⟩ | ⟨-, heq⟩ <;> rw [heq]
  · exact ⟨rfl, rfl, Iff.rfl⟩
  · exact { unbeaten_commit .lostOrders { w with downloadLostOrdersCounter := 0 } with }
  · exact ⟨rfl, rfl, Iff.rfl⟩

/-- **An answer leaves the heartbeat alone.** -/
theorem unbeaten_onResponse (config : Config) (sent : Sent) (response : Response) (w : World L) :
    Unbeaten w (onResponse config sent response w) := by
  have hend : ∀ v : World L, Unbeaten { w with inFlight := w.inFlight.erase sent } v →
      Unbeaten w v := fun v h => { h with }
  apply hend
  rcases onResponse_cases config sent response w with ⟨clientOrderId, -, heq⟩ | ⟨-, heq⟩ <;>
    rw [heq]
  · unfold getOrderDetailsAck
    cases orderDetailsOutcome config clientOrderId response with
    | ok outcome => exact unbeaten_finish unbeaten_countOrderDetails _ outcome _
    | error e => exact Unbeaten.refl _
  · exact unbeaten_finish (unbeaten_commit sent.endpoint.slot) _ _ _

/-- A request leaves the heartbeat alone. -/
theorem unbeaten_send (tick : Tick) (endpoint : Endpoint) :
    Ensures Unbeaten (send tick endpoint : M L Unit) := by
  intro w
  unfold send
  split_ifs
  · exact ⟨rfl, rfl, by simp [finalState]⟩
  · exact Unbeaten.refl w

/-- A request for a lost order leaves the heartbeat alone. -/
theorem unbeaten_sendLostOrder (tick : Tick) (key : OrderKey) :
    Ensures Unbeaten (sendLostOrder tick key : M L Unit) := by
  have hfind : Ensures Unbeaten (findOrder tick key (getOrderDetails tick) : M L Bool) := by
    unfold findOrder
    cases tick.findOrder key with
    | none => exact Ensures.pure Unbeaten.refl false
    | some clientOrderId =>
      exact (unbeaten_send tick _).bind Unbeaten.trans fun _ => Ensures.pure Unbeaten.refl true
  refine hfind.bind Unbeaten.trans fun found => ?_
  split_ifs
  · exact Ensures.modify fun w => ⟨rfl, rfl, Iff.rfl⟩
  · exact Ensures.pure Unbeaten.refl _

/-- **The requests of a tick leave the heartbeat alone.** -/
theorem respectsQueue_unbeaten : RespectsQueue (Unbeaten (L := L)) where
  refl := Unbeaten.refl
  trans := Unbeaten.trans
  send tick endpoint _ := unbeaten_send tick endpoint
  sendLostOrder := unbeaten_sendLostOrder
  clear _ := ⟨rfl, rfl, Iff.rfl⟩
  sent _ _ := ⟨rfl, rfl, Iff.rfl⟩
  interrupted _ _ := ⟨rfl, rfl, Iff.rfl⟩

/-! ## What a tick does to the heartbeat -/

/-- A heartbeat at the time of a tick. -/
def beat (config : Config) (tick : Tick) (w : World L) : World L :=
  { w with nextHeartbeat := tick.now + config.pingFreq / 3 }.act .heartbeat

/-- The heartbeat is sent if it is due. -/
theorem sendHeartbeat_eq {config : Config} {tick : Tick}
    (hcancel : config.cancelOnDisconnect = true) (haccepts : tick.acceptsHeartbeat = true)
    (w : World L) :
    sendHeartbeat config tick w =
      .ok () (if w.nextHeartbeat < tick.now then beat config tick w else w) := by
  have hfirst : sendHeartbeat config tick w =
      (if config.cancelOnDisconnect && w.nextHeartbeat < tick.now then do
        modify fun w => { w with nextHeartbeat := tick.now + config.pingFreq / 3 }
        countdownCancelAll tick
      else pure () : M L Unit) w := rfl
  rw [hfirst, hcancel, Bool.true_and]
  by_cases hdue : w.nextHeartbeat < tick.now
  · rw [if_pos hdue, if_pos (by simpa using hdue)]
    exact if_pos haccepts
  · rw [if_neg hdue, if_neg (by simpa using hdue)]
    rfl

/-- **A tick sends the heartbeat if it is due**, while the stream is ready and its sends
succeed. -/
theorem unbeaten_onTimer {config : Config} {tick : Tick} {w : World L}
    (hcancel : config.cancelOnDisconnect = true) (hrefresh : tick.refresh = true)
    (haccepts : tick.acceptsHeartbeat = true) (hready : w.orderEntryStatus = .ready) :
    Unbeaten (if w.nextHeartbeat < tick.now then beat config tick w else w)
      (onTimer config tick w) := by
  have htick : onTimer config tick w =
      finalState ((sendHeartbeat config tick >>= fun _ => checkRequestQueue tick : M L Unit) w) :=
    if_pos (by simp [hrefresh, hready])
  rw [htick, finalState_bind, sendHeartbeat_eq hcancel haccepts]
  exact respectsQueue_unbeaten.checkRequestQueue tick _

end OrderEntry

/-! ## Between two heartbeats -/

open OrderEntry

/-- The time of the last tick of the REST stream since its connection began. -/
def lastTick : History Event Action → Option Nanoseconds
  | [] => none
  | entry :: h =>
    match entry.event with
    | .restTimer tick => some tick.now
    | .restConnected | .restDisconnected => none
    | _ => lastTick h

/-- The time of the last heartbeat since the connection of the REST stream began. -/
def lastHeartbeat : History Event Action → Option Nanoseconds
  | [] => none
  | entry :: h =>
    match entry.event with
    | .restTimer tick => if .heartbeat ∈ entry.actions then some tick.now else lastHeartbeat h
    | .restConnected | .restDisconnected => none
    | _ => lastHeartbeat h

variable {L : LimitRequest} {D : Download2 State (World L)}

/-- While the REST stream is ready, it ticks at least once a second, its connection is usable,
and what it sends is accepted. -/
def Ticking (h : History Event Action) (s : Session L D) : Event → Prop
  | .restTimer tick =>
    s.world.orderEntryStatus = .ready →
      tick.refresh = true ∧ tick.acceptsHeartbeat = true ∧
        ∀ last, lastTick h = some last → last ≤ tick.now ∧ tick.now ≤ last + seconds 1
  | _ => True

/-- A message is sent before the countdown of the one before it has ended. -/
def RefreshedInTime (config : Config) (L : LimitRequest) (D : Download2 State (World L)) : Prop :=
  ∀ (h : History Event Action) (s : Session L D) (tick : Tick) (last : Nanoseconds),
    Run (system config L D) Ticking h s → (system config L D).enabled s (.restTimer tick) →
    Ticking h s (.restTimer tick) →
    .heartbeat ∈ ((system config L D).step s (.restTimer tick)).2 →
    lastHeartbeat h = some last → tick.now - last < seconds (countdown config)

/-- What is known since a heartbeat: when the next one is due, and that no tick came after
that. -/
def Beating (config : Config) (h : History Event Action) (s : Session L D) : Prop :=
  ∀ last, lastHeartbeat h = some last →
    s.world.orderEntryStatus = .ready ∧
      s.world.nextHeartbeat = last + config.pingFreq / 3 ∧
      ∃ t, lastTick h = some t ∧ t ≤ last + config.pingFreq / 3

/-- **A tick of the system sends the heartbeat if it is due.** -/
theorem beat_restTimer {config : Config} {h : History Event Action} {s : Session L D} {tick : Tick}
    (hcancel : config.cancelOnDisconnect = true) (hticking : Ticking h s (.restTimer tick))
    (hready : s.world.orderEntryStatus = .ready) :
    Unbeaten (if s.world.nextHeartbeat < tick.now then beat config tick (fresh s).world
      else (fresh s).world) ((system config L D).step s (.restTimer tick)).1.world :=
  unbeaten_onTimer (w := (fresh s).world) hcancel (hticking hready).1 (hticking hready).2.1 hready

/-- Whether an event is a tick of the REST stream, or begins or ends its connection. -/
def Event.isRestStream : Event → Bool
  | .restConnected | .restDisconnected | .restTimer _ => true
  | _ => false

/-- Any other event leaves the heartbeat alone. -/
theorem unbeaten_step {config : Config} {s : Session L D} {e : Event}
    (hother : e.isRestStream = false) :
    Unbeaten (fresh s).world ((system config L D).step s e).1.world := by
  cases e with
  | restTimer tick => simp [Event.isRestStream] at hother
  | restConnected => simp [Event.isRestStream] at hother
  | restDisconnected => simp [Event.isRestStream] at hother
  | response sent response => exact unbeaten_onResponse config sent response (fresh s).world
  | login code => exact (respects_unbeaten config).react (fresh s) (.login code) rfl
  | subscribed topic code =>
    exact (respects_unbeaten config).react (fresh s) (.subscribed topic code) rfl
  | disconnected => exact (respects_unbeaten config).react (fresh s) .disconnected rfl
  | timer refresh now stale =>
    exact (respects_unbeaten config).react (fresh s) (.timer refresh now stale) rfl

/-- Any other event is neither a tick nor a heartbeat. -/
theorem last_cons (entry : Entry Event Action) (hother : entry.event.isRestStream = false)
    (h : History Event Action) :
    lastTick (entry :: h) = lastTick h ∧ lastHeartbeat (entry :: h) = lastHeartbeat h := by
  obtain ⟨event, actions⟩ := entry
  cases event with
  | restTimer tick => simp [Event.isRestStream] at hother
  | restConnected => simp [Event.isRestStream] at hother
  | restDisconnected => simp [Event.isRestStream] at hother
  | _ => exact ⟨rfl, rfl⟩

section Interval

variable {config : Config} {h : History Event Action} {s : Session L D}

/-- A heartbeat is sent if it is due. -/
theorem heartbeat_mem_step {tick : Tick} (hcancel : config.cancelOnDisconnect = true)
    (hticking : Ticking h s (.restTimer tick)) (hready : s.world.orderEntryStatus = .ready) :
    .heartbeat ∈ ((system config L D).step s (.restTimer tick)).2 ↔
      s.world.nextHeartbeat < tick.now := by
  refine (beat_restTimer hcancel hticking hready).heartbeat.trans ?_
  by_cases hdue : s.world.nextHeartbeat < tick.now
  · simp [hdue, beat, World.act]
  · simp [hdue, fresh]

/-- No heartbeat is sent before the stream is ready. -/
theorem heartbeat_notMem_step {tick : Tick} (hready : s.world.orderEntryStatus ≠ .ready) :
    .heartbeat ∉ ((system config L D).step s (.restTimer tick)).2 := by
  have hsame : onTimer config tick (fresh s).world = (fresh s).world :=
    if_neg (by simp [fresh, hready])
  show .heartbeat ∉ (onTimer config tick (fresh s).world).actions
  rw [hsame]
  simp [fresh]

/-- A heartbeat is known from then on. -/
theorem beating_of_heartbeat {tick : Tick} (hcancel : config.cancelOnDisconnect = true)
    (hperiod : 0 < config.pingFreq) (hticking : Ticking h s (.restTimer tick))
    (hsent : .heartbeat ∈ ((system config L D).step s (.restTimer tick)).2) :
    Beating config (⟨.restTimer tick, ((system config L D).step s (.restTimer tick)).2⟩ :: h)
      ((system config L D).step s (.restTimer tick)).1 := by
  intro last hlast
  obtain rfl : tick.now = last := by simpa [lastHeartbeat, hsent] using hlast
  have hready : s.world.orderEntryStatus = .ready := by
    by_contra hnot
    exact heartbeat_notMem_step hnot hsent
  have hdue := (heartbeat_mem_step hcancel hticking hready).mp hsent
  have hbeat := beat_restTimer (D := D) hcancel hticking hready
  rw [if_pos hdue] at hbeat
  refine ⟨hbeat.orderEntryStatus.trans hready, hbeat.nextHeartbeat, tick.now, rfl, ?_⟩
  exact Int.le_add_of_nonneg_right (Int.ediv_nonneg hperiod.le (by decide))

/-- A tick without a heartbeat is not later than the next heartbeat is due. -/
theorem Beating.skip {tick : Tick} (hcancel : config.cancelOnDisconnect = true)
    (beating : Beating config h s) (hticking : Ticking h s (.restTimer tick))
    (hsent : .heartbeat ∉ ((system config L D).step s (.restTimer tick)).2) :
    Beating config (⟨.restTimer tick, ((system config L D).step s (.restTimer tick)).2⟩ :: h)
      ((system config L D).step s (.restTimer tick)).1 := by
  intro last hlast
  have hbefore : lastHeartbeat h = some last := by simpa [lastHeartbeat, hsent] using hlast
  obtain ⟨hready, hnext, -⟩ := beating last hbefore
  have hdue : ¬ s.world.nextHeartbeat < tick.now :=
    fun hdue => hsent ((heartbeat_mem_step hcancel hticking hready).mpr hdue)
  have hbeat := beat_restTimer (D := D) hcancel hticking hready
  rw [if_neg hdue] at hbeat
  refine ⟨hbeat.orderEntryStatus.trans hready, hbeat.nextHeartbeat.trans hnext, tick.now, rfl, ?_⟩
  exact hnext ▸ Int.not_lt.mp hdue

/-- **What is known since a heartbeat stays known.** -/
theorem Beating.step {e : Event} (hcancel : config.cancelOnDisconnect = true)
    (hperiod : 0 < config.pingFreq) (beating : Beating config h s) (hticking : Ticking h s e) :
    Beating config (⟨e, ((system config L D).step s e).2⟩ :: h)
      ((system config L D).step s e).1 := by
  by_cases hother : e.isRestStream = false
  · intro last hlast
    have hunbeaten : Unbeaten (fresh s).world ((system config L D).step s e).1.world :=
      unbeaten_step hother
    obtain ⟨htick, hheartbeat⟩ := last_cons ⟨e, ((system config L D).step s e).2⟩ hother h
    rw [hheartbeat] at hlast
    obtain ⟨hready, hnext, hbefore⟩ := beating last hlast
    rw [htick]
    exact ⟨hunbeaten.orderEntryStatus.trans hready, hunbeaten.nextHeartbeat.trans hnext, hbefore⟩
  · cases e with
    | restConnected => simp [Beating, lastHeartbeat]
    | restDisconnected => simp [Beating, lastHeartbeat]
    | restTimer tick =>
      by_cases hsent : .heartbeat ∈ ((system config L D).step s (.restTimer tick)).2
      · exact beating_of_heartbeat hcancel hperiod hticking hsent
      · exact beating.skip hcancel hticking hsent
    | _ => simp [Event.isRestStream] at hother

/-- What is known since a heartbeat, in every run. -/
theorem beating_of_run (hcancel : config.cancelOnDisconnect = true) (hperiod : 0 < config.pingFreq)
    (run : Run (system config L D) Ticking h s) : Beating config h s := by
  refine run.invariant (P := Beating config) ?_ ?_
  · intro last hlast
    simp [lastHeartbeat] at hlast
  · intro h s e _ beating _ hticking
    exact beating.step hcancel hperiod hticking

/-- **The longest time between two heartbeats**: a third of the setting, and the time between
two ticks. -/
theorem interval_le {tick : Tick} {last : Nanoseconds} (hcancel : config.cancelOnDisconnect = true)
    (hperiod : 0 < config.pingFreq) (run : Run (system config L D) Ticking h s)
    (hticking : Ticking h s (.restTimer tick)) (hlast : lastHeartbeat h = some last) :
    tick.now - last ≤ config.pingFreq / 3 + seconds 1 := by
  obtain ⟨hready, -, t, htick, ht⟩ := beating_of_run hcancel hperiod run last hlast
  calc tick.now - last
      ≤ t + seconds 1 - last := Int.sub_le_sub_right ((hticking hready).2.2 t htick).2 last
    _ ≤ last + config.pingFreq / 3 + seconds 1 - last :=
        Int.sub_le_sub_right (Int.add_le_add_right ht (seconds 1)) last
    _ = config.pingFreq / 3 + seconds 1 := by rw [Int.add_assoc, add_sub_cancel_left]

/-! ## The longest time is reached -/

/-- A tick at which only the heartbeat can be sent. -/
def heartbeatTick (now : Nanoseconds) : Tick where
  refresh := true
  now := now
  acceptsHeartbeat := true
  accepts _ := false
  canRequest _ := false
  order := []
  findOrder _ := none

/-- After a heartbeat in a run in which there are no lost orders: when it was sent, when the next
one is due, and when the last tick was. -/
structure After (config : Config) (last tick : Nanoseconds) (h : History Event Action)
    (s : Session L D) : Prop where
  run : Run (system config L D) Ticking h s
  aborted : s.world.aborted = none
  detailsLostOrders : s.world.detailsLostOrders = ∅
  orderEntryStatus : s.world.orderEntryStatus = .ready
  nextHeartbeat : s.world.nextHeartbeat = last + config.pingFreq / 3
  lastHeartbeat : lastHeartbeat h = some last
  lastTick : lastTick h = some tick

/-- A tick can occur when there are no lost orders. -/
theorem enabled_heartbeatTick (haborted : s.world.aborted = none)
    (hdetails : s.world.detailsLostOrders = ∅) (now : Nanoseconds) :
    (system config L D).enabled s (.restTimer (heartbeatTick now)) :=
  ⟨haborted, List.nodup_nil, hdetails.symm⟩

/-- A tick leaves no lost orders behind when there were none. -/
theorem sends_heartbeatTick (config : Config) (hdetails : s.world.detailsLostOrders = ∅)
    (now : Nanoseconds) :
    ((system config L D).step s (.restTimer (heartbeatTick now))).1.world.aborted =
        s.world.aborted ∧
      ((system config L D).step s (.restTimer (heartbeatTick now))).1.world.detailsLostOrders =
        ∅ := by
  have hsends := sends_onTimer config (heartbeatTick now) (fresh s).world
  exact ⟨hsends.aborted, Finset.subset_empty.mp (hdetails ▸ hsends.detailsLostOrders)⟩

/-- There is a run with a heartbeat. -/
theorem exists_heartbeat (hcancel : config.cancelOnDisconnect = true) :
    ∃ h, ∃ s : Session L D, After config 1 1 h s := by
  let s₁ : Session L D := ((system config L D).step (system config L D).init .restConnected).1
  have hconnected : Ticking [] (system config L D).init .restConnected := trivial
  have run : Run (system config L D) Ticking
      [⟨.restConnected, [.publishOrderEntry .ready]⟩] s₁ :=
    Run.init.step ⟨rfl, trivial⟩ hconnected
  have hticking : Ticking [⟨.restConnected, [.publishOrderEntry .ready]⟩] s₁
      (.restTimer (heartbeatTick 1)) :=
    fun _ => ⟨rfl, rfl, fun t ht => by simp [Gateway.lastTick] at ht⟩
  have hdue : s₁.world.nextHeartbeat < (heartbeatTick 1).now := Int.zero_lt_one
  have hsent := (heartbeat_mem_step hcancel hticking rfl).mpr hdue
  have hbeat := beat_restTimer (D := D) hcancel hticking rfl
  rw [if_pos hdue] at hbeat
  obtain ⟨haborted, hdetails⟩ := sends_heartbeatTick config (s := s₁) rfl 1
  exact ⟨_, _,
    { run := run.step (enabled_heartbeatTick rfl rfl 1) hticking
      aborted := haborted
      detailsLostOrders := hdetails
      orderEntryStatus := hbeat.orderEntryStatus
      nextHeartbeat := hbeat.nextHeartbeat
      lastHeartbeat := if_pos hsent
      lastTick := rfl }⟩

/-- The next tick comes at most a second after the last one. -/
theorem After.ticking {last tick now : Nanoseconds} (after : After config last tick h s)
    (hbefore : tick ≤ now) (hgap : now ≤ tick + seconds 1) :
    Ticking h s (.restTimer (heartbeatTick now)) := by
  intro _
  refine ⟨rfl, rfl, fun t ht => ?_⟩
  rw [after.lastTick] at ht
  cases ht
  exact ⟨hbefore, hgap⟩

/-- A tick before the next heartbeat is due. -/
theorem After.skip {last tick now : Nanoseconds} (hcancel : config.cancelOnDisconnect = true)
    (after : After config last tick h s) (hbefore : tick ≤ now) (hgap : now ≤ tick + seconds 1)
    (hdue : now ≤ last + config.pingFreq / 3) :
    ∃ h', ∃ s' : Session L D, After config last now h' s' := by
  have hticking := after.ticking hbefore hgap
  have hnot : ¬ s.world.nextHeartbeat < (heartbeatTick now).now := by
    rw [after.nextHeartbeat]
    exact Int.not_lt.mpr hdue
  have hsent : .heartbeat ∉ ((system config L D).step s (.restTimer (heartbeatTick now))).2 :=
    fun h => hnot ((heartbeat_mem_step hcancel hticking after.orderEntryStatus).mp h)
  have hbeat := beat_restTimer (D := D) hcancel hticking after.orderEntryStatus
  rw [if_neg hnot] at hbeat
  obtain ⟨haborted, hdetails⟩ := sends_heartbeatTick config after.detailsLostOrders now
  exact ⟨_, _,
    { run := after.run.step (enabled_heartbeatTick after.aborted after.detailsLostOrders now)
        hticking
      aborted := haborted.trans after.aborted
      detailsLostOrders := hdetails
      orderEntryStatus := hbeat.orderEntryStatus.trans after.orderEntryStatus
      nextHeartbeat := hbeat.nextHeartbeat.trans after.nextHeartbeat
      lastHeartbeat := by simpa [Gateway.lastHeartbeat, hsent] using after.lastHeartbeat
      lastTick := rfl }⟩

/-- Ticks a second apart up to when the next heartbeat is due. -/
theorem After.skips {last tick : Nanoseconds} (hcancel : config.cancelOnDisconnect = true)
    (after : After config last tick h s) (k : ℕ)
    (hdue : tick + k * seconds 1 ≤ last + config.pingFreq / 3) :
    ∃ h', ∃ s' : Session L D, After config last (tick + k * seconds 1) h' s' := by
  have hsecond : (0 : ℤ) ≤ seconds 1 := by decide
  induction k with
  | zero => exact ⟨h, s, by simpa using after⟩
  | succ k ih =>
    have hstep : tick + ((k + 1 : ℕ) : ℤ) * seconds 1 = tick + k * seconds 1 + seconds 1 := by
      push_cast
      ring
    rw [hstep] at hdue ⊢
    obtain ⟨h', s', after'⟩ := ih (by linarith)
    exact after'.skip hcancel (by linarith) le_rfl hdue

/-- A time is a number of whole seconds and less than a second. -/
theorem exists_seconds {period : ℤ} (hperiod : 0 ≤ period) :
    ∃ rest, 0 ≤ rest ∧ rest < seconds 1 ∧ ∃ k : ℕ, rest + k * seconds 1 = period := by
  have hwhole : ((period / seconds 1).toNat : ℤ) = period / seconds 1 :=
    Int.toNat_of_nonneg (Int.ediv_nonneg hperiod (by decide))
  refine ⟨period % seconds 1, Int.emod_nonneg period (by decide),
    Int.emod_lt_of_pos period (by decide), (period / seconds 1).toNat, ?_⟩
  rw [hwhole, mul_comm]
  exact Int.emod_add_mul_ediv period (seconds 1)

/-- **The longest time between two heartbeats is reached**: when a tick comes just when the
heartbeat is due, only the next tick sends it. -/
theorem exists_interval_eq (hcancel : config.cancelOnDisconnect = true)
    (hperiod : 0 < config.pingFreq) :
    ∃ h, ∃ s : Session L D, ∃ tick last, Run (system config L D) Ticking h s ∧
      (system config L D).enabled s (.restTimer tick) ∧ Ticking h s (.restTimer tick) ∧
      .heartbeat ∈ ((system config L D).step s (.restTimer tick)).2 ∧
      lastHeartbeat h = some last ∧ tick.now - last = config.pingFreq / 3 + seconds 1 := by
  -- the first tick after the heartbeat takes what is left of a second, the others a second each
  set period : ℤ := config.pingFreq / 3 with hdef
  have hnonneg : 0 ≤ period := Int.ediv_nonneg hperiod.le (by decide)
  obtain ⟨rest, hrest, hless, k, hdiv⟩ := exists_seconds hnonneg
  have hmul : 0 ≤ (k : ℤ) * seconds 1 := Int.mul_nonneg k.cast_nonneg (by decide)
  have hsplit : 1 + rest + k * seconds 1 = 1 + period := by linarith
  obtain ⟨h₁, s₁, after₁⟩ := exists_heartbeat (L := L) (D := D) hcancel
  have hfirst : ∃ h, ∃ s : Session L D, After config 1 (1 + rest) h s :=
    after₁.skip hcancel (by linarith) (by linarith) (by linarith)
  obtain ⟨h₂, s₂, after₂⟩ := hfirst
  obtain ⟨h, s, after⟩ := after₂.skips hcancel k hsplit.le
  rw [hsplit] at after
  have hticking : Ticking h s (.restTimer (heartbeatTick (1 + period + seconds 1))) :=
    after.ticking (Int.le_add_of_nonneg_right (by decide)) le_rfl
  have hdue : s.world.nextHeartbeat < (heartbeatTick (1 + period + seconds 1)).now := by
    rw [after.nextHeartbeat]
    exact Int.lt_add_of_pos_right _ (by decide)
  refine ⟨h, s, _, 1, after.run, enabled_heartbeatTick after.aborted after.detailsLostOrders _,
    hticking, (heartbeat_mem_step hcancel hticking after.orderEntryStatus).mpr hdue,
    after.lastHeartbeat, ?_⟩
  show 1 + period + seconds 1 - 1 = period + seconds 1
  ring

/-! ## The settings for which the countdown never ends -/

/-- A third of the setting and a second are less than the countdown for settings below 177
seconds. -/
theorem interval_lt_countdown_iff (hperiod : 0 < config.pingFreq) :
    config.pingFreq / 3 + seconds 1 < seconds (countdown config) ↔
      config.pingFreq < seconds 177 := by
  have hseconds : toSeconds config.pingFreq = config.pingFreq / 1000000000 :=
    Int.tdiv_eq_ediv_of_nonneg hperiod.le
  have hclamped : ∀ p : ℤ, 0 < p →
      (p / 3 + 1 * 1000000000 < min (max (p / 1000000000) 5) 60 * 1000000000 ↔
        p < 177 * 1000000000) := by
    intro p hp
    omega
  rw [countdown, hseconds]
  exact hclamped config.pingFreq hperiod

end Interval

/-- **The countdown never ends** while the stream is ready, however the ticks come, exactly for
settings below 177 seconds: from three minutes on a third of the setting alone is longer than
the longest countdown. The countdown is the one that the body of every message carries, whatever
the buffer contained. -/
theorem refreshedInTime_iff {config : Config} (L : LimitRequest) (D : Download2 State (World L))
    (hcancel : config.cancelOnDisconnect = true) (hperiod : 0 < config.pingFreq) :
    (RefreshedInTime config L D ↔ config.pingFreq < seconds 177) ∧
      ∀ encodeBuffer, Encoder.Writes (countdownBody config encodeBuffer)
        [JsonText.member "countdown" (toString (countdown config))] := by
  refine ⟨?_, countdownBody_writes config⟩
  rw [← interval_lt_countdown_iff hperiod]
  constructor
  · intro hintime
    obtain ⟨h, s, tick, last, run, henabled, hticking, hsent, hlast, heq⟩ :=
      exists_interval_eq (L := L) (D := D) hcancel hperiod
    rw [← heq]
    exact hintime h s tick last run henabled hticking hsent hlast
  · intro hless h s tick last run _ hticking _ hlast
    exact (interval_le hcancel hperiod run hticking hlast).trans_lt hless

/-- The dead-man switch is on, with the given `ping_freq`. -/
def heartbeatConfig (pingFreq : Nanoseconds) : Config :=
  { simpleConfig with cancelOnDisconnect := true, pingFreq }

/-- The default of five seconds is safe. -/
theorem default_refreshedInTime :
    RefreshedInTime (heartbeatConfig (seconds 5)) flags sequencer :=
  (refreshedInTime_iff flags sequencer rfl (by decide)).1.mpr (by decide)

/-- With five minutes there can be 101 seconds between two messages, and the countdown is 60
seconds. -/
theorem fiveMinutes_late :
    ¬ ∀ pingFreq, 0 < pingFreq →
      RefreshedInTime (heartbeatConfig pingFreq) flags sequencer := by
  intro hclaim
  have hperiod : 0 < (heartbeatConfig (seconds 300)).pingFreq := by decide
  obtain ⟨h, s, tick, last, run, henabled, hticking, hsent, hlast, heq⟩ :=
    exists_interval_eq (L := flags) (D := sequencer) rfl hperiod
  have hless := hclaim (seconds 300) hperiod h s tick last run henabled hticking hsent hlast
  rw [heq] at hless
  exact absurd hless (by decide)

end RoqBitget.Gateway
