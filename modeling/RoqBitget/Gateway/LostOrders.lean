import RoqBitget.Gateway.Session

set_option relaxedAutoImplicit false
set_option autoImplicit false

/-!
# Accounting for lost orders

The REST stream counts the requests for order details that it has sent, and uncounts one with
every answer. The count has to survive a batch that the connection interrupts, batches that
overlap, and answers that come in any order: an answer with a count of zero ends the process.

A commit of the slot does not say which batch it answers, so the answer to an earlier batch can
be taken for that of a later one that has not been sent yet.

## Main definitions

* `RoqBitget.Gateway.Accounted` — the accounting of the lost orders in a world.
* `RoqBitget.Gateway.AnsweredAfterSending` — no batch is answered before it is sent.

## Main results

* `RoqBitget.Gateway.accounted_onResponse` — what an answer does to the count.
* `RoqBitget.Gateway.lostOrders_accounted` — in every run the count is at least the number of
  requests in flight, the process does not end at the count, and the slot of the lost orders is
  committed only when no request is in flight.
* `RoqBitget.Gateway.aborts_of_not_answeredAfterSending` — the process can end if a batch is
  answered before it is sent.
* `RoqBitget.Gateway.lostOrders_not_aborted` — otherwise it does not end over lost orders that are
  left.
-/

namespace RoqBitget.Gateway

open RoqBitget.Core Runs DropCopy OrderEntry

variable {L : LimitRequest} {D : Download2 State (World L)}

/-- The accounting of the lost orders in a world: the count covers the requests in flight, the
process did not end at the count, and a commit during the current reaction was made when no
request was in flight. -/
structure Accounted (w : World L) : Prop where
  covered : orderDetailsInFlight w ≤ w.downloadLostOrdersCounter
  notAborted : w.aborted ≠ some .lostOrdersCounter
  committed : .commit .lostOrders ∈ w.actions → orderDetailsInFlight w = 0

/-! ## An answer -/

/-- Uncounting an answer, when one more request is counted than in flight. -/
theorem accounted_countOrderDetails {w : World L}
    (hcovered : orderDetailsInFlight w + 1 ≤ w.downloadLostOrdersCounter)
    (haborted : w.aborted ≠ some .lostOrdersCounter)
    (hactions : .commit .lostOrders ∉ w.actions) : Accounted (countOrderDetails w) := by
  rcases countOrderDetails_cases w with ⟨hzero, -⟩ | ⟨hlast, heq⟩ | ⟨-, heq⟩
  · omega
  · have hnone : orderDetailsInFlight w = 0 := by omega
    rw [heq]
    exact ⟨hnone.le, haborted, fun _ => hnone⟩
  · rw [heq]
    refine ⟨?_, haborted, fun h => absurd h hactions⟩
    show orderDetailsInFlight w ≤ w.downloadLostOrdersCounter - 1
    omega

/-- The handlers of an answer keep the accounting if what follows them does. -/
theorem accounted_finish {w : World L} {endpoint : Endpoint} {outcome : Outcome}
    {next : World L → World L} (hw : Accounted w)
    (houtcome : outcome ≠ .fatal .lostOrdersCounter) (hactions : .commit .lostOrders ∉ w.actions)
    (hnext : ∀ v : World L, v.inFlight = w.inFlight →
      v.downloadLostOrdersCounter = w.downloadLostOrdersCounter → v.aborted = w.aborted →
      .commit .lostOrders ∉ v.actions → Accounted (next v)) :
    Accounted (finish endpoint outcome next w) := by
  cases outcome with
  | dispatched => exact hnext _ rfl rfl rfl (by simp [World.act, hactions])
  | failed failure => exact hnext _ rfl rfl rfl (by simp [World.act, hactions])
  | ignored => exact hnext w rfl rfl rfl hactions
  | fatal fatal =>
    exact ⟨hw.covered, fun h => houtcome (by rw [Option.some.inj h]), hw.committed⟩

/-- An answer that is not about order details keeps the accounting. -/
theorem accounted_acknowledge (config : Config) {endpoint : Endpoint} (response : Response)
    {w : World L} (hw : Accounted w) (hslot : endpoint.slot ≠ .lostOrders)
    (hactions : .commit .lostOrders ∉ w.actions) :
    Accounted (acknowledge config endpoint response w) := by
  refine accounted_finish hw ?_ hactions ?_
  · intro h
    rcases processResponse_fatal h with hfatal | ⟨body, hfatal⟩
    · simp at hfatal
    · exact handleSuccess_ne_fatal config endpoint body _ hfatal
  · intro v hinFlight hcounter haborted hv
    have hcovered : orderDetailsInFlight v ≤ v.downloadLostOrdersCounter := by
      rw [orderDetailsInFlight, hinFlight, hcounter]
      exact hw.covered
    refine ⟨hcovered, haborted.trans_ne hw.notAborted, fun h => ?_⟩
    rcases List.mem_append.mp h with h | h
    · exact absurd h hv
    · exact absurd (Action.commit.inj (List.mem_singleton.mp h)).symm hslot

/-- An answer about order details keeps the accounting, if its request is still counted. -/
theorem accounted_getOrderDetailsAck (config : Config) (clientOrderId : String)
    (response : Response) {w : World L}
    (hcovered : orderDetailsInFlight w + 1 ≤ w.downloadLostOrdersCounter)
    (haborted : w.aborted ≠ some .lostOrdersCounter)
    (hactions : .commit .lostOrders ∉ w.actions) :
    Accounted (getOrderDetailsAck config clientOrderId response w) := by
  have hw : Accounted w := ⟨by omega, haborted, fun h => absurd h hactions⟩
  unfold getOrderDetailsAck
  cases houtcome : orderDetailsOutcome config clientOrderId response with
  | error e => exact hw
  | ok outcome =>
    refine accounted_finish hw (fun hfatal => ?_) hactions ?_
    · rw [hfatal] at houtcome
      rcases orderDetailsOutcome_fatal houtcome with h | h <;> simp at h
    intro v hinFlight hcounter hab hv
    refine accounted_countOrderDetails ?_ (hab.trans_ne haborted) hv
    rw [orderDetailsInFlight, hinFlight, hcounter]
    exact hcovered

/-- **An answer keeps the accounting**, whatever request it answers. -/
theorem accounted_onResponse (config : Config) (sent : Sent) (response : Response)
    {w : World L} (hw : Accounted w) (hsent : sent ∈ w.inFlight)
    (hactions : .commit .lostOrders ∉ w.actions) :
    Accounted (onResponse config sent response w) := by
  have hcount := List.countP_erase isOrderDetails w.inFlight sent
  have hcovered := hw.covered
  unfold orderDetailsInFlight at hcovered
  -- the answered request is no longer in flight when its callback runs
  rcases onResponse_cases config sent response w with ⟨clientOrderId, hendpoint, heq⟩ | ⟨hslot, heq⟩
  · rw [heq]
    refine accounted_getOrderDetailsAck config clientOrderId response ?_ hw.notAborted hactions
    show (w.inFlight.erase sent).countP isOrderDetails + 1 ≤ w.downloadLostOrdersCounter
    have hdetails : isOrderDetails sent = true := by rw [isOrderDetails, hendpoint]
    have hpos : 0 < w.inFlight.countP isOrderDetails :=
      List.countP_pos_iff.mpr ⟨sent, hsent, hdetails⟩
    rw [hcount, if_pos ⟨hsent, hdetails⟩]
    omega
  · rw [heq]
    refine accounted_acknowledge config response ⟨?_, hw.notAborted, fun h => absurd h hactions⟩
      hslot hactions
    show (w.inFlight.erase sent).countP isOrderDetails ≤ w.downloadLostOrdersCounter
    rw [hcount]
    omega

/-! ## The other events -/

/-- A tick of the REST stream keeps the accounting, wherever the connection throws. -/
theorem Accounted.sends {w w' : World L} (hw : Accounted w) (h : Sends w w')
    (hactions : .commit .lostOrders ∉ w.actions) : Accounted w' := by
  have hcounted := h.counted
  have hcovered := hw.covered
  refine ⟨by omega, h.aborted.trans_ne hw.notAborted, fun hmem => ?_⟩
  rcases h.actions.mem hmem with hmem | h | ⟨sent, h⟩
  · exact absurd hmem hactions
  all_goals simp at h

/-- The websocket stream keeps the accounting. -/
theorem Accounted.decides {config : Config} {w w' : World L} (hw : Accounted w)
    (h : Decides config w w') (hactions : .commit .lostOrders ∉ w.actions) : Accounted w' := by
  refine ⟨?_, ?_, fun hmem => ?_⟩
  · rw [orderDetailsInFlight, h.inFlight, h.downloadLostOrdersCounter]
    exact hw.covered
  · rcases h.aborted with heq | heq | ⟨-, heq⟩
    · exact heq.trans_ne hw.notAborted
    · simp [heq]
    · simp [heq]
  · rcases h.actions.mem hmem with hmem | hkept
    · exact absurd hmem hactions
    · exact absurd rfl (hkept.2 .lostOrders)

/-- **Step lemma.** Every reaction keeps the accounting. -/
theorem accounted_react (config : Config) {s : Session L D} {e : Event} (he : enabled s e)
    (hs : Accounted s.world) : Accounted (react config (fresh s) e).world := by
  have hfresh : Accounted (fresh s).world := ⟨hs.covered, hs.notAborted, by simp [fresh]⟩
  have hactions : .commit .lostOrders ∉ (fresh s).world.actions := by simp [fresh]
  cases e with
  | login code => exact hfresh.decides ((respects_decides config).onLogin code _) hactions
  | subscribed topic code =>
    exact hfresh.decides ((respects_decides config).onSubscribe topic code _) hactions
  | disconnected => exact hfresh.decides ((respects_decides config).publish _ _ _) hactions
  | timer refresh now stale =>
    exact hfresh.decides ((respects_decides config).onTimer refresh now stale _) hactions
  | restConnected =>
    exact ⟨hs.covered, hs.notAborted, fun h => by simp [react, fresh, OrderEntry.onConnected,
      OrderEntry.onConnectionStatus, World.act] at h⟩
  | restDisconnected =>
    exact ⟨hs.covered, hs.notAborted, fun h => by simp [react, fresh, OrderEntry.onDisconnected,
      OrderEntry.onConnectionStatus, World.act] at h⟩
  | restTimer tick => exact hfresh.sends (sends_onTimer config tick _) hactions
  | response sent response =>
    exact accounted_onResponse config sent response hfresh he.2 hactions

/-- **Run lemma.** The lost orders are accounted for after every run. -/
theorem accounted_of_run (config : Config)
    {ok : History Event Action → Session L D → Event → Prop} {h : History Event Action}
    {s : Session L D} (run : Run (system config L D) ok h s) : Accounted s.world := by
  refine run.invariant (P := fun _ s => Accounted s.world) ?_ ?_
  · exact ⟨le_rfl, by simp [system, World.initial], by simp [system, World.initial]⟩
  · intro h s e _ ih henabled _
    exact accounted_react config henabled ih

/-- **The lost orders are accounted for.** After every run of the two streams the count is at
least the number of requests for order details in flight, the process has not ended because an
answer came with a count of zero, and if the latest reaction committed the slot of the lost
orders, then no such request is in flight. -/
theorem lostOrders_accounted (config : Config) {h : History Event Action} {s : Session L D}
    (run : Run (system config L D) anyStep h s) :
    orderDetailsInFlight s.world ≤ s.world.downloadLostOrdersCounter ∧
      s.world.aborted ≠ some .lostOrdersCounter ∧
      ∀ entry, h.head? = some entry → .commit .lostOrders ∈ entry.actions →
        orderDetailsInFlight s.world = 0 := by
  have haccounted := accounted_of_run config run
  refine ⟨haccounted.covered, haccounted.notAborted, fun entry hentry hcommit => ?_⟩
  cases run with
  | init => simp at hentry
  | step =>
    obtain rfl := Option.some.inj hentry
    exact haccounted.committed hcommit

/-- Two lost orders, of which the connection accepts one, and the answer to it. -/
def interruptedBatch : List Event :=
  .restConnected :: openingEvents 0 ++ [tick [⟨1, 1001⟩, ⟨1, 1002⟩],
    sendBelow 5 [⟨1, 1001⟩, ⟨1, 1002⟩], .response ⟨4, .orderDetails "oAAB"⟩ (answer "missing")]

/-- The batch that was interrupted is accounted for. -/
theorem interruptedBatch_accounted :
    orderDetailsInFlight (play simpleSystem interruptedBatch).2.world ≤
        (play simpleSystem interruptedBatch).2.world.downloadLostOrdersCounter ∧
      (play simpleSystem interruptedBatch).2.world.aborted ≠ some .lostOrdersCounter ∧
      ∀ entry, (play simpleSystem interruptedBatch).1.head? = some entry →
        .commit .lostOrders ∈ entry.actions →
          orderDetailsInFlight (play simpleSystem interruptedBatch).2.world = 0 :=
  lostOrders_accounted simpleConfig (Run.play (by decide +kernel))

/-! ## The lost orders and the download -/

/-- The outcomes after which an answer on order details is counted. -/
def isCounted : Except Exception Outcome → Bool
  | .ok (.fatal _) => false
  | .ok _ => true
  | .error _ => false

/-- The answer to a request for order details is processed to its end, where it is counted. -/
def counted (config : Config) (sent : Sent) (response : Response) : Bool :=
  match sent.endpoint with
  | .orderDetails clientOrderId =>
    isCounted (orderDetailsOutcome config clientOrderId response)
  | _ => false

/-- No answer takes the count to zero while the download waits for the lost orders and some of
them have not been requested yet. -/
def AnsweredAfterSending (config : Config) (_ : History Event Action) (s : Session L D) :
    Event → Prop
  | .response sent response =>
    counted config sent response = true → s.world.downloadLostOrdersCounter = 1 →
      s.state = .getLostOrders → s.world.detailsLostOrders = ∅
  | _ => True

instance (config : Config) (h : History Event Action) (s : Session L D) :
    (e : Event) → Decidable (AnsweredAfterSending config h s e)
  | .response sent response =>
    inferInstanceAs (Decidable (counted config sent response = true → _ = 1 →
      _ = State.getLostOrders → _ = ∅))
  | .login _ | .subscribed _ _ | .disconnected | .timer _ _ _ | .restConnected
  | .restDisconnected | .restTimer _ => isTrue trivial

/-- Counting an answer responds for the lost orders only if it is the last one. -/
theorem hasResponse_countOrderDetails {w : World L}
    (h : (countOrderDetails w).hasResponse .lostOrders = true) :
    w.hasResponse .lostOrders = true ∨ w.downloadLostOrdersCounter = 1 := by
  rcases countOrderDetails_cases w with ⟨-, heq⟩ | ⟨hlast, -⟩ | ⟨-, heq⟩
  · rw [heq] at h
    exact .inl h
  · exact .inr hlast
  · rw [heq] at h
    exact .inl h

/-- An answer on order details responds for the lost orders only if it is counted, and is the
last one. -/
theorem counted_of_getOrderDetailsAck {config : Config} {clientOrderId : String}
    {response : Response} {w : World L} (hbefore : w.hasResponse .lostOrders = false)
    (hafter : (getOrderDetailsAck config clientOrderId response w).hasResponse .lostOrders =
      true) :
    isCounted (orderDetailsOutcome config clientOrderId response) = true ∧
      w.downloadLostOrdersCounter = 1 := by
  have hlast : ∀ v : World L, v.hasResponse .lostOrders = w.hasResponse .lostOrders →
      v.downloadLostOrdersCounter = w.downloadLostOrdersCounter →
      (countOrderDetails v).hasResponse .lostOrders = true → w.downloadLostOrdersCounter = 1 := by
    intro v hv hcounter h
    rcases hasResponse_countOrderDetails h with h | h
    · rw [hv, hbefore] at h
      simp at h
    · exact hcounter.symm.trans h
  unfold getOrderDetailsAck at hafter
  cases houtcome : orderDetailsOutcome config clientOrderId response with
  | error e =>
    rw [houtcome] at hafter
    exact absurd (hbefore.symm.trans hafter) (by simp)
  | ok outcome =>
    rw [houtcome] at hafter
    cases outcome with
    | dispatched => exact ⟨rfl, hlast (w.act _) rfl rfl hafter⟩
    | failed failure => exact ⟨rfl, hlast (w.act _) rfl rfl hafter⟩
    | ignored => exact ⟨rfl, hlast w rfl rfl hafter⟩
    | fatal fatal => exact absurd (hbefore.symm.trans hafter) (by simp)

/-- An answer responds for the lost orders only if it is counted, and is the last one. -/
theorem counted_of_hasResponse {config : Config} {sent : Sent} {response : Response}
    {w : World L} (hbefore : w.hasResponse .lostOrders = false)
    (hafter : (onResponse config sent response w).hasResponse .lostOrders = true) :
    counted config sent response = true ∧ w.downloadLostOrdersCounter = 1 := by
  by_cases hslot : sent.endpoint.slot = .lostOrders
  · obtain ⟨id, endpoint⟩ := sent
    cases endpoint with
    | orderDetails clientOrderId =>
      exact counted_of_getOrderDetailsAck
        (w := { w with inFlight := w.inFlight.erase ⟨id, .orderDetails clientOrderId⟩ })
        hbefore hafter
    | _ => simp [Endpoint.slot] at hslot
  · have hsame := (answers_onResponse config sent response w).hasResponse .lostOrders
      fun h => hslot h.symm
    simp [hsame, hbefore] at hafter

/-- While the download waits for the lost orders, a response means that none are left. -/
def NoneLeft (s : Session L D) : Prop :=
  s.state = .getLostOrders → s.world.hasResponse .lostOrders = true →
    s.world.detailsLostOrders = ∅

/-- **Step lemma.** A master that reacts to answers in time has no lost orders left when it sees
a response for them, and does not abort. -/
theorem noneLeft_react {config : Config} (hmaster : config.master = true) {s : Session L D}
    {e : Event} (hnone : NoneLeft s) (haborted : s.world.aborted = none)
    (hstatus : s.state.waits = true → s.world.connectionStatus = .downloading)
    (hguard : AnsweredAfterSending config [] s e) :
    (react config s e).world.aborted ≠ some .lostOrdersNotEmpty ∧
      ((react config s e).world.aborted = none → NoneLeft (react config s e)) := by
  cases move_react hmaster e with
  | aborted fatal hfatal _ _ hlost =>
    refine ⟨fun h => ?_, fun h => absurd (hfatal.symm.trans h) (by simp)⟩
    obtain ⟨hstate, hresponse, hdetails⟩ := hlost (Option.some.inj (hfatal.symm.trans h))
    exact hdetails (hnone hstate hresponse)
  | began _ hstate henters =>
    refine ⟨?_, fun _ h => by simp [hstate] at h⟩
    rw [henters.aborted, haborted]
    simp
  | reset he hstate =>
    subst he
    have hkept : (react config s .disconnected).world.aborted = s.world.aborted := rfl
    exact ⟨by simp [hkept, haborted], fun _ h => by simp [hstate] at h⟩
  | completed next' w _ hw _ _ hstate henters =>
    refine ⟨?_, fun _ h hresponse => ?_⟩
    · rw [henters.aborted, hw.aborted, haborted]
      simp
    -- the request for the lost orders has just been made
    have hslot : next'.slot = some .lostOrders := by rw [← hstate, h]; rfl
    rw [henters.hasResponse, if_pos hslot] at hresponse
    simp at hresponse
  | finished w _ hw _ hstate hregular =>
    refine ⟨?_, fun _ h => ?_⟩
    · rw [hregular.aborted]
      exact hw.aborted.trans_ne (by simp [haborted])
    · simp [h, State.waits, State.slot] at hstate
  | regular _ hready hstate hregular =>
    refine ⟨?_, fun _ h _ => ?_⟩
    · rw [hregular.aborted, haborted]
      simp
    have hwaits : s.state.waits = true := by rw [← hstate, h]; rfl
    simp [hstatus hwaits] at hready
  | quiet _ hstate _ haborted' _ hdetails hresponse =>
    refine ⟨?_, fun _ h hafter => ?_⟩
    · rw [haborted', haborted]
      simp
    have hwaiting : s.state = .getLostOrders := hstate.symm.trans h
    have hnoneBefore : s.world.detailsLostOrders = ∅ := by
      by_cases hbefore : s.world.hasResponse .lostOrders = true
      · exact hnone hwaiting hbefore
      · rcases hresponse .lostOrders with hsame | ⟨sent, response, rfl, -⟩
        · exact absurd (hsame.symm.trans hafter) hbefore
        · obtain ⟨hcounted, hlast⟩ := counted_of_hasResponse (by simpa using hbefore) hafter
          exact hguard hcounted hlast hwaiting
    exact Finset.subset_empty.mp (hnoneBefore ▸ hdetails)

/-- A stream that is not a master never looks at the lost orders. -/
theorem aborted_react_of_secondary {config : Config} (hmaster : config.master = false)
    (s : Session L D) {e : Event} (haborted : s.world.aborted = none) :
    (react config s e).world.aborted ≠ some .lostOrdersNotEmpty := by
  have hdecides : ∀ w : World L, Decides config s.world w →
      w.aborted ≠ some .lostOrdersNotEmpty := by
    intro w hw
    rcases hw.aborted with h | h | ⟨h, -⟩
    · simp [h, haborted]
    · simp [h]
    · simp [hmaster] at h
  cases e with
  | login code => exact hdecides _ ((respects_decides config).onLogin code s)
  | subscribed topic code => exact hdecides _ ((respects_decides config).onSubscribe topic code s)
  | disconnected => exact hdecides _ ((respects_decides config).publish _ _ s.world)
  | timer refresh now stale =>
    exact hdecides _ ((respects_decides config).onTimer refresh now stale s)
  | restConnected => simp [react, OrderEntry.onConnected, OrderEntry.onConnectionStatus, World.act,
      haborted]
  | restDisconnected => simp [react, OrderEntry.onDisconnected, OrderEntry.onConnectionStatus,
      World.act, haborted]
  | restTimer tick => simp [react, (sends_onTimer config tick s.world).aborted, haborted]
  | response sent response =>
    have h := (answers_onResponse config sent response s.world).aborted
    simp only [react]
    rcases h with h | h | h | h <;> simp [h, haborted]

/-- The answer that takes the count to zero is committed. -/
theorem commits_of_last {config : Config} {clientOrderId : String} {response : Response}
    {w : World L}
    (hcounted : isCounted (orderDetailsOutcome config clientOrderId response) = true)
    (hlast : w.downloadLostOrdersCounter = 1) :
    ∃ v : World L, getOrderDetailsAck config clientOrderId response w = commit .lostOrders v ∧
      v.detailsLostOrders = w.detailsLostOrders := by
  have hcount : ∀ v : World L, v.downloadLostOrdersCounter = 1 →
      countOrderDetails v = commit .lostOrders { v with downloadLostOrdersCounter := 0 } := by
    intro v hv
    simp [countOrderDetails, hv]
  unfold getOrderDetailsAck
  cases houtcome : orderDetailsOutcome config clientOrderId response with
  | error e => simp [houtcome, isCounted] at hcounted
  | ok outcome =>
    cases outcome with
    | dispatched => exact ⟨_, hcount (w.act _) hlast, rfl⟩
    | failed failure => exact ⟨_, hcount (w.act _) hlast, rfl⟩
    | ignored => exact ⟨_, hcount w hlast, rfl⟩
    | fatal fatal => simp [houtcome, isCounted] at hcounted

/-- A tick that finds a response while lost orders are left ends the process. -/
theorem aborts_onTimer {config : Config} (hmaster : config.master = true) {s : Session L D}
    (hstate : s.state = .getLostOrders) (hresponse : s.world.hasResponse .lostOrders = true)
    (hdetails : s.world.detailsLostOrders ≠ ∅) (now : Nanoseconds) (stale : List OrderKey) :
    (onTimer config true now stale s).world.aborted = some .lostOrdersNotEmpty := by
  have hqueue : checkRequestQueue config stale s =
      { s with world := s.world.abort .lostOrdersNotEmpty } := by
    rw [checkRequestQueue_eq, hstate]
    simp [State.slot, hresponse, hdetails]
  simp [DropCopy.onTimer, hmaster, hqueue, World.abort]

/-- **The condition is needed.** An answer that takes the count to zero while the download waits
for the lost orders and some of them have not been requested yet is followed by an abort, if the
websocket stream has its tick before the REST stream. -/
theorem aborts_of_not_answeredAfterSending {config : Config} (hmaster : config.master = true)
    {s : Session L D} {sent : Sent} {response : Response}
    (hviolated : ¬ AnsweredAfterSending config [] s (.response sent response))
    (now : Nanoseconds) (stale : List OrderKey) :
    (react config (react config s (.response sent response)) (.timer true now stale)).world.aborted
      = some .lostOrdersNotEmpty := by
  simp only [AnsweredAfterSending, not_forall] at hviolated
  obtain ⟨hcounted, hlast, hstate, hdetails⟩ := hviolated
  obtain ⟨id, endpoint⟩ := sent
  cases endpoint with
  | orderDetails clientOrderId =>
    obtain ⟨v, hcommit, hkept⟩ := commits_of_last
      (w := { s.world with inFlight := s.world.inFlight.erase ⟨id, .orderDetails clientOrderId⟩ })
      hcounted hlast
    have hworld : (react config s (.response ⟨id, .orderDetails clientOrderId⟩ response)).world =
        commit .lostOrders v := hcommit
    refine aborts_onTimer
      (s := react config s (.response ⟨id, .orderDetails clientOrderId⟩ response))
      hmaster hstate ?_ ?_ now stale
    · rw [hworld]
      simp [commit, World.hasResponse, World.act, World.updateSlot, L.hasResponse_commit]
    · rw [hworld]
      exact fun h => hdetails (hkept.symm.trans h)
  | _ => simp [counted] at hcounted

/-- **Run lemma.** The process does not end over lost orders that are left. -/
theorem aborted_ne_of_run (config : Config) {h : History Event Action} {s : Session L D}
    (run : Run (system config L D) (AnsweredAfterSending config) h s) :
    s.world.aborted ≠ some .lostOrdersNotEmpty := by
  cases hmaster : config.master with
  | false =>
    refine run.invariant (P := fun _ s => s.world.aborted ≠ some .lostOrdersNotEmpty)
      (by simp [system, World.initial]) ?_
    intro h s e _ _ henabled _
    exact aborted_react_of_secondary hmaster (fresh s) henabled.1
  | true =>
    refine (run.invariant (P := fun _ s => s.world.aborted ≠ some .lostOrdersNotEmpty ∧
      (s.world.aborted = none → NoneLeft s)) ?_ ?_).1
    · exact ⟨by simp [system, World.initial], fun _ h => by simp at h⟩
    · intro h s e run ih henabled hguard
      have hstatus := downloading_of_run hmaster run henabled.1
      exact noneLeft_react hmaster (s := fresh s) (ih.2 henabled.1) henabled.1 hstatus hguard

/-- **The gateway does not abort over its lost orders**, if no answer takes the count to zero
while the download waits for the lost orders and some of them have not been requested yet. Such an
answer to a master is followed by an abort, if the websocket stream has its tick next. -/
theorem lostOrders_not_aborted (config : Config) {h : History Event Action} {s : Session L D}
    (run : Run (system config L D) (AnsweredAfterSending config) h s) :
    s.world.aborted ≠ some .lostOrdersNotEmpty ∧
      ∀ sent response, config.master = true →
        ¬ AnsweredAfterSending config h s (.response sent response) → ∀ now stale,
          (react config (react config s (.response sent response))
            (.timer true now stale)).world.aborted = some .lostOrdersNotEmpty :=
  ⟨aborted_ne_of_run config run, fun _ _ hmaster hviolated now stale =>
    aborts_of_not_answeredAfterSending hmaster hviolated now stale⟩

/-- The websocket is reconnected while an order of the first session is being looked up. Its
answer arrives when the second session has found another lost order and not requested it yet. -/
def lateAnswer : List Event :=
  .restConnected :: openingEvents 0 ++ [tick [⟨1, 1001⟩], sendBelow 100 [⟨1, 1001⟩],
    .disconnected] ++ openingEvents 5 ++ [tick [⟨1, 1002⟩],
    .response ⟨4, .orderDetails "oAAB"⟩ (answer "missing"), tick []]

/-- The events of `lateAnswer` can happen, and they end the process. -/
theorem lateAnswer_aborts :
    ∃ h, ∃ s : Session flags sequencer, Run simpleSystem anyStep h s ∧
      s.world.aborted = some .lostOrdersNotEmpty :=
  ⟨(play simpleSystem lateAnswer).1, (play simpleSystem lateAnswer).2,
    Run.play (by decide +kernel), by decide +kernel⟩

/-- A download whose lost order is answered after it was requested. -/
def answerInTime : List Event :=
  .restConnected :: openingEvents 0 ++ [tick [⟨1, 1001⟩], sendBelow 100 [⟨1, 1001⟩],
    .response ⟨4, .orderDetails "oAAB"⟩ (answer "missing"), tick []]

/-- It does not end the process. -/
theorem answerInTime_not_aborted :
    (play simpleSystem answerInTime).2.world.aborted ≠ some .lostOrdersNotEmpty :=
  (lostOrders_not_aborted simpleConfig (Run.play (by decide +kernel))).1

end RoqBitget.Gateway
