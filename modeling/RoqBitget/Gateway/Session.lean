import Mathlib.Data.Finset.Dedup
import RoqBitget.Foundations.Runs
import RoqBitget.Gateway.DropCopy
import RoqBitget.Gateway.OrderEntry

set_option relaxedAutoImplicit false
set_option autoImplicit false

/-!
# The two streams together

The websocket stream and the REST stream of one account as one reactive system: any message,
timer tick, answer, disconnect or reconnect of either stream may come at any time. Requests
that are in flight survive a disconnect of the websocket, and are answered in any order.

## Main definitions

* `RoqBitget.Gateway.Event`, `RoqBitget.Gateway.system` — the events and the system.
* `RoqBitget.Gateway.Move` — the moves that a reaction can make in the download.
* `RoqBitget.Gateway.isLogin`, `requests`, … — the entries that later results refer to.

## Main results

* `RoqBitget.Gateway.move_react` — every reaction makes one of these moves.
* `RoqBitget.Gateway.invariant_of_moves` — what every move keeps holds after every run.

## Implementation notes

Messages and handlers that touch neither the download nor the slots are left out: they could
only be inserted into a run without any effect.
-/

namespace RoqBitget.Gateway

open RoqBitget.Core Runs DropCopy

/-- What can happen to the two streams of an account. -/
inductive Event
  /-- The websocket stream receives `Login`. -/
  | login (code : ℤ)
  /-- The websocket stream receives `Subscribe`. -/
  | subscribed (topic : Topic) (code : ℤ)
  /-- The websocket is disconnected. -/
  | disconnected
  /-- A timer tick of the websocket stream. -/
  | timer (refresh : Bool) (now : Nanoseconds) (stale : List OrderKey)
  /-- The REST connection is ready. -/
  | restConnected
  /-- The REST connection is lost. -/
  | restDisconnected
  /-- A timer tick of the REST stream. -/
  | restTimer (tick : OrderEntry.Tick)
  /-- The REST stream is called back with the answer to a request. -/
  | response (sent : Sent) (response : Response)

/-- Whether an event begins or ends a websocket session. -/
def Event.isBoundary : Event → Bool
  | .login _ | .disconnected => true
  | _ => false

variable {L : LimitRequest} {D : Download2 State (World L)}

/-- The reaction to an event. -/
def react (config : Config) (s : Session L D) : Event → Session L D
  | .login code => onLogin config code s
  | .subscribed topic code => onSubscribe config topic code s
  | .disconnected => onDisconnected s
  | .timer refresh now stale => onTimer config refresh now stale s
  | .restConnected => { s with world := OrderEntry.onConnected s.world }
  | .restDisconnected => { s with world := OrderEntry.onDisconnected s.world }
  | .restTimer tick => { s with world := OrderEntry.onTimer config tick s.world }
  | .response sent response =>
    { s with world := OrderEntry.onResponse config sent response s.world }

/-- Whether an event belongs to the websocket stream. -/
def Event.isWebsocket : Event → Bool
  | .login _ | .subscribed _ _ | .disconnected | .timer _ _ _ => true
  | _ => false

/-- A relation that holds across everything the websocket stream consists of holds across its
reactions. -/
theorem DropCopy.Respects.react {config : Config} {R : World L → World L → Prop}
    (h : Respects config R) (s : Session L D) (e : Event) (he : e.isWebsocket = true) :
    R s.world (Gateway.react config s e).world := by
  cases e with
  | login code => exact h.onLogin code s
  | subscribed topic code => exact h.onSubscribe topic code s
  | disconnected => exact h.publish _ _ s.world
  | timer refresh now stale => exact h.onTimer refresh now stale s
  | _ => simp [Event.isWebsocket] at he

/-- Nothing happens after `log::fatal`. A tick iterates over the lost orders, each once, and
only requests in flight are answered. -/
def enabled (s : Session L D) (e : Event) : Prop :=
  s.world.aborted = none ∧
    match e with
    | .restTimer tick =>
      tick.order.Nodup ∧ tick.order.toFinset = s.world.detailsLostOrders
    | .response sent _ => sent ∈ s.world.inFlight
    | _ => True

instance (s : Session L D) : (e : Event) → Decidable (enabled s e)
  | .login _ | .subscribed _ _ | .disconnected | .timer _ _ _ | .restConnected
  | .restDisconnected => inferInstanceAs (Decidable (_ ∧ True))
  | .restTimer tick => inferInstanceAs (Decidable (_ ∧ tick.order.Nodup ∧ _ = _))
  | .response sent _ => inferInstanceAs (Decidable (_ ∧ sent ∈ s.world.inFlight))

/-- A session that has not reacted to anything yet. -/
def fresh (s : Session L D) : Session L D := { s with world := { s.world with actions := [] } }

/-- The two streams of an account. -/
def system (config : Config) (L : LimitRequest) (D : Download2 State (World L)) :
    System (Session L D) Event Action where
  init := ⟨D.create, World.initial L⟩
  enabled := enabled
  step s e := (react config (fresh s) e, (react config (fresh s) e).world.actions)

instance (config : Config) (s : Session L D) (e : Event) :
    Decidable ((system config L D).enabled s e) := inferInstanceAs (Decidable (enabled s e))

/-- There is no download before the first event. -/
@[simp] theorem state_init (config : Config) : (system config L D).init.state = .undefined :=
  D.state_create

/-! ## The moves of the download -/

/-- What completes the state of a download: the acknowledgement of the topic that the state
waits for, or a tick that finds a response in the slot that the state waits for. -/
inductive Cause (s : Session L D) : Event → Prop
  | acknowledged (topic : Topic) (code : ℤ) (h : s.state.topic = some topic) :
      Cause s (.subscribed topic code)
  | responded (refresh : Bool) (now : Nanoseconds) (stale : List OrderKey) (slot : Slot)
      (h : s.state.slot = some slot) (hresponse : s.world.hasResponse slot = true) :
      Cause s (.timer refresh now stale)

/-- A state that is completed waits for something. -/
theorem Cause.waits {s : Session L D} {e : Event} (h : Cause s e) : s.state.waits = true := by
  cases h with
  | acknowledged topic code htopic => simp [State.waits, htopic]
  | responded refresh now stale slot hslot => simp [State.waits, hslot]

/-- An event that completes a state stays within the websocket session. -/
theorem Cause.session {s : Session L D} {e : Event} (h : Cause s e) : e.isBoundary = false := by
  cases h <;> rfl

/-- The world in which a state is completed: in `getOpenOrders` after a look at the stale
orders. -/
def Completing (s : Session L D) (w : World L) : Prop :=
  if s.state = .getOpenOrders then Looks s.world w else w = s.world

/-- What a reaction to `e` can do to a download that has not been aborted. -/
inductive Move (config : Config) (s : Session L D) (e : Event) (s' : Session L D) : Prop
  /-- The process ends. -/
  | aborted (fatal : Fatal) (haborted : s'.world.aborted = some fatal)
      (hstate : s'.state = s.state)
      (hperformed : downloadActions s'.world = downloadActions s.world)
      (hlost : fatal = .lostOrdersNotEmpty → s.state = .getLostOrders ∧
        s.world.hasResponse .lostOrders = true ∧ s.world.detailsLostOrders ≠ ∅)
  /-- The download begins. -/
  | began (he : e = .login 0) (hstate : s'.state = .getAccount)
      (henters : Enters .getAccount s.world s'.world)
  /-- The download ends with the websocket session. -/
  | reset (he : e = .disconnected) (hstate : s'.state = .undefined)
      (hstatus : s'.world.connectionStatus = .disconnected)
      (hperformed : downloadActions s'.world = downloadActions s.world)
  /-- The state is completed, and another one entered. -/
  | completed (next' : State) (w : World L) (hcause : Cause s e) (hw : Completing s w)
      (hlost : s.state = .getLostOrders → s.world.detailsLostOrders = ∅)
      (hnext : next config w.detailsLostOrders s.state = some next')
      (hstate : s'.state = next') (henters : Enters next' w s'.world)
  /-- The last state is completed. -/
  | finished (w : World L) (hcause : Cause s e) (hw : Completing s w)
      (hnext : next config w.detailsLostOrders s.state = none) (hstate : s'.state.waits = false)
      (hregular : Regular (onConnectionStatus .ready "" w) s'.world)
  /-- The download is over, and the stream looks for stale orders. -/
  | regular (hsession : e.isBoundary = false) (hready : s.world.connectionStatus = .ready)
      (hstate : s'.state = s.state)
      (hregular : Regular s.world s'.world)
  /-- The download stays where it is; an answer may arrive. -/
  | quiet (hsession : e.isBoundary = false) (hstate : s'.state = s.state)
      (hstatus : s'.world.connectionStatus = s.world.connectionStatus)
      (haborted : s'.world.aborted = s.world.aborted)
      (hperformed : downloadActions s'.world = downloadActions s.world)
      (hdetails : s'.world.detailsLostOrders ⊆ s.world.detailsLostOrders)
      (hresponse : ∀ k, s'.world.hasResponse k = s.world.hasResponse k ∨
        ∃ sent response, e = .response sent response ∧ sent.endpoint.slot = k)

/-- Where a download is after its last state, it waits for nothing. -/
theorem waits_eq_false {state : State}
    (h : Reached (none : Option State) state) : state.waits = false := by
  rcases h with h | h
  · obtain rfl : state = .done := by simpa [Stages.stages] using h
    rfl
  · rw [h]
    rfl

section Moves

variable {config : Config} {s : Session L D}

/-- Looking at the stale orders does not end the process. -/
theorem Completing.aborted {w : World L} (h : Completing s w) :
    w.aborted = s.world.aborted := by
  unfold Completing at h
  split_ifs at h
  · exact h.aborted
  · rw [h]

/-- A reaction that does nothing to the download is a move. -/
theorem move_same {e : Event} {s' : Session L D} (hsession : e.isBoundary = false)
    (hstate : s'.state = s.state) (hworld : s'.world = s.world) : Move config s e s' := by
  refine .quiet hsession hstate ?_ ?_ ?_ ?_ fun k => .inl ?_ <;> rw [hworld]

/-- Any state but `getOpenOrders` is completed in the world as it is. -/
theorem completing_of_ne (h : s.state ≠ .getOpenOrders) : Completing s s.world := by
  rw [Completing, if_neg h]

/-- Completing the current state is a move, if nothing follows in the same reaction. -/
theorem move_check {e : Event} {w : World L} (hcause : Cause s e) (hwaits : s.state.waits = true)
    (hw : Completing s w) (hlost : s.state = .getLostOrders → s.world.detailsLostOrders = ∅) :
    Move config s e (Session.check config s.state { s with world := w }) := by
  obtain ⟨hworld, hreached⟩ :=
    check_current config (s := { s with world := w }) hwaits rfl
  cases hnext : next config w.detailsLostOrders s.state with
  | some next' =>
    rw [hnext] at hreached
    refine .completed next' w hcause hw hlost hnext hreached ?_
    rw [hworld]
    exact (advance_of_some hnext).2
  | none =>
    rw [hnext] at hreached
    refine .finished w hcause hw hnext (waits_eq_false hreached) ?_
    rw [hworld]
    exact advance_of_none hnext ▸ ⟨rfl, rfl, fun _ _ => rfl, .refl _ _⟩

/-- An acknowledgement completes the state that waits for its topic, and does nothing
otherwise. -/
theorem move_check_topic {topic : Topic} {state : State} (code : ℤ)
    (htopic : state.topic = some topic) :
    Move config s (.subscribed topic code) (s.check config state) := by
  by_cases hstate : s.state = state
  · subst hstate
    have hwaits : s.state.waits = true := by simp [State.waits, htopic]
    have hnot : s.state ≠ .getOpenOrders ∧ s.state ≠ .getLostOrders := by
      constructor <;> (intro h; rw [h] at htopic; simp [State.topic] at htopic)
    exact move_check (.acknowledged topic code htopic) hwaits (completing_of_ne hnot.1)
      fun h => absurd h hnot.2
  · obtain ⟨hworld, hsame⟩ := check_other config hstate
    exact move_same rfl hsame hworld

/-- The first half of a tick is a move. -/
theorem move_checkRequestQueue (refresh : Bool) (now : Nanoseconds) (stale : List OrderKey) :
    Move config s (.timer refresh now stale) (checkRequestQueue config stale s) := by
  rw [checkRequestQueue_eq]
  cases hslot : s.state.slot with
  | none => exact move_same rfl rfl rfl
  | some k =>
    dsimp only
    have hwaits : s.state.waits = true := by simp [State.waits, hslot]
    by_cases hresponse : s.world.hasResponse k = true
    · rw [if_pos hresponse]
      have hcause : Cause s (.timer refresh now stale) :=
        .responded refresh now stale k hslot hresponse
      split_ifs with hlost hopen
      · have hk : k = .lostOrders := by
          rw [hlost.1] at hslot
          exact (Option.some.inj hslot).symm
        exact .aborted .lostOrdersNotEmpty rfl rfl rfl fun _ => ⟨hlost.1, hk ▸ hresponse, hlost.2⟩
      · refine move_check hcause hwaits ?_ fun h => absurd (hopen.symm.trans h) (by simp)
        rw [Completing, if_pos hopen]
        exact looks_checkStaleOrders stale s.world
      · exact move_check hcause hwaits (completing_of_ne hopen)
          fun h => by simpa [h] using hlost
    · rw [if_neg hresponse]
      exact move_same rfl rfl rfl

/-- **A tick is a move.** The regular look at the stale orders follows only if the stream is
ready, and not if a state has just been entered. -/
theorem move_onTimer (refresh : Bool) (now : Nanoseconds) (stale : List OrderKey) :
    Move config s (.timer refresh now stale) (onTimer config refresh now stale s) := by
  have hqueue : Move config s (.timer refresh now stale) (checkRequestQueue config stale s) :=
    move_checkRequestQueue refresh now stale
  unfold onTimer
  dsimp only
  split_ifs with hrefresh hsome hready
  · exact hqueue
  · have hlook := regular_checkStaleOrdersRegularly now stale
      (checkRequestQueue config stale s).world
    have hstatus : (checkRequestQueue config stale s).world.connectionStatus = .ready := by
      simpa [ready] using hready
    cases hqueue with
    | aborted fatal haborted => simp [haborted] at hsome
    | completed next' w _ _ _ _ _ henters =>
      rw [henters.connectionStatus] at hstatus
      simp at hstatus
    | finished w hcause hw hnext hstate hregular =>
      exact .finished w hcause hw hnext hstate (hregular.trans hlook)
    | regular hsession hready' hstate hregular =>
      exact .regular hsession hready' hstate (hregular.trans hlook)
    | quiet hsession hstate hstatus' haborted hperformed hdetails hresponse =>
      refine .regular hsession (hstatus'.symm.trans hstatus) hstate (Regular.trans ?_ hlook)
      refine ⟨hstatus', haborted, fun k _ => ?_, hperformed ▸ .refl _ _⟩
      rcases hresponse k with h | ⟨sent, response, h, -⟩
      · exact h
      · simp at h
    | began he => simp at he
    | reset he => simp at he
  · exact hqueue
  · exact move_same rfl rfl rfl

/-- What the REST stream does without an answer is quiet. -/
theorem move_sends {e : Event} {w : World L} (hsession : e.isBoundary = false)
    (h : OrderEntry.Sends s.world w) : Move config s e { s with world := w } := by
  refine .quiet hsession rfl h.connectionStatus h.aborted (h.actions.filter_eq ?_)
    h.detailsLostOrders fun k => .inl (h.hasResponse k)
  rintro a (rfl | ⟨sent, rfl⟩) <;> rfl

/-- An answer is quiet, unless the process ends. -/
theorem move_answers {sent : Sent} {response : Response} {w : World L}
    (h : OrderEntry.Answers sent.endpoint.slot s.world w) :
    Move config s (.response sent response) { s with world := w } := by
  have hperformed : downloadActions w = downloadActions s.world := by
    refine h.actions.filter_eq ?_
    rintro a (⟨e, rfl⟩ | ⟨f, rfl⟩ | rfl) <;> rfl
  rcases h.aborted with hsame | hfatal | hfatal | hfatal
  · refine .quiet rfl rfl h.connectionStatus hsame hperformed h.detailsLostOrders.le fun k => ?_
    by_cases hk : k = sent.endpoint.slot
    · exact .inr ⟨sent, response, rfl, hk.symm⟩
    · exact .inl (h.hasResponse k hk)
  all_goals exact .aborted _ hfatal rfl hperformed (by simp)

/-- **Every reaction is a move.** -/
theorem move_react (hmaster : config.master = true) (e : Event) :
    Move config s e (react config s e) := by
  cases e with
  | login code =>
    by_cases hcode : code = 0
    · subst hcode
      obtain ⟨hworld, hstate⟩ := begin_eq config s
      have hlogin : react config s (.login 0) = s.begin config := by
        simp [react, onLogin, hmaster]
      rw [hlogin]
      refine .began rfl hstate ?_
      rw [hworld]
      exact enters_request rfl rfl _ s.world
    · have hlogin : react config s (.login code) =
          { s with world := s.world.abort .loginRefused } := by simp [react, onLogin, hcode]
      rw [hlogin]
      exact .aborted .loginRefused rfl rfl rfl (by simp)
  | subscribed topic code =>
    cases topic with
    | account => exact move_check_topic code rfl
    | position => exact move_check_topic code rfl
    | order => exact move_check_topic code rfl
    | fill => exact move_check_topic code rfl
    | _ => exact move_same rfl rfl rfl
  | disconnected =>
    refine .reset rfl (D.state_reset s.download) rfl ?_
    simp [react, onDisconnected, downloadActions, DropCopy.onConnectionStatus, World.act,
      isDownload]
  | timer refresh now stale => exact move_onTimer refresh now stale
  | restConnected =>
    refine .quiet rfl rfl rfl rfl ?_ (Finset.Subset.refl _) fun k => .inl rfl
    simp [react, OrderEntry.onConnected, OrderEntry.onConnectionStatus, downloadActions,
      World.act, isDownload]
  | restDisconnected =>
    refine .quiet rfl rfl rfl rfl ?_ (Finset.Subset.refl _) fun k => .inl rfl
    simp [react, OrderEntry.onDisconnected, OrderEntry.onConnectionStatus, downloadActions,
      World.act, isDownload]
  | restTimer tick => exact move_sends rfl (OrderEntry.sends_onTimer config tick s.world)
  | response sent response =>
    exact move_answers (OrderEntry.answers_onResponse config sent response s.world)

/-- After every move, a download that waits has published `DOWNLOADING` if it had before. -/
theorem Move.downloading {e : Event} {s' : Session L D} (hmove : Move config s e s')
    (h : s.state.waits = true → s.world.connectionStatus = .downloading)
    (haborted : s'.world.aborted = none) (hwaits : s'.state.waits = true) :
    s'.world.connectionStatus = .downloading := by
  cases hmove with
  | aborted fatal hfatal => simp [hfatal] at haborted
  | began _ _ henters => exact henters.connectionStatus
  | reset _ hstate => simp [hstate, State.waits, State.slot, State.topic] at hwaits
  | completed _ _ _ _ _ _ _ henters => exact henters.connectionStatus
  | finished _ _ _ _ hstate => simp [hstate] at hwaits
  | regular _ hready hstate _ => simp [h (hstate ▸ hwaits)] at hready
  | quiet _ hstate hstatus => exact hstatus.trans (h (hstate ▸ hwaits))

/-- **A download that waits has published `DOWNLOADING`.** -/
theorem downloading_of_run (hmaster : config.master = true)
    {ok : History Event Action → Session L D → Event → Prop} {h : History Event Action}
    (run : Run (system config L D) ok h s) (haborted : s.world.aborted = none)
    (hwaits : s.state.waits = true) : s.world.connectionStatus = .downloading := by
  refine run.invariant (P := fun _ s => s.world.aborted = none → s.state.waits = true →
    s.world.connectionStatus = .downloading) ?_ ?_ haborted hwaits
  · intro _ hinit
    simp [State.waits, State.slot, State.topic] at hinit
  · intro h s e _ ih henabled _
    exact (move_react hmaster e).downloading (s := fresh s) (ih henabled.1)

/-- **Invariant rule for a master.** Until the process ends, a property holds after every run if
it holds initially and every move of a guarded step keeps it. -/
theorem invariant_of_moves (hmaster : config.master = true)
    {ok : History Event Action → Session L D → Event → Prop}
    {P : History Event Action → Session L D → Prop} (h0 : P [] (system config L D).init)
    (hstep : ∀ h s e, P h s →
      (s.state.waits = true → s.world.connectionStatus = .downloading) → ok h s e →
      Move config (fresh s) e (react config (fresh s) e) →
      (react config (fresh s) e).world.aborted = none →
      P (⟨e, (react config (fresh s) e).world.actions⟩ :: h) (react config (fresh s) e))
    {h : History Event Action} (run : Run (system config L D) ok h s)
    (haborted : s.world.aborted = none) : P h s := by
  refine run.invariant (P := fun h s => s.world.aborted = none → P h s) (fun _ => h0) ?_ haborted
  intro h s e run ih henabled hguard hafter
  exact hstep h s e (ih henabled.1) (downloading_of_run hmaster run henabled.1) hguard
    (move_react hmaster e) hafter

end Moves

/-! ## Entries of a history -/

/-- The websocket stream received `Login`. -/
def isLogin (entry : Entry Event Action) : Bool :=
  match entry.event with
  | .login _ => true
  | _ => false

/-- A websocket session began or ended. -/
def isBoundary (entry : Entry Event Action) : Bool := entry.event.isBoundary

/-- A request was made through a slot. -/
def requests (slot : Slot) (entry : Entry Event Action) : Bool := .request slot ∈ entry.actions

/-! ## A gateway to run -/

/-- The two streams with the reference implementations of the slots and of the sequencer. -/
abbrev simpleSystem : System (Session flags sequencer) Event Action :=
  system simpleConfig flags sequencer

/-- A tick of the REST stream that sends all requests with an id below `limit`. -/
def sendBelow (limit : ℕ) (order : List OrderKey) : Event :=
  .restTimer
    { refresh := true
      now := 0
      acceptsHeartbeat := true
      accepts := fun id => id < limit
      canRequest := fun _ => true
      order := order
      findOrder := fun _ => some "oAAB" }

/-- A tick of the websocket stream one second after the epoch. -/
def tick (stale : List OrderKey) : Event := .timer true (seconds 1) stale

/-- A login and the download up to the open orders, its requests being numbered from `id` on
and all answered well, except that the account may be answered otherwise. -/
def openingEvents (id : ℕ) (account : Response := answer "ok") : List Event :=
  [.login 0, sendBelow 100 [], .response ⟨id, .accountSettings⟩ account, tick [],
    .subscribed .account 0, sendBelow 100 [], .response ⟨id + 1, .accountAssets⟩ (answer "ok"),
    tick [], .subscribed .position 0, sendBelow 100 [],
    .response ⟨id + 2, .currentPositions⟩ (answer "ok"), tick [], .subscribed .order 0,
    sendBelow 100 [], .response ⟨id + 3, .unfilledOrders⟩ (answer "ok")]

/-- A whole download, in which nothing fails unless it is the account. -/
def fullDownload (account : Response := answer "ok") : List Event :=
  .restConnected :: openingEvents 0 account ++ [tick [], .subscribed .fill 0, sendBelow 100 [],
    .response ⟨4, .tradeFills⟩ (answer "ok"), tick []]

end RoqBitget.Gateway
