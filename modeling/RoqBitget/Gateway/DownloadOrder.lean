import RoqBitget.Gateway.Session

set_option relaxedAutoImplicit false
set_option autoImplicit false

/-!
# The order of a download

The download of a private account alternates between snapshots and subscriptions: each snapshot
is requested after the subscription before it was acknowledged, and the next subscription is
made after the snapshot was answered. The download is driven by acknowledgements and by timer
ticks; whatever comes in between must not disturb it.

## Main definitions

* `RoqBitget.Gateway.plan` — all actions of a download, in order.
* `RoqBitget.Gateway.sessionActions` — the actions performed since the latest `Login` or
  `Disconnected`.
* `RoqBitget.Gateway.InOrder` — how these actions, the state and the published status belong
  together.

## Main results

* `RoqBitget.Gateway.inOrder_move` — every move keeps them together.
* `RoqBitget.Gateway.oneAction_of_move` — a reaction performs one action of the plan at most.
* `RoqBitget.Gateway.download_in_order` — the actions of a session are a prefix of the plan, each
  performed when it should be.
-/

namespace RoqBitget.Gateway

open RoqBitget.Core Runs DropCopy

/-! ## The plan -/

/-- The lost orders are requested iff there are any. -/
def lostRequest (details : Finset OrderKey) : List Action :=
  if details = ∅ then [] else [.request .lostOrders]

/-- The trades are requested iff there is a look-back. -/
def tradesRequest (config : Config) : List Action :=
  if config.tradesLookback ≠ 0 then [.request .trades] else []

/-- The actions of a download up to the snapshot of the open orders. -/
def opening : List Action :=
  [.request .account, .subscribe "account", .request .balances, .subscribe "position",
    .request .positions, .subscribe "order", .request .openOrders]

/-- The actions of a download that finds `details` as its lost orders. -/
def plan (config : Config) (details : Finset OrderKey) : List Action :=
  opening ++ .checkStaleOrders details :: (lostRequest details ++ .subscribe "fill" ::
    (tradesRequest config ++ [.publish .ready ""]))

/-- The actions of a download that has reached a state. -/
def progress (config : Config) (details : Finset OrderKey) : State → List Action
  | .undefined => []
  | .getAccount => opening.take 1
  | .subscribeBalances => opening.take 2
  | .getBalances => opening.take 3
  | .subscribePositions => opening.take 4
  | .getCurrentPositions => opening.take 5
  | .subscribeOrders => opening.take 6
  | .getOpenOrders => opening
  | .getLostOrders => opening ++ .checkStaleOrders details :: lostRequest details
  | .subscribeTrades =>
    opening ++ .checkStaleOrders details :: (lostRequest details ++ [.subscribe "fill"])
  | .getTrades =>
    opening ++ .checkStaleOrders details ::
      (lostRequest details ++ .subscribe "fill" :: tradesRequest config)
  | .done => plan config details

/-- No action of a plan is performed twice. -/
theorem nodup_plan (config : Config) (details : Finset OrderKey) :
    (plan config details).Nodup := by
  unfold plan lostRequest tradesRequest opening
  split_ifs <;> simp

/-- What a download has performed is a prefix of the plan. -/
theorem progress_prefix (config : Config) (details : Finset OrderKey) (state : State) :
    progress config details state <+: plan config details := by
  have htake : ∀ n, opening.take n <+: plan config details := fun n =>
    (List.take_prefix n opening).trans (List.prefix_append _ _)
  cases state with
  | undefined => exact List.nil_prefix
  | getOpenOrders => exact List.prefix_append _ _
  | getLostOrders => simp [progress, plan, List.prefix_append_right_inj]
  | subscribeTrades => simp [progress, plan, List.prefix_append_right_inj]
  | getTrades => simp [progress, plan, List.prefix_append_right_inj]
  | done => exact List.prefix_rfl
  | _ => exact htake _

section Next

variable {config : Config} {details : Finset OrderKey} {state : State}

/-- Entering the next state performs the next action of the plan. -/
theorem progress_next {details' : Finset OrderKey} {next' : State}
    (hstate : state ≠ .getOpenOrders) (h : next config details' state = some next') :
    progress config details state ++ performed next' = progress config details next' := by
  cases state <;> simp only [next, reduceCtorEq, Option.some.injEq] at h <;> try subst h
  case getOpenOrders => exact absurd rfl hstate
  case subscribeTrades =>
    split_ifs at h with htrades
    obtain rfl := Option.some.inj h
    simp [progress, performed, tradesRequest, htrades]
  all_goals simp [progress, performed, opening]

/-- After the open orders, the look at the stale orders decides how the plan goes on. -/
theorem progress_next_getOpenOrders {next' : State}
    (h : next config details .getOpenOrders = some next') :
    opening ++ [.checkStaleOrders details] ++ performed next' =
      progress config details next' := by
  rw [next] at h
  split_ifs at h with hdetails <;> obtain rfl := Option.some.inj h
  · simp [progress, performed, lostRequest, hdetails]
  · simp [progress, performed, lostRequest, hdetails]

/-- The plan ends when there is no next state. -/
theorem progress_next_none {details' : Finset OrderKey} (hwaits : state.waits = true)
    (h : next config details' state = none) :
    state ≠ .getOpenOrders ∧
      progress config details state ++ [.publish .ready ""] = plan config details := by
  cases state <;> simp [State.waits, State.slot, State.topic] at hwaits <;>
    simp only [next, reduceCtorEq, ite_eq_right_iff, imp_false, not_not] at h
  case getOpenOrders => split_ifs at h
  case subscribeTrades => simp [progress, plan, tradesRequest, h]
  case getTrades => simp [progress, plan]

end Next

/-! ## The invariant -/

variable {L : LimitRequest} {D : Download2 State (World L)}

/-- The actions that make up a download and were performed since the latest `Login` or
`Disconnected`, in order. -/
def sessionActions (h : History Event Action) : List Action :=
  ((since isBoundary h).reverse.flatMap Entry.actions).filter isDownload

/-- The stream is ready, and looks for stale orders from time to time. -/
def Over (config : Config) (actions : List Action) : Prop :=
  ∃ details later, actions = plan config details ++ later ∧
    ∀ a ∈ later, (∃ details, a = .checkStaleOrders details) ∨ a = .request .lostOrders

/-- How the actions of a websocket session belong to the state of the download. -/
inductive InOrder (config : Config) (actions : List Action) (s : Session L D) : Prop
  /-- There is no download. -/
  | idle (hwaits : s.state.waits = false) (hstatus : s.world.connectionStatus ≠ .ready)
      (hactions : actions = [])
  /-- The download is under way; the latest action is that of its state. -/
  | waiting (hwaits : s.state.waits = true) (hstatus : s.world.connectionStatus = .downloading)
      (details : Finset OrderKey) (hactions : actions = progress config details s.state)
      (hlast : ∃ before, actions = before ++ performed s.state)
  /-- The download is over. -/
  | ended (hwaits : s.state.waits = false) (hover : Over config actions)
  /-- The process has ended. -/
  | aborted (haborted : s.world.aborted ≠ none)
      (hinitial : (∃ details, actions <+: plan config details) ∨ Over config actions)

variable {config : Config} {actions : List Action} {s : Session L D}

/-- Whatever the state of the download, its actions follow the plan. -/
theorem InOrder.follows (h : InOrder config actions s) :
    (∃ details, actions <+: plan config details) ∨ Over config actions := by
  cases h with
  | idle _ _ hactions => exact .inl ⟨∅, hactions ▸ List.nil_prefix⟩
  | waiting _ _ details hactions _ =>
    exact .inl ⟨details, hactions ▸ progress_prefix config details s.state⟩
  | ended _ hover => exact .inr hover
  | aborted _ hinitial => exact hinitial

/-- Forgetting the actions of the latest reaction keeps the order. -/
theorem InOrder.fresh (h : InOrder config actions s) : InOrder config actions (fresh s) := by
  cases h with
  | idle hwaits hstatus hactions => exact .idle hwaits hstatus hactions
  | waiting hwaits hstatus details hactions hlast =>
    exact .waiting hwaits hstatus details hactions hlast
  | ended hwaits hover => exact .ended hwaits hover
  | aborted haborted hinitial => exact .aborted haborted hinitial

/-- A state is completed only while the download is under way. -/
theorem InOrder.of_cause {e : Event} (h : InOrder config actions s)
    (haborted : s.world.aborted = none) (hcause : Cause s e) :
    s.state.waits = true ∧ (∃ details, actions = progress config details s.state) ∧
      ∃ before, actions = before ++ performed s.state := by
  have hwaits : s.state.waits = true := hcause.waits
  cases h with
  | idle hidle => simp [hidle] at hwaits
  | waiting _ _ details hactions hlast => exact ⟨hwaits, ⟨details, hactions⟩, hlast⟩
  | ended hover => simp [hover] at hwaits
  | aborted h => exact absurd haborted h

/-- The actions of a session after a reaction that performs `new`. -/
def extend (e : Event) (actions new : List Action) : List Action :=
  if e.isBoundary then new else actions ++ new

theorem extend_of_boundary {e : Event} (h : e.isBoundary = true) (actions new : List Action) :
    extend e actions new = new := if_pos h

theorem extend_of_session {e : Event} (h : e.isBoundary = false) (actions new : List Action) :
    extend e actions new = actions ++ new := by
  simp [extend, h]

/-- The last action of the download. -/
theorem downloadActions_ready (w : World L) :
    downloadActions (DropCopy.onConnectionStatus .ready "" w) =
      downloadActions w ++ [.publish .ready ""] := by
  simp [downloadActions, DropCopy.onConnectionStatus, World.act, isDownload]

/-- Later actions that are regular leave an ended download ended. -/
theorem Over.append {new : List Action} (h : Over config actions)
    (hnew : ∀ a ∈ new, (∃ details, a = .checkStaleOrders details) ∨ a = .request .lostOrders) :
    Over config (actions ++ new) := by
  obtain ⟨details, later, hactions, hlater⟩ := h
  refine ⟨details, later ++ new, ?_, fun a ha => ?_⟩
  · rw [hactions, List.append_assoc]
  · exact (List.mem_append.mp ha).elim (hlater a) (hnew a)

/-- **Step lemma.** Every move keeps the actions of the session in order. -/
theorem inOrder_move {e : Event} {s' : Session L D} (h : InOrder config actions s)
    (haborted : s.world.aborted = none) (hs : downloadActions s.world = [])
    (hmove : Move config s e s') :
    InOrder config (extend e actions (downloadActions s'.world)) s' := by
  cases hmove with
  | aborted fatal haborted' _ hperformed hlost =>
    refine .aborted (by simp [haborted']) ?_
    rw [hperformed, hs, extend, List.append_nil]
    split_ifs
    · exact .inl ⟨∅, List.nil_prefix⟩
    · exact h.follows
  | began he hstate henters =>
    subst he
    have hactions : extend (.login 0) actions (downloadActions s'.world) = [.request .account] := by
      rw [extend_of_boundary rfl, henters.performed, hs]
      rfl
    rw [hactions]
    exact .waiting (by rw [hstate]; rfl) henters.connectionStatus ∅ (by rw [hstate]; rfl)
      ⟨[], by rw [hstate]; rfl⟩
  | reset he hstate hstatus hperformed =>
    subst he
    refine .idle (by rw [hstate]; rfl) (by simp [hstatus]) ?_
    rw [extend_of_boundary rfl, hperformed, hs]
  | completed next' w hcause hw hlost hnext hstate henters =>
    obtain ⟨hwaits, ⟨details, hactions⟩, hlast⟩ := h.of_cause haborted hcause
    rw [extend_of_session hcause.session, henters.performed]
    have hnext' : next'.waits = true := (advance_of_some hnext).1
    by_cases hopen : s.state = .getOpenOrders
    · -- the stale orders are looked up in the same reaction
      rw [Completing, if_pos hopen] at hw
      rw [hopen] at hactions hnext
      refine .waiting (hstate ▸ hnext') henters.connectionStatus w.detailsLostOrders ?_
        ⟨actions ++ downloadActions w, by rw [hstate, List.append_assoc]⟩
      rw [hw.performed, hs, hactions, hstate, ← progress_next_getOpenOrders hnext]
      simp [progress]
    · rw [Completing, if_neg hopen] at hw
      subst hw
      refine .waiting (hstate ▸ hnext') henters.connectionStatus details ?_
        ⟨actions ++ downloadActions s.world, by rw [hstate, List.append_assoc]⟩
      rw [hs, hactions, hstate, List.nil_append, progress_next hopen hnext]
  | finished w hcause hw hnext hstate hregular =>
    obtain ⟨hwaits, ⟨details, hactions⟩, -⟩ := h.of_cause haborted hcause
    obtain ⟨hopen, hplan⟩ : s.state ≠ .getOpenOrders ∧
        progress config details s.state ++ [.publish .ready ""] = plan config details :=
      progress_next_none hwaits hnext
    obtain ⟨later, hlater, hall⟩ := hregular.performed
    rw [Completing, if_neg hopen] at hw
    subst hw
    rw [extend_of_session hcause.session, hlater, downloadActions_ready, hs, List.nil_append,
      hactions, ← List.append_assoc, hplan]
    exact .ended hstate ⟨details, later, rfl, hall⟩
  | regular hsession hready hstate hregular =>
    obtain ⟨new, hnew, hall⟩ := hregular.performed
    rw [extend_of_session hsession, hnew, hs, List.nil_append]
    cases h with
    | idle _ hstatus _ => exact absurd hready hstatus
    | waiting _ hstatus _ _ _ => simp [hready] at hstatus
    | ended hwaits hover => exact .ended (hstate ▸ hwaits) (hover.append hall)
    | aborted h => exact absurd haborted h
  | quiet hsession hstate hstatus _ hperformed _ _ =>
    rw [extend_of_session hsession, hperformed, hs, List.append_nil]
    cases h with
    | idle hwaits hidle hactions =>
      exact .idle (hstate ▸ hwaits) (hstatus.trans_ne hidle) hactions
    | waiting hwaits hdown details hactions hlast =>
      exact .waiting (hstate ▸ hwaits) (hstatus.trans hdown) details (hstate ▸ hactions)
        (hstate ▸ hlast)
    | ended hwaits hover => exact .ended (hstate ▸ hwaits) hover
    | aborted h => exact absurd haborted h

/-- The actions of the session, one entry later. -/
theorem sessionActions_cons (entry : Entry Event Action) (h : History Event Action) :
    sessionActions (entry :: h) =
      extend entry.event (sessionActions h) (entry.actions.filter isDownload) := by
  unfold sessionActions extend
  by_cases hboundary : entry.event.isBoundary = true
  · rw [since_cons_of_pos isBoundary hboundary, if_pos hboundary]
    simp
  · rw [since_cons_of_neg isBoundary (by simpa [isBoundary] using hboundary), if_neg hboundary]
    simp

/-- **Run lemma.** The actions of the session are in order after every run. -/
theorem inOrder_of_run (hmaster : config.master = true)
    {ok : History Event Action → Session L D → Event → Prop} {h : History Event Action}
    (run : Run (system config L D) ok h s) : InOrder config (sessionActions h) s := by
  refine run.invariant (P := fun h s => InOrder config (sessionActions h) s) ?_ ?_
  · exact .idle (by simp [State.waits, State.slot, State.topic]) (by simp [system, World.initial])
      rfl
  · intro h s e _ ih henabled _
    rw [sessionActions_cons]
    exact inOrder_move ih.fresh henabled.1 rfl (move_react hmaster e)

/-! ## Every action at its time -/

/-- Actions that follow a plan publish at most once that the stream is ready. -/
theorem count_ready_le_one
    (h : (∃ details, actions <+: plan config details) ∨ Over config actions) :
    actions.count (.publish .ready "") ≤ 1 := by
  have hplan : ∀ details, (plan config details).count (.publish .ready "") ≤ 1 := fun details =>
    List.nodup_iff_count_le_one.mp (nodup_plan config details) _
  rcases h with ⟨details, hinitial⟩ | ⟨details, later, rfl, hall⟩
  · exact (hinitial.sublist.count_le _).trans (hplan details)
  · have hlater : later.count (.publish .ready "") = 0 := by
      rw [List.count_eq_zero]
      intro hmem
      rcases hall _ hmem with ⟨d, h⟩ | h <;> simp at h
    rw [List.count_append, hlater]
    exact hplan details

/-- A stream whose download is over has published that it is ready. -/
theorem Over.ready_mem (h : Over config actions) : .publish .ready "" ∈ actions := by
  obtain ⟨details, later, rfl, -⟩ := h
  simp [plan]

/-- The topics that a download subscribes to are told apart by their texts. -/
theorem topic_eq_of_text {state : State} {topic topic' : Topic} (h : state.topic = some topic')
    (htext : topic'.text = topic.text) : topic = topic' := by
  cases state <;> simp only [State.topic, reduceCtorEq, Option.some.injEq] at h <;> subst h <;>
    revert htext <;> cases topic <;> decide

/-- What has to have happened for a reaction to `e` to perform an action of the download: after
a subscription its acknowledgement, and after a request a response. -/
structure Due (actions : List Action) (s : Session L D) (e : Event) : Prop where
  begun : actions ≠ []
  acknowledged : ∀ topic : Topic, actions.getLast? = some (.subscribe topic.text) →
    ∃ code, e = .subscribed topic code
  responded : ∀ slot, actions.getLast? = some (.request slot) →
    s.world.hasResponse slot = true

/-- A state is completed when its completion is due. -/
theorem due_of_cause {e : Event} (hcause : Cause s e)
    (hlast : ∃ before, actions = before ++ performed s.state) : Due actions s e := by
  obtain ⟨before, rfl⟩ := hlast
  cases hcause with
  | acknowledged topic' code htopic =>
    rw [performed_of_topic htopic]
    refine ⟨by simp, fun topic h => ⟨code, ?_⟩, fun slot h => by simp at h⟩
    have htext : topic'.text = topic.text := by simpa using h
    rw [topic_eq_of_text htopic htext]
  | responded refresh now stale slot' hslot hresponse =>
    rw [performed_of_slot hslot]
    refine ⟨by simp, fun topic h => by simp at h, fun slot h => ?_⟩
    obtain rfl : slot' = slot := by simpa using h
    exact hresponse

/-- Until the stream is ready, a reaction performs an action of the download when it is due. -/
theorem due_of_move {e : Event} {s' : Session L D} (h : InOrder config actions s)
    (haborted : s.world.aborted = none) (hs : downloadActions s.world = [])
    (hmove : Move config s e s') (hsession : e.isBoundary = false)
    (hready : .publish .ready "" ∉ actions) (hperforms : downloadActions s'.world ≠ []) :
    Due actions s e := by
  cases hmove with
  | aborted _ _ _ hperformed _ => exact absurd (hperformed.trans hs) hperforms
  | began he => simp [he, Event.isBoundary] at hsession
  | reset he => simp [he, Event.isBoundary] at hsession
  | completed _ _ hcause => exact due_of_cause hcause (h.of_cause haborted hcause).2.2
  | finished _ hcause => exact due_of_cause hcause (h.of_cause haborted hcause).2.2
  | regular _ hisReady _ _ =>
    cases h with
    | idle _ hstatus _ => exact absurd hisReady hstatus
    | waiting _ hstatus _ _ _ => simp [hisReady] at hstatus
    | ended _ hover => exact absurd hover.ready_mem hready
    | aborted h => exact absurd haborted h
  | quiet _ _ _ _ hperformed _ _ => exact absurd (hperformed.trans hs) hperforms

/-- What a single reaction may perform after some actions of a plan: nothing, or one action. A look
at the stale orders precedes it if the open orders were requested last, and regular looks follow
it if it is the last action of the plan. -/
inductive OneAction (actions : List Action) : List Action → Prop
  | nothing : OneAction actions []
  | one (action : Action) : OneAction actions [action]
  | look (details : Finset OrderKey) (action : Action)
      (hopen : actions.getLast? = some (.request .openOrders)) :
      OneAction actions [.checkStaleOrders details, action]
  | ready (later : List Action)
      (hlater : ∀ a ∈ later, (∃ details, a = .checkStaleOrders details) ∨
        a = .request .lostOrders) :
      OneAction actions (.publish .ready "" :: later)

/-- Entering a state that waits performs one action. -/
theorem performed_of_waits {state : State} (h : state.waits = true) :
    ∃ action, performed state = [action] := by
  cases hslot : state.slot with
  | some slot => exact ⟨_, performed_of_slot hslot⟩
  | none =>
    cases htopic : state.topic with
    | some topic => exact ⟨_, performed_of_topic htopic⟩
    | none => simp [State.waits, hslot, htopic] at h

/-- **One at a time.** Until the stream is ready, a reaction within the session performs one action
of the plan at most. -/
theorem oneAction_of_move {e : Event} {s' : Session L D} (h : InOrder config actions s)
    (haborted : s.world.aborted = none) (hs : downloadActions s.world = [])
    (hmove : Move config s e s') (hsession : e.isBoundary = false)
    (hready : .publish .ready "" ∉ actions) :
    OneAction actions (downloadActions s'.world) := by
  cases hmove with
  | aborted _ _ _ hperformed _ => exact hperformed.trans hs ▸ .nothing
  | began he => simp [he, Event.isBoundary] at hsession
  | reset he => simp [he, Event.isBoundary] at hsession
  | completed next' w hcause hw _ hnext _ henters =>
    obtain ⟨action, haction⟩ := performed_of_waits (advance_of_some hnext).1
    rw [henters.performed, haction]
    by_cases hopen : s.state = .getOpenOrders
    · -- the look and the action that follows it
      obtain ⟨before, hbefore⟩ := (h.of_cause haborted hcause).2.2
      rw [Completing, if_pos hopen] at hw
      rw [hw.performed, hs]
      refine .look _ _ ?_
      rw [hbefore, hopen]
      simp [performed]
    · rw [Completing, if_neg hopen] at hw
      rw [hw, hs]
      exact .one action
  | finished w hcause hw hnext _ hregular =>
    have hlast : s.state ≠ .getOpenOrders ∧
        progress config ∅ s.state ++ [.publish .ready ""] = plan config ∅ :=
      progress_next_none (h.of_cause haborted hcause).1 hnext
    obtain ⟨later, hlater, hall⟩ := hregular.performed
    rw [Completing, if_neg hlast.1] at hw
    rw [hlater, downloadActions_ready, hw, hs]
    exact .ready later hall
  | regular _ hisReady _ _ =>
    cases h with
    | idle _ hstatus _ => exact absurd hisReady hstatus
    | waiting _ hstatus _ _ _ => simp [hisReady] at hstatus
    | ended _ hover => exact absurd hover.ready_mem hready
    | aborted h => exact absurd haborted h
  | quiet _ _ _ _ hperformed _ _ => exact hperformed.trans hs ▸ .nothing

/-- A `Login` performs the first action of a plan, or ends the process. -/
theorem downloadActions_login (hmaster : config.master = true) (code : ℤ)
    (hs : downloadActions s.world = []) :
    downloadActions (react config s (.login code)).world =
      if code = 0 then [.request .account] else [] := by
  split_ifs with hcode
  · subst hcode
    have hlogin : react config s (.login 0) = s.begin config := by simp [react, onLogin, hmaster]
    have henters : Enters .getAccount s.world
        (request .account (downloading "get-account" s.world)) :=
      enters_request rfl rfl "get-account" s.world
    rw [hlogin, (begin_eq config s).1, henters.performed, hs]
    rfl
  · have hlogin : react config s (.login code) =
        { s with world := s.world.abort .loginRefused } := by simp [react, onLogin, hcode]
    rw [hlogin]
    exact hs

/-- The end of a session performs no action of a plan. -/
theorem downloadActions_disconnected (hs : downloadActions s.world = []) :
    downloadActions (react config s .disconnected).world = [] := by
  rw [← hs]
  simp [react, onDisconnected, downloadActions, DropCopy.onConnectionStatus, World.act, isDownload]

/-- An acknowledgement that is not the one the state waits for changes nothing. -/
theorem react_subscribed_of_ne (config : Config) {topic : Topic} (code : ℤ)
    (h : s.state.topic ≠ some topic) :
    (react config s (.subscribed topic code)).state = s.state ∧
      (react config s (.subscribed topic code)).world = s.world := by
  have hother : ∀ state, state.topic = some topic →
      (s.check config state).state = s.state ∧ (s.check config state).world = s.world :=
    fun state hstate =>
      (check_other config fun heq => h (heq ▸ hstate)).symm
  cases topic with
  | account => exact hother .subscribeBalances rfl
  | position => exact hother .subscribePositions rfl
  | order => exact hother .subscribeOrders rfl
  | fill => exact hother .subscribeTrades rfl
  | _ => exact ⟨rfl, rfl⟩

/-- **A download is performed in order.** After every run, the actions performed since the
latest `Login` or `Disconnected` are a prefix of the plan, or all of it followed by regular
looks at the stale orders. No action of the plan occurs twice, and `READY` is published at most
once. Until it is, a reaction within the session performs one action of the plan at most, and only
when it is due: after a subscription by its acknowledgement, and after a request when its slot has
a response. A `Login` performs the first action of the plan, or none if it fails, and a
`Disconnected` none. Any other acknowledgement changes nothing.

**Proof sketch.** The actions of the session determine the state of the download, and every
move performs exactly the action of the state it enters. -/
theorem download_in_order (hmaster : config.master = true) {h : History Event Action}
    (run : Run (system config L D) anyStep h s) :
    ((∃ details, sessionActions h <+: plan config details) ∨ Over config (sessionActions h)) ∧
    (∀ details, (plan config details).Nodup) ∧
    (sessionActions h).count (.publish .ready "") ≤ 1 ∧
    (∀ e, enabled s e → e.isBoundary = false → .publish .ready "" ∉ sessionActions h →
      OneAction (sessionActions h) (downloadActions (react config (fresh s) e).world) ∧
      (downloadActions (react config (fresh s) e).world ≠ [] → Due (sessionActions h) s e)) ∧
    (∀ code, downloadActions (react config (fresh s) (.login code)).world =
      if code = 0 then [.request .account] else []) ∧
    downloadActions (react config (fresh s) .disconnected).world = [] ∧
    ∀ topic code, s.state.topic ≠ some topic →
      (react config (fresh s) (.subscribed topic code)).state = s.state ∧
        (react config (fresh s) (.subscribed topic code)).world = (fresh s).world := by
  have horder := inOrder_of_run hmaster run
  refine ⟨horder.follows, nodup_plan config, count_ready_le_one horder.follows, ?_,
    fun code => downloadActions_login hmaster code rfl, downloadActions_disconnected rfl, ?_⟩
  · intro e henabled hsession hready
    have hmove := move_react (s := fresh s) hmaster e
    refine ⟨oneAction_of_move horder.fresh henabled.1 rfl hmove hsession hready, ?_⟩
    intro hperforms
    have hdue := due_of_move horder.fresh henabled.1 rfl hmove hsession hready hperforms
    exact ⟨hdue.begun, hdue.acknowledged, hdue.responded⟩
  · intro topic code h
    exact react_subscribed_of_ne (s := fresh s) config code h

/-- The stream is ready at the end of a download in which nothing fails, and has said so once. -/
theorem fullDownload_in_order :
    .publish .ready "" ∈ sessionActions (play simpleSystem fullDownload).1 ∧
      (sessionActions (play simpleSystem fullDownload).1).count (.publish .ready "") ≤ 1 :=
  ⟨by decide +kernel, (download_in_order rfl (Run.play (by decide +kernel))).2.2.1⟩

end RoqBitget.Gateway
