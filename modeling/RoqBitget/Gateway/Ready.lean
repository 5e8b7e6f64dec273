import RoqBitget.Gateway.Snapshots

set_option relaxedAutoImplicit false
set_option autoImplicit false

/-!
# What it means to be ready

A stream publishes that it is ready when its download is over. The download goes on after every
acknowledgement and after every committed answer, whether the exchange accepted the subscription
or failed to give the snapshot. So to be ready means that the download succeeded only if none of
the acknowledgements and answers that the download waited for was a failure.

## Main definitions

* `RoqBitget.Gateway.Faultless` — what the download waits for does not fail.
* `RoqBitget.Gateway.Satisfied` — a state of the download got what it waits for.
* `RoqBitget.Gateway.Complete` — all states before the current one did.

## Main results

* `RoqBitget.Gateway.complete_move` — every move keeps a download complete.
* `RoqBitget.Gateway.ready_complete` — a stream is ready after a complete download, if nothing it
  waits for fails.
-/

namespace RoqBitget.Gateway

open RoqBitget.Core Runs DropCopy

/-! ## The states before another one -/

/-- The states of a download that come before a state. -/
def earlier (state : State) : List State := Stages.stages.takeWhile (· ≠ state)

section Earlier

variable {config : Config} {details : Finset OrderKey} {state next' : State}

/-- The next state comes right after the current one; only the lost orders can be passed. -/
theorem earlier_next (h : next config details state = some next') :
    ∀ st ∈ earlier next', st ∈ earlier state ∨ st = state ∨ st = .getLostOrders := by
  cases state <;> simp only [next, reduceCtorEq, Option.some.injEq] at h <;> try subst h
  case getOpenOrders =>
    split_ifs at h <;> obtain rfl := Option.some.inj h <;> decide
  case subscribeTrades =>
    split_ifs at h
    obtain rfl := Option.some.inj h
    decide
  all_goals decide

/-- At the end of a download, only the trades can be passed. -/
theorem earlier_done (hwaits : state.waits = true) (h : next config details state = none) :
    ∀ st ∈ earlier .done, st ∈ earlier state ∨ st = state ∨
      st = .getTrades ∧ config.tradesLookback = 0 := by
  cases state <;> simp [State.waits, State.slot, State.topic] at hwaits <;>
    simp only [next, reduceCtorEq, ite_eq_right_iff, imp_false, not_not] at h
  case getOpenOrders => split_ifs at h
  case subscribeTrades =>
    simp only [h, and_true]
    decide
  case getTrades =>
    intro st hst
    have hcases : st ∈ earlier .getTrades ∨ st = .getTrades := by
      revert st
      decide
    exact hcases.elim .inl fun h => .inr (.inl h)

end Earlier

/-! ## Satisfied states -/

/-- The answer is successful. -/
def Succeeds (config : Config) (_ : History Event Action) (sent : Sent) (response : Response) :
    Prop :=
  Successful config sent.endpoint response

instance (config : Config) (h : History Event Action) (sent : Sent) (response : Response) :
    Decidable (Succeeds config h sent response) :=
  inferInstanceAs (Decidable (Successful config sent.endpoint response))

/-- In `h` the subscription to a topic was acknowledged with the code zero. -/
def AckedIn (h : History Event Action) (topic : Topic) : Prop :=
  ∃ entry ∈ h, entry.event = .subscribed topic 0

/-- In `h` the websocket stream was logged in. -/
def LoggedIn (h : History Event Action) : Prop := ∃ entry ∈ h, entry.event = .login 0

/-- In `h` the state got what it waits for: the acknowledgement of its topic, or a successful
answer with its snapshot. -/
structure Satisfied (config : Config) (h : History Event Action) (state : State) : Prop where
  acknowledged : ∀ topic, state.topic = some topic → AckedIn h topic
  answered : ∀ k, k.isSnapshot = true → state.slot = some k → AnsweredIn (Succeeds config) h k

section Satisfied

variable {config : Config} {h h' : History Event Action}

/-- Succeeding does not depend on the history. -/
theorem kept_succeeds (config : Config) : Kept (Succeeds config) := fun _ _ _ _ _ hP => hP

/-- A state that got what it waits for has got it. -/
theorem Satisfied.mono {state : State} (hle : h ⊆ h') (hsatisfied : Satisfied config h state) :
    Satisfied config h' state where
  acknowledged topic htopic := by
    obtain ⟨entry, hmem, hevent⟩ := hsatisfied.acknowledged topic htopic
    exact ⟨entry, hle hmem, hevent⟩
  answered k hsnapshot hslot :=
    (hsatisfied.answered k hsnapshot hslot).mono (kept_succeeds config) hle

/-- The lost orders are no snapshot. -/
theorem satisfied_getLostOrders : Satisfied config h .getLostOrders where
  acknowledged topic htopic := by simp [State.topic] at htopic
  answered k hsnapshot hslot := by
    obtain rfl : Slot.lostOrders = k := Option.some.inj hslot
    simp [Slot.isSnapshot] at hsnapshot

end Satisfied

/-! ## Complete downloads -/

variable {L : LimitRequest} {D : Download2 State (World L)}

/-- What the download waits for does not fail: an acknowledgement has the code zero, and an
answer is successful. -/
def Faultless (config : Config) (_ : History Event Action) (s : Session L D) : Event → Prop
  | .subscribed topic code => s.state.topic = some topic → code = 0
  | .response sent response =>
    Owed s sent.endpoint.slot → Successful config sent.endpoint response
  | _ => True

instance (config : Config) (h : History Event Action) (s : Session L D) :
    (e : Event) → Decidable (Faultless config h s e)
  | .subscribed _ _ => inferInstanceAs (Decidable (_ = _ → _ = _))
  | .response sent response =>
    inferInstanceAs (Decidable (Owed s sent.endpoint.slot →
      Successful config sent.endpoint response))
  | .login _ | .disconnected | .timer _ _ _ | .restConnected | .restDisconnected
  | .restTimer _ => isTrue trivial

/-- All states before the current one got what they wait for since the latest `Login`. -/
structure Complete (config : Config) (h : History Event Action) (s : Session L D) : Prop where
  responses : ResponseMeans (Succeeds config) (fun _ => since isLogin h) s
  loggedIn : s.state.waits = true → LoggedIn (since isLogin h)
  satisfied : s.state.waits = true → ∀ st ∈ earlier s.state,
    Satisfied config (since isLogin h) st

variable {config : Config} {h : History Event Action} {s s' : Session L D} {e : Event}

/-- Within a websocket session there is no `Login`. -/
theorem since_isLogin_cons (hsession : e.isBoundary = false) (actions : List Action)
    (h : History Event Action) :
    since isLogin (⟨e, actions⟩ :: h) = ⟨e, actions⟩ :: since isLogin h := by
  refine since_cons_of_neg isLogin ?_ h
  cases e <;> simp [Event.isBoundary, isLogin] at hsession ⊢

/-- A state that is completed without a failure got what it waits for. -/
theorem satisfied_of_cause (hresponses : ResponseMeans (Succeeds config) (fun _ => h) s)
    (hcause : Cause s e) (hguard : ∀ topic code, e = .subscribed topic code →
      s.state.topic = some topic → code = 0) (actions : List Action) :
    Satisfied config (⟨e, actions⟩ :: h) s.state := by
  cases hcause with
  | acknowledged topic code htopic =>
    obtain rfl : code = 0 := hguard topic code rfl htopic
    refine ⟨fun topic' htopic' => ?_, fun k _ hslot => ?_⟩
    · obtain rfl : topic = topic' := Option.some.inj (htopic.symm.trans htopic')
      exact ⟨_, List.mem_cons_self, rfl⟩
    · cases hstate : s.state <;> simp [hstate, State.slot, State.topic] at hslot htopic
  | responded refresh now stale slot hslot hresponse =>
    refine ⟨fun topic htopic => ?_, fun k hsnapshot hslot' => ?_⟩
    · cases hstate : s.state <;> simp [hstate, State.slot, State.topic] at hslot htopic
    · obtain rfl : slot = k := Option.some.inj (hslot.symm.trans hslot')
      exact (hresponses slot hsnapshot hslot hresponse).mono (kept_succeeds config)
        (List.subset_cons_self _ _)

/-- **Step lemma.** Every move without a failure keeps the download complete. -/
theorem complete_move (hcomplete : Complete config h s)
    (hstatus : s.state.waits = true → s.world.connectionStatus = .downloading)
    (hguard : Faultless config h s e) (hmove : Move config s e s')
    (haborted : s'.world.aborted = none) :
    Complete config (⟨e, s'.world.actions⟩ :: h) s' := by
  have hresponses : ResponseMeans (Succeeds config)
      (fun _ => since isLogin (⟨e, s'.world.actions⟩ :: h)) s' := by
    refine responseMeans_move (kept_succeeds config) hcomplete.responses hstatus hmove haborted
      (fun hsession _ _ => since_isLogin_cons hsession _ h) ?_
    rintro sent response rfl howed
    exact hguard howed
  -- a download that stays where it is keeps what it has
  have hstays : e.isBoundary = false → s'.state = s.state →
      Complete config (⟨e, s'.world.actions⟩ :: h) s' := by
    intro hsession hstate
    have hle : since isLogin h ⊆ since isLogin (⟨e, s'.world.actions⟩ :: h) := by
      rw [since_isLogin_cons hsession]
      exact List.subset_cons_self _ _
    refine ⟨hresponses, fun hwaits => ?_, fun hwaits st hst => ?_⟩
    · obtain ⟨entry, hmem, hevent⟩ := hcomplete.loggedIn (hstate ▸ hwaits)
      exact ⟨entry, hle hmem, hevent⟩
    · exact (hcomplete.satisfied (hstate ▸ hwaits) st (hstate ▸ hst)).mono hle
  cases hmove with
  | aborted fatal hfatal => simp [hfatal] at haborted
  | began he hstate =>
    subst he
    refine ⟨hresponses, fun _ => ⟨_, mem_since_head isLogin _ h, rfl⟩, fun _ st hst => ?_⟩
    rw [hstate] at hst
    simp [earlier, Stages.stages] at hst
  | reset _ hstate =>
    have hwaits : s'.state.waits = false := by rw [hstate]; rfl
    exact ⟨hresponses, fun h => by simp [hwaits] at h, fun h => by simp [hwaits] at h⟩
  | completed next' w hcause _ _ hnext hstate =>
    have hwaits : s.state.waits = true := hcause.waits
    have hwindow := since_isLogin_cons hcause.session s'.world.actions h
    have hle : since isLogin h ⊆ since isLogin (⟨e, s'.world.actions⟩ :: h) := by
      rw [hwindow]
      exact List.subset_cons_self _ _
    refine ⟨hresponses, fun _ => ?_, fun _ st hst => ?_⟩
    · obtain ⟨entry, hmem, hevent⟩ := hcomplete.loggedIn hwaits
      exact ⟨entry, hle hmem, hevent⟩
    · rw [hstate] at hst
      rcases earlier_next hnext st hst with hst | rfl | rfl
      · exact (hcomplete.satisfied hwaits st hst).mono hle
      · rw [hwindow]
        exact satisfied_of_cause hcomplete.responses hcause
          (fun topic code he htopic => by subst he; exact hguard htopic) _
      · exact satisfied_getLostOrders
  | finished _ _ _ _ hwaits =>
    exact ⟨hresponses, fun h => by simp [hwaits] at h, fun h => by simp [hwaits] at h⟩
  | regular hsession _ hstate => exact hstays hsession hstate
  | quiet hsession hstate => exact hstays hsession hstate

/-- **Run lemma.** Until the process ends, the download is complete after every run in which
nothing fails. -/
theorem complete_of_run (hmaster : config.master = true)
    (run : Run (system config L D) (Faultless config) h s) (haborted : s.world.aborted = none) :
    Complete config h s := by
  refine invariant_of_moves hmaster (P := Complete config) ?_ ?_ run haborted
  · exact ⟨fun k _ h => by simp [State.slot] at h,
      fun h => by simp [State.waits, State.slot, State.topic] at h,
      fun h => by simp [State.waits, State.slot, State.topic] at h⟩
  · intro h s e hbefore hstatus hguard hmove hafter
    have hcomplete : Complete config h (fresh s) :=
      ⟨hbefore.responses, hbefore.loggedIn, hbefore.satisfied⟩
    exact complete_move hcomplete hstatus hguard hmove hafter

/-! ## Being ready -/

/-- The stream publishes that it is ready when the last state is completed. -/
theorem completes_of_ready (hs : downloadActions s.world = []) (hmove : Move config s e s')
    {reason : String} (hready : .publish .ready reason ∈ s'.world.actions) :
    Cause s e ∧ ∃ details, next config details s.state = none := by
  have hmem : Action.publish .ready reason ∈ downloadActions s'.world :=
    List.mem_filter.mpr ⟨hready, rfl⟩
  cases hmove with
  | aborted _ _ _ hperformed => simp [hperformed, hs] at hmem
  | began _ _ henters => simp [henters.performed, hs, performed] at hmem
  | reset _ _ _ hperformed => simp [hperformed, hs] at hmem
  | completed next' w _ hw _ hnext _ henters =>
    have hnone : Action.publish .ready reason ∉ downloadActions w := by
      by_cases hopen : s.state = .getOpenOrders
      · rw [Completing, if_pos hopen] at hw
        simp [hw.performed, hs]
      · rw [Completing, if_neg hopen] at hw
        simp [hw, hs]
    have hlast : Action.publish .ready reason ∉ performed next' := by
      have hwaits := (advance_of_some hnext).1
      cases next' <;> simp [performed, State.waits, State.slot, State.topic] at hwaits ⊢
    rw [henters.performed] at hmem
    exact absurd hmem (by simp [hnone, hlast])
  | finished w hcause _ hnext => exact ⟨hcause, _, hnext⟩
  | regular _ _ _ hregular =>
    rcases hregular.performed.mem hmem with h | ⟨details, h⟩ | h
    · simp [hs] at h
    all_goals simp at h
  | quiet _ _ _ _ hperformed => simp [hperformed, hs] at hmem

/-- Every snapshot is what some state of the download waits for. -/
theorem exists_state_of_isSnapshot {k : Slot} (h : k.isSnapshot = true) :
    ∃ state ∈ earlier .done, state.slot = some k ∧ (state = .getTrades → k = .trades) := by
  cases k with
  | account => exact ⟨.getAccount, by decide, rfl, by decide⟩
  | balances => exact ⟨.getBalances, by decide, rfl, by decide⟩
  | positions => exact ⟨.getCurrentPositions, by decide, rfl, by decide⟩
  | openOrders => exact ⟨.getOpenOrders, by decide, rfl, by decide⟩
  | lostOrders => simp [Slot.isSnapshot] at h
  | trades => exact ⟨.getTrades, by decide, rfl, fun _ => rfl⟩

/-- **To be ready means that the download succeeded**, in a run in which nothing that the
download waits for fails: when the stream publishes that it is ready, then since its latest
`Login` each of the four topics was acknowledged with the code zero, and each snapshot was
answered successfully, the trades if they have a look-back.

**Proof sketch.** The stream is ready when the last state is completed; all states before it, as
far as they are entered, got what they wait for. -/
theorem ready_complete (hmaster : config.master = true) {entry : Entry Event Action}
    (run : Run (system config L D) (Faultless config) (entry :: h) s) {reason : String}
    (hready : .publish .ready reason ∈ entry.actions) :
    LoggedIn (since isLogin (entry :: h)) ∧
      (∀ topic ∈ [Topic.account, .position, .order, .fill],
        AckedIn (since isLogin (entry :: h)) topic) ∧
      ∀ k, k.isSnapshot = true → (k = .trades → config.tradesLookback ≠ 0) →
        AnsweredIn (Succeeds config) (since isLogin (entry :: h)) k := by
  cases run with
  | @step _ s e run henabled hguard =>
    have hcomplete := complete_of_run hmaster run henabled.1
    have hmove : Move config (fresh s) e (react config (fresh s) e) := move_react hmaster e
    obtain ⟨hcause, details, hnext⟩ := completes_of_ready (s := fresh s) rfl hmove hready
    have hwaits : s.state.waits = true := hcause.waits
    have hwindow := since_isLogin_cons hcause.session (react config (fresh s) e).world.actions h
    have hsatisfied : ∀ st ∈ earlier .done, (st = .getTrades → config.tradesLookback ≠ 0) →
        Satisfied config (since isLogin (⟨e, (react config (fresh s) e).world.actions⟩ :: h))
          st := by
      intro st hst hwanted
      rw [hwindow]
      rcases earlier_done hwaits hnext st hst with hst | rfl | ⟨htrades, hnone⟩
      · exact (hcomplete.satisfied hwaits st hst).mono (List.subset_cons_self _ _)
      · exact satisfied_of_cause (s := fresh s) hcomplete.responses hcause
          (fun topic code he htopic => by subst he; exact hguard htopic) _
      · exact absurd hnone (hwanted htrades)
    refine ⟨?_, ?_, fun k hsnapshot hwanted => ?_⟩
    · obtain ⟨login, hmem, hevent⟩ := hcomplete.loggedIn hwaits
      exact ⟨login, hwindow ▸ List.mem_cons_of_mem _ hmem, hevent⟩
    · have hacked : ∀ st ∈ earlier .done, st ≠ .getTrades → ∀ topic, st.topic = some topic →
          AckedIn (since isLogin (⟨e, (react config (fresh s) e).world.actions⟩ :: h)) topic :=
        fun st hst hne topic htopic =>
          (hsatisfied st hst fun h => absurd h hne).acknowledged topic htopic
      simp only [List.forall_mem_cons, List.not_mem_nil, false_implies, implies_true, and_true]
      exact ⟨hacked .subscribeBalances (by decide) (by decide) _ rfl,
        hacked .subscribePositions (by decide) (by decide) _ rfl,
        hacked .subscribeOrders (by decide) (by decide) _ rfl,
        hacked .subscribeTrades (by decide) (by decide) _ rfl⟩
    · obtain ⟨st, hst, hslot, htrades⟩ := exists_state_of_isSnapshot hsnapshot
      exact (hsatisfied st hst fun h => hwanted (htrades h)).answered k hsnapshot hslot

/-- A download in which nothing fails got everything it waited for. -/
theorem fullDownload_complete :
    ∃ h, ∃ s : Session flags sequencer, Run simpleSystem (Faultless simpleConfig) h s ∧
      LoggedIn (since isLogin h) ∧
        (∀ topic ∈ [Topic.account, .position, .order, .fill], AckedIn (since isLogin h) topic) ∧
        ∀ k, k.isSnapshot = true → (k = .trades → simpleConfig.tradesLookback ≠ 0) →
          AnsweredIn (Succeeds simpleConfig) (since isLogin h) k :=
  have run : Run simpleSystem (Faultless simpleConfig) (play simpleSystem fullDownload).1
      (play simpleSystem fullDownload).2 := Run.play (by decide +kernel)
  have ready : .publish .ready "" ∈ ((play simpleSystem fullDownload).1.head (by decide)).actions :=
    by decide +kernel
  ⟨_, _, run, ready_complete rfl run ready⟩

/-- The exchange fails to give the account, and the stream is ready nevertheless. -/
theorem unavailableAccount_ready :
    ∃ h, ∃ s : Session flags sequencer, Run simpleSystem anyStep h s ∧
      (∃ entry rest, h = entry :: rest ∧ .publish .ready "" ∈ entry.actions) ∧
      ¬ AnsweredIn (Succeeds simpleConfig) (since isLogin h) .account :=
  ⟨(play simpleSystem (fullDownload (answer "unavailable"))).1,
    (play simpleSystem (fullDownload (answer "unavailable"))).2, Run.play (by decide +kernel),
    ⟨_, _, rfl, by decide +kernel⟩, by decide +kernel⟩

end RoqBitget.Gateway
