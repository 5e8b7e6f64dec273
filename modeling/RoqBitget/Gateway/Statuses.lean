import RoqBitget.Gateway.Accounts

set_option relaxedAutoImplicit false
set_option autoImplicit false

/-!
# The statuses that the `Controller` sees

A stream that takes on a status publishes it. The `Controller` chooses among the streams by their
statuses, and so it matters that a stream publishes nothing else, and what it publishes last is
what it is. The connection of an `OrderEntry` has a status as well.

## Main definitions

* `RoqBitget.Gateway.Accounts.Tells` — a stream publishes the statuses that it takes on.
* `RoqBitget.Gateway.Accounts.statusAt` — the status of a stream that the `Controller` sees.
* `RoqBitget.Gateway.Accounts.restStatus` — the last status of an `OrderEntry`.

## Main results

* `RoqBitget.Gateway.Accounts.status_react` — the status of a stream after an event.
* `RoqBitget.Gateway.Accounts.statuses_agree` — the `Controller` sees the statuses as they are.
* `RoqBitget.Gateway.Accounts.orderEntryStatus_of_run` — the status of an `OrderEntry`.
-/

namespace RoqBitget.Gateway.Accounts

open RoqBitget.Core Runs Effects LastReported

variable {L : LimitRequest} {D : Download2 DropCopy.State (World L)}

/-! ## What a stream publishes -/

/-- The status that an action publishes. -/
def publishes? : Gateway.Action → Option ConnectionStatus
  | .publish status _ => some status
  | _ => none

/-- Whatever statuses a stream takes on, it publishes. -/
def Tells (w w' : World L) : Prop :=
  ∃ new, w'.actions = w.actions ++ new ∧
    w'.connectionStatus = settle w.connectionStatus (new.map publishes?)

namespace Tells

theorem refl (w : World L) : Tells w w := ⟨[], by simp, rfl⟩

theorem trans {u v w : World L} (h : Tells u v) (h' : Tells v w) : Tells u w := by
  obtain ⟨new, hactions, hstatus⟩ := h
  obtain ⟨new', hactions', hstatus'⟩ := h'
  refine ⟨new ++ new', ?_, ?_⟩
  · rw [hactions', hactions, List.append_assoc]
  · rw [hstatus', hstatus, List.map_append, settle_append]

/-- Other actions, and no other status. -/
theorem of_appends {P : Gateway.Action → Prop} (hP : ∀ a, P a → publishes? a = none)
    {w w' : World L} (hstatus : w'.connectionStatus = w.connectionStatus)
    (hactions : Appends P w.actions w'.actions) : Tells w w' := by
  obtain ⟨new, hnew, hall⟩ := hactions
  refine ⟨new, hnew, hstatus.trans (settle_of_mem (P := (w.connectionStatus = ·)) rfl ?_)⟩
  intro status hmem
  obtain ⟨a, ha, hsome⟩ := List.mem_map.mp hmem
  rw [hP a (hall a ha)] at hsome
  cases hsome

end Tells

/-- Everything that the websocket stream consists of tells the status. -/
theorem respects_tells (config : Config) :
    DropCopy.Respects config (Tells : World L → World L → Prop) where
  refl := Tells.refl
  trans := Tells.trans
  publish status reason _ := ⟨[.publish status reason], rfl, rfl⟩
  request slot _ := ⟨[.request slot], rfl, rfl⟩
  subscribe topic _ := ⟨[.subscribe topic], rfl, rfl⟩
  look _ _ := ⟨_, rfl, rfl⟩
  schedule _ w := Tells.refl w
  refused w := Tells.refl w
  notEmpty _ w := Tells.refl w

/-- **Every reaction tells the status** of the websocket stream. -/
theorem tells_react (config : Config) (s : DropCopy.Session L D) (e : Gateway.Event) :
    Tells s.world (Gateway.react config s e).world := by
  cases e with
  | restTimer tick =>
    have hsends := OrderEntry.sends_onTimer config tick s.world
    refine .of_appends ?_ hsends.connectionStatus hsends.actions
    rintro a (rfl | ⟨sent, rfl⟩) <;> rfl
  | response sent response =>
    have hanswers := OrderEntry.answers_onResponse config sent response s.world
    refine .of_appends ?_ hanswers.connectionStatus hanswers.actions
    rintro a (⟨e, rfl⟩ | ⟨f, rfl⟩ | rfl) <;> rfl
  | restConnected => exact ⟨[.publishOrderEntry .ready], rfl, rfl⟩
  | restDisconnected => exact ⟨[.publishOrderEntry .disconnected], rfl, rfl⟩
  | login code => exact (respects_tells config).react s (.login code) rfl
  | subscribed topic code => exact (respects_tells config).react s (.subscribed topic code) rfl
  | disconnected => exact (respects_tells config).react s .disconnected rfl
  | timer refresh now stale => exact (respects_tells config).react s (.timer refresh now stale) rfl

/-- The statuses among some actions of a stream. -/
def reports (actions : List PrivateStream.Action) : List (Option ConnectionStatus) :=
  actions.map fun action => (status? action).map Prod.fst

/-- What the two streams of an account do. -/
theorem status_react1 (config : DropCopy.MessageConfig) (event : Gateway.Event)
    (s : PrivateStream L D) :
    (PrivateStream.react1 config event s).1.session.world.connectionStatus =
      settle s.session.world.connectionStatus
        (reports (PrivateStream.react1 config event s).2) := by
  obtain ⟨new, hactions, hstatus⟩ := tells_react config.toConfig (fresh s.session) event
  have hnew : (PrivateStream.react1 config event s).2 = new.map .session :=
    congrArg (List.map PrivateStream.Action.session) hactions
  have hreports : reports (new.map .session) = new.map publishes? := by
    rw [reports, List.map_map]
    refine List.map_congr_left fun a _ => ?_
    cases a <;> rfl
  rw [hnew, hreports]
  exact hstatus

/-- **The status of a stream after an event** is the last one that it publishes. -/
theorem status_react (config : DropCopy.MessageConfig) (s : PrivateStream L D)
    (e : PrivateStream.Event) :
    (PrivateStream.react config s e).1.session.world.connectionStatus =
      settle s.session.world.connectionStatus (reports (PrivateStream.react config s e).2) := by
  cases e with
  | rest event => exact status_react1 config event s
  | disconnected => exact status_react1 config .disconnected _
  | text payload =>
    simp only [PrivateStream.react, PrivateStream.onText]
    cases DropCopy.parse config s.shared payload with
    | dispatch updates shared =>
      refine (settle_of_mem (P := (s.session.world.connectionStatus = ·)) rfl ?_)
      intro status hmem
      simp [reports, status?] at hmem
    | session event => exact status_react1 config event s
    | close => rfl
    | fatal fatal => rfl
  | timer refresh now stale =>
    have hreact := status_react1 config (.timer refresh now stale) s
    simp only [PrivateStream.react, PrivateStream.onTimer_eq]
    split_ifs
    · exact hreact
    · exact hreact
  | order action order refData requestId =>
    simp only [PrivateStream.react, PrivateStream.onOrder]
    split_ifs
    · cases Protocol.Encoder.message config.format s.encodeBuffer action order refData requestId
        config.instType <;> rfl
    · rfl
  | _ => rfl

/-! ## What the `Controller` sees -/

/-- The status of a stream that the `Controller` sees. -/
def statusAt (p : Controller.Process) (account : String) (i : ℕ) : Option ConnectionStatus :=
  (p.dropCopy.lookup account).bind fun rr =>
    rr.dropCopy[i]?.map Controller.DropCopy.connectionStatus

section Controller

variable {p : Controller.Process} {account account' : String} {i j : ℕ}

/-- A status is seen at the stream that takes it on. -/
theorem statusAt_onConnectionStatus (settings : Controller.Settings) (status : ConnectionStatus)
    (reason : String) (p : Controller.Process) :
    statusAt (Controller.Process.onConnectionStatus settings account i status reason p).1
        account' j =
      if account' = account ∧ j = i then (statusAt p account' j).map fun _ => status
      else statusAt p account' j := by
  cases hrr : p.dropCopy.lookup account with
  | none =>
    simp only [Controller.Process.onConnectionStatus, hrr]
    split_ifs with hsame
    · simp [statusAt, hsame.1, hrr]
    · rfl
  | some rr =>
    have hdropCopy := (Controller.Process.dropCopy_onConnectionStatus settings i status reason
      hrr).1
    rw [statusAt, hdropCopy, Controller.Map.lookup_update]
    by_cases haccount : account' = account
    · subst haccount
      by_cases hindex : j = i
      · subst hindex
        cases hstream : rr.dropCopy[j]? <;>
          simp [statusAt, hrr, Controller.DropCopyRR.react, hstream]
      · have hne : ¬ i = j := fun heq => hindex heq.symm
        simp [statusAt, hrr, Controller.DropCopyRR.react, hindex, hne]
    · simp [statusAt, haccount]

/-- The choice for an order changes no status. -/
theorem statusAt_onOrder (settings : Controller.Settings) (account : String)
    (p : Controller.Process) :
    statusAt (Controller.Process.onOrder settings account p).1 = statusAt p := by
  funext account' j
  unfold Controller.Process.onOrder Controller.Process.getDropCopy
  split_ifs
  · cases hrr : p.dropCopy.lookup account with
    | none => rfl
    | some rr =>
      have hsame : (rr.react .getNext).1.dropCopy = rr.dropCopy := by
        rw [Controller.DropCopyRR.react, Controller.DropCopyRR.getNext_eq]
        cases RoundRobin.next rr.dropCopy.length rr.ready rr.index <;> rfl
      simp only [statusAt, Controller.Process.updateDropCopy, Controller.Map.lookup_update]
      split_ifs with haccount
      · subst haccount
        simp [hrr, hsame]
      · rfl
  · rfl

/-- The last of several statuses is seen, unless the process ends. -/
theorem statusAt_publish (settings : Controller.Settings)
    (statuses : List (ConnectionStatus × String))
    (hrunning : (publish settings account i statuses p).1.aborted = none) :
    statusAt (publish settings account i statuses p).1 account' j =
      if account' = account ∧ j = i then
        (statusAt p account' j).map (settle · ((statuses.map Prod.fst).map some))
      else statusAt p account' j := by
  induction statuses generalizing p with
  | nil => split_ifs <;> simp [publish]
  | cons entry statuses ih =>
    obtain ⟨status, reason⟩ := entry
    unfold publish at hrunning ⊢
    split_ifs at hrunning ⊢ with hbefore hsame
    · rw [ih hrunning, if_pos hsame, statusAt_onConnectionStatus, if_pos hsame, Option.map_map]
      rfl
    · rw [ih hrunning, if_neg hsame, statusAt_onConnectionStatus, if_neg hsame]
    · exact absurd hrunning hbefore
    · rfl

end Controller

section Runs

variable {config : GatewayConfig} {created : Controller.Process} {h : History Event Action}
  {w : Accounts L D} {ok : History Event Action → Accounts L D → Event → Prop}

/-- The statuses that are seen are those of the streams. -/
def Agree (w : Accounts L D) : Prop :=
  ∀ account i, ∀ status ∈ statusAt w.controller account i,
    status = (w.streams account i).session.world.connectionStatus

/-- Something happens to a stream. -/
theorem Agree.onStream (hagree : Agree w) (account : String) (i : ℕ)
    (event : PrivateStream.Event)
    (hrunning : (onStream config created account i event w).1.controller.aborted = none) :
    Agree (onStream config created account i event w).1 := by
  cases hconfig : messageConfig? config created account i with
  | none =>
    rw [onStream_of_none hconfig]
    exact hagree
  | some messageConfig =>
    rw [onStream_eq hconfig] at hrunning ⊢
    intro account' j status hstatus
    simp only [statusAt_publish config.settings _ hrunning] at hstatus
    show status = (update account i _ w.streams account' j).session.world.connectionStatus
    unfold update
    split_ifs at hstatus ⊢ with hsame
    · obtain ⟨before, hbefore, rfl⟩ := Option.map_eq_some_iff.mp hstatus
      rw [status_react, hagree account' j before hbefore, hsame.1, hsame.2]
      rw [List.map_filterMap, settle_filterMap]
      rfl
    · exact hagree account' j status hstatus

/-- **The `Controller` sees the statuses of the streams as they are**, after any interleaving of
what happens to them. -/
theorem statuses_agree {names : List String} {id id' : UInt16}
    (hcreate : Controller.create config.settings names id = .ok created id')
    (run : Run (system config created L D) ok h w) (hrunning : w.controller.aborted = none) :
    Agree w := by
  refine run.invariant (P := fun _ w => w.controller.aborted = none → Agree w) ?_ ?_ hrunning
  · intro _ account i status hstatus
    obtain ⟨rr, hrr, hstream⟩ := Option.bind_eq_some_iff.mp hstatus
    obtain ⟨stream, hmem, rfl⟩ := Option.map_eq_some_iff.mp hstream
    have howned := (Controller.Process.owned_of_create hcreate).1 _
      (Controller.Map.mem_of_lookup hrr)
    exact howned.connectionStatus stream (List.mem_of_getElem? hmem)
  · intro h w e _ ih henabled _ hafter
    have hagree := ih henabled.2.1
    cases e with
    | stream account i event => exact hagree.onStream account i event hafter
    | order account action order refData requestId now =>
      have hchoice : Agree { w with
          controller := (Controller.Process.onOrder config.settings account w.controller).1 } := by
        intro account' i status hstatus
        rw [statusAt_onOrder] at hstatus
        exact hagree account' i status hstatus
      change (onOrder config created account action order refData requestId now
        w).1.controller.aborted = none at hafter
      show Agree (onOrder config created account action order refData requestId now w).1
      rcases onOrder_cases with ⟨_, i, -, hr⟩ | ⟨-, _, hr, -⟩
      · rw [hr] at hafter ⊢
        exact hchoice.onStream account i _ hafter
      · rw [hr]
        exact hchoice

end Runs

/-! ## The status of an `OrderEntry` -/

/-- The status that an event gives to an `OrderEntry`. -/
def restReport : PrivateStream.Event → Option ConnectionStatus
  | .rest .restConnected => some .ready
  | .rest .restDisconnected => some .disconnected
  | _ => none

/-- The status that the connection of an `OrderEntry` got last. -/
def restStatus (account : String) : History Event Action → ConnectionStatus
  | [] => .undefined
  | entry :: h =>
    match entry.event with
    | .stream account' _ event =>
      if account' = account then (restReport event).getD (restStatus account h)
      else restStatus account h
    | _ => restStatus account h

/-- The status of the `OrderEntry` stays the same. -/
def SameStatus (w w' : World L) : Prop := w'.orderEntryStatus = w.orderEntryStatus

/-- A tick leaves the status of the `OrderEntry` alone. -/
theorem sameStatus_onTimer (config : Config) (tick : OrderEntry.Tick) (w : World L) :
    SameStatus w (OrderEntry.onTimer config tick w) := by
  have hrefl : ∀ w : World L, SameStatus w w := fun _ => rfl
  have htrans : ∀ u v w : World L, SameStatus u v → SameStatus v w → SameStatus u w :=
    fun _ _ _ h h' => h'.trans h
  have hheartbeat : Ensures SameStatus
      (OrderEntry.sendHeartbeat config tick : OrderEntry.M L Unit) := by
    refine (Ensures.get hrefl).bind htrans fun w => ?_
    split_ifs
    · refine Ensures.bind htrans (Ensures.modify ?_) fun _ v => ?_
      · exact fun _ => rfl
      · unfold OrderEntry.countdownCancelAll
        split_ifs <;> rfl
    · exact Ensures.pure hrefl _
  have hqueue : Ensures SameStatus (OrderEntry.checkRequestQueue tick : OrderEntry.M L Unit) :=
    fun w => (OrderEntry.respectsQueue_unbeaten.checkRequestQueue tick w).orderEntryStatus
  unfold OrderEntry.onTimer
  split_ifs
  · exact (hheartbeat.bind htrans fun _ => hqueue) w
  · exact hrefl w

/-- The status of an `OrderEntry` after a reaction. -/
theorem orderEntryStatus_react (config : Config) (s : DropCopy.Session L D) (e : Gateway.Event) :
    (Gateway.react config (fresh s) e).world.orderEntryStatus =
      (restReport (.rest e)).getD s.world.orderEntryStatus := by
  by_cases hother : e.isRestStream = false
  · have hunbeaten : OrderEntry.Unbeaten (fresh s).world (Gateway.react config (fresh s) e).world :=
      unbeaten_step hother
    refine hunbeaten.orderEntryStatus.trans ?_
    cases e <;> first | rfl | simp [Event.isRestStream] at hother
  · cases e with
    | restTimer tick => exact sameStatus_onTimer config tick (fresh s).world
    | restConnected => rfl
    | restDisconnected => rfl
    | _ => simp [Event.isRestStream] at hother

/-- Only what happens to the REST stream changes its status. -/
theorem orderEntryStatus_react1 (config : DropCopy.MessageConfig) {event : Gateway.Event}
    (hreport : restReport (.rest event) = none) (s : PrivateStream L D) :
    (PrivateStream.react1 config event s).1.session.world.orderEntryStatus =
      s.session.world.orderEntryStatus := by
  have hreact := orderEntryStatus_react config.toConfig s.session event
  rw [hreport] at hreact
  exact hreact

/-- **The status of an `OrderEntry` after an event** of its account. -/
theorem orderEntryStatus_step (config : DropCopy.MessageConfig) (s : PrivateStream L D)
    (e : PrivateStream.Event) :
    (PrivateStream.react config s e).1.session.world.orderEntryStatus =
      (restReport e).getD s.session.world.orderEntryStatus := by
  cases e with
  | rest event => exact orderEntryStatus_react config.toConfig s.session event
  | disconnected => exact orderEntryStatus_react1 config rfl _
  | text payload =>
    simp only [PrivateStream.react, PrivateStream.onText]
    cases hparse : DropCopy.parse config s.shared payload with
    | session event =>
      refine orderEntryStatus_react1 config ?_ s
      rcases DropCopy.event_of_parse config s.shared hparse with ⟨code, rfl⟩ | ⟨topic, code, rfl⟩
      · rfl
      · rfl
    | _ => rfl
  | timer refresh now stale =>
    have hreact : ∀ s : PrivateStream L D, (PrivateStream.react1 config (.timer refresh now stale)
        s).1.session.world.orderEntryStatus = s.session.world.orderEntryStatus :=
      orderEntryStatus_react1 config rfl
    simp only [PrivateStream.react, PrivateStream.onTimer_eq]
    split_ifs
    · exact hreact _
    · exact hreact _
  | order action order refData requestId =>
    simp only [PrivateStream.react, PrivateStream.onOrder]
    split_ifs
    · cases Protocol.Encoder.message config.format s.encodeBuffer action order refData requestId
        config.instType <;> rfl
    · rfl
  | _ => rfl

section Runs

variable {config : GatewayConfig} {created : Controller.Process} {account : String} {i : ℕ}
  {h : History Event Action} {w : Accounts L D}
  {ok : History Event Action → Accounts L D → Event → Prop}

/-- Something happens to a stream. -/
theorem orderEntryStatus_onStream (event : PrivateStream.Event)
    (hevent : restReport event = none ∨
      i = 0 ∧ (messageConfig? config created account i).isSome = true) (account' : String) :
    ((onStream config created account i event w).1.streams account'
        0).session.world.orderEntryStatus =
      if account = account' then
        (restReport event).getD (w.streams account' 0).session.world.orderEntryStatus
      else (w.streams account' 0).session.world.orderEntryStatus := by
  by_cases hsame : account' = account ∧ 0 = i
  · obtain ⟨rfl, rfl⟩ := hsame
    cases hconfig : messageConfig? config created account' 0 with
    | none =>
      rw [onStream_of_none hconfig, hevent.resolve_right (by simp [hconfig])]
      simp
    | some messageConfig =>
      have hstep := orderEntryStatus_step messageConfig (part account' 0 w) event
      rw [onStream_eq hconfig, if_pos rfl]
      refine Eq.trans ?_ hstep
      simp [update]
  · rw [streams_onStream hsame]
    split_ifs with haccount
    · rcases hevent with hnone | ⟨hi, -⟩
      · rw [hnone]
        rfl
      · exact absurd ⟨haccount.symm, hi.symm⟩ hsame
    · rfl

/-- **The status of an `OrderEntry`** is the one that its connection got last. -/
theorem orderEntryStatus_of_run (run : Run (system config created L D) ok h w)
    (account : String) :
    (w.streams account 0).session.world.orderEntryStatus = restStatus account h := by
  refine run.invariant (P := fun h w =>
    (w.streams account 0).session.world.orderEntryStatus = restStatus account h) rfl ?_
  intro h w e _ ih henabled _
  cases e with
  | stream account' i event =>
    obtain ⟨-, -, hexists, houtside, -⟩ := henabled
    have hevent : restReport event = none ∨
        i = 0 ∧ (messageConfig? config created account' i).isSome = true := by
      cases event with
      | rest event => exact .inr ⟨houtside, hexists⟩
      | _ => exact .inl rfl
    exact (orderEntryStatus_onStream event hevent account).trans (by rw [ih]; rfl)
  | order account' action order refData requestId now =>
    show ((onOrder config created account' action order refData requestId now w).1.streams account
      0).session.world.orderEntryStatus = restStatus account h
    rcases onOrder_cases with ⟨_, i, -, hr⟩ | ⟨-, _, hr, -⟩
    · rw [hr]
      refine (orderEntryStatus_onStream (.order action order refData requestId) (.inl rfl)
        account).trans ?_
      split_ifs <;> exact ih
    · rw [hr]
      exact ih

end Runs

end RoqBitget.Gateway.Accounts
