import RoqBitget.Gateway.StreamIds

set_option relaxedAutoImplicit false
set_option autoImplicit false

/-!
# Where an order goes

The `Controller` looks for the account of an order and hands the order to one of its streams: to
its only REST stream, or to the next websocket stream that is ready. The accounts and their
streams change at the same time, each on its own. Where an order goes can be told from what
happened before, without the state of the `Controller`.

## Main definitions

* `RoqBitget.Gateway.Controller.Process.lastStatus` — the status that a stream got last.
* `RoqBitget.Gateway.Controller.Process.lastChoice` — the stream that got the latest order.
* `RoqBitget.Gateway.Controller.Process.turn` — the stream that gets the next order.

## Main results

* `RoqBitget.Gateway.Controller.Process.owned_of_create` — the streams that an account has.
* `RoqBitget.Gateway.Controller.Process.routed_of_run` — the state of an account, from its history.
* `RoqBitget.Gateway.Controller.Process.orders_routed` — where an order goes.
-/

namespace RoqBitget.Gateway.Controller.Process

open Runs Effects

/-! ## What a history says -/

/-- The status that the `i`-th stream of an account got last. -/
def lastStatus (account : String) (i : ℕ) : History Event Action → ConnectionStatus
  | [] => .undefined
  | entry :: h =>
    match entry.event with
    | .connectionStatus account' j status _ =>
      if account' = account ∧ j = i then status else lastStatus account i h
    | .order _ => lastStatus account i h

/-- The websocket stream of an account that the latest order went to. -/
def lastChoice (account : String) : History Event Action → Option ℕ
  | [] => none
  | entry :: h =>
    match entry.actions with
    | [.dropCopy account' (.returned i)] =>
      if account' = account then some i else lastChoice account h
    | _ => lastChoice account h

/-- The first of the `n` websocket streams of an account, cyclically after the one that the latest
order went to, whose last status is `READY`. -/
def turn (n : ℕ) (account : String) (h : History Event Action) : Option ℕ :=
  RoundRobin.next n (fun i => lastStatus account i h = .ready)
    ((lastChoice account h).elim 0 (· + 1))

/-! ## What an account has -/

/-- An account has `n` websocket streams, all of them new and its own. -/
structure Owned (n : ℕ) (account : String) (rr : DropCopyRR) : Prop where
  length : rr.dropCopy.length = n
  account : ∀ stream ∈ rr.dropCopy, stream.account = account
  connectionStatus : ∀ stream ∈ rr.dropCopy, stream.connectionStatus = .undefined
  index : rr.index = 0

/-- The inner loop over the streams of an account. -/
theorem owned_createStreams {account : String} {indices : List ℕ}
    {dropCopy streams : List DropCopy} {id id' : UInt16}
    (hbefore : ∀ stream ∈ dropCopy, stream.account = account ∧ stream.connectionStatus = .undefined)
    (h : createStreams account indices dropCopy id = .ok streams id') :
    streams.length = dropCopy.length + indices.length ∧
      ∀ stream ∈ streams, stream.account = account ∧ stream.connectionStatus = .undefined := by
  induction indices generalizing dropCopy id with
  | nil =>
    cases h
    exact ⟨rfl, hbefore⟩
  | cons i indices ih =>
    have hloop := (bind_of_ok (nextStreamId_eq id) _).symm.trans h
    obtain ⟨hlength, hall⟩ := ih (List.forall_mem_append.mpr ⟨hbefore,
      List.forall_mem_singleton.mpr ⟨rfl, rfl⟩⟩) hloop
    refine ⟨?_, hall⟩
    simp only [hlength, List.length_append, List.length_cons, List.length_nil]
    omega

/-- The loop over the `DropCopy` streams. -/
theorem owned_createDropCopies {settings : Settings} {requests : Map Unit}
    {accounts : Map Account} {result dropCopy : Map DropCopyRR} {id id' : UInt16}
    (hbefore : ∀ entry ∈ result,
      Owned settings.numberOfOrderEntryConnections.toNat entry.1 entry.2)
    (h : createDropCopies settings requests accounts result id = .ok dropCopy id') :
    ∀ entry ∈ dropCopy, Owned settings.numberOfOrderEntryConnections.toNat entry.1 entry.2 := by
  induction accounts generalizing result id with
  | nil =>
    cases h
    exact hbefore
  | cons entry accounts ih =>
    obtain ⟨key, account⟩ := entry
    obtain ⟨_, id₁, -, hrest⟩ := ok_of_bind h
    obtain ⟨streams, id₂, hstreams, hloop⟩ := ok_of_bind hrest
    obtain ⟨hlength, hall⟩ := owned_createStreams (by simp) hstreams
    refine ih (fun entry hentry => ?_) hloop
    rcases Map.mem_tryEmplace hentry with hentry | rfl
    · exact hbefore entry hentry
    · refine ⟨?_, fun stream hstream => (hall stream hstream).1,
        fun stream hstream => (hall stream hstream).2, rfl⟩
      rw [hlength, List.length_nil, List.length_range, Nat.zero_add]

/-- The loop over the order entries. -/
theorem owned_createOrderEntries {requests : Map Unit} {accounts : Map Account}
    {result orderEntry : Map OrderEntry} {id id' : UInt16}
    (hbefore : ∀ entry ∈ result, entry.2.account = entry.1)
    (h : createOrderEntries requests accounts result id = .ok orderEntry id') :
    (∀ entry ∈ orderEntry, entry.2.account = entry.1) ∧
      ∀ key, key ∈ orderEntry.map Prod.fst ↔
        key ∈ result.map Prod.fst ∨ key ∈ accounts.map fun entry => entry.2.name := by
  induction accounts generalizing result id with
  | nil =>
    cases h
    exact ⟨hbefore, by simp⟩
  | cons entry accounts ih =>
    obtain ⟨key, account⟩ := entry
    obtain ⟨_, id₁, -, hrest⟩ := ok_of_bind h
    have hloop := (bind_of_ok (nextStreamId_eq id₁) _).symm.trans hrest
    obtain ⟨hall, hkeys⟩ := ih (fun entry hentry => by
      rcases Map.mem_tryEmplace hentry with hentry | rfl
      · exact hbefore entry hentry
      · rfl) hloop
    refine ⟨hall, fun k => ?_⟩
    rw [hkeys, Map.mem_keys_tryEmplace, List.map_cons, List.mem_cons, or_assoc]

/-- **What the `Controller` has for its accounts.** -/
theorem owned_of_create {settings : Settings} {names : List String} {p : Process}
    {id id' : UInt16} (h : create settings names id = .ok p id') :
    (∀ entry ∈ p.dropCopy, Owned settings.numberOfOrderEntryConnections.toNat entry.1 entry.2) ∧
      (∀ entry ∈ p.orderEntry, entry.2.account = entry.1) ∧
      ∀ key, key ∈ p.orderEntry.map Prod.fst ↔ key ∈ names := by
  have hrest := (bind_of_ok (nextStreamId_eq id) _).symm.trans h
  obtain ⟨orderEntry, id₁, horder, hrest⟩ := ok_of_bind hrest
  obtain ⟨dropCopy, id₂, hdrop, hend⟩ := ok_of_bind hrest
  cases hend
  unfold createOrderEntry at horder
  split_ifs at horder with hzero
  · cases horder
  obtain ⟨hall, hkeys⟩ := owned_createOrderEntries (by simp) horder
  refine ⟨owned_createDropCopies (by simp) hdrop, hall, fun key => (hkeys key).trans ?_⟩
  rw [mem_names]
  simp

/-! ## The state of an account -/

/-- What the history says about an account with `n` websocket streams. -/
structure Routed (n : ℕ) (h : History Event Action) (account : String) (rr : DropCopyRR) :
    Prop where
  owners : rr.dropCopy.map DropCopy.account = List.replicate n account
  ready : ∀ i < n, rr.ready i = decide (lastStatus account i h = .ready)
  index : rr.index = (lastChoice account h).elim 0 fun i => (i + 1) % n

section Routed

variable {n : ℕ} {h : History Event Action} {account : String}
  {rr : DropCopyRR}

/-- At first nothing has happened. -/
theorem Owned.routed (howned : Owned n account rr) : Routed n [] account rr where
  owners := by
    rw [← howned.length]
    exact List.map_eq_replicate_iff.mpr howned.account
  ready i hi := by
    have hstream := List.getElem?_eq_getElem (howned.length.symm ▸ hi)
    rw [DropCopyRR.ready, hstream]
    simp [DropCopy.ready, howned.connectionStatus _ (List.getElem_mem _), lastStatus]
  index := howned.index

theorem Routed.length (hrouted : Routed n h account rr) : rr.dropCopy.length = n := by
  simpa using congrArg List.length hrouted.owners

/-- The stream that is returned is the one whose turn it is. -/
theorem Routed.next_eq (hrouted : Routed n h account rr) :
    RoundRobin.next rr.dropCopy.length rr.ready rr.index = turn n account h := by
  rw [hrouted.length, turn, RoundRobin.next_congr hrouted.ready, hrouted.index]
  cases lastChoice account h with
  | none => rfl
  | some i => simp only [Option.elim_some, RoundRobin.next, RoundRobin.order_mod]

/-- What does not concern an account leaves it alone. -/
theorem Routed.cons (hrouted : Routed n h account rr) {entry : Entry Event Action}
    (hstatus : ∀ i, lastStatus account i (entry :: h) = lastStatus account i h)
    (hchoice : lastChoice account (entry :: h) = lastChoice account h) :
    Routed n (entry :: h) account rr where
  owners := hrouted.owners
  ready i hi := by rw [hrouted.ready i hi, hstatus]
  index := by rw [hrouted.index, hchoice]

/-- Actions that return no stream. -/
theorem lastChoice_cons {entry : Entry Event Action}
    (hactions : ∀ account' i, entry.actions ≠ [.dropCopy account' (.returned i)]) :
    lastChoice account (entry :: h) = lastChoice account h := by
  rw [lastChoice]
  split
  · exact absurd ‹_› (hactions _ _)
  · rfl

/-- A status of the account. -/
theorem Routed.connectionStatus (hrouted : Routed n h account rr) (i : ℕ)
    (status : ConnectionStatus) (reason : String) {actions : List Action}
    (hactions : ∀ account' i, actions ≠ [.dropCopy account' (.returned i)]) :
    Routed n (⟨.connectionStatus account i status reason, actions⟩ :: h) account
      (rr.react (.connectionStatus i status)).1 where
  owners := by
    rw [← hrouted.owners]
    refine List.ext_getElem (by simp [DropCopyRR.react]) fun k _ _ => ?_
    by_cases hk : i = k <;> simp [DropCopyRR.react, hk]
  ready j hj := by
    have hready := hrouted.ready j hj
    have hstream := List.getElem?_eq_getElem (hrouted.length.symm ▸ hj)
    simp only [DropCopyRR.ready, DropCopyRR.react, List.getElem?_modify, lastStatus, true_and,
      hstream] at hready ⊢
    by_cases hij : i = j
    · simp [hij, DropCopy.ready]
    · simpa [hij] using hready
  index := by
    rw [lastChoice_cons hactions]
    exact hrouted.index

/-- The choice of a stream for an order of the account. -/
theorem Routed.getNext (hrouted : Routed n h account rr) :
    rr.react .getNext =
        (match turn n account h with
        | none => (rr, [.threw .notReady])
        | some i => ({ rr with index := (i + 1) % n }, [.returned i])) ∧
      Routed n (⟨.order account, (rr.react .getNext).2.map (.dropCopy account)⟩ :: h) account
        (rr.react .getNext).1 := by
  have hreact : rr.react .getNext =
      match turn n account h with
      | none => (rr, [.threw .notReady])
      | some i => ({ rr with index := (i + 1) % n }, [.returned i]) := by
    rw [DropCopyRR.react, DropCopyRR.getNext_eq, hrouted.next_eq, hrouted.length]
    cases turn n account h <;> rfl
  refine ⟨hreact, ?_⟩
  rw [hreact]
  cases turn n account h with
  | none => exact hrouted.cons (fun _ => rfl) (lastChoice_cons (by simp))
  | some i =>
    exact ⟨hrouted.owners, hrouted.ready, by simp [lastChoice]⟩

end Routed

/-! ## Runs -/

section Run

variable {settings : Settings} {names : List String} {created p : Process} {id id' : UInt16}
  {h : History Event Action} {account : String} {rr : DropCopyRR}

/-- What a status does to the streams of its account. -/
theorem dropCopy_onConnectionStatus (settings : Settings) (i : ℕ) (status : ConnectionStatus)
    (reason : String) (hrr : p.dropCopy.lookup account = some rr) :
    let r := onConnectionStatus settings account i status reason p
    r.1.dropCopy = p.dropCopy.update account (fun _ => (rr.react (.connectionStatus i status)).1) ∧
      ∀ account' i, r.2 ≠ [.dropCopy account' (.returned i)] := by
  simp only [onConnectionStatus, hrr]
  cases (rr.react (.connectionStatus i status)).1.dropCopy[i]? with
  | none => exact ⟨rfl, by simp⟩
  | some stream =>
    dsimp only
    cases stream.streamStatus settings reason <;> exact ⟨rfl, by simp⟩

/-- No event changes the order entries. -/
theorem orderEntry_react (settings : Settings) (p : Process) (event : Event) :
    (react settings p event).1.orderEntry = p.orderEntry := by
  cases event with
  | connectionStatus account i status reason =>
    simp only [react, onConnectionStatus]
    cases p.dropCopy.lookup account with
    | none => rfl
    | some rr =>
      dsimp only
      cases (rr.react (.connectionStatus i status)).1.dropCopy[i]? with
      | none => rfl
      | some stream =>
        dsimp only
        cases stream.streamStatus settings reason <;> rfl
  | order account =>
    simp only [react, onOrder, getDropCopy]
    split_ifs
    · cases p.dropCopy.lookup account <;> rfl
    · rfl

/-- A status says something about the account it is for. -/
theorem routed_connectionStatus {n : ℕ} {p : Process}
    (hrouted : ∀ account rr, p.dropCopy.lookup account = some rr → Routed n h account rr)
    (settings : Settings) (i : ℕ) (status : ConnectionStatus) (reason : String) {rr₀ : DropCopyRR}
    {account₀ : String} (hrr₀ : p.dropCopy.lookup account₀ = some rr₀)
    (hrr : (onConnectionStatus settings account₀ i status reason p).1.dropCopy.lookup account =
      some rr) :
    Routed n (⟨.connectionStatus account₀ i status reason,
      (onConnectionStatus settings account₀ i status reason p).2⟩ :: h) account rr := by
  obtain ⟨hdropCopy, hactions⟩ := dropCopy_onConnectionStatus settings i status reason hrr₀
  rw [hdropCopy, Map.lookup_update] at hrr
  split_ifs at hrr with haccount
  · subst haccount
    rw [hrr₀, Option.map_some, Option.some_inj] at hrr
    exact hrr ▸ (hrouted _ _ hrr₀).connectionStatus i status reason hactions
  · refine (hrouted _ _ hrr).cons (fun j => ?_) (lastChoice_cons hactions)
    exact if_neg fun hsame => haccount hsame.1.symm

/-- An order is one of the account it is for. -/
theorem routed_order {n : ℕ} {p : Process}
    (hrouted : ∀ account rr, p.dropCopy.lookup account = some rr → Routed n h account rr)
    (settings : Settings) {account₀ : String}
    (hrr : (onOrder settings account₀ p).1.dropCopy.lookup account = some rr) :
    Routed n (⟨.order account₀, (onOrder settings account₀ p).2⟩ :: h) account rr := by
  have hother : ∀ {rr actions}, p.dropCopy.lookup account = some rr →
      (∀ i, actions ≠ [.dropCopy account (.returned i)]) →
      Routed n (⟨.order account₀, actions⟩ :: h) account rr := by
    intro rr actions hrr hactions
    refine (hrouted _ _ hrr).cons (fun _ => rfl) ?_
    rw [lastChoice]
    split
    · rw [if_neg]
      rintro rfl
      exact hactions _ ‹_›
    · rfl
  unfold onOrder at hrr ⊢
  split_ifs at hrr ⊢
  · unfold getDropCopy at hrr ⊢
    cases hrr₀ : p.dropCopy.lookup account₀ with
    | none =>
      rw [hrr₀] at hrr
      exact hother hrr (by simp)
    | some rr₀ =>
      simp only [hrr₀, updateDropCopy, Map.lookup_update] at hrr
      dsimp only
      split_ifs at hrr with haccount
      · subst haccount
        rw [hrr₀, Option.map_some, Option.some_inj] at hrr
        exact hrr ▸ (hrouted _ _ hrr₀).getNext.2
      · refine hother hrr fun i hactions => ?_
        have hlength : (rr₀.react .getNext).2.length = 1 := by
          simpa using congrArg List.length hactions
        obtain ⟨choice, hchoice⟩ := List.length_eq_one_iff.mp hlength
        rw [hchoice] at hactions
        cases hactions
        exact haccount rfl
  · refine hother hrr fun i => ?_
    unfold getOrderEntry
    cases p.orderEntry.lookup account₀ <;> simp

/-- **The state of an account is what its history says.** -/
theorem routed_of_run (hcreate : create settings names id = .ok created id')
    (run : Run (system settings created) anyStep h p) :
    ∀ account rr, p.dropCopy.lookup account = some rr →
      Routed settings.numberOfOrderEntryConnections.toNat h account rr := by
  refine run.invariant (P := fun h p => ∀ account rr, p.dropCopy.lookup account = some rr →
    Routed settings.numberOfOrderEntryConnections.toNat h account rr) ?_ ?_
  · intro account rr hrr
    exact ((owned_of_create hcreate).1 _ (Map.mem_of_lookup hrr)).routed
  · intro h p event _ ih henabled _ account rr hrr
    cases event with
    | connectionStatus account₀ i status reason =>
      obtain ⟨-, rr₀, hrr₀, -⟩ := henabled
      exact routed_connectionStatus ih settings i status reason hrr₀ hrr
    | order account₀ => exact routed_order ih settings hrr

/-- The accounts and their order entries stay. -/
theorem accounts_of_run (run : Run (system settings created) anyStep h p) :
    p.orderEntry = created.orderEntry ∧
      ∀ key, (∃ rr, p.dropCopy.lookup key = some rr) ↔
        ∃ rr, created.dropCopy.lookup key = some rr := by
  refine run.invariant (P := fun _ p => p.orderEntry = created.orderEntry ∧
    ∀ key, (∃ rr, p.dropCopy.lookup key = some rr) ↔ ∃ rr, created.dropCopy.lookup key = some rr)
    ⟨rfl, fun _ => Iff.rfl⟩ ?_
  rintro h p event - ⟨horder, hkeys⟩ - -
  refine ⟨(orderEntry_react settings p event).trans horder, fun key => ?_⟩
  rw [← hkeys key]
  show (∃ rr, (react settings p event).1.dropCopy.lookup key = some rr) ↔ _
  rcases dropCopy_react settings p event with hsame | ⟨account, rr, e, -, hupdate⟩
  · rw [hsame]
  · rw [hupdate, Map.lookup_update]
    split_ifs <;> simp

/-- An account is unknown exactly if it is not in the configuration. -/
theorem lookup_dropCopy (hcreate : create settings names id = .ok created id')
    (run : Run (system settings created) anyStep h p) (account : String) :
    (∃ rr, p.dropCopy.lookup account = some rr) ↔ account ∈ names := by
  rw [(accounts_of_run run).2, ← (created_of_create hcreate).keys]
  exact ⟨fun ⟨_, hrr⟩ => List.mem_map_of_mem (Map.mem_of_lookup hrr), Map.exists_lookup⟩

/-- So it is for the order entries. -/
theorem lookup_orderEntry (hcreate : create settings names id = .ok created id')
    (run : Run (system settings created) anyStep h p) (account : String) :
    (∃ stream, p.orderEntry.lookup account = some stream) ↔ account ∈ names := by
  rw [(accounts_of_run run).1, ← (owned_of_create hcreate).2.2]
  exact ⟨fun ⟨_, hstream⟩ => List.mem_map_of_mem (Map.mem_of_lookup hstream), Map.exists_lookup⟩

/-- An order of an account that is not in the configuration. -/
theorem onOrder_of_notMem (hcreate : create settings names id = .ok created id')
    (run : Run (system settings created) anyStep h p) (hname : account ∉ names) :
    onOrder settings account p = (p, [.unknownAccount account]) := by
  have hdropCopy := Option.eq_none_iff_forall_ne_some.mpr fun rr hrr =>
    hname ((lookup_dropCopy hcreate run account).mp ⟨rr, hrr⟩)
  have horderEntry := Option.eq_none_iff_forall_ne_some.mpr fun stream hstream =>
    hname ((lookup_orderEntry hcreate run account).mp ⟨stream, hstream⟩)
  unfold onOrder getDropCopy getOrderEntry
  rw [hdropCopy, horderEntry]
  split_ifs <;> rfl

/-- An order that is sent over REST. -/
theorem onOrder_rest (hcreate : create settings names id = .ok created id')
    (run : Run (system settings created) anyStep h p) (hname : account ∈ names)
    (hrest : settings.wsApi = false) :
    ∃ stream, created.orderEntry.lookup account = some stream ∧ stream.account = account ∧
      onOrder settings account p = (p, [.orderEntry stream]) := by
  obtain ⟨stream, hstream⟩ := (lookup_orderEntry hcreate run account).mpr hname
  have hcreated : created.orderEntry.lookup account = some stream :=
    (accounts_of_run run).1 ▸ hstream
  refine ⟨stream, hcreated, (owned_of_create hcreate).2.1 _ (Map.mem_of_lookup hcreated), ?_⟩
  simp [onOrder, getOrderEntry, hrest, hstream]

/-- An order that is sent over a websocket. -/
theorem onOrder_websocket (hcreate : create settings names id = .ok created id')
    (run : Run (system settings created) anyStep h p) (hname : account ∈ names)
    (hws : settings.wsApi = true) :
    let n := settings.numberOfOrderEntryConnections.toNat
    ∃ rr, p.dropCopy.lookup account = some rr ∧
      rr.dropCopy.map DropCopy.account = List.replicate n account ∧
      onOrder settings account p = match turn n account h with
        | none => (p.updateDropCopy account rr, [.dropCopy account (.threw .notReady)])
        | some i => (p.updateDropCopy account { rr with index := (i + 1) % n },
            [.dropCopy account (.returned i)]) := by
  intro n
  obtain ⟨rr, hrr⟩ := (lookup_dropCopy hcreate run account).mpr hname
  have hrouted := routed_of_run hcreate run account rr hrr
  refine ⟨rr, hrr, hrouted.owners, ?_⟩
  simp only [onOrder, getDropCopy, hws, if_true, hrr, hrouted.getNext.1]
  cases turn n account h <;> rfl

/-- **Where an order goes**, after any interleaving of the statuses and the orders of all accounts.
An order of an account that is not in the configuration is refused. Over REST it goes to the one
`OrderEntry` of its account. Over the websocket it goes to a stream of its own account: the next
one, cyclically after the one that the latest order of this account went to, whose last status is
`READY`; or it is refused as there is no such stream. Nothing else changes. -/
theorem orders_routed (hcreate : create settings names id = .ok created id')
    (run : Run (system settings created) anyStep h p) (account : String) :
    let n := settings.numberOfOrderEntryConnections.toNat
    let r := (system settings created).step p (.order account)
    (account ∉ names → r = (p, [.unknownAccount account])) ∧
      (account ∈ names → settings.wsApi = false →
        ∃ stream, created.orderEntry.lookup account = some stream ∧ stream.account = account ∧
          r = (p, [.orderEntry stream])) ∧
      (account ∈ names → settings.wsApi = true →
        ∃ rr, p.dropCopy.lookup account = some rr ∧
          rr.dropCopy.map DropCopy.account = List.replicate n account ∧
          r = match turn n account h with
            | none => (p.updateDropCopy account rr, [.dropCopy account (.threw .notReady)])
            | some i => (p.updateDropCopy account { rr with index := (i + 1) % n },
                [.dropCopy account (.returned i)])) :=
  ⟨onOrder_of_notMem hcreate run, onOrder_rest hcreate run, onOrder_websocket hcreate run⟩

/-- Both connections of an account log in, there is an order, and the second one is lost. -/
def secondLost : List Event :=
  [.connectionStatus "A1" 0 .ready "", .connectionStatus "A1" 1 .ready "", .order "A1",
    .connectionStatus "A1" 1 .disconnected ""]

/-- The next order goes to the first connection again. -/
theorem secondLost_routed :
    create ⟨true, 2⟩ ["A1"] 0 = .ok twoConnections 4 ∧
      ((system ⟨true, 2⟩ twoConnections).step
        (play (system ⟨true, 2⟩ twoConnections) secondLost).2 (.order "A1")).2 =
          [.dropCopy "A1" (.returned 0)] := by
  have hcreate : create ⟨true, 2⟩ ["A1"] 0 = .ok twoConnections 4 := rfl
  have hrun : Run (system ⟨true, 2⟩ twoConnections) anyStep
      (play (system ⟨true, 2⟩ twoConnections) secondLost).1
      (play (system ⟨true, 2⟩ twoConnections) secondLost).2 :=
    Run.play ⟨⟨rfl, _, rfl, by decide⟩, trivial, ⟨rfl, _, rfl, by decide⟩, trivial,
      ⟨rfl, trivial⟩, trivial, ⟨rfl, _, rfl, by decide⟩, trivial, trivial⟩
  obtain ⟨rr, -, -, hstep⟩ := (orders_routed hcreate hrun "A1").2.2 (by decide) rfl
  exact ⟨hcreate, hstep ▸ rfl⟩

end Run

end RoqBitget.Gateway.Controller.Process
