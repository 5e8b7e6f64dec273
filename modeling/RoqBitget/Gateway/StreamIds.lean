import RoqBitget.Gateway.PrivateStreams
import RoqBitget.Gateway.Subscriptions

set_option relaxedAutoImplicit false
set_option autoImplicit false

/-!
# The ids of the streams

Everything that a gateway dispatches carries the id of a stream. The `Controller` numbers its
streams as it creates them, with a counter of sixteen bits: the stream of `Rest` first, then the
streams of the accounts, and then a `MarketData` stream whenever there is a new slice of symbols.

## Main definitions

* `RoqBitget.Gateway.Controller.numbers` — what the counter counts.
* `RoqBitget.Gateway.Controller.streamIds` — the ids of all streams of a gateway.

## Main results

* `RoqBitget.Gateway.Controller.numbers_nodup_iff` — how far the counter counts without repeating.
* `RoqBitget.Gateway.Controller.numbered_of_run` — the ids of the `MarketData` streams.
* `RoqBitget.Gateway.Controller.streamIds_nodup_iff` — when all ids of a gateway are different.
-/

namespace RoqBitget.Gateway.Controller

open Runs Effects RoqBitget.Core

/-! ## The counter -/

/-- The values of `++stream_id_`, `n` times from a value on. -/
def numbers (base : UInt16) (n : ℕ) : List UInt16 :=
  (List.range n).map fun i => base + UInt16.ofNat (i + 1)

@[simp] theorem length_numbers (base : UInt16) (n : ℕ) : (numbers base n).length = n := by
  simp [numbers]

/-- The next value. -/
theorem add_ofNat_succ (base : UInt16) (n : ℕ) :
    base + UInt16.ofNat n + 1 = base + UInt16.ofNat (n + 1) := by
  rw [UInt16.ofNat_add, UInt16.add_assoc]
  rfl

/-- Counting on. -/
theorem numbers_add (base : UInt16) (m n : ℕ) :
    numbers base (m + n) = numbers base m ++ numbers (base + UInt16.ofNat m) n := by
  rw [numbers, numbers, numbers, List.range_add, List.map_append, List.map_map]
  refine congrArg _ (List.map_congr_left fun i _ => ?_)
  rw [Function.comp_apply, Nat.add_assoc, UInt16.ofNat_add, UInt16.add_assoc]

/-- Counting once. -/
theorem numbers_one (base : UInt16) : numbers base 1 = [base + 1] := rfl

/-- **How far the counter counts** without repeating. -/
theorem numbers_nodup_iff (base : UInt16) (n : ℕ) : (numbers base n).Nodup ↔ n ≤ 65536 := by
  constructor
  · intro h
    by_contra hlarge
    -- the first value comes again after all others
    have hfirst : (numbers base n)[0]? = some (base + UInt16.ofNat 1) := by
      simp [numbers, show 0 < n by omega]
    have hagain : (numbers base n)[65536]? = some (base + UInt16.ofNat 1) := by
      simp [numbers, show 65536 < n by omega]
    have hsame := (List.nodup_iff_getElem?_ne_getElem?.mp h 0 65536 (by omega) (by simp; omega))
    exact hsame (hfirst.trans hagain.symm)
  · intro hsmall
    refine (List.nodup_map_iff_inj_on List.nodup_range).mpr fun i hi j hj heq => ?_
    rw [List.mem_range] at hi hj
    have hofNat : UInt16.ofNat (i + 1) = UInt16.ofNat (j + 1) := UInt16.add_right_inj _ |>.mp heq
    have hmod := congrArg UInt16.toNat hofNat
    rw [UInt16.toNat_ofNat', UInt16.toNat_ofNat'] at hmod
    omega

/-! ## The streams of market data -/

section MarketData

variable {S : Core.Symbols} {base : UInt16}

/-- The streams are numbered in the order of their creation. -/
structure Numbered (base : UInt16) (c : Controller S) : Prop where
  next : c.streamId = base + UInt16.ofNat c.marketData.length
  ids : ∀ i stream, c.marketData[i]? = some stream → stream.streamId = base + UInt16.ofNat (i + 1)

/-- A new stream gets the next number. -/
theorem Numbered.createStream {c : Controller S} (h : Numbered base c) :
    Numbered base (createStream c) := by
  have hnext : c.streamId + 1 = base + UInt16.ofNat (c.marketData.length + 1) := by
    rw [h.next, add_ofNat_succ]
  refine ⟨?_, fun i stream hstream => ?_⟩
  · show c.streamId + 1 = base + UInt16.ofNat (c.marketData ++ [_]).length
    rw [List.length_append, List.length_singleton, hnext]
  · change (c.marketData ++ [_])[i]? = some stream at hstream
    rcases Nat.lt_trichotomy i c.marketData.length with hlt | rfl | hgt
    · rw [List.getElem?_append_left hlt] at hstream
      exact h.ids i stream hstream
    · rw [List.getElem?_append_right le_rfl, Nat.sub_self] at hstream
      obtain rfl := Option.some.inj hstream
      exact hnext
    · rw [List.getElem?_append_right hgt.le] at hstream
      obtain ⟨k, hk⟩ := Nat.exists_eq_add_of_lt hgt
      rw [hk, show c.marketData.length + k + 1 - c.marketData.length = k + 1 by omega] at hstream
      simp at hstream

/-- More streams get the next numbers. -/
theorem Numbered.iterate {c : Controller S} (h : Numbered base c) (n : ℕ) :
    Numbered base (Controller.createStream^[n] c) := by
  induction n with
  | zero => exact h
  | succ n ih =>
    rw [Function.iterate_succ_apply']
    exact ih.createStream

/-- A change of statuses leaves the numbers alone. -/
theorem Numbered.onConnectionStatus {c : Controller S} (h : Numbered base c) (i : ℕ)
    (stream : MarketData) (status : ConnectionStatus) (reason : String) :
    Numbered base (onConnectionStatus i stream status reason c) := by
  refine ⟨?_, fun j stream' hstream' => ?_⟩
  · show c.streamId = base + UInt16.ofNat (c.marketData.modify i _).length
    rw [List.length_modify]
    exact h.next
  · change (c.marketData.modify i _)[j]? = some stream' at hstream'
    rw [List.getElem?_modify] at hstream'
    obtain ⟨old, hold, rfl⟩ := Option.map_eq_some_iff.mp hstream'
    have hid := h.ids j old hold
    by_cases hij : i = j <;> simpa [hij] using hid

/-- Subscribing leaves the numbers alone. -/
theorem Numbered.act {c : Controller S} (h : Numbered base c) (actions : List Action) :
    Numbered base (act actions c) := ⟨h.next, h.ids⟩

/-- New symbols add streams. -/
theorem Numbered.onSymbolsUpdate {c : Controller S} (h : Numbered base c) (new : List String) :
    Numbered base (onSymbolsUpdate new c) := by
  unfold Controller.onSymbolsUpdate
  dsimp only
  rw [foldl_subscribe]
  have hsymbols : Numbered base { c with symbols := (S.update new c.symbols).2 } :=
    ⟨h.next, h.ids⟩
  exact (hsymbols.iterate _).act _

/-- **The ids of the streams.** In every run the `i`-th stream has the `i`-th id after those that
were given before. -/
theorem numbered_of_run {config : Rest.Config}
    {ok : History Event Action → Rest.World (Controller S) → Event → Prop}
    {h : History Event Action} {w : Rest.World (Controller S)}
    (run : Run (system config S base) ok h w) : Numbered base w.controller := by
  refine run.invariant (P := fun _ w => Numbered base w.controller) ?_ ?_
  · exact ⟨(UInt16.add_zero base).symm, fun i stream hstream => by
      simp [system, Rest.World.initial, initial] at hstream⟩
  · rintro h w e - hw - -
    have hfresh : Numbered base { w.controller with actions := [] } := ⟨hw.next, hw.ids⟩
    show Numbered base (react config { w with
      controller := { w.controller with actions := [] } } e).controller
    have hsymbols : ((∃ ack, e = .instruments ack) ∨ ∃ requested, e = .subscribe requested) →
        Numbered base (react config { w with
          controller := { w.controller with actions := [] } } e).controller := by
      intro he
      rcases (react_records config _ he).2 with hupdate | ⟨-, hsame⟩
      · exact hupdate ▸ hfresh.onSymbolsUpdate _
      · exact hsame ▸ hfresh
    cases e with
    | instruments ack => exact hsymbols (.inl ⟨ack, rfl⟩)
    | subscribe requested => exact hsymbols (.inr ⟨requested, rfl⟩)
    | ready i =>
      simp only [react, onReady]
      split
      · exact hfresh
      · rw [subscribe_eq]
        exact (hfresh.onConnectionStatus _ _ _ _).act _
    | disconnected i =>
      simp only [react, onDisconnected]
      split
      · exact hfresh
      · exact hfresh.onConnectionStatus _ _ _ _

end MarketData

/-! ## The streams of the accounts -/

namespace Map

variable {β : Type}

/-- A new key is appended. -/
theorem tryEmplace_of_notMem {key : String} {value : β} {m : Map β} (h : key ∉ m.map Prod.fst) :
    m.tryEmplace key value = m ++ [(key, value)] := if_neg h

/-- A map has no key twice, and so after `try_emplace`. -/
theorem nodup_tryEmplace {key : String} {value : β} {m : Map β} (h : (m.map Prod.fst).Nodup) :
    ((m.tryEmplace key value).map Prod.fst).Nodup := by
  unfold tryEmplace
  split_ifs with hmem
  · exact h
  · rw [List.map_append, List.nodup_append]
    refine ⟨h, List.nodup_singleton _, fun a ha b hb heq => ?_⟩
    obtain rfl : b = key := by simpa using hb
    exact hmem (heq ▸ ha)

end Map

/-- No account is there twice. -/
theorem nodup_createAccounts (names : List String) :
    ((createAccounts names).map Prod.fst).Nodup := by
  have hfold : ∀ (names : List String) (m : Map Account), (m.map Prod.fst).Nodup →
      ((names.foldl (fun result name => result.tryEmplace name ⟨name⟩) m).map Prod.fst).Nodup := by
    intro names
    induction names with
    | nil => exact fun _ h => h
    | cons name names ih => exact fun m h => ih _ (Map.nodup_tryEmplace h)
  exact hfold names [] List.nodup_nil

/-- There are as many accounts as different names. -/
theorem length_createAccounts (names : List String) :
    (createAccounts names).length = names.dedup.length := by
  rw [← List.length_map (f := Prod.fst)]
  refine List.Perm.length_eq ((List.perm_ext_iff_of_nodup (nodup_createAccounts names)
    (List.nodup_dedup names)).mpr fun name => ?_)
  rw [List.mem_dedup]
  exact (mem_keys_foldl (fun name => (⟨name⟩ : Account)) names []).trans (by simp)

/-- The inner loop over the streams of an account. -/
theorem createStreams_ids {account : String} {indices : List ℕ} {dropCopy streams : List DropCopy}
    {id id' : UInt16} (h : createStreams account indices dropCopy id = .ok streams id') :
    streams.map DropCopy.streamId = dropCopy.map DropCopy.streamId ++ numbers id indices.length ∧
      id' = id + UInt16.ofNat indices.length := by
  induction indices generalizing dropCopy id with
  | nil =>
    cases h
    exact ⟨by simp [numbers], (UInt16.add_zero _).symm⟩
  | cons i indices ih =>
    obtain ⟨hids, hnext⟩ := ih ((bind_of_ok (nextStreamId_eq id) _).symm.trans h)
    rw [List.length_cons, Nat.add_comm indices.length 1, numbers_add, numbers_one]
    refine ⟨?_, ?_⟩
    · rw [hids]
      simp
    · rw [hnext, UInt16.ofNat_add, ← UInt16.add_assoc]
      rfl

/-- The ids of some order entries. -/
def orderEntryIds (m : Map OrderEntry) : List UInt16 := m.map fun entry => entry.2.streamId

/-- The ids of the `DropCopy` streams of some accounts. -/
def dropCopyIds (m : Map DropCopyRR) : List UInt16 :=
  m.flatMap fun entry => entry.2.dropCopy.map DropCopy.streamId

/-- Accounts that are not in a map of results yet, each under its name. -/
structure Remaining {β : Type} (accounts : Map Account) (result : Map β) : Prop where
  nodup : (accounts.map Prod.fst).Nodup
  named : ∀ entry ∈ accounts, entry.2.name = entry.1
  notMem : ∀ key ∈ accounts.map Prod.fst, key ∉ result.map Prod.fst

/-- The next account is appended. -/
theorem Remaining.cons {β : Type} {key : String} {account : Account} {accounts : Map Account}
    {result : Map β} (h : Remaining ((key, account) :: accounts) result) (value : β) :
    result.tryEmplace account.name value = result ++ [(account.name, value)] ∧
      Remaining accounts (result ++ [(account.name, value)]) := by
  have hname : account.name = key := h.named _ List.mem_cons_self
  have hkey : key ∉ result.map Prod.fst := h.notMem key List.mem_cons_self
  have hnodup := h.nodup
  rw [List.map_cons, List.nodup_cons] at hnodup
  refine ⟨Map.tryEmplace_of_notMem (hname ▸ hkey), hnodup.2,
    fun entry hentry => h.named entry (List.mem_cons_of_mem _ hentry), fun k hk => ?_⟩
  rw [List.map_append, List.mem_append, not_or, List.map_singleton, List.mem_singleton]
  refine ⟨h.notMem k (List.mem_cons_of_mem _ hk), ?_⟩
  rintro rfl
  exact hnodup.1 (hname ▸ hk)

/-- Looking for a request does not count. -/
theorem getRequest_id {requests : Map Unit} {account : String} {id id' : UInt16} {u : Unit}
    (h : getRequest requests account id = .ok u id') : id' = id := by
  unfold getRequest at h
  cases hrequest : requests.lookup account with
  | none =>
    rw [hrequest] at h
    cases h
  | some request =>
    rw [hrequest] at h
    cases h
    rfl

/-- The loop over the order entries. -/
theorem createOrderEntries_ids {requests : Map Unit} {accounts : Map Account}
    {result orderEntry : Map OrderEntry} {id id' : UInt16} (hremaining : Remaining accounts result)
    (h : createOrderEntries requests accounts result id = .ok orderEntry id') :
    orderEntryIds orderEntry = orderEntryIds result ++ numbers id accounts.length ∧
      id' = id + UInt16.ofNat accounts.length := by
  induction accounts generalizing result id with
  | nil =>
    cases h
    exact ⟨by simp [numbers], (UInt16.add_zero _).symm⟩
  | cons entry accounts ih =>
    obtain ⟨key, account⟩ := entry
    obtain ⟨_, id₁, hrequest, hrest⟩ := ok_of_bind h
    obtain rfl := getRequest_id hrequest
    have hloop := (bind_of_ok (nextStreamId_eq id₁) _).symm.trans hrest
    obtain ⟨hemplace, hremaining'⟩ := hremaining.cons ⟨id₁ + 1, account.name⟩
    rw [hemplace] at hloop
    obtain ⟨hids, hnext⟩ := ih hremaining' hloop
    rw [List.length_cons, Nat.add_comm accounts.length 1, numbers_add, numbers_one]
    refine ⟨?_, ?_⟩
    · rw [hids]
      simp [orderEntryIds]
    · rw [hnext, UInt16.ofNat_add, ← UInt16.add_assoc]
      rfl

/-- The loop over the `DropCopy` streams. -/
theorem createDropCopies_ids {settings : Settings} {requests : Map Unit} {accounts : Map Account}
    {result dropCopy : Map DropCopyRR} {id id' : UInt16} (hremaining : Remaining accounts result)
    (h : createDropCopies settings requests accounts result id = .ok dropCopy id') :
    dropCopyIds dropCopy = dropCopyIds result ++
        numbers id (accounts.length * settings.numberOfOrderEntryConnections.toNat) ∧
      id' = id + UInt16.ofNat (accounts.length * settings.numberOfOrderEntryConnections.toNat) := by
  induction accounts generalizing result id with
  | nil =>
    cases h
    exact ⟨by simp [numbers], by simp⟩
  | cons entry accounts ih =>
    obtain ⟨key, account⟩ := entry
    obtain ⟨_, id₁, hrequest, hrest⟩ := ok_of_bind h
    obtain rfl := getRequest_id hrequest
    obtain ⟨streams, id₂, hstreams, hloop⟩ := ok_of_bind hrest
    obtain ⟨hstreamIds, rfl⟩ := createStreams_ids hstreams
    obtain ⟨hemplace, hremaining'⟩ := hremaining.cons (⟨streams, 0⟩ : DropCopyRR)
    rw [hemplace] at hloop
    obtain ⟨hids, hnext⟩ := ih hremaining' hloop
    rw [List.length_cons, Nat.add_mul, Nat.one_mul, Nat.add_comm (_ * _), numbers_add]
    rw [List.length_range] at hids hnext hstreamIds
    refine ⟨?_, ?_⟩
    · rw [hids]
      simp [dropCopyIds, hstreamIds]
    · rw [hnext, UInt16.ofNat_add, ← UInt16.add_assoc]

/-! ## All streams -/

/-- The ids of all streams of a gateway, in the order of their creation; `base` is the value of
the counter before. -/
def streamIds {S : Core.Symbols} (base : UInt16) (p : Process) (c : Controller S) : List UInt16 :=
  -- the stream of `rest_`
  (base + 1) :: orderEntryIds p.orderEntry ++ dropCopyIds p.dropCopy ++
    c.marketData.map fun stream => stream.streamId

/-- The streams of the accounts and that of `Rest`. -/
theorem ids_of_create {settings : Settings} {names : List String} {p : Process} {id id' : UInt16}
    (h : create settings names id = .ok p id') :
    (id + 1) :: orderEntryIds p.orderEntry ++ dropCopyIds p.dropCopy =
        numbers id (1 + names.dedup.length * (1 + settings.numberOfOrderEntryConnections.toNat)) ∧
      id' = id + UInt16.ofNat
        (1 + names.dedup.length * (1 + settings.numberOfOrderEntryConnections.toNat)) := by
  have haccounts : ∀ {β : Type}, Remaining (createAccounts names) ([] : Map β) := fun {β} =>
    ⟨nodup_createAccounts names, fun _ hentry => name_of_mem_foldl (by simp) hentry, by simp⟩
  have hrest := (bind_of_ok (nextStreamId_eq id) _).symm.trans h
  obtain ⟨orderEntry, id₁, horder, hrest⟩ := ok_of_bind hrest
  obtain ⟨dropCopy, id₂, hdrop, hend⟩ := ok_of_bind hrest
  cases hend
  unfold createOrderEntry at horder
  split_ifs at horder with hzero
  · cases horder
  obtain ⟨horderIds, rfl⟩ := createOrderEntries_ids haccounts horder
  obtain ⟨hdropIds, rfl⟩ := createDropCopies_ids haccounts hdrop
  rw [length_createAccounts] at *
  rw [Nat.mul_add, Nat.mul_one, numbers_add, numbers_one, numbers_add]
  refine ⟨?_, ?_⟩
  · rw [horderIds, hdropIds]
    simp [orderEntryIds, dropCopyIds]
  · rw [UInt16.ofNat_add, UInt16.ofNat_add, ← UInt16.add_assoc, ← UInt16.add_assoc]
    rfl

/-- **All ids of a gateway.** The `Controller` is made, and then runs. The ids of its streams are
consecutive, and they are all different if and only if there are at most 65536 streams: that of
`Rest`, those of every account, and one for each slice of symbols. -/
theorem streamIds_nodup_iff {settings : Settings} {names : List String} {p : Process}
    {base id : UInt16} (hcreated : create settings names base = .ok p id) {config : Rest.Config}
    {S : Core.Symbols} {ok : History Event Action → Rest.World (Controller S) → Event → Prop}
    {h : History Event Action} {w : Rest.World (Controller S)}
    (run : Run (system config S id) ok h w) :
    let total := 1 + names.dedup.length * (1 + settings.numberOfOrderEntryConnections.toNat) +
      w.controller.marketData.length
    streamIds base p w.controller = numbers base total ∧
      ((streamIds base p w.controller).Nodup ↔ total ≤ 65536) := by
  obtain ⟨hids, rfl⟩ := ids_of_create hcreated
  have hmarketData : (w.controller.marketData.map fun stream => stream.streamId) =
      numbers (base + UInt16.ofNat
        (1 + names.dedup.length * (1 + settings.numberOfOrderEntryConnections.toNat)))
        w.controller.marketData.length := by
    refine List.ext_getElem (by simp) fun i hi _ => ?_
    rw [List.length_map] at hi
    rw [List.getElem_map, (numbered_of_run run).ids i _ (List.getElem?_eq_getElem hi)]
    simp [numbers]
  have hall : streamIds base p w.controller = numbers base
      (1 + names.dedup.length * (1 + settings.numberOfOrderEntryConnections.toNat) +
        w.controller.marketData.length) := by
    rw [numbers_add, ← hids, ← hmarketData]
    rfl
  exact ⟨hall, hall ▸ numbers_nodup_iff base _⟩

/-- What a gateway has for one account with one connection. -/
def oneAccount : Process where
  orderEntry := [("A1", ⟨2, "A1"⟩)]
  dropCopy := [("A1", ⟨[⟨3, "A1", true, .undefined⟩], 0⟩)]
  aborted := none

/-- With two slices of symbols there are five streams, and their ids are different. -/
theorem oneAccount_ids :
    create ⟨true, 1⟩ ["A1"] 0 = .ok oneAccount 3 ∧
      (streamIds 0 oneAccount (play twoInstrumentsSystem reconnect).2.controller).Nodup := by
  have hcreated : create ⟨true, 1⟩ ["A1"] 0 = .ok oneAccount 3 := rfl
  have hrun : Run twoInstrumentsSystem anyStep (play twoInstrumentsSystem reconnect).1
      (play twoInstrumentsSystem reconnect).2 := Run.play (by decide)
  exact ⟨hcreated, (streamIds_nodup_iff hcreated hrun).2.mpr (by decide)⟩

end RoqBitget.Gateway.Controller
