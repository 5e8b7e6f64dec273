import RoqBitget.Gateway.OrderConnections

set_option relaxedAutoImplicit false
set_option autoImplicit false

/-!
# The private streams of a gateway

For every account the `Controller` creates one `OrderEntry` and a vector of `DropCopy` streams,
the first of which is the master. A stream that changes its connection status publishes what it
supports, which depends on whether it is the master and on how orders are to be sent.

## Main definitions

* `RoqBitget.Gateway.Controller.createOrderEntry`, `createDropCopy` — the streams made from the
  settings and the accounts.
* `RoqBitget.Gateway.Controller.getSupports`, `DropCopy.onConnectionStatus` — what a stream
  publishes, or that the process ends.
* `RoqBitget.Gateway.Controller.Process.system` — changes of statuses and orders, in any order.

## Main results

* `RoqBitget.Gateway.Controller.Process.run_dropCopy` — the streams of one account behave as if
  there were no other accounts.
* `RoqBitget.Gateway.Controller.Process.fatal_unreachable_iff` — for which settings no stream
  ends the process.

## Implementation notes

A map is the list of its elements in the order of iteration. `log::fatal` ends the process, and
nothing happens afterwards. Of a stream status the constants are left out, and what the
connection tells about itself.
-/

namespace RoqBitget.Gateway.Controller

open Runs Effects

/-- The settings that decide about the private streams. -/
structure Settings where
  /-- `ws_api`. -/
  wsApi : Bool
  /-- `misc.number_of_order_entry_connections`. -/
  numberOfOrderEntryConnections : UInt32
  deriving DecidableEq

/-- The calls of `log::fatal` of the modelled functions. -/
inductive Fatal
  /-- `--number_of_order_entry_connections` is zero. -/
  | numberOfOrderEntryConnections
  /-- `get_request`: an account without requests. -/
  | request
  /-- `get_supports`: a stream that is not the master while orders go over REST. -/
  | supports
  deriving DecidableEq

/-! ## Construction -/

/-- A map with names as its keys. -/
abbrev Map (β : Type) := List (String × β)

/-- `try_emplace`. -/
def Map.tryEmplace {β : Type} (key : String) (value : β) (m : Map β) : Map β :=
  if key ∈ m.map Prod.fst then m else m ++ [(key, value)]

/-- Change the value of a key. -/
def Map.update {β : Type} (key : String) (f : β → β) (m : Map β) : Map β :=
  m.map fun entry => if entry.1 = key then (entry.1, f entry.2) else entry

/-- `Account`: its name. -/
structure Account where
  name : String
  deriving DecidableEq

/-- `OrderEntry`: what the `Controller` sees of it. -/
structure OrderEntry where
  streamId : UInt16
  account : String
  deriving DecidableEq

/-- `create_accounts`, from the names in the configuration. -/
def createAccounts (names : List String) : Map Account :=
  names.foldl (fun result name => result.tryEmplace name ⟨name⟩) []

/-- `create_requests`, from the names in the configuration; nothing of a request is needed. -/
def createRequests (names : List String) : Map Unit :=
  names.foldl (fun result name => result.tryEmplace name ()) []

/-- `++stream_id_`. -/
def nextStreamId : EStateM Fatal UInt16 UInt16 := do
  modify (· + 1)
  get

/-- `get_request`. -/
def getRequest (requests : Map Unit) (account : String) : EStateM Fatal UInt16 Unit :=
  match requests.lookup account with
  | none => throw .request
  | some request => pure request

/-- The loop of `create_order_entry`. -/
def createOrderEntries (requests : Map Unit) :
    Map Account → Map OrderEntry → EStateM Fatal UInt16 (Map OrderEntry)
  | [], result => pure result
  | (_, account) :: accounts, result => do
    getRequest requests account.name
    let streamId ← nextStreamId
    createOrderEntries requests accounts (result.tryEmplace account.name ⟨streamId, account.name⟩)

/-- `create_order_entry`. -/
def createOrderEntry (settings : Settings) (accounts : Map Account) (requests : Map Unit) :
    EStateM Fatal UInt16 (Map OrderEntry) := do
  if settings.numberOfOrderEntryConnections = 0 then
    throw .numberOfOrderEntryConnections
  createOrderEntries requests accounts []

/-- The inner loop of `create_drop_copy`, over the indices that are left. -/
def createStreams (account : String) : List ℕ → List DropCopy → EStateM Fatal UInt16 (List DropCopy)
  | [], dropCopy => pure dropCopy
  | i :: indices, dropCopy => do
    let master := i == 0
    let streamId ← nextStreamId
    createStreams account indices (dropCopy ++ [⟨streamId, account, master, .undefined⟩])

/-- The outer loop of `create_drop_copy`. -/
def createDropCopies (settings : Settings) (requests : Map Unit) :
    Map Account → Map DropCopyRR → EStateM Fatal UInt16 (Map DropCopyRR)
  | [], result => pure result
  | (_, account) :: accounts, result => do
    getRequest requests account.name
    let dropCopy ←
      createStreams account.name (List.range settings.numberOfOrderEntryConnections.toNat) []
    createDropCopies settings requests accounts (result.tryEmplace account.name ⟨dropCopy, 0⟩)

/-- `create_drop_copy`. -/
def createDropCopy (settings : Settings) (accounts : Map Account) (requests : Map Unit) :
    EStateM Fatal UInt16 (Map DropCopyRR) :=
  createDropCopies settings requests accounts []

/-- What a `Controller` has for its accounts. -/
structure Process where
  orderEntry : Map OrderEntry
  dropCopy : Map DropCopyRR
  /-- Where the process was aborted, if it was. -/
  aborted : Option Fatal
  deriving DecidableEq

/-- `Controller::Controller`, from the names of the accounts in the configuration. -/
def create (settings : Settings) (names : List String) : EStateM Fatal UInt16 Process := do
  let accounts := createAccounts names
  let requests := createRequests names
  -- the stream of `rest_`
  let _ ← nextStreamId
  let orderEntry ← createOrderEntry settings accounts requests
  let dropCopy ← createDropCopy settings accounts requests
  return ⟨orderEntry, dropCopy, none⟩

/-! ## Events -/

/-- `roq::SupportType`. -/
inductive SupportType
  | funds
  | position
  | order
  | trade
  | createOrder
  | modifyOrder
  | cancelOrder
  | orderAck
  deriving DecidableEq

/-- `roq::Priority`. -/
inductive Priority
  | primary
  | secondary
  deriving DecidableEq

/-- `SUPPORTS_PRIMARY`. -/
def supportsPrimary : List SupportType := [.funds, .position, .order, .trade]

/-- `SUPPORTS_PRIMARY_WS_API`. -/
def supportsPrimaryWsApi : List SupportType :=
  [.funds, .position, .order, .trade, .createOrder, .modifyOrder, .cancelOrder, .orderAck]

/-- `SUPPORTS_SECONDARY_WS_API`. -/
def supportsSecondaryWsApi : List SupportType :=
  [.createOrder, .modifyOrder, .cancelOrder, .orderAck]

/-- `get_supports`. -/
def getSupports (master wsApi : Bool) : Except Fatal (List SupportType) :=
  if master then
    if wsApi then
      pure supportsPrimaryWsApi
    else
      pure supportsPrimary
  else
    if wsApi then
      pure supportsSecondaryWsApi
    else
      throw .supports

/-- `roq::StreamStatus`. -/
structure StreamStatus where
  streamId : UInt16
  account : String
  supports : List SupportType
  priority : Priority
  connectionStatus : ConnectionStatus
  reason : String
  deriving DecidableEq

/-- `DropCopy::operator()(Trace<ConnectionStatus> const &, …)` after the status is assigned: the
stream status that is dispatched. -/
def DropCopy.streamStatus (settings : Settings) (reason : String) (stream : DropCopy) :
    Except Fatal StreamStatus := do
  let supports ← getSupports stream.master settings.wsApi
  return {
    streamId := stream.streamId
    account := stream.account
    supports
    priority := if stream.master then .primary else .secondary
    connectionStatus := stream.connectionStatus
    reason }

namespace Process

/-- What happens to the streams of the accounts. -/
inductive Event
  /-- A stream changes its status. -/
  | connectionStatus (account : String) (i : ℕ) (status : ConnectionStatus) (reason : String)
  /-- An order is to be created, modified or cancelled. -/
  | order (account : String)
  deriving DecidableEq

/-- What is done while an event is handled. -/
inductive Action
  /-- A stream dispatches its status. -/
  | publish (status : StreamStatus)
  /-- A call of `log::fatal`. -/
  | fatal (fatal : Fatal)
  /-- An order goes to an `OrderEntry`. -/
  | orderEntry (stream : OrderEntry)
  /-- A choice among the `DropCopy` streams of an account. -/
  | dropCopy (account : String) (choice : DropCopyRR.Action)
  /-- `RuntimeError`: the account is unknown. -/
  | unknownAccount (account : String)
  deriving DecidableEq

/-- Change the streams of an account. -/
def updateDropCopy (account : String) (rr : DropCopyRR) (p : Process) : Process :=
  { p with dropCopy := p.dropCopy.update account fun _ => rr }

/-- A change of a stream's status. -/
def onConnectionStatus (settings : Settings) (account : String) (i : ℕ) (status : ConnectionStatus)
    (reason : String) (p : Process) : Process × List Action :=
  match p.dropCopy.lookup account with
  | none => (p, [])
  | some rr =>
    let rr := (rr.react (.connectionStatus i status)).1
    let p := p.updateDropCopy account rr
    match rr.dropCopy[i]? with
    | none => (p, [])
    | some stream =>
      match stream.streamStatus settings reason with
      | .ok status => (p, [.publish status])
      | .error fatal => ({ p with aborted := some fatal }, [.fatal fatal])

/-- `Controller::get_order_entry`. -/
def getOrderEntry (account : String) (p : Process) : List Action :=
  match p.orderEntry.lookup account with
  | none => [.unknownAccount account]
  | some stream => [.orderEntry stream]

/-- `Controller::get_drop_copy`. -/
def getDropCopy (account : String) (p : Process) : Process × List Action :=
  match p.dropCopy.lookup account with
  | none => (p, [.unknownAccount account])
  | some rr =>
    let (rr, actions) := rr.react .getNext
    (p.updateDropCopy account rr, actions.map (.dropCopy account))

/-- `Controller::operator()(Event<CreateOrder> const &, …)`; the same for the other two. -/
def onOrder (settings : Settings) (account : String) (p : Process) : Process × List Action :=
  if settings.wsApi then getDropCopy account p else (p, getOrderEntry account p)

/-- What an event does. -/
def react (settings : Settings) (p : Process) : Event → Process × List Action
  | .connectionStatus account i status reason =>
    onConnectionStatus settings account i status reason p
  | .order account => onOrder settings account p

/-- The streams of the accounts over time; events on streams that exist, as long as the process
goes on. -/
def system (settings : Settings) (created : Process) : System Process Event Action where
  init := created
  enabled p event :=
    p.aborted = none ∧
      match event with
      | .connectionStatus account i _ _ =>
        ∃ rr, p.dropCopy.lookup account = some rr ∧ i < rr.dropCopy.length
      | .order _ => True
  step := react settings

end Process

/-! ## Maps -/

namespace Map

variable {β : Type} {m : Map β} {key : String}

theorem lookup_cons (a : String) (b : β) (m : Map β) (k : String) :
    List.lookup k ((a, b) :: m) = if k = a then some b else m.lookup k := by
  by_cases h : k = a
  · subst h
    simp
  · rw [List.lookup_cons, beq_false_of_ne h, if_neg h]

/-- A changed map has the same keys, and other values of one key only. -/
theorem lookup_update (m : Map β) (key : String) (f : β → β) (k : String) :
    (m.update key f).lookup k = if k = key then (m.lookup k).map f else m.lookup k := by
  induction m with
  | nil => simp [update]
  | cons entry m ih =>
    obtain ⟨a, b⟩ := entry
    change List.lookup k ((if a = key then (a, f b) else (a, b)) :: Map.update key f m) = _
    by_cases ha : a = key
    · rw [if_pos ha, lookup_cons, lookup_cons, ih]
      by_cases hk : k = a
      · rw [if_pos hk, if_pos hk, if_pos (hk.trans ha), Option.map_some]
      · rw [if_neg hk, if_neg hk]
    · rw [if_neg ha, lookup_cons, lookup_cons, ih]
      by_cases hk : k = a
      · rw [if_pos hk, if_pos hk, if_neg (hk ▸ ha)]
      · rw [if_neg hk, if_neg hk]

/-- The keys after one more. -/
theorem mem_keys_tryEmplace (value : β) (m : Map β) {k : String} :
    k ∈ (m.tryEmplace key value).map Prod.fst ↔ k ∈ m.map Prod.fst ∨ k = key := by
  by_cases h : key ∈ m.map Prod.fst
  · rw [tryEmplace, if_pos h]
    exact ⟨Or.inl, fun hk => hk.elim id fun hkey => hkey ▸ h⟩
  · rw [tryEmplace, if_neg h, List.map_append, List.mem_append]
    simp

/-- An element after one more. -/
theorem mem_tryEmplace {value : β} {entry : String × β} (h : entry ∈ m.tryEmplace key value) :
    entry ∈ m ∨ entry = (key, value) := by
  unfold tryEmplace at h
  split at h
  · exact .inl h
  · simpa using h

/-- A map has a value for its keys. -/
theorem exists_lookup (h : key ∈ m.map Prod.fst) : ∃ value, m.lookup key = some value := by
  apply Option.ne_none_iff_exists'.mp
  intro hnone
  obtain ⟨entry, hentry, hkey⟩ := List.mem_map.mp h
  have := List.lookup_eq_none_iff.mp hnone entry hentry
  simp_all

/-- A value of a map belongs to an element. -/
theorem mem_of_lookup {value : β} (h : m.lookup key = some value) : (key, value) ∈ m := by
  obtain ⟨before, after, hm, -⟩ := List.lookup_eq_some_iff.mp h
  rw [hm]
  simp

end Map

/-! ## What is created -/

/-- The streams of an account, as far as their number and the master go. -/
def masters (settings : Settings) : List Bool :=
  (List.range settings.numberOfOrderEntryConnections.toNat).map (· == 0)

/-- A stream id is always to be had. -/
theorem nextStreamId_eq (id : UInt16) : nextStreamId id = .ok (id + 1) (id + 1) := rfl

/-- The inner loop makes one stream for each index, the first of them being the master. -/
theorem createStreams_eq (account : String) (indices : List ℕ) (dropCopy : List DropCopy)
    (id : UInt16) :
    ∃ streams id', createStreams account indices dropCopy id = .ok streams id' ∧
      streams.map DropCopy.master = dropCopy.map DropCopy.master ++ indices.map (· == 0) := by
  induction indices generalizing dropCopy id with
  | nil => exact ⟨dropCopy, id, rfl, by simp⟩
  | cons i indices ih =>
    obtain ⟨streams, id', hok, hmasters⟩ :=
      ih (dropCopy ++ [⟨id + 1, account, i == 0, .undefined⟩]) (id + 1)
    refine ⟨streams, id', (bind_of_ok (nextStreamId_eq id) _).trans hok, ?_⟩
    rw [hmasters]
    simp

/-- The names that both maps of the accounts have. -/
theorem mem_keys_foldl {β : Type} (value : String → β) (names : List String) (m : Map β)
    {k : String} :
    k ∈ (names.foldl (fun result name => result.tryEmplace name (value name)) m).map Prod.fst ↔
      k ∈ m.map Prod.fst ∨ k ∈ names := by
  induction names generalizing m with
  | nil => simp
  | cons name names ih =>
    rw [List.foldl_cons, ih, Map.mem_keys_tryEmplace, List.mem_cons, or_assoc]

/-- An account is in the map under its name. -/
theorem name_of_mem_foldl {names : List String} {m : Map Account}
    (hm : ∀ entry ∈ m, entry.2.name = entry.1) {entry : String × Account}
    (h : entry ∈ names.foldl (fun result name => result.tryEmplace name ⟨name⟩) m) :
    entry.2.name = entry.1 := by
  induction names generalizing m with
  | nil => exact hm entry h
  | cons name names ih =>
    refine ih (fun entry hentry => ?_) h
    rcases Map.mem_tryEmplace hentry with hbefore | rfl
    · exact hm entry hbefore
    · rfl

/-- The accounts have the names of the configuration. -/
theorem mem_names {names : List String} {name : String} :
    name ∈ (createAccounts names).map (fun entry => entry.2.name) ↔ name ∈ names := by
  have hkeys : (createAccounts names).map (fun entry => entry.2.name) =
      (createAccounts names).map Prod.fst :=
    List.map_congr_left fun entry hentry => name_of_mem_foldl (by simp) hentry
  have hmem := mem_keys_foldl (fun name => (⟨name⟩ : Account)) names [] (k := name)
  rw [hkeys]
  exact hmem.trans (by simp)

/-- The request of an account from the configuration is found. -/
theorem getRequest_eq {names : List String} {account : String} (h : account ∈ names)
    (id : UInt16) : getRequest (createRequests names) account id = .ok () id := by
  obtain ⟨request, hrequest⟩ := Map.exists_lookup
    ((mem_keys_foldl (fun _ => ()) names []).mpr (Or.inr h))
  simp only [getRequest]
  rw [show (createRequests names).lookup account = some request from hrequest]
  rfl

/-- The streams of every account, and no others, are made. -/
theorem createDropCopies_eq (settings : Settings) {names : List String} {accounts : Map Account}
    (haccounts : ∀ entry ∈ accounts, entry.2.name ∈ names) (result : Map DropCopyRR)
    (id : UInt16) :
    ∃ dropCopy id',
      createDropCopies settings (createRequests names) accounts result id = .ok dropCopy id' ∧
      (∀ key, key ∈ dropCopy.map Prod.fst ↔
        key ∈ result.map Prod.fst ∨ key ∈ accounts.map fun entry => entry.2.name) ∧
      ∀ entry ∈ dropCopy, entry ∈ result ∨
        entry.2.index = 0 ∧ entry.2.dropCopy.map DropCopy.master = masters settings := by
  induction accounts generalizing result id with
  | nil => exact ⟨result, id, rfl, by simp, fun entry hentry => .inl hentry⟩
  | cons entry accounts ih =>
    obtain ⟨key, account⟩ := entry
    have haccount : account.name ∈ names := haccounts _ List.mem_cons_self
    obtain ⟨streams, id₁, hstreams, hmasters⟩ := createStreams_eq account.name
      (List.range settings.numberOfOrderEntryConnections.toNat) [] id
    obtain ⟨dropCopy, id₂, hok, hkeys, hentries⟩ :=
      ih (fun entry hentry => haccounts entry (List.mem_cons_of_mem _ hentry))
        (result.tryEmplace account.name ⟨streams, 0⟩) id₁
    refine ⟨dropCopy, id₂, ?_, fun k => ?_, fun entry hentry => ?_⟩
    · calc createDropCopies settings (createRequests names) ((key, account) :: accounts) result id
          = (createStreams account.name
              (List.range settings.numberOfOrderEntryConnections.toNat) [] >>= fun dropCopy =>
              createDropCopies settings (createRequests names) accounts
                (result.tryEmplace account.name ⟨dropCopy, 0⟩)) id :=
            bind_of_ok (getRequest_eq haccount id) _
        _ = _ := bind_of_ok hstreams _
        _ = _ := hok
    · rw [hkeys, Map.mem_keys_tryEmplace, List.map_cons, List.mem_cons, or_assoc]
    · rcases hentries entry hentry with hbefore | hnew
      · rcases Map.mem_tryEmplace hbefore with hbefore | rfl
        · exact .inl hbefore
        · exact .inr ⟨rfl, hmasters⟩
      · exact .inr hnew

/-- What a `Controller` has when it is made. -/
structure Created (settings : Settings) (names : List String) (p : Process) : Prop where
  accepted : settings.numberOfOrderEntryConnections ≠ 0
  running : p.aborted = none
  keys : ∀ name, name ∈ p.dropCopy.map Prod.fst ↔ name ∈ names
  index : ∀ entry ∈ p.dropCopy, entry.2.index = 0
  masters : ∀ entry ∈ p.dropCopy,
    entry.2.dropCopy.map DropCopy.master = Controller.masters settings

/-- Every account has its order entry. -/
theorem createOrderEntries_eq {names : List String} {accounts : Map Account}
    (haccounts : ∀ entry ∈ accounts, entry.2.name ∈ names) (result : Map OrderEntry)
    (id : UInt16) :
    ∃ orderEntry id',
      createOrderEntries (createRequests names) accounts result id = .ok orderEntry id' := by
  induction accounts generalizing result id with
  | nil => exact ⟨result, id, rfl⟩
  | cons entry accounts ih =>
    obtain ⟨key, account⟩ := entry
    obtain ⟨orderEntry, id', hok⟩ :=
      ih (fun entry hentry => haccounts entry (List.mem_cons_of_mem _ hentry))
        (result.tryEmplace account.name ⟨id + 1, account.name⟩) (id + 1)
    refine ⟨orderEntry, id', ?_⟩
    exact (bind_of_ok (getRequest_eq (haccounts _ List.mem_cons_self) id) _).trans
      ((bind_of_ok (nextStreamId_eq id) _).trans hok)

/-- Whether there is an order entry depends on the number of connections only. -/
theorem createOrderEntry_eq (settings : Settings) {names : List String} {accounts : Map Account}
    (haccounts : ∀ entry ∈ accounts, entry.2.name ∈ names) (id : UInt16) :
    if settings.numberOfOrderEntryConnections = 0 then
      createOrderEntry settings accounts (createRequests names) id =
        .error .numberOfOrderEntryConnections id
    else ∃ orderEntry id',
      createOrderEntry settings accounts (createRequests names) id = .ok orderEntry id' := by
  unfold createOrderEntry
  split_ifs with hzero
  · rfl
  · exact createOrderEntries_eq haccounts [] id

/-- A `Controller` is made for every positive number of connections, with the streams of all
accounts. -/
theorem create_eq (settings : Settings) (names : List String) (id : UInt16) :
    if settings.numberOfOrderEntryConnections = 0 then
      create settings names id = .error .numberOfOrderEntryConnections (id + 1)
    else ∃ p id', create settings names id = .ok p id' ∧ Created settings names p := by
  have haccounts : ∀ entry ∈ createAccounts names, entry.2.name ∈ names :=
    fun entry hentry => mem_names.mp (List.mem_map_of_mem hentry)
  have horder := createOrderEntry_eq settings haccounts (id + 1)
  have hfirst : create settings names id =
      (createOrderEntry settings (createAccounts names) (createRequests names) >>= fun orderEntry =>
        createDropCopy settings (createAccounts names) (createRequests names) >>= fun dropCopy =>
          pure ⟨orderEntry, dropCopy, none⟩) (id + 1) :=
    bind_of_ok (nextStreamId_eq id) _
  split_ifs at horder ⊢ with hzero
  · exact hfirst.trans (bind_of_error horder _)
  · obtain ⟨orderEntry, id₁, hok⟩ := horder
    obtain ⟨dropCopy, id₂, hdrop, hkeys, hentries⟩ :=
      createDropCopies_eq settings haccounts [] id₁
    refine ⟨⟨orderEntry, dropCopy, none⟩, id₂, ?_, hzero, rfl, fun name => ?_, ?_, ?_⟩
    · exact hfirst.trans ((bind_of_ok hok _).trans (bind_of_ok hdrop _))
    · rw [hkeys name, mem_names]
      simp
    · exact fun entry hentry => ((hentries entry hentry).resolve_left (by simp)).1
    · exact fun entry hentry => ((hentries entry hentry).resolve_left (by simp)).2

/-- What a `Controller` has, given that it was made. -/
theorem created_of_create {settings : Settings} {names : List String} {p : Process}
    {id id' : UInt16} (h : create settings names id = .ok p id') : Created settings names p := by
  have hcreate := create_eq settings names id
  split_ifs at hcreate
  · rw [h] at hcreate
    cases hcreate
  · obtain ⟨p', id'', hok, hcreated⟩ := hcreate
    rw [h] at hok
    cases hok
    exact hcreated

namespace Process

/-! ## Runs -/

variable {settings : Settings} {created : Process}

/-- An event is a reaction of the streams of one account at most. -/
theorem dropCopy_react (settings : Settings) (p : Process) (event : Event) :
    (react settings p event).1.dropCopy = p.dropCopy ∨
      ∃ account rr, ∃ e : DropCopyRR.Event, p.dropCopy.lookup account = some rr ∧
        (react settings p event).1.dropCopy =
          p.dropCopy.update account fun _ => (rr.react e).1 := by
  cases event with
  | connectionStatus account i status reason =>
    simp only [react, onConnectionStatus]
    cases hrr : p.dropCopy.lookup account with
    | none => exact .inl rfl
    | some rr =>
      refine .inr ⟨account, rr, .connectionStatus i status, hrr, ?_⟩
      dsimp only
      cases (rr.react (.connectionStatus i status)).1.dropCopy[i]? with
      | none => rfl
      | some stream =>
        dsimp only
        cases stream.streamStatus settings reason <;> rfl
  | order account =>
    simp only [react, onOrder]
    cases settings.wsApi with
    | false => exact .inl rfl
    | true =>
      simp only [getDropCopy]
      cases hrr : p.dropCopy.lookup account with
      | none => exact .inl rfl
      | some rr => exact .inr ⟨account, rr, .getNext, hrr, rfl⟩

/-- The streams of one account behave as if there were no other accounts. -/
theorem run_dropCopy (hindex : ∀ entry ∈ created.dropCopy, entry.2.index = 0)
    {h : History Event Action} {p : Process} (run : Run (system settings created) anyStep h p)
    {account : String} {rr : DropCopyRR} (hrr : p.dropCopy.lookup account = some rr) :
    ∃ h' rr₀, created.dropCopy.lookup account = some rr₀ ∧
      Run (DropCopyRR.system rr₀.dropCopy) anyStep h' rr := by
  induction run generalizing rr with
  | init =>
    have hzero := hindex _ (Map.mem_of_lookup hrr)
    refine ⟨[], rr, hrr, ?_⟩
    obtain ⟨dropCopy, index⟩ := rr
    obtain rfl : index = 0 := hzero
    exact .init
  | @step h p event run enabled guard ih =>
    rcases dropCopy_react settings p event with hsame | ⟨account', rr', e, hrr', hupdate⟩
    · refine ih (hsame ▸ hrr)
    · have hlookup : (p.dropCopy.update account' fun _ => (rr'.react e).1).lookup account =
          some rr := hupdate ▸ hrr
      rw [Map.lookup_update] at hlookup
      split_ifs at hlookup with haccount
      · rw [haccount, hrr', Option.map_some, Option.some_inj] at hlookup
        obtain ⟨h', rr₀, hrr₀, run'⟩ := ih (haccount ▸ hrr')
        exact ⟨_, rr₀, hrr₀, hlookup ▸ run'.step trivial trivial⟩
      · exact ih hlookup

/-- A stream ends the process if it is not the master and orders go over REST. -/
theorem streamStatus_eq_error_iff {reason : String} {stream : DropCopy} {fatal : Fatal} :
    stream.streamStatus settings reason = .error fatal ↔
      stream.master = false ∧ settings.wsApi = false ∧ fatal = .supports := by
  unfold DropCopy.streamStatus getSupports
  cases stream.master <;> cases settings.wsApi
  · constructor
    · rintro ⟨⟩
      exact ⟨rfl, rfl, rfl⟩
    · rintro ⟨-, -, rfl⟩
      rfl
  all_goals
    constructor
    · rintro ⟨⟩
    · simp

/-- A change of a status ends the process if the stream does. -/
theorem fatal_mem_onConnectionStatus {p : Process} {account : String} {i : ℕ}
    {status : ConnectionStatus} {reason : String} {fatal : Fatal} :
    .fatal fatal ∈ (onConnectionStatus settings account i status reason p).2 ↔
      ∃ rr, p.dropCopy.lookup account = some rr ∧
        (rr.dropCopy.map DropCopy.master)[i]? = some false ∧
        settings.wsApi = false ∧ fatal = .supports := by
  unfold onConnectionStatus
  cases p.dropCopy.lookup account with
  | none => simp
  | some rr =>
    have hmaster : ((rr.react (.connectionStatus i status)).1.dropCopy[i]?).map DropCopy.master =
        (rr.dropCopy.map DropCopy.master)[i]? := by
      rw [← List.getElem?_map, DropCopyRR.masters_react]
    simp only [Option.some.injEq, exists_eq_left']
    rw [← hmaster]
    cases (rr.react (.connectionStatus i status)).1.dropCopy[i]? with
    | none => simp
    | some stream =>
      simp only [Option.map_some, Option.some.injEq]
      cases hstatus : stream.streamStatus settings reason with
      | ok status =>
        have hnot : stream.streamStatus settings reason ≠ .error fatal := by
          rw [hstatus]
          nofun
        rw [Ne, streamStatus_eq_error_iff] at hnot
        simp_all
      | error fatal' =>
        obtain ⟨hsecondary, hrest, rfl⟩ := streamStatus_eq_error_iff.mp hstatus
        simp [hsecondary, hrest]

/-- An order never ends the process. -/
theorem fatal_notMem_onOrder {p : Process} {account : String} {fatal : Fatal} :
    Action.fatal fatal ∉ (onOrder settings account p).2 := by
  unfold onOrder getDropCopy getOrderEntry
  cases settings.wsApi with
  | false => cases p.orderEntry.lookup account <;> simp
  | true => cases p.dropCopy.lookup account <;> simp

/-- The masters of the streams of an account are in every run those that were made. -/
theorem masters_of_run {names : List String} (hcreated : Created settings names created)
    {h : History Event Action} {p : Process} (run : Run (system settings created) anyStep h p)
    {account : String} {rr : DropCopyRR} (hrr : p.dropCopy.lookup account = some rr) :
    account ∈ names ∧ rr.dropCopy.map DropCopy.master = masters settings := by
  obtain ⟨h', rr₀, hrr₀, run'⟩ := run_dropCopy hcreated.index run hrr
  have hmem := Map.mem_of_lookup hrr₀
  refine ⟨(hcreated.keys account).mp (List.mem_map_of_mem hmem), ?_⟩
  rw [← hcreated.masters _ hmem]
  exact run'.invariant (P := fun _ rr =>
      rr.dropCopy.map DropCopy.master = rr₀.dropCopy.map DropCopy.master) rfl
    fun _ rr event _ hmasters _ _ => (DropCopyRR.masters_react rr event).trans hmasters

/-- Some stream is not a master exactly if there is more than one. -/
theorem secondary_iff (settings : Settings) :
    (∃ i : ℕ, (masters settings)[i]? = some false) ↔
      1 < settings.numberOfOrderEntryConnections.toNat := by
  constructor
  · rintro ⟨i, hi⟩
    obtain ⟨hlt, hplace⟩ := List.getElem?_eq_some_iff.mp hi
    simp only [masters, List.length_map, List.length_range, List.getElem_map, List.getElem_range,
      beq_eq_false_iff_ne] at hlt hplace
    omega
  · intro hmany
    refine ⟨1, ?_⟩
    rw [masters, List.getElem?_map, List.getElem?_range hmany]
    rfl

/-- With orders over REST, a second stream of an account can end the process at once. -/
theorem exists_fatal {names : List String} (hcreated : Created settings names created)
    (hrest : settings.wsApi = false) (hmany : 1 < settings.numberOfOrderEntryConnections.toNat)
    {name : String} (hname : name ∈ names) :
    ∃ h p, Run (system settings created) anyStep h p ∧
      ∃ entry ∈ h, Action.fatal .supports ∈ entry.actions := by
  obtain ⟨rr, hrr⟩ := Map.exists_lookup ((hcreated.keys name).mpr hname)
  have hmasters := hcreated.masters _ (Map.mem_of_lookup hrr)
  obtain ⟨i, hi⟩ := (secondary_iff settings).mpr hmany
  rw [← hmasters] at hi
  have hfatal : Action.fatal .supports ∈
      (onConnectionStatus settings name i .ready "" created).2 :=
    fatal_mem_onConnectionStatus.mpr ⟨rr, hrr, hi, hrest, rfl⟩
  have hlength : i < rr.dropCopy.length := by
    simpa using (List.getElem?_eq_some_iff.mp hi).1
  have henabled : (system settings created).enabled created
      (.connectionStatus name i .ready "") := ⟨hcreated.running, rr, hrr, hlength⟩
  exact ⟨_, _, Run.init.step henabled trivial, _, List.mem_cons_self, hfatal⟩

/-- An accepted number of connections that is not one is greater. -/
theorem one_lt_connections {names : List String} {p : Process} (h : Created settings names p)
    (hone : settings.numberOfOrderEntryConnections ≠ 1) :
    1 < settings.numberOfOrderEntryConnections.toNat := by
  have hzero : settings.numberOfOrderEntryConnections.toNat ≠ 0 :=
    fun hzero => h.accepted (UInt32.toNat_inj.mp hzero)
  have hsingle : settings.numberOfOrderEntryConnections.toNat ≠ 1 :=
    fun hsingle => hone (UInt32.toNat_inj.mp hsingle)
  omega

/-- Once a `Controller` is made, no stream ends the process, whatever statuses it gets, exactly
if orders go over the websocket, or there is a single connection, or there is no account. -/
theorem fatal_unreachable_iff {names : List String} {id id' : UInt16}
    (hcreate : create settings names id = .ok created id') :
    (∀ h p, Run (system settings created) anyStep h p →
      ∀ entry ∈ h, ∀ fatal, Action.fatal fatal ∉ entry.actions) ↔
    settings.wsApi = true ∨ settings.numberOfOrderEntryConnections = 1 ∨ names = [] := by
  have hcreated := created_of_create hcreate
  constructor
  · intro hnever
    by_contra hnot
    push Not at hnot
    obtain ⟨hrest, hone, hnames⟩ := hnot
    obtain ⟨name, hname⟩ := List.exists_mem_of_ne_nil names hnames
    obtain ⟨h, p, run, entry, hentry, hfatal⟩ :=
      exists_fatal hcreated (by simpa using hrest) (one_lt_connections hcreated hone) hname
    exact hnever h p run entry hentry .supports hfatal
  · intro hsettings h p run entry hentry fatal hfatal
    obtain ⟨h', p', run', _, _, hactions⟩ := run.of_mem hentry
    obtain ⟨event, actions⟩ := entry
    obtain rfl : actions = (react settings p' event).2 := hactions
    cases event with
    | order account => exact fatal_notMem_onOrder hfatal
    | connectionStatus account i status reason =>
      obtain ⟨rr, hrr, hi, hrest, -⟩ := fatal_mem_onConnectionStatus.mp hfatal
      obtain ⟨hname, hmasters⟩ := masters_of_run hcreated run' hrr
      have hmany := (secondary_iff settings).mp ⟨i, hmasters ▸ hi⟩
      rcases hsettings with hws | hone | hnone
      · simp [hws] at hrest
      · simp [hone] at hmany
      · simp [hnone] at hname

/-- One account with two connections. -/
def twoConnections : Process where
  orderEntry := [("A1", ⟨2, "A1"⟩)]
  dropCopy :=
    [("A1", ⟨[⟨3, "A1", true, .undefined⟩, ⟨4, "A1", false, .undefined⟩], 0⟩)]
  aborted := none

/-- Orders over the websocket make two connections safe. -/
theorem twoConnections_safe :
    create ⟨true, 2⟩ ["A1"] 0 = .ok twoConnections 4 ∧
      ∀ h p, Run (system ⟨true, 2⟩ twoConnections) anyStep h p →
        ∀ entry ∈ h, ∀ fatal, Action.fatal fatal ∉ entry.actions := by
  have hcreate : create ⟨true, 2⟩ ["A1"] 0 = .ok twoConnections 4 := rfl
  exact ⟨hcreate, (fatal_unreachable_iff hcreate).mpr (.inl rfl)⟩

/-- With orders over REST, the second of two streams ends the process once it has logged in. -/
theorem twoConnections_fatal :
    ¬ ∀ (settings : Settings) (names : List String) (created : Process) (id id' : UInt16),
      settings.numberOfOrderEntryConnections ≠ 0 → create settings names id = .ok created id' →
      ∀ h p, Run (system settings created) anyStep h p →
        ∀ entry ∈ h, ∀ fatal, Action.fatal fatal ∉ entry.actions := by
  intro hclaim
  have hcreate : create ⟨false, 2⟩ ["A1"] 0 = .ok twoConnections 4 := rfl
  have henabled : (system ⟨false, 2⟩ twoConnections).enabled twoConnections
      (.connectionStatus "A1" 1 .ready "") := ⟨rfl, _, rfl, by decide⟩
  have hnever := hclaim ⟨false, 2⟩ ["A1"] _ 0 4 (by decide) hcreate _ _
    (Run.init.step henabled trivial) _ List.mem_cons_self .supports
  exact hnever (by decide)

end Process

end RoqBitget.Gateway.Controller
