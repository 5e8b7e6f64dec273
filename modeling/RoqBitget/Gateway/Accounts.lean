import RoqBitget.Foundations.Components
import RoqBitget.Foundations.LastReported
import RoqBitget.Gateway.Authentication
import RoqBitget.Gateway.Routing
import RoqBitget.Gateway.SentTexts

set_option relaxedAutoImplicit false
set_option autoImplicit false

/-!
# All accounts together

The `Controller` with the streams of all its accounts: every account has an `OrderEntry` and some
`DropCopy` streams, the first of which is the master. Anything can happen to any of them at any
time, and orders of all accounts come in between. The streams have a vector of fills in common.

## Main definitions

* `RoqBitget.Gateway.GatewayConfig` — the settings, and what the streams are made with.
* `RoqBitget.Gateway.Accounts` — the `Controller` with its streams.
* `RoqBitget.Gateway.Accounts.system` — what can happen to them, in any order.

## Main results

* `RoqBitget.Gateway.Accounts.streamComponent` — a stream is a component of the gateway.
* `RoqBitget.Gateway.Accounts.controllerComponent` — and so is the choice of the streams.
* `RoqBitget.Gateway.Accounts.streams_independent` — what a stream does among others.

## Implementation notes

The master of an account carries the state of its `OrderEntry`, as in `PrivateStream`. The buffer in
which an `OrderEntry` encodes is left out: it is cleared before every use. A request for an order is
what the `OrderEntry` hands to its connection; the answer is not part of this model.
-/

namespace RoqBitget.Gateway

open RoqBitget.Core Runs
open Protocol.Encoder (OrderAction)

/-- The settings, and what the streams are made with. -/
structure GatewayConfig where
  settings : Controller.Settings
  /-- The names of the accounts in the configuration. -/
  names : List String
  /-- `settings.api`. -/
  api : Api.Key
  exchange : String
  /-- The keys in the configuration. -/
  accounts : String → Tools.Account
  platform : RestRequests.Platform
  /-- The settings of the download. -/
  download : Config
  /-- `settings.experimental.allow_unknown_event_types`. -/
  allowUnknownEventTypes : Bool
  /-- `settings.experimental.retry_logon`. -/
  retryLogon : Bool
  /-- `settings.ws.ping_freq`. -/
  wsPingFreq : Nanoseconds
  /-- `settings.ws.request_timeout`. -/
  wsRequestTimeout : Nanoseconds
  /-- `settings.rest.download_fills_begin`. -/
  downloadFillsBegin : Nanoseconds
  /-- The generated decoders. -/
  decoders : Protocol.Parser.Decoders

namespace GatewayConfig

variable (config : GatewayConfig)

/-- What a `DropCopy` is made with. -/
def messageConfig (stream : Controller.DropCopy) : DropCopy.MessageConfig where
  toConfig := { config.download with master := stream.master }
  stream := ⟨stream.streamId.toNat, stream.account, config.exchange⟩
  account := config.accounts stream.account
  signing := config.platform.toSigning
  allowUnknownEventTypes := config.allowUnknownEventTypes
  retryLogon := config.retryLogon
  wsPingFreq := config.wsPingFreq
  wsRequestTimeout := config.wsRequestTimeout
  decoders := config.decoders
  format := config.platform.format
  instType := (Api.create config.api).instType

/-- What an `OrderEntry` makes its requests with. -/
def context (account : String) : RestRequests.Context where
  account := config.accounts account
  api := config.api
  pingFreq := config.download.pingFreq
  downloadFillsBegin := config.downloadFillsBegin

end GatewayConfig

/-- The `Controller` with the streams of its accounts. -/
structure Accounts (L : LimitRequest) (D : Download2 DropCopy.State (World L)) where
  controller : Controller.Process
  /-- The streams of an account, by their index. -/
  streams : String → ℕ → PrivateStream L D
  /-- `shared_`. -/
  shared : Shared
  /-- Whether a stream has ended the process. -/
  ended : Bool

namespace Accounts

/-- What happens. -/
inductive Event
  /-- Something happens to a stream. -/
  | stream (account : String) (i : ℕ) (event : PrivateStream.Event)
  /-- An order is to be created, modified or cancelled. -/
  | order (account : String) (action : OrderAction) (order : Order) (refData : RefData)
      (requestId : String) (now : Nanoseconds)

/-- What is done while an event is handled. -/
inductive Action
  /-- What a stream does. -/
  | stream (account : String) (i : ℕ) (action : PrivateStream.Action)
  /-- What follows from a status that a stream takes on. -/
  | status (account : String) (i : ℕ) (status : ConnectionStatus) (reason : String)
      (actions : List Controller.Process.Action)
  /-- The choice of a stream for an order. -/
  | choice (account : String) (actions : List Controller.Process.Action)
  /-- An `OrderEntry` sends a request. -/
  | request (account : String) (request : RestRequest)
  /-- An `OrderEntry` throws. -/
  | refused (account : String) (error : RequestError)

variable {L : LimitRequest} {D : Download2 DropCopy.State (World L)}

/-- What a stream was made with, if there is one. -/
def messageConfig? (config : GatewayConfig) (created : Controller.Process) (account : String)
    (i : ℕ) : Option DropCopy.MessageConfig := do
  let rr ← created.dropCopy.lookup account
  let stream ← rr.dropCopy[i]?
  return config.messageConfig stream

/-- Change a stream. -/
def update (account : String) (i : ℕ) (s : PrivateStream L D)
    (streams : String → ℕ → PrivateStream L D) : String → ℕ → PrivateStream L D :=
  fun account' j => if account' = account ∧ j = i then s else streams account' j

/-- A status that a stream takes on. -/
def status? : PrivateStream.Action → Option (ConnectionStatus × String)
  | .session (.publish status reason) => some (status, reason)
  | _ => none

/-- What follows from the statuses that a stream takes on, until the process ends. -/
def publish (settings : Controller.Settings) (account : String) (i : ℕ) :
    List (ConnectionStatus × String) → Controller.Process → Controller.Process × List Action
  | [], p => (p, [])
  | (status, reason) :: statuses, p =>
    if p.aborted = none then
      let (p, actions) :=
        Controller.Process.onConnectionStatus settings account i status reason p
      let (p, more) := publish settings account i statuses p
      (p, .status account i status reason actions :: more)
    else (p, [])

/-- Something happens to a stream. -/
def onStream (config : GatewayConfig) (created : Controller.Process) (account : String) (i : ℕ)
    (event : PrivateStream.Event) (w : Accounts L D) : Accounts L D × List Action :=
  match messageConfig? config created account i with
  | none => (w, [])
  | some messageConfig =>
    let (s, actions) :=
      PrivateStream.react messageConfig { w.streams account i with shared := w.shared } event
    let (controller, statuses) :=
      publish config.settings account i (actions.filterMap status?) w.controller
    ({ controller
       streams := update account i s w.streams
       shared := s.shared
       ended := s.ended.isSome || s.session.world.aborted.isSome },
      actions.map (.stream account i) ++ statuses)

/-- `OrderEntry::ready`. -/
def orderEntryReady (account : String) (w : Accounts L D) : Bool :=
  -- the state of the `OrderEntry` is with the master
  (w.streams account 0).session.world.orderEntryStatus = .ready

/-- What an `OrderEntry` is asked for. -/
def operation (action : OrderAction) (order : Order) (refData : RefData) (requestId : String) :
    RestRequests.Operation :=
  match action with
  | .create createOrder => .placeOrder createOrder refData requestId
  | .modify modifyOrder => .modifyOrder modifyOrder order refData
  | .cancel => .cancelOrder order

/-- `OrderEntry::operator()(Event<CreateOrder> const &, …)`; the same for the other two. -/
def onOrderEntry (config : GatewayConfig) (account : String) (action : OrderAction) (order : Order)
    (refData : RefData) (requestId : String) (now : Nanoseconds) (w : Accounts L D) :
    List Action :=
  match (operation action order refData requestId).request config.platform
      (config.context account) now (w.orderEntryReady account) "" with
  | .ok request => [.request account request]
  | .error error => [.refused account error]

/-- `Controller::operator()(Event<CreateOrder> const &, …)`; the same for the other two. -/
def onOrder (config : GatewayConfig) (created : Controller.Process) (account : String)
    (action : OrderAction) (order : Order) (refData : RefData) (requestId : String)
    (now : Nanoseconds) (w : Accounts L D) : Accounts L D × List Action :=
  let (controller, choice) := Controller.Process.onOrder config.settings account w.controller
  let w := { w with controller }
  match choice with
  | [.dropCopy _ (.returned i)] =>
    let (w, actions) := onStream config created account i (.order action order refData requestId) w
    (w, .choice account choice :: actions)
  | [.orderEntry stream] =>
    (w, .choice account choice ::
      onOrderEntry config stream.account action order refData requestId now w)
  | _ => (w, [.choice account choice])

/-- The reaction to an event. -/
def react (config : GatewayConfig) (created : Controller.Process) (w : Accounts L D) :
    Event → Accounts L D × List Action
  | .stream account i event => onStream config created account i event w
  | .order account action order refData requestId now =>
    onOrder config created account action order refData requestId now w

/-- What can happen to a stream from outside of the gateway. Only a master carries the state of an
`OrderEntry`. -/
def FromOutside (i : ℕ) : PrivateStream.Event → Prop
  | .shared _ => False
  | .order _ _ _ _ => False
  | .rest _ => i = 0
  | _ => True

/-- Nothing happens after the end of the process, and nothing to a stream that does not exist. -/
def enabled (config : GatewayConfig) (created : Controller.Process) (w : Accounts L D) (e : Event) :
    Prop :=
  w.ended = false ∧ w.controller.aborted = none ∧
    match e with
    | .stream account i event =>
      (messageConfig? config created account i).isSome = true ∧ FromOutside i event ∧
        PrivateStream.enabled (w.streams account i) event
    | .order _ _ _ _ _ _ => True

instance (i : ℕ) : (event : PrivateStream.Event) → Decidable (FromOutside i event)
  | .shared _ | .order _ _ _ _ => isFalse id
  | .rest _ => inferInstanceAs (Decidable (i = 0))
  | .connected _ | .ready _ | .close | .latency _ | .text _ | .binary | .disconnected
  | .timer _ _ _ => isTrue trivial

instance (config : GatewayConfig) (created : Controller.Process) (w : Accounts L D) :
    (e : Event) → Decidable (enabled config created w e)
  | .stream account i event =>
    inferInstanceAs (Decidable (_ ∧ _ ∧ (messageConfig? config created account i).isSome = true ∧
      FromOutside i event ∧ PrivateStream.enabled (w.streams account i) event))
  | .order _ _ _ _ _ _ => inferInstanceAs (Decidable (_ ∧ _ ∧ True))

/-- The streams of all accounts, as they were created. -/
def system (config : GatewayConfig) (created : Controller.Process) (L : LimitRequest)
    (D : Download2 DropCopy.State (World L)) : System (Accounts L D) Event Action where
  init :=
    { controller := created
      streams := fun _ _ => ⟨⟨D.create, World.initial L⟩, ⟨[]⟩, 0, 0, "", none⟩
      shared := ⟨[]⟩
      ended := false }
  enabled := enabled config created
  step := react config created

instance (config : GatewayConfig) (created : Controller.Process) (w : Accounts L D) (e : Event) :
    Decidable ((system config created L D).enabled w e) :=
  inferInstanceAs (Decidable (enabled config created w e))

/-! ## The `Controller` -/

/-- What an action says about the choice of the streams. -/
def controllerEntry :
    Action → Option (Entry Controller.Process.Event Controller.Process.Action)
  | .status account i status reason actions =>
    some ⟨.connectionStatus account i status reason, actions⟩
  | .choice account actions => some ⟨.order account, actions⟩
  | _ => none

/-- What an entry says about the choice of the streams, the latest first. -/
def controllerView (entry : Entry Event Action) :
    History Controller.Process.Event Controller.Process.Action :=
  (entry.actions.filterMap controllerEntry).reverse

/-- There is such a stream. -/
def HasStream (p : Controller.Process) (account : String) (i : ℕ) : Prop :=
  ∃ rr, p.dropCopy.lookup account = some rr ∧ i < rr.dropCopy.length

section Controller

variable {config : GatewayConfig} {created p : Controller.Process} {account : String} {i : ℕ}

/-- A stream that exists was made with something. -/
theorem hasStream_iff :
    HasStream created account i ↔ (messageConfig? config created account i).isSome = true := by
  unfold HasStream messageConfig?
  cases created.dropCopy.lookup account with
  | none => simp
  | some rr => rcases Nat.lt_or_ge i rr.dropCopy.length with hi | hi <;> simp [hi]

/-- The streams stay. -/
theorem HasStream.react (h : HasStream p account i) (settings : Controller.Settings)
    (event : Controller.Process.Event) :
    HasStream (Controller.Process.react settings p event).1 account i := by
  obtain ⟨rr, hrr, hi⟩ := h
  rcases Controller.Process.dropCopy_react settings p event with
    hsame | ⟨account', rr', e, hrr', hupdate⟩
  · exact ⟨rr, hsame ▸ hrr, hi⟩
  · have hlookup := Controller.Map.lookup_update p.dropCopy account' (fun _ => (rr'.react e).1)
      account
    rw [← hupdate] at hlookup
    split_ifs at hlookup with haccount
    · subst haccount
      obtain rfl : rr = rr' := Option.some.inj (hrr.symm.trans hrr')
      have hlength := congrArg List.length (Controller.DropCopyRR.masters_react rr e)
      rw [List.length_map, List.length_map] at hlength
      exact ⟨_, by rw [hlookup, hrr, Option.map_some], hlength ▸ hi⟩
    · exact ⟨rr, hlookup.trans hrr, hi⟩

/-- **The statuses of a stream** are steps of the choice of the streams. -/
theorem path_publish (created : Controller.Process) (statuses : List (ConnectionStatus × String))
    (h : HasStream p account i) :
    let r := publish config.settings account i statuses p
    Path (Controller.Process.system config.settings created) p
      (r.2.filterMap controllerEntry).reverse r.1 := by
  induction statuses generalizing p with
  | nil => exact .refl
  | cons entry statuses ih =>
    obtain ⟨status, reason⟩ := entry
    unfold publish
    split_ifs with hrunning
    · have henabled : (Controller.Process.system config.settings created).enabled p
          (.connectionStatus account i status reason) := ⟨hrunning, h⟩
      have hrest := ih (h.react config.settings (.connectionStatus account i status reason))
      dsimp only
      rw [List.filterMap_cons_some (f := controllerEntry) rfl, List.reverse_cons]
      exact (Path.one henabled).append hrest
    · exact .refl

/-- The streams stay when statuses are published. -/
theorem HasStream.publish (h : HasStream p account i) (settings : Controller.Settings)
    (account' : String) (j : ℕ) (statuses : List (ConnectionStatus × String)) :
    HasStream (Accounts.publish settings account' j statuses p).1 account i := by
  induction statuses generalizing p with
  | nil => exact h
  | cons entry statuses ih =>
    obtain ⟨status, reason⟩ := entry
    unfold Accounts.publish
    split_ifs
    · exact ih (h.react settings (.connectionStatus account' j status reason))
    · exact h

end Controller

/-! ## A step -/

/-- A stream, with the vector that it shares with the others. -/
def part (account : String) (i : ℕ) (w : Accounts L D) : PrivateStream L D :=
  { w.streams account i with shared := w.shared }

/-- An action of a stream. -/
def streamAction? (account : String) (i : ℕ) : Action → Option PrivateStream.Action
  | .stream account' j action => if account' = account ∧ j = i then some action else none
  | _ => none

/-- No stream has ended the process. -/
def Running (w : Accounts L D) : Prop :=
  ∀ account i, (w.streams account i).ended = none ∧
    (w.streams account i).session.world.aborted = none

section Step

variable {config : GatewayConfig} {created : Controller.Process} {account : String} {i : ℕ}
  {messageConfig : DropCopy.MessageConfig}

theorem onStream_eq (h : messageConfig? config created account i = some messageConfig)
    (event : PrivateStream.Event) (w : Accounts L D) :
    onStream config created account i event w =
      let r := PrivateStream.react messageConfig (part account i w) event
      let q := publish config.settings account i (r.2.filterMap status?) w.controller
      ({ controller := q.1
         streams := update account i r.1 w.streams
         shared := r.1.shared
         ended := r.1.ended.isSome || r.1.session.world.aborted.isSome },
        r.2.map (.stream account i) ++ q.2) := by
  unfold onStream
  rw [h]
  rfl

theorem onStream_of_none (h : messageConfig? config created account i = none)
    (event : PrivateStream.Event) (w : Accounts L D) :
    onStream config created account i event w = (w, []) := by
  unfold onStream
  rw [h]

/-- What is published is not an action of a stream. -/
theorem filterMap_publish {β : Type} {f : Action → Option β}
    (hf : ∀ account i status reason actions, f (.status account i status reason actions) = none)
    (settings : Controller.Settings) (account : String) (i : ℕ)
    (statuses : List (ConnectionStatus × String)) (p : Controller.Process) :
    (publish settings account i statuses p).2.filterMap f = [] := by
  induction statuses generalizing p with
  | nil => rfl
  | cons entry statuses ih =>
    obtain ⟨status, reason⟩ := entry
    unfold publish
    split_ifs
    · exact (List.filterMap_cons_none (hf account i status reason _)).trans (ih _)
    · rfl

/-- The actions of a stream are its own. -/
theorem streamAction?_map (account account' : String) (i j : ℕ)
    (actions : List PrivateStream.Action) :
    (actions.map (Action.stream account' j)).filterMap (streamAction? account i) =
      if account' = account ∧ j = i then actions else [] := by
  rw [List.filterMap_map]
  split_ifs with hsame
  · have hown : streamAction? account i ∘ Action.stream account' j = some := by
      funext action
      exact if_pos hsame
    rw [hown, List.filterMap_some]
  · exact List.filterMap_eq_nil_iff.mpr fun action _ => if_neg hsame

/-- The actions of a step of a stream. -/
theorem streamAction?_onStream
    (h : messageConfig? config created account i = some messageConfig)
    (event : PrivateStream.Event) (w : Accounts L D) (account' : String) (j : ℕ) :
    (onStream config created account i event w).2.filterMap (streamAction? account' j) =
      if account = account' ∧ i = j then
        (PrivateStream.react messageConfig (part account i w) event).2
      else [] := by
  rw [onStream_eq h, List.filterMap_append, streamAction?_map,
    filterMap_publish fun _ _ _ _ _ => rfl, List.append_nil]

/-- Another stream does nothing. -/
theorem streamAction?_onStream_of_ne (event : PrivateStream.Event) (w : Accounts L D)
    {account' : String} {j : ℕ} (hne : ¬(account = account' ∧ i = j)) :
    (onStream config created account i event w).2.filterMap (streamAction? account' j) = [] := by
  cases h : messageConfig? config created account i with
  | none => rw [onStream_of_none h, List.filterMap_nil]
  | some messageConfig => rw [streamAction?_onStream h, if_neg hne]

/-- **A step of a stream** is one of its own. -/
theorem path_onStream (h : messageConfig? config created account i = some messageConfig)
    {event : PrivateStream.Event} {w : Accounts L D}
    (henabled : PrivateStream.enabled (w.streams account i) event) :
    let r := onStream config created account i event w
    Path (PrivateStream.system messageConfig L D) (part account i w)
      [⟨event, r.2.filterMap (streamAction? account i)⟩] (part account i r.1) := by
  have hone : Path (PrivateStream.system messageConfig L D) (part account i w) _ _ :=
    Path.one (d := event) henabled
  intro r
  have hpart : part account i r.1 =
      (PrivateStream.react messageConfig (part account i w) event).1 := by
    show part account i (onStream config created account i event w).1 = _
    rw [onStream_eq h]
    simp [part, update]
  rw [hpart, streamAction?_onStream h, if_pos ⟨rfl, rfl⟩]
  exact hone

/-- A step of another stream is an interference. -/
theorem path_of_ne (messageConfig : DropCopy.MessageConfig) {w w' : Accounts L D}
    (hrunning : Running w) (hstreams : w'.streams account i = w.streams account i) :
    Path (PrivateStream.system messageConfig L D) (part account i w)
      [⟨.shared w'.shared.fills, []⟩] (part account i w') := by
  have henabled : (PrivateStream.system messageConfig L D).enabled (part account i w)
      (.shared w'.shared.fills) :=
    ⟨(hrunning account i).1, (hrunning account i).2, trivial⟩
  have hone := Path.one henabled
  have hpart : part account i w' = { part account i w with shared := ⟨w'.shared.fills⟩ } := by
    rw [part, hstreams]
    rfl
  rw [hpart]
  exact hone

/-- A step of a stream leaves the others alone. -/
theorem streams_onStream {account' : String} {j : ℕ} (hne : ¬(account' = account ∧ j = i))
    (event : PrivateStream.Event) (w : Accounts L D) :
    (onStream config created account i event w).1.streams account' j = w.streams account' j := by
  cases h : messageConfig? config created account i with
  | none => rw [onStream_of_none h]
  | some messageConfig =>
    rw [onStream_eq h]
    exact if_neg hne

/-- As long as the process goes on, no stream has ended it. -/
theorem running_onStream {event : PrivateStream.Event} {w : Accounts L D} (hrunning : Running w)
    (hended : (onStream config created account i event w).1.ended = false) :
    Running (onStream config created account i event w).1 := by
  cases h : messageConfig? config created account i with
  | none =>
    rw [onStream_of_none h]
    exact hrunning
  | some messageConfig =>
    rw [onStream_eq h] at hended ⊢
    simp only [Bool.or_eq_false_iff, Option.isSome_eq_false_iff, Option.isNone_iff_eq_none]
      at hended
    intro account' j
    show (update account i _ w.streams account' j).ended = none ∧
      (update account i _ w.streams account' j).session.world.aborted = none
    unfold update
    split_ifs
    · exact hended
    · exact hrunning account' j

end Step

section Order

variable {config : GatewayConfig} {created : Controller.Process} {account : String}
  {action : OrderAction} {order : Order} {refData : RefData} {requestId : String}
  {now : Nanoseconds} {w : Accounts L D}

/-- An `OrderEntry` does nothing to the streams. -/
theorem filterMap_onOrderEntry {β : Type} (f : Action → Option β)
    (hrequest : ∀ request, f (.request account request) = none)
    (hrefused : ∀ error, f (.refused account error) = none) :
    (onOrderEntry config account action order refData requestId now w).filterMap f = [] := by
  unfold onOrderEntry
  split
  · exact List.filterMap_cons_none (hrequest _)
  · exact List.filterMap_cons_none (hrefused _)

/-- **An order** is one of the stream that is chosen for it, if there is one, and otherwise none of
any stream. -/
theorem onOrder_cases :
    let choice := Controller.Process.onOrder config.settings account w.controller
    let r := onOrder config created account action order refData requestId now w
    (∃ account' i, choice.2 = [.dropCopy account' (.returned i)] ∧
        r = ((onStream config created account i (.order action order refData requestId)
            { w with controller := choice.1 }).1,
          .choice account choice.2 :: (onStream config created account i
            (.order action order refData requestId) { w with controller := choice.1 }).2)) ∨
      (∀ account' i, choice.2 ≠ [.dropCopy account' (.returned i)]) ∧
        ∃ more, r = ({ w with controller := choice.1 }, .choice account choice.2 :: more) ∧
          more.filterMap controllerEntry = [] ∧
          ∀ account' i, more.filterMap (streamAction? account' i) = [] := by
  intro choice r
  have hr : r = onOrder config created account action order refData requestId now w := rfl
  unfold onOrder at hr
  dsimp only at hr
  split at hr
  · rename_i i hchoice
    exact .inl ⟨_, i, hchoice, hr⟩
  · rename_i stream hchoice
    refine .inr ⟨fun account' i h => ?_, _, hr, filterMap_onOrderEntry _ (fun _ => rfl)
      fun _ => rfl, fun account' i => filterMap_onOrderEntry _ (fun _ => rfl) fun _ => rfl⟩
    rw [hchoice] at h
    cases h
  · rename_i hother _
    exact .inr ⟨fun account' i => hother account' i, [], hr, rfl, fun _ _ => rfl⟩

end Order

/-! ## Components -/

/-- The stream that was chosen in an entry of an order. -/
def chosen? : List Action → Option ℕ
  | .choice _ [.dropCopy _ (.returned i)] :: _ => some i
  | _ => none

/-- What an entry means for a stream. -/
def concerns (account : String) (i : ℕ) (entry : Entry Event Action) :
    Option PrivateStream.Event :=
  match entry.event with
  | .stream account' j event => if account' = account ∧ j = i then some event else none
  | .order account' action order refData requestId _ =>
    if account' = account ∧ chosen? entry.actions = some i then
      some (.order action order refData requestId)
    else none

/-- What an entry says about a stream. -/
def streamView (account : String) (i : ℕ) (entry : Entry Event Action) :
    History PrivateStream.Event PrivateStream.Action :=
  (concerns account i entry).toList.map fun event =>
    ⟨event, entry.actions.filterMap (streamAction? account i)⟩

/-- An entry of a stream. -/
theorem streamView_stream (account account' : String) (i j : ℕ) (event : PrivateStream.Event)
    (actions : List Action) :
    streamView account i ⟨.stream account' j event, actions⟩ =
      if account' = account ∧ j = i then
        [⟨event, actions.filterMap (streamAction? account i)⟩] else [] := by
  by_cases hsame : account' = account ∧ j = i <;> simp [streamView, concerns, hsame]

/-- An entry of an order. -/
theorem streamView_order (account account' : String) (i : ℕ) (action : OrderAction)
    (order : Order) (refData : RefData) (requestId : String) (now : Nanoseconds)
    (actions : List Action) :
    streamView account i ⟨.order account' action order refData requestId now, actions⟩ =
      if account' = account ∧ chosen? actions = some i then
        [⟨.order action order refData requestId, actions.filterMap (streamAction? account i)⟩]
      else [] := by
  by_cases hsame : account' = account ∧ chosen? actions = some i <;>
    simp [streamView, concerns, hsame]

/-- Whether an entry of a stream is its own. -/
def own (entry : Entry PrivateStream.Event PrivateStream.Action) : Bool :=
  match entry.event with
  | .shared _ => false
  | _ => true

section Components

variable {config : GatewayConfig} {created : Controller.Process} {account : String} {i : ℕ}
  {messageConfig : DropCopy.MessageConfig} {h : History Event Action} {w : Accounts L D}
  {ok : History Event Action → Accounts L D → Event → Prop}

/-- The steps of the choice of the streams while something happens to a stream. -/
theorem path_controller_onStream
    (hstream : HasStream created account i → HasStream w.controller account i)
    (event : PrivateStream.Event) :
    let r := onStream config created account i event w
    Path (Controller.Process.system config.settings created) w.controller
      (r.2.filterMap controllerEntry).reverse r.1.controller := by
  cases hconfig : messageConfig? config created account i with
  | none =>
    rw [onStream_of_none hconfig]
    exact .refl
  | some messageConfig =>
    have hexists : HasStream created account i := hasStream_iff.mpr (by rw [hconfig]; rfl)
    have hactions : ∀ actions : List PrivateStream.Action,
        (actions.map (Action.stream account i)).filterMap controllerEntry = [] := fun actions => by
      rw [List.filterMap_map]
      exact List.filterMap_eq_nil_iff.mpr fun _ _ => rfl
    rw [onStream_eq hconfig]
    dsimp only
    rw [List.filterMap_append, hactions, List.nil_append]
    exact path_publish created _ (hstream hexists)

/-- The streams stay while something happens to one of them. -/
theorem HasStream.onStream {account' : String} {j : ℕ} (h : HasStream w.controller account' j)
    (event : PrivateStream.Event) :
    HasStream (onStream config created account i event w).1.controller account' j := by
  cases hconfig : messageConfig? config created account i with
  | none =>
    rw [onStream_of_none hconfig]
    exact h
  | some messageConfig =>
    rw [onStream_eq hconfig]
    exact h.publish _ _ _ _

/-- What holds in every run: the streams stay, and none of them has ended the process. -/
theorem stays_of_run (run : Run (system config created L D) ok h w) :
    (w.ended = false → Running w) ∧
      ∀ account i, HasStream created account i → HasStream w.controller account i := by
  refine run.invariant (P := fun _ w => (w.ended = false → Running w) ∧
    ∀ account i, HasStream created account i → HasStream w.controller account i)
    ⟨fun _ _ _ => ⟨rfl, rfl⟩, fun _ _ h => h⟩ ?_
  rintro h w e - ⟨hrunning, hstreams⟩ henabled -
  have hw := hrunning henabled.1
  cases e with
  | stream account i event =>
    exact ⟨running_onStream hw, fun account' j hexists => (hstreams account' j hexists).onStream _⟩
  | order account action order refData requestId now =>
    have hchoice : ∀ account' j, HasStream created account' j →
        HasStream (Controller.Process.onOrder config.settings account w.controller).1 account' j :=
      fun account' j hexists => (hstreams account' j hexists).react config.settings (.order account)
    show ((onOrder config created account action order refData requestId now w).1.ended = false →
        Running (onOrder config created account action order refData requestId now w).1) ∧
      ∀ account' j, HasStream created account' j → HasStream
        (onOrder config created account action order refData requestId now w).1.controller
        account' j
    rcases onOrder_cases with ⟨_, i, -, hr⟩ | ⟨-, _, hr, -⟩
    · rw [hr]
      exact ⟨running_onStream hw, fun account' j hexists =>
        (hchoice account' j hexists).onStream (w := { w with controller := _ }) _⟩
    · rw [hr]
      exact ⟨fun _ => hw, hchoice⟩

/-- **The choice of the streams** is a component of the gateway. -/
def controllerComponent (config : GatewayConfig) (created : Controller.Process)
    (L : LimitRequest) (D : Download2 DropCopy.State (World L)) :
    Component (system config created L D)
      (Controller.Process.system config.settings created) where
  abs w := w.controller
  own _ := true
  view := controllerView
  abs_init := rfl
  step h w e run henabled := by
    have hstreams := (stays_of_run run).2
    refine ⟨_, ?_, List.filter_true _⟩
    cases e with
    | stream account i event => exact path_controller_onStream (hstreams account i) event
    | order account action order refData requestId now =>
      have hone : Path (Controller.Process.system config.settings created) w.controller _ _ :=
        Path.one (d := .order account) ⟨henabled.2.1, trivial⟩
      show Path _ _ (controllerView ⟨_,
          (onOrder config created account action order refData requestId now w).2⟩)
        (onOrder config created account action order refData requestId now w).1.controller
      rcases onOrder_cases with ⟨_, i, -, hr⟩ | ⟨-, more, hr, hmore, -⟩
      · rw [hr, controllerView, List.filterMap_cons_some (f := controllerEntry) rfl,
          List.reverse_cons]
        refine hone.append (path_controller_onStream (w := { w with controller := _ })
          (fun hexists => ?_) _)
        exact (hstreams account i hexists).react config.settings (.order account)
      · rw [hr, controllerView, List.filterMap_cons_some (f := controllerEntry) rfl, hmore]
        exact hone

/-- The choice that an entry of an order begins with. -/
theorem chosen?_cons {choice : List Controller.Process.Action} {more : List Action} :
    chosen? (.choice account choice :: more) = some i ↔
      ∃ account', choice = [.dropCopy account' (.returned i)] := by
  constructor
  · intro hchosen
    unfold chosen? at hchosen
    split at hchosen
    · rename_i heq
      cases heq
      cases hchosen
      exact ⟨_, rfl⟩
    · cases hchosen
  · rintro ⟨account', rfl⟩
    rfl

/-- **Something happens to a stream**, which is a step of its own, and for any other stream an
interference. -/
theorem exists_path_onStream (account' : String) (j : ℕ)
    (hconfig : messageConfig? config created account i = some messageConfig)
    (hrunning : Running w) (event : PrivateStream.Event) (hown : ∀ fills, event ≠ .shared fills)
    (henabled : account' = account ∧ j = i →
      PrivateStream.enabled (w.streams account i) event) :
    let r := onStream config created account' j event w
    ∃ h', Path (PrivateStream.system messageConfig L D) (part account i w) h'
        (part account i r.1) ∧
      h'.filter own = if account' = account ∧ j = i then
        [⟨event, r.2.filterMap (streamAction? account i)⟩] else [] := by
  by_cases hsame : account' = account ∧ j = i
  · obtain ⟨rfl, rfl⟩ := hsame
    refine ⟨_, path_onStream hconfig (henabled ⟨rfl, rfl⟩), ?_⟩
    have hkept : own ⟨event, (onStream config created account' j event w).2.filterMap
        (streamAction? account' j)⟩ = true := by
      cases event <;> simp_all [own]
    rw [if_pos ⟨rfl, rfl⟩]
    exact List.filter_cons_of_pos hkept
  · have hstreams : (onStream config created account' j event w).1.streams account i =
        w.streams account i :=
      streams_onStream (fun hback => hsame ⟨hback.1.symm, hback.2.symm⟩) event w
    refine ⟨_, path_of_ne messageConfig hrunning hstreams, ?_⟩
    rw [if_neg hsame]
    rfl

/-- **A stream is a component of the gateway**, with which others interfere through the vector that
they have in common. -/
def streamComponent (L : LimitRequest) (D : Download2 DropCopy.State (World L))
    (hconfig : messageConfig? config created account i = some messageConfig) :
    Component (system config created L D) (PrivateStream.system messageConfig L D) where
  abs := part account i
  own := own
  view := streamView account i
  abs_init := rfl
  step h w e run henabled := by
    have hrunning := (stays_of_run run).1 henabled.1
    cases e with
    | stream account' j event =>
      obtain ⟨-, -, -, houtside, hevent⟩ := henabled
      have hown : ∀ fills, event ≠ .shared fills := by
        rintro fills rfl
        exact houtside
      obtain ⟨h', hpath, hview⟩ := exists_path_onStream account' j hconfig hrunning event hown
        fun hsame => hsame.1 ▸ hsame.2 ▸ hevent
      exact ⟨h', hpath, hview.trans (streamView_stream account account' i j event _).symm⟩
    | order account' action order refData requestId now =>
      show ∃ h', Path _ _ h' (part account i
          (onOrder config created account' action order refData requestId now w).1) ∧
        h'.filter own = streamView account i ⟨.order account' action order refData requestId now,
          (onOrder config created account' action order refData requestId now w).2⟩
      rcases onOrder_cases with ⟨account'', j, hchoice, hr⟩ | ⟨hchoice, more, hr, -, -⟩
      · obtain ⟨h', hpath, hview⟩ := exists_path_onStream account' j
          (w := { w with
            controller := (Controller.Process.onOrder config.settings account' w.controller).1 })
          hconfig hrunning (.order action order refData requestId) (by simp)
          fun _ => ⟨(hrunning account i).1, (hrunning account i).2, trivial⟩
        refine ⟨h', hr ▸ hpath, hview.trans ?_⟩
        rw [hr, streamView_order, hchoice]
        simp only [chosen?, Option.some.injEq]
        rfl
      · have hchosen : chosen? (.choice account'
            (Controller.Process.onOrder config.settings account' w.controller).2 :: more) ≠
              some i := by
          rw [Ne, chosen?_cons]
          rintro ⟨account'', heq⟩
          exact hchoice account'' i heq
        rw [hr, streamView_order, if_neg fun hsame => hchosen hsame.2]
        exact ⟨[], .refl, rfl⟩

/-- Only what is its own has actions of a stream. -/
theorem actions_filter_own {h' : History PrivateStream.Event PrivateStream.Action}
    {s : PrivateStream L D} (run : Run (PrivateStream.system messageConfig L D) anyStep h' s) :
    Runs.actions (h'.filter own) = Runs.actions h' := by
  refine run.invariant (P := fun h' _ => Runs.actions (h'.filter own) = Runs.actions h') rfl ?_
  intro h' s e _ ih _ _
  rw [List.filter_cons]
  split_ifs with hown
  · rw [actions_cons, actions_cons, ih]
  · have hnone : ((PrivateStream.system messageConfig L D).step s e).2 = [] := by
      cases e <;> first | rfl | simp [own] at hown
    rw [actions_cons, ih, hnone, List.append_nil]

/-- What the entries say about a stream has all its actions. -/
theorem actions_flatMap_streamView (run : Run (system config created L D) ok h w) :
    Runs.actions (h.flatMap (streamView account i)) =
      (Runs.actions h).filterMap (streamAction? account i) := by
  refine run.invariant (P := fun h _ => Runs.actions (h.flatMap (streamView account i)) =
    (Runs.actions h).filterMap (streamAction? account i)) rfl ?_
  intro h w e _ ih _ _
  rw [List.flatMap_cons, actions_append, ih, actions_cons, List.filterMap_append]
  refine congrArg _ ?_
  cases e with
  | stream account' j event =>
    rw [streamView_stream]
    split_ifs with hsame
    · rfl
    · exact (streamAction?_onStream_of_ne event w hsame).symm
  | order account' action order refData requestId now =>
    rw [streamView_order]
    show _ = (onOrder config created account' action order refData requestId now w).2.filterMap
      (streamAction? account i)
    rcases onOrder_cases with ⟨account'', j, hchoice, hr⟩ | ⟨-, more, hr, -, hmore⟩
    · split_ifs with hsame
      · rfl
      · have hne : ¬(account' = account ∧ j = i) := by
          rintro ⟨haccount, hj⟩
          refine hsame ⟨haccount, ?_⟩
          show chosen? (onOrder config created account' action order refData requestId now w).2 =
            some i
          rw [hr, ← hj]
          exact chosen?_cons.mpr ⟨account'', hchoice⟩
        rw [hr]
        exact (streamAction?_onStream_of_ne _ _ hne).symm
    · have hnone : (onOrder config created account' action order refData requestId now
          w).2.filterMap (streamAction? account i) = [] := by
        rw [hr]
        exact hmore account i
      rw [hnone]
      split_ifs
      · exact hnone
      · rfl

/-- **What a stream does among others.** In every run of the gateway, whatever happens to other
streams and other accounts, and to whatever streams the orders go, a stream goes through the states
of a run of its own, in which others do nothing but change the vector of fills. What happens in it,
and what the stream does, is what the history of the gateway says. -/
theorem streams_independent
    (hconfig : messageConfig? config created account i = some messageConfig)
    (run : Run (system config created L D) ok h w) :
    ∃ h', Run (PrivateStream.system messageConfig L D) anyStep h' (part account i w) ∧
      h'.filter own = h.flatMap (streamView account i) ∧
      Runs.actions h' = (Runs.actions h).filterMap (streamAction? account i) := by
  obtain ⟨h', hrun, hown⟩ := (streamComponent L D hconfig).run run
  refine ⟨h', hrun, hown, ?_⟩
  rw [← actions_filter_own hrun, ← actions_flatMap_streamView run]
  exact congrArg Runs.actions hown

end Components

/-! ## A gateway with one account -/

/-- Orders are sent over two websocket streams of one account. -/
def simpleGateway : GatewayConfig where
  settings := ⟨true, 2⟩
  names := ["A1"]
  api := .usdtFutures
  exchange := "bitget"
  accounts _ := Tools.simpleAccount
  platform := Authentication.simplePlatform
  download := simpleConfig
  allowUnknownEventTypes := false
  retryLogon := false
  wsPingFreq := 5
  wsRequestTimeout := seconds 5
  downloadFillsBegin := 0
  decoders := PrivateStream.simpleDecoders

/-- The gateway with the reference implementations of the slots and of the sequencer. -/
abbrev simpleSystem : System (Accounts flags sequencer) Event Action :=
  system simpleGateway Controller.Process.twoConnections flags sequencer

/-- The second stream logs in, two orders are cancelled, and the stream is lost in between. -/
def lostInBetween : List Event :=
  [.stream "A1" 1 (.connected 1), .stream "A1" 1 (.ready (seconds 1700000000)),
    .stream "A1" 1 (.text "login"),
    .order "A1" .cancel PrivateStream.simpleOrder Protocol.Encoder.simpleRefData "1001" 0,
    .stream "A1" 1 .disconnected,
    .order "A1" .cancel PrivateStream.simpleOrder Protocol.Encoder.simpleRefData "1002" 0]

/-- The run over these events. -/
theorem run_lostInBetween : Run simpleSystem anyStep (play simpleSystem lostInBetween).1
    (play simpleSystem lostInBetween).2 := Run.play (by decide +kernel)

/-- The second stream logged in and sent one order, in a run of its own. -/
theorem lostInBetween_independent :
    ∃ h', Run (PrivateStream.system (simpleGateway.messageConfig ⟨4, "A1", false, .undefined⟩)
        flags sequencer) anyStep h' (part "A1" 1 (play simpleSystem lostInBetween).2) ∧
      (PrivateStream.sentTexts (Runs.actions h')).length = 2 := by
  have hconfig : messageConfig? simpleGateway Controller.Process.twoConnections "A1" 1 =
      some (simpleGateway.messageConfig ⟨4, "A1", false, .undefined⟩) := rfl
  obtain ⟨h', hrun, -, hactions⟩ := streams_independent hconfig run_lostInBetween
  refine ⟨h', hrun, ?_⟩
  rw [hactions]
  decide +kernel

end Accounts

end RoqBitget.Gateway
