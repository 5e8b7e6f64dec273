import RoqBitget.Core.Download
import RoqBitget.Foundations.Effects
import RoqBitget.Gateway.World

set_option relaxedAutoImplicit false
set_option autoImplicit false

/-!
# The websocket stream

`DropCopy` as far as it drives the download of a private account: after a login it walks
through the states of its download, requesting a snapshot over REST in some and subscribing to
a topic in others, and it publishes that it is ready at the end.

## Main definitions

* `RoqBitget.Gateway.DropCopy.State`, `download` — the states and what is done on entering one.
* `RoqBitget.Gateway.DropCopy.onLogin`, `onSubscribe`, `onDisconnected`, `onTimer` — the
  handlers.

## Main results

* `RoqBitget.Gateway.DropCopy.check_current` — what completing a state does.
* `RoqBitget.Gateway.DropCopy.checkRequestQueue_eq` — what a timer tick does to the download.

## Implementation notes

The connection is ready whenever a handler sends through it: its exceptions are not caught by
this stream. The dispatcher's stale orders are an input of the timer tick.
-/

namespace RoqBitget.Gateway

open RoqBitget.Core Effects

/-- `Topic` of the exchange's schema. -/
inductive Topic
  | undefinedInternal
  | unknownInternal
  | ticker
  | publicTrade
  | books
  | books5
  | books15
  | account
  | position
  | order
  | fill
  deriving DecidableEq

/-- The raw text of a topic (`topic.json`); the two internal values have none. -/
def Topic.text : Topic → String
  | .undefinedInternal | .unknownInternal => ""
  | .ticker => "ticker"
  | .publicTrade => "publicTrade"
  | .books => "books"
  | .books5 => "books5"
  | .books15 => "books15"
  | .account => "account"
  | .position => "position"
  | .order => "order"
  | .fill => "fill"

namespace DropCopy

/-- `DropCopy::State`. -/
inductive State
  | undefined
  | getAccount
  | subscribeBalances
  | getBalances
  | subscribePositions
  | getCurrentPositions
  | subscribeOrders
  | getOpenOrders
  | getLostOrders
  | subscribeTrades
  | getTrades
  | done
  deriving DecidableEq

instance : Stages State where
  undefined := .undefined
  stages := [.getAccount, .subscribeBalances, .getBalances, .subscribePositions,
    .getCurrentPositions, .subscribeOrders, .getOpenOrders, .getLostOrders, .subscribeTrades,
    .getTrades, .done]

/-- `CHECK_STALE_ORDERS_FREQ`. -/
def checkStaleOrdersFreq : Nanoseconds := seconds 10

variable {L : LimitRequest}

/-! ## Acting on the world -/

/-- `DropCopy::operator()(Trace<ConnectionStatus> const &, …)`. -/
def onConnectionStatus (status : ConnectionStatus) (reason : String) (w : World L) : World L :=
  { w.act (.publish status reason) with connectionStatus := status }

/-- `DropCopy::ready`. -/
def ready (w : World L) : Bool := w.connectionStatus = .ready

/-- `request` of a slot. -/
def request (slot : Slot) (w : World L) : World L :=
  (w.updateSlot slot L.request).act (.request slot)

/-- `DropCopy::subscribe`. -/
def subscribe (topic : String) (w : World L) : World L := w.act (.subscribe topic)

/-- The lambda `helper` of `DropCopy::download`. -/
def downloading (reason : String) (w : World L) : World L :=
  onConnectionStatus .downloading reason w

/-- `DropCopy::download`: what is done on entering a state. Zero passes it at once. -/
def download (config : Config) : State → World L → ℤ × World L
  | .undefined, w => (0, w)
  | .getAccount, w => (1, request .account (downloading "get-account" w))
  | .subscribeBalances, w => (1, subscribe "account" (downloading "subscribe-balances" w))
  | .getBalances, w => (1, request .balances (downloading "get-balances" w))
  | .subscribePositions, w => (1, subscribe "position" (downloading "subscribe-positions" w))
  | .getCurrentPositions, w => (1, request .positions (downloading "get-positions" w))
  | .subscribeOrders, w => (1, subscribe "order" (downloading "subscribe-orders" w))
  | .getOpenOrders, w => (1, request .openOrders (downloading "get-open-orders" w))
  | .getLostOrders, w =>
    if w.detailsLostOrders = ∅ then (0, w)
    else (1, request .lostOrders (downloading "get-lost-orders" w))
  | .subscribeTrades, w => (1, subscribe "fill" (downloading "subscribe-trades" w))
  | .getTrades, w =>
    if config.tradesLookback ≠ 0 then (1, request .trades (downloading "get-trades" w))
    else (0, w)
  | .done, w => (0, onConnectionStatus .ready "" w)

/-- The lambda `helper` of `DropCopy::check_stale_orders`: insert a key and count it if it is
new. -/
def insertStale (acc : Finset OrderKey × ℕ) (key : OrderKey) : Finset OrderKey × ℕ :=
  if key ∈ acc.1 then acc else (insert key acc.1, acc.2 + 1)

/-- `DropCopy::check_stale_orders()`: whether there are new lost orders. -/
def checkStaleOrders (stale : List OrderKey) (w : World L) : Bool × World L :=
  let acc := stale.foldl insertStale (w.detailsLostOrders, 0)
  (acc.2 ≠ 0, { w.act (.checkStaleOrders acc.1) with detailsLostOrders := acc.1 })

/-- `DropCopy::check_stale_orders(TraceInfo const &)`. -/
def checkStaleOrdersRegularly (now : Nanoseconds) (stale : List OrderKey) (w : World L) :
    World L :=
  if w.nextCheckStaleOrders < now then
    let w := { w with nextCheckStaleOrders := now + checkStaleOrdersFreq }
    let (found, w) := checkStaleOrders stale w
    if found then request .lostOrders w else w
  else w

/-! ## The handlers -/

/-- The download of the stream and the world it acts on. -/
structure Session (L : LimitRequest) (D : Download2 State (World L)) where
  download : D.Object
  world : World L

variable {D : Download2 State (World L)}

/-- `download_.state()`. -/
def Session.state (s : Session L D) : State := D.state s.download

/-- `download_.begin(…)`. -/
def Session.begin (config : Config) (s : Session L D) : Session L D :=
  let r := D.begin (DropCopy.download config) s.download s.world
  ⟨r.1, r.2⟩

/-- `download_.check(…, state)`. -/
def Session.check (config : Config) (state : State) (s : Session L D) : Session L D :=
  let r := D.check (DropCopy.download config) state s.download s.world
  ⟨r.1, r.2⟩

/-- `DropCopy::operator()(Trace<protocol::json::Login> const &)`. -/
def onLogin (config : Config) (code : ℤ) (s : Session L D) : Session L D :=
  if code ≠ 0 then { s with world := s.world.abort .loginRefused }
  else if config.master then s.begin config
  else { s with world := onConnectionStatus .ready "" s.world }

/-- `DropCopy::operator()(Trace<protocol::json::Subscribe> const &)`. The code is only
logged. -/
def onSubscribe (config : Config) (topic : Topic) (_code : ℤ) (s : Session L D) :
    Session L D :=
  match topic with
  | .undefinedInternal | .unknownInternal | .ticker | .publicTrade | .books | .books5
  | .books15 => s
  | .account => s.check config .subscribeBalances
  | .position => s.check config .subscribePositions
  | .order => s.check config .subscribeOrders
  | .fill => s.check config .subscribeTrades

/-- `DropCopy::operator()(Trace<web::socket::Disconnected> const &)`. -/
def onDisconnected (s : Session L D) : Session L D :=
  { download := D.reset s.download
    world := onConnectionStatus .disconnected "" s.world }

/-- `DropCopy::check_request_queue`. -/
def checkRequestQueue (config : Config) (stale : List OrderKey) (s : Session L D) :
    Session L D :=
  let state := s.state
  match state with
  | .undefined => s
  | .getAccount => if s.world.hasResponse .account then s.check config state else s
  | .subscribeBalances => s
  | .getBalances => if s.world.hasResponse .balances then s.check config state else s
  | .subscribePositions => s
  | .getCurrentPositions => if s.world.hasResponse .positions then s.check config state else s
  | .subscribeOrders => s
  | .getOpenOrders =>
    if s.world.hasResponse .openOrders then
      -- the stale orders are looked up before the download advances
      Session.check config state { s with world := (checkStaleOrders stale s.world).2 }
    else s
  | .getLostOrders =>
    if s.world.hasResponse .lostOrders then
      if s.world.detailsLostOrders ≠ ∅ then
        { s with world := s.world.abort .lostOrdersNotEmpty }
      else s.check config state
    else s
  | .subscribeTrades => s
  | .getTrades => if s.world.hasResponse .trades then s.check config state else s
  | .done => s

/-- `DropCopy::operator()(Trace<Timer> const &)`; `refresh` is the result of
`(*connection_).refresh`. -/
def onTimer (config : Config) (refresh : Bool) (now : Nanoseconds) (stale : List OrderKey)
    (s : Session L D) : Session L D :=
  if refresh && config.master then
    let s := checkRequestQueue config stale s
    if s.world.aborted.isSome then s
    else if ready s.world then
      { s with world := checkStaleOrdersRegularly now stale s.world }
    else s
  else s

/-! ## Completing a state -/

/-- The slot whose response a state waits for. -/
def State.slot : State → Option Slot
  | .getAccount => some .account
  | .getBalances => some .balances
  | .getCurrentPositions => some .positions
  | .getOpenOrders => some .openOrders
  | .getLostOrders => some .lostOrders
  | .getTrades => some .trades
  | _ => none

/-- The topic whose acknowledgement a state waits for. -/
def State.topic : State → Option Topic
  | .subscribeBalances => some .account
  | .subscribePositions => some .position
  | .subscribeOrders => some .order
  | .subscribeTrades => some .fill
  | _ => none

/-- Whether a state waits for something. -/
def State.waits (state : State) : Bool := state.slot.isSome || state.topic.isSome

/-- The state entered when a state is complete, `none` at the end of the download. -/
def next (config : Config) (details : Finset OrderKey) : State → Option State
  | .undefined => none
  | .getAccount => some .subscribeBalances
  | .subscribeBalances => some .getBalances
  | .getBalances => some .subscribePositions
  | .subscribePositions => some .getCurrentPositions
  | .getCurrentPositions => some .subscribeOrders
  | .subscribeOrders => some .getOpenOrders
  | .getOpenOrders => if details = ∅ then some .subscribeTrades else some .getLostOrders
  | .getLostOrders => some .subscribeTrades
  | .subscribeTrades => if config.tradesLookback ≠ 0 then some .getTrades else none
  | .getTrades => none
  | .done => none

/-- What is done on entering the next state; at the end of the download it is `done`. -/
def advance (config : Config) (state : State) (w : World L) : World L :=
  (download config ((next config w.detailsLostOrders state).getD .done) w).2

/-- A state that waits is followed by `next`, and by nothing but what is done there. -/
theorem enter_later (config : Config) {state : State}
    (h : state.waits = true) (w : World L) :
    enter (download config) (later state) w =
      (next config w.detailsLostOrders state, advance config state w) := by
  cases state <;> simp [State.waits, State.slot, State.topic] at h <;>
    simp [later, Stages.stages, enter, next, advance, download]
  case getOpenOrders =>
    by_cases hdetails : w.detailsLostOrders = ∅ <;> simp [hdetails]
  case subscribeTrades =>
    by_cases htrades : config.tradesLookback = 0 <;> simp [htrades]

/-- The actions that make up a download. -/
def isDownload : Action → Bool
  | .request _ => true
  | .subscribe _ => true
  | .checkStaleOrders _ => true
  | .publish status _ => status = .ready
  | _ => false

/-- The action of a download that is performed on entering a state. -/
def performed : State → List Action
  | .undefined => []
  | .getAccount => [.request .account]
  | .subscribeBalances => [.subscribe "account"]
  | .getBalances => [.request .balances]
  | .subscribePositions => [.subscribe "position"]
  | .getCurrentPositions => [.request .positions]
  | .subscribeOrders => [.subscribe "order"]
  | .getOpenOrders => [.request .openOrders]
  | .getLostOrders => [.request .lostOrders]
  | .subscribeTrades => [.subscribe "fill"]
  | .getTrades => [.request .trades]
  | .done => [.publish .ready ""]

/-- A state that waits for an acknowledgement is entered by a subscription. -/
theorem performed_of_topic {state : State} {topic : Topic} (h : state.topic = some topic) :
    performed state = [.subscribe topic.text] := by
  cases state <;> simp only [State.topic, reduceCtorEq, Option.some.injEq] at h <;> subst h <;> rfl

/-- A state that waits for a response is entered by a request. -/
theorem performed_of_slot {state : State} {slot : Slot} (h : state.slot = some slot) :
    performed state = [.request slot] := by
  cases state <;> simp only [State.slot, reduceCtorEq, Option.some.injEq] at h <;> subst h <;> rfl

/-- The actions of a world that make up a download. -/
def downloadActions (w : World L) : List Action := w.actions.filter isDownload

/-- What entering a state that waits does. -/
structure Enters (state : State) (w w' : World L) : Prop where
  connectionStatus : w'.connectionStatus = .downloading
  detailsLostOrders : w'.detailsLostOrders = w.detailsLostOrders
  aborted : w'.aborted = w.aborted
  hasResponse : ∀ k, w'.hasResponse k = if state.slot = some k then false else w.hasResponse k
  performed : downloadActions w' = downloadActions w ++ performed state

/-- Entering a state that requests a snapshot. -/
theorem enters_request {state : State} {slot : Slot} (hslot : state.slot = some slot)
    (hperformed : performed state = [.request slot]) (reason : String) (w : World L) :
    Enters state w (request slot (downloading reason w)) where
  connectionStatus := rfl
  detailsLostOrders := rfl
  aborted := rfl
  hasResponse k := by
    rw [hslot]
    by_cases hk : k = slot
    · subst hk
      simp [World.hasResponse, request, World.act, World.updateSlot, L.hasResponse_request]
    · rw [if_neg fun h => hk (Option.some.inj h).symm]
      exact World.hasResponse_updateSlot_of_ne hk L.request _
  performed := by
    rw [hperformed]
    simp [downloadActions, request, downloading, onConnectionStatus, World.act, World.updateSlot,
      isDownload]

/-- Entering a state that subscribes to a topic. -/
theorem enters_subscribe {state : State} {topic : String} (hslot : state.slot = none)
    (hperformed : performed state = [.subscribe topic]) (reason : String) (w : World L) :
    Enters state w (subscribe topic (downloading reason w)) where
  connectionStatus := rfl
  detailsLostOrders := rfl
  aborted := rfl
  hasResponse k := by
    rw [hslot]
    rfl
  performed := by
    rw [hperformed]
    simp [downloadActions, subscribe, downloading, onConnectionStatus, World.act, isDownload]

section Advance

variable {config : Config} {state next' : State} {w : World L}

/-- Completing a state enters the next one. -/
theorem advance_of_some (h : next config w.detailsLostOrders state = some next') :
    next'.waits = true ∧ Enters next' w (advance config state w) := by
  rw [advance, h, Option.getD_some]
  cases state <;> simp only [next, reduceCtorEq, Option.some.injEq] at h <;> try subst h
  case getOpenOrders =>
    split_ifs at h with hdetails <;> obtain rfl := Option.some.inj h
    · exact ⟨rfl, enters_subscribe rfl rfl _ w⟩
    · rw [download, if_neg hdetails]
      exact ⟨rfl, enters_request rfl rfl _ w⟩
  case subscribeTrades =>
    split_ifs at h with htrades
    obtain rfl := Option.some.inj h
    rw [download, if_pos htrades]
    exact ⟨rfl, enters_request rfl rfl _ w⟩
  case getAccount | getBalances | getCurrentPositions | getLostOrders =>
    exact ⟨rfl, enters_subscribe rfl rfl _ w⟩
  case subscribeBalances | subscribePositions | subscribeOrders =>
    exact ⟨rfl, enters_request rfl rfl _ w⟩

/-- Completing the last state publishes that the stream is ready. -/
theorem advance_of_none (h : next config w.detailsLostOrders state = none) :
    advance config state w = onConnectionStatus .ready "" w := by
  rw [advance, h]
  rfl

end Advance

/-- Completing the current state enters the next one. -/
theorem check_current (config : Config) {state : State} {s : Session L D}
    (h : state.waits = true) (hstate : s.state = state) :
    (s.check config state).world = advance config state s.world ∧
      Reached (next config s.world.detailsLostOrders state) (s.check config state).state := by
  have henter := enter_later config h s.world
  constructor
  · have hworld := D.check_world (download config) state s.download s.world hstate
    rw [henter] at hworld
    exact hworld
  · have hreached := D.check_state (download config) state s.download s.world hstate
    rw [henter] at hreached
    exact hreached

/-- Completing any other state does nothing. -/
theorem check_other (config : Config) {state : State} {s : Session L D}
    (hstate : s.state ≠ state) :
    (s.check config state).world = s.world ∧ (s.check config state).state = s.state :=
  ⟨D.check_world_of_ne (download config) state s.download s.world hstate,
    D.check_state_of_ne (download config) state s.download s.world hstate⟩

/-- A login begins with the account. -/
theorem begin_eq (config : Config) (s : Session L D) :
    (s.begin config).world = request .account (downloading "get-account" s.world) ∧
      (s.begin config).state = .getAccount := by
  have hworld := D.begin_world (download config) s.download s.world
  have hstate := D.begin_state (download config) s.download s.world
  simp only [Stages.stages, enter, download, Int.reduceEq, ↓reduceIte, Reached] at hworld hstate
  exact ⟨hworld, hstate⟩

/-- **What a tick does to the download.** It completes a state whose slot has a response, after
a look at the stale orders if the state is `getOpenOrders`, and aborts in `getLostOrders` if
there are lost orders. -/
theorem checkRequestQueue_eq (config : Config) (stale : List OrderKey) (s : Session L D) :
    checkRequestQueue config stale s =
      match s.state.slot with
      | none => s
      | some k =>
        if s.world.hasResponse k then
          if s.state = .getLostOrders ∧ s.world.detailsLostOrders ≠ ∅ then
            { s with world := s.world.abort .lostOrdersNotEmpty }
          else if s.state = .getOpenOrders then
            Session.check config s.state { s with world := (checkStaleOrders stale s.world).2 }
          else s.check config s.state
        else s := by
  unfold checkRequestQueue
  cases hstate : s.state <;> simp [State.slot]

/-! ## Looking for stale orders -/

/-- A look at the stale orders records them and does nothing else. -/
structure Looks (w w' : World L) : Prop where
  connectionStatus : w'.connectionStatus = w.connectionStatus
  aborted : w'.aborted = w.aborted
  hasResponse : ∀ k, w'.hasResponse k = w.hasResponse k
  performed : downloadActions w' = downloadActions w ++ [.checkStaleOrders w'.detailsLostOrders]

theorem looks_checkStaleOrders (stale : List OrderKey) (w : World L) :
    Looks w (checkStaleOrders stale w).2 :=
  ⟨rfl, rfl, fun _ => rfl, by
    simp [checkStaleOrders, downloadActions, World.act, isDownload]⟩

/-- What the regular look at the stale orders does: it may look and request the lost orders. -/
structure Regular (w w' : World L) : Prop where
  connectionStatus : w'.connectionStatus = w.connectionStatus
  aborted : w'.aborted = w.aborted
  hasResponse : ∀ k, k ≠ .lostOrders → w'.hasResponse k = w.hasResponse k
  performed : Appends (fun a => (∃ details, a = .checkStaleOrders details) ∨
    a = .request .lostOrders) (downloadActions w) (downloadActions w')

/-- Looking twice. -/
theorem Regular.trans {u v w : World L} (h : Regular u v) (h' : Regular v w) : Regular u w where
  connectionStatus := h'.connectionStatus.trans h.connectionStatus
  aborted := h'.aborted.trans h.aborted
  hasResponse k hk := (h'.hasResponse k hk).trans (h.hasResponse k hk)
  performed := h.performed.trans h'.performed

theorem regular_checkStaleOrdersRegularly (now : Nanoseconds) (stale : List OrderKey)
    (w : World L) : Regular w (checkStaleOrdersRegularly now stale w) := by
  have hlooks := looks_checkStaleOrders stale
    { w with nextCheckStaleOrders := now + checkStaleOrdersFreq }
  have hlook : Appends (fun a => (∃ details, a = .checkStaleOrders details) ∨
      a = .request .lostOrders) (downloadActions w) (downloadActions (checkStaleOrders stale
        { w with nextCheckStaleOrders := now + checkStaleOrdersFreq }).2) := by
    rw [hlooks.performed]
    exact .concat (.inl ⟨_, rfl⟩) _
  unfold checkStaleOrdersRegularly
  dsimp only
  split_ifs
  · exact
      { connectionStatus := rfl
        aborted := rfl
        hasResponse := fun k hk =>
          (World.hasResponse_updateSlot_of_ne hk L.request _).trans (hlooks.hasResponse k)
        performed := hlook.trans (by
          simp only [downloadActions, request, World.act, World.updateSlot, List.filter_append]
          exact .concat (.inr rfl) _) }
  · exact ⟨rfl, rfl, fun k _ => hlooks.hasResponse k, hlook⟩
  · exact ⟨rfl, rfl, fun _ _ => rfl, .refl _ _⟩

/-! ## What the stream can do -/

/-- A reflexive and transitive relation between worlds that holds across everything the
websocket stream consists of. Only a master can abort over the lost orders. -/
structure Respects (config : Config) (R : World L → World L → Prop) : Prop where
  refl : ∀ w, R w w
  trans : ∀ {u v w}, R u v → R v w → R u w
  publish : ∀ status reason w, R w (onConnectionStatus status reason w)
  request : ∀ slot w, R w (request slot w)
  subscribe : ∀ topic w, R w (subscribe topic w)
  look : ∀ stale w, R w (checkStaleOrders stale w).2
  schedule : ∀ next w, R w { w with nextCheckStaleOrders := next }
  refused : ∀ w, R w (w.abort .loginRefused)
  notEmpty : config.master = true → ∀ w, R w (w.abort .lostOrdersNotEmpty)

namespace Respects

variable {config : Config} {R : World L → World L → Prop}

/-- Entering a state. -/
theorem download (h : Respects config R) (state : State) (w : World L) :
    R w (DropCopy.download config state w).2 := by
  have hrequest : ∀ slot reason, R w (DropCopy.request slot (downloading reason w)) :=
    fun slot reason => h.trans (h.publish _ _ w) (h.request slot _)
  have hsubscribe : ∀ topic reason, R w (DropCopy.subscribe topic (downloading reason w)) :=
    fun topic reason => h.trans (h.publish _ _ w) (h.subscribe topic _)
  cases state with
  | undefined => exact h.refl w
  | getAccount => exact hrequest _ _
  | subscribeBalances => exact hsubscribe _ _
  | getBalances => exact hrequest _ _
  | subscribePositions => exact hsubscribe _ _
  | getCurrentPositions => exact hrequest _ _
  | subscribeOrders => exact hsubscribe _ _
  | getOpenOrders => exact hrequest _ _
  | getLostOrders =>
    rw [DropCopy.download]
    split_ifs
    · exact h.refl w
    · exact hrequest _ _
  | subscribeTrades => exact hsubscribe _ _
  | getTrades =>
    rw [DropCopy.download]
    split_ifs
    · exact hrequest _ _
    · exact h.refl w
  | done => exact h.publish _ _ w

/-- Entering the first of several states that is not passed. -/
theorem enter (h : Respects config R) (states : List State) (w : World L) :
    R w (Core.enter (DropCopy.download config) states w).2 := by
  induction states generalizing w with
  | nil => exact h.refl w
  | cons state rest ih =>
    rw [Core.enter]
    split_ifs
    · exact h.trans (h.download state w) (ih _)
    · exact h.download state w

/-- Completing any state. -/
theorem check (h : Respects config R) (state : State) (s : Session L D) :
    R s.world (s.check config state).world := by
  by_cases hstate : s.state = state
  · have hworld := D.check_world (DropCopy.download config) state s.download s.world hstate
    have henter := h.enter (later state) s.world
    rwa [← hworld] at henter
  · rw [(check_other config hstate).1]
    exact h.refl s.world

theorem onLogin (h : Respects config R) (code : ℤ) (s : Session L D) :
    R s.world (DropCopy.onLogin config code s).world := by
  unfold DropCopy.onLogin
  split_ifs
  · exact h.refused s.world
  · rw [(begin_eq config s).1]
    exact h.trans (h.publish _ _ s.world) (h.request _ _)
  · exact h.publish _ _ s.world

theorem onSubscribe (h : Respects config R) (topic : Topic) (code : ℤ) (s : Session L D) :
    R s.world (DropCopy.onSubscribe config topic code s).world := by
  cases topic with
  | account => exact h.check _ s
  | position => exact h.check _ s
  | order => exact h.check _ s
  | fill => exact h.check _ s
  | _ => exact h.refl s.world

theorem checkRequestQueue (h : Respects config R) (hmaster : config.master = true)
    (stale : List OrderKey) (s : Session L D) :
    R s.world (DropCopy.checkRequestQueue config stale s).world := by
  rw [checkRequestQueue_eq]
  cases s.state.slot with
  | none => exact h.refl s.world
  | some k =>
    dsimp only
    split_ifs
    · exact h.notEmpty hmaster s.world
    · exact h.trans (h.look stale s.world)
        (h.check s.state { s with world := (checkStaleOrders stale s.world).2 })
    · exact h.check _ s
    · exact h.refl s.world

theorem checkStaleOrdersRegularly (h : Respects config R) (now : Nanoseconds)
    (stale : List OrderKey) (w : World L) :
    R w (DropCopy.checkStaleOrdersRegularly now stale w) := by
  have hlook : R w (checkStaleOrders stale
      { w with nextCheckStaleOrders := now + checkStaleOrdersFreq }).2 :=
    h.trans (h.schedule (now + checkStaleOrdersFreq) w) (h.look stale _)
  unfold DropCopy.checkStaleOrdersRegularly
  dsimp only
  split_ifs
  · exact h.trans hlook (h.request .lostOrders _)
  · exact hlook
  · exact h.refl w

/-- **A tick of the websocket stream.** -/
theorem onTimer (h : Respects config R) (refresh : Bool) (now : Nanoseconds)
    (stale : List OrderKey) (s : Session L D) :
    R s.world (DropCopy.onTimer config refresh now stale s).world := by
  unfold DropCopy.onTimer
  by_cases hrefresh : (refresh && config.master) = true
  · have hmaster : config.master = true := by simp_all
    have hqueue := h.checkRequestQueue hmaster stale s
    rw [if_pos hrefresh]
    dsimp only
    split_ifs
    · exact hqueue
    · exact h.trans hqueue (h.checkStaleOrdersRegularly now stale _)
    · exact hqueue
  · rw [if_neg hrefresh]
    exact h.refl s.world

end Respects

/-- What the websocket stream can do: it sends nothing, commits nothing and leaves the requests
in flight alone. Only a master can abort over the lost orders. -/
structure Decides (config : Config) (w w' : World L) : Prop where
  inFlight : w'.inFlight = w.inFlight
  downloadLostOrdersCounter : w'.downloadLostOrdersCounter = w.downloadLostOrdersCounter
  aborted : w'.aborted = w.aborted ∨ w'.aborted = some .loginRefused ∨
    config.master = true ∧ w'.aborted = some .lostOrdersNotEmpty
  actions : Appends (fun a => (∀ sent, a ≠ .send sent) ∧ ∀ k, a ≠ .commit k) w.actions w'.actions

namespace Decides

variable {config : Config}

/-- Doing nothing. -/
theorem refl (config : Config) (w : World L) : Decides config w w :=
  ⟨rfl, rfl, .inl rfl, .refl _ _⟩

/-- Doing one thing after another. -/
theorem trans {u v w : World L} (h : Decides config u v) (h' : Decides config v w) :
    Decides config u w := by
  refine
    { inFlight := h'.inFlight.trans h.inFlight
      downloadLostOrdersCounter := h'.downloadLostOrdersCounter.trans h.downloadLostOrdersCounter
      aborted := ?_
      actions := h.actions.trans h'.actions }
  rcases h'.aborted with heq | hfatal
  · rw [heq]
    exact h.aborted
  · exact .inr hfatal

end Decides

/-- An action that is neither a request sent nor an answer committed. -/
theorem decides_act (config : Config) (action : Action)
    (h : (∀ sent, action ≠ .send sent) ∧ ∀ k, action ≠ .commit k) (w : World L) :
    Decides config w (w.act action) :=
  { Decides.refl config w with
    actions := .concat (a := action) h w.actions }

/-- **The websocket stream only decides.** -/
theorem respects_decides (config : Config) : Respects config (Decides (L := L) config) where
  refl := Decides.refl config
  trans := Decides.trans
  publish status reason w := { decides_act config (.publish status reason) (by simp) w with }
  request slot w := { decides_act config (.request slot) (by simp) w with }
  subscribe topic w := decides_act config (.subscribe topic) (by simp) w
  look stale w :=
    { decides_act config (.checkStaleOrders
        (stale.foldl insertStale (w.detailsLostOrders, 0)).1) (by simp) w with }
  schedule _ w := { Decides.refl config w with }
  refused w := { Decides.refl config w with aborted := .inr (.inl rfl) }
  notEmpty hmaster w := { Decides.refl config w with aborted := .inr (.inr ⟨hmaster, rfl⟩) }

end DropCopy

end RoqBitget.Gateway
