import RoqBitget.Foundations.Paging
import RoqBitget.Gateway.Fills
import RoqBitget.Gateway.RestRequests
import RoqBitget.Gateway.Session

set_option relaxedAutoImplicit false
set_option autoImplicit false

/-!
# The pages of a snapshot

The exchange answers a request for the open orders, or for the fills since a time, with at most
a page of them and a cursor from which the next request continues. `OrderEntry` asks once,
without a page size and without a cursor, dispatches what it gets and commits the slot.

## Main definitions

* `RoqBitget.Gateway.unfilledOrdersQuery`, `tradeFillsQuery` — what the gateway asks for.
* `RoqBitget.Gateway.onUnfilledOrdersAck` — the handler of the open orders.
* `RoqBitget.Gateway.Exchange` — an exchange that serves its records in pages.
* `RoqBitget.Gateway.PagesServed` — the answers come from the exchange.

## Main results

* `RoqBitget.Gateway.query_requests` — the queries are those of the two requests.
* `RoqBitget.Gateway.answers_of_commit` — a slot is committed by one answer to its request.
* `RoqBitget.Gateway.snapshots_complete_iff` — a snapshot is complete exactly when all records
  fit on one page.

## Implementation notes

The flags `download_orders_page_size` and `download_fills_page_size` are left out, as nothing
reads them. The cursor of an answer is decoded, and nothing reads it either.
-/

namespace RoqBitget.Protocol

/-- An item of the REST answer (`unfilled_orders_ack_data_list_item.json`). -/
structure UnfilledOrdersAckDataListItem where
  orderId : String
  clientOid : String
  symbol : String
  price : Double
  qty : Double
  orderType : OrderType
  cumExecQty : Double
  avgPrice : Double
  orderStatus : OrderStatus
  side : Side
  timeInForce : TimeInForce
  posSide : PosSide
  createdTime : Milliseconds
  updatedTime : Milliseconds
  deriving DecidableEq

/-- The REST answer (`unfilled_orders_ack.json`), as far as its handler reads it. -/
structure UnfilledOrdersAck where
  requestTime : Milliseconds
  list : List UnfilledOrdersAckDataListItem

deriving instance DecidableEq for TradeFillsAckDataListItem

/-- What surrounds a paged answer: the code and the message that its callback reads, and the
cursor from which the next request would continue. -/
structure Paged (Ack : Type) where
  code : ℤ
  msg : String
  cursor : ℤ
  ack : Ack

end RoqBitget.Protocol

namespace RoqBitget.Gateway

open RoqBitget.Core Runs Paging DropCopy OrderEntry

/-! ## The requests -/

/-- The parameters that the two endpoints understand. -/
structure Query where
  category : String
  startTime : Option Milliseconds
  limit : Option ℕ
  cursor : Option ℤ

/-- The text of a query. -/
def Query.text (query : Query) : String :=
  "?category=" ++ query.category ++
    (query.startTime.elim "" fun t => "&startTime=" ++ toString t.count) ++
    (query.limit.elim "" fun n => "&limit=" ++ toString n) ++
    query.cursor.elim "" fun c => "&cursor=" ++ toString c

/-- The settings that the requests are made from. -/
structure QuerySettings where
  /-- `shared_.api.category`. -/
  category : String
  /-- `shared_.settings.rest.download_fills_begin`. -/
  downloadFillsBegin : Nanoseconds

/-- The query of `OrderEntry::get_unfilled_orders`. -/
def unfilledOrdersQuery (settings : QuerySettings) : Query where
  category := settings.category
  startTime := none
  limit := none
  cursor := none

/-- `start_time` of `OrderEntry::get_trade_fills`: `duration_cast` cuts towards zero. -/
def startTime (settings : QuerySettings) (now : Nanoseconds) : Milliseconds :=
  ⟨(now - settings.downloadFillsBegin).tdiv 1000000⟩

/-- The query of `OrderEntry::get_trade_fills`. -/
def tradeFillsQuery (settings : QuerySettings) (now : Nanoseconds) : Query where
  category := settings.category
  startTime := some (startTime settings now)
  limit := none
  cursor := none

/-- The settings of a stream. -/
def querySettings (context : RestRequests.Context) : QuerySettings where
  category := context.sharedApi.category
  downloadFillsBegin := context.downloadFillsBegin

/-- **The two queries are those of the requests.** -/
theorem query_requests (platform : RestRequests.Platform) (context : RestRequests.Context)
    (now : Nanoseconds) :
    (RestRequests.getUnfilledOrders platform context now).query =
        (unfilledOrdersQuery (querySettings context)).text ∧
      (RestRequests.getTradeFills platform context now).query =
        (tradeFillsQuery (querySettings context) now).text := by
  constructor
  · simp [RestRequests.getUnfilledOrders, RestRequests.get, RestRequests.categoryQuery,
      Query.text, unfilledOrdersQuery, querySettings]
  · simp [RestRequests.getTradeFills, RestRequests.get, Query.text, tradeFillsQuery, startTime,
      querySettings, String.append_assoc]

/-! ## The handler of the open orders -/

/-- The update for an item: the loop's body. -/
def orderUpdate (stream : Stream) (sendingTime : Milliseconds)
    (item : Protocol.UnfilledOrdersAckDataListItem) : Oms.OrderUpdate :=
  { account := stream.account
    exchange := stream.exchange
    symbol := item.symbol
    side := Protocol.mapSide item.side
    positionEffect := Protocol.mapPosSide item.posSide item.side
    marginMode := .undefined
    maxShowQuantity := .nan
    orderType := Protocol.mapOrderType item.orderType
    timeInForce := Protocol.mapTimeInForce item.timeInForce
    executionInstructions := ∅
    executionDestination := ""
    createTimeUtc := item.createdTime.toNanoseconds
    updateTimeUtc := item.updatedTime.toNanoseconds
    externalAccount := ""
    externalOrderId := item.orderId
    clientOrderId := item.clientOid
    orderStatus := Protocol.mapOrderStatus item.orderStatus
    error := .undefined
    text := ""
    quantity := item.qty
    price := item.price
    stopPrice := .nan
    leverage := .nan
    remainingQuantity := item.qty.sub item.cumExecQty
    tradedQuantity := item.cumExecQty
    averageTradedPrice := item.avgPrice
    lastTradedQuantity := .nan
    lastTradedPrice := .nan
    lastLiquidity := .undefined
    routingId := ""
    maxRequestVersion := 0
    maxResponseVersion := 0
    maxAcceptedVersion := 0
    updateType := .snapshot
    sendingTimeUtc := sendingTime.toNanoseconds }

/-- `OrderEntry::operator()(Trace<protocol::json::UnfilledOrdersAck> const &)`. -/
def onUnfilledOrdersAck (stream : Stream) (ack : Protocol.UnfilledOrdersAck) :
    List Oms.OrderUpdate :=
  ack.list.map (orderUpdate stream ack.requestTime)

/-! ## The decoded answers -/

/-- The generated decoders of the two answers; they may throw. -/
structure PageDecoders where
  unfilledOrders : String → Except Exception (Protocol.Paged Protocol.UnfilledOrdersAck)
  tradeFills : String → Except Exception (Protocol.Paged Protocol.TradeFillsAck)

/-- What the callback of a paged answer reads. -/
def envelope {Ack : Type} (paged : Protocol.Paged Ack) : Gateway.Ack := ⟨paged.code, paged.msg, ""⟩

/-- A configuration that reads the two answers with the given decoders. -/
def Config.reading (config : Config) (decoders : PageDecoders) : Config :=
  { config with
    decode := fun endpoint body =>
      match endpoint with
      | .unfilledOrders => (decoders.unfilledOrders body).map envelope
      | .tradeFills => (decoders.tradeFills body).map envelope
      | _ => config.decode endpoint body }

/-- The answer on open orders that was dispatched in a reaction. -/
def dispatchedOrders (decoders : PageDecoders) (entry : Entry Event Action) :
    Option (Protocol.Paged Protocol.UnfilledOrdersAck) :=
  match entry.event with
  | .response _ response =>
    if .dispatch .unfilledOrders ∈ entry.actions then
      (decoders.unfilledOrders response.body).toOption
    else none
  | _ => none

/-- The answer on fills that was dispatched in a reaction. -/
def dispatchedFills (decoders : PageDecoders) (entry : Entry Event Action) :
    Option (Protocol.Paged Protocol.TradeFillsAck) :=
  match entry.event with
  | .response _ response =>
    if .dispatch .tradeFills ∈ entry.actions then (decoders.tradeFills response.body).toOption
    else none
  | _ => none

/-! ## The exchange -/

/-- An exchange whose records do not change during the download. -/
structure Exchange where
  openOrders : List Protocol.UnfilledOrdersAckDataListItem
  fills : List Protocol.TradeFillsAckDataListItem
  /-- The page size, fixed by the exchange or requested. -/
  pageSize : Option ℕ → ℕ
  /-- The position from which a cursor continues. -/
  position : ℤ → ℕ
  /-- The cursor that continues from a position. -/
  cursor : ℕ → ℤ
  position_cursor : ∀ n, position (cursor n) = n

namespace Exchange

/-- Records served in pages of the size for a query. -/
def listing {Record : Type} (x : Exchange) (records : List Record) (limit : Option ℕ) :
    Listing Record ℤ where
  records := records
  size := x.pageSize limit
  position := x.position
  cursor := x.cursor
  position_cursor := x.position_cursor

/-- The fills since a time. -/
def fillsSince (x : Exchange) (start : Milliseconds) : List Protocol.TradeFillsAckDataListItem :=
  x.fills.filter fun fill => start.count ≤ fill.createdTime.count

/-- The answer to a query for open orders. -/
def unfilledOrders (x : Exchange) (query : Query) :
    List Protocol.UnfilledOrdersAckDataListItem × ℤ :=
  (x.listing x.openOrders query.limit).page query.cursor

/-- The answer to a query for fills. -/
def tradeFills (x : Exchange) (query : Query) : List Protocol.TradeFillsAckDataListItem × ℤ :=
  (x.listing (query.startTime.elim x.fills x.fillsSince) query.limit).page query.cursor

end Exchange

variable {L : LimitRequest} {D : Download2 State (World L)}

/-- What an answer is if the exchange gave it: on success its body holds the records and the
cursor of the exchange's answer to the query of its request, which was sent at `sentAt`. -/
def ServesPage (x : Exchange) (decoders : PageDecoders) (settings : QuerySettings)
    (sentAt : ℕ → Nanoseconds) (sent : Sent) (response : Response) : Prop :=
  match sent.endpoint with
  | .unfilledOrders =>
    ∀ paged ∈ (decoders.unfilledOrders response.body).toOption, paged.code = 0 →
      (paged.ack.list, paged.cursor) = x.unfilledOrders (unfilledOrdersQuery settings)
  | .tradeFills =>
    ∀ paged ∈ (decoders.tradeFills response.body).toOption, paged.code = 0 →
      (paged.ack.list, paged.cursor) =
        x.tradeFills (tradeFillsQuery settings (sentAt sent.id))
  | _ => True

instance (x : Exchange) (decoders : PageDecoders) (settings : QuerySettings)
    (sentAt : ℕ → Nanoseconds) (response : Response) :
    (sent : Sent) → Decidable (ServesPage x decoders settings sentAt sent response)
  | ⟨_, .unfilledOrders⟩ =>
    inferInstanceAs (Decidable (∀ paged ∈ (decoders.unfilledOrders response.body).toOption,
      paged.code = 0 → _ = x.unfilledOrders _))
  | ⟨_, .tradeFills⟩ =>
    inferInstanceAs (Decidable (∀ paged ∈ (decoders.tradeFills response.body).toOption,
      paged.code = 0 → _ = x.tradeFills _))
  | ⟨_, .accountSettings⟩ | ⟨_, .accountAssets⟩ | ⟨_, .currentPositions⟩
  | ⟨_, .orderDetails _⟩ => isTrue trivial

/-- Successful answers come from the exchange. -/
def PagesServed (x : Exchange) (config : Config) (decoders : PageDecoders)
    (settings : QuerySettings) (sentAt : ℕ → Nanoseconds) (_ : History Event Action)
    (_ : Session L D) : Event → Prop
  | .response sent response =>
    Successful (config.reading decoders) sent.endpoint response →
      ServesPage x decoders settings sentAt sent response
  | _ => True

instance (x : Exchange) (config : Config) (decoders : PageDecoders) (settings : QuerySettings)
    (sentAt : ℕ → Nanoseconds) (h : History Event Action) (s : Session L D) :
    (e : Event) → Decidable (PagesServed x config decoders settings sentAt h s e)
  | .response sent response =>
    inferInstanceAs (Decidable (Successful (config.reading decoders) sent.endpoint response →
      ServesPage x decoders settings sentAt sent response))
  | .login _ | .subscribed _ _ | .disconnected | .timer _ _ _ | .restConnected
  | .restDisconnected | .restTimer _ => isTrue trivial

/-! ## Where a commit comes from -/

variable {config : Config} {ok : History Event Action → Session L D → Event → Prop}
  {h : History Event Action} {s : Session L D} {entry : Entry Event Action}

/-- **A slot is committed by one answer.** A reaction that commits a slot is the callback of a
request for it, and performs nothing but what that callback does. -/
theorem answers_of_commit (run : Run (system config L D) ok h s) (hentry : entry ∈ h) {slot : Slot}
    (hcommit : .commit slot ∈ entry.actions) :
    ∃ h' s' sent response, Run (system config L D) ok h' s' ∧
      ok h' s' (.response sent response) ∧ entry.event = .response sent response ∧
      sent.endpoint.slot = slot ∧
      entry.actions = (onResponse config sent response (fresh s').world).actions := by
  obtain ⟨h', s', hrun, -, hok, hactions⟩ := run.of_mem hentry
  have hfresh : (fresh s').world.actions = [] := rfl
  change entry.actions = (react config (fresh s') entry.event).world.actions at hactions
  rw [hactions] at hcommit
  by_cases he : entry.event.isWebsocket = true
  · have hdecides := (respects_decides config).react (fresh s') entry.event he
    rcases hdecides.actions.mem hcommit with hmem | ⟨-, hnot⟩
    · simp [hfresh] at hmem
    · exact absurd rfl (hnot slot)
  cases hevent : entry.event with
  | restConnected =>
    simp [hevent, react, OrderEntry.onConnected, OrderEntry.onConnectionStatus, World.act,
      hfresh] at hcommit
  | restDisconnected =>
    simp [hevent, react, OrderEntry.onDisconnected, OrderEntry.onConnectionStatus, World.act,
      hfresh] at hcommit
  | restTimer tick =>
    rw [hevent] at hcommit
    rcases (sends_onTimer config tick (fresh s').world).actions.mem hcommit with hmem | hsent
    · simp [hfresh] at hmem
    · simp at hsent
  | response sent response =>
    rw [hevent] at hcommit hactions hok
    have hanswers := (answers_onResponse config sent response (fresh s').world).actions
    rcases hanswers.mem hcommit with hmem | ⟨_, heq⟩ | ⟨_, heq⟩ | heq
    · simp [hfresh] at hmem
    · simp at heq
    · simp at heq
    · exact ⟨h', s', sent, response, hrun, hok, rfl, (Action.commit.inj heq).symm, hactions⟩
  | _ => simp [hevent, Event.isWebsocket] at he

/-- An answer is dispatched only if it is successful. -/
theorem successful_of_dispatch {endpoint : Endpoint} {response : Response} {w : World L}
    (hactions : w.actions = [])
    (hdispatch : .dispatch endpoint ∈ (acknowledge config endpoint response w).actions) :
    Successful config endpoint response := by
  rw [← dispatched_iff_successful]
  unfold acknowledge finish at hdispatch
  cases houtcome : processResponse config response (handleSuccess config endpoint) with
  | dispatched => rfl
  | failed failure => simp [houtcome, commit, World.act, World.updateSlot, hactions] at hdispatch
  | ignored => simp [houtcome, commit, World.act, World.updateSlot, hactions] at hdispatch
  | fatal fatal => simp [houtcome, World.abort, hactions] at hdispatch

/-- **A commit with a dispatch.** If a reaction commits the slot of a request and dispatches an
answer, then the answer is that of the request, and it is successful. -/
theorem successful_of_commit (run : Run (system config L D) ok h s) (hentry : entry ∈ h)
    (endpoint : Endpoint) (hendpoint : endpoint.slot ≠ .lostOrders)
    (hcommit : .commit endpoint.slot ∈ entry.actions)
    (hdispatch : .dispatch endpoint ∈ entry.actions) :
    ∃ h' s' id response, ok h' s' (.response ⟨id, endpoint⟩ response) ∧
      entry.event = .response ⟨id, endpoint⟩ response ∧ Successful config endpoint response := by
  obtain ⟨h', s', ⟨id, other⟩, response, -, hok, hevent, hslot, hactions⟩ :=
    answers_of_commit run hentry hcommit
  obtain rfl : other = endpoint := by
    cases other <;> cases endpoint <;> simp_all [Endpoint.slot]
  refine ⟨h', s', id, response, hok, hevent, ?_⟩
  rw [hactions] at hdispatch
  rcases onResponse_cases config ⟨id, other⟩ response (fresh s').world with
    ⟨_, hdetails, -⟩ | ⟨-, heq⟩
  · simp [show other = _ from hdetails, Endpoint.slot] at hendpoint
  · rw [heq] at hdispatch
    exact successful_of_dispatch rfl hdispatch

/-! ## What is dispatched -/

/-- A paged answer that is read as a success was decoded to a code of zero. -/
theorem decoded_of_envelope {Ack : Type} {result : Except Exception (Protocol.Paged Ack)}
    (h : ∃ ack, result.map envelope = .ok ack ∧ ack.code = 0) :
    ∃ paged, result = .ok paged ∧ paged.code = 0 := by
  obtain ⟨ack, hack, hcode⟩ := h
  cases result with
  | error e => simp [Except.map] at hack
  | ok paged =>
    obtain rfl : envelope paged = ack := Except.ok.inj hack
    exact ⟨paged, rfl, hcode⟩

section Dispatched

variable {x : Exchange} {decoders : PageDecoders} {settings : QuerySettings}
  {sentAt : ℕ → Nanoseconds}

/-- The open orders that are dispatched before a commit are those of the exchange's answer. -/
theorem dispatched_unfilledOrders
    (run : Run (system (config.reading decoders) L D)
      (PagesServed x config decoders settings sentAt) h s)
    (hentry : entry ∈ h) (hcommit : .commit .openOrders ∈ entry.actions)
    (hdispatch : .dispatch .unfilledOrders ∈ entry.actions) :
    ∃ paged, dispatchedOrders decoders entry = some paged ∧
      paged.ack.list = (x.unfilledOrders (unfilledOrdersQuery settings)).1 := by
  obtain ⟨_, _, id, response, hserved, hevent, hsuccessful⟩ :=
    successful_of_commit run hentry .unfilledOrders (by simp [Endpoint.slot]) hcommit hdispatch
  obtain ⟨paged, hpaged, hcode⟩ := decoded_of_envelope hsuccessful.2.2
  have hmem : paged ∈ (decoders.unfilledOrders response.body).toOption := by
    rw [hpaged]
    rfl
  refine ⟨paged, ?_, congrArg Prod.fst (hserved hsuccessful paged hmem hcode)⟩
  simp [dispatchedOrders, hevent, hdispatch, hpaged, Except.toOption]

/-- The fills that are dispatched before a commit are those of the exchange's answer. -/
theorem dispatched_tradeFills
    (run : Run (system (config.reading decoders) L D)
      (PagesServed x config decoders settings sentAt) h s)
    (hentry : entry ∈ h) (hcommit : .commit .trades ∈ entry.actions)
    (hdispatch : .dispatch .tradeFills ∈ entry.actions) :
    ∃ sent response paged, entry.event = .response sent response ∧
      dispatchedFills decoders entry = some paged ∧
      paged.ack.list = (x.tradeFills (tradeFillsQuery settings (sentAt sent.id))).1 := by
  obtain ⟨_, _, id, response, hserved, hevent, hsuccessful⟩ :=
    successful_of_commit run hentry .tradeFills (by simp [Endpoint.slot]) hcommit hdispatch
  obtain ⟨paged, hpaged, hcode⟩ := decoded_of_envelope hsuccessful.2.2
  have hmem : paged ∈ (decoders.tradeFills response.body).toOption := by
    rw [hpaged]
    rfl
  refine ⟨_, response, paged, hevent, ?_,
    congrArg Prod.fst (hserved hsuccessful paged hmem hcode)⟩
  simp [dispatchedFills, hevent, hdispatch, hpaged, Except.toOption]

/-- **Snapshots are complete if they fit on a page**, and only then. Whenever a run commits the
open orders after a successful answer, it has dispatched an update for every open order of the
exchange, each exactly once, if and only if the orders fit on the page that the exchange serves
to the gateway's query; and so for the fills since the start time of the request. The two queries,
which have neither a limit nor a cursor, are those of the requests that a stream with these
settings makes. -/
theorem snapshots_complete_iff (stream : Stream) (shared : Shared)
    (run : Run (system (config.reading decoders) L D)
      (PagesServed x config decoders settings sentAt) h s) (hentry : entry ∈ h) :
    (.commit .openOrders ∈ entry.actions → .dispatch .unfilledOrders ∈ entry.actions →
      ∃ paged, dispatchedOrders decoders entry = some paged ∧
        ((onUnfilledOrdersAck stream paged.ack).Perm
            (x.openOrders.map (orderUpdate stream paged.ack.requestTime)) ↔
          x.openOrders.length ≤ x.pageSize none)) ∧
    (.commit .trades ∈ entry.actions → .dispatch .tradeFills ∈ entry.actions →
      ∃ sent response paged, entry.event = .response sent response ∧
        dispatchedFills decoders entry = some paged ∧
        (((onTradeFillsAck stream shared paged.ack).1.flatMap TradeUpdate.fills).Perm
            ((x.fillsSince (startTime settings (sentAt sent.id))).map
              fun item => (tradeFillsAckItem item).fill) ↔
          (x.fillsSince (startTime settings (sentAt sent.id))).length ≤ x.pageSize none)) ∧
    ∀ platform context now, querySettings context = settings →
      (RestRequests.getUnfilledOrders platform context now).query =
          (unfilledOrdersQuery settings).text ∧
        (RestRequests.getTradeFills platform context now).query =
          (tradeFillsQuery settings now).text := by
  refine ⟨?_, ?_, fun platform context now hsettings =>
    hsettings ▸ query_requests platform context now⟩
  · intro hcommit hdispatch
    obtain ⟨paged, hpaged, hlist⟩ := dispatched_unfilledOrders run hentry hcommit hdispatch
    have hcomplete := (x.listing x.openOrders none).fetch_map_perm_iff 1
      (orderUpdate stream paged.ack.requestTime)
    rw [Listing.fetch_one, Nat.one_mul] at hcomplete
    refine ⟨paged, hpaged, ?_⟩
    rw [onUnfilledOrdersAck, hlist]
    exact hcomplete
  · intro hcommit hdispatch
    obtain ⟨sent, response, paged, hevent, hpaged, hlist⟩ :=
      dispatched_tradeFills run hentry hcommit hdispatch
    have hcomplete := (x.listing (x.fillsSince (startTime settings (sentAt sent.id)))
      none).fetch_map_perm_iff 1 fun item => (tradeFillsAckItem item).fill
    rw [Listing.fetch_one, Nat.one_mul] at hcomplete
    have hfills : (onTradeFillsAck stream shared paged.ack).1.flatMap TradeUpdate.fills =
        paged.ack.list.map fun item => (tradeFillsAckItem item).fill := by
      rw [onTradeFillsAck, (groupedUpdates_dispatchTrades _ shared _).concat, List.map_map]
      rfl
    refine ⟨sent, response, paged, hevent, hpaged, ?_⟩
    rw [hfills, hlist]
    exact hcomplete

end Dispatched

/-! ## Two orders and two fills -/

/-- An open order with the given ids. -/
def openOrder (orderId clientOid : String) : Protocol.UnfilledOrdersAckDataListItem where
  orderId := orderId
  clientOid := clientOid
  symbol := "BTCUSDT"
  price := .value 100000
  qty := .value 2
  orderType := .limit
  cumExecQty := .value 1
  avgPrice := .value 100000
  orderStatus := .partiallyFilled
  side := .buy
  timeInForce := .gtc
  posSide := .long
  createdTime := ⟨1758185294000⟩
  updatedTime := ⟨1758185294001⟩

/-- A fill with the given id. -/
def recentFill (execId : String) : Protocol.TradeFillsAckDataListItem where
  execId := execId
  orderId := "1356"
  clientOid := "oAAB"
  symbol := "BTCUSDT"
  execPrice := .value 100000
  execQty := .value 1
  feeDetail := []
  side := .buy
  tradeScope := .taker
  tradeSide := .openLong
  createdTime := ⟨1758185294000⟩
  updatedTime := ⟨1758185294001⟩

/-- An exchange with two open orders and two fills, in pages of a fixed size. -/
def twoRecords (pageSize : ℕ) : Exchange where
  openOrders := [openOrder "1356" "oAAB", openOrder "1357" "oAAC"]
  fills := [recentFill "1358", recentFill "1359"]
  pageSize _ := pageSize
  position := Int.toNat
  cursor n := n
  position_cursor := Int.toNat_natCast

/-- Requests for a category and the fills of a day. -/
def simpleQuerySettings : QuerySettings where
  category := "USDT-FUTURES"
  downloadFillsBegin := minutes 1440

/-- Every request is sent at one time. -/
def simpleSentAt (_ : ℕ) : Nanoseconds := seconds 1758185300

/-- Decoders that know one body, the answer of the exchange. -/
def simplePageDecoders (x : Exchange) : PageDecoders where
  unfilledOrders body :=
    let (list, cursor) := x.unfilledOrders (unfilledOrdersQuery simpleQuerySettings)
    if body = "ok" then .ok ⟨0, "success", cursor, ⟨1758185295000⟩, list⟩
    else .error (.std "unexpected")
  tradeFills body :=
    let (list, cursor) := x.tradeFills (tradeFillsQuery simpleQuerySettings (simpleSentAt 0))
    if body = "ok" then .ok ⟨0, "success", cursor, ⟨1758185296000⟩, list⟩
    else .error (.std "unexpected")

/-- A download from an exchange that serves two orders and two fills. -/
def pagedDownload (pageSize : ℕ) : History Event Action × Session flags sequencer :=
  play (system (simpleConfig.reading (simplePageDecoders (twoRecords pageSize))) flags sequencer)
    (fullDownload (answer "ok"))

/-- Pages of two: both orders and both fills are dispatched. -/
theorem twoOnOnePage_complete :
    (∃ entry ∈ (pagedDownload 2).1, .commit .openOrders ∈ entry.actions ∧
      ∃ paged, dispatchedOrders (simplePageDecoders (twoRecords 2)) entry = some paged ∧
        (onUnfilledOrdersAck ⟨2, "A1", "bitget"⟩ paged.ack).Perm
          ((twoRecords 2).openOrders.map
            (orderUpdate ⟨2, "A1", "bitget"⟩ paged.ack.requestTime))) ∧
    ∃ entry ∈ (pagedDownload 2).1, .commit .trades ∈ entry.actions ∧
      ∃ paged, dispatchedFills (simplePageDecoders (twoRecords 2)) entry = some paged ∧
        ((onTradeFillsAck ⟨2, "A1", "bitget"⟩ ⟨[]⟩ paged.ack).1.flatMap TradeUpdate.fills).Perm
          ((twoRecords 2).fills.map fun item => (tradeFillsAckItem item).fill) := by
  have hrun : Run
      (system (simpleConfig.reading (simplePageDecoders (twoRecords 2))) flags sequencer)
      (PagesServed (twoRecords 2) simpleConfig (simplePageDecoders (twoRecords 2))
        simpleQuerySettings simpleSentAt) (pagedDownload 2).1 (pagedDownload 2).2 :=
    Run.play (by decide +kernel)
  constructor
  · refine ⟨(pagedDownload 2).1.get ⟨5, by decide +kernel⟩, List.get_mem _ _,
      by decide +kernel, ?_⟩
    obtain ⟨paged, hpaged, hiff⟩ := (snapshots_complete_iff ⟨2, "A1", "bitget"⟩ ⟨[]⟩ hrun
      (List.get_mem _ ⟨5, by decide +kernel⟩)).1 (by decide +kernel) (by decide +kernel)
    exact ⟨paged, hpaged, hiff.mpr (by decide)⟩
  · refine ⟨(pagedDownload 2).1.get ⟨1, by decide +kernel⟩, List.get_mem _ _,
      by decide +kernel, ?_⟩
    have hall : (twoRecords 2).fillsSince (startTime simpleQuerySettings (simpleSentAt 0)) =
      (twoRecords 2).fills := by decide +kernel
    obtain ⟨sent, response, paged, -, hpaged, hiff⟩ :=
      (snapshots_complete_iff ⟨2, "A1", "bitget"⟩ ⟨[]⟩ hrun
        (List.get_mem _ ⟨1, by decide +kernel⟩)).2.1 (by decide +kernel) (by decide +kernel)
    change _ ↔ ((twoRecords 2).fillsSince (startTime simpleQuerySettings (simpleSentAt 0))).length
      ≤ 2 at hiff
    rw [hall] at hiff
    refine ⟨paged, hpaged, ?_⟩
    rw [← hall]
    exact hiff.mpr (by decide)

/-- Pages of one: the slots are committed after successful answers, and the second order and the
second fill are not dispatched. -/
theorem twoOnTwoPages_incomplete :
    ∃ h, ∃ s : Session flags sequencer,
      Run (system (simpleConfig.reading (simplePageDecoders (twoRecords 1))) flags sequencer)
        (PagesServed (twoRecords 1) simpleConfig (simplePageDecoders (twoRecords 1))
          simpleQuerySettings simpleSentAt) h s ∧
      (∃ entry ∈ h, .commit .openOrders ∈ entry.actions ∧
        .dispatch .unfilledOrders ∈ entry.actions) ∧
      (∃ entry ∈ h, .commit .trades ∈ entry.actions ∧ .dispatch .tradeFills ∈ entry.actions) ∧
      (∀ entry ∈ h, ∀ paged ∈ dispatchedOrders (simplePageDecoders (twoRecords 1)) entry,
        ∀ update ∈ onUnfilledOrdersAck ⟨2, "A1", "bitget"⟩ paged.ack,
          update.externalOrderId ≠ "1357") ∧
      ∀ entry ∈ h, ∀ paged ∈ dispatchedFills (simplePageDecoders (twoRecords 1)) entry,
        ∀ update ∈ (onTradeFillsAck ⟨2, "A1", "bitget"⟩ ⟨[]⟩ paged.ack).1,
          ∀ fill ∈ update.fills, fill.externalTradeId ≠ "1359" :=
  ⟨(pagedDownload 1).1, (pagedDownload 1).2, Run.play (by decide +kernel), by decide +kernel,
    by decide +kernel, by decide +kernel, by decide +kernel⟩

end RoqBitget.Gateway
