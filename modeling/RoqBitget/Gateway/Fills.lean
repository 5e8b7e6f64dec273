import Mathlib.Algebra.Field.Rat
import RoqBitget.Foundations.KeyedGroups
import RoqBitget.Protocol.Map

set_option relaxedAutoImplicit false
set_option autoImplicit false

/-!
# Trade updates

The two handlers that publish fills: `DropCopy` for the websocket message `Fill` and
`OrderEntry` for the REST answer `TradeFillsAck`. Both collect fills in a vector that all
streams share, and publish what they have collected as one `TradeUpdate` whenever the key of
the items changes: symbol, order id, client id, side and trade side.

## Main definitions

* `RoqBitget.Gateway.onFill`, `RoqBitget.Gateway.onTradeFillsAck` — the handlers.
* `RoqBitget.Gateway.dispatchFills`, `takeFill` — the loop that both of them contain.
* `RoqBitget.Gateway.GroupedUpdates` — updates that report a list of items group by group.

## Main results

* `RoqBitget.Gateway.publishes_dispatchTrades` — the updates are those of the maximal runs of
  items with one key.
* `RoqBitget.Gateway.commission_amount`, `commission_currency` — the fee of a fill is the sum
  of the reported fees, in the first coin that is named.
* `RoqBitget.Gateway.fills_grouped` — grouping loses, duplicates and reorders nothing, and
  both handlers group alike.

## Implementation notes

The two handlers differ in the name of the execution time of an item only, so both read their
items through `FillItem`. Item fields that neither handler reads are left out.
-/

namespace RoqBitget.Protocol

/-- A fee of a fill (`fill_data_item_fee_detail_item.json`, and the same for the REST answer). -/
structure FeeDetailItem where
  feeCoin : String
  fee : Double
  deriving DecidableEq

/-- An item of the websocket message (`fill_data_item.json`). -/
structure FillDataItem where
  orderId : String
  clientOid : String
  execId : String
  symbol : String
  side : Side
  tradeSide : TradeSide
  execPrice : Double
  execQty : Double
  tradeScope : TradeScope
  feeDetail : List FeeDetailItem
  execTime : Milliseconds
  updatedTime : Milliseconds

/-- The websocket message (`fill.json`). -/
structure Fill where
  action : Action
  data : List FillDataItem
  ts : Milliseconds

/-- An item of the REST answer (`trade_fills_ack_data_list_item.json`). -/
structure TradeFillsAckDataListItem where
  execId : String
  orderId : String
  clientOid : String
  symbol : String
  execPrice : Double
  execQty : Double
  feeDetail : List FeeDetailItem
  side : Side
  tradeScope : TradeScope
  tradeSide : TradeSide
  createdTime : Milliseconds
  updatedTime : Milliseconds

/-- The REST answer (`trade_fills_ack.json`). -/
structure TradeFillsAck where
  requestTime : Milliseconds
  list : List TradeFillsAckDataListItem

end RoqBitget.Protocol

namespace RoqBitget.Gateway

open KeyedGroups

/-! ## The published update -/

/-- `roq::Fill`. -/
structure Fill where
  exchangeTimeUtc : Nanoseconds
  externalTradeId : String
  quantity : Double
  price : Double
  liquidity : Liquidity
  commissionAmount : Double
  commissionCurrency : String
  baseAmount : Double
  quoteAmount : Double
  profitLossAmount : Double
  deriving DecidableEq

/-- `roq::TradeUpdate`. -/
structure TradeUpdate where
  streamId : ℕ
  account : String
  orderId : ℕ
  exchange : String
  symbol : String
  side : Side
  positionEffect : PositionEffect
  marginMode : MarginMode
  quantityType : QuantityType
  createTimeUtc : Nanoseconds
  updateTimeUtc : Nanoseconds
  externalAccount : String
  externalOrderId : String
  clientOrderId : String
  fills : List Fill
  routingId : String
  updateType : UpdateType
  sendingTimeUtc : Nanoseconds
  user : String
  strategyId : ℕ
  deriving DecidableEq

/-- `gateway::Shared`, the part that the handlers use. -/
structure Shared where
  /-- The scratch vector of all streams. -/
  fills : List Fill

/-! ## The items -/

/-- What makes consecutive items belong together. -/
structure FillKey where
  symbol : String
  orderId : String
  clientOid : String
  side : Protocol.Side
  tradeSide : Protocol.TradeSide
  deriving DecidableEq

/-- The values of the loop's variables before the first item. -/
def FillKey.empty : FillKey := ⟨"", "", "", .undefinedInternal, .undefinedInternal⟩

/-- The fields of an item that the loop reads, with one name for the execution time. -/
structure FillItem where
  key : FillKey
  execId : String
  execQty : Double
  execPrice : Double
  tradeScope : Protocol.TradeScope
  feeDetail : List Protocol.FeeDetailItem
  time : Nanoseconds
  updatedTime : Nanoseconds
  deriving DecidableEq

/-- A websocket item: its time is `exec_time`. -/
def fillDataItem (item : Protocol.FillDataItem) : FillItem :=
  { key := ⟨item.symbol, item.orderId, item.clientOid, item.side, item.tradeSide⟩
    execId := item.execId
    execQty := item.execQty
    execPrice := item.execPrice
    tradeScope := item.tradeScope
    feeDetail := item.feeDetail
    time := item.execTime.toNanoseconds
    updatedTime := item.updatedTime.toNanoseconds }

/-- A REST item: its time is `created_time`. -/
def tradeFillsAckItem (item : Protocol.TradeFillsAckDataListItem) : FillItem :=
  { key := ⟨item.symbol, item.orderId, item.clientOid, item.side, item.tradeSide⟩
    execId := item.execId
    execQty := item.execQty
    execPrice := item.execPrice
    tradeScope := item.tradeScope
    feeDetail := item.feeDetail
    time := item.createdTime.toNanoseconds
    updatedTime := item.updatedTime.toNanoseconds }

/-- `fee` and `fee_coin` of the loop over the fee details. -/
structure Commission where
  fee : Double
  feeCoin : String

/-- One round of the loop over the fee details: a `NaN` fee is skipped, and the first coin that
is named is kept. -/
def Commission.take (acc : Commission) (item : Protocol.FeeDetailItem) : Commission :=
  { fee := if item.fee.isnan then acc.fee else acc.fee.add item.fee
    feeCoin := if item.feeCoin ≠ "" ∧ acc.feeCoin = "" then item.feeCoin else acc.feeCoin }

/-- The loop over the fee details of an item. -/
def commission (feeDetail : List Protocol.FeeDetailItem) : Commission :=
  feeDetail.foldl Commission.take ⟨.zero, ""⟩

/-- The fill that an item is mapped to. -/
def FillItem.fill (item : FillItem) : Fill :=
  { exchangeTimeUtc := item.time
    externalTradeId := item.execId
    quantity := item.execQty
    price := item.execPrice
    liquidity := Protocol.mapTradeScope item.tradeScope
    commissionAmount := (commission item.feeDetail).fee
    commissionCurrency := (commission item.feeDetail).feeCoin
    baseAmount := .nan
    quoteAmount := .nan
    profitLossAmount := .nan }

/-! ## The handlers -/

/-- What the updates of one message have in common. -/
structure TradeHeader where
  stream : Stream
  updateType : UpdateType
  sendingTimeUtc : Nanoseconds

/-- The update published for a key, its times and its fills. -/
def tradeUpdate (header : TradeHeader) (key : FillKey) (time updatedTime : Nanoseconds)
    (fills : List Fill) : TradeUpdate :=
  { streamId := header.stream.streamId
    account := header.stream.account
    orderId := 0
    exchange := header.stream.exchange
    symbol := key.symbol
    side := Protocol.mapSide key.side
    positionEffect := Protocol.mapTradeSide key.tradeSide
    marginMode := .undefined
    quantityType := .undefined
    createTimeUtc := time
    updateTimeUtc := updatedTime
    externalAccount := ""
    externalOrderId := key.orderId
    clientOrderId := key.clientOid
    fills := fills
    routingId := ""
    updateType := header.updateType
    sendingTimeUtc := header.sendingTimeUtc
    user := ""
    strategyId := 0 }

/-- The loop's variables, the shared vector, and the updates dispatched so far. -/
structure FillLoop where
  key : FillKey
  time : Nanoseconds
  updatedTime : Nanoseconds
  shared : Shared
  dispatched : List TradeUpdate

/-- The lambda `dispatch` of both handlers. -/
def dispatchFills (header : TradeHeader) (loop : FillLoop) : FillLoop :=
  if loop.shared.fills = [] then loop
  else
    { loop with
      shared := { loop.shared with fills := [] }
      dispatched := loop.dispatched ++
        [tradeUpdate header loop.key loop.time loop.updatedTime loop.shared.fills] }

/-- The start of the loop's body: a new key flushes the fills of the old one. -/
def changeKey (header : TradeHeader) (loop : FillLoop) (item : FillItem) : FillLoop :=
  if item.key = loop.key then loop
  else { dispatchFills header loop with key := item.key, time := 0, updatedTime := 0 }

/-- The loop's body. -/
def takeFill (header : TradeHeader) (loop : FillLoop) (item : FillItem) : FillLoop :=
  let loop := changeKey header loop item
  { loop with
    shared := { loop.shared with fills := loop.shared.fills ++ [item.fill] }
    time := if loop.time < item.time then item.time else loop.time
    updatedTime :=
      if loop.updatedTime < item.updatedTime then item.updatedTime else loop.updatedTime }

/-- The loop with the flushes before and after it. -/
def dispatchTrades (header : TradeHeader) (shared : Shared) (items : List FillItem) :
    List TradeUpdate × Shared :=
  let start : FillLoop := ⟨.empty, 0, 0, { shared with fills := [] }, []⟩
  let loop := dispatchFills header (items.foldl (takeFill header) start)
  (loop.dispatched, loop.shared)

/-- `DropCopy::operator()(Trace<protocol::json::Fill> const &)`. -/
def onFill (stream : Stream) (shared : Shared) (fill : Protocol.Fill) :
    List TradeUpdate × Shared :=
  dispatchTrades ⟨stream, Protocol.mapAction fill.action, fill.ts.toNanoseconds⟩ shared
    (fill.data.map fillDataItem)

/-- `OrderEntry::operator()(Trace<protocol::json::TradeFillsAck> const &)`. -/
def onTradeFillsAck (stream : Stream) (shared : Shared) (ack : Protocol.TradeFillsAck) :
    List TradeUpdate × Shared :=
  dispatchTrades ⟨stream, .snapshot, ack.requestTime.toNanoseconds⟩ shared
    (ack.list.map tradeFillsAckItem)

/-! ## The commission of a fill -/

/-- The fees of a list that are reported. -/
def reportedFees (feeDetail : List Protocol.FeeDetailItem) : List ℚ :=
  feeDetail.filterMap fun item =>
    match item.fee with
    | .nan => none
    | .value q => some q

private theorem fee_foldl (feeDetail : List Protocol.FeeDetailItem) (q : ℚ) (coin : String) :
    (feeDetail.foldl Commission.take ⟨.value q, coin⟩).fee =
      .value (q + (reportedFees feeDetail).sum) := by
  induction feeDetail generalizing q coin with
  | nil => simp [reportedFees]
  | cons item feeDetail ih =>
    rw [List.foldl_cons]
    cases hfee : item.fee with
    | nan =>
      have hsum : reportedFees (item :: feeDetail) = reportedFees feeDetail := by
        simp [reportedFees, hfee]
      simp only [Commission.take, hfee, Double.isnan_nan, if_true]
      rw [ih, hsum]
    | value r =>
      have hsum : reportedFees (item :: feeDetail) = r :: reportedFees feeDetail := by
        simp [reportedFees, hfee]
      simp only [Commission.take, hfee, Double.isnan_value, Double.add]
      rw [if_neg (by simp), ih, hsum, List.sum_cons, add_assoc]

/-- The commission amount is the sum of the reported fees, and never `NaN`. -/
theorem commission_amount (item : FillItem) :
    item.fill.commissionAmount = .value (reportedFees item.feeDetail).sum := by
  have h := fee_foldl item.feeDetail 0 ""
  rw [zero_add] at h
  exact h

private theorem feeCoin_foldl (feeDetail : List Protocol.FeeDetailItem) (acc : Commission) :
    (feeDetail.foldl Commission.take acc).feeCoin =
      if acc.feeCoin = "" then
        ((feeDetail.map Protocol.FeeDetailItem.feeCoin).find? (· ≠ "")).getD ""
      else acc.feeCoin := by
  induction feeDetail generalizing acc with
  | nil => by_cases h : acc.feeCoin = "" <;> simp [h]
  | cons item feeDetail ih =>
    rw [List.foldl_cons, ih]
    by_cases hacc : acc.feeCoin = "" <;> by_cases hitem : item.feeCoin = "" <;>
      simp [Commission.take, hacc, hitem]

/-- The commission currency is the first coin that is named, if any is. -/
theorem commission_currency (item : FillItem) :
    item.fill.commissionCurrency =
      ((item.feeDetail.map Protocol.FeeDetailItem.feeCoin).find? (· ≠ "")).getD "" := by
  have h := feeCoin_foldl item.feeDetail ⟨.zero, ""⟩
  rw [if_pos rfl] at h
  exact h

/-! ## The loop collects the runs of one key -/

/-- The latest of a list of times, not before zero. -/
def latest (times : List Nanoseconds) : Nanoseconds := times.foldl max 0

/-- One more time: the loop's comparison is a maximum. -/
theorem latest_concat (times : List Nanoseconds) (t : Nanoseconds) :
    latest (times ++ [t]) = if latest times < t then t else latest times := by
  rw [latest, List.foldl_append, ← latest]
  exact max_def_lt (latest times) t

/-- `update` is what the handler publishes for a group of items with one key. -/
def PublishesGroup (header : TradeHeader) (group : List FillItem) (update : TradeUpdate) : Prop :=
  group ≠ [] ∧ ∃ key, (∀ item ∈ group, item.key = key) ∧
    update = tradeUpdate header key (latest (group.map FillItem.time))
      (latest (group.map FillItem.updatedTime)) (group.map FillItem.fill)

/-- The loop's variables hold the current group of the grouping, and the dispatched updates
publish its flushed groups. -/
structure Represents (header : TradeHeader) (loop : FillLoop) (g : Grouping FillItem FillKey) :
    Prop where
  key : loop.key = g.key
  fills : loop.shared.fills = g.group.map FillItem.fill
  time : loop.time = latest (g.group.map FillItem.time)
  updatedTime : loop.updatedTime = latest (g.group.map FillItem.updatedTime)
  dispatched : List.Forall₂ (PublishesGroup header) g.flushed loop.dispatched

section Simulation

variable {header : TradeHeader} {loop : FillLoop} {g : Grouping FillItem FillKey}

/-- The lambda `dispatch` publishes what the grouping flushes. -/
theorem Represents.dispatchFills (h : Represents header loop g)
    (hkey : ∀ item ∈ g.group, item.key = g.key) :
    List.Forall₂ (PublishesGroup header) (flush g).flushed (dispatchFills header loop).dispatched ∧
      (dispatchFills header loop).shared.fills = [] := by
  rw [flushed_flush, Gateway.dispatchFills]
  by_cases hgroup : g.group = []
  · have hfills : loop.shared.fills = [] := by simp [h.fills, hgroup]
    rw [if_pos hgroup, if_pos hfills]
    exact ⟨h.dispatched, hfills⟩
  · have hfills : loop.shared.fills ≠ [] := by simpa [h.fills] using hgroup
    rw [if_neg hgroup, if_neg hfills]
    refine ⟨List.rel_append h.dispatched (.cons ⟨hgroup, g.key, hkey, ?_⟩ .nil), rfl⟩
    rw [h.key, h.time, h.updatedTime, h.fills]

/-- **Step lemma.** The loop's body takes an item as the grouping does. -/
theorem Represents.takeFill (h : Represents header loop g)
    (hkey : ∀ item ∈ g.group, item.key = g.key) (item : FillItem) :
    Represents header (takeFill header loop item) (push FillItem.key g item) := by
  by_cases hsame : item.key = g.key
  · have hchange : changeKey header loop item = loop := if_pos (hsame.trans h.key.symm)
    rw [Gateway.takeFill, hchange, push, if_pos hsame]
    exact
      { key := h.key
        fills := by simp [h.fills]
        time := by simp only [List.map_append, List.map_singleton, latest_concat, h.time]
        updatedTime := by
          simp only [List.map_append, List.map_singleton, latest_concat, h.updatedTime]
        dispatched := h.dispatched }
  · have hnew : item.key ≠ loop.key := fun heq => hsame (heq.trans h.key)
    have hflush := h.dispatchFills hkey
    rw [Gateway.takeFill, changeKey, if_neg hnew, push, if_neg hsame]
    exact
      { key := rfl
        fills := by simp [hflush.2]
        time := (latest_concat [] item.time).symm
        updatedTime := (latest_concat [] item.updatedTime).symm
        dispatched := hflush.1 }

end Simulation

/-- **The handlers publish the runs of one key**, and leave the shared vector empty.

**Proof sketch.** The loop simulates the grouping by key step by step, whatever the shared
vector contained before, because it is cleared first. -/
theorem publishes_dispatchTrades (header : TradeHeader) (shared : Shared)
    (items : List FillItem) :
    List.Forall₂ (PublishesGroup header) (items.splitBy (sameKey FillItem.key))
        (dispatchTrades header shared items).1 ∧
      (dispatchTrades header shared items).2.fills = [] := by
  have hrun : Represents header
      (items.foldl (takeFill header) ⟨.empty, 0, 0, { shared with fills := [] }, []⟩)
      (items.foldl (push FillItem.key) ⟨.empty, [], []⟩) := by
    induction items using List.reverseRecOn with
    | nil => exact ⟨rfl, rfl, rfl, rfl, .nil⟩
    | append_singleton items item ih =>
      rw [List.foldl_append, List.foldl_append]
      exact ih.takeFill (invariant_foldl FillItem.key _ items).current item
  have hflush := hrun.dispatchFills (invariant_foldl FillItem.key _ items).current
  rw [← groups_eq_splitBy FillItem.key .empty]
  exact hflush

/-! ## Grouping loses, duplicates and reorders nothing -/

/-- `update` reports exactly the items of `group`, which share their key, under that key. -/
structure ReportsGroup (group : List FillItem) (update : TradeUpdate) : Prop where
  nonempty : group ≠ []
  sameKey : ∀ item ∈ group, ∀ item' ∈ group, item.key = item'.key
  symbol : ∀ item ∈ group, update.symbol = item.key.symbol
  orderId : ∀ item ∈ group, update.externalOrderId = item.key.orderId
  clientOid : ∀ item ∈ group, update.clientOrderId = item.key.clientOid
  side : ∀ item ∈ group, update.side = Protocol.mapSide item.key.side
  tradeSide : ∀ item ∈ group,
    update.positionEffect = Protocol.mapTradeSide item.key.tradeSide
  fills : update.fills = group.map FillItem.fill
  createTime : update.createTimeUtc = latest (group.map FillItem.time)
  updateTime : update.updateTimeUtc = latest (group.map FillItem.updatedTime)

/-- The updates report the items group by group: in order, each item once, no update empty,
and neighbouring updates for items with different keys. -/
structure GroupedUpdates (items : List FillItem) (updates : List TradeUpdate) : Prop where
  concat : updates.flatMap TradeUpdate.fills = items.map FillItem.fill
  nonempty : ∀ update ∈ updates, update.fills ≠ []
  groups : ∃ groups : List (List FillItem), groups.flatten = items ∧
    List.Forall₂ ReportsGroup groups updates ∧
    groups.IsChain fun g g' => ∀ item ∈ g, ∀ item' ∈ g', item.key ≠ item'.key

/-- A published update reports its group. -/
theorem PublishesGroup.reportsGroup {header : TradeHeader} {group : List FillItem}
    {update : TradeUpdate} (h : PublishesGroup header group update) :
    ReportsGroup group update := by
  obtain ⟨hne, key, hkey, rfl⟩ := h
  exact
    { nonempty := hne
      sameKey := fun a ha b hb => (hkey a ha).trans (hkey b hb).symm
      symbol := fun a ha => by rw [hkey a ha]; rfl
      orderId := fun a ha => by rw [hkey a ha]; rfl
      clientOid := fun a ha => by rw [hkey a ha]; rfl
      side := fun a ha => by rw [hkey a ha]; rfl
      tradeSide := fun a ha => by rw [hkey a ha]; rfl
      fills := rfl
      createTime := rfl
      updateTime := rfl }

/-- The fills of updates that report groups are the items of the groups. -/
theorem flatMap_fills {groups : List (List FillItem)} {updates : List TradeUpdate}
    (h : List.Forall₂ ReportsGroup groups updates) :
    updates.flatMap TradeUpdate.fills = groups.flatten.map FillItem.fill := by
  induction h with
  | nil => rfl
  | cons hreport _ ih => simp [hreport.fills, ih]

/-- Updates that report groups have fills. -/
theorem fills_ne_nil {groups : List (List FillItem)} {updates : List TradeUpdate}
    (h : List.Forall₂ ReportsGroup groups updates) : ∀ u ∈ updates, u.fills ≠ [] := by
  induction h with
  | nil => simp
  | cons hreport _ ih =>
    intro u hu
    rcases List.mem_cons.mp hu with rfl | hu
    · rw [hreport.fills]
      simpa using hreport.nonempty
    · exact ih u hu

/-- The updates of the loop report its items group by group. -/
theorem groupedUpdates_dispatchTrades (header : TradeHeader) (shared : Shared)
    (items : List FillItem) :
    GroupedUpdates items (dispatchTrades header shared items).1 := by
  have hreports := (publishes_dispatchTrades header shared items).1.imp
    fun _ _ h => h.reportsGroup
  refine ⟨?_, fills_ne_nil hreports, _, List.flatten_splitBy _ _, hreports,
    isChain_splitBy FillItem.key items⟩
  rw [flatMap_fills hreports, List.flatten_splitBy]

/-- An update without what tells the two streams apart. -/
def TradeUpdate.withoutStream (update : TradeUpdate) : TradeUpdate :=
  { update with streamId := 0, updateType := .undefined, sendingTimeUtc := 0 }

/-- Under two headers of one account the same updates are published for the same groups. -/
theorem withoutStream_eq {header header' : TradeHeader}
    (haccount : header.stream.account = header'.stream.account)
    (hexchange : header.stream.exchange = header'.stream.exchange)
    {groups : List (List FillItem)} {updates updates' : List TradeUpdate}
    (h : List.Forall₂ (PublishesGroup header) groups updates)
    (h' : List.Forall₂ (PublishesGroup header') groups updates') :
    updates.map TradeUpdate.withoutStream = updates'.map TradeUpdate.withoutStream := by
  induction h generalizing updates' with
  | nil =>
    cases h'
    rfl
  | @cons group update _ _ hfirst _ ih =>
    cases h' with
    | cons hfirst' hrest' =>
      obtain ⟨hne, key, hkey, rfl⟩ := hfirst
      obtain ⟨-, key', hkey', rfl⟩ := hfirst'
      obtain ⟨item, hitem⟩ := List.exists_mem_of_ne_nil group hne
      obtain rfl : key = key' := (hkey item hitem).symm.trans (hkey' item hitem)
      rw [List.map_cons, List.map_cons, ih hrest']
      simp [tradeUpdate, TradeUpdate.withoutStream, haccount, hexchange]

/-- **Fill grouping loses, duplicates and reorders nothing.** Both handlers report their items
group by group and leave the shared vector empty, and on items that agree up to the name of
the execution time they publish the same updates, each under its own stream. -/
theorem fills_grouped (account exchange : String) (dropCopy orderEntry : ℕ)
    (shared shared' : Shared) (fill : Protocol.Fill) (ack : Protocol.TradeFillsAck) :
    (GroupedUpdates (fill.data.map fillDataItem)
        (onFill ⟨dropCopy, account, exchange⟩ shared fill).1 ∧
      (onFill ⟨dropCopy, account, exchange⟩ shared fill).2.fills = []) ∧
    (GroupedUpdates (ack.list.map tradeFillsAckItem)
        (onTradeFillsAck ⟨orderEntry, account, exchange⟩ shared' ack).1 ∧
      (onTradeFillsAck ⟨orderEntry, account, exchange⟩ shared' ack).2.fills = []) ∧
    (fill.data.map fillDataItem = ack.list.map tradeFillsAckItem →
      (onFill ⟨dropCopy, account, exchange⟩ shared fill).1.map TradeUpdate.withoutStream =
        (onTradeFillsAck ⟨orderEntry, account, exchange⟩ shared' ack).1.map
          TradeUpdate.withoutStream) := by
  have hfill := publishes_dispatchTrades ⟨⟨dropCopy, account, exchange⟩,
    Protocol.mapAction fill.action, fill.ts.toNanoseconds⟩ shared (fill.data.map fillDataItem)
  have hack := publishes_dispatchTrades ⟨⟨orderEntry, account, exchange⟩, .snapshot,
    ack.requestTime.toNanoseconds⟩ shared' (ack.list.map tradeFillsAckItem)
  refine ⟨⟨groupedUpdates_dispatchTrades _ shared _, hfill.2⟩,
    ⟨groupedUpdates_dispatchTrades _ shared' _, hack.2⟩, fun hitems => ?_⟩
  have hgroups : (fill.data.map fillDataItem).splitBy (sameKey FillItem.key) =
      (ack.list.map tradeFillsAckItem).splitBy (sameKey FillItem.key) := by rw [hitems]
  have hpublished := hfill.1
  rw [hgroups] at hpublished
  exact withoutStream_eq (by rfl) (by rfl) hpublished hack.1

/-! ## Fills on both streams -/

/-- A fill of an order in a websocket message. -/
def fillItem (orderId execId : String) (execTime updatedTime : ℤ) : Protocol.FillDataItem :=
  ⟨orderId, "oAAB", execId, "BTCUSDT", .buy, .openLong, .value 100000, .value 1, .taker,
    [⟨"USDT", .value (-60)⟩], ⟨execTime⟩, ⟨updatedTime⟩⟩

/-- The same fill in a REST answer. -/
def tradeFillItem (orderId execId : String) (createdTime updatedTime : ℤ) :
    Protocol.TradeFillsAckDataListItem :=
  ⟨execId, orderId, "oAAB", "BTCUSDT", .value 100000, .value 1, [⟨"USDT", .value (-60)⟩], .buy,
    .taker, .openLong, ⟨createdTime⟩, ⟨updatedTime⟩⟩

/-- Two fills of an order, one of another order, and one more of the first. -/
def fourFills : Protocol.Fill :=
  { action := .update
    data := [fillItem "1356" "1" 30 31, fillItem "1356" "2" 10 12, fillItem "1400" "3" 20 20,
      fillItem "1356" "4" 40 45]
    ts := ⟨50⟩ }

/-- The same fills in a REST answer. -/
def fourTradeFills : Protocol.TradeFillsAck :=
  { requestTime := ⟨60⟩
    list := [tradeFillItem "1356" "1" 30 31, tradeFillItem "1356" "2" 10 12,
      tradeFillItem "1400" "3" 20 20, tradeFillItem "1356" "4" 40 45] }

/-- What the vector may hold before. -/
def leftoverFill : Fill := (fillDataItem (fillItem "1200" "0" 1 1)).fill

/-- The fills are published in three updates, and the handlers agree on them, up to the stream. -/
theorem fourFills_grouped :
    (onFill ⟨3, "A1", "bitget"⟩ ⟨[leftoverFill]⟩ fourFills).1.map
        (fun u => (u.externalOrderId, u.fills.map Fill.externalTradeId, u.updateTimeUtc)) =
      [("1356", ["1", "2"], 31000000), ("1400", ["3"], 20000000), ("1356", ["4"], 45000000)] ∧
    (onFill ⟨3, "A1", "bitget"⟩ ⟨[leftoverFill]⟩ fourFills).1.map TradeUpdate.withoutStream =
      (onTradeFillsAck ⟨2, "A1", "bitget"⟩ ⟨[]⟩ fourTradeFills).1.map
        TradeUpdate.withoutStream :=
  ⟨by decide +kernel,
    (fills_grouped "A1" "bitget" 3 2 ⟨[leftoverFill]⟩ ⟨[]⟩ fourFills fourTradeFills).2.2
      (by decide +kernel)⟩

/-- A websocket message with one fill. -/
def oneFill : Protocol.Fill :=
  { action := .update
    data := [⟨"1356", "oAAB", "1357", "BTCUSDT", .buy, .openLong, .value 100000, .value 1, .taker,
      [⟨"USDT", .value (-60)⟩], ⟨1758185294000⟩, ⟨1758185294001⟩⟩]
    ts := ⟨1758185294002⟩ }

/-- The same fill in a REST answer. -/
def oneTradeFill : Protocol.TradeFillsAck :=
  { requestTime := ⟨1758185294500⟩
    list := [⟨"1357", "1356", "oAAB", "BTCUSDT", .value 100000, .value 1,
      [⟨"USDT", .value (-60)⟩], .buy, .taker, .openLong, ⟨1758185294000⟩, ⟨1758185294001⟩⟩] }

/-- An update without its type and its sending time. -/
def TradeUpdate.withoutType (update : TradeUpdate) : TradeUpdate :=
  { update with updateType := .undefined, sendingTimeUtc := 0 }

/-- The handlers do not agree on the fill up to its type and sending time only: each update
carries the id of the stream that publishes it. -/
theorem oneFill_streams_differ :
    oneFill.data.map fillDataItem = oneTradeFill.list.map tradeFillsAckItem ∧
      (onFill ⟨3, "A1", "bitget"⟩ ⟨[]⟩ oneFill).1.map TradeUpdate.withoutType ≠
        (onTradeFillsAck ⟨2, "A1", "bitget"⟩ ⟨[]⟩ oneTradeFill).1.map TradeUpdate.withoutType := by
  refine ⟨by decide, fun h => ?_⟩
  have hids := congrArg (List.map TradeUpdate.streamId) h
  revert hids
  decide

end RoqBitget.Gateway
