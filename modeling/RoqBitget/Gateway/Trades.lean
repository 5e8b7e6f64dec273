import Mathlib.Data.List.Forall2
import RoqBitget.Protocol.Map

set_option relaxedAutoImplicit false
set_option autoImplicit false

/-!
# Tickers and trades

The handlers of `MarketData` that publish the tickers and the trades of the exchange. A ticker
becomes the best prices and a fixed list of statistics. The trades of a message are collected in
a vector that all streams share, and become one summary; a snapshot of past trades is dropped.

## Main definitions

* `RoqBitget.Gateway.MarketData.onTicker`, `onPublicTrade` — the handlers.
* `RoqBitget.Gateway.MarketData.publishedTrades` — what is published of some messages.

## Main results

* `RoqBitget.Gateway.MarketData.onPublicTrade_fst` — what is published of a message, whatever the
  shared vector contains.
* `RoqBitget.Gateway.MarketData.trades_published` — every trade of an update is published once,
  in order, with a time that no trade of its summary is after.

## Implementation notes

The fields that the gateway leaves empty are left out if their types are used for nothing else.
`utils::safe_cast` converts the time of the next funding and is not part of the repository, so it
is a parameter.
-/

namespace RoqBitget.Protocol

/-- An item of the websocket message (`ticker_data_item.json`), as far as its handler reads it. -/
structure TickerDataItem where
  highPrice24h : Double
  lowPrice24h : Double
  openPrice24h : Double
  volume24h : Double
  bid1Price : Double
  ask1Price : Double
  bid1Size : Double
  ask1Size : Double
  indexPrice : Double
  fundingRate : Double
  nextFundingTime : Milliseconds
  openInterest : Double
  deriving DecidableEq

/-- The websocket message (`ticker.json`), with the symbol of its argument. -/
structure Ticker where
  symbol : String
  data : List TickerDataItem
  ts : Milliseconds
  deriving DecidableEq

/-- An item of the websocket message (`public_trade_data_item.json`). -/
structure PublicTradeDataItem where
  tradeId : String
  price : Double
  size : Double
  side : Side
  timestamp : Milliseconds
  deriving DecidableEq

/-- The websocket message (`public_trade.json`), with the symbol of its argument. -/
structure PublicTrade where
  symbol : String
  action : Action
  data : List PublicTradeDataItem
  ts : Milliseconds
  deriving DecidableEq

end RoqBitget.Protocol

namespace RoqBitget.Gateway

/-! ## The published updates -/

/-- `roq::Layer`. -/
structure Layer where
  bidPrice : Double
  bidQuantity : Double
  askPrice : Double
  askQuantity : Double
  deriving DecidableEq

/-- `roq::TopOfBook`. -/
structure TopOfBook where
  streamId : ℕ
  exchange : String
  symbol : String
  layer : Layer
  updateType : UpdateType
  exchangeTimeUtc : Nanoseconds
  exchangeSequence : ℕ
  sendingTimeUtc : Nanoseconds
  deriving DecidableEq

/-- `roq::StatisticsType`. -/
inductive StatisticsType
  | openPrice
  | highestTradedPrice
  | lowestTradedPrice
  | indexValue
  | tradeVolume
  | fundingRate
  | openInterest
  deriving DecidableEq

/-- `roq::Statistics`. -/
structure Statistics where
  type : StatisticsType
  value : Double
  beginTimeUtc : Nanoseconds
  endTimeUtc : Nanoseconds
  deriving DecidableEq

/-- `roq::StatisticsUpdate`. -/
structure StatisticsUpdate where
  streamId : ℕ
  exchange : String
  symbol : String
  statistics : List Statistics
  updateType : UpdateType
  exchangeTimeUtc : Nanoseconds
  exchangeSequence : ℕ
  sendingTimeUtc : Nanoseconds
  deriving DecidableEq

/-- `roq::Trade`. -/
structure Trade where
  side : Side
  price : Double
  quantity : Double
  tradeId : String
  takerOrderId : String
  makerOrderId : String
  deriving DecidableEq

/-- `roq::TradeSummary`. -/
structure TradeSummary where
  streamId : ℕ
  exchange : String
  symbol : String
  trades : List Trade
  exchangeTimeUtc : Nanoseconds
  exchangeSequence : ℕ
  sendingTimeUtc : Nanoseconds
  deriving DecidableEq

namespace MarketData

/-! ## The handlers -/

/-- The best prices of an item. -/
def topOfBook (stream : Stream) (ticker : Protocol.Ticker) (item : Protocol.TickerDataItem) :
    TopOfBook :=
  { streamId := stream.streamId
    exchange := stream.exchange
    symbol := ticker.symbol
    layer :=
      { bidPrice := item.bid1Price
        bidQuantity := item.bid1Size
        askPrice := item.ask1Price
        askQuantity := item.ask1Size }
    updateType := .incremental
    exchangeTimeUtc := ticker.ts.toNanoseconds
    exchangeSequence := 0
    sendingTimeUtc := ticker.ts.toNanoseconds }

/-- The statistics of an item; only the funding rate has a time. -/
def statistics (safeCast : Milliseconds → Nanoseconds) (item : Protocol.TickerDataItem) :
    List Statistics :=
  [⟨.openPrice, item.openPrice24h, 0, 0⟩,
    ⟨.highestTradedPrice, item.highPrice24h, 0, 0⟩,
    ⟨.lowestTradedPrice, item.lowPrice24h, 0, 0⟩,
    ⟨.indexValue, item.indexPrice, 0, 0⟩,
    ⟨.tradeVolume, item.volume24h, 0, 0⟩,
    ⟨.fundingRate, item.fundingRate, 0, safeCast item.nextFundingTime⟩,
    ⟨.openInterest, item.openInterest, 0, 0⟩]

/-- The statistics that are dispatched for an item. -/
def statisticsUpdate (stream : Stream) (safeCast : Milliseconds → Nanoseconds)
    (ticker : Protocol.Ticker) (item : Protocol.TickerDataItem) : StatisticsUpdate :=
  { streamId := stream.streamId
    exchange := stream.exchange
    symbol := ticker.symbol
    statistics := statistics safeCast item
    updateType := .incremental
    exchangeTimeUtc := 0
    exchangeSequence := 0
    sendingTimeUtc := ticker.ts.toNanoseconds }

/-- `MarketData::operator()(Trace<protocol::json::Ticker> const &)`: the pairs of updates that are
dispatched, one pair for each item. -/
def onTicker (stream : Stream) (safeCast : Milliseconds → Nanoseconds) (ticker : Protocol.Ticker) :
    List (TopOfBook × StatisticsUpdate) :=
  ticker.data.map fun item =>
    (topOfBook stream ticker item, statisticsUpdate stream safeCast ticker item)

/-- The trade that an item is mapped to. -/
def trade (item : Protocol.PublicTradeDataItem) : Trade :=
  { side := Protocol.mapSide item.side
    price := item.price
    quantity := item.size
    tradeId := item.tradeId
    takerOrderId := ""
    makerOrderId := "" }

/-- `trades` and `timestamp` of the loop. -/
structure Tape where
  trades : List Trade
  timestamp : Milliseconds

/-- `utils::update_max`. -/
def updateMax (result value : Milliseconds) : Milliseconds :=
  if result.count < value.count then value else result

/-- One round of the loop over the items. -/
def Tape.take (tape : Tape) (item : Protocol.PublicTradeDataItem) : Tape :=
  { trades := tape.trades ++ [trade item]
    timestamp := updateMax tape.timestamp item.timestamp }

/-- The summary that is dispatched for the trades that were collected. -/
def tradeSummary (stream : Stream) (publicTrade : Protocol.PublicTrade) (tape : Tape) :
    TradeSummary :=
  { streamId := stream.streamId
    exchange := stream.exchange
    symbol := publicTrade.symbol
    trades := tape.trades
    exchangeTimeUtc := tape.timestamp.toNanoseconds
    exchangeSequence := 0
    sendingTimeUtc := publicTrade.ts.toNanoseconds }

/-- `MarketData::operator()(Trace<protocol::json::PublicTrade> const &)`: the summary that is
dispatched, if any, and the shared vector afterwards. -/
def onPublicTrade (stream : Stream) (trades : List Trade) (publicTrade : Protocol.PublicTrade) :
    Option TradeSummary × List Trade :=
  if publicTrade.action ≠ .update then (none, trades)
  else
    let tape := publicTrade.data.foldl Tape.take ⟨[], ⟨0⟩⟩
    if !tape.trades.isEmpty then (some (tradeSummary stream publicTrade tape), tape.trades)
    else (none, tape.trades)

/-! ## What is published of a message -/

/-- The loop collects one trade for each item. -/
theorem foldl_take (items : List Protocol.PublicTradeDataItem) (tape : Tape) :
    items.foldl Tape.take tape =
      ⟨tape.trades ++ items.map trade,
        (items.map (·.timestamp)).foldl updateMax tape.timestamp⟩ := by
  induction items generalizing tape with
  | nil => simp
  | cons item items ih =>
    rw [List.foldl_cons, ih]
    simp [Tape.take]

/-- The latest time is at least the one it started from, and at least every other one. -/
theorem le_foldl_updateMax (times : List Milliseconds) (start : Milliseconds) :
    start.count ≤ (times.foldl updateMax start).count ∧
      ∀ time ∈ times, time.count ≤ (times.foldl updateMax start).count := by
  induction times generalizing start with
  | nil => simp
  | cons time times ih =>
    obtain ⟨hstart, htimes⟩ := ih (updateMax start time)
    have hmax : start.count ≤ (updateMax start time).count ∧
        time.count ≤ (updateMax start time).count := by
      unfold updateMax
      split_ifs <;> omega
    refine ⟨hmax.1.trans hstart, fun t ht => ?_⟩
    rcases List.mem_cons.mp ht with rfl | ht
    · exact hmax.2.trans hstart
    · exact htimes t ht

/-- The latest time is the one it started from or one of the others. -/
theorem foldl_updateMax_mem (times : List Milliseconds) (start : Milliseconds) :
    times.foldl updateMax start = start ∨ times.foldl updateMax start ∈ times := by
  induction times generalizing start with
  | nil => exact .inl rfl
  | cons time times ih =>
    rcases ih (updateMax start time) with heq | hmem
    · rw [List.foldl_cons, heq]
      unfold updateMax
      split_ifs
      · exact .inr List.mem_cons_self
      · exact .inl rfl
    · exact .inr (List.mem_cons_of_mem _ hmem)

/-- A message of which a summary is published. -/
def HasTrades (publicTrade : Protocol.PublicTrade) : Prop :=
  publicTrade.action = .update ∧ publicTrade.data ≠ []

instance (publicTrade : Protocol.PublicTrade) : Decidable (HasTrades publicTrade) :=
  inferInstanceAs (Decidable (_ ∧ _))

/-- The summary of a message, whatever the shared vector contains. -/
def summaryOf (stream : Stream) (publicTrade : Protocol.PublicTrade) : TradeSummary :=
  tradeSummary stream publicTrade
    ⟨publicTrade.data.map trade, (publicTrade.data.map (·.timestamp)).foldl updateMax ⟨0⟩⟩

/-- **What is published of a message**, whatever the shared vector contains. -/
theorem onPublicTrade_fst (stream : Stream) (trades : List Trade)
    (publicTrade : Protocol.PublicTrade) :
    (onPublicTrade stream trades publicTrade).1 =
      if HasTrades publicTrade then some (summaryOf stream publicTrade) else none := by
  unfold onPublicTrade
  by_cases haction : publicTrade.action = .update
  · rw [if_neg (not_not_intro haction), foldl_take]
    dsimp only
    rw [List.nil_append]
    by_cases hdata : publicTrade.data = []
    · rw [if_neg fun h : HasTrades publicTrade => h.2 hdata, if_neg (by simp [hdata])]
    · rw [if_pos (show HasTrades publicTrade from ⟨haction, hdata⟩), if_pos (by simpa using hdata)]
      rfl
  · rw [if_pos haction, if_neg fun h : HasTrades publicTrade => haction h.1]

/-! ## What is published of some messages -/

/-- A message, and what the shared vector contains when it arrives. -/
structure TradeArrival where
  trades : List Trade
  publicTrade : Protocol.PublicTrade

/-- The summaries that are dispatched for some messages. -/
def publishedTrades (stream : Stream) (arrivals : List TradeArrival) : List TradeSummary :=
  arrivals.filterMap fun arrival => (onPublicTrade stream arrival.trades arrival.publicTrade).1

/-- A summary reports a message: all of its trades, and their latest time. -/
structure Summarises (summary : TradeSummary) (publicTrade : Protocol.PublicTrade) : Prop where
  symbol : summary.symbol = publicTrade.symbol
  trades : summary.trades = publicTrade.data.map trade
  sendingTimeUtc : summary.sendingTimeUtc = publicTrade.ts.toNanoseconds
  notBefore : ∀ item ∈ publicTrade.data, item.timestamp.toNanoseconds ≤ summary.exchangeTimeUtc
  attained : summary.exchangeTimeUtc = 0 ∨
    ∃ item ∈ publicTrade.data, item.timestamp.toNanoseconds = summary.exchangeTimeUtc

/-- The summary of a message reports it. -/
theorem summarises_summaryOf (stream : Stream) (publicTrade : Protocol.PublicTrade) :
    Summarises (summaryOf stream publicTrade) publicTrade where
  symbol := rfl
  trades := rfl
  sendingTimeUtc := rfl
  notBefore item hitem := by
    have hle := (le_foldl_updateMax (publicTrade.data.map (·.timestamp)) ⟨0⟩).2 item.timestamp
      (List.mem_map_of_mem hitem)
    exact Int.mul_le_mul_of_nonneg_right hle (by decide)
  attained := by
    rcases foldl_updateMax_mem (publicTrade.data.map (·.timestamp)) ⟨0⟩ with heq | hmem
    · exact .inl (congrArg Milliseconds.toNanoseconds heq)
    · obtain ⟨item, hitem, heq⟩ := List.mem_map.mp hmem
      exact .inr ⟨item, hitem, congrArg Milliseconds.toNanoseconds heq⟩

/-- The summaries of some messages are those of the messages that have trades. -/
theorem publishedTrades_eq (stream : Stream) (arrivals : List TradeArrival) :
    publishedTrades stream arrivals =
      ((arrivals.map (·.publicTrade)).filter HasTrades).map (summaryOf stream) := by
  unfold publishedTrades
  induction arrivals with
  | nil => rfl
  | cons arrival arrivals ih =>
    rw [List.filterMap_cons, onPublicTrade_fst, List.map_cons, List.filter_cons]
    by_cases h : HasTrades arrival.publicTrade
    · simp [h, ih]
    · simp [h, ih]

/-- A message without trades contributes none. -/
theorem flatMap_filter_hasTrades (messages : List Protocol.PublicTrade) :
    (messages.filter HasTrades).flatMap (fun message => message.data.map trade) =
      (messages.filter fun message => message.action = .update).flatMap
        (fun message => message.data.map trade) := by
  induction messages with
  | nil => rfl
  | cons message messages ih =>
    by_cases haction : message.action = .update
    · by_cases hdata : message.data = []
      · have hnot : ¬ HasTrades message := fun h => h.2 hdata
        simp [hnot, haction, hdata, ih]
      · have htrades : HasTrades message := ⟨haction, hdata⟩
        simp [htrades, haction, ih]
    · have hnot : ¬ HasTrades message := fun h => haction h.1
      simp [hnot, haction, ih]

/-- **Every trade is published once and in order.** For every sequence of messages, whatever the
shared vector contains when each of them arrives: the summaries are those of the updates that
have trades, one for each and in their order, and together they have exactly the trades of the
updates. A snapshot publishes nothing, and no summary is empty. -/
theorem trades_published (stream : Stream) (arrivals : List TradeArrival) :
    let messages := arrivals.map (·.publicTrade)
    List.Forall₂ Summarises (publishedTrades stream arrivals) (messages.filter HasTrades) ∧
      (publishedTrades stream arrivals).flatMap TradeSummary.trades =
        (messages.filter fun message => message.action = .update).flatMap
          (fun message => message.data.map trade) ∧
      ∀ summary ∈ publishedTrades stream arrivals, summary.trades ≠ [] := by
  dsimp only
  rw [publishedTrades_eq]
  refine ⟨?_, ?_, ?_⟩
  · rw [List.forall₂_map_left_iff, List.forall₂_same]
    exact fun message _ => summarises_summaryOf stream message
  · rw [List.flatMap_map]
    exact flatMap_filter_hasTrades _
  · intro summary hsummary
    obtain ⟨message, hmessage, rfl⟩ := List.mem_map.mp hsummary
    have htrades : HasTrades message := by simpa using (List.mem_filter.mp hmessage).2
    exact fun hnil => htrades.2 (List.map_eq_nil_iff.mp hnil)

end MarketData

end RoqBitget.Gateway
