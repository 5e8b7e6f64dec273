import Mathlib.Algebra.Field.Rat
import RoqBitget.Foundations.Effects
import RoqBitget.Foundations.Runs
import RoqBitget.Foundations.Unseen
import RoqBitget.Gateway.Response
import RoqBitget.Protocol.Map

set_option relaxedAutoImplicit false
set_option autoImplicit false

/-!
# Instruments and their symbols

`Rest` publishes every instrument of an answer as it goes through them, and remembers the
symbols that are not discarded in a set that the whole gateway shares. The symbols that are new
are collected in a vector and announced to the `Controller` after the last instrument. If a
dispatch throws on the way, the answer is processed once more; the symbols that were remembered
then are not new any more, and are never announced.

## Main definitions

* `RoqBitget.Gateway.Rest.onInstrumentsAck` — the handler, in an environment that may throw.
* `RoqBitget.Gateway.Rest.getInstrumentsAck` — the callback, with what it asks of the download.
* `RoqBitget.Gateway.Rest.onSubscribe` — the other source of symbols.
* `RoqBitget.Gateway.Rest.Loses` — a dispatch throws after something new was remembered and
  before it is announced.

## Main results

* `RoqBitget.Gateway.Rest.onInstrumentsAck_of_stops`, `onInstrumentsAck_of_not_stops` — what the
  handler does.
* `RoqBitget.Gateway.Rest.moves_react` — what an event records and announces.
* `RoqBitget.Gateway.Rest.symbols_announced_iff` — the symbols of a list that is retried are all
  announced if and only if no failed attempt loses any.

## Implementation notes

The `Controller` is any handler of the announcements that may throw, over a state of its own.
Fields of the published updates that are left empty are left out here. `discard_symbol` only
depends on the settings of the dispatcher.
-/

namespace RoqBitget.Protocol

/-- An item of the REST answer (`instruments_ack_data_item.json`). -/
structure InstrumentsAckDataItem where
  category : Category
  symbol : String
  baseCoin : String
  quoteCoin : String
  minOrderQty : Double
  maxOrderQty : Double
  pricePrecision : ℤ
  quantityMultiplier : Double
  type : FuturesType
  status : TradingStatus
  deriving DecidableEq

/-- The REST answer (`instruments_ack.json`). -/
structure InstrumentsAck where
  code : ℤ
  msg : String
  requestTime : Milliseconds
  data : List InstrumentsAckDataItem

end RoqBitget.Protocol

namespace RoqBitget.Gateway.Rest

open Effects Unseen Runs

/-! ## The published updates -/

/-- `roq::ReferenceData`. -/
structure ReferenceData where
  streamId : ℕ
  exchange : String
  symbol : String
  securityType : SecurityType
  baseCurrency : String
  quoteCurrency : String
  settlementCurrency : String
  tickSize : Double
  multiplier : Double
  minNotional : Double
  minTradeVol : Double
  maxTradeVol : Double
  tradeVolStepSize : Double
  strikePrice : Double
  sendingTimeUtc : Nanoseconds
  discard : Bool
  deriving DecidableEq

/-- `roq::MarketStatus`. -/
structure MarketStatus where
  streamId : ℕ
  exchange : String
  symbol : String
  tradingStatus : TradingStatus
  sendingTimeUtc : Nanoseconds
  deriving DecidableEq

/-- What is dispatched while the instruments are handled. -/
inductive Dispatch
  | referenceData (update : ReferenceData)
  | marketStatus (update : MarketStatus)
  /-- `SymbolsUpdate`, to the `Controller`. -/
  | symbolsUpdate (symbols : List String)
  deriving DecidableEq

/-! ## The state and the environment -/

/-- The symbols that the gateway has recorded, all that was dispatched, and the state of the
`Controller`. -/
structure World (C : Type) where
  /-- `Shared::all_symbols`. -/
  allSymbols : Finset String
  dispatched : List Dispatch
  controller : C

variable {C : Type}

/-- The functions of `Rest`, which may throw. -/
abbrev M (C : Type) := EStateM Exception (World C)

/-- What the other components do while an answer is handled. -/
structure Environment (C : Type) where
  /-- What the dispatch of the reference data of the `i`-th instrument throws. -/
  referenceData : ℕ → Option Exception
  /-- What the dispatch of the market status of the `i`-th instrument throws. -/
  marketStatus : ℕ → Option Exception
  /-- `Controller::operator()(Trace<SymbolsUpdate> const &)`. -/
  controller : List String → EStateM Exception C Unit

/-- The settings, and the code outside of the repository that the answers are read with. -/
structure Config where
  /-- `stream_id_`. -/
  streamId : ℕ
  /-- `shared_.settings.exchange`. -/
  exchange : String
  /-- `shared_.dispatcher.discard_symbol`. -/
  discardSymbol : String → Bool
  /-- The generated decoder of the instruments; it may throw. -/
  decode : String → Except Exception Protocol.InstrumentsAck
  /-- The generated decoder of an error message; it may throw. -/
  decodeMessage : String → Except Exception Message
  /-- What `expect` throws on an unexpected HTTP status. -/
  unexpectedStatus : ℕ → Exception

/-! ## The handler -/

/-- `settlement_currency` of an instrument. -/
def settlementCurrency (item : Protocol.InstrumentsAckDataItem) : String :=
  match item.category with
  | .undefinedInternal | .unknownInternal => ""
  | .spot => item.quoteCoin
  | .margin => item.quoteCoin
  | .usdtFutures => item.baseCoin
  | .usdcFutures => item.quoteCoin
  | .coinFutures => item.quoteCoin
  | .usdtFutures2 => item.baseCoin

/-- The reference data of an instrument. -/
def referenceData (config : Config) (requestTime : Milliseconds)
    (item : Protocol.InstrumentsAckDataItem) : ReferenceData :=
  { streamId := config.streamId
    exchange := config.exchange
    symbol := item.symbol
    securityType := Protocol.mapCategory item.category item.type
    baseCurrency := item.baseCoin
    quoteCurrency := item.quoteCoin
    settlementCurrency := settlementCurrency item
    tickSize := .value ((10 : ℚ) ^ (-item.pricePrecision))
    multiplier := item.quantityMultiplier
    minNotional := .nan
    minTradeVol := item.minOrderQty
    maxTradeVol := item.maxOrderQty
    tradeVolStepSize := .nan
    strikePrice := .nan
    sendingTimeUtc := requestTime.toNanoseconds
    discard := config.discardSymbol item.symbol }

/-- The market status of an instrument. -/
def marketStatus (config : Config) (requestTime : Milliseconds)
    (item : Protocol.InstrumentsAckDataItem) : MarketStatus :=
  { streamId := config.streamId
    exchange := config.exchange
    symbol := item.symbol
    tradingStatus := Protocol.mapTradingStatus item.status
    sendingTimeUtc := requestTime.toNanoseconds }

/-- `create_trace_and_dispatch` to the dispatcher, which may throw. -/
def dispatch (update : Dispatch) (thrown : Option Exception) : M C Unit := fun w =>
  let w := { w with dispatched := w.dispatched ++ [update] }
  match thrown with
  | none => .ok () w
  | some e => .error e w

/-- `create_trace_and_dispatch` of a `SymbolsUpdate` to the `Controller`, which may throw. -/
def announce (environment : Environment C) (symbols : List String) : M C Unit := fun w =>
  let w := { w with dispatched := w.dispatched ++ [Dispatch.symbolsUpdate symbols] }
  match environment.controller symbols w.controller with
  | .ok _ c => .ok () { w with controller := c }
  | .error e c => .error e { w with controller := c }

/-- `shared_.all_symbols.emplace`: whether the symbol is new. -/
def emplace (symbol : String) : M C Bool := fun w =>
  .ok (symbol ∉ w.allSymbols) { w with allSymbols := insert symbol w.allSymbols }

/-- The loop's body, for an instrument and its index. -/
def takeInstrument (config : Config) (environment : Environment C) (requestTime : Milliseconds)
    (symbols : List String) (entry : Protocol.InstrumentsAckDataItem × ℕ) : M C (List String) := do
  dispatch (.referenceData (referenceData config requestTime entry.1))
    (environment.referenceData entry.2)
  if config.discardSymbol entry.1.symbol then
    return symbols
  else
    dispatch (.marketStatus (marketStatus config requestTime entry.1))
      (environment.marketStatus entry.2)
    if ← emplace entry.1.symbol then
      return symbols ++ [entry.1.symbol]
    else
      return symbols

/-- `Rest::operator()(Trace<protocol::json::InstrumentsAck> const &)`. -/
def onInstrumentsAck (config : Config) (environment : Environment C)
    (ack : Protocol.InstrumentsAck) : M C Unit := do
  let symbols ← ack.data.zipIdx.foldlM (takeInstrument config environment ack.requestTime) []
  if symbols ≠ [] then
    announce environment symbols

/-! ## The callback -/

/-- What the callback asks of the download. -/
inductive DownloadCall
  | nothing
  | retry
  | check
  /-- `log::fatal`. -/
  | fatal
  deriving DecidableEq

/-- A decoder, as a step that may throw. -/
def decoded {Ack : Type} (result : Except Exception Ack) : M C Ack := fun w =>
  match result with
  | .ok ack => .ok ack w
  | .error e => .error e w

/-- The lambda `handle_success` of `Rest::get_instruments_ack`; `skip` is the result of
`download_.skip`. -/
def handleSuccess (config : Config) (environment : Environment C) (skip : Bool) (body : String) :
    M C DownloadCall := do
  if skip then
    return .nothing
  else
    let ack ← decoded (config.decode body)
    if ack.code = 0 then
      onInstrumentsAck config environment ack
      return .check
    else
      return .retry

/-- The body of the `try` block of `Rest::process_response`; the error handler retries. -/
def tryResponse (config : Config) (environment : Environment C) (skip : Bool)
    (response : Response) : M C DownloadCall := do
  let (status, category, body) ← decoded response.result
  match category with
  | .unknown | .informationalResponse =>
    if status = 200 then return .nothing else throw (config.unexpectedStatus status)
  | .success => handleSuccess config environment skip body
  | .redirection => return .fatal
  | .clientError =>
    if status = 403 ∨ status = 418 ∨ status = 429 then
      return .retry
    else
      let _ ← decoded (config.decodeMessage body)
      return .retry
  | .serverError => return .retry

/-- `Rest::get_instruments_ack`: whatever is thrown is caught, and the download is retried. -/
def getInstrumentsAck (config : Config) (environment : Environment C) (skip : Bool)
    (response : Response) (w : World C) : World C × DownloadCall :=
  match tryResponse config environment skip response w with
  | .ok call w => (w, call)
  | .error _ w => (w, .retry)

/-! ## Subscriptions of a client -/

/-- One round of the loop over the symbols of a client. -/
def takeSymbol (symbols : List String) (symbol : String) : M C (List String) := do
  if ← emplace symbol then
    return symbols ++ [symbol]
  else
    return symbols

/-- `Controller::operator()(Event<Subscribe> const &)`. -/
def onSubscribe (environment : Environment C) (requested : List String) : M C Unit := do
  let symbols ← requested.foldlM takeSymbol []
  announce environment symbols

/-! ## What the loops do -/

/-- The symbols of a dispatch to the `Controller`. -/
def Dispatch.announcement : Dispatch → Option (List String)
  | .symbolsUpdate symbols => some symbols
  | _ => none

/-- The lists of symbols that were passed to the `Controller`, in order. -/
def announcements (w : World C) : List (List String) := w.dispatched.filterMap Dispatch.announcement

/-- A symbol was passed to the `Controller`. -/
def Announced (w : World C) (symbol : String) : Prop :=
  ∃ update ∈ announcements w, symbol ∈ update

/-- Symbols are recorded, and nothing is announced. -/
structure Records (w w' : World C) (symbols : List String) : Prop where
  allSymbols : w'.allSymbols = w.allSymbols ∪ symbols.toFinset
  announcements : announcements w' = announcements w
  controller : w'.controller = w.controller

namespace Records

/-- Nothing happens. -/
theorem refl (w : World C) : Records w w [] := ⟨by simp, rfl, rfl⟩

/-- One list after another. -/
theorem append {u v w : World C} {xs ys : List String} (h : Records u v xs) (h' : Records v w ys) :
    Records u w (xs ++ ys) where
  allSymbols := by rw [h'.allSymbols, h.allSymbols, List.toFinset_append, Finset.union_assoc]
  announcements := h'.announcements.trans h.announcements
  controller := h'.controller.trans h.controller

end Records

section Loop

variable {config : Config} {environment : Environment C}

/-- The loop over the instruments stops at an entry, because a dispatch throws. -/
def stops (config : Config) (environment : Environment C)
    (entry : Protocol.InstrumentsAckDataItem × ℕ) : Bool :=
  (environment.referenceData entry.2).isSome ||
    !config.discardSymbol entry.1.symbol && (environment.marketStatus entry.2).isSome

/-- The symbols of entries that are not discarded. -/
def kept (config : Config) (entries : List (Protocol.InstrumentsAckDataItem × ℕ)) : List String :=
  (entries.map fun entry => entry.1.symbol).filter fun symbol => !config.discardSymbol symbol

/-- A dispatch to the dispatcher records and announces nothing. -/
theorem records_dispatched (update : Dispatch) (h : update.announcement = none) (w : World C) :
    Records w { w with dispatched := w.dispatched ++ [update] } [] where
  allSymbols := by simp
  announcements := by simp [announcements, h]
  controller := rfl

/-- Recording a symbol. -/
theorem records_emplaced (symbol : String) (w : World C) :
    Records w { w with allSymbols := insert symbol w.allSymbols } [symbol] where
  allSymbols := by
    ext x
    simp only [Finset.mem_insert, Finset.mem_union, List.mem_toFinset, List.mem_singleton]
    exact or_comm
  announcements := rfl
  controller := rfl

/-- An entry at which the loop stops is not recorded. -/
theorem takeInstrument_of_stops {entry : Protocol.InstrumentsAckDataItem × ℕ}
    (h : stops config environment entry = true) (requestTime : Milliseconds)
    (symbols : List String) (w : World C) :
    ∃ e w', takeInstrument config environment requestTime symbols entry w = .error e w' ∧
      Records w w' [] := by
  have hreference := records_dispatched (.referenceData
    (referenceData config requestTime entry.1)) rfl w
  unfold takeInstrument
  cases hthrown : environment.referenceData entry.2 with
  | some e =>
    refine ⟨e, _, ?_, hreference⟩
    simp [bind, EStateM.bind, dispatch]
  | none =>
    obtain ⟨hdiscard, e, hstatus⟩ : config.discardSymbol entry.1.symbol = false ∧
        ∃ e, environment.marketStatus entry.2 = some e := by
      simpa [stops, hthrown, Option.isSome_iff_exists] using h
    refine ⟨e, _, ?_, hreference.append (records_dispatched (.marketStatus
      (marketStatus config requestTime entry.1)) rfl _)⟩
    simp [bind, EStateM.bind, dispatch, hdiscard, hstatus]

/-- Any other entry is recorded if it is not discarded, and collected if it is new. -/
theorem takeInstrument_of_not_stops {entry : Protocol.InstrumentsAckDataItem × ℕ}
    (h : stops config environment entry = false) (requestTime : Milliseconds)
    (symbols : List String) (w : World C) :
    ∃ w', takeInstrument config environment requestTime symbols entry w =
        .ok (symbols ++ unseen w.allSymbols (kept config [entry])) w' ∧
      Records w w' (kept config [entry]) := by
  have hreference := records_dispatched (.referenceData
    (referenceData config requestTime entry.1)) rfl w
  have hthrown : environment.referenceData entry.2 = none := by
    cases hthrown : environment.referenceData entry.2 with
    | none => rfl
    | some e => simp [stops, hthrown] at h
  unfold takeInstrument
  cases hdiscard : config.discardSymbol entry.1.symbol with
  | true =>
    have hkept : kept config [entry] = [] := by simp [kept, hdiscard]
    rw [hkept]
    refine ⟨_, ?_, hreference⟩
    simp [bind, EStateM.bind, pure, EStateM.pure, dispatch, hthrown, unseen]
  | false =>
    have hstatus : environment.marketStatus entry.2 = none := by
      cases hstatus : environment.marketStatus entry.2 with
      | none => rfl
      | some e => simp [stops, hdiscard, hstatus] at h
    have hkept : kept config [entry] = [entry.1.symbol] := by simp [kept, hdiscard]
    have hrecords := (hreference.append (records_dispatched (.marketStatus
      (marketStatus config requestTime entry.1)) rfl _)).append (records_emplaced entry.1.symbol _)
    rw [hkept]
    refine ⟨_, ?_, hrecords⟩
    by_cases hnew : entry.1.symbol ∈ w.allSymbols <;>
      simp [bind, EStateM.bind, pure, EStateM.pure, dispatch, emplace, hthrown, hstatus, hnew,
        unseen]

/-- The entries before the one at which the loop stops. -/
def beforeStop (config : Config) (environment : Environment C)
    (entries : List (Protocol.InstrumentsAckDataItem × ℕ)) :
    List (Protocol.InstrumentsAckDataItem × ℕ) :=
  entries.takeWhile fun entry => !stops config environment entry

/-- The symbols of the first entry and of the others. -/
theorem kept_cons (entry : Protocol.InstrumentsAckDataItem × ℕ)
    (entries : List (Protocol.InstrumentsAckDataItem × ℕ)) :
    kept config (entry :: entries) = kept config [entry] ++ kept config entries := by
  show List.filter _ ([entry.1.symbol] ++ entries.map fun entry => entry.1.symbol) = _
  rw [List.filter_append]
  rfl

/-- The symbols before the entry at which the loop stops are symbols of the list. -/
theorem mem_kept_of_mem_beforeStop {entries : List (Protocol.InstrumentsAckDataItem × ℕ)}
    {symbol : String} (h : symbol ∈ kept config (beforeStop config environment entries)) :
    symbol ∈ kept config entries := by
  unfold kept at h ⊢
  exact (((List.takeWhile_sublist _).map _).filter _).subset h

/-- A loop that does not stop records the symbols of all entries, and collects the new ones. -/
theorem foldlM_takeInstrument {entries : List (Protocol.InstrumentsAckDataItem × ℕ)}
    (h : ∀ entry ∈ entries, stops config environment entry = false) (requestTime : Milliseconds)
    (symbols : List String) (w : World C) :
    ∃ w', entries.foldlM (takeInstrument config environment requestTime) symbols w =
        .ok (symbols ++ unseen w.allSymbols (kept config entries)) w' ∧
      Records w w' (kept config entries) := by
  induction entries generalizing symbols w with
  | nil => exact ⟨w, by simp [kept, unseen, pure, EStateM.pure], .refl w⟩
  | cons entry entries ih =>
    obtain ⟨v, hround, hrecords⟩ :=
      takeInstrument_of_not_stops (h entry List.mem_cons_self) requestTime symbols w
    obtain ⟨w', hrest, hrecords'⟩ := ih (fun e he => h e (List.mem_cons_of_mem entry he))
      (symbols ++ unseen w.allSymbols (kept config [entry])) v
    refine ⟨w', ?_, ?_⟩
    · rw [List.foldlM_cons, bind_of_ok hround, hrest, kept_cons entry entries, unseen_append,
        hrecords.allSymbols, List.append_assoc]
    · rw [kept_cons]
      exact hrecords.append hrecords'

/-- A loop that stops has recorded the symbols of the entries before. What it has collected is
lost. -/
theorem foldlM_takeInstrument_of_stops {entries : List (Protocol.InstrumentsAckDataItem × ℕ)}
    (h : ∃ entry ∈ entries, stops config environment entry = true) (requestTime : Milliseconds)
    (symbols : List String) (w : World C) :
    ∃ e w', entries.foldlM (takeInstrument config environment requestTime) symbols w =
        .error e w' ∧
      Records w w' (kept config (beforeStop config environment entries)) := by
  induction entries generalizing symbols w with
  | nil =>
    obtain ⟨entry, hentry, -⟩ := h
    cases hentry
  | cons entry entries ih =>
    cases hstops : stops config environment entry with
    | true =>
      obtain ⟨e, w', hround, hrecords⟩ := takeInstrument_of_stops hstops requestTime symbols w
      refine ⟨e, w', ?_, ?_⟩
      · rw [List.foldlM_cons, bind_of_error hround]
      · simpa [beforeStop, hstops, kept] using hrecords
    | false =>
      have hlater : ∃ entry ∈ entries, stops config environment entry = true := by
        obtain ⟨other, hother, hstop⟩ := h
        rcases List.mem_cons.mp hother with rfl | hmem
        · rw [hstop] at hstops
          cases hstops
        · exact ⟨other, hmem, hstop⟩
      obtain ⟨v, hround, hrecords⟩ := takeInstrument_of_not_stops hstops requestTime symbols w
      obtain ⟨e, w', hrest, hrecords'⟩ := ih hlater
        (symbols ++ unseen w.allSymbols (kept config [entry])) v
      have hbefore : beforeStop config environment (entry :: entries) =
          entry :: beforeStop config environment entries := by
        simp [beforeStop, hstops]
      refine ⟨e, w', ?_, ?_⟩
      · rw [List.foldlM_cons, bind_of_ok hround, hrest]
      · rw [hbefore, kept_cons]
        exact hrecords.append hrecords'

/-- What the handler throws in its loop, and what it has recorded by then. -/
theorem onInstrumentsAck_of_stops {ack : Protocol.InstrumentsAck}
    (h : ∃ entry ∈ ack.data.zipIdx, stops config environment entry = true) (w : World C) :
    ∃ e w', onInstrumentsAck config environment ack w = .error e w' ∧
      Records w w' (kept config (beforeStop config environment ack.data.zipIdx)) := by
  obtain ⟨e, w', hloop, hrecords⟩ := foldlM_takeInstrument_of_stops h ack.requestTime [] w
  exact ⟨e, w', bind_of_error hloop _, hrecords⟩

/-- What the handler does after a loop that went through all instruments. -/
theorem onInstrumentsAck_of_not_stops {ack : Protocol.InstrumentsAck}
    (h : ∀ entry ∈ ack.data.zipIdx, stops config environment entry = false) (w : World C) :
    ∃ v, Records w v (kept config ack.data.zipIdx) ∧
      onInstrumentsAck config environment ack w =
        if unseen w.allSymbols (kept config ack.data.zipIdx) ≠ [] then
          announce environment (unseen w.allSymbols (kept config ack.data.zipIdx)) v
        else .ok () v := by
  obtain ⟨v, hloop, hrecords⟩ := foldlM_takeInstrument h ack.requestTime [] w
  refine ⟨v, hrecords, ?_⟩
  rw [onInstrumentsAck, bind_of_ok hloop, List.nil_append]
  split_ifs <;> rfl

end Loop

/-- The symbols of a list of instruments that are not discarded. -/
theorem kept_zipIdx (config : Config) (data : List Protocol.InstrumentsAckDataItem) :
    kept config data.zipIdx =
      (data.map (·.symbol)).filter fun symbol => !config.discardSymbol symbol := by
  have hmap : (data.zipIdx.map fun entry => entry.1.symbol) = data.map (·.symbol) := by
    conv_rhs => rw [← List.zipIdx_map_fst 0 data, List.map_map]
    rfl
  rw [kept, hmap]

/-- The symbols of the instruments that are not discarded. -/
theorem mem_kept_zipIdx {config : Config} {data : List Protocol.InstrumentsAckDataItem}
    {symbol : String} : symbol ∈ kept config data.zipIdx ↔
      ∃ item ∈ data, config.discardSymbol item.symbol = false ∧ item.symbol = symbol := by
  rw [kept_zipIdx, List.mem_filter, List.mem_map, Bool.not_eq_true']
  constructor
  · rintro ⟨⟨item, hitem, rfl⟩, hkeep⟩
    exact ⟨item, hitem, hkeep, rfl⟩
  · rintro ⟨item, hitem, hkeep, rfl⟩
    exact ⟨⟨item, hitem, rfl⟩, hkeep⟩

/-- The loop over the symbols of a client records all of them, and collects the new ones. -/
theorem foldlM_takeSymbol (requested symbols : List String) (w : World C) :
    ∃ w', requested.foldlM takeSymbol symbols w =
        .ok (symbols ++ unseen w.allSymbols requested) w' ∧ Records w w' requested := by
  induction requested generalizing symbols w with
  | nil => exact ⟨w, by simp [unseen, pure, EStateM.pure], .refl w⟩
  | cons symbol requested ih =>
    have hround : takeSymbol symbols symbol w =
        .ok (symbols ++ unseen w.allSymbols [symbol])
          { w with allSymbols := insert symbol w.allSymbols } := by
      by_cases hnew : symbol ∈ w.allSymbols <;>
        simp [takeSymbol, bind, EStateM.bind, pure, EStateM.pure, emplace, hnew, unseen]
    have hrecords := records_emplaced symbol w
    obtain ⟨w', hrest, hrecords'⟩ := ih (symbols ++ unseen w.allSymbols [symbol])
      { w with allSymbols := insert symbol w.allSymbols }
    have hsplit := unseen_append w.allSymbols [symbol] requested
    refine ⟨w', ?_, hrecords.append hrecords'⟩
    rw [List.foldlM_cons, bind_of_ok hround, hrest, hrecords.allSymbols, List.append_assoc,
      ← hsplit, List.singleton_append]

/-- What a client's subscription does. -/
theorem onSubscribe_eq (environment : Environment C) (requested : List String) (w : World C) :
    ∃ v, Records w v requested ∧ onSubscribe environment requested w =
      announce environment (unseen w.allSymbols requested) v := by
  obtain ⟨v, hloop, hrecords⟩ := foldlM_takeSymbol requested [] w
  refine ⟨v, hrecords, ?_⟩
  rw [onSubscribe, bind_of_ok hloop, List.nil_append]

/-! ## What an answer does -/

/-- The answer that is handled, if one is. -/
def handled (config : Config) (skip : Bool) (response : Response) :
    Option Protocol.InstrumentsAck :=
  match response.result with
  | .ok (_, .success, body) =>
    if skip then none
    else match config.decode body with
      | .ok ack => if ack.code = 0 then some ack else none
      | .error _ => none
  | _ => none

section Callback

variable {config : Config} {skip : Bool} {response : Response}

/-- A value that was decoded. -/
theorem decoded_ok {Ack : Type} {result : Except Exception Ack} {ack : Ack}
    (h : result = .ok ack) (w : World C) : decoded result w = .ok ack w := by
  rw [h]
  rfl

/-- A value that could not be decoded. -/
theorem decoded_error {Ack : Type} {result : Except Exception Ack} {e : Exception}
    (h : result = .error e) (w : World C) : decoded result w = .error e w := by
  rw [h]
  rfl

/-- Only a successful answer whose instruments could be decoded is handled. -/
theorem of_handled {ack : Protocol.InstrumentsAck} (h : handled config skip response = some ack) :
    ∃ status body, response.result = .ok (status, .success, body) ∧ skip = false ∧
      config.decode body = .ok ack ∧ ack.code = 0 := by
  unfold handled at h
  split at h
  case h_1 status body hresult =>
    split_ifs at h with hskip
    split at h
    case h_1 answer hdecode =>
      split_ifs at h with hcode
      obtain rfl := Option.some.inj h
      exact ⟨status, body, hresult, by simpa using hskip, hdecode, hcode⟩
    case h_2 => cases h
  case h_2 => cases h

/-- If the handler throws, then the download is retried, otherwise it goes on. -/
theorem getInstrumentsAck_of_handled {ack : Protocol.InstrumentsAck}
    (h : handled config skip response = some ack) (environment : Environment C) (w : World C) :
    getInstrumentsAck config environment skip response w =
      match onInstrumentsAck config environment ack w with
      | .ok _ w => (w, .check)
      | .error _ w => (w, .retry) := by
  obtain ⟨status, body, hresult, rfl, hdecode, hcode⟩ := of_handled h
  have htry : tryResponse config environment false response w =
      (onInstrumentsAck config environment ack >>= fun _ => pure .check) w := by
    rw [tryResponse, bind_of_ok (decoded_ok hresult w)]
    show handleSuccess config environment false body w = _
    rw [handleSuccess, if_neg Bool.false_ne_true, bind_of_ok (decoded_ok hdecode w), if_pos hcode]
  rw [getInstrumentsAck, htry]
  cases hack : onInstrumentsAck config environment ack w with
  | ok _ v =>
    rw [bind_of_ok hack]
    rfl
  | error e v => rw [bind_of_error hack]

/-- The success handler leaves the state alone, unless the instruments are handled. -/
theorem finalState_handleSuccess {status : ℕ} {body : String}
    (hresult : response.result = .ok (status, .success, body))
    (h : handled config skip response = none) (environment : Environment C) (w : World C) :
    finalState (handleSuccess config environment skip body w) = w := by
  unfold handled at h
  rw [hresult] at h
  unfold handleSuccess
  split_ifs with hskip
  · rfl
  · cases hdecode : config.decode body with
    | error e =>
      rw [bind_of_error (decoded_error rfl w)]
      rfl
    | ok ack =>
      rw [bind_of_ok (decoded_ok rfl w)]
      by_cases hcode : ack.code = 0
      · simp [hskip, hdecode, hcode] at h
      · rw [if_neg hcode]
        rfl

/-- Any other answer changes nothing. -/
theorem getInstrumentsAck_of_not_handled (h : handled config skip response = none)
    (environment : Environment C) (w : World C) :
    (getInstrumentsAck config environment skip response w).1 = w := by
  have hsame : finalState (tryResponse config environment skip response w) = w := by
    cases hresult : response.result with
    | error e =>
      rw [tryResponse, bind_of_error (decoded_error hresult w)]
      rfl
    | ok answer =>
      obtain ⟨status, category, body⟩ := answer
      rw [tryResponse, bind_of_ok (decoded_ok hresult w)]
      cases category with
      | success => exact finalState_handleSuccess hresult h environment w
      | unknown | informationalResponse =>
        show finalState ((if status = 200 then _ else _ : M C DownloadCall) w) = w
        split_ifs <;> rfl
      | redirection | serverError => rfl
      | clientError =>
        show finalState ((if _ then _ else _ : M C DownloadCall) w) = w
        split_ifs
        · rfl
        · cases config.decodeMessage body <;> rfl
  have hstate : (getInstrumentsAck config environment skip response w).1 =
      finalState (tryResponse config environment skip response w) := by
    rw [getInstrumentsAck]
    cases tryResponse config environment skip response w <;> rfl
  rw [hstate, hsame]

end Callback

/-! ## Symbols that are recorded and symbols that are announced -/

/-- Symbols are recorded, and some of those that are new are announced. -/
structure Moves (w w' : World C) (recorded announced : List String) : Prop where
  mem_allSymbols : ∀ symbol, symbol ∈ w'.allSymbols ↔ symbol ∈ w.allSymbols ∨ symbol ∈ recorded
  announced_iff : ∀ symbol, Announced w' symbol ↔ Announced w symbol ∨ symbol ∈ announced
  announced_new : ∀ symbol ∈ announced, symbol ∈ recorded ∧ symbol ∉ w.allSymbols

namespace Moves

variable {w w' : World C} {recorded announced : List String}

/-- Nothing is announced. -/
theorem of_records (h : Records w w' recorded) : Moves w w' recorded [] where
  mem_allSymbols symbol := by rw [h.allSymbols, Finset.mem_union, List.mem_toFinset]
  announced_iff symbol := by simp [Announced, h.announcements]
  announced_new := by simp

/-- What is new is announced, whether the `Controller` throws or not. -/
theorem of_announce {v : World C} (h : Records w v recorded) (environment : Environment C) :
    Moves w (finalState (announce environment (unseen w.allSymbols recorded) v)) recorded
      (unseen w.allSymbols recorded) := by
  have hfinal : ∃ c, finalState (announce environment (unseen w.allSymbols recorded) v) =
      { v with
        dispatched := v.dispatched ++ [Dispatch.symbolsUpdate (unseen w.allSymbols recorded)]
        controller := c } := by
    unfold announce
    cases hthrown : environment.controller (unseen w.allSymbols recorded) v.controller <;>
      exact ⟨_, by simp only [hthrown]; rfl⟩
  obtain ⟨c, hfinal⟩ := hfinal
  rw [hfinal]
  refine ⟨fun symbol => ?_, fun symbol => ?_, fun symbol hnew => (mem_unseen _ _).mp hnew⟩
  · show symbol ∈ v.allSymbols ↔ _
    rw [h.allSymbols, Finset.mem_union, List.mem_toFinset]
  · have hbefore : Announced v symbol ↔ Announced w symbol := by
      rw [Announced, h.announcements, Announced]
    rw [← hbefore]
    simp [Announced, announcements, Dispatch.announcement, or_and_right, exists_or]

/-- A symbol that was recorded, but not announced, will never be announced. -/
theorem lost (h : Moves w w' recorded announced) {symbol : String}
    (hrecorded : symbol ∈ w.allSymbols) (hlost : ¬Announced w symbol) :
    symbol ∈ w'.allSymbols ∧ ¬Announced w' symbol := by
  refine ⟨(h.mem_allSymbols symbol).mpr (.inl hrecorded), fun hannounced => ?_⟩
  rcases (h.announced_iff symbol).mp hannounced with hbefore | hnow
  · exact hlost hbefore
  · exact (h.announced_new symbol hnow).2 hrecorded

/-- If all that is new is announced, then what is recorded and what is announced still agree. -/
theorem agree (h : Moves w w' recorded announced)
    (hagree : ∀ symbol, symbol ∈ w.allSymbols ↔ Announced w symbol)
    (hall : ∀ symbol ∈ recorded, symbol ∈ w.allSymbols ∨ symbol ∈ announced) (symbol : String) :
    symbol ∈ w'.allSymbols ↔ Announced w' symbol := by
  rw [h.mem_allSymbols, h.announced_iff, hagree]
  constructor
  · rintro (hbefore | hrecorded)
    · exact .inl hbefore
    · exact (hall symbol hrecorded).imp_left (hagree symbol).mp
  · rintro (hbefore | hnow)
    · exact .inl hbefore
    · exact .inr (h.announced_new symbol hnow).1

end Moves

/-! ## Runs -/

/-- What changes the symbols. -/
inductive Event (C : Type)
  /-- A REST answer to the request for the instruments. -/
  | instruments (environment : Environment C) (skip : Bool) (response : Response)
  /-- A client subscribes. -/
  | subscribe (environment : Environment C) (requested : List String)

/-- The reaction to an event. -/
def react (config : Config) (w : World C) : Event C → World C
  | .instruments environment skip response =>
    (getInstrumentsAck config environment skip response w).1
  | .subscribe environment requested => finalState (onSubscribe environment requested w)

/-- `Rest` and the `Controller`. -/
def system (config : Config) (start : World C) : System (World C) (Event C) Empty where
  init := start
  enabled _ _ := True
  step w event := (react config w event, [])

/-- No symbol was recorded, and nothing was dispatched. -/
def World.initial (controller : C) : World C := ⟨∅, [], controller⟩

/-- A dispatch throws in the loop after a symbol was recorded that is new. -/
def Loses (config : Config) (environment : Environment C) (ack : Protocol.InstrumentsAck)
    (w : World C) : Prop :=
  (∃ entry ∈ ack.data.zipIdx, stops config environment entry = true) ∧
    ∃ symbol ∈ kept config (beforeStop config environment ack.data.zipIdx), symbol ∉ w.allSymbols

/-- The guard that no answer loses a symbol. -/
def LosesNothing (config : Config) (_ : History (Event C) Empty) (w : World C) : Event C → Prop
  | .instruments environment skip response =>
    ∀ ack, handled config skip response = some ack → ¬Loses config environment ack w
  | .subscribe _ _ => True

/-- What an answer that is handled records and announces. -/
theorem moves_handled {config : Config} {skip : Bool} {response : Response}
    {ack : Protocol.InstrumentsAck} (h : handled config skip response = some ack)
    (environment : Environment C) (w : World C) :
    ((∃ entry ∈ ack.data.zipIdx, stops config environment entry = true) ∧
      (getInstrumentsAck config environment skip response w).2 = .retry ∧
      Moves w (getInstrumentsAck config environment skip response w).1
        (kept config (beforeStop config environment ack.data.zipIdx)) []) ∨
    ((∀ entry ∈ ack.data.zipIdx, stops config environment entry = false) ∧
      Moves w (getInstrumentsAck config environment skip response w).1
        (kept config ack.data.zipIdx) (unseen w.allSymbols (kept config ack.data.zipIdx))) := by
  have hget := getInstrumentsAck_of_handled h environment w
  by_cases hstops : ∃ entry ∈ ack.data.zipIdx, stops config environment entry = true
  · obtain ⟨e, v, hack, hrecords⟩ := onInstrumentsAck_of_stops hstops w
    rw [hack] at hget
    rw [hget]
    exact .inl ⟨hstops, rfl, .of_records hrecords⟩
  · have hgoes : ∀ entry ∈ ack.data.zipIdx, stops config environment entry = false := by
      intro entry hentry
      by_contra hstop
      exact hstops ⟨entry, hentry, by simpa using hstop⟩
    obtain ⟨v, hrecords, hack⟩ := onInstrumentsAck_of_not_stops hgoes w
    refine .inr ⟨hgoes, ?_⟩
    have hstate : (getInstrumentsAck config environment skip response w).1 =
        finalState (onInstrumentsAck config environment ack w) := by
      rw [hget]
      cases onInstrumentsAck config environment ack w <;> rfl
    rw [hstate, hack]
    split_ifs with hnew
    · exact .of_announce hrecords environment
    · rw [not_not.mp hnew]
      exact .of_records hrecords

/-- What an event records and announces. -/
theorem moves_react (config : Config) (w : World C) (event : Event C) :
    ∃ recorded announced, Moves w (react config w event) recorded announced ∧
      (LosesNothing config [] w event →
        ∀ symbol ∈ recorded, symbol ∈ w.allSymbols ∨ symbol ∈ announced) := by
  cases event with
  | subscribe environment requested =>
    obtain ⟨v, hrecords, hsubscribe⟩ := onSubscribe_eq environment requested w
    refine ⟨requested, unseen w.allSymbols requested, ?_,
      fun _ symbol hrecorded => mem_or_mem_unseen hrecorded _⟩
    show Moves w (finalState (onSubscribe environment requested w)) _ _
    rw [hsubscribe]
    exact .of_announce hrecords environment
  | instruments environment skip response =>
    cases hhandled : handled config skip response with
    | none =>
      refine ⟨[], [], ?_, by simp⟩
      show Moves w (getInstrumentsAck config environment skip response w).1 [] []
      rw [getInstrumentsAck_of_not_handled hhandled environment]
      exact .of_records (.refl w)
    | some ack =>
      rcases moves_handled hhandled environment w with
        ⟨hstops, -, hmoves⟩ | ⟨-, hmoves⟩
      · refine ⟨_, _, hmoves, fun hguard symbol hrecorded => ?_⟩
        by_contra hlost
        exact hguard ack hhandled ⟨hstops, symbol, hrecorded, fun hseen => hlost (.inl hseen)⟩
      · exact ⟨_, _, hmoves, fun _ symbol hrecorded => mem_or_mem_unseen hrecorded _⟩

section Symbols

variable {config : Config} {start : World C} {h : History (Event C) Empty} {w : World C}

/-- As long as nothing is lost, exactly the recorded symbols have been announced. -/
theorem mem_allSymbols_iff (hstart : ∀ symbol, symbol ∈ start.allSymbols ↔ Announced start symbol)
    (run : Run (system config start) (LosesNothing config) h w) (symbol : String) :
    symbol ∈ w.allSymbols ↔ Announced w symbol := by
  refine Run.invariant (P := fun _ w => ∀ symbol, symbol ∈ w.allSymbols ↔ Announced w symbol)
    hstart ?_ run symbol
  intro h w event _ hagree _ hguard
  obtain ⟨recorded, announced, hmoves, hall⟩ := moves_react config w event
  exact hmoves.agree hagree (hall hguard)

/-- A symbol that was lost stays lost. -/
theorem lost_run {ok : History (Event C) Empty → World C → Event C → Prop} {symbol : String}
    (hlost : symbol ∈ start.allSymbols ∧ ¬Announced start symbol)
    (run : Run (system config start) ok h w) :
    symbol ∈ w.allSymbols ∧ ¬Announced w symbol := by
  refine Run.invariant (P := fun _ w => symbol ∈ w.allSymbols ∧ ¬Announced w symbol) hlost ?_ run
  rintro h w event _ ⟨hrecorded, hlost⟩ - -
  obtain ⟨_, _, hmoves, -⟩ := moves_react config w event
  exact hmoves.lost hrecorded hlost

end Symbols

section Retry

variable {config : Config} {start : C} {h h' : History (Event C) Empty} {w v w' w'' : World C}
  {environment environment' : Environment C} {skip skip' : Bool} {response response' : Response}
  {ack ack' : Protocol.InstrumentsAck}

/-- Nothing is lost initially. -/
theorem mem_allSymbols_initial (controller : C) (symbol : String) :
    symbol ∈ (World.initial controller).allSymbols ↔
      Announced (World.initial controller) symbol := by
  simp [World.initial, Announced, announcements]

/-- **A list of instruments is handled again after a failure.** All of its symbols that are not
discarded have been announced if and only if the failure did not lose any: the dispatch that
threw came before anything new was recorded, or after the loop. As long as nothing is lost, a
recorded symbol has been announced. -/
theorem symbols_announced_iff
    (run : Run (system config (.initial start)) (LosesNothing config) h w)
    (hack : handled config skip response = some ack)
    (failed : getInstrumentsAck config environment skip response w = (v, .retry))
    (later : Run (system config v) (LosesNothing config) h' w')
    (hack' : handled config skip' response' = some ack')
    (succeeded : getInstrumentsAck config environment' skip' response' w' = (w'', .check))
    (same : ack'.data = ack.data) :
    (∀ symbol ∈ w.allSymbols, Announced w symbol) ∧
      ((∀ item ∈ ack.data, config.discardSymbol item.symbol = false →
          Announced w'' item.symbol) ↔ ¬Loses config environment ack w) := by
  have hagree := mem_allSymbols_iff (mem_allSymbols_initial start) run
  have hlast : Moves w' w'' (kept config ack'.data.zipIdx)
      (unseen w'.allSymbols (kept config ack'.data.zipIdx)) := by
    rcases moves_handled hack' environment' w' with
      ⟨-, hretry, -⟩ | ⟨-, hmoves⟩
    · rw [succeeded] at hretry
      cases hretry
    · rw [succeeded] at hmoves
      exact hmoves
  refine ⟨fun symbol => (hagree symbol).mp, fun hannounced hloses => ?_, fun hloses => ?_⟩
  · -- a symbol that the first attempt loses is recorded at the second attempt
    obtain ⟨hstops, symbol, hrecorded, hnew⟩ := hloses
    have hfirst : Moves w v (kept config (beforeStop config environment ack.data.zipIdx)) [] := by
      rcases moves_handled hack environment w with
        ⟨-, -, hmoves⟩ | ⟨hgoes, -⟩
      · rw [failed] at hmoves
        exact hmoves
      · obtain ⟨entry, hentry, hstop⟩ := hstops
        rw [hgoes entry hentry] at hstop
        cases hstop
    have hlost : symbol ∈ v.allSymbols ∧ ¬Announced v symbol := by
      refine ⟨(hfirst.mem_allSymbols symbol).mpr (.inr hrecorded), fun hbefore => ?_⟩
      rcases (hfirst.announced_iff symbol).mp hbefore with hold | hnone
      · exact hnew ((hagree symbol).mpr hold)
      · cases hnone
    obtain ⟨hseen, hstill⟩ := lost_run hlost later
    obtain ⟨item, hitem, hkeep, rfl⟩ : ∃ item ∈ ack.data,
        config.discardSymbol item.symbol = false ∧ item.symbol = symbol :=
      mem_kept_zipIdx.mp (mem_kept_of_mem_beforeStop hrecorded)
    exact (hlast.lost hseen hstill).2 (hannounced item hitem hkeep)
  · -- otherwise all that is recorded has been announced, at every stage
    have hguard : LosesNothing config h w (.instruments environment skip response) := by
      intro other hother
      obtain rfl := Option.some.inj (hack.symm.trans hother)
      exact hloses
    have hretried : ∀ symbol, symbol ∈ v.allSymbols ↔ Announced v symbol := by
      have hstep := mem_allSymbols_iff (mem_allSymbols_initial start)
        (run.step (e := .instruments environment skip response) trivial hguard)
      have hstate : (getInstrumentsAck config environment skip response w).1 = v := by rw [failed]
      exact hstate ▸ hstep
    have hlater := mem_allSymbols_iff hretried later
    have hfinal := hlast.agree hlater fun symbol hrecorded => mem_or_mem_unseen hrecorded _
    intro item hitem hkeep
    have hkept : item.symbol ∈ kept config ack'.data.zipIdx :=
      mem_kept_zipIdx.mpr ⟨item, same ▸ hitem, hkeep, rfl⟩
    exact (hfinal item.symbol).mp ((hlast.mem_allSymbols item.symbol).mpr (.inr hkept))

end Retry

/-! ## Two instruments -/

instance (w : World C) (symbol : String) : Decidable (Announced w symbol) :=
  inferInstanceAs (Decidable (∃ update ∈ announcements w, symbol ∈ update))

instance (config : Config) (environment : Environment C) (ack : Protocol.InstrumentsAck)
    (w : World C) : Decidable (Loses config environment ack w) :=
  inferInstanceAs (Decidable (_ ∧ _))

/-- A spot instrument. -/
def spotInstrument (symbol baseCoin : String) : Protocol.InstrumentsAckDataItem :=
  { category := .spot
    symbol := symbol
    baseCoin := baseCoin
    quoteCoin := "USDT"
    minOrderQty := .value 1
    maxOrderQty := .value 100
    pricePrecision := 2
    quantityMultiplier := .value 1
    type := .undefinedInternal
    status := .online }

/-- The exchange has two spot instruments. -/
def twoInstruments : Protocol.InstrumentsAck :=
  ⟨0, "success", ⟨0⟩, [spotInstrument "BTCUSDT" "BTC", spotInstrument "ETHUSDT" "ETH"]⟩

/-- Every answer decodes to the two instruments, and no symbol is discarded. -/
def twoInstrumentsConfig : Config :=
  { streamId := 1
    exchange := "bitget"
    discardSymbol := fun _ => false
    decode := fun _ => .ok twoInstruments
    decodeMessage := fun _ => .ok ⟨0, ""⟩
    unexpectedStatus := fun _ => .std "unexpected status" }

/-- The dispatch of the reference data of the `i`-th instrument throws, if there is an `i`. -/
def throwingAt (i : Option ℕ) : Environment Unit where
  referenceData j := if i = some j then some (.std "dispatch") else none
  marketStatus _ := none
  controller _ := pure ()

/-- The first attempt fails at the second instrument. The second attempt succeeds, and the first
instrument is never announced. -/
theorem firstInstrument_lost :
    let first := getInstrumentsAck twoInstrumentsConfig (throwingAt (some 1)) false (answer "")
      (World.initial ())
    let second := getInstrumentsAck twoInstrumentsConfig (throwingAt none) false (answer "") first.1
    first.2 = .retry ∧ second.2 = .check ∧
      ¬∀ item ∈ twoInstruments.data, twoInstrumentsConfig.discardSymbol item.symbol = false →
        Announced second.1 item.symbol := by
  decide

/-- The first attempt fails at the first instrument, and the second attempt announces both. -/
theorem firstThrows_announced :
    let first := getInstrumentsAck twoInstrumentsConfig (throwingAt (some 0)) false (answer "")
      (World.initial ())
    let second := getInstrumentsAck twoInstrumentsConfig (throwingAt none) false (answer "") first.1
    ∀ item ∈ twoInstruments.data, twoInstrumentsConfig.discardSymbol item.symbol = false →
      Announced second.1 item.symbol := by
  intro first second
  have hack : handled twoInstrumentsConfig false (answer "") = some twoInstruments := rfl
  have hfailed : getInstrumentsAck twoInstrumentsConfig (throwingAt (some 0)) false (answer "")
      (World.initial ()) = (first.1, .retry) := Prod.ext rfl rfl
  have hsucceeded : getInstrumentsAck twoInstrumentsConfig (throwingAt none) false (answer "")
      first.1 = (second.1, .check) := Prod.ext rfl rfl
  exact (symbols_announced_iff .init hack hfailed .init hack hsucceeded rfl).2.mpr (by decide)

end RoqBitget.Gateway.Rest
