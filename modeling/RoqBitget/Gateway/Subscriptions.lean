import RoqBitget.Core.Symbols
import RoqBitget.Foundations.JsonText
import RoqBitget.Gateway.Instruments

set_option relaxedAutoImplicit false
set_option autoImplicit false

/-!
# Market data subscriptions

The `Controller` receives the new symbols, keeps one `MarketData` stream for each slice of them,
and lets every stream that is ready subscribe to what its slice has gained. A stream that gets
ready subscribes to its whole slice.

## Main definitions

* `RoqBitget.Gateway.Controller.onSymbolsUpdate` — what new symbols lead to.
* `RoqBitget.Gateway.Controller.onReady`, `onDisconnected` — the events of a stream's websocket.
* `RoqBitget.Gateway.Controller.sentSince` — the symbols that a stream has asked for on a topic
  since it got ready.

## Main results

* `RoqBitget.Gateway.Controller.Request.text_eq`, `subscribe_read` — the JSON document that is
  sent, and what is read from it.
* `RoqBitget.Gateway.Controller.steps_react` — what an event does.
* `RoqBitget.Gateway.Controller.symbols_subscribed` — in every run, every symbol is subscribed
  exactly once.

## Implementation notes

No exceptions are thrown here. A stream gets ready by an event, not while it is started.
-/

namespace RoqBitget.Gateway

namespace Controller

/-! ## The streams -/

/-- `MarketData`. -/
structure MarketData where
  /-- `index_`: the slice of the stream. -/
  index : ℕ
  streamId : UInt16
  connectionStatus : ConnectionStatus
  deriving DecidableEq

/-- `MarketData::ready`. -/
def MarketData.ready (stream : MarketData) : Bool := stream.connectionStatus = .ready

/-- What a message of a stream subscribes to. -/
structure Request where
  topic : String
  symbols : List String
  deriving DecidableEq

/-- How an argument of a message begins. -/
def first (instType topic : String) : String :=
  "\x7b\"instType\":\"" ++ instType ++ "\",\"topic\":\"" ++ topic ++ "\",\"symbol\":\""

/-- The message of `MarketData::subscribe(std::string_view const &, …)`; `instType` is the
`inst_type` of the API. -/
def Request.text (instType : String) (request : Request) : String :=
  let separator := "\"\x7d," ++ first instType request.topic
  "\x7b\"op\":\"subscribe\",\"args\":[" ++ first instType request.topic ++
    separator.intercalate request.symbols ++ "\"\x7d]\x7d"

/-- What is done while an event is handled. -/
inductive Action
  /-- The connection of a new stream is started. -/
  | start (index : ℕ)
  /-- A stream dispatches its status. -/
  | publish (streamId : UInt16) (status : ConnectionStatus) (reason : String)
  /-- A stream sends a message. -/
  | sendText (index : ℕ) (request : Request)
  deriving DecidableEq

end Controller

/-- The state of the `Controller` and of the symbols that it shares. -/
structure Controller (S : Core.Symbols) where
  /-- `shared_.symbols`. -/
  symbols : S.Object
  /-- `market_data_`. -/
  marketData : List Controller.MarketData
  /-- `stream_id_`. -/
  streamId : UInt16
  /-- What was done while the latest event was handled, in order. -/
  actions : List Controller.Action

namespace Controller

open JsonText Runs Slices Unseen Effects RoqBitget.Core

variable {S : Core.Symbols}

/-- Perform actions that change nothing else. -/
def act (actions : List Action) (c : Controller S) : Controller S :=
  { c with actions := c.actions ++ actions }

/-- `MarketData::subscribe(std::string_view const &, …)`. -/
def subscribeTopic (stream : MarketData) (symbols : List String) (topic : String)
    (c : Controller S) : Controller S :=
  act [.sendText stream.index ⟨topic, symbols⟩] c

/-- `MarketData::subscribe(std::span<Symbol const> const &)`. -/
def subscribeSymbols (stream : MarketData) (symbols : List String) (c : Controller S) :
    Controller S :=
  if symbols = [] then c
  else
    let c := subscribeTopic stream symbols "ticker" c
    let c := subscribeTopic stream symbols "publicTrade" c
    subscribeTopic stream symbols "books" c

/-- `MarketData::subscribe(size_t)`. -/
def subscribe (stream : MarketData) (startFrom : ℕ) (c : Controller S) : Controller S :=
  if stream.ready then
    subscribeSymbols stream (S.getSlice c.symbols stream.index startFrom) c
  else c

/-- A new stream is created and started. -/
def createStream (c : Controller S) : Controller S :=
  let stream : MarketData := ⟨c.marketData.length, c.streamId + 1, .undefined⟩
  { act [.start stream.index] c with
    streamId := c.streamId + 1
    marketData := c.marketData ++ [stream] }

/-- `Controller::ensure_symbol_slices`: each round of the loop creates one stream. -/
def ensureSymbolSlices (size : ℕ) (c : Controller S) : Controller S :=
  createStream^[size - c.marketData.length] c

/-- `Controller::operator()(Trace<SymbolsUpdate> const &)`. -/
def onSymbolsUpdate (symbols : List String) (c : Controller S) : Controller S :=
  let ((size, startFrom), object) := S.update symbols c.symbols
  let c := ensureSymbolSlices size { c with symbols := object }
  c.marketData.foldl (fun c stream => subscribe stream startFrom c) c

/-- `MarketData::operator()(Trace<ConnectionStatus> const &, …)` of the `i`-th stream. -/
def onConnectionStatus (i : ℕ) (stream : MarketData) (status : ConnectionStatus) (reason : String)
    (c : Controller S) : Controller S :=
  { act [.publish stream.streamId status reason] c with
    marketData := c.marketData.modify i fun stream => { stream with connectionStatus := status } }

/-- `MarketData::operator()(Trace<web::socket::Ready> const &)` of the `i`-th stream. -/
def onReady (i : ℕ) (c : Controller S) : Controller S :=
  match c.marketData[i]? with
  | none => c
  | some stream =>
    subscribe { stream with connectionStatus := .ready } 0 (onConnectionStatus i stream .ready "" c)

/-- `MarketData::operator()(Trace<web::socket::Disconnected> const &)` of the `i`-th stream. -/
def onDisconnected (i : ℕ) (c : Controller S) : Controller S :=
  match c.marketData[i]? with
  | none => c
  | some stream => onConnectionStatus i stream .disconnected "" c

/-! ## The events -/

/-- What happens to the gateway, as far as symbols are concerned. -/
inductive Event
  /-- An answer with instruments is handled. -/
  | instruments (ack : Protocol.InstrumentsAck)
  /-- A client subscribes. -/
  | subscribe (requested : List String)
  /-- The websocket of the `i`-th stream is ready. -/
  | ready (i : ℕ)
  /-- The websocket of the `i`-th stream is disconnected. -/
  | disconnected (i : ℕ)

/-- The dispatcher and the `Controller`; nothing throws. -/
def environment : Rest.Environment (Controller S) where
  referenceData _ := none
  marketStatus _ := none
  controller symbols c := .ok () (onSymbolsUpdate symbols c)

/-- The reaction to an event. -/
def react (config : Rest.Config) (w : Rest.World (Controller S)) :
    Event → Rest.World (Controller S)
  | .instruments ack => finalState (Rest.onInstrumentsAck config environment ack w)
  | .subscribe requested => finalState (Rest.onSubscribe environment requested w)
  | .ready i => { w with controller := onReady i w.controller }
  | .disconnected i => { w with controller := onDisconnected i w.controller }

/-- There are no symbols and no streams; `streamId` numbers the streams created before. -/
def initial (S : Core.Symbols) (streamId : UInt16) : Controller S := ⟨S.create, [], streamId, []⟩

/-- The `Controller`, its streams and `Rest`. -/
def system (config : Rest.Config) (S : Core.Symbols) (streamId : UInt16) :
    System (Rest.World (Controller S)) Event Action where
  init := .initial (initial S streamId)
  enabled w event := match event with
    | .ready i | .disconnected i => i < w.controller.marketData.length
    | _ => True
  step w event :=
    let w := react config { w with controller := { w.controller with actions := [] } } event
    (w, w.controller.actions)

/-! ## The message -/

/-- The argument of a message for one symbol. -/
def argument (instType topic symbol : String) : Json :=
  .object [("instType", .string instType), ("topic", .string topic), ("symbol", .string symbol)]

/-- Items that begin alike and end alike can be joined with a separator that ends one and begins
the next. -/
theorem joined_items {item : String → Json} {first separator last : String}
    (hitem : ∀ symbol, JsonText.text (item symbol) = first.toList ++ (symbol.toList ++ last.toList))
    (hseparator : separator.toList = last.toList ++ ',' :: first.toList) (symbol : String)
    (symbols : List String) :
    first.toList ++ ((separator.intercalate (symbol :: symbols)).toList ++ (last.toList ++ [']'])) =
      JsonText.text (item symbol) ++ itemsText (symbols.map item) := by
  induction symbols generalizing symbol with
  | nil => simp [hitem, itemsText]
  | cons other symbols ih =>
    have hrest := ih other
    rw [List.map_cons, itemsText, ← hrest, hitem, String.intercalate_cons_cons,
      String.toList_append, String.toList_append, hseparator]
    simp only [List.append_assoc, List.cons_append]

/-- How an argument begins. -/
theorem first_append (instType topic : String) (cs : List Char) :
    (first instType topic).toList ++ cs =
      '\x7b' :: (quoted "instType" ++ ':' :: (quoted instType ++ ',' :: (quoted "topic" ++
        ':' :: (quoted topic ++ ',' :: (quoted "symbol" ++ ':' :: quote :: cs))))) := by
  delta first
  simp only [quoted, String.toList_append, List.append_assoc, List.cons_append, List.nil_append]
  rfl

/-- How the document begins. -/
theorem document_head (cs : List Char) :
    "\x7b\"op\":\"subscribe\",\"args\":[".toList ++ cs =
      '\x7b' :: (quoted "op" ++ ':' :: (quoted "subscribe" ++
        ',' :: (quoted "args" ++ ':' :: '[' :: cs))) := by
  simp [quoted]

/-- **What is sent** is a document with one argument for each symbol. -/
theorem Request.text_eq (instType : String) (request : Request) (h : request.symbols ≠ []) :
    (request.text instType).toList =
      JsonText.text (.object [("op", .string "subscribe"),
        ("args", .array (request.symbols.map (argument instType request.topic)))]) := by
  obtain ⟨topic, symbols⟩ := request
  obtain ⟨symbol, symbols, rfl⟩ := List.exists_cons_of_ne_nil h
  have hlast : "\"\x7d".toList = [quote] ++ ['\x7d'] := by simp
  have hitem : ∀ symbol, JsonText.text (argument instType topic symbol) =
      (first instType topic).toList ++ (symbol.toList ++ "\"\x7d".toList) := by
    intro symbol
    rw [first_append, hlast, ← List.append_assoc]
    rfl
  have hseparator : ("\"\x7d," ++ first instType topic).toList =
      "\"\x7d".toList ++ ',' :: (first instType topic).toList := by
    simp [String.toList_append]
  have hend : "\"\x7d]\x7d".toList = "\"\x7d".toList ++ ([']'] ++ ['\x7d']) := by simp
  have hitems := joined_items hitem hseparator symbol symbols
  calc (Request.text instType ⟨topic, symbol :: symbols⟩).toList
      = "\x7b\"op\":\"subscribe\",\"args\":[".toList ++ (((first instType topic).toList ++
          ((("\"\x7d," ++ first instType topic).intercalate (symbol :: symbols)).toList ++
            ("\"\x7d".toList ++ [']']))) ++ ['\x7d']) := by
        delta Request.text
        rw [String.toList_append, String.toList_append, String.toList_append, hend]
        simp only [List.append_assoc]
    _ = "\x7b\"op\":\"subscribe\",\"args\":[".toList ++
          ((JsonText.text (argument instType topic symbol) ++
            itemsText (symbols.map (argument instType topic))) ++ ['\x7d']) :=
        congrArg (fun items => _ ++ (items ++ ['\x7d'])) hitems
    _ = _ := by
        rw [document_head]
        rfl

/-- An argument of strings that need no escapes can be written verbatim. -/
theorem verbatim_argument {instType topic symbol : String} (hinstType : Plain instType)
    (htopic : Plain topic) (hsymbol : Plain symbol) :
    (argument instType topic symbol).Verbatim := by
  rw [argument, Json.Verbatim, membersVerbatim_iff]
  simp only [List.forall_mem_cons, List.not_mem_nil, false_implies, implies_true, and_true]
  exact ⟨verbatim_member (by decide) hinstType, verbatim_member (by decide) htopic,
    verbatim_member (by decide) hsymbol⟩

/-- **A message names each symbol exactly once.** The exchange reads one JSON object, whose
arguments are one for each symbol and in the order of the symbols. -/
theorem subscribe_read {instType : String} {request : Request} (h : request.symbols ≠ [])
    (hinstType : Plain instType) (htopic : Plain request.topic)
    (hsymbols : ∀ symbol ∈ request.symbols, Plain symbol) :
    read (request.text instType) =
      some (.object [("op", .string "subscribe"),
        ("args", .array (request.symbols.map fun symbol =>
          .object [("instType", .string instType), ("topic", .string request.topic),
            ("symbol", .string symbol)]))]) := by
  have hargs : AllVerbatim (request.symbols.map (argument instType request.topic)) := by
    rw [allVerbatim_iff, List.forall_mem_map]
    exact fun symbol hsymbol => verbatim_argument hinstType htopic (hsymbols symbol hsymbol)
  refine read_text ?_ (request.text_eq instType h)
  rw [Json.Verbatim, membersVerbatim_iff]
  simp only [List.forall_mem_cons, List.not_mem_nil, false_implies, implies_true, and_true]
  refine ⟨verbatim_member (by decide) (by decide), by decide, ?_⟩
  rw [Json.Verbatim]
  exact hargs

/-- Two symbols in one message. -/
theorem twoSymbols_read :
    read (Request.text "usdt-futures" ⟨"ticker", ["BTCUSDT", "ETHUSDT"]⟩) =
      some (.object [("op", .string "subscribe"),
        ("args", .array (["BTCUSDT", "ETHUSDT"].map fun symbol =>
          .object [("instType", .string "usdt-futures"), ("topic", .string "ticker"),
            ("symbol", .string symbol)]))]) :=
  subscribe_read (by simp) (by decide) (by decide) (by decide)

/-! ## What the streams do -/

/-- The topics that a stream subscribes to. -/
def topics : List String := ["ticker", "publicTrade", "books"]

/-- What a stream sends when it subscribes to symbols. -/
def requests (stream : MarketData) (symbols : List String) : List Action :=
  if symbols = [] then [] else topics.map fun topic => .sendText stream.index ⟨topic, symbols⟩

/-- What a stream sends when the list of symbols is cut at a position. -/
def requestsFrom (object : S.Object) (startFrom : ℕ) (stream : MarketData) : List Action :=
  if stream.ready then requests stream (S.getSlice object stream.index startFrom) else []

/-- One action after another. -/
theorem act_act (actions more : List Action) (c : Controller S) :
    act more (act actions c) = act (actions ++ more) c := by
  simp [act]

/-- Subscribing only sends messages. -/
theorem subscribe_eq (stream : MarketData) (startFrom : ℕ) (c : Controller S) :
    subscribe stream startFrom c = act (requestsFrom c.symbols startFrom stream) c := by
  unfold subscribe requestsFrom subscribeSymbols requests
  split_ifs
  · simp [act]
  · simp [subscribeTopic, topics, act_act]
  · simp [act]

/-- All streams subscribe. -/
theorem foldl_subscribe (streams : List MarketData) (startFrom : ℕ) (c : Controller S) :
    streams.foldl (fun c stream => subscribe stream startFrom c) c =
      act (streams.flatMap (requestsFrom c.symbols startFrom)) c := by
  induction streams generalizing c with
  | nil => simp [act]
  | cons stream streams ih =>
    rw [List.foldl_cons, ih, subscribe_eq, List.flatMap_cons, ← act_act]
    rfl

/-- Streams are created that are not ready, and their connections are started. -/
structure Creates (c c' : Controller S) (n : ℕ) : Prop where
  symbols : c'.symbols = c.symbols
  marketData : ∃ new : List MarketData, c'.marketData = c.marketData ++ new ∧ new.length = n ∧
    ∀ stream ∈ new, stream.ready = false
  actions : ∃ indices : List ℕ, c'.actions = c.actions ++ indices.map .start
  indices : c.marketData.map (·.index) = List.range c.marketData.length →
    c'.marketData.map (·.index) = List.range c'.marketData.length

namespace Creates

/-- Nothing is created. -/
theorem refl (c : Controller S) : Creates c c 0 := ⟨rfl, ⟨[], by simp⟩, ⟨[], by simp⟩, id⟩

/-- One stream is created. -/
theorem createStream (c : Controller S) : Creates c (createStream c) 1 where
  symbols := rfl
  marketData := ⟨[⟨c.marketData.length, c.streamId + 1, .undefined⟩], rfl, rfl, by simp; rfl⟩
  actions := ⟨[c.marketData.length], rfl⟩
  indices h := by simp [Controller.createStream, h, List.range_succ]

/-- More streams are created. -/
theorem trans {c c' c'' : Controller S} {m n : ℕ} (h : Creates c c' m) (h' : Creates c' c'' n) :
    Creates c c'' (m + n) := by
  obtain ⟨new, hnew, rfl, hready⟩ := h.marketData
  obtain ⟨more, hmore, rfl, hready'⟩ := h'.marketData
  obtain ⟨indices, hactions⟩ := h.actions
  obtain ⟨indices', hactions'⟩ := h'.actions
  refine ⟨h'.symbols.trans h.symbols, ⟨new ++ more, ?_, ?_, ?_⟩, ⟨indices ++ indices', ?_⟩,
    fun hindices => h'.indices (h.indices hindices)⟩
  · rw [hmore, hnew, List.append_assoc]
  · rw [List.length_append]
  · intro stream hstream
    rcases List.mem_append.mp hstream with hold | hlater
    · exact hready stream hold
    · exact hready' stream hlater
  · rw [hactions', hactions, List.map_append, List.append_assoc]

/-- The rounds of the loop. -/
theorem iterate (c : Controller S) (n : ℕ) : Creates c (Controller.createStream^[n] c) n := by
  induction n with
  | zero => exact .refl c
  | succ n ih =>
    rw [Function.iterate_succ_apply']
    exact ih.trans (.createStream _)

end Creates

/-- The `i`-th stream subscribes to the `i`-th slice, and there is a stream for every slice. -/
structure Sliced (c : Controller S) : Prop where
  indices : c.marketData.map (·.index) = List.range c.marketData.length
  count : c.marketData.length = sliceCount S.sliceSize (S.contents c.symbols).length

/-! ## What was sent -/

/-- The symbols that a stream asks for on a topic. -/
def sent (topic : String) (i : ℕ) (actions : List Action) : List String :=
  actions.flatMap fun
    | .sendText j request => if j = i ∧ request.topic = topic then request.symbols else []
    | _ => []

/-- One action after another. -/
theorem sent_append (topic : String) (i : ℕ) (actions more : List Action) :
    sent topic i (actions ++ more) = sent topic i actions ++ sent topic i more :=
  List.flatMap_append

/-- Starting streams sends nothing. -/
theorem sent_start (topic : String) (i : ℕ) (indices : List ℕ) :
    sent topic i (indices.map .start) = [] := by
  simp [sent]

/-- A stream asks for the symbols on each topic once. -/
theorem sent_requests {topic : String} (htopic : topic ∈ topics) (i : ℕ) (stream : MarketData)
    (symbols : List String) :
    sent topic i (requests stream symbols) = if stream.index = i then symbols else [] := by
  unfold requests
  split_ifs with hnil hindex hindex
  · exact hnil.symm
  · rfl
  · simp only [topics, List.mem_cons, List.not_mem_nil, or_false] at htopic
    rcases htopic with rfl | rfl | rfl <;> simp [sent, topics, hindex]
  · simp [sent, topics, hindex]

/-- If only one element of a list counts, then the others can be left out. -/
theorem flatMap_eq_of_unique {β : Type} {streams : List MarketData} {stream : MarketData}
    (hstream : stream ∈ streams) (hnodup : (streams.map (·.index)).Nodup)
    {f : MarketData → List β} (hf : ∀ other, other.index ≠ stream.index → f other = []) :
    streams.flatMap f = f stream := by
  obtain ⟨before, after, rfl⟩ := List.append_of_mem hstream
  rw [List.map_append, List.map_cons, List.nodup_append, List.nodup_cons] at hnodup
  obtain ⟨-, ⟨hafter, -⟩, hbefore⟩ := hnodup
  have hbefore' : before.flatMap f = [] := by
    refine List.flatMap_eq_nil_iff.mpr fun other hother => hf other fun hsame => ?_
    exact hbefore _ (List.mem_map_of_mem hother) _ List.mem_cons_self hsame
  have hafter' : after.flatMap f = [] := by
    refine List.flatMap_eq_nil_iff.mpr fun other hother => hf other fun hsame => ?_
    exact hafter (hsame ▸ List.mem_map_of_mem hother)
  rw [List.flatMap_append, List.flatMap_cons, hbefore', hafter', List.append_nil, List.nil_append]

/-- The `i`-th stream stands at the `i`-th place. -/
theorem index_eq {c : Controller S}
    (h : c.marketData.map (·.index) = List.range c.marketData.length) {i : ℕ} {stream : MarketData}
    (hstream : c.marketData[i]? = some stream) : stream.index = i := by
  have hindex : (c.marketData.map (·.index))[i]? = some stream.index := by
    rw [List.getElem?_map, hstream]
    rfl
  rw [h, List.getElem?_range (List.getElem?_eq_some_iff.mp hstream).1] at hindex
  exact (Option.some.inj hindex).symm

/-- When all streams subscribe, then a stream that is ready asks for its part of the list. -/
theorem sent_requestsFrom {c : Controller S}
    (h : c.marketData.map (·.index) = List.range c.marketData.length) {i : ℕ} {stream : MarketData}
    (hstream : c.marketData[i]? = some stream) (hready : stream.ready = true) {topic : String}
    (htopic : topic ∈ topics) (startFrom : ℕ) :
    sent topic i (c.marketData.flatMap (requestsFrom c.symbols startFrom)) =
      sliceFrom S.sliceSize (S.contents c.symbols) i startFrom := by
  have hindex := index_eq h hstream
  have hnodup : (c.marketData.map (·.index)).Nodup := h ▸ List.nodup_range
  have hone : (c.marketData.flatMap fun other =>
      sent topic i (requestsFrom c.symbols startFrom other)) =
        sent topic i (requestsFrom c.symbols startFrom stream) := by
    refine flatMap_eq_of_unique (List.mem_of_getElem? hstream) hnodup fun other hother => ?_
    unfold requestsFrom
    split_ifs
    · rw [sent_requests htopic, if_neg (hindex ▸ hother)]
    · rfl
  rw [sent, List.flatMap_assoc]
  refine hone.trans ?_
  rw [requestsFrom, if_pos hready, sent_requests htopic, if_pos hindex, S.getSlice_eq, hindex]

/-! ## What an event does -/

/-- The list of symbols grows, and the streams that are ready ask for what they have to: the whole
slice at the event that makes the stream ready, what is new of the slice at any other. -/
structure Steps (event : Event) (c c' : Controller S) (new : List String) : Prop where
  contents : S.contents c'.symbols = S.contents c.symbols ++ new
  sliced : Sliced c'
  sent : ∀ i stream', c'.marketData[i]? = some stream' → stream'.ready = true → ∀ topic ∈ topics,
    (event = .ready i ∧
      sent topic i c'.actions = slice S.sliceSize (S.contents c'.symbols) i) ∨
    (event ≠ .ready i ∧ (∃ stream, c.marketData[i]? = some stream ∧ stream.ready = true) ∧
      sent topic i c'.actions =
        sliceFrom S.sliceSize (S.contents c'.symbols) i (S.contents c.symbols).length)

/-- The new symbols are appended, streams are created, and then all streams subscribe. -/
theorem onSymbolsUpdate_eq (new : List String) (c : Controller S) :
    ∃ c', Creates { c with symbols := (S.update new c.symbols).2 } c'
        (sliceCount S.sliceSize (S.contents c.symbols ++ new).length - c.marketData.length) ∧
      onSymbolsUpdate new c =
        act (c'.marketData.flatMap (requestsFrom c'.symbols (S.contents c.symbols).length)) c' := by
  have hsize : (S.update new c.symbols).1.1 =
      sliceCount S.sliceSize (S.contents c.symbols ++ new).length := by
    rw [S.update_fst]
  have hstartFrom : (S.update new c.symbols).1.2 = (S.contents c.symbols).length := by
    rw [S.update_fst]
  refine ⟨ensureSymbolSlices (S.update new c.symbols).1.1
    { c with symbols := (S.update new c.symbols).2 }, ?_, ?_⟩
  · rw [← hsize]
    exact .iterate _ _
  · rw [← hstartFrom]
    exact foldl_subscribe _ _ _

section Steps

variable {c : Controller S} (hsliced : Sliced c) (hactions : c.actions = [])

include hsliced hactions

/-- New symbols. -/
theorem steps_onSymbolsUpdate {event : Event} (hevent : ∀ i, event ≠ .ready i)
    (new : List String) : Steps event c (onSymbolsUpdate new c) new := by
  obtain ⟨c', hcreates, hupdate⟩ := onSymbolsUpdate_eq new c
  obtain ⟨streams, hstreams, hlength, hnotReady⟩ := hcreates.marketData
  obtain ⟨indices, hstarted⟩ := hcreates.actions
  have hcontents : S.contents c'.symbols = S.contents c.symbols ++ new := by
    rw [hcreates.symbols]
    exact S.contents_update new c.symbols
  have hindices := hcreates.indices hsliced.indices
  simp only [hactions, List.nil_append] at hstreams hstarted
  rw [hupdate]
  refine ⟨hcontents, ⟨hindices, ?_⟩, fun i stream' hstream hready topic htopic =>
    .inr ⟨hevent i, ?_, ?_⟩⟩
  · -- there are enough streams, since slices are only added
    show c'.marketData.length = sliceCount S.sliceSize (S.contents c'.symbols).length
    have hmono : c.marketData.length ≤
        sliceCount S.sliceSize (S.contents c.symbols ++ new).length := by
      rw [hsliced.count]
      exact sliceCount_mono _ (by simp)
    rw [hstreams, hcontents, List.length_append, hlength]
    exact Nat.add_sub_of_le hmono
  · -- a stream that is ready is not one of the new ones
    change c'.marketData[i]? = some stream' at hstream
    rw [hstreams] at hstream
    rcases Nat.lt_or_ge i c.marketData.length with hold | hnew
    · rw [List.getElem?_append_left hold] at hstream
      exact ⟨stream', hstream, hready⟩
    · rw [List.getElem?_append_right hnew] at hstream
      rw [hnotReady stream' (List.mem_of_getElem? hstream)] at hready
      cases hready
  · show sent topic i (c'.actions ++ _) = _
    rw [sent_append, hstarted, sent_start, List.nil_append,
      sent_requestsFrom hindices hstream hready htopic]
    rfl

/-- Nothing new. -/
theorem steps_refl {event : Event} (hevent : ∀ i, event ≠ .ready i) : Steps event c c [] := by
  refine ⟨by simp, hsliced, fun i stream hstream hready topic htopic =>
    .inr ⟨hevent i, ⟨stream, hstream, hready⟩, ?_⟩⟩
  rw [hactions, sliceFrom_length]
  rfl

omit hactions in
/-- Publishing the status of a stream keeps the slices. -/
theorem sliced_onConnectionStatus (i : ℕ) (stream : MarketData) (status : ConnectionStatus)
    (reason : String) : Sliced (onConnectionStatus i stream status reason c) := by
  have hindices : (c.marketData.modify i fun stream =>
      { stream with connectionStatus := status }).map (·.index) = c.marketData.map (·.index) := by
    apply List.ext_getElem?
    intro j
    rw [List.getElem?_map, List.getElem?_modify, List.getElem?_map]
    cases c.marketData[j]? with
    | none => rfl
    | some other => by_cases hij : i = j <;> simp [hij]
  have hlength : (onConnectionStatus i stream status reason c).marketData.length =
      c.marketData.length := List.length_modify _ _ _
  constructor
  · rw [hlength, ← hsliced.indices]
    exact hindices
  · rw [hlength]
    exact hsliced.count

omit hsliced hactions in
/-- Where a stream comes from after the status of one was published. -/
theorem of_getElem?_modify {i j : ℕ} {stream : MarketData} {status : ConnectionStatus}
    (h : (c.marketData.modify i fun stream =>
      { stream with connectionStatus := status })[j]? = some stream) :
    j = i ∧ stream.connectionStatus = status ∨ j ≠ i ∧ c.marketData[j]? = some stream := by
  by_cases hij : i = j
  · subst hij
    rw [List.getElem?_modify_eq] at h
    obtain ⟨old, -, rfl⟩ := Option.map_eq_some_iff.mp h
    exact .inl ⟨rfl, rfl⟩
  · rw [List.getElem?_modify_ne _ _ hij] at h
    exact .inr ⟨Ne.symm hij, h⟩

/-- A stream is disconnected. -/
theorem steps_onDisconnected (i : ℕ) : Steps (.disconnected i) c (onDisconnected i c) [] := by
  unfold onDisconnected
  cases hstream : c.marketData[i]? with
  | none => exact steps_refl hsliced hactions (by simp)
  | some stream =>
    refine ⟨by simp [onConnectionStatus, act], sliced_onConnectionStatus hsliced _ _ _ _,
      fun j stream' hstream' hready topic htopic => .inr ⟨by simp, ?_, ?_⟩⟩
    · rcases of_getElem?_modify hstream' with ⟨-, hstatus⟩ | ⟨-, hold⟩
      · rw [MarketData.ready, hstatus] at hready
        cases hready
      · exact ⟨stream', hold, hready⟩
    · simp [onConnectionStatus, act, hactions, sent]

omit hactions in
/-- A stream that gets ready asks for its whole slice. -/
theorem onReady_eq {i : ℕ} {stream : MarketData} (hstream : c.marketData[i]? = some stream) :
    onReady i c = act (requests ⟨i, stream.streamId, .ready⟩
      (slice S.sliceSize (S.contents c.symbols) i)) (onConnectionStatus i stream .ready "" c) := by
  have hindex := index_eq hsliced.indices hstream
  obtain ⟨index, streamId, status⟩ := stream
  obtain rfl : index = i := hindex
  unfold onReady
  rw [hstream]
  show subscribe _ 0 _ = _
  rw [subscribe_eq, requestsFrom, if_pos (by rfl), S.getSlice_eq, sliceFrom_zero]
  rfl

/-- A stream gets ready. -/
theorem steps_onReady {i : ℕ} (hi : i < c.marketData.length) :
    Steps (.ready i) c (onReady i c) [] := by
  obtain ⟨stream, hstream⟩ : ∃ stream, c.marketData[i]? = some stream :=
    ⟨_, List.getElem?_eq_getElem hi⟩
  have hsliced' := sliced_onConnectionStatus hsliced i stream .ready ""
  rw [onReady_eq hsliced hstream]
  refine ⟨by simp [onConnectionStatus, act], ⟨hsliced'.indices, hsliced'.count⟩,
    fun j stream' hstream' hready topic htopic => ?_⟩
  have hsent : sent topic j ((c.actions ++ [Action.publish stream.streamId .ready ""]) ++
      requests ⟨i, stream.streamId, .ready⟩ (slice S.sliceSize (S.contents c.symbols) i)) =
      if i = j then slice S.sliceSize (S.contents c.symbols) i else [] := by
    rw [hactions, sent_append, sent_requests htopic]
    rfl
  rcases of_getElem?_modify hstream' with ⟨rfl, -⟩ | ⟨hne, hold⟩
  · exact .inl ⟨rfl, hsent.trans (if_pos rfl)⟩
  · refine .inr ⟨fun hsame => hne (Event.ready.inj hsame).symm, ⟨stream', hold, hready⟩, ?_⟩
    refine (hsent.trans (if_neg (Ne.symm hne))).trans ?_
    exact (sliceFrom_length _ _ _).symm

end Steps

/-- The symbols that an event brings: those of the instruments that are not discarded, or those
that a client asks for. -/
def Event.symbols (config : Rest.Config) : Event → List String
  | .instruments ack =>
    (ack.data.map (·.symbol)).filter fun symbol => !config.discardSymbol symbol
  | .subscribe requested => requested
  | .ready _ | .disconnected _ => []

/-- Announcing symbols updates the streams. -/
theorem finalState_announce {w v : Rest.World (Controller S)} {recorded : List String}
    (h : Rest.Records w v recorded) (new : List String) :
    (finalState (Rest.announce environment new v)).allSymbols =
        w.allSymbols ∪ recorded.toFinset ∧
      (finalState (Rest.announce environment new v)).controller =
        onSymbolsUpdate new w.controller := by
  rw [← h.allSymbols, ← h.controller]
  exact ⟨rfl, rfl⟩

/-- The symbols of an event are recorded, and the streams are updated with those that are new. -/
theorem react_records (config : Rest.Config) (w : Rest.World (Controller S)) {event : Event}
    (hevent : (∃ ack, event = .instruments ack) ∨ ∃ requested, event = .subscribe requested) :
    (react config w event).allSymbols = w.allSymbols ∪ (event.symbols config).toFinset ∧
      ((react config w event).controller =
          onSymbolsUpdate (unseen w.allSymbols (event.symbols config)) w.controller ∨
        unseen w.allSymbols (event.symbols config) = [] ∧
          (react config w event).controller = w.controller) := by
  rcases hevent with ⟨ack, rfl⟩ | ⟨requested, rfl⟩
  · have hgoes : ∀ entry ∈ ack.data.zipIdx,
        Rest.stops config (environment (S := S)) entry = false := by
      intro entry _
      simp [Rest.stops, environment]
    obtain ⟨v, hrecords, hack⟩ := Rest.onInstrumentsAck_of_not_stops hgoes w
    rw [Rest.kept_zipIdx] at hrecords hack
    rw [show react config w (.instruments ack) =
      finalState (Rest.onInstrumentsAck config environment ack w) from rfl, hack]
    split_ifs with hnew
    · obtain ⟨hsymbols, hcontroller⟩ := finalState_announce hrecords
        (unseen w.allSymbols (Event.symbols config (.instruments ack)))
      exact ⟨hsymbols, .inl hcontroller⟩
    · exact ⟨hrecords.allSymbols, .inr ⟨not_not.mp hnew, hrecords.controller⟩⟩
  · obtain ⟨v, hrecords, hsubscribe⟩ :=
      Rest.onSubscribe_eq (environment (S := S)) requested w
    rw [show react config w (.subscribe requested) =
      finalState (Rest.onSubscribe environment requested w) from rfl, hsubscribe]
    obtain ⟨hsymbols, hcontroller⟩ := finalState_announce hrecords (unseen w.allSymbols requested)
    exact ⟨hsymbols, .inl hcontroller⟩

/-- **What an event does.** The symbols it brings are recorded, and those that are new are given
to the streams. -/
theorem steps_react (config : Rest.Config) {w : Rest.World (Controller S)} {event : Event}
    (hsliced : Sliced w.controller) (hactions : w.controller.actions = [])
    (hready : ∀ i, event = .ready i → i < w.controller.marketData.length) :
    (react config w event).allSymbols = w.allSymbols ∪ (event.symbols config).toFinset ∧
      Steps event w.controller (react config w event).controller
        (unseen w.allSymbols (event.symbols config)) := by
  have hrecorded : ∀ {event : Event},
      ((∃ ack, event = .instruments ack) ∨ ∃ requested, event = .subscribe requested) →
      (∀ i, event ≠ .ready i) →
      (react config w event).allSymbols = w.allSymbols ∪ (event.symbols config).toFinset ∧
        Steps event w.controller (react config w event).controller
          (unseen w.allSymbols (event.symbols config)) := by
    intro event hevent hother
    obtain ⟨hsymbols, hcontroller⟩ := react_records config w hevent
    refine ⟨hsymbols, ?_⟩
    rcases hcontroller with hupdate | ⟨hnone, hsame⟩
    · rw [hupdate]
      exact steps_onSymbolsUpdate hsliced hactions hother _
    · rw [hnone, hsame]
      exact steps_refl hsliced hactions hother
  cases event with
  | instruments ack => exact hrecorded (.inl ⟨ack, rfl⟩) (by simp)
  | subscribe requested => exact hrecorded (.inr ⟨requested, rfl⟩) (by simp)
  | ready i =>
    exact ⟨by simp [react, Event.symbols], steps_onReady hsliced hactions (hready i rfl)⟩
  | disconnected i =>
    exact ⟨by simp [react, Event.symbols], steps_onDisconnected hsliced hactions i⟩

/-! ## Runs -/

/-- The entry at which a stream gets ready. -/
def getsReady (i : ℕ) (entry : Entry Event Action) : Bool :=
  match entry.event with
  | .ready j => j == i
  | _ => false

/-- The symbols that a stream has asked for on a topic since it got ready the last time, in
order. -/
def sentSince (topic : String) (i : ℕ) (h : History Event Action) : List String :=
  (since (getsReady i) h).reverse.flatMap fun entry => sent topic i entry.actions

/-- What `shared_.symbols` has received. -/
def received (w : Rest.World (Controller S)) : List String := S.contents w.controller.symbols

/-- The stream gets ready. -/
theorem sentSince_ready (topic : String) (i : ℕ) (actions : List Action)
    (h : History Event Action) :
    sentSince topic i (⟨.ready i, actions⟩ :: h) = sent topic i actions := by
  rw [sentSince, since_cons_of_pos (getsReady i) (by simp [getsReady])]
  simp

/-- Any other event. -/
theorem sentSince_cons (topic : String) {i : ℕ} {event : Event} (hevent : event ≠ .ready i)
    (actions : List Action) (h : History Event Action) :
    sentSince topic i (⟨event, actions⟩ :: h) = sentSince topic i h ++ sent topic i actions := by
  have hmark : getsReady i ⟨event, actions⟩ = false := by
    cases event with
    | ready j => simpa [getsReady] using hevent
    | instruments ack | subscribe requested | disconnected j => rfl
  rw [sentSince, since_cons_of_neg (getsReady i) hmark, List.reverse_cons, List.flatMap_append,
    List.flatMap_singleton, sentSince]

/-- Every symbol was received once, and the streams that are ready have asked for their slices. -/
structure Subscribed (config : Rest.Config) (h : History Event Action)
    (w : Rest.World (Controller S)) : Prop where
  nodup : (received w).Nodup
  mem_received : ∀ symbol, symbol ∈ received w ↔ symbol ∈ w.allSymbols
  recorded : ∀ entry ∈ h, ∀ symbol ∈ entry.event.symbols config, symbol ∈ w.allSymbols
  sliced : Sliced w.controller
  sentSince_eq : ∀ i stream, w.controller.marketData[i]? = some stream → stream.ready = true →
    ∀ topic ∈ topics, sentSince topic i h = slice S.sliceSize (received w) i

/-- Initially there is nothing. -/
theorem subscribed_initial (config : Rest.Config) (S : Core.Symbols) (streamId : UInt16) :
    Subscribed config [] (Rest.World.initial (initial S streamId)) := by
  have hnone : received (Rest.World.initial (initial S streamId)) = [] := S.contents_create
  constructor
  · rw [hnone]
    exact List.nodup_nil
  · rw [hnone]
    simp [Rest.World.initial]
  · simp
  · refine ⟨rfl, ?_⟩
    show 0 = sliceCount S.sliceSize (received (Rest.World.initial (initial S streamId))).length
    rw [hnone]
    exact (sliceCount_zero S.sliceSize_pos).symm
  · intro i stream hstream
    simp [Rest.World.initial, initial] at hstream

/-- Every event keeps the invariant. -/
theorem Subscribed.step {config : Rest.Config} {streamId : UInt16} {h : History Event Action}
    {w : Rest.World (Controller S)} {event : Event} (hw : Subscribed config h w)
    (henabled : (system config S streamId).enabled w event) :
    Subscribed config (⟨event, ((system config S streamId).step w event).2⟩ :: h)
      ((system config S streamId).step w event).1 := by
  have hready : ∀ i, event = .ready i → i < w.controller.marketData.length := by
    rintro i rfl
    exact henabled
  have hsliced : Sliced { w.controller with actions := [] } := ⟨hw.sliced.indices, hw.sliced.count⟩
  obtain ⟨hsymbols, hsteps⟩ :=
    steps_react config (w := { w with controller := { w.controller with actions := [] } }) hsliced
      rfl hready
  have hreceived : received ((system config S streamId).step w event).1 =
      received w ++ unseen w.allSymbols (event.symbols config) := hsteps.contents
  refine ⟨?_, fun symbol => ?_, fun entry hentry symbol hsymbol => ?_, hsteps.sliced,
    fun i stream hstream hready topic htopic => ?_⟩
  · rw [hreceived]
    refine hw.nodup.append (nodup_unseen _ _) fun symbol hold hnew => ?_
    exact ((mem_unseen _ _).mp hnew).2 ((hw.mem_received symbol).mp hold)
  · rw [hreceived, List.mem_append, mem_unseen, hw.mem_received]
    show _ ↔ symbol ∈ (react config _ event).allSymbols
    rw [hsymbols, Finset.mem_union, List.mem_toFinset]
    show symbol ∈ w.allSymbols ∨ _ ↔ symbol ∈ w.allSymbols ∨ _
    tauto
  · show symbol ∈ (react config _ event).allSymbols
    rw [hsymbols, Finset.mem_union, List.mem_toFinset]
    rcases List.mem_cons.mp hentry with rfl | hbefore
    · exact .inr hsymbol
    · exact .inl (hw.recorded entry hbefore symbol hsymbol)
  · rcases hsteps.sent i stream hstream hready topic htopic with
      ⟨rfl, hsent⟩ | ⟨hevent, ⟨old, hold, hwas⟩, hsent⟩
    · rw [sentSince_ready]
      exact hsent
    · rw [sentSince_cons topic hevent, hw.sentSince_eq i old hold hwas topic htopic, hreceived,
        slice_append, ← hreceived]
      exact congrArg _ hsent

/-- **Subscriptions.** In every run: no symbol is received twice, and every symbol of an event is
received; there is a stream for each slice; and every stream that is ready has asked on each topic
exactly once for every symbol of its slice, and for no other symbol, since it got ready. -/
theorem symbols_subscribed (config : Rest.Config) {streamId : UInt16} {h : History Event Action}
    {w : Rest.World (Controller S)} (run : Run (system config S streamId) anyStep h w) :
    (received w).Nodup ∧
    (∀ entry ∈ h, ∀ symbol ∈ entry.event.symbols config, symbol ∈ received w) ∧
    w.controller.marketData.length = sliceCount S.sliceSize (received w).length ∧
    (List.range w.controller.marketData.length).flatMap (slice S.sliceSize (received w)) =
      received w ∧
    ∀ i stream, w.controller.marketData[i]? = some stream → stream.index = i ∧
      (stream.ready = true → ∀ topic ∈ topics,
        (∀ symbol ∈ slice S.sliceSize (received w) i, (sentSince topic i h).count symbol = 1) ∧
        ∀ symbol ∈ sentSince topic i h, symbol ∈ slice S.sliceSize (received w) i) := by
  have hw : Subscribed config h w :=
    Run.invariant (P := fun h w => Subscribed config h w) (subscribed_initial config S streamId)
      (fun _ _ _ _ hw henabled _ => hw.step henabled) run
  refine ⟨hw.nodup, fun entry hentry symbol hsymbol =>
    (hw.mem_received symbol).mpr (hw.recorded entry hentry symbol hsymbol), hw.sliced.count, ?_,
    fun i stream hstream => ⟨index_eq hw.sliced.indices hstream, fun hready topic htopic => ?_⟩⟩
  · rw [hw.sliced.count]
    exact flatMap_slice S.sliceSize_pos (received w)
  · rw [hw.sentSince_eq i stream hstream hready topic htopic]
    exact ⟨fun symbol hsymbol =>
      List.count_eq_one_of_mem (nodup_slice hw.nodup _ _) hsymbol, fun _ => id⟩

/-! ## A reconnect -/

instance (config : Rest.Config) (streamId : UInt16) (w : Rest.World (Controller S)) :
    (event : Event) → Decidable ((system config S streamId).enabled w event)
  | .instruments _ | .subscribe _ => inferInstanceAs (Decidable True)
  | .ready i | .disconnected i => inferInstanceAs (Decidable (i < w.controller.marketData.length))

/-- The gateway with the two instruments, in slices of two. -/
abbrev twoInstrumentsSystem :
    System (Rest.World (Controller (symbolList 2 Nat.two_pos))) Event Action :=
  system Rest.twoInstrumentsConfig (symbolList 2 Nat.two_pos) 3

/-- A client subscribes before the instruments arrive. The streams get ready, a symbol is added,
and the second stream reconnects. -/
def reconnect : List Event :=
  [.subscribe ["SOLUSDT"], .ready 0, .instruments Rest.twoInstruments, .ready 1,
    .subscribe ["XRPUSDT", "SOLUSDT"], .disconnected 1, .ready 1]

/-- The second stream has asked for the trades of its two symbols once since its reconnect. -/
theorem reconnect_subscribed :
    received (play twoInstrumentsSystem reconnect).2 =
        ["SOLUSDT", "BTCUSDT", "ETHUSDT", "XRPUSDT"] ∧
      ∀ symbol ∈ ["ETHUSDT", "XRPUSDT"],
        (sentSince "publicTrade" 1 (play twoInstrumentsSystem reconnect).1).count symbol = 1 := by
  have hreceived : received (play twoInstrumentsSystem reconnect).2 =
      ["SOLUSDT", "BTCUSDT", "ETHUSDT", "XRPUSDT"] := by decide
  have hrun : Run twoInstrumentsSystem anyStep (play twoInstrumentsSystem reconnect).1
      (play twoInstrumentsSystem reconnect).2 := Run.play (by decide)
  obtain ⟨-, -, -, -, hstreams⟩ := symbols_subscribed Rest.twoInstrumentsConfig hrun
  have hasked := ((hstreams 1 ⟨1, 5, .ready⟩ (by decide)).2 rfl "publicTrade" (by decide)).1
  rw [hreceived] at hasked
  exact ⟨hreceived, hasked⟩

end Controller

end RoqBitget.Gateway
