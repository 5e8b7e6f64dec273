import RoqBitget.Foundations.Ladder
import RoqBitget.Foundations.Skipping
import RoqBitget.Protocol.Map

set_option relaxedAutoImplicit false
set_option autoImplicit false

/-!
# Book updates

The handler of `MarketData` that publishes the books of the exchange. A snapshot of the exchange
replaces a book, an update sets and removes levels of it. The handler collects the levels of a
message in two vectors that all streams share, and publishes nothing if both remain empty.

## Main definitions

* `RoqBitget.Gateway.MarketData.onBooks` — the handler.
* `RoqBitget.Gateway.MarketData.exchangeBook` — the book of the exchange after some messages.
* `RoqBitget.Gateway.MarketData.publishedBook` — the book after what was published of them.

## Main results

* `RoqBitget.Gateway.MarketData.books_followed_iff` — the published book follows that of the
  exchange if and only if no snapshot without levels arrives while the book has some.

## Implementation notes

A book is a quantity for every price that has one. Whether a level of quantity zero is removed
from a snapshot does not matter, as long as it is the same for the exchange and for those who
apply the published updates.
-/

namespace RoqBitget.Protocol

/-- A level of a book (`books_item.json`). -/
structure BooksItem where
  price : Double
  size : Double
  deriving DecidableEq

/-- The levels of a message (`books_data.json`). -/
structure BooksData where
  asks : List BooksItem
  bids : List BooksItem
  seq : ℕ
  ts : Milliseconds
  deriving DecidableEq

/-- The websocket message (`books.json`), with the symbol of its argument. -/
structure Books where
  symbol : String
  action : Action
  data : List BooksData
  ts : Milliseconds
  deriving DecidableEq

end RoqBitget.Protocol

namespace RoqBitget.Gateway

/-! ## The published update -/

/-- `roq::MBPUpdate`; the gateway leaves the action and the level undefined. -/
structure MBPUpdate where
  price : Double
  quantity : Double
  impliedQuantity : Double
  numberOfOrders : ℕ
  priceLevel : ℕ
  deriving DecidableEq

/-- `roq::MarketByPriceUpdate`. -/
structure MarketByPriceUpdate where
  streamId : ℕ
  exchange : String
  symbol : String
  bids : List MBPUpdate
  asks : List MBPUpdate
  updateType : UpdateType
  exchangeTimeUtc : Nanoseconds
  exchangeSequence : ℕ
  sendingTimeUtc : Nanoseconds
  pricePrecision : Precision
  quantityPrecision : Precision
  maxDepth : ℕ
  checksum : ℕ
  deriving DecidableEq

namespace MarketData

/-- The vectors of `gateway::Shared` that the handler uses. -/
structure BookBuffers where
  bids : List MBPUpdate
  asks : List MBPUpdate

/-- The calls of `log::fatal` in the handler. -/
inductive BooksFatal
  /-- A message without exactly one entry. -/
  | unexpectedData
  /-- An action that is neither a snapshot nor an update. -/
  | unexpectedAction
  deriving DecidableEq

/-! ## The handler -/

/-- The body of the loops over the levels. -/
def mbpUpdate (item : Protocol.BooksItem) : MBPUpdate :=
  { price := item.price
    quantity := item.size
    impliedQuantity := .nan
    numberOfOrders := 0
    priceLevel := 0 }

/-- The lambda `update_type`. -/
def updateType : Protocol.Action → Except BooksFatal UpdateType
  | .undefinedInternal => .error .unexpectedAction
  | .unknownInternal => .error .unexpectedAction
  | .snapshot => .ok .snapshot
  | .update => .ok .incremental

/-- The update published for the levels that were collected. -/
def marketByPriceUpdate (stream : Stream) (books : Protocol.Books) (data : Protocol.BooksData)
    (buffers : BookBuffers) (updateType : UpdateType) : MarketByPriceUpdate :=
  { streamId := stream.streamId
    exchange := stream.exchange
    symbol := books.symbol
    bids := buffers.bids
    asks := buffers.asks
    updateType := updateType
    exchangeTimeUtc := data.ts.toNanoseconds
    exchangeSequence := data.seq
    sendingTimeUtc := books.ts.toNanoseconds
    pricePrecision := .undefined
    quantityPrecision := .undefined
    maxDepth := 0
    checksum := 0 }

/-- `MarketData::operator()(Trace<protocol::json::Books> const &)`: the update that is dispatched,
if any, and the shared vectors afterwards. -/
def onBooks (stream : Stream) (buffers : BookBuffers) (books : Protocol.Books) :
    Except BooksFatal (Option MarketByPriceUpdate × BookBuffers) :=
  let buffers := { buffers with bids := [], asks := [] }
  match books.data with
  | [data] => do
    let buffers := { buffers with bids := buffers.bids ++ data.bids.map mbpUpdate }
    let buffers := { buffers with asks := buffers.asks ++ data.asks.map mbpUpdate }
    if !(buffers.bids.isEmpty && buffers.asks.isEmpty) then
      let updateType ← updateType books.action
      return (some (marketByPriceUpdate stream books data buffers updateType), buffers)
    else
      return (none, buffers)
  | _ => .error .unexpectedData

/-! ## The two books -/

/-- A book of quantities by price. -/
abbrev Book := Ladder.Book Double Double

/-- The change that a message of the exchange stands for. -/
def changeOfData (action : Protocol.Action) (data : Protocol.BooksData) :
    Ladder.Change Double Double :=
  { replace := action = .snapshot
    bids := data.bids.map fun item => (item.price, item.size)
    asks := data.asks.map fun item => (item.price, item.size) }

/-- The book of the exchange after a message. -/
def applyBooks (book : Book) (books : Protocol.Books) : Book :=
  books.data.foldl (fun book data => book.apply .zero (changeOfData books.action data)) book

/-- The change that a published update stands for. -/
def changeOfUpdate (update : MarketByPriceUpdate) : Ladder.Change Double Double :=
  { replace := update.updateType = .snapshot
    bids := update.bids.map fun level => (level.price, level.quantity)
    asks := update.asks.map fun level => (level.price, level.quantity) }

/-- The book of a client after a published update. -/
def applyUpdate (book : Book) (update : MarketByPriceUpdate) : Book :=
  book.apply .zero (changeOfUpdate update)

/-- A message, and what the shared vectors contain when it arrives. -/
structure Arrival where
  buffers : BookBuffers
  books : Protocol.Books

/-- The book of the exchange after some messages. -/
def exchangeBook (book : Book) (arrivals : List Arrival) : Book :=
  arrivals.foldl (fun book arrival => applyBooks book arrival.books) book

/-- The book of a client after what was published of some messages. -/
def publishedBook (stream : Stream) (book : Book) (arrivals : List Arrival) :
    Except BooksFatal Book :=
  arrivals.foldlM (fun book arrival => do
    let (update, _) ← onBooks stream arrival.buffers arrival.books
    return Skipping.see applyUpdate book update) book

/-- A message of the exchange on the book of a symbol: one entry, which is a snapshot or an
update. -/
structure WellFormed (symbol : String) (books : Protocol.Books) : Prop where
  symbol : books.symbol = symbol
  data : books.data.length = 1
  action : books.action = .snapshot ∨ books.action = .update

/-- A message without any levels. -/
def HasNoLevels (books : Protocol.Books) : Prop :=
  ∀ data ∈ books.data, data.bids = [] ∧ data.asks = []

/-! ## What is published -/

/-- What is published of a message, whatever the shared vectors contain. -/
def published (stream : Stream) (books : Protocol.Books) : Option MarketByPriceUpdate :=
  match onBooks stream ⟨[], []⟩ books with
  | .ok (update, _) => update
  | .error _ => none

section Published

variable {stream : Stream} {symbol : String} {books : Protocol.Books}

/-- What the shared vectors contain does not matter. -/
theorem onBooks_buffers (stream : Stream) (buffers : BookBuffers) (books : Protocol.Books) :
    onBooks stream buffers books = onBooks stream ⟨[], []⟩ books := rfl

/-- A message of the exchange has one entry. -/
theorem WellFormed.exists_data (h : WellFormed symbol books) : ∃ data, books.data = [data] :=
  List.length_eq_one_iff.mp h.data

/-- The handler does not fail on a message of the exchange. -/
theorem WellFormed.onBooks_ok (h : WellFormed symbol books) (stream : Stream) :
    ∃ buffers, onBooks stream ⟨[], []⟩ books = .ok (published stream books, buffers) := by
  obtain ⟨data, hdata⟩ := h.exists_data
  unfold published onBooks
  rw [hdata]
  dsimp only
  split_ifs
  · rcases h.action with haction | haction <;> rw [haction] <;> exact ⟨_, rfl⟩
  · exact ⟨_, rfl⟩

/-- A published update does to a book what its message does. -/
theorem applyUpdate_of_published {update : MarketByPriceUpdate}
    (h : published stream books = some update) (book : Book) :
    applyUpdate book update = applyBooks book books := by
  unfold published onBooks at h
  cases hdata : books.data with
  | nil => simp [hdata] at h
  | cons data rest =>
    cases rest with
    | cons data' rest => simp [hdata] at h
    | nil =>
      rw [hdata] at h
      dsimp only at h
      split_ifs at h
      · have happly : ∀ updateType : UpdateType,
            (updateType = .snapshot ↔ books.action = .snapshot) →
            applyUpdate book (marketByPriceUpdate stream books data
              ⟨[] ++ data.bids.map mbpUpdate, [] ++ data.asks.map mbpUpdate⟩ updateType) =
                applyBooks book books := by
          intro updateType htype
          rw [applyBooks, hdata, List.foldl_cons, List.foldl_nil, applyUpdate]
          apply congrArg (book.apply Double.zero)
          simp [changeOfUpdate, marketByPriceUpdate, changeOfData, mbpUpdate, htype,
            Function.comp_def]
        cases haction : books.action with
        | snapshot =>
          rw [haction] at h
          obtain rfl := Option.some.inj h
          exact happly .snapshot (by simp [haction])
        | update =>
          rw [haction] at h
          obtain rfl := Option.some.inj h
          exact happly .incremental (by simp [haction])
        | undefinedInternal => simp [haction, updateType, bind, Except.bind] at h
        | unknownInternal => simp [haction, updateType, bind, Except.bind] at h
      · simp [pure, Except.pure] at h

/-- Nothing is published of a message of the exchange if and only if it has no levels. -/
theorem WellFormed.published_eq_none_iff (h : WellFormed symbol books) :
    published stream books = none ↔ HasNoLevels books := by
  obtain ⟨data, hdata⟩ := h.exists_data
  have hlevels : HasNoLevels books ↔ data.bids = [] ∧ data.asks = [] := by
    simp [HasNoLevels, hdata]
  rw [hlevels]
  unfold published onBooks
  rw [hdata]
  dsimp only
  split_ifs with hempty
  · have hsome : ¬ (data.bids = [] ∧ data.asks = []) := by
      rw [not_and_or]
      simpa using hempty
    refine iff_of_false ?_ hsome
    rcases h.action with haction | haction <;> rw [haction] <;>
      simp [updateType, bind, Except.bind, pure, Except.pure]
  · have hnone : data.bids = [] ∧ data.asks = [] := by simpa using hempty
    exact iff_of_true rfl hnone

/-- A message without levels does nothing to the book of the exchange, unless it is a snapshot
and the book has some. -/
theorem WellFormed.applyBooks_eq_iff (h : WellFormed symbol books) (hlevels : HasNoLevels books)
    (book : Book) :
    applyBooks book books = book ↔ (books.action = .snapshot → book = Ladder.Book.empty) := by
  obtain ⟨data, hdata⟩ := h.exists_data
  obtain ⟨hbids, hasks⟩ := hlevels data (by simp [hdata])
  rw [applyBooks, hdata, List.foldl_cons, List.foldl_nil, changeOfData, hbids, hasks]
  rcases h.action with haction | haction
  · rw [haction]
    show Ladder.Book.apply .zero book ⟨true, [], []⟩ = book ↔ _
    rw [Ladder.Book.apply_clear]
    exact ⟨fun heq _ => heq.symm, fun heq => (heq rfl).symm⟩
  · rw [haction]
    exact iff_of_true (Ladder.Book.apply_quiet .zero book) (by simp)

end Published

/-- A client sees what an observer of the published updates sees. -/
theorem publishedBook_eq (stream : Stream) {symbol : String} {arrivals : List Arrival}
    (hwell : ∀ arrival ∈ arrivals, WellFormed symbol arrival.books) (book : Book) :
    publishedBook stream book arrivals = .ok (Skipping.observe
      (fun arrival : Arrival => published stream arrival.books) applyUpdate book arrivals) := by
  unfold publishedBook Skipping.observe
  induction arrivals generalizing book with
  | nil => rfl
  | cons arrival arrivals ih =>
    obtain ⟨buffers, hok⟩ := (hwell arrival List.mem_cons_self).onBooks_ok stream
    rw [List.foldlM_cons, onBooks_buffers, hok]
    exact ih (fun a ha => hwell a (List.mem_cons_of_mem arrival ha)) _

/-- **The published book follows that of the exchange if and only if no snapshot without levels
arrives while the book has some.** This is so for every sequence of messages on a symbol,
whatever book both start from and whatever the shared vectors contain when a message arrives. -/
theorem books_followed_iff (stream : Stream) (symbol : String) (arrivals : List Arrival)
    (hwell : ∀ arrival ∈ arrivals, WellFormed symbol arrival.books) (book : Book) :
    (∀ before, before <+: arrivals →
      publishedBook stream book before = .ok (exchangeBook book before)) ↔
    ∀ before arrival, before ++ [arrival] <+: arrivals →
      arrival.books.action = .snapshot → HasNoLevels arrival.books →
        exchangeBook book before = Ladder.Book.empty := by
  have hobserve : (∀ before, before <+: arrivals →
      publishedBook stream book before = .ok (exchangeBook book before)) ↔
      ∀ before, before <+: arrivals →
        Skipping.observe (fun arrival : Arrival => published stream arrival.books) applyUpdate
          book before =
        Skipping.follow (fun book arrival => applyBooks book arrival.books) book before := by
    refine forall₂_congr fun before hbefore => ?_
    rw [publishedBook_eq stream (fun a ha => hwell a (hbefore.subset ha)), Except.ok.injEq]
    rfl
  rw [hobserve, Skipping.observe_eq_follow_iff
    (fun book arrival update h => applyUpdate_of_published h book)]
  refine forall₃_congr fun before arrival hbefore => ?_
  have harrival := hwell arrival (hbefore.subset (by simp))
  rw [harrival.published_eq_none_iff]
  constructor
  · intro h haction hlevels
    exact (harrival.applyBooks_eq_iff hlevels _).mp (h hlevels) haction
  · intro h hlevels
    exact (harrival.applyBooks_eq_iff hlevels _).mpr fun haction => h haction hlevels

/-! ## Two sequences of messages -/

/-- A message on one symbol. -/
def bitcoinBooks (action : Protocol.Action) (bids : List Protocol.BooksItem) : Arrival :=
  ⟨⟨[], []⟩, ⟨"BTCUSDT", action, [⟨[], bids, 1, ⟨0⟩⟩], ⟨0⟩⟩⟩

/-- A message on one symbol is well-formed if it is a snapshot or an update. -/
theorem wellFormed_bitcoinBooks {action : Protocol.Action} (bids : List Protocol.BooksItem)
    (h : action = .snapshot ∨ action = .update) :
    WellFormed "BTCUSDT" (bitcoinBooks action bids).books := ⟨rfl, rfl, h⟩

/-- A snapshot with a level, and an update without any. -/
theorem quietUpdate_followed :
    publishedBook ⟨4, "", "bitget"⟩ Ladder.Book.empty
        [bitcoinBooks .snapshot [⟨.value 100, .value 1⟩], bitcoinBooks .update []] =
      .ok (exchangeBook Ladder.Book.empty
        [bitcoinBooks .snapshot [⟨.value 100, .value 1⟩], bitcoinBooks .update []]) := by
  refine (books_followed_iff ⟨4, "", "bitget"⟩ "BTCUSDT"
    [bitcoinBooks .snapshot [⟨.value 100, .value 1⟩], bitcoinBooks .update []] ?_
    Ladder.Book.empty).mpr ?_ _ (List.prefix_refl _)
  · intro arrival harrival
    simp only [List.mem_cons, List.not_mem_nil, or_false] at harrival
    rcases harrival with rfl | rfl
    · exact wellFormed_bitcoinBooks _ (.inl rfl)
    · exact wellFormed_bitcoinBooks _ (.inr rfl)
  · intro before arrival hbefore haction hlevels
    have harrival := hbefore.subset (List.mem_append_right before List.mem_cons_self)
    simp only [List.mem_cons, List.not_mem_nil, or_false] at harrival
    rcases harrival with rfl | rfl
    · simp [HasNoLevels, bitcoinBooks] at hlevels
    · simp [bitcoinBooks] at haction

/-- After a snapshot without levels the exchange has no bids, and the published book has one. -/
theorem emptySnapshot_notFollowed :
    ∃ book, publishedBook ⟨4, "", "bitget"⟩ Ladder.Book.empty
        [bitcoinBooks .snapshot [⟨.value 100, .value 1⟩], bitcoinBooks .snapshot []] = .ok book ∧
      book.bids (.value 100) = some (.value 1) ∧
      (exchangeBook Ladder.Book.empty
        [bitcoinBooks .snapshot [⟨.value 100, .value 1⟩], bitcoinBooks .snapshot []]).bids
          (.value 100) = none :=
  ⟨_, rfl, by decide, by decide⟩

end MarketData

end RoqBitget.Gateway
