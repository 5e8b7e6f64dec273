import Mathlib.Data.List.Pairwise
import RoqBitget.Foundations.LastReported
import RoqBitget.Protocol.Map

set_option relaxedAutoImplicit false
set_option autoImplicit false

/-!
# Position updates

The two handlers that publish positions: `DropCopy` for the websocket message `Position` and
`OrderEntry` for the REST answer `CurrentPositionsAck`. In hedge mode a symbol has two legs,
a long one and a short one, and every leg is an item of its own. Each item is published as
one `PositionUpdate` that carries both quantities, the one of the other leg as `0.0`.

## Main definitions

* `RoqBitget.Gateway.onPosition`, `RoqBitget.Gateway.onCurrentPositionsAck` — the handlers.
* `RoqBitget.Gateway.consumeAll` — a consumer that keeps the last reported quantities.
* `RoqBitget.Gateway.LegsSurvive` — every leg of a message ends up at the consumer.

## Main results

* `RoqBitget.Gateway.longQuantity_consumeAll`, `shortQuantity_consumeAll` — what the consumer
  keeps is what the updates of the key reported last.
* `RoqBitget.Gateway.hedge_positions_survive_iff` — the legs survive exactly when no leg with
  a nonzero quantity is followed by the other leg of its key.
-/

namespace RoqBitget.Protocol

/-- An item of the websocket message (`position_data_item.json`). -/
structure PositionDataItem where
  symbol : String
  marginMode : MarginMode
  posSide : PosSide
  size : Double
  updatedTime : Milliseconds

/-- The websocket message (`position.json`). -/
structure Position where
  action : Action
  data : List PositionDataItem
  ts : Milliseconds

/-- An item of the REST answer (`current_positions_ack_data_list_item.json`). -/
structure CurrentPositionsAckItem where
  symbol : String
  posSide : PosSide
  total : Double
  marginMode : MarginMode
  createdTime : Milliseconds

/-- The REST answer (`current_positions_ack.json`). -/
structure CurrentPositionsAck where
  list : List CurrentPositionsAckItem
  requestTime : Milliseconds

end RoqBitget.Protocol

namespace RoqBitget.Gateway

open LastReported

/-! ## The published update -/

/-- `roq::PositionUpdate`. -/
structure PositionUpdate where
  streamId : ℕ
  account : String
  exchange : String
  symbol : String
  marginMode : MarginMode
  externalAccount : String
  longQuantity : Double
  shortQuantity : Double
  updateType : UpdateType
  exchangeTimeUtc : Nanoseconds
  exchangeSequence : ℕ
  sendingTimeUtc : Nanoseconds
  deriving DecidableEq

/-- The quantity an item reports on a leg: its own quantity on its own leg, and `0.0` on any
other. -/
def legQuantity (posSide : Protocol.PosSide) (quantity : Double) (leg : Protocol.PosSide) :
    Double :=
  if posSide = leg then quantity else .zero

/-- `DropCopy::operator()(Trace<protocol::json::Position> const &)`. -/
def onPosition (stream : Stream) (position : Protocol.Position) : List PositionUpdate :=
  position.data.map fun item =>
    { streamId := stream.streamId
      account := stream.account
      exchange := stream.exchange
      symbol := item.symbol
      marginMode := Protocol.mapMarginMode item.marginMode
      externalAccount := ""
      longQuantity := legQuantity item.posSide item.size .long
      shortQuantity := legQuantity item.posSide item.size .short
      updateType := Protocol.mapAction position.action
      exchangeTimeUtc := item.updatedTime.toNanoseconds
      exchangeSequence := 0
      sendingTimeUtc := position.ts.toNanoseconds }

/-- `OrderEntry::operator()(Trace<protocol::json::CurrentPositionsAck> const &)`. -/
def onCurrentPositionsAck (stream : Stream) (ack : Protocol.CurrentPositionsAck) :
    List PositionUpdate :=
  ack.list.map fun item =>
    { streamId := stream.streamId
      account := stream.account
      exchange := stream.exchange
      symbol := item.symbol
      marginMode := Protocol.mapMarginMode item.marginMode
      externalAccount := ""
      longQuantity := legQuantity item.posSide item.total .long
      shortQuantity := legQuantity item.posSide item.total .short
      updateType := .snapshot
      exchangeTimeUtc := item.createdTime.toNanoseconds
      exchangeSequence := 0
      sendingTimeUtc := ack.requestTime.toNanoseconds }

/-! ## The consumer -/

/-- What positions are kept by: account, symbol and margin mode. -/
structure PositionKey where
  account : String
  symbol : String
  marginMode : MarginMode
  deriving DecidableEq

/-- The key of an update. -/
def PositionUpdate.key (update : PositionUpdate) : PositionKey :=
  ⟨update.account, update.symbol, update.marginMode⟩

/-- The quantities kept for a key, `NaN` before the first report. -/
structure StoredPosition where
  longQuantity : Double
  shortQuantity : Double
  deriving DecidableEq

/-- A quantity as a report: `NaN` means "not reported". -/
def report (q : Double) : Option Double := if q.isnan then none else some q

/-- The consumer's reaction to an update: replace the quantities that it reports. -/
def consume (store : PositionKey → StoredPosition) (update : PositionUpdate) :
    PositionKey → StoredPosition :=
  Function.update store update.key
    { longQuantity := (report update.longQuantity).getD (store update.key).longQuantity
      shortQuantity :=
        (report update.shortQuantity).getD (store update.key).shortQuantity }

/-- The consumer after a list of updates. -/
def consumeAll (store : PositionKey → StoredPosition) (updates : List PositionUpdate) :
    PositionKey → StoredPosition :=
  updates.foldl consume store

/-- The report that an update makes on the quantity `f` of the key `key`. -/
def reportOn (key : PositionKey) (f : PositionUpdate → Double) (update : PositionUpdate) :
    Option Double :=
  if update.key = key then report (f update) else none

/-- A quantity that every update of a key replaces by its report is kept as last reported. -/
private theorem quantity_consumeAll (g : StoredPosition → Double) {f : PositionUpdate → Double}
    (hget : ∀ (store : PositionKey → StoredPosition) update,
      g (consume store update update.key) = (report (f update)).getD (g (store update.key)))
    (store : PositionKey → StoredPosition) (updates : List PositionUpdate) (key : PositionKey) :
    g (consumeAll store updates key) =
      settle (g (store key)) (updates.map (reportOn key f)) := by
  induction updates generalizing store with
  | nil => rfl
  | cons update updates ih =>
    rw [consumeAll, List.foldl_cons, ← consumeAll, ih, List.map_cons]
    by_cases hkey : update.key = key
    · subst hkey
      simp only [reportOn, ↓reduceIte, hget]
      rfl
    · simp [consume, reportOn, hkey, Function.update_of_ne (Ne.symm hkey)]

/-- The kept long quantity of a key is the one last reported for it. -/
theorem longQuantity_consumeAll (store : PositionKey → StoredPosition)
    (updates : List PositionUpdate) (key : PositionKey) :
    (consumeAll store updates key).longQuantity =
      settle (store key).longQuantity (updates.map (reportOn key (·.longQuantity))) :=
  quantity_consumeAll StoredPosition.longQuantity (by simp [consume]) store updates key

/-- The kept short quantity of a key is the one last reported for it. -/
theorem shortQuantity_consumeAll (store : PositionKey → StoredPosition)
    (updates : List PositionUpdate) (key : PositionKey) :
    (consumeAll store updates key).shortQuantity =
      settle (store key).shortQuantity (updates.map (reportOn key (·.shortQuantity))) :=
  quantity_consumeAll StoredPosition.shortQuantity (by simp [consume]) store updates key

/-! ## The legs of a message -/

/-- What an item says about a leg: the key it is kept by, the side and the quantity. -/
structure Leg where
  key : PositionKey
  posSide : Protocol.PosSide
  quantity : Double
  deriving DecidableEq

/-- The legs of a websocket message. -/
def positionLegs (stream : Stream) (position : Protocol.Position) : List Leg :=
  position.data.map fun item =>
    ⟨⟨stream.account, item.symbol, Protocol.mapMarginMode item.marginMode⟩, item.posSide,
      item.size⟩

/-- The legs of a REST answer. -/
def currentPositionsAckLegs (stream : Stream) (ack : Protocol.CurrentPositionsAck) : List Leg :=
  ack.list.map fun item =>
    ⟨⟨stream.account, item.symbol, Protocol.mapMarginMode item.marginMode⟩, item.posSide,
      item.total⟩

/-- Hedge mode: every item is a long or a short leg, and no leg of a key occurs twice. -/
structure HedgeMode (legs : List Leg) : Prop where
  sides : ∀ leg ∈ legs, leg.posSide = .long ∨ leg.posSide = .short
  unique : (legs.map fun leg => (leg.key, leg.posSide)).Nodup

/-- Whatever the consumer kept before, it keeps the quantity of every leg afterwards. -/
def LegsSurvive (legs : List Leg) (updates : List PositionUpdate) : Prop :=
  ∀ (store : PositionKey → StoredPosition), ∀ leg ∈ legs,
    (leg.posSide = .long → (consumeAll store updates leg.key).longQuantity = leg.quantity) ∧
      (leg.posSide = .short → (consumeAll store updates leg.key).shortQuantity = leg.quantity)

/-- Every leg has a quantity, and a leg that the other leg of its key follows has quantity
zero. -/
structure Undisturbed (legs : List Leg) : Prop where
  reported : ∀ leg ∈ legs, leg.quantity.isnan = false
  followed : legs.Pairwise fun leg later => leg.key = later.key → leg.quantity = .zero

/-- Both handlers publish one update for each leg, with the other quantity zero. -/
def Publishes (legs : List Leg) (updates : List PositionUpdate) : Prop :=
  (updates.map fun update => (update.key, update.longQuantity, update.shortQuantity)) =
    legs.map fun leg =>
      (leg.key, legQuantity leg.posSide leg.quantity .long,
        legQuantity leg.posSide leg.quantity .short)

theorem publishes_onPosition (stream : Stream) (position : Protocol.Position) :
    Publishes (positionLegs stream position) (onPosition stream position) := by
  simp [Publishes, positionLegs, onPosition, PositionUpdate.key, Function.comp_def]

theorem publishes_onCurrentPositionsAck (stream : Stream) (ack : Protocol.CurrentPositionsAck) :
    Publishes (currentPositionsAckLegs stream ack) (onCurrentPositionsAck stream ack) := by
  simp [Publishes, currentPositionsAckLegs, onCurrentPositionsAck, PositionUpdate.key,
    Function.comp_def]

/-- The report that a leg makes on one side of a key. -/
def Leg.reportOn (side : Protocol.PosSide) (key : PositionKey) (leg : Leg) : Option Double :=
  if leg.key = key then report (legQuantity leg.posSide leg.quantity side) else none

/-- The reports of the updates are the reports of the legs they are published for. -/
theorem Publishes.reports {legs : List Leg} {updates : List PositionUpdate}
    (h : Publishes legs updates) (key : PositionKey) :
    updates.map (Gateway.reportOn key (·.longQuantity)) = legs.map (Leg.reportOn .long key) ∧
      updates.map (Gateway.reportOn key (·.shortQuantity)) =
        legs.map (Leg.reportOn .short key) := by
  have hlong := congrArg (List.map fun (k, l, _) =>
    if k = key then report l else none) h
  have hshort := congrArg (List.map fun (k, _, q) =>
    if k = key then report q else none) h
  simp only [List.map_map] at hlong hshort
  exact ⟨hlong, hshort⟩

/-- **What the message leaves of a leg.** In hedge mode, with all quantities reported, the
reports on the side of a leg settle on `0.0` if the other leg of its key comes later in the
list, and on the quantity of the leg otherwise. -/
theorem settle_leg {pre post : List Leg} {leg : Leg} (hmode : HedgeMode (pre ++ leg :: post))
    (hreported : ∀ l ∈ pre ++ leg :: post, l.quantity.isnan = false) (v : Double) :
    settle v ((pre ++ leg :: post).map (Leg.reportOn leg.posSide leg.key)) =
      if ∃ later ∈ post, leg.key = later.key then .zero else leg.quantity := by
  have hown : leg.reportOn leg.posSide leg.key = some leg.quantity := by
    simp [Leg.reportOn, legQuantity, report, hreported leg (by simp)]
  -- a later leg of the key is the other leg, and reports `0.0` on this side
  have hlater : ∀ later ∈ post, later.reportOn leg.posSide leg.key =
      if leg.key = later.key then some .zero else none := by
    intro later hmem
    by_cases hkey : leg.key = later.key
    · have hside : later.posSide ≠ leg.posSide := by
        intro hside
        have hnd := hmode.unique
        rw [List.map_append, List.map_cons] at hnd
        refine (List.nodup_cons.mp (List.nodup_append.mp hnd).2.1).1 ?_
        exact List.mem_map.mpr ⟨later, hmem, by rw [hkey, hside]⟩
      simp [Leg.reportOn, legQuantity, report, hkey, hside]
    · simp [Leg.reportOn, hkey, Ne.symm hkey]
  rw [List.map_append, List.map_cons, hown, settle_append_cons (z := .zero)]
  · congr 1
    simp only [List.mem_map, eq_iff_iff]
    constructor
    · rintro ⟨later, hmem, hrep⟩
      refine ⟨later, hmem, ?_⟩
      by_contra hkey
      rw [hlater later hmem, if_neg hkey] at hrep
      exact absurd hrep (by simp)
    · rintro ⟨later, hmem, hkey⟩
      exact ⟨later, hmem, by rw [hlater later hmem, if_pos hkey]⟩
  · intro r hr
    obtain ⟨later, hmem, rfl⟩ := List.mem_map.mp hr
    rw [hlater later hmem]
    split <;> simp

section Survive

variable {legs : List Leg} {updates : List PositionUpdate} (hpub : Publishes legs updates)

include hpub in
/-- The long quantity kept for a long leg. -/
private theorem kept_long (store : PositionKey → StoredPosition) {leg : Leg}
    (hside : leg.posSide = .long) : (consumeAll store updates leg.key).longQuantity =
      settle (store leg.key).longQuantity (legs.map (Leg.reportOn leg.posSide leg.key)) := by
  rw [longQuantity_consumeAll, (hpub.reports leg.key).1, hside]

include hpub in
/-- The short quantity kept for a short leg. -/
private theorem kept_short (store : PositionKey → StoredPosition) {leg : Leg}
    (hside : leg.posSide = .short) : (consumeAll store updates leg.key).shortQuantity =
      settle (store leg.key).shortQuantity (legs.map (Leg.reportOn leg.posSide leg.key)) := by
  rw [shortQuantity_consumeAll, (hpub.reports leg.key).2, hside]

include hpub in
/-- The legs survive exactly when the reports on every leg settle on its quantity. -/
private theorem legsSurvive_iff_settle (hmode : HedgeMode legs) :
    LegsSurvive legs updates ↔
      ∀ leg ∈ legs, ∀ v, settle v (legs.map (Leg.reportOn leg.posSide leg.key)) =
        leg.quantity := by
  constructor
  · intro h leg hmem v
    obtain ⟨hlong, hshort⟩ := h (fun _ => ⟨v, v⟩) leg hmem
    rcases hmode.sides leg hmem with hside | hside
    · rw [← hlong hside, kept_long hpub _ hside]
    · rw [← hshort hside, kept_short hpub _ hside]
  · intro h store leg hmem
    constructor
    · intro hside
      rw [kept_long hpub store hside, h leg hmem]
    · intro hside
      rw [kept_short hpub store hside, h leg hmem]

include hpub in
/-- If the legs survive, every leg has a quantity: the consumer never stores a `NaN` over a
number. -/
private theorem reported_of_legsSurvive (hmode : HedgeMode legs)
    (h : LegsSurvive legs updates) : ∀ leg ∈ legs, leg.quantity.isnan = false := by
  intro leg hmem
  rw [← (legsSurvive_iff_settle hpub hmode).mp h leg hmem .zero]
  refine settle_of_mem (P := fun q => Double.isnan q = false) rfl ?_
  intro x hx
  obtain ⟨later, -, hrep⟩ := List.mem_map.mp hx
  simp only [Leg.reportOn, report] at hrep
  split at hrep
  · split at hrep
    · simp at hrep
    · simp_all
  · simp at hrep

include hpub in
/-- **When the legs of a hedge-mode message survive**: exactly when every leg has a quantity
and no leg with a nonzero quantity is followed by the other leg of its key.

**Proof sketch.** The reports on a leg settle on `0.0` if the other leg comes later and on
its own quantity otherwise (`settle_leg`), so a leg survives iff its quantity is zero or the
other leg does not follow. -/
theorem legsSurvive_iff (hmode : HedgeMode legs) :
    LegsSurvive legs updates ↔ Undisturbed legs := by
  constructor
  · intro h
    have hreported := reported_of_legsSurvive hpub hmode h
    refine ⟨hreported, ?_⟩
    -- induction on the part of the list from a position on
    have hsuffix : ∀ pre post, legs = pre ++ post →
        post.Pairwise fun leg later => leg.key = later.key → leg.quantity = .zero := by
      intro pre post
      induction post generalizing pre with
      | nil => simp
      | cons leg post ih =>
        intro hsplit
        refine List.pairwise_cons.mpr ⟨?_, ih (pre ++ [leg]) (by simp [hsplit])⟩
        intro later hlater hkey
        have hkept := (legsSurvive_iff_settle hpub hmode).mp h leg (by simp [hsplit]) .zero
        rw [hsplit] at hmode hreported
        rw [hsplit, settle_leg hmode hreported, if_pos ⟨later, hlater, hkey⟩] at hkept
        exact hkept.symm
    exact hsuffix [] legs rfl
  · intro h
    refine (legsSurvive_iff_settle hpub hmode).mpr fun leg hmem v => ?_
    obtain ⟨pre, post, rfl⟩ := List.append_of_mem hmem
    rw [settle_leg hmode h.reported]
    have hfollowed := (List.pairwise_cons.mp (List.pairwise_append.mp h.followed).2.1).1
    split_ifs with hlater
    · obtain ⟨later, hlater, hkey⟩ := hlater
      exact (hfollowed later hlater hkey).symm
    · rfl

end Survive

/-! ## The two handlers -/

/-- **Hedge-mode positions survive translation exactly when they are undisturbed**, for the
websocket message and for the REST answer alike. -/
theorem hedge_positions_survive_iff (stream : Stream) :
    (∀ position : Protocol.Position, HedgeMode (positionLegs stream position) →
      (LegsSurvive (positionLegs stream position) (onPosition stream position) ↔
        Undisturbed (positionLegs stream position))) ∧
    (∀ ack : Protocol.CurrentPositionsAck, HedgeMode (currentPositionsAckLegs stream ack) →
      (LegsSurvive (currentPositionsAckLegs stream ack) (onCurrentPositionsAck stream ack) ↔
        Undisturbed (currentPositionsAckLegs stream ack))) :=
  ⟨fun position => legsSurvive_iff (publishes_onPosition stream position),
    fun ack => legsSurvive_iff (publishes_onCurrentPositionsAck stream ack)⟩

/-- A snapshot of one symbol whose short leg is flat and comes first. -/
def flatShortFirst : Protocol.Position where
  action := .snapshot
  data :=
    [⟨"BTCUSDT", .crossed, .short, .value 0, ⟨1758185294053⟩⟩,
      ⟨"BTCUSDT", .crossed, .long, .value 5, ⟨1758185294053⟩⟩]
  ts := ⟨1758186381497⟩

/-- Both legs of `flatShortFirst` survive. -/
theorem flatShortFirst_survives :
    LegsSurvive (positionLegs ⟨3, "A1", "bitget"⟩ flatShortFirst)
      (onPosition ⟨3, "A1", "bitget"⟩ flatShortFirst) :=
  ((hedge_positions_survive_iff ⟨3, "A1", "bitget"⟩).1 flatShortFirst
    ⟨by decide, by decide⟩).mpr ⟨by decide, by decide⟩

/-- A snapshot of both legs of one symbol: long `5`, then short `3`. -/
def bothLegs : Protocol.Position where
  action := .snapshot
  data :=
    [⟨"BTCUSDT", .crossed, .long, .value 5, ⟨1758185294053⟩⟩,
      ⟨"BTCUSDT", .crossed, .short, .value 3, ⟨1758185294053⟩⟩]
  ts := ⟨1758186381497⟩

/-- The snapshot `bothLegs` is in hedge mode, and its long leg does not survive. -/
theorem bothLegs_long_lost :
    HedgeMode (positionLegs ⟨3, "A1", "bitget"⟩ bothLegs) ∧
      ¬ LegsSurvive (positionLegs ⟨3, "A1", "bitget"⟩ bothLegs)
        (onPosition ⟨3, "A1", "bitget"⟩ bothLegs) := by
  refine ⟨⟨by decide, by decide⟩, fun h => ?_⟩
  have hlong := (h (fun _ => ⟨.nan, .nan⟩) ⟨⟨"A1", "BTCUSDT", .cross⟩, .long, .value 5⟩
    (by decide)).1 rfl
  revert hlong
  decide

end RoqBitget.Gateway
