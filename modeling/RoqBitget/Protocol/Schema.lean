import Mathlib.Data.List.Nodup

set_option relaxedAutoImplicit false
set_option autoImplicit false

/-!
# The enumerations of the exchange's schema

The wire enumerations declared by the schema files of `protocol/json`. Every generated type
has two internal values beside the declared ones: `UNDEFINED_INTERNAL` (no text) and
`UNKNOWN_INTERNAL` (a text the schema does not list). The declared values have a raw text.

## Main definitions

* `RoqBitget.Protocol.RawText` — the table of raw texts of an enumeration.
* `RoqBitget.Protocol.asRawText`, `RoqBitget.Protocol.fromRawText` — writing and reading a
  value through its table.

## Main results

* `RoqBitget.Protocol.fromRawText_asRawText` — a declared value is read back from the text that
  is written for it.
-/

namespace RoqBitget.Protocol

/-- The declared values of an enumeration with their raw texts. -/
class RawText (α : Type) where
  /-- One row for each value of the schema file. -/
  table : List (α × String)
  /-- No value is declared twice. -/
  values_nodup : (table.map Prod.fst).Nodup
  /-- No text is declared twice. -/
  texts_nodup : (table.map Prod.snd).Nodup

section RawText

variable {α : Type} [RawText α]

/-- `as_raw_text`: the declared text, or `internal` for the two internal values. -/
def asRawText [DecidableEq α] (internal : String) (v : α) : String :=
  ((RawText.table.find? fun row : α × String => row.1 = v).map Prod.snd).getD internal

/-- The declared value with a given raw text. -/
def fromRawText (text : String) : Option α :=
  (RawText.table.find? fun row : α × String => row.2 = text).map Prod.fst

/-- In a list without repeated keys, every element is the one found under its key. -/
private theorem find?_key_of_mem {β γ : Type} [DecidableEq γ] (key : β → γ) {l : List β} {x : β}
    (hnd : (l.map key).Nodup) (hx : x ∈ l) : l.find? (fun y => key y = key x) = some x := by
  induction l with
  | nil => simp at hx
  | cons y l ih =>
    rw [List.map_cons, List.nodup_cons] at hnd
    rcases List.mem_cons.mp hx with rfl | hx
    · simp
    · have hne : key y ≠ key x := fun heq => hnd.1 (heq ▸ List.mem_map_of_mem hx)
      simp [hne, ih hnd.2 hx]

/-- A declared value is written as its declared text. -/
theorem asRawText_of_mem [DecidableEq α] (internal : String) {v : α} {text : String}
    (h : (v, text) ∈ RawText.table (α := α)) : asRawText internal v = text := by
  have hfind := find?_key_of_mem (fun row : α × String => row.1) RawText.values_nodup h
  simp only [asRawText, hfind]
  rfl

/-- A declared text is read as its declared value. -/
theorem fromRawText_of_mem {v : α} {text : String} (h : (v, text) ∈ RawText.table (α := α)) :
    fromRawText text = some v := by
  have hfind := find?_key_of_mem (fun row : α × String => row.2) RawText.texts_nodup h
  simp only [fromRawText, hfind]
  rfl

/-- **Round trip.** A declared value is read back from the text that is written for it. -/
theorem fromRawText_asRawText [DecidableEq α] (internal : String) {v : α}
    (h : v ∈ (RawText.table (α := α)).map Prod.fst) :
    fromRawText (asRawText internal v) = some v := by
  obtain ⟨row, hrow, rfl⟩ := List.mem_map.mp h
  rw [asRawText_of_mem internal hrow, fromRawText_of_mem hrow]

/-- A text that the schema does not declare is read as no value. -/
theorem fromRawText_of_notMem {text : String}
    (h : text ∉ (RawText.table (α := α)).map Prod.snd) : fromRawText (α := α) text = none := by
  simp only [fromRawText, Option.map_eq_none_iff, List.find?_eq_none, decide_eq_true_eq]
  intro row hrow heq
  exact h (heq ▸ List.mem_map_of_mem hrow)

end RawText

/-! ## The declared enumerations -/

/-- `action.json`. -/
inductive Action
  | undefinedInternal
  | unknownInternal
  | snapshot
  | update
  deriving DecidableEq

/-- `category.json`. -/
inductive Category
  | undefinedInternal
  | unknownInternal
  | spot
  | margin
  | usdtFutures
  | usdtFutures2
  | usdcFutures
  | coinFutures
  deriving DecidableEq

/-- `futures_type.json`. -/
inductive FuturesType
  | undefinedInternal
  | unknownInternal
  | perpetual
  | delivery
  deriving DecidableEq

/-- `trading_status.json`. -/
inductive TradingStatus
  | undefinedInternal
  | unknownInternal
  | listed
  | online
  | limitOpen
  | limitClose
  | offline
  | restrictedApi
  deriving DecidableEq

/-- `margin_mode.json`. -/
inductive MarginMode
  | undefinedInternal
  | unknownInternal
  | crossed
  | isolated
  deriving DecidableEq

/-- `pos_side.json`. -/
inductive PosSide
  | undefinedInternal
  | unknownInternal
  | long
  | short
  | net
  deriving DecidableEq

/-- `side.json`. -/
inductive Side
  | undefinedInternal
  | unknownInternal
  | buy
  | sell
  deriving DecidableEq

/-- `order_status.json`. -/
inductive OrderStatus
  | undefinedInternal
  | unknownInternal
  | live
  | new
  | partiallyFilled
  | filled
  | cancelled
  deriving DecidableEq

/-- `order_type.json`. -/
inductive OrderType
  | undefinedInternal
  | unknownInternal
  | market
  | limit
  deriving DecidableEq

/-- `time_in_force.json`. -/
inductive TimeInForce
  | undefinedInternal
  | unknownInternal
  | ioc
  | fok
  | gtc
  | postOnly
  deriving DecidableEq

/-- `trade_scope.json`. -/
inductive TradeScope
  | undefinedInternal
  | unknownInternal
  | taker
  | maker
  deriving DecidableEq

/-- `trade_side.json`. -/
inductive TradeSide
  | undefinedInternal
  | unknownInternal
  | close
  | «open»
  | reduceCloseLong
  | reduceCloseShort
  | burstCloseLong
  | burstCloseShort
  | offsetCloseLong
  | offsetCloseShort
  | deliveryCloseLong
  | deliveryCloseShort
  | dteSysAdlCloseLong
  | dteSysAdlCloseShort
  | buySingle
  | sellSingle
  | reduceBuySingle
  | reduceSellSingle
  | burstBuySingle
  | burstSellSingle
  | deliverySellSingle
  | deliveryBuySingle
  | dteSysAdlBuyInSingleSideMode
  | dteSysAdlSellInSingleSideMode
  | openShort
  | openLong
  | closeShort
  | closeLong
  deriving DecidableEq

/-! The raw texts of the enumerations that the encoders write. -/

instance : RawText PosSide where
  table := [(.long, "long"), (.short, "short"), (.net, "net")]
  values_nodup := by decide
  texts_nodup := by decide

instance : RawText Side where
  table := [(.buy, "buy"), (.sell, "sell")]
  values_nodup := by decide
  texts_nodup := by decide

instance : RawText OrderType where
  table := [(.market, "market"), (.limit, "limit")]
  values_nodup := by decide
  texts_nodup := by decide

instance : RawText TimeInForce where
  table := [(.ioc, "ioc"), (.fok, "fok"), (.gtc, "gtc"), (.postOnly, "post_only")]
  values_nodup := by decide
  texts_nodup := by decide

end RoqBitget.Protocol
