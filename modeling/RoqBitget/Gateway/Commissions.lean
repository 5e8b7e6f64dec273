import Mathlib.Algebra.BigOperators.Group.List.Basic
import RoqBitget.Gateway.Fills

set_option relaxedAutoImplicit false
set_option autoImplicit false

/-!
# The commission of a fill

The exchange reports the fees of a fill as a list, and each fee names the coin that it was
charged in. The gateway reports one amount and one currency. Its loop adds up the fees of all
coins and names the first of them, so that the amount is in that currency just when the fees of
the other coins cancel out.

## Main definitions

* `RoqBitget.Gateway.firstCoin` — the currency of a fill.
* `RoqBitget.Gateway.ownFees`, `foreignFees` — the reported fees in that currency, and in others.
* `RoqBitget.Gateway.InItsCurrency` — the amount of a fill is in its currency.

## Main results

* `RoqBitget.Gateway.inItsCurrency_iff` — when an item is mapped to such a fill.
* `RoqBitget.Gateway.foreignFees_of_oneCoin` — fees in one coin are not foreign.
* `RoqBitget.Gateway.dispatched_inItsCurrency_iff` — the same for what the handlers dispatch.
* `RoqBitget.Gateway.twoCoins_mixed` — a fill that both handlers report wrongly.
-/

namespace RoqBitget.Gateway

/-! ## Own and foreign fees -/

/-- The first coin that is named, or nothing. -/
def firstCoin (feeDetail : List Protocol.FeeDetailItem) : String :=
  ((feeDetail.map Protocol.FeeDetailItem.feeCoin).find? (· ≠ "")).getD ""

/-- A fee counts as one in `coin` if it names this coin or none. -/
def chargedIn (coin : String) (item : Protocol.FeeDetailItem) : Bool :=
  item.feeCoin = "" ∨ item.feeCoin = coin

/-- The reported fees that are charged in the first coin. -/
def ownFees (feeDetail : List Protocol.FeeDetailItem) : List ℚ :=
  reportedFees (feeDetail.filter (chargedIn (firstCoin feeDetail)))

/-- The reported fees that are charged in other coins. -/
def foreignFees (feeDetail : List Protocol.FeeDetailItem) : List ℚ :=
  reportedFees (feeDetail.filter fun item => !chargedIn (firstCoin feeDetail) item)

/-- The commission of `fill` is in the currency it names: this is the first coin of `feeDetail`,
and the amount is the sum of what was charged in it. -/
structure InItsCurrency (feeDetail : List Protocol.FeeDetailItem) (fill : Fill) : Prop where
  currency : fill.commissionCurrency = firstCoin feeDetail
  amount : fill.commissionAmount = .value (ownFees feeDetail).sum

/-- All reported fees are the own ones and the foreign ones. -/
theorem sum_reportedFees (feeDetail : List Protocol.FeeDetailItem) :
    (reportedFees feeDetail).sum = (ownFees feeDetail).sum + (foreignFees feeDetail).sum := by
  have hperm := List.filter_append_perm (chargedIn (firstCoin feeDetail)) feeDetail
  calc (reportedFees feeDetail).sum
      = (reportedFees (feeDetail.filter (chargedIn (firstCoin feeDetail)) ++
          feeDetail.filter fun item => !chargedIn (firstCoin feeDetail) item)).sum :=
        (hperm.filterMap _).sum_eq.symm
    _ = (ownFees feeDetail ++ foreignFees feeDetail).sum := by
        rw [reportedFees, List.filterMap_append]
        rfl
    _ = (ownFees feeDetail).sum + (foreignFees feeDetail).sum := List.sum_append

/-- **When a commission is in its currency**: the foreign fees cancel out. -/
theorem inItsCurrency_iff (item : FillItem) :
    InItsCurrency item.feeDetail item.fill ↔ (foreignFees item.feeDetail).sum = 0 := by
  have hamount : item.fill.commissionAmount = .value (ownFees item.feeDetail).sum ↔
      (foreignFees item.feeDetail).sum = 0 := by
    rw [commission_amount, sum_reportedFees, Double.value.injEq, add_eq_left]
  exact ⟨fun h => hamount.mp h.amount, fun h => ⟨commission_currency item, hamount.mpr h⟩⟩

/-- If no fee names another coin than `coin` and one names it, it is the first coin. -/
theorem firstCoin_eq {feeDetail : List Protocol.FeeDetailItem} {coin : String}
    (h : ∀ fee ∈ feeDetail, fee.feeCoin = "" ∨ fee.feeCoin = coin)
    {fee : Protocol.FeeDetailItem} (hfee : fee ∈ feeDetail) (hne : fee.feeCoin ≠ "") :
    firstCoin feeDetail = coin := by
  unfold firstCoin
  cases hfind : (feeDetail.map Protocol.FeeDetailItem.feeCoin).find? (· ≠ "") with
  | none =>
    have hempty := List.find?_eq_none.mp hfind _ (List.mem_map_of_mem hfee)
    simp [hne] at hempty
  | some coin' =>
    obtain ⟨fee', hfee', rfl⟩ := List.mem_map.mp (List.mem_of_find?_eq_some hfind)
    have hne' : fee'.feeCoin ≠ "" := by simpa using List.find?_some hfind
    exact (h fee' hfee').resolve_left hne'

/-- If no fee names another coin, none is foreign. -/
theorem foreignFees_of_oneCoin {feeDetail : List Protocol.FeeDetailItem} {coin : String}
    (h : ∀ fee ∈ feeDetail, fee.feeCoin = "" ∨ fee.feeCoin = coin) :
    foreignFees feeDetail = [] := by
  have hforeign : feeDetail.filter (fun fee => !chargedIn (firstCoin feeDetail) fee) = [] := by
    refine List.filter_eq_nil_iff.mpr fun fee hfee => ?_
    by_cases hne : fee.feeCoin = ""
    · simp [chargedIn, hne]
    · simp [chargedIn, firstCoin_eq h hfee hne, (h fee hfee).resolve_left hne]
  rw [foreignFees, hforeign]
  rfl

/-! ## What the handlers dispatch -/

/-- Every item has its own fill among the ones that are dispatched, in order. -/
theorem dispatched_inItsCurrency (header : TradeHeader) (shared : Shared)
    (items : List FillItem) :
    List.Forall₂ (fun item dispatched =>
        InItsCurrency item.feeDetail dispatched ↔ (foreignFees item.feeDetail).sum = 0)
      items ((dispatchTrades header shared items).1.flatMap TradeUpdate.fills) := by
  rw [(groupedUpdates_dispatchTrades header shared items).concat, List.forall₂_map_right_iff]
  exact List.forall₂_same.mpr fun item _ => inItsCurrency_iff item

/-- **The commission of a fill is in its currency just when the foreign fees cancel out**, over
the websocket and over REST, for every item of every message. They do if no fee names a second
coin. -/
theorem dispatched_inItsCurrency_iff (stream : Stream) (shared : Shared) (fill : Protocol.Fill)
    (ack : Protocol.TradeFillsAck) :
    List.Forall₂ (fun (item : Protocol.FillDataItem) dispatched =>
        InItsCurrency item.feeDetail dispatched ↔ (foreignFees item.feeDetail).sum = 0)
      fill.data ((onFill stream shared fill).1.flatMap TradeUpdate.fills) ∧
    List.Forall₂ (fun (item : Protocol.TradeFillsAckDataListItem) dispatched =>
        InItsCurrency item.feeDetail dispatched ↔ (foreignFees item.feeDetail).sum = 0)
      ack.list ((onTradeFillsAck stream shared ack).1.flatMap TradeUpdate.fills) ∧
    ∀ (feeDetail : List Protocol.FeeDetailItem) (coin : String),
      (∀ fee ∈ feeDetail, fee.feeCoin = "" ∨ fee.feeCoin = coin) →
        (foreignFees feeDetail).sum = 0 := by
  have hfill := dispatched_inItsCurrency
    ⟨stream, Protocol.mapAction fill.action, fill.ts.toNanoseconds⟩ shared
    (fill.data.map fillDataItem)
  have hack := dispatched_inItsCurrency ⟨stream, .snapshot, ack.requestTime.toNanoseconds⟩ shared
    (ack.list.map tradeFillsAckItem)
  rw [List.forall₂_map_left_iff] at hfill hack
  refine ⟨hfill, hack, fun feeDetail coin hone => ?_⟩
  rw [foreignFees_of_oneCoin hone, List.sum_nil]

/-- A fill with a fee in the quote currency and another in a coin of the exchange, as both
handlers get it. -/
def twoCoins : List Protocol.FeeDetailItem := [⟨"USDT", .value (-60)⟩, ⟨"BGB", .value (-1)⟩]

/-- The fee in the other coin does not cancel out. -/
theorem not_inItsCurrency {item : FillItem} (h : item.feeDetail = twoCoins) :
    ¬InItsCurrency twoCoins item.fill := by
  have hforeign : foreignFees twoCoins = [-1] := by decide
  rw [← h, inItsCurrency_iff, h, hforeign, List.sum_singleton]
  decide

/-- The handlers do not report every commission in its currency: of a fill with fees in two
coins they add up both. -/
theorem twoCoins_mixed :
    (¬ ∀ (stream : Stream) (shared : Shared) (fill : Protocol.Fill),
      List.Forall₂ (fun (item : Protocol.FillDataItem) dispatched =>
        InItsCurrency item.feeDetail dispatched)
        fill.data ((onFill stream shared fill).1.flatMap TradeUpdate.fills)) ∧
    ¬ ∀ (stream : Stream) (shared : Shared) (ack : Protocol.TradeFillsAck),
      List.Forall₂ (fun (item : Protocol.TradeFillsAckDataListItem) dispatched =>
        InItsCurrency item.feeDetail dispatched)
        ack.list ((onTradeFillsAck stream shared ack).1.flatMap TradeUpdate.fills) := by
  constructor
  · intro h
    have hitems := h ⟨3, "A1", "bitget"⟩ ⟨[]⟩ { oneFill with
      data := oneFill.data.map fun item => { item with feeDetail := twoCoins } }
    exact not_inItsCurrency rfl (List.forall₂_cons.mp hitems).1
  · intro h
    have hitems := h ⟨2, "A1", "bitget"⟩ ⟨[]⟩ { oneTradeFill with
      list := oneTradeFill.list.map fun item => { item with feeDetail := twoCoins } }
    exact not_inItsCurrency rfl (List.forall₂_cons.mp hitems).1

end RoqBitget.Gateway
