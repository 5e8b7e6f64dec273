import RoqBitget.Api
import RoqBitget.Protocol.Schema

set_option relaxedAutoImplicit false
set_option autoImplicit false

/-!
# Mapping between the schema and the API

The conversions of `map.cpp` that the modelled functions use. Inbound conversions are total:
the switch of each covers every enumerator, and the `return {}` after it is not reached. The
outbound conversions are used through `get`, which throws on an empty optional, so they keep
the optional of the source.

## Main definitions

* `RoqBitget.Protocol.mapAction`, `mapMarginMode`, `mapSide`, … — from the schema to the API.
* `RoqBitget.Protocol.helperSide`, `helperPosSide`, … — from the API to the schema.
* `RoqBitget.Protocol.get` — the value of an outbound conversion, or an exception.
-/

namespace RoqBitget.Protocol

/-! ## From the schema to the API -/

/-- `Action => UpdateType`. -/
def mapAction : Action → RoqBitget.UpdateType
  | .undefinedInternal => .undefined
  | .unknownInternal => .undefined
  | .snapshot => .snapshot
  | .update => .incremental

/-- The futures of `{Category, FuturesType} => SecurityType`. -/
def mapFuturesType : FuturesType → RoqBitget.SecurityType
  | .undefinedInternal => .undefined
  | .unknownInternal => .undefined
  | .perpetual => .swap
  | .delivery => .futures

/-- `{Category, FuturesType} => SecurityType`. -/
def mapCategory : Category → FuturesType → RoqBitget.SecurityType
  | .undefinedInternal, _ => .undefined
  | .unknownInternal, _ => .undefined
  | .spot, _ => .spot
  | .margin, _ => .spot
  | .usdtFutures, type => mapFuturesType type
  | .usdtFutures2, type => mapFuturesType type
  | .usdcFutures, type => mapFuturesType type
  | .coinFutures, type => mapFuturesType type

/-- `TradingStatus => TradingStatus`. -/
def mapTradingStatus : TradingStatus → RoqBitget.TradingStatus
  | .undefinedInternal => .undefined
  | .unknownInternal => .undefined
  | .listed => .undefined
  | .online => .«open»
  | .limitOpen => .preOpen
  | .limitClose => .close
  | .offline => .close
  | .restrictedApi => .halt

/-- `MarginMode => MarginMode`. -/
def mapMarginMode : MarginMode → RoqBitget.MarginMode
  | .undefinedInternal => .undefined
  | .unknownInternal => .undefined
  | .crossed => .cross
  | .isolated => .isolated

/-- `OrderStatus => OrderStatus`. -/
def mapOrderStatus : OrderStatus → RoqBitget.OrderStatus
  | .undefinedInternal => .undefined
  | .unknownInternal => .undefined
  | .live => .working
  | .new => .working
  | .partiallyFilled => .working
  | .filled => .completed
  | .cancelled => .canceled

/-- `OrderType => OrderType`. -/
def mapOrderType : OrderType → RoqBitget.OrderType
  | .undefinedInternal => .undefined
  | .unknownInternal => .undefined
  | .market => .market
  | .limit => .limit

/-- `{PosSide, Side} => PositionEffect`. -/
def mapPosSide : PosSide → Side → RoqBitget.PositionEffect
  | .undefinedInternal, _ => .undefined
  | .unknownInternal, _ => .undefined
  | .long, .undefinedInternal => .undefined
  | .long, .unknownInternal => .undefined
  | .long, .buy => .«open»
  | .long, .sell => .close
  | .short, .undefinedInternal => .undefined
  | .short, .unknownInternal => .undefined
  | .short, .buy => .close
  | .short, .sell => .«open»
  | .net, _ => .undefined

/-- `Side => Side`. -/
def mapSide : Side → RoqBitget.Side
  | .undefinedInternal => .undefined
  | .unknownInternal => .undefined
  | .buy => .buy
  | .sell => .sell

/-- `TimeInForce => TimeInForce`. -/
def mapTimeInForce : TimeInForce → RoqBitget.TimeInForce
  | .undefinedInternal => .undefined
  | .unknownInternal => .undefined
  | .ioc => .ioc
  | .fok => .fok
  | .gtc => .gtc
  | .postOnly => .gtc

/-- `TradeScope => Liquidity`. -/
def mapTradeScope : TradeScope → RoqBitget.Liquidity
  | .undefinedInternal => .undefined
  | .unknownInternal => .undefined
  | .taker => .taker
  | .maker => .maker

/-- `TradeSide => PositionEffect`. -/
def mapTradeSide : TradeSide → RoqBitget.PositionEffect
  | .undefinedInternal => .undefined
  | .unknownInternal => .undefined
  | .close => .close
  | .«open» => .«open»
  | .reduceCloseLong => .close
  | .reduceCloseShort => .close
  | .burstCloseLong => .close
  | .burstCloseShort => .close
  | .offsetCloseLong => .close
  | .offsetCloseShort => .close
  | .deliveryCloseLong => .close
  | .deliveryCloseShort => .close
  | .dteSysAdlCloseLong => .close
  | .dteSysAdlCloseShort => .close
  | .buySingle => .undefined
  | .sellSingle => .undefined
  | .reduceBuySingle => .undefined
  | .reduceSellSingle => .undefined
  | .burstBuySingle => .undefined
  | .burstSellSingle => .undefined
  | .deliverySellSingle => .undefined
  | .deliveryBuySingle => .undefined
  | .dteSysAdlBuyInSingleSideMode => .undefined
  | .dteSysAdlSellInSingleSideMode => .undefined
  | .openShort => .«open»
  | .openLong => .«open»
  | .closeShort => .close
  | .closeLong => .close

/-! ## From the API to the schema -/

/-- `OrderType => OrderType`. -/
def helperOrderType : RoqBitget.OrderType → Option OrderType
  | .undefined => some .undefinedInternal
  | .market => some .market
  | .limit => some .limit

/-- `{PositionEffect, Side} => PosSide`. -/
def helperPosSide : RoqBitget.PositionEffect → RoqBitget.Side → Option PosSide
  | .undefined, _ => some .undefinedInternal
  | .«open», .undefined => some .undefinedInternal
  | .«open», .buy => some .long
  | .«open», .sell => some .short
  | .close, .undefined => some .undefinedInternal
  | .close, .buy => some .short
  | .close, .sell => some .long

/-- `Side => Side`. -/
def helperSide : RoqBitget.Side → Option Side
  | .undefined => some .undefinedInternal
  | .buy => some .buy
  | .sell => some .sell

/-- `TimeInForce => TimeInForce`. -/
def helperTimeInForce : RoqBitget.TimeInForce → Option TimeInForce
  | .undefined => some .undefinedInternal
  | .gfd => some .undefinedInternal
  | .gtc => some .gtc
  | .opg => some .undefinedInternal
  | .ioc => some .ioc
  | .fok => some .fok
  | .gtx => some .undefinedInternal
  | .gtd => some .undefinedInternal
  | .atTheClose => some .undefinedInternal
  | .goodThroughCrossing => some .undefinedInternal
  | .atCrossing => some .undefinedInternal
  | .goodForTime => some .undefinedInternal
  | .gfa => some .undefinedInternal
  | .gfm => some .undefinedInternal

/-- The exception of a conversion without a value. -/
inductive MapError
  | unexpected
  deriving DecidableEq

/-- `Map::get`: the converted value, or an exception when there is none. -/
def get {α : Type} : Option α → Except MapError α
  | some v => .ok v
  | none => .error .unexpected

end RoqBitget.Protocol
