import Mathlib.Data.Finset.Insert
import Mathlib.Data.Rat.Defs
import Mathlib.Data.Int.Order.Basic

set_option relaxedAutoImplicit false
set_option autoImplicit false

/-!
# The types of the `roq` API

The enumerations and scalar types that the gateway exchanges with the `roq` server. Only the
enumerators and fields that the modelled functions read or write are listed.

## Main definitions

* `RoqBitget.Double` — a decimal number or `NaN`, the API's "not reported".
* `RoqBitget.Milliseconds` — a wire time; the gateway works in nanoseconds.
* `RoqBitget.Side`, `RoqBitget.OrderType`, `RoqBitget.TimeInForce`, … — enumerations.

## Implementation notes

A `double` of the source is only copied, tested with `std::isnan`, compared with `<`, added
up and subtracted, so it is an exact decimal here. Rounding, infinities and the sign of zero
are left out. Times are integers of nanoseconds.
-/

namespace RoqBitget

/-- A `double`: `NaN` or a number. -/
inductive Double
  | nan
  | value (q : ℚ)
  deriving DecidableEq

namespace Double

/-- `std::isnan`. -/
def isnan : Double → Bool
  | nan => true
  | value _ => false

/-- The literal `0.0`. -/
def zero : Double := value 0

/-- Addition: `NaN` absorbs. -/
def add : Double → Double → Double
  | value a, value b => value (a + b)
  | _, _ => nan

/-- Subtraction: `NaN` absorbs. -/
def sub : Double → Double → Double
  | value a, value b => value (a - b)
  | _, _ => nan

@[simp] theorem isnan_nan : isnan nan = true := rfl

@[simp] theorem isnan_value (q : ℚ) : isnan (value q) = false := rfl

@[simp] theorem isnan_zero : isnan zero = false := rfl

end Double

/-- `std::chrono::nanoseconds`. -/
abbrev Nanoseconds := ℤ

/-- `std::chrono::milliseconds`, the unit of the times on the wire. -/
structure Milliseconds where
  count : ℤ
  deriving DecidableEq

/-- The implicit conversion from milliseconds to nanoseconds. -/
def Milliseconds.toNanoseconds (t : Milliseconds) : Nanoseconds := t.count * 1000000

/-- A whole number of minutes. -/
def minutes (n : ℤ) : Nanoseconds := n * 60000000000

/-- A whole number of seconds. -/
def seconds (n : ℤ) : Nanoseconds := n * 1000000000

/-- `roq::UpdateType`. -/
inductive UpdateType
  | undefined
  | snapshot
  | incremental
  deriving DecidableEq

/-- `roq::MarginMode`. -/
inductive MarginMode
  | undefined
  | isolated
  | cross
  | portfolio
  deriving DecidableEq

/-- `roq::Side`. -/
inductive Side
  | undefined
  | buy
  | sell
  deriving DecidableEq

/-- `roq::PositionEffect`. -/
inductive PositionEffect
  | undefined
  | «open»
  | close
  deriving DecidableEq

/-- `roq::SecurityType`. -/
inductive SecurityType
  | undefined
  | spot
  | swap
  | futures
  deriving DecidableEq

/-- `roq::TradingStatus`. -/
inductive TradingStatus
  | undefined
  | «open»
  | preOpen
  | close
  | halt
  deriving DecidableEq

/-- `roq::OrderType`. -/
inductive OrderType
  | undefined
  | market
  | limit
  deriving DecidableEq

/-- `roq::TimeInForce`. -/
inductive TimeInForce
  | undefined
  | gfd
  | gtc
  | opg
  | ioc
  | fok
  | gtx
  | gtd
  | atTheClose
  | goodThroughCrossing
  | atCrossing
  | goodForTime
  | gfa
  | gfm
  deriving DecidableEq

/-- `roq::OrderStatus`. -/
inductive OrderStatus
  | undefined
  | working
  | completed
  | canceled
  | rejected
  deriving DecidableEq

/-- `roq::Liquidity`. -/
inductive Liquidity
  | undefined
  | maker
  | taker
  deriving DecidableEq

/-- `roq::QuantityType`; the gateway only ever leaves it undefined. -/
inductive QuantityType
  | undefined
  | other (code : ℕ)
  deriving DecidableEq

/-- `roq::ConnectionStatus`. -/
inductive ConnectionStatus
  | undefined
  | disconnected
  | downloading
  | ready
  deriving DecidableEq

/-- `roq::Origin`. -/
inductive Origin
  | gateway
  | exchange
  deriving DecidableEq

/-- `roq::RequestStatus`; `other` stands for the enumerators that only exceptions carry. -/
inductive RequestStatus
  | accepted
  | rejected
  | error
  | other (code : ℕ)
  deriving DecidableEq

/-- `roq::Error`; `other` stands for the enumerators that only exceptions carry. -/
inductive Error
  | undefined
  | unknown
  | requestRateLimitReached
  | tooLateToModifyOrCancel
  | insufficientFunds
  | other (code : ℕ)
  deriving DecidableEq

/-- `roq::RequestType`. -/
inductive RequestType
  | undefined
  | createOrder
  | modifyOrder
  | cancelOrder
  deriving DecidableEq

/-- `roq::Precision`: the number of decimals. -/
inductive Precision
  | undefined
  | decimals (n : ℕ)
  deriving DecidableEq

/-- `roq::ExecutionInstruction`; `other` stands for the enumerators that the gateway ignores. -/
inductive ExecutionInstruction
  | participateDoNotInitiate
  | other (code : ℕ)
  deriving DecidableEq

/-- `roq::CreateOrder`. -/
structure CreateOrder where
  symbol : String
  side : Side
  positionEffect : PositionEffect
  orderType : OrderType
  timeInForce : TimeInForce
  executionInstructions : Finset ExecutionInstruction
  quantity : Double
  price : Double
  deriving DecidableEq

/-- `roq::ModifyOrder`. -/
structure ModifyOrder where
  quantity : Double
  price : Double
  deriving DecidableEq

/-- `roq::CancelAllOrders`. -/
structure CancelAllOrders where
  symbol : String
  deriving DecidableEq

/-- `server::oms::Order`. -/
structure Order where
  externalOrderId : String
  clientOrderId : String
  deriving DecidableEq

/-- `server::oms::RefData`: the precisions of a quantity and of a price. -/
structure RefData where
  quantityPrecision : Precision
  pricePrecision : Precision
  deriving DecidableEq

/-- `server::oms::Response`: the answer to a request for an order action. -/
structure Oms.Response where
  requestType : RequestType
  origin : Origin
  requestStatus : RequestStatus
  error : Error
  text : String
  version : UInt32
  requestId : String
  externalOrderId : String
  clientOrderId : String
  quantity : Double
  price : Double
  deriving DecidableEq

/-- `server::oms::OrderUpdate`. -/
structure Oms.OrderUpdate where
  account : String
  exchange : String
  symbol : String
  side : Side
  positionEffect : PositionEffect
  marginMode : MarginMode
  maxShowQuantity : Double
  orderType : OrderType
  timeInForce : TimeInForce
  executionInstructions : Finset ExecutionInstruction
  executionDestination : String
  createTimeUtc : Nanoseconds
  updateTimeUtc : Nanoseconds
  externalAccount : String
  externalOrderId : String
  clientOrderId : String
  orderStatus : OrderStatus
  error : Error
  text : String
  quantity : Double
  price : Double
  stopPrice : Double
  leverage : Double
  remainingQuantity : Double
  tradedQuantity : Double
  averageTradedPrice : Double
  lastTradedQuantity : Double
  lastTradedPrice : Double
  lastLiquidity : Liquidity
  routingId : String
  maxRequestVersion : UInt32
  maxResponseVersion : UInt32
  maxAcceptedVersion : UInt32
  updateType : UpdateType
  sendingTimeUtc : Nanoseconds
  deriving DecidableEq

/-- `roq::CancelAllOrdersAck`. -/
structure CancelAllOrdersAck where
  streamId : ℕ
  account : String
  orderId : UInt64
  exchange : String
  symbol : String
  side : Side
  origin : Origin
  requestStatus : RequestStatus
  error : Error
  text : String
  requestId : String
  externalAccount : String
  numberOfAffectedOrders : ℕ
  roundTripLatency : Nanoseconds
  user : String
  strategyId : ℕ
  deriving DecidableEq

/-- What a stream adds to every update it dispatches: its id, its account and the exchange. -/
structure Stream where
  /-- `stream_id_`. -/
  streamId : ℕ
  /-- `account_.name`. -/
  account : String
  /-- `shared_.settings.exchange`. -/
  exchange : String
  deriving DecidableEq

end RoqBitget
