import Mathlib.Data.Finset.Insert
import RoqBitget.Api
import RoqBitget.Core.Limit

set_option relaxedAutoImplicit false
set_option autoImplicit false

/-!
# The state of one account

What the two streams of an account share, and what each of them keeps: the websocket stream
`DropCopy` decides what is to be downloaded, the REST stream `OrderEntry` sends the requests
and receives the answers, and `Request` holds the slots through which they talk to each other.

## Main definitions

* `RoqBitget.Gateway.World` — the state of both streams, of the slots and of the REST
  connection, with the actions performed during the current reaction.
* `RoqBitget.Gateway.Action` — what can be observed of the streams.
* `RoqBitget.Gateway.Config` — the settings and the decoders.

## Implementation notes

The download sequencer of `DropCopy` is kept apart, because its callback acts on the world. An
action is appended to `World.actions` where the source performs it. A call of `log::fatal` ends
the process; it sets `World.aborted`, and nothing happens afterwards. A request on the REST
connection gets an id, so that its answer can be told from others; path, query and headers of a
request are left out, and so is everything that is only logged or measured.
-/

namespace RoqBitget.Gateway

open RoqBitget.Core

/-- The slots of `gateway::Request`. -/
inductive Slot
  | account
  | balances
  | positions
  | openOrders
  | lostOrders
  | trades
  deriving DecidableEq

/-- An element of `details_lost_orders`: user id and order id. -/
structure OrderKey where
  userId : UInt8
  orderId : UInt64
  deriving DecidableEq

/-- The callback that a REST request was sent with. -/
inductive Endpoint
  | accountSettings
  | accountAssets
  | currentPositions
  | unfilledOrders
  | orderDetails (clientOrderId : String)
  | tradeFills
  deriving DecidableEq

/-- The slot that the callback of a request commits to. -/
def Endpoint.slot : Endpoint → Slot
  | accountSettings => .account
  | accountAssets => .balances
  | currentPositions => .positions
  | unfilledOrders => .openOrders
  | orderDetails _ => .lostOrders
  | tradeFills => .trades

/-- A request that the REST connection accepted. -/
structure Sent where
  id : ℕ
  endpoint : Endpoint
  deriving DecidableEq

/-- The arguments of an error handler. -/
structure Failure where
  origin : Origin
  status : RequestStatus
  error : Error
  text : String
  deriving DecidableEq

/-- The calls of `log::fatal` that the modelled functions contain. -/
inductive Fatal
  /-- `login.code != 0`. -/
  | loginRefused
  /-- A response of `lost_orders` while `details_lost_orders` is not empty. -/
  | lostOrdersNotEmpty
  /-- An answer on order details while `download_lost_orders_counter_` is zero. -/
  | lostOrdersCounter
  /-- An answer on another order than the one that was asked for. -/
  | clientOidMismatch
  /-- A REST answer that redirects. -/
  | redirection
  deriving DecidableEq

/-- What can be observed of the two streams. -/
inductive Action
  /-- `DropCopy` publishes its connection status. -/
  | publish (status : ConnectionStatus) (reason : String)
  /-- `DropCopy` makes a request through a slot. -/
  | request (slot : Slot)
  /-- `DropCopy` subscribes to a topic. -/
  | subscribe (topic : String)
  /-- `DropCopy` looks for stale orders; these are the lost orders afterwards. -/
  | checkStaleOrders (details : Finset OrderKey)
  /-- `OrderEntry` publishes its connection status. -/
  | publishOrderEntry (status : ConnectionStatus)
  /-- `OrderEntry` sends a request. -/
  | send (sent : Sent)
  /-- `OrderEntry` sends the heartbeat. -/
  | heartbeat
  /-- `OrderEntry` dispatches a decoded answer. -/
  | dispatch (endpoint : Endpoint)
  /-- `OrderEntry` reports a failed request. -/
  | failure (failure : Failure)
  /-- `OrderEntry` commits an answer to a slot. -/
  | commit (slot : Slot)
  deriving DecidableEq

/-- The state of both streams of an account, the slots being `L`. -/
structure World (L : LimitRequest) where
  /-- `DropCopy::connection_status_`. -/
  connectionStatus : ConnectionStatus
  /-- `DropCopy::next_check_stale_orders_`. -/
  nextCheckStaleOrders : Nanoseconds
  /-- The slots of `Request`. -/
  slots : Slot → L.Object
  /-- `Request::details_lost_orders`. -/
  detailsLostOrders : Finset OrderKey
  /-- `OrderEntry::connection_status_`. -/
  orderEntryStatus : ConnectionStatus
  /-- `OrderEntry::next_heartbeat_`. -/
  nextHeartbeat : Nanoseconds
  /-- `OrderEntry::download_lost_orders_counter_`. -/
  downloadLostOrdersCounter : ℕ
  /-- The requests that were accepted and not called back yet. -/
  inFlight : List Sent
  /-- The id of the next request. -/
  nextId : ℕ
  /-- Where the process was aborted, if it was. -/
  aborted : Option Fatal
  /-- The actions of the current reaction. -/
  actions : List Action

namespace World

variable {L : LimitRequest}

/-- The state before any event. -/
def initial (L : LimitRequest) : World L where
  connectionStatus := .undefined
  nextCheckStaleOrders := 0
  slots _ := L.create
  detailsLostOrders := ∅
  orderEntryStatus := .undefined
  nextHeartbeat := 0
  downloadLostOrdersCounter := 0
  inFlight := []
  nextId := 0
  aborted := none
  actions := []

/-- Perform an action that changes nothing else. -/
def act (action : Action) (w : World L) : World L :=
  { w with actions := w.actions ++ [action] }

/-- `log::fatal`. -/
def abort (fatal : Fatal) (w : World L) : World L := { w with aborted := some fatal }

/-- Change a slot. -/
def updateSlot (slot : Slot) (f : L.Object → L.Object) (w : World L) : World L :=
  { w with slots := fun k => if k = slot then f (w.slots k) else w.slots k }

/-- `has_response` of a slot. -/
def hasResponse (w : World L) (slot : Slot) : Bool := L.hasResponse (w.slots slot)

/-- Changing one slot leaves the others alone. -/
theorem hasResponse_updateSlot_of_ne {k slot : Slot} (h : k ≠ slot) (f : L.Object → L.Object)
    (w : World L) : (w.updateSlot slot f).hasResponse k = w.hasResponse k := by
  simp [hasResponse, updateSlot, h]

/-- A change of a slot that does not answer it changes no response. -/
theorem hasResponse_updateSlot {f : L.Object → L.Object}
    (h : ∀ r, L.hasResponse (f r) = L.hasResponse r) (slot k : Slot) (w : World L) :
    (w.updateSlot slot f).hasResponse k = w.hasResponse k := by
  by_cases hk : k = slot <;> simp [hasResponse, updateSlot, hk, h]

end World

/-- What an answer says that the gateway looks at: its code, its message, and the client order
id of its data. -/
structure Ack where
  code : ℤ
  msg : String
  clientOid : String
  deriving DecidableEq

/-- `protocol::json::Message`, and of the answers on order actions what is looked at. -/
structure Message where
  code : ℤ
  msg : String
  deriving DecidableEq

/-- The exceptions that the REST stream catches. -/
inductive Exception
  /-- `server::oms::Exception`. -/
  | oms (origin : Origin) (status : RequestStatus) (error : Error) (what : String)
  /-- `NetworkError`. -/
  | network (status : RequestStatus) (error : Error) (what : String)
  /-- Any other `std::exception`. -/
  | std (what : String)
  deriving DecidableEq

/-- The settings, and the code outside of the repository that the answers are read with. -/
structure Config where
  /-- Whether `DropCopy` is the master of its account. -/
  master : Bool
  /-- `settings.download.trades_lookback`. -/
  tradesLookback : Nanoseconds
  /-- `settings.rest.cancel_on_disconnect`. -/
  cancelOnDisconnect : Bool
  /-- `settings.rest.ping_freq`. -/
  pingFreq : Nanoseconds
  /-- The generated decoders of the answers; they may throw. -/
  decode : Endpoint → String → Except Exception Ack
  /-- The generated decoder of an error message; it may throw. -/
  decodeMessage : String → Except Exception Message
  /-- The text of an HTTP status. -/
  statusText : ℕ → String
  /-- What `expect` throws on an unexpected HTTP status. -/
  unexpectedStatus : ℕ → Exception

/-- A master with a look-back on its trades, and decoders that know three bodies: an answer, an
error of the exchange, and the error that an order does not exist. -/
def simpleConfig : Config where
  master := true
  tradesLookback := minutes 5
  cancelOnDisconnect := false
  pingFreq := 0
  decode _ body :=
    if body = "ok" then .ok ⟨0, "success", ""⟩
    else if body = "unavailable" then .ok ⟨40725, "service unavailable", ""⟩
    else if body = "missing" then .ok ⟨25204, "order does not exist", ""⟩
    else .error (.std "unexpected")
  decodeMessage _ := .error (.std "unexpected")
  statusText status := toString status
  unexpectedStatus _ := .std "unexpected"

end RoqBitget.Gateway
