import RoqBitget.Gateway.Books
import RoqBitget.Gateway.Funds
import RoqBitget.Gateway.OrderDetails
import RoqBitget.Gateway.RequestIds
import RoqBitget.Gateway.Trades

set_option relaxedAutoImplicit false
set_option autoImplicit false

/-!
# The parser of the websocket messages

All streams pass the text of a message to `Parser::dispatch`. It decodes the text twice: first
the part that says what kind of message it is, and then the message itself, with which it calls
the handler of the stream.

## Main definitions

* `RoqBitget.Protocol.Message` — what says of which kind a message is.
* `RoqBitget.Protocol.Parser.Call` — the calls of a handler.
* `RoqBitget.Protocol.Parser.dispatch` — the parser.

## Main results

* `RoqBitget.Protocol.Parser.dispatch_eq_called` — what a handler is called with was decoded from
  the text, and is of the kind that the text says.
* `RoqBitget.Protocol.Parser.dispatch_eq_dropped` — what is dropped.
* `RoqBitget.Protocol.Parser.dispatch_allow` — what it means to allow unknown events.

## Implementation notes

The decoders are generated when the program is built, so they are parameters; none of a result
means that the decoder throws. A handler that is called may throw or end the process, which is a
matter of the stream.
-/

namespace RoqBitget.Protocol

/-- `event.json`. -/
inductive Event
  | undefinedInternal
  | unknownInternal
  | error
  | subscribe
  | login
  | trade
  deriving DecidableEq

/-- `wsapi_topic.json`. -/
inductive WSAPITopic
  | undefinedInternal
  | unknownInternal
  | placeOrder
  | modifyOrder
  | cancelOrder
  deriving DecidableEq

/-- What the parser reads of every message (`message.json`), with the topic of its argument. -/
structure Message where
  event : Event
  topic : WSAPITopic
  argTopic : Gateway.Topic
  deriving DecidableEq

/-- The websocket message (`subscribe.json`), with the topic of its argument. -/
structure Subscribe where
  code : ℤ
  msg : String
  topic : Gateway.Topic
  deriving DecidableEq

/-- The websocket message (`login.json`). -/
structure Login where
  code : ℤ
  msg : String
  deriving DecidableEq

namespace Parser

/-- A call of `Parser::Handler`. -/
inductive Call
  | error (error : JsonError)
  | subscribe (subscribe : Subscribe)
  | ticker (ticker : Ticker)
  | publicTrade (publicTrade : PublicTrade)
  | books (books : Books)
  | login (login : Login)
  | account (account : Account)
  | position (position : Position)
  | order (order : OrderMessage)
  | fill (fill : Fill)
  | placeOrder (placeOrder : ActionAck)
  | modifyOrder (modifyOrder : ActionAck)
  | cancelOrder (cancelOrder : ActionAck)

/-- The generated decoders. -/
structure Decoders where
  message : String → Option Message
  error : String → Option JsonError
  subscribe : String → Option Subscribe
  ticker : String → Option Ticker
  publicTrade : String → Option PublicTrade
  books : String → Option Books
  login : String → Option Login
  account : String → Option Account
  position : String → Option Position
  order : String → Option OrderMessage
  fill : String → Option Fill
  placeOrder : String → Option ActionAck
  modifyOrder : String → Option ActionAck
  cancelOrder : String → Option ActionAck

/-- How the parser ends. -/
inductive Dispatch
  /-- It returns `true` without calling the handler. -/
  | dropped
  /-- It calls the handler, and returns `true`. -/
  | called (call : Call)
  /-- It returns `false`. -/
  | unexpected
  /-- `log::fatal`. -/
  | fatal
  /-- A decoder throws. -/
  | threw

/-- `PONG`. -/
def pong : String := "pong"

/-- `dispatch_helper`. -/
def dispatchHelper {T : Type} (decode : String → Option T) (call : T → Call) (message : String) :
    Dispatch :=
  match decode message with
  | some obj => .called (call obj)
  | none => .threw

/-- The second `switch` of `Parser::dispatch`, and what follows it. -/
def dispatchTopic (decoders : Decoders) (message : String) : Gateway.Topic → Dispatch
  | .undefinedInternal => .fatal
  | .unknownInternal => .unexpected
  | .ticker => dispatchHelper decoders.ticker .ticker message
  | .publicTrade => dispatchHelper decoders.publicTrade .publicTrade message
  | .books => dispatchHelper decoders.books .books message
  | .books5 => dispatchHelper decoders.books .books message
  | .books15 => dispatchHelper decoders.books .books message
  | .account => dispatchHelper decoders.account .account message
  | .position => dispatchHelper decoders.position .position message
  | .order => dispatchHelper decoders.order .order message
  | .fill => dispatchHelper decoders.fill .fill message

/-- `Parser::dispatch`. -/
def dispatch (decoders : Decoders) (message : String) (allowUnknownEventTypes : Bool) : Dispatch :=
  if message = pong then .dropped
  else
    match decoders.message message with
    | none => .threw
    | some message2 =>
      match message2.event with
      | .undefinedInternal => dispatchTopic decoders message message2.argTopic
      | .unknownInternal =>
        if allowUnknownEventTypes then .unexpected
        else dispatchTopic decoders message message2.argTopic
      | .error => dispatchHelper decoders.error .error message
      | .subscribe => dispatchHelper decoders.subscribe .subscribe message
      | .login => dispatchHelper decoders.login .login message
      | .trade =>
        match message2.topic with
        | .undefinedInternal => dispatchTopic decoders message message2.argTopic
        | .unknownInternal => .unexpected
        | .placeOrder => dispatchHelper decoders.placeOrder .placeOrder message
        | .modifyOrder => dispatchHelper decoders.modifyOrder .modifyOrder message
        | .cancelOrder => dispatchHelper decoders.cancelOrder .cancelOrder message

/-! ## What a handler is called with -/

/-- The message of a call was decoded from a text. -/
def Call.DecodedFrom (decoders : Decoders) (message : String) : Call → Prop
  | .error obj => decoders.error message = some obj
  | .subscribe obj => decoders.subscribe message = some obj
  | .ticker obj => decoders.ticker message = some obj
  | .publicTrade obj => decoders.publicTrade message = some obj
  | .books obj => decoders.books message = some obj
  | .login obj => decoders.login message = some obj
  | .account obj => decoders.account message = some obj
  | .position obj => decoders.position message = some obj
  | .order obj => decoders.order message = some obj
  | .fill obj => decoders.fill message = some obj
  | .placeOrder obj => decoders.placeOrder message = some obj
  | .modifyOrder obj => decoders.modifyOrder message = some obj
  | .cancelOrder obj => decoders.cancelOrder message = some obj

/-- The topics of a subscription whose messages a call is about; none for an answer. -/
def Call.topics : Call → List Gateway.Topic
  | .ticker _ => [.ticker]
  | .publicTrade _ => [.publicTrade]
  | .books _ => [.books, .books5, .books15]
  | .account _ => [.account]
  | .position _ => [.position]
  | .order _ => [.order]
  | .fill _ => [.fill]
  | _ => []

/-- The event and the topic of the answers that a call is about; none for a message of a
subscription. -/
def Call.answer : Call → Option (Event × Option WSAPITopic)
  | .error _ => some (.error, none)
  | .subscribe _ => some (.subscribe, none)
  | .login _ => some (.login, none)
  | .placeOrder _ => some (.trade, some .placeOrder)
  | .modifyOrder _ => some (.trade, some .modifyOrder)
  | .cancelOrder _ => some (.trade, some .cancelOrder)
  | _ => none

/-- A call is of the kind that a text says. Messages of a subscription may have an event, as long
as it is not one of an answer. -/
def Call.OfKind (allowUnknownEventTypes : Bool) (message : Message) (call : Call) : Prop :=
  match call.answer with
  | some (event, topic) => message.event = event ∧ ∀ t ∈ topic, message.topic = t
  | none => message.argTopic ∈ call.topics ∧
      (message.event = .undefinedInternal ∨
        message.event = .unknownInternal ∧ allowUnknownEventTypes = false ∨
        message.event = .trade ∧ message.topic = .undefinedInternal)

section Dispatch

variable {decoders : Decoders} {message : String} {allowUnknownEventTypes : Bool} {call : Call}

/-- The helper calls with what it decoded. -/
theorem dispatchHelper_eq_called {T : Type} {decode : String → Option T} {make : T → Call} :
    dispatchHelper decode make message = .called call ↔
      ∃ obj, decode message = some obj ∧ make obj = call := by
  unfold dispatchHelper
  cases decode message <;> simp

/-- The second `switch` calls with a message of the topic. -/
theorem dispatchTopic_eq_called {topic : Gateway.Topic} :
    dispatchTopic decoders message topic = .called call ↔
      topic ∈ call.topics ∧ call.DecodedFrom decoders message := by
  cases topic <;> cases call <;>
    simp [dispatchTopic, dispatchHelper_eq_called, Call.topics, Call.DecodedFrom]

/-- **What a handler is called with.** The parser calls the handler with a message exactly if the
text is not a pong, the message was decoded from it, and the text says that it is of that kind. -/
theorem dispatch_eq_called :
    dispatch decoders message allowUnknownEventTypes = .called call ↔
      message ≠ pong ∧ ∃ message2, decoders.message message = some message2 ∧
        call.OfKind allowUnknownEventTypes message2 ∧ call.DecodedFrom decoders message := by
  unfold dispatch
  by_cases hpong : message = pong
  · simp [hpong]
  rw [if_neg hpong]
  cases hmessage : decoders.message message with
  | none => simp
  | some message2 =>
    obtain ⟨event, topic, argTopic⟩ := message2
    have htopic : dispatchTopic decoders message argTopic = .called call ↔
        argTopic ∈ call.topics ∧ call.DecodedFrom decoders message := dispatchTopic_eq_called
    cases event with
    | undefinedInternal =>
      cases call <;> simp_all [Call.OfKind, Call.answer, Call.topics]
    | unknownInternal =>
      cases allowUnknownEventTypes <;> cases call <;>
        simp_all [Call.OfKind, Call.answer, Call.topics]
    | trade =>
      cases topic <;> cases call <;>
        simp_all [Call.OfKind, Call.answer, Call.topics, dispatchHelper_eq_called,
          Call.DecodedFrom]
    | _ =>
      cases call <;>
        simp_all [Call.OfKind, Call.answer, Call.topics, dispatchHelper_eq_called,
          Call.DecodedFrom]

/-- Only a pong is dropped. -/
theorem dispatch_eq_dropped :
    dispatch decoders message allowUnknownEventTypes = .dropped ↔ message = pong := by
  have hhelper : ∀ {T : Type} (decode : String → Option T) (make : T → Call),
      dispatchHelper decode make message ≠ .dropped := by
    intro T decode make
    unfold dispatchHelper
    cases decode message <;> simp
  have htopic : ∀ topic, dispatchTopic decoders message topic ≠ .dropped := by
    intro topic
    cases topic <;> simp [dispatchTopic, hhelper]
  unfold dispatch
  by_cases hpong : message = pong
  · simp [hpong]
  rw [if_neg hpong]
  refine iff_of_false ?_ hpong
  cases decoders.message message with
  | none => simp
  | some message2 =>
    obtain ⟨event, topic, argTopic⟩ := message2
    cases event with
    | unknownInternal => cases allowUnknownEventTypes <;> simp [htopic]
    | trade => cases topic <;> simp [htopic, hhelper]
    | _ => simp [htopic, hhelper]

/-- **To allow unknown events** is to report some messages as unexpected, and changes nothing
about the others. -/
theorem dispatch_allow (decoders : Decoders) (message : String) :
    dispatch decoders message true = dispatch decoders message false ∨
      dispatch decoders message true = .unexpected := by
  unfold dispatch
  by_cases hpong : message = pong
  · rw [if_pos hpong, if_pos hpong]
    exact .inl rfl
  rw [if_neg hpong, if_neg hpong]
  cases decoders.message message with
  | none => exact .inl rfl
  | some message2 =>
    obtain ⟨event, topic, argTopic⟩ := message2
    cases event with
    | unknownInternal => exact .inr rfl
    | _ => exact .inl rfl

end Dispatch

end Parser

end RoqBitget.Protocol
