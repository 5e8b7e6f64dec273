import RoqBitget.Gateway.Response
import RoqBitget.Protocol.Encoder

set_option relaxedAutoImplicit false
set_option autoImplicit false

/-!
# Acknowledgements of order actions

What the two streams tell the order manager about an order action that was sent. Over the
websocket `DropCopy` dispatches a response for every argument of an acknowledgement. Over REST
`OrderEntry` reads the answer like any other one, and its error handler dispatches a report.

## Main definitions

* `RoqBitget.Gateway.DropCopy.onPlaceOrder`, `onModifyOrder`, `onCancelOrder` — the handlers of
  the websocket.
* `RoqBitget.Gateway.DropCopy.ReportsVerdict` — the response says what the exchange decided.
* `RoqBitget.Gateway.OrderEntry.placeOrderAck`, `modifyOrderAck`, … — the callbacks of the REST
  requests.
* `RoqBitget.Gateway.OrderEntry.Fails` — how an answer fails, one rule for each way.

## Main results

* `RoqBitget.Gateway.DropCopy.verdicts_reported_iff` — the verdict is reported only where there
  is nothing to report.
* `RoqBitget.Gateway.OrderEntry.fails_iff` — the error handler is called with the failure of the
  answer, for those that fail.
* `RoqBitget.Gateway.OrderEntry.failures_reported_iff` — which requests report every failure as
  what it is.

## Implementation notes

The handlers of a decoded answer, such as `OrderEntry::operator()(Trace<PlaceOrderAck> const &)`,
only log it. Dispatching does not throw.
-/

namespace RoqBitget.Protocol

/-- An argument of an acknowledgement (`place_order_args.json`, and the same for the others). -/
structure ActionArgs where
  orderId : String
  clientOid : String
  deriving DecidableEq

/-- An acknowledgement over the websocket (`place_order.json`, `modify_order.json` and
`cancel_order.json`). -/
structure ActionAck where
  id : String
  args : List ActionArgs
  code : ℤ
  msg : String
  deriving DecidableEq

end RoqBitget.Protocol

namespace RoqBitget.Gateway

/-! ## Over the websocket -/

namespace DropCopy

/-- The topics of the order actions (`wsapi_topic.json`). -/
inductive ActionTopic
  | placeOrder
  | modifyOrder
  | cancelOrder
  deriving DecidableEq

/-- The request type of a topic. -/
def ActionTopic.requestType : ActionTopic → RequestType
  | placeOrder => .createOrder
  | modifyOrder => .modifyOrder
  | cancelOrder => .cancelOrder

/-- A response and the id of the stream that dispatches it. -/
structure Dispatched where
  response : Oms.Response
  streamId : ℕ
  deriving DecidableEq

/-- The loop over the arguments that the three handlers contain. -/
def respond (stream : Stream) (requestType : RequestType) (ack : Protocol.ActionAck) :
    List Dispatched :=
  let requestId := (Protocol.Encoder.parseId ack.id).2
  ack.args.map fun item =>
    { response :=
        { requestType := requestType
          origin := .exchange
          requestStatus := .accepted
          error := guessError ack.code
          text := ack.msg
          version := 0
          requestId := requestId
          externalOrderId := item.orderId
          clientOrderId := item.clientOid
          quantity := .nan
          price := .nan }
      streamId := stream.streamId }

/-- `DropCopy::operator()(Trace<protocol::json::PlaceOrder> const &)`. -/
def onPlaceOrder (stream : Stream) (placeOrder : Protocol.ActionAck) : List Dispatched :=
  respond stream .createOrder placeOrder

/-- `DropCopy::operator()(Trace<protocol::json::ModifyOrder> const &)`. -/
def onModifyOrder (stream : Stream) (modifyOrder : Protocol.ActionAck) : List Dispatched :=
  respond stream .modifyOrder modifyOrder

/-- `DropCopy::operator()(Trace<protocol::json::CancelOrder> const &)`. -/
def onCancelOrder (stream : Stream) (cancelOrder : Protocol.ActionAck) : List Dispatched :=
  respond stream .cancelOrder cancelOrder

/-- The handler of a topic, as chosen by `Parser::dispatch`. -/
def onActionAck (stream : Stream) (topic : ActionTopic) (ack : Protocol.ActionAck) :
    List Dispatched :=
  match topic with
  | .placeOrder => onPlaceOrder stream ack
  | .modifyOrder => onModifyOrder stream ack
  | .cancelOrder => onCancelOrder stream ack

/-- The response says which request and which order it is about. -/
structure Identifies (topic : ActionTopic) (ack : Protocol.ActionAck)
    (item : Protocol.ActionArgs) (response : Oms.Response) : Prop where
  requestType : response.requestType = topic.requestType
  requestId : response.requestId = (Protocol.Encoder.parseId ack.id).2
  externalOrderId : response.externalOrderId = item.orderId
  clientOrderId : response.clientOrderId = item.clientOid

/-- The response says what the exchange decided: a code of zero is an acceptance without an
error, and any other code a rejection with the error of the code. -/
def ReportsVerdict (ack : Protocol.ActionAck) (response : Oms.Response) : Prop :=
  if ack.code = 0 then response.requestStatus = .accepted ∧ response.error = .undefined
  else response.requestStatus = .rejected ∧ response.error = guessError ack.code

instance (ack : Protocol.ActionAck) (response : Oms.Response) :
    Decidable (ReportsVerdict ack response) := by
  unfold ReportsVerdict
  infer_instance

/-- All handlers are one loop. -/
theorem onActionAck_eq (stream : Stream) (topic : ActionTopic) (ack : Protocol.ActionAck) :
    onActionAck stream topic ack = respond stream topic.requestType ack := by
  cases topic <;> rfl

/-- The arguments are answered one by one, and every response says what it is about. -/
theorem identifies_onActionAck (stream : Stream) (topic : ActionTopic)
    (ack : Protocol.ActionAck) :
    List.Forall₂ (fun item dispatched => Identifies topic ack item dispatched.response)
      ack.args (onActionAck stream topic ack) := by
  rw [onActionAck_eq, respond, List.forall₂_map_right_iff, List.forall₂_same]
  exact fun item _ => ⟨rfl, rfl, rfl, rfl⟩

/-- No code is classified as the absence of an error. -/
theorem guessError_ne_undefined (code : ℤ) : guessError code ≠ .undefined := by
  unfold guessError
  split_ifs <;> simp

/-- No response reports the verdict: an acceptance comes with the error of its code, and a
rejection is reported as an acceptance. -/
theorem not_reportsVerdict {stream : Stream} {topic : ActionTopic} {ack : Protocol.ActionAck}
    {dispatched : Dispatched} (h : dispatched ∈ onActionAck stream topic ack) :
    ¬ ReportsVerdict ack dispatched.response := by
  rw [onActionAck_eq, respond, List.mem_map] at h
  obtain ⟨item, -, rfl⟩ := h
  unfold ReportsVerdict
  split_ifs
  · exact fun hverdict => guessError_ne_undefined ack.code hverdict.2
  · simp

/-- **The verdict of the exchange is reported only where there is nothing to report.** For every
stream, topic and acknowledgement, the responses are one for each argument and say what they are
about, and they report the verdict as well if and only if the acknowledgement has no arguments. -/
theorem verdicts_reported_iff (stream : Stream) (topic : ActionTopic)
    (ack : Protocol.ActionAck) :
    List.Forall₂ (fun item dispatched => Identifies topic ack item dispatched.response)
      ack.args (onActionAck stream topic ack) ∧
    (List.Forall₂ (fun item dispatched => Identifies topic ack item dispatched.response ∧
      ReportsVerdict ack dispatched.response) ack.args (onActionAck stream topic ack) ↔
      ack.args = []) := by
  refine ⟨identifies_onActionAck stream topic ack, ?_⟩
  constructor
  · intro h
    cases hargs : ack.args with
    | nil => rfl
    | cons item items =>
      rw [hargs] at h
      cases hdispatched : onActionAck stream topic ack with
      | nil =>
        rw [hdispatched] at h
        cases h
      | cons dispatched rest =>
        rw [hdispatched, List.forall₂_cons] at h
        exact absurd h.1.2 (not_reportsVerdict (hdispatched ▸ List.mem_cons_self))
  · intro h
    have hnone : onActionAck stream topic ack = [] := by
      rw [onActionAck_eq, respond, h, List.map_nil]
    rw [h, hnone]
    exact .nil

/-- A new order that was refused for lack of funds is reported as accepted. -/
theorem refused_reportedAccepted :
    ∃ dispatched, onActionAck ⟨3, "A1", "bitget"⟩ .placeOrder
        ⟨"P:1234", [⟨"77", "oAAB"⟩], 25202, "insufficient balance"⟩ = [dispatched] ∧
      dispatched.response.requestStatus = .accepted ∧
      ¬ ReportsVerdict ⟨"P:1234", [⟨"77", "oAAB"⟩], 25202, "insufficient balance"⟩
        dispatched.response :=
  ⟨_, rfl, rfl, by decide⟩

end DropCopy

/-! ## Over REST -/

/-- The settings of a stream that sends order actions, and the generated decoders of the
answers. -/
structure ActionConfig extends Config where
  stream : Stream
  /-- `protocol::json::PlaceOrderAck`. -/
  decodePlaceOrderAck : String → Except Exception Message
  /-- `protocol::json::ModifyOrderAck`. -/
  decodeModifyOrderAck : String → Except Exception Message
  /-- `protocol::json::CancelOrderAck`. -/
  decodeCancelOrderAck : String → Except Exception Message
  /-- `protocol::json::CancelAllOrdersAck`. -/
  decodeCancelAllOrdersAck : String → Except Exception Message

/-- The failure that an exception is reported as. -/
def Exception.failure : Exception → Failure
  | .oms origin status error what => ⟨origin, status, error, what⟩
  | .network status error what => ⟨.gateway, status, error, what⟩
  | .std what => ⟨.exchange, .error, .unknown, what⟩

namespace OrderEntry

/-- An order action, with what the callback of its request captures. -/
inductive ActionRequest
  | placeOrder (userId : UInt8) (orderId : UInt64)
  | modifyOrder (userId : UInt8) (orderId : UInt64) (version : UInt32)
  | cancelOrder (userId : UInt8) (orderId : UInt64) (version : UInt32)
  | cancelAllOrders (userId : UInt8)
  deriving DecidableEq

/-- What the callbacks dispatch. -/
inductive Report
  | response (response : Oms.Response) (streamId : ℕ) (userId : UInt8) (orderId : UInt64)
  | cancelAllOrdersAck (ack : CancelAllOrdersAck)
  deriving DecidableEq

/-- The success handlers. -/
def handleAction (decode : String → Except Exception Message) (body : String) :
    Except Exception Outcome := do
  let ack ← decode body
  if ack.code = 0 then
    return .dispatched
  else
    return .failed ⟨.exchange, .rejected, guessError ack.code, ack.msg⟩

/-- What the callbacks do: a decoded answer is only logged, and a failure is reported. -/
def acknowledgeAction (config : ActionConfig) (decode : String → Except Exception Message)
    (handleError : Failure → Report) (response : Response) : Except Fatal (List Report) :=
  match processResponse config.toConfig response (handleAction decode) with
  | .dispatched => .ok []
  | .failed failure => .ok [handleError failure]
  | .ignored => .ok []
  | .fatal fatal => .error fatal

/-- The error handlers of the actions on one order. -/
def reportResponse (stream : Stream) (requestType : RequestType) (userId : UInt8)
    (orderId : UInt64) (version : UInt32) (failure : Failure) : Report :=
  .response
    { requestType := requestType
      origin := failure.origin
      requestStatus := failure.status
      error := failure.error
      text := failure.text
      version := version
      requestId := ""
      externalOrderId := ""
      clientOrderId := ""
      quantity := .nan
      price := .nan }
    stream.streamId userId orderId

/-- The error handler of `cancel_all_orders_ack`; it ignores the origin and the status. -/
def reportCancelAllOrders (stream : Stream) (failure : Failure) : Report :=
  .cancelAllOrdersAck
    { streamId := stream.streamId
      account := stream.account
      orderId := 0
      exchange := stream.exchange
      symbol := ""
      side := .undefined
      origin := .exchange
      requestStatus := .rejected
      error := failure.error
      text := failure.text
      requestId := ""
      externalAccount := ""
      numberOfAffectedOrders := 0
      roundTripLatency := 0
      user := ""
      strategyId := 0 }

/-- `OrderEntry::place_order_ack`. -/
def placeOrderAck (config : ActionConfig) (response : Response) (userId : UInt8)
    (orderId : UInt64) (version : UInt32) : Except Fatal (List Report) :=
  acknowledgeAction config config.decodePlaceOrderAck
    (reportResponse config.stream .createOrder userId orderId version) response

/-- `OrderEntry::modify_order_ack`. -/
def modifyOrderAck (config : ActionConfig) (response : Response) (userId : UInt8)
    (orderId : UInt64) (version : UInt32) : Except Fatal (List Report) :=
  acknowledgeAction config config.decodeModifyOrderAck
    (reportResponse config.stream .modifyOrder userId orderId version) response

/-- `OrderEntry::cancel_order_ack`. -/
def cancelOrderAck (config : ActionConfig) (response : Response) (userId : UInt8)
    (orderId : UInt64) (version : UInt32) : Except Fatal (List Report) :=
  acknowledgeAction config config.decodeCancelOrderAck
    (reportResponse config.stream .cancelOrder userId orderId version) response

/-- `OrderEntry::cancel_all_orders_ack`. -/
def cancelAllOrdersAck (config : ActionConfig) (response : Response) (_userId : UInt8) :
    Except Fatal (List Report) :=
  acknowledgeAction config config.decodeCancelAllOrdersAck
    (reportCancelAllOrders config.stream) response

/-- The callback of a request; that of a new order assumes the version `1`. -/
def onActionResponse (config : ActionConfig) (request : ActionRequest) (response : Response) :
    Except Fatal (List Report) :=
  match request with
  | .placeOrder userId orderId => placeOrderAck config response userId orderId 1
  | .modifyOrder userId orderId version => modifyOrderAck config response userId orderId version
  | .cancelOrder userId orderId version => cancelOrderAck config response userId orderId version
  | .cancelAllOrders userId => cancelAllOrdersAck config response userId

/-! ### How an answer fails -/

/-- The decoder of the answer to a request. -/
def decodeAction (config : ActionConfig) : ActionRequest → String → Except Exception Message
  | .placeOrder _ _ => config.decodePlaceOrderAck
  | .modifyOrder _ _ _ => config.decodeModifyOrderAck
  | .cancelOrder _ _ _ => config.decodeCancelOrderAck
  | .cancelAllOrders _ => config.decodeCancelAllOrdersAck

/-- The statuses that say that too many requests were sent. -/
def RateLimit (status : ℕ) : Prop := status = 403 ∨ status = 418 ∨ status = 429

section Failures

variable (config : Config) (decode : String → Except Exception Message) (response : Response)

/-- What is thrown while an answer is processed: there may be no answer, its status may be
unexpected, and a body that is decoded may be malformed. -/
inductive Throws : Exception → Prop
  | noAnswer {e : Exception} (h : response.error = some e) : Throws e
  | unexpected (h : response.error = none)
      (hcategory : response.category = .unknown ∨ response.category = .informationalResponse)
      (hstatus : response.status ≠ 200) : Throws (config.unexpectedStatus response.status)
  | body {e : Exception} (h : response.error = none) (hcategory : response.category = .success)
      (hdecode : decode response.body = .error e) : Throws e
  | message {e : Exception} (h : response.error = none)
      (hcategory : response.category = .clientError)
      (hstatus : ¬ RateLimit response.status)
      (hdecode : config.decodeMessage response.body = .error e) : Throws e

/-- How an answer fails: by the code that the exchange gives, by its status, or by an
exception. -/
inductive Fails : Failure → Prop
  | refused {ack : Message} (h : response.error = none) (hcategory : response.category = .success)
      (hdecode : decode response.body = .ok ack) (hcode : ack.code ≠ 0) :
      Fails ⟨.exchange, .rejected, guessError ack.code, ack.msg⟩
  | rateLimit (h : response.error = none) (hcategory : response.category = .clientError)
      (hstatus : RateLimit response.status) :
      Fails ⟨.exchange, .rejected, .requestRateLimitReached, config.statusText response.status⟩
  | clientError {message : Message} (h : response.error = none)
      (hcategory : response.category = .clientError)
      (hstatus : ¬ RateLimit response.status)
      (hdecode : config.decodeMessage response.body = .ok message) :
      Fails ⟨.exchange, .rejected, guessError (toInt32 message.code), message.msg⟩
  | serverError (h : response.error = none) (hcategory : response.category = .serverError) :
      Fails ⟨.exchange, .rejected, .unknown, config.statusText response.status⟩
  | thrown {e : Exception} (h : Throws config decode response e) : Fails e.failure

variable {config decode response}

/-- The success handlers throw what the decoder throws. -/
theorem handleAction_eq_error {body : String} {e : Exception} :
    handleAction decode body = .error e ↔ decode body = .error e := by
  unfold handleAction
  cases decode body with
  | error e' => simp [bind, Except.bind]
  | ok ack => by_cases hcode : ack.code = 0 <;> simp [bind, Except.bind, pure, Except.pure, hcode]

/-- Otherwise they look at the code. -/
theorem handleAction_eq_ok {body : String} {outcome : Outcome} :
    handleAction decode body = .ok outcome ↔ ∃ ack, decode body = .ok ack ∧
      (ack.code = 0 ∧ outcome = .dispatched ∨
        ack.code ≠ 0 ∧ outcome = .failed ⟨.exchange, .rejected, guessError ack.code, ack.msg⟩) := by
  unfold handleAction
  cases decode body with
  | error e => simp [bind, Except.bind]
  | ok ack =>
    by_cases hcode : ack.code = 0 <;>
      simp [bind, Except.bind, pure, Except.pure, hcode, eq_comm]

/-- What is thrown leaves the `try` block. -/
theorem tryResponse_of_throws {e : Exception} (h : Throws config decode response e) :
    tryResponse config response (handleAction decode) = .error e := by
  rw [← tried_iff]
  cases h with
  | noAnswer h => exact .noAnswer h
  | unexpected h hcategory hstatus => exact .unexpected h hcategory hstatus
  | body h hcategory hdecode => exact .success h hcategory (handleAction_eq_error.mpr hdecode)
  | message h hcategory hstatus hdecode => exact .message h hcategory hstatus hdecode

/-- The handlers of `process_response` report an exception as its failure. -/
theorem processResponse_of_error {handler : String → Except Exception Outcome} {e : Exception}
    (h : tryResponse config response handler = .error e) :
    processResponse config response handler = .failed e.failure := by
  unfold processResponse
  rw [h]
  cases e <;> rfl

/-- A failing answer is passed to the error handler. -/
theorem processResponse_of_fails {failure : Failure} (h : Fails config decode response failure) :
    processResponse config response (handleAction decode) = .failed failure := by
  cases h with
  | refused h hcategory hdecode hcode =>
    exact processResponse_of_tried (.success h hcategory
      (handleAction_eq_ok.mpr ⟨_, hdecode, .inr ⟨hcode, rfl⟩⟩))
  | rateLimit h hcategory hstatus => exact processResponse_of_tried (.rateLimit h hcategory hstatus)
  | clientError h hcategory hstatus hdecode =>
    exact processResponse_of_tried (.clientError h hcategory hstatus hdecode)
  | serverError h hcategory => exact processResponse_of_tried (.serverError h hcategory)
  | thrown h => exact processResponse_of_error (tryResponse_of_throws h)

/-- What leaves the `try` block was thrown in one of these ways. -/
theorem throws_of_tryResponse {e : Exception}
    (h : tryResponse config response (handleAction decode) = .error e) :
    Throws config decode response e := by
  cases tried_iff.mpr h with
  | noAnswer herror => exact .noAnswer herror
  | unexpected herror hcategory hstatus => exact .unexpected herror hcategory hstatus
  | success herror hcategory hresult =>
    exact .body herror hcategory (handleAction_eq_error.mp hresult)
  | message herror hcategory hstatus hdecode => exact .message herror hcategory hstatus hdecode

/-- The `try` block ends in the error handler for a code or a status that is an error. -/
theorem fails_of_tryResponse {failure : Failure}
    (h : tryResponse config response (handleAction decode) = .ok (.failed failure)) :
    Fails config decode response failure := by
  cases tried_iff.mpr h with
  | success herror hcategory hresult =>
    obtain ⟨ack, hdecode, ⟨-, hdispatched⟩ | ⟨hcode, hfailed⟩⟩ := handleAction_eq_ok.mp hresult
    · cases hdispatched
    · obtain rfl := Outcome.failed.inj hfailed
      exact .refused herror hcategory hdecode hcode
  | rateLimit herror hcategory hstatus => exact .rateLimit herror hcategory hstatus
  | clientError herror hcategory hstatus hdecode =>
    exact .clientError herror hcategory hstatus hdecode
  | serverError herror hcategory => exact .serverError herror hcategory

/-- **The error handler is called with the failure of the answer**, for the answers that fail
and for no others. -/
theorem fails_iff {failure : Failure} : Fails config decode response failure ↔
    processResponse config response (handleAction decode) = .failed failure := by
  refine ⟨processResponse_of_fails, fun h => ?_⟩
  cases htry : tryResponse config response (handleAction decode) with
  | error e =>
    rw [processResponse_of_error htry] at h
    rw [← Outcome.failed.inj h]
    exact .thrown (throws_of_tryResponse htry)
  | ok outcome =>
    have houtcome : processResponse config response (handleAction decode) = outcome := by
      rw [processResponse, htry]
    rw [houtcome] at h
    exact fails_of_tryResponse (h ▸ htry)

end Failures

/-! ### How a failure is reported -/

section Reports

variable (config : ActionConfig) (request : ActionRequest) (response : Response)

/-- The error handler of the callback of a request. -/
def reportFailure : Failure → Report :=
  match request with
  | .placeOrder userId orderId => reportResponse config.stream .createOrder userId orderId 1
  | .modifyOrder userId orderId version =>
    reportResponse config.stream .modifyOrder userId orderId version
  | .cancelOrder userId orderId version =>
    reportResponse config.stream .cancelOrder userId orderId version
  | .cancelAllOrders _ => reportCancelAllOrders config.stream

/-- What a report says about the failure. -/
def Report.failure : Report → Failure
  | .response response _ _ _ =>
    ⟨response.origin, response.requestStatus, response.error, response.text⟩
  | .cancelAllOrdersAck ack => ⟨ack.origin, ack.requestStatus, ack.error, ack.text⟩

/-- All callbacks have one shape. -/
theorem onActionResponse_eq : onActionResponse config request response =
    acknowledgeAction config (decodeAction config request) (reportFailure config request)
      response := by
  cases request <;> rfl

variable {config request response}

/-- A failing answer is reported once. -/
theorem onActionResponse_of_fails {failure : Failure}
    (h : Fails config.toConfig (decodeAction config request) response failure) :
    onActionResponse config request response = .ok [reportFailure config request failure] := by
  rw [onActionResponse_eq, acknowledgeAction, processResponse_of_fails h]

/-- The reports on one order say what the failure is. -/
theorem failure_reportFailure (h : ∀ userId, request ≠ .cancelAllOrders userId)
    (failure : Failure) : (reportFailure config request failure).failure = failure := by
  cases request with
  | cancelAllOrders userId => exact absurd rfl (h userId)
  | _ => rfl

/-- An exception that the report on all orders describes. -/
def IsRejection (e : Exception) : Prop :=
  ∃ error what, e = .oms .exchange .rejected error what

/-- The report on all orders always says that the exchange rejected the request, which is so
unless an exception says otherwise. -/
theorem failure_reportCancelAllOrders_iff {decode : String → Except Exception Message} :
    (∀ failure, Fails config.toConfig decode response failure →
      (reportCancelAllOrders config.stream failure).failure = failure) ↔
    ∀ e, Throws config.toConfig decode response e → IsRejection e := by
  constructor
  · intro h e he
    have hfailure := h e.failure (.thrown he)
    cases e with
    | oms origin status error what =>
      simp only [Report.failure, reportCancelAllOrders, Exception.failure,
        Failure.mk.injEq] at hfailure
      exact ⟨error, what, by rw [← hfailure.1, ← hfailure.2.1]⟩
    | network status error what =>
      simp [Report.failure, reportCancelAllOrders, Exception.failure] at hfailure
    | std what => simp [Report.failure, reportCancelAllOrders, Exception.failure] at hfailure
  · intro h failure hfails
    cases hfails with
    | thrown he =>
      obtain ⟨error, what, rfl⟩ := h _ he
      rfl
    | _ => rfl

end Reports

/-- **Every failure is reported as what it is, except for the exceptions of a request to cancel
all orders.** For every request and every answer: each way in which the answer fails leads to
exactly one report, with its origin, its status, its error and its text, if and only if the
request is about one order, or no exception is thrown that says anything else than a rejection
by the exchange. -/
theorem failures_reported_iff (config : ActionConfig) (request : ActionRequest)
    (response : Response) :
    (∀ failure, Fails config.toConfig (decodeAction config request) response failure →
      ∃ report, onActionResponse config request response = .ok [report] ∧
        report.failure = failure) ↔
    ∀ userId, request = .cancelAllOrders userId →
      ∀ e, Throws config.toConfig (decodeAction config request) response e →
        IsRejection e := by
  have hreport : (∀ failure, Fails config.toConfig (decodeAction config request) response failure →
      ∃ report, onActionResponse config request response = .ok [report] ∧
        report.failure = failure) ↔
      ∀ failure, Fails config.toConfig (decodeAction config request) response failure →
        (reportFailure config request failure).failure = failure := by
    refine forall₂_congr fun failure hfails => ?_
    rw [onActionResponse_of_fails hfails]
    simp
  rw [hreport]
  by_cases hall : ∃ userId, request = .cancelAllOrders userId
  · obtain ⟨userId, rfl⟩ := hall
    rw [show reportFailure config (.cancelAllOrders userId) =
      reportCancelAllOrders config.stream from rfl, failure_reportCancelAllOrders_iff]
    exact ⟨fun h _ _ => h, fun h => h userId rfl⟩
  · have hone : ∀ userId, request ≠ .cancelAllOrders userId := fun userId h => hall ⟨userId, h⟩
    exact iff_of_true (fun failure _ => failure_reportFailure hone failure)
      fun userId h => absurd h (hone userId)

/-- Decoders that know two bodies: an acceptance, and a refusal for lack of funds. -/
def simpleDecode (body : String) : Except Exception Message :=
  if body = "ok" then .ok ⟨0, "success"⟩
  else if body = "refused" then .ok ⟨25202, "insufficient balance"⟩
  else .error (.std "unexpected")

/-- A stream with these decoders. -/
def simpleActionConfig : ActionConfig where
  toConfig := simpleConfig
  stream := ⟨2, "A1", "bitget"⟩
  decodePlaceOrderAck := simpleDecode
  decodeModifyOrderAck := simpleDecode
  decodeCancelOrderAck := simpleDecode
  decodeCancelAllOrdersAck := simpleDecode

/-- A timeout; the status is one that only exceptions carry. -/
def timeout : Response := ⟨0, .unknown, "", some (.network (.other 8) (.other 2) "timeout")⟩

/-- A request to cancel all orders that timed out is reported as rejected by the exchange. -/
theorem cancelAllTimeout_misreported :
    ∃ failure report, Fails simpleActionConfig.toConfig
        (decodeAction simpleActionConfig (.cancelAllOrders 1)) timeout failure ∧
      failure.origin = .gateway ∧
      onActionResponse simpleActionConfig (.cancelAllOrders 1) timeout = .ok [report] ∧
      report.failure.origin = .exchange ∧ report.failure.status = .rejected :=
  ⟨_, _, .thrown (.noAnswer rfl), rfl, rfl, rfl, rfl⟩

end OrderEntry

end RoqBitget.Gateway
