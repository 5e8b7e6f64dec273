import RoqBitget.Gateway.World

set_option relaxedAutoImplicit false
set_option autoImplicit false

/-!
# REST answers

How `OrderEntry` reads a REST answer: by the category of its status, by its body, and by the
exceptions thrown on the way. Every answer ends in the success handler or in the error handler
of its callback.

## Main definitions

* `RoqBitget.Gateway.processResponse` — the dispatch on status and category.
* `RoqBitget.Gateway.Tried` — the ways in which its `try` block ends.
* `RoqBitget.Gateway.handleSuccess`, `handleOrderDetails` — the success handlers.
* `RoqBitget.Gateway.Successful` — a decoded body whose code is zero.

## Main results

* `RoqBitget.Gateway.tried_iff` — the `try` block ends in exactly these ways.
* `RoqBitget.Gateway.dispatched_iff_successful` — an answer is dispatched iff it is successful.
* `RoqBitget.Gateway.processResponse_fatal` — which answers end the process.

## Implementation notes

The assertion on status `409` is left out: the source falls through to the default.
-/

namespace RoqBitget.Gateway

/-- `web::http::Category`. -/
inductive Category
  | unknown
  | informationalResponse
  | success
  | redirection
  | clientError
  | serverError
  deriving DecidableEq

/-- A REST answer; `error` is what `result` throws when there is no answer. -/
structure Response where
  status : ℕ
  category : Category
  body : String
  error : Option Exception
  deriving DecidableEq

/-- An answer that the exchange gave with status `200`. -/
def answer (body : String) : Response := ⟨200, .success, body, none⟩

/-- `Response::result`. -/
def Response.result (response : Response) : Except Exception (ℕ × Category × String) :=
  match response.error with
  | some e => .error e
  | none => .ok (response.status, response.category, response.body)

/-- `guess_error`. -/
def guessError (code : ℤ) : Error :=
  if code = 429 then .requestRateLimitReached
  else if code = 22001 then .tooLateToModifyOrCancel
  else if code = 25202 then .insufficientFunds
  else if code = 25203 then .insufficientFunds
  else .unknown

/-- An `int64_t` that is passed as an `int32_t`. -/
def toInt32 (n : ℤ) : ℤ := (BitVec.ofInt 32 n).toInt

/-- What the handlers of an answer end with. -/
inductive Outcome
  /-- The answer was dispatched. -/
  | dispatched
  /-- The error handler was called. -/
  | failed (failure : Failure)
  /-- No handler was called. -/
  | ignored
  /-- `log::fatal` was called. -/
  | fatal (fatal : Fatal)
  deriving DecidableEq

/-- The success handler of all answers but order details. -/
def handleSuccess (config : Config) (endpoint : Endpoint) (body : String) :
    Except Exception Outcome := do
  let ack ← config.decode endpoint body
  if ack.code = 0 then
    return .dispatched
  else
    return .failed ⟨.exchange, .rejected, guessError ack.code, ack.msg⟩

/-- `OrderEntry::operator()(Trace<protocol::json::OrderDetailsAck> const &, …)`. -/
def onOrderDetailsAck (ack : Ack) (clientOrderId : String) : Outcome :=
  if ack.clientOid ≠ "" ∧ ack.clientOid ≠ clientOrderId then .fatal .clientOidMismatch
  else .dispatched

/-- The success handler of order details; `25204` says that the order does not exist. -/
def handleOrderDetails (config : Config) (clientOrderId : String) (body : String) :
    Except Exception Outcome := do
  let ack ← config.decode (.orderDetails clientOrderId) body
  if ack.code = 0 ∨ ack.code = 25204 then
    return onOrderDetailsAck ack clientOrderId
  else
    return .failed ⟨.exchange, .rejected, guessError ack.code, ack.msg⟩

/-- The body of the `try` block of `process_response`. -/
def tryResponse (config : Config) (response : Response)
    (successHandler : String → Except Exception Outcome) : Except Exception Outcome := do
  let (status, category, body) ← response.result
  match category with
  | .unknown | .informationalResponse =>
    if status = 200 then return .ignored else throw (config.unexpectedStatus status)
  | .success => successHandler body
  | .redirection => return .fatal .redirection
  | .clientError =>
    if status = 403 ∨ status = 418 ∨ status = 429 then
      return .failed ⟨.exchange, .rejected, .requestRateLimitReached, config.statusText status⟩
    else
      let error ← config.decodeMessage body
      return .failed ⟨.exchange, .rejected, guessError (toInt32 error.code), error.msg⟩
  | .serverError => return .failed ⟨.exchange, .rejected, .unknown, config.statusText status⟩

/-- `OrderEntry::process_response`. -/
def processResponse (config : Config) (response : Response)
    (successHandler : String → Except Exception Outcome) : Outcome :=
  match tryResponse config response successHandler with
  | .ok outcome => outcome
  | .error (.oms origin status error what) => .failed ⟨origin, status, error, what⟩
  | .error (.network status error what) => .failed ⟨.gateway, status, error, what⟩
  | .error (.std what) => .failed ⟨.exchange, .error, .unknown, what⟩

/-! ## What can happen to an answer -/

/-- How the `try` block ends: by what is thrown, by the category of the status, or by the success
handler. -/
inductive Tried (config : Config) (response : Response)
    (successHandler : String → Except Exception Outcome) : Except Exception Outcome → Prop
  | noAnswer {e : Exception} (h : response.error = some e) :
      Tried config response successHandler (.error e)
  | expected (h : response.error = none)
      (hcategory : response.category = .unknown ∨ response.category = .informationalResponse)
      (hstatus : response.status = 200) : Tried config response successHandler (.ok .ignored)
  | unexpected (h : response.error = none)
      (hcategory : response.category = .unknown ∨ response.category = .informationalResponse)
      (hstatus : response.status ≠ 200) :
      Tried config response successHandler (.error (config.unexpectedStatus response.status))
  | success {result : Except Exception Outcome} (h : response.error = none)
      (hcategory : response.category = .success)
      (hresult : successHandler response.body = result) :
      Tried config response successHandler result
  | redirection (h : response.error = none) (hcategory : response.category = .redirection) :
      Tried config response successHandler (.ok (.fatal .redirection))
  | rateLimit (h : response.error = none) (hcategory : response.category = .clientError)
      (hstatus : response.status = 403 ∨ response.status = 418 ∨ response.status = 429) :
      Tried config response successHandler (.ok (.failed
        ⟨.exchange, .rejected, .requestRateLimitReached, config.statusText response.status⟩))
  | clientError {message : Message} (h : response.error = none)
      (hcategory : response.category = .clientError)
      (hstatus : ¬(response.status = 403 ∨ response.status = 418 ∨ response.status = 429))
      (hdecode : config.decodeMessage response.body = .ok message) :
      Tried config response successHandler (.ok (.failed
        ⟨.exchange, .rejected, guessError (toInt32 message.code), message.msg⟩))
  | message {e : Exception} (h : response.error = none)
      (hcategory : response.category = .clientError)
      (hstatus : ¬(response.status = 403 ∨ response.status = 418 ∨ response.status = 429))
      (hdecode : config.decodeMessage response.body = .error e) :
      Tried config response successHandler (.error e)
  | serverError (h : response.error = none) (hcategory : response.category = .serverError) :
      Tried config response successHandler (.ok (.failed
        ⟨.exchange, .rejected, .unknown, config.statusText response.status⟩))

section Tried

variable {config : Config} {response : Response}
  {successHandler : String → Except Exception Outcome}

/-- The `try` block ends in one of these ways. -/
theorem tried_tryResponse :
    Tried config response successHandler (tryResponse config response successHandler) := by
  unfold tryResponse Response.result
  cases herror : response.error with
  | some e => exact .noAnswer herror
  | none =>
    show Tried config response successHandler (match response.category with
      | .unknown | .informationalResponse => _
      | .success => _
      | .redirection => _
      | .clientError => _
      | .serverError => _)
    cases hcategory : response.category with
    | unknown =>
      dsimp only
      split_ifs with hstatus
      · exact .expected herror (.inl hcategory) hstatus
      · exact .unexpected herror (.inl hcategory) hstatus
    | informationalResponse =>
      dsimp only
      split_ifs with hstatus
      · exact .expected herror (.inr hcategory) hstatus
      · exact .unexpected herror (.inr hcategory) hstatus
    | success => exact .success herror hcategory rfl
    | redirection => exact .redirection herror hcategory
    | clientError =>
      dsimp only
      split_ifs with hstatus
      · exact .rateLimit herror hcategory hstatus
      · cases hdecode : config.decodeMessage response.body with
        | error e => exact .message herror hcategory hstatus hdecode
        | ok message => exact .clientError herror hcategory hstatus hdecode
    | serverError => exact .serverError herror hcategory

/-- **What the `try` block does**, read in both directions. -/
theorem tried_iff {result : Except Exception Outcome} :
    Tried config response successHandler result ↔
      tryResponse config response successHandler = result := by
  constructor
  · intro h
    unfold tryResponse Response.result
    cases h with
    | noAnswer h =>
      rw [h]
      rfl
    | expected h hcategory hstatus =>
      rcases hcategory with hcategory | hcategory <;>
        simp [h, hcategory, hstatus, bind, Except.bind, pure, Except.pure]
    | unexpected h hcategory hstatus =>
      rcases hcategory with hcategory | hcategory <;>
        simp [h, hcategory, hstatus, bind, Except.bind, throw, throwThe, MonadExceptOf.throw]
    | success h hcategory hresult => simp [h, hcategory, hresult, bind, Except.bind]
    | redirection h hcategory => simp [h, hcategory, bind, Except.bind, pure, Except.pure]
    | rateLimit h hcategory hstatus =>
      simp [h, hcategory, hstatus, bind, Except.bind, pure, Except.pure]
    | clientError h hcategory hstatus hdecode =>
      simp [h, hcategory, hstatus, hdecode, bind, Except.bind, pure, Except.pure]
    | message h hcategory hstatus hdecode =>
      simp [h, hcategory, hstatus, hdecode, bind, Except.bind]
    | serverError h hcategory => simp [h, hcategory, bind, Except.bind, pure, Except.pure]
  · rintro rfl
    exact tried_tryResponse

/-- An outcome of the `try` block is the outcome of the answer. -/
theorem processResponse_of_tried {outcome : Outcome}
    (h : Tried config response successHandler (.ok outcome)) :
    processResponse config response successHandler = outcome := by
  rw [processResponse, tried_iff.mp h]

/-- An outcome other than a failure is one of the `try` block. -/
theorem processResponse_eq_iff {outcome : Outcome} (h : ∀ failure, outcome ≠ .failed failure) :
    processResponse config response successHandler = outcome ↔
      Tried config response successHandler (.ok outcome) := by
  refine ⟨fun heq => ?_, processResponse_of_tried⟩
  rw [tried_iff]
  unfold processResponse at heq
  split at heq
  · next htry => rw [htry, heq]
  all_goals exact absurd heq.symm (h _)

end Tried

/-- A successful answer: there is one, its status is a success, and its body is decoded to an
answer whose code is zero. -/
def Successful (config : Config) (endpoint : Endpoint) (response : Response) : Prop :=
  response.error = none ∧ response.category = .success ∧
    ∃ ack, config.decode endpoint response.body = .ok ack ∧ ack.code = 0

/-- The success handler dispatches exactly the answers that are decoded to a code of zero. -/
private theorem handleSuccess_eq_dispatched (config : Config) (endpoint : Endpoint)
    (body : String) :
    handleSuccess config endpoint body = .ok .dispatched ↔
      ∃ ack, config.decode endpoint body = .ok ack ∧ ack.code = 0 := by
  unfold handleSuccess
  cases hdecode : config.decode endpoint body with
  | error e => simp [bind, Except.bind]
  | ok ack => by_cases hcode : ack.code = 0 <;> simp [bind, Except.bind, pure, Except.pure, hcode]

/-- **Dispatched means successful.** The answers that are dispatched are the successful ones,
whatever the other categories and the exceptions do. -/
theorem dispatched_iff_successful (config : Config) (endpoint : Endpoint) (response : Response) :
    processResponse config response (handleSuccess config endpoint) = .dispatched ↔
      Successful config endpoint response := by
  rw [processResponse_eq_iff (by simp), Successful, ← handleSuccess_eq_dispatched]
  constructor
  · intro htried
    cases htried with
    | success h hcategory hresult => exact ⟨h, hcategory, hresult⟩
  · rintro ⟨h, hcategory, hresult⟩
    exact .success h hcategory hresult

instance (config : Config) (endpoint : Endpoint) (response : Response) :
    Decidable (Successful config endpoint response) :=
  decidable_of_iff _ (dispatched_iff_successful config endpoint response)

/-! ## Fatal answers -/

/-- An answer that redirects the request. -/
def Redirected (response : Response) : Prop :=
  response.error = none ∧ response.category = .redirection

/-- Processing an answer is fatal only if it redirects the request, or if the success handler is
fatal on its body. -/
theorem fatal_of_processResponse {config : Config} {response : Response}
    {handler : String → Except Exception Outcome} {f : Fatal}
    (h : processResponse config response handler = .fatal f) :
    Redirected response ∧ f = .redirection ∨
      response.error = none ∧ response.category = .success ∧
        handler response.body = .ok (.fatal f) := by
  cases (processResponse_eq_iff (by simp)).mp h with
  | success herror hcategory hresult => exact .inr ⟨herror, hcategory, hresult⟩
  | redirection herror hcategory => exact .inl ⟨⟨herror, hcategory⟩, rfl⟩

/-- Processing an answer is fatal for a redirection, or if the success handler is. -/
theorem processResponse_fatal {config : Config} {response : Response}
    {handler : String → Except Exception Outcome} {f : Fatal}
    (h : processResponse config response handler = .fatal f) :
    f = .redirection ∨ ∃ body, handler body = .ok (.fatal f) := by
  rcases fatal_of_processResponse h with ⟨-, hf⟩ | ⟨-, -, hhandler⟩
  · exact .inl hf
  · exact .inr ⟨response.body, hhandler⟩

/-- No answer but order details is fatal, except for a redirection. -/
theorem handleSuccess_ne_fatal (config : Config) (endpoint : Endpoint) (body : String)
    (f : Fatal) : handleSuccess config endpoint body ≠ .ok (.fatal f) := by
  unfold handleSuccess
  cases config.decode endpoint body with
  | error e => simp [bind, Except.bind]
  | ok ack => by_cases hcode : ack.code = 0 <;> simp [bind, Except.bind, pure, Except.pure, hcode]

/-- Order details are fatal only if they are about another order. -/
theorem handleOrderDetails_fatal {config : Config} {clientOrderId body : String} {f : Fatal}
    (h : handleOrderDetails config clientOrderId body = .ok (.fatal f)) :
    f = .clientOidMismatch := by
  unfold handleOrderDetails onOrderDetailsAck at h
  cases hdecode : config.decode (.orderDetails clientOrderId) body with
  | error e => simp [hdecode, bind, Except.bind] at h
  | ok ack =>
    simp only [hdecode, bind, Except.bind, pure, Except.pure] at h
    split_ifs at h <;> simp_all

end RoqBitget.Gateway
