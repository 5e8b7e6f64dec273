import RoqBitget.Gateway.Instruments

set_option relaxedAutoImplicit false
set_option autoImplicit false

/-!
# Outdated instruments

`Rest` remembers with every request for the instruments the sequence number that its download
had then. When the answer comes, the download may have gone on, and the answer is to be skipped.
The success handler asks the download whether it is; the error handler retries without asking.

## Main definitions

* `RoqBitget.Gateway.Rest.Download` — what `Rest` asks of its download.
* `RoqBitget.Gateway.Rest.instrumentsAck`, `getInstruments` — the callback on a download and the
  sequence number of the request.
* `RoqBitget.Gateway.Rest.Passes` — an answer that is no error.

## Main results

* `RoqBitget.Gateway.Rest.outdated_world` — an outdated answer publishes nothing.
* `RoqBitget.Gateway.Rest.outdated_ignored_iff` — it leaves the download alone exactly if it is
  no error.
-/

namespace RoqBitget.Gateway.Rest

open Effects

/-- `Rest::State`. -/
inductive State
  | undefined
  | instruments
  | done
  deriving DecidableEq

/-- `core::Download2<State>`, as far as an answer needs it. -/
structure Download where
  /-- The objects. -/
  Object : Type
  /-- `sequence`. -/
  sequence : Object → UInt32
  /-- `skip`: whether an answer to a request with a sequence number is outdated. -/
  skip : Object → UInt32 → State → Bool
  /-- `retry`. -/
  retry : State → Object → Object
  /-- `check`. -/
  check : State → Object → Object

variable {C : Type} {D : Download}

/-- `Rest`: its download, and what it publishes. -/
structure Session (C : Type) (D : Download) where
  download : D.Object
  world : World C

/-- What the callback asks of the download, on the download. -/
def DownloadCall.apply (call : DownloadCall) (download : D.Object) : D.Object :=
  match call with
  | .nothing | .fatal => download
  | .retry => D.retry .instruments download
  | .check => D.check .instruments download

/-- `Rest::get_instruments_ack`, with the sequence number of the request; also what it asks of the
download. -/
def instrumentsAck (config : Config) (environment : Environment C) (sequence : UInt32)
    (response : Response) (s : Session C D) : Session C D × DownloadCall :=
  let skip := D.skip s.download sequence .instruments
  let (world, call) := getInstrumentsAck config environment skip response s.world
  (⟨call.apply s.download, world⟩, call)

/-- `Rest::get_instruments`: the callback of the request, which knows the sequence number that the
download has now. -/
def getInstruments (config : Config) (s : Session C D) (environment : Environment C)
    (response : Response) : Session C D → Session C D × DownloadCall :=
  instrumentsAck config environment (D.sequence s.download) response

/-- An answer is no error: it has a successful status, or one that `process_response` expects
although it does not know its category. A redirection ends the process. -/
def Passes (response : Response) : Prop :=
  response.error = none ∧
    (response.category = .success ∨ response.category = .redirection ∨
      response.status = 200 ∧
        (response.category = .unknown ∨ response.category = .informationalResponse))

/-- Nothing is published, and the download is neither retried nor checked. -/
def Ignored (s : Session C D) (result : Session C D × DownloadCall) : Prop :=
  result.1.world = s.world ∧ result.2 ≠ .retry ∧ result.2 ≠ .check

section Outdated

variable {config : Config} {environment : Environment C} {sequence : UInt32} {s : Session C D}

/-- What is ignored leaves the download as it was. -/
theorem Ignored.download {response : Response}
    (h : Ignored s (instrumentsAck config environment sequence response s)) :
    (instrumentsAck config environment sequence response s).1 = s := by
  obtain ⟨hworld, hretry, hcheck⟩ := h
  have hsession : (instrumentsAck config environment sequence response s).1 =
      ⟨(instrumentsAck config environment sequence response s).2.apply s.download,
        (instrumentsAck config environment sequence response s).1.world⟩ := rfl
  rw [hsession, hworld]
  cases hcall : (instrumentsAck config environment sequence response s).2 with
  | nothing => rfl
  | fatal => rfl
  | retry => exact absurd hcall hretry
  | check => exact absurd hcall hcheck

/-- An outdated answer is never handled. -/
theorem handled_outdated (config : Config) (response : Response) :
    handled config true response = none := by
  unfold handled
  split <;> rfl

/-- **An outdated answer publishes nothing.** -/
theorem outdated_world (hskip : D.skip s.download sequence .instruments = true)
    (response : Response) :
    (instrumentsAck config environment sequence response s).1.world = s.world := by
  rw [instrumentsAck, hskip]
  exact getInstrumentsAck_of_not_handled (handled_outdated config response) environment s.world

/-- An outdated answer that passes asks nothing of the download. -/
theorem outdated_call_of_passes (config : Config) (environment : Environment C)
    {response : Response} (h : Passes response) (w : World C) :
    (getInstrumentsAck config environment true response w).2 = .nothing ∨
      (getInstrumentsAck config environment true response w).2 = .fatal := by
  obtain ⟨status, category, body, error⟩ := response
  obtain ⟨herror, hcategory⟩ := h
  obtain rfl : error = none := herror
  rcases hcategory with hsuccess | hredirection | ⟨hstatus, hunknown | hinformational⟩
  · obtain rfl : category = .success := hsuccess
    exact .inl rfl
  · obtain rfl : category = .redirection := hredirection
    exact .inr rfl
  · obtain rfl : category = .unknown := hunknown
    obtain rfl : status = 200 := hstatus
    exact .inl rfl
  · obtain rfl : category = .informationalResponse := hinformational
    obtain rfl : status = 200 := hstatus
    exact .inl rfl

/-- A status that is not expected retries the download. -/
theorem call_of_unexpectedStatus (config : Config) (environment : Environment C)
    {category : Category} (hcategory : category = .unknown ∨ category = .informationalResponse)
    {status : ℕ} (hstatus : status ≠ 200) (body : String) (w : World C) :
    (getInstrumentsAck config environment true ⟨status, category, body, none⟩ w).2 = .retry := by
  have hthrown : tryResponse config environment true ⟨status, category, body, none⟩ w =
      .error (config.unexpectedStatus status) w := by
    rcases hcategory with rfl | rfl <;> exact congrFun (if_neg hstatus) w
  rw [getInstrumentsAck, hthrown]

/-- An error of the client retries the download, whether its body is an error message or not. -/
theorem call_of_clientError (config : Config) (environment : Environment C) (status : ℕ)
    (body : String) (w : World C) :
    (getInstrumentsAck config environment true ⟨status, .clientError, body, none⟩ w).2 =
      .retry := by
  by_cases hlimit : status = 403 ∨ status = 418 ∨ status = 429
  · have hlimited : tryResponse config environment true ⟨status, .clientError, body, none⟩ w =
        .ok .retry w := congrFun (if_pos hlimit) w
    rw [getInstrumentsAck, hlimited]
  · -- the body is an error message, or the decoder throws
    have hread : tryResponse config environment true ⟨status, .clientError, body, none⟩ w =
        (decoded (config.decodeMessage body) >>= fun _ => pure .retry) w :=
      congrFun (if_neg hlimit) w
    rw [getInstrumentsAck, hread]
    cases hmessage : config.decodeMessage body with
    | ok message =>
      rw [bind_of_ok (decoded_ok rfl w)]
      rfl
    | error e => rw [bind_of_error (decoded_error rfl w)]

/-- **An error retries the download**, however outdated it is. -/
theorem outdated_call_of_not_passes (config : Config) (environment : Environment C)
    {response : Response} (h : ¬ Passes response) (w : World C) :
    (getInstrumentsAck config environment true response w).2 = .retry := by
  obtain ⟨status, category, body, error⟩ := response
  cases error with
  | some e => rfl
  | none =>
    cases category with
    | success => exact absurd ⟨rfl, .inl rfl⟩ h
    | redirection => exact absurd ⟨rfl, .inr (.inl rfl)⟩ h
    | unknown =>
      have hstatus : status ≠ 200 := fun hstatus => h ⟨rfl, .inr (.inr ⟨hstatus, .inl rfl⟩)⟩
      exact call_of_unexpectedStatus config environment (.inl rfl) hstatus body w
    | informationalResponse =>
      have hstatus : status ≠ 200 := fun hstatus => h ⟨rfl, .inr (.inr ⟨hstatus, .inr rfl⟩)⟩
      exact call_of_unexpectedStatus config environment (.inr rfl) hstatus body w
    | clientError => exact call_of_clientError config environment status body w
    | serverError => rfl

/-- An outdated answer is ignored exactly if it is no error: the error handler retries the
download without asking whether the answer is outdated. -/
theorem outdated_ignored_iff (config : Config) (environment : Environment C)
    (hskip : D.skip s.download sequence .instruments = true) (response : Response) :
    Ignored s (instrumentsAck config environment sequence response s) ↔ Passes response := by
  have hcall : (instrumentsAck config environment sequence response s).2 =
      (getInstrumentsAck config environment true response s.world).2 := by
    rw [instrumentsAck, hskip]
  constructor
  · rintro ⟨-, hretry, -⟩
    by_contra hnot
    exact hretry (hcall.trans (outdated_call_of_not_passes config environment hnot s.world))
  · intro hpasses
    refine ⟨outdated_world hskip response, ?_⟩
    rw [hcall]
    rcases outdated_call_of_passes config environment hpasses s.world with h | h <;> rw [h] <;>
      exact ⟨by simp, by simp⟩

end Outdated

/-! ## A download to run -/

/-- A download that counts its attempts; an answer to an earlier attempt is outdated. -/
def attempts : Download where
  Object := UInt32
  sequence attempt := attempt
  skip attempt sequence _ := attempt ≠ sequence
  retry _ attempt := attempt + 1
  check _ attempt := attempt + 1

/-- A session in its `n`-th attempt. -/
def attempt (n : UInt32) : Session Unit attempts := ⟨n, World.initial ()⟩

/-- A success that comes in the second attempt on a request of the first one is ignored. -/
theorem success_ignored :
    Ignored (attempt 2)
      (getInstruments twoInstrumentsConfig (attempt 1) (throwingAt none) (answer "") (attempt 2)) :=
  (outdated_ignored_iff twoInstrumentsConfig (throwingAt none) rfl (answer "")).mpr
    ⟨rfl, .inl rfl⟩

/-- The same with status `500` retries the download. -/
theorem serverError_not_ignored :
    ¬ ∀ (D : Download) (s : Session Unit D) (sequence : UInt32) (response : Response),
      D.skip s.download sequence .instruments = true →
      Ignored s
        (instrumentsAck twoInstrumentsConfig (throwingAt none) sequence response s) := by
  intro hclaim
  have hignored := hclaim attempts (attempt 2) 1 ⟨500, .serverError, "", none⟩ rfl
  exact hignored.2.1 rfl

end RoqBitget.Gateway.Rest
