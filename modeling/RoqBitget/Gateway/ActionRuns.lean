import RoqBitget.Foundations.Outstanding
import RoqBitget.Gateway.ActionAcks
import RoqBitget.Gateway.Session

set_option relaxedAutoImplicit false
set_option autoImplicit false

/-!
# Order actions in a run

The requests for order actions that the REST stream sends while everything else goes on: any of
them may be outstanding at a time, and they are answered in any order. The order manager waits
for one response to each of them.

## Main definitions

* `RoqBitget.Gateway.actionSystem` — the two streams of an account, with order actions.
* `RoqBitget.Gateway.Served` — a request is outstanding, or got the one response it should get.

## Main results

* `RoqBitget.Gateway.consistent_of_run` — every request is answered once at most.
* `RoqBitget.Gateway.actions_served_iff` — all requests are served if and only if none of them
  was accepted, nor answered by a status that no handler looks at.

## Implementation notes

The order manager gives the version of a modification and of a cancellation; the first version
of an order is `1`.
-/

namespace RoqBitget.Gateway

open RoqBitget.Core Runs OrderEntry DropCopy Outstanding

variable {L : LimitRequest} {D : Download2 State (World L)}

/-! ## The system -/

/-- A request for an order action that the REST connection accepted. -/
structure SentAction where
  id : ℕ
  request : ActionRequest
  deriving DecidableEq

/-- The two streams of an account, and the order actions that are outstanding. -/
structure ActionSession (L : LimitRequest) (D : Download2 State (World L)) where
  session : Session L D
  inFlight : List SentAction
  nextId : ℕ

/-- What can happen while order actions are sent. -/
inductive ActionEvent
  /-- An event of the streams that concerns no order action. -/
  | other (event : Event)
  /-- An order action is requested; the connection may refuse to send it. -/
  | request (request : ActionRequest) (accepts : Bool)
  /-- The REST stream is called back with the answer to an order action. -/
  | response (sent : SentAction) (response : Response)

/-- What the REST stream does for order actions. -/
inductive ActionStep
  | send (sent : SentAction)
  | dispatch (report : Report)
  deriving DecidableEq

/-- `OrderEntry::place_order`, `modify_order`, `cancel_order` and `cancel_all_orders`: they throw
unless the stream is ready and the connection accepts the request. -/
def requestAction (request : ActionRequest) (accepts : Bool) (s : ActionSession L D) :
    ActionSession L D × List ActionStep :=
  if s.session.world.orderEntryStatus = .ready ∧ accepts = true then
    ({ s with inFlight := s.inFlight ++ [⟨s.nextId, request⟩], nextId := s.nextId + 1 },
      [.send ⟨s.nextId, request⟩])
  else (s, [])

/-- The answer to an order action. -/
def answerAction (config : ActionConfig) (sent : SentAction) (response : Response)
    (s : ActionSession L D) : ActionSession L D × List ActionStep :=
  let s := { s with inFlight := s.inFlight.erase sent }
  match onActionResponse config sent.request response with
  | .ok reports => (s, reports.map .dispatch)
  | .error fatal =>
    ({ s with session := { s.session with world := s.session.world.abort fatal } }, [])

/-- The reaction to an event. -/
def reactAction (config : ActionConfig) (s : ActionSession L D) :
    ActionEvent → ActionSession L D × List ActionStep
  | .other event => ({ s with session := react config.toConfig (fresh s.session) event }, [])
  | .request request accepts => requestAction request accepts s
  | .response sent response => answerAction config sent response s

/-- Nothing happens after `log::fatal`, and only outstanding requests are answered. -/
def enabledAction (s : ActionSession L D) (e : ActionEvent) : Prop :=
  s.session.world.aborted = none ∧
    match e with
    | .other event => enabled s.session event
    | .request _ _ => True
    | .response sent _ => sent ∈ s.inFlight

instance (s : ActionSession L D) : (e : ActionEvent) → Decidable (enabledAction s e)
  | .other event => inferInstanceAs (Decidable (_ ∧ enabled s.session event))
  | .request _ _ => inferInstanceAs (Decidable (_ ∧ True))
  | .response sent _ => inferInstanceAs (Decidable (_ ∧ sent ∈ s.inFlight))

/-- The two streams of an account, with order actions. -/
def actionSystem (config : ActionConfig) (L : LimitRequest) (D : Download2 State (World L)) :
    System (ActionSession L D) ActionEvent ActionStep where
  init := ⟨⟨D.create, World.initial L⟩, [], 0⟩
  enabled := enabledAction
  step s e := reactAction config s e

instance (config : ActionConfig) (s : ActionSession L D) (e : ActionEvent) :
    Decidable ((actionSystem config L D).enabled s e) :=
  inferInstanceAs (Decidable (enabledAction s e))

/-! ## What happens to a request -/

/-- The history of one run. -/
abbrev ActionHistory := History ActionEvent ActionStep

/-- What an entry of the history does to the outstanding requests. -/
def logStep (entry : Entry ActionEvent ActionStep) :
    Option (Outstanding.Step SentAction Response) :=
  match entry.event, entry.actions with
  | .request _ _, .send sent :: _ => some (.sent sent)
  | .response sent response, _ => some (.answered sent response)
  | _, _ => none

/-- The requests and answers of a history. -/
def log (h : ActionHistory) : List (Outstanding.Step SentAction Response) := h.filterMap logStep

/-- The reports that were dispatched in the callback of a request, latest first. -/
def reportsTo (sent : SentAction) (h : ActionHistory) : List Report :=
  h.flatMap fun entry =>
    match entry.event with
    | .response sent' _ =>
      if sent' = sent then
        entry.actions.filterMap fun
          | .dispatch report => some report
          | .send _ => none
      else []
    | _ => []

/-- The reports on an answer. -/
def reportsOn (config : ActionConfig) (request : ActionRequest) (response : Response) :
    List Report :=
  match onActionResponse config request response with
  | .ok reports => reports
  | .error _ => []

/-- The callback of a request dispatches the reports on the answer. -/
theorem actions_answerAction (config : ActionConfig) (sent : SentAction) (response : Response)
    (s : ActionSession L D) : (answerAction config sent response s).2 =
      (reportsOn config sent.request response).map .dispatch := by
  unfold answerAction reportsOn
  cases onActionResponse config sent.request response <;> rfl

/-- The requests of a run are consistently recorded, with ids in order. -/
structure Recorded (h : ActionHistory) (s : ActionSession L D) : Prop where
  consistent : Consistent (log h) s.inFlight
  below : ∀ sent, WasSent sent (log h) → sent.id < s.nextId

/-- **Step lemma.** Every reaction is recorded. -/
theorem recorded_reactAction (config : ActionConfig) {h : ActionHistory} {s : ActionSession L D}
    {e : ActionEvent} (he : enabledAction s e) (hs : Recorded h s) :
    Recorded (⟨e, (reactAction config s e).2⟩ :: h) (reactAction config s e).1 := by
  cases e with
  | other event => exact ⟨hs.consistent, hs.below⟩
  | request request accepts =>
    show Recorded (⟨.request request accepts, (requestAction request accepts s).2⟩ :: h)
      (requestAction request accepts s).1
    unfold requestAction
    split_ifs with hready
    · have hlog : log (⟨.request request accepts, [.send ⟨s.nextId, request⟩]⟩ :: h) =
          .sent ⟨s.nextId, request⟩ :: log h := rfl
      refine ⟨?_, fun sent hsent => ?_⟩
      · rw [hlog]
        exact hs.consistent.sent fun hsent => (hs.below _ hsent).false
      · rw [hlog, wasSent_sent] at hsent
        rcases hsent with rfl | hsent
        · exact Nat.lt_succ_self s.nextId
        · exact (hs.below sent hsent).trans (Nat.lt_succ_self s.nextId)
    · exact ⟨hs.consistent, hs.below⟩
  | response sent response =>
    have hinFlight : (answerAction config sent response s).1.inFlight = s.inFlight.erase sent := by
      unfold answerAction
      cases onActionResponse config sent.request response <;> rfl
    have hnextId : (answerAction config sent response s).1.nextId = s.nextId := by
      unfold answerAction
      cases onActionResponse config sent.request response <;> rfl
    have hlog : ∀ actions, log (⟨.response sent response, actions⟩ :: h) =
        .answered sent response :: log h := fun _ => rfl
    refine ⟨?_, fun sent' hsent => ?_⟩
    · rw [reactAction, hlog, hinFlight]
      exact hs.consistent.answered he.2
    · rw [reactAction, hlog, wasSent_answered] at hsent
      rw [reactAction, hnextId]
      exact hs.below sent' hsent

/-- **Run lemma.** The requests of every run are recorded. -/
theorem recorded_of_run (config : ActionConfig)
    {ok : ActionHistory → ActionSession L D → ActionEvent → Prop} {h : ActionHistory}
    {s : ActionSession L D} (run : Run (actionSystem config L D) ok h s) : Recorded h s := by
  refine run.invariant (P := fun h s => Recorded h s) ?_ ?_
  · exact ⟨.nil, by simp [WasSent, log]⟩
  · intro h s e _ ih henabled _
    exact recorded_reactAction config henabled ih

/-- What was reported to a request is what is reported on its answers. -/
theorem reportsTo_of_run (config : ActionConfig)
    {ok : ActionHistory → ActionSession L D → ActionEvent → Prop} {h : ActionHistory}
    {s : ActionSession L D} (run : Run (actionSystem config L D) ok h s) (sent : SentAction) :
    reportsTo sent h =
      (answers sent (log h)).flatMap fun response => reportsOn config sent.request response := by
  refine run.invariant (P := fun h _ => reportsTo sent h = (answers sent (log h)).flatMap
    fun response => reportsOn config sent.request response) rfl ?_
  intro h s e _ ih _ _
  cases e with
  | other event => exact ih
  | request request accepts =>
    show reportsTo sent (⟨.request request accepts, (requestAction request accepts s).2⟩ :: h) =
      (answers sent (log (⟨.request request accepts, (requestAction request accepts s).2⟩ ::
        h))).flatMap fun response => reportsOn config sent.request response
    unfold requestAction
    split_ifs
    · have hlog : log (⟨.request request accepts, [.send ⟨s.nextId, request⟩]⟩ :: h) =
          .sent ⟨s.nextId, request⟩ :: log h := rfl
      rw [hlog, answers_sent]
      exact ih
    · exact ih
  | response sent' response =>
    have hlog : ∀ actions, log (⟨.response sent' response, actions⟩ :: h) =
        .answered sent' response :: log h := fun _ => rfl
    rw [hlog, answers_answered]
    by_cases hsent : sent' = sent
    · subst hsent
      rw [if_pos rfl, List.flatMap_cons, ← ih, reportsTo, List.flatMap_cons]
      refine congrArg (· ++ reportsTo sent' h) ?_
      dsimp only [actionSystem, reactAction]
      rw [if_pos rfl, actions_answerAction, List.filterMap_map]
      exact List.filterMap_some
    · rw [if_neg hsent, ← ih, reportsTo, List.flatMap_cons]
      simp [hsent, reportsTo]

/-! ## How an answer ends -/

section Answers

variable (config : ActionConfig) (request : ActionRequest) (response : Response)

/-- The exchange accepted the request: the status is one of a success (`2xx`), and the body is
decoded to a code of zero. The body of another answer is only decoded for its error. -/
def Accepted : Prop :=
  response.error = none ∧ response.category = .success ∧
    ∃ ack, decodeAction config request response.body = .ok ack ∧ ack.code = 0

/-- An answer that no handler looks at: its status is `200`, but not of the category of a
success. -/
def Unhandled : Prop :=
  response.error = none ∧
    (response.category = .unknown ∨ response.category = .informationalResponse) ∧
    response.status = 200

variable {config request response}

variable (config request) in
/-- **Every answer but a redirection fails or is accepted or unhandled**, and it is reported,
once, if it fails. -/
theorem reportsOn_cases (hredirected : ¬ Redirected response) :
    (Accepted config request response ∨ Unhandled response) ∧
        reportsOn config request response = [] ∨
      ∃ failure, Fails config.toConfig (decodeAction config request) response failure ∧
        reportsOn config request response = [reportFailure config request failure] := by
  have hreports : ∀ outcome, processResponse config.toConfig response
      (handleAction (decodeAction config request)) = outcome →
      outcome = .dispatched ∨ outcome = .ignored → reportsOn config request response = [] := by
    rintro outcome houtcome (rfl | rfl) <;>
      rw [reportsOn, onActionResponse_eq, acknowledgeAction, houtcome]
  cases houtcome : processResponse config.toConfig response
      (handleAction (decodeAction config request)) with
  | failed failure =>
    have hfails := fails_iff.mpr houtcome
    exact .inr ⟨failure, hfails, by rw [reportsOn, onActionResponse_of_fails hfails]⟩
  | dispatched =>
    refine .inl ⟨.inl ?_, hreports _ houtcome (.inl rfl)⟩
    cases (processResponse_eq_iff (by simp)).mp houtcome with
    | success herror hcategory hresult =>
      obtain ⟨ack, hdecode, ⟨hcode, -⟩ | ⟨-, hfailed⟩⟩ := handleAction_eq_ok.mp hresult
      · exact ⟨herror, hcategory, ack, hdecode, hcode⟩
      · cases hfailed
  | ignored =>
    refine .inl ⟨.inr ?_, hreports _ houtcome (.inr rfl)⟩
    cases (processResponse_eq_iff (by simp)).mp houtcome with
    | expected herror hcategory hstatus => exact ⟨herror, hcategory, hstatus⟩
    | success herror hcategory hresult =>
      obtain ⟨ack, -, ⟨-, hdispatched⟩ | ⟨-, hfailed⟩⟩ := handleAction_eq_ok.mp hresult
      · cases hdispatched
      · cases hfailed
  | fatal fatal =>
    rcases fatal_of_processResponse houtcome with ⟨hredirection, -⟩ | ⟨-, -, hresult⟩
    · exact absurd hredirection hredirected
    · obtain ⟨ack, -, ⟨-, hdispatched⟩ | ⟨-, hfailed⟩⟩ := handleAction_eq_ok.mp hresult
      · cases hdispatched
      · cases hfailed

/-- An answer that fails is neither accepted nor unhandled. -/
theorem not_accepted_of_fails {failure : Failure}
    (h : Fails config.toConfig (decodeAction config request) response failure) :
    ¬ Accepted config request response ∧ ¬ Unhandled response := by
  have hfailed := processResponse_of_fails h
  constructor
  · rintro ⟨herror, hcategory, ack, hdecode, hcode⟩
    have hdispatched : handleAction (decodeAction config request) response.body =
        .ok .dispatched := handleAction_eq_ok.mpr ⟨ack, hdecode, .inl ⟨hcode, rfl⟩⟩
    rw [processResponse_of_tried (.success herror hcategory hdispatched)] at hfailed
    cases hfailed
  · rintro ⟨herror, hcategory, hstatus⟩
    rw [processResponse_of_tried (.expected herror hcategory hstatus)] at hfailed
    cases hfailed

/-- The status of a failure is one of a rejection, or that of an exception. -/
theorem status_of_fails {failure : Failure}
    (h : Fails config.toConfig (decodeAction config request) response failure)
    (hthrows : ∀ e, Throws config.toConfig (decodeAction config request) response e →
      e.failure.status ≠ .accepted) : failure.status ≠ .accepted := by
  cases h with
  | thrown h => exact hthrows _ h
  | _ => simp

end Answers

/-! ## Served requests -/

/-- Whom the response to an action on one order is addressed to. -/
structure Address where
  requestType : RequestType
  userId : UInt8
  orderId : UInt64
  version : UInt32

/-- The address of a request; a request to cancel all orders gets no response. -/
def address : ActionRequest → Option Address
  | .placeOrder userId orderId => some ⟨.createOrder, userId, orderId, 1⟩
  | .modifyOrder userId orderId version => some ⟨.modifyOrder, userId, orderId, version⟩
  | .cancelOrder userId orderId version => some ⟨.cancelOrder, userId, orderId, version⟩
  | .cancelAllOrders _ => none

/-- The reports are one response to an address, with a status of some kind. -/
def Responds (config : ActionConfig) (addressee : Address) (status : RequestStatus → Prop)
    (reports : List Report) : Prop :=
  ∃ r : Oms.Response,
    reports = [.response r config.stream.streamId addressee.userId addressee.orderId] ∧
      r.requestType = addressee.requestType ∧ r.version = addressee.version ∧
      status r.requestStatus

/-- A request is served: it is outstanding and nothing was reported, or it was answered once and
got exactly one response, which says that it was accepted iff it was. -/
def Served (config : ActionConfig) (h : ActionHistory) (s : ActionSession L D)
    (sent : SentAction) (addressee : Address) : Prop :=
  (sent ∈ s.inFlight ∧ reportsTo sent h = []) ∨
    ∃ response, answers sent (log h) = [response] ∧
      Responds config addressee
        (fun status => status = .accepted ↔ Accepted config sent.request response)
        (reportsTo sent h)

/-- The answers that a run is about: none redirects the request, and no exception claims that
the request was accepted. -/
def Receivable (config : ActionConfig) (_ : ActionHistory) (_ : ActionSession L D) :
    ActionEvent → Prop
  | .response sent response =>
    ¬ Redirected response ∧
      ∀ e, Throws config.toConfig (decodeAction config sent.request) response e →
        e.failure.status ≠ .accepted
  | _ => True

/-- The answers of a run are receivable. -/
theorem receivable_of_run {config : ActionConfig} {h : ActionHistory} {s : ActionSession L D}
    (run : Run (actionSystem config L D) (Receivable config) h s) {sent : SentAction}
    {response : Response} (hanswered : response ∈ answers sent (log h)) :
    ¬ Redirected response ∧
      ∀ e, Throws config.toConfig (decodeAction config sent.request) response e →
        e.failure.status ≠ .accepted := by
  induction run with
  | init => simp [log, answers] at hanswered
  | @step h s e _ _ guard ih =>
    cases e with
    | other event => exact ih hanswered
    | request request accepts =>
      apply ih
      have hlog : ∀ actions, answers sent (log (⟨.request request accepts, actions⟩ :: h)) =
          answers sent (log h) := by
        intro actions
        rcases actions with - | ⟨sent' | report, rest⟩
        · rfl
        · exact answers_sent sent sent' (log h)
        · rfl
      rwa [hlog] at hanswered
    | response sent' response' =>
      have hlog : ∀ actions, log (⟨.response sent' response', actions⟩ :: h) =
          .answered sent' response' :: log h := fun _ => rfl
      rw [hlog, answers_answered] at hanswered
      split_ifs at hanswered with hsent
      · rcases List.mem_cons.mp hanswered with rfl | hbefore
        · exact hsent ▸ guard
        · exact ih hbefore
      · exact ih hanswered

/-- The report on a failure is one response to the address of the request. -/
theorem responds_reportFailure {config : ActionConfig} {request : ActionRequest}
    {addressee : Address} (hto : address request = some addressee) {failure : Failure}
    {status : RequestStatus → Prop} (hstatus : status failure.status) :
    Responds config addressee status [reportFailure config request failure] := by
  cases request with
  | cancelAllOrders userId => simp [address] at hto
  | _ =>
    obtain rfl := Option.some.inj hto
    exact ⟨_, rfl, rfl, rfl, hstatus⟩

/-- **The actions on one order are all served if and only if none of them was accepted**, nor
answered by a status that no handler looks at. This holds after every run of the two streams, in
which the requests are answered in any order and everything else goes on. -/
theorem actions_served_iff (config : ActionConfig) {h : ActionHistory} {s : ActionSession L D}
    (run : Run (actionSystem config L D) (Receivable config) h s) :
    (∀ sent addressee, WasSent sent (log h) → address sent.request = some addressee →
      Served config h s sent addressee) ↔
    ∀ sent addressee response, response ∈ answers sent (log h) →
      address sent.request = some addressee →
        ¬ Accepted config sent.request response ∧ ¬ Unhandled response := by
  have hrecorded := recorded_of_run config run
  have hreports := reportsTo_of_run config run
  constructor
  · intro hserved sent addressee response hanswered hto
    have hsent : WasSent sent (log h) := by
      by_contra hnot
      simp [hrecorded.consistent.answers_eq_nil hnot] at hanswered
    rcases hserved sent addressee hsent hto with ⟨hmem, -⟩ | ⟨response', hone, hresponds⟩
    · rcases hrecorded.consistent.answered_once hsent with ⟨-, hnone⟩ | ⟨hnot, -⟩
      · simp [hnone] at hanswered
      · exact absurd hmem hnot
    · rw [hone, List.mem_singleton] at hanswered
      subst hanswered
      have hresponse : response ∈ answers sent (log h) := by simp [hone]
      rcases reportsOn_cases config sent.request
        (receivable_of_run run hresponse).1 with ⟨-, hnone⟩ | ⟨failure, hfails, -⟩
      · obtain ⟨r, hr, -⟩ := hresponds
        rw [hreports sent, hone, List.flatMap_singleton, hnone] at hr
        simp at hr
      · exact not_accepted_of_fails hfails
  · intro hcondition sent addressee hsent hto
    rcases hrecorded.consistent.answered_once hsent with ⟨hmem, hnone⟩ | ⟨-, response, hone⟩
    · exact .inl ⟨hmem, by rw [hreports sent, hnone, List.flatMap_nil]⟩
    · have hresponse : response ∈ answers sent (log h) := by simp [hone]
      obtain ⟨haccepted, hunhandled⟩ := hcondition sent addressee response hresponse hto
      obtain ⟨hredirected, hthrows⟩ := receivable_of_run run hresponse
      refine .inr ⟨response, hone, ?_⟩
      rw [hreports sent, hone, List.flatMap_singleton]
      rcases reportsOn_cases config sent.request hredirected with
        ⟨hquiet, -⟩ | ⟨failure, hfails, hreport⟩
      · exact absurd hquiet (by simp [haccepted, hunhandled])
      · rw [hreport]
        exact responds_reportFailure hto
          (iff_of_false (status_of_fails hfails hthrows) haccepted)

/-! ## Two runs -/

/-- The two streams with order actions, and the reference implementations. -/
abbrev simpleActionSystem : System (ActionSession flags sequencer) ActionEvent ActionStep :=
  actionSystem simpleActionConfig flags sequencer

/-- A new order and a cancellation are sent, and the cancellation is answered first. -/
def placeAndCancel (body : String) : List ActionEvent :=
  [.other .restConnected, .request (.placeOrder 1 1001) true,
    .request (.cancelOrder 1 1000 2) true,
    .response ⟨1, .cancelOrder 1 1000 2⟩ (answer "refused"),
    .response ⟨0, .placeOrder 1 1001⟩ (answer body)]

/-- The answers of these runs are receivable, if the last one is decoded. -/
theorem run_placeAndCancel {body : String} (ack : Message) (hbody : simpleDecode body = .ok ack) :
    Run simpleActionSystem (Receivable simpleActionConfig)
      (play simpleActionSystem (placeAndCancel body)).1
      (play simpleActionSystem (placeAndCancel body)).2 := by
  have hreceivable : ∀ (request : ActionRequest) (body : String) (ack : Message),
      simpleDecode body = .ok ack → decodeAction simpleActionConfig request = simpleDecode →
      ¬ Redirected (answer body) ∧ ∀ e, Throws simpleActionConfig.toConfig
        (decodeAction simpleActionConfig request) (answer body) e →
          e.failure.status ≠ .accepted := by
    intro request body ack hdecode hrequest
    refine ⟨by simp [Redirected, answer], fun e he => ?_⟩
    cases he with
    | noAnswer h => simp [answer] at h
    | unexpected h hcategory => simp [answer] at hcategory
    | body h hcategory hthrown =>
      rw [hrequest] at hthrown
      exact absurd (hdecode.symm.trans hthrown) (by simp)
    | message h hcategory => simp [answer] at hcategory
  refine Run.play ⟨?_, trivial, ?_, trivial, ?_, trivial, ?_, ?_, ?_, ?_, trivial⟩
  · exact ⟨rfl, rfl, trivial⟩
  · exact ⟨rfl, trivial⟩
  · exact ⟨rfl, trivial⟩
  · exact ⟨rfl, by decide⟩
  · exact hreceivable (.cancelOrder 1 1000 2) "refused" ⟨25202, "insufficient balance"⟩ rfl rfl
  · exact ⟨rfl, List.mem_singleton.mpr rfl⟩
  · exact hreceivable (.placeOrder 1 1001) body ack hbody rfl

/-- If both are refused, both are served. -/
theorem bothRefused_served :
    Served simpleActionConfig (play simpleActionSystem (placeAndCancel "refused")).1
        (play simpleActionSystem (placeAndCancel "refused")).2 ⟨0, .placeOrder 1 1001⟩
        ⟨.createOrder, 1, 1001, 1⟩ ∧
      Served simpleActionConfig (play simpleActionSystem (placeAndCancel "refused")).1
        (play simpleActionSystem (placeAndCancel "refused")).2 ⟨1, .cancelOrder 1 1000 2⟩
        ⟨.cancelOrder, 1, 1000, 2⟩ := by
  have hlog : log (play simpleActionSystem (placeAndCancel "refused")).1 =
      [.answered ⟨0, .placeOrder 1 1001⟩ (answer "refused"),
        .answered ⟨1, .cancelOrder 1 1000 2⟩ (answer "refused"),
        .sent ⟨1, .cancelOrder 1 1000 2⟩, .sent ⟨0, .placeOrder 1 1001⟩] := rfl
  have hserved := (actions_served_iff simpleActionConfig
    (run_placeAndCancel ⟨25202, "insufficient balance"⟩ rfl)).mpr fun sent addressee response
      hresponse _ => by
    have hrefused : response = answer "refused" := by
      rw [hlog, answers_answered, answers_answered] at hresponse
      split_ifs at hresponse
      · simpa [answers] using hresponse
      · simpa [answers] using hresponse
      · simpa [answers] using hresponse
      · simp [answers] at hresponse
    subst hrefused
    refine ⟨?_, by simp [Unhandled, answer]⟩
    rintro ⟨-, -, ack, hdecode, hcode⟩
    cases hrequest : sent.request <;> rw [hrequest] at hdecode <;>
      (obtain rfl := Except.ok.inj hdecode; simp at hcode)
  refine ⟨hserved _ _ ?_ rfl, hserved _ _ ?_ rfl⟩
  · rw [hlog]
    simp [WasSent]
  · rw [hlog]
    simp [WasSent]

/-- A new order that the exchange accepted gets no response. -/
theorem acceptedOrder_notServed :
    Run simpleActionSystem (Receivable simpleActionConfig)
        (play simpleActionSystem (placeAndCancel "ok")).1
        (play simpleActionSystem (placeAndCancel "ok")).2 ∧
      WasSent ⟨0, .placeOrder 1 1001⟩ (log (play simpleActionSystem (placeAndCancel "ok")).1) ∧
      ¬ Served simpleActionConfig (play simpleActionSystem (placeAndCancel "ok")).1
        (play simpleActionSystem (placeAndCancel "ok")).2 ⟨0, .placeOrder 1 1001⟩
        ⟨.createOrder, 1, 1001, 1⟩ := by
  refine ⟨run_placeAndCancel ⟨0, "success"⟩ rfl, ?_, ?_⟩
  · exact List.mem_of_mem_getLast? rfl
  · have hreports : reportsTo ⟨0, .placeOrder 1 1001⟩
        (play simpleActionSystem (placeAndCancel "ok")).1 = [] := by decide +kernel
    have hinFlight : (play simpleActionSystem (placeAndCancel "ok")).2.inFlight = [] := rfl
    rintro (⟨hmem, -⟩ | ⟨response, -, r, hr, -⟩)
    · simp [hinFlight] at hmem
    · simp [hreports] at hr

end RoqBitget.Gateway
