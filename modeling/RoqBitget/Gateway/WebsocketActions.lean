import RoqBitget.Foundations.Connections
import RoqBitget.Gateway.PrivateMessages

set_option relaxedAutoImplicit false
set_option autoImplicit false

/-!
# Order actions over the websocket in a run

Order actions are sent over the websocket while everything else goes on, and the exchange answers
them in any order, with acknowledgements and with errors. What was sent over a connection that is
lost is not answered any more.

## Main definitions

* `RoqBitget.Gateway.PrivateStream.Request`, `requestOf` — a request, and what its id is read as.
* `RoqBitget.Gateway.PrivateStream.answer?` — the request that a text answers, and the responses.
* `RoqBitget.Gateway.PrivateStream.Honest` — what is expected of the exchange and of the order
  manager.
* `RoqBitget.Gateway.PrivateStream.responsesTo` — the responses that say that they are about a
  request.

## Main results

* `RoqBitget.Gateway.PrivateStream.wellUsed_of_run` — the requests of a run are recorded.
* `RoqBitget.Gateway.PrivateStream.id_of_sent` — every id that is sent is recorded as its request.
* `RoqBitget.Gateway.PrivateStream.actions_settled` — which responses there are to a request.

## Implementation notes

The order manager gives an id to every request, and never the same one to two requests of a kind.
-/

namespace RoqBitget.Gateway.PrivateStream

open RoqBitget.Core Runs DropCopy Protocol.Encoder Connections

/-! ## Requests and answers -/

/-- A request for an order action. -/
structure Request where
  topic : ActionTopic
  requestId : String
  deriving DecidableEq

/-- The request that an id is read as. -/
def requestOf (id : String) : Option Request :=
  match parseId id with
  | (.undefined, _) => none
  | (.createOrder, requestId) => some ⟨.placeOrder, requestId⟩
  | (.modifyOrder, requestId) => some ⟨.modifyOrder, requestId⟩
  | (.cancelOrder, requestId) => some ⟨.cancelOrder, requestId⟩

/-- **An id is read as the request that it was written for.** -/
theorem requestOf_eq_some {id : String} {request : Request} :
    requestOf id = some request ↔
      request.requestId ≠ "" ∧ id = wsId request.topic request.requestId := by
  have hread : ∀ topic : ActionTopic, ∀ requestId ≠ "",
      requestOf (wsId topic requestId) = some ⟨topic, requestId⟩ := by
    intro topic requestId hne
    rw [requestOf, parseId_wsId topic hne]
    cases topic <;> rfl
  constructor
  · intro h
    have hdefined : (parseId id).1 ≠ .undefined := by
      cases hparse : parseId id with
      | mk requestType requestId =>
        rintro rfl
        simp [requestOf, hparse] at h
    obtain ⟨topic, requestId, hne, rfl⟩ := exists_wsId hdefined
    rw [hread topic requestId hne] at h
    obtain rfl := Option.some.inj h
    exact ⟨hne, rfl⟩
  · rintro ⟨hne, rfl⟩
    exact hread request.topic request.requestId hne

/-- The request that a call answers. -/
def answered? : Protocol.Parser.Call → Option Request
  | .error obj => requestOf obj.id
  | .placeOrder obj => some ⟨.placeOrder, (parseId obj.id).2⟩
  | .modifyOrder obj => some ⟨.modifyOrder, (parseId obj.id).2⟩
  | .cancelOrder obj => some ⟨.cancelOrder, (parseId obj.id).2⟩
  | _ => none

/-- The call that a text leads to. -/
def call? (config : MessageConfig) (payload : String) : Option Protocol.Parser.Call :=
  match Protocol.Parser.dispatch config.decoders payload config.allowUnknownEventTypes with
  | .called call => some call
  | _ => none

/-- The responses among the updates. -/
def responses (updates : List Update) : List Dispatched :=
  updates.filterMap fun
    | .response dispatched => some dispatched
    | _ => none

/-- The request that a text answers, and the responses to it. -/
def answer? (config : MessageConfig) (payload : String) : Option (Request × List Dispatched) :=
  ((call? config payload).bind answered?).map fun request =>
    (request, responses (updatesOf config payload))

/-- A response says that it is about a request. -/
def About (request : Request) (dispatched : Dispatched) : Prop :=
  dispatched.response.requestType = request.topic.requestType ∧
    dispatched.response.requestId = request.requestId

instance (request : Request) (dispatched : Dispatched) : Decidable (About request dispatched) :=
  inferInstanceAs (Decidable (_ ∧ _))

/-- A response is about one request. -/
theorem About.inj {request request' : Request} {dispatched : Dispatched}
    (h : About request dispatched) (h' : About request' dispatched) : request = request' := by
  obtain ⟨topic, requestId⟩ := request
  obtain ⟨topic', requestId'⟩ := request'
  obtain rfl : topic = topic' := requestType_injective (h.1.symm.trans h'.1)
  obtain rfl : requestId = requestId' := h.2.symm.trans h'.2
  rfl

section Answers

variable (config : MessageConfig)

/-- What is dispatched in a loop is a response to the request of the acknowledgement. -/
theorem about_onActionAck (topic : ActionTopic) (ack : Protocol.ActionAck) :
    ∀ dispatched ∈ onActionAck config.stream topic ack,
      About ⟨topic, (parseId ack.id).2⟩ dispatched := by
  intro dispatched hdispatched
  rw [onActionAck_eq, respond, List.mem_map] at hdispatched
  obtain ⟨item, -, rfl⟩ := hdispatched
  exact ⟨rfl, rfl⟩

/-- Responses are responses. -/
theorem responses_map (dispatched : List Dispatched) :
    responses (dispatched.map .response) = dispatched := by
  rw [responses, List.filterMap_map]
  exact List.filterMap_some

/-- Other updates are no responses. -/
theorem responses_eq_nil {α : Type} {f : α → Update}
    (hf : ∀ a dispatched, f a ≠ .response dispatched) (items : List α) :
    responses (items.map f) = [] := by
  rw [responses, List.filterMap_map, List.filterMap_eq_nil_iff]
  intro a _
  cases hfa : f a with
  | response dispatched => exact absurd hfa (hf a dispatched)
  | _ => simp [hfa]

/-- The response to an error is about the request that its id is read as. -/
theorem about_onError {obj : Protocol.JsonError} {dispatched : Dispatched}
    (h : onError config.stream config.retryLogon obj = .respond dispatched) :
    ∃ request, requestOf obj.id = some request ∧ About request dispatched := by
  unfold onError at h
  cases hparse : parseId obj.id with
  | mk requestType requestId =>
    rw [hparse] at h
    cases requestType with
    | undefined =>
      dsimp only at h
      split_ifs at h
    | createOrder =>
      obtain rfl := ErrorReaction.respond.inj h
      exact ⟨⟨.placeOrder, requestId⟩, by rw [requestOf, hparse], rfl, rfl⟩
    | modifyOrder =>
      obtain rfl := ErrorReaction.respond.inj h
      exact ⟨⟨.modifyOrder, requestId⟩, by rw [requestOf, hparse], rfl, rfl⟩
    | cancelOrder =>
      obtain rfl := ErrorReaction.respond.inj h
      exact ⟨⟨.cancelOrder, requestId⟩, by rw [requestOf, hparse], rfl, rfl⟩

/-- **The responses to an answer.** All responses of a call are about the request that the call
answers. -/
theorem about_responses (shared : Shared) (call : Protocol.Parser.Call) :
    ∀ dispatched ∈ responses (onCall config shared call).updates,
      ∃ request, answered? call = some request ∧ About request dispatched := by
  intro dispatched hdispatched
  cases call with
  | error obj =>
    simp only [onCall] at hdispatched
    cases hreaction : onError config.stream config.retryLogon obj with
    | respond response =>
      rw [hreaction] at hdispatched
      obtain rfl : dispatched = response := by
        simpa [Reaction.updates, responses] using hdispatched
      exact about_onError config hreaction
    | _ => simp [hreaction, Reaction.updates, responses] at hdispatched
  | placeOrder obj =>
    refine ⟨_, rfl, about_onActionAck config .placeOrder obj dispatched ?_⟩
    rwa [onCall, Reaction.updates, responses_map] at hdispatched
  | modifyOrder obj =>
    refine ⟨_, rfl, about_onActionAck config .modifyOrder obj dispatched ?_⟩
    rwa [onCall, Reaction.updates, responses_map] at hdispatched
  | cancelOrder obj =>
    refine ⟨_, rfl, about_onActionAck config .cancelOrder obj dispatched ?_⟩
    rwa [onCall, Reaction.updates, responses_map] at hdispatched
  | account obj => simp [onCall, Reaction.updates, responses_eq_nil] at hdispatched
  | position obj => simp [onCall, Reaction.updates, responses_eq_nil] at hdispatched
  | order obj => simp [onCall, Reaction.updates, responses_eq_nil] at hdispatched
  | fill obj => simp [onCall, Reaction.updates, responses_eq_nil] at hdispatched
  | _ => simp [onCall, Reaction.updates, responses] at hdispatched

/-- All responses of a text are about the request that the text answers. -/
theorem about_answer {payload : String} {dispatched : Dispatched}
    (h : dispatched ∈ responses (updatesOf config payload)) :
    ∃ request, answer? config payload = some (request, responses (updatesOf config payload)) ∧
      About request dispatched := by
  have hcall : ∃ call, call? config payload = some call ∧
      dispatched ∈ responses (onCall config ⟨[]⟩ call).updates := by
    unfold updatesOf parse at h
    unfold call?
    cases hdispatch : Protocol.Parser.dispatch config.decoders payload
        config.allowUnknownEventTypes with
    | called call =>
      rw [hdispatch] at h
      exact ⟨call, rfl, h⟩
    | _ => simp [hdispatch, Reaction.updates, responses] at h
  obtain ⟨call, hcall, hmem⟩ := hcall
  obtain ⟨request, hanswered, habout⟩ := about_responses config ⟨[]⟩ call dispatched hmem
  refine ⟨request, ?_, habout⟩
  rw [answer?, hcall, Option.bind_some, hanswered, Option.map_some]

/-- The responses of a text that are about a request: all of them if the text answers it, and
otherwise none. -/
theorem filter_about (request : Request) (payload : String) :
    (responses (updatesOf config payload)).filter (About request ·) =
      match answer? config payload with
      | some (answered, dispatched) => if answered = request then dispatched else []
      | none => [] := by
  cases hanswer : answer? config payload with
  | none =>
    dsimp only
    rw [List.filter_eq_nil_iff]
    intro dispatched hdispatched
    obtain ⟨_, hsome, -⟩ := about_answer config hdispatched
    rw [hanswer] at hsome
    cases hsome
  | some answer =>
    obtain ⟨answered, dispatched⟩ := answer
    have hall : dispatched = responses (updatesOf config payload) := by
      rw [answer?, Option.map_eq_some_iff] at hanswer
      obtain ⟨_, -, hpair⟩ := hanswer
      exact (Prod.mk.inj hpair).2.symm
    have habout : ∀ d ∈ responses (updatesOf config payload), About answered d := by
      intro d hd
      obtain ⟨answered', hsome, habout⟩ := about_answer config hd
      rw [hanswer, Option.some.injEq, Prod.mk.injEq] at hsome
      exact hsome.1 ▸ habout
    dsimp only
    split_ifs with hrequest
    · subst hrequest
      rw [hall, List.filter_eq_self]
      exact fun d hd => decide_eq_true (habout d hd)
    · rw [List.filter_eq_nil_iff]
      intro d hd hother
      exact hrequest ((habout d hd).inj (of_decide_eq_true hother))

end Answers

/-! ## What is recorded -/

/-- What an entry of the history does to the requests. -/
def logStep (config : MessageConfig) (entry : Entry Event Action) :
    Option (Connections.Step Request (List Dispatched)) :=
  match entry.event with
  | .order action _ _ requestId =>
    if entry.actions.any fun
      | .sendOrder _ => true
      | _ => false
    then some (.sent ⟨topic action, requestId⟩)
    else none
  | .text payload =>
    (answer? config payload).map fun (request, dispatched) => .answered request dispatched
  | .disconnected => some .lost
  | _ => none

/-- The requests, answers and losses of a history. -/
def log (config : MessageConfig) (h : History Event Action) :
    List (Connections.Step Request (List Dispatched)) := h.filterMap (logStep config)

/-- The history with one more entry. -/
theorem log_cons (config : MessageConfig) (entry : Entry Event Action)
    (h : History Event Action) :
    log config (entry :: h) = (logStep config entry).toList ++ log config h := by
  rw [log, List.filterMap_cons]
  cases logStep config entry <;> rfl

/-- The responses about a request, in order. -/
def responsesTo (request : Request) (h : History Event Action) : List Dispatched :=
  (responses (updates (Runs.actions h))).filter (About request ·)

/-- The answer is to a request that is outstanding, and has its id; an error may also have an id
that no request has. -/
def Answerable (outstanding : List Request) : Protocol.Parser.Call → Prop
  | .error obj => ∀ request ∈ requestOf obj.id, request ∈ outstanding
  | .placeOrder obj => ∃ request ∈ requestOf obj.id, request.topic = .placeOrder ∧
      request ∈ outstanding
  | .modifyOrder obj => ∃ request ∈ requestOf obj.id, request.topic = .modifyOrder ∧
      request ∈ outstanding
  | .cancelOrder obj => ∃ request ∈ requestOf obj.id, request.topic = .cancelOrder ∧
      request ∈ outstanding
  | _ => True

instance (outstanding : List Request) :
    (call : Protocol.Parser.Call) → Decidable (Answerable outstanding call)
  | .error obj => inferInstanceAs (Decidable (∀ request ∈ requestOf obj.id, _))
  | .placeOrder obj | .modifyOrder obj | .cancelOrder obj =>
    inferInstanceAs (Decidable (∃ request ∈ requestOf obj.id, _))
  | .subscribe _ | .ticker _ | .publicTrade _ | .books _ | .login _ | .account _ | .position _
  | .order _ | .fill _ => isTrue trivial

/-- What is expected of the exchange, which answers what is outstanding on the connection, and of
the order manager, which does not use an id twice for one kind of action. -/
def Honest (config : MessageConfig) {L : LimitRequest} {D : Download2 DropCopy.State (World L)}
    (h : History Event Action) (_ : PrivateStream L D) : Event → Prop
  | .order action _ _ requestId => .sent ⟨topic action, requestId⟩ ∉ log config h
  | .text payload =>
    ∀ call ∈ call? config payload, Answerable (Connections.outstanding (log config h)) call
  | _ => True

instance (config : MessageConfig) {L : LimitRequest} {D : Download2 DropCopy.State (World L)}
    (h : History Event Action) (s : PrivateStream L D) :
    (e : Event) → Decidable (Honest config h s e)
  | .order action _ _ requestId =>
    inferInstanceAs (Decidable (.sent ⟨topic action, requestId⟩ ∉ log config h))
  | .text payload =>
    inferInstanceAs (Decidable (∀ call ∈ call? config payload, _))
  | .rest _ | .shared _ | .connected _ | .ready _ | .close | .latency _ | .binary | .disconnected
  | .timer _ _ _ => isTrue trivial

section Runs

variable {L : LimitRequest} {D : Download2 DropCopy.State (World L)} {config : MessageConfig}
  {ok : History Event Action → PrivateStream L D → Event → Prop} {h : History Event Action}
  {s : PrivateStream L D} {e : Event} {request : Request}

/-- What an answerable call answers is outstanding. -/
theorem mem_of_answerable {outstanding : List Request} {call : Protocol.Parser.Call}
    (h : Answerable outstanding call) (hanswered : answered? call = some request) :
    request ∈ outstanding := by
  have hack : ∀ topic id, (∃ r ∈ requestOf id, r.topic = topic ∧ r ∈ outstanding) →
      some (⟨topic, (parseId id).2⟩ : Request) = some request → request ∈ outstanding := by
    rintro topic id ⟨r, hr, rfl, hmem⟩ hrequest
    obtain ⟨hne, rfl⟩ := requestOf_eq_some.mp hr
    rw [parseId_wsId r.topic hne] at hrequest
    exact Option.some.inj hrequest ▸ hmem
  cases call with
  | error obj => exact h request hanswered
  | placeOrder obj => exact hack _ obj.id h hanswered
  | modifyOrder obj => exact hack _ obj.id h hanswered
  | cancelOrder obj => exact hack _ obj.id h hanswered
  | _ => simp [answered?] at hanswered

/-- **Step lemma.** What an honest event does to the requests is expected. -/
theorem expected_logStep (hhonest : Honest config h s e) (actions : List Action) :
    ∀ step ∈ logStep config ⟨e, actions⟩, Expected (log config h) step := by
  intro step hstep
  cases e with
  | order action order refData requestId =>
    simp only [logStep] at hstep
    split_ifs at hstep
    · obtain rfl := Option.mem_some_iff.mp hstep
      exact hhonest
    · cases hstep
  | text payload =>
    obtain ⟨⟨answered, dispatched⟩, hanswer, rfl⟩ := Option.mem_map.mp hstep
    obtain ⟨answered', hcall, hpair⟩ := Option.map_eq_some_iff.mp hanswer
    obtain ⟨call, hcall, hanswered⟩ := Option.bind_eq_some_iff.mp hcall
    obtain ⟨rfl, -⟩ := Prod.mk.inj hpair
    exact mem_of_answerable (hhonest call hcall) hanswered
  | disconnected =>
    obtain rfl := Option.mem_some_iff.mp hstep
    trivial
  | _ => cases hstep

/-- **Run lemma.** If all events are honest, no request is sent twice and only outstanding ones
are answered. -/
theorem wellUsed_of_run (run : Run (system config L D) (Honest config) h s) :
    WellUsed (log config h) := by
  refine run.invariant (P := fun h _ => WellUsed (log config h)) trivial ?_
  intro h s e _ ih _ hhonest
  have hexpected := expected_logStep hhonest ((system config L D).step s e).2
  rw [log_cons]
  cases hstep : logStep config ⟨e, ((system config L D).step s e).2⟩ with
  | none => exact ih
  | some step => exact ⟨hexpected step hstep, ih⟩

/-- An entry adds its responses about a request. -/
theorem responsesTo_cons (request : Request) (entry : Entry Event Action)
    (h : History Event Action) : responsesTo request (entry :: h) =
      responsesTo request h ++ (responses (updates entry.actions)).filter (About request ·) := by
  rw [responsesTo, Runs.actions_cons, updates, List.filterMap_append, responses,
    List.filterMap_append, List.filter_append]
  rfl

/-- An event without a text answers nothing. -/
theorem answers_log_cons (request : Request) (h : History Event Action) (actions : List Action)
    (he : e.text? = none) :
    answers request (log config (⟨e, actions⟩ :: h)) = answers request (log config h) := by
  rw [log_cons]
  cases e with
  | text payload => simp [Event.text?] at he
  | order action order refData requestId =>
    simp only [logStep]
    split_ifs
    · exact answers_sent _
    · rfl
  | disconnected => exact answers_lost
  | _ => rfl

/-- **The responses about a request are those of the answers to it**, in every run. -/
theorem responsesTo_of_run (run : Run (system config L D) ok h s) (request : Request) :
    responsesTo request h = (answers request (log config h)).reverse.flatten := by
  refine run.invariant (P := fun h _ => responsesTo request h =
    (answers request (log config h)).reverse.flatten) rfl ?_
  intro h s e _ ih _ _
  have hupdates : updates ((system config L D).step s e).2 =
      e.text?.toList.flatMap (updatesOf config) := updates_react config s e
  rw [responsesTo_cons, ih, hupdates]
  cases htext : e.text? with
  | none =>
    rw [answers_log_cons request h _ htext]
    exact List.append_nil _
  | some payload =>
    obtain rfl : e = .text payload := by
      cases e <;> simp_all [Event.text?]
    rw [Option.toList_some, List.flatMap_singleton, filter_about, log_cons]
    simp only [logStep]
    cases answer? config payload with
    | none => exact List.append_nil _
    | some answer =>
      obtain ⟨answered, dispatched⟩ := answer
      rw [Option.map_some, Option.toList_some, List.singleton_append, answers_answered]
      dsimp only
      split_ifs
      · rw [List.reverse_cons, List.flatten_append, List.flatten_singleton]
      · exact List.append_nil _

/-- **A request is sent in a message that has its id.** -/
theorem id_of_sent (run : Run (system config L D) ok h s) {entry : Entry Event Action}
    (hentry : entry ∈ h) (hsent : logStep config entry = some (.sent request)) :
    ∃ rest, .sendOrder (beforeId request.topic ++ wsId request.topic request.requestId ++
      afterId request.topic ++ rest) ∈ entry.actions := by
  obtain ⟨h', s', -, -, -, hactions⟩ := run.of_mem hentry
  obtain ⟨e, actions⟩ := entry
  obtain rfl : actions = (react config s' e).2 := hactions
  cases e with
  | order action order refData requestId =>
    obtain ⟨rest, hmessage⟩ := message_id config.format s'.encodeBuffer action order refData
      requestId config.instType
    simp only [logStep] at hsent
    split_ifs at hsent with hany
    · obtain rfl : ⟨topic action, requestId⟩ = request := by simpa using hsent
      refine ⟨rest, ?_⟩
      simp only [react, onOrder, hmessage] at hany ⊢
      split_ifs at hany ⊢
      · exact List.mem_singleton_self _
      · simp at hany
  | text payload =>
    obtain ⟨_, -, hanswered⟩ := Option.map_eq_some_iff.mp hsent
    cases hanswered
  | disconnected => cases hsent
  | _ => cases hsent

/-- **Which responses there are to a request.** In every run in which the exchange answers what is
outstanding on the connection and no id is used twice, a request that was sent is outstanding,
answered or lost. If it was answered, the responses about it are those to this one answer, and
otherwise there are none; in particular, what was outstanding when the connection was lost gets
none. Whatever follows, a request that is answered or lost gets no other response. What is recorded
as sent is a request that was sent in a message with its id. -/
theorem actions_settled (run : Run (system config L D) (Honest config) h s) (request : Request) :
    (fate request (log config h) = .unsent ↔ .sent request ∉ log config h) ∧
      responsesTo request h = (fate request (log config h)).answers.flatten ∧
      ((fate request (log config h)).Final → ∀ after s',
        Run (system config L D) (Honest config) (after ++ h) s' →
          fate request (log config (after ++ h)) = fate request (log config h) ∧
          responsesTo request (after ++ h) = responsesTo request h) ∧
      ∀ entry ∈ h, logStep config entry = some (.sent request) →
        ∃ rest, .sendOrder (beforeId request.topic ++ wsId request.topic request.requestId ++
          afterId request.topic ++ rest) ∈ entry.actions := by
  have hresponses : ∀ h (s : PrivateStream L D), Run (system config L D) (Honest config) h s →
      responsesTo request h = (fate request (log config h)).answers.flatten := by
    intro h s run
    rw [responsesTo_of_run run, (wellUsed_of_run run).answers_eq]
    cases fate request (log config h) <;> rfl
  refine ⟨(wellUsed_of_run run).fate_eq_unsent, hresponses h s run, ?_,
    fun entry hentry hsent => id_of_sent run hentry hsent⟩
  intro hfinal after s' hafter
  have hfate : fate request (log config (after ++ h)) = fate request (log config h) := by
    have hused := wellUsed_of_run hafter
    rw [log, List.filterMap_append] at hused ⊢
    exact hused.fate_append hfinal
  refine ⟨hfate, ?_⟩
  rw [hresponses _ _ hafter, hresponses _ _ run, hfate]

end Runs

/-! ## Three cancellations -/

/-- An order that the exchange knows. -/
def simpleOrder : Order := ⟨"77", "oAAB"⟩

/-- An order is to be cancelled. -/
def cancel (requestId : String) : Event := .order .cancel simpleOrder simpleRefData requestId

/-- Three orders are to be cancelled; two of the requests are answered before the connection is
lost. -/
def threeCancellations : List Event :=
  [.connected 1, .ready (seconds 1700000000), .text "login", cancel "1001", cancel "1002",
    cancel "1003", .text "refused", .text "cancelled", .disconnected]

/-- There is one response to each request that was answered, and none to the third one. -/
theorem threeCancellations_settled :
    (responsesTo ⟨.cancelOrder, "1001"⟩
      (play (simpleStream false) threeCancellations).1).length = 1 ∧
    (responsesTo ⟨.cancelOrder, "1002"⟩
      (play (simpleStream false) threeCancellations).1).length = 1 ∧
    responsesTo ⟨.cancelOrder, "1003"⟩ (play (simpleStream false) threeCancellations).1 = [] := by
  have hrun : Run (simpleStream false) (Honest (simpleMessageConfig false))
      (play (simpleStream false) threeCancellations).1
      (play (simpleStream false) threeCancellations).2 := Run.play (by decide +kernel)
  have hsettled := fun request => (actions_settled hrun request).2.1
  refine ⟨?_, ?_, ?_⟩
  · rw [hsettled]
    decide +kernel
  · rw [hsettled]
    decide +kernel
  · rw [hsettled]
    decide +kernel

end RoqBitget.Gateway.PrivateStream
