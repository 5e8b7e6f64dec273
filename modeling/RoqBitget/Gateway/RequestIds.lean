import RoqBitget.Gateway.ActionAcks
import RoqBitget.Protocol.Transports

set_option relaxedAutoImplicit false
set_option autoImplicit false

/-!
# Request ids over the websocket

An order action that is sent over the websocket carries an id: a letter for the kind of action,
a colon, and the request id. When the exchange refuses a message, it answers with an error that
has the same id, and the gateway tells from it which request was rejected.

## Main definitions

* `RoqBitget.Gateway.DropCopy.wsId` — the id of a message.
* `RoqBitget.Gateway.DropCopy.onError` — what an error leads to.
* `RoqBitget.Gateway.DropCopy.Rejects` — it leads to the rejection of a request.

## Main results

* `RoqBitget.Gateway.DropCopy.message_id` — where the id stands in a message.
* `RoqBitget.Gateway.DropCopy.parseId_wsId`, `exists_wsId` — `parse_id` reads exactly these ids.
* `RoqBitget.Gateway.DropCopy.rejects_iff` — which request an error rejects.
* `RoqBitget.Gateway.DropCopy.requestIds_roundTrip` — all of it together.

## Implementation notes

`Encoder::parse_id` counts bytes, and the model counts characters; the three letters and the
colon are one byte each, so that they agree. Of an error only what is looked at is modelled.
-/

namespace RoqBitget.Protocol

/-- An error over the websocket (`error.json`). -/
structure JsonError where
  code : ℤ
  msg : String
  id : String
  deriving DecidableEq

/-- `is_logon_error`. -/
def isLogonError (code : ℤ) : Bool :=
  code = 30005 ∨ code = 30011 ∨ code = 30012 ∨ code = 30013 ∨ code = 30015

end RoqBitget.Protocol

namespace RoqBitget.Gateway.DropCopy

open JsonText RoqBitget.Protocol RoqBitget.Protocol.Encoder

/-! ## What is written -/

/-- The id of a message. -/
def wsId (topic : ActionTopic) (requestId : String) : String :=
  match topic with
  | .placeOrder => "P:" ++ requestId
  | .modifyOrder => "M:" ++ requestId
  | .cancelOrder => "C:" ++ requestId

/-- The topic of an order action. -/
def topic : OrderAction → ActionTopic
  | .create _ => .placeOrder
  | .modify _ => .modifyOrder
  | .cancel => .cancelOrder

/-- What stands before the id of a message. -/
def beforeId : ActionTopic → String
  | .placeOrder => "\x7b\"op\":\"trade\",\"id\":\""
  | .modifyOrder => "\x7b\"id\":\""
  | .cancelOrder => "\x7b\"id\":\""

/-- What stands behind the id of a message, to begin with. -/
def afterId : ActionTopic → String
  | .placeOrder => "\",\"category\":\""
  | .modifyOrder => "\",\"op\":\"trade\",\"category\":\""
  | .cancelOrder => "\",\"op\":\"trade\",\"topic\":\"cancel-order\",\"args\":["

/-! ## What is read -/

/-- What an error leads to. -/
inductive ErrorReaction
  /-- A response is dispatched. -/
  | respond (dispatched : Dispatched)
  /-- The connection is closed. -/
  | close
  /-- The error is only logged. -/
  | log
  /-- `log::fatal`. -/
  | fatal
  deriving DecidableEq

/-- `DropCopy::operator()(Trace<protocol::json::Error> const &)`; `retryLogon` is
`settings.experimental.retry_logon`. -/
def onError (stream : Stream) (retryLogon : Bool) (error : JsonError) : ErrorReaction :=
  let (requestType, requestId) := parseId error.id
  match requestType with
  | .undefined =>
    if isLogonError error.code then
      if retryLogon then .close else .fatal
    else .log
  | .createOrder | .modifyOrder | .cancelOrder =>
    .respond
      { response :=
          { requestType := requestType
            origin := .exchange
            requestStatus := .rejected
            error := guessError error.code
            text := error.msg
            version := 0
            requestId := requestId
            externalOrderId := ""
            clientOrderId := ""
            quantity := .nan
            price := .nan }
        streamId := stream.streamId }

/-! ## The ids -/

/-- The letter that an id begins with. -/
def ActionTopic.letter : ActionTopic → Char
  | placeOrder => 'P'
  | modifyOrder => 'M'
  | cancelOrder => 'C'

/-- The characters of an id. -/
theorem toList_wsId (topic : ActionTopic) (requestId : String) :
    (wsId topic requestId).toList = topic.letter :: ':' :: requestId.toList := by
  cases topic <;> simp [wsId, ActionTopic.letter, String.toList_append]

/-- The letters are different. -/
theorem letter_injective {topic topic' : ActionTopic} (h : topic.letter = topic'.letter) :
    topic = topic' := by
  cases topic <;> cases topic' <;> simp_all [ActionTopic.letter]

/-- A topic has a request type. -/
theorem requestType_ne_undefined (topic : ActionTopic) : topic.requestType ≠ .undefined := by
  cases topic <;> decide

/-- The request types are different. -/
theorem requestType_injective {topic topic' : ActionTopic}
    (h : topic.requestType = topic'.requestType) : topic = topic' := by
  cases topic <;> cases topic' <;> simp_all [ActionTopic.requestType]

/-- **The three kinds of ids are apart**, and an id has one request id. -/
theorem wsId_inj {topic topic' : ActionTopic} {requestId requestId' : String}
    (h : wsId topic requestId = wsId topic' requestId') :
    topic = topic' ∧ requestId = requestId' := by
  have hlist := congrArg String.toList h
  rw [toList_wsId, toList_wsId, List.cons.injEq, List.cons.injEq] at hlist
  exact ⟨letter_injective hlist.1, String.toList_inj.mp hlist.2.2⟩

/-- **An id that was written is read.** -/
theorem parseId_wsId (topic : ActionTopic) {requestId : String} (h : requestId ≠ "") :
    parseId (wsId topic requestId) = (topic.requestType, requestId) := by
  obtain ⟨d, rest, hrequestId⟩ : ∃ d rest, requestId.toList = d :: rest :=
    List.exists_cons_of_ne_nil fun hnil => h (String.toList_eq_nil_iff.mp hnil)
  have hback : String.ofList (d :: rest) = requestId := by
    rw [← hrequestId, String.ofList_toList]
  unfold parseId
  rw [toList_wsId, hrequestId, ← hback]
  cases topic <;> rfl

/-- **Nothing else is read.** -/
theorem exists_wsId {s : String} (h : (parseId s).1 ≠ .undefined) :
    ∃ topic requestId, requestId ≠ "" ∧ s = wsId topic requestId := by
  have hread : ∃ topic : ActionTopic, ∃ d rest, s.toList = topic.letter :: ':' :: d :: rest := by
    unfold parseId at h
    split at h
    · split at h
      · exact ⟨.placeOrder, _, _, by assumption⟩
      · exact ⟨.modifyOrder, _, _, by assumption⟩
      · exact ⟨.cancelOrder, _, _, by assumption⟩
      · exact absurd rfl h
    · exact absurd rfl h
  obtain ⟨topic, d, rest, hs⟩ := hread
  refine ⟨topic, String.ofList (d :: rest), ?_, String.toList_inj.mp ?_⟩
  · intro hempty
    simpa using congrArg String.toList hempty
  · rw [hs, toList_wsId, String.toList_ofList]

/-! ## The messages -/

section Messages

variable (format : Format) (buffer : String) (action : OrderAction) (order : Order)
  (refData : RefData) (requestId category : String)

/-- The id stands in a message between two texts that do not depend on it. -/
theorem message_toList :
    ∃ text', message format buffer action order refData requestId category = .ok text' ∧
      ∃ rest, text'.toList = (beforeId (topic action)).toList ++
        (wsId (topic action) requestId).toList ++ (afterId (topic action)).toList ++ rest := by
  obtain ⟨text', htext', htoList⟩ :=
    message_eq format order refData buffer requestId category action
  refine ⟨text', htext', ?_⟩
  rw [toList_wsId, htoList]
  cases action <;>
    simp [messageMembers, placeWsMembers, modifyWsMembers, cancelWsMembers, member, text,
      membersText, quoted, topic, beforeId, afterId, ActionTopic.letter]

/-- **Where the id stands in a message.** The encoders always write one. -/
theorem message_id :
    ∃ rest, message format buffer action order refData requestId category =
      .ok (beforeId (topic action) ++ wsId (topic action) requestId ++ afterId (topic action) ++
        rest) := by
  obtain ⟨text', htext', rest, hrest⟩ :=
    message_toList format buffer action order refData requestId category
  refine ⟨String.ofList rest, htext'.trans (congrArg Except.ok (String.toList_inj.mp ?_))⟩
  rw [hrest, String.toList_append, String.toList_append, String.toList_append, String.toList_ofList]

end Messages

/-! ## The errors -/

/-- `stream` rejects the request of a kind with an id when it gets `error`. -/
def Rejects (stream : Stream) (retryLogon : Bool) (error : JsonError) (requestType : RequestType)
    (requestId : String) : Prop :=
  ∃ dispatched, onError stream retryLogon error = .respond dispatched ∧
    dispatched.response.requestStatus = .rejected ∧
    dispatched.response.requestType = requestType ∧ dispatched.response.requestId = requestId

section Errors

variable {stream : Stream} {retryLogon : Bool} {error : JsonError} {requestType : RequestType}
  {requestId : String}

/-- An error rejects what its id is parsed to. -/
theorem rejects_iff_parseId :
    Rejects stream retryLogon error requestType requestId ↔
      requestType ≠ .undefined ∧ parseId error.id = (requestType, requestId) := by
  unfold Rejects onError
  obtain ⟨kind, id⟩ := parseId error.id
  cases kind with
  | undefined =>
    refine iff_of_false ?_ fun h => h.1 (congrArg Prod.fst h.2).symm
    rintro ⟨dispatched, hrespond, -⟩
    -- without a request type an error is logged, or ends the session
    dsimp only at hrespond
    split_ifs at hrespond
  | createOrder | modifyOrder | cancelOrder =>
    constructor
    · rintro ⟨_, ⟨⟩, -, rfl, rfl⟩
      exact ⟨nofun, rfl⟩
    · rintro ⟨-, ⟨⟩⟩
      exact ⟨_, rfl, rfl, rfl, rfl⟩

/-- **Which request an error rejects**: the one that the gateway could have written its id for. -/
theorem rejects_iff :
    Rejects stream retryLogon error requestType requestId ↔
      ∃ topic, requestType = ActionTopic.requestType topic ∧ requestId ≠ "" ∧
        error.id = wsId topic requestId := by
  rw [rejects_iff_parseId]
  constructor
  · rintro ⟨hkind, hparse⟩
    obtain ⟨topic, requestId', hne, hid⟩ := exists_wsId (s := error.id) (by rwa [hparse])
    rw [hid, parseId_wsId topic hne] at hparse
    obtain ⟨rfl, rfl⟩ := Prod.mk.inj hparse
    exact ⟨topic, rfl, hne, hid⟩
  · rintro ⟨topic, rfl, hne, hid⟩
    rw [hid, parseId_wsId topic hne]
    exact ⟨requestType_ne_undefined topic, rfl⟩

end Errors

/-- **Request ids over the websocket.** The encoders write the id of a request at one place of a
message, it is read back, the three kinds of ids are apart, nothing else is read, and an error
rejects a request just when its id is one that can have been written for it. -/
theorem requestIds_roundTrip :
    (∀ format buffer action order refData requestId category, ∃ rest,
      message format buffer action order refData requestId category =
        .ok (beforeId (topic action) ++ wsId (topic action) requestId ++
          afterId (topic action) ++ rest)) ∧
    (∀ topic requestId, requestId ≠ "" →
      parseId (wsId topic requestId) = (ActionTopic.requestType topic, requestId)) ∧
    (∀ topic topic' requestId requestId', topic ≠ topic' →
      wsId topic requestId ≠ wsId topic' requestId') ∧
    (∀ s, (parseId s).1 ≠ .undefined ↔ ∃ topic requestId, requestId ≠ "" ∧
      s = wsId topic requestId) ∧
    (∀ s topic, (parseId s).1 = ActionTopic.requestType topic →
      wsId topic (parseId s).2 = s) ∧
    ∀ stream retryLogon error requestType requestId,
      Rejects stream retryLogon error requestType requestId ↔
        ∃ topic, requestType = ActionTopic.requestType topic ∧ requestId ≠ "" ∧
          error.id = wsId topic requestId := by
  refine ⟨message_id, fun _ _ hne => parseId_wsId _ hne, fun _ _ _ _ hne h => hne (wsId_inj h).1,
    fun s => ⟨exists_wsId, ?_⟩, fun s topic hkind => ?_, fun _ _ _ _ _ => rejects_iff⟩
  · rintro ⟨topic, requestId, hne, rfl⟩
    rw [parseId_wsId topic hne]
    exact requestType_ne_undefined topic
  · have hdefined : (parseId s).1 ≠ .undefined := by
      rw [hkind]
      exact requestType_ne_undefined topic
    obtain ⟨topic', requestId, hne, rfl⟩ := exists_wsId hdefined
    rw [parseId_wsId topic' hne] at hkind ⊢
    rw [requestType_injective hkind]

end RoqBitget.Gateway.DropCopy
