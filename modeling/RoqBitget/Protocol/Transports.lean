import RoqBitget.Protocol.Encoder

set_option relaxedAutoImplicit false
set_option autoImplicit false

/-!
# The two transports

An order action is sent as the body of a REST request or as a message over the websocket. The
encoders of the two transports are written separately. The order in the message, the only
argument of its `args`, should have the members of the body.

## Main definitions

* `RoqBitget.Protocol.Encoder.body`, `message` — an order action on the two transports.
* `RoqBitget.Protocol.Encoder.SameText` — one list of members is written on both transports.
* `RoqBitget.Protocol.Encoder.SameOrder` — the same members are read on both transports.

## Main results

* `RoqBitget.Protocol.Encoder.transports_agree_iff` — the transports agree on modifications and
  on cancellations, and on no new order.

## Implementation notes

`SameText` compares what is written, so that it also makes sense for strings that would need
escapes, whose messages may not be JSON documents. `SameOrder` compares what is read.
-/

namespace RoqBitget.Protocol.Encoder

open JsonText

/-- The order actions that both transports send. -/
inductive OrderAction
  | create (createOrder : CreateOrder)
  | modify (modifyOrder : ModifyOrder)
  | cancel
  deriving DecidableEq

/-- The REST body of an order action. -/
def body (format : Format) (buffer : String) (action : OrderAction) (order : Order)
    (refData : RefData) (requestId category : String) : Except MapError String :=
  match action with
  | .create createOrder => placeOrder format buffer createOrder refData requestId category
  | .modify modifyOrder => .ok (Encoder.modifyOrder format buffer modifyOrder order refData)
  | .cancel => .ok (cancelOrder buffer order)

/-- The websocket message of an order action. -/
def message (format : Format) (buffer : String) (action : OrderAction) (order : Order)
    (refData : RefData) (requestId category : String) : Except MapError String :=
  match action with
  | .create createOrder => placeOrderWs format buffer createOrder refData requestId category
  | .modify modifyOrder =>
    .ok (modifyOrderWs format buffer modifyOrder order refData requestId category)
  | .cancel => .ok (cancelOrderWs buffer order requestId)

/-! ## What it means to send the same order -/

/-- The members of a REST body, given those of its order. -/
def bodyMembers (action : OrderAction) (category : String) (order : List (String × Json)) :
    List (String × Json) :=
  match action with
  | .create _ => member "category" category :: order
  | .modify _ | .cancel => order

/-- The members of a websocket message, given those of its order. -/
def messageMembers (action : OrderAction) (requestId category : String)
    (order : List (String × Json)) : List (String × Json) :=
  match action with
  | .create _ => placeWsMembers requestId category order
  | .modify _ => modifyWsMembers requestId category order
  | .cancel => cancelWsMembers requestId order

/-- There is one list of members that the body has, after its category, and that the only
argument of the message has. -/
def SameText (action : OrderAction) (requestId category body message : String) : Prop :=
  ∃ order, body.toList = text (.object (bodyMembers action category order)) ∧
    message.toList = text (.object (messageMembers action requestId category order))

/-- The order that is read from a REST body: its members without the category of a new order. -/
def orderOfBody (action : OrderAction) (body : String) : Option (List (String × Json)) :=
  match action, read body with
  | .create _, some (.object members) => some (members.filter fun m => m.1 ≠ "category")
  | _, some (.object members) => some members
  | _, _ => none

/-- The order that is read from a websocket message: the members of the only argument. -/
def orderOfMessage (message : String) : Option (List (String × Json)) :=
  match read message with
  | some (.object members) =>
    match members.lookup "args" with
    | some (.array [.object order]) => some order
    | _ => none
  | _ => none

/-- The order that is read from the message has the same members as the one that is read from
the body, in any order. -/
def SameOrder (action : OrderAction) (body message : String) : Prop :=
  ∃ order order', orderOfBody action body = some order ∧
    orderOfMessage message = some order' ∧ order'.Perm order

/-! ## What is written -/

section Texts

variable (format : Format) (order : Order) (refData : RefData)
  (buffer requestId category : String)

/-- The members that the encoders give the order of an action; the transports differ in the
spelling of `reduceOnly`. -/
def orderMembers (action : OrderAction) (reduceOnly : String) : List (String × Json) :=
  match action with
  | .create createOrder => createMembers format createOrder refData requestId reduceOnly
  | .modify modifyOrder => modifyMembers format modifyOrder order refData
  | .cancel => [orderIdMember order]

/-- The text of a REST body. -/
theorem body_eq (action : OrderAction) :
    ∃ text', body format buffer action order refData requestId category = .ok text' ∧
      text'.toList = text (.object (bodyMembers action category
        (orderMembers format order refData requestId action "no"))) := by
  cases action with
  | create createOrder => exact placeOrder_eq format createOrder refData buffer requestId category
  | modify modifyOrder =>
    refine ⟨_, rfl, ?_⟩
    simp [Encoder.modifyOrder, appendModifyOrder_eq, clear, bodyMembers, orderMembers]
  | cancel =>
    refine ⟨_, rfl, ?_⟩
    simp [cancelOrder, appendCancelOrder_eq, clear, bodyMembers, orderMembers]

/-- The text of a websocket message. -/
theorem message_eq (action : OrderAction) :
    ∃ text', message format buffer action order refData requestId category = .ok text' ∧
      text'.toList = text (.object (messageMembers action requestId category
        (orderMembers format order refData requestId action "NO"))) := by
  cases action with
  | create createOrder =>
    exact placeOrderWs_eq format createOrder refData buffer requestId category
  | modify modifyOrder =>
    refine ⟨_, rfl, ?_⟩
    simp [modifyOrderWs, appendModifyOrder_eq, clear, messageMembers, modifyWsMembers,
      orderMembers, member, text, membersText, itemsText, quoted]
  | cancel =>
    refine ⟨_, rfl, ?_⟩
    simp [cancelOrderWs, appendCancelOrder_eq, clear, messageMembers, cancelWsMembers,
      orderMembers, member, text, membersText, itemsText, quoted]

/-- The texts of a new order on the two transports differ. -/
theorem membersText_createMembers_ne (createOrder : CreateOrder) :
    membersText (createMembers format createOrder refData requestId "no") ≠
      membersText (createMembers format createOrder refData requestId "NO") := by
  unfold createMembers
  by_cases hlimit : createOrder.orderType = .limit <;>
    by_cases hposition : createOrder.positionEffect = .undefined <;>
    simp [hlimit, hposition, membersText, member, text, quoted]

end Texts

/-! ## Where the transports agree -/

section Agreement

variable (format : Format) (order : Order) (refData : RefData)
  (buffer requestId category : String)

/-- The text of an object determines the text that its members have after others. -/
theorem membersText_eq_of_text {order order' : List (String × Json)} {tail tail' : List Char}
    (h : membersText order = ',' :: tail) (h' : membersText order' = ',' :: tail')
    (htext : text (.object order) = text (.object order')) :
    membersText order = membersText order' := by
  rw [text_object h, text_object h'] at htext
  rw [h, h', (List.cons.inj htext).2]

/-- What is written of a new order differs on the two transports, whatever its strings are. -/
theorem not_sameText_create {createOrder : CreateOrder} {b m : String}
    (hbody : b.toList = text (.object (bodyMembers (.create createOrder) category
      (createMembers format createOrder refData requestId "no"))))
    (hmessage : m.toList = text (.object (messageMembers (.create createOrder) requestId category
      (createMembers format createOrder refData requestId "NO")))) :
    ¬ SameText (.create createOrder) requestId category b m := by
  rintro ⟨order, hb, hm⟩
  obtain ⟨-, -, tail, -, htail⟩ :=
    appendCreateOrder_eq format createOrder refData "" requestId "no"
  obtain ⟨-, -, tail', -, htail'⟩ :=
    appendCreateOrder_eq format createOrder refData "" requestId "NO"
  have hfirst : membersText order =
      membersText (createMembers format createOrder refData requestId "no") := by
    rw [hbody] at hb
    simpa [bodyMembers, member, text] using hb.symm
  have hsecond : text (.object order) =
      text (.object (createMembers format createOrder refData requestId "NO")) := by
    rw [hmessage] at hm
    simpa [messageMembers, placeWsMembers, member, text, membersText, itemsText] using hm.symm
  apply membersText_createMembers_ne format refData requestId createOrder
  rw [← hfirst]
  exact membersText_eq_of_text (hfirst.trans htail) htail' hsecond

/-- The strings of an order action that are put into its message need no escapes. -/
def PlainAction (action : OrderAction) (order : Order) : Prop :=
  match action with
  | .create createOrder => Plain createOrder.symbol
  | .modify _ | .cancel => Plain order.externalOrderId ∧ Plain order.clientOrderId

/-- The members of an order can be written verbatim if its strings can. -/
theorem verbatim_orderMembers {action : OrderAction} {order : Order}
    (h : PlainAction action order) (hrequestId : Plain requestId) (reduceOnly : String)
    (hreduceOnly : Plain reduceOnly) :
    MembersVerbatim (orderMembers format order refData requestId action reduceOnly) := by
  cases action with
  | create createOrder => exact verbatim_createMembers refData h hrequestId hreduceOnly
  | modify modifyOrder => exact verbatim_modifyMembers refData h.1 h.2
  | cancel => exact ⟨verbatim_orderIdMember h.1 h.2, trivial⟩

/-- The order that is read from a body is the one that was written. -/
theorem orderOfBody_eq {action : OrderAction} {order : Order} (h : PlainAction action order)
    (hrequestId : Plain requestId) (hcategory : Plain category) {b : String}
    (hb : b.toList = text (.object (bodyMembers action category
      (orderMembers format order refData requestId action "no")))) :
    orderOfBody action b = some (orderMembers format order refData requestId action "no") := by
  have hverbatim := verbatim_orderMembers format refData requestId h hrequestId "no"
    (by decide)
  have hread : read b = some (.object (bodyMembers action category
      (orderMembers format order refData requestId action "no"))) := by
    refine read_text ?_ hb
    rw [Json.Verbatim]
    cases action with
    | create createOrder => exact ⟨verbatim_member (by decide) hcategory, hverbatim⟩
    | modify modifyOrder => exact hverbatim
    | cancel => exact hverbatim
  unfold orderOfBody
  rw [hread]
  cases action with
  | create createOrder =>
    have hnodup : ("category" :: (createMembers format createOrder refData requestId "no").map
        Prod.fst).Nodup := nodup_createMembers "no"
    have hkeep : ∀ m ∈ createMembers format createOrder refData requestId "no",
        m.1 ≠ "category" :=
      fun m hm heq => (List.nodup_cons.mp hnodup).1 (heq ▸ List.mem_map_of_mem hm)
    simpa [bodyMembers, orderMembers, member] using hkeep
  | modify modifyOrder => rfl
  | cancel => rfl

/-- The order that is read from a message is the one that was written. -/
theorem orderOfMessage_eq {action : OrderAction} {order : Order} (h : PlainAction action order)
    (hrequestId : Plain requestId) (hcategory : Plain category) {m : String}
    (hm : m.toList = text (.object (messageMembers action requestId category
      (orderMembers format order refData requestId action "NO")))) :
    orderOfMessage m = some (orderMembers format order refData requestId action "NO") := by
  have hverbatim := verbatim_args
    (verbatim_orderMembers format refData requestId h hrequestId "NO" (by decide))
  have hread : read m = some (.object (messageMembers action requestId category
      (orderMembers format order refData requestId action "NO"))) := by
    refine read_text ?_ hm
    rw [Json.Verbatim]
    cases action with
    | create createOrder =>
      exact ⟨verbatim_member (by decide) (by decide),
        verbatim_member (by decide) (Plain.append (by decide) hrequestId),
        verbatim_member (by decide) hcategory, verbatim_member (by decide) (by decide),
        hverbatim, trivial⟩
    | modify modifyOrder =>
      exact ⟨verbatim_member (by decide) (Plain.append (by decide) hrequestId),
        verbatim_member (by decide) (by decide), verbatim_member (by decide) hcategory,
        verbatim_member (by decide) (by decide), hverbatim, trivial⟩
    | cancel =>
      exact ⟨verbatim_member (by decide) (Plain.append (by decide) hrequestId),
        verbatim_member (by decide) (by decide), verbatim_member (by decide) (by decide),
        hverbatim, trivial⟩
  unfold orderOfMessage
  rw [hread]
  cases action <;>
    simp [messageMembers, placeWsMembers, modifyWsMembers, cancelWsMembers, member,
      List.lookup_cons]

/-- The spelling of `reduceOnly` is a member of a new order. -/
theorem mem_createMembers (createOrder : CreateOrder) (reduceOnly reduceOnly' : String) :
    member "reduceOnly" reduceOnly' ∈
      createMembers format createOrder refData requestId reduceOnly ↔
        reduceOnly' = reduceOnly := by
  unfold createMembers
  split_ifs <;> simp [member]

/-- What is read of a new order differs on the two transports. -/
theorem not_sameOrder_create {createOrder : CreateOrder} {b m : String}
    (hb : orderOfBody (.create createOrder) b =
      some (createMembers format createOrder refData requestId "no"))
    (hm : orderOfMessage m = some (createMembers format createOrder refData requestId "NO")) :
    ¬ SameOrder (.create createOrder) b m := by
  rintro ⟨order, order', horder, horder', hperm⟩
  obtain rfl := Option.some.inj (hb.symm.trans horder)
  obtain rfl := Option.some.inj (hm.symm.trans horder')
  have hmem := (mem_createMembers format refData requestId createOrder "NO" "NO").mpr rfl
  have hspelling := (mem_createMembers format refData requestId createOrder "no" "NO").mp
    (hperm.subset hmem)
  exact absurd hspelling (by decide)

end Agreement

/-- **The transports agree on everything but new orders.** Whatever the buffers contained, the
encoders of both transports succeed; on a modification and on a cancellation they write one list
of members, and on a new order they never do, because `reduceOnly` is spelled differently. If the
strings need no escapes, the same can be said of what is read. -/
theorem transports_agree_iff (format : Format) (buffer buffer' : String) (action : OrderAction)
    (order : Order) (refData : RefData) (requestId category : String) :
    ∃ b m, body format buffer action order refData requestId category = .ok b ∧
      message format buffer' action order refData requestId category = .ok m ∧
      (SameText action requestId category b m ↔ ∀ c, action ≠ .create c) ∧
      (PlainAction action order → Plain requestId → Plain category →
        (SameOrder action b m ↔ ∀ c, action ≠ .create c)) := by
  obtain ⟨b, hbody, hb⟩ := body_eq format order refData buffer requestId category action
  obtain ⟨m, hmessage, hm⟩ := message_eq format order refData buffer' requestId category action
  refine ⟨b, m, hbody, hmessage, ?_, fun haction hrequestId hcategory => ?_⟩
  · cases action with
    | create createOrder =>
      exact iff_of_false (not_sameText_create format refData requestId category hb hm)
        fun h => h createOrder rfl
    | modify modifyOrder => exact iff_of_true ⟨_, hb, hm⟩ (by simp)
    | cancel => exact iff_of_true ⟨_, hb, hm⟩ (by simp)
  · have hreadBody :=
      orderOfBody_eq format refData requestId category haction hrequestId hcategory hb
    have hreadMessage :=
      orderOfMessage_eq format refData requestId category haction hrequestId hcategory hm
    cases action with
    | create createOrder =>
      exact iff_of_false (not_sameOrder_create format refData requestId hreadBody hreadMessage)
        fun h => h createOrder rfl
    | modify modifyOrder =>
      exact iff_of_true ⟨_, _, hreadBody, hreadMessage, .refl _⟩ (by simp)
    | cancel => exact iff_of_true ⟨_, _, hreadBody, hreadMessage, .refl _⟩ (by simp)

/-- The transports send the same modification of the quantity of an order. -/
theorem quantityOnly_agrees :
    ∃ b m, body simpleFormat "" (.modify ⟨.value 1, .nan⟩) ⟨"", "oAAB"⟩ simpleRefData "1234"
        "USDT-FUTURES" = .ok b ∧
      message simpleFormat "" (.modify ⟨.value 1, .nan⟩) ⟨"", "oAAB"⟩ simpleRefData "1234"
        "USDT-FUTURES" = .ok m ∧ SameOrder (.modify ⟨.value 1, .nan⟩) b m := by
  obtain ⟨b, m, hbody, hmessage, -, hread⟩ := transports_agree_iff simpleFormat "" ""
    (.modify ⟨.value 1, .nan⟩) ⟨"", "oAAB"⟩ simpleRefData "1234" "USDT-FUTURES"
  have hplain : PlainAction (.modify ⟨.value 1, .nan⟩) ⟨"", "oAAB"⟩ :=
    ⟨(by decide : Plain ""), (by decide : Plain "oAAB")⟩
  exact ⟨b, m, hbody, hmessage, (hread hplain (by decide) (by decide)).mpr (by simp)⟩

/-- A limit order has `"reduceOnly":"no"` in its body and `"reduceOnly":"NO"` in its message. -/
theorem limitOrder_transports_differ :
    ∃ b m, body simpleFormat "" (.create (limitOrder .gtc)) ⟨"", ""⟩ simpleRefData "1234"
        "USDT-FUTURES" = .ok b ∧
      message simpleFormat "" (.create (limitOrder .gtc)) ⟨"", ""⟩ simpleRefData "1234"
        "USDT-FUTURES" = .ok m ∧ ¬ SameOrder (.create (limitOrder .gtc)) b m := by
  obtain ⟨b, hbody, hb⟩ := body_eq simpleFormat ⟨"", ""⟩ simpleRefData "" "1234"
    "USDT-FUTURES" (.create (limitOrder .gtc))
  obtain ⟨m, hmessage, hm⟩ := message_eq simpleFormat ⟨"", ""⟩ simpleRefData "" "1234"
    "USDT-FUTURES" (.create (limitOrder .gtc))
  have hplain : PlainAction (.create (limitOrder .gtc)) ⟨"", ""⟩ :=
    (by decide : Plain (limitOrder .gtc).symbol)
  refine ⟨b, m, hbody, hmessage, not_sameOrder_create simpleFormat simpleRefData "1234" ?_ ?_⟩
  · exact orderOfBody_eq simpleFormat simpleRefData "1234" _ hplain (by decide) (by decide) hb
  · exact orderOfMessage_eq simpleFormat simpleRefData "1234" _ hplain (by decide) (by decide) hm

end RoqBitget.Protocol.Encoder
