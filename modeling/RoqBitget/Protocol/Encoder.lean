import RoqBitget.Foundations.FixedPoint
import RoqBitget.Foundations.JsonText
import RoqBitget.Protocol.Map

set_option relaxedAutoImplicit false
set_option autoImplicit false

/-!
# Encoding requests

The encoders of the order actions, for REST and for the websocket. Each of them appends pieces
of text to a buffer, some of them under a condition, so that the commas and braces of a message
come from different places. The message has to be a JSON document nevertheless.

## Main definitions

* `RoqBitget.Protocol.Encoder.placeOrder`, `modifyOrder`, … — the encoders.
* `RoqBitget.Protocol.Encoder.createMembers`, `modifyMembers`, … — the members that a message is
  meant to have.
* `RoqBitget.Protocol.Encoder.SendsCountdown` — the countdown that is meant.

## Main results

* `RoqBitget.Protocol.Encoder.messages_wellFormed` — every message is read as exactly the members
  it is meant to have.

## Implementation notes

A `fmt::format_to` appends to the buffer. How `fmt` prints a `Decimal` and what `as_raw_text`
gives for an internal value is decided outside of the repository, see `Format`.
-/

namespace RoqBitget.Protocol.Encoder

open JsonText

/-- What is printed by code outside of the repository. It needs no escapes. -/
structure Format where
  /-- `as_raw_text` of the internal values of an enumeration. -/
  internal : String
  /-- `Decimal{value, precision}` as printed by `fmt`. -/
  decimal : Double → Precision → String
  plain_internal : Plain internal
  plain_decimal : ∀ value precision, Plain (decimal value precision)

/-- The decimals that a number is printed with; all it has if there is no precision. -/
def decimalCount (q : ℚ) : Precision → ℕ
  | .undefined => FixedPoint.decimals q
  | .decimals n => n

/-- Numbers printed with their decimals; the internal values have no text. -/
def decimalText : Double → Precision → String
  | .nan, _ => "nan"
  | .value q, precision =>
    let count := decimalCount q precision
    String.ofList (FixedPoint.print (FixedPoint.nearest q count) count)

/-- A number that is printed with its decimals needs no escapes. -/
theorem plain_decimalText (value : Double) (precision : Precision) :
    Plain (decimalText value precision) := by
  cases value with
  | nan =>
    rw [decimalText]
    decide
  | value q =>
    intro c hc
    rw [decimalText, String.toList_ofList] at hc
    rcases FixedPoint.mem_print hc with hdigit | rfl | rfl
    · exact isPlain_of_isDigit hdigit
    · decide
    · decide

/-- A format that prints numbers with their decimals. -/
def simpleFormat : Format where
  internal := ""
  decimal := decimalText
  plain_internal := by decide
  plain_decimal := plain_decimalText

/-! ## The encoders -/

/-- `buffer.clear()`. -/
def clear (_buffer : String) : String := ""

/-- The time in force of a limit order. -/
def timeInForce (createOrder : CreateOrder) : Except MapError TimeInForce :=
  if .participateDoNotInitiate ∈ createOrder.executionInstructions then .ok .postOnly
  else get (helperTimeInForce createOrder.timeInForce)

/-- The price and the time in force are appended for a limit order only. -/
def appendLimit (format : Format) (buffer : String) (createOrder : CreateOrder)
    (refData : RefData) : Except MapError String :=
  if createOrder.orderType = .limit then do
    let timeInForce ← timeInForce createOrder
    return buffer ++
      "\"price\":\"" ++ format.decimal createOrder.price refData.pricePrecision ++ "\"," ++
      "\"timeInForce\":\"" ++ asRawText format.internal timeInForce ++ "\","
  else return buffer

/-- The position is appended if a position effect is given. -/
def appendPosSide (format : Format) (buffer : String) (createOrder : CreateOrder) :
    Except MapError String :=
  if createOrder.positionEffect ≠ .undefined then do
    let posSide ← get (helperPosSide createOrder.positionEffect createOrder.side)
    return buffer ++ "\"posSide\":\"" ++ asRawText format.internal posSide ++ "\","
  else return buffer

/-- What `place_order` and `place_order_ws` append for the order, from its symbol on. -/
def appendCreateOrder (format : Format) (buffer : String) (createOrder : CreateOrder)
    (refData : RefData) (requestId reduceOnly : String) : Except MapError String := do
  let buffer := buffer ++
    "\"symbol\":\"" ++ createOrder.symbol ++ "\"," ++
    "\"qty\":\"" ++ format.decimal createOrder.quantity refData.quantityPrecision ++ "\","
  let buffer ← appendLimit format buffer createOrder refData
  let side ← get (helperSide createOrder.side)
  let orderType ← get (helperOrderType createOrder.orderType)
  let buffer := buffer ++
    "\"side\":\"" ++ asRawText format.internal side ++ "\"," ++
    "\"orderType\":\"" ++ asRawText format.internal orderType ++ "\","
  let buffer ← appendPosSide format buffer createOrder
  let buffer := buffer ++ "\"clientOid\":\"" ++ requestId ++ "\","
  return buffer ++
    "\"reduceOnly\":\"" ++ reduceOnly ++ "\"," ++
    "\"stpMode\":\"none\"" ++
    "\x7d"

/-- `Encoder::place_order`. -/
def placeOrder (format : Format) (buffer : String) (createOrder : CreateOrder)
    (refData : RefData) (requestId category : String) : Except MapError String :=
  let buffer := clear buffer ++
    "\x7b" ++
    "\"category\":\"" ++ category ++ "\","
  appendCreateOrder format buffer createOrder refData requestId "no"

/-- The beginning of an object that names an order. -/
def appendOrderId (buffer : String) (order : Order) : String :=
  if order.externalOrderId = "" then
    buffer ++
      "\x7b" ++
      "\"clientOid\":\"" ++ order.clientOrderId ++ "\""
  else
    buffer ++
      "\x7b" ++
      "\"orderId\":\"" ++ order.externalOrderId ++ "\""

/-- What `modify_order` and `modify_order_ws` append for the order. -/
def appendModifyOrder (format : Format) (buffer : String) (modifyOrder : ModifyOrder)
    (order : Order) (refData : RefData) : String :=
  let buffer := appendOrderId buffer order
  let buffer := if !modifyOrder.quantity.isnan then
      buffer ++ ",\"qty\":\"" ++
        format.decimal modifyOrder.quantity refData.quantityPrecision ++ "\""
    else buffer
  let buffer := if !modifyOrder.price.isnan then
      buffer ++ ",\"price\":\"" ++
        format.decimal modifyOrder.price refData.pricePrecision ++ "\""
    else buffer
  buffer ++
    ",\"autoCancel\":\"no\"" ++
    "\x7d"

/-- `Encoder::modify_order`. -/
def modifyOrder (format : Format) (buffer : String) (modifyOrder : ModifyOrder) (order : Order)
    (refData : RefData) : String :=
  appendModifyOrder format (clear buffer) modifyOrder order refData

/-- What `cancel_order` and `cancel_order_ws` append for the order. -/
def appendCancelOrder (buffer : String) (order : Order) : String :=
  appendOrderId buffer order ++ "\x7d"

/-- `Encoder::cancel_order`. -/
def cancelOrder (buffer : String) (order : Order) : String :=
  appendCancelOrder (clear buffer) order

/-- `Encoder::cancel_all_orders`. -/
def cancelAllOrders (buffer : String) (cancelAllOrders : CancelAllOrders) (category : String) :
    String :=
  let buffer := clear buffer ++
    "\x7b" ++
    "\"category\":\"" ++ category ++ "\""
  let buffer := if cancelAllOrders.symbol ≠ "" then
      buffer ++ ",\"symbol\":\"" ++ cancelAllOrders.symbol ++ "\""
    else buffer
  buffer ++ "\x7d"

/-- The seconds of a countdown that the exchange allows. -/
def clampCountdown (countdown : ℤ) : ℤ := min (max countdown 5) 60

/-- The countdown that is sent for a given one: the given one, if the exchange allows it, and
otherwise the closer of the bounds. -/
structure SendsCountdown (countdown seconds : ℤ) : Prop where
  lower : 5 ≤ seconds
  upper : seconds ≤ 60
  within : 5 ≤ countdown → countdown ≤ 60 → seconds = countdown
  below : countdown < 5 → seconds = 5
  above : 60 < countdown → seconds = 60

/-- The clamp sends what it should. -/
theorem sendsCountdown_clampCountdown (countdown : ℤ) :
    SendsCountdown countdown (clampCountdown countdown) := by
  unfold clampCountdown
  constructor <;> omega

/-- `Encoder::countdown_cancel_all`; the countdown is in seconds. -/
def countdownCancelAll (buffer : String) (countdown : ℤ) : String :=
  clear buffer ++
    "\x7b" ++
    "\"countdown\":\"" ++ toString (clampCountdown countdown) ++ "\"" ++
    "\x7d"

/-- `Encoder::place_order_ws`. -/
def placeOrderWs (format : Format) (buffer : String) (createOrder : CreateOrder)
    (refData : RefData) (requestId category : String) : Except MapError String := do
  let buffer := clear buffer ++
    "\x7b" ++
    "\"op\":\"trade\"," ++
    "\"id\":\"P:" ++ requestId ++ "\"," ++
    "\"category\":\"" ++ category ++ "\"," ++
    "\"topic\":\"place-order\"," ++
    "\"args\":["
  let buffer := buffer ++ "\x7b"
  let buffer ← appendCreateOrder format buffer createOrder refData requestId "NO"
  pure (buffer ++
    "]" ++
    "\x7d")

/-- `Encoder::modify_order_ws`. -/
def modifyOrderWs (format : Format) (buffer : String) (modifyOrder : ModifyOrder)
    (order : Order) (refData : RefData) (requestId category : String) : String :=
  let buffer := clear buffer ++
    "\x7b" ++
    "\"id\":\"M:" ++ requestId ++ "\"," ++
    "\"op\":\"trade\"," ++
    "\"category\":\"" ++ category ++ "\"," ++
    "\"topic\":\"modify-order\"," ++
    "\"args\":["
  let buffer := appendModifyOrder format buffer modifyOrder order refData
  buffer ++
    "]" ++
    "\x7d"

/-- `Encoder::cancel_order_ws`. -/
def cancelOrderWs (buffer : String) (order : Order) (requestId : String) : String :=
  let buffer := clear buffer ++
    "\x7b" ++
    "\"id\":\"C:" ++ requestId ++ "\"," ++
    "\"op\":\"trade\"," ++
    "\"topic\":\"cancel-order\"," ++
    "\"args\":["
  let buffer := appendCancelOrder buffer order
  buffer ++
    "]" ++
    "\x7d"

/-- `Encoder::parse_id`: the kind and the id of a request over the websocket. -/
def parseId (id : String) : RequestType × String :=
  match id.toList with
  | c :: ':' :: d :: rest =>
    match c with
    | 'P' => (.createOrder, String.ofList (d :: rest))
    | 'M' => (.modifyOrder, String.ofList (d :: rest))
    | 'C' => (.cancelOrder, String.ofList (d :: rest))
    | _ => (.undefined, "")
  | _ => (.undefined, "")

/-! ## The members that are meant -/

/-- The text of a side. -/
def sideText (format : Format) : RoqBitget.Side → String
  | .undefined => format.internal
  | .buy => "buy"
  | .sell => "sell"

/-- The text of an order type. -/
def orderTypeText (format : Format) : RoqBitget.OrderType → String
  | .undefined => format.internal
  | .market => "market"
  | .limit => "limit"

/-- The text of a time in force; only three of them can be expressed. -/
def timeInForceText (format : Format) : RoqBitget.TimeInForce → String
  | .gtc => "gtc"
  | .ioc => "ioc"
  | .fok => "fok"
  | _ => format.internal

/-- The text of the position that an order opens or closes. -/
def posSideText (format : Format) : RoqBitget.PositionEffect → RoqBitget.Side → String
  | .«open», .buy | .close, .sell => "long"
  | .«open», .sell | .close, .buy => "short"
  | _, _ => format.internal

/-- The members of a new order, from its symbol on. -/
def createMembers (format : Format) (createOrder : CreateOrder) (refData : RefData)
    (requestId reduceOnly : String) : List (String × Json) :=
  [member "symbol" createOrder.symbol,
    member "qty" (format.decimal createOrder.quantity refData.quantityPrecision)] ++
  (if createOrder.orderType = .limit then
    [member "price" (format.decimal createOrder.price refData.pricePrecision),
      member "timeInForce"
        (if .participateDoNotInitiate ∈ createOrder.executionInstructions then "post_only"
        else timeInForceText format createOrder.timeInForce)]
  else []) ++
  [member "side" (sideText format createOrder.side),
    member "orderType" (orderTypeText format createOrder.orderType)] ++
  (if createOrder.positionEffect ≠ .undefined then
    [member "posSide" (posSideText format createOrder.positionEffect createOrder.side)]
  else []) ++
  [member "clientOid" requestId, member "reduceOnly" reduceOnly, member "stpMode" "none"]

/-- The member that names an order: by its external id if it has one. -/
def orderIdMember (order : Order) : String × Json :=
  if order.externalOrderId = "" then member "clientOid" order.clientOrderId
  else member "orderId" order.externalOrderId

/-- The members of a modification. -/
def modifyMembers (format : Format) (modifyOrder : ModifyOrder) (order : Order)
    (refData : RefData) : List (String × Json) :=
  orderIdMember order ::
    ((if modifyOrder.quantity.isnan then []
      else [member "qty" (format.decimal modifyOrder.quantity refData.quantityPrecision)]) ++
    (if modifyOrder.price.isnan then []
      else [member "price" (format.decimal modifyOrder.price refData.pricePrecision)]) ++
    [member "autoCancel" "no"])

/-- The members of a request to cancel all orders. -/
def cancelAllMembers (cancelAllOrders : CancelAllOrders) (category : String) :
    List (String × Json) :=
  member "category" category ::
    if cancelAllOrders.symbol = "" then [] else [member "symbol" cancelAllOrders.symbol]

/-- The members of a new order over the websocket. -/
def placeWsMembers (requestId category : String) (order : List (String × Json)) :
    List (String × Json) :=
  [member "op" "trade", member "id" ("P:" ++ requestId), member "category" category,
    member "topic" "place-order", ("args", .array [.object order])]

/-- The members of a modification over the websocket. -/
def modifyWsMembers (requestId category : String) (order : List (String × Json)) :
    List (String × Json) :=
  [member "id" ("M:" ++ requestId), member "op" "trade", member "category" category,
    member "topic" "modify-order", ("args", .array [.object order])]

/-- The members of a cancellation over the websocket. -/
def cancelWsMembers (requestId : String) (order : List (String × Json)) : List (String × Json) :=
  [member "id" ("C:" ++ requestId), member "op" "trade", member "topic" "cancel-order",
    ("args", .array [.object order])]

/-! ## The texts of the messages -/

section Append

variable (format : Format) (createOrder : CreateOrder) (modifyOrder : ModifyOrder)
  (cancelAllOrders : CancelAllOrders) (order : Order) (refData : RefData)
  (buffer requestId reduceOnly category : String)

/-- A side is mapped to a value with its text. -/
theorem exists_side (side : RoqBitget.Side) :
    ∃ v, helperSide side = some v ∧ asRawText format.internal v = sideText format side := by
  cases side <;> exact ⟨_, rfl, rfl⟩

/-- An order type is mapped to a value with its text. -/
theorem exists_orderType (orderType : RoqBitget.OrderType) :
    ∃ v, helperOrderType orderType = some v ∧
      asRawText format.internal v = orderTypeText format orderType := by
  cases orderType <;> exact ⟨_, rfl, rfl⟩

/-- A position effect is mapped to a value with its text. -/
theorem exists_posSide (positionEffect : RoqBitget.PositionEffect) (side : RoqBitget.Side) :
    ∃ v, helperPosSide positionEffect side = some v ∧
      asRawText format.internal v = posSideText format positionEffect side := by
  cases positionEffect <;> cases side <;> exact ⟨_, rfl, rfl⟩

/-- A time in force is mapped to a value with its text, unless the order is post-only. -/
theorem exists_timeInForce :
    ∃ v, timeInForce createOrder = .ok v ∧ asRawText format.internal v =
      if .participateDoNotInitiate ∈ createOrder.executionInstructions then "post_only"
      else timeInForceText format createOrder.timeInForce := by
  unfold timeInForce
  split_ifs
  · exact ⟨_, rfl, rfl⟩
  · cases createOrder.timeInForce <;> exact ⟨_, rfl, rfl⟩

/-- The price and the time in force never throw. -/
theorem appendLimit_eq : appendLimit format buffer createOrder refData =
    .ok (if createOrder.orderType = .limit then buffer ++
      "\"price\":\"" ++ format.decimal createOrder.price refData.pricePrecision ++ "\"," ++
      "\"timeInForce\":\"" ++
        (if .participateDoNotInitiate ∈ createOrder.executionInstructions then "post_only"
        else timeInForceText format createOrder.timeInForce) ++ "\"," else buffer) := by
  obtain ⟨v, hv, htext⟩ := exists_timeInForce format createOrder
  unfold appendLimit
  rw [hv, ← htext]
  split_ifs <;> rfl

/-- The position never throws. -/
theorem appendPosSide_eq : appendPosSide format buffer createOrder =
    .ok (if createOrder.positionEffect ≠ .undefined then buffer ++ "\"posSide\":\"" ++
      posSideText format createOrder.positionEffect createOrder.side ++ "\"," else buffer) := by
  obtain ⟨v, hv, htext⟩ :=
    exists_posSide format createOrder.positionEffect createOrder.side
  unfold appendPosSide
  rw [hv, ← htext]
  split_ifs <;> rfl

/-- **A new order.** The encoders never throw, and append the members of the order. -/
theorem appendCreateOrder_eq :
    ∃ message, appendCreateOrder format buffer createOrder refData requestId reduceOnly =
      .ok message ∧ ∃ tail, message.toList = buffer.toList ++ tail ∧
        membersText (createMembers format createOrder refData requestId reduceOnly) =
          ',' :: tail := by
  obtain ⟨side, hside, hsideText⟩ := exists_side format createOrder.side
  obtain ⟨orderType, horderType, horderTypeText⟩ := exists_orderType format createOrder.orderType
  simp only [appendCreateOrder, appendLimit_eq, appendPosSide_eq, hside, horderType, get, bind,
    Except.bind, pure, Except.pure, hsideText, horderTypeText]
  refine ⟨_, rfl, ?_⟩
  unfold createMembers
  by_cases hlimit : createOrder.orderType = .limit <;>
    by_cases hposition : createOrder.positionEffect = .undefined <;>
    simp [hlimit, hposition, membersText, member, text, quoted]

/-- A new order over REST is written as its members. -/
theorem placeOrder_eq :
    ∃ message, placeOrder format buffer createOrder refData requestId category = .ok message ∧
      message.toList = text (.object (member "category" category ::
        createMembers format createOrder refData requestId "no")) := by
  obtain ⟨message, hmessage, tail, htail, hmembers⟩ := appendCreateOrder_eq format createOrder
    refData (clear buffer ++ "\x7b" ++ "\"category\":\"" ++ category ++ "\",") requestId "no"
  refine ⟨message, hmessage, ?_⟩
  simp [htail, clear, member, text, quoted, hmembers]

/-- A new order over the websocket is written as its members. -/
theorem placeOrderWs_eq :
    ∃ message, placeOrderWs format buffer createOrder refData requestId category = .ok message ∧
      message.toList = text (.object (placeWsMembers requestId category
        (createMembers format createOrder refData requestId "NO"))) := by
  obtain ⟨message, hmessage, tail, htail, hmembers⟩ := appendCreateOrder_eq format createOrder
    refData (clear buffer ++ "\x7b" ++ "\"op\":\"trade\"," ++ "\"id\":\"P:" ++ requestId ++ "\"," ++
      "\"category\":\"" ++ category ++ "\"," ++ "\"topic\":\"place-order\"," ++ "\"args\":[" ++
      "\x7b") requestId "NO"
  refine ⟨message ++ "]" ++ "\x7d", ?_, ?_⟩
  · simp only [placeOrderWs, hmessage]
    rfl
  · simp [htail, clear, placeWsMembers, member, text, membersText, itemsText, quoted,
      text_object hmembers]

/-- **A modification.** The encoders append its members as an object. -/
theorem appendModifyOrder_eq :
    (appendModifyOrder format buffer modifyOrder order refData).toList =
      buffer.toList ++ text (.object (modifyMembers format modifyOrder order refData)) := by
  unfold appendModifyOrder appendOrderId modifyMembers orderIdMember
  by_cases hid : order.externalOrderId = "" <;>
    by_cases hquantity : modifyOrder.quantity.isnan = true <;>
    by_cases hprice : modifyOrder.price.isnan = true <;>
    simp [hid, hquantity, hprice, membersText, member, text, quoted]

/-- **A cancellation.** The encoders append its only member as an object. -/
theorem appendCancelOrder_eq : (appendCancelOrder buffer order).toList =
    buffer.toList ++ text (.object [orderIdMember order]) := by
  unfold appendCancelOrder appendOrderId orderIdMember
  by_cases hid : order.externalOrderId = "" <;>
    simp [hid, membersText, member, text, quoted]

end Append

/-! ## What can be written verbatim -/

section Verbatim

variable (format : Format)

theorem plain_sideText (side : RoqBitget.Side) : Plain (sideText format side) := by
  cases side <;> first | exact format.plain_internal | (simp only [sideText]; decide)

theorem plain_orderTypeText (orderType : RoqBitget.OrderType) :
    Plain (orderTypeText format orderType) := by
  cases orderType <;> first | exact format.plain_internal | (simp only [orderTypeText]; decide)

theorem plain_timeInForceText (timeInForce : RoqBitget.TimeInForce) :
    Plain (timeInForceText format timeInForce) := by
  cases timeInForce <;>
    first | exact format.plain_internal | (simp only [timeInForceText]; decide)

theorem plain_posSideText (positionEffect : RoqBitget.PositionEffect) (side : RoqBitget.Side) :
    Plain (posSideText format positionEffect side) := by
  cases positionEffect <;> cases side <;>
    first | exact format.plain_internal | (simp only [posSideText]; decide)

variable {format} {createOrder : CreateOrder} {modifyOrder : ModifyOrder}
  {cancelAllOrders : CancelAllOrders} {order : Order} {requestId reduceOnly category : String}

/-- A member with a number can be written verbatim. -/
theorem verbatim_decimal {name : String} (hname : Plain name) (value : Double)
    (precision : Precision) :
    Plain (member name (format.decimal value precision)).1 ∧
      (member name (format.decimal value precision)).2.Verbatim :=
  verbatim_member hname (format.plain_decimal value precision)

/-- A new order can be written verbatim if its symbol and its id can. -/
theorem verbatim_createMembers (refData : RefData) (hsymbol : Plain createOrder.symbol)
    (hrequestId : Plain requestId) (hreduceOnly : Plain reduceOnly) :
    MembersVerbatim (createMembers format createOrder refData requestId reduceOnly) := by
  have htimeInForce : Plain (if .participateDoNotInitiate ∈ createOrder.executionInstructions
      then "post_only" else timeInForceText format createOrder.timeInForce) := by
    split_ifs
    · decide
    · exact plain_timeInForceText format _
  have hposSide := plain_posSideText format createOrder.positionEffect createOrder.side
  unfold createMembers
  simp only [membersVerbatim_iff, List.forall_mem_append, List.forall_mem_cons]
  refine ⟨⟨⟨⟨⟨verbatim_member (by decide) hsymbol, verbatim_decimal (by decide) _ _, by simp⟩, ?_⟩,
    verbatim_member (by decide) (plain_sideText format _),
    verbatim_member (by decide) (plain_orderTypeText format _), by simp⟩, ?_⟩,
    verbatim_member (by decide) hrequestId, verbatim_member (by decide) hreduceOnly,
    verbatim_member (by decide) (by decide), by simp⟩
  · by_cases hlimit : createOrder.orderType = .limit
    · rw [if_pos hlimit]
      exact List.forall_mem_cons.mpr ⟨verbatim_decimal (by decide) _ _,
        List.forall_mem_singleton.mpr (verbatim_member (by decide) htimeInForce)⟩
    · simp [hlimit]
  · split_ifs
    · exact List.forall_mem_singleton.mpr (verbatim_member (by decide) hposSide)
    · simp

/-- The member that names an order can be written verbatim if its ids can. -/
theorem verbatim_orderIdMember (hexternal : Plain order.externalOrderId)
    (hclient : Plain order.clientOrderId) :
    Plain (orderIdMember order).1 ∧ (orderIdMember order).2.Verbatim := by
  unfold orderIdMember
  split_ifs
  · exact verbatim_member (by decide) hclient
  · exact verbatim_member (by decide) hexternal

/-- A modification can be written verbatim if the ids of its order can. -/
theorem verbatim_modifyMembers (refData : RefData) (hexternal : Plain order.externalOrderId)
    (hclient : Plain order.clientOrderId) :
    MembersVerbatim (modifyMembers format modifyOrder order refData) := by
  unfold modifyMembers
  simp only [membersVerbatim_iff, List.forall_mem_append, List.forall_mem_cons]
  refine ⟨verbatim_orderIdMember hexternal hclient, ⟨?_, ?_⟩,
    verbatim_member (by decide) (by decide), by simp⟩
  · split_ifs
    · simp
    · exact List.forall_mem_singleton.mpr (verbatim_decimal (by decide) _ _)
  · split_ifs
    · simp
    · exact List.forall_mem_singleton.mpr (verbatim_decimal (by decide) _ _)

/-- A request to cancel all orders can be written verbatim if its symbol and its category can. -/
theorem verbatim_cancelAllMembers (hsymbol : Plain cancelAllOrders.symbol)
    (hcategory : Plain category) : MembersVerbatim (cancelAllMembers cancelAllOrders category) := by
  unfold cancelAllMembers
  rw [membersVerbatim_iff, List.forall_mem_cons]
  refine ⟨verbatim_member (by decide) hcategory, ?_⟩
  split_ifs
  · simp
  · rw [List.forall_mem_singleton]
    exact verbatim_member (by decide) hsymbol

/-- The seconds of a countdown are written in digits. -/
theorem plain_countdown (countdown : ℤ) : Plain (toString (clampCountdown countdown)) := by
  have hall : ∀ n ∈ List.range 56, Plain (toString (n + 5 : ℤ)) := by decide +kernel
  have hrange : (clampCountdown countdown - 5).toNat ∈ List.range 56 := by
    unfold clampCountdown
    rw [List.mem_range]
    omega
  have heq : (((clampCountdown countdown - 5).toNat : ℤ) + 5) = clampCountdown countdown := by
    unfold clampCountdown
    omega
  have hplain := hall _ hrange
  rwa [heq] at hplain

end Verbatim

/-! ## The messages -/

/-- The message is one JSON object, and has exactly the given members, no two of one name. -/
def Writes (message : String) (members : List (String × Json)) : Prop :=
  read message = some (.object members) ∧ (members.map Prod.fst).Nodup

/-- A message with the text of some members writes them, if they can be written verbatim. -/
theorem writes_of_toList {message : String} {members : List (String × Json)}
    (hverbatim : MembersVerbatim members) (hnodup : (members.map Prod.fst).Nodup)
    (h : message.toList = text (.object members)) : Writes message members := by
  refine ⟨read_text ?_ h, hnodup⟩
  rw [Json.Verbatim]
  exact hverbatim

section Messages

variable {format : Format} {createOrder : CreateOrder} {modifyOrder : ModifyOrder}
  {cancelAllOrders : CancelAllOrders} {order : Order} {refData : RefData}
  {buffer requestId category : String}

/-- No two members of a new order have the same name, and none is named like its category. -/
theorem nodup_createMembers (reduceOnly : String) :
    ("category" :: (createMembers format createOrder refData requestId reduceOnly).map
      Prod.fst).Nodup := by
  unfold createMembers
  split_ifs <;> simp [member]

/-- No two members of a modification have the same name. -/
theorem nodup_modifyMembers :
    ((modifyMembers format modifyOrder order refData).map Prod.fst).Nodup := by
  unfold modifyMembers orderIdMember
  split_ifs <;> simp [member]

/-- A new order over REST. -/
theorem placeOrder_writes (format : Format) (buffer : String) (refData : RefData)
    (hsymbol : Plain createOrder.symbol) (hrequestId : Plain requestId)
    (hcategory : Plain category) :
    ∃ message, placeOrder format buffer createOrder refData requestId category = .ok message ∧
      Writes message (member "category" category ::
        createMembers format createOrder refData requestId "no") := by
  obtain ⟨message, hmessage, htoList⟩ :=
    placeOrder_eq format createOrder refData buffer requestId category
  exact ⟨message, hmessage, writes_of_toList ⟨verbatim_member (by decide) hcategory,
    verbatim_createMembers refData hsymbol hrequestId (by decide)⟩ (nodup_createMembers "no")
    htoList⟩

/-- A message over the websocket can be written verbatim if its order can. -/
theorem verbatim_args {order : List (String × Json)} (h : MembersVerbatim order) :
    Plain "args" ∧ (Json.array [.object order]).Verbatim := by
  refine ⟨by decide, ?_⟩
  simp [Json.Verbatim, AllVerbatim, h]

/-- A new order over the websocket. -/
theorem placeOrderWs_writes (format : Format) (buffer : String) (refData : RefData)
    (hsymbol : Plain createOrder.symbol) (hrequestId : Plain requestId)
    (hcategory : Plain category) :
    ∃ message, placeOrderWs format buffer createOrder refData requestId category = .ok message ∧
      Writes message (placeWsMembers requestId category
        (createMembers format createOrder refData requestId "NO")) := by
  obtain ⟨message, hmessage, htoList⟩ :=
    placeOrderWs_eq format createOrder refData buffer requestId category
  refine ⟨message, hmessage, writes_of_toList ?_ (by simp [placeWsMembers, member]) htoList⟩
  exact ⟨verbatim_member (by decide) (by decide),
    verbatim_member (by decide) (Plain.append (by decide) hrequestId),
    verbatim_member (by decide) hcategory, verbatim_member (by decide) (by decide),
    verbatim_args (verbatim_createMembers refData hsymbol hrequestId (by decide)), trivial⟩

/-- A modification over the websocket. -/
theorem modifyOrderWs_writes (hrequestId : Plain requestId) (hcategory : Plain category)
    (hexternal : Plain order.externalOrderId) (hclient : Plain order.clientOrderId) :
    Writes (modifyOrderWs format buffer modifyOrder order refData requestId category)
      (modifyWsMembers requestId category (modifyMembers format modifyOrder order refData)) := by
  refine writes_of_toList ?_ (by simp [modifyWsMembers, member]) ?_
  · exact ⟨verbatim_member (by decide) (Plain.append (by decide) hrequestId),
      verbatim_member (by decide) (by decide), verbatim_member (by decide) hcategory,
      verbatim_member (by decide) (by decide),
      verbatim_args (verbatim_modifyMembers refData hexternal hclient), trivial⟩
  · simp [modifyOrderWs, appendModifyOrder_eq, clear, modifyWsMembers, member, text, membersText,
      itemsText, quoted]

/-- A cancellation over the websocket. -/
theorem cancelOrderWs_writes (hrequestId : Plain requestId)
    (hexternal : Plain order.externalOrderId) (hclient : Plain order.clientOrderId) :
    Writes (cancelOrderWs buffer order requestId)
      (cancelWsMembers requestId [orderIdMember order]) := by
  refine writes_of_toList ?_ (by simp [cancelWsMembers, member]) ?_
  · exact ⟨verbatim_member (by decide) (Plain.append (by decide) hrequestId),
      verbatim_member (by decide) (by decide), verbatim_member (by decide) (by decide),
      verbatim_args ⟨verbatim_orderIdMember hexternal hclient, trivial⟩, trivial⟩
  · simp [cancelOrderWs, appendCancelOrder_eq, clear, cancelWsMembers, member, text, membersText,
      itemsText, quoted]

/-- A request to cancel all orders. -/
theorem cancelAllOrders_writes (hsymbol : Plain cancelAllOrders.symbol)
    (hcategory : Plain category) :
    Writes (Encoder.cancelAllOrders buffer cancelAllOrders category)
      (cancelAllMembers cancelAllOrders category) := by
  refine writes_of_toList (verbatim_cancelAllMembers hsymbol hcategory) ?_ ?_
  · unfold cancelAllMembers
    split_ifs <;> simp [member]
  · unfold Encoder.cancelAllOrders cancelAllMembers
    by_cases hempty : cancelAllOrders.symbol = "" <;>
      simp [hempty, clear, member, text, membersText, quoted]

/-- A countdown. -/
theorem countdownCancelAll_writes (buffer : String) (countdown : ℤ) :
    Writes (countdownCancelAll buffer countdown)
      [member "countdown" (toString (clampCountdown countdown))] := by
  refine writes_of_toList ⟨verbatim_member (by decide) (plain_countdown countdown), trivial⟩
    (by simp) ?_
  simp [countdownCancelAll, clear, member, text, membersText, quoted]

end Messages

/-- **Every message is well-formed and has exactly the members it is meant to have.** For every
request, order, reference data, request id and category whose strings need no escapes, and
whatever the buffer contained, each of the eight encoders gives one JSON object in which no name
occurs twice, with the members of the request: the price and the time in force of a limit order
only, the position if a position effect is given, the quantity and the price of a modification
if they are numbers, the symbol of a request to cancel all orders if it is not empty, one of the
two ids of an order, the countdown in seconds, which is clamped to the range from 5 to 60, and over
the websocket the id of the request with its letter. -/
theorem messages_wellFormed (format : Format) (buffer : String) (createOrder : CreateOrder)
    (modifyOrder : ModifyOrder) (cancelAllOrders : CancelAllOrders) (order : Order)
    (refData : RefData) (requestId category : String) (countdown : ℤ)
    (hsymbol : Plain createOrder.symbol) (hsymbolAll : Plain cancelAllOrders.symbol)
    (hexternal : Plain order.externalOrderId) (hclient : Plain order.clientOrderId)
    (hrequestId : Plain requestId) (hcategory : Plain category) :
    (∃ message, placeOrder format buffer createOrder refData requestId category = .ok message ∧
      Writes message (member "category" category ::
        createMembers format createOrder refData requestId "no")) ∧
    Writes (Encoder.modifyOrder format buffer modifyOrder order refData)
      (modifyMembers format modifyOrder order refData) ∧
    Writes (cancelOrder buffer order) [orderIdMember order] ∧
    Writes (Encoder.cancelAllOrders buffer cancelAllOrders category)
      (cancelAllMembers cancelAllOrders category) ∧
    (∃ seconds, SendsCountdown countdown seconds ∧
      Writes (countdownCancelAll buffer countdown) [member "countdown" (toString seconds)]) ∧
    (∃ message, placeOrderWs format buffer createOrder refData requestId category = .ok message ∧
      Writes message (placeWsMembers requestId category
        (createMembers format createOrder refData requestId "NO"))) ∧
    Writes (modifyOrderWs format buffer modifyOrder order refData requestId category)
      (modifyWsMembers requestId category (modifyMembers format modifyOrder order refData)) ∧
    Writes (cancelOrderWs buffer order requestId)
      (cancelWsMembers requestId [orderIdMember order]) ∧
    ((createMembers format createOrder refData requestId "NO").map Prod.fst).Nodup := by
  refine ⟨placeOrder_writes format buffer refData hsymbol hrequestId hcategory, ?_, ?_,
    cancelAllOrders_writes hsymbolAll hcategory,
    ⟨clampCountdown countdown, sendsCountdown_clampCountdown countdown,
      countdownCancelAll_writes buffer countdown⟩,
    placeOrderWs_writes format buffer refData hsymbol hrequestId hcategory,
    modifyOrderWs_writes hrequestId hcategory hexternal hclient,
    cancelOrderWs_writes hrequestId hexternal hclient,
    (List.nodup_cons.mp (nodup_createMembers "NO")).2⟩
  · refine writes_of_toList (verbatim_modifyMembers refData hexternal hclient)
      nodup_modifyMembers ?_
    simp [Encoder.modifyOrder, appendModifyOrder_eq, clear]
  · refine writes_of_toList ⟨verbatim_orderIdMember hexternal hclient, trivial⟩ (by simp) ?_
    simp [cancelOrder, appendCancelOrder_eq, clear]

/-- A limit order for a thousandth of a coin. -/
def limitOrder (timeInForce : RoqBitget.TimeInForce) : CreateOrder where
  symbol := "BTCUSDT"
  side := .buy
  positionEffect := .undefined
  orderType := .limit
  timeInForce := timeInForce
  executionInstructions := ∅
  quantity := .value (1 / 1000)
  price := .value 32000

/-- Quantities with four decimals, prices with one. -/
def simpleRefData : RefData := ⟨.decimals 4, .decimals 1⟩

/-- The message of a limit order, whatever the buffer contained. -/
example : placeOrder simpleFormat "stale" (limitOrder .gtc) simpleRefData "1234" "USDT-FUTURES" =
    .ok ("\x7b\"category\":\"USDT-FUTURES\",\"symbol\":\"BTCUSDT\",\"qty\":\"0.0010\"," ++
      "\"price\":\"32000.0\",\"timeInForce\":\"gtc\",\"side\":\"buy\",\"orderType\":\"limit\"," ++
      "\"clientOid\":\"1234\",\"reduceOnly\":\"no\",\"stpMode\":\"none\"\x7d") := by
  decide +kernel

/-- The message of a modification of which only the quantity is given is well-formed. -/
theorem quantityOnly_wellFormed :
    Writes (modifyOrder simpleFormat "stale" ⟨.value 1, .nan⟩ ⟨"", "oAAB"⟩ simpleRefData)
      [member "clientOid" "oAAB", member "qty" "1.0000", member "autoCancel" "no"] := by
  have h := (messages_wellFormed simpleFormat "stale" (limitOrder .gtc) ⟨.value 1, .nan⟩ ⟨""⟩
    ⟨"", "oAAB"⟩ simpleRefData "1234" "USDT-FUTURES" 30 (by decide) (by decide) (by decide)
    (by decide) (by decide) (by decide)).2.1
  have hquantity : decimalText (.value 1) simpleRefData.quantityPrecision = "1.0000" := by
    decide +kernel
  simpa [modifyMembers, orderIdMember, simpleFormat, hquantity] using h

end RoqBitget.Protocol.Encoder
