import RoqBitget.Protocol.Encoder

set_option relaxedAutoImplicit false
set_option autoImplicit false

/-!
# The terms of an order

Whether a new order is sent with the terms that were asked for. The outbound maps know no text
for some values of the API; they map these to an internal value of the schema, which is no
failure, so the encoders write its text instead of refusing the order.

## Main definitions

* `RoqBitget.Protocol.Encoder.Fits` — a number has no more decimals than its precision.
* `RoqBitget.Protocol.Encoder.Recovers` — what a message carries are the terms that were asked
  for, when its texts are read with the schema and the inbound maps.
* `RoqBitget.Protocol.Encoder.SentAsAsked` — an encoder refuses the order, or its message does.
* `RoqBitget.Protocol.Encoder.Expressible` — the orders that the exchange can express.

## Main results

* `RoqBitget.Protocol.Encoder.recovers_iff` — the intended members carry the terms of exactly the
  expressible orders.
* `RoqBitget.Protocol.Encoder.sentAsAsked_iff` — both encoders send exactly the expressible
  orders as they were asked for.
-/

namespace RoqBitget.Protocol.Encoder

open JsonText

/-- A number has no more decimals than its precision; without one it has finitely many. -/
def Fits (q : ℚ) : Precision → Prop
  | .undefined => ∃ (m : ℤ) (n : ℕ), q = m / 10 ^ n
  | .decimals n => ∃ m : ℤ, q = m / 10 ^ n

/-- A format that prints numbers faithfully: what it prints is read as the number, or as one that
is at most half a unit of the last decimal away if the number has more decimals than its
precision, and `NaN` is not printed as a number. The internal values have no text of the
schema. -/
structure FaithfulFormat extends Format where
  /-- The number that a text stands for. -/
  readDecimal : String → Option ℚ
  /-- The number that is printed for a number. -/
  rounded : ℚ → Precision → ℚ
  rounded_fits : ∀ q precision, Fits q precision → rounded q precision = q
  rounded_near : ∀ q n, |rounded q (.decimals n) - q| ≤ 1 / 2 / 10 ^ n
  readDecimal_value : ∀ q precision,
    readDecimal (decimal (.value q) precision) = some (rounded q precision)
  readDecimal_nan : ∀ precision, readDecimal (decimal .nan precision) = none
  side_undeclared : internal ∉ (RawText.table (α := Side)).map Prod.snd
  orderType_undeclared : internal ∉ (RawText.table (α := OrderType)).map Prod.snd
  timeInForce_undeclared : internal ∉ (RawText.table (α := TimeInForce)).map Prod.snd
  posSide_undeclared : internal ∉ (RawText.table (α := PosSide)).map Prod.snd

/-! ## Reading a message back -/

/-- The text of a member. -/
def textOf (members : List (String × Json)) (name : String) : Option String :=
  match members.lookup name with
  | some (.string s) => some s
  | _ => none

/-- The texts of the order that a REST message carries. -/
def restTexts (message : String) : Option (String → Option String) :=
  match read message with
  | some (.object members) => some (textOf members)
  | _ => none

/-- The texts of the order that a websocket message carries. -/
def wsTexts (message : String) : Option (String → Option String) :=
  match read message with
  | some (.object members) =>
    match members.lookup "args" with
    | some (.array [.object order]) => some (textOf order)
    | _ => none
  | _ => none

/-- The value of an enumeration that a text stands for. -/
def readEnum (α : Type) [RawText α] (text : Option String) : Option α := text.bind fromRawText

/-- The number that a text stands for is the given one. -/
def Carries (format : FaithfulFormat) (text : Option String) (value : Double)
    (precision : Precision) : Prop :=
  ∃ q, value = .value q ∧ text.bind format.readDecimal = some (format.rounded q precision)

/-- The terms that were asked for are those that the texts carry. -/
structure Recovers (format : FaithfulFormat) (createOrder : CreateOrder) (refData : RefData)
    (requestId : String) (texts : String → Option String) : Prop where
  symbol : texts "symbol" = some createOrder.symbol
  clientOid : texts "clientOid" = some requestId
  quantity : Carries format (texts "qty") createOrder.quantity refData.quantityPrecision
  side : (readEnum Side (texts "side")).map mapSide = some createOrder.side
  orderType : (readEnum OrderType (texts "orderType")).map mapOrderType =
    some createOrder.orderType
  positionEffect : createOrder.positionEffect ≠ .undefined →
    ∃ posSide side, readEnum PosSide (texts "posSide") = some posSide ∧
      readEnum Side (texts "side") = some side ∧
      mapPosSide posSide side = createOrder.positionEffect
  price : createOrder.orderType = .limit →
    Carries format (texts "price") createOrder.price refData.pricePrecision
  timeInForce : createOrder.orderType = .limit →
    ∃ timeInForce, readEnum TimeInForce (texts "timeInForce") = some timeInForce ∧
      if .participateDoNotInitiate ∈ createOrder.executionInstructions then
        timeInForce = .postOnly
      else timeInForce ≠ .postOnly ∧ mapTimeInForce timeInForce = createOrder.timeInForce

/-- The encoder refuses the order, or its message carries the terms that were asked for. -/
def SentAsAsked (format : FaithfulFormat) (createOrder : CreateOrder) (refData : RefData)
    (requestId : String) (read : String → Option (String → Option String))
    (result : Except MapError String) : Prop :=
  ∀ message, result = .ok message →
    ∃ texts, read message = some texts ∧ Recovers format createOrder refData requestId texts

/-- The orders that the exchange can express, and a message can carry. -/
structure Expressible (createOrder : CreateOrder) : Prop where
  symbol : Plain createOrder.symbol
  quantity : createOrder.quantity ≠ .nan
  side : createOrder.side ≠ .undefined
  orderType : createOrder.orderType ≠ .undefined
  price : createOrder.orderType = .limit → createOrder.price ≠ .nan
  timeInForce : createOrder.orderType = .limit →
    .participateDoNotInitiate ∈ createOrder.executionInstructions ∨
      createOrder.timeInForce ∈ [.gtc, .ioc, .fok]

/-! ## The intended members -/

section Members

variable (format : FaithfulFormat)

/-- A number is carried iff it is one. -/
theorem carries_iff (value : Double) (precision : Precision) :
    Carries format (some (format.decimal value precision)) value precision ↔ value ≠ .nan := by
  cases value with
  | nan => simp [Carries]
  | value q => simp [Carries, format.readDecimal_value]

/-- A declared value is carried by its text. -/
theorem readEnum_asRawText {α : Type} [RawText α] [DecidableEq α] (v : α)
    (h : v ∈ (RawText.table (α := α)).map Prod.fst) :
    readEnum α (some (asRawText format.internal v)) = some v :=
  fromRawText_asRawText format.internal h

/-- A side is carried iff it is defined. -/
theorem side_iff (side : RoqBitget.Side) :
    (readEnum Side (some (sideText format.toFormat side))).map mapSide = some side ↔
      side ≠ .undefined := by
  cases side with
  | undefined => simp [readEnum, sideText, fromRawText_of_notMem format.side_undeclared]
  | buy =>
    have hread : readEnum Side (some (sideText format.toFormat .buy)) = some .buy :=
      readEnum_asRawText format Side.buy (by decide)
    simp [hread, mapSide]
  | sell =>
    have hread : readEnum Side (some (sideText format.toFormat .sell)) = some .sell :=
      readEnum_asRawText format Side.sell (by decide)
    simp [hread, mapSide]

/-- An order type is carried iff it is defined. -/
theorem orderType_iff (orderType : RoqBitget.OrderType) :
    (readEnum OrderType (some (orderTypeText format.toFormat orderType))).map mapOrderType =
      some orderType ↔ orderType ≠ .undefined := by
  cases orderType with
  | undefined => simp [readEnum, orderTypeText, fromRawText_of_notMem format.orderType_undeclared]
  | market =>
    have hread : readEnum OrderType (some (orderTypeText format.toFormat .market)) = some .market :=
      readEnum_asRawText format OrderType.market (by decide)
    simp [hread, mapOrderType]
  | limit =>
    have hread : readEnum OrderType (some (orderTypeText format.toFormat .limit)) = some .limit :=
      readEnum_asRawText format OrderType.limit (by decide)
    simp [hread, mapOrderType]

/-- A time in force is carried iff it is one of the three that have a text. -/
theorem timeInForce_iff (timeInForce : RoqBitget.TimeInForce) :
    (∃ v, readEnum TimeInForce (some (timeInForceText format.toFormat timeInForce)) = some v ∧
      v ≠ .postOnly ∧ mapTimeInForce v = timeInForce) ↔ timeInForce ∈ [.gtc, .ioc, .fok] := by
  have hinternal : fromRawText (α := TimeInForce) format.internal = none :=
    fromRawText_of_notMem format.timeInForce_undeclared
  have hread := readEnum_asRawText (α := TimeInForce) format
  cases timeInForce with
  | gtc => exact iff_of_true ⟨.gtc, hread .gtc (by decide), by decide, rfl⟩ (by decide)
  | ioc => exact iff_of_true ⟨.ioc, hread .ioc (by decide), by decide, rfl⟩ (by decide)
  | fok => exact iff_of_true ⟨.fok, hread .fok (by decide), by decide, rfl⟩ (by decide)
  | _ => simp [readEnum, timeInForceText, hinternal]

/-- A position effect is carried together with a side that is defined. -/
theorem positionEffect_recovered {positionEffect : RoqBitget.PositionEffect}
    {side : RoqBitget.Side} (hposition : positionEffect ≠ .undefined)
    (hside : side ≠ .undefined) :
    ∃ posSide v,
      readEnum PosSide (some (posSideText format.toFormat positionEffect side)) = some posSide ∧
      readEnum Side (some (sideText format.toFormat side)) = some v ∧
      mapPosSide posSide v = positionEffect := by
  have hposSide := readEnum_asRawText (α := PosSide) format
  have hread := readEnum_asRawText (α := Side) format
  cases positionEffect with
  | undefined => exact absurd rfl hposition
  | «open» =>
    cases side with
    | undefined => exact absurd rfl hside
    | buy => exact ⟨.long, .buy, hposSide .long (by decide), hread .buy (by decide), rfl⟩
    | sell => exact ⟨.short, .sell, hposSide .short (by decide), hread .sell (by decide), rfl⟩
  | close =>
    cases side with
    | undefined => exact absurd rfl hside
    | buy => exact ⟨.short, .buy, hposSide .short (by decide), hread .buy (by decide), rfl⟩
    | sell => exact ⟨.long, .sell, hposSide .long (by decide), hread .sell (by decide), rfl⟩

variable (createOrder : CreateOrder) (refData : RefData) (requestId reduceOnly : String)

/-- The texts of the intended members. -/
structure Intended (texts : String → Option String) : Prop where
  symbol : texts "symbol" = some createOrder.symbol
  clientOid : texts "clientOid" = some requestId
  quantity : texts "qty" =
    some (format.decimal createOrder.quantity refData.quantityPrecision)
  side : texts "side" = some (sideText format.toFormat createOrder.side)
  orderType : texts "orderType" = some (orderTypeText format.toFormat createOrder.orderType)
  posSide : createOrder.positionEffect ≠ .undefined → texts "posSide" =
    some (posSideText format.toFormat createOrder.positionEffect createOrder.side)
  price : createOrder.orderType = .limit →
    texts "price" = some (format.decimal createOrder.price refData.pricePrecision)
  timeInForce : createOrder.orderType = .limit → texts "timeInForce" =
    some (if .participateDoNotInitiate ∈ createOrder.executionInstructions then "post_only"
      else timeInForceText format.toFormat createOrder.timeInForce)

/-- The intended members have the intended texts. -/
theorem intended_createMembers : Intended format createOrder refData requestId
    (textOf (createMembers format.toFormat createOrder refData requestId reduceOnly)) := by
  constructor <;> unfold textOf createMembers <;>
    by_cases hlimit : createOrder.orderType = .limit <;>
    by_cases hposition : createOrder.positionEffect = .undefined <;>
    simp [hlimit, hposition, member, List.lookup_cons]

/-- A member of another name in front does not matter. -/
theorem textOf_cons {members : List (String × Json)} {name name' value : String}
    (h : name ≠ name') : textOf (member name' value :: members) name = textOf members name := by
  have hne : (name == name') = false := by simpa using h
  simp [textOf, member, List.lookup_cons, hne]

variable {format createOrder refData requestId} {texts : String → Option String}

/-- The category in front does not matter. -/
theorem Intended.cons {members : List (String × Json)} (category : String)
    (h : Intended format createOrder refData requestId (textOf members)) :
    Intended format createOrder refData requestId
      (textOf (member "category" category :: members)) where
  symbol := (textOf_cons (by decide)).trans h.symbol
  clientOid := (textOf_cons (by decide)).trans h.clientOid
  quantity := (textOf_cons (by decide)).trans h.quantity
  side := (textOf_cons (by decide)).trans h.side
  orderType := (textOf_cons (by decide)).trans h.orderType
  posSide hposition := (textOf_cons (by decide)).trans (h.posSide hposition)
  price hlimit := (textOf_cons (by decide)).trans (h.price hlimit)
  timeInForce hlimit := (textOf_cons (by decide)).trans (h.timeInForce hlimit)

/-- **What the intended members carry.** If the symbol can be written verbatim, they carry the
terms that were asked for iff these can be expressed. -/
theorem recovers_iff (h : Intended format createOrder refData requestId texts)
    (hsymbol : Plain createOrder.symbol) :
    Recovers format createOrder refData requestId texts ↔ Expressible createOrder := by
  constructor
  · intro hrecovers
    refine ⟨hsymbol, ?_, ?_, ?_, fun hlimit => ?_, fun hlimit => ?_⟩
    · exact (carries_iff format _ _).mp (h.quantity ▸ hrecovers.quantity)
    · exact (side_iff format _).mp (h.side ▸ hrecovers.side)
    · exact (orderType_iff format _).mp (h.orderType ▸ hrecovers.orderType)
    · exact (carries_iff format _ _).mp (h.price hlimit ▸ hrecovers.price hlimit)
    · obtain ⟨v, hread, hv⟩ := hrecovers.timeInForce hlimit
      rw [h.timeInForce hlimit] at hread
      by_cases hpostOnly : .participateDoNotInitiate ∈ createOrder.executionInstructions
      · exact .inl hpostOnly
      · rw [if_neg hpostOnly] at hread hv
        exact .inr ((timeInForce_iff format _).mp ⟨v, hread, hv⟩)
  · intro hexpressible
    exact
      { symbol := h.symbol
        clientOid := h.clientOid
        quantity := by
          rw [h.quantity]
          exact (carries_iff format _ _).mpr hexpressible.quantity
        side := by
          rw [h.side]
          exact (side_iff format _).mpr hexpressible.side
        orderType := by
          rw [h.orderType]
          exact (orderType_iff format _).mpr hexpressible.orderType
        positionEffect := fun hposition => by
          rw [h.posSide hposition, h.side]
          exact positionEffect_recovered format hposition hexpressible.side
        price := fun hlimit => by
          rw [h.price hlimit]
          exact (carries_iff format _ _).mpr (hexpressible.price hlimit)
        timeInForce := fun hlimit => by
          rw [h.timeInForce hlimit]
          by_cases hpostOnly : .participateDoNotInitiate ∈ createOrder.executionInstructions
          · simp only [if_pos hpostOnly]
            exact ⟨.postOnly, rfl, rfl⟩
          · simp only [if_neg hpostOnly]
            exact (timeInForce_iff format _).mpr
              ((hexpressible.timeInForce hlimit).resolve_left hpostOnly) }

end Members

/-! ## Symbols that cannot be written verbatim -/

section Symbol

variable {format : Format} {createOrder : CreateOrder} {refData : RefData}
  {buffer requestId category message : String}

/-- A text that is found in a member is the value of the member. -/
theorem lookup_of_textOf {members : List (String × Json)} {name s : String}
    (h : textOf members name = some s) : members.lookup name = some (.string s) := by
  unfold textOf at h
  split at h
  · rename_i s' hlookup
    rw [hlookup, Option.some.inj h]
  · simp at h

/-- The members of a new order start with its symbol. -/
theorem exists_membersText_createMembers (format : Format) (createOrder : CreateOrder)
    (refData : RefData) (requestId reduceOnly : String) :
    ∃ cs, membersText (createMembers format createOrder refData requestId reduceOnly) =
      ',' :: (quoted "symbol" ++ ':' :: (quoted createOrder.symbol ++ cs)) := by
  unfold createMembers
  simp only [List.append_assoc, List.cons_append, member, membersText, text]
  exact ⟨_, rfl⟩

/-- A symbol that a REST message carries is plain. -/
theorem plain_symbol_of_rest (hcategory : Plain category)
    (hmessage : placeOrder format buffer createOrder refData requestId category = .ok message)
    {texts : String → Option String} (htexts : restTexts message = some texts)
    (hsymbol : texts "symbol" = some createOrder.symbol) : Plain createOrder.symbol := by
  obtain ⟨message', hmessage', htoList⟩ :=
    placeOrder_eq format createOrder refData buffer requestId category
  obtain rfl : message' = message := Except.ok.inj (hmessage'.symm.trans hmessage)
  obtain ⟨cs, hcs⟩ :=
    exists_membersText_createMembers format createOrder refData requestId "no"
  simp only [text, member, hcs] at htoList
  unfold restTexts at htexts
  split at htexts
  · rename_i members hread
    obtain rfl := Option.some.inj htexts
    have hlookup := lookup_of_textOf hsymbol
    obtain ⟨n, rest, hmembers⟩ := readMembers_of_read htoList hread
    obtain ⟨m, members', rfl, hrest⟩ := readMembers_member (by decide) hcategory hmembers
    rw [member, List.lookup_cons] at hlookup
    exact plain_of_readMembers (by decide) hrest hlookup
  · simp at htexts

/-- The first member of the first object of an array is read as it was written only if its value
is plain. -/
theorem plain_of_readValue_array {n : ℕ} {cs rest : List Char} {name s : String}
    {order : List (String × Json)} (hname : Plain name)
    (h : readValue n ('[' :: '\x7b' :: (quoted name ++ ':' :: (quoted s ++ cs))) =
      some (.array [.object order], rest))
    (hlookup : order.lookup name = some (.string s)) : Plain s := by
  obtain ⟨m, items, hitems, hread⟩ := readValue_array h
  obtain ⟨m', item, items', cs', hcons, hitem⟩ := readItems_cons hread
  obtain rfl := Json.array.inj hitems
  obtain ⟨m'', members, hobject, hmembers⟩ := readValue_object hitem
  obtain ⟨hhead, -⟩ := List.cons.inj hcons
  obtain rfl := Json.object.inj (hhead.trans hobject)
  exact plain_of_readMembers hname hmembers hlookup

/-- A symbol that a websocket message carries is plain. -/
theorem plain_symbol_of_ws (hrequestId : Plain requestId) (hcategory : Plain category)
    (hmessage : placeOrderWs format buffer createOrder refData requestId category = .ok message)
    {texts : String → Option String} (htexts : wsTexts message = some texts)
    (hsymbol : texts "symbol" = some createOrder.symbol) : Plain createOrder.symbol := by
  obtain ⟨message', hmessage', htoList⟩ :=
    placeOrderWs_eq format createOrder refData buffer requestId category
  obtain rfl : message' = message := Except.ok.inj (hmessage'.symm.trans hmessage)
  obtain ⟨cs, hcs⟩ :=
    exists_membersText_createMembers format createOrder refData requestId "NO"
  simp only [placeWsMembers, member, text, membersText, itemsText, text_object hcs] at htoList
  unfold wsTexts at htexts
  split at htexts
  · rename_i members hread
    split at htexts
    · rename_i order' hargs
      obtain rfl := Option.some.inj htexts
      have hlookup := lookup_of_textOf hsymbol
      obtain ⟨n, rest, hop⟩ := readMembers_of_read htoList hread
      obtain ⟨m, members', rfl, hid⟩ := readMembers_member (by decide) (by decide) hop
      obtain ⟨m, members', rfl, hcat⟩ :=
        readMembers_member (by decide) (Plain.append (by decide) hrequestId) hid
      obtain ⟨m, members', rfl, htopic⟩ := readMembers_member (by decide) hcategory hcat
      obtain ⟨m, members', rfl, hrest⟩ := readMembers_member (by decide) (by decide) htopic
      obtain ⟨m, value, members', cs', rfl, hvalue, -⟩ := readMembers_cons (by decide) hrest
      have harray : value = .array [.object order'] := by
        simpa [member, List.lookup_cons] using hargs
      simp only [harray, List.cons_append, List.append_assoc] at hvalue
      exact plain_of_readValue_array (by decide) hvalue hlookup
    · simp at htexts
  · simp at htexts

end Symbol

/-! ## Orders are sent as asked -/

section SentAsAsked

variable {format : FaithfulFormat} {createOrder : CreateOrder} {refData : RefData}
  {buffer requestId category : String}

/-- An encoder that writes the intended members sends an order as it was asked for iff it can be
expressed, if only plain symbols are read from its messages. -/
theorem sentAsAsked_iff_of_writes {result : Except MapError String}
    {read : String → Option (String → Option String)}
    (hwrites : Plain createOrder.symbol → ∃ message texts, result = .ok message ∧
      read message = some texts ∧ Intended format createOrder refData requestId texts)
    (hplain : ∀ message texts, result = .ok message → read message = some texts →
      texts "symbol" = some createOrder.symbol → Plain createOrder.symbol)
    (hok : ∃ message, result = .ok message) :
    SentAsAsked format createOrder refData requestId read result ↔ Expressible createOrder := by
  constructor
  · intro h
    obtain ⟨message, hmessage⟩ := hok
    obtain ⟨texts, htexts, hrecovers⟩ := h message hmessage
    have hsymbol := hplain message texts hmessage htexts hrecovers.symbol
    obtain ⟨message', texts', hmessage', htexts', hintended⟩ := hwrites hsymbol
    obtain rfl := Except.ok.inj (hmessage'.symm.trans hmessage)
    obtain rfl := Option.some.inj (htexts'.symm.trans htexts)
    exact (recovers_iff hintended hsymbol).mp hrecovers
  · intro h message hmessage
    obtain ⟨message', texts, hmessage', htexts, hintended⟩ := hwrites h.symbol
    obtain rfl := Except.ok.inj (hmessage'.symm.trans hmessage)
    exact ⟨texts, htexts, (recovers_iff hintended h.symbol).mpr h⟩

/-- A new order over REST. -/
theorem placeOrder_sentAsAsked_iff (format : FaithfulFormat) (hrequestId : Plain requestId)
    (hcategory : Plain category) :
    SentAsAsked format createOrder refData requestId restTexts
      (placeOrder format.toFormat buffer createOrder refData requestId category) ↔
        Expressible createOrder := by
  refine sentAsAsked_iff_of_writes (fun hsymbol => ?_)
    (fun _ _ hmessage htexts => plain_symbol_of_rest hcategory hmessage htexts) ?_
  · obtain ⟨message, hmessage, hread, -⟩ :=
      placeOrder_writes format.toFormat buffer refData hsymbol hrequestId hcategory
    refine ⟨message, _, hmessage, by rw [restTexts, hread], ?_⟩
    exact (intended_createMembers format createOrder refData requestId "no").cons category
  · obtain ⟨message, hmessage, -⟩ :=
      placeOrder_eq format.toFormat createOrder refData buffer requestId category
    exact ⟨message, hmessage⟩

/-- A new order over the websocket. -/
theorem placeOrderWs_sentAsAsked_iff (format : FaithfulFormat) (hrequestId : Plain requestId)
    (hcategory : Plain category) :
    SentAsAsked format createOrder refData requestId wsTexts
      (placeOrderWs format.toFormat buffer createOrder refData requestId category) ↔
        Expressible createOrder := by
  refine sentAsAsked_iff_of_writes (fun hsymbol => ?_)
    (fun _ _ hmessage htexts => plain_symbol_of_ws hrequestId hcategory hmessage htexts) ?_
  · obtain ⟨message, hmessage, hread, -⟩ :=
      placeOrderWs_writes format.toFormat buffer refData hsymbol hrequestId hcategory
    refine ⟨message, _, hmessage, ?_,
      intended_createMembers format createOrder refData requestId "NO"⟩
    simp [wsTexts, hread, placeWsMembers, member, List.lookup_cons]
  · obtain ⟨message, hmessage, -⟩ :=
      placeOrderWs_eq format.toFormat createOrder refData buffer requestId category
    exact ⟨message, hmessage⟩

end SentAsAsked

/-- **Both encoders send exactly the expressible orders as they were asked for**, up to the rounding
of a number that has more decimals than its precision. The others have a side or an order type
that is undefined, a limit without a time in force that the exchange knows, a quantity or a limit
price that is no number, or a symbol that would have to be escaped; they are not refused, but sent
with a blank or a different term. -/
theorem sentAsAsked_iff (format : FaithfulFormat) (buffer : String) (createOrder : CreateOrder)
    (refData : RefData) (requestId category : String) (hrequestId : Plain requestId)
    (hcategory : Plain category) :
    (SentAsAsked format createOrder refData requestId restTexts
      (placeOrder format.toFormat buffer createOrder refData requestId category) ↔
        Expressible createOrder) ∧
    (SentAsAsked format createOrder refData requestId wsTexts
      (placeOrderWs format.toFormat buffer createOrder refData requestId category) ↔
        Expressible createOrder) :=
  ⟨placeOrder_sentAsAsked_iff format hrequestId hcategory,
    placeOrderWs_sentAsAsked_iff format hrequestId hcategory⟩

/-- A format that prints numbers with their decimals is faithful. -/
def simpleFaithfulFormat : FaithfulFormat where
  toFormat := simpleFormat
  readDecimal text := FixedPoint.read text.toList
  rounded q precision :=
    (FixedPoint.nearest q (decimalCount q precision) : ℚ) / 10 ^ decimalCount q precision
  rounded_fits q precision h := by
    cases precision with
    | undefined =>
      obtain ⟨m, n, rfl⟩ := h
      exact FixedPoint.nearest_div_decimals m n
    | decimals n =>
      obtain ⟨m, rfl⟩ := h
      rw [decimalCount, FixedPoint.nearest_decimals]
  rounded_near q n := FixedPoint.abs_nearest_sub_le q n
  readDecimal_value q precision := by
    simp only [simpleFormat, decimalText, String.toList_ofList]
    exact FixedPoint.read_print _ _
  readDecimal_nan precision := by
    simp only [simpleFormat, decimalText]
    decide
  side_undeclared := by decide
  orderType_undeclared := by decide
  timeInForce_undeclared := by decide
  posSide_undeclared := by decide

/-- A limit order that is good till cancelled is sent as it was asked for. -/
theorem goodTillCancelled_sentAsAsked :
    SentAsAsked simpleFaithfulFormat (limitOrder .gtc) simpleRefData "1234" restTexts
      (placeOrder simpleFormat "" (limitOrder .gtc) simpleRefData "1234" "USDT-FUTURES") := by
  have hexpressible : Expressible (limitOrder .gtc) :=
    ⟨by decide, by decide, by decide, by decide, by decide, by decide⟩
  exact (sentAsAsked_iff simpleFaithfulFormat "" (limitOrder .gtc) simpleRefData "1234"
    "USDT-FUTURES" (by decide) (by decide)).1.mpr hexpressible

/-- A limit order that is good for the day is sent with a blank time in force. -/
theorem goodForDay_not_sentAsAsked :
    placeOrder simpleFormat "" (limitOrder .gfd) simpleRefData "1234" "USDT-FUTURES" =
      .ok ("\x7b\"category\":\"USDT-FUTURES\",\"symbol\":\"BTCUSDT\",\"qty\":\"0.0010\"," ++
        "\"price\":\"32000.0\",\"timeInForce\":\"\",\"side\":\"buy\",\"orderType\":\"limit\"," ++
        "\"clientOid\":\"1234\",\"reduceOnly\":\"no\",\"stpMode\":\"none\"\x7d") ∧
    ¬ SentAsAsked simpleFaithfulFormat (limitOrder .gfd) simpleRefData "1234" restTexts
      (placeOrder simpleFormat "" (limitOrder .gfd) simpleRefData "1234" "USDT-FUTURES") := by
  refine ⟨by decide +kernel, fun h => ?_⟩
  have hexpressible : Expressible (limitOrder .gfd) :=
    (placeOrder_sentAsAsked_iff simpleFaithfulFormat (by decide) (by decide)).mp h
  exact absurd (hexpressible.timeInForce rfl) (by decide)

end RoqBitget.Protocol.Encoder
