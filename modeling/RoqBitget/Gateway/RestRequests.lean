import RoqBitget.Gateway.Heartbeat
import RoqBitget.Tools.Crypto

set_option relaxedAutoImplicit false
set_option autoImplicit false

/-!
# The requests of the REST stream

What `OrderEntry` sends: the path and the query of every request, its body, and the headers that
sign it. The four parts of a request are put together in the text that is signed, without anything
between them.

## Main definitions

* `RoqBitget.Gateway.Api` — `API`, the category and the paths.
* `RoqBitget.Gateway.RestRequest` — `web::rest::Request`.
* `RoqBitget.Gateway.RestRequests.getAccountSettings`, `placeOrder`, … — what is sent.
* `RoqBitget.Gateway.RestRequests.Operation` — the requests that there are.

## Main results

* `RoqBitget.Gateway.RestRequests.made_request` — where the parts of a request begin, and what its
  headers sign.
* `RoqBitget.Gateway.RestRequests.Splits.contents_eq` — what is signed says what is sent.
* `RoqBitget.Gateway.RestRequests.Splits.signedText_ne_loginText` — a request is never signed like
  a login.

## Implementation notes

The conversion of a time to milliseconds by `safe_cast` is outside of the repository. The quality of
service of a request is not modelled, it is always the default; neither is its name.
-/

namespace RoqBitget.Gateway

open RoqBitget.Protocol RoqBitget.Tools

/-! ## The API -/

/-- `API::Key`. -/
inductive Api.Key
  | spot
  | margin
  | usdtFutures
  | usdcFutures
  | coinFutures
  deriving DecidableEq

/-- `API`. -/
structure Api where
  category : String
  instType : String
  instruments : String
  accountSettings : String
  accountAssets : String
  currentPositions : String
  unfilledOrders : String
  orderDetails : String
  tradeFills : String
  placeOrder : String
  modifyOrder : String
  cancelOrder : String
  cancelAllOrders : String
  countdownCancelAll : String
  deriving DecidableEq

namespace Api

/-- The paths are those of every category. -/
def helper (category instType : String) : Api where
  category := category
  instType := instType
  instruments := "/api/v3/market/instruments"
  accountSettings := "/api/v3/account/settings"
  accountAssets := "/api/v3/account/assets"
  currentPositions := "/api/v3/position/current-position"
  unfilledOrders := "/api/v3/trade/unfilled-orders"
  orderDetails := "/api/v3/trade/order-info"
  tradeFills := "/api/v3/trade/fills"
  placeOrder := "/api/v3/trade/place-order"
  modifyOrder := "/api/v3/trade/modify-order"
  cancelOrder := "/api/v3/trade/cancel-order"
  cancelAllOrders := "/api/v3/trade/cancel-symbol-order"
  countdownCancelAll := "/api/v3/trade/countdown-cancel-all"

/-- `API::create`. -/
def create : Key → Api
  | .spot => helper "SPOT" "spot"
  | .margin => helper "MARGIN" "margin"
  | .usdtFutures => helper "USDT-FUTURES" "usdt-futures"
  | .usdcFutures => helper "USDC-FUTURES" "usdc-futures"
  | .coinFutures => helper "COIN-FUTURES" "coin-futures"

end Api

/-! ## Requests -/

/-- `web::http::Accept` and `web::http::ContentType`. -/
inductive MediaType
  | undefined
  | applicationJson
  deriving DecidableEq

/-- `web::rest::Request`. -/
structure RestRequest where
  method : Method
  path : String
  query : String
  accept : MediaType
  contentType : MediaType
  headers : String
  body : String
  deriving DecidableEq

/-- Why a request is not sent. -/
inductive RequestError
  /-- `server::oms::NotReady`. -/
  | notReady
  /-- A value that has no counterpart at the exchange. -/
  | map (error : MapError)

namespace RestRequests

/-- What is computed outside of the repository. -/
structure Platform extends Signing where
  format : Encoder.Format

/-- What the requests of a stream depend on. -/
structure Context where
  account : Tools.Account
  api : Api.Key
  /-- `settings.rest.ping_freq`. -/
  pingFreq : Nanoseconds
  /-- `settings.rest.download_fills_begin`. -/
  downloadFillsBegin : Nanoseconds

/-- `shared_.api`. -/
def Context.sharedApi (context : Context) : Api := Api.create context.api

section Functions

variable (platform : Platform) (context : Context) (originCreateTimeUtc : Nanoseconds)

/-- A request that asks for something. -/
def get (path query : String) : RestRequest where
  method := .get
  path := path
  query := query
  accept := .applicationJson
  contentType := .undefined
  headers := context.account.createHeaders platform.toSigning originCreateTimeUtc .get path query ""
  body := ""

/-- A request that has something done. -/
def post (path query body : String) : RestRequest where
  method := .post
  path := path
  query := query
  accept := .applicationJson
  contentType := .applicationJson
  headers :=
    context.account.createHeaders platform.toSigning originCreateTimeUtc .post path query body
  body := body

/-- The query that says the category. -/
def categoryQuery : String := "?category=" ++ context.sharedApi.category

/-- `OrderEntry::get_account_settings`. -/
def getAccountSettings : RestRequest :=
  get platform context originCreateTimeUtc context.sharedApi.accountSettings
    (categoryQuery context)

/-- `OrderEntry::get_account_assets`. -/
def getAccountAssets : RestRequest :=
  get platform context originCreateTimeUtc context.sharedApi.accountAssets
    (categoryQuery context)

/-- `OrderEntry::get_current_positions`. -/
def getCurrentPositions : RestRequest :=
  get platform context originCreateTimeUtc context.sharedApi.currentPositions
    (categoryQuery context)

/-- `OrderEntry::get_unfilled_orders`. -/
def getUnfilledOrders : RestRequest :=
  get platform context originCreateTimeUtc context.sharedApi.unfilledOrders
    (categoryQuery context)

/-- `OrderEntry::get_order_details`. -/
def getOrderDetails (clientOrderId externalOrderId : String) : RestRequest :=
  let query :=
    if externalOrderId = "" then
      "?category=" ++ context.sharedApi.category ++ "&clientOid=" ++ clientOrderId
    else "?category=" ++ context.sharedApi.category ++ "&orderId=" ++ externalOrderId
  get platform context originCreateTimeUtc context.sharedApi.orderDetails query

/-- `OrderEntry::get_trade_fills`. -/
def getTradeFills : RestRequest :=
  let startTime := (originCreateTimeUtc - context.downloadFillsBegin).tdiv 1000000
  let query :=
    "?category=" ++ context.sharedApi.category ++ "&startTime=" ++ toString startTime
  get platform context originCreateTimeUtc context.sharedApi.tradeFills query

/-- `OrderEntry::countdown_cancel_all`. -/
def countdownCancelAll (encodeBuffer : String) : RestRequest :=
  let body := Encoder.countdownCancelAll encodeBuffer (OrderEntry.toSeconds context.pingFreq)
  post platform context originCreateTimeUtc context.sharedApi.countdownCancelAll "" body

variable (ready : Bool) (encodeBuffer : String)

/-- `OrderEntry::place_order`. -/
def placeOrder (createOrder : CreateOrder) (refData : RefData) (requestId : String) :
    Except RequestError RestRequest := do
  if !ready then
    throw .notReady
  let query := categoryQuery context
  let body ← (Encoder.placeOrder platform.format encodeBuffer createOrder refData requestId
    context.sharedApi.category).mapError .map
  return post platform context originCreateTimeUtc context.sharedApi.placeOrder query body

/-- `OrderEntry::modify_order`. -/
def modifyOrder (modifyOrder : ModifyOrder) (order : Order) (refData : RefData) :
    Except RequestError RestRequest := do
  if !ready then
    throw .notReady
  let query := categoryQuery context
  let body := Encoder.modifyOrder platform.format encodeBuffer modifyOrder order refData
  return post platform context originCreateTimeUtc context.sharedApi.modifyOrder query body

/-- `OrderEntry::cancel_order`. -/
def cancelOrder (order : Order) : Except RequestError RestRequest := do
  if !ready then
    throw .notReady
  let query := categoryQuery context
  let body := Encoder.cancelOrder encodeBuffer order
  return post platform context originCreateTimeUtc context.sharedApi.cancelOrder query body

/-- `OrderEntry::cancel_all_orders`. -/
def cancelAllOrders (cancelAllOrders : CancelAllOrders) : Except RequestError RestRequest := do
  if !ready then
    throw .notReady
  let query := categoryQuery context
  let body := Encoder.cancelAllOrders encodeBuffer cancelAllOrders context.sharedApi.category
  return post platform context originCreateTimeUtc context.sharedApi.cancelAllOrders query body

/-- What the stream can send. -/
inductive Operation
  | accountSettings
  | accountAssets
  | currentPositions
  | unfilledOrders
  | orderDetails (clientOrderId externalOrderId : String)
  | tradeFills
  | placeOrder (createOrder : CreateOrder) (refData : RefData) (requestId : String)
  | modifyOrder (modifyOrder : ModifyOrder) (order : Order) (refData : RefData)
  | cancelOrder (order : Order)
  | cancelAllOrders (cancelAllOrders : CancelAllOrders)
  | countdownCancelAll

/-- The request of an operation. -/
def Operation.request : Operation → Except RequestError RestRequest
  | accountSettings => .ok (getAccountSettings platform context originCreateTimeUtc)
  | accountAssets => .ok (getAccountAssets platform context originCreateTimeUtc)
  | currentPositions => .ok (getCurrentPositions platform context originCreateTimeUtc)
  | unfilledOrders => .ok (getUnfilledOrders platform context originCreateTimeUtc)
  | orderDetails clientOrderId externalOrderId =>
    .ok (getOrderDetails platform context originCreateTimeUtc clientOrderId externalOrderId)
  | tradeFills => .ok (getTradeFills platform context originCreateTimeUtc)
  | placeOrder createOrder refData requestId =>
    RestRequests.placeOrder platform context originCreateTimeUtc ready encodeBuffer createOrder
      refData requestId
  | modifyOrder change order refData =>
    RestRequests.modifyOrder platform context originCreateTimeUtc ready encodeBuffer change order
      refData
  | cancelOrder order =>
    RestRequests.cancelOrder platform context originCreateTimeUtc ready encodeBuffer order
  | cancelAllOrders all =>
    RestRequests.cancelAllOrders platform context originCreateTimeUtc ready encodeBuffer all
  | countdownCancelAll =>
    .ok (RestRequests.countdownCancelAll platform context originCreateTimeUtc encodeBuffer)

end Functions

/-! ## Where the parts begin -/

/-- What the signature is meant to cover. -/
structure Contents where
  method : Method
  path : String
  query : String
  body : String
  deriving DecidableEq

/-- The contents of a request. -/
def contents (request : RestRequest) : Contents :=
  ⟨request.method, request.path, request.query, request.body⟩

/-- What is signed for some contents. -/
def Contents.signedText (timestamp : String) (contents : Contents) : String :=
  Tools.signedText timestamp contents.method contents.path contents.query contents.body

/-- The parts of a request can be told from each other: a query begins with a question mark, a
body with a brace, and nothing before them contains these. -/
structure Splits (contents : Contents) : Prop where
  path : ∀ c ∈ contents.path.toList, (c != '?') = true ∧ (c != '\x7b') = true
  query : ∀ c ∈ contents.query.toList.head?, (c != '?') = false
  get : contents.method = .get → contents.query ≠ "" ∧ contents.body = ""
  post : contents.method = .post → (∀ c ∈ contents.query.toList, (c != '\x7b') = true) ∧
    contents.body.toList.head? = some '\x7b'

/-- What is known about a request that the stream makes. -/
structure Made (platform : Platform) (context : Context) (originCreateTimeUtc : Nanoseconds)
    (request : RestRequest) : Prop where
  splits : Splits (contents request)
  headers : request.headers = context.account.createHeaders platform.toSigning
    originCreateTimeUtc request.method request.path request.query request.body

section Made

variable {platform : Platform} {context : Context} {originCreateTimeUtc : Nanoseconds}

/-- A request that asks for something in a query. -/
theorem made_get {path query : String}
    (hpath : ∀ c ∈ path.toList, (c != '?') = true ∧ (c != '\x7b') = true)
    (hquery : query.toList.head? = some '?') :
    Made platform context originCreateTimeUtc
      (get platform context originCreateTimeUtc path query) := by
  refine ⟨⟨hpath, fun c hc => ?_, fun _ => ⟨?_, rfl⟩, fun h => Method.noConfusion h⟩, rfl⟩
  · rw [contents, get, hquery] at hc
    cases hc
    decide
  · rintro rfl
    exact absurd hquery (by decide)

/-- A query begins with its question mark. -/
theorem head?_append {rest : String} : ("?category=" ++ rest).toList.head? = some '?' := by
  rw [String.toList_append]
  rfl

/-- The query that says the category. -/
theorem categoryQuery_spec (context : Context) : (categoryQuery context).toList.head? = some '?' ∧
    ∀ c ∈ (categoryQuery context).toList, (c != '\x7b') = true := by
  have hcategory : ∀ key : Api.Key,
      ("?category=" ++ (Api.create key).category).toList.head? = some '?' ∧
        ∀ c ∈ ("?category=" ++ (Api.create key).category).toList, (c != '\x7b') = true := by
    intro key
    rw [← List.all_eq_true]
    cases key <;> decide
  exact hcategory context.api

/-- A request that has something done to a category. -/
theorem made_post {path body : String}
    (hpath : ∀ c ∈ path.toList, (c != '?') = true ∧ (c != '\x7b') = true)
    (hbody : body.toList.head? = some '\x7b') :
    Made platform context originCreateTimeUtc
      (post platform context originCreateTimeUtc path (categoryQuery context) body) := by
  obtain ⟨hhead, hquery⟩ := categoryQuery_spec context
  refine ⟨⟨hpath, fun c hc => ?_, fun h => Method.noConfusion h, fun _ => ⟨hquery, hbody⟩⟩, rfl⟩
  rw [contents, post, hhead] at hc
  cases hc
  decide

/-- The paths of the requests. -/
def paths (api : Api) : List String :=
  [api.accountSettings, api.accountAssets, api.currentPositions, api.unfilledOrders,
    api.orderDetails, api.tradeFills, api.placeOrder, api.modifyOrder, api.cancelOrder,
    api.cancelAllOrders, api.countdownCancelAll]

/-- No path contains what begins a query or a body. -/
theorem path_spec (key : Api.Key) : ∀ path ∈ paths (Api.create key), ∀ c ∈ path.toList,
    (c != '?') = true ∧ (c != '\x7b') = true := by
  have hspot : (paths (Api.create .spot)).all fun path => path.toList.all fun c =>
      c != '?' && c != '\x7b' := by decide +kernel
  simp only [List.all_eq_true, Bool.and_eq_true] at hspot
  cases key <;> exact hspot

/-- The countdown has no query. -/
theorem made_countdownCancelAll (encodeBuffer : String) :
    Made platform context originCreateTimeUtc
      (countdownCancelAll platform context originCreateTimeUtc encodeBuffer) := by
  have hpath : context.sharedApi.countdownCancelAll ∈ paths (Api.create context.api) := by
    simp [paths, Context.sharedApi]
  have hbody : (Encoder.countdownCancelAll encodeBuffer
      (OrderEntry.toSeconds context.pingFreq)).toList.head? = some '\x7b' := by
    simp [Encoder.countdownCancelAll, Encoder.clear]
  refine ⟨⟨path_spec context.api _ hpath, ?_, fun h => Method.noConfusion h, fun _ => ⟨?_, hbody⟩⟩,
    rfl⟩
  · simp [contents, countdownCancelAll, post]
  · simp [contents, countdownCancelAll, post]

/-- How a body begins. -/
theorem head?_of_text {body : String} {members : List (String × JsonText.Json)}
    (h : body.toList = JsonText.text (.object members)) : body.toList.head? = some '\x7b' := by
  rw [h]
  cases members <;> rfl

/-- How the body of a request to cancel all orders begins. -/
theorem head?_cancelAllOrders (encodeBuffer : String) (all : CancelAllOrders) (category : String) :
    (Encoder.cancelAllOrders encodeBuffer all category).toList.head? = some '\x7b' := by
  unfold Encoder.cancelAllOrders
  split_ifs <;> simp [Encoder.clear]

/-- **The parts of every request can be told from each other**, and are what its headers sign. -/
theorem made_request {ready : Bool} {encodeBuffer : String} {operation : Operation}
    {request : RestRequest} (h : operation.request platform context originCreateTimeUtc ready
      encodeBuffer = .ok request) : Made platform context originCreateTimeUtc request := by
  have hpath := path_spec context.api
  simp only [paths, List.forall_mem_cons, List.not_mem_nil, false_implies, implies_true,
    and_true] at hpath
  obtain ⟨h1, h2, h3, h4, h5, h6, h7, h8, h9, h10, -⟩ := hpath
  cases operation with
  | accountSettings =>
    cases h
    exact made_get h1 head?_append
  | accountAssets =>
    cases h
    exact made_get h2 head?_append
  | currentPositions =>
    cases h
    exact made_get h3 head?_append
  | unfilledOrders =>
    cases h
    exact made_get h4 head?_append
  | orderDetails clientOrderId externalOrderId =>
    cases h
    refine made_get h5 ?_
    split_ifs
    · rw [String.append_assoc, String.append_assoc]
      exact head?_append
    · rw [String.append_assoc, String.append_assoc]
      exact head?_append
  | tradeFills =>
    cases h
    refine made_get h6 ?_
    rw [String.append_assoc, String.append_assoc]
    exact head?_append
  | placeOrder createOrder refData requestId =>
    cases ready with
    | false => cases h
    | true =>
      obtain ⟨body, hbody, htext⟩ := Encoder.placeOrder_eq platform.format createOrder refData
        encodeBuffer requestId context.sharedApi.category
      rw [Operation.request, RestRequests.placeOrder, hbody] at h
      cases h
      exact made_post h7 (head?_of_text htext)
  | modifyOrder change order refData =>
    cases ready with
    | false => cases h
    | true =>
      cases h
      exact made_post h8 (head?_of_text (Encoder.appendModifyOrder_eq _ _ _ _ _))
  | cancelOrder order =>
    cases ready with
    | false => cases h
    | true =>
      cases h
      exact made_post h9 (head?_of_text (Encoder.appendCancelOrder_eq _ _))
  | cancelAllOrders all =>
    cases ready with
    | false => cases h
    | true =>
      cases h
      exact made_post h10 (head?_cancelAllOrders _ _ _)
  | countdownCancelAll =>
    cases h
    exact made_countdownCancelAll encodeBuffer

end Made

/-! ## What is signed -/

/-- What follows the time in the text that is signed. -/
theorem toList_signedText (timestamp : String) (contents : Contents) :
    (contents.signedText timestamp).toList = timestamp.toList ++ (contents.method.text.toList ++
      (contents.path.toList ++ (contents.query.toList ++ contents.body.toList))) := by
  simp only [Contents.signedText, Tools.signedText, String.toList_append, List.append_assoc]

/-- A method is told by its first letter. -/
theorem method_eq {method method' : Method} {rest rest' : List Char}
    (h : method.text.toList ++ rest = method'.text.toList ++ rest') : method = method' := by
  have hhead := congrArg List.head? h
  cases method <;> cases method' <;> simp [Method.text] at hhead ⊢

section Parts

variable {contents contents' : Contents}

/-- A path ends where the query begins. -/
theorem Splits.front_eq (h : Splits contents) (h' : Splits contents')
    (heq : contents.path.toList ++ contents.query.toList =
      contents'.path.toList ++ contents'.query.toList) :
    contents.path = contents'.path ∧ contents.query = contents'.query := by
  obtain ⟨hpath, hquery⟩ := Delimited.append_inj (fun c hc => (h.path c hc).1) h.query
    (fun c hc => (h'.path c hc).1) h'.query heq
  exact ⟨String.toList_inj.mp hpath, String.toList_inj.mp hquery⟩

/-- A body begins at the first brace. -/
theorem Splits.brace (h : Splits contents) (hpost : contents.method = .post) :
    (∀ c ∈ contents.path.toList ++ contents.query.toList, (c != '\x7b') = true) ∧
      ∀ c ∈ contents.body.toList.head?, (c != '\x7b') = false := by
  obtain ⟨hquery, hbody⟩ := h.post hpost
  refine ⟨fun c hc => (List.mem_append.mp hc).elim (fun hc => (h.path c hc).2) (hquery c),
    fun c hc => ?_⟩
  rw [hbody] at hc
  cases hc
  decide

/-- **What is signed says what is sent.** -/
theorem Splits.contents_eq (h : Splits contents) (h' : Splits contents') {timestamp : String}
    (heq : contents.signedText timestamp = contents'.signedText timestamp) :
    contents = contents' := by
  have hlist := String.toList_inj.mpr heq
  rw [toList_signedText, toList_signedText] at hlist
  replace hlist := List.append_cancel_left hlist
  obtain ⟨method, path, query, body⟩ := contents
  obtain ⟨method', path', query', body'⟩ := contents'
  obtain rfl : method = method' := method_eq hlist
  replace hlist := List.append_cancel_left hlist
  cases method with
  | get =>
    obtain ⟨-, rfl⟩ := h.get rfl
    obtain ⟨-, rfl⟩ := h'.get rfl
    obtain ⟨rfl, rfl⟩ := h.front_eq h' (by simpa using hlist)
    rfl
  | post =>
    rw [← List.append_assoc, ← List.append_assoc] at hlist
    obtain ⟨hnot, hhead⟩ := h.brace rfl
    obtain ⟨hnot', hhead'⟩ := h'.brace rfl
    obtain ⟨hfront, hbody⟩ := Delimited.append_inj hnot hhead hnot' hhead' hlist
    obtain ⟨rfl, rfl⟩ := h.front_eq h' hfront
    obtain rfl := String.toList_inj.mp hbody
    rfl

/-- What is signed for a request has a question mark or a brace in it. -/
theorem Splits.exists_mem (h : Splits contents) (timestamp : String) :
    ∃ c ∈ (contents.signedText timestamp).toList, c = '?' ∨ c = '\x7b' := by
  simp only [toList_signedText, List.mem_append]
  cases hmethod : contents.method with
  | get =>
    obtain ⟨hquery, -⟩ := h.get hmethod
    obtain ⟨c, cs, hcs⟩ := List.exists_cons_of_ne_nil (mt String.toList_eq_nil_iff.mp hquery)
    have hc := h.query c (by rw [hcs]; rfl)
    exact ⟨c, .inr (.inr (.inr (.inl (hcs ▸ List.mem_cons_self)))), .inl (by simpa using hc)⟩
  | post =>
    obtain ⟨-, hbody⟩ := h.post hmethod
    exact ⟨'\x7b', .inr (.inr (.inr (.inr (List.mem_of_mem_head? hbody)))), .inr rfl⟩

/-- **A request is never signed like a login.** -/
theorem Splits.signedText_ne_loginText (h : Splits contents) (timestamp : String)
    (time : Milliseconds) : contents.signedText timestamp ≠ loginText time := by
  intro heq
  obtain ⟨c, hc, hmark⟩ := h.exists_mem timestamp
  rw [heq, loginText, String.toList_append, List.mem_append] at hc
  rcases hc with hc | hc
  · have hbase := isBase64_toString _ c hc
    rcases hmark with rfl | rfl
    · exact absurd hbase (by decide)
    · exact absurd hbase (by decide)
  · rcases hmark with rfl | rfl
    · exact absurd hc (by decide)
    · exact absurd hc (by decide)

end Parts

end RestRequests

end RoqBitget.Gateway
