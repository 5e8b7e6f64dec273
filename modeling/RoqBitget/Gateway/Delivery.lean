import RoqBitget.Gateway.Statuses

set_option relaxedAutoImplicit false
set_option autoImplicit false

/-!
# What becomes of an order

An order passes through every part of the gateway: the `Controller` chooses a stream, the stream
looks at its own status, the encoder writes the order down, and a request is signed. The exchange
has the texts of all websocket streams and the requests of all accounts. From these it should get
every order that can be sent, once, and nothing else.

## Main definitions

* `RoqBitget.Gateway.Accounts.received?` — the order that the exchange gets from an action.
* `RoqBitget.Gateway.Accounts.asked` — the orders that it should get.

## Main results

* `RoqBitget.Gateway.Accounts.received?_onStream` — what it gets from a websocket stream.
* `RoqBitget.Gateway.Accounts.received?_onOrderEntry` — what it gets from an `OrderEntry`.
* `RoqBitget.Gateway.Accounts.orders_delivered` — it gets the orders that were asked for.
-/

namespace RoqBitget.Gateway.Accounts

open RoqBitget.Core Runs JsonText
open Authentication (Credentials Registered authenticate)
open DropCopy (topic wsId)
open Protocol.Encoder (OrderAction PlainAction bodyMembers orderMembers)

variable {L : LimitRequest} {D : Download2 DropCopy.State (World L)}

/-! ## What the exchange gets -/

/-- An order action that the exchange gets. -/
inductive Received
  /-- In a text of a websocket stream. -/
  | websocket (account : String) (i : ℕ) (topic id : String) (order : List (String × Json))
  /-- In a request that it believes to be one of a key. -/
  | rest (key path : String) (members : List (String × Json))

/-- The order action among what the exchange reads. -/
def trade? (account : String) (i : ℕ) : PrivateStream.Heard → Option Received
  | .trade topic id order => some (.websocket account i topic id order)
  | _ => none

/-- The order action in a request. -/
def receiveRequest (mac : Tools.Mac) (accounts : String → Option Credentials)
    (request : RestRequest) : Option Received := do
  let key ← authenticate mac accounts request
  match read request.body with
  | some (.object members) => return .rest key request.path members
  | _ => none

/-- The order action that the exchange gets from an action of the gateway. -/
def received? (mac : Tools.Mac) (accounts : String → Option Credentials) :
    Action → Option Received
  | .stream account i action => (action.text?.bind PrivateStream.hear).bind (trade? account i)
  | .request _ request => receiveRequest mac accounts request
  | _ => none

/-! ## What it should get -/

/-- The path of an order action. -/
def actionPath (api : Api) : OrderAction → String
  | .create _ => api.placeOrder
  | .modify _ => api.modifyOrder
  | .cancel => api.cancelOrder

/-- The order action that the exchange should get after an event: one over the websocket stream
whose turn it is, or one over REST if the `OrderEntry` of the account is ready. -/
def asked? (config : GatewayConfig) (h : History Event Action) : Event → Option Received
  | .order account action order refData requestId _ =>
    let members := orderMembers config.platform.format order refData requestId action
    if account ∉ config.names then none
    else if config.settings.wsApi then
      (Controller.Process.turn config.settings.numberOfOrderEntryConnections.toNat account
        (h.flatMap controllerView)).map fun i =>
          .websocket account i (PrivateStream.topicText (topic action))
            (wsId (topic action) requestId) (members "NO")
    else if restStatus account h = .ready then
      some (.rest (config.accounts account).crypto.key (actionPath (Api.create config.api) action)
        (bodyMembers action (Api.create config.api).category (members "no")))
    else none
  | _ => none

/-- The order actions that the exchange should get, in order. -/
def asked (config : GatewayConfig) : History Event Action → List Received
  | [] => []
  | entry :: h => asked config h ++ (asked? config h entry.event).toList

/-- The strings of the order that is asked for need no escapes. -/
def PlainEvent : Event → Prop
  | .order _ action order refData requestId _ =>
    PrivateStream.PlainEvent (.order action order refData requestId)
  | .stream _ _ _ => True

instance : (e : Event) → Decidable (PlainEvent e)
  | .order _ action order refData requestId _ =>
    inferInstanceAs (Decidable (PrivateStream.PlainEvent (.order action order refData requestId)))
  | .stream _ _ _ => isTrue trivial

/-! ## A websocket stream -/

section Stream

variable {mac : Tools.Mac} {accounts : String → Option Credentials} {account : String} {i : ℕ}

/-- What is heard of an action is what it has to say. -/
theorem bind_hear {config : DropCopy.MessageConfig} {e : PrivateStream.Event}
    {action : PrivateStream.Action} (h : PrivateStream.HeardAs config e action) :
    action.text?.bind PrivateStream.hear = action.meant? config e := by
  have hjoin := congrArg Option.join h
  cases htext : action.text? <;> cases hmeant : action.meant? config e <;>
    simp_all [PrivateStream.HeardAs]

/-- The order actions that are heard of a stream. -/
theorem received?_map {config : DropCopy.MessageConfig} {e : PrivateStream.Event}
    {actions : List PrivateStream.Action}
    (h : ∀ action ∈ actions, PrivateStream.HeardAs config e action) :
    (actions.map (Action.stream account i)).filterMap (received? mac accounts) =
      actions.filterMap fun action => (action.meant? config e).bind (trade? account i) := by
  rw [List.filterMap_map]
  refine List.filterMap_congr fun action haction => ?_
  rw [← bind_hear (h action haction)]
  rfl

/-- Only an order makes a stream say something about an order. -/
theorem meant?_bind_trade? {config : DropCopy.MessageConfig} {e : PrivateStream.Event}
    (he : ∀ action order refData requestId, e ≠ .order action order refData requestId)
    (action : PrivateStream.Action) : (action.meant? config e).bind (trade? account i) = none := by
  cases action with
  | session action => cases action <;> rfl
  | sendOrder message =>
    cases e with
    | order action order refData requestId => exact absurd rfl (he action order refData requestId)
    | _ => rfl
  | _ => rfl

end Stream

/-! ## What there is -/

section Created

variable {config : GatewayConfig} {created : Controller.Process} {account : String} {i : ℕ}
  {messageConfig : DropCopy.MessageConfig} {accounts : String → Option Credentials}
  {id id' : UInt16}

/-- The accounts of a stream is one of the configuration. -/
theorem messageConfig_eq
    (hcreate : Controller.create config.settings config.names id = .ok created id')
    (hconfig : messageConfig? config created account i = some messageConfig) :
    account ∈ config.names ∧ ∃ stream : Controller.DropCopy, stream.account = account ∧
      messageConfig = config.messageConfig stream := by
  obtain ⟨rr, hrr, hstream⟩ := Option.bind_eq_some_iff.mp hconfig
  obtain ⟨stream, hmem, heq⟩ := Option.bind_eq_some_iff.mp hstream
  have hname := (Controller.Process.lookup_dropCopy hcreate .init account).mp ⟨rr, hrr⟩
  have howned := (Controller.Process.owned_of_create hcreate).1 _ (Controller.Map.mem_of_lookup hrr)
  exact ⟨hname, stream, howned.account stream (List.mem_of_getElem? hmem),
    (Option.some.inj heq).symm⟩

/-- The strings of the settings need no escapes. -/
theorem plain_category (key : Api.Key) :
    Plain (Api.create key).instType ∧ Plain (Api.create key).category := by
  cases key <;> decide

/-- Neither do those of an account that the exchange knows. -/
theorem plain_messageConfig
    (hcreate : Controller.create config.settings config.names id = .ok created id')
    (hregistered : ∀ account ∈ config.names, Registered accounts (config.accounts account).crypto)
    (hconfig : messageConfig? config created account i = some messageConfig) :
    PrivateStream.PlainConfig messageConfig := by
  obtain ⟨hname, stream, rfl, rfl⟩ := messageConfig_eq hcreate hconfig
  have haccount := hregistered stream.account hname
  exact ⟨haccount.plain_key, haccount.plain_passphrase, (plain_category config.api).1⟩

end Created

section Streams

variable {config : GatewayConfig} {created : Controller.Process} {account : String} {i : ℕ}
  {messageConfig : DropCopy.MessageConfig} {accounts : String → Option Credentials}
  {mac : Tools.Mac} {w : Accounts L D}

/-- **What the exchange gets from a websocket stream** is what the stream has to say. -/
theorem received?_onStream (hconfig : messageConfig? config created account i = some messageConfig)
    (hplain : PrivateStream.PlainConfig messageConfig) {event : PrivateStream.Event}
    (hevent : PrivateStream.PlainEvent event) :
    (onStream config created account i event w).2.filterMap (received? mac accounts) =
      (PrivateStream.react messageConfig (part account i w) event).2.filterMap fun action =>
        (action.meant? messageConfig event).bind (trade? account i) := by
  rw [onStream_eq hconfig, List.filterMap_append, filterMap_publish fun _ _ _ _ _ => rfl,
    List.append_nil]
  exact received?_map (PrivateStream.heardAs_react hplain _ hevent)

/-- An order that a stream is asked for when it is ready. -/
theorem received?_order {action : OrderAction} {order : Order} {refData : RefData}
    {requestId : String} (hconfig : messageConfig? config created account i = some messageConfig)
    (hplain : PrivateStream.PlainConfig messageConfig) (haction : PlainAction action order)
    (hrequestId : Plain requestId)
    (hready : DropCopy.ready (w.streams account i).session.world = true) :
    (onStream config created account i (.order action order refData requestId) w).2.filterMap
        (received? mac accounts) =
      [.websocket account i (PrivateStream.topicText (topic action)) (wsId (topic action) requestId)
        (orderMembers messageConfig.format order refData requestId action "NO")] := by
  have hevent : PrivateStream.PlainEvent (.order action order refData requestId) :=
    ⟨haction, hrequestId⟩
  obtain ⟨message, hmessage, -⟩ := Protocol.Encoder.message_eq messageConfig.format order refData
    (part account i w).encodeBuffer requestId messageConfig.instType action
  have hpart : DropCopy.ready (part account i w).session.world = true := hready
  have hreact : (PrivateStream.react messageConfig (part account i w)
      (.order action order refData requestId)).2 = [.sendOrder message] := by
    simp only [PrivateStream.react, PrivateStream.onOrder, hpart, if_true, hmessage]
  rw [received?_onStream hconfig hplain hevent, hreact]
  rfl

end Streams

/-! ## An `OrderEntry` -/

section Requests

variable {config : GatewayConfig} {account : String} {accounts : String → Option Credentials}
  {action : OrderAction} {order : Order} {requestId : String}

/-- A body is read as it was written. -/
theorem read_body {format : Protocol.Encoder.Format} {refData : RefData} {category body : String}
    (haction : PlainAction action order) (hrequestId : Plain requestId) (hcategory : Plain category)
    (hbody : body.toList = text (.object (bodyMembers action category
      (orderMembers format order refData requestId action "no")))) :
    read body = some (.object (bodyMembers action category
      (orderMembers format order refData requestId action "no"))) := by
  have hverbatim := Protocol.Encoder.verbatim_orderMembers format refData requestId haction
    hrequestId "no" (by decide)
  refine read_text ?_ hbody
  rw [Json.Verbatim]
  cases action with
  | create createOrder => exact ⟨verbatim_member (by decide) hcategory, hverbatim⟩
  | modify modifyOrder => exact hverbatim
  | cancel => exact hverbatim

/-- The request for an order. -/
theorem request_operation (platform : RestRequests.Platform) (context : RestRequests.Context)
    (action : OrderAction) (order : Order) (refData : RefData) (requestId : String)
    (now : Nanoseconds) :
    ∃ request, (operation action order refData requestId).request platform context now true "" =
        .ok request ∧
      request.path = actionPath context.sharedApi action ∧
      request.body.toList = text (.object (bodyMembers action context.sharedApi.category
        (orderMembers platform.format order refData requestId action "no"))) := by
  obtain ⟨body, hbody, htext⟩ := Protocol.Encoder.body_eq platform.format order refData "" requestId
    context.sharedApi.category action
  cases action with
  | create createOrder =>
    change Protocol.Encoder.placeOrder platform.format "" createOrder refData requestId
      context.sharedApi.category = .ok body at hbody
    have hrequest : RestRequests.placeOrder platform context now true "" createOrder refData
        requestId = .ok (RestRequests.post platform context now context.sharedApi.placeOrder
          (RestRequests.categoryQuery context) body) := by
      unfold RestRequests.placeOrder
      rw [hbody]
      rfl
    exact ⟨_, hrequest, rfl, htext⟩
  | modify modifyOrder =>
    obtain rfl := Except.ok.inj hbody
    exact ⟨_, rfl, rfl, htext⟩
  | cancel =>
    obtain rfl := Except.ok.inj hbody
    exact ⟨_, rfl, rfl, htext⟩

/-- An `OrderEntry` that is not ready makes no request. -/
theorem request_notReady (platform : RestRequests.Platform) (context : RestRequests.Context)
    (refData : RefData) (now : Nanoseconds) :
    (operation action order refData requestId).request platform context now false "" =
      .error .notReady := by
  cases action <;> rfl

/-- **What the exchange gets from an `OrderEntry`.** -/
theorem received?_onOrderEntry (hregistered : Registered accounts (config.accounts account).crypto)
    (haction : PlainAction action order) (hrequestId : Plain requestId) (refData : RefData)
    (now : Nanoseconds) (w : Accounts L D) :
    (onOrderEntry config account action order refData requestId now w).filterMap
        (received? config.platform.mac accounts) =
      if w.orderEntryReady account then
        [.rest (config.accounts account).crypto.key (actionPath (Api.create config.api) action)
          (bodyMembers action (Api.create config.api).category
            (orderMembers config.platform.format order refData requestId action "no"))]
      else [] := by
  unfold onOrderEntry
  split_ifs with hready
  · obtain ⟨request, hrequest, hpath, hbody⟩ := request_operation config.platform
      (config.context account) action order refData requestId now
    have hread := read_body haction hrequestId (plain_category config.api).2 hbody
    have hbelieved : authenticate config.platform.mac accounts request =
        some (config.accounts account).crypto.key :=
      (Authentication.authenticate_made hregistered (RestRequests.made_request hrequest)
        request).mpr rfl
    have hreceive : receiveRequest config.platform.mac accounts request =
        some (.rest (config.accounts account).crypto.key
          (actionPath (Api.create config.api) action)
          (bodyMembers action (Api.create config.api).category
            (orderMembers config.platform.format order refData requestId action "no"))) := by
      unfold receiveRequest
      rw [hbelieved, hread, hpath]
      rfl
    rw [hready, hrequest]
    exact List.filterMap_cons_some hreceive
  · rw [Bool.not_eq_true] at hready
    rw [hready, request_notReady]
    rfl

end Requests

/-! ## Runs -/

section Runs

variable {config : GatewayConfig} {created : Controller.Process} {account : String} {i : ℕ}
  {accounts : String → Option Credentials} {id id' : UInt16} {h : History Event Action}
  {w : Accounts L D} {ok : History Event Action → Accounts L D → Event → Prop}

/-- The choice of the streams goes through a run of its own. -/
theorem run_controller (run : Run (system config created L D) ok h w) :
    Run (Controller.Process.system config.settings created) anyStep (h.flatMap controllerView)
      w.controller := by
  obtain ⟨h', hrun, hown⟩ := (controllerComponent config created L D).run run
  have hview : h' = h.flatMap controllerView := (List.filter_true h').symm.trans hown
  exact hview ▸ hrun

/-- **The stream whose turn it is** exists and is ready. -/
theorem ready_of_turn
    (hcreate : Controller.create config.settings config.names id = .ok created id')
    (run : Run (system config created L D) ok h w) (hrunning : w.controller.aborted = none)
    (hname : account ∈ config.names)
    (hturn : Controller.Process.turn config.settings.numberOfOrderEntryConnections.toNat account
      (h.flatMap controllerView) = some i) :
    HasStream created account i ∧ DropCopy.ready (w.streams account i).session.world = true := by
  have hcontroller := run_controller run
  obtain ⟨rr, hrr⟩ := (Controller.Process.lookup_dropCopy hcreate hcontroller account).mpr hname
  obtain ⟨rr₀, hrr₀⟩ := (Controller.Process.lookup_dropCopy hcreate .init account).mpr hname
  have hrouted := Controller.Process.routed_of_run hcreate hcontroller account rr hrr
  have howned := (Controller.Process.owned_of_create hcreate).1 _
    (Controller.Map.mem_of_lookup hrr₀)
  rw [← hrouted.next_eq] at hturn
  obtain ⟨offset, hoffset, hplace, hready, -⟩ := RoundRobin.next_eq_some_iff.mp hturn
  have hi : i < rr.dropCopy.length := hplace ▸ Nat.mod_lt _ (Nat.zero_lt_of_lt hoffset)
  refine ⟨⟨rr₀, hrr₀, ?_⟩, ?_⟩
  · rw [howned.length, ← hrouted.length]
    exact hi
  · have hstream := List.getElem?_eq_getElem hi
    have hstatus : statusAt w.controller account i = some rr.dropCopy[i].connectionStatus := by
      simp [statusAt, hrr, hstream]
    have hagree := statuses_agree hcreate run hrunning account i _ hstatus
    rw [Controller.DropCopyRR.ready, hstream] at hready
    rw [DropCopy.ready, ← hagree]
    exact hready

/-- An order that goes over a websocket. -/
theorem received?_websocket
    (hcreate : Controller.create config.settings config.names id = .ok created id')
    (hregistered : ∀ account ∈ config.names, Registered accounts (config.accounts account).crypto)
    (run : Run (system config created L D) ok h w) (hrunning : w.controller.aborted = none)
    (hname : account ∈ config.names) (hws : config.settings.wsApi = true) {action : OrderAction}
    {order : Order} {requestId : String} (haction : PlainAction action order)
    (hrequestId : Plain requestId) (refData : RefData) (now : Nanoseconds) :
    (onOrder config created account action order refData requestId now w).2.filterMap
        (received? config.platform.mac accounts) =
      (asked? config h (.order account action order refData requestId now)).toList := by
  have hasked : asked? config h (.order account action order refData requestId now) =
      (Controller.Process.turn config.settings.numberOfOrderEntryConnections.toNat account
        (h.flatMap controllerView)).map fun i =>
          .websocket account i (PrivateStream.topicText (topic action))
            (wsId (topic action) requestId)
            (orderMembers config.platform.format order refData requestId action "NO") := by
    simp [asked?, hname, hws]
  obtain ⟨rr, -, -, hchoice⟩ :=
    Controller.Process.onOrder_websocket hcreate (run_controller run) hname hws
  rw [hasked]
  unfold onOrder
  rw [hchoice]
  cases hturn : Controller.Process.turn config.settings.numberOfOrderEntryConnections.toNat account
      (h.flatMap controllerView) with
  | none => rfl
  | some i =>
    obtain ⟨hexists, hready⟩ := ready_of_turn hcreate run hrunning hname hturn
    obtain ⟨messageConfig, hconfig⟩ := Option.isSome_iff_exists.mp (hasStream_iff.mp hexists)
    have hplain := plain_messageConfig hcreate hregistered hconfig
    obtain ⟨-, stream, -, rfl⟩ := messageConfig_eq hcreate hconfig
    exact received?_order hconfig hplain haction hrequestId hready

/-- An order that goes over REST. -/
theorem received?_rest
    (hcreate : Controller.create config.settings config.names id = .ok created id')
    (hregistered : ∀ account ∈ config.names, Registered accounts (config.accounts account).crypto)
    (run : Run (system config created L D) ok h w) (hname : account ∈ config.names)
    (hrest : config.settings.wsApi = false) {action : OrderAction} {order : Order}
    {requestId : String} (haction : PlainAction action order) (hrequestId : Plain requestId)
    (refData : RefData) (now : Nanoseconds) :
    (onOrder config created account action order refData requestId now w).2.filterMap
        (received? config.platform.mac accounts) =
      (asked? config h (.order account action order refData requestId now)).toList := by
  obtain ⟨stream, -, rfl, hchoice⟩ :=
    Controller.Process.onOrder_rest hcreate (run_controller run) hname hrest
  have hreceived := received?_onOrderEntry (hregistered stream.account hname) haction hrequestId
    refData now w
  have hasked :
      (asked? config h (.order stream.account action order refData requestId now)).toList =
        if w.orderEntryReady stream.account then
        [.rest (config.accounts stream.account).crypto.key
          (actionPath (Api.create config.api) action)
          (bodyMembers action (Api.create config.api).category
            (orderMembers config.platform.format order refData requestId action "no"))]
      else [] := by
    have hstatus := orderEntryStatus_of_run run stream.account
    simp only [asked?, hname, not_true_eq_false, if_false, hrest, Bool.false_eq_true,
      orderEntryReady, hstatus, decide_eq_true_eq]
    split_ifs <;> rfl
  unfold onOrder
  rw [hchoice, hasked, ← hreceived]
  rfl

/-- **What the exchange gets after an event.** -/
theorem received?_react
    (hcreate : Controller.create config.settings config.names id = .ok created id')
    (hregistered : ∀ account ∈ config.names, Registered accounts (config.accounts account).crypto)
    (run : Run (system config created L D) ok h w) {e : Event}
    (henabled : enabled config created w e) (he : PlainEvent e) :
    (react config created w e).2.filterMap (received? config.platform.mac accounts) =
      (asked? config h e).toList := by
  cases e with
  | stream account i event =>
    obtain ⟨-, -, hexists, houtside, -⟩ := henabled
    obtain ⟨messageConfig, hconfig⟩ := Option.isSome_iff_exists.mp hexists
    have hnone : ∀ action order refData requestId,
        event ≠ .order action order refData requestId := by
      rintro action order refData requestId rfl
      exact houtside
    have hplain : PrivateStream.PlainEvent event := by
      cases event with
      | order action order refData requestId => exact absurd rfl (hnone _ _ _ _)
      | _ => trivial
    refine (received?_onStream hconfig (plain_messageConfig hcreate hregistered hconfig)
      hplain).trans ?_
    exact List.filterMap_eq_nil_iff.mpr fun action _ => meant?_bind_trade? hnone action
  | order account action order refData requestId now =>
    show (onOrder config created account action order refData requestId now w).2.filterMap _ = _
    by_cases hname : account ∈ config.names
    · cases hws : config.settings.wsApi with
      | true =>
        exact received?_websocket hcreate hregistered run henabled.2.1 hname hws he.1 he.2 refData
          now
      | false => exact received?_rest hcreate hregistered run hname hws he.1 he.2 refData now
    · have hchoice := Controller.Process.onOrder_of_notMem hcreate (run_controller run) hname
      have hasked : asked? config h (.order account action order refData requestId now) = none := by
        simp [asked?, hname]
      unfold onOrder
      rw [hchoice, hasked]
      rfl

/-- **The exchange gets the orders that were asked for.** Take any run of the whole gateway: orders
of all accounts come in any order, and meanwhile anything happens to the streams of these accounts.
The exchange, which has the texts of the websocket streams and the requests that it believes, gets
every order that can be sent, in order, from the stream whose turn it is or under the key of its
account, with the topic or path, the id and the members that it should have; and it gets no other
order. -/
theorem orders_delivered
    (hcreate : Controller.create config.settings config.names id = .ok created id')
    (hregistered : ∀ account ∈ config.names, Registered accounts (config.accounts account).crypto)
    (run : Run (system config created L D) (fun _ _ e => PlainEvent e) h w) :
    (Runs.actions h).filterMap (received? config.platform.mac accounts) = asked config h := by
  refine run.invariant (P := fun h _ =>
    (Runs.actions h).filterMap (received? config.platform.mac accounts) = asked config h) rfl ?_
  intro h w e run ih henabled he
  rw [actions_cons, List.filterMap_append, ih, asked]
  exact congrArg _ (received?_react hcreate hregistered run henabled he)

end Runs

/-- The first of two orders goes to the second stream; the other one cannot be sent. -/
theorem lostInBetween_delivered :
    (Runs.actions (play simpleSystem lostInBetween).1).filterMap
        (received? Tools.simpleMac Authentication.simpleAccounts) =
      [.websocket "A1" 1 "cancel-order" "C:1001" [member "orderId" "77"]] := by
  have hcreate : Controller.create simpleGateway.settings simpleGateway.names 0 =
      .ok Controller.Process.twoConnections 4 := rfl
  have hregistered : ∀ account ∈ simpleGateway.names,
      Registered Authentication.simpleAccounts (simpleGateway.accounts account).crypto :=
    fun _ _ => Authentication.registered_simpleContext
  have hrun : Run simpleSystem (fun _ _ e => PlainEvent e) (play simpleSystem lostInBetween).1
      (play simpleSystem lostInBetween).2 := Run.play (by decide +kernel)
  exact (orders_delivered hcreate hregistered hrun).trans rfl

end RoqBitget.Gateway.Accounts
