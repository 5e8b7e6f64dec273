import RoqBitget.Foundations.Effects
import RoqBitget.Gateway.Response

set_option relaxedAutoImplicit false
set_option autoImplicit false

/-!
# The REST stream

`OrderEntry` as far as it takes part in a download: on every timer tick it sends the requests
that are pending in the slots, and every answer is committed to a slot. The requests for lost
orders are sent in a batch, one for each order, and counted; the slot is committed when the
count returns to zero.

## Main definitions

* `RoqBitget.Gateway.OrderEntry.onTimer`, `checkRequestQueue` — sending.
* `RoqBitget.Gateway.OrderEntry.onResponse` — the callbacks of the requests.
* `RoqBitget.Gateway.OrderEntry.RespectsQueue` — relations that the requests of a tick keep.

## Main results

* `RoqBitget.Gateway.OrderEntry.sends_onTimer` — what a timer tick can do.
* `RoqBitget.Gateway.OrderEntry.answers_onResponse` — what an answer can do.

## Implementation notes

What the environment decides during a tick is an input: whether the connection refreshes, which
requests it accepts (by id; otherwise it throws `NotConnected`), which slots the rate limiter
admits, the order in which the set of lost orders is iterated, and which orders are found.
-/

namespace RoqBitget.Gateway.OrderEntry

open RoqBitget.Core Effects

/-- The exception of a connection that is not ready. -/
inductive NotConnected
  | notConnected
  deriving DecidableEq

/-- A timer tick of the REST stream. -/
structure Tick where
  /-- `(*connection_).refresh`. -/
  refresh : Bool
  /-- `trace_info.origin_create_time`. -/
  now : Nanoseconds
  /-- Whether the connection accepts the heartbeat. -/
  acceptsHeartbeat : Bool
  /-- Whether the connection accepts the request with a given id. -/
  accepts : ℕ → Bool
  /-- Whether the rate limiter admits a slot. -/
  canRequest : Slot → Bool
  /-- The lost orders in the order of iteration. -/
  order : List OrderKey
  /-- The client order id of an order, if the order is found. -/
  findOrder : OrderKey → Option String

variable {L : LimitRequest}

/-- Functions of the REST stream, which may throw. -/
abbrev M (L : LimitRequest) := EStateM NotConnected (World L)

/-! ## Sending -/

/-- `(*connection_)(request, callback, …)`: accept a request, or throw. -/
def send (tick : Tick) (endpoint : Endpoint) : M L Unit := fun w =>
  if tick.accepts w.nextId then
    .ok () { w with
      inFlight := w.inFlight ++ [⟨w.nextId, endpoint⟩]
      nextId := w.nextId + 1
      actions := w.actions ++ [.send ⟨w.nextId, endpoint⟩] }
  else .error .notConnected w

/-- `OrderEntry::get_account_settings`. -/
def getAccountSettings (tick : Tick) : M L Unit := send tick .accountSettings

/-- `OrderEntry::get_account_assets`. -/
def getAccountAssets (tick : Tick) : M L Unit := send tick .accountAssets

/-- `OrderEntry::get_current_positions`. -/
def getCurrentPositions (tick : Tick) : M L Unit := send tick .currentPositions

/-- `OrderEntry::get_unfilled_orders`. -/
def getUnfilledOrders (tick : Tick) : M L Unit := send tick .unfilledOrders

/-- `OrderEntry::get_order_details`. -/
def getOrderDetails (tick : Tick) (clientOrderId : String) : M L Unit :=
  send tick (.orderDetails clientOrderId)

/-- `OrderEntry::get_trade_fills`. -/
def getTradeFills (tick : Tick) : M L Unit := send tick .tradeFills

/-- `OrderEntry::countdown_cancel_all`. -/
def countdownCancelAll (tick : Tick) : M L Unit := fun w =>
  if tick.acceptsHeartbeat then .ok () (w.act .heartbeat) else .error .notConnected w

/-- `OrderEntry::send_heartbeat`. -/
def sendHeartbeat (config : Config) (tick : Tick) : M L Unit := do
  let w ← get
  if config.cancelOnDisconnect && w.nextHeartbeat < tick.now then
    modify fun w => { w with nextHeartbeat := tick.now + config.pingFreq / 3 }
    countdownCancelAll tick

/-- `check_pending` of a slot: run the callback if a request is pending and admitted. -/
def checkPending (tick : Tick) (slot : Slot) (callback : M L Unit) : M L Unit := fun w =>
  if L.pending (w.slots slot) && tick.canRequest slot then
    match callback w with
    | .ok _ w => .ok () (w.updateSlot slot L.sent)
    | .error e w => .error e (w.updateSlot slot L.interrupted)
  else .ok () w

/-- `shared_.dispatcher.find_order`: call the helper with the order, if there is one. -/
def findOrder (tick : Tick) (key : OrderKey) (helper : String → M L Unit) : M L Bool :=
  match tick.findOrder key with
  | some clientOrderId => do
    helper clientOrderId
    return true
  | none => return false

/-- One round of the loop over the lost orders. -/
def sendLostOrder (tick : Tick) (key : OrderKey) : M L Unit := do
  if ← findOrder tick key (getOrderDetails tick) then
    modify fun w => { w with downloadLostOrdersCounter := w.downloadLostOrdersCounter + 1 }

/-- The callback of `request_.lost_orders.check_pending`. -/
def sendLostOrders (tick : Tick) : M L Unit := do
  tick.order.forM (sendLostOrder tick)
  modify fun w => { w with detailsLostOrders := ∅ }

/-- `OrderEntry::check_request_queue`. -/
def checkRequestQueue (tick : Tick) : M L Unit := do
  checkPending tick .account (getAccountSettings tick)
  checkPending tick .balances (getAccountAssets tick)
  checkPending tick .positions (getCurrentPositions tick)
  checkPending tick .openOrders (getUnfilledOrders tick)
  checkPending tick .lostOrders (sendLostOrders tick)
  checkPending tick .trades (getTradeFills tick)

/-- `OrderEntry::operator()(Trace<Timer> const &)`; a `NotConnected` is swallowed. -/
def onTimer (config : Config) (tick : Tick) (w : World L) : World L :=
  if tick.refresh && w.orderEntryStatus = .ready then
    finalState ((do sendHeartbeat config tick; checkRequestQueue tick : M L Unit) w)
  else w

/-- `OrderEntry::operator()(Trace<ConnectionStatus> const &, …)`. -/
def onConnectionStatus (status : ConnectionStatus) (w : World L) : World L :=
  { w.act (.publishOrderEntry status) with orderEntryStatus := status }

/-- `OrderEntry::operator()(Trace<web::rest::Connected> const &)`. -/
def onConnected (w : World L) : World L := onConnectionStatus .ready w

/-- `OrderEntry::operator()(Trace<web::rest::Disconnected> const &)`. -/
def onDisconnected (w : World L) : World L :=
  { onConnectionStatus .disconnected w with nextHeartbeat := 0 }

/-! ## Answers -/

/-- Commit an answer to a slot. -/
def commit (slot : Slot) (w : World L) : World L :=
  (w.updateSlot slot L.commit).act (.commit slot)

/-- What the handlers of an answer do, before what follows them. -/
def finish (endpoint : Endpoint) (outcome : Outcome) (next : World L → World L) (w : World L) :
    World L :=
  match outcome with
  | .dispatched => next (w.act (.dispatch endpoint))
  | .failed failure => next (w.act (.failure failure))
  | .ignored => next w
  | .fatal fatal => w.abort fatal

/-- The callbacks of all requests but order details: process the answer and commit it, however
it was processed. -/
def acknowledge (config : Config) (endpoint : Endpoint) (response : Response) (w : World L) :
    World L :=
  finish endpoint (processResponse config response (handleSuccess config endpoint))
    (commit endpoint.slot) w

/-- `OrderEntry::get_account_settings_ack`. -/
def getAccountSettingsAck (config : Config) (response : Response) : World L → World L :=
  acknowledge config .accountSettings response

/-- `OrderEntry::get_account_assets_ack`. -/
def getAccountAssetsAck (config : Config) (response : Response) : World L → World L :=
  acknowledge config .accountAssets response

/-- `OrderEntry::get_current_positions_ack`. -/
def getCurrentPositionsAck (config : Config) (response : Response) : World L → World L :=
  acknowledge config .currentPositions response

/-- `OrderEntry::get_unfilled_orders_ack`. -/
def getUnfilledOrdersAck (config : Config) (response : Response) : World L → World L :=
  acknowledge config .unfilledOrders response

/-- `OrderEntry::get_trade_fills_ack`. -/
def getTradeFillsAck (config : Config) (response : Response) : World L → World L :=
  acknowledge config .tradeFills response

/-- The end of `OrderEntry::get_order_details_ack`: count the answer, and commit after the
last one. -/
def countOrderDetails (w : World L) : World L :=
  if w.downloadLostOrdersCounter = 0 then w.abort .lostOrdersCounter
  else
    let w := { w with downloadLostOrdersCounter := w.downloadLostOrdersCounter - 1 }
    if w.downloadLostOrdersCounter = 0 then commit .lostOrders w else w

/-- The outcome of an answer on order details. The success handler of a `400` runs outside of
the `try` block, so its exceptions leave `get_order_details_ack`. -/
def orderDetailsOutcome (config : Config) (clientOrderId : String) (response : Response) :
    Except Exception Outcome :=
  if response.status = 400 then handleOrderDetails config clientOrderId response.body
  else .ok (processResponse config response (handleOrderDetails config clientOrderId))

/-- `OrderEntry::get_order_details_ack`. -/
def getOrderDetailsAck (config : Config) (clientOrderId : String) (response : Response)
    (w : World L) : World L :=
  match orderDetailsOutcome config clientOrderId response with
  | .ok outcome => finish (.orderDetails clientOrderId) outcome countOrderDetails w
  | .error _ => w

/-- The callback of a request that was accepted. -/
def onResponse (config : Config) (sent : Sent) (response : Response) (w : World L) : World L :=
  let w := { w with inFlight := w.inFlight.erase sent }
  match sent.endpoint with
  | .accountSettings => getAccountSettingsAck config response w
  | .accountAssets => getAccountAssetsAck config response w
  | .currentPositions => getCurrentPositionsAck config response w
  | .unfilledOrders => getUnfilledOrdersAck config response w
  | .orderDetails clientOrderId => getOrderDetailsAck config clientOrderId response w
  | .tradeFills => getTradeFillsAck config response w

/-! ## What an answer can do -/

/-- Counting an answer ends the process if none is due, and commits after the last one. -/
theorem countOrderDetails_cases (w : World L) :
    w.downloadLostOrdersCounter = 0 ∧ countOrderDetails w = w.abort .lostOrdersCounter ∨
    w.downloadLostOrdersCounter = 1 ∧
      countOrderDetails w = commit .lostOrders { w with downloadLostOrdersCounter := 0 } ∨
    1 < w.downloadLostOrdersCounter ∧ countOrderDetails w =
      { w with downloadLostOrdersCounter := w.downloadLostOrdersCounter - 1 } := by
  unfold countOrderDetails
  dsimp only
  split_ifs with hzero hlast
  · exact .inl ⟨hzero, rfl⟩
  · exact .inr (.inl ⟨by omega, by rw [hlast]⟩)
  · exact .inr (.inr ⟨by omega, rfl⟩)

/-- The callback of an answer is that of order details, or one of the others. -/
theorem onResponse_cases (config : Config) (sent : Sent) (response : Response) (w : World L) :
    (∃ clientOrderId, sent.endpoint = .orderDetails clientOrderId ∧
      onResponse config sent response w = getOrderDetailsAck config clientOrderId response
        { w with inFlight := w.inFlight.erase sent }) ∨
    sent.endpoint.slot ≠ .lostOrders ∧
      onResponse config sent response w = acknowledge config sent.endpoint response
        { w with inFlight := w.inFlight.erase sent } := by
  obtain ⟨id, endpoint⟩ := sent
  cases endpoint with
  | orderDetails clientOrderId => exact .inl ⟨clientOrderId, rfl, rfl⟩
  | _ => exact .inr ⟨by simp [Endpoint.slot], rfl⟩

/-! ## What a tick can do -/

/-- Whether a request asks for order details. -/
def isOrderDetails (sent : Sent) : Bool :=
  match sent.endpoint with
  | .orderDetails _ => true
  | _ => false

/-- The number of requests for order details in flight. -/
def orderDetailsInFlight (w : World L) : ℕ := w.inFlight.countP isOrderDetails

/-- A reflexive and transitive relation between worlds that holds across everything the requests
of a tick consist of. -/
structure RespectsQueue (R : World L → World L → Prop) : Prop where
  refl : ∀ w, R w w
  trans : ∀ u v w, R u v → R v w → R u w
  send : ∀ tick endpoint, isOrderDetails ⟨0, endpoint⟩ = false →
    Ensures R (send tick endpoint : M L Unit)
  sendLostOrder : ∀ tick key, Ensures R (sendLostOrder tick key : M L Unit)
  clear : ∀ w, R w { w with detailsLostOrders := ∅ }
  sent : ∀ slot w, R w (w.updateSlot slot L.sent)
  interrupted : ∀ slot w, R w (w.updateSlot slot L.interrupted)

namespace RespectsQueue

variable {R : World L → World L → Prop}

/-- The batch of requests for the lost orders. -/
theorem sendLostOrders (h : RespectsQueue R) (tick : Tick) :
    Ensures R (sendLostOrders tick : M L Unit) :=
  (Ensures.forM h.refl h.trans (h.sendLostOrder tick) tick.order).bind h.trans
    fun _ => Ensures.modify h.clear

/-- Looking at a slot does what the callback does. -/
theorem checkPending (h : RespectsQueue R) (tick : Tick) (slot : Slot) {callback : M L Unit}
    (hcallback : Ensures R callback) : Ensures R (checkPending tick slot callback) := by
  intro w
  have hw := hcallback w
  unfold OrderEntry.checkPending
  split_ifs
  · cases hresult : callback w with
    | ok _ v =>
      rw [hresult] at hw
      exact h.trans _ _ _ hw (h.sent slot v)
    | error _ v =>
      rw [hresult] at hw
      exact h.trans _ _ _ hw (h.interrupted slot v)
  · exact h.refl w

/-- **The requests of a tick**, whatever the connection accepts, and wherever it throws. -/
theorem checkRequestQueue (h : RespectsQueue R) (tick : Tick) :
    Ensures R (checkRequestQueue tick : M L Unit) :=
  (h.checkPending tick .account (h.send tick _ rfl)).bind h.trans fun _ =>
  (h.checkPending tick .balances (h.send tick _ rfl)).bind h.trans fun _ =>
  (h.checkPending tick .positions (h.send tick _ rfl)).bind h.trans fun _ =>
  (h.checkPending tick .openOrders (h.send tick _ rfl)).bind h.trans fun _ =>
  (h.checkPending tick .lostOrders (h.sendLostOrders tick)).bind h.trans fun _ =>
  h.checkPending tick .trades (h.send tick _ rfl)

end RespectsQueue

/-- What sending can do: it publishes nothing of `DropCopy`, answers no slot, at most clears the
lost orders, and counts the requests for order details. -/
structure Sends (w w' : World L) : Prop where
  connectionStatus : w'.connectionStatus = w.connectionStatus
  nextCheckStaleOrders : w'.nextCheckStaleOrders = w.nextCheckStaleOrders
  hasResponse : ∀ k, w'.hasResponse k = w.hasResponse k
  detailsLostOrders : w'.detailsLostOrders ⊆ w.detailsLostOrders
  aborted : w'.aborted = w.aborted
  counted : w'.downloadLostOrdersCounter + orderDetailsInFlight w =
    w.downloadLostOrdersCounter + orderDetailsInFlight w'
  actions : Appends (fun a => a = .heartbeat ∨ ∃ sent, a = .send sent) w.actions w'.actions

namespace Sends

/-- Sending nothing. -/
theorem refl (w : World L) : Sends w w :=
  ⟨rfl, rfl, fun _ => rfl, Finset.Subset.refl _, rfl, rfl, .refl _ _⟩

/-- Sending twice. -/
theorem trans (u v w : World L) (h : Sends u v) (h' : Sends v w) : Sends u w := by
  have hcounted := h.counted
  have hcounted' := h'.counted
  exact
    { connectionStatus := h'.connectionStatus.trans h.connectionStatus
      nextCheckStaleOrders := h'.nextCheckStaleOrders.trans h.nextCheckStaleOrders
      hasResponse := fun k => (h'.hasResponse k).trans (h.hasResponse k)
      detailsLostOrders := h'.detailsLostOrders.trans h.detailsLostOrders
      aborted := h'.aborted.trans h.aborted
      counted := by omega
      actions := h.actions.trans h'.actions }

end Sends

/-- A request that is not for order details. -/
theorem sends_send (tick : Tick) {endpoint : Endpoint}
    (h : isOrderDetails ⟨0, endpoint⟩ = false) : Ensures Sends (send tick endpoint : M L Unit) := by
  intro w
  have hendpoint : isOrderDetails ⟨w.nextId, endpoint⟩ = false := h
  unfold send
  split_ifs
  · exact
      { Sends.refl w with
        counted := by simp [finalState, orderDetailsInFlight, hendpoint]
        actions := .concat (.inr ⟨_, rfl⟩) w.actions }
  · exact Sends.refl w

/-- A round of the loop over the lost orders counts the request it sends. If the connection
throws, nothing was sent and nothing is counted. -/
theorem sends_sendLostOrder (tick : Tick) (key : OrderKey) :
    Ensures Sends (sendLostOrder tick key : M L Unit) := by
  intro w
  unfold sendLostOrder findOrder
  cases tick.findOrder key with
  | none => exact Sends.refl w
  | some clientOrderId =>
    by_cases haccepts : tick.accepts w.nextId = true
    · have hsend : getOrderDetails tick clientOrderId w = .ok () { w with
          inFlight := w.inFlight ++ [⟨w.nextId, .orderDetails clientOrderId⟩]
          nextId := w.nextId + 1
          actions := w.actions ++ [.send ⟨w.nextId, .orderDetails clientOrderId⟩] } :=
        if_pos haccepts
      simp only [bind, EStateM.bind, hsend]
      exact
        { Sends.refl w with
          counted := by
            have hone : List.countP isOrderDetails
                (w.inFlight ++ [⟨w.nextId, .orderDetails clientOrderId⟩]) =
                  orderDetailsInFlight w + 1 := by
              simp [orderDetailsInFlight, isOrderDetails]
            show w.downloadLostOrdersCounter + 1 + orderDetailsInFlight w =
              w.downloadLostOrdersCounter + List.countP isOrderDetails
                (w.inFlight ++ [⟨w.nextId, .orderDetails clientOrderId⟩])
            omega
          actions := .concat (.inr ⟨_, rfl⟩) w.actions }
    · have hsend : getOrderDetails tick clientOrderId w = .error .notConnected w :=
        if_neg haccepts
      simp only [bind, EStateM.bind, hsend]
      exact Sends.refl w

/-- What becomes of a slot after it was looked at answers nothing. -/
theorem sends_updateSlot {f : L.Object → L.Object}
    (h : ∀ r, L.hasResponse (f r) = L.hasResponse r) (slot : Slot) (w : World L) :
    Sends w (w.updateSlot slot f) :=
  { Sends.refl w with hasResponse := fun k => World.hasResponse_updateSlot h slot k w }

/-- The requests of a tick only send. -/
theorem respectsQueue_sends : RespectsQueue (Sends (L := L)) where
  refl := Sends.refl
  trans := Sends.trans
  send tick _ h := sends_send tick h
  sendLostOrder := sends_sendLostOrder
  clear w := { Sends.refl w with detailsLostOrders := Finset.empty_subset _ }
  sent := sends_updateSlot L.hasResponse_sent
  interrupted := sends_updateSlot L.hasResponse_interrupted

/-- The heartbeat sends no request. -/
theorem sends_sendHeartbeat (config : Config) (tick : Tick) :
    Ensures Sends (sendHeartbeat config tick : M L Unit) := by
  have hsend : Ensures Sends (countdownCancelAll tick : M L Unit) := by
    intro w
    unfold countdownCancelAll
    split_ifs
    · exact { Sends.refl w with actions := .concat (.inl rfl) w.actions }
    · exact Sends.refl w
  refine (Ensures.get Sends.refl).bind Sends.trans fun w => ?_
  split_ifs
  · exact (Ensures.modify fun w => { Sends.refl w with }).bind Sends.trans fun _ => hsend
  · exact Ensures.pure Sends.refl _

/-- **A tick only sends.** Whatever the connection accepts, and wherever it throws. -/
theorem sends_onTimer (config : Config) (tick : Tick) (w : World L) :
    Sends w (onTimer config tick w) := by
  unfold onTimer
  split_ifs
  · exact ((sends_sendHeartbeat config tick).bind Sends.trans
      fun _ => respectsQueue_sends.checkRequestQueue tick) w
  · exact Sends.refl w

/-! ## What an answer can do -/

/-- What an answer for `slot` can do: it publishes nothing of `DropCopy`, and leaves the lost
orders and the other slots alone. -/
structure Answers (slot : Slot) (w w' : World L) : Prop where
  connectionStatus : w'.connectionStatus = w.connectionStatus
  nextCheckStaleOrders : w'.nextCheckStaleOrders = w.nextCheckStaleOrders
  detailsLostOrders : w'.detailsLostOrders = w.detailsLostOrders
  hasResponse : ∀ k, k ≠ slot → w'.hasResponse k = w.hasResponse k
  aborted : w'.aborted = w.aborted ∨ w'.aborted = some .redirection ∨
    w'.aborted = some .clientOidMismatch ∨ w'.aborted = some .lostOrdersCounter
  actions : Appends (fun a => (∃ e, a = .dispatch e) ∨ (∃ f, a = .failure f) ∨ a = .commit slot)
    w.actions w'.actions

namespace Answers

/-- An answer that does nothing. -/
theorem refl (slot : Slot) (w : World L) : Answers slot w w :=
  ⟨rfl, rfl, rfl, fun _ _ => rfl, .inl rfl, .refl _ _⟩

/-- An answer in two parts. -/
theorem trans {slot : Slot} {u v w : World L} (h : Answers slot u v) (h' : Answers slot v w) :
    Answers slot u w := by
  refine
    { connectionStatus := h'.connectionStatus.trans h.connectionStatus
      nextCheckStaleOrders := h'.nextCheckStaleOrders.trans h.nextCheckStaleOrders
      detailsLostOrders := h'.detailsLostOrders.trans h.detailsLostOrders
      hasResponse := fun k hk => (h'.hasResponse k hk).trans (h.hasResponse k hk)
      aborted := ?_
      actions := h.actions.trans h'.actions }
  rcases h'.aborted with heq | hfatal
  · rw [heq]
    exact h.aborted
  · exact .inr hfatal

end Answers

/-- Committing an answer. -/
theorem answers_commit (slot : Slot) (w : World L) : Answers slot w (commit slot w) :=
  { Answers.refl slot w with
    hasResponse := fun _ hk => World.hasResponse_updateSlot_of_ne hk L.commit w
    actions := .concat (.inr (.inr rfl)) w.actions }

/-- The handlers of an answer do nothing beyond what follows them. -/
theorem answers_finish {slot : Slot} {next : World L → World L}
    (h : ∀ w, Answers slot w (next w)) (endpoint : Endpoint) {outcome : Outcome}
    (hfatal : ∀ f, outcome = .fatal f → f = .redirection ∨ f = .clientOidMismatch)
    (w : World L) : Answers slot w (finish endpoint outcome next w) := by
  cases outcome with
  | dispatched =>
    have hact : Answers slot w (w.act (.dispatch endpoint)) :=
      { Answers.refl slot w with actions := .concat (.inl ⟨_, rfl⟩) w.actions }
    exact hact.trans (h _)
  | failed failure =>
    have hact : Answers slot w (w.act (.failure failure)) :=
      { Answers.refl slot w with actions := .concat (.inr (.inl ⟨_, rfl⟩)) w.actions }
    exact hact.trans (h _)
  | ignored => exact h w
  | fatal fatal =>
    refine { Answers.refl slot w with aborted := .inr ?_ }
    rcases hfatal fatal rfl with rfl | rfl
    · exact .inl rfl
    · exact .inr (.inl rfl)

/-- Counting an answer on order details. -/
theorem answers_countOrderDetails (w : World L) :
    Answers .lostOrders w (countOrderDetails w) := by
  rcases countOrderDetails_cases w with ⟨-, heq⟩ | ⟨-, heq⟩ | ⟨-, heq⟩ <;> rw [heq]
  · exact { Answers.refl .lostOrders w with aborted := .inr (.inr (.inr rfl)) }
  · exact { answers_commit .lostOrders { w with downloadLostOrdersCounter := 0 } with }
  · exact { Answers.refl .lostOrders w with }

/-- The callbacks of all requests but order details. -/
theorem answers_acknowledge (config : Config) (endpoint : Endpoint) (response : Response)
    (w : World L) : Answers endpoint.slot w (acknowledge config endpoint response w) := by
  refine answers_finish (answers_commit endpoint.slot) endpoint (fun f hf => ?_) w
  rcases processResponse_fatal hf with h | ⟨body, h⟩
  · exact .inl h
  · exact absurd h (handleSuccess_ne_fatal config endpoint body f)

/-- The fatal answers on order details. -/
theorem orderDetailsOutcome_fatal {config : Config} {clientOrderId : String}
    {response : Response} {f : Fatal}
    (h : orderDetailsOutcome config clientOrderId response = .ok (.fatal f)) :
    f = .redirection ∨ f = .clientOidMismatch := by
  unfold orderDetailsOutcome at h
  split_ifs at h
  · exact .inr (handleOrderDetails_fatal h)
  · rcases processResponse_fatal (Except.ok.inj h) with hf | ⟨body, hf⟩
    · exact .inl hf
    · exact .inr (handleOrderDetails_fatal hf)

/-- The callback of order details. -/
theorem answers_getOrderDetailsAck (config : Config) (clientOrderId : String)
    (response : Response) (w : World L) :
    Answers .lostOrders w (getOrderDetailsAck config clientOrderId response w) := by
  unfold getOrderDetailsAck
  cases houtcome : orderDetailsOutcome config clientOrderId response with
  | ok outcome =>
    refine answers_finish answers_countOrderDetails _ (fun f hf => ?_) w
    rw [hf] at houtcome
    exact orderDetailsOutcome_fatal houtcome
  | error e => exact Answers.refl .lostOrders w

/-- **An answer concerns one slot.** -/
theorem answers_onResponse (config : Config) (sent : Sent) (response : Response) (w : World L) :
    Answers sent.endpoint.slot w (onResponse config sent response w) := by
  have hend : ∀ v : World L,
      Answers sent.endpoint.slot { w with inFlight := w.inFlight.erase sent } v →
        Answers sent.endpoint.slot w v := fun v h => { h with }
  apply hend
  rcases onResponse_cases config sent response w with ⟨clientOrderId, hendpoint, heq⟩ | ⟨-, heq⟩
  · rw [heq, hendpoint]
    exact answers_getOrderDetailsAck config clientOrderId response _
  · rw [heq]
    exact answers_acknowledge config sent.endpoint response _

end RoqBitget.Gateway.OrderEntry
