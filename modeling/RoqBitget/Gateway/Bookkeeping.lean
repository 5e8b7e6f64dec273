import RoqBitget.Gateway.LostOrders

set_option relaxedAutoImplicit false
set_option autoImplicit false

/-!
# The bookkeeping of an answer

What the callbacks of the REST stream's own requests leave behind. Whatever the answer is, the
callback should return, and commit the slot of its request once; the callback of order details
should count the answer and commit after the last one, and that of the heartbeat should do
nothing at all.

## Main definitions

* `RoqBitget.Gateway.OrderEntry.callback` — the callbacks, which an exception may leave.
* `RoqBitget.Gateway.OrderEntry.Finishes` — the callback returns and its bookkeeping is done.
* `RoqBitget.Gateway.OrderEntry.Guarded` — the answers that the callback is prepared for.

## Main results

* `RoqBitget.Gateway.OrderEntry.onResponse_eq` — an answer does what its callback does, unless an
  exception leaves it.
* `RoqBitget.Gateway.OrderEntry.bookkeeping_finished_iff` — the bookkeeping of an answer is
  finished if and only if the callback is prepared for it.
-/

namespace RoqBitget.Gateway.OrderEntry

open RoqBitget.Core Runs DropCopy

variable {L : LimitRequest} {D : Download2 State (World L)}

/-- The requests that the REST stream sends on its own. -/
inductive OwnRequest
  | download (endpoint : Endpoint)
  | heartbeat
  deriving DecidableEq

/-- `OrderEntry::countdown_cancel_all_ack`; it only logs a status that is not `200`. -/
def countdownCancelAllAck (response : Response) : Except Exception Unit := do
  let _ ← response.result
  return ()

/-- The callback of a request, which an exception may leave. -/
def callback (config : Config) (request : OwnRequest) (response : Response) (w : World L) :
    Except Exception (World L) :=
  match request with
  | .download (.orderDetails clientOrderId) => do
    let outcome ← orderDetailsOutcome config clientOrderId response
    return finish (.orderDetails clientOrderId) outcome countOrderDetails w
  | .download endpoint => .ok (acknowledge config endpoint response w)
  | .heartbeat => do
    countdownCancelAllAck response
    return w

/-- The world after a callback; if an exception leaves it, it has not changed anything. -/
def afterCallback (w : World L) : Except Exception (World L) → World L
  | .ok w' => w'
  | .error _ => w

/-- An answer on order details does what its callback does. -/
theorem getOrderDetailsAck_eq (config : Config) (clientOrderId : String) (response : Response)
    (w : World L) : getOrderDetailsAck config clientOrderId response w =
      afterCallback w (callback config (.download (.orderDetails clientOrderId)) response w) := by
  rw [getOrderDetailsAck, callback]
  cases orderDetailsOutcome config clientOrderId response <;> rfl

/-- **An answer does what its callback does.** -/
theorem onResponse_eq (config : Config) (sent : Sent) (response : Response) (w : World L) :
    onResponse config sent response w =
      afterCallback { w with inFlight := w.inFlight.erase sent }
        (callback config (.download sent.endpoint) response
          { w with inFlight := w.inFlight.erase sent }) := by
  obtain ⟨id, endpoint⟩ := sent
  cases endpoint with
  | orderDetails clientOrderId => exact getOrderDetailsAck_eq config clientOrderId response _
  | _ => rfl

/-! ## What a callback should do -/

/-- The slots that were committed during the current reaction, in order. -/
def committed (w : World L) : List Slot :=
  w.actions.filterMap fun
    | .commit slot => some slot
    | _ => none

/-- The slots of a list were committed, each once, the count is as given, and the process goes
on. -/
structure Commits (slots : List Slot) (counter : ℕ) (w w' : World L) : Prop where
  committed : committed w' = committed w ++ slots
  slots : ∀ k, w'.slots k = if k ∈ slots then L.commit (w.slots k) else w.slots k
  counter : w'.downloadLostOrdersCounter = counter
  aborted : w'.aborted = w.aborted

/-- The bookkeeping of a request: its slot is committed, after the last answer if it is for order
details, and the heartbeat does nothing. -/
def Finished (request : OwnRequest) (w w' : World L) : Prop :=
  match request with
  | .download (.orderDetails _) =>
    Commits (if w.downloadLostOrdersCounter = 1 then [.lostOrders] else [])
      (w.downloadLostOrdersCounter - 1) w w'
  | .download endpoint => Commits [endpoint.slot] w.downloadLostOrdersCounter w w'
  | .heartbeat => w' = w

/-- The callback returns, and its bookkeeping is done. -/
def Finishes (config : Config) (request : OwnRequest) (response : Response) (w : World L) :
    Prop :=
  ∃ w', callback config request response w = .ok w' ∧ Finished request w w'

/-- An answer on order details that is about another order than the one that was asked for. -/
def AboutAnother (config : Config) (clientOrderId : String) (response : Response) : Prop :=
  (response.status = 400 ∨ response.error = none ∧ response.category = .success) ∧
    ∃ ack, config.decode (.orderDetails clientOrderId) response.body = .ok ack ∧
      (ack.code = 0 ∨ ack.code = 25204) ∧ ack.clientOid ≠ "" ∧ ack.clientOid ≠ clientOrderId

/-- The answers that a callback is prepared for: an answer to the heartbeat has to be there, the
body of an answer on order details with status `400` has to be decoded, and order details have
to be about the order that was asked for. -/
def Guarded (config : Config) (request : OwnRequest) (response : Response) : Prop :=
  match request with
  | .download (.orderDetails clientOrderId) =>
    (response.status = 400 →
      ∃ ack, config.decode (.orderDetails clientOrderId) response.body = .ok ack) ∧
      ¬ AboutAnother config clientOrderId response
  | .download _ => True
  | .heartbeat => response.error = none

/-! ## Committing -/

/-- Committing a slot commits it once. -/
theorem commits_commit (slot : Slot) (w : World L) :
    Commits [slot] w.downloadLostOrdersCounter w (commit slot w) where
  committed := by simp [OrderEntry.committed, commit, World.act, World.updateSlot]
  slots k := by simp [commit, World.act, World.updateSlot]
  counter := rfl
  aborted := rfl

/-- An action that commits nothing does not count. -/
theorem Commits.act {slots : List Slot} {counter : ℕ} {action : Action} {w w' : World L}
    (haction : ∀ slot, action ≠ .commit slot) (h : Commits slots counter (w.act action) w') :
    Commits slots counter w w' where
  committed := by
    have hnone : OrderEntry.committed (w.act action) = OrderEntry.committed w := by
      cases action with
      | commit slot => exact absurd rfl (haction slot)
      | _ => simp [OrderEntry.committed, World.act]
    rw [h.committed, hnone]
  slots := h.slots
  counter := h.counter
  aborted := h.aborted

/-- Counting an answer does the bookkeeping of order details, if an answer is due. -/
theorem commits_countOrderDetails {w : World L} (hdue : 0 < w.downloadLostOrdersCounter) :
    Commits (if w.downloadLostOrdersCounter = 1 then [.lostOrders] else [])
      (w.downloadLostOrdersCounter - 1) w (countOrderDetails w) := by
  rcases countOrderDetails_cases w with ⟨hzero, -⟩ | ⟨hlast, heq⟩ | ⟨hmore, heq⟩
  · omega
  · rw [heq, if_pos hlast, hlast]
    exact { commits_commit .lostOrders { w with downloadLostOrdersCounter := 0 } with }
  · rw [heq, if_neg (by omega)]
    exact ⟨by simp [OrderEntry.committed], by simp, rfl, rfl⟩

/-- The handlers of an answer do nothing to the bookkeeping that follows them, unless they end
the process. -/
theorem commits_finish {slots : List Slot} {endpoint : Endpoint} {outcome : Outcome}
    {next : World L → World L} {w : World L} {counter : ℕ}
    (houtcome : ∀ f, outcome ≠ .fatal f)
    (hnext : ∀ v : World L, v.downloadLostOrdersCounter = w.downloadLostOrdersCounter →
      Commits slots counter v (next v)) :
    Commits slots counter w (finish endpoint outcome next w) := by
  cases outcome with
  | dispatched => exact (hnext (w.act _) rfl).act (by simp)
  | failed failure => exact (hnext (w.act _) rfl).act (by simp)
  | ignored => exact hnext w rfl
  | fatal fatal => exact absurd rfl (houtcome fatal)

/-! ## The callbacks -/

section Callbacks

variable {config : Config} {response : Response}

/-- The callbacks of all requests but order details finish. -/
theorem finishes_acknowledge {endpoint : Endpoint} (hredirected : ¬ Redirected response)
    (w : World L) :
    Commits [endpoint.slot] w.downloadLostOrdersCounter w
      (acknowledge config endpoint response w) := by
  refine commits_finish (fun f hfatal => ?_) fun v hv => hv ▸ commits_commit endpoint.slot v
  rcases fatal_of_processResponse hfatal with ⟨h, -⟩ | ⟨-, -, h⟩
  · exact hredirected h
  · exact handleSuccess_ne_fatal config endpoint response.body f h

/-- The success handler of order details throws if and only if the body is not decoded. -/
theorem handleOrderDetails_eq_error {clientOrderId body : String} {e : Exception} :
    handleOrderDetails config clientOrderId body = .error e ↔
      config.decode (.orderDetails clientOrderId) body = .error e := by
  unfold handleOrderDetails
  cases config.decode (.orderDetails clientOrderId) body with
  | error e' => simp [bind, Except.bind]
  | ok ack =>
    simp only [bind, Except.bind, pure, Except.pure]
    split_ifs <;> simp

/-- The success handler of order details ends the process if and only if they are about another
order. -/
theorem handleOrderDetails_eq_fatal {clientOrderId body : String} :
    (∃ f, handleOrderDetails config clientOrderId body = .ok (.fatal f)) ↔
      ∃ ack, config.decode (.orderDetails clientOrderId) body = .ok ack ∧
        (ack.code = 0 ∨ ack.code = 25204) ∧ ack.clientOid ≠ "" ∧
          ack.clientOid ≠ clientOrderId := by
  unfold handleOrderDetails onOrderDetailsAck
  cases config.decode (.orderDetails clientOrderId) body with
  | error e => simp [bind, Except.bind]
  | ok ack =>
    by_cases hcode : ack.code = 0 ∨ ack.code = 25204 <;>
      by_cases hother : ack.clientOid ≠ "" ∧ ack.clientOid ≠ clientOrderId <;>
      simp [bind, Except.bind, pure, Except.pure, hcode, hother]

/-- An answer on order details ends the process if and only if it is about another order. -/
theorem orderDetailsOutcome_eq_fatal {clientOrderId : String}
    (hredirected : ¬ Redirected response) :
    (∃ f, orderDetailsOutcome config clientOrderId response = .ok (.fatal f)) ↔
      AboutAnother config clientOrderId response := by
  unfold orderDetailsOutcome AboutAnother
  split_ifs with hstatus
  · rw [handleOrderDetails_eq_fatal]
    simp [hstatus]
  · rw [← handleOrderDetails_eq_fatal]
    constructor
    · rintro ⟨f, hf⟩
      rcases fatal_of_processResponse (Except.ok.inj hf) with ⟨h, -⟩ | ⟨herror, hcategory, h⟩
      · exact absurd h hredirected
      · exact ⟨.inr ⟨herror, hcategory⟩, f, h⟩
    · rintro ⟨hbody, f, hf⟩
      obtain ⟨herror, hcategory⟩ := hbody.resolve_left hstatus
      exact ⟨f, congrArg Except.ok (processResponse_of_tried (.success herror hcategory hf))⟩

/-- An exception leaves the callback of order details if and only if the body of an answer with
status `400` is not decoded. -/
theorem orderDetailsOutcome_eq_error {clientOrderId : String} {e : Exception} :
    orderDetailsOutcome config clientOrderId response = .error e ↔
      response.status = 400 ∧
        config.decode (.orderDetails clientOrderId) response.body = .error e := by
  unfold orderDetailsOutcome
  split_ifs with hstatus
  · rw [handleOrderDetails_eq_error]
    simp [hstatus]
  · simp [hstatus]

/-- The callback of order details finishes if and only if it is prepared for the answer. -/
theorem finishes_orderDetails_iff {clientOrderId : String} (hredirected : ¬ Redirected response)
    {w : World L} (hdue : 0 < w.downloadLostOrdersCounter) (haborted : w.aborted = none) :
    Finishes config (.download (.orderDetails clientOrderId)) response w ↔
      Guarded config (.download (.orderDetails clientOrderId)) response := by
  have hfatal : (∃ f, orderDetailsOutcome config clientOrderId response = .ok (.fatal f)) ↔
      AboutAnother config clientOrderId response := orderDetailsOutcome_eq_fatal hredirected
  rw [Finishes, Guarded, ← hfatal, callback]
  cases houtcome : orderDetailsOutcome config clientOrderId response with
  | error e =>
    obtain ⟨hstatus, hdecode⟩ := orderDetailsOutcome_eq_error.mp houtcome
    refine iff_of_false ?_ ?_
    · rintro ⟨w', hw', -⟩
      simp [bind, Except.bind] at hw'
    · rintro ⟨hdecoded, -⟩
      obtain ⟨ack, hack⟩ := hdecoded hstatus
      simp [hdecode] at hack
  | ok outcome =>
    have hdecoded : response.status = 400 →
        ∃ ack, config.decode (.orderDetails clientOrderId) response.body = .ok ack := by
      intro hstatus
      cases hdecode : config.decode (.orderDetails clientOrderId) response.body with
      | ok ack => exact ⟨ack, rfl⟩
      | error e =>
        have hthrown := orderDetailsOutcome_eq_error.mpr ⟨hstatus, hdecode⟩
        simp [houtcome] at hthrown
    by_cases hends : ∃ f, outcome = .fatal f
    · obtain ⟨f, rfl⟩ := hends
      refine iff_of_false ?_ ?_
      · rintro ⟨w', hw', hfinished⟩
        obtain rfl := Except.ok.inj hw'
        have hsame := hfinished.aborted
        simp [finish, World.abort, haborted] at hsame
      · rintro ⟨-, hnone⟩
        exact hnone ⟨f, rfl⟩
    · refine iff_of_true ⟨_, rfl, ?_⟩ ⟨hdecoded, ?_⟩
      · refine commits_finish (fun f hf => hends ⟨f, hf⟩) fun v hv => ?_
        rw [← hv]
        exact commits_countOrderDetails (hv ▸ hdue)
      · rintro ⟨f, hf⟩
        exact hends ⟨f, Except.ok.inj hf⟩

end Callbacks

/-- **The bookkeeping of an answer is finished if and only if its callback is prepared for it.**
In every state that a run of the two streams reaches, and for every answer that does not redirect
the request: the callback of a download request that is in flight, or of the heartbeat, returns
with its bookkeeping done once if and only if the answer is guarded. The reaction of the two
streams to the answer to a request in flight is what its callback does, and nothing where an
exception leaves it. -/
theorem bookkeeping_finished_iff (config : Config) {h : History Event Action} {s : Session L D}
    (run : Run (system config L D) anyStep h s) (haborted : s.world.aborted = none)
    (request : OwnRequest) (hrequest : ∀ endpoint, request = .download endpoint →
      ∃ id, ⟨id, endpoint⟩ ∈ s.world.inFlight)
    (response : Response) (hredirected : ¬ Redirected response) :
    (Finishes config request response s.world ↔ Guarded config request response) ∧
      ∀ sent ∈ s.world.inFlight, (react config s (.response sent response)).world =
        afterCallback { s.world with inFlight := s.world.inFlight.erase sent }
          (callback config (.download sent.endpoint) response
            { s.world with inFlight := s.world.inFlight.erase sent }) := by
  refine ⟨?_, fun sent _ => onResponse_eq config sent response s.world⟩
  match request, hrequest with
  | .heartbeat, _ =>
    unfold Finishes Guarded callback countdownCancelAllAck Response.result Finished
    cases response.error <;> simp [bind, Except.bind, pure, Except.pure]
  | .download (.orderDetails clientOrderId), hrequest =>
    obtain ⟨id, hmem⟩ := hrequest _ rfl
    have hpos : 0 < orderDetailsInFlight s.world := List.countP_pos_iff.mpr ⟨_, hmem, rfl⟩
    exact finishes_orderDetails_iff hredirected
      (hpos.trans_le (accounted_of_run config run).covered) haborted
  | .download .accountSettings, _ =>
    exact iff_of_true ⟨_, rfl, finishes_acknowledge hredirected s.world⟩ trivial
  | .download .accountAssets, _ =>
    exact iff_of_true ⟨_, rfl, finishes_acknowledge hredirected s.world⟩ trivial
  | .download .currentPositions, _ =>
    exact iff_of_true ⟨_, rfl, finishes_acknowledge hredirected s.world⟩ trivial
  | .download .unfilledOrders, _ =>
    exact iff_of_true ⟨_, rfl, finishes_acknowledge hredirected s.world⟩ trivial
  | .download .tradeFills, _ =>
    exact iff_of_true ⟨_, rfl, finishes_acknowledge hredirected s.world⟩ trivial

/-! ## Two answers -/

/-- A download up to a lost order whose details are requested. -/
def oneLostOrder : List Event :=
  .restConnected :: openingEvents 0 ++ [tick [⟨1, 1001⟩], sendBelow 100 [⟨1, 1001⟩]]

/-- The answer that the order does not exist is taken into the books. -/
theorem missingOrder_finished :
    Finishes simpleConfig (.download (.orderDetails "oAAB")) (answer "missing")
      (play simpleSystem oneLostOrder).2.world := by
  refine (bookkeeping_finished_iff simpleConfig (Run.play (by decide +kernel)) (by decide +kernel)
    (.download (.orderDetails "oAAB")) ?_ (answer "missing") ?_).1.mpr ⟨?_, ?_⟩
  · intro endpoint hendpoint
    obtain rfl := OwnRequest.download.inj hendpoint
    exact ⟨4, by decide +kernel⟩
  · simp [Redirected, answer]
  · simp [answer]
  · rintro ⟨-, ack, hack, -, hclientOid, -⟩
    obtain rfl : ack = ⟨25204, "order does not exist", ""⟩ := (Except.ok.inj hack).symm
    exact hclientOid rfl

/-- An answer with status `400` whose body is not decoded is never counted, and a heartbeat that
times out throws. -/
theorem badRequest_unfinished :
    Run simpleSystem anyStep (play simpleSystem oneLostOrder).1 (play simpleSystem oneLostOrder).2 ∧
      ⟨4, .orderDetails "oAAB"⟩ ∈ (play simpleSystem oneLostOrder).2.world.inFlight ∧
      ¬ Finishes simpleConfig (.download (.orderDetails "oAAB"))
        ⟨400, .clientError, "<html>", none⟩ (play simpleSystem oneLostOrder).2.world ∧
      ¬ Finishes simpleConfig .heartbeat ⟨0, .unknown, "", some (.network (.other 8) (.other 2)
        "timeout")⟩ (play simpleSystem oneLostOrder).2.world := by
  refine ⟨Run.play (by decide +kernel), by decide +kernel, ?_, ?_⟩
  · rintro ⟨w', hw', -⟩
    have hthrown : ∀ w : World flags, callback simpleConfig (.download (.orderDetails "oAAB"))
        ⟨400, .clientError, "<html>", none⟩ w = .error (.std "unexpected") := fun _ => rfl
    simp [hthrown] at hw'
  · rintro ⟨w', hw', -⟩
    have hthrown : ∀ w : World flags, callback simpleConfig .heartbeat
        ⟨0, .unknown, "", some (.network (.other 8) (.other 2) "timeout")⟩ w =
          .error (.network (.other 8) (.other 2) "timeout") := fun _ => rfl
    simp [hthrown] at hw'

end RoqBitget.Gateway.OrderEntry
