import RoqBitget.Gateway.Bookkeeping

set_option relaxedAutoImplicit false
set_option autoImplicit false

/-!
# Waiting for the lost orders

A websocket stream that waits for its lost orders is released by a response in their slot. The
only commit of the slot is made when the count of the requests for order details returns to
zero, so a batch none of whose orders is found takes the request off the queue and commits
nothing, and unless the count is positive from an earlier batch nothing is left to wait for. An
answer that leaves its callback by an exception stays on the count although it is no longer in
flight, so the count never returns to zero.

## Main definitions

* `RoqBitget.Gateway.Waiting` — an answer is counted, or the slot is committed.
* `RoqBitget.Gateway.FindsOne` — the dispatcher finds one of the lost orders.
* `RoqBitget.Gateway.lostOrdersCallback` — the run of the callback in a tick.
* `RoqBitget.Gateway.undecodable` — an answer that leaves its callback by an exception.

## Main results

* `RoqBitget.Gateway.waiting_sendLostOrders` — when the callback leaves something to wait for.
* `RoqBitget.Gateway.counter_eq_of_run` — the count is the number of requests in flight and of
  answers that left their callback by an exception.
* `RoqBitget.Gateway.stuck_react` — nothing releases a download that has nothing to wait for.
* `RoqBitget.Gateway.lostOrders_released` — if every batch leaves something to wait for and every
  answer is decoded, then a download that waits for the lost orders has an answer to wait for.
-/

namespace RoqBitget.Gateway

open RoqBitget.Core Runs Effects DropCopy OrderEntry

variable {L : LimitRequest} {D : Download2 State (World L)}

/-- There is something to wait for: an answer on order details is counted, or the slot of the
lost orders has been committed. -/
def Waiting (w : World L) : Prop :=
  0 < w.downloadLostOrdersCounter ∨ w.hasResponse .lostOrders = true

instance (w : World L) : Decidable (Waiting w) := inferInstanceAs (Decidable (_ ∨ _))

/-- One of the lost orders is found. -/
def FindsOne (tick : Tick) : Prop := ∃ key ∈ tick.order, (tick.findOrder key).isSome

instance (tick : Tick) : Decidable (FindsOne tick) :=
  inferInstanceAs (Decidable (∃ key ∈ tick.order, (tick.findOrder key).isSome = true))

/-! ## The callback -/

/-- One round of the loop counts the order if it is found. -/
theorem counter_sendLostOrder {tick : Tick} {key : OrderKey} {w w' : World L}
    (h : sendLostOrder tick key w = .ok () w') :
    w'.downloadLostOrdersCounter =
      w.downloadLostOrdersCounter + if (tick.findOrder key).isSome then 1 else 0 := by
  unfold sendLostOrder findOrder at h
  cases hfound : tick.findOrder key with
  | none =>
    rw [hfound] at h
    cases h
    rfl
  | some clientOrderId =>
    rw [hfound] at h
    by_cases haccepts : tick.accepts w.nextId = true
    · have hsend : getOrderDetails tick clientOrderId w = .ok () { w with
          inFlight := w.inFlight ++ [⟨w.nextId, .orderDetails clientOrderId⟩]
          nextId := w.nextId + 1
          actions := w.actions ++ [.send ⟨w.nextId, .orderDetails clientOrderId⟩] } :=
        if_pos haccepts
      simp only [bind, EStateM.bind, hsend] at h
      cases h
      rfl
    · have hsend : getOrderDetails tick clientOrderId w = .error .notConnected w :=
        if_neg haccepts
      simp only [bind, EStateM.bind, hsend] at h
      cases h

/-- The loop counts the orders that are found. -/
theorem counter_forM {tick : Tick} {keys : List OrderKey} {w w' : World L}
    (h : keys.forM (sendLostOrder tick) w = .ok () w') :
    w'.downloadLostOrdersCounter = w.downloadLostOrdersCounter +
      keys.countP fun key => (tick.findOrder key).isSome := by
  induction keys generalizing w with
  | nil =>
    cases h
    rfl
  | cons key keys ih =>
    have hbind : (sendLostOrder tick key >>= fun _ => keys.forM (sendLostOrder tick)) w =
      .ok () w' := h
    obtain ⟨_, v, hround, hrest⟩ := ok_of_bind hbind
    have hcounted := counter_sendLostOrder hround
    have htotal := ih hrest
    rw [List.countP_cons]
    omega

/-- The slots are left alone. -/
def SameSlots (w w' : World L) : Prop := w'.slots = w.slots

/-- The callback leaves the slots alone, also if it throws. -/
theorem sameSlots_sendLostOrders (tick : Tick) :
    Ensures SameSlots (sendLostOrders tick : M L Unit) := by
  have hrefl : ∀ w : World L, SameSlots w w := fun _ => rfl
  have htrans : ∀ u v w : World L, SameSlots u v → SameSlots v w → SameSlots u w :=
    fun _ _ _ h h' => h'.trans h
  have hround : ∀ key, Ensures SameSlots (sendLostOrder tick key : M L Unit) := by
    intro key w
    unfold sendLostOrder findOrder
    cases tick.findOrder key with
    | none => exact hrefl w
    | some clientOrderId =>
      by_cases haccepts : tick.accepts w.nextId = true
      · simp only [bind, EStateM.bind, getOrderDetails, send, haccepts, if_true]
        exact hrefl _
      · simp only [bind, EStateM.bind, getOrderDetails, send, haccepts]
        exact hrefl w
  exact (Ensures.forM hrefl htrans hround tick.order).bind htrans
    fun _ => Ensures.modify fun w => hrefl w

/-- **What the callback leaves to wait for.** If it runs to completion then there is something
to wait for if and only if an order was found, or there was something already. -/
theorem waiting_sendLostOrders {tick : Tick} {w w' : World L}
    (h : sendLostOrders tick w = .ok () w') : Waiting w' ↔ FindsOne tick ∨ Waiting w := by
  have hslots : w'.slots = w.slots := by
    have hensured := sameSlots_sendLostOrders tick w
    rwa [h] at hensured
  obtain ⟨_, v, hloop, hclear⟩ := ok_of_bind h
  have hcounted := counter_forM hloop
  have hcounter : w'.downloadLostOrdersCounter = v.downloadLostOrdersCounter := by
    cases hclear
    rfl
  have hfinds : FindsOne tick ↔
      0 < tick.order.countP fun key => (tick.findOrder key).isSome :=
    List.countP_pos_iff.symm
  have hresponse : w'.hasResponse .lostOrders = w.hasResponse .lostOrders := by
    rw [World.hasResponse, hslots]
    rfl
  rw [hfinds]
  unfold Waiting
  rw [hresponse, hcounter, hcounted]
  constructor
  · rintro (hpos | hcommitted)
    · omega
    · exact .inr (.inr hcommitted)
  · rintro (hfound | hpos | hcommitted)
    · exact .inl (by omega)
    · exact .inl (by omega)
    · exact .inr hcommitted

/-! ## The callback in a tick -/

/-- What a tick does before it looks at the slot of the lost orders. -/
def beforeLostOrders (config : Config) (tick : Tick) : M L Unit := do
  sendHeartbeat config tick
  checkPending tick .account (getAccountSettings tick)
  checkPending tick .balances (getAccountAssets tick)
  checkPending tick .positions (getCurrentPositions tick)
  checkPending tick .openOrders (getUnfilledOrders tick)

/-- The worlds before and after the callback of the lost orders, if it runs to completion in a
tick. -/
def lostOrdersCallback (config : Config) (tick : Tick) (w : World L) :
    Option (World L × World L) :=
  if tick.refresh && w.orderEntryStatus = .ready then
    match beforeLostOrders config tick w with
    | .ok _ before =>
      if L.pending (before.slots .lostOrders) && tick.canRequest .lostOrders then
        match sendLostOrders tick before with
        | .ok _ after => some (before, after)
        | .error _ _ => none
      else none
    | .error _ _ => none
  else none

/-- The slot of the lost orders and the count are left alone. -/
def Apart (w w' : World L) : Prop :=
  w'.slots .lostOrders = w.slots .lostOrders ∧
    w'.downloadLostOrdersCounter = w.downloadLostOrdersCounter

theorem Apart.refl (w : World L) : Apart w w := ⟨rfl, rfl⟩

theorem Apart.trans (u v w : World L) (h : Apart u v) (h' : Apart v w) : Apart u w :=
  ⟨h'.1.trans h.1, h'.2.trans h.2⟩

/-- A request for a snapshot, and what becomes of its slot, leave the lost orders alone. -/
theorem apart_checkPending (tick : Tick) (slot : Slot) (hslot : slot ≠ .lostOrders)
    (endpoint : Endpoint) :
    Ensures Apart (checkPending tick slot (send tick endpoint) : M L Unit) := by
  intro w
  have hkept : ∀ (f : L.Object → L.Object) (v : World L), Apart v (v.updateSlot slot f) :=
    fun f v => ⟨if_neg fun h => hslot h.symm, rfl⟩
  unfold checkPending send
  split_ifs
  · exact Apart.trans _ _ _ ⟨rfl, rfl⟩ (hkept L.sent _)
  · exact hkept L.interrupted w
  · exact Apart.refl w

theorem apart_sendHeartbeat (config : Config) (tick : Tick) :
    Ensures Apart (sendHeartbeat config tick : M L Unit) := by
  have hsend : Ensures Apart (countdownCancelAll tick : M L Unit) := by
    intro w
    unfold countdownCancelAll
    split_ifs
    · exact ⟨rfl, rfl⟩
    · exact Apart.refl w
  refine (Ensures.get Apart.refl).bind Apart.trans fun w => ?_
  split_ifs
  · exact (Ensures.modify fun w => ⟨rfl, rfl⟩).bind Apart.trans fun _ => hsend
  · exact Ensures.pure Apart.refl _

/-- What precedes the slot of the lost orders leaves it alone. -/
theorem apart_beforeLostOrders (config : Config) (tick : Tick) :
    Ensures Apart (beforeLostOrders config tick : M L Unit) :=
  (apart_sendHeartbeat config tick).bind Apart.trans fun _ =>
  (apart_checkPending tick .account (by simp) _).bind Apart.trans fun _ =>
  (apart_checkPending tick .balances (by simp) _).bind Apart.trans fun _ =>
  (apart_checkPending tick .positions (by simp) _).bind Apart.trans fun _ =>
  apart_checkPending tick .openOrders (by simp) _

/-- A tick that refreshes, cut at the slot of the lost orders. -/
theorem tick_eq (config : Config) (tick : Tick) :
    (do sendHeartbeat config tick; OrderEntry.checkRequestQueue tick : M L Unit) =
      beforeLostOrders config tick >>= fun _ =>
        checkPending tick .lostOrders (sendLostOrders tick) >>= fun _ =>
          checkPending tick .trades (getTradeFills tick) := by
  simp [beforeLostOrders, OrderEntry.checkRequestQueue]

/-- A request for the lost orders is on the queue, or there is something to wait for. -/
def Releasable (w : World L) : Prop :=
  L.pending (w.slots .lostOrders) = true ∨ Waiting w

instance (w : World L) : Decidable (Releasable w) := inferInstanceAs (Decidable (_ ∨ _))

theorem Releasable.apart {w w' : World L} (h : Releasable w) (hapart : Apart w w') :
    Releasable w' := by
  obtain ⟨hslot, hcounter⟩ := hapart
  unfold Releasable Waiting World.hasResponse at h ⊢
  rw [hslot, hcounter]
  exact h

/-- Looking at the slot leaves something to wait for if the callback finds an order, or there was
something already, whenever it runs to completion. -/
theorem releasable_checkPending
    (hinterrupted : ∀ r, L.pending r = true → L.pending (L.interrupted r) = true) {tick : Tick}
    {w : World L} (h : Releasable w)
    (hfinds : ∀ w', (L.pending (w.slots .lostOrders) && tick.canRequest .lostOrders) = true →
      sendLostOrders tick w = .ok () w' → FindsOne tick ∨ Waiting w) :
    Releasable (finalState (checkPending tick .lostOrders (sendLostOrders tick) w)) := by
  unfold checkPending
  split_ifs with hadmitted
  · cases hcallback : sendLostOrders tick w with
    | ok _ v =>
      have hwaiting : Waiting v :=
        (waiting_sendLostOrders hcallback).mpr (hfinds v hadmitted hcallback)
      right
      rcases hwaiting with hcounter | hcommitted
      · exact .inl hcounter
      · exact .inr ((World.hasResponse_updateSlot L.hasResponse_sent .lostOrders _ v).trans
          hcommitted)
    | error _ v =>
      have hslots : v.slots = w.slots := by
        have hensured := sameSlots_sendLostOrders tick w
        rwa [hcallback] at hensured
      left
      show L.pending ((v.updateSlot .lostOrders L.interrupted).slots .lostOrders) = true
      simp only [World.updateSlot, if_true, hslots]
      exact hinterrupted _ (Bool.and_eq_true _ _ ▸ hadmitted).1
  · exact h

/-- **A tick of the REST stream leaves something to wait for**, if the callback of the lost orders
does. -/
theorem releasable_onTimer
    (hinterrupted : ∀ r, L.pending r = true → L.pending (L.interrupted r) = true)
    {config : Config} {tick : Tick} {w : World L} (h : Releasable w)
    (hfinds : ∀ p ∈ lostOrdersCallback config tick w, FindsOne tick ∨ Waiting p.1) :
    Releasable (OrderEntry.onTimer config tick w) := by
  unfold OrderEntry.onTimer
  unfold lostOrdersCallback at hfinds
  split_ifs with hready
  · rw [if_pos hready] at hfinds
    have hbefore := apart_beforeLostOrders config tick w
    rw [tick_eq, finalState_bind]
    cases hprevious : beforeLostOrders config tick w with
    | error _ v =>
      rw [hprevious] at hbefore
      exact h.apart hbefore
    | ok _ v =>
      rw [hprevious] at hbefore
      simp only [hprevious] at hfinds
      have hlooked : Releasable
          (finalState (checkPending tick .lostOrders (sendLostOrders tick) v)) := by
        refine releasable_checkPending hinterrupted (h.apart hbefore) ?_
        intro w' hadmitted hcallback
        rw [if_pos hadmitted, hcallback] at hfinds
        exact hfinds (v, w') rfl
      have htrades : ∀ u : World L, Apart u
          (finalState (checkPending tick .trades (getTradeFills tick) u)) :=
        apart_checkPending tick .trades (by simp) _
      dsimp only
      rw [finalState_bind]
      cases hlast : checkPending tick .lostOrders (sendLostOrders tick) v with
      | error _ u =>
        rw [hlast] at hlooked
        exact hlooked
      | ok _ u =>
        rw [hlast] at hlooked
        exact hlooked.apart (htrades u)
  · exact h

/-! ## The other events -/

/-- What the websocket stream can do to the slot of the lost orders: it leaves the slot alone, or
makes a request through it. -/
def Queues (w w' : World L) : Prop :=
  L.pending (w'.slots .lostOrders) = true ∨
    w'.slots .lostOrders = w.slots .lostOrders ∧
      (.request .lostOrders ∈ w'.actions → .request .lostOrders ∈ w.actions)

/-- Performing an action that is not a request for the lost orders. -/
theorem queues_act (action : Action) (h : action ≠ .request .lostOrders) (w : World L) :
    Queues w (w.act action) := by
  refine .inr ⟨rfl, fun hmem => ?_⟩
  rcases List.mem_append.mp hmem with hmem | hmem
  · exact hmem
  · exact absurd (List.mem_singleton.mp hmem).symm h

/-- **The websocket stream only queues.** -/
theorem respects_queues (config : Config) : Respects config (Queues (L := L)) where
  refl w := .inr ⟨rfl, id⟩
  trans := by
    intro u v w h h'
    rcases h' with hpending | ⟨hslot, hactions⟩
    · exact .inl hpending
    rcases h with hpending | ⟨hslot', hactions'⟩
    · exact .inl (hslot ▸ hpending)
    · exact .inr ⟨hslot.trans hslot', hactions' ∘ hactions⟩
  publish status reason w := queues_act (.publish status reason) (by simp) w
  request slot w := by
    by_cases hslot : slot = .lostOrders
    · subst hslot
      left
      simp [request, World.act, World.updateSlot, L.pending_request]
    · rcases queues_act (.request slot) (by simpa using hslot) w with h | ⟨-, hactions⟩
      · exact .inl (by simpa [request, World.act, World.updateSlot, Ne.symm hslot] using h)
      · exact .inr ⟨if_neg (Ne.symm hslot), hactions⟩
  subscribe topic w := queues_act (.subscribe topic) (by simp) w
  look stale w := queues_act (.checkStaleOrders _) (by simp) w
  schedule _ w := .inr ⟨rfl, id⟩
  refused w := .inr ⟨rfl, id⟩
  notEmpty _ w := .inr ⟨rfl, id⟩

/-- What can release the download stays while the websocket stream does what it does. -/
theorem Releasable.decides {config : Config} {w w' : World L} (h : Releasable w)
    (hqueues : Queues w w') (hdecides : Decides config w w') : Releasable w' := by
  rcases hqueues with hpending | ⟨hslot, -⟩
  · exact .inl hpending
  · exact h.apart ⟨hslot, hdecides.downloadLostOrdersCounter⟩

/-- The callbacks of all requests but order details leave the lost orders alone. -/
theorem apart_acknowledge (config : Config) {endpoint : Endpoint} (response : Response)
    (w : World L) (hslot : endpoint.slot ≠ .lostOrders) :
    Apart w (acknowledge config endpoint response w) := by
  have hcommit : ∀ v : World L, Apart w v → Apart w (commit endpoint.slot v) :=
    fun v hv => Apart.trans _ _ _ hv ⟨if_neg (Ne.symm hslot), rfl⟩
  unfold acknowledge finish
  cases processResponse config response (handleSuccess config endpoint) with
  | dispatched => exact hcommit _ (Apart.refl w)
  | failed failure => exact hcommit _ (Apart.refl w)
  | ignored => exact hcommit w (Apart.refl w)
  | fatal fatal => exact Apart.refl w

/-- An answer to another request leaves the lost orders alone. -/
theorem apart_onResponse (config : Config) {sent : Sent} (response : Response) (w : World L)
    (hother : isOrderDetails sent = false) : Apart w (onResponse config sent response w) := by
  rcases onResponse_cases config sent response w with ⟨_, hendpoint, -⟩ | ⟨hslot, heq⟩
  · simp [isOrderDetails, hendpoint] at hother
  · rw [heq]
    exact apart_acknowledge config response { w with inFlight := _ } hslot

/-- An answer that is counted leaves something to wait for: more answers, or the commit. -/
theorem waiting_countOrderDetails {w : World L}
    (haborted : (countOrderDetails w).aborted = none) : Waiting (countOrderDetails w) := by
  rcases countOrderDetails_cases w with ⟨-, heq⟩ | ⟨-, heq⟩ | ⟨hmore, heq⟩
  · simp [heq, World.abort] at haborted
  · right
    simp [heq, commit, World.hasResponse, World.act, World.updateSlot, L.hasResponse_commit]
  · left
    rw [heq]
    show 0 < w.downloadLostOrdersCounter - 1
    omega

/-- **An answer leaves something to wait for.** -/
theorem releasable_onResponse (config : Config) (sent : Sent) (response : Response)
    {w : World L} (h : Releasable w)
    (haborted : (onResponse config sent response w).aborted = none) :
    Releasable (onResponse config sent response w) := by
  by_cases hother : isOrderDetails sent = true
  · obtain ⟨id, endpoint⟩ := sent
    cases endpoint with
    | orderDetails clientOrderId =>
      simp only [onResponse, getOrderDetailsAck] at haborted ⊢
      cases houtcome : orderDetailsOutcome config clientOrderId response with
      | error e => exact h
      | ok outcome =>
        rw [houtcome] at haborted
        cases outcome with
        | dispatched => exact .inr (waiting_countOrderDetails haborted)
        | failed failure => exact .inr (waiting_countOrderDetails haborted)
        | ignored => exact .inr (waiting_countOrderDetails haborted)
        | fatal fatal => simp [finish, World.abort] at haborted
    | _ => simp [isOrderDetails] at hother
  · exact h.apart (apart_onResponse config response w (by simpa using hother))

/-! ## Runs -/

/-- Whenever the callback of the lost orders runs to completion, it has found an order, or there
was something to wait for before it. -/
def FindsLostOrders (config : Config) (_ : History Event Action) (s : Session L D) :
    Event → Prop
  | .restTimer tick =>
    ∀ p ∈ lostOrdersCallback config tick (fresh s).world, FindsOne tick ∨ Waiting p.1
  | _ => True

instance (config : Config) (h : History Event Action) (s : Session L D) :
    (e : Event) → Decidable (FindsLostOrders config h s e)
  | .restTimer tick =>
    inferInstanceAs (Decidable (∀ p ∈ lostOrdersCallback config tick _, FindsOne tick ∨ _))
  | .login _ | .subscribed _ _ | .disconnected | .timer _ _ _ | .restConnected
  | .restDisconnected | .response _ _ => isTrue trivial

/-- A stream that is not a master never begins a download. -/
theorem state_react_of_secondary {config : Config} (hmaster : config.master = false)
    {s : Session L D} (hstate : s.state = .undefined) (e : Event) :
    (react config s e).state = .undefined := by
  have hcheck : ∀ state, state ≠ .undefined → (s.check config state).state = .undefined :=
    fun state hne => (check_other config (hstate.trans_ne hne.symm)).2.trans hstate
  cases e with
  | login code =>
    show (onLogin config code s).state = .undefined
    by_cases hcode : code ≠ 0
    · rw [onLogin, if_pos hcode]
      exact hstate
    · rw [onLogin, if_neg hcode, if_neg (by simp [hmaster])]
      exact hstate
  | subscribed topic code =>
    cases topic with
    | account => exact hcheck _ (by simp)
    | position => exact hcheck _ (by simp)
    | order => exact hcheck _ (by simp)
    | fill => exact hcheck _ (by simp)
    | _ => exact hstate
  | disconnected => exact D.state_reset s.download
  | timer refresh now stale => simpa [react, DropCopy.onTimer, hmaster] using hstate
  | _ => exact hstate

/-- A reaction that enters the state of the lost orders makes a request through their slot. -/
theorem request_of_enters {config : Config} (hmaster : config.master = true) {s : Session L D}
    {e : Event} (haborted : (react config s e).world.aborted = none)
    (hbefore : s.state ≠ .getLostOrders)
    (hafter : (react config s e).state = .getLostOrders) :
    .request .lostOrders ∈ (react config s e).world.actions := by
  cases move_react (s := s) hmaster e with
  | aborted fatal hfatal => simp [hfatal] at haborted
  | began _ hstate => simp [hstate] at hafter
  | reset _ hstate => simp [hstate] at hafter
  | completed next' w _ _ _ _ hstate henters =>
    have hnext : next' = .getLostOrders := hstate.symm.trans hafter
    have hmem : .request .lostOrders ∈ downloadActions (react config s e).world := by
      rw [henters.performed, hnext]
      simp [performed]
    exact List.mem_of_mem_filter hmem
  | finished _ _ _ _ hstate => simp [hafter, State.waits, State.slot] at hstate
  | regular _ _ hstate => exact absurd (hstate.symm.trans hafter) hbefore
  | quiet _ hstate => exact absurd (hstate.symm.trans hafter) hbefore

/-- **Step lemma.** A download that waits for the lost orders can be released after every reaction,
if it could before. -/
theorem releasable_react
    (hinterrupted : ∀ r, L.pending r = true → L.pending (L.interrupted r) = true)
    {config : Config} {s : Session L D} {e : Event}
    (hsecondary : config.master = false → s.state = .undefined)
    (hbefore : s.state = .getLostOrders → Releasable s.world)
    (hguard : FindsLostOrders config [] s e)
    (haborted : (react config (fresh s) e).world.aborted = none)
    (hafter : (react config (fresh s) e).state = .getLostOrders) :
    Releasable (react config (fresh s) e).world := by
  by_cases hstate : s.state = .getLostOrders
  · have h : Releasable (fresh s).world := hbefore hstate
    by_cases he : e.isWebsocket = true
    · exact h.decides ((respects_queues config).react (fresh s) e he)
        ((respects_decides config).react (fresh s) e he)
    cases e with
    | restConnected => exact h
    | restDisconnected => exact h
    | restTimer tick => exact releasable_onTimer hinterrupted h hguard
    | response sent response => exact releasable_onResponse config sent response h haborted
    | _ => simp [Event.isWebsocket] at he
  · -- the state has just been entered, and only the websocket stream enters states
    have hmaster : config.master = true := by
      by_contra hnot
      have hundefined := state_react_of_secondary (by simpa using hnot)
        (s := fresh s) (hsecondary (by simpa using hnot)) e
      rw [hafter] at hundefined
      simp at hundefined
    have hrequest := request_of_enters hmaster haborted hstate hafter
    by_cases he : e.isWebsocket = true
    · rcases (respects_queues config).react (fresh s) e he with hpending | ⟨-, hactions⟩
      · exact .inl hpending
      · exact absurd (hactions hrequest) (by simp [fresh])
    cases e with
    | restConnected => exact absurd hafter hstate
    | restDisconnected => exact absurd hafter hstate
    | restTimer tick => exact absurd hafter hstate
    | response sent response => exact absurd hafter hstate
    | _ => simp [Event.isWebsocket] at he

/-- **Run lemma.** If every batch leaves something to wait for, then a download that waits for
the lost orders can be released. -/
theorem releasable_of_run
    (hinterrupted : ∀ r, L.pending r = true → L.pending (L.interrupted r) = true)
    {config : Config} {h : History Event Action} {s : Session L D}
    (run : Run (system config L D) (FindsLostOrders config) h s)
    (haborted : s.world.aborted = none) (hstate : s.state = .getLostOrders) :
    Releasable s.world := by
  refine (run.invariant (P := fun _ s => (config.master = false → s.state = .undefined) ∧
    (s.world.aborted = none → s.state = .getLostOrders → Releasable s.world)) ?_ ?_).2
      haborted hstate
  · exact ⟨fun _ => state_init config, fun _ hinit => by simp at hinit⟩
  · rintro h s e - ⟨hsecondary, hbefore⟩ henabled hguard
    refine ⟨fun hmaster => ?_, fun haborted hafter => ?_⟩
    · exact state_react_of_secondary hmaster (s := fresh s) (hsecondary hmaster) e
    · exact releasable_react hinterrupted hsecondary (hbefore henabled.1) hguard haborted hafter

/-! ## What is counted -/

/-- The answer leaves its callback by an exception, before it is counted. -/
def escapes (config : Config) (sent : Sent) (response : Response) : Bool :=
  match sent.endpoint with
  | .orderDetails clientOrderId =>
    match orderDetailsOutcome config clientOrderId response with
    | .error _ => true
    | .ok _ => false
  | _ => false

/-- An answer on order details with status `400` and a body that cannot be decoded. -/
def undecodable (config : Config) (sent : Sent) (response : Response) : Bool :=
  isOrderDetails sent && response.status = 400 && !(config.decode sent.endpoint response.body).isOk

/-- **Which answers leave their callback by an exception.** The body of a `400` is decoded outside
of the `try` block. -/
theorem escapes_eq (config : Config) (sent : Sent) (response : Response) :
    escapes config sent response = undecodable config sent response := by
  obtain ⟨id, endpoint⟩ := sent
  cases endpoint with
  | orderDetails clientOrderId =>
    simp only [escapes, undecodable, isOrderDetails, Bool.true_and]
    cases houtcome : orderDetailsOutcome config clientOrderId response with
    | error e =>
      obtain ⟨hstatus, hdecode⟩ := orderDetailsOutcome_eq_error.mp houtcome
      simp [hstatus, hdecode, Except.isOk, Except.toBool]
    | ok outcome =>
      cases hdecode : config.decode (.orderDetails clientOrderId) response.body with
      | ok ack => simp [Except.isOk, Except.toBool]
      | error e =>
        have hstatus : response.status ≠ 400 := by
          intro hstatus
          have hthrown := orderDetailsOutcome_eq_error.mpr ⟨hstatus, hdecode⟩
          simp [houtcome] at hthrown
        simp [hstatus]
  | _ => rfl

/-- An answer left its callback by an exception. -/
def escaped (config : Config) (entry : Entry Event Action) : Bool :=
  match entry.event with
  | .response sent response => escapes config sent response
  | _ => false

/-- The callbacks send no request, and leave the other requests in flight. -/
theorem requests_onResponse (config : Config) (sent : Sent) (response : Response)
    (w : World L) :
    (onResponse config sent response w).inFlight = w.inFlight.erase sent ∧
      (onResponse config sent response w).nextId = w.nextId := by
  have hcount : ∀ v : World L, (countOrderDetails v).inFlight = v.inFlight ∧
      (countOrderDetails v).nextId = v.nextId := by
    intro v
    rcases countOrderDetails_cases v with ⟨-, heq⟩ | ⟨-, heq⟩ | ⟨-, heq⟩ <;>
      rw [heq] <;> exact ⟨rfl, rfl⟩
  have hfinish : ∀ (endpoint : Endpoint) (outcome : Outcome) (next : World L → World L)
      (v : World L), (∀ u, (next u).inFlight = u.inFlight ∧ (next u).nextId = u.nextId) →
        (finish endpoint outcome next v).inFlight = v.inFlight ∧
          (finish endpoint outcome next v).nextId = v.nextId := by
    intro endpoint outcome next v hnext
    cases outcome with
    | dispatched => exact hnext _
    | failed failure => exact hnext _
    | ignored => exact hnext v
    | fatal fatal => exact ⟨rfl, rfl⟩
  rcases onResponse_cases config sent response w with ⟨clientOrderId, -, heq⟩ | ⟨-, heq⟩
  · rw [heq, getOrderDetailsAck]
    cases orderDetailsOutcome config clientOrderId response with
    | error e => exact ⟨rfl, rfl⟩
    | ok outcome => exact hfinish _ outcome countOrderDetails _ hcount
  · rw [heq]
    exact hfinish _ _ _ _ fun _ => ⟨rfl, rfl⟩

/-- Counting takes one off, unless the process ends. -/
theorem counter_countOrderDetails {w : World L}
    (haborted : (countOrderDetails w).aborted = none) :
    (countOrderDetails w).downloadLostOrdersCounter + 1 = w.downloadLostOrdersCounter := by
  rcases countOrderDetails_cases w with ⟨-, heq⟩ | ⟨hlast, heq⟩ | ⟨hmore, heq⟩
  · simp [heq, World.abort] at haborted
  · rw [heq, hlast]
    rfl
  · rw [heq]
    show w.downloadLostOrdersCounter - 1 + 1 = w.downloadLostOrdersCounter
    omega

/-- An answer that is processed to its end is taken off the count, and no other answer is. -/
theorem counter_onResponse (config : Config) (sent : Sent) (response : Response) {w : World L}
    (haborted : (onResponse config sent response w).aborted = none) :
    (onResponse config sent response w).downloadLostOrdersCounter +
      (counted config sent response).toNat = w.downloadLostOrdersCounter := by
  by_cases hother : isOrderDetails sent = true
  · obtain ⟨id, endpoint⟩ := sent
    cases endpoint with
    | orderDetails clientOrderId =>
      simp only [onResponse, getOrderDetailsAck, counted] at haborted ⊢
      generalize orderDetailsOutcome config clientOrderId response = result at haborted ⊢
      cases result with
      | error e => rfl
      | ok outcome =>
        cases outcome with
        | dispatched => exact counter_countOrderDetails haborted
        | failed failure => exact counter_countOrderDetails haborted
        | ignored => exact counter_countOrderDetails haborted
        | fatal fatal => rfl
    | _ => simp [isOrderDetails] at hother
  · have hnot : counted config sent response = false := by
      obtain ⟨id, endpoint⟩ := sent
      cases endpoint with
      | orderDetails clientOrderId => simp [isOrderDetails] at hother
      | _ => rfl
    rw [(apart_onResponse config response w (by simpa using hother)).2, hnot]
    rfl

/-- An answer on order details is counted or escapes, unless the process ends. -/
theorem counted_or_escapes (config : Config) (sent : Sent) (response : Response) {w : World L}
    (haborted : (onResponse config sent response w).aborted = none) :
    (isOrderDetails sent).toNat =
      (counted config sent response).toNat + (escapes config sent response).toNat := by
  obtain ⟨id, endpoint⟩ := sent
  cases endpoint with
  | orderDetails clientOrderId =>
    simp only [onResponse, getOrderDetailsAck, counted, escapes, isOrderDetails] at haborted ⊢
    generalize orderDetailsOutcome config clientOrderId response = result at haborted ⊢
    cases result with
    | error e => rfl
    | ok outcome =>
      cases outcome with
      | fatal fatal => simp [finish, World.abort] at haborted
      | _ => rfl
  | _ => rfl

/-- A request that is in flight is one of those for order details, if it asks for them. -/
theorem isOrderDetails_le {sent : Sent} {w : World L} (hsent : sent ∈ w.inFlight) :
    (isOrderDetails sent).toNat ≤ orderDetailsInFlight w := by
  cases hdetails : isOrderDetails sent with
  | false => exact Nat.zero_le _
  | true => exact List.countP_pos_iff.mpr ⟨sent, hsent, hdetails⟩

/-- The request of an answer is no longer in flight. -/
theorem orderDetailsInFlight_onResponse (config : Config) {sent : Sent} (response : Response)
    {w : World L} (hsent : sent ∈ w.inFlight) :
    orderDetailsInFlight (onResponse config sent response w) =
      orderDetailsInFlight w - (isOrderDetails sent).toNat := by
  rw [orderDetailsInFlight, (requests_onResponse config sent response w).1, List.countP_erase]
  cases hdetails : isOrderDetails sent <;> simp [hsent, orderDetailsInFlight]

/-- **What is counted.** After every run the count is the number of requests for order details in
flight and of answers on them that escaped. -/
theorem counter_eq_of_run {config : Config}
    {ok : History Event Action → Session L D → Event → Prop} {h : History Event Action}
    {s : Session L D} (run : Run (system config L D) ok h s) (haborted : s.world.aborted = none) :
    s.world.downloadLostOrdersCounter =
      orderDetailsInFlight s.world + h.countP (escaped config) := by
  refine run.invariant (P := fun h s => s.world.aborted = none →
    s.world.downloadLostOrdersCounter =
      orderDetailsInFlight s.world + h.countP (escaped config)) ?_ ?_ haborted
  · intro _
    simp [system, World.initial, orderDetailsInFlight]
  intro h s e _ ih henabled _ hafter
  have hbefore := ih henabled.1
  have hentry : ∀ entry, (entry :: h).countP (escaped config) =
      h.countP (escaped config) + (escaped config entry).toNat := by
    intro entry
    rw [List.countP_cons]
    cases escaped config entry <;> rfl
  rw [hentry]
  change (react config (fresh s) e).world.downloadLostOrdersCounter =
    orderDetailsInFlight (react config (fresh s) e).world + _
  change (react config (fresh s) e).world.aborted = none at hafter
  by_cases he : e.isWebsocket = true
  · have hdecides := (respects_decides config).react (fresh s) e he
    have hnot : escaped config ⟨e, (react config (fresh s) e).world.actions⟩ = false := by
      cases e with
      | response sent response => simp [Event.isWebsocket] at he
      | _ => rfl
    rw [orderDetailsInFlight, hdecides.inFlight, hdecides.downloadLostOrdersCounter]
    simp only [system, hnot]
    exact hbefore
  cases e with
  | restConnected => exact hbefore
  | restDisconnected => exact hbefore
  | restTimer tick =>
    have hcounted := (sends_onTimer config tick (fresh s).world).counted
    have hsame : (fresh s).world.downloadLostOrdersCounter =
      orderDetailsInFlight (fresh s).world + h.countP (escaped config) := hbefore
    simp only [react, escaped, Bool.toNat_false]
    have hinFlight : orderDetailsInFlight (fresh s).world = orderDetailsInFlight s.world := rfl
    omega
  | response sent response =>
    have hsent : sent ∈ s.world.inFlight := henabled.2
    have hcounter := counter_onResponse config sent response (w := (fresh s).world) hafter
    have hkind := counted_or_escapes config sent response (w := (fresh s).world) hafter
    have hinFlight : orderDetailsInFlight (onResponse config sent response (fresh s).world) =
        orderDetailsInFlight s.world - (isOrderDetails sent).toNat :=
      orderDetailsInFlight_onResponse config response (w := (fresh s).world) hsent
    have hpos : (isOrderDetails sent).toNat ≤ orderDetailsInFlight s.world :=
      isOrderDetails_le hsent
    have hsame : (fresh s).world.downloadLostOrdersCounter = s.world.downloadLostOrdersCounter :=
      rfl
    simp only [react, escaped]
    omega
  | _ => simp [Event.isWebsocket] at he

/-- Every answer on order details with status `400` can be decoded. -/
def DecodesOrderDetails (config : Config) : Event → Prop
  | .response sent response => undecodable config sent response = false
  | _ => True

instance (config : Config) : (e : Event) → Decidable (DecodesOrderDetails config e)
  | .response sent response =>
    inferInstanceAs (Decidable (undecodable config sent response = false))
  | .login _ | .subscribed _ _ | .disconnected | .timer _ _ _ | .restConnected
  | .restDisconnected | .restTimer _ => isTrue trivial

/-- If every answer is decoded then the count is the number of requests in flight. -/
theorem counter_eq_inFlight {config : Config}
    {ok : History Event Action → Session L D → Event → Prop}
    (hok : ∀ h s e, ok h s e → DecodesOrderDetails config e) {h : History Event Action}
    {s : Session L D} (run : Run (system config L D) ok h s) (haborted : s.world.aborted = none) :
    s.world.downloadLostOrdersCounter = orderDetailsInFlight s.world := by
  have hnone : h.countP (escaped config) = 0 := by
    refine List.countP_eq_zero.mpr fun entry hentry => ?_
    obtain ⟨_, _, _, _, hguard, _⟩ := run.of_mem hentry
    have hdecodes := hok _ _ _ hguard
    unfold escaped
    cases hevent : entry.event with
    | response sent response =>
      rw [hevent] at hdecodes
      simpa [escapes_eq, DecodesOrderDetails] using hdecodes
    | _ => simp
  rw [counter_eq_of_run run haborted, hnone, Nat.add_zero]

/-! ## Nothing to wait for -/

/-- A download that waits for the lost orders while nothing can release it, whatever is on the
count. -/
structure Stuck (s : Session L D) : Prop where
  state : s.state = .getLostOrders
  downloading : s.world.connectionStatus = .downloading
  notPending : L.pending (s.world.slots .lostOrders) = false
  notCommitted : s.world.hasResponse .lostOrders = false
  noneInFlight : orderDetailsInFlight s.world = 0

/-- A tick that has nothing to look up leaves the lost orders alone. -/
theorem apart_onTimer (config : Config) (tick : Tick) {w : World L}
    (hpending : L.pending (w.slots .lostOrders) = false) :
    Apart w (OrderEntry.onTimer config tick w) := by
  unfold OrderEntry.onTimer
  split_ifs
  · have hbefore := apart_beforeLostOrders config tick w
    rw [tick_eq, finalState_bind]
    cases hprevious : beforeLostOrders config tick w with
    | error _ v =>
      rw [hprevious] at hbefore
      exact hbefore
    | ok _ v =>
      rw [hprevious] at hbefore
      have hskip : checkPending tick .lostOrders (sendLostOrders tick) v = .ok () v := by
        have hslot : v.slots .lostOrders = w.slots .lostOrders := hbefore.1
        rw [checkPending, hslot, hpending]
        rfl
      have htrades := apart_checkPending tick .trades (by simp) .tradeFills v
      dsimp only
      rw [finalState_bind, hskip]
      exact Apart.trans _ _ _ hbefore htrades
  · exact Apart.refl w

/-- What leaves the lost orders and the status alone, and requests nothing, leaves a download
stuck. -/
theorem Stuck.of_apart {s : Session L D} (h : Stuck s) {w : World L}
    (hstatus : w.connectionStatus = s.world.connectionStatus) (hapart : Apart s.world w)
    (hinFlight : orderDetailsInFlight w = 0) : Stuck { s with world := w } := by
  refine ⟨h.state, hstatus.trans h.downloading, ?_, ?_, hinFlight⟩
  · show L.pending (w.slots .lostOrders) = false
    rw [hapart.1]
    exact h.notPending
  · show L.hasResponse (w.slots .lostOrders) = false
    rw [hapart.1]
    exact h.notCommitted

/-- A check of another state leaves a download stuck. -/
theorem Stuck.check (config : Config) {s : Session L D} (h : Stuck s) {state : State}
    (hne : s.state ≠ state) : Stuck (s.check config state) := by
  obtain ⟨hsame, hstate⟩ := check_other config hne
  exact ⟨hstate.trans h.state, hsame ▸ h.downloading, hsame ▸ h.notPending,
    hsame ▸ h.notCommitted, hsame ▸ h.noneInFlight⟩

/-- **Nothing releases a download that is stuck**, until the websocket session ends. -/
theorem stuck_react (config : Config) {s : Session L D} {e : Event} (h : Stuck s)
    (henabled : enabled s e) (hsession : e.isBoundary = false) :
    Stuck (react config s e) := by
  cases e with
  | login code => simp [Event.isBoundary] at hsession
  | disconnected => simp [Event.isBoundary] at hsession
  | subscribed topic code =>
    cases topic with
    | account => exact h.check config (by simp [h.state])
    | position => exact h.check config (by simp [h.state])
    | order => exact h.check config (by simp [h.state])
    | fill => exact h.check config (by simp [h.state])
    | _ => exact h
  | timer refresh now stale =>
    have hqueue : DropCopy.checkRequestQueue config stale s = s := by
      rw [checkRequestQueue_eq, h.state]
      simp [State.slot, h.notCommitted]
    have hsame : DropCopy.onTimer config refresh now stale s = s := by
      simp [DropCopy.onTimer, hqueue, ready, h.downloading]
    show Stuck (DropCopy.onTimer config refresh now stale s)
    rw [hsame]
    exact h
  | restConnected => exact h.of_apart rfl ⟨rfl, rfl⟩ h.noneInFlight
  | restDisconnected => exact h.of_apart rfl ⟨rfl, rfl⟩ h.noneInFlight
  | restTimer tick =>
    have hsends := sends_onTimer config tick s.world
    have hapart := apart_onTimer config tick h.notPending
    have hcounted := hsends.counted
    have hnone := h.noneInFlight
    have hsame := hapart.2
    exact h.of_apart hsends.connectionStatus hapart (by omega)
  | response sent response =>
    have hnone := h.noneInFlight
    have hother : isOrderDetails sent = false := by
      have hle := isOrderDetails_le henabled.2
      rw [hnone, Nat.le_zero] at hle
      exact Bool.toNat_eq_zero.mp hle
    refine h.of_apart (answers_onResponse config sent response s.world).connectionStatus
      (apart_onResponse config response s.world hother) ?_
    rw [orderDetailsInFlight_onResponse config response henabled.2, hnone, Nat.zero_sub]

/-! ## The download and its lost orders -/

/-- **Lost orders are waited for.** A callback of the lost orders that runs to completion leaves
something to wait for if and only if it finds an order, or there was something before. In every
run in which that is so whenever it runs to completion, and in which every answer on order details
with status `400` can be decoded, the count is the number of requests in flight, and a download
that waits for the lost orders has a request on the queue, a request in flight whose answer is
outstanding, or a response. A request that could not be sent stays on the queue. A download that
has none of the three stays like that until the websocket session ends. -/
theorem lostOrders_released (config : Config)
    (hinterrupted : ∀ r, L.pending r = true → L.pending (L.interrupted r) = true) :
    (∀ (tick : Tick) (w w' : World L), sendLostOrders tick w = .ok () w' →
      (Waiting w' ↔ FindsOne tick ∨ Waiting w)) ∧
    (∀ (h : History Event Action) (s : Session L D),
      Run (system config L D)
          (fun h s e => FindsLostOrders config h s e ∧ DecodesOrderDetails config e) h s →
        s.world.aborted = none →
          s.world.downloadLostOrdersCounter = orderDetailsInFlight s.world ∧
            (s.state = .getLostOrders →
              L.pending (s.world.slots .lostOrders) = true ∨ 0 < orderDetailsInFlight s.world ∨
                s.world.hasResponse .lostOrders = true)) ∧
    ∀ (s : Session L D) (e : Event), Stuck s → enabled s e → e.isBoundary = false →
      Stuck (react config s e) := by
  refine ⟨fun tick w w' => waiting_sendLostOrders, fun h s run haborted => ?_,
    fun s e hstuck => stuck_react config hstuck⟩
  have hcounter : s.world.downloadLostOrdersCounter = orderDetailsInFlight s.world :=
    counter_eq_inFlight (fun _ _ _ hguard => hguard.2) run haborted
  refine ⟨hcounter, fun hstate => ?_⟩
  have hreleasable : Releasable s.world :=
    releasable_of_run hinterrupted (run.mono fun _ _ _ hguard => hguard.1) haborted hstate
  rwa [Releasable, Waiting, hcounter] at hreleasable

/-- A tick that finds the orders of which the predicate says so. -/
def tickFinding (finds : OrderKey → Bool) (order : List OrderKey) : Tick where
  refresh := true
  now := 0
  acceptsHeartbeat := true
  accepts _ := true
  canRequest _ := true
  order := order
  findOrder key := if finds key then some "oAAB" else none

/-- Two lost orders, of which the dispatcher finds one. -/
def oneFound : List Event :=
  .restConnected :: openingEvents 0 ++ [tick [⟨1, 1001⟩, ⟨1, 1002⟩],
    .restTimer (tickFinding (fun key => key.orderId = 1002) [⟨1, 1001⟩, ⟨1, 1002⟩])]

/-- The request for the one is in flight, and the download waits for its answer. -/
theorem oneFound_released :
    0 < orderDetailsInFlight (play simpleSystem oneFound).2.world := by
  have hrun : Run simpleSystem
      (fun h s e => FindsLostOrders simpleConfig h s e ∧ DecodesOrderDetails simpleConfig e)
      (play simpleSystem oneFound).1 (play simpleSystem oneFound).2 := Run.play (by decide +kernel)
  have hreleased := (lostOrders_released simpleConfig fun _ h => h).2.1 _ _ hrun (by decide +kernel)
  rcases hreleased.2 (by decide +kernel) with hpending | hinFlight | hcommitted
  · exact absurd hpending (by decide +kernel)
  · exact hinFlight
  · exact absurd hcommitted (by decide +kernel)

/-- The download of a lost order that the dispatcher does not find any more. -/
def noneFound : List Event := .restConnected :: openingEvents 0 ++ [tick [⟨1, 1001⟩]]

/-- The answer on the one order that is found is a `400` whose body cannot be decoded. -/
def oneUndecodable : List Event :=
  oneFound ++ [.response ⟨4, .orderDetails "oAAB"⟩ ⟨400, .clientError, "", none⟩]

/-- A callback that finds none of the orders runs to completion and leaves nothing to wait for.
An answer that cannot be decoded leaves the count positive, but no answer is outstanding. The
download is stuck after either. -/
theorem lostOrders_stuck :
    (∃ h, ∃ s : Session flags sequencer, ∃ tick, Run simpleSystem anyStep h s ∧
      simpleSystem.enabled s (.restTimer tick) ∧
      (∃ p ∈ lostOrdersCallback simpleConfig tick (fresh s).world, ¬ Waiting p.2) ∧
      (simpleSystem.step s (.restTimer tick)).1.world.inFlight = [] ∧
      ¬ Releasable (simpleSystem.step s (.restTimer tick)).1.world ∧
      Stuck (simpleSystem.step s (.restTimer tick)).1) ∧
    ∃ h, ∃ s : Session flags sequencer, Run simpleSystem anyStep h s ∧
      Waiting s.world ∧ Stuck s :=
  ⟨⟨(play simpleSystem noneFound).1, (play simpleSystem noneFound).2,
      tickFinding (fun _ => false) [⟨1, 1001⟩], Run.play (by decide +kernel), by decide +kernel,
      by decide +kernel, by decide +kernel, by decide +kernel, by decide +kernel,
      by decide +kernel, by decide +kernel, by decide +kernel, by decide +kernel⟩,
    (play simpleSystem oneUndecodable).1, (play simpleSystem oneUndecodable).2,
    Run.play (by decide +kernel), by decide +kernel, by decide +kernel, by decide +kernel,
    by decide +kernel, by decide +kernel, by decide +kernel⟩

end RoqBitget.Gateway
