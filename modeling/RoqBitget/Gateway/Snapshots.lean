import RoqBitget.Gateway.Session

set_option relaxedAutoImplicit false
set_option autoImplicit false

/-!
# Snapshots and their answers

A download asks for a snapshot through a slot, and goes on when the slot has a response. A slot
does not know which request was answered, and an answer is committed however it was processed.
So a response in a slot means that the snapshot was received only if the answers that arrive
while the download waits for it are successful, and answer requests that were made for it.

## Main definitions

* `RoqBitget.Gateway.Owed` — the slot that a download waits for without a response so far.
* `RoqBitget.Gateway.AnsweredIn` — a part of a history contains an answer for a slot.
* `RoqBitget.Gateway.ResponseMeans` — a response in the slot that a download waits for means that
  there was such an answer.
* `RoqBitget.Gateway.AnsweredInTime` — answers that a download waits for are not answers to
  earlier requests.

## Main results

* `RoqBitget.Gateway.responseMeans_move` — every move keeps the meaning of a response.
* `RoqBitget.Gateway.snapshot_answered` — a download leaves a snapshot after an answer to a
  request that was sent since it asked for it, if no answer to an earlier one comes in between.
-/

namespace RoqBitget.Gateway

open RoqBitget.Core Runs DropCopy

variable {L : LimitRequest} {D : Download2 State (World L)}

/-- The slots through which snapshots are requested. -/
def Slot.isSnapshot : Slot → Bool
  | .lostOrders => false
  | _ => true

/-- The download waits for a snapshot through the slot `k`, which has no response so far. -/
def Owed (s : Session L D) (k : Slot) : Prop :=
  k.isSnapshot = true ∧ s.state.slot = some k ∧ s.world.hasResponse k = false

instance (s : Session L D) (k : Slot) : Decidable (Owed s k) :=
  inferInstanceAs (Decidable (_ = true ∧ _ = some k ∧ _ = false))

/-- The request `sent` was sent in some entry of `h`. -/
def SentIn (h : History Event Action) (sent : Sent) : Prop :=
  ∃ entry ∈ h, Action.send sent ∈ entry.actions

instance (h : History Event Action) (sent : Sent) : Decidable (SentIn h sent) :=
  inferInstanceAs (Decidable (∃ entry ∈ h, Action.send sent ∈ entry.actions))

/-- A larger history contains what a smaller one does. -/
theorem SentIn.mono {h h' : History Event Action} {sent : Sent} (hle : h ⊆ h')
    (hsent : SentIn h sent) : SentIn h' sent := by
  obtain ⟨entry, hmem, haction⟩ := hsent
  exact ⟨entry, hle hmem, haction⟩

section AnsweredIn

variable (P : History Event Action → Sent → Response → Prop)

/-- The event is an answer for the slot `k`, and `P` holds of it in the history `h`. -/
def IsAnswer (h : History Event Action) (k : Slot) : Event → Prop
  | .response sent response => sent.endpoint.slot = k ∧ P h sent response
  | _ => False

/-- In `h` there is an answer for the slot `k` that satisfies `P`. -/
def AnsweredIn (h : History Event Action) (k : Slot) : Prop :=
  ∃ entry ∈ h, IsAnswer P h k entry.event

instance [∀ h sent response, Decidable (P h sent response)] (h : History Event Action) (k : Slot) :
    (e : Event) → Decidable (IsAnswer P h k e)
  | .response sent response => inferInstanceAs (Decidable (_ = k ∧ P h sent response))
  | .login _ | .subscribed _ _ | .disconnected | .timer _ _ _ | .restConnected
  | .restDisconnected | .restTimer _ => isFalse id

instance [∀ h sent response, Decidable (P h sent response)] (h : History Event Action) (k : Slot) :
    Decidable (AnsweredIn P h k) :=
  inferInstanceAs (Decidable (∃ entry ∈ h, IsAnswer P h k entry.event))

/-- What holds of an answer keeps holding as the history grows. -/
def Kept : Prop :=
  ∀ ⦃h h' : History Event Action⦄, h ⊆ h' → ∀ sent response, P h sent response →
    P h' sent response

variable {P}

/-- A larger history contains the answers of a smaller one. -/
theorem AnsweredIn.mono (hkept : Kept P) {h h' : History Event Action} {k : Slot} (hle : h ⊆ h')
    (hanswered : AnsweredIn P h k) : AnsweredIn P h' k := by
  obtain ⟨entry, hmem, hanswer⟩ := hanswered
  refine ⟨entry, hle hmem, ?_⟩
  cases hevent : entry.event with
  | response sent response =>
    rw [hevent] at hanswer
    exact ⟨hanswer.1, hkept hle sent response hanswer.2⟩
  | _ =>
    rw [hevent] at hanswer
    exact hanswer.elim

end AnsweredIn

/-! ## What a response means -/

/-- The slot that the download waits for has a response only if an answer that satisfies `P`
has arrived in the part of the history that counts for the slot. -/
def ResponseMeans (P : History Event Action → Sent → Response → Prop)
    (window : Slot → History Event Action) (s : Session L D) : Prop :=
  ∀ k, k.isSnapshot = true → s.state.slot = some k → s.world.hasResponse k = true →
    AnsweredIn P (window k) k

variable {config : Config} {s s' : Session L D} {e : Event}
  {P : History Event Action → Sent → Response → Prop}

/-- **Step lemma.** A response keeps its meaning, if an answer that the download waits for
satisfies `P`. -/
theorem responseMeans_move (hkept : Kept P) {window window' : Slot → History Event Action}
    (hmeans : ResponseMeans P window s)
    (hstatus : s.state.waits = true → s.world.connectionStatus = .downloading)
    (hmove : Move config s e s') (haborted : s'.world.aborted = none)
    (hgrows : e.isBoundary = false → downloadActions s'.world = downloadActions s.world →
      ∀ k, window' k = ⟨e, s'.world.actions⟩ :: window k)
    (hguard : ∀ sent response, e = .response sent response → Owed s sent.endpoint.slot →
      P (window sent.endpoint.slot) sent response) :
    ResponseMeans P window' s' := by
  intro k hsnapshot hslot hresponse
  cases hmove with
  | aborted fatal hfatal => simp [hfatal] at haborted
  | began _ hstate henters =>
    rw [henters.hasResponse, if_pos (hstate ▸ hslot)] at hresponse
    simp at hresponse
  | reset _ hstate => simp [hstate, State.slot] at hslot
  | completed next' w _ _ _ _ hstate henters =>
    rw [henters.hasResponse, if_pos (hstate ▸ hslot)] at hresponse
    simp at hresponse
  | finished w _ _ _ hstate _ => simp [State.waits, hslot] at hstate
  | regular _ hready hstate _ =>
    have hwaits : s.state.waits = true := by simp [State.waits, ← hstate, hslot]
    simp [hstatus hwaits] at hready
  | quiet hsession hstate _ _ hperformed _ hquiet =>
    have hbefore : s.state.slot = some k := hstate ▸ hslot
    have hwindow := hgrows hsession hperformed k
    have hle : window k ⊆ window' k := by
      rw [hwindow]
      exact List.subset_cons_self _ _
    by_cases hhad : s.world.hasResponse k = true
    · exact (hmeans k hsnapshot hbefore hhad).mono hkept hle
    · -- the response has just arrived
      rcases hquiet k with hsame | ⟨sent, response, rfl, rfl⟩
      · exact absurd (hsame.symm.trans hresponse) hhad
      · have hP := hguard sent response rfl ⟨hsnapshot, hbefore, by simpa using hhad⟩
        exact ⟨⟨.response sent response, s'.world.actions⟩, by simp [hwindow], rfl,
          hkept hle _ _ hP⟩

/-! ## Leaving a snapshot -/

/-- An answer that the download waits for answers a request that was sent since the download
asked for the snapshot. -/
def AnsweredInTime (h : History Event Action) (s : Session L D) : Event → Prop
  | .response sent _ =>
    Owed s sent.endpoint.slot → SentIn (since (requests sent.endpoint.slot) h) sent
  | _ => True

instance (h : History Event Action) (s : Session L D) :
    (e : Event) → Decidable (AnsweredInTime h s e)
  | .response sent _ =>
    inferInstanceAs (Decidable (Owed s sent.endpoint.slot →
      SentIn (since (requests sent.endpoint.slot) h) sent))
  | .login _ | .subscribed _ _ | .disconnected | .timer _ _ _ | .restConnected
  | .restDisconnected | .restTimer _ => isTrue trivial

/-- The slot `k` was requested in `h`, and the websocket session has not ended since. -/
def Asked (k : Slot) (h : History Event Action) : Prop :=
  ∃ entry after, since (requests k) h = after ++ [entry] ∧ requests k entry = true ∧
    ∀ x ∈ after, x.event.isBoundary = false

/-- A reaction that performs no action of a download makes no request. -/
theorem requests_eq_false {w : World L} (k : Slot) (h : downloadActions w = []) :
    requests k ⟨e, w.actions⟩ = false := by
  have hnone : Action.request k ∉ w.actions := fun hmem => by
    have hdownload : Action.request k ∈ downloadActions w := List.mem_filter.mpr ⟨hmem, rfl⟩
    simp [h] at hdownload
  simpa [requests] using hnone

/-- Entering a state that waits for a slot requests it. -/
theorem requests_of_enters {state : State} {w : World L} {k : Slot} (hslot : state.slot = some k)
    (h : Enters state w s'.world) : requests k ⟨e, s'.world.actions⟩ = true := by
  have hdownload : Action.request k ∈ downloadActions s'.world := by
    rw [h.performed, performed_of_slot hslot]
    simp
  simpa [requests] using List.mem_of_mem_filter hdownload

/-- **Step lemma.** A download waits for a slot that it has asked for in its session. -/
theorem asked_move {h : History Event Action} (hasked : ∀ k, s.state.slot = some k → Asked k h)
    (hs : downloadActions s.world = [])
    (hstatus : s.state.waits = true → s.world.connectionStatus = .downloading)
    (hmove : Move config s e s') (haborted : s'.world.aborted = none) (k : Slot)
    (hslot : s'.state.slot = some k) : Asked k (⟨e, s'.world.actions⟩ :: h) := by
  have hentered : ∀ {state : State} {w : World L}, s'.state = state → Enters state w s'.world →
      Asked k (⟨e, s'.world.actions⟩ :: h) := by
    intro state w hstate henters
    have hrequests : requests k ⟨e, s'.world.actions⟩ = true :=
      requests_of_enters (hstate ▸ hslot) henters
    exact ⟨⟨e, s'.world.actions⟩, [], by rw [since_cons_of_pos _ hrequests]; rfl, hrequests,
      by simp⟩
  cases hmove with
  | aborted fatal hfatal => simp [hfatal] at haborted
  | began _ hstate henters => exact hentered hstate henters
  | reset _ hstate => simp [hstate, State.slot] at hslot
  | completed next' w _ _ _ _ hstate henters => exact hentered hstate henters
  | finished w _ _ _ hstate _ => simp [State.waits, hslot] at hstate
  | regular _ hready hstate _ =>
    have hwaits : s.state.waits = true := by simp [State.waits, ← hstate, hslot]
    simp [hstatus hwaits] at hready
  | quiet hsession hstate _ _ hperformed _ _ =>
    obtain ⟨entry, after, hsince, hrequests, hafter⟩ := hasked k (hstate ▸ hslot)
    refine ⟨entry, ⟨e, s'.world.actions⟩ :: after, ?_, hrequests, ?_⟩
    · rw [since_cons_of_neg _ (requests_eq_false k (hperformed.trans hs)), hsince]
      rfl
    · intro x hx
      rcases List.mem_cons.mp hx with rfl | hx
      · exact hsession
      · exact hafter x hx

/-- What holds in every state of a run whose answers arrive in time. -/
structure InTime (h : History Event Action) (s : Session L D) : Prop where
  asked : ∀ k, s.state.slot = some k → Asked k h
  answered : ResponseMeans (fun h sent _ => SentIn h sent) (fun k => since (requests k) h) s

/-- **Run lemma.** Until the process ends, a response means that a request was answered that was
sent since the download asked for the snapshot. -/
theorem inTime_of_run (hmaster : config.master = true) {h : History Event Action}
    (run : Run (system config L D) AnsweredInTime h s) (haborted : s.world.aborted = none) :
    InTime h s := by
  refine invariant_of_moves hmaster (P := InTime) ?_ ?_ run haborted
  · exact ⟨fun k h => by simp [State.slot] at h, fun k _ h => by simp [State.slot] at h⟩
  · intro h s e hin hstatus hguard hmove hafter
    refine ⟨asked_move (s := fresh s) hin.asked rfl hstatus hmove hafter, ?_⟩
    have hkept : Kept fun h sent _ => SentIn h sent := fun _ _ hle _ _ => SentIn.mono hle
    have hmeans : ResponseMeans (fun h sent _ => SentIn h sent)
      (fun k => since (requests k) h) (fresh s) := hin.answered
    refine responseMeans_move hkept hmeans hstatus hmove hafter ?_ ?_
    · intro _ hperformed k
      exact since_cons_of_neg _ (requests_eq_false k hperformed) h
    · rintro sent response rfl howed
      exact hguard howed

/-- A download leaves a snapshot within its session only if the slot has a response. -/
theorem hasResponse_of_leaves (hmove : Move config s e s') (hsession : e.isBoundary = false)
    {k : Slot} (hslot : s.state.slot = some k) (hleaves : s'.state ≠ s.state) :
    s.world.hasResponse k = true := by
  have hcaused : Cause s e → s.world.hasResponse k = true := by
    intro hcause
    cases hcause with
    | acknowledged topic code htopic =>
      cases hstate : s.state <;> simp [hstate, State.slot, State.topic] at hslot htopic
    | responded refresh now stale slot hslot' hresponse =>
      obtain rfl : slot = k := Option.some.inj (hslot'.symm.trans hslot)
      exact hresponse
  cases hmove with
  | aborted _ _ hstate => exact absurd hstate hleaves
  | began he => simp [he, Event.isBoundary] at hsession
  | reset he => simp [he, Event.isBoundary] at hsession
  | completed _ _ hcause => exact hcaused hcause
  | finished _ hcause => exact hcaused hcause
  | regular _ _ hstate => exact absurd hstate hleaves
  | quiet _ hstate => exact absurd hstate hleaves

/-- **A snapshot is left when it was answered.** In a run in which every answer that the download
waits for answers a request that was sent since the download asked for the snapshot, a step of
the websocket session leaves a state that requests a snapshot only after such an answer: the
state asked for the snapshot in this session, and since then a request was sent for it and
answered. -/
theorem snapshot_answered (hmaster : config.master = true) {h : History Event Action}
    (run : Run (system config L D) AnsweredInTime h s) (henabled : enabled s e)
    (hsession : e.isBoundary = false) {k : Slot} (hsnapshot : k.isSnapshot = true)
    (hslot : s.state.slot = some k)
    (hleaves : (react config (fresh s) e).state ≠ s.state) :
    Asked k h ∧ AnsweredIn (fun h sent _ => SentIn h sent) (since (requests k) h) k := by
  have hin := inTime_of_run hmaster run henabled.1
  have hmove : Move config (fresh s) e (react config (fresh s) e) := move_react hmaster e
  have hresponse : s.world.hasResponse k = true :=
    hasResponse_of_leaves (s := fresh s) hmove hsession hslot hleaves
  exact ⟨hin.asked k hslot, hin.answered k hsnapshot hslot hresponse⟩

/-- The beginning of a download in which the account is answered in time. -/
def accountInTime : List Event :=
  [.restConnected, .login 0, sendBelow 100 [],
    .response ⟨0, .accountSettings⟩ (answer "ok")]

/-- The next tick leaves the account, and it was answered. -/
theorem accountInTime_answered :
    Asked .account (play simpleSystem accountInTime).1 ∧
      AnsweredIn (fun h sent _ => SentIn h sent)
        (since (requests .account) (play simpleSystem accountInTime).1) .account :=
  snapshot_answered (e := tick []) (s := (play simpleSystem accountInTime).2) rfl
    (Run.play (by decide +kernel)) (by decide +kernel) rfl rfl (by decide +kernel)
    (by decide +kernel)

/-- The websocket is reconnected while the account is requested. The request of the second
session has not been sent when the answer to that of the first one arrives. -/
def accountTooLate : List Event :=
  [.restConnected, .login 0, sendBelow 100 [], .disconnected, .login 0,
    .response ⟨0, .accountSettings⟩ (answer "ok")]

/-- The next tick leaves the account although nothing has been sent since it was requested. -/
theorem accountTooLate_leaves :
    ∃ h, ∃ s : Session flags sequencer, Run simpleSystem anyStep h s ∧ enabled s (tick []) ∧
      s.state.slot = some .account ∧
      (react simpleConfig (fresh s) (tick [])).state = .subscribeBalances ∧
      ¬ AnsweredIn (fun h sent _ => SentIn h sent) (since (requests .account) h) .account :=
  ⟨(play simpleSystem accountTooLate).1, (play simpleSystem accountTooLate).2,
    Run.play (by decide +kernel), by decide +kernel, by decide +kernel, by decide +kernel,
    by decide +kernel⟩

end RoqBitget.Gateway
