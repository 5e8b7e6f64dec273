import Mathlib.Data.Finset.Lattice.Lemmas
import RoqBitget.Foundations.Pacing
import RoqBitget.Gateway.Session

set_option relaxedAutoImplicit false
set_option autoImplicit false

/-!
# The regular look at the stale orders

A master looks at the stale orders once during a download, before it asks for the lost orders, and
from then on whenever ten seconds have passed and it is ready. What it finds becomes a lost order,
and the lost orders are asked for if there are new ones.

## Main definitions

* `RoqBitget.Gateway.looksRegularly` — the actions of a tick include a regular look.
* `RoqBitget.Gateway.lookTimes` — the times of the regular looks.
* `RoqBitget.Gateway.Ready` — the stream is ready after a tick.

## Main results

* `RoqBitget.Gateway.tick_cases` — what a tick of a master does to the regular looks.
* `RoqBitget.Gateway.staleOrders_paced` — when the stream looks, and what it does then.
-/

namespace RoqBitget.Gateway

open RoqBitget.Core Runs DropCopy

/-- A look at the stale orders. -/
def isLook : Action → Bool
  | .checkStaleOrders _ => true
  | _ => false

/-- The download enters a state. -/
def isDownloading : Action → Bool
  | .publish .downloading _ => true
  | _ => false

/-- The actions of a tick include a regular look: after the look of a download, which is the only
other one, the download always goes on. -/
def looksRegularly (actions : List Action) : Bool :=
  actions.any isLook && !actions.any isDownloading

/-- The times of the regular looks, latest first. -/
def lookTimes (h : History Event Action) : List Nanoseconds :=
  h.filterMap fun entry =>
    match entry.event with
    | .timer _ now _ => if looksRegularly entry.actions then some now else none
    | _ => none

variable {L : LimitRequest} {D : Download2 State (World L)} {config : Config} {s : Session L D}

/-! ## The first half of a tick -/

/-- Entering a state looks at nothing. -/
theorem download_looks (config : Config) (state : State) (w : World L) :
    (download config state w).2.nextCheckStaleOrders = w.nextCheckStaleOrders ∧
      (download config state w).2.actions.any isLook = w.actions.any isLook := by
  have hrequest : ∀ slot reason, (request slot (downloading reason w)).nextCheckStaleOrders =
      w.nextCheckStaleOrders ∧
      (request slot (downloading reason w)).actions.any isLook = w.actions.any isLook := by
    intro slot reason
    simp [request, downloading, onConnectionStatus, World.act, World.updateSlot, isLook]
  have hsubscribe : ∀ topic reason, (subscribe topic (downloading reason w)).nextCheckStaleOrders =
      w.nextCheckStaleOrders ∧
      (subscribe topic (downloading reason w)).actions.any isLook = w.actions.any isLook := by
    intro topic reason
    simp [subscribe, downloading, onConnectionStatus, World.act, isLook]
  cases state with
  | getAccount => exact hrequest _ _
  | getBalances => exact hrequest _ _
  | getCurrentPositions => exact hrequest _ _
  | getOpenOrders => exact hrequest _ _
  | subscribeBalances => exact hsubscribe _ _
  | subscribePositions => exact hsubscribe _ _
  | subscribeOrders => exact hsubscribe _ _
  | subscribeTrades => exact hsubscribe _ _
  | getLostOrders =>
    rw [download]
    split_ifs
    · exact ⟨rfl, rfl⟩
    · exact hrequest _ _
  | getTrades =>
    rw [download]
    split_ifs
    · exact hrequest _ _
    · exact ⟨rfl, rfl⟩
  | undefined => exact ⟨rfl, rfl⟩
  | done => simp [download, onConnectionStatus, World.act, isLook]

/-- After the open orders the download goes on. -/
theorem advance_getOpenOrders (config : Config) (w : World L) :
    (advance config .getOpenOrders w).connectionStatus = .downloading ∧
      (advance config .getOpenOrders w).actions.any isDownloading = true := by
  by_cases hdetails : w.detailsLostOrders = ∅
  · have hnext : next config w.detailsLostOrders .getOpenOrders = some .subscribeTrades := by
      rw [next, if_pos hdetails]
    rw [advance, hnext, Option.getD_some, download]
    simp [DropCopy.subscribe, downloading, onConnectionStatus, World.act, isDownloading]
  · have hnext : next config w.detailsLostOrders .getOpenOrders = some .getLostOrders := by
      rw [next, if_neg hdetails]
    rw [advance, hnext, Option.getD_some, download, if_neg hdetails]
    simp [DropCopy.request, downloading, onConnectionStatus, World.act, World.updateSlot,
      isDownloading]

/-- **The first half of a tick.** It ends the process, leaves everything as it is, completes the
download, or enters a state. -/
theorem checkRequestQueue_cases (config : Config) (stale : List OrderKey)
    (hactions : s.world.actions = []) :
    let w := (DropCopy.checkRequestQueue config stale s).world
    (w = s.world ∨ w = onConnectionStatus .ready "" s.world) ∨
      (w.aborted.isSome ∨ w.connectionStatus = .downloading) ∧
        looksRegularly w.actions = false ∧
        w.nextCheckStaleOrders = s.world.nextCheckStaleOrders := by
  dsimp only
  rw [checkRequestQueue_eq]
  cases hslot : s.state.slot with
  | none => exact .inl (.inl rfl)
  | some k =>
    have hwaits : s.state.waits = true := by simp [State.waits, hslot]
    dsimp only
    split_ifs with hresponse hlost hopen
    · right
      refine ⟨.inl rfl, ?_, rfl⟩
      show looksRegularly s.world.actions = false
      rw [hactions]
      rfl
    · right
      rw [(check_current config (s := { s with world := (checkStaleOrders stale s.world).2 })
        hwaits rfl).1, hopen]
      obtain ⟨hstatus, hdownloading⟩ :=
        advance_getOpenOrders config (checkStaleOrders stale s.world).2
      refine ⟨.inr hstatus, by rw [looksRegularly, hdownloading, Bool.not_true, Bool.and_false], ?_⟩
      exact (download_looks config _ _).1
    · rw [(check_current config (s := s) hwaits rfl).1]
      cases hnext : next config s.world.detailsLostOrders s.state with
      | none => exact .inl (.inr (advance_of_none hnext))
      | some next' =>
        right
        obtain ⟨-, henters⟩ := advance_of_some hnext
        have hlooks := download_looks config
          ((next config s.world.detailsLostOrders s.state).getD .done) s.world
        refine ⟨.inr henters.connectionStatus, ?_, hlooks.1⟩
        rw [looksRegularly, advance, hlooks.2, hactions]
        rfl
    · exact .inl (.inl rfl)

/-! ## A look -/

/-- A look adds the stale orders to the lost ones, and counts those that are new. -/
theorem foldl_insertStale (stale : List OrderKey) (details : Finset OrderKey) (counter : ℕ) :
    (stale.foldl insertStale (details, counter)).1 = details ∪ stale.toFinset ∧
      counter ≤ (stale.foldl insertStale (details, counter)).2 ∧
      ((stale.foldl insertStale (details, counter)).2 = counter ↔ stale.toFinset ⊆ details) := by
  induction stale generalizing details counter with
  | nil => simp
  | cons key stale ih =>
    rw [List.foldl_cons, List.toFinset_cons, insertStale]
    dsimp only
    split_ifs with hkey
    · obtain ⟨hdetails, hle, hcount⟩ := ih details counter
      refine ⟨?_, hle, ?_⟩
      · rw [hdetails, Finset.union_insert, Finset.insert_eq_of_mem]
        exact Finset.mem_union_left _ hkey
      · rw [hcount, Finset.insert_subset_iff]
        exact (and_iff_right hkey).symm
    · obtain ⟨hdetails, hle, -⟩ := ih (insert key details) (counter + 1)
      refine ⟨?_, by omega, iff_of_false (by omega) ?_⟩
      · rw [hdetails, Finset.insert_union, Finset.union_insert]
      · rw [Finset.insert_subset_iff]
        exact fun h => hkey h.1

/-- What a regular look does when its time has come. -/
structure Looked (stale : List OrderKey) (now : Nanoseconds) (w w' : World L) : Prop where
  connectionStatus : w'.connectionStatus = w.connectionStatus
  aborted : w'.aborted = w.aborted
  nextCheckStaleOrders : w'.nextCheckStaleOrders = now + checkStaleOrdersFreq
  detailsLostOrders : w'.detailsLostOrders = w.detailsLostOrders ∪ stale.toFinset
  actions : w'.actions = w.actions ++ .checkStaleOrders w'.detailsLostOrders ::
    if stale.toFinset ⊆ w.detailsLostOrders then [] else [.request .lostOrders]

/-- **A regular look.** -/
theorem looked_checkStaleOrdersRegularly {now : Nanoseconds} {w : World L}
    (hdue : w.nextCheckStaleOrders < now) (stale : List OrderKey) :
    Looked stale now w (checkStaleOrdersRegularly now stale w) := by
  obtain ⟨hdetails, -, hcount⟩ := foldl_insertStale stale w.detailsLostOrders 0
  unfold checkStaleOrdersRegularly checkStaleOrders
  rw [if_pos hdue]
  dsimp only
  by_cases hnew : stale.toFinset ⊆ w.detailsLostOrders
  · rw [if_neg (by simpa using hcount.mpr hnew)]
    exact ⟨rfl, rfl, rfl, hdetails, by rw [if_pos hnew]; rfl⟩
  · rw [if_pos (by simpa using fun h => hnew (hcount.mp h))]
    refine ⟨rfl, rfl, rfl, hdetails, ?_⟩
    rw [if_neg hnew]
    simp [request, World.act, World.updateSlot]

/-! ## A tick -/

/-- The stream is ready, and the process goes on. -/
def Ready (s : Session L D) : Prop := s.world.connectionStatus = .ready ∧ s.world.aborted = none

/-- A tick with a regular look. -/
structure Looking (refresh : Bool) (now : Nanoseconds) (stale : List OrderKey)
    (s s' : Session L D) : Prop where
  due : refresh = true ∧ Ready s' ∧ s.world.nextCheckStaleOrders < now
  looks : looksRegularly s'.world.actions = true
  nextCheckStaleOrders : s'.world.nextCheckStaleOrders = now + checkStaleOrdersFreq
  detailsLostOrders : s'.world.detailsLostOrders = s.world.detailsLostOrders ∪ stale.toFinset
  request : .request .lostOrders ∈ s'.world.actions ↔ ¬ stale.toFinset ⊆ s.world.detailsLostOrders

/-- A tick without a regular look. -/
structure NotLooking (refresh : Bool) (now : Nanoseconds) (s s' : Session L D) : Prop where
  due : ¬ (refresh = true ∧ Ready s' ∧ s.world.nextCheckStaleOrders < now)
  looks : looksRegularly s'.world.actions = false
  nextCheckStaleOrders : s'.world.nextCheckStaleOrders = s.world.nextCheckStaleOrders

/-- After a first half of a tick that does not enter a state, the stream looks if it is ready and
the time has come. -/
theorem looking_second (now : Nanoseconds) (stale : List OrderKey) {s' : Session L D} {w : World L}
    (hs : s'.world = if ready w then checkStaleOrdersRegularly now stale w else w)
    (haborted : w.aborted = none) (hnext : w.nextCheckStaleOrders = s.world.nextCheckStaleOrders)
    (hdetails : w.detailsLostOrders = s.world.detailsLostOrders)
    (hactions : w.actions = [] ∨ w.actions = [.publish .ready ""]) :
    Looking true now stale s s' ∨ NotLooking true now s s' := by
  have hquiet : looksRegularly w.actions = false := by
    rcases hactions with h | h <;> rw [h] <;> rfl
  by_cases hready : ready w = true
  · rw [if_pos hready] at hs
    have hstatus : w.connectionStatus = .ready := by simpa [ready] using hready
    by_cases hdue : w.nextCheckStaleOrders < now
    · left
      have hlooked := looked_checkStaleOrdersRegularly hdue stale
      rw [← hs] at hlooked
      refine ⟨⟨rfl, ⟨hlooked.connectionStatus.trans hstatus, hlooked.aborted.trans haborted⟩,
        hnext ▸ hdue⟩, ?_, hlooked.nextCheckStaleOrders, hdetails ▸ hlooked.detailsLostOrders, ?_⟩
      · rw [hlooked.actions]
        rcases hactions with h | h <;> rw [h] <;> split_ifs <;> rfl
      · rw [hlooked.actions, hdetails]
        rcases hactions with h | h <;> rw [h] <;> split_ifs with hnew <;> simp [hnew]
    · right
      rw [checkStaleOrdersRegularly, if_neg hdue] at hs
      exact ⟨fun h => hdue (hnext ▸ h.2.2), hs ▸ hquiet, by rw [hs, hnext]⟩
  · right
    rw [if_neg hready] at hs
    refine ⟨fun h => hready ?_, hs ▸ hquiet, by rw [hs, hnext]⟩
    rw [ready, ← hs]
    exact decide_eq_true h.2.1.1

/-- **What a tick of a master does to the regular looks.** -/
theorem tick_cases (hmaster : config.master = true) (hactions : s.world.actions = [])
    (haborted : s.world.aborted = none) (refresh : Bool) (now : Nanoseconds)
    (stale : List OrderKey) :
    Looking refresh now stale s (DropCopy.onTimer config refresh now stale s) ∨
      NotLooking refresh now s (DropCopy.onTimer config refresh now stale s) := by
  cases refresh with
  | false =>
    right
    refine ⟨by simp, ?_, rfl⟩
    show looksRegularly s.world.actions = false
    rw [hactions]
    rfl
  | true =>
    have honTimer : DropCopy.onTimer config true now stale s =
        let q := DropCopy.checkRequestQueue config stale s
        if q.world.aborted.isSome then q
        else if ready q.world then
          { q with world := checkStaleOrdersRegularly now stale q.world }
        else q := by
      rw [DropCopy.onTimer, hmaster]
      rfl
    rcases checkRequestQueue_cases config stale hactions with hsame | ⟨hends, hquiet, hnext⟩
    · obtain ⟨hrunning, hnext, hdetails, hdone⟩ :
          (DropCopy.checkRequestQueue config stale s).world.aborted = none ∧
            (DropCopy.checkRequestQueue config stale s).world.nextCheckStaleOrders =
              s.world.nextCheckStaleOrders ∧
            (DropCopy.checkRequestQueue config stale s).world.detailsLostOrders =
              s.world.detailsLostOrders ∧
            ((DropCopy.checkRequestQueue config stale s).world.actions = [] ∨
              (DropCopy.checkRequestQueue config stale s).world.actions =
                [.publish .ready ""]) := by
        rcases hsame with h | h
        · rw [h]
          exact ⟨haborted, rfl, rfl, .inl hactions⟩
        · rw [h]
          refine ⟨haborted, rfl, rfl, .inr ?_⟩
          simp [onConnectionStatus, World.act, hactions]
      refine looking_second now stale ?_ hrunning hnext hdetails hdone
      rw [honTimer]
      dsimp only
      rw [hrunning, Option.isSome_none, if_neg Bool.false_ne_true]
      split_ifs
      · rfl
      · rfl
    · right
      have hhalf : DropCopy.onTimer config true now stale s =
          DropCopy.checkRequestQueue config stale s := by
        rw [honTimer]
        dsimp only
        split_ifs with haborts hready
        · rfl
        · rcases hends with h | h
          · exact absurd h haborts
          · rw [ready, h] at hready
            simp at hready
        · rfl
      rw [hhalf]
      refine ⟨?_, hquiet, hnext⟩
      rintro ⟨-, ⟨hready, hrunning⟩, -⟩
      rcases hends with h | h
      · rw [hrunning] at h
        simp at h
      · rw [hready] at h
        simp at h

/-! ## Runs -/

/-- Only ticks change the time of the next regular look. -/
theorem nextCheckStaleOrders_react (config : Config) (s : Session L D) {e : Event}
    (he : ∀ refresh now stale, e ≠ .timer refresh now stale) :
    (react config s e).world.nextCheckStaleOrders = s.world.nextCheckStaleOrders := by
  have hcheck : ∀ state, state.waits = true →
      (s.check config state).world.nextCheckStaleOrders = s.world.nextCheckStaleOrders := by
    intro state hwaits
    by_cases hstate : s.state = state
    · rw [(check_current config hwaits hstate).1]
      exact (download_looks config _ s.world).1
    · rw [(check_other config hstate).1]
  cases e with
  | timer refresh now stale => exact absurd rfl (he refresh now stale)
  | login code =>
    simp only [react, onLogin]
    split_ifs
    · rfl
    · rw [(begin_eq config s).1]
      rfl
    · rfl
  | subscribed topic code =>
    cases topic with
    | account => exact hcheck _ rfl
    | position => exact hcheck _ rfl
    | order => exact hcheck _ rfl
    | fill => exact hcheck _ rfl
    | _ => rfl
  | restTimer tick => exact (OrderEntry.sends_onTimer config tick s.world).nextCheckStaleOrders
  | response sent response =>
    exact (OrderEntry.answers_onResponse config sent response s.world).nextCheckStaleOrders
  | _ => rfl

section Run

variable {ok : History Event Action → Session L D → Event → Prop} {h : History Event Action}

/-- A tick adds its time if it looks regularly. -/
theorem lookTimes_timer (refresh : Bool) (now : Nanoseconds) (stale : List OrderKey)
    (actions : List Action) (h : History Event Action) :
    lookTimes (⟨.timer refresh now stale, actions⟩ :: h) =
      if looksRegularly actions then now :: lookTimes h else lookTimes h := by
  rw [lookTimes, List.filterMap_cons]
  cases looksRegularly actions <;> rfl

/-- **The pace of the regular looks** is kept in every run of a master. -/
theorem paced_lookTimes (hmaster : config.master = true) (run : Run (system config L D) ok h s) :
    Pacing.Paced checkStaleOrdersFreq (lookTimes h) s.world.nextCheckStaleOrders := by
  refine run.invariant (P := fun h s =>
    Pacing.Paced checkStaleOrdersFreq (lookTimes h) s.world.nextCheckStaleOrders) (.init _) ?_
  intro h s e _ hpaced henabled _
  by_cases he : ∀ refresh now stale, e ≠ .timer refresh now stale
  · have hnext := nextCheckStaleOrders_react config (fresh s) he
    have htimes : lookTimes (⟨e, ((system config L D).step s e).2⟩ :: h) = lookTimes h := by
      cases e with
      | timer refresh now stale => exact absurd rfl (he refresh now stale)
      | _ => rfl
    rw [htimes]
    exact hnext.symm ▸ hpaced
  · push Not at he
    obtain ⟨refresh, now, stale, rfl⟩ := he
    rw [lookTimes_timer]
    show Pacing.Paced _ (if looksRegularly (DropCopy.onTimer config refresh now stale
        (fresh s)).world.actions then now :: lookTimes h else lookTimes h)
      (DropCopy.onTimer config refresh now stale (fresh s)).world.nextCheckStaleOrders
    rcases tick_cases hmaster (s := fresh s) rfl henabled.1 refresh now stale with hlook | hnone
    · have hattempt := hpaced.attempt now
      have hdue : s.world.nextCheckStaleOrders < now := hlook.due.2.2
      rw [Pacing.done, Pacing.next, if_pos hdue, if_pos hdue] at hattempt
      rw [hlook.looks, hlook.nextCheckStaleOrders]
      exact hattempt
    · rw [hnone.looks, hnone.nextCheckStaleOrders]
      exact hpaced

/-- **When a master looks at the stale orders, and what it does then.** In every run, two regular
looks are more than ten seconds apart, and none is left out: a tick looks exactly if the
connection is up, the stream is ready afterwards, and the last look was more than ten seconds
before, or there was none. A look makes lost orders of all stale ones, and asks for the lost
orders exactly if some of them are new. -/
theorem staleOrders_paced (hmaster : config.master = true)
    (run : Run (system config L D) ok h s) (haborted : s.world.aborted = none) :
    (lookTimes h).IsChain (fun later earlier => earlier + checkStaleOrdersFreq < later) ∧
      ∀ refresh now stale,
        let r := (system config L D).step s (.timer refresh now stale)
        (looksRegularly r.2 = true ↔ refresh = true ∧ Ready r.1 ∧
          (lookTimes h).head?.elim (0 < now) (· + checkStaleOrdersFreq < now)) ∧
        (looksRegularly r.2 = true →
          r.1.world.detailsLostOrders = s.world.detailsLostOrders ∪ stale.toFinset ∧
          (.request .lostOrders ∈ r.2 ↔ ¬ stale.toFinset ⊆ s.world.detailsLostOrders)) := by
  have hpaced := paced_lookTimes hmaster run
  refine ⟨hpaced.spaced, fun refresh now stale => ?_⟩
  dsimp only
  rw [← hpaced.lt_iff now]
  rcases tick_cases hmaster (s := fresh s) rfl haborted refresh now stale with hlook | hnone
  · exact ⟨iff_of_true hlook.looks hlook.due, fun _ => ⟨hlook.detailsLostOrders, hlook.request⟩⟩
  · show (looksRegularly (DropCopy.onTimer config refresh now stale (fresh s)).world.actions = true
      ↔ _) ∧ (looksRegularly (DropCopy.onTimer config refresh now stale
        (fresh s)).world.actions = true → _)
    rw [hnone.looks]
    exact ⟨iff_of_false Bool.false_ne_true hnone.due, fun h => absurd h Bool.false_ne_true⟩

end Run

/-- After a download that ends one second after the epoch, a stale order is found eleven seconds
later. -/
theorem fullDownload_looks :
    lookTimes (play simpleSystem fullDownload).1 = [seconds 1] ∧
      .request .lostOrders ∈
        (simpleSystem.step (play simpleSystem fullDownload).2
          (.timer true (seconds 12) [⟨1, 7⟩])).2 := by
  have hrun : Run simpleSystem anyStep (play simpleSystem fullDownload).1
      (play simpleSystem fullDownload).2 := Run.play (by decide +kernel)
  have htimes : lookTimes (play simpleSystem fullDownload).1 = [seconds 1] := by decide +kernel
  obtain ⟨hlooks, heffect⟩ :=
    (staleOrders_paced rfl hrun (by decide +kernel)).2 true (seconds 12) [⟨1, 7⟩]
  have hdue : Ready (simpleSystem.step (play simpleSystem fullDownload).2
      (.timer true (seconds 12) [⟨1, 7⟩])).1 := ⟨by decide +kernel, by decide +kernel⟩
  refine ⟨htimes, (heffect (hlooks.mpr ⟨rfl, hdue, ?_⟩)).2.mpr (by decide +kernel)⟩
  rw [htimes]
  show seconds 1 + seconds 10 < seconds 12
  decide

end RoqBitget.Gateway
