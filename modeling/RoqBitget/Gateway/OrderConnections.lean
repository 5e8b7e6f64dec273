import RoqBitget.Api
import RoqBitget.Foundations.Effects
import RoqBitget.Foundations.RoundRobin
import RoqBitget.Foundations.Runs

set_option relaxedAutoImplicit false
set_option autoImplicit false

/-!
# The choice of an order connection

An account has a vector of websocket streams, through which its orders are sent in turns: an
order goes to the first stream that is ready, at the index after the stream used last.

## Main definitions

* `RoqBitget.Gateway.Controller.DropCopy` — a stream, as far as the `Controller` sees it.
* `RoqBitget.Gateway.Controller.DropCopyRR`, `DropCopyRR.getNext` — the streams of an account,
  and the choice among them.
* `RoqBitget.Gateway.Controller.DropCopyRR.system` — choices and changes of the streams'
  statuses, in any order.

## Main results

* `RoqBitget.Gateway.Controller.DropCopyRR.getNext_eq` — the loop takes turns.
* `RoqBitget.Gateway.Controller.DropCopyRR.getNext_roundRobin` — in every run the choice is
  safe, prefers no stream, and fails only when no stream is ready.

## Implementation notes

The vector is as long as when it was made. A reference to a stream is its index. What would be
undefined behaviour of the source is an error of its own: a remainder by zero, and an element
that does not exist. Sums of two indices do not overflow a `size_t`.
-/

namespace RoqBitget.Gateway.Controller

open Runs Effects

/-- `DropCopy`: what the `Controller` sees of it. -/
structure DropCopy where
  streamId : UInt16
  /-- `account_.name`. -/
  account : String
  master : Bool
  connectionStatus : ConnectionStatus
  deriving DecidableEq

/-- `DropCopy::ready`. -/
def DropCopy.ready (stream : DropCopy) : Bool := stream.connectionStatus = .ready

/-- `Controller::DropCopyRR`. -/
structure DropCopyRR where
  dropCopy : List DropCopy
  index : ℕ
  deriving DecidableEq

namespace DropCopyRR

/-- How a choice can fail. -/
inductive Failure
  /-- `server::oms::NotReady`. -/
  | notReady
  /-- A remainder by zero. -/
  | divisionByZero
  /-- An element outside of the vector. -/
  | outOfRange
  deriving DecidableEq

/-- The operator `%` of the source. -/
def modulo (a length : ℕ) : EStateM Failure DropCopyRR ℕ :=
  if length = 0 then throw .divisionByZero else pure (a % length)

/-- `drop_copy_[index]`. -/
def element (rr : DropCopyRR) (index : ℕ) : EStateM Failure DropCopyRR DropCopy :=
  match rr.dropCopy[index]? with
  | none => throw .outOfRange
  | some stream => pure stream

/-- The loop of `DropCopyRR::get_next` over the offsets that are left. -/
def getNextFrom : List ℕ → EStateM Failure DropCopyRR ℕ
  | [] => throw .notReady
  | offset :: offsets => do
    let rr ← get
    let length := rr.dropCopy.length
    let index ← modulo (rr.index + offset) length
    let stream ← element rr index
    if !stream.ready then
      getNextFrom offsets
    else
      let next ← modulo (index + 1) length
      set { rr with index := next }
      return index

/-- `DropCopyRR::get_next`: the index of the stream it returns. -/
def getNext : EStateM Failure DropCopyRR ℕ := do
  let rr ← get
  getNextFrom (List.range rr.dropCopy.length)

/-- Whether the stream at an index is ready. -/
def ready (rr : DropCopyRR) (i : ℕ) : Bool := (rr.dropCopy[i]?).any DropCopy.ready

/-- What happens to the streams of an account. -/
inductive Event
  /-- An order asks for a stream. -/
  | getNext
  /-- The status of a stream becomes another one. -/
  | connectionStatus (i : ℕ) (status : ConnectionStatus)
  deriving DecidableEq

/-- What a choice comes to. -/
inductive Action
  | returned (i : ℕ)
  | threw (failure : Failure)
  deriving DecidableEq

/-- A choice, or a change of a status. -/
def react (rr : DropCopyRR) : Event → DropCopyRR × List Action
  | .getNext =>
    match getNext rr with
    | .ok i rr => (rr, [.returned i])
    | .error failure rr => (rr, [.threw failure])
  | .connectionStatus i status =>
    ({ rr with
        dropCopy := rr.dropCopy.modify i fun stream => { stream with connectionStatus := status } },
      [])

/-- The streams of an account over time. -/
def system (streams : List DropCopy) : System DropCopyRR Event Action where
  init := ⟨streams, 0⟩
  enabled _ _ := True
  step := react

/-! ## The loop -/

/-- A round of the loop on a stream that exists. -/
theorem getNextFrom_cons {rr : DropCopyRR} (hlength : 0 < rr.dropCopy.length) (offset : ℕ)
    (offsets : List ℕ) :
    getNextFrom (offset :: offsets) rr =
      if rr.ready ((rr.index + offset) % rr.dropCopy.length) then
        .ok ((rr.index + offset) % rr.dropCopy.length)
          { rr with index := ((rr.index + offset) % rr.dropCopy.length + 1) % rr.dropCopy.length }
      else getNextFrom offsets rr := by
  have hindex : (rr.index + offset) % rr.dropCopy.length < rr.dropCopy.length :=
    Nat.mod_lt _ hlength
  have hmodulo : ∀ a, modulo a rr.dropCopy.length rr = .ok (a % rr.dropCopy.length) rr := by
    intro a
    simp only [modulo, if_neg hlength.ne']
    rfl
  have helement : element rr ((rr.index + offset) % rr.dropCopy.length) rr =
      .ok rr.dropCopy[(rr.index + offset) % rr.dropCopy.length] rr := by
    simp only [element, List.getElem?_eq_getElem hindex]
    rfl
  have hready : rr.ready ((rr.index + offset) % rr.dropCopy.length) =
      rr.dropCopy[(rr.index + offset) % rr.dropCopy.length].ready := by
    simp [ready, List.getElem?_eq_getElem hindex]
  calc getNextFrom (offset :: offsets) rr
      = (element rr ((rr.index + offset) % rr.dropCopy.length) >>= fun stream => _) rr :=
        bind_of_ok (hmodulo _) _
    _ = _ := bind_of_ok helement _
    _ = _ := by
      rw [hready]
      cases rr.dropCopy[(rr.index + offset) % rr.dropCopy.length].ready with
      | false => rfl
      | true => exact bind_of_ok (hmodulo _) _

/-- The loop finds the first stream that is ready, and moves the index behind it. -/
theorem getNextFrom_eq {rr : DropCopyRR} (hlength : 0 < rr.dropCopy.length) (offsets : List ℕ) :
    getNextFrom offsets rr =
      match (offsets.map fun offset => (rr.index + offset) % rr.dropCopy.length).find? rr.ready with
      | none => .error .notReady rr
      | some i => .ok i { rr with index := (i + 1) % rr.dropCopy.length } := by
  induction offsets with
  | nil => rfl
  | cons offset offsets ih =>
    rw [getNextFrom_cons hlength, List.map_cons, List.find?_cons]
    cases hready : rr.ready ((rr.index + offset) % rr.dropCopy.length) with
    | true => rfl
    | false => exact ih

/-- A choice takes turns among the streams that are ready. -/
theorem getNext_eq (rr : DropCopyRR) :
    getNext rr =
      match RoundRobin.next rr.dropCopy.length rr.ready rr.index with
      | none => .error .notReady rr
      | some i => .ok i { rr with index := (i + 1) % rr.dropCopy.length } := by
  change getNextFrom (List.range rr.dropCopy.length) rr = _
  rcases Nat.eq_zero_or_pos rr.dropCopy.length with hzero | hlength
  · rw [hzero]
    rfl
  · rw [getNextFrom_eq hlength, RoundRobin.next, RoundRobin.order_eq_map]

/-- A choice returns the stream whose turn it is. -/
theorem getNext_of_next {rr : DropCopyRR} {i : ℕ}
    (h : RoundRobin.next rr.dropCopy.length rr.ready rr.index = some i) :
    getNext rr = .ok i { rr with index := (i + 1) % rr.dropCopy.length } := by
  rw [getNext_eq, h]

/-- A choice fails when no stream is ready. -/
theorem getNext_of_none {rr : DropCopyRR} (h : ∀ i < rr.dropCopy.length, rr.ready i = false) :
    getNext rr = .error .notReady rr := by
  rw [getNext_eq, RoundRobin.next_eq_none_iff.mpr h]

/-! ## Runs -/

/-- The streams are the same ones in number, and the index is one of theirs. -/
structure Valid (n : ℕ) (rr : DropCopyRR) : Prop where
  length : rr.dropCopy.length = n
  index : 0 < n → rr.index < n

/-- A reaction keeps the streams valid. -/
theorem Valid.react {n : ℕ} {rr : DropCopyRR} (valid : Valid n rr) (event : Event) :
    Valid n (react rr event).1 := by
  cases event with
  | connectionStatus i status =>
    exact ⟨by simpa [DropCopyRR.react] using valid.length, valid.index⟩
  | getNext =>
    rw [DropCopyRR.react, getNext_eq]
    cases RoundRobin.next rr.dropCopy.length rr.ready rr.index with
    | none => exact valid
    | some i =>
      refine ⟨valid.length, fun hn => ?_⟩
      rw [← valid.length] at hn ⊢
      exact Nat.mod_lt _ hn

/-- The streams are valid in every run. -/
theorem valid_of_run {streams : List DropCopy} {h : History Event Action} {rr : DropCopyRR}
    (run : Run (system streams) anyStep h rr) : Valid streams.length rr :=
  run.invariant (P := fun _ rr => Valid streams.length rr) ⟨rfl, id⟩
    fun _ _ event _ valid _ _ => valid.react event

/-- A reaction leaves alone which streams there are, and which of them is the master. -/
theorem masters_react (rr : DropCopyRR) (event : Event) :
    (react rr event).1.dropCopy.map DropCopy.master = rr.dropCopy.map DropCopy.master := by
  cases event with
  | connectionStatus i status =>
    apply List.ext_getElem
    · simp [react]
    · intro k _ _
      by_cases hk : i = k <;> simp [react, hk]
  | getNext =>
    rw [react, getNext_eq]
    cases RoundRobin.next rr.dropCopy.length rr.ready rr.index <;> rfl

/-- A choice fails in one way only. -/
theorem failure_of_react {rr : DropCopyRR} {event : Event} {failure : Failure}
    (h : .threw failure ∈ (react rr event).2) : failure = .notReady := by
  cases event with
  | connectionStatus i status => simp [react] at h
  | getNext =>
    rw [react, getNext_eq] at h
    cases hnext : RoundRobin.next rr.dropCopy.length rr.ready rr.index <;> simp_all

/-! ## Consecutive choices -/

/-- Whenever one of the events is a choice, exactly the streams of `members` are ready. -/
def Steady (members : ℕ → Bool) : DropCopyRR → List Event → Prop
  | _, [] => True
  | rr, event :: events =>
    (event = .getNext → ∀ i < rr.dropCopy.length, rr.ready i = members i) ∧
      Steady members (react rr event).1 events

instance Steady.decidable (members : ℕ → Bool) :
    ∀ (rr : DropCopyRR) (events : List Event), Decidable (Steady members rr events)
  | _, [] => isTrue trivial
  | rr, event :: events =>
    have := Steady.decidable members (react rr event).1 events
    inferInstanceAs (Decidable
      ((event = .getNext → ∀ i < rr.dropCopy.length, rr.ready i = members i) ∧
        Steady members (react rr event).1 events))

/-- The number of choices among the events. -/
def choices (events : List Event) : ℕ := events.count .getNext

/-- While the same streams are ready, the choices are consecutive turns. -/
theorem actionsOver_of_steady {streams : List DropCopy} {members : ℕ → Bool} {rr : DropCopyRR}
    {events : List Event} (hready : ∃ i < rr.dropCopy.length, members i = true)
    (steady : Steady members rr events) :
    actionsOver (system streams) rr events =
      (RoundRobin.turns rr.dropCopy.length members (choices events) rr.index).map .returned := by
  induction events generalizing rr with
  | nil => rfl
  | cons event events ih =>
    obtain ⟨hmembers, hsteady⟩ := steady
    cases event with
    | connectionStatus i status =>
      -- the streams keep their number, and nobody is chosen
      have hlength : (react rr (.connectionStatus i status)).1.dropCopy.length =
          rr.dropCopy.length := by
        simp [react]
      have hrest := ih (by rwa [hlength]) hsteady
      rw [hlength] at hrest
      have hchoices : choices (.connectionStatus i status :: events) = choices events := by
        simp [choices]
      rw [hchoices]
      exact hrest
    | getNext =>
      obtain ⟨j, hj, hmember⟩ := hready
      obtain ⟨i, hi⟩ := RoundRobin.exists_next rr.index hj hmember
      have hnext : RoundRobin.next rr.dropCopy.length rr.ready rr.index = some i := by
        rw [RoundRobin.next_congr (hmembers rfl), hi]
      have hreact : react rr .getNext =
          ({ rr with index := (i + 1) % rr.dropCopy.length }, [.returned i]) := by
        rw [react, getNext_of_next hnext]
      rw [hreact] at hsteady
      have hrest : actionsOver (system streams)
            { rr with index := (i + 1) % rr.dropCopy.length } events =
          (RoundRobin.turns rr.dropCopy.length members (choices events)
            ((i + 1) % rr.dropCopy.length)).map .returned :=
        ih ⟨j, hj, hmember⟩ hsteady
      have hchoices : choices (.getNext :: events) = choices events + 1 := by
        simp [choices]
      calc actionsOver (system streams) rr (.getNext :: events)
          = (react rr .getNext).2 ++
              actionsOver (system streams) (react rr .getNext).1 events := rfl
        _ = .returned i :: (RoundRobin.turns rr.dropCopy.length members (choices events)
              ((i + 1) % rr.dropCopy.length)).map .returned := by
            rw [hreact]
            exact congrArg _ hrest
        _ = _ := by rw [hchoices, RoundRobin.turns, hi, List.map_cons]

/-- While the same streams are ready, each of them has its share of the choices. -/
theorem count_of_steady {streams : List DropCopy} {members : ℕ → Bool} {rr : DropCopyRR}
    {events : List Event} (steady : Steady members rr events) {i : ℕ}
    (hi : i < rr.dropCopy.length) (hmember : members i = true) :
    let r := (RoundRobin.waiting rr.dropCopy.length members rr.index).length
    let count := (actionsOver (system streams) rr events).count (.returned i)
    count = choices events / r ∨ count = choices events ⌈/⌉ r := by
  have hcount : (actionsOver (system streams) rr events).count (.returned i) =
      (RoundRobin.turns rr.dropCopy.length members (choices events) rr.index).count i := by
    rw [actionsOver_of_steady ⟨i, hi, hmember⟩ steady]
    exact List.count_map_of_injective _ _ (fun _ _ h => Action.returned.inj h) i
  simp only [hcount]
  exact RoundRobin.count_turns (choices events) (RoundRobin.mem_waiting.mpr ⟨hi, hmember⟩)

/-- In every run the choice of a stream is safe and fair. The index is one of the streams', and
a choice fails with `NotReady` at most. When a stream is ready, the first one at the index or
cyclically after it is returned and the index moves behind it; otherwise the choice throws and
changes nothing. While the ready streams stay the same, they are returned in cyclic order, each
in its share of the choices, rounded down or up. -/
theorem getNext_roundRobin {streams : List DropCopy} {h : History Event Action} {rr : DropCopyRR}
    (run : Run (system streams) anyStep h rr) :
    (0 < streams.length → rr.index < streams.length) ∧
    (∀ entry ∈ h, ∀ failure, .threw failure ∈ entry.actions → failure = .notReady) ∧
    ((∃ i < streams.length, rr.ready i = true) →
      ∃ offset < streams.length,
        let i := (rr.index + offset) % streams.length
        rr.ready i = true ∧
        (∀ before < offset, rr.ready ((rr.index + before) % streams.length) = false) ∧
        getNext rr = .ok i { rr with index := (i + 1) % streams.length }) ∧
    ((∀ i < streams.length, rr.ready i = false) → getNext rr = .error .notReady rr) ∧
    (∀ (members : ℕ → Bool) (events : List Event), (∃ i < streams.length, members i = true) →
      Steady members rr events →
        let r := RoundRobin.waiting streams.length members rr.index
        let returned := actionsOver (system streams) rr events
        returned.map some =
          ((List.range (choices events)).map fun j => r[j % r.length]?.map .returned) ∧
        ∀ i < streams.length, members i = true →
          returned.count (.returned i) = choices events / r.length ∨
            returned.count (.returned i) = choices events ⌈/⌉ r.length) := by
  have valid := valid_of_run run
  rw [← valid.length]
  refine ⟨fun hn => valid.length ▸ valid.index (valid.length ▸ hn), ?_, ?_, getNext_of_none, ?_⟩
  · intro entry hentry failure hfailure
    obtain ⟨_, rr', _, _, _, hactions⟩ := run.of_mem hentry
    exact failure_of_react (hactions ▸ hfailure)
  · rintro ⟨i, hi, hready⟩
    obtain ⟨j, hj⟩ := RoundRobin.exists_next rr.index hi hready
    obtain ⟨offset, hoffset, rfl, hplace, hbefore⟩ := RoundRobin.next_eq_some_iff.mp hj
    exact ⟨offset, hoffset, hplace, hbefore, getNext_of_next hj⟩
  · intro members events hready steady
    refine ⟨?_, fun i hi hmember => count_of_steady steady hi hmember⟩
    have hturns := congrArg (List.map (Option.map Action.returned))
      (RoundRobin.getElem?_turns hready rr.index (choices events))
    rw [actionsOver_of_steady hready steady]
    simpa only [List.map_map, Function.comp_def, Option.map_some] using hturns

instance (streams : List DropCopy) (rr : DropCopyRR) (event : Event) :
    Decidable ((system streams).enabled rr event) := isTrue trivial

/-- Three streams of an account, two of which are ready. -/
def threeStreams : List DropCopy :=
  [⟨3, "A1", true, .ready⟩, ⟨4, "A1", false, .disconnected⟩, ⟨5, "A1", false, .ready⟩]

/-- After one choice, five more choices return each of the two streams two or three times. -/
theorem threeStreams_share :
    let rr := (play (system threeStreams) [.getNext]).2
    let returned := actionsOver (system threeStreams) rr (List.replicate 5 .getNext)
    returned.count (.returned 0) = 5 / 2 ∨ returned.count (.returned 0) = 5 ⌈/⌉ 2 := by
  have run : Run (system threeStreams) anyStep (play (system threeStreams) [.getNext]).1
      (play (system threeStreams) [.getNext]).2 := Run.play (by decide)
  have hsafe := getNext_roundRobin run
  exact (hsafe.2.2.2.2 (fun i => i != 1) (List.replicate 5 .getNext) ⟨0, by decide, rfl⟩
    (by decide)).2 0 (by decide) rfl

end DropCopyRR

end RoqBitget.Gateway.Controller
