import RoqBitget.Foundations.Pacing
import RoqBitget.Foundations.Simulation
import RoqBitget.Gateway.Parser
import RoqBitget.Gateway.StreamIds

set_option relaxedAutoImplicit false
set_option autoImplicit false

/-!
# The public streams

All `MarketData` streams of a gateway with everything they do: they subscribe, parse the texts
they receive, publish market data and send pings. They share the vectors in which a message is
collected, and their events come in any order.

## Main definitions

* `RoqBitget.Gateway.MarketData.onCall`, `parse` — the handler, and what a text leads to.
* `RoqBitget.Gateway.PublicStreams.system` — the streams, as a system that contains that of
  `RoqBitget.Gateway.Controller`.
* `RoqBitget.Gateway.MarketData.updatesOf` — what is published of a text on its own.

## Main results

* `RoqBitget.Gateway.PublicStreams.refines_controller` — what else the streams do leaves the
  subscriptions alone.
* `RoqBitget.Gateway.PublicStreams.updates_isolated` — a stream publishes what its own texts say.
* `RoqBitget.Gateway.PublicStreams.allow_survives` — allowing unknown events ends no process.
* `RoqBitget.Gateway.PublicStreams.pings_paced` — when a stream sends a ping.

## Implementation notes

An exception that leaves a decoder is caught by `parse`, which ends the process, as `log::fatal`
does; nothing happens afterwards. Start and stop of the connections, `final_bids` and
`final_asks`, which only the dispatcher uses, and all that is logged or measured are left out.
-/

namespace RoqBitget.Gateway

namespace MarketData

/-! ## The handler -/

/-- The vectors of `gateway::Shared` that the handler collects messages in. -/
structure Scratch where
  books : BookBuffers
  trades : List Trade

/-- Vectors that nothing was collected in. -/
def Scratch.empty : Scratch := ⟨⟨[], []⟩, []⟩

/-- What is dispatched. -/
inductive Update
  | topOfBook (topOfBook : TopOfBook)
  | statistics (statisticsUpdate : StatisticsUpdate)
  | tradeSummary (tradeSummary : TradeSummary)
  | marketByPrice (marketByPriceUpdate : MarketByPriceUpdate)
  deriving DecidableEq

/-- What ends the process. -/
inductive Fatal
  /-- `Error` is received. -/
  | error
  /-- A message of a private stream, or a binary message. -/
  | unexpected
  /-- The handler of `Books`. -/
  | books (fatal : BooksFatal)
  /-- `Parser::dispatch`. -/
  | parser
  /-- `utils::exceptions::Unhandled::terminate`. -/
  | terminate
  deriving DecidableEq

/-- The settings, and the code outside of the repository that the streams use. -/
structure Config where
  /-- `settings.exchange`. -/
  exchange : String
  /-- `settings.experimental.allow_unknown_event_types`. -/
  allowUnknownEventTypes : Bool
  /-- `settings.ws.ping_freq`. -/
  pingFreq : Nanoseconds
  /-- The generated decoders. -/
  decoders : Protocol.Parser.Decoders
  /-- `utils::safe_cast`. -/
  safeCast : Milliseconds → Nanoseconds

/-- `MarketData` as `Parser::Handler`: what is dispatched, and the shared vectors afterwards. -/
def onCall (config : Config) (stream : Stream) (scratch : Scratch) :
    Protocol.Parser.Call → Except Fatal (List Update × Scratch)
  | .error _ => .error .error
  | .subscribe _ => .ok ([], scratch)
  | .ticker obj =>
    .ok ((onTicker stream config.safeCast obj).flatMap fun (topOfBook, statisticsUpdate) =>
      [.topOfBook topOfBook, .statistics statisticsUpdate], scratch)
  | .publicTrade obj =>
    let (tradeSummary, trades) := onPublicTrade stream scratch.trades obj
    .ok (tradeSummary.toList.map .tradeSummary, { scratch with trades := trades })
  | .books obj =>
    match onBooks stream scratch.books obj with
    | .ok (update, books) => .ok (update.toList.map .marketByPrice, { scratch with books := books })
    | .error fatal => .error (.books fatal)
  | .login _ => .error .unexpected
  | .account _ => .error .unexpected
  | .position _ => .error .unexpected
  | .order _ => .error .unexpected
  | .fill _ => .error .unexpected
  | .placeOrder _ => .error .unexpected
  | .modifyOrder _ => .error .unexpected
  | .cancelOrder _ => .error .unexpected

/-- `MarketData::parse`. -/
def parse (config : Config) (stream : Stream) (scratch : Scratch) (message : String) :
    Except Fatal (List Update × Scratch) :=
  match Protocol.Parser.dispatch config.decoders message config.allowUnknownEventTypes with
  | .dropped => .ok ([], scratch)
  | .called call => onCall config stream scratch call
  | .unexpected => .ok ([], scratch)
  | .fatal => .error .parser
  | .threw => .error .terminate

/-! ## What a text leads to -/

/-- A call that the handler is prepared for: a book has one entry, and its action is known unless
it has no levels. -/
def Expected : Protocol.Parser.Call → Prop
  | .subscribe _ | .ticker _ | .publicTrade _ => True
  | .books obj => obj.data.length = 1 ∧
      (HasNoLevels obj ∨ obj.action = .snapshot ∨ obj.action = .update)
  | _ => False

/-- A text that the stream is prepared for: a pong, a text of a kind that is not known, or one
that is decoded to a call that the handler is prepared for. -/
inductive Harmless (config : Config) (message : String) : Prop
  | pong (h : message = Protocol.Parser.pong)
  | unexpected (h : Protocol.Parser.dispatch config.decoders message
      config.allowUnknownEventTypes = .unexpected)
  | called {call : Protocol.Parser.Call} (h : Protocol.Parser.dispatch config.decoders message
      config.allowUnknownEventTypes = .called call) (expected : Expected call)

/-- What is published of a text on its own. -/
def updatesOf (config : Config) (stream : Stream) (message : String) : List Update :=
  match parse config stream .empty message with
  | .ok (updates, _) => updates
  | .error _ => []

section Texts

variable {config : Config} {stream : Stream} {scratch : Scratch} {message : String}

/-- What is dispatched for a call does not depend on what was collected before. -/
theorem onCall_scratch (config : Config) (stream : Stream) (scratch : Scratch)
    (call : Protocol.Parser.Call) :
    (onCall config stream scratch call).map Prod.fst =
      (onCall config stream .empty call).map Prod.fst := by
  cases call with
  | publicTrade obj =>
    have hcall : ∀ scratch : Scratch,
        (onCall config stream scratch (.publicTrade obj)).map Prod.fst =
          .ok ((onPublicTrade stream scratch.trades obj).1.toList.map .tradeSummary) :=
      fun _ => rfl
    rw [hcall, hcall, onPublicTrade_fst, onPublicTrade_fst]
  | books obj =>
    simp only [onCall, onBooks_buffers stream scratch.books,
      onBooks_buffers stream Scratch.empty.books]
    cases onBooks stream ⟨[], []⟩ obj with
    | ok result => rfl
    | error fatal => rfl
  | _ => rfl

/-- **A text on its own.** What is dispatched for a text does not depend on what was collected
before. -/
theorem parse_scratch (config : Config) (stream : Stream) (scratch : Scratch) (message : String) :
    (parse config stream scratch message).map Prod.fst =
      (parse config stream .empty message).map Prod.fst := by
  unfold parse
  cases Protocol.Parser.dispatch config.decoders message config.allowUnknownEventTypes with
  | called call => exact onCall_scratch config stream scratch call
  | _ => rfl

/-- What is dispatched for a text is what is published of it. -/
theorem updatesOf_eq {updates : List Update} {after : Scratch}
    (h : parse config stream scratch message = .ok (updates, after)) :
    updatesOf config stream message = updates := by
  have halone := parse_scratch config stream scratch message
  rw [h] at halone
  unfold updatesOf
  cases hempty : parse config stream .empty message with
  | ok result =>
    rw [hempty] at halone
    exact (Except.ok.inj halone).symm
  | error fatal => simp [hempty, Except.map] at halone

/-- Nothing is published of a text that ends the process. -/
theorem updatesOf_eq_nil {fatal : Fatal} (h : parse config stream scratch message = .error fatal) :
    updatesOf config stream message = [] := by
  have halone := parse_scratch config stream scratch message
  rw [h] at halone
  unfold updatesOf
  cases hempty : parse config stream .empty message with
  | ok result => simp [hempty, Except.map] at halone
  | error fatal => rfl

/-- The handler of a book is prepared for one entry, with an action that is known unless there are
no levels. -/
theorem onBooks_ok_iff (stream : Stream) (buffers : BookBuffers) (obj : Protocol.Books) :
    (∃ result, onBooks stream buffers obj = .ok result) ↔ Expected (.books obj) := by
  obtain ⟨symbol, action, data, ts⟩ := obj
  match data with
  | [] => simp [onBooks, Expected]
  | _ :: _ :: _ => simp [onBooks, Expected]
  | [⟨asks, bids, seq, time⟩] =>
    cases bids <;> cases asks <;> cases action <;>
      simp [onBooks, Expected, HasNoLevels, updateType, bind, Except.bind, pure, Except.pure]

/-- The handler survives the calls that it is prepared for. -/
theorem onCall_ok_iff (call : Protocol.Parser.Call) :
    (∃ result, onCall config stream scratch call = .ok result) ↔ Expected call := by
  cases call with
  | books obj =>
    rw [← onBooks_ok_iff stream scratch.books]
    simp only [onCall]
    cases onBooks stream scratch.books obj with
    | ok result => simp
    | error fatal => simp
  | _ => simp [onCall, Expected]

/-- **Which texts a stream survives.** -/
theorem parse_ok_iff : (∃ result, parse config stream scratch message = .ok result) ↔
    Harmless config message := by
  unfold parse
  cases hdispatch : Protocol.Parser.dispatch config.decoders message
      config.allowUnknownEventTypes with
  | dropped =>
    exact iff_of_true ⟨_, rfl⟩ (.pong (Protocol.Parser.dispatch_eq_dropped.mp hdispatch))
  | called call =>
    show (∃ result, onCall config stream scratch call = .ok result) ↔ _
    rw [onCall_ok_iff]
    constructor
    · exact .called hdispatch
    · intro h
      cases h with
      | pong h => simp [Protocol.Parser.dispatch, h] at hdispatch
      | unexpected h => simp [hdispatch] at h
      | called h expected => rwa [Protocol.Parser.Dispatch.called.inj (hdispatch.symm.trans h)]
  | unexpected => exact iff_of_true ⟨_, rfl⟩ (.unexpected hdispatch)
  | fatal =>
    refine iff_of_false (by simp) fun h => ?_
    cases h with
    | pong h => simp [Protocol.Parser.dispatch, h] at hdispatch
    | unexpected h => simp [hdispatch] at h
    | called h => simp [hdispatch] at h
  | threw =>
    refine iff_of_false (by simp) fun h => ?_
    cases h with
    | pong h => simp [Protocol.Parser.dispatch, h] at hdispatch
    | unexpected h => simp [hdispatch] at h
    | called h => simp [hdispatch] at h

/-! ## Unknown events -/

/-- The same configuration, with unknown events allowed or not. -/
def Config.allowing (config : Config) (allow : Bool) : Config :=
  { config with allowUnknownEventTypes := allow }

/-- Where unknown events are allowed, more texts are harmless. -/
theorem Harmless.allowing (h : Harmless (config.allowing false) message) :
    Harmless (config.allowing true) message := by
  rcases Protocol.Parser.dispatch_allow config.decoders message with hsame | hunexpected
  · cases h with
    | pong h => exact .pong h
    | unexpected h => exact .unexpected (hsame.trans h)
    | called h expected => exact .called (hsame.trans h) expected
  · exact .unexpected hunexpected

/-- Where unknown events are allowed, a text publishes the same, or nothing. -/
theorem updatesOf_allowing (config : Config) (stream : Stream) (message : String) :
    updatesOf (config.allowing true) stream message =
        updatesOf (config.allowing false) stream message ∨
      updatesOf (config.allowing true) stream message = [] := by
  rcases Protocol.Parser.dispatch_allow config.decoders message with hsame | hunexpected
  · left
    unfold updatesOf parse
    rw [show (config.allowing true).decoders = config.decoders from rfl,
      show (config.allowing true).allowUnknownEventTypes = true from rfl, hsame]
    rfl
  · right
    unfold updatesOf parse
    rw [show (config.allowing true).decoders = config.decoders from rfl,
      show (config.allowing true).allowUnknownEventTypes = true from rfl, hunexpected]

end Texts

end MarketData

namespace PublicStreams

open Runs MarketData RoqBitget.Core

/-! ## The streams -/

/-- What is done while an event is handled. -/
inductive Action
  /-- The subscriptions change. -/
  | controller (action : Controller.Action)
  /-- The `i`-th stream sends a ping. -/
  | ping (i : ℕ)
  /-- The `i`-th stream dispatches the latency of its connection. -/
  | latency (i : ℕ) (sample : Nanoseconds)
  /-- The `i`-th stream dispatches an update. -/
  | update (i : ℕ) (update : Update)
  deriving DecidableEq

end PublicStreams

/-- The `Controller` with its streams, and what they share. -/
structure PublicStreams (S : Core.Symbols) where
  /-- The symbols and the subscriptions. -/
  world : Rest.World (Controller S)
  /-- The vectors of `shared_`. -/
  scratch : MarketData.Scratch
  /-- `next_ping_` of the `i`-th stream. -/
  nextPing : ℕ → Nanoseconds
  /-- What ended the process. -/
  ended : Option MarketData.Fatal
  /-- What was done while the latest event was handled, in order. -/
  actions : List PublicStreams.Action

namespace PublicStreams

open Runs MarketData RoqBitget.Core

variable {S : Core.Symbols}

/-- Perform actions that change nothing else. -/
def act (actions : List Action) (s : PublicStreams S) : PublicStreams S :=
  { s with actions := s.actions ++ actions }

/-- The `i`-th stream. -/
def stream? (s : PublicStreams S) (i : ℕ) : Option Controller.MarketData :=
  s.world.controller.marketData[i]?

/-- What a stream adds to what it dispatches. -/
def identity (config : MarketData.Config) (streamId : UInt16) : Stream :=
  ⟨streamId.toNat, "", config.exchange⟩

/-- `MarketData::operator()(Trace<Timer> const &)` of the `i`-th stream, after its connection was
refreshed. -/
def onTimerOf (config : MarketData.Config) (now : Nanoseconds) (s : PublicStreams S) (i : ℕ) :
    PublicStreams S :=
  match s.stream? i with
  | none => s
  | some stream =>
    if stream.ready then
      if s.nextPing i < now then
        act [.ping i] { s with nextPing := Function.update s.nextPing i (now + config.pingFreq) }
      else s
    else s

/-- `Controller::operator()(Trace<Timer> const &)`: the streams in turn. -/
def onTimer (config : MarketData.Config) (now : Nanoseconds) (s : PublicStreams S) :
    PublicStreams S :=
  (List.range s.world.controller.marketData.length).foldl (onTimerOf config now) s

/-- `MarketData::operator()(Trace<web::socket::Latency> const &)` of the `i`-th stream. -/
def onLatency (i : ℕ) (sample : Nanoseconds) (s : PublicStreams S) : PublicStreams S :=
  act [.latency i sample] s

/-- `MarketData::operator()(Trace<web::socket::Text> const &)` of the `i`-th stream. -/
def onText (config : MarketData.Config) (i : ℕ) (payload : String) (s : PublicStreams S) :
    PublicStreams S :=
  match s.stream? i with
  | none => s
  | some stream =>
    match parse config (identity config stream.streamId) s.scratch payload with
    | .ok (updates, scratch) => act (updates.map (.update i)) { s with scratch := scratch }
    | .error fatal => { s with ended := some fatal }

/-- `MarketData::operator()(Trace<web::socket::Binary> const &)`. -/
def onBinary (s : PublicStreams S) : PublicStreams S := { s with ended := some .unexpected }

/-- What happens to the streams. -/
inductive Event
  /-- The symbols change, or a connection is ready or disconnected. -/
  | controller (event : Controller.Event)
  | connected (i : ℕ)
  | close (i : ℕ)
  | latency (i : ℕ) (sample : Nanoseconds)
  | text (i : ℕ) (payload : String)
  | binary (i : ℕ)
  | timer (now : Nanoseconds)

/-- The reaction to an event. -/
def react (rest : Rest.Config) (config : MarketData.Config) (s : PublicStreams S) :
    Event → PublicStreams S
  | .controller event =>
    let world := Controller.react rest
      { s.world with controller := { s.world.controller with actions := [] } } event
    act (world.controller.actions.map .controller) { s with world := world }
  | .connected _ => s
  | .close _ => s
  | .latency i sample => onLatency i sample s
  | .text i payload => onText config i payload s
  | .binary _ => onBinary s
  | .timer now => onTimer config now s

/-- Nothing happens after the end of the process, and connections are those of streams. -/
def enabled (rest : Rest.Config) (streamId : UInt16) (s : PublicStreams S) (e : Event) : Prop :=
  s.ended = none ∧
    match e with
    | .controller event => (Controller.system rest S streamId).enabled s.world event
    | .connected i | .close i | .latency i _ | .text i _ | .binary i =>
      i < s.world.controller.marketData.length
    | .timer _ => True

instance (rest : Rest.Config) (streamId : UInt16) (s : PublicStreams S) :
    (e : Event) → Decidable (enabled rest streamId s e)
  | .controller event =>
    inferInstanceAs (Decidable (_ ∧ (Controller.system rest S streamId).enabled s.world event))
  | .connected i | .close i | .latency i _ | .text i _ | .binary i =>
    inferInstanceAs (Decidable (_ ∧ i < s.world.controller.marketData.length))
  | .timer _ => inferInstanceAs (Decidable (_ ∧ True))

/-- Before any event; `streamId` numbers the streams created before. -/
def initial (S : Core.Symbols) (streamId : UInt16) : PublicStreams S where
  world := .initial (Controller.initial S streamId)
  scratch := .empty
  nextPing _ := 0
  ended := none
  actions := []

/-- State before an event, with no actions performed. -/
def fresh (s : PublicStreams S) : PublicStreams S := { s with actions := [] }

/-- The public streams. -/
def system (rest : Rest.Config) (config : MarketData.Config) (S : Core.Symbols)
    (streamId : UInt16) : System (PublicStreams S) Event Action where
  init := initial S streamId
  enabled := enabled rest streamId
  step s e := (react rest config (fresh s) e, (react rest config (fresh s) e).actions)

instance (rest : Rest.Config) (config : MarketData.Config) (streamId : UInt16)
    (s : PublicStreams S) (e : Event) :
    Decidable ((system rest config S streamId).enabled s e) :=
  inferInstanceAs (Decidable (enabled rest streamId s e))

/-! ## What a tick does -/

section Ticks

variable {config : MarketData.Config} {now : Nanoseconds} {s : PublicStreams S}

/-- Whether the `i`-th stream is ready. -/
def ready (s : PublicStreams S) (i : ℕ) : Bool := (s.stream? i).any (·.ready)

/-- Whether the `i`-th stream sends a ping. -/
def pings (now : Nanoseconds) (s : PublicStreams S) (i : ℕ) : Bool :=
  s.ready i && s.nextPing i < now

/-- The part of a state that a tick leaves alone, with pings of some streams. -/
structure Ticks (config : MarketData.Config) (now : Nanoseconds) (streams : List ℕ)
    (s s' : PublicStreams S) : Prop where
  world : s'.world = s.world
  scratch : s'.scratch = s.scratch
  ended : s'.ended = s.ended
  nextPing : ∀ i, s'.nextPing i =
    if i ∈ streams ∧ pings now s i = true then now + config.pingFreq else s.nextPing i
  actions : s'.actions = s.actions ++ (streams.filter (pings now s)).map .ping

/-- One stream. -/
theorem onTimerOf_eq (config : MarketData.Config) (now : Nanoseconds) (s : PublicStreams S)
    (i : ℕ) : onTimerOf config now s i =
      if pings now s i then
        act [.ping i] { s with nextPing := Function.update s.nextPing i (now + config.pingFreq) }
      else s := by
  unfold onTimerOf pings ready
  cases hstream : s.stream? i with
  | none => rfl
  | some stream => cases hready : stream.ready <;> simp [hready]

/-- The loop over the streams. -/
theorem ticks_foldl (config : MarketData.Config) (now : Nanoseconds) (s : PublicStreams S)
    {streams : List ℕ} (hnodup : streams.Nodup) :
    Ticks config now streams s (streams.foldl (onTimerOf config now) s) := by
  induction streams using List.reverseRecOn with
  | nil => exact ⟨rfl, rfl, rfl, fun i => by simp, by simp⟩
  | append_singleton streams i ih =>
    rw [List.nodup_append] at hnodup
    have hi : i ∉ streams := fun hmem => hnodup.2.2 i hmem i List.mem_cons_self rfl
    have h := ih hnodup.1
    rw [List.foldl_append, List.foldl_cons, List.foldl_nil, onTimerOf_eq]
    have hpings : pings now (streams.foldl (onTimerOf config now) s) i = pings now s i := by
      rw [pings, ready, stream?, h.world, h.nextPing, if_neg fun hmem => hi hmem.1]
      rfl
    rw [hpings]
    have hmem : ∀ j, j ∈ streams ++ [i] ↔ j ∈ streams ∨ j = i := fun j => by simp
    split_ifs with hdue
    · refine ⟨h.world, h.scratch, h.ended, fun j => ?_, ?_⟩
      · show Function.update _ i _ j = _
        by_cases hj : j = i
        · subst hj
          rw [Function.update_self, if_pos ⟨(hmem j).mpr (.inr rfl), hdue⟩]
        · rw [Function.update_of_ne hj, h.nextPing]
          simp only [hmem, hj, or_false]
      · show (streams.foldl (onTimerOf config now) s).actions ++ _ = _
        rw [h.actions, List.filter_append, List.map_append, List.append_assoc]
        simp [hdue]
    · refine ⟨h.world, h.scratch, h.ended, fun j => ?_, ?_⟩
      · rw [h.nextPing]
        by_cases hj : j = i
        · subst hj
          rw [if_neg fun hmem => hi hmem.1, if_neg fun hmem => hdue hmem.2]
        · simp only [hmem, hj, or_false]
      · rw [h.actions, List.filter_append]
        simp [hdue]

/-- **A tick** pings through every stream that is ready, if its last ping is long enough ago. -/
theorem ticks_onTimer (config : MarketData.Config) (now : Nanoseconds) (s : PublicStreams S) :
    Ticks config now (List.range s.world.controller.marketData.length) s (onTimer config now s) :=
  ticks_foldl config now s List.nodup_range

/-- Only streams that exist are ready. -/
theorem lt_of_pings {i : ℕ} (h : pings now s i = true) :
    i < s.world.controller.marketData.length := by
  unfold pings ready stream? at h
  cases hstream : s.world.controller.marketData[i]? with
  | none => simp [hstream] at h
  | some stream => exact (List.getElem?_eq_some_iff.mp hstream).1

/-- The pings of a tick. -/
theorem ping_mem_onTimer (config : MarketData.Config) (now : Nanoseconds) (s : PublicStreams S)
    (i : ℕ) : .ping i ∈ (onTimer config now (fresh s)).actions ↔ pings now s i = true := by
  rw [(ticks_onTimer config now (fresh s)).actions]
  simp only [fresh, List.nil_append, List.mem_map, List.mem_filter, List.mem_range,
    Action.ping.injEq, exists_eq_right]
  exact ⟨fun h => h.2, fun h => ⟨lt_of_pings h, h⟩⟩

/-- The times after a tick. -/
theorem nextPing_onTimer (i : ℕ) : (onTimer config now (fresh s)).nextPing i =
    if pings now s i then now + config.pingFreq else s.nextPing i := by
  rw [(ticks_onTimer config now (fresh s)).nextPing]
  exact if_congr ⟨fun h => h.2, fun h => ⟨List.mem_range.mpr (lt_of_pings h), h⟩⟩ rfl rfl

end Ticks

/-! ## The subscriptions -/

/-- What is left alone by everything but the events of the `Controller`. -/
structure Apart (s s' : PublicStreams S) : Prop where
  world : s'.world = s.world
  actions : Effects.Appends (fun a => ∀ action, a ≠ .controller action) s.actions s'.actions

/-- Only events of the `Controller` change the symbols, the streams and the subscriptions. -/
theorem apart_react (rest : Rest.Config) (config : MarketData.Config) (s : PublicStreams S)
    (e : Event) (he : ∀ event, e ≠ .controller event) : Apart s (react rest config s e) := by
  have hsame : ∀ s' : PublicStreams S, s'.world = s.world → s'.actions = s.actions → Apart s s' :=
    fun s' hworld hactions => ⟨hworld, hactions ▸ .refl _ _⟩
  cases e with
  | controller event => exact absurd rfl (he event)
  | connected i => exact hsame _ rfl rfl
  | close i => exact hsame _ rfl rfl
  | latency i sample => exact ⟨rfl, .concat (by simp) s.actions⟩
  | text i payload =>
    simp only [react, onText]
    split
    · exact hsame _ rfl rfl
    · split
      · exact ⟨rfl, _, rfl, by simp⟩
      · exact hsame _ rfl rfl
  | binary i => exact hsame _ rfl rfl
  | timer now =>
    have hticks := ticks_onTimer config now s
    refine ⟨hticks.world, _, hticks.actions, fun a ha => ?_⟩
    obtain ⟨i, -, rfl⟩ := List.mem_map.mp ha
    simp

/-- What an event is for the `Controller`. -/
def Event.controller? : Event → Option Controller.Event
  | .controller event => some event
  | _ => none

/-- What an action is for the `Controller`. -/
def Action.controller? : Action → Option Controller.Action
  | .controller action => some action
  | _ => none

/-- **The streams contain the `Controller`.** -/
def simulation (rest : Rest.Config) (config : MarketData.Config) (S : Core.Symbols)
    (streamId : UInt16) :
    Simulation (system rest config S streamId) (Controller.system rest S streamId) where
  abs s := s.world
  event e := e.controller?
  observe a := a.controller?
  abs_init := rfl
  enabled s e d henabled he := by
    cases e with
    | controller event =>
      obtain rfl : event = d := by simpa [Event.controller?] using he
      exact henabled.2
    | _ => simp [Event.controller?] at he
  visible s e d _ he := by
    cases e with
    | controller event =>
      obtain rfl : event = d := by simpa [Event.controller?] using he
      show (_, _) = (_, _)
      congr 1
      simp [system, react, act, fresh, List.filterMap_map, Action.controller?]
    | _ => simp [Event.controller?] at he
  hidden s e _ he := by
    have hother : ∀ event, e ≠ .controller event := by
      rintro event rfl
      simp [Event.controller?] at he
    obtain ⟨hworld, new, hactions, hnew⟩ := apart_react rest config (fresh s) e hother
    refine ⟨hworld, ?_⟩
    show (react rest config (fresh s) e).actions.filterMap _ = []
    rw [hactions, List.filterMap_eq_nil_iff]
    intro a ha
    cases a with
    | controller action => exact absurd rfl (hnew _ (by simpa [fresh] using ha) action)
    | _ => rfl

variable {rest : Rest.Config} {config : MarketData.Config} {streamId : UInt16}
  {ok : History Event Action → PublicStreams S → Event → Prop} {h : History Event Action}
  {s : PublicStreams S} {e : Event}

/-- **What else the streams do leaves the subscriptions alone.** Whatever texts, pings and ticks
come between them, the events of the `Controller` lead to the states, and to the messages in the
order, to which they lead without. -/
theorem refines_controller (run : Run (system rest config S streamId) ok h s) :
    let sim := simulation rest config S streamId
    Run (Controller.system rest S streamId) anyStep (sim.view h) s.world ∧
      Runs.actions (sim.view h) = (Runs.actions h).filterMap Action.controller? :=
  let sim := simulation rest config S streamId
  ⟨sim.run (fun _ _ _ _ _ _ => trivial) run, sim.actions_view run⟩

/-! ## A stream with some messages -/

/-- A ticker. -/
def simpleTicker : Protocol.Ticker where
  symbol := "BTCUSDT"
  data :=
    [{ highPrice24h := .value 101000
       lowPrice24h := .value 99000
       openPrice24h := .value 100000
       volume24h := .value 5
       bid1Price := .value 99999
       ask1Price := .value 100001
       bid1Size := .value 1
       ask1Size := .value 2
       indexPrice := .value 100000
       fundingRate := .nan
       nextFundingTime := ⟨1758196800000⟩
       openInterest := .value 7 }]
  ts := ⟨1758185294000⟩

/-- Decoders that know two texts: a ticker, and a ticker with an event that is not known. -/
def simpleDecoders : Protocol.Parser.Decoders where
  message text :=
    if text = "ticker" then some ⟨.undefinedInternal, .undefinedInternal, .ticker⟩
    else if text = "news" then some ⟨.unknownInternal, .undefinedInternal, .ticker⟩
    else none
  error _ := none
  subscribe _ := none
  ticker _ := some simpleTicker
  publicTrade _ := none
  books _ := none
  login _ := none
  account _ := none
  position _ := none
  order _ := none
  fill _ := none
  placeOrder _ := none
  modifyOrder _ := none
  cancelOrder _ := none

/-- Settings that do not allow unknown events. -/
def simpleMarketDataConfig : MarketData.Config where
  exchange := "bitget"
  allowUnknownEventTypes := false
  pingFreq := 5
  decoders := simpleDecoders
  safeCast := Milliseconds.toNanoseconds

/-- The streams of a gateway with slices of two symbols. -/
abbrev simpleStreams (allow : Bool) :
    System (PublicStreams (symbolList 2 Nat.two_pos)) Event Action :=
  system Rest.twoInstrumentsConfig (simpleMarketDataConfig.allowing allow)
    (symbolList 2 Nat.two_pos) 3

/-- A stream is created, gets ready, and receives the two texts between two ticks. -/
def twoTexts : List Event :=
  [.controller (.subscribe ["BTCUSDT"]), .controller (.ready 0), .timer 10, .text 0 "ticker",
    .text 0 "news", .timer 11]

/-- The first stream has asked for its symbol, as it would have without texts and ticks. -/
theorem twoTexts_refines :
    ∃ h', Run (Controller.system Rest.twoInstrumentsConfig (symbolList 2 Nat.two_pos) 3) anyStep h'
        (play (simpleStreams false) twoTexts).2.world ∧
      .sendText 0 ⟨"ticker", ["BTCUSDT"]⟩ ∈ Runs.actions h' := by
  have hrun : Run (simpleStreams false) anyStep (play (simpleStreams false) twoTexts).1
      (play (simpleStreams false) twoTexts).2 := Run.play (by decide +kernel)
  obtain ⟨hrun', hactions⟩ := refines_controller hrun
  exact ⟨_, hrun', hactions ▸ by decide +kernel⟩

/-! ## What is published -/

/-- The text that the `i`-th stream receives. -/
def Event.text? (i : ℕ) : Event → Option String
  | .text j payload => if j = i then some payload else none
  | _ => none

/-- The texts that the `i`-th stream has received, in order. -/
def texts (i : ℕ) : History Event Action → List String
  | [] => []
  | entry :: h => texts i h ++ (entry.event.text? i).toList

/-- The updates of the `i`-th stream among some actions. -/
def updates (i : ℕ) (actions : List Action) : List Update :=
  actions.filterMap fun
    | .update j update => if j = i then some update else none
    | _ => none

/-- An event that the streams are prepared for. -/
def Survivable (config : MarketData.Config) : Event → Prop
  | .text _ payload => Harmless config payload
  | .binary _ => False
  | _ => True

theorem updates_append (i : ℕ) (actions more : List Action) :
    updates i (actions ++ more) = updates i actions ++ updates i more := List.filterMap_append

/-- Updates of one stream. -/
theorem updates_map (i j : ℕ) (new : List Update) :
    updates i (new.map (.update j)) = if j = i then new else [] := by
  unfold updates
  rw [List.filterMap_map]
  split_ifs with hj
  · simp [hj]
  · rw [List.filterMap_eq_nil_iff]
    exact fun update _ => by simp [hj]

/-- Actions that are no updates. -/
theorem updates_eq_nil {i : ℕ} {actions : List Action}
    (h : ∀ a ∈ actions, ∀ j update, a ≠ .update j update) : updates i actions = [] := by
  unfold updates
  rw [List.filterMap_eq_nil_iff]
  intro a ha
  cases a with
  | update j update => exact absurd rfl (h _ ha j update)
  | _ => rfl

/-- **Step lemma.** The updates of a stream are what is published of the text that it receives,
and the process goes on if the streams are prepared for the event. -/
theorem updates_react (config : MarketData.Config) (henabled : enabled rest streamId s e)
    (hnumbered : Controller.Numbered streamId s.world.controller) (i : ℕ) :
    updates i (react rest config (fresh s) e).actions =
        (e.text? i).toList.flatMap
          (updatesOf config (identity config (streamId + UInt16.ofNat (i + 1)))) ∧
      ((react rest config (fresh s) e).ended = none ↔ Survivable config e) := by
  have hended : (fresh s).ended = none := henabled.1
  cases e with
  | controller event =>
    refine ⟨?_, iff_of_true hended trivial⟩
    exact updates_eq_nil fun a ha j update => by
      obtain ⟨action, -, rfl⟩ := List.mem_map.mp (show a ∈ [] ++ _ from ha)
      simp
  | connected j => exact ⟨rfl, iff_of_true hended trivial⟩
  | close j => exact ⟨rfl, iff_of_true hended trivial⟩
  | latency j sample => exact ⟨rfl, iff_of_true hended trivial⟩
  | binary j => exact ⟨rfl, iff_of_false (by simp [react, onBinary]) id⟩
  | timer now =>
    have hticks := ticks_onTimer config now (fresh s)
    refine ⟨?_, iff_of_true (hticks.ended.trans hended) trivial⟩
    show updates i (onTimer config now (fresh s)).actions = []
    rw [hticks.actions]
    exact updates_eq_nil fun a ha j update => by
      obtain ⟨k, -, rfl⟩ := List.mem_map.mp (show a ∈ [] ++ _ from ha)
      simp
  | text j payload =>
    obtain ⟨stream, hstream⟩ : ∃ stream, s.world.controller.marketData[j]? = some stream :=
      ⟨_, List.getElem?_eq_getElem henabled.2⟩
    have hid := hnumbered.ids j stream hstream
    have hlookup : (fresh s).stream? j = some stream := hstream
    simp only [react, onText, hlookup, Event.text?]
    cases hparse : parse config (identity config stream.streamId) (fresh s).scratch payload with
    | error fatal =>
      refine ⟨?_, iff_of_false (by simp) fun hharmless => ?_⟩
      · split_ifs with hj
        · subst hj
          rw [Option.toList_some, List.flatMap_singleton, ← hid, updatesOf_eq_nil hparse]
          rfl
        · rfl
      · have hok : ∃ result, parse config (identity config stream.streamId) (fresh s).scratch
            payload = .ok result := parse_ok_iff.mpr hharmless
        simp [hparse] at hok
    | ok result =>
      obtain ⟨new, scratch⟩ := result
      refine ⟨?_, iff_of_true hended (parse_ok_iff.mp ⟨_, hparse⟩)⟩
      show updates i ([] ++ new.map (.update j)) = _
      rw [List.nil_append, updates_map]
      split_ifs with hj
      · subst hj
        rw [Option.toList_some, List.flatMap_singleton, ← hid, updatesOf_eq hparse]
      · rfl

/-- **What a stream publishes is what its own texts say.** However the events of the streams are
interleaved, the updates of the `i`-th stream are those that are published of its texts one by one,
in order, under the `i`-th id; the shared vectors carry nothing over from one message to another.
The process goes on exactly if the streams are prepared for every event. -/
theorem updates_isolated (run : Run (system rest config S streamId) ok h s) (i : ℕ) :
    updates i (Runs.actions h) =
        (texts i h).flatMap
          (updatesOf config (identity config (streamId + UInt16.ofNat (i + 1)))) ∧
      (s.ended = none ↔ ∀ entry ∈ h, Survivable config entry.event) := by
  refine run.invariant (P := fun h s => updates i (Runs.actions h) = (texts i h).flatMap
    (updatesOf config (identity config (streamId + UInt16.ofNat (i + 1)))) ∧
      (s.ended = none ↔ ∀ entry ∈ h, Survivable config entry.event)) ?_ ?_
  · exact ⟨rfl, iff_of_true rfl (by simp)⟩
  · rintro h s e hrun ⟨hupdates, hended⟩ henabled -
    obtain ⟨hnew, hsurvives⟩ :=
      updates_react config henabled (Controller.numbered_of_run (refines_controller hrun).1) i
    refine ⟨?_, ?_⟩
    · rw [Runs.actions_cons, updates_append, hupdates, texts, List.flatMap_append]
      exact congrArg _ hnew
    · rw [List.forall_mem_cons, ← hended, eq_true henabled.1, and_true]
      exact hsurvives

/-- Both texts are published as they are on their own, under the id of the stream. -/
theorem twoTexts_isolated :
    updates 0 (Runs.actions (play (simpleStreams false) twoTexts).1) =
      ["ticker", "news"].flatMap (updatesOf (simpleMarketDataConfig.allowing false)
        ⟨4, "", "bitget"⟩) := by
  have hrun : Run (simpleStreams false) anyStep (play (simpleStreams false) twoTexts).1
      (play (simpleStreams false) twoTexts).2 := Run.play (by decide +kernel)
  exact (updates_isolated hrun 0).1

/-! ## Unknown events -/

/-- Two states that differ in what was published and in the shared vectors only. -/
structure Agree (s s' : PublicStreams S) : Prop where
  world : s'.world = s.world
  nextPing : s'.nextPing = s.nextPing

/-- States agree after an event, whether unknown events are allowed or not. -/
theorem Agree.react {s s' : PublicStreams S} (h : Agree s s') (rest : Rest.Config)
    (config : MarketData.Config) (e : Event) :
    Agree (react rest (config.allowing false) (fresh s) e)
      (react rest (config.allowing true) (fresh s') e) := by
  have htext : ∀ (config : MarketData.Config) (i : ℕ) (payload : String) (s : PublicStreams S),
      Agree s (onText config i payload s) := by
    intro config i payload s
    unfold onText
    split
    · exact ⟨rfl, rfl⟩
    · split <;> exact ⟨rfl, rfl⟩
  cases e with
  | controller event =>
    refine ⟨?_, h.nextPing⟩
    show Controller.react rest { s'.world with
      controller := { s'.world.controller with actions := [] } } event = _
    rw [h.world]
    rfl
  | text i payload =>
    have hfalse := htext (config.allowing false) i payload (fresh s)
    have htrue := htext (config.allowing true) i payload (fresh s')
    exact ⟨htrue.world.trans (h.world.trans hfalse.world.symm),
      htrue.nextPing.trans (h.nextPing.trans hfalse.nextPing.symm)⟩
  | timer now =>
    refine ⟨?_, funext fun i => ?_⟩
    · exact (ticks_onTimer _ now (fresh s')).world.trans
        (h.world.trans (ticks_onTimer (config.allowing false) now (fresh s)).world.symm)
    · show (onTimer (config.allowing true) now (fresh s')).nextPing i =
        (onTimer (config.allowing false) now (fresh s)).nextPing i
      have hpings : pings now s' i = pings now s i := by
        rw [pings, ready, stream?, h.world, h.nextPing]
        rfl
      rw [nextPing_onTimer, nextPing_onTimer, hpings, h.nextPing]
      rfl
  | _ => exact ⟨h.world, h.nextPing⟩

/-- **Allowing unknown events ends no process.** If the process goes on after a run in which
unknown events are not allowed, then it goes on after the same events where they are allowed: the
subscriptions and the pings are the same, and every stream publishes the same updates but for some
that it leaves out. -/
theorem allow_survives (run : Run (system rest (config.allowing false) S streamId) ok h s)
    (hended : s.ended = none) :
    ∃ h' s', Run (system rest (config.allowing true) S streamId) anyStep h' s' ∧
      h'.map Entry.event = h.map Entry.event ∧ s'.ended = none ∧ s'.world = s.world ∧
      s'.nextPing = s.nextPing ∧
      ∀ i, (updates i (Runs.actions h')).Sublist (updates i (Runs.actions h)) := by
  induction run with
  | init => exact ⟨[], _, .init, rfl, rfl, rfl, rfl, fun i => .refl _⟩
  | @step h s e hrun henabled _ ih =>
    obtain ⟨h', s', hrun', hevents, hended', hworld, hnextPing, hsublist⟩ := ih henabled.1
    have hnumbered : Controller.Numbered streamId s.world.controller :=
      Controller.numbered_of_run (refines_controller hrun).1
    have henabled' : enabled rest streamId s' e := by
      refine ⟨hended', ?_⟩
      rw [hworld]
      exact henabled.2
    have hupdates := updates_react (config.allowing false) henabled hnumbered
    have hupdates' := updates_react (config.allowing true) henabled' (hworld ▸ hnumbered)
    have hagree := Agree.react ⟨hworld, hnextPing⟩ rest config e
    have hsurvives : Survivable (config.allowing true) e := by
      have hbefore : Survivable (config.allowing false) e := ((hupdates 0).2).mp hended
      cases e with
      | text i payload => exact Harmless.allowing hbefore
      | _ => exact hbefore
    refine ⟨_, _, hrun'.step henabled' trivial, ?_, (hupdates' 0).2.mpr hsurvives, hagree.world,
      hagree.nextPing, fun i => ?_⟩
    · rw [List.map_cons, List.map_cons, hevents]
    · rw [Runs.actions_cons, Runs.actions_cons, updates_append, updates_append]
      refine (hsublist i).append ?_
      show (updates i
          (PublicStreams.react rest (config.allowing true) (fresh s') e).actions).Sublist
        (updates i (PublicStreams.react rest (config.allowing false) (fresh s) e).actions)
      rw [(hupdates' i).1, (hupdates i).1]
      cases e.text? i with
      | none => exact .refl _
      | some payload =>
        rw [Option.toList_some, List.flatMap_singleton, List.flatMap_singleton]
        rcases updatesOf_allowing config
          (identity config (streamId + UInt16.ofNat (i + 1))) payload with heq | hnone
        · exact heq ▸ .refl _
        · exact hnone ▸ List.nil_sublist _

/-- Where unknown events are allowed, the process goes on after the two texts as well. -/
theorem twoTexts_survives :
    ∃ h' s', Run (simpleStreams true) anyStep h' s' ∧ h'.length = 6 ∧ s'.ended = none := by
  have hrun : Run (simpleStreams false) anyStep (play (simpleStreams false) twoTexts).1
      (play (simpleStreams false) twoTexts).2 := Run.play (by decide +kernel)
  obtain ⟨h', s', hrun', hevents, hended, -⟩ := allow_survives hrun (by decide +kernel)
  have hlength := congrArg List.length hevents
  rw [List.length_map, List.length_map] at hlength
  exact ⟨h', s', hrun', hlength.trans (by decide +kernel), hended⟩

/-! ## Pings -/

/-- The times at which the `i`-th stream has sent a ping, latest first. -/
def pingTimes (i : ℕ) (h : History Event Action) : List Nanoseconds :=
  h.filterMap fun entry =>
    match entry.event with
    | .timer now => if .ping i ∈ entry.actions then some now else none
    | _ => none

/-- Only ticks change the time of the next ping. -/
theorem nextPing_react (rest : Rest.Config) (config : MarketData.Config) (s : PublicStreams S)
    {e : Event} (he : ∀ now, e ≠ .timer now) : (react rest config s e).nextPing = s.nextPing := by
  cases e with
  | timer now => exact absurd rfl (he now)
  | text i payload =>
    simp only [react, onText]
    split
    · rfl
    · split <;> rfl
  | _ => rfl

/-- A tick adds its time if it sends a ping. -/
theorem pingTimes_timer (rest : Rest.Config) (config : MarketData.Config) (i : ℕ)
    (now : Nanoseconds) (h : History Event Action) (s : PublicStreams S) :
    pingTimes i (⟨.timer now, (react rest config (fresh s) (.timer now)).actions⟩ :: h) =
      if pings now s i then now :: pingTimes i h else pingTimes i h := by
  have hping := ping_mem_onTimer config now s i
  unfold pingTimes
  rw [List.filterMap_cons]
  simp only [react, hping]
  cases pings now s i <;> rfl

/-- A stream that is ready attempts to send a ping. -/
theorem pingTimes_of_ready (rest : Rest.Config) (config : MarketData.Config) {i : ℕ}
    (now : Nanoseconds) (h : History Event Action) {s : PublicStreams S}
    (hready : s.ready i = true) :
    pingTimes i (⟨.timer now, (react rest config (fresh s) (.timer now)).actions⟩ :: h) =
      Pacing.done (s.nextPing i) now (pingTimes i h) := by
  rw [pingTimes_timer, Pacing.done]
  exact if_congr (by simp [pings, hready]) rfl rfl

/-- **The pace of the pings** is kept in every run. -/
theorem paced_of_run (run : Run (system rest config S streamId) ok h s) (i : ℕ) :
    Pacing.Paced config.pingFreq (pingTimes i h) (s.nextPing i) := by
  refine run.invariant
    (P := fun h s => Pacing.Paced config.pingFreq (pingTimes i h) (s.nextPing i)) ?_ ?_
  · exact .init _
  · rintro h s e - hpaced - -
    by_cases he : ∀ now, e ≠ .timer now
    · have htimes : pingTimes i (⟨e, (react rest config (fresh s) e).actions⟩ :: h) =
          pingTimes i h := by
        cases e with
        | timer now => exact absurd rfl (he now)
        | _ => rfl
      show Pacing.Paced _ (pingTimes i _) ((react rest config (fresh s) e).nextPing i)
      rw [nextPing_react rest config (fresh s) he]
      exact htimes.symm ▸ hpaced
    · obtain ⟨now, rfl⟩ := not_forall_not.mp he
      show Pacing.Paced _ (pingTimes i (⟨.timer now, (react rest config (fresh s) _).actions⟩ :: h))
        ((onTimer config now (fresh s)).nextPing i)
      rw [nextPing_onTimer]
      cases hready : s.ready i with
      | false =>
        have hnot : pings now s i = false := by rw [pings, hready]; rfl
        rw [pingTimes_timer, hnot]
        exact hpaced
      | true =>
        rw [pingTimes_of_ready rest config now h hready]
        have hpings : pings now s i = true ↔ s.nextPing i < now := by simp [pings, hready]
        rw [if_congr hpings rfl rfl]
        exact hpaced.attempt now

/-- **When a stream sends a ping.** In every run two pings of a stream are more than `ping_freq`
apart, and none is left out: a tick sends a ping through a stream exactly if the stream is ready
and its last ping was more than `ping_freq` before, or there was none. So after a tick at which
it is ready its last ping was at most `ping_freq` before. -/
theorem pings_paced (run : Run (system rest config S streamId) ok h s) (i : ℕ) :
    (pingTimes i h).IsChain (fun later earlier => earlier + config.pingFreq < later) ∧
      ∀ now,
        (.ping i ∈ ((system rest config S streamId).step s (.timer now)).2 ↔
          s.ready i = true ∧
            (pingTimes i h).head?.elim (0 < now) (· + config.pingFreq < now)) ∧
        (s.ready i = true → 0 ≤ config.pingFreq → 0 < now →
          ∃ last ∈ (pingTimes i
              (⟨.timer now, ((system rest config S streamId).step s (.timer now)).2⟩ :: h)).head?,
            now ≤ last + config.pingFreq) := by
  have hpaced := paced_of_run run i
  refine ⟨hpaced.spaced, fun now => ⟨?_, fun hready hfreq hnow => ?_⟩⟩
  · show .ping i ∈ (onTimer config now (fresh s)).actions ↔ _
    rw [ping_mem_onTimer, ← hpaced.lt_iff now]
    simp [pings]
  · have hrecent := hpaced.recent hfreq hnow
    exact (pingTimes_of_ready rest config now h hready).symm ▸ hrecent

/-- After the ping of the first tick there is none at the second, and one six nanoseconds later. -/
theorem twoTexts_pinged :
    pingTimes 0 (play (simpleStreams false) twoTexts).1 = [10] ∧
      .ping 0 ∈
        ((simpleStreams false).step (play (simpleStreams false) twoTexts).2 (.timer 16)).2 := by
  have hrun : Run (simpleStreams false) anyStep (play (simpleStreams false) twoTexts).1
      (play (simpleStreams false) twoTexts).2 := Run.play (by decide +kernel)
  have htimes : pingTimes 0 (play (simpleStreams false) twoTexts).1 = [10] := by decide +kernel
  refine ⟨htimes, ((pings_paced hrun 0).2 16).1.mpr ⟨by decide +kernel, ?_⟩⟩
  rw [htimes]
  show (10 : ℤ) + 5 < 16
  norm_num

end PublicStreams

end RoqBitget.Gateway
