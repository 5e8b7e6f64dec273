import RoqBitget.Gateway.PublicStreams
import RoqBitget.Protocol.OrderTerms

set_option relaxedAutoImplicit false
set_option autoImplicit false

/-!
# What the public streams ask for

A public stream sends pings and subscriptions over its websocket. The exchange has nothing but the
texts, and it forgets what a connection has subscribed to when the connection is lost. Whatever
happens to the streams, it is asked for every symbol over one connection, once on each topic.

## Main definitions

* `RoqBitget.Gateway.Controller.requestsOf`, `asks` — what a stream asks for.
* `RoqBitget.Gateway.PublicStreams.textsSince` — the texts of a connection.
* `RoqBitget.Gateway.PublicStreams.hear`, `heard` — what the exchange reads in them.

## Main results

* `RoqBitget.Gateway.Controller.requestsOf_react` — what an event makes a stream ask for.
* `RoqBitget.Gateway.PublicStreams.hear_request` — what is read in a subscription.
* `RoqBitget.Gateway.PublicStreams.subscriptions_heard` — what the exchange is asked for.

## Implementation notes

A connection begins when the websocket gets ready. The exchange takes a text that is no document
with the operation `subscribe` and a list of arguments, and no ping, for an error.
-/

namespace RoqBitget.Gateway

namespace Controller

open Runs Slices Unseen Effects

variable {S : Core.Symbols}

/-! ## What a stream asks for -/

/-- Whether the `i`-th stream is ready. -/
def readyAt (c : Controller S) (i : ℕ) : Bool := c.marketData[i]?.any (·.ready)

/-- What an event does to the connection of the `i`-th stream: it gets ready, or it is lost. -/
def Event.connection? (i : ℕ) : Event → Option Bool
  | .ready j => if j = i then some true else none
  | .disconnected j => if j = i then some false else none
  | _ => none

/-- The requests that the `i`-th stream sends. -/
def requestsOf (i : ℕ) (actions : List Action) : List Request :=
  actions.filterMap fun
    | .sendText j request => if j = i then some request else none
    | _ => none

/-- The requests for some symbols. -/
def asks (symbols : List String) : List Request :=
  if symbols = [] then [] else topics.map fun topic => ⟨topic, symbols⟩

/-- Nothing is new after the end of the list. -/
theorem asks_sliceFrom_length (size : ℕ) (symbols : List String) (i : ℕ) :
    asks (sliceFrom size symbols i symbols.length) = [] := by
  rw [sliceFrom_length]
  rfl

theorem requestsOf_append (i : ℕ) (actions more : List Action) :
    requestsOf i (actions ++ more) = requestsOf i actions ++ requestsOf i more :=
  List.filterMap_append

/-- Starting streams asks for nothing. -/
theorem requestsOf_start (i : ℕ) (indices : List ℕ) :
    requestsOf i (indices.map .start) = [] := by
  unfold requestsOf
  rw [List.filterMap_map, List.filterMap_eq_nil_iff]
  exact fun _ _ => rfl

/-- One stream. -/
theorem requestsOf_requests (i : ℕ) (stream : MarketData) (symbols : List String) :
    requestsOf i (requests stream symbols) = if stream.index = i then asks symbols else [] := by
  unfold requests asks
  by_cases hnil : symbols = []
  · simp [hnil, requestsOf]
  · by_cases hindex : stream.index = i
    · simp [hnil, hindex, requestsOf, topics]
    · simp [hnil, hindex, requestsOf, topics]

/-- All streams. -/
theorem requestsOf_requestsFrom {c : Controller S}
    (h : c.marketData.map (·.index) = List.range c.marketData.length) (i startFrom : ℕ) :
    requestsOf i (c.marketData.flatMap (requestsFrom c.symbols startFrom)) =
      if readyAt c i then asks (sliceFrom S.sliceSize (S.contents c.symbols) i startFrom)
      else [] := by
  have hother : ∀ stream : MarketData, stream.index ≠ i →
      requestsOf i (requestsFrom c.symbols startFrom stream) = [] := by
    intro stream hindex
    unfold requestsFrom
    split_ifs
    · rw [requestsOf_requests, if_neg hindex]
    · rfl
  have hflatMap : requestsOf i (c.marketData.flatMap (requestsFrom c.symbols startFrom)) =
      c.marketData.flatMap fun stream =>
        requestsOf i (requestsFrom c.symbols startFrom stream) := List.filterMap_flatMap
  rw [hflatMap, readyAt]
  cases hstream : c.marketData[i]? with
  | none =>
    refine List.flatMap_eq_nil_iff.mpr fun stream hmem => hother stream fun hindex => ?_
    have hrange : i ∈ c.marketData.map (·.index) := List.mem_map.mpr ⟨stream, hmem, hindex⟩
    rw [h, List.mem_range] at hrange
    exact absurd hrange (Nat.not_lt.mpr (List.getElem?_eq_none_iff.mp hstream))
  | some stream =>
    have hindex := index_eq h hstream
    have hnodup : (c.marketData.map (·.index)).Nodup := h ▸ List.nodup_range
    rw [flatMap_eq_of_unique (List.mem_of_getElem? hstream) hnodup fun other hne =>
      hother other (hindex ▸ hne), requestsFrom, Option.any_some]
    split_ifs
    · rw [requestsOf_requests, if_pos hindex, S.getSlice_eq, hindex]
    · rfl

/-- **What an event makes a stream ask for.** Only its own connection events change whether it is
ready. If it is ready, it asks for its whole slice when it gets ready, and for what is new of the
slice at any other event. -/
structure Asking (event : Event) (c c' : Controller S) : Prop where
  ready : ∀ i, readyAt c' i = (event.connection? i).getD (readyAt c i)
  requests : ∀ i, requestsOf i c'.actions =
    if readyAt c' i then
      asks (sliceFrom S.sliceSize (S.contents c'.symbols) i
        (if (event.connection? i).isSome then 0 else (S.contents c.symbols).length))
    else []

/-- Whether a stream is ready after the status of one was published. -/
theorem readyAt_onConnectionStatus {c : Controller S} {i : ℕ} (hi : i < c.marketData.length)
    (stream : MarketData) (status : ConnectionStatus) (reason : String) (j : ℕ) :
    readyAt (onConnectionStatus i stream status reason c) j =
      if i = j then decide (status = .ready) else readyAt c j := by
  show (c.marketData.modify i _)[j]?.any (·.ready) = _
  by_cases hij : i = j
  · subst hij
    rw [List.getElem?_modify_eq, List.getElem?_eq_getElem hi, if_pos rfl]
    rfl
  · rw [List.getElem?_modify_ne _ _ hij, if_neg hij, readyAt]

section Asking

variable {c : Controller S} (hsliced : Sliced c) (hactions : c.actions = [])

include hactions

/-- Nothing happens. -/
theorem asking_refl {event : Event} (hevent : ∀ i, event.connection? i = none) :
    Asking event c c := by
  refine ⟨fun i => by rw [hevent]; rfl, fun i => ?_⟩
  rw [hactions, hevent]
  exact (ite_eq_right_iff.mpr fun _ => asks_sliceFrom_length _ _ _).symm

/-- A stream is disconnected. -/
theorem asking_onDisconnected {i : ℕ} (hi : i < c.marketData.length) :
    Asking (.disconnected i) c (onDisconnected i c) := by
  obtain ⟨stream, hstream⟩ : ∃ stream, c.marketData[i]? = some stream :=
    ⟨_, List.getElem?_eq_getElem hi⟩
  have honDisconnected : onDisconnected i c = onConnectionStatus i stream .disconnected "" c := by
    rw [onDisconnected, hstream]
  rw [honDisconnected]
  refine ⟨fun j => ?_, fun j => ?_⟩
  · rw [readyAt_onConnectionStatus hi, Event.connection?]
    split_ifs <;> rfl
  · have hnone : requestsOf j (onConnectionStatus i stream .disconnected "" c).actions = [] := by
      simp [onConnectionStatus, act, hactions, requestsOf]
    rw [hnone, readyAt_onConnectionStatus hi, Event.connection?]
    by_cases hij : i = j
    · simp [hij]
    · simp only [if_neg hij, Option.isSome_none, Bool.false_eq_true, if_false]
      exact (ite_eq_right_iff.mpr fun _ => asks_sliceFrom_length _ _ _).symm

include hsliced

/-- New symbols. -/
theorem asking_onSymbolsUpdate {event : Event} (hevent : ∀ i, event.connection? i = none)
    (new : List String) : Asking event c (onSymbolsUpdate new c) := by
  obtain ⟨c', hcreates, hupdate⟩ := onSymbolsUpdate_eq new c
  obtain ⟨streams, hstreams, -, hnotReady⟩ := hcreates.marketData
  obtain ⟨indices, hstarted⟩ := hcreates.actions
  have hindices := hcreates.indices hsliced.indices
  simp only [hactions, List.nil_append] at hstreams hstarted
  rw [hupdate]
  refine ⟨fun i => ?_, fun i => ?_⟩
  · rw [hevent]
    show c'.marketData[i]?.any (·.ready) = readyAt c i
    rw [hstreams, readyAt]
    rcases Nat.lt_or_ge i c.marketData.length with hold | hnew
    · rw [List.getElem?_append_left hold]
    · rw [List.getElem?_append_right hnew, List.getElem?_eq_none hnew]
      cases hstream : streams[i - c.marketData.length]? with
      | none => rfl
      | some stream => exact hnotReady stream (List.mem_of_getElem? hstream)
  · show requestsOf i (c'.actions ++ _) = _
    rw [requestsOf_append, hstarted, requestsOf_start, List.nil_append,
      requestsOf_requestsFrom hindices, hevent]
    rfl

/-- A stream gets ready. -/
theorem asking_onReady {i : ℕ} (hi : i < c.marketData.length) :
    Asking (.ready i) c (onReady i c) := by
  obtain ⟨stream, hstream⟩ : ∃ stream, c.marketData[i]? = some stream :=
    ⟨_, List.getElem?_eq_getElem hi⟩
  rw [onReady_eq hsliced hstream]
  have hready : ∀ j, readyAt (act (requests ⟨i, stream.streamId, .ready⟩
      (slice S.sliceSize (S.contents c.symbols) i)) (onConnectionStatus i stream .ready "" c)) j =
        if i = j then true else readyAt c j :=
    readyAt_onConnectionStatus hi stream .ready ""
  refine ⟨fun j => ?_, fun j => ?_⟩
  · rw [hready, Event.connection?]
    split_ifs <;> rfl
  · have hpublish : requestsOf j (onConnectionStatus i stream .ready "" c).actions = [] := by
      simp [onConnectionStatus, act, hactions, requestsOf]
    show requestsOf j ((onConnectionStatus i stream .ready "" c).actions ++ requests _ _) = _
    rw [requestsOf_append, hpublish, List.nil_append, requestsOf_requests, hready,
      Event.connection?]
    by_cases hij : i = j
    · subst hij
      simp only [if_pos, Option.isSome_some, sliceFrom_zero]
      rfl
    · simp only [if_neg hij, Option.isSome_none, Bool.false_eq_true, if_false]
      exact (ite_eq_right_iff.mpr fun _ => asks_sliceFrom_length _ _ _).symm

end Asking

/-- **What a reaction asks for.** -/
theorem requestsOf_react (config : Rest.Config) {w : Rest.World (Controller S)} {event : Event}
    (hsliced : Sliced w.controller) (hactions : w.controller.actions = [])
    (hconnection : ∀ i, (event.connection? i).isSome = true → i < w.controller.marketData.length) :
    Asking event w.controller (react config w event).controller := by
  have hrecorded : ∀ {event : Event},
      ((∃ ack, event = .instruments ack) ∨ ∃ requested, event = .subscribe requested) →
      (∀ i, event.connection? i = none) →
      Asking event w.controller (react config w event).controller := by
    intro event hevent hnone
    obtain ⟨-, hupdate | ⟨-, hsame⟩⟩ := react_records config w hevent
    · rw [hupdate]
      exact asking_onSymbolsUpdate hsliced hactions hnone _
    · rw [hsame]
      exact asking_refl hactions hnone
  cases event with
  | instruments ack => exact hrecorded (.inl ⟨ack, rfl⟩) fun _ => rfl
  | subscribe requested => exact hrecorded (.inr ⟨requested, rfl⟩) fun _ => rfl
  | ready i => exact asking_onReady hsliced hactions (hconnection i (by simp [Event.connection?]))
  | disconnected i =>
    exact asking_onDisconnected hactions (hconnection i (by simp [Event.connection?]))

/-! ## The symbols of a run -/

section Runs

variable {config : Rest.Config} {streamId : UInt16}
  {ok : History Event Action → Rest.World (Controller S) → Event → Prop}
  {h : History Event Action} {w : Rest.World (Controller S)}

/-- **A step** lets the list of symbols grow, and makes the streams ask for what they have to. -/
theorem step_asking {event : Event} (hsliced : Sliced w.controller)
    (henabled : (system config S streamId).enabled w event) :
    (∃ new, received ((system config S streamId).step w event).1 = received w ++ new) ∧
      Asking event w.controller ((system config S streamId).step w event).1.controller := by
  have hsliced : Sliced { w.controller with actions := [] } := ⟨hsliced.indices, hsliced.count⟩
  have hready : ∀ i, event = .ready i → i < w.controller.marketData.length := by
    rintro i rfl
    exact henabled
  have hconnection : ∀ i, (event.connection? i).isSome = true →
      i < w.controller.marketData.length := by
    intro i hi
    cases event with
    | instruments | subscribe => cases hi
    | ready j | disconnected j =>
      rw [Event.connection?] at hi
      split_ifs at hi with hij
      · exact hij ▸ henabled
      · cases hi
  obtain ⟨-, hsteps⟩ :=
    steps_react config (w := { w with controller := { w.controller with actions := [] } }) hsliced
      rfl hready
  have hasking :=
    requestsOf_react config (w := { w with controller := { w.controller with actions := [] } })
      hsliced rfl hconnection
  exact ⟨⟨_, hsteps.contents⟩, hasking.ready, hasking.requests⟩

/-- The invariant holds in every run. -/
theorem subscribed_of_run (run : Run (system config S streamId) ok h w) : Subscribed config h w :=
  run.invariant (P := fun h w => Subscribed config h w) (subscribed_initial config S streamId)
    fun _ _ _ _ hw henabled _ => hw.step henabled

/-- Every symbol was brought by an event. -/
theorem mem_allSymbols_of_run (run : Run (system config S streamId) ok h w) :
    ∀ symbol ∈ w.allSymbols, ∃ entry ∈ h, symbol ∈ entry.event.symbols config := by
  refine run.invariant (P := fun h w => ∀ symbol ∈ w.allSymbols, ∃ entry ∈ h,
    symbol ∈ entry.event.symbols config) (by simp [system, Rest.World.initial]) ?_
  intro h w event hrun ih henabled _ symbol hsymbol
  have hw := subscribed_of_run hrun
  have hready : ∀ i, event = .ready i → i < w.controller.marketData.length := by
    rintro i rfl
    exact henabled
  obtain ⟨hsymbols, -⟩ :=
    steps_react config (w := { w with controller := { w.controller with actions := [] } })
      ⟨hw.sliced.indices, hw.sliced.count⟩ rfl hready
  change symbol ∈ (react config _ event).allSymbols at hsymbol
  rw [hsymbols, Finset.mem_union, List.mem_toFinset] at hsymbol
  rcases hsymbol with hold | hnew
  · obtain ⟨entry, hentry, hmem⟩ := ih symbol hold
    exact ⟨entry, List.mem_cons_of_mem _ hentry, hmem⟩
  · exact ⟨_, List.mem_cons_self, hnew⟩

/-- **Which symbols were received**: those of the events. -/
theorem mem_received_iff (run : Run (system config S streamId) ok h w) (symbol : String) :
    symbol ∈ received w ↔ ∃ entry ∈ h, symbol ∈ entry.event.symbols config := by
  have hw := subscribed_of_run run
  rw [hw.mem_received]
  exact ⟨mem_allSymbols_of_run run symbol, fun ⟨entry, hentry, hsymbol⟩ =>
    hw.recorded entry hentry symbol hsymbol⟩

end Runs

end Controller

namespace PublicStreams

open Runs MarketData JsonText Slices Protocol.Encoder

/-! ## The texts of a connection -/

/-- The text that an action sends over the websocket of the `i`-th stream. -/
def Action.text? (instType : String) (i : ℕ) : Action → Option String
  | .controller (.sendText j request) => if j = i then some (request.text instType) else none
  | .ping j => if j = i then some "ping" else none
  | _ => none

/-- The texts that were sent over the websocket of the `i`-th stream, in order. -/
def sentTexts (instType : String) (i : ℕ) (actions : List Action) : List String :=
  actions.filterMap (Action.text? instType i)

/-- What an event does to the connection of the `i`-th stream: it gets ready, or it is lost. -/
def Event.connection? (i : ℕ) : Event → Option Bool
  | .controller event => event.connection? i
  | _ => none

/-- The texts since the connection of the `i`-th stream got ready or was lost, in order. -/
def textsSince (instType : String) (i : ℕ) (h : History Event Action) : List String :=
  (since (fun entry => (entry.event.connection? i).isSome) h).reverse.flatMap fun entry =>
    sentTexts instType i entry.actions

/-- The symbols that an event brings. -/
def Event.symbols (rest : Rest.Config) : Event → List String
  | .controller event => event.symbols rest
  | _ => []

/-! ## What the exchange reads -/

/-- What the exchange can be asked for. -/
structure Subscription where
  instType : String
  topic : String
  symbol : String
  deriving DecidableEq

/-- What the exchange reads in an argument. -/
def hearArgument : Json → Option Subscription
  | .object members => do
    return ⟨← textOf members "instType", ← textOf members "topic", ← textOf members "symbol"⟩
  | _ => none

/-- What the exchange reads in a text: nothing in a ping, and no other texts than subscriptions. -/
def hear (s : String) : Option (List Subscription) :=
  if s = "ping" then some []
  else match read s with
    | some (.object members) =>
      if textOf members "op" = some "subscribe" then
        match members.lookup "args" with
        | some (.array arguments) => arguments.mapM hearArgument
        | _ => none
      else none
    | _ => none

/-- What the exchange reads in the texts of a connection. -/
def heard : List String → Option (List Subscription)
  | [] => some []
  | s :: texts => do return (← hear s) ++ (← heard texts)

/-- The subscriptions to some symbols. -/
def subscriptions (instType : String) (symbols : List String) : List Subscription :=
  Controller.topics.flatMap fun topic => symbols.map fun symbol => ⟨instType, topic, symbol⟩

theorem mem_subscriptions {instType : String} {symbols : List String} {x : Subscription} :
    x ∈ subscriptions instType symbols ↔
      x.instType = instType ∧ x.topic ∈ Controller.topics ∧ x.symbol ∈ symbols := by
  unfold subscriptions
  simp only [List.mem_flatMap, List.mem_map]
  constructor
  · rintro ⟨topic, htopic, symbol, hsymbol, rfl⟩
    exact ⟨rfl, htopic, hsymbol⟩
  · rintro ⟨rfl, htopic, hsymbol⟩
    exact ⟨_, htopic, _, hsymbol, rfl⟩

/-- Nothing is subscribed to twice. -/
theorem nodup_subscriptions (instType : String) {symbols : List String} (h : symbols.Nodup) :
    (subscriptions instType symbols).Nodup := by
  refine List.nodup_flatMap.mpr ⟨fun topic _ => h.map fun _ _ heq => (Subscription.mk.inj heq).2.2,
    List.Pairwise.imp ?_ (show Controller.topics.Nodup by decide)⟩
  intro topic topic' hne x hx hx'
  obtain ⟨symbol, -, rfl⟩ := List.mem_map.mp hx
  obtain ⟨symbol', -, heq⟩ := List.mem_map.mp hx'
  exact hne (Subscription.mk.inj heq).2.1.symm

/-- How many subscriptions there are. -/
theorem length_subscriptions (instType : String) (symbols : List String) :
    (subscriptions instType symbols).length = Controller.topics.length * symbols.length := by
  simp [subscriptions, Controller.topics]
  omega

/-- Subscriptions to more symbols, up to their order. -/
theorem subscriptions_append (instType : String) (symbols more : List String) :
    (subscriptions instType symbols ++ subscriptions instType more).Perm
      (subscriptions instType (symbols ++ more)) := by
  unfold subscriptions
  simp only [List.map_append]
  exact List.flatMap_append_perm _ _ _

/-- Texts one after another. -/
theorem heard_append {texts more : List String} {xs ys : List Subscription}
    (h : heard texts = some xs) (hmore : heard more = some ys) :
    heard (texts ++ more) = some (xs ++ ys) := by
  induction texts generalizing xs with
  | nil =>
    obtain rfl : [] = xs := Option.some.inj h
    exact hmore
  | cons s texts ih =>
    simp only [heard, Option.bind_eq_bind, Option.bind_eq_some_iff, Option.pure_def,
      Option.some.injEq] at h
    obtain ⟨first, hfirst, others, hothers, rfl⟩ := h
    rw [List.cons_append, heard, hfirst, ih hothers, List.append_assoc]
    rfl

/-- Nothing is read in pings. -/
theorem heard_pings {texts : List String} (h : ∀ s ∈ texts, s = "ping") :
    heard texts = some [] := by
  induction texts with
  | nil => rfl
  | cons s texts ih =>
    obtain ⟨rfl, hothers⟩ := List.forall_mem_cons.mp h
    rw [heard, ih hothers]
    rfl

/-- The arguments of a subscription. -/
theorem mapM_hearArgument (instType topic : String) (symbols : List String) :
    (symbols.map (Controller.argument instType topic)).mapM hearArgument =
      some (symbols.map fun symbol => ⟨instType, topic, symbol⟩) := by
  induction symbols with
  | nil => rfl
  | cons symbol symbols ih =>
    have hargument : hearArgument (Controller.argument instType topic symbol) =
        some ⟨instType, topic, symbol⟩ := rfl
    rw [List.map_cons, List.mapM_cons, hargument, ih]
    rfl

/-- **What is read in a subscription.** -/
theorem hear_request {instType : String} {request : Controller.Request}
    (h : request.symbols ≠ []) (hinstType : Plain instType) (htopic : Plain request.topic)
    (hsymbols : ∀ symbol ∈ request.symbols, Plain symbol) :
    hear (request.text instType) =
      some (request.symbols.map fun symbol => ⟨instType, request.topic, symbol⟩) := by
  have harguments : AllVerbatim (request.symbols.map
      (Controller.argument instType request.topic)) := by
    rw [allVerbatim_iff, List.forall_mem_map]
    exact fun symbol hsymbol =>
      Controller.verbatim_argument hinstType htopic (hsymbols symbol hsymbol)
  have hverbatim : Json.Verbatim (.object [("op", .string "subscribe"), ("args",
      .array (request.symbols.map (Controller.argument instType request.topic)))]) := by
    rw [Json.Verbatim]
    refine ⟨verbatim_member (by decide) (by decide), ⟨by decide, ?_⟩, trivial⟩
    rw [Json.Verbatim]
    exact harguments
  have hread := read_text hverbatim (request.text_eq instType h)
  have hne : request.text instType ≠ "ping" := by
    intro hping
    have hnone : (read "ping").isSome = false := by decide
    rw [← hping, hread] at hnone
    exact Bool.noConfusion hnone
  rw [hear, if_neg hne, hread]
  exact mapM_hearArgument instType request.topic request.symbols

/-- What is read in the requests for some symbols. -/
theorem heard_asks {instType : String} {symbols : List String} (hinstType : Plain instType)
    (hsymbols : ∀ symbol ∈ symbols, Plain symbol) :
    heard ((Controller.asks symbols).map (·.text instType)) =
      some (subscriptions instType symbols) := by
  unfold Controller.asks
  split_ifs with hnil
  · subst hnil
    rfl
  · have hplain : ∀ topic ∈ Controller.topics, Plain topic := by decide
    have htopic : ∀ topic ∈ Controller.topics, hear (Controller.Request.text instType
        ⟨topic, symbols⟩) = some (symbols.map fun symbol => ⟨instType, topic, symbol⟩) :=
      fun topic hmem => hear_request hnil hinstType (hplain topic hmem) hsymbols
    unfold subscriptions
    generalize Controller.topics = topics at htopic
    induction topics with
    | nil => rfl
    | cons topic topics ih =>
      obtain ⟨hfirst, hothers⟩ := List.forall_mem_cons.mp htopic
      rw [List.map_cons, List.map_cons, heard, hfirst, ih hothers]
      rfl

/-! ## What an event adds -/

section Runs

variable {S : Core.Symbols} {instType : String} {rest : Rest.Config} {config : MarketData.Config}
  {streamId : UInt16} {ok : History Event Action → PublicStreams S → Event → Prop}
  {h : History Event Action} {s : PublicStreams S} {e : Event}

/-- The texts after one more event. -/
theorem textsSince_cons (instType : String) (i : ℕ) (e : Event) (actions : List Action)
    (h : History Event Action) :
    textsSince instType i (⟨e, actions⟩ :: h) =
      (if (e.connection? i).isSome then [] else textsSince instType i h) ++
        sentTexts instType i actions := by
  unfold textsSince
  cases hconnection : (e.connection? i).isSome with
  | true =>
    rw [since_cons_of_pos _ hconnection]
    simp
  | false =>
    rw [since_cons_of_neg _ hconnection]
    simp

/-- The texts of what the `Controller` does. -/
theorem sentTexts_controller (instType : String) (i : ℕ) (actions : List Controller.Action) :
    sentTexts instType i (actions.map .controller) =
      (Controller.requestsOf i actions).map (·.text instType) := by
  unfold sentTexts Controller.requestsOf
  rw [List.filterMap_map, List.map_filterMap]
  refine List.filterMap_congr fun action _ => ?_
  cases action with
  | sendText j request =>
    show (if j = i then some _ else none) = Option.map _ (if j = i then some _ else none)
    split_ifs <;> rfl
  | start | publish => rfl

/-- Other events add pings at most. -/
theorem heard_other (he : ∀ event, e ≠ .controller event) (i : ℕ) :
    heard (sentTexts instType i (react rest config (fresh s) e).actions) = some [] := by
  obtain ⟨new, hactions, hnew⟩ := (apart_react rest config (fresh s) e he).actions
  rw [hactions]
  refine heard_pings fun text htext => ?_
  obtain ⟨action, haction, htext⟩ := List.mem_filterMap.mp htext
  cases action with
  | controller action => exact absurd rfl (hnew _ (by simpa [fresh] using haction) action)
  | ping j =>
    rw [Action.text?] at htext
    split_ifs at htext
    exact (Option.some.inj htext).symm
  | latency | update => cases htext

/-- An event of the `Controller` lets the list of symbols grow, and a stream that is ready asks for
what it has to. -/
theorem heard_controller (hinstType : Plain instType) {event : Controller.Event}
    (hsliced : Controller.Sliced s.world.controller)
    (henabled : (Controller.system rest S streamId).enabled s.world event)
    {s' : PublicStreams S} (hs' : s' = react rest config (fresh s) (.controller event))
    (hplain : ∀ symbol ∈ Controller.received s'.world, Plain symbol) (i : ℕ) :
    (∃ new, Controller.received s'.world = Controller.received s.world ++ new) ∧
      s'.ready i = (event.connection? i).getD (s.ready i) ∧
      heard (sentTexts instType i s'.actions) = some (subscriptions instType
        (if s'.ready i then sliceFrom S.sliceSize (Controller.received s'.world) i
          (if (event.connection? i).isSome then 0 else (Controller.received s.world).length)
        else [])) := by
  obtain ⟨hreceived, hready, hrequests⟩ := Controller.step_asking hsliced henabled
  have hworld : s'.world = ((Controller.system rest S streamId).step s.world event).1 := by
    rw [hs']
    rfl
  have hactions : s'.actions =
      ((Controller.system rest S streamId).step s.world event).2.map .controller := by
    rw [hs']
    rfl
  have hrequests : Controller.requestsOf i
      ((Controller.system rest S streamId).step s.world event).2 = _ := hrequests i
  rw [← hworld] at hreceived hready hrequests
  refine ⟨hreceived, hready i, ?_⟩
  rw [hactions, sentTexts_controller, hrequests]
  show heard (List.map _ (if s'.ready i = true then _ else _)) = _
  split_ifs
  · exact heard_asks hinstType fun symbol hsymbol =>
      hplain symbol (List.mem_of_mem_take (List.mem_of_mem_drop hsymbol))
  · exact heard_asks hinstType fun symbol hsymbol =>
      hplain symbol (List.mem_of_mem_take (List.mem_of_mem_drop hsymbol))
  · rfl

/-- What the exchange has read on the connection of the `i`-th stream are the subscriptions to its
slice, if the stream is ready, and nothing otherwise. -/
def Hears (instType : String) (i : ℕ) (h : History Event Action) (s : PublicStreams S) : Prop :=
  ∃ read, heard (textsSince instType i h) = some read ∧
    read.Perm (subscriptions instType
      (if s.ready i then slice S.sliceSize (Controller.received s.world) i else []))

/-- **Step lemma.** What the exchange has read stays what it should have read. -/
theorem Hears.step (hinstType : Plain instType) (henabled : enabled rest streamId s e)
    (hsliced : Controller.Sliced s.world.controller)
    (hplain : ∀ symbol ∈ Controller.received (react rest config (fresh s) e).world, Plain symbol)
    {i : ℕ} (hs : Hears instType i h s) :
    Hears instType i (⟨e, (react rest config (fresh s) e).actions⟩ :: h)
      (react rest config (fresh s) e) := by
  obtain ⟨read, hread, hperm⟩ := hs
  by_cases he : ∃ event, e = .controller event
  · obtain ⟨event, rfl⟩ := he
    obtain ⟨⟨new, hreceived⟩, hready, hnew⟩ :=
      heard_controller hinstType hsliced henabled.2 rfl hplain i
    rw [Hears, textsSince_cons]
    show ∃ read, heard ((if (event.connection? i).isSome then [] else _) ++ _) = some read ∧ _
    cases hconnection : event.connection? i with
    | some status =>
      -- the texts are those of this event
      rw [hconnection] at hready hnew
      refine ⟨_, hnew, ?_⟩
      rw [hready]
      simp
    | none =>
      -- a stream that is ready asks for what its slice has gained
      rw [hconnection] at hready hnew
      refine ⟨_, heard_append hread hnew, (hperm.append_right _).trans ?_⟩
      refine (subscriptions_append _ _ _).trans ?_
      rw [show PublicStreams.ready _ i = s.ready i from hready, hreceived]
      cases s.ready i with
      | true =>
        simp only [if_true, Option.isSome_none, Bool.false_eq_true, if_false]
        rw [← slice_append]
      | false => exact .refl _
  · replace he : ∀ event, e ≠ .controller event := fun event heq => he ⟨event, heq⟩
    have hconnection : e.connection? i = none := by
      cases e with
      | controller event => exact absurd rfl (he event)
      | _ => rfl
    have hworld := (apart_react rest config (fresh s) e he).world
    refine ⟨read ++ [], ?_, ?_⟩
    · rw [textsSince_cons, hconnection]
      exact heard_append hread (heard_other he i)
    · rw [List.append_nil, ready, stream?, hworld]
      exact hperm

/-! ## What is heard in a run -/

/-- A symbol of the events of the `Controller` is one of the events of the streams. -/
theorem mem_view_iff (symbol : String) :
    (∃ entry ∈ (simulation rest config S streamId).view h, symbol ∈ entry.event.symbols rest) ↔
      ∃ entry ∈ h, symbol ∈ entry.event.symbols rest := by
  constructor
  · rintro ⟨entry, hentry, hsymbol⟩
    obtain ⟨entry', hentry', hview⟩ := List.mem_filterMap.mp hentry
    obtain ⟨event, hevent, rfl⟩ := Option.map_eq_some_iff.mp hview
    refine ⟨entry', hentry', ?_⟩
    obtain ⟨event', actions⟩ := entry'
    cases event' with
    | controller event' =>
      obtain rfl : event' = event := Option.some.inj hevent
      exact hsymbol
    | _ => cases hevent
  · rintro ⟨⟨event, actions⟩, hentry, hsymbol⟩
    cases event with
    | controller event =>
      exact ⟨_, List.mem_filterMap.mpr ⟨_, hentry, rfl⟩, hsymbol⟩
    | _ => cases hsymbol

/-- The subscriptions of a run. -/
theorem subscribed_of_run (run : Run (system rest config S streamId) ok h s) :
    (Controller.received s.world).Nodup ∧ Controller.Sliced s.world.controller ∧
      ∀ symbol, symbol ∈ Controller.received s.world ↔
        ∃ entry ∈ h, symbol ∈ entry.event.symbols rest := by
  have hrun : Run (Controller.system rest S streamId) anyStep
      ((simulation rest config S streamId).view h) s.world :=
    (simulation rest config S streamId).run (fun _ _ _ _ _ _ => trivial) run
  have hsubscribed := Controller.subscribed_of_run hrun
  exact ⟨hsubscribed.nodup, hsubscribed.sliced, fun symbol =>
    (Controller.mem_received_iff hrun symbol).trans (mem_view_iff symbol)⟩

/-- What the exchange has read in a run is what it should have read. -/
theorem hears_of_run (hinstType : Plain instType)
    (run : Run (system rest config S streamId)
      (fun _ _ e => ∀ symbol ∈ e.symbols rest, Plain symbol) h s) (i : ℕ) :
    Hears instType i h s := by
  refine run.invariant (P := fun h s => Hears instType i h s) ⟨[], rfl, .refl _⟩ ?_
  intro h s e hrun hs henabled he
  have hnext := hrun.step henabled he
  refine hs.step hinstType henabled (subscribed_of_run hrun).2.1 fun symbol hsymbol => ?_
  obtain ⟨entry, hentry, hmem⟩ := ((subscribed_of_run hnext).2.2 symbol).mp hsymbol
  obtain ⟨_, _, _, _, hplain, _⟩ := hnext.of_mem hentry
  exact hplain symbol hmem

end Runs

/-! ## A stream that reconnects -/

/-- Three symbols arrive. The first stream gets ready, sends a ping, loses its connection and gets
ready again. -/
def reconnected : List Event :=
  [.controller (.subscribe ["BTCUSDT"]), .controller (.ready 0), .timer 10,
    .controller (.subscribe ["ETHUSDT", "SOLUSDT"]), .timer 20, .controller (.disconnected 0),
    .controller (.ready 0), .timer 30]

end PublicStreams

end RoqBitget.Gateway
