import RoqBitget.Foundations.Pacing
import RoqBitget.Foundations.Simulation
import RoqBitget.Gateway.Fills
import RoqBitget.Gateway.Parser
import RoqBitget.Gateway.Positions
import RoqBitget.Gateway.Session
import RoqBitget.Tools.Crypto

set_option relaxedAutoImplicit false
set_option autoImplicit false

/-!
# The messages of a private stream

A `DropCopy` stream with everything it does: it logs in, parses the texts it receives, publishes
what they say about the account, sends order actions and pings, and all the while downloads. The
vector in which the fills of a message are collected is shared with other streams.

## Main definitions

* `RoqBitget.Gateway.DropCopy.onCall`, `parse` — the handler, and what a text leads to.
* `RoqBitget.Gateway.PrivateStream.system` — the stream, as a system that contains that of the
  two streams of the account.
* `RoqBitget.Gateway.DropCopy.updatesOf` — what is dispatched for a text on its own.
* `RoqBitget.Gateway.DropCopy.Says` — an update was made from a text of its kind.

## Main results

* `RoqBitget.Gateway.PrivateStream.refines_session` — what else the stream does leaves the
  download alone.
* `RoqBitget.Gateway.PrivateStream.accountUpdates_isolated` — the stream dispatches what its texts
  say.
* `RoqBitget.Gateway.PrivateStream.connectionPings_paced` — when the stream sends a ping.

## Implementation notes

An exception that leaves a decoder is caught by `parse`, which ends the process, as `log::fatal`
does; nothing happens afterwards. The other streams that use the shared vector may leave anything
in it at any time. The request type that the handlers of acknowledgements read and do not use is
left out.
-/

namespace RoqBitget.Gateway

open RoqBitget.Core Runs

namespace DropCopy

/-! ## The handler -/

/-- What is dispatched. -/
inductive Update
  | funds (fundsUpdate : FundsUpdate)
  | position (positionUpdate : PositionUpdate)
  | order (orderUpdate : Oms.OrderUpdate) (streamId : ℕ)
  | trade (tradeUpdate : TradeUpdate)
  | response (dispatched : Dispatched)
  deriving DecidableEq

/-- What ends the process, except for a login that is refused. -/
inductive MessageFatal
  /-- `Error` says that the login failed. -/
  | error
  /-- A message of a public stream, or a binary message. -/
  | unexpected
  /-- `Parser::dispatch`. -/
  | parser
  /-- `utils::exceptions::Unhandled::terminate`. -/
  | terminate
  deriving DecidableEq

/-- The settings, and the code outside of the repository that the stream uses. -/
structure MessageConfig extends Config where
  stream : Stream
  /-- `account_`. -/
  account : Tools.Account
  signing : Tools.Signing
  /-- `settings.experimental.allow_unknown_event_types`. -/
  allowUnknownEventTypes : Bool
  /-- `settings.experimental.retry_logon`. -/
  retryLogon : Bool
  /-- `settings.ws.ping_freq`. -/
  wsPingFreq : Nanoseconds
  /-- `settings.ws.request_timeout`. -/
  wsRequestTimeout : Nanoseconds
  /-- The generated decoders. -/
  decoders : Protocol.Parser.Decoders
  format : Protocol.Encoder.Format
  /-- `api.inst_type`. -/
  instType : String

/-- What a call of the handler leads to. -/
inductive Reaction
  /-- Updates are dispatched; the shared vector afterwards. -/
  | dispatch (updates : List Update) (shared : Shared)
  /-- The download handles the event. -/
  | session (event : Event)
  /-- `(*connection_).close()`. -/
  | close
  | fatal (fatal : MessageFatal)

/-- `DropCopy` as `Parser::Handler`. -/
def onCall (config : MessageConfig) (shared : Shared) : Protocol.Parser.Call → Reaction
  | .error obj =>
    match onError config.stream config.retryLogon obj with
    | .respond dispatched => .dispatch [.response dispatched] shared
    | .close => .close
    | .log => .dispatch [] shared
    | .fatal => .fatal .error
  | .subscribe obj => .session (.subscribed obj.topic obj.code)
  | .ticker _ => .fatal .unexpected
  | .publicTrade _ => .fatal .unexpected
  | .books _ => .fatal .unexpected
  | .login obj => .session (.login obj.code)
  | .account obj => .dispatch ((onAccount config.stream obj).map .funds) shared
  | .position obj => .dispatch ((onPosition config.stream obj).map .position) shared
  | .order obj =>
    .dispatch ((onOrder config.stream obj).map (.order · config.stream.streamId)) shared
  | .fill obj =>
    let (updates, shared) := onFill config.stream shared obj
    .dispatch (updates.map .trade) shared
  | .placeOrder obj => .dispatch ((onPlaceOrder config.stream obj).map .response) shared
  | .modifyOrder obj => .dispatch ((onModifyOrder config.stream obj).map .response) shared
  | .cancelOrder obj => .dispatch ((onCancelOrder config.stream obj).map .response) shared

/-- `DropCopy::parse`. -/
def parse (config : MessageConfig) (shared : Shared) (message : String) : Reaction :=
  match Protocol.Parser.dispatch config.decoders message config.allowUnknownEventTypes with
  | .dropped => .dispatch [] shared
  | .called call => onCall config shared call
  | .unexpected => .dispatch [] shared
  | .fatal => .fatal .parser
  | .threw => .fatal .terminate

/-! ## What a text leads to -/

/-- What is dispatched in a reaction. -/
def Reaction.updates : Reaction → List Update
  | .dispatch updates _ => updates
  | _ => []

/-- What is dispatched for a text on its own. -/
def updatesOf (config : MessageConfig) (message : String) : List Update :=
  (parse config ⟨[]⟩ message).updates

/-- The same reaction but for the shared vector. -/
def Reaction.withShared (shared : Shared) : Reaction → Reaction
  | .dispatch updates _ => .dispatch updates shared
  | reaction => reaction

section Texts

variable (config : MessageConfig) (shared : Shared)

/-- What a call leads to does not depend on what was collected before. -/
theorem onCall_shared (call : Protocol.Parser.Call) :
    (onCall config shared call).withShared ⟨[]⟩ = (onCall config ⟨[]⟩ call).withShared ⟨[]⟩ := by
  cases call with
  | error obj =>
    simp only [onCall]
    cases onError config.stream config.retryLogon obj <;> rfl
  | _ => rfl

/-- **A text on its own.** What a text leads to does not depend on what was collected before. -/
theorem parse_shared (message : String) :
    (parse config shared message).withShared ⟨[]⟩ =
      (parse config ⟨[]⟩ message).withShared ⟨[]⟩ := by
  unfold parse
  cases Protocol.Parser.dispatch config.decoders message config.allowUnknownEventTypes with
  | called call => exact onCall_shared config shared call
  | _ => rfl

/-- The updates do not depend on the shared vector. -/
theorem updates_withShared (reaction : Reaction) :
    (reaction.withShared shared).updates = reaction.updates := by
  cases reaction <;> rfl

/-- The download handles the same event, whatever was collected before. -/
theorem parse_eq_session {message : String} {event : Event} :
    parse config shared message = .session event ↔ parse config ⟨[]⟩ message = .session event := by
  have hsame := parse_shared config shared message
  constructor
  · intro h
    rw [h] at hsame
    cases halone : parse config ⟨[]⟩ message <;> simp_all [Reaction.withShared]
  · intro h
    rw [h] at hsame
    cases hshared : parse config shared message <;> simp_all [Reaction.withShared]

/-- The download handles logins and subscriptions. -/
theorem event_of_parse {message : String} {event : Event}
    (h : parse config shared message = .session event) :
    (∃ code, event = .login code) ∨ ∃ topic code, event = .subscribed topic code := by
  unfold parse at h
  cases hdispatch : Protocol.Parser.dispatch config.decoders message
      config.allowUnknownEventTypes with
  | called call =>
    rw [hdispatch] at h
    cases call with
    | login obj =>
      obtain rfl : Event.login obj.code = event := by simpa [onCall] using h
      exact .inl ⟨_, rfl⟩
    | subscribe obj =>
      obtain rfl : Event.subscribed obj.topic obj.code = event := by simpa [onCall] using h
      exact .inr ⟨_, _, rfl⟩
    | error obj =>
      simp only [onCall] at h
      cases hreaction : onError config.stream config.retryLogon obj <;> simp [hreaction] at h
    | _ => simp [onCall] at h
  | _ => simp [hdispatch] at h

/-- What is dispatched for a text is what is dispatched for it on its own. -/
theorem updates_parse (message : String) :
    (parse config shared message).updates = updatesOf config message := by
  rw [← updates_withShared ⟨[]⟩, parse_shared, updates_withShared, updatesOf]

/-- A text says an update: it was decoded to a message of the kind that it says it is, and the
handler of that kind dispatches the update. -/
def Says (message : String) (update : Update) : Prop :=
  ∃ message2 call, config.decoders.message message = some message2 ∧
    call.OfKind config.allowUnknownEventTypes message2 ∧
    call.DecodedFrom config.decoders message ∧ update ∈ (onCall config ⟨[]⟩ call).updates

/-- What is dispatched for a text is said by it. -/
theorem says_of_mem_updatesOf {message : String} {update : Update}
    (h : update ∈ updatesOf config message) : Says config message update := by
  unfold updatesOf parse at h
  cases hdispatch : Protocol.Parser.dispatch config.decoders message
      config.allowUnknownEventTypes with
  | called call =>
    rw [hdispatch] at h
    obtain ⟨-, message2, hmessage, hkind, hdecoded⟩ :=
      Protocol.Parser.dispatch_eq_called.mp hdispatch
    exact ⟨message2, call, hmessage, hkind, hdecoded, h⟩
  | _ => simp [hdispatch, Reaction.updates] at h

end Texts

end DropCopy

/-! ## The stream -/

/-- A `DropCopy` stream, and what it shares with the REST stream of the account and others. -/
structure PrivateStream (L : LimitRequest) (D : Download2 DropCopy.State (World L)) where
  session : DropCopy.Session L D
  /-- `shared_`. -/
  shared : Shared
  /-- `logon_timeout_`. -/
  logonTimeout : Nanoseconds
  /-- `next_ping_`. -/
  nextPing : Nanoseconds
  /-- `encode_buffer_`. -/
  encodeBuffer : String
  /-- What ended the process, except for the reasons in `session`. -/
  ended : Option DropCopy.MessageFatal

namespace PrivateStream

open DropCopy Protocol.Encoder

/-- What is done while an event is handled. -/
inductive Action
  /-- An action of the two streams of the account. -/
  | session (action : Gateway.Action)
  | update (update : Update)
  /-- `(*connection_).close()`. -/
  | close
  | latency (sample : Nanoseconds)
  /-- The login is sent. -/
  | login (message : String)
  | ping
  /-- An order action is sent. -/
  | sendOrder (message : String)
  /-- `server::oms::NotReady`. -/
  | notReady
  /-- The exception of the encoder. -/
  | notEncoded (error : Protocol.MapError)
  deriving DecidableEq

/-- What happens to the stream. -/
inductive Event
  /-- An event of the REST stream of the account. -/
  | rest (event : Gateway.Event)
  /-- Another stream uses the shared vector. -/
  | shared (fills : List Fill)
  | connected (now : Nanoseconds)
  | ready (originCreateTimeUtc : Nanoseconds)
  | close
  | latency (sample : Nanoseconds)
  | text (payload : String)
  | binary
  | disconnected
  | timer (refresh : Bool) (now : Nanoseconds) (stale : List OrderKey)
  /-- An order is to be created, modified or cancelled. -/
  | order (action : OrderAction) (order : Order) (refData : RefData) (requestId : String)

variable {L : LimitRequest} {D : Download2 DropCopy.State (World L)}

/-- The two streams of the account react to an event. -/
def react1 (config : MessageConfig) (event : Gateway.Event) (s : PrivateStream L D) :
    PrivateStream L D × List Action :=
  let session := Gateway.react config.toConfig (fresh s.session) event
  ({ s with session := session }, session.world.actions.map .session)

/-- `DropCopy::operator()(Trace<web::socket::Connected> const &)`, but for its assertion. -/
def onConnected (config : MessageConfig) (now : Nanoseconds) (s : PrivateStream L D) :
    PrivateStream L D × List Action :=
  ({ s with logonTimeout := now + config.wsRequestTimeout }, [])

/-- `DropCopy::operator()(Trace<web::socket::Disconnected> const &)`. -/
def onDisconnected (config : MessageConfig) (s : PrivateStream L D) :
    PrivateStream L D × List Action :=
  react1 config .disconnected { s with logonTimeout := 0, nextPing := 0 }

/-- `DropCopy::operator()(Trace<web::socket::Ready> const &)`, which calls `send_login`. -/
def onReady (config : MessageConfig) (originCreateTimeUtc : Nanoseconds) (s : PrivateStream L D) :
    PrivateStream L D × List Action :=
  (s, [.login (config.account.createWsLogin config.signing originCreateTimeUtc)])

/-- `DropCopy::operator()(Trace<web::socket::Text> const &)`. -/
def onText (config : MessageConfig) (payload : String) (s : PrivateStream L D) :
    PrivateStream L D × List Action :=
  match parse config s.shared payload with
  | .dispatch updates shared => ({ s with shared := shared }, updates.map .update)
  | .session event => react1 config event s
  | .close => (s, [.close])
  | .fatal fatal => ({ s with ended := some fatal }, [])

/-- `DropCopy::send_ping`. -/
def sendPing (config : MessageConfig) (now : Nanoseconds) (s : PrivateStream L D) :
    PrivateStream L D × List Action :=
  if s.nextPing < now then ({ s with nextPing := now + config.wsPingFreq }, [.ping]) else (s, [])

/-- `DropCopy::operator()(Trace<Timer> const &)`; `refresh` is the result of
`(*connection_).refresh`. -/
def onTimer (config : MessageConfig) (refresh : Bool) (now : Nanoseconds) (stale : List OrderKey)
    (s : PrivateStream L D) : PrivateStream L D × List Action :=
  let (s, pings) := if refresh then sendPing config now s else (s, [])
  let (s, actions) := react1 config (.timer refresh now stale) s
  (s, pings ++ actions)

/-- `DropCopy::operator()(Event<CreateOrder> const &, …)`, and the same for the other two. -/
def onOrder (config : MessageConfig) (action : OrderAction) (order : Order) (refData : RefData)
    (requestId : String) (s : PrivateStream L D) : PrivateStream L D × List Action :=
  if DropCopy.ready s.session.world then
    match message config.format s.encodeBuffer action order refData requestId config.instType with
    | .ok message => ({ s with encodeBuffer := message }, [.sendOrder message])
    | .error error => (s, [.notEncoded error])
  else (s, [.notReady])

/-- The reaction to an event. -/
def react (config : MessageConfig) (s : PrivateStream L D) :
    Event → PrivateStream L D × List Action
  | .rest event => react1 config event s
  | .shared fills => ({ s with shared := ⟨fills⟩ }, [])
  | .connected now => onConnected config now s
  | .ready originCreateTimeUtc => onReady config originCreateTimeUtc s
  | .close => (s, [])
  | .latency sample => (s, [.latency sample])
  | .text payload => onText config payload s
  | .binary => ({ s with ended := some .unexpected }, [])
  | .disconnected => onDisconnected config s
  | .timer refresh now stale => onTimer config refresh now stale s
  | .order action order refData requestId => onOrder config action order refData requestId s

/-- Nothing happens after the end of the process. -/
def enabled (s : PrivateStream L D) (e : Event) : Prop :=
  s.ended = none ∧ s.session.world.aborted = none ∧
    match e with
    | .rest event => event.isWebsocket = false ∧ Gateway.enabled s.session event
    | _ => True

instance (s : PrivateStream L D) : (e : Event) → Decidable (enabled s e)
  | .rest event =>
    inferInstanceAs (Decidable (_ ∧ _ ∧ event.isWebsocket = false ∧ Gateway.enabled _ event))
  | .shared _ | .connected _ | .ready _ | .close | .latency _ | .text _ | .binary | .disconnected
  | .timer _ _ _ | .order _ _ _ _ => inferInstanceAs (Decidable (_ ∧ _ ∧ True))

/-- The stream. -/
def system (config : MessageConfig) (L : LimitRequest)
    (D : Download2 DropCopy.State (World L)) : System (PrivateStream L D) Event Action where
  init := ⟨⟨D.create, World.initial L⟩, ⟨[]⟩, 0, 0, "", none⟩
  enabled := enabled
  step := react config

instance (config : MessageConfig) (s : PrivateStream L D) (e : Event) :
    Decidable ((system config L D).enabled s e) := inferInstanceAs (Decidable (enabled s e))

/-! ## The download -/

/-- What an event is for the two streams of the account. -/
def sessionEvent (config : MessageConfig) : Event → Option Gateway.Event
  | .rest event => some event
  | .disconnected => some .disconnected
  | .timer refresh now stale => some (.timer refresh now stale)
  | .text payload =>
    match parse config ⟨[]⟩ payload with
    | .session event => some event
    | _ => none
  | _ => none

/-- The actions of the two streams of the account. -/
def Action.session? : Action → Option Gateway.Action
  | .session action => some action
  | _ => none

/-- Only the actions of the streams are observed. -/
theorem session_map (actions : List Gateway.Action) :
    (actions.map Action.session).filterMap Action.session? = actions := by
  rw [List.filterMap_map]
  exact List.filterMap_some

/-- An update is not one of them. -/
theorem session_update (updates : List Update) :
    (updates.map Action.update).filterMap Action.session? = [] := by
  rw [List.filterMap_map]
  exact List.filterMap_eq_nil_iff.mpr fun _ _ => rfl

/-- The streams react to an event as they do on their own. -/
theorem react1_visible (config : MessageConfig) (event : Gateway.Event) (s : PrivateStream L D) :
    (Gateway.system config.toConfig L D).step s.session event =
      ((react1 config event s).1.session,
        (react1 config event s).2.filterMap Action.session?) := by
  rw [react1, session_map]
  rfl

/-- A tick sends a ping if the connection is up and the time of the next ping has come, and is
then handled by the streams of the account. -/
theorem onTimer_eq (config : MessageConfig) (refresh : Bool) (now : Nanoseconds)
    (stale : List OrderKey) (s : PrivateStream L D) :
    onTimer config refresh now stale s =
      let r := react1 config (.timer refresh now stale) s
      if refresh = true ∧ s.nextPing < now then
        ({ r.1 with nextPing := now + config.wsPingFreq }, .ping :: r.2)
      else r := by
  unfold onTimer sendPing
  cases refresh with
  | true =>
    by_cases hdue : s.nextPing < now
    · simp only [hdue, and_self, if_true]
      rfl
    · simp only [hdue, and_false, if_false]
      rfl
  | false => rfl

/-- An order action leaves the streams of the account alone. -/
theorem onOrder_session (config : MessageConfig) (action : OrderAction) (order : Order)
    (refData : RefData) (requestId : String) (s : PrivateStream L D) :
    (onOrder config action order refData requestId s).1.session = s.session ∧
      (onOrder config action order refData requestId s).2.filterMap Action.session? = [] := by
  unfold onOrder
  split_ifs
  · cases message config.format s.encodeBuffer action order refData requestId config.instType <;>
      exact ⟨rfl, rfl⟩
  · exact ⟨rfl, rfl⟩

/-- **The stream does what the two streams of the account do, and more.** -/
def simulation (config : MessageConfig) (L : LimitRequest)
    (D : Download2 DropCopy.State (World L)) :
    Simulation (system config L D) (Gateway.system config.toConfig L D) where
  abs s := s.session
  event := sessionEvent config
  observe := Action.session?
  abs_init := rfl
  enabled s e d henabled hevent := by
    obtain ⟨-, haborted, hevent'⟩ := henabled
    cases e with
    | rest event =>
      obtain rfl : event = d := Option.some.inj hevent
      exact hevent'.2
    | disconnected =>
      obtain rfl : Gateway.Event.disconnected = d := Option.some.inj hevent
      exact ⟨haborted, trivial⟩
    | timer refresh now stale =>
      obtain rfl : Gateway.Event.timer refresh now stale = d := Option.some.inj hevent
      exact ⟨haborted, trivial⟩
    | text payload =>
      simp only [sessionEvent] at hevent
      cases hparse : parse config ⟨[]⟩ payload with
      | session event =>
        obtain rfl : event = d := by simpa [hparse] using hevent
        rcases event_of_parse config ⟨[]⟩ hparse with ⟨code, rfl⟩ | ⟨topic, code, rfl⟩
        · exact ⟨haborted, trivial⟩
        · exact ⟨haborted, trivial⟩
      | _ => simp [hparse] at hevent
    | _ => simp [sessionEvent] at hevent
  visible s e d henabled hevent := by
    cases e with
    | rest event =>
      obtain rfl : event = d := Option.some.inj hevent
      exact react1_visible config event s
    | disconnected =>
      obtain rfl : Gateway.Event.disconnected = d := Option.some.inj hevent
      exact react1_visible config _ { s with logonTimeout := 0, nextPing := 0 }
    | timer refresh now stale =>
      obtain rfl : Gateway.Event.timer refresh now stale = d := Option.some.inj hevent
      have hvisible := react1_visible config (.timer refresh now stale) s
      show (Gateway.system config.toConfig L D).step s.session (.timer refresh now stale) =
        ((onTimer config refresh now stale s).1.session,
          (onTimer config refresh now stale s).2.filterMap Action.session?)
      rw [onTimer_eq]
      dsimp only
      split_ifs
      · exact hvisible
      · exact hvisible
    | text payload =>
      simp only [sessionEvent] at hevent
      cases hparse : parse config ⟨[]⟩ payload with
      | session event =>
        obtain rfl : event = d := by simpa [hparse] using hevent
        have hshared := (parse_eq_session config s.shared).mpr hparse
        have hreact : (system config L D).step s (.text payload) = react1 config event s := by
          simp only [system, react, onText, hshared]
        rw [hreact]
        exact react1_visible config event s
      | _ => simp [hparse] at hevent
    | _ => simp [sessionEvent] at hevent
  hidden s e henabled hevent := by
    cases e with
    | rest event => simp [sessionEvent] at hevent
    | disconnected => simp [sessionEvent] at hevent
    | timer refresh now stale => simp [sessionEvent] at hevent
    | text payload =>
      show (onText config payload s).1.session = s.session ∧
        (onText config payload s).2.filterMap Action.session? = []
      unfold onText
      cases hparse : parse config s.shared payload with
      | dispatch updates shared => exact ⟨rfl, session_update updates⟩
      | session event =>
        simp [sessionEvent, (parse_eq_session config s.shared).mp hparse] at hevent
      | close => exact ⟨rfl, rfl⟩
      | fatal fatal => exact ⟨rfl, rfl⟩
    | order action order refData requestId =>
      exact onOrder_session config action order refData requestId s
    | _ => exact ⟨rfl, rfl⟩

variable {config : MessageConfig} {ok : History Event Action → PrivateStream L D → Event → Prop}
  {h : History Event Action} {s : PrivateStream L D}

/-- **What else the stream does leaves the download alone.** Whatever texts, order actions and
pings come between them, the events of the two streams of the account lead to the states, and to
the actions in the order, to which they lead without; logins and subscriptions are those that the
parser finds in the texts. -/
theorem refines_session (run : Run (system config L D) ok h s) :
    let sim := simulation config L D
    Run (Gateway.system config.toConfig L D) anyStep (sim.view h) s.session ∧
      Runs.actions (sim.view h) = (Runs.actions h).filterMap Action.session? :=
  let sim := simulation config L D
  ⟨sim.run (fun _ _ _ _ _ _ => trivial) run, sim.actions_view run⟩

/-! ## A stream with some messages -/

/-- Decoders that know four texts: a login, a fill, the acknowledgement of a cancellation, and
the refusal of another one. -/
def simpleDecoders : Protocol.Parser.Decoders where
  message text :=
    if text = "login" then some ⟨.login, .undefinedInternal, .undefinedInternal⟩
    else if text = "fill" then some ⟨.undefinedInternal, .undefinedInternal, .fill⟩
    else if text = "cancelled" then some ⟨.trade, .cancelOrder, .undefinedInternal⟩
    else if text = "refused" then some ⟨.error, .undefinedInternal, .undefinedInternal⟩
    else none
  error _ := some ⟨25204, "order does not exist", "C:1002"⟩
  subscribe _ := none
  ticker _ := none
  publicTrade _ := none
  books _ := none
  login _ := some ⟨0, "success"⟩
  account _ := none
  position _ := none
  order _ := none
  fill _ := some oneFill
  placeOrder _ := none
  modifyOrder _ := none
  cancelOrder _ := some ⟨"C:1001", [⟨"77", "oAAB"⟩], 0, "success"⟩

/-- The settings of a stream that is the master of its account, or not. -/
def simpleMessageConfig (master : Bool) : MessageConfig where
  toConfig := { simpleConfig with master := master }
  stream := ⟨3, "A1", "bitget"⟩
  account := Tools.simpleAccount
  signing := Tools.simpleSigning
  allowUnknownEventTypes := false
  retryLogon := false
  wsPingFreq := 5
  wsRequestTimeout := seconds 5
  decoders := simpleDecoders
  format := simpleFormat
  instType := "usdt-futures"

/-- A stream with the reference implementations of the slots and of the sequencer. -/
abbrev simpleStream (master : Bool) : System (PrivateStream flags sequencer) Event Action :=
  system (simpleMessageConfig master) flags sequencer

/-- The stream logs in and receives a fill between two ticks, while another stream uses the
shared vector. -/
def loginAndFill : List Event :=
  [.connected 1, .ready (seconds 1700000000), .text "login", .timer true 10 [],
    .shared (oneFill.data.map (FillItem.fill ∘ fillDataItem)), .text "fill", .timer true 12 []]

/-- The run over these events. -/
theorem run_loginAndFill : Run (simpleStream true) anyStep
    (play (simpleStream true) loginAndFill).1 (play (simpleStream true) loginAndFill).2 :=
  Run.play (by decide +kernel)

/-- The download has begun, as it would have without the fill. -/
theorem loginAndFill_refines :
    ∃ h', Run (Gateway.system { simpleConfig with master := true } flags sequencer) anyStep h'
        (play (simpleStream true) loginAndFill).2.session ∧
      .request .account ∈ Runs.actions h' := by
  obtain ⟨hrun, hactions⟩ := refines_session run_loginAndFill
  exact ⟨_, hrun, hactions ▸ by decide +kernel⟩

/-! ## What is dispatched -/

/-- The text that is received. -/
def Event.text? : Event → Option String
  | .text payload => some payload
  | _ => none

/-- An update that is dispatched. -/
def Action.update? : Action → Option Update
  | .update new => some new
  | _ => none

/-- The texts that were received, in order. -/
def texts : History Event Action → List String
  | [] => []
  | entry :: h => texts h ++ entry.event.text?.toList

/-- The updates that were dispatched, in order. -/
def updates (actions : List Action) : List Update := actions.filterMap Action.update?

/-- The actions of the streams of the account dispatch nothing. -/
theorem updates_session (actions : List Gateway.Action) : updates (actions.map .session) = [] := by
  rw [updates, List.filterMap_map]
  exact List.filterMap_eq_nil_iff.mpr fun _ _ => rfl

/-- Updates are dispatched. -/
theorem updates_update (new : List Update) : updates (new.map .update) = new := by
  rw [updates, List.filterMap_map]
  exact List.filterMap_some

/-- **Step lemma.** The updates of a reaction are those of the text on its own. -/
theorem updates_react (config : MessageConfig) (s : PrivateStream L D) (e : Event) :
    updates (react config s e).2 = e.text?.toList.flatMap (updatesOf config) := by
  cases e with
  | rest event => exact updates_session _
  | disconnected => exact updates_session _
  | timer refresh now stale =>
    show updates (onTimer config refresh now stale s).2 = []
    rw [onTimer_eq]
    dsimp only
    split_ifs
    · exact updates_session _
    · exact updates_session _
  | text payload =>
    show updates (onText config payload s).2 = [payload].flatMap (updatesOf config)
    rw [List.flatMap_singleton, ← updates_parse config s.shared, onText]
    cases parse config s.shared payload with
    | dispatch new shared => exact updates_update new
    | session event => exact updates_session _
    | close => rfl
    | fatal fatal => rfl
  | order action order refData requestId =>
    show updates (onOrder config action order refData requestId s).2 = []
    unfold onOrder
    split_ifs
    · cases message config.format s.encodeBuffer action order refData requestId
        config.instType <;> rfl
    · rfl
  | _ => rfl

/-- **Run lemma.** The updates of a run are those of its texts. -/
theorem updates_of_run (run : Run (system config L D) ok h s) :
    updates (Runs.actions h) = (texts h).flatMap (updatesOf config) := by
  refine run.invariant (P := fun h _ => updates (Runs.actions h) =
    (texts h).flatMap (updatesOf config)) rfl ?_
  intro h s e _ ih _ _
  rw [Runs.actions_cons, updates, List.filterMap_append, texts, List.flatMap_append]
  exact congrArg₂ _ ih (updates_react config s e)

/-- **What the stream dispatches is what its texts say**, one by one and in order. What other
streams leave in the shared vector, and when, makes no difference. Every update comes from a text
that was decoded to a message of its kind. -/
theorem accountUpdates_isolated (run : Run (system config L D) ok h s) :
    updates (Runs.actions h) = (texts h).flatMap (updatesOf config) ∧
      ∀ update ∈ updates (Runs.actions h), ∃ message ∈ texts h, Says config message update := by
  have hupdates := updates_of_run run
  refine ⟨hupdates, fun update hupdate => ?_⟩
  rw [hupdates] at hupdate
  obtain ⟨message, hmessage, hmem⟩ := List.mem_flatMap.mp hupdate
  exact ⟨message, hmessage, says_of_mem_updatesOf config hmem⟩

/-- The fill is dispatched once, whatever the other stream left. -/
theorem loginAndFill_isolated :
    updates (Runs.actions (play (simpleStream true) loginAndFill).1) =
      (onFill ⟨3, "A1", "bitget"⟩ ⟨[]⟩ oneFill).1.map .trade :=
  (accountUpdates_isolated run_loginAndFill).1.trans (by decide +kernel)

/-! ## Pings -/

/-- The connection was lost. -/
def isDisconnected (entry : Entry Event Action) : Bool :=
  match entry.event with
  | .disconnected => true
  | _ => false

/-- The times of the ticks at which a ping was sent since the connection was lost, latest
first. -/
def pingTimes (h : History Event Action) : List Nanoseconds :=
  (since isDisconnected h).filterMap fun entry =>
    match entry.event with
    | .timer _ now _ => if .ping ∈ entry.actions then some now else none
    | _ => none

/-- The streams of the account send no pings. -/
theorem ping_notMem_session (actions : List Gateway.Action) :
    Action.ping ∉ actions.map Action.session := by simp

/-- The pings of a tick. -/
theorem ping_mem_onTimer (config : MessageConfig) (refresh : Bool) (now : Nanoseconds)
    (stale : List OrderKey) (s : PrivateStream L D) :
    Action.ping ∈ (onTimer config refresh now stale s).2 ↔
      refresh = true ∧ s.nextPing < now := by
  rw [onTimer_eq]
  dsimp only
  split_ifs with hdue
  · exact iff_of_true List.mem_cons_self hdue
  · exact iff_of_false (ping_notMem_session _) hdue

/-- A tick of a connection that is up is an attempt to send a ping, and any other tick does
nothing. -/
theorem pingTimes_timer (config : MessageConfig) (refresh : Bool) (now : Nanoseconds)
    (stale : List OrderKey) (h : History Event Action) (s : PrivateStream L D) :
    pingTimes (⟨.timer refresh now stale, (onTimer config refresh now stale s).2⟩ :: h) =
      if refresh then Pacing.done s.nextPing now (pingTimes h) else pingTimes h := by
  have hping := ping_mem_onTimer config refresh now stale s
  rw [pingTimes, since_cons_of_neg _ rfl, List.filterMap_cons]
  dsimp only
  rw [if_congr hping rfl rfl, Pacing.done, ← pingTimes]
  cases refresh with
  | true => by_cases hdue : s.nextPing < now <;> simp [hdue]
  | false => simp

/-- The time of the next ping after a tick. -/
theorem nextPing_onTimer (config : MessageConfig) (refresh : Bool) (now : Nanoseconds)
    (stale : List OrderKey) (s : PrivateStream L D) :
    (onTimer config refresh now stale s).1.nextPing =
      if refresh then Pacing.next config.wsPingFreq s.nextPing now else s.nextPing := by
  rw [onTimer_eq, Pacing.next]
  cases refresh with
  | true => by_cases hdue : s.nextPing < now <;> simp [hdue, react1]
  | false => simp [react1]

/-- Texts and order actions leave the time of the next ping alone. -/
theorem nextPing_react (config : MessageConfig) (s : PrivateStream L D) {e : Event}
    (he : (∃ payload, e = .text payload) ∨
      ∃ action order refData requestId, e = .order action order refData requestId) :
    (react config s e).1.nextPing = s.nextPing := by
  rcases he with ⟨payload, rfl⟩ | ⟨action, order, refData, requestId, rfl⟩
  · simp only [react, onText]
    cases parse config s.shared payload <;> rfl
  · simp only [react, onOrder]
    split_ifs
    · cases message config.format s.encodeBuffer action order refData requestId
        config.instType <;> rfl
    · rfl

/-- **The pace of the pings** is kept in every run, from one loss of the connection to the
next. -/
theorem paced_of_run (run : Run (system config L D) ok h s) :
    Pacing.Paced config.wsPingFreq (pingTimes h) s.nextPing := by
  refine run.invariant
    (P := fun h s => Pacing.Paced config.wsPingFreq (pingTimes h) s.nextPing) (.init _) ?_
  intro h s e _ hpaced _ _
  cases e with
  | disconnected => exact .init _
  | timer refresh now stale =>
    show Pacing.Paced _
      (pingTimes (⟨.timer refresh now stale, (onTimer config refresh now stale s).2⟩ :: h))
      (onTimer config refresh now stale s).1.nextPing
    rw [pingTimes_timer, nextPing_onTimer]
    cases refresh with
    | true => exact hpaced.attempt now
    | false => exact hpaced
  | text payload =>
    have hsame := nextPing_react config s (.inl ⟨payload, rfl⟩)
    exact hsame.symm ▸ hpaced
  | order action order refData requestId =>
    have hsame := nextPing_react config s (.inr ⟨action, order, refData, requestId, rfl⟩)
    exact hsame.symm ▸ hpaced
  | _ => exact hpaced

/-- **When the stream sends a ping.** In every run, the pings of one connection are more than
`ping_freq` apart, and none is left out: a tick sends a ping exactly if the connection is up and
the last ping since the connection was lost was more than `ping_freq` before, or there was none.
So after a tick of a connection that is up the last ping was at most `ping_freq` before. -/
theorem connectionPings_paced (run : Run (system config L D) ok h s) :
    (pingTimes h).IsChain (fun later earlier => earlier + config.wsPingFreq < later) ∧
      ∀ refresh now stale,
        (.ping ∈ ((system config L D).step s (.timer refresh now stale)).2 ↔
          refresh = true ∧ (pingTimes h).head?.elim (0 < now) (· + config.wsPingFreq < now)) ∧
        (refresh = true → 0 ≤ config.wsPingFreq → 0 < now →
          ∃ last ∈ (pingTimes (⟨.timer refresh now stale,
              ((system config L D).step s (.timer refresh now stale)).2⟩ :: h)).head?,
            now ≤ last + config.wsPingFreq) := by
  have hpaced := paced_of_run run
  refine ⟨hpaced.spaced, fun refresh now stale => ⟨?_, ?_⟩⟩
  · show .ping ∈ (onTimer config refresh now stale s).2 ↔ _
    rw [ping_mem_onTimer, hpaced.lt_iff now]
  · intro hrefresh hfreq hnow
    have htimes := pingTimes_timer config refresh now stale h s
    rw [if_pos hrefresh] at htimes
    have hrecent := hpaced.recent hfreq hnow
    exact htimes.symm ▸ hrecent

/-- After the ping of the first tick there is none at the second, and one after six
nanoseconds. -/
theorem loginAndFill_pinged :
    pingTimes (play (simpleStream true) loginAndFill).1 = [10] ∧
      .ping ∈ ((simpleStream true).step (play (simpleStream true) loginAndFill).2
        (.timer true 16 [])).2 := by
  have htimes : pingTimes (play (simpleStream true) loginAndFill).1 = [10] := by decide +kernel
  have hpaced := connectionPings_paced run_loginAndFill
  refine ⟨htimes, (hpaced.2 true 16 []).1.mpr ⟨rfl, ?_⟩⟩
  rw [htimes]
  show (10 : ℤ) + 5 < 16
  norm_num

end PrivateStream

end RoqBitget.Gateway
