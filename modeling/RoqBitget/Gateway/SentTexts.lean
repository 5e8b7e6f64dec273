import RoqBitget.Gateway.WebsocketActions
import RoqBitget.Protocol.OrderTerms

set_option relaxedAutoImplicit false
set_option autoImplicit false

/-!
# What the exchange reads

A private stream sends four kinds of texts over its websocket: pings, the login, subscriptions and
order actions. The last three are put together from pieces by different functions. In a run they
alternate in any way, and the exchange has nothing but the texts.

## Main definitions

* `RoqBitget.Gateway.PrivateStream.Action.text?` — the text that an action sends.
* `RoqBitget.Gateway.PrivateStream.Heard`, `hear` — what the exchange reads in a text.
* `RoqBitget.Gateway.PrivateStream.meant` — what the stream has to say in a run.

## Main results

* `RoqBitget.Gateway.PrivateStream.topic_of_move` — to what a stream subscribes.
* `RoqBitget.Gateway.PrivateStream.texts_heard` — the exchange reads what the stream has to say.

## Implementation notes

The reader takes the member `op` of a document to tell what kind it is.
-/

namespace RoqBitget.Gateway

open RoqBitget.Core Runs DropCopy

namespace PrivateStream

open JsonText Protocol.Encoder

/-! ## The texts -/

/-- The message of `DropCopy::subscribe`. -/
def subscribeText (topic : String) : String :=
  "\x7b" ++
    "\"op\":\"subscribe\"," ++
    "\"args\":[\x7b" ++
    "\"instType\":\"UTA\"," ++
    "\"topic\":\"" ++ topic ++ "\"" ++
    "\x7d" ++
    "]" ++
    "\x7d"

/-- The text that an action sends. -/
def Action.text? : Action → Option String
  | .session (.subscribe topic) => some (subscribeText topic)
  | .login message => some message
  | .ping => some "ping"
  | .sendOrder message => some message
  | _ => none

/-- What the exchange reads in a text. -/
inductive Heard
  | ping
  | login (key : String)
  | subscribe (topic : String)
  /-- An order action with its topic, its id and the members of its order. -/
  | trade (topic id : String) (order : List (String × Json))

/-- What the exchange reads in the only argument of a document. -/
def hearArgument (members argument : List (String × Json)) : Option Heard := do
  match ← textOf members "op" with
  | "login" => return .login (← textOf argument "apiKey")
  | "subscribe" => return .subscribe (← textOf argument "topic")
  | "trade" => return .trade (← textOf members "topic") (← textOf members "id") argument
  | _ => none

/-- What the exchange reads in a text. -/
def hear (s : String) : Option Heard :=
  if s = "ping" then some .ping
  else match read s with
    | some (.object members) =>
      match members.lookup "args" with
      | some (.array [.object argument]) => hearArgument members argument
      | _ => none
    | _ => none

/-! ## What is to be said -/

/-- The text of a topic. -/
def topicText : ActionTopic → String
  | .placeOrder => "place-order"
  | .modifyOrder => "modify-order"
  | .cancelOrder => "cancel-order"

/-- What an action has to say; an order action says what its event asks for. -/
def Action.meant? (config : MessageConfig) (event : Event) : Action → Option Heard
  | .session (.subscribe topic) => some (.subscribe topic)
  | .login _ => some (.login config.account.crypto.key)
  | .ping => some .ping
  | .sendOrder _ =>
    match event with
    | .order action order refData requestId =>
      some (.trade (topicText (topic action)) (wsId (topic action) requestId)
        (orderMembers config.format order refData requestId action "NO"))
    | _ => none
  | _ => none

/-- What the stream had to say, in order. -/
def meant (config : MessageConfig) : History Event Action → List Heard
  | [] => []
  | entry :: h => meant config h ++ entry.actions.filterMap (Action.meant? config entry.event)

/-- The texts that were sent, in order. -/
def sentTexts (actions : List Action) : List String := actions.filterMap Action.text?

/-! ## Reading one text -/

/-- What is heard in a document. -/
theorem hear_of_read {s : String} {members argument : List (String × Json)}
    (hread : read s = some (.object members))
    (hargs : members.lookup "args" = some (.array [.object argument])) :
    hear s = hearArgument members argument := by
  have hne : s ≠ "ping" := by
    rintro rfl
    have hping : (read "ping").isSome = false := by decide
    rw [hread] at hping
    exact Bool.noConfusion hping
  rw [hear, if_neg hne, hread]
  dsimp only
  rw [hargs]

/-- What is heard in a text that was written verbatim. -/
theorem hear_of_toList {s : String} {members argument : List (String × Json)}
    (hs : s.toList = text (.object members)) (hverbatim : MembersVerbatim members)
    (hargs : members.lookup "args" = some (.array [.object argument])) :
    hear s = hearArgument members argument := by
  refine hear_of_read (read_text ?_ hs) hargs
  rw [Json.Verbatim]
  exact hverbatim

/-- The login. -/
theorem hear_login (signing : Tools.Signing) {account : Tools.Account}
    (hkey : Plain account.crypto.key) (hpassphrase : Plain account.crypto.passphrase)
    (now : Nanoseconds) :
    hear (account.createWsLogin signing now) = some (.login account.crypto.key) :=
  hear_of_read (account.crypto.read_createWsLogin signing.mac hkey hpassphrase _) rfl

/-- A subscription. -/
theorem hear_subscribe {topic : String} (htopic : Plain topic) :
    hear (subscribeText topic) = some (.subscribe topic) := by
  have hargument : MembersVerbatim [member "instType" "UTA", member "topic" topic] :=
    ⟨verbatim_member (by decide) (by decide), verbatim_member (by decide) htopic, trivial⟩
  have hs : (subscribeText topic).toList = text (.object [member "op" "subscribe",
      ("args", .array [.object [member "instType" "UTA", member "topic" topic]])]) := by
    simp [subscribeText, member, text, membersText, itemsText, quoted]
  exact hear_of_toList hs ⟨verbatim_member (by decide) (by decide), verbatim_args hargument,
    trivial⟩ rfl

/-- An order action. -/
theorem hear_order {format : Format} {action : OrderAction} {order : Order} {refData : RefData}
    {buffer requestId category message : String} (haction : PlainAction action order)
    (hrequestId : Plain requestId) (hcategory : Plain category)
    (hmessage : Protocol.Encoder.message format buffer action order refData requestId category =
      .ok message) :
    hear message = some (.trade (topicText (topic action)) (wsId (topic action) requestId)
      (orderMembers format order refData requestId action "NO")) := by
  obtain ⟨message', hmessage', hs⟩ := message_eq format order refData buffer requestId category
    action
  obtain rfl : message' = message := Except.ok.inj (hmessage'.symm.trans hmessage)
  have hargs := verbatim_args
    (verbatim_orderMembers format refData requestId haction hrequestId "NO" (by decide))
  have hop : Plain (member "op" "trade").1 ∧ (member "op" "trade").2.Verbatim :=
    verbatim_member (by decide) (by decide)
  cases action with
  | create createOrder =>
    exact hear_of_toList hs ⟨hop, verbatim_member (by decide) (.append (by decide) hrequestId),
      verbatim_member (by decide) hcategory, verbatim_member (by decide) (by decide), hargs,
      trivial⟩ rfl
  | modify modifyOrder =>
    exact hear_of_toList hs ⟨verbatim_member (by decide) (.append (by decide) hrequestId), hop,
      verbatim_member (by decide) hcategory, verbatim_member (by decide) (by decide), hargs,
      trivial⟩ rfl
  | cancel =>
    exact hear_of_toList hs ⟨verbatim_member (by decide) (.append (by decide) hrequestId), hop,
      verbatim_member (by decide) (by decide), hargs, trivial⟩ rfl

/-! ## To what a stream subscribes -/

section Topics

variable {L : LimitRequest} {D : Download2 DropCopy.State (World L)} {config : Config}
  {s s' : Session L D} {e : Gateway.Event} {name : String}

/-- The topics of a private stream. -/
def topics : List String := ["account", "position", "order", "fill"]

/-- A topic needs no escapes. -/
theorem plain_of_mem_topics (h : name ∈ topics) : Plain name := by
  revert h
  revert name
  decide

/-- A subscription is an action of a download. -/
theorem mem_downloadActions {w : World L} (h : .subscribe name ∈ w.actions) :
    .subscribe name ∈ downloadActions w := List.mem_filter.mpr ⟨h, rfl⟩

/-- A look at the stale orders subscribes to nothing. -/
theorem notMem_completing (hs : s.world.actions = []) {w : World L} (hw : Completing s w) :
    .subscribe name ∉ downloadActions w := by
  unfold Completing at hw
  split_ifs at hw
  · rw [hw.performed]
    simp [downloadActions, hs]
  · rw [hw]
    simp [downloadActions, hs]

/-- A regular look at the stale orders subscribes to nothing. -/
theorem notMem_regular {w w' : World L} (hregular : Regular w w')
    (hw : .subscribe name ∉ downloadActions w) : .subscribe name ∉ downloadActions w' := by
  intro h
  rcases hregular.performed.mem h with hmem | ⟨details, hlook⟩ | hrequest
  · exact hw hmem
  · cases hlook
  · cases hrequest

/-- **A move of the download** subscribes to one of its topics at most. -/
theorem topic_of_move (hs : s.world.actions = []) (hmove : Move config s e s')
    (h : .subscribe name ∈ s'.world.actions) : name ∈ topics := by
  have hnone : .subscribe name ∉ downloadActions s.world := by simp [downloadActions, hs]
  replace h := mem_downloadActions h
  cases hmove with
  | aborted fatal _ _ hperformed => exact absurd (hperformed ▸ h) hnone
  | began _ _ henters =>
    rw [henters.performed] at h
    simp [downloadActions, hs, performed] at h
  | reset _ _ _ hperformed => exact absurd (hperformed ▸ h) hnone
  | completed next' w _ hw _ _ _ henters =>
    rw [henters.performed, List.mem_append] at h
    rcases h with h | h
    · exact absurd h (notMem_completing hs hw)
    · cases next' <;> simp_all [performed, topics]
  | finished w _ hw _ _ hregular =>
    refine absurd h (notMem_regular hregular ?_)
    simpa [downloadActions, DropCopy.onConnectionStatus, World.act, isDownload] using
      notMem_completing hs hw
  | regular _ _ _ hregular => exact absurd h (notMem_regular hregular hnone)
  | quiet _ _ _ _ hperformed _ _ => exact absurd (hperformed ▸ h) hnone

/-- The callback of a download does not depend on whether the stream is the master. -/
theorem download_master (config : Config) :
    download (L := L) { config with master := true } = download config := by
  funext state w
  cases state <;> rfl

/-- A reaction that is neither to a login nor to a tick is that of a master. -/
theorem react_master (config : Config) (s : Session L D) {e : Gateway.Event}
    (hlogin : ∀ code, e ≠ .login code)
    (htimer : ∀ refresh now stale, e ≠ .timer refresh now stale) :
    Gateway.react { config with master := true } s e = Gateway.react config s e := by
  cases e with
  | login code => exact absurd rfl (hlogin code)
  | timer refresh now stale => exact absurd rfl (htimer refresh now stale)
  | subscribed topic code =>
    cases topic <;> simp only [Gateway.react, onSubscribe, Session.check, download_master]
  | _ => rfl

/-- **To what a reaction subscribes.** -/
theorem topic_of_react (config : Config) (hs : s.world.actions = [])
    (h : .subscribe name ∈ (Gateway.react config s e).world.actions) : name ∈ topics := by
  cases e with
  | login code =>
    by_cases hmaster : config.master = true
    · exact topic_of_move hs (move_react hmaster (.login code)) h
    · by_cases hcode : code = 0
      · simp [Gateway.react, onLogin, hmaster, hcode, DropCopy.onConnectionStatus, World.act, hs]
          at h
      · simp [Gateway.react, onLogin, hcode, World.abort, hs] at h
  | timer refresh now stale => exact topic_of_move hs (move_onTimer refresh now stale) h
  | _ =>
    rw [← react_master config s (by simp) (by simp)] at h
    exact topic_of_move hs (move_react rfl _) h

end Topics

/-! ## What is heard in a run -/

/-- The strings of the settings that are put into messages need no escapes. -/
structure PlainConfig (config : MessageConfig) : Prop where
  key : Plain config.account.crypto.key
  passphrase : Plain config.account.crypto.passphrase
  instType : Plain config.instType

/-- The strings of the order that is asked for need no escapes. -/
def PlainEvent : Event → Prop
  | .order action order _ requestId => PlainAction action order ∧ Plain requestId
  | _ => True

section Runs

variable {L : LimitRequest} {D : Download2 DropCopy.State (World L)} {config : MessageConfig}

instance : (e : Event) → Decidable (PlainEvent e)
  | .order (.create createOrder) _ _ requestId =>
    inferInstanceAs (Decidable (Plain createOrder.symbol ∧ Plain requestId))
  | .order (.modify _) order _ requestId | .order .cancel order _ requestId =>
    inferInstanceAs (Decidable
      ((Plain order.externalOrderId ∧ Plain order.clientOrderId) ∧ Plain requestId))
  | .rest _ | .shared _ | .connected _ | .ready _ | .close | .latency _ | .text _ | .binary
  | .disconnected | .timer _ _ _ => isTrue trivial

/-- What is heard in the text of an action is what the action has to say. -/
def HeardAs (config : MessageConfig) (e : Event) (action : Action) : Prop :=
  action.text?.map hear = (action.meant? config e).map some

/-- What the two streams of the account do. -/
theorem heardAs_react1 (config : MessageConfig) (event : Gateway.Event) (s : PrivateStream L D)
    (e : Event) : ∀ action ∈ (react1 config event s).2, HeardAs config e action := by
  intro action haction
  obtain ⟨action, hmem, rfl⟩ := List.mem_map.mp haction
  cases action with
  | subscribe name =>
    have htopic := topic_of_react config.toConfig (s := fresh s.session) rfl hmem
    exact congrArg some (hear_subscribe (plain_of_mem_topics htopic))
  | _ => rfl

/-- What a text that is received leads to. -/
theorem heardAs_onText (config : MessageConfig) (payload : String) (s : PrivateStream L D)
    (e : Event) : ∀ action ∈ (onText config payload s).2, HeardAs config e action := by
  unfold onText
  cases parse config s.shared payload with
  | dispatch updates shared =>
    intro action haction
    obtain ⟨update, -, rfl⟩ := List.mem_map.mp haction
    rfl
  | session event => exact heardAs_react1 config event s e
  | close => exact List.forall_mem_singleton.mpr rfl
  | fatal fatal => exact fun action haction => absurd haction List.not_mem_nil

/-- A tick. -/
theorem heardAs_onTimer (config : MessageConfig) (refresh : Bool) (now : Nanoseconds)
    (stale : List OrderKey) (s : PrivateStream L D) (e : Event) :
    ∀ action ∈ (onTimer config refresh now stale s).2, HeardAs config e action := by
  have hsession := heardAs_react1 config (.timer refresh now stale) s e
  rw [onTimer_eq]
  split_ifs
  · exact List.forall_mem_cons.mpr ⟨rfl, hsession⟩
  · exact hsession

/-- An order action. -/
theorem heardAs_onOrder (hconfig : PlainConfig config) {action : OrderAction} {order : Order}
    (refData : RefData) {requestId : String} (s : PrivateStream L D)
    (haction : PlainAction action order) (hrequestId : Plain requestId) :
    ∀ a ∈ (onOrder config action order refData requestId s).2,
      HeardAs config (.order action order refData requestId) a := by
  unfold onOrder
  split_ifs
  · cases hmessage : message config.format s.encodeBuffer action order refData requestId
      config.instType with
    | ok message =>
      exact List.forall_mem_singleton.mpr
        (congrArg some (hear_order haction hrequestId hconfig.instType hmessage))
    | error error => exact List.forall_mem_singleton.mpr rfl
  · exact List.forall_mem_singleton.mpr rfl

/-- **Every reaction is heard as it is meant.** -/
theorem heardAs_react (hconfig : PlainConfig config) (s : PrivateStream L D) {e : Event}
    (he : PlainEvent e) : ∀ action ∈ (react config s e).2, HeardAs config e action := by
  cases e with
  | rest event => exact heardAs_react1 config event s _
  | disconnected => exact heardAs_react1 config .disconnected _ _
  | ready now =>
    exact List.forall_mem_singleton.mpr
      (congrArg some (hear_login config.signing hconfig.key hconfig.passphrase now))
  | text payload => exact heardAs_onText config payload s _
  | timer refresh now stale => exact heardAs_onTimer config refresh now stale s _
  | order action order refData requestId => exact heardAs_onOrder hconfig refData s he.1 he.2
  | latency sample => exact List.forall_mem_singleton.mpr rfl
  | _ => exact fun action haction => absurd haction List.not_mem_nil

/-- **The exchange reads what the stream has to say.** Take any run in which the strings of the
orders need no escapes, and settings of such strings: texts are received, the stream logs in,
subscribes, sends pings and order actions and loses its connection, in any order. The exchange,
which has nothing but the texts, reads exactly the pings, logins, subscriptions and order actions
that there were, in order, each order action with its topic, its id and the members of its
order. -/
theorem texts_heard (hconfig : PlainConfig config) {h : History Event Action}
    {s : PrivateStream L D} (run : Run (system config L D) (fun _ _ e => PlainEvent e) h s) :
    (sentTexts (Runs.actions h)).map hear = (meant config h).map some := by
  refine run.invariant (P := fun h _ => (sentTexts (Runs.actions h)).map hear =
    (meant config h).map some) rfl ?_
  intro h s e _ ih _ he
  have hnew : (sentTexts (react config s e).2).map hear =
      ((react config s e).2.filterMap (Action.meant? config e)).map some := by
    rw [sentTexts, List.map_filterMap, List.map_filterMap]
    exact List.filterMap_congr (heardAs_react hconfig s he)
  rw [Runs.actions_cons, sentTexts, List.filterMap_append, List.map_append, meant, List.map_append]
  exact congrArg₂ _ ih hnew

end Runs

/-- A stream logs in, sends a ping and cancels an order. -/
def loginAndCancel : List Event :=
  [.connected 1, .ready (seconds 1700000000), .text "login", .timer true 10 [], cancel "1001"]

/-- The exchange reads the three texts. -/
theorem loginAndCancel_heard :
    (sentTexts (Runs.actions (play (simpleStream false) loginAndCancel).1)).map hear =
      [some (.login "bg_1"), some .ping,
        some (.trade "cancel-order" "C:1001" [member "orderId" "77"])] := by
  have hconfig : PlainConfig (simpleMessageConfig false) := ⟨by decide, by decide, by decide⟩
  have hrun : Run (simpleStream false) (fun _ _ e => PlainEvent e)
      (play (simpleStream false) loginAndCancel).1 (play (simpleStream false) loginAndCancel).2 :=
    Run.play (by decide +kernel)
  exact (texts_heard hconfig hrun).trans rfl

end PrivateStream

end RoqBitget.Gateway
