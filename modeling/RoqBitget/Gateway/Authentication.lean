import RoqBitget.Gateway.RestRequests
import RoqBitget.Protocol.OrderTerms

set_option relaxedAutoImplicit false
set_option autoImplicit false

/-!
# Whom the exchange believes

The exchange knows the secret and the passphrase of every key. It believes a request or a login if
the passphrase is right and the signature is that of what it received. Whoever can read the headers
of some requests can put them on others; this must be of no use.

## Main definitions

* `RoqBitget.Gateway.Authentication.authenticate`, `authenticateLogin` — what the exchange does
  with a request and with a login.
* `RoqBitget.Gateway.Authentication.Registered` — an account that the exchange knows.
* `RoqBitget.Gateway.Authentication.Collision` — two texts with one signature.

## Main results

* `RoqBitget.Gateway.Authentication.requests_authentic` — for which requests the headers of a
  request are good.
* `RoqBitget.Gateway.Authentication.login_authentic` — the login is believed, and its signature is
  good for no request.

## Implementation notes

This is what signatures are for and not code of the repository. That the time of a request has to
be recent is left out.
-/

namespace RoqBitget.Gateway.Authentication

open RoqBitget.Tools RestRequests
open RoqBitget.Protocol.Encoder (textOf)

/-- What the exchange knows about a key. -/
structure Credentials where
  secret : String
  passphrase : String
  deriving DecidableEq

section Exchange

variable (mac : Mac) (accounts : String → Option Credentials)

/-- A signature is believed if it is that of the text, and the passphrase is right. -/
def check (key passphrase signature text : String) : Option String := do
  let credentials ← accounts key
  if credentials.passphrase = passphrase ∧ mac.sign credentials.secret text = signature then
    some key
  else none

/-- Whose request it is. -/
def authenticate (request : RestRequest) : Option String := do
  let fields ← Delimited.readHeaders request.headers
  let key ← fields.lookup "ACCESS-KEY"
  let signature ← fields.lookup "ACCESS-SIGN"
  let timestamp ← fields.lookup "ACCESS-TIMESTAMP"
  let passphrase ← fields.lookup "ACCESS-PASSPHRASE"
  check mac accounts key passphrase signature ((contents request).signedText timestamp)

/-- Whose login it is. -/
def authenticateLogin (message : String) : Option String :=
  match JsonText.read message with
  | some (.object members) =>
    match textOf members "op", members.lookup "args" with
    | some "login", some (.array [.object argument]) => do
      let key ← textOf argument "apiKey"
      let passphrase ← textOf argument "passphrase"
      let timestamp ← textOf argument "timestamp"
      let signature ← textOf argument "sign"
      check mac accounts key passphrase signature (timestamp ++ "GET/user/verify")
    | _, _ => none
  | _ => none

/-- An account that the exchange knows. Its key and its passphrase can be written in headers and
in a JSON document. -/
structure Registered (crypto : Crypto) : Prop where
  known : accounts crypto.key = some ⟨crypto.secret, crypto.passphrase⟩
  key : Delimited.IsValue crypto.key
  passphrase : Delimited.IsValue crypto.passphrase
  plain_key : JsonText.Plain crypto.key
  plain_passphrase : JsonText.Plain crypto.passphrase

/-- Two texts have the same signature. -/
def Collision (secret text text' : String) : Prop :=
  text ≠ text' ∧ mac.sign secret text = mac.sign secret text'

end Exchange

section Checks

variable {mac : Mac} {accounts : String → Option Credentials} {crypto : Crypto}

/-- What is checked for an account that the exchange knows. -/
theorem check_eq_some (hregistered : Registered accounts crypto) (signature text : String) :
    check mac accounts crypto.key crypto.passphrase signature text = some crypto.key ↔
      mac.sign crypto.secret text = signature := by
  simp [check, hregistered.known]

/-- A signature that is believed is the one of the text, whatever the passphrase. -/
theorem sign_of_check (hregistered : Registered accounts crypto)
    {key passphrase signature text : String}
    (h : check mac accounts key passphrase signature text = some crypto.key) :
    mac.sign crypto.secret text = signature := by
  unfold check at h
  cases hkey : accounts key with
  | none => simp [hkey] at h
  | some credentials =>
    simp only [hkey, Option.bind_eq_bind, Option.bind_some] at h
    split_ifs at h with hchecks
    cases h
    rw [hregistered.known] at hkey
    cases hkey
    exact hchecks.2

end Checks

section Requests

variable {platform : Platform} {context : Context} {accounts : String → Option Credentials}
  {now : Nanoseconds} {request : RestRequest}

/-- What the exchange does with the headers of a request. -/
theorem authenticate_made (hregistered : Registered accounts context.account.crypto)
    (hmade : Made platform context now request) (received : RestRequest) :
    authenticate platform.mac accounts { received with headers := request.headers } =
        some context.account.crypto.key ↔
      platform.mac.sign context.account.crypto.secret
          ((contents received).signedText (toString (platform.safeCast now).count)) =
        platform.mac.sign context.account.crypto.secret
          ((contents request).signedText (toString (platform.safeCast now).count)) := by
  rw [← check_eq_some hregistered]
  unfold authenticate
  dsimp only
  rw [hmade.headers, Account.createHeaders, Crypto.readHeaders_createHeaders _ _ hregistered.key
    hregistered.passphrase]
  rfl

/-- **Headers are good for one request only.** Take any two requests that the stream makes, at any
times and with anything in its buffer. If the headers of one of them are sent with the other, the
exchange believes it if and only if method, path, query and body are the same, unless it is misled
by two texts with one signature. In particular it believes every request that is sent as it was
made. -/
theorem requests_authentic (hregistered : Registered accounts context.account.crypto)
    {now' : Nanoseconds} {ready ready' : Bool} {encodeBuffer encodeBuffer' : String}
    {operation operation' : Operation} {request' : RestRequest}
    (hrequest : operation.request platform context now ready encodeBuffer = .ok request)
    (hrequest' : operation'.request platform context now' ready' encodeBuffer' = .ok request') :
    let text := fun contents : Contents =>
      contents.signedText (toString (platform.safeCast now').count)
    authenticate platform.mac accounts { request with headers := request'.headers } =
        some context.account.crypto.key ↔
      contents request = contents request' ∨
        Collision platform.mac context.account.crypto.secret (text (contents request))
          (text (contents request')) := by
  intro text
  have hmade := made_request hrequest
  have hmade' := made_request hrequest'
  rw [authenticate_made hregistered hmade' request]
  constructor
  · intro hsign
    by_cases htext : text (contents request) = text (contents request')
    · exact .inl (hmade.splits.contents_eq hmade'.splits htext)
    · exact .inr ⟨htext, hsign⟩
  · rintro (hcontents | ⟨-, hsign⟩)
    · rw [hcontents]
    · exact hsign

/-- The login is believed. -/
theorem authenticateLogin_createWsLogin (hregistered : Registered accounts context.account.crypto) :
    authenticateLogin platform.mac accounts
      (context.account.createWsLogin platform.toSigning now) = some context.account.crypto.key := by
  unfold authenticateLogin Account.createWsLogin
  rw [Crypto.read_createWsLogin _ _ hregistered.plain_key hregistered.plain_passphrase]
  exact (check_eq_some hregistered _ _).mpr rfl

/-- **A login is good for a login only.** The exchange believes every login. With any headers in
which the signature is that of a login, it believes none of the requests that the stream makes,
unless it is misled by two texts with one signature. -/
theorem login_authentic (hregistered : Registered accounts context.account.crypto)
    (platform : Platform) (time : Nanoseconds) :
    authenticateLogin platform.mac accounts
        (context.account.createWsLogin platform.toSigning time) =
        some context.account.crypto.key ∧
      ∀ {now ready encodeBuffer request} {operation : Operation},
        operation.request platform context now ready encodeBuffer = .ok request →
        ∀ headers fields, Delimited.readHeaders headers = some fields →
          fields.lookup "ACCESS-SIGN" = some (platform.mac.sign context.account.crypto.secret
            (loginText (platform.safeCast time))) →
          authenticate platform.mac accounts { request with headers := headers } =
            some context.account.crypto.key →
          ∃ timestamp, Collision platform.mac context.account.crypto.secret
            ((contents request).signedText timestamp) (loginText (platform.safeCast time)) := by
  refine ⟨authenticateLogin_createWsLogin hregistered, ?_⟩
  intro now ready encodeBuffer request operation hrequest headers fields hfields hsign hbelieved
  have hmade := made_request hrequest
  unfold authenticate at hbelieved
  simp only [hfields, hsign, Option.bind_eq_bind, Option.bind_some, Option.bind_eq_some_iff]
    at hbelieved
  obtain ⟨key, -, timestamp, -, passphrase, -, hcheck⟩ := hbelieved
  exact ⟨timestamp, hmade.splits.signedText_ne_loginText timestamp _,
    sign_of_check hregistered hcheck⟩

end Requests

/-! ## Two requests and a login -/

/-- Signatures, and numbers printed with their decimals. -/
def simplePlatform : Platform := ⟨simpleSigning, Protocol.Encoder.simpleFormat⟩

/-- What the requests of an account depend on. -/
def simpleContext : Context := ⟨simpleAccount, .usdtFutures, seconds 30, 0⟩

/-- An exchange that knows one key. -/
def simpleAccounts (key : String) : Option Credentials :=
  if key = "bg_1" then some ⟨"S3cret", "phrase"⟩ else none

theorem registered_simpleContext : Registered simpleAccounts simpleContext.account.crypto :=
  ⟨rfl, by decide, by decide, by decide, by decide⟩

/-- A request for the settings. -/
def settingsRequest : RestRequest :=
  getAccountSettings simplePlatform simpleContext (seconds 1700000000)

/-- A request for the positions. -/
def positionsRequest : RestRequest :=
  getCurrentPositions simplePlatform simpleContext (seconds 1700000000)

/-- The headers of a request for the settings are not good for the positions. -/
theorem positions_notAuthentic :
    authenticate simpleSigning.mac simpleAccounts
      { positionsRequest with headers := settingsRequest.headers } ≠ some "bg_1" := by
  have hpositions : Operation.currentPositions.request simplePlatform simpleContext
      (seconds 1700000000) true "" = .ok positionsRequest := rfl
  have hsettings : Operation.accountSettings.request simplePlatform simpleContext
      (seconds 1700000000) true "" = .ok settingsRequest := rfl
  refine (requests_authentic registered_simpleContext hpositions hsettings).not.mpr ?_
  rintro (hcontents | ⟨-, hsign⟩)
  · exact absurd hcontents (by decide +kernel)
  · exact absurd hsign (by decide +kernel)

/-- A login is believed. -/
theorem oneLogin_authentic :
    authenticateLogin simpleSigning.mac simpleAccounts
      (simpleContext.account.createWsLogin simplePlatform.toSigning (seconds 1700000000)) =
      some "bg_1" :=
  (login_authentic registered_simpleContext simplePlatform (seconds 1700000000)).1

end RoqBitget.Gateway.Authentication
