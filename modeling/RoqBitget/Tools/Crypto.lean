import RoqBitget.Api
import RoqBitget.Foundations.Delimited
import RoqBitget.Foundations.JsonText

set_option relaxedAutoImplicit false
set_option autoImplicit false

/-!
# Signatures

With its key, its secret and its passphrase an account signs the login of a websocket connection
and every REST request. The signature of a request is over one text, in which time, method, path,
query and body follow each other without anything between them.

## Main definitions

* `RoqBitget.Tools.Mac` — what is computed outside of the repository.
* `RoqBitget.Tools.Crypto` — `tools::Crypto`, and the two texts that it creates.
* `RoqBitget.Tools.Account` — `gateway::Account`, which creates them for a time.
* `RoqBitget.Tools.signedText`, `loginText` — what is signed.

## Main results

* `RoqBitget.Tools.Crypto.read_createWsLogin` — the login is read as a JSON document.
* `RoqBitget.Tools.Crypto.readHeaders_createHeaders` — the headers are read as header fields.

## Implementation notes

The state of the digest is cleared before every use, so a signature depends on the secret and on
the text alone. Its Base64 text may be of either alphabet. A method is printed by its name.
-/

namespace RoqBitget.Tools

open JsonText Delimited

/-- `web::http::Method`. -/
inductive Method
  | get
  | post
  deriving DecidableEq

/-- How a method is printed. -/
def Method.text : Method → String
  | get => "GET"
  | post => "POST"

/-- A character of a Base64 text. -/
def isBase64 (c : Char) : Bool := c.isAlphanum || c ∈ ['+', '/', '-', '_', '=']

/-- `utils::mac::HMAC` of SHA-256, encoded by `utils::codec::Base64`. -/
structure Mac where
  sign : String → String → String
  base64 : ∀ secret text, ∀ c ∈ (sign secret text).toList, isBase64 c = true

/-- `tools::Crypto`. -/
structure Crypto where
  key : String
  secret : String
  passphrase : String
  paptrading : Bool
  deriving DecidableEq

/-- What is signed for a login. -/
def loginText (timestamp : Milliseconds) : String := toString timestamp.count ++ "GET/user/verify"

/-- What is signed for a request. -/
def signedText (timestamp : String) (method : Method) (path query body : String) : String :=
  timestamp ++ method.text ++ path ++ query ++ body

namespace Crypto

/-- `Crypto::create_ws_login`. -/
def createWsLogin (mac : Mac) (crypto : Crypto) (timestamp : Milliseconds) : String :=
  let signature := mac.sign crypto.secret (loginText timestamp)
  "\x7b" ++
    "\"op\":\"login\"," ++
    "\"args\":[\x7b" ++
    "\"apiKey\":\"" ++ crypto.key ++ "\"," ++
    "\"passphrase\":\"" ++ crypto.passphrase ++ "\"," ++
    "\"timestamp\":\"" ++ toString timestamp.count ++ "\"," ++
    "\"sign\":\"" ++ signature ++ "\"" ++
    "\x7d" ++
    "]" ++
    "\x7d"

/-- `Crypto::create_headers`. -/
def createHeaders (mac : Mac) (crypto : Crypto) (method : Method) (path query body : String)
    (timestamp : Milliseconds) : String :=
  let tmp := signedText (toString timestamp.count) method path query body
  let signature := mac.sign crypto.secret tmp
  "ACCESS-KEY: " ++ crypto.key ++ "\r\n" ++
    "ACCESS-SIGN: " ++ signature ++ "\r\n" ++
    "ACCESS-TIMESTAMP: " ++ toString timestamp.count ++ "\r\n" ++
    "ACCESS-PASSPHRASE: " ++ crypto.passphrase ++ "\r\n" ++
    "paptrading: " ++ (if crypto.paptrading then "1" else "0") ++ "\r\n"

end Crypto

/-- What is computed outside of the repository, with `utils::safe_cast` of a time. -/
structure Signing where
  mac : Mac
  safeCast : Nanoseconds → Milliseconds

/-- `gateway::Account`. -/
structure Account where
  name : String
  crypto : Crypto
  deriving DecidableEq

namespace Account

/-- `Account::create_ws_login`. -/
def createWsLogin (signing : Signing) (account : Account) (originCreateTimeUtc : Nanoseconds) :
    String :=
  account.crypto.createWsLogin signing.mac (signing.safeCast originCreateTimeUtc)

/-- `Account::create_headers`. -/
def createHeaders (signing : Signing) (account : Account) (originCreateTimeUtc : Nanoseconds)
    (method : Method) (path query body : String) : String :=
  account.crypto.createHeaders signing.mac method path query body
    (signing.safeCast originCreateTimeUtc)

end Account

/-- The signatures of three texts, computed with SHA-256. -/
def simpleMac : Mac where
  sign secret text :=
    if secret = "S3cret" then
      if text = "1700000000000GET/api/v3/account/settings?category=USDT-FUTURES" then
        "IrI+tJYuFJ4XXO96Otmqr2p6suMpY27vTkZaVQLdmi4="
      else if text = "1700000000000GET/api/v3/position/current-position?category=USDT-FUTURES" then
        "DJBnsLzR312abUr9sQ7R4wg7fOIjN0HFfQD2kFAUhZY="
      else if text = "1700000000000GET/user/verify" then
        "2fuWHO+7wEEzABp7FTn4IO1OQ3Wbe4zGIphyOs6VsHk="
      else ""
    else ""
  base64 := by
    intro secret text
    rw [← List.all_eq_true]
    split_ifs <;> decide +kernel

/-- Times are rounded down. -/
def simpleSigning : Signing := ⟨simpleMac, fun t => ⟨t / 1000000⟩⟩

/-- An account. -/
def simpleAccount : Account := ⟨"A1", ⟨"bg_1", "S3cret", "phrase", false⟩⟩

/-! ## Numbers and signatures as values -/

/-- An integer is printed with digits, and possibly a sign. -/
theorem mem_toString {n : ℤ} {c : Char} (hc : c ∈ (toString n).toList) :
    c.isDigit = true ∨ c = '-' := by
  have hdigit : ∀ m : ℕ, c ∈ m.repr.toList → c.isDigit = true := by
    intro m hm
    rw [Nat.toList_repr] at hm
    exact Nat.isDigit_of_mem_toDigits (by decide) (by decide) hm
  rw [Int.toString_eq_repr] at hc
  cases n with
  | ofNat m => exact .inl (hdigit m hc)
  | negSucc m =>
    rw [Int.repr, String.toList_append] at hc
    rcases List.mem_append.mp hc with hsign | hc
    · exact .inr (List.mem_singleton.mp hsign)
    · exact .inl (hdigit _ hc)

/-- What an integer is printed with occurs in Base64 texts, too. -/
theorem isBase64_toString (n : ℤ) : ∀ c ∈ (toString n).toList, isBase64 c = true := by
  intro c hc
  rcases mem_toString hc with hdigit | rfl
  · simp [isBase64, Char.isAlphanum, hdigit]
  · decide

/-- A control character is none of Base64. -/
theorem le_toNat_of_isBase64 {c : Char} (h : isBase64 c = true) : 0x20 ≤ c.toNat := by
  have hcontrol : ∀ n < 0x20, isBase64 (Char.ofNat n) = false := by decide
  by_contra hsmall
  have hc := hcontrol c.toNat (Nat.lt_of_not_le hsmall)
  rw [Char.ofNat_toNat, h] at hc
  exact Bool.noConfusion hc

/-- A Base64 text does not contain a character that is none of Base64. -/
theorem ne_of_isBase64 {c d : Char} (h : isBase64 c = true) (hd : isBase64 d = false) : c ≠ d := by
  rintro rfl
  rw [h] at hd
  exact Bool.noConfusion hd

/-- A Base64 text needs no escapes. -/
theorem plain_of_isBase64 {s : String} (h : ∀ c ∈ s.toList, isBase64 c = true) : Plain s := by
  intro c hc
  simp [isPlain, ne_of_isBase64 (h c hc) (d := quote) (by decide),
    ne_of_isBase64 (h c hc) (d := backslash) (by decide), le_toNat_of_isBase64 (h c hc)]

/-- A Base64 text can be the value of a header field. -/
theorem isValue_of_isBase64 {s : String} (h : ∀ c ∈ s.toList, isBase64 c = true) :
    IsValue s := by
  have hblank : ∀ c ∈ s.toList, isBlank c = false := fun c hc => by
    simp [isBlank, ne_of_isBase64 (h c hc) (d := ' ') (by decide),
      ne_of_isBase64 (h c hc) (d := '\t') (by decide)]
  refine ⟨fun c hc => ?_, fun c hc => hblank c (List.mem_of_mem_head? hc),
    fun c hc => hblank c (List.mem_of_getLast? hc)⟩
  simp [isEnd, ne_of_isBase64 (h c hc) (d := '\r') (by decide),
    ne_of_isBase64 (h c hc) (d := '\n') (by decide)]

/-! ## Reading what is created -/

namespace Crypto

variable (mac : Mac) (crypto : Crypto)

/-- The argument of the login. -/
def loginArgument (timestamp : Milliseconds) : List (String × Json) :=
  [member "apiKey" crypto.key, member "passphrase" crypto.passphrase,
    member "timestamp" (toString timestamp.count),
    member "sign" (mac.sign crypto.secret (loginText timestamp))]

/-- **The login is read as it is meant.** -/
theorem read_createWsLogin (hkey : Plain crypto.key) (hpassphrase : Plain crypto.passphrase)
    (timestamp : Milliseconds) :
    read (createWsLogin mac crypto timestamp) =
      some (.object [member "op" "login",
        ("args", .array [.object (loginArgument mac crypto timestamp)])]) := by
  have hargument : MembersVerbatim (loginArgument mac crypto timestamp) :=
    ⟨verbatim_member (by decide) hkey, verbatim_member (by decide) hpassphrase,
      verbatim_member (by decide) (plain_of_isBase64 (isBase64_toString _)),
      verbatim_member (by decide) (plain_of_isBase64 (mac.base64 _ _)), trivial⟩
  refine read_text ?_ ?_
  · rw [Json.Verbatim]
    refine ⟨verbatim_member (by decide) (by decide), ⟨by decide, ?_⟩, trivial⟩
    simp [Json.Verbatim, AllVerbatim, hargument]
  · unfold createWsLogin loginArgument
    generalize toString timestamp.count = time
    generalize mac.sign crypto.secret (loginText timestamp) = signature
    simp [member, JsonText.text, membersText, itemsText, quoted]

/-- The header fields of a request. -/
def headerFields (method : Method) (path query body : String) (timestamp : Milliseconds) :
    List (String × String) :=
  [("ACCESS-KEY", crypto.key),
    ("ACCESS-SIGN",
      mac.sign crypto.secret (signedText (toString timestamp.count) method path query body)),
    ("ACCESS-TIMESTAMP", toString timestamp.count),
    ("ACCESS-PASSPHRASE", crypto.passphrase),
    ("paptrading", if crypto.paptrading then "1" else "0")]

/-- **The headers are read as they are meant.** -/
theorem readHeaders_createHeaders (hkey : IsValue crypto.key)
    (hpassphrase : IsValue crypto.passphrase) (method : Method) (path query body : String)
    (timestamp : Milliseconds) :
    readHeaders (createHeaders mac crypto method path query body timestamp) =
      some (headerFields mac crypto method path query body timestamp) := by
  have hpaptrading : IsValue (if crypto.paptrading then "1" else "0") :=
    isValue_of_isBase64 (List.all_eq_true.mp (by split_ifs <;> rfl))
  refine readHeaders_headerLines ?_ ?_
  · unfold headerFields
    simp only [List.forall_mem_cons, List.not_mem_nil, false_implies, implies_true, and_true]
    exact ⟨⟨by decide, hkey⟩, ⟨by decide, isValue_of_isBase64 (mac.base64 _ _)⟩,
      ⟨by decide, isValue_of_isBase64 (isBase64_toString _)⟩, ⟨by decide, hpassphrase⟩,
      ⟨by decide, hpaptrading⟩⟩
  · unfold createHeaders headerFields
    dsimp only
    generalize toString timestamp.count = time
    generalize mac.sign crypto.secret (signedText time method path query body) = signature
    simp [headerLine]

end Crypto

end RoqBitget.Tools
