import Mathlib.Data.List.Basic

set_option relaxedAutoImplicit false
set_option autoImplicit false

/-!
# JSON texts

A reader for the JSON grammar, and the text of a document whose strings are written verbatim.
Writing a string verbatim, that is between quotes and without escapes, is what a program does
that builds a message with a format string. The reader gets such a document back if no string
of it needs an escape, and a string that needs one is never read as itself.

## Main definitions

* `JsonText.Json` — JSON values; a number is kept as its text.
* `JsonText.read` — the value of a text that is one JSON document and nothing else.
* `JsonText.text` — the text of a value, its strings being written verbatim.
* `JsonText.Plain`, `JsonText.Json.Verbatim` — what can be written verbatim.

## Main results

* `JsonText.read_text` — reading the text of a verbatim document gives the document.
* `JsonText.plain_of_readString` — a string that is read as it was written is plain.

## Implementation notes

The reader has fuel; the length of the text is enough. An escape of a UTF-16 code unit that is
not a character by itself is not read. Member names may be repeated, as the grammar allows.
-/

namespace JsonText

/-- A JSON value. -/
inductive Json
  | null
  | bool (b : Bool)
  | number (lexeme : String)
  | string (s : String)
  | array (items : List Json)
  | object (members : List (String × Json))

/-- The quote. -/
abbrev quote : Char := '\x22'

/-- The backslash. -/
abbrev backslash : Char := '\x5c'

/-! ## Numbers -/

/-- The states of a recogniser for numbers. -/
inductive NumberState
  | start
  | minus
  | zero
  | integer
  | point
  | fraction
  | exponent
  | exponentSign
  | exponentDigits
  deriving DecidableEq

namespace NumberState

/-- The state after another character, if there is one. -/
def step : NumberState → Char → Option NumberState
  | start, c =>
    if c = '-' then some minus else if c = '0' then some zero
    else if c.isDigit then some integer else none
  | minus, c => if c = '0' then some zero else if c.isDigit then some integer else none
  | zero, c => if c = '.' then some point else if c = 'e' ∨ c = 'E' then some exponent else none
  | integer, c =>
    if c.isDigit then some integer else if c = '.' then some point
    else if c = 'e' ∨ c = 'E' then some exponent else none
  | point, c => if c.isDigit then some fraction else none
  | fraction, c =>
    if c.isDigit then some fraction else if c = 'e' ∨ c = 'E' then some exponent else none
  | exponent, c =>
    if c = '+' ∨ c = '-' then some exponentSign else if c.isDigit then some exponentDigits
    else none
  | exponentSign, c => if c.isDigit then some exponentDigits else none
  | exponentDigits, c => if c.isDigit then some exponentDigits else none

/-- Whether a number may end. -/
def accepting : NumberState → Bool
  | zero | integer | fraction | exponentDigits => true
  | _ => false

/-- Whether the characters complete a number. -/
def accepts : NumberState → List Char → Bool
  | q, [] => q.accepting
  | q, c :: cs => (q.step c).elim false fun q' => q'.accepts cs

end NumberState

/-- Read the rest of a number, as far as it goes. -/
def readNumber : NumberState → List Char → Option (List Char × List Char)
  | q, [] => if q.accepting then some ([], []) else none
  | q, c :: cs =>
    match q.step c with
    | some q' => (readNumber q' cs).map fun r => (c :: r.1, r.2)
    | none => if q.accepting then some ([], c :: cs) else none

/-- Whether a character can occur in a number. -/
def isNumeric (c : Char) : Bool := c.isDigit || c ∈ ['-', '+', '.', 'e', 'E']

/-- The text does not go on with a character of a number. -/
def Ends (cs : List Char) : Prop := ∀ c ∈ cs.head?, isNumeric c = false

/-- Only numeric characters occur in a number. -/
theorem isNumeric_of_step {q q' : NumberState} {c : Char} (h : q.step c = some q') :
    isNumeric c = true := by
  by_contra hnot
  simp only [isNumeric, List.mem_cons, List.not_mem_nil, or_false, Bool.or_eq_true,
    decide_eq_true_eq, not_or] at hnot
  obtain ⟨hdigit, hminus, hplus, hpoint, he, hE⟩ := hnot
  cases q <;> simp [NumberState.step, hdigit, hminus, hplus, hpoint, he, hE] at h
  all_goals
    have hzero : c ≠ '0' := by
      rintro rfl
      exact hdigit (by decide)
    simp [hzero] at h

/-- A number is read to its end. -/
theorem readNumber_append {q : NumberState} {cs rest : List Char} (h : q.accepts cs = true)
    (hrest : Ends rest) : readNumber q (cs ++ rest) = some (cs, rest) := by
  induction cs generalizing q with
  | nil =>
    cases rest with
    | nil => simpa [readNumber, NumberState.accepts] using h
    | cons c rest =>
      have hstep : q.step c = none := by
        by_contra hsome
        obtain ⟨q', hq'⟩ := Option.ne_none_iff_exists'.mp hsome
        have hnumeric := isNumeric_of_step hq'
        simp [hrest c (by simp)] at hnumeric
      simpa [readNumber, hstep, NumberState.accepts] using h
  | cons c cs ih =>
    cases hstep : q.step c with
    | none => simp [NumberState.accepts, hstep] at h
    | some q' =>
      have haccepts : q'.accepts cs = true := by simpa [NumberState.accepts, hstep] using h
      simp [readNumber, hstep, ih haccepts]

/-! ## Strings -/

/-- The value of a hexadecimal digit. -/
def hexValue (c : Char) : Option ℕ :=
  if '0' ≤ c ∧ c ≤ '9' then some (c.toNat - '0'.toNat)
  else if 'a' ≤ c ∧ c ≤ 'f' then some (c.toNat - 'a'.toNat + 10)
  else if 'A' ≤ c ∧ c ≤ 'F' then some (c.toNat - 'A'.toNat + 10)
  else none

/-- The character with four given hexadecimal digits. -/
def hexChar (a b c d : Char) : Option Char := do
  let v := ((← hexValue a) * 16 + (← hexValue b)) * 16 + (← hexValue c)
  let v := v * 16 + (← hexValue d)
  if v.isValidChar then some (Char.ofNat v) else none

/-- The character that a backslash and another character stand for. -/
def unescape (c : Char) : Option Char :=
  if c = quote then some quote
  else if c = backslash then some backslash
  else if c = '/' then some '/'
  else if c = 'b' then some '\x08'
  else if c = 'f' then some '\x0c'
  else if c = 'n' then some '\n'
  else if c = 'r' then some '\r'
  else if c = 't' then some '\t'
  else none

/-- Put a character in front of what was read. -/
def consRead (c : Char) (r : List Char × List Char) : List Char × List Char := (c :: r.1, r.2)

/-- Read a string up to its closing quote. -/
def readString : List Char → Option (List Char × List Char)
  | [] => none
  | c :: cs =>
    if c = quote then some ([], cs)
    else if c = backslash then
      match cs with
      | 'u' :: a :: b :: d :: e :: cs =>
        (hexChar a b d e).bind fun x => (readString cs).map (consRead x)
      | e :: cs => (unescape e).bind fun x => (readString cs).map (consRead x)
      | [] => none
    else if c.toNat < 0x20 then none
    else (readString cs).map (consRead c)

/-- Whether a character stands for itself in a string. -/
def isPlain (c : Char) : Bool := c ≠ quote && c ≠ backslash && 0x20 ≤ c.toNat

/-- A string that needs no escapes. -/
def Plain (s : String) : Prop := ∀ c ∈ s.toList, isPlain c = true

instance (s : String) : Decidable (Plain s) := List.decidableBAll _ s.toList

/-- Digits are plain. -/
theorem isPlain_of_isDigit {c : Char} (h : c.isDigit = true) : isPlain c = true := by
  have hquote : c ≠ quote := by
    rintro rfl
    exact absurd h (by decide)
  have hbackslash : c ≠ backslash := by
    rintro rfl
    exact absurd h (by decide)
  have hcontrol : 0x20 ≤ c.toNat := by
    simp only [Char.isDigit, Bool.and_eq_true, decide_eq_true_eq] at h
    have hzero : 48 ≤ c.toNat := UInt32.le_iff_toNat_le.mp h.1
    omega
  simp [isPlain, hquote, hbackslash, hcontrol]

/-- The closing quote ends a string. -/
theorem readString_quote (cs : List Char) : readString (quote :: cs) = some ([], cs) := by
  rw [readString.eq_def]
  rfl

/-- A character that is not special is read as itself, unless it is a control character. -/
theorem readString_other {c : Char} (hquote : c ≠ quote) (hbackslash : c ≠ backslash)
    (cs : List Char) : readString (c :: cs) =
      if c.toNat < 0x20 then none else (readString cs).map (consRead c) := by
  rw [readString.eq_def]
  simp only [if_neg hquote, if_neg hbackslash]

/-- What follows a backslash is read as one character, if it is one of the escapes. -/
theorem readString_backslash {cs r rest : List Char}
    (h : readString (backslash :: cs) = some (r, rest)) :
    (∃ a b d e x cs' r', cs = 'u' :: a :: b :: d :: e :: cs' ∧ hexChar a b d e = some x ∧
      r = x :: r' ∧ readString cs' = some (r', rest)) ∨
    ∃ e x cs' r', cs = e :: cs' ∧ unescape e = some x ∧ r = x :: r' ∧
      readString cs' = some (r', rest) := by
  rw [readString.eq_def] at h
  dsimp only at h
  rw [if_neg (by decide), if_pos rfl] at h
  split at h
  · rename_i a b d e cs'
    cases hx : hexChar a b d e <;> simp only [hx, Option.bind_none, Option.bind_some,
      reduceCtorEq, Option.map_eq_some_iff] at h
    obtain ⟨⟨r', rest'⟩, hread, heq⟩ := h
    simp only [consRead, Prod.mk.injEq] at heq
    obtain ⟨rfl, rfl⟩ := heq
    exact .inl ⟨a, b, d, e, _, cs', r', rfl, hx, rfl, hread⟩
  · rename_i e cs' _
    cases hx : unescape e <;> simp only [hx, Option.bind_none, Option.bind_some,
      reduceCtorEq, Option.map_eq_some_iff] at h
    obtain ⟨⟨r', rest'⟩, hread, heq⟩ := h
    simp only [consRead, Prod.mk.injEq] at heq
    obtain ⟨rfl, rfl⟩ := heq
    exact .inr ⟨e, _, cs', r', rfl, hx, rfl, hread⟩
  · simp at h

/-- A plain character is read as itself. -/
theorem readString_cons_of_plain {c : Char} (h : isPlain c = true) (cs : List Char) :
    readString (c :: cs) = (readString cs).map (consRead c) := by
  simp only [isPlain, Bool.and_eq_true, decide_eq_true_eq] at h
  obtain ⟨⟨hquote, hbackslash⟩, hcontrol⟩ := h
  rw [readString_other hquote hbackslash, if_neg (by omega)]

/-- Plain characters are read as themselves, up to the quote. -/
theorem readString_of_plain {cs : List Char} (h : ∀ c ∈ cs, isPlain c = true)
    (rest : List Char) : readString (cs ++ quote :: rest) = some (cs, rest) := by
  induction cs with
  | nil => exact readString_quote rest
  | cons c cs ih =>
    rw [List.cons_append, readString_cons_of_plain (h c (by simp)),
      ih fun x hx => h x (List.mem_cons_of_mem c hx)]
    rfl

/-- No hexadecimal digit is a quote. -/
theorem ne_quote_of_hexChar {a b d e x : Char} (h : hexChar a b d e = some x) :
    quote ∉ [a, b, d, e] := by
  have hquote : hexValue quote = none := by decide
  intro hmem
  simp only [List.mem_cons, List.not_mem_nil, or_false] at hmem
  rcases hmem with rfl | rfl | rfl | rfl <;> simp [hexChar, hquote] at h

/-- Only a quote is escaped to a quote. -/
theorem unescape_quote {c x : Char} (h : unescape c = some x) (hc : c = quote) : x = quote := by
  subst hc
  exact (Option.some.inj h).symm

/-- Characters that are no quote come before the first quote. -/
private theorem append_of_notMem_quote {cs w rest cs' : List Char} (hw : quote ∉ w)
    (h : cs ++ quote :: rest = w ++ cs') : ∃ cs₂, cs = w ++ cs₂ ∧ cs' = cs₂ ++ quote :: rest := by
  rcases List.append_eq_append_iff.mp h with ⟨extra, rfl, hextra⟩ | ⟨cs₂, hcs, hcs'⟩
  · cases extra with
    | nil => exact ⟨[], by simp, by simpa using hextra.symm⟩
    | cons x extra =>
      rw [List.cons_append] at hextra
      rw [← (List.cons.inj hextra).1] at hw
      simp at hw
  · exact ⟨cs₂, hcs, hcs'⟩

/-- Of at most `n` characters that are read as they were written, with something in front of them
that contains no quote: there is nothing in front, and they are plain. -/
def PlainUpTo (rest : List Char) (n : ℕ) : Prop :=
  ∀ (cs front : List Char) {rest' : List Char}, cs.length ≤ n → quote ∉ front →
    readString (cs ++ quote :: rest) = some (front ++ cs, rest') →
      front = [] ∧ ∀ c ∈ cs, isPlain c = true

section PlainUpTo

variable {rest rest' cs front : List Char} {n : ℕ} (h : PlainUpTo rest n) (hlen : cs.length ≤ n)
  (hfront : quote ∉ front)

include h hlen hfront

/-- Nothing is read as it was written if it begins with a backslash and `w`, which are read as
one character: this leaves the backslash in front of what follows. -/
theorem PlainUpTo.not_escape {w cs' r' : List Char} {x : Char} (hne : w ≠ []) (hw : quote ∉ w)
    (hcs : cs ++ quote :: rest = w ++ cs') (hr : front ++ backslash :: cs = x :: r')
    (hread : readString cs' = some (r', rest')) : False := by
  obtain ⟨cs₂, rfl, rfl⟩ := append_of_notMem_quote hw hcs
  have hr' : r' = (front ++ backslash :: w).tail ++ cs₂ := by
    cases front <;> simp_all
  rw [hr'] at hread
  rw [List.length_append] at hlen
  have hmore : quote ∉ (front ++ backslash :: w).tail := by
    intro hmem
    rcases List.mem_append.mp (List.mem_of_mem_tail hmem) with hmem | hmem
    · exact hfront hmem
    · rcases List.mem_cons.mp hmem with hmem | hmem
      · exact absurd hmem (by decide)
      · exact hw hmem
  have hempty := (h _ _ (by omega) hmore hread).1
  cases front <;> simp_all

/-- Nothing is read as it was written if it begins with a backslash. -/
theorem PlainUpTo.not_backslash
    (hread : readString (backslash :: cs ++ quote :: rest) =
      some (front ++ backslash :: cs, rest')) : False := by
  have hhead : ∀ {x : Char} {r' : List Char}, front ++ backslash :: cs = x :: r' →
      x ≠ quote := by
    rintro x r' hr rfl
    cases front with
    | nil => exact absurd (List.cons.inj hr).1 (by decide)
    | cons y front => simp_all
  rcases readString_backslash hread with
    ⟨a, b, d, e, x, cs', r', hcs, hx, hr, hread'⟩ | ⟨e, x, cs', r', hcs, hx, hr, hread'⟩
  · refine h.not_escape hlen hfront (w := ['u', a, b, d, e]) (by simp) ?_ hcs hr hread'
    rw [List.mem_cons, not_or]
    exact ⟨by decide, ne_quote_of_hexChar hx⟩
  · refine h.not_escape hlen hfront (w := [e]) (by simp) ?_ hcs hr hread'
    rw [List.mem_singleton]
    exact fun he => hhead hr (unescape_quote hx he.symm)

/-- Any other character is read as itself, and moves to the end of what is in front. -/
theorem PlainUpTo.other {c : Char} (hquote : c ≠ quote) (hbackslash : c ≠ backslash)
    (hread : readString (c :: cs ++ quote :: rest) = some (front ++ c :: cs, rest')) :
    front = [] ∧ ∀ c' ∈ c :: cs, isPlain c' = true := by
  rw [List.cons_append, readString_other hquote hbackslash] at hread
  split_ifs at hread with hcontrol
  obtain ⟨⟨r', rest₂⟩, hread', heq⟩ := Option.map_eq_some_iff.mp hread
  simp only [consRead, Prod.mk.injEq] at heq
  obtain ⟨hr, rfl⟩ := heq
  have hplain : isPlain c = true := by simp [isPlain, hquote, hbackslash]; omega
  cases front with
  | nil =>
    obtain rfl : r' = cs := (List.cons.inj hr).2
    refine ⟨rfl, ?_⟩
    have hrest := (h _ [] hlen (by simp) hread').2
    simpa [hplain] using hrest
  | cons x front =>
    exfalso
    obtain rfl : r' = (front ++ [c]) ++ cs := by
      simpa using (List.cons.inj hr).2
    have hmem : quote ∉ front ++ [c] := by
      simp only [List.mem_append, List.mem_singleton, not_or]
      exact ⟨fun h => hfront (List.mem_cons_of_mem x h), fun h => hquote h.symm⟩
    have hempty := (h _ _ hlen hmem hread').1
    simp at hempty

end PlainUpTo

/-- **A string that is read as it was written is plain**, also if it is read as something in
front of itself; what is in front must not contain a quote.

**Proof sketch.** An escape takes at least two characters for one, so more and more of what was
written comes in front of what has still to be read. It can only be made up for by reading on
after the closing quote; but then a quote is read, and there is none in front. -/
theorem plain_of_readString_append (rest : List Char) (n : ℕ) : PlainUpTo rest n := by
  induction n with
  | zero =>
    intro cs front rest' hlen _ h
    obtain rfl := List.eq_nil_of_length_eq_zero (Nat.le_zero.mp hlen)
    rw [List.nil_append, readString_quote, List.append_nil] at h
    exact ⟨(Prod.mk.inj (Option.some.inj h)).1.symm, by simp⟩
  | succ n ih =>
    intro cs front rest' hlen hfront h
    cases cs with
    | nil =>
      rw [List.nil_append, readString_quote, List.append_nil] at h
      exact ⟨(Prod.mk.inj (Option.some.inj h)).1.symm, by simp⟩
    | cons c cs =>
      have hlen' : cs.length ≤ n := Nat.le_of_succ_le_succ hlen
      by_cases hquote : c = quote
      · -- the string ends here, but it was written with at least one character
        rw [hquote, List.cons_append, readString_quote] at h
        have hnil := (Prod.mk.inj (Option.some.inj h)).1
        simp at hnil
      by_cases hbackslash : c = backslash
      · subst hbackslash
        exact (ih.not_backslash hlen' hfront h).elim
      · exact ih.other hlen' hfront hquote hbackslash h

/-- **A string that is read as it was written is plain.** -/
theorem plain_of_readString {s : String} {rest rest' : List Char}
    (h : readString (s.toList ++ quote :: rest) = some (s.toList, rest')) : Plain s :=
  (plain_of_readString_append rest s.toList.length s.toList [] (Nat.le_refl _) (by simp) h).2

/-! ## Values -/

/-- Whether a character can stand between the parts of a document. -/
def isSpace (c : Char) : Bool := c ∈ [' ', '\t', '\n', '\r']

/-- Skip what stands between the parts of a document. -/
def skipSpace (cs : List Char) : List Char := cs.dropWhile isSpace

/-- Read the given characters. -/
def readWord : List Char → List Char → Option (List Char)
  | [], cs => some cs
  | _ :: _, [] => none
  | w :: ws, c :: cs => if w = c then readWord ws cs else none

/-- Read the given character. -/
def expect (c : Char) (cs : List Char) : Option (List Char) :=
  match skipSpace cs with
  | [] => none
  | d :: cs => if d = c then some cs else none

mutual

/-- Read a value. -/
def readValue : ℕ → List Char → Option (Json × List Char)
  | 0, _ => none
  | n + 1, cs =>
    match skipSpace cs with
    | [] => none
    | c :: cs =>
      if c = quote then (readString cs).map fun r => (.string (String.ofList r.1), r.2)
      else if c = '[' then
        match expect ']' cs with
        | some cs => some (.array [], cs)
        | none => (readItems n cs).map fun r => (.array r.1, r.2)
      else if c = '\x7b' then
        match expect '\x7d' cs with
        | some cs => some (.object [], cs)
        | none => (readMembers n cs).map fun r => (.object r.1, r.2)
      else if c = 'n' then (readWord ['u', 'l', 'l'] cs).map fun cs => (.null, cs)
      else if c = 't' then (readWord ['r', 'u', 'e'] cs).map fun cs => (.bool true, cs)
      else if c = 'f' then (readWord ['a', 'l', 's', 'e'] cs).map fun cs => (.bool false, cs)
      else (readNumber .start (c :: cs)).map fun r => (.number (String.ofList r.1), r.2)

/-- Read the items of an array up to its end. -/
def readItems : ℕ → List Char → Option (List Json × List Char)
  | 0, _ => none
  | n + 1, cs => do
    let (item, cs) ← readValue n cs
    match expect ',' cs with
    | some cs => (readItems n cs).map fun r => (item :: r.1, r.2)
    | none => (expect ']' cs).map fun cs => ([item], cs)

/-- Read the members of an object up to its end. -/
def readMembers : ℕ → List Char → Option (List (String × Json) × List Char)
  | 0, _ => none
  | n + 1, cs => do
    let cs ← expect quote cs
    let (name, cs) ← readString cs
    let cs ← expect ':' cs
    let (value, cs) ← readValue n cs
    match expect ',' cs with
    | some cs => (readMembers n cs).map fun r => ((String.ofList name, value) :: r.1, r.2)
    | none => (expect '\x7d' cs).map fun cs => ([(String.ofList name, value)], cs)

end

/-- Read a text that is one document and nothing else. -/
def read (s : String) : Option Json :=
  match readValue (s.toList.length + 1) s.toList with
  | some (value, cs) => if skipSpace cs = [] then some value else none
  | none => none

/-! ## Verbatim texts -/

/-- A string between quotes. -/
def quoted (s : String) : List Char := quote :: (s.toList ++ [quote])

mutual

/-- The text of a value, its strings being written verbatim. -/
def text : Json → List Char
  | .null => ['n', 'u', 'l', 'l']
  | .bool true => ['t', 'r', 'u', 'e']
  | .bool false => ['f', 'a', 'l', 's', 'e']
  | .number lexeme => lexeme.toList
  | .string s => quoted s
  | .array [] => ['[', ']']
  | .array (item :: items) => '[' :: (text item ++ itemsText items)
  | .object [] => ['\x7b', '\x7d']
  | .object ((name, value) :: members) =>
    '\x7b' :: (quoted name ++ ':' :: (text value ++ membersText members))

/-- The text of the further items of an array, with its end. -/
def itemsText : List Json → List Char
  | [] => [']']
  | item :: items => ',' :: (text item ++ itemsText items)

/-- The text of the further members of an object, with its end. -/
def membersText : List (String × Json) → List Char
  | [] => ['\x7d']
  | (name, value) :: members =>
    ',' :: (quoted name ++ ':' :: (text value ++ membersText members))

end

mutual

/-- A value that can be written verbatim. -/
def Json.Verbatim : Json → Prop
  | .null | .bool _ => True
  | .number lexeme => NumberState.start.accepts lexeme.toList = true
  | .string s => Plain s
  | .array items => AllVerbatim items
  | .object members => MembersVerbatim members

/-- Items that can be written verbatim. -/
def AllVerbatim : List Json → Prop
  | [] => True
  | item :: items => item.Verbatim ∧ AllVerbatim items

/-- Members that can be written verbatim. -/
def MembersVerbatim : List (String × Json) → Prop
  | [] => True
  | (name, value) :: members => (Plain name ∧ value.Verbatim) ∧ MembersVerbatim members

end

/-! ## Reading a verbatim text -/

/-- Nothing is skipped in front of a character that is not a space. -/
theorem skipSpace_cons {c : Char} (h : isSpace c = false) (cs : List Char) :
    skipSpace (c :: cs) = c :: cs := by
  simp [skipSpace, h]

/-- The expected character is read. -/
theorem expect_cons {c : Char} (h : isSpace c = false) (cs : List Char) :
    expect c (c :: cs) = some cs := by
  simp [expect, skipSpace_cons h]

/-- Another character is not read. -/
theorem expect_cons_of_ne {c d : Char} (h : isSpace d = false) (hne : d ≠ c) (cs : List Char) :
    expect c (d :: cs) = none := by
  simp [expect, skipSpace_cons h, hne]

/-- Plain strings are read as they were written. -/
theorem readString_toList {s : String} (h : Plain s) (rest : List Char) :
    readString (s.toList ++ quote :: rest) = some (s.toList, rest) :=
  readString_of_plain h rest

/-- The texts that are read back with the given fuel. -/
structure RoundTrips (n : ℕ) : Prop where
  value : ∀ {value : Json} (rest : List Char), value.Verbatim → Ends rest →
    (text value).length < n → readValue n (text value ++ rest) = some (value, rest)
  items : ∀ {item : Json} {items : List Json} (rest : List Char), item.Verbatim →
    AllVerbatim items → (text item ++ itemsText items).length < n →
    readItems n (text item ++ (itemsText items ++ rest)) = some (item :: items, rest)
  members : ∀ {name : String} {value : Json} {members : List (String × Json)}
    (rest : List Char), Plain name → value.Verbatim → MembersVerbatim members →
    (quoted name ++ ':' :: (text value ++ membersText members)).length < n →
    readMembers n (quoted name ++ ':' :: (text value ++ (membersText members ++ rest))) =
      some ((name, value) :: members, rest)

/-- A character that is neither a space nor the end of an array. -/
def Starts (c : Char) : Prop := isSpace c = false ∧ c ≠ ']'

/-- A number is not empty, and starts with a numeric character. -/
theorem exists_cons_of_accepts {cs : List Char} (h : NumberState.start.accepts cs = true) :
    ∃ c cs', cs = c :: cs' ∧ isNumeric c = true := by
  cases cs with
  | nil => simp [NumberState.accepts, NumberState.accepting] at h
  | cons c cs' =>
    cases hstep : NumberState.start.step c with
    | none => simp [NumberState.accepts, hstep] at h
    | some q => exact ⟨c, cs', rfl, isNumeric_of_step hstep⟩

/-- A numeric character starts none of the other values. -/
theorem ne_of_isNumeric {c : Char} (h : isNumeric c = true) {d : Char}
    (hd : isNumeric d = false) : c ≠ d := by
  rintro rfl
  simp [h] at hd

/-- A numeric character is not a space. -/
theorem isSpace_of_isNumeric {c : Char} (h : isNumeric c = true) : isSpace c = false := by
  simp only [isSpace, decide_eq_false_iff_not, List.mem_cons, List.not_mem_nil, or_false]
  rintro (rfl | rfl | rfl | rfl) <;> exact absurd h (by decide)

/-- The text of a value is not empty, and starts with a character of the value. -/
theorem exists_cons_text {value : Json} (h : value.Verbatim) :
    ∃ c cs, text value = c :: cs ∧ Starts c := by
  cases value with
  | null => exact ⟨_, _, rfl, by decide, by decide⟩
  | bool b => cases b <;> exact ⟨_, _, rfl, by decide, by decide⟩
  | number lexeme =>
    rw [Json.Verbatim] at h
    obtain ⟨c, cs, hcs, hnumeric⟩ := exists_cons_of_accepts h
    exact ⟨c, cs, hcs, isSpace_of_isNumeric hnumeric, ne_of_isNumeric hnumeric (by decide)⟩
  | string s => exact ⟨_, _, rfl, by decide, by decide⟩
  | array items => cases items <;> exact ⟨_, _, rfl, by decide, by decide⟩
  | object members => cases members <;> exact ⟨_, _, rfl, by decide, by decide⟩

namespace RoundTrips

variable {n : ℕ}

/-- A value is read back with one more unit of fuel. -/
theorem value_succ (h : RoundTrips n) {value : Json} (rest : List Char)
    (hvalue : value.Verbatim) (hrest : Ends rest) (hlen : (text value).length < n + 1) :
    readValue (n + 1) (text value ++ rest) = some (value, rest) := by
  cases value with
  | null => rfl
  | bool b => cases b <;> rfl
  | number lexeme =>
    rw [Json.Verbatim] at hvalue
    obtain ⟨c, cs, hcs, hnumeric⟩ := exists_cons_of_accepts hvalue
    have hne := fun d => ne_of_isNumeric (d := d) hnumeric
    have hread := readNumber_append hvalue hrest
    rw [hcs] at hread
    rw [text, hcs, readValue, List.cons_append, skipSpace_cons (isSpace_of_isNumeric hnumeric)]
    dsimp only
    rw [if_neg (hne _ (by decide)), if_neg (hne _ (by decide)), if_neg (hne _ (by decide)),
      if_neg (hne _ (by decide)), if_neg (hne _ (by decide)), if_neg (hne _ (by decide)),
      ← List.cons_append, hread, ← hcs]
    simp
  | string s =>
    rw [Json.Verbatim] at hvalue
    rw [text, quoted, readValue, List.cons_append, skipSpace_cons (by decide)]
    simp [readString_toList hvalue]
  | array items =>
    cases items with
    | nil => rfl
    | cons item items =>
      obtain ⟨hitem, hitems⟩ := hvalue
      have hread := h.items rest hitem hitems (by simpa [text] using hlen)
      have hbracket : expect ']' (text item ++ (itemsText items ++ rest)) = none := by
        obtain ⟨c, cs, hcs, hspace, hne⟩ := exists_cons_text hitem
        rw [hcs]
        exact expect_cons_of_ne hspace hne _
      rw [text, readValue, List.cons_append, skipSpace_cons (by decide), List.append_assoc]
      dsimp only
      rw [if_neg (by decide), if_pos rfl, hbracket, hread]
      rfl
  | object members =>
    cases members with
    | nil => rfl
    | cons member members =>
      obtain ⟨name, value⟩ := member
      obtain ⟨⟨hname, hmember⟩, hmembers⟩ := hvalue
      have hread := h.members rest hname hmember hmembers (by simpa [text] using hlen)
      have hbrace : ∀ cs, expect '\x7d' (quoted name ++ cs) = none := fun cs =>
        expect_cons_of_ne (by decide) (by decide) _
      rw [text, readValue, List.cons_append, skipSpace_cons (by decide)]
      simp only [List.append_assoc, List.cons_append]
      rw [if_neg (by decide), if_neg (by decide), if_pos trivial, hbrace, hread]
      rfl

/-- The items of an array are read back with one more unit of fuel. -/
theorem items_succ (h : RoundTrips n) {item : Json} {items : List Json} (rest : List Char)
    (hitem : item.Verbatim) (hitems : AllVerbatim items)
    (hlen : (text item ++ itemsText items).length < n + 1) :
    readItems (n + 1) (text item ++ (itemsText items ++ rest)) = some (item :: items, rest) := by
  rw [List.length_append] at hlen
  cases items with
  | nil =>
    rw [itemsText, List.length_singleton] at hlen
    have hread := h.value (']' :: rest) hitem (by simp [Ends, isNumeric]) (by omega)
    rw [itemsText, List.cons_append, List.nil_append, readItems, hread, Option.bind_eq_bind,
      Option.bind_some]
    dsimp only
    rw [expect_cons_of_ne (by decide) (by decide), expect_cons (by decide)]
    rfl
  | cons next items =>
    rw [itemsText, List.length_cons] at hlen
    have hread := h.value (',' :: (text next ++ (itemsText items ++ rest))) hitem
      (by simp [Ends, isNumeric]) (by omega)
    have hrest := h.items rest hitems.1 hitems.2 (by omega)
    rw [itemsText, List.cons_append, List.append_assoc, readItems, hread, Option.bind_eq_bind,
      Option.bind_some]
    dsimp only
    rw [expect_cons (by decide)]
    dsimp only
    rw [hrest]
    rfl

/-- The members of an object are read back with one more unit of fuel. -/
theorem members_succ (h : RoundTrips n) {name : String} {value : Json}
    {members : List (String × Json)} (rest : List Char) (hname : Plain name)
    (hvalue : value.Verbatim) (hmembers : MembersVerbatim members)
    (hlen : (quoted name ++ ':' :: (text value ++ membersText members)).length < n + 1) :
    readMembers (n + 1) (quoted name ++ ':' :: (text value ++ (membersText members ++ rest))) =
      some ((name, value) :: members, rest) := by
  have hquoted : ∀ cs, quoted name ++ cs = quote :: (name.toList ++ quote :: cs) := fun cs => by
    simp [quoted]
  simp only [List.length_cons, List.length_append] at hlen
  rw [readMembers, hquoted, expect_cons (by decide), Option.bind_eq_bind, Option.bind_some,
    readString_toList hname, Option.bind_eq_bind, Option.bind_some]
  dsimp only
  rw [expect_cons (by decide), Option.bind_eq_bind, Option.bind_some]
  cases members with
  | nil =>
    have hread := h.value ('\x7d' :: rest) hvalue (by simp [Ends, isNumeric])
      (by omega)
    rw [membersText, List.cons_append, List.nil_append, hread, Option.bind_some]
    dsimp only
    rw [expect_cons_of_ne (by decide) (by decide), expect_cons (by decide),
      String.ofList_toList]
    rfl
  | cons next members =>
    obtain ⟨name', value'⟩ := next
    obtain ⟨⟨hname', hvalue'⟩, hmembers'⟩ := hmembers
    rw [membersText, List.length_cons] at hlen
    have hread := h.value (',' :: (quoted name' ++ ':' ::
      (text value' ++ (membersText members ++ rest)))) hvalue (by simp [Ends, isNumeric])
      (by omega)
    have hrest := h.members rest hname' hvalue' hmembers' (by omega)
    rw [membersText]
    simp only [List.cons_append, List.append_assoc]
    rw [hread, Option.bind_some]
    dsimp only
    rw [expect_cons (by decide)]
    dsimp only
    rw [hrest, String.ofList_toList]
    rfl

end RoundTrips

/-- Fuel of the length of the text is enough. -/
theorem roundTrips (n : ℕ) : RoundTrips n := by
  induction n with
  | zero => exact ⟨fun _ _ _ h => absurd h (Nat.not_lt_zero _),
      fun _ _ _ h => absurd h (Nat.not_lt_zero _), fun _ _ _ _ h => absurd h (Nat.not_lt_zero _)⟩
  | succ n ih => exact ⟨ih.value_succ, ih.items_succ, ih.members_succ⟩

/-- **Round trip.** A text that a verbatim document is written as is read as that document. -/
theorem read_text {s : String} {value : Json} (h : value.Verbatim) (hs : s.toList = text value) :
    read s = some value := by
  have hvalue := (roundTrips ((text value).length + 1)).value [] h (by simp [Ends])
    (Nat.lt_succ_self _)
  rw [List.append_nil] at hvalue
  simp [read, hs, hvalue, skipSpace]

/-! ## Documents -/

/-- A member whose value is a string. -/
def member (name value : String) : String × Json := (name, .string value)

/-- The text of an object differs from that of further members in its first character. -/
theorem text_object {members : List (String × Json)} {cs : List Char}
    (h : membersText members = ',' :: cs) : text (.object members) = '\x7b' :: cs := by
  cases members with
  | nil => simp [membersText] at h
  | cons m members =>
    rw [membersText] at h
    rw [text, (List.cons.inj h).2]

/-- An object can be written verbatim if all its members can. -/
theorem membersVerbatim_iff {members : List (String × Json)} :
    MembersVerbatim members ↔ ∀ m ∈ members, Plain m.1 ∧ m.2.Verbatim := by
  induction members with
  | nil => simp [MembersVerbatim]
  | cons m members ih => simp [MembersVerbatim, ih]

/-- An array can be written verbatim if all its items can. -/
theorem allVerbatim_iff {items : List Json} :
    AllVerbatim items ↔ ∀ item ∈ items, item.Verbatim := by
  induction items with
  | nil => simp [AllVerbatim]
  | cons item items ih => simp [AllVerbatim, ih]

/-- Plain strings put together are plain. -/
theorem Plain.append {s t : String} (hs : Plain s) (ht : Plain t) : Plain (s ++ t) := by
  intro c hc
  rw [String.toList_append] at hc
  exact (List.mem_append.mp hc).elim (hs c) (ht c)

/-- A member of plain strings can be written verbatim. -/
theorem verbatim_member {name value : String} (hname : Plain name) (hvalue : Plain value) :
    Plain (member name value).1 ∧ (member name value).2.Verbatim := by
  refine ⟨hname, ?_⟩
  rw [member, Json.Verbatim]
  exact hvalue

/-! ## Reading the beginning of a text -/

section Beginnings

variable {n : ℕ} {cs rest : List Char} {value : Json} {items : List Json}
  {members : List (String × Json)}

/-- A text that starts with a quote is read as a string. -/
theorem readValue_quote (h : readValue n (quote :: cs) = some (value, rest)) :
    ∃ s, readString cs = some (s, rest) ∧ value = .string (String.ofList s) := by
  cases n with
  | zero => simp [readValue] at h
  | succ n =>
    rw [readValue, skipSpace_cons (by decide)] at h
    simp only [if_true, Option.map_eq_some_iff, Prod.mk.injEq] at h
    obtain ⟨⟨s, cs'⟩, hread, rfl, rfl⟩ := h
    exact ⟨s, hread, rfl⟩

/-- A text that starts with a brace and a quote is read as an object. -/
theorem readValue_object (h : readValue n ('\x7b' :: quote :: cs) = some (value, rest)) :
    ∃ m members, value = .object members ∧
      readMembers m (quote :: cs) = some (members, rest) := by
  cases n with
  | zero => simp [readValue] at h
  | succ n =>
    rw [readValue, skipSpace_cons (by decide)] at h
    have hbrace : expect '\x7d' (quote :: cs) = none :=
      expect_cons_of_ne (by decide) (by decide) cs
    simp only [hbrace, Char.reduceEq, if_false, if_true] at h
    obtain ⟨r, hread, heq⟩ := Option.map_eq_some_iff.mp h
    obtain ⟨rfl, rfl⟩ := Prod.mk.inj heq
    exact ⟨n, r.1, rfl, hread⟩

/-- A text that starts with a bracket and a brace is read as an array. -/
theorem readValue_array (h : readValue n ('[' :: '\x7b' :: cs) = some (value, rest)) :
    ∃ m items, value = .array items ∧ readItems m ('\x7b' :: cs) = some (items, rest) := by
  cases n with
  | zero => simp [readValue] at h
  | succ n =>
    rw [readValue, skipSpace_cons (by decide)] at h
    have hbracket : expect ']' ('\x7b' :: cs) = none :=
      expect_cons_of_ne (by decide) (by decide) cs
    simp only [hbracket, Char.reduceEq, if_false, if_true] at h
    obtain ⟨r, hread, heq⟩ := Option.map_eq_some_iff.mp h
    obtain ⟨rfl, rfl⟩ := Prod.mk.inj heq
    exact ⟨n, r.1, rfl, hread⟩

/-- The items of an array start with a value. -/
theorem readItems_cons (h : readItems n cs = some (items, rest)) :
    ∃ m item items' cs', items = item :: items' ∧ readValue m cs = some (item, cs') := by
  cases n with
  | zero => simp [readItems] at h
  | succ n =>
    rw [readItems, Option.bind_eq_bind, Option.bind_eq_some_iff] at h
    obtain ⟨⟨item, cs'⟩, hread, h⟩ := h
    dsimp only at h
    split at h
    · obtain ⟨r, -, heq⟩ := Option.map_eq_some_iff.mp h
      exact ⟨n, item, r.1, cs', (Prod.mk.inj heq).1.symm, hread⟩
    · obtain ⟨r, -, heq⟩ := Option.map_eq_some_iff.mp h
      exact ⟨n, item, [], cs', (Prod.mk.inj heq).1.symm, hread⟩

/-- The members of an object start with a name and a value; further ones follow a comma. -/
theorem readMembers_cons {name : String} (hname : Plain name)
    (h : readMembers n (quoted name ++ ':' :: cs) = some (members, rest)) :
    ∃ m value members' cs', members = (name, value) :: members' ∧
      readValue m cs = some (value, cs') ∧
      ∀ cs'', cs' = ',' :: cs'' → readMembers m cs'' = some (members', rest) := by
  cases n with
  | zero => simp [readMembers] at h
  | succ n =>
    have hquoted : quoted name ++ ':' :: cs = quote :: (name.toList ++ quote :: ':' :: cs) := by
      simp [quoted]
    rw [readMembers, hquoted, expect_cons (by decide), Option.bind_eq_bind, Option.bind_some,
      readString_toList hname, Option.bind_eq_bind, Option.bind_some] at h
    dsimp only at h
    rw [expect_cons (by decide), Option.bind_eq_bind, Option.bind_some, Option.bind_eq_some_iff,
      String.ofList_toList] at h
    obtain ⟨⟨value, cs'⟩, hread, h⟩ := h
    dsimp only at h
    split at h
    · rename_i next hnext
      obtain ⟨r, hr, heq⟩ := Option.map_eq_some_iff.mp h
      obtain ⟨rfl, rfl⟩ := Prod.mk.inj heq
      refine ⟨n, value, r.1, cs', rfl, hread, fun cs'' hcs => ?_⟩
      rw [hcs, expect_cons (by decide)] at hnext
      rw [Option.some.inj hnext, hr]
    · rename_i hnone
      obtain ⟨r, -, heq⟩ := Option.map_eq_some_iff.mp h
      obtain ⟨rfl, rfl⟩ := Prod.mk.inj heq
      refine ⟨n, value, [], cs', rfl, hread, fun cs'' hcs => ?_⟩
      rw [hcs, expect_cons (by decide)] at hnone
      simp at hnone

/-- A member with a plain value is read as it was written, if another one follows. -/
theorem readMembers_member {name text : String} (hname : Plain name) (htext : Plain text)
    (h : readMembers n (quoted name ++ ':' :: (quoted text ++ ',' :: cs)) =
      some (members, rest)) :
    ∃ m members', members = member name text :: members' ∧
      readMembers m cs = some (members', rest) := by
  obtain ⟨m, value, members', cs', hmembers, hread, hnext⟩ := readMembers_cons hname h
  have hquoted : quoted text ++ ',' :: cs = quote :: (text.toList ++ quote :: ',' :: cs) := by
    simp [quoted]
  rw [hquoted] at hread
  obtain ⟨s, hs, rfl⟩ := readValue_quote hread
  rw [readString_toList htext] at hs
  obtain ⟨rfl, rfl⟩ := Prod.mk.inj (Option.some.inj hs)
  rw [String.ofList_toList] at hmembers
  exact ⟨m, members', hmembers, hnext cs rfl⟩

/-- **A member that is read as it was written has a plain value**, whatever follows. -/
theorem plain_of_readMembers {name text : String} (hname : Plain name)
    (h : readMembers n (quoted name ++ ':' :: (quoted text ++ cs)) = some (members, rest))
    (hlookup : members.lookup name = some (.string text)) : Plain text := by
  obtain ⟨m, value, members', cs', rfl, hread, -⟩ := readMembers_cons hname h
  have hquoted : quoted text ++ cs = quote :: (text.toList ++ quote :: cs) := by simp [quoted]
  rw [hquoted] at hread
  obtain ⟨s, hs, rfl⟩ := readValue_quote hread
  simp only [List.lookup_cons_self, Option.some.injEq, Json.string.injEq] at hlookup
  rw [← hlookup] at hs ⊢
  have hself : readString ((String.ofList s).toList ++ quote :: cs) =
      some ((String.ofList s).toList, cs') := by
    rw [hs, String.toList_ofList]
  exact plain_of_readString hself

/-- A text that is read as an object starts with its members. -/
theorem readMembers_of_read {s : String} (hs : s.toList = '\x7b' :: quote :: cs)
    (h : read s = some (.object members)) :
    ∃ m rest, readMembers m (quote :: cs) = some (members, rest) := by
  unfold read at h
  split at h
  · rename_i value rest hread
    split_ifs at h
    obtain rfl := Option.some.inj h
    rw [hs] at hread
    obtain ⟨m, members', heq, hmembers⟩ := readValue_object hread
    obtain rfl := Json.object.inj heq
    exact ⟨m, rest, hmembers⟩
  · simp at h

end Beginnings

end JsonText
