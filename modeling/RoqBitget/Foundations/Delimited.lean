import Mathlib.Data.List.DropRight
import Mathlib.Data.List.TakeWhile

set_option relaxedAutoImplicit false
set_option autoImplicit false

/-!
# Texts in parts

A text that is put together from parts can be taken apart again if every part ends where a
character comes that it does not contain. A block of header lines is such a text: names end at a
colon, lines at a carriage return and a line feed.

## Main definitions

* `Delimited.readLines`, `Delimited.readHeaders` — the lines of a text, and the header fields.
* `Delimited.headerLine` — the line of a header field.
* `Delimited.IsName`, `Delimited.IsValue` — what can be written as a name, and as a value.

## Main results

* `Delimited.append_inj` — a text has one way to be taken apart.
* `Delimited.readHeaders_headerLines` — header fields are read as they were written.

## Implementation notes

Blanks around a value do not belong to it. A line that is folded is not read.
-/

namespace Delimited

/-! ## Two parts -/

section Parts

variable {α : Type} {p : α → Bool} {part part' rest rest' : List α}

/-- A part ends before an element that it cannot contain. -/
theorem takeWhile_append (hpart : ∀ a ∈ part, p a = true) (hrest : ∀ a ∈ rest.head?, p a = false) :
    (part ++ rest).takeWhile p = part := by
  rw [List.takeWhile_append_of_pos hpart]
  cases rest with
  | nil => simp
  | cons a rest =>
    have ha : p a = false := hrest a rfl
    simp [ha]

/-- What comes after a part begins with an element that the part cannot contain. -/
theorem dropWhile_append (hpart : ∀ a ∈ part, p a = true) (hrest : ∀ a ∈ rest.head?, p a = false) :
    (part ++ rest).dropWhile p = rest := by
  rw [List.dropWhile_append_of_pos hpart]
  cases rest with
  | nil => simp
  | cons a rest =>
    have ha : p a = false := hrest a rfl
    simp [ha]

/-- **There is one way to take a text apart.** -/
theorem append_inj (hpart : ∀ a ∈ part, p a = true) (hrest : ∀ a ∈ rest.head?, p a = false)
    (hpart' : ∀ a ∈ part', p a = true) (hrest' : ∀ a ∈ rest'.head?, p a = false)
    (h : part ++ rest = part' ++ rest') : part = part' ∧ rest = rest' := by
  constructor
  · rw [← takeWhile_append hpart hrest, h, takeWhile_append hpart' hrest']
  · rw [← dropWhile_append hpart hrest, h, dropWhile_append hpart' hrest']

end Parts

/-! ## Lines -/

/-- The end of a line. -/
abbrev lineEnd : List Char := ['\r', '\n']

/-- A character that belongs to the end of a line. -/
def isEnd (c : Char) : Bool := c = '\r' || c = '\n'

/-- The lines of a text; every line has its end. -/
def readLines : List Char → Option (List (List Char))
  | [] => some []
  | '\r' :: '\n' :: cs => (readLines cs).map ([] :: ·)
  | c :: cs =>
    if isEnd c then none
    else match readLines cs with
      | some (line :: lines) => some ((c :: line) :: lines)
      | _ => none

/-- A line is read up to its end. -/
theorem readLines_append {line : List Char} (hline : ∀ c ∈ line, isEnd c = false)
    {cs : List Char} {lines : List (List Char)} (hcs : readLines cs = some lines) :
    readLines (line ++ (lineEnd ++ cs)) = some (line :: lines) := by
  induction line with
  | nil => simp [readLines, hcs]
  | cons c line ih =>
    have hc : isEnd c = false := hline c List.mem_cons_self
    have hrest := ih fun d hd => hline d (List.mem_cons_of_mem c hd)
    rw [List.cons_append, readLines, if_neg (by simp [hc]), hrest]
    rintro cs' rfl
    exact absurd hc (by decide)

/-! ## Header fields -/

/-- A blank. -/
def isBlank (c : Char) : Bool := c = ' ' || c = '\t'

/-- The text without the blanks around it. -/
def trim (cs : List Char) : List Char := (cs.dropWhile isBlank).rdropWhile isBlank

/-- The header field of a line. -/
def readHeader (line : List Char) : Option (String × String) :=
  match line.dropWhile (· != ':') with
  | [] => none
  | _ :: value =>
    some (String.ofList (line.takeWhile (· != ':')), String.ofList (trim value))

/-- The header fields of a text. -/
def readHeaders (s : String) : Option (List (String × String)) :=
  (readLines s.toList).bind (List.mapM readHeader)

/-- The line of a header field. -/
def headerLine (field : String × String) : String := field.1 ++ ": " ++ field.2 ++ "\r\n"

/-- A header field can have this name. -/
def IsName (name : String) : Prop := ∀ c ∈ name.toList, isEnd c = false ∧ c ≠ ':'

/-- A header field can have this value: it is one line and has no blanks around it. -/
structure IsValue (value : String) : Prop where
  line : ∀ c ∈ value.toList, isEnd c = false
  head : ∀ c ∈ value.toList.head?, isBlank c = false
  last : ∀ c ∈ value.toList.getLast?, isBlank c = false

instance (name : String) : Decidable (IsName name) := List.decidableBAll _ name.toList

instance (value : String) : Decidable (IsValue value) :=
  decidable_of_iff (value.toList.all (!isEnd ·) ∧ value.toList.head?.all (!isBlank ·) ∧
      value.toList.getLast?.all (!isBlank ·))
    ⟨fun h => ⟨by simpa using h.1, by simpa [Option.all_eq_true] using h.2.1,
        by simpa [Option.all_eq_true] using h.2.2⟩,
      fun h => ⟨by simpa using h.line, by simpa [Option.all_eq_true] using h.head,
        by simpa [Option.all_eq_true] using h.last⟩⟩

/-- A value has nothing to trim, except for the blank that is written before it. -/
theorem IsValue.trim_cons {value : String} (h : IsValue value) :
    trim (' ' :: value.toList) = value.toList := by
  have hhead : value.toList.dropWhile isBlank = value.toList :=
    dropWhile_append (List.forall_mem_nil _) h.head
  have hlast : value.toList.rdropWhile isBlank = value.toList := by
    refine List.rdropWhile_eq_self_iff.mpr fun hne => ?_
    have hblank := h.last _ (List.getLast?_eq_some_getLast hne)
    simp [hblank]
  have hspace : isBlank ' ' = true := by decide
  rw [trim, List.dropWhile_cons, if_pos hspace, hhead, hlast]

/-- The line of a header field, without its end. -/
def lineOf (field : String × String) : List Char :=
  field.1.toList ++ (':' :: ' ' :: field.2.toList)

theorem toList_headerLine (field : String × String) :
    (headerLine field).toList = lineOf field ++ lineEnd := by
  simp [headerLine, lineOf, String.toList_append]

/-- The line of a header field does not end before its end. -/
theorem isEnd_lineOf {field : String × String} (hname : IsName field.1) (hvalue : IsValue field.2) :
    ∀ c ∈ lineOf field, isEnd c = false := by
  intro c hc
  simp only [lineOf, List.mem_append, List.mem_cons] at hc
  rcases hc with hc | rfl | rfl | hc
  · exact (hname c hc).1
  · decide
  · decide
  · exact hvalue.line c hc

/-- A header field is read from its line. -/
theorem readHeader_lineOf {field : String × String} (hname : IsName field.1)
    (hvalue : IsValue field.2) : readHeader (lineOf field) = some field := by
  have hpart : ∀ c ∈ field.1.toList, (c != ':') = true := fun c hc => by simp [(hname c hc).2]
  have hrest : ∀ c ∈ (':' :: ' ' :: field.2.toList).head?, (c != ':') = false := by simp
  rw [readHeader, lineOf, dropWhile_append hpart hrest, takeWhile_append hpart hrest]
  simp only [hvalue.trim_cons, String.ofList_toList]

/-- The lines of a text that consists of the lines of header fields. -/
theorem readLines_headerLines {fields : List (String × String)}
    (hfields : ∀ field ∈ fields, IsName field.1 ∧ IsValue field.2) :
    readLines (fields.flatMap fun field => (headerLine field).toList) =
      some (fields.map lineOf) := by
  induction fields with
  | nil => rfl
  | cons field fields ih =>
    obtain ⟨⟨hname, hvalue⟩, hfields⟩ := List.forall_mem_cons.mp hfields
    rw [List.flatMap_cons, toList_headerLine, List.append_assoc]
    exact readLines_append (isEnd_lineOf hname hvalue) (ih hfields)

/-- **Header fields are read as they were written.** -/
theorem readHeaders_headerLines {fields : List (String × String)}
    (hfields : ∀ field ∈ fields, IsName field.1 ∧ IsValue field.2) {s : String}
    (hs : s.toList = fields.flatMap fun field => (headerLine field).toList) :
    readHeaders s = some fields := by
  rw [readHeaders, hs, readLines_headerLines hfields, Option.bind_some]
  clear hs
  induction fields with
  | nil => rfl
  | cons field fields ih =>
    obtain ⟨⟨hname, hvalue⟩, hfields⟩ := List.forall_mem_cons.mp hfields
    rw [List.map_cons, List.mapM_cons, readHeader_lineOf hname hvalue, ih hfields]
    rfl

end Delimited
