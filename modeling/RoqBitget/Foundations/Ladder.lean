import Mathlib.Logic.Basic
import Mathlib.Data.List.Basic

set_option relaxedAutoImplicit false
set_option autoImplicit false

/-!
# Books of price levels

A book has two sides, each of which has a quantity at some prices. A change of the book sets
levels on both sides, a level of quantity zero being removed; it starts from the book as it is,
or from an empty one.

## Main definitions

* `Ladder.Book`, `Ladder.Change` — books and their changes.
* `Ladder.Book.apply` — the book after a change.

## Main results

* `Ladder.Book.apply_quiet`, `apply_clear` — what a change without any levels does.
-/

namespace Ladder

/-- One side of a book: the quantity at a price, if there is one. -/
abbrev Side (κ ν : Type) := κ → Option ν

/-- A book. -/
@[ext] structure Book (κ ν : Type) where
  bids : Side κ ν
  asks : Side κ ν

/-- A change of a book; it may replace what was there. -/
structure Change (κ ν : Type) where
  replace : Bool
  bids : List (κ × ν)
  asks : List (κ × ν)

variable {κ ν : Type}

/-- The book without any levels. -/
def Book.empty : Book κ ν := ⟨fun _ => none, fun _ => none⟩

variable [DecidableEq κ] [DecidableEq ν] (zero : ν)

/-- Set a level, or remove it if its quantity is zero. -/
def setLevel (side : Side κ ν) (level : κ × ν) : Side κ ν := fun price =>
  if price = level.1 then if level.2 = zero then none else some level.2 else side price

/-- Set some levels, one after the other. -/
def setLevels (side : Side κ ν) (levels : List (κ × ν)) : Side κ ν :=
  levels.foldl (setLevel zero) side

/-- The book after a change. -/
def Book.apply (book : Book κ ν) (change : Change κ ν) : Book κ ν :=
  let start := if change.replace then Book.empty else book
  ⟨setLevels zero start.bids change.bids, setLevels zero start.asks change.asks⟩

/-- A change without levels that replaces nothing leaves the book as it is. -/
theorem Book.apply_quiet (book : Book κ ν) : book.apply zero ⟨false, [], []⟩ = book := rfl

/-- A change without levels that replaces the book empties it. -/
theorem Book.apply_clear (book : Book κ ν) : book.apply zero ⟨true, [], []⟩ = Book.empty := rfl

end Ladder
