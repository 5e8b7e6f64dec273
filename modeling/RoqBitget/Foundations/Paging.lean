import Mathlib.Data.List.Basic

set_option relaxedAutoImplicit false
set_option autoImplicit false

/-!
# Listings served in pages

A server answers a question about its records with at most a fixed number of them, and with a
cursor from which the next question continues. A client that follows the cursors for `k` pages
has the first `k` pages of the listing, and all of it exactly if no more pages are filled.

## Main definitions

* `Paging.Listing` — records, page size and cursors.
* `Paging.Listing.page` — the answer from a cursor on.
* `Paging.Listing.fetch` — what a client has that follows the cursors.

## Main results

* `Paging.Listing.fetch_eq` — the pages of a client are a prefix of the listing.
* `Paging.Listing.fetch_map_perm_iff` — when a client has every record exactly once.
-/

namespace Paging

variable {Record Cursor : Type}

/-- A listing that is served in pages of at most `size` records. -/
structure Listing (Record Cursor : Type) where
  /-- The records in the order in which they are served. -/
  records : List Record
  /-- The number of records of a full page. -/
  size : ℕ
  /-- The position from which a cursor continues. -/
  position : Cursor → ℕ
  /-- The cursor that continues from a position. -/
  cursor : ℕ → Cursor
  /-- A cursor continues from its position. -/
  position_cursor : ∀ n, position (cursor n) = n

namespace Listing

/-- The position of a question, which may come without a cursor. -/
def start (l : Listing Record Cursor) : Option Cursor → ℕ
  | none => 0
  | some c => l.position c

/-- The answer to a question: its records, and the cursor from which the next one continues. -/
def page (l : Listing Record Cursor) (c : Option Cursor) : List Record × Cursor :=
  ((l.records.drop (l.start c)).take l.size, l.cursor (l.start c + l.size))

/-- What a client has after `k` questions, each of which continues after the one before. -/
def fetch (l : Listing Record Cursor) : ℕ → Option Cursor → List Record
  | 0, _ => []
  | k + 1, c => (l.page c).1 ++ l.fetch k (some (l.page c).2)

/-- The pages follow each other without gap or overlap. -/
theorem fetch_eq (l : Listing Record Cursor) (k : ℕ) (c : Option Cursor) :
    l.fetch k c = (l.records.drop (l.start c)).take (k * l.size) := by
  induction k generalizing c with
  | zero => simp [fetch]
  | succ k ih =>
    have hnext : l.start (some (l.page c).2) = l.start c + l.size := l.position_cursor _
    have hsize : (k + 1) * l.size = l.size + k * l.size := by rw [Nat.succ_mul, Nat.add_comm]
    calc
      l.fetch (k + 1) c = (l.page c).1 ++ l.fetch k (some (l.page c).2) := rfl
      _ = (l.records.drop (l.start c)).take l.size ++
          ((l.records.drop (l.start c)).drop l.size).take (k * l.size) := by
        rw [ih, hnext, List.drop_drop]
        rfl
      _ = (l.records.drop (l.start c)).take ((k + 1) * l.size) := by
        rw [hsize, List.take_add]

/-- **A client is complete if the listing fits on its pages**, and only then: it has every record
exactly once, whatever it makes of a record. -/
theorem fetch_map_perm_iff {Update : Type} (l : Listing Record Cursor) (k : ℕ)
    (f : Record → Update) :
    ((l.fetch k none).map f).Perm (l.records.map f) ↔ l.records.length ≤ k * l.size := by
  rw [fetch_eq]
  constructor
  · intro hperm
    have hlength := hperm.length_eq
    simp only [start, List.drop_zero, List.length_map, List.length_take] at hlength
    omega
  · intro hfits
    simp [start, List.take_of_length_le hfits]

/-- A single question fetches the first page. -/
theorem fetch_one (l : Listing Record Cursor) : l.fetch 1 none = (l.page none).1 := by
  simp [fetch]

end Listing

end Paging
