import RoqBitget.Foundations.Slices

set_option relaxedAutoImplicit false
set_option autoImplicit false

/-!
# Symbols in slices

The gateway relies on `core::Symbols`, which is not part of the repository: a list of symbols
that only grows, cut into slices of a fixed size, one for each market data stream.

## Main definitions

* `RoqBitget.Core.Symbols` — the operations, with what the gateway relies on as fields.
* `RoqBitget.Core.symbolList` — a reference implementation.
-/

namespace RoqBitget.Core

open Slices

/-- `core::Symbols`. -/
structure Symbols where
  /-- The objects. -/
  Object : Type
  /-- The number of symbols of a full slice. -/
  sliceSize : ℕ
  /-- A slice has room. -/
  sliceSize_pos : 0 < sliceSize
  /-- A new object. -/
  create : Object
  /-- The symbols received so far. -/
  contents : Object → List String
  /-- The call operator: the number of slices and the previous length are returned. -/
  update : List String → Object → (ℕ × ℕ) × Object
  /-- `get_slice`. -/
  getSlice : Object → ℕ → ℕ → List String
  /-- A new object has received nothing. -/
  contents_create : contents create = []
  /-- The call operator appends. -/
  contents_update : ∀ xs o, contents (update xs o).2 = contents o ++ xs
  /-- What the call operator returns. -/
  update_fst : ∀ xs o,
    (update xs o).1 = (sliceCount sliceSize (contents o ++ xs).length, (contents o).length)
  /-- `get_slice` returns the part of a slice at or after a position. -/
  getSlice_eq : ∀ o i start, getSlice o i start = sliceFrom sliceSize (contents o) i start

/-- An object that consists of its list of symbols. -/
def symbolList (sliceSize : ℕ) (hsize : 0 < sliceSize) : Symbols where
  Object := List String
  sliceSize := sliceSize
  sliceSize_pos := hsize
  create := []
  contents o := o
  update xs o := ((sliceCount sliceSize (o ++ xs).length, o.length), o ++ xs)
  getSlice o i start := sliceFrom sliceSize o i start
  contents_create := rfl
  contents_update _ _ := rfl
  update_fst _ _ := rfl
  getSlice_eq _ _ _ := rfl

end RoqBitget.Core
