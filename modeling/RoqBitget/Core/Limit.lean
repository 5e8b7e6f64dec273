import Mathlib.Init

set_option relaxedAutoImplicit false
set_option autoImplicit false

/-!
# Rate-limited requests

The gateway relies on `core::limit::Request`, which is not part of the repository: a slot that
remembers whether a request is to be sent and whether it was answered. One component makes the
request, another one sends it as soon as the rate limiter admits it, and commits the answer.
A commit does not say which request it answers.

## Main definitions

* `RoqBitget.Core.LimitRequest` — the operations, with what the gateway relies on as fields.
* `RoqBitget.Core.flags` — a reference implementation.

## Implementation notes

`check_pending` runs its callback between two questions to the slot: whether a request is
pending before it, and what becomes of the slot after it. The callback may throw, so there are
two answers to the second question, `sent` and `interrupted`.
-/

namespace RoqBitget.Core

/-- `core::limit::Request`. -/
structure LimitRequest where
  /-- The slots. -/
  Object : Type
  /-- A new slot. -/
  create : Object
  /-- `request`. -/
  request : Object → Object
  /-- Whether `check_pending` runs its callback once the rate limiter admits it. -/
  pending : Object → Bool
  /-- The slot after a callback of `check_pending` that returned. -/
  sent : Object → Object
  /-- The slot after a callback of `check_pending` that threw. -/
  interrupted : Object → Object
  /-- `commit`. -/
  commit : Object → Object
  /-- `has_response`. -/
  hasResponse : Object → Bool
  /-- A request makes the slot pending. -/
  pending_request : ∀ r, pending (request r) = true
  /-- A request is not answered when it is made. -/
  hasResponse_request : ∀ r, hasResponse (request r) = false
  /-- A request is sent once. -/
  pending_sent : ∀ r, pending (sent r) = false
  /-- Sending does not answer a request. -/
  hasResponse_sent : ∀ r, hasResponse (sent r) = hasResponse r
  /-- Failing to send does not answer a request. -/
  hasResponse_interrupted : ∀ r, hasResponse (interrupted r) = hasResponse r
  /-- A commit answers the latest request, whichever one it was meant for. -/
  hasResponse_commit : ∀ r, hasResponse (commit r) = true

/-! ## A reference implementation -/

/-- A slot that consists of two flags. -/
structure Flags where
  pending : Bool
  answered : Bool
  deriving DecidableEq

/-- The slot of two flags; a callback that throws leaves the request pending. -/
def flags : LimitRequest where
  Object := Flags
  create := ⟨false, false⟩
  request _ := ⟨true, false⟩
  pending r := r.pending
  sent r := { r with pending := false }
  interrupted r := r
  commit r := { r with answered := true }
  hasResponse r := r.answered
  pending_request _ := rfl
  hasResponse_request _ := rfl
  pending_sent _ := rfl
  hasResponse_sent _ := rfl
  hasResponse_interrupted _ := rfl
  hasResponse_commit _ := rfl

end RoqBitget.Core
