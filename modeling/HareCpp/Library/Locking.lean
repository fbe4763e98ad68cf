import Mathlib.Tactic

/-!
# What one thread does with mutexes

A piece of code as the list of its lock events, in the order in which they
happen.  `requests` are the moments at which the thread asks for a mutex, each
with what it holds then; a mutex that is not recursive must not be among them.

`Disciplined` puts the two questions about a piece of code together: it never
asks for what the thread holds, and it leaves the thread with the mutexes given.
Pieces compose (`Disciplined.append`), and a `std::lock_guard` is a `scope`
around the piece it guards (`Disciplined.scope`).
-/

namespace HareCpp
namespace Library

variable {μ : Type*}

/-- A thread asks for a mutex and goes on once it has it, or gives one back. -/
inductive LockEvent (μ : Type*)
  | lock (mutex : μ)
  | unlock (mutex : μ)
  deriving DecidableEq, Repr

variable [DecidableEq μ]

/-- The mutexes that the thread holds after the events. -/
def heldAfter (held : List μ) : List (LockEvent μ) → List μ
  | [] => held
  | .lock mutex :: rest => heldAfter (mutex :: held) rest
  | .unlock mutex :: rest => heldAfter (held.erase mutex) rest

/-- The mutexes that the thread asks for, each with those it holds at that
moment. -/
def requests (held : List μ) : List (LockEvent μ) → List (μ × List μ)
  | [] => []
  | .lock mutex :: rest => (mutex, held) :: requests (mutex :: held) rest
  | .unlock mutex :: rest => requests (held.erase mutex) rest

/-- The events of a piece of code under a `std::lock_guard`. -/
def scope (mutex : μ) (body : List (LockEvent μ)) : List (LockEvent μ) :=
  .lock mutex :: (body ++ [.unlock mutex])

/-- The thread never asks for a mutex that it holds, and holds `after` in the
end. -/
structure Disciplined (held : List μ) (events : List (LockEvent μ)) (after : List μ) : Prop where
  free : ∀ request ∈ requests held events, request.1 ∉ request.2
  ends : heldAfter held events = after

instance (held : List μ) (events : List (LockEvent μ)) (after : List μ) :
    Decidable (Disciplined held events after) :=
  decidable_of_iff ((∀ request ∈ requests held events, request.1 ∉ request.2) ∧
    heldAfter held events = after) ⟨fun h => ⟨h.1, h.2⟩, fun h => ⟨h.free, h.ends⟩⟩

theorem heldAfter_append (held : List μ) (first second : List (LockEvent μ)) :
    heldAfter held (first ++ second) = heldAfter (heldAfter held first) second := by
  fun_induction heldAfter held first with
  | case1 held => rfl
  | case2 held mutex rest ih => exact ih
  | case3 held mutex rest ih => exact ih

theorem requests_append (held : List μ) (first second : List (LockEvent μ)) :
    requests held (first ++ second) =
      requests held first ++ requests (heldAfter held first) second := by
  fun_induction heldAfter held first with
  | case1 held => rfl
  | case2 held mutex rest ih =>
      rw [List.cons_append, requests, requests, ih, List.cons_append]
  | case3 held mutex rest ih =>
      rw [List.cons_append, requests, requests, ih]

namespace Disciplined

variable {held between after : List μ} {first second : List (LockEvent μ)}

theorem nil (held : List μ) : Disciplined held [] held := by
  constructor
  · simp [requests]
  · rfl

/-- One piece of code after the other. -/
theorem append (hfirst : Disciplined held first between)
    (hsecond : Disciplined between second after) : Disciplined held (first ++ second) after := by
  constructor
  · intro request hrequest
    rw [requests_append, hfirst.ends, List.mem_append] at hrequest
    obtain hmem | hmem := hrequest
    · exact hfirst.free request hmem
    · exact hsecond.free request hmem
  · rw [heldAfter_append, hfirst.ends, hsecond.ends]

/-- A mutex is taken that the thread does not hold. -/
theorem lock {mutex : μ} (hfree : mutex ∉ held) :
    Disciplined held [.lock mutex] (mutex :: held) := by
  constructor
  · simpa [requests] using hfree
  · rfl

theorem unlock (held : List μ) (mutex : μ) :
    Disciplined held [.unlock mutex] (held.erase mutex) := by
  constructor
  · simp [requests]
  · rfl

/-- A piece of code under a guard, taken by a thread that does not hold the
mutex. -/
theorem scope {mutex : μ} (hfree : mutex ∉ held)
    (hbody : Disciplined (mutex :: held) first (mutex :: held)) :
    Disciplined held (scope mutex first) held := by
  have hend : Disciplined (mutex :: held) [.unlock mutex] held := by
    have h := unlock (mutex :: held) mutex
    rwa [List.erase_cons_head] at h
  exact (lock hfree).append (hbody.append hend)

end Disciplined

end Library
end HareCpp
