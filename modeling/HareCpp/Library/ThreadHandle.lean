import HareCpp.Library.TransitionSystem

/-!
# The life of a thread handle

An object that owns a thread handle starts a thread into it, waits for that
thread to end and starts the next one.  The handle is *joinable* from the
moment a thread is assigned to it until the thread is joined; assigning to a
joinable handle or destroying it ends the program, and so does joining a handle
that is not joinable.

A history of the handle, newest first, is `WellUsed` if none of this happens in
it.  Then at most one thread is alive at any time (`alive_le_one`).
`HandleState` is the automaton that an object keeps in step with the history.
-/

namespace HareCpp
namespace Library

/-- What happens to a thread handle; `finished` is the end of the thread's
function. -/
inductive ThreadEvent
  | assigned
  | finished
  | joined
  | destroyed
  deriving DecidableEq, Repr

namespace ThreadEvent

/-- What an event does to the handle. -/
def joinableEffect : ThreadEvent → Option Bool
  | assigned => some true
  | joined => some false
  | finished | destroyed => none

end ThreadEvent

open ThreadEvent

/-- The handle has been assigned a thread that was not joined. -/
def joinable (history : List ThreadEvent) : Bool := latest joinableEffect history

/-- The number of threads that have been started and have not finished. -/
def alive (history : List ThreadEvent) : Int := history.count assigned - history.count finished

/-- What may happen to a handle: it is assigned to or destroyed only while it is
not joinable, and a join waits for the thread. -/
def WellUsed (past : List ThreadEvent) : ThreadEvent → Prop
  | assigned | destroyed => joinable past = false
  | joined => joinable past = true ∧ alive past = 0
  | finished => True

instance (past : List ThreadEvent) : (event : ThreadEvent) → Decidable (WellUsed past event)
  | assigned | destroyed => inferInstanceAs (Decidable (_ = _))
  | joined => inferInstanceAs (Decidable (_ ∧ _))
  | finished => inferInstanceAs (Decidable True)

section Counting

variable (past : List ThreadEvent)

@[simp] theorem joinable_assigned : joinable (assigned :: past) = true := latest_cons _ _ _

@[simp] theorem joinable_finished : joinable (finished :: past) = joinable past :=
  latest_cons _ _ _

@[simp] theorem joinable_joined : joinable (joined :: past) = false := latest_cons _ _ _

@[simp] theorem joinable_destroyed : joinable (destroyed :: past) = joinable past :=
  latest_cons _ _ _

@[simp] theorem alive_assigned : alive (assigned :: past) = alive past + 1 := by
  simp [alive]
  omega

@[simp] theorem alive_finished : alive (finished :: past) = alive past - 1 := by
  simp [alive]
  omega

@[simp] theorem alive_joined : alive (joined :: past) = alive past := by simp [alive]

@[simp] theorem alive_destroyed : alive (destroyed :: past) = alive past := by simp [alive]

end Counting

/-- At most one thread of a well-used handle is alive. -/
theorem alive_le_one {history : List ThreadEvent} (h : Guarded WellUsed history) :
    alive history ≤ 1 := by
  suffices hboth : alive history ≤ 1 ∧ (joinable history = false → alive history ≤ 0) from hboth.1
  induction history with
  | nil => exact ⟨by simp [alive], fun _ => by simp [alive]⟩
  | cons event past ih =>
      obtain ⟨hevent, hpast⟩ := h
      obtain ⟨hone, hnone⟩ := ih hpast
      cases event with
      | assigned =>
          have hzero := hnone hevent
          simp
          omega
      | finished =>
          simp
          omega
      | joined =>
          have hzero : alive past = 0 := hevent.2
          simp [hzero]
      | destroyed =>
          have hzero := hnone hevent
          simp
          omega

/-- No thread of a well-used handle is joined twice: there are no more joins than
threads at any time. -/
theorem joined_le_assigned {history : List ThreadEvent} (h : Guarded WellUsed history) :
    history.count joined ≤ history.count assigned := by
  suffices hboth : history.count joined ≤ history.count assigned ∧
      (joinable history = true → history.count joined < history.count assigned) from hboth.1
  induction history with
  | nil => exact ⟨le_refl _, fun hjoinable => by cases hjoinable⟩
  | cons event past ih =>
      obtain ⟨hevent, hpast⟩ := h
      obtain ⟨hle, hlt⟩ := ih hpast
      cases event with
      | assigned =>
          simp
          omega
      | joined =>
          have hless := hlt hevent.1
          simp
          omega
      | finished | destroyed => simpa using ⟨hle, hlt⟩

/-- What a handle refers to. -/
inductive HandleState
  | empty
  | running
  | ended
  deriving DecidableEq, Repr

namespace HandleState

/-- What may happen next. -/
def Allows : HandleState → ThreadEvent → Prop
  | empty, assigned | empty, destroyed | running, finished | ended, joined => True
  | _, _ => False

/-- The handle after an event. -/
def after (state : HandleState) : ThreadEvent → HandleState
  | assigned => running
  | finished => ended
  | joined => empty
  | destroyed => state

/-- The handle is in step with its history. -/
def Describes : HandleState → List ThreadEvent → Prop
  | empty, history => joinable history = false ∧ alive history = 0
  | running, history => joinable history = true ∧ alive history = 1
  | ended, history => joinable history = true ∧ alive history = 0

/-- An event that the state of the handle allows is one that its history allows. -/
theorem Describes.step {state : HandleState} {history : List ThreadEvent} {event : ThreadEvent}
    (h : state.Describes history) (hevent : state.Allows event) :
    WellUsed history event ∧ (state.after event).Describes (event :: history) := by
  cases state with
  | empty =>
      obtain ⟨hjoinable, halive⟩ := h
      cases event with
      | assigned => exact ⟨hjoinable, by simp [after, Describes, halive]⟩
      | destroyed => exact ⟨hjoinable, by simp [after, Describes, hjoinable, halive]⟩
      | finished | joined => cases hevent
  | running =>
      obtain ⟨hjoinable, halive⟩ := h
      cases event with
      | finished => exact ⟨trivial, by simp [after, Describes, hjoinable, halive]⟩
      | assigned | joined | destroyed => cases hevent
  | ended =>
      obtain ⟨hjoinable, halive⟩ := h
      cases event with
      | joined => exact ⟨⟨hjoinable, halive⟩, by simp [after, Describes, halive]⟩
      | assigned | finished | destroyed => cases hevent

/-- What the handle refers to while its thread is at `pc`: there is no thread, its
function has returned, or it runs. -/
def atPoint {π : Type*} [DecidableEq π] (none returned pc : π) : HandleState :=
  if pc = none then empty else if pc = returned then ended else running

section AtPoint

variable {π : Type*} [DecidableEq π] {none returned loopTest pc pc' : π}

theorem atPoint_eq_running (hnone : pc ≠ none) (hreturned : pc ≠ returned) :
    atPoint none returned pc = running := by
  rw [atPoint, if_neg hnone, if_neg hreturned]

theorem atPoint_eq_ended (hnone : pc ≠ none) (hreturned : pc = returned) :
    atPoint none returned pc = ended := by
  rw [atPoint, if_neg hnone, if_pos hreturned]

/-- A function that returns at the test of its loop only, when it finds itself
stopped: a step ends the thread there and keeps it running elsewhere. -/
theorem atPoint_step {stopped : Prop} [Decidable stopped] (hnone : pc ≠ none)
    (hreturned : pc ≠ returned) (hnone' : pc' ≠ none)
    (hreturns : pc' = returned → pc = loopTest ∨ pc = returned)
    (htest : pc = loopTest → (pc' = returned ↔ stopped)) :
    let event := if pc = loopTest ∧ stopped then some finished else Option.none
    (∀ e ∈ event, (atPoint none returned pc).Allows e) ∧
      atPoint none returned pc' =
        event.elim (atPoint none returned pc) (atPoint none returned pc).after := by
  rw [atPoint_eq_running hnone hreturned]
  by_cases hends : pc = loopTest ∧ stopped
  · rw [if_pos hends, atPoint_eq_ended hnone' ((htest hends.1).mpr hends.2)]
    simp [Allows, after]
  · have hruns : pc' ≠ returned := by
      intro hafter
      rcases hreturns hafter with hloop | hbefore
      · exact hends ⟨hloop, (htest hloop).mp hafter⟩
      · exact hreturned hbefore
    rw [if_neg hends, atPoint_eq_running hnone' hruns]
    simp

end AtPoint

end HandleState

/-- The history of the handle of an object: nothing happened to the handle that
must not happen, and its state is in step with the history as long as the object
is there. -/
structure HandleHistory (history : List ThreadEvent) (present : Prop) (state : HandleState) :
    Prop where
  guarded : Guarded WellUsed history
  described : present → state.Describes history

/-- A step of the object that does to the handle what its state allows. -/
theorem HandleHistory.step {history : List ThreadEvent} {present present' : Prop}
    {state state' : HandleState} {event : Option ThreadEvent}
    (hfacts : HandleHistory history present state) (hpresent : present)
    (hallows : ∀ e ∈ event, state.Allows e)
    (hafter : present' → state' = event.elim state state.after) :
    HandleHistory (event.toList ++ history) present' state' := by
  have hdescribed := hfacts.described hpresent
  cases event with
  | none =>
      refine ⟨hfacts.guarded, fun h => ?_⟩
      rw [hafter h]
      exact hdescribed
  | some e =>
      obtain ⟨hused, hnext⟩ := hdescribed.step (hallows e rfl)
      refine ⟨⟨hused, hfacts.guarded⟩, fun h => ?_⟩
      rw [hafter h]
      exact hnext

/-- The history of the handle in the runs in which every step does to the handle what
its state allows. -/
theorem TransitionSystem.handleHistory {σ α : Type*} {M : TransitionSystem σ α}
    {allowed : σ → α → Prop} {event : σ → α → Option ThreadEvent} (present : σ → Prop)
    (handle : σ → HandleState) (hinit : handle M.init = .empty)
    (hstep : ∀ s a s', M.ReachableUnder allowed s → M.step s a = some s' → present s ∧
      (∀ e ∈ event s a, (handle s).Allows e) ∧
      (present s' → handle s' = (event s a).elim (handle s) (handle s).after))
    {s : σ × List ThreadEvent}
    (hs : (M.recording fun s a => (event s a).toList).ReachableUnder (fun s => allowed s.1) s) :
    HandleHistory s.2 (present s.1) (handle s.1) := by
  refine hs.record_induction
    (fun s history => HandleHistory history (present s) (handle s)) ?_ ?_
  · refine ⟨trivial, fun _ => ?_⟩
    rw [hinit]
    exact ⟨rfl, rfl⟩
  · intro s a s' history hreach _ hfacts hstep'
    obtain ⟨hpresent, hallows, hafter⟩ := hstep s a s' hreach hstep'
    exact hfacts.step hpresent hallows hafter

end Library
end HareCpp
