import HareCpp.Library.TransitionSystem

/-!
# Calls that return, and lifecycles

A call is made by one thread, which may have to wait for another one.
`Finishes` says that the call comes to an end whatever the environment answers,
if its thread goes on whenever it may and the other thread goes on otherwise: no
state on the way is stuck, and there is no infinite way.

`finishes_of_measure` is the rule: a measure that goes down with every step of
the call, and with every step of the other thread that the call waits for.

`LifeState` are the states of an object that is initialised once and then
started and stopped any number of times.
-/

namespace HareCpp
namespace Library

namespace TransitionSystem

variable {σ α : Type*}

/-- Every run from `s` on comes to a state that is `done`, if the caller takes a
step whenever it has one and the helper takes one otherwise; `caller` and `helper`
say which steps of theirs a state allows. -/
inductive Finishes (M : TransitionSystem σ α) (done : σ → Prop) (caller helper : σ → α → Prop) :
    σ → Prop
  | done {s : σ} (hdone : done s) : Finishes M done caller helper s
  | call {s : σ} (hgoes : ∃ a s', caller s a ∧ M.step s a = some s')
      (hnext : ∀ a s', caller s a → M.step s a = some s' → Finishes M done caller helper s') :
      Finishes M done caller helper s
  | wait {s : σ} (hwaits : ∀ a, caller s a → M.step s a = none)
      (hgoes : ∃ a s', helper s a ∧ M.step s a = some s')
      (hnext : ∀ a s', helper s a → M.step s a = some s' → Finishes M done caller helper s') :
      Finishes M done caller helper s

/-- What one step of a call has to show: it is done, it goes on and comes closer to
its end, or it waits for the helper, who brings it closer to its end. -/
inductive Proceeds (M : TransitionSystem σ α) (done : σ → Prop) (caller helper : σ → α → Prop)
    {β : Type*} [LT β] (Inv : σ → Prop) (measure : σ → β) (s : σ) : Prop
  | done (hdone : done s)
  | call (hgoes : ∃ a s', caller s a ∧ M.step s a = some s')
      (hnext : ∀ a s', caller s a → M.step s a = some s' → Inv s' ∧ measure s' < measure s)
  | wait (hwaits : ∀ a, caller s a → M.step s a = none)
      (hgoes : ∃ a s', helper s a ∧ M.step s a = some s')
      (hnext : ∀ a s', helper s a → M.step s a = some s' → Inv s' ∧ measure s' < measure s)

/-- A call that always proceeds finishes. -/
theorem finishes_of_measure {M : TransitionSystem σ α} {done : σ → Prop}
    {caller helper : σ → α → Prop} {β : Type*} [LT β] [WellFoundedLT β] (Inv : σ → Prop)
    (measure : σ → β) (hstep : ∀ s, Inv s → M.Proceeds done caller helper Inv measure s)
    {s : σ} (hs : Inv s) : M.Finishes done caller helper s := by
  suffices h : ∀ m s, measure s = m → Inv s → M.Finishes done caller helper s from h _ s rfl hs
  intro m
  induction m using WellFoundedLT.induction with
  | ind m ih =>
      rintro s rfl hinv
      rcases hstep s hinv with hdone | ⟨hgoes, hnext⟩ | ⟨hwaits, hgoes, hnext⟩
      · exact .done hdone
      · refine .call hgoes fun a s' ha hs' => ?_
        obtain ⟨hinv', hless⟩ := hnext a s' ha hs'
        exact ih _ hless s' rfl hinv'
      · refine .wait hwaits hgoes fun a s' ha hs' => ?_
        obtain ⟨hinv', hless⟩ := hnext a s' ha hs'
        exact ih _ hless s' rfl hinv'

end TransitionSystem

/-- The states of an object with a worker, between two calls. -/
inductive LifeState
  | uninitialized
  | idle
  | running
  deriving DecidableEq, Repr

namespace LifeState

/-- The object has been initialised. -/
def isInitialized : LifeState → Bool
  | uninitialized => false
  | idle | running => true

/-- The object is running. -/
def isRunning : LifeState → Bool
  | uninitialized | idle => false
  | running => true

/-- The flags of an object, between two calls, are those of its state. -/
structure Agrees (state : LifeState) (initialized running : Bool) : Prop where
  initialized : initialized = state.isInitialized
  running : running = state.isRunning

namespace Agrees

variable {state : LifeState} {initialized running : Bool}

/-- An object that is not initialised is in the first state. -/
theorem eq_uninitialized (h : state.Agrees initialized running) (hinit : initialized = false) :
    state = .uninitialized := by
  have hstate := h.initialized
  cases state <;> first | rfl | cases hinit.symm.trans hstate

/-- An object that is running is in the last state. -/
theorem eq_running (h : state.Agrees initialized running) (hrunning : running = true) :
    state = .running := by
  have hstate := h.running
  cases state <;> first | rfl | cases hrunning.symm.trans hstate

/-- An initialised object that is not running is idle. -/
theorem eq_idle (h : state.Agrees initialized running) (hinit : initialized = true)
    (hrunning : running = false) : state = .idle := by
  cases state with
  | idle => rfl
  | uninitialized => cases hinit.symm.trans h.initialized
  | running => cases hrunning.symm.trans h.running

end Agrees

end LifeState

end Library
end HareCpp
