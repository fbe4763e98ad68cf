import HareCpp.Library.Locking
import HareCpp.Library.Progress

/-!
# Threads that share mutexes

Any number of threads take turns, one lock event at a time.  A thread that asks for a
mutex goes on when no thread holds it, the thread itself included; until then it
waits.

* `finish_of_ranked` — threads that take their mutexes in one order all get to their
  end, whichever goes next.
* `finish_of_one_nests` — so do threads of which at most one asks for a mutex while
  it holds another, in whatever order that one does.
-/

namespace HareCpp
namespace Library

variable {ι μ : Type*}

/-! ### Code that takes its mutexes in an order -/

section Ranked

variable [DecidableEq μ]

/-- The code asks for a mutex only under mutexes of lower rank, and leaves the thread
with `after`.  Where all ranks are the same it asks for one only when it holds
none. -/
structure Ranked (rank : μ → ℕ) (held : List μ) (events : List (LockEvent μ))
    (after : List μ) : Prop where
  below : ∀ request ∈ requests held events, ∀ mutex ∈ request.2, rank mutex < rank request.1
  ends : heldAfter held events = after

namespace Ranked

variable {rank : μ → ℕ} {held between after : List μ} {first second : List (LockEvent μ)}

/-- Such code never asks for what it holds. -/
theorem disciplined (h : Ranked rank held first after) : Disciplined held first after := by
  constructor
  · intro request hrequest hmem
    exact lt_irrefl _ (h.below request hrequest request.1 hmem)
  · exact h.ends

theorem nil (rank : μ → ℕ) (held : List μ) : Ranked rank held [] held := by
  constructor
  · simp [requests]
  · rfl

/-- One piece of code after the other. -/
theorem append (hfirst : Ranked rank held first between)
    (hsecond : Ranked rank between second after) : Ranked rank held (first ++ second) after := by
  constructor
  · intro request hrequest
    rw [requests_append, hfirst.ends, List.mem_append] at hrequest
    obtain hmem | hmem := hrequest
    · exact hfirst.below request hmem
    · exact hsecond.below request hmem
  · rw [heldAfter_append, hfirst.ends, hsecond.ends]

/-- Any number of pieces of code. -/
theorem flatMap {α : Type*} {pieces : List α} {events : α → List (LockEvent μ)}
    (h : ∀ piece ∈ pieces, Ranked rank held (events piece) held) :
    Ranked rank held (pieces.flatMap events) held := by
  induction pieces with
  | nil => exact nil rank held
  | cons piece rest ih =>
      rw [List.flatMap_cons]
      exact (h piece List.mem_cons_self).append (ih fun other hother => h other (.tail _ hother))

/-- A piece of code under a guard. -/
theorem scope {mutex : μ} (hbelow : ∀ other ∈ held, rank other < rank mutex)
    (hbody : Ranked rank (mutex :: held) first (mutex :: held)) :
    Ranked rank held (scope mutex first) held := by
  constructor
  · intro request hrequest
    rw [Library.scope, requests, requests_append, hbody.ends] at hrequest
    simp only [requests, List.append_nil, List.mem_cons] at hrequest
    obtain rfl | hmem := hrequest
    · exact hbelow
    · exact hbody.below request hmem
  · rw [Library.scope, heldAfter, heldAfter_append, hbody.ends]
    exact List.erase_cons_head mutex held

end Ranked

end Ranked

/-- What a thread holds, and the lock events that it has still to go through. -/
structure MutexThread (μ : Type*) where
  held : List μ
  todo : List (LockEvent μ)

/-- Every thread is at its end and holds nothing. -/
def Finished (threads : ι → MutexThread μ) : Prop :=
  ∀ i, (threads i).todo = [] ∧ (threads i).held = []

variable [DecidableEq ι] [Fintype ι] [DecidableEq μ]

/-- The next lock event of thread `i`. -/
def takeTurn (threads : ι → MutexThread μ) (i : ι) : Option (ι → MutexThread μ) :=
  match (threads i).todo with
  | [] => none
  | .lock mutex :: rest =>
      if ∀ j, mutex ∉ (threads j).held then
        some (Function.update threads i ⟨mutex :: (threads i).held, rest⟩)
      else none
  | .unlock mutex :: rest =>
      some (Function.update threads i ⟨(threads i).held.erase mutex, rest⟩)

/-- The threads as a transition system; an action is the thread that goes next. -/
def interleaving (code : ι → List (LockEvent μ)) : TransitionSystem (ι → MutexThread μ) ι where
  init i := ⟨[], code i⟩
  step := takeTurn

variable {code : ι → List (LockEvent μ)} {threads threads' : ι → MutexThread μ}

/-- What a turn does. -/
theorem takeTurn_cases {i : ι} (h : takeTurn threads i = some threads') :
    (∃ mutex rest, (threads i).todo = .lock mutex :: rest ∧
      (∀ j, mutex ∉ (threads j).held) ∧
      threads' = Function.update threads i ⟨mutex :: (threads i).held, rest⟩) ∨
    ∃ mutex rest, (threads i).todo = .unlock mutex :: rest ∧
      threads' = Function.update threads i ⟨(threads i).held.erase mutex, rest⟩ := by
  unfold takeTurn at h
  split at h
  · cases h
  · next mutex rest htodo =>
      split at h
      · next hfree =>
          cases h
          exact .inl ⟨mutex, rest, htodo, hfree, rfl⟩
      · cases h
  · next mutex rest htodo =>
      cases h
      exact .inr ⟨mutex, rest, htodo, rfl⟩

/-! ### What the threads hold -/

/-- The thread is on its way through `code`. -/
def Follows (code : List (LockEvent μ)) (thread : MutexThread μ) : Prop :=
  ∃ before, code = before ++ thread.todo ∧ heldAfter [] before = thread.held

/-- The threads are on their way, and no mutex is held twice. -/
structure LocksFacts (code : ι → List (LockEvent μ)) (threads : ι → MutexThread μ) : Prop where
  follows : ∀ i, Follows (code i) (threads i)
  apart : ∀ i j, i ≠ j → ∀ mutex ∈ (threads i).held, mutex ∉ (threads j).held

/-- An event that a thread has gone through is behind it. -/
theorem Follows.event {code : List (LockEvent μ)} {thread : MutexThread μ} {event : LockEvent μ}
    {rest : List (LockEvent μ)} (h : Follows code thread) (htodo : thread.todo = event :: rest) :
    Follows code ⟨heldAfter thread.held [event], rest⟩ := by
  obtain ⟨before, hcode, hheld⟩ := h
  refine ⟨before ++ [event], ?_, ?_⟩
  · rw [hcode, htodo, List.append_assoc]
    rfl
  · rw [heldAfter_append, hheld]

/-- A turn keeps the facts. -/
theorem LocksFacts.turn {i : ι} (hfacts : LocksFacts code threads)
    (h : takeTurn threads i = some threads') : LocksFacts code threads' := by
  have hupdate : ∀ thread, Follows (code i) thread →
      (∀ j, j ≠ i → ∀ mutex ∈ thread.held, mutex ∉ (threads j).held) →
      LocksFacts code (Function.update threads i thread) := by
    intro thread hfollows hapart
    refine ⟨?_, ?_⟩
    · intro j
      by_cases hj : j = i
      · subst hj
        rwa [Function.update_self]
      · rw [Function.update_of_ne hj]
        exact hfacts.follows j
    · intro j k hne mutex
      by_cases hj : j = i
      · subst hj
        rw [Function.update_self, Function.update_of_ne hne.symm]
        exact fun hmem => hapart k hne.symm mutex hmem
      · rw [Function.update_of_ne hj]
        by_cases hk : k = i
        · subst hk
          rw [Function.update_self]
          exact fun hmem hthread => hapart j hj mutex hthread hmem
        · rw [Function.update_of_ne hk]
          exact hfacts.apart j k hne mutex
  rcases takeTurn_cases h with ⟨mutex, rest, htodo, hfree, rfl⟩ | ⟨mutex, rest, htodo, rfl⟩
  · refine hupdate _ ((hfacts.follows i).event htodo) ?_
    intro j hj asked hasked
    rcases List.mem_cons.mp hasked with rfl | hheld
    · exact hfree j
    · exact hfacts.apart i j hj.symm asked hheld
  · refine hupdate _ ((hfacts.follows i).event htodo) ?_
    intro j hj asked hasked
    exact hfacts.apart i j hj.symm asked (List.mem_of_mem_erase hasked)

theorem locksFacts_reachable {allowed : (ι → MutexThread μ) → ι → Prop}
    (h : (interleaving code).ReachableUnder allowed threads) : LocksFacts code threads := by
  refine h.induction (LocksFacts code) ?_ ?_
  · exact ⟨fun i => ⟨[], rfl, rfl⟩, fun i j _ mutex hmem => absurd hmem (List.not_mem_nil)⟩
  · intro threads i threads' _ _ hfacts hstep
    exact hfacts.turn hstep

/-- What a thread asks for next is a request of its code. -/
theorem Follows.request {code : List (LockEvent μ)} {thread : MutexThread μ} {mutex : μ}
    {rest : List (LockEvent μ)} (h : Follows code thread)
    (htodo : thread.todo = .lock mutex :: rest) : (mutex, thread.held) ∈ requests [] code := by
  obtain ⟨before, hcode, hheld⟩ := h
  rw [hcode, requests_append, hheld, htodo]
  exact List.mem_append_right _ List.mem_cons_self

/-- A thread whose code gives everything back holds nothing at its end. -/
theorem Follows.ends {code : List (LockEvent μ)} {thread : MutexThread μ} (h : Follows code thread)
    (hcode : Disciplined [] code []) (htodo : thread.todo = []) : thread.held = [] := by
  obtain ⟨before, hsplit, hheld⟩ := h
  rw [htodo, List.append_nil] at hsplit
  rw [← hheld, ← hsplit, hcode.ends]

/-! ### Threads that wait for each other -/

section Waiting

variable (hfacts : LocksFacts code threads) (hstuck : ∀ i, takeTurn threads i = none)

section Disciplined

variable (hcode : ∀ i, Disciplined [] (code i) [])

include hfacts hcode hstuck

/-- Where no thread can go on, one that is not at its end waits for another one. -/
theorem waits_of_stuck {i : ι} (htodo : (threads i).todo ≠ []) :
    ∃ mutex rest j, (threads i).todo = .lock mutex :: rest ∧ i ≠ j ∧
      mutex ∈ (threads j).held := by
  cases hevents : (threads i).todo with
  | nil => exact absurd hevents htodo
  | cons event rest =>
      cases event with
      | unlock mutex =>
          have hnone := hstuck i
          simp [takeTurn, hevents] at hnone
      | lock mutex =>
          have hnone := hstuck i
          simp only [takeTurn, hevents, ite_eq_right_iff, reduceCtorEq, imp_false, not_forall,
            not_not] at hnone
          obtain ⟨j, hj⟩ := hnone
          refine ⟨mutex, rest, j, rfl, ?_, hj⟩
          rintro rfl
          exact (hcode i).free _ ((hfacts.follows i).request hevents) hj

/-- A thread that holds a mutex is not at its end, and waits while it holds. -/
theorem holder_waits {i : ι} {mutex : μ} (hheld : mutex ∈ (threads i).held) :
    ∃ asked j, (asked, (threads i).held) ∈ requests [] (code i) ∧ i ≠ j ∧
      asked ∈ (threads j).held := by
  have htodo : (threads i).todo ≠ [] := by
    intro hend
    rw [(hfacts.follows i).ends (hcode i) hend] at hheld
    cases hheld
  obtain ⟨asked, rest, j, hevents, hne, hj⟩ := waits_of_stuck hfacts hstuck hcode htodo
  exact ⟨asked, j, (hfacts.follows i).request hevents, hne, hj⟩

/-- Where no thread can go on and none holds a mutex, all are at their end. -/
theorem finished_of_stuck (hnone : ∀ i, (threads i).held = []) : Finished threads := by
  intro i
  refine ⟨?_, hnone i⟩
  by_contra htodo
  obtain ⟨mutex, rest, j, -, -, hj⟩ := waits_of_stuck hfacts hstuck hcode htodo
  rw [hnone j] at hj
  cases hj

end Disciplined

include hfacts hstuck

/-- Mutexes that are taken in one order are not waited for in a circle: the holder of
the greatest one would wait for a greater one. -/
theorem not_held_of_ranked {rank : μ → ℕ} (hcode : ∀ i, Ranked rank [] (code i) []) (i : ι) :
    (threads i).held = [] := by
  by_contra hne
  let held : Finset μ := Finset.univ.biUnion fun j => (threads j).held.toFinset
  have hmem : ∀ mutex, mutex ∈ held ↔ ∃ j, mutex ∈ (threads j).held := by
    intro mutex
    simp [held]
  obtain ⟨mutex, hmutex⟩ := List.exists_mem_of_ne_nil _ hne
  obtain ⟨top, htop, hmax⟩ := held.exists_max_image rank ⟨mutex, (hmem mutex).mpr ⟨i, hmutex⟩⟩
  obtain ⟨j, hj⟩ := (hmem top).mp htop
  obtain ⟨asked, k, hrequest, -, hk⟩ :=
    holder_waits hfacts hstuck (fun i => (hcode i).disciplined) hj
  have hless : rank top < rank asked := (hcode j).below _ hrequest top hj
  have hle : rank asked ≤ rank top := hmax asked ((hmem asked).mpr ⟨k, hk⟩)
  omega

/-- Neither are mutexes of which only one thread asks for one while it holds another:
that thread would wait for itself. -/
theorem not_held_of_one_nests {lead : ι} (hlead : Disciplined [] (code lead) [])
    (hflat : ∀ i, i ≠ lead → Ranked (fun _ => 0) [] (code i) []) (i : ι) :
    (threads i).held = [] := by
  have hcode : ∀ j, Disciplined [] (code j) [] := by
    intro j
    by_cases hj : j = lead
    · exact hj ▸ hlead
    · exact (hflat j hj).disciplined
  have heq : ∀ {j : ι} {mutex : μ}, mutex ∈ (threads j).held → j = lead := by
    intro j mutex hheld
    by_contra hj
    obtain ⟨asked, k, hrequest, -, -⟩ := holder_waits hfacts hstuck hcode hheld
    exact absurd ((hflat j hj).below _ hrequest mutex hheld) (lt_irrefl _)
  by_contra hne
  obtain ⟨mutex, hmutex⟩ := List.exists_mem_of_ne_nil _ hne
  obtain ⟨asked, k, -, hother, hk⟩ := holder_waits hfacts hstuck hcode hmutex
  exact hother ((heq hmutex).trans (heq hk).symm)

end Waiting

/-! ### Getting to the end -/

/-- How many lock events are left. -/
def eventsLeft (threads : ι → MutexThread μ) : ℕ := ∑ i, (threads i).todo.length

/-- A turn leaves one event less. -/
theorem eventsLeft_turn {i : ι} (h : takeTurn threads i = some threads') :
    eventsLeft threads' < eventsLeft threads := by
  have hupdate : ∀ thread, thread.todo.length < (threads i).todo.length →
      eventsLeft (Function.update threads i thread) < eventsLeft threads := by
    intro thread hless
    refine Finset.sum_lt_sum ?_ ⟨i, Finset.mem_univ i, ?_⟩
    · intro j _
      by_cases hj : j = i
      · subst hj
        rw [Function.update_self]
        exact hless.le
      · rw [Function.update_of_ne hj]
    · rwa [Function.update_self]
  rcases takeTurn_cases h with ⟨mutex, rest, htodo, -, rfl⟩ | ⟨mutex, rest, htodo, rfl⟩
  · exact hupdate _ (by simp [htodo])
  · exact hupdate _ (by simp [htodo])

/-- All threads get to their end, whichever goes next: there is always one that can,
until all are there. -/
def AllFinish (code : ι → List (LockEvent μ)) : Prop :=
  (interleaving code).Finishes Finished (fun _ _ => True) (fun _ _ => False)
    (interleaving code).init

/-- Threads that are nowhere stuck get to their end. -/
theorem allFinish_of_progress
    (hprogress : ∀ threads : ι → MutexThread μ, LocksFacts code threads →
      (∀ i, takeTurn threads i = none) → Finished threads) : AllFinish code := by
  have hinit : (interleaving code).ReachableUnder (fun _ _ => True) (interleaving code).init :=
    .init
  refine TransitionSystem.finishes_of_measure (LocksFacts code) eventsLeft ?_
    (locksFacts_reachable hinit)
  intro threads hfacts
  by_cases hstuck : ∀ i, takeTurn threads i = none
  · exact .done (hprogress threads hfacts hstuck)
  · obtain ⟨i, hi⟩ := not_forall.mp hstuck
    obtain ⟨threads', hstep⟩ := Option.ne_none_iff_exists'.mp hi
    refine .call ⟨i, threads', trivial, hstep⟩ ?_
    intro j threads'' _ hnext
    exact ⟨hfacts.turn hnext, eventsLeft_turn hnext⟩

/-- Threads that take their mutexes in one order all get to their end. -/
theorem finish_of_ranked {rank : μ → ℕ} (hcode : ∀ i, Ranked rank [] (code i) []) :
    AllFinish code := by
  refine allFinish_of_progress fun threads hfacts hstuck => ?_
  exact finished_of_stuck hfacts hstuck (fun i => (hcode i).disciplined)
    (not_held_of_ranked hfacts hstuck hcode)

/-- Threads of which at most one asks for a mutex while it holds another all get to
their end. -/
theorem finish_of_one_nests {lead : ι} (hlead : Disciplined [] (code lead) [])
    (hflat : ∀ i, i ≠ lead → Ranked (fun _ => 0) [] (code i) []) : AllFinish code := by
  refine allFinish_of_progress fun threads hfacts hstuck => ?_
  refine finished_of_stuck hfacts hstuck ?_ (not_held_of_one_nests hfacts hstuck hlead hflat)
  intro i
  by_cases hi : i = lead
  · exact hi ▸ hlead
  · exact (hflat i hi).disciplined

end Library
end HareCpp
