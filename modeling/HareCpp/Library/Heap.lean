import HareCpp.Library.TransitionSystem

/-!
# What a program does to the heap

The history of a heap, newest first: blocks are allocated, read and freed.  A block
is the result of one allocation, so that a new one is never live already;
`heapStep` accepts an event if the block is live where it has to be, and a history
that `replay` accepts has no double free and no use after free.

* `heapAfter_allocs`, `heapAfter_frees`, `heapAfter_reads` — several blocks at once.
* `heapAfter_balance` — what was allocated was freed or is live.
* `Dead` — a block that was freed; to free it again is a fault.
-/

namespace HareCpp
namespace Library

variable {β : Type*}

/-- An access to a block. -/
inductive HeapEvent (β : Type*)
  | alloc (block : β)
  | free (block : β)
  | read (block : β)
  deriving DecidableEq, Repr

/-- The event allocates a block. -/
def HeapEvent.isAlloc : HeapEvent β → Bool
  | .alloc _ => true
  | _ => false

/-- The event frees a block. -/
def HeapEvent.isFree : HeapEvent β → Bool
  | .free _ => true
  | _ => false

variable [DecidableEq β]

/-- The blocks that are live after an event; a free or a read of another block is a
fault. -/
def heapStep (live : Finset β) : HeapEvent β → Option (Finset β)
  | .alloc block => if block ∈ live then none else some (insert block live)
  | .free block => if block ∈ live then some (live.erase block) else none
  | .read block => if block ∈ live then some live else none

/-- The blocks that are live after a history without a fault. -/
def heapAfter (history : List (HeapEvent β)) : Option (Finset β) := replay heapStep ∅ history

variable {live : Finset β} {history : List (HeapEvent β)}

theorem heapAfter_cons {event : HeapEvent β} (h : heapAfter history = some live) :
    heapAfter (event :: history) = heapStep live event := by
  rw [heapAfter, replay, ← heapAfter, h, Option.bind_some]

/-- What comes after a fault does not mend it. -/
theorem heapAfter_append_of_fault (h : heapAfter history = none) (events : List (HeapEvent β)) :
    heapAfter (events ++ history) = none := by
  rw [heapAfter, replay_append, ← heapAfter, h, Option.bind_none]

/-- The block is not live, unless there was a fault. -/
def Dead (block : β) (history : List (HeapEvent β)) : Prop :=
  ∀ live, heapAfter history = some live → block ∉ live

/-- A block that was freed is dead. -/
theorem dead_of_free (block : β) (history : List (HeapEvent β)) :
    Dead block (.free block :: history) := by
  intro live hlive
  obtain ⟨before, -, hfree⟩ := replay_cons_eq_some_iff.mp hlive
  rw [heapStep] at hfree
  split at hfree
  · cases hfree
    exact Finset.notMem_erase block before
  · cases hfree

/-- To free it again is a fault. -/
theorem Dead.free {block : β} (h : Dead block history) :
    heapAfter (.free block :: history) = none := by
  cases hbefore : heapAfter history with
  | none => exact heapAfter_append_of_fault hbefore [.free block]
  | some live => rw [heapAfter_cons hbefore, heapStep, if_neg (h live hbefore)]

/-- It stays dead until it is allocated again. -/
theorem Dead.append {block : β} (h : Dead block history) {events : List (HeapEvent β)}
    (hevents : .alloc block ∉ events) : Dead block (events ++ history) := by
  induction events with
  | nil => exact h
  | cons event rest ih =>
      simp only [List.mem_cons, not_or] at hevents
      intro live hlive
      obtain ⟨before, hbefore, hevent⟩ := replay_cons_eq_some_iff.mp hlive
      have hdead := ih hevents.2 before hbefore
      cases event with
      | alloc other =>
          rw [heapStep] at hevent
          split at hevent
          · cases hevent
          · cases hevent
            have hne : block ≠ other := fun heq => hevents.1 (heq ▸ rfl)
            simp [hne, hdead]
      | free other =>
          rw [heapStep] at hevent
          split at hevent
          · cases hevent
            exact fun hmem => hdead (Finset.mem_of_mem_erase hmem)
          · cases hevent
      | read other =>
          rw [heapStep] at hevent
          split at hevent
          · cases hevent
            exact hdead
          · cases hevent

/-- To read it is a fault, whatever else is read with it. -/
theorem Dead.read {block : β} (h : Dead block history) {blocks : List β} (hmem : block ∈ blocks) :
    heapAfter (blocks.map HeapEvent.read ++ history) = none := by
  induction blocks with
  | nil => cases hmem
  | cons other rest ih =>
      have hdead : Dead block (rest.map HeapEvent.read ++ history) := h.append (by simp)
      rw [List.map_cons, List.cons_append]
      cases hbefore : heapAfter (rest.map HeapEvent.read ++ history) with
      | none => exact heapAfter_append_of_fault hbefore [.read other]
      | some live =>
          rcases List.mem_cons.mp hmem with rfl | hrest
          · rw [heapAfter_cons hbefore, heapStep, if_neg (hdead live hbefore)]
          · cases (ih hrest).symm.trans hbefore

/-- New blocks, one after the other. -/
theorem heapAfter_allocs {blocks : List β} (h : heapAfter history = some live)
    (hnodup : blocks.Nodup) (hnew : ∀ block ∈ blocks, block ∉ live) :
    heapAfter (blocks.map HeapEvent.alloc ++ history) = some (blocks.toFinset ∪ live) := by
  induction blocks with
  | nil => simpa using h
  | cons block rest ih =>
      obtain ⟨hnot, hrest⟩ := List.nodup_cons.mp hnodup
      have hlive := ih hrest fun other hother => hnew other (.tail _ hother)
      have hfresh : block ∉ rest.toFinset ∪ live := by
        simp [hnot, hnew block List.mem_cons_self]
      rw [List.map_cons, List.cons_append, heapAfter_cons hlive, heapStep, if_neg hfresh,
        List.toFinset_cons, Finset.insert_union]

/-- Live blocks are freed, one after the other. -/
theorem heapAfter_frees {blocks : List β} (h : heapAfter history = some live)
    (hnodup : blocks.Nodup) (hlive : ∀ block ∈ blocks, block ∈ live) :
    heapAfter (blocks.map HeapEvent.free ++ history) = some (live \ blocks.toFinset) := by
  induction blocks with
  | nil => simpa using h
  | cons block rest ih =>
      obtain ⟨hnot, hrest⟩ := List.nodup_cons.mp hnodup
      have hbefore := ih hrest fun other hother => hlive other (.tail _ hother)
      have hstill : block ∈ live \ rest.toFinset := by
        simp [hnot, hlive block List.mem_cons_self]
      rw [List.map_cons, List.cons_append, heapAfter_cons hbefore, heapStep, if_pos hstill,
        List.toFinset_cons, Finset.sdiff_insert]

/-- Live blocks are read. -/
theorem heapAfter_reads {blocks : List β} (h : heapAfter history = some live)
    (hlive : ∀ block ∈ blocks, block ∈ live) :
    heapAfter (blocks.map HeapEvent.read ++ history) = some live := by
  induction blocks with
  | nil => exact h
  | cons block rest ih =>
      have hbefore := ih fun other hother => hlive other (.tail _ hother)
      rw [List.map_cons, List.cons_append, heapAfter_cons hbefore, heapStep,
        if_pos (hlive block List.mem_cons_self)]

/-- A history without a fault has as many allocations as frees and live blocks. -/
theorem heapAfter_balance (h : heapAfter history = some live) :
    history.countP HeapEvent.isAlloc = history.countP HeapEvent.isFree + live.card := by
  induction history generalizing live with
  | nil =>
      cases h
      rfl
  | cons event past ih =>
      obtain ⟨before, hbefore, hevent⟩ := replay_cons_eq_some_iff.mp h
      have hcount := ih hbefore
      cases event with
      | alloc block =>
          rw [heapStep] at hevent
          split at hevent
          · cases hevent
          · next hnew =>
              cases hevent
              simp [List.countP_cons, HeapEvent.isAlloc, HeapEvent.isFree, hcount, hnew]
              omega
      | free block =>
          rw [heapStep] at hevent
          split at hevent
          · next hlive =>
              cases hevent
              have hcard := Finset.card_erase_add_one hlive
              simp [List.countP_cons, HeapEvent.isAlloc, HeapEvent.isFree, hcount]
              omega
          · cases hevent
      | read block =>
          rw [heapStep] at hevent
          split at hevent
          · cases hevent
            simpa [List.countP_cons, HeapEvent.isAlloc, HeapEvent.isFree] using hcount
          · cases hevent

end Library
end HareCpp
