import Mathlib.Tactic

/-!
# Outboxes: a first-in first-out queue emptied by delivery or by dropping

An `Outbox` is the history of a queue from which items leave at the front only,
in one of two ways: the front is *delivered* and then removed, in two separate
steps, or it is *dropped*.  Items are pushed at the back at any time, also
between the two steps of a delivery; `inHand` says that the front has been
delivered and is still waiting for its removal.

* `Outbox.Ordered` — the invariant of every history: the items pushed are those
  that left, in their order, followed by those that wait.
* `Outbox.Step.ordered` — every step keeps it.
* `Outbox.Step.of_waiting` — what a step adds to the items that wait.
* `Ordered.delivered_sublist`, `Ordered.exactly_one`, `Ordered.all_delivered` —
  what it says about order, about the fate of each item, and about an outbox
  that never dropped anything.
-/

namespace HareCpp
namespace Library

/-- The history of an outbox, oldest entries first, with the queue as it is
now. -/
structure Outbox (α : Type*) where
  pushed : List α
  queue : List α
  delivered : List α
  dropped : List α
  inHand : Bool

namespace Outbox

variable {α : Type*}

/-- The outbox before anything was pushed. -/
def empty : Outbox α := ⟨[], [], [], [], false⟩

/-- The items that neither were delivered nor dropped. -/
def waiting (o : Outbox α) : List α := if o.inHand then o.queue.tail else o.queue

/-- What can happen to an outbox. -/
inductive Step : Outbox α → Outbox α → Prop
  | stutter (o : Outbox α) : Step o o
  | push (pushed queue delivered dropped : List α) (inHand : Bool) (a : α) :
      Step ⟨pushed, queue, delivered, dropped, inHand⟩
        ⟨pushed ++ [a], queue ++ [a], delivered, dropped, inHand⟩
  | deliver (pushed rest delivered dropped : List α) (a : α) :
      Step ⟨pushed, a :: rest, delivered, dropped, false⟩
        ⟨pushed, a :: rest, delivered ++ [a], dropped, true⟩
  | remove (pushed rest delivered dropped : List α) (a : α) :
      Step ⟨pushed, a :: rest, delivered, dropped, true⟩
        ⟨pushed, rest, delivered, dropped, false⟩
  | drop (pushed rest delivered dropped : List α) (a : α) :
      Step ⟨pushed, a :: rest, delivered, dropped, false⟩
        ⟨pushed, rest, delivered, dropped ++ [a], false⟩

/-- The pushed items are the items gone, in the order they were pushed,
followed by the items waiting; those gone were delivered, in order, or
dropped; and the item in hand, the last one delivered, stands at the front of
the queue. -/
structure Ordered (o : Outbox α) : Prop where
  split : ∃ gone, o.pushed = gone ++ o.waiting ∧ o.delivered.Sublist gone ∧
    (o.delivered ++ o.dropped).Perm gone
  hand : o.inHand = true → ∃ a rest earlier, o.queue = a :: rest ∧ o.delivered = earlier ++ [a]

theorem ordered_empty : (empty : Outbox α).Ordered :=
  ⟨⟨[], rfl, List.Sublist.slnil, List.Perm.refl _⟩, by intro h; cases h⟩

/-- Every step keeps the history ordered. -/
theorem Step.ordered {o o' : Outbox α} (hstep : Step o o') (ho : o.Ordered) : o'.Ordered := by
  obtain ⟨⟨gone, hsplit, hsub, hperm⟩, hhand⟩ := ho
  cases hstep with
  | stutter => exact ⟨⟨gone, hsplit, hsub, hperm⟩, hhand⟩
  | push pushed queue delivered dropped inHand a =>
      cases inHand with
      | false =>
          have hsplit : pushed = gone ++ queue := hsplit
          refine ⟨⟨gone, ?_, hsub, hperm⟩, by intro h; cases h⟩
          show pushed ++ [a] = gone ++ (queue ++ [a])
          rw [hsplit, List.append_assoc]
      | true =>
          obtain ⟨b, rest, earlier, hqueue, hdelivered⟩ := hhand rfl
          obtain rfl : queue = b :: rest := hqueue
          have hsplit : pushed = gone ++ rest := hsplit
          refine ⟨⟨gone, ?_, hsub, hperm⟩, fun _ => ⟨b, rest ++ [a], earlier, rfl, hdelivered⟩⟩
          show pushed ++ [a] = gone ++ (rest ++ [a])
          rw [hsplit, List.append_assoc]
  | deliver pushed rest delivered dropped a =>
      have hsplit : pushed = gone ++ a :: rest := hsplit
      refine ⟨⟨gone ++ [a], ?_, hsub.append (List.Sublist.refl [a]), ?_⟩,
        fun _ => ⟨a, rest, delivered, rfl, rfl⟩⟩
      · show pushed = (gone ++ [a]) ++ rest
        rw [hsplit, List.append_assoc]
        rfl
      · show (delivered ++ [a] ++ dropped).Perm (gone ++ [a])
        have hswap : (delivered ++ [a] ++ dropped).Perm (delivered ++ dropped ++ [a]) := by
          rw [List.append_assoc, List.append_assoc]
          exact List.Perm.append_left _ List.perm_append_comm
        exact hswap.trans (hperm.append_right [a])
  | remove pushed rest delivered dropped a =>
      exact ⟨⟨gone, hsplit, hsub, hperm⟩, by intro h; cases h⟩
  | drop pushed rest delivered dropped a =>
      have hsplit : pushed = gone ++ a :: rest := hsplit
      refine ⟨⟨gone ++ [a], ?_, hsub.trans (List.sublist_append_left gone [a]), ?_⟩,
        by intro h; cases h⟩
      · show pushed = (gone ++ [a]) ++ rest
        rw [hsplit, List.append_assoc]
        rfl
      · show (delivered ++ (dropped ++ [a])).Perm (gone ++ [a])
        rw [← List.append_assoc]
        exact hperm.append_right [a]

/-- What waits after a step waited before, or was pushed in it. -/
theorem Step.of_waiting {o o' : Outbox α} (hstep : Step o o') {a : α} (ha : a ∈ o'.waiting) :
    a ∈ o.waiting ∨ o'.pushed = o.pushed ++ [a] := by
  cases hstep with
  | stutter => exact .inl ha
  | push pushed queue delivered dropped inHand b =>
      have hmem : a ∈ (if inHand then (queue ++ [b]).tail else queue ++ [b]) := ha
      cases inHand with
      | false =>
          rcases List.mem_append.mp hmem with hold | hnew
          · exact .inl hold
          · rw [List.mem_singleton.mp hnew]
            exact .inr rfl
      | true =>
          cases queue with
          | nil => cases hmem
          | cons front rest =>
              rcases List.mem_append.mp hmem with hold | hnew
              · exact .inl hold
              · rw [List.mem_singleton.mp hnew]
                exact .inr rfl
  | deliver pushed rest delivered dropped b => exact .inl (.tail _ ha)
  | remove => exact .inl ha
  | drop pushed rest delivered dropped b => exact .inl (.tail _ ha)

/-- Deliveries follow the order of the pushes. -/
theorem Ordered.delivered_sublist {o : Outbox α} (ho : o.Ordered) :
    o.delivered.Sublist o.pushed := by
  obtain ⟨gone, hsplit, hsub, -⟩ := ho.split
  rw [hsplit]
  exact hsub.trans (List.sublist_append_left _ _)

/-- Delivered, dropped and waiting items make up the pushed ones. -/
theorem Ordered.perm {o : Outbox α} (ho : o.Ordered) :
    (o.delivered ++ o.dropped ++ o.waiting).Perm o.pushed := by
  obtain ⟨gone, hsplit, -, hperm⟩ := ho.split
  rw [hsplit]
  exact hperm.append_right _

/-- When no item is pushed twice, each one has exactly one fate. -/
theorem Ordered.exactly_one {o : Outbox α} (ho : o.Ordered) (hnodup : o.pushed.Nodup)
    {a : α} (ha : a ∈ o.pushed) :
    (a ∈ o.delivered ∧ a ∉ o.dropped ∧ a ∉ o.waiting) ∨
      (a ∉ o.delivered ∧ a ∈ o.dropped ∧ a ∉ o.waiting) ∨
      (a ∉ o.delivered ∧ a ∉ o.dropped ∧ a ∈ o.waiting) := by
  have hall : (o.delivered ++ o.dropped ++ o.waiting).Nodup := ho.perm.nodup_iff.mpr hnodup
  have hmem : a ∈ o.delivered ++ o.dropped ++ o.waiting := ho.perm.mem_iff.mpr ha
  rw [List.nodup_append, List.nodup_append] at hall
  obtain ⟨⟨-, -, hdd⟩, -, hw⟩ := hall
  simp only [List.mem_append] at hmem hw
  rcases hmem with (hd | hp) | hq
  · exact .inl ⟨hd, fun h => hdd a hd a h rfl, fun h => hw a (.inl hd) a h rfl⟩
  · exact .inr (.inl ⟨fun h => hdd a h a hp rfl, hp, fun h => hw a (.inr hp) a h rfl⟩)
  · exact .inr (.inr ⟨fun h => hw a (.inl h) a hq rfl, fun h => hw a (.inr h) a hq rfl, hq⟩)

/-- When no item is pushed twice, none is in the queue twice. -/
theorem Ordered.queue_nodup {o : Outbox α} (ho : o.Ordered) (hnodup : o.pushed.Nodup) :
    o.queue.Nodup := by
  have hall : (o.delivered ++ o.dropped ++ o.waiting).Nodup := ho.perm.nodup_iff.mpr hnodup
  have hwaiting : o.waiting.Nodup := hall.of_append_right
  unfold waiting at hall hwaiting
  split at hwaiting
  · next hhand =>
      obtain ⟨a, rest, earlier, hqueue, hdelivered⟩ := ho.hand hhand
      rw [if_pos hhand, hqueue, hdelivered] at hall
      rw [hqueue] at hwaiting ⊢
      refine List.nodup_cons.mpr ⟨fun hmem => ?_, hwaiting⟩
      exact List.disjoint_of_nodup_append hall (by simp) hmem
  · exact hwaiting

/-- An outbox that dropped nothing and is empty delivered everything. -/
theorem Ordered.all_delivered {o : Outbox α} (ho : o.Ordered) (hdropped : o.dropped = [])
    (hempty : o.queue = []) {a : α} (ha : a ∈ o.pushed) : a ∈ o.delivered := by
  have hmem : a ∈ o.delivered ++ o.dropped ++ o.waiting := ho.perm.mem_iff.mpr ha
  have hwaiting : o.waiting = [] := by
    unfold waiting
    rw [hempty]
    split <;> rfl
  simpa [hdropped, hwaiting] using hmem

end Outbox
end Library
end HareCpp
