import HareCpp.MessageMemory

/-!
# Messages that share what they point to

What a program does that is not careful with its messages: `operator=`, which copies
pointers, and strings and envelopes that die while a message points into them.

* `CallMove` — what a call does to the messages, read off `call` once.
* `assignment_frees_twice` — after `x = y` the two messages have one body, and once
  both are destroyed it has been freed twice, whatever else happens.
* `dead_text_published`, `dead_headers_published` — a string, or an envelope with its
  headers, that dies while a queued message points into it is read when the message is
  published.
-/

namespace HareCpp
namespace MessageMemory

open Library TransitionSystem

variable {memory memory' : Memory} {events : List (HeapEvent Block)} {op : Op} {x y z : Nat}
  {block : Block}

/-! ### What a call does to the messages -/

/-- The variable that gets a message, or other contents of the body. -/
def Op.writes : Op → Option Nat
  | .blank x | .ofString x | .ofEnvelope x .. | .copy x _ | .assign x _ | .setPayload x => some x
  | _ => none

/-- The message has this body. -/
def HasBody (memory : Memory) (x : Nat) (block : Block) : Prop :=
  ∃ value, memory.messages.lookup x = some value ∧ value.body = some block

/-- What messages may point into and do not own: strings and envelopes. -/
def borrowed (memory : Memory) : List Nat := memory.texts ++ memory.envelopes

/-- A call puts a message into a variable, destroys one, or leaves them alone. -/
inductive CallMove (memory : Memory) (op : Op) : Memory → List (HeapEvent Block) → Prop
  | puts (x : Nat) (value : MessageVar) (lost reads allocs : List Block)
      (hwrites : op.writes = some x ∨
        ∃ old, memory.messages.lookup x = some old ∧ value.body = old.body)
      (hbody : ∀ block, value.body = some block →
        block.1 = memory.made ∨ ∃ w, HasBody memory w block)
      (hnew : ∀ block ∈ allocs, block.1 = memory.made) :
      CallMove memory op (put memory x value lost) (readThenAlloc reads allocs)
  | destroyed (x : Nat) (value : MessageVar) (hop : op = .destroy x)
      (hvalue : memory.messages.lookup x = some value) :
      CallMove memory op { memory with messages := memory.messages.erase x }
        (value.body.toList.map .free)
  | others (memory' : Memory) (events : List (HeapEvent Block))
      (hmessages : memory'.messages = memory.messages) (hmade : memory.made ≤ memory'.made)
      (hborrowed : ∀ number ∈ borrowed memory',
        number ∈ borrowed memory ∨ (number = memory.made ∧ memory.made < memory'.made))
      (hnew : ∀ block, .alloc block ∈ events → block.1 = memory.made) :
      CallMove memory op memory' events

theorem of_mem_readThenAlloc {reads allocs : List Block}
    (h : .alloc block ∈ readThenAlloc reads allocs) : block ∈ allocs := by
  simpa [readThenAlloc] using h

/-- Copies of properties and a body bear the number of the call. -/
theorem number_of_mem {properties : BasicProperty → Option Block} {number : Nat}
    (h : block ∈ (number, .body) :: dupBlocks number properties) : block.1 = number := by
  rcases List.mem_cons.mp h with rfl | hcopy
  · rfl
  · exact (of_mem_dupBlocks hcopy).1

/-- A pointer among the properties. -/
theorem callMove_of_pointTo {text : Nat} {name : BasicProperty}
    (h : pointTo memory x name text = some (memory', events)) :
    CallMove memory op memory' events := by
  unfold pointTo at h
  split at h
  · cases h
  · next old hold =>
      split at h
      · cases h
        refine .puts x _ [] [] [] (.inr ⟨old, hold, rfl⟩) ?_ (by simp)
        exact fun block hbody => .inr ⟨x, old, hold, hbody⟩
      · cases h

/-- A call does nothing else. -/
theorem callMove_of_call (h : call memory op = some (memory', events)) :
    CallMove memory op memory' events := by
  -- a body that the call allocates
  have hfresh : ∀ block, some (memory.made, Part.body) = some block →
      block.1 = memory.made ∨ ∃ w, HasBody memory w block := by
    rintro block ⟨⟩
    exact .inl rfl
  have hsame : ∀ reads : List Block, CallMove memory op memory (readThenAlloc reads []) :=
    fun reads => .others memory _ rfl (le_refl _) (fun number hnumber => .inl hnumber)
      fun block hblock => absurd (of_mem_readThenAlloc hblock) List.not_mem_nil
  cases op with
  | blank x =>
      rw [call] at h
      split at h
      · cases h
      · cases h
        refine .puts x _ [] [] [] (.inl rfl) ?_ (by simp)
        rintro block ⟨⟩
  | ofString x =>
      rw [call] at h
      split at h
      · cases h
      · cases h
        exact .puts x _ [] [] [(memory.made, .body)] (.inl rfl) hfresh (by simp)
  | receive =>
      cases h
      refine .others _ _ rfl (Nat.le_succ _) (fun number hnumber => ?_) fun block hblock => ?_
      · rcases List.mem_cons.mp (List.perm_middle.mem_iff.mp hnumber) with rfl | hold
        · exact .inr ⟨rfl, Nat.lt_succ_self _⟩
        · exact .inl hold
      · rw [List.mem_singleton.mp (of_mem_readThenAlloc hblock)]
  | release envelope =>
      rw [call] at h
      split at h
      · cases h
        refine .others _ _ rfl (le_refl _) (fun number hnumber => .inl ?_) (by simp)
        refine ((List.Sublist.refl _).append ?_).subset hnumber
        exact List.erase_sublist
      · cases h
  | ofEnvelope x envelope marked headers =>
      rw [call] at h
      split at h
      · cases h
      · split at h
        · cases h
          refine .puts x _ _ _ _ (.inl rfl) hfresh fun block hblock => ?_
          exact number_of_mem ((List.perm_append_singleton _ _).mem_iff.mp hblock)
        · cases h
  | copy x y =>
      rw [call] at h
      split at h
      · cases h
        refine .puts x _ _ _ _ (.inl rfl) ?_ fun block hblock => number_of_mem hblock
        intro block hbody
        obtain ⟨body, -, rfl⟩ := Option.map_eq_some_iff.mp hbody
        exact .inl rfl
      · cases h
  | assign x y =>
      rw [call] at h
      split at h
      · next old new hold hnew =>
          split at h
          · cases h
            exact hsame []
          · cases h
            refine .puts x new _ [] [] (.inl rfl) ?_ (by simp)
            exact fun block hbody => .inr ⟨y, new, hnew, hbody⟩
      · cases h
  | setPayload x =>
      rw [call] at h
      split at h
      · cases h
      · cases h
        exact .puts x _ _ [] [(memory.made, .body)] (.inl rfl) hfresh (by simp)
  | setReplyTo x text | setCorrelationId x text => exact callMove_of_pointTo h
  | readBody | readReplyTo | publish =>
      rw [call] at h
      split at h
      · cases h
      · cases h
        exact hsame _
  | destroy x =>
      rw [call] at h
      split at h
      · cases h
      · next value hvalue =>
          cases h
          exact .destroyed x value rfl hvalue
  | newText =>
      cases h
      refine .others _ _ rfl (Nat.le_succ _) (fun number hnumber => ?_) fun block hblock => ?_
      · exact (List.mem_cons.mp hnumber).symm.imp id fun heq => ⟨heq, Nat.lt_succ_self _⟩
      · rw [List.mem_singleton.mp (of_mem_readThenAlloc hblock)]
  | dropText text =>
      rw [call] at h
      split at h
      · cases h
        refine .others _ _ rfl (le_refl _) (fun number hnumber => .inl ?_) (by simp)
        exact (List.erase_sublist.append (List.Sublist.refl _)).subset hnumber
      · cases h
  | send x =>
      rw [call] at h
      split at h
      · cases h
      · cases h
        refine .others _ _ rfl (Nat.le_succ _) (fun number hnumber => .inl hnumber)
          fun block hblock => ?_
        have hmem := of_mem_readThenAlloc hblock
        simp only [List.mem_reverse, queuedBlocks, List.mem_cons, List.not_mem_nil,
          or_false] at hmem
        rcases hmem with rfl | rfl | rfl <;> rfl
  | freeFront =>
      rw [call] at h
      split at h
      · cases h
      · cases h
        exact .others _ _ rfl (le_refl _) (fun number hnumber => .inl hnumber) (by simp)

/-- A message put into a variable, and the others. -/
theorem lookup_put_of_ne (hne : z ≠ x) (value : MessageVar) (lost : List Block) :
    (put memory x value lost).messages.lookup z = memory.messages.lookup z :=
  AList.lookup_insert_ne hne

theorem lookup_put (memory : Memory) (x : Nat) (value : MessageVar) (lost : List Block) :
    (put memory x value lost).messages.lookup x = some value :=
  AList.lookup_insert _

/-- A call that neither writes nor destroys a message keeps its body. -/
theorem CallMove.keeps (h : CallMove memory op memory' events) (hwrites : op.writes ≠ some z)
    (hdestroy : op ≠ .destroy z) :
    (HasBody memory z block → HasBody memory' z block) ∧
      (memory.messages.lookup z = none → memory'.messages.lookup z = none) := by
  have hlookup : memory'.messages.lookup z = memory.messages.lookup z →
      (HasBody memory z block → HasBody memory' z block) ∧
        (memory.messages.lookup z = none → memory'.messages.lookup z = none) := by
    intro heq
    rw [HasBody, HasBody, heq]
    exact ⟨id, id⟩
  cases h with
  | puts x value lost reads allocs hwrote =>
      by_cases hz : z = x
      · subst hz
        obtain ⟨old, hold, hbody⟩ := hwrote.resolve_left hwrites
        constructor
        · rintro ⟨value', hvalue, hblock⟩
          obtain rfl : old = value' := Option.some.inj (hold.symm.trans hvalue)
          exact ⟨value, lookup_put _ _ _ _, hbody.trans hblock⟩
        · intro hnone
          cases hnone.symm.trans hold
      · exact hlookup (lookup_put_of_ne hz _ _)
  | destroyed x value hop hvalue =>
      have hz : z ≠ x := by
        rintro rfl
        exact hdestroy hop
      exact hlookup (AList.lookup_erase_ne hz)
  | others _ _ hmessages => exact hlookup (by rw [hmessages])

/-- What a call allocates bears its number. -/
theorem CallMove.allocs (h : CallMove memory op memory' events) :
    (∀ block, .alloc block ∈ events → block.1 = memory.made) ∧ memory.made ≤ memory'.made := by
  cases h with
  | puts x value lost reads allocs hwrote hbody hnew =>
      exact ⟨fun block hblock => hnew block (of_mem_readThenAlloc hblock), Nat.le_succ _⟩
  | destroyed => exact ⟨by simp, le_refl _⟩
  | others _ _ _ hmade _ hnew => exact ⟨hnew, hmade⟩

/-- A body was there before, or bears the number of the call. -/
theorem CallMove.hasBody (h : CallMove memory op memory' events)
    (hbody : HasBody memory' z block) :
    (∃ w, HasBody memory w block) ∨ (block.1 = memory.made ∧ memory.made < memory'.made) := by
  obtain ⟨value', hvalue', hblock⟩ := hbody
  cases h with
  | puts x value lost reads allocs hwrote hnew =>
      by_cases hz : z = x
      · subst hz
        rw [lookup_put] at hvalue'
        obtain rfl := Option.some.inj hvalue'
        rcases hnew block hblock with hnumber | hold
        · exact .inr ⟨hnumber, Nat.lt_succ_self _⟩
        · exact .inl hold
      · rw [lookup_put_of_ne hz] at hvalue'
        exact .inl ⟨z, value', hvalue', hblock⟩
  | destroyed x value hop hvalue =>
      have hz : z ≠ x := by
        rintro rfl
        rw [AList.lookup_erase] at hvalue'
        cases hvalue'
      rw [AList.lookup_erase_ne hz] at hvalue'
      exact .inl ⟨z, value', hvalue', hblock⟩
  | others _ _ hmessages =>
      rw [hmessages] at hvalue'
      exact .inl ⟨z, value', hvalue', hblock⟩

/-- A string or an envelope was there before, or bears the number of the call. -/
theorem CallMove.borrowed (h : CallMove memory op memory' events) :
    ∀ number ∈ borrowed memory',
      number ∈ borrowed memory ∨ (number = memory.made ∧ memory.made < memory'.made) := by
  cases h with
  | puts | destroyed => exact fun number hnumber => .inl hnumber
  | others _ _ _ _ hborrowed => exact hborrowed

/-- The destructor frees the body. -/
theorem call_destroy (h : call memory (.destroy x) = some (memory', events))
    (hbody : HasBody memory x block) :
    events = [.free block] ∧ memory'.messages.lookup x = none := by
  obtain ⟨value, hvalue, hblock⟩ := hbody
  simp only [call, hvalue, hblock] at h
  cases h
  exact ⟨rfl, AList.lookup_erase _ _⟩

/-! ### Blocks of earlier calls -/

/-- Bodies, strings and envelopes are older than the next call, in every program. -/
theorem older_reachable {t : Memory × List (HeapEvent Block)}
    (ht : system.ReachableUnder (fun _ _ => True) t) :
    (∀ z block, HasBody t.1 z block → block.1 < t.1.made) ∧
      ∀ number ∈ borrowed t.1, number < t.1.made := by
  refine ht.induction (fun t => (∀ z block, HasBody t.1 z block → block.1 < t.1.made) ∧
    ∀ number ∈ borrowed t.1, number < t.1.made) ⟨?_, by simp [system, initial, borrowed]⟩ ?_
  · rintro z block ⟨value, hvalue, -⟩
    cases hvalue
  · rintro t op t' - - ⟨hbodies, hborrowed⟩ hstep
    obtain ⟨⟨memory', events⟩, hcall, rfl⟩ := Option.map_eq_some_iff.mp hstep
    have hmove := callMove_of_call hcall
    have hmade := hmove.allocs.2
    constructor
    · intro z block hbody
      rcases hmove.hasBody hbody with ⟨w, hw⟩ | ⟨hnumber, hless⟩
      · exact (hbodies w block hw).trans_le hmade
      · exact hnumber.trans_lt hless
    · intro number hnumber
      rcases hmove.borrowed number hnumber with hold | ⟨rfl, hless⟩
      · exact (hborrowed number hold).trans_le hmade
      · exact hless

/-- A block of an earlier call stays dead. -/
theorem CallMove.dead (h : CallMove memory op memory' events) {record : List (HeapEvent Block)}
    (hold : block.1 < memory.made) (hdead : Dead block record) : Dead block (events ++ record) := by
  refine hdead.append fun hmem => ?_
  have hnumber := h.allocs.1 block hmem
  omega

/-- It stays dead whatever the program does. -/
theorem dead_later {t t' : Memory × List (HeapEvent Block)}
    (ht : (system.startingAt t).ReachableUnder (fun _ _ => True) t') (hold : block.1 < t.1.made)
    (hdead : Dead block t.2) : Dead block t'.2 := by
  have hfacts : Dead block t'.2 ∧ block.1 < t'.1.made := by
    refine ht.induction (fun t => Dead block t.2 ∧ block.1 < t.1.made) ⟨hdead, hold⟩ ?_
    rintro s op s' - - ⟨hdead, hold⟩ hstep
    obtain ⟨⟨memory', events⟩, hcall, rfl⟩ := Option.map_eq_some_iff.mp hstep
    have hmove := callMove_of_call hcall
    exact ⟨hmove.dead hold hdead, hold.trans_le hmove.allocs.2⟩
  exact hfacts.1

/-! ### Copy assignment -/

/-- The call leaves the bodies of two messages as they are, or destroys them. -/
def Leaves (x y : Nat) (_ : Memory × List (HeapEvent Block)) (op : Op) : Prop :=
  op.writes ≠ some x ∧ op.writes ≠ some y

instance (x y : Nat) (t : Memory × List (HeapEvent Block)) (op : Op) :
    Decidable (Leaves x y t op) :=
  inferInstanceAs (Decidable (_ ∧ _))

/-- Two messages have one body; or one of them has it and the other is gone, and the
body with it; or it was freed twice. -/
inductive Doomed (x y : Nat) (block : Block) (t : Memory × List (HeapEvent Block)) : Prop
  | shared (hx : HasBody t.1 x block) (hy : HasBody t.1 y block)
  | first (hx : t.1.messages.lookup x = none) (hy : HasBody t.1 y block) (hdead : Dead block t.2)
  | second (hx : HasBody t.1 x block) (hy : t.1.messages.lookup y = none) (hdead : Dead block t.2)
  | fault (hfault : heapAfter t.2 = none)

/-- Whatever is done that leaves the two bodies alone, it comes no further. -/
theorem Doomed.step {t t' : Memory × List (HeapEvent Block)} (h : Doomed x y block t)
    (hne : x ≠ y) (hold : block.1 < t.1.made) (hleaves : Leaves x y t op)
    (hstep : system.step t op = some t') : Doomed x y block t' ∧ block.1 < t'.1.made := by
  obtain ⟨⟨memory', events⟩, hcall, rfl⟩ := Option.map_eq_some_iff.mp hstep
  have hmove := callMove_of_call hcall
  refine ⟨?_, hold.trans_le hmove.allocs.2⟩
  by_cases hdx : op = .destroy x
  · -- `y` is left alone
    subst hdx
    have hkeeps : (HasBody t.1 y block → HasBody memory' y block) ∧
        (t.1.messages.lookup y = none → memory'.messages.lookup y = none) :=
      hmove.keeps hleaves.2 fun heq => hne (Op.destroy.inj heq)
    cases h with
    | shared hx hy =>
        obtain ⟨rfl, hgone⟩ := call_destroy hcall hx
        exact .first hgone (hkeeps.1 hy) (dead_of_free block t.2)
    | first hx hy hfreed =>
        simp [call, hx] at hcall
    | second hx hy hfreed =>
        obtain ⟨rfl, -⟩ := call_destroy hcall hx
        exact .fault hfreed.free
    | fault hfault => exact .fault (heapAfter_append_of_fault hfault events)
  · have hkeepsx : (HasBody t.1 x block → HasBody memory' x block) ∧
        (t.1.messages.lookup x = none → memory'.messages.lookup x = none) :=
      hmove.keeps hleaves.1 hdx
    by_cases hdy : op = .destroy y
    · subst hdy
      cases h with
      | shared hx hy =>
          obtain ⟨rfl, hgone⟩ := call_destroy hcall hy
          exact .second (hkeepsx.1 hx) hgone (dead_of_free block t.2)
      | first hx hy hfreed =>
          obtain ⟨rfl, -⟩ := call_destroy hcall hy
          exact .fault hfreed.free
      | second hx hy hfreed =>
          simp [call, hy] at hcall
      | fault hfault => exact .fault (heapAfter_append_of_fault hfault events)
    · have hkeepsy : (HasBody t.1 y block → HasBody memory' y block) ∧
          (t.1.messages.lookup y = none → memory'.messages.lookup y = none) :=
        hmove.keeps hleaves.2 hdy
      cases h with
      | shared hx hy => exact .shared (hkeepsx.1 hx) (hkeepsy.1 hy)
      | first hx hy hfreed => exact .first (hkeepsx.2 hx) (hkeepsy.1 hy) (hmove.dead hold hfreed)
      | second hx hy hfreed => exact .second (hkeepsx.1 hx) (hkeepsy.2 hy) (hmove.dead hold hfreed)
      | fault hfault => exact .fault (heapAfter_append_of_fault hfault events)

/-- After `x = y` the two messages have one body. -/
theorem doomed_of_assign {t t' : Memory × List (HeapEvent Block)} (hne : x ≠ y)
    (hy : HasBody t.1 y block) (hassign : system.step t (.assign x y) = some t') :
    Doomed x y block t' := by
  obtain ⟨value, hvalue, hbody⟩ := hy
  obtain ⟨⟨memory', events⟩, hcall, rfl⟩ := Option.map_eq_some_iff.mp hassign
  rw [call] at hcall
  split at hcall
  · next old new hold hnew =>
      obtain rfl : new = value := Option.some.inj (hnew.symm.trans hvalue)
      rw [if_neg hne] at hcall
      cases hcall
      refine .shared ⟨new, lookup_put _ _ _ _, hbody⟩ ⟨new, ?_, hbody⟩
      exact (lookup_put_of_ne hne.symm _ _).trans hnew
  · cases hcall

/-- In every program: when `y`, which has a body, was assigned to another message `x`,
and neither gets another body from then on, the heap is broken once both are
destroyed, in whatever order and whatever else the program does. -/
theorem assignment_frees_twice {t t' t'' : Memory × List (HeapEvent Block)}
    (ht : system.ReachableUnder (fun _ _ => True) t) (hne : x ≠ y)
    (hbody : HasBody t.1 y block) (hassign : system.step t (.assign x y) = some t')
    (hlater : (system.startingAt t').ReachableUnder (Leaves x y) t'')
    (hx : t''.1.messages.lookup x = none) (hy : t''.1.messages.lookup y = none) :
    heapAfter t''.2 = none := by
  have hmade : block.1 < t'.1.made := by
    obtain ⟨⟨memory', events⟩, hcall, rfl⟩ := Option.map_eq_some_iff.mp hassign
    exact ((older_reachable ht).1 y block hbody).trans_le (callMove_of_call hcall).allocs.2
  have hdoomed : Doomed x y block t'' ∧ block.1 < t''.1.made := by
    refine hlater.induction (fun t => Doomed x y block t ∧ block.1 < t.1.made) ?_ ?_
    · exact ⟨doomed_of_assign hne hbody hassign, hmade⟩
    · intro s op s' _ hleaves hs hstep
      exact hs.1.step hne hs.2 hleaves hstep
  cases hdoomed.1 with
  | shared hbodyx | second hbodyx =>
      obtain ⟨value, hvalue, -⟩ := hbodyx
      cases hx.symm.trans hvalue
  | first hgone hbodyy =>
      obtain ⟨value, hvalue, -⟩ := hbodyy
      cases hy.symm.trans hvalue
  | fault hfault => exact hfault

/-- Two messages, an assignment, another payload for a third one, and the end of the
scope. -/
theorem assignment_frees_twice_run :
    ∃ t t' t'' : Memory × List (HeapEvent Block),
      (system.ReachableUnder (fun _ _ => True) t ∧ system.step t (.assign 0 1) = some t' ∧
        (system.startingAt t').ReachableUnder (Leaves 0 1) t'') ∧
      heapAfter t''.2 = none := by
  obtain ⟨t, ht, htest⟩ := exists_reachableUnder_of_run (M := system) (fun _ _ => True)
    [.ofString 0, .ofString 1, .ofString 2]
    (fun t => decide ((t.1.messages.lookup 1).map (·.body) = some (some (1, .body)) ∧
      ((system.step t (.assign 0 1)).any fun t' =>
        ((system.startingAt t').run (Leaves 0 1) t' [.readBody 0, .destroy 1, .setPayload 2,
          .destroy 2, .destroy 0]).any fun t'' =>
            (t''.1.messages.lookup 0).isNone && (t''.1.messages.lookup 1).isNone) = true))
    (by decide +kernel)
  obtain ⟨hbody, hrun⟩ := of_decide_eq_true htest
  obtain ⟨value, hvalue, hblock⟩ := Option.map_eq_some_iff.mp hbody
  obtain ⟨t', hassign, hrun⟩ := Option.any_eq_true _ _ |>.mp hrun
  obtain ⟨t'', hend, hgone⟩ := Option.any_eq_true _ _ |>.mp hrun
  simp only [Bool.and_eq_true, Option.isNone_iff_eq_none] at hgone
  have hlater := reachableUnder_of_run (M := system.startingAt t') (Leaves 0 1) _ .init hend
  exact ⟨t, t', t'', ⟨ht, hassign, hlater⟩, assignment_frees_twice ht (by decide)
    ⟨value, hvalue, hblock⟩ hassign hlater hgone.1 hgone.2⟩

/-! ### Strings and envelopes that die too early -/

/-- Whatever a queued message points into is read when the message is published; if it
is dead by then, the heap is broken. -/
theorem reads_of_publish {t published : Memory × List (HeapEvent Block)} {queued : QueuedMessage}
    (hfront : t.1.queue.head? = some queued)
    (hpublish : system.step t .publish = some published)
    (hpoints : block ∈ pointees queued.properties ++ queued.headers.toList)
    (hdead : Dead block t.2) :
    ∃ events, published.2 = events ++ t.2 ∧ HeapEvent.read block ∈ events ∧
      heapAfter published.2 = none := by
  obtain ⟨⟨memory', events⟩, hcall, rfl⟩ := Option.map_eq_some_iff.mp hpublish
  rw [call] at hcall
  split at hcall
  · cases hcall
  · next front rest hqueue =>
      obtain rfl : front = queued := by simpa [hqueue] using hfront
      cases hcall
      have hread : block ∈ queuedBlocks front.number ++
          (pointees front.properties ++ front.headers.toList) :=
        List.mem_append_right _ hpoints
      exact ⟨_, rfl, List.mem_append_right _ (List.mem_map_of_mem hread), hdead.read hread⟩

/-- In every program: a string dies while the reply-to or the correlation id of a
queued message points into it.  Whenever the message is published after that, the
dead string is read. -/
theorem dead_text_published {t dropped later published : Memory × List (HeapEvent Block)}
    {queued : QueuedMessage} {name : BasicProperty} {text : Nat}
    (ht : system.ReachableUnder (fun _ _ => True) t)
    (hpoints : queued.properties name = some (text, .text))
    (hdrop : system.step t (.dropText text) = some dropped)
    (hlater : (system.startingAt dropped).ReachableUnder (fun _ _ => True) later)
    (hfront : later.1.queue.head? = some queued)
    (hpublish : system.step later .publish = some published) :
    ∃ events, published.2 = events ++ later.2 ∧
      HeapEvent.read ((text, .text) : Block) ∈ events ∧ heapAfter published.2 = none := by
  have hdead : Dead (text, .text) later.2 := by
    obtain ⟨⟨memory', events⟩, hcall, rfl⟩ := Option.map_eq_some_iff.mp hdrop
    rw [call] at hcall
    split at hcall
    · next htext =>
        cases hcall
        refine dead_later hlater ((older_reachable ht).2 text ?_) (dead_of_free _ _)
        exact List.mem_append_left _ htext
    · cases hcall
  refine reads_of_publish hfront hpublish ?_ hdead
  exact List.mem_append_left _ (mem_pointees.mpr ⟨name, hpoints⟩)

/-- A string that is the reply-to of a message that was sent dies before the message is
published. -/
theorem dead_text_published_run :
    ∃ t dropped later published : Memory × List (HeapEvent Block),
      (system.ReachableUnder Careful t ∧ system.step t (.dropText 0) = some dropped ∧
        (system.startingAt dropped).ReachableUnder (fun _ _ => True) later ∧
        system.step later .publish = some published) ∧
      ∃ events, published.2 = events ++ later.2 ∧
        HeapEvent.read ((0, .text) : Block) ∈ events ∧ heapAfter published.2 = none := by
  obtain ⟨t, ht, htest⟩ := exists_reachableUnder_of_run (M := system) Careful
    [.newText, .ofString 0, .setReplyTo 0 0, .send 0]
    (fun t => (system.step t (.dropText 0)).any fun dropped =>
      ((system.startingAt dropped).run (fun _ _ => True) dropped [.destroy 0]).any fun later =>
        (system.step later .publish).isSome &&
          later.1.queue.head?.any fun queued : QueuedMessage =>
            decide (queued.properties .replyTo = some ((0, .text) : Block))) (by decide +kernel)
  obtain ⟨dropped, hdrop, htest⟩ := (Option.any_eq_true _ _).mp htest
  obtain ⟨later, hend, htest⟩ := (Option.any_eq_true _ _).mp htest
  obtain ⟨hpublish, hqueued⟩ := (Bool.and_eq_true _ _).mp htest
  obtain ⟨published, hpublish⟩ := Option.isSome_iff_exists.mp hpublish
  obtain ⟨queued, hfront, hpoints⟩ := (Option.any_eq_true _ _).mp hqueued
  have hlater := reachableUnder_of_run (M := system.startingAt dropped) (fun _ _ => True) _ .init
    hend
  exact ⟨t, dropped, later, published, ⟨ht, hdrop, hlater, hpublish⟩,
    dead_text_published (ht.mono fun _ _ _ => trivial) (of_decide_eq_true hpoints) hdrop hlater
      hfront hpublish⟩

/-- In every program: the envelope that the headers of a queued message lie in is
destroyed.  Whenever the message is published after that, the dead headers are read. -/
theorem dead_headers_published {t released later published : Memory × List (HeapEvent Block)}
    {queued : QueuedMessage} {envelope : Nat} (ht : system.ReachableUnder (fun _ _ => True) t)
    (hheaders : queued.headers = some (envelope, .envelope))
    (hrelease : system.step t (.release envelope) = some released)
    (hlater : (system.startingAt released).ReachableUnder (fun _ _ => True) later)
    (hfront : later.1.queue.head? = some queued)
    (hpublish : system.step later .publish = some published) :
    ∃ events, published.2 = events ++ later.2 ∧
      HeapEvent.read ((envelope, .envelope) : Block) ∈ events ∧ heapAfter published.2 = none := by
  have hdead : Dead (envelope, .envelope) later.2 := by
    obtain ⟨⟨memory', events⟩, hcall, rfl⟩ := Option.map_eq_some_iff.mp hrelease
    rw [call] at hcall
    split at hcall
    · next henvelope =>
        cases hcall
        refine dead_later hlater ((older_reachable ht).2 envelope ?_) (dead_of_free _ _)
        exact List.mem_append_right _ henvelope
    · cases hcall
  refine reads_of_publish hfront hpublish ?_ hdead
  exact List.mem_append_right _ (Option.mem_toList.mpr hheaders)

/-- A callback sends the message that it was given, and once it has returned, the
consumer destroys the envelope and the message; then the message is published. -/
theorem dead_headers_published_run :
    ∃ t released later published : Memory × List (HeapEvent Block),
      (system.ReachableUnder Careful t ∧ system.step t (.release 0) = some released ∧
        (system.startingAt released).ReachableUnder (fun _ _ => True) later ∧
        system.step later .publish = some published) ∧
      ∃ events, published.2 = events ++ later.2 ∧
        HeapEvent.read ((0, .envelope) : Block) ∈ events ∧ heapAfter published.2 = none := by
  obtain ⟨t, ht, htest⟩ := exists_reachableUnder_of_run (M := system) Careful
    [.receive, .ofEnvelope 0 0 (· == .contentType) true, .send 0]
    (fun t => (system.step t (.release 0)).any fun released =>
      ((system.startingAt released).run (fun _ _ => True) released [.destroy 0]).any fun later =>
        (system.step later .publish).isSome &&
          later.1.queue.head?.any fun queued : QueuedMessage =>
            decide (queued.headers = some ((0, .envelope) : Block))) (by decide +kernel)
  obtain ⟨released, hrelease, htest⟩ := (Option.any_eq_true _ _).mp htest
  obtain ⟨later, hend, htest⟩ := (Option.any_eq_true _ _).mp htest
  obtain ⟨hpublish, hqueued⟩ := (Bool.and_eq_true _ _).mp htest
  obtain ⟨published, hpublish⟩ := Option.isSome_iff_exists.mp hpublish
  obtain ⟨queued, hfront, hheaders⟩ := (Option.any_eq_true _ _).mp hqueued
  have hlater := reachableUnder_of_run (M := system.startingAt released) (fun _ _ => True) _ .init
    hend
  exact ⟨t, released, later, published, ⟨ht, hrelease, hlater, hpublish⟩,
    dead_headers_published (ht.mono fun _ _ _ => trivial) (of_decide_eq_true hheaders) hrelease
      hlater hfront hpublish⟩

end MessageMemory
end HareCpp
