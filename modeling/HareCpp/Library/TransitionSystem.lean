import Mathlib.Tactic

/-!
# Transition systems, conditioned runs and guarded histories

The general part of the development.  Nothing here mentions a broker, a
producer or a consumer.

A `TransitionSystem` has one initial state and a partial step function; every
nondeterministic choice (which thread moves, what the environment answers) is
part of the action.  Many results below are about the runs *all of whose steps
meet a condition*: a discipline that the callers keep, or the inputs that stay
clear of a defect.  `ReachableUnder` is reachability by such runs, plain
reachability being the case of the condition that always holds.

* `ReachableUnder.induction` — what holds at the
  start and is kept by every allowed step holds in every state reached.
* `run` and `exists_reachableUnder_of_run` — an executable run that checks the
  condition at every step, so that a concrete run is found by evaluation.
* `recording` — the same system with a record of what its steps did, for
  properties of a run that its states do not show.
* `Guarded` — a safety property of a history kept newest first: every entry
  was allowed by the entries before it.
* `latest` — a flag that the entries of a history set and clear.
* `replay` — run a history through an automaton.
* `firstUses` — the distinct entries of a history in the order of their first
  occurrence.
* `pick` — take one element out of a bag kept as a list.
-/

namespace HareCpp
namespace Library

/-- A deterministic step function over actions; `none` means that the action is
not enabled. -/
structure TransitionSystem (σ α : Type*) where
  init : σ
  step : σ → α → Option σ

namespace TransitionSystem

variable {σ α : Type*} (M : TransitionSystem σ α)

/-- The states reached from `M.init` by steps that all meet `allowed`, which
sees the state before the step and the action. -/
inductive ReachableUnder (allowed : σ → α → Prop) : σ → Prop
  | init : ReachableUnder allowed M.init
  | step {s s' : σ} {a : α} (before : ReachableUnder allowed s)
      (hallowed : allowed s a) (hstep : M.step s a = some s') :
      ReachableUnder allowed s'

variable {M}

/-- The run rule with the reachability of the state before the step at hand, so
that an invariant can use the ones proved earlier. -/
theorem ReachableUnder.induction {allowed : σ → α → Prop} (Inv : σ → Prop)
    (hinit : Inv M.init)
    (hstep : ∀ s a s', M.ReachableUnder allowed s → allowed s a → Inv s →
      M.step s a = some s' → Inv s')
    {s : σ} (hs : M.ReachableUnder allowed s) : Inv s := by
  induction hs with
  | init => exact hinit
  | step before hallowed hs' ih => exact hstep _ _ _ before hallowed ih hs'

/-- A weaker condition allows more runs. -/
theorem ReachableUnder.mono {allowed allowed' : σ → α → Prop}
    (himp : ∀ s a, allowed s a → allowed' s a) {s : σ}
    (hs : M.ReachableUnder allowed s) : M.ReachableUnder allowed' s := by
  induction hs with
  | init => exact .init
  | step _ hallowed hs' ih => exact .step ih (himp _ _ hallowed) hs'

/-- The system from another state on. -/
def startingAt (M : TransitionSystem σ α) (s : σ) : TransitionSystem σ α where
  init := s
  step := M.step

/-- A run that goes on from a state that was reached. -/
theorem ReachableUnder.goOn {allowed : σ → α → Prop} {s t : σ} (hs : M.ReachableUnder allowed s)
    (ht : (M.startingAt s).ReachableUnder allowed t) : M.ReachableUnder allowed t := by
  induction ht with
  | init => exact hs
  | step _ hallowed hstep ih => exact .step ih hallowed hstep

/-- Run a list of actions, checking the condition before each of them. -/
def run (M : TransitionSystem σ α) (allowed : σ → α → Prop)
    [∀ s a, Decidable (allowed s a)] : σ → List α → Option σ
  | s, [] => some s
  | s, a :: rest =>
      if allowed s a then
        match M.step s a with
        | some s' => run M allowed s' rest
        | none => none
      else none

/-- The first step of a run. -/
theorem run_cons (M : TransitionSystem σ α) {allowed : σ → α → Prop}
    [∀ s a, Decidable (allowed s a)] {s s' : σ} {a : α} (hallowed : allowed s a)
    (hstep : M.step s a = some s') (rest : List α) :
    M.run allowed s (a :: rest) = M.run allowed s' rest := by
  rw [run, if_pos hallowed, hstep]

/-- A run that evaluates to a state reaches it. -/
theorem reachableUnder_of_run (allowed : σ → α → Prop)
    [∀ s a, Decidable (allowed s a)] (actions : List α) {s t : σ}
    (hs : M.ReachableUnder allowed s) (hrun : M.run allowed s actions = some t) :
    M.ReachableUnder allowed t := by
  induction actions generalizing s with
  | nil =>
      cases hrun
      exact hs
  | cons a rest ih =>
      rw [run] at hrun
      split at hrun
      · next hallowed =>
          split at hrun
          · next s' hstep => exact ih (.step hs hallowed hstep) hrun
          · cases hrun
      · cases hrun

/-- A test that the end of a run passes is passed by a reachable state. -/
theorem exists_reachableUnder_of_run (allowed : σ → α → Prop)
    [∀ s a, Decidable (allowed s a)] (actions : List α) (p : σ → Bool)
    (hrun : (M.run allowed M.init actions).any p = true) :
    ∃ s, M.ReachableUnder allowed s ∧ p s = true := by
  cases hend : M.run allowed M.init actions with
  | none =>
      rw [hend] at hrun
      cases hrun
  | some s =>
      rw [hend] at hrun
      exact ⟨s, reachableUnder_of_run allowed actions .init hend, hrun⟩

section Recording

variable {ε : Type*} {observe : σ → α → List ε}

/-- The system together with what `observe` reads off its steps, newest first. -/
def recording (M : TransitionSystem σ α) (observe : σ → α → List ε) :
    TransitionSystem (σ × List ε) α where
  init := (M.init, [])
  step s a := (M.step s.1 a).map fun s' => (s', observe s.1 a ++ s.2)

/-- A recorded step is a step, with one more entry of the record. -/
theorem recording_step {s s' : σ × List ε} {a : α}
    (h : (M.recording observe).step s a = some s') :
    M.step s.1 a = some s'.1 ∧ s'.2 = observe s.1 a ++ s.2 := by
  obtain ⟨t, hstep, rfl⟩ := Option.map_eq_some_iff.mp h
  exact ⟨hstep, rfl⟩

/-- Every step can be recorded. -/
theorem step_recording {s : σ × List ε} {a : α} {s' : σ} (h : M.step s.1 a = some s') :
    (M.recording observe).step s a = some (s', observe s.1 a ++ s.2) :=
  Option.map_eq_some_iff.mpr ⟨s', h, rfl⟩

/-- Recording changes nothing about the run. -/
theorem ReachableUnder.forget {allowed : σ → α → Prop} {s : σ × List ε}
    (hs : (M.recording observe).ReachableUnder (fun s => allowed s.1) s) :
    M.ReachableUnder allowed s.1 := by
  induction hs with
  | init => exact .init
  | step _ hallowed hstep ih => exact .step ih hallowed (recording_step hstep).1

/-- Every run can be recorded. -/
theorem ReachableUnder.recorded {allowed : σ → α → Prop} (observe : σ → α → List ε) {s : σ}
    (hs : M.ReachableUnder allowed s) :
    ∃ record, (M.recording observe).ReachableUnder (fun s => allowed s.1) (s, record) := by
  induction hs with
  | init => exact ⟨[], .init⟩
  | step _ hallowed hstep ih =>
      obtain ⟨record, hrecord⟩ := ih
      exact ⟨_, .step hrecord hallowed (step_recording hstep)⟩

/-- The run rule for a state and its record. -/
theorem ReachableUnder.record_induction {allowed : σ → α → Prop} (Inv : σ → List ε → Prop)
    (hinit : Inv M.init [])
    (hstep : ∀ s a s' record, M.ReachableUnder allowed s → allowed s a → Inv s record →
      M.step s a = some s' → Inv s' (observe s a ++ record))
    {s : σ × List ε} (hs : (M.recording observe).ReachableUnder (fun s => allowed s.1) s) :
    Inv s.1 s.2 := by
  refine hs.induction (fun s => Inv s.1 s.2) hinit ?_
  intro s a s' hreach hallowed hinv hs'
  obtain ⟨hs', hrecord⟩ := recording_step hs'
  rw [hrecord]
  exact hstep s.1 a s'.1 s.2 hreach.forget hallowed hinv hs'

/-- The same run, recorded by another observer that sees as much of `κ`. -/
theorem ReachableUnder.rerecord {ε' κ : Type*} {allowed : σ → α → Prop}
    {observe' : σ → α → List ε'} (seen : ε → κ) (seen' : ε' → κ)
    (hsame : ∀ s a, (observe s a).map seen = (observe' s a).map seen') {s : σ × List ε}
    (hs : (M.recording observe).ReachableUnder (fun s => allowed s.1) s) :
    ∃ record, (M.recording observe').ReachableUnder (fun s => allowed s.1) (s.1, record) ∧
      s.2.map seen = record.map seen' := by
  induction hs with
  | init => exact ⟨[], .init, rfl⟩
  | @step s s' a _ hallowed hstep ih =>
      obtain ⟨record, hreach, hrecord⟩ := ih
      obtain ⟨hstep, hnew⟩ := recording_step hstep
      refine ⟨observe' s.1 a ++ record, .step hreach hallowed (step_recording hstep), ?_⟩
      rw [hnew, List.map_append, List.map_append, hsame, hrecord]

end Recording

end TransitionSystem

/-- The state of an object under use by several threads.  A run ends when the
object is gone or its behaviour is undefined. -/
inductive RunStatus
  | running
  | destroyed
  | undefined
  deriving DecidableEq, Repr

section Histories

variable {ε : Type*}

/-- Every entry of a newest-first history was allowed by the entries before
it. -/
def Guarded (allowed : List ε → ε → Prop) : List ε → Prop
  | [] => True
  | e :: past => allowed past e ∧ Guarded allowed past

@[simp] theorem guarded_nil (allowed : List ε → ε → Prop) : Guarded allowed [] := trivial

@[simp] theorem guarded_cons (allowed : List ε → ε → Prop) (e : ε) (past : List ε) :
    Guarded allowed (e :: past) ↔ allowed past e ∧ Guarded allowed past := Iff.rfl

instance instDecidableGuarded (allowed : List ε → ε → Prop) [∀ past e, Decidable (allowed past e)] :
    (history : List ε) → Decidable (Guarded allowed history)
  | [] => inferInstanceAs (Decidable True)
  | e :: past =>
      have := instDecidableGuarded allowed past
      inferInstanceAs (Decidable (allowed past e ∧ Guarded allowed past))

/-- A weaker rule for the entries of the history. -/
theorem Guarded.mono {allowed allowed' : List ε → ε → Prop} {history : List ε}
    (himp : ∀ past, ∀ e ∈ history, allowed past e → allowed' past e)
    (h : Guarded allowed history) : Guarded allowed' history := by
  induction history with
  | nil => trivial
  | cons e past ih =>
      refine ⟨himp past e List.mem_cons_self h.1, ih (fun past' e' he' => ?_) h.2⟩
      exact himp past' e' (.tail _ he')

/-- Entries that the rule allows after any past. -/
theorem Guarded.append {allowed : List ε → ε → Prop} {new history : List ε}
    (hnew : ∀ e ∈ new, ∀ past, allowed past e) (h : Guarded allowed history) :
    Guarded allowed (new ++ history) := by
  induction new with
  | nil => exact h
  | cons e rest ih =>
      exact ⟨hnew e List.mem_cons_self _, ih fun e' he' => hnew e' (.tail _ he')⟩

/-- What the rule says about an entry in the middle. -/
theorem Guarded.at_entry {allowed : List ε → ε → Prop} {later past : List ε} {e : ε}
    (h : Guarded allowed (later ++ e :: past)) : allowed past e := by
  induction later with
  | nil => exact h.1
  | cons e' rest ih => exact ih h.2

/-- The entries by which a history has grown. -/
def newest (before after : List ε) : List ε := after.take (after.length - before.length)

@[simp] theorem newest_append (new before : List ε) : newest before (new ++ before) = new := by
  unfold newest
  rw [List.length_append, Nat.add_sub_cancel, List.take_left]

@[simp] theorem newest_self (before : List ε) : newest before before = [] :=
  newest_append [] before

/-- A flag read off a history: what the newest entry with an effect on it says,
and `false` if there is none. -/
def latest (effect : ε → Option Bool) (history : List ε) : Bool :=
  (history.findSome? effect).getD false

variable {effect : ε → Option Bool}

theorem latest_cons (effect : ε → Option Bool) (e : ε) (history : List ε) :
    latest effect (e :: history) = (effect e).getD (latest effect history) := by
  unfold latest
  rw [List.findSome?_cons]
  cases effect e <;> rfl

/-- Entries without effect leave the flag as it is. -/
theorem latest_append {new : List ε} (hnew : ∀ e ∈ new, effect e = none) (history : List ε) :
    latest effect (new ++ history) = latest effect history := by
  induction new with
  | nil => rfl
  | cons e rest ih =>
      rw [List.cons_append, latest_cons, hnew e List.mem_cons_self]
      exact ih fun e' he' => hnew e' (.tail _ he')

/-- Entries that do not set the flag leave it unset. -/
theorem latest_append_of_false {new history : List ε} (hnew : ∀ e ∈ new, effect e ≠ some true)
    (hfalse : latest effect history = false) : latest effect (new ++ history) = false := by
  induction new with
  | nil => exact hfalse
  | cons e rest ih =>
      have hrest := ih fun e' he' => hnew e' (.tail _ he')
      have he := hnew e List.mem_cons_self
      rw [List.cons_append, latest_cons]
      cases heffect : effect e with
      | none => exact hrest
      | some flag =>
          cases flag with
          | false => rfl
          | true => exact absurd heffect he

/-- A flag that is set was set by an entry. -/
theorem exists_of_latest {history : List ε} (h : latest effect history = true) :
    ∃ e ∈ history, effect e = some true := by
  by_contra hnone
  have hfalse : latest effect (history ++ []) = false :=
    latest_append_of_false (fun e he heffect => hnone ⟨e, he, heffect⟩) rfl
  rw [List.append_nil, h] at hfalse
  cases hfalse

/-- The state of an automaton after a history, if it accepts every entry. -/
def replay {σ : Type*} (accepts : σ → ε → Option σ) (start : σ) : List ε → Option σ
  | [] => some start
  | e :: past => (replay accepts start past).bind (accepts · e)

theorem replay_cons {σ : Type*} {accepts : σ → ε → Option σ} {start state next : σ} {e : ε}
    {past : List ε} (hpast : replay accepts start past = some state)
    (hnext : accepts state e = some next) : replay accepts start (e :: past) = some next := by
  rw [replay, hpast, Option.bind_some, hnext]

/-- An accepted history ends with an accepted entry. -/
theorem replay_cons_eq_some_iff {σ : Type*} {accepts : σ → ε → Option σ} {start next : σ} {e : ε}
    {past : List ε} :
    replay accepts start (e :: past) = some next ↔
      ∃ state, replay accepts start past = some state ∧ accepts state e = some next := by
  rw [replay, Option.bind_eq_some_iff]

theorem replay_append {σ : Type*} (accepts : σ → ε → Option σ) (start : σ)
    (later past : List ε) :
    replay accepts start (later ++ past) =
      (replay accepts start past).bind (replay accepts · later) := by
  induction later with
  | nil =>
      rw [List.nil_append]
      cases replay accepts start past <;> exact rfl
  | cons e rest ih =>
      rw [List.cons_append, replay, ih, Option.bind_assoc]
      rfl

/-- What every accepted entry keeps holds after every accepted history. -/
theorem replay_induction {σ : Type*} {accepts : σ → ε → Option σ} {start : σ} (Inv : σ → Prop)
    (hstart : Inv start)
    (hstep : ∀ state e next, Inv state → accepts state e = some next → Inv next)
    {history : List ε} {state : σ} (h : replay accepts start history = some state) :
    Inv state := by
  induction history generalizing state with
  | nil =>
      cases h
      exact hstart
  | cons e past ih =>
      obtain ⟨before, hbefore, he⟩ := replay_cons_eq_some_iff.mp h
      exact hstep before e state (ih hbefore) he

/-- An automaton that accepts more, in the states that are reached. -/
theorem replay_mono {σ : Type*} {accepts accepts' : σ → ε → Option σ} {start : σ}
    (Inv : σ → Prop) (hstart : Inv start)
    (hstep : ∀ state e next, Inv state → accepts state e = some next →
      accepts' state e = some next ∧ Inv next)
    {history : List ε} {state : σ} (h : replay accepts start history = some state) :
    replay accepts' start history = some state := by
  induction history generalizing state with
  | nil => exact h
  | cons e past ih =>
      obtain ⟨before, hbefore, he⟩ := replay_cons_eq_some_iff.mp h
      have hinv : Inv before :=
        replay_induction Inv hstart (fun s e s' hs he => (hstep s e s' hs he).2) hbefore
      exact replay_cons (ih hbefore) (hstep before e state hinv he).1

/-- A history whose entries are all accepted is accepted. -/
theorem replay_total {σ : Type*} {accepts : σ → ε → Option σ} {start : σ} (Inv : σ → Prop)
    {history : List ε} (hstart : Inv start)
    (hstep : ∀ state, ∀ e ∈ history, Inv state → ∃ next, accepts state e = some next ∧ Inv next) :
    ∃ state, replay accepts start history = some state ∧ Inv state := by
  induction history with
  | nil => exact ⟨start, rfl, hstart⟩
  | cons e past ih =>
      obtain ⟨before, hbefore, hinv⟩ := ih fun state e' he' => hstep state e' (.tail _ he')
      obtain ⟨next, hnext, hinv'⟩ := hstep before e List.mem_cons_self hinv
      exact ⟨next, replay_cons hbefore hnext, hinv'⟩

section FirstUses

variable [DecidableEq ε]

/-- The distinct entries of a newest-first history, in the order in which each of
them first occurred. -/
def firstUses (history : List ε) : List ε := history.dedup.reverse

@[simp] theorem mem_firstUses {history : List ε} {e : ε} :
    e ∈ firstUses history ↔ e ∈ history := by
  rw [firstUses, List.mem_reverse, List.mem_dedup]

theorem nodup_firstUses (history : List ε) : (firstUses history).Nodup :=
  List.nodup_reverse.mpr (List.nodup_dedup history)

/-- An entry that occurred before. -/
theorem firstUses_cons_of_mem {history : List ε} {e : ε} (h : e ∈ history) :
    firstUses (e :: history) = firstUses history := by
  rw [firstUses, List.dedup_cons_of_mem h, firstUses]

/-- A new entry comes last. -/
theorem firstUses_cons_of_notMem {history : List ε} {e : ε} (h : e ∉ history) :
    firstUses (e :: history) = firstUses history ++ [e] := by
  rw [firstUses, List.dedup_cons_of_notMem h, List.reverse_cons, firstUses]

/-- What comes later does not change the order of what came first. -/
theorem firstUses_prefix (later past : List ε) :
    firstUses past <+: firstUses (later ++ past) := by
  induction later with
  | nil => exact List.prefix_refl _
  | cons e rest ih =>
      by_cases h : e ∈ rest ++ past
      · rw [List.cons_append, firstUses_cons_of_mem h]
        exact ih
      · rw [List.cons_append, firstUses_cons_of_notMem h]
        exact ih.trans (List.prefix_append _ _)

end FirstUses

end Histories

section Bags

variable {α : Type*}

/-- Take the `k`-th element out of a bag; the order of a bag means nothing. -/
def pick (bag : List α) (k : Nat) : Option (α × List α) :=
  match bag[k]? with
  | some a => some (a, bag.eraseIdx k)
  | none => none

/-- What is picked and what remains make up the bag. -/
theorem perm_of_pick {bag rest : List α} {k : Nat} {a : α}
    (h : pick bag k = some (a, rest)) : bag.Perm (a :: rest) := by
  unfold pick at h
  split at h
  · next b hb =>
      obtain ⟨rfl, rfl⟩ := Prod.mk.inj (Option.some.inj h)
      obtain ⟨hk, rfl⟩ := List.getElem?_eq_some_iff.mp hb
      exact (List.getElem_cons_eraseIdx_perm hk).symm
  · cases h

theorem getElem?_of_pick {bag rest : List α} {k : Nat} {a : α}
    (h : pick bag k = some (a, rest)) : bag[k]? = some a := by
  unfold pick at h
  split at h
  · next b hb =>
      obtain ⟨rfl, -⟩ := Prod.mk.inj (Option.some.inj h)
      exact hb
  · cases h

theorem mem_of_pick {bag rest : List α} {k : Nat} {a : α}
    (h : pick bag k = some (a, rest)) : a ∈ bag :=
  (perm_of_pick h).mem_iff.mpr List.mem_cons_self

end Bags

end Library
end HareCpp
