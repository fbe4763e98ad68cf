import HareCpp.Library.TransitionSystem

/-!
# Infinite runs in which one thread keeps moving

A `FairRun` is an infinite run of a system shared by a thread, the *mover*, and
others: every step belongs to the mover or to the others, and the mover takes
infinitely many.  Nothing is said about how often the others move, or in which
order.

* `FairRun.invariant` — what every step keeps holds all along.
* `FairRun.eventually` — a measure that goes down with every step of the mover,
  and does not go up with a step of the others, leads to the goal.
* `FairRun.eventually_always` — a goal that is kept is kept from some time on.
* `exists_fairRun` — such runs exist where the mover always has a step.
* `upToLast` — how far an entry of a queue is from leaving it for good, whatever
  others push behind it.
-/

namespace HareCpp
namespace Library
namespace TransitionSystem

variable {σ α : Type*}

/-- An infinite run from `s` on, in which the mover takes infinitely many steps. -/
structure FairRun (M : TransitionSystem σ α) (mover other : σ → α → Prop) (s : σ) where
  state : ℕ → σ
  action : ℕ → α
  start : state 0 = s
  step : ∀ n, M.step (state n) (action n) = some (state (n + 1))
  moves : ∀ n, mover (state n) (action n) ∨ other (state n) (action n)
  fair : ∀ n, ∃ m, n ≤ m ∧ mover (state m) (action m)

namespace FairRun

variable {M : TransitionSystem σ α} {mover other : σ → α → Prop} {s : σ}

/-- What every step keeps holds from the time on at which it holds. -/
theorem invariant_from (r : FairRun M mover other s) (Inv : σ → Prop)
    (hstep : ∀ t a t', Inv t → mover t a ∨ other t a → M.step t a = some t' → Inv t') {n m : ℕ}
    (hn : Inv (r.state n)) (hnm : n ≤ m) : Inv (r.state m) := by
  induction m, hnm using Nat.le_induction with
  | base => exact hn
  | succ k _ ih => exact hstep _ _ _ ih (r.moves k) (r.step k)

/-- What holds at the start and every step keeps holds all along. -/
theorem invariant (r : FairRun M mover other s) (Inv : σ → Prop)
    (hstep : ∀ t a t', Inv t → mover t a ∨ other t a → M.step t a = some t' → Inv t')
    (hs : Inv s) (n : ℕ) : Inv (r.state n) := by
  have hstart : Inv (r.state 0) := by
    rw [r.start]
    exact hs
  exact r.invariant_from Inv hstep hstart (Nat.zero_le n)

/-- Until the mover's next step the measure does not go up. -/
theorem measure_le {β : Type*} [Preorder β] {Inv goal : σ → Prop} {measure : σ → β}
    (r : FairRun M mover other s) (hinv : ∀ n, Inv (r.state n))
    (hstep : ∀ t a t', Inv t → ¬goal t → mover t a ∨ other t a → M.step t a = some t' →
      measure t' ≤ measure t) {n m : ℕ} (hnm : n ≤ m)
    (hgoal : ∀ k, n ≤ k → ¬goal (r.state k)) : measure (r.state m) ≤ measure (r.state n) := by
  induction m, hnm using Nat.le_induction with
  | base => exact le_refl _
  | succ k hk ih => exact (hstep _ _ _ (hinv k) (hgoal k hk) (r.moves k) (r.step k)).trans ih

/-- A measure that the mover brings down, and the others do not raise, leads to the
goal. -/
theorem eventually {β : Type*} [Preorder β] [WellFoundedLT β] (r : FairRun M mover other s)
    (Inv goal : σ → Prop) (measure : σ → β) (hinv : ∀ n, Inv (r.state n))
    (hmover : ∀ t a t', Inv t → ¬goal t → mover t a → M.step t a = some t' →
      measure t' < measure t)
    (hother : ∀ t a t', Inv t → ¬goal t → other t a → M.step t a = some t' →
      measure t' ≤ measure t) : ∃ n, goal (r.state n) := by
  by_contra hnever
  have hgoal : ∀ k, ¬goal (r.state k) := fun k hk => hnever ⟨k, hk⟩
  have hstep : ∀ t a t', Inv t → ¬goal t → mover t a ∨ other t a → M.step t a = some t' →
      measure t' ≤ measure t := by
    rintro t a t' ht hnot (ha | ha) h
    · exact (hmover t a t' ht hnot ha h).le
    · exact hother t a t' ht hnot ha h
  suffices h : ∀ (b : β) (n : ℕ), measure (r.state n) = b → False from h _ 0 rfl
  intro b
  induction b using WellFoundedLT.induction with
  | ind b ih =>
      rintro n rfl
      obtain ⟨m, hnm, hm⟩ := r.fair n
      have hless := hmover _ _ _ (hinv m) (hgoal m) hm (r.step m)
      have hle := r.measure_le hinv hstep hnm fun k _ => hgoal k
      exact ih _ (hless.trans_le hle) (m + 1) rfl

/-- The rest of a run is a run. -/
def drop (r : FairRun M mover other s) (k : ℕ) : FairRun M mover other (r.state k) where
  state n := r.state (k + n)
  action n := r.action (k + n)
  start := rfl
  step n := r.step (k + n)
  moves n := r.moves (k + n)
  fair n := by
    obtain ⟨m, hm, hmover⟩ := r.fair (k + n)
    refine ⟨m - k, by omega, ?_⟩
    rwa [Nat.add_sub_of_le (by omega)]

/-- What holds from some time on of the rest of a run holds so of the run. -/
theorem eventually_always_of_drop (r : FairRun M mover other s) {k : ℕ} (goal : σ → Prop)
    (h : ∃ n, ∀ m, n ≤ m → goal ((r.drop k).state m)) : ∃ n, ∀ m, n ≤ m → goal (r.state m) := by
  obtain ⟨n, hn⟩ := h
  refine ⟨k + n, fun m hm => ?_⟩
  have hgoal := hn (m - k) (by omega)
  have hstate : (r.drop k).state (m - k) = r.state m := by
    show r.state (k + (m - k)) = r.state m
    rw [Nat.add_sub_of_le (by omega)]
  rwa [hstate] at hgoal

/-- Finitely many goals that hold from some time on hold together from some time
on. -/
theorem eventually_always_all {ι : Type*} (r : FairRun M mover other s) (goal : ι → σ → Prop)
    (items : List ι) (heach : ∀ i ∈ items, ∃ n, ∀ m, n ≤ m → goal i (r.state m)) :
    ∃ n, ∀ m, n ≤ m → ∀ i ∈ items, goal i (r.state m) := by
  induction items with
  | nil => exact ⟨0, by simp⟩
  | cons i rest ih =>
      obtain ⟨n, hn⟩ := heach i List.mem_cons_self
      obtain ⟨n', hn'⟩ := ih fun j hj => heach j (.tail _ hj)
      refine ⟨max n n', fun m hm j hj => ?_⟩
      rcases List.mem_cons.mp hj with rfl | hrest
      · exact hn m ((le_max_left n n').trans hm)
      · exact hn' m ((le_max_right n n').trans hm) j hrest

end FairRun

/-- Where the mover always has a step that keeps `Inv`, it can go on for ever. -/
theorem exists_fairRun {M : TransitionSystem σ α} {mover other : σ → α → Prop} (Inv : σ → Prop)
    (hgoes : ∀ s, Inv s → ∃ a s', mover s a ∧ M.step s a = some s' ∧ Inv s') {s : σ}
    (hs : Inv s) : Nonempty (FairRun M mover other s) := by
  choose action next hmover hstep hinv using hgoes
  let reached : ℕ → {t : σ // Inv t} := fun n =>
    Nat.rec ⟨s, hs⟩ (fun _ t => ⟨next t.1 t.2, hinv t.1 t.2⟩) n
  exact ⟨{
    state := fun n => (reached n).1
    action := fun n => action (reached n).1 (reached n).2
    start := rfl
    step := fun n => hstep (reached n).1 (reached n).2
    moves := fun n => .inl (hmover (reached n).1 (reached n).2)
    fair := fun n => ⟨n, le_refl n, hmover (reached n).1 (reached n).2⟩ }⟩

end TransitionSystem

/-! ### Waiting in a queue -/

section Queues

variable {ι : Type*} [DecidableEq ι]

/-- The entries of a queue up to the last `a`. -/
def upToLast (a : ι) : List ι → ℕ
  | [] => 0
  | b :: rest => if a ∈ b :: rest then upToLast a rest + 1 else 0

/-- Entries behind the last `a` do not count. -/
theorem upToLast_append_of_ne {a b : ι} (hne : a ≠ b) (queue : List ι) :
    upToLast a (queue ++ [b]) = upToLast a queue := by
  induction queue with
  | nil => simp [upToLast, hne]
  | cons e rest ih =>
      rw [List.cons_append, upToLast, upToLast, ih]
      simp [hne]

/-- A pop brings every entry of the queue closer to its end. -/
theorem upToLast_lt_cons {a b : ι} {rest : List ι} (ha : a ∈ b :: rest) :
    upToLast a rest < upToLast a (b :: rest) := by
  rw [upToLast, if_pos ha]
  exact Nat.lt_succ_self _

end Queues

end Library
end HareCpp
