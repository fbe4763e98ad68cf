import HareCpp.Producer.Defined

/-!
# `Start` and `Stop` of a producer from several threads

`Producer::Start` and `Producer::Stop` test `IsRunning()`, set the flag and work
on the thread handle in separate critical sections.  A call is *critical* from
the moment its test lets it go on until it has assigned to the handle or joined
it.  `Serialised` is the condition that a test lets a call go on only while no
other call is critical, which is what one lock over the whole of `Start` and
`Stop` would bring about (`Consumer::Start` holds its mutex throughout).

* `SerialFacts` — at most one call is critical, and the flag and the worker are
  those of its phase.
* `start_stop_serialised` — the handle is well used, at most one worker is alive,
  no worker is joined twice, and of several `Start` calls on a stopped producer
  exactly one returns `ALL_GOOD`.
* `start_stop_race` — two `Start` calls that both find the producer stopped, or two
  `Stop` calls that both find it running, end the program.
-/

namespace HareCpp
namespace Producer

open Library TransitionSystem ConnectionBase

variable {s s' : ProducerState}

/-! ### The condition -/

/-- Calls between the test of `IsRunning()` and the end of their work on the
handle. -/
def ControlPc.critical : ControlPc → Bool
  | .startSet _ | .startSpawn _ | .stopSet _ | .stopJoin _ => true
  | _ => false

/-- The test of `IsRunning()` is next, and lets the call go on. -/
def ControlPc.passes (running : Bool) : ControlPc → Bool
  | .startRunning _ => !running
  | .stopRunning _ => running
  | _ => false

/-- The steps of `Initialize`. -/
def ControlPc.initializing : ControlPc → Bool
  | .initConnection _ | .initInitialized | .initRunning => true
  | _ => false

/-- The steps of the destructor. -/
def ControlPc.destroying : ControlPc → Bool
  | .stopInitialized .destructor | .stopRunning .destructor | .stopSet .destructor
  | .stopJoin .destructor | .stopFlag .destructor | .stopClose .destructor _
  | .stopClearTest .destructor _ | .stopClearFront .destructor _ | .stopClearPop .destructor _
  | .destroyInitialized | .destroyRunning | .destroyChannels | .destroyClose
  | .destroyMembers => true
  | _ => false

/-- Any number of threads call `Start`, `Stop` and `Restart` on an initialised
producer; `Initialize` is called by one thread on its own. -/
def StartStop (s : ProducerState) : Action → Prop
  | .begin .start | .begin .stop | .begin .restart =>
      s.isInitialized = true ∧ ∀ pc ∈ s.controls, pc.initializing = false
  | .begin (.initializeWith _) => s.controls = [] ∧ s.worker = .none
  | .begin .destroy => False
  | _ => True

/-- A test lets a call go on only while no other call is critical. -/
def Serialised (s : ProducerState) : Action → Prop
  | .control k _ => ∀ picked ∈ pick s.controls k, picked.1.passes s.threadRunning = true →
      ∀ other ∈ picked.2, other.critical = false
  | _ => True

/-- The two together. -/
def SerialRun (s : ProducerState) (action : Action) : Prop :=
  StartStop s action ∧ Serialised s action

instance (s : ProducerState) : (action : Action) → Decidable (StartStop s action)
  | .begin .start | .begin .stop | .begin .restart => inferInstanceAs (Decidable (_ ∧ _))
  | .begin (.initializeWith _) => inferInstanceAs (Decidable (_ ∧ _))
  | .begin .destroy => inferInstanceAs (Decidable False)
  | .worker _ | .declareExchange .. | .send _ | .sendPush _ | .control .. =>
      inferInstanceAs (Decidable True)

instance (s : ProducerState) : (action : Action) → Decidable (Serialised s action)
  | .control k _ => inferInstanceAs (Decidable (∀ picked ∈ pick s.controls k, _))
  | .worker _ | .declareExchange .. | .send _ | .sendPush _ | .begin _ =>
      inferInstanceAs (Decidable True)

instance (s : ProducerState) (action : Action) : Decidable (SerialRun s action) :=
  inferInstanceAs (Decidable (_ ∧ _))

/-! ### The invariant -/

/-- At most one call is critical, and the flag and the worker are those of its
phase; `Initialize` is on its own, and an initialised producer has a
connection. -/
structure SerialFacts (s : ProducerState) : Prop where
  phase : ∃ pc : Option ControlPc, s.controls.filter ControlPc.critical = pc.toList ∧
    PhaseFacts s (phaseOf pc.toList)
  alone : ∀ pc ∈ s.controls, pc.initializing = true →
    s.controls = [pc] ∧ s.threadRunning = false ∧ s.worker = .none
  others : ∀ pc ∈ s.controls, pc.destroying = false
  connection : s.isInitialized = true → s.connection ≠ none
  assigned : .initInitialized ∈ s.controls → s.connection ≠ none

/-- The facts depend on the flag, the worker being there and the connection being
there. -/
theorem SerialFacts.of_frame (hfacts : SerialFacts s) (hcontrols : s'.controls = s.controls)
    (hthread : s'.threadRunning = s.threadRunning)
    (hworker : s'.worker = .none ↔ s.worker = .none) (hinit : s'.isInitialized = s.isInitialized)
    (hconn : s.connection ≠ none → s'.connection ≠ none) : SerialFacts s' := by
  obtain ⟨⟨pc, hpc, hphase⟩, halone, hothers, hconnection, hassigned⟩ := hfacts
  refine ⟨⟨pc, ?_, ?_⟩, ?_, ?_, ?_, ?_⟩
  · rwa [hcontrols]
  · cases hp : phaseOf pc.toList <;> rw [hp] at hphase <;>
      simpa [PhaseFacts, hthread, hworker] using hphase
  · rwa [hcontrols, hthread, hworker]
  · rwa [hcontrols]
  · rw [hinit]
    exact fun h => hconn (hconnection h)
  · rw [hcontrols]
    exact fun h => hconn (hassigned h)

/-- The call that takes a step is the critical one, or another call is, or none. -/
theorem SerialFacts.picked (hfacts : SerialFacts s) {k : Nat} {pc : ControlPc}
    {rest : List ControlPc} (hpick : pick s.controls k = some (pc, rest)) :
    (pc.critical = true → rest.filter ControlPc.critical = [] ∧ PhaseFacts s pc.phase) ∧
    (pc.critical = false → ∃ other : Option ControlPc,
      rest.filter ControlPc.critical = other.toList ∧ PhaseFacts s (phaseOf other.toList)) := by
  obtain ⟨only, honly, hphase⟩ := hfacts.phase
  have hperm := (perm_of_pick hpick).filter ControlPc.critical
  rw [honly, List.filter_cons] at hperm
  constructor
  · intro hcritical
    rw [if_pos hcritical] at hperm
    cases only with
    | none => cases List.nil_perm.mp hperm
    | some first =>
        have heq := List.singleton_perm.mp hperm
        obtain ⟨rfl, hrest⟩ := List.cons.inj heq
        exact ⟨hrest.symm, hphase⟩
  · intro hcritical
    rw [if_neg (by simp [hcritical])] at hperm
    refine ⟨only, ?_, hphase⟩
    cases only with
    | none => exact List.nil_perm.mp hperm
    | some first => exact (List.singleton_perm.mp hperm).symm

/-- The calls beside the one that takes a step are not in `Initialize`; beside an
`Initialize` there are none. -/
theorem SerialFacts.picked_alone (hfacts : SerialFacts s) {k : Nat} {pc : ControlPc}
    {rest : List ControlPc} (hpick : pick s.controls k = some (pc, rest)) :
    (∀ other ∈ rest, other.initializing = false) ∧
      (pc.initializing = true → rest = [] ∧ s.threadRunning = false ∧ s.worker = .none) := by
  have hperm := perm_of_pick hpick
  constructor
  · intro other hother
    by_contra hinit
    obtain ⟨hcontrols, -⟩ := hfacts.alone other
      (hperm.mem_iff.mpr (List.mem_cons_of_mem _ hother)) (by simpa using hinit)
    have hlength := hperm.length_eq
    have hpositive := List.length_pos_of_mem hother
    rw [hcontrols] at hlength
    simp only [List.length_cons, List.length_nil] at hlength
    omega
  · intro hinit
    obtain ⟨hcontrols, hfree⟩ := hfacts.alone pc (mem_of_pick hpick) hinit
    have hlength := hperm.length_eq
    rw [hcontrols] at hlength
    simp only [List.length_cons, List.length_nil] at hlength
    exact ⟨List.length_eq_zero_iff.mp (by omega), hfree⟩

/-- A call goes on or returns, the flag and the worker staying as they are.  It is
not critical before or after. -/
theorem SerialFacts.of_quiet (hfacts : SerialFacts s) {k : Nat} {pc : ControlPc}
    {rest : List ControlPc} (next : List ControlPc) (hpick : pick s.controls k = some (pc, rest))
    (hpc : pc.critical = false) (hcontrols : s'.controls = next ++ rest)
    (hnext : ∀ other ∈ next, other.critical = false ∧ other.initializing = false ∧
      other.destroying = false)
    (hthread : s'.threadRunning = s.threadRunning) (hworker : s'.worker = s.worker)
    (hconnection : s'.isInitialized = true → s'.connection ≠ none) : SerialFacts s' := by
  obtain ⟨other, hother, hphase⟩ := (hfacts.picked hpick).2 hpc
  have hrest := (hfacts.picked_alone hpick).1
  have hperm := perm_of_pick hpick
  refine ⟨⟨other, ?_, ?_⟩, ?_, ?_, hconnection, ?_⟩
  · rw [hcontrols, List.filter_append, hother, List.filter_eq_nil_iff.mpr, List.nil_append]
    intro a ha
    simp [(hnext a ha).1]
  · cases hp : phaseOf other.toList <;> rw [hp] at hphase <;>
      simpa [PhaseFacts, hthread, hworker] using hphase
  · intro a ha hinit
    rw [hcontrols] at ha
    rcases List.mem_append.mp ha with h | h
    · rw [(hnext a h).2.1] at hinit
      cases hinit
    · rw [hrest a h] at hinit
      cases hinit
  · intro a ha
    rw [hcontrols] at ha
    rcases List.mem_append.mp ha with h | h
    · exact (hnext a h).2.2
    · exact hfacts.others a (hperm.mem_iff.mpr (List.mem_cons_of_mem _ h))
  · intro ha
    rw [hcontrols] at ha
    rcases List.mem_append.mp ha with h | h
    · cases (hnext _ h).2.1
    · cases hrest _ h

/-- The only critical call goes on to its next phase, a call becomes critical
while no other is, or the critical call is done. -/
theorem SerialFacts.of_phase (hfacts : SerialFacts s) {k : Nat} {pc : ControlPc}
    {rest : List ControlPc} (hpick : pick s.controls k = some (pc, rest))
    (hnone : rest.filter ControlPc.critical = []) (next : Option ControlPc)
    (hcontrols : s'.controls = next.toList ++ rest)
    (hnext : ∀ other ∈ next, other.initializing = false ∧ other.destroying = false)
    (hphase : PhaseFacts s' (phaseOf (next.toList.filter ControlPc.critical)))
    (hconnection : s'.isInitialized = true → s'.connection ≠ none) : SerialFacts s' := by
  have hrest := (hfacts.picked_alone hpick).1
  have hperm := perm_of_pick hpick
  refine ⟨⟨next.filter ControlPc.critical, ?_, ?_⟩, ?_, ?_, hconnection, ?_⟩
  · rw [hcontrols, List.filter_append, hnone, List.append_nil, Option.toList_filter]
  · rwa [← Option.toList_filter] at hphase
  · intro a ha hinit
    rw [hcontrols] at ha
    rcases List.mem_append.mp ha with h | h
    · rw [(hnext a (Option.mem_toList.mp h)).1] at hinit
      cases hinit
    · rw [hrest a h] at hinit
      cases hinit
  · intro a ha
    rw [hcontrols] at ha
    rcases List.mem_append.mp ha with h | h
    · exact (hnext a (Option.mem_toList.mp h)).2
    · exact hfacts.others a (hperm.mem_iff.mpr (List.mem_cons_of_mem _ h))
  · intro ha
    rw [hcontrols] at ha
    rcases List.mem_append.mp ha with h | h
    · cases (hnext _ (Option.mem_toList.mp h)).1
    · cases hrest _ h

/-- A step of `Initialize`, which is on its own. -/
theorem SerialFacts.of_newConnection (next : Option ControlPc)
    (hcontrols : s'.controls = next.toList)
    (hnext : ∀ other ∈ next, other.initializing = true ∧ other.critical = false ∧
      other.destroying = false)
    (hthread : s'.threadRunning = false) (hworker : s'.worker = .none)
    (hconnection : s'.isInitialized = true → s'.connection ≠ none)
    (hassigned : next = some .initInitialized → s'.connection ≠ none) : SerialFacts s' := by
  refine ⟨⟨none, ?_, ?_⟩, ?_, ?_, hconnection, ?_⟩
  · rw [hcontrols]
    exact List.filter_eq_nil_iff.mpr fun a ha => by simp [(hnext a (Option.mem_toList.mp ha)).2.1]
  · show s'.threadRunning = true ↔ s'.worker ≠ .none
    simp [hthread, hworker]
  · intro a ha _
    rw [hcontrols] at ha ⊢
    rw [Option.mem_toList.mp ha]
    exact ⟨rfl, hthread, hworker⟩
  · intro a ha
    rw [hcontrols] at ha
    exact (hnext a (Option.mem_toList.mp ha)).2.2
  · intro ha
    rw [hcontrols] at ha
    exact hassigned (Option.mem_toList.mp ha)

/-- A call that moves on without changing anything. -/
theorem SerialFacts.goto (hfacts : SerialFacts s) {k : Nat} {pc next : ControlPc}
    {rest : List ControlPc} (hpick : pick s.controls k = some (pc, rest))
    (hserial : pc.passes s.threadRunning = true → ∀ other ∈ rest, other.critical = false)
    (hnext : ControlGoto { s with controls := rest } pc next) :
    SerialFacts (goOn { s with controls := rest } next) := by
  have hothers := hfacts.others pc (mem_of_pick hpick)
  -- a test that lets the call go on: no other call is critical, so no call is
  have hpasses : pc.critical = false → pc.passes s.threadRunning = true →
      rest.filter ControlPc.critical = [] ∧ (s.threadRunning = true ↔ s.worker ≠ .none) := by
    intro hpc hpass
    have hnone : rest.filter ControlPc.critical = [] :=
      List.filter_eq_nil_iff.mpr fun a ha => by simp [hserial hpass a ha]
    obtain ⟨other, hother, hphase⟩ := (hfacts.picked hpick).2 hpc
    rw [hnone] at hother
    obtain rfl : other = none := by simpa using hother.symm
    exact ⟨hnone, hphase⟩
  have hquiet : pc.critical = false →
      (next.critical = false ∧ next.initializing = false ∧ next.destroying = false) →
      SerialFacts (goOn { s with controls := rest } next) := by
    intro hpc hplace
    refine hfacts.of_quiet [next] hpick hpc rfl ?_ rfl rfl hfacts.connection
    intro other hother
    rw [List.mem_singleton.mp hother]
    exact hplace
  cases hnext with
  | startIdle restarting hrunning =>
      have hrunning : s.threadRunning = false := hrunning
      obtain ⟨hnone, hphase⟩ := hpasses rfl (by simp [ControlPc.passes, hrunning])
      have hworker : s.worker = .none := by simpa [hrunning] using hphase
      refine hfacts.of_phase hpick hnone (some (.startSet restarting)) rfl ?_
        ⟨hrunning, hworker⟩ hfacts.connection
      rintro other ⟨⟩
      exact ⟨rfl, rfl⟩
  | stopRunning caller hrunning =>
      have hrunning : s.threadRunning = true := hrunning
      obtain ⟨hnone, hphase⟩ := hpasses rfl (by simp [ControlPc.passes, hrunning])
      refine hfacts.of_phase hpick hnone (some (.stopSet caller)) rfl ?_
        ⟨hrunning, hphase.mp hrunning⟩ hfacts.connection
      rintro other ⟨⟩
      cases caller <;> first | exact ⟨rfl, rfl⟩ | cases hothers
  | startInitialized | restartInitialized | restartStart => exact hquiet rfl ⟨rfl, rfl, rfl⟩
  | stopInitialized caller | stopUninitialized caller | stopIdle caller | clearMore caller
  | clearFront caller =>
      refine hquiet rfl ?_
      cases caller <;> first | exact ⟨rfl, rfl, rfl⟩ | cases hothers
  | destroyStopped | destroyInitialized | destroyUninitialized | destroyRunning | destroyIdle =>
      cases hothers

/-- A step of a control call keeps the facts. -/
theorem SerialFacts.control (hfacts : SerialFacts s) {k : Nat} {pc : ControlPc}
    {rest : List ControlPc} {input : ControlInput} (hpick : pick s.controls k = some (pc, rest))
    (hserial : pc.passes s.threadRunning = true → ∀ other ∈ rest, other.critical = false)
    (hmove : ControlMove { s with controls := rest } input pc s')
    (hstatus : s'.status = .running) : SerialFacts s' := by
  have hothers := hfacts.others pc (mem_of_pick hpick)
  have hcritical := (hfacts.picked hpick).1
  have halone := (hfacts.picked_alone hpick).2
  cases hmove with
  | goto _ next hnext => exact hfacts.goto hpick hserial hnext
  | returned _ api code hreturn =>
      refine hfacts.of_quiet [] hpick ?_ rfl (by simp) rfl rfl hfacts.connection
      cases hreturn <;> rfl
  | startSet restarting =>
      obtain ⟨hnone, -, hworker⟩ := hcritical rfl
      refine hfacts.of_phase hpick hnone (some (.startSpawn restarting)) rfl ?_ ⟨rfl, hworker⟩
        hfacts.connection
      rintro other ⟨⟩
      exact ⟨rfl, rfl⟩
  | spawn restarting hworker =>
      obtain ⟨hnone, hrunning, -⟩ := hcritical rfl
      refine hfacts.of_phase hpick hnone none rfl (by simp) ?_ hfacts.connection
      show s.threadRunning = true ↔ WorkerPc.loopTest ≠ .none
      simp [hrunning]
  | stopSet caller =>
      obtain ⟨hnone, -, hworker⟩ := hcritical rfl
      refine hfacts.of_phase hpick hnone (some (.stopJoin caller)) rfl ?_ ⟨rfl, hworker⟩
        hfacts.connection
      rintro other ⟨⟩
      cases caller <;> first | exact ⟨rfl, rfl⟩ | cases hothers
  | joined caller hworker =>
      obtain ⟨hnone, hrunning, -⟩ := hcritical rfl
      refine hfacts.of_phase hpick hnone (some (.stopFlag caller)) rfl ?_ ?_ hfacts.connection
      · rintro other ⟨⟩
        cases caller <;> first | exact ⟨rfl, rfl⟩ | cases hothers
      · show s.threadRunning = true ↔ WorkerPc.none ≠ .none
        simp [hrunning]
  | flag caller =>
      refine hfacts.of_quiet [.stopClose caller .allGood] hpick rfl rfl ?_ rfl rfl
        hfacts.connection
      intro other hother
      rw [List.mem_singleton.mp hother]
      cases caller <;> first | exact ⟨rfl, rfl, rfl⟩ | cases hothers
  | closed _ next base hbase hpc =>
      rcases hpc with ⟨caller, code, rfl, rfl⟩ | ⟨rfl, rfl⟩
      · refine hfacts.of_quiet [.stopClearTest caller code] hpick rfl rfl ?_ rfl rfl
          (fun _ => by simp [goOn])
        intro other hother
        rw [List.mem_singleton.mp hother]
        cases caller <;> first | exact ⟨rfl, rfl, rfl⟩ | cases hothers
      · cases hothers
  | dropped caller code object rest' hqueue =>
      refine hfacts.of_quiet [.stopClearTest caller code] hpick rfl rfl ?_ rfl rfl
        hfacts.connection
      intro other hother
      rw [List.mem_singleton.mp hother]
      cases caller <;> first | exact ⟨rfl, rfl, rfl⟩ | cases hothers
  | initConnection credentials =>
      obtain ⟨rfl, hthread, hworker⟩ := halone rfl
      refine .of_newConnection (some .initInitialized) rfl ?_ hthread hworker (by simp [goOn])
        (by simp [goOn])
      rintro other ⟨⟩
      exact ⟨rfl, rfl, rfl⟩
  | initInitialized =>
      obtain ⟨rfl, hthread, hworker⟩ := halone rfl
      refine .of_newConnection (some .initRunning) rfl ?_ hthread hworker
        (fun _ => hfacts.assigned (mem_of_pick hpick)) (by simp)
      rintro other ⟨⟩
      exact ⟨rfl, rfl, rfl⟩
  | initRunning =>
      obtain ⟨rfl, hthread, hworker⟩ := halone rfl
      exact .of_newConnection none rfl (by simp) rfl hworker hfacts.connection (by simp)
  | destroyChannels | destroyed => cases hothers
  | crash => cases hstatus

/-- A call begins. -/
theorem SerialFacts.begin (hfacts : SerialFacts s) (call : ControlCall)
    (hallowed : StartStop s (.begin call)) : SerialFacts (goOn s call.entry) := by
  obtain ⟨⟨pc, hpc, hphase⟩, halone, hothers, hconnection, hassigned⟩ := hfacts
  have hjoins : (∀ other ∈ s.controls, other.initializing = false) →
      call.entry.critical = false ∧ call.entry.initializing = false ∧
        call.entry.destroying = false → SerialFacts (goOn s call.entry) := by
    rintro hnone ⟨hentry, hinit, hdestroy⟩
    refine ⟨⟨pc, ?_, hphase⟩, ?_, ?_, hconnection, ?_⟩
    · show (call.entry :: s.controls).filter ControlPc.critical = pc.toList
      rw [List.filter_cons, if_neg (by simp [hentry]), hpc]
    · intro other hother hinit'
      rcases List.mem_cons.mp hother with rfl | hold
      · rw [hinit] at hinit'
        cases hinit'
      · rw [hnone other hold] at hinit'
        cases hinit'
    · intro other hother
      rcases List.mem_cons.mp hother with rfl | hold
      · exact hdestroy
      · exact hothers other hold
    · intro hother
      rcases List.mem_cons.mp hother with heq | hold
      · rw [← heq] at hinit
        cases hinit
      · cases hnone _ hold
  cases call with
  | start | stop | restart => exact hjoins hallowed.2 ⟨rfl, rfl, rfl⟩
  | initializeWith credentials =>
      obtain ⟨hcontrols, hworker⟩ := hallowed
      rw [hcontrols] at hpc
      obtain rfl : pc = none := by simpa using hpc.symm
      have hphase : s.threadRunning = true ↔ s.worker ≠ .none := hphase
      have hthread : s.threadRunning = false := by simpa [hworker] using hphase
      refine .of_newConnection (some (.initConnection credentials)) ?_ ?_ hthread hworker
        hconnection (by simp)
      · simp [goOn, hcontrols, ControlCall.entry]
      · rintro other ⟨⟩
        exact ⟨rfl, rfl, rfl⟩
  | destroy => cases hallowed

/-- The facts hold while a run that meets the condition goes on. -/
theorem serialFacts_reachable (hs : system.ReachableUnder SerialRun s)
    (hstatus : s.status = .running) : SerialFacts s := by
  refine hs.induction (fun s => s.status = .running → SerialFacts s) ?_ ?_ hstatus
  · intro _
    refine ⟨⟨none, rfl, ?_⟩, by simp [system, initial], by simp [system, initial],
      by simp [system, initial], by simp [system, initial]⟩
    show false = true ↔ WorkerPc.none ≠ .none
    simp
  · intro s action s' _ hallowed hfacts hstep hstatus'
    obtain ⟨hstatus, hmove⟩ := move_of_step hstep
    have hfacts := hfacts hstatus
    cases hmove with
    | worker input _ hmove =>
        obtain ⟨hcontrols, hthread, hinit, -, -, -, -, hconn⟩ := hmove.frame
        obtain ⟨hbefore, hafter⟩ := hmove.alive
        exact hfacts.of_frame hcontrols hthread (by simp [hbefore, hafter]) hinit hconn
    | user _ _ hmove =>
        obtain ⟨hconn, hinit, hthread, hworker, hcontrols, -, -⟩ := hmove.frame
        exact hfacts.of_frame hcontrols hthread (by rw [hworker]) hinit (by rw [hconn]; exact id)
    | begin call => exact hfacts.begin call hallowed.1
    | control k input pc rest _ hpick hmove =>
        exact hfacts.control hpick (hallowed.2 _ hpick) hmove hstatus'

/-- The critical call finds the handle as it needs it. -/
theorem SerialFacts.handleReady (hfacts : SerialFacts s) :
    ∀ pc ∈ s.controls, HandleReady s pc := by
  intro pc hpc
  obtain ⟨only, honly, hphase⟩ := hfacts.phase
  have hcritical : pc.critical = true → only = some pc := by
    intro hcritical
    have hmem : pc ∈ only.toList := by
      rw [← honly]
      exact List.mem_filter.mpr ⟨hpc, hcritical⟩
    exact Option.mem_toList.mp hmem
  refine ⟨?_, ?_, ?_⟩
  · rintro restarting rfl
    rw [hcritical rfl] at hphase
    exact hphase.2
  · rintro caller rfl
    rw [hcritical rfl] at hphase
    exact hphase.2
  · rintro rfl
    cases hfacts.others _ hpc

/-! ### Several `Start` calls on a stopped producer -/

/-- Only `Start` is called. -/
def OnlyStarts : Action → Prop
  | .begin call => call = .start
  | _ => True

/-- Several threads call `Start`, and the condition is met. -/
def StartsRun (s : ProducerState) (action : Action) : Prop :=
  SerialRun s action ∧ OnlyStarts action

instance : (action : Action) → Decidable (OnlyStarts action)
  | .begin call => inferInstanceAs (Decidable (call = .start))
  | .worker _ | .declareExchange .. | .send _ | .sendPush _ | .control .. =>
      inferInstanceAs (Decidable True)

instance (s : ProducerState) (action : Action) : Decidable (StartsRun s action) :=
  inferInstanceAs (Decidable (_ ∧ _))

/-- An initialised producer that is not running, and that no call works on. -/
structure Stopped (s : ProducerState) : Prop where
  status : s.status = .running
  isInitialized : s.isInitialized = true
  threadRunning : s.threadRunning = false
  controls : s.controls = []

/-- The calls that begin. -/
def begun (_ : ProducerState) : Action → List ControlCall
  | .begin call => [call]
  | _ => []

/-- The steps that a `Start` has left. -/
def ControlPc.remaining : ControlPc → Nat
  | .startInitialized _ => 4
  | .startRunning _ => 3
  | .startSet _ => 2
  | .startSpawn _ => 1
  | _ => 0

/-- The steps that all calls have left. -/
def remaining (s : ProducerState) : Nat := (s.controls.map ControlPc.remaining).sum

/-- The codes that the `Start` calls returned, the calls in flight and the flag:
every call that began is in flight or has returned, and the one that set the
flag is about to start the worker or has returned `ALL_GOOD`. -/
structure StartCodes (codes : List HareError) (s : ProducerState) (calls : List ControlCall) :
    Prop where
  total : codes.length + s.controls.length = calls.length
  each : ∀ code ∈ codes, code = .allGood ∨ code = .threadAlreadyRunning
  winner : codes.count .allGood + s.controls.count (.startSpawn false) =
    if s.threadRunning then 1 else 0
  running : codes ≠ [] → s.threadRunning = true

/-- The invariant of these runs, from `s₀` on. -/
structure StartFacts (s₀ s : ProducerState) (calls : List ControlCall) : Prop where
  status : s.status = .running
  isInitialized : s.isInitialized = true
  places : ∀ pc ∈ s.controls, pc = .startInitialized false ∨ pc = .startRunning false ∨
    pc = .startSet false ∨ pc = .startSpawn false
  front : s.worker.holdsFront = true → s.sendQueue ≠ []
  codes : ∃ codes, controlReturns s = codes.map (Prod.mk .start) ++ controlReturns s₀ ∧
    StartCodes codes s calls

variable {s₀ : ProducerState} {calls : List ControlCall}

/-- A step of the worker or of a user thread. -/
theorem StartFacts.of_frame (hfacts : StartFacts s₀ s calls) (hstatus : s'.status = s.status)
    (hinit : s'.isInitialized = s.isInitialized) (hcontrols : s'.controls = s.controls)
    (hthread : s'.threadRunning = s.threadRunning)
    (hfront : s'.worker.holdsFront = true → s'.sendQueue ≠ [])
    (hreturns : controlReturns s' = controlReturns s) : StartFacts s₀ s' calls := by
  obtain ⟨hstatus₀, hinit₀, hplaces, -, codes, hcodes, htotal, heach, hwinner, hrunning⟩ := hfacts
  refine ⟨hstatus.trans hstatus₀, hinit.trans hinit₀, ?_, hfront, codes, ?_, ?_, heach, ?_, ?_⟩
  · rwa [hcontrols]
  · rw [hreturns, hcodes]
  · rwa [hcontrols]
  · rwa [hcontrols, hthread]
  · rwa [hthread]

/-- A `Start` goes on, and returns nothing yet. -/
theorem StartCodes.goOn {codes : List HareError} (hcodes : StartCodes codes s calls) {k : Nat}
    {pc next : ControlPc} {rest : List ControlPc} (hpick : pick s.controls k = some (pc, rest))
    (hpc : pc ≠ .startSpawn false) (hnext : next ≠ .startSpawn false)
    (hcontrols : s'.controls = next :: rest) (hthread : s'.threadRunning = s.threadRunning) :
    StartCodes codes s' calls := by
  have hperm := perm_of_pick hpick
  obtain ⟨htotal, heach, hwinner, hrunning⟩ := hcodes
  refine ⟨?_, heach, ?_, ?_⟩
  · rw [hcontrols, ← htotal, hperm.length_eq]
    rfl
  · rw [hcontrols, hthread, ← hwinner, hperm.count_eq, List.count_cons_of_ne hnext,
      List.count_cons_of_ne hpc]
  · rwa [hthread]

/-- A `Start` returns `code`. -/
theorem StartCodes.returned {codes : List HareError} (hcodes : StartCodes codes s calls) {k : Nat}
    {pc : ControlPc} {rest : List ControlPc} (hpick : pick s.controls k = some (pc, rest))
    {code : HareError} (hcontrols : s'.controls = rest)
    (hthread : s'.threadRunning = s.threadRunning) (hrunning : s.threadRunning = true)
    (hwhich : (pc = .startSpawn false ∧ code = .allGood) ∨
      (pc ≠ .startSpawn false ∧ code = .threadAlreadyRunning)) :
    StartCodes (code :: codes) s' calls := by
  have hperm := perm_of_pick hpick
  obtain ⟨htotal, heach, hwinner, -⟩ := hcodes
  have hlength := hperm.length_eq
  rw [List.length_cons] at hlength
  rw [hperm.count_eq] at hwinner
  refine ⟨?_, ?_, ?_, fun _ => hthread.trans hrunning⟩
  · rw [hcontrols, List.length_cons]
    omega
  · intro other hother
    rcases List.mem_cons.mp hother with rfl | hold
    · exact hwhich.imp And.right And.right
    · exact heach other hold
  · rw [hcontrols, hthread, ← hwinner]
    rcases hwhich with ⟨rfl, rfl⟩ | ⟨hpc, rfl⟩
    · rw [List.count_cons_self, List.count_cons_self]
      omega
    · rw [List.count_cons_of_ne (by decide), List.count_cons_of_ne hpc]

/-- The steps left, by the call that takes one. -/
theorem remaining_of_pick {k : Nat} {pc : ControlPc} {rest : List ControlPc}
    (hpick : pick s.controls k = some (pc, rest)) :
    remaining s = pc.remaining + (rest.map ControlPc.remaining).sum := by
  rw [remaining, ((perm_of_pick hpick).map _).sum_eq, List.map_cons, List.sum_cons]

/-- Every `Start` in flight can take its next step, which brings it closer to its
return and keeps the invariant. -/
theorem StartFacts.control (hfacts : StartFacts s₀ s calls) (hserial : SerialFacts s) {k : Nat}
    {pc : ControlPc} {rest : List ControlPc} (hpick : pick s.controls k = some (pc, rest))
    (input : ControlInput) :
    ∃ s', step s (.control k input) = some s' ∧ remaining s' < remaining s ∧
      StartFacts s₀ s' calls := by
  have hready := hserial.handleReady pc (mem_of_pick hpick)
  have hphase := (hserial.picked hpick).1
  have hleft := remaining_of_pick hpick
  have hplace := hfacts.places pc (mem_of_pick hpick)
  have hrest : ∀ other ∈ rest, other = .startInitialized false ∨ other = .startRunning false ∨
      other = .startSet false ∨ other = .startSpawn false := fun other hother =>
    hfacts.places other ((perm_of_pick hpick).mem_iff.mpr (List.mem_cons_of_mem _ hother))
  obtain ⟨hstatus, hinit, -, hfront, codes, hcodes, hfits⟩ := hfacts
  have hstep : step s (.control k input) = controlStep { s with controls := rest } input pc := by
    rw [step, if_pos hstatus]
    simp only [hpick]
  rw [hstep]
  rcases hplace with rfl | rfl | rfl | rfl
  · refine ⟨goOn { s with controls := rest } (.startRunning false), ?_, ?_, hstatus, hinit, ?_,
      hfront, codes, hcodes, hfits.goOn hpick (by decide) (by decide) rfl rfl⟩
    · simp [controlStep, hinit]
    · rw [hleft]
      simp [remaining, goOn, ControlPc.remaining]
    · intro other hother
      rcases List.mem_cons.mp hother with rfl | hold
      · simp
      · exact hrest other hold
  · cases hrunning : s.threadRunning with
    | true =>
        refine ⟨startReturns { s with controls := rest } false .threadAlreadyRunning, ?_, ?_,
          hstatus, hinit, hrest, hfront, .threadAlreadyRunning :: codes, ?_,
          hfits.returned hpick rfl rfl hrunning (.inr ⟨by decide, rfl⟩)⟩
        · simp [controlStep, hrunning]
        · rw [hleft]
          simp [remaining, startReturns, returnTo, ControlPc.remaining]
        · rw [List.map_cons, List.cons_append, ← hcodes]
          rfl
    | false =>
        refine ⟨goOn { s with controls := rest } (.startSet false), ?_, ?_, hstatus, hinit, ?_,
          hfront, codes, hcodes, hfits.goOn hpick (by decide) (by decide) rfl rfl⟩
        · simp [controlStep, hrunning]
        · rw [hleft]
          simp [remaining, goOn, ControlPc.remaining]
        · intro other hother
          rcases List.mem_cons.mp hother with rfl | hold
          · simp
          · exact hrest other hold
  · -- the flag was not set, so no call has returned and none is about to start a worker
    obtain ⟨hnone, hrunning, hworker⟩ := hphase rfl
    obtain ⟨htotal, heach, hwinner, -⟩ := hfits
    rw [hrunning, (perm_of_pick hpick).count_eq, List.count_cons_of_ne (by decide)] at hwinner
    refine ⟨goOn { s with controls := rest, threadRunning := true } (.startSpawn false), rfl, ?_,
      hstatus, hinit, ?_, hfront, codes, hcodes, ?_, heach, ?_, fun _ => rfl⟩
    · rw [hleft]
      simp [remaining, goOn, ControlPc.remaining]
    · intro other hother
      rcases List.mem_cons.mp hother with rfl | hold
      · simp
      · exact hrest other hold
    · rw [← htotal, (perm_of_pick hpick).length_eq]
      rfl
    · show codes.count .allGood + (ControlPc.startSpawn false :: rest).count _ = 1
      rw [List.count_cons_self]
      simp at hwinner
      omega
  · have hworker : s.worker = .none := hready.spawn false rfl
    obtain ⟨-, hrunning, -⟩ := hphase rfl
    refine ⟨startReturns { s with controls := rest, worker := .loopTest } false .allGood, ?_, ?_,
      hstatus, hinit, hrest, by rintro ⟨⟩, .allGood :: codes, ?_,
      hfits.returned hpick rfl rfl hrunning (.inl ⟨rfl, rfl⟩)⟩
    · simp [controlStep, hworker]
    · rw [hleft]
      simp [remaining, startReturns, returnTo, ControlPc.remaining]
    · rw [List.map_cons, List.cons_append, ← hcodes]
      rfl

/-- A `Start` begins. -/
theorem StartFacts.begin (hfacts : StartFacts s₀ s calls) :
    StartFacts s₀ (goOn s ControlCall.start.entry) (.start :: calls) := by
  obtain ⟨hstatus, hinit, hplaces, hfront, codes, hcodes, htotal, heach, hwinner, hrunning⟩ :=
    hfacts
  refine ⟨hstatus, hinit, ?_, hfront, codes, hcodes, ?_, heach, ?_, hrunning⟩
  · intro other hother
    rcases List.mem_cons.mp hother with rfl | hold
    · exact .inl rfl
    · exact hplaces other hold
  · show codes.length + (s.controls.length + 1) = calls.length + 1
    omega
  · show codes.count .allGood + (ControlPc.startInitialized false :: s.controls).count _ = _
    rw [List.count_cons_of_ne (by decide)]
    exact hwinner

/-- The invariant holds in every run of `Start` calls on a stopped producer. -/
theorem startFacts_reachable (hs₀ : system.ReachableUnder SerialRun s₀) (hstopped : Stopped s₀)
    {s : ProducerState × List ControlCall}
    (hs : ((system.startingAt s₀).recording begun).ReachableUnder
      (fun s => StartsRun s.1) s) :
    StartFacts s₀ s.1 s.2 ∧ SerialFacts s.1 := by
  have hserial : ∀ {t : ProducerState}, (system.startingAt s₀).ReachableUnder StartsRun t →
      t.status = .running → SerialFacts t :=
    fun ht hstatus => serialFacts_reachable (hs₀.goOn (ht.mono fun _ _ h => h.1)) hstatus
  have hfacts : StartFacts s₀ s.1 s.2 := by
    refine hs.record_induction (StartFacts s₀) ?_ ?_
    · obtain ⟨hstatus, hinit, hrunning, hcontrols⟩ := hstopped
      have hworker : s₀.worker = .none := by
        obtain ⟨pc, hpc, hphase⟩ := (serialFacts_reachable hs₀ hstatus).phase
        rw [hcontrols] at hpc
        obtain rfl : pc = none := by simpa using hpc.symm
        have hphase : s₀.threadRunning = true ↔ s₀.worker ≠ .none := hphase
        simpa [hrunning] using hphase
      show StartFacts s₀ s₀ []
      refine ⟨hstatus, hinit, by simp [hcontrols], ?_, [], rfl, ?_, by simp, ?_, by simp⟩
      · rw [hworker]
        rintro ⟨⟩
      · simp [hcontrols]
      · simp [hcontrols, hrunning]
    · intro s action s' calls hreach hallowed hfacts hstep
      have hserialNow := hserial hreach hfacts.status
      have hconn := hserialNow.connection hfacts.isInitialized
      obtain ⟨hstatus, hmove⟩ := move_of_step hstep
      cases hmove with
      | worker input _ hmove =>
          have hworker : workerStep s input = some s' := by
            have hstep : step s (.worker input) = some s' := hstep
            rwa [step, if_pos hstatus] at hstep
          obtain ⟨hcontrols, hthread, hinit, -, -, -, -, -⟩ := hmove.frame
          exact hfacts.of_frame (workerStep_defined hconn hfacts.front hworker) hinit hcontrols
            hthread (hmove.holdsFront hfacts.front) hmove.controlReturns
      | user _ _ hmove =>
          have hnone : begun s action = [] := by cases hmove <;> rfl
          obtain ⟨-, hinit, hthread, hworker, hcontrols, -, -⟩ := hmove.frame
          obtain ⟨hdefined, hqueue⟩ := hmove.defined
          rw [hnone]
          refine hfacts.of_frame hdefined hinit hcontrols hthread ?_ hmove.controlReturns
          rw [hworker]
          exact fun h => hqueue (hfacts.front h)
      | begin call =>
          obtain rfl : call = .start := hallowed.2
          exact hfacts.begin
      | control k input pc rest _ hpick hmove =>
          obtain ⟨t, ht, -, hnext⟩ := hfacts.control hserialNow hpick input
          have hstep : step s (.control k input) = some s' := hstep
          obtain rfl : t = s' := Option.some.inj (ht.symm.trans hstep)
          exact hnext
  refine ⟨hfacts, hserial hs.forget hfacts.status⟩

/-- In every run that meets the condition, the handle of the worker is well used,
at most one worker is alive, and none is joined twice.  Of the `Start` calls on a
stopped producer every one that began is in flight or has returned `ALL_GOOD` or
`THREAD_ALREADY_RUNNING`, `ALL_GOOD` exactly once when all have returned, and
every one in flight can go on to its return. -/
theorem start_stop_serialised {s₀ : ProducerState × List ThreadEvent}
    (hs₀ : (system.recording threadEvents).ReachableUnder (fun s => SerialRun s.1) s₀) :
    (Guarded WellUsed s₀.2 ∧ alive s₀.2 ≤ 1 ∧ s₀.2.count .joined ≤ s₀.2.count .assigned) ∧
    (Stopped s₀.1 → ∀ s : ProducerState × List ControlCall,
      ((system.startingAt s₀.1).recording begun).ReachableUnder (fun s => StartsRun s.1) s →
        (∃ codes : List HareError, controlReturns s.1 =
            codes.map (Prod.mk .start) ++ controlReturns s₀.1 ∧
          codes.length + s.1.controls.length = s.2.length ∧
          (∀ code ∈ codes, code = .allGood ∨ code = .threadAlreadyRunning) ∧
          codes.count .allGood ≤ 1 ∧
          (s.1.controls = [] → s.2 ≠ [] → codes.count .allGood = 1)) ∧
        ∀ k < s.1.controls.length, ∀ input, ∃ s', step s.1 (.control k input) = some s' ∧
          remaining s' < remaining s.1) := by
  constructor
  · have hused := (handleHistory_recorded
      (fun ht hstatus => (serialFacts_reachable ht hstatus).handleReady) hs₀).guarded
    exact ⟨hused, alive_le_one hused, joined_le_assigned hused⟩
  · intro hstopped s hs
    obtain ⟨hfacts, hserial⟩ := startFacts_reachable hs₀.forget hstopped hs
    constructor
    · obtain ⟨codes, hcodes, htotal, heach, hwinner, hrunning⟩ := hfacts.codes
      refine ⟨codes, hcodes, htotal, heach, ?_, ?_⟩
      · split at hwinner <;> omega
      · intro hnone hbegun
        have hreturned : codes ≠ [] := by
          rintro rfl
          rw [hnone] at htotal
          exact hbegun (List.length_eq_zero_iff.mp htotal.symm)
        rw [hrunning hreturned, hnone] at hwinner
        simpa using hwinner
    · intro k hk input
      have hpick : pick s.1.controls k = some (s.1.controls[k], s.1.controls.eraseIdx k) := by
        rw [pick, List.getElem?_eq_getElem hk]
      obtain ⟨s', hstep, hless, -⟩ := hfacts.control hserial hpick input
      exact ⟨s', hstep, hless⟩

/-- `Initialize`. -/
def initializeOnly : List Action :=
  [.begin (.initializeWith {}), .control 0 {}, .control 0 {}, .control 0 {}]

/-- The producer that `Initialize` leaves behind. -/
def idle : ProducerState :=
  { initial with
    connection := some (ConnectionBase.new {})
    isInitialized := true
    notes := [.apiReturned .initialized .allGood] }

/-- A producer that was started and is stopped while another thread calls `Start`,
and three `Start` calls on a stopped producer, the second of which looks at the
flag while the first one starts the worker. -/
theorem start_stop_serialised_run :
    (∃ s : ProducerState × List ThreadEvent,
      (system.recording threadEvents).ReachableUnder (fun s => SerialRun s.1) s ∧
        s.2 = [.joined, .finished, .assigned] ∧
        (Guarded WellUsed s.2 ∧ alive s.2 ≤ 1 ∧ s.2.count .joined ≤ s.2.count .assigned)) ∧
    ((system.recording threadEvents).ReachableUnder (fun s => SerialRun s.1) (idle, []) ∧
      Stopped idle) ∧
      ∃ s : ProducerState × List ControlCall,
        ((system.startingAt idle).recording begun).ReachableUnder (fun s => StartsRun s.1) s ∧
        s.2.length = 3 ∧
        ∃ codes : List HareError, controlReturns s.1 =
            codes.map (Prod.mk .start) ++ controlReturns idle ∧
          codes.length = 3 ∧ codes.count .allGood = 1 := by
  constructor
  · obtain ⟨s, hs, htest⟩ := exists_reachableUnder_of_run (M := system.recording threadEvents)
      (fun s => SerialRun s.1)
      (List.flatten [startUp, .begin .stop :: List.replicate 3 (.control 0 {}),
        .begin .start :: List.replicate 1 (.control 0 {}), [.worker {}, .control 1 {}]])
      (fun s => decide (s.2 = [.joined, .finished, .assigned])) (by decide +kernel)
    exact ⟨s, hs, of_decide_eq_true htest, (start_stop_serialised hs).1⟩
  · have hidle : (system.recording threadEvents).ReachableUnder (fun s => SerialRun s.1)
        (idle, []) :=
      reachableUnder_of_run _ initializeOnly .init rfl
    have hstopped : Stopped idle := ⟨rfl, rfl, rfl, rfl⟩
    refine ⟨⟨hidle, hstopped⟩, ?_⟩
    obtain ⟨s, hs, htest⟩ := exists_reachableUnder_of_run
      (M := (system.startingAt idle).recording begun) (fun s => StartsRun s.1)
      (List.flatten [.begin .start :: List.replicate 3 (.control 0 {}),
        .begin .start :: List.replicate 2 (.control 0 {}), .control 0 {} ::
        .begin .start :: List.replicate 2 (.control 0 {})])
      (fun s => decide (s.2.length = 3 ∧ s.1.controls = [])) (by decide +kernel)
    obtain ⟨hlength, hnone⟩ := of_decide_eq_true htest
    obtain ⟨⟨codes, hcodes, htotal, -, -, hone⟩, -⟩ :=
      (start_stop_serialised hidle).2 hstopped s hs
    refine ⟨s, hs, hlength, codes, hcodes, ?_, ?_⟩
    · rw [hnone, hlength] at htotal
      exact htotal
    · apply hone hnone
      intro hnil
      rw [hnil] at hlength
      cases hlength

/-- Two `Start` calls that both find the producer stopped both start a worker, and
two `Stop` calls that both find it running both join it. -/
theorem start_stop_race :
    (∃ s : ProducerState × List ThreadEvent,
      (system.recording threadEvents).ReachableUnder (fun s => StartStop s.1) s ∧
        s.1.status = .undefined ∧ alive s.2 = 2) ∧
    ∃ s : ProducerState × List ThreadEvent,
      (system.recording threadEvents).ReachableUnder (fun s => StartStop s.1) s ∧
        s.1.status = .undefined ∧ s.2 = [.joined, .joined, .finished, .assigned] := by
  constructor
  · obtain ⟨s, hs, htest⟩ := exists_reachableUnder_of_run (M := system.recording threadEvents)
      (fun s => StartStop s.1)
      (List.flatten [initializeOnly, [.begin .start, .control 0 {}, .control 0 {}, .begin .start,
        .control 0 {}, .control 0 {}], List.replicate 2 (.control 0 {}),
        List.replicate 2 (.control 0 {})])
      (fun s => decide (s.1.status = .undefined ∧ alive s.2 = 2)) (by decide +kernel)
    exact ⟨s, hs, of_decide_eq_true htest⟩
  · obtain ⟨s, hs, htest⟩ := exists_reachableUnder_of_run (M := system.recording threadEvents)
      (fun s => StartStop s.1)
      (List.flatten [startUp,
        [.begin .stop, .control 0 {}, .control 0 {}, .begin .stop, .control 0 {},
        .control 0 {}, .control 0 {}, .worker {}, .control 0 {}, .control 1 {}, .control 0 {}]])
      (fun s => decide (s.1.status = .undefined ∧
        s.2 = [.joined, .joined, .finished, .assigned])) (by decide +kernel)
    exact ⟨s, hs, of_decide_eq_true htest⟩

end Producer
end HareCpp
