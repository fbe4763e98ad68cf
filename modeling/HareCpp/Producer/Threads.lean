import HareCpp.Producer.Moves

/-!
# One control thread and the worker

With one control thread the worker is alive exactly between `Start` and the
`join` in `Stop`.  `ThreadFacts` is the invariant, by the phase of the control
call in flight; what the other invariants take from it is that

* the worker has a connection to work with (`ThreadFacts.connection`),
* nobody but the worker closes the connection or clears the queue while the
  worker is alive (`ThreadFacts.phase`).
-/

namespace HareCpp
namespace Producer

open Library ConnectionBase

/-- What the control thread is about, as far as the worker is concerned.
`outside` is every place at which starting and stopping are not under way. -/
inductive Phase
  | outside
  | starting
  | spawning
  | stopping
  | joining
  | alone
  deriving DecidableEq, Repr

/-- The phase of a control call. -/
def ControlPc.phase : ControlPc → Phase
  | .startInitialized _ | .startRunning _ | .restartInitialized | .stopInitialized _
  | .stopRunning _ | .destroyInitialized | .destroyRunning => .outside
  | .startSet _ => .starting
  | .startSpawn _ => .spawning
  | .stopSet _ => .stopping
  | .stopJoin _ => .joining
  | .stopFlag _ | .stopClose .. | .stopClearTest .. | .stopClearFront .. | .stopClearPop ..
  | .initConnection _ | .initInitialized | .initRunning | .destroyChannels | .destroyClose
  | .destroyMembers => .alone

/-- Calls that have seen `IsInitialized()` hold. -/
def ControlPc.seenInitialized : ControlPc → Bool
  | .startRunning _ | .startSet _ | .startSpawn _ | .stopRunning _ | .stopSet _ | .stopJoin _
  | .stopFlag _ => true
  | _ => false

/-- Calls that are about to close the connection of a worker that is gone. -/
def ControlPc.aboutToClose : ControlPc → Bool
  | .stopFlag _ | .stopClose .. => true
  | _ => false

/-- `m_threadRunning` and the worker in each phase. -/
def PhaseFacts (s : ProducerState) : Phase → Prop
  | .outside => s.threadRunning = true ↔ s.worker ≠ .none
  | .starting => s.threadRunning = false ∧ s.worker = .none
  | .spawning => s.threadRunning = true ∧ s.worker = .none
  | .stopping => s.threadRunning = true ∧ s.worker ≠ .none
  | .joining => s.threadRunning = false ∧ s.worker ≠ .none
  | .alone => s.threadRunning = false ∧ s.worker = .none

/-- The phase of the control call in flight, if there is one. -/
def phaseOf (controls : List ControlPc) : Phase :=
  match controls with
  | [] => .outside
  | pc :: _ => pc.phase

/-- The invariant of a run with one control thread. -/
structure ThreadFacts (s : ProducerState) : Prop where
  single : s.controls.length ≤ 1
  phase : PhaseFacts s (phaseOf s.controls)
  connection : s.isInitialized = true → s.connection ≠ none
  initialized : s.threadRunning = true ∨ s.worker ≠ .none ∨
    (∃ pc ∈ s.controls, pc.seenInitialized = true) → s.isInitialized = true
  assigned : .initInitialized ∈ s.controls → s.connection ≠ none
  closed : s.worker = .none → isConnected s = true →
    ∃ pc ∈ s.controls, pc.aboutToClose = true

/-- A worker that moves is alive and stays alive. -/
theorem WorkerMove.alive {s s' : ProducerState} {input : WorkerInput}
    (h : WorkerMove s input s') : s.worker ≠ .none ∧ s'.worker ≠ .none := by
  cases h with
  | goto next hnext =>
      cases hnext with
      | clearEmpty caller hpc =>
          cases caller <;> simp [hpc, afterClose]
      | _ => simp_all
  | crash hpc => exact ⟨hpc, hpc⟩
  | published base object next hpc hbase hnext =>
      refine ⟨by simp [hpc], ?_⟩
      rcases hnext with ⟨-, rfl⟩ | ⟨-, rfl⟩ | ⟨-, -, rfl⟩ <;> simp
  | _ => simp_all

/-- A step of the worker keeps the thread facts. -/
theorem ThreadFacts.worker {s s' : ProducerState} {input : WorkerInput} (hfacts : ThreadFacts s)
    (hmove : WorkerMove s input s') : ThreadFacts s' := by
  obtain ⟨hcontrols, hthread, hinit, -, -, -, -, hconn⟩ := hmove.frame
  obtain ⟨hbefore, hafter⟩ := hmove.alive
  refine ⟨by rw [hcontrols]; exact hfacts.single, ?_, ?_, ?_, ?_,
    fun h => absurd h hafter⟩
  · rw [hcontrols]
    have hphase := hfacts.phase
    cases hp : phaseOf s.controls <;> rw [hp] at hphase <;>
      simp_all [PhaseFacts]
  · rw [hinit]
    exact fun h => hconn (hfacts.connection h)
  · rw [hinit]
    exact fun _ => hfacts.initialized (.inr (.inl hbefore))
  · rw [hcontrols]
    exact fun h => hconn (hfacts.assigned h)

/-- A step of a user thread keeps the thread facts. -/
theorem ThreadFacts.user {s s' : ProducerState} {action : Action} (hfacts : ThreadFacts s)
    (hmove : UserMove s action s') : ThreadFacts s' := by
  obtain ⟨hconn, hinit, hthread, hworker, hcontrols, -, -⟩ := hmove.frame
  obtain ⟨hsingle, hphase, hconnection, hinitialized, hassigned, hclosed⟩ := hfacts
  have hconnected : isConnected s' = isConnected s := by rw [isConnected, isConnected, hconn]
  refine ⟨?_, ?_, ?_, ?_, ?_, ?_⟩
  · rwa [hcontrols]
  · rw [hcontrols]
    cases hp : phaseOf s.controls <;> rw [hp] at hphase <;> simpa [PhaseFacts, hthread, hworker]
      using hphase
  · rwa [hinit, hconn]
  · rwa [hinit, hthread, hworker, hcontrols]
  · rwa [hcontrols, hconn]
  · rwa [hworker, hconnected, hcontrols]

/-- The facts with exactly one control call in flight, spelled out. -/
structure CallFacts (s : ProducerState) (pc : ControlPc) : Prop where
  phase : PhaseFacts s pc.phase
  connection : s.isInitialized = true → s.connection ≠ none
  initialized : s.threadRunning = true ∨ s.worker ≠ .none ∨ pc.seenInitialized = true →
    s.isInitialized = true
  assigned : pc = .initInitialized → s.connection ≠ none
  closed : s.worker = .none → isConnected s = true → pc.aboutToClose = true

theorem CallFacts.threadFacts {s : ProducerState} {pc : ControlPc} (hfacts : CallFacts s pc)
    (hnone : s.controls = []) : ThreadFacts (goOn s pc) := by
  have hcontrols : (goOn s pc).controls = [pc] := by simp [goOn, hnone]
  obtain ⟨hphase, hconnection, hinitialized, hassigned, hclosed⟩ := hfacts
  refine ⟨by simp [hcontrols], ?_, hconnection, ?_, ?_, ?_⟩ <;> rw [hcontrols]
  · exact hphase
  · rintro (h | h | ⟨pc', hpc, hseen⟩)
    · exact hinitialized (.inl h)
    · exact hinitialized (.inr (.inl h))
    · obtain rfl := List.mem_singleton.mp hpc
      exact hinitialized (.inr (.inr hseen))
  · exact fun h => hassigned (List.mem_singleton.mp h).symm
  · exact fun hworker hconnected =>
      ⟨pc, List.mem_singleton.mpr rfl, hclosed hworker hconnected⟩

theorem ThreadFacts.callFacts {s : ProducerState} {pc : ControlPc}
    (hfacts : ThreadFacts (goOn s pc)) (hnone : s.controls = []) : CallFacts s pc := by
  have hcontrols : (goOn s pc).controls = [pc] := by simp [goOn, hnone]
  obtain ⟨-, hphase, hconnection, hinitialized, hassigned, hclosed⟩ := hfacts
  rw [hcontrols] at hphase hinitialized hassigned hclosed
  simp only [List.mem_singleton, exists_eq_left] at hinitialized hassigned hclosed
  exact ⟨hphase, hconnection, hinitialized, fun h => hassigned h.symm, hclosed⟩

/-- The facts with no control call in flight, spelled out. -/
theorem threadFacts_returned {s : ProducerState} (api : Api) (code : HareError)
    (hnone : s.controls = []) (hphase : s.threadRunning = true ↔ s.worker ≠ .none)
    (hconnection : s.isInitialized = true → s.connection ≠ none)
    (hinitialized : s.threadRunning = true ∨ s.worker ≠ .none → s.isInitialized = true)
    (hclosed : s.worker = .none → isConnected s = false) : ThreadFacts (returnTo s api code) := by
  have hcontrols : (returnTo s api code).controls = [] := hnone
  refine ⟨by simp [hcontrols], ?_, hconnection, ?_, ?_, ?_⟩
  · rw [hcontrols]
    exact hphase
  · rw [hcontrols]
    rintro (h | h | ⟨pc, hpc, -⟩)
    · exact hinitialized (.inl h)
    · exact hinitialized (.inr h)
    · cases hpc
  · rw [hcontrols]
    intro hpc
    cases hpc
  · intro hworker hconnected
    have hdown : isConnected s = false := hclosed hworker
    have hup : isConnected s = true := hconnected
    rw [hdown] at hup
    cases hup

/-- A control call begins when none is in flight. -/
theorem ThreadFacts.begin {s : ProducerState} (call : ControlCall) (hfacts : ThreadFacts s)
    (hone : OneControl s (.begin call)) : ThreadFacts (goOn s call.entry) := by
  have hnone : s.controls = [] := by
    cases call with
    | initializeWith credentials => exact hone.1
    | _ => exact hone
  obtain ⟨-, hphase, hconnection, hinitialized, -, hclosed⟩ := hfacts
  have hidle : s.threadRunning = true ↔ s.worker ≠ .none := by
    rw [hnone] at hphase
    exact hphase
  refine CallFacts.threadFacts ⟨?_, hconnection, ?_, ?_, ?_⟩ hnone
  · cases call with
    | initializeWith credentials =>
        have hworker : s.worker = .none := hone.2
        refine ⟨?_, hworker⟩
        cases hrunning : s.threadRunning with
        | false => rfl
        | true => exact absurd hworker (hidle.mp hrunning)
    | _ => exact hidle
  · rintro (h | h | hseen)
    · exact hinitialized (.inl h)
    · exact hinitialized (.inr (.inl h))
    · cases call <;> cases hseen
  · intro hpc
    cases call <;> cases hpc
  · intro hworker hconnected
    obtain ⟨pc, hpc, -⟩ := hclosed hworker hconnected
    rw [hnone] at hpc
    cases hpc

/-- The phase of a control call that moves on without changing anything. -/
theorem ControlGoto.phase {s : ProducerState} {pc next : ControlPc} (h : ControlGoto s pc next)
    (hphase : PhaseFacts s pc.phase) (hinitialized : s.worker ≠ .none → s.isInitialized = true) :
    PhaseFacts s next.phase := by
  cases h with
  | startIdle restarting hrunning =>
      have hphase : s.threadRunning = true ↔ s.worker ≠ .none := hphase
      exact ⟨hrunning, by simpa [hrunning] using hphase⟩
  | stopUninitialized caller hinit =>
      have hphase : s.threadRunning = true ↔ s.worker ≠ .none := hphase
      have hworker : s.worker = .none := by
        by_contra hworker
        simp [hinitialized hworker] at hinit
      exact ⟨by simpa [hworker] using hphase, hworker⟩
  | stopRunning caller hrunning =>
      have hphase : s.threadRunning = true ↔ s.worker ≠ .none := hphase
      exact ⟨hrunning, hphase.mp hrunning⟩
  | stopIdle caller hrunning =>
      have hphase : s.threadRunning = true ↔ s.worker ≠ .none := hphase
      exact ⟨hrunning, by simpa [hrunning] using hphase⟩
  | restartStart =>
      have hphase : s.threadRunning = false ∧ s.worker = .none := hphase
      show s.threadRunning = true ↔ s.worker ≠ .none
      simp [hphase]
  | destroyUninitialized hinit =>
      have hphase : s.threadRunning = true ↔ s.worker ≠ .none := hphase
      have hworker : s.worker = .none := by
        by_contra hworker
        simp [hinitialized hworker] at hinit
      exact ⟨by simpa [hworker] using hphase, hworker⟩
  | destroyIdle hrunning =>
      have hphase : s.threadRunning = true ↔ s.worker ≠ .none := hphase
      exact ⟨hrunning, by simpa [hrunning] using hphase⟩
  | _ => exact hphase

/-- A control call that moves on has seen `IsInitialized()` hold if the place it
reaches says so. -/
theorem ControlGoto.seenInitialized {s : ProducerState} {pc next : ControlPc}
    (h : ControlGoto s pc next) (hseen : next.seenInitialized = true) :
    s.isInitialized = true ∨ pc.seenInitialized = true := by
  cases h <;> first | exact .inl ‹_› | exact .inr rfl | cases hseen

/-- `aboutToClose` is left only by closing the connection. -/
theorem ControlGoto.aboutToClose {s : ProducerState} {pc next : ControlPc}
    (h : ControlGoto s pc next) : pc.aboutToClose = false ∧ next ≠ .initInitialized := by
  cases h <;> simp [ControlPc.aboutToClose]

/-- A step of the only control call in flight. -/
theorem ThreadFacts.controlMove {s s' : ProducerState} {input : ControlInput} {pc : ControlPc}
    (hfacts : ThreadFacts (goOn s pc)) (hnone : s.controls = [])
    (hmove : ControlMove s input pc s') (hrunning : s'.status = .running) : ThreadFacts s' := by
  obtain ⟨hphase, hconnection, hinitialized, hassigned, hclosed⟩ :=
    hfacts.callFacts hnone
  cases hmove with
  | goto _ next hnext =>
      obtain ⟨hnot, hassign⟩ := hnext.aboutToClose
      refine CallFacts.threadFacts ⟨hnext.phase hphase fun h => hinitialized (.inr (.inl h)),
        hconnection, ?_, fun h => absurd h hassign, ?_⟩ hnone
      · rintro (h | h | hseen)
        · exact hinitialized (.inl h)
        · exact hinitialized (.inr (.inl h))
        · exact (hnext.seenInitialized hseen).elim id fun h => hinitialized (.inr (.inr h))
      · intro hworker hconnected
        rw [hclosed hworker hconnected] at hnot
        cases hnot
  | returned _ api code hreturn =>
      have hnot : pc.aboutToClose = false := by cases hreturn <;> rfl
      have hidle : s.threadRunning = true ↔ s.worker ≠ .none := by
        cases hreturn with
        | stopped | restartFailed =>
            have hphase : s.threadRunning = false ∧ s.worker = .none := hphase
            simp [hphase]
        | _ => exact hphase
      refine threadFacts_returned api code hnone hidle hconnection ?_ ?_
      · rintro (h | h)
        · exact hinitialized (.inl h)
        · exact hinitialized (.inr (.inl h))
      · intro hworker
        by_contra hconnected
        rw [hclosed hworker (by simpa using hconnected)] at hnot
        cases hnot
  | startSet restarting =>
      have hphase : s.threadRunning = false ∧ s.worker = .none := hphase
      exact CallFacts.threadFacts ⟨⟨rfl, hphase.2⟩, hconnection,
        fun _ => hinitialized (.inr (.inr rfl)), by simp, hclosed⟩ hnone
  | spawn restarting hworker =>
      have hphase : s.threadRunning = true ∧ s.worker = .none := hphase
      refine threadFacts_returned _ _ hnone (by simp [hphase]) hconnection
        (fun _ => hinitialized (.inr (.inr rfl))) (by simp)
  | stopSet caller =>
      have hphase : s.threadRunning = true ∧ s.worker ≠ .none := hphase
      exact CallFacts.threadFacts ⟨⟨rfl, hphase.2⟩, hconnection,
        fun _ => hinitialized (.inr (.inr rfl)), by simp, hclosed⟩ hnone
  | joined caller hworker =>
      have hphase : s.threadRunning = false ∧ s.worker ≠ .none := hphase
      exact CallFacts.threadFacts ⟨⟨hphase.1, rfl⟩, hconnection,
        fun _ => hinitialized (.inr (.inr rfl)), by simp, fun _ _ => rfl⟩ hnone
  | flag caller =>
      exact CallFacts.threadFacts ⟨hphase, hconnection,
        fun _ => hinitialized (.inr (.inr rfl)), by simp, fun _ _ => rfl⟩ hnone
  | closed _ next base hbase hpc =>
      have hdown : isConnected { s with
          connection := some (base.closeConnection input.closeReply).base
          calls := (base.closeConnection input.closeReply).calls ++ s.calls } = false :=
        closeConnection_isConnected base input.closeReply
      have halone : PhaseFacts s .alone := by
        rcases hpc with ⟨caller, code, rfl, -⟩ | ⟨rfl, -⟩ <;> exact hphase
      refine CallFacts.threadFacts ⟨?_, by simp, ?_, by simp, ?_⟩ hnone
      · rcases hpc with ⟨caller, code, -, rfl⟩ | ⟨-, rfl⟩ <;> exact halone
      · rintro (h | h | hseen)
        · exact hinitialized (.inl h)
        · exact hinitialized (.inr (.inl h))
        · rcases hpc with ⟨caller, code, -, rfl⟩ | ⟨-, rfl⟩ <;> cases hseen
      · intro _ hup
        rw [hdown] at hup
        cases hup
  | dropped caller code object rest hqueue =>
      exact CallFacts.threadFacts ⟨hphase, hconnection, hinitialized, by simp, hclosed⟩ hnone
  | initConnection credentials =>
      have hphase : s.threadRunning = false ∧ s.worker = .none := hphase
      refine CallFacts.threadFacts ⟨hphase, by simp, ?_, by simp, ?_⟩ hnone
      · simp [hphase, ControlPc.seenInitialized]
      · intro _ hup
        cases hup
  | initInitialized =>
      exact CallFacts.threadFacts ⟨hphase, fun _ => hassigned rfl, fun _ => rfl,
        by simp, hclosed⟩ hnone
  | initRunning =>
      have hphase : s.threadRunning = false ∧ s.worker = .none := hphase
      refine threadFacts_returned _ _ hnone (by simp [hphase]) hconnection (by simp [hphase])
        ?_
      intro hworker
      show isConnected s = false
      by_contra hconnected
      cases hclosed hworker (by simpa using hconnected)
  | destroyChannels base hbase =>
      refine CallFacts.threadFacts ⟨hphase, hconnection, hinitialized, by simp, hclosed⟩ hnone
  | destroyed hworker => cases hrunning
  | crash => cases hrunning

/-- With one control thread a call in flight is the only one. -/
theorem ThreadFacts.eq_singleton {s : ProducerState} (hfacts : ThreadFacts s) {pc : ControlPc}
    (hpc : pc ∈ s.controls) : s.controls = [pc] := by
  have hsingle := hfacts.single
  have hpositive := List.length_pos_of_mem hpc
  have hone : s.controls.length = 1 := by omega
  obtain ⟨only, honly⟩ := List.length_eq_one_iff.mp hone
  rw [honly] at hpc ⊢
  rw [List.mem_singleton.mp hpc]

/-- With one control thread the call that moves is the only one. -/
theorem ThreadFacts.only {s : ProducerState} (hfacts : ThreadFacts s) {k : Nat} {pc : ControlPc}
    {rest : List ControlPc} (hpick : pick s.controls k = some (pc, rest)) :
    s.controls = [pc] ∧ rest = [] := by
  have hcontrols := hfacts.eq_singleton (mem_of_pick hpick)
  have hlength := (perm_of_pick hpick).length_eq
  rw [hcontrols, List.length_singleton, List.length_cons] at hlength
  exact ⟨hcontrols, List.length_eq_zero_iff.mp (by omega)⟩

/-- The thread facts hold in every state of a run with one control thread, as
long as the run goes on. -/
theorem threadFacts_reachable {s : ProducerState} (hs : system.ReachableUnder OneControl s)
    (hrunning : s.status = .running) : ThreadFacts s := by
  refine hs.induction (fun s => s.status = .running → ThreadFacts s) ?_ ?_ hrunning
  · intro _
    exact ⟨by decide, by simp [system, initial, phaseOf, PhaseFacts], by simp [system, initial],
      by simp [system, initial], by simp [system, initial],
      by simp [system, initial, isConnected]⟩
  · intro s action s' _ hone hfacts hstep hrunning'
    obtain ⟨hstatus, hmove⟩ := move_of_step hstep
    have hfacts := hfacts hstatus
    cases hmove with
    | worker input _ hmove => exact hfacts.worker hmove
    | user _ _ hmove => exact hfacts.user hmove
    | begin call => exact hfacts.begin call hone
    | control k input pc rest _ hpick hmove =>
        obtain ⟨hcontrols, rfl⟩ := hfacts.only hpick
        have heq : goOn { s with controls := [] } pc = s := by
          rw [goOn, ← hcontrols]
        exact ThreadFacts.controlMove (heq ▸ hfacts) rfl hmove hrunning'

end Producer
end HareCpp
