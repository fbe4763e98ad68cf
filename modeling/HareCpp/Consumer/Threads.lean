import HareCpp.Consumer.Moves

/-!
# One control thread and the consumer's worker

With one control thread the worker is alive exactly between `Start` and the
`join` in `Stop`.  `CallFacts` is the invariant, by the control call in flight,
if there is one.  What the other invariants take from it is that only the worker
uses the connection while the worker is alive (`CallFacts.control_alone`), and
that a connection without a worker is about to be closed by `Stop`
(`CallFacts.closed`).
-/

namespace HareCpp
namespace Consumer

open Library ConnectionBase

variable {Callback : Type} {s s' : ConsumerState Callback}

/-- What the control thread is about, as far as the worker is concerned.
`outside` is every place at which starting and stopping are not under way. -/
inductive Phase
  | outside
  | stopping
  | joining
  | alone
  deriving DecidableEq, Repr

/-- The phase of a control call. -/
def ControlPc.phase : ControlPc → Phase
  | .start _ | .stopEmpty _ | .stopInitialized _ | .stopRunning _ | .destroyRunning => .outside
  | .stopSet _ => .stopping
  | .stopJoin _ => .joining
  | .stopClose _ | .initConnection _ | .initInitialized | .initRunning | .destroyClose
  | .destroyMembers => .alone

/-- Calls that have seen `IsInitialized()` hold. -/
def ControlPc.seenInitialized : ControlPc → Bool
  | .stopRunning _ | .stopSet _ | .stopJoin _ | .stopClose _ => true
  | _ => false

/-- The phase of the control call in flight, if there is one. -/
def phaseOf : Option ControlPc → Phase
  | none => .outside
  | some pc => pc.phase

/-- `m_threadRunning` and the worker in each phase. -/
def PhaseFacts (s : ConsumerState Callback) : Phase → Prop
  | .outside => s.threadRunning = true ↔ s.worker ≠ .none
  | .stopping => s.threadRunning = true ∧ s.worker ≠ .none
  | .joining => s.threadRunning = false ∧ s.worker ≠ .none
  | .alone => s.threadRunning = false ∧ s.worker = .none

/-- The invariant, given the control call in flight. -/
structure CallFacts (s : ConsumerState Callback) (pc : Option ControlPc) : Prop where
  phase : PhaseFacts s (phaseOf pc)
  connection : s.isInitialized = true → s.connection ≠ none
  initialized : s.threadRunning = true ∨ s.worker ≠ .none ∨
    (∃ p, pc = some p ∧ p.seenInitialized = true) → s.isInitialized = true
  assigned : pc = some .initInitialized → s.connection ≠ none
  closed : s.worker = .none → isConnected s = true → ∃ caller, pc = some (.stopClose caller)

/-- The invariant of a run with one control thread. -/
def ThreadFacts (s : ConsumerState Callback) : Prop :=
  ∃ pc : Option ControlPc, s.controls = pc.toList ∧ CallFacts s pc

/-! ### Steps of the worker and of `Subscribe` -/

theorem ThreadFacts.worker {input : WorkerInput} (hfacts : ThreadFacts s)
    (hmove : WorkerMove s input s') : ThreadFacts s' := by
  obtain ⟨hcontrols, hthread, hinit, -, hconn⟩ := hmove.frame
  obtain ⟨hbefore, hafter⟩ := hmove.alive
  obtain ⟨pc, hpc, hphase, hconnection, hinitialized, hassigned, -⟩ := hfacts
  refine ⟨pc, hcontrols.trans hpc, ?_, ?_, ?_, ?_, fun h => absurd h hafter⟩
  · cases hp : phaseOf pc <;> rw [hp] at hphase <;> simp_all [PhaseFacts]
  · rw [hinit]
    exact fun h => hconn (hconnection h)
  · rw [hinit]
    exact fun _ => hinitialized (.inr (.inl hbefore))
  · exact fun h => hconn (hassigned h)

/-- The facts depend on no other member of the state. -/
theorem CallFacts.of_same {pc : Option ControlPc} (hfacts : CallFacts s pc)
    (hconn : s'.connection = s.connection) (hinit : s'.isInitialized = s.isInitialized)
    (hthread : s'.threadRunning = s.threadRunning) (hworker : s'.worker = s.worker) :
    CallFacts s' pc := by
  obtain ⟨hphase, hconnection, hinitialized, hassigned, hclosed⟩ := hfacts
  have hconnected : isConnected s' = isConnected s := by rw [isConnected, isConnected, hconn]
  refine ⟨?_, ?_, ?_, ?_, ?_⟩
  · cases hp : phaseOf pc <;> rw [hp] at hphase <;>
      simpa [PhaseFacts, hthread, hworker] using hphase
  · rwa [hinit, hconn]
  · rwa [hinit, hthread, hworker]
  · rwa [hconn]
  · rwa [hworker, hconnected]

theorem ThreadFacts.user (hfacts : ThreadFacts s) (hframe : UserFrame s s') : ThreadFacts s' := by
  obtain ⟨pc, hpc, hcall⟩ := hfacts
  exact ⟨pc, hframe.controls.trans hpc, hcall.of_same hframe.connection hframe.isInitialized
    hframe.threadRunning hframe.worker⟩

/-! ### Steps of the control thread -/

/-- The control thread goes on somewhere else, and nothing changes.  Only `Stop`
may leave a connection without a worker behind, and not at this step. -/
theorem CallFacts.moveOn {pc next : Option ControlPc} (hfacts : CallFacts s pc)
    (hplace : ∀ caller, pc ≠ some (.stopClose caller)) (hphase : PhaseFacts s (phaseOf next))
    (hseen : ∀ p, next = some p → p.seenInitialized = true → s.isInitialized = true)
    (hassigned : next ≠ some .initInitialized) : CallFacts s next := by
  refine ⟨hphase, hfacts.connection, ?_, fun h => absurd h hassigned, ?_⟩
  · rintro (h | h | ⟨p, hp, hp'⟩)
    · exact hfacts.initialized (.inl h)
    · exact hfacts.initialized (.inr (.inl h))
    · exact hseen p hp hp'
  · intro hworker hup
    obtain ⟨caller, hstop⟩ := hfacts.closed hworker hup
    exact absurd hstop (hplace caller)

/-- A control call begins when none is in flight. -/
theorem ThreadFacts.begin (call : ControlCall) (hfacts : ThreadFacts s)
    (hone : OneControl s (.begin call)) : ThreadFacts (goOn s call.entry) := by
  have hnone : s.controls = [] := by
    cases call with
    | initializeWith credentials => exact hone.1
    | _ => exact hone
  obtain ⟨pc, hpc, hcall⟩ := hfacts
  rw [hnone] at hpc
  obtain rfl : pc = none := by simpa using hpc.symm
  have hidle : s.threadRunning = true ↔ s.worker ≠ .none := hcall.phase
  have hentry : CallFacts s (some call.entry) := by
    refine hcall.moveOn (by simp) ?_ ?_ ?_
    · cases call with
      | initializeWith credentials =>
          have hworker : s.worker = .none := hone.2
          refine ⟨?_, hworker⟩
          cases hrunning : s.threadRunning with
          | false => rfl
          | true => exact absurd hworker (hidle.mp hrunning)
      | _ => exact hidle
    · rintro p ⟨⟩ hseen
      cases call <;> cases hseen
    · intro hentry
      cases call <;> cases hentry
  exact ⟨some call.entry, by simp [goOn, hnone], hentry.of_same rfl rfl rfl rfl⟩

/-- The phase of a control call that moves on without changing anything. -/
theorem ControlGoto.phase {pc next : ControlPc} (h : ControlGoto s pc next)
    (hphase : PhaseFacts s pc.phase) : PhaseFacts s next.phase := by
  cases h with
  | stopRunning caller hrunning =>
      have hphase : s.threadRunning = true ↔ s.worker ≠ .none := hphase
      exact ⟨hrunning, hphase.mp hrunning⟩
  | destroyIdle hrunning =>
      have hphase : s.threadRunning = true ↔ s.worker ≠ .none := hphase
      exact ⟨hrunning, by simpa [hrunning] using hphase⟩
  | _ => exact hphase

/-- A control call that moves on has seen `IsInitialized()` hold if the place it
reaches says so, and it neither is nor becomes one that closes the
connection. -/
theorem ControlGoto.seenInitialized {pc next : ControlPc} (h : ControlGoto s pc next) :
    (next.seenInitialized = true → s.isInitialized = true ∨ pc.seenInitialized = true) ∧
      next ≠ .initInitialized ∧ ∀ caller, pc ≠ .stopClose caller := by
  cases h <;> simp_all [ControlPc.seenInitialized]

/-- `Stop` returns when there is no worker and the connection is closed. -/
theorem ThreadFacts.stopReturns {caller : StopCaller} {code : HareError}
    (hnone : s.controls = []) (hrunning : s.threadRunning = false) (hworker : s.worker = .none)
    (hconnection : s.isInitialized = true → s.connection ≠ none)
    (hclosed : isConnected s = false) : ThreadFacts (stopReturns s caller code) := by
  have hreturned : CallFacts s none := by
    refine ⟨?_, hconnection, ?_, by simp, ?_⟩
    · show s.threadRunning = true ↔ s.worker ≠ .none
      simp [hrunning, hworker]
    · simp [hrunning, hworker]
    · simp [hclosed]
  obtain ⟨controls, notes, heq, hcontrols, -⟩ := stopReturns_frame s caller code
  rw [heq]
  rcases hcontrols with rfl | ⟨rfl, -⟩ | rfl
  · exact ⟨none, by simp [hnone], hreturned.of_same rfl rfl rfl rfl⟩
  · have hrestart : CallFacts s (some (.start true)) :=
      hreturned.moveOn (by simp) hreturned.phase (by rintro p ⟨⟩ ⟨⟩) (by simp)
    exact ⟨some (.start true), by simp [hnone], hrestart.of_same rfl rfl rfl rfl⟩
  · have hdestroy : CallFacts s (some .destroyClose) :=
      hreturned.moveOn (by simp) ⟨hrunning, hworker⟩ (by rintro p ⟨⟩ ⟨⟩) (by simp)
    exact ⟨some .destroyClose, by simp [hnone], hdestroy.of_same rfl rfl rfl rfl⟩

/-- A step of the only control call in flight. -/
theorem CallFacts.control {reply : AmqpRpcReply} {pc : ControlPc}
    (hfacts : CallFacts s (some pc)) (hnone : s.controls = [])
    (hmove : ControlMove s reply pc s') (hrunning : s'.status = .running) : ThreadFacts s' := by
  have hphase := hfacts.phase
  have hseen : pc.seenInitialized = true → s.isInitialized = true :=
    fun h => hfacts.initialized (.inr (.inr ⟨pc, rfl, h⟩))
  -- a call that is not about to close the connection finds it closed with the worker gone
  have hdown : (∀ caller, pc ≠ .stopClose caller) → s.worker = .none → isConnected s = false := by
    intro hplace hworker
    by_contra hup
    obtain ⟨caller, hstop⟩ := hfacts.closed hworker (by simpa using hup)
    exact hplace caller (Option.some.inj hstop)
  cases hmove with
  | goto _ next hnext =>
      obtain ⟨hnextSeen, hnextInit, hplace⟩ := hnext.seenInitialized
      have hmoved : CallFacts s (some next) := by
        refine hfacts.moveOn (by simpa using hplace) (hnext.phase hphase) ?_
          (by simpa using hnextInit)
        rintro p ⟨⟩ hp
        exact (hnextSeen hp).elim id hseen
      exact ⟨some next, by simp [goOn, hnone], hmoved.of_same rfl rfl rfl rfl⟩
  | startRefused restarting code hwhy =>
      have hmoved : CallFacts s none := hfacts.moveOn (by simp) hphase (by simp) (by simp)
      exact ⟨none, hnone, hmoved.of_same rfl rfl rfl rfl⟩
  | started restarting hinit hthread hworker =>
      refine ⟨none, hnone, ?_, hfacts.connection, fun _ => hinit, by simp, by rintro ⟨⟩⟩
      show true = true ↔ WorkerPc.loopTest ≠ .none
      simp
  | emptied caller =>
      have hmoved : CallFacts s (some (.stopInitialized caller)) :=
        hfacts.moveOn (by simp) hphase (by rintro p ⟨⟩ ⟨⟩) (by simp)
      exact ⟨some (.stopInitialized caller), by simp [goOn, hnone], hmoved.of_same rfl rfl rfl rfl⟩
  | stopRefused _ caller code hpc =>
      -- the flag or the missing initialisation says that there is no worker
      have halone : s.threadRunning = false ∧ s.worker = .none ∧
          ∀ caller, pc ≠ .stopClose caller := by
        rcases hpc with ⟨rfl, hinit, -⟩ | ⟨rfl, hthread, -⟩
        · have hworker : s.worker = .none := by
            by_contra hworker
            simp [hfacts.initialized (.inr (.inl hworker))] at hinit
          have hphase : s.threadRunning = true ↔ s.worker ≠ .none := hphase
          exact ⟨by simpa [hworker] using hphase, hworker, by simp⟩
        · have hphase : s.threadRunning = true ↔ s.worker ≠ .none := hphase
          exact ⟨hthread, by simpa [hthread] using hphase, by simp⟩
      obtain ⟨hthread, hworker, hplace⟩ := halone
      exact ThreadFacts.stopReturns hnone hthread hworker hfacts.connection (hdown hplace hworker)
  | stopSet caller =>
      have hphase : s.threadRunning = true ∧ s.worker ≠ .none := hphase
      exact ⟨some (.stopJoin caller), by simp [goOn, hnone], ⟨rfl, hphase.2⟩, hfacts.connection,
        fun _ => hseen rfl, by simp, fun h => absurd h hphase.2⟩
  | joined caller hworker =>
      have hphase : s.threadRunning = false ∧ s.worker ≠ .none := hphase
      exact ⟨some (.stopClose caller), by simp [goOn, hnone], ⟨hphase.1, rfl⟩, hfacts.connection,
        fun _ => hseen rfl, by simp, fun _ _ => ⟨caller, rfl⟩⟩
  | stopped caller base hbase =>
      have hphase : s.threadRunning = false ∧ s.worker = .none := hphase
      exact ThreadFacts.stopReturns hnone hphase.1 hphase.2 (by simp)
        (closeConnection_isConnected base reply)
  | initConnection credentials =>
      have hphase : s.threadRunning = false ∧ s.worker = .none := hphase
      refine ⟨some .initInitialized, by simp [goOn, hnone], hphase, by simp [goOn], ?_,
        by simp [goOn], by rintro - ⟨⟩⟩
      simp [goOn, hphase, ControlPc.seenInitialized]
  | initInitialized =>
      have hphase : s.threadRunning = false ∧ s.worker = .none := hphase
      refine ⟨some .initRunning, by simp [goOn, hnone], hphase, fun _ => hfacts.assigned rfl,
        fun _ => rfl, by simp, ?_⟩
      intro hworker hup
      have hup : isConnected s = true := hup
      rw [hdown (by simp) hworker] at hup
      cases hup
  | initRunning =>
      have hphase : s.threadRunning = false ∧ s.worker = .none := hphase
      have hmoved : CallFacts s none := by
        refine hfacts.moveOn (by simp) ?_ (by simp) (by simp)
        show s.threadRunning = true ↔ s.worker ≠ .none
        simp [hphase]
      exact ⟨none, hnone, hmoved.of_same rfl rfl hphase.1.symm rfl⟩
  | destroyClosed base hinit hbase =>
      have hphase : s.threadRunning = false ∧ s.worker = .none := hphase
      refine ⟨some .destroyMembers, by simp [goOn, hnone], hphase, by simp [goOn], ?_,
        by simp, ?_⟩
      · simp [goOn, hphase, ControlPc.seenInitialized]
      · intro _ hup
        have hup : (base.closeConnection reply).base.isConnected = true := hup
        simp at hup
  | destroyed hworker => cases hrunning
  | crash => cases hrunning

/-- A control call that takes a step is the only one in flight. -/
theorem ThreadFacts.picked (hfacts : ThreadFacts s) {k : Nat} {pc : ControlPc}
    {rest : List ControlPc} (hpick : pick s.controls k = some (pc, rest)) :
    rest = [] ∧ CallFacts { s with controls := rest } (some pc) := by
  obtain ⟨pc', hpc', hcall⟩ := hfacts
  have hmem := mem_of_pick hpick
  have hperm := perm_of_pick hpick
  rw [hpc'] at hmem hperm
  obtain rfl : pc' = some pc := by simpa using hmem
  exact ⟨by simpa using hperm.length_eq, hcall.of_same rfl rfl rfl rfl⟩

/-- The thread facts hold while a run with one control thread goes on. -/
theorem threadFacts_reachable (hs : system.ReachableUnder OneControl s) :
    s.status = .running → ThreadFacts s := by
  refine hs.induction (fun s => s.status = .running → ThreadFacts s) ?_ ?_
  · intro _
    exact ⟨none, rfl, by simp [PhaseFacts, phaseOf, system, initial], by simp [system, initial],
      by simp [system, initial], by simp, by simp [system, initial, isConnected]⟩
  · intro s action s' _ hone hfacts hstep hrunning
    obtain ⟨hstatus, hmove⟩ := move_of_step hstep
    have hfacts := hfacts hstatus
    cases hmove with
    | worker input _ hmove => exact hfacts.worker hmove
    | subscribeRefused => exact hfacts.user ⟨rfl, rfl, rfl, rfl, rfl, rfl, rfl⟩
    | subscribeBegins => exact hfacts.user ⟨rfl, rfl, rfl, rfl, rfl, rfl, rfl⟩
    | subscribe k pc rest _ hpick hmove =>
        have hsame : ThreadFacts { s with subscribes := rest } :=
          hfacts.user ⟨rfl, rfl, rfl, rfl, rfl, rfl, rfl⟩
        exact hsame.user hmove.frame
    | begin call => exact hfacts.begin call hone
    | control k reply pc rest _ hpick _ hmove =>
        obtain ⟨rfl, hcall⟩ := hfacts.picked hpick
        exact hcall.control rfl hmove hrunning

/-! ### What a control step can do to a worker -/

/-- A control step starts a worker where there is none, joins one that has
returned, and leaves it alone otherwise. -/
theorem ControlMove.worker {reply : AmqpRpcReply} {pc : ControlPc}
    (hmove : ControlMove s reply pc s') :
    s'.worker = s.worker ∨ (s.worker = .none ∧ s'.worker = .loopTest) ∨
      (s.worker = .returned ∧ s'.worker = .none) := by
  cases hmove with
  | started restarting hinit hthread hworker => exact .inr (.inl ⟨hworker, rfl⟩)
  | joined caller hworker => exact .inr (.inr ⟨hworker, rfl⟩)
  | stopRefused | stopped => exact .inl (by simp)
  | _ => exact .inl rfl

/-- While the worker is alive, the control thread does not use the connection. -/
theorem CallFacts.control_alone {reply : AmqpRpcReply} {pc : ControlPc}
    (hfacts : CallFacts s (some pc)) (hmove : ControlMove s reply pc s')
    (halive : s.worker ≠ .none) : s'.connection = s.connection ∧ s'.calls = s.calls := by
  have hphase := hfacts.phase
  cases hmove with
  | stopRefused => simp
  | stopped | initConnection | destroyClosed => exact absurd hphase.2 halive
  | destroyed hworker => exact absurd hworker halive
  | _ => exact ⟨rfl, rfl⟩

end Consumer
end HareCpp
