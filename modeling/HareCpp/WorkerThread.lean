import HareCpp.Library.ThreadHandle
import HareCpp.Producer.Publishing
import HareCpp.Consumer.Session

/-!
# The handle of the worker thread

`m_producerThread` and `m_consumerThread` are assigned to by `Start`, joined by
`Stop` and destroyed with the object.  Whether they are joinable is known to
these only from `m_threadRunning`, and `Initialize` clears that flag whatever
the worker does.

The systems are run with a record of what happens to the handle.

* `thread_handle_well_used` — with calls made one after another, and
  `Initialize` only while there is no worker, the handle is never assigned to or
  destroyed while it is joinable, and at most one worker is alive.
* `initialize_forgets_worker` — an `Initialize` of a running object is followed
  by the end of the program, at the next `Start` or at the destruction.
-/

namespace HareCpp

open Library TransitionSystem ConnectionBase

namespace Producer

/-- What the handle refers to. -/
def WorkerPc.handle : WorkerPc → HandleState := HandleState.atPoint .none .returned

/-- What a step of a control call does to the handle. -/
def ControlPc.threadEvent : ControlPc → Option ThreadEvent
  | .startSpawn _ => some .assigned
  | .stopJoin _ => some .joined
  | .destroyMembers => some .destroyed
  | _ => none

/-- What a step does to the handle. -/
def threadEvent (s : ProducerState) : Action → Option ThreadEvent
  | .worker _ => if s.worker = .loopTest ∧ s.threadRunning = false then some .finished else none
  | .control k _ => (pick s.controls k).bind fun picked => picked.1.threadEvent
  | _ => none

/-- The record of the handle. -/
def threadEvents (s : ProducerState) (action : Action) : List ThreadEvent :=
  (threadEvent s action).toList

/-- Calls made one after another. -/
def Sequential (s : ProducerState) : Action → Prop
  | .begin _ => s.controls = []
  | _ => True

instance (s : ProducerState) : (action : Action) → Decidable (Sequential s action)
  | .begin _ => inferInstanceAs (Decidable (_ = _))
  | .worker _ | .declareExchange .. | .send _ | .sendPush _ | .control .. =>
      inferInstanceAs (Decidable True)

variable {s s' : ProducerState}

/-- What a control call finds when it comes to the handle. -/
structure HandleReady (s : ProducerState) (pc : ControlPc) : Prop where
  spawn : ∀ restarting, pc = .startSpawn restarting → s.worker = .none
  join : ∀ caller, pc = .stopJoin caller → s.worker ≠ .none
  destroy : pc = .destroyMembers → s.worker = .none

/-- The other control steps leave the worker alone. -/
theorem ControlMove.worker_eq {input : ControlInput} {pc : ControlPc}
    (hmove : ControlMove s input pc s') (hpc : pc.threadEvent = none) : s'.worker = s.worker := by
  cases hmove with
  | spawn | joined | destroyed => cases hpc
  | _ => rfl

/-- A control step does to the handle what its state allows. -/
theorem controlStep_handle {input : ControlInput} {pc : ControlPc} (hready : HandleReady s pc)
    (hstep : controlStep s input pc = some s') :
    (∀ event ∈ pc.threadEvent, s.worker.handle.Allows event) ∧
      (s'.status = .running →
        s'.worker.handle = pc.threadEvent.elim s.worker.handle s.worker.handle.after) := by
  cases hpc : pc.threadEvent with
  | none =>
      refine ⟨by simp, fun _ => ?_⟩
      rw [(controlMove_of_step hstep).worker_eq hpc]
      rfl
  | some event =>
      cases pc with
      | startSpawn restarting =>
          have hworker := hready.spawn restarting rfl
          cases hpc
          simp only [controlStep, hworker, if_true] at hstep
          cases hstep
          refine ⟨?_, fun _ => rfl⟩
          simp [hworker, WorkerPc.handle, HandleState.atPoint, HandleState.Allows]
      | stopJoin caller =>
          have hworker := hready.join caller rfl
          cases hpc
          simp only [controlStep] at hstep
          split at hstep
          · next hnone => exact absurd hnone hworker
          · next hreturned =>
              cases hstep
              refine ⟨?_, fun _ => rfl⟩
              simp [hreturned, WorkerPc.handle, HandleState.atPoint, HandleState.Allows]
          · cases hstep
      | destroyMembers =>
          have hworker := hready.destroy rfl
          cases hpc
          simp only [controlStep, hworker, if_true] at hstep
          cases hstep
          constructor
          · simp [hworker, WorkerPc.handle, HandleState.atPoint, HandleState.Allows]
          · rintro ⟨⟩
      | _ => cases hpc

/-- `thread` returns at the test of its loop only. -/
theorem WorkerMove.returns {input : WorkerInput} (hmove : WorkerMove s input s')
    (hreturned : s'.worker = .returned) : s.worker = .loopTest ∨ s.worker = .returned := by
  cases hmove with
  | goto next hnext =>
      cases hnext with
      | loopEnd hpc => exact .inl hpc
      | clearEmpty caller => cases caller <;> cases hreturned
      | _ => cases hreturned
  | crash => exact .inr hreturned
  | published base object next hpc hbase hnext =>
      rcases hnext with ⟨-, rfl⟩ | ⟨-, rfl⟩ | ⟨-, -, rfl⟩ <;> cases hreturned
  | _ => cases hreturned

/-- The test of the loop ends `thread` when `m_threadRunning` is cleared, and nothing
comes after that. -/
theorem workerStep_returned {input : WorkerInput} (hstep : workerStep s input = some s') :
    s.worker ≠ .returned ∧
      (s.worker = .loopTest → (s'.worker = .returned ↔ s.threadRunning = false)) := by
  constructor
  · intro hreturned
    rw [workerStep, hreturned] at hstep
    cases hstep
  · intro hloop
    rw [workerStep, hloop] at hstep
    cases hstep
    cases hrunning : s.threadRunning <;> simp

/-- A step of the system does to the handle what its state allows. -/
theorem step_handle {action : Action} (hready : ∀ pc ∈ s.controls, HandleReady s pc)
    (hstep : step s action = some s') :
    (∀ event ∈ threadEvent s action, s.worker.handle.Allows event) ∧
      (s'.status = .running →
        s'.worker.handle = (threadEvent s action).elim s.worker.handle s.worker.handle.after) := by
  obtain ⟨hstatus, hmove⟩ := move_of_step hstep
  cases hmove with
  | worker input _ hmove =>
      have hworker : workerStep s input = some s' := by
        rwa [step, if_pos hstatus] at hstep
      obtain ⟨hbefore, hafter⟩ := hmove.alive
      obtain ⟨hnot, htest⟩ := workerStep_returned hworker
      have hhandle := HandleState.atPoint_step hbefore hnot hafter hmove.returns htest
      exact ⟨hhandle.1, fun _ => hhandle.2⟩
  | user _ _ hmove =>
      have hnone : threadEvent s action = none := by cases hmove <;> rfl
      rw [hnone, hmove.frame.worker]
      exact ⟨by simp, fun _ => rfl⟩
  | begin call => exact ⟨by simp [threadEvent], fun _ => rfl⟩
  | control k input pc rest _ hpick hmove =>
      have hcontrol : controlStep { s with controls := rest } input pc = some s' := by
        rw [step, if_pos hstatus] at hstep
        simpa only [hpick] using hstep
      obtain ⟨hspawn, hjoin, hdestroy⟩ := hready pc (mem_of_pick hpick)
      have hevent : threadEvent s (.control k input) = pc.threadEvent := by
        rw [threadEvent, hpick]
        rfl
      rw [hevent]
      have hready' : HandleReady { s with controls := rest } pc := ⟨hspawn, hjoin, hdestroy⟩
      have hhandle := controlStep_handle hready' hcontrol
      exact hhandle

/-- With one control thread a call finds the handle as it needs it. -/
theorem ThreadFacts.handleReady (hfacts : ThreadFacts s) :
    ∀ pc ∈ s.controls, HandleReady s pc := by
  intro pc hpc
  have hphase := hfacts.phase
  rw [hfacts.eq_singleton hpc] at hphase
  refine ⟨?_, ?_, ?_⟩
  · rintro restarting rfl
    exact hphase.2
  · rintro caller rfl
    exact hphase.2
  · rintro rfl
    exact hphase.2

/-- The handle in the runs in which every call finds it as it needs it. -/
theorem handleHistory_recorded {allowed : ProducerState → Action → Prop}
    (hready : ∀ {t}, system.ReachableUnder allowed t → t.status = .running →
      ∀ pc ∈ t.controls, HandleReady t pc) {s : ProducerState × List ThreadEvent}
    (hs : (system.recording threadEvents).ReachableUnder (fun s => allowed s.1) s) :
    HandleHistory s.2 (s.1.status = .running) s.1.worker.handle := by
  refine handleHistory (fun t => t.status = .running) (fun t => t.worker.handle) rfl ?_ hs
  intro t action t' hreach hstep
  have hstatus := (move_of_step hstep).1
  exact ⟨hstatus, step_handle (hready hreach hstatus) hstep⟩

end Producer

namespace Consumer

variable {Callback : Type} {s s' : ConsumerState Callback}

/-- What the handle refers to. -/
def WorkerPc.handle : WorkerPc → HandleState := HandleState.atPoint .none .returned

/-- What a step of a control call does to the handle. -/
def controlEvent (s : ConsumerState Callback) : ControlPc → Option ThreadEvent
  | .start _ =>
      if s.isInitialized = true ∧ s.threadRunning = false then some .assigned else none
  | .stopJoin _ => some .joined
  | .destroyMembers => some .destroyed
  | _ => none

/-- What a step does to the handle. -/
def threadEvent (s : ConsumerState Callback) : Action Callback → Option ThreadEvent
  | .worker _ => if s.worker = .loopTest ∧ s.threadRunning = false then some .finished else none
  | .control k _ => (pick s.controls k).bind fun picked => controlEvent s picked.1
  | _ => none

/-- The record of the handle. -/
def threadEvents (s : ConsumerState Callback) (action : Action Callback) : List ThreadEvent :=
  (threadEvent s action).toList

/-- Calls made one after another. -/
def Sequential (s : ConsumerState Callback) : Action Callback → Prop
  | .begin _ => s.controls = []
  | _ => True

instance (s : ConsumerState Callback) :
    (action : Action Callback) → Decidable (Sequential s action)
  | .begin _ => inferInstanceAs (Decidable (_ = _))
  | .worker _ | .subscribe _ | .subscribeStep _ | .control .. => inferInstanceAs (Decidable True)

/-- What a control call finds when it comes to the handle. -/
structure HandleReady (s : ConsumerState Callback) (pc : ControlPc) : Prop where
  start : ∀ restarting, pc = .start restarting → s.threadRunning = false → s.worker = .none
  join : ∀ caller, pc = .stopJoin caller → s.worker ≠ .none
  destroy : pc = .destroyMembers → s.worker = .none

/-- The other control steps leave the worker alone. -/
theorem ControlMove.worker_eq {reply : AmqpRpcReply} {pc : ControlPc}
    (hmove : ControlMove s reply pc s') (hpc : controlEvent s pc = none) :
    s'.worker = s.worker := by
  cases hmove with
  | started restarting hinit hrunning hworker => simp [controlEvent, hinit, hrunning] at hpc
  | joined | destroyed => cases hpc
  | stopRefused | stopped => simp
  | _ => rfl

/-- A control step does to the handle what its state allows. -/
theorem controlStep_handle {reply : AmqpRpcReply} {pc : ControlPc} (hready : HandleReady s pc)
    (hstep : controlStep s reply pc = some s') :
    (∀ event ∈ controlEvent s pc, s.worker.handle.Allows event) ∧
      (s'.status = .running →
        s'.worker.handle = (controlEvent s pc).elim s.worker.handle s.worker.handle.after) := by
  cases hpc : controlEvent s pc with
  | none =>
      refine ⟨by simp, fun _ => ?_⟩
      rw [(controlMove_of_step hstep).worker_eq hpc]
      rfl
  | some event =>
      cases pc with
      | start restarting =>
          by_cases hboth : s.isInitialized = true ∧ s.threadRunning = false
          · obtain ⟨hinit, hrunning⟩ := hboth
            have hworker := hready.start restarting rfl hrunning
            rw [controlEvent, if_pos ⟨hinit, hrunning⟩] at hpc
            cases hpc
            simp [controlStep, hworker, hinit, hrunning] at hstep
            cases hstep
            refine ⟨?_, fun _ => rfl⟩
            simp [hworker, WorkerPc.handle, HandleState.atPoint, HandleState.Allows]
          · rw [controlEvent, if_neg hboth] at hpc
            cases hpc
      | stopJoin caller =>
          have hworker := hready.join caller rfl
          cases hpc
          simp only [controlStep] at hstep
          split at hstep
          · next hnone => exact absurd hnone hworker
          · next hreturned =>
              cases hstep
              refine ⟨?_, fun _ => rfl⟩
              simp [hreturned, WorkerPc.handle, HandleState.atPoint, HandleState.Allows]
          · cases hstep
      | destroyMembers =>
          have hworker := hready.destroy rfl
          cases hpc
          simp only [controlStep, hworker, if_true] at hstep
          cases hstep
          constructor
          · simp [hworker, WorkerPc.handle, HandleState.atPoint, HandleState.Allows]
          · rintro ⟨⟩
      | _ => cases hpc

/-- `thread` returns at the test of its loop only. -/
theorem WorkerMove.returns {input : WorkerInput} (hmove : WorkerMove s input s')
    (hreturned : s'.worker = .returned) : s.worker = .loopTest ∨ s.worker = .returned := by
  obtain rfl | ⟨next, hnext, hlist, rfl⟩ := hmove.toTested (by rw [hreturned]; rfl)
  · exact .inr hreturned
  · cases hnext with
    | loopEnd hpc => exact .inl hpc
    | listed hpc => exact absurd hpc hlist
    | _ => cases hreturned

/-- The test of the loop ends `thread` when `m_threadRunning` is cleared, and nothing
comes after that. -/
theorem workerStep_returned {input : WorkerInput} (hstep : workerStep s input = some s') :
    s.worker ≠ .returned ∧
      (s.worker = .loopTest → (s'.worker = .returned ↔ s.threadRunning = false)) := by
  constructor
  · intro hreturned
    rw [workerStep, hreturned] at hstep
    cases hstep
  · intro hloop
    rw [workerStep, hloop] at hstep
    cases hstep
    cases hrunning : s.threadRunning <;> simp

/-- A step of the system does to the handle what its state allows. -/
theorem step_handle {action : Action Callback} (hready : ∀ pc ∈ s.controls, HandleReady s pc)
    (hstep : step s action = some s') :
    (∀ event ∈ threadEvent s action, s.worker.handle.Allows event) ∧
      (s'.status = .running →
        s'.worker.handle = (threadEvent s action).elim s.worker.handle s.worker.handle.after) := by
  obtain ⟨hstatus, hmove⟩ := move_of_step hstep
  cases hmove with
  | worker input _ hmove =>
      have hworker : workerStep s input = some s' := by
        rwa [step, if_pos hstatus] at hstep
      obtain ⟨hbefore, hafter⟩ := hmove.alive
      obtain ⟨hnot, htest⟩ := workerStep_returned hworker
      have hhandle := HandleState.atPoint_step hbefore hnot hafter hmove.returns htest
      exact ⟨hhandle.1, fun _ => hhandle.2⟩
  | subscribeRefused | subscribeBegins | begin => exact ⟨by simp [threadEvent], fun _ => rfl⟩
  | subscribe k pc rest _ hpick hmove =>
      rw [hmove.frame.worker]
      exact ⟨by simp [threadEvent], fun _ => rfl⟩
  | control k reply pc rest _ hpick hfree hmove =>
      have hcontrol : controlStep { s with controls := rest } reply pc = some s' := by
        rw [step, if_pos hstatus] at hstep
        simp only [hpick] at hstep
        split at hstep
        · cases hstep
        · exact hstep
      obtain ⟨hstart, hjoin, hdestroy⟩ := hready pc (mem_of_pick hpick)
      have hevent : threadEvent s (.control k reply) =
          controlEvent { s with controls := rest } pc := by
        rw [threadEvent, hpick]
        cases pc <;> rfl
      rw [hevent]
      have hready' : HandleReady { s with controls := rest } pc := ⟨hstart, hjoin, hdestroy⟩
      have hhandle := controlStep_handle hready' hcontrol
      exact hhandle

/-- With one control thread a call finds the handle as it needs it. -/
theorem ThreadFacts.handleReady (hfacts : ThreadFacts s) :
    ∀ pc ∈ s.controls, HandleReady s pc := by
  intro pc hpc
  obtain ⟨only, honly, hcall⟩ := hfacts
  rw [honly] at hpc
  obtain rfl : only = some pc := by simpa using hpc
  have hphase := hcall.phase
  refine ⟨?_, ?_, ?_⟩
  · rintro restarting rfl hrunning
    have hphase : s.threadRunning = true ↔ s.worker ≠ .none := hphase
    simpa [hrunning] using hphase
  · rintro caller rfl
    exact hphase.2
  · rintro rfl
    exact hphase.2

/-- The handle in the runs in which every call finds it as it needs it. -/
theorem handleHistory_recorded {allowed : ConsumerState Callback → Action Callback → Prop}
    (hready : ∀ {t}, system.ReachableUnder allowed t → t.status = .running →
      ∀ pc ∈ t.controls, HandleReady t pc) {s : ConsumerState Callback × List ThreadEvent}
    (hs : (system.recording threadEvents).ReachableUnder (fun s => allowed s.1) s) :
    HandleHistory s.2 (s.1.status = .running) s.1.worker.handle := by
  refine handleHistory (fun t => t.status = .running) (fun t => t.worker.handle) rfl ?_ hs
  intro t action t' hreach hstep
  have hstatus := (move_of_step hstep).1
  exact ⟨hstatus, step_handle (hready hreach hstatus) hstep⟩

end Consumer

/-- With calls made one after another, and `Initialize` only while there is no
worker, the handle of the worker thread is never assigned to or destroyed while
it is joinable, and at most one worker is alive. -/
theorem thread_handle_well_used (Callback : Type) :
    (∀ s : ProducerState × List ThreadEvent,
      (Producer.system.recording Producer.threadEvents).ReachableUnder
        (fun s => Producer.OneControl s.1) s → Guarded WellUsed s.2 ∧ alive s.2 ≤ 1) ∧
    ∀ s : ConsumerState Callback × List ThreadEvent,
      (Consumer.system.recording Consumer.threadEvents).ReachableUnder
        (fun s => Consumer.OneControl s.1) s → Guarded WellUsed s.2 ∧ alive s.2 ≤ 1 := by
  constructor
  · intro s hs
    have hused := (Producer.handleHistory_recorded
      (fun ht hstatus => (Producer.threadFacts_reachable ht hstatus).handleReady) hs).guarded
    exact ⟨hused, alive_le_one hused⟩
  · intro s hs
    have hused := (Consumer.handleHistory_recorded
      (fun ht hstatus => (Consumer.threadFacts_reachable ht hstatus).handleReady) hs).guarded
    exact ⟨hused, alive_le_one hused⟩

/-- A producer and a consumer that were restarted and destroyed. -/
theorem thread_handle_well_used_run :
    (∃ s : ProducerState × List ThreadEvent,
      ((Producer.system.recording Producer.threadEvents).ReachableUnder
          (fun s => Producer.OneControl s.1) s ∧
        s.2 = [.destroyed, .joined, .finished, .assigned, .joined, .finished, .assigned]) ∧
      Guarded WellUsed s.2 ∧ alive s.2 ≤ 1) ∧
    ∃ s : ConsumerState Nat × List ThreadEvent,
      ((Consumer.system.recording Consumer.threadEvents).ReachableUnder
          (fun s => Consumer.OneControl s.1) s ∧
        s.2 = [.destroyed, .joined, .finished, .assigned, .joined, .finished, .assigned]) ∧
      Guarded WellUsed s.2 ∧ alive s.2 ≤ 1 := by
  constructor
  · obtain ⟨s, hs, htest⟩ := exists_reachableUnder_of_run
      (M := Producer.system.recording Producer.threadEvents) (fun s => Producer.OneControl s.1)
      (List.flatten [Producer.startUp, .begin .restart :: List.replicate 4 (.control 0 {}),
        .worker {} :: List.replicate 8 (.control 0 {}),
        .begin .destroy :: List.replicate 5 (.control 0 {}),
        .worker {} :: List.replicate 7 (.control 0 {})])
      (fun s => decide (s.2 =
        [.destroyed, .joined, .finished, .assigned, .joined, .finished, .assigned]))
      (by decide +kernel)
    exact ⟨s, ⟨hs, of_decide_eq_true htest⟩, (thread_handle_well_used Nat).1 s hs⟩
  · obtain ⟨s, hs, htest⟩ := exists_reachableUnder_of_run
      (M := Consumer.system.recording Consumer.threadEvents) (fun s => Consumer.OneControl s.1)
      (List.flatten [Consumer.startUp, .begin .restart :: List.replicate 4 (.control 0 .normal),
        .worker {} :: List.replicate 3 (.control 0 .normal),
        .begin .destroy :: List.replicate 5 (.control 0 .normal),
        .worker {} :: List.replicate 4 (.control 0 .normal)])
      (fun s => decide (s.2 =
        [.destroyed, .joined, .finished, .assigned, .joined, .finished, .assigned]))
      (by decide +kernel)
    exact ⟨s, ⟨hs, of_decide_eq_true htest⟩, (thread_handle_well_used Nat).2 s hs⟩

/-- An `Initialize` of a running object makes the next `Start` assign to a joinable
handle, and the destructor destroy one. -/
theorem initialize_forgets_worker :
    (∃ s : ProducerState × List ThreadEvent,
      (Producer.system.recording Producer.threadEvents).ReachableUnder
        (fun s => Producer.Sequential s.1) s ∧
      s.1.status = .undefined ∧ s.2 = [.assigned, .assigned] ∧ ¬Guarded WellUsed s.2) ∧
    ∃ s : ConsumerState Nat × List ThreadEvent,
      (Consumer.system.recording Consumer.threadEvents).ReachableUnder
        (fun s => Consumer.Sequential s.1) s ∧
      s.1.status = .undefined ∧ s.2 = [.destroyed, .assigned] ∧ ¬Guarded WellUsed s.2 := by
  constructor
  · obtain ⟨s, hs, htest⟩ := exists_reachableUnder_of_run
      (M := Producer.system.recording Producer.threadEvents) (fun s => Producer.Sequential s.1)
      (List.flatten [Producer.startUp, Producer.startUp])
      (fun s => decide (s.1.status = .undefined ∧ s.2 = [.assigned, .assigned] ∧
        ¬Guarded WellUsed s.2)) (by decide +kernel)
    exact ⟨s, hs, of_decide_eq_true htest⟩
  · obtain ⟨s, hs, htest⟩ := exists_reachableUnder_of_run
      (M := Consumer.system.recording Consumer.threadEvents) (fun s => Consumer.Sequential s.1)
      (List.flatten [Consumer.startUp,
        .begin (.initializeWith {}) :: List.replicate 3 (.control 0 .normal),
        .begin .destroy :: List.replicate 3 (.control 0 .normal)])
      (fun s => decide (s.1.status = .undefined ∧ s.2 = [.destroyed, .assigned] ∧
        ¬Guarded WellUsed s.2)) (by decide +kernel)
    exact ⟨s, hs, of_decide_eq_true htest⟩

end HareCpp
