import HareCpp.Library.Interleaving
import HareCpp.Consumer.Locks

/-!
# The threads of a consumer do not block each other

The lock events of whole threads, put together from those of single steps.  The
worker takes its mutexes in both orders: `startConsumption` asks for
`m_handlerMutex` under `m_consumerMutex`, and a callback that calls `IsRunning`
asks for `m_consumerMutex` under `m_handlerMutex`, which `Process` holds.  That is
no deadlock, as there is one worker at a time and no other thread asks for a mutex
while it holds one.

* `disciplined_workerCode` — between two places at which it holds nothing, the worker
  gives back what it takes and never asks for what it holds.
* `flat_userLocks` — the other threads hold one mutex at a time.
* `threads_finish` — the worker and any number of other threads all get through their
  lock events, whichever goes next.
-/

namespace HareCpp
namespace Consumer

open Library

variable {Callback : Type} {s s' : ConsumerState Callback}

/-! ### The worker -/

/-- A step of the worker: the state it finds, what comes from outside, and how often
the callback, if `Process` runs one, calls `IsRunning` or `IsInitialized`. -/
structure WorkerPiece (Callback : Type) where
  found : ConsumerState Callback
  input : WorkerInput
  queries : ℕ

/-- The lock events of a step of the worker, those of the callback among them. -/
def WorkerPiece.locks (piece : WorkerPiece Callback) : List (LockEvent Mutex) :=
  if runsCallback piece.found then
    scope .handler ((List.replicate piece.queries ()).flatMap fun _ => locked .consumer)
  else workerLocks piece.found piece.input

/-- Steps that follow each other in one worker, from `pc` to a place at which it holds
nothing.  Between two steps the other threads may change anything but the place of
the worker. -/
def workerCode : WorkerPc → List (WorkerPiece Callback) → Bool
  | pc, [] => (heldBy pc).isEmpty
  | pc, piece :: rest =>
      decide (piece.found.worker = pc) &&
        match workerStep piece.found piece.input with
        | none => false
        | some after => decide (after.status = .running) && workerCode after.worker rest

/-- A callback asks for `m_consumerMutex` under `m_handlerMutex`, as often as it
likes. -/
theorem disciplined_process (queries : ℕ) :
    Disciplined [] (scope .handler
      ((List.replicate queries ()).flatMap fun _ => locked Mutex.consumer)) [] := by
  refine .scope (by simp) ?_
  induction queries with
  | zero => exact .nil _
  | succ n ih =>
      rw [List.replicate_succ, List.flatMap_cons]
      exact (disciplined_locked (by decide)).append ih

/-- The code of a step leaves the worker with what it holds at its next place. -/
theorem disciplined_piece {piece : WorkerPiece Callback}
    (hstep : workerStep piece.found piece.input = some s') (hstatus : s'.status = .running) :
    Disciplined (heldBy piece.found.worker) piece.locks (heldBy s'.worker) := by
  have hmove := workerMove_of_step hstep
  have hplain := disciplined_workerLocks piece.found piece.input
  rw [hmove.heldNext hstatus] at hplain
  unfold WorkerPiece.locks
  split
  · next hruns =>
      -- `Process` is called with no mutex held, and so is what follows
      unfold runsCallback at hruns
      split at hruns
      · next envelope hpc =>
          have hheld : heldBy s'.worker = [] := by
            rw [← hmove.heldNext hstatus, heldNext, hpc]
          rw [hheld, hpc]
          exact disciplined_process piece.queries
      · cases hruns
  · exact hplain

/-- From a place to one at which it holds nothing, the worker gives back what it takes
and never asks for what it holds. -/
theorem disciplined_workerCode {pc : WorkerPc} {pieces : List (WorkerPiece Callback)}
    (hcode : workerCode pc pieces = true) :
    Disciplined (heldBy pc) (pieces.flatMap WorkerPiece.locks) [] := by
  induction pieces generalizing pc with
  | nil =>
      rw [List.isEmpty_iff.mp hcode]
      exact .nil []
  | cons piece rest ih =>
      rw [workerCode, Bool.and_eq_true, decide_eq_true_eq] at hcode
      obtain ⟨rfl, hcode⟩ := hcode
      split at hcode
      · cases hcode
      · next after hstep =>
          rw [Bool.and_eq_true, decide_eq_true_eq] at hcode
          rw [List.flatMap_cons]
          exact (disciplined_piece hstep hcode.1).append (ih hcode.2)

/-! ### The other threads -/

/-- A piece of the code of another thread: a step, or `IsRunning` or
`IsInitialized`. -/
inductive UserPiece (Callback : Type)
  | step (found : ConsumerState Callback) (action : Action Callback)
  | query

def UserPiece.locks : UserPiece Callback → List (LockEvent Mutex)
  | .step found action => userLocks found action
  | .query => locked .consumer

theorem flat_locked (mutex : Mutex) : Ranked (fun _ => 0) [] (locked mutex) [] :=
  .scope (by simp) (.nil _ _)

theorem flat_ifConnected (s : ConsumerState Callback) :
    Ranked (fun _ => 0) [] (ifConnected s) [] := by
  unfold ifConnected
  split
  · exact flat_locked .conn
  · exact .nil _ _

/-- The other threads hold one mutex at a time. -/
theorem flat_userLocks (piece : UserPiece Callback) :
    Ranked (fun _ => 0) [] piece.locks [] := by
  cases piece with
  | query => exact flat_locked .consumer
  | step found action =>
      cases action with
      | worker | begin => exact .nil _ _
      | subscribe => exact flat_locked .consumer
      | subscribeStep k =>
          show Ranked _ [] ((found.subscribes[k]?).elim [] SubscribePc.locks) []
          cases found.subscribes[k]? with
          | none => exact .nil _ _
          | some pc => cases pc <;> exact flat_locked _
      | control k reply =>
          show Ranked _ [] ((found.controls[k]?).elim [] (controlLocks found)) []
          cases found.controls[k]? with
          | none => exact .nil _ _
          | some pc =>
              cases pc with
              | start | stopInitialized | stopRunning | stopSet | stopEmpty => exact flat_locked _
              | stopClose | initConnection | destroyClose | destroyMembers =>
                  exact flat_ifConnected found
              | stopJoin | initInitialized | initRunning | destroyRunning => exact .nil _ _

/-! ### All of them together -/

variable {ι : Type} [DecidableEq ι] [Fintype ι]

/-- The lock events of the worker, and of the thread `i`. -/
def threadLocks (workers : List (List (WorkerPiece Callback)))
    (users : ι → List (UserPiece Callback)) : Option ι → List (LockEvent Mutex)
  | none => workers.flatMap fun pieces => pieces.flatMap WorkerPiece.locks
  | some i => (users i).flatMap UserPiece.locks

/-- Workers that run one after the other, each from the head of the loop to a place
where it holds nothing. -/
theorem disciplined_workers {workers : List (List (WorkerPiece Callback))}
    (hworkers : ∀ pieces ∈ workers, workerCode .loopTest pieces = true) :
    Disciplined [] (workers.flatMap fun pieces => pieces.flatMap WorkerPiece.locks) [] := by
  induction workers with
  | nil => exact .nil []
  | cons pieces rest ih =>
      rw [List.flatMap_cons]
      refine (disciplined_workerCode (hworkers pieces List.mem_cons_self)).append ?_
      exact ih fun other hother => hworkers other (.tail _ hother)

/-- One worker at a time and any number of other threads use a consumer, the workers
each from the head of the loop to a place where it holds nothing, with callbacks that
call `IsRunning` and `IsInitialized`; the others through any calls of the API.
Whichever thread takes the next lock event, there is always one that can go on,
until all are at their end. -/
theorem threads_finish {workers : List (List (WorkerPiece Callback))}
    (hworkers : ∀ pieces ∈ workers, workerCode .loopTest pieces = true)
    (users : ι → List (UserPiece Callback)) : AllFinish (threadLocks workers users) := by
  have hlead : Disciplined [] (threadLocks workers users none) [] := disciplined_workers hworkers
  refine finish_of_one_nests hlead ?_
  intro thread hthread
  cases thread with
  | none => exact absurd rfl hthread
  | some i => exact .flatMap fun piece _ => flat_userLocks piece

/-- The steps of a worker that goes on alone. -/
def piecesFrom (queries : ℕ) : ConsumerState Callback → List WorkerInput →
    List (WorkerPiece Callback)
  | _, [] => []
  | s, input :: rest =>
      ⟨s, input, queries⟩ ::
        (workerStep s input).elim [] fun after => piecesFrom queries after rest

/-- The answers to a worker that connects, sets up channel 1, and gets a message. -/
def setUpAndProcess : List WorkerInput :=
  [{}, {}, {}, {}, { order := [1] }, {}, {}, {}, {}, {}, {}, {},
    { envelope := { channel := 1, exchange := [101], routingKey := [97] } }, {}]

/-- A worker that takes `m_handlerMutex` under `m_consumerMutex` and the other way
round, with two threads beside it. -/
theorem threads_finish_run :
    ∃ s : ConsumerState Nat, system.ReachableUnder OneControl s ∧
      (∀ request ∈ [(Mutex.handler, [Mutex.consumer]), (Mutex.consumer, [Mutex.handler])],
        request ∈ requests [] ((piecesFrom 2 s setUpAndProcess).flatMap WorkerPiece.locks)) ∧
      AllFinish (threadLocks [piecesFrom 2 s setUpAndProcess] fun i : Fin 2 =>
        if i = 0 then [.step s (.subscribe ⟨[101], [98], 7, {}⟩), .query] else [.query]) := by
  obtain ⟨s, hs, htest⟩ := TransitionSystem.exists_reachableUnder_of_run (M := system) OneControl
    (startUp ++ subscribeTo 97)
    (fun s => decide (workerCode .loopTest (piecesFrom 2 s setUpAndProcess) = true ∧
      ∀ request ∈ [(Mutex.handler, [Mutex.consumer]), (Mutex.consumer, [Mutex.handler])],
        request ∈ requests [] ((piecesFrom 2 s setUpAndProcess).flatMap WorkerPiece.locks)))
    (by decide +kernel)
  obtain ⟨hcode, hrequests⟩ := of_decide_eq_true htest
  exact ⟨s, hs, hrequests, threads_finish (by simpa using hcode) _⟩

end Consumer
end HareCpp
