import HareCpp.Library.Interleaving
import HareCpp.Producer.System

/-!
# The mutexes of a producer

The lock events of the code of each step on `m_producerMutex` and on `m_connMutex`
of the connection.  Between two steps no thread holds a mutex; `connectChannels`
holds `m_producerMutex` over the whole table, and `Initialize` while the connection
it replaces is closed.

* `ThreadCode.ranked` — no code asks for a mutex that it holds, or for
  `m_producerMutex` under `m_connMutex`, and all of it gives back what it took.
* `ordered_threads_finish` — any number of threads that use a producer, its worker among
  them, all get through their lock events, whichever goes next.
-/

namespace HareCpp
namespace Producer

open Library ConnectionBase

/-- The mutexes. -/
inductive Mutex
  | producer
  | conn
  deriving DecidableEq, Repr

/-! ### The lock events of the code -/

/-- A function whose body takes no other mutex. -/
def locked (mutex : Mutex) : List (LockEvent Mutex) := scope mutex []

/-- The operations of `ConnectionBase` that take the lock after the test. -/
def ifBaseConnected (base : ConnectionBase) : List (LockEvent Mutex) :=
  if base.isConnected then locked .conn else []

/-- The same on `m_connection`. -/
def ifConnected (s : ProducerState) : List (LockEvent Mutex) :=
  s.connection.elim [] ifBaseConnected

/-- `OpenChannel` and `DeclareExchange` in the loop of `connectChannels`, up to where
the loop ends. -/
def connectLoopLocks (base : ConnectionBase) (replies : Bytes → ChannelReplies) :
    ExchangeList → List (LockEvent Mutex)
  | [] => []
  | (name, it) :: rest =>
      if it.connected then connectLoopLocks base replies rest
      else
        let opened := base.openChannel it.channel (replies name).openReply
          (replies name).closeOkStatus
        ifBaseConnected base ++
          if serverFailure opened.code then []
          else if noError opened.code then
            if it.isDeclare then
              let declared := base.declareExchange it.channel name it.type
                (replies name).declareReply
              ifBaseConnected base ++
                if serverFailure declared.code then []
                else connectLoopLocks base replies rest
            else connectLoopLocks base replies rest
          else connectLoopLocks base replies rest

/-- The lock events of a step of the worker. -/
def workerLocks (s : ProducerState) (input : WorkerInput) : List (LockEvent Mutex) :=
  match s.worker with
  | .none | .returned | .clearTest _ | .clearFront _ | .clearPop _ | .sizeTest | .front => []
  | .loopTest | .connectedTest | .channelsTest | .guardConnected | .guardRunning | .publishTest
  | .popPublished => locked .producer
  | .connect =>
      -- `connectBasic`, then `login`
      if input.connect.socketCreated && decide (input.connect.openStatus = 0) then
        locked .conn ++ locked .conn
      else locked .conn
  | .openChannels =>
      scope .producer
        (s.connection.elim [] fun base => connectLoopLocks base input.channels input.order)
  | .close _ | .publish _ => ifConnected s

/-- The lock events of a step of a control call. -/
def controlLocks (s : ProducerState) (input : ControlInput) :
    ControlPc → List (LockEvent Mutex)
  | .startInitialized _ | .startRunning _ | .startSet _ | .startSpawn _ | .restartInitialized
  | .stopInitialized _ | .stopRunning _ | .stopSet _ | .initInitialized | .initRunning
  | .destroyInitialized | .destroyRunning => locked .producer
  | .stopJoin _ | .stopFlag _ | .stopClearTest .. | .stopClearFront .. | .stopClearPop .. => []
  | .stopClose .. | .destroyClose | .destroyMembers => ifConnected s
  -- the object that `m_connection` held before closes its connection
  | .initConnection _ => scope .producer (ifConnected s)
  -- `CloseChannel` takes the lock before the test
  | .destroyChannels => input.order.flatMap fun _ => locked .conn

/-- The lock events of a step of a thread that uses the producer. -/
def userLocks (s : ProducerState) : Action → List (LockEvent Mutex)
  | .worker input => workerLocks s input
  | .declareExchange .. | .send _ | .sendPush _ => locked .producer
  | .begin _ => []
  | .control k input => (s.controls[k]?).elim [] (controlLocks s input)

/-- A piece of the code of a thread: a step, or one of `IsRunning`, `IsInitialized` and
`QueueSize`, which take the lock for one read. -/
inductive ThreadCode
  | step (s : ProducerState) (action : Action)
  | query

/-- The lock events of a piece of the code of a thread. -/
def ThreadCode.locks : ThreadCode → List (LockEvent Mutex)
  | .step s action => userLocks s action
  | .query => locked .producer

/-! ### The order of the mutexes -/

/-- `m_producerMutex` comes before `m_connMutex`. -/
def Mutex.rank : Mutex → ℕ
  | .producer => 0
  | .conn => 1

/-- A function that takes one mutex is called without it, and `m_connMutex` under
`m_producerMutex` at most. -/
theorem ranked_locked {held : List Mutex} {mutex : Mutex}
    (hbelow : ∀ other ∈ held, other.rank < mutex.rank) :
    Ranked Mutex.rank held (locked mutex) held :=
  .scope hbelow (.nil _ _)

theorem ranked_ifBaseConnected (base : ConnectionBase) {held : List Mutex}
    (hbelow : ∀ other ∈ held, other.rank < Mutex.conn.rank) :
    Ranked Mutex.rank held (ifBaseConnected base) held := by
  unfold ifBaseConnected
  split
  · exact ranked_locked hbelow
  · exact .nil _ _

theorem ranked_ifConnected (s : ProducerState) {held : List Mutex}
    (hbelow : ∀ other ∈ held, other.rank < Mutex.conn.rank) :
    Ranked Mutex.rank held (ifConnected s) held := by
  unfold ifConnected
  cases s.connection with
  | none => exact .nil _ _
  | some base => exact ranked_ifBaseConnected base hbelow

/-- The loop of `connectChannels` runs under `m_producerMutex`, and every operation on
the connection takes and gives back `m_connMutex`. -/
theorem ranked_connectLoopLocks (base : ConnectionBase) (replies : Bytes → ChannelReplies)
    (entries : ExchangeList) :
    Ranked Mutex.rank [.producer] (connectLoopLocks base replies entries) [.producer] := by
  have hbelow : ∀ other ∈ [Mutex.producer], other.rank < Mutex.conn.rank := by decide
  induction entries with
  | nil => exact .nil _ _
  | cons entry rest ih =>
      obtain ⟨name, it⟩ := entry
      rw [connectLoopLocks]
      split
      · exact ih
      · refine (ranked_ifBaseConnected base hbelow).append ?_
        split
        · exact .nil _ _
        · split
          · split
            · refine (ranked_ifBaseConnected base hbelow).append ?_
              split
              · exact .nil _ _
              · exact ih
            · exact ih
          · exact ih

/-- A step of the worker. -/
theorem ranked_workerLocks (s : ProducerState) (input : WorkerInput) :
    Ranked Mutex.rank [] (workerLocks s input) [] := by
  have hfree : ∀ {mutex : Mutex}, ∀ other ∈ ([] : List Mutex), other.rank < mutex.rank := by
    simp
  unfold workerLocks
  cases s.worker with
  | none | returned | clearTest | clearFront | clearPop | sizeTest | front => exact .nil _ _
  | loopTest | connectedTest | channelsTest | guardConnected | guardRunning | publishTest
  | popPublished => exact ranked_locked hfree
  | connect =>
      show Ranked Mutex.rank [] (if _ then _ else _) []
      split
      · exact (ranked_locked hfree).append (ranked_locked hfree)
      · exact ranked_locked hfree
  | openChannels =>
      refine .scope hfree ?_
      cases s.connection with
      | none => exact .nil _ _
      | some base => exact ranked_connectLoopLocks base input.channels input.order
  | close | publish => exact ranked_ifConnected s hfree

/-- A step of a control call. -/
theorem ranked_controlLocks (s : ProducerState) (input : ControlInput) (pc : ControlPc) :
    Ranked Mutex.rank [] (controlLocks s input pc) [] := by
  have hfree : ∀ {mutex : Mutex}, ∀ other ∈ ([] : List Mutex), other.rank < mutex.rank := by
    simp
  cases pc with
  | startInitialized | startRunning | startSet | startSpawn | restartInitialized
  | stopInitialized | stopRunning | stopSet | initInitialized | initRunning
  | destroyInitialized | destroyRunning => exact ranked_locked hfree
  | stopJoin | stopFlag | stopClearTest | stopClearFront | stopClearPop => exact .nil _ _
  | stopClose | destroyClose | destroyMembers => exact ranked_ifConnected s hfree
  | initConnection credentials =>
      exact .scope hfree (ranked_ifConnected s (by decide))
  | destroyChannels => exact .flatMap fun _ _ => ranked_locked hfree

/-- Every piece of the code takes `m_producerMutex` before `m_connMutex`, and gives
back what it took. -/
theorem ThreadCode.ranked (piece : ThreadCode) : Ranked Mutex.rank [] piece.locks [] := by
  have hfree : ∀ {mutex : Mutex}, ∀ other ∈ ([] : List Mutex), other.rank < mutex.rank := by
    simp
  cases piece with
  | query => exact ranked_locked hfree
  | step s action =>
      cases action with
      | worker input => exact ranked_workerLocks s input
      | declareExchange | send | sendPush => exact ranked_locked hfree
      | begin => exact .nil _ _
      | control k input =>
          show Ranked Mutex.rank [] ((s.controls[k]?).elim [] (controlLocks s input)) []
          cases s.controls[k]? with
          | none => exact .nil _ _
          | some pc => exact ranked_controlLocks s input pc

/-- Any number of threads use a producer, each going through any pieces of its code,
the worker's, those of the API calls and of the destructor.  Whichever thread takes
the next lock event, there is always one that can go on, until all are at their
end. -/
theorem ordered_threads_finish {ι : Type} [DecidableEq ι] [Fintype ι] (code : ι → List ThreadCode) :
    AllFinish fun i => (code i).flatMap ThreadCode.locks :=
  finish_of_ranked fun _ => .flatMap fun piece _ => piece.ranked

end Producer
end HareCpp
