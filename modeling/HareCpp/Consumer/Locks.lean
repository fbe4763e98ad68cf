import HareCpp.Library.Locking
import HareCpp.Consumer.Subscriptions

/-!
# The mutexes of a consumer

The consumer again, with what its threads do to `m_handlerMutex`,
`m_consumerMutex`, `m_pendingChannelMutex` and `m_connMutex`, and with the
callbacks that `Process` runs.  A callback makes any calls of `Subscribe`,
`IsRunning` and `IsInitialized` on the same consumer, one after the other, in the
middle of which the other threads go on.

`workerLocks`, `controlLocks` and `SubscribePc.locks` are the lock events of the
code of each step.  Between two steps a user thread holds nothing, and the worker
what `heldBy` says.

* `no_self_request` — no thread asks for a mutex that it holds, as long as no
  callback calls `Subscribe`.
* `callback_subscribe_blocks` — `Process` holds `m_handlerMutex` while it runs the
  callback, and `AddChannelProcessor` asks for it.
-/

namespace HareCpp

open Library ConnectionBase

namespace Consumer

/-- The mutexes. -/
inductive Mutex
  | handler
  | consumer
  | pendingChannel
  | conn
  deriving DecidableEq, Repr

/-- The lock events of a function whose body takes no other mutex. -/
def locked (mutex : Mutex) : List (LockEvent Mutex) := scope mutex []

variable {Callback : Type} {s s' : ConsumerState Callback}

/-! ### The lock events of the code -/

/-- The operations of `ConnectionBase` that take the lock after the test. -/
def ifConnected (s : ConsumerState Callback) : List (LockEvent Mutex) :=
  if isConnected s then locked .conn else []

/-- The end of `startConsumption`, after its loop. -/
def loopEnds : List (LockEvent Mutex) := locked .pendingChannel ++ [.unlock .consumer]

/-- `setupAndConsume` returns `code`, to the loop of `startConsumption` or to
`thread`. -/
def setupReturnsLocks (code : HareError) : SetupCaller → List (LockEvent Mutex)
  | .retry => []
  | .startUp rest =>
      if serverFailure code then [.unlock .consumer]
      else if rest.isEmpty then loopEnds else []

/-- The lock events of a step of the worker, other than running a callback. -/
def workerLocks (s : ConsumerState Callback) (input : WorkerInput) : List (LockEvent Mutex) :=
  match s.worker with
  | .none | .returned | .connectedTest | .pullTest => []
  | .loopTest | .pullRunning => locked .consumer
  | .connect =>
      -- `connectBasic`, then `login`
      if input.connect.socketCreated && decide (input.connect.openStatus = 0) then
        locked .conn ++ locked .conn
      else locked .conn
  | .startEmpty => .lock .consumer :: locked .pendingChannel
  | .startList => locked .handler ++ if input.order.isEmpty then loopEnds else []
  | .setupOpen .. | .startClose | .pullConsume | .pullClose => ifConnected s
  | .setupProperties .. => locked .handler
  -- `DeclareQueue`, `SetQueueName`
  | .setupDeclare .. => locked .conn ++ locked .handler
  -- `GetExchange` and `GetBindingKey`, for the log and again for `BindQueue`
  | .setupBind .. =>
      locked .handler ++ locked .handler ++ locked .handler ++ locked .handler ++ locked .conn
  | .setupConsume caller _ _ =>
      locked .conn ++
        if noError (decodeRpcReply input.reply) then
          setupReturnsLocks (decodeRpcReply input.reply) caller
        else []
  | .setupPush caller _ code => locked .pendingChannel ++ setupReturnsLocks code caller
  | .pullRelease => locked .conn
  | .pullProcess envelope => if envelope.exchange.length = 0 then [] else locked .handler
  | .pendingTest | .pendingPop => locked .pendingChannel

/-- The lock events of a step of a control call. -/
def controlLocks (s : ConsumerState Callback) : ControlPc → List (LockEvent Mutex)
  | .start _ | .stopInitialized _ | .stopRunning _ | .stopSet _ => locked .consumer
  | .stopEmpty _ => locked .pendingChannel
  | .stopClose _ | .initConnection _ | .destroyClose | .destroyMembers => ifConnected s
  | .stopJoin _ | .initInitialized | .initRunning | .destroyRunning => []

/-- The lock events of a step of a `Subscribe`. -/
def SubscribePc.locks : SubscribePc Callback → List (LockEvent Mutex)
  | .add _ | .setQueueProperties .. => locked .handler
  | .runningTest _ => locked .consumer
  | .push _ => locked .pendingChannel

/-- The lock events of a step of a user thread. -/
def userLocks (s : ConsumerState Callback) : Action Callback → List (LockEvent Mutex)
  | .worker _ | .begin _ => []
  | .subscribe _ => locked .consumer
  | .subscribeStep k => (s.subscribes[k]?).elim [] SubscribePc.locks
  | .control k _ => (s.controls[k]?).elim [] (controlLocks s)

/-! ### The consumer with callbacks -/

/-- A call that a callback makes on the consumer it belongs to. -/
inductive CallbackCall (Callback : Type)
  | subscribe (call : SubscribeCall Callback)
  | isRunning
  | isInitialized
  deriving DecidableEq, Repr

/-- The threads that take mutexes. -/
inductive LockThread
  | worker
  | user
  deriving DecidableEq, Repr

/-- A thread asks for a mutex. -/
structure LockRequest where
  thread : LockThread
  mutex : Mutex
  holding : List Mutex
  deriving DecidableEq, Repr

end Consumer

/-- A consumer, the calls that the callback which is running still makes, the
mutexes that the worker holds, and all requests so far, newest step first. -/
structure LockState (Callback : Type) where
  consumer : ConsumerState Callback
  callback : Option (List (Consumer.CallbackCall Callback))
  held : List Consumer.Mutex
  requests : List Consumer.LockRequest

namespace Consumer

variable {Callback : Type} {s s' : ConsumerState Callback}

/-- The requests of a piece of code. -/
def requestsOf (thread : LockThread) (held : List Mutex) (events : List (LockEvent Mutex)) :
    List LockRequest :=
  (requests held events).map fun request => ⟨thread, request.1, request.2⟩

/-- The worker goes through lock events. -/
def workerEvents (t : LockState Callback) (events : List (LockEvent Mutex)) :
    LockState Callback :=
  { t with
    held := heldAfter t.held events
    requests := requestsOf .worker t.held events ++ t.requests }

/-- The worker is about to run a callback. -/
def runsCallback (s : ConsumerState Callback) : Bool :=
  match s.worker with
  | .pullProcess envelope => !(processEnvelope s.channelHandler envelope).isEmpty
  | _ => false

/-- The next call of a callback.  On an initialised consumer, `Subscribe` goes on
to `AddChannelProcessor`, which asks for `m_handlerMutex`; for a thread that holds
it the behaviour is undefined. -/
def callbackStep (t : LockState Callback) (rest : List (CallbackCall Callback)) :
    CallbackCall Callback → LockState Callback
  | .isRunning | .isInitialized => workerEvents { t with callback := some rest } (locked .consumer)
  | .subscribe _ =>
      if t.consumer.isInitialized then
        workerEvents { t with consumer := crash t.consumer, callback := some rest }
          (locked .consumer ++ [.lock .handler])
      else workerEvents { t with callback := some rest } (locked .consumer)

/-- A step of the worker; `script` is what the callback will call that this step
begins to run. -/
def workerLockStep (t : LockState Callback) (input : WorkerInput)
    (script : List (CallbackCall Callback)) : Option (LockState Callback) :=
  match t.callback with
  | none =>
      if t.consumer.status = .running && runsCallback t.consumer then
        some (workerEvents { t with callback := some script } [.lock .handler])
      else
        (step t.consumer (.worker input)).map fun after =>
          workerEvents { t with consumer := after } (workerLocks t.consumer input)
  | some [] =>
      (step t.consumer (.worker input)).map fun after =>
        workerEvents { t with consumer := after, callback := none } [.unlock .handler]
  | some (call :: rest) =>
      if t.consumer.status = .running then some (callbackStep t rest call) else none

/-- The step needs `m_handlerMutex`. -/
def needsHandlerMutex (s : ConsumerState Callback) : Action Callback → Bool
  | .subscribeStep k => decide (.lock .handler ∈ userLocks s (.subscribeStep k))
  | _ => false

/-- One step of the consumer with its callbacks. -/
def lockStep (t : LockState Callback) (action : Action Callback × List (CallbackCall Callback)) :
    Option (LockState Callback) :=
  match action.1 with
  | .worker input => workerLockStep t input action.2
  | userAction =>
      if t.callback.isSome && needsHandlerMutex t.consumer userAction then none
      else
        (step t.consumer userAction).map fun after =>
          { t with
            consumer := after
            requests := requestsOf .user [] (userLocks t.consumer userAction) ++ t.requests }

/-- The consumer with its callbacks as a transition system. -/
def lockSystem : TransitionSystem (LockState Callback)
    (Action Callback × List (CallbackCall Callback)) where
  init := { consumer := initial, callback := none, held := [], requests := [] }
  step := lockStep

/-! ### What each step does with the mutexes -/

/-- What the worker holds between two steps, outside callbacks. -/
def heldBy (pc : WorkerPc) : List Mutex := if pc.holdsConsumerMutex then [.consumer] else []

/-- What the worker holds inside `setupAndConsume`. -/
def heldIn : SetupCaller → List Mutex
  | .startUp _ => [.consumer]
  | .retry => []

/-- What the worker holds after the code of its next step. -/
def heldNext (s : ConsumerState Callback) (input : WorkerInput) : List Mutex :=
  match s.worker with
  | .startEmpty => [.consumer]
  | .startList => if input.order.isEmpty then [] else [.consumer]
  | .setupOpen caller _ | .setupProperties caller _ | .setupDeclare caller _ _
  | .setupBind caller _ _ => heldIn caller
  | .setupConsume caller _ _ =>
      if noError (decodeRpcReply input.reply) then
        heldBy (afterSetup (decodeRpcReply input.reply) caller)
      else heldIn caller
  | .setupPush caller _ code => heldBy (afterSetup code caller)
  | _ => []

section HeldBy

variable (caller : SetupCaller) (channel : Int)

@[simp] theorem heldBy_setupOpen : heldBy (.setupOpen caller channel) = heldIn caller := by
  cases caller <;> rfl

@[simp] theorem heldBy_setupProperties :
    heldBy (.setupProperties caller channel) = heldIn caller := by
  cases caller <;> rfl

@[simp] theorem heldBy_setupDeclare (queueProps : QueueProperties) :
    heldBy (.setupDeclare caller channel queueProps) = heldIn caller := by
  cases caller <;> rfl

@[simp] theorem heldBy_setupBind (queueName : AmqpBytes) :
    heldBy (.setupBind caller channel queueName) = heldIn caller := by
  cases caller <;> rfl

@[simp] theorem heldBy_setupConsume (queueName : AmqpBytes) :
    heldBy (.setupConsume caller channel queueName) = heldIn caller := by
  cases caller <;> rfl

@[simp] theorem heldBy_setupPush (code : HareError) :
    heldBy (.setupPush caller channel code) = heldIn caller := by
  cases caller <;> rfl

end HeldBy

theorem disciplined_locked {held : List Mutex} {mutex : Mutex} (hfree : mutex ∉ held) :
    Disciplined held (locked mutex) held :=
  .scope hfree (.nil _)

theorem disciplined_ifConnected (s : ConsumerState Callback) {held : List Mutex}
    (hfree : .conn ∉ held) : Disciplined held (ifConnected s) held := by
  unfold ifConnected
  split
  · exact disciplined_locked hfree
  · exact .nil held

/-- `setupAndConsume` takes the mutexes other than `m_consumerMutex`. -/
theorem disciplined_setup (caller : SetupCaller) {mutex : Mutex} (hmutex : mutex ≠ .consumer) :
    Disciplined (heldIn caller) (locked mutex) (heldIn caller) := by
  apply disciplined_locked
  cases caller with
  | startUp rest => simpa [heldIn] using hmutex
  | retry => simp [heldIn]

/-- The end of `startConsumption` gives `m_consumerMutex` back. -/
theorem disciplined_loopEnds : Disciplined [Mutex.consumer] loopEnds [] := by decide

/-- What `setupAndConsume` leaves held when it returns. -/
theorem disciplined_setupReturns (code : HareError) (caller : SetupCaller) :
    Disciplined (heldIn caller) (setupReturnsLocks code caller)
      (heldBy (afterSetup code caller)) := by
  cases caller with
  | retry => exact .nil []
  | startUp rest =>
      by_cases hfail : serverFailure code = true
      · rw [setupReturnsLocks, afterSetup, if_pos hfail, if_pos hfail]
        exact .unlock [Mutex.consumer] .consumer
      · rw [setupReturnsLocks, afterSetup, if_neg hfail, if_neg hfail]
        cases rest with
        | nil =>
            have hplace : heldBy (nextChannel code []) = [] := by
              rw [nextChannel]
              split <;> rfl
            rw [hplace]
            exact disciplined_loopEnds
        | cons next rest => exact .nil [Mutex.consumer]

/-- No step of the worker asks for what the worker holds. -/
theorem disciplined_workerLocks (s : ConsumerState Callback) (input : WorkerInput) :
    Disciplined (heldBy s.worker) (workerLocks s input) (heldNext s input) := by
  have hhandler : ∀ caller, Disciplined (heldIn caller) (locked .handler) (heldIn caller) :=
    fun caller => disciplined_setup caller (by decide)
  have hconn : ∀ caller, Disciplined (heldIn caller) (locked .conn) (heldIn caller) :=
    fun caller => disciplined_setup caller (by decide)
  unfold workerLocks heldNext
  cases hpc : s.worker with
  | none | returned | connectedTest | pullTest => exact .nil []
  | loopTest | pullRunning | pullRelease | pendingTest | pendingPop =>
      exact disciplined_locked (by decide)
  | connect =>
      dsimp only
      split <;> decide
  | startEmpty =>
      dsimp only
      decide
  | startList =>
      dsimp only
      split <;> decide
  | setupOpen caller channel =>
      rw [heldBy_setupOpen]
      apply disciplined_ifConnected
      cases caller <;> simp [heldIn]
  | startClose | pullConsume | pullClose => exact disciplined_ifConnected s (by decide)
  | setupProperties caller channel =>
      rw [heldBy_setupProperties]
      exact hhandler caller
  | setupDeclare caller channel queueProps =>
      rw [heldBy_setupDeclare]
      exact (hconn caller).append (hhandler caller)
  | setupBind caller channel queueName =>
      rw [heldBy_setupBind]
      have hlog := (hhandler caller).append (hhandler caller)
      exact ((hlog.append (hhandler caller)).append (hhandler caller)).append (hconn caller)
  | setupConsume caller channel queueName =>
      rw [heldBy_setupConsume]
      dsimp only
      split
      · exact (hconn caller).append (disciplined_setupReturns _ caller)
      · exact (hconn caller).append (.nil _)
  | setupPush caller channel code =>
      rw [heldBy_setupPush]
      exact (disciplined_setup caller (by decide)).append (disciplined_setupReturns code caller)
  | pullProcess envelope =>
      dsimp only
      split
      · exact .nil []
      · exact disciplined_locked (by simp [heldBy, WorkerPc.holdsConsumerMutex])

/-- The worker stands where it holds what its step has left. -/
theorem WorkerMove.heldNext {input : WorkerInput} (hmove : WorkerMove s input s')
    (hrunning : s'.status = .running) : heldNext s input = heldBy s'.worker := by
  have hsetup : ∀ caller channel code next, heldBy next = heldIn caller →
      heldBy (setupGoesOn caller channel code next) = heldIn caller := by
    intro caller channel code next hnext
    obtain ⟨-, h⟩ | ⟨-, h⟩ := setupGoesOn_cases caller channel code next
    · rwa [h]
    · rw [h, heldBy_setupPush]
  cases hmove with
  | goto next hnext =>
      cases hnext with
      | listed hpc =>
          cases horder : input.order with
          | nil => simp [Consumer.heldNext, hpc, horder, nextChannel, heldBy,
              WorkerPc.holdsConsumerMutex]
          | cons channel rest => simp [Consumer.heldNext, hpc, horder, nextChannel, heldIn]
      | loopOn hpc | loopEnd hpc | foundConnected hpc | foundClosed hpc | pullOn hpc | pullOff hpc
      | failedRunning hpc | failedStopped hpc | pendingSome hpc | pendingNone hpc =>
          rw [Consumer.heldNext, hpc]
          rfl
  | crash | refused => cases hrunning
  | opened caller channel base hpc =>
      rw [Consumer.heldNext, hpc]
      exact (hsetup _ _ _ _ (heldBy_setupProperties _ _)).symm
  | propertiesRead caller channel hpc =>
      rw [Consumer.heldNext, hpc]
      exact (heldBy_setupDeclare _ _ _).symm
  | declared caller channel base queue hpc =>
      rw [Consumer.heldNext, hpc]
      exact (heldBy_setupBind _ _ _).symm
  | bound caller channel base queue hpc =>
      rw [Consumer.heldNext, hpc]
      exact (hsetup _ _ _ _ (heldBy_setupConsume _ _ _)).symm
  | consumed caller channel base queue hpc hbase hcode =>
      simp [Consumer.heldNext, hpc, hcode, setupReturns]
  | consumeFailed caller channel base queue hpc hbase hcode =>
      simp [Consumer.heldNext, hpc, hcode]
  | pushed caller channel code hpc => simp [Consumer.heldNext, hpc, setupReturns]
  | closed base hpc =>
      obtain hpc | hpc := hpc <;> rw [Consumer.heldNext, hpc] <;> rfl
  | pulled base next hpc hbase hnext =>
      rw [Consumer.heldNext, hpc]
      obtain rfl | rfl | rfl := hnext <;> rfl
  | popped channel rest hpc =>
      rw [Consumer.heldNext, hpc]
      rfl
  | connected base hpc | connectFailed base hpc | emptied hpc | released base hpc
  | processed envelope hpc =>
      rw [Consumer.heldNext, hpc]
      rfl

/-- A user thread holds nothing and takes one mutex at a time. -/
theorem disciplined_userLocks (s : ConsumerState Callback) (action : Action Callback) :
    Disciplined [] (userLocks s action) [] := by
  cases action with
  | worker | begin => exact .nil []
  | subscribe => exact disciplined_locked (by simp)
  | subscribeStep k =>
      show Disciplined [] ((s.subscribes[k]?).elim [] SubscribePc.locks) []
      cases s.subscribes[k]? with
      | none => exact .nil []
      | some pc => cases pc <;> exact disciplined_locked (by simp)
  | control k reply =>
      show Disciplined [] ((s.controls[k]?).elim [] (controlLocks s)) []
      cases s.controls[k]? with
      | none => exact .nil []
      | some pc =>
          cases pc with
          | start | stopInitialized | stopRunning | stopSet | stopEmpty =>
              exact disciplined_locked (by simp)
          | stopClose | initConnection | destroyClose | destroyMembers =>
              exact disciplined_ifConnected s (by simp)
          | stopJoin | initInitialized | initRunning | destroyRunning => exact .nil []

/-! ### Runs -/

/-- A step of the worker. -/
def Action.byWorker : Action Callback → Bool
  | .worker _ => true
  | _ => false

def CallbackCall.isSubscribe : CallbackCall Callback → Bool
  | .subscribe _ => true
  | .isRunning | .isInitialized => false

/-- No callback calls `Subscribe` on an initialised consumer. -/
def NoCallbackSubscribe (t : LockState Callback)
    (action : Action Callback × List (CallbackCall Callback)) : Prop :=
  action.1.byWorker = true →
    (t.callback.bind List.head?).any CallbackCall.isSubscribe = true →
      t.consumer.isInitialized = false

instance (t : LockState Callback) (action : Action Callback × List (CallbackCall Callback)) :
    Decidable (NoCallbackSubscribe t action) :=
  inferInstanceAs (Decidable (_ → _ → _))

/-- A callback is run in `Process`, under `m_handlerMutex`; the worker holds what
the place it is at says; and so far no thread has asked for what it held. -/
structure LockFacts (t : LockState Callback) : Prop where
  processing : t.callback.isSome = true → ∃ envelope, t.consumer.worker = .pullProcess envelope
  held : t.consumer.status = .running →
    t.held = if t.callback.isSome then [.handler] else heldBy t.consumer.worker
  free : ∀ request ∈ t.requests, request.mutex ∉ request.holding

/-- The requests of disciplined code join those of before. -/
theorem free_append {held after : List Mutex} {events : List (LockEvent Mutex)}
    {past : List LockRequest} (thread : LockThread) (hevents : Disciplined held events after)
    (hpast : ∀ request ∈ past, request.mutex ∉ request.holding) :
    ∀ request ∈ requestsOf thread held events ++ past, request.mutex ∉ request.holding := by
  intro request hrequest
  obtain hnew | hold := List.mem_append.mp hrequest
  · obtain ⟨asked, hasked, rfl⟩ := List.mem_map.mp hnew
    exact hevents.free asked hasked
  · exact hpast request hold

/-- A user thread leaves a worker that runs a callback where it is, and what the
worker holds with it. -/
theorem Move.worker_held {action : Action Callback} (hmove : Move s action s')
    (huser : ∀ input, action ≠ .worker input) :
    heldBy s'.worker = heldBy s.worker ∧
      ∀ envelope, s.worker = .pullProcess envelope → s'.worker = .pullProcess envelope := by
  cases hmove with
  | worker input => exact absurd rfl (huser input)
  | subscribeRefused | subscribeBegins | begin => exact ⟨rfl, fun _ h => h⟩
  | subscribe k pc rest _ hpick hmove =>
      rw [hmove.frame.worker]
      exact ⟨rfl, fun _ h => h⟩
  | control k reply pc rest _ hpick _ hmove =>
      obtain hsame | ⟨hold, hnew⟩ | ⟨hold, hnew⟩ := hmove.worker
      · rw [hsame]
        exact ⟨rfl, fun _ h => h⟩
      all_goals
        have hold : s.worker = _ := hold
        rw [hnew, hold]
        exact ⟨rfl, by rintro _ ⟨⟩⟩

/-- A step of a user thread keeps the lock facts. -/
theorem LockFacts.user {t : LockState Callback} (hfacts : LockFacts t)
    {action : Action Callback} (huser : ∀ input, action ≠ .worker input)
    {after : ConsumerState Callback} (hstep : step t.consumer action = some after) :
    LockFacts { t with
      consumer := after
      requests := requestsOf .user [] (userLocks t.consumer action) ++ t.requests } := by
  obtain ⟨hstatus, hmove⟩ := move_of_step hstep
  obtain ⟨hheld, hplace⟩ := hmove.worker_held huser
  refine ⟨?_, ?_, free_append .user (disciplined_userLocks t.consumer action) hfacts.free⟩
  · intro hcallback
    obtain ⟨envelope, henvelope⟩ := hfacts.processing hcallback
    exact ⟨envelope, hplace envelope henvelope⟩
  · intro _
    show t.held = if t.callback.isSome then _ else heldBy after.worker
    rw [hheld]
    exact hfacts.held hstatus

/-- The worker asks for mutexes that it does not hold, without a change of
place. -/
theorem LockFacts.worker {t t' : LockState Callback} (hfacts : LockFacts t)
    {events : List (LockEvent Mutex)} {after : List Mutex}
    (hevents : Disciplined t.held events after) (hrequests : t'.requests =
      requestsOf .worker t.held events ++ t.requests)
    (hprocessing : t'.callback.isSome = true →
      ∃ envelope, t'.consumer.worker = .pullProcess envelope)
    (hheld : t'.consumer.status = .running →
      t'.held = if t'.callback.isSome then [.handler] else heldBy t'.consumer.worker) :
    LockFacts t' := by
  refine ⟨hprocessing, hheld, ?_⟩
  rw [hrequests]
  exact free_append .worker hevents hfacts.free

/-- A call of a callback that is not a `Subscribe` on an initialised consumer. -/
theorem LockFacts.callback {t : LockState Callback} (hfacts : LockFacts t)
    {rest : List (CallbackCall Callback)} (hcallback : t.callback.isSome = true)
    (hstatus : t.consumer.status = .running) :
    LockFacts (workerEvents { t with callback := some rest } (locked .consumer)) := by
  have hheld : t.held = [.handler] := by
    rw [hfacts.held hstatus, hcallback]
    rfl
  have hevents : Disciplined t.held (locked .consumer) t.held := by
    rw [hheld]
    exact disciplined_locked (by decide)
  apply hfacts.worker hevents rfl
  · exact fun _ => hfacts.processing hcallback
  · intro _
    show heldAfter t.held (locked .consumer) = [.handler]
    rw [hevents.ends, hheld]

/-- A step of the worker keeps the lock facts. -/
theorem LockFacts.workerStep {t t' : LockState Callback} {input : WorkerInput}
    {script : List (CallbackCall Callback)} (hfacts : LockFacts t)
    (hallowed : NoCallbackSubscribe t (.worker input, script))
    (hstep : workerLockStep t input script = some t') : LockFacts t' := by
  unfold workerLockStep at hstep
  split at hstep
  · next hnone =>
      have hheld : t.consumer.status = .running → t.held = heldBy t.consumer.worker := by
        intro hstatus
        rw [hfacts.held hstatus, hnone]
        rfl
      split at hstep
      · next hruns =>
          -- `Process` takes the mutex and finds a callback
          obtain rfl := Option.some.inj hstep
          simp only [Bool.and_eq_true, decide_eq_true_eq] at hruns
          obtain ⟨hstatus, hruns⟩ := hruns
          obtain ⟨envelope, hpc⟩ : ∃ envelope, t.consumer.worker = .pullProcess envelope := by
            unfold runsCallback at hruns
            split at hruns
            · next envelope hpc => exact ⟨envelope, hpc⟩
            · cases hruns
          have hempty : t.held = [] := by
            rw [hheld hstatus, hpc]
            rfl
          have hevents : Disciplined t.held [.lock .handler] [.handler] := by
            rw [hempty]
            exact .lock (by simp)
          apply hfacts.worker hevents rfl
          · exact fun _ => ⟨envelope, hpc⟩
          · exact fun _ => hevents.ends
      · obtain ⟨after, hafter, rfl⟩ := Option.map_eq_some_iff.mp hstep
        obtain ⟨hstatus, hmove⟩ := move_of_step hafter
        have hevents : Disciplined t.held (workerLocks t.consumer input)
            (heldNext t.consumer input) := by
          rw [hheld hstatus]
          exact disciplined_workerLocks t.consumer input
        apply hfacts.worker hevents rfl
        · intro hsome
          rw [show (workerEvents { t with consumer := after } _).callback = t.callback from rfl,
            hnone] at hsome
          cases hsome
        · intro hrunning
          cases hmove with
          | worker _ _ hmove =>
              show heldAfter t.held _ = if t.callback.isSome then _ else heldBy after.worker
              rw [hevents.ends, hmove.heldNext hrunning, hnone]
              rfl
  · next hsome =>
      -- the callback returns, and `Process` with it
      obtain ⟨after, hafter, rfl⟩ := Option.map_eq_some_iff.mp hstep
      obtain ⟨hstatus, hmove⟩ := move_of_step hafter
      have hheld : t.held = [.handler] := by
        rw [hfacts.held hstatus, hsome]
        rfl
      have hevents : Disciplined t.held [.unlock .handler] [] := by
        rw [hheld]
        exact .unlock [Mutex.handler] .handler
      refine hfacts.worker hevents ?_ ?_ ?_
      · rfl
      · rintro ⟨⟩
      · intro hrunning
        obtain ⟨envelope, hpc⟩ := hfacts.processing (by rw [hsome]; rfl)
        cases hmove with
        | worker _ _ hmove =>
            show heldAfter t.held _ = heldBy after.worker
            rw [hevents.ends, ← hmove.heldNext hrunning, Consumer.heldNext, hpc]
  · next call rest hsome =>
      split at hstep
      · next hstatus =>
          obtain rfl := Option.some.inj hstep
          have hcallback : t.callback.isSome = true := by rw [hsome]; rfl
          cases call with
          | isRunning | isInitialized => exact hfacts.callback hcallback hstatus
          | subscribe call =>
              have hinit : t.consumer.isInitialized = false :=
                hallowed rfl (by rw [hsome]; rfl)
              simp only [callbackStep, hinit]
              exact hfacts.callback hcallback hstatus
      · cases hstep

/-- A step is a step of the consumer, or one of a callback, which leaves the
consumer alone. -/
theorem consumer_of_lockStep {t t' : LockState Callback}
    {action : Action Callback × List (CallbackCall Callback)}
    (hallowed : NoCallbackSubscribe t action) (hstep : lockStep t action = some t') :
    step t.consumer action.1 = some t'.consumer ∨ t'.consumer = t.consumer := by
  obtain ⟨action, script⟩ := action
  cases action with
  | worker input =>
      simp only [lockStep, workerLockStep] at hstep
      split at hstep
      · split at hstep
        · obtain rfl := Option.some.inj hstep
          exact .inr rfl
        · obtain ⟨after, hafter, rfl⟩ := Option.map_eq_some_iff.mp hstep
          exact .inl hafter
      · obtain ⟨after, hafter, rfl⟩ := Option.map_eq_some_iff.mp hstep
        exact .inl hafter
      · next call rest hsome =>
          split at hstep
          · obtain rfl := Option.some.inj hstep
            right
            cases call with
            | isRunning | isInitialized => rfl
            | subscribe call =>
                have hinit : t.consumer.isInitialized = false :=
                  hallowed rfl (by rw [hsome]; rfl)
                simp only [callbackStep, hinit]
                rfl
          · cases hstep
  | subscribe | subscribeStep | begin | control =>
      simp only [lockStep] at hstep
      split at hstep
      · cases hstep
      · obtain ⟨after, hafter, rfl⟩ := Option.map_eq_some_iff.mp hstep
        exact .inl hafter

/-- The consumer with its callbacks is the consumer of `Consumer.System`. -/
theorem consumer_reachable {t : LockState Callback}
    (ht : lockSystem.ReachableUnder NoCallbackSubscribe t) :
    system.ReachableUnder (fun _ _ => True) t.consumer := by
  apply ht.induction (fun t => system.ReachableUnder (fun _ _ => True) t.consumer)
  · exact .init
  · intro t action t' _ hallowed hbefore hstep
    obtain hbase | hsame := consumer_of_lockStep hallowed hstep
    · exact .step hbefore trivial hbase
    · rw [hsame]
      exact hbefore

theorem lockFacts_reachable {t : LockState Callback}
    (ht : lockSystem.ReachableUnder NoCallbackSubscribe t) : LockFacts t := by
  apply ht.induction LockFacts
  · exact ⟨by rintro ⟨⟩, fun _ => rfl, by simp [lockSystem]⟩
  · intro t action t' _ hallowed hfacts hstep
    obtain ⟨action, script⟩ := action
    have huser : (∀ input, action ≠ .worker input) →
        (if t.callback.isSome && needsHandlerMutex t.consumer action then none
          else (step t.consumer action).map fun after =>
            { t with
              consumer := after
              requests := requestsOf .user [] (userLocks t.consumer action) ++ t.requests }) =
          some t' → LockFacts t' := by
      intro huser hstep
      split at hstep
      · cases hstep
      · obtain ⟨after, hafter, rfl⟩ := Option.map_eq_some_iff.mp hstep
        exact hfacts.user huser hafter
    cases action with
    | worker input => exact hfacts.workerStep hallowed hstep
    | subscribe | subscribeStep | begin | control => exact huser (by simp) hstep

/-- In every run in which no callback calls `Subscribe`, no thread asks for a mutex
that it holds. -/
theorem no_self_request {t : LockState Callback}
    (ht : lockSystem.ReachableUnder NoCallbackSubscribe t) :
    ∀ request ∈ t.requests, request.mutex ∉ request.holding :=
  (lockFacts_reachable ht).free

/-- A consumer with one subscription, connected and set up, that has got a message
for it. -/
def gotMessage : List (Action Nat) :=
  List.flatten [startUp, subscribeTo 97, List.replicate 4 (.worker {}),
    .worker { order := [1] } :: List.replicate 7 (.worker {}),
    [.worker { envelope := { channel := 1, exchange := [101], routingKey := [97] } }]]

/-- A callback that asks whether the consumer is initialised and running. -/
theorem no_self_request_run :
    ∃ t : LockState Nat, (lockSystem.ReachableUnder NoCallbackSubscribe t ∧
        ⟨.worker, .consumer, [.handler]⟩ ∈ t.requests) ∧
      ∀ request ∈ t.requests, request.mutex ∉ request.holding := by
  obtain ⟨t, ht, htest⟩ := TransitionSystem.exists_reachableUnder_of_run (M := lockSystem)
    NoCallbackSubscribe
    (gotMessage.map (fun action => (action, [])) ++
      (.worker {}, [.isInitialized, .isRunning]) :: List.replicate 4 (.worker {}, []))
    (fun t => decide (⟨.worker, .consumer, [.handler]⟩ ∈ t.requests ∧ t.held = []))
    (by decide +kernel)
  exact ⟨t, ⟨ht, (of_decide_eq_true htest).1⟩, no_self_request ht⟩

/-- A callback that calls `Subscribe` asks for `m_handlerMutex`, which its thread
holds. -/
theorem callback_subscribe_blocks :
    ∃ t : LockState Nat, lockSystem.ReachableUnder (fun _ _ => True) t ∧
      ⟨.worker, .handler, [.handler]⟩ ∈ t.requests := by
  obtain ⟨t, ht, htest⟩ := TransitionSystem.exists_reachableUnder_of_run (M := lockSystem)
    (fun _ _ => True)
    (gotMessage.map (fun action => (action, [])) ++
      [(.worker {}, [.subscribe ⟨[101], [98], 7, {}⟩]), (.worker {}, [])])
    (fun t => decide (⟨.worker, .handler, [.handler]⟩ ∈ t.requests)) (by decide +kernel)
  exact ⟨t, ht, of_decide_eq_true htest⟩

end Consumer
end HareCpp
