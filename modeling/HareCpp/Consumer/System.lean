import HareCpp.LiveHandle
import HareCpp.Dispatch

/-!
# The consumer and the threads that use it

A `Consumer` object, its worker thread `Consumer::thread`, any number of
`Subscribe` calls in flight, any number of `Start`/`Stop`/`Restart`/`Initialize`
calls and the destructor, as one transition system.

A step is one section under a mutex, or one operation of `ConnectionBase`
together with what the same thread does with its own subscription next to it: the
name of the queue, which nothing else reads, is set after `DeclareQueue`, and the
exchange and the key, which never change, are read before `BindQueue`.
`startConsumption` holds `m_consumerMutex` over many steps: during these, the
steps of other threads that need it (`IsInitialized`, `IsRunning`,
`setRunning`, `Start`) wait, while those under `m_handlerMutex` and
`m_pendingChannelMutex` go on.  `WorkerPc`, `SubscribePc` and `ControlPc` say
where a thread stands; the comments give the code that comes next.

`GetChannelList` goes through an `std::unordered_map` in an order that the step
is given.  `calls` and `notes` are histories, newest first, that no step reads.
-/

namespace HareCpp

open Library ConnectionBase

namespace Consumer

/-- Who called `setupAndConsume`: the loop of `startConsumption`, with the channels
still to come, or the retry of a pending channel in `thread`. -/
inductive SetupCaller
  | startUp (rest : List Int)
  | retry
  deriving DecidableEq, Repr

/-- Where `Consumer::thread` stands. -/
inductive WorkerPc
  /-- `m_consumerThread` is not joinable -/
  | none
  /-- `while (IsRunning())` -/
  | loopTest
  /-- `if (false == m_connection->IsConnected())` -/
  | connectedTest
  /-- `connectAndStartConsumption`: `m_connection->Connect()` -/
  | connect
  /-- `startConsumption`: take `m_consumerMutex`, `emptyPendingChannels()` -/
  | startEmpty
  /-- `startConsumption`: `m_channelHandler.GetChannelList()` -/
  | startList
  /-- `setupAndConsume`: `openChannel(channel)` -/
  | setupOpen (caller : SetupCaller) (channel : Int)
  /-- `declareQueue`: `m_channelHandler.GetQueueProperties(channel)` -/
  | setupProperties (caller : SetupCaller) (channel : Int)
  /-- `declareQueue`: `m_connection->DeclareQueue(channel, queueProps, queueName)` -/
  | setupDeclare (caller : SetupCaller) (channel : Int) (queueProps : QueueProperties)
  /-- `setupAndConsume`: `bindQueue(channel, queueName)` -/
  | setupBind (caller : SetupCaller) (channel : Int) (queueName : AmqpBytes)
  /-- `setupAndConsume`: `consume(channel, queueName)` -/
  | setupConsume (caller : SetupCaller) (channel : Int) (queueName : AmqpBytes)
  /-- `setupAndConsume`: `pushIntoPendingChannels(channel)` -/
  | setupPush (caller : SetupCaller) (channel : Int) (code : HareError)
  /-- `connectAndStartConsumption`: `m_connection->CloseConnection()` -/
  | startClose
  /-- `pullNextMessage`: `if (m_connection->IsConnected())` -/
  | pullTest
  /-- `pullNextMessage`: `amqp_maybe_release_buffers(m_connection->Connection())` -/
  | pullRelease
  /-- `pullNextMessage`: `m_connection->ConsumeMessage(envelope)` -/
  | pullConsume
  /-- `pullNextMessage`: `m_channelHandler.Process(..)` -/
  | pullProcess (envelope : AmqpEnvelope)
  /-- `pullNextMessage`: `serverFailure(ret) && IsRunning()` -/
  | pullRunning
  /-- `pullNextMessage`: `m_connection->CloseConnection()` -/
  | pullClose
  /-- `if (pendingChannelSize() != 0)` -/
  | pendingTest
  /-- `popNextPendingChannel()` -/
  | pendingPop
  /-- `thread` has returned and waits to be joined -/
  | returned
  deriving DecidableEq, Repr

/-- The worker is inside `startConsumption` and holds `m_consumerMutex`. -/
def WorkerPc.holdsConsumerMutex : WorkerPc → Bool
  | .startList | .setupOpen (.startUp _) _ | .setupProperties (.startUp _) _
  | .setupDeclare (.startUp _) .. | .setupBind (.startUp _) .. | .setupConsume (.startUp _) ..
  | .setupPush (.startUp _) .. => true
  | _ => false

/-- The arguments of a `Subscribe`. -/
structure SubscribeCall (Callback : Type) where
  exchange : Bytes
  bindingKey : Bytes
  callback : Callback
  queueProps : QueueProperties := {}
  deriving DecidableEq, Repr

/-- Where a `Subscribe` that found the consumer initialised stands. -/
inductive SubscribePc (Callback : Type)
  /-- `m_channelHandler.AddChannelProcessor(..)` -/
  | add (call : SubscribeCall Callback)
  /-- `m_channelHandler.SetQueueProperties(channel, queueProps)` -/
  | setQueueProperties (channel : Int) (queueProps : QueueProperties)
  /-- `if (IsRunning())` -/
  | runningTest (channel : Int)
  /-- `pushIntoPendingChannels(channel)` -/
  | push (channel : Int)
  deriving DecidableEq, Repr

/-- What `Stop` goes back to. -/
inductive StopCaller
  | user
  | restart
  | destructor
  deriving DecidableEq, Repr

/-- Where a control call stands.  `restarting` marks a `Start` called by
`Restart`. -/
inductive ControlPc
  /-- `Start`, all of it under `m_consumerMutex` -/
  | start (restarting : Bool)
  /-- `Stop`: `emptyPendingChannels()` -/
  | stopEmpty (caller : StopCaller)
  /-- `Stop`: `IsInitialized()` -/
  | stopInitialized (caller : StopCaller)
  /-- `Stop`: `IsRunning()` -/
  | stopRunning (caller : StopCaller)
  /-- `Stop`: `setRunning(false)` -/
  | stopSet (caller : StopCaller)
  /-- `Stop`: `m_consumerThread.join()` -/
  | stopJoin (caller : StopCaller)
  /-- `Stop`: `m_connection->CloseConnection()` -/
  | stopClose (caller : StopCaller)
  /-- `Initialize`: `m_connection = std::make_shared<ConnectionBase>(..)` -/
  | initConnection (credentials : LoginCredentials)
  /-- `Initialize`: `m_isInitialized = true` -/
  | initInitialized
  /-- `Initialize`: `m_threadRunning = false` -/
  | initRunning
  /-- `~Consumer`: `if (m_threadRunning)` -/
  | destroyRunning
  /-- `~Consumer`: `if (m_isInitialized) m_connection->CloseConnection()` and
  `m_isInitialized = false` -/
  | destroyClose
  /-- `~Consumer`: the members are destroyed -/
  | destroyMembers
  deriving DecidableEq, Repr

/-- The control calls. -/
inductive ControlCall
  | start
  | stop
  | restart
  | initializeWith (credentials : LoginCredentials)
  | destroy
  deriving DecidableEq, Repr

/-- The calls whose return code is recorded. -/
inductive Api
  | start
  | stop
  | restart
  | initialized
  | subscribe
  deriving DecidableEq, Repr

/-- What happened inside the consumer. -/
inductive Note (Callback : Type)
  | connected (handle : Option Nat)
  /-- `setupAndConsume(channel)` returned `code` -/
  | setUp (channel : Int) (code : HareError)
  | invoked (callback : Callback) (message : Message)
  | apiReturned (api : Api) (code : HareError)
  deriving DecidableEq, Repr

end Consumer

/-- The consumer's members, its threads and the two histories. -/
structure ConsumerState (Callback : Type) where
  channelHandler : ChannelHandler Callback
  isInitialized : Bool
  connection : Option ConnectionBase
  threadRunning : Bool
  pendingChannels : List Int
  worker : Consumer.WorkerPc
  subscribes : List (Consumer.SubscribePc Callback)
  controls : List Consumer.ControlPc
  status : RunStatus
  handles : Nat
  calls : List AmqpCall
  notes : List (Consumer.Note Callback)

namespace Consumer

variable {Callback : Type}

/-- The constructor. -/
def initial : ConsumerState Callback where
  channelHandler := {}
  isInitialized := false
  connection := none
  threadRunning := false
  pendingChannels := []
  worker := .none
  subscribes := []
  controls := []
  status := .running
  handles := 0
  calls := []
  notes := []

/-- `m_connection->IsConnected()`. -/
def isConnected (s : ConsumerState Callback) : Bool :=
  match s.connection with
  | none => false
  | some base => base.isConnected

/-- The handle that `m_connection` works on. -/
def currentConn (s : ConsumerState Callback) : Option Nat := s.connection.bind (·.conn)

/-- The run ends here: a null `m_connection`, a pop from an empty queue, a queue that
the broker refused to declare, or a misuse of `std::thread`. -/
def crash (s : ConsumerState Callback) : ConsumerState Callback := { s with status := .undefined }

/-! ### The worker -/

/-- What the library, the broker and the hash table contribute to a step of the
worker. -/
structure WorkerInput where
  connect : ConnectReplies := {}
  order : List Int := []
  reply : AmqpRpcReply := .normal
  closeOkStatus : Int := 0
  declared : Bytes := []
  envelope : AmqpEnvelope := { channel := 0, exchange := [], routingKey := [] }

/-- Where the loop of `startConsumption` goes on, `code` being the code of the last
`setupAndConsume`: to the next channel, or back to `thread`, which pulls a
message if there was no error. -/
def nextChannel (code : HareError) : List Int → WorkerPc
  | [] => if noError code then .pullTest else .pendingTest
  | channel :: rest => .setupOpen (.startUp rest) channel

/-- Where the worker goes on after `setupAndConsume`. -/
def afterSetup (code : HareError) : SetupCaller → WorkerPc
  | .retry => .loopTest
  | .startUp rest => if serverFailure code then .startClose else nextChannel code rest

/-- `setupAndConsume(channel)` returns. -/
def setupReturns (s : ConsumerState Callback) (caller : SetupCaller) (channel : Int)
    (code : HareError) : ConsumerState Callback :=
  { s with
    worker := afterSetup code caller
    notes := .setUp channel code :: s.notes }

/-- A step of `setupAndConsume` returned `code`: go on at `next`, or push the
channel. -/
def setupGoesOn (caller : SetupCaller) (channel : Int) (code : HareError) (next : WorkerPc) :
    WorkerPc :=
  if noError code then next else .setupPush caller channel code

/-- One step of `Consumer::thread`. -/
def workerStep (s : ConsumerState Callback) (input : WorkerInput) :
    Option (ConsumerState Callback) :=
  match s.worker with
  | .none | .returned => none
  | .loopTest =>
      some { s with worker := if s.threadRunning then .connectedTest else .returned }
  | .connectedTest =>
      match s.connection with
      | none => some (crash s)
      | some base => some { s with worker := if base.isConnected then .pullTest else .connect }
  | .connect =>
      match s.connection with
      | none => some (crash s)
      | some base =>
          let r := base.connect s.handles input.connect
          let s := { s with
            connection := some r.base
            handles := s.handles + 1
            calls := r.calls ++ s.calls }
          if noError r.code then
            some { s with worker := .startEmpty, notes := .connected r.base.conn :: s.notes }
          else some { s with worker := .pendingTest }
  | .startEmpty => some { s with worker := .startList, pendingChannels := [] }
  | .startList =>
      if input.order.isPerm s.channelHandler.getChannelList then
        some { s with worker := nextChannel .allGood input.order }
      else none
  | .setupOpen caller channel =>
      match s.connection with
      | none => some (crash s)
      | some base =>
          let r := base.openChannel channel input.reply input.closeOkStatus
          some { s with
            calls := r.calls ++ s.calls
            worker := setupGoesOn caller channel r.code (.setupProperties caller channel) }
  | .setupProperties caller channel =>
      some { s with
        worker := .setupDeclare caller channel (s.channelHandler.getQueueProperties channel) }
  | .setupDeclare caller channel queueProps =>
      match s.connection with
      | none => some (crash s)
      | some base =>
          -- `queueName` in `setupAndConsume` starts out uninitialised
          let r := base.declareQueue channel queueProps none input.reply input.declared
          let s := { s with
            calls := r.calls ++ s.calls
            channelHandler :=
              if noError r.code then s.channelHandler.setQueueName channel r.retQueue
              else s.channelHandler
            worker := setupGoesOn caller channel r.code (.setupBind caller channel r.retQueue) }
          some (if r.defined then s else crash s)
  | .setupBind caller channel queueName =>
      match s.connection with
      | none => some (crash s)
      | some base =>
          let r := base.bindQueue channel queueName (s.channelHandler.getExchange channel)
            (s.channelHandler.getBindingKey channel) input.reply
          some { s with
            calls := r.calls ++ s.calls
            worker := setupGoesOn caller channel r.code (.setupConsume caller channel queueName) }
  | .setupConsume caller channel queueName =>
      match s.connection with
      | none => some (crash s)
      | some base =>
          let r := base.startConsumption channel queueName input.reply
          let s := { s with calls := r.calls ++ s.calls }
          if noError r.code then some (setupReturns s caller channel r.code)
          else some { s with worker := .setupPush caller channel r.code }
  | .setupPush caller channel code =>
      some (setupReturns { s with pendingChannels := s.pendingChannels ++ [channel] } caller
        channel code)
  | .startClose =>
      match s.connection with
      | none => some (crash s)
      | some base =>
          let r := base.closeConnection input.reply
          some { s with
            connection := some r.base
            calls := r.calls ++ s.calls
            worker := .pendingTest }
  | .pullTest =>
      match s.connection with
      | none => some (crash s)
      | some base =>
          some { s with worker := if base.isConnected then .pullRelease else .pendingTest }
  | .pullRelease =>
      match s.connection with
      | none => some (crash s)
      | some base =>
          some { s with
            calls := .maybeReleaseBuffers base.conn :: s.calls
            worker := .pullConsume }
  | .pullConsume =>
      match s.connection with
      | none => some (crash s)
      | some base =>
          let r := base.consumeMessage input.reply
          let s := { s with calls := r.calls ++ s.calls }
          if noError r.code then some { s with worker := .pullProcess input.envelope }
          else if serverFailure r.code then some { s with worker := .pullRunning }
          else some { s with worker := .pendingTest }
  | .pullProcess envelope =>
      some { s with
        worker := .pendingTest
        notes := (processEnvelope s.channelHandler envelope).map
          (fun invocation => .invoked invocation.1 invocation.2) ++ s.notes }
  | .pullRunning =>
      some { s with worker := if s.threadRunning then .pullClose else .pendingTest }
  | .pullClose =>
      match s.connection with
      | none => some (crash s)
      | some base =>
          let r := base.closeConnection input.reply
          some { s with
            connection := some r.base
            calls := r.calls ++ s.calls
            worker := .pendingTest }
  | .pendingTest =>
      some { s with
        worker := if s.pendingChannels.length ≠ 0 then .pendingPop else .loopTest }
  | .pendingPop =>
      match s.pendingChannels with
      | [] => some (crash s)
      | channel :: rest =>
          some { s with worker := .setupOpen .retry channel, pendingChannels := rest }

/-! ### Control calls -/

/-- A control call goes on at `pc`. -/
def goOn (s : ConsumerState Callback) (pc : ControlPc) : ConsumerState Callback :=
  { s with controls := pc :: s.controls }

/-- A call returns to the user. -/
def returnTo (s : ConsumerState Callback) (api : Api) (code : HareError) :
    ConsumerState Callback :=
  { s with notes := .apiReturned api code :: s.notes }

/-- `Start` returns, to the user or from `Restart`. -/
def startReturns (s : ConsumerState Callback) (restarting : Bool) (code : HareError) :
    ConsumerState Callback :=
  returnTo s (if restarting then .restart else .start) code

/-- `Stop` returns; `Restart` goes on with `Start` if it succeeded. -/
def stopReturns (s : ConsumerState Callback) (caller : StopCaller) (code : HareError) :
    ConsumerState Callback :=
  match caller with
  | .user => returnTo s .stop code
  | .restart => if noError code then goOn s (.start true) else returnTo s .restart code
  | .destructor => goOn s .destroyClose

/-- Control steps that take `m_consumerMutex`. -/
def ControlPc.needsConsumerMutex : ControlPc → Bool
  | .start _ | .stopInitialized _ | .stopRunning _ | .stopSet _ => true
  | _ => false

/-- The next step of a control call at `pc`; `s.controls` holds the other calls
in flight, and `reply` is the answer to closing the connection. -/
def controlStep (s : ConsumerState Callback) (reply : AmqpRpcReply) :
    ControlPc → Option (ConsumerState Callback)
  | .start restarting =>
      if s.isInitialized = false then some (startReturns s restarting .notInitialized)
      else if s.threadRunning then some (startReturns s restarting .threadAlreadyRunning)
      -- assigning to a joinable `std::thread` terminates the program
      else if s.worker = .none then
        some (startReturns { s with threadRunning := true, worker := .loopTest } restarting
          .allGood)
      else some (crash s)
  | .stopEmpty caller => some (goOn { s with pendingChannels := [] } (.stopInitialized caller))
  | .stopInitialized caller =>
      some (if s.isInitialized then goOn s (.stopRunning caller)
        else stopReturns s caller .notInitialized)
  | .stopRunning caller =>
      some (if s.threadRunning then goOn s (.stopSet caller)
        else stopReturns s caller .threadNotRunning)
  | .stopSet caller => some (goOn { s with threadRunning := false } (.stopJoin caller))
  | .stopJoin caller =>
      match s.worker with
      -- `join` on a thread that is not joinable throws
      | .none => some (crash s)
      | .returned => some (goOn { s with worker := .none } (.stopClose caller))
      | _ => none
  | .stopClose caller =>
      match s.connection with
      | none => some (crash s)
      | some base =>
          let r := base.closeConnection reply
          some (stopReturns { s with connection := some r.base, calls := r.calls ++ s.calls }
            caller r.code)
  | .initConnection credentials =>
      -- the object that `m_connection` held before closes its connection
      some (goOn { s with
        connection := some (ConnectionBase.new credentials)
        calls := releaseCalls s.connection reply ++ s.calls } .initInitialized)
  | .initInitialized => some (goOn { s with isInitialized := true } .initRunning)
  | .initRunning => some (returnTo { s with threadRunning := false } .initialized .allGood)
  | .destroyRunning =>
      some (goOn s (if s.threadRunning then .stopEmpty .destructor else .destroyClose))
  | .destroyClose =>
      if s.isInitialized then
        match s.connection with
        | none => some (crash s)
        | some base =>
            let r := base.closeConnection reply
            some (goOn { s with
              connection := some r.base
              calls := r.calls ++ s.calls
              isInitialized := false } .destroyMembers)
      else some (goOn s .destroyMembers)
  | .destroyMembers =>
      if s.worker = .none then
        some { s with
          connection := none
          calls := releaseCalls s.connection reply ++ s.calls
          status := .destroyed }
      else some (crash s)

/-- Where a control call begins. -/
def ControlCall.entry : ControlCall → ControlPc
  | .start => .start false
  | .stop => .stopEmpty .user
  | .restart => .stopEmpty .restart
  | .initializeWith credentials => .initConnection credentials
  | .destroy => .destroyRunning

/-! ### `Subscribe` -/

/-- A `Subscribe` goes on at `pc`. -/
def subscribeGoesOn (s : ConsumerState Callback) (pc : SubscribePc Callback) :
    ConsumerState Callback :=
  { s with subscribes := pc :: s.subscribes }

/-- The next step of a `Subscribe` at `pc`; `s.subscribes` holds the others in
flight. -/
def subscribeStep (s : ConsumerState Callback) :
    SubscribePc Callback → Option (ConsumerState Callback)
  | .add call =>
      let r := s.channelHandler.addChannelProcessor ⟨call.exchange, call.bindingKey⟩ call.callback
      let s := { s with channelHandler := r.1 }
      if r.2 = -1 then some (returnTo s .subscribe .unableToSubscribe)
      else some (subscribeGoesOn s (.setQueueProperties r.2 call.queueProps))
  | .setQueueProperties channel queueProps =>
      some (subscribeGoesOn { s with
        channelHandler := s.channelHandler.setQueueProperties channel queueProps }
          (.runningTest channel))
  | .runningTest channel =>
      if s.worker.holdsConsumerMutex then none
      else if s.threadRunning then some (subscribeGoesOn s (.push channel))
      else some (returnTo s .subscribe .allGood)
  | .push channel =>
      some (returnTo { s with pendingChannels := s.pendingChannels ++ [channel] } .subscribe
        .allGood)

/-! ### The system -/

/-- Everything that can happen next. -/
inductive Action (Callback : Type)
  | worker (input : WorkerInput)
  /-- `Subscribe`, up to the end of `IsInitialized()` -/
  | subscribe (call : SubscribeCall Callback)
  /-- the next step of the `k`-th `Subscribe` in flight -/
  | subscribeStep (k : Nat)
  | begin (call : ControlCall)
  /-- the next step of the `k`-th control call in flight -/
  | control (k : Nat) (reply : AmqpRpcReply)

/-- One step of the whole system. -/
def step (s : ConsumerState Callback) (action : Action Callback) :
    Option (ConsumerState Callback) :=
  if s.status = .running then
    match action with
    | .worker input => workerStep s input
    | .subscribe call =>
        if s.worker.holdsConsumerMutex then none
        else if s.isInitialized then some (subscribeGoesOn s (.add call))
        else some (returnTo s .subscribe .notInitialized)
    | .subscribeStep k =>
        match pick s.subscribes k with
        | none => none
        | some (pc, rest) => subscribeStep { s with subscribes := rest } pc
    | .begin call => some (goOn s call.entry)
    | .control k reply =>
        match pick s.controls k with
        | none => none
        | some (pc, rest) =>
            if pc.needsConsumerMutex && s.worker.holdsConsumerMutex then none
            else controlStep { s with controls := rest } reply pc
  else none

/-- The consumer as a transition system. -/
def system : TransitionSystem (ConsumerState Callback) (Action Callback) where
  init := initial
  step := step

/-- One control thread: a control call begins only when none is in flight, and
`Initialize` only while there is no worker. -/
def OneControl (s : ConsumerState Callback) : Action Callback → Prop
  | .begin (.initializeWith _) => s.controls = [] ∧ s.worker = .none
  | .begin _ => s.controls = []
  | _ => True

instance (s : ConsumerState Callback) : (action : Action Callback) → Decidable (OneControl s action)
  | .begin (.initializeWith _) => inferInstanceAs (Decidable (_ ∧ _))
  | .begin .start | .begin .stop | .begin .restart | .begin .destroy =>
      inferInstanceAs (Decidable (_ = _))
  | .worker _ | .subscribe _ | .subscribeStep _ | .control .. => inferInstanceAs (Decidable True)

end Consumer
end HareCpp
