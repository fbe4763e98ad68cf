import HareCpp.LiveHandle
import HareCpp.Message

/-!
# The producer and the threads that use it

A `Producer` object, its worker thread `Producer::thread`, any number of `Send`
calls in flight, any number of `Start`/`Stop`/`Restart`/`Initialize` calls and
the destructor, as one transition system.

A step is one section under `m_producerMutex`, one operation of `ConnectionBase`
(with one control thread nobody else uses the connection meanwhile; `Gatekeeper`
cuts these operations where several threads do), or one operation on the queue
where the code works on it without the mutex.  `WorkerPc`, `SendCall` and
`ControlPc` say where a thread stands between two such steps; the comments give
the code that comes next.

`std::unordered_map` is an association list with distinct keys; a loop over it
goes through the entries in an order that the step is given.  The queue holds
`shared_ptr`s: `objects` is what they point to, numbered in the order in which
`Send` made them.

`calls` and `notes` are histories, newest first: what rabbitmq-c was asked, and
what happened inside.  No step reads them.
-/

namespace HareCpp

open Library ConnectionBase

namespace Producer

/-- `Producer::ExchangeProperties`; the default type is `direct`. -/
structure ExchangeProperties where
  channel : Int := -1
  connected : Bool := false
  isDeclare : Bool := false
  type : Bytes := [100, 105, 114, 101, 99, 116]
  deriving DecidableEq, Repr

/-- `m_exchangeList`. -/
abbrev ExchangeList := List (Bytes × ExchangeProperties)

/-- Who called `closeConnection`. -/
inductive CloseCaller
  | connectChannels
  | publishNextInQueue
  deriving DecidableEq, Repr

/-- Where `Producer::thread` stands. -/
inductive WorkerPc
  /-- `m_producerThread` is not joinable -/
  | none
  /-- `while (IsRunning())` -/
  | loopTest
  /-- `if (false == isConnected())` -/
  | connectedTest
  /-- `m_connection->Connect()` -/
  | connect
  /-- `if (false == channelsConnected())` -/
  | channelsTest
  /-- `connectChannels`: `false == isConnected()` -/
  | guardConnected
  /-- `connectChannels`: `false == IsRunning()` -/
  | guardRunning
  /-- `connectChannels`: the loop under the mutex -/
  | openChannels
  /-- `closeConnection`: `m_connection->CloseConnection()` -/
  | close (caller : CloseCaller)
  /-- `clearActiveSendQueue`: `m_sendQueue.empty()` -/
  | clearTest (caller : CloseCaller)
  /-- `clearActiveSendQueue`: `m_sendQueue.front()` -/
  | clearFront (caller : CloseCaller)
  /-- `clearActiveSendQueue`: `m_sendQueue.pop()` -/
  | clearPop (caller : CloseCaller)
  /-- `publishNextInQueue`: `false == isConnected()` -/
  | publishTest
  /-- `publishNextInQueue`: `m_sendQueue.size() != 0` -/
  | sizeTest
  /-- `publishNextInQueue`: `m_sendQueue.front()` -/
  | front
  /-- `publishNextInQueue`: `m_connection->PublishMessage(..)` -/
  | publish (object : Nat)
  /-- `publishNextInQueue`: free and pop the front, under the mutex -/
  | popPublished
  /-- `thread` has returned and waits to be joined -/
  | returned
  deriving DecidableEq, Repr

/-- A `Send` between its two critical sections. -/
structure SendCall where
  exchange : Bytes
  routingKey : Bytes
  message : Message
  deriving DecidableEq, Repr

/-- What `Stop` goes back to. -/
inductive StopCaller
  | user
  | restart
  | destructor
  deriving DecidableEq, Repr

/-- Where a control call stands.  `restarting` marks a `Start` called by
`Restart`; `code` is the return code of `Stop` so far. -/
inductive ControlPc
  /-- `Start`: `IsInitialized()` -/
  | startInitialized (restarting : Bool)
  /-- `Start`: `IsRunning()` -/
  | startRunning (restarting : Bool)
  /-- `Start`: `setRunning(true)` -/
  | startSet (restarting : Bool)
  /-- `Start`: `m_producerThread = std::thread(&Producer::thread, this)` -/
  | startSpawn (restarting : Bool)
  /-- `Restart`: `IsInitialized()` -/
  | restartInitialized
  /-- `Stop`: `IsInitialized()` -/
  | stopInitialized (caller : StopCaller)
  /-- `Stop`: `IsRunning()` -/
  | stopRunning (caller : StopCaller)
  /-- `Stop`: `setRunning(false)` -/
  | stopSet (caller : StopCaller)
  /-- `Stop`: `m_producerThread.join()` -/
  | stopJoin (caller : StopCaller)
  /-- `Stop`: `m_channelsConnected = false` -/
  | stopFlag (caller : StopCaller)
  /-- `Stop`: `m_connection->CloseConnection()` -/
  | stopClose (caller : StopCaller) (code : HareError)
  /-- `Stop`, in `clearActiveSendQueue`: `m_sendQueue.empty()` -/
  | stopClearTest (caller : StopCaller) (code : HareError)
  /-- `Stop`, in `clearActiveSendQueue`: `m_sendQueue.front()` -/
  | stopClearFront (caller : StopCaller) (code : HareError)
  /-- `Stop`, in `clearActiveSendQueue`: `m_sendQueue.pop()` -/
  | stopClearPop (caller : StopCaller) (code : HareError)
  /-- `Initialize`: `m_connection = std::make_shared<ConnectionBase>(..)` -/
  | initConnection (credentials : LoginCredentials)
  /-- `Initialize`: `setInitialized(true)` -/
  | initInitialized
  /-- `Initialize`: `setRunning(false)` -/
  | initRunning
  /-- `~Producer`: `IsInitialized()` -/
  | destroyInitialized
  /-- `~Producer`: `IsRunning()` -/
  | destroyRunning
  /-- `~Producer`: `CloseChannel` for every exchange -/
  | destroyChannels
  /-- `~Producer`: `m_connection->CloseConnection()` -/
  | destroyClose
  /-- `~Producer`: the members are destroyed -/
  | destroyMembers
  deriving DecidableEq, Repr

/-- The control calls. -/
inductive ControlCall
  | start
  | stop
  | restart
  | initializeWith (credentials : LoginCredentials)
  | destroy
  deriving DecidableEq, Repr

/-- The calls whose return code is recorded. -/
inductive Api
  | start
  | stop
  | restart
  | initialized
  | declareExchange
  | send
  deriving DecidableEq, Repr

/-- What happened inside the producer.  `looked` marks the moments at which the
worker looked after the channels of the connection `handle`: it found
`m_channelsConnected` set, or `connectChannels` went through the whole table, in
which case `OpenChannel` may have been refused on some channels. -/
inductive Note
  | connected (handle : Option Nat) (table : ExchangeList)
  | added (channel : Int)
  | looked (handle : Option Nat) (refused : List Int)
  | pushed (object : Nat) (call : SendCall) (channel : Int)
  | dropped (object : Nat)
  | apiReturned (api : Api) (code : HareError)
  deriving DecidableEq, Repr

end Producer

/-- The producer's members, its threads and the two histories. -/
structure ProducerState where
  exchangeList : Producer.ExchangeList
  connection : Option ConnectionBase
  isInitialized : Bool
  threadRunning : Bool
  channelsConnected : Bool
  curChannelNumber : Int
  sendQueue : List Nat
  objects : Nat → RawMessage
  made : Nat
  worker : Producer.WorkerPc
  sends : List Producer.SendCall
  controls : List Producer.ControlPc
  status : RunStatus
  handles : Nat
  calls : List AmqpCall
  notes : List Producer.Note

namespace Producer

/-- The constructor. -/
def initial : ProducerState where
  exchangeList := []
  connection := none
  isInitialized := false
  threadRunning := false
  channelsConnected := false
  curChannelNumber := 1
  sendQueue := []
  objects := fun _ => {}
  made := 0
  worker := .none
  sends := []
  controls := []
  status := .running
  handles := 0
  calls := []
  notes := []

/-- `isConnected`. -/
def isConnected (s : ProducerState) : Bool :=
  match s.connection with
  | none => false
  | some base => base.isConnected

/-- The handle that `m_connection` works on. -/
def currentConn (s : ProducerState) : Option Nat := s.connection.bind (·.conn)

/-- `QueueSize`. -/
def queueSize (s : ProducerState) : Nat := s.sendQueue.length

/-- The run ends here: a null `m_connection`, an access to an empty queue, or a
misuse of `std::thread`. -/
def crash (s : ProducerState) : ProducerState := { s with status := .undefined }

/-- `addExchange(exchange, type)`. -/
def addExchangeTyped (s : ProducerState) (exchange type : Bytes) : ProducerState × Int :=
  match s.exchangeList.lookup exchange with
  | none =>
      ({ s with
        exchangeList := s.exchangeList ++
          [(exchange, { channel := s.curChannelNumber, isDeclare := true, type := type })]
        channelsConnected := false
        curChannelNumber := s.curChannelNumber + 1
        notes := .added s.curChannelNumber :: s.notes }, s.curChannelNumber)
  | some found =>
      ({ s with
        exchangeList := s.exchangeList.map fun entry =>
          if entry.1 = exchange then (entry.1, { entry.2 with isDeclare := true, type := type })
          else entry
        channelsConnected := false }, found.channel)

/-- `addExchange(exchange)`. -/
def addExchange (s : ProducerState) (exchange : Bytes) : ProducerState × Int :=
  match s.exchangeList.lookup exchange with
  | none =>
      ({ s with
        exchangeList := s.exchangeList ++ [(exchange, { channel := s.curChannelNumber })]
        channelsConnected := false
        curChannelNumber := s.curChannelNumber + 1
        notes := .added s.curChannelNumber :: s.notes }, s.curChannelNumber)
  | some found => (s, found.channel)

/-- `builtMessage` in `Send`.  The properties come with their pointers.  A body that
was never set stays unset here; that `Send` reads it is in `MessageBody`. -/
def builtMessage (call : SendCall) (channel : Int) : RawMessage where
  exchange := cstringBytes call.exchange
  channel := channel
  routingKey := cstringBytes call.routingKey
  properties := call.message.amqpProperties
  message := call.message.bytes

/-- The second section of `Send`: build the message and push it. -/
def pushMessage (s : ProducerState) (call : SendCall) (channel : Int) : ProducerState :=
  { s with
    objects := Function.update s.objects s.made (builtMessage call channel)
    sendQueue := s.sendQueue ++ [s.made]
    made := s.made + 1
    notes := .apiReturned .send .allGood :: .pushed s.made call channel :: s.notes }

/-- The answers to the calls that `connectChannels` makes for one exchange. -/
structure ChannelReplies where
  openReply : AmqpRpcReply := .normal
  closeOkStatus : Int := 0
  declareReply : AmqpRpcReply := .normal

/-- How the loop of `connectChannels` ends. -/
inductive LoopResult
  | serverFailure
  | finished (allGood : Bool)
  deriving DecidableEq, Repr

/-- The loop of `connectChannels`, with the calls it makes, newest first.  The
loop variable is a copy of the entry, so that `it.second.m_connected = true`
changes nothing that outlives the iteration. -/
def connectLoop (base : ConnectionBase) (replies : Bytes → ChannelReplies) :
    ExchangeList → Bool → LoopResult × List AmqpCall
  | [], allGood => (.finished allGood, [])
  | (name, it) :: rest, allGood =>
      if it.connected then connectLoop base replies rest allGood
      else
        let opened := base.openChannel it.channel (replies name).openReply
          (replies name).closeOkStatus
        if serverFailure opened.code then (.serverFailure, opened.calls)
        else if noError opened.code then
          if it.isDeclare then
            let declared := base.declareExchange it.channel name it.type
              (replies name).declareReply
            if serverFailure declared.code then
              (.serverFailure, declared.calls ++ opened.calls)
            else
              let later := connectLoop base replies rest allGood
              (later.1, later.2 ++ (declared.calls ++ opened.calls))
          else
            let later := connectLoop base replies rest allGood
            (later.1, later.2 ++ opened.calls)
        else
          let later := connectLoop base replies rest false
          (later.1, later.2 ++ opened.calls)

/-- What `OpenChannel` returns for an entry. -/
def openCode (base : ConnectionBase) (replies : Bytes → ChannelReplies)
    (entry : Bytes × ExchangeProperties) : HareError :=
  (base.openChannel entry.2.channel (replies entry.1).openReply
    (replies entry.1).closeOkStatus).code

/-- The channels on which `OpenChannel` does not succeed, for the notes. -/
def refusedChannels (base : ConnectionBase) (replies : Bytes → ChannelReplies)
    (entries : ExchangeList) : List Int :=
  (entries.filter fun entry => !noError (openCode base replies entry)).map (·.2.channel)

/-- What the library, the broker, the clock and the hash table contribute to a
step of the worker. -/
structure WorkerInput where
  connect : ConnectReplies := {}
  order : ExchangeList := []
  channels : Bytes → ChannelReplies := fun _ => {}
  closeReply : AmqpRpcReply := .normal
  now : UInt64 := 0
  publishStatus : Int := 0

/-- Where the worker goes on after `closeConnection`. -/
def afterClose : CloseCaller → WorkerPc
  | .connectChannels => .publishTest
  | .publishNextInQueue => .loopTest

/-- One step of `Producer::thread`. -/
def workerStep (s : ProducerState) (input : WorkerInput) : Option ProducerState :=
  match s.worker with
  | .none | .returned => none
  | .loopTest =>
      some { s with worker := if s.threadRunning then .connectedTest else .returned }
  | .connectedTest =>
      some { s with worker := if isConnected s then .channelsTest else .connect }
  | .connect =>
      match s.connection with
      | none => some (crash s)
      | some base =>
          let r := base.connect s.handles input.connect
          let s := { s with
            connection := some r.base
            handles := s.handles + 1
            calls := r.calls ++ s.calls }
          if noError r.code then
            some { s with
              worker := .channelsTest
              notes := .connected r.base.conn s.exchangeList :: s.notes }
          else some { s with worker := .loopTest }
  | .channelsTest =>
      if s.channelsConnected then
        some { s with worker := .publishTest, notes := .looked (currentConn s) [] :: s.notes }
      else some { s with worker := .guardConnected }
  | .guardConnected =>
      some { s with worker := if isConnected s then .guardRunning else .publishTest }
  | .guardRunning =>
      some { s with worker := if s.threadRunning then .openChannels else .publishTest }
  | .openChannels =>
      if input.order.isPerm s.exchangeList then
        match s.connection with
        | none => some (crash s)
        | some base =>
            let r := connectLoop base input.channels input.order true
            let s := { s with calls := r.2 ++ s.calls }
            match r.1 with
            | .serverFailure => some { s with worker := .close .connectChannels }
            | .finished allGood =>
                some { s with
                  worker := .publishTest
                  channelsConnected := s.channelsConnected || allGood
                  notes := .looked base.conn
                    (refusedChannels base input.channels input.order) :: s.notes }
      else none
  | .close caller =>
      match s.connection with
      | none => some (crash s)
      | some base =>
          let r := base.closeConnection input.closeReply
          -- the loop that follows clears `m_connected` in copies of the entries
          some { s with
            connection := some r.base
            calls := r.calls ++ s.calls
            worker := .clearTest caller }
  | .clearTest caller =>
      some { s with
        worker := if s.sendQueue.isEmpty then afterClose caller else .clearFront caller }
  | .clearFront caller =>
      match s.sendQueue with
      | [] => some (crash s)
      | _ :: _ => some { s with worker := .clearPop caller }
  | .clearPop caller =>
      match s.sendQueue with
      | [] => some (crash s)
      | object :: rest =>
          some { s with
            worker := .clearTest caller
            sendQueue := rest
            notes := .dropped object :: s.notes }
  | .publishTest =>
      some { s with worker := if isConnected s then .sizeTest else .loopTest }
  | .sizeTest =>
      some { s with worker := if s.sendQueue.length ≠ 0 then .front else .loopTest }
  | .front =>
      match s.sendQueue with
      | [] => some (crash s)
      | object :: _ => some { s with worker := .publish object }
  | .publish object =>
      match s.connection with
      | none => some (crash s)
      | some base =>
          let r := base.publishMessage object (s.objects object) input.now input.publishStatus
          let s := { s with
            objects := Function.update s.objects object r.2
            calls := r.1.calls ++ s.calls }
          if serverFailure r.1.code then some { s with worker := .close .publishNextInQueue }
          else if noError r.1.code then some { s with worker := .popPublished }
          else some { s with worker := .loopTest }
  | .popPublished =>
      match s.sendQueue with
      | [] => some (crash s)
      | _ :: rest => some { s with worker := .loopTest, sendQueue := rest }

/-! ### Control calls -/

/-- What the broker and the hash table contribute to a step of a control
call. -/
structure ControlInput where
  closeReply : AmqpRpcReply := .normal
  order : ExchangeList := []

/-- A control call goes on at `pc`. -/
def goOn (s : ProducerState) (pc : ControlPc) : ProducerState :=
  { s with controls := pc :: s.controls }

/-- A call returns to the user. -/
def returnTo (s : ProducerState) (api : Api) (code : HareError) : ProducerState :=
  { s with notes := .apiReturned api code :: s.notes }

/-- `Start` returns, to the user or from `Restart`. -/
def startReturns (s : ProducerState) (restarting : Bool) (code : HareError) : ProducerState :=
  returnTo s (if restarting then .restart else .start) code

/-- `Stop` returns; `Restart` goes on with `Start` if it succeeded. -/
def stopReturns (s : ProducerState) (caller : StopCaller) (code : HareError) : ProducerState :=
  match caller with
  | .user => returnTo s .stop code
  | .restart =>
      if noError code then goOn s (.startInitialized true) else returnTo s .restart code
  | .destructor => goOn s .destroyChannels

/-- The calls of the loop in `~Producer`, newest first. -/
def closeChannels (base : ConnectionBase) : ExchangeList → List AmqpCall
  | [] => []
  | (_, element) :: rest =>
      closeChannels base rest ++ (base.closeChannel element.channel).calls

/-- `CloseConnection` on `m_connection`, then on to `next`. -/
def closeThen (s : ProducerState) (reply : AmqpRpcReply) (next : ControlPc) : ProducerState :=
  match s.connection with
  | none => crash s
  | some base =>
      let r := base.closeConnection reply
      goOn { s with connection := some r.base, calls := r.calls ++ s.calls } next

/-- The next step of a control call at `pc`; `s.controls` holds the other calls
in flight. -/
def controlStep (s : ProducerState) (input : ControlInput) : ControlPc → Option ProducerState
  | .startInitialized restarting =>
      some (if s.isInitialized then goOn s (.startRunning restarting)
        else startReturns s restarting .notInitialized)
  | .startRunning restarting =>
      some (if s.threadRunning then startReturns s restarting .threadAlreadyRunning
        else goOn s (.startSet restarting))
  | .startSet restarting =>
      some (goOn { s with threadRunning := true } (.startSpawn restarting))
  | .startSpawn restarting =>
      -- assigning to a joinable `std::thread` terminates the program
      some (if s.worker = .none then
          startReturns { s with worker := .loopTest } restarting .allGood
        else crash s)
  | .restartInitialized =>
      some (if s.isInitialized then goOn s (.stopInitialized .restart)
        else returnTo s .restart .notInitialized)
  | .stopInitialized caller =>
      some (goOn s (if s.isInitialized then .stopRunning caller
        else .stopClose caller .notInitialized))
  | .stopRunning caller =>
      some (goOn s (if s.threadRunning then .stopSet caller
        else .stopClose caller .threadNotRunning))
  | .stopSet caller => some (goOn { s with threadRunning := false } (.stopJoin caller))
  | .stopJoin caller =>
      match s.worker with
      -- `join` on a thread that is not joinable throws
      | .none => some (crash s)
      | .returned => some (goOn { s with worker := .none } (.stopFlag caller))
      | _ => none
  | .stopFlag caller =>
      some (goOn { s with channelsConnected := false } (.stopClose caller .allGood))
  | .stopClose caller code =>
      -- the loop that follows clears `m_connected` in copies of the entries
      some (closeThen s input.closeReply (.stopClearTest caller code))
  | .stopClearTest caller code =>
      some (if s.sendQueue.isEmpty then stopReturns s caller code
        else goOn s (.stopClearFront caller code))
  | .stopClearFront caller code =>
      match s.sendQueue with
      | [] => some (crash s)
      | _ :: _ => some (goOn s (.stopClearPop caller code))
  | .stopClearPop caller code =>
      match s.sendQueue with
      | [] => some (crash s)
      | object :: rest =>
          some (goOn { s with sendQueue := rest, notes := .dropped object :: s.notes }
            (.stopClearTest caller code))
  | .initConnection credentials =>
      -- the object that `m_connection` held before closes its connection
      some (goOn { s with
        connection := some (ConnectionBase.new credentials)
        calls := releaseCalls s.connection input.closeReply ++ s.calls } .initInitialized)
  | .initInitialized => some (goOn { s with isInitialized := true } .initRunning)
  | .initRunning => some (returnTo { s with threadRunning := false } .initialized .allGood)
  | .destroyInitialized =>
      some (goOn s (if s.isInitialized then .destroyRunning else .destroyMembers))
  | .destroyRunning =>
      some (goOn s (if s.threadRunning then .stopInitialized .destructor else .destroyChannels))
  | .destroyChannels =>
      if input.order.isPerm s.exchangeList then
        match s.connection with
        | none => some (crash s)
        | some base =>
            some (goOn { s with calls := closeChannels base input.order ++ s.calls }
              .destroyClose)
      else none
  | .destroyClose => some (closeThen s input.closeReply .destroyMembers)
  | .destroyMembers =>
      if s.worker = .none then
        some { s with
          connection := none
          calls := releaseCalls s.connection input.closeReply ++ s.calls
          status := .destroyed }
      else some (crash s)

/-- Where a control call begins. -/
def ControlCall.entry : ControlCall → ControlPc
  | .start => .startInitialized false
  | .stop => .stopInitialized .user
  | .restart => .restartInitialized
  | .initializeWith credentials => .initConnection credentials
  | .destroy => .destroyInitialized

/-! ### The system -/

/-- Everything that can happen next. -/
inductive Action
  | worker (input : WorkerInput)
  | declareExchange (exchange type : Bytes)
  /-- `Send`, up to the end of `addExchange` -/
  | send (call : SendCall)
  /-- the second section of the `k`-th `Send` in flight -/
  | sendPush (k : Nat)
  | begin (call : ControlCall)
  /-- the next step of the `k`-th control call in flight -/
  | control (k : Nat) (input : ControlInput)

/-- The code `DeclareExchange` makes of the channel `addExchange` returned. -/
def declareCode (channel : Int) : HareError :=
  if channel ≠ -1 then .allGood else .invalidParameters

/-- One step of the whole system. -/
def step (s : ProducerState) (action : Action) : Option ProducerState :=
  if s.status = .running then
    match action with
    | .worker input => workerStep s input
    | .declareExchange exchange type =>
        let r := addExchangeTyped s exchange type
        some (returnTo r.1 .declareExchange (declareCode r.2))
    | .send call =>
        let r := addExchange s call.exchange
        if r.2 < 0 then some (returnTo r.1 .send .invalidParameters)
        else some { r.1 with sends := call :: r.1.sends }
    | .sendPush k =>
        match pick s.sends k with
        | none => none
        | some (call, rest) =>
            match s.exchangeList.lookup call.exchange with
            | some found => some (pushMessage { s with sends := rest } call found.channel)
            -- `m_exchangeList[exchange]` makes an entry when there is none
            | none =>
                let fresh : ExchangeProperties := {}
                some (pushMessage { s with
                  sends := rest
                  exchangeList := s.exchangeList ++ [(call.exchange, fresh)] } call
                    fresh.channel)
    | .begin call => some (goOn s call.entry)
    | .control k input =>
        match pick s.controls k with
        | none => none
        | some (pc, rest) => controlStep { s with controls := rest } input pc
  else none

/-- The producer as a transition system. -/
def system : TransitionSystem ProducerState Action where
  init := initial
  step := step

/-- One control thread: a control call begins only when none is in flight, and
`Initialize` only while there is no worker. -/
def OneControl (s : ProducerState) : Action → Prop
  | .begin (.initializeWith _) => s.controls = [] ∧ s.worker = .none
  | .begin _ => s.controls = []
  | _ => True

instance (s : ProducerState) : (action : Action) → Decidable (OneControl s action)
  | .begin (.initializeWith _) => inferInstanceAs (Decidable (_ ∧ _))
  | .begin .start | .begin .stop | .begin .restart | .begin .destroy =>
      inferInstanceAs (Decidable (_ = _))
  | .worker _ | .declareExchange .. | .send _ | .sendPush _ | .control .. =>
      inferInstanceAs (Decidable True)

end Producer
end HareCpp
