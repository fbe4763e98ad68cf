import HareCpp.Consumer.System

/-!
# What a step of the consumer can do

The step function read backwards, once, as for the producer.  `WorkerMove`,
`SubscribeMove` and `ControlMove` are the cases; the invariants of the consumer
are proved over these and never unfold `workerStep`, `subscribeStep` or
`controlStep`.  The frames at the end say what each kind of step leaves alone.
-/

namespace HareCpp
namespace Consumer

open Library ConnectionBase

variable {Callback : Type} {s s' : ConsumerState Callback}

/-! ### The worker -/

/-- The worker moves on without changing anything. -/
inductive WorkerGoto (s : ConsumerState Callback) (input : WorkerInput) : WorkerPc → Prop
  | loopOn (hpc : s.worker = .loopTest) (hrunning : s.threadRunning = true) :
      WorkerGoto s input .connectedTest
  | loopEnd (hpc : s.worker = .loopTest) (hrunning : s.threadRunning = false) :
      WorkerGoto s input .returned
  | foundConnected (hpc : s.worker = .connectedTest) (hconnected : isConnected s = true) :
      WorkerGoto s input .pullTest
  | foundClosed (hpc : s.worker = .connectedTest) (hconnected : isConnected s = false) :
      WorkerGoto s input .connect
  | listed (hpc : s.worker = .startList)
      (horder : input.order.Perm s.channelHandler.getChannelList) :
      WorkerGoto s input (nextChannel .allGood input.order)
  | pullOn (hpc : s.worker = .pullTest) (hconnected : isConnected s = true) :
      WorkerGoto s input .pullRelease
  | pullOff (hpc : s.worker = .pullTest) (hconnected : isConnected s = false) :
      WorkerGoto s input .pendingTest
  | failedRunning (hpc : s.worker = .pullRunning) (hrunning : s.threadRunning = true) :
      WorkerGoto s input .pullClose
  | failedStopped (hpc : s.worker = .pullRunning) (hrunning : s.threadRunning = false) :
      WorkerGoto s input .pendingTest
  | pendingSome (hpc : s.worker = .pendingTest) (hpending : s.pendingChannels ≠ []) :
      WorkerGoto s input .pendingPop
  | pendingNone (hpc : s.worker = .pendingTest) (hpending : s.pendingChannels = []) :
      WorkerGoto s input .loopTest

/-- Everything a step of the worker can do. -/
inductive WorkerMove (s : ConsumerState Callback) (input : WorkerInput) :
    ConsumerState Callback → Prop
  | goto (next : WorkerPc) (hnext : WorkerGoto s input next) :
      WorkerMove s input { s with worker := next }
  | crash (hpc : s.worker ≠ .none)
      (hwhy : s.connection = none ∨ (s.worker = .pendingPop ∧ s.pendingChannels = [])) :
      WorkerMove s input (crash s)
  | connected (base : ConnectionBase) (hpc : s.worker = .connect)
      (hbase : s.connection = some base)
      (hcode : (base.connect s.handles input.connect).code = .allGood) :
      WorkerMove s input { s with
        connection := some (base.connect s.handles input.connect).base
        handles := s.handles + 1
        calls := (base.connect s.handles input.connect).calls ++ s.calls
        worker := .startEmpty
        notes := .connected (base.connect s.handles input.connect).base.conn :: s.notes }
  | connectFailed (base : ConnectionBase) (hpc : s.worker = .connect)
      (hbase : s.connection = some base)
      (hcode : (base.connect s.handles input.connect).code ≠ .allGood) :
      WorkerMove s input { s with
        connection := some (base.connect s.handles input.connect).base
        handles := s.handles + 1
        calls := (base.connect s.handles input.connect).calls ++ s.calls
        worker := .pendingTest }
  | emptied (hpc : s.worker = .startEmpty) :
      WorkerMove s input { s with worker := .startList, pendingChannels := [] }
  | opened (caller : SetupCaller) (channel : Int) (base : ConnectionBase)
      (hpc : s.worker = .setupOpen caller channel) (hbase : s.connection = some base) :
      WorkerMove s input { s with
        calls := (base.openChannel channel input.reply input.closeOkStatus).calls ++ s.calls
        worker := setupGoesOn caller channel
          (base.openChannel channel input.reply input.closeOkStatus).code
          (.setupProperties caller channel) }
  | propertiesRead (caller : SetupCaller) (channel : Int)
      (hpc : s.worker = .setupProperties caller channel) :
      WorkerMove s input { s with
        worker := .setupDeclare caller channel (s.channelHandler.getQueueProperties channel) }
  | declared (caller : SetupCaller) (channel : Int) (base : ConnectionBase) (queue : AmqpBytes)
      {queueProps : QueueProperties} (hpc : s.worker = .setupDeclare caller channel queueProps)
      (hbase : s.connection = some base) (hreply : input.reply.replyType = .normal)
      (hqueue : queue = some input.declared) :
      WorkerMove s input { s with
        calls := .queueDeclare base.conn channel queueProps input.reply :: s.calls
        channelHandler := s.channelHandler.setQueueName channel queue
        worker := .setupBind caller channel queue }
  | refused (caller : SetupCaller) (channel : Int) (base : ConnectionBase) (queue : AmqpBytes)
      {queueProps : QueueProperties} (hpc : s.worker = .setupDeclare caller channel queueProps)
      (hbase : s.connection = some base) (hreply : input.reply.replyType ≠ .normal) :
      WorkerMove s input (Consumer.crash { s with
        calls := .queueDeclare base.conn channel queueProps input.reply :: s.calls
        channelHandler := s.channelHandler.setQueueName channel queue
        worker := .setupBind caller channel queue })
  | bound (caller : SetupCaller) (channel : Int) (base : ConnectionBase) (queue : AmqpBytes)
      (hpc : s.worker = .setupBind caller channel queue) (hbase : s.connection = some base) :
      WorkerMove s input { s with
        calls := .queueBind base.conn channel queue
          (cstringBytes (s.channelHandler.getExchange channel))
          (cstringBytes (s.channelHandler.getBindingKey channel)) input.reply :: s.calls
        worker := setupGoesOn caller channel (decodeRpcReply input.reply)
          (.setupConsume caller channel queue) }
  | consumed (caller : SetupCaller) (channel : Int) (base : ConnectionBase) (queue : AmqpBytes)
      (hpc : s.worker = .setupConsume caller channel queue) (hbase : s.connection = some base)
      (hcode : decodeRpcReply input.reply = .allGood) :
      WorkerMove s input (setupReturns { s with
        calls := .basicConsume base.conn channel queue input.reply :: s.calls } caller channel
          .allGood)
  | consumeFailed (caller : SetupCaller) (channel : Int) (base : ConnectionBase)
      (queue : AmqpBytes) (hpc : s.worker = .setupConsume caller channel queue)
      (hbase : s.connection = some base) (hcode : decodeRpcReply input.reply ≠ .allGood) :
      WorkerMove s input { s with
        calls := .basicConsume base.conn channel queue input.reply :: s.calls
        worker := .setupPush caller channel (decodeRpcReply input.reply) }
  | pushed (caller : SetupCaller) (channel : Int) (code : HareError)
      (hpc : s.worker = .setupPush caller channel code) :
      WorkerMove s input (setupReturns { s with
        pendingChannels := s.pendingChannels ++ [channel] } caller channel code)
  | closed (base : ConnectionBase) (hpc : s.worker = .startClose ∨ s.worker = .pullClose)
      (hbase : s.connection = some base) :
      WorkerMove s input { s with
        connection := some (base.closeConnection input.reply).base
        calls := (base.closeConnection input.reply).calls ++ s.calls
        worker := .pendingTest }
  | released (base : ConnectionBase) (hpc : s.worker = .pullRelease)
      (hbase : s.connection = some base) :
      WorkerMove s input { s with
        calls := .maybeReleaseBuffers base.conn :: s.calls
        worker := .pullConsume }
  | pulled (base : ConnectionBase) (next : WorkerPc) (hpc : s.worker = .pullConsume)
      (hbase : s.connection = some base)
      (hnext : next = .pullProcess input.envelope ∨ next = .pullRunning ∨ next = .pendingTest) :
      WorkerMove s input { s with
        calls := (base.consumeMessage input.reply).calls ++ s.calls
        worker := next }
  | processed (envelope : AmqpEnvelope) (hpc : s.worker = .pullProcess envelope) :
      WorkerMove s input { s with
        worker := .pendingTest
        notes := (processEnvelope s.channelHandler envelope).map
          (fun invocation => .invoked invocation.1 invocation.2) ++ s.notes }
  | popped (channel : Int) (rest : List Int) (hpc : s.worker = .pendingPop)
      (hpending : s.pendingChannels = channel :: rest) :
      WorkerMove s input { s with
        worker := .setupOpen .retry channel
        pendingChannels := rest }

theorem isConnected_of_connection {base : ConnectionBase} (hbase : s.connection = some base) :
    isConnected s = base.isConnected := by
  rw [isConnected, hbase]

/-- `workerStep` does nothing else. -/
theorem workerMove_of_step {input : WorkerInput} (h : workerStep s input = some s') :
    WorkerMove s input s' := by
  cases hpc : s.worker with
  | none | returned =>
      rw [workerStep, hpc] at h
      cases h
  | loopTest =>
      rw [workerStep, hpc] at h
      cases h
      refine .goto _ ?_
      split
      · next hrunning => exact .loopOn hpc hrunning
      · next hrunning => exact .loopEnd hpc (by simpa using hrunning)
  | connectedTest =>
      simp only [workerStep, hpc] at h
      split at h
      · next hnone => cases h; exact .crash (by simp [hpc]) (.inl hnone)
      · next base hbase =>
          cases h
          refine .goto _ ?_
          split
          · next hup => exact .foundConnected hpc (by rwa [isConnected_of_connection hbase])
          · next hup =>
              exact .foundClosed hpc (by rw [isConnected_of_connection hbase]; simpa using hup)
  | connect =>
      simp only [workerStep, hpc] at h
      split at h
      · next hnone => cases h; exact .crash (by simp [hpc]) (.inl hnone)
      · next base hbase =>
          split at h
          · next hcode => cases h; exact .connected base hpc hbase (by simpa using hcode)
          · next hcode => cases h; exact .connectFailed base hpc hbase (by simpa using hcode)
  | startEmpty =>
      rw [workerStep, hpc] at h
      cases h
      exact .emptied hpc
  | startList =>
      simp only [workerStep, hpc] at h
      split at h
      · next horder => cases h; exact .goto _ (.listed hpc (List.isPerm_iff.mp horder))
      · cases h
  | setupOpen caller channel =>
      simp only [workerStep, hpc] at h
      split at h
      · next hnone => cases h; exact .crash (by simp [hpc]) (.inl hnone)
      · next base hbase => cases h; exact .opened caller channel base hpc hbase
  | setupProperties caller channel =>
      rw [workerStep, hpc] at h
      cases h
      exact .propertiesRead caller channel hpc
  | setupDeclare caller channel queueProps =>
      simp only [workerStep, hpc] at h
      split at h
      · next hnone => cases h; exact .crash (by simp [hpc]) (.inl hnone)
      · next base hbase =>
          cases h
          split
          · next hdefined =>
              have hreply := (declareQueue_defined ..).mp hdefined
              exact .declared caller channel base _ hpc hbase hreply
                (declareQueue_retQueue _ _ _ _ _ hreply)
          · next hdefined =>
              exact .refused caller channel base _ hpc hbase
                fun hreply => hdefined ((declareQueue_defined ..).mpr hreply)
  | setupBind caller channel queue =>
      simp only [workerStep, hpc] at h
      split at h
      · next hnone => cases h; exact .crash (by simp [hpc]) (.inl hnone)
      · next base hbase => cases h; exact .bound caller channel base queue hpc hbase
  | setupConsume caller channel queue =>
      simp only [workerStep, hpc] at h
      split at h
      · next hnone => cases h; exact .crash (by simp [hpc]) (.inl hnone)
      · next base hbase =>
          split at h
          · next hcode =>
              have hcode : decodeRpcReply input.reply = .allGood := by
                simpa [ConnectionBase.startConsumption] using hcode
              cases h
              simp only [ConnectionBase.startConsumption, hcode]
              exact .consumed caller channel base queue hpc hbase hcode
          · next hcode =>
              cases h
              exact .consumeFailed caller channel base queue hpc hbase
                (by simpa [ConnectionBase.startConsumption] using hcode)
  | setupPush caller channel code =>
      rw [workerStep, hpc] at h
      cases h
      exact .pushed caller channel code hpc
  | startClose =>
      simp only [workerStep, hpc] at h
      split at h
      · next hnone => cases h; exact .crash (by simp [hpc]) (.inl hnone)
      · next base hbase => cases h; exact .closed base (.inl hpc) hbase
  | pullTest =>
      simp only [workerStep, hpc] at h
      split at h
      · next hnone => cases h; exact .crash (by simp [hpc]) (.inl hnone)
      · next base hbase =>
          cases h
          refine .goto _ ?_
          split
          · next hup => exact .pullOn hpc (by rwa [isConnected_of_connection hbase])
          · next hup =>
              exact .pullOff hpc (by rw [isConnected_of_connection hbase]; simpa using hup)
  | pullRelease =>
      simp only [workerStep, hpc] at h
      split at h
      · next hnone => cases h; exact .crash (by simp [hpc]) (.inl hnone)
      · next base hbase => cases h; exact .released base hpc hbase
  | pullConsume =>
      simp only [workerStep, hpc] at h
      split at h
      · next hnone => cases h; exact .crash (by simp [hpc]) (.inl hnone)
      · next base hbase =>
          split at h
          · cases h; exact .pulled base _ hpc hbase (.inl rfl)
          · split at h
            · cases h; exact .pulled base _ hpc hbase (.inr (.inl rfl))
            · cases h; exact .pulled base _ hpc hbase (.inr (.inr rfl))
  | pullProcess envelope =>
      rw [workerStep, hpc] at h
      cases h
      exact .processed envelope hpc
  | pullRunning =>
      rw [workerStep, hpc] at h
      cases h
      refine .goto _ ?_
      split
      · next hrunning => exact .failedRunning hpc hrunning
      · next hrunning => exact .failedStopped hpc (by simpa using hrunning)
  | pullClose =>
      simp only [workerStep, hpc] at h
      split at h
      · next hnone => cases h; exact .crash (by simp [hpc]) (.inl hnone)
      · next base hbase => cases h; exact .closed base (.inr hpc) hbase
  | pendingTest =>
      rw [workerStep, hpc] at h
      cases h
      refine .goto _ ?_
      split
      · next hpending => exact .pendingSome hpc (by simpa using hpending)
      · next hpending => exact .pendingNone hpc (by simpa using hpending)
  | pendingPop =>
      simp only [workerStep, hpc] at h
      split at h
      · next hpending => cases h; exact .crash (by simp [hpc]) (.inr ⟨hpc, hpending⟩)
      · next channel rest hpending => cases h; exact .popped channel rest hpc hpending

/-! ### Control calls -/

/-- A control call moves on without changing anything. -/
inductive ControlGoto (s : ConsumerState Callback) : ControlPc → ControlPc → Prop
  | stopInitialized (caller : StopCaller) (hinit : s.isInitialized = true) :
      ControlGoto s (.stopInitialized caller) (.stopRunning caller)
  | stopRunning (caller : StopCaller) (hrunning : s.threadRunning = true) :
      ControlGoto s (.stopRunning caller) (.stopSet caller)
  | destroyRunning (hrunning : s.threadRunning = true) :
      ControlGoto s .destroyRunning (.stopEmpty .destructor)
  | destroyIdle (hrunning : s.threadRunning = false) :
      ControlGoto s .destroyRunning .destroyClose
  | destroyUninitialized (hinit : s.isInitialized = false) :
      ControlGoto s .destroyClose .destroyMembers

/-- Everything a step of a control call can do; `s.controls` holds the other
calls in flight. -/
inductive ControlMove (s : ConsumerState Callback) (reply : AmqpRpcReply) :
    ControlPc → ConsumerState Callback → Prop
  | goto (pc next : ControlPc) (hnext : ControlGoto s pc next) :
      ControlMove s reply pc (goOn s next)
  | startRefused (restarting : Bool) (code : HareError)
      (hwhy : s.isInitialized = false ∨ s.threadRunning = true) :
      ControlMove s reply (.start restarting) (startReturns s restarting code)
  | started (restarting : Bool) (hinit : s.isInitialized = true)
      (hrunning : s.threadRunning = false) (hworker : s.worker = .none) :
      ControlMove s reply (.start restarting)
        (startReturns { s with threadRunning := true, worker := .loopTest } restarting .allGood)
  | emptied (caller : StopCaller) :
      ControlMove s reply (.stopEmpty caller)
        (goOn { s with pendingChannels := [] } (.stopInitialized caller))
  | stopRefused (pc : ControlPc) (caller : StopCaller) (code : HareError)
      (hpc : (pc = .stopInitialized caller ∧ s.isInitialized = false ∧ code = .notInitialized) ∨
        (pc = .stopRunning caller ∧ s.threadRunning = false ∧ code = .threadNotRunning)) :
      ControlMove s reply pc (stopReturns s caller code)
  | stopSet (caller : StopCaller) :
      ControlMove s reply (.stopSet caller)
        (goOn { s with threadRunning := false } (.stopJoin caller))
  | joined (caller : StopCaller) (hworker : s.worker = .returned) :
      ControlMove s reply (.stopJoin caller)
        (goOn { s with worker := .none } (.stopClose caller))
  | stopped (caller : StopCaller) (base : ConnectionBase) (hbase : s.connection = some base) :
      ControlMove s reply (.stopClose caller) (stopReturns { s with
        connection := some (base.closeConnection reply).base
        calls := (base.closeConnection reply).calls ++ s.calls } caller
          (base.closeConnection reply).code)
  | initConnection (credentials : LoginCredentials) :
      ControlMove s reply (.initConnection credentials) (goOn { s with
        connection := some (ConnectionBase.new credentials)
        calls := releaseCalls s.connection reply ++ s.calls } .initInitialized)
  | initInitialized :
      ControlMove s reply .initInitialized (goOn { s with isInitialized := true } .initRunning)
  | initRunning :
      ControlMove s reply .initRunning
        (returnTo { s with threadRunning := false } .initialized .allGood)
  | destroyClosed (base : ConnectionBase) (hinit : s.isInitialized = true)
      (hbase : s.connection = some base) :
      ControlMove s reply .destroyClose (goOn { s with
        connection := some (base.closeConnection reply).base
        calls := (base.closeConnection reply).calls ++ s.calls
        isInitialized := false } .destroyMembers)
  | destroyed (hworker : s.worker = .none) :
      ControlMove s reply .destroyMembers { s with
        connection := none
        calls := releaseCalls s.connection reply ++ s.calls
        status := .destroyed }
  | crash (pc : ControlPc) (hpc : ∀ credentials, pc ≠ .initConnection credentials) :
      ControlMove s reply pc (crash s)

/-- `controlStep` does nothing else. -/
theorem controlMove_of_step {reply : AmqpRpcReply} {pc : ControlPc}
    (h : controlStep s reply pc = some s') : ControlMove s reply pc s' := by
  cases pc with
  | start restarting =>
      simp only [controlStep] at h
      split at h
      · next hinit => cases h; exact .startRefused restarting _ (.inl hinit)
      · next hinit =>
          split at h
          · next hrunning => cases h; exact .startRefused restarting _ (.inr hrunning)
          · next hrunning =>
              split at h
              · next hworker =>
                  cases h
                  exact .started restarting (by simpa using hinit) (by simpa using hrunning)
                    hworker
              · cases h; exact .crash _ (by simp)
  | stopEmpty caller => cases h; exact .emptied caller
  | stopInitialized caller =>
      cases h
      split
      · next hinit => exact .goto _ _ (.stopInitialized caller hinit)
      · next hinit =>
          exact .stopRefused _ caller _ (.inl ⟨rfl, by simpa using hinit, rfl⟩)
  | stopRunning caller =>
      cases h
      split
      · next hrunning => exact .goto _ _ (.stopRunning caller hrunning)
      · next hrunning =>
          exact .stopRefused _ caller _ (.inr ⟨rfl, by simpa using hrunning, rfl⟩)
  | stopSet caller => cases h; exact .stopSet caller
  | stopJoin caller =>
      rw [controlStep] at h
      split at h
      · cases h; exact .crash _ (by simp)
      · next hworker => cases h; exact .joined caller hworker
      · cases h
  | stopClose caller =>
      simp only [controlStep] at h
      split at h
      · cases h; exact .crash _ (by simp)
      · next base hbase => cases h; exact .stopped caller base hbase
  | initConnection credentials => cases h; exact .initConnection credentials
  | initInitialized => cases h; exact .initInitialized
  | initRunning => cases h; exact .initRunning
  | destroyRunning =>
      cases h
      refine .goto _ _ ?_
      split
      · next hrunning => exact .destroyRunning hrunning
      · next hrunning => exact .destroyIdle (by simpa using hrunning)
  | destroyClose =>
      simp only [controlStep] at h
      split at h
      · next hinit =>
          split at h
          · cases h; exact .crash _ (by simp)
          · next base hbase => cases h; exact .destroyClosed base hinit hbase
      · next hinit => cases h; exact .goto _ _ (.destroyUninitialized (by simpa using hinit))
  | destroyMembers =>
      rw [controlStep] at h
      split at h
      · next hworker => cases h; exact .destroyed hworker
      · cases h; exact .crash _ (by simp)

/-! ### `Subscribe` -/

/-- Everything a step of a `Subscribe` in flight can do; `s.subscribes` holds the
others. -/
inductive SubscribeMove (s : ConsumerState Callback) :
    SubscribePc Callback → ConsumerState Callback → Prop
  | known (call : SubscribeCall Callback)
      (hchannel : (s.channelHandler.addChannelProcessor ⟨call.exchange, call.bindingKey⟩
        call.callback).2 = -1) :
      SubscribeMove s (.add call) (returnTo { s with
        channelHandler := (s.channelHandler.addChannelProcessor
          ⟨call.exchange, call.bindingKey⟩ call.callback).1 } .subscribe .unableToSubscribe)
  | added (call : SubscribeCall Callback)
      (hchannel : (s.channelHandler.addChannelProcessor ⟨call.exchange, call.bindingKey⟩
        call.callback).2 ≠ -1) :
      SubscribeMove s (.add call) (subscribeGoesOn { s with
        channelHandler := (s.channelHandler.addChannelProcessor
          ⟨call.exchange, call.bindingKey⟩ call.callback).1 }
            (.setQueueProperties (s.channelHandler.addChannelProcessor
              ⟨call.exchange, call.bindingKey⟩ call.callback).2 call.queueProps))
  | propertiesSet (channel : Int) (queueProps : QueueProperties) :
      SubscribeMove s (.setQueueProperties channel queueProps) (subscribeGoesOn { s with
        channelHandler := s.channelHandler.setQueueProperties channel queueProps }
          (.runningTest channel))
  | running (channel : Int) (hfree : s.worker.holdsConsumerMutex = false)
      (hrunning : s.threadRunning = true) :
      SubscribeMove s (.runningTest channel) (subscribeGoesOn s (.push channel))
  | notRunning (channel : Int) (hfree : s.worker.holdsConsumerMutex = false)
      (hrunning : s.threadRunning = false) :
      SubscribeMove s (.runningTest channel) (returnTo s .subscribe .allGood)
  | pushed (channel : Int) :
      SubscribeMove s (.push channel) (returnTo { s with
        pendingChannels := s.pendingChannels ++ [channel] } .subscribe .allGood)

/-- `subscribeStep` does nothing else. -/
theorem subscribeMove_of_step {pc : SubscribePc Callback}
    (h : subscribeStep s pc = some s') : SubscribeMove s pc s' := by
  cases pc with
  | add call =>
      simp only [subscribeStep] at h
      split at h
      · next hchannel => cases h; exact .known call hchannel
      · next hchannel => cases h; exact .added call hchannel
  | setQueueProperties channel queueProps => cases h; exact .propertiesSet channel queueProps
  | runningTest channel =>
      simp only [subscribeStep] at h
      split at h
      · cases h
      · next hfree =>
          have hfree : s.worker.holdsConsumerMutex = false := by simpa using hfree
          split at h
          · next hrunning => cases h; exact .running channel hfree hrunning
          · next hrunning => cases h; exact .notRunning channel hfree (by simpa using hrunning)
  | push channel => cases h; exact .pushed channel

/-! ### The system -/

/-- Everything a step of the system can do. -/
inductive Move (s : ConsumerState Callback) : Action Callback → ConsumerState Callback → Prop
  | worker (input : WorkerInput) (s' : ConsumerState Callback) (hmove : WorkerMove s input s') :
      Move s (.worker input) s'
  | subscribeRefused (call : SubscribeCall Callback) (hinit : s.isInitialized = false) :
      Move s (.subscribe call) (returnTo s .subscribe .notInitialized)
  | subscribeBegins (call : SubscribeCall Callback) (hinit : s.isInitialized = true) :
      Move s (.subscribe call) (subscribeGoesOn s (.add call))
  | subscribe (k : Nat) (pc : SubscribePc Callback) (rest : List (SubscribePc Callback))
      (s' : ConsumerState Callback) (hpick : pick s.subscribes k = some (pc, rest))
      (hmove : SubscribeMove { s with subscribes := rest } pc s') :
      Move s (.subscribeStep k) s'
  | begin (call : ControlCall) : Move s (.begin call) (goOn s call.entry)
  | control (k : Nat) (reply : AmqpRpcReply) (pc : ControlPc) (rest : List ControlPc)
      (s' : ConsumerState Callback) (hpick : pick s.controls k = some (pc, rest))
      (hfree : pc.needsConsumerMutex = true → s.worker.holdsConsumerMutex = false)
      (hmove : ControlMove { s with controls := rest } reply pc s') :
      Move s (.control k reply) s'

/-- `step` does nothing else, and only while the run goes on. -/
theorem move_of_step {action : Action Callback} (h : step s action = some s') :
    s.status = .running ∧ Move s action s' := by
  unfold step at h
  split at h
  · next hstatus =>
      refine ⟨hstatus, ?_⟩
      cases action with
      | worker input => exact .worker input s' (workerMove_of_step h)
      | subscribe call =>
          dsimp only at h
          split at h
          · cases h
          · split at h
            · next hinit => cases h; exact .subscribeBegins call hinit
            · next hinit => cases h; exact .subscribeRefused call (by simpa using hinit)
      | subscribeStep k =>
          dsimp only at h
          split at h
          · cases h
          · next pc rest hpick => exact .subscribe k pc rest s' hpick (subscribeMove_of_step h)
      | begin call => cases h; exact .begin call
      | control k reply =>
          dsimp only at h
          split at h
          · cases h
          · next pc rest hpick =>
              split at h
              · cases h
              · next hfree =>
                  refine .control k reply pc rest s' hpick ?_ (controlMove_of_step h)
                  intro hneeds
                  simpa [hneeds] using hfree
  · cases h

/-- The first step of a run of the consumer. -/
theorem run_step {action : Action Callback} (hstep : step s action = some s')
    (rest : List (Action Callback)) :
    system.run (fun _ _ => True) s (action :: rest) =
      system.run (fun _ _ => True) s' rest :=
  TransitionSystem.run_cons system trivial hstep rest

/-! ### What the steps leave alone -/

/-- Where the loop of `startConsumption` can go on. -/
theorem nextChannel_cases (code : HareError) (channels : List Int) :
    (channels = [] ∧ nextChannel code channels = .pullTest) ∨
    (channels = [] ∧ nextChannel code channels = .pendingTest) ∨
    ∃ channel rest, channels = channel :: rest ∧
      nextChannel code channels = .setupOpen (.startUp rest) channel := by
  cases channels with
  | nil =>
      rw [nextChannel]
      split <;> simp
  | cons channel rest => exact .inr (.inr ⟨channel, rest, rfl, rfl⟩)

/-- Where the worker can go on after `setupAndConsume`. -/
theorem afterSetup_cases (code : HareError) (caller : SetupCaller) :
    (caller = .retry ∧ afterSetup code caller = .loopTest) ∨
    (∃ rest, caller = .startUp rest ∧ serverFailure code = true ∧
      afterSetup code caller = .startClose) ∨
    ∃ rest, caller = .startUp rest ∧ serverFailure code = false ∧
      afterSetup code caller = nextChannel code rest := by
  cases caller with
  | retry => exact .inl ⟨rfl, rfl⟩
  | startUp rest =>
      rw [afterSetup]
      split
      · next hcode => exact .inr (.inl ⟨rest, rfl, hcode, rfl⟩)
      · next hcode => exact .inr (.inr ⟨rest, rfl, by simpa using hcode, rfl⟩)

/-- Where a step of `setupAndConsume` can go on. -/
theorem setupGoesOn_cases (caller : SetupCaller) (channel : Int) (code : HareError)
    (next : WorkerPc) :
    (code = .allGood ∧ setupGoesOn caller channel code next = next) ∨
    (code ≠ .allGood ∧
      setupGoesOn caller channel code next = .setupPush caller channel code) := by
  by_cases hcode : code = .allGood
  · simp [setupGoesOn, hcode]
  · simp [setupGoesOn, hcode]

/-- Where the worker can stand after `setupAndConsume` or the start of the loop,
without the details. -/
theorem afterSetup_place (code : HareError) (caller : SetupCaller) :
    afterSetup code caller ∈ [.loopTest, .startClose, .pullTest, .pendingTest] ∨
      ∃ rest channel, afterSetup code caller = .setupOpen (.startUp rest) channel := by
  rcases afterSetup_cases code caller with ⟨-, h⟩ | ⟨rest, -, -, h⟩ | ⟨rest, -, -, h⟩
  · simp [h]
  · simp [h]
  · rcases nextChannel_cases code rest with ⟨-, h'⟩ | ⟨-, h'⟩ | ⟨channel, rest', -, h'⟩
    · simp [h, h']
    · simp [h, h']
    · exact .inr ⟨rest', channel, h.trans h'⟩

/-- The places to which only a test leads the worker, and `none`, to which it does not
go by itself. -/
def WorkerPc.afterTest : WorkerPc → Bool
  | .none | .connectedTest | .connect | .pullRelease | .pullClose | .pendingPop | .returned => true
  | _ => false

theorem afterTest_nextChannel (code : HareError) (channels : List Int) :
    (nextChannel code channels).afterTest = false := by
  rcases nextChannel_cases code channels with ⟨-, h⟩ | ⟨-, h⟩ | ⟨channel, rest, -, h⟩ <;>
    rw [h] <;> rfl

theorem afterTest_afterSetup (code : HareError) (caller : SetupCaller) :
    (afterSetup code caller).afterTest = false := by
  rcases afterSetup_cases code caller with ⟨-, h⟩ | ⟨rest, -, -, h⟩ | ⟨rest, -, -, h⟩
  · rw [h]
    rfl
  · rw [h]
    rfl
  · rw [h]
    exact afterTest_nextChannel code rest

theorem afterTest_setupGoesOn (caller : SetupCaller) (channel : Int) (code : HareError)
    {next : WorkerPc} (hnext : next.afterTest = false) :
    (setupGoesOn caller channel code next).afterTest = false := by
  rcases setupGoesOn_cases caller channel code next with ⟨-, h⟩ | ⟨-, h⟩
  · rwa [h]
  · rw [h]
    rfl

/-- How the worker gets to such a place, if it does not stay there in a crash. -/
theorem WorkerMove.toTested {input : WorkerInput} (hmove : WorkerMove s input s')
    (hplace : s'.worker.afterTest = true) :
    s' = Consumer.crash s ∨
      ∃ next, WorkerGoto s input next ∧ s.worker ≠ .startList ∧ s' = { s with worker := next } := by
  have hnot : s'.worker.afterTest ≠ false := by simp [hplace]
  cases hmove with
  | goto next hnext =>
      refine .inr ⟨next, hnext, ?_, rfl⟩
      intro hlist
      cases hnext with
      | listed => exact hnot (afterTest_nextChannel _ _)
      | _ => simp_all
  | crash => exact .inl rfl
  | opened => exact absurd (afterTest_setupGoesOn _ _ _ rfl) hnot
  | bound => exact absurd (afterTest_setupGoesOn _ _ _ rfl) hnot
  | consumed => exact absurd (afterTest_afterSetup _ _) hnot
  | pushed => exact absurd (afterTest_afterSetup _ _) hnot
  | pulled base next _ _ hnext => rcases hnext with rfl | rfl | rfl <;> cases hplace
  | _ => cases hplace

/-- A worker that moves is alive and stays alive. -/
theorem WorkerMove.alive {input : WorkerInput} (h : WorkerMove s input s') :
    s.worker ≠ .none ∧ s'.worker ≠ .none := by
  have hbefore : s.worker ≠ .none := by
    cases h with
    | goto next hgoto => cases hgoto <;> simp_all
    | crash hpc => exact hpc
    | closed base hpc => rcases hpc with hpc | hpc <;> simp [hpc]
    | _ => simp_all
  refine ⟨hbefore, ?_⟩
  intro hnone
  obtain rfl | ⟨next, hnext, hlist, rfl⟩ := h.toTested (by rw [hnone]; rfl)
  · exact hbefore hnone
  · cases hnext with
    | listed hpc => exact hlist hpc
    | _ => cases hnone

/-- What no step of the worker touches. -/
theorem WorkerMove.frame {input : WorkerInput} (h : WorkerMove s input s') :
    s'.controls = s.controls ∧ s'.threadRunning = s.threadRunning ∧
      s'.isInitialized = s.isInitialized ∧ s'.subscribes = s.subscribes ∧
      (s.connection ≠ none → s'.connection ≠ none) := by
  cases h with
  | connected | connectFailed | closed => simp
  | _ => exact ⟨rfl, rfl, rfl, rfl, fun h => h⟩

/-- What no step of a `Subscribe` touches. -/
structure UserFrame (s s' : ConsumerState Callback) : Prop where
  connection : s'.connection = s.connection
  isInitialized : s'.isInitialized = s.isInitialized
  threadRunning : s'.threadRunning = s.threadRunning
  worker : s'.worker = s.worker
  controls : s'.controls = s.controls
  handles : s'.handles = s.handles
  calls : s'.calls = s.calls

theorem SubscribeMove.frame {pc : SubscribePc Callback} (h : SubscribeMove s pc s') :
    UserFrame s s' := by
  cases h <;> exact ⟨rfl, rfl, rfl, rfl, rfl, rfl, rfl⟩

/-- `Stop` returning only changes where the control thread is. -/
theorem stopReturns_frame (s : ConsumerState Callback) (caller : StopCaller) (code : HareError) :
    ∃ controls notes, stopReturns s caller code =
        { s with controls := controls ++ s.controls, notes := notes ++ s.notes } ∧
      (controls = [] ∨ (controls = [.start true] ∧ code = .allGood) ∨
        controls = [.destroyClose]) ∧
      ∀ note ∈ notes, ∃ api, note = .apiReturned api code := by
  cases caller with
  | user => exact ⟨[], [.apiReturned .stop code], rfl, .inl rfl, by simp⟩
  | restart =>
      unfold stopReturns
      dsimp only
      split
      · next hcode =>
          exact ⟨[.start true], [], rfl, .inr (.inl ⟨rfl, by simpa using hcode⟩), by simp⟩
      · exact ⟨[], [.apiReturned .restart code], rfl, .inl rfl, by simp⟩
  | destructor => exact ⟨[.destroyClose], [], rfl, .inr (.inr rfl), by simp⟩

section StopReturns

variable (s : ConsumerState Callback) (caller : StopCaller) (code : HareError)

@[simp] theorem stopReturns_channelHandler :
    (stopReturns s caller code).channelHandler = s.channelHandler := by
  obtain ⟨controls, notes, heq, -⟩ := stopReturns_frame s caller code
  rw [heq]

@[simp] theorem stopReturns_connection :
    (stopReturns s caller code).connection = s.connection := by
  obtain ⟨controls, notes, heq, -⟩ := stopReturns_frame s caller code
  rw [heq]

@[simp] theorem stopReturns_threadRunning :
    (stopReturns s caller code).threadRunning = s.threadRunning := by
  obtain ⟨controls, notes, heq, -⟩ := stopReturns_frame s caller code
  rw [heq]

@[simp] theorem stopReturns_pendingChannels :
    (stopReturns s caller code).pendingChannels = s.pendingChannels := by
  obtain ⟨controls, notes, heq, -⟩ := stopReturns_frame s caller code
  rw [heq]

@[simp] theorem stopReturns_worker : (stopReturns s caller code).worker = s.worker := by
  obtain ⟨controls, notes, heq, -⟩ := stopReturns_frame s caller code
  rw [heq]

@[simp] theorem stopReturns_subscribes :
    (stopReturns s caller code).subscribes = s.subscribes := by
  obtain ⟨controls, notes, heq, -⟩ := stopReturns_frame s caller code
  rw [heq]

@[simp] theorem stopReturns_handles : (stopReturns s caller code).handles = s.handles := by
  obtain ⟨controls, notes, heq, -⟩ := stopReturns_frame s caller code
  rw [heq]

@[simp] theorem stopReturns_calls : (stopReturns s caller code).calls = s.calls := by
  obtain ⟨controls, notes, heq, -⟩ := stopReturns_frame s caller code
  rw [heq]

@[simp] theorem isConnected_stopReturns :
    isConnected (stopReturns s caller code) = isConnected s := by
  rw [isConnected, isConnected, stopReturns_connection]

end StopReturns

/-- What no step of a control call touches. -/
theorem ControlMove.frame {reply : AmqpRpcReply} {pc : ControlPc}
    (h : ControlMove s reply pc s') :
    s'.channelHandler = s.channelHandler ∧ s'.subscribes = s.subscribes ∧
      s'.handles = s.handles := by
  cases h with
  | stopRefused | stopped => simp
  | _ => exact ⟨rfl, rfl, rfl⟩

end Consumer
end HareCpp
