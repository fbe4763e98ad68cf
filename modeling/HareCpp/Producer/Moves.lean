import HareCpp.Producer.System

/-!
# What a step of the producer can do

The step function read backwards, once.  `WorkerGoto` and `ControlGoto` are the
steps that only move a program counter, `WorkerMove` and `ControlMove` add the
steps that do something; every invariant of the producer is proved over these
cases and never unfolds `workerStep` or `controlStep`.
-/

namespace HareCpp
namespace Producer

open Library ConnectionBase

/-- The worker moves on without changing anything. -/
inductive WorkerGoto (s : ProducerState) : WorkerPc → Prop
  | loopOn (hpc : s.worker = .loopTest) (hrunning : s.threadRunning = true) :
      WorkerGoto s .connectedTest
  | loopEnd (hpc : s.worker = .loopTest) (hrunning : s.threadRunning = false) :
      WorkerGoto s .returned
  | isConnected (hpc : s.worker = .connectedTest) (hconnected : isConnected s = true) :
      WorkerGoto s .channelsTest
  | notConnected (hpc : s.worker = .connectedTest) (hconnected : isConnected s = false) :
      WorkerGoto s .connect
  | channelsOff (hpc : s.worker = .channelsTest) (hflag : s.channelsConnected = false) :
      WorkerGoto s .guardConnected
  | guardConnected (hpc : s.worker = .guardConnected) (hconnected : Producer.isConnected s = true) :
      WorkerGoto s .guardRunning
  | guardNotConnected (hpc : s.worker = .guardConnected)
      (hconnected : Producer.isConnected s = false) : WorkerGoto s .publishTest
  | guardRunning (hpc : s.worker = .guardRunning) (hrunning : s.threadRunning = true) :
      WorkerGoto s .openChannels
  | guardStopped (hpc : s.worker = .guardRunning) (hrunning : s.threadRunning = false) :
      WorkerGoto s .publishTest
  | clearEmpty (caller : CloseCaller) (hpc : s.worker = .clearTest caller)
      (hqueue : s.sendQueue = []) : WorkerGoto s (afterClose caller)
  | clearMore (caller : CloseCaller) (hpc : s.worker = .clearTest caller)
      (hqueue : s.sendQueue ≠ []) : WorkerGoto s (.clearFront caller)
  | clearFront (caller : CloseCaller) (hpc : s.worker = .clearFront caller)
      (hqueue : s.sendQueue ≠ []) : WorkerGoto s (.clearPop caller)
  | publishOn (hpc : s.worker = .publishTest) (hconnected : Producer.isConnected s = true) :
      WorkerGoto s .sizeTest
  | publishOff (hpc : s.worker = .publishTest) (hconnected : Producer.isConnected s = false) :
      WorkerGoto s .loopTest
  | sizeSome (hpc : s.worker = .sizeTest) (hqueue : s.sendQueue ≠ []) : WorkerGoto s .front
  | sizeNone (hpc : s.worker = .sizeTest) (hqueue : s.sendQueue = []) : WorkerGoto s .loopTest
  | front (object : Nat) (rest : List Nat) (hpc : s.worker = .front)
      (hqueue : s.sendQueue = object :: rest) : WorkerGoto s (.publish object)

/-- Everything a step of the worker can do. -/
inductive WorkerMove (s : ProducerState) (input : WorkerInput) : ProducerState → Prop
  | goto (next : WorkerPc) (hnext : WorkerGoto s next) :
      WorkerMove s input { s with worker := next }
  | crash (hpc : s.worker ≠ .none) (hwhy : s.connection = none ∨ s.sendQueue = []) :
      WorkerMove s input (crash s)
  | connected (base : ConnectionBase) (hpc : s.worker = .connect)
      (hbase : s.connection = some base)
      (hcode : (base.connect s.handles input.connect).code = .allGood) :
      WorkerMove s input { s with
        connection := some (base.connect s.handles input.connect).base
        handles := s.handles + 1
        calls := (base.connect s.handles input.connect).calls ++ s.calls
        worker := .channelsTest
        notes := .connected (base.connect s.handles input.connect).base.conn s.exchangeList ::
          s.notes }
  | connectFailed (base : ConnectionBase) (hpc : s.worker = .connect)
      (hbase : s.connection = some base)
      (hcode : (base.connect s.handles input.connect).code ≠ .allGood) :
      WorkerMove s input { s with
        connection := some (base.connect s.handles input.connect).base
        handles := s.handles + 1
        calls := (base.connect s.handles input.connect).calls ++ s.calls
        worker := .loopTest }
  | looked (hpc : s.worker = .channelsTest) (hflag : s.channelsConnected = true) :
      WorkerMove s input { s with
        worker := .publishTest
        notes := .looked (currentConn s) [] :: s.notes }
  | openFailed (base : ConnectionBase) (hpc : s.worker = .openChannels)
      (horder : input.order.Perm s.exchangeList) (hbase : s.connection = some base)
      (hloop : (connectLoop base input.channels input.order true).1 = .serverFailure) :
      WorkerMove s input { s with
        calls := (connectLoop base input.channels input.order true).2 ++ s.calls
        worker := .close .connectChannels }
  | opened (base : ConnectionBase) (allGood : Bool) (hpc : s.worker = .openChannels)
      (horder : input.order.Perm s.exchangeList) (hbase : s.connection = some base)
      (hloop : (connectLoop base input.channels input.order true).1 = .finished allGood) :
      WorkerMove s input { s with
        calls := (connectLoop base input.channels input.order true).2 ++ s.calls
        worker := .publishTest
        channelsConnected := s.channelsConnected || allGood
        notes := .looked base.conn (refusedChannels base input.channels input.order) ::
          s.notes }
  | closed (caller : CloseCaller) (base : ConnectionBase) (hpc : s.worker = .close caller)
      (hbase : s.connection = some base) :
      WorkerMove s input { s with
        connection := some (base.closeConnection input.closeReply).base
        calls := (base.closeConnection input.closeReply).calls ++ s.calls
        worker := .clearTest caller }
  | dropped (caller : CloseCaller) (object : Nat) (rest : List Nat)
      (hpc : s.worker = .clearPop caller) (hqueue : s.sendQueue = object :: rest) :
      WorkerMove s input { s with
        worker := .clearTest caller
        sendQueue := rest
        notes := .dropped object :: s.notes }
  | published (base : ConnectionBase) (object : Nat) (next : WorkerPc)
      (hpc : s.worker = .publish object) (hbase : s.connection = some base)
      (hnext :
        (serverFailure (base.publishMessage object (s.objects object) input.now
            input.publishStatus).1.code = true ∧ next = .close .publishNextInQueue) ∨
        ((base.publishMessage object (s.objects object) input.now
            input.publishStatus).1.code = .allGood ∧ next = .popPublished) ∨
        (serverFailure (base.publishMessage object (s.objects object) input.now
            input.publishStatus).1.code = false ∧
          (base.publishMessage object (s.objects object) input.now
            input.publishStatus).1.code ≠ .allGood ∧ next = .loopTest)) :
      WorkerMove s input { s with
        objects := Function.update s.objects object
          (base.publishMessage object (s.objects object) input.now input.publishStatus).2
        calls := (base.publishMessage object (s.objects object) input.now
          input.publishStatus).1.calls ++ s.calls
        worker := next }
  | popped (object : Nat) (rest : List Nat) (hpc : s.worker = .popPublished)
      (hqueue : s.sendQueue = object :: rest) :
      WorkerMove s input { s with worker := .loopTest, sendQueue := rest }

/-- `workerStep` does nothing else. -/
theorem workerMove_of_step {s s' : ProducerState} {input : WorkerInput}
    (h : workerStep s input = some s') : WorkerMove s input s' := by
  unfold workerStep at h
  split at h
  · cases h
  · cases h
  · next hpc =>
      cases h
      refine .goto _ ?_
      split
      · next hrunning => exact .loopOn hpc hrunning
      · next hrunning => exact .loopEnd hpc (by simpa using hrunning)
  · next hpc =>
      cases h
      refine .goto _ ?_
      split
      · next hconnected => exact .isConnected hpc hconnected
      · next hconnected => exact .notConnected hpc (by simpa using hconnected)
  · next hpc =>
      split at h
      · next hbase => cases h; exact .crash (by simp [hpc]) (.inl hbase)
      · next base hbase =>
          dsimp only at h
          split at h
          · next hcode => cases h; exact .connected base hpc hbase (by simpa using hcode)
          · next hcode => cases h; exact .connectFailed base hpc hbase (by simpa using hcode)
  · next hpc =>
      split at h
      · next hflag => cases h; exact .looked hpc hflag
      · next hflag => cases h; exact .goto _ (.channelsOff hpc (by simpa using hflag))
  · next hpc =>
      cases h
      refine .goto _ ?_
      split
      · next hconnected => exact .guardConnected hpc hconnected
      · next hconnected => exact .guardNotConnected hpc (by simpa using hconnected)
  · next hpc =>
      cases h
      refine .goto _ ?_
      split
      · next hrunning => exact .guardRunning hpc hrunning
      · next hrunning => exact .guardStopped hpc (by simpa using hrunning)
  · next hpc =>
      split at h
      · next horder =>
          have horder := List.isPerm_iff.mp horder
          split at h
          · next hbase => cases h; exact .crash (by simp [hpc]) (.inl hbase)
          · next base hbase =>
              dsimp only at h
              split at h
              · next hloop => cases h; exact .openFailed base hpc horder hbase hloop
              · next allGood hloop =>
                  cases h; exact .opened base allGood hpc horder hbase hloop
      · cases h
  · next caller hpc =>
      split at h
      · next hbase => cases h; exact .crash (by simp [hpc]) (.inl hbase)
      · next base hbase => cases h; exact .closed caller base hpc hbase
  · next caller hpc =>
      cases h
      refine .goto _ ?_
      split
      · next hqueue => exact .clearEmpty caller hpc (by simpa using hqueue)
      · next hqueue => exact .clearMore caller hpc (by simpa using hqueue)
  · next caller hpc =>
      split at h
      · next hqueue => cases h; exact .crash (by simp [hpc]) (.inr hqueue)
      · next hqueue => cases h; exact .goto _ (.clearFront caller hpc (by simp [hqueue]))
  · next caller hpc =>
      split at h
      · next hqueue => cases h; exact .crash (by simp [hpc]) (.inr hqueue)
      · next object rest hqueue => cases h; exact .dropped caller object rest hpc hqueue
  · next hpc =>
      cases h
      refine .goto _ ?_
      split
      · next hconnected => exact .publishOn hpc hconnected
      · next hconnected => exact .publishOff hpc (by simpa using hconnected)
  · next hpc =>
      cases h
      refine .goto _ ?_
      split
      · next hqueue => exact .sizeSome hpc (by simpa using hqueue)
      · next hqueue => exact .sizeNone hpc (by simpa using hqueue)
  · next hpc =>
      split at h
      · next hqueue => cases h; exact .crash (by simp [hpc]) (.inr hqueue)
      · next object rest hqueue => cases h; exact .goto _ (.front object rest hpc hqueue)
  · next object hpc =>
      split at h
      · next hbase => cases h; exact .crash (by simp [hpc]) (.inl hbase)
      · next base hbase =>
          dsimp only at h
          split at h
          · next hfail => cases h; exact .published base object _ hpc hbase (.inl ⟨hfail, rfl⟩)
          · next hfail =>
              split at h
              · next hgood =>
                  cases h
                  exact .published base object _ hpc hbase
                    (.inr (.inl ⟨by simpa using hgood, rfl⟩))
              · next hgood =>
                  cases h
                  exact .published base object _ hpc hbase
                    (.inr (.inr ⟨by simpa using hfail, by simpa using hgood, rfl⟩))
  · next hpc =>
      split at h
      · next hqueue => cases h; exact .crash (by simp [hpc]) (.inr hqueue)
      · next object rest hqueue => cases h; exact .popped object rest hpc hqueue

/-- A control call moves on without changing anything. -/
inductive ControlGoto (s : ProducerState) : ControlPc → ControlPc → Prop
  | startInitialized (restarting : Bool) (hinit : s.isInitialized = true) :
      ControlGoto s (.startInitialized restarting) (.startRunning restarting)
  | startIdle (restarting : Bool) (hrunning : s.threadRunning = false) :
      ControlGoto s (.startRunning restarting) (.startSet restarting)
  | restartInitialized (hinit : s.isInitialized = true) :
      ControlGoto s .restartInitialized (.stopInitialized .restart)
  | stopInitialized (caller : StopCaller) (hinit : s.isInitialized = true) :
      ControlGoto s (.stopInitialized caller) (.stopRunning caller)
  | stopUninitialized (caller : StopCaller) (hinit : s.isInitialized = false) :
      ControlGoto s (.stopInitialized caller) (.stopClose caller .notInitialized)
  | stopRunning (caller : StopCaller) (hrunning : s.threadRunning = true) :
      ControlGoto s (.stopRunning caller) (.stopSet caller)
  | stopIdle (caller : StopCaller) (hrunning : s.threadRunning = false) :
      ControlGoto s (.stopRunning caller) (.stopClose caller .threadNotRunning)
  | clearMore (caller : StopCaller) (code : HareError) (hqueue : s.sendQueue ≠ []) :
      ControlGoto s (.stopClearTest caller code) (.stopClearFront caller code)
  | clearFront (caller : StopCaller) (code : HareError) (hqueue : s.sendQueue ≠ []) :
      ControlGoto s (.stopClearFront caller code) (.stopClearPop caller code)
  | restartStart (hqueue : s.sendQueue = []) :
      ControlGoto s (.stopClearTest .restart .allGood) (.startInitialized true)
  | destroyStopped (code : HareError) (hqueue : s.sendQueue = []) :
      ControlGoto s (.stopClearTest .destructor code) .destroyChannels
  | destroyInitialized (hinit : s.isInitialized = true) :
      ControlGoto s .destroyInitialized .destroyRunning
  | destroyUninitialized (hinit : s.isInitialized = false) :
      ControlGoto s .destroyInitialized .destroyMembers
  | destroyRunning (hrunning : s.threadRunning = true) :
      ControlGoto s .destroyRunning (.stopInitialized .destructor)
  | destroyIdle (hrunning : s.threadRunning = false) :
      ControlGoto s .destroyRunning .destroyChannels

/-- A control call returns without changing anything. -/
inductive ControlReturn (s : ProducerState) : ControlPc → Api → HareError → Prop
  | startUninitialized (restarting : Bool) (hinit : s.isInitialized = false) :
      ControlReturn s (.startInitialized restarting)
        (if restarting then .restart else .start) .notInitialized
  | startAlready (restarting : Bool) (hrunning : s.threadRunning = true) :
      ControlReturn s (.startRunning restarting)
        (if restarting then .restart else .start) .threadAlreadyRunning
  | restartUninitialized (hinit : s.isInitialized = false) :
      ControlReturn s .restartInitialized .restart .notInitialized
  | stopped (code : HareError) (hqueue : s.sendQueue = []) :
      ControlReturn s (.stopClearTest .user code) .stop code
  | restartFailed (code : HareError) (hqueue : s.sendQueue = []) (hcode : code ≠ .allGood) :
      ControlReturn s (.stopClearTest .restart code) .restart code

/-- Everything a step of a control call can do; `s.controls` holds the other
calls in flight. -/
inductive ControlMove (s : ProducerState) (input : ControlInput) :
    ControlPc → ProducerState → Prop
  | goto (pc next : ControlPc) (hnext : ControlGoto s pc next) :
      ControlMove s input pc (goOn s next)
  | returned (pc : ControlPc) (api : Api) (code : HareError)
      (hreturn : ControlReturn s pc api code) : ControlMove s input pc (returnTo s api code)
  | startSet (restarting : Bool) :
      ControlMove s input (.startSet restarting)
        (goOn { s with threadRunning := true } (.startSpawn restarting))
  | spawn (restarting : Bool) (hworker : s.worker = .none) :
      ControlMove s input (.startSpawn restarting)
        (returnTo { s with worker := .loopTest } (if restarting then .restart else .start)
          .allGood)
  | stopSet (caller : StopCaller) :
      ControlMove s input (.stopSet caller)
        (goOn { s with threadRunning := false } (.stopJoin caller))
  | joined (caller : StopCaller) (hworker : s.worker = .returned) :
      ControlMove s input (.stopJoin caller) (goOn { s with worker := .none } (.stopFlag caller))
  | flag (caller : StopCaller) :
      ControlMove s input (.stopFlag caller)
        (goOn { s with channelsConnected := false } (.stopClose caller .allGood))
  | closed (pc next : ControlPc) (base : ConnectionBase) (hbase : s.connection = some base)
      (hpc : (∃ caller code, pc = .stopClose caller code ∧ next = .stopClearTest caller code) ∨
        (pc = .destroyClose ∧ next = .destroyMembers)) :
      ControlMove s input pc (goOn { s with
        connection := some (base.closeConnection input.closeReply).base
        calls := (base.closeConnection input.closeReply).calls ++ s.calls } next)
  | dropped (caller : StopCaller) (code : HareError) (object : Nat) (rest : List Nat)
      (hqueue : s.sendQueue = object :: rest) :
      ControlMove s input (.stopClearPop caller code) (goOn { s with
        sendQueue := rest
        notes := .dropped object :: s.notes } (.stopClearTest caller code))
  | initConnection (credentials : LoginCredentials) :
      ControlMove s input (.initConnection credentials) (goOn { s with
        connection := some (ConnectionBase.new credentials)
        calls := releaseCalls s.connection input.closeReply ++ s.calls } .initInitialized)
  | initInitialized :
      ControlMove s input .initInitialized (goOn { s with isInitialized := true } .initRunning)
  | initRunning :
      ControlMove s input .initRunning
        (returnTo { s with threadRunning := false } .initialized .allGood)
  | destroyChannels (base : ConnectionBase) (hbase : s.connection = some base) :
      ControlMove s input .destroyChannels (goOn { s with
        calls := closeChannels base input.order ++ s.calls } .destroyClose)
  | destroyed (hworker : s.worker = .none) :
      ControlMove s input .destroyMembers { s with
        connection := none
        calls := releaseCalls s.connection input.closeReply ++ s.calls
        status := .destroyed }
  | crash (pc : ControlPc) (hpc : ∀ credentials, pc ≠ .initConnection credentials) :
      ControlMove s input pc (crash s)

/-- `controlStep` does nothing else. -/
theorem controlMove_of_step {s s' : ProducerState} {input : ControlInput} {pc : ControlPc}
    (h : controlStep s input pc = some s') : ControlMove s input pc s' := by
  have hclose : ∀ next, (∃ caller code, pc = .stopClose caller code ∧
      next = .stopClearTest caller code) ∨ (pc = .destroyClose ∧ next = .destroyMembers) →
      ControlMove s input pc (closeThen s input.closeReply next) := by
    intro next hpc
    unfold closeThen
    split
    · refine .crash pc ?_
      rintro credentials rfl
      simp at hpc
    · next base hbase => exact .closed pc next base hbase hpc
  cases pc with
  | startInitialized restarting =>
      cases h
      split
      · next hinit => exact .goto _ _ (.startInitialized restarting hinit)
      · next hinit => exact .returned _ _ _ (.startUninitialized restarting (by simpa using hinit))
  | startRunning restarting =>
      cases h
      split
      · next hrunning => exact .returned _ _ _ (.startAlready restarting hrunning)
      · next hrunning => exact .goto _ _ (.startIdle restarting (by simpa using hrunning))
  | startSet restarting => cases h; exact .startSet restarting
  | startSpawn restarting =>
      cases h
      split
      · next hworker => exact .spawn restarting hworker
      · exact .crash _ (by simp)
  | restartInitialized =>
      cases h
      split
      · next hinit => exact .goto _ _ (.restartInitialized hinit)
      · next hinit => exact .returned _ _ _ (.restartUninitialized (by simpa using hinit))
  | stopInitialized caller =>
      cases h
      refine .goto _ _ ?_
      split
      · next hinit => exact .stopInitialized caller hinit
      · next hinit => exact .stopUninitialized caller (by simpa using hinit)
  | stopRunning caller =>
      cases h
      refine .goto _ _ ?_
      split
      · next hrunning => exact .stopRunning caller hrunning
      · next hrunning => exact .stopIdle caller (by simpa using hrunning)
  | stopSet caller => cases h; exact .stopSet caller
  | stopJoin caller =>
      rw [controlStep] at h
      split at h
      · cases h; exact .crash _ (by simp)
      · next hworker => cases h; exact .joined caller hworker
      · cases h
  | stopFlag caller => cases h; exact .flag caller
  | stopClose caller code => cases h; exact hclose _ (.inl ⟨caller, code, rfl, rfl⟩)
  | stopClearTest caller code =>
      cases h
      split
      · next hqueue =>
          have hqueue : s.sendQueue = [] := by simpa using hqueue
          cases caller with
          | user => exact .returned _ _ _ (.stopped code hqueue)
          | restart =>
              unfold stopReturns
              dsimp only
              split
              · next hcode =>
                  obtain rfl : code = .allGood := by simpa using hcode
                  exact .goto _ _ (.restartStart hqueue)
              · next hcode =>
                  exact .returned _ _ _ (.restartFailed code hqueue (by simpa using hcode))
          | destructor => exact .goto _ _ (.destroyStopped code hqueue)
      · next hqueue => exact .goto _ _ (.clearMore caller code (by simpa using hqueue))
  | stopClearFront caller code =>
      rw [controlStep] at h
      split at h
      · cases h; exact .crash _ (by simp)
      · next hqueue => cases h; exact .goto _ _ (.clearFront caller code (by simp [hqueue]))
  | stopClearPop caller code =>
      rw [controlStep] at h
      split at h
      · cases h; exact .crash _ (by simp)
      · next object rest hqueue => cases h; exact .dropped caller code object rest hqueue
  | initConnection credentials => cases h; exact .initConnection credentials
  | initInitialized => cases h; exact .initInitialized
  | initRunning => cases h; exact .initRunning
  | destroyInitialized =>
      cases h
      refine .goto _ _ ?_
      split
      · next hinit => exact .destroyInitialized hinit
      · next hinit => exact .destroyUninitialized (by simpa using hinit)
  | destroyRunning =>
      cases h
      refine .goto _ _ ?_
      split
      · next hrunning => exact .destroyRunning hrunning
      · next hrunning => exact .destroyIdle (by simpa using hrunning)
  | destroyChannels =>
      rw [controlStep] at h
      split at h
      · split at h
        · cases h; exact .crash _ (by simp)
        · next base hbase => cases h; exact .destroyChannels base hbase
      · cases h
  | destroyClose => cases h; exact hclose _ (.inr ⟨rfl, rfl⟩)
  | destroyMembers =>
      rw [controlStep] at h
      split at h
      · next hworker => cases h; exact .destroyed hworker
      · cases h; exact .crash _ (by simp)

/-- Everything a step of a user thread can do to the exchange table and the
queue. -/
inductive UserMove (s : ProducerState) : Action → ProducerState → Prop
  | declareExchange (exchange type : Bytes) :
      UserMove s (.declareExchange exchange type)
        (returnTo (addExchangeTyped s exchange type).1 .declareExchange
          (declareCode (addExchangeTyped s exchange type).2))
  | sendRefused (call : SendCall) (hchannel : (addExchange s call.exchange).2 < 0) :
      UserMove s (.send call) (returnTo (addExchange s call.exchange).1 .send .invalidParameters)
  | send (call : SendCall) (hchannel : ¬(addExchange s call.exchange).2 < 0) :
      UserMove s (.send call) { (addExchange s call.exchange).1 with
        sends := call :: (addExchange s call.exchange).1.sends }
  | push (k : Nat) (call : SendCall) (rest : List SendCall) (found : ExchangeProperties)
      (hpick : pick s.sends k = some (call, rest))
      (hfound : s.exchangeList.lookup call.exchange = some found) :
      UserMove s (.sendPush k) (pushMessage { s with sends := rest } call found.channel)
  | pushFresh (k : Nat) (call : SendCall) (rest : List SendCall)
      (hpick : pick s.sends k = some (call, rest))
      (hfound : s.exchangeList.lookup call.exchange = none) :
      UserMove s (.sendPush k) (pushMessage { s with
        sends := rest
        exchangeList := s.exchangeList ++ [(call.exchange, {})] } call (-1))

/-- Everything a step of the system can do. -/
inductive Move (s : ProducerState) : Action → ProducerState → Prop
  | worker (input : WorkerInput) (s' : ProducerState) (hmove : WorkerMove s input s') :
      Move s (.worker input) s'
  | user (action : Action) (s' : ProducerState) (hmove : UserMove s action s') :
      Move s action s'
  | begin (call : ControlCall) : Move s (.begin call) (goOn s call.entry)
  | control (k : Nat) (input : ControlInput) (pc : ControlPc) (rest : List ControlPc)
      (s' : ProducerState) (hpick : pick s.controls k = some (pc, rest))
      (hmove : ControlMove { s with controls := rest } input pc s') :
      Move s (.control k input) s'

/-- `step` does nothing else, and only while the run goes on. -/
theorem move_of_step {s s' : ProducerState} {action : Action} (h : step s action = some s') :
    s.status = .running ∧ Move s action s' := by
  unfold step at h
  split at h
  · next hstatus =>
      refine ⟨hstatus, ?_⟩
      cases action with
      | worker input => exact .worker input s' (workerMove_of_step h)
      | declareExchange exchange type => cases h; exact .user _ _ (.declareExchange exchange type)
      | send call =>
          dsimp only at h
          split at h
          · next hchannel => cases h; exact .user _ _ (.sendRefused call hchannel)
          · next hchannel => cases h; exact .user _ _ (.send call hchannel)
      | sendPush k =>
          dsimp only at h
          split at h
          · cases h
          · next call rest hpick =>
              split at h
              · next found hfound => cases h; exact .user _ _ (.push k call rest found hpick hfound)
              · next hfound => cases h; exact .user _ _ (.pushFresh k call rest hpick hfound)
      | begin call => cases h; exact .begin call
      | control k input =>
          dsimp only at h
          split at h
          · cases h
          · next pc rest hpick =>
              exact .control k input pc rest s' hpick (controlMove_of_step h)
  · cases h

/-! ### What the steps leave alone -/

/-- What no step of the worker touches. -/
theorem WorkerMove.frame {s s' : ProducerState} {input : WorkerInput}
    (h : WorkerMove s input s') :
    s'.controls = s.controls ∧ s'.threadRunning = s.threadRunning ∧
      s'.isInitialized = s.isInitialized ∧ s'.exchangeList = s.exchangeList ∧
      s'.sends = s.sends ∧ s'.made = s.made ∧ s'.curChannelNumber = s.curChannelNumber ∧
      (s.connection ≠ none → s'.connection ≠ none) := by
  cases h with
  | connected base hpc hbase => simp
  | connectFailed base hpc hbase => simp
  | closed caller base hpc hbase => simp
  | _ => exact ⟨rfl, rfl, rfl, rfl, rfl, rfl, rfl, fun h => h⟩

/-- What no step of a user thread touches. -/
structure UserFrame (s s' : ProducerState) : Prop where
  connection : s'.connection = s.connection
  isInitialized : s'.isInitialized = s.isInitialized
  threadRunning : s'.threadRunning = s.threadRunning
  worker : s'.worker = s.worker
  controls : s'.controls = s.controls
  handles : s'.handles = s.handles
  calls : s'.calls = s.calls

theorem UserMove.frame {s s' : ProducerState} {action : Action} (h : UserMove s action s') :
    UserFrame s s' := by
  have htyped : ∀ exchange type, UserFrame s (addExchangeTyped s exchange type).1 := by
    intro exchange type
    unfold addExchangeTyped
    split <;> exact ⟨rfl, rfl, rfl, rfl, rfl, rfl, rfl⟩
  have hplain : ∀ exchange, UserFrame s (addExchange s exchange).1 := by
    intro exchange
    unfold addExchange
    split <;> exact ⟨rfl, rfl, rfl, rfl, rfl, rfl, rfl⟩
  cases h with
  | declareExchange exchange type =>
      obtain ⟨h1, h2, h3, h4, h5, h6, h7⟩ := htyped exchange type
      exact ⟨h1, h2, h3, h4, h5, h6, h7⟩
  | sendRefused call =>
      obtain ⟨h1, h2, h3, h4, h5, h6, h7⟩ := hplain call.exchange
      exact ⟨h1, h2, h3, h4, h5, h6, h7⟩
  | send call =>
      obtain ⟨h1, h2, h3, h4, h5, h6, h7⟩ := hplain call.exchange
      exact ⟨h1, h2, h3, h4, h5, h6, h7⟩
  | push => exact ⟨rfl, rfl, rfl, rfl, rfl, rfl, rfl⟩
  | pushFresh => exact ⟨rfl, rfl, rfl, rfl, rfl, rfl, rfl⟩

/-- What no step of a control call touches. -/
theorem ControlMove.frame {s s' : ProducerState} {input : ControlInput} {pc : ControlPc}
    (h : ControlMove s input pc s') :
    s'.exchangeList = s.exchangeList ∧ s'.curChannelNumber = s.curChannelNumber ∧
      s'.sends = s.sends ∧ s'.made = s.made ∧ s'.objects = s.objects ∧
      s'.handles = s.handles := by
  cases h <;> exact ⟨rfl, rfl, rfl, rfl, rfl, rfl⟩

end Producer
end HareCpp
