import HareCpp.Consumer.Reopen
import HareCpp.Producer.Publishing

/-!
# A server failure closes the connection

`serverFailure` is the code with which an operation tells its caller to give the
connection up.  What counts as an operation here is what goes to the broker:
`amqp_maybe_release_buffers` and `amqp_destroy_connection` do not.
`DeclareQueue` returns `ALL_GOOD` or does not return.

The producer closes the connection after every server failure.  The consumer does
so in `startConsumption`, and in `pullNextMessage` while it is running.  The code
of a retried channel is not looked at.

* `failure_closes_connection` — after a server failure the next operation is
  `CloseConnection`, in every run of a producer and in those of a consumer in
  which a failure does not meet the head of the loop of a running worker, nor a
  pending channel (`NotOverlooked`).
* `failure_is_overlooked` — in both these cases the worker goes on.
-/

namespace HareCpp

open Library ConnectionBase

namespace AmqpCall

/-- Calls that send to the broker or read from it, on a connection that is set
up. -/
def usesBroker : AmqpCall → Bool
  | connectionClose .. | exchangeDeclare .. | channelOpen .. | sendCloseOk .. | channelClose ..
  | basicPublish .. | consumeMessage .. | basicConsume .. | queueDeclare .. | queueBind .. => true
  | newConnection _ | tcpSocketNew .. | socketOpen .. | login .. | destroyConnection _
  | maybeReleaseBuffers _ => false

/-- The operation that made the call returns a server failure. -/
def failed : AmqpCall → Bool
  | exchangeDeclare _ _ _ _ reply | channelOpen _ _ reply | consumeMessage _ _ reply
  | basicConsume _ _ _ reply | queueBind _ _ _ _ _ reply => serverFailure (decodeRpcReply reply)
  | basicPublish _ _ _ status => serverFailure (publishCode status)
  | _ => false

/-- `amqp_connection_close`. -/
def isConnectionClose : AmqpCall → Bool
  | connectionClose .. => true
  | _ => false

end AmqpCall

/-- What a call says about the last operation on the connection `h`. -/
def failureEffect (h : Option Nat) (call : AmqpCall) : Option Bool :=
  if call.session = some h ∧ call.usesBroker = true then some call.failed else none

/-- The last operation on the connection returned a server failure. -/
def awaitsClose (h : Option Nat) (calls : List AmqpCall) : Bool := latest (failureEffect h) calls

/-- After a server failure the connection is closed. -/
def CloseNext (past : List AmqpCall) (call : AmqpCall) : Prop :=
  ∀ h, call.session = some h → call.usesBroker = true → awaitsClose h past = true →
    call.isConnectionClose = true

instance (past : List AmqpCall) (call : AmqpCall) : Decidable (CloseNext past call) :=
  match hsession : call.session with
  | some h =>
      decidable_of_iff (call.usesBroker = true → awaitsClose h past = true →
        call.isConnectionClose = true) (by simp [CloseNext, hsession])
  | none => .isTrue (by simp [CloseNext, hsession])

theorem awaitsClose_cons (h : Option Nat) (call : AmqpCall) (calls : List AmqpCall) :
    awaitsClose h (call :: calls) = (failureEffect h call).getD (awaitsClose h calls) :=
  latest_cons _ call calls

/-! ### Operations on a connection -/

/-- The connection, if it is up, has no failure behind it, and no failure was
overlooked so far. -/
structure Clear (base : ConnectionBase) (calls : List AmqpCall) : Prop where
  guarded : Guarded CloseNext calls
  quiet : base.isConnected = true → awaitsClose base.conn calls = false

/-- No failure was overlooked so far, and a failure of the last operation is known
from its code. -/
structure Reported (base : ConnectionBase) (code : HareError) (calls : List AmqpCall) : Prop where
  guarded : Guarded CloseNext calls
  reported : base.isConnected = true → awaitsClose base.conn calls = true →
    serverFailure code = true

section Operations

variable {base : ConnectionBase} {calls : List AmqpCall}

theorem Clear.reported (hclear : Clear base calls) (code : HareError) :
    Reported base code calls := by
  refine ⟨hclear.guarded, fun hup hwaits => ?_⟩
  cases (hclear.quiet hup).symm.trans hwaits

/-- A code other than a server failure clears the connection. -/
theorem Reported.clear {code : HareError} (hreported : Reported base code calls)
    (hcode : serverFailure code = false) : Clear base calls := by
  refine ⟨hreported.guarded, fun hup => ?_⟩
  by_contra hwaits
  cases hcode.symm.trans (hreported.reported hup (by simpa using hwaits))

/-- A call on a connection that is up. -/
theorem Clear.call (hclear : Clear base calls) (hup : base.isConnected = true) (call : AmqpCall)
    (hsession : call.session = some base.conn) (code : HareError)
    (hcode : call.failed = true → serverFailure code = true) :
    Reported base code (call :: calls) := by
  have hquiet := hclear.quiet hup
  refine ⟨⟨?_, hclear.guarded⟩, ?_⟩
  · intro h hcall _ hwaits
    rw [hsession] at hcall
    obtain rfl := Option.some.inj hcall
    cases hquiet.symm.trans hwaits
  · intro _ hwaits
    rw [awaitsClose_cons] at hwaits
    by_cases hbroker : call.usesBroker = true
    · simp only [failureEffect, hsession, hbroker, and_self, if_true, Option.getD_some] at hwaits
      exact hcode hwaits
    · rw [failureEffect, if_neg (fun h => hbroker h.2)] at hwaits
      cases hquiet.symm.trans hwaits

theorem Clear.openChannel (hclear : Clear base calls) (channel : Int) (reply : AmqpRpcReply)
    (closeOkStatus : Int) :
    Reported base (base.openChannel channel reply closeOkStatus).code
      ((base.openChannel channel reply closeOkStatus).calls ++ calls) := by
  by_cases hup : base.isConnected = true
  · by_cases hexception : decodeRpcReply reply = .channelException
    · have hopened : Reported base .channelException
          (.channelOpen base.conn channel reply :: calls) := by
        apply hclear.call hup _ rfl
        intro hfailed
        rw [AmqpCall.failed, hexception] at hfailed
        exact hfailed
      have hanswered := (hopened.clear (by decide)).call hup
        (.sendCloseOk base.conn channel closeOkStatus) rfl .channelException (by rintro ⟨⟩)
      simpa [ConnectionBase.openChannel, hup, hexception] using hanswered
    · have hopened := hclear.call hup (.channelOpen base.conn channel reply) rfl
        (decodeRpcReply reply) id
      simpa [ConnectionBase.openChannel, hup, hexception] using hopened
  · simpa [ConnectionBase.openChannel, hup] using hclear.reported .serverConnectionFailure

theorem Clear.declareExchange (hclear : Clear base calls) (channel : Int) (exchange type : Bytes)
    (reply : AmqpRpcReply) :
    Reported base (base.declareExchange channel exchange type reply).code
      ((base.declareExchange channel exchange type reply).calls ++ calls) := by
  by_cases hup : base.isConnected = true
  · simp only [ConnectionBase.declareExchange, hup, if_true]
    exact hclear.call hup _ rfl _ id
  · simpa [ConnectionBase.declareExchange, hup] using hclear.reported .serverConnectionFailure

theorem Clear.publishMessage (hclear : Clear base calls) (object : Nat) (message : RawMessage)
    (now : UInt64) (status : Int) :
    Reported base (base.publishMessage object message now status).1.code
      ((base.publishMessage object message now status).1.calls ++ calls) := by
  by_cases hup : base.isConnected = true
  · simp only [ConnectionBase.publishMessage, hup, if_true]
    exact hclear.call hup _ rfl _ id
  · simpa [ConnectionBase.publishMessage, hup] using hclear.reported .serverConnectionFailure

theorem Clear.consumeMessage (hclear : Clear base calls) (reply : AmqpRpcReply) :
    Reported base (base.consumeMessage reply).code
      ((base.consumeMessage reply).calls ++ calls) := by
  by_cases hup : base.isConnected = true
  · simp only [ConnectionBase.consumeMessage, hup, if_true]
    exact hclear.call hup _ rfl _ id
  · simpa [ConnectionBase.consumeMessage, hup] using hclear.reported .serverConnectionFailure

/-- `CloseConnection` is what comes after a failure, and may come at any time. -/
theorem guarded_closeConnection (hguarded : Guarded CloseNext calls) (reply : AmqpRpcReply) :
    Guarded CloseNext ((base.closeConnection reply).calls ++ calls) := by
  apply hguarded.append
  intro call hcall past h _ hbroker _
  unfold closeConnection at hcall
  split at hcall
  · obtain rfl | rfl := List.mem_pair.mp hcall
    · cases hbroker
    · rfl
  · cases hcall

theorem guarded_releaseCalls {connection : Option ConnectionBase}
    (hguarded : Guarded CloseNext calls) (reply : AmqpRpcReply) :
    Guarded CloseNext (releaseCalls connection reply ++ calls) := by
  cases connection with
  | none => exact hguarded
  | some base => exact guarded_closeConnection hguarded reply

/-- `Connect` takes a handle that no call has mentioned before. -/
theorem clear_connect {handles : Nat} (hguarded : Guarded CloseNext calls)
    (hplain : base.isSSL = false)
    (hfresh : ∀ call ∈ calls, ∀ h, call.handle = some h → h < handles)
    (replies : ConnectReplies) :
    Clear (base.connect handles replies).base
      ((base.connect handles replies).calls ++ calls) := by
  have hsession := connect_session base handles replies
  constructor
  · apply hguarded.append
    intro call hcall past h hcall'
    rw [hsession call hcall] at hcall'
    cases hcall'
  · intro _
    rw [(connect_handle hplain handles replies).2.1]
    by_contra hwaits
    obtain ⟨call, hcall, heffect⟩ := exists_of_latest (by simpa [awaitsClose] using hwaits)
    have hon : call.session = some (some handles) := by
      by_contra hoff
      simp [failureEffect, hoff] at heffect
    obtain hcall | hcall := List.mem_append.mp hcall
    · rw [hsession call hcall] at hon
      cases hon
    · have hhandle : call.handle = some handles := by
        cases call <;> simp_all [AmqpCall.session, AmqpCall.handle]
      have := hfresh call hcall handles hhandle
      omega

end Operations

/-! ### The producer -/

namespace Producer

/-- The loop of `connectChannels` stops at the first server failure and says
so. -/
theorem reported_connectLoop (base : ConnectionBase) (replies : Bytes → ChannelReplies)
    (entries : ExchangeList) (allGood : Bool) :
    ∀ calls, Clear base calls →
      Guarded CloseNext ((connectLoop base replies entries allGood).2 ++ calls) ∧
        ((connectLoop base replies entries allGood).1 ≠ .serverFailure →
          Clear base ((connectLoop base replies entries allGood).2 ++ calls)) := by
  fun_induction connectLoop base replies entries allGood with
  | case1 allGood =>
      intro calls hclear
      exact ⟨hclear.guarded, fun _ => hclear⟩
  | case2 name it rest allGood hconnected ih => exact ih
  | case3 name it rest allGood hconnected opened hfail =>
      intro calls hclear
      exact ⟨(hclear.openChannel _ _ _).guarded, fun hne => absurd rfl hne⟩
  | case4 name it rest allGood hconnected opened hfail hgood hdeclare declared hfailed =>
      intro calls hclear
      have hopened := (hclear.openChannel it.channel (replies name).openReply
        (replies name).closeOkStatus).clear (by simpa using hfail)
      rw [List.append_assoc]
      exact ⟨(hopened.declareExchange _ _ _ _).guarded, fun hne => absurd rfl hne⟩
  | case5 name it rest allGood hconnected opened hfail hgood hdeclare declared hfailed later ih =>
      intro calls hclear
      have hopened := (hclear.openChannel it.channel (replies name).openReply
        (replies name).closeOkStatus).clear (by simpa using hfail)
      have hdeclared := (hopened.declareExchange it.channel name it.type
        (replies name).declareReply).clear (by simpa using hfailed)
      rw [List.append_assoc, List.append_assoc]
      exact ih _ hdeclared
  | case6 name it rest allGood hconnected opened hfail hgood hdeclare later ih =>
      intro calls hclear
      rw [List.append_assoc]
      exact ih _ ((hclear.openChannel _ _ _).clear (by simpa using hfail))
  | case7 name it rest allGood hconnected opened hfail hgood later ih =>
      intro calls hclear
      rw [List.append_assoc]
      exact ih _ ((hclear.openChannel _ _ _).clear (by simpa using hfail))

/-- The connection is up, and its last operation was a server failure. -/
def FailedLast (s : ProducerState) : Prop :=
  isConnected s = true ∧ awaitsClose (currentConn s) s.calls = true

/-- After a server failure the worker is about to close the connection. -/
structure FailureFacts (s : ProducerState) : Prop where
  guarded : Guarded CloseNext s.calls
  closing : FailedLast s → ∃ caller, s.worker = .close caller

theorem FailureFacts.clear {s : ProducerState} (hfacts : FailureFacts s) {base : ConnectionBase}
    (hbase : s.connection = some base) (hpc : ∀ caller, s.worker ≠ .close caller) :
    Clear base s.calls := by
  refine ⟨hfacts.guarded, fun hup => ?_⟩
  by_contra hwaits
  have hconn : currentConn s = base.conn := by rw [currentConn, hbase]; rfl
  have hfailed : FailedLast s := by
    constructor
    · rw [isConnected, hbase]
      exact hup
    · rw [hconn]
      simpa using hwaits
  obtain ⟨caller, hclose⟩ := hfacts.closing hfailed
  exact hpc caller hclose

theorem FailureFacts.of_down {s : ProducerState} (hguarded : Guarded CloseNext s.calls)
    (hdown : isConnected s = false) : FailureFacts s := by
  refine ⟨hguarded, fun hfailed => ?_⟩
  cases hdown.symm.trans hfailed.1

theorem FailureFacts.of_clear {s : ProducerState} {base : ConnectionBase}
    (hbase : s.connection = some base) (hclear : Clear base s.calls) : FailureFacts s := by
  refine ⟨hclear.guarded, fun hfailed => ?_⟩
  obtain ⟨hup, hwaits⟩ := hfailed
  rw [isConnected, hbase] at hup
  rw [currentConn, hbase] at hwaits
  cases (hclear.quiet hup).symm.trans hwaits

/-- A step that leaves the connection alone. -/
theorem FailureFacts.of_frame {s s' : ProducerState} (hfacts : FailureFacts s)
    (hconn : s'.connection = s.connection) (hcalls : s'.calls = s.calls)
    (hpc : ∀ caller, s.worker = .close caller → s'.worker = .close caller) : FailureFacts s' := by
  obtain ⟨hguarded, hclosing⟩ := hfacts
  rw [FailedLast, isConnected, currentConn] at hclosing
  constructor
  · rwa [hcalls]
  · rw [FailedLast, isConnected, currentConn, hconn, hcalls]
    intro hfailed
    obtain ⟨caller, hclose⟩ := hclosing hfailed
    exact ⟨caller, hpc caller hclose⟩

/-- A step of the worker keeps the failure facts. -/
theorem FailureFacts.worker {s s' : ProducerState} {input : WorkerInput}
    (hfacts : FailureFacts s) (hhandles : HandleFacts s) (hmove : WorkerMove s input s') :
    FailureFacts s' := by
  have hconnect : ∀ base, s.connection = some base →
      Clear (base.connect s.handles input.connect).base
        ((base.connect s.handles input.connect).calls ++ s.calls) := by
    intro base hbase
    exact clear_connect hfacts.guarded (hhandles.plain base hbase) hhandles.calls input.connect
  cases hmove with
  | goto next hnext =>
      refine hfacts.of_frame rfl rfl ?_
      intro caller hclose
      cases hnext <;> simp_all
  | crash => exact hfacts.of_frame rfl rfl fun _ h => h
  | connected base hpc hbase => exact .of_clear rfl (hconnect base hbase)
  | connectFailed base hpc hbase => exact .of_clear rfl (hconnect base hbase)
  | looked hpc => exact hfacts.of_frame rfl rfl (by simp [hpc])
  | openFailed base hpc horder hbase hloop =>
      have hclear := hfacts.clear hbase (by simp [hpc])
      exact ⟨(reported_connectLoop base input.channels input.order true s.calls hclear).1,
        fun _ => ⟨.connectChannels, rfl⟩⟩
  | opened base allGood hpc horder hbase hloop =>
      have hclear := hfacts.clear hbase (by simp [hpc])
      exact .of_clear hbase ((reported_connectLoop base input.channels input.order true s.calls
        hclear).2 (by simp [hloop]))
  | closed caller base hpc hbase =>
      exact .of_down (guarded_closeConnection hfacts.guarded input.closeReply)
        (closeConnection_isConnected base input.closeReply)
  | dropped caller object rest hpc => exact hfacts.of_frame rfl rfl (by simp [hpc])
  | published base object next hpc hbase hnext =>
      have hclear := hfacts.clear hbase (by simp [hpc])
      have hreported := hclear.publishMessage object (s.objects object) input.now
        input.publishStatus
      rcases hnext with ⟨-, rfl⟩ | ⟨hcode, rfl⟩ | ⟨hcode, -, rfl⟩
      · exact ⟨hreported.guarded, fun _ => ⟨.publishNextInQueue, rfl⟩⟩
      · exact .of_clear hbase (hreported.clear (by rw [hcode]; rfl))
      · exact .of_clear hbase (hreported.clear hcode)
  | popped object rest hpc => exact hfacts.of_frame rfl rfl (by simp [hpc])

/-- A step of a control call keeps the failure facts. -/
theorem FailureFacts.control {s s' : ProducerState} {input : ControlInput} {pc : ControlPc}
    (hfacts : FailureFacts s) (hcall : CallFacts s pc) (hmove : ControlMove s input pc s') :
    FailureFacts s' := by
  cases hmove with
  | closed _ next base hbase =>
      exact .of_down (guarded_closeConnection hfacts.guarded input.closeReply)
        (closeConnection_isConnected base input.closeReply)
  | initConnection | destroyed =>
      exact .of_down (guarded_releaseCalls hfacts.guarded input.closeReply) rfl
  | destroyChannels base hbase =>
      -- the worker is gone, and `Stop` has closed the connection
      have hphase : s.threadRunning = false ∧ s.worker = .none := hcall.phase
      have hdown : isConnected s = false := by
        by_contra hup
        cases hcall.closed hphase.2 (by simpa using hup)
      have hnone : closeChannels base input.order = [] := by
        rw [isConnected, hbase] at hdown
        exact (closeChannels_uses base input.order).2 hdown
      refine hfacts.of_frame rfl ?_ fun _ h => h
      simp [goOn, hnone]
  | spawn restarting hworker => exact hfacts.of_frame rfl rfl (by simp [hworker])
  | joined caller hworker => exact hfacts.of_frame rfl rfl (by simp [hworker])
  | _ => exact hfacts.of_frame rfl rfl fun _ h => h

theorem failureFacts_reachable {s : ProducerState} (hs : system.ReachableUnder OneControl s) :
    FailureFacts s := by
  apply hs.induction FailureFacts
  · exact .of_down trivial rfl
  · intro s action s' hreach _ hfacts hstep
    obtain ⟨hstatus, hmove⟩ := move_of_step hstep
    cases hmove with
    | worker input _ hmove => exact hfacts.worker (handleFacts_reachable hreach) hmove
    | user _ _ hmove =>
        have hframe := hmove.frame
        refine hfacts.of_frame hframe.connection hframe.calls ?_
        rw [hframe.worker]
        exact fun _ h => h
    | begin call => exact hfacts.of_frame rfl rfl fun _ h => h
    | control k input pc rest _ hpick hmove =>
        have hthreads := threadFacts_reachable hreach hstatus
        obtain ⟨hcontrols, rfl⟩ := hthreads.only hpick
        have heq : goOn { s with controls := [] } pc = s := by rw [goOn, ← hcontrols]
        have hsame : FailureFacts { s with controls := [] } :=
          hfacts.of_frame rfl rfl fun _ h => h
        exact hsame.control (ThreadFacts.callFacts (heq ▸ hthreads) rfl) hmove

end Producer

/-! ### The consumer -/

namespace Consumer

variable {Callback : Type} {s s' : ConsumerState Callback}

/-- The connection is up, and its last operation was a server failure. -/
def FailedLast (s : ConsumerState Callback) : Prop :=
  isConnected s = true ∧ awaitsClose (currentConn s) s.calls = true

instance (s : ConsumerState Callback) : Decidable (FailedLast s) :=
  inferInstanceAs (Decidable (_ ∧ _))

/-- With a server failure behind it, the worker finds at the head of its loop that
it was stopped, and after pulling that no channel is pending. -/
def NotOverlooked (s : ConsumerState Callback) : Action Callback → Prop
  | .worker _ => FailedLast s →
      (s.worker = .loopTest → s.threadRunning = false) ∧
        (s.worker = .pendingTest → s.pendingChannels = [])
  | _ => True

instance (s : ConsumerState Callback) :
    (action : Action Callback) → Decidable (NotOverlooked s action)
  | .worker _ => inferInstanceAs (Decidable (_ → _ ∧ _))
  | .subscribe _ | .subscribeStep _ | .begin _ | .control .. => inferInstanceAs (Decidable True)

/-- One control thread, and no server failure overlooked. -/
def FailureSeen (s : ConsumerState Callback) (action : Action Callback) : Prop :=
  OneControl s action ∧ NotOverlooked s action

instance (s : ConsumerState Callback) (action : Action Callback) :
    Decidable (FailureSeen s action) :=
  inferInstanceAs (Decidable (_ ∧ _))

/-- The places the worker can be at with a server failure behind it. -/
def WorkerPc.mayFollowFailure : WorkerPc → Bool
  | .setupPush (.startUp _) _ code => serverFailure code
  | .setupPush .retry .. | .startClose | .pullRunning | .pullClose | .pendingTest | .loopTest
  | .returned | .none => true
  | _ => false

/-- No server failure was overlooked, and the worker is where it may have one
behind it if it has. -/
structure FailureFacts (s : ConsumerState Callback) : Prop where
  guarded : Guarded CloseNext s.calls
  place : FailedLast s → s.worker.mayFollowFailure = true

theorem FailureFacts.clear (hfacts : FailureFacts s) {base : ConnectionBase}
    (hbase : s.connection = some base) (hpc : s.worker.mayFollowFailure = false) :
    Clear base s.calls := by
  refine ⟨hfacts.guarded, fun hup => ?_⟩
  by_contra hwaits
  have hconn : currentConn s = base.conn := by rw [currentConn, hbase]; rfl
  have hfailed : FailedLast s := by
    constructor
    · rw [isConnected_of_connection hbase]
      exact hup
    · rw [hconn]
      simpa using hwaits
  cases hpc.symm.trans (hfacts.place hfailed)

theorem FailureFacts.of_down (hguarded : Guarded CloseNext s.calls)
    (hdown : isConnected s = false) : FailureFacts s := by
  refine ⟨hguarded, fun hfailed => ?_⟩
  cases hdown.symm.trans hfailed.1

/-- The code of the last operation decides where the worker goes. -/
theorem FailureFacts.of_reported {base : ConnectionBase} (hbase : s.connection = some base)
    {code : HareError} (hreported : Reported base code s.calls)
    (hpc : serverFailure code = true → s.worker.mayFollowFailure = true) : FailureFacts s := by
  refine ⟨hreported.guarded, fun hfailed => ?_⟩
  obtain ⟨hup, hwaits⟩ := hfailed
  rw [isConnected_of_connection hbase] at hup
  rw [currentConn, hbase] at hwaits
  exact hpc (hreported.reported hup hwaits)

/-- A step that leaves the connection alone. -/
theorem FailureFacts.of_frame (hfacts : FailureFacts s) (hconn : s'.connection = s.connection)
    (hcalls : s'.calls = s.calls)
    (hpc : FailedLast s → s.worker.mayFollowFailure = true →
      s'.worker.mayFollowFailure = true) : FailureFacts s' := by
  have hsame : FailedLast s' ↔ FailedLast s := by
    rw [FailedLast, FailedLast, isConnected, isConnected, currentConn, currentConn, hconn, hcalls]
  constructor
  · rw [hcalls]
    exact hfacts.guarded
  · rw [hsame]
    exact fun hfailed => hpc hfailed (hfacts.place hfailed)

/-- Where `setupAndConsume` goes on after a server failure. -/
theorem mayFollowFailure_setupGoesOn (caller : SetupCaller) (channel : Int) {code : HareError}
    (next : WorkerPc) (hcode : serverFailure code = true) :
    (setupGoesOn caller channel code next).mayFollowFailure = true := by
  obtain ⟨hgood, -⟩ | ⟨-, h⟩ := setupGoesOn_cases caller channel code next
  · exact absurd hgood (ne_allGood_of_serverFailure hcode)
  · rw [h]
    cases caller with
    | startUp rest => exact hcode
    | retry => rfl

/-- A step that only moves the worker on, with a server failure behind it. -/
theorem WorkerGoto.mayFollowFailure {input : WorkerInput} {next : WorkerPc}
    (hnext : WorkerGoto s input next) (hseen : NotOverlooked s (.worker input))
    (hfailed : FailedLast s) (hplace : s.worker.mayFollowFailure = true) :
    next.mayFollowFailure = true := by
  obtain ⟨hloop, hpending⟩ := hseen hfailed
  cases hnext with
  | loopOn hpc hrunning => cases (hloop hpc).symm.trans hrunning
  | pendingSome hpc hsome => exact absurd (hpending hpc) hsome
  | loopEnd | failedRunning | failedStopped | pendingNone => rfl
  | foundConnected hpc | foundClosed hpc | listed hpc | pullOn hpc | pullOff hpc =>
      rw [hpc] at hplace
      cases hplace

/-- `pullNextMessage` looks at the code of `ConsumeMessage`. -/
theorem workerStep_pullConsume {input : WorkerInput} (h : workerStep s input = some s')
    (hpc : s.worker = .pullConsume) {base : ConnectionBase} (hbase : s.connection = some base)
    (hfail : serverFailure (base.consumeMessage input.reply).code = true) :
    s'.worker = .pullRunning := by
  have hbad : noError (base.consumeMessage input.reply).code = false := by
    simpa using ne_allGood_of_serverFailure hfail
  simp only [workerStep, hpc, hbase, hbad, hfail, Bool.false_eq_true, if_false, if_true,
    Option.some.injEq] at h
  rw [← h]

/-- A step of the worker keeps the failure facts. -/
theorem FailureFacts.worker {input : WorkerInput} (hfacts : FailureFacts s)
    (hsession : SessionFacts s) (hseen : NotOverlooked s (.worker input))
    (hstep : workerStep s input = some s') : FailureFacts s' := by
  have hconnect : ∀ base, s.connection = some base →
      Clear (base.connect s.handles input.connect).base
        ((base.connect s.handles input.connect).calls ++ s.calls) := by
    intro base hbase
    exact clear_connect hfacts.guarded (hsession.sound.baseSound base hbase).plain
      hsession.sound.callsSound.numbered input.connect
  -- a call made at a place that relies on the connection
  have hcall : ∀ base, s.connection = some base → s.worker.needsConnection = true →
      ∀ (call : AmqpCall) (code : HareError), call.session = some base.conn →
      (call.failed = true → serverFailure code = true) →
      Reported base code (call :: s.calls) := by
    intro base hbase hneeds call code hon hcode
    have hup : base.isConnected = true := by
      rw [← isConnected_of_connection hbase]
      exact hsession.up hneeds
    have hclear : Clear base s.calls := by
      apply hfacts.clear hbase
      cases hpc : s.worker <;> simp_all [WorkerPc.needsConnection, WorkerPc.mayFollowFailure]
    exact hclear.call hup call hon code hcode
  have hmove := workerMove_of_step hstep
  cases hmove with
  | goto next hnext =>
      exact hfacts.of_frame rfl rfl fun hfailed => hnext.mayFollowFailure hseen hfailed
  | crash => exact hfacts.of_frame rfl rfl fun _ h => h
  | connected base hpc hbase =>
      exact .of_reported rfl ((hconnect base hbase).reported .allGood) (by rintro ⟨⟩)
  | connectFailed base hpc hbase =>
      exact .of_reported rfl ((hconnect base hbase).reported .allGood) (by rintro ⟨⟩)
  | emptied hpc => exact hfacts.of_frame rfl rfl (by simp [hpc, WorkerPc.mayFollowFailure])
  | opened caller channel base hpc hbase =>
      have hclear := hfacts.clear hbase (by rw [hpc]; rfl)
      exact .of_reported hbase
        (hclear.openChannel channel input.reply input.closeOkStatus)
        (mayFollowFailure_setupGoesOn caller channel _)
  | propertiesRead caller channel hpc =>
      exact hfacts.of_frame rfl rfl (by simp [hpc, WorkerPc.mayFollowFailure])
  | declared caller channel base queue hpc hbase | refused caller channel base queue hpc hbase =>
      exact .of_reported hbase (hcall base hbase (by rw [hpc]; rfl) _ .allGood rfl (by rintro ⟨⟩))
        (by rintro ⟨⟩)
  | bound caller channel base queue hpc hbase =>
      exact .of_reported hbase (hcall base hbase (by rw [hpc]; rfl) _ _ rfl id)
        (mayFollowFailure_setupGoesOn caller channel _)
  | consumed caller channel base queue hpc hbase hcode =>
      refine .of_reported hbase (hcall base hbase (by rw [hpc]; rfl) _ .allGood rfl ?_)
        (by rintro ⟨⟩)
      simp [AmqpCall.failed, hcode]
  | consumeFailed caller channel base queue hpc hbase hcode =>
      refine .of_reported hbase (hcall base hbase (by rw [hpc]; rfl) _ _ rfl id) ?_
      intro hfail
      cases caller with
      | startUp rest => exact hfail
      | retry => rfl
  | pushed caller channel code hpc =>
      refine hfacts.of_frame rfl rfl ?_
      intro _ hplace
      rw [hpc] at hplace
      cases caller with
      | startUp rest =>
          have hcode : serverFailure code = true := hplace
          simp [setupReturns, afterSetup, hcode, WorkerPc.mayFollowFailure]
      | retry => rfl
  | closed base hpc hbase =>
      exact .of_down (guarded_closeConnection hfacts.guarded input.reply)
        (closeConnection_isConnected base input.reply)
  | released base hpc hbase =>
      exact .of_reported hbase (hcall base hbase (by rw [hpc]; rfl) _ .allGood rfl (by rintro ⟨⟩))
        (by rintro ⟨⟩)
  | pulled base next hpc hbase hnext =>
      have hclear := hfacts.clear hbase (by rw [hpc]; rfl)
      refine .of_reported hbase (hclear.consumeMessage input.reply) ?_
      intro hfail
      rw [workerStep_pullConsume hstep hpc hbase hfail]
      rfl
  | processed envelope hpc =>
      exact hfacts.of_frame rfl rfl (by simp [hpc, WorkerPc.mayFollowFailure])
  | popped channel rest hpc =>
      exact hfacts.of_frame rfl rfl (by simp [hpc, WorkerPc.mayFollowFailure])

/-- A step of a control call keeps the failure facts. -/
theorem FailureFacts.control {reply : AmqpRpcReply} {pc : ControlPc} (hfacts : FailureFacts s)
    (hmove : ControlMove s reply pc s') : FailureFacts s' := by
  cases hmove with
  | stopRefused => exact hfacts.of_frame (by simp) (by simp) (by simp)
  | stopped caller base hbase =>
      apply FailureFacts.of_down
      · rw [stopReturns_calls]
        exact guarded_closeConnection hfacts.guarded reply
      · rw [isConnected_stopReturns]
        exact closeConnection_isConnected base reply
  | initConnection | destroyed => exact .of_down (guarded_releaseCalls hfacts.guarded reply) rfl
  | destroyClosed base hinit hbase =>
      exact .of_down (guarded_closeConnection hfacts.guarded reply)
        (closeConnection_isConnected base reply)
  | started | joined => exact hfacts.of_frame rfl rfl fun _ _ => rfl
  | _ => exact hfacts.of_frame rfl rfl fun _ h => h

theorem failureFacts_reachable (hs : system.ReachableUnder FailureSeen s) : FailureFacts s := by
  apply hs.induction FailureFacts
  · exact .of_down trivial rfl
  · intro s action s' hreach hseen hfacts hstep
    have hone : system.ReachableUnder OneControl s := hreach.mono fun _ _ h => h.1
    obtain ⟨hstatus, hmove⟩ := move_of_step hstep
    cases hmove with
    | worker input _ hmove =>
        have hworker : workerStep s input = some s' := by
          simpa [system, step, hstatus] using hstep
        exact hfacts.worker (sessionFacts_reachable hone) hseen.2 hworker
    | subscribeRefused | subscribeBegins | begin => exact hfacts.of_frame rfl rfl fun _ h => h
    | subscribe k pc rest _ hpick hmove =>
        have hframe := hmove.frame
        refine hfacts.of_frame hframe.connection hframe.calls ?_
        rw [hframe.worker]
        exact fun _ h => h
    | control k reply pc rest _ hpick _ hmove =>
        have hsame : FailureFacts { s with controls := rest } :=
          hfacts.of_frame rfl rfl fun _ h => h
        exact hsame.control hmove

end Consumer

/-- In every run of a producer with one control thread, and in every such run of a
consumer in which no failure is overlooked, the next operation on a connection
after a server failure is `CloseConnection`. -/
theorem failure_closes_connection (Callback : Type) :
    (∀ s : ProducerState, Producer.system.ReachableUnder Producer.OneControl s →
      Guarded CloseNext s.calls) ∧
    ∀ s : ConsumerState Callback,
      Consumer.system.ReachableUnder Consumer.FailureSeen s → Guarded CloseNext s.calls := by
  constructor
  · intro s hs
    exact (Producer.failureFacts_reachable hs).guarded
  · intro s hs
    exact (Consumer.failureFacts_reachable hs).guarded

/-- The reply of rabbitmq-c when the connection is gone. -/
def connectionLost : AmqpRpcReply :=
  { replyType := .libraryException, libraryError := statusConnectionClosed }

/-- The reply of rabbitmq-c when no message came. -/
def timedOut : AmqpRpcReply := { replyType := .libraryException, libraryError := statusTimeout }

/-- A producer whose publish fails and a consumer whose pull fails, both of which
have closed the connection. -/
theorem failure_closes_connection_run :
    (∃ s : ProducerState, (Producer.system.ReachableUnder Producer.OneControl s ∧
        (s.calls.countP AmqpCall.failed = 1 ∧ Producer.isConnected s = false)) ∧
      Guarded CloseNext s.calls) ∧
    ∃ s : ConsumerState Nat, (Consumer.system.ReachableUnder Consumer.FailureSeen s ∧
        (s.calls.countP AmqpCall.failed = 1 ∧ Consumer.isConnected s = false)) ∧
      Guarded CloseNext s.calls := by
  constructor
  · obtain ⟨s, hs, htest⟩ := TransitionSystem.exists_reachableUnder_of_run (M := Producer.system)
      Producer.OneControl
      (List.flatten [Producer.startUp, Producer.sendHi, Producer.connectAndOpen,
        Producer.workerSteps 3,
        [.worker { publishStatus := statusSocketError }], Producer.workerSteps 1])
      (fun s => decide (s.calls.countP AmqpCall.failed = 1 ∧ Producer.isConnected s = false))
      (by decide +kernel)
    exact ⟨s, ⟨hs, of_decide_eq_true htest⟩, (failure_closes_connection Nat).1 s hs⟩
  · obtain ⟨s, hs, htest⟩ := TransitionSystem.exists_reachableUnder_of_run (M := Consumer.system)
      Consumer.FailureSeen
      (List.flatten [Consumer.startUp, List.replicate 7 (.worker {}),
        [.worker { reply := connectionLost }, .worker {}, .worker {}]])
      (fun s => decide (s.calls.countP AmqpCall.failed = 1 ∧ Consumer.isConnected s = false))
      (by decide +kernel)
    exact ⟨s, ⟨hs, of_decide_eq_true htest⟩, (failure_closes_connection Nat).2 s hs⟩

/-- A consumer goes on with `ConsumeMessage` after a retried channel has lost the
connection, and with `OpenChannel` for a pending channel after a pull that failed
while it was being stopped. -/
theorem failure_is_overlooked :
    (∃ s : ConsumerState Nat, Consumer.system.ReachableUnder Consumer.OneControl s ∧
        ¬Guarded CloseNext s.calls) ∧
    ∃ s : ConsumerState Nat, Consumer.system.ReachableUnder Consumer.OneControl s ∧
        s.threadRunning = false ∧ ¬Guarded CloseNext s.calls := by
  constructor
  · obtain ⟨s, hs, htest⟩ := TransitionSystem.exists_reachableUnder_of_run (M := Consumer.system)
      Consumer.OneControl
      (List.flatten [Consumer.startUp, List.replicate 7 (.worker {}), Consumer.subscribeTo 97,
        [.worker { reply := timedOut }, .worker {}, .worker {},
          .worker { reply := connectionLost }], List.replicate 6 (.worker {})])
      (fun s => decide ¬Guarded CloseNext s.calls) (by decide +kernel)
    exact ⟨s, hs, of_decide_eq_true htest⟩
  · obtain ⟨s, hs, htest⟩ := TransitionSystem.exists_reachableUnder_of_run (M := Consumer.system)
      Consumer.OneControl
      (List.flatten [Consumer.startUp, List.replicate 7 (.worker {}),
        .begin .stop :: List.replicate 3 (.control 0 .normal), Consumer.subscribeTo 97,
        [.control 0 .normal, .worker { reply := connectionLost }],
        List.replicate 4 (.worker {})])
      (fun s => decide (s.threadRunning = false ∧ ¬Guarded CloseNext s.calls)) (by decide +kernel)
    exact ⟨s, hs, of_decide_eq_true htest⟩

end HareCpp
