import HareCpp.Consumer.Moves

/-!
# `setupAndConsume`

The four requests that set a channel up, as one function of their replies.  The
worker of the transition system goes through the same requests one by one
(`setup_run`), while that is defined: without a queue `DeclareQueue` reads what it
must not, and the function says what comes of it if that goes well.

The code of a request is threaded through a wrapper of the consumer and one of the
connection, and is lost on the way in one place: `ConnectionBase::DeclareQueue`
returns the outer of two variables of the same name.  `reportsVerdicts_iff` is what
remains: the broker's verdicts are reported exactly when the queue is not refused.
-/

namespace HareCpp
namespace Consumer

open Library ConnectionBase

variable {Callback : Type} {s : ConsumerState Callback}

/-- The answers to the requests of `setupAndConsume`; `declared` is the name that
the broker gives the queue.  Only a normal reply comes with one: for any other
`amqp_queue_declare` returns a null pointer. -/
structure SetupReplies where
  openReply : AmqpRpcReply := .normal
  closeOkStatus : Int := 0
  declareReply : AmqpRpcReply := .normal
  declared : Bytes := []
  bindReply : AmqpRpcReply := .normal
  consumeReply : AmqpRpcReply := .normal
  deriving DecidableEq, Repr

/-- What `setupAndConsume` has come to: its `retCode`, the members it changes, the
calls it made and the queue names that it gave to `SetQueueName`, `BindQueue` and
`StartConsumption`, newest first; and whether it was defined so far. -/
structure SetupOutcome (Callback : Type) where
  code : HareError
  channelHandler : ChannelHandler Callback
  pendingChannels : List Int
  calls : List AmqpCall := []
  given : List AmqpBytes := []
  defined : Bool := true

namespace SetupOutcome

variable (o : SetupOutcome Callback) (base : ConnectionBase) (channel : Int)

/-- `openChannel`. -/
def openChannel (reply : AmqpRpcReply) (closeOkStatus : Int) : SetupOutcome Callback :=
  let r := base.openChannel channel reply closeOkStatus
  { o with code := r.code, calls := r.calls ++ o.calls }

/-- `declareQueue`, into the variable `queueName`. -/
def declareQueue (queueName : AmqpBytes) (reply : AmqpRpcReply) (declared : Bytes) :
    SetupOutcome Callback × AmqpBytes :=
  let r := base.declareQueue channel (o.channelHandler.getQueueProperties channel) queueName
    reply declared
  let o := { o with
    code := r.code
    calls := r.calls ++ o.calls
    defined := o.defined && r.defined }
  (if noError r.code then
    { o with
      channelHandler := o.channelHandler.setQueueName channel r.retQueue
      given := r.retQueue :: o.given }
  else o, r.retQueue)

/-- `bindQueue`. -/
def bindQueue (queueName : AmqpBytes) (reply : AmqpRpcReply) : SetupOutcome Callback :=
  let r := base.bindQueue channel queueName (o.channelHandler.getExchange channel)
    (o.channelHandler.getBindingKey channel) reply
  { o with code := r.code, calls := r.calls ++ o.calls, given := queueName :: o.given }

/-- `consume`. -/
def consume (queueName : AmqpBytes) (reply : AmqpRpcReply) : SetupOutcome Callback :=
  let r := base.startConsumption channel queueName reply
  { o with code := r.code, calls := r.calls ++ o.calls, given := queueName :: o.given }

/-- `pushIntoPendingChannels`. -/
def pushIntoPendingChannels : SetupOutcome Callback :=
  { o with pendingChannels := o.pendingChannels ++ [channel] }

end SetupOutcome

/-- `setupAndConsume`. -/
def setupAndConsume (base : ConnectionBase) (handler : ChannelHandler Callback)
    (pending : List Int) (channel : Int) (replies : SetupReplies) : SetupOutcome Callback :=
  let o : SetupOutcome Callback :=
    { code := .allGood, channelHandler := handler, pendingChannels := pending }
  let o := if noError o.code then o.openChannel base channel replies.openReply
    replies.closeOkStatus else o
  -- `queueName` starts out uninitialised
  let r := if noError o.code then o.declareQueue base channel none replies.declareReply
    replies.declared else (o, none)
  let o := if noError r.1.code then r.1.bindQueue base channel r.2 replies.bindReply else r.1
  let o := if noError o.code then o.consume base channel r.2 replies.consumeReply else o
  if noError o.code then o else o.pushIntoPendingChannels channel

/-! ### What the broker decided -/

/-- The requests of `setupAndConsume`. -/
inductive SetupStep
  | channelOpen
  | queueDeclare
  | queueBind
  | basicConsume
  deriving DecidableEq, Repr

/-- The place of a request in their order. -/
def SetupStep.rank : SetupStep → Nat
  | .channelOpen => 0
  | .queueDeclare => 1
  | .queueBind => 2
  | .basicConsume => 3

/-- The request that a call into rabbitmq-c makes. -/
def requestOf : AmqpCall → Option SetupStep
  | .channelOpen .. => some .channelOpen
  | .queueDeclare .. => some .queueDeclare
  | .queueBind .. => some .queueBind
  | .basicConsume .. => some .basicConsume
  | _ => none

/-- The code of a request: that of its reply, and for a channel on a connection that
is down, where `OpenChannel` asks for none, a lost connection. -/
def verdict (base : ConnectionBase) (replies : SetupReplies) : SetupStep → HareError
  | .channelOpen =>
      if base.isConnected then decodeRpcReply replies.openReply else .serverConnectionFailure
  | .queueDeclare => decodeRpcReply replies.declareReply
  | .queueBind => decodeRpcReply replies.bindReply
  | .basicConsume => decodeRpcReply replies.consumeReply

@[simp] theorem verdict_queueDeclare (base : ConnectionBase) (replies : SetupReplies) :
    verdict base replies .queueDeclare = decodeRpcReply replies.declareReply := rfl

@[simp] theorem verdict_queueBind (base : ConnectionBase) (replies : SetupReplies) :
    verdict base replies .queueBind = decodeRpcReply replies.bindReply := rfl

@[simp] theorem verdict_basicConsume (base : ConnectionBase) (replies : SetupReplies) :
    verdict base replies .basicConsume = decodeRpcReply replies.consumeReply := rfl

/-- `setupAndConsume` reports the verdicts of the broker: it succeeds when all are
good, and else returns the first that is not, makes no later request and makes the
channel pending; and a queue name that it passes on is the one the broker has just
given. -/
structure ReportsVerdicts (base : ConnectionBase) (handler : ChannelHandler Callback)
    (pending : List Int) (channel : Int) (replies : SetupReplies) : Prop where
  allGood_iff : (setupAndConsume base handler pending channel replies).code = .allGood ↔
    ∀ step, verdict base replies step = .allGood
  failing : ∀ step, verdict base replies step ≠ .allGood →
    (∀ earlier : SetupStep, earlier.rank < step.rank →
      verdict base replies earlier = .allGood) →
    (setupAndConsume base handler pending channel replies).code = verdict base replies step ∧
    (∀ later : SetupStep, step.rank < later.rank →
      later ∉ (setupAndConsume base handler pending channel replies).calls.filterMap requestOf) ∧
    (setupAndConsume base handler pending channel replies).pendingChannels = pending ++ [channel]
  given : ∀ queueName ∈ (setupAndConsume base handler pending channel replies).given,
    replies.declareReply.replyType = .normal ∧ queueName = some replies.declared

/-! ### What a call comes to -/

section

variable (base : ConnectionBase) (handler : ChannelHandler Callback) (pending : List Int)
  (channel : Int) (replies : SetupReplies)

/-- The value of `queueName` after the declare step. -/
def boundName : AmqpBytes :=
  if noError (decodeRpcReply replies.declareReply) then some replies.declared else none

/-- `openChannel` of the connection returns the verdict on the channel. -/
theorem openChannel_code :
    (base.openChannel channel replies.openReply replies.closeOkStatus).code =
      verdict base replies .channelOpen := by
  unfold ConnectionBase.openChannel verdict
  split <;> rfl

/-- Only the channel is asked for in `OpenChannel`. -/
theorem requests_openChannel :
    ∀ step ∈ (base.openChannel channel replies.openReply
      replies.closeOkStatus).calls.filterMap requestOf, step = .channelOpen := by
  unfold ConnectionBase.openChannel
  split
  · dsimp only
    split <;> simp [requestOf]
  · simp

/-- Each request that fails ends the call. -/
theorem setupAndConsume_eq :
    setupAndConsume base handler pending channel replies =
      let o := SetupOutcome.openChannel
        { code := .allGood, channelHandler := handler, pendingChannels := pending } base channel
        replies.openReply replies.closeOkStatus
      let r := o.declareQueue base channel none replies.declareReply replies.declared
      let b := r.1.bindQueue base channel r.2 replies.bindReply
      let c := b.consume base channel r.2 replies.consumeReply
      if noError o.code then
        if noError r.1.code then
          if noError b.code then
            if noError c.code then c else c.pushIntoPendingChannels channel
          else b.pushIntoPendingChannels channel
        else r.1.pushIntoPendingChannels channel
      else o.pushIntoPendingChannels channel := by
  rw [setupAndConsume]
  dsimp only
  split_ifs <;> simp_all

/-- What the call has come to once the broker has been asked to bind the queue.  On
an open channel it is asked for that whatever it said to the queue. -/
def asked : SetupOutcome Callback where
  code := verdict base replies .queueBind
  channelHandler := handler.setQueueName channel (boundName replies)
  pendingChannels := pending
  calls := .queueBind base.conn channel (boundName replies)
      (cstringBytes ((handler.setQueueName channel (boundName replies)).getExchange channel))
      (cstringBytes ((handler.setQueueName channel (boundName replies)).getBindingKey channel))
      replies.bindReply ::
    .queueDeclare base.conn channel (handler.getQueueProperties channel) replies.declareReply ::
      (base.openChannel channel replies.openReply replies.closeOkStatus).calls
  given := [boundName replies, boundName replies]
  defined := (base.declareQueue channel (handler.getQueueProperties channel) none
    replies.declareReply replies.declared).defined

variable {base handler pending channel replies}

/-- A channel that does not open ends the call. -/
theorem setupAndConsume_of_not_open (hopen : verdict base replies .channelOpen ≠ .allGood) :
    setupAndConsume base handler pending channel replies =
      { code := verdict base replies .channelOpen
        channelHandler := handler
        pendingChannels := pending ++ [channel]
        calls := (base.openChannel channel replies.openReply replies.closeOkStatus).calls } := by
  rw [setupAndConsume_eq]
  simp [SetupOutcome.openChannel, openChannel_code, SetupOutcome.pushIntoPendingChannels, hopen]

/-- On an open channel a queue that cannot be bound ends the call. -/
theorem setupAndConsume_of_not_bound (hopen : verdict base replies .channelOpen = .allGood)
    (hbind : verdict base replies .queueBind ≠ .allGood) :
    setupAndConsume base handler pending channel replies =
      (asked base handler pending channel replies).pushIntoPendingChannels channel := by
  rw [verdict_queueBind] at hbind
  rw [setupAndConsume_eq]
  simp [SetupOutcome.openChannel, openChannel_code, SetupOutcome.declareQueue,
    ConnectionBase.declareQueue, SetupOutcome.bindQueue, ConnectionBase.bindQueue,
    SetupOutcome.pushIntoPendingChannels, asked, boundName, hopen, hbind]

/-- On an open channel the call ends with the consumption of a bound queue. -/
theorem setupAndConsume_of_bound (hopen : verdict base replies .channelOpen = .allGood)
    (hbind : verdict base replies .queueBind = .allGood) :
    setupAndConsume base handler pending channel replies =
      let o := (asked base handler pending channel replies).consume base channel
        (boundName replies) replies.consumeReply
      if noError (verdict base replies .basicConsume) then o
      else o.pushIntoPendingChannels channel := by
  rw [verdict_queueBind] at hbind
  rw [setupAndConsume_eq]
  simp [SetupOutcome.openChannel, openChannel_code, SetupOutcome.declareQueue,
    ConnectionBase.declareQueue, SetupOutcome.bindQueue, ConnectionBase.bindQueue,
    SetupOutcome.consume, startConsumption, asked, boundName, hopen, hbind]

/-- The channel is pushed once, and exactly when the call fails. -/
theorem pendingChannels_setupAndConsume :
    (setupAndConsume base handler pending channel replies).pendingChannels =
      if noError (setupAndConsume base handler pending channel replies).code then pending
      else pending ++ [channel] := by
  by_cases hopen : verdict base replies .channelOpen = .allGood
  · by_cases hbind : verdict base replies .queueBind = .allGood
    · rw [setupAndConsume_of_bound hopen hbind]
      by_cases hconsume : decodeRpcReply replies.consumeReply = .allGood <;>
        simp [SetupOutcome.consume, startConsumption, SetupOutcome.pushIntoPendingChannels,
          asked, hconsume]
    · rw [setupAndConsume_of_not_bound hopen hbind]
      rw [verdict_queueBind] at hbind
      simp [SetupOutcome.pushIntoPendingChannels, asked, hbind]
  · rw [setupAndConsume_of_not_open hopen]
    simp [hopen]

/-- The call is defined when the broker, if it is asked, declares the queue. -/
theorem setupAndConsume_defined :
    (setupAndConsume base handler pending channel replies).defined = true ↔
      (verdict base replies .channelOpen = .allGood →
        replies.declareReply.replyType = .normal) := by
  by_cases hopen : verdict base replies .channelOpen = .allGood
  · have hasked : (setupAndConsume base handler pending channel replies).defined =
        (asked base handler pending channel replies).defined := by
      by_cases hbind : verdict base replies .queueBind = .allGood
      · rw [setupAndConsume_of_bound hopen hbind]
        dsimp only
        split <;> rfl
      · rw [setupAndConsume_of_not_bound hopen hbind]
        rfl
    rw [hasked, asked, declareQueue_defined]
    exact ⟨fun h _ => h, fun h => h hopen⟩
  · rw [setupAndConsume_of_not_open hopen]
    simp [hopen]

/-- The verdict on the queue does not enter the code of the call. -/
theorem code_of_open (hopen : verdict base replies .channelOpen = .allGood) :
    (setupAndConsume base handler pending channel replies).code =
      if noError (verdict base replies .queueBind) then verdict base replies .basicConsume
      else verdict base replies .queueBind := by
  by_cases hbind : verdict base replies .queueBind = .allGood
  · rw [setupAndConsume_of_bound hopen hbind, hbind]
    dsimp only
    split <;> rfl
  · rw [setupAndConsume_of_not_bound hopen hbind]
    simp only [noError_eq_true, hbind, if_false]
    rfl

/-- On an open channel one name is passed on, whatever it is. -/
theorem given_of_open (hopen : verdict base replies .channelOpen = .allGood)
    (queueName : AmqpBytes) :
    queueName ∈ (setupAndConsume base handler pending channel replies).given ↔
      queueName = boundName replies := by
  by_cases hbind : verdict base replies .queueBind = .allGood
  · rw [setupAndConsume_of_bound hopen hbind]
    dsimp only
    split <;> simp [SetupOutcome.consume, SetupOutcome.pushIntoPendingChannels, asked]
  · rw [setupAndConsume_of_not_bound hopen hbind]
    simp [SetupOutcome.pushIntoPendingChannels, asked]

/-- A channel that does not open is all that the broker is asked for. -/
theorem requests_of_not_open (hopen : verdict base replies .channelOpen ≠ .allGood)
    {step : SetupStep} (hasked : step ∈
      (setupAndConsume base handler pending channel replies).calls.filterMap requestOf) :
    step = .channelOpen := by
  rw [setupAndConsume_of_not_open hopen] at hasked
  exact requests_openChannel base channel replies step hasked

/-- Nothing is consumed from a queue that was not bound. -/
theorem not_consumed_of_not_bound (hopen : verdict base replies .channelOpen = .allGood)
    (hbind : verdict base replies .queueBind ≠ .allGood) :
    .basicConsume ∉
      (setupAndConsume base handler pending channel replies).calls.filterMap requestOf := by
  intro hasked
  rw [setupAndConsume_of_not_bound hopen hbind] at hasked
  obtain ⟨call, hcall, hrequest⟩ := List.mem_filterMap.mp hasked
  rcases List.mem_cons.mp hcall with rfl | hcall
  · cases hrequest
  · rcases List.mem_cons.mp hcall with rfl | hcall
    · cases hrequest
    · cases requests_openChannel base channel replies _
        (List.mem_filterMap.mpr ⟨call, hcall, hrequest⟩)

/-- A call that stops at its first request reports it. -/
theorem reportsVerdicts_of_not_open (hopen : verdict base replies .channelOpen ≠ .allGood) :
    ReportsVerdicts base handler pending channel replies where
  allGood_iff := by
    rw [setupAndConsume_of_not_open hopen]
    constructor
    · intro h
      exact absurd h hopen
    · intro h
      exact h .channelOpen
  failing := by
    intro step _ hearlier
    -- the first request is the first that can fail
    cases step with
    | channelOpen =>
        refine ⟨?_, ?_, ?_⟩
        · rw [setupAndConsume_of_not_open hopen]
        · intro later hlater hasked
          rw [requests_of_not_open hopen hasked] at hlater
          exact absurd hlater (Nat.lt_irrefl _)
        · rw [setupAndConsume_of_not_open hopen]
    | queueDeclare | queueBind | basicConsume =>
        exact absurd (hearlier .channelOpen (by decide)) hopen
  given := by
    rw [setupAndConsume_of_not_open hopen]
    simp

/-- A call whose queue is declared reports the verdicts of the other three requests. -/
theorem reportsVerdicts_of_declared (hopen : verdict base replies .channelOpen = .allGood)
    (hnormal : replies.declareReply.replyType = .normal) :
    ReportsVerdicts base handler pending channel replies := by
  have hdeclare := decodeRpcReply_of_normal hnormal
  have hcode : (setupAndConsume base handler pending channel replies).code =
      if noError (verdict base replies .queueBind) then verdict base replies .basicConsume
      else verdict base replies .queueBind := code_of_open hopen
  have hpending : (setupAndConsume base handler pending channel replies).pendingChannels =
      if noError (setupAndConsume base handler pending channel replies).code then pending
      else pending ++ [channel] := pendingChannels_setupAndConsume
  refine ⟨?_, ?_, ?_⟩
  · -- the verdict on the queue is good, so that it is not missed
    rw [hcode]
    constructor
    · intro h step
      by_cases hbind : verdict base replies .queueBind = .allGood
      · simp only [hbind, noError_eq_true, if_true] at h
        cases step with
        | channelOpen => exact hopen
        | queueDeclare => exact hdeclare
        | queueBind => exact hbind
        | basicConsume => exact h
      · simp only [noError_eq_true, hbind, if_false] at h
    · intro h
      rw [h .queueBind, h .basicConsume]
      rfl
  · intro step hstep hearlier
    cases step with
    | channelOpen => exact absurd hopen hstep
    | queueDeclare => exact absurd hdeclare hstep
    | queueBind =>
        simp only [noError_eq_true, hstep, if_false] at hcode
        refine ⟨hcode, ?_, by simp [hpending, hcode, -verdict_queueBind, hstep]⟩
        intro later hlater
        cases later with
        | channelOpen | queueDeclare | queueBind => exact absurd hlater (by decide)
        | basicConsume => exact not_consumed_of_not_bound hopen hstep
    | basicConsume =>
        have hbind := hearlier .queueBind (by decide)
        simp only [noError_eq_true, hbind, if_true] at hcode
        refine ⟨hcode, ?_, by simp [hpending, hcode, -verdict_basicConsume, hstep]⟩
        intro later hlater
        cases later <;> exact absurd hlater (by decide)
  · intro queueName hmem
    rw [given_of_open hopen] at hmem
    exact ⟨hnormal, by simp [hmem, boundName, hdeclare]⟩

variable (base handler pending channel replies)

/-- The broker's verdicts are reported exactly when the declaration of the queue, if
it comes to that, is answered by a normal reply. -/
theorem reportsVerdicts_iff :
    ReportsVerdicts base handler pending channel replies ↔
      (base.isConnected = true → decodeRpcReply replies.openReply = .allGood →
        replies.declareReply.replyType = .normal) := by
  constructor
  · intro h hup hopened
    have hopen : verdict base replies .channelOpen = .allGood := by simp [verdict, hup, hopened]
    -- some name is passed on, and only a normal reply brings one
    exact (h.given _ ((given_of_open hopen _).mpr rfl)).1
  · intro h
    by_cases hopen : verdict base replies .channelOpen = .allGood
    · cases hup : base.isConnected with
      | false => simp [verdict, hup] at hopen
      | true =>
          have hopened : decodeRpcReply replies.openReply = .allGood := by
            simpa [verdict, hup] using hopen
          exact reportsVerdicts_of_declared hopen (h hup hopened)
    · exact reportsVerdicts_of_not_open hopen

end

/-- The broker refuses the queue on channel 1, and binds and consumes whatever it is
asked to. -/
def queueRefused : SetupReplies where
  declareReply := channelClosed

/-- The call succeeds although the queue was refused: the verdicts are not reported. -/
theorem reportsVerdicts_refused :
    let base := { ConnectionBase.new {} with conn := some 0, isConnected := true }
    (setupAndConsume base ({} : ChannelHandler Nat) [] 1 queueRefused).code = .allGood ∧
      none ∈ (setupAndConsume base ({} : ChannelHandler Nat) [] 1 queueRefused).given ∧
      ¬ReportsVerdicts base ({} : ChannelHandler Nat) [] 1 queueRefused := by
  refine ⟨by decide, by decide, ?_⟩
  intro h
  exact absurd ((h.allGood_iff.mp (by decide)) .queueDeclare) (by decide)

/-! ### The worker goes through the same requests -/

/-- The worker at `pc`, with the members as `setupAndConsume` has them so far. -/
def SetupOutcome.onto (o : SetupOutcome Callback) (s : ConsumerState Callback) (pc : WorkerPc) :
    ConsumerState Callback :=
  { s with
    channelHandler := o.channelHandler
    pendingChannels := o.pendingChannels
    calls := o.calls ++ s.calls
    worker := pc }

section

variable {base : ConnectionBase} (hrunning : s.status = .running)
  (hconnection : s.connection = some base) (o : SetupOutcome Callback) (caller : SetupCaller)
  (channel : Int)

include hrunning hconnection

/-- Each request is one step of the worker, after one in which `declareQueue` reads the
properties of the queue. -/
theorem step_openChannel (reply : AmqpRpcReply) (closeOkStatus : Int) :
    step (o.onto s (.setupOpen caller channel))
        (.worker { reply := reply, closeOkStatus := closeOkStatus }) =
      let o := o.openChannel base channel reply closeOkStatus
      some (o.onto s (setupGoesOn caller channel o.code (.setupProperties caller channel))) := by
  rw [step, if_pos (show (o.onto s _).status = .running from hrunning)]
  simp [workerStep, SetupOutcome.onto, hconnection, SetupOutcome.openChannel]

theorem step_declareQueue {reply : AmqpRpcReply} (hnormal : reply.replyType = .normal)
    (declared : Bytes) :
    step (o.onto s (.setupDeclare caller channel (o.channelHandler.getQueueProperties channel)))
        (.worker { reply := reply, declared := declared }) =
      let r := o.declareQueue base channel none reply declared
      some (r.1.onto s (setupGoesOn caller channel r.1.code (.setupBind caller channel r.2))) := by
  have hdefined : ∀ queueProps,
      (base.declareQueue channel queueProps none reply declared).defined = true :=
    fun _ => (declareQueue_defined ..).mpr hnormal
  rw [step, if_pos (show (o.onto s _).status = .running from hrunning)]
  simp only [workerStep, SetupOutcome.onto, hconnection, hdefined, if_true,
    SetupOutcome.declareQueue]
  simp [ConnectionBase.declareQueue]

theorem step_bindQueue (queueName : AmqpBytes) (reply : AmqpRpcReply) :
    step (o.onto s (.setupBind caller channel queueName)) (.worker { reply := reply }) =
      let o := o.bindQueue base channel queueName reply
      some (o.onto s (setupGoesOn caller channel o.code
        (.setupConsume caller channel queueName))) := by
  rw [step, if_pos (show (o.onto s _).status = .running from hrunning)]
  simp [workerStep, SetupOutcome.onto, hconnection, SetupOutcome.bindQueue]

theorem step_consume (queueName : AmqpBytes) (reply : AmqpRpcReply) :
    step (o.onto s (.setupConsume caller channel queueName)) (.worker { reply := reply }) =
      let o := o.consume base channel queueName reply
      if noError o.code then some (setupReturns (o.onto s .loopTest) caller channel o.code)
      else some (o.onto s (.setupPush caller channel o.code)) := by
  rw [step, if_pos (show (o.onto s _).status = .running from hrunning)]
  simp [workerStep, SetupOutcome.onto, hconnection, SetupOutcome.consume, setupReturns]

omit hconnection

theorem step_getQueueProperties :
    step (o.onto s (.setupProperties caller channel)) (.worker {}) =
      some (o.onto s (.setupDeclare caller channel
        (o.channelHandler.getQueueProperties channel))) := by
  rw [step, if_pos (show (o.onto s _).status = .running from hrunning)]
  rfl

theorem step_pushIntoPendingChannels (code : HareError) :
    step (o.onto s (.setupPush caller channel code)) (.worker {}) =
      some (setupReturns ((o.pushIntoPendingChannels channel).onto s .loopTest) caller channel
        code) := by
  rw [step, if_pos (show (o.onto s _).status = .running from hrunning)]
  rfl

end

/-- The worker can go from `t` to the return of `setupAndConsume` with outcome `o`. -/
def ReturnsFrom (s : ConsumerState Callback) (caller : SetupCaller) (channel : Int)
    (t : ConsumerState Callback) (o : SetupOutcome Callback) : Prop :=
  ∃ inputs : List WorkerInput, system.run (fun _ _ => True) t (inputs.map .worker) =
    some (setupReturns (o.onto s .loopTest) caller channel o.code)

section

variable {base : ConnectionBase} {caller : SetupCaller} {channel : Int}
  {t t' : ConsumerState Callback} {o : SetupOutcome Callback}

theorem ReturnsFrom.of_step {input : WorkerInput} (hstep : step t (.worker input) = some t')
    (h : ReturnsFrom s caller channel t' o) : ReturnsFrom s caller channel t o := by
  obtain ⟨inputs, hrun⟩ := h
  refine ⟨input :: inputs, ?_⟩
  rw [List.map_cons, run_step hstep, hrun]

theorem ReturnsFrom.of_return {input : WorkerInput} (hstep : step t (.worker input) =
    some (setupReturns (o.onto s .loopTest) caller channel o.code)) :
    ReturnsFrom s caller channel t o := by
  refine ⟨[input], ?_⟩
  rw [List.map_cons, run_step hstep]
  rfl

/-- A request that failed ends the call. -/
theorem returnsFrom_goesOn (hrunning : s.status = .running) (o : SetupOutcome Callback)
    {next : WorkerPc} {continued : SetupOutcome Callback}
    (hnext : o.code = .allGood → ReturnsFrom s caller channel (o.onto s next) continued) :
    ReturnsFrom s caller channel (o.onto s (setupGoesOn caller channel o.code next))
      (if noError o.code then continued else o.pushIntoPendingChannels channel) := by
  by_cases hcode : o.code = .allGood
  · rw [setupGoesOn, if_pos (by simpa using hcode), if_pos (by simpa using hcode)]
    exact hnext hcode
  · rw [setupGoesOn, if_neg (by simpa using hcode), if_neg (by simpa using hcode)]
    exact .of_return (step_pushIntoPendingChannels hrunning o caller channel o.code)

/-- The last request returns at once when it succeeds. -/
theorem returnsFrom_consume (hrunning : s.status = .running)
    (hconnection : s.connection = some base) (o : SetupOutcome Callback) (queueName : AmqpBytes)
    (reply : AmqpRpcReply) :
    ReturnsFrom s caller channel (o.onto s (.setupConsume caller channel queueName))
      (let c := o.consume base channel queueName reply
      if noError c.code then c else c.pushIntoPendingChannels channel) := by
  have hconsume := step_consume hrunning hconnection o caller channel queueName reply
  dsimp only at hconsume ⊢
  by_cases hcode : noError (o.consume base channel queueName reply).code = true
  · rw [if_pos hcode] at hconsume ⊢
    exact .of_return hconsume
  · rw [if_neg hcode] at hconsume ⊢
    exact .of_step hconsume
      (.of_return (step_pushIntoPendingChannels hrunning _ caller channel _))

/-- The steps of the worker that no other thread interrupts lead from the first
request of `setupAndConsume` to where the function says, and return its code. -/
theorem setup_run (hrunning : s.status = .running)
    (hworker : s.worker = .setupOpen caller channel) (hconnection : s.connection = some base)
    (replies : SetupReplies)
    (hdefined : (setupAndConsume base s.channelHandler s.pendingChannels channel
      replies).defined = true) :
    ReturnsFrom s caller channel s
      (setupAndConsume base s.channelHandler s.pendingChannels channel replies) := by
  let o : SetupOutcome Callback :=
    { code := .allGood, channelHandler := s.channelHandler, pendingChannels := s.pendingChannels }
  have hstart : o.onto s (.setupOpen caller channel) = s := by
    rw [← hworker]
    rfl
  have hopen := step_openChannel hrunning hconnection o caller channel replies.openReply
    replies.closeOkStatus
  rw [hstart] at hopen
  rw [setupAndConsume_eq]
  refine .of_step hopen (returnsFrom_goesOn hrunning _ ?_)
  intro hopened
  have hnormal := setupAndConsume_defined.mp hdefined
    ((openChannel_code base channel replies).symm.trans hopened)
  refine .of_step (step_getQueueProperties hrunning _ caller channel) ?_
  refine .of_step (step_declareQueue hrunning hconnection _ caller channel hnormal _)
    (returnsFrom_goesOn hrunning _ ?_)
  intro _
  refine .of_step (step_bindQueue hrunning hconnection _ caller channel _ _)
    (returnsFrom_goesOn hrunning _ ?_)
  intro _
  exact returnsFrom_consume hrunning hconnection _ _ _

end

end Consumer
end HareCpp
