import HareCpp.Library.TransitionSystem
import HareCpp.Amqp

/-!
# `ConnectionBase`, the gatekeeper of all rabbitmq-c calls

Each operation is a function of the object and of what rabbitmq-c answers; its
`Outcome` is the return code, the object afterwards and the calls it made,
newest first.  Nothing else in the wrapper calls rabbitmq-c, apart from
`amqp_maybe_release_buffers` in `Consumer::pullNextMessage`.

Two functions deserve a warning.  `decodeRpcReply` turns every exception it
does not know into success, and `declareQueue` returns the outer `retCode`,
which the inner declaration of the same name shadows: it always succeeds, if it
gets that far, for without a normal reply it reads what it must not
(`QueueOutcome.defined`).

What the operations do is said once below: `KeepsSession` for those that test
`m_isConnected` and change no member, `connect_cases` and
`closeConnection_of_connected` for the two that create and destroy handles.
-/

namespace HareCpp

open Library

/-- `helper::loginCredentials`. -/
structure LoginCredentials where
  hostname : Bytes := []
  port : Int := 5672
  username : Bytes := []
  password : Bytes := []
  deriving DecidableEq, Repr

/-- The members of `ConnectionBase`.  `socket` says whether `m_socket` is not
null; the constructor leaves `m_conn` unassigned. -/
structure ConnectionBase where
  socket : Bool
  conn : Option Nat
  basicCredentials : LoginCredentials
  isConnected : Bool
  isSSL : Bool
  connectionFailure : Bool
  timeout : Int
  deriving DecidableEq, Repr

namespace ConnectionBase

/-- `CONNECTION_TIMEOUT_SECONDS`. -/
def connectionTimeoutSeconds : Int := 1

/-- The constructor. -/
def new (credentials : LoginCredentials) : ConnectionBase where
  socket := false
  conn := none
  basicCredentials := credentials
  isConnected := false
  isSSL := false
  connectionFailure := false
  timeout := connectionTimeoutSeconds

/-- What an operation returns, the object it leaves, and the calls it made,
newest first. -/
structure Outcome where
  code : HareError
  base : ConnectionBase
  calls : List AmqpCall

/-- The answers to the calls of `Connect`. -/
structure ConnectReplies where
  socketCreated : Bool := true
  openStatus : Int := 0
  loginReply : AmqpRpcReply := .normal

/-- `decodeLibraryException`. -/
def decodeLibraryException (reply : AmqpRpcReply) : HareError :=
  if reply.libraryError = statusIncompatibleAmqpVersion then .invalidAmqpVersion
  else if reply.libraryError = statusConnectionClosed then .serverConnectionFailure
  else if reply.libraryError = statusInvalidParameter then .invalidParameters
  else if reply.libraryError = statusSocketError then .serverConnectionFailure
  else if reply.libraryError = statusTimeout then .timeoutOccured
  else if reply.libraryError = statusSocketClosed then .serverConnectionFailure
  else if reply.libraryError = statusSslConnectionFailed then .serverAuthenticationFailure
  else if reply.libraryError = statusSslHostnameVerifyFailed then .serverAuthenticationFailure
  else if reply.libraryError = statusUnexpectedState then .serverConnectionFailure
  -- "HareCpp doesn't have this error known": logged, and still `ALL_GOOD`
  else .allGood

/-- `decodeRpcReply`. -/
def decodeRpcReply (reply : AmqpRpcReply) : HareError :=
  match reply.replyType with
  | .normal => .allGood
  | .none => .noRpcReply
  | .libraryException => decodeLibraryException reply
  | .serverException =>
      if reply.replyId = connectionCloseMethod then .serverConnectionFailure
      else if reply.replyId = channelCloseMethod then .channelException
      -- "Unknown Server Exception received": logged, and still `ALL_GOOD`
      else .allGood

theorem decodeRpcReply_of_normal {reply : AmqpRpcReply} (h : reply.replyType = .normal) :
    decodeRpcReply reply = .allGood := by
  rw [decodeRpcReply, h]

/-- `login`. -/
def login (base : ConnectionBase) (reply : AmqpRpcReply) : Outcome where
  code := if reply.replyType ≠ .normal then .serverAuthenticationFailure else .allGood
  base := base
  calls := [.login base.conn (cstringBytes base.basicCredentials.username)
    (cstringBytes base.basicCredentials.password) reply]

/-- `connectBasic`; `handle` is what `amqp_new_connection` returns. -/
def connectBasic (base : ConnectionBase) (handle : Nat) (replies : ConnectReplies) :
    Outcome :=
  let base := { base with conn := some handle, socket := replies.socketCreated }
  let created := [.tcpSocketNew (some handle) replies.socketCreated, .newConnection handle]
  if replies.socketCreated then
    { code := if replies.openStatus ≠ 0 then .serverConnectionFailure else .allGood
      base := base
      calls := .socketOpen (cstringBytes base.basicCredentials.hostname)
        base.basicCredentials.port replies.openStatus :: created }
  else
    { code := .initializeFailure, base := base, calls := created }

/-- `Connect`. -/
def connect (base : ConnectionBase) (handle : Nat) (replies : ConnectReplies) : Outcome :=
  let basic := if base.isSSL then ⟨.allGood, base, []⟩ else base.connectBasic handle replies
  if noError basic.code then
    let logged := basic.base.login replies.loginReply
    { code := logged.code
      base := if noError logged.code then { logged.base with isConnected := true }
        else logged.base
      calls := logged.calls ++ basic.calls }
  else basic

/-- `CloseConnection`. -/
def closeConnection (base : ConnectionBase) (reply : AmqpRpcReply) : Outcome :=
  if base.isConnected then
    { code := match reply.replyType with
        | .none => .noRpcReply
        | .serverException => .serverExceptionResponse
        | .normal | .libraryException => .allGood
      base := { base with
        connectionFailure := base.connectionFailure ||
          decide (reply.replyType = .serverException)
        isConnected := false }
      calls := [.destroyConnection base.conn, .connectionClose base.conn reply] }
  else
    { code := .allGood, base := base, calls := [] }

/-- The calls made when the object behind a `shared_ptr<ConnectionBase>` is
destroyed: the destructor closes the connection. -/
def releaseCalls (connection : Option ConnectionBase) (reply : AmqpRpcReply) : List AmqpCall :=
  match connection with
  | none => []
  | some old => (old.closeConnection reply).calls

/-- `DeclareExchange`. -/
def declareExchange (base : ConnectionBase) (channel : Int) (exchange type : Bytes)
    (reply : AmqpRpcReply) : Outcome :=
  if base.isConnected then
    { code := decodeRpcReply reply
      base := base
      calls := [.exchangeDeclare base.conn channel (cstringBytes exchange) (cstringBytes type)
        reply] }
  else
    { code := .serverConnectionFailure, base := base, calls := [] }

/-- `OpenChannel`; a channel exception is answered with `channel.close-ok`. -/
def openChannel (base : ConnectionBase) (channel : Int) (reply : AmqpRpcReply)
    (closeOkStatus : Int) : Outcome :=
  if base.isConnected then
    { code := decodeRpcReply reply
      base := base
      calls :=
        if decodeRpcReply reply = .channelException then
          [.sendCloseOk base.conn channel closeOkStatus, .channelOpen base.conn channel reply]
        else
          [.channelOpen base.conn channel reply] }
  else
    { code := .serverConnectionFailure, base := base, calls := [] }

/-- `CloseChannel`. -/
def closeChannel (base : ConnectionBase) (channel : Int) : Outcome :=
  if base.isConnected then
    { code := .allGood, base := base, calls := [.channelClose base.conn channel] }
  else
    { code := .unableToCloseChannel, base := base, calls := [] }

/-- `PublishMessage` sets the timestamp of a message that has none, at the time
`now` of the call. -/
def stampTimestamp (message : RawMessage) (now : UInt64) : RawMessage :=
  if basicTimestampFlag ≠ message.properties.flags &&& basicTimestampFlag then
    { message with
      properties := { message.properties with
        flags := message.properties.flags ||| basicTimestampFlag
        timestamp := now } }
  else message

/-- The code of `PublishMessage` for the status of `amqp_basic_publish`. -/
def publishCode (errorVal : Int) : HareError :=
  if errorVal < 0 then
    if errorVal = statusSocketError then .serverConnectionFailure else .publishError
  else .allGood

/-- `PublishMessage` on the `RawMessage` at address `object`; the second
component is the message as the call leaves it. -/
def publishMessage (base : ConnectionBase) (object : Nat) (message : RawMessage)
    (now : UInt64) (errorVal : Int) : Outcome × RawMessage :=
  if base.isConnected then
    let message := stampTimestamp message now
    ({ code := publishCode errorVal
       base := base
       calls := [.basicPublish base.conn object message errorVal] }, message)
  else
    ({ code := .serverConnectionFailure, base := base, calls := [] }, message)

/-- `ConsumeMessage`; the envelope is an input of its caller. -/
def consumeMessage (base : ConnectionBase) (reply : AmqpRpcReply) : Outcome :=
  if base.isConnected then
    { code := decodeRpcReply reply
      base := base
      calls := [.consumeMessage base.conn base.timeout reply] }
  else
    { code := .serverConnectionFailure, base := base, calls := [] }

/-- `StartConsumption`; it does not look at `m_isConnected`. -/
def startConsumption (base : ConnectionBase) (channel : Int) (queueName : AmqpBytes)
    (reply : AmqpRpcReply) : Outcome where
  code := decodeRpcReply reply
  base := base
  calls := [.basicConsume base.conn channel queueName reply]

/-- What `DeclareQueue` comes to.  `retQueue` is the out-parameter after the call.
Where `defined` is false the call dereferences a null pointer or reads a variable
that was never written; the other fields then say what the code goes on with
otherwise. -/
structure QueueOutcome extends Outcome where
  retQueue : AmqpBytes
  defined : Bool

/-- `DeclareQueue`; it does not look at `m_isConnected`.  `declared` is the name
the broker gave the queue, `retQueue` the value of the out-parameter before the
call.  The decoded reply lives in an inner `retCode`, the outer one is returned.
`amqp_queue_declare` returns a null pointer for any reply but a normal one: it is
dereferenced if the reply decodes to `ALL_GOOD`, and else `retQueue.bytes` is
compared with `NULL`, written or not. -/
def declareQueue (base : ConnectionBase) (channel : Int) (queueProps : QueueProperties)
    (retQueue : AmqpBytes) (reply : AmqpRpcReply) (declared : Bytes) : QueueOutcome where
  code := .allGood
  base := base
  calls := [.queueDeclare base.conn channel queueProps reply]
  retQueue := if noError (decodeRpcReply reply) then some declared else retQueue
  defined :=
    if noError (decodeRpcReply reply) then decide (reply.replyType = .normal)
    else retQueue.isSome

/-- `BindQueue`; it does not look at `m_isConnected`. -/
def bindQueue (base : ConnectionBase) (channel : Int) (queueName : AmqpBytes)
    (exchange bindingKey : Bytes) (reply : AmqpRpcReply) : Outcome where
  code := decodeRpcReply reply
  base := base
  calls := [.queueBind base.conn channel queueName (cstringBytes exchange)
    (cstringBytes bindingKey) reply]

/-! ### What the operations do -/

/-- An operation that tests `m_isConnected` first and changes no member. -/
structure Outcome.KeepsSession (base : ConnectionBase) (o : Outcome) : Prop where
  base_eq : o.base = base
  uses : ∀ call ∈ o.calls, call.UsesSession base.conn
  calls_eq_nil : base.isConnected = false → o.calls = []

theorem keepsSession_declareExchange (base : ConnectionBase) (channel : Int)
    (exchange type : Bytes) (reply : AmqpRpcReply) :
    (base.declareExchange channel exchange type reply).KeepsSession base := by
  unfold declareExchange
  split
  · exact ⟨rfl, by simp [AmqpCall.UsesSession, AmqpCall.session], by simp_all⟩
  · exact ⟨rfl, by simp, by simp⟩

theorem keepsSession_openChannel (base : ConnectionBase) (channel : Int)
    (reply : AmqpRpcReply) (closeOkStatus : Int) :
    (base.openChannel channel reply closeOkStatus).KeepsSession base := by
  unfold openChannel
  split
  · refine ⟨rfl, ?_, by simp_all⟩
    dsimp only
    split <;> simp [AmqpCall.UsesSession, AmqpCall.session]
  · exact ⟨rfl, by simp, by simp⟩

/-- What `OpenChannel` does. -/
theorem openChannel_cases (base : ConnectionBase) (channel : Int) (reply : AmqpRpcReply)
    (closeOkStatus : Int) :
    (base.isConnected = false ∧ base.openChannel channel reply closeOkStatus =
      ⟨.serverConnectionFailure, base, []⟩) ∨
    ∃ after, base.isConnected = true ∧ base.openChannel channel reply closeOkStatus =
        ⟨decodeRpcReply reply, base, after ++ [.channelOpen base.conn channel reply]⟩ ∧
      ∀ call ∈ after, call = .sendCloseOk base.conn channel closeOkStatus := by
  cases hup : base.isConnected with
  | false => simp [openChannel, hup]
  | true =>
      right
      by_cases hcode : decodeRpcReply reply = .channelException
      · exact ⟨[.sendCloseOk base.conn channel closeOkStatus], rfl,
          by simp [openChannel, hup, hcode], by simp⟩
      · exact ⟨[], rfl, by simp [openChannel, hup, hcode], by simp⟩

/-- Into a variable that was never written, only a normal reply can be taken. -/
theorem declareQueue_defined (base : ConnectionBase) (channel : Int) (queueProps : QueueProperties)
    (reply : AmqpRpcReply) (declared : Bytes) :
    (base.declareQueue channel queueProps none reply declared).defined = true ↔
      reply.replyType = .normal := by
  constructor
  · intro h
    simp only [declareQueue] at h
    split at h
    · exact of_decide_eq_true h
    · cases h
  · intro hnormal
    simp [declareQueue, decodeRpcReply_of_normal hnormal, hnormal]

/-- The name that comes with a normal reply. -/
theorem declareQueue_retQueue (base : ConnectionBase) (channel : Int)
    (queueProps : QueueProperties) (retQueue : AmqpBytes) {reply : AmqpRpcReply} (declared : Bytes)
    (hnormal : reply.replyType = .normal) :
    (base.declareQueue channel queueProps retQueue reply declared).retQueue = some declared := by
  have hcode := decodeRpcReply_of_normal hnormal
  simp [declareQueue, hcode]

theorem keepsSession_closeChannel (base : ConnectionBase) (channel : Int) :
    (base.closeChannel channel).KeepsSession base := by
  unfold closeChannel
  split
  · exact ⟨rfl, by simp [AmqpCall.UsesSession, AmqpCall.session], by simp_all⟩
  · exact ⟨rfl, by simp, by simp⟩

theorem keepsSession_publishMessage (base : ConnectionBase) (object : Nat)
    (message : RawMessage) (now : UInt64) (errorVal : Int) :
    (base.publishMessage object message now errorVal).1.KeepsSession base := by
  unfold publishMessage
  split
  · exact ⟨rfl, by simp [AmqpCall.UsesSession, AmqpCall.session], by simp_all⟩
  · exact ⟨rfl, by simp, by simp⟩

theorem keepsSession_consumeMessage (base : ConnectionBase) (reply : AmqpRpcReply) :
    (base.consumeMessage reply).KeepsSession base := by
  unfold consumeMessage
  split
  · exact ⟨rfl, by simp [AmqpCall.UsesSession, AmqpCall.session], by simp_all⟩
  · exact ⟨rfl, by simp, by simp⟩

theorem closeConnection_of_connected {base : ConnectionBase} (h : base.isConnected = true)
    (reply : AmqpRpcReply) :
    (base.closeConnection reply).calls =
        [.destroyConnection base.conn, .connectionClose base.conn reply] ∧
      (base.closeConnection reply).base.conn = base.conn ∧
      (base.closeConnection reply).base.isSSL = base.isSSL := by
  simp [closeConnection, h]

theorem closeConnection_of_not_connected {base : ConnectionBase} (h : base.isConnected = false)
    (reply : AmqpRpcReply) : base.closeConnection reply = ⟨.allGood, base, []⟩ := by
  simp [closeConnection, h]

/-- After `CloseConnection` the object is not connected, whatever the broker
answered. -/
@[simp] theorem closeConnection_isConnected (base : ConnectionBase) (reply : AmqpRpcReply) :
    (base.closeConnection reply).base.isConnected = false := by
  cases h : base.isConnected with
  | true => simp [closeConnection, h]
  | false => simp [closeConnection_of_not_connected h, h]

/-- `Connect` takes a new handle in every case.  It fails without a successful
login and with `m_isConnected` as it was, or it succeeds after one. -/
theorem connect_cases {base : ConnectionBase} (hplain : base.isSSL = false) (handle : Nat)
    (replies : ConnectReplies) :
    (∃ code calls,
      base.connect handle replies =
          ⟨code, { base with conn := some handle, socket := replies.socketCreated }, calls⟩ ∧
        code ≠ .allGood ∧
        ∀ call ∈ calls, call = .newConnection handle ∨
          (∃ created, call = .tcpSocketNew (some handle) created) ∨
          (∃ hostname port status, call = .socketOpen hostname port status) ∨
          ∃ username password reply, call = .login (some handle) username password reply ∧
            reply.replyType ≠ .normal) ∨
    (∃ username password hostname port reply,
      base.connect handle replies =
          ⟨.allGood, { base with conn := some handle, socket := true, isConnected := true },
            [.login (some handle) username password reply, .socketOpen hostname port 0,
              .tcpSocketNew (some handle) true, .newConnection handle]⟩ ∧
        reply.replyType = .normal) := by
  obtain ⟨socketCreated, openStatus, loginReply⟩ := replies
  cases socketCreated with
  | false =>
      refine .inl ⟨.initializeFailure, [.tcpSocketNew (some handle) false, .newConnection handle],
        ?_, by decide, by simp⟩
      simp [connect, connectBasic, hplain]
  | true =>
      let opened : AmqpCall := .socketOpen (cstringBytes base.basicCredentials.hostname)
        base.basicCredentials.port openStatus
      let created : List AmqpCall := [.tcpSocketNew (some handle) true, .newConnection handle]
      by_cases hopen : openStatus = 0
      · subst hopen
        by_cases hlogin : loginReply.replyType = .normal
        · refine .inr ⟨cstringBytes base.basicCredentials.username,
            cstringBytes base.basicCredentials.password,
            cstringBytes base.basicCredentials.hostname, base.basicCredentials.port,
            loginReply, ?_, hlogin⟩
          simp [connect, connectBasic, login, hplain, hlogin]
        · refine .inl ⟨.serverAuthenticationFailure,
            .login (some handle) (cstringBytes base.basicCredentials.username)
              (cstringBytes base.basicCredentials.password) loginReply :: opened :: created,
            ?_, by decide, by simp [opened, created, hlogin]⟩
          simp [connect, connectBasic, login, hplain, hlogin, opened, created]
      · refine .inl ⟨.serverConnectionFailure, opened :: created, ?_, by decide,
          by simp [opened, created]⟩
        simp [connect, connectBasic, hplain, hopen, opened, created]

/-- `Connect` makes none of the calls that need a connection. -/
theorem connect_session (base : ConnectionBase) (handle : Nat) (replies : ConnectReplies) :
    ∀ call ∈ (base.connect handle replies).calls, call.session = none := by
  have hlogin : ∀ (b : ConnectionBase), ∀ call ∈ (b.login replies.loginReply).calls,
      call.session = none := by
    simp [login, AmqpCall.session]
  have hbasic : ∀ call ∈ (base.connectBasic handle replies).calls, call.session = none := by
    intro call hcall
    unfold connectBasic at hcall
    dsimp only at hcall
    split at hcall <;> simp at hcall <;> rcases hcall with rfl | rfl | rfl <;> rfl
  intro call hcall
  unfold connect at hcall
  dsimp only at hcall
  cases hssl : base.isSSL with
  | false =>
      simp only [hssl, Bool.false_eq_true, if_false] at hcall
      split at hcall
      · rcases List.mem_append.mp hcall with h | h
        · exact hlogin _ call h
        · exact hbasic call h
      · exact hbasic call hcall
  | true =>
      simp only [hssl, if_true, noError, decide_true, List.append_nil] at hcall
      exact hlogin _ call hcall

/-- Calls that open no channel. -/
theorem mem_open_of_append {new calls : List AmqpCall}
    (hnew : ∀ conn channel reply, .channelOpen conn channel reply ∉ new) :
    ∀ conn channel reply, .channelOpen conn channel reply ∈ new ++ calls →
      .channelOpen conn channel reply ∈ calls := by
  intro conn channel reply hmem
  exact (List.mem_append.mp hmem).resolve_left (hnew conn channel reply)

theorem not_open_connect (base : ConnectionBase) (handle : Nat) (replies : ConnectReplies) :
    ∀ conn channel reply,
      .channelOpen conn channel reply ∉ (base.connect handle replies).calls := by
  intro conn channel reply hmem
  cases connect_session base handle replies _ hmem

theorem not_open_closeConnection (base : ConnectionBase) (reply : AmqpRpcReply) :
    ∀ conn channel reply', .channelOpen conn channel reply' ∉
      (base.closeConnection reply).calls := by
  intro conn channel reply'
  unfold closeConnection
  split <;> simp

theorem not_open_releaseCalls (connection : Option ConnectionBase) (reply : AmqpRpcReply) :
    ∀ conn channel reply', .channelOpen conn channel reply' ∉ releaseCalls connection reply := by
  unfold releaseCalls
  split
  · simp
  · next old => exact not_open_closeConnection old reply

theorem handle_of_uses {conn : Option Nat} {new : List AmqpCall}
    (huses : ∀ call ∈ new, call.UsesSession conn) : ∀ call ∈ new, call.handle = conn :=
  fun call hcall => (huses call hcall).handle_eq

/-- `CloseConnection` works on the handle it closes. -/
theorem closeConnection_handle (base : ConnectionBase) (reply : AmqpRpcReply) :
    (∀ call ∈ (base.closeConnection reply).calls, call.handle = base.conn) ∧
      (base.closeConnection reply).base.conn = base.conn ∧
      (base.closeConnection reply).base.isSSL = base.isSSL := by
  cases hconnected : base.isConnected with
  | false =>
      rw [closeConnection_of_not_connected hconnected]
      exact ⟨by simp, rfl, rfl⟩
  | true =>
      obtain ⟨hcalls, hconn, hssl⟩ := closeConnection_of_connected hconnected reply
      rw [hcalls]
      exact ⟨by simp [AmqpCall.handle], hconn, hssl⟩

/-- `Connect` takes the next handle. -/
theorem connect_handle {base : ConnectionBase} (hplain : base.isSSL = false) (handle : Nat)
    (replies : ConnectReplies) :
    (∀ call ∈ (base.connect handle replies).calls, ∀ h, call.handle = some h → h = handle) ∧
      (base.connect handle replies).base.conn = some handle ∧
      (base.connect handle replies).base.isSSL = false ∧
      ((base.connect handle replies).code = .allGood →
        (base.connect handle replies).base.isConnected = true) ∧
      ((base.connect handle replies).code ≠ .allGood →
        (base.connect handle replies).base.isConnected = base.isConnected) := by
  rcases connect_cases hplain handle replies with
    ⟨code, calls, heq, hcode, hcalls⟩ | ⟨username, password, hostname, port, reply, heq, -⟩
  · rw [heq]
    refine ⟨?_, rfl, hplain, fun h => absurd h hcode, fun _ => rfl⟩
    intro call hcall h hh
    rcases hcalls call hcall with rfl | ⟨_, rfl⟩ | ⟨_, _, _, rfl⟩ | ⟨_, _, _, rfl, -⟩ <;>
      simp only [AmqpCall.handle, Option.some.injEq, reduceCtorEq] at hh <;> exact hh.symm
  · rw [heq]
    refine ⟨?_, rfl, hplain, fun _ => rfl, fun h => absurd rfl h⟩
    intro call hcall h hh
    simp only [List.mem_cons, List.not_mem_nil, or_false] at hcall
    rcases hcall with rfl | rfl | rfl | rfl <;>
      simp only [AmqpCall.handle, Option.some.injEq, reduceCtorEq] at hh <;> exact hh.symm

/-- The timestamp flag is set. -/
def Flagged (message : RawMessage) : Prop :=
  basicTimestampFlag = message.properties.flags &&& basicTimestampFlag

/-- `PublishMessage` leaves the flag set. -/
theorem flagged_stampTimestamp (message : RawMessage) (now : UInt64) :
    Flagged (stampTimestamp message now) := by
  unfold stampTimestamp
  split
  · show basicTimestampFlag =
      (message.properties.flags ||| basicTimestampFlag) &&& basicTimestampFlag
    apply UInt32.toBitVec_inj.mp
    ext i hi
    simp only [UInt32.toBitVec_and, UInt32.toBitVec_or, BitVec.getElem_and, BitVec.getElem_or]
    grind
  · next h => exact not_not.mp h

/-- A message that has a timestamp keeps it. -/
theorem stampTimestamp_of_flagged {message : RawMessage} (h : Flagged message) (now : UInt64) :
    stampTimestamp message now = message := by
  unfold stampTimestamp
  exact if_neg (not_not.mpr h)

@[simp] theorem stampTimestamp_channel (message : RawMessage) (now : UInt64) :
    (stampTimestamp message now).channel = message.channel := by
  unfold stampTimestamp
  split <;> rfl

/-- What one attempt to publish does. -/
theorem publishMessage_cases (base : ConnectionBase) (object : Nat) (message : RawMessage)
    (now : UInt64) (status : Int) :
    (base.isConnected = false ∧
      base.publishMessage object message now status =
        (⟨.serverConnectionFailure, base, []⟩, message)) ∨
    (base.isConnected = true ∧
      base.publishMessage object message now status =
        (⟨publishCode status, base,
          [.basicPublish base.conn object (stampTimestamp message now) status]⟩,
          stampTimestamp message now)) := by
  cases hconnected : base.isConnected <;> simp [publishMessage, hconnected]

end ConnectionBase
end HareCpp
