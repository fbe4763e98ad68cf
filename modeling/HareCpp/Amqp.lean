import HareCpp.ErrorCodes

/-!
# What rabbitmq-c is asked and what it answers

The data that crosses the boundary to rabbitmq-c, and `AmqpCall`, one entry
for each call the wrapper makes.  The library and the broker behind it are not
modelled: what they answer (a reply, a status, a delivered envelope) is an
input of the operation that receives it, and a call is recorded together with
its answer.

A byte string is the list of its bytes.  An `amqp_bytes_t` is such a list, or
`none` as long as the variable that holds it has not been written.  Numeric
values of status codes, method identifiers and property flags are those of
rabbitmq-c's `amqp.h` and `amqp_framing.h`.
-/

namespace HareCpp

/-- The contents of a `std::string`, or of the memory an `amqp_bytes_t` points
to. -/
abbrev Bytes := List UInt8

/-- An `amqp_bytes_t`; `none` stands for a variable never written. -/
abbrev AmqpBytes := Option Bytes

/-- What `strlen`, and with it `amqp_cstring_bytes` and `hare_cstring_bytes`,
see of `str.c_str()`: everything before the first NUL byte. -/
def cstringBytes (str : Bytes) : Bytes := str.takeWhile (· ≠ 0)

/-- `amqp_response_type_enum`. -/
inductive ReplyType
  | none
  | normal
  | libraryException
  | serverException
  deriving DecidableEq, Repr

/-- `amqp_rpc_reply_t`: the kind of the reply, the method it carries in case of
a server exception, and the status in case of a library exception. -/
structure AmqpRpcReply where
  replyType : ReplyType
  replyId : UInt32 := 0
  libraryError : Int := 0
  deriving DecidableEq, Repr

/-- The reply to a request that succeeded. -/
def AmqpRpcReply.normal : AmqpRpcReply := { replyType := .normal }

/-- `AMQP_CONNECTION_CLOSE_METHOD`. -/
def connectionCloseMethod : UInt32 := 0x000A0032

/-- `AMQP_CHANNEL_CLOSE_METHOD`. -/
def channelCloseMethod : UInt32 := 0x00140028

/-- The reply by which the broker closes a channel. -/
def channelClosed : AmqpRpcReply :=
  { replyType := .serverException, replyId := channelCloseMethod }

/-- The members of `amqp_status_enum` that the wrapper tells apart. -/
def statusIncompatibleAmqpVersion : Int := -0x0006
def statusConnectionClosed : Int := -0x0007
def statusSocketError : Int := -0x0009
def statusInvalidParameter : Int := -0x000A
def statusTimeout : Int := -0x000D
def statusUnexpectedState : Int := -0x0010
def statusSocketClosed : Int := -0x0011
def statusSslHostnameVerifyFailed : Int := -0x0201
def statusSslConnectionFailed : Int := -0x0203

/-- The flags that mark which properties of a message are set. -/
def basicContentTypeFlag : UInt32 := 0x8000
def basicContentEncodingFlag : UInt32 := 0x4000
def basicCorrelationIdFlag : UInt32 := 0x0400
def basicReplyToFlag : UInt32 := 0x0200
def basicExpirationFlag : UInt32 := 0x0100
def basicMessageIdFlag : UInt32 := 0x0080
def basicTimestampFlag : UInt32 := 0x0040
def basicTypeFlag : UInt32 := 0x0020
def basicUserIdFlag : UInt32 := 0x0010
def basicAppIdFlag : UInt32 := 0x0008
def basicClusterIdFlag : UInt32 := 0x0004

/-- `amqp_basic_properties_t`.  The header table is never looked into.

A property that is not a copy of its own is a pointer: `replyToText` and
`correlationIdText` name the string of the caller whose bytes it leads to, and
`headersPool` the pool of the received envelope that holds the header table.  The
property itself is then what was there when the pointer was taken. -/
structure AmqpBasicProperties where
  flags : UInt32 := 0
  contentType : AmqpBytes := none
  contentEncoding : AmqpBytes := none
  headers : List (Bytes × Bytes) := []
  deliveryMode : UInt8 := 0
  priority : UInt8 := 0
  correlationId : AmqpBytes := none
  replyTo : AmqpBytes := none
  expiration : AmqpBytes := none
  messageId : AmqpBytes := none
  timestamp : UInt64 := 0
  type : AmqpBytes := none
  userId : AmqpBytes := none
  appId : AmqpBytes := none
  clusterId : AmqpBytes := none
  replyToText : Option Nat := none
  correlationIdText : Option Nat := none
  headersPool : Option Nat := none
  deriving DecidableEq, Repr

/-- `helper::queueProperties`, with the defaults of its constructor. -/
structure QueueProperties where
  passive : Int := 0
  durable : Int := 0
  exclusive : Int := 0
  autoDelete : Int := 1
  deriving DecidableEq, Repr

/-- `helper::RawMessage`: a message as `Producer::Send` queues it. -/
structure RawMessage where
  exchange : Bytes := []
  channel : Int := 0
  routingKey : Bytes := []
  properties : AmqpBasicProperties := {}
  message : AmqpBytes := none
  deriving DecidableEq, Repr

/-- `amqp_envelope_t`: a delivery, with the channel it came in on. -/
structure AmqpEnvelope where
  channel : Int
  exchange : Bytes
  routingKey : Bytes
  properties : AmqpBasicProperties := {}
  body : Bytes := []
  deriving DecidableEq, Repr

/-- The calls into rabbitmq-c.  An `amqp_connection_state_t` is a number, counted
in the order in which `amqp_new_connection` handed them out; `conn` is the value
of `m_conn` at the call, `none` when it was never assigned; `channel` is the
`int` the wrapper passes.  `basicPublish` names the `RawMessage` object whose
properties it is given a pointer to. -/
inductive AmqpCall
  | newConnection (handle : Nat)
  | tcpSocketNew (conn : Option Nat) (created : Bool)
  | socketOpen (hostname : Bytes) (port : Int) (status : Int)
  | login (conn : Option Nat) (username password : Bytes) (reply : AmqpRpcReply)
  | connectionClose (conn : Option Nat) (reply : AmqpRpcReply)
  | destroyConnection (conn : Option Nat)
  | exchangeDeclare (conn : Option Nat) (channel : Int) (exchange type : Bytes)
      (reply : AmqpRpcReply)
  | channelOpen (conn : Option Nat) (channel : Int) (reply : AmqpRpcReply)
  | sendCloseOk (conn : Option Nat) (channel : Int) (status : Int)
  | channelClose (conn : Option Nat) (channel : Int)
  | basicPublish (conn : Option Nat) (object : Nat) (message : RawMessage) (status : Int)
  | consumeMessage (conn : Option Nat) (timeout : Int) (reply : AmqpRpcReply)
  | basicConsume (conn : Option Nat) (channel : Int) (queue : AmqpBytes)
      (reply : AmqpRpcReply)
  | queueDeclare (conn : Option Nat) (channel : Int) (props : QueueProperties)
      (reply : AmqpRpcReply)
  | queueBind (conn : Option Nat) (channel : Int) (queue : AmqpBytes)
      (exchange bindingKey : Bytes) (reply : AmqpRpcReply)
  | maybeReleaseBuffers (conn : Option Nat)
  deriving DecidableEq, Repr

namespace AmqpCall

/-- The connection a call works on, for the calls made outside `connectBasic`
and `login`. -/
def session : AmqpCall → Option (Option Nat)
  | newConnection _ | tcpSocketNew .. | socketOpen .. | login .. => none
  | connectionClose conn _ | destroyConnection conn | exchangeDeclare conn ..
  | channelOpen conn .. | sendCloseOk conn .. | channelClose conn _
  | basicPublish conn .. | consumeMessage conn .. | basicConsume conn ..
  | queueDeclare conn .. | queueBind conn .. | maybeReleaseBuffers conn => some conn

/-- The handle that a call creates or is given. -/
def handle : AmqpCall → Option Nat
  | newConnection h => some h
  | socketOpen .. => none
  | tcpSocketNew conn _ | login conn .. => conn
  | connectionClose conn _ | destroyConnection conn | exchangeDeclare conn ..
  | channelOpen conn .. | sendCloseOk conn .. | channelClose conn _
  | basicPublish conn .. | consumeMessage conn .. | basicConsume conn ..
  | queueDeclare conn .. | queueBind conn .. | maybeReleaseBuffers conn => conn

/-- A call made on the connection `conn` that does not end it. -/
def UsesSession (conn : Option Nat) (call : AmqpCall) : Prop :=
  call.session = some conn ∧ call ≠ .destroyConnection conn

theorem UsesSession.handle_eq {conn : Option Nat} {call : AmqpCall}
    (h : call.UsesSession conn) : call.handle = conn := by
  obtain ⟨hsession, -⟩ := h
  cases call <;> simp_all [session, handle]

end AmqpCall

end HareCpp
