import HareCpp.Amqp

/-!
# `Message`

The message a user hands to `Producer::Send` and a callback receives: its
constructors, its setters, and the accessors that the producer and the consumer
use.  A body that was never set is `none`: `m_body` is then an uninitialised
variable.

A message made from an envelope carries its body and every property that the
envelope's flags mark, and so does each copy of it (`carries_ofEnvelope`,
`Carries.copy`).

`SetReplyTo` and `SetCorrelationId` store a pointer into the string they are given,
and the header table is copied as a pointer.  `LentMemory` is what these pointers lead
to, and `read` what the properties show there; as long as nothing has changed, that
is what they were given with (`owned`).
-/

namespace HareCpp

/-- `hare_basic_properties_malloc_dup`, into a variable whose old value is
`cloned`.  A byte property gets a copy of its own when its flag is set and is left as
it was otherwise; the other fields are always copied, the header table as a pointer. -/
def basicPropertiesDup (properties cloned : AmqpBasicProperties) : AmqpBasicProperties :=
  let flagged (flag : UInt32) (source target : AmqpBytes) : AmqpBytes :=
    if flag = properties.flags &&& flag then source else target
  let unlessFlagged (flag : UInt32) (target : Option Nat) : Option Nat :=
    if flag = properties.flags &&& flag then none else target
  { flags := properties.flags
    contentType := flagged basicContentTypeFlag properties.contentType cloned.contentType
    contentEncoding :=
      flagged basicContentEncodingFlag properties.contentEncoding cloned.contentEncoding
    headers := properties.headers
    deliveryMode := properties.deliveryMode
    priority := properties.priority
    correlationId := flagged basicCorrelationIdFlag properties.correlationId cloned.correlationId
    replyTo := flagged basicReplyToFlag properties.replyTo cloned.replyTo
    expiration := flagged basicExpirationFlag properties.expiration cloned.expiration
    messageId := flagged basicMessageIdFlag properties.messageId cloned.messageId
    timestamp := properties.timestamp
    type := flagged basicTypeFlag properties.type cloned.type
    userId := flagged basicUserIdFlag properties.userId cloned.userId
    appId := flagged basicAppIdFlag properties.appId cloned.appId
    clusterId := flagged basicClusterIdFlag properties.clusterId cloned.clusterId
    replyToText := unlessFlagged basicReplyToFlag cloned.replyToText
    correlationIdText := unlessFlagged basicCorrelationIdFlag cloned.correlationIdText
    headersPool := properties.headersPool }

/-! ### Pointers to what others own -/

/-- The strings of the callers and the header tables of received envelopes, `none` for
one that is gone. -/
structure LentMemory where
  texts : Nat → AmqpBytes
  tables : Nat → Option (List (Bytes × Bytes))

namespace LentMemory

/-- What a property shows that was `given` when its pointer was taken: as many bytes of
the string as there were then. -/
def bytes (lent : LentMemory) (given : AmqpBytes) : Option Nat → Option AmqpBytes
  | none => some given
  | some text =>
      match lent.texts text with
      | none => none
      | some buffer =>
          let len := (given.getD []).length
          if len ≤ buffer.length then some (some (buffer.take len)) else none

/-- What the header table shows. -/
def table (lent : LentMemory) (given : List (Bytes × Bytes)) :
    Option Nat → Option (List (Bytes × Bytes))
  | none => some given
  | some pool => lent.tables pool

end LentMemory

namespace AmqpBasicProperties

/-- The properties with the strings they point to. -/
def readTexts (properties : AmqpBasicProperties) (lent : LentMemory) :
    Option AmqpBasicProperties :=
  match lent.bytes properties.replyTo properties.replyToText,
    lent.bytes properties.correlationId properties.correlationIdText with
  | some replyTo, some correlationId =>
      some { properties with
        replyTo := replyTo
        correlationId := correlationId
        replyToText := none
        correlationIdText := none }
  | _, _ => none

/-- What a reader of the properties gets, `none` if it reads what is gone.  The setters
set the flag of a property with its pointer, so that a reader follows them all. -/
def read (properties : AmqpBasicProperties) (lent : LentMemory) : Option AmqpBasicProperties :=
  match properties.readTexts lent, lent.table properties.headers properties.headersPool with
  | some shown, some headers => some { shown with headers := headers, headersPool := none }
  | _, _ => none

/-- The properties as they were given, with copies of their own in place of the strings. -/
def ownedTexts (properties : AmqpBasicProperties) : AmqpBasicProperties :=
  { properties with replyToText := none, correlationIdText := none }

/-- The properties as they were given, with no pointers to what others own. -/
def owned (properties : AmqpBasicProperties) : AmqpBasicProperties :=
  { properties.ownedTexts with headersPool := none }

/-- The properties show the same with another timestamp. -/
theorem read_withTimestamp {properties shown : AmqpBasicProperties} {lent : LentMemory}
    (h : properties.read lent = some shown) (flags : UInt32) (timestamp : UInt64) :
    { properties with flags := flags, timestamp := timestamp }.read lent =
      some { shown with flags := flags, timestamp := timestamp } := by
  simp only [read, readTexts] at h ⊢
  cases hreply : lent.bytes properties.replyTo properties.replyToText with
  | none => simp [hreply] at h
  | some replyTo =>
      cases hcorrelation : lent.bytes properties.correlationId properties.correlationIdText with
      | none => simp [hreply, hcorrelation] at h
      | some correlationId =>
          cases hheaders : lent.table properties.headers properties.headersPool with
          | none => simp [hreply, hcorrelation, hheaders] at h
          | some headers =>
              simp only [hreply, hcorrelation, hheaders, Option.some.injEq] at h ⊢
              rw [← h]

/-- Reading leaves the flags and the timestamp alone. -/
theorem read_timestamp {properties shown : AmqpBasicProperties} {lent : LentMemory}
    (h : properties.read lent = some shown) :
    shown.flags = properties.flags ∧ shown.timestamp = properties.timestamp := by
  have hsame := read_withTimestamp h properties.flags properties.timestamp
  obtain hsame := Option.some.inj (h.symm.trans hsame)
  exact ⟨by rw [hsame], by rw [hsame]⟩

end AmqpBasicProperties

/-- What `amqp_basic_publish` reads of a message. -/
def RawMessage.read (message : RawMessage) (lent : LentMemory) : Option RawMessage :=
  (message.properties.read lent).map fun properties => { message with properties := properties }

/-- The message as it was built, with properties of its own. -/
def RawMessage.owned (message : RawMessage) : RawMessage :=
  { message with properties := message.properties.owned }

/-- The members of `Message`. -/
structure Message where
  body : AmqpBytes := none
  bodyHasBeenSet : Bool := false
  properties : AmqpBasicProperties := {}
  deriving DecidableEq, Repr

namespace Message

/-- `Message()`. -/
def blank : Message where
  bodyHasBeenSet := false

/-- `Message(const std::string&)`: the body is the C string of the argument. -/
def ofString (message : Bytes) : Message where
  body := some (cstringBytes message)
  bodyHasBeenSet := true

/-- `Message(std::string&&)`, which copies the same C string. -/
def ofMovedString (message : Bytes) : Message where
  body := some (cstringBytes message)
  bodyHasBeenSet := true

/-- `Message(const amqp_envelope_t&)`. -/
def ofEnvelope (envelope : AmqpEnvelope) : Message where
  body := some envelope.body
  bodyHasBeenSet := true
  properties := basicPropertiesDup envelope.properties {}

/-- `Message(const Message&)`, made while the strings that the properties point to are
as they were given. -/
def copy (copiedFrom : Message) : Message where
  properties := basicPropertiesDup copiedFrom.properties {}
  bodyHasBeenSet := copiedFrom.bodyHasBeenSet
  body := copiedFrom.body

/-- `String`. -/
def string (message : Message) : Bytes :=
  if message.bodyHasBeenSet then message.body.getD [] else []

/-- `Length`: the `size_t` of the body as an `unsigned int`. -/
def length (message : Message) : UInt32 :=
  if message.bodyHasBeenSet then UInt32.ofNat (message.body.getD []).length else 0

/-- `SetPayload(const char*)`. -/
def setPayload (message : Message) (payload : Bytes) : Message :=
  { message with bodyHasBeenSet := true, body := some (cstringBytes payload) }

/-- `SetPayload(void*, const int)`, given the `size` bytes that `payload` points to. -/
def setVoidPayload (message : Message) (payload : Bytes) : Message :=
  { message with bodyHasBeenSet := true, body := some payload }

/-- `SetReplyTo`, both overloads: a pointer to the bytes `replyTo` of the string
`text`. -/
def setReplyTo (message : Message) (text : Nat) (replyTo : Bytes) : Message :=
  { message with properties := { message.properties with
      flags := message.properties.flags ||| basicReplyToFlag
      replyTo := some (cstringBytes replyTo)
      replyToText := some text } }

/-- `SetTimestamp`. -/
def setTimestamp (message : Message) (timestamp : UInt64) : Message :=
  { message with properties := { message.properties with
      flags := message.properties.flags ||| basicTimestampFlag
      timestamp := timestamp } }

/-- `SetCorrelationId`, both overloads: a pointer to the bytes `correlationId` of the
string `text`. -/
def setCorrelationId (message : Message) (text : Nat) (correlationId : Bytes) : Message :=
  { message with properties := { message.properties with
      flags := message.properties.flags ||| basicCorrelationIdFlag
      correlationId := some (cstringBytes correlationId)
      correlationIdText := some text } }

/-- `AmqpProperties`. -/
def amqpProperties (message : Message) : AmqpBasicProperties := message.properties

/-- `Bytes`: the body, set or not. -/
def bytes (message : Message) : AmqpBytes := message.body

end Message

/-! ### What a message takes from an envelope -/

/-- The properties that are copied when their flag is set, with the flag. -/
def flaggedProperties : List (UInt32 × (AmqpBasicProperties → AmqpBytes)) :=
  [(basicContentTypeFlag, (·.contentType)), (basicContentEncodingFlag, (·.contentEncoding)),
    (basicCorrelationIdFlag, (·.correlationId)), (basicReplyToFlag, (·.replyTo)),
    (basicExpirationFlag, (·.expiration)), (basicMessageIdFlag, (·.messageId)),
    (basicTypeFlag, (·.type)), (basicUserIdFlag, (·.userId)), (basicAppIdFlag, (·.appId)),
    (basicClusterIdFlag, (·.clusterId))]

/-- The properties agree wherever the flags of `properties` mark one. -/
structure AmqpBasicProperties.SameMarked (properties cloned : AmqpBasicProperties) : Prop where
  flags : cloned.flags = properties.flags
  bytes : ∀ marked ∈ flaggedProperties, marked.1 = properties.flags &&& marked.1 →
    marked.2 cloned = marked.2 properties
  headers : cloned.headers = properties.headers
  deliveryMode : cloned.deliveryMode = properties.deliveryMode
  priority : cloned.priority = properties.priority
  timestamp : cloned.timestamp = properties.timestamp

theorem AmqpBasicProperties.SameMarked.trans {properties cloned again : AmqpBasicProperties}
    (h : properties.SameMarked cloned) (h' : cloned.SameMarked again) :
    properties.SameMarked again := by
  constructor
  · rw [h'.flags, h.flags]
  · intro marked hmarked hflag
    rw [h'.bytes marked hmarked (by rwa [h.flags]), h.bytes marked hmarked hflag]
  · rw [h'.headers, h.headers]
  · rw [h'.deliveryMode, h.deliveryMode]
  · rw [h'.priority, h.priority]
  · rw [h'.timestamp, h.timestamp]

/-- `hare_basic_properties_malloc_dup` keeps whatever is marked. -/
theorem sameMarked_basicPropertiesDup (properties cloned : AmqpBasicProperties) :
    properties.SameMarked (basicPropertiesDup properties cloned) := by
  constructor
  · rfl
  · intro marked hmarked hflag
    simp only [flaggedProperties, List.mem_cons, List.not_mem_nil, or_false] at hmarked
    rcases hmarked with rfl | rfl | rfl | rfl | rfl | rfl | rfl | rfl | rfl | rfl <;>
      exact if_pos hflag
  · rfl
  · rfl
  · rfl
  · rfl

/-- The message has the body of the envelope, byte for byte, its flags, and every
property that they mark. -/
structure Message.Carries (message : Message) (envelope : AmqpEnvelope) : Prop where
  string : message.string = envelope.body
  properties : envelope.properties.SameMarked message.properties

theorem carries_ofEnvelope (envelope : AmqpEnvelope) :
    (Message.ofEnvelope envelope).Carries envelope := by
  constructor
  · rfl
  · exact sameMarked_basicPropertiesDup envelope.properties {}

/-- A copy carries what the message carries. -/
theorem Message.Carries.copy {message : Message} {envelope : AmqpEnvelope}
    (h : message.Carries envelope) : message.copy.Carries envelope := by
  constructor
  · exact h.string
  · exact h.properties.trans (sameMarked_basicPropertiesDup message.properties {})

end HareCpp
