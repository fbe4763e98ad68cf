import HareCpp.ChannelHandler

/-!
# Which callback a delivery reaches

`pullNextMessage` looks a delivered message up by its own exchange and routing
key.  The broker delivered it because of the *binding* of the channel, and by
the type of the exchange a routing key other than the binding key can lead to
that binding: any key on a `fanout` exchange, every key that matches the pattern
on a `topic` exchange.  `ExchangeType.routes` is that rule of AMQP 0-9-1.

A delivery therefore reaches the callback of its channel exactly when its own
exchange and key are those of a subscription with that callback
(`delivery_reaches_callback_iff`), which a `direct` exchange always provides
(`processEnvelope_of_direct`).
-/

namespace HareCpp

open ChannelHandler

variable {Callback : Type}

/-! ### What the broker routes -/

/-- The exchange types with a routing rule on the key. -/
inductive ExchangeType
  | direct
  | fanout
  | topic
  deriving DecidableEq, Repr

/-- The words of a routing key or pattern: what stands between the dots.  An
empty key has none. -/
def topicWords (key : Bytes) : List Bytes :=
  if key.isEmpty then [] else key.splitOn 46

/-- Words match a pattern: `*` stands for one word, `#` for any number. -/
def topicMatches : List Bytes → List Bytes → Bool
  | [], words => words.isEmpty
  | word :: pattern, words =>
      if word = [35] then words.tails.any (topicMatches pattern)
      else
        match words with
        | [] => false
        | first :: rest => (word = [42] || word = first) && topicMatches pattern rest

/-- An exchange of the type leads a message with the routing key to a queue bound
with the binding key. -/
def ExchangeType.routes (kind : ExchangeType) (bindingKey routingKey : Bytes) : Bool :=
  match kind with
  | .direct => routingKey = bindingKey
  | .fanout => true
  | .topic => topicMatches (topicWords bindingKey) (topicWords routingKey)

/-! ### What the consumer does with a delivery -/

/-- `{envelope.exchange, envelope.routing_key}`. -/
def bindingPairOf (envelope : AmqpEnvelope) : HashableBindingPair where
  exchangeName := envelope.exchange
  routingKey := envelope.routingKey

/-- The part of `pullNextMessage` after `ConsumeMessage` has delivered an envelope:
the invocations it makes. -/
def processEnvelope (handler : ChannelHandler Callback) (envelope : AmqpEnvelope) :
    List (Callback × Message) :=
  -- "envelope was received but malformed"
  if envelope.exchange.length = 0 then []
  else handler.process (bindingPairOf envelope) (Message.ofEnvelope envelope)

/-- The broker delivers an envelope on the channel of a subscription: `bindQueue`
gave it the names as C strings, the message came in by that exchange, and the
exchange routes its key to the binding. -/
structure DeliveredFor (kind : ExchangeType) (handler : ChannelHandler Callback)
    (envelope : AmqpEnvelope) (info : ChannelProcessingInfo Callback) : Prop where
  channel : handler.infoOf envelope.channel = some info
  exchange : envelope.exchange = cstringBytes info.bindingPair.exchangeName
  nonempty : envelope.exchange ≠ []
  routed : kind.routes (cstringBytes info.bindingPair.routingKey) envelope.routingKey = true

/-- `Process` calls one callback, that of the record with the pair, or none. -/
theorem process_eq_singleton_iff {handler : ChannelHandler Callback}
    (hfacts : HandlerFacts handler) (bindingPair : HashableBindingPair) (message : Message)
    (callback : Callback) :
    handler.process bindingPair message = [(callback, message)] ↔
      ∃ info ∈ handler.infos, info.bindingPair = bindingPair ∧ info.callback = callback := by
  unfold process
  constructor
  · intro h
    split at h
    · cases h
    · next info hinfo =>
        obtain ⟨hmem, hpair⟩ := (hfacts.infoAt_iff bindingPair info).mp hinfo
        exact ⟨info, hmem, hpair, by simpa using h⟩
  · rintro ⟨info, hmem, hpair, rfl⟩
    rw [(hfacts.infoAt_iff bindingPair info).mpr ⟨hmem, hpair⟩]

/-- A delivery reaches the callback of its channel, once and no other callback,
exactly when its exchange and routing key are literally those of the
subscription, or those of another subscription with the same callback. -/
theorem delivery_reaches_callback_iff {handler : ChannelHandler Callback} (hbuilt : Built handler)
    {kind : ExchangeType} {envelope : AmqpEnvelope} {info : ChannelProcessingInfo Callback}
    (hdelivered : DeliveredFor kind handler envelope info) :
    processEnvelope handler envelope = [(info.callback, Message.ofEnvelope envelope)] ↔
      info.bindingPair = bindingPairOf envelope ∨
        ∃ other ∈ handler.infos, other.bindingPair = bindingPairOf envelope ∧
          other.callback = info.callback := by
  have hlength : envelope.exchange.length ≠ 0 := by
    simpa using hdelivered.nonempty
  have hmem : info ∈ handler.infos := mem_of_infoOf hdelivered.channel
  unfold processEnvelope
  rw [if_neg hlength, process_eq_singleton_iff hbuilt.facts]
  constructor
  · exact fun h => .inr h
  · rintro (hpair | hother)
    · exact ⟨info, hmem, hpair, rfl⟩
    · exact hother

/-- Two subscriptions, to `a.*` and to `a.b` on the exchange `x`, with one
callback. -/
def overlapping : ChannelHandler Nat :=
  ((({} : ChannelHandler Nat).addChannelProcessor ⟨[120], [97, 46, 42]⟩ 7).1.addChannelProcessor
    ⟨[120], [97, 46, 98]⟩ 7).1

/-- A message with key `a.b` that came in by the exchange `x` on channel 1. -/
def abOnChannelOne : AmqpEnvelope where
  channel := 1
  exchange := [120]
  routingKey := [97, 46, 98]

theorem delivery_reaches_callback_overlapping :
    processEnvelope overlapping abOnChannelOne = [(7, Message.ofEnvelope abOnChannelOne)] := by
  have hdelivered : DeliveredFor .topic overlapping abOnChannelOne
      { bindingPair := ⟨[120], [97, 46, 42]⟩, callback := 7 } :=
    ⟨by decide +kernel, by decide +kernel, by decide +kernel, by decide +kernel⟩
  apply (delivery_reaches_callback_iff ((Built.new.add _ _).add _ _) hdelivered).mpr
  -- the other subscription has the pair of the message
  exact .inr ⟨{ bindingPair := ⟨[120], [97, 46, 98]⟩, callback := 7 }, by decide +kernel,
    by decide +kernel, rfl⟩

/-- A subscription to a pattern alone does not get the messages that match it. -/
theorem delivery_misses_pattern :
    ¬∀ (kind : ExchangeType) (handler : ChannelHandler Nat) (envelope : AmqpEnvelope)
      (info : ChannelProcessingInfo Nat), Built handler →
      DeliveredFor kind handler envelope info →
      processEnvelope handler envelope = [(info.callback, Message.ofEnvelope envelope)] := by
  intro h
  have hone := h .topic (({} : ChannelHandler Nat).addChannelProcessor ⟨[120], [97, 46, 42]⟩ 7).1
    abOnChannelOne { bindingPair := ⟨[120], [97, 46, 42]⟩, callback := 7 } (Built.new.add _ _)
    ⟨by decide +kernel, by decide +kernel, by decide +kernel, by decide +kernel⟩
  exact absurd hone (by decide +kernel)

/-- On a `direct` exchange, with names that are C strings, every delivery reaches
the callback of its channel. -/
theorem processEnvelope_of_direct {handler : ChannelHandler Callback} (hbuilt : Built handler)
    {envelope : AmqpEnvelope} {info : ChannelProcessingInfo Callback}
    (hdelivered : DeliveredFor .direct handler envelope info)
    (hexchange : cstringBytes info.bindingPair.exchangeName = info.bindingPair.exchangeName)
    (hkey : cstringBytes info.bindingPair.routingKey = info.bindingPair.routingKey) :
    processEnvelope handler envelope = [(info.callback, Message.ofEnvelope envelope)] := by
  have hlength : envelope.exchange.length ≠ 0 := by
    simpa using hdelivered.nonempty
  have hrouted : envelope.routingKey = cstringBytes info.bindingPair.routingKey := by
    simpa [ExchangeType.routes] using hdelivered.routed
  have hpair : info.bindingPair = bindingPairOf envelope := by
    rw [bindingPairOf, hdelivered.exchange, hrouted, hexchange, hkey]
  unfold processEnvelope
  rw [if_neg hlength, process_eq_singleton_iff hbuilt.facts]
  exact ⟨info, mem_of_infoOf hdelivered.channel, hpair, rfl⟩

end HareCpp
