import HareCpp.Payload

/-!
# A body that was never set

`Message()` leaves `m_body` unwritten, and `m_bodyHasBeenSet` says so.  `String`,
`Payload` and `Length` look at the flag before they read the body; the copy
constructor and `Producer::Send` do not.

`Checked` holds these readers as functions that fail when they read a body that was
never written, and `obtained` is the message after any history of construction,
setters and copies.

* `guards_obtained` — the three guarded readers never fail.
* `unsetNeverRead_iff` — all readers keep off an unset body exactly in the histories
  that store one before they copy.
-/

namespace HareCpp

open Library

namespace Message

/-! ### Readers that notice an unset body -/

namespace Checked

/-- `String`. -/
def string (message : Message) : Option Bytes :=
  if message.bodyHasBeenSet then message.body else some []

/-- `Payload`: the bytes that the pointer leads to, with an inner `none` for the null
pointer. -/
def payload (message : Message) : Option (Option Bytes) :=
  if message.bodyHasBeenSet then message.body.map some else some none

/-- `Length`. -/
def length (message : Message) : Option UInt32 :=
  if message.bodyHasBeenSet then message.body.map fun body => UInt32.ofNat body.length
  else some 0

/-- `Message(const Message&)`: `amqp_bytes_malloc_dup` reads the body, set or not. -/
def copy (copiedFrom : Message) : Option Message :=
  copiedFrom.body.map fun body =>
    { properties := basicPropertiesDup copiedFrom.properties {}
      bodyHasBeenSet := copiedFrom.bodyHasBeenSet
      body := some body }

/-- `builtMessage` in `Producer::Send`, which reads the body in the same way. -/
def builtMessage (call : Producer.SendCall) (channel : Int) : Option RawMessage :=
  call.message.body.map fun body =>
    { exchange := cstringBytes call.exchange
      channel := channel
      routingKey := cstringBytes call.routingKey
      properties := call.message.amqpProperties
      message := some body }

end Checked

/-- The flag is right about the body. -/
def FlagRight (message : Message) : Prop := message.bodyHasBeenSet = message.body.isSome

/-- Where the flag is right, `String` does not fail, and is the `String` of the
model. -/
theorem FlagRight.string {message : Message} (h : message.FlagRight) :
    Checked.string message = some message.string := by
  unfold FlagRight at h
  rw [Checked.string, Message.string, h]
  cases message.body <;> rfl

theorem FlagRight.length {message : Message} (h : message.FlagRight) :
    Checked.length message = some message.length := by
  unfold FlagRight at h
  rw [Checked.length, Message.length, h]
  cases message.body <;> rfl

/-- The payload is what `String` shows, behind a null pointer if there is none. -/
theorem FlagRight.payload {message : Message} (h : message.FlagRight) :
    Checked.payload message =
      some (if message.bodyHasBeenSet then some message.string else none) := by
  unfold FlagRight at h
  rw [Checked.payload, Message.string, h]
  cases message.body <;> rfl

/-- The copy constructor fails exactly on an unset body. -/
theorem checked_copy_eq (message : Message) :
    Checked.copy message = if message.body.isSome then some message.copy else none := by
  obtain ⟨body, bodyHasBeenSet, properties⟩ := message
  cases body <;> rfl

/-- So does `Send`. -/
theorem checked_builtMessage_eq (call : Producer.SendCall) (channel : Int) :
    Checked.builtMessage call channel =
      if call.message.body.isSome then some (Producer.builtMessage call channel) else none := by
  obtain ⟨exchange, routingKey, body, bodyHasBeenSet, properties⟩ := call
  cases body <;> rfl

/-! ### Histories of a message -/

/-- The public constructors that do not copy. -/
inductive Constructor
  | blank
  | string (message : Bytes)
  | movedString (message : Bytes)
  | envelope (received : AmqpEnvelope)
  deriving DecidableEq, Repr

/-- The message a constructor makes. -/
def Constructor.message : Constructor → Message
  | .blank => Message.blank
  | .string message => Message.ofString message
  | .movedString message => Message.ofMovedString message
  | .envelope received => Message.ofEnvelope received

/-- What is done with a message next: a setter is called, or it is copied, and the
history goes on with the copy. -/
inductive Call
  | setPayload (payload : Bytes)
  | setVoidPayload (payload : Bytes)
  | setReplyTo (text : Nat) (replyTo : Bytes)
  | setTimestamp (timestamp : UInt64)
  | setCorrelationId (text : Nat) (correlationId : Bytes)
  | copyConstruct
  deriving DecidableEq, Repr

/-- The message after a call; `none` if an unset body was read. -/
def Call.apply (message : Message) : Call → Option Message
  | .setPayload payload => some (message.setPayload payload)
  | .setVoidPayload payload => some (message.setVoidPayload payload)
  | .setReplyTo text replyTo => some (message.setReplyTo text replyTo)
  | .setTimestamp timestamp => some (message.setTimestamp timestamp)
  | .setCorrelationId text correlationId => some (message.setCorrelationId text correlationId)
  | .copyConstruct => Checked.copy message

/-- The message after a history of calls, newest first. -/
def obtained (constructor : Constructor) (history : List Call) : Option Message :=
  replay Call.apply constructor.message history

/-- The call stores a body. -/
def Call.stores : Call → Bool
  | .setPayload _ | .setVoidPayload _ => true
  | .setReplyTo .. | .setTimestamp _ | .setCorrelationId .. | .copyConstruct => false

/-- Every call keeps the flag right. -/
theorem FlagRight.apply {message message' : Message} (h : message.FlagRight) {call : Call}
    (happly : call.apply message = some message') : message'.FlagRight := by
  cases call with
  | copyConstruct =>
      rw [Call.apply, checked_copy_eq] at happly
      split at happly
      · cases happly
        exact h
      · cases happly
  | setPayload payload =>
      cases happly
      rfl
  | setVoidPayload payload =>
      cases happly
      rfl
  | setReplyTo text replyTo =>
      cases happly
      exact h
  | setTimestamp timestamp =>
      cases happly
      exact h
  | setCorrelationId text correlationId =>
      cases happly
      exact h

theorem Constructor.flagRight (constructor : Constructor) : constructor.message.FlagRight := by
  cases constructor <;> exact rfl

/-- The flag is right after every history. -/
theorem flagRight_obtained {constructor : Constructor} {history : List Call} {message : Message}
    (h : obtained constructor history = some message) : message.FlagRight :=
  replay_induction FlagRight constructor.flagRight (fun _ _ _ hflag => hflag.apply) h

/-- The readers that look at the flag never read an unset body. -/
theorem guards_obtained {constructor : Constructor} {history : List Call} {message : Message}
    (h : obtained constructor history = some message) :
    (Checked.string message).isSome ∧ (Checked.payload message).isSome ∧
      (Checked.length message).isSome := by
  have hflag := flagRight_obtained h
  rw [hflag.string, hflag.payload, hflag.length]
  exact ⟨rfl, rfl, rfl⟩

/-! ### Histories that store a body in time -/

/-- A body that is there stays there. -/
theorem Call.apply_of_body {message : Message} (h : message.body.isSome) (call : Call) :
    ∃ message', call.apply message = some message' ∧ message'.body.isSome := by
  cases call with
  | copyConstruct =>
      refine ⟨message.copy, ?_, h⟩
      rw [Call.apply, checked_copy_eq, if_pos h]
  | setPayload payload => exact ⟨_, rfl, rfl⟩
  | setVoidPayload payload => exact ⟨_, rfl, rfl⟩
  | setReplyTo text replyTo => exact ⟨_, rfl, h⟩
  | setTimestamp timestamp => exact ⟨_, rfl, h⟩
  | setCorrelationId text correlationId => exact ⟨_, rfl, h⟩

/-- A setter of the payload puts one there. -/
theorem Call.apply_of_stores {call : Call} (h : call.stores = true) (message : Message) :
    ∃ message', call.apply message = some message' ∧ message'.body.isSome := by
  cases call with
  | setPayload payload => exact ⟨_, rfl, rfl⟩
  | setVoidPayload payload => exact ⟨_, rfl, rfl⟩
  | setReplyTo text replyTo => cases h
  | setTimestamp timestamp => cases h
  | setCorrelationId text correlationId => cases h
  | copyConstruct => cases h

/-- Without a body a copy fails, and only a setter of the payload makes one. -/
theorem Call.apply_of_unset {message message' : Message} (hunset : message.body = none)
    {call : Call} (happly : call.apply message = some message') :
    call ≠ .copyConstruct ∧ (call.stores = false → message'.body = none) := by
  cases call with
  | copyConstruct =>
      rw [Call.apply, checked_copy_eq, hunset] at happly
      cases happly
  | setPayload payload => exact ⟨by simp, fun h => by cases h⟩
  | setVoidPayload payload => exact ⟨by simp, fun h => by cases h⟩
  | setReplyTo text replyTo =>
      cases happly
      exact ⟨by simp, fun _ => hunset⟩
  | setTimestamp timestamp =>
      cases happly
      exact ⟨by simp, fun _ => hunset⟩
  | setCorrelationId text correlationId =>
      cases happly
      exact ⟨by simp, fun _ => hunset⟩

/-- A call other than a copy reads no body. -/
theorem Call.exists_apply {call : Call} (h : call ≠ .copyConstruct) (message : Message) :
    ∃ message', call.apply message = some message' := by
  cases call with
  | copyConstruct => exact absurd rfl h
  | setPayload payload => exact ⟨_, rfl⟩
  | setVoidPayload payload => exact ⟨_, rfl⟩
  | setReplyTo text replyTo => exact ⟨_, rfl⟩
  | setTimestamp timestamp => exact ⟨_, rfl⟩
  | setCorrelationId text correlationId => exact ⟨_, rfl⟩

/-- The constructor stores a body, or `SetPayload` does before the message is copied
for the first time. -/
def StoredBeforeCopied (constructor : Constructor) (history : List Call) : Prop :=
  constructor ≠ .blank ∨
    ∃ later setter past, history = later ++ setter :: past ∧ setter.stores = true ∧
      .copyConstruct ∉ past

theorem Constructor.body_isSome {constructor : Constructor} (h : constructor ≠ .blank) :
    constructor.message.body.isSome := by
  cases constructor with
  | blank => exact absurd rfl h
  | string message => exact rfl
  | movedString message => exact rfl
  | envelope received => exact rfl

/-- After a body was stored the history goes on with one. -/
theorem replay_of_body {message : Message} (h : message.body.isSome) (later : List Call) :
    ∃ message', replay Call.apply message later = some message' ∧
      message'.body.isSome :=
  replay_total (fun message : Message => message.body.isSome) h
    (fun _ call _ hbody => Call.apply_of_body hbody call)

theorem StoredBeforeCopied.obtained {constructor : Constructor} {history : List Call}
    (h : StoredBeforeCopied constructor history) :
    ∃ message, obtained constructor history = some message ∧ message.body.isSome := by
  rcases h with hstored | ⟨later, setter, past, rfl, hstores, hcopy⟩
  · exact replay_of_body (Constructor.body_isSome hstored) history
  · -- before the setter nothing is copied, after it there is a body
    have hread : ∃ before, replay Call.apply constructor.message past = some before ∧ True := by
      apply replay_total (fun _ => True) trivial
      intro message call hcall _
      obtain ⟨message', happly⟩ := Call.exists_apply (ne_of_mem_of_not_mem hcall hcopy) message
      exact ⟨message', happly, trivial⟩
    obtain ⟨before, hbefore, -⟩ := hread
    obtain ⟨stored, hstored, hbody⟩ := Call.apply_of_stores hstores before
    obtain ⟨message, hmessage, hend⟩ := replay_of_body hbody later
    refine ⟨message, ?_, hend⟩
    rw [Message.obtained, replay_append, replay_cons hbefore hstored, Option.bind_some, hmessage]

/-- A message without a body was never copied, and one with a body got it in time. -/
theorem storedBeforeCopied_of_obtained {constructor : Constructor} {history : List Call}
    {message : Message} (h : obtained constructor history = some message) :
    (message.body = none → .copyConstruct ∉ history) ∧
      (message.body.isSome → StoredBeforeCopied constructor history) := by
  induction history generalizing message with
  | nil =>
      cases h
      refine ⟨fun _ => List.not_mem_nil, fun hbody => .inl ?_⟩
      rintro rfl
      cases hbody
  | cons call past ih =>
      obtain ⟨before, hbefore, hcall⟩ := replay_cons_eq_some_iff.mp h
      obtain ⟨hunset, hstored⟩ := ih hbefore
      cases hbody : before.body with
      | some body =>
          have hsome : before.body.isSome := by rw [hbody]; rfl
          obtain ⟨message', happly, hkept⟩ := call.apply_of_body hsome
          rw [hcall] at happly
          cases happly
          constructor
          · intro hnone
            rw [hnone] at hkept
            cases hkept
          · intro _
            rcases hstored hsome with hconstructor | ⟨later, setter, first, rfl, hsetter⟩
            · exact .inl hconstructor
            · exact .inr ⟨call :: later, setter, first, rfl, hsetter⟩
      | none =>
          obtain ⟨hcopy, hkeeps⟩ := Call.apply_of_unset hbody hcall
          constructor
          · intro _ hmem
            rcases List.mem_cons.mp hmem with heq | hpast
            · exact hcopy heq.symm
            · exact hunset hbody hpast
          · -- the body is new, so that this call stored it
            intro hsome
            cases hstores : call.stores with
            | true => exact .inr ⟨[], call, past, rfl, hstores, hunset hbody⟩
            | false =>
                rw [hkeeps hstores] at hsome
                cases hsome

/-! ### What the readers owe the message -/

/-- No reader reads an unset body of the message, a copy shows what the message
shows, and `Send` enqueues it. -/
structure Respected (message : Message) : Prop where
  guarded : (Checked.string message).isSome ∧ (Checked.payload message).isSome ∧
    (Checked.length message).isSome
  copied : ∃ copy, Checked.copy message = some copy ∧
    Checked.string copy = Checked.string message ∧ Checked.length copy = Checked.length message
  sent : ∀ exchange routingKey channel, ∃ built,
    Checked.builtMessage ⟨exchange, routingKey, message⟩ channel = some built ∧
      built.message = Checked.string message
  /-- in whatever run of a producer it is sent -/
  enqueued : ∀ s : ProducerState, Producer.system.ReachableUnder (fun _ _ => True) s →
    ∀ object call channel, .pushed object call channel ∈ s.notes → call.message = message →
      (s.objects object).message.isSome ∧ (s.objects object).message = Checked.string message

/-- The history reads no unset body, and then the readers do not either. -/
def UnsetNeverRead (constructor : Constructor) (history : List Call) : Prop :=
  ∃ message, obtained constructor history = some message ∧ message.Respected

/-- Where the flag is right and the body is there, `String` shows the body. -/
theorem FlagRight.string_eq_body {message : Message} (h : message.FlagRight)
    (hbody : message.body.isSome) : Checked.string message = message.body := by
  have hset : message.bodyHasBeenSet = true := by rw [h, hbody]
  rw [Checked.string, if_pos hset]

theorem FlagRight.respected {message : Message} (h : message.FlagRight)
    (hbody : message.body.isSome) : message.Respected := by
  have hstring := h.string_eq_body hbody
  constructor
  · rw [h.string, h.payload, h.length]
    exact ⟨rfl, rfl, rfl⟩
  · refine ⟨message.copy, ?_, rfl, rfl⟩
    rw [checked_copy_eq, if_pos hbody]
  · intro exchange routingKey channel
    refine ⟨Producer.builtMessage ⟨exchange, routingKey, message⟩ channel, ?_, hstring.symm⟩
    rw [checked_builtMessage_eq, if_pos hbody]
  · intro s hs object call channel hpushed hcall
    rw [Producer.enqueued_body hs hpushed, hcall, hstring]
    exact ⟨hbody, rfl⟩

/-- Every reader keeps off an unset body, with what this gives for copies and for
`Send`, exactly in the histories that store a body before they copy. -/
theorem unsetNeverRead_iff (constructor : Constructor) (history : List Call) :
    UnsetNeverRead constructor history ↔ StoredBeforeCopied constructor history := by
  constructor
  · rintro ⟨message, hobtained, hrespected⟩
    obtain ⟨copy, hcopy, -⟩ := hrespected.copied
    rw [checked_copy_eq] at hcopy
    split at hcopy
    · next hbody => exact (storedBeforeCopied_of_obtained hobtained).2 hbody
    · cases hcopy
  · intro hstored
    obtain ⟨message, hobtained, hbody⟩ := hstored.obtained
    exact ⟨message, hobtained, (flagRight_obtained hobtained).respected hbody⟩

/-- A copy of `Message()` reads a body that was never written. -/
theorem unsetNeverRead_blank : ¬∀ constructor history, UnsetNeverRead constructor history := by
  intro h
  obtain ⟨message, hobtained, hrespected⟩ := h .blank []
  cases hobtained
  obtain ⟨copy, hcopy, -⟩ := hrespected.copied
  cases hcopy

end Message
end HareCpp
