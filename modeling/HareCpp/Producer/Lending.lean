import HareCpp.Producer.Publishing

/-!
# What queued messages do not own

`Send` copies the properties of a message with their pointers: the reply-to and the
correlation id stay in the strings of the caller, and the header table of a received
message in the pool of its envelope.  `amqp_basic_publish` follows these pointers at
every attempt, in the thread of the producer.

`lending` runs the producer next to the other threads of the program, which may do
with that memory what they like, and keeps what each message showed when `Send`
captured it and what was read at each attempt.

* `publishes_in_order` — in the runs in which a queued message keeps showing what
  `Send` captured, the producer publishes in order, without duplication or alteration.
* `altered_after_send` — a reply-to that is written to after `Send` is published as it
  is then, and differently at two attempts.
-/

namespace HareCpp
namespace Producer

open Library TransitionSystem ConnectionBase

/-! ### Reading what the pointers lead to -/

/-- What was captured, with the timestamp that the message has now. -/
def stampedAs (captured message : RawMessage) : RawMessage :=
  { captured with properties := { captured.properties with
      flags := message.properties.flags
      timestamp := message.properties.timestamp } }

/-- A message that shows what was captured, but for the timestamp. -/
def Shows (lent : LentMemory) (message captured : RawMessage) : Prop :=
  message.read lent = some (stampedAs captured message)

/-- A message shows what is captured of it. -/
theorem shows_of_read {lent : LentMemory} {message captured : RawMessage}
    (h : message.read lent = some captured) : Shows lent message captured := by
  obtain ⟨shown, hshown, rfl⟩ := Option.map_eq_some_iff.mp h
  obtain ⟨hflags, htimestamp⟩ := AmqpBasicProperties.read_timestamp hshown
  rw [Shows, h, stampedAs, ← hflags, ← htimestamp]

/-- It goes on showing it when it is stamped. -/
theorem Shows.stamp {lent : LentMemory} {message captured : RawMessage}
    (h : Shows lent message captured) (now : UInt64) :
    Shows lent (stampTimestamp message now) captured := by
  unfold stampTimestamp
  split
  · obtain ⟨shown, hshown, heq⟩ := Option.map_eq_some_iff.mp h
    have hstamped := AmqpBasicProperties.read_withTimestamp hshown
      (message.properties.flags ||| basicTimestampFlag) now
    rw [Shows, RawMessage.read, hstamped, Option.map_some]
    obtain ⟨exchange, channel, routingKey, properties, body⟩ := captured
    obtain ⟨exchange', channel', routingKey', properties', body'⟩ := message
    simp only [stampedAs, RawMessage.mk.injEq] at heq ⊢
    obtain ⟨rfl, rfl, rfl, rfl, rfl⟩ := heq
    rfl
  · exact h

/-- Stamping the message stamps what was captured. -/
theorem stampedAs_stampTimestamp {lent : LentMemory} {message captured : RawMessage}
    (h : message.read lent = some captured) (now : UInt64) :
    stampedAs captured (stampTimestamp message now) = stampTimestamp captured now := by
  obtain ⟨shown, hshown, rfl⟩ := Option.map_eq_some_iff.mp h
  obtain ⟨hflags, htimestamp⟩ := AmqpBasicProperties.read_timestamp hshown
  unfold stampTimestamp
  dsimp only
  rw [hflags]
  split
  · rfl
  · rw [stampedAs, ← hflags, ← htimestamp]

/-! ### The producer and the memory it is lent -/

/-- A producer, the memory that its messages point into, what each message showed when
`Send` captured its properties, and what the attempts to publish read, newest first;
`none` where what they read was gone. -/
structure Lending where
  producer : ProducerState
  lent : LentMemory
  captured : Nat → Option RawMessage
  wires : List (Nat × Option RawMessage)

/-- The users write to their strings and destroy them, and envelopes are destroyed; or
the producer goes on. -/
inductive LendingAction
  | users (lent : LentMemory)
  | producer (action : Action)

namespace Lending

/-- A step of the producer, with what is captured and read in it. -/
def produce (t : Lending) (s' : ProducerState) : Lending where
  producer := s'
  lent := t.lent
  captured :=
    if s'.made = t.producer.made then t.captured
    else Function.update t.captured t.producer.made ((s'.objects t.producer.made).read t.lent)
  wires :=
    (newest (attempts t.producer) (attempts s')).map (fun new => (new.1, new.2.read t.lent)) ++
      t.wires

/-- One step. -/
def step (t : Lending) : LendingAction → Option Lending
  | .users lent => some { t with lent := lent }
  | .producer action => (Producer.step t.producer action).map t.produce

end Lending

/-- The producer with the memory that it is lent. -/
def lending : TransitionSystem Lending LendingAction where
  init := ⟨initial, ⟨fun _ => none, fun _ => none⟩, fun _ => none, []⟩
  step := Lending.step

/-- One control thread. -/
def OneControlLending (t : Lending) : LendingAction → Prop
  | .users _ => True
  | .producer action => OneControl t.producer action

instance (t : Lending) : (action : LendingAction) → Decidable (OneControlLending t action)
  | .users _ => inferInstanceAs (Decidable True)
  | .producer _ => inferInstanceAs (Decidable (OneControl _ _))

/-- What `Send` captures is there, and as long as a message waits in the queue it goes
on showing what it shows. -/
def Kept (t : Lending) : LendingAction → Prop
  | .users lent => ∀ object ∈ stillQueued t.producer,
      (t.producer.objects object).read lent = (t.producer.objects object).read t.lent
  | .producer (.sendPush k) => ∀ call ∈ t.producer.sends[k]?,
      (call.message.properties.read t.lent).isSome = true
  | .producer _ => True

instance (t : Lending) : (action : LendingAction) → Decidable (Kept t action)
  | .users _ => inferInstanceAs (Decidable (∀ _ ∈ stillQueued t.producer, _))
  | .producer (.sendPush k) => inferInstanceAs (Decidable (∀ _ ∈ t.producer.sends[k]?, _))
  | .producer (.worker _) | .producer (.declareExchange ..) | .producer (.send _)
  | .producer (.begin _) | .producer (.control ..) => inferInstanceAs (Decidable True)

/-- One control thread, and the queued messages are kept. -/
def KeptRun (t : Lending) (action : LendingAction) : Prop :=
  OneControlLending t action ∧ Kept t action

instance (t : Lending) (action : LendingAction) : Decidable (KeptRun t action) :=
  inferInstanceAs (Decidable (_ ∧ _))

/-- The producer does not see the memory. -/
theorem producer_reachable {t : Lending} (ht : lending.ReachableUnder OneControlLending t) :
    system.ReachableUnder OneControl t.producer := by
  induction ht with
  | init => exact .init
  | @step t t' action _ hone hstep ih =>
      cases action with
      | users lent =>
          cases hstep
          exact ih
      | producer action =>
          obtain ⟨s', hproduce, rfl⟩ := Option.map_eq_some_iff.mp hstep
          exact .step ih hone hproduce

/-- What waits in the queue, what was captured and what was published. -/
structure LendingFacts (t : Lending) : Prop where
  waiting : ∀ object ∈ stillQueued t.producer, ∃ captured, t.captured object = some captured ∧
    Shows t.lent (t.producer.objects object) captured
  fromSend : ∀ object call channel, .pushed object call channel ∈ t.producer.notes →
    ∀ captured, t.captured object = some captured →
      ∃ lent, (builtMessage call channel).read lent = some captured
  everyAttempt : t.wires.map Prod.fst = (attempts t.producer).map Prod.fst
  wired : ∀ object wire, (object, wire) ∈ t.wires → ∃ message captured,
    (object, message) ∈ attempts t.producer ∧ t.captured object = some captured ∧
      wire = some (stampedAs captured message)

/-- What waits after a step waited before it, or was sent in it. -/
theorem stillQueued_of_step {s s' : ProducerState} {action : Action}
    (hs : system.ReachableUnder OneControl s) (hstep : Producer.step s action = some s')
    {object : Nat} (hobject : object ∈ stillQueued s') :
    object ∈ stillQueued s ∨ (object = s.made ∧ s'.made = s.made + 1) := by
  obtain ⟨hstatus, hmove⟩ := move_of_step hstep
  have htable := tableFacts_reachable hs
  have hout := hmove.outbox_step htable (queueFacts_reachable hs).front
    (threadFacts_reachable hs hstatus).takesAlone
  refine (hout.of_waiting hobject).imp id fun hpushed => ?_
  -- the objects are numbered in the order of their pushes
  have hpushed : pushedObjects s' = pushedObjects s ++ [object] := hpushed
  have hs' : system.ReachableUnder (fun _ _ => True) s' :=
    .step (hs.mono fun _ _ _ => trivial) trivial hstep
  rw [(contentFacts_reachable hs').numbered, (contentFacts_reachable hs).numbered] at hpushed
  have hlength := congrArg List.length hpushed
  simp only [List.length_range, List.length_append, List.length_singleton] at hlength
  rw [hlength, List.range_succ] at hpushed
  have hlast := List.append_inj_right' hpushed rfl
  exact ⟨(List.singleton_inj.mp hlast).symm, hlength⟩

/-- The users leave what waits in the queue as it is. -/
theorem LendingFacts.users {t : Lending} (hfacts : LendingFacts t) {lent : LentMemory}
    (hkept : Kept t (.users lent)) : LendingFacts { t with lent := lent } := by
  obtain ⟨hwaiting, hfromSend, heach, hwired⟩ := hfacts
  refine ⟨?_, hfromSend, heach, hwired⟩
  intro object hobject
  obtain ⟨captured, hcaptured, hshows⟩ := hwaiting object hobject
  exact ⟨captured, hcaptured, (hkept object hobject).trans hshows⟩

section Steps

variable {t : Lending} {s' : ProducerState}

/-- A step that pushes nothing captures nothing. -/
theorem Lending.produce_captured (hmade : s'.made = t.producer.made) :
    (t.produce s').captured = t.captured := if_pos hmade

/-- A step that attempts nothing reads nothing. -/
theorem Lending.produce_wires (hattempts : attempts s' = attempts t.producer) :
    (t.produce s').wires = t.wires := by
  simp only [Lending.produce, hattempts, newest_self, List.map_nil, List.nil_append]

/-- What waits in the queue was numbered before. -/
theorem stillQueued_lt {s : ProducerState} (hcontent : ContentFacts s) :
    ∀ object ∈ stillQueued s, object < s.made := by
  intro object hobject
  refine hcontent.queued object ?_
  unfold stillQueued at hobject
  split at hobject
  · exact List.mem_of_mem_tail hobject
  · exact hobject

/-- A step that neither pushes nor attempts. -/
theorem LendingFacts.keep (hfacts : LendingFacts t) (hmade : s'.made = t.producer.made)
    (hsame : s'.objects = t.producer.objects) (hpushes : PushesIn t.producer s')
    (hattempts : attempts s' = attempts t.producer)
    (hqueued : ∀ object ∈ stillQueued s', object ∈ stillQueued t.producer) :
    LendingFacts (t.produce s') := by
  obtain ⟨hwaiting, hfromSend, heach, hwired⟩ := hfacts
  have hcaptured := Lending.produce_captured hmade
  have hwires := Lending.produce_wires hattempts
  refine ⟨?_, ?_, ?_, ?_⟩
  · intro object hobject
    rw [hcaptured]
    show ∃ captured, _ ∧ Shows t.lent (s'.objects object) captured
    rw [hsame]
    exact hwaiting object (hqueued object hobject)
  · rw [hcaptured]
    exact fun object call channel hnote => hfromSend object call channel (hpushes _ _ _ hnote)
  · rw [hwires, heach]
    exact congrArg _ hattempts.symm
  · rw [hcaptured, hwires]
    show ∀ object wire, _ → ∃ message captured, _ ∈ attempts s' ∧ _
    rw [hattempts]
    exact hwired

/-- `Send` captures a message that shows what it is given. -/
theorem LendingFacts.push (hfacts : LendingFacts t) (hcontent : ContentFacts t.producer)
    {call : SendCall} {rest : List SendCall} {channel : Int}
    (hpush : s' = pushMessage { t.producer with sends := rest } call channel)
    (hshown : (call.message.properties.read t.lent).isSome = true)
    (hqueued : ∀ object ∈ stillQueued s',
      object ∈ stillQueued t.producer ∨ object = t.producer.made) :
    LendingFacts (t.produce s') := by
  obtain ⟨hwaiting, hfromSend, heach, hwired⟩ := hfacts
  have hattempts : attempts s' = attempts t.producer := by rw [hpush]; rfl
  have hwires := Lending.produce_wires hattempts
  have hmessages : s'.objects = Function.update t.producer.objects t.producer.made
      (builtMessage call channel) := by rw [hpush]; rfl
  have hcaptured : (t.produce s').captured = Function.update t.captured t.producer.made
      ((builtMessage call channel).read t.lent) := by
    have hmade : s'.made = t.producer.made + 1 := by rw [hpush]; rfl
    simp [Lending.produce, hmade, hmessages]
  obtain ⟨shown, hshown⟩ := Option.isSome_iff_exists.mp hshown
  have hread : (builtMessage call channel).read t.lent =
      some { builtMessage call channel with properties := shown } := by
    rw [RawMessage.read]
    show (call.message.properties.read t.lent).map _ = _
    rw [hshown]
    rfl
  refine ⟨?_, ?_, ?_, ?_⟩
  · intro object hobject
    rw [hcaptured]
    show ∃ captured, _ ∧ Shows t.lent (s'.objects object) captured
    rw [hmessages]
    rcases hqueued object hobject with hold | rfl
    · have hne : object ≠ t.producer.made := (stillQueued_lt hcontent object hold).ne
      rw [Function.update_of_ne hne, Function.update_of_ne hne]
      exact hwaiting object hold
    · rw [Function.update_self, Function.update_self]
      exact ⟨_, hread, shows_of_read hread⟩
  · intro object call' channel' hnote captured
    rw [hcaptured]
    have hnote : .pushed object call' channel' ∈ s'.notes := hnote
    rw [hpush] at hnote
    rcases mem_pushed_of_push hnote with ⟨rfl, rfl, rfl⟩ | hold
    · rw [Function.update_self]
      exact fun h => ⟨t.lent, h⟩
    · rw [Function.update_of_ne (hcontent.pushed_lt hold).ne]
      exact hfromSend object call' channel' hold captured
  · rw [hwires, heach]
    exact congrArg _ hattempts.symm
  · intro object wire hwire
    rw [hwires] at hwire
    obtain ⟨message, captured, hmem, hcap, heq⟩ := hwired object wire hwire
    obtain ⟨conn, status, hcall⟩ := mem_attempts.mp hmem
    refine ⟨message, captured, ?_, ?_, heq⟩
    · show (object, message) ∈ attempts s'
      rwa [hattempts]
    · rw [hcaptured, Function.update_of_ne (hcontent.sent _ _ _ _ hcall).1.ne]
      exact hcap

/-- An attempt stamps a message that waits, and reads what was captured of it. -/
theorem LendingFacts.attempt (hfacts : LendingFacts t) {object : Nat} {now : UInt64}
    (hfront : object ∈ stillQueued t.producer) (hmade : s'.made = t.producer.made)
    (hmessages : s'.objects = Function.update t.producer.objects object
      (stampTimestamp (t.producer.objects object) now))
    (hpushes : PushesIn t.producer s')
    (hattempts : attempts s' =
      (object, stampTimestamp (t.producer.objects object) now) :: attempts t.producer)
    (hqueued : ∀ object ∈ stillQueued s', object ∈ stillQueued t.producer) :
    LendingFacts (t.produce s') := by
  obtain ⟨hwaiting, hfromSend, heach, hwired⟩ := hfacts
  have hcaptured := Lending.produce_captured hmade
  have hwires : (t.produce s').wires =
      (object, (stampTimestamp (t.producer.objects object) now).read t.lent) :: t.wires := by
    have hnew := newest_append [(object, stampTimestamp (t.producer.objects object) now)]
      (attempts t.producer)
    rw [List.singleton_append, ← hattempts] at hnew
    simp only [Lending.produce, hnew, List.map_cons, List.map_nil, List.singleton_append]
  obtain ⟨captured, hcap, hshows⟩ := hwaiting object hfront
  refine ⟨?_, ?_, ?_, ?_⟩
  · intro other hother
    obtain ⟨captured', hcap', hshows'⟩ := hwaiting other (hqueued other hother)
    rw [hcaptured]
    refine ⟨captured', hcap', ?_⟩
    show Shows t.lent (s'.objects other) captured'
    rw [hmessages]
    by_cases hsame : other = object
    · subst hsame
      rw [Function.update_self]
      exact hshows'.stamp now
    · rw [Function.update_of_ne hsame]
      exact hshows'
  · rw [hcaptured]
    exact fun object call channel hnote => hfromSend object call channel (hpushes _ _ _ hnote)
  · show _ = (attempts s').map Prod.fst
    rw [hwires, hattempts, List.map_cons, heach, List.map_cons]
  · intro other wire hwire
    rw [hwires] at hwire
    rw [hcaptured]
    show ∃ message captured, _ ∈ attempts s' ∧ _
    rw [hattempts]
    rcases List.mem_cons.mp hwire with hnew | hold
    · cases hnew
      exact ⟨_, captured, List.mem_cons_self, hcap, hshows.stamp now⟩
    · obtain ⟨message, captured', hmem, hcap', heq⟩ := hwired other wire hold
      exact ⟨message, captured', .tail _ hmem, hcap', heq⟩

/-- A step of the producer keeps the facts. -/
theorem LendingFacts.producer (hfacts : LendingFacts t)
    (hs : system.ReachableUnder OneControl t.producer) {action : Action}
    (hkept : Kept t (.producer action)) (hstep : Producer.step t.producer action = some s') :
    LendingFacts (t.produce s') := by
  have hobjects := fun object => @stillQueued_of_step _ _ _ hs hstep object
  cases (move_of_step hstep).2.content (tableFacts_reachable hs) with
  | same hmade hsame _ hpushes hattempts =>
      refine hfacts.keep hmade hsame hpushes hattempts fun object hobject => ?_
      exact (hobjects object hobject).resolve_right fun h => by omega
  | pushed k call rest found haction hpick hfound hpush =>
      subst haction
      refine hfacts.push (contentFacts_reachable hs) hpush
        (hkept call (by rw [getElem?_of_pick hpick]; rfl)) fun object hobject => ?_
      exact (hobjects object hobject).imp id And.left
  | attempted object now hpc hmade hmessages _ hpushes hattempts =>
      -- the message in the worker's hand waits in the queue
      obtain ⟨rest, hqueue⟩ := (queueFacts_reachable hs).front object hpc
      have hfront : object ∈ stillQueued t.producer := by
        simp [stillQueued, hpc, hqueue, WorkerPc.inHand]
      refine hfacts.attempt hfront hmade hmessages hpushes hattempts fun other hother => ?_
      exact (hobjects other hother).resolve_right fun h => by omega

end Steps

theorem lendingFacts_reachable {t : Lending} (ht : lending.ReachableUnder KeptRun t) :
    LendingFacts t := by
  refine ht.induction LendingFacts ?_ ?_
  · refine ⟨?_, ?_, rfl, ?_⟩
    · exact fun object hobject => absurd hobject List.not_mem_nil
    · exact fun object call channel hnote => absurd hnote List.not_mem_nil
    · exact fun object wire hwire => absurd hwire List.not_mem_nil
  · intro t action t' hreach hallowed hfacts hstep
    obtain ⟨-, hkept⟩ := hallowed
    cases action with
    | users lent =>
        cases hstep
        exact hfacts.users hkept
    | producer action =>
        obtain ⟨s', hproduce, rfl⟩ := Option.map_eq_some_iff.mp hstep
        exact hfacts.producer (producer_reachable (hreach.mono fun _ _ h => h.1)) hkept hproduce

/-! ### What is published -/

/-- An attempt reads what was built of the arguments of `Send`, as it was captured, with
a timestamp, and every other attempt reads the same. -/
theorem unaltered_reachable {t : Lending} (ht : lending.ReachableUnder KeptRun t) {object : Nat}
    {wire : Option RawMessage} (hwire : (object, wire) ∈ t.wires) :
    (∃ call channel lent captured now, .pushed object call channel ∈ t.producer.notes ∧
      (builtMessage call channel).read lent = some captured ∧
      t.captured object = some captured ∧ wire = some (stampTimestamp captured now)) ∧
    ∀ wire', (object, wire') ∈ t.wires → wire' = wire := by
  have hcontent := contentFacts_reachable (producer_reachable (ht.mono fun _ _ h => h.1))
  obtain ⟨-, hfromSend, -, hwired⟩ := lendingFacts_reachable ht
  obtain ⟨message, captured, hmem, hcaptured, rfl⟩ := hwired object wire hwire
  obtain ⟨conn, status, hcall⟩ := mem_attempts.mp hmem
  constructor
  · obtain ⟨call, channel, now, hnote, rfl⟩ := hcontent.published hcall
    obtain ⟨lent, hread⟩ := hfromSend object call channel hnote captured hcaptured
    refine ⟨call, channel, lent, captured, now, hnote, hread, hcaptured, ?_⟩
    rw [stampedAs_stampTimestamp hread]
  · -- all attempts are given the object as it is now
    intro wire' hwire'
    obtain ⟨message', captured', hmem', hcaptured', rfl⟩ := hwired object wire' hwire'
    obtain ⟨conn', status', hcall'⟩ := mem_attempts.mp hmem'
    obtain rfl := Option.some.inj (hcaptured.symm.trans hcaptured')
    rw [← (hcontent.sent _ _ _ _ hcall).2.1, ← (hcontent.sent _ _ _ _ hcall').2.1]

/-- The producer publishes in order, without duplication or alteration. -/
structure PublishesInOrder (t : Lending) : Prop where
  ordered : (publishedObjects t.producer).Sublist (pushedObjects t.producer)
  once : (pushedObjects t.producer).Nodup ∧ (publishedObjects t.producer).Nodup
  fate : ∀ object ∈ pushedObjects t.producer, ExactlyOne
    (object ∈ publishedObjects t.producer) (object ∈ stillQueued t.producer)
    (object ∈ droppedObjects t.producer)
  inHand : t.producer.worker.inHand = true → ∃ object rest earlier,
    t.producer.sendQueue = object :: rest ∧ publishedObjects t.producer = earlier ++ [object]
  everyAttempt : t.wires.map Prod.fst = (attempts t.producer).map Prod.fst
  /-- what was built of the arguments of `Send`, as it was captured, with a timestamp -/
  unaltered : ∀ object wire, (object, wire) ∈ t.wires →
    (∃ call channel lent captured now, .pushed object call channel ∈ t.producer.notes ∧
      (builtMessage call channel).read lent = some captured ∧
      t.captured object = some captured ∧ wire = some (stampTimestamp captured now)) ∧
    ∀ wire', (object, wire') ∈ t.wires → wire' = wire

/-- In every run with one control thread in which what a queued message points to is
there when `Send` captures it, and shows the same until the message has left the queue,
the producer publishes in order, without duplication or alteration. -/
theorem publishes_in_order {t : Lending} (ht : lending.ReachableUnder KeptRun t) :
    PublishesInOrder t := by
  have hs := producer_reachable (ht.mono fun _ _ h => h.1)
  obtain ⟨hordered, hpushed, hpublished, hfate, hhand, -⟩ := queue_in_order hs
  exact ⟨hordered, ⟨hpushed, hpublished⟩, hfate, hhand, (lendingFacts_reachable ht).everyAttempt,
    fun object wire hwire => unaltered_reachable ht hwire⟩

/-- The strings of the callers: `text` holds these bytes, the others are gone. -/
def onlyText (text : Nat) (bytes : Bytes) : LentMemory where
  texts := fun other => if other = text then some bytes else none
  tables := fun _ => none

/-- `Send` of a message `hi` with a reply-to in the string 7, to the exchange `e` with
key `k`. -/
def sendReplyable : SendCall :=
  ⟨[101], [107], (Message.ofString [104, 105]).setReplyTo 7 [65, 66]⟩

/-- The message is sent while the string says `AB`, and its first attempt is refused. -/
def refusedReplyable : List LendingAction :=
  .users (onlyText 7 [65, 66]) ::
    (List.flatten [startUp, [.send sendReplyable, .sendPush 0], connectAndOpen, workerSteps 3,
      [.worker { now := 5, publishStatus := -1 }]]).map .producer

/-- It is attempted again. -/
def attemptAgain : List LendingAction :=
  (workerSteps 6 ++ [Action.worker { now := 6 }]).map .producer

/-- The string dies after a retry has succeeded, and another message is in the queue. -/
theorem publishes_in_order_run :
    ∃ t : Lending, (lending.ReachableUnder KeptRun t ∧ publishedObjects t.producer = [0] ∧
        stillQueued t.producer = [1] ∧ t.lent.texts 7 = none ∧ t.wires.length = 2) ∧
      PublishesInOrder t := by
  obtain ⟨t, ht, htest⟩ := exists_reachableUnder_of_run (M := lending) KeptRun
    (List.flatten [refusedReplyable, sendHi.map .producer, attemptAgain,
      [.users (onlyText 8 [])]])
    (fun t => decide (publishedObjects t.producer = [0] ∧ stillQueued t.producer = [1] ∧
      t.lent.texts 7 = none ∧ t.wires.length = 2)) (by decide +kernel)
  exact ⟨t, ⟨ht, of_decide_eq_true htest⟩, publishes_in_order ht⟩

/-- The reply-to that was read at an attempt. -/
def wireReplyTo (wire : Nat × Option RawMessage) : Option AmqpBytes :=
  wire.2.map (·.properties.replyTo)

/-- The string is written to between two attempts: the second one publishes a reply-to
that `Send` did not capture, and that the first one did not publish. -/
theorem altered_after_send :
    ∃ t : Lending, (lending.ReachableUnder OneControlLending t ∧
        (t.captured 0).map (·.properties.replyTo) = some (some [65, 66]) ∧
        t.wires.map wireReplyTo = [some (some [66, 66]), some (some [65, 66])]) ∧
      ¬PublishesInOrder t := by
  obtain ⟨t, ht, htest⟩ := exists_reachableUnder_of_run (M := lending) OneControlLending
    (List.flatten [refusedReplyable, [.users (onlyText 7 [66, 66])], attemptAgain])
    (fun t => decide ((t.captured 0).map (·.properties.replyTo) = some (some [65, 66]) ∧
      t.wires.map wireReplyTo = [some (some [66, 66]), some (some [65, 66])] ∧
      ∀ wire ∈ t.wires, wire.1 = 0)) (by decide +kernel)
  obtain ⟨hcaptured, hwires, hobjects⟩ := of_decide_eq_true htest
  refine ⟨t, ⟨ht, hcaptured, hwires⟩, ?_⟩
  intro hinOrder
  have hread : ∀ replyTo ∈ t.wires.map wireReplyTo, ∃ wire, (0, wire) ∈ t.wires ∧
      wireReplyTo (0, wire) = replyTo := by
    intro replyTo hmem
    obtain ⟨⟨object, wire⟩, hwire, rfl⟩ := List.mem_map.mp hmem
    obtain rfl : object = 0 := hobjects _ hwire
    exact ⟨wire, hwire, rfl⟩
  obtain ⟨again, hagain, hlater⟩ := hread (some (some [66, 66])) (by simp [hwires])
  obtain ⟨first, hfirst, hearlier⟩ := hread (some (some [65, 66])) (by simp [hwires])
  obtain rfl := (hinOrder.unaltered 0 again hagain).2 first hfirst
  exact absurd (hlater.symm.trans hearlier) (by decide)

end Producer
end HareCpp
