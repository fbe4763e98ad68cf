import HareCpp.Producer.SendQueue

/-!
# What the producer publishes

`ContentFacts` is about what a message carries, in every run: message objects
are numbered in the order in which `Send` pushed them, and a published message
is the one its `Send` built, stamped with the time of its first attempt.

With the queue's invariant this gives two results about whole runs: messages leave
the queue in order, each once, as they were built (`queue_in_order`), and an empty
queue means that everything was sent, in the runs in which `clearActiveSendQueue`
never finds anything to drop (`queueSize_zero_all_sent`).
-/

namespace HareCpp
namespace Producer

open Library ConnectionBase

/-! ### What a step does to the messages -/

/-- The message object and the message of an attempt to publish. -/
def attempt : AmqpCall → Option (Nat × RawMessage)
  | .basicPublish _ object message _ => some (object, message)
  | _ => none

/-- The attempts to publish. -/
def attempts (s : ProducerState) : List (Nat × RawMessage) := s.calls.filterMap attempt

theorem mem_attempts {s : ProducerState} {object : Nat} {message : RawMessage} :
    (object, message) ∈ attempts s ↔
      ∃ conn status, .basicPublish conn object message status ∈ s.calls := by
  rw [attempts, List.mem_filterMap]
  constructor
  · rintro ⟨call, hcall, hattempt⟩
    cases call with
    | basicPublish conn object' message' status =>
        cases hattempt
        exact ⟨conn, status, hcall⟩
    | _ => cases hattempt
  · rintro ⟨conn, status, hcall⟩
    exact ⟨_, hcall, rfl⟩

/-- Calls other than publishes are no attempts. -/
theorem attempts_append {s s' : ProducerState} {new : List AmqpCall}
    (hcalls : s'.calls = new ++ s.calls) (hnew : ∀ call ∈ new, isPublish call = false) :
    attempts s' = attempts s := by
  have hnil : new.filterMap attempt = [] := by
    refine List.filterMap_eq_nil_iff.mpr fun call hcall => ?_
    have hnot := hnew call hcall
    cases call <;> first | rfl | cases hnot
  rw [attempts, hcalls, List.filterMap_append, hnil, List.nil_append, attempts]

/-- The pushes of a state are among those of another. -/
def PushesIn (s s' : ProducerState) : Prop :=
  ∀ object call channel, .pushed object call channel ∈ s'.notes →
    .pushed object call channel ∈ s.notes

/-- What a step does to the messages: nothing, `Send` makes one, or the worker attempts
to publish the one in its hand. -/
inductive ContentMove (s : ProducerState) (action : Action) (s' : ProducerState) : Prop
  | same (hmade : s'.made = s.made) (hobjects : s'.objects = s.objects)
      (hpushed : pushedObjects s' = pushedObjects s) (hpushes : PushesIn s s')
      (hattempts : attempts s' = attempts s)
      (hqueue : ∀ object ∈ s'.sendQueue, object ∈ s.sendQueue)
      (hworker : ∀ object, s'.worker = .publish object →
        s.worker = .publish object ∨ object ∈ s.sendQueue)
  | pushed (k : Nat) (call : SendCall) (rest : List SendCall) (found : ExchangeProperties)
      (haction : action = .sendPush k) (hpick : pick s.sends k = some (call, rest))
      (hfound : s.exchangeList.lookup call.exchange = some found)
      (hpush : s' = pushMessage { s with sends := rest } call found.channel)
  | attempted (object : Nat) (now : UInt64) (hpc : s.worker = .publish object)
      (hmade : s'.made = s.made)
      (hobjects : s'.objects =
        Function.update s.objects object (stampTimestamp (s.objects object) now))
      (hpushed : pushedObjects s' = pushedObjects s) (hpushes : PushesIn s s')
      (hattempts : attempts s' = (object, stampTimestamp (s.objects object) now) :: attempts s)
      (hqueue : s'.sendQueue = s.sendQueue) (hworker : ∀ object, s'.worker ≠ .publish object)

/-- Notes other than pushes leave the pushes alone. -/
theorem mem_pushed_of_cons {note : Note} {notes : List Note} (hnote : note.pushes = none) :
    ∀ object call channel, .pushed object call channel ∈ note :: notes →
      .pushed object call channel ∈ notes := by
  intro object call channel hmem
  rcases List.mem_cons.mp hmem with rfl | hmem
  · cases hnote
  · exact hmem

/-- The notes of a push. -/
theorem mem_pushed_of_push {s : ProducerState} {call call' : SendCall} {channel channel' : Int}
    {object : Nat} (hnote : .pushed object call' channel' ∈ (pushMessage s call channel).notes) :
    (object = s.made ∧ call' = call ∧ channel' = channel) ∨
      .pushed object call' channel' ∈ s.notes := by
  simp only [pushMessage, List.mem_cons, reduceCtorEq, false_or] at hnote
  rcases hnote with hnew | hold
  · cases hnew
    exact .inl ⟨rfl, rfl, rfl⟩
  · exact .inr hold

theorem WorkerMove.content {s s' : ProducerState} {input : WorkerInput} {action : Action}
    (hmove : WorkerMove s input s') : ContentMove s action s' := by
  have hsame : PushesIn s s := fun _ _ _ h => h
  cases hmove with
  | goto next hnext =>
      refine .same rfl rfl rfl hsame rfl (fun _ h => h) ?_
      intro object hpc
      cases hnext with
      | front object' rest _ hqueue =>
          cases hpc
          exact .inr (by rw [hqueue]; exact List.mem_cons_self)
      | clearEmpty caller => cases caller <;> cases hpc
      | _ => cases hpc
  | crash => exact .same rfl rfl rfl hsame rfl (fun _ h => h) (fun _ h => .inl h)
  | connected base hpc hbase hcode =>
      exact .same rfl rfl rfl (mem_pushed_of_cons rfl)
        (attempts_append rfl (isPublish_connect _ _ _)) (fun _ h => h) (by rintro _ ⟨⟩)
  | connectFailed base hpc hbase hcode =>
      exact .same rfl rfl rfl hsame (attempts_append rfl (isPublish_connect _ _ _))
        (fun _ h => h) (by rintro _ ⟨⟩)
  | looked hpc hflag =>
      exact .same rfl rfl rfl (mem_pushed_of_cons rfl) rfl (fun _ h => h) (by rintro _ ⟨⟩)
  | openFailed base hpc horder hbase hloop =>
      exact .same rfl rfl rfl hsame (attempts_append rfl (isPublish_connectLoop _ _ _ _))
        (fun _ h => h) (by rintro _ ⟨⟩)
  | opened base allGood hpc horder hbase hloop =>
      exact .same rfl rfl rfl (mem_pushed_of_cons rfl)
        (attempts_append rfl (isPublish_connectLoop _ _ _ _)) (fun _ h => h) (by rintro _ ⟨⟩)
  | closed caller base hpc hbase =>
      exact .same rfl rfl rfl hsame (attempts_append rfl (isPublish_closeConnection _ _))
        (fun _ h => h) (by rintro _ ⟨⟩)
  | dropped caller object rest hpc hqueue =>
      refine .same rfl rfl rfl (mem_pushed_of_cons rfl) rfl ?_ (by rintro _ ⟨⟩)
      rw [hqueue]
      exact fun _ h => .tail _ h
  | published base object next hpc hbase hnext =>
      have hworker : ∀ object', next ≠ .publish object' := by
        rcases hnext with ⟨-, rfl⟩ | ⟨-, rfl⟩ | ⟨-, -, rfl⟩ <;> simp
      rcases publishMessage_cases base object (s.objects object) input.now input.publishStatus with
        ⟨-, heq⟩ | ⟨-, heq⟩
      · refine .same rfl ?_ rfl hsame ?_ (fun _ h => h) fun object' h => absurd h (hworker object')
        · show Function.update s.objects object _ = s.objects
          rw [heq, Function.update_eq_self]
        · show ((base.publishMessage object (s.objects object) input.now
            input.publishStatus).1.calls ++ s.calls).filterMap attempt = _
          rw [heq]
          rfl
      · refine .attempted object input.now hpc rfl ?_ rfl hsame ?_ rfl hworker
        · show Function.update s.objects object _ = _
          rw [heq]
        · show ((base.publishMessage object (s.objects object) input.now
            input.publishStatus).1.calls ++ s.calls).filterMap attempt = _
          rw [heq]
          rfl
  | popped object rest hpc hqueue =>
      refine .same rfl rfl rfl hsame rfl ?_ (by rintro _ ⟨⟩)
      rw [hqueue]
      exact fun _ h => .tail _ h

theorem UserMove.content {s s' : ProducerState} {action : Action} (htable : TableFacts s)
    (hmove : UserMove s action s') : ContentMove s action s' := by
  cases hmove with
  | declareExchange exchange type =>
      unfold addExchangeTyped
      split
      · exact .same rfl rfl rfl
          (fun _ _ _ h => mem_pushed_of_cons rfl _ _ _ (mem_pushed_of_cons rfl _ _ _ h)) rfl
          (fun _ h => h) (fun _ h => .inl h)
      · exact .same rfl rfl rfl (mem_pushed_of_cons rfl) rfl (fun _ h => h) (fun _ h => .inl h)
  | sendRefused call hchannel => exact absurd hchannel (htable.addExchange_nonneg _)
  | send call hchannel =>
      unfold addExchange
      split
      · exact .same rfl rfl rfl (mem_pushed_of_cons rfl) rfl (fun _ h => h) (fun _ h => .inl h)
      · exact .same rfl rfl rfl (fun _ _ _ h => h) rfl (fun _ h => h) (fun _ h => .inl h)
  | push k call rest found hpick hfound => exact .pushed k call rest found rfl hpick hfound rfl
  | pushFresh k call rest hpick hfound =>
      exact absurd hfound (lookup_ne_none (htable.registered call (mem_of_pick hpick)))

theorem ControlMove.content {s s' : ProducerState} {input : ControlInput} {pc : ControlPc}
    {action : Action} (rest : List ControlPc)
    (hmove : ControlMove { s with controls := rest } input pc s') : ContentMove s action s' := by
  have hsame : PushesIn s s := fun _ _ _ h => h
  cases hmove with
  | returned | initRunning =>
      exact .same rfl rfl rfl (mem_pushed_of_cons rfl) rfl (fun _ h => h) (fun _ h => .inl h)
  | spawn =>
      exact .same rfl rfl rfl (mem_pushed_of_cons rfl) rfl (fun _ h => h) (by rintro _ ⟨⟩)
  | joined => exact .same rfl rfl rfl hsame rfl (fun _ h => h) (by rintro _ ⟨⟩)
  | closed =>
      exact .same rfl rfl rfl hsame (attempts_append rfl (isPublish_closeConnection _ _))
        (fun _ h => h) (fun _ h => .inl h)
  | dropped caller code object rest hqueue =>
      refine .same rfl rfl rfl (mem_pushed_of_cons rfl) rfl (fun other hother => ?_)
        (fun _ h => .inl h)
      exact hqueue ▸ List.mem_cons_of_mem _ hother
  | initConnection | destroyed =>
      exact .same rfl rfl rfl hsame (attempts_append rfl (isPublish_releaseCalls _ _))
        (fun _ h => h) (fun _ h => .inl h)
  | destroyChannels =>
      exact .same rfl rfl rfl hsame (attempts_append rfl (isPublish_closeChannels _ _))
        (fun _ h => h) (fun _ h => .inl h)
  | _ => exact .same rfl rfl rfl hsame rfl (fun _ h => h) (fun _ h => .inl h)

/-- A step does nothing else. -/
theorem Move.content {s s' : ProducerState} {action : Action} (htable : TableFacts s)
    (hmove : Move s action s') : ContentMove s action s' := by
  cases hmove with
  | worker input _ hmove => exact hmove.content
  | user _ _ hmove => exact hmove.content htable
  | begin call =>
      exact .same rfl rfl rfl (fun _ _ _ h => h) rfl (fun _ h => h) (fun _ h => .inl h)
  | control k input pc rest _ hpick hmove => exact hmove.content rest

/-! ### What a message carries -/

/-- `message` is what `Send` built, possibly stamped since. -/
def FromSend (call : SendCall) (channel : Int) (message : RawMessage) : Prop :=
  message = builtMessage call channel ∨
    ∃ now, message = stampTimestamp (builtMessage call channel) now

theorem FromSend.channel {call : SendCall} {channel : Int} {message : RawMessage}
    (h : FromSend call channel message) : message.channel = channel := by
  rcases h with rfl | ⟨now, rfl⟩
  · rfl
  · exact stampTimestamp_channel _ _

/-- Every message object belongs to one `Send` and goes out as it is now. -/
structure ContentFacts (s : ProducerState) : Prop where
  numbered : pushedObjects s = List.range s.made
  queued : ∀ object ∈ s.sendQueue, object < s.made
  publishing : ∀ object, s.worker = .publish object → object < s.made
  built : ∀ object call channel, .pushed object call channel ∈ s.notes →
    FromSend call channel (s.objects object)
  sent : ∀ conn object message status, .basicPublish conn object message status ∈ s.calls →
    object < s.made ∧ s.objects object = message ∧ Flagged message
  registered : ∀ object call channel, .pushed object call channel ∈ s.notes →
    ∃ entry ∈ s.exchangeList, entry.1 = call.exchange ∧ entry.2.channel = channel

/-- A note of a push bears a number below `made`. -/
theorem ContentFacts.pushed_lt {s : ProducerState} (hfacts : ContentFacts s) {object : Nat}
    {call : SendCall} {channel : Int} (hnote : .pushed object call channel ∈ s.notes) :
    object < s.made := by
  have hmem : object ∈ pushedObjects s := by
    rw [pushedObjects, List.mem_reverse, List.mem_filterMap]
    exact ⟨_, hnote, rfl⟩
  rw [hfacts.numbered] at hmem
  exact List.mem_range.mp hmem

/-- Every number below `made` has a note of its push. -/
theorem ContentFacts.exists_pushed {s : ProducerState} (hfacts : ContentFacts s) {object : Nat}
    (hlt : object < s.made) : ∃ call channel, .pushed object call channel ∈ s.notes := by
  have hmem : object ∈ pushedObjects s := by
    rw [hfacts.numbered]
    exact List.mem_range.mpr hlt
  rw [pushedObjects, List.mem_reverse, List.mem_filterMap] at hmem
  obtain ⟨note, hnote, hpushes⟩ := hmem
  cases note with
  | pushed object' call channel =>
      obtain rfl : object' = object := Option.some.inj hpushes
      exact ⟨call, channel, hnote⟩
  | _ => cases hpushes

/-- Stamping a message that may have been stamped before. -/
theorem FromSend.stamp {call : SendCall} {channel : Int} {message : RawMessage}
    (h : FromSend call channel message) (now : UInt64) :
    FromSend call channel (stampTimestamp message now) := by
  rcases h with rfl | ⟨earlier, rfl⟩
  · exact .inr ⟨now, rfl⟩
  · rw [stampTimestamp_of_flagged (flagged_stampTimestamp _ _)]
    exact .inr ⟨earlier, rfl⟩

/-- A push keeps the content facts. -/
theorem ContentFacts.push {s : ProducerState} (hfacts : ContentFacts s) (call : SendCall)
    (rest : List SendCall) (found : ExchangeProperties)
    (hfound : s.exchangeList.lookup call.exchange = some found) :
    ContentFacts (pushMessage { s with sends := rest } call found.channel) := by
  have hpushed_lt := @hfacts.pushed_lt
  obtain ⟨hnumbered, hqueued, hpublishing, hbuilt, hsent, hregistered⟩ := hfacts
  refine ⟨?_, ?_, ?_, ?_, ?_, ?_⟩
  · show _ = List.range (s.made + 1)
    rw [List.range_succ, ← hnumbered]
    simp [pushedObjects, pushMessage, List.filterMap_cons, Note.pushes]
  · intro object hmem
    show object < s.made + 1
    rcases List.mem_append.mp hmem with h | h
    · have := hqueued object h
      omega
    · have heq : object = s.made := List.mem_singleton.mp h
      omega
  · intro object hpc
    show object < s.made + 1
    have := hpublishing object hpc
    omega
  · intro object call' channel hnote
    show FromSend call' channel
      (Function.update s.objects s.made (builtMessage call found.channel) object)
    rcases mem_pushed_of_push hnote with ⟨rfl, rfl, rfl⟩ | hnote
    · rw [Function.update_self]
      exact .inl rfl
    · have hlt := hpushed_lt hnote
      rw [Function.update_of_ne (by omega)]
      exact hbuilt object call' channel hnote
  · intro conn object message status hcall
    obtain ⟨hlt, hmessage, hflagged⟩ := hsent conn object message status hcall
    refine ⟨?_, ?_, hflagged⟩
    · show object < s.made + 1
      omega
    · show Function.update s.objects s.made (builtMessage call found.channel) object = message
      rw [Function.update_of_ne (by omega), hmessage]
  · intro object call' channel hnote
    rcases mem_pushed_of_push hnote with ⟨rfl, rfl, rfl⟩ | hnote
    · exact ⟨_, mem_of_lookup hfound, rfl, rfl⟩
    · exact hregistered object call' channel hnote

/-- Every step keeps the content facts. -/
theorem ContentFacts.step {s s' : ProducerState} {action : Action} (hfacts : ContentFacts s)
    (hmove : ContentMove s action s') (hextends : Extends s.exchangeList s'.exchangeList) :
    ContentFacts s' := by
  have hkept : ∀ object call channel, .pushed object call channel ∈ s.notes →
      ∃ entry ∈ s'.exchangeList, entry.1 = call.exchange ∧ entry.2.channel = channel := by
    intro object call channel hnote
    obtain ⟨entry, hentry, hname, hchannel⟩ := hfacts.registered _ _ _ hnote
    obtain ⟨entry', hentry', hname', hchannel', -⟩ := hextends entry hentry
    exact ⟨entry', hentry', hname'.trans hname, hchannel'.trans hchannel⟩
  cases hmove with
  | same hmade hobjects hpushed hpushes hattempts hqueue hworker =>
      obtain ⟨hnumbered, hqueued, hpublishing, hbuilt, hsent, -⟩ := hfacts
      refine ⟨by rw [hpushed, hmade, hnumbered], ?_, ?_, ?_, ?_, ?_⟩
      · rw [hmade]
        exact fun object hmem => hqueued object (hqueue object hmem)
      · rw [hmade]
        intro object hpc
        exact (hworker object hpc).elim (hpublishing object) (hqueued object)
      · rw [hobjects]
        exact fun object call channel hnote => hbuilt object call channel (hpushes _ _ _ hnote)
      · rw [hmade, hobjects]
        intro conn object message status hcall
        have hattempt : (object, message) ∈ attempts s' := mem_attempts.mpr ⟨conn, status, hcall⟩
        rw [hattempts] at hattempt
        obtain ⟨conn', status', hcall'⟩ := mem_attempts.mp hattempt
        exact hsent conn' object message status' hcall'
      · exact fun object call channel hnote => hkept object call channel (hpushes _ _ _ hnote)
  | pushed k call rest found haction hpick hfound hpush =>
      rw [hpush]
      exact hfacts.push call rest found hfound
  | attempted object now hpc hmade hobjects hpushed hpushes hattempts hqueue hworker =>
      obtain ⟨hnumbered, hqueued, hpublishing, hbuilt, hsent, -⟩ := hfacts
      refine ⟨by rw [hpushed, hmade, hnumbered], ?_, fun object' h => absurd h (hworker object'),
        ?_, ?_, ?_⟩
      · rw [hmade, hqueue]
        exact hqueued
      · rw [hobjects]
        intro object' call channel hnote
        by_cases hsame : object' = object
        · subst hsame
          rw [Function.update_self]
          exact (hbuilt _ call channel (hpushes _ _ _ hnote)).stamp now
        · rw [Function.update_of_ne hsame]
          exact hbuilt object' call channel (hpushes _ _ _ hnote)
      · rw [hmade, hobjects]
        intro conn object' message status hcall
        have hattempt : (object', message) ∈ attempts s' := mem_attempts.mpr ⟨conn, status, hcall⟩
        rw [hattempts] at hattempt
        rcases List.mem_cons.mp hattempt with hnew | hold
        · cases hnew
          exact ⟨hpublishing object hpc, Function.update_self .., flagged_stampTimestamp _ _⟩
        · obtain ⟨conn', status', hcall'⟩ := mem_attempts.mp hold
          obtain ⟨hlt, hmessage, hflagged⟩ := hsent conn' object' message status' hcall'
          refine ⟨hlt, ?_, hflagged⟩
          by_cases hsame : object' = object
          · subst hsame
            rw [Function.update_self, hmessage, stampTimestamp_of_flagged hflagged]
          · rw [Function.update_of_ne hsame, hmessage]
      · exact fun object' call channel hnote => hkept object' call channel (hpushes _ _ _ hnote)

/-- The content facts hold in every state of every run. -/
theorem contentFacts_reachable {allowed : ProducerState → Action → Prop} {s : ProducerState}
    (hs : system.ReachableUnder allowed s) : ContentFacts s := by
  refine hs.induction ContentFacts ?_ ?_
  · exact ⟨rfl, by simp [system, initial], by simp [system, initial], by simp [system, initial],
      by simp [system, initial], by simp [system, initial]⟩
  · intro s action s' hreach _ hfacts hstep
    obtain ⟨-, hmove⟩ := move_of_step hstep
    have htable := tableFacts_reachable hreach
    exact hfacts.step (hmove.content htable) (hmove.extends htable)

/-- Every publish of an object carries the message its `Send` built, with a
timestamp, and the same one every time. -/
theorem ContentFacts.published {s : ProducerState} (hfacts : ContentFacts s)
    {conn : Option Nat} {object : Nat} {message : RawMessage} {status : Int}
    (hcall : .basicPublish conn object message status ∈ s.calls) :
    ∃ call channel now, .pushed object call channel ∈ s.notes ∧
      message = stampTimestamp (builtMessage call channel) now := by
  obtain ⟨hlt, hmessage, hflagged⟩ := hfacts.sent conn object message status hcall
  obtain ⟨call, channel, hnote⟩ := hfacts.exists_pushed hlt
  rcases hfacts.built object call channel hnote with heq | ⟨now, heq⟩
  · -- the message came with a timestamp of its own
    rw [hmessage] at heq
    refine ⟨call, channel, 0, hnote, ?_⟩
    rw [← heq, stampTimestamp_of_flagged hflagged]
  · exact ⟨call, channel, now, hnote, hmessage.symm.trans heq⟩

/-! ### Order, uniqueness and fate -/

/-- Exactly one of three. -/
def ExactlyOne (p q r : Prop) : Prop := (p ∧ ¬q ∧ ¬r) ∨ (¬p ∧ q ∧ ¬r) ∨ (¬p ∧ ¬q ∧ r)

/-- The objects in `m_sendQueue`, less the front while it is published and not
yet popped. -/
def stillQueued (s : ProducerState) : List Nat :=
  if s.worker.inHand then s.sendQueue.tail else s.sendQueue

/-- With one control thread messages leave the queue in order, each once, and are
published as their `Send` built them, with the pointers that it copied. -/
theorem queue_in_order {s : ProducerState} (hs : system.ReachableUnder OneControl s) :
    (publishedObjects s).Sublist (pushedObjects s) ∧ (pushedObjects s).Nodup ∧
      (publishedObjects s).Nodup ∧
      (∀ object ∈ pushedObjects s, ExactlyOne (object ∈ publishedObjects s)
        (object ∈ stillQueued s) (object ∈ droppedObjects s)) ∧
      (s.worker.inHand = true → ∃ object rest earlier,
        s.sendQueue = object :: rest ∧ publishedObjects s = earlier ++ [object]) ∧
      ∀ conn object message status, .basicPublish conn object message status ∈ s.calls →
        (∃ call channel now, .pushed object call channel ∈ s.notes ∧
          message = stampTimestamp (builtMessage call channel) now) ∧
        ∀ conn' message' status', .basicPublish conn' object message' status' ∈ s.calls →
          message' = message := by
  have hqueue := queueFacts_reachable hs
  have hcontent := contentFacts_reachable hs
  have hnodup : (pushedObjects s).Nodup := by
    rw [hcontent.numbered]
    exact List.nodup_range
  have hsub : (publishedObjects s).Sublist (pushedObjects s) := hqueue.ordered.delivered_sublist
  refine ⟨hsub, hnodup, hsub.nodup hnodup, ?_, hqueue.ordered.hand, ?_⟩
  · intro object hobject
    rcases hqueue.ordered.exactly_one hnodup hobject with ⟨h1, h2, h3⟩ | ⟨h1, h2, h3⟩ | ⟨h1, h2, h3⟩
    · exact .inl ⟨h1, h3, h2⟩
    · exact .inr (.inr ⟨h1, h3, h2⟩)
    · exact .inr (.inl ⟨h1, h3, h2⟩)
  · intro conn object message status hcall
    refine ⟨hcontent.published hcall, fun conn' message' status' hcall' => ?_⟩
    obtain ⟨-, hmessage, -⟩ := hcontent.sent conn object message status hcall
    obtain ⟨-, hmessage', -⟩ := hcontent.sent conn' object message' status' hcall'
    exact hmessage'.symm.trans hmessage

/-- Steps of the worker that the broker answers as it should. -/
def workerSteps (n : Nat) : List Action := List.replicate n (.worker {})

/-- `Initialize` and `Start`. -/
def startUp : List Action :=
  [.begin (.initializeWith {}), .control 0 {}, .control 0 {}, .control 0 {}, .begin .start,
    .control 0 {}, .control 0 {}, .control 0 {}, .control 0 {}]

/-- `Send` of a message `hi` to the exchange `e` with routing key `k`. -/
def sendHi : List Action :=
  [.send ⟨[101], [107], Message.ofString [104, 105]⟩, .sendPush 0]

/-- The worker from the head of its loop over `Connect` and `connectChannels`,
with the exchange `e` in the table, to `publishTest`. -/
def connectAndOpen : List Action :=
  [.worker {}, .worker {}, .worker {}, .worker {}, .worker {}, .worker {},
    .worker { order := [([101], { channel := 1 })] }]

/-! ### An empty queue -/

/-- Neither `Stop`, `Restart` nor the destructor, which stops a running
producer, is called. -/
def NoStop : Action → Prop
  | .begin .stop | .begin .restart | .begin .destroy => False
  | _ => True

instance : (action : Action) → Decidable (NoStop action)
  | .begin .stop | .begin .restart | .begin .destroy => inferInstanceAs (Decidable False)
  | .begin .start | .begin (.initializeWith _) | .worker _ | .declareExchange .. | .send _
  | .sendPush _ | .control .. => inferInstanceAs (Decidable True)

/-- The worker is at the loop test of `clearActiveSendQueue`. -/
def WorkerPc.clearing : WorkerPc → Bool
  | .clearTest _ => true
  | _ => false

/-- `clearActiveSendQueue`, called by the worker, finds the queue empty. -/
def NothingToClear (s : ProducerState) : Action → Prop
  | .worker _ => s.worker.clearing = true → s.sendQueue = []
  | _ => True

instance (s : ProducerState) : (action : Action) → Decidable (NothingToClear s action)
  | .worker _ => inferInstanceAs (Decidable (_ → _))
  | .begin _ | .declareExchange .. | .send _ | .sendPush _ | .control .. =>
      inferInstanceAs (Decidable True)

/-- Control calls that belong to `Start` or `Initialize`. -/
def ControlPc.starts : ControlPc → Bool
  | .startInitialized _ | .startRunning _ | .startSet _ | .startSpawn _ | .initConnection _
  | .initInitialized | .initRunning => true
  | _ => false

/-- Nothing was dropped, and nothing is about to be. -/
structure KeepsAll (s : ProducerState) : Prop where
  starting : ∀ pc ∈ s.controls, pc.starts = true
  notClearing : ∀ caller, s.worker ≠ .clearFront caller ∧ s.worker ≠ .clearPop caller
  nothingDropped : droppedObjects s = []
  queue : QueueFacts s

/-- A control call of `Start` or `Initialize` stays one, and drops nothing. -/
theorem ControlMove.starts {s s' : ProducerState} {input : ControlInput} {pc : ControlPc}
    (hmove : ControlMove s input pc s') (hpc : pc.starts = true) :
    (∀ pc' ∈ s'.controls, pc' ∈ s.controls ∨ pc'.starts = true) ∧
      droppedObjects s' = droppedObjects s ∧
      (s'.worker = s.worker ∨ s'.worker = .loopTest ∨ s'.worker = .none) := by
  cases hmove with
  | goto _ next hnext =>
      refine ⟨?_, rfl, .inl rfl⟩
      intro pc' hmem
      rcases List.mem_cons.mp hmem with rfl | hmem
      · right
        cases hnext <;> first | rfl | cases hpc
      · exact .inl hmem
  | startSet | initConnection | initInitialized =>
      refine ⟨?_, rfl, .inl rfl⟩
      intro pc' hmem
      rcases List.mem_cons.mp hmem with rfl | hmem
      · exact .inr rfl
      · exact .inl hmem
  | returned | initRunning | crash => exact ⟨fun pc' h => .inl h, rfl, .inl rfl⟩
  | spawn => exact ⟨fun pc' h => .inl h, rfl, .inr (.inl rfl)⟩
  | closed _ next base hbase hplace =>
      rcases hplace with ⟨caller, code, rfl, -⟩ | ⟨rfl, -⟩ <;> cases hpc
  | stopSet | joined | flag | dropped | destroyChannels | destroyed => cases hpc

/-- Every step of a run that stays clear of the defect keeps everything. -/
theorem KeepsAll.step {s s' : ProducerState} {action : Action} (hkeeps : KeepsAll s)
    (htable : TableFacts s) (hstop : NoStop action) (hclear : NothingToClear s action)
    (hmove : Move s action s') : KeepsAll s' := by
  have halone : TakesAlone s := by
    intro pc hpc htakes
    have hstarts := hkeeps.starting pc hpc
    cases pc <;> simp [ControlPc.takes, ControlPc.starts] at htakes hstarts
  have hqueue := hkeeps.queue.step htable halone hmove
  obtain ⟨hstarting, hnot, hdropped, -⟩ := hkeeps
  cases hmove with
  | worker input _ hmove =>
      have hcontrols := hmove.frame.1
      have hpopless : ∀ caller, s.worker ≠ .clearPop caller := fun caller => (hnot caller).2
      refine ⟨by rw [hcontrols]; exact hstarting, ?_, ?_, hqueue⟩
      · intro caller
        cases hmove with
        | goto next hnext =>
            cases hnext with
            | clearMore caller' hpc hne =>
                -- the only way into the loop of `clearActiveSendQueue`
                exact absurd (hclear (by rw [hpc]; rfl)) hne
            | clearFront caller' hpc => exact absurd hpc (hnot caller').1
            | clearEmpty caller' => cases caller' <;> simp [afterClose]
            | _ => simp
        | crash => exact hnot caller
        | published base object next hpc hbase hnext =>
            rcases hnext with ⟨-, rfl⟩ | ⟨-, rfl⟩ | ⟨-, -, rfl⟩ <;> simp
        | _ => simp
      · cases hmove with
        | dropped caller object rest hpc => exact absurd hpc (hpopless caller)
        | _ => exact hdropped
  | user _ _ hmove =>
      have hframe := hmove.frame
      refine ⟨by rw [hframe.controls]; exact hstarting, by rw [hframe.worker]; exact hnot, ?_,
        hqueue⟩
      cases hmove with
      | declareExchange exchange type =>
          unfold addExchangeTyped
          split <;> exact hdropped
      | sendRefused call => unfold addExchange; split <;> exact hdropped
      | send call => unfold addExchange; split <;> exact hdropped
      | push => exact hdropped
      | pushFresh => exact hdropped
  | begin call =>
      refine ⟨?_, hnot, hdropped, hqueue⟩
      intro pc hpc
      rcases List.mem_cons.mp hpc with rfl | hpc
      · cases call <;> first | rfl | cases hstop
      · exact hstarting pc hpc
  | control k input pc rest _ hpick hmove =>
      have hrest : ∀ pc' ∈ rest, pc'.starts = true := fun pc' h =>
        hstarting pc' ((perm_of_pick hpick).mem_iff.mpr (.tail _ h))
      obtain ⟨hstarts, hsame, hworker⟩ := hmove.starts (hstarting pc (mem_of_pick hpick))
      refine ⟨fun pc' h => (hstarts pc' h).elim (hrest pc') id, ?_, hsame.trans hdropped, hqueue⟩
      intro caller
      rcases hworker with h | h | h <;> rw [h]
      · exact hnot caller
      · simp
      · simp

/-- In a run without `Stop` and `Restart` in which `clearActiveSendQueue` never
finds a message in the queue, an empty queue means that every message accepted
by `Send` was published successfully. -/
theorem queueSize_zero_all_sent {s : ProducerState}
    (hs : system.ReachableUnder (fun s a => NoStop a ∧ NothingToClear s a) s)
    (hsize : queueSize s = 0) : ∀ object ∈ pushedObjects s, object ∈ publishedObjects s := by
  have hkeeps : KeepsAll s := by
    refine hs.induction KeepsAll ?_ ?_
    · exact ⟨by simp [system, initial], by simp [system, initial], rfl, queueFacts_initial⟩
    · intro s action s' hreach hallowed hkeeps hstep
      exact hkeeps.step (tableFacts_reachable hreach) hallowed.1 hallowed.2 (move_of_step hstep).2
  intro object hobject
  exact hkeeps.queue.ordered.all_delivered hkeeps.nothingDropped
    (List.length_eq_zero_iff.mp hsize) hobject

/-- A run that loses the broker before there is anything to publish, and then
publishes everything. -/
theorem queueSize_zero_all_sent_run :
    ∃ s, system.ReachableUnder (fun s a => NoStop a ∧ NothingToClear s a) s ∧
      queueSize s = 0 ∧ pushedObjects s = [0] ∧ 0 ∈ publishedObjects s := by
  obtain ⟨s, hs, htest⟩ := TransitionSystem.exists_reachableUnder_of_run (M := system)
    (fun s a => NoStop a ∧ NothingToClear s a)
    (List.flatten [startUp, [.declareExchange [101] [102]], workerSteps 6,
      [.worker { order := [([101], { channel := 1, isDeclare := true, type := [102] })],
                 channels := fun _ => { openReply :=
                   { replyType := .libraryException, libraryError := statusSocketError } } }],
      workerSteps 9,
      [.worker { order := [([101], { channel := 1, isDeclare := true, type := [102] })] }],
      sendHi, workerSteps 5])
    (fun s => decide (queueSize s = 0 ∧ pushedObjects s = [0])) (by decide +kernel)
  obtain ⟨hsize, hpushed⟩ := of_decide_eq_true htest
  exact ⟨s, hs, hsize, hpushed, queueSize_zero_all_sent hs hsize 0 (by simp [hpushed])⟩

/-- A server failure on publish: the message is dropped with the rest of the
queue, although `Send` returned `ALL_GOOD`. -/
theorem queueSize_zero_after_loss :
    ∃ s, system.ReachableUnder (fun _ a => NoStop a) s ∧ queueSize s = 0 ∧
      ∃ object ∈ pushedObjects s, object ∉ publishedObjects s := by
  obtain ⟨s, hs, htest⟩ := TransitionSystem.exists_reachableUnder_of_run (M := system)
    (fun _ a => NoStop a)
    (List.flatten [startUp, sendHi, connectAndOpen, workerSteps 3,
      [.worker { publishStatus := statusSocketError }], workerSteps 4])
    (fun s => decide (queueSize s = 0 ∧ ∃ object ∈ pushedObjects s, object ∉ publishedObjects s))
    (by decide +kernel)
  exact ⟨s, hs, of_decide_eq_true htest⟩

end Producer
end HareCpp
