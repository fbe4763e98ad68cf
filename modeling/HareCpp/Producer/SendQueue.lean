import HareCpp.Library.Outbox
import HareCpp.Producer.ExchangeTable
import HareCpp.Producer.Threads

/-!
# The send queue as an outbox

The queue of the producer, with what went in and what became of it, is an
`Outbox` of the numbers of the message objects: `Send` pushes, a successful
`PublishMessage` delivers the front, `publishNextInQueue` removes it later, and
`clearActiveSendQueue` drops it.  `outbox_step` says that every step of the
system is a step of the outbox, as long as a control call takes messages out
only while there is no worker (`TakesAlone`); order, uniqueness and the fate of
each message are then facts about outboxes.
-/

namespace HareCpp
namespace Producer

open Library ConnectionBase

/-! ### The histories -/

/-- The object that a note says was pushed. -/
def Note.pushes : Note → Option Nat
  | .pushed object _ _ => some object
  | _ => none

/-- The object that a note says was dropped. -/
def Note.drops : Note → Option Nat
  | .dropped object => some object
  | _ => none

/-- The object that a call published successfully. -/
def publishes : AmqpCall → Option Nat
  | .basicPublish _ object _ status => if noError (publishCode status) then some object else none
  | _ => none

/-- The objects pushed by `Send`, in order. -/
def pushedObjects (s : ProducerState) : List Nat := (s.notes.filterMap Note.pushes).reverse

/-- The objects dropped by `clearActiveSendQueue`, in order. -/
def droppedObjects (s : ProducerState) : List Nat := (s.notes.filterMap Note.drops).reverse

/-- The objects for which `PublishMessage` returned `ALL_GOOD`, in order. -/
def publishedObjects (s : ProducerState) : List Nat := (s.calls.filterMap publishes).reverse

/-- The worker has published the front and not yet removed it. -/
def WorkerPc.inHand : WorkerPc → Bool
  | .popPublished => true
  | _ => false

/-- The queue with its history. -/
def outbox (s : ProducerState) : Outbox Nat where
  pushed := pushedObjects s
  queue := s.sendQueue
  delivered := publishedObjects s
  dropped := droppedObjects s
  inHand := s.worker.inHand

/-! ### Calls that publish nothing -/

/-- A call to `amqp_basic_publish`. -/
def isPublish : AmqpCall → Bool
  | .basicPublish .. => true
  | _ => false

theorem publishes_eq_none {call : AmqpCall} (h : isPublish call = false) :
    publishes call = none := by
  cases call <;> first | rfl | cases h

theorem filterMap_publishes {new calls : List AmqpCall}
    (hnew : ∀ call ∈ new, isPublish call = false) :
    (new ++ calls).filterMap publishes = calls.filterMap publishes := by
  have hnil : new.filterMap publishes = [] :=
    List.filterMap_eq_nil_iff.mpr fun call hcall => publishes_eq_none (hnew call hcall)
  rw [List.filterMap_append, hnil, List.nil_append]

theorem isPublish_connect (base : ConnectionBase) (handle : Nat) (replies : ConnectReplies) :
    ∀ call ∈ (base.connect handle replies).calls, isPublish call = false := by
  intro call hcall
  have hsession := connect_session base handle replies call hcall
  cases call <;> first | rfl | cases hsession

theorem isPublish_closeConnection (base : ConnectionBase) (reply : AmqpRpcReply) :
    ∀ call ∈ (base.closeConnection reply).calls, isPublish call = false := by
  unfold closeConnection
  split <;> simp [isPublish]

theorem isPublish_entryCalls (base : ConnectionBase) (replies : Bytes → ChannelReplies)
    (entry : Bytes × ExchangeProperties) :
    ∀ call ∈ entryCalls base replies entry, isPublish call = false := by
  have hopen : ∀ call ∈ (base.openChannel entry.2.channel (replies entry.1).openReply
      (replies entry.1).closeOkStatus).calls, isPublish call = false := by
    unfold openChannel
    split
    · dsimp only
      split <;> simp [isPublish]
    · simp
  have hdeclare : ∀ call ∈ (base.declareExchange entry.2.channel entry.1 entry.2.type
      (replies entry.1).declareReply).calls, isPublish call = false := by
    unfold declareExchange
    split <;> simp [isPublish]
  unfold entryCalls
  dsimp only
  split
  · intro call hcall
    exact (List.mem_append.mp hcall).elim (hdeclare call) (hopen call)
  · exact hopen

theorem isPublish_connectLoop (base : ConnectionBase) (replies : Bytes → ChannelReplies)
    (entries : ExchangeList) (allGood : Bool) :
    ∀ call ∈ (connectLoop base replies entries allGood).2, isPublish call = false := by
  obtain ⟨done, post, -, hcalls, -⟩ := connectLoop_spec base replies entries allGood
  intro call hcall
  rw [hcalls] at hcall
  obtain ⟨entry, -, hmem⟩ := List.mem_flatMap.mp hcall
  exact isPublish_entryCalls base replies entry call hmem

theorem isPublish_closeChannels (base : ConnectionBase) (entries : ExchangeList) :
    ∀ call ∈ closeChannels base entries, isPublish call = false := by
  induction entries with
  | nil => simp [closeChannels]
  | cons entry rest ih =>
      intro call hcall
      rcases List.mem_append.mp hcall with h | h
      · exact ih call h
      · unfold closeChannel at h
        split at h <;> simp at h
        rw [h]
        rfl

theorem isPublish_releaseCalls (connection : Option ConnectionBase) (reply : AmqpRpcReply) :
    ∀ call ∈ releaseCalls connection reply, isPublish call = false := by
  unfold releaseCalls
  split
  · simp
  · next old => exact isPublish_closeConnection old reply

/-- `PublishMessage` publishes exactly when it returns `ALL_GOOD`. -/
theorem publishes_publishMessage (base : ConnectionBase) (object : Nat) (message : RawMessage)
    (now : UInt64) (status : Int) :
    (base.publishMessage object message now status).1.calls.filterMap publishes =
      if noError (base.publishMessage object message now status).1.code then [object]
      else [] := by
  rcases publishMessage_cases base object message now status with ⟨-, heq⟩ | ⟨-, heq⟩
  · rw [heq]
    simp [noError]
  · rw [heq]
    cases hgood : noError (publishCode status) <;> simp [publishes, hgood]

/-! ### Every step is a step of the outbox -/

/-- Control calls about to take a message out of the queue. -/
def ControlPc.takes : ControlPc → Bool
  | .stopClearPop .. => true
  | _ => false

/-- A control call takes messages only while there is no worker. -/
def TakesAlone (s : ProducerState) : Prop :=
  ∀ pc ∈ s.controls, pc.takes = true → s.worker = .none

/-- The message being published is the front of the queue. -/
def FrontInHand (s : ProducerState) : Prop :=
  ∀ object, s.worker = .publish object → ∃ rest, s.sendQueue = object :: rest

/-- A step that leaves the queue and the histories alone. -/
theorem outbox_stutter {s s' : ProducerState} (hqueue : s'.sendQueue = s.sendQueue)
    (hnotes : s'.notes.filterMap Note.pushes = s.notes.filterMap Note.pushes ∧
      s'.notes.filterMap Note.drops = s.notes.filterMap Note.drops)
    (hcalls : s'.calls.filterMap publishes = s.calls.filterMap publishes)
    (hworker : s'.worker.inHand = s.worker.inHand) :
    (outbox s).Step (outbox s') := by
  have heq : outbox s' = outbox s := by
    simp only [outbox, pushedObjects, droppedObjects, publishedObjects, hqueue, hnotes.1,
      hnotes.2, hcalls, hworker]
  rw [heq]
  exact .stutter _

/-- Every step of the worker is a step of the outbox. -/
theorem WorkerMove.outbox_step {s s' : ProducerState} {input : WorkerInput}
    (hmove : WorkerMove s input s') (hfront : FrontInHand s) : (outbox s).Step (outbox s') := by
  cases hmove with
  | goto next hnext =>
      refine outbox_stutter rfl ⟨rfl, rfl⟩ rfl ?_
      cases hnext with
      | clearEmpty caller hpc => cases caller <;> simp [afterClose, hpc, WorkerPc.inHand]
      | _ => simp_all [WorkerPc.inHand]
  | crash => exact outbox_stutter rfl ⟨rfl, rfl⟩ rfl rfl
  | connected base hpc =>
      exact outbox_stutter rfl ⟨rfl, rfl⟩ (filterMap_publishes (isPublish_connect _ _ _))
        (by simp [hpc, WorkerPc.inHand])
  | connectFailed base hpc =>
      exact outbox_stutter rfl ⟨rfl, rfl⟩ (filterMap_publishes (isPublish_connect _ _ _))
        (by simp [hpc, WorkerPc.inHand])
  | looked hpc => exact outbox_stutter rfl ⟨rfl, rfl⟩ rfl (by simp [hpc, WorkerPc.inHand])
  | openFailed base hpc =>
      exact outbox_stutter rfl ⟨rfl, rfl⟩ (filterMap_publishes (isPublish_connectLoop _ _ _ _))
        (by simp [hpc, WorkerPc.inHand])
  | opened base allGood hpc =>
      exact outbox_stutter rfl ⟨rfl, rfl⟩ (filterMap_publishes (isPublish_connectLoop _ _ _ _))
        (by simp [hpc, WorkerPc.inHand])
  | closed caller base hpc =>
      exact outbox_stutter rfl ⟨rfl, rfl⟩ (filterMap_publishes (isPublish_closeConnection _ _))
        (by simp [hpc, WorkerPc.inHand])
  | dropped caller object rest hpc hqueue =>
      have hbefore : outbox s = ⟨pushedObjects s, object :: rest, publishedObjects s,
          droppedObjects s, false⟩ := by simp [outbox, hpc, hqueue, WorkerPc.inHand]
      have hafter : outbox { s with
          worker := .clearTest caller
          sendQueue := rest
          notes := .dropped object :: s.notes } = ⟨pushedObjects s, rest, publishedObjects s,
          droppedObjects s ++ [object], false⟩ := by
        simp [outbox, pushedObjects, publishedObjects, droppedObjects, List.filterMap_cons,
          Note.pushes, Note.drops, WorkerPc.inHand]
      rw [hbefore, hafter]
      exact .drop _ _ _ _ _
  | published base object next hpc hbase hnext =>
      obtain ⟨rest, hqueue⟩ := hfront object hpc
      have hcalls := publishes_publishMessage base object (s.objects object) input.now
        input.publishStatus
      -- only a success puts the front in hand
      rcases hnext with ⟨hfail, rfl⟩ | ⟨hgood, rfl⟩ | ⟨-, hbad, rfl⟩
      · refine outbox_stutter rfl ⟨rfl, rfl⟩ ?_ (by simp [hpc, WorkerPc.inHand])
        rw [List.filterMap_append, hcalls,
          (noError_eq_false _).mpr (ne_allGood_of_serverFailure hfail)]
        rfl
      · have hbefore : outbox s = ⟨pushedObjects s, object :: rest, publishedObjects s,
            droppedObjects s, false⟩ := by simp [outbox, hpc, hqueue, WorkerPc.inHand]
        have hafter : outbox { s with
            objects := Function.update s.objects object
              (base.publishMessage object (s.objects object) input.now input.publishStatus).2
            calls := (base.publishMessage object (s.objects object) input.now
              input.publishStatus).1.calls ++ s.calls
            worker := .popPublished } = ⟨pushedObjects s, object :: rest,
            publishedObjects s ++ [object], droppedObjects s, true⟩ := by
          simp [outbox, pushedObjects, publishedObjects, droppedObjects, hqueue, hcalls, hgood,
            WorkerPc.inHand]
        rw [hbefore, hafter]
        exact .deliver _ _ _ _ _
      · refine outbox_stutter rfl ⟨rfl, rfl⟩ ?_ (by simp [hpc, WorkerPc.inHand])
        rw [List.filterMap_append, hcalls, (noError_eq_false _).mpr hbad]
        rfl
  | popped object rest hpc hqueue =>
      have hbefore : outbox s = ⟨pushedObjects s, object :: rest, publishedObjects s,
          droppedObjects s, true⟩ := by simp [outbox, hpc, hqueue, WorkerPc.inHand]
      have hafter : outbox { s with worker := .loopTest, sendQueue := rest } =
          ⟨pushedObjects s, rest, publishedObjects s, droppedObjects s, false⟩ := by
        simp [outbox, pushedObjects, publishedObjects, droppedObjects, WorkerPc.inHand]
      rw [hbefore, hafter]
      exact .remove _ _ _ _ _

/-- Every step of a user thread is a step of the outbox. -/
theorem UserMove.outbox_step {s s' : ProducerState} {action : Action} (hfacts : TableFacts s)
    (hmove : UserMove s action s') : (outbox s).Step (outbox s') := by
  cases hmove with
  | declareExchange exchange type =>
      unfold addExchangeTyped
      split <;> exact outbox_stutter rfl ⟨rfl, rfl⟩ rfl rfl
  | sendRefused call hchannel => exact absurd hchannel (hfacts.addExchange_nonneg _)
  | send call hchannel =>
      unfold addExchange
      split <;> exact outbox_stutter rfl ⟨rfl, rfl⟩ rfl rfl
  | push k call rest found hpick hfound =>
      have hafter : outbox (pushMessage { s with sends := rest } call found.channel) =
          ⟨pushedObjects s ++ [s.made], s.sendQueue ++ [s.made], publishedObjects s,
            droppedObjects s, s.worker.inHand⟩ := by
        simp [outbox, pushMessage, pushedObjects, publishedObjects, droppedObjects,
          List.filterMap_cons, Note.pushes, Note.drops]
      rw [hafter]
      exact .push _ _ _ _ _ _
  | pushFresh k call rest hpick hfound =>
      exact absurd hfound (lookup_ne_none (hfacts.registered call (mem_of_pick hpick)))

/-- Every step of a control call is a step of the outbox. -/
theorem ControlMove.outbox_step {s s' : ProducerState} {input : ControlInput} {pc : ControlPc}
    (hmove : ControlMove s input pc s') (halone : pc.takes = true → s.worker = .none) :
    (outbox s).Step (outbox s') := by
  cases hmove with
  | spawn restarting hworker =>
      exact outbox_stutter rfl ⟨rfl, rfl⟩ rfl (by simp [hworker, returnTo, WorkerPc.inHand])
  | joined caller hworker =>
      exact outbox_stutter rfl ⟨rfl, rfl⟩ rfl (by simp [hworker, goOn, WorkerPc.inHand])
  | closed _ next base hbase hpc =>
      exact outbox_stutter rfl ⟨rfl, rfl⟩ (filterMap_publishes (isPublish_closeConnection _ _))
        rfl
  | dropped caller code object rest hqueue =>
      have hworker : s.worker = .none := halone rfl
      have hbefore : outbox s = ⟨pushedObjects s, object :: rest, publishedObjects s,
          droppedObjects s, false⟩ := by simp [outbox, hworker, hqueue, WorkerPc.inHand]
      have hafter : outbox (goOn { s with
          sendQueue := rest
          notes := .dropped object :: s.notes } (.stopClearTest caller code)) =
          ⟨pushedObjects s, rest, publishedObjects s, droppedObjects s ++ [object], false⟩ := by
        simp [outbox, goOn, pushedObjects, publishedObjects, droppedObjects, List.filterMap_cons,
          Note.pushes, Note.drops, hworker, WorkerPc.inHand]
      rw [hbefore, hafter]
      exact .drop _ _ _ _ _
  | initConnection credentials =>
      exact outbox_stutter rfl ⟨rfl, rfl⟩ (filterMap_publishes (isPublish_releaseCalls _ _))
        rfl
  | destroyChannels base hbase =>
      exact outbox_stutter rfl ⟨rfl, rfl⟩ (filterMap_publishes (isPublish_closeChannels _ _))
        rfl
  | destroyed hworker =>
      exact outbox_stutter rfl ⟨rfl, rfl⟩ (filterMap_publishes (isPublish_releaseCalls _ _))
        rfl
  | _ => exact outbox_stutter rfl ⟨rfl, rfl⟩ rfl rfl

/-- Every step of the system is a step of the outbox. -/
theorem Move.outbox_step {s s' : ProducerState} {action : Action} (hmove : Move s action s')
    (hfacts : TableFacts s) (hfront : FrontInHand s) (halone : TakesAlone s) :
    (outbox s).Step (outbox s') := by
  cases hmove with
  | worker input _ hmove => exact hmove.outbox_step hfront
  | user _ _ hmove => exact hmove.outbox_step hfacts
  | begin call => exact outbox_stutter rfl ⟨rfl, rfl⟩ rfl rfl
  | control k input pc rest _ hpick hmove =>
      exact hmove.outbox_step fun htakes => halone pc (mem_of_pick hpick) htakes

/-- Every step keeps the message being published at the front. -/
theorem Move.frontInHand {s s' : ProducerState} {action : Action} (hmove : Move s action s')
    (hfacts : TableFacts s) (hfront : FrontInHand s) (halone : TakesAlone s) :
    FrontInHand s' := by
  cases hmove with
  | worker input _ hmove =>
      intro object hpc
      cases hmove with
      | goto next hnext =>
          cases hnext with
          | front object' rest _ hqueue =>
              cases hpc
              exact ⟨rest, hqueue⟩
          | clearEmpty caller => cases caller <;> cases hpc
          | _ => cases hpc
      | crash => exact hfront object hpc
      | published base object' next hpc' hbase hnext =>
          rcases hnext with ⟨-, rfl⟩ | ⟨-, rfl⟩ | ⟨-, -, rfl⟩ <;> cases hpc
      | _ => cases hpc
  | user _ _ hmove =>
      intro object hpc
      rw [hmove.frame.worker] at hpc
      obtain ⟨rest, hqueue⟩ := hfront object hpc
      cases hmove with
      | declareExchange exchange type =>
          refine ⟨rest, ?_⟩
          unfold addExchangeTyped
          split <;> exact hqueue
      | sendRefused call hchannel => exact absurd hchannel (hfacts.addExchange_nonneg _)
      | send call hchannel =>
          refine ⟨rest, ?_⟩
          unfold addExchange
          split <;> exact hqueue
      | push => exact ⟨rest ++ [s.made], by simp [pushMessage, hqueue]⟩
      | pushFresh => exact ⟨rest ++ [s.made], by simp [pushMessage, hqueue]⟩
  | begin call => exact hfront
  | control k input pc rest _ hpick hmove =>
      intro object hpc
      cases hmove with
      | spawn => cases hpc
      | joined => cases hpc
      | dropped caller code object' rest' hqueue =>
          have hworker : s.worker = .none := halone _ (mem_of_pick hpick) rfl
          have hpc : s.worker = .publish object := hpc
          rw [hworker] at hpc
          cases hpc
      | _ => exact hfront object hpc

/-- A step makes no call to `amqp_basic_publish`, or is the one that publishes
the object in the worker's hand. -/
theorem Move.publish_cases {s s' : ProducerState} {action : Action} (hmove : Move s action s') :
    (∃ new, s'.calls = new ++ s.calls ∧ ∀ call ∈ new, isPublish call = false) ∨
    (∃ input base object, action = .worker input ∧ s.worker = .publish object ∧
      s.connection = some base ∧ base.isConnected = true ∧ s'.notes = s.notes ∧
      s'.calls = .basicPublish base.conn object (stampTimestamp (s.objects object) input.now)
        input.publishStatus :: s.calls) := by
  cases hmove with
  | worker input _ hmove =>
      cases hmove with
      | connected => exact .inl ⟨_, rfl, isPublish_connect _ _ _⟩
      | connectFailed => exact .inl ⟨_, rfl, isPublish_connect _ _ _⟩
      | openFailed => exact .inl ⟨_, rfl, isPublish_connectLoop _ _ _ _⟩
      | opened => exact .inl ⟨_, rfl, isPublish_connectLoop _ _ _ _⟩
      | closed => exact .inl ⟨_, rfl, isPublish_closeConnection _ _⟩
      | published base object next hpc hbase hnext =>
          rcases publishMessage_cases base object (s.objects object) input.now
            input.publishStatus with ⟨-, heq⟩ | ⟨hup, heq⟩
          · exact .inl ⟨[], by simp [heq], by simp⟩
          · exact .inr ⟨input, base, object, rfl, hpc, hbase, hup, rfl, by simp [heq]⟩
      | _ => exact .inl ⟨[], rfl, by simp⟩
  | user _ _ hmove => exact .inl ⟨[], hmove.frame.calls, by simp⟩
  | begin call => exact .inl ⟨[], rfl, by simp⟩
  | control k input pc rest _ hpick hmove =>
      cases hmove with
      | closed => exact .inl ⟨_, rfl, isPublish_closeConnection _ _⟩
      | initConnection => exact .inl ⟨_, rfl, isPublish_releaseCalls _ _⟩
      | destroyChannels => exact .inl ⟨_, rfl, isPublish_closeChannels _ _⟩
      | destroyed => exact .inl ⟨_, rfl, isPublish_releaseCalls _ _⟩
      | _ => exact .inl ⟨[], rfl, by simp⟩

/-! ### The queue over a run -/

/-- The invariant of the queue. -/
structure QueueFacts (s : ProducerState) : Prop where
  front : FrontInHand s
  ordered : (outbox s).Ordered

theorem queueFacts_initial : QueueFacts initial := by
  refine ⟨?_, Outbox.ordered_empty⟩
  intro object hpc
  cases hpc

/-- Every step keeps the queue's invariant. -/
theorem QueueFacts.step {s s' : ProducerState} {action : Action} (hqueue : QueueFacts s)
    (hfacts : TableFacts s) (halone : TakesAlone s) (hmove : Move s action s') :
    QueueFacts s' :=
  ⟨hmove.frontInHand hfacts hqueue.front halone,
    (hmove.outbox_step hfacts hqueue.front halone).ordered hqueue.ordered⟩

/-- With one control thread, `Stop` takes messages out only after the worker is
gone. -/
theorem ThreadFacts.takesAlone {s : ProducerState} (hfacts : ThreadFacts s) : TakesAlone s := by
  intro pc hpc htakes
  have hphase := hfacts.phase
  rw [hfacts.eq_singleton hpc] at hphase
  cases pc <;> first | exact hphase.2 | cases htakes

/-- The queue's invariant holds in every state of a run with one control
thread. -/
theorem queueFacts_reachable {s : ProducerState} (hs : system.ReachableUnder OneControl s) :
    QueueFacts s := by
  refine hs.induction QueueFacts queueFacts_initial ?_
  intro s action s' hreach _ hqueue hstep
  obtain ⟨hstatus, hmove⟩ := move_of_step hstep
  exact hqueue.step (tableFacts_reachable hreach)
    (threadFacts_reachable hreach hstatus).takesAlone hmove

end Producer
end HareCpp
