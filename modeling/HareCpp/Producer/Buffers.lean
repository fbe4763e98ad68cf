import HareCpp.Library.Heap
import HareCpp.Producer.Recovery

/-!
# The buffers of queued messages

`Send` allocates three buffers for a message, `amqp_basic_publish` reads them, and
`hare_free_message_risky` frees them without a check, from `publishNextInQueue` and
from `clearActiveSendQueue`, which `Stop` and `closeConnection` call.  `heapEvents`
is what each step does to the heap.

* `HeldStep` — a step reads the buffers of a message that has them, allocates those
  of a new one, or frees those of the message at the front.
* `buffers_sound` — in every run nothing is freed twice or used after its free, and
  what is live are the buffers of the messages in the queue: those that are left when
  the producer is destroyed are never freed.
-/

namespace HareCpp
namespace Producer

open Library TransitionSystem ConnectionBase

variable {s s' : ProducerState}

/-- The buffers of a `RawMessage` that `hare_free_message_risky` frees. -/
inductive BufferField
  | exchange
  | routingKey
  | message
  deriving DecidableEq, Repr

/-- A buffer of a message object. -/
abbrev Buffer : Type := Nat × BufferField

/-- The buffers of a message object, in the order in which `Send` allocates them. -/
def buffersOf (object : Nat) : List Buffer :=
  [(object, .exchange), (object, .routingKey), (object, .message)]

/-- The second section of `Send`. -/
def allocMessage (object : Nat) : List (HeapEvent Buffer) :=
  (buffersOf object).reverse.map .alloc

/-- `amqp_basic_publish`. -/
def readMessage (object : Nat) : List (HeapEvent Buffer) := (buffersOf object).map .read

/-- `hare_free_message_risky`, which frees the body first. -/
def freeMessage (object : Nat) : List (HeapEvent Buffer) := (buffersOf object).map .free

/-- `hare_free_message_risky(*m_sendQueue.front())`. -/
def freeFront (s : ProducerState) : List (HeapEvent Buffer) :=
  s.sendQueue.head?.elim [] freeMessage

/-- What a step of the worker does to the heap. -/
def workerHeap (s : ProducerState) : List (HeapEvent Buffer) :=
  match s.worker with
  | .publish object => if isConnected s then readMessage object else []
  | .clearFront _ | .popPublished => freeFront s
  | _ => []

/-- What a step of a control call does to the heap. -/
def controlHeap (s : ProducerState) : ControlPc → List (HeapEvent Buffer)
  | .stopClearFront .. => freeFront s
  | _ => []

/-- What a step does to the heap. -/
def heapEvents (s : ProducerState) : Action → List (HeapEvent Buffer)
  | .worker _ => workerHeap s
  | .sendPush _ => allocMessage s.made
  | .control k _ => (s.controls[k]?).elim [] (controlHeap s)
  | .declareExchange .. | .send _ | .begin _ => []

/-! ### The messages that have their buffers -/

/-- `clearActiveSendQueue` has freed the front and not yet removed it. -/
def WorkerPc.freedFront : WorkerPc → Bool
  | .clearPop _ => true
  | _ => false

/-- A thread is between `hare_free_message_risky` and `pop`. -/
def freedFront (s : ProducerState) : Bool :=
  s.worker.freedFront || s.controls.any ControlPc.takes

/-- The messages in the queue whose buffers are live. -/
def heldObjects (s : ProducerState) : List Nat :=
  if freedFront s then s.sendQueue.tail else s.sendQueue

/-- Their buffers. -/
def liveBuffers (s : ProducerState) : Finset Buffer := ((heldObjects s).flatMap buffersOf).toFinset

theorem heldObjects_subset (s : ProducerState) :
    ∀ object ∈ heldObjects s, object ∈ s.sendQueue := by
  intro object hobject
  unfold heldObjects at hobject
  split at hobject
  · exact List.mem_of_mem_tail hobject
  · exact hobject

/-- What a step does to the heap, and to the messages whose buffers are live. -/
inductive HeldStep (s s' : ProducerState) : List (HeapEvent Buffer) → Prop
  | same (hheld : heldObjects s' = heldObjects s) : HeldStep s s' []
  | read (object : Nat) (hmem : object ∈ heldObjects s) (hheld : heldObjects s' = heldObjects s) :
      HeldStep s s' (readMessage object)
  | pushed (hheld : heldObjects s' = heldObjects s ++ [s.made]) :
      HeldStep s s' (allocMessage s.made)
  | freed (object : Nat) (hheld : heldObjects s = object :: heldObjects s') :
      HeldStep s s' (freeMessage object)

/-- A step of the worker, while no control call takes messages out. -/
theorem WorkerMove.heldStep {input : WorkerInput} (hmove : WorkerMove s input s')
    (hfront : FrontInHand s) (halone : s.controls.any ControlPc.takes = false)
    (hstatus : s'.status = .running) : HeldStep s s' (workerHeap s) := by
  have hheld : heldObjects s = if s.worker.freedFront then s.sendQueue.tail else s.sendQueue := by
    rw [heldObjects, freedFront, halone, Bool.or_false]
  have hheld' : heldObjects s' =
      if s'.worker.freedFront then s'.sendQueue.tail else s'.sendQueue := by
    rw [heldObjects, freedFront, hmove.frame.1, halone, Bool.or_false]
  -- places at which nothing happens to the queue
  have hsame : workerHeap s = [] → s.worker.freedFront = false → s'.worker.freedFront = false →
      s'.sendQueue = s.sendQueue → HeldStep s s' (workerHeap s) := by
    intro hevents hpc hpc' hqueue
    rw [hevents]
    refine .same ?_
    rw [hheld, hheld', hpc, hpc', hqueue]
  cases hmove with
  | goto next hnext =>
      cases hnext with
      | clearFront caller hpc hqueue =>
          obtain ⟨object, rest, hsome⟩ := List.exists_cons_of_ne_nil hqueue
          have hevents : workerHeap s = freeMessage object := by
            simp [workerHeap, hpc, freeFront, hsome]
          rw [hevents]
          refine .freed object ?_
          rw [hheld, hheld', hpc]
          show s.sendQueue = object :: s.sendQueue.tail
          rw [hsome, List.tail_cons]
      | clearEmpty caller hpc =>
          refine hsame ?_ ?_ ?_ rfl
          · simp [workerHeap, hpc]
          · rw [hpc]
            rfl
          · cases caller <;> rfl
      | loopOn hpc | loopEnd hpc | isConnected hpc | notConnected hpc | channelsOff hpc
      | guardConnected hpc | guardNotConnected hpc | guardRunning hpc | guardStopped hpc
      | clearMore caller hpc | publishOn hpc | publishOff hpc | sizeSome hpc | sizeNone hpc
      | front object rest hpc =>
          refine hsame ?_ ?_ rfl rfl
          · simp [workerHeap, hpc]
          · rw [hpc]
            rfl
  | crash => cases hstatus
  | connected base hpc | connectFailed base hpc | looked hpc | openFailed base hpc
  | opened base allGood hpc | closed caller base hpc =>
      refine hsame ?_ ?_ rfl rfl
      · simp [workerHeap, hpc]
      · rw [hpc]
        rfl
  | dropped caller object rest hpc hqueue =>
      have hevents : workerHeap s = [] := by simp [workerHeap, hpc]
      rw [hevents]
      refine .same ?_
      rw [hheld, hheld', hpc, hqueue]
      rfl
  | published base object next hpc hbase hnext =>
      have hnext' : next.freedFront = false := by
        rcases hnext with ⟨-, rfl⟩ | ⟨-, rfl⟩ | ⟨-, -, rfl⟩ <;> rfl
      by_cases hup : isConnected s = true
      · have hevents : workerHeap s = readMessage object := by simp [workerHeap, hpc, hup]
        obtain ⟨rest, hqueue⟩ := hfront object hpc
        rw [hevents]
        refine .read object ?_ ?_
        · simp [hheld, hpc, hqueue, WorkerPc.freedFront]
        · rw [hheld, hheld', hpc, hnext']
          rfl
      · refine hsame ?_ ?_ hnext' rfl
        · simp [workerHeap, hpc, hup]
        · rw [hpc]
          rfl
  | popped object rest hpc hqueue =>
      have hevents : workerHeap s = freeMessage object := by
        simp [workerHeap, hpc, freeFront, hqueue]
      rw [hevents]
      refine .freed object ?_
      rw [hheld, hheld', hpc, hqueue]
      rfl

/-- A step of a user thread. -/
theorem UserMove.heldStep {action : Action} (hfacts : TableFacts s)
    (hfreed : freedFront s = true → s.sendQueue ≠ []) (hmove : UserMove s action s') :
    HeldStep s s' (heapEvents s action) := by
  have hframe := hmove.frame
  have hflag : freedFront s' = freedFront s := by
    rw [freedFront, freedFront, hframe.worker, hframe.controls]
  have hsame : heapEvents s action = [] → s'.sendQueue = s.sendQueue →
      HeldStep s s' (heapEvents s action) := by
    intro hevents hqueue
    rw [hevents]
    refine .same ?_
    rw [heldObjects, heldObjects, hflag, hqueue]
  have hpush : s'.sendQueue = s.sendQueue ++ [s.made] →
      HeldStep s s' (allocMessage s.made) := by
    intro hqueue
    refine .pushed ?_
    rw [heldObjects, heldObjects, hflag, hqueue]
    split
    · next hfront => rw [List.tail_append_of_ne_nil (hfreed hfront)]
    · rfl
  have hplain : ∀ exchange type, (addExchangeTyped s exchange type).1.sendQueue = s.sendQueue := by
    intro exchange type
    unfold addExchangeTyped
    split <;> rfl
  cases hmove with
  | declareExchange exchange type => exact hsame rfl (hplain exchange type)
  | sendRefused call hchannel => exact absurd hchannel (hfacts.addExchange_nonneg _)
  | send call =>
      refine hsame rfl ?_
      show (addExchange s call.exchange).1.sendQueue = s.sendQueue
      unfold addExchange
      split <;> rfl
  | push | pushFresh => exact hpush rfl

/-- A step of the only control call in flight. -/
theorem ControlMove.heldStep {input : ControlInput} {pc : ControlPc}
    (hcontrols : s.controls = []) (hcall : CallFacts s pc)
    (hclearing : pc.takes = true → s.sendQueue ≠ []) (hstatus : s'.status ≠ .undefined)
    (hmove : ControlMove s input pc s') : HeldStep (goOn s pc) s' (controlHeap s pc) := by
  have hheld : heldObjects (goOn s pc) =
      if s.worker.freedFront || pc.takes then s.sendQueue.tail else s.sendQueue := by
    simp [heldObjects, freedFront, goOn, hcontrols]
  -- places at which nothing happens to the queue
  have hsame : controlHeap s pc = [] → pc.takes = false → s'.controls.any ControlPc.takes = false →
      s'.worker.freedFront = s.worker.freedFront → s'.sendQueue = s.sendQueue →
      HeldStep (goOn s pc) s' (controlHeap s pc) := by
    intro hevents hpc hpc' hworker hqueue
    rw [hevents]
    refine .same ?_
    rw [hheld, heldObjects, freedFront, hworker, hpc, hpc', hqueue]
  have hphase := hcall.phase
  cases hmove with
  | goto pc next hnext =>
      cases hnext with
      | clearFront caller code hqueue =>
          obtain ⟨object, rest, hsome⟩ := List.exists_cons_of_ne_nil hqueue
          have hworker : s.worker = .none := hphase.2
          have hevents : controlHeap s (.stopClearFront caller code) = freeMessage object := by
            simp [controlHeap, freeFront, hsome]
          rw [hevents]
          refine .freed object ?_
          rw [hheld, hworker]
          show s.sendQueue = object :: heldObjects (goOn s (.stopClearPop caller code))
          simp [heldObjects, freedFront, goOn, ControlPc.takes, hsome]
      | _ => exact hsame rfl rfl (by simp [goOn, hcontrols, ControlPc.takes]) rfl rfl
  | returned pc api code hreturn =>
      have hnone : (returnTo s api code).controls.any ControlPc.takes = false := by
        simp [returnTo, hcontrols]
      cases hreturn with
      | _ => exact hsame rfl rfl hnone rfl rfl
  | spawn restarting hworker =>
      refine hsame rfl rfl (by simp [returnTo, hcontrols]) ?_ rfl
      rw [hworker]
      rfl
  | joined caller hworker =>
      refine hsame rfl rfl (by simp [goOn, hcontrols, ControlPc.takes]) ?_ rfl
      rw [hworker]
      rfl
  | closed _ next base hbase hpc =>
      rcases hpc with ⟨caller, code, rfl, rfl⟩ | ⟨rfl, rfl⟩
      · exact hsame rfl rfl (by simp [goOn, hcontrols, ControlPc.takes]) rfl rfl
      · exact hsame rfl rfl (by simp [goOn, hcontrols, ControlPc.takes]) rfl rfl
  | dropped caller code object rest hqueue =>
      refine .same ?_
      have hworker : s.worker = .none := hphase.2
      rw [hheld, hworker, hqueue]
      simp [heldObjects, freedFront, goOn, hcontrols, ControlPc.takes, WorkerPc.freedFront]
  | destroyed => exact hsame rfl rfl (by simp [hcontrols]) rfl rfl
  | crash => exact absurd rfl hstatus
  | initRunning => exact hsame rfl rfl (by simp [returnTo, hcontrols]) rfl rfl
  | _ => exact hsame rfl rfl (by simp [goOn, hcontrols, ControlPc.takes]) rfl rfl

/-! ### Runs -/

/-- `Stop` has found the queue not empty before it removes the front. -/
theorem ControlMove.clearing {input : ControlInput} {pc : ControlPc}
    (hmove : ControlMove s input pc s') (hcontrols : s.controls = [])
    (hstatus : s'.status ≠ .undefined) :
    ∀ next ∈ s'.controls, next.takes = true → s'.sendQueue ≠ [] := by
  intro next hnext htakes
  cases hmove with
  | goto pc next' hgoto =>
      cases hgoto with
      | clearFront caller code hqueue => exact hqueue
      | _ =>
          obtain rfl : next = _ := by simpa [goOn, hcontrols] using hnext
          cases htakes
  | returned pc api code hreturn =>
      have hnone : (returnTo s api code).controls = [] := hcontrols
      rw [hnone] at hnext
      cases hnext
  | closed _ next' base hbase hpc =>
      obtain rfl : next = next' := by simpa [goOn, hcontrols] using hnext
      rcases hpc with ⟨caller, code, rfl, rfl⟩ | ⟨rfl, rfl⟩ <;> cases htakes
  | spawn | destroyed | initRunning => simp [returnTo, hcontrols] at hnext
  | crash => exact absurd rfl hstatus
  | _ =>
      obtain rfl : next = _ := by simpa [goOn, hcontrols] using hnext
      cases htakes

/-- What is known of the heap while a run with one control thread goes on. -/
structure BufferFacts (s : ProducerState) (record : List (HeapEvent Buffer)) : Prop where
  live : heapAfter record = some (liveBuffers s)
  clearing : ∀ pc ∈ s.controls, pc.takes = true → s.sendQueue ≠ []

/-- Nothing is twice in the queue. -/
theorem sendQueue_nodup (hs : system.ReachableUnder OneControl s) : s.sendQueue.Nodup := by
  have hpushed : (pushedObjects s).Nodup := by
    rw [(contentFacts_reachable hs).numbered]
    exact List.nodup_range
  exact (queueFacts_reachable hs).ordered.queue_nodup hpushed

theorem heldObjects_nodup (hs : system.ReachableUnder OneControl s) : (heldObjects s).Nodup := by
  unfold heldObjects
  split
  · exact (sendQueue_nodup hs).tail
  · exact sendQueue_nodup hs

theorem mem_liveBuffers {buffer : Buffer} :
    buffer ∈ liveBuffers s ↔ buffer.1 ∈ heldObjects s := by
  obtain ⟨object, field⟩ := buffer
  cases field <;> simp [liveBuffers, buffersOf]

/-- A step that does with the messages what it does with the heap. -/
theorem HeldStep.live {events record : List (HeapEvent Buffer)} (h : HeldStep s s' events)
    (hnodup : (heldObjects s).Nodup) (hmade : ∀ object ∈ heldObjects s, object < s.made)
    (hlive : heapAfter record = some (liveBuffers s)) :
    heapAfter (events ++ record) = some (liveBuffers s') := by
  have hbuffers : ∀ object, (buffersOf object).Nodup := by
    intro object
    simp [buffersOf]
  have hsame : heldObjects s' = heldObjects s → liveBuffers s' = liveBuffers s := by
    intro hheld
    rw [liveBuffers, liveBuffers, hheld]
  cases h with
  | same hheld =>
      rw [hsame hheld]
      exact hlive
  | read object hmem hheld =>
      rw [hsame hheld]
      refine heapAfter_reads hlive ?_
      intro buffer hbuffer
      rw [mem_liveBuffers]
      have hobject : buffer.1 = object := by
        simp only [buffersOf, List.mem_cons, List.not_mem_nil, or_false] at hbuffer
        rcases hbuffer with rfl | rfl | rfl <;> rfl
      rwa [hobject]
  | pushed hheld =>
      have hnew : ∀ buffer ∈ (buffersOf s.made).reverse, buffer ∉ liveBuffers s := by
        intro buffer hbuffer hold
        rw [mem_liveBuffers] at hold
        have hless := hmade _ hold
        have hobject : buffer.1 = s.made := by
          simp only [List.mem_reverse, buffersOf, List.mem_cons, List.not_mem_nil,
            or_false] at hbuffer
          rcases hbuffer with rfl | rfl | rfl <;> rfl
        omega
      rw [allocMessage, heapAfter_allocs hlive (List.nodup_reverse.mpr (hbuffers _)) hnew]
      congr 1
      ext buffer
      simp [liveBuffers, hheld, or_comm]
  | freed object hheld =>
      rw [hheld] at hnodup
      have hnot := (List.nodup_cons.mp hnodup).1
      have hmem : ∀ buffer ∈ buffersOf object, buffer ∈ liveBuffers s := by
        intro buffer hbuffer
        simp only [liveBuffers, hheld, List.flatMap_cons, List.mem_toFinset, List.mem_append]
        exact .inl hbuffer
      rw [freeMessage, heapAfter_frees hlive (hbuffers _) hmem]
      congr 1
      ext buffer
      rw [Finset.mem_sdiff, mem_liveBuffers, mem_liveBuffers, hheld]
      obtain ⟨other, field⟩ := buffer
      have hfield : (other, field) ∈ (buffersOf object).toFinset ↔ other = object := by
        cases field <;> simp [buffersOf]
      rw [hfield, List.mem_cons]
      constructor
      · rintro ⟨rfl | hrest, hne⟩
        · exact absurd rfl hne
        · exact hrest
      · rintro hrest
        exact ⟨.inr hrest, fun heq => hnot (heq ▸ hrest)⟩

/-- Every step keeps the facts, as long as the run is defined. -/
theorem BufferFacts.step {record : List (HeapEvent Buffer)} {action : Action}
    (hfacts : BufferFacts s record) (hs : system.ReachableUnder OneControl s)
    (hstep : Producer.step s action = some s') (hstatus' : s'.status ≠ .undefined) :
    BufferFacts s' (heapEvents s action ++ record) := by
  obtain ⟨hstatus, hmove⟩ := move_of_step hstep
  have hthreads := threadFacts_reachable hs hstatus
  have hplaces := workerFacts_reachable hs hstatus
  have hlive : ∀ {events : List (HeapEvent Buffer)}, HeldStep s s' events →
      heapAfter (events ++ record) = some (liveBuffers s') := by
    intro events hheld
    refine hheld.live (heldObjects_nodup hs) ?_ hfacts.live
    exact fun object hobject =>
      (contentFacts_reachable hs).queued object (heldObjects_subset s object hobject)
  cases hmove with
  | worker input _ hmove =>
      have halive : s.worker ≠ .none := hmove.alive.1
      have halone : s.controls.any ControlPc.takes = false := by
        simp only [List.any_eq_false]
        exact fun pc hpc htakes => halive (hthreads.takesAlone pc hpc htakes)
      have hrunning : s'.status = .running := by
        have hworker : workerStep s input = some s' := by
          rwa [Producer.step, if_pos hstatus] at hstep
        exact (workerStep_defined (hthreads.workerAlive halive).1 hplaces.front hworker).trans
          hstatus
      refine ⟨hlive (hmove.heldStep (queueFacts_reachable hs).front halone hrunning), ?_⟩
      rw [hmove.frame.1]
      intro pc hpc htakes
      exact absurd (hthreads.takesAlone pc hpc htakes) halive
  | user _ _ hmove =>
      have hfreed : freedFront s = true → s.sendQueue ≠ [] := by
        intro hfreed
        rcases Bool.or_eq_true_iff.mp hfreed with hworker | hcontrol
        · refine hplaces.front ?_
          cases hpc : s.worker <;> simp_all [WorkerPc.freedFront, WorkerPc.holdsFront]
        · obtain ⟨pc, hpc, htakes⟩ := List.any_eq_true.mp hcontrol
          exact hfacts.clearing pc hpc htakes
      refine ⟨hlive (hmove.heldStep (tableFacts_reachable hs) hfreed), ?_⟩
      rw [hmove.frame.controls]
      exact fun pc hpc htakes => hmove.defined.2 (hfacts.clearing pc hpc htakes)
  | begin call =>
      refine ⟨hlive (.same ?_), ?_⟩
      · rw [heldObjects, heldObjects, freedFront, freedFront]
        cases call <;> simp [goOn, ControlCall.entry, ControlPc.takes]
      · intro pc hpc htakes
        rcases List.mem_cons.mp hpc with rfl | hold
        · cases call <;> cases htakes
        · exact hfacts.clearing pc hold htakes
  | control k input pc rest _ hpick hmove =>
      obtain ⟨hcontrols, rfl⟩ := hthreads.only hpick
      have heq : goOn { s with controls := [] } pc = s := by
        rw [goOn, ← hcontrols]
      have hcall : CallFacts { s with controls := [] } pc :=
        ThreadFacts.callFacts (heq ▸ hthreads) rfl
      have hclearing : pc.takes = true → s.sendQueue ≠ [] :=
        hfacts.clearing pc (by simp [hcontrols])
      have hevents :
          heapEvents s (.control k input) = controlHeap { s with controls := [] } pc := by
        have hk := getElem?_of_pick hpick
        simp only [heapEvents, hk, Option.elim_some]
        cases pc <;> rfl
      refine ⟨?_, hmove.clearing rfl hstatus'⟩
      have hheld := hmove.heldStep rfl hcall hclearing hstatus'
      rw [heq] at hheld
      rw [hevents]
      exact hlive hheld

/-- In every run with one control thread, as long as it is defined: no buffer of a
queued message is freed twice or used after its free, and what is live are the
buffers of the messages in the queue, but for one whose front is being removed. -/
theorem buffers_sound {t : ProducerState × List (HeapEvent Buffer)}
    (ht : (system.recording heapEvents).ReachableUnder (fun t => OneControl t.1) t)
    (hstatus : t.1.status ≠ .undefined) : heapAfter t.2 = some (liveBuffers t.1) := by
  have hfacts : t.1.status ≠ .undefined → BufferFacts t.1 t.2 := by
    refine ht.record_induction (fun s record => s.status ≠ .undefined → BufferFacts s record) ?_ ?_
    · exact fun _ => ⟨rfl, by simp [system, initial]⟩
    · intro s action s' record hs _ hfacts hstep hstatus'
      refine (hfacts ?_).step hs hstep hstatus'
      rw [(move_of_step hstep).1]
      decide
  exact (hfacts hstatus).live

/-- A message is published and freed, another one is cleared by `Stop`, and a third,
sent after that, is still in the queue when the producer is destroyed. -/
theorem buffers_sound_run :
    ∃ t : ProducerState × List (HeapEvent Buffer),
      ((system.recording heapEvents).ReachableUnder (fun t => OneControl t.1) t ∧
        t.1.status = .destroyed ∧ liveBuffers t.1 = (buffersOf 2).toFinset ∧
        freeMessage 0 <:+: t.2 ∧ freeMessage 1 <:+: t.2) ∧
      heapAfter t.2 = some (liveBuffers t.1) := by
  obtain ⟨t, ht, htest⟩ := TransitionSystem.exists_reachableUnder_of_run
    (M := system.recording heapEvents) (fun t => OneControl t.1)
    (List.flatten [startUp, sendHi, sendHi, connectAndOpen, workerSteps 5,
      .begin .stop :: List.replicate 3 (.control 0 {}), workerSteps 1,
      List.replicate 7 (.control 0 {}), sendHi, [.begin .destroy, .control 0 {}, .control 0 {},
      .control 0 { order := [([101], { channel := 1 })] }, .control 0 {}, .control 0 {}]])
    (fun t => decide (t.1.status = .destroyed ∧ liveBuffers t.1 = (buffersOf 2).toFinset ∧
      freeMessage 0 <:+: t.2 ∧ freeMessage 1 <:+: t.2)) (by decide +kernel)
  have htest := of_decide_eq_true htest
  refine ⟨t, ⟨ht, htest⟩, buffers_sound ht ?_⟩
  rw [htest.1]
  decide

end Producer
end HareCpp
