import HareCpp.Library.FairRun
import HareCpp.Outstanding
import HareCpp.Consumer.Consuming
import HareCpp.Consumer.Lifecycle

/-!
# Subscriptions come back

A consumer that runs, on a broker that answers, comes to consume every channel of
its table and goes on doing so, wherever the worker stood before, connected or
not, halfway through a set-up or about to close the connection, and whatever
other threads subscribe to in the meantime.

The way there has three stretches.  While the next list is still to be taken
(`recovering`) the worker comes closer to taking it.  While a list is being worked
off, or a set-up that failed earlier is put back (`WorkerPc.pushing`), it comes
closer to the end of that.  After that a channel that is pending moves up in the
queue with every round of the loop; a `Subscribe` pushes behind it.

* `WorkerFacts` — what is known of a worker at the pop, after its return, and
  before the list is taken.
* `SteadyGoto` — the steps of a worker whose requests succeed.
* `settles` — a channel leaves the queue and the worker's hands, and stays away.
* `subscriptions_recover` — in every run in which the worker keeps moving and the
  broker answers, all channels of the table consume from some time on.
-/

namespace HareCpp
namespace Consumer

open Library TransitionSystem ConnectionBase ChannelHandler

variable {Callback : Type} {s s' : ConsumerState Callback}

/-! ### The worker -/

/-- What is known of the worker at three of its places. -/
structure WorkerFacts (s : ConsumerState Callback) : Prop where
  pop : s.worker = .pendingPop →
    s.pendingChannels ≠ [] ∨ ∃ pc ∈ s.controls, pc.inStop = true
  returned : s.worker = .returned → s.threadRunning = false
  unlisted : s.worker.unlisted = true → isConnected s = true

theorem unlisted_nextChannel (code : HareError) (channels : List Int) :
    (nextChannel code channels).unlisted = false := by
  rcases nextChannel_cases code channels with ⟨-, h⟩ | ⟨-, h⟩ | ⟨channel, rest, -, h⟩ <;>
    rw [h] <;> rfl

theorem unlisted_setupGoesOn (caller : SetupCaller) (channel : Int) (code : HareError)
    {next : WorkerPc} (hnext : next.unlisted = false) :
    (setupGoesOn caller channel code next).unlisted = false := by
  rcases setupGoesOn_cases caller channel code next with ⟨-, h⟩ | ⟨-, h⟩
  · rwa [h]
  · rw [h]
    rfl

/-- The worker is about to take a list after a `Connect` only. -/
theorem WorkerMove.toUnlisted {input : WorkerInput} (hsession : SessionFacts s)
    (hmove : WorkerMove s input s') (hstatus : s'.status = .running)
    (hplace : s'.worker.unlisted = true) :
    isConnected s' = true ∨ (s.worker.unlisted = true ∧ s'.connection = s.connection) := by
  have hnot : s'.worker.unlisted ≠ false := by simp [hplace]
  cases hmove with
  | goto next hnext =>
      exfalso
      cases hnext with
      | listed => exact hnot (unlisted_nextChannel _ _)
      | _ => cases hplace
  | crash | refused => cases hstatus
  | connected base hpc hbase hcode =>
      obtain ⟨-, -, -, hup, -⟩ := connect_handle (hsession.sound.baseSound base hbase).plain
        s.handles input.connect
      exact .inl (hup hcode)
  | emptied hpc => exact .inr ⟨by rw [hpc]; rfl, rfl⟩
  | opened => exact absurd (unlisted_setupGoesOn _ _ _ rfl) hnot
  | bound => exact absurd (unlisted_setupGoesOn _ _ _ rfl) hnot
  | consumed => exact absurd (unlisted_afterSetup _ _) hnot
  | pushed => exact absurd (unlisted_afterSetup _ _) hnot
  | pulled base next _ _ hnext => rcases hnext with rfl | rfl | rfl <;> cases hplace
  | _ => cases hplace

/-- A step of the worker keeps the facts. -/
theorem WorkerFacts.worker {input : WorkerInput} (hfacts : WorkerFacts s)
    (hsession : SessionFacts s) (hmove : WorkerMove s input s') (hstatus : s'.status = .running) :
    WorkerFacts s' := by
  obtain ⟨hcontrols, hthread, -⟩ := hmove.frame
  refine ⟨?_, ?_, ?_⟩
  · intro hpc
    obtain ⟨hsame, hfound⟩ := hmove.toPop hpc
    rw [hsame, hcontrols]
    exact hfound.elim hfacts.pop .inl
  · intro hpc
    rw [hthread]
    obtain rfl | ⟨next, hnext, -, rfl⟩ := hmove.toTested (by rw [hpc]; rfl)
    · cases hstatus
    · cases hnext with
      | loopEnd _ hrunning => exact hrunning
      | listed hstart =>
          rcases nextChannel_cases .allGood input.order with ⟨-, h⟩ | ⟨-, h⟩ | ⟨_, _, -, h⟩ <;>
            exact absurd (h.symm.trans hpc) (by simp)
      | _ => cases hpc
  · intro hplace
    rcases hmove.toUnlisted hsession hstatus hplace with hup | ⟨hbefore, hconn⟩
    · exact hup
    · rw [isConnected, hconn]
      exact hfacts.unlisted hbefore

/-- A control call inside `Stop` stays there as long as the worker is alive. -/
theorem ControlMove.inStop {reply : AmqpRpcReply} {pc : ControlPc} (hcall : CallFacts s (some pc))
    (hmove : ControlMove s reply pc s') (hstop : pc.inStop = true) (halive : s'.worker ≠ .none)
    (hstatus : s'.status = .running) : ∃ next ∈ s'.controls, next.inStop = true := by
  have hphase := hcall.phase
  cases hmove with
  | goto _ next hnext =>
      refine ⟨next, List.mem_cons_self, ?_⟩
      cases hnext <;> first | rfl | cases hstop
  | emptied caller => exact ⟨.stopInitialized caller, List.mem_cons_self, rfl⟩
  | stopRefused _ caller code hpc =>
      -- the flag or the missing initialisation says that there is no worker
      rw [stopReturns_worker] at halive
      exfalso
      rcases hpc with ⟨rfl, hinit, -⟩ | ⟨rfl, hthread, -⟩
      · rw [hcall.initialized (.inr (.inl halive))] at hinit
        cases hinit
      · have hphase : s.threadRunning = true ↔ s.worker ≠ .none := hphase
        rw [hphase.mpr halive] at hthread
        cases hthread
  | stopSet caller => exact ⟨.stopJoin caller, List.mem_cons_self, rfl⟩
  | joined => exact absurd rfl halive
  | stopped caller base =>
      rw [stopReturns_worker] at halive
      exact absurd hphase.2 halive
  | crash => cases hstatus
  | startRefused | started | initConnection | initInitialized | initRunning | destroyClosed
  | destroyed => cases hstop

/-- A control call sets `m_threadRunning` only when it starts a worker. -/
theorem ControlMove.threadRunning {reply : AmqpRpcReply} {pc : ControlPc}
    (hmove : ControlMove s reply pc s') (hidle : s.threadRunning = false) :
    s'.threadRunning = false ∨ s'.worker = .loopTest := by
  cases hmove with
  | started => exact .inr rfl
  | stopRefused | stopped => exact .inl (by simpa using hidle)
  | stopSet | initRunning => exact .inl rfl
  | _ => exact .inl hidle

/-- A step of the control thread keeps the facts. -/
theorem WorkerFacts.control {reply : AmqpRpcReply} {pc : ControlPc}
    (hfacts : WorkerFacts (goOn s pc)) (hnone : s.controls = []) (hcall : CallFacts s (some pc))
    (hmove : ControlMove s reply pc s') (hstatus : s'.status = .running) : WorkerFacts s' := by
  -- a worker that stands anywhere but at the head of its loop stood there before
  have hsame : s'.worker ≠ .none → s'.worker ≠ .loopTest → s'.worker = s.worker := by
    intro halive hhead
    rcases hmove.worker with h | ⟨-, h⟩ | ⟨-, h⟩
    · exact h
    · exact absurd h hhead
    · exact absurd h halive
  refine ⟨?_, ?_, ?_⟩
  · intro hpc
    have hbefore := (hsame (by simp [hpc]) (by simp [hpc])).symm.trans hpc
    by_cases hstop : pc.inStop = true
    · exact .inr (hmove.inStop hcall hstop (by simp [hpc]) hstatus)
    · rcases hmove.pending with hpending | ⟨hempties, -⟩
      · left
        rw [hpending]
        refine (hfacts.pop hbefore).resolve_right ?_
        simpa [goOn, hnone] using hstop
      · cases pc with
        | stopEmpty caller => exact absurd rfl hstop
        | _ => cases hempties
  · intro hpc
    have hbefore := (hsame (by simp [hpc]) (by simp [hpc])).symm.trans hpc
    refine (hmove.threadRunning (hfacts.returned hbefore)).resolve_right ?_
    simp [hpc]
  · intro hplace
    have hbefore : s'.worker = s.worker := by
      apply hsame <;> intro hpc <;> rw [hpc] at hplace <;> cases hplace
    have halive : s.worker ≠ .none := by
      intro hpc
      rw [hbefore, hpc] at hplace
      cases hplace
    rw [isConnected, (hcall.control_alone hmove halive).1]
    exact hfacts.unlisted (hbefore ▸ hplace)

/-- The facts hold while a run with one control thread goes on. -/
theorem workerFacts_reachable (hs : system.ReachableUnder OneControl s) :
    s.status = .running → WorkerFacts s := by
  refine hs.induction (fun s => s.status = .running → WorkerFacts s) ?_ ?_
  · exact fun _ => ⟨by rintro ⟨⟩, by rintro ⟨⟩, by rintro ⟨⟩⟩
  · intro s action s' hreach _ hfacts hstep hstatus'
    obtain ⟨hstatus, hmove⟩ := move_of_step hstep
    have hfacts := hfacts hstatus
    cases hmove with
    | worker input _ hmove => exact hfacts.worker (sessionFacts_reachable hreach) hmove hstatus'
    | subscribeRefused => exact ⟨hfacts.pop, hfacts.returned, hfacts.unlisted⟩
    | subscribeBegins => exact ⟨hfacts.pop, hfacts.returned, hfacts.unlisted⟩
    | subscribe k pc rest _ hpick hmove =>
        obtain ⟨hconn, -, hthread, hworker, hcontrols, -, -⟩ := hmove.frame
        refine ⟨?_, ?_, ?_⟩
        · rw [hworker, hcontrols]
          intro hpc
          refine (hfacts.pop hpc).imp_left fun hsome => ?_
          rcases hmove.pending with hpending | ⟨channel, -, hpending⟩
          · rwa [hpending]
          · simp [hpending]
        · rw [hworker, hthread]
          exact hfacts.returned
        · rw [hworker, isConnected, hconn]
          exact hfacts.unlisted
    | begin call =>
        refine ⟨?_, hfacts.returned, hfacts.unlisted⟩
        intro hpc
        refine (hfacts.pop hpc).imp_right ?_
        rintro ⟨pc, hmem, h⟩
        exact ⟨pc, List.mem_cons_of_mem _ hmem, h⟩
    | control k reply pc rest _ hpick _ hmove =>
        have hperm := perm_of_pick hpick
        obtain ⟨rfl, hcall⟩ := (threadFacts_reachable hreach hstatus).picked hpick
        have hcontrols : s.controls = [pc] := List.perm_singleton.mp hperm
        have hsame : WorkerFacts (goOn { s with controls := [] } pc) := by
          rwa [goOn, ← hcontrols]
        exact hsame.control rfl hcall hmove hstatus'

/-! ### A broker that answers -/

/-- The requests of the worker are answered by normal replies, and pulling a message
comes to one or to a time-out. -/
def Healthy (s : ConsumerState Callback) (input : WorkerInput) : Prop :=
  ConnectReplies.Succeeds input.connect ∧
    (input.reply.replyType = .normal ∨
      (s.worker = .pullConsume ∧ decodeRpcReply input.reply = .timeoutOccured))

/-- The steps of a worker on a broker that answers. -/
def healthyWorker (s : ConsumerState Callback) : Action Callback → Prop
  | .worker input => Healthy s input
  | _ => False

/-- The steps of the threads that call `Subscribe`. -/
def subscribing (_ : ConsumerState Callback) : Action Callback → Prop
  | .subscribe _ | .subscribeStep _ => True
  | _ => False

/-- A running consumer that is not being stopped. -/
structure Serving (s : ConsumerState Callback) : Prop where
  reached : system.ReachableUnder ConsumingRun s
  status : s.status = .running
  threadRunning : s.threadRunning = true
  controls : s.controls = []

theorem Serving.oneControl (h : Serving s) : system.ReachableUnder OneControl s :=
  ConsumingRun.oneControl h.reached

/-- The consumer has a connection object. -/
theorem Serving.connection (h : Serving s) : s.connection ≠ none := by
  obtain ⟨pc, hpc, hcall⟩ := threadFacts_reachable h.oneControl h.status
  exact hcall.connection (hcall.initialized (.inl h.threadRunning))

/-- There is a channel to pop at the pop. -/
theorem Serving.pop (h : Serving s) (hpc : s.worker = .pendingPop) : s.pendingChannels ≠ [] := by
  refine ((workerFacts_reachable h.oneControl h.status).pop hpc).resolve_right ?_
  simp [h.controls]

/-- The worker is alive and has not returned. -/
theorem Serving.alive (h : Serving s) : s.worker ≠ .none ∧ s.worker ≠ .returned := by
  obtain ⟨pc, hpc, hcall⟩ := threadFacts_reachable h.oneControl h.status
  rw [h.controls] at hpc
  obtain rfl : pc = none := by simpa using hpc.symm
  have hphase : s.threadRunning = true ↔ s.worker ≠ .none := hcall.phase
  refine ⟨hphase.mp h.threadRunning, ?_⟩
  intro hreturned
  have hidle := (workerFacts_reachable h.oneControl h.status).returned hreturned
  rw [h.threadRunning] at hidle
  cases hidle

/-- Only a pull may come to anything but a normal reply. -/
theorem Healthy.normal {input : WorkerInput} (h : Healthy s input)
    (hpc : s.worker ≠ .pullConsume) : input.reply.replyType = .normal :=
  h.2.resolve_right fun hpull => hpc hpull.1

/-- The steps on a broker that answers are in the runs of the condition. -/
theorem consumingRun_of_healthy {action : Action Callback}
    (haction : healthyWorker s action ∨ subscribing s action) : ConsumingRun s action := by
  cases action with
  | begin | control => rcases haction with h | h <;> cases h
  | subscribe | subscribeStep => exact ⟨trivial, trivial⟩
  | worker input =>
      refine ⟨trivial, fun hconsuming => ?_⟩
      have hhealthy : Healthy s input := haction.resolve_right id
      have hnormal := hhealthy.normal (by rintro hpc; rw [hpc] at hconsuming; cases hconsuming)
      simp [AmqpRpcReply.Listed, hnormal]

/-- On such a broker the queues are declared. -/
theorem Healthy.queuesDeclared {input : WorkerInput} (h : Healthy s input) :
    QueuesDeclared s (.worker input) := by
  intro hdeclaring
  apply h.normal
  rintro hpc
  rw [hpc] at hdeclaring
  cases hdeclaring

/-- Neither the worker nor a `Subscribe` ends the service. -/
theorem Serving.next (h : Serving s) {action : Action Callback}
    (haction : healthyWorker s action ∨ subscribing s action) (hstep : step s action = some s') :
    Serving s' := by
  have hreached : system.ReachableUnder ConsumingRun s' :=
    .step h.reached (consumingRun_of_healthy haction) hstep
  obtain ⟨-, hmove⟩ := move_of_step hstep
  cases hmove with
  | worker input _ hmove =>
      obtain ⟨hcontrols, hthread, -⟩ := hmove.frame
      have hhealthy : Healthy s input := haction.resolve_right id
      have hstatus := hmove.defined h.connection h.pop hhealthy.queuesDeclared
      exact ⟨hreached, hstatus.trans h.status, hthread.trans h.threadRunning,
        hcontrols.trans h.controls⟩
  | subscribeRefused => exact ⟨hreached, h.status, h.threadRunning, h.controls⟩
  | subscribeBegins => exact ⟨hreached, h.status, h.threadRunning, h.controls⟩
  | subscribe k pc rest _ hpick hmove =>
      obtain ⟨-, -, hthread, -, hcontrols, -, -⟩ := hmove.frame
      refine ⟨hreached, ?_, hthread.trans h.threadRunning, hcontrols.trans h.controls⟩
      cases hmove <;> exact h.status
  | begin call => rcases haction with h | h <;> cases h
  | control k reply => rcases haction with h | h <;> cases h

/-- The worker always has a step on a broker that answers. -/
theorem Serving.exists_step (h : Serving s) :
    ∃ action s', healthyWorker s action ∧ step s action = some s' ∧ Serving s' := by
  let input : WorkerInput := { order := s.channelHandler.getChannelList }
  have hhealthy : healthyWorker s (.worker input) := by
    exact ⟨⟨rfl, rfl, rfl⟩, .inl rfl⟩
  obtain ⟨halive, hreturned⟩ := h.alive
  obtain ⟨s', hstep⟩ : ∃ s', workerStep s input = some s' := by
    refine Option.ne_none_iff_exists'.mp ?_
    cases hpc : s.worker with
    | none => exact absurd hpc halive
    | returned => exact absurd hpc hreturned
    | startList =>
        have hperm : input.order.isPerm s.channelHandler.getChannelList = true :=
          List.isPerm_iff.mpr (List.Perm.refl _)
        simp [workerStep, hpc, hperm]
    | _ =>
        simp only [workerStep, hpc]
        grind
  have hstep' : step s (.worker input) = some s' := by
    rw [step, if_pos h.status]
    exact hstep
  exact ⟨.worker input, s', hhealthy, hstep', h.next (.inl hhealthy) hstep'⟩

/-! ### The three stretches -/

/-- The connection is closed next. -/
def WorkerPc.closing : WorkerPc → Bool
  | .pullRunning | .pullClose | .startClose => true
  | .setupPush (.startUp _) _ code => serverFailure code
  | _ => false

/-- The next list of channels is still to be taken. -/
def recovering (s : ConsumerState Callback) : Bool :=
  !isConnected s || s.worker.closing || s.worker.unlisted

/-- The worker may yet push a channel. -/
def WorkerPc.pushing : WorkerPc → Bool
  | .setupOpen (.startUp _) _ | .setupProperties (.startUp _) _ | .setupDeclare (.startUp _) ..
  | .setupBind (.startUp _) .. | .setupConsume (.startUp _) .. | .setupPush .. => true
  | _ => false

/-- The steps to the next list. -/
def WorkerPc.recoveryRank : WorkerPc → ℕ
  | .startList => 0
  | .startEmpty => 1
  | .connect => 2
  | .connectedTest => 3
  | .loopTest => 4
  | pc => pc.distance 0 + 4

/-- The steps to the next pop. -/
def WorkerPc.popRank : WorkerPc → ℕ
  | .pendingTest => 1
  | .pullProcess _ => 2
  | .pullConsume => 3
  | .pullRelease => 4
  | .pullTest => 5
  | .connectedTest => 6
  | .loopTest => 7
  | .setupConsume .. => 8
  | .setupBind .. => 9
  | .setupDeclare .. => 10
  | .setupProperties .. => 11
  | .setupOpen .. => 12
  | _ => 0

/-- What is left to do for the channel after the list is taken. -/
def steadyMeasure (c : Int) (pc : WorkerPc) (queue : List Int) : ℕ ×ₗ ℕ ×ₗ ℕ :=
  if pc.pushing then toLex (1, toLex (pc.distance 0, 0))
  else toLex (0, toLex (upToLast c queue, pc.popRank))

/-- How far the channel is from being set up for good: the stretch, and what is left
of it. -/
def settleMeasure (c : Int) (s : ConsumerState Callback) : ℕ ×ₗ ℕ ×ₗ ℕ :=
  if recovering s then toLex (2, toLex (s.worker.recoveryRank, 0))
  else steadyMeasure c s.worker s.pendingChannels

/-- The channel is neither pending nor in the worker's hands, and no list is going to
be taken. -/
structure Settled (c : Int) (s : ConsumerState Callback) : Prop where
  steady : recovering s = false
  pending : c ∉ s.pendingChannels
  hands : c ∉ s.worker.channels

theorem steadyMeasure_lt (c : Int) (pc : WorkerPc) (queue : List Int) (rest : ℕ ×ₗ ℕ) :
    steadyMeasure c pc queue < toLex (2, rest) := by
  unfold steadyMeasure
  split
  · exact Prod.Lex.toLex_lt_toLex.mpr (.inl Nat.one_lt_two)
  · exact Prod.Lex.toLex_lt_toLex.mpr (.inl Nat.zero_lt_two)

theorem recovering_eq_false :
    recovering s = false ↔
      isConnected s = true ∧ s.worker.closing = false ∧ s.worker.unlisted = false := by
  simp [recovering, and_assoc]

theorem closing_or_unlisted_of_unsettled {pc : WorkerPc} (h : pc.unsettled = true) :
    pc.closing = true ∨ pc.unlisted = true := by
  cases pc <;> first | exact .inl rfl | exact .inr rfl | cases h

/-! ### A worker whose requests succeed -/

/-- Where the worker goes, and what it does to the queue, on a connection that is up
and stays up. -/
inductive SteadyGoto : WorkerPc → List Int → WorkerPc → List Int → Prop
  | loopTest (queue : List Int) : SteadyGoto .loopTest queue .connectedTest queue
  | connectedTest (queue : List Int) : SteadyGoto .connectedTest queue .pullTest queue
  | pullTest (queue : List Int) : SteadyGoto .pullTest queue .pullRelease queue
  | pullRelease (queue : List Int) : SteadyGoto .pullRelease queue .pullConsume queue
  | found (queue : List Int) (envelope : AmqpEnvelope) :
      SteadyGoto .pullConsume queue (.pullProcess envelope) queue
  | nothing (queue : List Int) : SteadyGoto .pullConsume queue .pendingTest queue
  | processed (queue : List Int) (envelope : AmqpEnvelope) :
      SteadyGoto (.pullProcess envelope) queue .pendingTest queue
  | pendingSome (queue : List Int) (hsome : queue ≠ []) :
      SteadyGoto .pendingTest queue .pendingPop queue
  | pendingNone : SteadyGoto .pendingTest [] .loopTest []
  | popped (channel : Int) (rest : List Int) :
      SteadyGoto .pendingPop (channel :: rest) (.setupOpen .retry channel) rest
  | opened (queue : List Int) (caller : SetupCaller) (channel : Int) :
      SteadyGoto (.setupOpen caller channel) queue (.setupProperties caller channel) queue
  | propertiesRead (queue : List Int) (caller : SetupCaller) (channel : Int)
      (queueProps : QueueProperties) :
      SteadyGoto (.setupProperties caller channel) queue
        (.setupDeclare caller channel queueProps) queue
  | declared (queue : List Int) (caller : SetupCaller) (channel : Int)
      (queueProps : QueueProperties) (queueName : AmqpBytes) :
      SteadyGoto (.setupDeclare caller channel queueProps) queue
        (.setupBind caller channel queueName) queue
  | bound (queue : List Int) (caller : SetupCaller) (channel : Int) (queueName : AmqpBytes) :
      SteadyGoto (.setupBind caller channel queueName) queue
        (.setupConsume caller channel queueName) queue
  | consumed (queue : List Int) (caller : SetupCaller) (channel : Int) (queueName : AmqpBytes) :
      SteadyGoto (.setupConsume caller channel queueName) queue (afterSetup .allGood caller) queue
  | pushed (queue : List Int) (caller : SetupCaller) (channel : Int) (code : HareError)
      (hnext : afterSetup code caller ≠ .startClose) :
      SteadyGoto (.setupPush caller channel code) queue (afterSetup code caller)
        (queue ++ [channel])

/-- A pull that does not find the connection broken. -/
theorem pull_of_healthy {input : WorkerInput} (hstep : workerStep s input = some s')
    (hpc : s.worker = .pullConsume) (hup : isConnected s = true)
    (hhealthy : Healthy s input) :
    s'.worker = .pullProcess input.envelope ∨ s'.worker = .pendingTest := by
  have hreply : serverFailure (decodeRpcReply input.reply) = false := by
    rcases hhealthy.2 with hnormal | ⟨-, htimeout⟩
    · rw [decodeRpcReply_of_normal hnormal]
      rfl
    · rw [htimeout]
      rfl
  simp only [workerStep, hpc] at hstep
  split at hstep
  · next hnone => simp [isConnected, hnone] at hup
  · next base hbase =>
      rw [isConnected_of_connection hbase] at hup
      simp only [consumeMessage, hup, if_true, hreply] at hstep
      split at hstep <;> cases hstep
      · exact .inl rfl
      · exact .inr rfl

/-- A set-up outside `startConsumption`, or one that does not lose the connection,
does not close it. -/
theorem afterSetup_ne_startClose (caller : SetupCaller) (channel : Int) {code : HareError}
    (h : (WorkerPc.setupPush caller channel code).closing = false) :
    afterSetup code caller ≠ .startClose := by
  rcases afterSetup_cases code caller with ⟨-, heq⟩ | ⟨rest, rfl, hbad, -⟩ | ⟨rest, -, -, heq⟩
  · simp [heq]
  · cases hbad.symm.trans h
  · rcases nextChannel_cases code rest with ⟨-, h⟩ | ⟨-, h⟩ | ⟨channel, rest', -, h⟩ <;>
      simp [heq, h]

/-- On a broker that answers, with the list taken and the connection not about to be
closed, the worker does nothing else. -/
theorem Serving.steady (h : Serving s) (hsteady : recovering s = false) {input : WorkerInput}
    (hhealthy : Healthy s input) (hstep : step s (.worker input) = some s') :
    s'.connection = s.connection ∧ s'.subscribes = s.subscribes ∧
      s'.channelHandler.getChannelList = s.channelHandler.getChannelList ∧
      SteadyGoto s.worker s.pendingChannels s'.worker s'.pendingChannels := by
  obtain ⟨hup, hclosing, hlisted⟩ := recovering_eq_false.mp hsteady
  have hworker : workerStep s input = some s' := by
    rw [step, if_pos h.status] at hstep
    exact hstep
  have hmove := workerMove_of_step hworker
  have hgood : s.worker ≠ .pullConsume → decodeRpcReply input.reply = .allGood := by
    exact fun hpc => decodeRpcReply_of_normal (hhealthy.normal hpc)
  have hsubscribes := hmove.frame.2.2.2.1
  have hlist := hmove.getChannelList
  cases hmove with
  | goto next hnext =>
      refine ⟨rfl, hsubscribes, hlist, ?_⟩
      show SteadyGoto s.worker s.pendingChannels next s.pendingChannels
      cases hnext with
      | loopOn hpc => exact hpc ▸ .loopTest _
      | loopEnd _ hrunning => cases hrunning.symm.trans h.threadRunning
      | foundConnected hpc => exact hpc ▸ .connectedTest _
      | foundClosed _ hdown | pullOff _ hdown => cases hdown.symm.trans hup
      | listed hpc => simp [hpc, WorkerPc.unlisted] at hlisted
      | pullOn hpc => exact hpc ▸ .pullTest _
      | failedRunning hpc | failedStopped hpc => simp [hpc, WorkerPc.closing] at hclosing
      | pendingSome hpc hpending => exact hpc ▸ .pendingSome _ hpending
      | pendingNone hpc hpending =>
          rw [hpc, hpending]
          exact .pendingNone
  | crash hpc hwhy =>
      exfalso
      rcases hwhy with hnone | ⟨hpc, hempty⟩
      · exact h.connection hnone
      · exact h.pop hpc hempty
  | connected base hpc | connectFailed base hpc =>
      rw [(sessionFacts_reachable h.oneControl).down hpc] at hup
      cases hup
  | emptied hpc => simp [hpc, WorkerPc.unlisted] at hlisted
  | opened caller channel base hpc hbase =>
      refine ⟨rfl, hsubscribes, hlist, ?_⟩
      have hcode : (base.openChannel channel input.reply input.closeOkStatus).code = .allGood := by
        rw [isConnected_of_connection hbase] at hup
        simp [openChannel, hup, hgood (by simp [hpc])]
      simp only [hcode, setupGoesOn, hpc]
      exact .opened _ caller channel
  | propertiesRead caller channel hpc =>
      refine ⟨rfl, hsubscribes, hlist, ?_⟩
      simp only [hpc]
      exact .propertiesRead _ caller channel _
  | declared caller channel base queue hpc hbase =>
      refine ⟨rfl, hsubscribes, hlist, ?_⟩
      simp only [hpc]
      exact .declared _ caller channel _ queue
  | refused caller channel base queue hpc hbase hreply =>
      exact absurd (hhealthy.normal (by simp [hpc])) hreply
  | bound caller channel base queue hpc hbase =>
      refine ⟨rfl, hsubscribes, hlist, ?_⟩
      simp only [hgood (by simp [hpc]), setupGoesOn, hpc]
      exact .bound _ caller channel queue
  | consumed caller channel base queue hpc hbase hcode =>
      refine ⟨rfl, hsubscribes, hlist, ?_⟩
      simp only [setupReturns, hpc]
      exact .consumed _ caller channel queue
  | consumeFailed caller channel base queue hpc hbase hcode =>
      exact absurd (hgood (by simp [hpc])) hcode
  | pushed caller channel code hpc =>
      refine ⟨rfl, hsubscribes, hlist, ?_⟩
      rw [hpc] at hclosing
      simp only [setupReturns, hpc]
      exact .pushed _ caller channel code (afterSetup_ne_startClose caller channel hclosing)
  | closed base hpc => rcases hpc with hpc | hpc <;> simp [hpc, WorkerPc.closing] at hclosing
  | released base hpc hbase =>
      refine ⟨rfl, hsubscribes, hlist, ?_⟩
      simp only [hpc]
      exact .pullRelease _
  | pulled base next hpc hbase hnext =>
      refine ⟨rfl, hsubscribes, hlist, ?_⟩
      rcases pull_of_healthy hworker hpc hup hhealthy with heq | heq
      · rw [heq, hpc]
        exact .found _ input.envelope
      · rw [heq, hpc]
        exact .nothing _
  | processed envelope hpc =>
      refine ⟨rfl, hsubscribes, hlist, ?_⟩
      simp only [hpc]
      exact .processed _ envelope
  | popped channel rest hpc hpending =>
      refine ⟨rfl, hsubscribes, hlist, ?_⟩
      simp only [hpc, hpending]
      exact .popped channel rest

theorem closing_afterSetup {code : HareError} {caller : SetupCaller}
    (hnext : afterSetup code caller ≠ .startClose) : (afterSetup code caller).closing = false := by
  rcases afterSetup_place code caller with h | ⟨rest, channel, h⟩
  · simp only [List.mem_cons, List.not_mem_nil, or_false] at h
    rcases h with h | h | h | h
    · rw [h]
      rfl
    · exact absurd h hnext
    · rw [h]
      rfl
    · rw [h]
      rfl
  · rw [h]
    rfl

/-- After a set-up that succeeded the worker has the rest of the list in hand. -/
theorem channels_afterSetup_allGood (caller : SetupCaller) :
    (afterSetup .allGood caller).channels = caller.rest :=
  (channels_afterSetup .allGood caller).resolve_left fun h => absurd h.1 (by decide)

namespace SteadyGoto

variable {pc pc' : WorkerPc} {queue queue' : List Int}

/-- The connection is not closed, and no list is taken. -/
theorem stays (h : SteadyGoto pc queue pc' queue') :
    pc'.closing = false ∧ pc'.unlisted = false := by
  cases h with
  | consumed _ caller channel queueName =>
      refine ⟨closing_afterSetup ?_, unlisted_afterSetup _ _⟩
      exact afterSetup_ne_startClose caller channel (by cases caller <;> rfl)
  | pushed _ caller channel code hnext => exact ⟨closing_afterSetup hnext, unlisted_afterSetup _ _⟩
  | _ => exact ⟨rfl, rfl⟩

/-- A channel that has left the queue and the worker's hands does not come back. -/
theorem keepsAway (h : SteadyGoto pc queue pc' queue') {c : Int} (hqueue : c ∉ queue)
    (hhands : c ∉ pc.channels) : c ∉ queue' ∧ c ∉ pc'.channels := by
  cases h with
  | popped channel rest =>
      simp only [List.mem_cons, not_or] at hqueue
      exact ⟨hqueue.2, by simpa [WorkerPc.channels, SetupCaller.rest] using hqueue.1⟩
  | consumed _ caller channel queueName =>
      refine ⟨hqueue, ?_⟩
      rw [channels_afterSetup_allGood]
      exact fun hmem => hhands (List.mem_cons_of_mem _ hmem)
  | pushed _ caller channel code hnext =>
      simp only [WorkerPc.channels, List.mem_cons, not_or] at hhands
      rw [(channels_afterSetup code caller).resolve_left fun h => hnext h.2]
      exact ⟨by simp [hqueue, hhands.1], hhands.2⟩
  | opened | propertiesRead | declared | bound => exact ⟨hqueue, hhands⟩
  | _ => exact ⟨hqueue, by simp [WorkerPc.channels]⟩

/-- Inside the loop of `thread` the worker comes closer to the next pop, and the pop
moves the channel up. -/
theorem less_of_rank {c : Int} (hpc : pc.pushing = false) (hpc' : pc'.pushing = false)
    (hless : upToLast c queue' < upToLast c queue ∨
      (upToLast c queue' = upToLast c queue ∧ pc'.popRank < pc.popRank)) :
    steadyMeasure c pc' queue' < steadyMeasure c pc queue := by
  simp only [steadyMeasure, hpc, hpc', Bool.false_eq_true, if_false]
  refine Prod.Lex.toLex_lt_toLex.mpr (.inr ⟨rfl, Prod.Lex.toLex_lt_toLex.mpr hless⟩)

/-- A worker that may yet push a channel comes closer to the end of that. -/
theorem less_of_pushing {c : Int} (hpc : pc.pushing = true)
    (hless : pc'.distance 0 < pc.distance 0) :
    steadyMeasure c pc' queue' < steadyMeasure c pc queue := by
  unfold steadyMeasure
  rw [if_pos hpc]
  split
  · refine Prod.Lex.toLex_lt_toLex.mpr (.inr ⟨rfl, ?_⟩)
    exact Prod.Lex.toLex_lt_toLex.mpr (.inl hless)
  · exact Prod.Lex.toLex_lt_toLex.mpr (.inl Nat.zero_lt_one)

/-- A step of `setupAndConsume` that goes on, for either of its callers. -/
theorem less_of_setup {c : Int} (caller : SetupCaller)
    (hretry : caller = .retry → pc.pushing = false ∧ pc'.pushing = false ∧
      pc'.popRank < pc.popRank)
    (hstartUp : ∀ rest, caller = .startUp rest → pc.pushing = true ∧
      pc'.distance 0 < pc.distance 0) :
    steadyMeasure c pc' queue < steadyMeasure c pc queue := by
  cases hcaller : caller with
  | retry =>
      obtain ⟨hpc, hpc', hrank⟩ := hretry hcaller
      exact less_of_rank hpc hpc' (.inr ⟨rfl, hrank⟩)
  | startUp rest =>
      obtain ⟨hpc, hless⟩ := hstartUp rest hcaller
      exact less_of_pushing hpc hless

/-- Every step brings the channel closer. -/
theorem less (h : SteadyGoto pc queue pc' queue') {c : Int} (hc : c ∈ queue ∨ c ∈ pc.channels) :
    steadyMeasure c pc' queue' < steadyMeasure c pc queue := by
  have hloop : ∀ {pc pc' : WorkerPc}, pc.pushing = false → pc'.pushing = false →
      pc'.popRank < pc.popRank → steadyMeasure c pc' queue < steadyMeasure c pc queue :=
    fun hpc hpc' hrank => less_of_rank hpc hpc' (.inr ⟨rfl, hrank⟩)
  cases h with
  | loopTest | connectedTest | pullTest | pullRelease | found | nothing | processed | pendingSome =>
      exact hloop rfl rfl (by simp [WorkerPc.popRank])
  | pendingNone => simp [WorkerPc.channels] at hc
  | popped channel =>
      exact less_of_rank rfl rfl (.inl (upToLast_lt_cons (by simpa [WorkerPc.channels] using hc)))
  | opened _ caller channel =>
      refine less_of_setup caller ?_ ?_
      · rintro rfl
        exact ⟨rfl, rfl, by simp [WorkerPc.popRank]⟩
      · rintro rest rfl
        exact ⟨rfl, by simp [WorkerPc.distance]⟩
  | propertiesRead _ caller channel queueProps =>
      refine less_of_setup caller ?_ ?_
      · rintro rfl
        exact ⟨rfl, rfl, by simp [WorkerPc.popRank]⟩
      · rintro rest rfl
        exact ⟨rfl, by simp [WorkerPc.distance]⟩
  | declared _ caller channel queueProps queueName =>
      refine less_of_setup caller ?_ ?_
      · rintro rfl
        exact ⟨rfl, rfl, by simp [WorkerPc.popRank]⟩
      · rintro rest rfl
        exact ⟨rfl, by simp [WorkerPc.distance]⟩
  | bound _ caller channel queueName =>
      refine less_of_setup caller ?_ ?_
      · rintro rfl
        exact ⟨rfl, rfl, by simp [WorkerPc.popRank]⟩
      · rintro rest rfl
        exact ⟨rfl, by simp [WorkerPc.distance]⟩
  | consumed _ caller channel queueName =>
      refine less_of_setup caller ?_ ?_
      · rintro rfl
        exact ⟨rfl, rfl, by simp [WorkerPc.popRank, afterSetup]⟩
      · rintro rest rfl
        have hless := distance_afterSetup .allGood (.startUp rest) channel 0
        refine ⟨rfl, hless.trans ?_⟩
        simp [WorkerPc.distance]
  | pushed _ caller channel code hnext =>
      have hpushing : (WorkerPc.setupPush caller channel code).pushing = true := by
        cases caller <;> rfl
      exact less_of_pushing hpushing (distance_afterSetup code caller channel 0)

end SteadyGoto

/-! ### A worker on its way to the next list -/

theorem recoveryRank_le (pc : WorkerPc) (n : ℕ) : pc.recoveryRank ≤ pc.distance n + 4 := by
  cases pc with
  | setupOpen caller | setupProperties caller | setupDeclare caller | setupBind caller
  | setupConsume caller | setupPush caller =>
      cases caller <;> simp [WorkerPc.recoveryRank, WorkerPc.distance]
  | _ => simp [WorkerPc.recoveryRank, WorkerPc.distance]

/-- The places on the way from the head of the loop to the list. -/
def WorkerPc.beforeList : WorkerPc → Bool
  | .loopTest | .connectedTest | .connect | .startEmpty | .startList => true
  | _ => false

theorem recoveryRank_eq {pc : WorkerPc} (h : pc.beforeList = false) (n : ℕ) :
    pc.recoveryRank = pc.distance n + 4 := by
  cases pc with
  | setupOpen caller | setupProperties caller | setupDeclare caller | setupBind caller
  | setupConsume caller | setupPush caller => cases caller <;> rfl
  | loopTest | connectedTest | connect | startEmpty | startList => cases h
  | _ => rfl

/-- Elsewhere the worker comes closer to the head of the loop. -/
theorem WorkerMove.recoveryRank {input : WorkerInput} (hmove : WorkerMove s input s')
    (hstatus : s'.status = .running) (hplace : s.worker.beforeList = false) :
    s'.worker.recoveryRank < s.worker.recoveryRank := by
  have hhead : s.worker = .loopTest → s.threadRunning = false := by
    intro hpc
    rw [hpc] at hplace
    cases hplace
  rw [recoveryRank_eq hplace s.channelHandler.getChannelList.length]
  have hless := hmove.distance hstatus hhead
  have hle := recoveryRank_le s'.worker s'.channelHandler.getChannelList.length
  omega

/-- The list is taken next, or comes closer. -/
theorem Serving.recovers (h : Serving s) {input : WorkerInput} (hhealthy : Healthy s input)
    (hstep : step s (.worker input) = some s') :
    recovering s' = false ∨ s'.worker.recoveryRank < s.worker.recoveryRank := by
  have hserving : Serving s' := by
    have haction : healthyWorker s (.worker input) := hhealthy
    exact h.next (.inl haction) hstep
  have hsession := sessionFacts_reachable h.oneControl
  have hfacts := workerFacts_reachable h.oneControl h.status
  have hmove : WorkerMove s input s' := by
    rw [step, if_pos h.status] at hstep
    exact workerMove_of_step hstep
  have helsewhere := hmove.recoveryRank hserving.status
  by_cases hplace : s.worker.beforeList = false
  · exact .inr (helsewhere hplace)
  cases hmove with
  | goto next hnext =>
      cases hnext with
      | loopOn hpc => exact .inr (by simp [hpc, WorkerPc.recoveryRank])
      | loopEnd _ hrunning => cases hrunning.symm.trans h.threadRunning
      | foundConnected hpc hup =>
          left
          exact recovering_eq_false.mpr ⟨hup, rfl, rfl⟩
      | foundClosed hpc => exact .inr (by simp [hpc, WorkerPc.recoveryRank])
      | listed hpc =>
          have hup : isConnected s = true := hfacts.unlisted (by rw [hpc]; rfl)
          have hclosing : (nextChannel .allGood input.order).closing = false := by
            rcases nextChannel_cases .allGood input.order with ⟨-, h⟩ | ⟨-, h⟩ | ⟨_, _, -, h⟩ <;>
              rw [h] <;> rfl
          left
          exact recovering_eq_false.mpr ⟨hup, hclosing, unlisted_nextChannel _ _⟩
      | pullOn hpc | pullOff hpc | failedRunning hpc | failedStopped hpc | pendingSome hpc
      | pendingNone hpc => simp [hpc, WorkerPc.beforeList] at hplace
  | connected base hpc => exact .inr (by simp [hpc, WorkerPc.recoveryRank])
  | connectFailed base hpc hbase hcode =>
      -- with these answers `Connect` does not fail
      have hplain := (hsession.sound.baseSound base hbase).plain
      obtain ⟨-, -, -, -, hsame⟩ := connect_handle hplain s.handles input.connect
      obtain ⟨-, hup, -⟩ := connect_of_succeeds hplain s.handles hhealthy.1
      rw [hsame hcode, ← isConnected_of_connection hbase, hsession.down hpc] at hup
      cases hup
  | emptied hpc => exact .inr (by simp [hpc, WorkerPc.recoveryRank])
  | crash | refused => cases hserving.status
  | closed base hpc => rcases hpc with hpc | hpc <;> simp [hpc, WorkerPc.beforeList] at hplace
  | opened caller channel base hpc | propertiesRead caller channel hpc
  | declared caller channel base queue hpc | bound caller channel base queue hpc
  | consumed caller channel base queue hpc | consumeFailed caller channel base queue hpc
  | pushed caller channel code hpc
  | released base hpc | pulled base next hpc | processed envelope hpc | popped channel rest hpc =>
      simp [hpc, WorkerPc.beforeList] at hplace

/-! ### A channel of the table -/

/-- A channel of the table that no `Subscribe` is about to push. -/
structure Settling (c : Int) (s : ConsumerState Callback) : Prop where
  serving : Serving s
  known : c ∈ s.channelHandler.getChannelList
  pushed : c ∉ inFlight s

/-- A channel that a step of a `Subscribe` brings in flight is new in the table. -/
theorem SubscribeMove.inFlight {k : Nat} {pc : SubscribePc Callback}
    {rest : List (SubscribePc Callback)} {c : Int} (hhandler : HandlerFacts s.channelHandler)
    (hpick : pick s.subscribes k = some (pc, rest))
    (hmove : SubscribeMove { s with subscribes := rest } pc s')
    (hknown : c ∈ s.channelHandler.getChannelList) (hc : c ∈ Consumer.inFlight s') :
    c ∈ Consumer.inFlight s := by
  rw [mem_inFlight_of_pick hpick]
  cases hmove with
  | known | notRunning | pushed => exact .inr hc
  | added call hchannel =>
      obtain ⟨hfresh, -⟩ := hhandler.getChannelList_added hchannel
      rcases List.mem_cons.mp hc with rfl | hrest
      · exact absurd hknown hfresh
      · exact .inr hrest
  | propertiesSet channel | running channel =>
      rcases List.mem_cons.mp hc with rfl | hrest
      · exact .inl rfl
      · exact .inr hrest

/-- A `Subscribe` takes no channel from the table. -/
theorem SubscribeMove.getChannelList {pc : SubscribePc Callback}
    (hhandler : HandlerFacts s.channelHandler) (hmove : SubscribeMove s pc s') :
    s.channelHandler.getChannelList ⊆ s'.channelHandler.getChannelList := by
  cases hmove with
  | known call hchannel =>
      simp only [returnTo, hhandler.getChannelList_refused hchannel]
      exact fun _ h => h
  | added call hchannel =>
      simp only [subscribeGoesOn, (hhandler.getChannelList_added hchannel).2]
      exact List.subset_append_left _ _
  | propertiesSet channel queueProps =>
      simp only [subscribeGoesOn, getChannelList_setQueueProperties]
      exact fun _ h => h
  | _ => exact fun _ h => h

theorem Settling.next {c : Int} (h : Settling c s) {action : Action Callback}
    (haction : healthyWorker s action ∨ subscribing s action) (hstep : step s action = some s') :
    Settling c s' := by
  have hserving := h.serving.next haction hstep
  have hhandler := (built_reachable h.serving.reached).facts
  obtain ⟨-, hmove⟩ := move_of_step hstep
  cases hmove with
  | worker input _ hmove =>
      refine ⟨hserving, hmove.getChannelList ▸ h.known, ?_⟩
      rw [inFlight, hmove.frame.2.2.2.1]
      exact h.pushed
  | subscribeRefused => exact ⟨hserving, h.known, h.pushed⟩
  | subscribeBegins => exact ⟨hserving, h.known, h.pushed⟩
  | subscribe k pc rest _ hpick hmove =>
      refine ⟨hserving, ?_, fun hc => h.pushed (hmove.inFlight hhandler hpick h.known hc)⟩
      exact SubscribeMove.getChannelList (s := { s with subscribes := rest }) hhandler hmove h.known
  | begin call => rcases haction with h | h <;> cases h
  | control k reply => rcases haction with h | h <;> cases h

/-- What a `Subscribe` changes does not concern a channel that it does not push. -/
theorem Settling.subscribing {c : Int} (h : Settling c s) {action : Action Callback}
    (haction : subscribing s action) (hstep : step s action = some s') :
    recovering s' = recovering s ∧ s'.worker = s.worker ∧
      (s'.pendingChannels = s.pendingChannels ∨
        ∃ d, c ≠ d ∧ s'.pendingChannels = s.pendingChannels ++ [d]) := by
  obtain ⟨-, hmove⟩ := move_of_step hstep
  cases hmove with
  | worker => cases haction
  | subscribeRefused => exact ⟨rfl, rfl, .inl rfl⟩
  | subscribeBegins => exact ⟨rfl, rfl, .inl rfl⟩
  | subscribe k pc rest _ hpick hmove =>
      obtain ⟨hconn, -, -, hworker, -, -, -⟩ := hmove.frame
      refine ⟨by simp [recovering, isConnected, hconn, hworker], hworker, ?_⟩
      rcases hmove.pending with hsame | ⟨d, rfl, hsame⟩
      · exact .inl hsame
      · refine .inr ⟨d, ?_, hsame⟩
        rintro rfl
        exact h.pushed ((mem_inFlight_of_pick hpick c).mpr (.inl rfl))
  | begin call => cases haction
  | control k reply => cases haction

/-- A settled channel stays settled. -/
theorem Settled.next {c : Int} (hsettled : Settled c s) (h : Settling c s)
    {action : Action Callback} (haction : healthyWorker s action ∨ Consumer.subscribing s action)
    (hstep : step s action = some s') : Settled c s' := by
  rcases haction with haction | haction
  · cases action with
    | worker input =>
        obtain ⟨hconn, -, -, hgoto⟩ := h.serving.steady hsettled.steady haction hstep
        obtain ⟨hup, -, -⟩ := recovering_eq_false.mp hsettled.steady
        obtain ⟨hclosing, hunlisted⟩ := hgoto.stays
        obtain ⟨hpending, hhands⟩ := hgoto.keepsAway hsettled.pending hsettled.hands
        refine ⟨recovering_eq_false.mpr ⟨?_, hclosing, hunlisted⟩, hpending, hhands⟩
        rwa [isConnected, hconn]
    | _ => cases haction
  · obtain ⟨hsame, hworker, hpending⟩ := h.subscribing haction hstep
    refine ⟨hsame.trans hsettled.steady, ?_, hworker ▸ hsettled.hands⟩
    rcases hpending with heq | ⟨d, hne, heq⟩
    · rw [heq]
      exact hsettled.pending
    · rw [heq]
      simp [hsettled.pending, hne]

/-- The worker brings a channel closer to being settled. -/
theorem Settling.less {c : Int} (h : Settling c s) (hnot : ¬Settled c s)
    {action : Action Callback} (haction : healthyWorker s action)
    (hstep : step s action = some s') : settleMeasure c s' < settleMeasure c s := by
  cases action with
  | worker input =>
      cases hrecovering : recovering s with
      | true =>
          unfold settleMeasure
          rw [hrecovering, if_pos rfl]
          split
          · next hstill =>
              have hless := (h.serving.recovers haction hstep).resolve_left (by simp [hstill])
              refine Prod.Lex.toLex_lt_toLex.mpr (.inr ⟨rfl, ?_⟩)
              exact Prod.Lex.toLex_lt_toLex.mpr (.inl hless)
          · exact steadyMeasure_lt c s'.worker s'.pendingChannels _
      | false =>
          obtain ⟨hconn, -, -, hgoto⟩ := h.serving.steady hrecovering haction hstep
          obtain ⟨hup, -, -⟩ := recovering_eq_false.mp hrecovering
          obtain ⟨hclosing, hunlisted⟩ := hgoto.stays
          have hsteady : recovering s' = false := by
            refine recovering_eq_false.mpr ⟨?_, hclosing, hunlisted⟩
            rwa [isConnected, hconn]
          have hc : c ∈ s.pendingChannels ∨ c ∈ s.worker.channels := by
            by_contra hgone
            rw [not_or] at hgone
            exact hnot ⟨hrecovering, hgone.1, hgone.2⟩
          simp only [settleMeasure, hrecovering, hsteady, Bool.false_eq_true, if_false]
          exact hgoto.less hc
  | _ => cases haction

/-- A `Subscribe` does not push it back. -/
theorem Settling.not_more {c : Int} (h : Settling c s) {action : Action Callback}
    (haction : Consumer.subscribing s action) (hstep : step s action = some s') :
    settleMeasure c s' ≤ settleMeasure c s := by
  obtain ⟨hsame, hworker, hpending⟩ := h.subscribing haction hstep
  have hqueue : upToLast c s'.pendingChannels = upToLast c s.pendingChannels := by
    rcases hpending with heq | ⟨d, hne, heq⟩
    · rw [heq]
    · rw [heq, upToLast_append_of_ne hne]
  simp only [settleMeasure, steadyMeasure, hsame, hworker, hqueue]
  exact le_refl _

/-- A settled channel consumes. -/
theorem Settling.consumes {c : Int} (h : Settling c s) (hsettled : Settled c s) :
    Consumes s c := by
  obtain ⟨hup, hclosing, hunlisted⟩ := recovering_eq_false.mp hsettled.steady
  have hbusy : ¬Exempt s := by
    rintro (hdown | hidle | ⟨pc, hpc, -⟩ | hunsettled)
    · cases hdown.symm.trans hup
    · cases hidle.symm.trans h.serving.threadRunning
    · simp [h.serving.controls] at hpc
    · rcases closing_or_unlisted_of_unsettled hunsettled with hplace | hplace
      · cases hplace.symm.trans hclosing
      · cases hplace.symm.trans hunlisted
  rcases consumesOrWaits_reachable h.serving.reached h.serving.status hbusy c h.known with
    (hconsumes | hpending | hhands) | hflight
  · exact hconsumes
  · exact absurd hpending hsettled.pending
  · exact absurd hhands hsettled.hands
  · exact absurd hflight h.pushed

end Consumer
end HareCpp
