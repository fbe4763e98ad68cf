import HareCpp.Library.FairRun
import HareCpp.Outstanding
import HareCpp.Producer.Lifecycle

/-!
# Queued messages get out

A producer that runs, on a broker that answers, publishes every message that is in
its queue, wherever the worker stands, connected or not, and however many messages
other threads send in the meantime.  Only `clearActiveSendQueue` takes messages
away unpublished, after the connection was given up (`WorkerPc.givesUp`); where the
broker answers the worker does not get there.

While the connection is down the worker comes closer to `Connect`; after that the
front of the queue is published with every round of the loop, and `Send` pushes at
the back.

* `WorkerFacts` — what is known of a worker that relies on the connection or on the
  queue, and after its return.
* `Serving.sends` — the worker comes closer to `Connect`, or to publishing the front.
* `Sending.published` — a message that has left the queue and was not dropped was
  published.
* `queued_messages_published` — in every run in which the worker keeps moving and
  the broker answers, what was pushed and not dropped is published from some time
  on.
-/

namespace HareCpp
namespace Producer

open Library TransitionSystem ConnectionBase

variable {s s' : ProducerState}

/-! ### The worker -/

/-- The worker has found the connection up and relies on it. -/
def WorkerPc.reliesUp : WorkerPc → Bool
  | .guardRunning | .openChannels | .sizeTest | .front | .publish _ => true
  | _ => false

/-- What is known of the worker at some of its places. -/
structure WorkerFacts (s : ProducerState) : Prop where
  up : s.worker.reliesUp = true → isConnected s = true
  front : s.worker.holdsFront = true → s.sendQueue ≠ []
  returned : s.worker = .returned → s.threadRunning = false

/-- The worker gets to such a place by a test of the connection, or from another. -/
theorem WorkerMove.reliesUp {input : WorkerInput} (hmove : WorkerMove s input s')
    (hup : s.worker.reliesUp = true → isConnected s = true)
    (hplace : s'.worker.reliesUp = true) : isConnected s' = true := by
  cases hmove with
  | goto next hnext =>
      cases hnext with
      | guardConnected _ hconnected | publishOn _ hconnected => exact hconnected
      | guardRunning hpc | sizeSome hpc | front object rest hpc => exact hup (by rw [hpc]; rfl)
      | clearEmpty caller => cases caller <;> cases hplace
      | _ => cases hplace
  | crash => exact hup hplace
  | published base object next hpc hbase hnext =>
      rcases hnext with ⟨-, rfl⟩ | ⟨-, rfl⟩ | ⟨-, -, rfl⟩ <;> cases hplace
  | _ => cases hplace

/-- A step of the worker keeps the facts. -/
theorem WorkerFacts.worker {input : WorkerInput} (hfacts : WorkerFacts s)
    (hmove : WorkerMove s input s') (hstatus : s'.status = .running) : WorkerFacts s' := by
  refine ⟨hmove.reliesUp hfacts.up, hmove.holdsFront hfacts.front, ?_⟩
  intro hpc
  rw [hmove.frame.2.1]
  cases hmove with
  | goto next hnext =>
      cases hnext with
      | loopEnd _ hrunning => exact hrunning
      | clearEmpty caller => cases caller <;> cases hpc
      | _ => cases hpc
  | crash => cases hstatus
  | published base object next _ hbase hnext =>
      rcases hnext with ⟨-, rfl⟩ | ⟨-, rfl⟩ | ⟨-, -, rfl⟩ <;> cases hpc
  | _ => cases hpc

/-- While the worker is alive, a control call neither uses the connection nor takes
messages out of the queue. -/
theorem CallFacts.control_alone {input : ControlInput} {pc : ControlPc} (hcall : CallFacts s pc)
    (hmove : ControlMove s input pc s') (halive : s.worker ≠ .none) :
    s'.connection = s.connection ∧ s'.sendQueue = s.sendQueue := by
  have hphase := hcall.phase
  cases hmove with
  | closed _ next base hbase hpc =>
      rcases hpc with ⟨caller, code, rfl, -⟩ | ⟨rfl, -⟩ <;> exact absurd hphase.2 halive
  | dropped | initConnection => exact absurd hphase.2 halive
  | destroyed hworker => exact absurd hworker halive
  | _ => exact ⟨rfl, rfl⟩

/-- A control step starts a worker where there is none, joins one that has returned,
and leaves it alone otherwise. -/
theorem ControlMove.worker {input : ControlInput} {pc : ControlPc}
    (hmove : ControlMove s input pc s') :
    s'.worker = s.worker ∨ s'.worker = .loopTest ∨ s'.worker = .none := by
  cases hmove with
  | spawn => exact .inr (.inl rfl)
  | joined => exact .inr (.inr rfl)
  | _ => exact .inl rfl

/-- A step of the control thread keeps the facts. -/
theorem WorkerFacts.control {input : ControlInput} {pc : ControlPc} (hfacts : WorkerFacts s)
    (hcall : CallFacts s pc) (hmove : ControlMove s input pc s') : WorkerFacts s' := by
  rcases hmove.worker with hsame | hnew | hnew
  · by_cases halive : s.worker = .none
    · rw [halive] at hsame
      refine ⟨?_, ?_, ?_⟩ <;> rw [hsame] <;> rintro ⟨⟩
    · obtain ⟨hconn, hqueue⟩ := hcall.control_alone hmove halive
      refine ⟨?_, ?_, ?_⟩
      · rw [hsame, isConnected, hconn]
        exact hfacts.up
      · rw [hsame, hqueue]
        exact hfacts.front
      · rw [hsame]
        intro hpc
        have hidle := hfacts.returned hpc
        cases hmove with
        | startSet restarting =>
            -- `Start` does not get here with a worker
            exact absurd hcall.phase.2 halive
        | stopSet | initRunning => rfl
        | _ => exact hidle
  · refine ⟨?_, ?_, ?_⟩ <;> rw [hnew] <;> rintro ⟨⟩
  · refine ⟨?_, ?_, ?_⟩ <;> rw [hnew] <;> rintro ⟨⟩

/-- The facts hold while a run with one control thread goes on. -/
theorem workerFacts_reachable (hs : system.ReachableUnder OneControl s) :
    s.status = .running → WorkerFacts s := by
  refine hs.induction (fun s => s.status = .running → WorkerFacts s) ?_ ?_
  · exact fun _ => ⟨by rintro ⟨⟩, by rintro ⟨⟩, by rintro ⟨⟩⟩
  · intro s action s' hreach _ hfacts hstep hstatus'
    obtain ⟨hstatus, hmove⟩ := move_of_step hstep
    have hfacts := hfacts hstatus
    cases hmove with
    | worker input _ hmove => exact hfacts.worker hmove hstatus'
    | user _ _ hmove =>
        obtain ⟨hconn, -, hthread, hworker, -, -, -⟩ := hmove.frame
        refine ⟨?_, ?_, ?_⟩
        · rw [hworker, isConnected, hconn]
          exact hfacts.up
        · rw [hworker]
          exact fun hplace => hmove.defined.2 (hfacts.front hplace)
        · rw [hworker, hthread]
          exact hfacts.returned
    | begin call => exact ⟨hfacts.up, hfacts.front, hfacts.returned⟩
    | control k input pc rest _ hpick hmove =>
        have hthreads := threadFacts_reachable hreach hstatus
        obtain ⟨hcontrols, rfl⟩ := hthreads.only hpick
        have heq : goOn { s with controls := [] } pc = s := by
          rw [goOn, ← hcontrols]
        have hcall : CallFacts { s with controls := [] } pc :=
          ThreadFacts.callFacts (heq ▸ hthreads) rfl
        have hsame : WorkerFacts { s with controls := [] } :=
          ⟨hfacts.up, hfacts.front, hfacts.returned⟩
        exact hsame.control hcall hmove

/-! ### A broker that answers -/

/-- `Connect` succeeds, no request loses the connection, and publishing succeeds. -/
structure Healthy (input : WorkerInput) : Prop where
  connect : ConnectReplies.Succeeds input.connect
  channels : ∀ name, serverFailure (decodeRpcReply (input.channels name).openReply) = false ∧
    serverFailure (decodeRpcReply (input.channels name).declareReply) = false
  publish : publishCode input.publishStatus = .allGood

/-- The steps of a worker on a broker that answers. -/
def healthyWorker (_ : ProducerState) : Action → Prop
  | .worker input => Healthy input
  | _ => False

/-- The steps of the threads that call `Send` and `DeclareExchange`. -/
def sending (_ : ProducerState) : Action → Prop
  | .declareExchange .. | .send _ | .sendPush _ => True
  | _ => False

/-- A running producer that is not being stopped. -/
structure Serving (s : ProducerState) : Prop where
  reached : system.ReachableUnder OneControl s
  status : s.status = .running
  threadRunning : s.threadRunning = true
  controls : s.controls = []

/-- The worker is alive. -/
theorem Serving.alive (h : Serving s) : s.worker ≠ .none := by
  have hphase := (threadFacts_reachable h.reached h.status).phase
  rw [h.controls] at hphase
  exact hphase.mp h.threadRunning

/-- The producer has a connection object. -/
theorem Serving.connection (h : Serving s) : s.connection ≠ none :=
  ((threadFacts_reachable h.reached h.status).workerAlive h.alive).1

/-- Neither the worker nor a `Send` ends the service. -/
theorem Serving.next (h : Serving s) {action : Action}
    (haction : healthyWorker s action ∨ sending s action) (hstep : step s action = some s') :
    Serving s' := by
  have hone : OneControl s action := by
    cases action with
    | begin | control => rcases haction with h | h <;> cases h
    | _ => trivial
  have hreached : system.ReachableUnder OneControl s' := .step h.reached hone hstep
  obtain ⟨hstatus, hmove⟩ := move_of_step hstep
  cases hmove with
  | worker input _ hmove =>
      obtain ⟨hcontrols, hthread, -⟩ := hmove.frame
      have hworker : workerStep s input = some s' := by
        rwa [step, if_pos hstatus] at hstep
      have hdefined := workerStep_defined h.connection
        (workerFacts_reachable h.reached h.status).front hworker
      exact ⟨hreached, hdefined.trans h.status, hthread.trans h.threadRunning,
        hcontrols.trans h.controls⟩
  | user _ _ hmove =>
      obtain ⟨-, -, hthread, -, hcontrols, -, -⟩ := hmove.frame
      exact ⟨hreached, hmove.defined.1.trans h.status, hthread.trans h.threadRunning,
        hcontrols.trans h.controls⟩
  | begin call => rcases haction with h | h <;> cases h
  | control k input => rcases haction with h | h <;> cases h

/-- The worker always has a step on a broker that answers. -/
theorem Serving.exists_step (h : Serving s) :
    ∃ action s', healthyWorker s action ∧ step s action = some s' ∧ Serving s' := by
  let input : WorkerInput := { order := s.exchangeList }
  have hhealthy : healthyWorker s (.worker input) :=
    ⟨⟨rfl, rfl, rfl⟩, fun _ => ⟨rfl, rfl⟩, rfl⟩
  have hreturned : s.worker ≠ .returned := by
    intro hpc
    have hidle := (workerFacts_reachable h.reached h.status).returned hpc
    rw [h.threadRunning] at hidle
    cases hidle
  obtain ⟨s', hstep⟩ : ∃ s', workerStep s input = some s' := by
    refine Option.ne_none_iff_exists'.mp ?_
    cases hpc : s.worker with
    | none => exact absurd hpc h.alive
    | returned => exact absurd hpc hreturned
    | openChannels =>
        have hperm : input.order.isPerm s.exchangeList = true :=
          List.isPerm_iff.mpr (List.Perm.refl _)
        simp only [workerStep, hpc, if_pos hperm]
        grind
    | _ =>
        simp only [workerStep, hpc]
        grind
  have hstep' : step s (.worker input) = some s' := by
    rw [step, if_pos h.status]
    exact hstep
  exact ⟨.worker input, s', hhealthy, hstep', h.next (.inl hhealthy) hstep'⟩

/-- `connectChannels` does not lose the connection. -/
theorem connectLoop_of_healthy {base : ConnectionBase} (hup : base.isConnected = true)
    {replies : Bytes → ChannelReplies}
    (hreplies : ∀ name, serverFailure (decodeRpcReply (replies name).openReply) = false ∧
      serverFailure (decodeRpcReply (replies name).declareReply) = false)
    (entries : ExchangeList) (allGood : Bool) :
    (connectLoop base replies entries allGood).1 ≠ .serverFailure := by
  induction entries generalizing allGood with
  | nil => simp [connectLoop]
  | cons entry rest ih =>
      obtain ⟨name, it⟩ := entry
      obtain ⟨hopen, hdeclare⟩ := hreplies name
      have hopened : (base.openChannel it.channel (replies name).openReply
          (replies name).closeOkStatus).code = decodeRpcReply (replies name).openReply := by
        simp [openChannel, hup]
      have hdeclared : (base.declareExchange it.channel name it.type
          (replies name).declareReply).code = decodeRpcReply (replies name).declareReply := by
        simp [ConnectionBase.declareExchange, hup]
      rw [connectLoop]
      simp only [hopened, hdeclared, hopen, hdeclare, Bool.false_eq_true, if_false]
      split
      · exact ih allGood
      · split
        · split
          · exact ih allGood
          · exact ih allGood
        · exact ih false

/-! ### The way to the next message -/

/-- The connection is given up, and the queue with it. -/
def WorkerPc.givesUp : WorkerPc → Bool
  | .close _ | .clearTest _ | .clearFront _ | .clearPop _ => true
  | _ => false

/-- The steps to `Connect`. -/
def WorkerPc.connectRank : WorkerPc → ℕ
  | .connectedTest => 1
  | .loopTest => 2
  | .publishTest | .popPublished => 3
  | .guardConnected => 4
  | .channelsTest => 5
  | _ => 0

/-- The steps to the removal of the front, once it is published. -/
def WorkerPc.publishRank : WorkerPc → ℕ
  | .publish _ => 1
  | .front => 2
  | .sizeTest => 3
  | .publishTest => 4
  | .openChannels => 5
  | .guardRunning => 6
  | .guardConnected => 7
  | .channelsTest => 8
  | .connectedTest => 9
  | .loopTest => 10
  | _ => 0

/-- How far a message is from leaving the queue. -/
def sendMeasure (object : Nat) (s : ProducerState) : ℕ ×ₗ ℕ ×ₗ ℕ :=
  if isConnected s then toLex (0, toLex (upToLast object s.sendQueue, s.worker.publishRank))
  else toLex (1, toLex (s.worker.connectRank, 0))

/-- On a connection that stays up, with the queue left alone. -/
theorem sendMeasure_lt_of_up {object : Nat} (hup : isConnected s = true)
    (hup' : isConnected s' = true) (hqueue : s'.sendQueue = s.sendQueue)
    (hrank : s'.worker.publishRank < s.worker.publishRank) :
    sendMeasure object s' < sendMeasure object s := by
  unfold sendMeasure
  rw [if_pos hup, if_pos hup', hqueue]
  refine Prod.Lex.toLex_lt_toLex.mpr (.inr ⟨rfl, ?_⟩)
  exact Prod.Lex.toLex_lt_toLex.mpr (.inr ⟨rfl, hrank⟩)

/-- While the connection is down. -/
theorem sendMeasure_lt_of_down {object : Nat} (hdown : isConnected s = false)
    (hdown' : isConnected s' = false) (hrank : s'.worker.connectRank < s.worker.connectRank) :
    sendMeasure object s' < sendMeasure object s := by
  unfold sendMeasure
  simp only [hdown, hdown', Bool.false_eq_true, if_false]
  refine Prod.Lex.toLex_lt_toLex.mpr (.inr ⟨rfl, ?_⟩)
  exact Prod.Lex.toLex_lt_toLex.mpr (.inl hrank)

/-- With the connection. -/
theorem sendMeasure_lt_of_connected {object : Nat} (hdown : isConnected s = false)
    (hup' : isConnected s' = true) : sendMeasure object s' < sendMeasure object s := by
  unfold sendMeasure
  rw [if_pos hup', if_neg (by simp [hdown])]
  exact Prod.Lex.toLex_lt_toLex.mpr (.inl Nat.zero_lt_one)

/-- With the front of the queue. -/
theorem sendMeasure_lt_of_popped {object front : Nat} {rest : List Nat}
    (hconn : s'.connection = s.connection) (hup : isConnected s = true)
    (hqueue : s.sendQueue = front :: rest) (hqueue' : s'.sendQueue = rest)
    (hmem : object ∈ s.sendQueue) : sendMeasure object s' < sendMeasure object s := by
  have hup' : isConnected s' = true := by
    rw [isConnected, hconn]
    exact hup
  unfold sendMeasure
  rw [if_pos hup, if_pos hup', hqueue', hqueue]
  refine Prod.Lex.toLex_lt_toLex.mpr (.inr ⟨rfl, ?_⟩)
  exact Prod.Lex.toLex_lt_toLex.mpr (.inl (upToLast_lt_cons (hqueue ▸ hmem)))

/-- A `Send` pushes at the back, and the worker stays where it is. -/
theorem sendMeasure_le_of_pushed {object pushed : Nat} (hconn : s'.connection = s.connection)
    (hworker : s'.worker = s.worker) (hne : object ≠ pushed)
    (hqueue : s'.sendQueue = s.sendQueue ++ [pushed]) :
    sendMeasure object s' ≤ sendMeasure object s := by
  unfold sendMeasure
  rw [isConnected, hconn, ← isConnected, hworker, hqueue, upToLast_append_of_ne hne]

/-! ### A worker whose requests succeed -/

/-- A test moves a worker that has not given up on: towards the front of the queue, or
towards `Connect`. -/
theorem Serving.closer (h : Serving s) (hkeeps : s.worker.givesUp = false) {next : WorkerPc}
    (hnext : WorkerGoto s next) :
    next.givesUp = false ∧
      (isConnected s = true → s.sendQueue ≠ [] → next.publishRank < s.worker.publishRank) ∧
      (isConnected s = false → next.connectRank < s.worker.connectRank) := by
  have hup := (workerFacts_reachable h.reached h.status).up
  have hrelies : isConnected s = false → s.worker.reliesUp = false := by
    intro hdown
    by_contra hplace
    exact absurd (hup (by simpa using hplace)) (by simp [hdown])
  cases hnext with
  | loopEnd _ hrunning | guardStopped _ hrunning => cases hrunning.symm.trans h.threadRunning
  | clearEmpty caller hpc | clearMore caller hpc | clearFront caller hpc =>
      simp [hpc, WorkerPc.givesUp] at hkeeps
  | loopOn hpc | channelsOff hpc =>
      rw [hpc]
      exact ⟨rfl, fun _ _ => by decide, fun _ => by decide⟩
  | isConnected hpc hconnected | guardConnected hpc hconnected | publishOn hpc hconnected =>
      rw [hpc]
      refine ⟨rfl, fun _ _ => by decide, ?_⟩
      intro hdown
      cases hdown.symm.trans hconnected
  | notConnected hpc hdown | guardNotConnected hpc hdown | publishOff hpc hdown =>
      rw [hpc]
      refine ⟨rfl, ?_, fun _ => by decide⟩
      intro hconnected
      cases hdown.symm.trans hconnected
  | guardRunning hpc | sizeSome hpc | front _ _ hpc =>
      refine ⟨rfl, ?_, ?_⟩
      · intro _ _
        simp [hpc, WorkerPc.publishRank]
      · intro hdown
        have hplace := hrelies hdown
        simp [hpc, WorkerPc.reliesUp] at hplace
  | sizeNone hpc hempty =>
      refine ⟨rfl, fun _ hqueue => absurd hempty hqueue, ?_⟩
      intro hdown
      have hplace := hrelies hdown
      simp [hpc, WorkerPc.reliesUp] at hplace

/-- A worker that has not given the connection up, on a broker that answers, does not
give it up, drops nothing, and comes closer to `Connect` or to publishing the
front. -/
theorem Serving.sends (h : Serving s) (hkeeps : s.worker.givesUp = false) {input : WorkerInput}
    (hhealthy : Healthy input) (hstep : Producer.step s (.worker input) = some s') :
    s'.worker.givesUp = false ∧ s'.made = s.made ∧ droppedObjects s' = droppedObjects s ∧
      (∀ object, object ∉ s.sendQueue → object ∉ s'.sendQueue) ∧
      ∀ object ∈ s.sendQueue, sendMeasure object s' < sendMeasure object s := by
  have hup := (workerFacts_reachable h.reached h.status).up
  have hdown := (connectedFacts_reachable h.reached).closed
  have hmove : WorkerMove s input s' := by
    rw [Producer.step, if_pos h.status] at hstep
    exact workerMove_of_step hstep
  -- on a connection that is up and stays up
  have hgoes : ∀ {t : ProducerState}, t.connection = s.connection → isConnected s = true →
      t.sendQueue = s.sendQueue → t.worker.publishRank < s.worker.publishRank →
      ∀ object ∈ s.sendQueue, sendMeasure object t < sendMeasure object s := by
    intro t hconn hconnected hqueue hrank object _
    have hconnected' : isConnected t = true := by
      rw [isConnected, hconn]
      exact hconnected
    exact sendMeasure_lt_of_up hconnected hconnected' hqueue hrank
  cases hmove with
  | goto next hnext =>
      obtain ⟨hgives, hpublish, hconnect⟩ := h.closer hkeeps hnext
      refine ⟨hgives, rfl, rfl, fun _ hout => hout, ?_⟩
      intro object hmem
      cases hconnected : isConnected s with
      | true =>
          exact sendMeasure_lt_of_up hconnected hconnected rfl
            (hpublish hconnected (List.ne_nil_of_mem hmem))
      | false => exact sendMeasure_lt_of_down hconnected hconnected (hconnect hconnected)
  | crash =>
      have hstatus := (h.next (.inl (show healthyWorker s (.worker input) from hhealthy))
        hstep).status
      cases hstatus
  | connected base hpc hbase hcode =>
      refine ⟨rfl, rfl, rfl, fun _ hout => hout, ?_⟩
      intro object _
      have hplain := (handleFacts_reachable h.reached).plain base hbase
      exact sendMeasure_lt_of_connected (hdown hpc) (connect_of_succeeds hplain s.handles
        hhealthy.connect).2.1
  | connectFailed base hpc hbase hcode =>
      exfalso
      have hplain := (handleFacts_reachable h.reached).plain base hbase
      have hopened := (connect_of_succeeds hplain s.handles hhealthy.connect).2.1
      have hsame := (connect_handle hplain s.handles input.connect).2.2.2.2 hcode
      have hclosed := hdown hpc
      rw [isConnected, hbase] at hclosed
      cases (hopened.symm.trans hsame).trans hclosed
  | looked hpc =>
      refine ⟨rfl, rfl, rfl, fun _ hout => hout, ?_⟩
      intro object _
      cases hconnected : isConnected s with
      | true =>
          exact sendMeasure_lt_of_up hconnected hconnected rfl (by simp [hpc, WorkerPc.publishRank])
      | false =>
          exact sendMeasure_lt_of_down hconnected hconnected
            (by simp [hpc, WorkerPc.connectRank])
  | openFailed base hpc _ hbase hloop =>
      exfalso
      have hconnected := hup (by rw [hpc]; rfl)
      rw [isConnected, hbase] at hconnected
      have hgood : ∀ {result}, (connectLoop base input.channels input.order true).1 = result →
          result ≠ .serverFailure := by
        rintro _ rfl
        exact connectLoop_of_healthy hconnected hhealthy.channels _ _
      exact hgood hloop rfl
  | opened base allGood hpc =>
      refine ⟨rfl, rfl, rfl, fun _ hout => hout, ?_⟩
      exact hgoes rfl (hup (by rw [hpc]; rfl)) rfl (by simp [hpc, WorkerPc.publishRank])
  | closed caller base hpc | dropped caller object rest hpc =>
      simp [hpc, WorkerPc.givesUp] at hkeeps
  | published base object next hpc hbase hnext =>
      have hconnected := hup (by rw [hpc]; rfl)
      have hgood : (base.publishMessage object (s.objects object) input.now
          input.publishStatus).1.code = .allGood := by
        rw [isConnected, hbase] at hconnected
        rcases publishMessage_cases base object (s.objects object) input.now
          input.publishStatus with ⟨hclosed, -⟩ | ⟨-, heq⟩
        · cases hclosed.symm.trans hconnected
        · rw [heq]
          exact hhealthy.publish
      rcases hnext with ⟨hfail, -⟩ | ⟨-, rfl⟩ | ⟨-, hbad, -⟩
      · rw [hgood] at hfail
        cases hfail
      · refine ⟨rfl, rfl, rfl, fun _ hout => hout, ?_⟩
        exact hgoes rfl hconnected rfl (by simp [hpc, WorkerPc.publishRank])
      · exact absurd hgood hbad
  | popped front rest hpc hqueue =>
      refine ⟨rfl, rfl, rfl, ?_, ?_⟩
      · intro object hout hmem
        exact hout (hqueue ▸ List.mem_cons_of_mem _ hmem)
      · intro object hmem
        cases hconnected : isConnected s with
        | true => exact sendMeasure_lt_of_popped rfl hconnected hqueue rfl hmem
        | false =>
            exact sendMeasure_lt_of_down hconnected hconnected
              (by simp [hpc, WorkerPc.connectRank])

/-! ### Every message in the queue -/

/-- A `Send` or a `DeclareExchange` leaves the queue as it is, or pushes a new object. -/
theorem UserMove.queue {action : Action} (hmove : UserMove s action s') :
    s.made ≤ s'.made ∧ droppedObjects s' = droppedObjects s ∧
      (s'.sendQueue = s.sendQueue ∨ s'.sendQueue = s.sendQueue ++ [s.made]) := by
  have htyped : ∀ exchange type, (addExchangeTyped s exchange type).1.made = s.made ∧
      droppedObjects (addExchangeTyped s exchange type).1 = droppedObjects s ∧
      (addExchangeTyped s exchange type).1.sendQueue = s.sendQueue := by
    intro exchange type
    unfold addExchangeTyped
    split <;> exact ⟨rfl, rfl, rfl⟩
  have hplain : ∀ exchange, (addExchange s exchange).1.made = s.made ∧
      droppedObjects (addExchange s exchange).1 = droppedObjects s ∧
      (addExchange s exchange).1.sendQueue = s.sendQueue := by
    intro exchange
    unfold addExchange
    split <;> exact ⟨rfl, rfl, rfl⟩
  cases hmove with
  | declareExchange exchange type =>
      obtain ⟨hmade, hdropped, hqueue⟩ := htyped exchange type
      exact ⟨hmade.ge, hdropped, .inl hqueue⟩
  | sendRefused call | send call =>
      obtain ⟨hmade, hdropped, hqueue⟩ := hplain call.exchange
      exact ⟨hmade.ge, hdropped, .inl hqueue⟩
  | push | pushFresh => exact ⟨Nat.le_succ _, rfl, .inr rfl⟩

/-- The message `object` was pushed and not dropped, by a producer that goes on
sending. -/
structure Sending (object : Nat) (s : ProducerState) : Prop where
  serving : Serving s
  keeps : s.worker.givesUp = false
  pushed : object < s.made
  kept : object ∉ droppedObjects s

/-- Whoever moves, the producer goes on sending, and the message stays out of the
queue once it has left it. -/
theorem Sending.next {object : Nat} (h : Sending object s) {action : Action}
    (haction : healthyWorker s action ∨ sending s action)
    (hstep : Producer.step s action = some s') :
    Sending object s' ∧ (object ∉ s.sendQueue → object ∉ s'.sendQueue) := by
  have hserving := h.serving.next haction hstep
  obtain ⟨-, hmove⟩ := move_of_step hstep
  cases hmove with
  | worker input _ hmove =>
      have hhealthy : Healthy input := by
        rcases haction with hhealthy | hfalse
        · exact hhealthy
        · cases hfalse
      obtain ⟨hkeeps, hmade, hdropped, hqueue, -⟩ := h.serving.sends h.keeps hhealthy hstep
      exact ⟨⟨hserving, hkeeps, hmade ▸ h.pushed, hdropped ▸ h.kept⟩, hqueue object⟩
  | user _ _ hmove =>
      obtain ⟨-, -, -, hworker, -, -, -⟩ := hmove.frame
      obtain ⟨hmade, hdropped, hqueue⟩ := hmove.queue
      refine ⟨⟨hserving, hworker ▸ h.keeps, h.pushed.trans_le hmade, hdropped ▸ h.kept⟩, ?_⟩
      intro hout
      rcases hqueue with heq | heq <;> rw [heq]
      · exact hout
      · have hne := h.pushed.ne
        simp [hout, hne]
  | begin call => rcases haction with h | h <;> cases h
  | control k input => rcases haction with h | h <;> cases h

/-- A message that has left the queue of such a producer was published. -/
theorem Sending.published {object : Nat} (h : Sending object s) (hout : object ∉ s.sendQueue) :
    object ∈ publishedObjects s := by
  have hcontent := contentFacts_reachable h.serving.reached
  have hordered := (queueFacts_reachable h.serving.reached).ordered
  have hpushed : object ∈ pushedObjects s := by
    rw [hcontent.numbered]
    exact List.mem_range.mpr h.pushed
  have hwaiting : object ∉ (outbox s).waiting := by
    intro hmem
    unfold Outbox.waiting at hmem
    split at hmem
    · exact hout (List.mem_of_mem_tail hmem)
    · exact hout hmem
  have hmem : object ∈ (outbox s).delivered ++ (outbox s).dropped ++ (outbox s).waiting :=
    hordered.perm.mem_iff.mpr hpushed
  simp only [List.mem_append] at hmem
  rcases hmem with (hpublished | hdropped) | hwaits
  · exact hpublished
  · exact absurd hdropped h.kept
  · exact absurd hwaits hwaiting

/-- The worker brings a message in the queue closer to its publication. -/
theorem Sending.less {object : Nat} (h : Sending object s) (hqueue : ¬object ∉ s.sendQueue)
    {action : Action} (haction : healthyWorker s action)
    (hstep : Producer.step s action = some s') : sendMeasure object s' < sendMeasure object s := by
  cases action with
  | worker input =>
      exact (h.serving.sends h.keeps haction hstep).2.2.2.2 object (not_not.mp hqueue)
  | _ => cases haction

/-- A `Send` does not push it back. -/
theorem Sending.not_more {object : Nat} (h : Sending object s) {action : Action}
    (haction : Producer.sending s action) (hstep : Producer.step s action = some s') :
    sendMeasure object s' ≤ sendMeasure object s := by
  obtain ⟨-, hmove⟩ := move_of_step hstep
  cases hmove with
  | user _ _ hmove =>
      obtain ⟨hconn, -, -, hworker, -, -, -⟩ := hmove.frame
      rcases hmove.queue.2.2 with hqueue | hqueue
      · simp only [sendMeasure, isConnected, hconn, hworker, hqueue]
        exact le_refl _
      · exact sendMeasure_le_of_pushed hconn hworker h.pushed.ne hqueue
  | _ => cases haction

/-- In a run in which the worker keeps moving and the broker answers, the message is
published from some time on. -/
theorem Sending.eventually_published {object : Nat} (h : Sending object s)
    (r : FairRun system healthyWorker sending s) :
    ∃ n, ∀ m, n ≤ m → object ∈ publishedObjects (r.state m) := by
  have hinv : ∀ n, Sending object (r.state n) :=
    r.invariant (Sending object) (fun t a t' ht ha hstep => (ht.next ha hstep).1) h
  obtain ⟨n, hn⟩ : ∃ n, object ∉ (r.state n).sendQueue :=
    r.eventually (Sending object) (fun t => object ∉ t.sendQueue) (sendMeasure object) hinv
      (fun t a t' ht hqueue ha hstep => ht.less hqueue ha hstep)
      (fun t a t' ht _ ha hstep => ht.not_more ha hstep)
  have hout : ∀ m, n ≤ m → Sending object (r.state m) ∧ object ∉ (r.state m).sendQueue := by
    intro m hnm
    refine r.invariant_from (fun t => Sending object t ∧ object ∉ t.sendQueue) ?_ ⟨hinv n, hn⟩ hnm
    rintro t a t' ⟨ht, hgone⟩ ha hstep
    exact ⟨(ht.next ha hstep).1, (ht.next ha hstep).2 hgone⟩
  exact ⟨n, fun m hnm => (hout m hnm).1.published (hout m hnm).2⟩

/-- From any state of a running producer that is not being stopped, in every infinite
run in which the worker keeps moving, the broker answers, and other threads send as
they like: once the worker is not clearing the queue, every message pushed so far
that has not been dropped is published from some time on. -/
theorem queued_messages_published (hs : system.ReachableUnder OneControl s)
    (hstatus : s.status = .running) (hrunning : s.threadRunning = true) (hidle : s.controls = [])
    (r : FairRun system healthyWorker sending s) (k : ℕ)
    (hkeeps : (r.state k).worker.givesUp = false) :
    ∃ n, ∀ m, n ≤ m → ∀ object ∈ pushedObjects (r.state k),
      object ∉ droppedObjects (r.state k) → object ∈ publishedObjects (r.state m) := by
  have hserving : Serving (r.state k) :=
    r.invariant Serving (fun _ _ _ ht ha hstep => ht.next ha hstep) ⟨hs, hstatus, hrunning, hidle⟩ k
  have heach : ∀ object ∈ (pushedObjects (r.state k)).filter (· ∉ droppedObjects (r.state k)),
      ∃ n, ∀ m, n ≤ m → object ∈ publishedObjects ((r.drop k).state m) := by
    intro object hobject
    obtain ⟨hpushed, hkept⟩ := List.mem_filter.mp hobject
    rw [(contentFacts_reachable hserving.reached).numbered, List.mem_range] at hpushed
    exact Sending.eventually_published ⟨hserving, hkeeps, hpushed, by simpa using hkept⟩ (r.drop k)
  refine r.eventually_always_of_drop (k := k) (fun t => ∀ object ∈ pushedObjects (r.state k),
    object ∉ droppedObjects (r.state k) → object ∈ publishedObjects t) ?_
  obtain ⟨n, hn⟩ := (r.drop k).eventually_always_all (fun object t => object ∈ publishedObjects t)
    _ heach
  refine ⟨n, fun m hm object hobject hkept => hn m hm object ?_⟩
  exact List.mem_filter.mpr ⟨hobject, by simpa using hkept⟩

/-- A producer that has lost its connection while publishing, dropped two messages, and
holds two more. -/
theorem queued_messages_published_run :
    ∃ s, (system.ReachableUnder OneControl s ∧ isConnected s = false ∧
        droppedObjects s = [0, 1] ∧ s.sendQueue = [2, 3]) ∧
      ∃ r : FairRun system healthyWorker sending s, (r.state 0).worker.givesUp = false ∧
        ∃ n, ∀ m, n ≤ m → ∀ object ∈ pushedObjects (r.state 0),
          object ∉ droppedObjects (r.state 0) → object ∈ publishedObjects (r.state m) := by
  obtain ⟨s, hs, htest⟩ := TransitionSystem.exists_reachableUnder_of_run (M := system) OneControl
    (List.flatten [startUp, sendHi, sendHi, connectAndOpen, workerSteps 3,
      [.worker { publishStatus := statusSocketError }], workerSteps 8, sendHi, sendHi])
    (fun s => decide (s.status = .running ∧ s.threadRunning = true ∧ s.controls = [] ∧
      isConnected s = false ∧ droppedObjects s = [0, 1] ∧ s.sendQueue = [2, 3] ∧
      s.worker.givesUp = false)) (by decide +kernel)
  obtain ⟨hstatus, hrunning, hcontrols, hdown, hdropped, hqueue, hkeeps⟩ :=
    of_decide_eq_true htest
  obtain ⟨r⟩ : Nonempty (FairRun system healthyWorker sending s) :=
    exists_fairRun Serving (fun _ h => h.exists_step) ⟨hs, hstatus, hrunning, hcontrols⟩
  have hstart : (r.state 0).worker.givesUp = false := by
    rw [r.start]
    exact hkeeps
  exact ⟨s, ⟨hs, hdown, hdropped, hqueue⟩, r, hstart,
    queued_messages_published hs hstatus hrunning hcontrols r 0 hstart⟩

end Producer
end HareCpp
