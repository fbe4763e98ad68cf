import HareCpp.ChannelState
import HareCpp.Consumer.Subscriptions
import HareCpp.Producer.Publishing

/-!
# The answer to a channel exception

When the broker closes a channel, `channel.close-ok` is what it expects next on
that channel.  `OpenChannel` sends it.  `DeclareExchange`, `DeclareQueue`,
`BindQueue` and `StartConsumption` do not, and their callers go on with the same
channel: `DeclareQueue` even returns `ALL_GOOD`.

* `close_ok_comes_next` — in the runs in which only `OpenChannel` gets channel
  exceptions, nothing is sent on a closed channel before `channel.close-ok`.
* `close_ok_is_missing` — an exception for `DeclareQueue` is followed by
  `queue.bind`, one for `DeclareExchange` by `basic.publish`.
-/

namespace HareCpp

open Library ConnectionBase

/-- The reply to a method on a channel is a channel exception. -/
def AmqpCall.excepted : AmqpCall → Bool
  | .exchangeDeclare _ _ _ _ reply | .channelOpen _ _ reply | .basicConsume _ _ _ reply
  | .queueDeclare _ _ _ reply | .queueBind _ _ _ _ _ reply =>
      decide (decodeRpcReply reply = .channelException)
  | _ => false

/-- What a call does to the wait for `channel.close-ok` on the channel `c` of the
connection `h`: any method sent on the channel ends it, unless it is excepted
itself. -/
def exceptionEffect (h : Option Nat) (c : Int) (call : AmqpCall) : Option Bool :=
  if call.session = some h ∧ call.onChannel = some c then some call.excepted else none

/-- The last method sent on the channel was answered with a channel exception. -/
def awaitsCloseOk (h : Option Nat) (c : Int) (calls : List AmqpCall) : Bool :=
  latest (exceptionEffect h c) calls

/-- `channel.close-ok`. -/
def AmqpCall.isCloseOk : AmqpCall → Bool
  | .sendCloseOk .. => true
  | _ => false

/-- A method sent on a channel that the broker has closed is `channel.close-ok`. -/
def CloseOkNext (past : List AmqpCall) (call : AmqpCall) : Prop :=
  ∀ h c, call.session = some h → call.onChannel = some c → awaitsCloseOk h c past = true →
    call.isCloseOk = true

instance (past : List AmqpCall) (call : AmqpCall) : Decidable (CloseOkNext past call) :=
  match hsession : call.session, hchannel : call.onChannel with
  | some h, some c =>
      decidable_of_iff (awaitsCloseOk h c past = true → call.isCloseOk = true)
        (by simp [CloseOkNext, hsession, hchannel])
  | none, _ => .isTrue (by simp [CloseOkNext, hsession])
  | some _, none => .isTrue (by simp [CloseOkNext, hchannel])

/-- No channel waits for `channel.close-ok` between two steps, and none has been
used while it waited. -/
structure HandshakeFacts (calls : List AmqpCall) : Prop where
  settled : ∀ h c, awaitsCloseOk h c calls = false
  guarded : Guarded CloseOkNext calls

theorem handshakeFacts_nil : HandshakeFacts [] := ⟨fun _ _ => rfl, trivial⟩

theorem awaitsCloseOk_cons (h : Option Nat) (c : Int) (call : AmqpCall) (calls : List AmqpCall) :
    awaitsCloseOk h c (call :: calls) =
      (exceptionEffect h c call).getD (awaitsCloseOk h c calls) :=
  latest_cons _ call calls

/-- Calls without a channel exception. -/
theorem HandshakeFacts.append {calls new : List AmqpCall} (hfacts : HandshakeFacts calls)
    (hnew : ∀ call ∈ new, call.excepted = false) : HandshakeFacts (new ++ calls) := by
  induction new with
  | nil => exact hfacts
  | cons call rest ih =>
      obtain ⟨hsettled, hguarded⟩ := ih fun c hc => hnew c (.tail _ hc)
      have hplain : call.excepted = false := hnew call List.mem_cons_self
      refine ⟨?_, ?_, hguarded⟩
      · intro h c
        rw [List.cons_append, awaitsCloseOk_cons]
        by_cases hon : call.session = some h ∧ call.onChannel = some c
        · simp [exceptionEffect, hon, hplain]
        · simp [exceptionEffect, hon, hsettled]
      · intro h c _ _ hwaits
        cases (hsettled h c).symm.trans hwaits

/-- `OpenChannel` answers a channel exception at once. -/
theorem HandshakeFacts.openChannel {calls : List AmqpCall} (hfacts : HandshakeFacts calls)
    (base : ConnectionBase) (channel : Int) (reply : AmqpRpcReply) (closeOkStatus : Int) :
    HandshakeFacts ((base.openChannel channel reply closeOkStatus).calls ++ calls) := by
  by_cases hup : base.isConnected = true
  · by_cases hexception : decodeRpcReply reply = .channelException
    · obtain ⟨hsettled, hguarded⟩ := hfacts
      simp only [ConnectionBase.openChannel, hup, hexception, if_true, List.cons_append,
        List.nil_append]
      refine ⟨?_, ?_, ?_, hguarded⟩
      · intro h c
        rw [awaitsCloseOk_cons, awaitsCloseOk_cons, hsettled]
        by_cases hon : base.conn = h ∧ channel = c
        · simp [exceptionEffect, AmqpCall.session, AmqpCall.onChannel, AmqpCall.excepted, hon]
        · simp [exceptionEffect, AmqpCall.session, AmqpCall.onChannel, hon]
      · intro h c _ _ _
        rfl
      · intro h c _ _ hwaits
        cases (hsettled h c).symm.trans hwaits
    · apply hfacts.append
      simp [ConnectionBase.openChannel, hup, hexception, AmqpCall.excepted]
  · simpa [ConnectionBase.openChannel, hup] using hfacts

theorem excepted_of_session {call : AmqpCall} (hcall : call.session = none) :
    call.excepted = false := by
  cases call <;> first | rfl | cases hcall

/-- `Connect` opens no channel, so that none of its replies is a channel exception. -/
theorem HandshakeFacts.connect {calls : List AmqpCall} (hfacts : HandshakeFacts calls)
    (base : ConnectionBase) (handle : Nat) (replies : ConnectReplies) :
    HandshakeFacts ((base.connect handle replies).calls ++ calls) := by
  apply hfacts.append
  intro call hcall
  exact excepted_of_session (connect_session base handle replies call hcall)

theorem excepted_closeConnection (base : ConnectionBase) (reply : AmqpRpcReply) :
    ∀ call ∈ (base.closeConnection reply).calls, call.excepted = false := by
  unfold closeConnection
  split <;> simp [AmqpCall.excepted]

theorem excepted_releaseCalls (connection : Option ConnectionBase) (reply : AmqpRpcReply) :
    ∀ call ∈ releaseCalls connection reply, call.excepted = false := by
  unfold releaseCalls
  split
  · simp
  · next old => exact excepted_closeConnection old reply

namespace Producer

/-- No `DeclareExchange` is answered with a channel exception. -/
def NoDeclareException (s : ProducerState) : Action → Prop
  | .worker input =>
      s.worker = .openChannels → ∀ entry ∈ input.order, entry.2.isDeclare = true →
        decodeRpcReply (input.channels entry.1).openReply = .allGood →
        decodeRpcReply (input.channels entry.1).declareReply ≠ .channelException
  | _ => True

instance (s : ProducerState) : (action : Action) → Decidable (NoDeclareException s action)
  | .worker input => inferInstanceAs (Decidable (_ → ∀ entry ∈ input.order, _))
  | .declareExchange .. | .send _ | .sendPush _ | .begin _ | .control .. =>
      inferInstanceAs (Decidable True)

/-- The calls for one exchange. -/
theorem handshakeFacts_entry {base : ConnectionBase} {replies : Bytes → ChannelReplies}
    {entry : Bytes × ExchangeProperties} {calls : List AmqpCall} (hfacts : HandshakeFacts calls)
    (hdeclare : entry.2.isDeclare = true →
      decodeRpcReply (replies entry.1).openReply = .allGood →
      decodeRpcReply (replies entry.1).declareReply ≠ .channelException) :
    HandshakeFacts (entryCalls base replies entry ++ calls) := by
  have hopened := hfacts.openChannel base entry.2.channel (replies entry.1).openReply
    (replies entry.1).closeOkStatus
  unfold entryCalls
  dsimp only
  split
  · next hcode =>
      rw [Bool.and_eq_true, noError_eq_true] at hcode
      obtain ⟨hcode, hisDeclare⟩ := hcode
      rw [List.append_assoc]
      apply hopened.append
      by_cases hup : base.isConnected = true
      · have hgood : decodeRpcReply (replies entry.1).openReply = .allGood := by
          simpa [ConnectionBase.openChannel, hup] using hcode
        simpa [ConnectionBase.declareExchange, hup, AmqpCall.excepted] using
          hdeclare hisDeclare hgood
      · simp [ConnectionBase.declareExchange, hup]
  · exact hopened

/-- The loop of `connectChannels`. -/
theorem handshakeFacts_loop {base : ConnectionBase} {replies : Bytes → ChannelReplies}
    {entries : ExchangeList} (allGood : Bool) {calls : List AmqpCall}
    (hfacts : HandshakeFacts calls)
    (hdeclare : ∀ entry ∈ entries, entry.2.isDeclare = true →
      decodeRpcReply (replies entry.1).openReply = .allGood →
      decodeRpcReply (replies entry.1).declareReply ≠ .channelException) :
    HandshakeFacts ((connectLoop base replies entries allGood).2 ++ calls) := by
  obtain ⟨done, post, hsplit, hcalls, -⟩ := connectLoop_spec base replies entries allGood
  have hdone : ∀ entry ∈ (notConnected done).reverse, entry ∈ entries := by
    intro entry hentry
    rw [List.mem_reverse] at hentry
    rw [hsplit]
    exact List.mem_append_left post (List.mem_of_mem_filter hentry)
  rw [hcalls]
  generalize (notConnected done).reverse = visited at hdone
  -- newest entry first, as the calls
  induction visited with
  | nil => exact hfacts
  | cons entry rest ih =>
      rw [List.flatMap_cons, List.append_assoc]
      apply handshakeFacts_entry
      · exact ih fun entry hentry => hdone entry (.tail _ hentry)
      · exact hdeclare entry (hdone entry List.mem_cons_self)

theorem excepted_closeChannels (base : ConnectionBase) (entries : ExchangeList) :
    ∀ call ∈ closeChannels base entries, call.excepted = false := by
  induction entries with
  | nil => simp [closeChannels]
  | cons entry rest ih =>
      intro call hcall
      obtain hcall | hcall := List.mem_append.mp hcall
      · exact ih call hcall
      · unfold ConnectionBase.closeChannel at hcall
        split at hcall
        · rw [List.mem_singleton.mp hcall]
          rfl
        · cases hcall

/-- A step of the worker keeps the handshake. -/
theorem WorkerMove.handshake {s s' : ProducerState} {input : WorkerInput}
    (hmove : WorkerMove s input s') (hdeclare : NoDeclareException s (.worker input))
    (hfacts : HandshakeFacts s.calls) : HandshakeFacts s'.calls := by
  cases hmove with
  | connected base => exact hfacts.connect base s.handles input.connect
  | connectFailed base => exact hfacts.connect base s.handles input.connect
  | openFailed base hpc => exact handshakeFacts_loop true hfacts (hdeclare hpc)
  | opened base allGood hpc => exact handshakeFacts_loop true hfacts (hdeclare hpc)
  | closed caller base => exact hfacts.append (excepted_closeConnection base input.closeReply)
  | published base object =>
      apply hfacts.append
      unfold publishMessage
      split <;> simp [AmqpCall.excepted]
  | _ => exact hfacts

/-- A step of a control call keeps the handshake. -/
theorem ControlMove.handshake {s s' : ProducerState} {input : ControlInput} {pc : ControlPc}
    (hmove : ControlMove s input pc s') (hfacts : HandshakeFacts s.calls) :
    HandshakeFacts s'.calls := by
  cases hmove with
  | closed _ next base => exact hfacts.append (excepted_closeConnection base input.closeReply)
  | initConnection | destroyed =>
      exact hfacts.append (excepted_releaseCalls s.connection input.closeReply)
  | destroyChannels base => exact hfacts.append (excepted_closeChannels base input.order)
  | _ => exact hfacts

theorem handshakeFacts_reachable {s : ProducerState}
    (hs : system.ReachableUnder NoDeclareException s) : HandshakeFacts s.calls := by
  apply hs.induction (fun s => HandshakeFacts s.calls)
  · exact handshakeFacts_nil
  · intro s action s' _ hdeclare hfacts hstep
    obtain ⟨-, hmove⟩ := move_of_step hstep
    cases hmove with
    | worker input _ hmove => exact hmove.handshake hdeclare hfacts
    | user _ _ hmove =>
        rw [hmove.frame.calls]
        exact hfacts
    | begin call => exact hfacts
    | control k input pc rest _ hpick hmove => exact hmove.handshake hfacts

end Producer

namespace Consumer

variable {Callback : Type} {s s' : ConsumerState Callback}

/-- The worker is at `DeclareQueue`, `BindQueue` or `StartConsumption`. -/
def WorkerPc.afterOpen : WorkerPc → Bool
  | .setupDeclare .. | .setupBind .. | .setupConsume .. => true
  | _ => false

/-- No `DeclareQueue`, `BindQueue` or `StartConsumption` is answered with a channel
exception. -/
def NoSetupException (s : ConsumerState Callback) : Action Callback → Prop
  | .worker input =>
      s.worker.afterOpen = true → decodeRpcReply input.reply ≠ .channelException
  | _ => True

instance (s : ConsumerState Callback) :
    (action : Action Callback) → Decidable (NoSetupException s action)
  | .worker _ => inferInstanceAs (Decidable (_ → _))
  | .subscribe _ | .subscribeStep _ | .begin _ | .control .. => inferInstanceAs (Decidable True)

/-- A step of the worker keeps the handshake. -/
theorem WorkerMove.handshake {input : WorkerInput} (hmove : WorkerMove s input s')
    (hsetup : NoSetupException s (.worker input)) (hfacts : HandshakeFacts s.calls) :
    HandshakeFacts s'.calls := by
  -- one call, which is not answered with a channel exception
  have hone : ∀ call : AmqpCall, call.excepted = false → HandshakeFacts (call :: s.calls) := by
    intro call hcall
    show HandshakeFacts ([call] ++ s.calls)
    apply hfacts.append
    intro other hother
    rwa [List.mem_singleton.mp hother]
  cases hmove with
  | connected base => exact hfacts.connect base s.handles input.connect
  | connectFailed base => exact hfacts.connect base s.handles input.connect
  | opened caller channel base =>
      exact hfacts.openChannel base channel input.reply input.closeOkStatus
  | declared caller channel base queue hpc | refused caller channel base queue hpc =>
      apply hone
      simpa [AmqpCall.excepted] using hsetup (by simp [hpc, WorkerPc.afterOpen])
  | bound caller channel base queue hpc =>
      apply hone
      simpa [AmqpCall.excepted] using hsetup (by simp [hpc, WorkerPc.afterOpen])
  | consumed caller channel base queue hpc =>
      apply hone
      simpa [AmqpCall.excepted] using hsetup (by simp [hpc, WorkerPc.afterOpen])
  | consumeFailed caller channel base queue hpc =>
      apply hone
      simpa [AmqpCall.excepted] using hsetup (by simp [hpc, WorkerPc.afterOpen])
  | closed base => exact hfacts.append (excepted_closeConnection base input.reply)
  | released base => exact hone _ rfl
  | pulled base =>
      apply hfacts.append
      unfold ConnectionBase.consumeMessage
      split <;> simp [AmqpCall.excepted]
  | _ => exact hfacts

/-- A step of a control call keeps the handshake. -/
theorem ControlMove.handshake {reply : AmqpRpcReply} {pc : ControlPc}
    (hmove : ControlMove s reply pc s') (hfacts : HandshakeFacts s.calls) :
    HandshakeFacts s'.calls := by
  cases hmove with
  | stopRefused => rwa [stopReturns_calls]
  | stopped caller base =>
      rw [stopReturns_calls]
      exact hfacts.append (excepted_closeConnection base reply)
  | destroyClosed base => exact hfacts.append (excepted_closeConnection base reply)
  | initConnection | destroyed => exact hfacts.append (excepted_releaseCalls s.connection reply)
  | _ => exact hfacts

theorem handshakeFacts_reachable (hs : system.ReachableUnder NoSetupException s) :
    HandshakeFacts s.calls := by
  apply hs.induction (fun s => HandshakeFacts s.calls)
  · exact handshakeFacts_nil
  · intro s action s' _ hsetup hfacts hstep
    obtain ⟨-, hmove⟩ := move_of_step hstep
    cases hmove with
    | worker input _ hmove => exact hmove.handshake hsetup hfacts
    | subscribeRefused | subscribeBegins | begin => exact hfacts
    | subscribe k pc rest _ hpick hmove =>
        rw [hmove.frame.calls]
        exact hfacts
    | control k reply pc rest _ hpick _ hmove => exact hmove.handshake hfacts

end Consumer

/-- In every run of a producer or a consumer in which only `OpenChannel` gets a
channel exception, the next method on a channel that the broker has closed is
`channel.close-ok`. -/
theorem close_ok_comes_next (Callback : Type) :
    (∀ s : ProducerState, Producer.system.ReachableUnder Producer.NoDeclareException s →
      Guarded CloseOkNext s.calls) ∧
    ∀ s : ConsumerState Callback,
      Consumer.system.ReachableUnder Consumer.NoSetupException s →
        Guarded CloseOkNext s.calls := by
  constructor
  · intro s hs
    exact (Producer.handshakeFacts_reachable hs).guarded
  · intro s hs
    exact (Consumer.handshakeFacts_reachable hs).guarded

/-- A producer and a consumer whose `OpenChannel` is refused and tried again. -/
theorem close_ok_comes_next_run :
    (∃ s : ProducerState, (Producer.system.ReachableUnder Producer.NoDeclareException s ∧
        s.calls.countP AmqpCall.excepted = 1) ∧ Guarded CloseOkNext s.calls) ∧
    ∃ s : ConsumerState Nat, (Consumer.system.ReachableUnder Consumer.NoSetupException s ∧
        s.calls.countP AmqpCall.excepted = 1) ∧ Guarded CloseOkNext s.calls := by
  constructor
  · obtain ⟨s, hs, htest⟩ := TransitionSystem.exists_reachableUnder_of_run (M := Producer.system)
      Producer.NoDeclareException
      (List.flatten [Producer.startUp, Producer.sendHi, Producer.workerSteps 6,
        [.worker { order := [([101], { channel := 1 })]
                   channels := fun _ => { openReply := channelClosed } }]])
      (fun s => decide (s.calls.countP AmqpCall.excepted = 1)) (by decide +kernel)
    exact ⟨s, ⟨hs, of_decide_eq_true htest⟩, (close_ok_comes_next Nat).1 s hs⟩
  · obtain ⟨s, hs, htest⟩ := TransitionSystem.exists_reachableUnder_of_run (M := Consumer.system)
      Consumer.NoSetupException
      (List.flatten [Consumer.startUp, Consumer.subscribeTo 97, List.replicate 4 (.worker {}),
        [.worker { order := [1] }, .worker { reply := channelClosed }]])
      (fun s => decide (s.calls.countP AmqpCall.excepted = 1)) (by decide +kernel)
    exact ⟨s, ⟨hs, of_decide_eq_true htest⟩, (close_ok_comes_next Nat).2 s hs⟩

/-- A producer publishes on a channel that the broker closed while the exchange was
declared, and a consumer opens one again that it closed while the queue was
bound. -/
theorem close_ok_is_missing :
    (∃ s : ProducerState, Producer.system.ReachableUnder Producer.OneControl s ∧
        ¬Guarded CloseOkNext s.calls) ∧
    ∃ s : ConsumerState Nat, Consumer.system.ReachableUnder Consumer.OneControl s ∧
        ¬Guarded CloseOkNext s.calls := by
  constructor
  · obtain ⟨s, hs, htest⟩ := TransitionSystem.exists_reachableUnder_of_run (M := Producer.system)
      Producer.OneControl
      (List.flatten [Producer.startUp, .declareExchange [101] [102] :: Producer.sendHi,
        Producer.workerSteps 6,
        .worker { order := [([101], { channel := 1, isDeclare := true, type := [102] })]
                  channels := fun _ => { declareReply := channelClosed } } ::
        Producer.workerSteps 4])
      (fun s => decide ¬Guarded CloseOkNext s.calls) (by decide +kernel)
    exact ⟨s, hs, of_decide_eq_true htest⟩
  · obtain ⟨s, hs, htest⟩ := TransitionSystem.exists_reachableUnder_of_run (M := Consumer.system)
      Consumer.OneControl
      (List.flatten [Consumer.startUp, Consumer.subscribeTo 97, List.replicate 4 (.worker {}),
        [.worker { order := [1] }, .worker {}, .worker {}, .worker {},
          .worker { reply := channelClosed }], List.replicate 4 (.worker {})])
      (fun s => decide ¬Guarded CloseOkNext s.calls) (by decide +kernel)
    exact ⟨s, hs, of_decide_eq_true htest⟩

end HareCpp
