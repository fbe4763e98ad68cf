import HareCpp.Library.Dispatcher
import HareCpp.Consumer.SubscribeCalls

/-!
# A consumer as a dispatcher

Over a whole run, what the callbacks get is what a dispatcher would invoke that is told
of every `AddChannelProcessor` and of every envelope that `pullNextMessage` processes,
in the order in which these sections happen.  Between `ConsumeMessage` and `Process`
one envelope is in hand; every other envelope that was received has been processed,
once and in the order of receipt.

* `Dispatches` — the run seen as that of a dispatcher with one envelope in hand.
* `callbacks_dispatched` — every run is one, whatever the threads do.
-/

namespace HareCpp
namespace Consumer

open Library ConnectionBase ChannelHandler DispatchEvent

variable {Callback : Type} {s s' : ConsumerState Callback}

/-! ### What is recorded -/

/-- A section of `AddChannelProcessor`, a `ConsumeMessage` that returned an envelope,
or the processing of an envelope. -/
inductive PullEvent (Callback : Type)
  | subscribed (bindingPair : HashableBindingPair) (callback : Callback)
  | received (envelope : AmqpEnvelope)
  | processed (envelope : AmqpEnvelope)
  deriving DecidableEq, Repr

/-- What a step adds to the record. -/
def pullEvents (s : ConsumerState Callback) : Action Callback → List (PullEvent Callback)
  | .subscribeStep k => (subscribedBy s (.subscribeStep k)).map fun subscription =>
      .subscribed subscription.1 subscription.2
  | .worker input =>
      match s.worker with
      | .pullConsume =>
          if isConnected s && noError (decodeRpcReply input.reply) then [.received input.envelope]
          else []
      | .pullProcess envelope => [.processed envelope]
      | _ => []
  | _ => []

/-- What the dispatcher is told; it does not hear of an envelope without an
exchange. -/
def PullEvent.told : PullEvent Callback →
    Option (DispatchEvent HashableBindingPair Callback Message)
  | subscribed bindingPair callback => some (.register bindingPair callback)
  | received _ => none
  | processed envelope =>
      if envelope.exchange = [] then none
      else some (.deliver (bindingPairOf envelope) (Message.ofEnvelope envelope))

def PullEvent.receipt : PullEvent Callback → Option AmqpEnvelope
  | received envelope => some envelope
  | subscribed .. | processed _ => none

def PullEvent.processing : PullEvent Callback → Option AmqpEnvelope
  | processed envelope => some envelope
  | subscribed .. | received _ => none

/-- What a dispatcher is told in a run. -/
def toldIn (record : List (PullEvent Callback)) :
    List (DispatchEvent HashableBindingPair Callback Message) := record.filterMap PullEvent.told

theorem toldIn_of_no_exchange {envelope : AmqpEnvelope} (hexchange : envelope.exchange = [])
    (record : List (PullEvent Callback)) :
    toldIn (.processed envelope :: record) = toldIn record := by
  rw [toldIn, List.filterMap_cons_none (by rw [PullEvent.told, if_pos hexchange]), toldIn]

theorem toldIn_of_exchange {envelope : AmqpEnvelope} (hexchange : envelope.exchange ≠ [])
    (record : List (PullEvent Callback)) :
    toldIn (.processed envelope :: record) =
      .deliver (bindingPairOf envelope) (Message.ofEnvelope envelope) :: toldIn record := by
  rw [toldIn, List.filterMap_cons_some (by rw [PullEvent.told, if_neg hexchange]), toldIn]

/-- The envelope between `ConsumeMessage` and `Process`. -/
def WorkerPc.envelope : WorkerPc → List AmqpEnvelope
  | pullProcess envelope => [envelope]
  | _ => []

/-- The invocation that a note is about. -/
def Note.invocation : Note Callback → Option (Callback × Message)
  | invoked callback message => some (callback, message)
  | connected _ | setUp .. | apiReturned .. => none

/-- A `ConsumeMessage` that returned `ALL_GOOD`. -/
def consumedMessage : AmqpCall → Bool
  | .consumeMessage _ _ reply => noError (decodeRpcReply reply)
  | _ => false

/-- The run is that of a dispatcher with one envelope in hand. -/
structure Dispatches (s : ConsumerState Callback) (record : List (PullEvent Callback)) : Prop where
  /-- the invocations are those of the dispatcher -/
  invoked : s.notes.filterMap Note.invocation = invocations (toldIn record)
  /-- what was received was processed, but for the envelope in hand -/
  inHand : record.filterMap PullEvent.receipt =
    s.worker.envelope ++ record.filterMap PullEvent.processing
  /-- and it was received by `ConsumeMessage`, one envelope for each `ALL_GOOD` -/
  received : (record.filterMap PullEvent.receipt).length = s.calls.countP consumedMessage

/-! ### The steps -/

/-- What the record has to say about a state. -/
structure PullFacts (s : ConsumerState Callback) (record : List (PullEvent Callback)) : Prop
    extends Dispatches s record where
  follow : CallbacksFollow s (registrations (toldIn record))

/-- A step that is not recorded and changes nothing that the record is about. -/
theorem PullFacts.of_same {record : List (PullEvent Callback)} (h : PullFacts s record)
    (hnotes : s'.notes.filterMap Note.invocation = s.notes.filterMap Note.invocation)
    (henvelope : s'.worker.envelope = s.worker.envelope)
    (hcalls : s'.calls.countP consumedMessage = s.calls.countP consumedMessage)
    (hcallbacks : s'.channelHandler.callbackOf = s.channelHandler.callbackOf) :
    PullFacts s' record := by
  constructor
  · constructor
    · rw [hnotes, h.invoked]
    · rw [henvelope, h.inHand]
    · rw [hcalls, h.received]
  · intro bindingPair
    rw [hcallbacks]
    exact h.follow bindingPair

/-- Calls among which there is no `ConsumeMessage`. -/
theorem countP_consumedMessage {new : List AmqpCall}
    (hnew : ∀ call ∈ new, consumedMessage call = false) (calls : List AmqpCall) :
    (new ++ calls).countP consumedMessage = calls.countP consumedMessage := by
  rw [List.countP_append, Nat.add_eq_right, List.countP_eq_zero]
  intro call hcall
  simp [hnew call hcall]

theorem consumedMessage_connect (base : ConnectionBase) (handle : Nat)
    (replies : ConnectReplies) :
    ∀ call ∈ (base.connect handle replies).calls, consumedMessage call = false := by
  intro call hcall
  have hsession := connect_session base handle replies call hcall
  cases call with
  | consumeMessage => cases hsession
  | _ => rfl

theorem consumedMessage_openChannel (base : ConnectionBase) (channel : Int)
    (reply : AmqpRpcReply) (closeOkStatus : Int) :
    ∀ call ∈ (base.openChannel channel reply closeOkStatus).calls,
      consumedMessage call = false := by
  intro call hcall
  rcases base.openChannel_cases channel reply closeOkStatus with
    ⟨-, heq⟩ | ⟨after, -, heq, hafter⟩ <;> rw [heq] at hcall
  · cases hcall
  · rcases List.mem_append.mp hcall with hmem | hmem
    · rw [hafter call hmem]
      rfl
    · rw [List.mem_singleton.mp hmem]
      rfl

theorem consumedMessage_closeConnection (base : ConnectionBase) (reply : AmqpRpcReply) :
    ∀ call ∈ (base.closeConnection reply).calls, consumedMessage call = false := by
  cases hup : base.isConnected with
  | false => simp [closeConnection_of_not_connected hup]
  | true => simp [(closeConnection_of_connected hup reply).1, consumedMessage]

theorem consumedMessage_releaseCalls (connection : Option ConnectionBase)
    (reply : AmqpRpcReply) :
    ∀ call ∈ releaseCalls connection reply, consumedMessage call = false := by
  intro call hcall
  unfold releaseCalls at hcall
  cases connection with
  | none => cases hcall
  | some base => exact consumedMessage_closeConnection base reply call hcall

/-- `ConsumeMessage`, received or not. -/
theorem PullFacts.pulled {record : List (PullEvent Callback)} {input : WorkerInput}
    (h : PullFacts s record) (hpc : s.worker = .pullConsume)
    (hstep : workerStep s input = some s') :
    PullFacts s' (pullEvents s (.worker input) ++ record) := by
  have hheld : s.worker.envelope = [] := by
    rw [hpc]
    rfl
  simp only [workerStep, hpc] at hstep
  cases hbase : s.connection with
  | none =>
      have hup : isConnected s = false := by rw [isConnected, hbase]
      simp only [hbase] at hstep
      cases hstep
      simp only [pullEvents, hpc, hup, Bool.false_and, Bool.false_eq_true, if_false,
        List.nil_append]
      exact h.of_same rfl rfl rfl rfl
  | some base =>
      simp only [hbase] at hstep
      have hup : isConnected s = base.isConnected := isConnected_of_connection hbase
      simp only [pullEvents, hpc, hup]
      cases hconnected : base.isConnected with
      | false =>
          have heq : base.consumeMessage input.reply = ⟨.serverConnectionFailure, base, []⟩ := by
            simp [ConnectionBase.consumeMessage, hconnected]
          rw [heq] at hstep
          cases hstep
          refine h.of_same rfl ?_ rfl rfl
          rw [hheld]
          rfl
      | true =>
          have heq : base.consumeMessage input.reply = ⟨decodeRpcReply input.reply, base,
              [.consumeMessage base.conn base.timeout input.reply]⟩ := by
            simp [ConnectionBase.consumeMessage, hconnected]
          rw [heq] at hstep
          cases hgood : noError (decodeRpcReply input.reply) with
          | false =>
              -- whatever the error, the worker has no envelope
              have hcalls : (AmqpCall.consumeMessage base.conn base.timeout input.reply ::
                  s.calls).countP consumedMessage = s.calls.countP consumedMessage := by
                rw [List.countP_cons_of_neg]
                simp [consumedMessage, hgood]
              simp only [hgood, Bool.false_eq_true, if_false] at hstep
              split at hstep
              · cases hstep
                refine h.of_same rfl ?_ hcalls rfl
                rw [hheld]
                rfl
              · cases hstep
                refine h.of_same rfl ?_ hcalls rfl
                rw [hheld]
                rfl
          | true =>
              simp only [hgood, if_true] at hstep
              cases hstep
              have hinHand := h.inHand
              have hreceived := h.received
              rw [hheld, List.nil_append] at hinHand
              constructor
              · constructor
                · exact h.invoked
                · show input.envelope :: record.filterMap PullEvent.receipt =
                    input.envelope :: record.filterMap PullEvent.processing
                  rw [hinHand]
                · show (record.filterMap PullEvent.receipt).length + 1 =
                    (AmqpCall.consumeMessage base.conn base.timeout input.reply ::
                      s.calls).countP consumedMessage
                  rw [List.countP_cons_of_pos (by simp [consumedMessage, hgood]), hreceived]
              · exact h.follow

/-- `Process`. -/
theorem PullFacts.processed {record : List (PullEvent Callback)} {input : WorkerInput}
    {envelope : AmqpEnvelope} (h : PullFacts s record) (hpc : s.worker = .pullProcess envelope) :
    PullFacts { s with
      worker := .pendingTest
      notes := (processEnvelope s.channelHandler envelope).map
        (fun invocation => .invoked invocation.1 invocation.2) ++ s.notes }
      (pullEvents s (.worker input) ++ record) := by
  have hevents : pullEvents s (.worker input) = [.processed envelope] := by
    simp only [pullEvents, hpc]
  have hinHand := h.inHand
  rw [hpc, WorkerPc.envelope] at hinHand
  have hinvoked : ((processEnvelope s.channelHandler envelope).map
      (fun invocation => Note.invoked invocation.1 invocation.2)).filterMap Note.invocation =
        processEnvelope s.channelHandler envelope := by
    rw [List.filterMap_map]
    exact List.filterMap_some
  -- the dispatcher knows the same callbacks
  have hfollow := h.follow (bindingPairOf envelope)
  rw [hevents]
  by_cases hexchange : envelope.exchange = []
  · have htold := toldIn_of_no_exchange hexchange record
    constructor
    · constructor
      · show (_ ++ s.notes).filterMap Note.invocation = invocations (toldIn (_ :: record))
        rw [htold, List.filterMap_append, hinvoked, processEnvelope_eq, if_pos hexchange,
          List.nil_append, h.invoked]
      · exact hinHand
      · exact h.received
    · rw [List.singleton_append, htold]
      exact h.follow
  · have htold := toldIn_of_exchange hexchange record
    constructor
    · constructor
      · show (_ ++ s.notes).filterMap Note.invocation = invocations (toldIn (_ :: record))
        rw [htold, List.filterMap_append, hinvoked, processEnvelope_eq, if_neg hexchange,
          hfollow, invocations, h.invoked]
        rfl
      · exact hinHand
      · exact h.received
    · rw [List.singleton_append, htold]
      exact h.follow

/-- Where the worker goes without changing anything it has no envelope. -/
theorem WorkerGoto.envelope {input : WorkerInput} {next : WorkerPc}
    (hnext : WorkerGoto s input next) : next.envelope = [] := by
  cases hnext with
  | listed =>
      rcases nextChannel_cases .allGood input.order with ⟨-, h⟩ | ⟨-, h⟩ | ⟨_, _, -, h⟩ <;>
        rw [h] <;> rfl
  | _ => rfl

theorem afterSetup_envelope (code : HareError) (caller : SetupCaller) :
    (afterSetup code caller).envelope = [] := by
  cases caller with
  | retry => rfl
  | startUp rest =>
      unfold afterSetup
      dsimp only
      split
      · rfl
      · rcases nextChannel_cases code rest with ⟨-, h⟩ | ⟨-, h⟩ | ⟨_, _, -, h⟩ <;> rw [h] <;> rfl

theorem setupGoesOn_envelope (caller : SetupCaller) (channel : Int) (code : HareError)
    {next : WorkerPc} (hnext : next.envelope = []) :
    (setupGoesOn caller channel code next).envelope = [] := by
  unfold setupGoesOn
  split
  · exact hnext
  · rfl

/-- A step of the worker. -/
theorem PullFacts.worker {record : List (PullEvent Callback)} {input : WorkerInput}
    (h : PullFacts s record) (hstep : workerStep s input = some s') :
    PullFacts s' (pullEvents s (.worker input) ++ record) := by
  by_cases hpull : s.worker = .pullConsume
  · exact h.pulled hpull hstep
  by_cases hprocess : ∃ envelope, s.worker = .pullProcess envelope
  · obtain ⟨envelope, hpc⟩ := hprocess
    simp only [workerStep, hpc] at hstep
    cases hstep
    exact h.processed hpc
  have hnone : pullEvents s (.worker input) = [] ∧ s.worker.envelope = [] := by
    cases hpc : s.worker with
    | pullConsume => exact absurd hpc hpull
    | pullProcess envelope => exact absurd ⟨envelope, hpc⟩ hprocess
    | _ => simp [pullEvents, hpc, WorkerPc.envelope]
  obtain ⟨hevents, hheld⟩ := hnone
  rw [hevents, List.nil_append]
  cases workerMove_of_step hstep with
  | goto next hnext => exact h.of_same rfl (hnext.envelope.trans hheld.symm) rfl rfl
  | crash => exact h.of_same rfl rfl rfl rfl
  | connected base | connectFailed base =>
      refine h.of_same rfl hheld.symm ?_ rfl
      exact countP_consumedMessage (consumedMessage_connect base s.handles input.connect) _
  | emptied | propertiesRead | popped => exact h.of_same rfl hheld.symm rfl rfl
  | opened caller channel base =>
      refine h.of_same rfl ?_ ?_ rfl
      · rw [hheld]
        exact setupGoesOn_envelope caller channel _ rfl
      · exact countP_consumedMessage (consumedMessage_openChannel base channel _ _) _
  | declared caller channel base queue | refused caller channel base queue =>
      refine h.of_same rfl hheld.symm ?_ ?_
      · exact List.countP_cons_of_neg (by simp [consumedMessage])
      · funext bindingPair
        exact callbackOf_setQueueName s.channelHandler channel queue bindingPair
  | bound caller channel base queue =>
      refine h.of_same rfl ?_ ?_ rfl
      · rw [hheld]
        exact setupGoesOn_envelope caller channel _ rfl
      · exact List.countP_cons_of_neg (by simp [consumedMessage])
  | consumed caller channel base queue =>
      refine h.of_same rfl ?_ ?_ rfl
      · rw [hheld]
        exact afterSetup_envelope .allGood caller
      · exact List.countP_cons_of_neg (by simp [consumedMessage])
  | consumeFailed caller channel base queue =>
      refine h.of_same rfl hheld.symm ?_ rfl
      exact List.countP_cons_of_neg (by simp [consumedMessage])
  | pushed caller channel code =>
      refine h.of_same rfl ?_ rfl rfl
      rw [hheld]
      exact afterSetup_envelope code caller
  | closed base =>
      refine h.of_same rfl hheld.symm ?_ rfl
      exact countP_consumedMessage (consumedMessage_closeConnection base input.reply) _
  | released base =>
      refine h.of_same rfl hheld.symm ?_ rfl
      exact List.countP_cons_of_neg (by simp [consumedMessage])
  | pulled base next hpc => exact absurd hpc hpull
  | processed envelope hpc => exact absurd ⟨envelope, hpc⟩ hprocess

/-- What the dispatcher is told by a `Subscribe`. -/
theorem registrations_subscribed (subscriptions : List (HashableBindingPair × Callback))
    (record : List (PullEvent Callback)) :
    registrations (toldIn (subscriptions.map
        (fun subscription => .subscribed subscription.1 subscription.2) ++ record)) =
      subscriptions ++ registrations (toldIn record) := by
  induction subscriptions with
  | nil => rfl
  | cons subscription rest ih =>
      rw [List.map_cons, List.cons_append, List.cons_append, ← ih]
      rfl

/-- The dispatcher does not invoke anything on a registration. -/
theorem invocations_subscribed (subscriptions : List (HashableBindingPair × Callback))
    (record : List (PullEvent Callback)) :
    invocations (toldIn (subscriptions.map
        (fun subscription => .subscribed subscription.1 subscription.2) ++ record)) =
      invocations (toldIn record) := by
  induction subscriptions with
  | nil => rfl
  | cons subscription rest ih => exact ih

/-- A step of a `Subscribe`. -/
theorem PullFacts.subscribe {record : List (PullEvent Callback)} {k : Nat}
    {pc : SubscribePc Callback} {rest : List (SubscribePc Callback)} (h : PullFacts s record)
    (hfacts : HandlerFacts s.channelHandler) (hpick : pick s.subscribes k = some (pc, rest))
    (hmove : SubscribeMove { s with subscribes := rest } pc s') :
    PullFacts s' (pullEvents s (.subscribeStep k) ++ record) := by
  have hframe := hmove.frame
  have hnotes : s'.notes.filterMap Note.invocation = s.notes.filterMap Note.invocation := by
    cases hmove <;> rfl
  have hquiet : ∀ subscriptions : List (HashableBindingPair × Callback),
      (subscriptions.map fun subscription =>
          PullEvent.subscribed subscription.1 subscription.2).filterMap PullEvent.receipt = [] ∧
        (subscriptions.map fun subscription =>
          PullEvent.subscribed subscription.1 subscription.2).filterMap PullEvent.processing =
            [] := by
    intro subscriptions
    simp [List.filterMap_map, Function.comp_def, PullEvent.receipt, PullEvent.processing]
  obtain ⟨hreceipt, hprocessing⟩ := hquiet (subscribedBy s (.subscribeStep k))
  have hreceived : (pullEvents s (.subscribeStep k) ++ record).filterMap PullEvent.receipt =
      record.filterMap PullEvent.receipt := by
    rw [List.filterMap_append, pullEvents, hreceipt, List.nil_append]
  constructor
  · constructor
    · rw [hnotes, h.invoked, pullEvents, invocations_subscribed]
    · rw [hreceived, List.filterMap_append, pullEvents, hprocessing, List.nil_append,
        hframe.worker]
      exact h.inHand
    · rw [hreceived, hframe.calls]
      exact h.received
  · rw [pullEvents, registrations_subscribed]
    exact hmove.callbacks hpick hfacts h.follow

/-- A step of the control thread. -/
theorem PullFacts.control {record : List (PullEvent Callback)} {reply : AmqpRpcReply}
    {pc : ControlPc} (h : PullFacts s record) (hmove : ControlMove s reply pc s') :
    PullFacts s' record := by
  have henvelope : s'.worker.envelope = s.worker.envelope := by
    rcases hmove.worker with hsame | ⟨hold, hnew⟩ | ⟨hold, hnew⟩
    · rw [hsame]
    · rw [hold, hnew]
      rfl
    · rw [hold, hnew]
      rfl
  have hhandler : s'.channelHandler.callbackOf = s.channelHandler.callbackOf := by
    rw [hmove.frame.1]
  have hreturn : ∀ (t : ConsumerState Callback) caller code,
      (stopReturns t caller code).notes.filterMap Note.invocation =
        t.notes.filterMap Note.invocation := by
    intro t caller code
    obtain ⟨controls, notes, heq, -, hnotes⟩ := stopReturns_frame t caller code
    have hnone : notes.filterMap Note.invocation = [] := by
      rw [List.filterMap_eq_nil_iff]
      intro note hnote
      obtain ⟨api, rfl⟩ := hnotes note hnote
      rfl
    rw [heq]
    show (notes ++ t.notes).filterMap Note.invocation = _
    rw [List.filterMap_append, hnone, List.nil_append]
  cases hmove with
  | goto | startRefused | started | emptied | stopSet | joined | initInitialized
  | initRunning | crash => exact h.of_same rfl henvelope rfl hhandler
  | stopRefused _ caller code =>
      refine h.of_same (hreturn _ caller code) henvelope ?_ hhandler
      rw [stopReturns_calls]
  | stopped caller base =>
      refine h.of_same (hreturn _ caller _) henvelope ?_ hhandler
      rw [stopReturns_calls]
      exact countP_consumedMessage (consumedMessage_closeConnection base reply) _
  | initConnection | destroyed =>
      refine h.of_same rfl henvelope ?_ hhandler
      exact countP_consumedMessage (consumedMessage_releaseCalls s.connection reply) _
  | destroyClosed base =>
      refine h.of_same rfl henvelope ?_ hhandler
      exact countP_consumedMessage (consumedMessage_closeConnection base reply) _

end Consumer
end HareCpp
