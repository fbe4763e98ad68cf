import HareCpp.HandlerHistory
import HareCpp.Consumer.Consuming

/-!
# The requests of a channel, in order

What the broker sees of `setupAndConsume`, in every run: a channel of the table is
opened; when it opened, its queue is declared, the queue is bound with the exchange
and the key of the channel's subscription, and once it is bound it is consumed from
under the name it was bound under, all on one connection.  Nothing else is said in
between, whatever the other threads do meanwhile, and a channel that the broker
closed gets its `channel.close-ok` first.  Outside of this no call is about a channel.

* `SetupPhase.accepts` — the order, as an automaton over the calls.
* `setups_in_order` — every run keeps it, and the worker knows where it stands.
-/

namespace HareCpp
namespace Consumer

open Library ConnectionBase ChannelHandler

variable {Callback : Type} {s s' : ConsumerState Callback}

/-! ### The automaton -/

/-- Where the requests of a channel stand. -/
inductive SetupPhase
  | idle
  /-- the broker closed the channel -/
  | refused (conn : Option Nat) (channel : Int)
  /-- the channel is open -/
  | opened (conn : Option Nat) (channel : Int)
  /-- its queue was declared -/
  | declared (conn : Option Nat) (channel : Int)
  /-- the queue is bound -/
  | bound (conn : Option Nat) (channel : Int) (queue : AmqpBytes)
  deriving DecidableEq, Repr

/-- The phase after a call, if the call comes next. -/
def SetupPhase.accepts (handler : ChannelHandler Callback) :
    SetupPhase → AmqpCall → Option SetupPhase
  | .idle, .channelOpen conn channel reply =>
      if channel ∈ handler.getChannelList then
        some (if decodeRpcReply reply = .allGood then .opened conn channel
          else if decodeRpcReply reply = .channelException then .refused conn channel
          else .idle)
      else none
  | .idle, call => if call.onChannel = none then some .idle else none
  | .refused conn channel, .sendCloseOk conn' channel' _ =>
      if conn' = conn ∧ channel' = channel then some .idle else none
  | .opened conn channel, .queueDeclare conn' channel' _ _ =>
      if conn' = conn ∧ channel' = channel then some (.declared conn channel) else none
  | .declared conn channel, .queueBind conn' channel' queue exchange key reply =>
      if conn' = conn ∧ channel' = channel ∧
          exchange = cstringBytes (handler.getExchange channel) ∧
          key = cstringBytes (handler.getBindingKey channel) then
        some (if decodeRpcReply reply = .allGood then .bound conn channel queue else .idle)
      else none
  | .bound conn channel queue, .basicConsume conn' channel' queue' _ =>
      if conn' = conn ∧ channel' = channel ∧ queue' = queue then some .idle else none
  | _, _ => none

/-- The phase of the worker. -/
def setupPhase (s : ConsumerState Callback) : SetupPhase :=
  match s.worker with
  | .setupProperties _ channel | .setupDeclare _ channel _ => .opened (currentConn s) channel
  | .setupBind _ channel _ => .declared (currentConn s) channel
  | .setupConsume _ channel queue => .bound (currentConn s) channel queue
  | _ => .idle

/-- The calls so far are in order, and end where the worker stands. -/
def SetupsOrdered (s : ConsumerState Callback) : Prop :=
  replay (SetupPhase.accepts s.channelHandler) .idle s.calls = some (setupPhase s)

/-! ### The table grows -/

/-- Every channel keeps its pair. -/
def PairsGrow (handler handler' : ChannelHandler Callback) : Prop :=
  handler.infos.map (·.bindingPair) <+: handler'.infos.map (·.bindingPair)

theorem PairsGrow.refl (handler : ChannelHandler Callback) : PairsGrow handler handler :=
  List.prefix_refl _

theorem pairsGrow_writeTo (handler : ChannelHandler Callback) (channel : Int)
    {change : ChannelProcessingInfo Callback → ChannelProcessingInfo Callback}
    (hchange : ∀ info, (change info).bindingPair = info.bindingPair) :
    PairsGrow handler (handler.writeTo channel change) := by
  rw [PairsGrow, pairs_writeTo handler channel hchange]

theorem pairsGrow_add (handler : ChannelHandler Callback) (bindingPair : HashableBindingPair)
    (callback : Callback) :
    PairsGrow handler (handler.addChannelProcessor bindingPair callback).1 := by
  cases hfound : handler.bindingPairLookup.lookup bindingPair with
  | none =>
      rw [PairsGrow, infos_add_new hfound, List.map_append]
      exact List.prefix_append _ _
  | some place => rw [PairsGrow, pairs_add_known hfound]

/-- The pair of a channel of the table. -/
theorem exists_pair_of_mem {handler : ChannelHandler Callback}
    (hfacts : HandlerFacts handler) {channel : Int} (hmem : channel ∈ handler.getChannelList) :
    ∃ (place : Nat) (pair : HashableBindingPair), channel = place + 1 ∧
      (handler.infos.map (·.bindingPair))[place]? = some pair := by
  rw [hfacts.mem_getChannelList, hfacts.next] at hmem
  have hplace : (channel - 1).toNat < handler.infos.length := by omega
  refine ⟨(channel - 1).toNat, handler.infos[(channel - 1).toNat].bindingPair, by omega, ?_⟩
  rw [List.getElem?_map, List.getElem?_eq_getElem hplace, Option.map_some]

theorem exchange_of_pair {handler : ChannelHandler Callback}
    (hfacts : HandlerFacts handler) {place : Nat} {pair : HashableBindingPair}
    (hpair : (handler.infos.map (·.bindingPair))[place]? = some pair) :
    (place : Int) + 1 ∈ handler.getChannelList ∧
      handler.getExchange (place + 1) = pair.exchangeName ∧
      handler.getBindingKey (place + 1) = pair.routingKey := by
  rw [List.getElem?_map, Option.map_eq_some_iff] at hpair
  obtain ⟨info, hinfo, rfl⟩ := hpair
  have hlt := (List.getElem?_eq_some_iff.mp hinfo).1
  have hfound : handler.infoOf (place + 1) = some info :=
    (hfacts.infoOf_iff _ _).mpr ⟨place, rfl, hinfo⟩
  refine ⟨?_, ?_, ?_⟩
  · rw [hfacts.mem_getChannelList, hfacts.next]
    omega
  · rw [getExchange, hfound]
  · rw [getBindingKey, hfound]

/-- What the automaton reads off the table stays as it is. -/
theorem PairsGrow.keeps {handler handler' : ChannelHandler Callback}
    (hgrow : PairsGrow handler handler') (hfacts : HandlerFacts handler)
    (hfacts' : HandlerFacts handler') {channel : Int}
    (hmem : channel ∈ handler.getChannelList) :
    channel ∈ handler'.getChannelList ∧
      handler'.getExchange channel = handler.getExchange channel ∧
      handler'.getBindingKey channel = handler.getBindingKey channel := by
  obtain ⟨place, pair, rfl, hpair⟩ := exists_pair_of_mem hfacts hmem
  obtain ⟨-, hexchange, hkey⟩ := exchange_of_pair hfacts hpair
  obtain ⟨rest, hrest⟩ := hgrow
  have hpair' : (handler'.infos.map (·.bindingPair))[place]? = some pair := by
    rw [← hrest, List.getElem?_append_left (List.getElem?_eq_some_iff.mp hpair).1, hpair]
  obtain ⟨hmem', hexchange', hkey'⟩ := exchange_of_pair hfacts' hpair'
  exact ⟨hmem', hexchange'.trans hexchange.symm, hkey'.trans hkey.symm⟩

/-- The channel that is being set up is in the table. -/
def SetupPhase.Known (handler : ChannelHandler Callback) : SetupPhase → Prop
  | .idle => True
  | .refused _ channel | .opened _ channel | .declared _ channel | .bound _ channel _ =>
      channel ∈ handler.getChannelList

/-- The automaton accepts as much with more pairs in the table. -/
theorem SetupPhase.accepts_mono {handler handler' : ChannelHandler Callback}
    (hgrow : PairsGrow handler handler') (hfacts : HandlerFacts handler)
    (hfacts' : HandlerFacts handler') {phase next : SetupPhase} {call : AmqpCall}
    (hknown : phase.Known handler) (h : phase.accepts handler call = some next) :
    phase.accepts handler' call = some next ∧ next.Known handler := by
  unfold SetupPhase.accepts at h
  split at h
  · next conn channel reply =>
      split at h
      · next hmem =>
          cases h
          constructor
          · simp only [SetupPhase.accepts, if_pos (hgrow.keeps hfacts hfacts' hmem).1]
          · split
            · exact hmem
            · split
              · exact hmem
              · trivial
      · cases h
  · next hnot =>
      split at h
      · next hnone =>
          cases h
          refine ⟨?_, trivial⟩
          cases call <;> simp_all [SetupPhase.accepts, AmqpCall.onChannel]
      · cases h
  · split at h
    · next hsame =>
        cases h
        exact ⟨by simp only [SetupPhase.accepts, if_pos hsame], trivial⟩
    · cases h
  · split at h
    · next hsame =>
        cases h
        exact ⟨by simp only [SetupPhase.accepts, if_pos hsame], hknown⟩
    · cases h
  · next conn channel conn' channel' queue exchange key reply =>
      split at h
      · next hsame =>
          cases h
          obtain ⟨-, hexchange, hkey⟩ := hgrow.keeps hfacts hfacts' hknown
          rw [← hexchange, ← hkey] at hsame
          constructor
          · simp only [SetupPhase.accepts, if_pos hsame]
          · split
            · exact hknown
            · trivial
      · cases h
  · split at h
    · next hsame =>
        cases h
        exact ⟨by simp only [SetupPhase.accepts, if_pos hsame], trivial⟩
    · cases h
  · cases h

/-- Calls in order stay in order when the table grows. -/
theorem replay_grow {handler handler' : ChannelHandler Callback}
    (hgrow : PairsGrow handler handler') (hbuilt : Built handler) (hbuilt' : Built handler')
    {calls : List AmqpCall} {phase : SetupPhase}
    (h : replay (SetupPhase.accepts handler) .idle calls = some phase) :
    replay (SetupPhase.accepts handler') .idle calls = some phase := by
  have hidle : SetupPhase.Known handler .idle := trivial
  refine replay_mono (SetupPhase.Known handler) hidle ?_ h
  intro before call after hknown haccepts
  exact SetupPhase.accepts_mono hgrow hbuilt.facts hbuilt'.facts hknown haccepts

/-! ### The steps -/

/-- Where no channel is being set up. -/
theorem setupPhase_of_not_needs (h : s.worker.needsConnection = false) :
    setupPhase s = .idle := by
  unfold setupPhase
  cases hpc : s.worker with
  | setupProperties | setupDeclare | setupBind | setupConsume =>
      rw [hpc] at h
      cases h
  | _ => rfl

theorem setupPhase_afterSetup {code : HareError} {caller : SetupCaller}
    (h : s.worker = afterSetup code caller) : setupPhase s = .idle := by
  apply setupPhase_of_not_needs
  rw [h]
  exact (afterSetup_relies code caller).1

/-- Calls about no channel leave the requests where they are. -/
theorem replay_elsewhere (handler : ChannelHandler Callback) {new : List AmqpCall}
    (hnew : ∀ call ∈ new, call.onChannel = none) :
    replay (SetupPhase.accepts handler) .idle new = some .idle := by
  induction new with
  | nil => rfl
  | cons call rest ih =>
      have hcall := hnew call List.mem_cons_self
      refine replay_cons (ih fun other hother => hnew other (.tail _ hother)) ?_
      cases call <;> simp_all [SetupPhase.accepts, AmqpCall.onChannel]

/-- Nothing is said, and the worker stands where it stood. -/
theorem SetupsOrdered.of_same (h : SetupsOrdered s) (hcalls : s'.calls = s.calls)
    (hhandler : s'.channelHandler = s.channelHandler) (hphase : setupPhase s' = setupPhase s) :
    SetupsOrdered s' := by
  rw [SetupsOrdered, hcalls, hhandler, hphase]
  exact h

/-- Something is said that is about no channel, while none is being set up. -/
theorem SetupsOrdered.elsewhere (h : SetupsOrdered s) (hidle : setupPhase s = .idle)
    (new : List AmqpCall) (hcalls : s'.calls = new ++ s.calls)
    (hnew : ∀ call ∈ new, call.onChannel = none)
    (hhandler : s'.channelHandler = s.channelHandler) (hidle' : setupPhase s' = .idle) :
    SetupsOrdered s' := by
  rw [SetupsOrdered, hidle] at h
  rw [SetupsOrdered, hcalls, hhandler, hidle', replay_append, h]
  exact replay_elsewhere s.channelHandler hnew

/-- The next request is made. -/
theorem SetupsOrdered.request (h : SetupsOrdered s) {call : AmqpCall}
    (hcalls : s'.calls = call :: s.calls) (hhandler : s'.channelHandler = s.channelHandler)
    (hcall : (setupPhase s).accepts s.channelHandler call = some (setupPhase s')) :
    SetupsOrdered s' := by
  rw [SetupsOrdered, hcalls, hhandler]
  exact replay_cons h hcall

/-- `openChannel` on a channel of the table. -/
theorem SetupsOrdered.openStep {input : WorkerInput} {caller : SetupCaller} {channel : Int}
    {base : ConnectionBase} (h : SetupsOrdered s) (hpc : s.worker = .setupOpen caller channel)
    (hbase : s.connection = some base) (hknown : channel ∈ s.channelHandler.getChannelList) :
    SetupsOrdered { s with
      calls := (base.openChannel channel input.reply input.closeOkStatus).calls ++ s.calls
      worker := setupGoesOn caller channel
        (base.openChannel channel input.reply input.closeOkStatus).code
        (.setupProperties caller channel) } := by
  have hconn : currentConn s = base.conn := by rw [currentConn, hbase, Option.bind_some]
  have hidle : setupPhase s = .idle := setupPhase_of_not_needs (by rw [hpc]; rfl)
  rw [SetupsOrdered, hidle] at h
  cases hup : base.isConnected with
  | false =>
      have heq : base.openChannel channel input.reply input.closeOkStatus =
          ⟨.serverConnectionFailure, base, []⟩ := by
        simp [openChannel, hup]
      rw [heq]
      exact h
  | true =>
      have hopened : ∀ phase, (if decodeRpcReply input.reply = .allGood then
            SetupPhase.opened base.conn channel
          else if decodeRpcReply input.reply = .channelException then .refused base.conn channel
          else .idle) = phase →
          replay (SetupPhase.accepts s.channelHandler) .idle
            (.channelOpen base.conn channel input.reply :: s.calls) = some phase := by
        rintro phase rfl
        refine replay_cons h ?_
        simp only [SetupPhase.accepts, if_pos hknown]
      by_cases hgood : decodeRpcReply input.reply = .allGood
      · simpa [SetupsOrdered, openChannel, hup, hgood, setupGoesOn, setupPhase, currentConn, hbase]
          using hopened _ (if_pos hgood)
      · by_cases hexception : decodeRpcReply input.reply = .channelException
        · have hrefused := hopened (.refused base.conn channel)
            (by rw [if_neg hgood, if_pos hexception])
          rw [SetupsOrdered]
          simp only [openChannel, hup, if_true, hexception]
          refine replay_cons hrefused ?_
          simp [SetupPhase.accepts, setupGoesOn, setupPhase]
        · have hother := hopened .idle (by rw [if_neg hgood, if_neg hexception])
          simpa [SetupsOrdered, openChannel, hup, hgood, hexception, setupGoesOn, setupPhase]
            using hother

/-- A step of the worker. -/
theorem SetupsOrdered.worker {input : WorkerInput} (h : SetupsOrdered s)
    (hbuilt : Built s.channelHandler)
    (hknown : ∀ channel ∈ s.worker.channels, channel ∈ s.channelHandler.getChannelList)
    (hmove : WorkerMove s input s') : SetupsOrdered s' := by
  have hidle : s.worker.needsConnection = false → setupPhase s = .idle :=
    setupPhase_of_not_needs
  cases hmove with
  | goto next hnext =>
      refine h.of_same rfl rfl ?_
      cases hnext with
      | listed hpc =>
          rw [hidle (by rw [hpc]; rfl)]
          rcases nextChannel_cases .allGood input.order with ⟨-, h⟩ | ⟨-, h⟩ | ⟨_, _, -, h⟩ <;>
            simp [h, setupPhase]
      | loopOn hpc | loopEnd hpc | foundConnected hpc | foundClosed hpc | pullOn hpc
      | pullOff hpc | failedRunning hpc | failedStopped hpc | pendingSome hpc
      | pendingNone hpc => simp [setupPhase, hpc]
  | crash => exact h
  | connected base hpc | connectFailed base hpc =>
      refine h.elsewhere (hidle (by rw [hpc]; rfl)) _ rfl ?_ rfl rfl
      exact fun call hcall => onChannel_of_session (connect_session _ _ _ call hcall)
  | emptied hpc => exact h.of_same rfl rfl (hidle (by rw [hpc]; rfl)).symm
  | opened caller channel base hpc hbase =>
      exact h.openStep hpc hbase (hknown channel (by rw [hpc]; exact List.mem_cons_self))
  | propertiesRead caller channel hpc =>
      exact h.of_same rfl rfl (by simp [setupPhase, hpc, currentConn])
  | declared caller channel base queue hpc hbase | refused caller channel base queue hpc hbase =>
      have hphase : setupPhase s = .opened base.conn channel := by
        simp [setupPhase, hpc, currentConn, hbase]
      have hgrow : PairsGrow s.channelHandler (s.channelHandler.setQueueName channel queue) := by
        rw [setQueueName_eq]
        exact pairsGrow_writeTo _ _ fun _ => rfl
      rw [SetupsOrdered, hphase] at h
      refine replay_cons (replay_grow hgrow hbuilt (hbuilt.setQueueName channel queue) h) ?_
      simp [SetupPhase.accepts, setupPhase, crash, currentConn, hbase]
  | bound caller channel base queue hpc hbase =>
      have hphase : setupPhase s = .declared base.conn channel := by
        simp [setupPhase, hpc, currentConn, hbase]
      refine h.request rfl rfl ?_
      rw [hphase]
      by_cases hgood : decodeRpcReply input.reply = .allGood <;>
        simp [SetupPhase.accepts, setupPhase, setupGoesOn, currentConn, hbase, hgood]
  | consumed caller channel base queue hpc hbase =>
      have hphase : setupPhase s = .bound base.conn channel queue := by
        simp [setupPhase, hpc, currentConn, hbase]
      refine h.request rfl rfl ?_
      rw [hphase, setupPhase_afterSetup rfl]
      simp [SetupPhase.accepts]
  | consumeFailed caller channel base queue hpc hbase =>
      have hphase : setupPhase s = .bound base.conn channel queue := by
        simp [setupPhase, hpc, currentConn, hbase]
      refine h.request rfl rfl ?_
      rw [hphase]
      simp [SetupPhase.accepts, setupPhase]
  | pushed caller channel code hpc =>
      refine h.of_same rfl rfl ?_
      rw [hidle (by rw [hpc]; rfl)]
      exact setupPhase_afterSetup rfl
  | closed base hpc =>
      have hsettled : s.worker.needsConnection = false := by
        rcases hpc with hpc | hpc <;> rw [hpc] <;> rfl
      exact h.elsewhere (hidle hsettled) _ rfl (onChannel_closeConnection _ _) rfl rfl
  | released base hpc =>
      refine h.elsewhere ?_ [_] rfl (by simp [AmqpCall.onChannel]) rfl rfl
      simp [setupPhase, hpc]
  | pulled base next hpc hbase hnext =>
      refine h.elsewhere (hidle (by rw [hpc]; rfl)) _ rfl ?_ rfl ?_
      · unfold consumeMessage
        split <;> simp [AmqpCall.onChannel]
      · rcases hnext with rfl | rfl | rfl <;> rfl
  | processed envelope hpc => exact h.of_same rfl rfl (hidle (by rw [hpc]; rfl)).symm
  | popped channel rest hpc => exact h.of_same rfl rfl (hidle (by rw [hpc]; rfl)).symm

/-- A step of a `Subscribe`, which may come in the middle of a set-up. -/
theorem SetupsOrdered.subscribe {pc : SubscribePc Callback} (h : SetupsOrdered s)
    (hbuilt : Built s.channelHandler) (hmove : SubscribeMove s pc s') : SetupsOrdered s' := by
  have hframe := hmove.frame
  have hphase : setupPhase s' = setupPhase s := by
    simp only [setupPhase, currentConn, hframe.worker, hframe.connection]
  have hgrow : PairsGrow s.channelHandler s'.channelHandler ∧ Built s'.channelHandler := by
    cases hmove with
    | known call | added call =>
        exact ⟨pairsGrow_add _ _ _, hbuilt.add ⟨call.exchange, call.bindingKey⟩ call.callback⟩
    | propertiesSet channel queueProps =>
        refine ⟨?_, hbuilt.setQueueProperties channel queueProps⟩
        show PairsGrow s.channelHandler (s.channelHandler.setQueueProperties channel queueProps)
        rw [setQueueProperties_eq]
        exact pairsGrow_writeTo _ _ fun _ => rfl
    | running | notRunning | pushed => exact ⟨.refl _, hbuilt⟩
  rw [SetupsOrdered, hframe.calls, hphase]
  exact replay_grow hgrow.1 hbuilt hgrow.2 h

/-- A step of the control thread, which closes the connection only when there is no
worker. -/
theorem SetupsOrdered.control {reply : AmqpRpcReply} {pc : ControlPc} (h : SetupsOrdered s)
    (hcall : CallFacts s (some pc)) (hmove : ControlMove s reply pc s') : SetupsOrdered s' := by
  have hhandler := hmove.frame.1
  by_cases halive : s.worker = .none
  · obtain ⟨new, hcalls, hnew⟩ := hmove.calls_elsewhere
    refine h.elsewhere (setupPhase_of_not_needs (by rw [halive]; rfl)) new hcalls hnew hhandler ?_
    apply setupPhase_of_not_needs
    rcases hmove.worker with hsame | ⟨-, hstart⟩ | ⟨-, hnone⟩
    · rw [hsame, halive]
      rfl
    · rw [hstart]
      rfl
    · rw [hnone]
      rfl
  · obtain ⟨hconn, hcalls⟩ := hcall.control_alone hmove halive
    refine h.of_same hcalls hhandler ?_
    rcases hmove.worker with hsame | ⟨hnone, -⟩ | ⟨hreturned, hnone⟩
    · simp only [setupPhase, currentConn, hsame, hconn]
    · exact absurd hnone halive
    · simp [setupPhase, hreturned, hnone]

/-- In every run with one control thread the requests of the channels are made in
order, one channel at a time and each on one connection; a queue is bound with the
exchange and the key that the table has for its channel, and consumed from under the
name it was bound under. -/
theorem setups_in_order (hs : system.ReachableUnder OneControl s) :
    replay (SetupPhase.accepts s.channelHandler) .idle s.calls = some (setupPhase s) := by
  have hinit : SetupsOrdered (initial : ConsumerState Callback) := rfl
  refine hs.induction SetupsOrdered hinit ?_
  intro s action s' hreach _ h hstep
  have hbuilt := built_reachable hreach
  obtain ⟨hstatus, hmove⟩ := move_of_step hstep
  cases hmove with
  | worker input _ hmove =>
      refine h.worker hbuilt ?_ hmove
      exact fun channel hchannel => waiting_known hreach channel (mem_waiting_of_worker hchannel)
  | subscribeRefused => exact h
  | subscribeBegins => exact h
  | subscribe k pc rest _ hpick hmove =>
      have hsame : SetupsOrdered { s with subscribes := rest } := h
      exact hsame.subscribe hbuilt hmove
  | begin call => exact h
  | control k reply pc rest _ hpick _ hmove =>
      obtain ⟨-, hcall⟩ := (threadFacts_reachable hreach hstatus).picked hpick
      have hsame : SetupsOrdered { s with controls := rest } := h
      exact hsame.control hcall hmove

/-- A second `Subscribe` comes while the queue of the first is being bound, and its
channel is set up next. -/
theorem setups_in_order_run :
    ∃ s : ConsumerState Nat,
      (system.ReachableUnder OneControl s ∧ s.channelHandler.getChannelList = [1, 2] ∧
        setupPhase s = .declared (some 0) 2) ∧
      replay (SetupPhase.accepts s.channelHandler) .idle s.calls = some (setupPhase s) := by
  obtain ⟨s, hs, htest⟩ := TransitionSystem.exists_reachableUnder_of_run
    (M := @system Nat) OneControl
    (List.flatten [startUp, subscribeTo 1, [.subscribe ⟨[101], [2], 7, {}⟩],
      List.replicate 4 (.worker {}), [.worker { order := [1] }], List.replicate 3 (.worker {}),
      List.replicate 2 (.subscribeStep 0), List.replicate 2 (.worker {}),
      List.replicate 2 (.subscribeStep 0), List.replicate 9 (.worker {})])
    (fun s => decide (s.channelHandler.getChannelList = [1, 2] ∧
      setupPhase s = .declared (some 0) 2)) (by decide +kernel)
  exact ⟨s, ⟨hs, of_decide_eq_true htest⟩, setups_in_order hs⟩

end Consumer
end HareCpp
