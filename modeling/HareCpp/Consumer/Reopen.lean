import HareCpp.ChannelState
import HareCpp.Consumer.Subscriptions

/-!
# When the consumer opens a channel again

A channel gets to `setupAndConsume` by three ways: the list that
`startConsumption` takes, the push of a `Subscribe`, and the push of a set-up
that failed.  `SetUpOnce` is the condition under which no channel takes two of
them on one connection:

* when the list is taken, no channel is pending and no `Subscribe` is about to
  push one, as the list has it already;
* a set-up that fails after the channel was opened leaves the channel closed,
  or the connection is closed next.

`waiting` are the channels under way to `setupAndConsume`.  The invariant is that
each is there once and none of them is open, but for the one that is just being
set up.
-/

namespace HareCpp
namespace Consumer

open Library ConnectionBase ChannelHandler

variable {Callback : Type} {s s' : ConsumerState Callback}

/-! ### The condition -/

/-- The set-up that `bindQueue` or `consume` is called for next. -/
def WorkerPc.attaching : WorkerPc → Option (SetupCaller × Int)
  | .setupBind caller channel _ | .setupConsume caller channel _ => some (caller, channel)
  | _ => Option.none

/-- The step for the channel succeeds, or fails in a way that leaves the channel
closed: by a channel exception, on a channel that is closed already, or by a
server failure inside `startConsumption`, which closes the connection. -/
def LeavesClosed (s : ConsumerState Callback) (reply : AmqpRpcReply) (caller : SetupCaller)
    (channel : Int) : Prop :=
  decodeRpcReply reply = .allGood ∨ decodeRpcReply reply = .channelException ∨
    channelIsOpen (currentConn s) channel s.calls = false ∨
    (caller ≠ .retry ∧ serverFailure (decodeRpcReply reply) = true)

/-- The condition on the steps of the worker. -/
def SetUpOnce (s : ConsumerState Callback) : Action Callback → Prop
  | .worker input =>
      (s.worker = .startList → s.pendingChannels = [] ∧ inFlight s = []) ∧
        ∀ setup ∈ s.worker.attaching, LeavesClosed s input.reply setup.1 setup.2
  | _ => True

instance (s : ConsumerState Callback) (reply : AmqpRpcReply) (caller : SetupCaller)
    (channel : Int) : Decidable (LeavesClosed s reply caller channel) :=
  inferInstanceAs (Decidable (_ ∨ _))

instance (s : ConsumerState Callback) :
    (action : Action Callback) → Decidable (SetUpOnce s action)
  | .worker _ => inferInstanceAs (Decidable (_ ∧ _))
  | .subscribe _ | .subscribeStep _ | .begin _ | .control _ _ => inferInstanceAs (Decidable True)

/-! ### The invariant -/

/-- The channels under way to `setupAndConsume`. -/
def waiting (s : ConsumerState Callback) : List Int :=
  s.pendingChannels ++ (inFlight s ++ s.worker.channels)

/-- The channels that may be open while they are under way. -/
def WorkerPc.mayBeOpen : WorkerPc → Int → Prop
  | .setupProperties _ channel, c | .setupDeclare _ channel _, c | .setupBind _ channel _, c
  | .setupConsume _ channel _, c => c = channel
  | .setupPush caller channel code, c =>
      c = channel ∧ caller ≠ .retry ∧ serverFailure code = true
  | .startClose, _ => True
  | _, _ => False

/-- The list has not been taken for a new connection. -/
def WorkerPc.unlisted : WorkerPc → Bool
  | .startEmpty | .startList => true
  | _ => false

/-- Each channel under way is there once and known to the handler; none consumes,
and none is open but for the exceptions above. -/
structure SetupFacts (s : ConsumerState Callback) : Prop where
  nodup : (waiting s).Nodup
  known : ∀ c ∈ waiting s, c ∈ s.channelHandler.getChannelList
  opened : ∀ c, channelIsOpen (currentConn s) c s.calls = true →
    c ∈ s.channelHandler.getChannelList ∧ (c ∈ waiting s → s.worker.mayBeOpen c)
  consumes : ∀ c, channelConsumes (currentConn s) c s.calls = true →
    c ∈ s.channelHandler.getChannelList ∧ c ∉ waiting s
  fresh : s.worker.unlisted = true → NoneActive (currentConn s) s.calls
  guarded : Guarded NoReopen s.calls

/-- Nothing is active on a connection that is down. -/
theorem SessionFacts.noneActive (hsession : SessionFacts s) (hdown : isConnected s = false) :
    NoneActive (currentConn s) s.calls := by
  refine noneActive_of_not_live hsession.sound.callsSound.guarded ?_
  intro h hconn hlive
  obtain ⟨base, hbase, hh⟩ := Option.bind_eq_some_iff.mp hconn
  have hup := (hsession.sound.baseSound base hbase).connected_iff.mpr ⟨h, hh, hlive⟩
  rw [isConnected_of_connection hbase, hup] at hdown
  cases hdown

/-- The facts where nothing is active. -/
theorem SetupFacts.of_noneActive (hactive : NoneActive (currentConn s) s.calls)
    (hnodup : (waiting s).Nodup) (hknown : ∀ c ∈ waiting s, c ∈ s.channelHandler.getChannelList)
    (hguarded : Guarded NoReopen s.calls) : SetupFacts s := by
  refine ⟨hnodup, hknown, ?_, ?_, fun _ => hactive, hguarded⟩
  · intro c hopen
    rw [(hactive c).1] at hopen
    cases hopen
  · intro c hconsumes
    rw [(hactive c).2] at hconsumes
    cases hconsumes

/-- Channels that leave the way, and channels that change places on it. -/
theorem SetupFacts.waiting_subperm (hfacts : SetupFacts s)
    (hwaiting : (waiting s').Subperm (waiting s))
    (hlist : s.channelHandler.getChannelList ⊆ s'.channelHandler.getChannelList) :
    (waiting s').Nodup ∧ ∀ c ∈ waiting s', c ∈ s'.channelHandler.getChannelList := by
  obtain ⟨l, hperm, hsub⟩ := hwaiting
  refine ⟨hperm.nodup_iff.mp (hfacts.nodup.sublist hsub), ?_⟩
  intro c hc
  exact hlist (hfacts.known c (hsub.subset (hperm.mem_iff.mpr hc)))

/-- A step after which nothing is active. -/
theorem SetupFacts.of_reset (hfacts : SetupFacts s)
    (hactive : NoneActive (currentConn s') s'.calls)
    (hlist : s'.channelHandler.getChannelList = s.channelHandler.getChannelList)
    (hwaiting : (waiting s').Subperm (waiting s)) (hguarded : Guarded NoReopen s'.calls) :
    SetupFacts s' := by
  obtain ⟨hnodup, hknown⟩ := hfacts.waiting_subperm hwaiting (by rw [hlist]; exact fun _ h => h)
  exact .of_noneActive hactive hnodup hknown hguarded

/-- The same channels are under way. -/
theorem waiting_same (hpending : s'.pendingChannels = s.pendingChannels)
    (hsubscribes : s'.subscribes = s.subscribes)
    (hworker : s'.worker.channels = s.worker.channels) : (waiting s').Subperm (waiting s) := by
  rw [waiting, waiting, inFlight, inFlight, hpending, hsubscribes, hworker]

/-- Calls that have nothing to do with channels. -/
def quiet : AmqpCall → Bool
  | .consumeMessage .. | .maybeReleaseBuffers _ => true
  | _ => false

theorem effect_of_quiet {call : AmqpCall} (hquiet : quiet call = true) (h : Option Nat) (c : Int) :
    channelEffect h c call = none ∧ consumeEffect h c call = none := by
  cases call <;> first | exact ⟨rfl, rfl⟩ | cases hquiet

theorem noReopen_of_quiet {call : AmqpCall} (hquiet : quiet call = true)
    (past : List AmqpCall) : NoReopen past call := by
  apply noReopen_of_not_open
  rintro conn channel reply rfl
  cases hquiet

/-- A step that makes no calls about channels and brings no new channel under
way. -/
theorem SetupFacts.of_frame (hfacts : SetupFacts s) (hconn : s'.connection = s.connection)
    (new : List AmqpCall) (hcalls : s'.calls = new ++ s.calls)
    (hnew : ∀ call ∈ new, quiet call = true)
    (hlist : s'.channelHandler.getChannelList = s.channelHandler.getChannelList)
    (hwaiting : (waiting s').Subperm (waiting s))
    (hopen : ∀ c ∈ waiting s', s.worker.mayBeOpen c → s'.worker.mayBeOpen c)
    (hfresh : s'.worker.unlisted = true → s.worker.unlisted = true) : SetupFacts s' := by
  have hcurrent : currentConn s' = currentConn s := by rw [currentConn, currentConn, hconn]
  have hsameOpen : ∀ c, channelIsOpen (currentConn s') c s'.calls =
      channelIsOpen (currentConn s) c s.calls := by
    intro c
    rw [hcurrent, hcalls]
    exact latest_append (fun call hcall => (effect_of_quiet (hnew call hcall) _ c).1) _
  have hsameConsumes : ∀ c, channelConsumes (currentConn s') c s'.calls =
      channelConsumes (currentConn s) c s.calls := by
    intro c
    rw [hcurrent, hcalls]
    exact latest_append (fun call hcall => (effect_of_quiet (hnew call hcall) _ c).2) _
  obtain ⟨hnodup, hknown⟩ := hfacts.waiting_subperm hwaiting (by rw [hlist]; exact fun _ h => h)
  refine ⟨hnodup, hknown, ?_, ?_, ?_, ?_⟩
  · intro c hc
    rw [hsameOpen] at hc
    obtain ⟨hmem, hmay⟩ := hfacts.opened c hc
    exact ⟨hlist ▸ hmem, fun hw => hopen c hw (hmay (hwaiting.subset hw))⟩
  · intro c hc
    rw [hsameConsumes] at hc
    obtain ⟨hmem, hnot⟩ := hfacts.consumes c hc
    exact ⟨hlist ▸ hmem, fun hw => hnot (hwaiting.subset hw)⟩
  · intro hunlisted c
    rw [hsameOpen, hsameConsumes]
    exact hfacts.fresh (hfresh hunlisted) c
  · rw [hcalls]
    exact Guarded.append (fun call hcall past => noReopen_of_quiet (hnew call hcall) past)
      hfacts.guarded

/-- A step of `setupAndConsume`: its calls are about one channel under way. -/
theorem SetupFacts.of_call (hfacts : SetupFacts s) (hconn : s'.connection = s.connection)
    (new : List AmqpCall) {channel : Int} (hcalls : s'.calls = new ++ s.calls)
    (honly : ∀ call ∈ new, call.onChannel = some channel)
    (hlist : s'.channelHandler.getChannelList = s.channelHandler.getChannelList)
    (hwaiting : (waiting s').Subperm (waiting s)) (hchannel : channel ∈ waiting s)
    (hothers : ∀ c, s.worker.mayBeOpen c → c = channel)
    (hopen : channel ∈ waiting s' → channelIsOpen (currentConn s) channel s'.calls = true →
      s'.worker.mayBeOpen channel)
    (hconsumes : channel ∈ waiting s' → channelConsumes (currentConn s) channel s'.calls = false)
    (hlisted : s'.worker.unlisted = false) (hguarded : Guarded NoReopen s'.calls) :
    SetupFacts s' := by
  have hcurrent : currentConn s' = currentConn s := by rw [currentConn, currentConn, hconn]
  have hsame : ∀ c, c ≠ channel →
      channelIsOpen (currentConn s) c s'.calls = channelIsOpen (currentConn s) c s.calls ∧
      channelConsumes (currentConn s) c s'.calls = channelConsumes (currentConn s) c s.calls := by
    intro c hne
    rw [hcalls]
    constructor
    · exact latest_append (fun call hcall => (effect_of_onChannel (honly call hcall) hne _).1) _
    · exact latest_append (fun call hcall => (effect_of_onChannel (honly call hcall) hne _).2) _
  obtain ⟨hnodup, hknown⟩ := hfacts.waiting_subperm hwaiting (by rw [hlist]; exact fun _ h => h)
  refine ⟨hnodup, hknown, ?_, ?_, ?_, hguarded⟩
  · intro c hc
    rw [hcurrent] at hc
    by_cases hne : c = channel
    · subst hne
      exact ⟨hlist ▸ hfacts.known c hchannel, fun hw => hopen hw hc⟩
    · rw [(hsame c hne).1] at hc
      obtain ⟨hmem, hmay⟩ := hfacts.opened c hc
      exact ⟨hlist ▸ hmem, fun hw => absurd (hothers c (hmay (hwaiting.subset hw))) hne⟩
  · intro c hc
    rw [hcurrent] at hc
    by_cases hne : c = channel
    · subst hne
      refine ⟨hlist ▸ hfacts.known c hchannel, fun hw => ?_⟩
      rw [hconsumes hw] at hc
      cases hc
    · rw [(hsame c hne).2] at hc
      obtain ⟨hmem, hnot⟩ := hfacts.consumes c hc
      exact ⟨hlist ▸ hmem, fun hw => hnot (hwaiting.subset hw)⟩
  · intro hunlisted
    rw [hlisted] at hunlisted
    cases hunlisted

/-- A channel under way that may not be open is closed. -/
theorem SetupFacts.closed (hfacts : SetupFacts s) {channel : Int} (hchannel : channel ∈ waiting s)
    (hmay : ¬s.worker.mayBeOpen channel) :
    channelIsOpen (currentConn s) channel s.calls = false := by
  by_contra hopen
  exact hmay ((hfacts.opened channel (by simpa using hopen)).2 hchannel)

/-- A channel under way does not consume. -/
theorem SetupFacts.idle (hfacts : SetupFacts s) {channel : Int} (hchannel : channel ∈ waiting s) :
    channelConsumes (currentConn s) channel s.calls = false := by
  by_contra hconsumes
  exact (hfacts.consumes channel (by simpa using hconsumes)).2 hchannel

/-- The channel that is being set up is under way. -/
theorem mem_waiting_of_worker {channel : Int} (h : channel ∈ s.worker.channels) :
    channel ∈ waiting s :=
  List.mem_append_right _ (List.mem_append_right _ h)

/-! ### Steps of the worker -/

/-- `openChannel` on the channel in hand, which is closed. -/
theorem SetupFacts.openStep {input : WorkerInput} {caller : SetupCaller} {channel : Int}
    {base : ConnectionBase} (hfacts : SetupFacts s)
    (hpc : s.worker = .setupOpen caller channel) (hbase : s.connection = some base) :
    SetupFacts { s with
      calls := (base.openChannel channel input.reply input.closeOkStatus).calls ++ s.calls
      worker := setupGoesOn caller channel
        (base.openChannel channel input.reply input.closeOkStatus).code
        (.setupProperties caller channel) } := by
  have hconn : currentConn s = base.conn := by simp [currentConn, hbase]
  have hchannels : (setupGoesOn caller channel
      (base.openChannel channel input.reply input.closeOkStatus).code
      (.setupProperties caller channel)).channels = s.worker.channels := by
    rw [channels_setupGoesOn caller channel _ rfl, hpc]
    rfl
  have hhand : channel ∈ waiting s := mem_waiting_of_worker (by simp [hpc, WorkerPc.channels])
  have hclosed : channelIsOpen (currentConn s) channel s.calls = false :=
    hfacts.closed hhand (by simp [hpc, WorkerPc.mayBeOpen])
  rcases openChannel_cases base channel input.reply input.closeOkStatus with
    ⟨-, heq⟩ | ⟨after, -, heq, hafter⟩
  · -- no call was made, and the channel goes back to the queue
    rw [heq] at hchannels ⊢
    refine hfacts.of_frame rfl [] rfl (by simp) rfl (waiting_same rfl rfl hchannels) ?_
      (by simp [setupGoesOn, WorkerPc.unlisted])
    intro c _ hmay
    simp [hpc, WorkerPc.mayBeOpen] at hmay
  · rw [heq] at hchannels ⊢
    have honly : ∀ call ∈ after ++ [.channelOpen base.conn channel input.reply],
        call.onChannel = some channel := by
      intro call hcall
      rcases List.mem_append.mp hcall with hmem | hmem
      · rw [hafter call hmem]
        rfl
      · rw [List.mem_singleton.mp hmem]
        rfl
    refine hfacts.of_call rfl _ rfl honly rfl (waiting_same rfl rfl hchannels) hhand ?_ ?_ ?_ ?_ ?_
    · intro c hmay
      simp [hpc, WorkerPc.mayBeOpen] at hmay
    · intro _ hopen
      rcases setupGoesOn_cases caller channel (decodeRpcReply input.reply)
        (.setupProperties caller channel) with ⟨-, hnext⟩ | ⟨hcode, -⟩
      · show (setupGoesOn caller channel _ _).mayBeOpen channel
        rw [hnext]
        rfl
      · -- an open that failed does not open the channel
        rw [channelIsOpen_append_of_closed ?_ hclosed] at hopen
        · cases hopen
        · intro call hcall heffect
          obtain ⟨reply, rfl, hgood⟩ := channelEffect_eq_true heffect
          rcases List.mem_append.mp hcall with hmem | hmem
          · cases hafter _ hmem
          · have hsame := List.mem_singleton.mp hmem
            rw [AmqpCall.channelOpen.injEq] at hsame
            exact hcode (hsame.2.2 ▸ hgood)
    · intro _
      refine latest_append_of_false ?_ (hfacts.idle hhand)
      intro call hcall heffect
      obtain ⟨queue, reply, rfl, -⟩ := consumeEffect_eq_true heffect
      rcases List.mem_append.mp hcall with hmem | hmem
      · cases hafter _ hmem
      · cases List.mem_singleton.mp hmem
    · rcases setupGoesOn_cases caller channel (decodeRpcReply input.reply)
        (.setupProperties caller channel) with ⟨-, hnext⟩ | ⟨-, hnext⟩ <;>
        simp [hnext, WorkerPc.unlisted]
    · show Guarded NoReopen ((after ++ [_]) ++ s.calls)
      rw [List.append_assoc]
      refine Guarded.append ?_ ⟨?_, hfacts.guarded⟩
      · intro call hcall past
        rw [hafter call hcall]
        exact noReopen_of_not_open (by simp) past
      · intro conn' channel' reply' hsame
        cases hsame
        rw [← hconn]
        exact hclosed

/-- `declareQueue`, `bindQueue` and a `consume` that fails: the channel stays in
hand, and it may be open where the worker goes on. -/
theorem SetupFacts.attach (hfacts : SetupFacts s) (caller : SetupCaller) {channel : Int}
    {call : AmqpCall} {handler : ChannelHandler Callback} {next : WorkerPc}
    (hchannels : s.worker.channels = channel :: caller.rest)
    (hmay : ∀ c, s.worker.mayBeOpen c → c = channel)
    (hcall : call.onChannel = some channel)
    (hnot : ∀ conn c reply, call ≠ .channelOpen conn c reply)
    (hnotConsumed : ∀ h c, consumeEffect h c call ≠ some true)
    (hlist : handler.getChannelList = s.channelHandler.getChannelList)
    (hnext : next.channels = channel :: caller.rest)
    (hopen : channelIsOpen (currentConn s) channel (call :: s.calls) = true →
      next.mayBeOpen channel) :
    SetupFacts { s with calls := call :: s.calls, channelHandler := handler, worker := next } := by
  have hhand : channel ∈ waiting s := mem_waiting_of_worker (by simp [hchannels])
  refine hfacts.of_call rfl [call] rfl ?_ hlist
    (waiting_same rfl rfl (hnext.trans hchannels.symm)) hhand hmay (fun _ => hopen) ?_ ?_ ?_
  · intro other hother
    rw [List.mem_singleton.mp hother]
    exact hcall
  · intro _
    show latest _ ([call] ++ s.calls) = false
    refine latest_append_of_false ?_ (hfacts.idle hhand)
    intro other hother
    rw [List.mem_singleton.mp hother]
    exact hnotConsumed _ _
  · cases next <;> first | rfl | cases hnext
  · exact ⟨noReopen_of_not_open hnot _, hfacts.guarded⟩

/-- `declareQueue`, whatever comes of it. -/
theorem SetupFacts.declareStep {reply : AmqpRpcReply} {caller : SetupCaller} {channel : Int}
    {base : ConnectionBase} {queue : AmqpBytes} {queueProps : QueueProperties}
    (hfacts : SetupFacts s) (hpc : s.worker = .setupDeclare caller channel queueProps) :
    SetupFacts { s with
      calls := .queueDeclare base.conn channel queueProps reply :: s.calls
      channelHandler := s.channelHandler.setQueueName channel queue
      worker := .setupBind caller channel queue } := by
  refine hfacts.attach caller (by rw [hpc]; rfl) ?_ rfl (by simp) ?_
    (getChannelList_setQueueName _ _ _) rfl (fun _ => rfl)
  · intro c hmay
    rwa [hpc] at hmay
  · intro h c heffect
    obtain ⟨_, _, heq, -⟩ := consumeEffect_eq_true heffect
    cases heq

/-- A failed `bindQueue` or `consume` leaves the channel closed, or the connection
is closed next. -/
theorem mayBeOpen_of_leavesClosed {reply : AmqpRpcReply} {caller : SetupCaller} {channel : Int}
    {call : AmqpCall} (hleaves : LeavesClosed s reply caller channel)
    (hcode : decodeRpcReply reply ≠ .allGood)
    (hexception : decodeRpcReply reply = .channelException →
      channelEffect (currentConn s) channel call = some false)
    (hnot : channelEffect (currentConn s) channel call ≠ some true)
    (hopen : channelIsOpen (currentConn s) channel (call :: s.calls) = true) :
    (WorkerPc.setupPush caller channel (decodeRpcReply reply)).mayBeOpen channel := by
  rw [channelIsOpen_cons] at hopen
  rcases hleaves with hgood | hexc | hclosed | hserver
  · exact absurd hgood hcode
  · rw [hexception hexc] at hopen
    cases hopen
  · cases heffect : channelEffect (currentConn s) channel call with
    | none =>
        rw [heffect, Option.getD_none, hclosed] at hopen
        cases hopen
    | some flag =>
        rw [heffect, Option.getD_some] at hopen
        rw [heffect, hopen] at hnot
        exact absurd rfl hnot
  · exact ⟨rfl, hserver⟩

/-- A worker with nothing in hand has opened no channel that is under way. -/
theorem not_mayBeOpen_of_settled {pc : WorkerPc} (hsettled : pc.unsettled = false)
    (hnone : pc.channels = []) (c : Int) : ¬pc.mayBeOpen c := by
  cases pc <;> first | exact id | exact absurd hsettled (by decide) | cases hnone

theorem unsettled_of_unlisted {pc : WorkerPc} (h : pc.unlisted = true) : pc.unsettled = true := by
  cases pc <;> first | rfl | cases h

theorem unlisted_afterSetup (code : HareError) (caller : SetupCaller) :
    (afterSetup code caller).unlisted = false := by
  rcases afterSetup_place code caller with h | ⟨rest, channel, h⟩
  · simp only [List.mem_cons, List.not_mem_nil, or_false] at h
    rcases h with h | h | h | h <;> rw [h] <;> rfl
  · rw [h]
    rfl

/-- The channel that is being set up, and the others under way. -/
theorem waiting_perm {channel : Int} {caller : SetupCaller}
    (h : s.worker.channels = channel :: caller.rest) :
    (waiting s).Perm (channel :: (s.pendingChannels ++ (inFlight s ++ caller.rest))) := by
  rw [waiting, h, ← List.append_assoc, ← List.append_assoc]
  exact List.perm_middle

/-- A step of the worker with no open channel in hand, of which it brings none
under way. -/
theorem SetupFacts.of_closed (hfacts : SetupFacts s) (hclosed : ∀ c, ¬s.worker.mayBeOpen c)
    (hlisted : s'.worker.unlisted = false) (hconn : s'.connection = s.connection)
    (new : List AmqpCall) (hcalls : s'.calls = new ++ s.calls)
    (hnew : ∀ call ∈ new, quiet call = true)
    (hlist : s'.channelHandler.getChannelList = s.channelHandler.getChannelList)
    (hwaiting : (waiting s').Subperm (waiting s)) : SetupFacts s' := by
  refine hfacts.of_frame hconn new hcalls hnew hlist hwaiting ?_ ?_
  · exact fun c _ hmay => absurd hmay (hclosed c)
  · intro hunlisted
    rw [hlisted] at hunlisted
    cases hunlisted

/-- `Connect` ends with a handle on which nothing is active yet. -/
theorem SetupFacts.connectStep {input : WorkerInput} {base : ConnectionBase}
    (hfacts : SetupFacts s) (hsession : SessionFacts s) (hbase : s.connection = some base) :
    NoneActive (base.connect s.handles input.connect).base.conn
        ((base.connect s.handles input.connect).calls ++ s.calls) ∧
      Guarded NoReopen ((base.connect s.handles input.connect).calls ++ s.calls) := by
  have hplain := (hsession.sound.baseSound base hbase).plain
  obtain ⟨-, hconn, -⟩ := connect_handle hplain s.handles input.connect
  have hnew := connect_session base s.handles input.connect
  constructor
  · rw [hconn]
    refine noneActive_of_fresh fun call hcall hhandle => ?_
    rcases List.mem_append.mp hcall with hmem | hmem
    · exact hnew call hmem
    · have := hsession.sound.callsSound.numbered call hmem s.handles hhandle
      omega
  · exact guarded_of_not_open hfacts.guarded (not_open_connect base s.handles input.connect)

/-- `startConsumption` takes the list, with nothing else under way. -/
theorem SetupFacts.listStep {input : WorkerInput} (hfacts : SetupFacts s)
    (hhandler : HandlerFacts s.channelHandler) (hpc : s.worker = .startList)
    (horder : input.order.Perm s.channelHandler.getChannelList)
    (hpending : s.pendingChannels = []) (hflight : inFlight s = []) :
    SetupFacts { s with worker := nextChannel .allGood input.order } := by
  have hwaiting : waiting { s with worker := nextChannel .allGood input.order } =
      input.order := by
    rw [inFlight] at hflight
    rw [waiting, inFlight, hpending, hflight, channels_nextChannel]
    rfl
  refine SetupFacts.of_noneActive (hfacts.fresh (by rw [hpc]; rfl)) ?_ ?_ hfacts.guarded
  · rw [hwaiting]
    exact horder.nodup_iff.mpr hhandler.nodup_getChannelList
  · rw [hwaiting]
    exact fun c hc => horder.mem_iff.mp hc

/-- A `consume` that succeeds: the channel is no longer under way. -/
theorem SetupFacts.consumeStep {reply : AmqpRpcReply} {caller : SetupCaller} {channel : Int}
    {base : ConnectionBase} {queue : Option Bytes} (hfacts : SetupFacts s)
    (hpc : s.worker = .setupConsume caller channel queue) :
    SetupFacts (setupReturns { s with
      calls := .basicConsume base.conn channel queue reply :: s.calls } caller channel
        .allGood) := by
  have hchannels : s.worker.channels = channel :: caller.rest := by rw [hpc]; rfl
  have hperm := waiting_perm hchannels
  have hhand : channel ∈ waiting s := mem_waiting_of_worker (by simp [hchannels])
  have hrest : (afterSetup .allGood caller).channels = caller.rest := by
    rcases channels_afterSetup .allGood caller with ⟨hbad, -⟩ | h
    · exact absurd hbad (by decide)
    · exact h
  have hwaiting : waiting (setupReturns { s with
      calls := .basicConsume base.conn channel queue reply :: s.calls } caller channel
        .allGood) = s.pendingChannels ++ (inFlight s ++ caller.rest) := by
    rw [← hrest]
    rfl
  have hgone : channel ∉ s.pendingChannels ++ (inFlight s ++ caller.rest) :=
    (List.nodup_cons.mp (hperm.nodup_iff.mp hfacts.nodup)).1
  refine hfacts.of_call rfl [.basicConsume base.conn channel queue reply] rfl
    (by simp [AmqpCall.onChannel]) rfl ?_ hhand ?_ ?_ ?_
    (unlisted_afterSetup _ _) ⟨noReopen_of_not_open (by simp) _, hfacts.guarded⟩
  · rw [hwaiting]
    exact (List.sublist_cons_self channel _).subperm.trans hperm.symm.subperm
  · intro c hmay
    rwa [hpc] at hmay
  · intro hmem
    rw [hwaiting] at hmem
    exact absurd hmem hgone
  · intro hmem
    rw [hwaiting] at hmem
    exact absurd hmem hgone

/-- `setupAndConsume` pushes the channel it failed on, which is closed unless the
connection is closed next. -/
theorem SetupFacts.pushStep {caller : SetupCaller} {channel : Int} {code : HareError}
    (hfacts : SetupFacts s) (hpc : s.worker = .setupPush caller channel code) :
    SetupFacts (setupReturns { s with
      pendingChannels := s.pendingChannels ++ [channel] } caller channel code) := by
  have hchannels : s.worker.channels = channel :: caller.rest := by rw [hpc]; rfl
  have hperm := waiting_perm hchannels
  refine hfacts.of_frame rfl [] rfl (by simp) rfl ?_ ?_ ?_
  · refine List.Subperm.trans ?_ hperm.symm.subperm
    show (s.pendingChannels ++ [channel] ++
      (inFlight s ++ (afterSetup code caller).channels)).Subperm _
    rw [List.append_assoc]
    refine List.perm_middle.subperm.trans ?_
    rcases channels_afterSetup code caller with ⟨-, hclose⟩ | hrest
    · rw [hclose]
      have hflight := (List.nil_sublist caller.rest).append_left (inFlight s)
      exact ((hflight.append_left s.pendingChannels).cons_cons channel).subperm
    · rw [hrest]
      exact List.Subperm.refl _
  · intro c _ hmay
    rw [hpc] at hmay
    obtain ⟨-, hcaller, hserver⟩ := hmay
    show (afterSetup code caller).mayBeOpen c
    rcases afterSetup_cases code caller with ⟨hretry, -⟩ | ⟨_, -, -, hclose⟩ | ⟨_, -, hgood, -⟩
    · exact absurd hretry hcaller
    · rw [hclose]
      trivial
    · rw [hserver] at hgood
      cases hgood
  · intro hunlisted
    have hunlisted : (afterSetup code caller).unlisted = true := hunlisted
    rw [unlisted_afterSetup] at hunlisted
    cases hunlisted

/-- A step of the worker keeps the set-up facts. -/
theorem SetupFacts.worker {input : WorkerInput} (hfacts : SetupFacts s)
    (hhandler : HandlerFacts s.channelHandler) (hsession : SessionFacts s)
    (hsession' : SessionFacts s') (honce : SetUpOnce s (.worker input))
    (hmove : WorkerMove s input s') : SetupFacts s' := by
  obtain ⟨hlistCond, hattachCond⟩ := honce
  cases hmove with
  | goto next hnext =>
      rcases hnext.settled with ⟨hpc, horder, rfl⟩ | ⟨hsettled, hnone, hsettled', hnone'⟩
      · obtain ⟨hpending, hflight⟩ := hlistCond hpc
        exact hfacts.listStep hhandler hpc horder hpending hflight
      · have hlisted : next.unlisted = false := by
          by_contra hunlisted
          rw [unsettled_of_unlisted (by simpa using hunlisted)] at hsettled'
          cases hsettled'
        exact hfacts.of_closed (not_mayBeOpen_of_settled hsettled hnone) hlisted rfl [] rfl
          (by simp) rfl (waiting_same rfl rfl (hnone'.trans hnone.symm))
  | crash => exact hfacts.of_frame rfl [] rfl (by simp) rfl (.refl _) (fun _ _ h => h) (fun h => h)
  | connected base hpc hbase hcode =>
      obtain ⟨hactive, hguarded⟩ := hfacts.connectStep hsession hbase
      exact hfacts.of_reset hactive rfl (waiting_same rfl rfl (by rw [hpc]; rfl)) hguarded
  | connectFailed base hpc hbase hcode =>
      obtain ⟨hactive, hguarded⟩ := hfacts.connectStep hsession hbase
      exact hfacts.of_reset hactive rfl (waiting_same rfl rfl (by rw [hpc]; rfl)) hguarded
  | emptied hpc =>
      refine hfacts.of_frame rfl [] rfl (by simp) rfl ?_ ?_ ?_
      · refine List.Sublist.subperm ?_
        rw [waiting, waiting, inFlight, inFlight, hpc]
        exact List.sublist_append_right _ _
      · intro c _ hmay
        simp [hpc, WorkerPc.mayBeOpen] at hmay
      · intro _
        rw [hpc]
        rfl
  | opened caller channel base hpc hbase => exact hfacts.openStep hpc hbase
  | propertiesRead caller channel hpc =>
      refine hfacts.of_frame rfl [] rfl (by simp) rfl (waiting_same rfl rfl ?_) ?_ ?_
      · rw [hpc]
        rfl
      · intro c _ hmay
        rwa [hpc] at hmay
      · intro hunlisted
        cases hunlisted
  | declared caller channel base queue hpc hbase =>
      exact hfacts.declareStep hpc
  | refused caller channel base queue hpc hbase =>
      exact (hfacts.declareStep hpc).of_frame rfl [] rfl (by simp) rfl (.refl _) (fun _ _ h => h)
        (fun h => h)
  | bound caller channel base queue hpc hbase =>
      have hconn : currentConn s = base.conn := by simp [currentConn, hbase]
      have hleaves : LeavesClosed s input.reply caller channel :=
        hattachCond (caller, channel) (by rw [hpc]; rfl)
      refine hfacts.attach caller (by rw [hpc]; rfl) ?_ rfl (by simp) ?_ rfl
        (channels_setupGoesOn caller channel _ rfl) ?_
      · intro c hmay
        rwa [hpc] at hmay
      · intro h c heffect
        obtain ⟨_, _, heq, -⟩ := consumeEffect_eq_true heffect
        cases heq
      · intro hopen
        rcases setupGoesOn_cases caller channel (decodeRpcReply input.reply)
          (.setupConsume caller channel queue) with ⟨-, hnext⟩ | ⟨hcode, hnext⟩
        · rw [hnext]
          rfl
        · rw [hnext]
          refine mayBeOpen_of_leavesClosed hleaves hcode ?_ ?_ hopen
          · intro hexception
            simp [channelEffect, hconn, hexception]
          · intro heffect
            obtain ⟨_, heq, -⟩ := channelEffect_eq_true heffect
            cases heq
  | consumed caller channel base queue hpc hbase hcode => exact hfacts.consumeStep hpc
  | consumeFailed caller channel base queue hpc hbase hcode =>
      have hconn : currentConn s = base.conn := by simp [currentConn, hbase]
      have hleaves : LeavesClosed s input.reply caller channel :=
        hattachCond (caller, channel) (by rw [hpc]; rfl)
      refine hfacts.attach caller (by rw [hpc]; rfl) ?_ rfl (by simp) ?_ rfl rfl ?_
      · intro c hmay
        rwa [hpc] at hmay
      · intro h c heffect
        obtain ⟨_, _, heq, hgood⟩ := consumeEffect_eq_true heffect
        rw [AmqpCall.basicConsume.injEq] at heq
        exact hcode (decodeRpcReply_of_normal (heq.2.2.2 ▸ hgood))
      · intro hopen
        refine mayBeOpen_of_leavesClosed hleaves hcode ?_ ?_ hopen
        · intro hexception
          simp [channelEffect, hconn, hexception]
        · intro heffect
          obtain ⟨_, heq, -⟩ := channelEffect_eq_true heffect
          cases heq
  | pushed caller channel code hpc => exact hfacts.pushStep hpc
  | closed base hpc hbase =>
      have hdown := hsession'.noneActive (closeConnection_isConnected base input.reply)
      refine hfacts.of_reset hdown rfl (waiting_same rfl rfl ?_)
        (guarded_of_not_open hfacts.guarded (not_open_closeConnection base input.reply))
      rcases hpc with hpc | hpc <;> rw [hpc] <;> rfl
  | released base hpc hbase =>
      exact hfacts.of_closed (by simp [hpc, WorkerPc.mayBeOpen]) rfl rfl
        [.maybeReleaseBuffers base.conn] rfl (by simp [quiet]) rfl
        (waiting_same rfl rfl (by rw [hpc]; rfl))
  | pulled base next hpc hbase hnext =>
      have hplace : next.channels = [] ∧ next.unlisted = false := by
        rcases hnext with rfl | rfl | rfl <;> exact ⟨rfl, rfl⟩
      refine hfacts.of_closed (by simp [hpc, WorkerPc.mayBeOpen]) hplace.2 rfl
        (base.consumeMessage input.reply).calls rfl ?_ rfl
        (waiting_same rfl rfl (hplace.1.trans (by rw [hpc]; rfl)))
      unfold consumeMessage
      split <;> simp [quiet]
  | processed envelope hpc =>
      exact hfacts.of_closed (by simp [hpc, WorkerPc.mayBeOpen]) rfl rfl [] rfl (by simp) rfl
        (waiting_same rfl rfl (by rw [hpc]; rfl))
  | popped channel rest hpc hpending =>
      refine hfacts.of_closed (by simp [hpc, WorkerPc.mayBeOpen]) rfl rfl [] rfl (by simp) rfl ?_
      refine List.Perm.subperm ?_
      rw [waiting, waiting, inFlight, inFlight, hpc, hpending]
      show (rest ++ (_ ++ [channel])).Perm (channel :: rest ++ (_ ++ []))
      rw [List.append_nil, ← List.append_assoc]
      exact List.perm_append_singleton channel _

/-! ### Steps of a `Subscribe` -/

/-- The channels under way, by the `Subscribe` that takes a step. -/
theorem waiting_perm_of_pick {k : Nat} {pc : SubscribePc Callback}
    {rest : List (SubscribePc Callback)} (hpick : pick s.subscribes k = some (pc, rest)) :
    (waiting s).Perm (s.pendingChannels ++
      (pc.channel.toList ++ rest.filterMap SubscribePc.channel ++ s.worker.channels)) := by
  have hflight : (inFlight s).Perm (pc.channel.toList ++ rest.filterMap SubscribePc.channel) := by
    refine ((perm_of_pick hpick).filterMap _).trans ?_
    cases hchannel : pc.channel <;> simp [hchannel]
  exact (hflight.append_right _).append_left _

/-- A step of a `Subscribe` after `AddChannelProcessor`, which brings no new
channel under way. -/
theorem SetupFacts.of_user (hfacts : SetupFacts s) (hframe : UserFrame s s')
    (hlist : s'.channelHandler.getChannelList = s.channelHandler.getChannelList)
    (hwaiting : (waiting s').Subperm (waiting s)) : SetupFacts s' := by
  refine hfacts.of_frame hframe.connection [] hframe.calls (by simp) hlist hwaiting ?_ ?_
  · intro c _ hmay
    rwa [hframe.worker]
  · rw [hframe.worker]
    exact fun h => h

/-- A new channel is under way: it is not open, as it was not known. -/
theorem SetupFacts.of_added (hfacts : SetupFacts s) (hframe : UserFrame s s') {channel : Int}
    (hnew : channel ∉ s.channelHandler.getChannelList)
    (hlist : s'.channelHandler.getChannelList = s.channelHandler.getChannelList ++ [channel])
    (hwaiting : (waiting s').Perm (channel :: waiting s)) : SetupFacts s' := by
  have hcurrent : currentConn s' = currentConn s := by
    rw [currentConn, currentConn, hframe.connection]
  have hmem : ∀ c, c ∈ s.channelHandler.getChannelList →
      c ∈ s'.channelHandler.getChannelList ∧ (c ∈ waiting s' → c ∈ waiting s) := by
    intro c hc
    constructor
    · rw [hlist]
      exact List.mem_append_left _ hc
    · intro hw
      rcases List.mem_cons.mp (hwaiting.mem_iff.mp hw) with rfl | hold
      · exact absurd hc hnew
      · exact hold
  refine ⟨?_, ?_, ?_, ?_, ?_, ?_⟩
  · rw [hwaiting.nodup_iff, List.nodup_cons]
    exact ⟨fun hw => hnew (hfacts.known channel hw), hfacts.nodup⟩
  · intro c hc
    rw [hlist]
    rcases List.mem_cons.mp (hwaiting.mem_iff.mp hc) with rfl | hold
    · exact List.mem_append_right _ (List.mem_singleton.mpr rfl)
    · exact List.mem_append_left _ (hfacts.known c hold)
  · intro c hopen
    rw [hcurrent, hframe.calls] at hopen
    obtain ⟨hknown, hmay⟩ := hfacts.opened c hopen
    rw [hframe.worker]
    exact ⟨(hmem c hknown).1, fun hw => hmay ((hmem c hknown).2 hw)⟩
  · intro c hconsumes
    rw [hcurrent, hframe.calls] at hconsumes
    obtain ⟨hknown, hnot⟩ := hfacts.consumes c hconsumes
    exact ⟨(hmem c hknown).1, fun hw => hnot ((hmem c hknown).2 hw)⟩
  · rw [hcurrent, hframe.calls, hframe.worker]
    exact hfacts.fresh
  · rw [hframe.calls]
    exact hfacts.guarded

/-- A step of a `Subscribe` brings no new channel under way, or the one that it
adds to the table. -/
theorem SubscribeMove.waiting {k : Nat} {pc : SubscribePc Callback}
    {rest : List (SubscribePc Callback)} (hhandler : HandlerFacts s.channelHandler)
    (hpick : pick s.subscribes k = some (pc, rest))
    (hmove : SubscribeMove { s with subscribes := rest } pc s') :
    (s'.channelHandler.getChannelList = s.channelHandler.getChannelList ∧
      (Consumer.waiting s').Subperm (Consumer.waiting s)) ∨
    ∃ channel, channel ∉ s.channelHandler.getChannelList ∧
      s'.channelHandler.getChannelList = s.channelHandler.getChannelList ++ [channel] ∧
      (Consumer.waiting s').Perm (channel :: Consumer.waiting s) := by
  have hperm := waiting_perm_of_pick hpick
  cases hmove with
  | known call hchannel =>
      exact .inl ⟨hhandler.getChannelList_refused hchannel, hperm.symm.subperm⟩
  | added call hchannel =>
      obtain ⟨hfresh, hlist⟩ := hhandler.getChannelList_added hchannel
      refine .inr ⟨_, hfresh, hlist, ?_⟩
      exact List.perm_middle.trans (hperm.symm.cons _)
  | propertiesSet channel queueProps =>
      exact .inl ⟨getChannelList_setQueueProperties _ _ _, hperm.symm.subperm⟩
  | running channel hfree hrunning => exact .inl ⟨rfl, hperm.symm.subperm⟩
  | notRunning channel hfree hrunning =>
      refine .inl ⟨rfl, List.Subperm.trans ?_ hperm.symm.subperm⟩
      have hflight := List.sublist_cons_self channel
        (rest.filterMap SubscribePc.channel ++ s.worker.channels)
      exact (hflight.append_left s.pendingChannels).subperm
  | pushed channel =>
      refine .inl ⟨rfl, List.Subperm.trans ?_ hperm.symm.subperm⟩
      refine List.Perm.subperm ?_
      show (s.pendingChannels ++ [channel] ++ _).Perm _
      rw [List.append_assoc]
      rfl

/-- A step of a `Subscribe` keeps the set-up facts. -/
theorem SetupFacts.subscribe {k : Nat} {pc : SubscribePc Callback}
    {rest : List (SubscribePc Callback)} (hfacts : SetupFacts s)
    (hhandler : HandlerFacts s.channelHandler) (hpick : pick s.subscribes k = some (pc, rest))
    (hmove : SubscribeMove { s with subscribes := rest } pc s') : SetupFacts s' := by
  have hframe : UserFrame s s' := by
    obtain ⟨h1, h2, h3, h4, h5, h6, h7⟩ := hmove.frame
    exact ⟨h1, h2, h3, h4, h5, h6, h7⟩
  rcases hmove.waiting hhandler hpick with ⟨hlist, hwaiting⟩ | ⟨channel, hnew, hlist, hwaiting⟩
  · exact hfacts.of_user hframe hlist hwaiting
  · exact hfacts.of_added hframe hnew hlist hwaiting

/-! ### Steps of the control thread -/

/-- A control step leaves the connection alone or ends with one that is down, and
it opens no channel. -/
theorem ControlMove.connection {reply : AmqpRpcReply} {pc : ControlPc}
    (hmove : ControlMove s reply pc s') :
    (s'.connection = s.connection ∧ s'.calls = s.calls) ∨
    (isConnected s' = false ∧ ∃ new, s'.calls = new ++ s.calls ∧
      ∀ conn channel reply, .channelOpen conn channel reply ∉ new) := by
  cases hmove with
  | stopRefused => exact .inl (by simp)
  | stopped caller base =>
      refine .inr ⟨?_, _, stopReturns_calls _ _ _, not_open_closeConnection base reply⟩
      rw [isConnected_stopReturns]
      exact closeConnection_isConnected base reply
  | initConnection credentials =>
      exact .inr ⟨rfl, _, rfl, not_open_releaseCalls s.connection reply⟩
  | destroyClosed base hinit hbase =>
      exact .inr ⟨closeConnection_isConnected base reply, _, rfl,
        not_open_closeConnection base reply⟩
  | destroyed => exact .inr ⟨rfl, _, rfl, not_open_releaseCalls s.connection reply⟩
  | _ => exact .inl ⟨rfl, rfl⟩

/-- A step of a control call brings no channel under way. -/
theorem ControlMove.waiting {reply : AmqpRpcReply} {pc : ControlPc}
    (hmove : ControlMove s reply pc s') :
    (Consumer.waiting s').Subperm (Consumer.waiting s) := by
  obtain ⟨-, hsubscribes, -⟩ := hmove.frame
  have hchannels : s'.worker.channels = s.worker.channels := by
    rcases hmove.worker with hsame | ⟨hbefore, hafter⟩ | ⟨hbefore, hafter⟩
    · rw [hsame]
    · rw [hbefore, hafter]
      rfl
    · rw [hbefore, hafter]
      rfl
  rcases hmove.pending with hsame | ⟨-, hempty⟩
  · exact waiting_same hsame hsubscribes hchannels
  · rw [Consumer.waiting, Consumer.waiting, inFlight, inFlight, hempty, hsubscribes, hchannels]
    exact (List.sublist_append_right _ _).subperm

/-- A step of a control call keeps the set-up facts. -/
theorem SetupFacts.control {reply : AmqpRpcReply} {pc : ControlPc} (hfacts : SetupFacts s)
    (hsession' : SessionFacts s') (hmove : ControlMove s reply pc s') : SetupFacts s' := by
  have hlist : s'.channelHandler.getChannelList = s.channelHandler.getChannelList := by
    rw [hmove.frame.1]
  have hidle : s'.worker = s.worker ∨
      (s'.worker.unlisted = false ∧ ∀ c, ¬s.worker.mayBeOpen c) := by
    rcases hmove.worker with hsame | ⟨hbefore, hafter⟩ | ⟨hbefore, hafter⟩
    · exact .inl hsame
    · rw [hbefore, hafter]
      exact .inr ⟨rfl, fun _ h => h⟩
    · rw [hbefore, hafter]
      exact .inr ⟨rfl, fun _ h => h⟩
  have hwaiting := hmove.waiting
  rcases hmove.connection with ⟨hconn, hcalls⟩ | ⟨hdown, new, hcalls, hnew⟩
  · refine hfacts.of_frame hconn [] hcalls (by simp) hlist hwaiting ?_ ?_
    · intro c _ hmay
      rcases hidle with hsame | ⟨-, hnot⟩
      · rwa [hsame]
      · exact absurd hmay (hnot c)
    · intro hunlisted
      rcases hidle with hsame | ⟨hlisted, -⟩
      · rwa [← hsame]
      · rw [hlisted] at hunlisted
        cases hunlisted
  · refine hfacts.of_reset (hsession'.noneActive hdown) hlist hwaiting ?_
    rw [hcalls]
    exact guarded_of_not_open hfacts.guarded hnew

/-! ### Whole runs -/

/-- One control thread, and the condition above. -/
def SetUpOnceRun (s : ConsumerState Callback) (action : Action Callback) : Prop :=
  OneControl s action ∧ SetUpOnce s action

instance (s : ConsumerState Callback) (action : Action Callback) :
    Decidable (SetUpOnceRun s action) :=
  inferInstanceAs (Decidable (_ ∧ _))

/-- The set-up facts hold in every state of a run that meets the condition. -/
theorem setupFacts_reachable (hs : system.ReachableUnder SetUpOnceRun s) : SetupFacts s := by
  have hone : ∀ {t : ConsumerState Callback}, system.ReachableUnder SetUpOnceRun t →
      system.ReachableUnder OneControl t := fun ht => ht.mono fun _ _ h => h.1
  refine hs.induction SetupFacts ?_ ?_
  · refine SetupFacts.of_noneActive (fun c => ⟨rfl, rfl⟩) ?_ ?_ trivial
    · exact List.nodup_nil
    · simp [waiting, inFlight, system, initial, WorkerPc.channels]
  · intro s action s' hreach hallowed hfacts hstep
    have hsession' := sessionFacts_reachable (hone (.step hreach hallowed hstep))
    have hhandler := (built_reachable hreach).facts
    obtain ⟨-, hmove⟩ := move_of_step hstep
    cases hmove with
    | worker input _ hmove =>
        exact hfacts.worker hhandler (sessionFacts_reachable (hone hreach)) hsession' hallowed.2
          hmove
    | subscribeRefused =>
        exact hfacts.of_user ⟨rfl, rfl, rfl, rfl, rfl, rfl, rfl⟩ rfl (.refl _)
    | subscribeBegins =>
        exact hfacts.of_user ⟨rfl, rfl, rfl, rfl, rfl, rfl, rfl⟩ rfl (.refl _)
    | subscribe k pc rest _ hpick hmove => exact hfacts.subscribe hhandler hpick hmove
    | begin call =>
        exact hfacts.of_frame rfl [] rfl (by simp) rfl (.refl _) (fun _ _ h => h) (fun h => h)
    | control k reply pc rest _ hpick _ hmove =>
        have hsame : SetupFacts { s with controls := rest } :=
          hfacts.of_frame rfl [] rfl (by simp) rfl (.refl _) (fun _ _ h => h) (fun h => h)
        exact hsame.control hsession' hmove

/-- In every run that meets the condition, no channel is opened that is open, no
channel is pending twice, and none is pending that consumes. -/
theorem channels_set_up_once (hs : system.ReachableUnder SetUpOnceRun s) :
    Guarded NoReopen s.calls ∧ s.pendingChannels.Nodup ∧
      ∀ channel ∈ s.pendingChannels,
        channelConsumes (currentConn s) channel s.calls = false := by
  have hfacts := setupFacts_reachable hs
  refine ⟨hfacts.guarded, (List.nodup_append.mp hfacts.nodup).1, ?_⟩
  intro channel hchannel
  exact hfacts.idle (List.mem_append_left _ hchannel)

/-- The worker from the head of its loop, connected, over a time-out to the test of
the pending channels. -/
def pullNothing : List (Action Nat) :=
  [.worker {}, .worker {}, .worker {}, .worker {},
    .worker { reply := { replyType := .libraryException, libraryError := statusTimeout } }]

/-- A channel that was refused by a channel exception is pending again, next to
one that consumes. -/
theorem channels_set_up_once_run :
    ∃ s : ConsumerState Nat, (system.ReachableUnder SetUpOnceRun s ∧
      (s.pendingChannels = [2] ∧ channelConsumes (currentConn s) 1 s.calls = true)) ∧
      Guarded NoReopen s.calls ∧ s.pendingChannels.Nodup ∧
      ∀ channel ∈ s.pendingChannels,
        channelConsumes (currentConn s) channel s.calls = false := by
  obtain ⟨s, hs, htest⟩ := TransitionSystem.exists_reachableUnder_of_run (M := system) SetUpOnceRun
    (List.flatten [startUp, subscribeTo 97, connectAndSetUp, subscribeTo 98, pullNothing,
      [.worker {}, .worker {}, .worker {}, .worker {}, .worker {},
        .worker { reply := channelClosed }, .worker {}]])
    (fun s => decide (s.pendingChannels = [2] ∧
      channelConsumes (currentConn s) 1 s.calls = true)) (by decide +kernel)
  exact ⟨s, ⟨hs, of_decide_eq_true htest⟩, channels_set_up_once hs⟩

/-- The last call opened a channel that was open. -/
def reopenedLast (s : ConsumerState Nat) : Bool :=
  match s.calls with
  | .channelOpen conn channel _ :: past => channelIsOpen conn channel past
  | _ => false

/-- A `Subscribe` finds the consumer running; the list is taken and the channel set
up before the `Subscribe` pushes it.  The worker then opens it a second time. -/
theorem reopens_after_late_push :
    ∃ s : ConsumerState Nat, system.ReachableUnder OneControl s ∧ ¬Guarded NoReopen s.calls := by
  obtain ⟨s, hs, htest⟩ := TransitionSystem.exists_reachableUnder_of_run (M := system) OneControl
    (List.flatten [startUp, [.subscribe ⟨[101], [97], 7, {}⟩, .subscribeStep 0, .subscribeStep 0,
        .subscribeStep 0], connectAndSetUp, [.subscribeStep 0], pullNothing,
      [.worker {}, .worker {}, .worker {}]])
    reopenedLast (by decide +kernel)
  refine ⟨s, hs, fun hguarded => ?_⟩
  unfold reopenedLast at htest
  split at htest
  · next conn channel reply past hcalls =>
      rw [hcalls] at hguarded
      rw [hguarded.1 conn channel reply rfl] at htest
      cases htest
  · cases htest

end Consumer
end HareCpp
