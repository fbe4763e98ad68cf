import HareCpp.Consumer.Pending
import HareCpp.Consumer.Session

/-!
# No subscription is lost

A channel in the table of the handler has to get to the broker on every new
connection.  It does so by the list that `startConsumption` takes, by the queue
of pending channels, or by a `Subscribe` that has yet to push it.  `Tracked` says
where a channel can be; the invariant is that every channel of the table is
tracked, except while the connection is down, while the consumer is being
stopped, and between a new connection and the list that is taken for it
(`Exempt`).

The moments that could lose a channel are all exempt: `emptyPendingChannels` runs
in `Stop` and before the list is taken, the list is dropped halfway only when the
connection is closed next, and a `Subscribe` does not push only when the consumer
is not running.
-/

namespace HareCpp
namespace Consumer

open Library ConnectionBase ChannelHandler

variable {Callback : Type} {s s' : ConsumerState Callback}

/-! ### The table of the consumer -/

/-- The handler of a consumer is a handler that was built by its operations. -/
theorem built_reachable {allowed : ConsumerState Callback → Action Callback → Prop}
    (hs : system.ReachableUnder allowed s) : Built s.channelHandler := by
  refine hs.induction (fun s => Built s.channelHandler) .new ?_
  intro s action s' _ _ hbuilt hstep
  obtain ⟨-, hmove⟩ := move_of_step hstep
  cases hmove with
  | worker input _ hmove =>
      cases hmove with
      | declared caller channel base queue | refused caller channel base queue =>
          exact hbuilt.setQueueName channel queue
      | _ => exact hbuilt
  | subscribeRefused => exact hbuilt
  | subscribeBegins => exact hbuilt
  | subscribe k pc rest _ hpick hmove =>
      cases hmove with
      | known call => exact hbuilt.add _ call.callback
      | added call => exact hbuilt.add _ call.callback
      | propertiesSet channel queueProps => exact hbuilt.setQueueProperties channel queueProps
      | _ => exact hbuilt
  | begin => exact hbuilt
  | control k reply pc rest _ hpick _ hmove =>
      show Built s'.channelHandler
      rw [hmove.frame.1]
      exact hbuilt

/-! ### Where a channel can be -/

/-- The channel of a `Subscribe` that has executed `AddChannelProcessor`, has not
found the consumer stopped, and has not pushed it yet. -/
def SubscribePc.channel : SubscribePc Callback → Option Int
  | .add _ => none
  | .setQueueProperties channel _ | .runningTest channel | .push channel => some channel

/-- The channels of the `Subscribe` calls in flight. -/
def inFlight (s : ConsumerState Callback) : List Int := s.subscribes.filterMap SubscribePc.channel

/-- The channels that `setupAndConsume` will be called for next. -/
def SetupCaller.rest : SetupCaller → List Int
  | .startUp rest => rest
  | .retry => []

/-- The channels that the worker has in hand. -/
def WorkerPc.channels : WorkerPc → List Int
  | .setupOpen caller channel | .setupProperties caller channel | .setupDeclare caller channel _
  | .setupBind caller channel _ | .setupConsume caller channel _ | .setupPush caller channel _ =>
      channel :: caller.rest
  | _ => []

/-- The channel whose queue the worker declares next, with the properties it has
read. -/
def WorkerPc.declaring : WorkerPc → Option (Int × QueueProperties)
  | .setupDeclare _ channel queueProps => some (channel, queueProps)
  | _ => Option.none

@[simp] theorem channels_nextChannel (code : HareError) (channels : List Int) :
    (nextChannel code channels).channels = channels := by
  rcases nextChannel_cases code channels with ⟨rfl, h⟩ | ⟨rfl, h⟩ | ⟨channel, rest, rfl, h⟩ <;>
    rw [h] <;> rfl

/-- After `setupAndConsume` the rest of the list is in hand, unless a server
failure drops it. -/
theorem channels_afterSetup (code : HareError) (caller : SetupCaller) :
    (serverFailure code = true ∧ afterSetup code caller = .startClose) ∨
      (afterSetup code caller).channels = caller.rest := by
  rcases afterSetup_cases code caller with ⟨rfl, heq⟩ | ⟨rest, -, hcode, heq⟩ | ⟨rest, rfl, -, heq⟩
  · right
    rw [heq]
    rfl
  · exact .inl ⟨hcode, heq⟩
  · right
    rw [heq, channels_nextChannel]
    rfl

@[simp] theorem channels_setupGoesOn (caller : SetupCaller) (channel : Int) (code : HareError)
    {next : WorkerPc} (hnext : next.channels = channel :: caller.rest) :
    (setupGoesOn caller channel code next).channels = channel :: caller.rest := by
  rcases setupGoesOn_cases caller channel code next with ⟨-, h⟩ | ⟨-, h⟩
  · rw [h, hnext]
  · rw [h]
    rfl

/-- The note of a successful `Connect`. -/
def Note.isConnect : Note Callback → Bool
  | .connected _ => true
  | _ => false

/-- `setupAndConsume(channel)` has returned `ALL_GOOD` since the last successful
`Connect`. -/
def SetUpSinceConnect (s : ConsumerState Callback) (channel : Int) : Prop :=
  .setUp channel .allGood ∈ s.notes.takeWhile fun note => !note.isConnect

/-- Other notes change nothing about it. -/
theorem SetUpSinceConnect.append {channel : Int} {notes : List (Note Callback)}
    (h : SetUpSinceConnect s channel) (hnotes : ∀ note ∈ notes, note.isConnect = false)
    (heq : s'.notes = notes ++ s.notes) : SetUpSinceConnect s' channel := by
  unfold SetUpSinceConnect at h ⊢
  rw [heq, List.takeWhile_append_of_pos (by simpa using hnotes)]
  exact List.mem_append_right _ h

/-- Where a channel of the table can be. -/
def Tracked (s : ConsumerState Callback) (channel : Int) : Prop :=
  SetUpSinceConnect s channel ∨ channel ∈ s.pendingChannels ∨ channel ∈ inFlight s ∨
    channel ∈ s.worker.channels

/-- The list of channels has not been taken for this connection, or the connection
is closed next. -/
def WorkerPc.unsettled : WorkerPc → Bool
  | .startEmpty | .startList | .startClose => true
  | _ => false

/-- `Stop` is in progress. -/
def ControlPc.inStop : ControlPc → Bool
  | .stopEmpty _ | .stopInitialized _ | .stopRunning _ | .stopSet _ | .stopJoin _
  | .stopClose _ => true
  | _ => false

/-- The moments at which a channel need not be tracked. -/
def Exempt (s : ConsumerState Callback) : Prop :=
  isConnected s = false ∨ s.threadRunning = false ∨ (∃ pc ∈ s.controls, pc.inStop = true) ∨
    s.worker.unsettled = true

/-- The invariant. -/
def AllTracked (s : ConsumerState Callback) : Prop :=
  Exempt s ∨ ∀ channel ∈ s.channelHandler.getChannelList, Tracked s channel

/-! ### Steps of the worker -/

/-- A step that keeps the table and loses no channel. -/
theorem AllTracked.of_frame (hinv : AllTracked s) (hexempt : Exempt s → Exempt s')
    (hlist : s'.channelHandler.getChannelList = s.channelHandler.getChannelList)
    (htracked : ∀ channel, Tracked s channel → Tracked s' channel) : AllTracked s' := by
  rcases hinv with h | h
  · exact .inl (hexempt h)
  · right
    intro channel hchannel
    rw [hlist] at hchannel
    exact htracked channel (h channel hchannel)

/-- Exemption survives a step of a settled worker that keeps the connection. -/
theorem Exempt.of_worker (h : Exempt s) (hsettled : s.worker.unsettled = false)
    (hconn : s'.connection = s.connection) (hthread : s'.threadRunning = s.threadRunning)
    (hcontrols : s'.controls = s.controls) : Exempt s' := by
  rcases h with h | h | h | h
  · left
    rw [isConnected, hconn]
    exact h
  · exact .inr (.inl (hthread.trans h))
  · rw [← hcontrols] at h
    exact .inr (.inr (.inl h))
  · rw [hsettled] at h
    cases h

/-- A channel stays tracked when nothing is taken away but what the threads have
in hand, and that is accounted for. -/
theorem Tracked.of_subset {channel : Int} (h : Tracked s channel) (notes : List (Note Callback))
    (hnotes : ∀ note ∈ notes, note.isConnect = false) (heq : s'.notes = notes ++ s.notes)
    (hpending : s.pendingChannels ⊆ s'.pendingChannels)
    (hsubscribes : channel ∈ inFlight s → Tracked s' channel)
    (hworker : channel ∈ s.worker.channels → Tracked s' channel) : Tracked s' channel := by
  rcases h with h | h | h | h
  · exact .inl (h.append hnotes heq)
  · exact .inr (.inl (hpending h))
  · exact hsubscribes h
  · exact hworker h

/-- The `Subscribe` calls in flight are left alone. -/
theorem tracked_of_inFlight {channel : Int} (h : channel ∈ inFlight s)
    (hsubscribes : s'.subscribes = s.subscribes) : Tracked s' channel := by
  refine .inr (.inr (.inl ?_))
  rwa [inFlight, hsubscribes]

/-- What the worker has in hand stays in hand. -/
theorem Tracked.of_worker {channel : Int} (h : Tracked s channel) (notes : List (Note Callback))
    (hnotes : ∀ note ∈ notes, note.isConnect = false) (heq : s'.notes = notes ++ s.notes)
    (hpending : s.pendingChannels ⊆ s'.pendingChannels) (hsubscribes : s'.subscribes = s.subscribes)
    (hworker : s.worker.channels ⊆ s'.worker.channels) : Tracked s' channel :=
  h.of_subset notes hnotes heq hpending (fun h => tracked_of_inFlight h hsubscribes)
    fun h => .inr (.inr (.inr (hworker h)))

/-- A step of a settled worker that keeps the connection and what it has in hand. -/
theorem AllTracked.of_worker {input : WorkerInput} (hinv : AllTracked s)
    (hmove : WorkerMove s input s') (hsettled : s.worker.unsettled = false)
    (hconn : s'.connection = s.connection)
    (hlist : s'.channelHandler.getChannelList = s.channelHandler.getChannelList)
    (notes : List (Note Callback)) (hnotes : ∀ note ∈ notes, note.isConnect = false)
    (heq : s'.notes = notes ++ s.notes) (hpending : s.pendingChannels ⊆ s'.pendingChannels)
    (hworker : s.worker.channels ⊆ s'.worker.channels) : AllTracked s' := by
  obtain ⟨hcontrols, hthread, -, hsubscribes, -⟩ := hmove.frame
  refine hinv.of_frame (fun h => h.of_worker hsettled hconn hthread hcontrols) hlist ?_
  intro channel h
  exact h.of_worker notes hnotes heq hpending hsubscribes hworker

/-- A step that only moves the worker on takes the list, or starts and ends with
nothing in hand. -/
theorem WorkerGoto.settled {input : WorkerInput} {next : WorkerPc} (h : WorkerGoto s input next) :
    (s.worker = .startList ∧ input.order.Perm s.channelHandler.getChannelList ∧
      next = nextChannel .allGood input.order) ∨
    (s.worker.unsettled = false ∧ s.worker.channels = [] ∧ next.unsettled = false ∧
      next.channels = []) := by
  cases h with
  | listed hpc horder => exact .inl ⟨hpc, horder, rfl⟩
  | loopOn hpc | loopEnd hpc | foundConnected hpc | foundClosed hpc | pullOn hpc | pullOff hpc
  | failedRunning hpc | failedStopped hpc | pendingSome hpc | pendingNone hpc =>
      rw [hpc]
      exact .inr ⟨rfl, rfl, rfl, rfl⟩

/-- A step of the worker keeps the channels tracked. -/
theorem AllTracked.worker {input : WorkerInput} (hinv : AllTracked s) (hsession : SessionFacts s)
    (hmove : WorkerMove s input s') : AllTracked s' := by
  have hkeeps := hinv.of_worker hmove
  cases hmove with
  | goto next hnext =>
      rcases hnext.settled with ⟨-, horder, rfl⟩ | ⟨hsettled, hnone, -, -⟩
      · -- the list is taken: every channel of the table is in hand
        right
        intro channel hchannel
        refine .inr (.inr (.inr ?_))
        show channel ∈ (nextChannel .allGood input.order).channels
        rw [channels_nextChannel]
        exact horder.mem_iff.mpr hchannel
      · exact hkeeps hsettled rfl rfl [] (by simp) rfl (fun _ h => h) (by simp [hnone])
  | crash =>
      exact hinv.of_frame (fun h => h) rfl fun channel h => h
  | connected => exact .inl (.inr (.inr (.inr rfl)))
  | connectFailed base hpc hbase hcode =>
      have hdown : base.isConnected = false := by
        rw [← isConnected_of_connection hbase]
        exact hsession.down hpc
      have hplain := (hsession.sound.baseSound base hbase).plain
      obtain ⟨-, -, -, -, hsame⟩ := connect_handle hplain s.handles input.connect
      exact .inl (.inl ((hsame hcode).trans hdown))
  | emptied => exact .inl (.inr (.inr (.inr rfl)))
  | opened caller channel base hpc hbase =>
      refine hkeeps (by rw [hpc]; rfl) rfl rfl [] (by simp) rfl (fun _ h => h) ?_
      rw [hpc]
      show channel :: caller.rest ⊆ (setupGoesOn _ _ _ _).channels
      rw [channels_setupGoesOn caller channel _ rfl]
      exact fun _ h => h
  | propertiesRead caller channel hpc =>
      refine hkeeps (by rw [hpc]; rfl) rfl rfl [] (by simp) rfl (fun _ h => h) ?_
      rw [hpc]
      exact fun _ h => h
  | declared caller channel base queue hpc hbase | refused caller channel base queue hpc hbase =>
      refine hkeeps (by rw [hpc]; rfl) rfl (getChannelList_setQueueName _ _ _) [] (by simp) rfl
        (fun _ h => h) ?_
      rw [hpc]
      exact fun _ h => h
  | bound caller channel base queue hpc hbase =>
      refine hkeeps (by rw [hpc]; rfl) rfl rfl [] (by simp) rfl (fun _ h => h) ?_
      rw [hpc]
      show channel :: caller.rest ⊆ (setupGoesOn _ _ _ _).channels
      rw [channels_setupGoesOn caller channel _ rfl]
      exact fun _ h => h
  | consumed caller channel base queue hpc hbase hcode =>
      have hsettled : s.worker.unsettled = false := by rw [hpc]; rfl
      refine hinv.of_frame (fun h => h.of_worker hsettled rfl rfl rfl) rfl fun other h => ?_
      refine h.of_subset [.setUp channel .allGood] (by simp [Note.isConnect]) rfl
        (fun _ h => h) (fun h => tracked_of_inFlight h rfl) ?_
      rw [hpc]
      intro hmem
      rcases List.mem_cons.mp hmem with rfl | hrest
      · left
        show Note.setUp other .allGood ∈ List.takeWhile _ (Note.setUp other .allGood :: s.notes)
        simp [Note.isConnect]
      · refine .inr (.inr (.inr ?_))
        show other ∈ (afterSetup .allGood caller).channels
        rcases channels_afterSetup .allGood caller with ⟨hbad, -⟩ | hchannels
        · exact absurd hbad (by decide)
        · rw [hchannels]
          exact hrest
  | consumeFailed caller channel base queue hpc hbase hcode =>
      refine hkeeps (by rw [hpc]; rfl) rfl rfl [] (by simp) rfl (fun _ h => h) ?_
      rw [hpc]
      exact fun _ h => h
  | pushed caller channel code hpc =>
      rcases channels_afterSetup code caller with ⟨-, hclose⟩ | hchannels
      · refine .inl (.inr (.inr (.inr ?_)))
        show (afterSetup code caller).unsettled = true
        rw [hclose]
        rfl
      · have hsettled : s.worker.unsettled = false := by rw [hpc]; rfl
        refine hinv.of_frame (fun h => h.of_worker hsettled rfl rfl rfl) rfl fun other h => ?_
        refine h.of_subset [.setUp channel code] (by simp [Note.isConnect]) rfl
          (List.subset_append_left _ _) (fun h => tracked_of_inFlight h rfl) ?_
        rw [hpc]
        intro hmem
        rcases List.mem_cons.mp hmem with rfl | hrest
        · exact .inr (.inl (List.mem_append_right _ (List.mem_singleton.mpr rfl)))
        · refine .inr (.inr (.inr ?_))
          show other ∈ (afterSetup code caller).channels
          rw [hchannels]
          exact hrest
  | closed base => exact .inl (.inl (closeConnection_isConnected _ _))
  | released base hpc =>
      exact hkeeps (by rw [hpc]; rfl) rfl rfl [] (by simp) rfl (fun _ h => h)
        (by simp [hpc, WorkerPc.channels])
  | pulled base next hpc =>
      exact hkeeps (by rw [hpc]; rfl) rfl rfl [] (by simp) rfl (fun _ h => h)
        (by simp [hpc, WorkerPc.channels])
  | processed envelope hpc =>
      refine hkeeps (by rw [hpc]; rfl) rfl rfl _ ?_ rfl (fun _ h => h)
        (by simp [hpc, WorkerPc.channels])
      intro note hnote
      obtain ⟨invocation, -, rfl⟩ := List.mem_map.mp hnote
      rfl
  | popped channel rest hpc hpending =>
      have hsettled : s.worker.unsettled = false := by rw [hpc]; rfl
      refine hinv.of_frame (fun h => h.of_worker hsettled rfl rfl rfl) rfl fun other h => ?_
      rcases h with h | h | h | h
      · exact .inl h
      · rw [hpending] at h
        rcases List.mem_cons.mp h with rfl | hrest
        · exact .inr (.inr (.inr (List.mem_cons_self)))
        · exact .inr (.inl hrest)
      · exact .inr (.inr (.inl h))
      · simp [hpc, WorkerPc.channels] at h

/-! ### Steps of a `Subscribe` -/

/-- Exemption survives a step of a `Subscribe`. -/
theorem Exempt.of_user (h : Exempt s) (hframe : UserFrame s s') : Exempt s' := by
  obtain ⟨hconn, -, hthread, hworker, hcontrols, -, -⟩ := hframe
  rcases h with h | h | h | h
  · left
    rw [isConnected, hconn]
    exact h
  · exact .inr (.inl (hthread.trans h))
  · rw [← hcontrols] at h
    exact .inr (.inr (.inl h))
  · rw [← hworker] at h
    exact .inr (.inr (.inr h))

/-- The channels in flight are that of the `Subscribe` that takes a step and those
of the others. -/
theorem mem_inFlight_of_pick {k : Nat} {pc : SubscribePc Callback}
    {rest : List (SubscribePc Callback)} (hpick : pick s.subscribes k = some (pc, rest))
    (channel : Int) :
    channel ∈ inFlight s ↔
      pc.channel = some channel ∨ channel ∈ rest.filterMap SubscribePc.channel := by
  rw [inFlight, ((perm_of_pick hpick).filterMap _).mem_iff]
  cases hchannel : pc.channel with
  | none => simp [hchannel]
  | some other => simp [hchannel, eq_comm]

/-- A step of a `Subscribe` keeps the channels tracked. -/
theorem AllTracked.subscribe {k : Nat} {pc : SubscribePc Callback}
    {rest : List (SubscribePc Callback)} (hinv : AllTracked s)
    (hhandler : HandlerFacts s.channelHandler) (hpick : pick s.subscribes k = some (pc, rest))
    (hmove : SubscribeMove { s with subscribes := rest } pc s') : AllTracked s' := by
  have hexempt : Exempt s → Exempt s' := by
    intro h
    have hsame : Exempt { s with subscribes := rest } := h
    exact hsame.of_user hmove.frame
  -- the channels of the other calls stay in flight
  have hothers : ∀ {channel}, channel ∈ rest.filterMap SubscribePc.channel →
      rest <:+ s'.subscribes → Tracked s' channel := by
    intro channel hmem hsuffix
    refine .inr (.inr (.inl ?_))
    obtain ⟨front, heq⟩ := hsuffix
    rw [inFlight, ← heq, List.filterMap_append]
    exact List.mem_append_right _ hmem
  have hworker : ∀ {channel}, channel ∈ s.worker.channels → Tracked s' channel := by
    intro channel hmem
    refine .inr (.inr (.inr ?_))
    rwa [hmove.frame.worker]
  cases hmove with
  | known call hchannel =>
      refine hinv.of_frame hexempt (hhandler.getChannelList_refused hchannel) fun channel h => ?_
      refine h.of_subset [.apiReturned .subscribe .unableToSubscribe] (by simp [Note.isConnect])
        rfl (fun _ h => h) ?_ hworker
      intro hmem
      rcases (mem_inFlight_of_pick hpick channel).mp hmem with hpc | hrest
      · cases hpc
      · exact hothers hrest (List.suffix_refl _)
  | added call hchannel =>
      obtain ⟨-, hlist⟩ := hhandler.getChannelList_added hchannel
      rcases hinv with h | h
      · exact .inl (hexempt h)
      · right
        intro channel hmem
        rcases List.mem_append.mp (hlist ▸ hmem) with hold | hnew
        · refine (h channel hold).of_subset [] (by simp) rfl (fun _ h => h) ?_ hworker
          intro hmem
          rcases (mem_inFlight_of_pick hpick channel).mp hmem with hpc | hrest
          · cases hpc
          · exact hothers hrest (List.suffix_cons _ _)
        · -- the new channel is in flight
          refine .inr (.inr (.inl ?_))
          rw [List.mem_singleton.mp hnew]
          exact List.mem_filterMap.mpr ⟨_, List.mem_cons_self, rfl⟩
  | propertiesSet channel queueProps =>
      refine hinv.of_frame hexempt (getChannelList_setQueueProperties _ _ _) fun other h => ?_
      refine h.of_subset [] (by simp) rfl (fun _ h => h) ?_ hworker
      intro hmem
      rcases (mem_inFlight_of_pick hpick other).mp hmem with hpc | hrest
      · refine .inr (.inr (.inl ?_))
        exact List.mem_filterMap.mpr ⟨.runningTest channel, List.mem_cons_self, hpc⟩
      · exact hothers hrest (List.suffix_cons _ _)
  | running channel hfree hrunning =>
      refine hinv.of_frame hexempt rfl fun other h => ?_
      refine h.of_subset [] (by simp) rfl (fun _ h => h) ?_ hworker
      intro hmem
      rcases (mem_inFlight_of_pick hpick other).mp hmem with hpc | hrest
      · refine .inr (.inr (.inl ?_))
        exact List.mem_filterMap.mpr ⟨.push channel, List.mem_cons_self, hpc⟩
      · exact hothers hrest (List.suffix_cons _ _)
  | notRunning channel hfree hrunning => exact .inl (.inr (.inl hrunning))
  | pushed channel =>
      refine hinv.of_frame hexempt rfl fun other h => ?_
      refine h.of_subset [.apiReturned .subscribe .allGood] (by simp [Note.isConnect]) rfl
        (List.subset_append_left _ _) ?_ hworker
      intro hmem
      rcases (mem_inFlight_of_pick hpick other).mp hmem with hpc | hrest
      · have hsame : channel = other := Option.some.inj hpc
        exact .inr (.inl (List.mem_append_right _ (List.mem_singleton.mpr hsame.symm)))
      · exact hothers hrest (List.suffix_refl _)

/-! ### Steps of the control thread -/

/-- A step of the control thread keeps the channels tracked: where it takes
something away, the consumer is being stopped or the connection is down. -/
theorem AllTracked.control {reply : AmqpRpcReply} {pc : ControlPc}
    (hinv : AllTracked (goOn s pc)) (hnone : s.controls = []) (hcall : CallFacts s (some pc))
    (hmove : ControlMove s reply pc s') (hstatus : s'.status = .running) : AllTracked s' := by
  have hphase := hcall.phase
  cases hmove with
  | goto _ next hnext =>
      cases hnext with
      | stopInitialized caller hinit =>
          exact .inl (.inr (.inr (.inl ⟨.stopRunning caller, List.mem_cons_self, rfl⟩)))
      | stopRunning caller hrunning =>
          exact .inl (.inr (.inr (.inl ⟨.stopSet caller, List.mem_cons_self, rfl⟩)))
      | destroyRunning hrunning =>
          exact .inl (.inr (.inr (.inl ⟨.stopEmpty .destructor, List.mem_cons_self, rfl⟩)))
      | destroyIdle hrunning => exact .inl (.inr (.inl hrunning))
      | destroyUninitialized hinit => exact .inl (.inr (.inl hphase.1))
  | startRefused restarting code hwhy =>
      refine hinv.of_frame ?_ rfl fun channel h => ?_
      · rintro (h | h | ⟨pc, hpc, hstop⟩ | h)
        · exact .inl h
        · exact .inr (.inl h)
        · simp only [goOn, hnone, List.mem_singleton] at hpc
          subst hpc
          cases hstop
        · exact .inr (.inr (.inr h))
      · exact h.of_worker [.apiReturned (if restarting then .restart else .start) code]
          (by simp [Note.isConnect]) rfl (fun _ h => h) rfl (fun _ h => h)
  | started restarting hinit hthread hworker =>
      -- a connection without a worker belongs to a `Stop` that has not closed it yet
      left
      left
      show isConnected s = false
      by_contra hup
      obtain ⟨caller, hstop⟩ := hcall.closed hworker (by simpa using hup)
      cases hstop
  | emptied caller =>
      exact .inl (.inr (.inr (.inl ⟨.stopInitialized caller, List.mem_cons_self, rfl⟩)))
  | stopRefused _ caller code hpc =>
      have hidle : s.threadRunning = false := by
        rcases hpc with ⟨-, hinit, -⟩ | ⟨-, hthread, -⟩
        · by_contra hthread
          rw [hcall.initialized (.inl (by simpa using hthread))] at hinit
          cases hinit
        · exact hthread
      exact .inl (.inr (.inl (by rwa [stopReturns_threadRunning])))
  | stopSet caller => exact .inl (.inr (.inl rfl))
  | joined caller hworker => exact .inl (.inr (.inl hphase.1))
  | stopped caller base hbase =>
      left
      left
      rw [isConnected_stopReturns]
      exact closeConnection_isConnected base reply
  | initConnection credentials => exact .inl (.inl rfl)
  | initInitialized => exact .inl (.inr (.inl hphase.1))
  | initRunning => exact .inl (.inr (.inl rfl))
  | destroyClosed base hinit hbase => exact .inl (.inl (closeConnection_isConnected base reply))
  | destroyed hworker => exact .inl (.inl rfl)
  | crash => cases hstatus

/-- Every channel of the table is tracked while a run with one control thread goes
on. -/
theorem allTracked_reachable (hs : system.ReachableUnder OneControl s) :
    s.status = .running → AllTracked s := by
  refine hs.induction (fun s => s.status = .running → AllTracked s) ?_ ?_
  · exact fun _ => .inl (.inl rfl)
  · intro s action s' hreach _ hinv hstep hstatus'
    obtain ⟨hstatus, hmove⟩ := move_of_step hstep
    have hinv := hinv hstatus
    have hthreads := threadFacts_reachable hreach hstatus
    cases hmove with
    | worker input _ hmove => exact hinv.worker (sessionFacts_reachable hreach) hmove
    | subscribeRefused call =>
        refine hinv.of_frame (fun h => h) rfl fun channel h => ?_
        exact h.of_worker [.apiReturned .subscribe .notInitialized] (by simp [Note.isConnect]) rfl
          (fun _ h => h) rfl (fun _ h => h)
    | subscribeBegins call => exact hinv.of_frame (fun h => h) rfl fun channel h => h
    | subscribe k pc rest _ hpick hmove =>
        exact hinv.subscribe (built_reachable hreach).facts hpick hmove
    | begin call =>
        refine hinv.of_frame ?_ rfl fun channel h => h
        rintro (h | h | ⟨pc, hpc, hstop⟩ | h)
        · exact .inl h
        · exact .inr (.inl h)
        · exact .inr (.inr (.inl ⟨pc, List.mem_cons_of_mem _ hpc, hstop⟩))
        · exact .inr (.inr (.inr h))
    | control k reply pc rest _ hpick _ hmove =>
        have hpc := mem_of_pick hpick
        have hperm := perm_of_pick hpick
        obtain ⟨rfl, hcall⟩ := hthreads.picked hpick
        have hcontrols : s.controls = [pc] := List.perm_singleton.mp hperm
        have hsame : AllTracked (goOn { s with controls := [] } pc) := by
          rwa [goOn, ← hcontrols]
        exact hsame.control rfl hcall hmove hstatus'

/-- At the head of the worker's loop, with the connection up, the consumer running
and no `Stop` in progress, every channel of the table has been set up since the
last `Connect`, is pending, or belongs to a `Subscribe` that is about to push
it. -/
theorem no_subscription_lost (hs : system.ReachableUnder OneControl s)
    (hstatus : s.status = .running) (hhead : s.worker = .loopTest)
    (hconnected : isConnected s = true) (hrunning : s.threadRunning = true)
    (hstop : ∀ pc ∈ s.controls, pc.inStop = false) :
    ∀ channel ∈ s.channelHandler.getChannelList,
      SetUpSinceConnect s channel ∨ channel ∈ s.pendingChannels ∨
        ∃ pc ∈ s.subscribes, pc.channel = some channel := by
  intro channel hchannel
  rcases allTracked_reachable hs hstatus with hexempt | htracked
  · rcases hexempt with h | h | ⟨pc, hpc, h⟩ | h
    · rw [hconnected] at h
      cases h
    · rw [hrunning] at h
      cases h
    · rw [hstop pc hpc] at h
      cases h
    · rw [hhead] at h
      cases h
  · rcases htracked channel hchannel with h | h | h | h
    · exact .inl h
    · exact .inr (.inl h)
    · exact .inr (.inr (List.mem_filterMap.mp h))
    · rw [hhead] at h
      cases h

/-- All four steps of a `Subscribe` of a running consumer, to the exchange `e`. -/
def subscribeTo (key : UInt8) : List (Action Nat) :=
  [.subscribe ⟨[101], [key], 7, {}⟩, .subscribeStep 0, .subscribeStep 0, .subscribeStep 0,
    .subscribeStep 0]

/-- The worker from the head of its loop over `Connect` and the set-up of channel 1
back to the head, with a time-out instead of a message. -/
def connectAndSetUp : List (Action Nat) :=
  [.worker {}, .worker {}, .worker {}, .worker {}, .worker { order := [1] }, .worker {},
    .worker {}, .worker {}, .worker {}, .worker {}, .worker {}, .worker {},
    .worker { reply := { replyType := .libraryException, libraryError := statusTimeout } },
    .worker {}]

/-- Channel 1 is set up, channel 2 pending and channel 3 in flight. -/
theorem no_subscription_lost_run :
    ∃ s : ConsumerState Nat,
      (system.ReachableUnder OneControl s ∧ s.channelHandler.getChannelList = [1, 2, 3]) ∧
      ∀ channel ∈ s.channelHandler.getChannelList,
        SetUpSinceConnect s channel ∨ channel ∈ s.pendingChannels ∨
          ∃ pc ∈ s.subscribes, pc.channel = some channel := by
  obtain ⟨s, hs, htest⟩ := TransitionSystem.exists_reachableUnder_of_run (M := system) OneControl
    (List.flatten [startUp, subscribeTo 97, connectAndSetUp, subscribeTo 98,
      [.subscribe ⟨[101], [99], 7, {}⟩, .subscribeStep 0, .subscribeStep 0]])
    (fun s => decide (s.status = .running ∧ s.worker = .loopTest ∧ isConnected s = true ∧
      s.threadRunning = true ∧ s.controls = [] ∧ s.channelHandler.getChannelList = [1, 2, 3]))
    (by decide +kernel)
  obtain ⟨hstatus, hhead, hconnected, hrunning, hcontrols, hlist⟩ := of_decide_eq_true htest
  exact ⟨s, ⟨hs, hlist⟩, no_subscription_lost hs hstatus hhead hconnected hrunning
    (by simp [hcontrols])⟩

end Consumer
end HareCpp
