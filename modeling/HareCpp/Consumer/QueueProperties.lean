import HareCpp.Consumer.Reopen

/-!
# The properties a queue is declared with

`Subscribe` makes its channel known with `AddChannelProcessor` and gives it the
properties of the queue with `SetQueueProperties`, one lock after the other.  A
worker that comes to the channel in between gets from `GetQueueProperties` what
the record holds until then, the defaults, and declares the queue with its copy
of these, whatever is set in the meantime.

The system is run with a record of the channels that the `Subscribe` calls
created and of the properties they were called with.  `PropertiesSet` is the
condition that `GetQueueProperties` does not come in between, unless the
defaults are what was asked for.
-/

namespace HareCpp
namespace Consumer

open Library ConnectionBase ChannelHandler TransitionSystem

variable {Callback : Type} {s s' : ConsumerState Callback}

/-! ### The record and the condition -/

/-- The channel that a step of a `Subscribe` creates, with the properties it was
called with. -/
def createdBy (s : ConsumerState Callback) : Action Callback → List (Int × QueueProperties)
  | .subscribeStep k =>
      match pick s.subscribes k with
      | some (.add call, _) =>
          let r := s.channelHandler.addChannelProcessor ⟨call.exchange, call.bindingKey⟩
            call.callback
          if r.2 = -1 then [] else [(r.2, call.queueProps)]
      | _ => []
  | _ => []

/-- The channel whose queue properties the worker reads next. -/
def WorkerPc.reading : WorkerPc → Option Int
  | .setupProperties _ channel => some channel
  | _ => Option.none

/-- What a `Subscribe` is about to set. -/
def SubscribePc.unset : SubscribePc Callback → Option (Int × QueueProperties)
  | .setQueueProperties channel queueProps => some (channel, queueProps)
  | _ => none

/-- The properties of a queue are read only when they have been set, or are going to
be the defaults. -/
def PropertiesSet (s : ConsumerState Callback) : Action Callback → Prop
  | .worker _ => ∀ channel ∈ s.worker.reading, ∀ pc ∈ s.subscribes, ∀ unset ∈ pc.unset,
      unset.1 = channel → unset.2 = {}
  | _ => True

instance (s : ConsumerState Callback) :
    (action : Action Callback) → Decidable (PropertiesSet s action)
  | .worker _ => inferInstanceAs (Decidable (∀ channel ∈ s.worker.reading, _))
  | .subscribe _ | .subscribeStep _ | .begin _ | .control _ _ => inferInstanceAs (Decidable True)

/-! ### The channels under way are in the table -/

/-- A step of the worker takes channels from the table only. -/
theorem WorkerMove.waiting_subset {input : WorkerInput} (hmove : WorkerMove s input s') {c : Int}
    (hc : c ∈ waiting s') : c ∈ waiting s ∨ c ∈ s.channelHandler.getChannelList := by
  have hafter : ∀ code caller, (afterSetup code caller).channels ⊆ caller.rest := by
    intro code caller
    rcases channels_afterSetup code caller with ⟨-, h⟩ | h
    · simp [h, WorkerPc.channels]
    · rw [h]
      exact fun _ h => h
  have hflight : inFlight s' = inFlight s := by
    rw [inFlight, inFlight, hmove.frame.2.2.2.1]
  simp only [waiting, List.mem_append, hflight] at hc ⊢
  cases hmove with
  | goto next hnext =>
      rcases hnext.settled with ⟨hpc, horder, rfl⟩ | ⟨-, -, -, hnone⟩
      · rw [channels_nextChannel] at hc
        rcases hc with h | h | h
        · exact .inl (.inl h)
        · exact .inl (.inr (.inl h))
        · exact .inr (horder.mem_iff.mp h)
      · rw [hnone] at hc
        rcases hc with h | h | h
        · exact .inl (.inl h)
        · exact .inl (.inr (.inl h))
        · cases h
  | opened caller channel base hpc hbase =>
      rw [channels_setupGoesOn caller channel _ rfl] at hc
      left
      rwa [hpc]
  | propertiesRead caller channel hpc =>
      left
      rwa [hpc]
  | declared caller channel base queue hpc hbase | refused caller channel base queue hpc hbase =>
      left
      rwa [hpc]
  | bound caller channel base queue hpc hbase =>
      rw [channels_setupGoesOn caller channel _ rfl] at hc
      left
      rwa [hpc]
  | consumed caller channel base queue hpc hbase hcode =>
      left
      rw [hpc]
      rcases hc with h | h | h
      · exact .inl h
      · exact .inr (.inl h)
      · exact .inr (.inr (List.mem_cons_of_mem _ (hafter _ _ h)))
  | consumeFailed caller channel base queue hpc hbase hcode =>
      left
      rwa [hpc]
  | pushed caller channel code hpc =>
      left
      rw [hpc]
      rcases hc with h | h | h
      · rcases List.mem_append.mp h with hold | hnew
        · exact .inl hold
        · exact .inr (.inr (List.mem_cons.mpr (.inl (List.mem_singleton.mp hnew))))
      · exact .inr (.inl h)
      · exact .inr (.inr (List.mem_cons_of_mem _ (hafter _ _ h)))
  | popped channel rest hpc hpending =>
      left
      rw [hpending]
      rcases hc with h | h | h
      · exact .inl (List.mem_cons_of_mem _ h)
      · exact .inr (.inl h)
      · exact .inl (List.mem_cons.mpr (.inl (List.mem_singleton.mp h)))
  | pulled base next hpc hbase hnext =>
      left
      rcases hc with h | h | h
      · exact .inl h
      · exact .inr (.inl h)
      · rcases hnext with rfl | rfl | rfl <;> cases h
  | crash => exact .inl hc
  | emptied =>
      left
      rcases hc with h | h | h
      · cases h
      · exact .inr (.inl h)
      · cases h
  | connected | connectFailed | closed | released | processed =>
      left
      rcases hc with h | h | h
      · exact .inl h
      · exact .inr (.inl h)
      · cases h

/-- No step of the worker adds a channel to the table. -/
theorem WorkerMove.getChannelList {input : WorkerInput} (hmove : WorkerMove s input s') :
    s'.channelHandler.getChannelList = s.channelHandler.getChannelList := by
  cases hmove with
  | declared | refused => exact getChannelList_setQueueName _ _ _
  | _ => rfl

/-- Every channel under way to `setupAndConsume` is in the table, in every run. -/
theorem waiting_known {allowed : ConsumerState Callback → Action Callback → Prop}
    (hs : system.ReachableUnder allowed s) :
    ∀ c ∈ waiting s, c ∈ s.channelHandler.getChannelList := by
  refine hs.induction (fun s => ∀ c ∈ waiting s, c ∈ s.channelHandler.getChannelList) ?_ ?_
  · intro c hc
    cases hc
  · intro s action s' hreach _ hknown hstep c hc
    obtain ⟨-, hmove⟩ := move_of_step hstep
    cases hmove with
    | worker input _ hmove =>
        rw [hmove.getChannelList]
        rcases hmove.waiting_subset hc with hold | hlist
        · exact hknown c hold
        · exact hlist
    | subscribeRefused => exact hknown c hc
    | subscribeBegins => exact hknown c hc
    | subscribe k pc rest _ hpick hmove =>
        rcases hmove.waiting (built_reachable hreach).facts hpick with
          ⟨hlist, hwaiting⟩ | ⟨channel, -, hlist, hwaiting⟩
        · rw [hlist]
          exact hknown c (hwaiting.subset hc)
        · rw [hlist, List.mem_append, List.mem_singleton]
          rcases List.mem_cons.mp (hwaiting.mem_iff.mp hc) with hnew | hold
          · exact .inr hnew
          · exact .inl (hknown c hold)
    | begin => exact hknown c hc
    | control k reply pc rest _ hpick _ hmove =>
        rw [hmove.frame.1]
        exact hknown c (hmove.waiting.subset hc)

/-! ### The declarations of a step -/

/-- What `amqp_queue_declare` is called with. -/
def declaredBy : AmqpCall → Option (Int × QueueProperties)
  | .queueDeclare _ channel props _ => some (channel, props)
  | _ => none

theorem declaredBy_of_session {call : AmqpCall} (hcall : call.session = none) :
    declaredBy call = none := by
  cases call <;> first | rfl | cases hcall

theorem declaredBy_closeConnection (base : ConnectionBase) (reply : AmqpRpcReply) :
    ∀ call ∈ (base.closeConnection reply).calls, declaredBy call = none := by
  unfold closeConnection
  split <;> simp [declaredBy]

theorem declaredBy_releaseCalls (connection : Option ConnectionBase) (reply : AmqpRpcReply) :
    ∀ call ∈ releaseCalls connection reply, declaredBy call = none := by
  unfold releaseCalls
  split
  · simp
  · next old => exact declaredBy_closeConnection old reply

theorem declaring_nextChannel (code : HareError) (channels : List Int) :
    (nextChannel code channels).declaring = none := by
  rcases nextChannel_cases code channels with ⟨-, h⟩ | ⟨-, h⟩ | ⟨channel, rest, -, h⟩ <;>
    rw [h] <;> rfl

theorem declaring_afterSetup (code : HareError) (caller : SetupCaller) :
    (afterSetup code caller).declaring = none := by
  rcases afterSetup_cases code caller with ⟨-, h⟩ | ⟨rest, -, -, h⟩ | ⟨rest, -, -, h⟩
  · rw [h]
    rfl
  · rw [h]
    rfl
  · rw [h]
    exact declaring_nextChannel code rest

theorem declaring_setupGoesOn (caller : SetupCaller) (channel : Int) (code : HareError)
    {next : WorkerPc} (hnext : next.declaring = none) :
    (setupGoesOn caller channel code next).declaring = none := by
  rcases setupGoesOn_cases caller channel code next with ⟨-, h⟩ | ⟨-, h⟩
  · rwa [h]
  · rw [h]
    rfl

/-- The worker comes to `DeclareQueue` with what `GetQueueProperties` has returned for
the channel, and keeps that until the queue is declared. -/
theorem WorkerMove.reads {input : WorkerInput} (hmove : WorkerMove s input s')
    {declared : Int × QueueProperties} (hdeclared : declared ∈ s'.worker.declaring) :
    declared ∈ s.worker.declaring ∨ (declared.1 ∈ s.worker.reading ∧
      declared.2 = s.channelHandler.getQueueProperties declared.1) := by
  have hnot : s'.worker.declaring ≠ none := Option.ne_none_iff_exists'.mpr ⟨declared, hdeclared⟩
  cases hmove with
  | propertiesRead caller channel hpc =>
      cases hdeclared
      exact .inr ⟨by rw [hpc]; rfl, rfl⟩
  | crash => exact .inl hdeclared
  | goto next hnext =>
      cases hnext with
      | listed => exact absurd (declaring_nextChannel _ _) hnot
      | _ => cases hdeclared
  | opened | bound => exact absurd (declaring_setupGoesOn _ _ _ rfl) hnot
  | consumed | pushed => exact absurd (declaring_afterSetup _ _) hnot
  | pulled base next hpc hbase hnext => rcases hnext with rfl | rfl | rfl <;> cases hdeclared
  | _ => cases hdeclared

/-- A step of the worker declares the queue of the channel in hand, with the
properties it has read, or none; it leaves the table alone. -/
theorem WorkerMove.declares {input : WorkerInput} (hmove : WorkerMove s input s') :
    (∀ c, s'.channelHandler.getQueueProperties c = s.channelHandler.getQueueProperties c) ∧
    ∃ new, s'.calls = new ++ s.calls ∧
      ∀ call ∈ new, ∀ declared ∈ declaredBy call, declared ∈ s.worker.declaring := by
  have hnone : ∀ {new : List AmqpCall}, (∀ call ∈ new, declaredBy call = none) →
      ∀ call ∈ new, ∀ declared ∈ declaredBy call, declared ∈ s.worker.declaring := by
    intro new hnew call hcall declared hdeclared
    rw [hnew call hcall] at hdeclared
    cases hdeclared
  cases hmove with
  | declared caller channel base queue hpc hbase | refused caller channel base queue hpc hbase =>
      refine ⟨getQueueProperties_setQueueName _ _ _, [_], rfl, ?_⟩
      intro call hcall declared hdeclared
      rw [List.mem_singleton.mp hcall] at hdeclared
      cases hdeclared
      rw [hpc]
      rfl
  | connected | connectFailed =>
      refine ⟨fun _ => rfl, _, rfl, hnone fun call hcall => ?_⟩
      exact declaredBy_of_session (connect_session _ _ _ call hcall)
  | opened caller channel base hpc hbase =>
      refine ⟨fun _ => rfl, _, rfl, hnone ?_⟩
      rcases openChannel_cases base channel input.reply input.closeOkStatus with
        ⟨-, heq⟩ | ⟨after, -, heq, hafter⟩
      · simp [heq]
      · rw [heq]
        intro call hcall
        rcases List.mem_append.mp hcall with hmem | hmem
        · rw [hafter call hmem]
          rfl
        · rw [List.mem_singleton.mp hmem]
          rfl
  | bound | consumed | consumeFailed | released =>
      refine ⟨fun _ => rfl, [_], rfl, hnone fun call hcall => ?_⟩
      rw [List.mem_singleton.mp hcall]
      rfl
  | closed => exact ⟨fun _ => rfl, _, rfl, hnone (declaredBy_closeConnection _ _)⟩
  | pulled base next hpc hbase hnext =>
      refine ⟨fun _ => rfl, _, rfl, hnone ?_⟩
      unfold consumeMessage
      split <;> simp [declaredBy]
  | goto | crash | propertiesRead | emptied | pushed | processed | popped =>
      exact ⟨fun _ => rfl, [], rfl, by simp⟩

/-- A control call declares no queue. -/
theorem ControlMove.declares {reply : AmqpRpcReply} {pc : ControlPc}
    (hmove : ControlMove s reply pc s') :
    ∃ new, s'.calls = new ++ s.calls ∧ ∀ call ∈ new, declaredBy call = none := by
  cases hmove with
  | stopRefused => exact ⟨[], stopReturns_calls _ _ _, by simp⟩
  | stopped => exact ⟨_, stopReturns_calls _ _ _, declaredBy_closeConnection _ _⟩
  | initConnection | destroyed => exact ⟨_, rfl, declaredBy_releaseCalls _ _⟩
  | destroyClosed => exact ⟨_, rfl, declaredBy_closeConnection _ _⟩
  | _ => exact ⟨[], rfl, by simp⟩

/-! ### The record agrees with the table -/

/-- The channels of the record are those of the table, in the order in which they
were added; what the record has for a channel is in the table or is going to be
set, and what the worker has read and every declaration agree with it. -/
structure PropertyFacts (s : ConsumerState Callback) (created : List (Int × QueueProperties)) :
    Prop where
  channels : created.map Prod.fst = s.channelHandler.getChannelList.reverse
  given : ∀ c props, created.lookup c = some props →
    s.channelHandler.getQueueProperties c = props ∨
      (s.channelHandler.getQueueProperties c = {} ∧ .setQueueProperties c props ∈ s.subscribes)
  unset : ∀ c props, .setQueueProperties c props ∈ s.subscribes → created.lookup c = some props
  read : ∀ declared ∈ s.worker.declaring, created.lookup declared.1 = some declared.2
  declared : ∀ call ∈ s.calls, ∀ declared ∈ declaredBy call,
    created.lookup declared.1 = some declared.2

variable {created : List (Int × QueueProperties)}

/-- The record has every channel of the table. -/
theorem PropertyFacts.lookup (hfacts : PropertyFacts s created) {c : Int}
    (hc : c ∈ s.channelHandler.getChannelList) : ∃ props, created.lookup c = some props := by
  cases hlookup : created.lookup c with
  | some props => exact ⟨props, rfl⟩
  | none =>
      rw [← List.mem_reverse, ← hfacts.channels] at hc
      obtain ⟨entry, hentry, rfl⟩ := List.mem_map.mp hc
      simpa using List.lookup_eq_none_iff.mp hlookup entry hentry

/-- A step that leaves the table and the `Subscribe` calls alone. -/
theorem PropertyFacts.of_frame (hfacts : PropertyFacts s created)
    (hlist : s'.channelHandler.getChannelList = s.channelHandler.getChannelList)
    (hprops : ∀ c, s'.channelHandler.getQueueProperties c = s.channelHandler.getQueueProperties c)
    (hsubscribes : ∀ c props, .setQueueProperties c props ∈ s'.subscribes ↔
      .setQueueProperties c props ∈ s.subscribes)
    (hread : ∀ declared ∈ s'.worker.declaring, created.lookup declared.1 = some declared.2)
    {new : List AmqpCall} (hcalls : s'.calls = new ++ s.calls)
    (hnew : ∀ call ∈ new, ∀ declared ∈ declaredBy call,
      created.lookup declared.1 = some declared.2) : PropertyFacts s' created := by
  refine ⟨?_, ?_, ?_, hread, ?_⟩
  · rw [hlist]
    exact hfacts.channels
  · intro c props hlookup
    rw [hprops, hsubscribes]
    exact hfacts.given c props hlookup
  · intro c props hmem
    exact hfacts.unset c props ((hsubscribes c props).mp hmem)
  · intro call hcall
    rw [hcalls] at hcall
    rcases List.mem_append.mp hcall with h | h
    · exact hnew call h
    · exact hfacts.declared call h

/-- A step of the worker that meets the condition. -/
theorem PropertyFacts.worker {input : WorkerInput} (hfacts : PropertyFacts s created)
    (hknown : ∀ c ∈ waiting s, c ∈ s.channelHandler.getChannelList)
    (hset : PropertiesSet s (.worker input)) (hmove : WorkerMove s input s') :
    PropertyFacts s' created := by
  obtain ⟨hprops, new, hcalls, hnew⟩ := hmove.declares
  refine hfacts.of_frame hmove.getChannelList hprops ?_ ?_ hcalls ?_
  · intro c props
    rw [hmove.frame.2.2.2.1]
  · intro declared hdeclared
    rcases hmove.reads hdeclared with hold | ⟨hchannel, heq⟩
    · exact hfacts.read declared hold
    · have hhand : declared.1 ∈ waiting s := by
        apply mem_waiting_of_worker
        cases hpc : s.worker with
        | setupProperties caller channel =>
            rw [hpc] at hchannel
            cases hchannel
            exact List.mem_cons_self
        | _ =>
            rw [hpc] at hchannel
            cases hchannel
      obtain ⟨props, hlookup⟩ := hfacts.lookup (hknown _ hhand)
      rw [heq, hlookup]
      rcases hfacts.given _ _ hlookup with hgiven | ⟨hdefault, hmem⟩
      · rw [hgiven]
      · -- the properties have yet to be set: the condition says that they are the defaults
        have hsame : props = {} := hset _ hchannel _ hmem _ rfl rfl
        rw [hdefault, hsame]
  · intro call hcall declared hdeclared
    exact hfacts.read declared (hnew call hcall declared hdeclared)

/-- The entry of a new channel changes nothing for the others. -/
theorem lookup_cons_of_new {channel c : Int} {props queueProps : QueueProperties}
    (hnew : channel ∉ created.map Prod.fst) (hlookup : created.lookup c = some props) :
    ((channel, queueProps) :: created).lookup c = some props := by
  have hne : c ≠ channel := by
    rintro rfl
    obtain ⟨before, after, heq, -⟩ := List.lookup_eq_some_iff.mp hlookup
    apply hnew
    rw [heq]
    simp
  rw [List.lookup_cons, beq_false_of_ne hne]
  exact hlookup

/-- `AddChannelProcessor` of a new pair: the properties have yet to be set. -/
theorem PropertyFacts.added (hfacts : PropertyFacts s created) {channel : Int}
    {queueProps : QueueProperties} (hfresh : channel ∉ s.channelHandler.getChannelList)
    (hlist : s'.channelHandler.getChannelList = s.channelHandler.getChannelList ++ [channel])
    (hprops : ∀ c, s'.channelHandler.getQueueProperties c = s.channelHandler.getQueueProperties c)
    (hsubscribes : s'.subscribes = .setQueueProperties channel queueProps :: s.subscribes)
    (hworker : s'.worker = s.worker) (hcalls : s'.calls = s.calls) :
    PropertyFacts s' ((channel, queueProps) :: created) := by
  have hnew : channel ∉ created.map Prod.fst := by
    rwa [hfacts.channels, List.mem_reverse]
  refine ⟨?_, ?_, ?_, ?_, ?_⟩
  · rw [hlist, List.reverse_append, List.map_cons, hfacts.channels]
    rfl
  · intro c props hlookup
    rw [hprops, hsubscribes]
    by_cases hc : c = channel
    · subst hc
      rw [List.lookup_cons_self] at hlookup
      cases hlookup
      exact .inr ⟨getQueueProperties_of_not_mem hfresh, List.mem_cons_self⟩
    · rw [List.lookup_cons, beq_false_of_ne hc] at hlookup
      rcases hfacts.given c props hlookup with hgiven | ⟨hdefault, hmem⟩
      · exact .inl hgiven
      · exact .inr ⟨hdefault, List.mem_cons_of_mem _ hmem⟩
  · intro c props hmem
    rw [hsubscribes] at hmem
    rcases List.mem_cons.mp hmem with heq | hold
    · cases heq
      exact List.lookup_cons_self
    · exact lookup_cons_of_new hnew (hfacts.unset c props hold)
  · rw [hworker]
    exact fun declared hdeclared => lookup_cons_of_new hnew (hfacts.read declared hdeclared)
  · intro call hcall declared hdeclared
    rw [hcalls] at hcall
    exact lookup_cons_of_new hnew (hfacts.declared call hcall declared hdeclared)

/-- `SetQueueProperties`: the table has now what the record has. -/
theorem PropertyFacts.set (hfacts : PropertyFacts s created) {channel : Int}
    {queueProps : QueueProperties} (hmem : .setQueueProperties channel queueProps ∈ s.subscribes)
    (hlist : s'.channelHandler.getChannelList = s.channelHandler.getChannelList)
    (hprops : ∀ c, s'.channelHandler.getQueueProperties c =
      if c = channel then queueProps else s.channelHandler.getQueueProperties c)
    (hsubscribes : ∀ c props, .setQueueProperties c props ∈ s'.subscribes →
      .setQueueProperties c props ∈ s.subscribes)
    (hothers : ∀ c props, c ≠ channel → .setQueueProperties c props ∈ s.subscribes →
      .setQueueProperties c props ∈ s'.subscribes)
    (hworker : s'.worker = s.worker) (hcalls : s'.calls = s.calls) :
    PropertyFacts s' created := by
  have hself : created.lookup channel = some queueProps := hfacts.unset channel queueProps hmem
  refine ⟨?_, ?_, ?_, ?_, ?_⟩
  · rw [hlist]
    exact hfacts.channels
  · intro c props hlookup
    rw [hprops]
    by_cases hc : c = channel
    · subst hc
      left
      rw [if_pos rfl]
      exact Option.some.inj (hself.symm.trans hlookup)
    · rw [if_neg hc]
      rcases hfacts.given c props hlookup with hgiven | ⟨hdefault, hunset⟩
      · exact .inl hgiven
      · exact .inr ⟨hdefault, hothers c props hc hunset⟩
  · intro c props hunset
    exact hfacts.unset c props (hsubscribes c props hunset)
  · rw [hworker]
    exact hfacts.read
  · rw [hcalls]
    exact hfacts.declared

/-- A step of a `Subscribe`, with what it adds to the record. -/
theorem PropertyFacts.subscribe {k : Nat} {pc : SubscribePc Callback}
    {rest : List (SubscribePc Callback)} (hfacts : PropertyFacts s created)
    (hhandler : HandlerFacts s.channelHandler)
    (hknown : ∀ c ∈ waiting s, c ∈ s.channelHandler.getChannelList)
    (hpick : pick s.subscribes k = some (pc, rest))
    (hmove : SubscribeMove { s with subscribes := rest } pc s') :
    PropertyFacts s' (createdBy s (.subscribeStep k) ++ created) := by
  have hperm := perm_of_pick hpick
  -- the facts without the call that takes the step, unless it is setting properties
  have hrest : pc.unset = none → PropertyFacts { s with subscribes := rest } created := by
    intro hunset
    refine hfacts.of_frame rfl (fun _ => rfl) ?_ hfacts.read (List.nil_append _).symm (by simp)
    intro c props
    rw [hperm.mem_iff, List.mem_cons]
    constructor
    · exact .inr
    · rintro (rfl | hmem)
      · cases hunset
      · exact hmem
  cases hmove with
  | known call hchannel =>
      have hnone : createdBy s (.subscribeStep k) = [] := by
        simp only [createdBy, hpick]
        exact if_pos hchannel
      rw [hnone]
      exact (hrest rfl).of_frame (hhandler.getChannelList_refused hchannel)
        (hhandler.getQueueProperties_add _ _) (fun _ _ => Iff.rfl) hfacts.read
        (List.nil_append _).symm (by simp)
  | added call hchannel =>
      have hone : createdBy s (.subscribeStep k) = [((s.channelHandler.addChannelProcessor
          ⟨call.exchange, call.bindingKey⟩ call.callback).2, call.queueProps)] := by
        simp only [createdBy, hpick]
        exact if_neg hchannel
      rw [hone]
      obtain ⟨hfresh, hlist⟩ := hhandler.getChannelList_added hchannel
      exact (hrest rfl).added hfresh hlist (hhandler.getQueueProperties_add _ _) rfl rfl rfl
  | propertiesSet channel queueProps =>
      have hnone : createdBy s (.subscribeStep k) = [] := by simp only [createdBy, hpick]
      rw [hnone]
      have hmem := mem_of_pick hpick
      have hchannel : channel ∈ s.channelHandler.getChannelList := by
        apply hknown
        refine List.mem_append_right _ (List.mem_append_left _ ?_)
        exact List.mem_filterMap.mpr ⟨_, hmem, rfl⟩
      refine hfacts.set hmem (getChannelList_setQueueProperties _ _ _)
        (hhandler.getQueueProperties_set hchannel queueProps) ?_ ?_ rfl rfl
      · intro c props hunset
        rw [hperm.mem_iff]
        rcases List.mem_cons.mp hunset with heq | hold
        · cases heq
        · exact List.mem_cons_of_mem _ hold
      · intro c props hne hunset
        rw [hperm.mem_iff] at hunset
        rcases List.mem_cons.mp hunset with heq | hold
        · cases heq
          exact absurd rfl hne
        · exact List.mem_cons_of_mem _ hold
  | running channel =>
      have hnone : createdBy s (.subscribeStep k) = [] := by simp only [createdBy, hpick]
      rw [hnone]
      refine (hrest rfl).of_frame rfl (fun _ => rfl) ?_ hfacts.read (List.nil_append _).symm
        (by simp)
      simp [subscribeGoesOn]
  | notRunning channel | pushed channel =>
      have hnone : createdBy s (.subscribeStep k) = [] := by simp only [createdBy, hpick]
      rw [hnone]
      exact (hrest rfl).of_frame rfl (fun _ => rfl) (fun _ _ => Iff.rfl) hfacts.read
        (List.nil_append _).symm (by simp)

/-! ### Whole runs -/

/-- The facts hold in every state of a run that meets the condition. -/
theorem propertyFacts_reachable {s : ConsumerState Callback × List (Int × QueueProperties)}
    (hs : (system.recording createdBy).ReachableUnder (fun s => PropertiesSet s.1) s) :
    PropertyFacts s.1 s.2 := by
  refine hs.record_induction PropertyFacts ?_ ?_
  · exact ⟨rfl, by simp, by simp [system, initial], by simp [system, initial, WorkerPc.declaring],
      by simp [system, initial]⟩
  · intro s action s' created hreach hset hfacts hstep
    have hhandler := (built_reachable hreach).facts
    have hknown := waiting_known hreach
    obtain ⟨-, hmove⟩ := move_of_step hstep
    cases hmove with
    | worker input _ hmove => exact hfacts.worker hknown hset hmove
    | subscribeRefused call =>
        exact hfacts.of_frame rfl (fun _ => rfl) (fun _ _ => Iff.rfl) hfacts.read
          (List.nil_append _).symm (by simp)
    | subscribeBegins call =>
        refine hfacts.of_frame rfl (fun _ => rfl) ?_ hfacts.read (List.nil_append _).symm (by simp)
        simp [subscribeGoesOn]
    | subscribe k pc rest _ hpick hmove => exact hfacts.subscribe hhandler hknown hpick hmove
    | begin call =>
        exact hfacts.of_frame rfl (fun _ => rfl) (fun _ _ => Iff.rfl) hfacts.read
          (List.nil_append _).symm (by simp)
    | control k reply pc rest _ hpick _ hmove =>
        obtain ⟨hsame, hsubscribes, -⟩ := hmove.frame
        obtain ⟨new, hcalls, hnew⟩ := hmove.declares
        refine hfacts.of_frame (by rw [hsame]) (fun c => by rw [hsame])
          (fun c props => by rw [hsubscribes]) ?_ hcalls ?_
        · intro declared hdeclared
          rcases hmove.worker with hworker | ⟨-, hworker⟩ | ⟨-, hworker⟩
          · rw [hworker] at hdeclared
            exact hfacts.read declared hdeclared
          · rw [hworker] at hdeclared
            cases hdeclared
          · rw [hworker] at hdeclared
            cases hdeclared
        · intro call hcall declared hdeclared
          rw [hnew call hcall] at hdeclared
          cases hdeclared

/-- In every run that meets the condition, every queue is declared with the
properties given to the `Subscribe` that created its channel. -/
theorem declares_given_properties
    {s : ConsumerState Callback × List (Int × QueueProperties)}
    (hs : (system.recording createdBy).ReachableUnder (fun s => PropertiesSet s.1) s)
    (conn : Option Nat) (channel : Int) (props : QueueProperties) (reply : AmqpRpcReply)
    (hcall : .queueDeclare conn channel props reply ∈ s.1.calls) :
    s.2.lookup channel = some props :=
  (propertyFacts_reachable hs).declared _ hcall _ rfl

/-- A `Subscribe` that asks for a durable queue, up to the end of
`AddChannelProcessor`. -/
def subscribeDurable : List (Action Nat) :=
  [.subscribe ⟨[101], [97], 7, { durable := 1 }⟩, .subscribeStep 0]

/-- The worker from the head of its loop to the declaration of the queue on
channel 1. -/
def connectAndDeclare : List (Action Nat) :=
  [.worker {}, .worker {}, .worker {}, .worker {}, .worker { order := [1] }, .worker {},
    .worker {}, .worker {}]

/-- A durable queue is declared after its properties were set. -/
theorem declares_given_properties_run :
    ∃ s : ConsumerState Nat × List (Int × QueueProperties),
      (system.recording createdBy).ReachableUnder (fun s => PropertiesSet s.1) s ∧
        .queueDeclare (some 0) 1 { durable := 1 } .normal ∈ s.1.calls ∧
        s.2.lookup 1 = some { durable := 1 } := by
  obtain ⟨s, hs, htest⟩ := exists_reachableUnder_of_run (M := system.recording createdBy)
    (fun s => PropertiesSet s.1)
    (List.flatten [startUp, subscribeDurable, [.subscribeStep 0], connectAndDeclare])
    (fun s => decide (.queueDeclare (some 0) 1 { durable := 1 } .normal ∈ s.1.calls))
    (by decide +kernel)
  have hcall := of_decide_eq_true htest
  exact ⟨s, hs, hcall, declares_given_properties hs (some 0) 1 _ .normal hcall⟩

/-- The worker takes the list between the two halves of a `Subscribe`: the queue is
declared with the defaults in place of what was asked for. -/
theorem declares_defaults :
    ∃ s : ConsumerState Nat × List (Int × QueueProperties),
      (system.recording createdBy).ReachableUnder (fun s => OneControl s.1) s ∧
        .queueDeclare (some 0) 1 {} .normal ∈ s.1.calls ∧ s.2.lookup 1 = some { durable := 1 } := by
  obtain ⟨s, hs, htest⟩ := exists_reachableUnder_of_run (M := system.recording createdBy)
    (fun s => OneControl s.1) (List.flatten [startUp, subscribeDurable, connectAndDeclare])
    (fun s => decide (.queueDeclare (some 0) 1 {} .normal ∈ s.1.calls ∧
      s.2.lookup 1 = some { durable := 1 })) (by decide +kernel)
  exact ⟨s, hs, of_decide_eq_true htest⟩

end Consumer
end HareCpp
