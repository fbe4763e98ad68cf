import HareCpp.Library.Heap
import HareCpp.Consumer.QueueProperties

/-!
# The buffers of queue names

`DeclareQueue` allocates a copy of the name that the broker gave the queue,
`SetQueueName` puts it in the table and frees the one that was there, `bindQueue` and
`consume` read it, and `~ChannelHandler` frees what is in the table.  When the broker
refuses the declaration, though, there is no name: `DeclareQueue` reads it through a
null pointer if the refusal passes for a success, and else leaves it unwritten and
returns the `ALL_GOOD` of its outer `retCode`, so that the log reads through an
uninitialised pointer.

* `queueNames_sound` — nothing is freed twice or used after its free exactly as long as
  every declaration succeeds; the table then owns what is live, and once the consumer is
  destroyed as many names were freed as were allocated.
-/

namespace HareCpp
namespace Consumer

open Library ConnectionBase ChannelHandler TransitionSystem

variable {Callback : Type} {s s' : ConsumerState Callback}

/-! ### Names -/

/-- A buffer with the name of a queue, by the number of its declaration; `none` is what
a null or an uninitialised pointer leads to. -/
abbrev NameBlock : Type := Option Nat

/-- The declarations so far. -/
def declarations (calls : List AmqpCall) : Nat := calls.countP fun call => (declaredBy call).isSome

/-- The declaration that a channel has its name from. -/
def nameOf : List AmqpCall → Int → Option Nat
  | [], _ => none
  | call :: past, channel =>
      match declaredBy call with
      | some declared =>
          if declared.1 = channel then some (declarations past) else nameOf past channel
      | none => nameOf past channel

/-- A declaration succeeds. -/
def declareSucceeds : AmqpCall → Bool
  | .queueDeclare _ _ _ reply => decide (reply.replyType = .normal)
  | _ => true

/-- The names in the table. -/
def namesOf (s : ConsumerState Callback) : List Nat :=
  s.channelHandler.getChannelList.filterMap (nameOf s.calls)

/-- What `queueName` in `setupAndConsume` points to. -/
def localName (s : ConsumerState Callback) (queueName : AmqpBytes) : NameBlock :=
  queueName.map fun _ => declarations s.calls - 1

/-! ### What the steps do to the heap -/

/-- `DeclareQueue`, the log of the name, and `SetQueueName`. -/
def declareHeap (s : ConsumerState Callback) (channel : Int) (reply : AmqpRpcReply) :
    List (HeapEvent NameBlock) :=
  if reply.replyType = .normal then
    (if channel ∈ s.channelHandler.getChannelList then (nameOf s.calls channel).toList else []).map
        (fun old => .free (some old)) ++
      [.read (some (declarations s.calls)), .alloc (some (declarations s.calls))]
  else [.read none]

/-- What a step of the worker does. -/
def workerNames (s : ConsumerState Callback) (input : WorkerInput) : List (HeapEvent NameBlock) :=
  if s.connection.isSome then
    match s.worker with
    | .setupDeclare _ channel _ => declareHeap s channel input.reply
    | .setupBind _ _ queueName | .setupConsume _ _ queueName => [.read (localName s queueName)]
    | _ => []
  else []

/-- What a step of a control call does: `~ChannelHandler`. -/
def controlNames (s : ConsumerState Callback) : ControlPc → List (HeapEvent NameBlock)
  | .destroyMembers =>
      if s.worker = .none then ((namesOf s).map some).map .free else []
  | _ => []

/-- What a step does. -/
def nameEvents (s : ConsumerState Callback) : Action Callback → List (HeapEvent NameBlock)
  | .worker input => workerNames s input
  | .control k _ => (s.controls[k]?).elim [] (controlNames s)
  | .subscribe _ | .subscribeStep _ | .begin _ => []

/-- The buffers that the table owns. -/
def liveNames (s : ConsumerState Callback) : Finset NameBlock :=
  if s.status = .destroyed then ∅ else ((namesOf s).map some).toFinset

/-! ### Which declaration a name is from -/

theorem declarations_append {new : List AmqpCall} (hnew : ∀ call ∈ new, declaredBy call = none)
    (calls : List AmqpCall) : declarations (new ++ calls) = declarations calls := by
  rw [declarations, List.countP_append, declarations, Nat.add_eq_right, List.countP_eq_zero]
  intro call hcall
  simp [hnew call hcall]

theorem nameOf_append {new : List AmqpCall} (hnew : ∀ call ∈ new, declaredBy call = none)
    (calls : List AmqpCall) : nameOf (new ++ calls) = nameOf calls := by
  funext channel
  induction new with
  | nil => rfl
  | cons call rest ih =>
      rw [List.cons_append, nameOf, hnew call List.mem_cons_self]
      exact ih fun other hother => hnew other (.tail _ hother)

theorem declareSucceeds_of_none {call : AmqpCall} (h : declaredBy call = none) :
    declareSucceeds call = true := by
  cases call with
  | queueDeclare => cases h
  | _ => rfl

/-- A name is from one of the declarations so far. -/
theorem nameOf_lt {calls : List AmqpCall} {channel : Int} {name : Nat}
    (h : nameOf calls channel = some name) : name < declarations calls := by
  induction calls with
  | nil => cases h
  | cons call past ih =>
      rw [declarations, List.countP_cons, ← declarations]
      rw [nameOf] at h
      split at h
      · next declared hdeclared =>
          rw [hdeclared]
          split at h
          · cases h
            simp
          · have hpast := ih h
            simp
            omega
      · have hpast := ih h
        omega

/-- Different channels have different names. -/
theorem nameOf_inj {calls : List AmqpCall} {channel other : Int} {name : Nat}
    (h : nameOf calls channel = some name) (h' : nameOf calls other = some name) :
    channel = other := by
  induction calls with
  | nil => cases h
  | cons call past ih =>
      rw [nameOf] at h h'
      cases hdeclared : declaredBy call with
      | none =>
          rw [hdeclared] at h h'
          exact ih h h'
      | some declared =>
          simp only [hdeclared] at h h'
          split at h
          · next hchannel =>
              split at h'
              · next hother => exact hchannel.symm.trans hother
              · cases h
                exact absurd (nameOf_lt h') (lt_irrefl _)
          · split at h'
            · cases h'
              exact absurd (nameOf_lt h) (lt_irrefl _)
            · exact ih h h'

theorem nodup_namesOf (hfacts : HandlerFacts s.channelHandler) : (namesOf s).Nodup :=
  hfacts.nodup_getChannelList.filterMap fun _ _ _ h h' => nameOf_inj h h'

theorem mem_namesOf {name : Nat} :
    name ∈ namesOf s ↔
      ∃ channel ∈ s.channelHandler.getChannelList, nameOf s.calls channel = some name :=
  List.mem_filterMap

/-! ### The table owns the names -/

/-- The channel and the name that `setupAndConsume` works with. -/
def WorkerPc.nameInHand : WorkerPc → Option (Int × AmqpBytes)
  | setupBind _ channel queueName | setupConsume _ channel queueName => some (channel, queueName)
  | _ => Option.none

/-- The heap, while every declaration succeeds. -/
structure NameFacts (s : ConsumerState Callback) (record : List (HeapEvent NameBlock)) : Prop where
  live : heapAfter record = some (liveNames s)
  /-- a queue was declared for channels in the table only -/
  known : ∀ channel name, nameOf s.calls channel = some name →
    channel ∈ s.channelHandler.getChannelList
  /-- the worker has the name that was declared last -/
  hand : ∀ channel queueName, s.worker.nameInHand = some (channel, queueName) →
    ∃ name, localName s queueName = some name ∧ nameOf s.calls channel = some name

variable {record : List (HeapEvent NameBlock)}

theorem liveNames_of_alive (h : s.status ≠ .destroyed) :
    liveNames s = ((namesOf s).map some).toFinset := if_neg h

/-- A step that leaves the names where they are. -/
theorem NameFacts.of_names (h : NameFacts s record) (hstatus : s.status ≠ .destroyed)
    (hstatus' : s'.status ≠ .destroyed) {new : List AmqpCall} (hcalls : s'.calls = new ++ s.calls)
    (hnew : ∀ call ∈ new, declaredBy call = none)
    (hlist : s.channelHandler.getChannelList ⊆ s'.channelHandler.getChannelList)
    (hnames : namesOf s' = namesOf s)
    (hhand : ∀ hand, s'.worker.nameInHand = some hand → s.worker.nameInHand = some hand) :
    NameFacts s' record := by
  constructor
  · rw [liveNames_of_alive hstatus', hnames, ← liveNames_of_alive hstatus]
    exact h.live
  · intro channel name hname
    rw [hcalls, nameOf_append hnew] at hname
    exact hlist (h.known channel name hname)
  · intro channel queueName hinHand
    rw [localName, hcalls, declarations_append hnew, nameOf_append hnew]
    exact h.hand channel queueName (hhand _ hinHand)

theorem NameFacts.of_same (h : NameFacts s record) (hstatus : s.status ≠ .destroyed)
    (hstatus' : s'.status ≠ .destroyed) {new : List AmqpCall} (hcalls : s'.calls = new ++ s.calls)
    (hnew : ∀ call ∈ new, declaredBy call = none)
    (hlist : s'.channelHandler.getChannelList = s.channelHandler.getChannelList)
    (hhand : ∀ hand, s'.worker.nameInHand = some hand → s.worker.nameInHand = some hand) :
    NameFacts s' record := by
  refine h.of_names hstatus hstatus' hcalls hnew (hlist ▸ fun _ hmem => hmem) ?_ hhand
  rw [namesOf, hlist, hcalls, nameOf_append hnew, namesOf]

theorem mem_liveNames (h : s.status ≠ .destroyed) {name : Nat} :
    some name ∈ liveNames s ↔ name ∈ namesOf s := by
  simp [liveNames_of_alive h]

theorem none_notMem_liveNames (s : ConsumerState Callback) : none ∉ liveNames s := by
  unfold liveNames
  split <;> simp

section Declare

variable {input : WorkerInput} {caller : SetupCaller} {channel : Int} {base : ConnectionBase}
  {queueProps : QueueProperties}

/-- What `DeclareQueue` and `SetQueueName` do. -/
theorem declare_of_step (hpc : s.worker = .setupDeclare caller channel queueProps)
    (hbase : s.connection = some base) (hnormal : input.reply.replyType = .normal)
    (hstep : workerStep s input = some s') :
    s' = { s with
      calls := .queueDeclare base.conn channel queueProps input.reply :: s.calls
      channelHandler := s.channelHandler.setQueueName channel (some input.declared)
      worker := .setupBind caller channel (some input.declared) } := by
  have hdefined : (base.declareQueue channel queueProps none input.reply input.declared).defined =
      true := (declareQueue_defined ..).mpr hnormal
  simp only [workerStep, hpc, hbase, hdefined, if_true,
    declareQueue_retQueue _ _ _ _ _ hnormal] at hstep
  cases hstep
  rw [hbase]
  rfl

/-- The declaration is asked for, whatever comes of it. -/
theorem calls_of_declare (hpc : s.worker = .setupDeclare caller channel queueProps)
    (hbase : s.connection = some base) (hstep : workerStep s input = some s') :
    s'.calls = .queueDeclare base.conn channel queueProps input.reply :: s.calls := by
  simp only [workerStep, hpc, hbase] at hstep
  cases hstep
  split <;> rfl

/-- A declaration that succeeds. -/
theorem NameFacts.declared (h : NameFacts s record) (hstatus : s.status ≠ .destroyed)
    (hpc : s.worker = .setupDeclare caller channel queueProps) (hbase : s.connection = some base)
    (hmem : channel ∈ s.channelHandler.getChannelList)
    (hgood : input.reply.replyType = .normal) (hstep : workerStep s input = some s') :
    NameFacts s' (declareHeap s channel input.reply ++ record) := by
  have hs' := declare_of_step hpc hbase hgood hstep
  have hstatus' : s'.status ≠ .destroyed := by
    rw [hs']
    exact hstatus
  have hlist : s'.channelHandler.getChannelList = s.channelHandler.getChannelList := by
    rw [hs']
    exact getChannelList_setQueueName _ _ _
  have hname : ∀ other, nameOf s'.calls other =
      if channel = other then some (declarations s.calls) else nameOf s.calls other := by
    intro other
    rw [hs']
    rfl
  have hfresh : some (declarations s.calls) ∉ liveNames s := by
    rw [mem_liveNames hstatus, mem_namesOf]
    rintro ⟨other, -, hother⟩
    exact absurd (nameOf_lt hother) (lt_irrefl _)
  have hallocated : heapAfter ([.read (some (declarations s.calls)),
      .alloc (some (declarations s.calls))] ++ record) =
        some (insert (some (declarations s.calls)) (liveNames s)) := by
    have halloc : heapAfter (.alloc (some (declarations s.calls)) :: record) =
        some (insert (some (declarations s.calls)) (liveNames s)) := by
      rw [heapAfter_cons h.live, heapStep, if_neg hfresh]
    exact (heapAfter_cons halloc).trans (if_pos (Finset.mem_insert_self _ _))
  -- the names afterwards: the new one, and those of the other channels
  have hlive' : ∀ name, some name ∈ liveNames s' ↔ name = declarations s.calls ∨
      ∃ other ∈ s.channelHandler.getChannelList, other ≠ channel ∧
        nameOf s.calls other = some name := by
    intro name
    rw [mem_liveNames hstatus', mem_namesOf, hlist]
    constructor
    · rintro ⟨other, hother, hsome⟩
      rw [hname] at hsome
      split at hsome
      · cases hsome
        exact .inl rfl
      · next hne => exact .inr ⟨other, hother, Ne.symm hne, hsome⟩
    · rintro (rfl | ⟨other, hother, hne, hsome⟩)
      · exact ⟨channel, hmem, by rw [hname, if_pos rfl]⟩
      · exact ⟨other, hother, by rw [hname, if_neg (Ne.symm hne), hsome]⟩
  constructor
  · rw [declareHeap, if_pos hgood, if_pos hmem, List.append_assoc]
    cases hold : nameOf s.calls channel with
    | none =>
        rw [Option.toList_none, List.map_nil, List.nil_append, hallocated]
        congr 1
        ext block
        cases block with
        | none => simp [none_notMem_liveNames]
        | some name =>
            rw [Finset.mem_insert, Option.some_inj, mem_liveNames hstatus, mem_namesOf, hlive']
            refine or_congr_right (exists_congr fun other => and_congr_right fun _ => ?_)
            refine (and_iff_right_of_imp ?_).symm
            rintro hsome rfl
            cases hold.symm.trans hsome
    | some old =>
        have hne : old ≠ declarations s.calls := (nameOf_lt hold).ne
        have hstill : some old ∈ insert (some (declarations s.calls)) (liveNames s) := by
          apply Finset.mem_insert_of_mem
          rw [mem_liveNames hstatus, mem_namesOf]
          exact ⟨channel, hmem, hold⟩
        rw [Option.toList_some, List.map_singleton, List.singleton_append,
          heapAfter_cons hallocated, heapStep, if_pos hstill]
        congr 1
        ext block
        cases block with
        | none => simp [none_notMem_liveNames]
        | some name =>
            rw [Finset.mem_erase, Finset.mem_insert, Option.some_inj, mem_liveNames hstatus,
              mem_namesOf, hlive', Ne, Option.some_inj]
            constructor
            · rintro ⟨hother, hnew | ⟨other, hlisted, hsome⟩⟩
              · exact .inl hnew
              · refine .inr ⟨other, hlisted, ?_, hsome⟩
                rintro rfl
                exact hother (Option.some.inj (hsome.symm.trans hold))
            · rintro (rfl | ⟨other, hlisted, hdifferent, hsome⟩)
              · exact ⟨Ne.symm hne, .inl rfl⟩
              · refine ⟨?_, .inr ⟨other, hlisted, hsome⟩⟩
                rintro rfl
                exact hdifferent (nameOf_inj hsome hold)
  · intro other name hother
    rw [hname] at hother
    rw [hlist]
    split at hother
    · next hsame => exact hsame ▸ hmem
    · exact h.known other name hother
  · intro other queueName hinHand
    have hpc' : s'.worker = .setupBind caller channel (some input.declared) := by rw [hs']
    rw [hpc'] at hinHand
    cases hinHand
    refine ⟨declarations s.calls, ?_, ?_⟩
    · have hcount : declarations s'.calls = declarations s.calls + 1 := by
        rw [hs']
        exact List.countP_cons_of_pos rfl
      rw [localName, hcount]
      rfl
    · rw [hname, if_pos rfl]

end Declare

/-- The worker reads the name that it has in hand. -/
theorem NameFacts.read (h : NameFacts s record) (hstatus : s.status ≠ .destroyed)
    {channel : Int} {queueName : AmqpBytes}
    (hhand : s.worker.nameInHand = some (channel, queueName)) :
    heapAfter ([.read (localName s queueName)] ++ record) = some (liveNames s) := by
  obtain ⟨name, hlocal, hname⟩ := h.hand channel queueName hhand
  have hlive : some name ∈ liveNames s := by
    rw [mem_liveNames hstatus, mem_namesOf]
    exact ⟨channel, h.known channel name hname, hname⟩
  rw [hlocal]
  exact (heapAfter_cons h.live).trans (if_pos hlive)

/-- Where the worker is given no other name. -/
theorem WorkerMove.nameInHand {input : WorkerInput} (hmove : WorkerMove s input s')
    (hnot : s.worker.declaring = none) :
    ∀ hand, s'.worker.nameInHand = some hand → s.worker.nameInHand = some hand := by
  intro hand hhand
  have hcaller : ∀ (code : HareError) caller, (afterSetup code caller).nameInHand = none := by
    intro code caller
    cases caller with
    | retry => rfl
    | startUp rest =>
        unfold afterSetup
        dsimp only
        split
        · rfl
        · rcases nextChannel_cases code rest with ⟨-, h⟩ | ⟨-, h⟩ | ⟨_, _, -, h⟩ <;> rw [h] <;> rfl
  cases hmove with
  | goto next hnext =>
      cases hnext with
      | listed =>
          rcases nextChannel_cases .allGood input.order with ⟨-, h⟩ | ⟨-, h⟩ | ⟨_, _, -, h⟩ <;>
            · rw [h] at hhand
              cases hhand
      | _ => cases hhand
  | crash => exact hhand
  | opened caller channel base =>
      unfold setupGoesOn at hhand
      dsimp only at hhand
      split at hhand <;> cases hhand
  | declared caller channel base queue hpc | refused caller channel base queue hpc =>
      rw [hpc] at hnot
      cases hnot
  | bound caller channel base queue hpc =>
      unfold setupGoesOn at hhand
      dsimp only at hhand
      split at hhand
      · rw [hpc]
        exact hhand
      · cases hhand
  | consumed caller =>
      have hnone := hcaller .allGood caller
      cases hnone.symm.trans hhand
  | pushed caller channel code =>
      have hnone := hcaller code caller
      cases hnone.symm.trans hhand
  | pulled base next hpc hbase hnext => rcases hnext with rfl | rfl | rfl <;> cases hhand
  | _ => cases hhand

/-- A step of the worker that is not a declaration reads the name in hand, or leaves
the heap alone. -/
theorem workerNames_of_not_declaring (input : WorkerInput) (hnot : s.worker.declaring = none) :
    workerNames s input = [] ∨ ∃ channel queueName,
      s.worker.nameInHand = some (channel, queueName) ∧
        workerNames s input = [.read (localName s queueName)] := by
  unfold workerNames
  split
  · cases hpc : s.worker with
    | setupDeclare caller channel queueProps =>
        rw [hpc] at hnot
        cases hnot
    | setupBind caller channel queueName | setupConsume caller channel queueName =>
        exact .inr ⟨channel, queueName, rfl, rfl⟩
    | _ => exact .inl rfl
  · exact .inl rfl

/-- Another step of the worker. -/
theorem NameFacts.worker {input : WorkerInput} (h : NameFacts s record)
    (hstatus : s.status = .running) (hnot : s.worker.declaring = none)
    (hmove : WorkerMove s input s') : NameFacts s' (workerNames s input ++ record) := by
  obtain ⟨-, new, hcalls, hnew⟩ := hmove.declares
  have hnew : ∀ call ∈ new, declaredBy call = none := by
    intro call hcall
    rw [Option.eq_none_iff_forall_not_mem]
    intro declared hdeclared
    have hdeclaring := hnew call hcall declared hdeclared
    rw [hnot] at hdeclaring
    cases hdeclaring
  have halive : s.status ≠ .destroyed := by rw [hstatus]; decide
  have halive' : s'.status ≠ .destroyed := by
    cases hmove with
    | crash | refused => simp [crash]
    | _ => exact halive
  have hread : NameFacts s (workerNames s input ++ record) := by
    rcases workerNames_of_not_declaring input hnot with hnone | ⟨channel, queueName, hhand, heq⟩
    · rw [hnone]
      exact h
    · rw [heq]
      exact ⟨h.read halive hhand, h.known, h.hand⟩
  exact hread.of_same halive halive' hcalls hnew hmove.getChannelList (hmove.nameInHand hnot)

/-- A step of a `Subscribe`; a new channel has no name. -/
theorem NameFacts.subscribe {pc : SubscribePc Callback} (h : NameFacts s record)
    (hstatus : s.status = .running) (hfacts : HandlerFacts s.channelHandler)
    (hmove : SubscribeMove s pc s') : NameFacts s' record := by
  have hframe := hmove.frame
  have halive : s.status ≠ .destroyed := by rw [hstatus]; decide
  have halive' : s'.status ≠ .destroyed := by
    cases hmove <;> exact halive
  have hhand : ∀ hand, s'.worker.nameInHand = some hand → s.worker.nameInHand = some hand := by
    rw [hframe.worker]
    exact fun _ hhand => hhand
  have hcalls : s'.calls = [] ++ s.calls := hframe.calls
  have hsame : s'.channelHandler.getChannelList = s.channelHandler.getChannelList →
      NameFacts s' record := fun hlist =>
    h.of_same halive halive' hcalls (fun _ hcall => by cases hcall) hlist hhand
  cases hmove with
  | known call hchannel => exact hsame (hfacts.getChannelList_refused hchannel)
  | added call hchannel =>
      obtain ⟨hfresh, hlist⟩ := hfacts.getChannelList_added hchannel
      refine h.of_names halive halive' hcalls (fun _ hcall => by cases hcall) ?_ ?_ hhand
      · show _ ⊆ (s.channelHandler.addChannelProcessor _ _).1.getChannelList
        rw [hlist]
        exact List.subset_append_left _ _
      · have hnone : nameOf s.calls (s.channelHandler.addChannelProcessor
            ⟨call.exchange, call.bindingKey⟩ call.callback).2 = none := by
          rw [Option.eq_none_iff_forall_ne_some]
          intro name hname
          exact hfresh (h.known _ name hname)
        show List.filterMap (nameOf s.calls) (s.channelHandler.addChannelProcessor
          ⟨call.exchange, call.bindingKey⟩ call.callback).1.getChannelList = _
        rw [hlist, List.filterMap_append, List.filterMap_cons_none hnone, List.filterMap_nil,
          List.append_nil]
        rfl
  | propertiesSet channel queueProps =>
      exact hsame (getChannelList_setQueueProperties s.channelHandler channel queueProps)
  | running | notRunning | pushed => exact hsame rfl

/-- A step of a control call other than the end of the destructor. -/
theorem NameFacts.control {reply : AmqpRpcReply} {pc : ControlPc} (h : NameFacts s record)
    (hstatus : s.status = .running) (halive' : s'.status ≠ .destroyed)
    (hmove : ControlMove s reply pc s') : NameFacts s' record := by
  obtain ⟨new, hcalls, hnew⟩ := hmove.declares
  have halive : s.status ≠ .destroyed := by rw [hstatus]; decide
  have hlist : s'.channelHandler.getChannelList = s.channelHandler.getChannelList := by
    rw [hmove.frame.1]
  refine h.of_same halive halive' hcalls hnew hlist ?_
  intro hand hhand
  rcases hmove.worker with hsame | ⟨-, hstart⟩ | ⟨-, hnone⟩
  · rwa [hsame] at hhand
  · rw [hstart] at hhand
    cases hhand
  · rw [hnone] at hhand
    cases hhand

/-- `~ChannelHandler` frees every name in the table. -/
theorem NameFacts.destroyed (h : NameFacts s record) (hstatus : s.status ≠ .destroyed)
    (hfacts : HandlerFacts s.channelHandler) :
    heapAfter (((namesOf s).map some).map .free ++ record) = some ∅ := by
  have hlive := h.live
  rw [liveNames_of_alive hstatus] at hlive
  have hnodup : ((namesOf s).map some).Nodup := (nodup_namesOf hfacts).map (Option.some_injective _)
  rw [heapAfter_frees hlive hnodup fun block hmem => List.mem_toFinset.mpr hmem, sdiff_self]
  rfl

/-- A declaration that fails. -/
theorem NameFacts.garbage {input : WorkerInput} (h : NameFacts s record) (channel : Int)
    (hbad : input.reply.replyType ≠ .normal) :
    heapAfter (declareHeap s channel input.reply ++ record) = none := by
  rw [declareHeap, if_neg hbad]
  exact (heapAfter_cons h.live).trans (if_neg (none_notMem_liveNames s))

/-! ### The run -/

/-- The names are in order while every declaration succeeds, and not after one has
failed. -/
structure NamesInOrder (s : ConsumerState Callback) (record : List (HeapEvent NameBlock)) :
    Prop where
  sound : (∀ call ∈ s.calls, declareSucceeds call = true) → s.status ≠ .destroyed →
    NameFacts s record
  destroyed : (∀ call ∈ s.calls, declareSucceeds call = true) → s.status = .destroyed →
    heapAfter record = some ∅
  broken : ¬(∀ call ∈ s.calls, declareSucceeds call = true) → heapAfter record = none

theorem NamesInOrder.of_facts (h : NameFacts s record) (halive : s.status ≠ .destroyed)
    (hall : ∀ call ∈ s.calls, declareSucceeds call = true) : NamesInOrder s record where
  sound := fun _ _ => h
  destroyed := fun _ hstatus => absurd hstatus halive
  broken := fun hnot => absurd hall hnot

/-- The calls of a step come on top of those before. -/
theorem Move.calls_grow {action : Action Callback} (hmove : Move s action s') :
    ∃ new, s'.calls = new ++ s.calls := by
  cases hmove with
  | worker input _ hmove =>
      obtain ⟨-, new, hcalls, -⟩ := hmove.declares
      exact ⟨new, hcalls⟩
  | subscribeRefused | subscribeBegins | begin => exact ⟨[], rfl⟩
  | subscribe k pc rest _ hpick hmove => exact ⟨[], hmove.frame.calls⟩
  | control k reply pc rest _ hpick _ hmove =>
      obtain ⟨new, hcalls, -⟩ := hmove.declares
      exact ⟨new, hcalls⟩

/-- Calls that declare nothing. -/
theorem declareSucceeds_append {new calls : List AmqpCall}
    (hnew : ∀ call ∈ new, declaredBy call = none)
    (hall : ∀ call ∈ calls, declareSucceeds call = true) :
    ∀ call ∈ new ++ calls, declareSucceeds call = true := by
  intro call hcall
  rcases List.mem_append.mp hcall with hmem | hmem
  · exact declareSucceeds_of_none (hnew call hmem)
  · exact hall call hmem

/-- A step of the worker. -/
theorem NamesInOrder.worker {input : WorkerInput} (h : NameFacts s record)
    (hall : ∀ call ∈ s.calls, declareSucceeds call = true) (hstatus : s.status = .running)
    (hknown : ∀ channel ∈ waiting s, channel ∈ s.channelHandler.getChannelList)
    (hstep : workerStep s input = some s') : NamesInOrder s' (workerNames s input ++ record) := by
  have halive : s.status ≠ .destroyed := by rw [hstatus]; decide
  have hmove := workerMove_of_step hstep
  have halive' : s'.status ≠ .destroyed := by
    cases hmove with
    | crash | refused => simp [crash]
    | _ => exact halive
  cases hpc : s.worker.declaring with
  | none =>
      obtain ⟨-, new, hcalls, hnew⟩ := hmove.declares
      refine .of_facts (h.worker hstatus hpc hmove) halive' ?_
      rw [hcalls]
      refine declareSucceeds_append ?_ hall
      intro call hcall
      rw [Option.eq_none_iff_forall_not_mem]
      intro declared hdeclared
      have hdeclaring := hnew call hcall declared hdeclared
      rw [hpc] at hdeclaring
      cases hdeclaring
  | some declared =>
      obtain ⟨caller, channel, queueProps, hpc⟩ : ∃ caller channel queueProps,
          s.worker = .setupDeclare caller channel queueProps := by
        cases hworker : s.worker with
        | setupDeclare caller channel queueProps => exact ⟨caller, channel, queueProps, rfl⟩
        | _ =>
            rw [hworker] at hpc
            cases hpc
      have hmem : channel ∈ s.channelHandler.getChannelList :=
        hknown channel (mem_waiting_of_worker (by rw [hpc]; exact List.mem_cons_self))
      cases hbase : s.connection with
      | none =>
          simp only [workerStep, hpc, hbase] at hstep
          cases hstep
          rw [workerNames, hbase]
          refine .of_facts ⟨?_, h.known, h.hand⟩ halive' hall
          simpa [liveNames, crash, halive, namesOf] using h.live
      | some base =>
          have hevents : workerNames s input = declareHeap s channel input.reply := by
            simp [workerNames, hbase, hpc]
          have hcalls := calls_of_declare hpc hbase hstep
          rw [hevents]
          by_cases hgood : input.reply.replyType = .normal
          · refine .of_facts (h.declared halive hpc hbase hmem hgood hstep) halive' ?_
            rw [hcalls]
            intro call hcall
            rcases List.mem_cons.mp hcall with rfl | hold
            · exact decide_eq_true hgood
            · exact hall call hold
          · have hnot : ¬∀ call ∈ s'.calls, declareSucceeds call = true := by
              rw [hcalls]
              intro hall'
              exact hgood (of_decide_eq_true (hall' _ List.mem_cons_self))
            constructor
            · exact fun hall' => absurd hall' hnot
            · exact fun hall' => absurd hall' hnot
            · exact fun _ => h.garbage channel hgood

/-- A step keeps the names in order, or breaks them for good. -/
theorem NamesInOrder.step {action : Action Callback} (h : NamesInOrder s record)
    (hhandler : HandlerFacts s.channelHandler)
    (hknown : ∀ channel ∈ waiting s, channel ∈ s.channelHandler.getChannelList)
    (hstep : Consumer.step s action = some s') :
    NamesInOrder s' (nameEvents s action ++ record) := by
  obtain ⟨hstatus, hmove⟩ := move_of_step hstep
  have halive : s.status ≠ .destroyed := by rw [hstatus]; decide
  by_cases hall : ∀ call ∈ s.calls, declareSucceeds call = true
  · have hfacts := h.sound hall halive
    cases hmove with
    | worker input _ hmove =>
        have hworker : workerStep s input = some s' := by
          rw [← hstep]
          simp only [Consumer.step, hstatus, if_true]
        exact .worker hfacts hall hstatus hknown hworker
    | subscribeRefused | subscribeBegins | begin =>
        exact .of_facts ⟨hfacts.live, hfacts.known, hfacts.hand⟩ halive hall
    | subscribe k pc rest _ hpick hmove =>
        have hsame : NameFacts { s with subscribes := rest } record :=
          ⟨hfacts.live, hfacts.known, hfacts.hand⟩
        refine .of_facts (hsame.subscribe hstatus hhandler hmove) ?_ ?_
        · cases hmove <;> exact halive
        · rw [hmove.frame.calls]
          exact hall
    | control k reply pc rest _ hpick _ hmove =>
        have hsame : NameFacts { s with controls := rest } record :=
          ⟨hfacts.live, hfacts.known, hfacts.hand⟩
        obtain ⟨new, hcalls, hnew⟩ := hmove.declares
        have hall' : ∀ call ∈ s'.calls, declareSucceeds call = true := by
          rw [hcalls]
          exact declareSucceeds_append hnew hall
        have hevents : nameEvents s (.control k reply) = controlNames s pc := by
          rw [nameEvents, getElem?_of_pick hpick, Option.elim_some]
        rw [hevents]
        by_cases hpc : pc = .destroyMembers ∧ s.worker = .none
        · obtain ⟨rfl, hworker⟩ := hpc
          have hcontrol : controlStep { s with controls := rest } reply .destroyMembers =
              some s' := by
            simpa [Consumer.step, hstatus, hpick, ControlPc.needsConsumerMutex] using hstep
          rw [controlStep, if_pos hworker] at hcontrol
          have hgone : s'.status = .destroyed := by
            cases hcontrol
            rfl
          rw [controlNames, if_pos hworker]
          constructor
          · exact fun _ halive' => absurd hgone halive'
          · exact fun _ _ => hfacts.destroyed halive hhandler
          · exact fun hnot => absurd hall' hnot
        · have hnone : controlNames s pc = [] := by
            cases pc with
            | destroyMembers => exact if_neg fun hworker => hpc ⟨rfl, hworker⟩
            | _ => rfl
          have halive' : s'.status ≠ .destroyed := by
            cases hmove with
            | destroyed hworker => exact absurd ⟨rfl, hworker⟩ hpc
            | stopRefused _ caller code | stopped caller base =>
                obtain ⟨_, _, heq, -⟩ := stopReturns_frame _ caller _
                rw [heq]
                exact halive
            | crash => simp [crash]
            | _ => exact halive
          rw [hnone]
          exact .of_facts (hsame.control hstatus halive' hmove) halive' hall'
  · have hnot : ¬∀ call ∈ s'.calls, declareSucceeds call = true := by
      obtain ⟨new, hcalls⟩ := hmove.calls_grow
      rw [hcalls]
      intro hall'
      exact hall fun call hcall => hall' call (List.mem_append_right _ hcall)
    constructor
    · exact fun hall' => absurd hall' hnot
    · exact fun hall' => absurd hall' hnot
    · exact fun _ => heapAfter_append_of_fault (h.broken hall) _

theorem namesInOrder_reachable {allowed : ConsumerState Callback → Action Callback → Prop}
    {t : ConsumerState Callback × List (HeapEvent NameBlock)}
    (ht : (system.recording nameEvents).ReachableUnder (fun t => allowed t.1) t) :
    NamesInOrder t.1 t.2 := by
  refine ht.record_induction NamesInOrder ?_ ?_
  · refine .of_facts ⟨rfl, ?_, ?_⟩ (by simp [system, initial]) ?_
    · intro channel name hname
      cases hname
    · intro channel queueName hhand
      cases hhand
    · intro call hcall
      cases hcall
  · intro s action s' record hreach _ h hstep
    exact h.step (built_reachable hreach).facts (waiting_known hreach) hstep

/-- In every run the names of the queues are neither freed twice nor used after their
free, and those in the table are the ones that are live, exactly when every declaration
so far has succeeded; and then as many were freed as were allocated once the consumer is
destroyed. -/
theorem queueNames_sound {allowed : ConsumerState Callback → Action Callback → Prop}
    {t : ConsumerState Callback × List (HeapEvent NameBlock)}
    (ht : (system.recording nameEvents).ReachableUnder (fun t => allowed t.1) t) :
    (heapAfter t.2 = some (liveNames t.1) ↔
      ∀ call ∈ t.1.calls, declareSucceeds call = true) ∧
    ((∀ call ∈ t.1.calls, declareSucceeds call = true) → t.1.status = .destroyed →
      t.2.countP HeapEvent.isAlloc = t.2.countP HeapEvent.isFree) := by
  have h := namesInOrder_reachable ht
  refine ⟨⟨?_, ?_⟩, ?_⟩
  · intro hlive
    by_contra hnot
    cases (h.broken hnot).symm.trans hlive
  · intro hall
    by_cases hstatus : t.1.status = .destroyed
    · rw [h.destroyed hall hstatus, liveNames, if_pos hstatus]
    · exact (h.sound hall hstatus).live
  · intro hall hstatus
    have hbalance := heapAfter_balance (h.destroyed hall hstatus)
    rwa [Finset.card_empty, Nat.add_zero] at hbalance

/-- Two channels are set up, the first of them again after a reconnect, and the consumer
is destroyed. -/
theorem queueNames_sound_run :
    ∃ t : ConsumerState Nat × List (HeapEvent NameBlock),
      ((system.recording nameEvents).ReachableUnder (fun t => OneControl t.1) t ∧
        t.1.status = .destroyed ∧ t.2.countP HeapEvent.isAlloc = 3) ∧
      (heapAfter t.2 = some (liveNames t.1) ↔
        ∀ call ∈ t.1.calls, declareSucceeds call = true) ∧
      ((∀ call ∈ t.1.calls, declareSucceeds call = true) → t.1.status = .destroyed →
        t.2.countP HeapEvent.isAlloc = t.2.countP HeapEvent.isFree) := by
  obtain ⟨t, ht, htest⟩ := TransitionSystem.exists_reachableUnder_of_run
    (M := system.recording nameEvents) (fun t => OneControl t.1)
    (List.flatten [startUp, subscribeTo 97, connectAndSetUp, subscribeTo 98,
      List.replicate 4 (.worker {}),
      [.worker { reply := { replyType := .libraryException, libraryError := -7 } }],
      List.replicate 10 (.worker {}), .worker { order := [2, 1] } ::
        List.replicate 10 (.worker {}),
      .begin .destroy :: List.replicate 5 (.control 0 .normal),
      .worker { reply := { replyType := .libraryException, libraryError := -7 } } ::
        List.replicate 5 (.worker {}), List.replicate 4 (.control 0 .normal)])
    (fun t => decide (t.1.status = .destroyed ∧ t.2.countP HeapEvent.isAlloc = 3))
    (by decide +kernel)
  exact ⟨t, ⟨ht, of_decide_eq_true htest⟩, queueNames_sound ht⟩

end Consumer
end HareCpp
