import HareCpp.Message

/-!
# `ChannelHandler`

The subscriptions of a consumer: a table from channels and a table from binding
pairs to shared records.  `infos` are the records in the order in which
`make_shared` made them, and the tables hold their places in it.

`TD_Callback` is a type parameter: callbacks are compared and counted, never
run.  `Process` gives the invocations it makes; with `m_multiThreaded` the same
call is made from a thread of its own.

Both tables only grow, one record at a time, which makes them lists in step with
`infos` (`HandlerFacts`); `infoAt_iff` says what a lookup finds.
-/

namespace HareCpp

/-- `HashableBindingPair`. -/
structure HashableBindingPair where
  exchangeName : Bytes
  routingKey : Bytes
  deriving DecidableEq, Repr

/-- `ChannelHandler::channelProcessingInfo`.  `channel` is what `m_channel` points
to, `none` for a null pointer. -/
structure ChannelProcessingInfo (Callback : Type) where
  channel : Option Int := none
  bindingPair : HashableBindingPair
  callback : Callback
  queueName : AmqpBytes := none
  queueProperties : QueueProperties := {}
  deriving DecidableEq, Repr

/-- The members of `ChannelHandler`. -/
structure ChannelHandler (Callback : Type) where
  infos : List (ChannelProcessingInfo Callback) := []
  bindingPairLookup : List (HashableBindingPair × Nat) := []
  channelLookup : List (Int × Nat) := []
  nextAvailableChannel : Int := 1
  multiThreaded : Bool := false

namespace ChannelHandler

variable {Callback : Type}

/-- The record `m_channelLookup[channel]`. -/
def infoOf (handler : ChannelHandler Callback) (channel : Int) :
    Option (ChannelProcessingInfo Callback) :=
  (handler.channelLookup.lookup channel).bind (handler.infos[·]?)

/-- The record that `m_bindingPairLookup.find(bindingPair)` leads to. -/
def infoAt (handler : ChannelHandler Callback) (bindingPair : HashableBindingPair) :
    Option (ChannelProcessingInfo Callback) :=
  (handler.bindingPairLookup.lookup bindingPair).bind (handler.infos[·]?)

/-- Write to the record at a place. -/
def updateInfo (handler : ChannelHandler Callback) (place : Nat)
    (change : ChannelProcessingInfo Callback → ChannelProcessingInfo Callback) :
    ChannelHandler Callback :=
  { handler with infos := handler.infos.modify place change }

/-- `AddChannelProcessor`: the channel of a new pair, or -1 for a known one,
whose callback is replaced.  The new record keeps its null `m_channel`. -/
def addChannelProcessor (handler : ChannelHandler Callback) (bindingPair : HashableBindingPair)
    (callback : Callback) : ChannelHandler Callback × Int :=
  match handler.bindingPairLookup.lookup bindingPair with
  | some place => (handler.updateInfo place fun info => { info with callback := callback }, -1)
  | none =>
      ({ handler with
        infos := handler.infos ++ [{ bindingPair := bindingPair, callback := callback }]
        channelLookup :=
          handler.channelLookup ++ [(handler.nextAvailableChannel, handler.infos.length)]
        bindingPairLookup := handler.bindingPairLookup ++ [(bindingPair, handler.infos.length)]
        nextAvailableChannel := handler.nextAvailableChannel + 1 },
        handler.nextAvailableChannel)

/-- `RemoveChannelProcessor`; `none` when it dereferences a null `m_channel`. -/
def removeChannelProcessor (handler : ChannelHandler Callback)
    (bindingPair : HashableBindingPair) : Option (ChannelHandler Callback × Int) :=
  match handler.bindingPairLookup.lookup bindingPair with
  | some place =>
      match handler.infos[place]?.bind (·.channel) with
      | some channel =>
          some ({ handler with
            channelLookup := handler.channelLookup.filter (·.1 ≠ channel)
            bindingPairLookup := handler.bindingPairLookup.filter (·.1 ≠ bindingPair) }, 1)
      | none => none
  | none => some (handler, -1)

/-- `Process`: the invocations it makes. -/
def process (handler : ChannelHandler Callback) (bindingPair : HashableBindingPair)
    (message : Message) : List (Callback × Message) :=
  match handler.infoAt bindingPair with
  | none => []
  | some info => [(info.callback, message)]

/-- `GetChannelList`, in the order of the table. -/
def getChannelList (handler : ChannelHandler Callback) : List Int :=
  handler.channelLookup.map Prod.fst

/-- `GetExchange`. -/
def getExchange (handler : ChannelHandler Callback) (channel : Int) : Bytes :=
  match handler.infoOf channel with
  | some info => info.bindingPair.exchangeName
  | none => []

/-- `GetBindingKey`. -/
def getBindingKey (handler : ChannelHandler Callback) (channel : Int) : Bytes :=
  match handler.infoOf channel with
  | some info => info.bindingPair.routingKey
  | none => []

/-- `GetQueueProperties`. -/
def getQueueProperties (handler : ChannelHandler Callback) (channel : Int) : QueueProperties :=
  match handler.infoOf channel with
  | some info => info.queueProperties
  | none => {}

/-- `SetQueueName`. -/
def setQueueName (handler : ChannelHandler Callback) (channel : Int) (queueName : AmqpBytes) :
    ChannelHandler Callback :=
  match handler.channelLookup.lookup channel with
  | some place => handler.updateInfo place fun info => { info with queueName := queueName }
  | none => handler

/-- `SetQueueProperties`. -/
def setQueueProperties (handler : ChannelHandler Callback) (channel : Int)
    (queueProperties : QueueProperties) : ChannelHandler Callback :=
  match handler.channelLookup.lookup channel with
  | some place =>
      handler.updateInfo place fun info => { info with queueProperties := queueProperties }
  | none => handler

/-! ### The setters -/

/-- What the two setters do: write to the record of the channel, if it has one. -/
def writeTo (handler : ChannelHandler Callback) (channel : Int)
    (change : ChannelProcessingInfo Callback → ChannelProcessingInfo Callback) :
    ChannelHandler Callback :=
  match handler.channelLookup.lookup channel with
  | some place => handler.updateInfo place change
  | none => handler

theorem setQueueName_eq (handler : ChannelHandler Callback) (channel : Int)
    (queueName : AmqpBytes) :
    handler.setQueueName channel queueName =
      handler.writeTo channel fun info => { info with queueName := queueName } := rfl

theorem setQueueProperties_eq (handler : ChannelHandler Callback) (channel : Int)
    (queueProperties : QueueProperties) :
    handler.setQueueProperties channel queueProperties =
      handler.writeTo channel fun info => { info with queueProperties := queueProperties } := rfl

/-- What holds of a handler and of every write to one of its records holds after a
setter. -/
theorem writeTo_rule {P : ChannelHandler Callback → Prop} {handler : ChannelHandler Callback}
    {channel : Int} {change : ChannelProcessingInfo Callback → ChannelProcessingInfo Callback}
    (hsame : P handler)
    (hwrite : ∀ place, handler.channelLookup.lookup channel = some place →
      P (handler.updateInfo place change)) : P (handler.writeTo channel change) := by
  unfold writeTo
  cases hplace : handler.channelLookup.lookup channel with
  | none => exact hsame
  | some place => exact hwrite place hplace

/-- What no write changes, a setter does not change. -/
theorem writeTo_same {Seen : Type} (seen : ChannelHandler Callback → Seen)
    {handler : ChannelHandler Callback} {channel : Int}
    {change : ChannelProcessingInfo Callback → ChannelProcessingInfo Callback}
    (hwrite : ∀ place, handler.channelLookup.lookup channel = some place →
      seen (handler.updateInfo place change) = seen handler) :
    seen (handler.writeTo channel change) = seen handler :=
  writeTo_rule (P := fun written => seen written = seen handler) rfl hwrite

@[simp] theorem getChannelList_setQueueName (handler : ChannelHandler Callback) (channel : Int)
    (queueName : AmqpBytes) :
    (handler.setQueueName channel queueName).getChannelList = handler.getChannelList := by
  rw [setQueueName_eq]
  exact writeTo_same getChannelList fun _ _ => rfl

@[simp] theorem getChannelList_setQueueProperties (handler : ChannelHandler Callback)
    (channel : Int) (queueProperties : QueueProperties) :
    (handler.setQueueProperties channel queueProperties).getChannelList =
      handler.getChannelList := by
  rw [setQueueProperties_eq]
  exact writeTo_same getChannelList fun _ _ => rfl

/-! ### The channel list -/

/-- `AddChannelProcessor` refuses a known pair and adds the next channel for a new
one. -/
theorem addChannelProcessor_cases (handler : ChannelHandler Callback)
    (bindingPair : HashableBindingPair) (callback : Callback) :
    ((handler.addChannelProcessor bindingPair callback).2 = -1 ∧
      (handler.addChannelProcessor bindingPair callback).1.getChannelList =
        handler.getChannelList) ∨
    ((handler.addChannelProcessor bindingPair callback).2 = handler.nextAvailableChannel ∧
      (handler.addChannelProcessor bindingPair callback).1.getChannelList =
        handler.getChannelList ++ [handler.nextAvailableChannel]) := by
  unfold addChannelProcessor
  split
  · exact .inl ⟨rfl, rfl⟩
  · right
    constructor
    · rfl
    · simp [getChannelList]

/-! ### What every handler satisfies -/

/-- The handlers that the consumer can come to. -/
inductive Built : ChannelHandler Callback → Prop
  | new : Built {}
  | add {handler : ChannelHandler Callback} (before : Built handler)
      (bindingPair : HashableBindingPair) (callback : Callback) :
      Built (handler.addChannelProcessor bindingPair callback).1
  | setQueueName {handler : ChannelHandler Callback} (before : Built handler) (channel : Int)
      (queueName : AmqpBytes) : Built (handler.setQueueName channel queueName)
  | setQueueProperties {handler : ChannelHandler Callback} (before : Built handler)
      (channel : Int) (queueProperties : QueueProperties) :
      Built (handler.setQueueProperties channel queueProperties)

/-- The tables are in step with the records: record `i` is on channel `i + 1`, and
no two records have the same pair. -/
structure HandlerFacts (handler : ChannelHandler Callback) : Prop where
  next : handler.nextAvailableChannel = handler.infos.length + 1
  channels : handler.channelLookup =
    (List.range handler.infos.length).map fun (i : Nat) => ((i : Int) + 1, i)
  pairs : handler.bindingPairLookup =
    (handler.infos.map (·.bindingPair)).zipIdx
  distinct : (handler.infos.map (·.bindingPair)).Nodup

/-- Writing to a record without touching its pair changes no pair. -/
theorem pairs_updateInfo (handler : ChannelHandler Callback) (place : Nat)
    {change : ChannelProcessingInfo Callback → ChannelProcessingInfo Callback}
    (hchange : ∀ info, (change info).bindingPair = info.bindingPair) :
    (handler.updateInfo place change).infos.map (·.bindingPair) =
      handler.infos.map (·.bindingPair) := by
  apply List.ext_getElem?
  intro i
  show ((handler.infos.modify place change).map (·.bindingPair))[i]? = _
  rw [List.getElem?_map, List.getElem?_map, List.getElem?_modify]
  cases handler.infos[i]? with
  | none => rfl
  | some info =>
      by_cases h : place = i
      · simp [h, hchange]
      · simp [h]

theorem HandlerFacts.updateInfo {handler : ChannelHandler Callback}
    (hfacts : HandlerFacts handler) (place : Nat)
    {change : ChannelProcessingInfo Callback → ChannelProcessingInfo Callback}
    (hchange : ∀ info, (change info).bindingPair = info.bindingPair) :
    HandlerFacts (handler.updateInfo place change) := by
  have hpairs := pairs_updateInfo handler place hchange
  obtain ⟨hnext, hchannels, hlookup, hdistinct⟩ := hfacts
  refine ⟨?_, ?_, ?_, ?_⟩
  · simpa [ChannelHandler.updateInfo] using hnext
  · simpa [ChannelHandler.updateInfo] using hchannels
  · rw [hpairs]
    exact hlookup
  · rw [hpairs]
    exact hdistinct

/-- A pair that is not in the table belongs to no record. -/
theorem HandlerFacts.not_mem_of_lookup {handler : ChannelHandler Callback}
    (hfacts : HandlerFacts handler) {bindingPair : HashableBindingPair}
    (hnone : handler.bindingPairLookup.lookup bindingPair = none) :
    bindingPair ∉ handler.infos.map (·.bindingPair) := by
  intro hmem
  rw [hfacts.pairs, List.lookup_eq_none_iff] at hnone
  obtain ⟨i, hi⟩ := List.getElem?_of_mem hmem
  have hpair : (bindingPair, i) ∈ (handler.infos.map (·.bindingPair)).zipIdx :=
    List.mem_zipIdx_iff_getElem?.mpr hi
  simpa using hnone _ hpair

/-- A pair leads to the place of the record that has it. -/
theorem HandlerFacts.pairLookup_iff {handler : ChannelHandler Callback}
    (hfacts : HandlerFacts handler) (bindingPair : HashableBindingPair) (place : Nat) :
    handler.bindingPairLookup.lookup bindingPair = some place ↔
      (handler.infos.map (·.bindingPair))[place]? = some bindingPair := by
  have hentry : ∀ found, handler.bindingPairLookup.lookup bindingPair = some found →
      (handler.infos.map (·.bindingPair))[found]? = some bindingPair := by
    intro found hfound
    rw [hfacts.pairs] at hfound
    obtain ⟨before, after, heq, -⟩ := List.lookup_eq_some_iff.mp hfound
    have hmem : (bindingPair, found) ∈ (handler.infos.map (·.bindingPair)).zipIdx := by
      rw [heq]
      simp
    exact List.mem_zipIdx_iff_getElem?.mp hmem
  constructor
  · exact hentry place
  · intro hplace
    cases hfound : handler.bindingPairLookup.lookup bindingPair with
    | none => exact absurd (List.mem_of_getElem? hplace) (hfacts.not_mem_of_lookup hfound)
    | some found =>
        -- pairs are distinct, so the entry found is the one at this place
        have hsame := hentry found hfound
        obtain ⟨hlt, -⟩ := List.getElem?_eq_some_iff.mp hsame
        rw [(List.getElem?_inj hlt hfacts.distinct).mp (hsame.trans hplace.symm)]

/-- A pair is in the table exactly when a record has it. -/
theorem HandlerFacts.pairLookup_eq_none_iff {handler : ChannelHandler Callback}
    (hfacts : HandlerFacts handler) (bindingPair : HashableBindingPair) :
    handler.bindingPairLookup.lookup bindingPair = none ↔
      bindingPair ∉ handler.infos.map (·.bindingPair) := by
  constructor
  · exact hfacts.not_mem_of_lookup
  · intro hnot
    cases hfound : handler.bindingPairLookup.lookup bindingPair with
    | none => rfl
    | some place =>
        have hplace := (hfacts.pairLookup_iff bindingPair place).mp hfound
        exact absurd (List.mem_of_getElem? hplace) hnot

theorem HandlerFacts.add {handler : ChannelHandler Callback} (hfacts : HandlerFacts handler)
    (bindingPair : HashableBindingPair) (callback : Callback) :
    HandlerFacts (handler.addChannelProcessor bindingPair callback).1 := by
  unfold addChannelProcessor
  split
  · exact hfacts.updateInfo _ fun _ => rfl
  · next hnone =>
      have hnew := hfacts.not_mem_of_lookup hnone
      obtain ⟨hnext, hchannels, hlookup, hdistinct⟩ := hfacts
      refine ⟨?_, ?_, ?_, ?_⟩
      · simp [hnext]
      · simp [hchannels, hnext, List.range_succ]
      · simp [hlookup, List.zipIdx_append]
      · rw [List.map_append, List.nodup_append]
        refine ⟨hdistinct, by simp, ?_⟩
        rintro pair hpair _ hmem rfl
        rw [List.map_singleton, List.mem_singleton] at hmem
        subst hmem
        exact hnew hpair

/-- The facts hold of every handler. -/
theorem Built.facts {handler : ChannelHandler Callback} (hbuilt : Built handler) :
    HandlerFacts handler := by
  induction hbuilt with
  | new => exact ⟨rfl, rfl, rfl, List.nodup_nil⟩
  | add before bindingPair callback ih => exact ih.add bindingPair callback
  | setQueueName before channel queueName ih =>
      rw [setQueueName_eq]
      exact writeTo_rule ih fun place _ => ih.updateInfo place fun _ => rfl
  | setQueueProperties before channel queueProperties ih =>
      rw [setQueueProperties_eq]
      exact writeTo_rule ih fun place _ => ih.updateInfo place fun _ => rfl

/-- The channels are numbered from 1 up to the next one. -/
theorem HandlerFacts.mem_getChannelList {handler : ChannelHandler Callback}
    (hfacts : HandlerFacts handler) (channel : Int) :
    channel ∈ handler.getChannelList ↔ 1 ≤ channel ∧ channel < handler.nextAvailableChannel := by
  rw [getChannelList, hfacts.channels, hfacts.next, List.map_map, List.mem_map]
  constructor
  · rintro ⟨i, hi, rfl⟩
    rw [List.mem_range] at hi
    show 1 ≤ (i : Int) + 1 ∧ (i : Int) + 1 < (handler.infos.length : Int) + 1
    omega
  · rintro ⟨hlow, hhigh⟩
    refine ⟨(channel - 1).toNat, ?_, ?_⟩
    · rw [List.mem_range]
      omega
    · show (((channel - 1).toNat : Int) + 1) = channel
      omega

/-- A refused pair adds no channel. -/
theorem HandlerFacts.getChannelList_refused {handler : ChannelHandler Callback}
    (hfacts : HandlerFacts handler) {bindingPair : HashableBindingPair} {callback : Callback}
    (hrefused : (handler.addChannelProcessor bindingPair callback).2 = -1) :
    (handler.addChannelProcessor bindingPair callback).1.getChannelList =
      handler.getChannelList := by
  rcases addChannelProcessor_cases handler bindingPair callback with ⟨-, hlist⟩ | ⟨hnext, -⟩
  · exact hlist
  -- channels are numbered from 1, so that -1 is none
  · have hnumber := hfacts.next
    rw [hrefused] at hnext
    omega

/-- An accepted pair adds a channel that was not in the list. -/
theorem HandlerFacts.getChannelList_added {handler : ChannelHandler Callback}
    (hfacts : HandlerFacts handler) {bindingPair : HashableBindingPair} {callback : Callback}
    (hadded : (handler.addChannelProcessor bindingPair callback).2 ≠ -1) :
    (handler.addChannelProcessor bindingPair callback).2 ∉ handler.getChannelList ∧
      (handler.addChannelProcessor bindingPair callback).1.getChannelList =
        handler.getChannelList ++ [(handler.addChannelProcessor bindingPair callback).2] := by
  rcases addChannelProcessor_cases handler bindingPair callback with ⟨hold, -⟩ | ⟨hnext, hlist⟩
  · exact absurd hold hadded
  · rw [hnext]
    refine ⟨?_, hlist⟩
    rw [hfacts.mem_getChannelList]
    omega

theorem HandlerFacts.nodup_getChannelList {handler : ChannelHandler Callback}
    (hfacts : HandlerFacts handler) : handler.getChannelList.Nodup := by
  rw [getChannelList, hfacts.channels, List.map_map]
  apply List.Nodup.map _ List.nodup_range
  intro i j hij
  have hij : (i : Int) + 1 = (j : Int) + 1 := hij
  omega

/-- The record of a pair is the one that has it. -/
theorem HandlerFacts.infoAt_iff {handler : ChannelHandler Callback}
    (hfacts : HandlerFacts handler) (bindingPair : HashableBindingPair)
    (info : ChannelProcessingInfo Callback) :
    handler.infoAt bindingPair = some info ↔
      info ∈ handler.infos ∧ info.bindingPair = bindingPair := by
  unfold infoAt
  rw [Option.bind_eq_some_iff]
  constructor
  · rintro ⟨place, hplace, hinfo⟩
    rw [hfacts.pairLookup_iff, List.getElem?_map, hinfo] at hplace
    exact ⟨List.mem_of_getElem? hinfo, by simpa using hplace⟩
  · rintro ⟨hmem, rfl⟩
    obtain ⟨place, hplace⟩ := List.getElem?_of_mem hmem
    refine ⟨place, ?_, hplace⟩
    rw [hfacts.pairLookup_iff, List.getElem?_map, hplace]
    rfl

/-- The record of a channel is a record. -/
theorem mem_of_infoOf {handler : ChannelHandler Callback} {channel : Int}
    {info : ChannelProcessingInfo Callback} (h : handler.infoOf channel = some info) :
    info ∈ handler.infos := by
  unfold infoOf at h
  obtain ⟨place, -, hinfo⟩ := Option.bind_eq_some_iff.mp h
  exact List.mem_of_getElem? hinfo

/-! ### The properties of a queue -/

/-- Channel `place + 1` leads to the record at `place`. -/
theorem HandlerFacts.lookup_iff {handler : ChannelHandler Callback}
    (hfacts : HandlerFacts handler) (channel : Int) (place : Nat) :
    handler.channelLookup.lookup channel = some place ↔
      place < handler.infos.length ∧ channel = place + 1 := by
  rw [hfacts.channels]
  induction handler.infos.length with
  | zero => simp
  | succ n ih =>
      rw [List.range_succ, List.map_append, List.lookup_append, Option.or_eq_some_iff, ih]
      simp only [List.map_cons, List.map_nil, List.lookup_cons, List.lookup_nil]
      constructor
      · rintro (⟨hplace, rfl⟩ | ⟨-, hlast⟩)
        · omega
        · split at hlast
          · next heq =>
              rw [beq_iff_eq] at heq
              cases hlast
              omega
          · cases hlast
      · rintro ⟨hplace, rfl⟩
        by_cases hold : place < n
        · exact .inl ⟨hold, rfl⟩
        · obtain rfl : place = n := by omega
          right
          constructor
          · rw [List.lookup_eq_none_iff]
            simp
            omega
          · simp

/-- The record of channel `place + 1` is the one at `place`. -/
theorem HandlerFacts.infoOf_iff {handler : ChannelHandler Callback}
    (hfacts : HandlerFacts handler) (channel : Int) (info : ChannelProcessingInfo Callback) :
    handler.infoOf channel = some info ↔
      ∃ place : Nat, channel = place + 1 ∧ handler.infos[place]? = some info := by
  unfold infoOf
  rw [Option.bind_eq_some_iff]
  constructor
  · rintro ⟨place, hplace, hinfo⟩
    exact ⟨place, ((hfacts.lookup_iff channel place).mp hplace).2, hinfo⟩
  · rintro ⟨place, hchannel, hinfo⟩
    obtain ⟨hlt, -⟩ := List.getElem?_eq_some_iff.mp hinfo
    exact ⟨place, (hfacts.lookup_iff channel place).mpr ⟨hlt, hchannel⟩, hinfo⟩

/-- The record of a channel after a write. -/
theorem infoOf_updateInfo (handler : ChannelHandler Callback) (place : Nat)
    (change : ChannelProcessingInfo Callback → ChannelProcessingInfo Callback) (channel : Int) :
    (handler.updateInfo place change).infoOf channel =
      (handler.channelLookup.lookup channel).bind fun found =>
        (fun info => if place = found then change info else info) <$> handler.infos[found]? := by
  unfold infoOf updateInfo
  simp only [List.getElem?_modify]

/-- A write to a record changes that of no other channel. -/
theorem infoOf_updateInfo_of_ne {handler : ChannelHandler Callback} {place : Nat} {channel : Int}
    (hne : handler.channelLookup.lookup channel ≠ some place)
    (change : ChannelProcessingInfo Callback → ChannelProcessingInfo Callback) :
    (handler.updateInfo place change).infoOf channel = handler.infoOf channel := by
  rw [infoOf_updateInfo, infoOf]
  cases hfound : handler.channelLookup.lookup channel with
  | none => rfl
  | some found =>
      have hother : place ≠ found := by
        rintro rfl
        exact hne hfound
      simp only [Option.bind_some, if_neg hother, id_map']

/-- Writing to a record without touching its properties. -/
theorem getQueueProperties_updateInfo (handler : ChannelHandler Callback) (place : Nat)
    {change : ChannelProcessingInfo Callback → ChannelProcessingInfo Callback}
    (hchange : ∀ info, (change info).queueProperties = info.queueProperties) (channel : Int) :
    (handler.updateInfo place change).getQueueProperties channel =
      handler.getQueueProperties channel := by
  rw [getQueueProperties, getQueueProperties, infoOf_updateInfo, infoOf]
  cases handler.channelLookup.lookup channel with
  | none => rfl
  | some found =>
      rw [Option.bind_some, Option.bind_some]
      cases handler.infos[found]? with
      | none => rfl
      | some info =>
          by_cases hplace : place = found
          · simp [hplace, hchange]
          · simp [hplace]

@[simp] theorem getQueueProperties_setQueueName (handler : ChannelHandler Callback)
    (channel : Int) (queueName : AmqpBytes) (other : Int) :
    (handler.setQueueName channel queueName).getQueueProperties other =
      handler.getQueueProperties other := by
  rw [setQueueName_eq]
  apply writeTo_same (·.getQueueProperties other)
  intro place _
  apply getQueueProperties_updateInfo
  intro info
  rfl

/-- `SetQueueProperties` on a channel of the table. -/
theorem HandlerFacts.getQueueProperties_set {handler : ChannelHandler Callback}
    (hfacts : HandlerFacts handler) {channel : Int} (hchannel : channel ∈ handler.getChannelList)
    (queueProperties : QueueProperties) (other : Int) :
    (handler.setQueueProperties channel queueProperties).getQueueProperties other =
      if other = channel then queueProperties else handler.getQueueProperties other := by
  obtain ⟨hlow, hhigh⟩ := (hfacts.mem_getChannelList channel).mp hchannel
  rw [hfacts.next] at hhigh
  have hplace : handler.channelLookup.lookup channel = some (channel - 1).toNat :=
    (hfacts.lookup_iff channel _).mpr (by omega)
  rw [setQueueProperties, hplace]
  dsimp only
  rw [getQueueProperties, infoOf_updateInfo]
  by_cases hother : other = channel
  · subst hother
    rw [hplace, Option.bind_some, List.getElem?_eq_getElem (by omega)]
    simp
  · rw [if_neg hother, getQueueProperties, infoOf]
    cases hfound : handler.channelLookup.lookup other with
    | none => rfl
    | some found =>
        have hne : (channel - 1).toNat ≠ found := by
          intro heq
          obtain ⟨-, hsame⟩ := (hfacts.lookup_iff other found).mp hfound
          omega
        simp only [Option.bind_some, if_neg hne, id_map']

/-- A new channel has the default properties, as a channel that is not in the
table has. -/
theorem HandlerFacts.getQueueProperties_add {handler : ChannelHandler Callback}
    (hfacts : HandlerFacts handler) (bindingPair : HashableBindingPair) (callback : Callback)
    (channel : Int) :
    (handler.addChannelProcessor bindingPair callback).1.getQueueProperties channel =
      handler.getQueueProperties channel := by
  unfold addChannelProcessor
  split
  · apply getQueueProperties_updateInfo
    intro info
    rfl
  · unfold getQueueProperties infoOf
    dsimp only
    rw [List.lookup_append]
    cases hfound : handler.channelLookup.lookup channel with
    | some found =>
        obtain ⟨hplace, -⟩ := (hfacts.lookup_iff channel found).mp hfound
        rw [Option.some_or, Option.bind_some, Option.bind_some, List.getElem?_append_left hplace]
    | none =>
        rw [Option.none_or]
        by_cases hnew : channel = handler.nextAvailableChannel
        · simp [hnew]
        · rw [List.lookup_cons, beq_false_of_ne hnew]
          rfl

/-- A channel that is not in the table has the default properties. -/
theorem getQueueProperties_of_not_mem {handler : ChannelHandler Callback} {channel : Int}
    (hchannel : channel ∉ handler.getChannelList) : handler.getQueueProperties channel = {} := by
  have hnone : handler.channelLookup.lookup channel = none := by
    rw [List.lookup_eq_none_iff]
    intro entry hentry
    rw [bne_iff_ne]
    rintro rfl
    exact hchannel (List.mem_map_of_mem hentry)
  unfold getQueueProperties infoOf
  rw [hnone]
  rfl

end ChannelHandler
end HareCpp
