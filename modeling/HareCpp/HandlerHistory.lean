import HareCpp.Library.TransitionSystem
import HareCpp.ChannelHandler

/-!
# The two lookups of a `ChannelHandler` over a history of calls

`after history` is the handler that a history of calls leaves, newest call first.
Its records are those of the pairs added so far, in the order in which each was
first added (`pairs_after`), and everything else follows from that: which channel
a pair is on, that it stays there, and what the getters return
(`lookupsAgree_after`).

`RemoveChannelProcessor` is apart.  It finds the channel to erase through
`m_channel`, which no operation assigns, so that it works for exactly the pairs
that there is nothing to remove for (`removes_iff`).
-/

namespace HareCpp

open Library

namespace ChannelHandler

variable {Callback : Type}

/-- The operations that change a handler. -/
inductive Operation (Callback : Type)
  | add (bindingPair : HashableBindingPair) (callback : Callback)
  | setQueueName (channel : Int) (queueName : AmqpBytes)
  | setQueueProperties (channel : Int) (queueProperties : QueueProperties)

/-- The handler after an operation. -/
def Operation.apply (handler : ChannelHandler Callback) :
    Operation Callback → ChannelHandler Callback
  | .add bindingPair callback => (handler.addChannelProcessor bindingPair callback).1
  | .setQueueName channel queueName => handler.setQueueName channel queueName
  | .setQueueProperties channel queueProperties =>
      handler.setQueueProperties channel queueProperties

/-- The handler after a history of operations, newest first. -/
def after : List (Operation Callback) → ChannelHandler Callback
  | [] => {}
  | operation :: past => operation.apply (after past)

/-- The pair that an operation adds, new or not. -/
def Operation.adds : Operation Callback → Option HashableBindingPair
  | .add bindingPair _ => some bindingPair
  | _ => none

/-- The pairs added in a history, newest first. -/
def addedPairs (history : List (Operation Callback)) : List HashableBindingPair :=
  history.filterMap Operation.adds

theorem Built.apply {handler : ChannelHandler Callback} (hbuilt : Built handler)
    (operation : Operation Callback) : Built (operation.apply handler) := by
  cases operation with
  | add bindingPair callback => exact hbuilt.add bindingPair callback
  | setQueueName channel queueName => exact hbuilt.setQueueName channel queueName
  | setQueueProperties channel queueProperties =>
      exact hbuilt.setQueueProperties channel queueProperties

theorem built_after (history : List (Operation Callback)) : Built (after history) := by
  induction history with
  | nil => exact .new
  | cons operation past ih => exact ih.apply operation

/-! ### The records -/

/-- Adding a known pair adds no record. -/
theorem pairs_add_known {handler : ChannelHandler Callback} {bindingPair : HashableBindingPair}
    {place : Nat} (hplace : handler.bindingPairLookup.lookup bindingPair = some place)
    (callback : Callback) :
    (handler.addChannelProcessor bindingPair callback).1.infos.map (·.bindingPair) =
      handler.infos.map (·.bindingPair) := by
  unfold addChannelProcessor
  rw [hplace]
  exact pairs_updateInfo handler place fun _ => rfl

/-- Adding a new pair adds its record. -/
theorem infos_add_new {handler : ChannelHandler Callback} {bindingPair : HashableBindingPair}
    (hnone : handler.bindingPairLookup.lookup bindingPair = none) (callback : Callback) :
    (handler.addChannelProcessor bindingPair callback).1.infos =
      handler.infos ++ [{ bindingPair := bindingPair, callback := callback }] := by
  unfold addChannelProcessor
  rw [hnone]

/-- A setter leaves the pairs of the records alone. -/
theorem pairs_writeTo (handler : ChannelHandler Callback) (channel : Int)
    {change : ChannelProcessingInfo Callback → ChannelProcessingInfo Callback}
    (hchange : ∀ info, (change info).bindingPair = info.bindingPair) :
    (handler.writeTo channel change).infos.map (·.bindingPair) =
      handler.infos.map (·.bindingPair) := by
  apply writeTo_same fun written => written.infos.map (·.bindingPair)
  intro place _
  exact pairs_updateInfo handler place hchange

/-- The records after a history are those of the pairs added, in the order in which
each was first added. -/
theorem pairs_after (history : List (Operation Callback)) :
    (after history).infos.map (·.bindingPair) = firstUses (addedPairs history) := by
  induction history with
  | nil => rfl
  | cons operation past ih =>
      cases operation with
      | add bindingPair callback =>
          have hadded : addedPairs (.add bindingPair callback :: past) =
              bindingPair :: addedPairs past := rfl
          rw [hadded, after, Operation.apply]
          -- the table knows a pair exactly when the record has it
          cases hfound : (after past).bindingPairLookup.lookup bindingPair with
          | some place =>
              have hmem : bindingPair ∈ addedPairs past := by
                by_contra hnot
                have hnone := ((built_after past).facts.pairLookup_eq_none_iff bindingPair).mpr
                  (by rwa [ih, mem_firstUses])
                rw [hnone] at hfound
                cases hfound
              rw [firstUses_cons_of_mem hmem, pairs_add_known hfound, ih]
          | none =>
              have hnot : bindingPair ∉ addedPairs past := by
                have hnew := (built_after past).facts.not_mem_of_lookup hfound
                rwa [ih, mem_firstUses] at hnew
              rw [firstUses_cons_of_notMem hnot, infos_add_new hfound, List.map_append, ih]
              rfl
      | setQueueName channel queueName =>
          show ((after past).setQueueName channel queueName).infos.map _ =
            firstUses (addedPairs past)
          rw [← ih, setQueueName_eq]
          apply pairs_writeTo
          intro info
          rfl
      | setQueueProperties channel queueProperties =>
          show ((after past).setQueueProperties channel queueProperties).infos.map _ =
            firstUses (addedPairs past)
          rw [← ih, setQueueProperties_eq]
          apply pairs_writeTo
          intro info
          rfl

/-! ### Pairs and channels -/

/-- The two lookups lead from the pair and from the channel to one record. -/
def OnChannel (handler : ChannelHandler Callback) (bindingPair : HashableBindingPair)
    (channel : Int) : Prop :=
  ∃ place, handler.bindingPairLookup.lookup bindingPair = some place ∧
    handler.channelLookup.lookup channel = some place

theorem HandlerFacts.onChannel_iff {handler : ChannelHandler Callback}
    (hfacts : HandlerFacts handler) (bindingPair : HashableBindingPair) (channel : Int) :
    handler.OnChannel bindingPair channel ↔
      ∃ place : Nat, channel = place + 1 ∧
        (handler.infos.map (·.bindingPair))[place]? = some bindingPair := by
  constructor
  · rintro ⟨place, hpair, hchannel⟩
    exact ⟨place, ((hfacts.lookup_iff channel place).mp hchannel).2,
      (hfacts.pairLookup_iff bindingPair place).mp hpair⟩
  · rintro ⟨place, hchannel, hpair⟩
    have hlt : place < handler.infos.length := by
      obtain ⟨hlt, -⟩ := List.getElem?_eq_some_iff.mp hpair
      simpa using hlt
    exact ⟨place, (hfacts.pairLookup_iff bindingPair place).mpr hpair,
      (hfacts.lookup_iff channel place).mpr ⟨hlt, hchannel⟩⟩

/-- The record of a channel bears the pair that is on it. -/
theorem HandlerFacts.exists_infoOf {handler : ChannelHandler Callback}
    (hfacts : HandlerFacts handler) {bindingPair : HashableBindingPair} {channel : Int}
    (hon : handler.OnChannel bindingPair channel) :
    ∃ info, handler.infoOf channel = some info ∧ info.bindingPair = bindingPair := by
  obtain ⟨place, hchannel, hpair⟩ := (hfacts.onChannel_iff bindingPair channel).mp hon
  rw [List.getElem?_map, Option.map_eq_some_iff] at hpair
  obtain ⟨info, hinfo, hsame⟩ := hpair
  exact ⟨info, (hfacts.infoOf_iff channel info).mpr ⟨place, hchannel, hinfo⟩, hsame⟩

/-- A pair stays on its channel, whatever comes later. -/
theorem onChannel_later (later past : List (Operation Callback))
    {bindingPair : HashableBindingPair} {channel : Int}
    (hon : (after past).OnChannel bindingPair channel) :
    (after (later ++ past)).OnChannel bindingPair channel := by
  rw [(built_after past).facts.onChannel_iff, pairs_after] at hon
  rw [(built_after _).facts.onChannel_iff, pairs_after]
  obtain ⟨place, hchannel, hpair⟩ := hon
  refine ⟨place, hchannel, ?_⟩
  -- later operations only extend the list of first uses
  have hprefix : firstUses (addedPairs past) <+: firstUses (addedPairs (later ++ past)) := by
    rw [addedPairs, addedPairs, List.filterMap_append]
    exact firstUses_prefix _ _
  obtain ⟨rest, hrest⟩ := hprefix
  obtain ⟨hlt, -⟩ := List.getElem?_eq_some_iff.mp hpair
  rw [← hrest, List.getElem?_append_left hlt]
  exact hpair

/-- `AddChannelProcessor` returns the channel that it puts a new pair on. -/
theorem HandlerFacts.onChannel_add {handler : ChannelHandler Callback}
    (hfacts : HandlerFacts handler) {bindingPair : HashableBindingPair} {callback : Callback}
    (hnew : (handler.addChannelProcessor bindingPair callback).2 ≠ -1) :
    (handler.addChannelProcessor bindingPair callback).1.OnChannel bindingPair
      (handler.addChannelProcessor bindingPair callback).2 := by
  rw [(hfacts.add bindingPair callback).onChannel_iff]
  cases hfound : handler.bindingPairLookup.lookup bindingPair with
  | some place =>
      rw [addChannelProcessor, hfound] at hnew
      exact absurd rfl hnew
  | none =>
      refine ⟨handler.infos.length, ?_, ?_⟩
      · rw [addChannelProcessor, hfound]
        exact hfacts.next
      · rw [infos_add_new hfound]
        simp

/-! ### What an operation leaves alone -/

/-- The channels whose record an operation may change: the one it names, or the one
that the pair it adds is on. -/
def Operation.Touches (handler : ChannelHandler Callback) : Operation Callback → Int → Prop
  | .add bindingPair callback, channel =>
      (handler.addChannelProcessor bindingPair callback).1.OnChannel bindingPair channel
  | .setQueueName named _, channel => channel = named
  | .setQueueProperties named _, channel => channel = named

/-- Writing to the record of a channel changes that of no other channel. -/
theorem HandlerFacts.infoOf_writeTo {handler : ChannelHandler Callback}
    (hfacts : HandlerFacts handler) {named channel : Int} (hother : channel ≠ named)
    (change : ChannelProcessingInfo Callback → ChannelProcessingInfo Callback) :
    (handler.writeTo named change).infoOf channel = handler.infoOf channel := by
  apply writeTo_same (·.infoOf channel)
  intro place hplace
  apply infoOf_updateInfo_of_ne
  intro hsame
  -- the place of a record is its channel, counted from 0
  obtain ⟨-, hnamed⟩ := (hfacts.lookup_iff named place).mp hplace
  obtain ⟨-, hchannel⟩ := (hfacts.lookup_iff channel place).mp hsame
  omega

/-- Adding a known pair writes to the record of that pair. -/
theorem infoOf_add_known {handler : ChannelHandler Callback}
    {bindingPair : HashableBindingPair} {place : Nat}
    (hplace : handler.bindingPairLookup.lookup bindingPair = some place) (callback : Callback)
    {channel : Int} (hother : ¬handler.OnChannel bindingPair channel) :
    (handler.addChannelProcessor bindingPair callback).1.infoOf channel =
      handler.infoOf channel := by
  unfold addChannelProcessor
  rw [hplace]
  apply infoOf_updateInfo_of_ne
  intro hsame
  exact hother ⟨place, hplace, hsame⟩

/-- Adding a new pair adds the record of the next channel. -/
theorem HandlerFacts.infoOf_add_new {handler : ChannelHandler Callback}
    (hfacts : HandlerFacts handler) {bindingPair : HashableBindingPair}
    (hnone : handler.bindingPairLookup.lookup bindingPair = none) (callback : Callback)
    {channel : Int} (hother : channel ≠ handler.nextAvailableChannel) :
    (handler.addChannelProcessor bindingPair callback).1.infoOf channel =
      handler.infoOf channel := by
  have hnext := hfacts.next
  apply Option.ext
  intro info
  rw [(hfacts.add bindingPair callback).infoOf_iff, hfacts.infoOf_iff,
    infos_add_new hnone]
  constructor
  · rintro ⟨place, hchannel, hinfo⟩
    -- the new record is at the end, where only the next channel leads
    have hlt : place < handler.infos.length := by
      obtain ⟨hlt, -⟩ := List.getElem?_eq_some_iff.mp hinfo
      rw [List.length_append, List.length_singleton] at hlt
      omega
    rw [List.getElem?_append_left hlt] at hinfo
    exact ⟨place, hchannel, hinfo⟩
  · rintro ⟨place, hchannel, hinfo⟩
    obtain ⟨hlt, -⟩ := List.getElem?_eq_some_iff.mp hinfo
    refine ⟨place, hchannel, ?_⟩
    rw [List.getElem?_append_left hlt]
    exact hinfo

/-- An operation changes the record of no channel but its own. -/
theorem HandlerFacts.infoOf_apply {handler : ChannelHandler Callback}
    (hfacts : HandlerFacts handler) (operation : Operation Callback) {channel : Int}
    (hother : ¬operation.Touches handler channel) :
    (operation.apply handler).infoOf channel = handler.infoOf channel := by
  cases operation with
  | setQueueName named queueName =>
      show (handler.setQueueName named queueName).infoOf channel = _
      rw [setQueueName_eq]
      exact hfacts.infoOf_writeTo hother _
  | setQueueProperties named queueProperties =>
      show (handler.setQueueProperties named queueProperties).infoOf channel = _
      rw [setQueueProperties_eq]
      exact hfacts.infoOf_writeTo hother _
  | add bindingPair callback =>
      have hother : ¬(handler.addChannelProcessor bindingPair callback).1.OnChannel bindingPair
        channel := hother
      rw [(hfacts.add bindingPair callback).onChannel_iff] at hother
      cases hfound : handler.bindingPairLookup.lookup bindingPair with
      | none =>
          apply hfacts.infoOf_add_new hfound
          intro hchannel
          rw [hchannel, hfacts.next, infos_add_new hfound] at hother
          exact hother ⟨handler.infos.length, rfl, by simp⟩
      | some place =>
          apply infoOf_add_known hfound
          rw [hfacts.onChannel_iff]
          rwa [pairs_add_known hfound] at hother

/-! ### The lookups in bijection -/

/-- What the two lookups of a handler say after a history. -/
structure LookupsAgree (history : List (Operation Callback)) (handler : ChannelHandler Callback) :
    Prop where
  /-- the keys of `m_channelLookup` are 1 up to `m_nextAvailableChannel` -/
  keys : ∀ channel, channel ∈ handler.channelLookup.map Prod.fst ↔
    1 ≤ channel ∧ channel < handler.nextAvailableChannel
  /-- both hold the same records, each of them once -/
  records : (handler.bindingPairLookup.map Prod.snd).Perm (handler.channelLookup.map Prod.snd)
  once : (handler.channelLookup.map Prod.snd).Nodup
  /-- one for each pair that was ever added -/
  pairs : ∀ bindingPair, bindingPair ∈ handler.bindingPairLookup.map Prod.fst ↔
    bindingPair ∈ addedPairs history
  distinct : (handler.bindingPairLookup.map Prod.fst).Nodup
  /-- the record at a channel bears its key in the other table -/
  backPointer : ∀ channel place, (channel, place) ∈ handler.channelLookup →
    ∃ info, handler.infos[place]? = some info ∧
      (info.bindingPair, place) ∈ handler.bindingPairLookup
  /-- the getters return the pair whose `AddChannelProcessor` returned the channel -/
  getters : ∀ later bindingPair callback past,
    history = later ++ .add bindingPair callback :: past →
    ∀ channel, ((after past).addChannelProcessor bindingPair callback).2 = channel →
      channel ≠ -1 → handler.getExchange channel = bindingPair.exchangeName ∧
        handler.getBindingKey channel = bindingPair.routingKey
  /-- a pair is on one channel, which is never changed -/
  channel : ∀ later past, history = later ++ past → ∀ bindingPair channel channel',
    (after past).OnChannel bindingPair channel → handler.OnChannel bindingPair channel' →
      channel' = channel
  stays : ∀ later past, history = later ++ past → ∀ bindingPair channel,
    (after past).OnChannel bindingPair channel → handler.OnChannel bindingPair channel
  /-- `GetChannelList` returns every registered channel once -/
  channelList : handler.getChannelList.Nodup ∧
    ∀ channel, channel ∈ handler.getChannelList ↔ handler.infoOf channel ≠ none
  /-- an operation on one channel or pair changes the record of no other channel -/
  frame : ∀ (operation : Operation Callback) channel, ¬operation.Touches handler channel →
    (operation.apply handler).infoOf channel = handler.infoOf channel

/-- The places in the tables, in the order in which they were entered. -/
theorem HandlerFacts.places {handler : ChannelHandler Callback} (hfacts : HandlerFacts handler) :
    handler.channelLookup.map Prod.snd = List.range handler.infos.length ∧
      handler.bindingPairLookup.map Prod.snd = List.range handler.infos.length := by
  constructor
  · rw [hfacts.channels, List.map_map]
    exact List.map_id _
  · rw [hfacts.pairs, List.zipIdx_map_snd, List.length_map, List.range_eq_range']

/-- The keys of `m_bindingPairLookup` are the pairs of the records. -/
theorem HandlerFacts.keys_bindingPairLookup {handler : ChannelHandler Callback}
    (hfacts : HandlerFacts handler) :
    handler.bindingPairLookup.map Prod.fst = handler.infos.map (·.bindingPair) := by
  rw [hfacts.pairs, List.zipIdx_map_fst]

/-- The record of a channel in the list exists. -/
theorem HandlerFacts.mem_getChannelList_iff {handler : ChannelHandler Callback}
    (hfacts : HandlerFacts handler) (channel : Int) :
    channel ∈ handler.getChannelList ↔ handler.infoOf channel ≠ none := by
  have hnext := hfacts.next
  rw [hfacts.mem_getChannelList, Option.ne_none_iff_exists']
  constructor
  · rintro ⟨hlow, hhigh⟩
    have hlt : (channel - 1).toNat < handler.infos.length := by omega
    have hchannel : channel = ((channel - 1).toNat : Int) + 1 := by omega
    exact ⟨_, (hfacts.infoOf_iff channel _).mpr ⟨_, hchannel, List.getElem?_eq_getElem hlt⟩⟩
  · rintro ⟨info, hinfo⟩
    obtain ⟨place, hchannel, hplace⟩ := (hfacts.infoOf_iff channel info).mp hinfo
    obtain ⟨hlt, -⟩ := List.getElem?_eq_some_iff.mp hplace
    omega

/-- A pair is on one channel. -/
theorem HandlerFacts.channel_unique {handler : ChannelHandler Callback}
    (hfacts : HandlerFacts handler) {bindingPair : HashableBindingPair} {channel channel' : Int}
    (h : handler.OnChannel bindingPair channel) (h' : handler.OnChannel bindingPair channel') :
    channel' = channel := by
  obtain ⟨place, hpair, hchannel⟩ := h
  obtain ⟨place', hpair', hchannel'⟩ := h'
  obtain rfl : place = place' := Option.some.inj (hpair.symm.trans hpair')
  rw [((hfacts.lookup_iff channel place).mp hchannel).2,
    ((hfacts.lookup_iff channel' place).mp hchannel').2]

/-- After every history of calls, with any pairs and any channels, the two lookups
are in bijection. -/
theorem lookupsAgree_after (history : List (Operation Callback)) :
    LookupsAgree history (after history) := by
  have hfacts := (built_after history).facts
  obtain ⟨hchannels, hpairs⟩ := hfacts.places
  constructor
  · exact hfacts.mem_getChannelList
  · rw [hchannels, hpairs]
  · rw [hchannels]
    exact List.nodup_range
  · intro bindingPair
    rw [hfacts.keys_bindingPairLookup, pairs_after, mem_firstUses]
  · rw [hfacts.keys_bindingPairLookup]
    exact hfacts.distinct
  · intro channel place hmem
    have hplace : place < (after history).infos.length := by
      have hrange := List.mem_map_of_mem (f := Prod.snd) hmem
      rw [hchannels] at hrange
      exact List.mem_range.mp hrange
    have hinfo := List.getElem?_eq_getElem hplace
    refine ⟨_, hinfo, ?_⟩
    rw [hfacts.pairs, List.mem_zipIdx_iff_getElem?, List.getElem?_map, hinfo]
    rfl
  · rintro later bindingPair callback past rfl channel rfl hnew
    -- the pair is still on the channel that it was given
    have hon := onChannel_later later (.add bindingPair callback :: past)
      ((built_after past).facts.onChannel_add hnew)
    obtain ⟨info, hinfo, rfl⟩ := hfacts.exists_infoOf hon
    rw [getExchange, getBindingKey, hinfo]
    exact ⟨rfl, rfl⟩
  · rintro later past rfl bindingPair channel channel' hpast hnow
    exact hfacts.channel_unique (onChannel_later later past hpast) hnow
  · rintro later past rfl bindingPair channel hpast
    exact onChannel_later later past hpast
  · exact ⟨hfacts.nodup_getChannelList, hfacts.mem_getChannelList_iff⟩
  · intro operation channel hother
    exact hfacts.infoOf_apply operation hother

/-! ### Removing a pair -/

/-- The calls on a handler, `RemoveChannelProcessor` included. -/
inductive Call (Callback : Type)
  | operation (operation : Operation Callback)
  | remove (bindingPair : HashableBindingPair)

/-- The handler after a history of calls, newest first, or `none` once a null pointer
has been dereferenced. -/
def afterCalls : List (Call Callback) → Option (ChannelHandler Callback)
  | [] => some {}
  | .operation operation :: past => (afterCalls past).map operation.apply
  | .remove bindingPair :: past =>
      (afterCalls past).bind fun handler =>
        (handler.removeChannelProcessor bindingPair).map Prod.fst

/-- No record has an `m_channel`. -/
def NoBackPointer (handler : ChannelHandler Callback) : Prop :=
  ∀ info ∈ handler.infos, info.channel = none

theorem NoBackPointer.updateInfo {handler : ChannelHandler Callback}
    (hnull : NoBackPointer handler) (place : Nat)
    {change : ChannelProcessingInfo Callback → ChannelProcessingInfo Callback}
    (hchange : ∀ info, (change info).channel = info.channel) :
    NoBackPointer (handler.updateInfo place change) := by
  intro info hinfo
  obtain ⟨i, hi⟩ := List.getElem?_of_mem hinfo
  have hi : (handler.infos.modify place change)[i]? = some info := hi
  rw [List.getElem?_modify] at hi
  cases hold : handler.infos[i]? with
  | none =>
      rw [hold] at hi
      cases hi
  | some old =>
      have hnone := hnull old (List.mem_of_getElem? hold)
      rw [hold] at hi
      by_cases hplace : place = i
      · obtain rfl : change old = info := by simpa [hplace] using hi
        rw [hchange, hnone]
      · obtain rfl : old = info := by simpa [hplace] using hi
        exact hnone

/-- No operation assigns an `m_channel`. -/
theorem NoBackPointer.apply {handler : ChannelHandler Callback} (hnull : NoBackPointer handler)
    (operation : Operation Callback) : NoBackPointer (operation.apply handler) := by
  cases operation with
  | add bindingPair callback =>
      show NoBackPointer (handler.addChannelProcessor bindingPair callback).1
      cases hfound : handler.bindingPairLookup.lookup bindingPair with
      | none =>
          intro info hinfo
          rw [infos_add_new hfound, List.mem_append, List.mem_singleton] at hinfo
          rcases hinfo with hold | rfl
          · exact hnull info hold
          · rfl
      | some place =>
          unfold addChannelProcessor
          rw [hfound]
          exact hnull.updateInfo place fun _ => rfl
  | setQueueName channel queueName =>
      show NoBackPointer (handler.setQueueName channel queueName)
      rw [setQueueName_eq]
      exact writeTo_rule hnull fun place _ => hnull.updateInfo place fun _ => rfl
  | setQueueProperties channel queueProperties =>
      show NoBackPointer (handler.setQueueProperties channel queueProperties)
      rw [setQueueProperties_eq]
      exact writeTo_rule hnull fun place _ => hnull.updateInfo place fun _ => rfl

/-- Without back pointers, removing a registered pair dereferences a null pointer. -/
theorem NoBackPointer.remove_eq_none {handler : ChannelHandler Callback}
    (hnull : NoBackPointer handler) {bindingPair : HashableBindingPair} {place : Nat}
    (hplace : handler.bindingPairLookup.lookup bindingPair = some place) :
    handler.removeChannelProcessor bindingPair = none := by
  have hchannel : handler.infos[place]?.bind (·.channel) = none := by
    rw [Option.bind_eq_none_iff]
    intro info hinfo
    exact hnull info (List.mem_of_getElem? hinfo)
  simp only [removeChannelProcessor, hplace, hchannel]

/-- Removing a pair that is not registered. -/
theorem remove_of_not_registered {handler : ChannelHandler Callback}
    {bindingPair : HashableBindingPair}
    (hnone : handler.bindingPairLookup.lookup bindingPair = none) :
    handler.removeChannelProcessor bindingPair = some (handler, -1) := by
  unfold removeChannelProcessor
  rw [hnone]

/-- No call assigns an `m_channel`. -/
theorem noBackPointer_afterCalls (calls : List (Call Callback)) :
    ∀ handler, afterCalls calls = some handler → NoBackPointer handler := by
  induction calls with
  | nil =>
      rintro handler ⟨⟩ info hinfo
      cases hinfo
  | cons call past ih =>
      intro handler hafter
      cases call with
      | operation operation =>
          obtain ⟨before, hbefore, rfl⟩ := Option.map_eq_some_iff.mp hafter
          exact (ih before hbefore).apply operation
      | remove bindingPair =>
          obtain ⟨before, hbefore, hremoved⟩ := Option.bind_eq_some_iff.mp hafter
          obtain ⟨removed, hresult, rfl⟩ := Option.map_eq_some_iff.mp hremoved
          -- a removal that comes to its end had nothing to remove
          cases hfound : before.bindingPairLookup.lookup bindingPair with
          | none =>
              rw [remove_of_not_registered hfound] at hresult
              cases hresult
              exact ih before hbefore
          | some place =>
              rw [(ih before hbefore).remove_eq_none hfound] at hresult
              cases hresult

/-- The two tables lead to the same records, one key each. -/
structure Matching (handler : ChannelHandler Callback) : Prop where
  records : (handler.bindingPairLookup.map Prod.snd).Perm (handler.channelLookup.map Prod.snd)
  pairs : (handler.bindingPairLookup.map Prod.fst).Nodup
  channels : (handler.channelLookup.map Prod.fst).Nodup
  once : (handler.channelLookup.map Prod.snd).Nodup

/-- `RemoveChannelProcessor` does what it is for: a registered pair goes from both
tables with its channel, everything else stays, and the pair is not served any
more; for a pair that is not registered it returns -1 and changes nothing. -/
structure Removes (handler : ChannelHandler Callback) (bindingPair : HashableBindingPair) :
    Prop where
  registered : ∀ place, handler.bindingPairLookup.lookup bindingPair = some place →
    ∃ removed, handler.removeChannelProcessor bindingPair = some (removed, 1) ∧
      removed.bindingPairLookup = handler.bindingPairLookup.filter (·.1 ≠ bindingPair) ∧
      removed.channelLookup = handler.channelLookup.filter (·.2 ≠ place) ∧
      removed.infos = handler.infos ∧ removed.Matching ∧
      ∀ message, removed.process bindingPair message = []
  notRegistered : handler.bindingPairLookup.lookup bindingPair = none →
    handler.removeChannelProcessor bindingPair = some (handler, -1)

/-- In a table with distinct keys and distinct places an entry can be told by either. -/
theorem filter_key_eq {Key : Type} [DecidableEq Key] {table : List (Key × Nat)}
    (hkeys : (table.map Prod.fst).Nodup) (hplaces : (table.map Prod.snd).Nodup) {key : Key}
    {place : Nat} (hmem : (key, place) ∈ table) :
    table.filter (·.1 ≠ key) = table.filter (·.2 ≠ place) := by
  apply List.filter_congr
  intro entry hentry
  have hsame : entry.1 = key ↔ entry.2 = place := by
    constructor
    · intro hkey
      rw [List.inj_on_of_nodup_map hkeys hentry hmem hkey]
    · intro hplace
      rw [List.inj_on_of_nodup_map hplaces hentry hmem hplace]
  simp [hsame]

/-- With an `m_channel` that leads back to the channel of its record,
`RemoveChannelProcessor` would do what it is for. -/
theorem Matching.removes {handler : ChannelHandler Callback} (hmatch : handler.Matching)
    {bindingPair : HashableBindingPair} {channel : Int} {place : Nat}
    (hplace : handler.bindingPairLookup.lookup bindingPair = some place)
    (hback : handler.infos[place]?.bind (·.channel) = some channel)
    (hchannel : handler.channelLookup.lookup channel = some place) :
    handler.Removes bindingPair := by
  obtain ⟨hrecords, hpairs, hchannels, honce⟩ := hmatch
  have hpair : (bindingPair, place) ∈ handler.bindingPairLookup := by
    obtain ⟨before, after, heq, -⟩ := List.lookup_eq_some_iff.mp hplace
    rw [heq]
    simp
  have hentry : (channel, place) ∈ handler.channelLookup := by
    obtain ⟨before, after, heq, -⟩ := List.lookup_eq_some_iff.mp hchannel
    rw [heq]
    simp
  have hplaces : (handler.bindingPairLookup.map Prod.snd).Nodup := hrecords.nodup_iff.mpr honce
  constructor
  · intro found hfound
    obtain rfl : place = found := Option.some.inj (hplace.symm.trans hfound)
    have hresult : handler.removeChannelProcessor bindingPair = some ({ handler with
        channelLookup := handler.channelLookup.filter (·.1 ≠ channel)
        bindingPairLookup := handler.bindingPairLookup.filter (·.1 ≠ bindingPair) }, 1) := by
      simp only [removeChannelProcessor, hplace, hback]
    refine ⟨_, hresult, rfl, ?_, rfl, ?_, ?_⟩
    · exact filter_key_eq hchannels honce hentry
    · constructor
      · show ((handler.bindingPairLookup.filter (·.1 ≠ bindingPair)).map Prod.snd).Perm
          ((handler.channelLookup.filter (·.1 ≠ channel)).map Prod.snd)
        -- both erase by key, which is to erase the one place that they share
        rw [filter_key_eq hpairs hplaces hpair, filter_key_eq hchannels honce hentry]
        have hfiltered := hrecords.filter (· ≠ place)
        rw [List.filter_map, List.filter_map] at hfiltered
        exact hfiltered
      · exact hpairs.sublist (List.filter_sublist.map _)
      · exact hchannels.sublist (List.filter_sublist.map _)
      · exact honce.sublist (List.filter_sublist.map _)
    · intro message
      have hnone : (handler.bindingPairLookup.filter (·.1 ≠ bindingPair)).lookup bindingPair =
          none := by
        rw [List.lookup_eq_none_iff]
        intro entry hmem
        have hne := (List.mem_filter.mp hmem).2
        rw [bne_iff_ne]
        rintro rfl
        simp at hne
      simp only [process, infoAt, hnone, Option.bind_none]
  · intro hnone
    rw [hnone] at hplace
    cases hplace

/-- After every history of calls, `RemoveChannelProcessor` does what it is for
exactly for the pairs that are not registered. -/
theorem removes_iff (calls : List (Call Callback)) {handler : ChannelHandler Callback}
    (hafter : afterCalls calls = some handler) (bindingPair : HashableBindingPair) :
    handler.Removes bindingPair ↔ handler.bindingPairLookup.lookup bindingPair = none := by
  have hnull := noBackPointer_afterCalls calls handler hafter
  constructor
  · intro h
    cases hfound : handler.bindingPairLookup.lookup bindingPair with
    | none => rfl
    | some place =>
        obtain ⟨removed, hremoved, -⟩ := h.registered place hfound
        rw [hnull.remove_eq_none hfound] at hremoved
        cases hremoved
  · intro hnone
    constructor
    · intro place hplace
      rw [hnone] at hplace
      cases hplace
    · exact remove_of_not_registered

/-- A handler with one pair, from which another is removed. -/
theorem removes_iff_one :
    ∃ handler : ChannelHandler Nat,
      afterCalls [.operation (.add ⟨[101], [107]⟩ 7)] = some handler ∧
        handler.Removes ⟨[101], [108]⟩ := by
  refine ⟨_, rfl, ?_⟩
  apply (removes_iff [.operation (.add ⟨[101], [107]⟩ 7)] rfl _).mpr
  decide

/-- The pair that was just added cannot be removed. -/
theorem removes_added :
    ¬∀ (calls : List (Call Nat)) handler bindingPair, afterCalls calls = some handler →
      handler.Removes bindingPair := by
  intro h
  obtain ⟨removed, hremoved, -⟩ :=
    (h [.operation (.add ⟨[101], [107]⟩ 7)] _ ⟨[101], [107]⟩ rfl).registered 0 (by decide)
  cases hremoved

end ChannelHandler
end HareCpp
