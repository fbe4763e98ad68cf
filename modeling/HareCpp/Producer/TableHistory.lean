import HareCpp.Producer.Publishing

/-!
# The exchange table as a function of its history

`Send` and `DeclareExchange` reach the table through two overloads of `addExchange`,
each of them one section under the mutex.  `tableUse` records these sections, newest
first, and `tableOf` says what the table should be after such a record: the
exchanges in the order of their first use, numbered from 1, each of them declared
with the type of its last declaration if there was one.

`tableSimulates_reachable` is the simulation: in every run, whatever the other threads do,
the table is `tableOf` of the record.  `tableFollows_reachable` reads off it what the
channels and the queued messages are.
-/

namespace HareCpp
namespace Producer

open Library ConnectionBase

/-- A section of `addExchange`; it has a type when it is the overload that
`DeclareExchange` calls. -/
structure TableUse where
  exchange : Bytes
  type : Option Bytes
  deriving DecidableEq, Repr

/-- The section of `addExchange` that a step goes through. -/
def tableUse (_ : ProducerState) : Action → List TableUse
  | .declareExchange exchange type => [⟨exchange, some type⟩]
  | .send call => [⟨call.exchange, none⟩]
  | _ => []

/-- The exchanges of a record, in the order of their first use. -/
def usedNames (history : List TableUse) : List Bytes := firstUses (history.map (·.exchange))

/-- The type of the last declaration of an exchange. -/
def lastDeclared (history : List TableUse) (name : Bytes) : Option Bytes :=
  history.findSome? fun use => if use.exchange = name then use.type else none

/-- The entry of the exchange that was the `place`-th to be used, counted from 0. -/
def entryOf (history : List TableUse) (place : Nat) (name : Bytes) : Bytes × ExchangeProperties :=
  (name, match lastDeclared history name with
    | some type => { channel := place + 1, isDeclare := true, type := type }
    | none => { channel := place + 1 })

/-- The table after a record. -/
def tableOf (history : List TableUse) : ExchangeList :=
  (usedNames history).mapIdx (entryOf history)

/-! ### How the table goes on with the record -/

@[simp] theorem entryOf_fst (history : List TableUse) (place : Nat) (name : Bytes) :
    (entryOf history place name).1 = name := rfl

@[simp] theorem entryOf_channel (history : List TableUse) (place : Nat) (name : Bytes) :
    (entryOf history place name).2.channel = place + 1 := by
  unfold entryOf
  split <;> rfl

theorem mem_tableOf {history : List TableUse} {entry : Bytes × ExchangeProperties} :
    entry ∈ tableOf history ↔
      ∃ place name, (usedNames history)[place]? = some name ∧
        entry = entryOf history place name := by
  rw [tableOf, List.mem_mapIdx]
  constructor
  · rintro ⟨place, hlt, rfl⟩
    exact ⟨place, _, List.getElem?_eq_getElem hlt, rfl⟩
  · rintro ⟨place, name, hname, rfl⟩
    obtain ⟨hlt, rfl⟩ := List.getElem?_eq_some_iff.mp hname
    exact ⟨place, hlt, rfl⟩

/-- The keys of the table are the names used. -/
theorem keys_tableOf (history : List TableUse) :
    (tableOf history).map Prod.fst = usedNames history := by
  apply List.ext_getElem?
  intro place
  rw [List.getElem?_map, tableOf, List.getElem?_mapIdx, Option.map_map]
  cases (usedNames history)[place]? <;> rfl

theorem mem_usedNames {history : List TableUse} {name : Bytes} :
    name ∈ usedNames history ↔ ∃ use ∈ history, use.exchange = name := by
  rw [usedNames, mem_firstUses, List.mem_map]

theorem lookup_tableOf_eq_none_iff (history : List TableUse) (name : Bytes) :
    (tableOf history).lookup name = none ↔ name ∉ usedNames history := by
  rw [← keys_tableOf]
  constructor
  · intro hnone hmem
    exact lookup_ne_none hmem hnone
  · intro hnot
    rw [List.lookup_eq_none_iff]
    intro entry hentry
    rw [bne_iff_ne]
    rintro rfl
    exact hnot (List.mem_map_of_mem hentry)

/-- A section on another exchange changes nothing about this one. -/
theorem lastDeclared_cons_of_ne {use : TableUse} {name : Bytes} (hne : use.exchange ≠ name)
    (history : List TableUse) : lastDeclared (use :: history) name = lastDeclared history name := by
  rw [lastDeclared, List.findSome?_cons, if_neg hne]
  rfl

/-- A section of `Send` declares nothing. -/
theorem lastDeclared_cons_send (exchange name : Bytes) (history : List TableUse) :
    lastDeclared (⟨exchange, none⟩ :: history) name = lastDeclared history name := by
  rw [lastDeclared, List.findSome?_cons, ite_self]
  rfl

theorem lastDeclared_cons_declare (name type : Bytes) (history : List TableUse) :
    lastDeclared (⟨name, some type⟩ :: history) name = some type := by
  rw [lastDeclared, List.findSome?_cons, if_pos rfl]

/-- An exchange that was never used was never declared. -/
theorem lastDeclared_of_notMem {history : List TableUse} {name : Bytes}
    (hnot : name ∉ usedNames history) : lastDeclared history name = none := by
  rw [lastDeclared, List.findSome?_eq_none_iff]
  intro use huse
  rw [if_neg]
  rintro rfl
  exact hnot (mem_usedNames.mpr ⟨use, huse, rfl⟩)

theorem usedNames_cons_of_mem {use : TableUse} {history : List TableUse}
    (h : use.exchange ∈ usedNames history) : usedNames (use :: history) = usedNames history := by
  rw [usedNames, mem_firstUses] at h
  exact firstUses_cons_of_mem h

theorem usedNames_cons_of_notMem {use : TableUse} {history : List TableUse}
    (h : use.exchange ∉ usedNames history) :
    usedNames (use :: history) = usedNames history ++ [use.exchange] := by
  rw [usedNames, mem_firstUses] at h
  exact firstUses_cons_of_notMem h

/-- The first use of an exchange adds its entry at the end. -/
theorem tableOf_cons_of_notMem {use : TableUse} {history : List TableUse}
    (hnot : use.exchange ∉ usedNames history) :
    tableOf (use :: history) =
      tableOf history ++ [entryOf (use :: history) (usedNames history).length use.exchange] := by
  rw [tableOf, usedNames_cons_of_notMem hnot, List.mapIdx_concat, tableOf]
  congr 1
  rw [List.mapIdx_eq_mapIdx_iff]
  intro place hplace
  -- the earlier entries are for other exchanges
  have hne : use.exchange ≠ (usedNames history)[place] := by
    intro heq
    exact hnot (heq ▸ List.getElem_mem hplace)
  rw [entryOf, entryOf, lastDeclared_cons_of_ne hne]

/-- A later `Send` changes nothing. -/
theorem tableOf_cons_send {exchange : Bytes} {history : List TableUse}
    (hmem : exchange ∈ usedNames history) :
    tableOf (⟨exchange, none⟩ :: history) = tableOf history := by
  rw [tableOf, usedNames_cons_of_mem hmem, tableOf, List.mapIdx_eq_mapIdx_iff]
  intro place hplace
  rw [entryOf, entryOf, lastDeclared_cons_send]

/-- A later `DeclareExchange` marks the entry in place. -/
theorem tableOf_cons_declare {exchange : Bytes} (type : Bytes) {history : List TableUse}
    (hmem : exchange ∈ usedNames history) :
    tableOf (⟨exchange, some type⟩ :: history) = (tableOf history).map fun entry =>
      if entry.1 = exchange then (entry.1, { entry.2 with isDeclare := true, type := type })
      else entry := by
  apply List.ext_getElem?
  intro place
  rw [tableOf, usedNames_cons_of_mem hmem, List.getElem?_mapIdx, List.getElem?_map, tableOf,
    List.getElem?_mapIdx, Option.map_map]
  cases (usedNames history)[place]? with
  | none => rfl
  | some name =>
      rw [Option.map_some, Option.map_some, Function.comp_apply, entryOf_fst]
      -- the other entries are neither marked nor given another type
      by_cases hname : name = exchange
      · subst hname
        rw [if_pos rfl, entryOf, lastDeclared_cons_declare, entryOf]
        cases lastDeclared history name <;> rfl
      · rw [if_neg hname, entryOf, lastDeclared_cons_of_ne (Ne.symm hname), entryOf]

/-! ### The table of a run -/

/-- The table and the channel counter are those of the record. -/
structure TableSimulates (s : ProducerState) (history : List TableUse) : Prop where
  table : s.exchangeList = tableOf history
  counter : s.curChannelNumber = (usedNames history).length + 1

theorem TableSimulates.of_same {s s' : ProducerState} {history : List TableUse}
    (hsim : TableSimulates s history) (hlist : s'.exchangeList = s.exchangeList)
    (hnumber : s'.curChannelNumber = s.curChannelNumber) : TableSimulates s' history := by
  constructor
  · rw [hlist, hsim.table]
  · rw [hnumber, hsim.counter]

/-- The entry that the first use of an exchange should add, on the channel that the
counter shows. -/
theorem TableSimulates.added {s s' : ProducerState} {history : List TableUse} {use : TableUse}
    (hsim : TableSimulates s history) (hnone : s.exchangeList.lookup use.exchange = none)
    {properties : ExchangeProperties}
    (hproperties : properties = match use.type with
      | some type => { channel := s.curChannelNumber, isDeclare := true, type := type }
      | none => { channel := s.curChannelNumber })
    (hlist : s'.exchangeList = s.exchangeList ++ [(use.exchange, properties)])
    (hnumber : s'.curChannelNumber = s.curChannelNumber + 1) :
    TableSimulates s' (use :: history) := by
  have hnot : use.exchange ∉ usedNames history := by
    rw [hsim.table] at hnone
    exact (lookup_tableOf_eq_none_iff history use.exchange).mp hnone
  -- before its first use an exchange was not declared either
  have hdeclared : lastDeclared (use :: history) use.exchange = use.type := by
    obtain ⟨exchange, type⟩ := use
    cases type with
    | none => rw [lastDeclared_cons_send, lastDeclared_of_notMem hnot]
    | some type => exact lastDeclared_cons_declare exchange type history
  constructor
  · rw [hlist, hsim.table, tableOf_cons_of_notMem hnot, hproperties, hsim.counter, entryOf,
      hdeclared]
  · rw [hnumber, hsim.counter, usedNames_cons_of_notMem hnot, List.length_append,
      List.length_singleton]
    omega

/-- An exchange that is in the table was used. -/
theorem TableSimulates.mem_usedNames {s : ProducerState} {history : List TableUse}
    (hsim : TableSimulates s history) {name : Bytes} {found : ExchangeProperties}
    (hfound : s.exchangeList.lookup name = some found) : name ∈ usedNames history := by
  by_contra hnot
  rw [hsim.table, (lookup_tableOf_eq_none_iff history name).mpr hnot] at hfound
  cases hfound

/-- The section of `DeclareExchange`. -/
theorem TableSimulates.addExchangeTyped {s : ProducerState} {history : List TableUse}
    (hsim : TableSimulates s history) (exchange type : Bytes) :
    TableSimulates (addExchangeTyped s exchange type).1 (⟨exchange, some type⟩ :: history) := by
  unfold Producer.addExchangeTyped
  split
  · next hnone => exact hsim.added hnone rfl rfl rfl
  · next found hfound =>
      have hmem := hsim.mem_usedNames hfound
      constructor
      · rw [tableOf_cons_declare type hmem, ← hsim.table]
      · rw [usedNames_cons_of_mem hmem]
        exact hsim.counter

/-- The first section of `Send`. -/
theorem TableSimulates.addExchange {s : ProducerState} {history : List TableUse}
    (hsim : TableSimulates s history) (exchange : Bytes) :
    TableSimulates (addExchange s exchange).1 (⟨exchange, none⟩ :: history) := by
  unfold Producer.addExchange
  split
  · next hnone => exact hsim.added hnone rfl rfl rfl
  · next found hfound =>
      have hmem := hsim.mem_usedNames hfound
      constructor
      · rw [tableOf_cons_send hmem]
        exact hsim.table
      · rw [usedNames_cons_of_mem hmem]
        exact hsim.counter

/-- A step keeps the table in step with the record. -/
theorem Move.tableSimulates {s s' : ProducerState} {action : Action} {history : List TableUse}
    (hmove : Move s action s') (hfacts : TableFacts s) (hsim : TableSimulates s history) :
    TableSimulates s' (tableUse s action ++ history) := by
  cases hmove with
  | worker input _ hmove =>
      obtain ⟨-, -, -, hlist, -, -, hnumber, -⟩ := hmove.frame
      exact hsim.of_same hlist hnumber
  | begin call => exact hsim.of_same rfl rfl
  | control k input pc rest _ hpick hmove =>
      obtain ⟨hlist, hnumber, -⟩ := hmove.frame
      exact hsim.of_same hlist hnumber
  | user _ _ hmove =>
      cases hmove with
      | declareExchange exchange type =>
          exact (hsim.addExchangeTyped exchange type).of_same rfl rfl
      | sendRefused call hchannel => exact absurd hchannel (hfacts.addExchange_nonneg _)
      | send call hchannel => exact (hsim.addExchange call.exchange).of_same rfl rfl
      | push k call rest found hpick hfound => exact hsim.of_same rfl rfl
      | pushFresh k call rest hpick hfound =>
          exact absurd hfound (lookup_ne_none (hfacts.registered call (mem_of_pick hpick)))

/-- In every run the table is the one that its history asks for. -/
theorem tableSimulates_reachable {allowed : ProducerState → Action → Prop}
    {s : ProducerState × List TableUse}
    (hs : (system.recording tableUse).ReachableUnder (fun s => allowed s.1) s) :
    TableSimulates s.1 s.2 := by
  refine hs.record_induction TableSimulates ⟨rfl, rfl⟩ ?_
  intro s action s' history hreach _ hsim hstep
  obtain ⟨-, hmove⟩ := move_of_step hstep
  exact hmove.tableSimulates (tableFacts_reachable hreach) hsim

/-! ### What the history says about the channels -/

/-- The rank of an exchange among those used, from 1, in the order of first use. -/
def rank (history : List TableUse) (name : Bytes) : Int := (usedNames history).idxOf name + 1

/-- What the table and the queue of a producer are after a history. -/
structure TableFollows (s : ProducerState) (history : List TableUse) : Prop where
  /-- `m_exchangeList` has the names used, each of them once -/
  names : ∀ name, name ∈ s.exchangeList.map Prod.fst ↔ ∃ use ∈ history, use.exchange = name
  once : (s.exchangeList.map Prod.fst).Nodup
  /-- the channel of an exchange is its rank -/
  ranked : ∀ entry ∈ s.exchangeList, entry.2.channel = rank history entry.1
  /-- channels are distinct, dense and below `m_curChannelNumber` -/
  distinct : (s.exchangeList.map fun entry => entry.2.channel).Nodup
  dense : ∀ channel, (∃ entry ∈ s.exchangeList, entry.2.channel = channel) ↔
    1 ≤ channel ∧ channel < s.curChannelNumber
  /-- and they never change -/
  kept : ∀ s', (system.startingAt s).ReachableUnder (fun _ _ => True) s' →
    ∀ entry ∈ s.exchangeList, ∃ entry' ∈ s'.exchangeList,
      entry'.1 = entry.1 ∧ entry'.2.channel = entry.2.channel
  /-- an exchange is marked exactly when it was declared, with the last type given -/
  declared : ∀ entry ∈ s.exchangeList,
    (entry.2.isDeclare = true ↔ ∃ type, ⟨entry.1, some type⟩ ∈ history) ∧
      ∀ type, lastDeclared history entry.1 = some type → entry.2.type = type
  /-- a queued message is on the channel of the exchange that `Send` was called with -/
  queued : ∀ object ∈ s.sendQueue, ∃ call, ∃ entry ∈ s.exchangeList,
    .pushed object call entry.2.channel ∈ s.notes ∧ entry.1 = call.exchange ∧
      (s.objects object).channel = entry.2.channel

/-- An exchange has a last declaration exactly when it was declared. -/
theorem exists_lastDeclared_iff (history : List TableUse) (name : Bytes) :
    (∃ type, lastDeclared history name = some type) ↔
      ∃ type, ⟨name, some type⟩ ∈ history := by
  constructor
  · rintro ⟨type, htype⟩
    obtain ⟨use, huse, hsome⟩ := List.exists_of_findSome?_eq_some htype
    split at hsome
    · next hname =>
        refine ⟨type, ?_⟩
        rw [← hname, ← hsome]
        exact huse
    · cases hsome
  · rintro ⟨type, hmem⟩
    have hsome : lastDeclared history name ≠ none := by
      intro hnone
      rw [lastDeclared, List.findSome?_eq_none_iff] at hnone
      have hthis := hnone _ hmem
      rw [if_pos rfl] at hthis
      cases hthis
    exact Option.ne_none_iff_exists'.mp hsome

/-- The marks of an entry. -/
theorem entryOf_declared (history : List TableUse) (place : Nat) (name : Bytes) :
    ((entryOf history place name).2.isDeclare = true ↔
      ∃ type, lastDeclared history name = some type) ∧
    ∀ type, lastDeclared history name = some type →
      (entryOf history place name).2.type = type := by
  unfold entryOf
  cases lastDeclared history name with
  | none => simp
  | some type => simp

/-- Exchanges are never taken out of the table, nor put on another channel. -/
theorem extends_of_reachable {allowed : ProducerState → Action → Prop} {s s' : ProducerState}
    (hs : system.ReachableUnder allowed s)
    (hs' : (system.startingAt s).ReachableUnder (fun _ _ => True) s') :
    Extends s.exchangeList s'.exchangeList := by
  have hall : system.ReachableUnder (fun _ _ => True) s := hs.mono fun _ _ _ => trivial
  induction hs' with
  | init => exact Extends.refl _
  | @step t t' action before _ hstep ih =>
      -- a state reached from `s` is reached from the start
      have hfacts := tableFacts_reachable (hall.goOn before)
      obtain ⟨-, hmove⟩ := move_of_step hstep
      exact ih.trans (hmove.extends hfacts)

/-- After every interleaving of `DeclareExchange` and `Send` calls, with whatever
else the threads do in between, the table is the right function of the history of
its `addExchange` sections. -/
theorem tableFollows_reachable {allowed : ProducerState → Action → Prop}
    {s : ProducerState × List TableUse}
    (hs : (system.recording tableUse).ReachableUnder (fun s => allowed s.1) s) :
    TableFollows s.1 s.2 := by
  obtain ⟨htable, hcounter⟩ := tableSimulates_reachable hs
  have hreach : system.ReachableUnder allowed s.1 := hs.forget
  have hnodup : (usedNames s.2).Nodup := nodup_firstUses _
  constructor
  · intro name
    rw [htable, keys_tableOf, mem_usedNames]
  · rw [htable, keys_tableOf]
    exact hnodup
  · intro entry hentry
    rw [htable, mem_tableOf] at hentry
    obtain ⟨place, name, hname, rfl⟩ := hentry
    obtain ⟨hlt, rfl⟩ := List.getElem?_eq_some_iff.mp hname
    rw [entryOf_channel, entryOf_fst, rank, hnodup.idxOf_getElem place hlt]
  · exact (tableFacts_reachable hreach).distinct
  · intro channel
    rw [htable, hcounter]
    constructor
    · rintro ⟨entry, hentry, rfl⟩
      obtain ⟨place, name, hname, rfl⟩ := mem_tableOf.mp hentry
      obtain ⟨hlt, -⟩ := List.getElem?_eq_some_iff.mp hname
      rw [entryOf_channel]
      omega
    · rintro ⟨hlow, hhigh⟩
      -- the names are counted from 0, the channels from 1
      have hlt : (channel - 1).toNat < (usedNames s.2).length := by omega
      refine ⟨entryOf s.2 (channel - 1).toNat (usedNames s.2)[(channel - 1).toNat],
        mem_tableOf.mpr ⟨_, _, List.getElem?_eq_getElem hlt, rfl⟩, ?_⟩
      rw [entryOf_channel]
      omega
  · intro s' hs' entry hentry
    obtain ⟨entry', hentry', hname, hchannel, -⟩ := extends_of_reachable hreach hs' entry hentry
    exact ⟨entry', hentry', hname, hchannel⟩
  · intro entry hentry
    rw [htable, mem_tableOf] at hentry
    obtain ⟨place, name, -, rfl⟩ := hentry
    rw [entryOf_fst, ← exists_lastDeclared_iff]
    exact entryOf_declared s.2 place name
  · intro object hobject
    -- `Send` has looked the exchange up again before it pushed
    have hcontent := contentFacts_reachable hreach
    obtain ⟨call, channel, hpushed⟩ := hcontent.exists_pushed (hcontent.queued object hobject)
    obtain ⟨entry, hentry, hname, rfl⟩ := hcontent.registered object call channel hpushed
    exact ⟨call, entry, hentry, hpushed, hname, (hcontent.built object call _ hpushed).channel⟩

/-- A run in which an exchange is sent to, another is declared, and the first is
declared late: both stay on their channels. -/
theorem tableFollows_late_declare :
    ∃ s, (system.recording tableUse).ReachableUnder (fun s => OneControl s.1) s ∧
      s.1.exchangeList = [([101], { channel := 1, isDeclare := true, type := [116] }),
        ([102], { channel := 2, isDeclare := true, type := [117] })] ∧
      s.1.sendQueue = [0] ∧ TableFollows s.1 s.2 := by
  obtain ⟨s, hs, htest⟩ := TransitionSystem.exists_reachableUnder_of_run
    (M := system.recording tableUse) (fun s => OneControl s.1)
    [.send ⟨[101], [107], Message.ofString [104, 105]⟩, .declareExchange [102] [117],
      .declareExchange [101] [116], .sendPush 0]
    (fun s => decide (s.1.exchangeList =
        [([101], { channel := 1, isDeclare := true, type := [116] }),
          ([102], { channel := 2, isDeclare := true, type := [117] })] ∧ s.1.sendQueue = [0]))
    (by decide +kernel)
  obtain ⟨htable, hqueue⟩ := of_decide_eq_true htest
  exact ⟨s, hs, htable, hqueue, tableFollows_reachable hs⟩

end Producer
end HareCpp
