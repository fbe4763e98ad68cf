import HareCpp.Producer.Moves

/-!
# The exchange table

What `connectChannels` does with the table, and what every run keeps of it.

* `connectLoop_spec` — the calls of the loop are those of its entries, one
  after the other, up to the entry at which it gives up.
* `TableFacts` — exchanges are on distinct channels below
  `m_curChannelNumber`, and `m_connected` is false in every entry: the loops
  that would set or clear it work on copies.
* `tableFacts_reachable` — in every run, whatever the callers do.
-/

namespace HareCpp
namespace Producer

open Library ConnectionBase

/-! ### The loop of `connectChannels` -/

/-- The calls for one entry, newest first. -/
def entryCalls (base : ConnectionBase) (replies : Bytes → ChannelReplies)
    (entry : Bytes × ExchangeProperties) : List AmqpCall :=
  let opened := base.openChannel entry.2.channel (replies entry.1).openReply
    (replies entry.1).closeOkStatus
  if noError opened.code && entry.2.isDeclare then
    (base.declareExchange entry.2.channel entry.1 entry.2.type
      (replies entry.1).declareReply).calls ++ opened.calls
  else opened.calls

/-- The loop gives up at the entry: `OpenChannel` or `DeclareExchange` reports a
server failure. -/
def entryFails (base : ConnectionBase) (replies : Bytes → ChannelReplies)
    (entry : Bytes × ExchangeProperties) : Bool :=
  serverFailure (openCode base replies entry) ||
    (noError (openCode base replies entry) && entry.2.isDeclare &&
      serverFailure (base.declareExchange entry.2.channel entry.1 entry.2.type
        (replies entry.1).declareReply).code)

/-- The entries that `connectChannels` works on. -/
def notConnected (entries : ExchangeList) : ExchangeList :=
  entries.filter fun entry => !entry.2.connected

@[simp] theorem notConnected_cons (entry : Bytes × ExchangeProperties) (entries : ExchangeList) :
    notConnected (entry :: entries) =
      if entry.2.connected then notConnected entries else entry :: notConnected entries := by
  cases h : entry.2.connected <;> simp [notConnected, h]

/-- The loop goes through a first part of the entries and makes the calls of
each; it finishes only after all of them and without a server failure, with
`allGood` if all channels opened. -/
theorem connectLoop_spec (base : ConnectionBase) (replies : Bytes → ChannelReplies)
    (entries : ExchangeList) (allGood : Bool) :
    ∃ done post, entries = done ++ post ∧
      (connectLoop base replies entries allGood).2 =
        (notConnected done).reverse.flatMap (entryCalls base replies) ∧
      ∀ good, (connectLoop base replies entries allGood).1 = .finished good →
        post = [] ∧
        good = (allGood && (notConnected entries).all fun entry =>
          noError (openCode base replies entry)) ∧
        ∀ entry ∈ notConnected entries, entryFails base replies entry = false := by
  fun_induction connectLoop base replies entries allGood with
  | case1 allGood =>
      refine ⟨[], [], rfl, rfl, ?_⟩
      rintro good ⟨⟩
      simp [notConnected]
  | case2 name it rest allGood hconnected ih =>
      obtain ⟨done, post, hsplit, hcalls, hfinished⟩ := ih
      refine ⟨(name, it) :: done, post, by rw [hsplit]; rfl, ?_, ?_⟩
      · rw [hcalls]
        simp [hconnected]
      · simpa [hconnected] using hfinished
  | case3 name it rest allGood hconnected opened hfail =>
      refine ⟨[(name, it)], rest, rfl, ?_, by rintro good ⟨⟩⟩
      have hbad : noError opened.code = false := by
        simpa using ne_allGood_of_serverFailure hfail
      simp only [opened] at hbad
      simp [notConnected, hconnected, entryCalls, hbad, opened]
  | case4 name it rest allGood hconnected opened hfail hgood hdeclare declared hfailed =>
      refine ⟨[(name, it)], rest, rfl, ?_, by rintro good ⟨⟩⟩
      simp only [opened] at hgood
      simp [notConnected, hconnected, entryCalls, opened, declared, hdeclare, hgood]
  | case5 name it rest allGood hconnected opened hfail hgood hdeclare declared hfailed later ih =>
      obtain ⟨done, post, hsplit, hcalls, hfinished⟩ := ih
      simp only [opened] at hgood hfail
      simp only [declared] at hfailed
      refine ⟨(name, it) :: done, post, by rw [hsplit]; rfl, ?_, ?_⟩
      · simp [later, hcalls, hconnected, entryCalls, opened, declared, hdeclare, hgood]
      · intro good hlater
        obtain ⟨hpost, hvalue, hnone⟩ := hfinished good hlater
        refine ⟨hpost, by simpa [hconnected, openCode, hgood] using hvalue, ?_⟩
        have hhere : entryFails base replies (name, it) = false := by
          simp [entryFails, openCode, hfail, hfailed]
        simpa [hconnected, hhere] using hnone
  | case6 name it rest allGood hconnected opened hfail hgood hdeclare later ih =>
      obtain ⟨done, post, hsplit, hcalls, hfinished⟩ := ih
      simp only [opened] at hgood hfail
      refine ⟨(name, it) :: done, post, by rw [hsplit]; rfl, ?_, ?_⟩
      · simp [later, hcalls, hconnected, entryCalls, opened, hdeclare]
      · intro good hlater
        obtain ⟨hpost, hvalue, hnone⟩ := hfinished good hlater
        refine ⟨hpost, by simpa [hconnected, openCode, hgood] using hvalue, ?_⟩
        have hhere : entryFails base replies (name, it) = false := by
          simp [entryFails, openCode, hfail, hdeclare]
        simpa [hconnected, hhere] using hnone
  | case7 name it rest allGood hconnected opened hfail hgood later ih =>
      obtain ⟨done, post, hsplit, hcalls, hfinished⟩ := ih
      have hbad : noError opened.code = false := by simpa using hgood
      simp only [opened] at hbad hfail
      refine ⟨(name, it) :: done, post, by rw [hsplit]; rfl, ?_, ?_⟩
      · simp [later, hcalls, hconnected, entryCalls, opened, hbad]
      · intro good hlater
        obtain ⟨hpost, hvalue, hnone⟩ := hfinished good hlater
        refine ⟨hpost, by simpa [hconnected, openCode, hbad] using hvalue, ?_⟩
        have hhere : entryFails base replies (name, it) = false := by
          simp [entryFails, openCode, hfail, hbad]
        simpa [hconnected, hhere] using hnone

/-- An entry's calls stay on the connection, and there are none when it is
closed. -/
theorem entryCalls_uses (base : ConnectionBase) (replies : Bytes → ChannelReplies)
    (entry : Bytes × ExchangeProperties) :
    (∀ call ∈ entryCalls base replies entry, call.UsesSession base.conn) ∧
      (base.isConnected = false → entryCalls base replies entry = []) := by
  have hopen := keepsSession_openChannel base entry.2.channel (replies entry.1).openReply
    (replies entry.1).closeOkStatus
  have hdeclare := keepsSession_declareExchange base entry.2.channel entry.1 entry.2.type
    (replies entry.1).declareReply
  unfold entryCalls
  dsimp only
  split
  · refine ⟨?_, fun hdown => by rw [hopen.calls_eq_nil hdown, hdeclare.calls_eq_nil hdown]; rfl⟩
    intro call hcall
    rcases List.mem_append.mp hcall with h | h
    · exact hdeclare.uses call h
    · exact hopen.uses call h
  · exact ⟨hopen.uses, hopen.calls_eq_nil⟩

/-- The only `OpenChannel` of an entry, and the declaration that follows it. -/
theorem mem_entryCalls {base : ConnectionBase} (hconnected : base.isConnected = true)
    (replies : Bytes → ChannelReplies) (entry : Bytes × ExchangeProperties) :
    (∀ conn channel reply, .channelOpen conn channel reply ∈ entryCalls base replies entry ↔
      conn = base.conn ∧ channel = entry.2.channel ∧ reply = (replies entry.1).openReply) ∧
    (entry.2.isDeclare = true → decodeRpcReply (replies entry.1).openReply = .allGood →
      .exchangeDeclare base.conn entry.2.channel (cstringBytes entry.1)
        (cstringBytes entry.2.type) (replies entry.1).declareReply ∈
          entryCalls base replies entry) := by
  have hopen : ∀ conn channel reply, AmqpCall.channelOpen conn channel reply ∈
      (base.openChannel entry.2.channel (replies entry.1).openReply
        (replies entry.1).closeOkStatus).calls ↔
      conn = base.conn ∧ channel = entry.2.channel ∧ reply = (replies entry.1).openReply := by
    intro conn channel reply
    simp only [openChannel, hconnected, if_true]
    split <;> simp
  refine ⟨?_, ?_⟩
  · intro conn channel reply
    rw [← hopen conn channel reply]
    unfold entryCalls
    dsimp only
    split
    · rw [List.mem_append]
      refine ⟨fun h => h.elim (fun h => ?_) id, .inr⟩
      simp [declareExchange, hconnected] at h
    · exact Iff.rfl
  · intro hdeclare hgood
    have hcode : noError (base.openChannel entry.2.channel (replies entry.1).openReply
        (replies entry.1).closeOkStatus).code = true := by
      simp [openChannel, hconnected, hgood]
    simp [entryCalls, hcode, hdeclare, declareExchange, hconnected]

theorem openCode_of_connected {base : ConnectionBase} (hconnected : base.isConnected = true)
    (replies : Bytes → ChannelReplies) (entry : Bytes × ExchangeProperties) :
    openCode base replies entry = decodeRpcReply (replies entry.1).openReply := by
  simp [openCode, openChannel, hconnected]

/-- The loop works on the connection it was given, and makes no call when that
is closed. -/
theorem connectLoop_uses (base : ConnectionBase) (replies : Bytes → ChannelReplies)
    (entries : ExchangeList) (allGood : Bool) :
    (∀ call ∈ (connectLoop base replies entries allGood).2, call.UsesSession base.conn) ∧
      (base.isConnected = false → (connectLoop base replies entries allGood).2 = []) := by
  obtain ⟨done, post, -, hcalls, -⟩ := connectLoop_spec base replies entries allGood
  rw [hcalls]
  refine ⟨?_, ?_⟩
  · intro call hcall
    obtain ⟨entry, -, hmem⟩ := List.mem_flatMap.mp hcall
    exact (entryCalls_uses base replies entry).1 call hmem
  · intro hdown
    rw [List.flatMap_eq_nil_iff]
    exact fun entry _ => (entryCalls_uses base replies entry).2 hdown

/-- The calls of the destructor's loop. -/
theorem closeChannels_uses (base : ConnectionBase) (entries : ExchangeList) :
    (∀ call ∈ closeChannels base entries, call.UsesSession base.conn) ∧
      (base.isConnected = false → closeChannels base entries = []) := by
  induction entries with
  | nil => exact ⟨by simp [closeChannels], fun _ => rfl⟩
  | cons entry rest ih =>
      obtain ⟨name, element⟩ := entry
      have hkeeps := keepsSession_closeChannel base element.channel
      refine ⟨?_, ?_⟩
      · intro call hcall
        rcases List.mem_append.mp hcall with h | h
        · exact ih.1 call h
        · exact hkeeps.uses call h
      · intro hdown
        rw [closeChannels, ih.2 hdown, hkeeps.calls_eq_nil hdown]
        rfl

/-- The loop works on all the entries of a fresh table. -/
theorem notConnected_eq_self {entries : ExchangeList}
    (hfresh : ∀ entry ∈ entries, entry.2.connected = false) : notConnected entries = entries := by
  rw [notConnected, List.filter_eq_self]
  intro entry hentry
  simp [hfresh entry hentry]

/-- What a pass over a fresh table does on a live connection: it opens channels
of the table only, declares what it opened, and when it finishes it has been
everywhere. -/
theorem connectLoop_opens {base : ConnectionBase} (hconnected : base.isConnected = true)
    (replies : Bytes → ChannelReplies) {entries : ExchangeList}
    (hfresh : ∀ entry ∈ entries, entry.2.connected = false) :
    (∀ conn channel reply,
      .channelOpen conn channel reply ∈ (connectLoop base replies entries true).2 →
      conn = base.conn ∧ ∃ entry ∈ entries, channel = entry.2.channel ∧
        reply = (replies entry.1).openReply ∧
        (entry.2.isDeclare = true → decodeRpcReply reply = .allGood →
          .exchangeDeclare base.conn entry.2.channel (cstringBytes entry.1)
            (cstringBytes entry.2.type) (replies entry.1).declareReply ∈
              (connectLoop base replies entries true).2)) ∧
    ∀ good, (connectLoop base replies entries true).1 = .finished good →
      (∀ entry ∈ entries, .channelOpen base.conn entry.2.channel (replies entry.1).openReply ∈
        (connectLoop base replies entries true).2) ∧
      (good = true → ∀ entry ∈ entries,
        decodeRpcReply (replies entry.1).openReply = .allGood) := by
  obtain ⟨done, post, hsplit, hcalls, hfinished⟩ := connectLoop_spec base replies entries true
  have hdone : notConnected done = done := by
    apply notConnected_eq_self
    intro entry hentry
    exact hfresh entry (by rw [hsplit]; exact List.mem_append_left _ hentry)
  rw [hdone] at hcalls
  rw [hcalls]
  refine ⟨?_, ?_⟩
  · intro conn channel reply hmem
    obtain ⟨entry, hentry, hcall⟩ := List.mem_flatMap.mp hmem
    obtain ⟨hopen, hdeclare⟩ := mem_entryCalls hconnected replies entry
    obtain ⟨hconn, hchannel, hreply⟩ := (hopen conn channel reply).mp hcall
    refine ⟨hconn, entry, ?_, hchannel, hreply, ?_⟩
    · rw [hsplit]
      exact List.mem_append_left _ (List.mem_reverse.mp hentry)
    · intro hisDeclare hgood
      rw [hreply] at hgood
      exact List.mem_flatMap.mpr ⟨entry, hentry, hdeclare hisDeclare hgood⟩
  · intro good hgood
    obtain ⟨hpost, hvalue, -⟩ := hfinished good hgood
    obtain rfl : entries = done := by rw [hsplit, hpost, List.append_nil]
    rw [hdone] at hvalue
    refine ⟨?_, ?_⟩
    · intro entry hentry
      refine List.mem_flatMap.mpr ⟨entry, List.mem_reverse.mpr hentry, ?_⟩
      exact ((mem_entryCalls hconnected replies entry).1 _ _ _).mpr ⟨rfl, rfl, rfl⟩
    · rintro rfl entry hentry
      have hcode : noError (openCode base replies entry) = true := by
        have hevery := List.all_eq_true.mp (Bool.and_eq_true_iff.mp hvalue.symm).2
        exact hevery entry hentry
      rw [← openCode_of_connected hconnected replies entry]
      simpa using hcode

/-! ### The table over a run -/

/-- Notes about the table and the channels. -/
def Note.aboutTable : Note → Bool
  | .connected .. | .added _ | .looked .. => true
  | .pushed .. | .dropped _ | .apiReturned .. => false

/-- What a step of a user thread can do to the table. -/
inductive TableEffect (s s' : ProducerState) : Prop
  | same (new : List Note) (hlist : s'.exchangeList = s.exchangeList)
      (hflag : s'.channelsConnected = s.channelsConnected)
      (hnumber : s'.curChannelNumber = s.curChannelNumber) (hnotes : s'.notes = new ++ s.notes)
      (hnew : ∀ note ∈ new, note.aboutTable = false)
  | added (new : List Note) (name : Bytes) (properties : ExchangeProperties)
      (hname : s.exchangeList.lookup name = none)
      (hchannel : properties.channel = s.curChannelNumber)
      (hconnected : properties.connected = false)
      (hlist : s'.exchangeList = s.exchangeList ++ [(name, properties)])
      (hflag : s'.channelsConnected = false)
      (hnumber : s'.curChannelNumber = s.curChannelNumber + 1)
      (hnotes : s'.notes = new ++ .added s.curChannelNumber :: s.notes)
      (hnew : ∀ note ∈ new, note.aboutTable = false)
  | redeclared (new : List Note) (name type : Bytes)
      (hlist : s'.exchangeList = s.exchangeList.map fun entry =>
        if entry.1 = name then (entry.1, { entry.2 with isDeclare := true, type := type })
        else entry)
      (hflag : s'.channelsConnected = false)
      (hnumber : s'.curChannelNumber = s.curChannelNumber) (hnotes : s'.notes = new ++ s.notes)
      (hnew : ∀ note ∈ new, note.aboutTable = false)

/-- Every exchange is on a channel of its own, numbered from 1, no entry is
ever marked as connected, and a `Send` in flight has its exchange in the
table. -/
structure TableFacts (s : ProducerState) : Prop where
  positive : 1 ≤ s.curChannelNumber
  numbered : ∀ entry ∈ s.exchangeList,
    1 ≤ entry.2.channel ∧ entry.2.channel < s.curChannelNumber
  distinct : (s.exchangeList.map fun entry => entry.2.channel).Nodup
  notConnected : ∀ entry ∈ s.exchangeList, entry.2.connected = false
  registered : ∀ call ∈ s.sends, call.exchange ∈ s.exchangeList.map Prod.fst

theorem TableFacts.of_same {s s' : ProducerState} (hfacts : TableFacts s)
    (hlist : s'.exchangeList = s.exchangeList)
    (hnumber : s'.curChannelNumber = s.curChannelNumber) (hsends : s'.sends = s.sends) :
    TableFacts s' := by
  obtain ⟨hpositive, hnumbered, hdistinct, hnot, hregistered⟩ := hfacts
  refine ⟨?_, ?_, ?_, ?_, ?_⟩
  · rwa [hnumber]
  · rwa [hlist, hnumber]
  · rwa [hlist]
  · rwa [hlist]
  · rwa [hsends, hlist]

/-- The hash table is iterated over in some order, in which no entry is marked as
connected. -/
theorem TableFacts.fresh {s : ProducerState} (hfacts : TableFacts s) {order : ExchangeList}
    (horder : order.Perm s.exchangeList) : ∀ entry ∈ order, entry.2.connected = false := by
  intro entry hentry
  exact hfacts.notConnected entry (horder.mem_iff.mp hentry)

/-- A pass over the table that finished has set `allGood` if every channel opened, and
has met no server failure. -/
theorem TableFacts.finished_iff {s : ProducerState} (hfacts : TableFacts s)
    {base : ConnectionBase} {replies : Bytes → ChannelReplies} {order : ExchangeList}
    {allGood : Bool} (horder : order.Perm s.exchangeList)
    (hloop : (connectLoop base replies order true).1 = .finished allGood) :
    (allGood = true ↔ ∀ entry ∈ s.exchangeList, openCode base replies entry = .allGood) ∧
      ∀ entry ∈ s.exchangeList, entryFails base replies entry = false := by
  obtain ⟨done, post, -, -, hfinished⟩ := connectLoop_spec base replies order true
  obtain ⟨-, hvalue, hnone⟩ := hfinished allGood hloop
  rw [notConnected_eq_self (hfacts.fresh horder)] at hvalue hnone
  refine ⟨?_, fun entry hentry => hnone entry (horder.mem_iff.mpr hentry)⟩
  rw [hvalue, Bool.true_and, List.all_eq_true]
  constructor
  · intro h entry hentry
    simpa using h entry (horder.mem_iff.mpr hentry)
  · intro h entry hentry
    simpa using h entry (horder.mem_iff.mp hentry)

theorem mem_of_lookup {table : ExchangeList} {name : Bytes} {found : ExchangeProperties}
    (h : table.lookup name = some found) : (name, found) ∈ table := by
  obtain ⟨before, after, heq, -⟩ := List.lookup_eq_some_iff.mp h
  rw [heq]
  simp

theorem lookup_ne_none {table : ExchangeList} {name : Bytes}
    (h : name ∈ table.map Prod.fst) : table.lookup name ≠ none := by
  intro hnone
  obtain ⟨entry, hentry, rfl⟩ := List.mem_map.mp h
  simpa using List.lookup_eq_none_iff.mp hnone entry hentry

/-- `addExchange` hands out valid channels only. -/
theorem TableFacts.addExchange_nonneg {s : ProducerState} (hfacts : TableFacts s)
    (exchange : Bytes) : ¬(addExchange s exchange).2 < 0 := by
  have hpositive := hfacts.positive
  unfold addExchange
  split
  · dsimp only
    omega
  · next found hfound =>
      have hnumbered := hfacts.numbered _ (mem_of_lookup hfound)
      dsimp only at hnumbered ⊢
      omega

/-- A step of a user thread, as far as the table is concerned. -/
theorem UserMove.tableEffect {s s' : ProducerState} {action : Action} (hfacts : TableFacts s)
    (hmove : UserMove s action s') : TableEffect s s' := by
  cases hmove with
  | declareExchange exchange type =>
      unfold addExchangeTyped
      split
      · next hname =>
          exact .added [_] exchange _ hname rfl rfl rfl rfl rfl rfl (by simp [Note.aboutTable])
      · exact .redeclared [_] exchange type rfl rfl rfl rfl (by simp [Note.aboutTable])
  | sendRefused call hchannel => exact absurd hchannel (hfacts.addExchange_nonneg _)
  | send call hchannel =>
      unfold addExchange
      split
      · next hname => exact .added [] call.exchange _ hname rfl rfl rfl rfl rfl rfl (by simp)
      · exact .same [] rfl rfl rfl rfl (by simp)
  | push k call rest found hpick hfound =>
      exact .same [_, _] rfl rfl rfl rfl (by simp [Note.aboutTable])
  | pushFresh k call rest hpick hfound =>
      exact absurd hfound (lookup_ne_none (hfacts.registered call (mem_of_pick hpick)))

/-- Every exchange of the table is still there, on its channel, and declared if
it was. -/
def Extends (table table' : ExchangeList) : Prop :=
  ∀ entry ∈ table, ∃ entry' ∈ table', entry'.1 = entry.1 ∧
    entry'.2.channel = entry.2.channel ∧ (entry.2.isDeclare = true → entry'.2.isDeclare = true)

theorem Extends.refl (table : ExchangeList) : Extends table table :=
  fun entry hentry => ⟨entry, hentry, rfl, rfl, id⟩

theorem Extends.trans {table table' table'' : ExchangeList} (h : Extends table table')
    (h' : Extends table' table'') : Extends table table'' := by
  intro entry hentry
  obtain ⟨entry', hentry', hname, hchannel, hdeclare⟩ := h entry hentry
  obtain ⟨entry'', hentry'', hname', hchannel', hdeclare'⟩ := h' entry' hentry'
  exact ⟨entry'', hentry'', hname'.trans hname, hchannel'.trans hchannel,
    fun hd => hdeclare' (hdeclare hd)⟩

/-- A user thread's step keeps the exchanges that are in the table. -/
theorem TableEffect.extends {s s' : ProducerState} (heffect : TableEffect s s') :
    Extends s.exchangeList s'.exchangeList := by
  cases heffect with
  | same new hlist => rw [hlist]; exact Extends.refl _
  | added new name properties _ _ _ hlist =>
      intro entry hentry
      exact ⟨entry, by rw [hlist]; exact List.mem_append_left _ hentry, rfl, rfl, id⟩
  | redeclared new name type hlist =>
      intro entry hentry
      refine ⟨_, by rw [hlist]; exact List.mem_map_of_mem hentry, ?_⟩
      dsimp only
      split
      · exact ⟨rfl, rfl, fun _ => rfl⟩
      · exact ⟨rfl, rfl, id⟩

/-- So does every step. -/
theorem Move.extends {s s' : ProducerState} {action : Action} (hfacts : TableFacts s)
    (hmove : Move s action s') : Extends s.exchangeList s'.exchangeList := by
  cases hmove with
  | worker input _ hmove =>
      obtain ⟨-, -, -, hlist, -⟩ := hmove.frame
      rw [hlist]
      exact Extends.refl _
  | user _ _ hmove => exact (hmove.tableEffect hfacts).extends
  | begin call => exact Extends.refl _
  | control k input pc rest _ hpick hmove =>
      obtain ⟨hlist, -⟩ := hmove.frame
      rw [hlist]
      exact Extends.refl _

/-- Notes are never taken back. -/
theorem Move.notes_mono {s s' : ProducerState} {action : Action} (hmove : Move s action s')
    (hfacts : TableFacts s) : ∀ note ∈ s.notes, note ∈ s'.notes := by
  intro note hnote
  cases hmove with
  | worker input _ hmove =>
      cases hmove with
      | connected | looked | opened | dropped => exact .tail _ hnote
      | _ => exact hnote
  | user _ _ hmove =>
      cases hmove.tableEffect hfacts with
      | same new _ _ _ heq | redeclared new _ _ _ _ _ heq =>
          rw [heq]
          exact List.mem_append_right _ hnote
      | added new _ _ _ _ _ _ _ _ heq =>
          rw [heq]
          exact List.mem_append_right _ (.tail _ hnote)
  | begin call => exact hnote
  | control k input pc rest _ hpick hmove =>
      cases hmove with
      | returned | spawn | dropped | initRunning => exact .tail _ hnote
      | _ => exact hnote

/-- The `Send` calls in flight after a user thread's step are registered. -/
theorem UserMove.registered {s s' : ProducerState} {action : Action} (hfacts : TableFacts s)
    (hmove : UserMove s action s') :
    ∀ call ∈ s'.sends, call.exchange ∈ s'.exchangeList.map Prod.fst := by
  have hsubset : s.exchangeList.map Prod.fst ⊆ s'.exchangeList.map Prod.fst := by
    intro name hname
    obtain ⟨entry, hentry, rfl⟩ := List.mem_map.mp hname
    obtain ⟨entry', hentry', hsame, -⟩ := (hmove.tableEffect hfacts).extends entry hentry
    exact List.mem_map.mpr ⟨entry', hentry', hsame⟩
  cases hmove with
  | declareExchange exchange type =>
      intro call hcall
      refine hsubset (hfacts.registered call ?_)
      unfold addExchangeTyped at hcall
      split at hcall <;> exact hcall
  | sendRefused call hchannel => exact absurd hchannel (hfacts.addExchange_nonneg _)
  | send call hchannel =>
      intro other hother
      rcases List.mem_cons.mp hother with rfl | hother
      · show other.exchange ∈ (addExchange s other.exchange).1.exchangeList.map Prod.fst
        unfold addExchange
        split
        · simp
        · next found hfound => exact List.mem_map.mpr ⟨_, mem_of_lookup hfound, rfl⟩
      · refine hsubset (hfacts.registered other ?_)
        unfold addExchange at hother
        split at hother <;> exact hother
  | push k call rest found hpick hfound =>
      intro other hother
      refine hsubset (hfacts.registered other ?_)
      exact (perm_of_pick hpick).mem_iff.mpr (.tail _ hother)
  | pushFresh k call rest hpick hfound =>
      exact absurd hfound (lookup_ne_none (hfacts.registered call (mem_of_pick hpick)))

/-- A step of a user thread keeps the table facts. -/
theorem TableFacts.user {s s' : ProducerState} {action : Action} (hfacts : TableFacts s)
    (hmove : UserMove s action s') : TableFacts s' := by
  have hregistered := hmove.registered hfacts
  have heffect := hmove.tableEffect hfacts
  obtain ⟨hpositive, hnumbered, hdistinct, hnot, -⟩ := hfacts
  cases heffect with
  | same new hlist hflag hnumber =>
      refine ⟨?_, ?_, ?_, ?_, hregistered⟩
      · rwa [hnumber]
      · rwa [hlist, hnumber]
      · rwa [hlist]
      · rwa [hlist]
  | added new name properties hname hchannel hconnected hlist hflag hnumber =>
      refine ⟨by omega, ?_, ?_, ?_, hregistered⟩
      · intro entry hentry
        rw [hlist] at hentry
        rcases List.mem_append.mp hentry with h | h
        · have := hnumbered entry h
          omega
        · obtain rfl := List.mem_singleton.mp h
          dsimp only
          omega
      · rw [hlist, List.map_append, List.nodup_append]
        refine ⟨hdistinct, by simp, ?_⟩
        rintro channel hmem _ hnew rfl
        obtain ⟨entry, hentry, rfl⟩ := List.mem_map.mp hmem
        have hbelow := hnumbered entry hentry
        have hsame : entry.2.channel = properties.channel := by simpa using hnew
        omega
      · intro entry hentry
        rw [hlist] at hentry
        rcases List.mem_append.mp hentry with h | h
        · exact hnot entry h
        · obtain rfl := List.mem_singleton.mp h
          exact hconnected
  | redeclared new name type hlist hflag hnumber =>
      have hmem : ∀ entry ∈ s'.exchangeList, ∃ old ∈ s.exchangeList,
          entry.2.channel = old.2.channel ∧ entry.2.connected = old.2.connected := by
        intro entry hentry
        rw [hlist] at hentry
        obtain ⟨old, hold, rfl⟩ := List.mem_map.mp hentry
        refine ⟨old, hold, ?_⟩
        split <;> exact ⟨rfl, rfl⟩
      refine ⟨by omega, ?_, ?_, ?_, hregistered⟩
      · intro entry hentry
        obtain ⟨old, hold, hchannel, -⟩ := hmem entry hentry
        rw [hchannel, hnumber]
        exact hnumbered old hold
      · rw [hlist, List.map_map]
        convert hdistinct using 1
        refine List.map_congr_left fun entry _ => ?_
        dsimp only [Function.comp]
        split <;> rfl
      · intro entry hentry
        obtain ⟨old, hold, -, hconnected⟩ := hmem entry hentry
        rw [hconnected]
        exact hnot old hold

/-- The table facts hold in every state of every run. -/
theorem tableFacts_reachable {allowed : ProducerState → Action → Prop} {s : ProducerState}
    (hs : system.ReachableUnder allowed s) : TableFacts s := by
  refine hs.induction TableFacts ?_ ?_
  · exact ⟨by decide, by simp [system, initial], by simp [system, initial],
      by simp [system, initial], by simp [system, initial]⟩
  · intro s action s' _ _ hfacts hstep
    obtain ⟨-, hmove⟩ := move_of_step hstep
    cases hmove with
    | worker input _ hmove =>
        obtain ⟨-, -, -, hlist, hsends, -, hnumber, -⟩ := hmove.frame
        exact hfacts.of_same hlist hnumber hsends
    | user _ _ hmove => exact hfacts.user hmove
    | begin call => exact hfacts.of_same rfl rfl rfl
    | control k input pc rest _ hpick hmove =>
        obtain ⟨hlist, hnumber, hsends, -, -, -⟩ := hmove.frame
        exact hfacts.of_same hlist hnumber hsends

end Producer
end HareCpp
