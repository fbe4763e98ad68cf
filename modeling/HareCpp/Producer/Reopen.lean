import HareCpp.ChannelState
import HareCpp.Producer.Channels

/-!
# When the producer opens a channel again

`connectChannels` opens every channel of the table whenever it runs, since the
`m_connected` it would go by is never stored.  So a channel is opened again if
`m_channelsConnected` is cleared while the channel is open: by an exchange that
is added or declared again (`ClearsFresh` excludes it), or by a pass that opened
some channels and was refused others (`NoMixedPass` excludes it).

* `loop_noReopen` — one pass over closed channels opens each of them once.
* `ReopenFacts` — while the flag is down, no channel of the table is open.
* `never_reopens` — the result for whole runs with one control thread.
-/

namespace HareCpp
namespace Producer

open Library ConnectionBase

/-! ### One pass -/

/-- The channel of an entry is open after the calls for the entry. -/
def leftOpen (base : ConnectionBase) (replies : Bytes → ChannelReplies)
    (entry : Bytes × ExchangeProperties) : Bool :=
  noError (openCode base replies entry) && !(entry.2.isDeclare &&
    decide (decodeRpcReply (replies entry.1).declareReply = .channelException))

/-- The calls for one entry touch its channel only. -/
theorem channelEffect_entryCalls {base : ConnectionBase} {replies : Bytes → ChannelReplies}
    {entry : Bytes × ExchangeProperties} {h : Option Nat} {c : Int}
    (hne : ¬(base.conn = h ∧ entry.2.channel = c)) :
    ∀ call ∈ entryCalls base replies entry, channelEffect h c call = none := by
  have hopen : ∀ call ∈ (base.openChannel entry.2.channel (replies entry.1).openReply
      (replies entry.1).closeOkStatus).calls, channelEffect h c call = none := by
    unfold openChannel
    split
    · dsimp only
      split <;> simp [channelEffect, hne]
    · simp
  have hdeclare : ∀ call ∈ (base.declareExchange entry.2.channel entry.1 entry.2.type
      (replies entry.1).declareReply).calls, channelEffect h c call = none := by
    unfold declareExchange
    split
    · intro call hcall
      obtain rfl := List.mem_singleton.mp hcall
      simp only [channelEffect]
      rw [if_neg fun hsame => hne ⟨hsame.1, hsame.2.1⟩]
    · simp
  unfold entryCalls
  dsimp only
  split
  · intro call hcall
    exact (List.mem_append.mp hcall).elim (hdeclare call) (hopen call)
  · exact hopen

/-- The calls for an entry whose channel is closed. -/
theorem entryCalls_noReopen {base : ConnectionBase} (hup : base.isConnected = true)
    (replies : Bytes → ChannelReplies) (entry : Bytes × ExchangeProperties)
    {calls : List AmqpCall} (hguarded : Guarded NoReopen calls)
    (hclosed : channelIsOpen base.conn entry.2.channel calls = false) :
    Guarded NoReopen (entryCalls base replies entry ++ calls) ∧
      channelIsOpen base.conn entry.2.channel (entryCalls base replies entry ++ calls) =
        leftOpen base replies entry := by
  have hcode := openCode_of_connected hup replies entry
  -- the open comes first, so it is the only call that needs an argument
  have hfirst : ∀ new : List AmqpCall,
      (∀ call ∈ new, ∀ conn channel reply, call ≠ .channelOpen conn channel reply) →
      Guarded NoReopen (new ++ .channelOpen base.conn entry.2.channel
        (replies entry.1).openReply :: calls) := by
    intro new hnew
    refine Guarded.append (fun call hcall => noReopen_of_not_open (hnew call hcall)) ⟨?_, hguarded⟩
    rintro _ _ _ ⟨⟩
    exact hclosed
  cases hgood : noError (openCode base replies entry) with
  | true =>
      have hreply : decodeRpcReply (replies entry.1).openReply = .allGood := by
        rw [← hcode]
        simpa using hgood
      have hopened : (base.openChannel entry.2.channel (replies entry.1).openReply
          (replies entry.1).closeOkStatus).calls =
          [.channelOpen base.conn entry.2.channel (replies entry.1).openReply] := by
        simp [openChannel, hup, hreply]
      have hnow : channelIsOpen base.conn entry.2.channel
          (.channelOpen base.conn entry.2.channel (replies entry.1).openReply :: calls) = true := by
        simp [channelIsOpen_cons, channelEffect, hreply]
      cases hdeclare : entry.2.isDeclare with
      | false =>
          have heq : entryCalls base replies entry =
              [.channelOpen base.conn entry.2.channel (replies entry.1).openReply] := by
            simp [entryCalls, hdeclare, hopened]
          rw [heq]
          exact ⟨hfirst [] (by simp), by simpa [leftOpen, hgood, hdeclare] using hnow⟩
      | true =>
          have heq : entryCalls base replies entry =
              [.exchangeDeclare base.conn entry.2.channel (cstringBytes entry.1)
                (cstringBytes entry.2.type) (replies entry.1).declareReply,
                .channelOpen base.conn entry.2.channel (replies entry.1).openReply] := by
            have hgood' := hgood
            unfold openCode at hgood'
            simp [entryCalls, hdeclare, hgood', hopened, declareExchange, hup]
          rw [heq]
          refine ⟨hfirst [_] (by simp), ?_⟩
          rw [List.cons_append, List.cons_append, List.nil_append, channelIsOpen_cons, hnow]
          by_cases hexc : decodeRpcReply (replies entry.1).declareReply = .channelException
          · simp [channelEffect, hexc, leftOpen, hdeclare]
          · simp [channelEffect, hexc, leftOpen, hgood]
  | false =>
      have hbad : decodeRpcReply (replies entry.1).openReply ≠ .allGood := by
        rw [← hcode]
        simpa using hgood
      have heq : entryCalls base replies entry =
          (base.openChannel entry.2.channel (replies entry.1).openReply
            (replies entry.1).closeOkStatus).calls := by
        have hgood' := hgood
        unfold openCode at hgood'
        simp [entryCalls, hgood']
      have hleft : leftOpen base replies entry = false := by simp [leftOpen, hgood]
      rw [heq, hleft]
      by_cases hexc : decodeRpcReply (replies entry.1).openReply = .channelException
      · have hcalls : (base.openChannel entry.2.channel (replies entry.1).openReply
            (replies entry.1).closeOkStatus).calls =
            [.sendCloseOk base.conn entry.2.channel (replies entry.1).closeOkStatus,
              .channelOpen base.conn entry.2.channel (replies entry.1).openReply] := by
          simp [openChannel, hup, hexc]
        rw [hcalls]
        exact ⟨hfirst [_] (by simp), by simp [channelIsOpen_cons, channelEffect, hexc]⟩
      · have hcalls : (base.openChannel entry.2.channel (replies entry.1).openReply
            (replies entry.1).closeOkStatus).calls =
            [.channelOpen base.conn entry.2.channel (replies entry.1).openReply] := by
          simp [openChannel, hup, hexc]
        rw [hcalls]
        exact ⟨hfirst [] (by simp),
          by simp [channelIsOpen_cons, channelEffect, hexc, hbad, hclosed]⟩

/-- A pass over closed channels, all of them distinct, opens none of them
twice. -/
theorem loop_noReopen {base : ConnectionBase} (hup : base.isConnected = true)
    (replies : Bytes → ChannelReplies) (entries : ExchangeList) {calls : List AmqpCall}
    (hguarded : Guarded NoReopen calls)
    (hdistinct : (entries.map fun entry => entry.2.channel).Nodup)
    (hclosed : ∀ entry ∈ entries, channelIsOpen base.conn entry.2.channel calls = false) :
    Guarded NoReopen (entries.reverse.flatMap (entryCalls base replies) ++ calls) ∧
      (∀ entry ∈ entries, channelIsOpen base.conn entry.2.channel
        (entries.reverse.flatMap (entryCalls base replies) ++ calls) =
          leftOpen base replies entry) ∧
      ∀ h c, (∀ entry ∈ entries, ¬(base.conn = h ∧ entry.2.channel = c)) →
        channelIsOpen h c (entries.reverse.flatMap (entryCalls base replies) ++ calls) =
          channelIsOpen h c calls := by
  -- induction on the entries done so far, the last of which made the newest calls
  induction entries using List.reverseRecOn with
  | nil => exact ⟨hguarded, by simp, by simp⟩
  | append_singleton done entry ih =>
      rw [List.map_append, List.nodup_append] at hdistinct
      obtain ⟨hdone, -, hdisjoint⟩ := hdistinct
      have hother : ∀ entry' ∈ done, entry'.2.channel ≠ entry.2.channel := by
        intro entry' hentry'
        exact hdisjoint _ (List.mem_map_of_mem hentry') _ (by simp)
      obtain ⟨hbefore, hleft, hframe⟩ := ih hdone fun entry' hentry' =>
        hclosed entry' (List.mem_append_left _ hentry')
      have hsplit : (done ++ [entry]).reverse.flatMap (entryCalls base replies) ++ calls =
          entryCalls base replies entry ++
            (done.reverse.flatMap (entryCalls base replies) ++ calls) := by
        simp
      have hstill : channelIsOpen base.conn entry.2.channel
          (done.reverse.flatMap (entryCalls base replies) ++ calls) = false := by
        rw [hframe _ _ fun entry' hentry' hsame => hother entry' hentry' hsame.2]
        exact hclosed entry (by simp)
      obtain ⟨hafter, hopen⟩ := entryCalls_noReopen hup replies entry hbefore hstill
      rw [hsplit]
      refine ⟨hafter, ?_, ?_⟩
      · intro entry' hentry'
        rcases List.mem_append.mp hentry' with hmem | hmem
        · rw [channelIsOpen_append (channelEffect_entryCalls fun hsame =>
            hother entry' hmem hsame.2.symm)]
          exact hleft entry' hmem
        · obtain rfl := List.mem_singleton.mp hmem
          exact hopen
      · intro h c hne
        rw [channelIsOpen_append (channelEffect_entryCalls (hne entry (by simp)))]
        exact hframe h c fun entry' hentry' => hne entry' (List.mem_append_left _ hentry')

/-! ### The conditions -/

/-- No channel of the table is open on the current connection. -/
def NoneOpen (s : ProducerState) : Prop :=
  isConnected s = true → ∀ entry ∈ s.exchangeList,
    channelIsOpen (currentConn s) entry.2.channel s.calls = false

/-- An exchange is added or declared again only while no channel of the table is
open. -/
def ClearsFresh (s : ProducerState) : Action → Prop
  | .declareExchange .. => NoneOpen s
  | .send call => s.exchangeList.lookup call.exchange = none → NoneOpen s
  | _ => True

/-- A pass of `connectChannels` that is refused a channel leaves none open, unless
a server failure ends the connection. -/
def NoMixedPass (s : ProducerState) : Action → Prop
  | .worker input => s.worker = .openChannels → ∀ base ∈ s.connection,
      (∃ entry ∈ s.exchangeList, noError (openCode base input.channels entry) = false) →
        (∃ entry ∈ s.exchangeList, entryFails base input.channels entry = true) ∨
          ∀ entry ∈ s.exchangeList, leftOpen base input.channels entry = false
  | _ => True

instance (s : ProducerState) : Decidable (NoneOpen s) := inferInstanceAs (Decidable (_ → _))

instance (s : ProducerState) : (action : Action) → Decidable (ClearsFresh s action)
  | .declareExchange .. => inferInstanceAs (Decidable (NoneOpen s))
  | .send _ => inferInstanceAs (Decidable (_ → _))
  | .worker _ | .begin _ | .sendPush _ | .control .. => inferInstanceAs (Decidable True)

instance (s : ProducerState) : (action : Action) → Decidable (NoMixedPass s action)
  | .worker _ => inferInstanceAs (Decidable (_ → ∀ base ∈ _, _))
  | .declareExchange .. | .send _ | .begin _ | .sendPush _ | .control .. =>
      inferInstanceAs (Decidable True)

/-! ### One step -/

/-- Places from which the worker may come to `connectChannels` on the connection
it has. -/
def WorkerPc.stays : WorkerPc → Bool
  | .none | .close _ => false
  | _ => true

/-- Places in `connectChannels`. -/
def WorkerPc.opening : WorkerPc → Bool
  | .guardConnected | .guardRunning | .openChannels => true
  | _ => false

/-- While the flag is down no channel of the table is open, and it is down in
`connectChannels`. -/
structure ReopenFacts (s : ProducerState) : Prop where
  below : ∀ conn channel reply, .channelOpen conn channel reply ∈ s.calls →
    channel < s.curChannelNumber
  flagged : s.worker.opening = true → s.channelsConnected = false
  fresh : s.worker.stays = true → s.channelsConnected = false → NoneOpen s
  guarded : Guarded NoReopen s.calls

/-- A step that opens no channel and keeps the table. -/
theorem ReopenFacts.of_frame {s s' : ProducerState} (hfacts : ReopenFacts s)
    (new : List AmqpCall) (hcalls : s'.calls = new ++ s.calls)
    (hnew : ∀ conn channel reply, .channelOpen conn channel reply ∉ new)
    (hnumber : s'.curChannelNumber = s.curChannelNumber)
    (hflagged : s'.worker.opening = true → s'.channelsConnected = false)
    (hfresh : s'.worker.stays = true → s'.channelsConnected = false → NoneOpen s') :
    ReopenFacts s' := by
  refine ⟨?_, hflagged, hfresh, ?_⟩
  · rw [hcalls, hnumber]
    intro conn channel reply hmem
    exact hfacts.below conn channel reply (mem_open_of_append hnew conn channel reply hmem)
  · rw [hcalls]
    exact guarded_of_not_open hfacts.guarded hnew

/-- Nothing is open on a closed connection. -/
theorem noneOpen_of_down {s : ProducerState} (hdown : isConnected s = false) : NoneOpen s := by
  intro hup
  rw [hdown] at hup
  cases hup

/-- A pass of `connectChannels` while the flag is down. -/
theorem ReopenFacts.loop {s : ProducerState} (hfacts : ReopenFacts s) (htable : TableFacts s)
    (hnone : NoneOpen s) {base : ConnectionBase} (hbase : s.connection = some base)
    (replies : Bytes → ChannelReplies) {order : ExchangeList}
    (horder : order.Perm s.exchangeList) :
    (∀ conn channel reply, .channelOpen conn channel reply ∈
      (connectLoop base replies order true).2 ++ s.calls → channel < s.curChannelNumber) ∧
    Guarded NoReopen ((connectLoop base replies order true).2 ++ s.calls) ∧
    ∀ good, (connectLoop base replies order true).1 = .finished good →
      base.isConnected = true → ∀ entry ∈ s.exchangeList,
        channelIsOpen base.conn entry.2.channel
          ((connectLoop base replies order true).2 ++ s.calls) = leftOpen base replies entry := by
  have hfresh := htable.fresh horder
  cases hup : base.isConnected with
  | false =>
      rw [(connectLoop_uses base replies order true).2 hup]
      exact ⟨hfacts.below, hfacts.guarded, by simp⟩
  | true =>
      have hclosed : ∀ entry ∈ order,
          channelIsOpen base.conn entry.2.channel s.calls = false := by
        intro entry hentry
        have hconn : currentConn s = base.conn := by simp [currentConn, hbase]
        rw [← hconn]
        refine hnone ?_ entry (horder.mem_iff.mp hentry)
        rw [isConnected, hbase]
        exact hup
      have hdistinct : (order.map fun entry => entry.2.channel).Nodup :=
        (horder.map _).nodup_iff.mpr htable.distinct
      obtain ⟨done, post, hsplit, hcalls, hfinished⟩ := connectLoop_spec base replies order true
      have hdone : notConnected done = done := by
        apply notConnected_eq_self
        intro entry hentry
        exact hfresh entry (by rw [hsplit]; exact List.mem_append_left _ hentry)
      rw [hdone] at hcalls
      have hsub : ∀ entry ∈ done, entry ∈ order := fun entry hentry => by
        rw [hsplit]
        exact List.mem_append_left _ hentry
      rw [hsplit, List.map_append, List.nodup_append] at hdistinct
      obtain ⟨hguarded, hleft, -⟩ := loop_noReopen hup replies done hfacts.guarded hdistinct.1
        fun entry hentry => hclosed entry (hsub entry hentry)
      refine ⟨?_, by rw [hcalls]; exact hguarded, ?_⟩
      · intro conn channel reply hmem
        rcases List.mem_append.mp hmem with h | h
        · obtain ⟨-, entry, hentry, rfl, -⟩ := (connectLoop_opens hup replies hfresh).1 _ _ _ h
          exact (htable.numbered entry (horder.mem_iff.mp hentry)).2
        · exact hfacts.below conn channel reply h
      · intro good hgood _ entry hentry
        obtain ⟨hpost, -⟩ := hfinished good hgood
        rw [hpost, List.append_nil] at hsplit
        rw [hcalls]
        exact hleft entry (by rw [← hsplit]; exact horder.mem_iff.mpr hentry)

/-- A pass that finishes without setting the flag was refused a channel, and met
no server failure. -/
theorem refused_of_finished {s : ProducerState} (htable : TableFacts s) {base : ConnectionBase}
    {replies : Bytes → ChannelReplies} {order : ExchangeList} {allGood : Bool}
    (horder : order.Perm s.exchangeList)
    (hloop : (connectLoop base replies order true).1 = .finished allGood)
    (hbad : allGood = false) :
    (∃ entry ∈ s.exchangeList, noError (openCode base replies entry) = false) ∧
      ∀ entry ∈ s.exchangeList, entryFails base replies entry = false := by
  obtain ⟨hgood, hnone⟩ := htable.finished_iff horder hloop
  refine ⟨?_, hnone⟩
  by_contra hrefused
  have hall : ∀ entry ∈ s.exchangeList, openCode base replies entry = .allGood := by
    intro entry hentry
    by_contra hcode
    exact hrefused ⟨entry, hentry, by simpa using hcode⟩
  rw [hgood.mpr hall] at hbad
  cases hbad

/-- A step of the worker keeps the reopen facts. -/
theorem ReopenFacts.worker {s s' : ProducerState} {input : WorkerInput} (hfacts : ReopenFacts s)
    (htable : TableFacts s) (hhandles : HandleFacts s)
    (hmixed : NoMixedPass s (.worker input)) (hmove : WorkerMove s input s') :
    ReopenFacts s' := by
  -- the new handle has no history
  have hconnect : ∀ base, s.connection = some base → ∀ c,
      channelIsOpen (base.connect s.handles input.connect).base.conn c
        ((base.connect s.handles input.connect).calls ++ s.calls) = false := by
    intro base hbase c
    obtain ⟨-, hconn, -⟩ := connect_handle (hhandles.plain base hbase) s.handles input.connect
    rw [hconn]
    have hnothing : channelIsOpen (some s.handles) c (s.calls ++ []) = false := by
      rw [channelIsOpen_append]
      · rfl
      · intro call hcall
        refine channelEffect_of_handle_ne fun heq => ?_
        have := hhandles.calls call hcall s.handles heq
        omega
    rw [List.append_nil] at hnothing
    refine channelIsOpen_append_of_closed (fun call hcall heffect => ?_) hnothing
    obtain ⟨reply, rfl, -⟩ := channelEffect_eq_true heffect
    exact not_open_connect base s.handles input.connect _ _ _ hcall
  cases hmove with
  | goto next hnext =>
      refine hfacts.of_frame [] rfl (by simp) rfl ?_ ?_
      · intro hopening
        cases hnext with
        | channelsOff hpc hflag => exact hflag
        | guardConnected hpc | guardRunning hpc => exact hfacts.flagged (by rw [hpc]; rfl)
        | clearEmpty caller => cases caller <;> cases hopening
        | _ => cases hopening
      · intro _ hflag
        have hstays : s.worker.stays = true := by
          cases hnext <;> simp_all [WorkerPc.stays]
        exact hfacts.fresh hstays hflag
  | crash => exact hfacts.of_frame [] rfl (by simp) rfl hfacts.flagged hfacts.fresh
  | connected base hpc hbase hcode =>
      refine hfacts.of_frame _ rfl (not_open_connect _ _ _) rfl (by rintro ⟨⟩)
        fun _ _ _ entry _ => ?_
      exact hconnect base hbase entry.2.channel
  | connectFailed base hpc hbase hcode =>
      refine hfacts.of_frame _ rfl (not_open_connect _ _ _) rfl (by rintro ⟨⟩)
        fun _ _ _ entry _ => ?_
      exact hconnect base hbase entry.2.channel
  | looked hpc hset =>
      exact hfacts.of_frame [] rfl (by simp) rfl (by rintro ⟨⟩) fun _ hflag =>
        absurd (hset.symm.trans hflag) (by decide)
  | openFailed base hpc horder hbase hloop =>
      have hnone := hfacts.fresh (by rw [hpc]; rfl) (hfacts.flagged (by rw [hpc]; rfl))
      obtain ⟨hbelow, hguarded, -⟩ := hfacts.loop htable hnone hbase input.channels horder
      exact ⟨hbelow, by rintro ⟨⟩, by rintro ⟨⟩, hguarded⟩
  | opened base allGood hpc horder hbase hloop =>
      have hnone := hfacts.fresh (by rw [hpc]; rfl) (hfacts.flagged (by rw [hpc]; rfl))
      obtain ⟨hbelow, hguarded, hleft⟩ := hfacts.loop htable hnone hbase input.channels horder
      refine ⟨hbelow, by rintro ⟨⟩, ?_, hguarded⟩
      intro _ hflag hup entry hentry
      have hup : base.isConnected = true := by
        rwa [isConnected, show s.connection = some base from hbase] at hup
      have hconn : currentConn s = base.conn := by simp [currentConn, hbase]
      show channelIsOpen (currentConn s) entry.2.channel _ = false
      rw [hconn, hleft allGood hloop hup entry hentry]
      -- the flag stays down only if some channel was refused
      obtain ⟨hrefused, hfine⟩ := refused_of_finished htable horder hloop
        (Bool.or_eq_false_iff.mp hflag).2
      rcases hmixed hpc base hbase hrefused with ⟨failed, hfailed, hfails⟩ | hnothing
      · rw [hfine failed hfailed] at hfails
        cases hfails
      · exact hnothing entry hentry
  | closed caller base hpc hbase =>
      exact hfacts.of_frame _ rfl (not_open_closeConnection _ _) rfl (by rintro ⟨⟩) fun _ _ =>
        noneOpen_of_down (closeConnection_isConnected _ _)
  | dropped caller object rest hpc hqueue =>
      exact hfacts.of_frame [] rfl (by simp) rfl (by rintro ⟨⟩) fun _ hflag =>
        hfacts.fresh (by rw [hpc]; rfl) hflag
  | published base object next hpc hbase hnext =>
      have hpublish : ∀ call ∈ (base.publishMessage object (s.objects object) input.now
          input.publishStatus).1.calls, isPublish call = true := by
        rcases publishMessage_cases base object (s.objects object) input.now
          input.publishStatus with ⟨-, heq⟩ | ⟨-, heq⟩ <;> simp [heq, isPublish]
      refine hfacts.of_frame _ rfl ?_ rfl ?_ ?_
      · intro conn channel reply hmem
        cases hpublish _ hmem
      · rcases hnext with ⟨-, rfl⟩ | ⟨-, rfl⟩ | ⟨-, -, rfl⟩ <;> rintro ⟨⟩
      · intro _ hflag hup entry hentry
        show channelIsOpen (currentConn s) entry.2.channel (_ ++ s.calls) = false
        rw [channelIsOpen_append]
        · exact hfacts.fresh (by rw [hpc]; rfl) hflag hup entry hentry
        · intro call hcall
          have := hpublish call hcall
          cases call <;> first | rfl | cases this
  | popped object rest hpc hqueue =>
      exact hfacts.of_frame [] rfl (by simp) rfl (by rintro ⟨⟩) fun _ hflag =>
        hfacts.fresh (by rw [hpc]; rfl) hflag

/-- A step of a user thread keeps the reopen facts. -/
theorem ReopenFacts.user {s s' : ProducerState} {action : Action} (hfacts : ReopenFacts s)
    (htable : TableFacts s) (hclears : ClearsFresh s action) (hmove : UserMove s action s') :
    ReopenFacts s' := by
  obtain ⟨hconnection, -, -, hworker, -, -, hcalls⟩ := hmove.frame
  have hup : isConnected s' = isConnected s := by rw [isConnected, isConnected, hconnection]
  have hconn : currentConn s' = currentConn s := by rw [currentConn, currentConn, hconnection]
  have hnumber : s.curChannelNumber ≤ s'.curChannelNumber := by
    cases hmove.tableEffect htable with
    | same _ _ _ hsame | redeclared _ _ _ _ _ hsame => omega
    | added _ _ _ _ _ _ _ _ hnext => omega
  -- either the flag was left alone or nothing was open when it was cleared
  have hcases : (s'.channelsConnected = s.channelsConnected ∧
      s'.exchangeList = s.exchangeList) ∨ (s'.channelsConnected = false ∧ NoneOpen s) := by
    cases hmove with
    | declareExchange exchange type =>
        refine .inr ⟨?_, hclears⟩
        unfold addExchangeTyped
        split <;> rfl
    | sendRefused call hchannel => exact absurd hchannel (htable.addExchange_nonneg _)
    | send call hchannel =>
        unfold addExchange
        split
        · next hname => exact .inr ⟨rfl, hclears hname⟩
        · exact .inl ⟨rfl, rfl⟩
    | push => exact .inl ⟨rfl, rfl⟩
    | pushFresh k call rest hpick hfound =>
        exact absurd hfound (lookup_ne_none (htable.registered call (mem_of_pick hpick)))
  refine ⟨?_, ?_, ?_, by rw [hcalls]; exact hfacts.guarded⟩
  · rw [hcalls]
    intro conn channel reply hmem
    have := hfacts.below conn channel reply hmem
    omega
  · rw [hworker]
    intro hopening
    rcases hcases with ⟨hflag, -⟩ | ⟨hflag, -⟩
    · rw [hflag]
      exact hfacts.flagged hopening
    · exact hflag
  · rw [hworker]
    intro hstays hflag
    have hnone : NoneOpen s := by
      rcases hcases with ⟨hsame, -⟩ | ⟨-, hnone⟩
      · exact hfacts.fresh hstays (hsame.symm.trans hflag)
      · exact hnone
    intro hconnected entry hentry
    rw [hup] at hconnected
    rw [hconn, hcalls]
    -- a new exchange is on a channel that was never opened
    cases hmove.tableEffect htable with
    | same _ hlist =>
        rw [hlist] at hentry
        exact hnone hconnected entry hentry
    | added _ name properties _ hchannel _ hlist =>
        rw [hlist] at hentry
        rcases List.mem_append.mp hentry with h | h
        · exact hnone hconnected entry h
        · obtain rfl := List.mem_singleton.mp h
          by_contra hopen
          obtain ⟨reply, hmem, -⟩ :=
            exists_open_of_channelIsOpen (by simpa using hopen)
          have := hfacts.below _ _ _ hmem
          omega
    | redeclared _ name type hlist =>
        rw [hlist] at hentry
        obtain ⟨old, hold, rfl⟩ := List.mem_map.mp hentry
        have hsame := hnone hconnected old hold
        split <;> exact hsame

/-- A step of the only control call in flight keeps the reopen facts. -/
theorem ReopenFacts.control {s s' : ProducerState} {input : ControlInput} {pc : ControlPc}
    (hfacts : ReopenFacts s) (hcall : CallFacts s pc) (hmove : ControlMove s input pc s') :
    ReopenFacts s' := by
  have hrelease := not_open_releaseCalls s.connection input.closeReply
  cases hmove with
  | spawn restarting hworker =>
      -- the worker starts on a connection that is closed
      have hdown : isConnected s = false := by
        by_contra hup
        cases hcall.closed hworker (by simpa using hup)
      exact hfacts.of_frame [] rfl (by simp) rfl (by rintro ⟨⟩) fun _ _ => noneOpen_of_down hdown
  | joined =>
      exact hfacts.of_frame [] rfl (by simp) rfl (by rintro ⟨⟩) (by rintro ⟨⟩)
  | flag caller =>
      have hworker : s.worker = .none := hcall.phase.2
      refine hfacts.of_frame [] rfl (by simp) rfl (fun _ => rfl) fun hstays => ?_
      have hstays : s.worker.stays = true := hstays
      rw [hworker] at hstays
      cases hstays
  | closed =>
      exact hfacts.of_frame _ rfl (not_open_closeConnection _ _) rfl hfacts.flagged fun _ _ =>
        noneOpen_of_down (closeConnection_isConnected _ _)
  | initConnection | destroyed =>
      exact hfacts.of_frame _ rfl hrelease rfl hfacts.flagged fun _ _ => noneOpen_of_down rfl
  | destroyChannels base hbase =>
      have hworker : s.worker = .none := hcall.phase.2
      refine hfacts.of_frame _ rfl ?_ rfl hfacts.flagged fun hstays => ?_
      · exact not_open_closeChannels base input.order
      · have hstays : s.worker.stays = true := hstays
        rw [hworker] at hstays
        cases hstays
  | _ => exact hfacts.of_frame [] rfl (by simp) rfl hfacts.flagged hfacts.fresh

/-! ### Whole runs -/

/-- With one control thread, if exchanges are added or declared again only while
no channel is open and no pass of `connectChannels` ends half way, no channel is
ever opened while it is open. -/
theorem never_reopens {s : ProducerState}
    (hs : system.ReachableUnder
      (fun s a => OneControl s a ∧ ClearsFresh s a ∧ NoMixedPass s a) s) :
    Guarded NoReopen s.calls := by
  have hfacts : ReopenFacts s := by
    refine hs.induction ReopenFacts ?_ ?_
    · exact ⟨by simp [system, initial], by rintro ⟨⟩, by rintro ⟨⟩, guarded_nil _⟩
    · intro s action s' hreach hallowed hfacts hstep
      obtain ⟨hstatus, hmove⟩ := move_of_step hstep
      have htable := tableFacts_reachable hreach
      cases hmove with
      | worker input _ hmove =>
          exact hfacts.worker htable (handleFacts_reachable hreach) hallowed.2.2 hmove
      | user _ _ hmove => exact hfacts.user htable hallowed.2.1 hmove
      | begin call => exact hfacts.of_frame [] rfl (by simp) rfl hfacts.flagged hfacts.fresh
      | control k input pc rest _ hpick hmove =>
          have hthreads := threadFacts_reachable (hreach.mono fun _ _ h => h.1) hstatus
          obtain ⟨hcontrols, rfl⟩ := hthreads.only hpick
          have heq : goOn { s with controls := [] } pc = s := by rw [goOn, ← hcontrols]
          refine ReopenFacts.control (s := { s with controls := [] }) ?_ ?_ hmove
          · exact hfacts.of_frame [] rfl (by simp) rfl hfacts.flagged hfacts.fresh
          · exact ThreadFacts.callFacts (heq ▸ hthreads) rfl
  exact hfacts.guarded

/-- Two exchanges, both opened on the same connection, and a second connection
after a server failure. -/
theorem never_reopens_run :
    ∃ s, system.ReachableUnder (fun s a => OneControl s a ∧ ClearsFresh s a ∧ NoMixedPass s a) s ∧
      channelIsOpen (some 1) 1 s.calls = true ∧ channelIsOpen (some 1) 2 s.calls = true ∧
      Guarded NoReopen s.calls := by
  obtain ⟨s, hs, htest⟩ := TransitionSystem.exists_reachableUnder_of_run (M := system)
    (fun s a => OneControl s a ∧ ClearsFresh s a ∧ NoMixedPass s a)
    (List.flatten [startUp, [.declareExchange [101] [102], .declareExchange [103] [102]],
      workerSteps 6,
      [.worker { order := [([101], { channel := 1, isDeclare := true, type := [102] }),
                   ([103], { channel := 2, isDeclare := true, type := [102] })],
                 channels := fun _ => { declareReply :=
                   { replyType := .libraryException, libraryError := statusSocketError } } }],
      workerSteps 9,
      [.worker { order := [([103], { channel := 2, isDeclare := true, type := [102] }),
                   ([101], { channel := 1, isDeclare := true, type := [102] })] }]])
    (fun s => channelIsOpen (some 1) 1 s.calls && channelIsOpen (some 1) 2 s.calls)
    (by decide +kernel)
  obtain ⟨hfirst, hsecond⟩ := Bool.and_eq_true_iff.mp htest
  exact ⟨s, hs, hfirst, hsecond, never_reopens hs⟩

/-- The call before the last one opened a channel that was open. -/
def reopenedBefore (s : ProducerState) : Bool :=
  match s.calls with
  | _ :: .channelOpen conn channel _ :: past => channelIsOpen conn channel past
  | _ => false

/-- An exchange is added while the channel of another one is open: the next pass
opens both. -/
theorem reopens_after_add :
    ∃ s, system.ReachableUnder OneControl s ∧ ¬Guarded NoReopen s.calls := by
  obtain ⟨s, hs, htest⟩ := TransitionSystem.exists_reachableUnder_of_run (M := system) OneControl
    (List.flatten [startUp, [.declareExchange [101] [102]], workerSteps 6,
      [.worker { order := [([101], { channel := 1, isDeclare := true, type := [102] })] },
        .declareExchange [103] [102]], workerSteps 7,
      [.worker { order := [([103], { channel := 2, isDeclare := true, type := [102] }),
                   ([101], { channel := 1, isDeclare := true, type := [102] })] }]])
    reopenedBefore (by decide +kernel)
  refine ⟨s, hs, fun hguarded => ?_⟩
  unfold reopenedBefore at htest
  split at htest
  · next conn channel reply past hcalls =>
      rw [hcalls] at hguarded
      rw [hguarded.2.1 conn channel reply rfl] at htest
      cases htest
  · cases htest

end Producer
end HareCpp
