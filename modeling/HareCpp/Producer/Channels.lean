import HareCpp.Producer.Handles
import HareCpp.Producer.Publishing

/-!
# Channels are set up before messages go out

When may the worker publish?  It looks after its channels once per iteration,
and three things go wrong between that look and the publish: the flag it looks
at may date from a connection that is gone, `connectChannels` may return early
because `Stop` was called, and an exchange may be added, or its channel be
refused, without the publish being held back.  `CleanConnect`, `NotSkipped` and
`ServedChannel` are the conditions under which these do not happen.

* `ChannelFacts` — what the flag, the last look and the place of the worker say
  about the channels of the current connection.
* `channels_before_publish`, `publish_on_open_channel` — the two results.
-/

namespace HareCpp
namespace Producer

open Library ConnectionBase

/-! ### Looking after the channels -/

/-- The connection that the worker last looked after. -/
def lastLook : List Note → Option (Option Nat)
  | [] => none
  | .looked handle _ :: _ => some handle
  | _ :: past => lastLook past

/-- The channels that the last look did not cover: those of exchanges added
since, and those refused then. -/
def unserved : List Note → List Int
  | [] => []
  | .looked _ refused :: _ => refused
  | .added channel :: past => channel :: unserved past
  | _ :: past => unserved past

/-- Notes that say nothing about the channels change nothing. -/
theorem look_append (notes : List Note) {new : List Note}
    (hnew : ∀ note ∈ new, note.aboutTable = false) :
    lastLook (new ++ notes) = lastLook notes ∧ unserved (new ++ notes) = unserved notes := by
  induction new with
  | nil => exact ⟨rfl, rfl⟩
  | cons note rest ih =>
      have hnote := hnew note List.mem_cons_self
      obtain ⟨hlast, hunserved⟩ := ih fun n hn => hnew n (.tail _ hn)
      cases note with
      | connected | added | looked => cases hnote
      | pushed | dropped | apiReturned => exact ⟨hlast, hunserved⟩

/-- `m_connection` is connected, by handle `h`. -/
def ConnectedBy (s : ProducerState) (h : Nat) : Prop :=
  ∃ base, s.connection = some base ∧ base.isConnected = true ∧ base.conn = some h

theorem ConnectedBy.isConnected {s : ProducerState} {h : Nat} (hconn : ConnectedBy s h) :
    isConnected s = true := by
  obtain ⟨base, hbase, hup, -⟩ := hconn
  rw [Producer.isConnected, hbase]
  exact hup

theorem ConnectedBy.currentConn {s : ProducerState} {h : Nat} (hconn : ConnectedBy s h) :
    currentConn s = some h := by
  obtain ⟨base, hbase, -, hh⟩ := hconn
  rw [Producer.currentConn, hbase]
  exact hh

/-- `OpenChannel` on `channel` returned `ALL_GOOD` on the connection `h`. -/
def GoodOpen (calls : List AmqpCall) (h : Nat) (channel : Int) : Prop :=
  ∃ reply, .channelOpen (some h) channel reply ∈ calls ∧ decodeRpcReply reply = .allGood

theorem GoodOpen.mono {calls calls' : List AmqpCall} {h : Nat} {channel : Int}
    (hsub : ∀ call ∈ calls, call ∈ calls') (hopen : GoodOpen calls h channel) :
    GoodOpen calls' h channel := by
  obtain ⟨reply, hmem, hgood⟩ := hopen
  exact ⟨reply, hsub _ hmem, hgood⟩

/-- Every `OpenChannel` of the connection `h` that succeeded on the channel of
a declared exchange was followed by its declaration. -/
def Declared (calls : List AmqpCall) (h : Nat) (entry : Bytes × ExchangeProperties) : Prop :=
  entry.2.isDeclare = true → ∀ reply, .channelOpen (some h) entry.2.channel reply ∈ calls →
    decodeRpcReply reply = .allGood → ∃ type reply',
      .exchangeDeclare (some h) entry.2.channel (cstringBytes entry.1) type reply' ∈ calls

/-- Places between the look after the channels and the publish. -/
def WorkerPc.publishing : WorkerPc → Bool
  | .publishTest | .sizeTest | .front | .publish _ => true
  | _ => false

/-- Places in `closeConnection`, after `CloseConnection`. -/
def WorkerPc.afterDown : WorkerPc → Bool
  | .clearTest _ | .clearFront _ | .clearPop _ => true
  | _ => false

/-- What holds of the channels of the current connection. -/
structure ChannelFacts (s : ProducerState) : Prop where
  flag : s.channelsConnected = true → ∀ h, ConnectedBy s h →
    ∀ entry ∈ s.exchangeList, GoodOpen s.calls h entry.2.channel
  served : ∀ h, ConnectedBy s h → lastLook s.notes = some (some h) →
    ∀ entry ∈ s.exchangeList,
      GoodOpen s.calls h entry.2.channel ∨ entry.2.channel ∈ unserved s.notes
  opened : ∀ h, ConnectedBy s h → lastLook s.notes = some (some h) →
    ∀ table, .connected (some h) table ∈ s.notes → ∀ entry ∈ table,
      ∃ reply, .channelOpen (some h) entry.2.channel reply ∈ s.calls
  path : s.worker.publishing = true → ∀ h, ConnectedBy s h →
    lastLook s.notes = some (some h)
  down : s.worker.afterDown = true → isConnected s = false
  extending : ∀ h table, .connected (some h) table ∈ s.notes → Extends table s.exchangeList
  declared : ∀ h table, .connected (some h) table ∈ s.notes → ∀ entry ∈ table,
    Declared s.calls h entry

theorem channelFacts_initial : ChannelFacts initial := by
  have hnever : ∀ h, ¬ConnectedBy initial h := by
    rintro h ⟨base, hbase, -⟩
    cases hbase
  exact ⟨by simp [initial], fun h hh => absurd hh (hnever h), fun h hh => absurd hh (hnever h),
    fun _ h hh => absurd hh (hnever h), by simp [initial, WorkerPc.afterDown],
    by simp [initial], by simp [initial]⟩

/-- A step that opens no channel, adds no exchange and does not look after the
channels. -/
theorem ChannelFacts.of_frame {s s' : ProducerState} (hfacts : ChannelFacts s)
    (hlist : s'.exchangeList = s.exchangeList)
    (hflag : s'.channelsConnected = true → s.channelsConnected = true)
    (hconn : ∀ h, ConnectedBy s' h → ConnectedBy s h)
    (hcalls : ∀ call ∈ s.calls, call ∈ s'.calls)
    (hopens : ∀ conn channel reply, .channelOpen conn channel reply ∈ s'.calls →
      .channelOpen conn channel reply ∈ s.calls)
    (hlook : lastLook s'.notes = lastLook s.notes ∧ unserved s'.notes = unserved s.notes)
    (hconnects : ∀ h table, .connected h table ∈ s'.notes → .connected h table ∈ s.notes)
    (hpath : s'.worker.publishing = true → ∀ h, ConnectedBy s' h →
      lastLook s.notes = some (some h))
    (hdown : s'.worker.afterDown = true → isConnected s' = false) : ChannelFacts s' := by
  obtain ⟨hflagged, hserved, hopened, -, -, hextending, hdeclared⟩ := hfacts
  refine ⟨?_, ?_, ?_, ?_, hdown, ?_, ?_⟩
  · intro hset h hh
    rw [hlist]
    exact fun entry hentry => (hflagged (hflag hset) h (hconn h hh) entry hentry).mono hcalls
  · rw [hlook.1, hlook.2, hlist]
    intro h hh hlast entry hentry
    exact (hserved h (hconn h hh) hlast entry hentry).imp_left (GoodOpen.mono hcalls)
  · rw [hlook.1]
    intro h hh hlast table hnote entry hentry
    obtain ⟨reply, hmem⟩ := hopened h (hconn h hh) hlast table (hconnects _ _ hnote) entry hentry
    exact ⟨reply, hcalls _ hmem⟩
  · rw [hlook.1]
    exact hpath
  · rw [hlist]
    exact fun h table hnote => hextending h table (hconnects _ _ hnote)
  · intro h table hnote entry hentry hdeclare reply hopen hgood
    obtain ⟨type, reply', hmem⟩ := hdeclared h table (hconnects _ _ hnote) entry hentry hdeclare
      reply (hopens _ _ _ hopen) hgood
    exact ⟨type, reply', hcalls _ hmem⟩

/-! ### The conditions -/

/-- `Connect` is called with `m_channelsConnected` cleared. -/
def CleanConnect (s : ProducerState) : Action → Prop
  | .worker _ => s.worker = .connect → s.channelsConnected = false
  | _ => True

/-- `connectChannels` does not return early because of `Stop` on a connection
whose channels were never looked after. -/
def NotSkipped (s : ProducerState) : Action → Prop
  | .worker _ => s.worker = .guardRunning → s.threadRunning = false → isConnected s = true →
      lastLook s.notes = some (currentConn s)
  | _ => True

/-- The object that the worker is about to publish. -/
def WorkerPc.toPublish : WorkerPc → Option Nat
  | .publish object => some object
  | _ => Option.none

/-- A message is published only if its channel was there, and was not refused,
when the channels were last looked after. -/
def ServedChannel (s : ProducerState) : Action → Prop
  | .worker _ => ∀ object ∈ s.worker.toPublish, (s.objects object).channel ∉ unserved s.notes
  | _ => True

instance (s : ProducerState) : (action : Action) → Decidable (CleanConnect s action)
  | .worker _ => inferInstanceAs (Decidable (_ → _))
  | .begin _ | .declareExchange .. | .send _ | .sendPush _ | .control .. =>
      inferInstanceAs (Decidable True)

instance (s : ProducerState) : (action : Action) → Decidable (NotSkipped s action)
  | .worker _ => inferInstanceAs (Decidable (_ → _ → _ → _))
  | .begin _ | .declareExchange .. | .send _ | .sendPush _ | .control .. =>
      inferInstanceAs (Decidable True)

instance (s : ProducerState) : (action : Action) → Decidable (ServedChannel s action)
  | .worker _ => inferInstanceAs (Decidable (∀ object ∈ _, _))
  | .begin _ | .declareExchange .. | .send _ | .sendPush _ | .control .. =>
      inferInstanceAs (Decidable True)

/-! ### One step -/

/-- The declarations after a pass of `connectChannels`. -/
theorem ChannelFacts.declared_loop {s : ProducerState} (hfacts : ChannelFacts s)
    (htable : TableFacts s) {base : ConnectionBase} (hup : base.isConnected = true)
    (replies : Bytes → ChannelReplies) {order : ExchangeList} (horder : order.Perm s.exchangeList) :
    ∀ h table, .connected (some h) table ∈ s.notes → ∀ entry ∈ table,
      Declared ((connectLoop base replies order true).2 ++ s.calls) h entry := by
  have hfresh := htable.fresh horder
  intro h table hnote entry hentry hdeclare reply hopen hgood
  rcases List.mem_append.mp hopen with hnew | hold
  · obtain ⟨hconn, entry', hentry', hchannel, -, hdeclared⟩ :=
      (connectLoop_opens hup replies hfresh).1 _ _ _ hnew
    -- channels are distinct, so the entry just opened is this one
    obtain ⟨now, hnow, hname, hsame, hstill⟩ := hfacts.extending h table hnote entry hentry
    have heq : entry' = now := by
      have hmem : entry' ∈ s.exchangeList := horder.mem_iff.mp hentry'
      exact List.inj_on_of_nodup_map htable.distinct hmem hnow (by rw [← hchannel, hsame])
    subst heq
    have hcall := hdeclared (hstill hdeclare) hgood
    rw [← hconn, hsame, hname] at hcall
    exact ⟨_, _, List.mem_append_left _ hcall⟩
  · obtain ⟨type, reply', hmem⟩ := hfacts.declared h table hnote entry hentry hdeclare reply hold
      hgood
    exact ⟨type, reply', List.mem_append_right _ hmem⟩

/-- A pass of `connectChannels` that finishes. -/
theorem ChannelFacts.opened_step {s : ProducerState} (hfacts : ChannelFacts s)
    (htable : TableFacts s) {base : ConnectionBase} (hbase : s.connection = some base)
    (replies : Bytes → ChannelReplies) {order : ExchangeList} (horder : order.Perm s.exchangeList)
    {allGood : Bool} (hloop : (connectLoop base replies order true).1 = .finished allGood) :
    ChannelFacts { s with
      calls := (connectLoop base replies order true).2 ++ s.calls
      worker := .publishTest
      channelsConnected := s.channelsConnected || allGood
      notes := .looked base.conn (refusedChannels base replies order) :: s.notes } := by
  have hfresh := htable.fresh horder
  have hconnects : ∀ {h : Nat} {table : ExchangeList}, .connected (some h) table ∈
      Note.looked base.conn (refusedChannels base replies order) :: s.notes →
      .connected (some h) table ∈ s.notes := by
    intro h table hnote
    simpa using hnote
  have hsub : ∀ call ∈ s.calls, call ∈ (connectLoop base replies order true).2 ++ s.calls :=
    fun call hcall => List.mem_append_right _ hcall
  cases hup : base.isConnected with
  | false =>
      have hnever : ∀ h, ¬ConnectedBy s h := by
        rintro h ⟨base', hbase', hup', -⟩
        obtain rfl := Option.some.inj (hbase.symm.trans hbase')
        rw [hup] at hup'
        cases hup'
      rw [(connectLoop_uses base replies order true).2 hup]
      exact ⟨fun _ h hh => absurd hh (hnever h), fun h hh => absurd hh (hnever h),
        fun h hh => absurd hh (hnever h), fun _ h hh => absurd hh (hnever h), by rintro ⟨⟩,
        fun h table hnote => hfacts.extending h table (hconnects hnote),
        fun h table hnote => hfacts.declared h table (hconnects hnote)⟩
  | true =>
      obtain ⟨hall, hgood⟩ := (connectLoop_opens hup replies hfresh).2 allGood hloop
      have hconn : ∀ {h : Nat}, ConnectedBy s h → base.conn = some h := by
        rintro h ⟨base', hbase', -, hh⟩
        obtain rfl := Option.some.inj (hbase.symm.trans hbase')
        exact hh
      have hissued : ∀ h, ConnectedBy s h → ∀ entry ∈ s.exchangeList,
          .channelOpen (some h) entry.2.channel (replies entry.1).openReply ∈
            (connectLoop base replies order true).2 ++ s.calls := by
        intro h hh entry hentry
        rw [← hconn hh]
        exact List.mem_append_left _ (hall entry (horder.mem_iff.mpr hentry))
      refine ⟨?_, ?_, ?_, ?_, by rintro ⟨⟩, ?_, ?_⟩
      · intro hset h hh entry hentry
        rcases Bool.or_eq_true_iff.mp hset with hbefore | hnow
        · exact (hfacts.flag hbefore h hh entry hentry).mono hsub
        · exact ⟨_, hissued h hh entry hentry, hgood hnow entry (horder.mem_iff.mpr hentry)⟩
      · intro h hh _ entry hentry
        by_cases hcode : decodeRpcReply (replies entry.1).openReply = .allGood
        · exact .inl ⟨_, hissued h hh entry hentry, hcode⟩
        · right
          show entry.2.channel ∈ refusedChannels base replies order
          refine List.mem_map.mpr ⟨entry, List.mem_filter.mpr
            ⟨horder.mem_iff.mpr hentry, ?_⟩, rfl⟩
          rw [openCode_of_connected hup]
          simpa using hcode
      · intro h hh _ table hnote entry hentry
        obtain ⟨now, hnow, -, hsame, -⟩ :=
          hfacts.extending h table (hconnects hnote) entry hentry
        rw [← hsame]
        exact ⟨_, hissued h hh now hnow⟩
      · intro _ h hh
        show some base.conn = some (some h)
        rw [hconn hh]
      · exact fun h table hnote => hfacts.extending h table (hconnects hnote)
      · exact fun h table hnote =>
          hfacts.declared_loop htable hup replies horder h table (hconnects hnote)

theorem mem_of_lastLook {notes : List Note} {conn : Option Nat}
    (hlast : lastLook notes = some conn) : ∃ refused, .looked conn refused ∈ notes := by
  induction notes with
  | nil => cases hlast
  | cons note past ih =>
      cases note with
      | looked handle refused =>
          obtain rfl : handle = conn := Option.some.inj hlast
          exact ⟨refused, List.mem_cons_self⟩
      | _ =>
          obtain ⟨refused, hmem⟩ := ih hlast
          exact ⟨refused, .tail _ hmem⟩

theorem not_open_closeChannels (base : ConnectionBase) (entries : ExchangeList) :
    ∀ conn channel reply, .channelOpen conn channel reply ∉ closeChannels base entries := by
  intro conn channel reply
  induction entries with
  | nil => simp [closeChannels]
  | cons entry rest ih =>
      intro hmem
      rcases List.mem_append.mp hmem with h | h
      · exact ih h
      · unfold closeChannel at h
        split at h <;> simp at h

/-- The worker moves on without changing anything. -/
theorem ChannelFacts.goto {s : ProducerState} (hfacts : ChannelFacts s) {input : WorkerInput}
    (hskip : NotSkipped s (.worker input)) {next : WorkerPc} (hnext : WorkerGoto s next) :
    ChannelFacts { s with worker := next } := by
  have hon : ∀ {pc : WorkerPc}, s.worker = pc → pc.publishing = true → ∀ h, ConnectedBy s h →
      lastLook s.notes = some (some h) := by
    intro pc hpc hpublishing
    exact hfacts.path (by rw [hpc]; exact hpublishing)
  have hoff : ∀ {pc : WorkerPc}, s.worker = pc → pc.afterDown = true → isConnected s = false := by
    intro pc hpc hafter
    exact hfacts.down (by rw [hpc]; exact hafter)
  refine hfacts.of_frame rfl id (fun _ h => h) (fun _ h => h) (fun _ _ _ h => h) ⟨rfl, rfl⟩
    (fun _ _ h => h) ?_ ?_
  · intro hpublishing h hh
    have hup : isConnected s = true := ConnectedBy.isConnected (s := s) hh
    cases hnext with
    | guardNotConnected hpc hdown =>
        rw [hdown] at hup
        cases hup
    | guardStopped hpc hrunning =>
        rw [hskip hpc hrunning hup, ConnectedBy.currentConn (s := s) hh]
    | clearEmpty caller hpc =>
        rw [hoff hpc rfl] at hup
        cases hup
    | publishOn hpc => exact hon hpc rfl h hh
    | sizeSome hpc => exact hon hpc rfl h hh
    | front object rest hpc => exact hon hpc rfl h hh
    | _ => cases hpublishing
  · intro hafter
    cases hnext with
    | clearMore caller hpc => exact hoff hpc rfl
    | clearFront caller hpc => exact hoff hpc rfl
    | clearEmpty caller => cases caller <;> cases hafter
    | _ => cases hafter

/-- `Connect`, successful or not: the new handle has no history. -/
theorem ChannelFacts.connect {s : ProducerState} (hfacts : ChannelFacts s)
    (hhandles : HandleFacts s) (hflag : s.channelsConnected = false)
    (base base' : ConnectionBase) (replies : ConnectReplies) (next : WorkerPc)
    (hnext : next.publishing = false ∧ next.afterDown = false) (new : List Note)
    (hconn' : base'.conn = some s.handles)
    (hnew : new = [] ∨ new = [.connected (some s.handles) s.exchangeList]) :
    ChannelFacts { s with
      connection := some base'
      handles := s.handles + 1
      calls := (base.connect s.handles replies).calls ++ s.calls
      worker := next
      notes := new ++ s.notes } := by
  have hlook : lastLook (new ++ s.notes) = lastLook s.notes := by
    rcases hnew with rfl | rfl <;> rfl
  have hnever : ∀ {h : Nat}, base'.conn = some h → lastLook (new ++ s.notes) ≠ some (some h) := by
    intro h hh hlast
    rw [hlook] at hlast
    obtain ⟨refused, hmem⟩ := mem_of_lastLook hlast
    have hlt := hhandles.looks h refused hmem
    have heq : s.handles = h := Option.some.inj (hconn'.symm.trans hh)
    omega
  have hopens : ∀ conn channel reply, .channelOpen conn channel reply ∈
      (base.connect s.handles replies).calls ++ s.calls →
      .channelOpen conn channel reply ∈ s.calls :=
    mem_open_of_append (not_open_connect base s.handles replies)
  refine ⟨?_, ?_, ?_, ?_, ?_, ?_, ?_⟩
  · intro hset
    have hset : s.channelsConnected = true := hset
    rw [hflag] at hset
    cases hset
  · rintro h ⟨_, ⟨⟩, -, hh⟩ hlast
    exact absurd hlast (hnever hh)
  · rintro h ⟨_, ⟨⟩, -, hh⟩ hlast
    exact absurd hlast (hnever hh)
  · intro hpublishing
    have hpublishing : next.publishing = true := hpublishing
    rw [hnext.1] at hpublishing
    cases hpublishing
  · intro hafter
    have hafter : next.afterDown = true := hafter
    rw [hnext.2] at hafter
    cases hafter
  · intro h table hnote
    rcases List.mem_append.mp hnote with hmem | hmem
    · rcases hnew with rfl | rfl
      · cases hmem
      · cases List.mem_singleton.mp hmem
        exact Extends.refl _
    · exact hfacts.extending h table hmem
  · intro h table hnote entry hentry hdeclare reply hmember hgood
    have hopen := hopens _ _ _ hmember
    rcases List.mem_append.mp hnote with hmem | hmem
    · rcases hnew with rfl | rfl
      · cases hmem
      · cases List.mem_singleton.mp hmem
        -- no call has been made on the new handle yet
        have hlt : s.handles < s.handles := hhandles.calls _ hopen _ rfl
        omega
    · obtain ⟨type, reply', hcall⟩ := hfacts.declared h table hmem entry hentry hdeclare reply
        hopen hgood
      exact ⟨type, reply', List.mem_append_right _ hcall⟩

/-- The connection is closed or replaced. -/
theorem ChannelFacts.disconnect {s s' : ProducerState} (hfacts : ChannelFacts s)
    (hdown : isConnected s' = false) (hlist : s'.exchangeList = s.exchangeList)
    (hflag : s'.channelsConnected = s.channelsConnected) {new : List AmqpCall}
    (hcalls : s'.calls = new ++ s.calls)
    (hnew : ∀ conn channel reply, .channelOpen conn channel reply ∉ new)
    (hnotes : s'.notes = s.notes) : ChannelFacts s' := by
  have hnever : ∀ h, ¬ConnectedBy s' h := by
    intro h hh
    rw [hh.isConnected] at hdown
    cases hdown
  refine hfacts.of_frame hlist (by rw [hflag]; exact id) (fun h hh => absurd hh (hnever h)) ?_ ?_
    (by rw [hnotes]; exact ⟨rfl, rfl⟩) (by rw [hnotes]; exact fun _ _ h => h)
    (fun _ h hh => absurd hh (hnever h)) (fun _ => hdown)
  · rw [hcalls]
    exact fun call hcall => List.mem_append_right _ hcall
  · rw [hcalls]
    exact mem_open_of_append hnew

/-- A step of the worker keeps the channel facts. -/
theorem ChannelFacts.worker {s s' : ProducerState} {input : WorkerInput}
    (hfacts : ChannelFacts s) (htable : TableFacts s) (hhandles : HandleFacts s)
    (hclean : CleanConnect s (.worker input)) (hskip : NotSkipped s (.worker input))
    (hmove : WorkerMove s input s') : ChannelFacts s' := by
  cases hmove with
  | goto next hnext => exact hfacts.goto hskip hnext
  | crash =>
      exact hfacts.of_frame rfl id (fun _ h => h) (fun _ h => h) (fun _ _ _ h => h) ⟨rfl, rfl⟩
        (fun _ _ h => h) hfacts.path hfacts.down
  | connected base hpc hbase hcode =>
      obtain ⟨-, hconn, -⟩ :=
        connect_handle (hhandles.plain base hbase) s.handles input.connect
      exact hfacts.connect hhandles (hclean hpc) base _ input.connect .channelsTest ⟨rfl, rfl⟩
        [_] hconn (.inr (by rw [hconn]))
  | connectFailed base hpc hbase hcode =>
      obtain ⟨-, hconn, -⟩ :=
        connect_handle (hhandles.plain base hbase) s.handles input.connect
      exact hfacts.connect hhandles (hclean hpc) base _ input.connect .loopTest ⟨rfl, rfl⟩
        [] hconn (.inl rfl)
  | looked hpc hset =>
      have hconnects : ∀ {h : Nat} {table : ExchangeList}, .connected (some h) table ∈
          Note.looked (currentConn s) [] :: s.notes → .connected (some h) table ∈ s.notes := by
        intro h table hnote
        simpa using hnote
      refine ⟨hfacts.flag, fun h hh _ entry hentry => .inl (hfacts.flag hset h hh entry hentry),
        ?_, ?_, by rintro ⟨⟩, fun h table hnote => hfacts.extending h table (hconnects hnote),
        fun h table hnote => hfacts.declared h table (hconnects hnote)⟩
      · intro h hh _ table hnote entry hentry
        obtain ⟨now, hnow, -, hsame, -⟩ := hfacts.extending h table (hconnects hnote) entry hentry
        obtain ⟨reply, hopen, -⟩ := hfacts.flag hset h hh now hnow
        exact ⟨reply, hsame ▸ hopen⟩
      · intro _ h hh
        show some (currentConn s) = some (some h)
        rw [ConnectedBy.currentConn (s := s) hh]
  | openFailed base hpc horder hbase hloop =>
      have hsub : ∀ call ∈ s.calls,
          call ∈ (connectLoop base input.channels input.order true).2 ++ s.calls :=
        fun call hcall => List.mem_append_right _ hcall
      refine ⟨fun hset h hh entry hentry => (hfacts.flag hset h hh entry hentry).mono hsub,
        fun h hh hlast entry hentry =>
          (hfacts.served h hh hlast entry hentry).imp_left (GoodOpen.mono hsub),
        ?_, by rintro ⟨⟩, by rintro ⟨⟩, hfacts.extending, ?_⟩
      · intro h hh hlast table hnote entry hentry
        obtain ⟨reply, hopen⟩ := hfacts.opened h hh hlast table hnote entry hentry
        exact ⟨reply, hsub _ hopen⟩
      · cases hup : base.isConnected with
        | true => exact hfacts.declared_loop htable hup input.channels horder
        | false =>
            rw [(connectLoop_uses base input.channels input.order true).2 hup]
            exact hfacts.declared
  | opened base allGood hpc horder hbase hloop =>
      exact hfacts.opened_step htable hbase input.channels horder hloop
  | closed caller base hpc hbase =>
      exact hfacts.disconnect (closeConnection_isConnected base input.closeReply) rfl rfl rfl
        (not_open_closeConnection base input.closeReply) rfl
  | dropped caller object rest hpc hqueue =>
      exact hfacts.of_frame rfl id (fun _ h => h) (fun _ h => h) (fun _ _ _ h => h) ⟨rfl, rfl⟩
        (by simp) (by rintro ⟨⟩) (fun _ => hfacts.down (by rw [hpc]; rfl))
  | published base object next hpc hbase hnext =>
      have hplace : next.publishing = false ∧ next.afterDown = false := by
        rcases hnext with ⟨-, rfl⟩ | ⟨-, rfl⟩ | ⟨-, -, rfl⟩ <;> exact ⟨rfl, rfl⟩
      refine hfacts.of_frame rfl id (fun _ h => h) (fun _ h => List.mem_append_right _ h) ?_
        ⟨rfl, rfl⟩ (fun _ _ h => h) ?_ ?_
      · refine mem_open_of_append fun conn channel reply hmem => ?_
        rcases publishMessage_cases base object (s.objects object) input.now
          input.publishStatus with ⟨-, heq⟩ | ⟨-, heq⟩ <;> simp [heq] at hmem
      · intro h
        cases hplace.1.symm.trans h
      · intro h
        cases hplace.2.symm.trans h
  | popped object rest hpc hqueue =>
      exact hfacts.of_frame rfl id (fun _ h => h) (fun _ h => h) (fun _ _ _ h => h) ⟨rfl, rfl⟩
        (fun _ _ h => h) (by rintro ⟨⟩) (by rintro ⟨⟩)

/-- A step of a user thread keeps the channel facts. -/
theorem ChannelFacts.user {s s' : ProducerState} (hfacts : ChannelFacts s)
    (hframe : UserFrame s s') (heffect : TableEffect s s') : ChannelFacts s' := by
  obtain ⟨hconnection, -, -, hworker, -, -, hcalls⟩ := hframe
  have hextends := heffect.extends
  have hconn : ∀ h, ConnectedBy s' h ↔ ConnectedBy s h := by
    intro h
    rw [ConnectedBy, ConnectedBy, hconnection]
  have hisConnected : isConnected s' = isConnected s := by
    rw [isConnected, isConnected, hconnection]
  -- every case leaves the flag unset or the table as it is
  have hflag : s'.channelsConnected = true →
      s.channelsConnected = true ∧ s'.exchangeList = s.exchangeList := by
    intro hset
    cases heffect with
    | same new hlist hsame => exact ⟨hsame ▸ hset, hlist⟩
    | added new _ _ _ _ _ _ hunset =>
        rw [hunset] at hset
        cases hset
    | redeclared new _ _ _ hunset =>
        rw [hunset] at hset
        cases hset
  have hnotes : lastLook s'.notes = lastLook s.notes ∧
      (∀ channel ∈ unserved s.notes, channel ∈ unserved s'.notes) ∧
      (∀ h table, .connected h table ∈ s'.notes → .connected h table ∈ s.notes) ∧
      ∀ entry ∈ s'.exchangeList, (∃ old ∈ s.exchangeList, old.2.channel = entry.2.channel) ∨
        entry.2.channel ∈ unserved s'.notes := by
    have hplain : ∀ {new : List Note}, (∀ note ∈ new, note.aboutTable = false) →
        ∀ h table, Note.connected h table ∉ new := by
      intro new hnew h table hmem
      cases hnew _ hmem
    cases heffect with
    | same new hlist _ _ heq hnew =>
        obtain ⟨hlast, hunserved⟩ := look_append s.notes hnew
        rw [heq, hlast, hunserved, hlist]
        exact ⟨rfl, fun _ h => h, fun h table hmem =>
          (List.mem_append.mp hmem).resolve_left (hplain hnew h table),
          fun entry hentry => .inl ⟨entry, hentry, rfl⟩⟩
    | added new name properties _ hchannel _ hlist _ _ heq hnew =>
        obtain ⟨hlast, hunserved⟩ := look_append
          (.added s.curChannelNumber :: s.notes) hnew
        rw [heq, hlast, hunserved, hlist]
        refine ⟨rfl, fun _ h => .tail _ h, ?_, ?_⟩
        · intro h table hmem
          simpa using (List.mem_append.mp hmem).resolve_left (hplain hnew h table)
        · intro entry hentry
          rcases List.mem_append.mp hentry with h | h
          · exact .inl ⟨entry, h, rfl⟩
          · obtain rfl := List.mem_singleton.mp h
            right
            rw [hchannel]
            exact List.mem_cons_self
    | redeclared new name type hlist _ _ heq hnew =>
        obtain ⟨hlast, hunserved⟩ := look_append s.notes hnew
        rw [heq, hlast, hunserved, hlist]
        refine ⟨rfl, fun _ h => h, fun h table hmem =>
          (List.mem_append.mp hmem).resolve_left (hplain hnew h table), ?_⟩
        intro entry hentry
        obtain ⟨old, hold, rfl⟩ := List.mem_map.mp hentry
        refine .inl ⟨old, hold, ?_⟩
        split <;> rfl
  obtain ⟨hlast, hunserved, hconnects, hentries⟩ := hnotes
  refine ⟨?_, ?_, ?_, ?_, ?_, ?_, ?_⟩
  · intro hset h hh
    obtain ⟨hbefore, hlist⟩ := hflag hset
    rw [hlist, hcalls]
    exact hfacts.flag hbefore h ((hconn h).mp hh)
  · rw [hlast, hcalls]
    intro h hh hlook entry hentry
    rcases hentries entry hentry with ⟨old, hold, hsame⟩ | hnew
    · rw [← hsame]
      exact (hfacts.served h ((hconn h).mp hh) hlook old hold).imp_right (hunserved _)
    · exact .inr hnew
  · rw [hlast, hcalls]
    exact fun h hh hlook table hnote =>
      hfacts.opened h ((hconn h).mp hh) hlook table (hconnects _ _ hnote)
  · rw [hlast, hworker]
    exact fun hpublishing h hh => hfacts.path hpublishing h ((hconn h).mp hh)
  · rw [hworker, hisConnected]
    exact hfacts.down
  · exact fun h table hnote => (hfacts.extending h table (hconnects _ _ hnote)).trans hextends
  · rw [hcalls]
    exact fun h table hnote => hfacts.declared h table (hconnects _ _ hnote)

/-- A step of a control call keeps the channel facts. -/
theorem ChannelFacts.control {s s' : ProducerState} {input : ControlInput} {pc : ControlPc}
    (hfacts : ChannelFacts s) (hmove : ControlMove s input pc s') : ChannelFacts s' := by
  have hrelease := not_open_releaseCalls s.connection input.closeReply
  cases hmove with
  | closed _ next base hbase hpc =>
      exact hfacts.disconnect (closeConnection_isConnected base input.closeReply) rfl rfl rfl
        (not_open_closeConnection base input.closeReply) rfl
  | initConnection credentials => exact hfacts.disconnect rfl rfl rfl rfl hrelease rfl
  | destroyed => exact hfacts.disconnect rfl rfl rfl rfl hrelease rfl
  | destroyChannels base hbase =>
      exact hfacts.of_frame rfl id (fun _ h => h) (fun _ h => List.mem_append_right _ h)
        (mem_open_of_append (not_open_closeChannels base input.order)) ⟨rfl, rfl⟩
        (fun _ _ h => h) hfacts.path hfacts.down
  | spawn | joined =>
      exact hfacts.of_frame rfl id (fun _ h => h) (fun _ h => h) (fun _ _ _ h => h) ⟨rfl, rfl⟩
        (by simp [goOn, returnTo]) (by rintro ⟨⟩) (by rintro ⟨⟩)
  | flag =>
      exact hfacts.of_frame rfl (by rintro ⟨⟩) (fun _ h => h) (fun _ h => h) (fun _ _ _ h => h)
        ⟨rfl, rfl⟩ (fun _ _ h => h) hfacts.path hfacts.down
  | returned | dropped | initRunning =>
      exact hfacts.of_frame rfl id (fun _ h => h) (fun _ h => h) (fun _ _ _ h => h) ⟨rfl, rfl⟩
        (by simp [goOn, returnTo]) hfacts.path hfacts.down
  | _ =>
      exact hfacts.of_frame rfl id (fun _ h => h) (fun _ h => h) (fun _ _ _ h => h) ⟨rfl, rfl⟩
        (fun _ _ h => h) hfacts.path hfacts.down

/-- The channel facts hold in every state of a run in which `Connect` finds the
flag cleared and `connectChannels` is not skipped. -/
theorem channelFacts_reachable {allowed : ProducerState → Action → Prop}
    (hclean : ∀ s a, allowed s a → CleanConnect s a) (hskip : ∀ s a, allowed s a → NotSkipped s a)
    {s : ProducerState} (hs : system.ReachableUnder allowed s) : ChannelFacts s := by
  refine hs.induction ChannelFacts channelFacts_initial ?_
  intro s action s' hreach hallowed hfacts hstep
  have htable := tableFacts_reachable hreach
  obtain ⟨-, hmove⟩ := move_of_step hstep
  cases hmove with
  | worker input _ hmove =>
      exact hfacts.worker htable (handleFacts_reachable hreach) (hclean s _ hallowed)
        (hskip s _ hallowed) hmove
  | user _ _ hmove => exact hfacts.user hmove.frame (hmove.tableEffect htable)
  | begin call =>
      exact hfacts.of_frame rfl id (fun _ h => h) (fun _ h => h) (fun _ _ _ h => h) ⟨rfl, rfl⟩
        (fun _ _ h => h) hfacts.path hfacts.down
  | control k input pc rest _ hpick hmove =>
      refine ChannelFacts.control (s := { s with controls := rest }) ?_ hmove
      exact hfacts.of_frame rfl id (fun _ h => h) (fun _ h => h) (fun _ _ _ h => h) ⟨rfl, rfl⟩
        (fun _ _ h => h) hfacts.path hfacts.down

/-! ### Whole runs -/

/-- `connectChannels` has been at work for the exchange on the connection `h`:
`OpenChannel` was issued, and `DeclareExchange` if the exchange is to be declared
and its channel opened. -/
def SetUp (past : List AmqpCall) (h : Nat) (entry : Bytes × ExchangeProperties) : Prop :=
  (∃ reply, .channelOpen (some h) entry.2.channel reply ∈ past) ∧ Declared past h entry

/-- A publish goes out on a connection made by a `Connect`, after the channels
of all exchanges that were in the table at that `Connect` were set up on it. -/
def AfterSetUp (notes : List Note) (past : List AmqpCall) (call : AmqpCall) : Prop :=
  ∀ conn object message status, call = .basicPublish conn object message status →
    ∃ h, conn = some h ∧ (∃ table, .connected (some h) table ∈ notes) ∧
      ∀ table, .connected (some h) table ∈ notes → ∀ entry ∈ table, SetUp past h entry

/-- Calls that publish nothing are allowed at any time. -/
theorem afterSetUp_of_not_publish {notes : List Note} {call : AmqpCall}
    (h : isPublish call = false) (past : List AmqpCall) : AfterSetUp notes past call := by
  rintro conn object message status rfl
  cases h

/-- If `Connect` always finds `m_channelsConnected` cleared and `connectChannels`
is never skipped, channels are set up on every connection before the first
publish on it. -/
theorem channels_before_publish {s : ProducerState}
    (hs : system.ReachableUnder (fun s a => CleanConnect s a ∧ NotSkipped s a) s) :
    Guarded (AfterSetUp s.notes) s.calls := by
  refine hs.induction (fun s => Guarded (AfterSetUp s.notes) s.calls) (guarded_nil _) ?_
  intro s action s' hreach hallowed hguarded hstep
  obtain ⟨-, hmove⟩ := move_of_step hstep
  have htable := tableFacts_reachable hreach
  have hhandles := handleFacts_reachable hreach
  have hfacts := channelFacts_reachable (fun _ _ h => h.1) (fun _ _ h => h.2) hreach
  rcases hmove.publish_cases with ⟨new, hcalls, hnew⟩ |
    ⟨input, base, object, rfl, hpc, hbase, hup, hnotes, hcalls⟩
  · -- the notes may have grown by a new connection, which no old call is about
    have hold : Guarded (AfterSetUp s'.notes) s.calls := by
      refine hguarded.mono fun past call hcall hafter => ?_
      rintro conn object message status rfl
      obtain ⟨h, rfl, ⟨table, hnote⟩, hset⟩ := hafter conn object message status rfl
      have hlt : h < s.handles := hhandles.calls _ hcall h rfl
      refine ⟨h, rfl, ⟨table, hmove.notes_mono htable _ hnote⟩, fun table' hnote' => ?_⟩
      rcases hmove.connected_note htable hhandles hnote' with hmem | ⟨rfl, -⟩
      · exact hset table' hmem
      · omega
    rw [hcalls]
    exact Guarded.append (fun call hcall past => afterSetUp_of_not_publish (hnew call hcall) past)
      hold
  · rw [hcalls, hnotes]
    refine ⟨?_, hguarded⟩
    rintro _ _ _ _ ⟨⟩
    obtain ⟨h, table, hconn, hnote⟩ := (connectedFacts_reachable hreach).noted base hbase hup
    have hby : ConnectedBy s h := ⟨base, hbase, hup, hconn⟩
    have hlook := hfacts.path (by rw [hpc]; rfl) h hby
    refine ⟨h, hconn, ⟨table, hnote⟩, fun table' hnote' entry hentry => ⟨?_, ?_⟩⟩
    · exact hfacts.opened h hby hlook table' hnote' entry hentry
    · exact hfacts.declared h table' hnote' entry hentry

/-- A publish as the last call. -/
def lastPublish (s : ProducerState) (h object : Nat) : Bool :=
  match s.calls with
  | .basicPublish conn object' _ _ :: _ => decide (conn = some h ∧ object' = object)
  | _ => false

theorem lastPublish_spec {s : ProducerState} {h object : Nat}
    (hlast : lastPublish s h object = true) :
    ∃ message status past, s.calls = .basicPublish (some h) object message status :: past := by
  unfold lastPublish at hlast
  split at hlast
  · next conn object' message status past hcalls =>
      obtain ⟨rfl, rfl⟩ := of_decide_eq_true hlast
      exact ⟨message, status, past, hcalls⟩
  · cases hlast

/-- No `OpenChannel` was issued on the connection `h`. -/
def neverOpened (s : ProducerState) (h : Nat) : Bool :=
  s.calls.all fun call => match call with
    | .channelOpen conn _ _ => decide (conn ≠ some h)
    | _ => true

theorem neverOpened_spec {s : ProducerState} {h : Nat} (hnever : neverOpened s h = true)
    {channel : Int} {reply : AmqpRpcReply} : .channelOpen (some h) channel reply ∉ s.calls := by
  intro hmem
  simpa using List.all_eq_true.mp hnever _ hmem

/-- A message published on the second connection, after the first was given up
on the way to the broker with its channels looked after. -/
theorem channels_before_publish_run :
    ∃ s, system.ReachableUnder (fun s a => CleanConnect s a ∧ NotSkipped s a) s ∧
      lastPublish s 1 0 = true ∧ Guarded (AfterSetUp s.notes) s.calls := by
  obtain ⟨s, hs, htest⟩ := TransitionSystem.exists_reachableUnder_of_run (M := system)
    (fun s a => CleanConnect s a ∧ NotSkipped s a)
    (List.flatten [startUp, [.declareExchange [101] [102]], workerSteps 6,
      [.worker { order := [([101], { channel := 1, isDeclare := true, type := [102] })],
                 channels := fun _ => { openReply :=
                   { replyType := .libraryException, libraryError := statusSocketError } } }],
      workerSteps 9,
      [.worker { order := [([101], { channel := 1, isDeclare := true, type := [102] })] }],
      sendHi, workerSteps 4])
    (fun s => lastPublish s 1 0) (by decide +kernel)
  exact ⟨s, hs, htest, channels_before_publish hs⟩

/-- A publish fails with a server failure while `m_channelsConnected` is set; the
flag survives, and on the next connection the worker publishes without opening
a channel. -/
theorem publish_without_channels :
    ∃ s, system.ReachableUnder OneControl s ∧ ¬Guarded (AfterSetUp s.notes) s.calls := by
  obtain ⟨s, hs, htest⟩ := TransitionSystem.exists_reachableUnder_of_run (M := system) OneControl
    (List.flatten [startUp, sendHi, connectAndOpen, workerSteps 3,
      [.worker { publishStatus := statusSocketError }], workerSteps 5, sendHi,
      workerSteps 8])
    (fun s => lastPublish s 1 1 && neverOpened s 1 &&
      decide (.connected (some 1) [([101], { channel := 1 })] ∈ s.notes)) (by decide +kernel)
  simp only [Bool.and_eq_true, decide_eq_true_eq] at htest
  obtain ⟨⟨hlast, hnever⟩, hnote⟩ := htest
  refine ⟨s, hs, fun hguarded => ?_⟩
  obtain ⟨message, status, past, hcalls⟩ := lastPublish_spec hlast
  rw [hcalls] at hguarded
  obtain ⟨h, hh, -, hset⟩ := hguarded.1 _ _ _ _ rfl
  obtain rfl : 1 = h := Option.some.inj hh
  obtain ⟨⟨reply, hopen⟩, -⟩ := hset _ hnote _ List.mem_cons_self
  have hmem : .channelOpen (some 1) 1 reply ∈ s.calls := by
    rw [hcalls]
    exact .tail _ hopen
  exact neverOpened_spec hnever hmem

/-- A publish goes out on a channel that was opened on the same connection. -/
def OnOpenChannel (past : List AmqpCall) (call : AmqpCall) : Prop :=
  ∀ conn object message status, call = .basicPublish conn object message status →
    ∃ h, conn = some h ∧ GoodOpen past h message.channel

/-- If, moreover, no message is published whose channel was added or refused
since the worker last looked after its channels, every publish goes out on an
open channel. -/
theorem publish_on_open_channel {s : ProducerState}
    (hs : system.ReachableUnder
      (fun s a => CleanConnect s a ∧ NotSkipped s a ∧ ServedChannel s a) s) :
    Guarded OnOpenChannel s.calls := by
  refine hs.induction (fun s => Guarded OnOpenChannel s.calls) (guarded_nil _) ?_
  intro s action s' hreach hallowed hguarded hstep
  obtain ⟨-, hmove⟩ := move_of_step hstep
  have hfacts := channelFacts_reachable (fun _ _ h => h.1) (fun _ _ h => h.2.1) hreach
  rcases hmove.publish_cases with ⟨new, hcalls, hnew⟩ |
    ⟨input, base, object, rfl, hpc, hbase, hup, -, hcalls⟩
  · rw [hcalls]
    refine Guarded.append (fun call hcall past => ?_) hguarded
    rintro conn object message status rfl
    cases hnew _ hcall
  · rw [hcalls]
    refine ⟨?_, hguarded⟩
    rintro _ _ _ _ ⟨⟩
    obtain ⟨h, table, hconn, -⟩ := (connectedFacts_reachable hreach).noted base hbase hup
    have hby : ConnectedBy s h := ⟨base, hbase, hup, hconn⟩
    have hlook := hfacts.path (by rw [hpc]; rfl) h hby
    refine ⟨h, hconn, ?_⟩
    -- the channel of the message belongs to an exchange of the table
    have hcontent := contentFacts_reachable hreach
    obtain ⟨call, channel, hnote⟩ := hcontent.exists_pushed (hcontent.publishing object hpc)
    obtain ⟨entry, hentry, -, hchannel⟩ := hcontent.registered object call channel hnote
    have hsame : (s.objects object).channel = entry.2.channel := by
      rw [(hcontent.built object call channel hnote).channel, hchannel]
    rw [stampTimestamp_channel, hsame]
    refine (hfacts.served h hby hlook entry hentry).resolve_right ?_
    rw [← hsame]
    exact hallowed.2.2 object (by rw [hpc]; rfl)

/-- A message published on its open channel. -/
theorem publish_on_open_channel_run :
    ∃ s, system.ReachableUnder
        (fun s a => CleanConnect s a ∧ NotSkipped s a ∧ ServedChannel s a) s ∧
      lastPublish s 0 0 = true ∧ Guarded OnOpenChannel s.calls := by
  obtain ⟨s, hs, htest⟩ := TransitionSystem.exists_reachableUnder_of_run (M := system)
    (fun s a => CleanConnect s a ∧ NotSkipped s a ∧ ServedChannel s a)
    (List.flatten [startUp, sendHi, connectAndOpen, workerSteps 4])
    (fun s => lastPublish s 0 0) (by decide +kernel)
  exact ⟨s, hs, htest, publish_on_open_channel hs⟩

/-- A new exchange is sent to between the pass of `connectChannels` and the
publish: the message goes out on a channel that nobody opened. -/
theorem publish_on_closed_channel :
    ∃ s, system.ReachableUnder OneControl s ∧ ¬Guarded OnOpenChannel s.calls := by
  obtain ⟨s, hs, htest⟩ := TransitionSystem.exists_reachableUnder_of_run (M := system) OneControl
    (List.flatten [startUp, workerSteps 7, sendHi, workerSteps 4])
    (fun s => lastPublish s 0 0 && neverOpened s 0) (by decide +kernel)
  obtain ⟨hlast, hnever⟩ := Bool.and_eq_true_iff.mp htest
  refine ⟨s, hs, fun hguarded => ?_⟩
  obtain ⟨message, status, past, hcalls⟩ := lastPublish_spec hlast
  rw [hcalls] at hguarded
  obtain ⟨h, hh, reply, hopen, -⟩ := hguarded.1 _ _ _ _ rfl
  obtain rfl : 0 = h := Option.some.inj hh
  exact neverOpened_spec hnever (by rw [hcalls]; exact .tail _ hopen)

end Producer
end HareCpp
