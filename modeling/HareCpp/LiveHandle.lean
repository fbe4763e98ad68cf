import HareCpp.ConnectionBase

/-!
# Calls are made on live handles

`Live` is the state of a handle in which rabbitmq-c may be called on it.
`CallsSound` says that every call recorded so far, other than those that set a
connection up, was made on a live handle, and `BaseSound` that `m_isConnected`
tells the truth about the current handle.  Both are kept by every operation of
`ConnectionBase`: by the five that test `m_isConnected` themselves whenever they
are called, by the others when they are called while connected.  That the
callers do so is proved where the callers are.  `SessionSound` puts the two
together for a `shared_ptr` to a connection; it is what the producer and the
consumer keep.
-/

namespace HareCpp

open Library ConnectionBase

/-- A handle that was created and logged in successfully, and not destroyed. -/
structure Live (calls : List AmqpCall) (h : Nat) : Prop where
  created : .newConnection h ∈ calls
  loggedIn : ∃ username password reply,
    .login (some h) username password reply ∈ calls ∧ reply.replyType = .normal
  notDestroyed : .destroyConnection (some h) ∉ calls

/-- A call outside `connectBasic` and `login` is made on a live handle only. -/
def OnLiveHandle (past : List AmqpCall) (call : AmqpCall) : Prop :=
  ∀ conn, call.session = some conn → ∃ h, conn = some h ∧ Live past h

/-- All calls so far were made on live handles, and handles are numbered below
`handles`. -/
structure CallsSound (handles : Nat) (calls : List AmqpCall) : Prop where
  guarded : Guarded OnLiveHandle calls
  numbered : ∀ call ∈ calls, ∀ h, call.handle = some h → h < handles

/-- `m_isConnected` is true exactly when the current handle is live. -/
structure BaseSound (handles : Nat) (calls : List AmqpCall) (base : ConnectionBase) : Prop where
  plain : base.isSSL = false
  numbered : ∀ h, base.conn = some h → h < handles
  connected_iff : base.isConnected = true ↔ ∃ h, base.conn = some h ∧ Live calls h

theorem callsSound_nil : CallsSound 0 [] := ⟨trivial, by simp⟩

/-- A fresh object has no handle and is not connected. -/
theorem baseSound_new (handles : Nat) (calls : List AmqpCall) (credentials : LoginCredentials) :
    BaseSound handles calls (ConnectionBase.new credentials) :=
  ⟨rfl, by simp [ConnectionBase.new], by simp [ConnectionBase.new]⟩

/-- A call that neither creates, logs in nor destroys `h` leaves its state as it
was. -/
theorem live_cons_iff {calls : List AmqpCall} {h : Nat} {call : AmqpCall}
    {conn : Option Nat} (hcall : call.UsesSession conn) :
    Live (call :: calls) h ↔ Live calls h := by
  obtain ⟨hsession, hdestroy⟩ := hcall
  constructor
  · rintro ⟨hcreated, ⟨username, password, reply, hlogin, hreply⟩, hnot⟩
    refine ⟨?_, ⟨username, password, reply, ?_, hreply⟩, fun h => hnot (.tail _ h)⟩
    · rcases List.mem_cons.mp hcreated with rfl | hmem
      · simp [AmqpCall.session] at hsession
      · exact hmem
    · rcases List.mem_cons.mp hlogin with rfl | hmem
      · simp [AmqpCall.session] at hsession
      · exact hmem
  · rintro ⟨hcreated, ⟨username, password, reply, hlogin, hreply⟩, hnot⟩
    refine ⟨.tail _ hcreated, ⟨username, password, reply, .tail _ hlogin, hreply⟩, ?_⟩
    intro hmem
    rcases List.mem_cons.mp hmem with rfl | hmem
    · simp [AmqpCall.session] at hsession
      exact hdestroy (by rw [hsession])
    · exact hnot hmem

/-- Calls on a live handle that do not end it are in order and leave it live. -/
theorem guarded_append_live {calls new : List AmqpCall} {h : Nat}
    (hguarded : Guarded OnLiveHandle calls) (hlive : Live calls h)
    (hnew : ∀ call ∈ new, call.UsesSession (some h)) :
    Guarded OnLiveHandle (new ++ calls) ∧ ∀ g, Live (new ++ calls) g ↔ Live calls g := by
  induction new with
  | nil => exact ⟨hguarded, fun _ => Iff.rfl⟩
  | cons call rest ih =>
      obtain ⟨hrest, hsame⟩ := ih fun c hc => hnew c (.tail _ hc)
      have huses : call.UsesSession (some h) := hnew call List.mem_cons_self
      refine ⟨⟨?_, hrest⟩, fun g => (live_cons_iff huses).trans (hsame g)⟩
      intro conn hsession
      rw [huses.1] at hsession
      exact ⟨h, (Option.some.inj hsession).symm, (hsame h).mpr hlive⟩

/-- Calls made on the connected handle keep everything in order. -/
theorem sound_append_session {handles : Nat} {calls : List AmqpCall} {base : ConnectionBase}
    (new : List AmqpCall) (hcalls : CallsSound handles calls)
    (hbase : BaseSound handles calls base) (hconnected : base.isConnected = true)
    (hnew : ∀ call ∈ new, call.UsesSession base.conn) :
    CallsSound handles (new ++ calls) ∧ BaseSound handles (new ++ calls) base := by
  obtain ⟨h, hconn, hlive⟩ := hbase.connected_iff.mp hconnected
  obtain ⟨hguarded, hsame⟩ := guarded_append_live hcalls.guarded hlive (hconn ▸ hnew)
  refine ⟨⟨hguarded, ?_⟩, ⟨hbase.plain, hbase.numbered, ?_⟩⟩
  · intro call hcall g hg
    rcases List.mem_append.mp hcall with hmem | hmem
    · rw [(hnew call hmem).handle_eq] at hg
      exact hbase.numbered g hg
    · exact hcalls.numbered call hmem g hg
  · rw [hbase.connected_iff]
    simp only [hsame]

/-- `CloseConnection` destroys a connected handle and no other. -/
theorem sound_closeConnection {handles : Nat} {calls : List AmqpCall} {base : ConnectionBase}
    (hcalls : CallsSound handles calls) (hbase : BaseSound handles calls base)
    (reply : AmqpRpcReply) :
    CallsSound handles ((base.closeConnection reply).calls ++ calls) ∧
      BaseSound handles ((base.closeConnection reply).calls ++ calls)
        (base.closeConnection reply).base := by
  cases hconnected : base.isConnected with
  | false =>
      rw [closeConnection_of_not_connected hconnected]
      exact ⟨hcalls, hbase⟩
  | true =>
      obtain ⟨hcallsEq, hconn, hssl⟩ := closeConnection_of_connected hconnected reply
      -- the close request still goes out on the live handle
      obtain ⟨hclose, hbaseClose⟩ := sound_append_session
        [.connectionClose base.conn reply] hcalls hbase hconnected
        (by simp [AmqpCall.UsesSession, AmqpCall.session])
      obtain ⟨h, hh, hlive⟩ := hbaseClose.connected_iff.mp hconnected
      rw [hcallsEq]
      refine ⟨⟨⟨?_, hclose.guarded⟩, ?_⟩, ⟨hssl.trans hbase.plain, ?_, ?_⟩⟩
      · intro conn hsession
        exact ⟨h, (Option.some.inj hsession).symm.trans hh, hlive⟩
      · intro call hcall g hg
        rcases List.mem_cons.mp hcall with rfl | hcall
        · exact hbase.numbered g hg
        · exact hclose.numbered call hcall g hg
      · intro g hg
        exact hbase.numbered g (hconn ▸ hg)
      · rw [closeConnection_isConnected, hconn]
        simp only [Bool.false_eq_true, false_iff]
        rintro ⟨g, hg, hdead⟩
        exact hdead.notDestroyed (by simp [hg])

/-- Calls that only mention a handle not seen before are all in order. -/
theorem CallsSound.append_fresh {handles : Nat} {calls new : List AmqpCall}
    (hcalls : CallsSound handles calls)
    (hnew : ∀ call ∈ new, call.session = none ∧ ∀ h, call.handle = some h → h = handles) :
    CallsSound (handles + 1) (new ++ calls) := by
  induction new with
  | nil =>
      refine ⟨hcalls.guarded, fun call hcall h hh => ?_⟩
      have := hcalls.numbered call hcall h hh
      omega
  | cons call rest ih =>
      have hrest := ih fun c hc => hnew c (.tail _ hc)
      obtain ⟨hsession, hhandle⟩ := hnew call List.mem_cons_self
      refine ⟨⟨?_, hrest.guarded⟩, ?_⟩
      · intro conn hconn
        rw [hsession] at hconn
        cases hconn
      · intro c hc h hh
        rcases List.mem_cons.mp hc with rfl | hc
        · have := hhandle h hh
          omega
        · exact hrest.numbered c hc h hh

/-- A successful login is recorded for handles handed out earlier only. -/
theorem CallsSound.not_mem_login {handles : Nat} {calls : List AmqpCall}
    (hcalls : CallsSound handles calls) (username password : Bytes) (reply : AmqpRpcReply) :
    AmqpCall.login (some handles) username password reply ∉ calls := by
  intro hmem
  have := hcalls.numbered _ hmem handles rfl
  omega

/-- `Connect` on an object that is not connected: the new handle is live exactly
when it succeeds. -/
theorem sound_connect {handles : Nat} {calls : List AmqpCall} {base : ConnectionBase}
    (hcalls : CallsSound handles calls) (hbase : BaseSound handles calls base)
    (hnot : base.isConnected = false) (replies : ConnectReplies) :
    CallsSound (handles + 1) ((base.connect handles replies).calls ++ calls) ∧
      BaseSound (handles + 1) ((base.connect handles replies).calls ++ calls)
        (base.connect handles replies).base := by
  rcases connect_cases hbase.plain handles replies with
    ⟨code, new, heq, -, hnew⟩ | ⟨username, password, hostname, port, reply, heq, hreply⟩
  · rw [heq]
    refine ⟨hcalls.append_fresh ?_, ⟨hbase.plain, ?_, ?_⟩⟩
    · intro call hcall
      rcases hnew call hcall with rfl | ⟨_, rfl⟩ | ⟨_, _, _, rfl⟩ | ⟨_, _, _, rfl, -⟩ <;>
        simp [AmqpCall.session, AmqpCall.handle]
    · intro h hh
      have : handles = h := Option.some.inj hh
      omega
    · -- the new handle never saw a successful login
      simp only [hnot, Bool.false_eq_true, false_iff]
      rintro ⟨h, hh, hlive⟩
      obtain rfl : handles = h := Option.some.inj hh
      obtain ⟨username, password, reply, hlogin, hreply⟩ := hlive.loggedIn
      rcases List.mem_append.mp hlogin with hmem | hmem
      · rcases hnew _ hmem with h | ⟨_, h⟩ | ⟨_, _, _, h⟩ | ⟨_, _, _, h, hbad⟩
        · cases h
        · cases h
        · cases h
        · cases h
          exact hbad hreply
      · exact hcalls.not_mem_login username password reply hmem
  · rw [heq]
    refine ⟨hcalls.append_fresh ?_, ⟨hbase.plain, ?_, ?_⟩⟩
    · intro call hcall
      simp only [List.mem_cons, List.not_mem_nil, or_false] at hcall
      rcases hcall with rfl | rfl | rfl | rfl <;> simp [AmqpCall.session, AmqpCall.handle]
    · intro h hh
      have : handles = h := Option.some.inj hh
      omega
    · simp only [true_iff]
      refine ⟨handles, rfl, ⟨by simp, ⟨username, password, reply, by simp, hreply⟩, ?_⟩⟩
      intro hmem
      simp only [List.cons_append, List.nil_append, List.mem_cons, reduceCtorEq,
        false_or] at hmem
      have := hcalls.numbered _ hmem handles rfl
      omega

/-- No handle is destroyed twice: destroying is a call like the others, and needs
a live handle. -/
theorem count_destroyConnection_le_one {calls : List AmqpCall}
    (hguarded : Guarded OnLiveHandle calls) (h : Nat) :
    calls.count (.destroyConnection (some h)) ≤ 1 := by
  induction calls with
  | nil => simp
  | cons call past ih =>
      obtain ⟨hcall, hpast⟩ := hguarded
      have hrest := ih hpast
      rw [List.count_cons]
      by_cases hdestroy : call = .destroyConnection (some h)
      · subst hdestroy
        obtain ⟨g, hg, hlive⟩ := hcall (some h) rfl
        obtain rfl := Option.some.inj hg
        have hnone : past.count (.destroyConnection (some h)) = 0 :=
          List.count_eq_zero.mpr hlive.notDestroyed
        simp [hnone]
      · simpa [hdestroy] using hrest

/-! ### The connection of a producer or a consumer -/

/-- Every call so far was made on a live handle, and `m_isConnected` of the
current object tells whether its handle is live. -/
structure SessionSound (handles : Nat) (calls : List AmqpCall)
    (connection : Option ConnectionBase) : Prop where
  callsSound : CallsSound handles calls
  baseSound : ∀ base, connection = some base → BaseSound handles calls base

namespace SessionSound

variable {handles : Nat} {calls : List AmqpCall} {base : ConnectionBase}

theorem of_base (hcalls : CallsSound handles calls) (hbase : BaseSound handles calls base) :
    SessionSound handles calls (some base) :=
  ⟨hcalls, by rintro _ ⟨⟩; exact hbase⟩

/-- Calls made on the current connection, none of them when it is closed. -/
theorem append (hsound : SessionSound handles calls (some base)) {new : List AmqpCall}
    (huses : ∀ call ∈ new, call.UsesSession base.conn)
    (hnil : base.isConnected = false → new = []) :
    SessionSound handles (new ++ calls) (some base) := by
  cases hconnected : base.isConnected with
  | true =>
      obtain ⟨hcalls, hbase⟩ :=
        sound_append_session new hsound.callsSound (hsound.baseSound base rfl) hconnected huses
      exact of_base hcalls hbase
  | false =>
      rw [hnil hconnected]
      exact hsound

/-- `CloseConnection`. -/
theorem close (hsound : SessionSound handles calls (some base)) (reply : AmqpRpcReply) :
    SessionSound handles ((base.closeConnection reply).calls ++ calls)
      (some (base.closeConnection reply).base) := by
  obtain ⟨hcalls, hbase⟩ :=
    sound_closeConnection hsound.callsSound (hsound.baseSound base rfl) reply
  exact of_base hcalls hbase

/-- `Connect` on a closed connection. -/
theorem connect (hsound : SessionSound handles calls (some base))
    (hdown : base.isConnected = false) (replies : ConnectReplies) :
    SessionSound (handles + 1) ((base.connect handles replies).calls ++ calls)
      (some (base.connect handles replies).base) := by
  obtain ⟨hcalls, hbase⟩ :=
    sound_connect hsound.callsSound (hsound.baseSound base rfl) hdown replies
  exact of_base hcalls hbase

/-- The object is destroyed, and none or a fresh one takes its place. -/
theorem release {connection : Option ConnectionBase}
    (hsound : SessionSound handles calls connection) (reply : AmqpRpcReply)
    (fresh : Option LoginCredentials) :
    SessionSound handles (releaseCalls connection reply ++ calls)
      (fresh.map ConnectionBase.new) := by
  refine ⟨?_, ?_⟩
  · unfold releaseCalls
    split
    · exact hsound.callsSound
    · next old => exact (sound_closeConnection hsound.callsSound (hsound.baseSound old rfl) reply).1
  · intro base hbase
    obtain ⟨credentials, -, rfl⟩ := Option.map_eq_some_iff.mp hbase
    exact baseSound_new _ _ _

end SessionSound

end HareCpp
