import HareCpp.Outstanding

/-!
# The conversation with rabbitmq-c

The order in which a producer or a consumer with one control thread talks to
rabbitmq-c, as an automaton over its calls.  `connectBasic` and `login` go through the
stages of an attempt, with the credentials of the last `Initialize`; an attempt that
fails is given up where it failed.  What is said in a session is said on the handle of
the session, which ends with `amqp_connection_close` and `amqp_destroy_connection`, in
this order and with nothing in between.

* `conversation_follows` — the calls of every run are in this order, and the
  automaton ends in a session exactly when `m_isConnected` is set.
* `outstanding_exact` — how many handles are outstanding: one for each attempt that
  was given up, and the one of the session.
-/

namespace HareCpp

open Library ConnectionBase TransitionSystem

/-- Calls that are made in a session and do not end it. -/
def AmqpCall.speaks : AmqpCall → Bool
  | newConnection _ | tcpSocketNew .. | socketOpen .. | login .. | connectionClose ..
  | destroyConnection _ => false
  | _ => true

/-- Such a call on the handle `h`. -/
def AmqpCall.SpeaksOn (h : Nat) (call : AmqpCall) : Prop :=
  call.session = some (some h) ∧ call.speaks = true

instance (h : Nat) (call : AmqpCall) : Decidable (call.SpeaksOn h) :=
  inferInstanceAs (Decidable (_ ∧ _))

/-! ### The automaton -/

/-- Where the conversation stands: nothing is under way, a handle was created, it was
given a socket, the socket was opened, a session goes on, or it is being closed. -/
inductive Stage
  | silent
  | created (h : Nat)
  | reached (h : Nat)
  | greeted (h : Nat)
  | session (h : Nat)
  | closing (h : Nat)
  deriving DecidableEq, Repr

/-- The stage after a call, if the call is in its place. -/
def Stage.next (credentials : LoginCredentials) (handles : Nat) : Stage → AmqpCall → Option Stage
  | .silent, .newConnection h => if h = handles then some (.created h) else none
  | .created h, .tcpSocketNew conn made =>
      if conn = some h then some (if made then .reached h else .silent) else none
  | .reached h, .socketOpen hostname port status =>
      if hostname = cstringBytes credentials.hostname ∧ port = credentials.port then
        some (if status = 0 then .greeted h else .silent)
      else none
  | .greeted h, .login conn username password reply =>
      if conn = some h ∧ username = cstringBytes credentials.username ∧
          password = cstringBytes credentials.password then
        some (if reply.replyType = .normal then .session h else .silent)
      else none
  | .session h, .connectionClose conn _ => if conn = some h then some (.closing h) else none
  | .closing h, .destroyConnection conn => if conn = some h then some .silent else none
  | .session h, call => if call.SpeaksOn h then some (.session h) else none
  | _, _ => none

/-- What the automaton hears: `Initialize` gives `m_connection` its credentials, and
calls are made. -/
inductive TalkEvent
  | initialized (credentials : LoginCredentials)
  | call (call : AmqpCall)
  deriving DecidableEq, Repr

/-- The call that is made. -/
def TalkEvent.made : TalkEvent → Option AmqpCall
  | .initialized _ => none
  | .call said => some said

/-- The state of the automaton; `handles` is the number of the next handle. -/
structure Conversation where
  stage : Stage := .silent
  credentials : Option LoginCredentials := none
  handles : Nat := 0
  deriving DecidableEq, Repr

namespace Conversation

/-- The next state.  Nothing is said before the first `Initialize`, and `Initialize`
comes in no session. -/
def accepts (c : Conversation) : TalkEvent → Option Conversation
  | .initialized credentials =>
      if c.stage = .silent then some { c with credentials := some credentials } else none
  | .call call =>
      match c.credentials with
      | none => none
      | some credentials =>
          (c.stage.next credentials c.handles call).map fun stage =>
            { c with
              stage := stage
              handles := if call.takesHandle then c.handles + 1 else c.handles }

/-- The automaton is where the object is. -/
structure Follows (c : Conversation) (handles : Nat) (connection : Option ConnectionBase) :
    Prop where
  handles_eq : c.handles = handles
  inSession : ∀ base, connection = some base → base.isConnected = true →
    ∃ h, base.conn = some h ∧ c.stage = .session h
  silent : up connection = false → c.stage = .silent
  credentials_eq : ∀ base, connection = some base → c.credentials = some base.basicCredentials
  plain : ∀ base, connection = some base → base.isSSL = false

/-! ### One operation of a connection -/

/-- A call of a session keeps the session going. -/
theorem accepts_speaks {c : Conversation} {h : Nat} {credentials : LoginCredentials}
    (hstage : c.stage = .session h) (hcredentials : c.credentials = some credentials)
    {call : AmqpCall} (hcall : call.SpeaksOn h) : c.accepts (.call call) = some c := by
  obtain ⟨hsession, hspeaks⟩ := hcall
  have hnext : c.stage.next credentials c.handles call = some c.stage := by
    rw [hstage]
    cases call <;> simp_all [Stage.next, AmqpCall.SpeaksOn, AmqpCall.speaks]
  have htakes : call.takesHandle = false := by
    cases call <;> first | rfl | cases hspeaks
  obtain ⟨stage, said, handles⟩ := c
  subst hcredentials
  simp only [accepts] at hnext ⊢
  rw [hnext, htakes]
  rfl

/-- So do any number of them. -/
theorem replay_speaks {c : Conversation} {h : Nat} {credentials : LoginCredentials}
    (hstage : c.stage = .session h) (hcredentials : c.credentials = some credentials)
    {new : List AmqpCall} (hnew : ∀ call ∈ new, call.SpeaksOn h) :
    replay accepts c (new.map .call) = some c := by
  induction new with
  | nil => rfl
  | cons call rest ih =>
      rw [List.map_cons]
      refine replay_cons (ih fun other hother => hnew other (.tail _ hother)) ?_
      exact accepts_speaks hstage hcredentials (hnew call List.mem_cons_self)

/-- `CloseConnection` ends the session, if there is one. -/
theorem replay_closeConnection {c : Conversation} {handles : Nat} {base : ConnectionBase}
    (hfollows : c.Follows handles (some base)) (reply : AmqpRpcReply) :
    replay accepts c ((base.closeConnection reply).calls.map .call) =
      some { c with stage := .silent } := by
  cases hup : base.isConnected with
  | false =>
      have hsilent : c.stage = .silent := hfollows.silent hup
      rw [closeConnection_of_not_connected hup, ← hsilent]
      rfl
  | true =>
      obtain ⟨h, hconn, hstage⟩ := hfollows.inSession base rfl hup
      have hcredentials := hfollows.credentials_eq base rfl
      rw [(closeConnection_of_connected hup reply).1, hconn]
      simp [replay, accepts, hcredentials, hstage, Stage.next, AmqpCall.takesHandle]

/-- The object is destroyed, which ends the session as well. -/
theorem replay_releaseCalls {c : Conversation} {handles : Nat}
    {connection : Option ConnectionBase} (hfollows : c.Follows handles connection)
    (reply : AmqpRpcReply) :
    replay accepts c ((releaseCalls connection reply).map .call) =
      some { c with stage := .silent } := by
  cases connection with
  | none =>
      rw [← hfollows.silent rfl]
      rfl
  | some base => exact replay_closeConnection hfollows reply

/-- An attempt to connect is gone through up to where it fails. -/
theorem replay_connect {c : Conversation} {handles : Nat} {base : ConnectionBase}
    (hfollows : c.Follows handles (some base)) (hdown : base.isConnected = false)
    (replies : ConnectReplies) :
    ∃ stage, replay accepts c ((base.connect handles replies).calls.map .call) =
        some { c with stage := stage, handles := handles + 1 } ∧
      ((base.connect handles replies).base.isConnected = true → stage = .session handles) ∧
      ((base.connect handles replies).base.isConnected = false → stage = .silent) ∧
      (base.connect handles replies).base.conn = some handles ∧
      (base.connect handles replies).base.basicCredentials = base.basicCredentials ∧
      (base.connect handles replies).base.isSSL = false := by
  obtain ⟨hhandles, -, hsilent, hcredentials, hplain⟩ := hfollows
  have hstage : c.stage = .silent := hsilent hdown
  have hcredentials := hcredentials base rfl
  have hplain := hplain base rfl
  obtain ⟨socketCreated, openStatus, loginReply⟩ := replies
  cases socketCreated with
  | false =>
      refine ⟨.silent, ?_⟩
      simp [connect, connectBasic, hplain, hdown, replay, accepts, hcredentials, hstage,
        hhandles, Stage.next, AmqpCall.takesHandle]
  | true =>
      by_cases hopen : openStatus = 0
      · by_cases hlogin : loginReply.replyType = .normal
        · refine ⟨.session handles, ?_⟩
          simp [connect, connectBasic, login, hplain, hopen, hlogin, replay, accepts,
            hcredentials, hstage, hhandles, Stage.next, AmqpCall.takesHandle]
        · refine ⟨.silent, ?_⟩
          simp [connect, connectBasic, login, hplain, hdown, hopen, hlogin, replay, accepts,
            hcredentials, hstage, hhandles, Stage.next, AmqpCall.takesHandle]
      · refine ⟨.silent, ?_⟩
        simp [connect, connectBasic, hplain, hdown, hopen, replay, accepts, hcredentials,
          hstage, hhandles, Stage.next, AmqpCall.takesHandle]

/-! ### One step of a producer or a consumer -/

/-- Everything a step can do to the connection and say about it: calls of the session,
an attempt to connect, the end of the session, `Initialize` or the destructor. -/
inductive Talks (handles : Nat) (connection : Option ConnectionBase) :
    List TalkEvent → Nat → Option ConnectionBase → Prop
  | speaks (new : List AmqpCall)
      (hnew : ∀ call ∈ new, ∃ base h, connection = some base ∧ base.isConnected = true ∧
        base.conn = some h ∧ call.SpeaksOn h) :
      Talks handles connection (new.map .call) handles connection
  | connects (base : ConnectionBase) (replies : ConnectReplies) (hbase : connection = some base)
      (hdown : base.isConnected = false) :
      Talks handles connection ((base.connect handles replies).calls.map .call) (handles + 1)
        (some (base.connect handles replies).base)
  | closes (base : ConnectionBase) (reply : AmqpRpcReply) (hbase : connection = some base) :
      Talks handles connection ((base.closeConnection reply).calls.map .call) handles
        (some (base.closeConnection reply).base)
  | initializes (credentials : LoginCredentials) (reply : AmqpRpcReply) :
      Talks handles connection
        (.initialized credentials :: (releaseCalls connection reply).map .call) handles
        (some (.new credentials))
  | destroyed (reply : AmqpRpcReply) :
      Talks handles connection ((releaseCalls connection reply).map .call) handles none

/-- The step says nothing. -/
theorem Talks.nothing (handles : Nat) (connection : Option ConnectionBase) :
    Talks handles connection [] handles connection :=
  .speaks [] (by simp)

/-- The automaton goes along with every step. -/
theorem Follows.talks {c : Conversation} {handles handles' : Nat}
    {connection connection' : Option ConnectionBase} {events : List TalkEvent}
    (hfollows : c.Follows handles connection)
    (htalks : Talks handles connection events handles' connection') :
    ∃ c', replay accepts c events = some c' ∧ c'.Follows handles' connection' := by
  cases htalks with
  | speaks new hnew =>
      refine ⟨c, ?_, hfollows⟩
      cases new with
      | nil => rfl
      | cons call rest =>
          obtain ⟨base, h, hbase, hup, hconn, -⟩ := hnew call List.mem_cons_self
          obtain ⟨h', hconn', hstage⟩ := hfollows.inSession base hbase hup
          refine replay_speaks hstage (hfollows.credentials_eq base hbase) ?_
          intro other hother
          obtain ⟨base', g, hbase', -, hconn'', hspeaks⟩ := hnew other hother
          obtain rfl := Option.some.inj (hbase.symm.trans hbase')
          obtain rfl := Option.some.inj (hconn'.symm.trans hconn'')
          exact hspeaks
  | connects base replies hbase hdown =>
      subst hbase
      obtain ⟨stage, hreplay, hsession, hsilent, hconn, hcredentials, hplain⟩ :=
        replay_connect hfollows hdown replies
      refine ⟨_, hreplay, ⟨rfl, ?_, hsilent, ?_, ?_⟩⟩
      · rintro after ⟨⟩ hup
        exact ⟨handles, hconn, hsession hup⟩
      · rintro after ⟨⟩
        rw [hcredentials]
        exact hfollows.credentials_eq base rfl
      · rintro after ⟨⟩
        exact hplain
  | closes base reply hbase =>
      subst hbase
      refine ⟨_, replay_closeConnection hfollows reply, ⟨hfollows.handles_eq, ?_, ?_, ?_, ?_⟩⟩
      · rintro after ⟨⟩ hup
        rw [closeConnection_isConnected] at hup
        cases hup
      · exact fun _ => rfl
      · rintro after ⟨⟩
        have hsame : (base.closeConnection reply).base.basicCredentials =
            base.basicCredentials := by
          unfold closeConnection
          split <;> rfl
        rw [hsame]
        exact hfollows.credentials_eq base rfl
      · rintro after ⟨⟩
        rw [(closeConnection_handle base reply).2.2]
        exact hfollows.plain base rfl
  | initializes credentials reply =>
      refine ⟨{ c with stage := .silent, credentials := some credentials },
        replay_cons (replay_releaseCalls hfollows reply) rfl, ⟨hfollows.handles_eq, ?_, ?_, ?_, ?_⟩⟩
      · rintro after ⟨⟩ hup
        cases hup
      · exact fun _ => rfl
      · rintro after ⟨⟩
        rfl
      · rintro after ⟨⟩
        rfl
  | destroyed reply =>
      refine ⟨_, replay_releaseCalls hfollows reply, ⟨hfollows.handles_eq, ?_, ?_, ?_, ?_⟩⟩
      · rintro after ⟨⟩
      · exact fun _ => rfl
      · rintro after ⟨⟩
      · rintro after ⟨⟩

end Conversation

/-- The conversation so far: it has all calls, and the automaton has followed it. -/
structure Converses (handles : Nat) (calls : List AmqpCall) (connection : Option ConnectionBase)
    (record : List TalkEvent) : Prop where
  complete : record.filterMap TalkEvent.made = calls
  accepted : ∃ c, replay Conversation.accepts {} record = some c ∧ c.Follows handles connection

/-- The conversation goes on. -/
theorem Converses.talks {handles handles' : Nat} {calls calls' : List AmqpCall}
    {connection connection' : Option ConnectionBase} {record events : List TalkEvent}
    (hconverses : Converses handles calls connection record)
    (htalks : Conversation.Talks handles connection events handles' connection')
    (hcalls : calls' = events.filterMap TalkEvent.made ++ calls) :
    Converses handles' calls' connection' (events ++ record) := by
  obtain ⟨hcomplete, c, haccepted, hfollows⟩ := hconverses
  obtain ⟨c', haccepted', hfollows'⟩ := hfollows.talks htalks
  refine ⟨?_, c', ?_, hfollows'⟩
  · rw [List.filterMap_append, hcomplete, hcalls]
  · rw [replay_append, haccepted]
    exact haccepted'

/-- Nothing was said yet. -/
theorem converses_start : Converses 0 [] none [] := by
  refine ⟨rfl, {}, rfl, ⟨rfl, ?_, fun _ => rfl, ?_, ?_⟩⟩
  · rintro base ⟨⟩
  · rintro base ⟨⟩
  · rintro base ⟨⟩

@[simp] theorem filterMap_made (calls : List AmqpCall) :
    (calls.map TalkEvent.call).filterMap TalkEvent.made = calls := by
  rw [List.filterMap_map]
  exact List.filterMap_some

/-- Calls on the connection of a sound session, none of them when it is closed. -/
theorem Conversation.Talks.of_uses {handles : Nat} {calls : List AmqpCall}
    {connection : Option ConnectionBase} {base : ConnectionBase}
    (hsound : SessionSound handles calls connection) (hbase : connection = some base)
    {new : List AmqpCall} (huses : ∀ call ∈ new, call.UsesSession base.conn)
    (hspeaks : ∀ call ∈ new, call.speaks = true) (hnil : base.isConnected = false → new = []) :
    Talks handles connection (new.map .call) handles connection := by
  apply Talks.speaks
  intro call hcall
  have hup : base.isConnected = true := by
    by_contra hdown
    rw [hnil (by simpa using hdown)] at hcall
    cases hcall
  obtain ⟨h, hconn, -⟩ := (hsound.baseSound base hbase).connected_iff.mp hup
  refine ⟨base, h, hbase, hup, hconn, ?_, hspeaks call hcall⟩
  rw [← hconn]
  exact (huses call hcall).1

/-- An object with a connection and the control calls that are in flight on it. -/
structure Talker (σ α π : Type) where
  system : TransitionSystem σ α
  handles : σ → Nat
  calls : σ → List AmqpCall
  connection : σ → Option ConnectionBase
  controls : σ → List π
  /-- the control call that goes on in this step -/
  control : α → Option Nat
  /-- the credentials for which `Initialize` makes the new `ConnectionBase` next -/
  initializes : π → Option LoginCredentials

namespace Talker

variable {σ α π : Type} {T : Talker σ α π} {s s' : σ} {action : α}

/-- `Initialize` makes the new `ConnectionBase` in this step. -/
def initializing (T : Talker σ α π) (s : σ) (action : α) : Option LoginCredentials :=
  (T.control action).bind fun k => ((T.controls s)[k]?).bind T.initializes

theorem initializing_of_pick {k : Nat} {pc : π} {rest : List π}
    (hcontrol : T.control action = some k) (hpick : pick (T.controls s) k = some (pc, rest)) :
    T.initializing s action = T.initializes pc := by
  rw [initializing, hcontrol, Option.bind_some, getElem?_of_pick hpick, Option.bind_some]

/-- What a step says. -/
def talk (T : Talker σ α π) (s : σ) (action : α) : List TalkEvent :=
  (T.initializing s action).toList.map .initialized ++
    ((T.system.step s action).elim [] fun s' => newest (T.calls s) (T.calls s')).map .call

theorem talk_eq (hstep : T.system.step s action = some s') {new : List AmqpCall}
    (hcalls : T.calls s' = new ++ T.calls s) :
    T.talk s action = (T.initializing s action).toList.map .initialized ++ new.map .call := by
  rw [talk, hstep, Option.elim_some, hcalls, newest_append]

/-- A step does one of the things that can be said, and all its calls are said. -/
structure StepTalks (T : Talker σ α π) (s : σ) (action : α) (s' : σ) : Prop where
  talks : Conversation.Talks (T.handles s) (T.connection s) (T.talk s action) (T.handles s')
    (T.connection s')
  complete : T.calls s' = (T.talk s action).filterMap TalkEvent.made ++ T.calls s

/-- A step in which `Initialize` makes no connection. -/
theorem StepTalks.of_calls (hstep : T.system.step s action = some s')
    (hquiet : T.initializing s action = none) (new : List AmqpCall)
    (hcalls : T.calls s' = new ++ T.calls s)
    (htalks : Conversation.Talks (T.handles s) (T.connection s) (new.map .call) (T.handles s')
      (T.connection s')) : T.StepTalks s action s' := by
  have htalk : T.talk s action = new.map .call := by
    rw [talk_eq hstep hcalls, hquiet]
    rfl
  constructor
  · rwa [htalk]
  · rw [htalk, filterMap_made, hcalls]

/-- A step that says nothing. -/
theorem StepTalks.of_same (hstep : T.system.step s action = some s')
    (hquiet : T.initializing s action = none) (hcalls : T.calls s' = T.calls s)
    (hhandles : T.handles s' = T.handles s) (hconn : T.connection s' = T.connection s) :
    T.StepTalks s action s' := by
  refine .of_calls hstep hquiet [] hcalls ?_
  rw [hhandles, hconn]
  exact .nothing _ _

/-- The step of `Initialize`: the new object is there before the old one is destroyed,
but it says nothing yet. -/
theorem StepTalks.of_initializing (hstep : T.system.step s action = some s')
    {credentials : LoginCredentials} (hinit : T.initializing s action = some credentials)
    (reply : AmqpRpcReply)
    (hcalls : T.calls s' = releaseCalls (T.connection s) reply ++ T.calls s)
    (hhandles : T.handles s' = T.handles s) (hconn : T.connection s' = some (.new credentials)) :
    T.StepTalks s action s' := by
  have htalk : T.talk s action =
      .initialized credentials :: (releaseCalls (T.connection s) reply).map .call := by
    rw [talk_eq hstep hcalls, hinit]
    rfl
  constructor
  · rw [htalk, hhandles, hconn]
    exact .initializes credentials reply
  · rw [htalk, List.filterMap_cons, TalkEvent.made, filterMap_made, hcalls]

/-- The conversation of the object in every run whose steps talk. -/
theorem converses {allowed : σ → α → Prop} (hhandles : T.handles T.system.init = 0)
    (hcalls : T.calls T.system.init = []) (hconn : T.connection T.system.init = none)
    (htalks : ∀ s action s', T.system.ReachableUnder allowed s →
      T.system.step s action = some s' → T.StepTalks s action s')
    {s : σ × List TalkEvent}
    (hs : (T.system.recording T.talk).ReachableUnder (fun s => allowed s.1) s) :
    Converses (T.handles s.1) (T.calls s.1) (T.connection s.1) s.2 := by
  refine hs.record_induction (fun s record =>
    Converses (T.handles s) (T.calls s) (T.connection s) record) ?_ ?_
  · rw [hhandles, hcalls, hconn]
    exact converses_start
  · intro s action s' record hreach _ hconverses hstep
    have hsaid := htalks s action s' hreach hstep
    exact hconverses.talks hsaid.talks hsaid.complete

end Talker

/-! ### Calls of a session -/

theorem speaks_openChannel (base : ConnectionBase) (channel : Int) (reply : AmqpRpcReply)
    (closeOkStatus : Int) :
    ∀ call ∈ (base.openChannel channel reply closeOkStatus).calls, call.speaks = true := by
  unfold openChannel
  split
  · dsimp only
    split <;> simp [AmqpCall.speaks]
  · simp

theorem speaks_declareExchange (base : ConnectionBase) (channel : Int) (exchange type : Bytes)
    (reply : AmqpRpcReply) :
    ∀ call ∈ (base.declareExchange channel exchange type reply).calls, call.speaks = true := by
  unfold declareExchange
  split <;> simp [AmqpCall.speaks]

theorem speaks_closeChannel (base : ConnectionBase) (channel : Int) :
    ∀ call ∈ (base.closeChannel channel).calls, call.speaks = true := by
  unfold closeChannel
  split <;> simp [AmqpCall.speaks]

theorem speaks_publishMessage (base : ConnectionBase) (object : Nat) (message : RawMessage)
    (now : UInt64) (errorVal : Int) :
    ∀ call ∈ (base.publishMessage object message now errorVal).1.calls, call.speaks = true := by
  unfold publishMessage
  split <;> simp [AmqpCall.speaks]

theorem speaks_consumeMessage (base : ConnectionBase) (reply : AmqpRpcReply) :
    ∀ call ∈ (base.consumeMessage reply).calls, call.speaks = true := by
  unfold consumeMessage
  split <;> simp [AmqpCall.speaks]

namespace Producer

open Conversation

theorem speaks_entryCalls (base : ConnectionBase) (replies : Bytes → ChannelReplies)
    (entry : Bytes × ExchangeProperties) :
    ∀ call ∈ entryCalls base replies entry, call.speaks = true := by
  unfold entryCalls
  dsimp only
  split
  · intro call hcall
    rcases List.mem_append.mp hcall with h | h
    · exact speaks_declareExchange _ _ _ _ _ call h
    · exact speaks_openChannel _ _ _ _ call h
  · exact speaks_openChannel _ _ _ _

theorem speaks_connectLoop (base : ConnectionBase) (replies : Bytes → ChannelReplies)
    (entries : ExchangeList) (allGood : Bool) :
    ∀ call ∈ (connectLoop base replies entries allGood).2, call.speaks = true := by
  obtain ⟨done, post, -, hcalls, -⟩ := connectLoop_spec base replies entries allGood
  intro call hcall
  rw [hcalls] at hcall
  obtain ⟨entry, -, hmem⟩ := List.mem_flatMap.mp hcall
  exact speaks_entryCalls base replies entry call hmem

theorem speaks_closeChannels (base : ConnectionBase) (entries : ExchangeList) :
    ∀ call ∈ closeChannels base entries, call.speaks = true := by
  induction entries with
  | nil => simp [closeChannels]
  | cons entry rest ih =>
      intro call hcall
      rcases List.mem_append.mp hcall with h | h
      · exact ih call h
      · exact speaks_closeChannel base entry.2.channel call h

/-- What a producer says. -/
def talker : Talker ProducerState Action ControlPc where
  system := system
  handles := (·.handles)
  calls := (·.calls)
  connection := (·.connection)
  controls := (·.controls)
  control
    | .control k _ => some k
    | _ => none
  initializes
    | .initConnection credentials => some credentials
    | _ => none

theorem stepTalks_worker {s s' : ProducerState} {input : WorkerInput}
    (hstep : step s (.worker input) = some s') (hmove : WorkerMove s input s')
    (hsound : SessionSound s.handles s.calls s.connection) (hfacts : ConnectedFacts s) :
    talker.StepTalks s (.worker input) s' := by
  have hdown : ∀ base, s.worker = .connect → s.connection = some base →
      base.isConnected = false := by
    intro base hpc hbase
    have hclosed := hfacts.closed hpc
    rwa [isConnected, hbase] at hclosed
  cases hmove with
  | goto | crash | looked | dropped | popped => exact .of_same hstep rfl rfl rfl rfl
  | connected base hpc hbase =>
      exact .of_calls hstep rfl _ rfl (.connects base input.connect hbase (hdown base hpc hbase))
  | connectFailed base hpc hbase =>
      exact .of_calls hstep rfl _ rfl (.connects base input.connect hbase (hdown base hpc hbase))
  | openFailed base hpc horder hbase =>
      obtain ⟨huses, hnil⟩ := connectLoop_uses base input.channels input.order true
      exact .of_calls hstep rfl _ rfl
        (.of_uses hsound hbase huses (speaks_connectLoop _ _ _ _) hnil)
  | opened base allGood hpc horder hbase =>
      obtain ⟨huses, hnil⟩ := connectLoop_uses base input.channels input.order true
      exact .of_calls hstep rfl _ rfl
        (.of_uses hsound hbase huses (speaks_connectLoop _ _ _ _) hnil)
  | closed caller base hpc hbase =>
      exact .of_calls hstep rfl _ rfl (.closes base input.closeReply hbase)
  | published base object next hpc hbase =>
      have hkeeps := keepsSession_publishMessage base object (s.objects object) input.now
        input.publishStatus
      exact .of_calls hstep rfl _ rfl
        (.of_uses hsound hbase hkeeps.uses (speaks_publishMessage _ _ _ _ _) hkeeps.calls_eq_nil)

theorem stepTalks_control {s s' : ProducerState} {k : Nat} {input : ControlInput} {pc : ControlPc}
    {rest : List ControlPc} (hstep : step s (.control k input) = some s')
    (hpick : pick s.controls k = some (pc, rest))
    (hmove : ControlMove { s with controls := rest } input pc s')
    (hsound : SessionSound s.handles s.calls s.connection) :
    talker.StepTalks s (.control k input) s' := by
  have hinit : talker.initializing s (.control k input) = talker.initializes pc :=
    Talker.initializing_of_pick rfl hpick
  cases hmove with
  | goto _ next hnext => cases hnext <;> exact .of_same hstep hinit rfl rfl rfl
  | returned _ api code hreturn => cases hreturn <;> exact .of_same hstep hinit rfl rfl rfl
  | closed _ next base hbase hpc =>
      rcases hpc with ⟨caller, code, rfl, -⟩ | ⟨rfl, -⟩ <;>
        exact .of_calls hstep hinit _ rfl (.closes base input.closeReply hbase)
  | initConnection credentials =>
      exact .of_initializing hstep hinit input.closeReply rfl rfl rfl
  | destroyChannels base hbase =>
      obtain ⟨huses, hnil⟩ := closeChannels_uses base input.order
      exact .of_calls hstep hinit _ rfl
        (.of_uses hsound hbase huses (speaks_closeChannels _ _) hnil)
  | destroyed hworker => exact .of_calls hstep hinit _ rfl (.destroyed input.closeReply)
  | crash _ hpc =>
      cases pc with
      | initConnection credentials => exact absurd rfl (hpc credentials)
      | _ => exact .of_same hstep hinit rfl rfl rfl
  | _ => exact .of_same hstep hinit rfl rfl rfl

/-- Every step of a producer talks. -/
theorem stepTalks_of_step {allowed : ProducerState → Action → Prop} {s s' : ProducerState}
    {action : Action} (hs : system.ReachableUnder allowed s) (hstep : step s action = some s') :
    talker.StepTalks s action s' := by
  have hsound := sessionSound_reachable hs
  obtain ⟨-, hmove⟩ := move_of_step hstep
  cases hmove with
  | worker input _ hmove =>
      exact stepTalks_worker hstep hmove hsound (connectedFacts_reachable hs)
  | user _ _ hmove =>
      have hframe := hmove.frame
      refine .of_same hstep ?_ hframe.calls hframe.handles hframe.connection
      cases hmove <;> rfl
  | begin call => exact .of_same hstep rfl rfl rfl rfl
  | control k input pc rest _ hpick hmove => exact stepTalks_control hstep hpick hmove hsound

end Producer

namespace Consumer

open Conversation

variable {Callback : Type} {s s' : ConsumerState Callback}

/-- What a consumer says. -/
def talker : Talker (ConsumerState Callback) (Action Callback) ControlPc where
  system := system
  handles := (·.handles)
  calls := (·.calls)
  connection := (·.connection)
  controls := (·.controls)
  control
    | .control k _ => some k
    | _ => none
  initializes
    | .initConnection credentials => some credentials
    | _ => none

theorem stepTalks_worker {input : WorkerInput} (hstep : step s (.worker input) = some s')
    (hmove : WorkerMove s input s') (hfacts : SessionFacts s) :
    talker.StepTalks s (.worker input) s' := by
  have hdown : ∀ base, s.worker = .connect → s.connection = some base →
      base.isConnected = false := by
    intro base hpc hbase
    have hclosed := hfacts.down hpc
    rwa [isConnected, hbase] at hclosed
  -- the calls that do not look at `m_isConnected`
  have hcall : ∀ (base : ConnectionBase) (call : AmqpCall), s.worker.needsConnection = true →
      s.connection = some base → call.UsesSession base.conn → call.speaks = true →
      Talks s.handles s.connection ([call].map .call) s.handles s.connection := by
    intro base call hneeds hbase huses hspeaks
    refine .of_uses hfacts.sound hbase ?_ ?_ ?_
    · simpa using huses
    · simpa using hspeaks
    · intro hclosed
      have hup := hfacts.up hneeds
      rw [isConnected, hbase] at hup
      cases hclosed.symm.trans hup
  cases hmove with
  | goto | crash | emptied | propertiesRead | pushed | processed | popped =>
      exact .of_same hstep rfl rfl rfl rfl
  | connected base hpc hbase =>
      exact .of_calls hstep rfl _ rfl (.connects base input.connect hbase (hdown base hpc hbase))
  | connectFailed base hpc hbase =>
      exact .of_calls hstep rfl _ rfl (.connects base input.connect hbase (hdown base hpc hbase))
  | opened caller channel base hpc hbase =>
      have hkeeps := keepsSession_openChannel base channel input.reply input.closeOkStatus
      exact .of_calls hstep rfl _ rfl
        (.of_uses hfacts.sound hbase hkeeps.uses (speaks_openChannel _ _ _ _) hkeeps.calls_eq_nil)
  | declared caller channel base queue hpc hbase | refused caller channel base queue hpc hbase =>
      exact .of_calls hstep rfl [_] rfl (hcall base _ (by rw [hpc]; rfl) hbase
        (by simp [AmqpCall.UsesSession, AmqpCall.session]) rfl)
  | bound caller channel base queue hpc hbase =>
      exact .of_calls hstep rfl [_] rfl (hcall base _ (by rw [hpc]; rfl) hbase
        (by simp [AmqpCall.UsesSession, AmqpCall.session]) rfl)
  | consumed caller channel base queue hpc hbase =>
      exact .of_calls hstep rfl [_] rfl (hcall base _ (by rw [hpc]; rfl) hbase
        (by simp [AmqpCall.UsesSession, AmqpCall.session]) rfl)
  | consumeFailed caller channel base queue hpc hbase =>
      exact .of_calls hstep rfl [_] rfl (hcall base _ (by rw [hpc]; rfl) hbase
        (by simp [AmqpCall.UsesSession, AmqpCall.session]) rfl)
  | closed base hpc hbase => exact .of_calls hstep rfl _ rfl (.closes base input.reply hbase)
  | released base hpc hbase =>
      exact .of_calls hstep rfl [_] rfl (hcall base _ (by rw [hpc]; rfl) hbase
        (by simp [AmqpCall.UsesSession, AmqpCall.session]) rfl)
  | pulled base next hpc hbase =>
      have hkeeps := keepsSession_consumeMessage base input.reply
      exact .of_calls hstep rfl _ rfl
        (.of_uses hfacts.sound hbase hkeeps.uses (speaks_consumeMessage _ _) hkeeps.calls_eq_nil)

theorem stepTalks_control {k : Nat} {reply : AmqpRpcReply} {pc : ControlPc}
    {rest : List ControlPc} (hstep : step s (.control k reply) = some s')
    (hpick : pick s.controls k = some (pc, rest))
    (hmove : ControlMove { s with controls := rest } reply pc s') :
    talker.StepTalks s (.control k reply) s' := by
  have hinit : talker.initializing s (.control k reply) = talker.initializes pc :=
    Talker.initializing_of_pick rfl hpick
  cases hmove with
  | goto _ next hnext => cases hnext <;> exact .of_same hstep hinit rfl rfl rfl
  | stopRefused _ caller code hpc =>
      rcases hpc with ⟨rfl, -, -⟩ | ⟨rfl, -, -⟩ <;>
        exact .of_same hstep hinit (stopReturns_calls _ _ _) (stopReturns_handles _ _ _)
          (stopReturns_connection _ _ _)
  | stopped caller base hbase =>
      refine .of_calls hstep hinit _ (stopReturns_calls _ _ _) ?_
      show Talks _ _ _ (stopReturns _ _ _).handles (stopReturns _ _ _).connection
      rw [stopReturns_handles, stopReturns_connection]
      exact .closes base reply hbase
  | initConnection credentials => exact .of_initializing hstep hinit reply rfl rfl rfl
  | destroyClosed base hinitialized hbase =>
      exact .of_calls hstep hinit _ rfl (.closes base reply hbase)
  | destroyed hworker => exact .of_calls hstep hinit _ rfl (.destroyed reply)
  | crash _ hpc =>
      cases pc with
      | initConnection credentials => exact absurd rfl (hpc credentials)
      | _ => exact .of_same hstep hinit rfl rfl rfl
  | _ => exact .of_same hstep hinit rfl rfl rfl

/-- Every step of a consumer with one control thread talks. -/
theorem stepTalks_of_step {action : Action Callback} (hs : system.ReachableUnder OneControl s)
    (hstep : step s action = some s') : talker.StepTalks s action s' := by
  obtain ⟨-, hmove⟩ := move_of_step hstep
  cases hmove with
  | worker input _ hmove => exact stepTalks_worker hstep hmove (sessionFacts_reachable hs)
  | subscribeRefused => exact .of_same hstep rfl rfl rfl rfl
  | subscribeBegins => exact .of_same hstep rfl rfl rfl rfl
  | subscribe k pc rest _ hpick hmove =>
      have hframe := hmove.frame
      exact .of_same hstep rfl hframe.calls hframe.handles hframe.connection
  | begin call => exact .of_same hstep rfl rfl rfl rfl
  | control k reply pc rest _ hpick _ hmove => exact stepTalks_control hstep hpick hmove

end Consumer

theorem Producer.converses_reachable {s : ProducerState × List TalkEvent}
    (hs : (Producer.system.recording Producer.talker.talk).ReachableUnder
      (fun s => Producer.OneControl s.1) s) : Converses s.1.handles s.1.calls s.1.connection s.2 :=
  Producer.talker.converses rfl rfl rfl
    (fun _ _ _ hreach hstep => Producer.stepTalks_of_step hreach hstep) hs

theorem Consumer.converses_reachable {Callback : Type}
    {s : ConsumerState Callback × List TalkEvent}
    (hs : (Consumer.system.recording Consumer.talker.talk).ReachableUnder
      (fun s => Consumer.OneControl s.1) s) : Converses s.1.handles s.1.calls s.1.connection s.2 :=
  Consumer.talker.converses rfl rfl rfl
    (fun _ _ _ hreach hstep => Consumer.stepTalks_of_step hreach hstep) hs

/-- In every run of a producer and of a consumer with one control thread, the calls
into rabbitmq-c are made in the order of the automaton: attempts to connect with the
credentials of the last `Initialize`, and sessions, one after the other, each on a
handle of its own. -/
theorem conversation_follows (Callback : Type) :
    (∀ s : ProducerState × List TalkEvent,
      (Producer.system.recording Producer.talker.talk).ReachableUnder
          (fun s => Producer.OneControl s.1) s →
        Converses s.1.handles s.1.calls s.1.connection s.2) ∧
    ∀ s : ConsumerState Callback × List TalkEvent,
      (Consumer.system.recording Consumer.talker.talk).ReachableUnder
          (fun s => Consumer.OneControl s.1) s →
        Converses s.1.handles s.1.calls s.1.connection s.2 := by
  constructor
  · intro s hs
    exact Producer.converses_reachable hs
  · intro s hs
    exact Consumer.converses_reachable hs

/-- A producer that has lost its connection and made another, and a consumer that has
connected and was destroyed. -/
theorem conversation_follows_run :
    (∃ s : ProducerState × List TalkEvent,
      ((Producer.system.recording Producer.talker.talk).ReachableUnder
          (fun s => Producer.OneControl s.1) s ∧
        s.1.handles = 2 ∧ up s.1.connection = true) ∧
      Converses s.1.handles s.1.calls s.1.connection s.2) ∧
    ∃ s : ConsumerState Nat × List TalkEvent,
      ((Consumer.system.recording Consumer.talker.talk).ReachableUnder
          (fun s => Consumer.OneControl s.1) s ∧
        s.1.handles = 1 ∧ s.1.status = .destroyed) ∧
      Converses s.1.handles s.1.calls s.1.connection s.2 := by
  constructor
  · obtain ⟨s, hs, htest⟩ := exists_reachableUnder_of_run
      (M := Producer.system.recording Producer.talker.talk) (fun s => Producer.OneControl s.1)
      (List.flatten [Producer.startUp, Producer.sendHi, Producer.connectAndOpen,
        Producer.workerSteps 3,
        [.worker { publishStatus := statusSocketError }], Producer.workerSteps 8])
      (fun s => decide (s.1.handles = 2 ∧ up s.1.connection = true)) (by decide +kernel)
    exact ⟨s, ⟨hs, of_decide_eq_true htest⟩, (conversation_follows Nat).1 s hs⟩
  · obtain ⟨s, hs, htest⟩ := exists_reachableUnder_of_run
      (M := Consumer.system.recording Consumer.talker.talk) (fun s => Consumer.OneControl s.1)
      (List.flatten [Consumer.startUp, List.replicate 9 (.worker {}), .begin .destroy ::
        List.replicate 5 (.control 0 .normal), List.replicate 2 (.worker {}),
        List.replicate 4 (.control 0 .normal)])
      (fun s => decide (s.1.handles = 1 ∧ s.1.status = .destroyed)) (by decide +kernel)
    exact ⟨s, ⟨hs, of_decide_eq_true htest⟩, (conversation_follows Nat).2 s hs⟩

/-! ### How many handles are outstanding -/

/-- The call at which an attempt to connect is given up. -/
def AmqpCall.givesUp : AmqpCall → Bool
  | tcpSocketNew _ made => !made
  | socketOpen _ _ status => decide (status ≠ 0)
  | login _ _ _ reply => decide (reply.replyType ≠ .normal)
  | _ => false

/-- The attempts that were given up. -/
def abandoned (calls : List AmqpCall) : Nat := calls.countP AmqpCall.givesUp

/-- The handle that the conversation is about. -/
def Stage.holds : Stage → Int
  | .silent => 0
  | _ => 1

/-- A call in its place accounts for the handle it takes, gives back or forgets. -/
theorem Stage.next_holds {credentials : LoginCredentials} {handles : Nat} {stage stage' : Stage}
    {call : AmqpCall} (h : stage.next credentials handles call = some stage') :
    outstanding [call] + stage.holds = abandoned [call] + stage'.holds := by
  unfold Stage.next at h
  split at h
  · split at h
    · cases h
      rfl
    · cases h
  · next made =>
      split at h
      · cases h
        cases made <;> rfl
      · cases h
  · next status =>
      split at h
      · cases h
        by_cases hstatus : status = 0 <;>
          simp [hstatus, outstanding, abandoned, AmqpCall.takesHandle, AmqpCall.givesBack,
            AmqpCall.givesUp, Stage.holds]
      · cases h
  · next reply =>
      split at h
      · cases h
        by_cases hreply : reply.replyType = .normal <;>
          simp [hreply, outstanding, abandoned, AmqpCall.takesHandle, AmqpCall.givesBack,
            AmqpCall.givesUp, Stage.holds]
      · cases h
  · split at h
    · cases h
      rfl
    · cases h
  · split at h
    · cases h
      rfl
    · cases h
  · split at h
    · next hspeaks =>
        cases h
        obtain ⟨-, hspeaks⟩ := hspeaks
        cases call <;> first | rfl | cases hspeaks
    · cases h
  · cases h

/-- What the automaton accepts leaves one handle for each attempt given up, and the one
it is about. -/
theorem outstanding_of_accepted {record : List TalkEvent} {c : Conversation}
    (h : replay Conversation.accepts {} record = some c) :
    outstanding (record.filterMap TalkEvent.made) =
      abandoned (record.filterMap TalkEvent.made) + c.stage.holds := by
  induction record generalizing c with
  | nil =>
      cases h
      rfl
  | cons event past ih =>
      obtain ⟨before, hbefore, hevent⟩ := replay_cons_eq_some_iff.mp h
      have ih := ih hbefore
      cases event with
      | initialized credentials =>
          simp only [Conversation.accepts] at hevent
          split at hevent
          · cases hevent
            exact ih
          · cases hevent
      | call call =>
          simp only [Conversation.accepts] at hevent
          split at hevent
          · cases hevent
          · obtain ⟨stage, hnext, rfl⟩ := Option.map_eq_some_iff.mp hevent
            have hcall := Stage.next_holds hnext
            have happend := outstanding_append [call] (past.filterMap TalkEvent.made)
            have hcount : abandoned (call :: past.filterMap TalkEvent.made) =
                abandoned [call] + abandoned (past.filterMap TalkEvent.made) :=
              @List.countP_append _ _ [call] _
            simp only [List.filterMap_cons, TalkEvent.made]
            rw [List.singleton_append] at happend
            rw [happend, hcount]
            push_cast
            omega

theorem Converses.outstanding_eq {handles : Nat} {calls : List AmqpCall}
    {connection : Option ConnectionBase} {record : List TalkEvent}
    (hconverses : Converses handles calls connection record) :
    outstanding calls = abandoned calls + if up connection then 1 else 0 := by
  obtain ⟨hcomplete, c, haccepted, hfollows⟩ := hconverses
  have hcount := outstanding_of_accepted haccepted
  rw [hcomplete] at hcount
  rw [hcount]
  cases hup : up connection with
  | false => simp [hfollows.silent hup, Stage.holds]
  | true =>
      cases connection with
      | none => cases hup
      | some base =>
          obtain ⟨h, -, hstage⟩ := hfollows.inSession base rfl hup
          simp [hstage, Stage.holds]

/-- In every run of a producer and of a consumer with one control thread, the handles
outstanding are those of the attempts to connect that were given up, all of them, and
the one of the session while the connection is up. -/
theorem outstanding_exact (Callback : Type) :
    (∀ s : ProducerState, Producer.system.ReachableUnder Producer.OneControl s →
      outstanding s.calls = abandoned s.calls + if up s.connection then 1 else 0) ∧
    ∀ s : ConsumerState Callback, Consumer.system.ReachableUnder Consumer.OneControl s →
      outstanding s.calls = abandoned s.calls + if up s.connection then 1 else 0 := by
  constructor
  · intro s hs
    obtain ⟨record, hrecord⟩ := hs.recorded Producer.talker.talk
    exact (Producer.converses_reachable hrecord).outstanding_eq
  · intro s hs
    obtain ⟨record, hrecord⟩ := hs.recorded Consumer.talker.talk
    exact (Consumer.converses_reachable hrecord).outstanding_eq

/-- A producer that got its connection at the third attempt, and a consumer that gave
up one attempt and was destroyed. -/
theorem outstanding_exact_run :
    (∃ s : ProducerState, (Producer.system.ReachableUnder Producer.OneControl s ∧
        abandoned s.calls = 2 ∧ up s.connection = true) ∧
      outstanding s.calls = abandoned s.calls + if up s.connection then 1 else 0) ∧
    ∃ s : ConsumerState Nat, (Consumer.system.ReachableUnder Consumer.OneControl s ∧
        abandoned s.calls = 1 ∧ s.status = .destroyed) ∧
      outstanding s.calls = abandoned s.calls + if up s.connection then 1 else 0 := by
  constructor
  · obtain ⟨s, hs, htest⟩ := exists_reachableUnder_of_run (M := Producer.system)
      Producer.OneControl
      (List.flatten [Producer.startUp,
        List.replicate 6 (.worker { connect := { openStatus := 1 } }), Producer.workerSteps 3])
      (fun s => decide (abandoned s.calls = 2 ∧ up s.connection = true)) (by decide +kernel)
    exact ⟨s, ⟨hs, of_decide_eq_true htest⟩, (outstanding_exact Nat).1 s hs⟩
  · obtain ⟨s, hs, htest⟩ := exists_reachableUnder_of_run (M := Consumer.system)
      Consumer.OneControl
      (List.flatten [Consumer.startUp,
        List.replicate 3 (.worker { connect := { openStatus := 1 } }),
        .begin .destroy :: List.replicate 5 (.control 0 .normal),
        List.replicate 2 (.worker {}), List.replicate 4 (.control 0 .normal)])
      (fun s => decide (abandoned s.calls = 1 ∧ s.status = .destroyed)) (by decide +kernel)
    exact ⟨s, ⟨hs, of_decide_eq_true htest⟩, (outstanding_exact Nat).2 s hs⟩

end HareCpp
