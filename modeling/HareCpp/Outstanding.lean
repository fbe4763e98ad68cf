import HareCpp.Consumer.Session
import HareCpp.Producer.Publishing

/-!
# Handles taken and given back

`Connect` takes a new handle every time, and `CloseConnection` gives one back only
when `m_isConnected` is set.  The number of handles outstanding is therefore the
flag itself, one or none, in every run in which every `Connect` succeeds
(`one_handle_outstanding`).  A `Connect` that fails has taken its handle all the
same, and the next one, or the destructor, forgets it (`failed_connects_leak`).

`SessionMove` is what a step other than `Connect` can do to a connection and to
the record of calls.  There is one control thread: what two overlapping calls of
`CloseConnection` do to a handle is in `Gatekeeper`.
-/

namespace HareCpp

open Library ConnectionBase

namespace AmqpCall

/-- `amqp_new_connection`. -/
def takesHandle : AmqpCall → Bool
  | newConnection _ => true
  | _ => false

/-- `amqp_destroy_connection`. -/
def givesBack : AmqpCall → Bool
  | destroyConnection _ => true
  | _ => false

theorem UsesSession.not_takesHandle {conn : Option Nat} {call : AmqpCall}
    (h : call.UsesSession conn) : call.takesHandle = false ∧ call.givesBack = false := by
  obtain ⟨hsession, hdestroy⟩ := h
  cases call <;> simp_all [session, takesHandle, givesBack]

end AmqpCall

/-- The handles taken from rabbitmq-c less those given back. -/
def outstanding (calls : List AmqpCall) : Int :=
  (calls.countP AmqpCall.takesHandle : Int) - calls.countP AmqpCall.givesBack

theorem outstanding_append (new calls : List AmqpCall) :
    outstanding (new ++ calls) = outstanding new + outstanding calls := by
  unfold outstanding
  rw [List.countP_append, List.countP_append]
  omega

/-- Calls that use a connection leave the number as it is. -/
theorem outstanding_of_uses {new : List AmqpCall}
    (hnew : ∀ call ∈ new, call.takesHandle = false ∧ call.givesBack = false) :
    outstanding new = 0 := by
  have htakes : new.countP AmqpCall.takesHandle = 0 := by
    apply List.countP_eq_zero.mpr
    intro call hcall
    simp [(hnew call hcall).1]
  have hgives : new.countP AmqpCall.givesBack = 0 := by
    apply List.countP_eq_zero.mpr
    intro call hcall
    simp [(hnew call hcall).2]
  unfold outstanding
  omega

/-! ### Steps and what they do to a connection -/

/-- What a step other than `Connect` does: it makes calls on the connection, closes
it, or destroys the object, in whose place there is none or a fresh one. -/
inductive SessionMove (calls : List AmqpCall) (connection : Option ConnectionBase) :
    List AmqpCall → Option ConnectionBase → Prop
  | used (new : List AmqpCall)
      (huses : ∀ call ∈ new, ∃ base, connection = some base ∧ call.UsesSession base.conn) :
      SessionMove calls connection (new ++ calls) connection
  | closed (base : ConnectionBase) (reply : AmqpRpcReply) (hbase : connection = some base) :
      SessionMove calls connection ((base.closeConnection reply).calls ++ calls)
        (some (base.closeConnection reply).base)
  | released (reply : AmqpRpcReply) (fresh : Option LoginCredentials) :
      SessionMove calls connection (releaseCalls connection reply ++ calls)
        (fresh.map ConnectionBase.new)

namespace SessionMove

variable {calls : List AmqpCall} {connection : Option ConnectionBase}

theorem same : SessionMove calls connection calls connection :=
  .used [] (by simp)

theorem of_uses {base : ConnectionBase} (hbase : connection = some base) {new : List AmqpCall}
    (huses : ∀ call ∈ new, call.UsesSession base.conn) :
    SessionMove calls connection (new ++ calls) connection :=
  .used new fun call hcall => ⟨base, hbase, huses call hcall⟩

theorem of_call {base : ConnectionBase} (hbase : connection = some base) {call : AmqpCall}
    (hcall : call.UsesSession base.conn) :
    SessionMove calls connection (call :: calls) connection := by
  show SessionMove calls connection ([call] ++ calls) connection
  apply of_uses hbase
  intro other hother
  rw [List.mem_singleton.mp hother]
  exact hcall

end SessionMove

/-- `m_isConnected` of the object, if there is one. -/
def up (connection : Option ConnectionBase) : Bool := connection.any (·.isConnected)

/-- One handle is outstanding while the connection is up, and none otherwise. -/
structure Balanced (calls : List AmqpCall) (connection : Option ConnectionBase) : Prop where
  plain : ∀ base, connection = some base → base.isSSL = false
  balance : outstanding calls = if up connection then 1 else 0

/-- `CloseConnection` gives back the handle of a connection that is up. -/
theorem outstanding_closeConnection (base : ConnectionBase) (reply : AmqpRpcReply) :
    outstanding (base.closeConnection reply).calls = if base.isConnected then -1 else 0 := by
  cases hup : base.isConnected with
  | true =>
      rw [(closeConnection_of_connected hup reply).1]
      simp [outstanding, List.countP_cons, AmqpCall.takesHandle, AmqpCall.givesBack]
  | false =>
      rw [closeConnection_of_not_connected hup]
      simp [outstanding]

theorem outstanding_releaseCalls (connection : Option ConnectionBase) (reply : AmqpRpcReply) :
    outstanding (releaseCalls connection reply) = if up connection then -1 else 0 := by
  cases connection with
  | none => simp [releaseCalls, outstanding, up]
  | some base => exact outstanding_closeConnection base reply

/-- A step other than `Connect` keeps the balance. -/
theorem Balanced.move {calls calls' : List AmqpCall}
    {connection connection' : Option ConnectionBase} (hbalanced : Balanced calls connection)
    (hmove : SessionMove calls connection calls' connection') : Balanced calls' connection' := by
  obtain ⟨hplain, hbalance⟩ := hbalanced
  cases hmove with
  | used new huses =>
      refine ⟨hplain, ?_⟩
      have hnew : outstanding new = 0 := by
        apply outstanding_of_uses
        intro call hcall
        obtain ⟨base, -, huses⟩ := huses call hcall
        exact huses.not_takesHandle
      rw [outstanding_append, hnew, hbalance]
      omega
  | closed base reply hbase =>
      subst hbase
      constructor
      · intro after hafter
        obtain rfl := Option.some.inj hafter
        rw [(closeConnection_handle base reply).2.2]
        exact hplain base rfl
      · have hdown : up (some (base.closeConnection reply).base) = false := by simp [up]
        have hup : up (some base) = base.isConnected := rfl
        rw [outstanding_append, outstanding_closeConnection, hbalance, hdown, hup]
        split <;> simp
  | released reply fresh =>
      constructor
      · intro after hafter
        obtain ⟨credentials, -, rfl⟩ := Option.map_eq_some_iff.mp hafter
        rfl
      · have hdown : up (fresh.map ConnectionBase.new) = false := by
          cases fresh <;> simp [up, ConnectionBase.new]
        rw [outstanding_append, outstanding_releaseCalls, hbalance, hdown]
        split <;> simp

/-- `Connect` succeeds. -/
def ConnectReplies.Succeeds (replies : ConnectReplies) : Prop :=
  replies.socketCreated = true ∧ replies.openStatus = 0 ∧ replies.loginReply.replyType = .normal

instance (replies : ConnectReplies) : Decidable (ConnectReplies.Succeeds replies) :=
  inferInstanceAs (Decidable (_ ∧ _ ∧ _))

/-- A `Connect` that succeeds takes one handle and leaves the connection up. -/
theorem connect_of_succeeds {base : ConnectionBase} (hplain : base.isSSL = false) (handle : Nat)
    {replies : ConnectReplies} (hsucceeds : ConnectReplies.Succeeds replies) :
    outstanding (base.connect handle replies).calls = 1 ∧
      (base.connect handle replies).base.isConnected = true ∧
      (base.connect handle replies).base.isSSL = false := by
  obtain ⟨hsocket, hopen, hlogin⟩ := hsucceeds
  rcases connect_cases hplain handle replies with
    ⟨code, calls, heq, hcode, -⟩ | ⟨username, password, hostname, port, reply, heq, -⟩
  · -- with these answers it does not fail
    have hgood : (base.connect handle replies).code = .allGood := by
      simp [connect, connectBasic, login, hplain, hsocket, hopen, hlogin]
    rw [heq] at hgood
    exact absurd hgood hcode
  · rw [heq]
    simp [outstanding, AmqpCall.takesHandle, AmqpCall.givesBack, hplain]

/-- `Connect` on a closed connection, with success. -/
theorem Balanced.connect {calls : List AmqpCall} {base : ConnectionBase}
    (hbalanced : Balanced calls (some base)) (hdown : base.isConnected = false) (handle : Nat)
    {replies : ConnectReplies} (hsucceeds : ConnectReplies.Succeeds replies) :
    Balanced ((base.connect handle replies).calls ++ calls)
      (some (base.connect handle replies).base) := by
  obtain ⟨hplain, hbalance⟩ := hbalanced
  obtain ⟨htaken, hup, hssl⟩ := connect_of_succeeds (hplain base rfl) handle hsucceeds
  constructor
  · intro after hafter
    obtain rfl := Option.some.inj hafter
    exact hssl
  · rw [outstanding_append, htaken, hbalance]
    simp [up, hdown, hup]

namespace Producer

/-- Every `Connect` of the worker succeeds. -/
def ConnectSucceeds (s : ProducerState) : Action → Prop
  | .worker input => s.worker = .connect → ConnectReplies.Succeeds input.connect
  | _ => True

instance (s : ProducerState) : (action : Action) → Decidable (ConnectSucceeds s action)
  | .worker _ => inferInstanceAs (Decidable (_ → _))
  | .declareExchange .. | .send _ | .sendPush _ | .begin _ | .control .. =>
      inferInstanceAs (Decidable True)

/-- What a step of the worker does to the connection. -/
theorem WorkerMove.session {s s' : ProducerState} {input : WorkerInput}
    (hmove : WorkerMove s input s') :
    SessionMove s.calls s.connection s'.calls s'.connection ∨
    ∃ base, s.worker = .connect ∧ s.connection = some base ∧
      s'.calls = (base.connect s.handles input.connect).calls ++ s.calls ∧
      s'.connection = some (base.connect s.handles input.connect).base := by
  cases hmove with
  | connected base hpc hbase => exact .inr ⟨base, hpc, hbase, rfl, rfl⟩
  | connectFailed base hpc hbase => exact .inr ⟨base, hpc, hbase, rfl, rfl⟩
  | openFailed base hpc horder hbase =>
      exact .inl (.of_uses hbase (connectLoop_uses base input.channels input.order true).1)
  | opened base allGood hpc horder hbase =>
      exact .inl (.of_uses hbase (connectLoop_uses base input.channels input.order true).1)
  | closed caller base hpc hbase => exact .inl (.closed base input.closeReply hbase)
  | published base object next hpc hbase =>
      exact .inl (.of_uses hbase (keepsSession_publishMessage base object (s.objects object)
        input.now input.publishStatus).uses)
  | _ => exact .inl .same

/-- What a step of a control call does to the connection. -/
theorem ControlMove.session {s s' : ProducerState} {input : ControlInput} {pc : ControlPc}
    (hmove : ControlMove s input pc s') :
    SessionMove s.calls s.connection s'.calls s'.connection := by
  cases hmove with
  | closed _ next base hbase => exact .closed base input.closeReply hbase
  | initConnection credentials => exact .released input.closeReply (some credentials)
  | destroyChannels base hbase => exact .of_uses hbase (closeChannels_uses base input.order).1
  | destroyed => exact .released input.closeReply none
  | _ => exact .same

/-- One control thread, and every `Connect` succeeds. -/
def ConnectingRun (s : ProducerState) (action : Action) : Prop :=
  OneControl s action ∧ ConnectSucceeds s action

instance (s : ProducerState) (action : Action) : Decidable (ConnectingRun s action) :=
  inferInstanceAs (Decidable (_ ∧ _))

theorem balanced_reachable {s : ProducerState} (hs : system.ReachableUnder ConnectingRun s) :
    Balanced s.calls s.connection := by
  apply hs.induction (fun s => Balanced s.calls s.connection)
  · constructor
    · rintro base ⟨⟩
    · simp [system, initial, outstanding, up]
  · intro s action s' hreach hallowed hbalanced hstep
    obtain ⟨-, hsucceeds⟩ := hallowed
    obtain ⟨-, hmove⟩ := move_of_step hstep
    cases hmove with
    | worker input _ hmove =>
        rcases hmove.session with hsession | ⟨base, hpc, hbase, hcalls, hconn⟩
        · exact hbalanced.move hsession
        · have hdown : isConnected s = false := (connectedFacts_reachable hreach).closed hpc
          rw [isConnected, hbase] at hdown
          rw [hbase] at hbalanced
          rw [hcalls, hconn]
          exact hbalanced.connect hdown s.handles (hsucceeds hpc)
    | user _ _ hmove =>
        have hframe := hmove.frame
        rw [hframe.calls, hframe.connection]
        exact hbalanced
    | begin call => exact hbalanced
    | control k input pc rest _ hpick hmove => exact hbalanced.move hmove.session

end Producer

namespace Consumer

variable {Callback : Type} {s s' : ConsumerState Callback}

/-- Every `Connect` of the worker succeeds. -/
def ConnectSucceeds (s : ConsumerState Callback) : Action Callback → Prop
  | .worker input => s.worker = .connect → ConnectReplies.Succeeds input.connect
  | _ => True

instance (s : ConsumerState Callback) :
    (action : Action Callback) → Decidable (ConnectSucceeds s action)
  | .worker _ => inferInstanceAs (Decidable (_ → _))
  | .subscribe _ | .subscribeStep _ | .begin _ | .control .. => inferInstanceAs (Decidable True)

/-- What a step of the worker does to the connection. -/
theorem WorkerMove.session {input : WorkerInput} (hmove : WorkerMove s input s') :
    SessionMove s.calls s.connection s'.calls s'.connection ∨
    ∃ base, s.worker = .connect ∧ s.connection = some base ∧
      s'.calls = (base.connect s.handles input.connect).calls ++ s.calls ∧
      s'.connection = some (base.connect s.handles input.connect).base := by
  cases hmove with
  | connected base hpc hbase => exact .inr ⟨base, hpc, hbase, rfl, rfl⟩
  | connectFailed base hpc hbase => exact .inr ⟨base, hpc, hbase, rfl, rfl⟩
  | opened caller channel base hpc hbase =>
      exact .inl (.of_uses hbase (keepsSession_openChannel base channel input.reply
        input.closeOkStatus).uses)
  | declared caller channel base queue hpc hbase | refused caller channel base queue hpc hbase =>
      exact .inl (.of_call hbase (by simp [AmqpCall.UsesSession, AmqpCall.session]))
  | bound caller channel base queue hpc hbase =>
      exact .inl (.of_call hbase (by simp [AmqpCall.UsesSession, AmqpCall.session]))
  | consumed caller channel base queue hpc hbase =>
      exact .inl (.of_call hbase (by simp [AmqpCall.UsesSession, AmqpCall.session]))
  | consumeFailed caller channel base queue hpc hbase =>
      exact .inl (.of_call hbase (by simp [AmqpCall.UsesSession, AmqpCall.session]))
  | closed base hpc hbase => exact .inl (.closed base input.reply hbase)
  | released base hpc hbase =>
      exact .inl (.of_call hbase (by simp [AmqpCall.UsesSession, AmqpCall.session]))
  | pulled base next hpc hbase =>
      exact .inl (.of_uses hbase (keepsSession_consumeMessage base input.reply).uses)
  | _ => exact .inl .same

/-- What a step of a control call does to the connection. -/
theorem ControlMove.session {reply : AmqpRpcReply} {pc : ControlPc}
    (hmove : ControlMove s reply pc s') :
    SessionMove s.calls s.connection s'.calls s'.connection := by
  cases hmove with
  | stopRefused =>
      rw [stopReturns_calls, stopReturns_connection]
      exact .same
  | stopped caller base hbase =>
      rw [stopReturns_calls, stopReturns_connection]
      exact .closed base reply hbase
  | initConnection credentials => exact .released reply (some credentials)
  | destroyClosed base hinit hbase => exact .closed base reply hbase
  | destroyed => exact .released reply none
  | _ => exact .same

/-- The worker goes to `Connect` only when it found the connection closed. -/
theorem WorkerMove.connecting {input : WorkerInput} (hmove : WorkerMove s input s')
    (hclosed : s.worker = .connect → isConnected s = false) (hpc : s'.worker = .connect) :
    isConnected s' = false := by
  obtain rfl | ⟨next, hnext, hlist, rfl⟩ := hmove.toTested (by rw [hpc]; rfl)
  · exact hclosed hpc
  · cases hnext with
    | foundClosed _ hconnected => exact hconnected
    | listed hstart => exact absurd hstart hlist
    | _ => cases hpc

/-- A control step closes the connection or leaves it alone. -/
theorem ControlMove.notUp {reply : AmqpRpcReply} {pc : ControlPc}
    (hmove : ControlMove s reply pc s') (hdown : isConnected s = false) :
    isConnected s' = false := by
  cases hmove with
  | stopRefused => rwa [isConnected_stopReturns]
  | stopped caller base hbase =>
      rw [isConnected_stopReturns]
      exact closeConnection_isConnected base reply
  | initConnection | destroyed => rfl
  | destroyClosed base hinit hbase => exact closeConnection_isConnected base reply
  | _ => exact hdown

/-- One control thread, and every `Connect` succeeds. -/
def ConnectingRun (s : ConsumerState Callback) (action : Action Callback) : Prop :=
  OneControl s action ∧ ConnectSucceeds s action

instance (s : ConsumerState Callback) (action : Action Callback) :
    Decidable (ConnectingRun s action) :=
  inferInstanceAs (Decidable (_ ∧ _))

theorem balanced_reachable (hs : system.ReachableUnder ConnectingRun s) :
    Balanced s.calls s.connection ∧ (s.worker = .connect → isConnected s = false) := by
  apply hs.induction (fun s => Balanced s.calls s.connection ∧
    (s.worker = .connect → isConnected s = false))
  · refine ⟨⟨?_, ?_⟩, ?_⟩
    · rintro base ⟨⟩
    · simp [system, initial, outstanding, up]
    · rintro ⟨⟩
  · intro s action s' hreach hallowed hinv hstep
    obtain ⟨-, hsucceeds⟩ := hallowed
    obtain ⟨hbalanced, hclosed⟩ := hinv
    obtain ⟨-, hmove⟩ := move_of_step hstep
    cases hmove with
    | worker input _ hmove =>
        refine ⟨?_, hmove.connecting hclosed⟩
        rcases hmove.session with hsession | ⟨base, hpc, hbase, hcalls, hconn⟩
        · exact hbalanced.move hsession
        · have hdown : isConnected s = false := hclosed hpc
          rw [isConnected, hbase] at hdown
          rw [hbase] at hbalanced
          rw [hcalls, hconn]
          exact hbalanced.connect hdown s.handles (hsucceeds hpc)
    | subscribeRefused => exact ⟨hbalanced, hclosed⟩
    | subscribeBegins => exact ⟨hbalanced, hclosed⟩
    | subscribe k pc rest _ hpick hmove =>
        have hframe := hmove.frame
        rw [isConnected, hframe.calls, hframe.connection, hframe.worker]
        exact ⟨hbalanced, hclosed⟩
    | begin call => exact ⟨hbalanced, hclosed⟩
    | control k reply pc rest _ hpick _ hmove =>
        refine ⟨hbalanced.move hmove.session, ?_⟩
        intro hpc
        rcases hmove.worker with hsame | ⟨-, hnew⟩ | ⟨-, hnew⟩
        · exact hmove.notUp (hclosed (hsame.symm.trans hpc))
        · cases hnew.symm.trans hpc
        · cases hnew.symm.trans hpc

end Consumer

/-- At most one handle is outstanding, and none once the object that took it is
gone: there is none in its place, or one that is fresh. -/
structure HandlesGivenBack (calls : List AmqpCall) (connection : Option ConnectionBase) :
    Prop where
  atMostOne : outstanding calls ≤ 1
  noneLeft : (∀ base, connection = some base → ∃ credentials, base = .new credentials) →
    outstanding calls = 0

theorem Balanced.handlesGivenBack {calls : List AmqpCall} {connection : Option ConnectionBase}
    (hbalanced : Balanced calls connection) : HandlesGivenBack calls connection := by
  obtain ⟨-, hbalance⟩ := hbalanced
  constructor
  · rw [hbalance]
    split <;> omega
  · intro hgone
    have hdown : up connection = false := by
      cases connection with
      | none => rfl
      | some base =>
          obtain ⟨credentials, rfl⟩ := hgone base rfl
          rfl
    simpa [hdown] using hbalance

/-- In every run of a producer or a consumer with one control thread in which every
`Connect` succeeds, at most one handle is outstanding, and none after the destructor. -/
theorem one_handle_outstanding (Callback : Type) :
    (∀ s : ProducerState, Producer.system.ReachableUnder Producer.ConnectingRun s →
      HandlesGivenBack s.calls s.connection) ∧
    ∀ s : ConsumerState Callback, Consumer.system.ReachableUnder Consumer.ConnectingRun s →
      HandlesGivenBack s.calls s.connection := by
  constructor
  · intro s hs
    exact (Producer.balanced_reachable hs).handlesGivenBack
  · intro s hs
    exact (Consumer.balanced_reachable hs).1.handlesGivenBack

/-- A producer that has connected, lost the connection and connected again, and a
consumer that has connected and was destroyed. -/
theorem one_handle_outstanding_run :
    (∃ s : ProducerState, (Producer.system.ReachableUnder Producer.ConnectingRun s ∧
        s.handles = 2) ∧ HandlesGivenBack s.calls s.connection) ∧
    ∃ s : ConsumerState Nat, (Consumer.system.ReachableUnder Consumer.ConnectingRun s ∧
        (s.handles = 1 ∧ s.status = .destroyed)) ∧ HandlesGivenBack s.calls s.connection := by
  constructor
  · obtain ⟨s, hs, htest⟩ := TransitionSystem.exists_reachableUnder_of_run (M := Producer.system)
      Producer.ConnectingRun
      (List.flatten [Producer.startUp, Producer.sendHi, Producer.connectAndOpen,
        Producer.workerSteps 3,
        [.worker { publishStatus := statusSocketError }], Producer.workerSteps 8])
      (fun s => decide (s.handles = 2)) (by decide +kernel)
    exact ⟨s, ⟨hs, of_decide_eq_true htest⟩, (one_handle_outstanding Nat).1 s hs⟩
  · obtain ⟨s, hs, htest⟩ := TransitionSystem.exists_reachableUnder_of_run (M := Consumer.system)
      Consumer.ConnectingRun
      (List.flatten [Consumer.startUp, List.replicate 9 (.worker {}), .begin .destroy ::
        List.replicate 5 (.control 0 .normal), List.replicate 2 (.worker {}),
        List.replicate 4 (.control 0 .normal)])
      (fun s => decide (s.handles = 1 ∧ s.status = .destroyed)) (by decide +kernel)
    exact ⟨s, ⟨hs, of_decide_eq_true htest⟩, (one_handle_outstanding Nat).2 s hs⟩

/-- A `Connect` that fails keeps its handle: after two of them two are outstanding,
and after one of them the destructor leaves one behind. -/
theorem failed_connects_leak :
    (∃ s : ProducerState, Producer.system.ReachableUnder Producer.OneControl s ∧
        outstanding s.calls = 2) ∧
    ∃ s : ConsumerState Nat, Consumer.system.ReachableUnder Consumer.OneControl s ∧
        (s.status = .destroyed ∧ s.connection = none ∧ outstanding s.calls = 1) := by
  constructor
  · obtain ⟨s, hs, htest⟩ := TransitionSystem.exists_reachableUnder_of_run (M := Producer.system)
      Producer.OneControl
      (List.flatten [Producer.startUp,
        List.replicate 6 (.worker { connect := { openStatus := 1 } })])
      (fun s => decide (outstanding s.calls = 2)) (by decide +kernel)
    exact ⟨s, hs, of_decide_eq_true htest⟩
  · obtain ⟨s, hs, htest⟩ := TransitionSystem.exists_reachableUnder_of_run (M := Consumer.system)
      Consumer.OneControl
      (List.flatten [Consumer.startUp,
        List.replicate 3 (.worker { connect := { openStatus := 1 } }),
        .begin .destroy :: List.replicate 5 (.control 0 .normal),
        List.replicate 2 (.worker {}), List.replicate 4 (.control 0 .normal)])
      (fun s => decide (s.status = .destroyed ∧ s.connection = none ∧ outstanding s.calls = 1))
      (by decide +kernel)
    exact ⟨s, hs, of_decide_eq_true htest⟩

end HareCpp
