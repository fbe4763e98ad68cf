import HareCpp.LiveHandle

/-!
# Which channels are open

The state of a channel on a connection, read off the record of calls: a
successful `OpenChannel` opens it, and a channel exception, `amqp_channel_close`
or the end of the connection closes it.  `NoReopen` is the rule of AMQP 0-9-1
that a channel which is open is not opened again.  A channel consumes after an
`amqp_basic_consume` that the broker has confirmed until it is opened anew or closed.
-/

namespace HareCpp

open Library ConnectionBase

/-- What a call does to the channel `c` of the connection `h`: `some true` opens
it, `some false` closes it. -/
def channelEffect (h : Option Nat) (c : Int) : AmqpCall → Option Bool
  | .channelOpen conn channel reply =>
      if conn = h ∧ channel = c then
        if decodeRpcReply reply = .allGood then some true
        else if decodeRpcReply reply = .channelException then some false
        else none
      else none
  | .exchangeDeclare conn channel _ _ reply | .queueDeclare conn channel _ reply
  | .queueBind conn channel _ _ _ reply | .basicConsume conn channel _ reply =>
      if conn = h ∧ channel = c ∧ decodeRpcReply reply = .channelException then some false
      else none
  | .channelClose conn channel => if conn = h ∧ channel = c then some false else none
  | .connectionClose conn _ | .destroyConnection conn => if conn = h then some false else none
  | .newConnection _ | .tcpSocketNew .. | .socketOpen .. | .login .. | .sendCloseOk ..
  | .basicPublish .. | .consumeMessage .. | .maybeReleaseBuffers _ => none

/-- The channel `c` is open on the connection `h` after the calls, which stand
newest first. -/
def channelIsOpen (h : Option Nat) (c : Int) (calls : List AmqpCall) : Bool :=
  latest (channelEffect h c) calls

/-- `OpenChannel` is not issued for a channel that is open. -/
def NoReopen (past : List AmqpCall) (call : AmqpCall) : Prop :=
  ∀ conn channel reply, call = .channelOpen conn channel reply →
    channelIsOpen conn channel past = false

/-- A call changes the state as its effect says. -/
theorem channelIsOpen_cons (h : Option Nat) (c : Int) (call : AmqpCall) (calls : List AmqpCall) :
    channelIsOpen h c (call :: calls) = (channelEffect h c call).getD (channelIsOpen h c calls) :=
  latest_cons _ call calls

/-- Calls without effect on a channel leave it as it is. -/
theorem channelIsOpen_append {h : Option Nat} {c : Int} {new : List AmqpCall}
    (hnew : ∀ call ∈ new, channelEffect h c call = none) (calls : List AmqpCall) :
    channelIsOpen h c (new ++ calls) = channelIsOpen h c calls :=
  latest_append hnew calls

/-- Calls that do not open a channel leave it closed. -/
theorem channelIsOpen_append_of_closed {h : Option Nat} {c : Int} {new calls : List AmqpCall}
    (hnew : ∀ call ∈ new, channelEffect h c call ≠ some true)
    (hclosed : channelIsOpen h c calls = false) : channelIsOpen h c (new ++ calls) = false :=
  latest_append_of_false hnew hclosed

/-- A channel opens only by a successful `OpenChannel`. -/
theorem channelEffect_eq_true {h : Option Nat} {c : Int} {call : AmqpCall}
    (heffect : channelEffect h c call = some true) :
    ∃ reply, call = .channelOpen h c reply ∧ decodeRpcReply reply = .allGood := by
  cases call with
  | channelOpen conn channel reply =>
      simp only [channelEffect] at heffect
      split at heffect
      · next hsame =>
          obtain ⟨rfl, rfl⟩ := hsame
          split at heffect
          · next hgood => exact ⟨reply, rfl, hgood⟩
          · split at heffect <;> cases heffect
      · cases heffect
  | exchangeDeclare | queueDeclare | queueBind | basicConsume | channelClose | connectionClose
  | destroyConnection =>
      simp only [channelEffect] at heffect
      split at heffect <;> cases heffect
  | _ => cases heffect

/-- A channel that is open was opened. -/
theorem exists_open_of_channelIsOpen {h : Option Nat} {c : Int} {calls : List AmqpCall}
    (hopen : channelIsOpen h c calls = true) :
    ∃ reply, .channelOpen h c reply ∈ calls ∧ decodeRpcReply reply = .allGood := by
  obtain ⟨call, hcall, heffect⟩ := exists_of_latest hopen
  obtain ⟨reply, rfl, hgood⟩ := channelEffect_eq_true heffect
  exact ⟨reply, hcall, hgood⟩

/-- A call on another connection has no effect. -/
theorem channelEffect_of_handle_ne {h : Option Nat} {c : Int} {call : AmqpCall}
    (hne : call.handle ≠ h) : channelEffect h c call = none := by
  cases call <;> simp only [AmqpCall.handle] at hne <;> simp [channelEffect, hne]

/-! ### Consuming -/

/-- What a call does to the consumption on the channel `c` of the connection `h`.
The broker has confirmed it by a normal reply only. -/
def consumeEffect (h : Option Nat) (c : Int) : AmqpCall → Option Bool
  | .basicConsume conn channel queue reply =>
      if conn = h ∧ channel = c ∧ reply.replyType = .normal then some true
      else channelEffect h c (.basicConsume conn channel queue reply)
  | call => (channelEffect h c call).map fun _ => false

/-- The channel `c` consumes on the connection `h` after the calls. -/
def channelConsumes (h : Option Nat) (c : Int) (calls : List AmqpCall) : Bool :=
  latest (consumeEffect h c) calls

/-- Consuming begins only by an `amqp_basic_consume` that was confirmed. -/
theorem consumeEffect_eq_true {h : Option Nat} {c : Int} {call : AmqpCall}
    (heffect : consumeEffect h c call = some true) :
    ∃ queue reply, call = .basicConsume h c queue reply ∧ reply.replyType = .normal := by
  cases call with
  | basicConsume conn channel queue reply =>
      simp only [consumeEffect] at heffect
      split at heffect
      · next hsame =>
          obtain ⟨rfl, rfl, hgood⟩ := hsame
          exact ⟨queue, reply, rfl, hgood⟩
      · obtain ⟨reply', heq, -⟩ := channelEffect_eq_true heffect
        cases heq
  | _ => simp [consumeEffect] at heffect

/-- The channel a call is about, if it is about one. -/
def AmqpCall.onChannel : AmqpCall → Option Int
  | .exchangeDeclare _ channel .. | .channelOpen _ channel _ | .sendCloseOk _ channel _
  | .channelClose _ channel | .basicConsume _ channel .. | .queueDeclare _ channel ..
  | .queueBind _ channel .. => some channel
  | .basicPublish _ _ message _ => some message.channel
  | .newConnection _ | .tcpSocketNew .. | .socketOpen .. | .login .. | .connectionClose ..
  | .destroyConnection _ | .consumeMessage .. | .maybeReleaseBuffers _ => none

/-- A call about one channel does nothing to the others. -/
theorem effect_of_onChannel {call : AmqpCall} {channel c : Int}
    (hcall : call.onChannel = some channel) (hne : c ≠ channel) (h : Option Nat) :
    channelEffect h c call = none ∧ consumeEffect h c call = none := by
  cases call <;> simp only [AmqpCall.onChannel, Option.some.injEq, reduceCtorEq] at hcall <;>
    subst hcall <;> simp [consumeEffect, channelEffect, Ne.symm hne]

/-! ### Connections that are down -/

/-- A flag that is set by calls on a connection and cleared with it is down when
the connection is not live. -/
theorem latest_of_not_live {conn : Option Nat} {effect : AmqpCall → Option Bool}
    (hsession : ∀ call, effect call = some true → call.session = some conn)
    (hdestroy : effect (.destroyConnection conn) = some false) {calls : List AmqpCall}
    (hguarded : Guarded OnLiveHandle calls) (hdead : ∀ h, conn = some h → ¬Live calls h) :
    latest effect calls = false := by
  induction calls with
  | nil => rfl
  | cons call past ih =>
      obtain ⟨hcall, hpast⟩ := hguarded
      rw [latest_cons]
      cases heffect : effect call with
      | none =>
          refine ih hpast fun h hconn hlive => hdead h hconn ?_
          obtain ⟨hcreated, ⟨username, password, reply, hlogin, hreply⟩, hnot⟩ := hlive
          refine ⟨.tail _ hcreated, ⟨username, password, reply, .tail _ hlogin, hreply⟩, ?_⟩
          intro hmem
          rcases List.mem_cons.mp hmem with rfl | hmem
          · rw [← hconn, hdestroy] at heffect
            cases heffect
          · exact hnot hmem
      | some flag =>
          cases flag with
          | false => rfl
          | true =>
              have huses : call.UsesSession conn := by
                refine ⟨hsession call heffect, ?_⟩
                rintro rfl
                rw [hdestroy] at heffect
                cases heffect
              obtain ⟨h, hconn, hlive⟩ := hcall conn huses.1
              exact absurd ((live_cons_iff huses).mpr hlive) (hdead h hconn)

/-- No channel is open and none consumes on the connection `conn`. -/
def NoneActive (conn : Option Nat) (calls : List AmqpCall) : Prop :=
  ∀ c, channelIsOpen conn c calls = false ∧ channelConsumes conn c calls = false

theorem noneActive_of_not_live {conn : Option Nat} {calls : List AmqpCall}
    (hguarded : Guarded OnLiveHandle calls) (hdead : ∀ h, conn = some h → ¬Live calls h) :
    NoneActive conn calls := by
  intro c
  constructor
  · refine latest_of_not_live (fun call heffect => ?_) (by simp [channelEffect]) hguarded hdead
    obtain ⟨reply, rfl, -⟩ := channelEffect_eq_true heffect
    rfl
  · refine latest_of_not_live (fun call heffect => ?_) (by simp [consumeEffect, channelEffect])
      hguarded hdead
    obtain ⟨queue, reply, rfl, -⟩ := consumeEffect_eq_true heffect
    rfl

/-- Nothing has happened on a handle that no call mentions. -/
theorem noneActive_of_fresh {conn : Option Nat} {calls : List AmqpCall}
    (hfresh : ∀ call ∈ calls, call.handle = conn → call.session = none) :
    NoneActive conn calls := by
  intro c
  constructor
  · by_contra hclosed
    have hopen : channelIsOpen conn c calls = true := by simpa using hclosed
    obtain ⟨call, hcall, heffect⟩ := exists_of_latest hopen
    obtain ⟨reply, rfl, -⟩ := channelEffect_eq_true heffect
    cases hfresh _ hcall rfl
  · by_contra hidle
    have hconsumes : channelConsumes conn c calls = true := by simpa using hidle
    obtain ⟨call, hcall, heffect⟩ := exists_of_latest hconsumes
    obtain ⟨queue, reply, rfl, -⟩ := consumeEffect_eq_true heffect
    cases hfresh _ hcall rfl

/-- Calls that open no channel cannot open one again. -/
theorem noReopen_of_not_open {call : AmqpCall}
    (hcall : ∀ conn channel reply, call ≠ .channelOpen conn channel reply)
    (past : List AmqpCall) : NoReopen past call :=
  fun conn channel reply heq => absurd heq (hcall conn channel reply)

/-- Calls that open no channel. -/
theorem guarded_of_not_open {calls new : List AmqpCall} (hguarded : Guarded NoReopen calls)
    (hnew : ∀ conn channel reply, .channelOpen conn channel reply ∉ new) :
    Guarded NoReopen (new ++ calls) := by
  refine Guarded.append ?_ hguarded
  intro call hcall past
  refine noReopen_of_not_open ?_ past
  rintro conn channel reply rfl
  exact hnew conn channel reply hcall

end HareCpp
