import HareCpp.LiveHandle

/-!
# One `ConnectionBase`, several threads

The operations of `ConnectionBase` as several threads run them on one connected
object.  A step is the read of `m_isConnected`, one section under `m_connMutex`,
or the store that clears the flag.  All operations but `CloseChannel` read the
flag before they take the lock and do not look at it again, and `CloseConnection`
clears it after it has given the lock back.

* `run_alone` — an operation that nobody disturbs is the operation of
  `ConnectionBase`.
* `calls_before_destroy` — no call reaches a handle that was destroyed, as long
  as `CloseConnection` takes the lock only when nobody else has passed the test,
  and nobody passes the test before it has cleared the flag.
* `call_after_destroy` — without that, a call does.
-/

namespace HareCpp
namespace Gatekeeper

open Library ConnectionBase

/-- A call of one of the operations, with its arguments. -/
inductive Operation
  | openChannel (channel : Int)
  | declareExchange (channel : Int) (exchange type : Bytes)
  | publishMessage (object : Nat) (message : RawMessage)
  | consumeMessage
  | closeChannel (channel : Int)
  | closeConnection
  deriving DecidableEq, Repr

/-- Where a call stands. -/
inductive CallPc
  /-- `IsConnected()`, before the lock is taken -/
  | test (operation : Operation)
  /-- the section under `m_connMutex` -/
  | locked (operation : Operation)
  /-- `CloseConnection`: `setConnected(false)` -/
  | clear (code : HareError)
  deriving DecidableEq, Repr

/-- What the library and the clock contribute to a section. -/
structure Answers where
  reply : AmqpRpcReply := .normal
  closeOkStatus : Int := 0
  now : UInt64 := 0
  publishStatus : Int := 0

/-- The object, the calls in flight, and the calls into rabbitmq-c and the codes
returned so far, newest first. -/
structure GateState where
  base : ConnectionBase
  inFlight : List CallPc
  calls : List AmqpCall
  returned : List HareError

/-- An operation of `ConnectionBase` in one piece. -/
def Operation.outcome (base : ConnectionBase) (answers : Answers) : Operation → Outcome
  | .openChannel channel => base.openChannel channel answers.reply answers.closeOkStatus
  | .declareExchange channel exchange type =>
      base.declareExchange channel exchange type answers.reply
  | .publishMessage object message =>
      (base.publishMessage object message answers.now answers.publishStatus).1
  | .consumeMessage => base.consumeMessage answers.reply
  | .closeChannel channel => base.closeChannel channel
  | .closeConnection => base.closeConnection answers.reply

/-- The object as a thread takes it to be that has passed the test. -/
def passed (base : ConnectionBase) : ConnectionBase := { base with isConnected := true }

/-- Where a call begins: `CloseChannel` takes the lock first. -/
def Operation.entry : Operation → CallPc
  | .closeChannel channel => .locked (.closeChannel channel)
  | operation => .test operation

/-- A call goes on at `pc`. -/
def goOn (s : GateState) (pc : CallPc) : GateState := { s with inFlight := pc :: s.inFlight }

/-- A call returns. -/
def returnCode (s : GateState) (code : HareError) : GateState :=
  { s with returned := code :: s.returned }

/-- The next step of a call at `pc`; `s.inFlight` holds the others. -/
def callStep (s : GateState) (answers : Answers) : CallPc → GateState
  | .test operation =>
      if s.base.isConnected then goOn s (.locked operation)
      else
        match operation with
        | .closeConnection => goOn s (.clear .allGood)
        | _ => returnCode s .serverConnectionFailure
  | .locked .closeConnection =>
      let o := (passed s.base).closeConnection answers.reply
      goOn { s with
        base := { s.base with connectionFailure := o.base.connectionFailure }
        calls := o.calls ++ s.calls } (.clear o.code)
  | .locked (.closeChannel channel) =>
      -- the test is made under the lock
      let o := s.base.closeChannel channel
      returnCode { s with calls := o.calls ++ s.calls } o.code
  | .locked operation =>
      let o := operation.outcome (passed s.base) answers
      returnCode { s with calls := o.calls ++ s.calls } o.code
  | .clear code => returnCode { s with base := { s.base with isConnected := false } } code

/-- Everything that can happen next. -/
inductive Action
  | begin (operation : Operation)
  /-- the next step of the `k`-th call in flight -/
  | call (k : Nat) (answers : Answers)

/-- One step of the whole system. -/
def step (s : GateState) : Action → Option GateState
  | .begin operation => some (goOn s operation.entry)
  | .call k answers =>
      match pick s.inFlight k with
      | none => none
      | some (pc, rest) => some (callStep { s with inFlight := rest } answers pc)

/-- The object `base` under use by several threads, after the calls `past`. -/
def system (base : ConnectionBase) (past : List AmqpCall) : TransitionSystem GateState Action where
  init := { base := base, inFlight := [], calls := past, returned := [] }
  step := step

/-! ### One thread alone -/

/-- The steps a call takes when nobody disturbs it. -/
def Operation.stepsAlone (base : ConnectionBase) : Operation → Nat
  | .closeChannel _ => 1
  | .closeConnection => if base.isConnected then 3 else 2
  | _ => if base.isConnected then 2 else 1

/-- An operation that nobody disturbs is the operation of `ConnectionBase`. -/
theorem run_alone (base : ConnectionBase) (past : List AmqpCall) (answers : Answers)
    (operation : Operation) {s : GateState} (hnone : s.inFlight = []) :
    (system base past).run (fun _ _ => True) s
        (.begin operation :: List.replicate (operation.stepsAlone s.base) (.call 0 answers)) =
      some { base := (operation.outcome s.base answers).base
             inFlight := []
             calls := (operation.outcome s.base answers).calls ++ s.calls
             returned := (operation.outcome s.base answers).code :: s.returned } := by
  obtain ⟨base, inFlight, calls, returned⟩ := s
  obtain rfl : inFlight = [] := hnone
  cases hup : base.isConnected with
  | true =>
      have hpassed : passed base = base := by rw [passed, ← hup]
      cases operation <;>
        simp [TransitionSystem.run, system, step, pick, callStep, goOn, returnCode, hup, hpassed,
          Operation.entry, Operation.stepsAlone, Operation.outcome, openChannel, declareExchange,
          publishMessage, consumeMessage, closeChannel, closeConnection]
  | false =>
      have hcleared : { base with isConnected := false } = base := by rw [← hup]
      cases operation <;>
        simp [TransitionSystem.run, system, step, pick, callStep, goOn, returnCode, hup, hcleared,
          Operation.entry, Operation.stepsAlone, Operation.outcome, openChannel, declareExchange,
          publishMessage, consumeMessage, closeChannel, closeConnection]

/-! ### The window between the test and the lock -/

/-- A call that has passed the test and not taken the lock yet. -/
def CallPc.committed : CallPc → Bool
  | .locked (.closeChannel _) => false
  | .locked _ => true
  | .test _ | .clear _ => false

/-- A `CloseConnection` that has not cleared the flag yet. -/
def CallPc.clears : CallPc → Bool
  | .clear _ => true
  | .test _ | .locked _ => false

/-- `CloseConnection` takes the lock while nobody else has passed the test, and
nobody finds the flag set that a `CloseConnection` is about to clear. -/
def ExclusiveAt (base : ConnectionBase) (others : List CallPc) : CallPc → Prop
  | .locked .closeConnection => ∀ pc ∈ others, pc.committed = false
  | .test _ | .locked (.closeChannel _) =>
      base.isConnected = true → ∀ pc ∈ others, pc.clears = false
  | .locked _ | .clear _ => True

instance (base : ConnectionBase) (others : List CallPc) :
    (pc : CallPc) → Decidable (ExclusiveAt base others pc)
  | .locked .closeConnection => inferInstanceAs (Decidable (∀ pc ∈ others, _))
  | .test _ | .locked (.closeChannel _) => inferInstanceAs (Decidable (_ → _))
  | .locked (.openChannel _) | .locked (.declareExchange ..) | .locked (.publishMessage ..)
  | .locked .consumeMessage | .clear _ => inferInstanceAs (Decidable True)

/-- The condition, for the step that is taken. -/
def Exclusive (s : GateState) : Action → Prop
  | .begin _ => True
  | .call k _ => ∀ next ∈ pick s.inFlight k, ExclusiveAt s.base next.2 next.1

instance (s : GateState) : (action : Action) → Decidable (Exclusive s action)
  | .begin _ => inferInstanceAs (Decidable True)
  | .call k _ => inferInstanceAs (Decidable (∀ next ∈ pick s.inFlight k, _))

/-- A call is not made on a handle that was destroyed. -/
def NotOnDestroyed (past : List AmqpCall) (call : AmqpCall) : Prop :=
  ∀ h, call.session = some (some h) → .destroyConnection (some h) ∉ past

instance (past : List AmqpCall) (call : AmqpCall) : Decidable (NotOnDestroyed past call) :=
  match hsession : call.session with
  | some (some h) =>
      decidable_of_iff (.destroyConnection (some h) ∉ past) (by simp [NotOnDestroyed, hsession])
  | some none | none => .isTrue (by simp [NotOnDestroyed, hsession])

/-- The handle is live, or it was destroyed and nobody is on the way to it: no
call has passed the test, and the flag is cleared or about to be. -/
structure GateFacts (h : Nat) (s : GateState) : Prop where
  conn : s.base.conn = some h
  guarded : Guarded OnLiveHandle s.calls
  state : Live s.calls h ∨
    ((∀ pc ∈ s.inFlight, pc.committed = false) ∧
      (s.base.isConnected = true → ∃ pc ∈ s.inFlight, pc.clears = true))

/-- The same, with one call singled out. -/
theorem GateFacts.picked {h : Nat} {s : GateState} (hfacts : GateFacts h s) {k : Nat}
    {pc : CallPc} {rest : List CallPc} (hpick : pick s.inFlight k = some (pc, rest)) :
    Live s.calls h ∨
      (pc.committed = false ∧ (∀ other ∈ rest, other.committed = false) ∧
        (s.base.isConnected = true →
          pc.clears = true ∨ ∃ other ∈ rest, other.clears = true)) := by
  have hmem : ∀ other, other ∈ s.inFlight ↔ other = pc ∨ other ∈ rest := by
    intro other
    rw [(perm_of_pick hpick).mem_iff, List.mem_cons]
  obtain hlive | ⟨hcommitted, hclears⟩ := hfacts.state
  · exact .inl hlive
  · right
    simp only [hmem] at hcommitted hclears
    refine ⟨hcommitted pc (.inl rfl), fun other hother => hcommitted other (.inr hother), ?_⟩
    intro hup
    obtain ⟨other, rfl | hother, hother'⟩ := hclears hup
    · exact .inl hother'
    · exact .inr ⟨other, hother, hother'⟩

/-- An operation on the live handle that leaves it live. -/
theorem GateFacts.append {h : Nat} {s : GateState} {rest : List CallPc}
    (hconn : s.base.conn = some h) (hguarded : Guarded OnLiveHandle s.calls)
    (hlive : Live s.calls h) {new : List AmqpCall} (code : HareError)
    (hnew : ∀ call ∈ new, call.UsesSession s.base.conn) :
    GateFacts h (returnCode { s with inFlight := rest, calls := new ++ s.calls } code) := by
  rw [hconn] at hnew
  obtain ⟨hguarded', hsame⟩ := guarded_append_live hguarded hlive hnew
  exact ⟨hconn, hguarded', .inl ((hsame h).mpr hlive)⟩

/-- An operation that tests the flag before it takes the lock, once it has the
lock. -/
theorem Operation.uses {operation : Operation} (base : ConnectionBase) (answers : Answers)
    (hopen : operation ≠ .closeConnection) :
    ∀ call ∈ (operation.outcome (passed base) answers).calls, call.UsesSession base.conn := by
  cases operation with
  | openChannel channel =>
      exact (keepsSession_openChannel (passed base) channel answers.reply
        answers.closeOkStatus).uses
  | declareExchange channel exchange type =>
      exact (keepsSession_declareExchange (passed base) channel exchange type answers.reply).uses
  | publishMessage object message =>
      exact (keepsSession_publishMessage (passed base) object message answers.now
        answers.publishStatus).uses
  | consumeMessage => exact (keepsSession_consumeMessage (passed base) answers.reply).uses
  | closeChannel channel => exact (keepsSession_closeChannel (passed base) channel).uses
  | closeConnection => exact absurd rfl hopen

/-- `CloseConnection` under the lock destroys the live handle while nobody else is
on the way to it. -/
theorem GateFacts.destroy {h : Nat} {s : GateState} {rest : List CallPc}
    (hconn : s.base.conn = some h) (hguarded : Guarded OnLiveHandle s.calls)
    (hlive : Live s.calls h) (hrest : ∀ other ∈ rest, other.committed = false)
    (answers : Answers) :
    GateFacts h (callStep { s with inFlight := rest } answers (.locked .closeConnection)) := by
  have hcalls : ((passed s.base).closeConnection answers.reply).calls =
      [.destroyConnection (some h), .connectionClose (some h) answers.reply] := by
    rw [(closeConnection_of_connected rfl answers.reply).1]
    show [_, _] = [_, _]
    rw [← hconn]
    rfl
  have hclose : ∀ call ∈ [AmqpCall.connectionClose (some h) answers.reply],
      call.UsesSession (some h) := by
    simp [AmqpCall.UsesSession, AmqpCall.session]
  obtain ⟨hguarded', hsame⟩ := guarded_append_live hguarded hlive hclose
  simp only [callStep, goOn, hcalls]
  refine ⟨hconn, ⟨?_, hguarded'⟩, .inr ⟨?_, ?_⟩⟩
  · intro conn hsession
    exact ⟨h, (Option.some.inj hsession).symm, (hsame h).mpr hlive⟩
  · intro other hother
    obtain rfl | hother := List.mem_cons.mp hother
    · rfl
    · exact hrest other hother
  · intro _
    exact ⟨_, List.mem_cons_self, rfl⟩

/-- A step of a call keeps the gate facts. -/
theorem GateFacts.call {h : Nat} {s : GateState} (hfacts : GateFacts h s) {k : Nat}
    {pc : CallPc} {rest : List CallPc} (hpick : pick s.inFlight k = some (pc, rest))
    (hexclusive : ExclusiveAt s.base rest pc) (answers : Answers) :
    GateFacts h (callStep { s with inFlight := rest } answers pc) := by
  have hstate := hfacts.picked hpick
  obtain ⟨hconn, hguarded, -⟩ := hfacts
  -- a call that has passed the test finds the handle live
  have hlive : pc.committed = true → Live s.calls h := by
    intro hcommitted
    obtain hlive | ⟨hnot, -⟩ := hstate
    · exact hlive
    · rw [hcommitted] at hnot
      cases hnot
  -- and so does one that finds the flag set now, as nobody is about to clear it
  have hseen : pc.clears = false → s.base.isConnected = true →
      (∀ other ∈ rest, other.clears = false) → Live s.calls h := by
    intro hpc hup hnone
    obtain hlive | ⟨-, -, hclears⟩ := hstate
    · exact hlive
    · obtain hclear | ⟨other, hother, hclear⟩ := hclears hup
      · rw [hpc] at hclear
        cases hclear
      · rw [hnone other hother] at hclear
        cases hclear
  cases pc with
  | test operation =>
      by_cases hup : s.base.isConnected = true
      · simp only [callStep, hup, if_true]
        exact ⟨hconn, hguarded, .inl (hseen rfl hup (hexclusive hup))⟩
      · have hdown : Live s.calls h ∨ (∀ other ∈ rest, other.committed = false) :=
          hstate.imp id fun hrest => hrest.2.1
        simp only [callStep, hup]
        cases operation with
        | closeConnection =>
            refine ⟨hconn, hguarded, hdown.imp id fun hrest => ⟨?_, fun h => absurd h hup⟩⟩
            intro other hother
            obtain rfl | hother := List.mem_cons.mp hother
            · rfl
            · exact hrest other hother
        | _ => exact ⟨hconn, hguarded, hdown.imp id fun hrest => ⟨hrest, fun h => absurd h hup⟩⟩
  | locked operation =>
      cases operation with
      | closeConnection => exact .destroy hconn hguarded (hlive rfl) hexclusive answers
      | closeChannel channel =>
          by_cases hup : s.base.isConnected = true
          · exact .append hconn hguarded (hseen rfl hup (hexclusive hup)) _
              (keepsSession_closeChannel s.base channel).uses
          · have hnone : (s.base.closeChannel channel).calls = [] :=
              (keepsSession_closeChannel s.base channel).calls_eq_nil (by simpa using hup)
            simp only [callStep, hnone]
            refine ⟨hconn, hguarded, hstate.imp id fun hrest => ⟨hrest.2.1, ?_⟩⟩
            exact fun h => absurd h hup
      | _ => exact .append hconn hguarded (hlive rfl) _ (Operation.uses s.base answers (by simp))
  | clear code =>
      refine ⟨hconn, hguarded, hstate.imp id fun hrest => ⟨hrest.2.1, ?_⟩⟩
      rintro ⟨⟩

/-- The gate facts hold in every state of a run that keeps the window shut. -/
theorem gateFacts_reachable {base : ConnectionBase} {past : List AmqpCall} {h : Nat}
    (hconn : base.conn = some h) (hguarded : Guarded OnLiveHandle past) (hlive : Live past h)
    {s : GateState} (hs : (system base past).ReachableUnder Exclusive s) : GateFacts h s := by
  apply hs.induction (GateFacts h)
  · exact ⟨hconn, hguarded, .inl hlive⟩
  · intro s action s' _ hexclusive hfacts hstep
    cases action with
    | begin operation =>
        obtain rfl := Option.some.inj hstep
        obtain ⟨hconn, hguarded, hstate⟩ := hfacts
        refine ⟨hconn, hguarded, hstate.imp id fun hrest => ⟨?_, fun hup => ?_⟩⟩
        · intro other hother
          obtain rfl | hother := List.mem_cons.mp hother
          · cases operation <;> rfl
          · exact hrest.1 other hother
        · obtain ⟨other, hother, hclears⟩ := hrest.2 hup
          exact ⟨other, .tail _ hother, hclears⟩
    | call k answers =>
        have hstep : (match pick s.inFlight k with
            | none => none
            | some (pc, rest) => some (callStep { s with inFlight := rest } answers pc)) =
          some s' := hstep
        cases hpick : pick s.inFlight k with
        | none =>
            rw [hpick] at hstep
            cases hstep
        | some next =>
            obtain ⟨pc, rest⟩ := next
            rw [hpick] at hstep
            obtain rfl := Option.some.inj hstep
            exact hfacts.call hpick (hexclusive (pc, rest) hpick) answers

/-- Several threads may use a connected object: as long as the window between the
test and the lock is not hit, no call is made on a destroyed handle, and none is
destroyed twice. -/
theorem calls_before_destroy {handles : Nat} {past : List AmqpCall} {base : ConnectionBase}
    (hsound : SessionSound handles past (some base)) (hup : base.isConnected = true)
    {s : GateState} (hs : (system base past).ReachableUnder Exclusive s) :
    Guarded NotOnDestroyed s.calls ∧
      ∀ h, s.calls.count (.destroyConnection (some h)) ≤ 1 := by
  obtain ⟨h, hconn, hlive⟩ := (hsound.baseSound base rfl).connected_iff.mp hup
  have hfacts := gateFacts_reachable hconn hsound.callsSound.guarded hlive hs
  constructor
  · apply hfacts.guarded.mono
    intro earlier call _ hcall g hsession
    obtain ⟨g', hg, hlive⟩ := hcall _ hsession
    obtain rfl := Option.some.inj hg
    exact hlive.notDestroyed
  · exact count_destroyConnection_le_one hfacts.guarded

/-- A fresh object after a successful `Connect`. -/
def connected : Outcome := (ConnectionBase.new {}).connect 0 {}

theorem sessionSound_connected : SessionSound 1 connected.calls (some connected.base) := by
  have hfresh : SessionSound 0 [] (some (ConnectionBase.new {})) :=
    .of_base callsSound_nil (baseSound_new 0 [] {})
  have hconnect := hfresh.connect rfl {}
  rwa [List.append_nil] at hconnect

/-- A `PublishMessage` is through before a `CloseConnection` takes the lock; a
second one finds the connection closed. -/
theorem calls_before_destroy_run :
    ∃ s, ((system connected.base connected.calls).ReachableUnder Exclusive s ∧
        s.returned = [.serverConnectionFailure, .allGood, .allGood]) ∧
      Guarded NotOnDestroyed s.calls ∧
      ∀ h, s.calls.count (.destroyConnection (some h)) ≤ 1 := by
  obtain ⟨s, hs, htest⟩ := TransitionSystem.exists_reachableUnder_of_run
    (M := system connected.base connected.calls) Exclusive
    [.begin .closeConnection, .begin (.publishMessage 0 {}), .call 0 {}, .call 1 {}, .call 1 {},
      .begin (.publishMessage 1 {}), .call 1 {}, .call 0 {}, .call 0 {}]
    (fun s => decide (s.returned = [.serverConnectionFailure, .allGood, .allGood]))
    (by decide +kernel)
  exact ⟨s, ⟨hs, of_decide_eq_true htest⟩,
    calls_before_destroy sessionSound_connected rfl hs⟩

/-- Two threads pass the test before one of them destroys the handle: the other
one uses it, or destroys it again. -/
theorem call_after_destroy :
    SessionSound 1 connected.calls (some connected.base) ∧ connected.base.isConnected = true ∧
    (∃ s, (system connected.base connected.calls).ReachableUnder (fun _ _ => True) s ∧
      ¬Guarded NotOnDestroyed s.calls) ∧
    ∃ s, (system connected.base connected.calls).ReachableUnder (fun _ _ => True) s ∧
      s.calls.count (.destroyConnection (some 0)) = 2 := by
  refine ⟨sessionSound_connected, rfl, ?_, ?_⟩
  · obtain ⟨s, hs, htest⟩ := TransitionSystem.exists_reachableUnder_of_run
      (M := system connected.base connected.calls) (fun _ _ => True)
      [.begin (.publishMessage 0 {}), .begin .closeConnection, .call 0 {}, .call 1 {},
        .call 1 {}, .call 1 {}]
      (fun s => decide ¬Guarded NotOnDestroyed s.calls) (by decide +kernel)
    exact ⟨s, hs, of_decide_eq_true htest⟩
  · obtain ⟨s, hs, htest⟩ := TransitionSystem.exists_reachableUnder_of_run
      (M := system connected.base connected.calls) (fun _ _ => True)
      [.begin .closeConnection, .begin .closeConnection, .call 0 {}, .call 1 {}, .call 0 {},
        .call 1 {}]
      (fun s => decide (s.calls.count (.destroyConnection (some 0)) = 2)) (by decide +kernel)
    exact ⟨s, hs, of_decide_eq_true htest⟩

end Gatekeeper
end HareCpp
