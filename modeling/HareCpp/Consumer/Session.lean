import HareCpp.Consumer.Threads
import HareCpp.Producer.Session

/-!
# Calls on live connections only

`DeclareQueue`, `BindQueue`, `StartConsumption` and `amqp_maybe_release_buffers`
do not look at `m_isConnected`.  The worker calls them in places that it reaches
only while connected (`WorkerPc.needsConnection`): after a successful
`OpenChannel`, or after a test.  Nobody closes the connection in between, as
`Stop` joins the worker first.  `calls_on_live_handles` puts the producer and the
consumer together.
-/

namespace HareCpp
namespace Consumer

open Library ConnectionBase

variable {Callback : Type} {s s' : ConsumerState Callback}

/-- The places at which the next call does not look at `m_isConnected`. -/
def WorkerPc.needsConnection : WorkerPc → Bool
  | .setupProperties .. | .setupDeclare .. | .setupBind .. | .setupConsume .. | .pullRelease =>
      true
  | _ => false

/-- The session is sound, and the worker knows the state of the connection where
it relies on it. -/
structure SessionFacts (s : ConsumerState Callback) : Prop where
  sound : SessionSound s.handles s.calls s.connection
  up : s.worker.needsConnection = true → isConnected s = true
  down : s.worker = .connect → isConnected s = false

/-- The worker does not rely on the connection after `setupAndConsume`. -/
theorem afterSetup_relies (code : HareError) (caller : SetupCaller) :
    (afterSetup code caller).needsConnection = false ∧ afterSetup code caller ≠ .connect := by
  rcases afterSetup_place code caller with h | ⟨rest, channel, h⟩
  · simp only [List.mem_cons, List.not_mem_nil, or_false] at h
    rcases h with h | h | h | h <;> simp [h, WorkerPc.needsConnection]
  · simp [h, WorkerPc.needsConnection]

/-- `OpenChannel` succeeds on a connection that is up only. -/
theorem isConnected_of_openChannel {base : ConnectionBase} {channel : Int} {reply : AmqpRpcReply}
    {closeOkStatus : Int} (h : (base.openChannel channel reply closeOkStatus).code = .allGood) :
    base.isConnected = true := by
  by_contra hdown
  simp [openChannel, hdown] at h

/-- The places that rely on the connection, after a step that only moves on. -/
theorem WorkerGoto.relies {input : WorkerInput} {next : WorkerPc}
    (h : WorkerGoto s input next) :
    (next.needsConnection = true → isConnected s = true) ∧
      (next = .connect → isConnected s = false) := by
  cases h with
  | foundClosed _ hconnected => exact ⟨by rintro ⟨⟩, fun _ => hconnected⟩
  | pullOn _ hconnected => exact ⟨fun _ => hconnected, by rintro ⟨⟩⟩
  | listed =>
      rcases nextChannel_cases .allGood input.order with ⟨-, h⟩ | ⟨-, h⟩ | ⟨_, _, -, h⟩ <;>
        simp [h, WorkerPc.needsConnection]
  | _ => exact ⟨by rintro ⟨⟩, by rintro ⟨⟩⟩

/-- A call that does not look at `m_isConnected`, made at a place that relies on
the connection. -/
theorem SessionFacts.append_call (hfacts : SessionFacts s) {base : ConnectionBase}
    (hbase : s.connection = some base) (hpc : s.worker.needsConnection = true) {call : AmqpCall}
    (hcall : call.UsesSession base.conn) :
    SessionSound s.handles (call :: s.calls) s.connection := by
  have hup : base.isConnected = true := by
    rw [← isConnected_of_connection hbase]
    exact hfacts.up hpc
  have hsound := hfacts.sound
  rw [hbase] at hsound ⊢
  show SessionSound s.handles ([call] ++ s.calls) (some base)
  apply hsound.append
  · intro c hc
    rw [List.mem_singleton.mp hc]
    exact hcall
  · intro hdown
    rw [hup] at hdown
    cases hdown

/-- An operation that looks at `m_isConnected` itself. -/
theorem SessionFacts.append_outcome (hfacts : SessionFacts s) {base : ConnectionBase}
    (hbase : s.connection = some base) {o : Outcome} (ho : o.KeepsSession base) :
    SessionSound s.handles (o.calls ++ s.calls) s.connection := by
  have hsound := hfacts.sound
  rw [hbase] at hsound ⊢
  exact hsound.append ho.uses ho.calls_eq_nil

/-- A step of the worker keeps the session facts. -/
theorem SessionFacts.worker {input : WorkerInput} (hfacts : SessionFacts s)
    (hmove : WorkerMove s input s') : SessionFacts s' := by
  have hconnect : ∀ base, s.worker = .connect → s.connection = some base →
      SessionSound (s.handles + 1) ((base.connect s.handles input.connect).calls ++ s.calls)
        (some (base.connect s.handles input.connect).base) := by
    intro base hpc hbase
    have hsound := hfacts.sound
    rw [hbase] at hsound
    refine hsound.connect ?_ input.connect
    rw [← isConnected_of_connection hbase]
    exact hfacts.down hpc
  cases hmove with
  | goto next hnext => exact ⟨hfacts.sound, hnext.relies.1, hnext.relies.2⟩
  | crash => exact ⟨hfacts.sound, hfacts.up, hfacts.down⟩
  | connected base hpc hbase => exact ⟨hconnect base hpc hbase, by rintro ⟨⟩, by rintro ⟨⟩⟩
  | connectFailed base hpc hbase => exact ⟨hconnect base hpc hbase, by rintro ⟨⟩, by rintro ⟨⟩⟩
  | emptied => exact ⟨hfacts.sound, by rintro ⟨⟩, by rintro ⟨⟩⟩
  | opened caller channel base hpc hbase =>
      refine ⟨hfacts.append_outcome hbase (keepsSession_openChannel _ _ _ _), ?_, ?_⟩
      · intro hneeds
        show isConnected s = true
        rw [isConnected_of_connection hbase]
        rcases setupGoesOn_cases caller channel
          (base.openChannel channel input.reply input.closeOkStatus).code
          (.setupProperties caller channel) with ⟨hcode, -⟩ | ⟨-, h⟩
        · exact isConnected_of_openChannel hcode
        · simp [h, WorkerPc.needsConnection] at hneeds
      · intro hplace
        rcases setupGoesOn_cases caller channel
          (base.openChannel channel input.reply input.closeOkStatus).code
          (.setupProperties caller channel) with ⟨-, h⟩ | ⟨-, h⟩ <;> simp [h] at hplace
  | propertiesRead caller channel hpc =>
      have hneeds : s.worker.needsConnection = true := by rw [hpc]; rfl
      exact ⟨hfacts.sound, fun _ => hfacts.up hneeds, by rintro ⟨⟩⟩
  | declared caller channel base queue hpc hbase | refused caller channel base queue hpc hbase =>
      have hneeds : s.worker.needsConnection = true := by rw [hpc]; rfl
      exact ⟨hfacts.append_call hbase hneeds (by simp [AmqpCall.UsesSession, AmqpCall.session]),
        fun _ => hfacts.up hneeds, by rintro ⟨⟩⟩
  | bound caller channel base queue hpc hbase =>
      have hneeds : s.worker.needsConnection = true := by rw [hpc]; rfl
      refine ⟨hfacts.append_call hbase hneeds (by simp [AmqpCall.UsesSession, AmqpCall.session]),
        fun _ => hfacts.up hneeds, ?_⟩
      intro hplace
      rcases setupGoesOn_cases caller channel (decodeRpcReply input.reply)
        (.setupConsume caller channel queue) with ⟨-, h⟩ | ⟨-, h⟩ <;> simp [h] at hplace
  | consumed caller channel base queue hpc hbase hcode =>
      have hneeds : s.worker.needsConnection = true := by rw [hpc]; rfl
      obtain ⟨hafter, hne⟩ := afterSetup_relies .allGood caller
      refine ⟨hfacts.append_call hbase hneeds (by simp [AmqpCall.UsesSession, AmqpCall.session]),
        ?_, fun h => absurd h hne⟩
      intro h
      rw [show (setupReturns _ caller channel .allGood : ConsumerState Callback).worker =
        afterSetup .allGood caller from rfl, hafter] at h
      cases h
  | consumeFailed caller channel base queue hpc hbase hcode =>
      have hneeds : s.worker.needsConnection = true := by rw [hpc]; rfl
      exact ⟨hfacts.append_call hbase hneeds (by simp [AmqpCall.UsesSession, AmqpCall.session]),
        by rintro ⟨⟩, by rintro ⟨⟩⟩
  | pushed caller channel code hpc =>
      obtain ⟨hafter, hne⟩ := afterSetup_relies code caller
      refine ⟨hfacts.sound, ?_, fun h => absurd h hne⟩
      intro h
      rw [show (setupReturns _ caller channel code : ConsumerState Callback).worker =
        afterSetup code caller from rfl, hafter] at h
      cases h
  | closed base hpc hbase =>
      have hsound := hfacts.sound
      rw [hbase] at hsound
      exact ⟨hsound.close input.reply, by rintro ⟨⟩, by rintro ⟨⟩⟩
  | released base hpc hbase =>
      have hneeds : s.worker.needsConnection = true := by rw [hpc]; rfl
      exact ⟨hfacts.append_call hbase hneeds (by simp [AmqpCall.UsesSession, AmqpCall.session]),
        by rintro ⟨⟩, by rintro ⟨⟩⟩
  | pulled base next hpc hbase hnext =>
      refine ⟨hfacts.append_outcome hbase (keepsSession_consumeMessage _ _), ?_, ?_⟩ <;>
        rcases hnext with rfl | rfl | rfl <;> rintro ⟨⟩
  | processed => exact ⟨hfacts.sound, by rintro ⟨⟩, by rintro ⟨⟩⟩
  | popped => exact ⟨hfacts.sound, by rintro ⟨⟩, by rintro ⟨⟩⟩

/-- A step of a control call keeps the session sound. -/
theorem ControlMove.sessionSound {reply : AmqpRpcReply} {pc : ControlPc}
    (hmove : ControlMove s reply pc s') (hsound : SessionSound s.handles s.calls s.connection) :
    SessionSound s'.handles s'.calls s'.connection := by
  cases hmove with
  | stopRefused => simpa using hsound
  | stopped caller base hbase =>
      rw [hbase] at hsound
      simpa using hsound.close reply
  | initConnection credentials => exact hsound.release reply (some credentials)
  | destroyClosed base hinit hbase =>
      rw [hbase] at hsound
      exact hsound.close reply
  | destroyed hworker => exact hsound.release reply none
  | _ => exact hsound

/-- A step of a control call keeps the session facts: the worker is not there, or
its connection is left alone. -/
theorem SessionFacts.control {reply : AmqpRpcReply} {pc : ControlPc} (hfacts : SessionFacts s)
    (hcall : CallFacts s (some pc)) (hmove : ControlMove s reply pc s') : SessionFacts s' := by
  refine ⟨hmove.sessionSound hfacts.sound, ?_, ?_⟩
  · intro hneeds
    rcases hmove.worker with hsame | ⟨-, hnew⟩ | ⟨-, hnew⟩
    · rw [hsame] at hneeds
      have halive : s.worker ≠ .none := by
        intro hnone
        simp [hnone, WorkerPc.needsConnection] at hneeds
      rw [isConnected, (hcall.control_alone hmove halive).1]
      exact hfacts.up hneeds
    · simp [hnew, WorkerPc.needsConnection] at hneeds
    · simp [hnew, WorkerPc.needsConnection] at hneeds
  · intro hplace
    rcases hmove.worker with hsame | ⟨-, hnew⟩ | ⟨-, hnew⟩
    · rw [hsame] at hplace
      rw [isConnected, (hcall.control_alone hmove (by simp [hplace])).1]
      exact hfacts.down hplace
    · simp [hnew] at hplace
    · simp [hnew] at hplace

theorem SessionFacts.user (hfacts : SessionFacts s) (hframe : UserFrame s s') :
    SessionFacts s' := by
  obtain ⟨hconn, -, -, hworker, -, hhandles, hcalls⟩ := hframe
  have hconnected : isConnected s' = isConnected s := by rw [isConnected, isConnected, hconn]
  refine ⟨?_, ?_, ?_⟩
  · rw [hconn, hhandles, hcalls]
    exact hfacts.sound
  · rw [hworker, hconnected]
    exact hfacts.up
  · rw [hworker, hconnected]
    exact hfacts.down

/-- The session facts hold in every state of a run with one control thread. -/
theorem sessionFacts_reachable (hs : system.ReachableUnder OneControl s) : SessionFacts s := by
  refine hs.induction SessionFacts ?_ ?_
  · exact ⟨⟨callsSound_nil, by rintro _ ⟨⟩⟩, by rintro ⟨⟩, by rintro ⟨⟩⟩
  · intro s action s' hreach _ hfacts hstep
    obtain ⟨hstatus, hmove⟩ := move_of_step hstep
    cases hmove with
    | worker input _ hmove => exact hfacts.worker hmove
    | subscribeRefused => exact hfacts.user ⟨rfl, rfl, rfl, rfl, rfl, rfl, rfl⟩
    | subscribeBegins => exact hfacts.user ⟨rfl, rfl, rfl, rfl, rfl, rfl, rfl⟩
    | subscribe k pc rest _ hpick hmove =>
        have hsame : SessionFacts { s with subscribes := rest } :=
          hfacts.user ⟨rfl, rfl, rfl, rfl, rfl, rfl, rfl⟩
        exact hsame.user hmove.frame
    | begin call => exact ⟨hfacts.sound, hfacts.up, hfacts.down⟩
    | control k reply pc rest _ hpick _ hmove =>
        have hsame : SessionFacts { s with controls := rest } :=
          ⟨hfacts.sound, hfacts.up, hfacts.down⟩
        exact hsame.control ((threadFacts_reachable hreach hstatus).picked hpick).2 hmove

end Consumer

open Library ConnectionBase

/-- All calls outside `connectBasic` and `login` were made on live handles,
`m_isConnected` tells whether the current handle is live, and no handle was
destroyed twice. -/
structure LiveCallsOnly (calls : List AmqpCall) (connection : Option ConnectionBase) : Prop where
  onLiveHandle : Guarded OnLiveHandle calls
  connected_iff : ∀ base, connection = some base →
    (base.isConnected = true ↔ ∃ h, base.conn = some h ∧ Live calls h)
  destroyedOnce : ∀ h, calls.count (.destroyConnection (some h)) ≤ 1

theorem SessionSound.liveCallsOnly {handles : Nat} {calls : List AmqpCall}
    {connection : Option ConnectionBase} (hsound : SessionSound handles calls connection) :
    LiveCallsOnly calls connection :=
  ⟨hsound.callsSound.guarded, fun base hbase => (hsound.baseSound base hbase).connected_iff,
    count_destroyConnection_le_one hsound.callsSound.guarded⟩

/-- In every run of a producer or a consumer with one control thread, rabbitmq-c
is called on live handles only. -/
theorem calls_on_live_handles :
    (∀ s : ProducerState, Producer.system.ReachableUnder Producer.OneControl s →
      LiveCallsOnly s.calls s.connection) ∧
    ∀ (Callback : Type) (s : ConsumerState Callback),
      Consumer.system.ReachableUnder Consumer.OneControl s →
        LiveCallsOnly s.calls s.connection := by
  constructor
  · intro s hs
    exact (Producer.sessionSound_reachable hs).liveCallsOnly
  · intro Callback s hs
    exact (Consumer.sessionFacts_reachable hs).sound.liveCallsOnly

/-- `Initialize` and `Start` of a consumer, up to the first test of the worker. -/
def Consumer.startUp : List (Consumer.Action Nat) :=
  [.begin (.initializeWith {}), .control 0 .normal, .control 0 .normal, .control 0 .normal,
    .begin .start, .control 0 .normal]

/-- A producer that has connected and a consumer that has connected, found a
message and lost the connection. -/
theorem calls_on_live_handles_run :
    (∃ s : ProducerState, (Producer.system.ReachableUnder Producer.OneControl s ∧
        Producer.isConnected s = true) ∧ LiveCallsOnly s.calls s.connection) ∧
    ∃ s : ConsumerState Nat, (Consumer.system.ReachableUnder Consumer.OneControl s ∧
        (s.calls.length = 8 ∧ Consumer.isConnected s = false)) ∧
      LiveCallsOnly s.calls s.connection := by
  constructor
  · obtain ⟨s, hs, hup⟩ := TransitionSystem.exists_reachableUnder_of_run (M := Producer.system)
      Producer.OneControl
      [.begin (.initializeWith {}), .control 0 {}, .control 0 {}, .control 0 {}, .begin .start,
        .control 0 {}, .control 0 {}, .control 0 {}, .control 0 {}, .worker {}, .worker {},
        .worker {}]
      Producer.isConnected (by decide +kernel)
    exact ⟨s, ⟨hs, hup⟩, calls_on_live_handles.1 s hs⟩
  · obtain ⟨s, hs, hlost⟩ := TransitionSystem.exists_reachableUnder_of_run (M := Consumer.system)
      Consumer.OneControl
      (List.flatten [Consumer.startUp,
        [.worker {}, .worker {}, .worker {}, .worker {}, .worker {}, .worker {},
        .worker {}, .worker { reply := { replyType := .libraryException, libraryError := -7 } },
        .worker {}, .worker {}]])
      (fun s => decide (s.calls.length = 8 ∧ Consumer.isConnected s = false)) (by decide +kernel)
    exact ⟨s, ⟨hs, of_decide_eq_true hlost⟩, calls_on_live_handles.2 Nat s hs⟩

end HareCpp
