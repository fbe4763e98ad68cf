import HareCpp.Library.Progress
import HareCpp.Producer.Defined
import HareCpp.Producer.Publishing

/-!
# The lifecycle of a producer

One thread calls `Initialize`, `Start`, `Stop` and `Restart` in any order, with
`Send` and `DeclareExchange` from any thread.  What these calls return, and what
`IsInitialized` and `IsRunning` say between them, is what the automaton
`lifecycle` says.

`Stop` closes the connection after its tests on every branch, so a `Stop` before
the first `Initialize` goes through a null `m_connection`: the condition is that
there is none (`StopInitialized`).  `Restart` tests `IsInitialized` itself.

* `LifeFacts` — the automaton has accepted what the calls returned, and its state
  agrees with the members, by where the call in flight stands.
* `call_proceeds` — the call in flight comes to its return, whatever the broker does;
  it waits for the worker at the `join` of `Stop`, and the worker comes to the end of
  its loop.
* `lifecycle_refined` — both, in every run.
-/

namespace HareCpp
namespace Producer

open Library TransitionSystem ConnectionBase

variable {s s' : ProducerState}

/-! ### The automaton and the condition -/

/-- What a call returns in a state, and the state it leaves.  `Initialize` is not
called on a running producer. -/
def lifecycle : LifeState → Api → Option (HareError × LifeState)
  | .uninitialized, .start | .uninitialized, .stop | .uninitialized, .restart =>
      some (.notInitialized, .uninitialized)
  | .idle, .start => some (.allGood, .running)
  | .idle, .stop | .idle, .restart => some (.threadNotRunning, .idle)
  | .running, .start => some (.threadAlreadyRunning, .running)
  | .running, .stop => some (.allGood, .idle)
  | .running, .restart => some (.allGood, .running)
  | .uninitialized, .initialized | .idle, .initialized => some (.allGood, .idle)
  | .running, .initialized | _, .declareExchange | _, .send => none

/-- The automaton accepts the return of a call with the code it says. -/
def accepts (state : LifeState) (returned : Api × HareError) : Option LifeState :=
  (lifecycle state returned.1).bind fun next =>
    if returned.2 = next.1 then some next.2 else none

/-- One thread makes the control calls, and does not call `Initialize` while the
producer is running. -/
def OneCaller (s : ProducerState) : Action → Prop
  | .begin (.initializeWith _) => s.controls = [] ∧ s.threadRunning = false
  | .begin .destroy => False
  | .begin _ => s.controls = []
  | _ => True

/-- `Stop` is not called before the first `Initialize`. -/
def StopInitialized (s : ProducerState) : Action → Prop
  | .begin .stop => s.isInitialized = true
  | _ => True

/-- The two together. -/
def LifecycleRun (s : ProducerState) (action : Action) : Prop :=
  OneCaller s action ∧ StopInitialized s action

instance (s : ProducerState) : (action : Action) → Decidable (OneCaller s action)
  | .begin (.initializeWith _) => inferInstanceAs (Decidable (_ ∧ _))
  | .begin .start | .begin .stop | .begin .restart => inferInstanceAs (Decidable (_ = _))
  | .begin .destroy => inferInstanceAs (Decidable False)
  | .worker _ | .declareExchange .. | .send _ | .sendPush _ | .control .. =>
      inferInstanceAs (Decidable True)

instance (s : ProducerState) : (action : Action) → Decidable (StopInitialized s action)
  | .begin .stop => inferInstanceAs (Decidable (_ = _))
  | .begin .start | .begin .restart | .begin (.initializeWith _) | .begin .destroy | .worker _
  | .declareExchange .. | .send _ | .sendPush _ | .control .. => inferInstanceAs (Decidable True)

instance (s : ProducerState) (action : Action) : Decidable (LifecycleRun s action) :=
  inferInstanceAs (Decidable (_ ∧ _))

/-! ### The invariant -/

/-- The flags while a call is in flight; `state` is that of the automaton before the
call. -/
def CallAgrees (state : LifeState) (initialized running : Bool) : ControlPc → Prop
  | .startInitialized false | .startRunning false | .restartInitialized =>
      state.Agrees initialized running
  | .startSet false | .startSpawn false => state = .idle
  -- `Restart` has stopped the producer
  | .startInitialized true | .startRunning true =>
      state = .running ∧ initialized = true ∧ running = false
  | .startSet true | .startSpawn true => state = .running
  | .stopInitialized caller | .stopRunning caller =>
      caller ≠ .destructor ∧ initialized = true ∧ state.Agrees initialized running
  | .stopSet caller | .stopJoin caller | .stopFlag caller =>
      caller ≠ .destructor ∧ state = .running
  | .stopClose caller code | .stopClearTest caller code | .stopClearFront caller code
  | .stopClearPop caller code =>
      caller ≠ .destructor ∧ initialized = true ∧
        ((code = .allGood ∧ state = .running) ∨ (code = .threadNotRunning ∧ state = .idle))
  | .initConnection _ | .initInitialized => state ≠ .running
  | .initRunning => state ≠ .running ∧ initialized = true
  | .destroyInitialized | .destroyRunning | .destroyChannels | .destroyClose
  | .destroyMembers => False

/-- The run is defined, and the automaton has accepted what the calls returned. -/
structure LifeFacts (s : ProducerState) : Prop where
  status : s.status = .running
  front : s.worker.holdsFront = true → s.sendQueue ≠ []
  clearing : ∀ pc ∈ s.controls, pc.holdsFront = true → s.sendQueue ≠ []
  state : ∃ state, replay accepts .uninitialized (controlReturns s) = some state ∧
    (s.controls = [] → state.Agrees s.isInitialized s.threadRunning) ∧
    ∀ pc ∈ s.controls, CallAgrees state s.isInitialized s.threadRunning pc

/-! ### Steps of a call -/

/-- A state with no call in flight, whose automaton is in `state`. -/
structure Between (s : ProducerState) (state : LifeState) : Prop where
  controls : s.controls = []
  status : s.status = .running
  front : s.worker.holdsFront = true → s.sendQueue ≠ []
  replayed : replay accepts .uninitialized (controlReturns s) = some state

/-- A call goes on. -/
theorem Between.goOn {state : LifeState} (h : Between s state) (next : ControlPc)
    (hclearing : next.holdsFront = true → s.sendQueue ≠ [])
    (hcall : CallAgrees state s.isInitialized s.threadRunning next) :
    LifeFacts (goOn s next) := by
  have hcontrols : (Producer.goOn s next).controls = [next] := by simp [Producer.goOn, h.controls]
  refine ⟨h.status, h.front, ?_, state, h.replayed, ?_, ?_⟩
  · rw [hcontrols]
    intro pc hpc
    rw [List.mem_singleton.mp hpc]
    exact hclearing
  · rw [hcontrols]
    rintro ⟨⟩
  · rw [hcontrols]
    intro pc hpc
    rw [List.mem_singleton.mp hpc]
    exact hcall

/-- A call returns what the automaton says. -/
theorem Between.returned {state next : LifeState} (h : Between s state) {api : Api}
    {code : HareError} (haccepts : accepts state (api, code) = some next)
    (hagrees : next.Agrees s.isInitialized s.threadRunning) :
    LifeFacts (returnTo s api code) := by
  have hcontrols : (returnTo s api code).controls = [] := h.controls
  have hreturns : controlReturns (returnTo s api code) = (api, code) :: controlReturns s := by
    cases api <;> first | rfl | (cases state <;> cases haccepts)
  refine ⟨h.status, h.front, ?_, next, ?_, ?_, ?_⟩
  · simp [hcontrols]
  · rw [hreturns]
    exact replay_cons h.replayed haccepts
  · exact fun _ => hagrees
  · simp [hcontrols]

/-- How far a call is from its return: the clean-up of `Stop` goes round a loop, and
`Restart` goes on with `Start`. -/
def ControlPc.rank : ControlPc → Nat
  | .restartInitialized => 13
  | .stopInitialized _ => 12
  | .stopRunning _ => 11
  | .stopSet _ => 10
  | .stopJoin _ => 9
  | .stopFlag _ => 8
  | .stopClose .. => 7
  | .stopClearTest .. | .stopClearFront .. | .stopClearPop .. => 6
  | .startInitialized _ => 5
  | .startRunning _ => 4
  | .startSet _ => 3
  | .startSpawn _ => 2
  | .initConnection _ => 4
  | .initInitialized => 3
  | .initRunning => 2
  | .destroyInitialized | .destroyRunning | .destroyChannels | .destroyClose
  | .destroyMembers => 1

/-- The steps that the worker has left when it is not to run any more; `queued` is
the length of the queue. -/
def WorkerPc.distance (queued : Nat) : WorkerPc → Nat
  | .none | .returned => 0
  | .loopTest => 1
  | .popPublished => 2
  | .clearTest .publishNextInQueue => 3 * queued + 4
  | .clearFront .publishNextInQueue => 3 * queued + 3
  | .clearPop .publishNextInQueue => 3 * queued + 2
  | .close .publishNextInQueue => 3 * queued + 5
  | .publish _ => 3 * queued + 6
  | .front => 3 * queued + 7
  | .sizeTest => 3 * queued + 8
  | .publishTest => 3 * queued + 9
  | .clearTest .connectChannels => 3 * queued + 12
  | .clearFront .connectChannels => 3 * queued + 11
  | .clearPop .connectChannels => 3 * queued + 10
  | .close .connectChannels => 3 * queued + 13
  | .openChannels => 3 * queued + 14
  | .guardRunning => 3 * queued + 15
  | .guardConnected => 3 * queued + 16
  | .channelsTest => 3 * queued + 17
  | .connect => 3 * queued + 18
  | .connectedTest => 3 * queued + 19

/-- What a call still has to do at the place where it stands. -/
def ControlPc.inner (s : ProducerState) : ControlPc → Nat
  | .stopJoin _ => s.worker.distance s.sendQueue.length
  | .stopClearTest .. => 3 * s.sendQueue.length + 2
  | .stopClearFront .. => 3 * s.sendQueue.length + 1
  | .stopClearPop .. => 3 * s.sendQueue.length
  | _ => 0

/-- The measure of a call in flight. -/
def callMeasure (s : ProducerState) : Nat ×ₗ Nat :=
  match s.controls with
  | [] => toLex (0, 0)
  | pc :: _ => toLex (pc.rank, pc.inner s)

/-- A call that goes on at a place of lower rank. -/
theorem callMeasure_goOn {t : ProducerState} {pc next : ControlPc} (hcontrols : s.controls = [pc])
    (hrank : next.rank < pc.rank) : callMeasure (goOn t next) < callMeasure s := by
  rw [callMeasure, callMeasure, hcontrols]
  exact Prod.Lex.toLex_lt_toLex.mpr (.inl hrank)

/-- A call that goes on at a place of the same rank. -/
theorem callMeasure_inner {t : ProducerState} {pc next : ControlPc} (hcontrols : s.controls = [pc])
    (hrank : next.rank = pc.rank) (hinner : next.inner (goOn t next) < pc.inner s) :
    callMeasure (goOn t next) < callMeasure s := by
  rw [callMeasure, callMeasure, hcontrols]
  exact Prod.Lex.toLex_lt_toLex.mpr (.inr ⟨hrank, hinner⟩)

/-- A call that returns. -/
theorem callMeasure_returned {t : ProducerState} {pc : ControlPc} {api : Api} {code : HareError}
    (hcontrols : s.controls = [pc]) (hnone : t.controls = []) :
    callMeasure (returnTo t api code) < callMeasure s := by
  have hreturned : (returnTo t api code).controls = [] := hnone
  rw [callMeasure, callMeasure, hcontrols, hreturned]
  refine Prod.Lex.toLex_lt_toLex.mpr (.inl ?_)
  show 0 < pc.rank
  cases pc <;> simp [ControlPc.rank]

/-- Where a step of a call leads: on to its return, with the facts kept. -/
def CallGoesOn (s : ProducerState) (next : Option ProducerState) : Prop :=
  ∃ s', next = some s' ∧ LifeFacts s' ∧ callMeasure s' < callMeasure s

/-- The call in flight stands at `pc`; the automaton was in `state` before it. -/
structure InCall (s : ProducerState) (pc : ControlPc) (state : LifeState) : Prop where
  controls : s.controls = [pc]
  between : Between { s with controls := [] } state
  agrees : CallAgrees state s.isInitialized s.threadRunning pc
  threads : ThreadFacts s

namespace InCall

variable {pc : ControlPc} {state : LifeState}

/-- The phase of the worker. -/
theorem phase (h : InCall s pc state) : PhaseFacts s pc.phase := by
  have hphase := h.threads.phase
  rw [h.controls] at hphase
  exact hphase

/-- A call that has seen `IsInitialized()` hold. -/
theorem seen (h : InCall s pc state) (hseen : pc.seenInitialized = true) :
    s.isInitialized = true :=
  h.threads.initialized (.inr (.inr ⟨pc, by simp [h.controls], hseen⟩))

/-- The call goes on without changing anything. -/
theorem goesTo (h : InCall s pc state) {next : ControlPc} (hrank : next.rank < pc.rank)
    (hclearing : next.holdsFront = true → s.sendQueue ≠ [])
    (hcall : CallAgrees state s.isInitialized s.threadRunning next) :
    CallGoesOn s (some (goOn { s with controls := [] } next)) :=
  ⟨_, rfl, h.between.goOn next hclearing hcall, callMeasure_goOn h.controls hrank⟩

/-- The call returns without changing anything. -/
theorem returns (h : InCall s pc state) {api : Api} {code : HareError} {next : LifeState}
    (haccepts : accepts state (api, code) = some next)
    (hagrees : next.Agrees s.isInitialized s.threadRunning) :
    CallGoesOn s (some (returnTo { s with controls := [] } api code)) :=
  ⟨_, rfl, h.between.returned haccepts hagrees, callMeasure_returned h.controls rfl⟩

/-- The tests of `Start`. -/
theorem startTests (h : InCall s pc state) (input : ControlInput) (restarting : Bool)
    (hpc : pc = .startInitialized restarting ∨ pc = .startRunning restarting) :
    CallGoesOn s (controlStep { s with controls := [] } input pc) := by
  have hcall := h.agrees
  rcases hpc with rfl | rfl
  · rw [controlStep]
    split
    · apply h.goesTo (by simp [ControlPc.rank]) (by rintro ⟨⟩)
      cases restarting <;> exact hcall
    · next hinit =>
        have hinit : s.isInitialized = false := by simpa using hinit
        cases restarting with
        | false =>
            have hagrees : state.Agrees s.isInitialized s.threadRunning := hcall
            obtain rfl := hagrees.eq_uninitialized hinit
            exact h.returns rfl hagrees
        | true => cases hinit.symm.trans hcall.2.1
  · have hinit := h.seen rfl
    rw [controlStep]
    split
    · next hrunning =>
        cases restarting with
        | false =>
            have hagrees : state.Agrees s.isInitialized s.threadRunning := hcall
            obtain rfl := hagrees.eq_running hrunning
            exact h.returns rfl hagrees
        | true => cases hcall.2.2.symm.trans hrunning
    · next hrunning =>
        have hrunning : s.threadRunning = false := by simpa using hrunning
        apply h.goesTo (by simp [ControlPc.rank]) (by rintro ⟨⟩)
        cases restarting with
        | false => exact LifeState.Agrees.eq_idle hcall hinit hrunning
        | true => exact hcall.1

/-- `Start` sets the flag and starts the worker. -/
theorem startThread (h : InCall s pc state) (input : ControlInput) (restarting : Bool)
    (hpc : pc = .startSet restarting ∨ pc = .startSpawn restarting) :
    CallGoesOn s (controlStep { s with controls := [] } input pc) := by
  have hcall := h.agrees
  have hphase := h.phase
  rcases hpc with rfl | rfl
  · have hbetween : Between { s with controls := [], threadRunning := true } state :=
      ⟨rfl, h.between.status, h.between.front, h.between.replayed⟩
    refine ⟨_, rfl, hbetween.goOn _ (by rintro ⟨⟩) ?_,
      callMeasure_goOn h.controls (by simp [ControlPc.rank])⟩
    cases restarting <;> exact hcall
  · obtain ⟨hrunning, hworker⟩ : s.threadRunning = true ∧ s.worker = .none := hphase
    have hbetween : Between { s with controls := [], worker := .loopTest } state :=
      ⟨rfl, h.between.status, by rintro ⟨⟩, h.between.replayed⟩
    have hagrees : LifeState.running.Agrees s.isInitialized s.threadRunning :=
      ⟨h.seen rfl, hrunning⟩
    refine ⟨startReturns { s with controls := [], worker := .loopTest } restarting .allGood,
      by simp [controlStep, hworker], ?_, callMeasure_returned h.controls rfl⟩
    cases restarting with
    | false =>
        obtain rfl : state = .idle := hcall
        exact hbetween.returned rfl hagrees
    | true =>
        obtain rfl : state = .running := hcall
        exact hbetween.returned rfl hagrees

/-- The tests of `Restart` and `Stop`. -/
theorem stopTests (h : InCall s pc state) (input : ControlInput) (caller : StopCaller)
    (hpc : pc = .restartInitialized ∨ pc = .stopInitialized caller ∨ pc = .stopRunning caller) :
    CallGoesOn s (controlStep { s with controls := [] } input pc) := by
  have hcall := h.agrees
  rcases hpc with rfl | rfl | rfl
  · have hagrees : state.Agrees s.isInitialized s.threadRunning := hcall
    rw [controlStep]
    split
    · next hinit =>
        exact h.goesTo (by simp [ControlPc.rank]) (by rintro ⟨⟩) ⟨by decide, hinit, hagrees⟩
    · next hinit =>
        obtain rfl := hagrees.eq_uninitialized (by simpa using hinit)
        exact h.returns rfl hagrees
  · obtain ⟨hcaller, hinit, hagrees⟩ := hcall
    rw [controlStep, if_pos hinit]
    exact h.goesTo (by simp [ControlPc.rank]) (by rintro ⟨⟩) ⟨hcaller, hinit, hagrees⟩
  · obtain ⟨hcaller, hinit, hagrees⟩ := hcall
    rw [controlStep]
    split
    · next hrunning =>
        exact h.goesTo (by simp [ControlPc.rank]) (by rintro ⟨⟩)
          ⟨hcaller, hagrees.eq_running hrunning⟩
    · next hrunning =>
        have hidle := hagrees.eq_idle hinit (by simpa using hrunning)
        exact h.goesTo (by simp [ControlPc.rank]) (by rintro ⟨⟩)
          ⟨hcaller, hinit, .inr ⟨rfl, hidle⟩⟩

/-- `Stop` on a running producer, up to its connection; it waits for the worker at
`join`. -/
theorem stopThread (h : InCall s pc state) (input : ControlInput) (caller : StopCaller)
    (hpc : pc = .stopSet caller ∨ (pc = .stopJoin caller ∧ s.worker = .returned) ∨
      pc = .stopFlag caller) :
    CallGoesOn s (controlStep { s with controls := [] } input pc) := by
  have hcall := h.agrees
  rcases hpc with rfl | ⟨rfl, hworker⟩ | rfl
  · have hbetween : Between { s with controls := [], threadRunning := false } state :=
      ⟨rfl, h.between.status, h.between.front, h.between.replayed⟩
    exact ⟨_, rfl, hbetween.goOn _ (by rintro ⟨⟩) hcall,
      callMeasure_goOn h.controls (by simp [ControlPc.rank])⟩
  · have hbetween : Between { s with controls := [], worker := .none } state :=
      ⟨rfl, h.between.status, by rintro ⟨⟩, h.between.replayed⟩
    exact ⟨_, by simp [controlStep, hworker], hbetween.goOn (.stopFlag caller) (by rintro ⟨⟩) hcall,
      callMeasure_goOn h.controls (by simp [ControlPc.rank])⟩
  · have hbetween : Between { s with controls := [], channelsConnected := false } state :=
      ⟨rfl, h.between.status, h.between.front, h.between.replayed⟩
    exact ⟨_, rfl, hbetween.goOn _ (by rintro ⟨⟩) ⟨hcall.1, h.seen rfl, .inl ⟨rfl, hcall.2⟩⟩,
      callMeasure_goOn h.controls (by simp [ControlPc.rank])⟩

/-- `Stop` closes the connection of an initialised producer. -/
theorem stopClose {caller : StopCaller} {code : HareError}
    (h : InCall s (.stopClose caller code) state) (input : ControlInput) :
    CallGoesOn s (controlStep { s with controls := [] } input (.stopClose caller code)) := by
  obtain ⟨hcaller, hinit, hcode⟩ := h.agrees
  obtain ⟨base, hbase⟩ := Option.ne_none_iff_exists'.mp (h.threads.connection hinit)
  have hbetween : Between { s with
      controls := []
      connection := some (base.closeConnection input.closeReply).base
      calls := (base.closeConnection input.closeReply).calls ++ s.calls } state :=
    ⟨rfl, h.between.status, h.between.front, h.between.replayed⟩
  refine ⟨_, ?_, hbetween.goOn (.stopClearTest caller code) (by rintro ⟨⟩)
    ⟨hcaller, hinit, hcode⟩, callMeasure_goOn h.controls (by simp [ControlPc.rank])⟩
  simp [controlStep, closeThen, hbase]

/-- What `Stop` returns is what the automaton says. -/
theorem stopped {caller : StopCaller} {code : HareError}
    (h : InCall s (.stopClearTest caller code) state) :
    CallGoesOn s (some (stopReturns { s with controls := [] } caller code)) := by
  obtain ⟨hcaller, hinit, hcode⟩ := h.agrees
  obtain ⟨hrunning, -⟩ : s.threadRunning = false ∧ s.worker = .none := h.phase
  have hidle : LifeState.idle.Agrees s.isInitialized s.threadRunning := ⟨hinit, hrunning⟩
  cases caller with
  | user =>
      rcases hcode with ⟨rfl, rfl⟩ | ⟨rfl, rfl⟩
      · exact h.returns rfl hidle
      · exact h.returns rfl hidle
  | restart =>
      rcases hcode with ⟨rfl, rfl⟩ | ⟨rfl, rfl⟩
      · exact h.goesTo (by simp [ControlPc.rank]) (by rintro ⟨⟩) ⟨rfl, hinit, hrunning⟩
      · exact h.returns rfl hidle
  | destructor => exact absurd rfl hcaller

/-- `clearActiveSendQueue` in `Stop`, which goes round its loop once for each
message. -/
theorem stopClear (h : InCall s pc state) (input : ControlInput) (caller : StopCaller)
    (code : HareError) (hclearing : pc.holdsFront = true → s.sendQueue ≠ [])
    (hpc : pc = .stopClearTest caller code ∨ pc = .stopClearFront caller code ∨
      pc = .stopClearPop caller code) :
    CallGoesOn s (controlStep { s with controls := [] } input pc) := by
  have hcall := h.agrees
  have hphase := h.phase
  rcases hpc with rfl | rfl | rfl
  · rw [controlStep]
    split
    · exact h.stopped
    · next hqueue =>
        refine ⟨_, rfl, h.between.goOn _ (fun _ => by simpa using hqueue) hcall,
          callMeasure_inner h.controls rfl ?_⟩
        show 3 * s.sendQueue.length + 1 < 3 * s.sendQueue.length + 2
        omega
  · obtain ⟨object, rest, hqueue⟩ := List.exists_cons_of_ne_nil (hclearing rfl)
    refine ⟨goOn { s with controls := [] } (.stopClearPop caller code),
      by simp [controlStep, hqueue], h.between.goOn _ (fun _ => hclearing rfl) hcall,
      callMeasure_inner h.controls rfl ?_⟩
    show 3 * s.sendQueue.length < 3 * s.sendQueue.length + 1
    omega
  · obtain ⟨object, rest, hqueue⟩ := List.exists_cons_of_ne_nil (hclearing rfl)
    obtain ⟨-, hworker⟩ : s.threadRunning = false ∧ s.worker = .none := hphase
    have hbetween : Between { s with
        controls := []
        sendQueue := rest
        notes := .dropped object :: s.notes } state :=
      ⟨rfl, h.between.status, fun hfront => by simp [hworker, WorkerPc.holdsFront] at hfront,
        h.between.replayed⟩
    refine ⟨_, ?_, hbetween.goOn (.stopClearTest caller code) (by rintro ⟨⟩) hcall,
      callMeasure_inner h.controls rfl ?_⟩
    · simp [controlStep, hqueue]
    · show 3 * rest.length + 2 < 3 * s.sendQueue.length
      simp only [hqueue, List.length_cons]
      omega

/-- The steps of `Initialize`, which is not called on a running producer. -/
theorem initSteps (h : InCall s pc state) (input : ControlInput)
    (hpc : (∃ credentials, pc = .initConnection credentials) ∨ pc = .initInitialized ∨
      pc = .initRunning) :
    CallGoesOn s (controlStep { s with controls := [] } input pc) := by
  have hcall := h.agrees
  rcases hpc with ⟨credentials, rfl⟩ | rfl | rfl
  · have hbetween : Between { s with
        controls := []
        connection := some (ConnectionBase.new credentials)
        calls := releaseCalls s.connection input.closeReply ++ s.calls } state :=
      ⟨rfl, h.between.status, h.between.front, h.between.replayed⟩
    exact ⟨_, rfl, hbetween.goOn _ (by rintro ⟨⟩) hcall,
      callMeasure_goOn h.controls (by simp [ControlPc.rank])⟩
  · have hbetween : Between { s with controls := [], isInitialized := true } state :=
      ⟨rfl, h.between.status, h.between.front, h.between.replayed⟩
    exact ⟨_, rfl, hbetween.goOn _ (by rintro ⟨⟩) ⟨hcall, rfl⟩,
      callMeasure_goOn h.controls (by simp [ControlPc.rank])⟩
  · have hbetween : Between { s with controls := [], threadRunning := false } state :=
      ⟨rfl, h.between.status, h.between.front, h.between.replayed⟩
    have hagrees : LifeState.idle.Agrees s.isInitialized false := ⟨hcall.2, rfl⟩
    have haccepts : accepts state (.initialized, .allGood) = some .idle := by
      cases state with
      | uninitialized | idle => rfl
      | running => exact absurd rfl hcall.1
    exact ⟨_, rfl, hbetween.returned haccepts hagrees, callMeasure_returned h.controls rfl⟩

end InCall

theorem LifeFacts.inCall (h : LifeFacts s) (hthreads : ThreadFacts s) {pc : ControlPc}
    (hcontrols : s.controls = [pc]) : ∃ state, InCall s pc state := by
  obtain ⟨state, hreplayed, -, hcalls⟩ := h.state
  exact ⟨state, hcontrols, ⟨rfl, h.status, h.front, hreplayed⟩, hcalls pc (by simp [hcontrols]),
    hthreads⟩

/-- A step of the call in flight, which waits only at the `join` in `Stop`. -/
theorem LifeFacts.control (h : LifeFacts s) (hthreads : ThreadFacts s) {pc : ControlPc}
    (hcontrols : s.controls = [pc]) (input : ControlInput)
    (hjoin : ∀ caller, pc = .stopJoin caller → s.worker = .returned) :
    CallGoesOn s (controlStep { s with controls := [] } input pc) := by
  obtain ⟨state, hcall⟩ := h.inCall hthreads hcontrols
  have hclearing := h.clearing pc (by simp [hcontrols])
  cases pc with
  | startInitialized restarting => exact hcall.startTests input restarting (.inl rfl)
  | startRunning restarting => exact hcall.startTests input restarting (.inr rfl)
  | startSet restarting => exact hcall.startThread input restarting (.inl rfl)
  | startSpawn restarting => exact hcall.startThread input restarting (.inr rfl)
  | restartInitialized => exact hcall.stopTests input .restart (.inl rfl)
  | stopInitialized caller => exact hcall.stopTests input caller (.inr (.inl rfl))
  | stopRunning caller => exact hcall.stopTests input caller (.inr (.inr rfl))
  | stopSet caller => exact hcall.stopThread input caller (.inl rfl)
  | stopJoin caller =>
      exact hcall.stopThread input caller (.inr (.inl ⟨rfl, hjoin caller rfl⟩))
  | stopFlag caller => exact hcall.stopThread input caller (.inr (.inr rfl))
  | stopClose caller code => exact hcall.stopClose input
  | stopClearTest caller code => exact hcall.stopClear input caller code hclearing (.inl rfl)
  | stopClearFront caller code =>
      exact hcall.stopClear input caller code hclearing (.inr (.inl rfl))
  | stopClearPop caller code =>
      exact hcall.stopClear input caller code hclearing (.inr (.inr rfl))
  | initConnection credentials => exact hcall.initSteps input (.inl ⟨credentials, rfl⟩)
  | initInitialized => exact hcall.initSteps input (.inr (.inl rfl))
  | initRunning => exact hcall.initSteps input (.inr (.inr rfl))
  | destroyInitialized | destroyRunning | destroyChannels | destroyClose | destroyMembers =>
      exact absurd hcall.agrees (by simp [CallAgrees])

/-! ### Steps of the other threads -/

/-- The members that the automaton speaks of are the same after the step, and no
call has returned. -/
theorem LifeFacts.of_same (h : LifeFacts s) (hstatus : s'.status = s.status)
    (hfront : s'.worker.holdsFront = true → s'.sendQueue ≠ [])
    (hclearing : ∀ pc ∈ s.controls, pc.holdsFront = true → s'.sendQueue ≠ [])
    (hcontrols : s'.controls = s.controls) (hinit : s'.isInitialized = s.isInitialized)
    (hthread : s'.threadRunning = s.threadRunning)
    (hreturns : controlReturns s' = controlReturns s) : LifeFacts s' := by
  obtain ⟨state, hreplayed, hbetween, hcalls⟩ := h.state
  refine ⟨hstatus.trans h.status, hfront, ?_, state, ?_, ?_, ?_⟩
  · rw [hcontrols]
    exact hclearing
  · rw [hreturns]
    exact hreplayed
  · rw [hcontrols, hinit, hthread]
    exact hbetween
  · rw [hcontrols, hinit, hthread]
    exact hcalls

/-- A worker that is alive has a connection, and no `Stop` clears the queue. -/
theorem ThreadFacts.workerAlive (hthreads : ThreadFacts s) (halive : s.worker ≠ .none) :
    s.connection ≠ none ∧ ∀ pc ∈ s.controls, pc.phase ≠ .alone := by
  refine ⟨hthreads.connection (hthreads.initialized (.inr (.inl halive))), ?_⟩
  intro pc hpc hphase
  have hfacts := hthreads.phase
  rw [hthreads.eq_singleton hpc, phaseOf, hphase] at hfacts
  exact halive hfacts.2

theorem LifeFacts.worker (h : LifeFacts s) (hthreads : ThreadFacts s) {input : WorkerInput}
    (hstep : workerStep s input = some s') : LifeFacts s' := by
  have hmove := workerMove_of_step hstep
  obtain ⟨hcontrols, hthread, hinit, -⟩ := hmove.frame
  obtain ⟨hconn, hphase⟩ := hthreads.workerAlive hmove.alive.1
  refine h.of_same (workerStep_defined hconn h.front hstep) (hmove.holdsFront h.front) ?_
    hcontrols hinit hthread hmove.controlReturns
  intro pc hpc hclearing
  refine absurd ?_ (hphase pc hpc)
  cases pc <;> first | rfl | cases hclearing

theorem LifeFacts.user (h : LifeFacts s) {action : Action} (hmove : UserMove s action s') :
    LifeFacts s' := by
  obtain ⟨-, hinit, hthread, hworker, hcontrols, -, -⟩ := hmove.frame
  obtain ⟨hstatus, hqueue⟩ := hmove.defined
  refine h.of_same hstatus ?_ (fun pc hpc hclearing => hqueue (h.clearing pc hpc hclearing))
    hcontrols hinit hthread hmove.controlReturns
  rw [hworker]
  exact fun hfront => hqueue (h.front hfront)

/-- A call begins in a state that agrees with the automaton. -/
theorem LifeFacts.begin (h : LifeFacts s) (call : ControlCall)
    (hrun : LifecycleRun s (.begin call)) : LifeFacts (goOn s call.entry) := by
  obtain ⟨hone, hstop⟩ := hrun
  obtain ⟨state, hreplayed, hagrees, -⟩ := h.state
  have hnone : s.controls = [] := by
    cases call with
    | initializeWith credentials => exact hone.1
    | destroy => exact hone.elim
    | _ => exact hone
  have hagrees := hagrees hnone
  have hbetween : Between s state := ⟨hnone, h.status, h.front, hreplayed⟩
  cases call with
  | start | restart => exact hbetween.goOn _ (by rintro ⟨⟩) hagrees
  | stop => exact hbetween.goOn _ (by rintro ⟨⟩) ⟨by decide, hstop, hagrees⟩
  | initializeWith credentials =>
      refine hbetween.goOn _ (by rintro ⟨⟩) ?_
      rintro rfl
      cases hone.2.symm.trans hagrees.running
  | destroy => exact hone.elim

/-! ### The run -/

/-- A producer that is not running and has no call in flight has no worker. -/
theorem OneCaller.oneControl {action : Action} (hone : OneCaller s action)
    (hthreads : ThreadFacts s) : OneControl s action := by
  cases action with
  | begin call =>
      cases call with
      | initializeWith credentials =>
          obtain ⟨hnone, hrunning⟩ := hone
          have hphase := hthreads.phase
          rw [hnone] at hphase
          have hphase : s.threadRunning = true ↔ s.worker ≠ .none := hphase
          exact ⟨hnone, by simpa [hrunning] using hphase⟩
      | destroy => exact hone.elim
      | _ => exact hone
  | _ => trivial

/-- The `join` of a worker that is alive has waited for it. -/
theorem returned_of_join {input : ControlInput} {caller : StopCaller} (halive : s.worker ≠ .none)
    (h : controlStep s input (.stopJoin caller) = some s') : s.worker = .returned := by
  rw [controlStep] at h
  split at h
  · next hworker => exact absurd hworker halive
  · next hworker => exact hworker
  · cases h

theorem lifeFacts_reachable (hs : system.ReachableUnder LifecycleRun s) :
    system.ReachableUnder OneControl s ∧ LifeFacts s := by
  refine hs.induction (fun s => system.ReachableUnder OneControl s ∧ LifeFacts s) ?_ ?_
  · refine ⟨.init, rfl, by rintro ⟨⟩, ?_, .uninitialized, rfl, fun _ => ⟨rfl, rfl⟩, ?_⟩
    · simp [system, initial]
    · simp [system, initial]
  · rintro s action s' - hrun ⟨hreach, hfacts⟩ hstep
    have hthreads := threadFacts_reachable hreach hfacts.status
    refine ⟨.step hreach (hrun.1.oneControl hthreads) hstep, ?_⟩
    obtain ⟨hstatus, hmove⟩ := move_of_step hstep
    cases hmove with
    | worker input _ hmove =>
        have hworker : workerStep s input = some s' := by
          simpa [system, step, hstatus] using hstep
        exact hfacts.worker hthreads hworker
    | user _ _ hmove => exact hfacts.user hmove
    | begin call => exact hfacts.begin call hrun
    | control k input pc rest _ hpick hmove =>
        obtain ⟨hcontrols, rfl⟩ := hthreads.only hpick
        have hcontrol : controlStep { s with controls := [] } input pc = some s' := by
          simpa [system, step, hstatus, hpick] using hstep
        have hjoin : ∀ caller, pc = .stopJoin caller → s.worker = .returned := by
          rintro caller rfl
          have hphase := hthreads.phase
          rw [hcontrols] at hphase
          have halive : s.worker ≠ .none := hphase.2
          exact returned_of_join (s := { s with controls := [] }) halive hcontrol
        obtain ⟨t, ht, hfacts', -⟩ := hfacts.control hthreads hcontrols input hjoin
        obtain rfl : t = s' := Option.some.inj (ht.symm.trans hcontrol)
        exact hfacts'

/-! ### Calls return -/

/-- The steps of the thread that makes the control calls. -/
def Action.isControl : Action → Prop
  | .control .. => True
  | _ => False

/-- The steps of the worker. -/
def Action.isWorker : Action → Prop
  | .worker _ => True
  | _ => False

/-- A worker that is not to run any more comes closer to its return. -/
theorem WorkerMove.distance {input : WorkerInput} (hmove : WorkerMove s input s')
    (hstatus : s'.status = .running) (hrunning : s.threadRunning = false) :
    s'.worker.distance s'.sendQueue.length < s.worker.distance s.sendQueue.length := by
  cases hmove with
  | goto next hnext =>
      cases hnext with
      | loopOn hpc hon => cases hrunning.symm.trans hon
      | clearEmpty caller hpc =>
          cases caller <;> simp only [hpc, afterClose, WorkerPc.distance] <;> omega
      | clearMore caller hpc => cases caller <;> simp only [hpc, WorkerPc.distance] <;> omega
      | clearFront caller hpc => cases caller <;> simp only [hpc, WorkerPc.distance] <;> omega
      | _ =>
          simp only [*, WorkerPc.distance]
          omega
  | crash => cases hstatus
  | closed caller base hpc => cases caller <;> simp only [hpc, WorkerPc.distance] <;> omega
  | dropped caller object rest hpc hqueue =>
      cases caller <;> simp only [hpc, hqueue, WorkerPc.distance, List.length_cons] <;> omega
  | published base object next hpc hbase hnext =>
      rcases hnext with ⟨-, rfl⟩ | ⟨-, rfl⟩ | ⟨-, -, rfl⟩ <;>
        simp only [hpc, WorkerPc.distance] <;> omega
  | _ =>
      simp only [*, WorkerPc.distance]
      omega

/-- A worker that is alive and has not returned has a next step. -/
theorem exists_workerStep (halive : s.worker ≠ .none) (hreturned : s.worker ≠ .returned) :
    ∃ input s', workerStep s input = some s' := by
  refine ⟨{ order := s.exchangeList }, Option.ne_none_iff_exists'.mp ?_⟩
  cases hpc : s.worker with
  | none => exact absurd hpc halive
  | returned => exact absurd hpc hreturned
  | openChannels =>
      have hperm : s.exchangeList.isPerm s.exchangeList = true :=
        List.isPerm_iff.mpr (List.Perm.refl _)
      simp only [workerStep, hpc, if_pos hperm]
      grind
  | _ =>
      simp only [workerStep, hpc]
      grind

/-- A step of the only call in flight. -/
theorem controlStep_of_step {pc : ControlPc} {k : Nat} {input : ControlInput}
    (hcontrols : s.controls = [pc]) (h : step s (.control k input) = some s') :
    controlStep { s with controls := [] } input pc = some s' := by
  unfold step at h
  split at h
  · cases k with
    | zero =>
        simp only [hcontrols, pick] at h
        exact h
    | succ k => simp [hcontrols, pick] at h
  · cases h

/-- The call in flight waits at `join` for a worker that is on its way to the end of
its loop. -/
theorem join_proceeds {caller : StopCaller} (hs : system.ReachableUnder LifecycleRun s)
    (hcontrols : s.controls = [.stopJoin caller]) (hworker : s.worker ≠ .returned) :
    system.Proceeds (fun s => s.controls = []) (fun _ => Action.isControl)
      (fun _ => Action.isWorker) (system.ReachableUnder LifecycleRun) callMeasure s := by
  obtain ⟨hreach, hfacts⟩ := lifeFacts_reachable hs
  have hphase := (threadFacts_reachable hreach hfacts.status).phase
  rw [hcontrols] at hphase
  obtain ⟨hrunning, halive⟩ : s.threadRunning = false ∧ s.worker ≠ .none := hphase
  refine .wait ?_ ?_ ?_
  · intro action hcontrol
    cases action with
    | control k input =>
        by_contra hgoes
        obtain ⟨s', hstep⟩ := Option.ne_none_iff_exists'.mp hgoes
        exact hworker (returned_of_join (s := { s with controls := [] }) halive
          (controlStep_of_step hcontrols hstep))
    | _ => exact hcontrol.elim
  · obtain ⟨input, s', hstep⟩ := exists_workerStep halive hworker
    exact ⟨.worker input, s', trivial, by simpa [system, step, hfacts.status] using hstep⟩
  · intro action s' hisWorker hstep
    cases action with
    | worker input =>
        have hrun : LifecycleRun s (.worker input) := ⟨trivial, trivial⟩
        have hs' : system.ReachableUnder LifecycleRun s' := .step hs hrun hstep
        have hworkerStep : workerStep s input = some s' := by
          simpa [system, step, hfacts.status] using hstep
        have hmove := workerMove_of_step hworkerStep
        have hcontrols' : s'.controls = [.stopJoin caller] := hmove.frame.1.trans hcontrols
        have hless := hmove.distance (lifeFacts_reachable hs').2.status hrunning
        refine ⟨hs', ?_⟩
        rw [callMeasure, callMeasure, hcontrols, hcontrols']
        exact Prod.Lex.toLex_lt_toLex.mpr (.inr ⟨rfl, hless⟩)
    | _ => exact hisWorker.elim

/-- The call in flight goes on to its return. -/
theorem call_proceeds (hs : system.ReachableUnder LifecycleRun s) :
    system.Proceeds (fun s => s.controls = []) (fun _ => Action.isControl)
      (fun _ => Action.isWorker) (system.ReachableUnder LifecycleRun) callMeasure s := by
  obtain ⟨hreach, hfacts⟩ := lifeFacts_reachable hs
  have hthreads := threadFacts_reachable hreach hfacts.status
  cases hcontrols : s.controls with
  | nil => exact .done hcontrols
  | cons pc rest =>
      have hcontrols : s.controls = [pc] := hthreads.eq_singleton (by simp [hcontrols])
      by_cases hwaits : ∃ caller, pc = .stopJoin caller ∧ s.worker ≠ .returned
      · obtain ⟨caller, rfl, hworker⟩ := hwaits
        exact join_proceeds hs hcontrols hworker
      · have hgoes : ∀ input, CallGoesOn s (controlStep { s with controls := [] } input pc) := by
          intro input
          apply hfacts.control hthreads hcontrols input
          intro caller hpc
          by_contra hworker
          exact hwaits ⟨caller, hpc, hworker⟩
        refine .call ?_ ?_
        · obtain ⟨s', hstep, -⟩ := hgoes {}
          refine ⟨.control 0 {}, s', trivial, ?_⟩
          simpa [system, step, hfacts.status, hcontrols, pick] using hstep
        · intro action s' hcontrol hstep
          cases action with
          | control k input =>
              have hrun : LifecycleRun s (.control k input) := ⟨trivial, trivial⟩
              refine ⟨.step hs hrun hstep, ?_⟩
              obtain ⟨t, ht, -, hless⟩ := hgoes input
              obtain rfl : t = s' :=
                Option.some.inj (ht.symm.trans (controlStep_of_step hcontrols hstep))
              exact hless
          | _ => exact hcontrol.elim

/-! ### The result -/

/-- In every run in which one thread makes the control calls and no `Stop` comes
before the first `Initialize`, the run stays defined, the calls return what the
automaton says, the members between two calls are those of its state, and the call
in flight comes to its return, whatever the broker does.

That a run is defined says that no null `m_connection` is gone through, no front of an
empty queue is read and no thread handle is misused.  It does not speak of the body
that `Send` reads of a message whose body was never set (`MessageBody`), nor of the
loops over copies of the table in `closeConnection` and `Stop`, which other threads may
add to. -/
theorem lifecycle_refined (hs : system.ReachableUnder LifecycleRun s) :
    s.status = .running ∧
      (∃ state, replay accepts .uninitialized (controlReturns s) = some state ∧
        (s.controls = [] → state.Agrees s.isInitialized s.threadRunning)) ∧
      system.Finishes (fun s => s.controls = []) (fun _ => Action.isControl)
        (fun _ => Action.isWorker) s := by
  have hfacts := (lifeFacts_reachable hs).2
  obtain ⟨state, hreplayed, hagrees, -⟩ := hfacts.state
  exact ⟨hfacts.status, ⟨state, hreplayed, hagrees⟩,
    finishes_of_measure _ callMeasure (fun _ => call_proceeds) hs⟩

/-- A producer that is started, sends, is restarted and stopped, with the calls that
the automaton refuses in between; the last `Stop` is in flight, and waits for the
worker. -/
theorem lifecycle_refined_run :
    ∃ s, system.ReachableUnder LifecycleRun s ∧
      controlReturns s = [(.restart, .allGood), (.start, .threadAlreadyRunning), (.start, .allGood),
        (.initialized, .allGood), (.restart, .notInitialized), (.start, .notInitialized)] ∧
      s.controls = [.stopJoin .user] ∧ s.worker = .loopTest ∧
      system.Finishes (fun s => s.controls = []) (fun _ => Action.isControl)
        (fun _ => Action.isWorker) s := by
  obtain ⟨s, hs, hp⟩ := exists_reachableUnder_of_run (M := system) LifecycleRun
    (List.flatten [[.begin .start, .control 0 {}, .begin .restart, .control 0 {}], startUp, sendHi,
      [.begin .start, .control 0 {}, .control 0 {}, .begin .restart, .control 0 {}, .control 0 {},
        .control 0 {}, .control 0 {}, .worker {}], List.replicate 11 (.control 0 {}),
      [.begin .stop, .control 0 {}, .control 0 {}, .control 0 {}]])
    (fun s => decide (controlReturns s = [(.restart, .allGood), (.start, .threadAlreadyRunning),
        (.start, .allGood), (.initialized, .allGood), (.restart, .notInitialized),
        (.start, .notInitialized)] ∧ s.controls = [.stopJoin .user] ∧ s.worker = .loopTest))
    (by decide +kernel)
  obtain ⟨hreturns, hcontrols, hworker⟩ := of_decide_eq_true hp
  exact ⟨s, hs, hreturns, hcontrols, hworker, (lifecycle_refined hs).2.2⟩

/-- `Stop` on a fresh producer goes through a null `m_connection`. -/
theorem stop_goes_through_null :
    ∃ s, system.ReachableUnder OneCaller s ∧ s.connection = none ∧ s.status = .undefined := by
  obtain ⟨s, hs, hp⟩ := exists_reachableUnder_of_run (M := system) OneCaller
    [.begin .stop, .control 0 {}, .control 0 {}]
    (fun s => decide (s.connection.isNone = true ∧ s.status = .undefined)) (by decide +kernel)
  obtain ⟨hnone, hstatus⟩ := of_decide_eq_true hp
  exact ⟨s, hs, Option.isNone_iff_eq_none.mp hnone, hstatus⟩

end Producer
end HareCpp
