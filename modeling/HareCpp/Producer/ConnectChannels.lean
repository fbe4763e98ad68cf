import HareCpp.Producer.Reopen

/-!
# `connectChannels` and `m_channelsConnected`

A call of `connectChannels` is not one step: the mutex is held for the loop only, and
after a server failure `closeConnection` comes after it.  The system is run with a
record of the calls and of the passes they make, so that what a call leaves behind can
be compared with the answers it got.

* `passFacts_reachable` — the flag is down from the start of a call to the end of its
  loop, and a call that closes the connection has met a server failure.
* `marksOnlyConnected_iff` — a call marks the producer connected only when it is, and
  leaves the flag down after any other failure, exactly when no declaration is
  refused in a pass that goes well otherwise: `allGood` is not cleared for it.
-/

namespace HareCpp
namespace Producer

open Library ConnectionBase

/-- Places in `connectChannels`, with the `closeConnection` that it calls. -/
def WorkerPc.connecting : WorkerPc → Bool
  | .guardConnected | .guardRunning | .openChannels | .close .connectChannels
  | .clearTest .connectChannels | .clearFront .connectChannels | .clearPop .connectChannels => true
  | _ => false

theorem connecting_of_opening {pc : WorkerPc} (h : pc.opening = true) :
    pc.connecting = true := by
  cases pc with
  | guardConnected | guardRunning | openChannels => rfl
  | _ => cases h

/-- What `DeclareExchange` returns for an entry. -/
def exchangeCode (base : ConnectionBase) (replies : Bytes → ChannelReplies)
    (entry : Bytes × ExchangeProperties) : HareError :=
  (base.declareExchange entry.2.channel entry.1 entry.2.type (replies entry.1).declareReply).code

/-! ### The record of the calls -/

/-- A pass of the loop: the connection it works on, the answers, and the table. -/
structure Pass where
  base : ConnectionBase
  replies : Bytes → ChannelReplies
  table : ExchangeList

/-- What is recorded of a call of `connectChannels`. -/
inductive ConnectEvent
  | began
  | pass (pass : Pass)

/-- The calls of `connectChannels` in a step. -/
def connectEvents (s : ProducerState) : Action → List ConnectEvent
  | .worker input =>
      match s.worker with
      | .channelsTest => [.began]
      | .openChannels =>
          match s.connection with
          | none => []
          | some base => [.pass ⟨base, input.channels, s.exchangeList⟩]
      | _ => []
  | _ => []

/-- The pass of the latest call, if it came to one. -/
def latestPass : List ConnectEvent → Option Pass
  | .pass pass :: _ => some pass
  | _ => none

namespace Pass

variable (pass : Pass) (entry : Bytes × ExchangeProperties)

/-- A step of the entry fails, and not with a server failure. -/
def FailsQuietly : Prop :=
  (openCode pass.base pass.replies entry ≠ .allGood ∧
    serverFailure (openCode pass.base pass.replies entry) = false) ∨
  (openCode pass.base pass.replies entry = .allGood ∧ entry.2.isDeclare = true ∧
    exchangeCode pass.base pass.replies entry ≠ .allGood ∧
    serverFailure (exchangeCode pass.base pass.replies entry) = false)

instance : Decidable (pass.FailsQuietly entry) :=
  inferInstanceAs (Decidable ((_ ∧ _) ∨ (_ ∧ _ ∧ _ ∧ _)))

/-- If all channels open and there is no server failure, then the exchanges that are
to be declared are. -/
def DeclaresAll : Prop :=
  (∀ entry ∈ pass.table, openCode pass.base pass.replies entry = .allGood) →
    (∀ entry ∈ pass.table, entryFails pass.base pass.replies entry = false) →
    ∀ entry ∈ pass.table, entry.2.isDeclare = true →
      exchangeCode pass.base pass.replies entry = .allGood

end Pass

/-! ### The flag -/

/-- `OpenChannel` and, for an exchange that is to be declared, `DeclareExchange` have
succeeded for the entry on the connection. -/
def ConnectedOn (calls : List AmqpCall) (conn : Option Nat)
    (entry : Bytes × ExchangeProperties) : Prop :=
  (∃ reply, .channelOpen conn entry.2.channel reply ∈ calls ∧
    decodeRpcReply reply = .allGood) ∧
  (entry.2.isDeclare = true → ∃ reply,
    .exchangeDeclare conn entry.2.channel (cstringBytes entry.1) (cstringBytes entry.2.type)
      reply ∈ calls ∧ decodeRpcReply reply = .allGood)

/-- A call of `connectChannels` that came to `pass` has ended in `s`: the flag is set
only if every exchange of the table is connected, and it is not after a failure. -/
structure MarksOnlyConnected (s : ProducerState) (pass : Option Pass) : Prop where
  marked : s.channelsConnected = true → ∀ entry ∈ s.exchangeList,
    ConnectedOn s.calls (currentConn s) entry
  retried : ∀ p, pass = some p → (∃ entry ∈ p.table, p.FailsQuietly entry) →
    s.channelsConnected = false

theorem MarksOnlyConnected.of_down {s : ProducerState} {pass : Option Pass}
    (hflag : s.channelsConnected = false) : MarksOnlyConnected s pass where
  marked := by
    intro hset
    rw [hflag] at hset
    cases hset
  retried := by
    intro _ _ _
    exact hflag

/-- Only the loop raises the flag. -/
theorem UserMove.flag_down {s s' : ProducerState} {action : Action} (hfacts : TableFacts s)
    (hmove : UserMove s action s') (hflag : s.channelsConnected = false) :
    s'.channelsConnected = false := by
  cases hmove.tableEffect hfacts with
  | same _ _ hsame =>
      rw [hsame]
      exact hflag
  | added _ _ _ _ _ _ _ hdown | redeclared _ _ _ _ hdown => exact hdown

theorem ControlMove.flag_down {s s' : ProducerState} {input : ControlInput} {pc : ControlPc}
    (hmove : ControlMove s input pc s') (hflag : s.channelsConnected = false) :
    s'.channelsConnected = false := by
  cases hmove with
  | flag => rfl
  | _ => exact hflag

/-- A control call takes the worker out of `connectChannels` or leaves it where it is. -/
theorem ControlMove.worker_eq_of_connecting {s s' : ProducerState} {input : ControlInput}
    {pc : ControlPc} (hmove : ControlMove s input pc s') (hin : s'.worker.connecting = true) :
    s'.worker = s.worker := by
  cases hmove with
  | spawn | joined => cases hin
  | _ => rfl

/-! ### A call over a run -/

/-- Inside a call the flag is down.  A call that has not come to its loop has made no
pass; one that is past it, and still not over, has met a server failure. -/
structure PassFacts (s : ProducerState) (record : List ConnectEvent) : Prop where
  down : s.worker.connecting = true → s.channelsConnected = false
  none : s.worker.opening = true → latestPass record = none
  failed : s.worker.connecting = true → s.worker.opening = false →
    ∃ pass, latestPass record = some pass ∧
      ∃ entry ∈ pass.table, entryFails pass.base pass.replies entry = true

/-- The loop gives up only at an entry that meets a server failure. -/
theorem exists_entryFails (base : ConnectionBase) (replies : Bytes → ChannelReplies)
    (entries : ExchangeList) (allGood : Bool)
    (hloop : (connectLoop base replies entries allGood).1 = .serverFailure) :
    ∃ entry ∈ entries, entryFails base replies entry = true := by
  fun_induction connectLoop base replies entries allGood with
  | case1 => cases hloop
  | case2 name it rest allGood hconnected ih =>
      obtain ⟨entry, hentry, hfails⟩ := ih hloop
      exact ⟨entry, .tail _ hentry, hfails⟩
  | case3 name it rest allGood hconnected opened hfail =>
      refine ⟨(name, it), .head _, ?_⟩
      simp only [opened] at hfail
      simp [entryFails, openCode, hfail]
  | case4 name it rest allGood hconnected opened hfail hgood hdeclare declared hfailed =>
      refine ⟨(name, it), .head _, ?_⟩
      simp only [opened] at hgood
      simp only [declared] at hfailed
      simp [entryFails, openCode, hgood, hdeclare, hfailed]
  | case5 name it rest allGood hconnected opened hfail hgood hdeclare declared hfailed later ih =>
      obtain ⟨entry, hentry, hfails⟩ := ih hloop
      exact ⟨entry, .tail _ hentry, hfails⟩
  | case6 name it rest allGood hconnected opened hfail hgood hdeclare later ih =>
      obtain ⟨entry, hentry, hfails⟩ := ih hloop
      exact ⟨entry, .tail _ hentry, hfails⟩
  | case7 name it rest allGood hconnected opened hfail hgood later ih =>
      obtain ⟨entry, hentry, hfails⟩ := ih hloop
      exact ⟨entry, .tail _ hentry, hfails⟩

/-- A step that leaves the worker in its place, or takes it out of the call, and does
not raise the flag. -/
theorem PassFacts.of_same {s s' : ProducerState} {record : List ConnectEvent}
    (hfacts : PassFacts s record) (hworker : s'.worker.connecting = true → s'.worker = s.worker)
    (hflag : s.channelsConnected = false → s'.channelsConnected = false) :
    PassFacts s' record := by
  refine ⟨?_, ?_, ?_⟩
  · intro hin
    exact hflag (hfacts.down (by rw [← hworker hin]; exact hin))
  · intro hin
    exact hfacts.none (by rw [← hworker (connecting_of_opening hin)]; exact hin)
  · intro hin hafter
    have hsame := hworker hin
    rw [hsame] at hin hafter
    exact hfacts.failed hin hafter

/-- A step of the worker out of the call. -/
theorem PassFacts.of_left {s : ProducerState} {record : List ConnectEvent}
    (hout : s.worker.connecting = false) : PassFacts s record := by
  refine ⟨by simp [hout], ?_, by simp [hout]⟩
  intro hopening
  rw [connecting_of_opening hopening] at hout
  cases hout

/-- A step of the worker, unless the run ends there. -/
theorem PassFacts.worker {s s' : ProducerState} {input : WorkerInput}
    {record : List ConnectEvent} (hfacts : PassFacts s record) (hmove : WorkerMove s input s')
    (hrunning : s'.status = .running) :
    PassFacts s' (connectEvents s (.worker input) ++ record) := by
  cases hmove with
  | goto next hnext =>
      cases hnext with
      | channelsOff hpc hflag =>
          refine ⟨fun _ => hflag, fun _ => ?_, by rintro - ⟨⟩⟩
          rw [connectEvents, hpc]
          rfl
      | guardConnected hpc | guardRunning hpc =>
          refine ⟨fun _ => hfacts.down (by rw [hpc]; rfl), fun _ => ?_, by rintro - ⟨⟩⟩
          rw [connectEvents, hpc]
          exact hfacts.none (by rw [hpc]; rfl)
      | clearEmpty caller => exact .of_left (by cases caller <;> rfl)
      | clearMore caller hpc | clearFront caller hpc =>
          cases caller with
          | publishNextInQueue => exact .of_left rfl
          | connectChannels =>
              refine ⟨fun _ => hfacts.down (by rw [hpc]; rfl), by rintro ⟨⟩, fun _ _ => ?_⟩
              rw [connectEvents, hpc]
              exact hfacts.failed (by rw [hpc]; rfl) (by rw [hpc]; rfl)
      | _ => exact .of_left rfl
  -- the move does not say where the worker crashed, but no step comes after it
  | crash => cases hrunning
  | openFailed base hpc horder hbase hloop =>
      -- the loop gave up at some entry, and `closeConnection` comes next
      obtain ⟨entry, hentry, hfails⟩ := exists_entryFails base input.channels input.order true hloop
      refine ⟨fun _ => hfacts.down (by rw [hpc]; rfl), by rintro ⟨⟩, fun _ _ => ?_⟩
      rw [connectEvents, hpc, hbase]
      exact ⟨_, rfl, entry, horder.mem_iff.mp hentry, hfails⟩
  | closed caller base hpc | dropped caller base rest hpc =>
      cases caller with
      | publishNextInQueue => exact .of_left rfl
      | connectChannels =>
          refine ⟨fun _ => hfacts.down (by rw [hpc]; rfl), by rintro ⟨⟩, fun _ _ => ?_⟩
          rw [connectEvents, hpc]
          exact hfacts.failed (by rw [hpc]; rfl) (by rw [hpc]; rfl)
  | published base object next hpc hbase hnext =>
      refine .of_left ?_
      rcases hnext with ⟨-, rfl⟩ | ⟨-, rfl⟩ | ⟨-, -, rfl⟩ <;> rfl
  | _ => exact .of_left rfl

/-- In every run, whatever the callers do. -/
theorem passFacts_reachable {allowed : ProducerState → Action → Prop}
    {s : ProducerState × List ConnectEvent}
    (hs : (system.recording connectEvents).ReachableUnder (fun s => allowed s.1) s) :
    s.1.status = .running → PassFacts s.1 s.2 := by
  refine hs.record_induction (fun s record => s.status = .running → PassFacts s record)
    (fun _ => .of_left rfl) ?_
  intro s action s' record hreach _ hfacts hstep hrunning'
  obtain ⟨hrunning, hmove⟩ := move_of_step hstep
  have htable := tableFacts_reachable hreach
  have hfacts := hfacts hrunning
  cases hmove with
  | worker input _ hmove => exact hfacts.worker hmove hrunning'
  | user action _ hmove =>
      have hrecord : connectEvents s action = [] := by
        cases hmove <;> rfl
      rw [hrecord]
      exact hfacts.of_same (fun _ => hmove.frame.worker) (hmove.flag_down htable)
  | begin call => exact hfacts.of_same (fun _ => rfl) id
  | control k input pc rest _ hpick hmove =>
      exact hfacts.of_same hmove.worker_eq_of_connecting hmove.flag_down

/-! ### The end of a call -/

/-- The calls of a finished pass show the exchanges that it connected. -/
theorem connectedOn_of_finished {s : ProducerState} (htable : TableFacts s)
    {base : ConnectionBase} {replies : Bytes → ChannelReplies} {order : ExchangeList}
    {allGood : Bool} (horder : order.Perm s.exchangeList)
    (hloop : (connectLoop base replies order true).1 = .finished allGood)
    {entry : Bytes × ExchangeProperties} (hentry : entry ∈ s.exchangeList)
    (hopen : openCode base replies entry = .allGood)
    (hdeclare : entry.2.isDeclare = true → exchangeCode base replies entry = .allGood) :
    ConnectedOn (connectLoop base replies order true).2 base.conn entry := by
  have hfresh := htable.fresh horder
  have hmem : entry ∈ order := horder.mem_iff.mpr hentry
  cases hup : base.isConnected with
  | false => simp [openCode, openChannel, hup] at hopen
  | true =>
      rw [openCode_of_connected hup] at hopen
      obtain ⟨hopens, hfinished⟩ := connectLoop_opens hup replies hfresh
      have hcall := (hfinished allGood hloop).1 entry hmem
      refine ⟨⟨_, hcall, hopen⟩, ?_⟩
      intro hisDeclare
      -- channels are distinct, so the declaration that follows is that of this entry
      obtain ⟨-, other, hother, hchannel, -, hdeclared⟩ := hopens _ _ _ hcall
      have heq : other = entry :=
        List.inj_on_of_nodup_map htable.distinct (horder.mem_iff.mp hother) hentry hchannel.symm
      subst heq
      refine ⟨_, hdeclared hisDeclare hopen, ?_⟩
      have hcode := hdeclare hisDeclare
      simpa [exchangeCode, declareExchange, hup] using hcode

/-- The pass that ends a call. -/
theorem marksOnlyConnected_finished {s : ProducerState} (htable : TableFacts s)
    (hflag : s.channelsConnected = false) {input : WorkerInput} {base : ConnectionBase}
    {allGood : Bool} (horder : input.order.Perm s.exchangeList)
    (hbase : s.connection = some base)
    (hloop : (connectLoop base input.channels input.order true).1 = .finished allGood) :
    MarksOnlyConnected
      { s with
        calls := (connectLoop base input.channels input.order true).2 ++ s.calls
        worker := .publishTest
        channelsConnected := s.channelsConnected || allGood
        notes := .looked base.conn (refusedChannels base input.channels input.order) :: s.notes }
      (some ⟨base, input.channels, s.exchangeList⟩) ↔
    Pass.DeclaresAll ⟨base, input.channels, s.exchangeList⟩ := by
  obtain ⟨hgood, hnone⟩ := htable.finished_iff horder hloop
  constructor
  · intro hmarks hopens _ entry hentry hdeclare
    by_contra hcode
    -- the declaration that failed has left `allGood` as it was
    have hquiet : Pass.FailsQuietly ⟨base, input.channels, s.exchangeList⟩ entry := by
      refine .inr ⟨hopens entry hentry, hdeclare, hcode, ?_⟩
      have hfails := hnone entry hentry
      rw [entryFails, Bool.or_eq_false_iff] at hfails
      simpa [hopens entry hentry, hdeclare, exchangeCode] using hfails.2
    have hdown := hmarks.retried _ rfl ⟨entry, hentry, hquiet⟩
    rw [hgood.mpr hopens, Bool.or_true] at hdown
    cases hdown
  · intro hdeclares
    cases allGood with
    -- a channel that did not open is tried again
    | false => exact .of_down (by simp [hflag])
    | true =>
        have hopens := hgood.mp rfl
        have hcodes := hdeclares hopens hnone
        refine ⟨?_, ?_⟩
        · intro _ entry hentry
          obtain ⟨⟨reply, hopen, hopened⟩, hdeclare⟩ := connectedOn_of_finished htable horder
            hloop hentry (hopens entry hentry) (hcodes entry hentry)
          rw [show currentConn _ = base.conn by simp [currentConn, hbase]]
          refine ⟨⟨reply, List.mem_append_left _ hopen, hopened⟩, ?_⟩
          intro hisDeclare
          obtain ⟨reply', hcall, hdeclared⟩ := hdeclare hisDeclare
          exact ⟨reply', List.mem_append_left _ hcall, hdeclared⟩
        · rintro _ ⟨⟩ ⟨entry, hentry, hquiet⟩
          rcases hquiet with ⟨hrefused, -⟩ | ⟨-, hisDeclare, hrefused, -⟩
          · exact absurd (hopens entry hentry) hrefused
          · exact absurd (hcodes entry hentry hisDeclare) hrefused

/-- A pass that met a server failure did not go well otherwise. -/
theorem Pass.declaresAll_of_failed {pass : Pass}
    (hfailed : ∃ entry ∈ pass.table, entryFails pass.base pass.replies entry = true) :
    pass.DeclaresAll := by
  intro _ hnone
  obtain ⟨entry, hentry, hfails⟩ := hfailed
  rw [hnone entry hentry] at hfails
  cases hfails

/-- A call that ends before its loop, or after closing the connection. -/
theorem PassFacts.end_goto {s : ProducerState} {record : List ConnectEvent}
    (hfacts : PassFacts s record) (hin : s.worker.connecting = true) (next : WorkerPc) :
    MarksOnlyConnected { s with worker := next } (latestPass record) ↔
      ∀ pass, latestPass record = some pass → pass.DeclaresAll := by
  have hmarks : MarksOnlyConnected { s with worker := next } (latestPass record) :=
    .of_down (hfacts.down hin)
  refine ⟨fun _ pass hpass => ?_, fun _ => hmarks⟩
  cases hbefore : s.worker.opening with
  | true =>
      rw [hfacts.none hbefore] at hpass
      cases hpass
  | false =>
      obtain ⟨failed, hlatest, hfails⟩ := hfacts.failed hin hbefore
      obtain rfl := Option.some.inj (hpass.symm.trans hlatest)
      exact Pass.declaresAll_of_failed hfails

/-- The step of the worker that ends a call. -/
theorem PassFacts.end_iff {s s' : ProducerState} {record : List ConnectEvent}
    (hfacts : PassFacts s record) (htable : TableFacts s) {input : WorkerInput}
    (hmove : WorkerMove s input s') (hin : s.worker.connecting = true)
    (hend : s'.worker.connecting = false) :
    MarksOnlyConnected s' (latestPass (connectEvents s (.worker input) ++ record)) ↔
      ∀ pass, latestPass (connectEvents s (.worker input) ++ record) = some pass →
        pass.DeclaresAll := by
  cases hmove with
  | goto next hnext =>
      have hrecord : connectEvents s (.worker input) = [] := by
        rw [connectEvents]
        cases hnext <;> simp_all [WorkerPc.connecting]
      rw [hrecord]
      exact hfacts.end_goto hin next
  | opened base allGood hpc horder hbase hloop =>
      have hrecord : connectEvents s (.worker input) =
          [.pass ⟨base, input.channels, s.exchangeList⟩] := by
        rw [connectEvents, hpc, hbase]
      rw [hrecord]
      have hfinished := marksOnlyConnected_finished htable (hfacts.down hin) horder hbase hloop
      constructor
      · rintro hmarks _ ⟨⟩
        exact hfinished.mp hmarks
      · intro h
        exact hfinished.mpr (h _ rfl)
  | crash => exact absurd hin (by rw [show s.worker.connecting = false from hend]; decide)
  | connected base hpc | connectFailed base hpc | looked hpc | popped object rest hpc =>
      rw [hpc] at hin
      cases hin
  | published base object next hpc =>
      rw [hpc] at hin
      cases hin
  | openFailed => cases hend
  | closed caller base hpc | dropped caller object rest hpc =>
      cases caller with
      | connectChannels => cases hend
      | publishNextInQueue =>
          rw [hpc] at hin
          cases hin

/-- At the end of a call of `connectChannels`, in every run: the producer is marked
connected only when it is, and not after a failure that leaves the connection up,
exactly when no declaration is refused in a pass that goes well otherwise. -/
theorem marksOnlyConnected_iff {allowed : ProducerState → Action → Prop}
    {s s' : ProducerState × List ConnectEvent}
    (hs : (system.recording connectEvents).ReachableUnder (fun s => allowed s.1) s)
    {input : WorkerInput}
    (hstep : (system.recording connectEvents).step s (.worker input) = some s')
    (hin : s.1.worker.connecting = true) (hend : s'.1.worker.connecting = false) :
    MarksOnlyConnected s'.1 (latestPass s'.2) ↔
      ∀ pass, latestPass s'.2 = some pass → pass.DeclaresAll := by
  obtain ⟨hstep, hrecord⟩ := TransitionSystem.recording_step hstep
  have hstep : step s.1 (.worker input) = some s'.1 := hstep
  obtain ⟨hrunning, hmove⟩ := move_of_step hstep
  rw [hrecord]
  cases hmove with
  | worker _ _ hmove =>
      exact (passFacts_reachable hs hrunning).end_iff (tableFacts_reachable hs.forget) hmove hin
        hend
  | user _ _ hmove => cases hmove

/-- `DeclareExchange` of a topic exchange `e`, and the worker up to the loop of
`connectChannels`. -/
def declareAndConnect : List Action :=
  List.flatten [startUp, [.declareExchange [101] [116]], workerSteps 6]

/-- The pass over the table, with the broker's answer to the declaration. -/
def passWith (declareReply : AmqpRpcReply) : WorkerInput where
  order := [([101], { channel := 1, isDeclare := true, type := [116] })]
  channels := fun _ => { declareReply := declareReply }

/-- A run in which the exchange is declared, and the producer is marked connected. -/
theorem marksOnlyConnected_declared :
    ∃ s s', (system.recording connectEvents).ReachableUnder (fun s => OneControl s.1) s ∧
      (system.recording connectEvents).step s (.worker (passWith .normal)) = some s' ∧
      s'.1.channelsConnected = true ∧
      (MarksOnlyConnected s'.1 (latestPass s'.2) ↔
        ∀ pass, latestPass s'.2 = some pass → pass.DeclaresAll) := by
  obtain ⟨s, hs, htest⟩ := TransitionSystem.exists_reachableUnder_of_run
    (M := system.recording connectEvents) (fun s => OneControl s.1) declareAndConnect
    (fun s : ProducerState × List ConnectEvent =>
      ((system.recording connectEvents).step s (.worker (passWith .normal))).any
        fun s' : ProducerState × List ConnectEvent =>
          decide (s.1.worker.connecting = true ∧ s'.1.worker.connecting = false ∧
            s'.1.channelsConnected = true)) (by decide +kernel)
  obtain ⟨s', hstep, htest⟩ := (Option.any_eq_true _ _).mp htest
  obtain ⟨hin, hend, hflag⟩ := of_decide_eq_true htest
  exact ⟨s, s', hs, hstep, hflag, marksOnlyConnected_iff hs hstep hin hend⟩

/-- The broker closes the channel on the declaration: the producer is marked connected
although its exchange was not declared. -/
theorem marksOnlyConnected_refused :
    ∃ s s', (system.recording connectEvents).ReachableUnder (fun s => OneControl s.1) s ∧
      (system.recording connectEvents).step s (.worker (passWith channelClosed)) = some s' ∧
      s.1.worker.connecting = true ∧ s'.1.worker.connecting = false ∧
      s'.1.channelsConnected = true ∧ ¬MarksOnlyConnected s'.1 (latestPass s'.2) := by
  obtain ⟨s, hs, htest⟩ := TransitionSystem.exists_reachableUnder_of_run
    (M := system.recording connectEvents) (fun s => OneControl s.1) declareAndConnect
    (fun s : ProducerState × List ConnectEvent =>
      ((system.recording connectEvents).step s (.worker (passWith channelClosed))).any
        fun s' : ProducerState × List ConnectEvent =>
          decide (s.1.worker.connecting = true ∧ s'.1.worker.connecting = false ∧
            s'.1.channelsConnected = true ∧ (latestPass s'.2).any (fun pass =>
              decide (∃ entry ∈ pass.table, pass.FailsQuietly entry)) = true))
    (by decide +kernel)
  obtain ⟨s', hstep, htest⟩ := (Option.any_eq_true _ _).mp htest
  obtain ⟨hin, hend, hflag, hpass⟩ := of_decide_eq_true htest
  obtain ⟨pass, hpass, hquiet⟩ := (Option.any_eq_true _ _).mp hpass
  refine ⟨s, s', hs, hstep, hin, hend, hflag, ?_⟩
  intro hmarks
  have hdown := hmarks.retried pass hpass (of_decide_eq_true hquiet)
  rw [hflag] at hdown
  cases hdown

end Producer
end HareCpp
