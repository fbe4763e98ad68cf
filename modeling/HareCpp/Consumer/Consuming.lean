import HareCpp.ReplyCodes
import HareCpp.Consumer.QueueProperties

/-!
# Every subscription is consumed

That a channel of the table was set up on the connection does not say that the
broker still delivers on it: the same connection may see a second set-up of the
channel, by the list and by the push of a `Subscribe`, and a call of the second
one can close it.  What the broker has been told is in the record of calls.  And
the broker may have refused `basic.consume` with an exception that `decodeRpcReply`
takes for a success; the runs here are those in which it has not (`ConsumeListed`).

The invariant is that a channel which was set up consumes on the current
connection, or is on its way to another set-up: it is pending or in the worker's
hands.  With the table in step (`AllTracked`), this says of every channel of the
table that it consumes, is on its way to be set up, or belongs to a `Subscribe`
that has yet to push it; and no other channel consumes (`calls_known`).

* `ConsumingFacts`, `consumingFacts_reachable` — the invariant and its runs.
* `consumesOrWaits_reachable` — the result for the channels of the table.
* `consumes_iff` — with nothing left to set up, the channels that consume are
  those of the table.
-/

namespace HareCpp
namespace Consumer

open Library ConnectionBase ChannelHandler

variable {Callback : Type} {s s' : ConsumerState Callback}

/-! ### The invariant -/

/-- The worker is at `StartConsumption`. -/
def WorkerPc.consuming : WorkerPc → Bool
  | .setupConsume .. => true
  | _ => false

/-- `decodeRpcReply` has a case for the answer to `basic.consume`. -/
def ConsumeListed (s : ConsumerState Callback) : Action Callback → Prop
  | .worker input => s.worker.consuming = true → input.reply.Listed
  | _ => True

/-- One control thread, and the condition above. -/
def ConsumingRun (s : ConsumerState Callback) (action : Action Callback) : Prop :=
  OneControl s action ∧ ConsumeListed s action

instance (s : ConsumerState Callback) :
    (action : Action Callback) → Decidable (ConsumeListed s action)
  | .worker _ => inferInstanceAs (Decidable (_ → _))
  | .subscribe _ | .subscribeStep _ | .begin _ | .control .. => inferInstanceAs (Decidable True)

instance (s : ConsumerState Callback) (action : Action Callback) :
    Decidable (ConsumingRun s action) :=
  inferInstanceAs (Decidable (_ ∧ _))

theorem ConsumingRun.oneControl (hs : system.ReachableUnder ConsumingRun s) :
    system.ReachableUnder OneControl s := hs.mono fun _ _ h => h.1

/-- The channel consumes on the current connection. -/
def Consumes (s : ConsumerState Callback) (channel : Int) : Prop :=
  channelConsumes (currentConn s) channel s.calls = true

/-- The channel consumes, or is on its way to `setupAndConsume`. -/
def ConsumesOrWaits (s : ConsumerState Callback) (channel : Int) : Prop :=
  Consumes s channel ∨ channel ∈ s.pendingChannels ∨ channel ∈ s.worker.channels

/-- No channel was set up before the list of the connection is taken, and a channel
that was set up consumes or is on its way to be set up again. -/
structure ConsumingFacts (s : ConsumerState Callback) : Prop where
  fresh : s.worker.unlisted = true → ∀ c, ¬SetUpSinceConnect s c
  kept : Exempt s ∨ ∀ c, SetUpSinceConnect s c → ConsumesOrWaits s c

/-- What was set up is set up now or was set up before. -/
theorem setUpSinceConnect_append {channel : Int} {notes : List (Note Callback)}
    (hnotes : ∀ note ∈ notes, note.isConnect = false) (heq : s'.notes = notes ++ s.notes) :
    SetUpSinceConnect s' channel ↔
      Note.setUp channel .allGood ∈ notes ∨ SetUpSinceConnect s channel := by
  unfold SetUpSinceConnect
  rw [heq, List.takeWhile_append_of_pos (by simpa using hnotes), List.mem_append]

/-- Notes that neither connect nor set up a channel. -/
theorem setUpSinceConnect_same {channel : Int} {notes : List (Note Callback)}
    (hnotes : ∀ note ∈ notes, note.isConnect = false ∧ ∀ c, note ≠ .setUp c .allGood)
    (heq : s'.notes = notes ++ s.notes) :
    SetUpSinceConnect s' channel ↔ SetUpSinceConnect s channel := by
  rw [setUpSinceConnect_append (fun note hnote => (hnotes note hnote).1) heq]
  constructor
  · intro h
    exact h.resolve_left fun hmem => (hnotes _ hmem).2 channel rfl
  · exact .inr

/-- `setupAndConsume` returns. -/
theorem setUpSinceConnect_setupReturns {caller : SetupCaller} {channel : Int} {code : HareError}
    (c : Int) :
    SetUpSinceConnect (setupReturns s caller channel code) c ↔
      (c = channel ∧ code = .allGood) ∨ SetUpSinceConnect s c := by
  have hnotes : (setupReturns s caller channel code).notes = [.setUp channel code] ++ s.notes := rfl
  rw [setUpSinceConnect_append (by simp [Note.isConnect]) hnotes]
  simp [eq_comm]

/-- After a `Connect` no channel is set up. -/
theorem not_setUpSinceConnect {conn : Option Nat} {notes : List (Note Callback)}
    (heq : s'.notes = .connected conn :: notes) (channel : Int) :
    ¬SetUpSinceConnect s' channel := by
  unfold SetUpSinceConnect
  rw [heq, List.takeWhile_cons]
  simp [Note.isConnect]

/-- A step that sets no channel up and takes none out of sight. -/
theorem ConsumingFacts.of_frame (hfacts : ConsumingFacts s) (hexempt : Exempt s → Exempt s')
    (hunlisted : s'.worker.unlisted = true → s.worker.unlisted = true)
    (notes : List (Note Callback))
    (hnotes : ∀ note ∈ notes, note.isConnect = false ∧ ∀ c, note ≠ .setUp c .allGood)
    (heq : s'.notes = notes ++ s.notes)
    (hkeeps : ∀ c, ConsumesOrWaits s c → ConsumesOrWaits s' c) : ConsumingFacts s' := by
  have hsame : ∀ c, SetUpSinceConnect s' c ↔ SetUpSinceConnect s c :=
    fun _ => setUpSinceConnect_same hnotes heq
  constructor
  · intro h c hset
    exact hfacts.fresh (hunlisted h) c ((hsame c).mp hset)
  · rcases hfacts.kept with h | h
    · exact .inl (hexempt h)
    · exact .inr fun c hset => hkeeps c (h c ((hsame c).mp hset))

/-- Calls that do not concern a channel leave its consumption as it is. -/
theorem Consumes.of_calls {channel : Int} (h : Consumes s channel)
    (hconn : s'.connection = s.connection) (new : List AmqpCall)
    (hcalls : s'.calls = new ++ s.calls)
    (hnew : ∀ call ∈ new, consumeEffect (currentConn s) channel call = none) :
    Consumes s' channel := by
  have hcurrent : currentConn s' = currentConn s := by rw [currentConn, currentConn, hconn]
  unfold Consumes at h ⊢
  rw [hcurrent, hcalls]
  exact (latest_append hnew s.calls).trans h

/-! ### Steps of the worker -/

/-- `OpenChannel` makes calls about its channel only. -/
theorem onChannel_openChannel (base : ConnectionBase) (channel : Int) (reply : AmqpRpcReply)
    (closeOkStatus : Int) :
    ∀ call ∈ (base.openChannel channel reply closeOkStatus).calls,
      call.onChannel = some channel := by
  intro call hcall
  rcases openChannel_cases base channel reply closeOkStatus with
    ⟨-, heq⟩ | ⟨after, -, heq, hafter⟩
  · simp [heq] at hcall
  · rw [heq] at hcall
    rcases List.mem_append.mp hcall with hlater | hopen
    · rw [hafter call hlater]
      rfl
    · rw [List.mem_singleton.mp hopen]
      rfl

/-- A worker that has channels in hand has taken the list. -/
theorem unlisted_of_channels {pc : WorkerPc} (h : pc.channels ≠ []) : pc.unlisted = false := by
  cases pc <;> first | rfl | exact absurd rfl h

/-- A step of the worker on the channel in hand, which stays in hand. -/
theorem ConsumingFacts.of_call {input : WorkerInput} (hfacts : ConsumingFacts s)
    (hmove : WorkerMove s input s') (hsettled : s.worker.unsettled = false)
    (hconn : s'.connection = s.connection) {channel : Int} {caller : SetupCaller}
    (new : List AmqpCall) (hcalls : s'.calls = new ++ s.calls)
    (honly : ∀ call ∈ new, call.onChannel = some channel) (hnotes : s'.notes = s.notes)
    (hpending : s'.pendingChannels = s.pendingChannels)
    (hbefore : s.worker.channels = channel :: caller.rest)
    (hafter : s'.worker.channels = channel :: caller.rest) : ConsumingFacts s' := by
  obtain ⟨hcontrols, hthread, -⟩ := hmove.frame
  refine hfacts.of_frame (fun h => h.of_worker hsettled hconn hthread hcontrols) ?_ [] (by simp)
    hnotes ?_
  · simp [unlisted_of_channels (hafter ▸ List.cons_ne_nil _ _)]
  · rintro c (hconsumes | hpend | hhand)
    · by_cases hne : c = channel
      · exact .inr (.inr (by rw [hafter, hne]; exact List.mem_cons_self))
      · left
        refine hconsumes.of_calls hconn new hcalls fun call hcall => ?_
        exact (effect_of_onChannel (honly call hcall) hne _).2
    · exact .inr (.inl (by rwa [hpending]))
    · exact .inr (.inr (by rwa [hafter, ← hbefore]))

/-- A step of a settled worker that makes no calls about channels and has nothing in
hand. -/
theorem ConsumingFacts.of_quiet {input : WorkerInput} (hfacts : ConsumingFacts s)
    (hmove : WorkerMove s input s') (hsettled : s.worker.unsettled = false)
    (hnone : s.worker.channels = []) (hlisted : s'.worker.unlisted = false)
    (hconn : s'.connection = s.connection) (new : List AmqpCall)
    (hcalls : s'.calls = new ++ s.calls) (hquiet : ∀ call ∈ new, quiet call = true)
    (notes : List (Note Callback))
    (hnotes : ∀ note ∈ notes, note.isConnect = false ∧ ∀ c, note ≠ .setUp c .allGood)
    (heq : s'.notes = notes ++ s.notes)
    (hpending : ∀ c ∈ s.pendingChannels, c ∈ s'.pendingChannels ∨ c ∈ s'.worker.channels) :
    ConsumingFacts s' := by
  obtain ⟨hcontrols, hthread, -⟩ := hmove.frame
  refine hfacts.of_frame (fun h => h.of_worker hsettled hconn hthread hcontrols) ?_ notes hnotes
    heq ?_
  · simp [hlisted]
  · rintro c (hconsumes | hpend | hhand)
    · left
      refine hconsumes.of_calls hconn new hcalls fun call hcall => ?_
      exact (effect_of_quiet (hquiet call hcall) _ c).2
    · exact .inr (hpending c hpend)
    · simp [hnone] at hhand

/-- A step of the worker keeps the facts. -/
theorem ConsumingFacts.worker {input : WorkerInput} (hfacts : ConsumingFacts s)
    (hsession : SessionFacts s) (hlisted : ConsumeListed s (.worker input))
    (hmove : WorkerMove s input s') : ConsumingFacts s' := by
  have hcall := hfacts.of_call hmove
  have hidle := hfacts.of_quiet hmove
  cases hmove with
  | goto next hnext =>
      rcases hnext.settled with ⟨hlist, -, rfl⟩ | ⟨hsettled, hnone, hnextSettled, hnextNone⟩
      · -- the list is taken on a connection on which nothing was set up
        have hfresh := hfacts.fresh (by rw [hlist]; rfl)
        refine ⟨?_, .inr fun c hset => absurd hset (hfresh c)⟩
        intro _
        exact hfresh
      · refine hidle hsettled hnone ?_ rfl [] rfl (by simp) [] (by simp) rfl fun c h => .inl h
        by_contra hunlisted
        have hunsettled := unsettled_of_unlisted (by simpa using hunlisted)
        rw [hnextSettled] at hunsettled
        cases hunsettled
  | crash => exact ⟨hfacts.fresh, hfacts.kept⟩
  | connected base hpc hbase hcode =>
      exact ⟨fun _ c => not_setUpSinceConnect rfl c, .inl (.inr (.inr (.inr rfl)))⟩
  | connectFailed base hpc hbase hcode =>
      have hdown : base.isConnected = false := by
        rw [← isConnected_of_connection hbase]
        exact hsession.down hpc
      have hplain := (hsession.sound.baseSound base hbase).plain
      obtain ⟨-, -, -, -, hsame⟩ := connect_handle hplain s.handles input.connect
      exact ⟨by rintro ⟨⟩, .inl (.inl ((hsame hcode).trans hdown))⟩
  | emptied hpc =>
      exact ⟨fun _ => hfacts.fresh (by rw [hpc]; rfl), .inl (.inr (.inr (.inr rfl)))⟩
  | opened caller channel base hpc hbase =>
      exact hcall (by rw [hpc]; rfl) rfl _ rfl (onChannel_openChannel _ _ _ _) rfl rfl
        (by rw [hpc]; rfl) (channels_setupGoesOn caller channel _ rfl)
  | propertiesRead caller channel hpc =>
      exact hcall (by rw [hpc]; rfl) rfl [] rfl (by simp) rfl rfl (by rw [hpc]; rfl) rfl
  | declared caller channel base queue hpc hbase | refused caller channel base queue hpc hbase =>
      exact hcall (by rw [hpc]; rfl) rfl [_] rfl (by simp [AmqpCall.onChannel]) rfl rfl
        (by rw [hpc]; rfl) rfl
  | bound caller channel base queue hpc hbase =>
      exact hcall (by rw [hpc]; rfl) rfl [_] rfl (by simp [AmqpCall.onChannel]) rfl rfl
        (by rw [hpc]; rfl) (channels_setupGoesOn caller channel _ rfl)
  | consumed caller channel base queue hpc hbase hcode =>
      have hsettled : s.worker.unsettled = false := by rw [hpc]; rfl
      have hconn : currentConn s = base.conn := by simp [currentConn, hbase]
      have hnormal := (hlisted (by rw [hpc]; rfl)).decoded.mp hcode
      have hafter : (afterSetup .allGood caller).channels = caller.rest :=
        (channels_afterSetup .allGood caller).resolve_left fun h => absurd h.1 (by decide)
      refine ⟨?_, ?_⟩
      · intro hunlisted
        have hlisted := unlisted_afterSetup .allGood caller
        exact absurd (hunlisted.symm.trans hlisted) (by decide)
      · rcases hfacts.kept with h | h
        · exact .inl (h.of_worker hsettled rfl rfl rfl)
        right
        intro c hsetUp
        by_cases hne : c = channel
        · left
          show latest (consumeEffect (currentConn s) c) (_ :: s.calls) = true
          rw [latest_cons]
          simp [consumeEffect, hconn, hnormal, hne]
        · have hbefore : SetUpSinceConnect s c :=
            ((setUpSinceConnect_setupReturns c).mp hsetUp).resolve_left fun h => hne h.1
          rcases h c hbefore with hconsumes | hpending | hhand
          · left
            refine hconsumes.of_calls rfl [_] rfl fun call hmem => ?_
            rw [List.mem_singleton.mp hmem]
            have honly : (AmqpCall.basicConsume base.conn channel queue input.reply).onChannel =
                some channel := rfl
            exact (effect_of_onChannel honly hne _).2
          · exact .inr (.inl hpending)
          · rw [hpc] at hhand
            refine .inr (.inr ?_)
            show c ∈ (afterSetup .allGood caller).channels
            rw [hafter]
            exact (List.mem_cons.mp hhand).resolve_left hne
  | consumeFailed caller channel base queue hpc hbase hcode =>
      exact hcall (by rw [hpc]; rfl) rfl [_] rfl (by simp [AmqpCall.onChannel]) rfl rfl
        (by rw [hpc]; rfl) rfl
  | pushed caller channel code hpc =>
      have hsettled : s.worker.unsettled = false := by rw [hpc]; rfl
      refine ⟨?_, ?_⟩
      · intro hunlisted
        have hlisted := unlisted_afterSetup code caller
        exact absurd (hunlisted.symm.trans hlisted) (by decide)
      · rcases channels_afterSetup code caller with ⟨-, hclose⟩ | hchannels
        · refine .inl (.inr (.inr (.inr ?_)))
          show (afterSetup code caller).unsettled = true
          rw [hclose]
          rfl
        rcases hfacts.kept with h | h
        · exact .inl (h.of_worker hsettled rfl rfl rfl)
        right
        intro c hsetUp
        by_cases hne : c = channel
        · rw [hne]
          exact .inr (.inl (List.mem_append_right _ (List.mem_singleton.mpr rfl)))
        · have hbefore : SetUpSinceConnect s c :=
            ((setUpSinceConnect_setupReturns c).mp hsetUp).resolve_left fun h => hne h.1
          rcases h c hbefore with hconsumes | hpending | hhand
          · exact .inl hconsumes
          · exact .inr (.inl (List.mem_append_left _ hpending))
          · rw [hpc] at hhand
            refine .inr (.inr ?_)
            show c ∈ (afterSetup code caller).channels
            rw [hchannels]
            exact (List.mem_cons.mp hhand).resolve_left hne
  | closed base => exact ⟨by rintro ⟨⟩, .inl (.inl (closeConnection_isConnected _ _))⟩
  | released base hpc =>
      exact hidle (by rw [hpc]; rfl) (by rw [hpc]; rfl) rfl rfl [_] rfl (by simp [quiet]) []
        (by simp) rfl fun c h => .inl h
  | pulled base next hpc hbase hnext =>
      refine hidle (by rw [hpc]; rfl) (by rw [hpc]; rfl) ?_ rfl _ rfl ?_ [] (by simp) rfl
        fun c h => .inl h
      · rcases hnext with rfl | rfl | rfl <;> rfl
      · intro call hmem
        unfold consumeMessage at hmem
        split at hmem
        · rw [List.mem_singleton.mp hmem]
          rfl
        · cases hmem
  | processed envelope hpc =>
      refine hidle (by rw [hpc]; rfl) (by rw [hpc]; rfl) rfl rfl [] rfl (by simp) _ ?_ rfl
        fun c h => .inl h
      intro note hnote
      obtain ⟨invocation, -, rfl⟩ := List.mem_map.mp hnote
      exact ⟨rfl, by simp⟩
  | popped channel rest hpc hpending =>
      refine hidle (by rw [hpc]; rfl) (by rw [hpc]; rfl) rfl rfl [] rfl (by simp) [] (by simp) rfl
        ?_
      intro c hc
      rw [hpending] at hc
      rcases List.mem_cons.mp hc with rfl | hrest
      · exact .inr List.mem_cons_self
      · exact .inl hrest

/-! ### Steps of the other threads -/

/-- A step of a `Subscribe` keeps the facts. -/
theorem ConsumingFacts.subscribe {pc : SubscribePc Callback} (hfacts : ConsumingFacts s)
    (hmove : SubscribeMove s pc s') : ConsumingFacts s' := by
  have hframe := hmove.frame
  have hpending : s.pendingChannels ⊆ s'.pendingChannels := by
    rcases hmove.pending with heq | ⟨channel, -, heq⟩
    · rw [heq]
      exact fun _ h => h
    · rw [heq]
      exact List.subset_append_left _ _
  obtain ⟨notes, heq, hnotes⟩ : ∃ notes, s'.notes = notes ++ s.notes ∧
      ∀ note ∈ notes, note.isConnect = false ∧ ∀ c, note ≠ .setUp c .allGood := by
    cases hmove with
    | known | notRunning | pushed => exact ⟨[_], rfl, by simp [Note.isConnect]⟩
    | added | propertiesSet | running => exact ⟨[], rfl, by simp⟩
  refine hfacts.of_frame (fun h => h.of_user hframe) ?_ notes hnotes heq ?_
  · rw [hframe.worker]
    exact id
  · rintro c (hconsumes | hpend | hhand)
    · exact .inl (hconsumes.of_calls hframe.connection [] hframe.calls (by simp))
    · exact .inr (.inl (hpending hpend))
    · exact .inr (.inr (by rwa [hframe.worker]))

/-- A step of the control thread leaves an exempt moment behind, unless it is a
`Start` that is refused and changes nothing. -/
theorem ControlMove.exempt {reply : AmqpRpcReply} {pc : ControlPc} (hcall : CallFacts s (some pc))
    (hmove : ControlMove s reply pc s') (hstatus : s'.status = .running) :
    Exempt s' ∨
      ∃ restarting code, pc = .start restarting ∧ s' = startReturns s restarting code := by
  have hphase := hcall.phase
  cases hmove with
  | goto _ next hnext =>
      left
      cases hnext with
      | stopInitialized caller hinit =>
          exact .inr (.inr (.inl ⟨.stopRunning caller, List.mem_cons_self, rfl⟩))
      | stopRunning caller hrunning =>
          exact .inr (.inr (.inl ⟨.stopSet caller, List.mem_cons_self, rfl⟩))
      | destroyRunning hrunning =>
          exact .inr (.inr (.inl ⟨.stopEmpty .destructor, List.mem_cons_self, rfl⟩))
      | destroyIdle hrunning => exact .inr (.inl hrunning)
      | destroyUninitialized hinit => exact .inr (.inl hphase.1)
  | startRefused restarting code hwhy => exact .inr ⟨restarting, code, rfl, rfl⟩
  | started restarting hinit hthread hworker =>
      -- a connection without a worker belongs to a `Stop` that has not closed it yet
      left
      left
      show isConnected s = false
      by_contra hup
      obtain ⟨caller, hstop⟩ := hcall.closed hworker (by simpa using hup)
      cases hstop
  | emptied caller =>
      exact .inl (.inr (.inr (.inl ⟨.stopInitialized caller, List.mem_cons_self, rfl⟩)))
  | stopRefused _ caller code hpc =>
      have hidle : s.threadRunning = false := by
        rcases hpc with ⟨-, hinit, -⟩ | ⟨-, hthread, -⟩
        · by_contra hthread
          rw [hcall.initialized (.inl (by simpa using hthread))] at hinit
          cases hinit
        · exact hthread
      exact .inl (.inr (.inl (by rwa [stopReturns_threadRunning])))
  | stopSet caller => exact .inl (.inr (.inl rfl))
  | joined caller hworker => exact .inl (.inr (.inl hphase.1))
  | stopped caller base hbase =>
      left
      left
      rw [isConnected_stopReturns]
      exact closeConnection_isConnected base reply
  | initConnection credentials => exact .inl (.inl rfl)
  | initInitialized => exact .inl (.inr (.inl hphase.1))
  | initRunning => exact .inl (.inr (.inl rfl))
  | destroyClosed base hinit hbase => exact .inl (.inl (closeConnection_isConnected base reply))
  | destroyed hworker => exact .inl (.inl rfl)
  | crash => cases hstatus

/-- What a control step adds to the notes. -/
theorem ControlMove.notes {reply : AmqpRpcReply} {pc : ControlPc}
    (hmove : ControlMove s reply pc s') :
    ∃ notes, s'.notes = notes ++ s.notes ∧
      ∀ note ∈ notes, ∃ api code, note = .apiReturned api code := by
  cases hmove with
  | startRefused | started | initRunning => exact ⟨[_], rfl, by simp⟩
  | stopRefused _ caller code =>
      obtain ⟨controls, notes, heq, -, hnotes⟩ := stopReturns_frame s caller code
      rw [heq]
      exact ⟨notes, rfl, fun note hnote => (hnotes note hnote).imp fun api h => ⟨code, h⟩⟩
  | stopped caller base =>
      obtain ⟨controls, notes, heq, -, hnotes⟩ := stopReturns_frame { s with
        connection := some (base.closeConnection reply).base
        calls := (base.closeConnection reply).calls ++ s.calls } caller
          (base.closeConnection reply).code
      rw [heq]
      exact ⟨notes, rfl, fun note hnote => (hnotes note hnote).imp fun api h => ⟨_, h⟩⟩
  | _ => exact ⟨[], rfl, by simp⟩

/-- A step of the control thread keeps the facts. -/
theorem ConsumingFacts.control {reply : AmqpRpcReply} {pc : ControlPc}
    (hfacts : ConsumingFacts (goOn s pc)) (hnone : s.controls = [])
    (hcall : CallFacts s (some pc)) (hmove : ControlMove s reply pc s')
    (hstatus : s'.status = .running) : ConsumingFacts s' := by
  rcases hmove.exempt hcall hstatus with hexempt | ⟨restarting, code, rfl, rfl⟩
  · refine ⟨?_, .inl hexempt⟩
    intro hunlisted c
    obtain ⟨notes, heq, hnotes⟩ := hmove.notes
    have hquiet : ∀ note ∈ notes, note.isConnect = false ∧ ∀ c, note ≠ .setUp c .allGood := by
      intro note hnote
      obtain ⟨api, code, rfl⟩ := hnotes note hnote
      exact ⟨rfl, by simp⟩
    rw [setUpSinceConnect_same hquiet heq]
    rcases hmove.worker with hsame | ⟨-, hnew⟩ | ⟨-, hnew⟩
    · rw [hsame] at hunlisted
      exact hfacts.fresh hunlisted c
    · rw [hnew] at hunlisted
      cases hunlisted
    · rw [hnew] at hunlisted
      cases hunlisted
  · refine hfacts.of_frame ?_ id [_] ?_ rfl fun c h => h
    · rintro (h | h | ⟨pc, hpc, hstop⟩ | h)
      · exact .inl h
      · exact .inr (.inl h)
      · simp only [goOn, hnone, List.mem_singleton] at hpc
        subst hpc
        cases hstop
      · exact .inr (.inr (.inr h))
    · simp [Note.isConnect]

/-- The facts hold while a run that meets the condition goes on. -/
theorem consumingFacts_reachable (hs : system.ReachableUnder ConsumingRun s) :
    s.status = .running → ConsumingFacts s := by
  refine hs.induction (fun s => s.status = .running → ConsumingFacts s) ?_ ?_
  · exact fun _ => ⟨by rintro ⟨⟩, .inl (.inl rfl)⟩
  · intro s action s' hreach hallowed hfacts hstep hstatus'
    have hone := ConsumingRun.oneControl hreach
    obtain ⟨hstatus, hmove⟩ := move_of_step hstep
    have hfacts := hfacts hstatus
    cases hmove with
    | worker input _ hmove => exact hfacts.worker (sessionFacts_reachable hone) hallowed.2 hmove
    | subscribeRefused call =>
        exact hfacts.of_frame (fun h => h) id [_] (by simp [Note.isConnect]) rfl fun c h => h
    | subscribeBegins call => exact ⟨hfacts.fresh, hfacts.kept⟩
    | subscribe k pc rest _ hpick hmove =>
        have hsame : ConsumingFacts { s with subscribes := rest } := ⟨hfacts.fresh, hfacts.kept⟩
        exact hsame.subscribe hmove
    | begin call =>
        refine hfacts.of_frame ?_ id [] (by simp) rfl fun c h => h
        rintro (h | h | ⟨pc, hpc, hstop⟩ | h)
        · exact .inl h
        · exact .inr (.inl h)
        · exact .inr (.inr (.inl ⟨pc, List.mem_cons_of_mem _ hpc, hstop⟩))
        · exact .inr (.inr (.inr h))
    | control k reply pc rest _ hpick _ hmove =>
        have hperm := perm_of_pick hpick
        obtain ⟨rfl, hcall⟩ := (threadFacts_reachable hone hstatus).picked hpick
        have hcontrols : s.controls = [pc] := List.perm_singleton.mp hperm
        have hsame : ConsumingFacts (goOn { s with controls := [] } pc) := by
          rwa [goOn, ← hcontrols]
        exact hsame.control rfl hcall hmove hstatus'

/-! ### The calls about channels -/

theorem onChannel_of_session {call : AmqpCall} (hcall : call.session = none) :
    call.onChannel = none := by
  cases call <;> first | rfl | cases hcall

theorem onChannel_closeConnection (base : ConnectionBase) (reply : AmqpRpcReply) :
    ∀ call ∈ (base.closeConnection reply).calls, call.onChannel = none := by
  unfold closeConnection
  split <;> simp [AmqpCall.onChannel]

theorem onChannel_releaseCalls (connection : Option ConnectionBase) (reply : AmqpRpcReply) :
    ∀ call ∈ releaseCalls connection reply, call.onChannel = none := by
  unfold releaseCalls
  split
  · simp
  · next old => exact onChannel_closeConnection old reply

/-- A control call makes no calls about channels. -/
theorem ControlMove.calls_elsewhere {reply : AmqpRpcReply} {pc : ControlPc}
    (hmove : ControlMove s reply pc s') :
    ∃ new, s'.calls = new ++ s.calls ∧ ∀ call ∈ new, call.onChannel = none := by
  cases hmove with
  | stopRefused => exact ⟨[], stopReturns_calls _ _ _, by simp⟩
  | stopped => exact ⟨_, stopReturns_calls _ _ _, onChannel_closeConnection _ _⟩
  | initConnection | destroyed => exact ⟨_, rfl, onChannel_releaseCalls _ _⟩
  | destroyClosed => exact ⟨_, rfl, onChannel_closeConnection _ _⟩
  | _ => exact ⟨[], rfl, by simp⟩

/-- While the connection is up, the consumer runs, no `Stop` is in progress and the
list of the connection has been taken, every channel of the table consumes on the
connection, is pending or in the worker's hands, or belongs to a `Subscribe` that
is about to push it. -/
theorem consumesOrWaits_reachable (hs : system.ReachableUnder ConsumingRun s)
    (hstatus : s.status = .running) (hbusy : ¬Exempt s) :
    ∀ channel ∈ s.channelHandler.getChannelList,
      ConsumesOrWaits s channel ∨ channel ∈ inFlight s := by
  intro channel hchannel
  have hall := (allTracked_reachable (ConsumingRun.oneControl hs) hstatus).resolve_left hbusy
  have htracked := hall channel hchannel
  have hkept := (consumingFacts_reachable hs hstatus).kept.resolve_left hbusy
  rcases htracked with hset | hpending | hflight | hhand
  · exact .inl (hkept channel hset)
  · exact .inl (.inr (.inl hpending))
  · exact .inr hflight
  · exact .inl (.inr (.inr hhand))

end Consumer
end HareCpp
