import HareCpp.ChannelNumbers
import HareCpp.Producer.Channels
import HareCpp.Producer.TableHistory

/-!
# The producer numbers its exchanges

The system is run with a record of the `Send` and `DeclareExchange` calls as
registrations of their exchange: the channels in the table before the call, and
whether the caller makes an error of the channel that `addExchange` returns.

`numbered_reachable`: in every run the exchanges are numbered from 1 in the order of
their registration, no call is refused, and `OpenChannel` is called for these
channels only.
-/

namespace HareCpp
namespace Producer

open Library ConnectionBase

/-- The code `Send` makes of the channel `addExchange` returned. -/
def sendCode (channel : Int) : HareError := if channel < 0 then .invalidParameters else .allGood

/-- A call that registers the exchange, and the code it makes of the channel. -/
def registration (s : ProducerState) (exchange : Bytes) (code : HareError) :
    Registration Bytes where
  key := exchange
  known := (s.exchangeList.lookup exchange).isSome
  taken := s.exchangeList.map (·.2.channel)
  accepted := noError code

/-- The registration that a step makes. -/
def registered (s : ProducerState) : Action → List (Registration Bytes)
  | .declareExchange exchange type =>
      [registration s exchange (declareCode (addExchangeTyped s exchange type).2)]
  | .send call => [registration s call.exchange (sendCode (addExchange s call.exchange).2)]
  | _ => []

/-- The exchange is in the table on the channel. -/
def Owns (s : ProducerState) (exchange : Bytes) (channel : Int) : Prop :=
  ∃ entry ∈ s.exchangeList, entry.1 = exchange ∧ entry.2.channel = channel

/-! ### What is opened is in the table -/

/-- A pass of `connectChannels` opens channels of the table. -/
theorem TableFacts.opened_loop {s : ProducerState} (hfacts : TableFacts s) (base : ConnectionBase)
    (replies : Bytes → ChannelReplies) {order : ExchangeList}
    (horder : order.Perm s.exchangeList) {channel : Int}
    (hopened : Opened (connectLoop base replies order true).2 channel) :
    ∃ entry ∈ s.exchangeList, entry.2.channel = channel := by
  obtain ⟨conn, reply, hmem⟩ := hopened
  cases hup : base.isConnected with
  | false =>
      rw [(connectLoop_uses base replies order true).2 hup] at hmem
      cases hmem
  | true =>
      have hopens := (connectLoop_opens hup replies (hfacts.fresh horder)).1
      obtain ⟨-, entry, hentry, hchannel, -⟩ := hopens conn channel reply hmem
      exact ⟨entry, horder.mem_iff.mp hentry, hchannel.symm⟩

/-- A step of the worker opens channels of the table. -/
theorem WorkerMove.opened_known {s s' : ProducerState} {input : WorkerInput} (hfacts : TableFacts s)
    (hmove : WorkerMove s input s') {channel : Int} (hopened : Opened s'.calls channel) :
    Opened s.calls channel ∨ ∃ entry ∈ s.exchangeList, entry.2.channel = channel := by
  -- the calls of `connectChannels` come before the earlier ones
  have hloop : ∀ base order, order.Perm s.exchangeList →
      Opened ((connectLoop base input.channels order true).2 ++ s.calls) channel →
      Opened s.calls channel ∨ ∃ entry ∈ s.exchangeList, entry.2.channel = channel := by
    intro base order horder hcalls
    obtain ⟨conn, reply, hmem⟩ := hcalls
    rcases List.mem_append.mp hmem with hnew | hold
    · exact .inr (hfacts.opened_loop base input.channels horder ⟨conn, reply, hnew⟩)
    · exact .inl ⟨conn, reply, hold⟩
  cases hmove with
  | openFailed base hpc horder => exact hloop base input.order horder hopened
  | opened base allGood hpc horder => exact hloop base input.order horder hopened
  | connected | connectFailed => exact .inl (opened_of_append (not_open_connect _ _ _) hopened)
  | closed => exact .inl (opened_of_append (not_open_closeConnection _ _) hopened)
  | published base object =>
      refine .inl (opened_of_append ?_ hopened)
      intro conn channel reply hmem
      rcases publishMessage_cases base object (s.objects object) input.now
        input.publishStatus with ⟨-, heq⟩ | ⟨-, heq⟩ <;> simp [heq] at hmem
  | _ => exact .inl hopened

/-- A step of a control call opens no channel. -/
theorem ControlMove.opened_before {s s' : ProducerState} {input : ControlInput} {pc : ControlPc}
    (hmove : ControlMove s input pc s') {channel : Int} (hopened : Opened s'.calls channel) :
    Opened s.calls channel := by
  cases hmove with
  | closed => exact opened_of_append (not_open_closeConnection _ _) hopened
  | initConnection => exact opened_of_append (not_open_releaseCalls _ _) hopened
  | destroyed => exact opened_of_append (not_open_releaseCalls _ _) hopened
  | destroyChannels => exact opened_of_append (not_open_closeChannels _ _) hopened
  | _ => exact hopened

/-- In every run the channels that were opened are those of exchanges in the table. -/
theorem opened_reachable {allowed : ProducerState → Action → Prop} {s : ProducerState}
    (hs : system.ReachableUnder allowed s) {channel : Int} (hopened : Opened s.calls channel) :
    ∃ exchange, Owns s exchange channel := by
  have hall : ∀ channel, Opened s.calls channel →
      ∃ entry ∈ s.exchangeList, entry.2.channel = channel := by
    refine hs.induction (fun s => ∀ channel, Opened s.calls channel →
      ∃ entry ∈ s.exchangeList, entry.2.channel = channel) ?_ ?_
    · intro channel hopened
      obtain ⟨conn, reply, hmem⟩ := hopened
      cases hmem
    · intro s action s' hreach _ hknown hstep channel hopened
      have hfacts := tableFacts_reachable hreach
      have hextends := extends_of_reachable hreach (.step .init trivial hstep)
      have hkept : (∃ entry ∈ s.exchangeList, entry.2.channel = channel) →
          ∃ entry ∈ s'.exchangeList, entry.2.channel = channel := by
        intro hentry
        obtain ⟨entry, hentry, hchannel⟩ := hentry
        obtain ⟨entry', hentry', -, hsame, -⟩ := hextends entry hentry
        exact ⟨entry', hentry', hsame.trans hchannel⟩
      apply hkept
      obtain ⟨-, hmove⟩ := move_of_step hstep
      cases hmove with
      | worker input _ hmove =>
          rcases hmove.opened_known hfacts hopened with hold | hentry
          · exact hknown channel hold
          · exact hentry
      | user _ _ hmove =>
          obtain ⟨-, -, -, -, -, -, hcalls⟩ := hmove.frame
          rw [hcalls] at hopened
          exact hknown channel hopened
      | begin call => exact hknown channel hopened
      | control k input pc rest _ hpick hmove => exact hknown channel (hmove.opened_before hopened)
  obtain ⟨entry, hentry, hchannel⟩ := hall channel hopened
  exact ⟨entry.1, entry, hentry, rfl, hchannel⟩

/-! ### The registrations of a run -/

/-- The count of the exchanges is the same in either record. -/
theorem registeredKeys_eq {record : List (Registration Bytes)} {history : List TableUse}
    (hsame : record.map (·.key) = history.map (·.exchange)) :
    registeredKeys record = usedNames history := by
  rw [registeredKeys, usedNames, hsame]

/-- A step records a key exactly when it goes through `addExchange`. -/
theorem registered_keys (s : ProducerState) (action : Action) :
    (registered s action).map (·.key) = (tableUse s action).map (·.exchange) := by
  cases action <;> exact rfl

/-- The table of a run is numbered in the order of the registrations. -/
theorem simulated {allowed : ProducerState → Action → Prop}
    {s : ProducerState × List (Registration Bytes)}
    (hs : (system.recording registered).ReachableUnder (fun s => allowed s.1) s) :
    s.1.exchangeList.map Prod.fst = registeredKeys s.2 ∧
      ∀ channel, (∃ entry ∈ s.1.exchangeList, entry.2.channel = channel) ↔
        1 ≤ channel ∧ channel ≤ ((registeredKeys s.2).length : Int) := by
  obtain ⟨history, hhistory, hkeys⟩ := hs.rerecord (·.key) (fun use : TableUse => use.exchange)
    registered_keys
  have hsim := tableSimulates_reachable hhistory
  rw [registeredKeys_eq hkeys]
  constructor
  · rw [hsim.table, keys_tableOf]
  · intro channel
    have hcounter : s.1.curChannelNumber = (usedNames history).length + 1 := hsim.counter
    have hdense := (tableFollows_reachable hhistory).dense channel
    rw [hcounter] at hdense
    rw [hdense]
    constructor
    · intro hrange
      omega
    · intro hrange
      omega

/-- A call is refused neither for a new exchange nor for a known one. -/
theorem TableFacts.accepted {s : ProducerState} (hfacts : TableFacts s) (exchange type : Bytes) :
    declareCode (addExchangeTyped s exchange type).2 = .allGood ∧
      sendCode (addExchange s exchange).2 = .allGood := by
  have hpositive := hfacts.positive
  constructor
  · rw [declareCode, if_pos]
    unfold addExchangeTyped
    split
    · show s.curChannelNumber ≠ -1
      omega
    · next found hfound =>
        have hchannel : 1 ≤ found.channel := (hfacts.numbered _ (mem_of_lookup hfound)).1
        show found.channel ≠ -1
        omega
  · rw [sendCode, if_neg (hfacts.addExchange_nonneg exchange)]

/-- The registration of a step continues the record. -/
theorem inOrder_registration {s : ProducerState} {record : List (Registration Bytes)}
    (hkeys : s.exchangeList.map Prod.fst = registeredKeys record)
    (hchannels : ∀ channel, (∃ entry ∈ s.exchangeList, entry.2.channel = channel) ↔
      1 ≤ channel ∧ channel ≤ ((registeredKeys record).length : Int))
    (exchange : Bytes) {code : HareError} (hcode : code = .allGood) :
    InOrder record (registration s exchange code) := by
  refine ⟨?_, ?_, ?_⟩
  · rw [← hkeys]
    show (s.exchangeList.lookup exchange).isSome = true ↔ _
    constructor
    · intro hsome
      obtain ⟨found, hfound⟩ := Option.isSome_iff_exists.mp hsome
      exact List.mem_map_of_mem (mem_of_lookup hfound)
    · intro hmem
      exact Option.isSome_iff_ne_none.mpr (lookup_ne_none hmem)
  · intro _
    rw [hcode]
    exact rfl
  · intro channel
    rw [← hchannels channel]
    exact List.mem_map

/-- In every run the producer numbers the exchanges it is called with. -/
theorem numbered_reachable {allowed : ProducerState → Action → Prop}
    {s : ProducerState × List (Registration Bytes)}
    (hs : (system.recording registered).ReachableUnder (fun s => allowed s.1) s) :
    Numbered (Owns s.1) (Opened s.1.calls) s.2 := by
  have hreach : system.ReachableUnder allowed s.1 := hs.forget
  have hfacts := tableFacts_reachable hreach
  constructor
  · intro channel hopened
    exact opened_reachable hreach hopened
  · intro exchange exchange' channel howns howns'
    obtain ⟨entry, hentry, rfl, hchannel⟩ := howns
    obtain ⟨entry', hentry', rfl, hchannel'⟩ := howns'
    -- no channel occurs twice in the table
    have hsame := List.inj_on_of_nodup_map hfacts.distinct hentry hentry'
      (hchannel.trans hchannel'.symm)
    rw [hsame]
  · intro exchange channel howns
    obtain ⟨entry, hentry, -, hchannel⟩ := howns
    exact ((simulated hs).2 channel).mp ⟨entry, hentry, hchannel⟩
  · refine hs.induction (fun s : ProducerState × List (Registration Bytes) =>
      Guarded InOrder s.2) (guarded_nil _) ?_
    intro s action s' hbefore _ hordered hstep
    obtain ⟨-, hrecord⟩ := TransitionSystem.recording_step hstep
    obtain ⟨hkeys, hchannels⟩ := simulated hbefore
    have hbeforeReach : system.ReachableUnder allowed s.1 := hbefore.forget
    have hbeforeFacts := tableFacts_reachable hbeforeReach
    rw [hrecord]
    cases action with
    | declareExchange exchange type =>
        exact ⟨inOrder_registration hkeys hchannels exchange
          (hbeforeFacts.accepted exchange type).1, hordered⟩
    | send call =>
        exact ⟨inOrder_registration hkeys hchannels call.exchange
          (hbeforeFacts.accepted call.exchange []).2, hordered⟩
    | _ => exact hordered

/-! ### A run that runs out of numbers -/

/-- The `i`-th of many names of three printable bytes. -/
def exchangeName (i : Nat) : Bytes :=
  [UInt8.ofNat (33 + i / 4096), UInt8.ofNat (33 + i / 64 % 64), UInt8.ofNat (33 + i % 64)]

theorem exchangeName_inj {i j : Nat} (hi : i < 65536) (hj : j < 65536)
    (h : exchangeName i = exchangeName j) : i = j := by
  obtain ⟨h1, hrest⟩ := List.cons.inj h
  obtain ⟨h2, hrest⟩ := List.cons.inj hrest
  obtain ⟨h3, -⟩ := List.cons.inj hrest
  have h1 := congrArg UInt8.toNat h1
  have h2 := congrArg UInt8.toNat h2
  have h3 := congrArg UInt8.toNat h3
  rw [UInt8.toNat_ofNat', UInt8.toNat_ofNat'] at h1 h2 h3
  omega

/-- One `DeclareExchange` after the other, while the worker waits. -/
theorem exists_declares {s : ProducerState × List (Registration Bytes)}
    (hs : (system.recording registered).ReachableUnder (fun s => OneControl s.1) s)
    (hrunning : s.1.status = .running) (names : List Bytes) :
    ∃ t : ProducerState × List (Registration Bytes),
      (system.recording registered).ReachableUnder (fun s => OneControl s.1) t ∧
        t.1.status = .running ∧ t.1.worker = s.1.worker ∧ t.1.connection = s.1.connection ∧
        t.2.map (·.key) = names ++ s.2.map (·.key) := by
  induction names with
  | nil => exact ⟨s, hs, hrunning, rfl, rfl, rfl⟩
  | cons name rest ih =>
      obtain ⟨t, ht, hstatus, hworker, hconnection, hkeys⟩ := ih
      have hallowed : OneControl t.1 (.declareExchange name []) := trivial
      have hstep : step t.1 (.declareExchange name []) =
          some (returnTo (addExchangeTyped t.1 name []).1 .declareExchange
            (declareCode (addExchangeTyped t.1 name []).2)) := by
        rw [step, if_pos hstatus]
      have hstatus' : (addExchangeTyped t.1 name []).1.status = t.1.status := by
        unfold addExchangeTyped
        split <;> exact rfl
      have hframe := (UserMove.declareExchange (s := t.1) name []).frame
      obtain ⟨hconnection', -, -, hworker', -⟩ := hframe
      refine ⟨_, .step ht hallowed (TransitionSystem.step_recording (M := system) hstep),
        ?_, ?_, ?_, ?_⟩
      · exact hstatus'.trans hstatus
      · exact hworker'.trans hworker
      · exact hconnection'.trans hconnection
      · rw [List.map_append, hkeys]
        rfl

/-- A pass of `connectChannels` to which the broker answers as it should. -/
theorem connectLoop_normal {base : ConnectionBase} (hup : base.isConnected = true)
    (entries : ExchangeList) :
    (connectLoop base (fun _ => {}) entries true).1 = .finished true := by
  induction entries with
  | nil => rfl
  | cons entry rest ih =>
      obtain ⟨name, it⟩ := entry
      have hopen : (base.openChannel it.channel .normal 0).code = .allGood := by
        simp [openChannel, hup, decodeRpcReply, AmqpRpcReply.normal]
      have hdeclare : (base.declareExchange it.channel name it.type .normal).code = .allGood := by
        simp [declareExchange, hup, decodeRpcReply, AmqpRpcReply.normal]
      rw [connectLoop]
      cases it.connected <;> cases it.isDeclare <;> simp [hopen, hdeclare, serverFailure, ih]

/-- A pass that comes to its end opens every channel of the table. -/
theorem exists_pass {s : ProducerState × List (Registration Bytes)}
    (hs : (system.recording registered).ReachableUnder (fun s => OneControl s.1) s)
    (hrunning : s.1.status = .running) (hpc : s.1.worker = .openChannels)
    (hup : isConnected s.1 = true) :
    ∃ t : ProducerState × List (Registration Bytes),
      (system.recording registered).ReachableUnder (fun s => OneControl s.1) t ∧
        t.2 = s.2 ∧ ∀ entry ∈ s.1.exchangeList, Opened t.1.calls entry.2.channel := by
  have hreach : system.ReachableUnder OneControl s.1 := hs.forget
  have hfresh := (tableFacts_reachable hreach).fresh (List.Perm.refl s.1.exchangeList)
  cases hbase : s.1.connection with
  | none =>
      rw [isConnected, hbase] at hup
      cases hup
  | some base =>
      rw [isConnected, hbase] at hup
      have hfinished := connectLoop_normal hup s.1.exchangeList
      have hopens := (connectLoop_opens hup (fun _ => {}) hfresh).2 true hfinished
      have hallowed : OneControl s.1 (.worker { order := s.1.exchangeList }) := trivial
      have hstep : ∃ t, step s.1 (.worker { order := s.1.exchangeList }) = some t ∧
          t.calls = (connectLoop base (fun _ => {}) s.1.exchangeList true).2 ++ s.1.calls := by
        rw [step, if_pos hrunning]
        simp only [workerStep, hpc, hbase, hfinished]
        rw [if_pos (List.isPerm_iff.mpr (List.Perm.refl _))]
        exact ⟨_, rfl, rfl⟩
      obtain ⟨t, hstep, hcalls⟩ := hstep
      refine ⟨(t, s.2), .step hs hallowed (TransitionSystem.step_recording (M := system) hstep),
        rfl, ?_⟩
      intro entry hentry
      rw [hcalls]
      exact ⟨_, _, List.mem_append_left _ (hopens.1 entry hentry)⟩

/-- A run that declares 65536 exchanges and opens the channels of all of them. -/
theorem exists_opened_65536 : ∃ s : ProducerState × List (Registration Bytes),
    (system.recording registered).ReachableUnder (fun s => OneControl s.1) s ∧
      Opened s.1.calls 65536 := by
  -- the worker stands before the loop of `connectChannels` while the user declares
  obtain ⟨s, hs, htest⟩ := TransitionSystem.exists_reachableUnder_of_run
    (M := system.recording registered) (fun s => OneControl s.1) (startUp ++ workerSteps 6)
    (fun s : ProducerState × List (Registration Bytes) => decide (s.1.status = .running ∧
      s.1.worker = .openChannels ∧ isConnected s.1 = true ∧ s.2 = []))
    (by decide +kernel)
  obtain ⟨hrunning, hpc, hup, hnone⟩ := of_decide_eq_true htest
  obtain ⟨t, ht, hrunning', hpc', hconnection, hkeys⟩ :=
    exists_declares hs hrunning ((List.range 65536).map exchangeName)
  have hup' : isConnected t.1 = true := by
    rw [isConnected, hconnection]
    exact hup
  obtain ⟨u, hu, -, hopened⟩ := exists_pass ht hrunning' (hpc'.trans hpc) hup'
  have hdistinct : ((List.range 65536).map exchangeName).Nodup := by
    apply List.Nodup.map_on _ List.nodup_range
    intro i hi j hj hsame
    exact exchangeName_inj (List.mem_range.mp hi) (List.mem_range.mp hj) hsame
  have hcount : (registeredKeys t.2).length = 65536 := by
    rw [registeredKeys, hkeys, hnone, List.map_nil, List.append_nil, firstUses,
      hdistinct.dedup, List.length_reverse, List.length_map, List.length_range]
  obtain ⟨entry, hentry, hchannel⟩ := ((simulated ht).2 65536).mpr ⟨by decide, by omega⟩
  have hlast := hopened entry hentry
  rw [hchannel] at hlast
  exact ⟨u, hu, hlast⟩

end Producer
end HareCpp
