import HareCpp.Producer.ExchangeTable

/-!
# Handles are numbered

Every `Connect` takes a new handle, and calls and notes mention handles that
were taken before (`HandleFacts`).  `Connect` is called on a closed connection
only, and a connection that is up was set up by a `Connect` that is in the notes
(`ConnectedFacts`).  Both hold in every run, also in those that break the rules
of the control thread.
-/

namespace HareCpp
namespace Producer

open Library ConnectionBase

/-- Handles seen so far are numbered below `handles`. -/
structure HandleFacts (s : ProducerState) : Prop where
  calls : ∀ call ∈ s.calls, ∀ h, call.handle = some h → h < s.handles
  plain : ∀ base, s.connection = some base → base.isSSL = false
  base : ∀ base h, s.connection = some base → base.conn = some h → h < s.handles
  connects : ∀ h table, .connected (some h) table ∈ s.notes → h < s.handles
  looks : ∀ h refused, .looked (some h) refused ∈ s.notes → h < s.handles

/-- Calls made on a connection bear its handle. -/
theorem HandleFacts.append {s : ProducerState} (hfacts : HandleFacts s) {base : ConnectionBase}
    (hbase : s.connection = some base) {new : List AmqpCall}
    (hnew : ∀ call ∈ new, call.handle = base.conn) :
    ∀ call ∈ new ++ s.calls, ∀ h, call.handle = some h → h < s.handles := by
  intro call hcall h hh
  rcases List.mem_append.mp hcall with hmem | hmem
  · rw [hnew call hmem] at hh
    exact hfacts.base base h hbase hh
  · exact hfacts.calls call hmem h hh

/-- A step that takes no handle, makes calls on the current one only and leaves
the notes about connections alone. -/
theorem HandleFacts.of_frame {s s' : ProducerState} (hfacts : HandleFacts s)
    (hhandles : s'.handles = s.handles)
    (hcalls : ∀ call ∈ s'.calls, ∀ h, call.handle = some h → h < s.handles)
    (hbase : ∀ base, s'.connection = some base → base.isSSL = false ∧
      ∀ h, base.conn = some h → h < s.handles)
    (hnotes : ∀ note ∈ s'.notes, note ∈ s.notes ∨ (∀ h table, note ≠ .connected (some h) table) ∧
      ∀ h refused, note = .looked (some h) refused → h < s.handles) : HandleFacts s' := by
  refine ⟨?_, fun base hb => (hbase base hb).1, fun base h hb => ?_, ?_, ?_⟩
  · rw [hhandles]
    exact hcalls
  · rw [hhandles]
    exact (hbase base hb).2 h
  · intro h table hnote
    rw [hhandles]
    rcases hnotes _ hnote with hold | ⟨hnew, -⟩
    · exact hfacts.connects h table hold
    · exact absurd rfl (hnew h table)
  · intro h refused hnote
    rw [hhandles]
    rcases hnotes _ hnote with hold | ⟨-, hnew⟩
    · exact hfacts.looks h refused hold
    · exact hnew h refused rfl

/-- A new note that says nothing about connections. -/
theorem HandleFacts.notes_cons {s : ProducerState} {note : Note}
    (hplain : ∀ h table, note ≠ .connected (some h) table)
    (hlook : ∀ h refused, note = .looked (some h) refused → h < s.handles) :
    ∀ other ∈ note :: s.notes, other ∈ s.notes ∨
      (∀ h table, other ≠ .connected (some h) table) ∧
        ∀ h refused, other = .looked (some h) refused → h < s.handles := by
  intro other hother
  rcases List.mem_cons.mp hother with rfl | hold
  · exact .inr ⟨hplain, hlook⟩
  · exact .inl hold

/-- A step of the worker keeps the numbering. -/
theorem HandleFacts.worker {s s' : ProducerState} {input : WorkerInput} (hfacts : HandleFacts s)
    (hmove : WorkerMove s input s') : HandleFacts s' := by
  have hbase : ∀ base, s.connection = some base → base.isSSL = false ∧
      ∀ h, base.conn = some h → h < s.handles :=
    fun base hb => ⟨hfacts.plain base hb, fun h => hfacts.base base h hb⟩
  have hold : ∀ note ∈ s.notes, note ∈ s.notes ∨ (∀ h table, note ≠ .connected (some h) table) ∧
      ∀ h refused, note = .looked (some h) refused → h < s.handles := fun _ h => .inl h
  have hconnect : ∀ base, s.connection = some base →
      ∀ call ∈ (base.connect s.handles input.connect).calls ++ s.calls,
        ∀ h, call.handle = some h → h < s.handles + 1 := by
    intro base hb call hcall h hh
    rcases List.mem_append.mp hcall with hmem | hmem
    · have := (connect_handle (hfacts.plain base hb) s.handles input.connect).1 call hmem h hh
      omega
    · have := hfacts.calls call hmem h hh
      omega
  cases hmove with
  | goto | crash | popped => exact hfacts.of_frame rfl hfacts.calls hbase hold
  | connected base hpc hb hcode =>
      obtain ⟨-, hconn, hssl, -⟩ :=
        connect_handle (hfacts.plain base hb) s.handles input.connect
      refine ⟨hconnect base hb, by rintro _ ⟨⟩; exact hssl, ?_, ?_, ?_⟩
      · rintro _ h ⟨⟩ hh
        have heq : s.handles = h := Option.some.inj (hconn.symm.trans hh)
        show h < s.handles + 1
        omega
      · intro h table hnote
        show h < s.handles + 1
        rcases List.mem_cons.mp hnote with hnew | hmem
        · simp only [Note.connected.injEq, hconn] at hnew
          have heq := Option.some.inj hnew.1
          omega
        · have := hfacts.connects h table hmem
          omega
      · intro h refused hnote
        show h < s.handles + 1
        rcases List.mem_cons.mp hnote with hnew | hmem
        · cases hnew
        · have := hfacts.looks h refused hmem
          omega
  | connectFailed base hpc hb hcode =>
      obtain ⟨-, hconn, hssl, -⟩ :=
        connect_handle (hfacts.plain base hb) s.handles input.connect
      refine ⟨hconnect base hb, by rintro _ ⟨⟩; exact hssl, ?_, ?_, ?_⟩
      · rintro _ h ⟨⟩ hh
        have heq : s.handles = h := Option.some.inj (hconn.symm.trans hh)
        show h < s.handles + 1
        omega
      · intro h table hnote
        have := hfacts.connects h table hnote
        show h < s.handles + 1
        omega
      · intro h refused hnote
        have := hfacts.looks h refused hnote
        show h < s.handles + 1
        omega
  | looked hpc hflag =>
      refine hfacts.of_frame rfl hfacts.calls hbase (HandleFacts.notes_cons (by simp) ?_)
      rintro h refused hnote
      simp only [Note.looked.injEq, currentConn, Option.bind_eq_some_iff] at hnote
      obtain ⟨⟨base, hb, hconn⟩, -⟩ := hnote
      exact hfacts.base base h hb hconn
  | openFailed base hpc horder hb hloop =>
      exact hfacts.of_frame rfl
        (hfacts.append hb (handle_of_uses (connectLoop_uses _ _ _ _).1)) hbase hold
  | opened base allGood hpc horder hb hloop =>
      refine hfacts.of_frame rfl
        (hfacts.append hb (handle_of_uses (connectLoop_uses _ _ _ _).1)) hbase
        (HandleFacts.notes_cons (by simp) ?_)
      rintro h refused hnote
      simp only [Note.looked.injEq] at hnote
      exact hfacts.base base h hb hnote.1
  | closed caller base hpc hb =>
      obtain ⟨hcalls, hconn, hssl⟩ := closeConnection_handle base input.closeReply
      refine hfacts.of_frame rfl (hfacts.append hb hcalls) ?_ hold
      rintro _ ⟨⟩
      rw [hconn, hssl]
      exact hbase base hb
  | dropped =>
      exact hfacts.of_frame rfl hfacts.calls hbase (HandleFacts.notes_cons (by simp) (by simp))
  | published base object next hpc hb hnext =>
      exact hfacts.of_frame rfl
        (hfacts.append hb (handle_of_uses (keepsSession_publishMessage _ _ _ _ _).uses))
        hbase hold

/-- A step of a control call keeps the numbering. -/
theorem HandleFacts.control {s s' : ProducerState} {input : ControlInput} {pc : ControlPc}
    (hfacts : HandleFacts s) (hmove : ControlMove s input pc s') : HandleFacts s' := by
  have hbase : ∀ base, s.connection = some base → base.isSSL = false ∧
      ∀ h, base.conn = some h → h < s.handles :=
    fun base hb => ⟨hfacts.plain base hb, fun h => hfacts.base base h hb⟩
  have hold : ∀ note ∈ s.notes, note ∈ s.notes ∨ (∀ h table, note ≠ .connected (some h) table) ∧
      ∀ h refused, note = .looked (some h) refused → h < s.handles := fun _ h => .inl h
  have hrelease : ∀ call ∈ releaseCalls s.connection input.closeReply ++ s.calls,
      ∀ h, call.handle = some h → h < s.handles := by
    unfold releaseCalls
    split
    · exact hfacts.calls
    · next old hb => exact hfacts.append hb (closeConnection_handle old input.closeReply).1
  cases hmove with
  | returned | spawn | dropped | initRunning =>
      exact hfacts.of_frame rfl hfacts.calls hbase (HandleFacts.notes_cons (by simp) (by simp))
  | closed _ next base hb hplace =>
      obtain ⟨hcalls, hconn, hssl⟩ := closeConnection_handle base input.closeReply
      refine hfacts.of_frame rfl (hfacts.append hb hcalls) ?_ hold
      rintro _ ⟨⟩
      rw [hconn, hssl]
      exact hbase base hb
  | initConnection credentials =>
      exact hfacts.of_frame rfl hrelease (by rintro _ ⟨⟩; exact ⟨rfl, by rintro _ ⟨⟩⟩) hold
  | destroyChannels base hb =>
      exact hfacts.of_frame rfl
        (hfacts.append hb (handle_of_uses (closeChannels_uses _ _).1)) hbase hold
  | destroyed => exact hfacts.of_frame rfl hrelease (by rintro _ ⟨⟩) hold
  | _ => exact hfacts.of_frame rfl hfacts.calls hbase hold

/-- Handles are numbered in every state of every run. -/
theorem handleFacts_reachable {allowed : ProducerState → Action → Prop} {s : ProducerState}
    (hs : system.ReachableUnder allowed s) : HandleFacts s := by
  refine hs.induction HandleFacts ?_ ?_
  · exact ⟨by simp [system, initial], by simp [system, initial], by simp [system, initial],
      by simp [system, initial], by simp [system, initial]⟩
  · intro s action s' hreach _ hfacts hstep
    obtain ⟨-, hmove⟩ := move_of_step hstep
    obtain ⟨hcalls, hplain, hbase, hconnects, hlooks⟩ := hfacts
    cases hmove with
    | worker input _ hmove =>
        exact HandleFacts.worker ⟨hcalls, hplain, hbase, hconnects, hlooks⟩ hmove
    | user _ _ hmove =>
        obtain ⟨hconn, -, -, -, -, hhandles, hsame⟩ := hmove.frame
        have hnotes : ∀ note ∈ s'.notes, note.aboutTable = false ∨ note ∈ s.notes ∨
            ∃ channel, note = .added channel := by
          intro note hnote
          cases hmove.tableEffect (tableFacts_reachable hreach) with
          | same new _ _ _ heq hnew | redeclared new _ _ _ _ _ heq hnew =>
              rw [heq] at hnote
              exact (List.mem_append.mp hnote).elim (fun h => .inl (hnew note h)) (.inr ∘ .inl)
          | added new _ _ _ _ _ _ _ _ heq hnew =>
              rw [heq] at hnote
              rcases List.mem_append.mp hnote with h | h
              · exact .inl (hnew note h)
              · rcases List.mem_cons.mp h with rfl | h
                · exact .inr (.inr ⟨_, rfl⟩)
                · exact .inr (.inl h)
        refine ⟨?_, ?_, ?_, ?_, ?_⟩
        · rwa [hhandles, hsame]
        · rwa [hconn]
        · rwa [hconn, hhandles]
        · intro h table hnote
          rw [hhandles]
          rcases hnotes _ hnote with hp | hmem | ⟨_, hp⟩
          · cases hp
          · exact hconnects h table hmem
          · cases hp
        · intro h refused hnote
          rw [hhandles]
          rcases hnotes _ hnote with hp | hmem | ⟨_, hp⟩
          · cases hp
          · exact hlooks h refused hmem
          · cases hp
    | begin call => exact ⟨hcalls, hplain, hbase, hconnects, hlooks⟩
    | control k input pc rest _ hpick hmove =>
        exact HandleFacts.control (s := { s with controls := rest })
          ⟨hcalls, hplain, hbase, hconnects, hlooks⟩ hmove

/-- Only `Connect` adds a note of a connection, and for the next handle. -/
theorem Move.connected_note {s s' : ProducerState} {action : Action} (hmove : Move s action s')
    (htable : TableFacts s) (hfacts : HandleFacts s) {h : Nat} {table : ExchangeList}
    (hnote : .connected (some h) table ∈ s'.notes) :
    .connected (some h) table ∈ s.notes ∨ (h = s.handles ∧ s'.notes =
      .connected (some s.handles) s.exchangeList :: s.notes) := by
  cases hmove with
  | worker input _ hmove =>
      cases hmove with
      | connected base hpc hbase hcode =>
          obtain ⟨-, hconn, -⟩ := connect_handle (hfacts.plain base hbase) s.handles input.connect
          simp only [hconn] at hnote ⊢
          rcases List.mem_cons.mp hnote with hnew | hold
          · simp only [Note.connected.injEq, Option.some.injEq] at hnew
            exact .inr ⟨hnew.1, trivial⟩
          · exact .inl hold
      | looked | opened | dropped => exact .inl (by simpa using hnote)
      | _ => exact .inl hnote
  | user _ _ hmove =>
      left
      have hplain : ∀ {new : List Note}, (∀ note ∈ new, note.aboutTable = false) →
          Note.connected (some h) table ∉ new := by
        intro new hnew hmem
        cases hnew _ hmem
      cases hmove.tableEffect htable with
      | same new _ _ _ heq hnew | redeclared new _ _ _ _ _ heq hnew =>
          rw [heq] at hnote
          exact (List.mem_append.mp hnote).resolve_left (hplain hnew)
      | added new _ _ _ _ _ _ _ _ heq hnew =>
          rw [heq] at hnote
          simpa using (List.mem_append.mp hnote).resolve_left (hplain hnew)
  | begin call => exact .inl hnote
  | control k input pc rest _ hpick hmove =>
      left
      cases hmove with
      | returned | spawn | dropped | initRunning => simpa [goOn, returnTo] using hnote
      | _ => exact hnote

/-! ### Connections are made by `Connect` -/

/-- `Connect` is called on a closed connection, and a connection that is up has
its note. -/
structure ConnectedFacts (s : ProducerState) : Prop where
  closed : s.worker = .connect → isConnected s = false
  noted : ∀ base, s.connection = some base → base.isConnected = true →
    ∃ h table, base.conn = some h ∧ .connected (some h) table ∈ s.notes

/-- The worker goes to `Connect` only when it found the connection closed. -/
theorem WorkerMove.connecting {s s' : ProducerState} {input : WorkerInput}
    (h : WorkerMove s input s') (hclosed : s.worker = .connect → isConnected s = false)
    (hpc : s'.worker = .connect) : isConnected s' = false := by
  cases h with
  | goto next hnext =>
      cases hnext with
      | notConnected _ hconnected => exact hconnected
      | clearEmpty caller => cases caller <;> cases hpc
      | _ => cases hpc
  | crash => exact hclosed hpc
  | published base object next hpc' hbase hnext =>
      rcases hnext with ⟨-, rfl⟩ | ⟨-, rfl⟩ | ⟨-, -, rfl⟩ <;> cases hpc
  | _ => cases hpc

/-- A step that leaves the connection alone, or closes it. -/
theorem ConnectedFacts.of_frame {s s' : ProducerState} (hfacts : ConnectedFacts s)
    (hclosed : s'.worker = .connect → isConnected s' = false)
    (hconn : s'.connection = s.connection ∨ isConnected s' = false)
    (hnotes : ∀ note ∈ s.notes, note ∈ s'.notes) : ConnectedFacts s' := by
  refine ⟨hclosed, ?_⟩
  intro base hbase hup
  rcases hconn with hsame | hdown
  · rw [hsame] at hbase
    obtain ⟨h, table, hh, hnote⟩ := hfacts.noted base hbase hup
    exact ⟨h, table, hh, hnotes _ hnote⟩
  · rw [isConnected, hbase] at hdown
    cases hdown.symm.trans hup

/-- A step of the worker keeps the connection facts. -/
theorem ConnectedFacts.worker {s s' : ProducerState} {input : WorkerInput}
    (hfacts : ConnectedFacts s) (hhandles : HandleFacts s)
    (hnotes : ∀ note ∈ s.notes, note ∈ s'.notes) (hmove : WorkerMove s input s') :
    ConnectedFacts s' := by
  have hclosed := hmove.connecting hfacts.closed
  cases hmove with
  | connected base hpc hbase hcode =>
      obtain ⟨-, hconn, -⟩ := connect_handle (hhandles.plain base hbase) s.handles input.connect
      refine ⟨hclosed, ?_⟩
      rintro _ ⟨⟩ _
      exact ⟨s.handles, s.exchangeList, hconn, by rw [hconn]; exact List.mem_cons_self⟩
  | connectFailed base hpc hbase hcode =>
      obtain ⟨-, -, -, -, hsame⟩ :=
        connect_handle (hhandles.plain base hbase) s.handles input.connect
      have hdown : base.isConnected = false := by
        have h := hfacts.closed hpc
        rwa [isConnected, hbase] at h
      exact hfacts.of_frame hclosed (.inr ((hsame hcode).trans hdown)) hnotes
  | closed caller base hpc hbase =>
      exact hfacts.of_frame hclosed (.inr (closeConnection_isConnected _ _)) hnotes
  | _ => exact hfacts.of_frame hclosed (.inl rfl) hnotes

/-- A step of a control call keeps the connection facts. -/
theorem ConnectedFacts.control {s s' : ProducerState} {input : ControlInput} {pc : ControlPc}
    (hfacts : ConnectedFacts s) (hnotes : ∀ note ∈ s.notes, note ∈ s'.notes)
    (hmove : ControlMove s input pc s') : ConnectedFacts s' := by
  cases hmove with
  | closed _ next base hbase hpc =>
      exact hfacts.of_frame (fun _ => closeConnection_isConnected _ _)
        (.inr (closeConnection_isConnected _ _)) hnotes
  | initConnection | destroyed => exact hfacts.of_frame (fun _ => rfl) (.inr rfl) hnotes
  | spawn | joined => exact hfacts.of_frame (by rintro ⟨⟩) (.inl rfl) hnotes
  | _ => exact hfacts.of_frame hfacts.closed (.inl rfl) hnotes

/-- The connection facts hold in every state of every run. -/
theorem connectedFacts_reachable {allowed : ProducerState → Action → Prop} {s : ProducerState}
    (hs : system.ReachableUnder allowed s) : ConnectedFacts s := by
  refine hs.induction ConnectedFacts ?_ ?_
  · exact ⟨by rintro ⟨⟩, by rintro _ ⟨⟩⟩
  · intro s action s' hreach _ hfacts hstep
    obtain ⟨-, hmove⟩ := move_of_step hstep
    have hnotes := hmove.notes_mono (tableFacts_reachable hreach)
    cases hmove with
    | worker input _ hmove => exact hfacts.worker (handleFacts_reachable hreach) hnotes hmove
    | user _ _ hmove =>
        have hframe := hmove.frame
        have hsame : isConnected s' = isConnected s := by
          rw [isConnected, isConnected, hframe.connection]
        refine hfacts.of_frame ?_ (.inl hframe.connection) hnotes
        rw [hframe.worker, hsame]
        exact hfacts.closed
    | begin call => exact hfacts.of_frame hfacts.closed (.inl rfl) hnotes
    | control k input pc rest _ hpick hmove =>
        exact ConnectedFacts.control (s := { s with controls := rest })
          (hfacts.of_frame hfacts.closed (.inl rfl) (fun _ h => h)) hnotes hmove

end Producer
end HareCpp
