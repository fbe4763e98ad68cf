import HareCpp.Producer.Handles

/-!
# The producer calls rabbitmq-c on live connections only

All operations of the worker but `Connect` look at `m_isConnected` themselves,
and `Connect` is called on a closed connection.
-/

namespace HareCpp
namespace Producer

open Library ConnectionBase

/-- A step of the worker keeps the session sound. -/
theorem WorkerMove.sessionSound {s s' : ProducerState} {input : WorkerInput}
    (hmove : WorkerMove s input s') (hsound : SessionSound s.handles s.calls s.connection)
    (hfacts : ConnectedFacts s) : SessionSound s'.handles s'.calls s'.connection := by
  have hconnect : ∀ base, s.worker = .connect → s.connection = some base →
      SessionSound (s.handles + 1) ((base.connect s.handles input.connect).calls ++ s.calls)
        (some (base.connect s.handles input.connect).base) := by
    intro base hpc hbase
    have hdown : isConnected s = false := hfacts.closed hpc
    rw [isConnected, hbase] at hdown
    rw [hbase] at hsound
    exact hsound.connect hdown input.connect
  cases hmove with
  | goto | crash | looked | dropped | popped => exact hsound
  | connected base hpc hbase => exact hconnect base hpc hbase
  | connectFailed base hpc hbase => exact hconnect base hpc hbase
  | openFailed base hpc horder hbase hloop =>
      obtain ⟨huses, hnil⟩ := connectLoop_uses base input.channels input.order true
      show SessionSound s.handles _ s.connection
      rw [hbase] at hsound ⊢
      exact hsound.append huses hnil
  | opened base allGood hpc horder hbase hloop =>
      obtain ⟨huses, hnil⟩ := connectLoop_uses base input.channels input.order true
      show SessionSound s.handles _ s.connection
      rw [hbase] at hsound ⊢
      exact hsound.append huses hnil
  | closed caller base hpc hbase =>
      rw [hbase] at hsound
      exact hsound.close input.closeReply
  | published base object next hpc hbase hnext =>
      have hkeeps := keepsSession_publishMessage base object (s.objects object) input.now
        input.publishStatus
      show SessionSound s.handles _ s.connection
      rw [hbase] at hsound ⊢
      exact hsound.append hkeeps.uses hkeeps.calls_eq_nil

/-- A step of a control call keeps the session sound. -/
theorem ControlMove.sessionSound {s s' : ProducerState} {input : ControlInput} {pc : ControlPc}
    (hmove : ControlMove s input pc s') (hsound : SessionSound s.handles s.calls s.connection) :
    SessionSound s'.handles s'.calls s'.connection := by
  cases hmove with
  | closed _ next base hbase hpc =>
      rw [hbase] at hsound
      exact hsound.close input.closeReply
  | initConnection credentials => exact hsound.release input.closeReply (some credentials)
  | destroyChannels base hbase =>
      obtain ⟨huses, hnil⟩ := closeChannels_uses base input.order
      show SessionSound s.handles _ s.connection
      rw [hbase] at hsound ⊢
      exact hsound.append huses hnil
  | destroyed hworker => exact hsound.release input.closeReply none
  | _ => exact hsound

/-- The session is sound in every state of every run. -/
theorem sessionSound_reachable {allowed : ProducerState → Action → Prop} {s : ProducerState}
    (hs : system.ReachableUnder allowed s) : SessionSound s.handles s.calls s.connection := by
  refine hs.induction (fun s => SessionSound s.handles s.calls s.connection) ?_ ?_
  · exact ⟨callsSound_nil, by rintro _ ⟨⟩⟩
  · intro s action s' hreach _ hsound hstep
    obtain ⟨-, hmove⟩ := move_of_step hstep
    cases hmove with
    | worker input _ hmove => exact hmove.sessionSound hsound (connectedFacts_reachable hreach)
    | user _ _ hmove =>
        obtain ⟨hconn, -, -, -, -, hhandles, hcalls⟩ := hmove.frame
        show SessionSound s'.handles s'.calls s'.connection
        rwa [hconn, hhandles, hcalls]
    | begin call => exact hsound
    | control k input pc rest _ hpick hmove => exact hmove.sessionSound hsound

end Producer
end HareCpp
