import HareCpp.Consumer.Threads

/-!
# Popping a pending channel

`thread` tests the size of `m_pendingChannels` and pops in two sections of
`m_pendingChannelMutex`.  Only `Stop` can empty the queue in between; where it
does not, the pop finds a channel.  The number of control threads plays no
role.
-/

namespace HareCpp
namespace Consumer

open Library ConnectionBase

variable {Callback : Type} {s s' : ConsumerState Callback}

/-- The control call is about to run `emptyPendingChannels`. -/
def ControlPc.empties : ControlPc → Bool
  | .stopEmpty _ => true
  | _ => false

/-- `Stop` does not empty the queue between the worker's test of its size and the
pop. -/
def NotEmptiedBeforePop (s : ConsumerState Callback) : Action Callback → Prop
  | .control k _ => ¬(s.worker = .pendingPop ∧ (s.controls[k]?).any ControlPc.empties = true)
  | _ => True

instance (s : ConsumerState Callback) :
    (action : Action Callback) → Decidable (NotEmptiedBeforePop s action)
  | .control _ _ => inferInstanceAs (Decidable (¬_))
  | .worker _ | .subscribe _ | .subscribeStep _ | .begin _ => inferInstanceAs (Decidable True)

/-- A control step leaves the queue alone, unless it is the one that empties it. -/
theorem ControlMove.pending {reply : AmqpRpcReply} {pc : ControlPc}
    (hmove : ControlMove s reply pc s') :
    s'.pendingChannels = s.pendingChannels ∨
      (pc.empties = true ∧ s'.pendingChannels = []) := by
  cases hmove with
  | emptied caller => exact .inr ⟨rfl, rfl⟩
  | stopRefused | stopped => exact .inl (by simp)
  | _ => exact .inl rfl

/-- A step of a `Subscribe` leaves the queue alone or adds its channel. -/
theorem SubscribeMove.pending {pc : SubscribePc Callback} (hmove : SubscribeMove s pc s') :
    s'.pendingChannels = s.pendingChannels ∨
      ∃ channel, pc = .push channel ∧ s'.pendingChannels = s.pendingChannels ++ [channel] := by
  cases hmove with
  | pushed channel => exact .inr ⟨channel, rfl, rfl⟩
  | _ => exact .inl rfl

/-- The worker gets to the pop by finding the queue non-empty. -/
theorem WorkerMove.toPop {input : WorkerInput} (hmove : WorkerMove s input s')
    (hpc : s'.worker = .pendingPop) :
    s'.pendingChannels = s.pendingChannels ∧ (s.worker = .pendingPop ∨ s.pendingChannels ≠ []) := by
  obtain rfl | ⟨next, hnext, hlist, rfl⟩ := hmove.toTested (by rw [hpc]; rfl)
  · exact ⟨rfl, .inl hpc⟩
  · cases hnext with
    | pendingSome _ hpending => exact ⟨rfl, .inr hpending⟩
    | listed hstart => exact absurd hstart hlist
    | _ => cases hpc

/-- One step: what the worker's test of the queue found still holds at the pop. -/
theorem Move.keepsPop {action : Action Callback} (hmove : Move s action s')
    (hallowed : NotEmptiedBeforePop s action)
    (hbefore : s.worker = .pendingPop → s.pendingChannels ≠ []) (hpc : s'.worker = .pendingPop) :
    s'.pendingChannels ≠ [] := by
  cases hmove with
  | worker input _ hmove =>
      obtain ⟨hsame, hfound⟩ := hmove.toPop hpc
      rw [hsame]
      exact hfound.elim hbefore id
  | subscribeRefused => exact hbefore hpc
  | subscribeBegins => exact hbefore hpc
  | subscribe k pc rest _ hpick hmove =>
      have hsome : s.pendingChannels ≠ [] := hbefore (hmove.frame.worker ▸ hpc)
      rcases hmove.pending with hsame | ⟨channel, -, hsame⟩
      · rw [hsame]
        exact hsome
      · simp [hsame]
  | begin call => exact hbefore hpc
  | control k reply pc rest _ hpick _ hmove =>
      have hworker : s.worker = .pendingPop := by
        rcases hmove.worker with hsame | ⟨-, hnew⟩ | ⟨-, hnew⟩
        · exact hsame.symm.trans hpc
        · rw [hnew] at hpc
          cases hpc
        · rw [hnew] at hpc
          cases hpc
      rcases hmove.pending with hsame | ⟨hempties, -⟩
      · rw [hsame]
        exact hbefore hworker
      · refine absurd ⟨hworker, ?_⟩ hallowed
        rw [getElem?_of_pick hpick]
        exact hempties

/-- In every run in which `Stop` does not empty the queue between the test and the
pop, the pop finds a channel. -/
theorem pop_of_nonempty (hs : system.ReachableUnder NotEmptiedBeforePop s)
    (hpc : s.worker = .pendingPop) : s.pendingChannels ≠ [] := by
  revert hpc
  refine hs.induction (fun s => s.worker = .pendingPop → s.pendingChannels ≠ []) ?_ ?_
  · rintro ⟨⟩
  · intro s action s' _ hallowed hinv hstep hpc
    obtain ⟨-, hmove⟩ := move_of_step hstep
    exact hmove.keepsPop hallowed hinv hpc

/-- `Initialize`, `Start` and a `Subscribe`; the worker fails to connect and finds
the channel pending. -/
def subscribeAndTest : List (Action Nat) :=
  [.begin (.initializeWith {}), .control 0 .normal, .control 0 .normal, .control 0 .normal,
    .begin .start, .control 0 .normal, .subscribe ⟨[101], [107], 7, {}⟩, .subscribeStep 0,
    .subscribeStep 0, .subscribeStep 0, .subscribeStep 0, .worker {}, .worker {},
    .worker { connect := { openStatus := 1 } }, .worker {}]

theorem pop_of_nonempty_run :
    ∃ s : ConsumerState Nat, (system.ReachableUnder NotEmptiedBeforePop s ∧
      s.worker = .pendingPop) ∧ s.pendingChannels ≠ [] := by
  obtain ⟨s, hs, htest⟩ := TransitionSystem.exists_reachableUnder_of_run (M := system)
    NotEmptiedBeforePop subscribeAndTest (fun s => decide (s.worker = .pendingPop))
    (by decide +kernel)
  have hpc := of_decide_eq_true htest
  exact ⟨s, ⟨hs, hpc⟩, pop_of_nonempty hs hpc⟩

/-- With a `Stop` in between, even from a single control thread, the worker pops
from an empty queue. -/
theorem pop_of_emptied :
    ∃ s : ConsumerState Nat, system.ReachableUnder OneControl s ∧
      s.worker = .pendingPop ∧ s.pendingChannels = [] := by
  obtain ⟨s, hs, htest⟩ := TransitionSystem.exists_reachableUnder_of_run (M := system)
    OneControl (List.flatten [subscribeAndTest, [.begin .stop, .control 0 .normal]])
    (fun s => decide (s.worker = .pendingPop ∧ s.pendingChannels = [])) (by decide +kernel)
  exact ⟨s, hs, of_decide_eq_true htest⟩

end Consumer
end HareCpp
