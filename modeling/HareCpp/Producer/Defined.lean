import HareCpp.WorkerThread

/-!
# Runs of the producer that stay defined

A run of the model ends in `undefined` where the code would go through a null
`m_connection`, read the front of an empty queue or misuse its thread handle.
Here is, for each thread, what has to hold before a step for the step not to end
so, and for the next step to find the same.

`holdsFront` are the places between a test that the queue is not empty and the
last access that relies on it.
-/

namespace HareCpp
namespace Producer

open Library ConnectionBase

variable {s s' : ProducerState}

/-- The worker relies on the queue not being empty. -/
def WorkerPc.holdsFront : WorkerPc → Bool
  | .clearFront _ | .clearPop _ | .front | .publish _ | .popPublished => true
  | _ => false

/-- `clearActiveSendQueue` in `Stop` relies on the queue not being empty. -/
def ControlPc.holdsFront : ControlPc → Bool
  | .stopClearFront .. | .stopClearPop .. => true
  | _ => false

/-! ### The worker -/

/-- A step of a worker that has a connection, and a queue where it relies on it, is
defined. -/
theorem workerStep_defined {input : WorkerInput} (hconn : s.connection ≠ none)
    (hqueue : s.worker.holdsFront = true → s.sendQueue ≠ [])
    (hstep : workerStep s input = some s') : s'.status = s.status := by
  obtain ⟨base, hbase⟩ := Option.ne_none_iff_exists'.mp hconn
  have hfront : s.worker.holdsFront = true → ∃ object rest, s.sendQueue = object :: rest :=
    fun h => List.exists_cons_of_ne_nil (hqueue h)
  cases hpc : s.worker with
  | none | returned =>
      simp only [workerStep, hpc] at hstep
      cases hstep
  | loopTest | connectedTest | guardConnected | guardRunning | clearTest | publishTest
  | sizeTest =>
      simp only [workerStep, hpc] at hstep
      cases hstep
      rfl
  | connect | channelsTest =>
      simp only [workerStep, hpc, hbase] at hstep
      split at hstep <;> cases hstep <;> rfl
  | openChannels =>
      simp only [workerStep, hpc, hbase] at hstep
      split at hstep
      · split at hstep <;> cases hstep <;> rfl
      · cases hstep
  | close caller =>
      simp only [workerStep, hpc, hbase] at hstep
      cases hstep
      rfl
  | publish object =>
      simp only [workerStep, hpc, hbase] at hstep
      split at hstep
      · cases hstep
        rfl
      · split at hstep <;> cases hstep <;> rfl
  | clearFront | clearPop | front | popPublished =>
      obtain ⟨object, rest, hsome⟩ := hfront (by rw [hpc]; rfl)
      simp only [workerStep, hpc, hsome] at hstep
      cases hstep
      rfl

/-- Only the worker takes messages out: what it relies on still holds after its
step. -/
theorem WorkerMove.holdsFront {input : WorkerInput} (hmove : WorkerMove s input s')
    (hqueue : s.worker.holdsFront = true → s.sendQueue ≠ [])
    (hfront : s'.worker.holdsFront = true) : s'.sendQueue ≠ [] := by
  cases hmove with
  | goto next hnext =>
      cases hnext with
      | clearMore caller hpc hsome | clearFront caller hpc hsome | sizeSome hpc hsome =>
          exact hsome
      | front object rest hpc hsome => simp [hsome]
      | clearEmpty caller => cases caller <;> cases hfront
      | _ => cases hfront
  | crash => exact hqueue hfront
  | published base object next hpc hbase hnext => exact hqueue (by rw [hpc]; rfl)
  | _ => cases hfront

/-! ### User threads -/

/-- `Send` and `DeclareExchange` take nothing out of the queue and are defined. -/
theorem UserMove.defined {action : Action} (hmove : UserMove s action s') :
    s'.status = s.status ∧ (s.sendQueue ≠ [] → s'.sendQueue ≠ []) := by
  have htyped : ∀ exchange type, (addExchangeTyped s exchange type).1.status = s.status ∧
      (addExchangeTyped s exchange type).1.sendQueue = s.sendQueue := by
    intro exchange type
    unfold addExchangeTyped
    split <;> exact ⟨rfl, rfl⟩
  have hplain : ∀ exchange, (addExchange s exchange).1.status = s.status ∧
      (addExchange s exchange).1.sendQueue = s.sendQueue := by
    intro exchange
    unfold addExchange
    split <;> exact ⟨rfl, rfl⟩
  cases hmove with
  | declareExchange exchange type =>
      obtain ⟨hstatus, hsame⟩ := htyped exchange type
      exact ⟨hstatus, fun h => by rwa [← hsame] at h⟩
  | sendRefused call =>
      obtain ⟨hstatus, hsame⟩ := hplain call.exchange
      exact ⟨hstatus, fun h => by rwa [← hsame] at h⟩
  | send call =>
      obtain ⟨hstatus, hsame⟩ := hplain call.exchange
      exact ⟨hstatus, fun h => by rwa [← hsame] at h⟩
  | push | pushFresh => exact ⟨rfl, fun _ => by simp [pushMessage]⟩

/-! ### What the control calls returned -/

/-- The return of a control call. -/
def Note.controlReturn : Note → Option (Api × HareError)
  | .apiReturned .send _ | .apiReturned .declareExchange _ => none
  | .apiReturned api code => some (api, code)
  | _ => none

/-- The control calls that have returned, newest first. -/
def controlReturns (s : ProducerState) : List (Api × HareError) :=
  s.notes.filterMap Note.controlReturn

/-- No control call returns at a step of the worker. -/
theorem WorkerMove.controlReturns {input : WorkerInput} (hmove : WorkerMove s input s') :
    Producer.controlReturns s' = Producer.controlReturns s := by
  cases hmove <;> rfl

/-- No control call returns at a step of a user thread. -/
theorem UserMove.controlReturns {action : Action} (hmove : UserMove s action s') :
    Producer.controlReturns s' = Producer.controlReturns s := by
  have htyped : ∀ exchange type, Producer.controlReturns (addExchangeTyped s exchange type).1 =
      Producer.controlReturns s := by
    intro exchange type
    unfold addExchangeTyped
    split <;> rfl
  have hplain : ∀ exchange,
      Producer.controlReturns (addExchange s exchange).1 = Producer.controlReturns s := by
    intro exchange
    unfold addExchange
    split <;> rfl
  cases hmove with
  | declareExchange exchange type => exact htyped exchange type
  | sendRefused call => exact hplain call.exchange
  | send call => exact hplain call.exchange
  | push | pushFresh => rfl

end Producer
end HareCpp
