import HareCpp.Consumer.ChannelNumbers
import HareCpp.Producer.ChannelNumbers

/-!
# How many exchanges and binding pairs there can be

Neither `addExchange` nor `AddChannelProcessor` looks at how far its counter has come,
though the callers of both have an error for a channel that could not be given out.
The numbers that reach `amqp_channel_open` are valid and distinct, and whoever cannot
have one is told so, exactly as long as the object has been used with at most 65535
exchanges or pairs.
-/

namespace HareCpp

open Library

section Runs

variable {Callback : Type}
  {allowed : ProducerState → Producer.Action → Prop}
  {allowed' : ConsumerState Callback → Consumer.Action Callback → Prop}
  {p : ProducerState × List (Registration Bytes)}
  {c : ConsumerState Callback × List (Registration HashableBindingPair)}

/-- In every run the channel numbers of a producer, and of a consumer, are sound on the
wire exactly as long as no more than 65535 exchanges, or pairs, were registered. -/
theorem channels_wireSound_iff
    (hp : (Producer.system.recording Producer.registered).ReachableUnder
      (fun s => allowed s.1) p)
    (hc : (Consumer.system.recording Consumer.registered).ReachableUnder
      (fun s => allowed' s.1) c) :
    (WireSound (Producer.Owns p.1) p.1.calls p.2 ↔ (registeredKeys p.2).length ≤ 65535) ∧
    (WireSound c.1.channelHandler.OnChannel c.1.calls c.2 ↔
      (registeredKeys c.2).length ≤ 65535) := by
  constructor
  · exact (Producer.numbered_reachable hp).sound_iff bijOn_amqpChannel
  · exact (Consumer.numbered_reachable hc).sound_iff bijOn_amqpChannel

end Runs

/-- A producer and a consumer that have opened the channel of the one exchange, or
pair, that they were given. -/
theorem channels_wireSound_run :
    ∃ (p : ProducerState × List (Registration Bytes))
      (c : ConsumerState Nat × List (Registration HashableBindingPair)),
      (.channelOpen (some 0) 1 .normal ∈ p.1.calls ∧
        WireSound (Producer.Owns p.1) p.1.calls p.2) ∧
      (.channelOpen (some 0) 1 .normal ∈ c.1.calls ∧
        WireSound c.1.channelHandler.OnChannel c.1.calls c.2) := by
  obtain ⟨p, hp, hptest⟩ := TransitionSystem.exists_reachableUnder_of_run
    (M := Producer.system.recording Producer.registered) (fun s => Producer.OneControl s.1)
    (List.flatten [Producer.startUp, Producer.sendHi, Producer.connectAndOpen])
    (fun s : ProducerState × List (Registration Bytes) =>
      decide (.channelOpen (some 0) 1 .normal ∈ s.1.calls ∧
        (registeredKeys s.2).length ≤ 65535)) (by decide +kernel)
  obtain ⟨c, hc, hctest⟩ := TransitionSystem.exists_reachableUnder_of_run
    (M := Consumer.system.recording Consumer.registered) (fun s => Consumer.OneControl s.1)
    (List.flatten [Consumer.startUp, Consumer.subscribeTo 97, Consumer.connectAndSetUp])
    (fun s : ConsumerState Nat × List (Registration HashableBindingPair) =>
      decide (.channelOpen (some 0) 1 .normal ∈ s.1.calls ∧
        (registeredKeys s.2).length ≤ 65535)) (by decide +kernel)
  obtain ⟨hpopened, hpfew⟩ := of_decide_eq_true hptest
  obtain ⟨hcopened, hcfew⟩ := of_decide_eq_true hctest
  obtain ⟨hpsound, hcsound⟩ := channels_wireSound_iff hp hc
  exact ⟨p, c, ⟨hpopened, hpsound.mpr hpfew⟩, hcopened, hcsound.mpr hcfew⟩

/-- A producer that was used with 65536 exchanges opens one of them on channel 0. -/
theorem channels_wrap : ∃ s : ProducerState × List (Registration Bytes),
    (Producer.system.recording Producer.registered).ReachableUnder
      (fun s => Producer.OneControl s.1) s ∧
    Opened s.1.calls 65536 ∧ amqpChannel 65536 = 0 ∧
    ¬WireSound (Producer.Owns s.1) s.1.calls s.2 := by
  obtain ⟨s, hs, hopened⟩ := Producer.exists_opened_65536
  have hzero : amqpChannel 65536 = 0 := by decide
  refine ⟨s, hs, hopened, hzero, ?_⟩
  intro hsound
  exact hsound.valid 65536 hopened hzero

end HareCpp
