import HareCpp.Library.Numbering
import HareCpp.ConnectionBase

/-!
# Channel numbers on the wire

`OpenChannel` is given an `int` and passes it to `amqp_channel_open`, whose channel is
an `amqp_channel_t`: 16 bits, of which 0 stands for the connection itself.  The
producer numbers its exchanges and the consumer its binding pairs in an `int` that
only grows.
-/

namespace HareCpp

open Library

/-- What an `int` becomes as an `amqp_channel_t`. -/
def amqpChannel (channel : Int) : UInt16 := UInt16.ofInt channel

/-- `amqp_channel_open` was called for the channel. -/
def Opened (calls : List AmqpCall) (channel : Int) : Prop :=
  ∃ conn reply, .channelOpen conn channel reply ∈ calls

/-- The channels opened are valid on the wire and distinct for distinct owners, and a
registration for which no number is left was refused. -/
def WireSound {Key : Type} (owns : Key → Int → Prop) (calls : List AmqpCall)
    (record : List (Registration Key)) : Prop :=
  Sound amqpChannel 0 owns (Opened calls) record

/-- A channel that fits into 16 bits goes through unchanged. -/
theorem toNat_amqpChannel {channel : Int} (hlow : 1 ≤ channel) (hhigh : channel ≤ 65535) :
    (amqpChannel channel).toNat = channel.toNat := by
  rw [amqpChannel, UInt16.ofInt, UInt16.toNat_ofNat']
  omega

/-- The numbers from 1 to 65535 are those that survive. -/
theorem bijOn_amqpChannel :
    Set.BijOn amqpChannel (Set.Icc 1 ((65535 : Nat) : Int)) {number | number ≠ 0} := by
  refine ⟨?_, ?_, ?_⟩
  · intro channel hrange hzero
    obtain ⟨hlow, hhigh⟩ := hrange
    have hnat := toNat_amqpChannel hlow hhigh
    rw [hzero, UInt16.toNat_zero] at hnat
    omega
  · intro channel hrange channel' hrange' hsame
    obtain ⟨hlow, hhigh⟩ := hrange
    obtain ⟨hlow', hhigh'⟩ := hrange'
    have hnat := toNat_amqpChannel hlow hhigh
    rw [hsame, toNat_amqpChannel hlow' hhigh'] at hnat
    omega
  · intro number hnumber
    have hlt := number.toNat_lt
    have hpos : number.toNat ≠ 0 := by
      intro hzero
      exact hnumber (UInt16.toNat_inj.mp hzero)
    have hlow : (1 : Int) ≤ number.toNat := by omega
    have hhigh : (number.toNat : Int) ≤ 65535 := by omega
    refine ⟨number.toNat, ⟨hlow, hhigh⟩, ?_⟩
    apply UInt16.toNat_inj.mp
    rw [toNat_amqpChannel hlow hhigh, Int.toNat_natCast]

/-- The two numbers after that. -/
example : amqpChannel 65536 = 0 ∧ amqpChannel 65537 = amqpChannel 1 := by decide

/-- Calls that open no channel. -/
theorem opened_of_append {new calls : List AmqpCall} {channel : Int}
    (hnew : ∀ conn channel reply, .channelOpen conn channel reply ∉ new)
    (h : Opened (new ++ calls) channel) : Opened calls channel := by
  obtain ⟨conn, reply, hmem⟩ := h
  exact ⟨conn, reply, ConnectionBase.mem_open_of_append hnew conn channel reply hmem⟩

/-- A call that opens no channel. -/
theorem opened_of_cons {call : AmqpCall} {calls : List AmqpCall} {channel : Int}
    (hcall : ∀ conn channel reply, call ≠ .channelOpen conn channel reply)
    (h : Opened (call :: calls) channel) : Opened calls channel := by
  obtain ⟨conn, reply, hmem⟩ := h
  rcases List.mem_cons.mp hmem with hsame | hold
  · exact absurd hsame.symm (hcall conn channel reply)
  · exact ⟨conn, reply, hold⟩

end HareCpp
