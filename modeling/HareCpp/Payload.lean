import Mathlib.Data.List.TakeWhile
import HareCpp.Producer.Publishing

/-!
# The payload of a string message

A payload given as a `std::string` passes through `c_str()` and `strlen` on its
way into a `Message`, and is length-delimited from there on: in the queue of the
producer, in the envelope and in the message a callback gets.  What comes out is
the argument up to its first NUL byte, and `Length` shows the lower 32 bits of its
length.  `payloadSurvives_iff` is the exact condition under which both are right.
-/

namespace HareCpp

open Library

/-- A C string is the whole string exactly when that has no NUL byte. -/
theorem cstringBytes_eq_self_iff (str : Bytes) : cstringBytes str = str ↔ 0 ∉ str := by
  unfold cstringBytes
  rw [List.takeWhile_eq_self_iff]
  constructor
  · intro h hmem
    simpa using h 0 hmem
  · intro hmem byte hbyte
    have hne : byte ≠ 0 := by
      rintro rfl
      exact hmem hbyte
    simpa using hne

/-- The messages that the two constructors make of a string. -/
def stringMessages (str : Bytes) : List Message :=
  [Message.ofString str, Message.ofMovedString str]

theorem string_of_mem {str : Bytes} {message : Message} (h : message ∈ stringMessages str) :
    message.string = cstringBytes str := by
  simp only [stringMessages, List.mem_cons, List.not_mem_nil, or_false] at h
  rcases h with rfl | rfl <;> rfl

theorem bytes_of_mem {str : Bytes} {message : Message} (h : message ∈ stringMessages str) :
    message.bytes = some (cstringBytes str) := by
  simp only [stringMessages, List.mem_cons, List.not_mem_nil, or_false] at h
  rcases h with rfl | rfl <;> rfl

theorem length_of_mem {str : Bytes} {message : Message} (h : message ∈ stringMessages str) :
    message.length.toNat = (cstringBytes str).length % 2 ^ 32 := by
  simp only [stringMessages, List.mem_cons, List.not_mem_nil, or_false] at h
  rcases h with rfl | rfl <;> exact UInt32.toNat_ofNat

/-- In every run the body of a queued message is the body that `Send` was given. -/
theorem Producer.enqueued_body {s : ProducerState}
    (hs : Producer.system.ReachableUnder (fun _ _ => True) s) {object : Nat}
    {call : Producer.SendCall} {channel : Int} (hpushed : .pushed object call channel ∈ s.notes) :
    (s.objects object).message = call.message.bytes := by
  have hbuilt := (Producer.contentFacts_reachable hs).built object call channel hpushed
  rcases hbuilt with heq | ⟨now, heq⟩
  · rw [heq]
    rfl
  · -- a publish that was tried has stamped the message, and left its body
    rw [heq]
    unfold ConnectionBase.stampTimestamp
    split <;> rfl

/-- A message made of the string shows it, with its length; and when it is sent, and
the broker delivers the queued body unchanged, the message that arrives shows it
too. -/
structure PayloadSurvives (str : Bytes) : Prop where
  string : ∀ message ∈ stringMessages str, message.string = str
  length : ∀ message ∈ stringMessages str, message.length.toNat = str.length
  delivered : ∀ message ∈ stringMessages str, ∀ s : ProducerState,
    Producer.system.ReachableUnder (fun _ _ => True) s → ∀ object call channel,
      .pushed object call channel ∈ s.notes → call.message = message →
      ∀ envelope : AmqpEnvelope, (s.objects object).message = some envelope.body →
        (Message.ofEnvelope envelope).string = str

/-- A string payload survives exactly when it has no NUL byte and its length fits
an `unsigned int`. -/
theorem payloadSurvives_iff (str : Bytes) :
    PayloadSurvives str ↔ 0 ∉ str ∧ str.length < 2 ^ 32 := by
  have hmem : Message.ofString str ∈ stringMessages str := by
    simp [stringMessages]
  constructor
  · intro h
    have hwhole : cstringBytes str = str := by
      rw [← string_of_mem hmem]
      exact h.string _ hmem
    constructor
    · exact (cstringBytes_eq_self_iff str).mp hwhole
    · have hlength := h.length _ hmem
      rw [length_of_mem hmem, hwhole] at hlength
      omega
  · rintro ⟨hnul, hshort⟩
    have hwhole : cstringBytes str = str := (cstringBytes_eq_self_iff str).mpr hnul
    constructor
    · intro message hmessage
      rw [string_of_mem hmessage, hwhole]
    · intro message hmessage
      rw [length_of_mem hmessage, hwhole]
      omega
    · intro message hmessage s hs object call channel hpushed hcall envelope hbody
      -- from the queue on the body is length-delimited
      rw [Producer.enqueued_body hs hpushed, hcall, bytes_of_mem hmessage, hwhole] at hbody
      have hsame : str = envelope.body := by simpa using hbody
      rw [hsame]
      rfl

/-- The string `h`, NUL, `i` does not survive. -/
theorem payloadSurvives_nul : ¬∀ str : Bytes, PayloadSurvives str := by
  intro h
  have hstring := (h [104, 0, 105]).string (Message.ofString [104, 0, 105])
    (by simp [stringMessages])
  exact absurd hstring (by decide)

end HareCpp
