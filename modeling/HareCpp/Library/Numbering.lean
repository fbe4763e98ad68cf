import Mathlib.Data.Set.Function
import HareCpp.Library.TransitionSystem

/-!
# Numbers given out in order and narrowed

A registry gives each new key the next number, from 1 on, and never takes a number
back.  The numbers leave it through a `narrow` that keeps only so many of them apart,
and one of its values is reserved.

`Sound` is what the keys expect: what is used of the numbers is valid and distinct
outside, and a key for which no number is left is refused.  `Numbered.sound_iff`: a
registry that refuses nobody meets this exactly as long as the keys are no more than
the numbers that `narrow` keeps apart.
-/

namespace HareCpp
namespace Library

variable {Key ω : Type*}

/-- A key asks for a number. -/
structure Registration (Key : Type*) where
  key : Key
  /-- the key has a number already -/
  known : Bool
  /-- the numbers given out before -/
  taken : List Int
  accepted : Bool
  deriving DecidableEq, Repr

/-- Every value but the reserved one stands for a number that is taken. -/
def NoneLeft (narrow : Int → ω) (reserved : ω) (taken : List Int) : Prop :=
  ∀ value, value ≠ reserved → ∃ number ∈ taken, narrow number = value

/-- The numbers in use belong to keys, are valid and distinct when narrowed, and a new
key for which none is left is refused. -/
structure Sound (narrow : Int → ω) (reserved : ω) (owns : Key → Int → Prop) (used : Int → Prop)
    (record : List (Registration Key)) : Prop where
  owned : ∀ number, used number → ∃ key, owns key number
  valid : ∀ number, used number → narrow number ≠ reserved
  distinct : ∀ key key' number number', owns key number → owns key' number' →
    used number → used number' → key ≠ key' → narrow number ≠ narrow number'
  refused : ∀ registration ∈ record, registration.known = false →
    NoneLeft narrow reserved registration.taken → registration.accepted = false

variable [DecidableEq Key]

/-- The keys of a record, in the order of their first registration. -/
def registeredKeys (record : List (Registration Key)) : List Key :=
  firstUses (record.map (·.key))

/-- A registration sees the numbers from 1 up to the count of the keys so far, and is
accepted if its key is new. -/
def InOrder (past : List (Registration Key)) (registration : Registration Key) : Prop :=
  (registration.known = true ↔ registration.key ∈ registeredKeys past) ∧
    (registration.known = false → registration.accepted = true) ∧
    ∀ number, number ∈ registration.taken ↔
      1 ≤ number ∧ number ≤ ((registeredKeys past).length : Int)

/-- A registry that numbers its keys from 1 and refuses nobody. -/
structure Numbered (owns : Key → Int → Prop) (used : Int → Prop)
    (record : List (Registration Key)) : Prop where
  owned : ∀ number, used number → ∃ key, owns key number
  unique : ∀ key key' number, owns key number → owns key' number → key = key'
  range : ∀ key number, owns key number →
    1 ≤ number ∧ number ≤ ((registeredKeys record).length : Int)
  ordered : Guarded InOrder record

/-! ### Counting the keys of a record -/

theorem registeredKeys_cons_of_mem {registration : Registration Key}
    {past : List (Registration Key)} (h : registration.key ∈ registeredKeys past) :
    registeredKeys (registration :: past) = registeredKeys past := by
  rw [registeredKeys, mem_firstUses] at h
  exact firstUses_cons_of_mem h

theorem registeredKeys_cons_of_notMem {registration : Registration Key}
    {past : List (Registration Key)} (h : registration.key ∉ registeredKeys past) :
    registeredKeys (registration :: past) = registeredKeys past ++ [registration.key] := by
  rw [registeredKeys, mem_firstUses] at h
  exact firstUses_cons_of_notMem h

/-- There are at least as many keys later on. -/
theorem length_registeredKeys_le (later past : List (Registration Key)) :
    (registeredKeys past).length ≤ (registeredKeys (later ++ past)).length := by
  have hkept := firstUses_prefix (later.map (·.key)) (past.map (·.key))
  rw [registeredKeys, registeredKeys, List.map_append]
  exact hkept.length_le

/-- Where the keys have come to be more than `n`, one of them was the first after `n`
others. -/
theorem exists_registration {record : List (Registration Key)} {n : Nat}
    (h : n < (registeredKeys record).length) :
    ∃ later registration past, record = later ++ registration :: past ∧
      registration.key ∉ registeredKeys past ∧ (registeredKeys past).length = n := by
  induction record with
  | nil => cases h
  | cons registration past ih =>
      have hearlier : n < (registeredKeys past).length →
          ∃ later found before, registration :: past = later ++ found :: before ∧
            found.key ∉ registeredKeys before ∧ (registeredKeys before).length = n := by
        intro hpast
        obtain ⟨later, found, before, rfl, hfound⟩ := ih hpast
        exact ⟨registration :: later, found, before, rfl, hfound⟩
      by_cases hmem : registration.key ∈ registeredKeys past
      · rw [registeredKeys_cons_of_mem hmem] at h
        exact hearlier h
      · rw [registeredKeys_cons_of_notMem hmem, List.length_append, List.length_singleton] at h
        by_cases hpast : n < (registeredKeys past).length
        · exact hearlier hpast
        · exact ⟨[], registration, past, rfl, hmem, by omega⟩

/-! ### How many numbers there are -/

section Narrowing

variable {narrow : Int → ω} {reserved : ω} {max : Nat}
  (hnarrow : Set.BijOn narrow (Set.Icc 1 (max : Int)) {value | value ≠ reserved})
include hnarrow

/-- When the numbers up to `n` are taken, none is left exactly if `n` reaches `max`. -/
theorem noneLeft_iff {taken : List Int} {n : Nat}
    (htaken : ∀ number, number ∈ taken ↔ 1 ≤ number ∧ number ≤ (n : Int)) :
    NoneLeft narrow reserved taken ↔ max ≤ n := by
  constructor
  · intro hnone
    by_contra hlt
    -- the next number is still free
    have hnext : (n : Int) + 1 ∈ Set.Icc 1 (max : Int) := ⟨by omega, by omega⟩
    obtain ⟨number, hnumber, hsame⟩ := hnone _ (hnarrow.mapsTo hnext)
    obtain ⟨hlow, hhigh⟩ := (htaken number).mp hnumber
    have heq := hnarrow.injOn ⟨hlow, by omega⟩ hnext hsame
    omega
  · intro hle value hvalue
    obtain ⟨number, ⟨hlow, hhigh⟩, hsame⟩ := hnarrow.surjOn hvalue
    exact ⟨number, (htaken number).mpr ⟨hlow, by omega⟩, hsame⟩

variable {owns : Key → Int → Prop} {used : Int → Prop} {record : List (Registration Key)}

/-- As long as the keys are no more than the numbers, none has to be refused. -/
theorem Numbered.sound (h : Numbered owns used record)
    (hfew : (registeredKeys record).length ≤ max) :
    Sound narrow reserved owns used record := by
  have hrange : ∀ key number, owns key number → number ∈ Set.Icc 1 (max : Int) := by
    intro key number howns
    obtain ⟨hlow, hhigh⟩ := h.range key number howns
    exact ⟨hlow, by omega⟩
  constructor
  · exact h.owned
  · intro number hused
    obtain ⟨key, howns⟩ := h.owned number hused
    exact hnarrow.mapsTo (hrange key number howns)
  · intro key key' number number' howns howns' _ _ hne hsame
    have heq := hnarrow.injOn (hrange key number howns) (hrange key' number' howns') hsame
    subst heq
    exact hne (h.unique key key' number howns howns')
  · intro registration hmem hnew hnone
    obtain ⟨later, past, rfl⟩ := List.append_of_mem hmem
    obtain ⟨hknown, -, htaken⟩ := h.ordered.at_entry
    -- a new key makes one more, so that the keys before it were fewer than `max`
    have hkey : registration.key ∉ registeredKeys past := by
      intro hkey
      rw [hknown.mpr hkey] at hnew
      cases hnew
    have hmany := length_registeredKeys_le later (registration :: past)
    rw [registeredKeys_cons_of_notMem hkey, List.length_append, List.length_singleton] at hmany
    have hfull := (noneLeft_iff hnarrow htaken).mp hnone
    omega

/-- With more keys than numbers, one was accepted after the last number was taken. -/
theorem Numbered.not_sound (h : Numbered owns used record)
    (hmany : max < (registeredKeys record).length) :
    ¬Sound narrow reserved owns used record := by
  intro hsound
  obtain ⟨later, registration, past, rfl, hkey, hcount⟩ := exists_registration hmany
  obtain ⟨hknown, haccepted, htaken⟩ := h.ordered.at_entry
  have hnew : registration.known = false := by
    cases hflag : registration.known with
    | false => rfl
    | true => exact absurd (hknown.mp hflag) hkey
  have hnone := (noneLeft_iff hnarrow htaken).mpr hcount.ge
  have hrefused := hsound.refused registration
    (List.mem_append_right _ List.mem_cons_self) hnew hnone
  rw [haccepted hnew] at hrefused
  cases hrefused

/-- A registry that refuses nobody is sound exactly up to `max` keys. -/
theorem Numbered.sound_iff (h : Numbered owns used record) :
    Sound narrow reserved owns used record ↔ (registeredKeys record).length ≤ max := by
  constructor
  · intro hsound
    by_contra hmany
    exact h.not_sound hnarrow (by omega) hsound
  · exact h.sound hnarrow

end Narrowing

end Library
end HareCpp
