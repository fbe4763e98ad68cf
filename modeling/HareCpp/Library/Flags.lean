import Mathlib.Tactic

/-!
# Fields with a flag

A record in which a bit of a word says whether a field is set represents one with
optional fields.  `marked` is the field that is represented; setting the bit sets the
field and leaves those with other bits alone.
-/

namespace HareCpp
namespace Library

/-- All bits of `flag` are set. -/
def HasFlag (flags flag : UInt32) : Prop := flag = flags &&& flag

instance (flags flag : UInt32) : Decidable (HasFlag flags flag) :=
  inferInstanceAs (Decidable (_ = _))

section Marked

variable {α : Type*}

/-- The field with this flag, if it is set. -/
def marked (flags flag : UInt32) (value : α) : Option α :=
  if HasFlag flags flag then some value else none

/-- Only the fields that are set count. -/
theorem marked_congr {flags flag : UInt32} {value value' : α}
    (h : HasFlag flags flag → value = value') :
    marked flags flag value = marked flags flag value' := by
  unfold marked
  split
  · next hflag => rw [h hflag]
  · rfl

end Marked

end Library
end HareCpp
