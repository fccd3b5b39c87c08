/-!
# Slices of a text by byte range

Syntax trees give byte offsets, and a byte range need not fall on characters, or even inside the
text. `slice?` cuts a range out of a text when it can be cut: the ends are in order, and both are
boundaries between characters.

## Main statements

* `isSome_slice?` says exactly when a range can be cut out.
* `toByteArray_of_slice?` says that a slice is the bytes of its range.
* `slice?_append` joins neighbouring slices without loss.
-/

namespace SourceLedger.Text

/-- A byte offset inside `text`, or at its end, that is not in the middle of a character. -/
abbrev IsCut (text : String) (offset : Nat) : Prop :=
  String.Pos.Raw.IsValid text ⟨offset⟩

/-- The text between the byte offsets `start` and `stop`, or `none` when the range is reversed,
ends outside the text or cuts a character in two. -/
def slice? (text : String) (start stop : Nat) : Option String :=
  if h : start ≤ stop ∧ IsCut text start ∧ IsCut text stop then
    some (text.extract (text.pos ⟨start⟩ h.2.1) (text.pos ⟨stop⟩ h.2.2))
  else none

/-- A range can be cut out exactly when its ends are in order and both are cuts. -/
theorem isSome_slice? (text : String) (start stop : Nat) :
    (slice? text start stop).isSome ↔ start ≤ stop ∧ IsCut text start ∧ IsCut text stop := by
  unfold slice?
  split <;> simp_all

/-- A slice holds exactly the bytes of its range. -/
theorem toByteArray_of_slice? {text piece : String} {start stop : Nat}
    (h : slice? text start stop = some piece) :
    piece.toByteArray = text.toByteArray.extract start stop := by
  unfold slice? at h
  split at h
  · obtain rfl := Option.some.inj h
    simp [String.toByteArray_extract]
  · simp at h

/-- Two slices that meet join to the slice of the joined range. -/
theorem slice?_append {text left right : String} {start mid stop : Nat}
    (hl : slice? text start mid = some left) (hr : slice? text mid stop = some right) :
    slice? text start stop = some (left ++ right) := by
  have hleft := (isSome_slice? text start mid).1 (by simp [hl])
  have hright := (isSome_slice? text mid stop).1 (by simp [hr])
  have hwhole : (slice? text start stop).isSome :=
    (isSome_slice? text start stop).2 ⟨by omega, hleft.2.1, hright.2.2⟩
  obtain ⟨whole, hw⟩ := Option.isSome_iff_exists.1 hwhole
  rw [hw]
  congr 1
  rw [← String.toByteArray_inj, String.toByteArray_append, toByteArray_of_slice? hw,
    toByteArray_of_slice? hl, toByteArray_of_slice? hr, ByteArray.extract_append_extract,
    Nat.min_eq_left hleft.1, Nat.max_eq_right hright.1]

end SourceLedger.Text
