import Stencil.Text.Basic

/-!
# Bytes of a text

The bytes of a text are counted character by character, each has at least one, and the bytes of the
string that shows a text are those of the text.  So counting bytes tells the initial parts and the
ends of a text apart as counting characters does.
-/

namespace Stencil.Text

theorem byteSize_cons (c : Char) (text : Text) :
    byteSize (c :: text) = c.utf8Size + byteSize text := rfl

theorem byteSize_append (front back : Text) :
    (front ++ back).byteSize = front.byteSize + back.byteSize := by
  induction front with
  | nil => exact (Nat.zero_add _).symm
  | cons c front ih => rw [List.cons_append, byteSize_cons, byteSize_cons, ih, Nat.add_assoc]

theorem byteSize_pos {text : Text} (nonempty : text ≠ []) : 0 < text.byteSize := by
  cases text with
  | nil => exact absurd rfl nonempty
  | cons c text => exact Nat.add_pos_left c.utf8Size_pos _

theorem byteSize_le_of_suffix {part text : Text} (suffix : part <:+ text) :
    part.byteSize ≤ text.byteSize := by
  obtain ⟨front, rfl⟩ := suffix
  rw [byteSize_append]
  exact Nat.le_add_left _ _

theorem byteSize_lt_of_suffix {part text : Text} (suffix : part <:+ text)
    (shorter : part.length < text.length) : part.byteSize < text.byteSize := by
  obtain ⟨front, rfl⟩ := suffix
  have nonempty : front ≠ [] := by
    rintro rfl
    exact Nat.lt_irrefl _ shorter
  rw [byteSize_append]
  exact Nat.lt_add_of_pos_left (byteSize_pos nonempty)

theorem utf8ByteSize_string (text : Text) : text.string.utf8ByteSize = text.byteSize := by
  induction text with
  | nil => rfl
  | cons c text ih =>
      have step : string (c :: text) = String.singleton c ++ string text := by
        rw [string, string, String.singleton_eq_ofList, ← String.ofList_append]
        rfl
      rw [step, String.utf8ByteSize_append, String.utf8ByteSize_singleton, ih, byteSize_cons]

/-- Every initial part of a text ends on a character boundary. -/
theorem isValid_byteSize (front back : Text) :
    String.Pos.Raw.IsValid (front ++ back).string ⟨front.byteSize⟩ := by
  refine String.Pos.Raw.isValid_iff_exists_append.mpr ⟨front.string, back.string, ?_, ?_⟩
  · exact String.ofList_append
  · rw [← utf8ByteSize_string]
    rfl

end Stencil.Text
