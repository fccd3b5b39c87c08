import Mathlib.Algebra.Group.Nat.Defs
import Mathlib.Data.List.Lex

/-!
# The order of bytes

Names are compared by their characters. A text is written as bytes in which a larger character
always comes later: longer sequences have larger leading bytes, and in sequences of one length the
bits of the character stand in order. So the order of texts is the order of their bytes.

## Main statements

* `Text.sequence_append_lt` compares sequences of one length.
* `Text.encoding_append_lt` compares the bytes of two characters, whatever comes behind them.
* `Text.bytes_lt_bytes` compares the bytes of two texts.
-/

namespace SourceLedger.Text

/-- The bytes of a text. -/
def bytes (text : String) : List UInt8 :=
  text.toByteArray.data.toList

theorem bytes_eq_flatMap (text : String) :
    bytes text = text.toList.flatMap String.utf8EncodeChar := by
  conv_lhs => rw [← String.ofList_toList (s := text)]
  exact List.toList_data_toByteArray

/-- A leading byte and further bytes that carry six bits each. -/
def sequence (lead : Nat → Nat) : (further value : Nat) → List UInt8
  | 0, value => [UInt8.ofNat (lead value)]
  | further + 1, value => sequence lead further (value / 64) ++ [UInt8.ofNat (value % 64 + 128)]

theorem ofNat_cons_lt {x y : Nat} (hlt : x < y) (hbyte : y < 256) (r s : List UInt8) :
    UInt8.ofNat x :: r < UInt8.ofNat y :: s := by
  refine List.cons_lt_cons_iff.2 (.inl ?_)
  rw [UInt8.lt_iff_toNat_lt, UInt8.toNat_ofNat', UInt8.toNat_ofNat']
  omega

/-- Sequences of one length are in the order of their values, if their leading bytes are. -/
theorem sequence_append_lt (lead : Nat → Nat) (further top : Nat)
    (hlead : ∀ x y, x < y → y < top → lead x < lead y ∧ lead y < 256) {m n : Nat} (hlt : m < n)
    (htop : n < top * 64 ^ further) (r s : List UInt8) :
    sequence lead further m ++ r < sequence lead further n ++ s := by
  induction further generalizing m n r s with
  | zero =>
    obtain ⟨hless, hbyte⟩ := hlead m n hlt (by omega)
    exact ofNat_cons_lt hless hbyte r s
  | succ further ih =>
    simp only [sequence, List.append_assoc, List.singleton_append]
    by_cases hsame : m / 64 = n / 64
    · rw [hsame]
      apply List.append_left_lt
      exact ofNat_cons_lt (by omega) (by omega) r s
    · apply ih (by omega)
      rw [Nat.div_lt_iff_lt_mul (by decide), Nat.mul_assoc]
      exact htop

theorem toNat_lt (c : Char) : c.val.toNat < 0x110000 := by
  have hvalid : c.val.toNat < 0xd800 ∨ 0xdfff < c.val.toNat ∧ c.val.toNat < 0x110000 := c.valid
  omega

/-- The bytes of a smaller character come first, whatever comes behind them. -/
theorem encoding_append_lt {c d : Char} (h : c < d) (r s : List UInt8) :
    String.utf8EncodeChar c ++ r < String.utf8EncodeChar d ++ s := by
  have hlt : c.val.toNat < d.val.toNat := h
  have htop := toNat_lt d
  simp only [String.utf8EncodeChar]
  generalize c.val.toNat = m at hlt
  generalize d.val.toNat = n at hlt htop
  -- By the length of the second sequence; a shorter one has a smaller leading byte.
  by_cases hone : n ≤ 0x7f
  · rw [if_pos hone, if_pos (by omega)]
    exact ofNat_cons_lt hlt (by omega) r s
  rw [if_neg hone]
  by_cases htwo : n ≤ 0x7ff
  · rw [if_pos htwo]
    split_ifs
    · exact ofNat_cons_lt (by omega) (by omega) _ _
    · exact sequence_append_lt (· % 32 + 192) 1 32 (by omega) hlt (by omega) r s
    · omega
    · omega
  rw [if_neg htwo]
  by_cases hthree : n ≤ 0xffff
  · rw [if_pos hthree]
    split_ifs
    · exact ofNat_cons_lt (by omega) (by omega) _ _
    · exact ofNat_cons_lt (by omega) (by omega) _ _
    · simpa [sequence, Nat.div_div_eq_div_mul] using
        sequence_append_lt (· % 16 + 224) 2 16 (by omega) hlt (by omega) r s
    · omega
  rw [if_neg hthree]
  split_ifs
  · exact ofNat_cons_lt (by omega) (by omega) _ _
  · exact ofNat_cons_lt (by omega) (by omega) _ _
  · exact ofNat_cons_lt (by omega) (by omega) _ _
  · simpa [sequence, Nat.div_div_eq_div_mul] using
      sequence_append_lt (· % 8 + 240) 3 8 (by omega) hlt (by omega) r s

/-- Texts are in the order of their bytes. -/
theorem bytes_lt_bytes {x y : String} (h : x < y) : bytes x < bytes y := by
  rw [bytes_eq_flatMap, bytes_eq_flatMap]
  have hlex : List.Lex (· < ·) x.toList y.toList := h
  generalize x.toList = front at hlex
  generalize y.toList = back at hlex
  induction hlex with
  | @nil d rest =>
    rw [List.flatMap_nil, List.flatMap_cons]
    obtain ⟨lead, further, hencoding⟩ :=
      List.exists_cons_of_ne_nil (String.utf8EncodeChar_ne_nil (c := d))
    rw [hencoding]
    exact List.nil_lt_cons _ _
  | cons _ ih =>
    rw [List.flatMap_cons, List.flatMap_cons]
    exact List.append_left_lt ih
  | rel hlt =>
    rw [List.flatMap_cons, List.flatMap_cons]
    exact encoding_append_lt hlt _ _

end SourceLedger.Text
