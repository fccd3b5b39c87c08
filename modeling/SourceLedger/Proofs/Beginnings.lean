import Mathlib.Data.List.Infix
import SourceLedger.Text.LineMap
import SourceLedger.Text.Slice

/-!
# Texts that begin alike

Whether a text can be cut at an offset is decided by the bytes in front of the offset: they have
to be a text themselves. The line feeds in front of an offset are among these bytes as well. So
texts with the same bytes in front of some offset can be cut alike there, give the same slices,
and have the same lines.

## Main statements

* `SameBefore.slice?_eq` compares slices.
* `SameBefore.firstLine_eq` and `SameBefore.lastLine_eq` compare lines.
-/

namespace SourceLedger.Text

/-- Listing the bytes of an array from an offset on, behind those that are listed already. -/
theorem toList_loop (bytes : ByteArray) (offset : Nat) (told : List UInt8) :
    ByteArray.toList.loop bytes offset told = told.reverse ++ bytes.data.toList.drop offset := by
  induction offset, told using ByteArray.toList.loop.induct bytes with
  | case1 offset told hinside ih =>
    have hnext : bytes.data.toList.drop offset =
        bytes.get! offset :: bytes.data.toList.drop (offset + 1) := by
      have hbyte : bytes.get! offset = bytes.data[offset] := getElem!_pos bytes.data offset hinside
      rw [List.drop_eq_getElem_cons (by simpa using hinside), Array.getElem_toList, hbyte]
    calc ByteArray.toList.loop bytes offset told
      _ = ByteArray.toList.loop bytes (offset + 1) (bytes.get! offset :: told) := by
        rw [ByteArray.toList.loop, if_pos hinside]
      _ = (bytes.get! offset :: told).reverse ++ bytes.data.toList.drop (offset + 1) := ih
      _ = told.reverse ++ bytes.data.toList.drop offset := by
        rw [hnext, List.reverse_cons, List.append_assoc, List.singleton_append]
  | case2 offset told hend =>
    rw [ByteArray.toList.loop, if_neg hend, List.drop_of_length_le (by simpa using hend),
      List.append_nil]

theorem toList_eq_data (bytes : ByteArray) : bytes.toList = bytes.data.toList := by
  rw [ByteArray.toList, toList_loop, List.reverse_nil, List.nil_append, List.drop_zero]

theorem take_toList (bytes : ByteArray) (bound : Nat) :
    bytes.toList.take bound = (bytes.extract 0 bound).toList := by
  rw [toList_eq_data, toList_eq_data, ByteArray.data_extract]
  simp

theorem filter_zipIdx_lt {α : Type} (row : List α) (first count : Nat) :
    (row.zipIdx first).filter (·.2 < first + count) = (row.take count).zipIdx first := by
  induction row generalizing first count with
  | nil => simp
  | cons x rest ih =>
    cases count with
    | zero =>
      refine List.filter_eq_nil_iff.2 fun member hmember => ?_
      have hle := List.le_snd_of_mem_zipIdx hmember
      simp only [decide_eq_true_eq]
      omega
    | succ count =>
      have hrest := ih (first + 1) count
      rw [Nat.add_right_comm] at hrest
      rw [List.zipIdx_cons, List.filter_cons_of_pos (by simp), List.take_succ_cons,
        List.zipIdx_cons]
      exact congrArg _ hrest

/-- The line feeds in front of an offset are those of the bytes in front of it. -/
theorem filter_feeds (text : String) (offset : Nat) :
    (LineMap.ofText text).feeds.filter (· < offset) =
      ((text.toByteArray.extract 0 offset).toList.zipIdx.filter (·.1 == 10)).map (·.2) := by
  have hfront := filter_zipIdx_lt text.toByteArray.toList 0 offset
  rw [Nat.zero_add] at hfront
  rw [← take_toList, ← hfront, LineMap.ofText, List.filter_map, List.filter_filter,
    List.filter_filter]
  simp only [Function.comp_apply, Bool.and_comm]

/-- The texts have the same bytes in front of an offset. -/
def SameBefore (first second : String) (bound : Nat) : Prop :=
  first.toByteArray.extract 0 bound = second.toByteArray.extract 0 bound

instance (first second : String) (bound : Nat) : Decidable (SameBefore first second bound) :=
  inferInstanceAs (Decidable (_ = _))

namespace SameBefore

variable {first second : String} {bound start stop : Nat}

theorem extract_eq (h : SameBefore first second bound) (start : Nat) (hstop : stop ≤ bound) :
    first.toByteArray.extract start stop = second.toByteArray.extract start stop := by
  have hinner := congrArg (fun bytes => bytes.extract start stop) h
  simpa [ByteArray.extract_extract, Nat.min_eq_left hstop] using hinner

theorem isCut_iff (h : SameBefore first second bound) (hstop : stop ≤ bound) :
    IsCut first stop ↔ IsCut second stop := by
  have hsize := congrArg ByteArray.size h
  simp only [ByteArray.size_extract, String.size_toByteArray] at hsize
  have hinside : stop ≤ first.utf8ByteSize ↔ stop ≤ second.utf8ByteSize := by omega
  unfold IsCut
  rw [String.Pos.Raw.isValid_iff_isValidUTF8_extract_zero,
    String.Pos.Raw.isValid_iff_isValidUTF8_extract_zero, h.extract_eq 0 hstop]
  exact and_congr_left fun _ => hinside

theorem slice?_eq (h : SameBefore first second bound) (start : Nat) (hstop : stop ≤ bound) :
    slice? first start stop = slice? second start stop := by
  have hsome : (slice? first start stop).isSome ↔ (slice? second start stop).isSome := by
    rw [isSome_slice?, isSome_slice?]
    refine and_congr_right fun hle => ?_
    rw [h.isCut_iff (hle.trans hstop), h.isCut_iff hstop]
  cases hfirst : slice? first start stop with
  | none =>
    rw [hfirst] at hsome
    exact (Option.not_isSome_iff_eq_none.1 (hsome.not.1 (by simp))).symm
  | some piece =>
    obtain ⟨other, hsecond⟩ := Option.isSome_iff_exists.1 (hsome.1 (by rw [hfirst]; rfl))
    have hbytes : piece.toByteArray = other.toByteArray := by
      rw [toByteArray_of_slice? hfirst, toByteArray_of_slice? hsecond, h.extract_eq start hstop]
    rw [hsecond, String.toByteArray_inj.1 hbytes]

theorem filter_feeds_eq (h : SameBefore first second bound) (hstop : stop ≤ bound) :
    (LineMap.ofText first).feeds.filter (· < stop) =
      (LineMap.ofText second).feeds.filter (· < stop) := by
  rw [filter_feeds, filter_feeds, h.extract_eq 0 hstop]

theorem row_eq (h : SameBefore first second bound) (hstop : stop ≤ bound) :
    (LineMap.ofText first).row stop = (LineMap.ofText second).row stop := by
  rw [LineMap.row, LineMap.row, List.countP_eq_length_filter, List.countP_eq_length_filter,
    h.filter_feeds_eq hstop]

theorem firstLine_eq (h : SameBefore first second bound) (hstart : start ≤ bound) :
    (LineMap.ofText first).firstLine start = (LineMap.ofText second).firstLine start := by
  rw [LineMap.firstLine, LineMap.firstLine, h.row_eq hstart]

theorem lastLine_eq (h : SameBefore first second bound) (hstart : start ≤ bound)
    (hstop : stop ≤ bound) :
    (LineMap.ofText first).lastLine start stop = (LineMap.ofText second).lastLine start stop := by
  have hcolumn : (LineMap.ofText first).column stop = (LineMap.ofText second).column stop := by
    rw [LineMap.column, LineMap.column, LineMap.rowStart, LineMap.rowStart, h.filter_feeds_eq hstop]
  rw [LineMap.lastLine, LineMap.lastLine, hcolumn, h.row_eq hstart, h.row_eq hstop]

end SameBefore

end SourceLedger.Text
