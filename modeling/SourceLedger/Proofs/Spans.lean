import SourceLedger.Proofs.Attribution
import SourceLedger.Proofs.Beginnings
import SourceLedger.Proofs.Ways

/-!
# Lines of byte ranges

Behind a line feed the next row begins, and behind any other byte the column grows by one. So the
row of an offset counts the line feeds in front of it, and a range that is not empty ends on the row
of its last byte, whether or not this byte is a line feed. Lines therefore lie in each other and
follow each other as the bytes do.

## Main definitions

* `LineMap.BreaksAt` says where the line feeds of a text stand.
* `Component.Covers` says whose bytes and lines a component has.

## Main statements

* `LineMap.row_succ` and `LineMap.column_succ` go on by one byte.
* `LineMap.lastLine_eq` takes the last line of a range from its last byte.
* `Tree.lines_follow_bytes` compares the lines of nodes, which are those of the components.
-/

namespace SourceLedger.Text.LineMap

/-- A line feed stands at an offset. -/
def BreaksAt (text : String) (offset : Nat) : Prop :=
  text.toByteArray.toList[offset]? = some 10

instance (text : String) (offset : Nat) : Decidable (BreaksAt text offset) :=
  inferInstanceAs (Decidable (_ = _))

section Scan

variable (text : String) (offset : Nat)

/-- Going on by a byte passes one more line feed, if the byte is one. -/
theorem filter_feeds_succ :
    (ofText text).feeds.filter (· < offset + 1) =
      (ofText text).feeds.filter (· < offset) ++ if BreaksAt text offset then [offset] else [] := by
  rw [filter_feeds, filter_feeds, ← take_toList, ← take_toList, List.take_add_one]
  cases hbyte : text.toByteArray.toList[offset]? with
  | none => simp [BreaksAt, hbyte]
  | some byte =>
    have hlength := (List.getElem?_eq_some_iff.1 hbyte).1
    by_cases hbreak : byte = 10
    · simp [BreaksAt, hbyte, hbreak, List.zipIdx_append, Nat.min_eq_left (Nat.le_of_lt hlength)]
    · simp [BreaksAt, hbyte, hbreak, List.zipIdx_append]

@[simp]
theorem row_zero (lines : LineMap) : lines.row 0 = 0 := by
  simp [row]

@[simp]
theorem column_zero (lines : LineMap) : lines.column 0 = 0 :=
  Nat.zero_sub _

theorem row_succ :
    (ofText text).row (offset + 1) =
      (ofText text).row offset + if BreaksAt text offset then 1 else 0 := by
  rw [row, row, List.countP_eq_length_filter, List.countP_eq_length_filter, filter_feeds_succ,
    List.length_append]
  split <;> rfl

theorem rowStart_le (lines : LineMap) (offset : Nat) : lines.rowStart offset ≤ offset := by
  unfold rowStart
  split
  · rename_i feed hfeed
    exact of_decide_eq_true (List.mem_filter.1 (List.mem_of_getLast? hfeed)).2
  · exact Nat.zero_le offset

theorem rowStart_succ :
    (ofText text).rowStart (offset + 1) =
      if BreaksAt text offset then offset + 1 else (ofText text).rowStart offset := by
  rw [rowStart, filter_feeds_succ]
  by_cases hbreak : BreaksAt text offset
  · rw [if_pos hbreak, if_pos hbreak, List.getLast?_concat]
  · rw [if_neg hbreak, if_neg hbreak, List.append_nil]
    rfl

theorem column_succ :
    (ofText text).column (offset + 1) =
      if BreaksAt text offset then 0 else (ofText text).column offset + 1 := by
  rw [column, rowStart_succ]
  split
  · exact Nat.sub_self _
  · exact Nat.sub_add_comm (rowStart_le _ offset)

/-- The row of an offset is the number of line feeds in front of it. -/
theorem row_eq_count :
    (ofText text).row offset = (text.toByteArray.toList.take offset).count 10 := by
  induction offset with
  | zero => simp
  | succ offset ih =>
    rw [row_succ, ih, List.take_add_one, List.count_append]
    cases hbyte : text.toByteArray.toList[offset]? with
    | none => simp [BreaksAt, hbyte]
    | some byte => simp [BreaksAt, hbyte, List.count_singleton]

/-- The column of an offset is the number of bytes behind the last line feed in front of it. -/
theorem column_eq_length (h : offset ≤ text.utf8ByteSize) :
    (ofText text).column offset =
      ((text.toByteArray.toList.take offset).reverse.takeWhile (· != 10)).length := by
  induction offset with
  | zero => simp
  | succ offset ih =>
    have hlength : offset < text.toByteArray.toList.length := by
      rw [toList_eq_data, Array.length_toList, ByteArray.size_data, String.size_toByteArray]
      exact h
    have hbyte := List.getElem?_eq_getElem hlength
    rw [column_succ, ih (Nat.le_of_lt h), List.take_add_one, hbyte, Option.toList_some,
      List.reverse_append]
    by_cases hbreak : text.toByteArray.toList[offset] = 10
    · simp [BreaksAt, hbyte, hbreak]
    · simp [BreaksAt, hbyte, hbreak]

end Scan

section Range

variable {text : String} {start stop : Nat}

theorem row_mono (lines : LineMap) (h : start ≤ stop) : lines.row start ≤ lines.row stop := by
  refine List.countP_mono_left fun feed _ hfeed => ?_
  rw [decide_eq_true_iff] at hfeed ⊢
  exact Nat.lt_of_lt_of_le hfeed h

theorem firstLine_mono (lines : LineMap) (h : start ≤ stop) :
    lines.firstLine start ≤ lines.firstLine stop :=
  Nat.succ_le_succ (lines.row_mono h)

/-- A range reaches no further than to the line on which the bytes behind it begin. -/
theorem lastLine_le (lines : LineMap) (start stop : Nat) :
    lines.lastLine start stop ≤ lines.firstLine stop := by
  unfold lastLine firstLine
  split
  · exact Nat.le_succ _
  · exact Nat.le_refl _

/-- An empty range lies on the line of its offset, even at the beginning of a row. -/
theorem lastLine_self (lines : LineMap) (offset : Nat) :
    lines.lastLine offset offset = lines.firstLine offset :=
  if_neg fun h => Nat.lt_irrefl _ h.2

/-- A range that is not empty ends on the line of its last byte. -/
theorem lastLine_eq (h : start < stop) :
    (ofText text).lastLine start stop = (ofText text).firstLine (stop - 1) := by
  obtain ⟨last, rfl⟩ : ∃ last, stop = last + 1 := ⟨stop - 1, by omega⟩
  have hrow := (ofText text).row_mono (Nat.le_of_lt_succ h)
  rw [lastLine, firstLine, column_succ, row_succ, Nat.add_sub_cancel]
  by_cases hbreak : BreaksAt text last
  · -- The range begins before the line feed, so it reaches over the end of a row.
    rw [if_pos hbreak, if_pos hbreak, if_pos ⟨rfl, Nat.lt_succ_of_le hrow⟩]
  · rw [if_neg hbreak, if_neg hbreak, if_neg fun hcolumn => Nat.succ_ne_zero _ hcolumn.1]

theorem firstLine_le_lastLine (h : start ≤ stop) :
    (ofText text).firstLine start ≤ (ofText text).lastLine start stop := by
  rcases Nat.eq_or_lt_of_le h with rfl | hlt
  · rw [lastLine_self]
  · rw [lastLine_eq hlt]
    exact firstLine_mono _ (Nat.le_sub_one_of_lt hlt)

/-- A range that is not empty ends on no later line than a range around it. -/
theorem lastLine_le_lastLine {outer behind : Nat} (h : start < stop) (hstart : outer ≤ start)
    (hstop : stop ≤ behind) :
    (ofText text).lastLine start stop ≤ (ofText text).lastLine outer behind := by
  rw [lastLine_eq h, lastLine_eq (by omega)]
  exact firstLine_mono _ (Nat.sub_le_sub_right hstop 1)

/-- A range ends on no later line than one behind it begins. -/
theorem lastLine_le_firstLine (lines : LineMap) {next : Nat} (h : stop ≤ next) :
    lines.lastLine start stop ≤ lines.firstLine next :=
  (lines.lastLine_le start stop).trans (lines.firstLine_mono h)

end Range

end SourceLedger.Text.LineMap

namespace SourceLedger

open Outline (Visit fileTour)
open Syntax (Node Tree)
open Text (LineMap)

/-- A tour of a file visits nodes of its tree. -/
theorem Outline.mem_preorder_of_mem_fileTour {text : String} {root : Node} {sought : Sought}
    {visit : Visit} (h : visit ∈ fileTour text root sought) :
    visit.place.node ∈ root.preorder := by
  rw [fileTour] at h
  split at h
  · split at h
    · simp at h
    · obtain rfl := List.mem_singleton.1 h
      exact root.mem_preorder_self
  · obtain ⟨path, last, _, hleads, _⟩ := leads_of_mem_tour h
    exact Node.mem_preorder_of_at? hleads.at?

/-- A component covers the bytes and the lines of a node. -/
structure Component.Covers (component : Component) (tree : Tree) (node : Node) : Prop where
  start : component.start = node.start
  stop : component.stop = node.stop
  firstLine : component.firstLine = tree.firstLine node
  lastLine : component.lastLine = tree.lastLine node

/-- Every component that is taken from a text covers the bytes and the lines of a node of its
tree. -/
theorem Extraction.IsTaken.exists_covers {path text : String} {tree : Tree} {recordReads : Bool}
    {extraction : Extraction} (h : extraction.IsTaken path text tree recordReads) :
    ∀ component ∈ extraction.components,
      ∃ node ∈ tree.root.preorder, component.Covers tree node := by
  intro component hcomponent
  have hall := h.reports.1
  -- The component stands where the visit that opens it stands among such visits.
  obtain ⟨⟨position, hposition⟩, rfl⟩ := List.get_of_mem hcomponent
  have hvisits := hall.length_eq.symm ▸ hposition
  have hat := hall.get hvisits hposition
  have hvisit := (List.mem_filter.1 (List.get_mem _ ⟨position, hvisits⟩)).1
  exact ⟨_, Outline.mem_preorder_of_mem_fileTour hvisit,
    hat.start, hat.stop, hat.firstLine, hat.lastLine⟩

namespace Syntax.Tree

/-- The row of an offset is the number of line feeds in front of it, and the column is the number of
bytes behind the last of them. A node that is not empty ends on the line of its last byte. No node
ends on an earlier line than it begins, if its bytes are in order. A node that is not empty and lies
inside another one covers only lines of that one, and a node that does not reach beyond the
beginning of another one does not reach beyond the line on which that one begins. The components
that are taken from a text, with names given or not, cover the lines of their nodes. -/
theorem lines_follow_bytes (text : String) (root : Node) :
    let tree : Tree := ⟨root, .ofText text⟩
    let before (offset : Nat) : List UInt8 := text.toByteArray.toList.take offset
    (∀ offset, offset ≤ text.utf8ByteSize →
      tree.lines.row offset = (before offset).count 10 ∧
      tree.lines.column offset = ((before offset).reverse.takeWhile (· != 10)).length) ∧
    (∀ node : Node, node.start < node.stop →
      tree.lastLine node = tree.lines.row (node.stop - 1) + 1) ∧
    (∀ node : Node, node.start ≤ node.stop → tree.firstLine node ≤ tree.lastLine node) ∧
    (∀ inner outer : Node, inner.start < inner.stop →
      outer.start ≤ inner.start → inner.stop ≤ outer.stop →
        tree.firstLine outer ≤ tree.firstLine inner ∧
        tree.lastLine inner ≤ tree.lastLine outer) ∧
    (∀ first second : Node, first.stop ≤ second.start →
      tree.lastLine first ≤ tree.firstLine second) ∧
    ∀ path (options : ExtractOptions),
      (∀ component ∈ (Extraction.staged path text tree options.recordReads).components,
        ∃ node ∈ root.preorder, component.Covers tree node) ∧
      ∀ result, (Extraction.staged path text tree options.recordReads).named
          options.duplicateNames = .ok result →
        ∀ component ∈ result.components, ∃ node ∈ root.preorder, component.Covers tree node := by
  intro tree before
  refine ⟨fun offset hoffset => ?_, fun node hbytes => LineMap.lastLine_eq hbytes,
    fun node hordered => LineMap.firstLine_le_lastLine hordered,
    fun inner outer hbytes hstart hstop => ?_,
    fun first second hapart => LineMap.lastLine_le_firstLine _ hapart,
    fun path options =>
      Extraction.forall_isTaken (fun _ htaken => htaken.exists_covers) options.duplicateNames⟩
  · exact ⟨LineMap.row_eq_count text offset, LineMap.column_eq_length text offset hoffset⟩
  · exact ⟨LineMap.firstLine_mono _ hstart, LineMap.lastLine_le_lastLine hbytes hstart hstop⟩

/-- An empty range behind a line feed lies on a line that a range ending there does not cover. -/
example : (LineMap.ofText "a\n").lastLine 2 2 = 2 ∧ (LineMap.ofText "a\n").lastLine 0 2 = 1 := by
  decide +kernel

/-- A call whose arguments stand on the next line. -/
def continuedText : String :=
  "x = f\\\n(1)\n"

/-- The backslash in `continuedText`, with the line feed behind it. -/
def continuation : Node :=
  .mk { kind := "line_continuation", extra := true, start := 5, stop := 7 } []

/-- The arguments in `continuedText`. -/
def continuedArguments : Node :=
  .mk { kind := "argument_list", role := some "arguments", start := 7, stop := 10 } [
    .mk { kind := "(", named := false, start := 7, stop := 8 } [],
    .mk { kind := "integer", start := 8, stop := 9 } [],
    .mk { kind := ")", named := false, start := 9, stop := 10 } []]

/-- The tree of `continuedText`. -/
def continuedTree : Tree where
  root :=
    .mk { kind := "module", start := 0, stop := 11 } [
      .mk { kind := "expression_statement", start := 0, stop := 10 } [
        .mk { kind := "assignment", start := 0, stop := 10 } [
          .mk { kind := "identifier", role := some "left", start := 0, stop := 1 } [],
          .mk { kind := "=", named := false, start := 2, stop := 3 } [],
          .mk { kind := "call", role := some "right", start := 4, stop := 10 } [
            .mk { kind := "identifier", role := some "function", start := 4, stop := 5 } [],
            continuation,
            continuedArguments]]]]
  lines := .ofText continuedText

/-- The backslash and the module both end at the beginning of a row, and the statement does not. -/
theorem lines_follow_bytes_continued :
    continuedTree.lines.column continuation.stop = 0 ∧
      continuedTree.lines.column continuedTree.root.stop = 0 ∧
      continuation.start < continuation.stop ∧
      continuedTree.root.start ≤ continuation.start ∧
      continuation.stop ≤ continuedTree.root.stop ∧
      continuation.stop ≤ continuedArguments.start ∧
      continuedTree.firstLine continuation ≤ continuedTree.lastLine continuation ∧
      continuedTree.firstLine continuedTree.root ≤ continuedTree.firstLine continuation ∧
      continuedTree.lastLine continuation ≤ continuedTree.lastLine continuedTree.root ∧
      continuedTree.lastLine continuation ≤ continuedTree.firstLine continuedArguments ∧
      ∃ extraction, extract "a.py" continuedText continuedTree {} = .ok extraction ∧
        extraction.components.map (fun component => (component.firstLine, component.lastLine)) =
          [(1, 2)] ∧
        ∀ component ∈ extraction.components,
          ∃ node ∈ continuedTree.root.preorder, component.Covers continuedTree node := by
  obtain ⟨_, _, hordered, hinside, hapart, hcomponents⟩ :=
    lines_follow_bytes continuedText continuedTree.root
  have hlines : (extract "a.py" continuedText continuedTree {}).toOption.map (fun extraction =>
      extraction.components.map fun component => (component.firstLine, component.lastLine)) =
        some [(1, 2)] := by
    decide +kernel
  obtain ⟨extraction, hextract⟩ :
      ∃ extraction, extract "a.py" continuedText continuedTree {} = .ok extraction :=
    exists_extract rfl (by decide)
  rw [hextract] at hlines
  have hnested := hinside continuation continuedTree.root (by decide) (by decide) (by decide)
  exact ⟨by decide +kernel, by decide +kernel, by decide, by decide, by decide, by decide,
    hordered continuation (by decide), hnested.1, hnested.2,
    hapart continuation continuedArguments (by decide), extraction, hextract,
    Option.some.inj hlines, (hcomponents "a.py" {}).2 extraction (extract_ok hextract).2⟩

end Syntax.Tree

end SourceLedger
