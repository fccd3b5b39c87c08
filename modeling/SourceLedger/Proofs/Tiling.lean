import SourceLedger.Proofs.Arena

/-!
# Statements and gaps tile a text

Each statement of a file owns the gap in front of it, and the last one also the text behind it. If
none of these texts is missing, they join to the whole text, whatever tree they were cut out by.
None is missing if the tree fits the text: if every node covers a range of characters, and the
statements follow each other.

## Main definitions

* `Syntax.Node.Fits` says that a tree fits a text.

## Main statements

* `Recorder.reconstruct_run_statements` carries the text that is already told from statement to
  statement.
* `reconstruct_staged` joins the pieces of an extraction without loss.
-/

namespace SourceLedger

open Outline (Event Gaps Nested Opening Reading component openingOf moduleEvents moduleOpening
  statementEvents)
open Syntax (Node)
open Text (IsCut slice?)

namespace Text

/-- Nothing is cut out between an offset and itself. -/
theorem slice?_zero (text : String) : slice? text 0 0 = some "" := by
  have hcut : IsCut text 0 := String.Pos.Raw.isValid_zero
  obtain ⟨piece, hpiece⟩ :=
    Option.isSome_iff_exists.1 ((isSome_slice? text 0 0).2 ⟨Nat.le_refl 0, hcut, hcut⟩)
  rw [hpiece, Option.some.injEq, ← String.toByteArray_inj, toByteArray_of_slice? hpiece]
  simp

/-- A text is the slice of its whole range. -/
theorem slice?_full (text : String) : slice? text 0 text.utf8ByteSize = some text := by
  have hstart : IsCut text 0 := String.Pos.Raw.isValid_zero
  have hstop : IsCut text text.utf8ByteSize := String.Pos.Raw.isValid_rawEndPos
  obtain ⟨piece, hpiece⟩ := Option.isSome_iff_exists.1
    ((isSome_slice? text 0 text.utf8ByteSize).2 ⟨Nat.zero_le _, hstart, hstop⟩)
  rw [hpiece, Option.some.injEq, ← String.toByteArray_inj, toByteArray_of_slice? hpiece]
  simp [← String.size_toByteArray]

end Text

/-- A tree fits a text if every node covers whole characters of it, and every statement ends before
the next one begins. -/
structure Syntax.Node.Fits (root : Node) (source : String) : Prop where
  ranges : ∀ node ∈ root.preorder,
    node.start ≤ node.stop ∧ IsCut source node.start ∧ IsCut source node.stop
  ordered : root.namedChildren.Pairwise fun first second => first.stop ≤ second.start

namespace Segment

theorem join_append (first second : List Segment) :
    join (first ++ second) = join first ++ join second := by
  simp [join, String.join_append]

theorem join_singleton (segment : Segment) : join [segment] = segment.assembled := by
  simp [join]

end Segment

namespace Recorder

variable {recorder : Recorder} {reading : Reading}

/-- No text of an opening is missing exactly if all three could be cut out. -/
theorem missingIn_eq_zero (opening : Opening) :
    missingIn opening = 0 ↔
      opening.leading.isSome ∧ opening.text.isSome ∧ opening.trailing.isSome := by
  simp [missingIn, Option.isSome_iff_ne_none]

/-- A statement at top level adds its own texts to the text that is told, and nothing else. -/
theorem reconstruct_run_component (hstack : recorder.stack = []) (recordReads : Bool)
    (gaps : Gaps) (node : Node) :
    (recorder.run recordReads (component reading gaps node)).findings.reconstruct =
      recorder.findings.reconstruct ++
        (componentOf (openingOf reading gaps node) none).segment.assembled := by
  obtain ⟨_, new, hnew, hparents⟩ := run_component hstack recordReads reading gaps node
  have hbelow : new.filter (·.parent.isNone) = [] := by
    refine List.filter_eq_nil_iff.2 fun component hcomponent => ?_
    simpa [Option.isSome_iff_ne_none] using hparents component hcomponent
  rw [Findings.reconstruct, hnew, List.filter_append, List.map_append, Segment.join_append,
    List.filter_cons_of_pos (by rfl), hbelow, List.map_singleton, Segment.join_singleton]
  rfl

/-- If no text of a statement is missing, the text told so far grows by the gap in front of the
statement, the statement and the text behind it. -/
theorem reconstruct_run_component_of_texts (hstack : recorder.stack = []) (recordReads : Bool)
    {gaps : Gaps} {node : Node}
    (hmissing : missingOver (component reading gaps node) = 0) :
    ∃ leading text trailing, gaps.leading = some leading ∧
      slice? reading.source node.start node.stop = some text ∧ gaps.trailing = some trailing ∧
      (recorder.run recordReads (component reading gaps node)).findings.reconstruct =
        recorder.findings.reconstruct ++ (leading ++ text ++ trailing) := by
  have hopening : missingIn (openingOf reading gaps node) = 0 := by
    rw [Outline.component_eq, missingOver, Nat.add_eq_zero_iff] at hmissing
    exact hmissing.1
  rw [missingIn_eq_zero] at hopening
  obtain ⟨leading, hleading⟩ := Option.isSome_iff_exists.1 hopening.1
  obtain ⟨text, htext⟩ := Option.isSome_iff_exists.1 hopening.2.1
  obtain ⟨trailing, htrailing⟩ := Option.isSome_iff_exists.1 hopening.2.2
  refine ⟨leading, text, trailing, hleading, htext, htrailing, ?_⟩
  rw [reconstruct_run_component hstack, componentOf, Segment.assembled, hleading, htext, htrailing]
  rfl

/-- From statement to statement the text that is told is the slice in front of the cursor, and in
the end it is all. -/
theorem reconstruct_run_statements (hstack : recorder.stack = []) (recordReads : Bool)
    {cursor : Nat} {statements : List Node} (hstatements : statements ≠ [])
    (hdone : slice? reading.source 0 cursor = some recorder.findings.reconstruct)
    (hmissing : missingOver (statementEvents reading cursor statements) = 0) :
    (recorder.run recordReads (statementEvents reading cursor statements)).findings.reconstruct =
      reading.source := by
  fun_induction statementEvents reading cursor statements generalizing recorder with
  | case1 => exact absurd rfl hstatements
  | case2 cursor last =>
    obtain ⟨leading, text, trailing, hleading, htext, htrailing, heq⟩ :=
      reconstruct_run_component_of_texts hstack recordReads hmissing
    -- What is told, the gap, the statement and the rest meet, from the first byte to the last.
    have hall := Text.slice?_append (Text.slice?_append (Text.slice?_append hdone hleading) htext)
      htrailing
    rw [Text.slice?_full, Option.some.injEq] at hall
    rw [heq, hall, String.append_assoc, String.append_assoc, String.append_assoc]
  | case3 cursor statement rest hrest ih =>
    rw [missingOver_append, Nat.add_eq_zero_iff] at hmissing
    obtain ⟨leading, text, trailing, hleading, htext, htrailing, heq⟩ :=
      reconstruct_run_component_of_texts hstack recordReads hmissing.1
    rw [run_append]
    refine ih (run_component hstack recordReads reading _ statement).1 hrest ?_ hmissing.2
    obtain rfl := Option.some.inj htrailing
    rw [heq, Text.slice?_append (Text.slice?_append hdone hleading) htext]
    simp [String.append_assoc]

/-- No text is missing in a stretch of which every node can be cut out. -/
theorem missing_nested {root : Node} {low high : Nat} {events : List Event}
    (h : Nested reading root low high events)
    (hranges : ∀ node ∈ root.preorder, (reading.text? node).isSome) :
    missingOver events = 0 := by
  induction h with
  | nil => rfl
  | @plain low high event rest hplain _ ih =>
    rw [missingOver, ih, Nat.add_zero]
    cases event <;> simp_all [missingAt, Event.isPlain]
  | decorate _ _ ih => simpa [missingOver, missingAt] using ih
  | @component low high count part inside rest hpart _ _ ihinside ihrest =>
    have hopening : missingIn (openingOf reading .empty part) = 0 :=
      (missingIn_eq_zero _).2 ⟨rfl, hranges part hpart, rfl⟩
    simp only [missingOver, missingOver_append, ihinside, ihrest]
    simpa [missingAt] using hopening

/-- No text of a statement is missing if its nodes and the gaps around it can be cut out. -/
theorem missing_component {gaps : Gaps} {node : Node}
    (hranges : ∀ part ∈ node.preorder, (reading.text? part).isSome)
    (hleading : gaps.leading.isSome) (htrailing : gaps.trailing.isSome) :
    missingOver (component reading gaps node) = 0 := by
  obtain ⟨count, inside, heq, hinside⟩ := Outline.component_eq_nested reading gaps node
  have hopening : missingIn (openingOf reading gaps node) = 0 :=
    (missingIn_eq_zero _).2 ⟨hleading, hranges node node.mem_preorder_self, htrailing⟩
  simp only [heq, missingOver, missingOver_append, missing_nested hinside hranges]
  simpa [missingAt] using hopening

/-- No text of some statements is missing if they follow each other behind the cursor. -/
theorem missing_statements {cursor : Nat} {statements : List Node}
    (hcursor : IsCut reading.source cursor)
    (hbehind : ∀ statement ∈ statements, cursor ≤ statement.start)
    (hordered : statements.Pairwise fun first second => first.stop ≤ second.start)
    (hranges : ∀ statement ∈ statements, ∀ part ∈ statement.preorder,
      (reading.text? part).isSome) :
    missingOver (statementEvents reading cursor statements) = 0 := by
  have hcuts : ∀ statement ∈ statements,
      IsCut reading.source statement.start ∧ IsCut reading.source statement.stop :=
    fun statement hstatement => ((Text.isSome_slice? _ _ _).1
      (hranges statement hstatement statement statement.mem_preorder_self)).2
  fun_induction statementEvents reading cursor statements with
  | case1 => rfl
  | case2 cursor last =>
    obtain ⟨hstart, hstop⟩ := hcuts last (by simp)
    refine missing_component (hranges last (by simp)) ?_ ?_
    · exact (Text.isSome_slice? _ _ _).2 ⟨hbehind last (by simp), hcursor, hstart⟩
    · exact (Text.isSome_slice? _ _ _).2
        ⟨hstop.le_utf8ByteSize, hstop, String.Pos.Raw.isValid_rawEndPos⟩
  | case3 cursor statement rest _ ih =>
    obtain ⟨hstart, hstop⟩ := hcuts statement (by simp)
    obtain ⟨hnext, hrest⟩ := List.pairwise_cons.1 hordered
    rw [missingOver_append, ih hstop hnext hrest
      (fun node hnode => hranges node (List.mem_cons_of_mem _ hnode))
      (fun node hnode => hcuts node (List.mem_cons_of_mem _ hnode)), Nat.add_zero]
    refine missing_component (hranges statement (by simp)) ?_ rfl
    exact (Text.isSome_slice? _ _ _).2 ⟨hbehind statement (by simp), hcursor, hstart⟩

end Recorder

/-- The text that components make up does not depend on their names. -/
theorem Findings.reconstruct_eq_of_unnamed {first second : Findings}
    (h : first.components.map Component.unnamed = second.components.map Component.unnamed) :
    first.reconstruct = second.reconstruct := by
  have hsegments (findings : Findings) : findings.reconstruct = Segment.join
      (((findings.components.map Component.unnamed).filter (·.parent.isNone)).map (·.segment)) := by
    rw [List.filter_map, List.map_map]
    rfl
  rw [hsegments, hsegments, h]

namespace Extraction

variable {path source : String} {tree : Syntax.Tree} {recordReads : Bool}

theorem missingSegments_staged :
    (staged path source tree recordReads).missingSegments =
      Recorder.missingOver (moduleEvents ⟨source, tree.lines⟩ tree.root) :=
  (Recorder.missingSegments_run recordReads {} _).trans (Nat.zero_add _)

/-- An extraction of which nothing is missing makes up the whole text. -/
theorem reconstruct_staged (h : (staged path source tree recordReads).missingSegments = 0) :
    (staged path source tree recordReads).reconstruct = source := by
  rw [missingSegments_staged] at h
  change (Recorder.run recordReads {}
    (moduleEvents ⟨source, tree.lines⟩ tree.root)).findings.reconstruct = source
  unfold moduleEvents at h ⊢
  split at h
  · split at h
    · rename_i hempty
      have hsource : source = "" := String.isEmpty_iff.1 hempty
      rw [if_pos hempty, hsource]
      rfl
    · -- The only component is the whole file: a gap, the root and the text behind it.
      rename_i hempty
      rw [if_neg hempty]
      have hopening : Recorder.missingIn (moduleOpening ⟨source, tree.lines⟩ tree.root) = 0 := h
      rw [Recorder.missingIn_eq_zero] at hopening
      obtain ⟨leading, hleading⟩ := Option.isSome_iff_exists.1 hopening.1
      obtain ⟨text, htext⟩ := Option.isSome_iff_exists.1 hopening.2.1
      obtain ⟨trailing, htrailing⟩ := Option.isSome_iff_exists.1 hopening.2.2
      have hall := Text.slice?_append (Text.slice?_append hleading htext) htrailing
      rw [Text.slice?_full, Option.some.injEq] at hall
      have heq :
          (Recorder.run recordReads {} [.enter (moduleOpening ⟨source, tree.lines⟩ tree.root),
            .leave]).findings.reconstruct = Segment.join [(Recorder.componentOf
              (moduleOpening ⟨source, tree.lines⟩ tree.root) none).segment] := rfl
      rw [heq, Segment.join_singleton, Recorder.componentOf, Segment.assembled, hleading, htext,
        htrailing]
      exact hall.symm
  · rename_i hstatements
    exact Recorder.reconstruct_run_statements rfl recordReads hstatements
      (Text.slice?_zero source) h

/-- Nothing is missing from a text that the tree fits. -/
theorem missingSegments_staged_of_fits (h : tree.root.Fits source) :
    (staged path source tree recordReads).missingSegments = 0 := by
  have htexts : ∀ node ∈ tree.root.preorder, (node.text? source).isSome :=
    fun node hnode => (Text.isSome_slice? _ _ _).2 (h.ranges node hnode)
  rw [missingSegments_staged]
  unfold moduleEvents
  split
  · split
    · rfl
    · obtain ⟨_, hstart, hstop⟩ := h.ranges tree.root tree.root.mem_preorder_self
      refine (Recorder.missingIn_eq_zero _).2 ⟨?_, htexts tree.root tree.root.mem_preorder_self, ?_⟩
      · exact (Text.isSome_slice? _ _ _).2 ⟨Nat.zero_le _, String.Pos.Raw.isValid_zero, hstart⟩
      · exact (Text.isSome_slice? _ _ _).2
          ⟨hstop.le_utf8ByteSize, hstop, String.Pos.Raw.isValid_rawEndPos⟩
  · refine Recorder.missing_statements String.Pos.Raw.isValid_zero (fun _ _ => Nat.zero_le _)
      h.ordered fun statement hstatement part hpart => htexts part ?_
    exact Node.mem_preorder_of_child (Node.mem_children_of_mem_namedChildren hstatement) hpart

/-- Giving names changes neither the text that an extraction makes up nor what is missing. -/
theorem reconstruct_named {extraction result : Extraction} {policy : DuplicatePolicy}
    (h : extraction.named policy = .ok result) :
    result.missingSegments = extraction.missingSegments ∧
      result.reconstruct = extraction.reconstruct := by
  obtain ⟨_, hunnamed, heq⟩ := named_ok h
  exact ⟨by rw [heq], Findings.reconstruct_eq_of_unnamed hunnamed⟩

/-- Extraction loses nothing: if no text is missing, the components at top level make up the
source, with names given or not, and no text is missing if the tree fits the source. -/
theorem lossless (path source : String) (tree : Syntax.Tree) (options : ExtractOptions) :
    ((staged path source tree options.recordReads).missingSegments = 0 →
      (staged path source tree options.recordReads).reconstruct = source ∧
        ∀ result, (staged path source tree options.recordReads).named options.duplicateNames =
          .ok result → result.missingSegments = 0 ∧ result.reconstruct = source) ∧
      (tree.root.Fits source →
        (staged path source tree options.recordReads).missingSegments = 0 ∧
          (staged path source tree options.recordReads).reconstruct = source) := by
  constructor
  · intro hmissing
    refine ⟨reconstruct_staged hmissing, fun result hresult => ?_⟩
    obtain ⟨hsame, htext⟩ := reconstruct_named hresult
    exact ⟨hsame.trans hmissing, htext.trans (reconstruct_staged hmissing)⟩
  · intro hfits
    have hmissing : (staged path source tree options.recordReads).missingSegments = 0 :=
      missingSegments_staged_of_fits hfits
    exact ⟨hmissing, reconstruct_staged hmissing⟩

/-- An assignment, a comment and a call, with letters of two bytes. -/
def accentedText : String :=
  "é = 1\n# ü\nf(é)\n"

/-- The tree of `accentedText`. -/
def accentedTree : Syntax.Tree where
  root := .mk { kind := "module", start := 0, stop := 18 } [
    .mk { kind := "expression_statement", start := 0, stop := 6 } [
      .mk { kind := "assignment", start := 0, stop := 6 } [
        .mk { kind := "identifier", role := some "left", start := 0, stop := 2 } [],
        .mk { kind := "=", named := false, start := 3, stop := 4 } [],
        .mk { kind := "integer", role := some "right", start := 5, stop := 6 } []]],
    .mk { kind := "comment", extra := true, start := 7, stop := 11 } [],
    .mk { kind := "expression_statement", start := 12, stop := 17 } [
      .mk { kind := "call", start := 12, stop := 17 } [
        .mk { kind := "identifier", role := some "function", start := 12, stop := 13 } [],
        .mk { kind := "argument_list", role := some "arguments", start := 13, stop := 17 } [
          .mk { kind := "identifier", start := 14, stop := 16 } []]]]]
  lines := .ofText accentedText

theorem fits_accented : accentedTree.root.Fits accentedText :=
  ⟨by decide, by decide⟩

/-- `accentedText` is extracted, and none of it is missing. -/
theorem extract_accented :
    ∃ extraction, extract "a.py" accentedText accentedTree {} = .ok extraction ∧
      extraction.missingSegments = 0 := by
  obtain ⟨extraction, hextract⟩ :
      ∃ extraction, extract "a.py" accentedText accentedTree {} = .ok extraction :=
    exists_extract rfl (by decide)
  refine ⟨extraction, hextract, ?_⟩
  rw [(reconstruct_named (extract_ok hextract).2).1]
  exact missingSegments_staged_of_fits fits_accented

theorem lossless_accented :
    (staged "a.py" accentedText accentedTree true).missingSegments = 0 ∧
      ∃ result, (staged "a.py" accentedText accentedTree true).named .suffix = .ok result ∧
        result.reconstruct = accentedText := by
  obtain ⟨hlossless, hfit⟩ := lossless "a.py" accentedText accentedTree ⟨.suffix, true⟩
  refine ⟨(hfit fits_accented).1, ?_⟩
  cases hresult : (staged "a.py" accentedText accentedTree true).named .suffix with
  | ok result => exact ⟨result, rfl, ((hlossless (hfit fits_accented).1).2 result hresult).2⟩
  | error failure => exact absurd (named_error hresult).1 (by decide)

end Extraction

end SourceLedger
