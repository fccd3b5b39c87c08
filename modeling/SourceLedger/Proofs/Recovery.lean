import SourceLedger.Proofs.Tiling

/-!
# What is recovered of a text

A tree need not fit the text that its nodes are read from. Where a range of bytes cannot be cut out
of the text, an empty text is stored in its place, and counted as missing. So what is stored can be
told from the ranges of the components: every component has the text of its own range, those at top
level have the gaps between them as well, and what is counted is how many of all these are no ranges
of the text.

## Main definitions

* `Text.IsRange` says which ranges can be cut out, and `Text.IsPiece` what is stored for a range.
* `Findings.IsAccounted` says what is stored and counted.

## Main statements

* `Recorder.exists_inner` and `Recorder.exists_statements` carry the account along a run.
* `Extraction.unrecoverable_counted` gives it for every tree and every text.
-/

namespace SourceLedger

open Outline (Event Gaps Nested Opening Reading component moduleEvents moduleOpening openingOf
  statementEvents)
open Syntax (Node)

namespace Text

/-- The offsets are in order, inside the text and between characters. -/
def IsRange (source : String) (start stop : Nat) : Prop :=
  start ≤ stop ∧ stop ≤ source.utf8ByteSize ∧ IsCut source start ∧ IsCut source stop

instance (source : String) (start stop : Nat) : Decidable (IsRange source start stop) :=
  inferInstanceAs (Decidable (_ ∧ _))

theorem isSome_slice?_iff_isRange {source : String} {start stop : Nat} :
    (slice? source start stop).isSome ↔ IsRange source start stop := by
  rw [isSome_slice?]
  constructor
  · rintro ⟨hle, hstart, hstop⟩
    exact ⟨hle, hstop.le_utf8ByteSize, hstart, hstop⟩
  · rintro ⟨hle, _, hstart, hstop⟩
    exact ⟨hle, hstart, hstop⟩

/-- What is stored for a range: the bytes of the range, or nothing if it is none of the text. -/
def IsPiece (source : String) (start stop : Nat) (piece : String) : Prop :=
  if IsRange source start stop then piece.toByteArray = source.toByteArray.extract start stop
  else piece = ""

theorem isPiece_slice? (source : String) (start stop : Nat) :
    IsPiece source start stop ((slice? source start stop).getD "") := by
  unfold IsPiece
  split
  · rename_i hrange
    obtain ⟨piece, hpiece⟩ := Option.isSome_iff_exists.1 (isSome_slice?_iff_isRange.2 hrange)
    rw [hpiece]
    exact toByteArray_of_slice? hpiece
  · rename_i hrange
    rw [← isSome_slice?_iff_isRange, Option.not_isSome_iff_eq_none] at hrange
    rw [hrange]
    rfl

/-- One text is missing for a range that is none of the text. -/
def missing (source : String) (range : Nat × Nat) : Bool :=
  !decide (IsRange source range.1 range.2)

theorem isNone_slice? (source : String) (start stop : Nat) :
    (slice? source start stop).isNone = missing source (start, stop) := by
  rw [missing, ← Option.not_isSome]
  refine congrArg _ (Bool.eq_iff_iff.2 ?_)
  rw [isSome_slice?_iff_isRange, decide_eq_true_iff]

end Text

/-- The range of a component. -/
def Component.range (component : Component) : Nat × Nat :=
  (component.start, component.stop)

/-- The range of a node. -/
def Syntax.Node.range (node : Node) : Nat × Nat :=
  (node.start, node.stop)

/-- The ranges between a cursor, some ranges and the end of a text. -/
def Text.gaps (source : String) : (cursor : Nat) → List (Nat × Nat) → List (Nat × Nat)
  | cursor, [] => [(cursor, source.utf8ByteSize)]
  | cursor, range :: rest => (cursor, range.1) :: gaps source range.2 rest

/-- Each component owns the gap in front of it, and the last one also the rest of the text. -/
def OwnGaps (source : String) : (cursor : Nat) → List Component → Prop
  | _, [] => True
  | cursor, component :: rest =>
    Text.IsPiece source cursor component.start component.segment.leading ∧
      (if rest.isEmpty then
        Text.IsPiece source component.stop source.utf8ByteSize component.segment.trailing
      else component.segment.trailing = "") ∧
      OwnGaps source component.stop rest

/-- A component stores the text of its range, with the digest of that text. -/
structure Component.IsStored (component : Component) (source : String) : Prop where
  text : Text.IsPiece source component.start component.stop component.segment.text
  contentHash : component.contentHash = digest component.segment.text
  below : component.parent.isSome →
    component.segment.leading = "" ∧ component.segment.trailing = ""

/-- The nodes that are components at top level: the statements of a file, or the whole file if it
has text but no statement. -/
def Outline.topNodes (source : String) (root : Node) : List Node :=
  if root.namedChildren.isEmpty then if source.isEmpty then [] else [root] else root.namedChildren

/-- The components at top level. -/
def Component.outer (components : List Component) : List Component :=
  components.filter (·.parent.isNone)

/-- Some nodes have their components, and these the texts of their ranges and of the gaps behind a
cursor. What is counted are the ranges and the gaps that are none of the text. -/
structure Accounts (source : String) (cursor : Nat) (nodes : List Node)
    (components : List Component) (count : Nat) : Prop where
  top : (Component.outer components).map (·.range) = nodes.map (·.range)
  stored : ∀ component ∈ components, component.IsStored source
  gaps : OwnGaps source cursor (Component.outer components)
  count : count = (components.map (·.range)).countP (Text.missing source) +
    (Text.gaps source cursor (nodes.map (·.range))).countP (Text.missing source)

/-- All texts that are stored are those of their ranges, and all that are missing are counted. -/
def Findings.IsAccounted (findings : Findings) (source : String) (root : Node) : Prop :=
  Accounts source 0 (Outline.topNodes source root) findings.components findings.missingSegments

namespace Recorder

variable {recorder : Recorder} {reading : Reading}

theorem isStored_componentOf {node : Node} {gaps : Gaps} {parent : Option Frame}
    (h : parent.isSome → gaps = .empty) :
    (componentOf (openingOf reading gaps node) parent).IsStored reading.source where
  text := Text.isPiece_slice? ..
  contentHash := rfl
  below hparent := by
    obtain rfl := h (by simpa [componentOf] using hparent)
    exact ⟨rfl, rfl⟩

/-- The text of the component itself is missing, or a gap of it. -/
theorem missingIn_openingOf (gaps : Gaps) (node : Node) :
    missingIn (openingOf reading gaps node) =
      (if Text.missing reading.source node.range then 1 else 0) +
        [gaps.leading, gaps.trailing].countP Option.isNone := by
  have htext : (openingOf reading gaps node).text.isNone =
      Text.missing reading.source node.range := Text.isNone_slice? ..
  have hleading : (openingOf reading gaps node).leading = gaps.leading := rfl
  have htrailing : (openingOf reading gaps node).trailing = gaps.trailing := rfl
  simp only [missingIn, List.countP_cons, List.countP_nil, htext, hleading, htrailing]
  omega

theorem missingOver_enter (opening : Opening) (inside rest : List Event) :
    missingOver (.enter opening :: (inside ++ .leave :: rest)) =
      missingIn opening + missingOver inside + missingOver rest := by
  rw [missingOver, missingOver_append, missingOver, ← Nat.add_assoc]
  change _ + (0 + _) = _
  rw [Nat.zero_add]
  rfl

/-- A nested stretch adds components that store their texts, and misses as many texts as there are
components whose range is none of the text. -/
theorem exists_inner {root : Node} {low high : Nat} {events : List Event}
    (h : Nested reading root low high events) (recordReads : Bool) (hstack : recorder.stack ≠ []) :
    ∃ new, (recorder.run recordReads events).findings.components =
        recorder.findings.components ++ new ∧
      (∀ component ∈ new, component.IsStored reading.source ∧ component.parent.isSome) ∧
      missingOver events = (new.map (·.range)).countP (Text.missing reading.source) := by
  induction h generalizing recorder with
  | nil => exact ⟨[], by simp [run], by simp, rfl⟩
  | @plain _ _ event _ hplain _ ih =>
    have hnotes := recorder.notes_step recordReads hplain
    obtain ⟨new, hnew, hstored, hmissing⟩ := ih (hnotes.extends.stack_ne_nil hstack)
    refine ⟨new, ?_, hstored, ?_⟩
    · rw [run_cons, hnew, hnotes.components]
    · rw [missingOver, hmissing]
      cases event <;> simp_all [missingAt, Event.isPlain]
  | @decorate _ _ decorator _ _ _ ih =>
    have hsame : (recorder.step recordReads (.decorate decorator)).stack = recorder.stack ∧
        (recorder.step recordReads (.decorate decorator)).findings.components =
          recorder.findings.components := by
      simp only [step, addDecorator]
      split <;> exact ⟨rfl, rfl⟩
    obtain ⟨new, hnew, hstored, hmissing⟩ := ih (hsame.1 ▸ hstack)
    refine ⟨new, ?_, hstored, ?_⟩
    · rw [run_cons, hnew, hsame.2]
    · rw [missingOver, hmissing]
      exact Nat.zero_add _
  | @component _ _ _ part inside rest _ hinside _ ihinside ihrest =>
    have hopen := recorder.stack_openComponent_ne_nil (openingOf reading .empty part)
    have hclosed := Extends.ofComponent hstack (extends_run hinside recordReads hopen)
    obtain ⟨below, hbelow, hstored, hmissing⟩ := ihinside hopen
    obtain ⟨behind, hbehind, hstored', hmissing'⟩ := ihrest (hclosed.stack_ne_nil hstack)
    have hparent : recorder.stack.head?.isSome := List.isSome_head?.2 hstack
    refine ⟨componentOf (openingOf reading .empty part) recorder.stack.head? :: (below ++ behind),
      ?_, ?_, ?_⟩
    · rw [run_cons, run_append, run_cons]
      refine hbehind.trans ?_
      change (run recordReads (recorder.openComponent _) inside).findings.components ++ _ = _
      rw [hbelow, components_openComponent, List.append_assoc, List.append_assoc]
      rfl
    · intro component hcomponent
      rcases List.mem_cons.1 hcomponent with rfl | hcomponent
      · exact ⟨isStored_componentOf fun _ => rfl, by simpa [componentOf] using hparent⟩
      · exact (List.mem_append.1 hcomponent).elim (hstored component) (hstored' component)
    · have hempty : [Gaps.empty.leading, Gaps.empty.trailing].countP Option.isNone = 0 := rfl
      have hrange : (componentOf (openingOf reading .empty part) recorder.stack.head?).range =
          part.range := rfl
      rw [missingOver_enter, missingIn_openingOf, hempty, hmissing, hmissing', List.map_cons,
        List.map_append, List.countP_cons, List.countP_append, hrange]
      omega

/-- A statement at top level adds its own component with its gaps, and others below it. -/
theorem exists_statement (hstack : recorder.stack = []) (reading : Reading) (recordReads : Bool)
    (gaps : Gaps) (node : Node) :
    ∃ below, (recorder.run recordReads (component reading gaps node)).findings.components =
        recorder.findings.components ++ componentOf (openingOf reading gaps node) none :: below ∧
      (∀ component ∈ below, component.IsStored reading.source ∧ component.parent.isSome) ∧
      missingOver (component reading gaps node) =
        (node.range :: below.map (·.range)).countP (Text.missing reading.source) +
          [gaps.leading, gaps.trailing].countP Option.isNone := by
  obtain ⟨count, inside, heq, hinside⟩ := Outline.component_eq_nested reading gaps node
  have hopen := recorder.stack_openComponent_ne_nil (openingOf reading gaps node)
  obtain ⟨below, hbelow, hstored, hmissing⟩ := exists_inner hinside recordReads hopen
  refine ⟨below, ?_, hstored, ?_⟩
  · rw [heq, run_cons, run_append]
    change (run recordReads (recorder.openComponent _) inside).findings.components = _
    rw [hbelow, components_openComponent, hstack, List.append_assoc]
    rfl
  · have hnone : missingOver [] = 0 := rfl
    rw [heq, missingOver_enter, missingIn_openingOf, hmissing, hnone,
      List.countP_cons (p := Text.missing reading.source)]
    omega

/-- A statement stands first among the components that it adds. -/
theorem outer_cons (first : Component) {below : List Component} (hfirst : first.parent = none)
    (hbelow : ∀ component ∈ below, component.parent.isSome) (rest : List Component) :
    Component.outer (first :: (below ++ rest)) = first :: Component.outer rest := by
  have hnone : below.filter (·.parent.isNone) = [] :=
    List.filter_eq_nil_iff.2 fun component hcomponent => by
      simpa [Option.isSome_iff_ne_none] using hbelow component hcomponent
  rw [Component.outer, List.filter_cons_of_pos (by simp [hfirst]), List.filter_append, hnone]
  rfl

/-- Statements at top level account for themselves and for what is behind the cursor. -/
theorem exists_statements (hstack : recorder.stack = []) (reading : Reading) (recordReads : Bool)
    (cursor : Nat) {statements : List Node} (hstatements : statements ≠ []) :
    ∃ new,
      (recorder.run recordReads (statementEvents reading cursor statements)).findings.components =
        recorder.findings.components ++ new ∧
      Accounts reading.source cursor statements new
        (missingOver (statementEvents reading cursor statements)) := by
  fun_induction statementEvents reading cursor statements generalizing recorder with
  | case1 => exact absurd rfl hstatements
  | case2 cursor last =>
    let gaps : Gaps := ⟨Text.slice? reading.source cursor last.start,
      Text.slice? reading.source last.stop reading.source.utf8ByteSize⟩
    obtain ⟨below, hnew, hbelow, hmissing⟩ :=
      exists_statement hstack reading recordReads gaps last
    have houter := outer_cons (componentOf (openingOf reading gaps last) none) rfl
      (fun component hcomponent => (hbelow component hcomponent).2) []
    rw [List.append_nil] at houter
    refine ⟨_, hnew, ?_, ?_, ?_, ?_⟩
    · rw [houter]
      rfl
    · exact List.forall_mem_cons.2 ⟨isStored_componentOf (by simp), fun c hc => (hbelow c hc).1⟩
    · rw [houter]
      exact ⟨Text.isPiece_slice? .., Text.isPiece_slice? .., trivial⟩
    · rw [hmissing]
      refine congrArg _ ?_
      simp only [gaps, List.countP_cons, List.countP_nil, Text.isNone_slice?, List.map_cons,
        List.map_nil, Text.gaps, Node.range]
  | case3 cursor statement rest hrest ih =>
    let gaps : Gaps := ⟨Text.slice? reading.source cursor statement.start, some ""⟩
    obtain ⟨below, hnew, hbelow, hmissing⟩ :=
      exists_statement hstack reading recordReads gaps statement
    obtain ⟨more, hmore, haccounts⟩ :=
      ih (run_component hstack recordReads reading gaps statement).1 hrest
    have houter := outer_cons (componentOf (openingOf reading gaps statement) none) rfl
      (fun component hcomponent => (hbelow component hcomponent).2) more
    refine ⟨componentOf (openingOf reading gaps statement) none :: (below ++ more), ?_, ?_, ?_, ?_,
      ?_⟩
    · rw [run_append, hmore, hnew, List.append_assoc]
      rfl
    · rw [houter, List.map_cons, haccounts.top]
      rfl
    · refine List.forall_mem_cons.2 ⟨isStored_componentOf (by simp), fun component hcomponent => ?_⟩
      exact (List.mem_append.1 hcomponent).elim (fun h => (hbelow component h).1)
        (haccounts.stored component)
    · rw [houter]
      have hne : (Component.outer more).isEmpty = false := by
        have hlength := congrArg List.length haccounts.top
        rw [List.length_map, List.length_map] at hlength
        rw [List.isEmpty_eq_false_iff, ← List.length_pos_iff, hlength]
        exact List.length_pos_iff.2 hrest
      refine ⟨Text.isPiece_slice? .., ?_, haccounts.gaps⟩
      rw [hne]
      rfl
    · rw [missingOver_append, hmissing, haccounts.count]
      have htrailing : [gaps.leading, gaps.trailing].countP Option.isNone =
          [(cursor, statement.start)].countP (Text.missing reading.source) := by
        simp only [gaps, List.countP_cons, List.countP_nil, Text.isNone_slice?]
        rfl
      have hrange : (componentOf (openingOf reading gaps statement) none).range =
          statement.range := rfl
      have hgaps : Text.gaps reading.source cursor ((statement :: rest).map (·.range)) =
          [(cursor, statement.start)] ++
            Text.gaps reading.source statement.stop (rest.map (·.range)) := rfl
      rw [htrailing, hgaps, List.countP_append, List.map_cons, hrange, List.map_append,
        ← List.cons_append, List.countP_append]
      omega

/-- A file without statements accounts for itself and for what is around its root. -/
theorem accounts_moduleOpening (reading : Reading) (root : Node) (recordReads : Bool) :
    Accounts reading.source 0 [root] (Recorder.run recordReads {}
        [.enter (moduleOpening reading root), .leave]).findings.components
      (missingOver [.enter (moduleOpening reading root), .leave]) := by
  have hcomponents : (Recorder.run recordReads {}
      [.enter (moduleOpening reading root), .leave]).findings.components =
        [componentOf (moduleOpening reading root) none] := rfl
  rw [hcomponents]
  refine ⟨rfl, ?_, ?_, ?_⟩
  · refine List.forall_mem_singleton.2 ⟨Text.isPiece_slice? .., rfl, fun hparent => ?_⟩
    simp [componentOf] at hparent
  · exact ⟨Text.isPiece_slice? .., Text.isPiece_slice? .., trivial⟩
  · have hrange : (componentOf (moduleOpening reading root) none).range = root.range := rfl
    have hopening : missingOver [.enter (moduleOpening reading root), .leave] =
        missingIn (moduleOpening reading root) := rfl
    have htext : (moduleOpening reading root).text.isNone =
        Text.missing reading.source root.range := Text.isNone_slice? ..
    have hleading : (moduleOpening reading root).leading.isNone =
        Text.missing reading.source (0, root.start) := Text.isNone_slice? ..
    have htrailing : (moduleOpening reading root).trailing.isNone =
        Text.missing reading.source (root.stop, reading.source.utf8ByteSize) :=
      Text.isNone_slice? ..
    have hgaps : Text.gaps reading.source 0 ([root].map (·.range)) =
        [(0, root.start), (root.stop, reading.source.utf8ByteSize)] := rfl
    rw [hopening, hgaps, missingIn]
    simp only [List.countP_cons, List.countP_nil, List.map_cons, List.map_nil, hrange, htext,
      hleading, htrailing]
    omega

end Recorder

theorem Component.outer_map_unnamed (components : List Component) :
    Component.outer (components.map Component.unnamed) =
      (Component.outer components).map Component.unnamed :=
  List.filter_map

theorem ownGaps_map_unnamed {source : String} {cursor : Nat} {components : List Component} :
    OwnGaps source cursor (components.map Component.unnamed) ↔
      OwnGaps source cursor components := by
  induction components generalizing cursor with
  | nil => rfl
  | cons component rest ih =>
    rw [List.map_cons, OwnGaps, OwnGaps, List.isEmpty_map, ih]
    rfl

/-- The account does not depend on names. -/
theorem Accounts.map_unnamed {source : String} {cursor : Nat} {nodes : List Node}
    {components : List Component} {count : Nat} :
    Accounts source cursor nodes (components.map Component.unnamed) count ↔
      Accounts source cursor nodes components count := by
  have hrange (row : List Component) :
      (row.map Component.unnamed).map (·.range) = row.map (·.range) := by
    rw [List.map_map]
    rfl
  have hstored : (∀ component ∈ components.map Component.unnamed, component.IsStored source) ↔
      ∀ component ∈ components, component.IsStored source := by
    rw [List.forall_mem_map]
    refine forall_congr' fun component => forall_congr' fun _ => ?_
    exact ⟨fun h => ⟨h.text, h.contentHash, h.below⟩, fun h => ⟨h.text, h.contentHash, h.below⟩⟩
  constructor
  · rintro ⟨htop, hall, hgaps, hcount⟩
    rw [Component.outer_map_unnamed] at htop hgaps
    rw [hrange] at htop hcount
    exact ⟨htop, hstored.1 hall, ownGaps_map_unnamed.1 hgaps, hcount⟩
  · rintro ⟨htop, hall, hgaps, hcount⟩
    refine ⟨?_, hstored.2 hall, ?_, ?_⟩
    · rw [Component.outer_map_unnamed, hrange, htop]
    · rw [Component.outer_map_unnamed]
      exact ownGaps_map_unnamed.2 hgaps
    · rw [hrange, hcount]

namespace Extraction

variable {path source : String} {tree : Syntax.Tree} {recordReads : Bool}

/-- What is taken from a text accounts for it. -/
theorem isAccounted_staged :
    (staged path source tree recordReads).IsAccounted source tree.root := by
  have hmissing : (staged path source tree recordReads).missingSegments = _ :=
    missingSegments_staged
  have hcomponents : (staged path source tree recordReads).components = (Recorder.run recordReads {}
    (moduleEvents ⟨source, tree.lines⟩ tree.root)).findings.components := rfl
  rw [Findings.IsAccounted, hmissing, hcomponents]
  unfold moduleEvents
  split
  · rename_i hnone
    rw [Outline.topNodes, hnone, if_pos List.isEmpty_nil]
    split
    · rename_i hempty
      obtain rfl := String.isEmpty_iff.1 hempty
      have hgap : (Text.gaps "" 0 []).countP (Text.missing "") = 0 := by decide
      exact ⟨rfl, by simp [Recorder.run], trivial, ((Nat.zero_add _).trans hgap).symm⟩
    · exact Recorder.accounts_moduleOpening ⟨source, tree.lines⟩ tree.root recordReads
  · rename_i hstatements
    have hempty : ({} : Recorder).stack = [] := rfl
    obtain ⟨new, hnew, haccounts⟩ := Recorder.exists_statements hempty ⟨source, tree.lines⟩
      recordReads 0 hstatements
    have hall : (Recorder.run recordReads {} (statementEvents ⟨source, tree.lines⟩ 0
        tree.root.namedChildren)).findings.components = new := hnew
    rw [hall, Outline.topNodes, if_neg (by simpa using hstatements)]
    exact haccounts

/-- Every component has the text of its range, or none if the range is none of the text, and the
digest of what it has. The components at top level have the gaps around them in the same way, and
the others have none. The count of what is missing is that of the ranges and the gaps that are none
of the text. All this holds for whatever tree a text is read with, with names given or not. -/
theorem unrecoverable_counted (path source : String) (tree : Syntax.Tree)
    (options : ExtractOptions) :
    (staged path source tree options.recordReads).IsAccounted source tree.root ∧
      ∀ result, (staged path source tree options.recordReads).named options.duplicateNames =
        .ok result → result.IsAccounted source tree.root := by
  have haccounted (extraction : Extraction)
      (htaken : extraction.IsTaken path source tree options.recordReads) :
      extraction.IsAccounted source tree.root := by
    have hmissing : extraction.missingSegments =
        (staged path source tree options.recordReads).missingSegments := by rw [htaken.rest]
    rw [Findings.IsAccounted, hmissing, ← Accounts.map_unnamed, htaken.components,
      Accounts.map_unnamed]
    exact isAccounted_staged
  exact forall_isTaken haccounted _

/-- An assignment with a letter of two bytes. -/
def misfitText : String :=
  "é = 1\n"

/-- A tree that does not fit `misfitText`: a function behind the end, and a statement that ends in
the middle of a letter, behind one that ends later. -/
def misfitTree : Syntax.Tree where
  root := .mk { kind := "module", start := 0, stop := 7 } [
    .mk { kind := "if_statement", start := 0, stop := 3 } [
      .mk { kind := "function_definition", start := 9, stop := 30 } []],
    .mk { kind := "pass_statement", start := 1, stop := 2 } []]
  lines := .ofText misfitText

theorem unrecoverable_counted_misfit :
    ∃ result, (staged "a.py" misfitText misfitTree true).named .suffix = .ok result ∧
      result.IsAccounted misfitText misfitTree.root ∧ result.missingSegments = 3 := by
  cases hresult : (staged "a.py" misfitText misfitTree true).named .suffix with
  | error failure => exact absurd (named_error hresult).1 (by decide)
  | ok result =>
    refine ⟨result, rfl,
      (unrecoverable_counted "a.py" misfitText misfitTree {}).2 result hresult, ?_⟩
    have hmissing : (staged "a.py" misfitText misfitTree true).missingSegments = 3 := by
      decide +kernel
    obtain ⟨_, _, heq⟩ := named_ok hresult
    rw [heq]
    exact hmissing

end Extraction

end SourceLedger
