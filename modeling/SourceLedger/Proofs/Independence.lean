import SourceLedger.Proofs.Reading

/-!
# Extractions do not depend on layout

Two alike trees are read step by step. A step at a node looks at the node, and goes on to children
that correspond in both trees, so that the events are the same up to lines, positions and raw texts.
Following the events and giving names use none of these. Texts that differ in comments and layout
only therefore have the same components and facts up to where they stand.

## Main statements

* `MatchesBelow.visit`, `MatchesBelow.contents`, `MatchesBelow.componentAt`, `MatchesBelow.walkAt`
  and `MatchesBelow.bindAt` take one step each, and `matchesBelow` puts them together.
* `Extraction.layout_independent` is the result for whole extractions.
-/

namespace SourceLedger.Outline

open Syntax (Node Construct)

/-- Events that differ in layout only. -/
def Matches (events events' : List Event) : Prop :=
  events.map Event.withoutLayout = events'.map Event.withoutLayout

namespace Matches

variable {events events' others others' : List Event}

theorem nil : Matches [] [] :=
  rfl

theorem cons {event event' : Event} (hevent : event.withoutLayout = event'.withoutLayout)
    (h : Matches events events') : Matches (event :: events) (event' :: events') :=
  congrArg₂ List.cons hevent h

theorem append (h : Matches events events') (hothers : Matches others others') :
    Matches (events ++ others) (events' ++ others') := by
  unfold Matches at h hothers ⊢
  rw [List.map_append, List.map_append, h, hothers]

theorem flatMap {α β : Type} {R : α → β → Prop} {xs : List α} {ys : List β}
    (h : List.Forall₂ R xs ys) {f : α → List Event} {g : β → List Event}
    (hfg : ∀ x ∈ xs, ∀ y, R x y → Matches (f x) (g y)) :
    Matches (xs.flatMap f) (ys.flatMap g) := by
  induction h with
  | nil => exact .nil
  | @cons x y xs ys hxy _ ih =>
    rw [List.flatMap_cons, List.flatMap_cons]
    exact (hfg x (by simp) y hxy).append (ih fun x hx => hfg x (List.mem_cons_of_mem _ hx))

end Matches

namespace Twins

variable {reading reading' : Reading} {x y : Node}

theorem text?_eq (h : Twins reading reading' x y) (hidentifier : x.construct = .identifier) :
    reading.text? x = reading'.text? y :=
  h.same.text (by simp [isReadRaw, hidentifier])

theorem callEvents (h : Twins reading reading' x y) :
    Matches (callEvents reading x) (callEvents reading' y) := by
  unfold Outline.callEvents
  rw [h.compactChild?_eq "function"]
  split
  · rfl
  · rfl

theorem mentionEvents (h : Twins reading reading' x y) (hidentifier : x.construct = .identifier) :
    Matches (mentionEvents reading x) (mentionEvents reading' y) := by
  unfold Outline.mentionEvents
  rw [h.text?_eq hidentifier]
  split
  · rfl
  · rfl

theorem bindEvents (h : Twins reading reading' x y) (hidentifier : x.construct = .identifier)
    (access : AccessKind) (typeText : Option String) :
    Matches (bindEvents reading access typeText x) (bindEvents reading' access typeText y) := by
  unfold Outline.bindEvents
  rw [h.text?_eq hidentifier]
  split
  · rfl
  · rfl

theorem declareEvents_eq (h : Twins reading reading' x y) (declare : String → Event) :
    declareEvents reading declare x = declareEvents reading' declare y := by
  have hidentifiers := forall₂_filter h.namedChildren (p := (·.construct == .identifier))
    (q := (·.construct == .identifier)) fun _ _ hchild => by rw [construct_eq hchild]
  have htexts : (x.namedChildren.filter (·.construct == .identifier)).map reading.text? =
      (y.namedChildren.filter (·.construct == .identifier)).map reading'.text? := by
    refine map_eq_of_forall₂ hidentifiers fun child hchild other hlike => text?_eq hlike ?_
    simpa using (List.mem_filter.1 hchild).2
  have hfound := congrArg (List.filterMap id) htexts
  rw [List.filterMap_map, List.filterMap_map] at hfound
  exact congrArg (List.map declare) hfound

theorem importEvents (h : Twins reading reading' x y) :
    Matches ((importRecords reading x).map .imports) ((importRecords reading' y).map .imports) := by
  have hrecords := congrArg (List.map Event.imports) h.importRecords_eq
  unfold Matches
  rw [List.map_map, List.map_map] at hrecords ⊢
  exact hrecords

theorem decoratorEvent_eq (h : Twins reading reading' x y) (position : Nat)
    (decorator decorator' : Node) :
    (decoratorEvent reading position decorator x).withoutLayout =
      (decoratorEvent reading' position decorator' y).withoutLayout := by
  have hcallee := compact_eq (rel_getD (h.child? "function") h)
  unfold decoratorEvent
  rw [h.construct_eq]
  split
  · simp only [Event.withoutLayout, Decorator.withoutLayout, hcallee]
  · simp only [Event.withoutLayout, Decorator.withoutLayout, h.compact_eq]

theorem parametersOf (h : Twins reading reading' x y) :
    List.Forall₂ (Twins reading reading') (parametersOf x) (parametersOf y) :=
  List.rel_flatMap (h.firstIn "parameters") fun _ _ hrow => namedChildren hrow

theorem parameterDefault (h : Twins reading reading' x y) :
    List.Forall₂ (Twins reading reading') (parameterDefault x) (parameterDefault y) := by
  unfold Outline.parameterDefault
  rw [← h.construct_eq]
  cases x.construct with
  | defaultParameter => exact h.firstIn "value"
  | typedDefaultParameter => exact h.firstIn "value"
  | _ => exact .nil

theorem parameterEvents (h : Twins reading reading' x y)
    (hbound : boundText? reading.source x = boundText? reading'.source y) :
    Matches (parameterEvents reading x) (parameterEvents reading' y) := by
  have htype : (parameterType? x).map reading.compact =
      (parameterType? y).map reading'.compact := by
    unfold parameterType?
    rw [← h.construct_eq]
    cases x.construct with
    | typedParameter => exact h.compactChild?_eq "type"
    | typedDefaultParameter => exact h.compactChild?_eq "type"
    | _ => rfl
  have hname : (parameterName? x).bind reading.text? = (parameterName? y).bind reading'.text? :=
    hbound
  unfold Outline.parameterEvents
  rw [hname, htype]
  split
  · rfl
  · rfl

end Twins

theorem construct_of_function {node : Node} (h : Form.ofNode node = .function) :
    node.construct = .functionDefinition := by
  unfold Form.ofNode at h
  split at h
  · assumption
  · exact absurd h (by decide)
  iterate 3
    · exact absurd h (by decide)
  · split at h
    · exact absurd h (by decide)
    · exact absurd h (by decide)
  · exact absurd h (by decide)

theorem size_lt_of_mem_parametersOf {definition parameter : Node}
    (h : parameter ∈ parametersOf definition) : parameter.size < definition.size := by
  obtain ⟨row, hrow, hparameter⟩ := List.mem_flatMap.1 h
  have houter := Node.size_lt_of_mem_firstIn hrow
  have hinner := Node.size_lt_of_mem_namedChildren hparameter
  omega

theorem matches_decorations {reading reading' : Reading} {xs ys : List Node}
    (h : List.Forall₂ (Twins reading reading') xs ys)
    (hwalk : ∀ decorator ∈ xs, ∀ expression, decorator.firstNamed? = some expression →
      ∀ expression', Twins reading reading' expression expression' →
        Matches (walk reading expression) (walk reading' expression')) (first : Nat) :
    Matches (decorations reading first xs) (decorations reading' first ys) := by
  induction h generalizing first with
  | nil => exact .nil
  | @cons x y xs ys hxy _ ih =>
    rw [decorations, decorations, List.zipIdx_cons, List.zipIdx_cons, List.flatMap_cons,
      List.flatMap_cons, ← decorations, ← decorations]
    refine .append (.flatMap (forall₂_toList (Twins.firstNamed? hxy)) ?_)
      (ih (fun decorator hdecorator => hwalk decorator (List.mem_cons_of_mem _ hdecorator)) _)
    intro expression hexpression expression' htwins
    refine .cons (Twins.decoratorEvent_eq htwins first x y) ?_
    exact hwalk x (by simp) expression (Option.mem_toList.1 hexpression) expression' htwins

/-- Corresponding nodes of fewer than `bound` nodes have events that differ in layout only, however
they are read. -/
structure MatchesBelow (reading reading' : Reading) (bound : Nat) : Prop where
  walk : ∀ {x y : Node}, x.size < bound → Twins reading reading' x y →
    Matches (walk reading x) (walk reading' y)
  bind : ∀ {x y : Node}, x.size < bound → Twins reading reading' x y →
    ∀ access typeText, Matches (bind reading access typeText x) (bind reading' access typeText y)
  component : ∀ {x y : Node}, x.size < bound → Twins reading reading' x y →
    ∀ gaps gaps', Matches (component reading gaps x) (component reading' gaps' y)

namespace MatchesBelow

variable {reading reading' : Reading} {x y : Node}

theorem mono {bound lower : Nat} (h : MatchesBelow reading reading' bound) (hle : lower ≤ bound) :
    MatchesBelow reading reading' lower where
  walk := fun hsize => h.walk (by omega)
  bind := fun hsize => h.bind (by omega)
  component := fun hsize => h.component (by omega)

variable (ih : MatchesBelow reading reading' x.size) (h : Twins reading reading' x y)
include ih h

theorem walkIn (role : String) :
    Matches ((x.firstIn role).flatMap (Outline.walk reading))
      ((y.firstIn role).flatMap (Outline.walk reading')) :=
  .flatMap (h.firstIn role) fun _ hpart _ hlike => ih.walk (Node.size_lt_of_mem_firstIn hpart) hlike

theorem walkNamed :
    Matches (x.namedChildren.flatMap (Outline.walk reading))
      (y.namedChildren.flatMap (Outline.walk reading')) :=
  .flatMap h.namedChildren fun _ hpart _ hlike =>
    ih.walk (Node.size_lt_of_mem_namedChildren hpart) hlike

theorem bindIn (role : String) (access : AccessKind) (typeText : Option String) :
    Matches ((x.firstIn role).flatMap (Outline.bind reading access typeText))
      ((y.firstIn role).flatMap (Outline.bind reading' access typeText)) :=
  .flatMap (h.firstIn role) fun _ hpart _ hlike =>
    ih.bind (Node.size_lt_of_mem_firstIn hpart) hlike access typeText

theorem bindNamed (access : AccessKind) :
    Matches (x.namedChildren.flatMap (Outline.bind reading access none))
      (y.namedChildren.flatMap (Outline.bind reading' access none)) :=
  .flatMap h.namedChildren fun _ hpart _ hlike =>
    ih.bind (Node.size_lt_of_mem_namedChildren hpart) hlike access none

theorem visit : Matches (visit reading x) (visit reading' y) := by
  -- Both nodes have one construct, so the cases are those of the first.
  rw [Outline.visit, Outline.visit, ← h.construct_eq, h.compactChild?_eq "type"]
  simp only [List.flatMap_subtype, List.unattach_attach]
  cases hconstruct : x.construct with
  | call => exact .append h.callEvents (ih.walkNamed h)
  | assignment => exact .append (ih.walkIn h "right") (ih.bindIn h "left" ..)
  | augmentedAssignment => exact .append (ih.walkIn h "right") (ih.bindIn h "left" ..)
  | forStatement | forInClause =>
    refine .flatMap (h.namedChildrenMarking "left") ?_
    rintro part hpart other ⟨hmark, hlike⟩
    have hsize := Node.size_lt_of_mem_namedChildrenMarking hpart
    rw [← hmark]
    split
    · exact ih.bind hsize hlike ..
    · exact ih.walk hsize hlike
  | asPattern =>
    refine .flatMap (h.namedChildrenMarking "alias") ?_
    rintro part hpart other ⟨hmark, hlike⟩
    have hsize := Node.size_lt_of_mem_namedChildrenMarking hpart
    rw [← hmark, ← Twins.construct_eq hlike]
    split
    · exact ih.bind hsize hlike ..
    · exact ih.walk hsize hlike
  | namedExpression => exact .append (ih.walkIn h "value") (ih.bindIn h "name" ..)
  | deleteStatement => exact ih.bindNamed h .delete
  | globalStatement => exact congrArg _ (h.declareEvents_eq .declareGlobal)
  | nonlocalStatement => exact congrArg _ (h.declareEvents_eq .declareNonlocal)
  | importStatement | importFromStatement | futureImportStatement => exact h.importEvents
  | identifier => exact h.mentionEvents hconstruct
  | member => exact ih.walkIn h "object"
  | keywordArgument => exact ih.walkIn h "value"
  | lambda => exact ih.walkIn h "body"
  | _ => exact ih.walkNamed h

theorem contents : Matches (contents reading x) (contents reading' y) := by
  rw [Outline.contents, Outline.contents, ← h.form_eq, h.left, h.right]
  simp only [List.flatMap_subtype, List.unattach_attach]
  cases hform : Form.ofNode x with
  | function =>
    have hbound := h.same.parameters (construct_of_function hform)
    refine .append ?_ (ih.walkIn h "body")
    -- All parameters in one row, as the texts that they bind are compared.
    rw [← List.flatMap_assoc, ← List.flatMap_assoc]
    refine .flatMap (forall₂_of_map_eq h.parametersOf hbound) ?_
    rintro parameter hparameter other ⟨hlike, hname⟩
    refine .append (.flatMap (Twins.parameterDefault hlike) ?_) (Twins.parameterEvents hlike hname)
    intro value hvalue _ hdefault
    have houter := size_lt_of_mem_parametersOf hparameter
    have hinner := size_lt_of_mem_parameterDefault hvalue
    exact ih.walk (by omega) hdefault
  | classDef =>
    refine .append (ih.walkIn h "superclasses") (.flatMap (h.firstIn "body") ?_)
    intro body hbody _ hrow
    refine .flatMap (Twins.namedChildren hrow) fun statement hstatement other hlike => ?_
    have houter := Node.size_lt_of_mem_firstIn hbody
    have hinner := Node.size_lt_of_mem_namedChildren hstatement
    rw [← Twins.construct_eq hlike, ← Twins.isAssignmentStatement_eq hlike]
    split
    · exact ih.component (by omega) hlike ..
    · exact ih.walk (by omega) hlike
  | _ =>
    simp only [Bool.false_eq_true, if_false]
    exact ih.visit h

theorem componentAt (gaps gaps' : Gaps) :
    Matches (Outline.component reading gaps x) (Outline.component reading' gaps' y) := by
  rw [component_eq, component_eq]
  refine .cons (congrArg Event.enter (h.openingOf_eq gaps gaps')) (.append (.append ?_ ?_) rfl)
  · refine matches_decorations h.decoratorsOf ?_ 0
    intro decorator hdecorator expression hexpression expression' hlike
    have houter := size_lt_of_mem_decoratorsOf hdecorator
    have hinner := Node.size_lt_of_firstNamed? hexpression
    exact ih.walk (by omega) hlike
  · unfold insideEvents
    rw [← h.construct_eq]
    split
    · refine .flatMap (h.firstIn "definition") fun definition hdefinition other hlike => ?_
      have hsize := Node.size_lt_of_mem_firstIn hdefinition
      rw [← Twins.construct_eq hlike]
      split
      · exact ih.walk hsize hlike
      · exact (ih.mono (Nat.le_of_lt hsize)).contents hlike
    · exact ih.contents h

theorem walkAt : Matches (Outline.walk reading x) (Outline.walk reading' y) := by
  rw [Outline.walk, Outline.walk, h.left, h.right, ← h.construct_eq]
  simp only [Bool.false_eq_true, if_false]
  split
  · exact ih.componentAt h .empty .empty
  · exact ih.visit h

theorem bindAt (access : AccessKind) (typeText : Option String) :
    Matches (Outline.bind reading access typeText x) (Outline.bind reading' access typeText y) := by
  rw [Outline.bind, Outline.bind, ← h.construct_eq]
  simp only [List.flatMap_subtype, List.unattach_attach]
  cases hconstruct : x.construct with
  | identifier => exact h.bindEvents hconstruct access typeText
  | member => exact .cons (by simp only [Event.withoutLayout, h.compact_eq]) (ih.walkIn h "object")
  | subscript =>
    refine .append (.flatMap (h.firstIn "value") fun value hvalue _ hlike => ?_)
      (.flatMap (h.childrenIn "subscript") fun index hindex _ hlike => ?_)
    · refine .cons (by simp only [Event.withoutLayout, Twins.compact_eq hlike]) ?_
      exact ih.walk (Node.size_lt_of_mem_firstIn hvalue) hlike
    · exact ih.walk (Node.size_lt_of_mem_childrenIn hindex) hlike
  | targetGroup | listSplatPattern | asPatternTarget => exact ih.bindNamed h access
  | _ => exact ih.walkAt h

end MatchesBelow

/-- The steps put together, by induction on the number of nodes. -/
theorem matchesBelow (reading reading' : Reading) (bound : Nat) :
    MatchesBelow reading reading' bound := by
  induction bound with
  | zero =>
    exact ⟨fun hsize => absurd hsize (by omega), fun hsize => absurd hsize (by omega),
      fun hsize => absurd hsize (by omega)⟩
  | succ bound ih =>
    exact ⟨fun hsize h => (ih.mono (by omega)).walkAt h,
      fun hsize h => (ih.mono (by omega)).bindAt h,
      fun hsize h => (ih.mono (by omega)).componentAt h⟩

theorem matches_component {reading reading' : Reading} {x y : Node}
    (h : Twins reading reading' x y) (gaps gaps' : Gaps) :
    Matches (component reading gaps x) (component reading' gaps' y) :=
  (matchesBelow reading reading' (x.size + 1)).component (Nat.lt_succ_self _) h gaps gaps'

theorem matches_statementEvents {reading reading' : Reading} {xs ys : List Node}
    (h : List.Forall₂ (Twins reading reading') xs ys) (cursor cursor' : Nat) :
    Matches (statementEvents reading cursor xs) (statementEvents reading' cursor' ys) := by
  induction h generalizing cursor cursor' with
  | nil => exact .nil
  | cons hstatement hrest ih =>
    cases hrest with
    | nil => exact matches_component hstatement _ _
    | cons hnext hrest => exact .append (matches_component hstatement _ _) (ih _ _)

/-- Alike trees of texts that are not empty have events that differ in layout only. -/
theorem matches_moduleEvents {reading reading' : Reading} {x y : Node}
    (h : Node.Alike (SameReading reading.source reading'.source) x y)
    (hsource : reading.source ≠ "") (hsource' : reading'.source ≠ "") :
    Matches (moduleEvents reading x) (moduleEvents reading' y) := by
  have hstatements := h.namedChildren
  unfold moduleEvents
  generalize x.namedChildren = xs at hstatements
  generalize y.namedChildren = ys at hstatements
  cases hstatements with
  | nil =>
    have hopening : (moduleOpening reading x).withoutLayout =
        (moduleOpening reading' y).withoutLayout := by
      simp only [moduleOpening, Opening.withoutLayout, canonical_eq h]
    rw [if_neg (by simpa using hsource), if_neg (by simpa using hsource')]
    exact .cons (congrArg Event.enter hopening) rfl
  | cons hfirst hrest => exact matches_statementEvents (.cons hfirst hrest) 0 0

end SourceLedger.Outline

namespace SourceLedger.Extraction

open Outline (SameReading)
open Syntax (Node)

theorem staged_withoutLayout (path source : String) (tree : Syntax.Tree) (recordReads : Bool) :
    (staged path source tree recordReads).toFindings.withoutLayout =
      (Recorder.run recordReads {} ((Outline.moduleEvents ⟨source, tree.lines⟩ tree.root).map
        Outline.Event.withoutLayout)).findings :=
  congrArg Recorder.findings (Recorder.run_withoutLayout {} recordReads _).symm

theorem named_withoutLayout {first second : Extraction} (policy : DuplicatePolicy)
    (h : first.toFindings.withoutLayout = second.toFindings.withoutLayout) :
    (∃ named named', first.named policy = .ok named ∧ second.named policy = .ok named' ∧
        named.toFindings.withoutLayout = named'.toFindings.withoutLayout) ∨
      ∃ name, first.named policy = .error (.ambiguousName first.path name) ∧
        second.named policy = .error (.ambiguousName second.path name) := by
  have hassign := congrArg (fun findings => Naming.assign policy findings.components) h
  simp only [Findings.withoutLayout, Naming.assign_withoutLayout] at hassign
  unfold named
  cases hfirst : Naming.assign policy first.components with
  | ok components =>
    cases hsecond : Naming.assign policy second.components with
    | ok components' =>
      rw [hfirst, hsecond] at hassign
      refine .inl ⟨_, _, rfl, rfl, ?_⟩
      have hcomponents := Except.ok.inj hassign
      simp only [Findings.withoutLayout, Findings.mk.injEq] at h ⊢
      exact ⟨hcomponents, h.2⟩
    | error name => simp [hfirst, hsecond, Except.map] at hassign
  | error name =>
    cases hsecond : Naming.assign policy second.components with
    | ok components' => simp [hfirst, hsecond, Except.map] at hassign
    | error name' =>
      rw [hfirst, hsecond] at hassign
      obtain rfl := Except.error.inj hassign
      exact .inr ⟨name, rfl, rfl⟩

/-- Alike trees of texts that are not empty give the same findings up to layout, before and after
names are given, or the same name is refused. -/
theorem layout_independent {source source' : String} {tree tree' : Syntax.Tree}
    (hsource : source ≠ "") (hsource' : source' ≠ "")
    (h : Node.Alike (SameReading source source') tree.root tree'.root) (path path' : String)
    (options : ExtractOptions) :
    let first := staged path source tree options.recordReads
    let second := staged path' source' tree' options.recordReads
    first.toFindings.withoutLayout = second.toFindings.withoutLayout ∧
      ((∃ named named', first.named options.duplicateNames = .ok named ∧
          second.named options.duplicateNames = .ok named' ∧
          named.toFindings.withoutLayout = named'.toFindings.withoutLayout) ∨
        ∃ name, first.named options.duplicateNames = .error (.ambiguousName path name) ∧
          second.named options.duplicateNames = .error (.ambiguousName path' name)) := by
  intro first second
  have hfindings : first.toFindings.withoutLayout = second.toFindings.withoutLayout := by
    have hevents : Outline.Matches (Outline.moduleEvents ⟨source, tree.lines⟩ tree.root)
        (Outline.moduleEvents ⟨source', tree'.lines⟩ tree'.root) :=
      Outline.matches_moduleEvents h hsource hsource'
    rw [staged_withoutLayout, staged_withoutLayout, hevents]
  exact ⟨hfindings, named_withoutLayout options.duplicateNames hfindings⟩

/-- The tree of `def f(a):`, with `return a` on the next line. -/
def terse : Node :=
  .mk { kind := "module", start := 0, stop := 20 } [
    .mk { kind := "function_definition", start := 0, stop := 19 } [
      .mk { kind := "def", named := false, start := 0, stop := 3 } [],
      .mk { kind := "identifier", role := some "name", start := 4, stop := 5 } [],
      .mk { kind := "parameters", role := some "parameters", start := 5, stop := 8 } [
        .mk { kind := "(", named := false, start := 5, stop := 6 } [],
        .mk { kind := "identifier", start := 6, stop := 7 } [],
        .mk { kind := ")", named := false, start := 7, stop := 8 } []],
      .mk { kind := ":", named := false, start := 8, stop := 9 } [],
      .mk { kind := "block", role := some "body", start := 11, stop := 19 } [
        .mk { kind := "return_statement", start := 11, stop := 19 } [
          .mk { kind := "return", named := false, start := 11, stop := 17 } [],
          .mk { kind := "identifier", start := 18, stop := 19 } []]]]]

/-- The tree of the same function with a comment behind the colon and other blanks. -/
def remarked : Node :=
  .mk { kind := "module", start := 0, stop := 27 } [
    .mk { kind := "function_definition", start := 0, stop := 26 } [
      .mk { kind := "def", named := false, start := 0, stop := 3 } [],
      .mk { kind := "identifier", role := some "name", start := 4, stop := 5 } [],
      .mk { kind := "parameters", role := some "parameters", start := 5, stop := 10 } [
        .mk { kind := "(", named := false, start := 5, stop := 6 } [],
        .mk { kind := "identifier", start := 7, stop := 8 } [],
        .mk { kind := ")", named := false, start := 9, stop := 10 } []],
      .mk { kind := ":", named := false, start := 10, stop := 11 } [],
      .mk { kind := "comment", extra := true, start := 12, stop := 15 } [],
      .mk { kind := "block", role := some "body", start := 18, stop := 26 } [
        .mk { kind := "return_statement", start := 18, stop := 26 } [
          .mk { kind := "return", named := false, start := 18, stop := 24 } [],
          .mk { kind := "identifier", start := 25, stop := 26 } []]]]]

theorem layout_independent_remarked :
    let source := "def f(a):\n return a\n"
    let source' := "def f( a ): # c\n  return a\n"
    Node.Alike (SameReading source source') terse remarked ∧
      (staged "a.py" source ⟨terse, .ofText source⟩ true).toFindings.withoutLayout =
        (staged "b.py" source' ⟨remarked, .ofText source'⟩ true).toFindings.withoutLayout := by
  intro source source'
  have halike : Node.Alike (SameReading source source') terse remarked := by decide +kernel
  exact ⟨halike, (layout_independent (by decide) (by decide) halike "a.py" "b.py" {}).1⟩

end SourceLedger.Extraction
