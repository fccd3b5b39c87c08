import Mathlib.Data.List.Basic
import SourceLedger.Proofs.Nesting

/-!
# Readings that agree on a tree

All that is read off a tree is put together from the texts of its nodes and from the lines on which
they begin and end. Two readings that agree on these have the same events.

## Main definitions

* `Reading.AgreeOn` says that two readings agree on a tree.

## Main statements

* `AgreeOn.openingOf_eq` says that the same component opens.
* `agreesBelow` says that all events are the same, and `AgreeOn.component_eq` says so for a
  component.
-/

namespace SourceLedger.Syntax.Node

section Congruence

variable {source source' : String}

mutual

theorem tokens_congr (node : Node)
    (h : ∀ part ∈ node.preorder, part.text? source = part.text? source') :
    node.tokens source = node.tokens source' := by
  cases node with
  | mk attributes children =>
    rw [preorder] at h
    obtain ⟨hnode, hchildren⟩ := List.forall_mem_cons.1 h
    simp only [tokens, hnode, tokensOfAll_congr children hchildren]

theorem tokensOfAll_congr (row : List Node)
    (h : ∀ part ∈ preorderOfAll row, part.text? source = part.text? source') :
    tokensOfAll source row = tokensOfAll source' row := by
  cases row with
  | nil => rfl
  | cons node rest =>
    obtain ⟨hnode, hrest⟩ := List.forall_mem_append.1 h
    rw [tokensOfAll, tokensOfAll, tokens_congr node hnode, tokensOfAll_congr rest hrest]

end

mutual

theorem canonicalChars_congr (node : Node)
    (h : ∀ part ∈ node.preorder, part.text? source = part.text? source') :
    node.canonicalChars source = node.canonicalChars source' := by
  cases node with
  | mk attributes children =>
    rw [preorder] at h
    obtain ⟨hnode, hchildren⟩ := List.forall_mem_cons.1 h
    simp only [canonicalChars, hnode, canonicalCharsOfAll_congr children hchildren]

theorem canonicalCharsOfAll_congr (row : List Node)
    (h : ∀ part ∈ preorderOfAll row, part.text? source = part.text? source') :
    canonicalCharsOfAll source row = canonicalCharsOfAll source' row := by
  cases row with
  | nil => rfl
  | cons node rest =>
    obtain ⟨hnode, hrest⟩ := List.forall_mem_append.1 h
    simp only [canonicalCharsOfAll, canonicalChars_congr node hnode,
      canonicalCharsOfAll_congr rest hrest]

end

end Congruence

end SourceLedger.Syntax.Node

namespace SourceLedger.Outline

open Syntax (Node Construct)

/-- Two readings find the same texts and lines all over a tree. -/
structure Reading.AgreeOn (first second : Reading) (root : Node) : Prop where
  text : ∀ node ∈ root.preorder, first.text? node = second.text? node
  line : ∀ node ∈ root.preorder, first.line node = second.line node
  lastLine : ∀ node ∈ root.preorder, first.lastLine node = second.lastLine node

namespace Reading.AgreeOn

variable {first second : Reading} {node : Node} (h : first.AgreeOn second node)
include h

theorem ofChild {child : Node} (hchild : child ∈ node.children) : first.AgreeOn second child where
  text := fun part hpart => h.text part (Node.mem_preorder_of_child hchild hpart)
  line := fun part hpart => h.line part (Node.mem_preorder_of_child hchild hpart)
  lastLine := fun part hpart => h.lastLine part (Node.mem_preorder_of_child hchild hpart)

theorem text?_eq : first.text? node = second.text? node :=
  h.text node node.mem_preorder_self

theorem line_eq : first.line node = second.line node :=
  h.line node node.mem_preorder_self

theorem compact_eq : first.compact node = second.compact node :=
  congrArg Syntax.joinTokens (node.tokens_congr h.text)

theorem canonical_eq : node.canonical first.source = node.canonical second.source :=
  congrArg String.ofList (node.canonicalChars_congr h.text)

theorem ofChild? {role : String} {child : Node} (hchild : child ∈ node.child? role) :
    first.AgreeOn second child :=
  h.ofChild (Node.mem_children_of_child? hchild)

theorem ofNamed {child : Node} (hchild : child ∈ node.namedChildren) :
    first.AgreeOn second child :=
  h.ofChild (Node.mem_children_of_mem_namedChildren hchild)

theorem ofFirstNamed? {child : Node} (hchild : child ∈ node.firstNamed?) :
    first.AgreeOn second child :=
  h.ofChild (Node.mem_children_of_firstNamed? hchild)

theorem child?_getD (role : String) : first.AgreeOn second ((node.child? role).getD node) := by
  cases hchild : node.child? role with
  | none => exact h
  | some child => exact h.ofChild? hchild

theorem compactChild?_eq (role : String) :
    first.compactChild? node role = second.compactChild? node role :=
  Option.map_congr fun _ hchild => (h.ofChild? hchild).compact_eq

theorem childText?_eq (role : String) :
    node.childText? role first.source = node.childText? role second.source :=
  Option.bind_congr fun _ hchild => (h.ofChild? hchild).text?_eq

theorem ofDefinition : first.AgreeOn second (definitionOf node) := by
  unfold definitionOf
  split
  · exact h.child?_getD "definition"
  · exact h

theorem importName_eq : importName first node = importName second node := by
  have hmodules : (node.childrenIn "name").map (fun child =>
        if child.construct = .aliasedImport then first.compact ((child.child? "name").getD child)
        else first.compact child) =
      (node.childrenIn "name").map fun child =>
        if child.construct = .aliasedImport then second.compact ((child.child? "name").getD child)
        else second.compact child := by
    refine List.map_congr_left fun child hchild => ?_
    have hagree := h.ofChild (Node.mem_children_of_mem_childrenIn hchild)
    rw [(hagree.child?_getD "name").compact_eq, hagree.compact_eq]
  unfold importName
  rw [hmodules, h.compactChild?_eq]

theorem expressionName_eq : expressionName first node = expressionName second node := by
  unfold expressionName
  cases hnamed : node.firstNamed? with
  | none => rfl
  | some expression => simp only [(h.ofFirstNamed? hnamed).compactChild?_eq]

theorem formName?_eq (form : Form) : formName? first form node = formName? second form node := by
  cases form with
  | function | classDef => exact h.childText?_eq "name"
  | importing => exact congrArg some h.importName_eq
  | assignment =>
    exact Option.bind_congr fun _ hchild => (h.ofFirstNamed? hchild).compactChild?_eq "left"
  | expression => exact congrArg some h.expressionName_eq
  | block => rfl

theorem componentName_eq (form : Form) :
    componentName first form node = componentName second form node := by
  unfold componentName
  rw [h.formName?_eq form]

theorem signature?_eq (form : Form) {decorators : List Node}
    (hdecorators : ∀ decorator ∈ decorators, first.AgreeOn second decorator) :
    signature? first form node decorators = signature? second form node decorators := by
  have hcompact : decorators.map first.compact = decorators.map second.compact :=
    List.map_congr_left fun decorator hdecorator => (hdecorators decorator hdecorator).compact_eq
  unfold signature? ownSignature
  simp only [hcompact, h.compactChild?_eq]

theorem ofDecorator {decorator : Node} (hdecorator : decorator ∈ decoratorsOf node) :
    first.AgreeOn second decorator :=
  h.ofChild (Node.mem_children_of_mem_decoratorsOf hdecorator)

theorem openingOf_eq (gaps : Gaps) : openingOf first gaps node = openingOf second gaps node := by
  have hdefinition := h.ofDefinition
  simp only [openingOf, hdefinition.componentName_eq, hdefinition.line_eq, h.line_eq,
    h.lastLine node node.mem_preorder_self, h.text?_eq, h.canonical_eq,
    hdefinition.signature?_eq _ fun _ => h.ofDecorator]

theorem splitAlias_eq : splitAlias first node = splitAlias second node := by
  unfold splitAlias
  rw [h.compactChild?_eq, h.childText?_eq, h.compact_eq]

theorem addModulePart_eq (sofar : String × Nat) :
    addModulePart first sofar node = addModulePart second sofar node := by
  unfold addModulePart
  rw [h.text?_eq, h.compact_eq]

theorem fromModule_eq : fromModule first node = fromModule second node := by
  unfold fromModule
  cases hpath : node.child? "module_name" with
  | none => rfl
  | some path =>
    have hagree := h.ofChild? hpath
    have hparts : path.namedChildren.foldl (addModulePart first) ("", 0) =
        path.namedChildren.foldl (addModulePart second) ("", 0) :=
      List.foldl_ext _ _ _ fun sofar part hpart => (hagree.ofNamed hpart).addModulePart_eq sofar
    simp only [hagree.compact_eq, hparts]

theorem importRecords_eq : importRecords first node = importRecords second node := by
  have halias (name : Node) (hname : name ∈ node.childrenIn "name") :=
    (h.ofChild (Node.mem_children_of_mem_childrenIn hname)).splitAlias_eq
  have hmodules (line : Nat) : (node.childrenIn "name").map (moduleRecord first line) =
      (node.childrenIn "name").map (moduleRecord second line) :=
    List.map_congr_left fun name hname => by simp only [moduleRecord, halias name hname]
  have hnames (line : Nat) (origin : String × Nat) :
      (node.childrenIn "name").map (nameRecord first line origin) =
        (node.childrenIn "name").map (nameRecord second line origin) :=
    List.map_congr_left fun name hname => by simp only [nameRecord, halias name hname]
  simp only [importRecords, hmodules, hnames, h.fromModule_eq, h.line_eq]

theorem callEvents_eq : callEvents first node = callEvents second node := by
  unfold callEvents
  rw [h.compactChild?_eq, h.line_eq]

theorem mentionEvents_eq : mentionEvents first node = mentionEvents second node := by
  unfold mentionEvents
  rw [h.text?_eq, h.line_eq]

theorem bindEvents_eq (access : AccessKind) (typeText : Option String) :
    bindEvents first access typeText node = bindEvents second access typeText node := by
  unfold bindEvents
  rw [h.text?_eq, h.line_eq]

theorem declareEvents_eq (declare : String → Event) :
    declareEvents first declare node = declareEvents second declare node := by
  refine congrArg (List.map declare) (List.filterMap_congr fun name hname => ?_)
  exact (h.ofNamed (List.mem_filter.1 hname).1).text?_eq

theorem ofParameterName? {name : Node} (hname : name ∈ parameterName? node) :
    first.AgreeOn second name := by
  obtain ⟨outer, houter, hinner⟩ := Option.bind_eq_some_iff.1 hname
  have hagree : first.AgreeOn second outer := by
    split at houter
    iterate 3
      · obtain rfl := Option.some.inj houter
        exact h
    · exact h.ofFirstNamed? houter
    iterate 2
      · exact h.ofChild? houter
    · simp at houter
  split at hinner
  iterate 2
    · exact hagree.ofFirstNamed? hinner
  · obtain rfl := Option.some.inj hinner
    exact hagree

theorem parameterEvents_eq : parameterEvents first node = parameterEvents second node := by
  have hname : (parameterName? node).bind first.text? = (parameterName? node).bind second.text? :=
    Option.bind_congr fun _ hname => (h.ofParameterName? hname).text?_eq
  have htype : (parameterType? node).map first.compact =
      (parameterType? node).map second.compact := by
    unfold parameterType?
    split
    iterate 2
      · exact h.compactChild?_eq "type"
    · rfl
  unfold parameterEvents
  rw [hname, htype, h.line_eq]

theorem decoratorEvent_eq {decorator : Node} (hdecorator : first.AgreeOn second decorator)
    (position : Nat) :
    decoratorEvent first position decorator node =
      decoratorEvent second position decorator node := by
  have hcallee : first.AgreeOn second
      (if node.construct = .call then (node.child? "function").getD node else node) := by
    split
    · exact h.child?_getD "function"
    · exact h
  simp only [decoratorEvent, hcallee.compact_eq, h.text?_eq, hdecorator.line_eq]

end Reading.AgreeOn

/-- Two readings have the same events at every node of fewer than `bound` nodes on which they
agree. -/
structure AgreesBelow (first second : Reading) (bound : Nat) : Prop where
  walk : ∀ {node : Node}, node.size < bound → first.AgreeOn second node →
    walk first node = walk second node
  bind : ∀ {node : Node}, node.size < bound → first.AgreeOn second node →
    ∀ access typeText, bind first access typeText node = bind second access typeText node
  component : ∀ {node : Node}, node.size < bound → first.AgreeOn second node →
    ∀ gaps, component first gaps node = component second gaps node

namespace AgreesBelow

variable {first second : Reading} {node : Node}

theorem mono {bound lower : Nat} (h : AgreesBelow first second bound) (hle : lower ≤ bound) :
    AgreesBelow first second lower where
  walk := fun hsize => h.walk (by omega)
  bind := fun hsize => h.bind (by omega)
  component := fun hsize => h.component (by omega)

variable (ih : AgreesBelow first second node.size) (h : first.AgreeOn second node)
include ih h

theorem walkChild {child : Node} (hchild : child ∈ node.children) :
    Outline.walk first child = Outline.walk second child :=
  ih.walk (Node.size_lt_of_mem_children hchild) (h.ofChild hchild)

theorem bindChild {child : Node} (hchild : child ∈ node.children) (access : AccessKind)
    (typeText : Option String) :
    Outline.bind first access typeText child = Outline.bind second access typeText child :=
  ih.bind (Node.size_lt_of_mem_children hchild) (h.ofChild hchild) access typeText

theorem walkIn (role : String) :
    (node.firstIn role).flatMap (Outline.walk first) =
      (node.firstIn role).flatMap (Outline.walk second) :=
  List.flatMap_congr fun _ hpart => ih.walkChild h (Node.mem_children_of_mem_firstIn hpart)

theorem walkNamed :
    node.namedChildren.flatMap (Outline.walk first) =
      node.namedChildren.flatMap (Outline.walk second) :=
  List.flatMap_congr fun _ hpart => ih.walkChild h (Node.mem_children_of_mem_namedChildren hpart)

theorem bindIn (role : String) (access : AccessKind) (typeText : Option String) :
    (node.firstIn role).flatMap (Outline.bind first access typeText) =
      (node.firstIn role).flatMap (Outline.bind second access typeText) :=
  List.flatMap_congr fun _ hpart =>
    ih.bindChild h (Node.mem_children_of_mem_firstIn hpart) access typeText

theorem bindNamed (access : AccessKind) :
    node.namedChildren.flatMap (Outline.bind first access none) =
      node.namedChildren.flatMap (Outline.bind second access none) :=
  List.flatMap_congr fun _ hpart =>
    ih.bindChild h (Node.mem_children_of_mem_namedChildren hpart) access none

/-- Named children, some of which are bound and the others visited. -/
theorem partly (role : String) (binds : Bool × Node → Bool) :
    (node.namedChildrenMarking role).flatMap (fun part =>
        if binds part then Outline.bind first .write none part.2 else Outline.walk first part.2) =
      (node.namedChildrenMarking role).flatMap fun part =>
        if binds part then Outline.bind second .write none part.2
        else Outline.walk second part.2 := by
  refine List.flatMap_congr fun part hpart => ?_
  have hchild := Node.mem_children_of_mem_namedChildrenMarking hpart
  rw [ih.bindChild h hchild, ih.walkChild h hchild]

theorem visit : visit first node = visit second node := by
  rw [Outline.visit, Outline.visit, h.compactChild?_eq "type"]
  simp only [List.flatMap_subtype, List.unattach_attach]
  cases node.construct with
  | call => exact congrArg₂ _ h.callEvents_eq (ih.walkNamed h)
  | assignment => exact congrArg₂ _ (ih.walkIn h "right") (ih.bindIn h "left" ..)
  | augmentedAssignment => exact congrArg₂ _ (ih.walkIn h "right") (ih.bindIn h "left" ..)
  | forStatement | forInClause => exact ih.partly h "left" (·.1)
  | asPattern =>
    exact ih.partly h "alias" fun part => part.1 || part.2.construct == .asPatternTarget
  | namedExpression => exact congrArg₂ _ (ih.walkIn h "value") (ih.bindIn h "name" ..)
  | deleteStatement => exact ih.bindNamed h .delete
  | globalStatement => exact h.declareEvents_eq .declareGlobal
  | nonlocalStatement => exact h.declareEvents_eq .declareNonlocal
  | importStatement | importFromStatement | futureImportStatement =>
    exact congrArg (List.map Event.imports) h.importRecords_eq
  | identifier => exact h.mentionEvents_eq
  | member => exact ih.walkIn h "object"
  | keywordArgument => exact ih.walkIn h "value"
  | lambda => exact ih.walkIn h "body"
  | _ => exact ih.walkNamed h

theorem contents : contents first node = contents second node := by
  rw [Outline.contents, Outline.contents]
  simp only [List.flatMap_subtype, List.unattach_attach]
  cases Form.ofNode node with
  | function =>
    refine congrArg₂ _ (List.flatMap_congr fun row hrow =>
      List.flatMap_congr fun parameter hparameter => ?_) (ih.walkIn h "body")
    have hagree := (h.ofChild (Node.mem_children_of_mem_firstIn hrow)).ofNamed hparameter
    have houter := Node.size_lt_of_mem_firstIn hrow
    have hinner := Node.size_lt_of_mem_namedChildren hparameter
    refine congrArg₂ _ (List.flatMap_congr fun value hvalue => ?_) hagree.parameterEvents_eq
    have hsize := size_lt_of_mem_parameterDefault hvalue
    exact ih.walk (by omega) (hagree.ofChild (mem_children_of_mem_parameterDefault hvalue))
  | classDef =>
    refine congrArg₂ _ (ih.walkIn h "superclasses") (List.flatMap_congr fun body hbody =>
      List.flatMap_congr fun statement hstatement => ?_)
    have hagree := (h.ofChild (Node.mem_children_of_mem_firstIn hbody)).ofNamed hstatement
    have houter := Node.size_lt_of_mem_firstIn hbody
    have hinner := Node.size_lt_of_mem_namedChildren hstatement
    rw [ih.component (by omega) hagree, ih.walk (by omega) hagree]
  | _ => simp only [ih.visit h]

theorem componentAt (gaps : Gaps) :
    Outline.component first gaps node = Outline.component second gaps node := by
  have hdecorations : decorations first 0 (decoratorsOf node) =
      decorations second 0 (decoratorsOf node) := by
    refine List.flatMap_congr fun decorator hdecorator =>
      List.flatMap_congr fun expression hexpression => ?_
    have hmem := List.fst_mem_of_mem_zipIdx hdecorator
    have hagree := h.ofDecorator hmem
    have hinside := hagree.ofFirstNamed? (Option.mem_toList.1 hexpression)
    have houter := size_lt_of_mem_decoratorsOf hmem
    have hinner := size_lt_of_mem_firstNamed? hexpression
    rw [hinside.decoratorEvent_eq hagree, ih.walk (by omega) hinside]
  have hinside : insideEvents first node = insideEvents second node := by
    unfold insideEvents
    split
    · refine List.flatMap_congr fun definition hdefinition => ?_
      have hagree := h.ofChild (Node.mem_children_of_mem_firstIn hdefinition)
      have hsize := Node.size_lt_of_mem_firstIn hdefinition
      rw [ih.walk hsize hagree, (ih.mono (Nat.le_of_lt hsize)).contents hagree]
    · exact ih.contents h
  rw [component_eq, component_eq, h.openingOf_eq, hdecorations, hinside]

theorem walkAt : Outline.walk first node = Outline.walk second node := by
  rw [Outline.walk, Outline.walk, ih.componentAt h, ih.visit h]

theorem bindAt (access : AccessKind) (typeText : Option String) :
    Outline.bind first access typeText node = Outline.bind second access typeText node := by
  rw [Outline.bind, Outline.bind]
  simp only [List.flatMap_subtype, List.unattach_attach]
  cases node.construct with
  | identifier => exact h.bindEvents_eq access typeText
  | member =>
    rw [h.compact_eq, h.line_eq]
    exact congrArg _ (ih.walkIn h "object")
  | subscript =>
    refine congrArg₂ _ (List.flatMap_congr fun value hvalue => ?_)
      (List.flatMap_congr fun index hindex => ?_)
    · have hchild := Node.mem_children_of_mem_firstIn hvalue
      rw [(h.ofChild hchild).compact_eq, h.line_eq, ih.walkChild h hchild]
    · exact ih.walkChild h (Node.mem_children_of_mem_childrenIn hindex)
  | targetGroup | listSplatPattern | asPatternTarget => exact ih.bindNamed h access
  | _ => exact ih.walkAt h

end AgreesBelow

/-- The steps put together, by induction on the number of nodes. -/
theorem agreesBelow (first second : Reading) (bound : Nat) : AgreesBelow first second bound := by
  induction bound with
  | zero =>
    exact ⟨fun hsize => absurd hsize (by omega), fun hsize => absurd hsize (by omega),
      fun hsize => absurd hsize (by omega)⟩
  | succ bound ih =>
    exact ⟨fun hsize h => (ih.mono (by omega)).walkAt h,
      fun hsize h => (ih.mono (by omega)).bindAt h,
      fun hsize h => (ih.mono (by omega)).componentAt h⟩

/-- Readings that agree on a component have the same events there. -/
theorem Reading.AgreeOn.component_eq {first second : Reading} {node : Node}
    (h : first.AgreeOn second node) (gaps : Gaps) :
    component first gaps node = component second gaps node :=
  (agreesBelow first second (node.size + 1)).component (Nat.lt_succ_self _) h gaps

end SourceLedger.Outline
