import SourceLedger.Proofs.Layout
import SourceLedger.Proofs.Likeness

/-!
# What is read at corresponding nodes

Names, signatures and imports are put together from the tokens below a node, from its kind and from
the kinds of its children. In two alike trees all of this is the same at corresponding nodes, if the
few nodes have the same text whose text is taken as it stands.

## Main definitions

* `SameReading` says that nothing that is read at corresponding nodes differs.
* `Twins` are corresponding nodes of two readings.

## Main statements

* `Twins.compact_eq` says that corresponding nodes have the same text without layout.
* `Twins.openingOf_eq` says that they open the same component up to layout.
* `Twins.importRecords_eq` says that they import the same names.
-/

namespace SourceLedger.Outline

open Syntax (Node Construct)

/-- The parameters of a function. -/
def parametersOf (definition : Node) : List Node :=
  (definition.firstIn "parameters").flatMap Node.namedChildren

/-- The text that a parameter binds as its name. -/
def boundText? (source : String) (parameter : Node) : Option String :=
  (parameterName? parameter).bind (·.text? source)

/-- Nodes whose text is read as it stands: those that are atomic, and those that may be names or
the dots in front of a module. -/
def isReadRaw (node : Node) : Bool :=
  node.isAtomic || node.construct == .identifier || node.construct == .importPrefix ||
    node.role == some "name" || node.role == some "alias"

/-- Nothing that is read at corresponding nodes differs. -/
structure SameReading (source source' : String) (x y : Node) : Prop where
  childless : x.children = [] ↔ y.children = []
  text : isReadRaw x = true → x.text? source = y.text? source'
  parameters : x.construct = .functionDefinition →
    (parametersOf x).map (boundText? source) = (parametersOf y).map (boundText? source')
  left : x.PlainExtras
  right : y.PlainExtras

instance (source source' : String) (x y : Node) : Decidable (SameReading source source' x y) :=
  decidable_of_iff (_ ∧ _ ∧ _ ∧ _ ∧ _)
    ⟨fun ⟨hchildless, htext, hparameters, hleft, hright⟩ =>
      ⟨hchildless, htext, hparameters, hleft, hright⟩,
      fun h => ⟨h.childless, h.text, h.parameters, h.left, h.right⟩⟩

namespace SameReading

variable {source source' : String} {x y : Node}

theorem isAtomic_eq (h : SameReading source source' x y) (hkind : x.kind = y.kind) :
    x.isAtomic = y.isAtomic := by
  have hempty : x.children.isEmpty = y.children.isEmpty := by
    rw [Bool.eq_iff_iff, List.isEmpty_iff, List.isEmpty_iff]
    exact h.childless
  unfold Node.isAtomic
  rw [hempty, hkind]

theorem sameForm (h : SameReading source source' x y) (hkind : x.kind = y.kind) :
    Node.SameForm source source' x y where
  childless := by
    intro _ hx _
    rw [h.text (by simp [isReadRaw, Node.isAtomic, hx])]
  body := by
    intro hbody
    rw [h.text (by simp [isReadRaw, Node.isAtomic, hbody])]
  atomic := fun _ => h.isAtomic_eq hkind

end SameReading

end SourceLedger.Outline

namespace SourceLedger.Syntax.Node

theorem tokensOfAll_eq (source : String) (row : List Node) :
    tokensOfAll source row = (row.filter (!·.extra)).flatMap (tokens source) := by
  induction row with
  | nil => rfl
  | cons node rest ih =>
    rw [tokensOfAll, ih]
    by_cases hextra : node.extra = true
    · cases node with
      | mk attributes children => simp [tokens, hextra]
    · simp [hextra]

theorem tokens_eq {node : Node} (h : node.extra = false) (source : String) :
    node.tokens source =
      if node.isAtomic then [(node.text? source).getD ""]
      else node.kept.flatMap (tokens source) := by
  cases node with
  | mk attributes children =>
    rw [tokens, tokensOfAll_eq]
    simp [h, kept, Node.children]

end SourceLedger.Syntax.Node

namespace SourceLedger.Outline

open Syntax (Node Construct)

theorem canonical_eq {source source' : String} {x y : Node}
    (h : Node.Alike (SameReading source source') x y) : x.canonical source = y.canonical source' :=
  congrArg String.ofList (h.imp fun _ _ hkind hsame => hsame.sameForm hkind).canonicalChars_eq

/-- Corresponding nodes in two readings. -/
abbrev Twins (reading reading' : Reading) : Node → Node → Prop :=
  Node.Counterparts (SameReading reading.source reading'.source)

namespace Twins

variable {reading reading' : Reading} {x y : Node}

theorem construct_eq (h : Twins reading reading' x y) : x.construct = y.construct :=
  congrArg Construct.ofKind h.alike.kind

theorem same (h : Twins reading reading' x y) :
    SameReading reading.source reading'.source x y :=
  h.alike.node

theorem tokens_eq {x y : Node} (h : Twins reading reading' x y) :
    x.tokens reading.source = y.tokens reading'.source := by
  rw [Node.tokens_eq h.left, Node.tokens_eq h.right, h.same.isAtomic_eq h.alike.kind]
  by_cases hatomic : y.isAtomic = true
  · have htext := h.same.text (by simp [isReadRaw, h.same.isAtomic_eq h.alike.kind, hatomic])
    simp [hatomic, htext]
  · simp only [hatomic]
    have hmap := map_eq_of_forall₂ h.alike.kept fun child hchild other hlike =>
      tokens_eq (x := child) (y := other) hlike
    simp [List.flatMap, hmap]
termination_by x.size
decreasing_by exact Node.size_lt_of_mem_children (Node.mem_children_of_mem_kept hchild)

theorem compact_eq (h : Twins reading reading' x y) : reading.compact x = reading'.compact y :=
  congrArg Syntax.joinTokens h.tokens_eq

theorem child? (h : Twins reading reading' x y) (role : String) :
    Option.Rel (Twins reading reading') (x.child? role) (y.child? role) :=
  h.alike.child? h.same.left h.same.right role

theorem firstIn (h : Twins reading reading' x y) (role : String) :
    List.Forall₂ (Twins reading reading') (x.firstIn role) (y.firstIn role) :=
  h.alike.firstIn h.same.left h.same.right role

theorem childrenIn (h : Twins reading reading' x y) (role : String) :
    List.Forall₂ (Twins reading reading') (x.childrenIn role) (y.childrenIn role) :=
  h.alike.childrenIn h.same.left h.same.right role

theorem namedChildren (h : Twins reading reading' x y) :
    List.Forall₂ (Twins reading reading') x.namedChildren y.namedChildren :=
  h.alike.namedChildren

theorem namedChildrenMarking (h : Twins reading reading' x y) (role : String) :
    List.Forall₂ (fun a b => a.1 = b.1 ∧ Twins reading reading' a.2 b.2)
      (x.namedChildrenMarking role) (y.namedChildrenMarking role) :=
  h.alike.namedChildrenMarking h.same.left h.same.right role

theorem compactChild?_eq (h : Twins reading reading' x y) (role : String) :
    reading.compactChild? x role = reading'.compactChild? y role := by
  exact map_eq_of_rel (h.child? role) fun _ _ hchild => compact_eq hchild

theorem childText?_eq (h : Twins reading reading' x y) {role : String}
    (hrole : role = "name" ∨ role = "alias") :
    x.childText? role reading.source = y.childText? role reading'.source := by
  refine bind_eq_of_rel (h.child? role) fun child hchild other hlike => (same hlike).text ?_
  have hplays : child.role = some role := by simpa using List.find?_some hchild
  rcases hrole with rfl | rfl
  · simp [isReadRaw, hplays]
  · simp [isReadRaw, hplays]

theorem firstNamed? (h : Twins reading reading' x y) :
    Option.Rel (Twins reading reading') x.firstNamed? y.firstNamed? :=
  h.alike.firstNamed?

theorem isAssignmentStatement_eq (h : Twins reading reading' x y) :
    x.isAssignmentStatement = y.isAssignmentStatement := by
  unfold Node.isAssignmentStatement
  rw [h.construct_eq]
  obtain ⟨hx, hy⟩ | ⟨a, b, hx, hy, hab⟩ := exists_of_rel h.firstNamed?
  · rw [hx, hy]
  · rw [hx, hy, Option.any_some, Option.any_some, construct_eq hab]

theorem form_eq (h : Twins reading reading' x y) : Form.ofNode x = Form.ofNode y := by
  unfold Form.ofNode
  rw [h.construct_eq, h.isAssignmentStatement_eq]

theorem definitionOf (h : Twins reading reading' x y) :
    Twins reading reading' (definitionOf x) (definitionOf y) := by
  unfold Outline.definitionOf
  rw [h.construct_eq]
  split
  · exact rel_getD (h.child? "definition") h
  · exact h

theorem decoratorsOf (h : Twins reading reading' x y) :
    List.Forall₂ (Twins reading reading') (decoratorsOf x) (decoratorsOf y) := by
  unfold Outline.decoratorsOf
  rw [h.construct_eq]
  split
  · exact forall₂_filter h.namedChildren fun _ _ hchild => by rw [construct_eq hchild]
  · exact .nil

theorem importName_eq (h : Twins reading reading' x y) :
    importName reading x = importName reading' y := by
  have hnames := map_eq_of_forall₂ (h.childrenIn "name")
    (f := fun child =>
      if child.construct = .aliasedImport then reading.compact ((child.child? "name").getD child)
      else reading.compact child)
    (g := fun child =>
      if child.construct = .aliasedImport then reading'.compact ((child.child? "name").getD child)
      else reading'.compact child) fun a _ b hab => by
        rw [construct_eq hab, compact_eq hab, compact_eq (rel_getD (child? hab "name") hab)]
  unfold importName
  rw [h.construct_eq, h.compactChild?_eq "module_name", hnames]

theorem expressionName_eq (h : Twins reading reading' x y) :
    expressionName reading x = expressionName reading' y := by
  unfold expressionName
  obtain ⟨hx, hy⟩ | ⟨a, b, hx, hy, hab⟩ := exists_of_rel h.firstNamed?
  · rw [hx, hy]
  · rw [hx, hy]
    dsimp only
    rw [construct_eq hab, compactChild?_eq hab "function"]

theorem formName?_eq (h : Twins reading reading' x y) (form : Form) :
    formName? reading form x = formName? reading' form y := by
  have hname := h.childText?_eq (.inl rfl)
  cases form with
  | function => exact hname
  | classDef => exact hname
  | importing => exact congrArg some h.importName_eq
  | assignment =>
    exact bind_eq_of_rel h.firstNamed? fun _ _ _ hchild => compactChild?_eq hchild "left"
  | expression => exact congrArg some h.expressionName_eq
  | block => exact congrArg (fun kind => some (keywordName kind)) h.alike.kind

theorem componentName_eq (h : Twins reading reading' x y) (form : Form) :
    componentName reading form x = componentName reading' form y := by
  unfold componentName
  rw [h.formName?_eq form, h.alike.kind]

theorem signature?_eq (h : Twins reading reading' x y) (form : Form) {xs ys : List Node}
    (hrow : List.Forall₂ (Twins reading reading') xs ys) :
    signature? reading form x xs = signature? reading' form y ys := by
  have hown : ownSignature reading form x = ownSignature reading' form y := by
    unfold ownSignature
    simp only [h.compactChild?_eq]
  have hcompact : xs.map reading.compact = ys.map reading'.compact :=
    map_eq_of_forall₂ hrow fun _ _ _ hchild => compact_eq hchild
  unfold signature?
  rw [hcompact, hown]

theorem openingOf_eq (h : Twins reading reading' x y) (gaps gaps' : Gaps) :
    (openingOf reading gaps x).withoutLayout = (openingOf reading' gaps' y).withoutLayout := by
  have hdefinition := h.definitionOf
  have hform := hdefinition.form_eq
  have hname := hdefinition.componentName_eq (Form.ofNode (Outline.definitionOf y))
  have hsignature := hdefinition.signature?_eq (Form.ofNode (Outline.definitionOf y))
    h.decoratorsOf
  have hcanonical := canonical_eq h.alike
  simp only [openingOf, Opening.withoutLayout, hform, hname, hsignature, hcanonical]

theorem splitAlias_eq (h : Twins reading reading' x y) :
    splitAlias reading x = splitAlias reading' y := by
  unfold splitAlias
  rw [h.construct_eq, h.compactChild?_eq "name", h.childText?_eq (.inr rfl), h.compact_eq]

theorem addModulePart_eq (h : Twins reading reading' x y) (sofar : String × Nat) :
    addModulePart reading sofar x = addModulePart reading' sofar y := by
  unfold addModulePart
  rw [← h.construct_eq]
  cases hconstruct : x.construct with
  | importPrefix =>
    have htext : reading.text? x = reading'.text? y :=
      h.same.text (by simp [isReadRaw, hconstruct])
    exact congrArg (fun text => (sofar.1, text.elim 0 dotCount)) htext
  | dottedName => exact congrArg (·, sofar.2) h.compact_eq
  | _ => rfl

theorem foldl_addModulePart_eq {xs ys : List Node}
    (h : List.Forall₂ (Twins reading reading') xs ys) (sofar : String × Nat) :
    xs.foldl (addModulePart reading) sofar = ys.foldl (addModulePart reading') sofar := by
  refine List.rel_foldl ?_ rfl h
  rintro sofar _ rfl x y hxy
  exact addModulePart_eq hxy sofar

theorem fromModule_eq (h : Twins reading reading' x y) :
    fromModule reading x = fromModule reading' y := by
  unfold fromModule
  obtain ⟨hx, hy⟩ | ⟨a, b, hx, hy, hab⟩ := exists_of_rel (h.child? "module_name")
  · rw [hx, hy]
  · rw [hx, hy]
    dsimp only
    rw [construct_eq hab, compact_eq hab, foldl_addModulePart_eq (namedChildren hab)]

theorem importRecords_eq (h : Twins reading reading' x y) :
    (importRecords reading x).map ImportRecord.withoutLayout =
      (importRecords reading' y).map ImportRecord.withoutLayout := by
  have hmodules : (x.childrenIn "name").map (ImportRecord.withoutLayout ∘
      moduleRecord reading (reading.line x)) = (y.childrenIn "name").map
        (ImportRecord.withoutLayout ∘ moduleRecord reading' (reading'.line y)) := by
    refine map_eq_of_forall₂ (h.childrenIn "name") fun a _ b hab => ?_
    simp only [Function.comp_apply, moduleRecord, splitAlias_eq hab, ImportRecord.withoutLayout]
  have hnames (origin : String × Nat) : (x.childrenIn "name").map (ImportRecord.withoutLayout ∘
      nameRecord reading (reading.line x) origin) = (y.childrenIn "name").map
        (ImportRecord.withoutLayout ∘ nameRecord reading' (reading'.line y) origin) := by
    refine map_eq_of_forall₂ (h.childrenIn "name") fun a _ b hab => ?_
    simp only [Function.comp_apply, nameRecord, splitAlias_eq hab, ImportRecord.withoutLayout]
  have hwildcard : x.namedChildren.any (·.construct == .wildcardImport) =
      y.namedChildren.any (·.construct == .wildcardImport) := by
    have hconstructs : x.namedChildren.map (·.construct) = y.namedChildren.map (·.construct) :=
      map_eq_of_forall₂ h.namedChildren fun _ _ _ hchild => construct_eq hchild
    have hany := congrArg (List.any · (· == Construct.wildcardImport)) hconstructs
    rwa [List.any_map, List.any_map] at hany
  simp only [importRecords, h.construct_eq, h.fromModule_eq, hwildcard]
  by_cases hmodule : y.construct = .importStatement
  · rw [if_pos hmodule, if_pos hmodule, List.map_map, List.map_map, hmodules]
  · rw [if_neg hmodule, if_neg hmodule, List.map_append, List.map_append, List.map_map,
      List.map_map, hnames]
    congr 1
    split
    · rfl
    · rfl

end Twins

end SourceLedger.Outline
