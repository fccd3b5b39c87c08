import Mathlib.Data.List.Lex
import SourceLedger.Proofs.Attribution
import SourceLedger.Proofs.Ways

/-!
# Where components stand

The components of a tree can be told from the tree alone: the statements at top level, the
definitions, of which one with its decorators counts once, and the assignments in class bodies.
Where definitions stand as statements only, reading finds exactly these, each once and in the order
of the text. The same way leads to nodes of other constructs that stand as statements only.

Places are compared by their paths. A place lies around another one if its path is a prefix of the
other, and the lexicographic order of paths is the order of the nodes from front to back, each
before its children.

## Main definitions

* `Node.DefinesInStatements` says that definitions stand as statements only, and
  `Node.StandInStatements` the same of other constructs.
* `IsComponentAt` says that a component stands in a place.
* `IsSurrounded` says that definitions might stand in a place.

## Main statements

* `exists_entry` finds what stands as a statement.
* `mem_entered_iff` finds the components of a tour.
* `pairwise_lt_tour` says that they are found in order, and `pairwise_lt_tour_of` the same of all
  that is looked for.
-/

namespace SourceLedger.Syntax

/-- Constructs whose named children are all read, one after another and in the same way. -/
def Construct.isGeneric : Construct → Bool
  | functionDefinition | classDefinition | decoratedDefinition | assignment | augmentedAssignment
  | forStatement | forInClause | asPattern | namedExpression | deleteStatement | globalStatement
  | nonlocalStatement | importStatement | importFromStatement | futureImportStatement | identifier
  | member | keywordArgument | lambda => false
  | _ => true

namespace Node

/-- Some node of the tree is of one of some constructs. -/
def holds (kinds : Construct → Bool) (node : Node) : Bool :=
  node.preorder.any fun found => kinds found.construct

/-- Some node of the tree is a definition. -/
def holdsDefinition (node : Node) : Bool :=
  node.preorder.any (·.construct.isDefinition)

/-- A definition may stand in the child with an index: the node is a `for` statement and the child
is not what is bound, or it is a definition and the child is its body, or it is a decorated
definition and the child is what is decorated, or the node has nothing special about it. -/
def passesTo (node : Node) (index : Nat) : Bool :=
  match node.construct with
  | .forStatement => node.indexOf? "left" != some index
  | .functionDefinition | .classDefinition => node.indexOf? "body" == some index
  | .decoratedDefinition => node.indexOf? "definition" == some index
  | construct => construct.isGeneric

/-- Definitions stand as statements only. -/
structure DefinesInStatements (root : Node) : Prop where
  start : root.construct.isDefinition = false
  /-- Definitions and what is around them are named and no extras. -/
  proper : root.Everywhere fun node => ∀ child ∈ node.children,
    child.holdsDefinition → child.isProper
  /-- What is around a definition, the root apart, lets it stand where it does. -/
  passes : ∀ statement ∈ root.children, statement.Everywhere fun node =>
    ∀ child ∈ node.children.zipIdx, child.1.holdsDefinition → node.passesTo child.2
  /-- A function or a class is decorated. -/
  definition : root.Everywhere fun node => node.construct = .decoratedDefinition →
    ∃ definition ∈ node.child? "definition",
      definition.construct = .functionDefinition ∨ definition.construct = .classDefinition
  body : root.Everywhere fun node => node.construct = .classDefinition →
    ∀ body ∈ node.child? "body", body.kind = "block"

/-- Nodes of some constructs stand as statements only, where definitions may stand too. -/
structure StandInStatements (kinds : Construct → Bool) (root : Node) : Prop where
  proper : root.Everywhere fun node => ∀ child ∈ node.children, child.holds kinds → child.isProper
  passes : ∀ statement ∈ root.children, statement.Everywhere fun node =>
    ∀ child ∈ node.children.zipIdx, child.1.holds kinds → node.passesTo child.2

theorem DefinesInStatements.stand {root : Node} (h : root.DefinesInStatements) :
    root.StandInStatements Construct.isDefinition :=
  ⟨h.proper, h.passes⟩

section Holds

variable {kinds : Construct → Bool} {node child found : Node}

theorem holds_self (h : kinds node.construct) : node.holds kinds :=
  List.any_eq_true.2 ⟨node, node.mem_preorder_self, h⟩

theorem holds_of_child (hchild : child ∈ node.children) (h : child.holds kinds) :
    node.holds kinds := by
  obtain ⟨inner, hmem, hinner⟩ := List.any_eq_true.1 h
  exact List.any_eq_true.2 ⟨inner, mem_preorder_of_child hchild hmem, hinner⟩

theorem holds_of_at? {path : List Nat} (hfound : node.at? path = some found)
    (h : found.holds kinds) : node.holds kinds := by
  induction path generalizing node with
  | nil =>
    obtain rfl := Option.some.inj hfound
    exact h
  | cons index path ih =>
    obtain ⟨child, hchild, hrest⟩ := Option.bind_eq_some_iff.1 hfound
    exact holds_of_child (List.mem_of_getElem? hchild) (ih hrest)

end Holds

namespace StandInStatements

variable {kinds : Construct → Bool} {root parent child : Node} {path : List Nat} {index : Nat}
  (hstand : root.StandInStatements kinds) (hparent : root.at? path = some parent)
  (hchild : parent.children[index]? = some child) (h : child.holds kinds)

include hstand hparent hchild h

theorem isProper : child.isProper :=
  hstand.proper path parent hparent child (List.mem_of_getElem? hchild) h

theorem passesTo (hpath : path ≠ []) : parent.passesTo index := by
  obtain ⟨first, rest, rfl⟩ := List.exists_cons_of_ne_nil hpath
  obtain ⟨statement, hstatement, hrest⟩ := Option.bind_eq_some_iff.1 hparent
  exact hstand.passes statement (List.mem_of_getElem? hstatement) rest parent hrest (child, index)
    (List.mem_zipIdx_iff_getElem?.2 hchild) h

end StandInStatements

theorem exists_parent {root node : Node} {path : List Nat} {index : Nat}
    (h : root.at? (path ++ [index]) = some node) :
    ∃ parent, root.at? path = some parent ∧ parent.children[index]? = some node := by
  rw [at?_concat] at h
  exact Option.bind_eq_some_iff.1 h

end Node

end SourceLedger.Syntax

namespace SourceLedger.Outline

open Syntax (Node Construct)

/-- A component stands in a place: it is a statement at top level, a definition that is not itself
the decorated part of a definition, or an assignment in the body of a class. -/
inductive IsComponentAt (root : Node) : Place → Prop
  | statement {node : Node} {index : Nat} (h : root.children[index]? = some node)
      (hproper : node.isProper) : IsComponentAt root ⟨[index], node⟩
  | definition {parent node : Node} {path : List Nat} {index : Nat}
      (hparent : root.at? path = some parent) (h : parent.children[index]? = some node)
      (hdefinition : node.construct.isDefinition)
      (hdecorated : parent.construct = .decoratedDefinition →
        parent.indexOf? "definition" ≠ some index) :
      IsComponentAt root ⟨path ++ [index], node⟩
  | member {definition body node : Node} {path : List Nat} {bodyIndex index : Nat}
      (hdefinition : root.at? path = some definition)
      (hclass : definition.construct = .classDefinition)
      (hindex : definition.indexOf? "body" = some bodyIndex)
      (hbody : definition.children[bodyIndex]? = some body)
      (h : body.children[index]? = some node) (hproper : node.isProper)
      (hassignment : node.isAssignmentStatement) :
      IsComponentAt root ⟨path ++ [bodyIndex] ++ [index], node⟩

/-- The stances in which a child that holds a definition is read. -/
inductive Entry (parent : Node) (index : Nat) (child : Node) : Stance → Prop
  | statement {stance : Stance} (hstance : stance.isStatement)
      (h : parent.construct ≠ .decoratedDefinition) : Entry parent index child stance
  | decorated (h : parent.construct = .decoratedDefinition)
      (hindex : parent.indexOf? "definition" = some index) : Entry parent index child .contents
  | body (h : child.kind = "block") : Entry parent index child .classBody

/-- What is around a place lets definitions stand there and is not read as a target. -/
def IsSurrounded (root : Node) (place : Place) : Prop :=
  ∀ above parent index, above ≠ [] → above ++ [index] <+: place.path →
    root.at? above = some parent →
    parent.passesTo index ∧ ∃ stance, Leads .top root above stance parent ∧ stance ≠ .target

theorem visitSteps_of_isGeneric {node : Node} (h : node.construct.isGeneric) :
    visitSteps node = properSteps .walked node := by
  cases hconstruct : node.construct <;>
    simp_all [visitSteps, Construct.isGeneric]

section Statements

variable {kinds : Construct → Bool} {root : Node} (hroot : root.DefinesInStatements)
  (hstand : root.StandInStatements kinds)

include hroot

theorem decoratesOthers : root.Everywhere DecoratesOthers := by
  intro path node hnode hdecorated definition hdefinition hdecorator
  obtain ⟨other, hother, hconstruct⟩ := hroot.definition path node hnode hdecorated
  obtain rfl := Option.some.inj (hdefinition.symm.trans hother)
  rcases hconstruct with hconstruct | hconstruct
  · exact absurd (hdecorator.symm.trans hconstruct) (by decide)
  · exact absurd (hdecorator.symm.trans hconstruct) (by decide)

/-- What is decorated has no decorators of its own. -/
theorem construct_ne_of_indexOf? {path : List Nat} {parent child : Node} {index : Nat}
    (hparent : root.at? path = some parent) (hdecorated : parent.construct = .decoratedDefinition)
    (hindex : parent.indexOf? "definition" = some index)
    (hchild : parent.children[index]? = some child) :
    child.construct ≠ .decoratedDefinition := by
  obtain ⟨definition, hdefinition, hconstruct⟩ := hroot.definition path parent hparent hdecorated
  have hsame := child?_eq_some_iff.2 ⟨index, hindex, hchild⟩
  obtain rfl := Option.some.inj (hsame.symm.trans hdefinition)
  rcases hconstruct with hconstruct | hconstruct <;> simp [hconstruct]

/-- There is a step into a child in which a definition may stand. -/
theorem exists_step {path : List Nat} {parent child : Node} {index : Nat}
    (hparent : root.at? path = some parent) (hextra : parent.extra = false)
    (hchild : parent.children[index]? = some child) (hproper : child.isProper)
    (hpasses : parent.passesTo index) :
    ∃ stance, ⟨stance, child, index⟩ ∈ componentSteps parent ∧ Entry parent index child stance := by
  have hplain (h : parent.construct.isDefinition = false) :
      componentSteps parent = visitSteps parent := componentSteps_eq_visitSteps hextra h
  have hcontents (h : parent.construct ≠ .decoratedDefinition) :
      componentSteps parent = contentsSteps parent := if_neg h
  have hfirst {role : String} (h : (parent.indexOf? role == some index) = true) :
      parent.indexOf? role = some index := beq_iff_eq.1 h
  unfold Node.passesTo at hpasses
  split at hpasses
  · rename_i hfor
    have hdefinition : parent.construct.isDefinition = false := by rw [hfor]; rfl
    refine ⟨.walked, ?_, .statement rfl (by simp [hfor])⟩
    rw [hplain hdefinition]
    simp only [visitSteps, hfor, mem_markedSteps]
    refine ⟨hchild, hproper, ?_⟩
    rw [if_neg (by simpa using hpasses)]
  · rename_i hfunction
    refine ⟨.walked, ?_, .statement rfl (by simp [hfunction])⟩
    rw [hcontents (by simp [hfunction]), contentsSteps_function hfunction]
    exact List.mem_append_right _ (mem_firstStep.2 ⟨hchild, hfirst hpasses, rfl⟩)
  · rename_i hclass
    have hbody := child?_eq_some_iff.2 ⟨index, hfirst hpasses, hchild⟩
    refine ⟨.classBody, ?_, .body (hroot.body path parent hparent hclass child hbody)⟩
    rw [hcontents (by simp [hclass]), contentsSteps_classDefinition hclass]
    exact List.mem_append_right _ (mem_firstStep.2 ⟨hchild, hfirst hpasses, rfl⟩)
  · rename_i hdecorated
    have hne := construct_ne_of_indexOf? hroot hparent hdecorated (hfirst hpasses) hchild
    refine ⟨.contents, ?_, .decorated hdecorated (hfirst hpasses)⟩
    exact (mem_componentSteps_decorated hdecorated).2
      ⟨hchild, .inr ⟨hfirst hpasses, (if_neg hne).symm⟩⟩
  · have hdefinition : parent.construct.isDefinition = false := by
      cases hconstruct : parent.construct <;> simp_all [Construct.isDefinition]
    refine ⟨.walked, ?_, .statement rfl (Node.construct_ne_of_isDefinition rfl hdefinition)⟩
    rw [hplain hdefinition, visitSteps_of_isGeneric hpasses]
    exact mem_properSteps.2 ⟨hchild, hproper, rfl⟩

/-- The ways on from a node so entered are those from a component, or those from a body. -/
theorem steps_of_entry {path : List Nat} {parent child : Node} {index : Nat} {stance : Stance}
    (hparent : root.at? path = some parent) (hchild : parent.children[index]? = some child)
    (hproper : child.isProper) (hentry : Entry parent index child stance) :
    steps stance child = componentSteps child ∨ stance = .classBody ∧ child.kind = "block" := by
  cases hentry with
  | statement hstance =>
    exact .inl (steps_eq_componentSteps hstance (Node.extra_of_isProper hproper))
  | decorated hdecorated hindex =>
    exact .inl (steps_contents (construct_ne_of_indexOf? hroot hparent hdecorated hindex hchild))
  | body hblock => exact .inr ⟨rfl, hblock⟩

include hstand in
/-- Steps lead to every node that holds what stands as statements. -/
theorem exists_entry {path : List Nat} {parent child : Node} {index : Nat}
    (hparent : root.at? path = some parent) (hchild : parent.children[index]? = some child)
    (h : child.holds kinds) :
    ∃ stance, Leads .top root (path ++ [index]) stance child ∧ Entry parent index child stance := by
  -- The induction is on the path from its end: the stance towards the parent gives the next one.
  induction path using List.reverseRecOn generalizing index parent child with
  | nil =>
    obtain rfl := Option.some.inj hparent
    have hstart : root.at? [] = some root := rfl
    have hproper := hstand.isProper hstart hchild h
    have hstep : ⟨.component, child, index⟩ ∈ steps .top root :=
      mem_properSteps.2 ⟨hchild, hproper, rfl⟩
    exact ⟨.component, (Leads.here _ _).concat hstep,
      .statement rfl (Node.construct_ne_of_isDefinition rfl hroot.start)⟩
  | append_singleton above last ih =>
    obtain ⟨around, haround, hlast⟩ := Node.exists_parent hparent
    have hholds := Node.holds_of_child (List.mem_of_getElem? hchild) h
    have hproper := hstand.isProper hparent hchild h
    have haroundProper := hstand.isProper haround hlast hholds
    obtain ⟨stance, hleads, hentry⟩ := ih haround hlast hholds
    rcases steps_of_entry hroot haround hlast haroundProper hentry with hsteps | ⟨rfl, hblock⟩
    · have hextra := Node.extra_of_isProper haroundProper
      have hpasses := hstand.passesTo hparent hchild h (by simp)
      obtain ⟨next, hmem, hnext⟩ := exists_step hroot hparent hextra hchild hproper hpasses
      rw [← hsteps] at hmem
      exact ⟨next, hleads.concat hmem, hnext⟩
    · have hstep : ⟨.member, child, index⟩ ∈ steps .classBody parent :=
        mem_properSteps.2 ⟨hchild, hproper, rfl⟩
      refine ⟨.member, hleads.concat hstep, .statement rfl ?_⟩
      simp [Node.construct_eq_other hblock rfl]

/-- Steps lead to the body of every class. -/
theorem leads_classBody {path : List Nat} {definition body : Node} {index : Nat}
    (hdefinition : root.at? path = some definition)
    (hclass : definition.construct = .classDefinition)
    (hindex : definition.indexOf? "body" = some index)
    (hbody : definition.children[index]? = some body) :
    Leads .top root (path ++ [index]) .classBody body := by
  have hisDefinition : definition.construct.isDefinition := by rw [hclass]; rfl
  have hne : definition.construct ≠ .decoratedDefinition := by simp [hclass]
  have hmem : ⟨.classBody, body, index⟩ ∈ componentSteps definition := by
    rw [componentSteps, if_neg hne, contentsSteps_classDefinition hclass]
    exact List.mem_append_right _ (mem_firstStep.2 ⟨hbody, hindex, rfl⟩)
  rcases List.eq_nil_or_concat' path with rfl | ⟨above, last, rfl⟩
  · obtain rfl := Option.some.inj hdefinition
    exact absurd hroot.start (by simp [hisDefinition])
  · obtain ⟨around, haround, hlast⟩ := Node.exists_parent hdefinition
    have hholds := Node.holds_self hisDefinition
    have hproper := hroot.stand.isProper haround hlast hholds
    obtain ⟨stance, hleads, hentry⟩ := exists_entry hroot hroot.stand haround hlast hholds
    rcases steps_of_entry hroot haround hlast hproper hentry with hsteps | ⟨_, hblock⟩
    · rw [← hsteps] at hmem
      exact hleads.concat hmem
    · simp [Node.construct_eq_other hblock rfl] at hclass

/-- A definition that is not read as the decorated part of another one is a component. -/
theorem isComponentAt_of_definition {path : List Nat} {parent child : Node} {index : Nat}
    {stance : Stance} (hparent : root.at? path = some parent)
    (hchild : parent.children[index]? = some child) (hdefinition : child.construct.isDefinition)
    (hleads : Leads .top root (path ++ [index]) stance child) (hstance : stance ≠ .contents) :
    IsComponentAt root ⟨path ++ [index], child⟩ := by
  -- Were it the decorated part, the only way to it would end in another stance.
  refine .definition hparent hchild hdefinition fun hdecorated _ => ?_
  obtain ⟨other, hother, hentry⟩ :=
    exists_entry hroot hroot.stand hparent hchild (Node.holds_self hdefinition)
  obtain rfl := Leads.unique (decoratesOthers hroot) hother hleads
  cases hentry with
  | statement _ hne => exact hne hdecorated
  | decorated => exact hstance rfl
  | body hblock => simp [Node.construct_eq_other hblock rfl, Construct.isDefinition] at hdefinition

/-- Where a component opens there is one. -/
theorem isComponentAt_of_leads {place : Place} {stance : Stance}
    (hleads : Leads .top root place.path stance place.node) (hopens : opens stance place.node) :
    IsComponentAt root place := by
  obtain ⟨path, node⟩ := place
  rcases List.eq_nil_or_concat' path with rfl | ⟨above, index, rfl⟩
  · cases hleads
    simp [opens] at hopens
  obtain ⟨before, parent, step, hbefore, hstep, rfl, rfl, rfl⟩ := hleads.exists_last
  have hparent := hbefore.at?
  have hchild := getElem?_of_mem_steps hstep
  have hfollows := follows_of_mem_steps hstep
  simp only [Step.Follows] at hfollows
  simp only [opens] at hopens
  cases hstance : step.stance <;>
    simp only [hstance, Bool.and_eq_true, Bool.false_eq_true] at hopens hfollows
  case component =>
    subst hfollows
    obtain rfl := hbefore.eq_nil_of_top
    obtain rfl := Option.some.inj hparent
    exact .statement hchild (mem_properSteps.1 hstep).2.1
  case walked | target =>
    exact isComponentAt_of_definition hroot hparent hchild hopens.2 hleads (by simp [hstance])
  case member =>
    subst hfollows
    rcases Bool.or_eq_true_iff.1 hopens with hdefinition | hassignment
    · exact isComponentAt_of_definition hroot hparent hchild hdefinition hleads (by simp [hstance])
    · obtain ⟨around, bodyIndex, rfl⟩ := hbefore.exists_concat (by decide)
      obtain ⟨_, definition, last, hdefinition, hlast, rfl, hbody, rfl⟩ := hbefore.exists_last
      have hclass := follows_of_mem_steps hlast
      simp only [Step.Follows, hbody] at hclass
      exact .member hdefinition.at? hclass.1 hclass.2 (getElem?_of_mem_steps hlast) hchild
        (mem_properSteps.1 hstep).2.1 hassignment

/-- A component opens where there is one. -/
theorem exists_leads {place : Place} (h : IsComponentAt root place) :
    ∃ stance, Leads .top root place.path stance place.node ∧ opens stance place.node := by
  cases h with
  | statement hchild hproper =>
    have hstep : ⟨.component, _, _⟩ ∈ steps .top root := mem_properSteps.2 ⟨hchild, hproper, rfl⟩
    exact ⟨.component, (Leads.here .top root).concat hstep, rfl⟩
  | @definition parent node path index hparent hchild hdefinition hdecorated =>
    have hholds := Node.holds_self hdefinition
    have hproper := hroot.stand.isProper hparent hchild hholds
    obtain ⟨stance, hleads, hentry⟩ := exists_entry hroot hroot.stand hparent hchild hholds
    refine ⟨stance, hleads, ?_⟩
    cases hentry with
    | statement hstance =>
      cases stance <;>
        simp_all [opens, isMember, Stance.isStatement, Node.extra_of_isProper hproper]
    | decorated h hindex => exact absurd hindex (hdecorated h)
    | body hblock =>
      simp [Node.construct_eq_other hblock rfl, Construct.isDefinition] at hdefinition
  | member hdefinition hclass hindex hbody hchild hproper hassignment =>
    have hstep : ⟨.member, _, _⟩ ∈ steps .classBody _ := mem_properSteps.2 ⟨hchild, hproper, rfl⟩
    have hleads := leads_classBody hroot hdefinition hclass hindex hbody
    refine ⟨.member, hleads.concat hstep, ?_⟩
    simp [opens, isMember, hassignment]

/-- The places at which a component opens are those where there is one. -/
theorem mem_entered_iff {place : Place} :
    place ∈ entered (tour .top none ⟨[], root⟩) ↔ IsComponentAt root place := by
  constructor
  · intro h
    obtain ⟨⟨_, opening, owner⟩, hvisit, hopening, rfl⟩ := mem_entered.1 h
    obtain ⟨stance, hleads, hopens⟩ := mem_tour_iff.1 ⟨owner, hvisit⟩
    rw [isFound, if_pos hopening] at hopens
    exact isComponentAt_of_leads hroot hleads hopens
  · intro h
    obtain ⟨stance, hleads, hopens⟩ := exists_leads hroot h
    obtain ⟨owner, hvisit⟩ := mem_tour_iff.2 ⟨stance, hleads, (if_pos rfl).trans hopens⟩
    exact mem_entered.2 ⟨_, hvisit, rfl, rfl⟩

include hstand in
/-- What holds what stands as statements is not read as a target. -/
theorem leads_of_holds {path : List Nat} {found : Node}
    (hfound : root.at? path = some found) (h : found.holds kinds) (hpath : path ≠ []) :
    ∃ stance, Leads .top root path stance found ∧ stance ≠ .target := by
  obtain ⟨above, last, rfl⟩ := (List.eq_nil_or_concat' path).resolve_left hpath
  obtain ⟨parent, hparent, hlast⟩ := Node.exists_parent hfound
  obtain ⟨stance, hleads, hentry⟩ := exists_entry hroot hstand hparent hlast h
  refine ⟨stance, hleads, ?_⟩
  rintro rfl
  cases hentry with
  | statement hstance => exact absurd hstance (by decide)

include hstand in
/-- What is around a node that stands as a statement does. -/
theorem isSurrounded_of_holds {place : Place} (hplace : root.at? place.path = some place.node)
    (h : place.node.holds kinds) : IsSurrounded root place := by
  intro above parent index habove hwithin hparent
  obtain ⟨rest, hrest⟩ := hwithin
  rw [← hrest, Node.at?_append] at hplace
  obtain ⟨child, hchild, hfound⟩ := Option.bind_eq_some_iff.1 hplace
  obtain ⟨around, haround, hindex⟩ := Node.exists_parent hchild
  obtain rfl := Option.some.inj (hparent.symm.trans haround)
  have hholds := Node.holds_of_at? hfound h
  refine ⟨hstand.passesTo hparent hindex hholds habove, ?_⟩
  exact leads_of_holds hroot hstand hparent
    (Node.holds_of_child (List.mem_of_getElem? hindex) hholds) habove

/-- What is around a component lets definitions stand there and is not read as a target. -/
theorem isSurrounded_of_isComponentAt {place : Place} (h : IsComponentAt root place) :
    IsSurrounded root place := by
  cases h with
  | statement =>
    intro above parent index habove hwithin
    have hlength := hwithin.length_le
    have := List.length_pos_of_ne_nil habove
    simp only [List.length_append, List.length_singleton] at hlength
    omega
  | @definition around node path last haround hchild hdefinition =>
    have hplace : root.at? (Place.mk (path ++ [last]) node).path = some node := by
      rw [Node.at?_concat, haround]
      exact hchild
    exact isSurrounded_of_holds hroot hroot.stand hplace (Node.holds_self hdefinition)
  | @member definition body node path bodyIndex last hdefinition hclass hindex hbody =>
    intro above parent index habove hwithin hparent
    have hholds : definition.holds Construct.isDefinition :=
      Node.holds_self (by rw [hclass]; rfl)
    have hblock := hroot.body path definition hdefinition hclass body
      (child?_eq_some_iff.2 ⟨bodyIndex, hindex, hbody⟩)
    -- The step into the assignment, the step into the body, and those around the class.
    rcases List.prefix_concat_iff.1 hwithin with heq | hwithin
    · obtain ⟨rfl, -⟩ := List.append_inj' heq rfl
      have hleads := leads_classBody hroot hdefinition hclass hindex hbody
      obtain rfl := Option.some.inj (hparent.symm.trans hleads.at?)
      refine ⟨?_, .classBody, hleads, by decide⟩
      simp [Node.passesTo, Node.construct_eq_other hblock rfl, Construct.isGeneric]
    · rcases List.prefix_concat_iff.1 hwithin with heq | hwithin
      · obtain ⟨rfl, hlast⟩ := List.append_inj' heq rfl
        obtain rfl := List.singleton_inj.1 hlast
        obtain rfl := Option.some.inj (hparent.symm.trans hdefinition)
        refine ⟨?_, leads_of_holds hroot hroot.stand hparent hholds habove⟩
        simp [Node.passesTo, hclass, hindex]
      · have hplace : root.at? (Place.mk path definition).path = some definition := hdefinition
        have hsurrounded := isSurrounded_of_holds hroot hroot.stand hplace hholds
        exact hsurrounded above parent index habove hwithin hparent

end Statements

section Order

variable {stance : Stance} {node : Node}

theorem pairwise_map_zipIdx {children : List (Node × Nat)}
    (h : children.Sublist node.children.zipIdx) (stance : Node × Nat → Stance) :
    (children.map fun child => Step.to (stance child) child).Pairwise (·.index < ·.index) :=
  List.pairwise_map.2 ((pairwise_zipIdx _).sublist h)

theorem pairwise_properSteps (stance : Stance) (node : Node) :
    (properSteps stance node).Pairwise (·.index < ·.index) :=
  pairwise_map_zipIdx List.filter_sublist fun _ => stance

theorem pairwise_firstStep (stance : Stance) (node : Node) (role : String) :
    (firstStep stance node role).Pairwise (·.index < ·.index) :=
  pairwise_map_zipIdx (sublist_find? _ _) fun _ => stance

theorem pairwise_markedSteps (node : Node) (role : String) (stance : Bool → Node → Stance) :
    (markedSteps node role stance).Pairwise (·.index < ·.index) := by
  have hsub := (List.filter_sublist (p := (·.2.1.isProper))
    (l := Node.markFirst (·.1.role == some role) node.children.zipIdx)).map Prod.snd
  rw [map_snd_markFirst] at hsub
  have hsorted := List.pairwise_map.1 ((pairwise_zipIdx _).sublist hsub)
  exact List.pairwise_map.2 hsorted

/-- Two steps into children in which definitions may stand are taken from front to back. -/
def Step.IsBefore (node : Node) (step next : Step) : Prop :=
  node.passesTo step.index → node.passesTo next.index → step.index < next.index

theorem pairwise_visitSteps (node : Node) :
    (visitSteps node).Pairwise (Step.IsBefore node) := by
  have hsorted {row : List Step} (h : row.Pairwise (·.index < ·.index)) :
      row.Pairwise (Step.IsBefore node) := h.imp fun hlt _ _ => hlt
  unfold visitSteps
  split
  -- No definition may stand in an assignment, so nothing is said about the order of its parts.
  case h_1 hconstruct | h_2 hconstruct | h_6 hconstruct =>
    refine List.pairwise_of_forall fun step next hstep => ?_
    simp [Node.passesTo, hconstruct, Construct.isGeneric] at hstep
  case h_3 | h_4 | h_5 => exact hsorted (pairwise_markedSteps ..)
  case h_14 | h_15 | h_16 => exact hsorted (pairwise_firstStep ..)
  case h_7 | h_17 => exact hsorted (pairwise_properSteps ..)
  all_goals exact .nil

theorem pairwise_contentsSteps (h : node.construct.isDefinition = false) :
    (contentsSteps node).Pairwise (Step.IsBefore node) := by
  rw [contentsSteps_of_ne (Node.construct_ne_of_isDefinition rfl h)
    (Node.construct_ne_of_isDefinition rfl h)]
  split
  · exact .nil
  · exact pairwise_visitSteps node

/-- Definitions lead on to other definitions in one child only. -/
theorem eq_of_passesTo (h : node.construct.isDefinition) {first second : Nat}
    (hfirst : node.passesTo first) (hsecond : node.passesTo second) : first = second := by
  have hsame {role : String} (h : (node.indexOf? role == some first) = true)
      (h' : (node.indexOf? role == some second) = true) : first = second :=
    Option.some.inj ((beq_iff_eq.1 h).symm.trans (beq_iff_eq.1 h'))
  cases hconstruct : node.construct with
  | functionDefinition | classDefinition | decoratedDefinition =>
    simp only [Node.passesTo, hconstruct] at hfirst hsecond
    exact hsame hfirst hsecond
  | _ => simp [hconstruct, Construct.isDefinition] at h

/-- Reading goes from front to back, as far as definitions are concerned and unless the node is a
target. -/
theorem pairwise_steps (hdecorates : DecoratesOthers node) (hstance : stance ≠ .target) :
    (steps stance node).Pairwise (Step.IsBefore node) := by
  by_cases hdefinition : node.construct.isDefinition
  · refine ((areWays_steps stance node).apart hdecorates).imp fun hne hfirst hsecond => ?_
    exact absurd (eq_of_passesTo hdefinition hfirst hsecond) hne
  rw [Bool.not_eq_true] at hdefinition
  have hsorted {row : List Step} (h : row.Pairwise (·.index < ·.index)) :
      row.Pairwise (Step.IsBefore node) := h.imp fun hlt _ _ => hlt
  have hcomponent : (componentSteps node).Pairwise (Step.IsBefore node) := by
    rw [componentSteps, if_neg (Node.construct_ne_of_isDefinition rfl hdefinition)]
    exact pairwise_contentsSteps hdefinition
  have hwalked : (walkedSteps node).Pairwise (Step.IsBefore node) := by
    rw [walkedSteps, hdefinition]
    split
    · exact .nil
    · exact pairwise_visitSteps node
  cases stance with
  | top | row | classBody => exact hsorted (pairwise_properSteps ..)
  | component => exact hcomponent
  | contents => exact pairwise_contentsSteps hdefinition
  | walked => exact hwalked
  | visited => exact pairwise_visitSteps node
  | target => exact absurd rfl hstance
  | parameter =>
    simp only [steps]
    split
    iterate 2 exact hsorted (pairwise_firstStep ..)
    exact .nil
  | decorator => exact hsorted (pairwise_map_zipIdx (sublist_find? _ _) fun _ => .walked)
  | member =>
    simp only [steps]
    split
    · exact hcomponent
    · exact hwalked

theorem lt_of_index_lt {path first second : List Nat} {index other : Nat} (h : index < other)
    (hfirst : path ++ [index] <+: first) (hsecond : path ++ [other] <+: second) :
    first < second := by
  obtain ⟨rest, rfl⟩ := hfirst
  obtain ⟨rest', rfl⟩ := hsecond
  rw [List.append_assoc, List.append_assoc]
  exact List.append_left_lt (.rel h)

theorem lt_of_child {path inner : List Nat} {index : Nat} (h : path ++ [index] <+: inner) :
    path < inner := by
  obtain ⟨rest, rfl⟩ := h
  have hrest : [] < index :: rest := .nil
  simpa using List.append_left_lt hrest

variable {root : Node} (hroot : root.DefinesInStatements)

include hroot

/-- The places below earlier steps come first. -/
theorem pairwise_surrounded {path : List Nat} (hleads : Leads .top root path stance node) :
    (steps stance node).Pairwise fun step next => ∀ {first second : Place},
      IsSurrounded root first → path ++ [step.index] <+: first.path →
      IsSurrounded root second → path ++ [next.index] <+: second.path →
      first.path < second.path := by
  -- The statements at top level are taken in order whatever they are.
  by_cases hpath : path = []
  · subst hpath
    cases hleads
    refine (pairwise_properSteps .component _).imp fun hlt _ _ _ hfirst _ hsecond => ?_
    exact lt_of_index_lt hlt hfirst hsecond
  have hstance {index : Nat} {place : Place} (hplace : IsSurrounded root place)
      (hbelow : path ++ [index] <+: place.path) : node.passesTo index ∧ stance ≠ .target := by
    obtain ⟨hpasses, other, hother, hne⟩ := hplace path node index hpath hbelow hleads.at?
    exact ⟨hpasses, Leads.unique (decoratesOthers hroot) hother hleads ▸ hne⟩
  by_cases htarget : stance = .target
  · refine List.pairwise_of_forall fun _ _ _ _ hfirst hbelow => ?_
    exact absurd htarget (hstance hfirst hbelow).2
  · refine (pairwise_steps (decoratesOthers hroot path node hleads.at?) htarget).imp ?_
    intro step next hbefore first second hfirst hfirst' hsecond hsecond'
    have hlt := hbefore (hstance hfirst hfirst').1 (hstance hsecond hsecond').1
    exact lt_of_index_lt hlt hfirst' hsecond'

/-- The components of a tour stand in the order of their paths if definitions might stand there,
and so does what the tour finds. A component and what is found at its node have the same path, so
the two sorts are not compared with each other. -/
theorem pairwise_lt_tour_of {sought : Sought} (opening : Bool) {stance : Stance}
    {under : Option Place} {place : Place}
    (hleads : Leads .top root place.path stance place.node)
    (hplaces : ∀ visit ∈ tour stance under place sought, visit.opens = opening →
      IsSurrounded root visit.place) :
    (tour stance under place sought).Pairwise fun visit next =>
      visit.opens = opening → next.opens = opening → visit.place.path < next.place.path := by
  refine pairwise_tour_of (fun _ hopens hnext => ?_) (fun inner hsub => ?_)
    fun _ _ _ _ hpath _ _ => lt_of_child hpath
  · exact absurd (hopens.trans hnext.symm) Bool.noConfusion
  have hbelow {step : Step} (hstep : step ∈ steps stance place.node) {visit : Visit}
      (hvisit : visit ∈ tour step.stance inner (place.child step.node step.index) sought)
      (hopens : visit.opens = opening) : IsSurrounded root visit.place :=
    hplaces visit (hsub.subset (List.mem_flatMap.2 ⟨step, hstep, hvisit⟩)) hopens
  refine List.pairwise_flatMap.2 ⟨fun step hstep => ?_, ?_⟩
  · have hsmaller := size_lt_of_mem_steps hstep
    exact pairwise_lt_tour_of opening (hleads.concat hstep) fun visit hvisit =>
      hbelow hstep hvisit
  · refine (pairwise_surrounded hroot hleads).imp_of_mem ?_
    intro step next hstep hnext hlt visit hvisit other hother hopens hopens'
    exact hlt (hbelow hstep hvisit hopens) (prefix_of_mem_tour hvisit)
      (hbelow hnext hother hopens') (prefix_of_mem_tour hother)
termination_by place.node.size
decreasing_by exact hsmaller

/-- Components are found in the order of their paths. -/
theorem pairwise_lt_tour {stance : Stance} {under : Option Place} {place : Place}
    (hleads : Leads .top root place.path stance place.node)
    (hcomponents : ∀ visit ∈ tour stance under place, visit.opens →
      IsComponentAt root visit.place) :
    (tour stance under place).Pairwise fun visit next =>
      visit.opens → next.opens → visit.place.path < next.place.path :=
  pairwise_lt_tour_of hroot true hleads fun visit hvisit hopens =>
    isSurrounded_of_isComponentAt hroot (hcomponents visit hvisit hopens)

end Order

end SourceLedger.Outline

namespace SourceLedger

open Outline (IsComponentAt Place entered fileTour tour)

namespace Extraction

/-- Where definitions stand as statements only, the components that are taken from a text are those
of its tree, from front to back, each with the innermost component around it as its parent. They
are so with names given or not. -/
theorem components_in_order (path text : String) {tree : Syntax.Tree} (options : ExtractOptions)
    (hstatements : tree.root.namedChildren ≠ []) (hroot : tree.root.DefinesInStatements) :
    ∃ places : List Place, (∀ place, place ∈ places ↔ IsComponentAt tree.root place) ∧
      places.Pairwise (·.path < ·.path) ∧
      List.Forall₂ (fun place component => component.StandsIn tree places place) places
        (staged path text tree options.recordReads).components ∧
      ∀ result, (staged path text tree options.recordReads).named options.duplicateNames =
          .ok result →
        List.Forall₂ (fun place component => component.StandsIn tree places place) places
          result.components := by
  have hstand (extraction : Extraction)
      (htaken : extraction.IsTaken path text tree options.recordReads) :
      List.Forall₂ (fun place component =>
          component.StandsIn tree (entered (tour .top none ⟨[], tree.root⟩)) place)
        (entered (tour .top none ⟨[], tree.root⟩)) extraction.components := by
    have hplaces := htaken.standsIn (Outline.decoratesOthers hroot)
    rwa [fileTour, if_neg hstatements] at hplaces
  refine ⟨_, fun _ => Outline.mem_entered_iff hroot, ?_, forall_isTaken hstand _⟩
  have hcomponents : ∀ visit ∈ tour .top none ⟨[], tree.root⟩, visit.opens →
      IsComponentAt tree.root visit.place := by
    intro visit hvisit hopens
    exact (Outline.mem_entered_iff hroot).1 (Outline.mem_entered.2 ⟨visit, hvisit, hopens, rfl⟩)
  have hsorted := Outline.pairwise_lt_tour hroot (.here .top tree.root) hcomponents
  refine List.pairwise_map.2 (List.pairwise_filter.2 ?_)
  exact hsorted.imp fun hlt hopens hopens' => hlt hopens hopens'

/-- A function of one line, at an offset. -/
def briefFunction (start : Nat) : Syntax.Node :=
  .mk { kind := "function_definition", start, stop := start + 13 } [
    .mk { kind := "def", named := false, start, stop := start + 3 } [],
    .mk { kind := "identifier", role := some "name", start := start + 4, stop := start + 5 } [],
    .mk { kind := "parameters", role := some "parameters", start := start + 5, stop := start + 7 } [
      .mk { kind := "(", named := false, start := start + 5, stop := start + 6 } [],
      .mk { kind := ")", named := false, start := start + 6, stop := start + 7 } []],
    .mk { kind := ":", named := false, start := start + 7, stop := start + 8 } [],
    .mk { kind := "block", role := some "body", start := start + 9, stop := start + 13 } [
      .mk { kind := "pass_statement", start := start + 9, stop := start + 13 } []]]

/-- A decorated class with an attribute and a method, and a function in a loop. -/
def nestedText : String :=
  "@d\nclass A:\n x = 1\n def m(): pass\nfor i in y:\n def g(): pass\n"

/-- The tree of `nestedText`. -/
def nestedTree : Syntax.Tree where
  root := .mk { kind := "module", start := 0, stop := 61 } [
    .mk { kind := "decorated_definition", start := 0, stop := 33 } [
      .mk { kind := "decorator", start := 0, stop := 3 } [
        .mk { kind := "@", named := false, start := 0, stop := 1 } [],
        .mk { kind := "identifier", start := 1, stop := 2 } []],
      .mk { kind := "class_definition", role := some "definition", start := 3, stop := 33 } [
        .mk { kind := "class", named := false, start := 3, stop := 8 } [],
        .mk { kind := "identifier", role := some "name", start := 9, stop := 10 } [],
        .mk { kind := ":", named := false, start := 10, stop := 11 } [],
        .mk { kind := "block", role := some "body", start := 13, stop := 33 } [
          .mk { kind := "expression_statement", start := 13, stop := 18 } [
            .mk { kind := "assignment", start := 13, stop := 18 } [
              .mk { kind := "identifier", role := some "left", start := 13, stop := 14 } [],
              .mk { kind := "=", named := false, start := 15, stop := 16 } [],
              .mk { kind := "integer", role := some "right", start := 17, stop := 18 } []]],
          briefFunction 20]]],
    .mk { kind := "for_statement", start := 34, stop := 60 } [
      .mk { kind := "for", named := false, start := 34, stop := 37 } [],
      .mk { kind := "identifier", role := some "left", start := 38, stop := 39 } [],
      .mk { kind := "in", named := false, start := 40, stop := 42 } [],
      .mk { kind := "identifier", role := some "right", start := 43, stop := 44 } [],
      .mk { kind := ":", named := false, start := 44, stop := 45 } [],
      .mk { kind := "block", role := some "body", start := 47, stop := 60 } [briefFunction 47]]]
  lines := .ofText nestedText

theorem definesInStatements_nested : nestedTree.root.DefinesInStatements where
  start := by decide
  proper := Syntax.Node.everywhere_of_preorder (by decide)
  passes statement h :=
    Syntax.Node.everywhere_of_preorder ((by decide : ∀ statement ∈ nestedTree.root.children,
      ∀ node ∈ statement.preorder, ∀ child ∈ node.children.zipIdx,
        child.1.holdsDefinition → node.passesTo child.2) statement h)
  definition := Syntax.Node.everywhere_of_preorder (by decide)
  body := Syntax.Node.everywhere_of_preorder (by decide)

/-- The method of the class in `nestedText` is found below the class. -/
theorem components_in_order_nested :
    ∃ extraction places, extract "a.py" nestedText nestedTree {} = .ok extraction ∧
      ⟨[0, 1, 3, 1], briefFunction 20⟩ ∈ places ∧ places.Pairwise (·.path < ·.path) ∧
      List.Forall₂ (fun place component => component.StandsIn nestedTree places place) places
        extraction.components := by
  obtain ⟨extraction, hextract⟩ :
      ∃ extraction, extract "a.py" nestedText nestedTree {} = .ok extraction :=
    exists_extract rfl (by decide)
  obtain ⟨places, hplaces, hsorted, _, hstand⟩ :=
    components_in_order "a.py" nestedText {} (by decide) definesInStatements_nested
  have hbody : ∃ body, nestedTree.root.at? [0, 1, 3] = some body ∧
      body.children[1]? = some (briefFunction 20) ∧ body.construct ≠ .decoratedDefinition :=
    ⟨_, rfl, rfl, by decide⟩
  obtain ⟨_, hbody, hchild, hne⟩ := hbody
  refine ⟨extraction, places, hextract, (hplaces _).2 ?_, hsorted,
    hstand extraction (extract_ok hextract).2⟩
  exact .definition hbody hchild rfl fun hdecorated => absurd hdecorated hne

end Extraction

end SourceLedger
