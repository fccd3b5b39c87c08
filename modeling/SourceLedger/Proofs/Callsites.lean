import Mathlib.Tactic.MkIffOfInductiveProp
import SourceLedger.Proofs.Attribution
import SourceLedger.Proofs.Ways

/-!
# Which calls are found

Reading a module goes on from most nodes to all named children, and from some to the children in
certain roles only. Names and attributes are left out, and so are annotations, return types, type
parameters, the parameters of lambdas, and all of a parameter but its default value. A call is
found just where reading comes to it, and it belongs to the innermost component around it.

Trees are taken to follow the grammar as far as reading relies on it. How a node is read depends on
where it stands, and in such a tree this makes no difference to the ways on.

## Main definitions

* `Node.reads` says which children are read, and `Node.Reads` follows them along a path.
* `Node.FollowsGrammar` is what the grammar says about the children of a node.

## Main statements

* `goes_steps` and `fits_of_mem_steps` are a step of reading, `reads_of_leads` and `leads_of_reads`
  a whole way.
-/

namespace SourceLedger.Syntax

namespace Construct

/-- Parameters with a default value. -/
def hasDefault : Construct → Bool
  | defaultParameter | typedDefaultParameter => true
  | _ => false

/-- The roles of the children that are read, where these are not all named children. -/
def rolesRead? : Construct → Option (List String)
  | functionDefinition => some ["parameters", "body"]
  | classDefinition => some ["superclasses", "body"]
  | assignment | augmentedAssignment => some ["right", "left"]
  | namedExpression => some ["value", "name"]
  | member => some ["object"]
  | keywordArgument | defaultParameter | typedDefaultParameter => some ["value"]
  | lambda => some ["body"]
  | importStatement | importFromStatement | futureImportStatement | globalStatement
  | nonlocalStatement | identifier => some []
  | _ => none

end Construct

namespace Node

/-- A child is read by what its parent is. -/
def admits (node : Node) (index : Nat) (child : Node) : Prop :=
  match node.construct.rolesRead? with
  | some roles => ∃ role ∈ roles, node.indexOf? role = some index
  | none => child.isProper

/-- A child is read. Of the parameters of a function, those with a default value are. -/
def reads (node : Node) (index : Nat) (child : Node) : Prop :=
  node.admits index child ∧ (node.kind = "parameters" → child.construct.hasDefault)

instance (node : Node) (index : Nat) (child : Node) : Decidable (node.admits index child) :=
  match h : node.construct.rolesRead? with
  | some roles =>
    decidable_of_iff (∃ role ∈ roles, node.indexOf? role = some index) (by rw [admits, h])
  | none => decidable_of_iff (child.isProper = true) (by rw [admits, h])

instance (node : Node) (index : Nat) (child : Node) : Decidable (node.reads index child) :=
  inferInstanceAs (Decidable (_ ∧ _))

/-- Reading goes along a path from one node to another. -/
inductive Reads : Node → (path : List Nat) → Node → Prop
  | here (node : Node) : Reads node [] node
  | on {node child found : Node} {index : Nat} {path : List Nat}
      (hchild : node.children[index]? = some child) (hreads : node.reads index child)
      (hrest : Reads child path found) : Reads node (index :: path) found

/-- The children of a node are as the grammar has them. -/
@[mk_iff]
structure FollowsGrammar (node : Node) : Prop where
  /-- Extras play no role. -/
  extra : ∀ child ∈ node.children, child.role ≠ none → child.extra = false
  parameters : node.construct = .functionDefinition → ∀ row ∈ node.child? "parameters",
    row.kind = "parameters"
  /-- Rows of parameters stand in functions and lambdas, in a role of their own. -/
  row : ∀ child ∈ node.children, child.kind = "parameters" ∨ child.kind = "lambda_parameters" →
    (node.construct = .functionDefinition ∨ node.construct = .lambda) ∧
      child.role = some "parameters"
  /-- Parameters stand in rows of parameters. -/
  default : ∀ child ∈ node.children, child.construct.hasDefault →
    node.kind = "parameters" ∨ node.kind = "lambda_parameters"
  body : node.construct = .classDefinition → ∀ body ∈ node.child? "body", body.kind = "block"
  /-- A definition is decorated, and all else that is named is a decorator. -/
  decorated : node.construct = .decoratedDefinition → ∀ child ∈ node.children.zipIdx,
    (child.1.isProper →
      child.1.construct = .decorator ∨ node.indexOf? "definition" = some child.2) ∧
    (node.indexOf? "definition" = some child.2 →
      child.1.isProper ∧ child.1.construct ≠ .decorator)
  /-- A decorator has one expression. -/
  decorator : node.construct = .decorator → ∀ child ∈ node.children.zipIdx, child.1.isProper →
    node.children.findIdx? isProper = some child.2
  /-- All that is named in a subscript is in one of two roles. -/
  subscript : node.construct = .subscript → ∀ child ∈ node.children.zipIdx,
    (child.1.isProper ↔
      node.indexOf? "value" = some child.2 ∨ child.1.role = some "subscript")

set_option synthInstance.maxSize 512 in
instance (node : Node) : Decidable node.FollowsGrammar :=
  decidable_of_iff' _ (followsGrammar_iff node)

/-- A module is a tree that follows the grammar. -/
structure IsModule (root : Node) : Prop where
  kind : root.kind = "module"
  grammar : root.Everywhere FollowsGrammar

/-- A node that is no part of a row of parameters. -/
structure IsPlain (node : Node) : Prop where
  extra : node.extra = false
  kind : node.kind ≠ "parameters" ∧ node.kind ≠ "lambda_parameters"
  construct : node.construct.hasDefault = false

/-- Children are no parts of rows of parameters, unless they are read for being some. -/
theorem FollowsGrammar.isPlain {node child : Node} (h : node.FollowsGrammar)
    (hkind : node.kind ≠ "parameters" ∧ node.kind ≠ "lambda_parameters")
    (hchild : child ∈ node.children) (hextra : child.extra = false)
    (hrole : child.role = some "parameters" →
      node.construct ≠ .functionDefinition ∧ node.construct ≠ .lambda) : child.IsPlain := by
  have hrow : ¬ (child.kind = "parameters" ∨ child.kind = "lambda_parameters") := by
    intro hchild'
    obtain ⟨hconstruct, hparameters⟩ := h.row child hchild hchild'
    exact hconstruct.elim (hrole hparameters).1 (hrole hparameters).2
  refine ⟨hextra, not_or.1 hrow, ?_⟩
  by_contra hdefault
  rw [Bool.not_eq_false] at hdefault
  exact (h.default child hchild hdefault).elim hkind.1 hkind.2

end Node

end SourceLedger.Syntax

namespace SourceLedger.Outline

open Syntax (Node Construct)

/-- Some steps go to a child. -/
def Goes (row : List Step) (index : Nat) (child : Node) : Prop :=
  ∃ stance, ⟨stance, child, index⟩ ∈ row

section Goes

variable {node child : Node} {index : Nat}

@[simp]
theorem goes_nil : ¬ Goes [] index child := by
  simp [Goes]

@[simp]
theorem goes_append {row more : List Step} :
    Goes (row ++ more) index child ↔ Goes row index child ∨ Goes more index child := by
  simp [Goes, exists_or]

@[simp]
theorem goes_firstStep {stance : Stance} {role : String} :
    Goes (firstStep stance node role) index child ↔
      node.children[index]? = some child ∧ node.indexOf? role = some index := by
  simp [Goes, mem_firstStep]

@[simp]
theorem goes_stepsIn {stance : Stance} {role : String} :
    Goes (stepsIn stance node role) index child ↔
      node.children[index]? = some child ∧ child.role = some role := by
  simp [Goes, mem_stepsIn]

@[simp]
theorem goes_properSteps {stance : Stance} :
    Goes (properSteps stance node) index child ↔
      node.children[index]? = some child ∧ child.isProper := by
  simp [Goes, mem_properSteps]

@[simp]
theorem goes_markedSteps {role : String} {stance : Bool → Node → Stance} :
    Goes (markedSteps node role stance) index child ↔
      node.children[index]? = some child ∧ child.isProper := by
  simp [Goes, mem_markedSteps]

theorem goes_visitSteps (h : node.construct.isDefinition = false)
    (hdefault : node.construct.hasDefault = false) :
    Goes (visitSteps node) index child ↔
      node.children[index]? = some child ∧ node.admits index child := by
  cases hconstruct : node.construct <;>
    simp_all [visitSteps, Node.admits, Construct.rolesRead?, Construct.isDefinition,
      Construct.hasDefault, and_or_left]

theorem goes_componentSteps (hgrammar : node.FollowsGrammar) (hplain : node.IsPlain) :
    Goes (componentSteps node) index child ↔
      node.children[index]? = some child ∧ node.admits index child := by
  by_cases hdecorated : node.construct = .decoratedDefinition
  · have hrow : Goes (componentSteps node) index child ↔ node.children[index]? = some child ∧
        (child.isProper ∧ child.construct = .decorator ∨
          node.indexOf? "definition" = some index) := by
      simp [Goes, mem_componentSteps_decorated hdecorated, ← and_assoc, exists_or]
    rw [hrow, Node.admits, hdecorated]
    refine and_congr_right fun hchild => ?_
    have hmem : (child, index) ∈ node.children.zipIdx := List.mem_zipIdx_iff_getElem?.2 hchild
    obtain ⟨hproper, hdefinition⟩ := hgrammar.decorated hdecorated _ hmem
    constructor
    · rintro (hdecorator | hindex)
      · exact hdecorator.1
      · exact (hdefinition hindex).1
    · intro hchild
      exact (hproper hchild).imp (⟨hchild, ·⟩) id
  by_cases hfunction : node.construct = .functionDefinition
  · rw [componentSteps, if_neg hdecorated, contentsSteps_function hfunction]
    simp [Node.admits, hfunction, Construct.rolesRead?, and_or_left]
  by_cases hclass : node.construct = .classDefinition
  · rw [componentSteps, if_neg hdecorated, contentsSteps_classDefinition hclass]
    simp [Node.admits, hclass, Construct.rolesRead?, and_or_left]
  have hdefinition : node.construct.isDefinition = false := by
    cases hconstruct : node.construct <;> simp_all [Construct.isDefinition]
  rw [componentSteps_eq_visitSteps hplain.extra hdefinition]
  exact goes_visitSteps hdefinition hplain.construct

end Goes

/-- The nodes towards which a stance is taken in a module. -/
def Stance.Fits (stance : Stance) (node : Node) : Prop :=
  match stance with
  | .top => node.kind = "module"
  | .row => node.kind = "parameters"
  | .parameter => node.construct.hasDefault
  | .decorator => node.construct = .decorator
  | .classBody => node.kind = "block"
  | .visited => False
  | .contents => node.IsPlain ∧ node.construct ≠ .decoratedDefinition
  | .component | .walked | .target | .member => node.IsPlain

section Steps

variable {stance : Stance} {node child : Node} {index : Nat} {step : Step}

theorem goes_target (hgrammar : node.FollowsGrammar) (hplain : node.IsPlain) :
    Goes (steps .target node) index child ↔
      node.children[index]? = some child ∧ node.admits index child := by
  have hwalked : Goes (walkedSteps node) index child ↔
      node.children[index]? = some child ∧ node.admits index child := by
    rw [walkedSteps_eq_componentSteps hplain.extra]
    exact goes_componentSteps hgrammar hplain
  simp only [steps]
  split
  · rename_i h
    simp [Node.admits, h, Construct.rolesRead?]
  · rename_i h
    simp [Node.admits, h, Construct.rolesRead?]
  · rename_i h
    rw [goes_append, goes_firstStep, goes_stepsIn, ← and_or_left, Node.admits, h]
    refine and_congr_right fun hchild => ?_
    have hmem : (child, index) ∈ node.children.zipIdx := List.mem_zipIdx_iff_getElem?.2 hchild
    exact (hgrammar.subscript h _ hmem).symm
  iterate 3
    rename_i h
    simp [Node.admits, h, Construct.rolesRead?]
  · exact hwalked

/-- Reading goes on from a node to the children that the node admits, in whatever stance. -/
theorem goes_steps (hgrammar : node.FollowsGrammar) (hfits : stance.Fits node) :
    Goes (steps stance node) index child ↔
      node.children[index]? = some child ∧ node.admits index child := by
  cases stance with
  | top | row | classBody =>
    have h := Node.construct_eq_other hfits rfl
    simp [steps, Node.admits, h, Construct.rolesRead?]
  | component => exact goes_componentSteps hgrammar hfits
  | contents =>
    rw [steps_contents hfits.2]
    exact goes_componentSteps hgrammar hfits.1
  | walked | member =>
    rw [steps_eq_componentSteps rfl hfits.extra]
    exact goes_componentSteps hgrammar hfits
  | visited => exact hfits.elim
  | target => exact goes_target hgrammar hfits
  | parameter =>
    have hconstruct : node.construct = .defaultParameter ∨
        node.construct = .typedDefaultParameter := by
      cases h : node.construct <;> simp_all [Stance.Fits, Construct.hasDefault]
    rcases hconstruct with h | h <;> simp [steps, h, Node.admits, Construct.rolesRead?]
  | decorator =>
    have h : node.construct = .decorator := hfits
    have hrow : Goes (steps .decorator node) index child ↔ node.children[index]? = some child ∧
        node.children.findIdx? Node.isProper = some index := by
      constructor
      · rintro ⟨stance, hstep⟩
        have hfound := (mem_map_find?_zipIdx Node.isProper fun _ => .walked).1 hstep
        exact ⟨hfound.1, hfound.2.1⟩
      · rintro ⟨hchild, hindex⟩
        exact ⟨.walked, (mem_map_find?_zipIdx Node.isProper fun _ => .walked).2
          ⟨hchild, hindex, rfl⟩⟩
    rw [hrow, Node.admits, h]
    refine and_congr_right fun hchild => ⟨fun hindex => ?_, fun hproper => ?_⟩
    · obtain ⟨hlt, hproper, _⟩ := List.findIdx?_eq_some_iff_getElem.1 hindex
      rw [List.getElem?_eq_getElem hlt] at hchild
      rwa [Option.some.inj hchild] at hproper
    · exact hgrammar.decorator h (child, index) (List.mem_zipIdx_iff_getElem?.2 hchild) hproper

/-- A child that is read is no part of a row of parameters, the row of a function apart. -/
theorem isPlain_of_admits (hgrammar : node.FollowsGrammar)
    (hkind : node.kind ≠ "parameters" ∧ node.kind ≠ "lambda_parameters")
    (hchild : node.children[index]? = some child) (hadmits : node.admits index child)
    (hrow : node.construct = .functionDefinition → node.indexOf? "parameters" ≠ some index) :
    child.IsPlain := by
  have hmem := List.mem_of_getElem? hchild
  unfold Node.admits at hadmits
  split at hadmits
  · rename_i roles hroles
    obtain ⟨role, hrole, hindex⟩ := hadmits
    have hchildRole := Node.role_of_indexOf? hindex hchild
    refine hgrammar.isPlain hkind hmem (hgrammar.extra child hmem (by simp [hchildRole])) ?_
    intro hsame
    obtain rfl := Option.some.inj (hchildRole.symm.trans hsame)
    refine ⟨fun hfunction => hrow hfunction hindex, fun hlambda => ?_⟩
    rw [hlambda] at hroles
    obtain rfl := Option.some.inj hroles
    simp at hrole
  · rename_i hroles
    refine hgrammar.isPlain hkind hmem (Node.extra_of_isProper hadmits) fun _ => ?_
    constructor
    · intro hfunction
      simp [hfunction, Construct.rolesRead?] at hroles
    · intro hlambda
      simp [hlambda, Construct.rolesRead?] at hroles

theorem row_or_body_of_mem_steps (hfits : stance.Fits node)
    (hfunction : node.construct = .functionDefinition) (h : step ∈ steps stance node) :
    step.stance = .row ∨ node.indexOf? "body" = some step.index := by
  have hcomponent : step ∈ componentSteps node →
      step.stance = .row ∨ node.indexOf? "body" = some step.index := by
    rw [componentSteps, if_neg (by simp [hfunction]), contentsSteps_function hfunction,
      List.mem_append, mem_firstStep, mem_firstStep]
    exact Or.imp (·.2.2) (·.2.1)
  cases stance with
  | component | walked | member =>
    rw [steps_eq_componentSteps rfl hfits.extra] at h
    exact hcomponent h
  | contents =>
    rw [steps_contents hfits.2] at h
    exact hcomponent h
  | target =>
    simp only [steps, hfunction] at h
    rw [walkedSteps_eq_componentSteps hfits.extra] at h
    exact hcomponent h
  | top | row | classBody => simp [Node.construct_eq_other hfits rfl] at hfunction
  | parameter => simp [Stance.Fits, hfunction, Construct.hasDefault] at hfits
  | decorator => simp [Stance.Fits, hfunction] at hfits
  | visited => exact hfits.elim

theorem kind_of_fits (hfits : stance.Fits node) (hne : stance ≠ .row) :
    node.kind ≠ "parameters" ∧ node.kind ≠ "lambda_parameters" := by
  have hconstruct (h : node.construct ≠ .other) :
      node.kind ≠ "parameters" ∧ node.kind ≠ "lambda_parameters" :=
    ⟨fun hkind => h (Node.construct_eq_other hkind rfl),
      fun hkind => h (Node.construct_eq_other hkind rfl)⟩
  cases stance with
  | top | classBody =>
    have hkind : node.kind = _ := hfits
    simp [hkind]
  | row => exact absurd rfl hne
  | parameter =>
    refine hconstruct fun hother => ?_
    simp [Stance.Fits, hother, Construct.hasDefault] at hfits
  | decorator =>
    refine hconstruct fun hother => ?_
    simp [Stance.Fits, hother] at hfits
  | visited => exact hfits.elim
  | contents => exact hfits.1.kind
  | component | walked | target | member => exact hfits.kind

/-- A step goes to a node towards which its stance is taken. -/
theorem fits_of_mem_steps (hgrammar : node.FollowsGrammar) (hfits : stance.Fits node)
    (h : step ∈ steps stance node)
    (hparameter : step.stance = .parameter → step.node.construct.hasDefault) :
    step.stance.Fits step.node := by
  have hchild := getElem?_of_mem_steps h
  -- All but rows of parameters and their members are plain nodes.
  have hplain (hrow : step.stance ≠ .row) (hne : step.stance ≠ .parameter) :
      step.node.IsPlain := by
    have hstance : stance ≠ .row := by
      rintro rfl
      exact hne (mem_properSteps.1 h).2.2
    refine isPlain_of_admits hgrammar (kind_of_fits hfits hstance) hchild
      ((goes_steps hgrammar hfits).1 ⟨step.stance, h⟩).2 fun hfunction => ?_
    have hbody := (row_or_body_of_mem_steps hfits hfunction h).resolve_left hrow
    exact Node.indexOf?_ne (by decide) hbody
  have hfollows := follows_of_mem_steps h
  unfold Step.Follows at hfollows
  cases hstance : step.stance <;> simp only [hstance] at hfollows
  case row =>
    exact hgrammar.parameters hfollows.1 step.node
      (child?_eq_some_iff.2 ⟨step.index, hfollows.2, hchild⟩)
  case classBody =>
    exact hgrammar.body hfollows.1 step.node
      (child?_eq_some_iff.2 ⟨step.index, hfollows.2, hchild⟩)
  case parameter => exact hparameter hstance
  case decorator => exact hfollows
  case contents => exact ⟨hplain (by simp [hstance]) (by simp [hstance]), hfollows.2⟩
  all_goals exact hplain (by simp [hstance]) (by simp [hstance])

/-- Where reading goes, steps lead. -/
theorem leads_of_reads {found : Node} {path : List Nat} (h : node.Reads path found)
    (hgrammar : node.Everywhere Node.FollowsGrammar) (hfits : stance.Fits node) :
    ∃ last, Leads stance node path last found ∧ last.Fits found := by
  induction h generalizing stance with
  | here => exact ⟨stance, .here _ _, hfits⟩
  | @on node child found index path hchild hreads _ ih =>
    obtain ⟨next, hstep⟩ := (goes_steps hgrammar.self hfits).2 ⟨hchild, hreads.1⟩
    have hnext : next.Fits child := by
      refine fits_of_mem_steps hgrammar.self hfits hstep fun hparameter => hreads.2 ?_
      obtain rfl : next = .parameter := hparameter
      obtain rfl : stance = .row := follows_of_mem_steps hstep
      exact hfits
    obtain ⟨last, hleads, hlast⟩ := ih (hgrammar.child hchild) hnext
    exact ⟨last, .on hstep hleads, hlast⟩

theorem hasDefault_of_mem_steps (h : step ∈ steps .parameter node) :
    node.construct.hasDefault := by
  simp only [steps] at h
  split at h
  · rename_i hconstruct
    rw [hconstruct]
    rfl
  · rename_i hconstruct
    rw [hconstruct]
    rfl
  · simp at h

/-- Where steps lead, reading goes, unless they end at a parameter without a default value. -/
theorem reads_of_leads {last : Stance} {final : Node} {path : List Nat}
    (h : Leads stance node path last final) (hgrammar : node.Everywhere Node.FollowsGrammar)
    (hfits : stance.Fits node) (hlast : last = .parameter → final.construct.hasDefault) :
    node.Reads path final ∧ last.Fits final := by
  induction h with
  | here => exact ⟨.here _, hfits⟩
  | @on stance last node final step path hstep hrest ih =>
    -- A parameter without a default value leads nowhere, so the way would end there.
    have hparameter : step.stance = .parameter → step.node.construct.hasDefault := by
      intro hstance
      rw [hstance] at hrest
      cases hrest with
      | here => exact hlast rfl
      | on hnext => exact hasDefault_of_mem_steps hnext
    have hadmits := (goes_steps hgrammar.self hfits).1 ⟨step.stance, hstep⟩
    have hnext := fits_of_mem_steps hgrammar.self hfits hstep hparameter
    obtain ⟨hreads, hfinal⟩ := ih (hgrammar.child hadmits.1) hnext hlast
    refine ⟨.on hadmits.1 ⟨hadmits.2, fun hkind => hparameter ?_⟩ hreads, hfinal⟩
    have hrow : stance = .row := by
      by_contra hne
      exact (kind_of_fits hfits hne).1 hkind
    subst hrow
    exact (mem_properSteps.1 hstep).2.2

theorem finds_eq_isCall (hfits : stance.Fits node) :
    finds stance node .calls = isCall node := by
  cases stance with
  | top | row | classBody =>
    refine (isCall_eq_false fun hcall => ?_).symm
    simp [Node.construct_eq_other hfits rfl] at hcall
  | parameter =>
    refine (isCall_eq_false fun hcall => ?_).symm
    simp [Stance.Fits, hcall, Construct.hasDefault] at hfits
  | decorator =>
    refine (isCall_eq_false fun hcall => ?_).symm
    simp [Stance.Fits, hcall] at hfits
  | visited => exact hfits.elim
  | contents => simp [finds, Sought.isAt, hfits.1.extra]
  | component | walked | target | member => simp [finds, Sought.isAt, hfits.extra]

end Steps

section Module

variable {root : Node} (hmodule : root.IsModule)

include hmodule

/-- A tour of a module finds the calls that are read. -/
theorem mem_tour_iff_reads {place : Place} :
    (∃ owner, ⟨place, false, owner⟩ ∈ tour .top none ⟨[], root⟩) ↔
      root.Reads place.path place.node ∧ isCall place.node := by
  rw [mem_tour_iff]
  constructor
  · rintro ⟨last, hleads, hcalls⟩
    have hlast : last = .parameter → place.node.construct.hasDefault := by
      rintro rfl
      simp [isFound, finds] at hcalls
    obtain ⟨hreads, hfits⟩ := reads_of_leads hleads hmodule.grammar hmodule.kind hlast
    exact ⟨hreads, (finds_eq_isCall hfits).symm.trans hcalls⟩
  · rintro ⟨hreads, hcall⟩
    have htop : Stance.top.Fits root := hmodule.kind
    obtain ⟨last, hleads, hfits⟩ := leads_of_reads hreads hmodule.grammar htop
    exact ⟨last, hleads, (finds_eq_isCall hfits).trans hcall⟩

theorem decoratesOthers_of_isModule : root.Everywhere DecoratesOthers := by
  intro path node hnode hdecorated definition hdefinition
  obtain ⟨index, hindex, hchild⟩ := child?_eq_some_iff.1 hdefinition
  have hmem : (definition, index) ∈ node.children.zipIdx := List.mem_zipIdx_iff_getElem?.2 hchild
  exact (((hmodule.grammar path node hnode).decorated hdecorated _ hmem).2 hindex).2

end Module

/-- The position of the innermost of some places that hold a place. -/
def IsOwner (places : List Place) (place : Place) (position : Nat) : Prop :=
  ∃ outer, places[position]? = some outer ∧ outer.path <+: place.path ∧
    ∀ other ∈ places, other.path <+: place.path → other.path <+: outer.path

/-- What is found at a visit belongs to the component around the visit. -/
theorem Visit.KnowsOwner.isOwner {visit : Visit} {places : List Place}
    (h : visit.KnowsOwner places none) (hopens : visit.opens = false) {owner : Place}
    {position : Nat} (hunder : visit.under = some owner)
    (hposition : places[position]? = some owner) : IsOwner places visit.place position := by
  refine ⟨owner, hposition, ?_⟩
  cases h with
  | outside hnone => simp [hunder] at hnone
  | inside hfound _ hinside hinner =>
    obtain rfl := Option.some.inj (hunder.symm.trans hfound)
    refine ⟨hinside.1, fun other hother hpath => hinner other hother ⟨hpath, ?_⟩⟩
    simp [hopens]

end SourceLedger.Outline

namespace SourceLedger

open Outline (IsOwner Place Visit entered fileTour found isCall)

/-- A call stands in a place, and its owner is one of some places. -/
structure CallSite.StandsIn (call : Owned CallSite) (text : String) (tree : Syntax.Tree)
    (places : List Place) (site : Place) : Prop where
  callee : ∃ function, site.node.child? "function" = some function ∧
    call.fact.callee = function.compact text
  line : call.fact.line = tree.firstLine site.node
  owner : IsOwner places site call.owner

/-- The component around a visit is the owner of the call that is found there. -/
theorem CallSite.standsIn_of_isAt {call : Owned CallSite} {text : String} {tree : Syntax.Tree}
    {places : List Place} {visit : Visit} (hopens : visit.opens = false)
    (howner : visit.KnowsOwner places none) (hat : IsAt call ⟨text, tree.lines⟩ places visit) :
    StandsIn call text tree places visit.place := by
  obtain ⟨owner, hunder, hposition⟩ := hat.owner
  obtain ⟨function, hfunction, hcallee⟩ := Option.map_eq_some_iff.1 hat.callee
  exact ⟨⟨function, hfunction, hcallee.symm⟩, hat.line, howner.isOwner hopens hunder hposition⟩

/-- The components stand in some places, and the calls in others. -/
structure Findings.CallsStandIn (findings : Findings) (text : String) (tree : Syntax.Tree)
    (places sites : List Place) : Prop where
  components : List.Forall₂ (fun place component => component.StandsIn tree places place) places
    findings.components
  calls : List.Forall₂ (fun site call => CallSite.StandsIn call text tree places site) sites
    findings.calls

namespace Extraction

/-- The calls that are taken from a text are those that a tour of its tree finds. -/
theorem IsTaken.callsStandIn {path text : String} {tree : Syntax.Tree} {recordReads : Bool}
    {extraction : Extraction} (h : extraction.IsTaken path text tree recordReads)
    (hdecorates : tree.root.Everywhere Outline.DecoratesOthers) :
    extraction.CallsStandIn text tree (entered (fileTour text tree.root))
      (found (fileTour text tree.root)) where
  components := h.standsIn hdecorates
  calls := by
    refine Outline.forall₂_fileTour hdecorates h.reports.2 fun visit call hcloses howner hat => ?_
    exact CallSite.standsIn_of_isAt (by simpa using hcloses) howner hat

/-- The calls that are taken from a text are those that are read, each once, with the text of what
is called, the line, and the innermost component around the call. They are so with names given or
not. -/
theorem calls_where_read (path text : String) {tree : Syntax.Tree} (options : ExtractOptions)
    (hmodule : tree.root.IsModule) :
    ∃ places sites : List Place,
      (∀ site, site ∈ sites ↔ tree.root.Reads site.path site.node ∧ isCall site.node) ∧
      sites.Pairwise (·.path ≠ ·.path) ∧
      (staged path text tree options.recordReads).CallsStandIn text tree places sites ∧
      ∀ result, (staged path text tree options.recordReads).named options.duplicateNames =
          .ok result →
        result.CallsStandIn text tree places sites := by
  have hdecorates := Outline.decoratesOthers_of_isModule hmodule
  refine ⟨entered (fileTour text tree.root), found (fileTour text tree.root), fun site => ?_, ?_,
    forall_isTaken (fun _ htaken => htaken.callsStandIn hdecorates) _⟩
  · rw [← Outline.mem_tour_iff_reads hmodule, Outline.mem_found]
    exact exists_congr fun owner => Outline.mem_fileTour_iff
  · refine List.pairwise_map.2 (List.pairwise_filter.2 ?_)
    refine (Outline.pairwise_fileTour hdecorates).imp fun hapart hopens hopens' => hapart ?_
    simp_all

/-- A call without arguments of a name of one letter, at an offset. -/
def briefCall (start : Nat) (role : Option String) : Syntax.Node :=
  .mk { kind := "call", role, start, stop := start + 3 } [
    .mk { kind := "identifier", role := some "function", start, stop := start + 1 } [],
    .mk { kind := "argument_list", role := some "arguments", start := start + 1,
          stop := start + 3 } [
      .mk { kind := "(", named := false, start := start + 1, stop := start + 2 } [],
      .mk { kind := ")", named := false, start := start + 2, stop := start + 3 } []]]

/-- Calls in a decorator, in a default value and in a body. -/
def callingText : String :=
  "@d()\ndef m(a=g()): h()\n"

/-- The tree of `callingText`. -/
def callingTree : Syntax.Tree where
  root := .mk { kind := "module", start := 0, stop := 23 } [
    .mk { kind := "decorated_definition", start := 0, stop := 22 } [
      .mk { kind := "decorator", start := 0, stop := 4 } [
        .mk { kind := "@", named := false, start := 0, stop := 1 } [],
        briefCall 1 none],
      .mk { kind := "function_definition", role := some "definition", start := 5, stop := 22 } [
        .mk { kind := "def", named := false, start := 5, stop := 8 } [],
        .mk { kind := "identifier", role := some "name", start := 9, stop := 10 } [],
        .mk { kind := "parameters", role := some "parameters", start := 10, stop := 17 } [
          .mk { kind := "(", named := false, start := 10, stop := 11 } [],
          .mk { kind := "default_parameter", start := 11, stop := 16 } [
            .mk { kind := "identifier", role := some "name", start := 11, stop := 12 } [],
            .mk { kind := "=", named := false, start := 12, stop := 13 } [],
            briefCall 13 (some "value")],
          .mk { kind := ")", named := false, start := 16, stop := 17 } []],
        .mk { kind := ":", named := false, start := 17, stop := 18 } [],
        .mk { kind := "block", role := some "body", start := 19, stop := 22 } [
          .mk { kind := "expression_statement", start := 19, stop := 22 } [briefCall 19 none]]]]]
  lines := .ofText callingText

theorem isModule_calling : callingTree.root.IsModule :=
  ⟨rfl, Syntax.Node.everywhere_of_preorder (by decide)⟩

/-- The call in the default value in `callingText` is found. -/
theorem calls_where_read_calling :
    ∃ extraction places sites, extract "a.py" callingText callingTree {} = .ok extraction ∧
      callingTree.root.IsModule ∧ ⟨[0, 1, 2, 1, 2], briefCall 13 (some "value")⟩ ∈ sites ∧
      List.Forall₂ (fun place component => component.StandsIn callingTree places place) places
        extraction.components ∧
      List.Forall₂ (fun site call => CallSite.StandsIn call callingText callingTree places site)
        sites extraction.calls := by
  obtain ⟨extraction, hextract⟩ :
      ∃ extraction, extract "a.py" callingText callingTree {} = .ok extraction :=
    exists_extract rfl (by decide)
  obtain ⟨places, sites, hsites, _, _, hnamed⟩ :=
    calls_where_read "a.py" callingText {} isModule_calling
  have hstand := hnamed extraction (extract_ok hextract).2
  refine ⟨extraction, places, sites, hextract, isModule_calling, (hsites _).2 ⟨?_, rfl⟩,
    hstand.components, hstand.calls⟩
  exact .on rfl (by decide) (.on rfl (by decide) (.on rfl (by decide) (.on rfl (by decide)
    (.on rfl (by decide) (.here _)))))

/-- A call in the default value of a parameter of a lambda. -/
def lambdaText : String :=
  "f(lambda x=g(): h())\n"

/-- The tree of `lambdaText`. -/
def lambdaTree : Syntax.Tree where
  root := .mk { kind := "module", start := 0, stop := 21 } [
    .mk { kind := "expression_statement", start := 0, stop := 20 } [
      .mk { kind := "call", start := 0, stop := 20 } [
        .mk { kind := "identifier", role := some "function", start := 0, stop := 1 } [],
        .mk { kind := "argument_list", role := some "arguments", start := 1, stop := 20 } [
          .mk { kind := "(", named := false, start := 1, stop := 2 } [],
          .mk { kind := "lambda", start := 2, stop := 19 } [
            .mk { kind := "lambda", named := false, start := 2, stop := 8 } [],
            .mk { kind := "lambda_parameters", role := some "parameters", start := 9,
                  stop := 14 } [
              .mk { kind := "default_parameter", start := 9, stop := 14 } [
                .mk { kind := "identifier", role := some "name", start := 9, stop := 10 } [],
                .mk { kind := "=", named := false, start := 10, stop := 11 } [],
                briefCall 11 (some "value")]],
            .mk { kind := ":", named := false, start := 14, stop := 15 } [],
            briefCall 16 (some "body")],
          .mk { kind := ")", named := false, start := 19, stop := 20 } []]]]]
  lines := .ofText lambdaText

/-- The call of `g` in `lambdaText` is not found. -/
theorem call_in_lambda_default_missed :
    lambdaTree.root.IsModule ∧ (∀ node ∈ lambdaTree.root.preorder, node.extra = false) ∧
      lambdaTree.root.at? [0, 0, 1, 1, 1, 0, 2] = some (briefCall 11 (some "value")) ∧
      isCall (briefCall 11 (some "value")) ∧
      ∃ extraction, extract "m.py" lambdaText lambdaTree {} = .ok extraction ∧
        extraction.calls = [⟨0, "f", 1⟩, ⟨0, "h", 1⟩] := by
  obtain ⟨extraction, hextract⟩ :
      ∃ extraction, extract "m.py" lambdaText lambdaTree {} = .ok extraction :=
    exists_extract rfl (by decide)
  have hstaged : (staged "m.py" lambdaText lambdaTree true).calls = [⟨0, "f", 1⟩, ⟨0, "h", 1⟩] := by
    decide +kernel
  refine ⟨⟨rfl, Syntax.Node.everywhere_of_preorder (by decide)⟩, by decide, rfl, rfl, extraction,
    hextract, ?_⟩
  rw [(isTaken_extract hextract).rest]
  exact hstaged

end Extraction

end SourceLedger
