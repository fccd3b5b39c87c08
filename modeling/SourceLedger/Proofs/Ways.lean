import SourceLedger.Proofs.Enclosure

/-!
# Which ways there are

The steps from a node, listed in the order in which they are taken, are looked at here one by one:
which child a step goes to, and what stance it takes there.

## Main definitions

* `Node.indexOf?` is the index of the first child in a role.

## Main statements

* `mem_firstStep`, `mem_properSteps` and `mem_markedSteps` find the children that steps go to.
* `steps_eq_componentSteps` says where the stance makes no difference to the ways on.
-/

namespace SourceLedger.Syntax.Node

/-- The index of the first child in a role. -/
def indexOf? (node : Node) (role : String) : Option Nat :=
  node.children.findIdx? (·.role == some role)

theorem indexOf?_ne {node : Node} {role other : String} (hroles : role ≠ other) {index : Nat}
    (h : node.indexOf? role = some index) : node.indexOf? other ≠ some index := by
  intro hother
  obtain ⟨_, hrole, _⟩ := List.findIdx?_eq_some_iff_getElem.1 h
  obtain ⟨_, hsame, _⟩ := List.findIdx?_eq_some_iff_getElem.1 hother
  rw [beq_iff_eq] at hrole hsame
  exact hroles (Option.some.inj (hrole.symm.trans hsame))

theorem role_of_indexOf? {node child : Node} {role : String} {index : Nat}
    (h : node.indexOf? role = some index) (hchild : node.children[index]? = some child) :
    child.role = some role := by
  obtain ⟨hindex, hrole, _⟩ := List.findIdx?_eq_some_iff_getElem.1 h
  rw [List.getElem?_eq_getElem hindex] at hchild
  rw [← Option.some.inj hchild]
  exact beq_iff_eq.1 hrole

theorem extra_of_isProper {node : Node} (h : node.isProper) : node.extra = false := by
  simp only [isProper, Bool.and_eq_true, Bool.not_eq_true'] at h
  exact h.2

/-- Kinds that nothing special is made of. -/
theorem construct_eq_other {node : Node} {kind : String} (h : node.kind = kind)
    (hother : Construct.ofKind kind = .other) : node.construct = .other := by
  rw [construct, h, hother]

theorem construct_ne_of_isDefinition {node : Node} {construct : Construct}
    (h : construct.isDefinition) (hnode : node.construct.isDefinition = false) :
    node.construct ≠ construct := by
  rintro rfl
  rw [h] at hnode
  exact absurd hnode (by decide)

theorem mem_preorder_of_at? {node found : Node} {path : List Nat}
    (h : node.at? path = some found) : found ∈ node.preorder := by
  induction path generalizing node with
  | nil =>
    obtain rfl := Option.some.inj h
    exact node.mem_preorder_self
  | cons index path ih =>
    obtain ⟨child, hchild, hfound⟩ := Option.bind_eq_some_iff.1 h
    exact mem_preorder_of_child (List.mem_of_getElem? hchild) (ih hfound)

theorem everywhere_of_preorder {P : Node → Prop} {root : Node}
    (h : ∀ node ∈ root.preorder, P node) : root.Everywhere P :=
  fun _ node hnode => h node (mem_preorder_of_at? hnode)

mutual

/-- A path leads to every node of a tree. -/
theorem exists_at?_of_mem_preorder (root : Node) {node : Node} (h : node ∈ root.preorder) :
    ∃ path, root.at? path = some node := by
  cases root with
  | mk attributes children =>
    rw [preorder] at h
    rcases List.mem_cons.1 h with rfl | hbelow
    · exact ⟨[], rfl⟩
    · obtain ⟨index, path, hpath⟩ := exists_at?_of_mem_preorderOfAll children hbelow
      exact ⟨index :: path, hpath⟩

theorem exists_at?_of_mem_preorderOfAll (row : List Node) {node : Node}
    (h : node ∈ preorderOfAll row) :
    ∃ (index : Nat) (path : List Nat),
      (row[index]?.bind fun child => child.at? path) = some node := by
  cases row with
  | nil => simp [preorderOfAll] at h
  | cons first rest =>
    rw [preorderOfAll, List.mem_append] at h
    rcases h with hfirst | hrest
    · obtain ⟨path, hpath⟩ := exists_at?_of_mem_preorder first hfirst
      exact ⟨0, path, hpath⟩
    · obtain ⟨index, path, hpath⟩ := exists_at?_of_mem_preorderOfAll rest hrest
      exact ⟨index + 1, path, hpath⟩

end

theorem Everywhere.of_mem_preorder {P : Node → Prop} {root node : Node} (h : root.Everywhere P)
    (hnode : node ∈ root.preorder) : P node := by
  obtain ⟨path, hpath⟩ := exists_at?_of_mem_preorder root hnode
  exact h path node hpath

end SourceLedger.Syntax.Node

namespace SourceLedger.Outline

open Syntax (Node Construct)

section Rows

variable {stance : Stance} {node : Node} {role : String} {step : Step}

/-- What is found first in a numbered list is numbered by its index. -/
theorem find?_zipIdx_eq_some {α : Type} (p : α → Bool) {xs : List α} {x : α} {index : Nat} :
    (xs.zipIdx.find? fun x => p x.1) = some (x, index) ↔
      xs[index]? = some x ∧ xs.findIdx? p = some index := by
  have hindex : xs.findIdx? p = (xs.zipIdx.find? fun x => p x.1).map (·.2) :=
    List.findIdx?_eq_fst_find?_zipIdx
  constructor
  · intro h
    refine ⟨List.mem_zipIdx_iff_getElem?.1 (List.mem_of_find?_eq_some h), ?_⟩
    rw [hindex, h]
    rfl
  · rintro ⟨hx, h⟩
    rw [hindex] at h
    obtain ⟨found, hfound, rfl⟩ := Option.map_eq_some_iff.1 h
    have hy := List.mem_zipIdx_iff_getElem?.1 (List.mem_of_find?_eq_some hfound)
    rw [hfound, Option.some.inj (hx.symm.trans hy)]

theorem mem_map_find?_zipIdx (p : Node → Bool) (stance : Node → Stance) :
    step ∈ (node.children.zipIdx.find? fun child => p child.1).toList.map
        (fun child => Step.to (stance child.1) child) ↔
      node.children[step.index]? = some step.node ∧
        node.children.findIdx? p = some step.index ∧ step.stance = stance step.node := by
  rw [← and_assoc, ← find?_zipIdx_eq_some p]
  constructor
  · intro h
    obtain ⟨child, hchild, rfl⟩ := List.mem_map.1 h
    exact ⟨Option.mem_toList.1 hchild, rfl⟩
  · rintro ⟨h, hstance⟩
    refine List.mem_map.2 ⟨_, Option.mem_toList.2 h, ?_⟩
    rw [Step.to, ← hstance]

theorem mem_map_filter_zipIdx (p : Node → Bool) :
    step ∈ (node.children.zipIdx.filter fun child => p child.1).map (Step.to stance) ↔
      node.children[step.index]? = some step.node ∧ p step.node ∧ step.stance = stance := by
  constructor
  · intro h
    obtain ⟨child, hchild, rfl⟩ := List.mem_map.1 h
    obtain ⟨hmem, hp⟩ := List.mem_filter.1 hchild
    exact ⟨List.mem_zipIdx_iff_getElem?.1 hmem, hp, rfl⟩
  · rintro ⟨h, hp, rfl⟩
    have hmem : (step.node, step.index) ∈ node.children.zipIdx := List.mem_zipIdx_iff_getElem?.2 h
    exact List.mem_map.2 ⟨_, List.mem_filter.2 ⟨hmem, hp⟩, rfl⟩

theorem child?_eq_some_iff {child : Node} : node.child? role = some child ↔
    ∃ index, node.indexOf? role = some index ∧ node.children[index]? = some child := by
  let hasRole (child : Node) := child.role == some role
  rw [Node.child?, ← map_fst_find?_zipIdx, Option.map_eq_some_iff, Prod.exists]
  constructor
  · rintro ⟨found, index, hfound, hsame⟩
    obtain rfl : found = child := hsame
    obtain ⟨hchild, hindex⟩ := (find?_zipIdx_eq_some hasRole).1 hfound
    exact ⟨index, hindex, hchild⟩
  · rintro ⟨index, hindex, hchild⟩
    exact ⟨child, index, (find?_zipIdx_eq_some hasRole).2 ⟨hchild, hindex⟩, rfl⟩

theorem mem_firstStep : step ∈ firstStep stance node role ↔
    node.children[step.index]? = some step.node ∧ node.indexOf? role = some step.index ∧
      step.stance = stance :=
  mem_map_find?_zipIdx (·.role == some role) fun _ => stance

theorem mem_stepsIn : step ∈ stepsIn stance node role ↔
    node.children[step.index]? = some step.node ∧ step.node.role = some role ∧
      step.stance = stance := by
  rw [← beq_iff_eq (a := step.node.role)]
  exact mem_map_filter_zipIdx (·.role == some role)

theorem mem_properSteps : step ∈ properSteps stance node ↔
    node.children[step.index]? = some step.node ∧ step.node.isProper ∧ step.stance = stance :=
  mem_map_filter_zipIdx _

/-- The mark stands at the index of the first element with the property. -/
theorem mem_markFirst_zipIdx {α : Type} (p : α → Bool) {xs : List α} {base index : Nat}
    (marked : Bool) {x : α} :
    (marked, x, index) ∈ Node.markFirst (fun x => p x.1) (xs.zipIdx base) ↔
      (x, index) ∈ xs.zipIdx base ∧
        marked = ((xs.findIdx? p).map (· + base) == some index) := by
  induction xs generalizing base with
  | nil => simp [Node.markFirst]
  | cons first rest ih =>
    have hbelow : (x, index) ∈ rest.zipIdx (base + 1) → base < index := fun h =>
      Nat.lt_of_succ_le (List.le_snd_of_mem_zipIdx h)
    rw [List.zipIdx_cons, Node.markFirst]
    by_cases hp : p first
    · simp only [hp, if_true, List.mem_cons, List.mem_map, Prod.mk.injEq, List.findIdx?_cons,
        Option.map_some, Nat.zero_add, Option.some_beq_some]
      grind
    · simp only [hp, Bool.false_eq_true, if_false, List.mem_cons, Prod.mk.injEq, ih,
        List.findIdx?_cons, Option.map_map]
      have hshift : (fun found => found + base) ∘ (fun found => found + 1) =
          (fun found : Nat => found + (base + 1)) := by
        funext found
        simp only [Function.comp_apply]
        omega
      rw [hshift]
      constructor
      · rintro (⟨rfl, rfl, rfl⟩ | ⟨hx, hmarked⟩)
        · refine ⟨.inl ⟨rfl, rfl⟩, ?_⟩
          cases rest.findIdx? p <;> simp
          omega
        · exact ⟨.inr hx, hmarked⟩
      · rintro ⟨⟨rfl, rfl⟩ | hx, hmarked⟩
        · refine .inl ⟨?_, rfl, rfl⟩
          rw [hmarked]
          cases rest.findIdx? p <;> simp
          omega
        · exact .inr ⟨hx, hmarked⟩

theorem mem_markedSteps {stance : Bool → Node → Stance} :
    step ∈ markedSteps node role stance ↔
      node.children[step.index]? = some step.node ∧ step.node.isProper ∧
        step.stance = stance (node.indexOf? role == some step.index) step.node := by
  have hmarks (marked : Bool) (child : Node) (index : Nat) :
      (marked, child, index) ∈ Node.markFirst (·.1.role == some role) node.children.zipIdx ↔
        node.children[index]? = some child ∧ marked = (node.indexOf? role == some index) := by
    have h : _ ↔ (child, index) ∈ node.children.zipIdx ∧ _ :=
      mem_markFirst_zipIdx (·.role == some role) marked
    rw [List.mem_zipIdx_iff_getElem?] at h
    simpa [Node.indexOf?] using h
  constructor
  · intro h
    obtain ⟨⟨marked, child, index⟩, hmarked, rfl⟩ := List.mem_map.1 h
    obtain ⟨hmem, hproper⟩ := List.mem_filter.1 hmarked
    obtain ⟨hchild, rfl⟩ := (hmarks ..).1 hmem
    exact ⟨hchild, hproper, rfl⟩
  · rintro ⟨hchild, hproper, hstance⟩
    refine List.mem_map.2 ⟨(node.indexOf? role == some step.index, step.node, step.index), ?_, ?_⟩
    · exact List.mem_filter.2 ⟨(hmarks ..).2 ⟨hchild, rfl⟩, hproper⟩
    · rw [← hstance]
      rfl

theorem mem_componentSteps_decorated (h : node.construct = .decoratedDefinition) :
    step ∈ componentSteps node ↔ node.children[step.index]? = some step.node ∧
      ((step.node.isProper ∧ step.node.construct = .decorator ∧ step.stance = .decorator) ∨
        (node.indexOf? "definition" = some step.index ∧
          step.stance = definitionStance step.node)) := by
  rw [componentSteps, if_pos h, List.mem_append,
    mem_map_filter_zipIdx fun child => child.isProper && child.construct == .decorator,
    mem_map_find?_zipIdx (·.role == some "definition") definitionStance,
    Bool.and_eq_true, beq_iff_eq, and_assoc, ← and_or_left]
  rfl

end Rows

section Stances

variable {stance : Stance} {node : Node}

/-- Stances towards a definition or statement that stands where one may be. -/
def Stance.isStatement : Stance → Bool
  | component | walked | member => true
  | _ => false

theorem contentsSteps_function (h : node.construct = .functionDefinition) :
    contentsSteps node = firstStep .row node "parameters" ++ firstStep .walked node "body" := by
  simp only [contentsSteps, Form.ofNode, h]

theorem contentsSteps_classDefinition (h : node.construct = .classDefinition) :
    contentsSteps node =
      firstStep .walked node "superclasses" ++ firstStep .classBody node "body" := by
  simp only [contentsSteps, Form.ofNode, h]

theorem contentsSteps_of_ne (hfunction : node.construct ≠ .functionDefinition)
    (hclass : node.construct ≠ .classDefinition) :
    contentsSteps node = if node.extra then [] else visitSteps node := by
  have hform : Form.ofNode node ≠ .function ∧ Form.ofNode node ≠ .classDef := by
    cases hconstruct : node.construct with
    | functionDefinition => exact absurd hconstruct hfunction
    | classDefinition => exact absurd hconstruct hclass
    | expressionStatement =>
      simp only [Form.ofNode, hconstruct]
      split <;> decide
    | _ => simp [Form.ofNode, hconstruct]
  rw [contentsSteps]
  split
  · rename_i hform'
    exact absurd hform' hform.1
  · rename_i hform'
    exact absurd hform' hform.2
  · rfl

/-- A node that is no definition has the same ways on whether or not it is a component. -/
theorem componentSteps_eq_visitSteps (hextra : node.extra = false)
    (hdefinition : node.construct.isDefinition = false) :
    componentSteps node = visitSteps node := by
  have hne {construct : Construct} (h : construct.isDefinition) : node.construct ≠ construct :=
    Node.construct_ne_of_isDefinition h hdefinition
  rw [componentSteps, if_neg (hne rfl), contentsSteps_of_ne (hne rfl) (hne rfl), hextra]
  rfl

theorem walkedSteps_eq_componentSteps (hextra : node.extra = false) :
    walkedSteps node = componentSteps node := by
  rw [walkedSteps, hextra, if_neg Bool.false_ne_true]
  split
  · rfl
  · rename_i hdefinition
    exact (componentSteps_eq_visitSteps hextra (Bool.eq_false_iff.2 hdefinition)).symm

/-- The ways on from a statement are those from its component. -/
theorem steps_eq_componentSteps (hstance : stance.isStatement) (hextra : node.extra = false) :
    steps stance node = componentSteps node := by
  cases stance with
  | component => rfl
  | walked => exact walkedSteps_eq_componentSteps hextra
  | member =>
    simp only [steps]
    split
    · rfl
    · exact walkedSteps_eq_componentSteps hextra
  | _ => exact absurd hstance (by decide)

theorem steps_contents (h : node.construct ≠ .decoratedDefinition) :
    steps .contents node = componentSteps node :=
  (if_neg h).symm

end Stances

section Follows

variable {stance : Stance} {node : Node} {step : Step}

/-- A step takes a stance that may follow the stance towards the node before. -/
def Step.Follows (step : Step) (stance : Stance) (node : Node) : Prop :=
  match step.stance with
  | .top | .visited => False
  | .component => stance = .top
  | .member => stance = .classBody
  | .classBody => node.construct = .classDefinition ∧ node.indexOf? "body" = some step.index
  | .row => node.construct = .functionDefinition ∧ node.indexOf? "parameters" = some step.index
  | .parameter => stance = .row
  | .decorator => step.node.construct = .decorator
  | .contents =>
    node.construct = .decoratedDefinition ∧ step.node.construct ≠ .decoratedDefinition
  | .walked | .target => True

theorem follows_of_mem_visitSteps (h : step ∈ visitSteps node) : step.Follows stance node := by
  have hstance : step.stance = .walked ∨ step.stance = .target := by
    unfold visitSteps at h
    split at h <;>
      simp only [List.mem_append, mem_firstStep, mem_markedSteps, mem_properSteps,
        List.not_mem_nil] at h <;>
      grind
  rcases hstance with hstance | hstance <;> simp [Step.Follows, hstance]

theorem follows_of_mem_contentsSteps (h : step ∈ contentsSteps node) :
    step.Follows stance node := by
  by_cases hfunction : node.construct = .functionDefinition
  · rw [contentsSteps_function hfunction, List.mem_append, mem_firstStep, mem_firstStep] at h
    rcases h with ⟨_, hrow, h⟩ | ⟨_, _, h⟩
    · simpa [Step.Follows, h] using ⟨hfunction, hrow⟩
    · simp [Step.Follows, h]
  by_cases hclass : node.construct = .classDefinition
  · rw [contentsSteps_classDefinition hclass, List.mem_append, mem_firstStep, mem_firstStep] at h
    rcases h with ⟨_, _, h⟩ | ⟨_, hbody, h⟩
    · simp [Step.Follows, h]
    · simpa [Step.Follows, h] using ⟨hclass, hbody⟩
  rw [contentsSteps_of_ne hfunction hclass] at h
  split at h
  · simp at h
  · exact follows_of_mem_visitSteps h

theorem follows_of_mem_componentSteps (h : step ∈ componentSteps node) :
    step.Follows stance node := by
  by_cases hdecorated : node.construct = .decoratedDefinition
  · obtain ⟨_, ⟨_, hdecorator, h⟩ | ⟨_, h⟩⟩ := (mem_componentSteps_decorated hdecorated).1 h
    · simpa [Step.Follows, h] using hdecorator
    · unfold definitionStance at h
      split at h
      · simp [Step.Follows, h]
      · rename_i hne
        simpa [Step.Follows, h] using ⟨hdecorated, hne⟩
  · rw [componentSteps, if_neg hdecorated] at h
    exact follows_of_mem_contentsSteps h

theorem follows_of_mem_walkedSteps (h : step ∈ walkedSteps node) : step.Follows stance node := by
  unfold walkedSteps at h
  split at h
  · simp at h
  · split at h
    · exact follows_of_mem_componentSteps h
    · exact follows_of_mem_visitSteps h

/-- Which stance a step can take. -/
theorem follows_of_mem_steps (h : step ∈ steps stance node) : step.Follows stance node := by
  cases stance with
  | component => exact follows_of_mem_componentSteps h
  | contents => exact follows_of_mem_contentsSteps h
  | walked => exact follows_of_mem_walkedSteps h
  | visited => exact follows_of_mem_visitSteps h
  | target =>
    simp only [steps] at h
    split at h
    · simp at h
    · simp [Step.Follows, (mem_firstStep.1 h).2.2]
    · rcases List.mem_append.1 h with h | h
      · simp [Step.Follows, (mem_firstStep.1 h).2.2]
      · simp [Step.Follows, (mem_stepsIn.1 h).2.2]
    iterate 3 simp [Step.Follows, (mem_properSteps.1 h).2.2]
    · exact follows_of_mem_walkedSteps h
  | top | row | classBody => simp [Step.Follows, (mem_properSteps.1 h).2.2]
  | parameter =>
    simp only [steps] at h
    split at h
    iterate 2 simp [Step.Follows, (mem_firstStep.1 h).2.2]
    simp at h
  | decorator =>
    have hstance := ((mem_map_find?_zipIdx _ fun _ => .walked).1 h).2.2
    simp [Step.Follows, hstance]
  | member =>
    simp only [steps] at h
    split at h
    · exact follows_of_mem_componentSteps h
    · exact follows_of_mem_walkedSteps h

/-- A way that begins in one stance and ends in another has a step. -/
theorem Leads.exists_concat {last : Stance} {final : Node} {path : List Nat}
    (h : Leads stance node path last final) (hne : stance ≠ last) :
    ∃ above index, path = above ++ [index] := by
  rcases List.eq_nil_or_concat' path with rfl | ⟨above, index, rfl⟩
  · cases h
    exact absurd rfl hne
  · exact ⟨above, index, rfl⟩

/-- Reading the statements of a module happens at its root only. -/
theorem Leads.eq_nil_of_top {final : Node} {path : List Nat}
    (h : Leads stance node path .top final) : path = [] := by
  rcases List.eq_nil_or_concat' path with rfl | ⟨above, index, rfl⟩
  · rfl
  · obtain ⟨_, _, step, _, hstep, _, hstance, _⟩ := h.exists_last
    have hfollows := follows_of_mem_steps hstep
    simp [Step.Follows, hstance] at hfollows

end Follows

end SourceLedger.Outline
