import SourceLedger.Proofs.Nesting

/-!
# The tour of a tree

Reading a tree goes from node to node. At each node it takes a stance, which says what is made of
the node and which of its children are gone on to, in which order and in which stance. The tour
lists the places where a component opens or what is looked for is found, calls or imports, each with
the component around it. The events of a tree tell its tour: what they say besides is about
components that are open already.

## Main definitions

* `Node.at?` follows a path down a tree, and a `Place` is a node with the path to it.
* `steps` are the ways on from a node, and `tour` follows them.
* `Sought` is what a tour looks for besides components.
* `Tells` relates events to the visits of a tour.

## Main statements

* `tells_walk` and `tells_component` are the tours of a node.
* `tells_moduleEvents` says that the events of a file tell its tour.
-/

namespace SourceLedger.Syntax.Node

/-- The node at the end of a path, which goes down from child to child by their indices. -/
def at? (node : Node) : (path : List Nat) → Option Node
  | [] => some node
  | index :: path => node.children[index]?.bind (·.at? path)

theorem at?_append (node : Node) (path rest : List Nat) :
    node.at? (path ++ rest) = (node.at? path).bind (·.at? rest) := by
  induction path generalizing node with
  | nil => rfl
  | cons index path ih =>
    rw [List.cons_append, at?, at?]
    cases node.children[index]? with
    | none => rfl
    | some child => exact ih child

theorem at?_concat (node : Node) (path : List Nat) (index : Nat) :
    node.at? (path ++ [index]) = (node.at? path).bind (·.children[index]?) := by
  rw [at?_append]
  refine congrArg _ (funext fun found => ?_)
  rw [at?]
  cases found.children[index]? <;> rfl

/-- All nodes of a tree have a property. -/
def Everywhere (P : Node → Prop) (root : Node) : Prop :=
  ∀ path node, root.at? path = some node → P node

theorem Everywhere.self {P : Node → Prop} {root : Node} (h : root.Everywhere P) : P root :=
  h [] root rfl

theorem Everywhere.child {P : Node → Prop} {root child : Node} (h : root.Everywhere P) {index : Nat}
    (hchild : root.children[index]? = some child) : child.Everywhere P := by
  intro path node hnode
  refine h (index :: path) node ?_
  rw [at?, hchild]
  exact hnode

end SourceLedger.Syntax.Node

namespace SourceLedger.Outline

open Syntax (Node Construct)

/-- A node with the path to it from the root of its tree. -/
structure Place where
  path : List Nat
  node : Node

/-- The place of a child. -/
def Place.child (place : Place) (node : Node) (index : Nat) : Place :=
  ⟨place.path ++ [index], node⟩

/-- What is made of a node. -/
inductive Stance where
  /-- The statements of the root are the components at top level. -/
  | top
  /-- A component opens here, whatever the node is. -/
  | component
  /-- The component is open already. -/
  | contents
  /-- Definitions open a component. -/
  | walked
  /-- The node opens no component. -/
  | visited
  /-- The node is bound, updated or deleted. -/
  | target
  /-- The row of parameters of a function. -/
  | row
  | parameter
  | decorator
  | classBody
  /-- A statement of a class body. -/
  | member
  deriving DecidableEq, Repr

/-- A way on, to the child with an index. -/
structure Step where
  stance : Stance
  node : Node
  index : Nat

/-- The way on to a child that is given with its index. -/
def Step.to (stance : Stance) (child : Node × Nat) : Step :=
  ⟨stance, child.1, child.2⟩

section Steps

variable (stance : Stance) (node : Node)

/-- On to the first child in a role. -/
def firstStep (role : String) : List Step :=
  (node.children.zipIdx.find? (·.1.role == some role)).toList.map (Step.to stance)

/-- On to all children in a role. -/
def stepsIn (role : String) : List Step :=
  (node.children.zipIdx.filter (·.1.role == some role)).map (Step.to stance)

/-- On to the named children. -/
def properSteps : List Step :=
  (node.children.zipIdx.filter (·.1.isProper)).map (Step.to stance)

/-- On to the named children, of which the first child in a role may be treated in another way. -/
def markedSteps (role : String) (stance : Bool → Node → Stance) : List Step :=
  ((Node.markFirst (·.1.role == some role) node.children.zipIdx).filter (·.2.1.isProper)).map
    fun marked => Step.to (stance marked.1 marked.2.1) marked.2

/-- The ways on from a node that opens no component. -/
def visitSteps : List Step :=
  match node.construct with
  | .assignment | .augmentedAssignment =>
    firstStep .walked node "right" ++ firstStep .target node "left"
  | .forStatement | .forInClause =>
    markedSteps node "left" fun marked _ => if marked then .target else .walked
  | .asPattern =>
    markedSteps node "alias" fun marked child =>
      if marked || child.construct == .asPatternTarget then .target else .walked
  | .namedExpression => firstStep .walked node "value" ++ firstStep .target node "name"
  | .deleteStatement => properSteps .target node
  | .globalStatement | .nonlocalStatement | .importStatement | .importFromStatement
  | .futureImportStatement | .identifier => []
  | .member => firstStep .walked node "object"
  | .keywordArgument => firstStep .walked node "value"
  | .lambda => firstStep .walked node "body"
  | _ => properSteps .walked node

/-- The ways on from an undecorated definition or statement whose component is open. -/
def contentsSteps : List Step :=
  match Form.ofNode node with
  | .function => firstStep .row node "parameters" ++ firstStep .walked node "body"
  | .classDef => firstStep .walked node "superclasses" ++ firstStep .classBody node "body"
  | _ => if node.extra then [] else visitSteps node

/-- The stance towards what stands below decorators. -/
def definitionStance : Stance :=
  if node.construct = .decoratedDefinition then .walked else .contents

/-- The ways on from a component. -/
def componentSteps : List Step :=
  if node.construct = .decoratedDefinition then
    (node.children.zipIdx.filter fun child =>
        child.1.isProper && child.1.construct == .decorator).map (Step.to .decorator) ++
      (node.children.zipIdx.find? (·.1.role == some "definition")).toList.map fun child =>
        Step.to (definitionStance child.1) child
  else contentsSteps node

/-- The ways on from a node in which definitions open a component. -/
def walkedSteps : List Step :=
  if node.extra then []
  else if node.construct.isDefinition then componentSteps node
  else visitSteps node

/-- Whether a statement of a class body is a component. -/
def isMember : Bool :=
  node.construct.isDefinition || node.isAssignmentStatement

/-- The ways on from a node, in the order in which they are taken. -/
def steps : List Step :=
  match stance with
  | .top => properSteps .component node
  | .component => componentSteps node
  | .contents => contentsSteps node
  | .walked => walkedSteps node
  | .visited => visitSteps node
  | .target =>
    match node.construct with
    | .identifier => []
    | .member => firstStep .walked node "object"
    | .subscript => firstStep .walked node "value" ++ stepsIn .walked node "subscript"
    | .targetGroup | .listSplatPattern | .asPatternTarget => properSteps .target node
    | _ => walkedSteps node
  | .row => properSteps .parameter node
  | .parameter =>
    match node.construct with
    | .defaultParameter | .typedDefaultParameter => firstStep .walked node "value"
    | _ => []
  | .decorator => (node.children.zipIdx.find? (·.1.isProper)).toList.map (Step.to .walked)
  | .classBody => properSteps .member node
  | .member => if isMember node then componentSteps node else walkedSteps node

/-- Whether a component opens at a node. -/
def opens : Bool :=
  match stance with
  | .component => true
  | .walked | .target => !node.extra && node.construct.isDefinition
  | .member => isMember node
  | _ => false

/-- A call with something that is called. -/
def isCall : Bool :=
  node.construct == .call && (node.child? "function").isSome

end Steps

/-- What is looked for besides components. -/
inductive Sought where
  | calls
  | imports
  deriving DecidableEq

namespace Sought

/-- Whether a node is what is looked for. -/
def isAt : Sought → Node → Bool
  | calls, node => isCall node
  | imports, node => node.construct.isImport

/-- Whether a node of some construct can be what is looked for. -/
def concerns (sought : Sought) : Construct → Bool
  | .call => sought = calls
  | .importStatement | .importFromStatement | .futureImportStatement => sought = imports
  | _ => false

/-- What is told where a node may be what is looked for. -/
def events : Sought → Reading → Node → List Event
  | calls, reading, node => callEvents reading node
  | imports, reading, node => (importRecords reading node).map .imports

end Sought

/-- Whether what is looked for is found at a node. -/
def finds (stance : Stance) (node : Node) (sought : Sought) : Bool :=
  match stance with
  | .component | .contents | .walked | .target | .member => !node.extra && sought.isAt node
  | .visited => sought.isAt node
  | _ => false

/-- Below its decorators a node does not have another decorator. -/
def DecoratesOthers (node : Node) : Prop :=
  node.construct = .decoratedDefinition →
    ∀ definition, node.child? "definition" = some definition → definition.construct ≠ .decorator

/-- Some steps go on from a node: each goes to a child, and no two go to the same one. -/
structure AreWays (node : Node) (row : List Step) : Prop where
  below : ∀ step ∈ row, (step.node, step.index) ∈ node.children.zipIdx
  apart : DecoratesOthers node → row.Pairwise fun first second => first.index ≠ second.index

section Ways

variable {node : Node} {role other : String}

theorem pairwise_zipIdx {α : Type} (xs : List α) :
    xs.zipIdx.Pairwise fun x y => x.2 < y.2 := by
  have hindices : (xs.zipIdx.map Prod.snd).Pairwise (· < ·) := by
    rw [List.zipIdx_map_snd]
    exact List.pairwise_lt_range'
  exact List.pairwise_map.1 hindices

/-- Numbering does not change what is found first. -/
theorem map_fst_find?_zipIdx {α : Type} (p : α → Bool) (xs : List α) :
    (xs.zipIdx.find? fun x => p x.1).map Prod.fst = xs.find? p := by
  have hfound := List.find?_map (f := Prod.fst) (p := p) (l := xs.zipIdx)
  rw [List.zipIdx_map_fst] at hfound
  exact hfound.symm

theorem map_fst_filter_zipIdx {α : Type} (p : α → Bool) (xs : List α) :
    (xs.zipIdx.filter fun x => p x.1).map Prod.fst = xs.filter p := by
  have hfiltered := List.filter_map (f := Prod.fst) (p := p) (l := xs.zipIdx)
  rw [List.zipIdx_map_fst] at hfiltered
  exact hfiltered.symm

theorem eq_of_mem_zipIdx {α : Type} {xs : List α} {x y : α} {index : Nat}
    (hx : (x, index) ∈ xs.zipIdx) (hy : (y, index) ∈ xs.zipIdx) : x = y :=
  Option.some.inj ((List.mem_zipIdx_iff_getElem?.1 hx).symm.trans
    (List.mem_zipIdx_iff_getElem?.1 hy))

/-- Some of the children, in order, and each in a stance of its own. -/
theorem areWays_map {children : List (Node × Nat)} (h : children.Sublist node.children.zipIdx)
    (stance : Node × Nat → Stance) :
    AreWays node (children.map fun child => Step.to (stance child) child) := by
  refine ⟨fun step hstep => ?_, fun _ => ?_⟩
  · obtain ⟨child, hchild, rfl⟩ := List.mem_map.1 hstep
    exact h.subset hchild
  · exact List.pairwise_map.2 (((pairwise_zipIdx _).sublist h).imp fun hlt => Nat.ne_of_lt hlt)

theorem sublist_find? {α : Type} (p : α → Bool) (xs : List α) :
    (xs.find? p).toList.Sublist xs := by
  cases hfound : xs.find? p with
  | none => exact List.nil_sublist xs
  | some x => exact List.singleton_sublist.2 (List.mem_of_find?_eq_some hfound)

theorem areWays_nil (node : Node) : AreWays node [] :=
  ⟨by simp, fun _ => .nil⟩

theorem areWays_firstStep (stance : Stance) (node : Node) (role : String) :
    AreWays node (firstStep stance node role) :=
  areWays_map (sublist_find? _ _) fun _ => stance

theorem areWays_stepsIn (stance : Stance) (node : Node) (role : String) :
    AreWays node (stepsIn stance node role) :=
  areWays_map List.filter_sublist fun _ => stance

theorem areWays_properSteps (stance : Stance) (node : Node) :
    AreWays node (properSteps stance node) :=
  areWays_map List.filter_sublist fun _ => stance

theorem map_snd_markFirst {α : Type} (p : α → Bool) (xs : List α) :
    (Node.markFirst p xs).map Prod.snd = xs := by
  induction xs with
  | nil => rfl
  | cons x rest ih =>
    rw [Node.markFirst]
    split
    · simp [Function.comp_def]
    · rw [List.map_cons, ih]

theorem markFirst_map {α β : Type} (f : α → β) (p : β → Bool) (xs : List α) :
    Node.markFirst p (xs.map f) =
      (Node.markFirst (fun x => p (f x)) xs).map fun marked => (marked.1, f marked.2) := by
  induction xs with
  | nil => rfl
  | cons x rest ih =>
    rw [List.map_cons, Node.markFirst, Node.markFirst]
    split
    · simp
    · rw [List.map_cons, ih]

theorem areWays_markedSteps (node : Node) (role : String) (stance : Bool → Node → Stance) :
    AreWays node (markedSteps node role stance) := by
  let marks := Node.markFirst (·.1.role == some role) node.children.zipIdx
  have hsub : ((marks.filter (·.2.1.isProper)).map Prod.snd).Sublist node.children.zipIdx := by
    have hall := (List.filter_sublist (p := (·.2.1.isProper)) (l := marks)).map Prod.snd
    rwa [map_snd_markFirst] at hall
  refine ⟨fun step hstep => ?_, fun _ => ?_⟩
  · obtain ⟨marked, hmarked, rfl⟩ := List.mem_map.1 hstep
    exact hsub.subset (List.mem_map_of_mem hmarked)
  · refine List.pairwise_map.2 ((List.pairwise_map.1 ((pairwise_zipIdx _).sublist hsub)).imp ?_)
    exact fun hlt => Nat.ne_of_lt hlt

/-- Steps to children of different kinds go on from a node together. -/
theorem AreWays.append {row more : List Step} (h : AreWays node row) (hmore : AreWays node more)
    (hapart : ∀ first ∈ row, ∀ second ∈ more, DecoratesOthers node → first.node ≠ second.node) :
    AreWays node (row ++ more) := by
  refine ⟨fun step hstep => ?_, fun hnode => ?_⟩
  · exact (List.mem_append.1 hstep).elim (h.below step) (hmore.below step)
  · refine List.pairwise_append.2 ⟨h.apart hnode, hmore.apart hnode, ?_⟩
    intro first hfirst second hsecond hindex
    refine hapart first hfirst second hsecond hnode ?_
    exact eq_of_mem_zipIdx (h.below first hfirst) (hindex ▸ hmore.below second hsecond)

theorem role_of_mem_firstStep {stance : Stance} {step : Step}
    (h : step ∈ firstStep stance node role) : step.node.role = some role := by
  obtain ⟨child, hchild, rfl⟩ := List.mem_map.1 h
  have hrole := List.find?_some (Option.mem_toList.1 hchild)
  exact beq_iff_eq.1 hrole

theorem role_of_mem_stepsIn {stance : Stance} {step : Step}
    (h : step ∈ stepsIn stance node role) : step.node.role = some role := by
  obtain ⟨child, hchild, rfl⟩ := List.mem_map.1 h
  exact beq_iff_eq.1 (List.mem_filter.1 hchild).2

/-- Children in different roles are different. -/
theorem areWays_firstSteps (hroles : role ≠ other) (stance next : Stance) (node : Node) :
    AreWays node (firstStep stance node role ++ firstStep next node other) := by
  refine (areWays_firstStep ..).append (areWays_firstStep ..) fun first hfirst second hsecond _ =>
    fun heq => ?_
  have hsame := (role_of_mem_firstStep hfirst).symm.trans
    ((congrArg Node.role heq).trans (role_of_mem_firstStep hsecond))
  exact hroles (Option.some.inj hsame)

theorem areWays_visitSteps (node : Node) : AreWays node (visitSteps node) := by
  unfold visitSteps
  split
  iterate 2 exact areWays_firstSteps (by decide) ..
  iterate 3 exact areWays_markedSteps ..
  · exact areWays_firstSteps (by decide) ..
  · exact areWays_properSteps ..
  iterate 6 exact areWays_nil node
  iterate 3 exact areWays_firstStep ..
  · exact areWays_properSteps ..

theorem areWays_contentsSteps (node : Node) : AreWays node (contentsSteps node) := by
  unfold contentsSteps
  split
  iterate 2 exact areWays_firstSteps (by decide) ..
  split
  · exact areWays_nil node
  · exact areWays_visitSteps node

theorem areWays_componentSteps (node : Node) : AreWays node (componentSteps node) := by
  unfold componentSteps
  split
  · rename_i hdecorated
    refine .append (areWays_map List.filter_sublist fun _ => .decorator)
      (areWays_map (sublist_find? _ _) fun child => definitionStance child.1) ?_
    intro first hfirst second hsecond hnode heq
    obtain ⟨decorator, hdecorator, rfl⟩ := List.mem_map.1 hfirst
    obtain ⟨definition, hdefinition, rfl⟩ := List.mem_map.1 hsecond
    have hconstruct : decorator.1.construct = .decorator := by
      simpa using (Bool.and_eq_true_iff.1 (List.mem_filter.1 hdecorator).2).2
    have hchild : node.child? "definition" = some definition.1 := by
      rw [Node.child?, ← map_fst_find?_zipIdx, Option.mem_toList.1 hdefinition]
      rfl
    exact hnode hdecorated definition.1 hchild ((congrArg Node.construct heq.symm).trans hconstruct)
  · exact areWays_contentsSteps node

theorem areWays_walkedSteps (node : Node) : AreWays node (walkedSteps node) := by
  unfold walkedSteps
  split
  · exact areWays_nil node
  · split
    · exact areWays_componentSteps node
    · exact areWays_visitSteps node

theorem areWays_steps (stance : Stance) (node : Node) : AreWays node (steps stance node) := by
  cases stance with
  | top | row | classBody => exact areWays_properSteps ..
  | component => exact areWays_componentSteps node
  | contents => exact areWays_contentsSteps node
  | walked => exact areWays_walkedSteps node
  | visited => exact areWays_visitSteps node
  | target =>
    simp only [steps]
    split
    · exact areWays_nil node
    · exact areWays_firstStep ..
    · refine (areWays_firstStep ..).append (areWays_stepsIn ..) ?_
      intro first hfirst second hsecond _ heq
      have hsame := (role_of_mem_firstStep hfirst).symm.trans
        ((congrArg Node.role heq).trans (role_of_mem_stepsIn hsecond))
      exact absurd (Option.some.inj hsame) (by decide)
    iterate 3 exact areWays_properSteps ..
    · exact areWays_walkedSteps node
  | parameter =>
    simp only [steps]
    split
    iterate 2 exact areWays_firstStep ..
    · exact areWays_nil node
  | decorator => exact areWays_map (sublist_find? _ _) fun _ => .walked
  | member =>
    simp only [steps]
    split
    · exact areWays_componentSteps node
    · exact areWays_walkedSteps node

end Ways

theorem getElem?_of_mem_steps {stance : Stance} {node : Node} {step : Step}
    (h : step ∈ steps stance node) : node.children[step.index]? = some step.node :=
  List.mem_zipIdx_iff_getElem?.1 ((areWays_steps stance node).below step h)

theorem size_lt_of_mem_steps {stance : Stance} {node : Node} {step : Step}
    (h : step ∈ steps stance node) : step.node.size < node.size :=
  Node.size_lt_of_mem_children (List.mem_of_getElem? (getElem?_of_mem_steps h))

/-- A component that opens in a place, or what is found there, with the place of the component
around it. -/
structure Visit where
  place : Place
  opens : Bool
  under : Option Place

/-- The visits of a node and of all that is gone on to from there, below a component. Unless
something else is named, calls are looked for. -/
def tour (stance : Stance) (under : Option Place) (place : Place) (sought : Sought := .calls) :
    List Visit :=
  let inner := if opens stance place.node then some place else under
  (if opens stance place.node then [⟨place, true, under⟩] else []) ++
    ((if finds stance place.node sought then [⟨place, false, inner⟩] else []) ++
      (steps stance place.node).attach.flatMap fun step =>
        tour step.1.stance inner (place.child step.1.node step.1.index) sought)
termination_by place.node.size
decreasing_by exact size_lt_of_mem_steps step.2

/-- The tours of some steps from a place, one after another. -/
def toursOf (under : Option Place) (place : Place) (row : List Step) (sought : Sought := .calls) :
    List Visit :=
  row.flatMap fun step => tour step.stance under (place.child step.node step.index) sought

theorem tour_eq (stance : Stance) (under : Option Place) (place : Place) (sought : Sought) :
    tour stance under place sought =
      let inner := if opens stance place.node then some place else under
      (if opens stance place.node then [⟨place, true, under⟩] else []) ++
        ((if finds stance place.node sought then [⟨place, false, inner⟩] else []) ++
          toursOf inner place (steps stance place.node) sought) := by
  rw [tour]
  simp only [List.flatMap_subtype, List.unattach_attach]
  rfl

/-- The tour of a whole file. A file that has text but no statement is one component. -/
def fileTour (source : String) (root : Node) (sought : Sought := .calls) : List Visit :=
  if root.namedChildren = [] then
    if source.isEmpty then [] else [⟨⟨[], root⟩, true, none⟩]
  else tour .top none ⟨[], root⟩ sought

/-- Events that neither open nor close a component and are not what is looked for. -/
def Event.isQuiet (sought : Sought) : Event → Bool
  | .enter _ | .leave => false
  | .call _ => sought ≠ .calls
  | .imports _ => sought ≠ .imports
  | _ => true

/-- A component opens at a node. -/
structure Opening.IsAt (opening : Opening) (reading : Reading) (node : Node) : Prop where
  start : opening.start = node.start
  stop : opening.stop = node.stop
  firstLine : opening.firstLine = reading.line node
  lastLine : opening.lastLine = reading.lastLine node
  canonical : opening.canonical = node.canonical reading.source

/-- Events inside a component, or at top level, tell some visits. -/
inductive Tells (reading : Reading) (sought : Sought) :
    (under : Option Place) → List Event → List Visit → Prop
  | nil (under : Option Place) : Tells reading sought under [] []
  | quiet {under : Option Place} {event : Event} {rest : List Event} {visits : List Visit}
      (hquiet : event.isQuiet sought) (hrest : Tells reading sought under rest visits) :
      Tells reading sought under (event :: rest) visits
  | found {under place : Place} {rest : List Event} {visits : List Visit}
      (hfound : sought.isAt place.node) (hrest : Tells reading sought (some under) rest visits) :
      Tells reading sought (some under) (sought.events reading place.node ++ rest)
        (⟨place, false, some under⟩ :: visits)
  | component {under : Option Place} {place : Place} {opening : Opening}
      {inside rest : List Event} {found visits : List Visit}
      (hopening : opening.IsAt reading place.node)
      (hinside : Tells reading sought (some place) inside found)
      (hrest : Tells reading sought under rest visits) :
      Tells reading sought under (.enter opening :: (inside ++ .leave :: rest))
        (⟨place, true, under⟩ :: (found ++ visits))

namespace Tells

variable {reading : Reading} {sought : Sought} {under : Option Place} {place : Place}

theorem append {xs ys : List Event} {visits more : List Visit}
    (hx : Tells reading sought under xs visits) (hy : Tells reading sought under ys more) :
    Tells reading sought under (xs ++ ys) (visits ++ more) := by
  induction hx with
  | nil => exact hy
  | quiet hquiet _ ih => exact .quiet hquiet (ih hy)
  | found hfound _ ih =>
    rw [List.append_assoc]
    exact .found hfound (ih hy)
  | component hopening hinside _ _ ih =>
    rw [List.cons_append, List.append_assoc, List.cons_append, List.cons_append, List.append_assoc]
    exact .component hopening hinside (ih hy)

theorem ofQuiet {events : List Event} (h : ∀ event ∈ events, event.isQuiet sought) :
    Tells reading sought under events [] := by
  induction events with
  | nil => exact .nil under
  | cons event rest ih =>
    obtain ⟨hevent, hrest⟩ := List.forall_mem_cons.1 h
    exact .quiet hevent (ih hrest)

theorem single {opening : Opening} {inside : List Event} {found : List Visit}
    (hopening : opening.IsAt reading place.node)
    (hinside : Tells reading sought (some place) inside found) :
    Tells reading sought under (.enter opening :: (inside ++ [.leave]))
      (⟨place, true, under⟩ :: found) := by
  rw [← List.append_nil found]
  exact .component hopening hinside (.nil under)

/-- Where each child that is gone on to tells its tour, all of them tell theirs. -/
theorem steps {α : Type} {xs : List α} {events : α → List Event} {step : α → Step}
    (h : ∀ x ∈ xs, Tells reading sought under (events x)
      (tour (step x).stance under (place.child (step x).node (step x).index) sought)) :
    Tells reading sought under (xs.flatMap events) (toursOf under place (xs.map step) sought) := by
  induction xs with
  | nil => exact .nil under
  | cons x rest ih =>
    obtain ⟨hx, hrest⟩ := List.forall_mem_cons.1 h
    exact hx.append (ih hrest)

variable {events : Node → List Event} {stance : Stance} {role : String}

theorem firstStep
    (h : ∀ child ∈ place.node.children, ∀ index,
      Tells reading sought under (events child)
        (tour stance under (place.child child index) sought)) :
    Tells reading sought under ((place.node.firstIn role).flatMap events)
      (toursOf under place (firstStep stance place.node role) sought) := by
  have hrow : place.node.firstIn role =
      (place.node.children.zipIdx.find? (·.1.role == some role)).toList.map Prod.fst := by
    rw [Node.firstIn, Node.child?, ← map_fst_find?_zipIdx, Option.toList_map]
  rw [hrow, List.flatMap_map]
  refine Tells.steps fun child hchild => h child.1 ?_ child.2
  exact List.fst_mem_of_mem_zipIdx (List.mem_of_find?_eq_some (Option.mem_toList.1 hchild))

theorem stepsIn
    (h : ∀ child ∈ place.node.children, ∀ index,
      Tells reading sought under (events child)
        (tour stance under (place.child child index) sought)) :
    Tells reading sought under ((place.node.childrenIn role).flatMap events)
      (toursOf under place (stepsIn stance place.node role) sought) := by
  rw [Node.childrenIn, ← map_fst_filter_zipIdx, List.flatMap_map]
  refine Tells.steps fun child hchild => h child.1 ?_ child.2
  exact List.fst_mem_of_mem_zipIdx (List.mem_filter.1 hchild).1

theorem properSteps
    (h : ∀ child ∈ place.node.children, ∀ index,
      Tells reading sought under (events child)
        (tour stance under (place.child child index) sought)) :
    Tells reading sought under (place.node.namedChildren.flatMap events)
      (toursOf under place (properSteps stance place.node) sought) := by
  rw [Node.namedChildren, ← map_fst_filter_zipIdx, List.flatMap_map]
  refine Tells.steps fun child hchild => h child.1 ?_ child.2
  exact List.fst_mem_of_mem_zipIdx (List.mem_filter.1 hchild).1

theorem markedSteps {events : Bool × Node → List Event} {stance : Bool → Node → Stance}
    (h : ∀ marked, ∀ child ∈ place.node.children, ∀ index,
      Tells reading sought under (events (marked, child))
        (tour (stance marked child) under (place.child child index) sought)) :
    Tells reading sought under ((place.node.namedChildrenMarking role).flatMap events)
      (toursOf under place (markedSteps place.node role stance) sought) := by
  have hrow : place.node.namedChildrenMarking role =
      ((Node.markFirst (·.1.role == some role) place.node.children.zipIdx).filter
        (·.2.1.isProper)).map fun marked => (marked.1, marked.2.1) := by
    rw [Node.namedChildrenMarking, ← List.zipIdx_map_fst 0 place.node.children, markFirst_map,
      List.filter_map, List.zipIdx_map_fst]
    rfl
  rw [hrow, List.flatMap_map]
  refine Tells.steps fun marked hmarked => h marked.1 marked.2.1 ?_ marked.2.2
  exact List.fst_mem_of_mem_zipIdx (Node.mem_of_mem_markFirst (List.mem_filter.1 hmarked).1)

end Tells

section Stances

variable {stance other : Stance} {under : Option Place} {place : Place} {sought : Sought}

theorem tour_congr (hopens : opens stance place.node = opens other place.node)
    (hfinds : finds stance place.node sought = finds other place.node sought)
    (hsteps : steps stance place.node = steps other place.node) :
    tour stance under place sought = tour other under place sought := by
  rw [tour_eq, tour_eq, hopens, hfinds, hsteps]

/-- A node at which nothing is found only leads on. -/
theorem tour_eq_toursOf (hopens : opens stance place.node = false)
    (hfinds : finds stance place.node sought = false) :
    tour stance under place sought = toursOf under place (steps stance place.node) sought := by
  rw [tour_eq, hopens, hfinds]
  rfl

theorem isCall_eq_false {node : Node} (h : node.construct ≠ .call) : isCall node = false := by
  simp [isCall, h]

theorem isAt_eq_false {node : Node} (h : sought.concerns node.construct = false) :
    sought.isAt node = false := by
  cases sought with
  | calls =>
    refine isCall_eq_false fun hcall => ?_
    rw [hcall] at h
    exact absurd h (by decide)
  | imports =>
    cases hconstruct : node.construct <;>
      simp_all [Sought.concerns, Sought.isAt, Construct.isImport]

theorem tour_walked_extra (h : place.node.extra) : tour .walked under place sought = [] := by
  rw [tour_eq_toursOf (by simp [opens, h]) (by simp [finds, h])]
  simp [steps, walkedSteps, h, toursOf]

theorem tour_walked_definition (hextra : place.node.extra = false)
    (hdefinition : place.node.construct.isDefinition) :
    tour .walked under place sought = tour .component under place sought := by
  refine tour_congr ?_ rfl ?_
  · simp [opens, hextra, hdefinition]
  · simp [steps, walkedSteps, hextra, hdefinition]

theorem tour_walked_visited (hextra : place.node.extra = false)
    (hdefinition : place.node.construct.isDefinition = false) :
    tour .walked under place sought = tour .visited under place sought := by
  refine tour_congr ?_ ?_ ?_
  · simp [opens, hdefinition]
  · simp [finds, hextra]
  · simp [steps, walkedSteps, hextra, hdefinition]

theorem tour_member (under : Option Place) (place : Place) (sought : Sought) :
    tour .member under place sought =
      if isMember place.node then tour .component under place sought
      else tour .walked under place sought := by
  split
  · rename_i hmember
    refine tour_congr ?_ rfl ?_
    · simp [opens, hmember]
    · simp [steps, hmember]
  · rename_i hmember
    refine tour_congr ?_ rfl ?_
    · have hdefinition : place.node.construct.isDefinition = false := by
        simp only [isMember, Bool.or_eq_true, not_or, Bool.not_eq_true] at hmember
        exact hmember.1
      simp [opens, hmember, hdefinition]
    · simp [steps, hmember]

theorem isDefinition_of_form {node : Node} (h : (Form.ofNode node).isNamedDefinition) :
    node.construct.isDefinition := by
  cases hconstruct : node.construct with
  | functionDefinition | classDefinition => rfl
  | expressionStatement =>
    simp only [Form.ofNode, hconstruct] at h
    split at h <;> simp [Form.isNamedDefinition] at h
  | _ => simp [Form.ofNode, hconstruct, Form.isNamedDefinition] at h

/-- What is looked for is no definition. -/
theorem isAt_eq_false_of_isDefinition {node : Node} (h : node.construct.isDefinition) :
    sought.isAt node = false := by
  refine isAt_eq_false ?_
  cases hconstruct : node.construct <;> simp_all [Construct.isDefinition, Sought.concerns]

/-- A component that opens at a node without decorators holds the contents of the node. -/
theorem tour_component (h : place.node.construct ≠ .decoratedDefinition) :
    tour .component under place sought =
      ⟨place, true, under⟩ :: tour .contents (some place) place sought := by
  rw [tour_eq, tour_eq .contents]
  simp only [opens, steps, componentSteps, if_neg h]
  rfl

end Stances

theorem openingOf_isAt (reading : Reading) (gaps : Gaps) (node : Node) :
    (openingOf reading gaps node).IsAt reading node :=
  ⟨rfl, rfl, rfl, rfl, rfl⟩

section Quiet

variable {reading : Reading} {node : Node} {sought : Sought}

theorem isQuiet_of_mem_parameterEvents :
    ∀ event ∈ parameterEvents reading node, event.isQuiet sought := by
  unfold parameterEvents
  split <;> simp [Event.isQuiet]

theorem isQuiet_of_mem_mentionEvents :
    ∀ event ∈ mentionEvents reading node, event.isQuiet sought := by
  unfold mentionEvents
  split <;> simp [Event.isQuiet]

theorem isQuiet_of_mem_bindEvents {access : AccessKind} {typeText : Option String} :
    ∀ event ∈ bindEvents reading access typeText node, event.isQuiet sought := by
  unfold bindEvents
  split <;> simp [Event.isQuiet]

theorem isQuiet_of_mem_map {α : Type} {xs : List α} {tell : α → Event}
    (h : ∀ x, (tell x).isQuiet sought) : ∀ event ∈ xs.map tell, event.isQuiet sought :=
  List.forall_mem_map.2 fun x _ => h x

end Quiet

theorem isQuiet_of_mem_callEvents : ∀ event ∈ callEvents reading node, event.isQuiet .imports := by
  unfold callEvents
  split <;> simp [Event.isQuiet]

theorem tells_callEvents (reading : Reading) (under place : Place)
    (hcall : place.node.construct = .call) :
    Tells reading sought (some under) (callEvents reading place.node)
      (if sought.isAt place.node then [⟨place, false, some under⟩] else []) := by
  cases sought with
  | calls =>
    split
    · rename_i hfound
      rw [← List.append_nil (callEvents ..)]
      exact .found hfound (.nil _)
    · rename_i hnone
      have hchild : place.node.child? "function" = none := by
        simpa [Sought.isAt, isCall, hcall] using hnone
      simp only [callEvents, Reading.compactChild?, hchild]
      exact .nil _
  | imports =>
    have hother : Sought.imports.isAt place.node = false := by rw [Sought.isAt, hcall]; rfl
    rw [hother]
    exact .ofQuiet isQuiet_of_mem_callEvents

theorem tells_imports (reading : Reading) (under place : Place)
    (himport : place.node.construct.isImport) :
    Tells reading sought (some under) ((importRecords reading place.node).map .imports)
      (if sought.isAt place.node then [⟨place, false, some under⟩] else []) := by
  cases sought with
  | calls =>
    have hother : Sought.calls.isAt place.node = false :=
      isCall_eq_false fun hcall => by simp [hcall, Construct.isImport] at himport
    rw [hother]
    exact .ofQuiet (isQuiet_of_mem_map fun _ => rfl)
  | imports =>
    have hfound : Sought.imports.isAt place.node := himport
    rw [if_pos hfound, ← List.append_nil (List.map ..)]
    exact .found hfound (.nil _)

/-- Decorators tell the tours of their expressions. -/
theorem tells_decorations {reading : Reading} {place : Place} {children : List (Node × Nat)}
    (h : ∀ child ∈ children, ∀ expression ∈ child.1.children, ∀ index,
      Tells reading sought (some place) (walk reading expression)
        (tour .walked (some place)
          ((place.child child.1 child.2).child expression index) sought)) (first : Nat) :
    Tells reading sought (some place) (decorations reading first (children.map Prod.fst))
      (toursOf (some place) place (children.map (Step.to .decorator)) sought) := by
  induction children generalizing first with
  | nil => exact .nil _
  | cons child rest ih =>
    obtain ⟨hchild, hrest⟩ := List.forall_mem_cons.1 h
    have hexpression : child.1.firstNamed?.toList =
        (child.1.children.zipIdx.find? (·.1.isProper)).toList.map Prod.fst := by
      rw [Node.firstNamed?, Node.namedChildren, List.head?_filter, ← map_fst_find?_zipIdx,
        Option.toList_map]
    have htour : tour .decorator (some place) (place.child child.1 child.2) sought =
        toursOf (some place) (place.child child.1 child.2) (steps .decorator child.1) sought :=
      tour_eq_toursOf rfl rfl
    rw [List.map_cons, decorations, List.zipIdx_cons, List.flatMap_cons, ← decorations]
    refine .append ?_ (ih hrest (first + 1))
    change Tells _ _ _ _ (tour .decorator (some place) (place.child child.1 child.2) sought)
    rw [htour, hexpression, List.flatMap_map]
    refine .steps fun expression hexpression => .quiet rfl (hchild _ ?_ _)
    exact List.fst_mem_of_mem_zipIdx (List.mem_of_find?_eq_some (Option.mem_toList.1 hexpression))

theorem tells_parameter (reading : Reading) (under place : Place)
    (h : ∀ value ∈ place.node.children, ∀ index,
      Tells reading sought (some under) (walk reading value)
        (tour .walked (some under) (place.child value index) sought)) :
    Tells reading sought (some under)
      ((parameterDefault place.node).flatMap (walk reading) ++ parameterEvents reading place.node)
      (tour .parameter (some under) place sought) := by
  have hdefault : Tells reading sought (some under)
      ((parameterDefault place.node).flatMap (walk reading))
      (tour .parameter (some under) place sought) := by
    rw [tour_eq_toursOf rfl rfl]
    simp only [steps, parameterDefault]
    cases hconstruct : place.node.construct
    case defaultParameter | typedDefaultParameter => exact .firstStep h
    all_goals exact .nil _
  rw [← List.append_nil (tour .parameter _ _ sought)]
  exact hdefault.append (.ofQuiet isQuiet_of_mem_parameterEvents)

-- The statements recurse as the functions do that they are about, and for the same measure.
mutual

theorem tells_bind (reading : Reading) (access : AccessKind) (typeText : Option String)
    (under place : Place) :
    Tells reading sought (some under) (bind reading access typeText place.node)
      (tour .target (some under) place sought) := by
  have hplain (h : place.node.construct.isDefinition = false)
      (hother : sought.concerns place.node.construct = false) :
      tour .target (some under) place sought =
        toursOf (some under) place (steps .target place.node) sought :=
    tour_eq_toursOf (by simp [opens, h]) (by simp [finds, isAt_eq_false hother])
  have hwalk (h : steps .target place.node = walkedSteps place.node) :
      Tells reading sought (some under) (walk reading place.node)
        (tour .target (some under) place sought) := by
    have hsame : tour .target (some under) place sought = tour .walked (some under) place sought :=
      tour_congr rfl rfl h
    rw [hsame]
    exact tells_walk reading under place
  rw [bind]
  simp only [List.flatMap_subtype, List.unattach_attach]
  cases hconstruct : place.node.construct
  case identifier =>
    rw [hplain (by rw [hconstruct]; rfl) (by rw [hconstruct]; rfl)]
    simp only [steps, hconstruct]
    exact .ofQuiet isQuiet_of_mem_bindEvents
  case member =>
    rw [hplain (by rw [hconstruct]; rfl) (by rw [hconstruct]; rfl)]
    simp only [steps, hconstruct]
    exact .quiet rfl (.firstStep fun child hchild index =>
      tells_walk reading under (place.child child index))
  case subscript =>
    rw [hplain (by rw [hconstruct]; rfl) (by rw [hconstruct]; rfl)]
    simp only [steps, hconstruct]
    rw [toursOf, List.flatMap_append]
    exact .append (.firstStep fun child hchild index =>
        .quiet rfl (tells_walk reading under (place.child child index)))
      (.stepsIn fun child hchild index => tells_walk reading under (place.child child index))
  case targetGroup | listSplatPattern | asPatternTarget =>
    rw [hplain (by rw [hconstruct]; rfl) (by rw [hconstruct]; rfl)]
    simp only [steps, hconstruct]
    exact .properSteps fun child hchild index =>
      tells_bind reading access none under (place.child child index)
  all_goals exact hwalk (by simp only [steps, hconstruct])
termination_by 5 * place.node.size + 4
decreasing_by
  · omega
  all_goals
    have hsmaller := Node.size_lt_of_mem_children hchild
    simp only [Place.child]
    omega

/-- The events of a node tell its tour. -/
theorem tells_walk (reading : Reading) (under place : Place) :
    Tells reading sought (some under) (walk reading place.node)
      (tour .walked (some under) place sought) := by
  rw [walk]
  split
  · rename_i hextra
    rw [tour_walked_extra hextra]
    exact .nil _
  · rename_i hextra
    rw [Bool.not_eq_true] at hextra
    split
    · rename_i hdefinition
      rw [tour_walked_definition hextra hdefinition]
      exact tells_component reading .empty (some under) place
    · rename_i hdefinition
      rw [tour_walked_visited hextra (by simpa using hdefinition)]
      exact tells_visit reading under place
termination_by 5 * place.node.size + 3
decreasing_by all_goals omega

theorem tells_component (reading : Reading) (gaps : Gaps) (under : Option Place) (place : Place) :
    Tells reading sought under (component reading gaps place.node)
      (tour .component under place sought) := by
  rw [component_eq]
  by_cases hdecorated : place.node.construct = .decoratedDefinition
  · have htour : tour .component under place sought =
        ⟨place, true, under⟩ :: toursOf (some place) place (componentSteps place.node) sought := by
      have hother : sought.isAt place.node = false :=
        isAt_eq_false_of_isDefinition (by rw [hdecorated]; rfl)
      rw [tour_eq]
      simp [opens, finds, steps, hother]
    rw [htour, componentSteps, if_pos hdecorated, toursOf, List.flatMap_append]
    refine .single (openingOf_isAt ..) (.append ?_ ?_)
    · have hrow : decoratorsOf place.node = (place.node.children.zipIdx.filter fun child =>
          child.1.isProper && child.1.construct == .decorator).map Prod.fst := by
        rw [decoratorsOf, if_pos hdecorated, Node.namedChildren, List.filter_filter]
        refine Eq.trans (List.filter_congr fun child _ => Bool.and_comm _ _) ?_
        exact (map_fst_filter_zipIdx
          (fun child : Node => child.isProper && child.construct == .decorator) _).symm
      rw [hrow]
      refine tells_decorations (fun child hchild expression hexpression index => ?_) 0
      have hmem : child.1 ∈ place.node.children :=
        List.fst_mem_of_mem_zipIdx (List.mem_filter.1 hchild).1
      exact tells_walk reading place ((place.child child.1 child.2).child expression index)
    · have hrow : place.node.firstIn "definition" =
          (place.node.children.zipIdx.find? (·.1.role == some "definition")).toList.map
            Prod.fst := by
        rw [Node.firstIn, Node.child?, ← map_fst_find?_zipIdx, Option.toList_map]
      rw [insideEvents, if_pos hdecorated, hrow, List.flatMap_map]
      refine .steps fun child hchild => ?_
      have hmem : child.1 ∈ place.node.children :=
        List.fst_mem_of_mem_zipIdx (List.mem_of_find?_eq_some (Option.mem_toList.1 hchild))
      simp only [Step.to, definitionStance]
      split
      · exact tells_walk reading place (place.child child.1 child.2)
      · exact tells_contents reading place (place.child child.1 child.2)
  · rw [tour_component hdecorated]
    have hnone : decoratorsOf place.node = [] := by simp [decoratorsOf, hdecorated]
    rw [hnone, insideEvents, if_neg hdecorated]
    exact .single (openingOf_isAt ..) (tells_contents reading place place)
termination_by 5 * place.node.size + 2
decreasing_by all_goals grind [→ Node.size_lt_of_mem_children, Place.child]

/-- The events inside a definition or statement tell the tour of its contents. -/
theorem tells_contents (reading : Reading) (under place : Place) :
    Tells reading sought (some under) (contents reading place.node)
      (tour .contents (some under) place sought) := by
  have hplain (hdefinition : place.node.construct.isDefinition) :
      tour .contents (some under) place sought =
        toursOf (some under) place (contentsSteps place.node) sought := by
    exact tour_eq_toursOf rfl (by simp [finds, isAt_eq_false_of_isDefinition hdefinition])
  rw [contents]
  simp only [List.flatMap_subtype, List.unattach_attach]
  cases hform : Form.ofNode place.node
  case function =>
    rw [hplain (isDefinition_of_form (by rw [hform]; rfl))]
    simp only [contentsSteps, hform]
    rw [toursOf, List.flatMap_append]
    refine .append (.firstStep fun row hrow index => ?_) (.firstStep fun body hbody index => ?_)
    · rw [tour_eq_toursOf rfl rfl]
      change Tells _ _ _ ((place.child row index).node.namedChildren.flatMap _) _
      refine .properSteps fun parameter hparameter position => ?_
      refine tells_parameter reading under ((place.child row index).child parameter position) ?_
      exact fun value hvalue slot => tells_walk reading under
        (((place.child row index).child parameter position).child value slot)
    · exact tells_walk reading under (place.child body index)
  case classDef =>
    rw [hplain (isDefinition_of_form (by rw [hform]; rfl))]
    simp only [contentsSteps, hform]
    rw [toursOf, List.flatMap_append]
    refine .append (.firstStep fun bases hbases index => ?_) (.firstStep fun body hbody index => ?_)
    · exact tells_walk reading under (place.child bases index)
    · rw [tour_eq_toursOf rfl rfl]
      change Tells _ _ _ ((place.child body index).node.namedChildren.flatMap _) _
      refine .properSteps fun statement hstatement position => ?_
      rw [tour_member]
      change Tells _ _ _ (if isMember statement then _ else _) (if isMember statement then _ else _)
      split
      · exact tells_component reading .empty (some under)
          ((place.child body index).child statement position)
      · exact tells_walk reading under ((place.child body index).child statement position)
  all_goals
    dsimp only
    split
    · rename_i hextra
      rw [tour_eq_toursOf rfl (by simp [finds, hextra])]
      simp only [steps, contentsSteps, hform, hextra]
      exact .nil _
    · rename_i hextra
      have hsame : tour .contents (some under) place sought =
          tour .visited (some under) place sought :=
        tour_congr rfl (by simp [finds, hextra]) (by simp [steps, contentsSteps, hform, hextra])
      rw [hsame]
      exact tells_visit reading under place
termination_by 5 * place.node.size + 1
decreasing_by all_goals grind [→ Node.size_lt_of_mem_children, Place.child]

theorem tells_visit (reading : Reading) (under place : Place) :
    Tells reading sought (some under) (visit reading place.node)
      (tour .visited (some under) place sought) := by
  have hplain (hother : sought.concerns place.node.construct = false) :
      tour .visited (some under) place sought =
        toursOf (some under) place (visitSteps place.node) sought :=
    tour_eq_toursOf rfl (isAt_eq_false hother)
  have hvisited : tour .visited (some under) place sought =
      (if sought.isAt place.node then [⟨place, false, some under⟩] else []) ++
        toursOf (some under) place (visitSteps place.node) sought := tour_eq ..
  rw [visit]
  simp only [List.flatMap_subtype, List.unattach_attach]
  cases hconstruct : place.node.construct
  case call =>
    rw [hvisited]
    simp only [visitSteps, hconstruct]
    exact (tells_callEvents reading under place hconstruct).append
      (.properSteps fun child hchild index => tells_walk reading under (place.child child index))
  case importStatement | importFromStatement | futureImportStatement =>
    rw [hvisited]
    simp only [visitSteps, hconstruct]
    rw [toursOf, List.flatMap_nil, List.append_nil]
    exact tells_imports reading under place (by rw [hconstruct]; rfl)
  all_goals
    rw [hplain (by rw [hconstruct]; rfl)]
    simp only [visitSteps, hconstruct]
  case assignment | augmentedAssignment | namedExpression =>
    rw [toursOf, List.flatMap_append]
    exact .append (.firstStep fun child hchild index =>
        tells_walk reading under (place.child child index))
      (.firstStep fun child hchild index => tells_bind reading _ _ under (place.child child index))
  case forStatement | forInClause =>
    refine .markedSteps fun marked child hchild index => ?_
    cases marked with
    | true => exact tells_bind reading _ _ under (place.child child index)
    | false => exact tells_walk reading under (place.child child index)
  case asPattern =>
    refine .markedSteps fun marked child hchild index => ?_
    dsimp only
    split
    · exact tells_bind reading _ _ under (place.child child index)
    · exact tells_walk reading under (place.child child index)
  case deleteStatement =>
    exact .properSteps fun child hchild index =>
      tells_bind reading _ _ under (place.child child index)
  case globalStatement | nonlocalStatement =>
    exact .ofQuiet (isQuiet_of_mem_map fun _ => rfl)
  case identifier => exact .ofQuiet isQuiet_of_mem_mentionEvents
  case member | keywordArgument | lambda =>
    exact .firstStep fun child hchild index => tells_walk reading under (place.child child index)
  all_goals
    exact .properSteps fun child hchild index => tells_walk reading under (place.child child index)
termination_by 5 * place.node.size
decreasing_by
  all_goals
    have hsmaller := Node.size_lt_of_mem_children hchild
    simp only [Place.child]
    omega

end

/-- The statements of a module tell their tours, whatever gaps they own. -/
theorem tells_statementEvents (reading : Reading) (root : Place) (cursor : Nat)
    (children : List (Node × Nat)) :
    Tells reading sought none (statementEvents reading cursor (children.map Prod.fst))
      (toursOf none root (children.map (Step.to .component)) sought) := by
  induction children generalizing cursor with
  | nil => exact .nil none
  | cons child rest ih =>
    have hcomponent (gaps : Gaps) : Tells reading sought none _ _ :=
      tells_component reading gaps none (root.child child.1 child.2)
    cases rest with
    | nil =>
      rw [List.map_singleton, List.map_singleton, toursOf, List.flatMap_singleton]
      exact hcomponent _
    | cons next others => exact (hcomponent _).append (ih child.1.stop)

/-- The events of a file tell its tour. -/
theorem tells_moduleEvents (reading : Reading) (root : Node) :
    Tells reading sought none (moduleEvents reading root)
      (fileTour reading.source root sought) := by
  have hopening : (moduleOpening reading root).IsAt reading root := ⟨rfl, rfl, rfl, rfl, rfl⟩
  unfold moduleEvents fileTour
  split
  · rename_i hnone
    rw [if_pos hnone]
    split
    · exact .nil none
    · exact .single hopening (.nil _)
  · rename_i hsome
    rw [if_neg hsome, tour_eq_toursOf rfl rfl]
    have hstatements : Tells reading sought none _ _ := tells_statementEvents reading ⟨[], root⟩ 0
      (root.children.zipIdx.filter (·.1.isProper))
    rw [map_fst_filter_zipIdx] at hstatements
    exact hstatements

end SourceLedger.Outline
