import SourceLedger.Text.LineMap
import SourceLedger.Text.Slice

/-!
# Concrete syntax trees

A `Node` is one token or phrase of a parsed source text. It knows its kind, the role it plays in
its parent, whether it stands in the grammar or is an extra such as a comment, whether the parser
had to repair something, and the bytes it covers. A `Tree` is a root with the line map of the text
that was parsed; the text that nodes are read from is given separately, and need not be the same.

## Main definitions

* `Node.firstIn`, `Node.childrenIn` and `Node.namedChildren` are the ways to go down.
* `Node.size` and `Node.height` measure a tree; every way down makes both smaller.
-/

namespace SourceLedger.Syntax

/-- What a node says about itself. -/
structure Attributes where
  /-- The kind of phrase, or the token's own text where the grammar gives it no name. -/
  kind : String
  /-- The role of the node in its parent. -/
  role : Option String := none
  /-- Whether the grammar names the kind, as it does for all but fixed tokens. -/
  named : Bool := true
  /-- Comments and line continuations, which may stand anywhere. -/
  extra : Bool := false
  /-- A token that the parser put in to go on. -/
  missing : Bool := false
  /-- Text that the parser could not place. -/
  faulty : Bool := false
  /-- The node, or some node below it, is missing or faulty. -/
  hasFault : Bool := false
  start : Nat
  stop : Nat
  deriving DecidableEq, Repr, Inhabited

/-- A node of a concrete syntax tree. -/
inductive Node where
  | mk (attributes : Attributes) (children : List Node)
  deriving Repr, Inhabited

namespace Node

/-- What the node says about itself. -/
def attributes : Node → Attributes
  | mk attributes _ => attributes

/-- All children, in order. -/
def children : Node → List Node
  | mk _ children => children

/-- The kind of the node. -/
def kind (node : Node) : String :=
  node.attributes.kind

/-- The role of the node in its parent. -/
def role (node : Node) : Option String :=
  node.attributes.role

/-- Whether the grammar names the node's kind. -/
def named (node : Node) : Bool :=
  node.attributes.named

/-- Whether the node is a comment or a line continuation. -/
def extra (node : Node) : Bool :=
  node.attributes.extra

/-- The offset of the node's first byte. -/
def start (node : Node) : Nat :=
  node.attributes.start

/-- The offset behind the node's last byte. -/
def stop (node : Node) : Nat :=
  node.attributes.stop

/-- The first child in a role. -/
def child? (node : Node) (role : String) : Option Node :=
  node.children.find? (·.role == some role)

/-- The first child in a role, as a row of at most one node. -/
def firstIn (node : Node) (role : String) : List Node :=
  (node.child? role).toList

/-- All children in a role, in order. -/
def childrenIn (node : Node) (role : String) : List Node :=
  node.children.filter (·.role == some role)

/-- A child that the grammar names and that is not an extra. -/
def isProper (node : Node) : Bool :=
  node.named && !node.extra

/-- The named children without extras, in order. -/
def namedChildren (node : Node) : List Node :=
  node.children.filter isProper

/-- Marks the first element with a property. -/
def markFirst {α : Type} (p : α → Bool) : List α → List (Bool × α)
  | [] => []
  | x :: xs => if p x then (true, x) :: xs.map (false, ·) else (false, x) :: markFirst p xs

/-- The named children without extras, the first child in `role` marked among them. -/
def namedChildrenMarking (node : Node) (role : String) : List (Bool × Node) :=
  (markFirst (·.role == some role) node.children).filter (·.2.isProper)

/-- The first named child. -/
def firstNamed? (node : Node) : Option Node :=
  node.namedChildren.head?

/-- The text of a node in `source`, if its bytes can be cut out. -/
def text? (node : Node) (source : String) : Option String :=
  Text.slice? source node.start node.stop

/-- The text of the first child in a role. -/
def childText? (node : Node) (role : String) (source : String) : Option String :=
  (node.child? role).bind (·.text? source)

/-- A node whose text is taken whole and not through its children. The body of a string has
children for its escape sequences only, and raw text between them. -/
def isAtomic (node : Node) : Bool :=
  node.children.isEmpty || node.kind == "string_content"

mutual

/-- The number of nodes of a tree. -/
def size : Node → Nat
  | mk _ children => 1 + sizeOfAll children

/-- The number of nodes of a row of trees. -/
def sizeOfAll : List Node → Nat
  | [] => 0
  | node :: rest => node.size + sizeOfAll rest

end

mutual

/-- The number of levels of a tree. -/
def height : Node → Nat
  | mk _ children => 1 + heightOfAll children

/-- The height of the highest of some trees. -/
def heightOfAll : List Node → Nat
  | [] => 0
  | node :: rest => max node.height (heightOfAll rest)

end

mutual

/-- All nodes of a tree, each before its children. -/
def preorder : Node → List Node
  | mk attributes children => mk attributes children :: preorderOfAll children

/-- All nodes of a row of trees. -/
def preorderOfAll : List Node → List Node
  | [] => []
  | node :: rest => node.preorder ++ preorderOfAll rest

end

/-- A member of a row of trees is no larger than the row. -/
theorem size_le_sizeOfAll {node : Node} {row : List Node} (h : node ∈ row) :
    node.size ≤ sizeOfAll row := by
  induction row with
  | nil => simp at h
  | cons first rest ih =>
    simp only [sizeOfAll]
    rcases List.mem_cons.1 h with rfl | h
    · omega
    · have := ih h
      omega

/-- A child is smaller than its parent. -/
theorem size_lt_of_mem_children {node child : Node} (h : child ∈ node.children) :
    child.size < node.size := by
  cases node with
  | mk attributes children =>
    have : child.size ≤ sizeOfAll children := size_le_sizeOfAll h
    simp only [size]
    omega

/-- Looking a child up by its role finds a child. -/
theorem mem_children_of_child? {node child : Node} {role : String}
    (h : node.child? role = some child) : child ∈ node.children :=
  List.mem_of_find?_eq_some h

/-- The first child in a role is a child. -/
theorem mem_children_of_mem_firstIn {node child : Node} {role : String}
    (h : child ∈ node.firstIn role) : child ∈ node.children :=
  mem_children_of_child? (Option.mem_toList.1 h)

/-- Children in a role are children. -/
theorem mem_children_of_mem_childrenIn {node child : Node} {role : String}
    (h : child ∈ node.childrenIn role) : child ∈ node.children :=
  (List.mem_filter.1 h).1

/-- Named children are children. -/
theorem mem_children_of_mem_namedChildren {node child : Node}
    (h : child ∈ node.namedChildren) : child ∈ node.children :=
  (List.mem_filter.1 h).1

/-- Marking adds no elements. -/
theorem mem_of_mem_markFirst {α : Type} {p : α → Bool} {marked : Bool × α} {xs : List α}
    (h : marked ∈ markFirst p xs) : marked.2 ∈ xs := by
  induction xs with
  | nil => simp [markFirst] at h
  | cons x xs ih =>
    unfold markFirst at h
    split at h
    · rcases List.mem_cons.1 h with rfl | h
      · simp
      · obtain ⟨y, hy, rfl⟩ := List.mem_map.1 h
        simp [hy]
    · rcases List.mem_cons.1 h with rfl | h
      · simp
      · exact List.mem_cons_of_mem _ (ih h)

/-- Marked children are children. -/
theorem mem_children_of_mem_namedChildrenMarking {node : Node} {marked : Bool × Node}
    {role : String} (h : marked ∈ node.namedChildrenMarking role) : marked.2 ∈ node.children :=
  mem_of_mem_markFirst (List.mem_filter.1 h).1

/-- The first named child is a child. -/
theorem mem_children_of_firstNamed? {node child : Node} (h : node.firstNamed? = some child) :
    child ∈ node.children :=
  mem_children_of_mem_namedChildren (List.mem_of_mem_head? h)

/-- Going down to the first child in a role makes a tree smaller. -/
@[grind →]
theorem size_lt_of_mem_firstIn {node child : Node} {role : String}
    (h : child ∈ node.firstIn role) : child.size < node.size :=
  size_lt_of_mem_children (mem_children_of_mem_firstIn h)

/-- Going down to a child in a role makes a tree smaller. -/
@[grind →]
theorem size_lt_of_mem_childrenIn {node child : Node} {role : String}
    (h : child ∈ node.childrenIn role) : child.size < node.size :=
  size_lt_of_mem_children (mem_children_of_mem_childrenIn h)

/-- Going down to a named child makes a tree smaller. -/
@[grind →]
theorem size_lt_of_mem_namedChildren {node child : Node} (h : child ∈ node.namedChildren) :
    child.size < node.size :=
  size_lt_of_mem_children (mem_children_of_mem_namedChildren h)

/-- Going down to a named child with its mark makes a tree smaller. -/
@[grind →]
theorem size_lt_of_mem_namedChildrenMarking {node : Node} {marked : Bool × Node} {role : String}
    (h : marked ∈ node.namedChildrenMarking role) : marked.2.size < node.size :=
  size_lt_of_mem_children (mem_children_of_mem_namedChildrenMarking h)

/-- Going down to the first named child makes a tree smaller. -/
@[grind →]
theorem size_lt_of_firstNamed? {node child : Node} (h : node.firstNamed? = some child) :
    child.size < node.size :=
  size_lt_of_mem_children (mem_children_of_firstNamed? h)

end Node

/-- A parsed text: its root node, and where its lines break. -/
structure Tree where
  root : Node
  lines : Text.LineMap
  deriving Repr, Inhabited

namespace Tree

/-- The line, from one, on which a node begins. -/
def firstLine (tree : Tree) (node : Node) : Nat :=
  tree.lines.firstLine node.start

/-- The last line that a node covers. -/
def lastLine (tree : Tree) (node : Node) : Nat :=
  tree.lines.lastLine node.start node.stop

end Tree

end SourceLedger.Syntax
