import SourceLedger.Extraction
import SourceLedger.Proofs.Nesting

/-!
# Finding the first fault

The search for a fault leaves out whatever is not flagged. Where the flags are right nothing is
missed: the search finds the first fault of the tree, each node before its children. So a tree is
refused exactly if there is a fault in it, and the refusal says where the first one stands.

## Main definitions

* `Node.IsFlagged` says that the flags of a tree are right.

## Main statements

* `Node.firstFault?_eq` is the search without flags.
* `Tree.describeFault_eq` words a fault that is found.
* `refused_at_first_fault` says which trees are refused, and with which words.
-/

namespace SourceLedger.Syntax

namespace Node

/-- A node is flagged exactly if it, or some node below it, is a fault. -/
def IsFlagged (root : Node) : Prop :=
  ∀ node ∈ root.preorder,
    node.attributes.hasFault = true ↔ ∃ part ∈ node.preorder, part.isFault = true

instance (root : Node) : Decidable root.IsFlagged :=
  inferInstanceAs (Decidable (∀ node ∈ root.preorder, _ ↔ _))

namespace IsFlagged

variable {root : Node}

theorem self (h : root.IsFlagged) :
    root.attributes.hasFault = true ↔ ∃ part ∈ root.preorder, part.isFault = true :=
  h root (mem_preorder_self root)

theorem child {child : Node} (h : root.IsFlagged) (hchild : child ∈ root.children) :
    child.IsFlagged :=
  fun node hnode => h node (mem_preorder_of_child hchild hnode)

/-- Nothing is wrong in a tree whose root is not flagged. -/
theorem find?_eq_none (h : root.IsFlagged) (hflag : ¬ root.attributes.hasFault = true) :
    root.preorder.find? isFault = none := by
  apply List.find?_eq_none.2
  intro part hpart hfault
  exact hflag (h.self.2 ⟨part, hpart, hfault⟩)

end IsFlagged

mutual

/-- Where the flags are right, the search finds the first fault of a tree. -/
theorem firstFault?_eq (node : Node) (h : node.IsFlagged) :
    node.firstFault? = node.preorder.find? isFault := by
  cases node with
  | mk attributes children =>
    rw [firstFault?]
    by_cases hfault : (mk attributes children).isFault = true
    · rw [if_pos hfault, preorder, List.find?_cons_of_pos hfault]
    · rw [if_neg hfault]
      by_cases hflag : attributes.hasFault = true
      · rw [if_pos hflag, preorder, List.find?_cons_of_neg hfault]
        exact firstFaultOfAll?_eq children fun child hchild => h.child hchild
      · rw [if_neg hflag, h.find?_eq_none hflag]

theorem firstFaultOfAll?_eq (row : List Node) (h : ∀ node ∈ row, node.IsFlagged) :
    firstFaultOfAll? row = (preorderOfAll row).find? isFault := by
  cases row with
  | nil => rfl
  | cons node rest =>
    obtain ⟨hnode, hrest⟩ := List.forall_mem_cons.1 h
    rw [firstFaultOfAll?, preorderOfAll, List.find?_append, firstFault?_eq node hnode]
    cases node.preorder.find? isFault with
    | some fault => rfl
    | none => exact firstFaultOfAll?_eq rest hrest

end

end Node

namespace Tree

variable {tree : Tree} {node : Node}

/-- A fault that is found is named with its line and its column. -/
theorem describeFault_eq (h : tree.root.firstFault? = some node) :
    tree.describeFault =
      (if node.attributes.missing then "missing `" ++ node.kind ++ "`" else "syntax error") ++
        " at line " ++ toString (tree.lines.row node.start + 1) ++
        ", column " ++ toString (tree.lines.column node.start + 1) := by
  simp only [describeFault, h, ← String.toList_inj]
  by_cases hmissing : node.attributes.missing = true
  · simp [if_pos hmissing, toString]
  · simp [if_neg hmissing, toString]

/-- The words for a fault that was not found are never used for one that was. -/
theorem describeFault_ne (h : tree.root.firstFault? = some node) :
    tree.describeFault ≠ "syntax error" := by
  rw [describeFault_eq h, Ne, ← String.toList_inj]
  split <;> simp

end Tree

end SourceLedger.Syntax

namespace SourceLedger

open Syntax (Tree)
open Syntax.Node (isFault)

/-- A tree is refused where its root is flagged. -/
theorem checkTree_eq (path : String) (tree : Tree) :
    checkTree path tree =
      if tree.root.attributes.hasFault = true then .error (.unparsable path tree.describeFault)
      else .ok tree :=
  rfl

/-- The first fault of a tree whose flags are right is found, if there is one. Such a tree is
refused exactly if there is a fault in it, and then for its first fault, with the line and the
column of it. -/
theorem refused_at_first_fault (path : String) (tree : Tree) (h : tree.root.IsFlagged) :
    tree.root.firstFault? = tree.root.preorder.find? isFault ∧
      (tree.root.firstFault? = none ↔ ¬ ∃ node ∈ tree.root.preorder, isFault node = true) ∧
      ((∃ reason, checkTree path tree = .error (.unparsable path reason)) ↔
        ∃ node ∈ tree.root.preorder, isFault node = true) ∧
      ∀ failure, checkTree path tree = .error failure →
        ∃ node reason, tree.root.preorder.find? isFault = some node ∧
          failure = .unparsable path reason ∧
          reason = (if node.attributes.missing then "missing `" ++ node.kind ++ "`"
              else "syntax error") ++
            " at line " ++ toString (tree.lines.row node.start + 1) ++
            ", column " ++ toString (tree.lines.column node.start + 1) ∧
          reason ≠ "syntax error" := by
  have hsearch := Syntax.Node.firstFault?_eq tree.root h
  refine ⟨hsearch, ?_, ?_, ?_⟩
  · rw [hsearch, List.find?_eq_none]
    simp
  · rw [← h.self, checkTree_eq]
    by_cases hflag : tree.root.attributes.hasFault = true
    · simp [hflag]
    · simp [hflag]
  · intro failure hfailure
    rw [checkTree_eq] at hfailure
    split at hfailure
    · rename_i hflag
      obtain ⟨node, hnode, hfault⟩ := h.self.1 hflag
      cases hfound : tree.root.firstFault? with
      | none =>
        rw [hsearch, List.find?_eq_none] at hfound
        exact absurd hfault (hfound node hnode)
      | some first =>
        exact ⟨first, tree.describeFault, hsearch.symm.trans hfound,
          (Except.error.inj hfailure).symm, Tree.describeFault_eq hfound,
          Tree.describeFault_ne hfound⟩
    · cases hfailure

/-- The bracket that the parser puts in at the end of `y = (2`. -/
def closingBracket : Syntax.Node :=
  .mk { kind := ")", named := false, missing := true, hasFault := true, start := 12, stop := 12 } []

/-- The tree of `x = 1`, `y = (2` and a third line that the parser cannot place. -/
def unclosedTree : Tree where
  root :=
    .mk { kind := "module", hasFault := true, start := 0, stop := 15 } [
      .mk { kind := "expression_statement", start := 0, stop := 5 } [
        .mk { kind := "assignment", start := 0, stop := 5 } []],
      .mk { kind := "expression_statement", hasFault := true, start := 6, stop := 12 } [
        .mk { kind := "identifier", start := 6, stop := 7 } [],
        .mk { kind := "parenthesized_expression", hasFault := true, start := 10, stop := 12 } [
          .mk { kind := "integer", start := 11, stop := 12 } [],
          closingBracket]],
      .mk { kind := "ERROR", faulty := true, hasFault := true, start := 13, stop := 14 } []]
  lines := .ofText "x = 1\ny = (2\n$\n"

/-- The bracket is the first of two faults. -/
theorem refused_at_first_fault_unclosed :
    unclosedTree.root.IsFlagged ∧
      unclosedTree.root.preorder.find? isFault = some closingBracket ∧
      checkTree "a.py" unclosedTree =
        .error (.unparsable "a.py" "missing `)` at line 2, column 7") := by
  have hflagged : unclosedTree.root.IsFlagged := by decide
  have hfirst : unclosedTree.root.preorder.find? isFault = some closingBracket := rfl
  refine ⟨hflagged, hfirst, ?_⟩
  obtain ⟨_, _, hrefused, hwords⟩ := refused_at_first_fault "a.py" unclosedTree hflagged
  obtain ⟨reason, hreason⟩ :=
    hrefused.2 ⟨closingBracket, List.mem_of_find?_eq_some hfirst, rfl⟩
  obtain ⟨node, words, hfound, hfailure, rfl, _⟩ := hwords _ hreason
  obtain rfl := Option.some.inj (hfirst.symm.trans hfound)
  rw [hreason, hfailure]
  refine congrArg (fun reason => Except.error (Failure.unparsable "a.py" reason)) ?_
  decide +kernel

end SourceLedger
