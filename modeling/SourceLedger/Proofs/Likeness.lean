import Mathlib.Data.List.Forall2
import SourceLedger.Proofs.Canonical

/-!
# Trees that are alike

Two trees are alike if they have the same kinds and roles, node by node, once their extras are
gone. Whatever looks for children by role, or for named children, finds corresponding nodes in
alike trees, and so the canonical forms of alike trees are the same as long as corresponding nodes
have the same text where the form shows it.

Whether it shows a text depends on all children, extras included. A named node that has no children
shows its text, and one with nothing but extras shows none: a text of blank lines and a text with
only a comment are alike and have different canonical forms.

## Main definitions

* `Node.Alike P` says that two trees are alike and that `P` holds of corresponding nodes.

## Main statements

* `Node.canonical_eq_of_alike` says when alike trees have the same canonical form.
* `Node.canonical_ne_of_extras_only` says that extras alone keep a named node from showing its text.
-/

namespace SourceLedger

section Rows

variable {α β γ : Type} {R : α → β → Prop} {xs : List α} {ys : List β}

theorem map_eq_of_forall₂ (h : List.Forall₂ R xs ys) {f : α → γ} {g : β → γ}
    (hfg : ∀ x ∈ xs, ∀ y, R x y → f x = g y) : xs.map f = ys.map g := by
  induction h with
  | nil => rfl
  | @cons x y xs ys hxy _ ih =>
    rw [List.map_cons, List.map_cons, hfg x (by simp) y hxy,
      ih fun x hx => hfg x (List.mem_cons_of_mem _ hx)]

theorem forall₂_of_map_eq (h : List.Forall₂ R xs ys) {f : α → γ} {g : β → γ}
    (hfg : xs.map f = ys.map g) :
    List.Forall₂ (fun x y => R x y ∧ f x = g y) xs ys := by
  induction h with
  | nil => exact .nil
  | cons hxy _ ih =>
    obtain ⟨hhead, htail⟩ := List.cons.inj hfg
    exact .cons ⟨hxy, hhead⟩ (ih htail)

theorem forall₂_filter (h : List.Forall₂ R xs ys) {p : α → Bool} {q : β → Bool}
    (hpq : ∀ x y, R x y → p x = q y) : List.Forall₂ R (xs.filter p) (ys.filter q) := by
  refine List.rel_filter (fun x y hxy => ?_) h
  show p x = true ↔ q y = true
  rw [hpq x y hxy]

theorem rel_find? (h : List.Forall₂ R xs ys) {p : α → Bool} {q : β → Bool}
    (hpq : ∀ x y, R x y → p x = q y) : Option.Rel R (xs.find? p) (ys.find? q) := by
  induction h with
  | nil => exact .none
  | @cons x y xs ys hxy _ ih =>
    rw [List.find?_cons, List.find?_cons, hpq x y hxy]
    cases q y with
    | true => exact .some hxy
    | false => exact ih

theorem rel_head? (h : List.Forall₂ R xs ys) : Option.Rel R xs.head? ys.head? := by
  cases h with
  | nil => exact .none
  | cons hxy _ => exact .some hxy

theorem forall₂_markFirst (h : List.Forall₂ R xs ys) {p : α → Bool} {q : β → Bool}
    (hpq : ∀ x y, R x y → p x = q y) :
    List.Forall₂ (fun x y => x.1 = y.1 ∧ R x.2 y.2) (Syntax.Node.markFirst p xs)
      (Syntax.Node.markFirst q ys) := by
  induction h with
  | nil => exact .nil
  | @cons x y xs ys hxy hrest ih =>
    unfold Syntax.Node.markFirst
    rw [hpq x y hxy]
    cases q y with
    | true =>
      refine .cons ⟨rfl, hxy⟩ ?_
      rw [List.forall₂_map_left_iff, List.forall₂_map_right_iff]
      exact hrest.imp fun _ _ hxy => ⟨rfl, hxy⟩
    | false => exact .cons ⟨rfl, hxy⟩ ih

section Options

variable {x : Option α} {y : Option β} (h : Option.Rel R x y)
include h

theorem exists_of_rel :
    (x = none ∧ y = none) ∨ ∃ a b, x = some a ∧ y = some b ∧ R a b := by
  cases h with
  | none => exact .inl ⟨rfl, rfl⟩
  | some hab => exact .inr ⟨_, _, rfl, rfl, hab⟩

theorem forall₂_toList : List.Forall₂ R x.toList y.toList := by
  cases h with
  | none => exact .nil
  | some hab => exact .cons hab .nil

theorem map_eq_of_rel {f : α → γ} {g : β → γ} (hfg : ∀ a b, R a b → f a = g b) :
    x.map f = y.map g := by
  cases h with
  | none => rfl
  | some hab => exact congrArg some (hfg _ _ hab)

theorem bind_eq_of_rel {f : α → Option γ} {g : β → Option γ}
    (hfg : ∀ a ∈ x, ∀ b, R a b → f a = g b) : x.bind f = y.bind g := by
  cases h with
  | none => rfl
  | some hab => exact hfg _ rfl _ hab

theorem rel_getD {a : α} {b : β} (hab : R a b) : R (x.getD a) (y.getD b) := by
  cases h with
  | none => exact hab
  | some hfound => exact hfound

end Options

end Rows

end SourceLedger

namespace SourceLedger.Syntax.Node

/-- The children without extras, in order. -/
def kept (node : Node) : List Node :=
  node.children.filter (!·.extra)

/-- Trees that are the same without extras and positions, and whose corresponding nodes have some
property. -/
inductive Alike (P : Node → Node → Prop) : Node → Node → Prop
  | mk {x y : Node} (hkind : x.kind = y.kind) (hrole : x.role = y.role)
      (hnamed : x.named = y.named) (hnode : P x y)
      (hkept : List.Forall₂ (Alike P) x.kept y.kept) : Alike P x y

/-- Corresponding nodes that are no extras. -/
structure Counterparts (P : Node → Node → Prop) (x y : Node) : Prop where
  alike : Alike P x y
  left : x.extra = false
  right : y.extra = false

/-- The extras among the children of a node have no role. -/
def PlainExtras (node : Node) : Prop :=
  ∀ child ∈ node.children, child.extra = true → child.role = none

instance (node : Node) : Decidable node.PlainExtras :=
  inferInstanceAs (Decidable (∀ child ∈ node.children, _))

theorem mem_children_of_mem_kept {node child : Node} (h : child ∈ node.kept) :
    child ∈ node.children :=
  (List.mem_filter.1 h).1

theorem extra_of_mem_kept {node child : Node} (h : child ∈ node.kept) : child.extra = false := by
  simpa using (List.mem_filter.1 h).2

theorem namedChildren_eq (node : Node) : node.namedChildren = node.kept.filter (·.named) := by
  unfold namedChildren kept
  rw [List.filter_filter]
  rfl

section PlainExtras

variable {node : Node} (h : node.PlainExtras)
include h

theorem PlainExtras.not_extra {role : String} {child : Node} (hchild : child ∈ node.children)
    (hrole : (child.role == some role) = true) : child.extra = false := by
  by_contra hextra
  rw [h child hchild (by simpa using hextra)] at hrole
  exact absurd hrole (by simp)

theorem PlainExtras.childrenIn_eq (role : String) :
    node.childrenIn role = node.kept.filter (·.role == some role) := by
  unfold childrenIn kept
  rw [List.filter_filter]
  refine List.filter_congr fun child hchild => ?_
  by_cases hrole : (child.role == some role) = true
  · simp [hrole, h.not_extra hchild hrole]
  · simp [hrole]

theorem PlainExtras.child?_eq (role : String) :
    node.child? role = node.kept.find? (·.role == some role) := by
  rw [← List.head?_filter, ← h.childrenIn_eq role, child?, ← List.head?_filter]
  rfl

theorem PlainExtras.namedChildrenMarking_eq (role : String) :
    node.namedChildrenMarking role =
      (markFirst (·.role == some role) node.kept).filter (·.2.named) := by
  unfold namedChildrenMarking kept
  have hnot : ∀ child ∈ node.children, (child.role == some role) = true → child.extra = false :=
    fun child hchild hrole => h.not_extra hchild hrole
  generalize node.children = row at hnot
  induction row with
  | nil => rfl
  | cons child rest ih =>
    obtain ⟨hchild, hrest⟩ := List.forall_mem_cons.1 hnot
    by_cases hrole : (child.role == some role) = true
    · -- The rest is marked `false` whether or not it is an extra.
      have hunmarked : (rest.map (false, ·)).filter (·.2.isProper) =
          ((rest.filter (!·.extra)).map (false, ·)).filter (·.2.named) := by
        rw [List.filter_map, List.filter_map, List.filter_filter]
        rfl
      have hproper : child.isProper = child.named := by simp [isProper, hchild hrole]
      simp [markFirst, hrole, hchild hrole, List.filter_cons, hproper, hunmarked]
    · by_cases hextra : child.extra = true
      · have hproper : child.isProper = false := by simp [isProper, hextra]
        simp [markFirst, hrole, hextra, hproper, ih hrest]
      · have hproper : child.isProper = child.named := by simp [isProper, hextra]
        simp [markFirst, hrole, hextra, List.filter_cons, hproper, ih hrest]

end PlainExtras

namespace Alike

variable {P Q : Node → Node → Prop} {x y : Node}

theorem kind (h : Alike P x y) : x.kind = y.kind := by
  cases h with
  | mk hkind => exact hkind

theorem role (h : Alike P x y) : x.role = y.role := by
  cases h with
  | mk _ hrole => exact hrole

theorem named (h : Alike P x y) : x.named = y.named := by
  cases h with
  | mk _ _ hnamed => exact hnamed

theorem node (h : Alike P x y) : P x y := by
  cases h with
  | mk _ _ _ hnode => exact hnode

theorem kept (h : Alike P x y) : List.Forall₂ (Counterparts P) x.kept y.kept := by
  cases h with
  | mk _ _ _ _ hkept =>
    have hleft := (List.forall₂_and_left _ _).2 ⟨fun _ => extra_of_mem_kept, hkept⟩
    have hboth := (List.forall₂_and_left _ _).2 ⟨fun _ => extra_of_mem_kept, hleft.flip⟩
    exact hboth.flip.imp fun _ _ ⟨hright, hleft, halike⟩ => ⟨halike, hleft, hright⟩

theorem namedChildren (h : Alike P x y) :
    List.Forall₂ (Counterparts P) x.namedChildren y.namedChildren := by
  rw [namedChildren_eq, namedChildren_eq]
  exact forall₂_filter h.kept fun _ _ hchild => hchild.alike.named

theorem firstNamed? (h : Alike P x y) :
    Option.Rel (Counterparts P) x.firstNamed? y.firstNamed? :=
  rel_head? h.namedChildren

section PlainExtras

variable (h : Alike P x y) (hx : x.PlainExtras) (hy : y.PlainExtras) (role : String)
include h hx hy

theorem childrenIn :
    List.Forall₂ (Counterparts P) (x.childrenIn role) (y.childrenIn role) := by
  rw [hx.childrenIn_eq, hy.childrenIn_eq]
  exact forall₂_filter h.kept fun _ _ hchild => by rw [hchild.alike.role]

theorem child? : Option.Rel (Counterparts P) (x.child? role) (y.child? role) := by
  rw [hx.child?_eq, hy.child?_eq]
  exact rel_find? h.kept fun _ _ hchild => by rw [hchild.alike.role]

theorem firstIn : List.Forall₂ (Counterparts P) (x.firstIn role) (y.firstIn role) :=
  forall₂_toList (h.child? hx hy role)

theorem namedChildrenMarking :
    List.Forall₂ (fun a b => a.1 = b.1 ∧ Counterparts P a.2 b.2) (x.namedChildrenMarking role)
      (y.namedChildrenMarking role) := by
  rw [hx.namedChildrenMarking_eq, hy.namedChildrenMarking_eq]
  refine forall₂_filter (forall₂_markFirst h.kept ?_) fun _ _ hchild => hchild.2.alike.named
  exact fun _ _ hchild => by rw [hchild.alike.role]

end PlainExtras

theorem imp (hPQ : ∀ x y, x.kind = y.kind → P x y → Q x y) {x y : Node} (h : Alike P x y) :
    Alike Q x y := by
  refine .mk h.kind h.role h.named (hPQ x y h.kind h.node) ?_
  have hkept := (List.forall₂_and_left _ _).2 ⟨fun _ => mem_children_of_mem_kept, h.kept⟩
  exact hkept.imp fun _ _ ⟨_, hchild⟩ => hchild.alike.imp hPQ
termination_by x.size
decreasing_by exact size_lt_of_mem_children ‹_›

end Alike

mutual

/-- Whether two trees are alike, found by going through the children of the first. -/
def isAlike (p : Node → Node → Bool) : Node → Node → Bool
  | mk attributes children, y =>
    let x := mk attributes children
    x.kind == y.kind && x.role == y.role && x.named == y.named && p x y &&
      isAlikeAll p children y.kept

/-- Whether a row of trees without its extras is alike to another row. -/
def isAlikeAll (p : Node → Node → Bool) : List Node → List Node → Bool
  | [], ys => ys.isEmpty
  | x :: xs, [] => x.extra && isAlikeAll p xs []
  | x :: xs, y :: ys =>
    if x.extra then isAlikeAll p xs (y :: ys) else isAlike p x y && isAlikeAll p xs ys

end

mutual

theorem isAlike_iff (P : Node → Node → Prop) [∀ x y, Decidable (P x y)] (x y : Node) :
    isAlike (fun x y => decide (P x y)) x y = true ↔ Alike P x y := by
  cases x with
  | mk attributes children =>
    have hrow := isAlikeAll_iff P children y.kept
    rw [isAlike]
    simp only [Bool.and_eq_true, beq_iff_eq, decide_eq_true_eq, hrow]
    constructor
    · rintro ⟨⟨⟨⟨hkind, hrole⟩, hnamed⟩, hnode⟩, hkept⟩
      exact .mk hkind hrole hnamed hnode hkept
    · rintro ⟨hkind, hrole, hnamed, hnode, hkept⟩
      exact ⟨⟨⟨⟨hkind, hrole⟩, hnamed⟩, hnode⟩, hkept⟩

theorem isAlikeAll_iff (P : Node → Node → Prop) [∀ x y, Decidable (P x y)] (xs ys : List Node) :
    isAlikeAll (fun x y => decide (P x y)) xs ys = true ↔
      List.Forall₂ (Alike P) (xs.filter (!·.extra)) ys := by
  cases xs with
  | nil => simp [isAlikeAll]
  | cons x xs =>
    cases ys with
    | nil =>
      by_cases hextra : x.extra = true
      · simp [isAlikeAll, hextra, isAlikeAll_iff P xs []]
      · simp [isAlikeAll, hextra]
    | cons y ys =>
      by_cases hextra : x.extra = true
      · simp [isAlikeAll, hextra, isAlikeAll_iff P xs (y :: ys)]
      · simp [isAlikeAll, hextra, isAlike_iff P x y, isAlikeAll_iff P xs ys]

end

instance (P : Node → Node → Prop) [∀ x y, Decidable (P x y)] (x y : Node) :
    Decidable (Alike P x y) :=
  decidable_of_iff _ (isAlike_iff P x y)

theorem skeletonOfAll_eq (source : String) (row : List Node) :
    skeletonOfAll source row =
      (row.filter (!·.extra)).map fun node => (node.role, node.skeleton source) := by
  induction row with
  | nil => rfl
  | cons node rest ih =>
    rw [skeletonOfAll, ih]
    by_cases hextra : node.extra = true
    · simp [hextra]
    · simp [hextra]

/-- The children that a skeleton shows are those without extras, except in the body of a string. -/
theorem skeleton_eq (source : String) (node : Node) :
    node.skeleton source =
      .mk node.kind
        (if node.isAtomic && node.named then some ((node.text? source).getD "") else none)
        (if node.kind = "string_content" then []
          else node.kept.map fun child => (child.role, child.skeleton source)) := by
  cases node with
  | mk attributes children =>
    rw [skeleton, skeletonOfAll_eq]
    congr 1
    by_cases hbody : (mk attributes children).kind = "string_content"
    · simp [isAtomic, hbody]
    · cases children with
      | nil => simp [isAtomic, kept, Node.children]
      | cons first rest => simp [isAtomic, hbody, kept, Node.children]

/-- Corresponding nodes have the same text where a canonical form may show it: at named nodes that
have no children in either tree, and at the bodies of strings. -/
structure SameTexts (source source' : String) (x y : Node) : Prop where
  childless : x.named = true → x.children = [] → y.children = [] →
    (x.text? source).getD "" = (y.text? source').getD ""
  body : x.kind = "string_content" → (x.text? source).getD "" = (y.text? source').getD ""

instance (source source' : String) (x y : Node) : Decidable (SameTexts source source' x y) :=
  decidable_of_iff (_ ∧ _) ⟨fun h => ⟨h.1, h.2⟩, fun h => ⟨h.childless, h.body⟩⟩

theorem SameTexts.text_eq {source source' : String} {x y : Node}
    (h : SameTexts source source' x y) (hkind : x.kind = y.kind) (hnamed : x.named = true)
    (hx : x.isAtomic = true) (hy : y.isAtomic = true) :
    (x.text? source).getD "" = (y.text? source').getD "" := by
  by_cases hbody : x.kind = "string_content"
  · exact h.body hbody
  · have hother : y.kind ≠ "string_content" := hkind ▸ hbody
    exact h.childless hnamed (by simpa [isAtomic, hbody] using hx)
      (by simpa [isAtomic, hother] using hy)

/-- Corresponding nodes have the same text where it may be shown, and a named node shows its text if
its counterpart does. -/
structure SameForm (source source' : String) (x y : Node) : Prop
    extends SameTexts source source' x y where
  atomic : x.named = true → x.isAtomic = y.isAtomic

instance (source source' : String) (x y : Node) : Decidable (SameForm source source' x y) :=
  decidable_of_iff (_ ∧ _) ⟨fun h => ⟨h.1, h.2⟩, fun h => ⟨h.toSameTexts, h.atomic⟩⟩

theorem Alike.skeleton_eq {source source' : String} {x y : Node}
    (h : Alike (SameForm source source') x y) : x.skeleton source = y.skeleton source' := by
  rw [Node.skeleton_eq, Node.skeleton_eq, ← h.kind, ← h.named]
  congr 1
  · by_cases hnamed : x.named = true
    · have hatomic := h.node.atomic hnamed
      rw [← hatomic]
      by_cases hshown : x.isAtomic = true
      · rw [h.node.text_eq h.kind hnamed hshown (hatomic ▸ hshown)]
      · simp [hshown]
    · simp [hnamed]
  · by_cases hbody : x.kind = "string_content"
    · rw [if_pos hbody, if_pos hbody]
    · rw [if_neg hbody, if_neg hbody]
      refine map_eq_of_forall₂ h.kept fun child hchild other hlike => ?_
      rw [hlike.alike.role, hlike.alike.skeleton_eq]
termination_by x.size
decreasing_by exact size_lt_of_mem_children (mem_children_of_mem_kept hchild)

theorem Alike.canonicalChars_eq {source source' : String} {x y : Node}
    (h : Alike (SameForm source source') x y) :
    x.canonicalChars source = y.canonicalChars source' := by
  rw [Node.canonicalChars_eq, Node.canonicalChars_eq, h.skeleton_eq]

/-- Alike trees with the same texts have the same canonical form, if a named node shows its text in
both of them or in neither. -/
theorem canonical_eq_of_alike {source source' : String} {x y : Node}
    (h : Alike (SameForm source source') x y) : x.canonical source = y.canonical source' :=
  congrArg String.ofList h.canonicalChars_eq

theorem canonical_eq_of_alike_membership :
    Alike (SameForm "(a not in b)" "(a not  in # c\n b)") membership spreadMembership ∧
      membership.canonical "(a not in b)" = spreadMembership.canonical "(a not  in # c\n b)" := by
  have halike : Alike (SameForm "(a not in b)" "(a not  in # c\n b)") membership
      spreadMembership := by decide +kernel
  exact ⟨halike, canonical_eq_of_alike halike⟩

/-- A named node without children never has the canonical form of one that has only extras. -/
theorem canonical_ne_of_extras_only {x y : Node} (hkind : x.kind = y.kind)
    (hbody : x.kind ≠ "string_content") (hnamed : x.named = true) (hx : x.children = [])
    (hy : y.children ≠ []) (hextras : y.kept = []) (source source' : String) :
    x.canonical source ≠ y.canonical source' := by
  have hshown : x.isAtomic = true := by simp [isAtomic, hx]
  have hhidden : y.isAtomic = false := by simp [isAtomic, hy, ← hkind, hbody]
  have hnone : x.kept = [] := by simp [kept, hx]
  intro heq
  have hchars := String.ofList_injective heq
  rw [canonicalChars_eq, canonicalChars_eq, skeleton_eq, skeleton_eq source' y] at hchars
  simp [← hkind, hshown, hhidden, hnamed, hnone, hextras, Skeleton.written, Skeleton.textChars,
    Skeleton.writtenAll] at hchars

/-- The tree of a text with nothing in it. -/
def blank : Node :=
  .mk { kind := "module", start := 1, stop := 1 } []

/-- The tree of a text with nothing but a comment. -/
def remark : Node :=
  .mk { kind := "module", start := 0, stop := 4 } [
    .mk { kind := "comment", extra := true, start := 0, stop := 3 } []]

theorem canonical_remark_ne_blank :
    Alike (SameTexts "\n" "# c\n") blank remark ∧
      blank.canonical "\n" ≠ remark.canonical "# c\n" := by
  have hbody : blank.kind ≠ "string_content" := by decide
  have hremark : remark.children ≠ [] := by decide
  refine ⟨by decide +kernel, ?_⟩
  exact canonical_ne_of_extras_only (x := blank) (y := remark) rfl hbody rfl rfl hremark rfl _ _

end SourceLedger.Syntax.Node
