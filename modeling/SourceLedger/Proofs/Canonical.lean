import Mathlib.Tactic.SplitIfs
import SourceLedger.Proofs.Nesting
import SourceLedger.Text.WordChar

/-!
# What a canonical form tells

A canonical form can be read back. Kinds and roles stand where nothing else can, and a quoted text
ends at its first quote that is not escaped, so that no tree has the form of another. What is read
back is the skeleton of the tree: it has no extras and no positions, nothing below an atomic node,
and text only at atomic nodes that are named.

## Main definitions

* `Node.skeleton` is what the canonical form of a tree tells about it.
* `Node.Grammatical` says which kinds and roles a grammar gives to nodes.

## Main statements

* `Text.quote_append_inj` reads a quoted text back.
* `Skeleton.written_append_inj` reads a skeleton back.
* `Node.canonical_eq_iff` says that canonical forms are equal only where skeletons are.
-/

namespace SourceLedger.Text

theorem digitChar_injective {m n : Nat} (hm : m < 16) (hn : n < 16)
    (h : m.digitChar = n.digitChar) : m = n := by
  have hall : ∀ m < 16, ∀ n < 16, m.digitChar = n.digitChar → m = n := by decide
  exact hall m hm n hn h

theorem hexDigits_injective {m n : Nat} (h : hexDigits m = hexDigits n) : m = n := by
  induction m using Nat.strongRecOn generalizing n with
  | ind m ih =>
    unfold hexDigits at h ih
    by_cases hm : m < 16
    · rw [Nat.toDigits_of_lt_base hm] at h
      by_cases hn : n < 16
      · rw [Nat.toDigits_of_lt_base hn] at h
        exact digitChar_injective hm hn (List.cons.inj h).1
      · rw [Nat.toDigits_of_base_le (by omega) (by omega)] at h
        have hlength := congrArg List.length h
        have hpos : 0 < (Nat.toDigits 16 (n / 16)).length := Nat.length_toDigits_pos
        simp only [List.length_append, List.length_singleton] at hlength
        omega
    · rw [Nat.toDigits_of_base_le (by omega) (by omega)] at h
      by_cases hn : n < 16
      · rw [Nat.toDigits_of_lt_base hn] at h
        have hlength := congrArg List.length h
        have hpos : 0 < (Nat.toDigits 16 (m / 16)).length := Nat.length_toDigits_pos
        simp only [List.length_append, List.length_singleton] at hlength
        omega
      · rw [Nat.toDigits_of_base_le (n := n) (by omega) (by omega)] at h
        obtain ⟨hfront, hlast⟩ := List.append_inj' h rfl
        have hquotient := ih (m / 16) (by omega) hfront
        have hremainder := digitChar_injective (Nat.mod_lt m (by omega)) (Nat.mod_lt n (by omega))
          (List.cons.inj hlast).1
        omega

theorem brace_not_mem_hexDigits (n : Nat) : '\x7d' ∉ hexDigits n := by
  have hdigit : ∀ m < 16, m.digitChar ≠ '\x7d' := by decide
  induction n using Nat.strongRecOn with
  | ind n ih =>
    unfold hexDigits at ih ⊢
    by_cases hn : n < 16
    · rw [Nat.toDigits_of_lt_base hn, List.mem_singleton]
      exact (hdigit n hn).symm
    · rw [Nat.toDigits_of_base_le (by omega) (by omega), List.mem_append, List.mem_singleton]
      rintro (hfront | hlast)
      · exact ih (n / 16) (by omega) hfront
      · exact hdigit (n % 16) (Nat.mod_lt n (by omega)) hlast.symm

/-- The characters that are escaped by a letter, behind their letters. -/
def letters : List (Char × Char) :=
  [('"', '"'), ('\\', '\\'), ('t', '\t'), ('r', '\r'), ('n', '\n'), ('0', '\x00')]

/-- The three ways to write a character inside quotes. -/
theorem escapeChar_cases (c : Char) :
    (∃ letter, (letter, c) ∈ letters ∧ escapeChar c = ['\\', letter]) ∨
      (c ≠ '"' ∧ c ≠ '\\' ∧ escapeChar c = [c]) ∨
      escapeChar c = '\\' :: 'u' :: '\x7b' :: (hexDigits c.toNat ++ ['\x7d']) := by
  unfold escapeChar
  split_ifs with hquote htab hreturn hfeed hnul hvisible
  · left
    rcases hquote with rfl | rfl
    · exact ⟨'"', by decide, rfl⟩
    · exact ⟨'\\', by decide, rfl⟩
  · exact .inl ⟨'t', by simp [letters, htab], rfl⟩
  · exact .inl ⟨'r', by simp [letters, hreturn], rfl⟩
  · exact .inl ⟨'n', by simp [letters, hfeed], rfl⟩
  · exact .inl ⟨'0', by simp [letters, hnul], rfl⟩
  · rw [not_or] at hquote
    exact .inr (.inl ⟨hquote.1, hquote.2, rfl⟩)
  · exact .inr (.inr rfl)

/-- A written character ends where it has to, and no two characters are written alike. -/
theorem escapeChar_append_inj {c d : Char} {rest rest' : List Char}
    (h : escapeChar c ++ rest = escapeChar d ++ rest') : c = d ∧ rest = rest' := by
  have hletters : ∀ pair ∈ letters, ∀ other ∈ letters, pair.1 = other.1 → pair.2 = other.2 := by
    decide
  have hnotu : ∀ pair ∈ letters, pair.1 ≠ 'u' := by decide
  rcases escapeChar_cases c with ⟨letter, hletter, hc⟩ | ⟨_, hslash, hc⟩ | hc <;>
    rcases escapeChar_cases d with ⟨other, hother, hd⟩ | ⟨_, hslash', hd⟩ | hd <;>
    rw [hc, hd] at h <;> simp only [List.cons_append, List.nil_append, List.cons.injEq] at h
  · exact ⟨hletters _ hletter _ hother h.2.1, h.2.2⟩
  · exact absurd h.1.symm hslash'
  · exact absurd h.2.1 (hnotu _ hletter)
  · exact absurd h.1 hslash
  · exact h
  · exact absurd h.1 hslash
  · exact absurd h.2.1.symm (hnotu _ hother)
  · exact absurd h.1.symm hslash'
  · -- The digits of both end at their first brace.
    have hends (n : Nat) (after : List Char) :
        (hexDigits n ++ ['\x7d'] ++ after).takeWhile (· ≠ '\x7d') = hexDigits n := by
      have hdigits : ∀ digit ∈ hexDigits n, decide (digit ≠ '\x7d') = true := by
        intro digit hdigit
        refine decide_eq_true fun hbrace => brace_not_mem_hexDigits n ?_
        rwa [← hbrace]
      rw [List.append_assoc, List.takeWhile_append_of_pos hdigits, List.singleton_append,
        List.takeWhile_cons_of_neg (by simp), List.append_nil]
    have hdigits := congrArg (List.takeWhile (· ≠ '\x7d')) h.2.2.2
    rw [hends, hends] at hdigits
    obtain rfl := Char.toNat_inj.1 (hexDigits_injective hdigits)
    exact ⟨rfl, List.append_cancel_left h.2.2.2⟩

theorem escapeChar_append_ne {c : Char} {rest rest' : List Char} :
    escapeChar c ++ rest ≠ '"' :: rest' := by
  rcases escapeChar_cases c with ⟨letter, _, hc⟩ | ⟨hquote, _, hc⟩ | hc <;> rw [hc] <;>
    simp_all

/-- An escaped text ends at the first quote. -/
theorem escaped_append_inj {xs ys rest rest' : List Char}
    (h : xs.flatMap escapeChar ++ '"' :: rest = ys.flatMap escapeChar ++ '"' :: rest') :
    xs = ys ∧ rest = rest' := by
  induction xs generalizing ys with
  | nil =>
    cases ys with
    | nil => exact ⟨rfl, (List.cons.inj h).2⟩
    | cons y ys =>
      rw [List.flatMap_cons, List.append_assoc] at h
      exact absurd h.symm escapeChar_append_ne
  | cons x xs ih =>
    cases ys with
    | nil =>
      rw [List.flatMap_cons, List.append_assoc] at h
      exact absurd h escapeChar_append_ne
    | cons y ys =>
      rw [List.flatMap_cons, List.flatMap_cons, List.append_assoc, List.append_assoc] at h
      obtain ⟨rfl, hrest⟩ := escapeChar_append_inj h
      obtain ⟨rfl, rfl⟩ := ih hrest
      exact ⟨rfl, rfl⟩

/-- A quoted text can be read back from whatever it stands in front of. -/
theorem quote_append_inj {text text' : String} {rest rest' : List Char}
    (h : (quote text).toList ++ rest = (quote text').toList ++ rest') :
    text = text' ∧ rest = rest' := by
  simp only [quote, String.toList_ofList, List.cons_append, List.append_assoc,
    List.nil_append, List.cons.injEq, true_and] at h
  obtain ⟨hchars, hrest⟩ := escaped_append_inj h
  exact ⟨String.toList_injective hchars, hrest⟩

end SourceLedger.Text

namespace SourceLedger.Syntax

/-- What the canonical form of a tree tells about it: the kind of each node, the text of an atomic
node that is named, and the children with their roles, where there are any. -/
inductive Skeleton where
  | mk (kind : String) (text : Option String) (children : List (Option String × Skeleton))
  deriving Repr

mutual

/-- The skeleton of a tree. Nothing below an atomic node belongs to it. -/
def Node.skeleton (source : String) : Node → Skeleton
  | .mk attributes children =>
    let node := Node.mk attributes children
    .mk node.kind
      (if node.isAtomic && node.named then some ((node.text? source).getD "") else none)
      (if node.isAtomic then [] else skeletonOfAll source children)

/-- The skeletons of a row of children with their roles. Extras have none. -/
def Node.skeletonOfAll (source : String) : List Node → List (Option String × Skeleton)
  | [] => []
  | node :: rest =>
    if node.extra then skeletonOfAll source rest
    else (node.role, node.skeleton source) :: skeletonOfAll source rest

end

/-- Characters that neither part the words of a canonical form nor enclose anything. -/
def isPlain (c : Char) : Bool :=
  c != ' ' && c != '"' && c != '(' && c != ')'

/-- A text that is not empty and has only plain characters. -/
def IsPlainWord (word : String) : Prop :=
  word ≠ "" ∧ ∀ c ∈ word.toList, isPlain c

/-- A text that is not empty and has only letters, digits and underscores. -/
def IsWord (word : String) : Prop :=
  word ≠ "" ∧ ∀ c ∈ word.toList, Text.isWordChar c

-- The characters are gone through one by one; there are too many to try them all.
instance (word : String) : Decidable (IsPlainWord word) :=
  haveI := List.decidableBAll (isPlain · = true) word.toList
  inferInstanceAs (Decidable (_ ∧ _))

instance (word : String) : Decidable (IsWord word) :=
  haveI := List.decidableBAll (Text.isWordChar · = true) word.toList
  inferInstanceAs (Decidable (_ ∧ _))

/-- The kinds of fixed tokens: a plain word, a parenthesis, or two plain words with a blank between
them, as in `not in`. -/
inductive IsTokenKind : String → Prop
  | word {kind : String} (h : IsPlainWord kind) : IsTokenKind kind
  | opening : IsTokenKind "("
  | closing : IsTokenKind ")"
  | pair {first second : String} (hfirst : IsPlainWord first) (hsecond : IsPlainWord second) :
      IsTokenKind (first ++ " " ++ second)

/-- A grammar gives words as roles and as kinds that it names, and tokens as kinds that it does
not. -/
structure Attributes.Grammatical (attributes : Attributes) : Prop where
  role : ∀ role ∈ attributes.role, IsWord role
  named : attributes.named = true → IsWord attributes.kind
  token : attributes.named = false → IsTokenKind attributes.kind

/-- All nodes of a tree have kinds and roles as a grammar gives them. -/
def Node.Grammatical (node : Node) : Prop :=
  ∀ part ∈ node.preorder, part.attributes.Grammatical

theorem IsWord.isPlainWord {word : String} (h : IsWord word) : IsPlainWord word := by
  refine ⟨h.1, fun c hc => ?_⟩
  have hword := h.2 c hc
  have hapart : ∀ d, Text.isWordChar d = false → (c != d) = true := by
    intro d hd
    rw [bne_iff_ne]
    rintro rfl
    rw [hword] at hd
    exact absurd hd (by decide)
  simp [isPlain, hapart ' ' (by decide), hapart '"' (by decide), hapart '(' (by decide),
    hapart ')' (by decide)]

/-- The second word of a kind, with the blank in front of it, from what stands behind the first
one. A word that leads to a parenthesis is the role of a child. -/
def secondWord : List Char → List Char
  | ' ' :: rest =>
    let word := rest.takeWhile isPlain
    if word = [] ∨ (rest.dropWhile isPlain).head? = some '(' then [] else ' ' :: word
  | _ => []

/-- The kind at the beginning of what stands in a pair of parentheses. -/
def readKind : List Char → List Char
  | '(' :: _ => ['(']
  | ')' :: _ => [')']
  | chars => chars.takeWhile isPlain ++ secondWord (chars.dropWhile isPlain)

/-- What can stand behind a kind: the end of the node, a text, or a child. -/
inductive FollowsKind : List Char → Prop
  | close (rest : List Char) : FollowsKind (')' :: rest)
  | text (rest : List Char) : FollowsKind (' ' :: '"' :: rest)
  | child {role : List Char} (hrole : ∀ c ∈ role, isPlain c) (rest : List Char) :
      FollowsKind (' ' :: (role ++ '(' :: rest))

section ReadKind

variable {word second rest : List Char}

theorem takeWhile_plain (hword : ∀ c ∈ word, isPlain c) {c : Char} (hc : isPlain c = false) :
    (word ++ c :: rest).takeWhile isPlain = word := by
  rw [List.takeWhile_append_of_pos hword, List.takeWhile_cons_of_neg (by simp [hc]),
    List.append_nil]

theorem dropWhile_plain (hword : ∀ c ∈ word, isPlain c) {c : Char} (hc : isPlain c = false) :
    (word ++ c :: rest).dropWhile isPlain = c :: rest := by
  rw [List.dropWhile_append_of_pos hword, List.dropWhile_cons_of_neg (by simp [hc])]

theorem readKind_of_plain (hne : word ≠ []) (hword : ∀ c ∈ word, isPlain c) {c : Char}
    (hc : isPlain c = false) : readKind (word ++ c :: rest) = word ++ secondWord (c :: rest) := by
  have htake : (word ++ c :: rest).takeWhile isPlain = word := takeWhile_plain hword hc
  have hdrop : (word ++ c :: rest).dropWhile isPlain = c :: rest := dropWhile_plain hword hc
  cases word with
  | nil => exact absurd rfl hne
  | cons first word =>
    have hfirst : isPlain first = true := hword first (by simp)
    rw [List.cons_append] at htake hdrop ⊢
    rw [readKind, htake, hdrop]
    · intro after hafter
      rw [(List.cons.inj hafter).1] at hfirst
      exact absurd hfirst (by decide)
    · intro after hafter
      rw [(List.cons.inj hafter).1] at hfirst
      exact absurd hfirst (by decide)

end ReadKind

theorem FollowsKind.exists_cons {rest : List Char} (h : FollowsKind rest) :
    ∃ c after, rest = c :: after ∧ isPlain c = false ∧ c ≠ '(' := by
  cases h with
  | close rest => exact ⟨')', rest, rfl, by decide, by decide⟩
  | text rest => exact ⟨' ', _, rfl, by decide, by decide⟩
  | child _ rest => exact ⟨' ', _, rfl, by decide, by decide⟩

/-- What follows a kind does not look like a second word. -/
theorem FollowsKind.secondWord_eq {rest : List Char} (h : FollowsKind rest) :
    secondWord rest = [] := by
  cases h with
  | close rest => rfl
  | text rest => rfl
  | child hrole rest =>
    refine if_pos (.inr ?_)
    rw [dropWhile_plain hrole (by decide)]
    rfl

/-- A kind can be read back from what follows it. -/
theorem readKind_append {kind : String} (hkind : IsTokenKind kind) {rest : List Char}
    (hrest : FollowsKind rest) : readKind (kind.toList ++ rest) = kind.toList := by
  obtain ⟨c, after, rfl, hc, hopening⟩ := hrest.exists_cons
  cases hkind with
  | opening => rfl
  | closing => rfl
  | word h =>
    rw [readKind_of_plain (by simpa using h.1) h.2 hc, hrest.secondWord_eq, List.append_nil]
  | @pair first second hfirst hsecond =>
    have hsplit : (first ++ " " ++ second).toList ++ c :: after =
        first.toList ++ ' ' :: (second.toList ++ c :: after) := by simp
    have hlonger : ¬(second.toList = [] ∨ (c :: after).head? = some '(') := by
      rintro (hempty | hhead)
      · exact hsecond.1 (by simpa using hempty)
      · exact hopening (Option.some.inj hhead)
    rw [hsplit, readKind_of_plain (by simpa using hfirst.1) hfirst.2 (by decide), secondWord,
      takeWhile_plain hsecond.2 hc, dropWhile_plain hsecond.2 hc, if_neg hlonger]
    simp

namespace Skeleton

/-- A role in front of its node. -/
def roleChars (role : Option String) : List Char :=
  role.elim [] fun role => role.toList ++ [':']

/-- A text behind the kind of its node. -/
def textChars (text : Option String) : List Char :=
  text.elim [] fun text => ' ' :: (Text.quote text).toList

mutual

/-- A skeleton as the canonical form writes it. -/
def written : Skeleton → List Char
  | mk kind text children =>
    '(' :: (kind.toList ++ textChars text ++ writtenAll children ++ [')'])

/-- A row of children, each behind a blank and its role. -/
def writtenAll : List (Option String × Skeleton) → List Char
  | [] => []
  | (role, child) :: rest =>
    ' ' :: (roleChars role ++ child.written ++ writtenAll rest)

end

mutual

/-- A skeleton whose kinds and roles can be told from what stands around them. -/
def Legible : Skeleton → Prop
  | mk kind _ children => IsTokenKind kind ∧ LegibleAll children

/-- A row of children that are legible, in roles that are plain words. -/
def LegibleAll : List (Option String × Skeleton) → Prop
  | [] => True
  | (role, child) :: rest =>
    (∀ name, role = some name → IsPlainWord name) ∧ child.Legible ∧ LegibleAll rest

end

theorem isPlain_of_mem_roleChars {role : Option String}
    (h : ∀ name, role = some name → IsPlainWord name) : ∀ c ∈ roleChars role, isPlain c := by
  intro c hc
  cases role with
  | none => simp [roleChars] at hc
  | some name =>
    rcases List.mem_append.1 hc with hc | hc
    · exact (h name rfl).2 c hc
    · rw [List.mem_singleton.1 hc]
      decide

theorem roleChars_injective {role role' : Option String} (h : roleChars role = roleChars role') :
    role = role' := by
  cases role with
  | none =>
    cases role' with
    | none => rfl
    | some name' => simp [roleChars] at h
  | some name =>
    cases role' with
    | none => simp [roleChars] at h
    | some name' =>
      have hname : name.toList = name'.toList := List.append_cancel_right h
      rw [String.toList_injective hname]

theorem followsKind_writtenAll {children : List (Option String × Skeleton)}
    (h : LegibleAll children) (rest : List Char) :
    FollowsKind (writtenAll children ++ ')' :: rest) := by
  cases children with
  | nil => exact .close rest
  | cons first children =>
    obtain ⟨role, kind, text, below⟩ := first
    simp only [writtenAll, written, List.cons_append, List.append_assoc]
    exact .child (isPlain_of_mem_roleChars h.1) _

theorem followsKind_textChars {children : List (Option String × Skeleton)}
    (h : LegibleAll children) (text : Option String) (rest : List Char) :
    FollowsKind (textChars text ++ (writtenAll children ++ ')' :: rest)) := by
  cases text with
  | none => exact followsKind_writtenAll h rest
  | some text =>
    simp only [textChars, Text.quote, Option.elim_some, String.toList_ofList, List.cons_append]
    exact .text _

/-- Children do not begin like a text. -/
theorem writtenAll_ne_text {children : List (Option String × Skeleton)} (h : LegibleAll children)
    (rest rest' : List Char) : writtenAll children ++ ')' :: rest ≠ ' ' :: '"' :: rest' := by
  intro heq
  cases children with
  | nil => simp [writtenAll] at heq
  | cons first children =>
    obtain ⟨role, kind, text, below⟩ := first
    simp only [writtenAll, written, List.cons_append, List.append_assoc, List.cons.injEq,
      true_and] at heq
    cases hchars : roleChars role with
    | nil => simp [hchars] at heq
    | cons c chars =>
      have hc := isPlain_of_mem_roleChars h.1 c (by simp [hchars])
      rw [hchars, List.cons_append] at heq
      rw [(List.cons.inj heq).1] at hc
      exact absurd hc (by decide)

theorem textChars_append_inj {text text' : Option String}
    {children children' : List (Option String × Skeleton)} (h : LegibleAll children)
    (h' : LegibleAll children') {rest rest' : List Char}
    (heq : textChars text ++ (writtenAll children ++ ')' :: rest) =
      textChars text' ++ (writtenAll children' ++ ')' :: rest')) :
    text = text' ∧ writtenAll children ++ ')' :: rest = writtenAll children' ++ ')' :: rest' := by
  cases text with
  | none =>
    cases text' with
    | none => exact ⟨rfl, heq⟩
    | some text' =>
      simp only [textChars, Text.quote, Option.elim_some, String.toList_ofList,
        List.cons_append] at heq
      exact absurd heq (writtenAll_ne_text h _ _)
  | some text =>
    cases text' with
    | none =>
      simp only [textChars, Text.quote, Option.elim_some, String.toList_ofList,
        List.cons_append] at heq
      exact absurd heq.symm (writtenAll_ne_text h' _ _)
    | some text' =>
      obtain ⟨rfl, hrest⟩ := Text.quote_append_inj (List.cons.inj heq).2
      exact ⟨rfl, hrest⟩

mutual

/-- A skeleton can be read back from whatever it stands in front of. -/
theorem written_append_inj : ∀ {x y : Skeleton}, x.Legible → y.Legible →
    ∀ {rest rest' : List Char}, x.written ++ rest = y.written ++ rest' → x = y ∧ rest = rest'
  | mk kind text children, mk kind' text' children', hx, hy, rest, rest', h => by
    simp only [written, List.cons_append, List.append_assoc, List.nil_append, List.cons.injEq,
      true_and] at h
    have hkind := congrArg readKind h
    rw [readKind_append hx.1 (followsKind_textChars hx.2 text rest),
      readKind_append hy.1 (followsKind_textChars hy.2 text' rest')] at hkind
    obtain rfl := String.toList_injective hkind
    obtain ⟨rfl, hchildren⟩ := textChars_append_inj hx.2 hy.2 (List.append_cancel_left h)
    obtain ⟨rfl, hrest⟩ := writtenAll_append_inj hx.2 hy.2 hchildren
    exact ⟨rfl, hrest⟩

/-- A row of children ends at the closing parenthesis. -/
theorem writtenAll_append_inj : ∀ {xs ys : List (Option String × Skeleton)}, LegibleAll xs →
    LegibleAll ys → ∀ {rest rest' : List Char},
      writtenAll xs ++ ')' :: rest = writtenAll ys ++ ')' :: rest' → xs = ys ∧ rest = rest'
  | [], [], _, _, _, _, h => ⟨rfl, (List.cons.inj h).2⟩
  | [], (_, _) :: _, _, _, _, _, h => by simp [writtenAll] at h
  | (_, _) :: _, [], _, _, _, _, h => by simp [writtenAll] at h
  | (role, x) :: xs, (role', y) :: ys, hx, hy, rest, rest', h => by
    simp only [writtenAll, List.cons_append, List.append_assoc, List.cons.injEq, true_and] at h
    -- The role ends where the child opens.
    have hopens (child : Skeleton) (after : List Char) :
        ∃ inside, child.written ++ after = '(' :: inside := by
      cases child with
      | mk kind text children => exact ⟨_, by rw [written, List.cons_append]⟩
    have hrole : roleChars role = roleChars role' := by
      obtain ⟨inside, hinside⟩ := hopens x (writtenAll xs ++ ')' :: rest)
      obtain ⟨inside', hinside'⟩ := hopens y (writtenAll ys ++ ')' :: rest')
      have htaken := congrArg (List.takeWhile isPlain) h
      rwa [hinside, hinside', takeWhile_plain (isPlain_of_mem_roleChars hx.1) (by decide),
        takeWhile_plain (isPlain_of_mem_roleChars hy.1) (by decide)] at htaken
    rw [hrole] at h
    obtain rfl := roleChars_injective hrole
    obtain ⟨rfl, hxs⟩ := written_append_inj hx.2.1 hy.2.1 (List.append_cancel_left h)
    obtain ⟨rfl, hrest⟩ := writtenAll_append_inj hx.2.2 hy.2.2 hxs
    exact ⟨rfl, hrest⟩

end

end Skeleton

namespace Node

mutual

/-- The canonical form of a tree is its skeleton, written out. -/
theorem canonicalChars_eq (source : String) : (node : Node) →
    node.canonicalChars source = (node.skeleton source).written
  | mk attributes children => by
    rw [canonicalChars, skeleton, Skeleton.written]
    by_cases hatomic : (mk attributes children).isAtomic
    · by_cases hnamed : (mk attributes children).named
      · simp [hatomic, hnamed, Skeleton.textChars, Skeleton.writtenAll]
      · simp [hatomic, hnamed, Skeleton.textChars, Skeleton.writtenAll]
    · simp [hatomic, Skeleton.textChars, canonicalCharsOfAll_eq source children]

theorem canonicalCharsOfAll_eq (source : String) : (row : List Node) →
    canonicalCharsOfAll source row = Skeleton.writtenAll (skeletonOfAll source row)
  | [] => rfl
  | node :: rest => by
    rw [canonicalCharsOfAll, skeletonOfAll]
    by_cases hextra : node.extra
    · simp [hextra, canonicalCharsOfAll_eq source rest]
    · simp [hextra, Skeleton.writtenAll, Skeleton.roleChars, canonicalChars_eq source node,
        canonicalCharsOfAll_eq source rest]

end

theorem Grammatical.isTokenKind {node : Node} (h : node.Grammatical) : IsTokenKind node.kind := by
  have hnode := h node node.mem_preorder_self
  by_cases hnamed : node.attributes.named = true
  · exact .word (hnode.named hnamed).isPlainWord
  · exact hnode.token (by simpa using hnamed)

theorem Grammatical.child {node child : Node} (h : node.Grammatical)
    (hchild : child ∈ node.children) : child.Grammatical :=
  fun part hpart => h part (mem_preorder_of_child hchild hpart)

mutual

theorem legible_skeleton (source : String) : (node : Node) → node.Grammatical →
    (node.skeleton source).Legible
  | mk attributes children, h => by
    rw [skeleton]
    refine ⟨h.isTokenKind, ?_⟩
    split
    · trivial
    · exact legible_skeletonOfAll source children fun child hchild => h.child hchild

theorem legible_skeletonOfAll (source : String) : (row : List Node) →
    (∀ node ∈ row, node.Grammatical) → Skeleton.LegibleAll (skeletonOfAll source row)
  | [], _ => trivial
  | node :: rest, h => by
    obtain ⟨hnode, hrest⟩ := List.forall_mem_cons.1 h
    rw [skeletonOfAll]
    split
    · exact legible_skeletonOfAll source rest hrest
    · refine ⟨fun role hrole => ?_, legible_skeleton source node hnode,
        legible_skeletonOfAll source rest hrest⟩
      exact ((hnode node node.mem_preorder_self).role role hrole).isPlainWord

end

/-- Two trees of a grammar have the same canonical form exactly if they have the same skeleton. -/
theorem canonical_eq_iff {x y : Node} (hx : x.Grammatical) (hy : y.Grammatical)
    (source source' : String) :
    x.canonical source = y.canonical source' ↔ x.skeleton source = y.skeleton source' := by
  unfold canonical
  rw [canonicalChars_eq, canonicalChars_eq]
  constructor
  · intro h
    have hchars := congrArg (· ++ []) (String.ofList_injective h)
    exact (Skeleton.written_append_inj (x.legible_skeleton source hx)
      (y.legible_skeleton source' hy) hchars).1
  · intro h
    rw [h]

/-- The tree of `(a not in b)`. -/
def membership : Node :=
  .mk { kind := "parenthesized_expression", start := 0, stop := 12 } [
    .mk { kind := "(", named := false, start := 0, stop := 1 } [],
    .mk { kind := "comparison_operator", start := 1, stop := 11 } [
      .mk { kind := "identifier", start := 1, stop := 2 } [],
      .mk { kind := "not in", named := false, role := some "operators", start := 3, stop := 9 } [
        .mk { kind := "not", named := false, start := 3, stop := 6 } [],
        .mk { kind := "in", named := false, start := 7, stop := 9 } []],
      .mk { kind := "identifier", start := 10, stop := 11 } []],
    .mk { kind := ")", named := false, start := 11, stop := 12 } []]

/-- The tree of the same expression with a comment and other blanks. -/
def spreadMembership : Node :=
  .mk { kind := "parenthesized_expression", start := 0, stop := 18 } [
    .mk { kind := "(", named := false, start := 0, stop := 1 } [],
    .mk { kind := "comparison_operator", start := 1, stop := 17 } [
      .mk { kind := "identifier", start := 1, stop := 2 } [],
      .mk { kind := "not in", named := false, role := some "operators", start := 3, stop := 10 } [
        .mk { kind := "not", named := false, start := 3, stop := 6 } [],
        .mk { kind := "in", named := false, start := 8, stop := 10 } []],
      .mk { kind := "comment", extra := true, start := 11, stop := 14 } [],
      .mk { kind := "identifier", start := 16, stop := 17 } []],
    .mk { kind := ")", named := false, start := 17, stop := 18 } []]

theorem canonical_eq_iff_membership :
    membership.Grammatical ∧ spreadMembership.Grammatical ∧
      membership.canonical "(a not in b)" = spreadMembership.canonical "(a not  in # c\n b)" ∧
      membership.skeleton "(a not in b)" = spreadMembership.skeleton "(a not  in # c\n b)" := by
  have htokens : ∀ kind ∈ ["(", ")", "not in", "not", "in"], IsTokenKind kind := by
    have hnot : IsPlainWord "not" := by decide +kernel
    have hin : IsPlainWord "in" := by decide +kernel
    simp only [List.forall_mem_cons]
    exact ⟨.opening, .closing, .pair hnot hin, .word hnot, .word hin, by simp⟩
  have hgrammar : ∀ node ∈ [membership, spreadMembership], node.Grammatical := by
    intro node hnode part hpart
    refine ⟨?_, ?_, fun hnamed => htokens _ ?_⟩
    · revert node part
      decide +kernel
    · revert node part
      decide +kernel
    · revert node part
      decide +kernel
  have hplain := hgrammar membership (by simp)
  have hspread := hgrammar spreadMembership (by simp)
  have hcanonical : membership.canonical "(a not in b)" =
      spreadMembership.canonical "(a not  in # c\n b)" := by decide +kernel
  exact ⟨hplain, hspread, hcanonical, (canonical_eq_iff hplain hspread _ _).1 hcanonical⟩

end Node

end SourceLedger.Syntax
