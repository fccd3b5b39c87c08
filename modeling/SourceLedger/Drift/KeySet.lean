/-!
# Sets of keys

A `KeySet` is a finite set of texts, kept as a list in increasing order. The order is part of the
type: a set has one listing, and comparing sets is comparing their listings. Texts are ordered by
their characters, which is also the order of their bytes.
-/

namespace SourceLedger

/-- A set of texts, listed in increasing order. -/
structure KeySet where
  toList : List String
  sorted : toList.Pairwise (· < ·)
  deriving DecidableEq

namespace KeySet

/-- Puts a text in its place in an increasing list, unless it is there. -/
def insertSorted (key : String) : List String → List String
  | [] => [key]
  | first :: rest =>
    if key < first then key :: first :: rest
    else if key = first then first :: rest
    else first :: insertSorted key rest

/-- Insertion adds exactly the inserted text. -/
theorem mem_insertSorted {x key : String} {keys : List String} :
    x ∈ insertSorted key keys ↔ x = key ∨ x ∈ keys := by
  induction keys with
  | nil => simp [insertSorted]
  | cons first rest ih =>
    unfold insertSorted
    split
    · simp
    · split
      · simp_all
      · simp only [List.mem_cons, ih]
        exact or_left_comm

/-- Insertion keeps a list increasing. -/
theorem sorted_insertSorted {key : String} {keys : List String} (h : keys.Pairwise (· < ·)) :
    (insertSorted key keys).Pairwise (· < ·) := by
  induction keys with
  | nil => simp [insertSorted]
  | cons first rest ih =>
    obtain ⟨hfirst, hrest⟩ := List.pairwise_cons.1 h
    unfold insertSorted
    split
    · rename_i hlt
      refine List.pairwise_cons.2 ⟨fun x hx => ?_, h⟩
      rcases List.mem_cons.1 hx with rfl | hx
      · exact hlt
      · exact String.lt_trans hlt (hfirst x hx)
    · rename_i hnot
      split
      · exact h
      · rename_i hne
        have hlt : first < key := Classical.byContradiction fun hnot' =>
          hne (String.le_antisymm (String.not_lt.1 hnot') (String.not_lt.1 hnot))
        refine List.pairwise_cons.2 ⟨fun x hx => ?_, ih hrest⟩
        rcases mem_insertSorted.1 hx with rfl | hx
        · exact hlt
        · exact hfirst x hx

instance : EmptyCollection KeySet := ⟨⟨[], .nil⟩⟩

instance : Inhabited KeySet := ⟨∅⟩

instance : Membership String KeySet := ⟨fun keys key => key ∈ keys.toList⟩

/-- A set with one more member. -/
def insert (keys : KeySet) (key : String) : KeySet :=
  ⟨insertSorted key keys.toList, sorted_insertSorted keys.sorted⟩

/-- The set of the members of a list. -/
def ofList (keys : List String) : KeySet :=
  keys.foldl insert ∅

/-- Membership in a set is membership in its listing. -/
theorem mem_iff {key : String} {keys : KeySet} : key ∈ keys ↔ key ∈ keys.toList :=
  Iff.rfl

/-- Insertion adds exactly the inserted text. -/
theorem mem_insert {x key : String} {keys : KeySet} : x ∈ keys.insert key ↔ x = key ∨ x ∈ keys :=
  mem_insertSorted

/-- A set built from a list has the members of the list. -/
theorem mem_ofList {x : String} {keys : List String} : x ∈ ofList keys ↔ x ∈ keys := by
  suffices h : ∀ start : KeySet, x ∈ keys.foldl insert start ↔ x ∈ keys ∨ x ∈ start by
    rw [ofList, h]
    exact ⟨fun hx => hx.resolve_right List.not_mem_nil, Or.inl⟩
  induction keys with
  | nil => simp
  | cons first rest ih =>
    intro start
    rw [List.foldl_cons, ih, mem_insert, List.mem_cons]
    exact ⟨fun h => by grind, fun h => by grind⟩

end KeySet

end SourceLedger
