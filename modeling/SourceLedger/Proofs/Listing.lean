import Mathlib.Data.Prod.Lex
import SourceLedger.Proofs.Account
import SourceLedger.Proofs.Layers
import SourceLedger.Proofs.Placement

/-!
# The order of listings

The components of a version are listed by depth, then by the row of their parent, then by their
position among siblings. As rows are numbered in the order of the components and the components of
one layer stand in the order of their parents, this is the order of the source, sorted by depth
without moving components of the same depth past each other. So parents are listed before their
children.

## Main definitions

* `Component.listKey` is what listings are sorted by, and `byDepth` sorts by depth alone.

## Main statements

* `Staging.mergeSort_records` says that both orders are the same.
* `Store.listed_by_depth` says what is listed for a version.
-/

namespace SourceLedger

/-- What listings are sorted by: the depth, the position of the parent, where no parent comes first,
and the position among siblings. -/
def Component.listKey (component : Component) : Nat ×ₗ Nat ×ₗ Nat :=
  toLex (component.depth, toLex (component.parent.elim 0 (· + 1), component.orderIndex))

/-- Components with their positions, sorted by depth. Those of the same depth stay in order. -/
def byDepth (components : List Component) : List (Component × Nat) :=
  components.zipIdx.mergeSort (List.zipIdxLE fun x y => x.depth ≤ y.depth)

section Order

variable {components : List Component}

theorem perm_byDepth (components : List Component) :
    (byDepth components).Perm components.zipIdx :=
  List.mergeSort_perm ..

/-- Without the positions this is the stable sort of the components. -/
theorem map_fst_byDepth (components : List Component) :
    (byDepth components).map Prod.fst = components.mergeSort fun x y => x.depth ≤ y.depth :=
  List.mergeSort_zipIdx

theorem mem_byDepth {placed : Component × Nat} :
    placed ∈ byDepth components ↔ components[placed.2]? = some placed.1 := by
  rw [(perm_byDepth components).mem_iff, List.mem_zipIdx_iff_getElem?]

theorem nodup_positions (components : List Component) :
    ((byDepth components).map Prod.snd).Nodup := by
  refine ((perm_byDepth components).map Prod.snd).nodup_iff.2 ?_
  rw [List.zipIdx_map_snd]
  exact List.nodup_range'

theorem pairwise_byDepth (components : List Component) :
    (byDepth components).Pairwise fun x y =>
      x.1.depth < y.1.depth ∨ x.1.depth = y.1.depth ∧ x.2 < y.2 := by
  have hsorted : (byDepth components).Pairwise fun x y =>
      List.zipIdxLE (fun x y : Component => x.depth ≤ y.depth) x y := by
    refine List.pairwise_mergeSort (List.zipIdxLE_trans fun x y z hxy hyz => ?_)
      (List.zipIdxLE_total fun x y => ?_) _
    · rw [decide_eq_true_iff] at hxy hyz ⊢
      exact hxy.trans hyz
    · rw [Bool.or_eq_true, decide_eq_true_iff, decide_eq_true_iff]
      exact Nat.le_total ..
  refine (hsorted.and (List.pairwise_map.1 (nodup_positions components))).imp ?_
  rintro x y ⟨hle, hne⟩
  simp only [List.zipIdxLE, decide_eq_true_iff] at hle
  split at hle
  · split at hle
    · rw [decide_eq_true_iff] at hle
      exact .inr ⟨by omega, by omega⟩
    · exact .inl (by omega)
  · simp at hle

/-- In a layer, components stand in the order in which they are listed. -/
theorem listKey_lt (hlayers : AreLayered components)
    (hsiblings : components.Pairwise fun x y => x.parent = y.parent → x.orderIndex < y.orderIndex)
    {x y : Component × Nat} (hx : components[x.2]? = some x.1) (hy : components[y.2]? = some y.1)
    (hdepth : x.1.depth = y.1.depth) (hlt : x.2 < y.2) : x.1.listKey < y.1.listKey := by
  obtain ⟨hi, hxi⟩ := List.getElem?_eq_some_iff.1 hx
  obtain ⟨hj, hyj⟩ := List.getElem?_eq_some_iff.1 hy
  have hparents := List.pairwise_iff_getElem.1 hlayers.ordered x.2 y.2 hi hj hlt
  have horder := List.pairwise_iff_getElem.1 hsiblings x.2 y.2 hi hj hlt
  rw [hxi, hyj] at hparents horder
  rw [Component.listKey, Component.listKey, Prod.Lex.toLex_lt_toLex]
  refine .inr ⟨hdepth, ?_⟩
  rw [Prod.Lex.toLex_lt_toLex]
  cases hfirst : x.1.parent with
  | none =>
    cases hsecond : y.1.parent with
    | none => exact .inr ⟨rfl, horder (hfirst.trans hsecond.symm)⟩
    | some other => exact .inl (Nat.succ_pos other)
  | some parent =>
    obtain ⟨outer, _, hbelow⟩ := hlayers.below x.1 (List.mem_of_getElem? hx) parent hfirst
    cases hsecond : y.1.parent with
    | none =>
      have htop := hlayers.top y.1 (List.mem_of_getElem? hy) hsecond
      omega
    | some other =>
      rcases Nat.lt_or_eq_of_le (hparents hdepth parent hfirst other hsecond) with hless | rfl
      · exact .inl (Nat.succ_lt_succ hless)
      · exact .inr ⟨rfl, horder (hfirst.trans hsecond.symm)⟩

/-- Sorting by keys and sorting by depth alone give the same order. -/
theorem mergeSort_listKey (hlayers : AreLayered components)
    (hsiblings : components.Pairwise fun x y => x.parent = y.parent → x.orderIndex < y.orderIndex) :
    components.zipIdx.mergeSort (fun x y => x.1.listKey ≤ y.1.listKey) = byDepth components := by
  have hperm := List.mergeSort_perm components.zipIdx fun x y => x.1.listKey ≤ y.1.listKey
  have hat {placed : Component × Nat} (h : placed ∈ components.zipIdx) :
      components[placed.2]? = some placed.1 := List.mem_zipIdx_iff_getElem?.1 h
  have hsorted : (components.zipIdx.mergeSort fun x y => x.1.listKey ≤ y.1.listKey).Pairwise
      fun x y => x.1.listKey ≤ y.1.listKey := by
    refine (List.pairwise_mergeSort (fun x y z hxy hyz => ?_) (fun x y => ?_) _).imp ?_
    · rw [decide_eq_true_iff] at hxy hyz ⊢
      exact hxy.trans hyz
    · rw [Bool.or_eq_true, decide_eq_true_iff, decide_eq_true_iff]
      exact le_total ..
    · exact fun h => of_decide_eq_true h
  have hdepths : (byDepth components).Pairwise fun x y => x.1.listKey ≤ y.1.listKey := by
    refine (pairwise_byDepth components).imp_of_mem fun {x y} hx hy horder => le_of_lt ?_
    rcases horder with hless | ⟨hdepth, hlt⟩
    · exact Prod.Lex.toLex_lt_toLex.2 (.inl hless)
    · exact listKey_lt hlayers hsiblings (mem_byDepth.1 hx) (mem_byDepth.1 hy) hdepth hlt
  refine List.Perm.eq_of_pairwise (fun x y hx hy hxy hyx => ?_) hsorted hdepths
    (hperm.trans (perm_byDepth components).symm)
  -- Members with the same key have the same depth, so neither stands before the other.
  have hx := hat (hperm.mem_iff.1 hx)
  have hy := mem_byDepth.1 hy
  have hkey := le_antisymm hxy hyx
  have hdepth : x.1.depth = y.1.depth := congrArg (fun key => (ofLex key).1) hkey
  rcases Nat.lt_trichotomy x.2 y.2 with hlt | heq | hlt
  · exact absurd hkey (listKey_lt hlayers hsiblings hx hy hdepth hlt).ne
  · refine Prod.ext ?_ heq
    rw [heq] at hx
    exact Option.some.inj (hx.symm.trans hy)
  · exact absurd hkey.symm (listKey_lt hlayers hsiblings hy hx hdepth.symm hlt).ne

/-- Parents are sorted before their children. -/
theorem parent_before_byDepth (hlayers : AreLayered components)
    {before after : List (Component × Nat)} {placed : Component × Nat}
    (hsplit : byDepth components = before ++ placed :: after) {parent : Nat}
    (hparent : placed.1.parent = some parent) : ∃ outer ∈ before, outer.2 = parent := by
  have hplaced : placed ∈ byDepth components := by simp [hsplit]
  obtain ⟨outer, houter, hdepth⟩ :=
    hlayers.below placed.1 (List.mem_of_getElem? (mem_byDepth.1 hplaced)) parent hparent
  have hmem : (outer, parent) ∈ byDepth components := mem_byDepth.2 houter
  have hpairwise := pairwise_byDepth components
  rw [hsplit] at hmem hpairwise
  rcases List.mem_append.1 hmem with hbefore | hbehind
  · exact ⟨_, hbefore, rfl⟩
  · rcases List.mem_cons.1 hbehind with rfl | hafter
    · exact absurd hdepth (Nat.succ_ne_self _).symm
    · have horder := (List.pairwise_cons.1 (List.pairwise_append.1 hpairwise).2.1).1 _ hafter
      simp only at horder
      omega

end Order

namespace Staging

variable (staging : Staging)

theorem listedBefore_componentRow (x y : Component) (position place : Nat) :
    (staging.componentRow x position).stored.listedBefore (staging.componentRow y place).stored =
      decide (x.listKey ≤ y.listKey) := by
  -- Rows of parents are in the order of their positions, and no row comes first.
  have hparent : (x.parent.map staging.rowId).getD 0 ≤ (y.parent.map staging.rowId).getD 0 ↔
      x.parent.elim 0 (· + 1) ≤ y.parent.elim 0 (· + 1) := by
    cases x.parent <;> cases y.parent <;> simp [rowId]
  have hparents : (x.parent.map staging.rowId).getD 0 = (y.parent.map staging.rowId).getD 0 ↔
      x.parent.elim 0 (· + 1) = y.parent.elim 0 (· + 1) := by
    cases x.parent <;> cases y.parent <;> simp [rowId]
  rw [Bool.eq_iff_iff, decide_eq_true_iff, Component.listKey, Component.listKey,
    Prod.Lex.toLex_le_toLex, Prod.Lex.toLex_le_toLex]
  simp only [ComponentRow.listedBefore, ComponentRow.stored, componentRow, Cell.datum,
    Datum.leList, Datum.le_natCast, Datum.integer.injEq, Int.natCast_inj, hparents, hparent]
  split
  · split
    · split
      · simp_all
      · simp_all
    · simp_all [Nat.le_iff_lt_or_eq]
  · simp_all [Nat.le_iff_lt_or_eq]

/-- The rows of a version in the order of listings are those of its components sorted by depth. -/
theorem mergeSort_records (hlayers : AreLayered staging.extraction.components)
    (hsiblings : staging.extraction.components.Pairwise fun x y =>
      x.parent = y.parent → x.orderIndex < y.orderIndex) :
    staging.records.mergeSort (fun x y => x.stored.listedBefore y.stored) =
      (byDepth staging.extraction.components).map fun placed =>
        staging.componentRow placed.1 placed.2 := by
  have hsorted := List.map_mergeSort (l := staging.extraction.components.zipIdx)
    (f := fun placed => staging.componentRow placed.1 placed.2)
    (r := fun x y => x.1.listKey ≤ y.1.listKey)
    (s := fun x y => x.stored.listedBefore y.stored)
    fun x _ y _ => (staging.listedBefore_componentRow x.1 y.1 x.2 y.2).symm
  rw [mergeSort_listKey hlayers hsiblings] at hsorted
  exact hsorted.symm

end Staging

namespace Store

/-- Every version was written from an extraction. Its components are listed each once, sorted by
depth, those of the same depth in the order of the extraction, and so parents before their
children. -/
theorem listed_by_depth {store : Store} (h : store.Reachable) :
    (∀ version ∈ store.versions, ∃ snapshot, store.HasWritten snapshot ∧
      snapshot.version = version) ∧
    ∀ snapshot, store.HasWritten snapshot →
      ∃ (rows : List ComponentRecord) (order : List (Component × Nat)),
        (∀ number,
          store.requireVersion snapshot.extraction.path number = .ok snapshot.version →
            store.listComponents snapshot.extraction.path number = .ok rows) ∧
        store.listComponents snapshot.extraction.path (some snapshot.versionNumber) = .ok rows ∧
        List.Forall₂ (fun row placed => row.Describes snapshot.rowId placed.2 placed.1) rows
          order ∧
        order.Perm snapshot.extraction.components.zipIdx ∧
        order.map Prod.fst =
          snapshot.extraction.components.mergeSort (fun x y => x.depth ≤ y.depth) ∧
        (order.Pairwise fun x y =>
          x.1.depth < y.1.depth ∨ x.1.depth = y.1.depth ∧ x.2 < y.2) ∧
        ∀ before placed after, order = before ++ placed :: after →
          ∀ parent, placed.1.parent = some parent → ∃ outer ∈ before, outer.2 = parent := by
  refine ⟨fun version hversion => h.exists_written hversion, fun snapshot hwritten => ?_⟩
  obtain ⟨log, hlog, hsnapshot⟩ := hwritten.chronicle
  have hlayers := areLayered_extract snapshot.extracted
  have hsiblings := (wellFormed_extract snapshot.extracted).named.siblings_ordered
  have hrows := hlog.componentsOf hsnapshot
  rw [snapshot.mergeSort_records hlayers hsiblings] at hrows
  have hlist (number : Option Nat)
      (hversion : store.requireVersion snapshot.extraction.path number = .ok snapshot.version) :
      store.listComponents snapshot.extraction.path number =
        .ok ((byDepth snapshot.extraction.components).map fun placed =>
          snapshot.componentRow placed.1 placed.2) := by
    have hread : store.componentsOf snapshot.version.id = _ := hrows
    simp only [listComponents, hversion, bind, Except.bind, hread, Except.mapError]
  refine ⟨_, byDepth snapshot.extraction.components, hlist,
    hlist _ (hlog.requireVersion_number hsnapshot), ?_, perm_byDepth _, map_fst_byDepth _,
    pairwise_byDepth _, fun before placed after hsplit parent hparent =>
      parent_before_byDepth hlayers hsplit hparent⟩
  refine List.forall₂_map_left_iff.2 (List.forall₂_same.2 fun placed _ => ?_)
  exact snapshot.describes_componentRow placed.1 placed.2

/-- A store in which `Extraction.nestedText` was ingested. -/
def nested : Store :=
  (({} : Store).perform (fun _ => Extraction.nestedTree)
    (.ingest {} "a.py" Extraction.nestedText) 1).2

theorem listed_by_depth_nested :
    ∃ (snapshot : Snapshot) (rows : List ComponentRecord) (order : List (Component × Nat)),
      nested.Reachable ∧ nested.HasWritten snapshot ∧
        snapshot.extraction.components.map (·.depth) = [0, 1, 1, 0, 1] ∧
        nested.listComponents "a.py" (some 1) = .ok rows ∧
        List.Forall₂ (fun row placed => row.Describes snapshot.rowId placed.2 placed.1) rows
          order ∧
        order.map Prod.fst =
          snapshot.extraction.components.mergeSort (fun x y => x.depth ≤ y.depth) := by
  have hdepths : (extract "a.py" Extraction.nestedText Extraction.nestedTree {}).toOption.map
      (fun extraction => extraction.components.map (·.depth)) = some [0, 1, 1, 0, 1] := by
    decide +kernel
  obtain ⟨extraction, hextraction, hdepths⟩ := Option.map_eq_some_iff.1 hdepths
  have hextract := eq_ok_of_toOption hextraction
  obtain ⟨report, after, hingest, hnumber⟩ : ∃ report after,
      ({} : Store).ingest (fun _ => Extraction.nestedTree) {} "a.py" Extraction.nestedText 1 =
        .ok (report, after) ∧ report.versionNumber = 1 :=
    ⟨_, _, Chronicle.empty.ingest_ok _ hextract 1, rfl⟩
  have hafter : nested = after := by
    rw [nested, perform, hingest]
    rfl
  have hreachable : nested.Reachable := Reachable.empty.perform _ _ _
  obtain ⟨snapshot, hwritten, rfl, _, hwrote, _⟩ := exists_written_of_ingest .empty hingest
  obtain rfl := Except.ok.inj (hextract.symm.trans hwrote)
  rw [← hafter] at hwritten
  obtain ⟨rows, order, _, hlist, hdescribes, _, hsorted, _⟩ :=
    (listed_by_depth hreachable).2 snapshot hwritten
  rw [path_of_extract hextract, show snapshot.versionNumber = 1 from hnumber] at hlist
  exact ⟨snapshot, rows, order, hreachable, hwritten, hdepths, hlist, hdescribes, hsorted⟩

end Store

end SourceLedger
