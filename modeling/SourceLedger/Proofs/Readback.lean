import Mathlib.Order.Monotone.Basic
import SourceLedger.Proofs.Provenance

/-!
# Reading a version back

Whatever was extracted from a text can be read again from the tables, however much was written
before and after it. Every component has a row, rows are numbered in the order of the components,
and what is asked of a row is answered as the extraction has it for the component: its texts and all
facts about it, in order.

## Main definitions

* `Staging.records` are the component rows of a version as they are read.
* `ComponentRow.Describes` says that a row was written for a component.
* `Store.Answers` says that texts and facts are read as an extraction has them.

## Main statements

* `Chronicle.componentsOf` and `Chronicle.component?` read the components of a version.
* `Chronicle.answers` reads the texts and facts of a component.
* `Store.versions_read_back` collects what is read from a version.
-/

namespace SourceLedger

/-- Values that are read as they were written are all read. -/
theorem mapM_map_of_read {α β γ ε : Type} {write : α → β} {read : β → Except ε γ} {value : α → γ}
    (h : ∀ x, read (write x) = .ok (value x)) (xs : List α) :
    (xs.map write).mapM read = .ok (xs.map value) := by
  have hread : read ∘ write = fun x => pure (value x) := funext h
  rw [List.mapM_map, hread, List.mapM_pure]
  rfl

/-- Facts that were numbered are read as they are. -/
theorem mapM_select_numbered {α β ε : Type} {stored : Int → α → β} {read : β → Except ε α}
    (hread : ∀ number fact, read (stored number fact) = .ok fact) (owner : Nat)
    (facts : List (Owned α)) :
    (Owned.select owner (numbered stored facts)).mapM read = .ok (Owned.select owner facts) := by
  obtain ⟨placed, hrows, hfacts⟩ := select_numbered stored owner facts
  rw [hrows, ← hfacts]
  exact mapM_map_of_read (fun _ => hread _ _) placed

namespace Staging

variable (staging : Staging)

/-- The component rows of a version that is staged, as they are read. -/
def records : List ComponentRecord :=
  staging.extraction.components.zipIdx.map fun (component, position) =>
    staging.componentRow component position

theorem componentRows_eq_map_stored : staging.componentRows = staging.records.map (·.stored) := by
  rw [componentRows, records, List.map_map]
  rfl

theorem map_id_records :
    staging.records.map (·.id) =
      (List.range staging.extraction.components.length).map staging.rowId := by
  rw [List.range_eq_range', ← List.zipIdx_map_snd, records, List.map_map, List.map_map]
  rfl

theorem map_name_records :
    staging.records.map (·.qualifiedName) =
      staging.extraction.components.map (·.qualifiedName) :=
  staging.map_rows staging.componentRow fun _ _ => rfl

variable {staging}

theorem mem_records {row : ComponentRecord} :
    row ∈ staging.records ↔ ∃ position component,
      staging.extraction.components[position]? = some component ∧
        row = staging.componentRow component position := by
  constructor
  · intro hrow
    obtain ⟨⟨component, position⟩, hplaced, rfl⟩ := List.mem_map.1 hrow
    exact ⟨position, component, List.mem_zipIdx_iff_getElem?.1 hplaced, rfl⟩
  · rintro ⟨position, component, hcomponent, rfl⟩
    exact List.mem_map.2 ⟨(component, position), List.mem_zipIdx_iff_getElem?.2 hcomponent, rfl⟩

end Staging

/-- A row was written for the component in a place. `rowId` gives the rows of all places. -/
structure ComponentRow.Describes (row : ComponentRecord) (rowId : Nat → Nat) (position : Nat)
    (component : Component) : Prop where
  id : row.id = rowId position
  parentId : row.parentId = component.parent.map rowId
  kind : row.kind = component.kind
  name : row.name = component.name
  qualifiedName : row.qualifiedName = component.qualifiedName
  orderIndex : row.orderIndex = component.orderIndex
  depth : row.depth = component.depth
  firstLine : row.firstLine = component.firstLine
  lastLine : row.lastLine = component.lastLine
  contentHash : row.contentHash = component.contentHash
  structureHash : row.structureHash = component.structureHash
  signature : row.signature = component.signature

/-- What is asked of a row is answered with the texts and the facts that an extraction has for the
component in a place. -/
structure Store.Answers (store : Store) (id : Nat) (extraction : Extraction) (position : Nat)
    (component : Component) : Prop where
  segment : store.segment? id = some component.segment
  symbols : store.symbolsOf id = .ok (Owned.select position extraction.symbols)
  calls : store.callsOf id = Owned.select position extraction.calls
  imports : store.importsOf id = Owned.select position extraction.imports
  globals : store.globalsOf id = .ok (Owned.select position extraction.globals)
  decorators : store.decoratorsOf id = Owned.select position extraction.decorators

theorem Staging.describes_componentRow (staging : Staging) (component : Component)
    (position : Nat) :
    (staging.componentRow component position).Describes staging.rowId position component := by
  constructor <;> rfl

namespace Chronicle

variable {log : List Snapshot} {store : Store} {snapshot : Snapshot}

/-- The components of a version are its rows in the order of listings. -/
theorem componentsOf (h : Chronicle log store) (hsnapshot : snapshot ∈ log) :
    store.componentsOf snapshot.versionId =
      .ok (snapshot.records.mergeSort fun x y => x.stored.listedBefore y.stored) := by
  have hsorted := List.map_mergeSort (l := snapshot.records) (f := ComponentRow.stored)
    (r := fun x y => x.stored.listedBefore y.stored) (s := ComponentRow.listedBefore)
    fun _ _ _ _ => rfl
  rw [Store.componentsOf, h.componentRows hsnapshot, Staging.componentRows_eq_map_stored, ← hsorted,
    mapM_map_of_read ComponentRow.read_stored, List.map_id']

/-- The component of a version with a name is found among its rows. -/
theorem component? (h : Chronicle log store) (hsnapshot : snapshot ∈ log) (name : String) :
    store.component? snapshot.versionId name =
      .ok (snapshot.records.find? (·.qualifiedName == name)) := by
  have hname : ((fun row : StoredComponent => row.qualifiedName == name) ∘ ComponentRow.stored) =
      fun row : ComponentRecord => row.qualifiedName == name := rfl
  rw [Store.component?, h.componentRows hsnapshot, Staging.componentRows_eq_map_stored,
    List.find?_map, hname]
  cases snapshot.records.find? (·.qualifiedName == name) with
  | none => rfl
  | some row => simp [ComponentRow.read_stored, Functor.map, Except.map]

/-- The decorators of a row are sorted by position, the order in which they were recorded. -/
theorem decoratorsOf (h : Chronicle log store) (hsnapshot : snapshot ∈ log) {position : Nat}
    (hposition : position < snapshot.extraction.components.length) :
    store.decoratorsOf (snapshot.rowId position) =
      Owned.select position snapshot.extraction.decorators := by
  have hselect : Owned.select (snapshot.rowId position) store.decorators =
      Owned.select position snapshot.extraction.decorators := by
    rw [h.tables.decorators]
    exact h.select_factRows hsnapshot
      (fun other => (wellFormed_extract other.extracted).arena.decorators) hposition
  have hordered := (wellFormed_extract snapshot.extracted).decorators
  have hsorted : (Owned.select position snapshot.extraction.decorators).Pairwise
      fun x y => x.position ≤ y.position := by
    refine List.pairwise_map.2 (List.pairwise_filter.2 (hordered.imp ?_))
    intro x y hlt hx hy
    have howner : x.owner = y.owner := (beq_iff_eq.1 hx).trans (beq_iff_eq.1 hy).symm
    exact Nat.le_of_lt (hlt howner)
  rw [Store.decoratorsOf, hselect]
  exact List.mergeSort_of_pairwise (hsorted.imp fun hle => decide_eq_true hle)

/-- The texts and facts of a component are read as they were extracted. -/
theorem answers (h : Chronicle log store) (hsnapshot : snapshot ∈ log) {position : Nat}
    {component : Component}
    (hcomponent : snapshot.extraction.components[position]? = some component) :
    store.Answers (snapshot.rowId position) snapshot.extraction position component := by
  have hposition : position < snapshot.extraction.components.length :=
    (List.getElem?_eq_some_iff.1 hcomponent).1
  constructor
  case segment => exact h.segment? hsnapshot hcomponent
  case symbols =>
    rw [Store.symbolsOf, h.tables.symbols, mapM_select_numbered StoredSymbol.read_stored]
    exact congrArg Except.ok (h.select_factRows hsnapshot
      (fun other => (wellFormed_extract other.extracted).arena.symbols) hposition)
  case calls => exact h.callsOf hsnapshot hposition
  case imports => exact h.importsOf hsnapshot hposition
  case globals =>
    rw [Store.globalsOf, h.tables.globals, mapM_select_numbered StoredGlobal.read_stored]
    exact congrArg Except.ok (h.select_factRows hsnapshot
      (fun other => (wellFormed_extract other.extracted).arena.globals) hposition)
  case decorators => exact h.decoratorsOf hsnapshot hposition

/-- A row of the component table belongs to one version. -/
theorem version_of_row (h : Chronicle log store) {first second : Nat} {x y : StoredComponent}
    (hx : x ∈ store.componentRows first) (hy : y ∈ store.componentRows second)
    (hid : x.id = y.id) : first = second := by
  obtain ⟨hx, hfirst⟩ := List.mem_filter.1 hx
  obtain ⟨hy, hsecond⟩ := List.mem_filter.1 hy
  have hsame : x = y := List.inj_on_of_nodup_map h.isConsistent.componentIds hx hy hid
  rw [← beq_iff_eq.1 hfirst, ← beq_iff_eq.1 hsecond, hsame]

end Chronicle

namespace Store

/-- Every version of a store was written from an extraction and reads back as it was extracted: its
rows are numbered in the order of the components, each describes its component, and answers with the
texts and facts of its component. No row belongs to two versions. -/
theorem versions_read_back {store : Store} (h : store.Reachable) :
    (∀ version ∈ store.versions, ∃ snapshot, store.HasWritten snapshot ∧
      snapshot.version = version) ∧
    (∀ snapshot, store.HasWritten snapshot →
      ∃ (rowId : Nat → Nat) (records : List ComponentRecord), StrictMono rowId ∧
        store.componentsOf snapshot.versionId = .ok records ∧
        (records.map (·.id)).Perm
          ((List.range snapshot.extraction.components.length).map rowId) ∧
        ∀ position component, snapshot.extraction.components[position]? = some component →
          (∃ row ∈ records, row.Describes rowId position component) ∧
            store.Answers (rowId position) snapshot.extraction position component) ∧
    ∀ first second, ∀ x ∈ store.componentRows first, ∀ y ∈ store.componentRows second,
      x.id = y.id → first = second := by
  refine ⟨fun version hversion => h.exists_written hversion, ?_, ?_⟩
  · intro snapshot hwritten
    obtain ⟨log, hlog, hsnapshot⟩ := hwritten.chronicle
    have hperm := List.mergeSort_perm snapshot.records fun x y => x.stored.listedBefore y.stored
    refine ⟨snapshot.rowId, _, ?_, hlog.componentsOf hsnapshot, ?_, ?_⟩
    · intro first second hlt
      simp only [Staging.rowId]
      omega
    · rw [← snapshot.map_id_records]
      exact hperm.map _
    · intro position component hcomponent
      refine ⟨⟨snapshot.componentRow component position, ?_, ?_⟩, hlog.answers hsnapshot hcomponent⟩
      · exact hperm.mem_iff.2 (Staging.mem_records.2 ⟨position, component, hcomponent, rfl⟩)
      · exact snapshot.describes_componentRow component position
  · intro first second x hx y hy hid
    obtain ⟨log, hlog⟩ := h.chronicle
    exact hlog.version_of_row hx hy hid

theorem versions_read_back_reinstated :
    ∃ (snapshot : Snapshot) (rowId : Nat → Nat) (records : List ComponentRecord),
      reinstated.Reachable ∧ reinstated.HasWritten snapshot ∧ snapshot.versionNumber = 3 ∧
        StrictMono rowId ∧ reinstated.componentsOf snapshot.versionId = .ok records ∧
        (records.map (·.id)).Perm [rowId 0, rowId 1] ∧
        ∀ position component, snapshot.extraction.components[position]? = some component →
          (∃ row ∈ records, row.Describes rowId position component) ∧
            reinstated.Answers (rowId position) snapshot.extraction position component := by
  obtain ⟨snapshot, hwritten, _, hnumber, hlength⟩ := written_reinstated
  obtain ⟨rowId, records, hmono, hrecords, hids, hread⟩ :=
    (versions_read_back reachable_reinstated).2.1 snapshot hwritten
  rw [hlength] at hids
  exact ⟨snapshot, rowId, records, reachable_reinstated, hwritten, hnumber, hmono, hrecords, hids,
    hread⟩

end Store

end SourceLedger
