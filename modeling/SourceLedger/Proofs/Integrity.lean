import SourceLedger.Proofs.Succession

/-!
# The rules of the tables

The tables of a store have keys that no two rows share, and rows refer to rows of other tables.
Every store that operations lead to keeps these rules. Rows are written in the order of their
numbers, and a row that refers to its own table refers to an earlier row.

## Main definitions

* `Store.IsConsistent` collects the rules.

## Main statements

* `Chronicle.isConsistent` says that every store with a chronicle keeps them.
-/

namespace SourceLedger

namespace Store

variable (store : Store)

/-- The store has a file with a number. -/
def HasFile (id : Int) : Prop :=
  id ∈ store.files.map (·.id)

/-- The store has a version with a number. -/
def HasVersion (id : Nat) : Prop :=
  id ∈ store.versions.map (·.id)

/-- The store has a component with a number. -/
def HasComponent (id : Nat) : Prop :=
  id ∈ store.components.map (·.id)

/-- The rules of the tables: keys are unique, and references lead to rows that are there. A parent
and a previous version have smaller numbers than the row that refers to them. -/
structure IsConsistent : Prop where
  fileIds : (store.files.map (·.id)).Nodup
  filePaths : (store.files.map (·.path)).Nodup
  versionIds : (store.versions.map (·.id)).Nodup
  versionNumbers : (store.versions.map fun row => (row.fileId, row.number)).Nodup
  versions : ∀ row ∈ store.versions, store.HasFile row.fileId ∧
    ∀ previous, row.previousId = some previous → previous < row.id ∧ store.HasVersion previous
  componentIds : (store.components.map (·.id)).Nodup
  componentNames : (store.components.map fun row => (row.versionId, row.qualifiedName)).Nodup
  componentOrder : (store.components.map fun row =>
    (row.versionId, row.parentId.getD 0, row.orderIndex)).Nodup
  components : ∀ row ∈ store.components, store.HasFile row.fileId ∧ store.HasVersion row.versionId ∧
    ∀ parent, row.parentId = some parent → parent < row.id ∧ store.HasComponent parent
  segmentOwners : (store.segments.map (·.owner)).Nodup
  segments : ∀ row ∈ store.segments, store.HasComponent row.owner
  symbols : ∀ row ∈ store.symbols, store.HasComponent row.owner
  calls : ∀ row ∈ store.calls, store.HasComponent row.owner
  imports : ∀ row ∈ store.imports, store.HasComponent row.owner
  globals : ∀ row ∈ store.globals, store.HasComponent row.owner
  decoratorPositions : (store.decorators.map fun row => (row.owner, row.fact.position)).Nodup
  decorators : ∀ row ∈ store.decorators, store.HasComponent row.owner
  historyComponents : (store.history.map (·.componentId)).Nodup
  history : ∀ row ∈ store.history, store.HasComponent row.componentId ∧
    store.HasFile row.fileId ∧ store.HasVersion row.versionId
  eventNames : (store.events.map fun row => (row.versionId, row.qualifiedName)).Nodup
  events : ∀ row ∈ store.events, store.HasFile row.fileId ∧ store.HasVersion row.versionId ∧
    ∀ previous, row.previousId = some previous → store.HasVersion previous
  proofs : ∀ row ∈ store.proofs, store.HasFile row.fileId ∧ store.HasVersion row.versionId

end Store

/-- Keys are unique in a table if they are in every block and no two blocks share one. -/
theorem nodup_map_flatMap {β κ : Type} {log : List Snapshot} {rows : Snapshot → List β}
    {key : β → κ} (h : log.Pairwise Snapshot.Precedes)
    (hown : ∀ snapshot ∈ log, ((rows snapshot).map key).Nodup)
    (hacross : ∀ first second, first.Precedes second →
      ∀ x ∈ rows first, ∀ y ∈ rows second, key x ≠ key y) :
    ((log.flatMap rows).map key).Nodup := by
  rw [List.Nodup, List.pairwise_map, List.pairwise_flatMap]
  refine ⟨fun snapshot hsnapshot => List.pairwise_map.1 (hown snapshot hsnapshot), ?_⟩
  exact h.imp fun hprecedes x hx y hy => hacross _ _ hprecedes x hx y hy

/-- In a table whose keys are unique only one row has a key. -/
theorem filter_key_eq_singleton {α κ : Type} [BEq κ] [LawfulBEq κ] {key : α → κ} {rows : List α}
    {row : α} (h : (rows.map key).Nodup) (hrow : row ∈ rows) :
    rows.filter (key · == key row) = [row] := by
  obtain ⟨before, after, rfl⟩ := List.append_of_mem hrow
  rw [List.map_append, List.map_cons, List.nodup_middle, List.nodup_cons, ← List.map_append] at h
  have hothers : ∀ other ∈ before ++ after, ¬ (key other == key row) = true := by
    intro other hother hsame
    exact h.1 (beq_iff_eq.1 hsame ▸ List.mem_map_of_mem hother)
  have hbefore := List.filter_eq_nil_iff.2 fun other hother =>
    hothers other (List.mem_append_left after hother)
  have hafter := List.filter_eq_nil_iff.2 fun other hother =>
    hothers other (List.mem_append_right before hother)
  simp [hbefore, hafter]

namespace Staging

variable (staging : Staging)

theorem rowId_inj {first second : Nat} : staging.rowId first = staging.rowId second ↔
    first = second := by
  simp only [rowId]
  omega

/-- The rows of the components of a version are numbered on. -/
theorem nodup_rowIds {β : Type} (row : Component → Nat → β) {id : β → Nat}
    (hid : ∀ component position, id (row component position) = staging.rowId position) :
    ((staging.extraction.components.zipIdx.map fun (component, position) =>
      row component position).map id).Nodup := by
  have hsame : (staging.extraction.components.zipIdx.map fun (component, position) =>
      row component position).map id =
      (staging.extraction.components.zipIdx.map Prod.snd).map staging.rowId := by
    rw [List.map_map, List.map_map]
    exact List.map_congr_left fun _ _ => hid _ _
  rw [hsame, List.zipIdx_map_snd]
  exact List.Nodup.map (fun _ _ => staging.rowId_inj.1) List.nodup_range'

/-- What only the components decide is the same in their rows. -/
theorem map_rows {β γ : Type} (row : Component → Nat → β) {view : β → γ} {value : Component → γ}
    (h : ∀ component position, view (row component position) = value component) :
    (staging.extraction.components.zipIdx.map fun (component, position) =>
        row component position).map view =
      staging.extraction.components.map value := by
  conv_rhs => rw [← List.zipIdx_map_fst 0 staging.extraction.components, List.map_map]
  rw [List.map_map]
  exact List.map_congr_left fun _ _ => h _ _

/-- What holds of the components of a version pairwise holds of their rows. -/
theorem pairwise_rows {β : Type} {R : Component → Component → Prop} {S : β → β → Prop}
    (row : Component → Nat → β) (h : staging.extraction.components.Pairwise R)
    (himp : ∀ component position later position', R component later →
      S (row component position) (row later position')) :
    (staging.extraction.components.zipIdx.map fun (component, position) =>
      row component position).Pairwise S := by
  have hplaced := h
  rw [← List.zipIdx_map_fst 0 staging.extraction.components, List.pairwise_map] at hplaced
  exact List.pairwise_map.2 (hplaced.imp fun hrelated => himp _ _ _ _ hrelated)

end Staging

namespace Store

variable {store : Store} {fileId : Int} {versionId : Nat} {previousId : Option Nat} {now : Int}

/-- An event that is added belongs to the version it is added for. -/
theorem mem_addEvents {changes : List DriftChange} {row : EventRow}
    (h : row ∈ (store.addEvents fileId versionId previousId now changes).events) :
    row ∈ store.events ∨
      (row.fileId = fileId ∧ row.versionId = versionId ∧ row.previousId = previousId) := by
  induction changes generalizing store with
  | nil => exact .inl h
  | cons change rest ih =>
    rw [addEvents, List.foldl_cons, ← addEvents] at h
    rcases ih h with h | h
    · unfold addEvent at h
      split at h
      · exact .inl h
      · rcases List.mem_append.1 h with h | h
        · exact .inl h
        · rw [List.mem_singleton.1 h]
          exact .inr ⟨rfl, rfl, rfl⟩
    · exact .inr h

/-- No version gets two events for a name. -/
theorem nodup_addEvents {changes : List DriftChange}
    (h : (store.events.map fun row => (row.versionId, row.qualifiedName)).Nodup) :
    ((store.addEvents fileId versionId previousId now changes).events.map fun row =>
      (row.versionId, row.qualifiedName)).Nodup := by
  induction changes generalizing store with
  | nil => exact h
  | cons change rest ih =>
    rw [addEvents, List.foldl_cons, ← addEvents]
    refine ih ?_
    unfold addEvent
    split
    · exact h
    · rename_i hnone
      rw [List.map_append, List.map_singleton]
      refine h.append (List.nodup_singleton _) (List.disjoint_singleton.2 fun hmem => hnone ?_)
      obtain ⟨row, hrow, hkey⟩ := List.mem_map.1 hmem
      obtain ⟨hversion, hname⟩ := Prod.mk.inj hkey
      exact List.any_eq_true.2 ⟨row, hrow, by simp [hversion, hname]⟩

theorem mem_of_latestVersion? {version : VersionRow}
    (h : store.latestVersion? fileId = some version) :
    version ∈ store.versions ∧ version.fileId = fileId := by
  have hmem : version ∈ store.versionsOf fileId := List.mem_of_getLast? h
  simpa [versionsOf] using hmem

/-- A version that is found is a version of the file it is asked for. -/
theorem mem_of_version? {number : Option Nat} {version : VersionRow}
    (h : store.version? fileId number = some version) :
    version ∈ store.versions ∧ version.fileId = fileId := by
  cases number with
  | none => exact mem_of_latestVersion? h
  | some number =>
    have hmem : version ∈ store.versionsOf fileId := List.mem_of_find?_eq_some h
    simpa [versionsOf] using hmem

end Store

open Snapshot (chapter latest?)

namespace Chronicle

variable {log : List Snapshot} {store : Store} {snapshot : Snapshot}

theorem hasFile (h : Chronicle log store) (hsnapshot : snapshot ∈ log) :
    store.HasFile snapshot.fileId := by
  obtain ⟨last, hlast⟩ := Snapshot.exists_latest? hsnapshot
  have hrow := h.files.rows snapshot.extraction.path
  rw [hlast] at hrow
  rw [h.files.same snapshot hsnapshot last hlast]
  exact List.mem_map_of_mem (List.mem_of_find?_eq_some hrow)

theorem hasVersion (h : Chronicle log store) (hsnapshot : snapshot ∈ log) :
    store.HasVersion snapshot.versionId := by
  rw [Store.HasVersion, h.tables.versions]
  exact List.mem_map_of_mem (List.mem_map_of_mem hsnapshot)

theorem hasComponent (h : Chronicle log store) (hsnapshot : snapshot ∈ log) {position : Nat}
    (hposition : position < snapshot.extraction.components.length) :
    store.HasComponent (snapshot.rowId position) := by
  have hrow := h.mem_components hsnapshot (List.getElem?_eq_getElem hposition)
  exact List.mem_map.2 ⟨_, hrow, rfl⟩

/-- The rows of facts lead to the components that the facts are about. -/
theorem hasComponent_of_factRows {α : Type} (h : Chronicle log store)
    {facts : Snapshot → List (Owned α)}
    (hfacts : ∀ other : Snapshot, Owned.Below other.extraction.components.length (facts other))
    {row : Owned α} (hrow : row ∈ log.flatMap fun other => other.factRows (facts other)) :
    store.HasComponent row.owner := by
  obtain ⟨other, hother, hrow⟩ := List.mem_flatMap.1 hrow
  obtain ⟨owned, howned, rfl⟩ := List.mem_map.1 hrow
  exact h.hasComponent hother (hfacts other owned howned)

theorem hasComponent_of_numbered {α β : Type} (h : Chronicle log store)
    {stored : Int → α → β} {facts : Snapshot → List (Owned α)}
    (hfacts : ∀ other : Snapshot, Owned.Below other.extraction.components.length (facts other))
    {row : Owned β}
    (hrow : row ∈ numbered stored (log.flatMap fun other => other.factRows (facts other))) :
    store.HasComponent row.owner := by
  obtain ⟨⟨owned, position⟩, howned, rfl⟩ := List.mem_map.1 hrow
  exact h.hasComponent_of_factRows hfacts (List.fst_mem_of_mem_zipIdx howned)

/-- Every event belongs to a version. -/
theorem events (h : Chronicle log store) :
    (store.events.map fun row => (row.versionId, row.qualifiedName)).Nodup ∧
      ∀ row ∈ store.events, ∃ version ∈ store.versions, row.fileId = version.fileId ∧
        row.versionId = version.id ∧ row.previousId = version.previousId := by
  induction h with
  | empty => exact ⟨.nil, by simp⟩
  | write snapshot _ _ _ ih =>
    refine ⟨Store.nodup_addEvents ih.1, fun row hrow => ?_⟩
    rw [Store.commit_eq]
    rcases Store.mem_addEvents hrow with hrow | hrow
    · obtain ⟨version, hversion, hsame⟩ := ih.2 row hrow
      exact ⟨version, List.mem_append_left _ hversion, hsame⟩
    · exact ⟨snapshot.version, List.mem_append_right _ (List.mem_singleton.2 rfl), hrow⟩
  | prove _ _ _ _ _ ih => exact ih
  | detect _ _ hversion ih =>
    refine ⟨Store.nodup_addEvents ih.1, fun row hrow => ?_⟩
    rw [Store.addEvents_eq]
    rcases Store.mem_addEvents hrow with hrow | ⟨hfile, hsame⟩
    · exact ih.2 row hrow
    · obtain ⟨hmem, hid⟩ := Store.mem_of_version? hversion
      exact ⟨_, hmem, hfile.trans hid.symm, hsame⟩

/-- Every proof belongs to a version. -/
theorem proofs (h : Chronicle log store) :
    ∀ row ∈ store.proofs, ∃ version ∈ store.versions, row.fileId = version.fileId ∧
      row.versionId = version.id := by
  induction h with
  | empty => simp
  | write snapshot _ _ _ ih =>
    intro row hrow
    rw [Store.commit_eq] at hrow ⊢
    obtain ⟨version, hversion, hsame⟩ := ih row hrow
    exact ⟨version, List.mem_append_left _ hversion, hsame⟩
  | @prove _ store _ file version _ parse now _ hversion ih =>
    intro row hrow
    rcases List.mem_append.1 hrow with hrow | hrow
    · exact ih row hrow
    · obtain ⟨hmem, hid⟩ := Store.mem_of_latestVersion? hversion
      rw [List.mem_singleton.1 hrow]
      exact ⟨version, hmem, hid.symm, rfl⟩
  | detect _ _ _ ih =>
    rw [Store.addEvents_eq]
    exact ih

/-- Versions of a path have different numbers, and refer to earlier versions. -/
theorem versionNumbers (h : Chronicle log store) :
    (store.versions.map fun row => (row.fileId, row.number)).Nodup := by
  rw [h.tables.versions, List.map_map, List.Nodup, List.pairwise_map]
  refine pairwise_of_split fun before first middle second after hlog hsame => ?_
  obtain ⟨hfile, hnumber⟩ := Prod.mk.inj hsame
  have hpath : first.extraction.path = second.extraction.path :=
    (h.fileId_eq_iff (by simp [hlog]) (by simp [hlog])).1 hfile
  have hfirst : first.versionNumber = _ := h.versionNumber hlog
  rw [← List.cons_append, ← List.append_assoc] at hlog
  have hsecond : second.versionNumber = _ := h.versionNumber hlog
  -- The later version counts the earlier one among those before it.
  have hmore : (chapter (before ++ first :: middle) second.extraction.path).length =
      (chapter before first.extraction.path).length +
        ((chapter middle second.extraction.path).length + 1) := by
    simp [chapter, hpath]
  have heq : first.versionNumber = second.versionNumber := hnumber
  omega

theorem previous_lt (h : Chronicle log store) (hsnapshot : snapshot ∈ log) {previous : Nat}
    (hprevious : snapshot.version.previousId = some previous) :
    previous < snapshot.versionId ∧ store.HasVersion previous := by
  obtain ⟨before, after, hlog⟩ := List.append_of_mem hsnapshot
  obtain ⟨row, hrow, rfl⟩ := Option.map_eq_some_iff.1 hprevious
  rw [(h.staged hlog).1] at hrow
  obtain ⟨old, hold, rfl⟩ := Option.map_eq_some_iff.1 hrow
  have hmem : old ∈ before := (Snapshot.mem_of_latest? hold).1
  have hapart := h.apart
  rw [hlog] at hapart
  exact ⟨((List.pairwise_append.1 hapart).2.2 old hmem snapshot (by simp)).1,
    h.hasVersion (by simp [hlog, hmem])⟩

/-- No two components of a version have the same name. -/
theorem componentNames (h : Chronicle log store) :
    (store.components.map fun row => (row.versionId, row.qualifiedName)).Nodup := by
  rw [h.tables.components]
  refine nodup_map_flatMap h.apart (fun snapshot _ => ?_) fun first second hprecedes x hx y hy => ?_
  · have hunique := (wellFormed_extract snapshot.extracted).named.unique
    refine List.pairwise_map.2 (snapshot.pairwise_rows
      (fun component position => (snapshot.componentRow component position).stored)
      (List.pairwise_map.1 hunique) ?_)
    exact fun _ _ _ _ hname hsame => hname (Prod.mk.inj hsame).2
  · obtain ⟨⟨component, position⟩, _, rfl⟩ := List.mem_map.1 hx
    obtain ⟨⟨component', position'⟩, _, rfl⟩ := List.mem_map.1 hy
    exact fun hsame => Nat.ne_of_lt hprecedes.1 (Prod.mk.inj hsame).1

/-- No two components of a version with the same parent have the same position. -/
theorem componentOrder (h : Chronicle log store) :
    (store.components.map fun row =>
      (row.versionId, row.parentId.getD 0, row.orderIndex)).Nodup := by
  rw [h.tables.components]
  refine nodup_map_flatMap h.apart (fun snapshot _ => ?_) fun first second hprecedes x hx y hy => ?_
  · have hordered := (wellFormed_extract snapshot.extracted).named.siblings_ordered
    refine List.pairwise_map.2 (snapshot.pairwise_rows
      (fun component position => (snapshot.componentRow component position).stored) hordered ?_)
    intro component position later position' hlt hsame
    obtain ⟨hparent, hindex⟩ := Prod.mk.inj (Prod.mk.inj hsame).2
    have hindices : component.orderIndex = later.orderIndex := Cell.value.inj hindex
    refine Nat.ne_of_lt (hlt ?_) hindices
    -- Row numbers begin with one, so zero stands for no parent.
    have hids : (component.parent.map snapshot.rowId).getD 0 =
        (later.parent.map snapshot.rowId).getD 0 := hparent
    cases hfirst : component.parent <;> cases hsecond : later.parent <;>
      simp_all [Staging.rowId]
  · obtain ⟨⟨component, position⟩, _, rfl⟩ := List.mem_map.1 hx
    obtain ⟨⟨component', position'⟩, _, rfl⟩ := List.mem_map.1 hy
    exact fun hsame => Nat.ne_of_lt hprecedes.1 (Prod.mk.inj hsame).1

/-- Tables with one row for every component have no two rows for one. -/
theorem nodup_rowIds {β : Type} (h : Chronicle log store)
    (row : Snapshot → Component → Nat → β) {id : β → Nat}
    (hid : ∀ snapshot component position,
      id (row snapshot component position) = snapshot.rowId position) :
    ((log.flatMap fun snapshot => snapshot.extraction.components.zipIdx.map
      fun (component, position) => row snapshot component position).map id).Nodup := by
  refine nodup_map_flatMap h.apart
    (fun snapshot _ => snapshot.nodup_rowIds (row snapshot) (hid snapshot)) ?_
  intro first second hprecedes x hx y hy
  obtain ⟨⟨component, position⟩, hplaced, rfl⟩ := List.mem_map.1 hx
  obtain ⟨⟨component', position'⟩, _, rfl⟩ := List.mem_map.1 hy
  have hposition : position < first.extraction.components.length := by
    simpa using List.snd_lt_of_mem_zipIdx hplaced
  rw [hid, hid]
  exact Nat.ne_of_lt (hprecedes.rowId_lt hposition position')

/-- No two decorators of a component have the same position. -/
theorem decoratorPositions (h : Chronicle log store) :
    (store.decorators.map fun row => (row.owner, row.fact.position)).Nodup := by
  rw [h.tables.decorators]
  refine nodup_map_flatMap h.apart (fun snapshot _ => ?_) fun first second hprecedes x hx y hy => ?_
  · have hordered := (wellFormed_extract snapshot.extracted).decorators
    refine List.pairwise_map.2 (List.pairwise_map.2 (hordered.imp fun hlt hsame => ?_))
    obtain ⟨howner, hposition⟩ := Prod.mk.inj hsame
    exact Nat.ne_of_lt (hlt (snapshot.rowId_inj.1 howner)) hposition
  · obtain ⟨owned, howned, rfl⟩ := List.mem_map.1 hx
    obtain ⟨owned', _, rfl⟩ := List.mem_map.1 hy
    have howner := (wellFormed_extract first.extracted).arena.decorators owned howned
    exact fun hsame =>
      Nat.ne_of_lt (hprecedes.rowId_lt howner owned'.owner) (Prod.mk.inj hsame).1

/-- The component of a row, with its place. -/
theorem mem_rows {β : Type} (row : Snapshot → Component → Nat → β) {x : β}
    (hx : x ∈ log.flatMap fun snapshot => snapshot.extraction.components.zipIdx.map
      fun (component, position) => row snapshot component position) :
    ∃ snapshot ∈ log, ∃ component position,
      snapshot.extraction.components[position]? = some component ∧
        position < snapshot.extraction.components.length ∧ x = row snapshot component position := by
  obtain ⟨snapshot, hsnapshot, hx⟩ := List.mem_flatMap.1 hx
  obtain ⟨⟨component, position⟩, hplaced, rfl⟩ := List.mem_map.1 hx
  have hcomponent := List.mem_zipIdx_iff_getElem?.1 hplaced
  exact ⟨snapshot, hsnapshot, component, position, hcomponent,
    (List.getElem?_eq_some_iff.1 hcomponent).1, rfl⟩

/-- Every store with a chronicle keeps the rules of the tables. -/
theorem isConsistent (h : Chronicle log store) : store.IsConsistent := by
  have harena (other : Snapshot) : other.extraction.IsArena :=
    (wellFormed_extract other.extracted).arena
  -- Events and proofs refer to versions, so this is needed for them too.
  have hversions : ∀ row ∈ store.versions, store.HasFile row.fileId ∧ store.HasVersion row.id ∧
      ∀ previous, row.previousId = some previous →
        previous < row.id ∧ store.HasVersion previous := by
    intro row hrow
    rw [h.tables.versions] at hrow
    obtain ⟨snapshot, hsnapshot, rfl⟩ := List.mem_map.1 hrow
    exact ⟨h.hasFile hsnapshot, h.hasVersion hsnapshot,
      fun _ hprevious => h.previous_lt hsnapshot hprevious⟩
  constructor
  case fileIds => exact h.files.nodup_ids
  case filePaths => exact h.files.paths
  case versionIds =>
    rw [h.tables.versions]
    exact List.pairwise_map.2 (List.pairwise_map.2 (h.apart.imp fun hprecedes =>
      Nat.ne_of_lt hprecedes.1))
  case versionNumbers => exact h.versionNumbers
  case versions => exact fun row hrow => ⟨(hversions row hrow).1, (hversions row hrow).2.2⟩
  case componentIds =>
    rw [h.tables.components]
    exact h.nodup_rowIds (fun snapshot component position =>
      (snapshot.componentRow component position).stored) fun _ _ _ => rfl
  case componentNames => exact h.componentNames
  case componentOrder => exact h.componentOrder
  case components =>
    intro row hrow
    rw [h.tables.components] at hrow
    obtain ⟨snapshot, hsnapshot, component, position, hcomponent, hposition, rfl⟩ :=
      mem_rows (fun snapshot component position =>
        (snapshot.componentRow component position).stored) hrow
    refine ⟨h.hasFile hsnapshot, h.hasVersion hsnapshot, fun parent hparent => ?_⟩
    obtain ⟨place, hplace, rfl⟩ := Option.map_eq_some_iff.1 hparent
    have hlt := (harena snapshot).parents position component hcomponent place hplace
    refine ⟨?_, h.hasComponent hsnapshot (Nat.lt_trans hlt hposition)⟩
    change snapshot.rowId place < snapshot.rowId position
    simp only [Staging.rowId]
    omega
  case segmentOwners =>
    rw [h.tables.segments]
    exact h.nodup_rowIds (fun snapshot component position =>
      Owned.mk (snapshot.rowId position) component.segment) fun _ _ _ => rfl
  case segments =>
    intro row hrow
    rw [h.tables.segments] at hrow
    obtain ⟨snapshot, hsnapshot, _, _, _, hposition, rfl⟩ :=
      mem_rows (fun snapshot component position =>
        Owned.mk (snapshot.rowId position) component.segment) hrow
    exact h.hasComponent hsnapshot hposition
  case symbols =>
    intro row hrow
    rw [h.tables.symbols] at hrow
    exact h.hasComponent_of_numbered (fun other => (harena other).symbols) hrow
  case calls =>
    intro row hrow
    rw [h.tables.calls] at hrow
    exact h.hasComponent_of_factRows (fun other => (harena other).calls) hrow
  case imports =>
    intro row hrow
    rw [h.tables.imports] at hrow
    exact h.hasComponent_of_factRows (fun other => (harena other).imports) hrow
  case globals =>
    intro row hrow
    rw [h.tables.globals] at hrow
    exact h.hasComponent_of_numbered (fun other => (harena other).globals) hrow
  case decoratorPositions => exact h.decoratorPositions
  case decorators =>
    intro row hrow
    rw [h.tables.decorators] at hrow
    exact h.hasComponent_of_factRows (fun other => (harena other).decorators) hrow
  case historyComponents =>
    rw [h.tables.history]
    exact h.nodup_rowIds (·.historyRow) fun _ _ _ => rfl
  case history =>
    intro row hrow
    rw [h.tables.history] at hrow
    obtain ⟨snapshot, hsnapshot, _, _, _, hposition, rfl⟩ := mem_rows (·.historyRow) hrow
    exact ⟨h.hasComponent hsnapshot hposition, h.hasFile hsnapshot, h.hasVersion hsnapshot⟩
  case eventNames => exact h.events.1
  case events =>
    intro row hrow
    obtain ⟨version, hversion, hfile, hid, hprevious⟩ := h.events.2 row hrow
    obtain ⟨hhasFile, hhasVersion, hhasPrevious⟩ := hversions version hversion
    rw [hfile, hid, hprevious]
    exact ⟨hhasFile, hhasVersion, fun previous hsome => (hhasPrevious previous hsome).2⟩
  case proofs =>
    intro row hrow
    obtain ⟨version, hversion, hfile, hid⟩ := h.proofs row hrow
    rw [hfile, hid]
    exact ⟨(hversions version hversion).1, (hversions version hversion).2.1⟩

end Chronicle

end SourceLedger
