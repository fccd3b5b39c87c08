import SourceLedger.Proofs.Differences

/-!
# The account of a path

All files share the tables of a store and the numbers of its rows. The account of a path is what
can be asked about the path with these numbers left out: versions go by their own numbers, and
parents by their names. It is told by the story of the path alone, which is the list of its
snapshots, again without the numbers of rows.

## Main definitions

* `Store.account` is everything that can be asked about a path.
* `Snapshot.story` is the list of the snapshots of a path without the numbers of rows.
* `Account.told` is the account that a story gives.

## Main statements

* `Chronicle.account` says that a store gives the account that the story of a path tells.
-/

namespace SourceLedger

open Snapshot (chapter latest?)

/-! ### What can be asked about a path -/

/-- A version under its own number, with the number of the version before. -/
def VersionRow.relabelled (number : Nat → Nat) (row : VersionRow) : VersionRow :=
  { row with id := row.number, fileId := 0, previousId := row.previousId.map number }

/-- An event without its own number and that of its file. The numbers of versions are given anew. -/
def EventRow.relabelled (number : Nat → Nat) (row : EventRow) : EventRow :=
  { row with
    id := 0, fileId := 0, versionId := number row.versionId
    previousId := row.previousId.map number }

/-- A proof without its own number and that of its file. The number of its version is given anew. -/
def ProofRow.relabelled {σ : Type} (number : Nat → Nat) (row : ProofRow σ) : ProofRow σ :=
  { row with id := 0, fileId := 0, versionId := number row.versionId }

/-- A history entry without the numbers of its rows. Its version has the number that the file
counts. -/
def HistoryEntry.relabelled (entry : HistoryEntry) : HistoryEntry :=
  { entry with id := 0, componentId := 0, fileId := 0, versionId := entry.versionNumber }

/-- The row of a component leaves out the parent too, whose name is told apart. -/
def ComponentRow.relabelled (number : Nat → Nat) (row : ComponentRecord) : ComponentRecord :=
  { row with id := 0, fileId := 0, versionId := number row.versionId, parentId := none }

/-- What can be asked about a component. -/
structure ComponentAccount where
  row : ComponentRecord
  /-- The name of the parent, where there is a parent and it has a row. -/
  parent : Option (Option String)
  segment : Option Segment
  symbols : Except DatabaseFault (List SymbolUse)
  calls : List CallSite
  imports : List ImportRecord
  globals : Except DatabaseFault (List GlobalAccess)
  decorators : List Decorator

/-- What can be asked about a path. -/
@[ext]
structure Account where
  file : Except Failure FileRecord
  versions : List VersionRow
  components : Option Nat → Except Failure (List ComponentAccount)
  component : String → Except Failure (Option ComponentAccount)
  events : Option Nat → Except Failure (List EventRow)
  history : String → Except Failure (List HistoryEntry)
  proofs : Except Failure (List ProofRecord)
  text : Except Failure String

namespace Store

variable (store : Store)

/-- The number of a version among the versions of its file. -/
def numberOf (versionId : Nat) : Nat :=
  ((store.versions.find? (·.id == versionId)).map (·.number)).getD 0

/-- The full name of the component with some number. -/
def nameOf? (componentId : Nat) : Option String :=
  (store.components.find? (·.id == componentId)).map (·.qualifiedName)

/-- What can be asked about the component of a row. -/
def describe (row : ComponentRecord) : ComponentAccount where
  row := row.relabelled store.numberOf
  parent := row.parentId.map store.nameOf?
  segment := store.segment? row.id
  symbols := store.symbolsOf row.id
  calls := store.callsOf row.id
  imports := store.importsOf row.id
  globals := store.globalsOf row.id
  decorators := store.decoratorsOf row.id

/-- Everything that can be asked about a path, without the numbers of rows. -/
def account (path : String) : Account where
  file := (store.requireFile path).map fun file => { file with id := 0 }
  versions := (store.versionsAt path).map (·.relabelled store.numberOf)
  components number := (store.listComponents path number).map (·.map store.describe)
  component name := (store.findComponent path name).map (·.map store.describe)
  events number := (store.listEvents path number).map (·.map (·.relabelled store.numberOf))
  history name := (store.listHistory path name).map (·.map (·.relabelled))
  proofs := (store.listProofs path).map (·.map (·.relabelled store.numberOf))
  text := store.reconstruct path

/-- The proofs of a path as they are stored, without the numbers of rows. -/
def proofsAt (path : String) : List StoredProof :=
  (store.fileRow? path).elim [] fun file =>
    (store.proofs.filter (·.fileId == file.id)).map (·.relabelled store.numberOf)

end Store

/-! ### Stories -/

/-- What a version recorded, without the rows of its components. -/
def IdentityTable.unnumbered (table : IdentityTable) : IdentityTable :=
  table.map fun (name, identity) => (name, { identity with componentId := 0 })

/-- A version under its own number, without the one before. -/
def VersionRow.unnumbered (row : VersionRow) : VersionRow :=
  { row with id := row.number, fileId := 0, previousId := none }

namespace Staging

variable (staging : Staging)

/-- A version that is staged as if its file were alone in the store and this were all there is. -/
def unnumbered : Staging :=
  { staging with
    fileId := 0
    previous := staging.previous.map (·.unnumbered)
    versionId := staging.versionNumber
    identities := staging.identities.unnumbered
    componentBase := 0
    historyBase := 0 }

/-- What can be asked about the component at some position. -/
def describe (component : Component) (position : Nat) : ComponentAccount where
  row := (staging.componentRow component position).relabelled fun _ => staging.versionNumber
  parent := component.parent.map fun place =>
    staging.extraction.components[place]?.map (·.qualifiedName)
  segment := some component.segment
  symbols := .ok (Owned.select position staging.extraction.symbols)
  calls := Owned.select position staging.extraction.calls
  imports := Owned.select position staging.extraction.imports
  globals := .ok (Owned.select position staging.extraction.globals)
  decorators := Owned.select position staging.extraction.decorators

/-- What can be asked about all components, in the order of listings. -/
def listing : List ComponentAccount :=
  (staging.extraction.components.zipIdx.mergeSort fun x y =>
    (staging.componentRow x.1 x.2).stored.listedBefore
      (staging.componentRow y.1 y.2).stored).map fun placed =>
        staging.describe placed.1 placed.2

/-- What can be asked about the component with a name, if there is one. -/
def component? (name : String) : Option ComponentAccount :=
  (staging.extraction.components.zipIdx.find? (·.1.qualifiedName == name)).map fun placed =>
    staging.describe placed.1 placed.2

/-- The history entries of the component with a name. -/
def entries (name : String) : List HistoryEntry :=
  (staging.historyRows.filter (·.qualifiedName == name)).map fun row =>
    HistoryEntry.relabelled ⟨row, staging.versionNumber⟩

end Staging

/-- The snapshots of a path from the oldest, without the numbers of rows. -/
def Snapshot.story (log : List Snapshot) (path : String) : List Staging :=
  (chapter log path).map (·.unnumbered)

open Snapshot (story)

/-- The version with a number, or the last one if none is named. -/
def pick? {α : Type} (number : α → Nat) (versions : List α) : Option Nat → Option α
  | some wanted => versions.find? (number · == wanted)
  | none => versions.getLast?

namespace Account

/-- The failure to find a version of a path that is there. -/
def missing (path : String) : Option Nat → Failure
  | some number => .unknownFile s!"{path} has no version {number}"
  | none => .unknownFile path

/-- The last version of a story, which has to be there. -/
def last (path : String) (story : List Staging) : Except Failure Staging :=
  story.getLast?.elim (.error (.unknownFile path)) .ok

/-- A version of a story, which has to be there. -/
def version (path : String) (story : List Staging) (number : Option Nat) :
    Except Failure Staging := do
  let _ ← last path story
  (pick? Staging.versionNumber story number).elim (.error (missing path number)) .ok

/-- The account that a story and some proofs give of a path. -/
def told (path : String) (story : List Staging) (proofs : List StoredProof) : Account where
  file := (last path story).map (·.fileRow)
  versions := story.map (·.version)
  components number := (version path story number).map (·.listing)
  component name := (last path story).map (·.component? name)
  events
    | some number => (version path story (some number)).map (·.eventRows)
    | none => (last path story).map fun _ => story.flatMap (·.eventRows)
  history name := (last path story).map fun _ => story.flatMap (·.entries name)
  proofs := do
    let _ ← last path story
    (proofs.mapM ProofRow.read).mapError .database
  text := (last path story).map (·.extraction.reconstruct)

end Account

/-! ### Rows of a version without their numbers -/

theorem pick?_map {α β : Type} (f : α → β) (number : β → Nat) (versions : List α)
    (wanted : Option Nat) :
    pick? number (versions.map f) wanted = (pick? (number ∘ f) versions wanted).map f := by
  cases wanted with
  | some wanted => exact List.find?_map
  | none => exact List.getLast?_map

theorem mem_of_pick? {α : Type} {number : α → Nat} {versions : List α} {wanted : Option Nat}
    {x : α} (h : pick? number versions wanted = some x) : x ∈ versions := by
  cases wanted with
  | some wanted => exact List.mem_of_find?_eq_some h
  | none => exact List.mem_of_getLast? h

theorem IdentityTable.find?_unnumbered (table : IdentityTable) (name : String) :
    table.unnumbered.find? name =
      (table.find? name).map fun identity => { identity with componentId := 0 } := by
  rw [find?, find?, unnumbered, ← List.map_reverse]
  induction table.reverse with
  | nil => rfl
  | cons entry rest ih =>
    rw [List.map_cons, List.lookup_cons, List.lookup_cons]
    by_cases hname : name == entry.1
    · simp [hname]
    · simpa [hname] using ih

theorem Datum.le_natCast (m n : Nat) :
    (Datum.integer m).le (Datum.integer n) = decide (m ≤ n) := by
  have hscaled (exponent : Nat) :
      decide ((m : Int) * Nat.pow 2 exponent ≤ n * Nat.pow 2 exponent) = decide (m ≤ n) := by
    have hpos : 0 < Nat.pow 2 exponent := Nat.pow_pos (by decide)
    rw [decide_eq_decide, Int.mul_le_mul_right (Int.natCast_pos.2 hpos), Int.ofNat_le]
  simp only [Datum.le, Datum.scaled?, hscaled]

namespace Staging

variable (staging : Staging)

@[simp]
theorem versionNumber_unnumbered : staging.unnumbered.versionNumber = staging.versionNumber := by
  rw [versionNumber, versionNumber, unnumbered]
  cases staging.previous <;> rfl

@[simp]
theorem identity_unnumbered (component : Component) :
    staging.unnumbered.identity component = staging.identity component := by
  rw [identity, identity, IdentityTable.resolveComponent, IdentityTable.resolveComponent,
    IdentityTable.resolve, IdentityTable.resolve]
  rw [show staging.unnumbered.identities = staging.identities.unnumbered from rfl,
    IdentityTable.find?_unnumbered]
  cases staging.identities.find? component.qualifiedName <;> rfl

/-- Rows are listed in the same order wherever they begin. -/
theorem listedBefore_unnumbered (first second : Component) (position place : Nat) :
    (staging.unnumbered.componentRow first position).stored.listedBefore
        (staging.unnumbered.componentRow second place).stored =
      (staging.componentRow first position).stored.listedBefore
        (staging.componentRow second place).stored := by
  -- The rows of parents are shifted all alike, and zero for no parent stays in front.
  have hshift (parent other : Option Nat) :
      ((parent.map staging.unnumbered.rowId).getD 0 = (other.map staging.unnumbered.rowId).getD 0 ↔
        (parent.map staging.rowId).getD 0 = (other.map staging.rowId).getD 0) ∧
      ((parent.map staging.unnumbered.rowId).getD 0 ≤ (other.map staging.unnumbered.rowId).getD 0 ↔
        (parent.map staging.rowId).getD 0 ≤ (other.map staging.rowId).getD 0) := by
    cases parent <;> cases other <;> simp [rowId, unnumbered]
  obtain ⟨heq, hle⟩ := hshift first.parent second.parent
  simp only [ComponentRow.listedBefore, ComponentRow.stored, componentRow, Cell.datum,
    Datum.leList, Datum.le_natCast, Datum.integer.injEq, Int.natCast_inj, heq, hle]

theorem describe_unnumbered (component : Component) (position : Nat) :
    staging.unnumbered.describe component position = staging.describe component position := by
  simp only [describe, ComponentRow.relabelled, componentRow, identity_unnumbered,
    versionNumber_unnumbered]
  rfl

theorem listing_unnumbered : staging.unnumbered.listing = staging.listing := by
  simp only [listing, listedBefore_unnumbered, describe_unnumbered]
  rfl

theorem component?_unnumbered (name : String) :
    staging.unnumbered.component? name = staging.component? name := by
  simp only [component?, describe_unnumbered]
  rfl

theorem entries_unnumbered (name : String) :
    staging.unnumbered.entries name = staging.entries name := by
  simp only [entries, historyRows, List.filter_map, List.map_map, versionNumber_unnumbered]
  refine List.map_congr_left fun placed _ => ?_
  simp only [Function.comp_apply, HistoryEntry.relabelled, historyRow, identity_unnumbered]
  rfl

end Staging

/-- Proofs are read alike whatever the numbers of their rows. -/
theorem ProofRow.mapM_read_relabelled (number : Nat → Nat) (rows : List StoredProof) :
    (rows.map (·.relabelled number)).mapM ProofRow.read =
      (rows.mapM ProofRow.read).map (·.map (·.relabelled number)) := by
  have hread (row : StoredProof) :
      (row.relabelled number).read = row.read.map (·.relabelled number) := by
    simp only [ProofRow.read, relabelled, bind, Except.bind, pure, Except.pure]
    cases readWord 10 "verification status" (VerifyStatus.ofStored? · row.status.mismatch)
      row.status.verdict <;> rfl
  induction rows with
  | nil => rfl
  | cons row rest ih =>
    rw [List.map_cons, List.mapM_cons, List.mapM_cons, hread, ih]
    cases row.read with
    | error fault => rfl
    | ok record => cases rest.mapM ProofRow.read <;> rfl

namespace Chronicle

variable {log : List Snapshot} {store : Store} {snapshot last : Snapshot} {path : String}

theorem find?_version (h : Chronicle log store) (hsnapshot : snapshot ∈ log) :
    store.versions.find? (·.id == snapshot.versionId) = some snapshot.version := by
  have hmem : snapshot.version ∈ store.versions := by
    rw [h.tables.versions]
    exact List.mem_map_of_mem hsnapshot
  have hone : store.versions.filter (·.id == snapshot.versionId) = [snapshot.version] :=
    filter_key_eq_singleton h.isConsistent.versionIds hmem
  rw [← List.head?_filter, hone]
  rfl

theorem numberOf (h : Chronicle log store) (hsnapshot : snapshot ∈ log) :
    store.numberOf snapshot.versionId = snapshot.versionNumber := by
  rw [Store.numberOf, h.find?_version hsnapshot]
  rfl

theorem numberOf_previous (h : Chronicle log store) (hsnapshot : snapshot ∈ log) :
    (snapshot.previous.map (·.id)).map store.numberOf = snapshot.previous.map (·.number) := by
  rcases h.first_or_follows hsnapshot with hfirst | ⟨old, hold, hfollows⟩
  · rw [hfirst.previous]
    rfl
  · rw [hfollows.previous]
    exact congrArg some (h.numberOf hold)

theorem nameOf? (h : Chronicle log store) (hsnapshot : snapshot ∈ log) {place : Nat}
    {component : Component} (hplace : snapshot.extraction.components[place]? = some component) :
    store.nameOf? (snapshot.rowId place) = some component.qualifiedName := by
  have hone : store.components.filter (·.id == snapshot.rowId place) =
      [(snapshot.componentRow component place).stored] :=
    filter_key_eq_singleton h.isConsistent.componentIds (h.mem_components hsnapshot hplace)
  rw [Store.nameOf?, ← List.head?_filter, hone]
  rfl

theorem relabelled_version (h : Chronicle log store) (hsnapshot : snapshot ∈ log) :
    snapshot.version.relabelled store.numberOf = snapshot.unnumbered.version := by
  have hprevious := h.numberOf_previous hsnapshot
  simp only [VersionRow.relabelled, Staging.version, hprevious, Staging.versionNumber_unnumbered]
  simp [Staging.unnumbered, VersionRow.unnumbered, Function.comp_def]

theorem relabelled_eventRows (h : Chronicle log store) (hsnapshot : snapshot ∈ log) :
    snapshot.eventRows.map (·.relabelled store.numberOf) = snapshot.unnumbered.eventRows := by
  have hprevious := h.numberOf_previous hsnapshot
  simp only [Staging.eventRows, List.map_map]
  refine List.map_congr_left fun change _ => ?_
  simp only [Function.comp_apply, EventRow.relabelled, DriftChange.event, hprevious,
    h.numberOf hsnapshot]
  simp [Staging.unnumbered, VersionRow.unnumbered, Function.comp_def]

/-- What a store answers about a component is what its extraction has. -/
theorem describe (h : Chronicle log store) (hsnapshot : snapshot ∈ log) {position : Nat}
    {component : Component}
    (hcomponent : snapshot.extraction.components[position]? = some component) :
    store.describe (snapshot.componentRow component position) =
      snapshot.describe component position := by
  have hanswers := h.answers hsnapshot hcomponent
  have harena := (wellFormed_extract snapshot.extracted).arena
  have hposition := (List.getElem?_eq_some_iff.1 hcomponent).1
  have hparent : (component.parent.map snapshot.rowId).map store.nameOf? =
      component.parent.map fun place =>
        snapshot.extraction.components[place]?.map (·.qualifiedName) := by
    cases hplace : component.parent with
    | none => rfl
    | some place =>
      have hlt := harena.parents position component hcomponent place hplace
      have hfound := List.getElem?_eq_getElem (Nat.lt_trans hlt hposition)
      rw [Option.map_some, Option.map_some, Option.map_some, h.nameOf? hsnapshot hfound, hfound]
      rfl
  have hnumber : (snapshot.componentRow component position).relabelled store.numberOf =
      (snapshot.componentRow component position).relabelled fun _ => snapshot.versionNumber := by
    simp only [ComponentRow.relabelled]
    rw [show (snapshot.componentRow component position).versionId = snapshot.versionId from rfl,
      h.numberOf hsnapshot]
  rw [Store.describe, Staging.describe, hnumber]
  congr 1
  · exact hanswers.segment
  · exact hanswers.symbols
  · exact hanswers.calls
  · exact hanswers.imports
  · exact hanswers.globals
  · exact hanswers.decorators

theorem listing (h : Chronicle log store) (hsnapshot : snapshot ∈ log) :
    ∃ rows, store.componentsOf snapshot.versionId = .ok rows ∧
      rows.map store.describe = snapshot.unnumbered.listing := by
  have hsorted := List.map_mergeSort (l := snapshot.extraction.components.zipIdx)
    (f := fun placed => snapshot.componentRow placed.1 placed.2)
    (r := fun x y => (snapshot.componentRow x.1 x.2).stored.listedBefore
      (snapshot.componentRow y.1 y.2).stored)
    (s := fun x y => x.stored.listedBefore y.stored) fun _ _ _ _ => rfl
  refine ⟨_, h.componentsOf hsnapshot, ?_⟩
  have hrecords : snapshot.records.mergeSort (fun x y => x.stored.listedBefore y.stored) = _ :=
    hsorted.symm
  rw [hrecords, Staging.listing_unnumbered, List.map_map]
  refine List.map_congr_left fun placed hplaced => ?_
  have hmem := (List.mergeSort_perm _ _).mem_iff.1 hplaced
  exact h.describe hsnapshot (List.mem_zipIdx_iff_getElem?.1 hmem)

theorem described_component? (h : Chronicle log store) (hsnapshot : snapshot ∈ log)
    (name : String) :
    ∃ row, store.component? snapshot.versionId name = .ok row ∧
      row.map store.describe = snapshot.unnumbered.component? name := by
  refine ⟨_, h.component? hsnapshot name, ?_⟩
  rw [Staging.component?_unnumbered, Staging.component?, Staging.records, List.find?_map]
  change Option.map store.describe (Option.map _ (snapshot.extraction.components.zipIdx.find?
    (·.1.qualifiedName == name))) = _
  cases hfound : snapshot.extraction.components.zipIdx.find? (·.1.qualifiedName == name) with
  | none => rfl
  | some placed =>
    have hmem := List.mem_of_find?_eq_some hfound
    exact congrArg some (h.describe hsnapshot (List.mem_zipIdx_iff_getElem?.1 hmem))

/-- Rows that have the file of their snapshot are found under the path of the snapshot. -/
theorem filter_file {β : Type} (h : Chronicle log store) (hsnapshot : snapshot ∈ log)
    {rows : Snapshot → List β} (fileId : β → Int) (p : β → Bool)
    (hfile : ∀ other : Snapshot, ∀ row ∈ rows other, fileId row = other.fileId) :
    (log.flatMap rows).filter (fun row => fileId row == snapshot.fileId && p row) =
      (chapter log snapshot.extraction.path).flatMap fun other => (rows other).filter p := by
  have hone : ∀ other ∈ log,
      (rows other).filter (fun row => fileId row == snapshot.fileId && p row) =
        if other.extraction.path == snapshot.extraction.path then (rows other).filter p
        else [] := by
    intro other hother
    by_cases hpath : other.extraction.path = snapshot.extraction.path
    · rw [if_pos (beq_iff_eq.2 hpath)]
      refine List.filter_congr fun row hrow => ?_
      rw [hfile other row hrow, (h.fileId_eq_iff hother hsnapshot).2 hpath]
      simp
    · rw [if_neg (by simpa using hpath), List.filter_eq_nil_iff]
      intro row hrow hsame
      have hid := (Bool.and_eq_true_iff.1 hsame).1
      rw [hfile other row hrow, beq_iff_eq] at hid
      exact hpath ((h.fileId_eq_iff hother hsnapshot).1 hid)
  rw [List.filter_flatMap, List.flatMap_congr hone, chapter]
  clear hone hsnapshot h
  induction log with
  | nil => rfl
  | cons other rest ih =>
    rw [List.flatMap_cons, ih, List.filter_cons]
    split
    · rw [List.flatMap_cons]
    · rfl

/-- All events of a path are those of its story. -/
theorem eventsOf (h : Chronicle log store) (hsnapshot : snapshot ∈ log) :
    (store.eventsOf snapshot.fileId none).map (·.relabelled store.numberOf) =
      (story log snapshot.extraction.path).flatMap (·.eventRows) := by
  let events := store.events.filter fun row => row.fileId == snapshot.fileId && true
  have hrows : events.map EventRow.unnumbered =
      (chapter log snapshot.extraction.path).flatMap (·.eventRows) := by
    have hfilter := List.filter_map (f := EventRow.unnumbered) (l := store.events)
      (p := fun row => row.fileId == snapshot.fileId && true)
    refine hfilter.symm.trans ?_
    rw [h.eventRows, h.filter_file hsnapshot EventRow.fileId]
    · simp
    · intro other row hrow
      obtain ⟨change, _, rfl⟩ := List.mem_map.1 hrow
      rfl
  -- Versions of the path have their numbers in order, and each has its events in order.
  have hsorted : ((chapter log snapshot.extraction.path).flatMap (·.eventRows)).Pairwise
      fun x y => x.listedBefore y := by
    refine List.pairwise_flatMap.2 ⟨?_, (h.apart.filter _).imp ?_⟩
    · intro other hother
      exact h.sorted_eventRows (List.mem_filter.1 hother).1
    · intro first second hprecedes x hx y hy
      obtain ⟨change, _, rfl⟩ := List.mem_map.1 hx
      obtain ⟨change', _, rfl⟩ := List.mem_map.1 hy
      simp [EventRow.listedBefore, DriftChange.event, hprecedes.1]
  rw [← hrows, List.pairwise_map] at hsorted
  have hlisted : store.eventsOf snapshot.fileId none = events :=
    List.mergeSort_of_pairwise hsorted
  have hrelabelled : events.map (·.relabelled store.numberOf) =
      (events.map EventRow.unnumbered).map (·.relabelled store.numberOf) := by
    rw [List.map_map]
    rfl
  rw [hlisted, hrelabelled, hrows, List.map_flatMap, story, List.flatMap_map]
  refine List.flatMap_congr fun other hother => ?_
  exact h.relabelled_eventRows (List.mem_filter.1 hother).1

theorem historyOf (h : Chronicle log store) (hsnapshot : snapshot ∈ log) (name : String) :
    (store.historyOf snapshot.fileId name).map (·.relabelled) =
      (story log snapshot.extraction.path).flatMap (·.entries name) := by
  have hversion : ∀ other ∈ log, ∀ row ∈ other.historyRows,
      (store.versions.find? (·.id == row.versionId)).map
          (fun version => (⟨row, version.number⟩ : HistoryEntry)) =
        some ⟨row, other.versionNumber⟩ := by
    intro other hother row hrow
    obtain ⟨⟨component, position⟩, _, rfl⟩ := List.mem_map.1 hrow
    exact congrArg (Option.map _) (h.find?_version hother)
  rw [Store.historyOf, h.tables.history, h.filter_file hsnapshot HistoryRow.fileId]
  · rw [List.filterMap_flatMap, List.map_flatMap, story, List.flatMap_map]
    refine List.flatMap_congr fun other hother => ?_
    rw [Staging.entries_unnumbered, Staging.entries]
    have hmem := (List.mem_filter.1 hother).1
    rw [List.filterMap_congr (g := fun row => some ⟨row, other.versionNumber⟩)
      fun row hrow => hversion other hmem row (List.mem_filter.1 hrow).1]
    rw [List.filterMap_eq_map', List.map_map]
    rfl
  · intro other row hrow
    obtain ⟨⟨component, position⟩, _, rfl⟩ := List.mem_map.1 hrow
    rfl

/-- A version of a path is looked up among its snapshots. -/
theorem requireVersion_eq (h : Chronicle log store) (hlatest : latest? log path = some last)
    (number : Option Nat) :
    store.requireVersion path number =
      (pick? (·.versionNumber) (chapter log path) number).elim
        (.error (Account.missing path number)) fun found => .ok found.version := by
  obtain ⟨hlast, rfl⟩ := Snapshot.mem_of_latest? hlatest
  have hfound : store.version? last.fileId number =
      (pick? (·.versionNumber) (chapter log last.extraction.path) number).map (·.version) := by
    have hpick := pick?_map (fun found : Snapshot => found.version) VersionRow.number
      (chapter log last.extraction.path) number
    rw [← h.versionsOf hlast] at hpick
    cases number <;> exact hpick
  have hid : last.fileRow.id = last.fileId := rfl
  simp only [Store.requireVersion, h.requireFile hlatest, bind, Except.bind, hid, hfound]
  cases pick? (·.versionNumber) (chapter log last.extraction.path) number with
  | some found => rfl
  | none => cases number <;> rfl

theorem last_story (hlatest : latest? log path = some last) :
    Account.last path (story log path) = .ok last.unnumbered := by
  have hgetLast : (story log path).getLast? = some last.unnumbered := by
    rw [story, List.getLast?_map]
    exact congrArg _ hlatest
  rw [Account.last, hgetLast]
  rfl

theorem version_story (hlatest : latest? log path = some last) (number : Option Nat) :
    Account.version path (story log path) number =
      (pick? (·.versionNumber) (chapter log path) number).elim
        (.error (Account.missing path number)) fun found => .ok found.unnumbered := by
  have hnumber : (Staging.versionNumber ∘ fun found : Snapshot => found.unnumbered) =
      fun found => found.versionNumber := by
    funext found
    exact found.versionNumber_unnumbered
  simp only [Account.version, last_story hlatest, bind, Except.bind]
  rw [story, pick?_map, hnumber]
  cases pick? (fun found : Snapshot => found.versionNumber) (chapter log path) number <;> rfl

theorem proofsAt_of_latest? (h : Chronicle log store) (hlatest : latest? log path = some last) :
    store.proofsAt path =
      (store.proofs.filter (·.fileId == last.fileId)).map (·.relabelled store.numberOf) := by
  rw [Store.proofsAt, h.files.rows, hlatest]
  rfl

theorem proofsAt_of_none (h : Chronicle log store) (hlatest : latest? log path = none) :
    store.proofsAt path = [] := by
  rw [Store.proofsAt, h.files.rows, hlatest]
  rfl

theorem versionsAt_told (h : Chronicle log store) (hlatest : latest? log path = some last) :
    (store.versionsAt path).map (·.relabelled store.numberOf) =
      (story log path).map (·.version) := by
  obtain ⟨hlast, rfl⟩ := Snapshot.mem_of_latest? hlatest
  have hversions : store.versionsAt last.extraction.path =
      (chapter log last.extraction.path).map (·.version) := by
    rw [Store.versionsAt, h.files.rows, hlatest]
    exact h.versionsOf hlast
  rw [hversions, story, List.map_map, List.map_map]
  refine List.map_congr_left fun snapshot hsnapshot => ?_
  exact h.relabelled_version (List.mem_filter.1 hsnapshot).1

theorem listComponents_told (h : Chronicle log store) (hlatest : latest? log path = some last)
    (number : Option Nat) :
    (store.listComponents path number).map (·.map store.describe) =
      (Account.version path (story log path) number).map (·.listing) := by
  rw [Store.listComponents, h.requireVersion_eq hlatest, version_story hlatest]
  cases hpick : pick? (·.versionNumber) (chapter log path) number with
  | none => rfl
  | some found =>
    obtain ⟨rows, hrows, hlisting⟩ := h.listing (List.mem_filter.1 (mem_of_pick? hpick)).1
    change store.componentsOf found.version.id = .ok rows at hrows
    simp only [Option.elim_some, bind, Except.bind, hrows]
    exact congrArg Except.ok hlisting

theorem listEvents_told (h : Chronicle log store) (hlatest : latest? log path = some last)
    (number : Nat) :
    (store.listEvents path (some number)).map (·.map (·.relabelled store.numberOf)) =
      (Account.version path (story log path) (some number)).map (·.eventRows) := by
  rw [version_story hlatest]
  cases hpick : pick? (·.versionNumber) (chapter log path) (some number) with
  | none =>
    simp only [Store.listEvents, h.requireFile hlatest, h.requireVersion_eq hlatest, hpick, bind,
      Except.bind]
    rfl
  | some found =>
    obtain ⟨hfound, hpath⟩ := List.mem_filter.1 (mem_of_pick? hpick)
    have hnumber : found.versionNumber = number := by simpa using List.find?_some hpick
    obtain ⟨events, hevents, hrows⟩ := h.listEvents hfound
    rw [beq_iff_eq.1 hpath, hnumber] at hevents
    simp only [hevents, Option.elim_some, Except.map]
    rw [← h.relabelled_eventRows hfound, ← hrows, List.map_map]
    rfl

theorem listProofs_told (h : Chronicle log store) (hlatest : latest? log path = some last) :
    (store.listProofs path).map (·.map (·.relabelled store.numberOf)) =
      ((store.proofsAt path).mapM ProofRow.read).mapError .database := by
  rw [h.proofsAt_of_latest? hlatest, ProofRow.mapM_read_relabelled]
  simp only [Store.listProofs, h.requireFile hlatest, bind, Except.bind]
  change ((store.proofs.filter (·.fileId == last.fileId)).mapM ProofRow.read |>.mapError _).map _ =
    _
  cases (store.proofs.filter (·.fileId == last.fileId)).mapM ProofRow.read <;> rfl

/-- A path that was never written has nothing to tell. -/
theorem account_of_none (h : Chronicle log store) (hlatest : latest? log path = none) :
    store.account path = Account.told path (story log path) (store.proofsAt path) := by
  have hrequire : store.requireFile path = .error (.unknownFile path) := by
    rw [Store.requireFile, h.file?, hlatest]
    rfl
  have hrow : store.fileRow? path = none := by
    rw [h.files.rows, hlatest]
    rfl
  have hstory : story log path = [] := by
    rw [story, List.getLast?_eq_none_iff.1 hlatest]
    rfl
  rw [hstory]
  -- Whatever is asked first asks for the file.
  ext1
  case versions => simp [Store.account, Store.versionsAt, hrow, Account.told]
  case events =>
    funext number
    cases number <;> simp [Store.account, Store.listEvents, hrequire, Account.told,
      Account.version, Account.last, bind, Except.bind, Except.map]
  all_goals
    simp [Store.account, Store.listComponents, Store.findComponent, Store.listHistory,
      Store.listProofs, Store.reconstruct, Store.requireVersion, hrequire, Account.told,
      Account.version, Account.last, bind, Except.bind, Except.map]

/-- A path that was written has its last snapshot to begin with. -/
theorem account_of_latest (h : Chronicle log store) (hlatest : latest? log path = some last) :
    store.account path = Account.told path (story log path) (store.proofsAt path) := by
  have hrequire := h.requireFile hlatest
  have hstory := last_story hlatest
  ext1
  case versions => exact h.versionsAt_told hlatest
  case components =>
    funext number
    exact h.listComponents_told hlatest number
  case events =>
    funext number
    cases number with
    | some number => exact h.listEvents_told hlatest number
    | none =>
      obtain ⟨hlast, rfl⟩ := Snapshot.mem_of_latest? hlatest
      simp only [Store.account, Store.listEvents, hrequire, Account.told, hstory, bind,
        Except.bind, pure, Except.pure]
      exact congrArg Except.ok (h.eventsOf hlast)
  case proofs =>
    simp only [Account.told, hstory, bind, Except.bind]
    exact h.listProofs_told hlatest
  -- The others ask for the file or for its last version, and then for one thing.
  all_goals
    obtain ⟨hlast, rfl⟩ := Snapshot.mem_of_latest? hlatest
    simp only [Account.told, hstory]
  case file =>
    simp only [Store.account, hrequire]
    rfl
  case component =>
    funext name
    obtain ⟨row, hfound, hcomponent⟩ := h.described_component? hlast name
    change store.component? last.version.id name = .ok row at hfound
    simp only [Store.account, Store.findComponent, h.requireVersion hlatest, bind, Except.bind,
      hfound]
    exact congrArg Except.ok hcomponent
  case history =>
    funext name
    simp only [Store.account, Store.listHistory, hrequire, bind, Except.bind, pure, Except.pure]
    exact congrArg Except.ok (h.historyOf hlast name)
  case text => exact h.reconstruct hlatest

/-- A store gives the account that the story of a path tells, whatever else it holds. -/
theorem account (h : Chronicle log store) (path : String) :
    store.account path = Account.told path (story log path) (store.proofsAt path) := by
  cases hlatest : latest? log path with
  | none => exact h.account_of_none hlatest
  | some last => exact h.account_of_latest hlatest

end Chronicle

end SourceLedger
