import SourceLedger.Proofs.Chronicle

/-!
# The tables of a store

Each table of a store is the rows of its snapshots, one block after another. The blocks lie apart:
every snapshot has a version of its own, and the rows of its components lie behind those of all
earlier ones. So whatever is asked of a version is answered from its own block alone.

## Main definitions

* `Tables` says which rows a store has.

## Main statements

* `Chronicle.tables` finds the rows of a store in its snapshots.
* `Chronicle.apart` keeps the blocks apart.
* `Chronicle.componentRows`, `Chronicle.segment?`, `Chronicle.identityTable` and `Chronicle.facts`
  read the block of a snapshot.
-/

namespace SourceLedger

/-- Facts as rows that are numbered from one. -/
def numbered {α β : Type} (stored : Int → α → β) (facts : List (Owned α)) : List (Owned β) :=
  facts.zipIdx.map fun (owned, position) => ⟨owned.owner, stored (position + 1) owned.fact⟩

/-- The rows of a store that has written some snapshots. Files, events and proofs are left out. -/
structure Tables (log : List Snapshot) (store : Store) : Prop where
  versions : store.versions = log.map (·.version)
  components : store.components = log.flatMap (·.componentRows)
  segments : store.segments = log.flatMap (·.segmentRows)
  symbols : store.symbols =
    numbered SymbolUse.stored (log.flatMap fun snapshot =>
      snapshot.factRows snapshot.extraction.symbols)
  calls : store.calls = log.flatMap fun snapshot => snapshot.factRows snapshot.extraction.calls
  imports : store.imports = log.flatMap fun snapshot =>
    snapshot.factRows snapshot.extraction.imports
  globals : store.globals =
    numbered GlobalAccess.stored (log.flatMap fun snapshot =>
      snapshot.factRows snapshot.extraction.globals)
  decorators : store.decorators = log.flatMap (·.decoratorRows)
  history : store.history = log.flatMap (·.historyRows)

/-- The next row behind some numbered ones. -/
theorem nextId_numbered {α β : Type} {stored : Int → α → β} {id : β → Int}
    (hid : ∀ number fact, id (stored number fact) = number) (facts : List (Owned α)) :
    nextId ((numbered stored facts).map fun owned => id owned.fact) = facts.length + 1 := by
  rcases List.eq_nil_or_concat facts with rfl | ⟨front, last, rfl⟩
  · rfl
  · simp [nextId, numbered, List.zipIdx_append, hid]

/-- Rows that are numbered on are numbered all together. -/
theorem numbered_append {α β : Type} {stored : Int → α → β} {id : β → Int}
    (hid : ∀ number fact, id (stored number fact) = number) (staging : Staging)
    (facts : List (Owned α)) (new : List (Owned α)) :
    numbered stored facts ++ staging.numberedRows stored
        (nextId ((numbered stored facts).map fun owned => id owned.fact)) new =
      numbered stored (facts ++ staging.factRows new) := by
  rw [nextId_numbered hid]
  simp only [numbered, Staging.numberedRows, List.zipIdx_append, List.map_append,
    List.append_cancel_left_eq, Nat.zero_add]
  rw [List.zipIdx_eq_map_add (i := facts.length), List.map_map]
  refine List.map_congr_left fun owned _ => ?_
  simp only [Function.comp_apply, Owned.mk.injEq, true_and]
  congr 1
  omega

namespace Store

/-- Adding events changes no other table. -/
theorem addEvents_eq (store : Store) (fileId : Int) (versionId : Nat) (previousId : Option Nat)
    (now : Int) (changes : List DriftChange) :
    store.addEvents fileId versionId previousId now changes =
      { store with
        events := (store.addEvents fileId versionId previousId now changes).events } := by
  induction changes generalizing store with
  | nil => rfl
  | cons change rest ih =>
    rw [addEvents, List.foldl_cons, ← addEvents, ih]
    unfold addEvent
    split <;> rfl

/-- Committing adds a version to every table. -/
theorem commit_eq (store : Store) (staging : Staging) :
    store.commit staging =
      { files := putFile store.files staging
        versions := store.versions ++ [staging.version]
        components := store.components ++ staging.componentRows
        segments := store.segments ++ staging.segmentRows
        symbols := store.symbols ++
          staging.numberedRows SymbolUse.stored (nextId (store.symbols.map (·.fact.id)))
            staging.extraction.symbols
        calls := store.calls ++ staging.factRows staging.extraction.calls
        imports := store.imports ++ staging.factRows staging.extraction.imports
        globals := store.globals ++
          staging.numberedRows GlobalAccess.stored (nextId (store.globals.map (·.fact.id)))
            staging.extraction.globals
        decorators := store.decorators ++ staging.decoratorRows
        history := store.history ++ staging.historyRows
        events := (store.commit staging).events
        proofs := store.proofs } :=
  addEvents_eq _ _ _ _ _ _

end Store

/-- The rows of a store are those of its snapshots. -/
theorem Chronicle.tables {log : List Snapshot} {store : Store} (h : Chronicle log store) :
    Tables log store := by
  induction h with
  | empty => constructor <;> rfl
  | write snapshot _ _ _ ih =>
    rw [Store.commit_eq]
    constructor
    case symbols =>
      rw [List.flatMap_append, List.flatMap_singleton, ih.symbols]
      exact numbered_append (fun _ _ => rfl) _ _ _
    case globals =>
      rw [List.flatMap_append, List.flatMap_singleton, ih.globals]
      exact numbered_append (fun _ _ => rfl) _ _ _
    case versions => simp [ih.versions]
    all_goals rw [List.flatMap_append, List.flatMap_singleton]
    case components => simp only [ih.components]
    case segments => simp only [ih.segments]
    case calls => simp only [ih.calls]
    case imports => simp only [ih.imports]
    case decorators => simp only [ih.decorators]
    case history => simp only [ih.history]
  | prove _ _ _ _ _ ih =>
    exact ⟨ih.versions, ih.components, ih.segments, ih.symbols, ih.calls, ih.imports, ih.globals,
      ih.decorators, ih.history⟩
  | detect _ _ _ ih =>
    rw [Store.addEvents_eq]
    exact ⟨ih.versions, ih.components, ih.segments, ih.symbols, ih.calls, ih.imports, ih.globals,
      ih.decorators, ih.history⟩

/-- The store as it was when a snapshot was written. -/
theorem Chronicle.past {log before after : List Snapshot} {store : Store} {snapshot : Snapshot}
    (h : Chronicle log store) (hlog : log = before ++ snapshot :: after) :
    ∃ past file, Chronicle before past ∧
      past.file? snapshot.extraction.path = .ok file ∧
      snapshot.toStaging = past.stage file snapshot.extraction snapshot.now := by
  induction h generalizing after with
  | empty => simp at hlog
  | write last hpast hfile hstaged ih =>
    -- The snapshot is the last one, or it was there before the last one was written.
    rcases List.eq_nil_or_concat after with rfl | ⟨middle, final, rfl⟩
    · obtain ⟨rfl, hsame⟩ := List.append_inj' hlog rfl
      obtain rfl := List.head_eq_of_cons_eq hsame
      exact ⟨_, _, hpast, hfile, hstaged⟩
    · rw [List.concat_eq_append, ← List.cons_append, ← List.append_assoc] at hlog
      exact ih (List.append_inj' hlog rfl).1
  | prove _ _ _ _ _ ih => exact ih hlog
  | detect _ _ _ ih => exact ih hlog

@[simp]
theorem Staging.length_componentRows (staging : Staging) :
    staging.componentRows.length = staging.extraction.components.length := by
  simp [componentRows]

/-- The rows of a snapshot begin behind the rows of all earlier ones. -/
theorem Chronicle.placed {log before after : List Snapshot} {store : Store} {snapshot : Snapshot}
    (h : Chronicle log store) (hlog : log = before ++ snapshot :: after) :
    snapshot.versionId = before.length + 1 ∧
      snapshot.componentBase = (before.flatMap (·.componentRows)).length ∧
      snapshot.historyBase = (before.flatMap (·.historyRows)).length := by
  obtain ⟨past, file, hpast, _, hstaged⟩ := h.past hlog
  rw [hstaged, ← hpast.tables.components, ← hpast.tables.history]
  refine ⟨?_, rfl, rfl⟩
  simp [Store.stage, hpast.tables.versions]

/-- A snapshot was written before another, so its version and its rows come first. -/
def Snapshot.Precedes (first second : Snapshot) : Prop :=
  first.versionId < second.versionId ∧
    first.componentBase + first.extraction.components.length ≤ second.componentBase

/-- A row of an earlier snapshot comes before the rows of a later one. -/
theorem Snapshot.Precedes.rowId_lt {first second : Snapshot} (h : first.Precedes second)
    {position : Nat} (hposition : position < first.extraction.components.length) (later : Nat) :
    first.rowId position < second.rowId later := by
  have := h.2
  simp only [Staging.rowId]
  omega

/-- What holds of any two snapshots of which one was written before the other holds pairwise. -/
theorem pairwise_of_split {log : List Snapshot} {R : Snapshot → Snapshot → Prop}
    (h : ∀ before first middle second after,
      log = before ++ first :: (middle ++ second :: after) → R first second) :
    log.Pairwise R := by
  refine List.pairwise_iff_getElem.2 fun i j hi hj hij => ?_
  have hsecond : log = log.take j ++ log[j] :: log.drop (j + 1) := by
    rw [← List.drop_eq_getElem_cons hj, List.take_append_drop]
  have hmem : log[i] ∈ log.take j := List.mem_take_iff_getElem.2 ⟨i, by omega, rfl⟩
  obtain ⟨before, middle, hbefore⟩ := List.append_of_mem hmem
  refine h before _ middle _ (log.drop (j + 1)) ?_
  rw [← List.cons_append, ← List.append_assoc, ← hbefore]
  exact hsecond

/-- The blocks of the snapshots lie apart. -/
theorem Chronicle.apart {log : List Snapshot} {store : Store} (h : Chronicle log store) :
    log.Pairwise Snapshot.Precedes := by
  refine pairwise_of_split fun before first middle second after hlog => ?_
  obtain ⟨hid, hbase, _⟩ := h.placed hlog
  rw [← List.cons_append, ← List.append_assoc] at hlog
  obtain ⟨hid', hbase', _⟩ := h.placed hlog
  simp only [List.length_append, List.length_cons, List.flatMap_append, List.flatMap_cons,
    Staging.length_componentRows] at hid' hbase'
  exact ⟨by omega, by omega⟩

/-- Of all snapshots only one has rows that are asked for. -/
theorem filter_flatMap_of_apart {β : Type} {log : List Snapshot} {snapshot : Snapshot}
    {rows : Snapshot → List β} {p : β → Bool} (h : log.Pairwise Snapshot.Precedes)
    (hsnapshot : snapshot ∈ log)
    (hothers : ∀ other ∈ log, other.Precedes snapshot ∨ snapshot.Precedes other →
      ∀ row ∈ rows other, p row = false) :
    (log.flatMap rows).filter p = (rows snapshot).filter p := by
  -- Neither the blocks in front of the snapshot nor those behind it have such rows.
  obtain ⟨before, after, rfl⟩ := List.append_of_mem hsnapshot
  obtain ⟨_, hbehind, hacross⟩ := List.pairwise_append.1 h
  have hbefore : before.flatMap (fun other => (rows other).filter p) = [] := by
    refine List.flatMap_eq_nil_iff.2 fun other hother => List.filter_eq_nil_iff.2 ?_
    intro row hrow
    have happly := hacross other hother snapshot (by simp)
    simp [hothers other (by simp [hother]) (.inl happly) row hrow]
  have hafter : after.flatMap (fun other => (rows other).filter p) = [] := by
    refine List.flatMap_eq_nil_iff.2 fun other hother => List.filter_eq_nil_iff.2 ?_
    intro row hrow
    have hprecedes := (List.pairwise_cons.1 hbehind).1 other hother
    simp [hothers other (by simp [hother]) (.inr hprecedes) row hrow]
  rw [List.filter_flatMap, List.flatMap_append, List.flatMap_cons, hbefore, hafter,
    List.nil_append, List.append_nil]

/-- What a version that is staged records about the identity of its components. -/
def Staging.recorded (staging : Staging) : IdentityTable :=
  staging.historyRows.map fun row =>
    (row.qualifiedName,
      ⟨row.componentId, row.contentHash, row.structureHash, row.committedHash, row.committedAt⟩)

/-- The facts of the component in a place of a row of components. -/
theorem Owned.select_zipIdx {α β : Type} (f : α → β) (xs : List α) (offset position : Nat) :
    Owned.select (offset + position)
        ((xs.zipIdx offset).map fun placed => ⟨placed.2, f placed.1⟩) =
      (xs[position]?.map f).toList := by
  induction xs generalizing offset position with
  | nil => rfl
  | cons x rest ih =>
    cases position with
    | zero =>
      have hrest : ((rest.zipIdx (offset + 1)).map
          fun placed => (⟨placed.2, f placed.1⟩ : Owned β)).filter (·.owner == offset) = [] := by
        refine List.filter_eq_nil_iff.2 fun owned howned => ?_
        obtain ⟨⟨y, place⟩, hplace, rfl⟩ := List.mem_map.1 howned
        have := List.le_snd_of_mem_zipIdx hplace
        simp only [beq_iff_eq]
        omega
      simp [Owned.select, List.zipIdx_cons, hrest]
    | succ position =>
      have hother : (offset == offset + (position + 1)) = false := by simp
      have hnext := ih (offset + 1) position
      rw [Nat.add_assoc, Nat.add_comm 1 position] at hnext
      simpa [Owned.select, List.zipIdx_cons, List.filter_cons, hother] using hnext

/-- The rows of a component are its facts, each with some number. -/
theorem select_numbered {α β : Type} (stored : Int → α → β) (owner : Nat)
    (facts : List (Owned α)) :
    ∃ placed : List (α × Int),
      Owned.select owner (numbered stored facts) =
          placed.map (fun (fact, number) => stored number fact) ∧
        placed.map Prod.fst = Owned.select owner facts := by
  refine ⟨(facts.zipIdx.filter (·.1.owner == owner)).map fun (owned, position) =>
    (owned.fact, (position : Int) + 1), ?_, ?_⟩
  · simp only [Owned.select, numbered, List.filter_map, List.map_map, Function.comp_def]
  · have hfst := List.filter_map (f := Prod.fst) (p := fun owned : Owned α => owned.owner == owner)
      (l := facts.zipIdx)
    rw [List.zipIdx_map_fst] at hfst
    simp only [Owned.select, hfst, List.map_map, Function.comp_def]

/-- Numbering rows does not change what is read from them. -/
theorem filterMap_select_numbered {α β γ : Type} {stored : Int → α → β} {read : β → Option γ}
    {value : α → γ} (hread : ∀ number fact, read (stored number fact) = some (value fact))
    (owner : Nat) (facts : List (Owned α)) :
    (Owned.select owner (numbered stored facts)).filterMap read =
      (Owned.select owner facts).map value := by
  obtain ⟨placed, hrows, hfacts⟩ := select_numbered stored owner facts
  have hvalues : (read ∘ fun placed : α × Int => stored placed.2 placed.1) =
      some ∘ value ∘ Prod.fst := funext fun placed => hread placed.2 placed.1
  rw [hrows, ← hfacts, List.filterMap_map, hvalues, List.filterMap_eq_map, List.map_map]

theorem Staging.select_factRows {α : Type} (staging : Staging) (facts : List (Owned α))
    (position : Nat) :
    Owned.select (staging.rowId position) (staging.factRows facts) =
      Owned.select position facts := by
  have howner (owned : Owned α) :
      (staging.rowId owned.owner == staging.rowId position) = (owned.owner == position) := by
    rw [Bool.eq_iff_iff, beq_iff_eq, beq_iff_eq]
    simp only [rowId]
    omega
  simp only [Owned.select, factRows, List.filter_map, Function.comp_def, howner, List.map_map]

namespace Chronicle

variable {log : List Snapshot} {store : Store} {snapshot : Snapshot}

/-- A version of a store is read from the rows of its snapshot. -/
theorem filter_version {β : Type} (h : Chronicle log store) (hsnapshot : snapshot ∈ log)
    {rows : Snapshot → List β} {key : β → Nat}
    (hkey : ∀ other : Snapshot, ∀ row ∈ rows other, key row = other.versionId) :
    (log.flatMap rows).filter (key · == snapshot.versionId) = rows snapshot := by
  rw [filter_flatMap_of_apart h.apart hsnapshot]
  · refine List.filter_eq_self.2 fun row hrow => ?_
    simp [hkey snapshot row hrow]
  · intro other _ hapart row hrow
    have hne : other.versionId ≠ snapshot.versionId := by
      rcases hapart with hapart | hapart
      · exact Nat.ne_of_lt hapart.1
      · exact Nat.ne_of_gt hapart.1
    simp [hkey other row hrow, hne]

theorem componentRows (h : Chronicle log store) (hsnapshot : snapshot ∈ log) :
    store.componentRows snapshot.versionId = snapshot.componentRows := by
  rw [Store.componentRows, h.tables.components]
  refine h.filter_version hsnapshot fun other row hrow => ?_
  obtain ⟨⟨component, position⟩, _, rfl⟩ := List.mem_map.1 hrow
  rfl

theorem mem_components (h : Chronicle log store) (hsnapshot : snapshot ∈ log) {position : Nat}
    {component : Component}
    (hcomponent : snapshot.extraction.components[position]? = some component) :
    (snapshot.componentRow component position).stored ∈ store.components := by
  rw [h.tables.components, List.mem_flatMap]
  refine ⟨snapshot, hsnapshot, List.mem_map.2 ⟨(component, position), ?_, rfl⟩⟩
  exact List.mem_zipIdx_iff_getElem?.2 hcomponent

theorem historyRows (h : Chronicle log store) (hsnapshot : snapshot ∈ log) :
    store.history.filter (·.versionId == snapshot.versionId) = snapshot.historyRows := by
  rw [h.tables.history]
  refine h.filter_version hsnapshot fun other row hrow => ?_
  obtain ⟨⟨component, position⟩, _, rfl⟩ := List.mem_map.1 hrow
  rfl

theorem identityTable (h : Chronicle log store) (hsnapshot : snapshot ∈ log) :
    store.identityTable snapshot.versionId = snapshot.recorded := by
  rw [Store.identityTable, h.historyRows hsnapshot]
  rfl

/-- The facts of a stored component are those of the component that it was written for. -/
theorem select_factRows {α : Type} (h : Chronicle log store) (hsnapshot : snapshot ∈ log)
    {facts : Snapshot → List (Owned α)}
    (hfacts : ∀ other : Snapshot, Owned.Below other.extraction.components.length (facts other))
    {position : Nat} (hposition : position < snapshot.extraction.components.length) :
    Owned.select (snapshot.rowId position) (log.flatMap fun other => other.factRows (facts other)) =
      Owned.select position (facts snapshot) := by
  rw [Owned.select, filter_flatMap_of_apart h.apart hsnapshot]
  · exact snapshot.select_factRows (facts snapshot) position
  · intro other _ hapart row hrow
    obtain ⟨owned, howned, rfl⟩ := List.mem_map.1 hrow
    have howner := hfacts other owned howned
    simp only [Staging.rowId, beq_eq_false_iff_ne, ne_eq]
    -- The owners of other blocks are all smaller or all larger.
    rcases hapart with hapart | hapart
    · have := hapart.2
      omega
    · have := hapart.2
      omega

/-- The stored text of a component is the text of the component that it was written for. -/
theorem segment? (h : Chronicle log store) (hsnapshot : snapshot ∈ log) {position : Nat}
    {component : Component}
    (hcomponent : snapshot.extraction.components[position]? = some component) :
    store.segment? (snapshot.rowId position) = some component.segment := by
  have hposition : position < snapshot.extraction.components.length :=
    (List.getElem?_eq_some_iff.1 hcomponent).1
  -- Texts are stored like facts, of which every component has one.
  let texts (other : Snapshot) : List (Owned Segment) :=
    other.extraction.components.zipIdx.map fun placed => ⟨placed.2, placed.1.segment⟩
  have hrows : (fun other : Snapshot => other.segmentRows) =
      fun other => other.factRows (texts other) := by
    funext other
    simp [Staging.segmentRows, Staging.factRows, texts]
  have hselect : Owned.select (snapshot.rowId position) store.segments = [component.segment] := by
    rw [h.tables.segments, hrows, h.select_factRows hsnapshot ?_ hposition]
    · have hone := Owned.select_zipIdx Component.segment snapshot.extraction.components 0 position
      rw [Nat.zero_add, hcomponent] at hone
      exact hone
    · intro other owned howned
      obtain ⟨⟨component, place⟩, hplace, rfl⟩ := List.mem_map.1 howned
      exact List.snd_lt_of_mem_zipIdx hplace
  rw [Store.segment?, ← List.head?_filter, ← List.head?_map]
  exact congrArg List.head? hselect

theorem callsOf (h : Chronicle log store) (hsnapshot : snapshot ∈ log) {position : Nat}
    (hposition : position < snapshot.extraction.components.length) :
    store.callsOf (snapshot.rowId position) =
      Owned.select position snapshot.extraction.calls := by
  rw [Store.callsOf, h.tables.calls]
  exact h.select_factRows hsnapshot
    (fun other => (wellFormed_extract other.extracted).arena.calls) hposition

theorem importsOf (h : Chronicle log store) (hsnapshot : snapshot ∈ log) {position : Nat}
    (hposition : position < snapshot.extraction.components.length) :
    store.importsOf (snapshot.rowId position) =
      Owned.select position snapshot.extraction.imports := by
  rw [Store.importsOf, h.tables.imports]
  exact h.select_factRows hsnapshot
    (fun other => (wellFormed_extract other.extracted).arena.imports) hposition

/-- Facts that were stored are the facts of the extraction. -/
theorem facts (h : Chronicle log store) (hsnapshot : snapshot ∈ log) :
    store.facts snapshot.versionId = snapshot.extraction.facts := by
  rw [Store.facts, h.componentRows hsnapshot, Staging.componentRows, List.map_map]
  refine List.map_congr_left fun placed hplaced => ?_
  obtain ⟨component, position⟩ := placed
  have hposition : position < snapshot.extraction.components.length := by
    simpa using List.snd_lt_of_mem_zipIdx hplaced
  have hsymbols := h.select_factRows hsnapshot
    (fun other => (wellFormed_extract other.extracted).arena.symbols) hposition
  simp only [Function.comp_apply, Store.factsOfRow, ComponentRow.stored, Staging.componentRow,
    h.callsOf hsnapshot hposition, h.importsOf hsnapshot hposition, h.tables.symbols,
    filterMap_select_numbered StoredSymbol.key?_stored, hsymbols, ComponentKind.ofName?_name,
    Option.getD_some]
  rfl

end Chronicle

end SourceLedger
