import SourceLedger.Proofs.Comparison
import SourceLedger.Proofs.Fidelity

/-!
# Ingesting a text again

A text that is ingested again as it was the last time becomes a new version of its path with the
same components. It has no drift from the version before and writes no event, and every component
keeps the identity that was committed for it.

## Main statements

* `Staging.identity_of_recorded` finds the identity of a component in the version before.
* `Store.reingest_unchanged` says what ingesting a text again does.
-/

namespace SourceLedger

open Snapshot (latest?)

/-- An entry of a table in which no name stands twice is found under its name. -/
theorem IdentityTable.find?_of_mem {table : IdentityTable} (h : (table.map Prod.fst).Nodup)
    {name : String} {identity : CommittedIdentity} (hmem : (name, identity) ∈ table) :
    table.find? name = some identity := by
  -- The table is searched from its end; no entry there has the name either.
  obtain ⟨before, after, hsplit⟩ := List.append_of_mem (List.mem_reverse.2 hmem)
  refine List.lookup_eq_some_iff.2 ⟨before, after, hsplit, fun entry hentry => ?_⟩
  have hnodup : (table.reverse.map Prod.fst).Nodup := by
    rw [List.map_reverse]
    exact List.nodup_reverse.2 h
  rw [hsplit, List.map_append, List.map_cons] at hnodup
  have hnot := (List.nodup_append.1 hnodup).2.2 entry.1 (List.mem_map_of_mem hentry) name (by simp)
  exact bne_iff_ne.2 (Ne.symm hnot)

namespace Staging

variable {staging : Staging}

/-- What a version records about a component is found under the name of the component. -/
theorem find?_recorded (h : Naming.IsNamed staging.extraction.components) {component : Component}
    {position : Nat} (hcomponent : staging.extraction.components[position]? = some component) :
    staging.recorded.find? component.qualifiedName =
      some ⟨staging.rowId position, component.contentHash, component.structureHash,
        (staging.identity component).committedHash, (staging.identity component).committedAt⟩ := by
  have hnames : staging.recorded.map Prod.fst =
      staging.extraction.components.map (·.qualifiedName) := by
    rw [recorded, List.map_map]
    exact staging.map_rows staging.historyRow fun _ _ => rfl
  refine IdentityTable.find?_of_mem (hnames ▸ h.unique) ?_
  exact List.mem_map.2 ⟨staging.historyRow component position,
    List.mem_map.2 ⟨(component, position), List.mem_zipIdx_iff_getElem?.2 hcomponent, rfl⟩, rfl⟩

/-- A component that the version before has with the same tree adopts the identity that was
committed there. -/
theorem identity_of_recorded {old : Staging} (h : Naming.IsNamed old.extraction.components)
    (hrecorded : staging.identities = old.recorded) {component : Component} {position : Nat}
    (hcomponent : old.extraction.components[position]? = some component) :
    staging.identity component =
      ⟨.adopt, (old.identity component).committedHash, (old.identity component).committedAt⟩ := by
  rw [identity, IdentityTable.resolveComponent, IdentityTable.resolve, hrecorded,
    find?_recorded h hcomponent]
  exact if_pos rfl

end Staging

/-- A snapshot repeats the one it is staged on if it has the same extraction. -/
structure Snapshot.Repeats (new old : Snapshot) : Prop where
  extraction : new.extraction = old.extraction
  previous : new.previous = some old.version
  identities : new.identities = old.recorded
  drift : new.drift = Drift.compare old.extraction.facts old.extraction.facts

namespace Snapshot.Repeats

variable {new old : Snapshot}

/-- Every component adopts the identity that was committed for it. -/
theorem identity (h : new.Repeats old) {component : Component} {position : Nat}
    (hcomponent : old.extraction.components[position]? = some component) :
    new.identity component =
      ⟨.adopt, (old.identity component).committedHash, (old.identity component).committedAt⟩ :=
  Staging.identity_of_recorded (wellFormed_extract old.extracted).named h.identities hcomponent

/-- Every component is unchanged. -/
theorem changeFor (h : new.Repeats old) {component : Component}
    (hcomponent : component ∈ old.extraction.components) :
    new.drift.changeFor component.qualifiedName = .unchanged := by
  have hname : component.qualifiedName ∈ Drift.names old.extraction.facts := by
    rw [Findings.names_facts]
    exact List.mem_map_of_mem hcomponent
  obtain ⟨fact, hfact⟩ := Drift.exists_lookup? hname
  rw [h.drift, DriftReport.changeFor_compare hname, hfact, Drift.classify_self]

/-- No component is added, removed or modified. -/
theorem summary (h : new.Repeats old) :
    new.drift.changes = [] ∧
      new.drift.summary = ⟨0, 0, 0, new.extraction.components.length⟩ := by
  have hunique := (wellFormed_extract old.extracted).named.unique
  rw [← Findings.names_facts] at hunique
  have hlength : old.extraction.facts.length = old.extraction.components.length := by
    simp [Findings.facts]
  rw [h.drift, Drift.changes_compare_self, Drift.summary_compare_self hunique, hlength,
    h.extraction]
  exact ⟨rfl, rfl⟩

/-- The rows of the two versions agree in whatever only the component and its identity decide. -/
theorem map_rows {β γ : Type} (h : new.Repeats old) (row : Staging → Component → Nat → β)
    {view : β → γ}
    (hview : ∀ component position, old.extraction.components[position]? = some component →
      view (row new.toStaging component position) = view (row old.toStaging component position)) :
    (new.extraction.components.zipIdx.map fun (component, position) =>
        row new.toStaging component position).map view =
      (old.extraction.components.zipIdx.map fun (component, position) =>
        row old.toStaging component position).map view := by
  rw [h.extraction, List.map_map, List.map_map]
  apply List.map_congr_left
  rintro ⟨component, position⟩ hplaced
  exact hview component position (List.mem_zipIdx_iff_getElem?.1 hplaced)

/-- The component rows of the two versions have the same committed identities. -/
theorem committed_components (h : new.Repeats old) :
    new.componentRows.map (fun row => (row.qualifiedName, row.committedHash, row.committedAt)) =
      old.componentRows.map fun row => (row.qualifiedName, row.committedHash, row.committedAt) := by
  apply h.map_rows fun staging component position =>
    (staging.componentRow component position).stored
  intro component position hcomponent
  simp [ComponentRow.stored, Staging.componentRow, h.identity hcomponent]

/-- The history rows of the two versions have the same committed identities. -/
theorem committed_history (h : new.Repeats old) :
    new.historyRows.map (fun row => (row.qualifiedName, row.committedHash, row.committedAt)) =
      old.historyRows.map fun row => (row.qualifiedName, row.committedHash, row.committedAt) := by
  apply h.map_rows Staging.historyRow
  intro component position hcomponent
  simp [Staging.historyRow, h.identity hcomponent]

/-- Every component row says that its identity was adopted. -/
theorem resolution_componentRows (h : new.Repeats old) :
    ∀ row ∈ new.componentRows, row.resolution = Resolution.adopt.name := by
  intro row hrow
  obtain ⟨⟨component, position⟩, hplaced, rfl⟩ := List.mem_map.1 hrow
  rw [h.extraction] at hplaced
  have hidentity := h.identity (List.mem_zipIdx_iff_getElem?.1 hplaced)
  simp [ComponentRow.stored, Staging.componentRow, hidentity]

/-- Every history row says that its component is unchanged and its identity was adopted. -/
theorem resolution_historyRows (h : new.Repeats old) :
    ∀ row ∈ new.historyRows, row.resolution = .adopt ∧ row.change = .unchanged := by
  intro row hrow
  obtain ⟨⟨component, position⟩, hplaced, rfl⟩ := List.mem_map.1 hrow
  rw [h.extraction] at hplaced
  have hidentity := h.identity (List.mem_zipIdx_iff_getElem?.1 hplaced)
  have hchange := h.changeFor (List.fst_mem_of_mem_zipIdx hplaced)
  exact ⟨by simp [Staging.historyRow, hidentity], hchange⟩

end Snapshot.Repeats

/-- The snapshot that ingesting the last text of a path again writes. -/
theorem Chronicle.repeats {log : List Snapshot} {store : Store} {old : Snapshot} {path : String}
    (h : Chronicle log store) (hlatest : latest? log path = some old) (now : Int) :
    ∃ new : Snapshot, new.Repeats old ∧
      new.toStaging = store.stage ((latest? log path).map (·.fileRow)) old.extraction now ∧
      Chronicle (log ++ [new]) (store.commit new.toStaging) := by
  obtain ⟨_, rfl⟩ := Snapshot.mem_of_latest? hlatest
  obtain ⟨new, hstaged, _, _, hafter⟩ := h.commit old.extracted now
  refine ⟨new, ?_, hstaged, hafter⟩
  rw [h.stage_eq, hlatest] at hstaged
  constructor <;> rw [hstaged] <;> rfl

namespace Store

/-- After any run from the empty store, the text that was ingested last under a path can be ingested
again with the same options. That makes the next version, in which every component is unchanged and
keeps its committed identity; no event is written, and the path still gives the same text back. -/
theorem reingest_unchanged (parse : Parser) (journal : List (Operation × Int)) (path : String)
    {ingestion : Ingestion}
    (hlast : ((ingestions parse {} journal).filter (·.path == path)).getLast? = some ingestion)
    (now : Int) :
    ∃ report after,
      (replay parse {} journal).ingest parse ingestion.options path ingestion.text now =
        .ok (report, after) ∧
      report.versionNumber = ingestion.report.versionNumber + 1 ∧
      (∃ version, after.requireVersion path none = .ok version ∧
        version.id = report.versionId ∧ version.number = report.versionNumber) ∧
      report.drift = ⟨0, 0, 0, report.componentCount⟩ ∧
      after.events = (replay parse {} journal).events ∧
      (∀ row ∈ after.componentRows report.versionId, row.resolution = Resolution.adopt.name) ∧
      (∀ row ∈ after.history.filter (·.versionId == report.versionId),
        row.resolution = .adopt ∧ row.change = .unchanged) ∧
      (after.componentRows report.versionId).map
          (fun row => (row.qualifiedName, row.committedHash, row.committedAt)) =
        ((replay parse {} journal).componentRows ingestion.report.versionId).map
          (fun row => (row.qualifiedName, row.committedHash, row.committedAt)) ∧
      (after.history.filter (·.versionId == report.versionId)).map
          (fun row => (row.qualifiedName, row.committedHash, row.committedAt)) =
        ((replay parse {} journal).history.filter
            (·.versionId == ingestion.report.versionId)).map
          (fun row => (row.qualifiedName, row.committedHash, row.committedAt)) ∧
      after.reconstruct path = (replay parse {} journal).reconstruct path := by
  obtain ⟨log, hlog, hingestions, htrees⟩ := chronicle_replay parse journal
  obtain ⟨old, hlatest, rfl⟩ := Snapshot.latest?_of_ingestions hingestions hlast
  obtain ⟨hold, rfl⟩ := Snapshot.mem_of_latest? hlatest
  obtain ⟨new, hrepeats, hstaged, hafter⟩ := hlog.repeats hlatest now
  -- The parser gives the text the same tree again, so the extraction is the same too.
  have hextract : extract old.extraction.path old.text (parse old.text) old.options =
      .ok old.extraction := by
    rw [← htrees old hold]
    exact old.extracted
  have hingest := hlog.ingest_ok parse hextract now
  rw [← hstaged] at hingest
  have hnew : new ∈ log ++ [new] := by simp
  have hlatestNew : latest? (log ++ [new]) old.extraction.path = some new := by
    rw [← hrepeats.extraction]
    exact Snapshot.latest?_concat_self log new
  refine ⟨new.report, _, hingest, ?_, ⟨_, hafter.requireVersion hlatestNew, rfl, rfl⟩, ?_, ?_, ?_,
    ?_, ?_, ?_, ?_⟩
  · rw [Staging.report, Staging.versionNumber, hrepeats.previous]
    rfl
  · exact hrepeats.summary.2
  · rw [commit, hrepeats.summary.1]
    rfl
  · rw [Staging.report, hafter.componentRows hnew]
    exact hrepeats.resolution_componentRows
  · rw [Staging.report, hafter.historyRows hnew]
    exact hrepeats.resolution_historyRows
  · rw [Staging.report, hafter.componentRows hnew, hrepeats.committed_components]
    exact congrArg _ (hlog.componentRows hold).symm
  · rw [Staging.report, hafter.historyRows hnew, hrepeats.committed_history]
    exact congrArg _ (hlog.historyRows hold).symm
  · rw [hafter.reconstruct hlatestNew, hlog.reconstruct hlatest, hrepeats.extraction]

theorem reingest_unchanged_accented :
    ∃ store report after, store = replay (fun _ => Extraction.accentedTree) {}
        [(.ingest {} "a.py" Extraction.accentedText, 1)] ∧
      store.ingest (fun _ => Extraction.accentedTree) {} "a.py" Extraction.accentedText 2 =
        .ok (report, after) ∧
      report.versionNumber = 2 ∧ report.drift = ⟨0, 0, 0, report.componentCount⟩ ∧
      after.events = store.events ∧ after.reconstruct "a.py" = store.reconstruct "a.py" := by
  obtain ⟨extraction, hextract, _⟩ := Extraction.extract_accented
  have hingested := ingestions_cons_ingest
    (Chronicle.empty.ingest_ok (fun _ => Extraction.accentedTree) hextract 1) []
  obtain ⟨report, after, hingest, hnumber, _, hdrift, hevents, _, _, _, _, hreconstruct⟩ :=
    reingest_unchanged (fun _ => Extraction.accentedTree)
      [(.ingest {} "a.py" Extraction.accentedText, 1)] "a.py" (by rw [hingested]; rfl) 2
  exact ⟨_, report, after, rfl, hingest, hnumber, hdrift, hevents, hreconstruct⟩

end Store

end SourceLedger
