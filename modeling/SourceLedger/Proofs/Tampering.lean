import SourceLedger.Proofs.Readback
import SourceLedger.Store.Edit

/-!
# Verification of a store that was tampered with

Stored texts can be changed from outside. A verification still succeeds then: it puts the changed
texts together, compares them with the digests that were recorded when the version was written, and
adds one proof, which reads back as the outcome says. The version passes exactly if the text that is
put together is the one that was ingested, as long as the two do not collide.

## Main definitions

* `Store.tampered` is a store after the stored texts of components were replaced.
* `VerifyOutcome.Reports` says what an outcome has to tell about a text and two recorded digests.
* `ProofRow.Attests` says that a proof repeats an outcome.
-/

namespace SourceLedger

open Snapshot (latest?)

/-- What the outcome of a verification has to say, where `rebuilt` is the text that was put
together, `tree` its tree, and `raw` and `structural` are the digests that were recorded. -/
structure VerifyOutcome.Reports (outcome : VerifyOutcome) (rebuilt : String) (tree : Syntax.Tree)
    (raw structural : String) : Prop where
  rawHash : outcome.rawHash = digest rebuilt
  treeHash : outcome.treeHash =
    if tree.root.attributes.hasFault then none else some (digest (tree.root.canonical rebuilt))
  rawMatch : outcome.rawMatch = true ↔ digest rebuilt = raw
  treeMatch : outcome.treeMatch = true ↔ outcome.treeHash = some structural
  matched : outcome.matched = true ↔ outcome.rawMatch = true ∧ outcome.treeMatch = true
  pass : outcome.matched = true ↔ outcome.status = .pass
  formattingDrift : outcome.status = .formattingDrift ↔
    tree.root.attributes.hasFault = false ∧ digest (tree.root.canonical rebuilt) = structural ∧
      digest rebuilt ≠ raw
  structuralDrift : outcome.status = .structuralDrift ↔
    tree.root.attributes.hasFault = true ∨ digest (tree.root.canonical rebuilt) ≠ structural

/-- A proof repeats the digests, the matches and the status of an outcome. -/
structure ProofRow.Attests (proof : ProofRecord) (outcome : VerifyOutcome) : Prop where
  fileId : proof.fileId = outcome.fileId
  rebuiltRawHash : proof.rebuiltRawHash = outcome.rawHash
  rebuiltTreeHash : proof.rebuiltTreeHash = outcome.treeHash
  rawMatch : proof.rawMatch = outcome.rawMatch
  treeMatch : proof.treeMatch = outcome.treeMatch
  matched : proof.matched = outcome.matched
  status : proof.status = outcome.status

section Status

variable {rawMatch treeMatch : Bool}

theorem VerifyStatus.ofMatches_eq_pass :
    ofMatches rawMatch treeMatch = .pass ↔ rawMatch = true ∧ treeMatch = true := by
  revert rawMatch treeMatch
  decide

theorem VerifyStatus.ofMatches_eq_formattingDrift :
    ofMatches rawMatch treeMatch = .formattingDrift ↔ treeMatch = true ∧ rawMatch = false := by
  revert rawMatch treeMatch
  decide

theorem VerifyStatus.ofMatches_eq_structuralDrift :
    ofMatches rawMatch treeMatch = .structuralDrift ↔ treeMatch = false := by
  revert rawMatch treeMatch
  decide

end Status

/-- A text has a digest of its tree unless it does not parse. -/
theorem toOption_treeDigest (path text : String) (tree : Syntax.Tree) :
    (treeDigest path text tree).toOption =
      if tree.root.attributes.hasFault then none else some (digest (tree.root.canonical text)) := by
  unfold treeDigest checkTree
  split <;> rfl

namespace Store

variable (store : Store) (change : Owned Segment → Segment)

/-- A store in which the stored texts of components were replaced. Every row has its own number, so
that `change` can give each of them any text. -/
def tampered : Store :=
  { store with segments := store.segments.map fun row => ⟨row.owner, change row⟩ }

/-- Replacing a piece of text from outside is a way to tamper with a store. -/
theorem exists_replaceText_eq (piece replacement : String) :
    ∃ change, (store.replaceText piece replacement).1 = store.tampered change := by
  let replaced (text : String) : String :=
    if piece.toList.head? = some '\x00' then text
    else String.ofList (replacePiece piece.toList replacement.toList 0 text.toList)
  refine ⟨fun row => if containsPiece piece.toList row.fact.text.toList then
    { row.fact with text := replaced row.fact.text } else row.fact, ?_⟩
  refine congrArg (fun segments => { store with segments }) (List.map_congr_left fun row _ => ?_)
  dsimp only
  split <;> rfl

/-- A verification adds one proof, which repeats its outcome beside the digests of the version. The
matches are found twice, by the examination and for the proof, from the same digests. -/
theorem exists_addProof_eq (parse : Parser) (file : FileRecord) (version : VersionRow)
    (now : Int) :
    ∃ proof : ProofRecord,
      store.addProof version (store.examine parse file version) now =
          { store with proofs := store.proofs ++ [proof.stored] } ∧
        proof.Attests (store.examine parse file version) ∧ proof.versionId = version.id ∧
        proof.recordedRawHash = version.rawHash ∧ proof.recordedTreeHash = version.treeHash :=
  ⟨_, rfl, ⟨rfl, rfl, rfl, BEq.comm, rfl, rfl, rfl⟩, rfl, rfl, rfl⟩

/-- An outcome says what it has to about the stored texts of a version. -/
theorem examine_reports (parse : Parser) (file : FileRecord) (version : VersionRow) :
    (store.examine parse file version).Reports (store.rebuilt version.id)
      (parse (store.rebuilt version.id)) version.rawHash version.treeHash := by
  set text := store.rebuilt version.id with htext
  have htree : (store.examine parse file version).treeHash =
      if (parse text).root.attributes.hasFault then none
      else some (digest ((parse text).root.canonical text)) :=
    toOption_treeDigest file.path text (parse text)
  have hraw : (store.examine parse file version).rawMatch = true ↔
      digest text = version.rawHash := beq_iff_eq
  have hmatch : (store.examine parse file version).treeMatch = true ↔
      (store.examine parse file version).treeHash = some version.treeHash := beq_iff_eq
  have hpass : (store.examine parse file version).matched = true ↔
      (store.examine parse file version).status = .pass := decide_eq_true_iff
  refine ⟨rfl, htree, hraw, hmatch, ?_, hpass, ?_, ?_⟩
  · rw [hpass]
    exact VerifyStatus.ofMatches_eq_pass
  · rw [VerifyOutcome.status, VerifyStatus.ofMatches_eq_formattingDrift, hmatch, htree,
      ← Bool.not_eq_true, hraw]
    cases (parse text).root.attributes.hasFault <;> simp
  · rw [VerifyOutcome.status, VerifyStatus.ofMatches_eq_structuralDrift, ← Bool.not_eq_true,
      hmatch, htree]
    cases (parse text).root.attributes.hasFault <;> simp

end Store

namespace Chronicle

variable {log : List Snapshot} {store : Store} {snapshot : Snapshot} {path : String}

/-- Every proof of a store was written by a verification. -/
theorem proofs_eq_map_stored (h : Chronicle log store) :
    ∃ records : List ProofRecord, store.proofs = records.map (·.stored) := by
  induction h with
  | empty => exact ⟨[], rfl⟩
  | write snapshot _ _ _ ih =>
    rw [Store.commit_eq]
    exact ih
  | @prove _ store _ file version _ parse now _ _ ih =>
    obtain ⟨records, hrecords⟩ := ih
    obtain ⟨proof, hproof, _⟩ :=
      store.exists_addProof_eq parse file version now
    refine ⟨records ++ [proof], ?_⟩
    rw [hproof, List.map_append, ← hrecords]
    rfl
  | detect _ _ _ ih =>
    rw [Store.addEvents_eq]
    exact ih

theorem segment?_tampered (h : Chronicle log store) (hsnapshot : snapshot ∈ log) {position : Nat}
    {component : Component}
    (hcomponent : snapshot.extraction.components[position]? = some component)
    (change : Owned Segment → Segment) :
    (store.tampered change).segment? (snapshot.rowId position) =
      some (change ⟨snapshot.rowId position, component.segment⟩) := by
  obtain ⟨row, hrow, hfact⟩ := Option.map_eq_some_iff.1 (h.segment? hsnapshot hcomponent)
  have howner : row.owner = snapshot.rowId position := by simpa using List.find?_some hrow
  have hmoved : (fun owned : Owned Segment => owned.owner == snapshot.rowId position) ∘
      (fun owned => ⟨owned.owner, change owned⟩) =
        fun owned : Owned Segment => owned.owner == snapshot.rowId position := rfl
  rw [Store.segment?, Store.tampered, List.find?_map, hmoved, hrow]
  rw [Option.map_some, Option.map_some, ← hfact, ← howner]

/-- The text that is put together from the changed texts of a version. -/
theorem rebuilt_tampered (h : Chronicle log store) (hsnapshot : snapshot ∈ log)
    (change : Owned Segment → Segment) :
    (store.tampered change).rebuilt snapshot.versionId =
      Segment.join ((snapshot.extraction.components.zipIdx.filter (·.1.parent.isNone)).map
        fun placed => change ⟨snapshot.rowId placed.2, placed.1.segment⟩) := by
  refine congrArg Segment.join ?_
  have hrows := h.topLevelRows hsnapshot
  rw [← List.filterMap_eq_map]
  change (List.mergeSort _ _).filterMap _ = _
  rw [show (store.tampered change).componentRows snapshot.versionId =
    store.componentRows snapshot.versionId from rfl, hrows, List.filterMap_map]
  refine List.filterMap_congr fun placed hplaced => ?_
  exact h.segment?_tampered hsnapshot
    (List.mem_zipIdx_iff_getElem?.1 (List.mem_filter.1 hplaced).1) change

/-- A verification does not ask for stored texts until the version is found. -/
theorem verify_tampered (h : Chronicle log store) (hlatest : latest? log path = some snapshot)
    (change : Owned Segment → Segment) (parse : Parser) (now : Int) :
    (store.tampered change).verify parse path now =
      .ok ((store.tampered change).examine parse snapshot.fileRow snapshot.version,
        (store.tampered change).addProof snapshot.version
          ((store.tampered change).examine parse snapshot.fileRow snapshot.version) now) := by
  have hfile : (store.tampered change).fileById? snapshot.fileRow.id =
      .ok (some snapshot.fileRow) := h.fileById? hlatest
  have hversion : (store.tampered change).latestVersion? snapshot.fileRow.id =
      some snapshot.version := h.latestVersion?_of_latest? hlatest
  have hrequire : (store.tampered change).requireFile path = .ok snapshot.fileRow :=
    h.requireFile hlatest
  simp only [Store.verify, hrequire, bind, Except.bind, Store.verifyFile, hfile, hversion]

/-- The proofs of a path, read after one more was added to a store that was tampered with. -/
theorem listProofs_tampered (h : Chronicle log store) (hlatest : latest? log path = some snapshot)
    (change : Owned Segment → Segment) (proof : ProofRecord)
    (hfile : proof.fileId = snapshot.fileId) :
    ∃ earlier,
      { store.tampered change with proofs := store.proofs ++ [proof.stored] }.listProofs path =
        .ok (earlier ++ [proof]) := by
  obtain ⟨records, hrecords⟩ := h.proofs_eq_map_stored
  have hrows : (store.proofs ++ [proof.stored]).filter (·.fileId == snapshot.fileId) =
      (records.filter (·.fileId == snapshot.fileId) ++ [proof]).map (·.stored) := by
    have hlast : (proof.stored.fileId == snapshot.fileId) = true := beq_iff_eq.2 hfile
    rw [hrecords, List.filter_append, List.filter_map, List.map_append, List.filter_singleton,
      hlast]
    rfl
  have hread : ((store.proofs ++ [proof.stored]).filter (·.fileId == snapshot.fileId)).mapM
      ProofRow.read = .ok (records.filter (·.fileId == snapshot.fileId) ++ [proof]) := by
    rw [hrows, mapM_map_of_read ProofRow.read_stored, List.map_id']
  have hrequire : { store.tampered change with
      proofs := store.proofs ++ [proof.stored] }.requireFile path = .ok snapshot.fileRow :=
    h.requireFile hlatest
  refine ⟨records.filter (·.fileId == snapshot.fileId), ?_⟩
  rw [Store.listProofs, hrequire]
  exact congrArg (Except.mapError Failure.database) hread

end Chronicle

namespace Store

variable {store : Store}

/-- Whatever the stored texts of a reachable store are replaced by, a path that was ingested is
verified. That adds one proof and changes nothing else; the outcome reports on the text that the
changed texts make up against the digests of the text that was ingested last, the last proof of the
path repeats the outcome, and the version passes exactly if the two texts are equal, as long as they
do not collide and the ingested text parses as it did. -/
theorem verification_faithful (h : store.Reachable) {written : Snapshot}
    (hwritten : store.HasWritten written) (change : Owned Segment → Segment) (parse : Parser)
    (now : Int) :
    ∃ latest rebuilt outcome after,
      store.HasWritten latest ∧ latest.extraction.path = written.extraction.path ∧
      (∀ other, store.HasWritten other → other.extraction.path = written.extraction.path →
        other.versionNumber ≤ latest.versionNumber) ∧
      (store.tampered change).reconstruct written.extraction.path = .ok rebuilt ∧
      rebuilt = Segment.join
        ((latest.extraction.components.zipIdx.filter (·.1.parent.isNone)).map
          fun placed => change ⟨latest.rowId placed.2, placed.1.segment⟩) ∧
      (store.tampered change).verify parse written.extraction.path now = .ok (outcome, after) ∧
      outcome.versionNumber = latest.versionNumber ∧
      outcome.Reports rebuilt (parse rebuilt) (digest latest.text)
        (digest (latest.tree.root.canonical latest.text)) ∧
      (∃ earlier proof,
        after = { store.tampered change with proofs := store.proofs ++ [proof.stored] } ∧
        after.listProofs written.extraction.path = .ok (earlier ++ [proof]) ∧
        proof.Attests outcome ∧ proof.recordedRawHash = digest latest.text ∧
        proof.recordedTreeHash = digest (latest.tree.root.canonical latest.text)) ∧
      (parse latest.text = latest.tree →
        (digest rebuilt = digest latest.text → rebuilt = latest.text) →
        (outcome.status = .pass ↔ rebuilt = latest.text)) := by
  obtain ⟨latest, hlatest, hpath, hversion, hgreatest⟩ := hwritten.exists_latest h
  obtain ⟨log, hlog, hmem⟩ := hlatest.chronicle
  rw [← hpath] at hversion
  -- The snapshot with the greatest number is the last of its path in the chronicle.
  have hlast : latest? log latest.extraction.path = some latest := by
    obtain ⟨last, hlast⟩ := Snapshot.exists_latest? hmem
    obtain ⟨hlastmem, hsame⟩ := Snapshot.mem_of_latest? hlast
    have hrows := Except.ok.inj (hversion.symm.trans (hlog.requireVersion hlast))
    have hnumber : latest.versionNumber = last.versionNumber := congrArg VersionRow.number hrows
    rwa [hlog.eq_of_versionNumber hmem hlastmem hsame.symm hnumber] at hlast ⊢
  rw [← hpath] at hgreatest ⊢
  obtain ⟨hfault, hraw, htree⟩ := latest.digests
  have hreports := (store.tampered change).examine_reports parse latest.fileRow latest.version
  set rebuilt := (store.tampered change).rebuilt latest.version.id with hrebuilt
  set outcome := (store.tampered change).examine parse latest.fileRow latest.version with houtcome
  obtain ⟨proof, hproof, hattests, _, hproofRaw, hproofTree⟩ :=
    (store.tampered change).exists_addProof_eq parse latest.fileRow latest.version now
  obtain ⟨earlier, hlist⟩ := hlog.listProofs_tampered hlast change proof hattests.fileId
  have hrawHash : latest.version.rawHash = digest latest.text := hraw
  have htreeHash : latest.version.treeHash = digest (latest.tree.root.canonical latest.text) :=
    htree
  rw [hrawHash, htreeHash] at hreports
  refine ⟨latest, rebuilt, outcome, _, hlatest, rfl, hgreatest, ?_, ?_,
    hlog.verify_tampered hlast change parse now, rfl, hreports, ⟨earlier, proof, hproof, ?_,
      hattests, hproofRaw.trans hrawHash, hproofTree.trans htreeHash⟩, ?_⟩
  · have hrequire : (store.tampered change).requireVersion latest.extraction.path none =
        .ok latest.version := hversion
    simp only [Store.reconstruct, hrequire, bind, Except.bind, pure, Except.pure, hrebuilt]
  · exact hlog.rebuilt_tampered hmem change
  · rw [hproof]
    exact hlist
  · intro hparse hinjective
    rw [← hreports.pass, hreports.matched, hreports.rawMatch, hreports.treeMatch, hreports.treeHash]
    constructor
    · intro hsame
      exact hinjective hsame.1
    · intro hsame
      rw [hsame, hparse, hfault]
      exact ⟨rfl, rfl⟩

/-- The tree of a text that does not parse. -/
def faultyTree : Syntax.Tree where
  root := .mk { kind := "ERROR", faulty := true, hasFault := true, start := 0, stop := 1 } []
  lines := .ofText ""

theorem verification_faithful_reinstated :
    ∃ edited count outcome after earlier, ∃ proof : ProofRecord,
      reinstated.edit (.replaceText "f" "(") = .ok (edited, count) ∧
      edited.verify (fun _ => faultyTree) "a.py" 4 = .ok (outcome, after) ∧
      outcome.status = .structuralDrift ∧ outcome.treeHash = none ∧ outcome.matched = false ∧
      after.listProofs "a.py" = .ok (earlier ++ [proof]) ∧ proof.status = .structuralDrift := by
  obtain ⟨written, hwritten, hpath, _, _⟩ := written_reinstated
  obtain ⟨change, hchange⟩ := reinstated.exists_replaceText_eq "f" "("
  obtain ⟨latest, rebuilt, outcome, after, _, _, _, _, _, hverify, _, hreports,
      ⟨earlier, proof, _, hproofs, hattests, _, _⟩, _⟩ :=
    verification_faithful reachable_reinstated hwritten change (fun _ => faultyTree) 4
  rw [hpath] at hverify hproofs
  rw [← hchange] at hverify
  have hstatus : outcome.status = .structuralDrift := hreports.structuralDrift.2 (.inl rfl)
  refine ⟨_, _, outcome, after, earlier, proof, rfl, hverify, hstatus, hreports.treeHash, ?_,
    hproofs, hattests.status.trans hstatus⟩
  rw [VerifyOutcome.matched, hstatus]
  rfl

end Store

end SourceLedger
