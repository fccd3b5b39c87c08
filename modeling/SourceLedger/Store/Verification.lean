import SourceLedger.Extraction
import SourceLedger.Store.Query

/-!
# Verification

The latest version of a file is put together from its stored pieces and parsed again. If the bytes
and the tree both have the digests that were recorded, the version passes; if only the tree has,
its layout has drifted; otherwise its structure has. A text that does not parse has no tree. Each
verification leaves a proof, whatever its outcome.
-/

namespace SourceLedger

/-- The outcome of a verification. -/
structure VerifyOutcome where
  fileId : Int
  versionNumber : Nat
  rawMatch : Bool
  treeMatch : Bool
  rawHash : String
  treeHash : Option String
  deriving DecidableEq, Repr, Inhabited

namespace VerifyOutcome

/-- How the verification ended. -/
def status (outcome : VerifyOutcome) : VerifyStatus :=
  .ofMatches outcome.rawMatch outcome.treeMatch

/-- Whether the version passed. -/
def matched (outcome : VerifyOutcome) : Bool :=
  outcome.status = .pass

end VerifyOutcome

namespace Store

/-- Compares a version of a file with what is stored of it. -/
def examine (parse : Parser) (store : Store) (file : FileRecord) (version : VersionRow) :
    VerifyOutcome :=
  let text := store.rebuilt version.id
  let rawHash := digest text
  let treeHash := (treeDigest file.path text (parse text)).toOption
  { fileId := file.id
    versionNumber := version.number
    rawMatch := rawHash == version.rawHash
    treeMatch := treeHash == some version.treeHash
    rawHash, treeHash }

/-- Adds the proof of a verification. Whether the digests match is found again from the digests
that are written down. -/
def addProof (store : Store) (version : VersionRow) (outcome : VerifyOutcome) (now : Int) :
    Store :=
  let proof : ProofRecord :=
    { id := store.proofs.length + 1
      fileId := outcome.fileId
      versionId := version.id
      recordedRawHash := version.rawHash
      rebuiltRawHash := outcome.rawHash
      recordedTreeHash := version.treeHash
      rebuiltTreeHash := outcome.treeHash
      rawMatch := version.rawHash == outcome.rawHash
      treeMatch := outcome.treeHash == some version.treeHash
      matched := outcome.matched
      status := outcome.status
      verifiedAt := now }
  { store with proofs := store.proofs ++ [proof.stored] }

/-- Verifies the latest version of a file. -/
def verifyFile (parse : Parser) (store : Store) (fileId : Int) (now : Int) :
    Except Failure (VerifyOutcome × Store) :=
  match store.fileById? fileId with
  | .error fault => .error (.database fault)
  | .ok none => .error (.unknownFile s!"file id {fileId}")
  | .ok (some file) =>
    match store.latestVersion? file.id with
    | none => .error (.unknownFile file.path)
    | some version =>
      let outcome := store.examine parse file version
      .ok (outcome, store.addProof version outcome now)

end Store

end SourceLedger
