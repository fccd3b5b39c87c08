import SourceLedger.Command.Run
import SourceLedger.Json.Reader
import SourceLedger.Syntax.Preorder

/-!
# Journals

A store is what its operations have made of it, so a journal of these operations is all that has
to be kept. Each entry has an operation and its time; with a text to ingest goes the listing of its
tree, so that reading a journal needs no parser. `Journal.replay` gives the store back.
-/

namespace SourceLedger

namespace Syntax.Entry

/-- A line of a listing as JSON. The marks of a node are bits of one number. -/
def json (entry : Entry) : Json :=
  let it := entry.attributes
  let bit (mark : Bool) (weight : Nat) : Nat := if mark then weight else 0
  let marks := bit it.named 1 + bit it.extra 2 + bit it.missing 4 + bit it.faulty 8 +
    bit it.hasFault 16
  .list [.text it.kind, .text? it.role, .nat marks, .nat it.start, .nat it.stop,
    .nat entry.childCount]

/-- Reads a line of a listing. -/
def ofJson? (value : Json) : Option Entry :=
  match value with
  | .list [kind, role, marks, start, stop, childCount] => do
    let marks ← marks.asNat?
    let bit (weight : Nat) : Bool := marks / weight % 2 == 1
    let attributes : Attributes :=
      ⟨← kind.asText?, ← role.asOption? Json.asText?, bit 1, bit 2, bit 4, bit 8, bit 16,
        ← start.asNat?, ← stop.asNat?⟩
    return ⟨attributes, ← childCount.asNat?⟩
  | _ => none

/-- Reads a listing. -/
def listingOfText? (text : String) : Option (List Entry) := do
  (← (← Json.parse? text).asList?).mapM ofJson?

end Syntax.Entry

/-- An operation with its time, and the listing of the tree of its text. -/
structure JournalEntry where
  operation : Operation
  now : Int
  listing : List Syntax.Entry := []
  deriving Repr

namespace JournalEntry

/-- An entry as JSON. -/
def json (entry : JournalEntry) : Json :=
  let time := ("at", Json.int entry.now)
  match entry.operation with
  | .ingest options path text =>
    .record [("do", .text "ingest"), time, ("path", .text path), ("text", .text text),
      ("duplicate_names", .text options.duplicateNames.name),
      ("record_reads", .bool options.recordReads),
      ("tree", .list (entry.listing.map Syntax.Entry.json))]
  | .verify path => .record [("do", .text "verify"), time, ("path", .text path)]
  | .detect path number =>
    .record [("do", .text "detect"), time, ("path", .text path), ("version", .nat? number)]

/-- Reads an entry. -/
def ofJson? (value : Json) : Option JournalEntry := do
  let now ← (← value.field? "at").asInt?
  let path ← (← value.field? "path").asText?
  match ← (← value.field? "do").asText? with
  | "ingest" =>
    let text ← (← value.field? "text").asText?
    let policy ← (← value.field? "duplicate_names").asText?
    let duplicateNames ← DuplicatePolicy.ofName? policy
    let recordReads ← (← value.field? "record_reads").asBool?
    let listing ← (← (← value.field? "tree").asList?).mapM Syntax.Entry.ofJson?
    return ⟨.ingest ⟨duplicateNames, recordReads⟩ path text, now, listing⟩
  | "verify" => return ⟨.verify path, now, []⟩
  | "detect" =>
    return ⟨.detect path (← (← value.field? "version").asOption? Json.asNat?), now, []⟩
  | _ => none

/-- The text of an entry with its tree. -/
def source? (entry : JournalEntry) : Option (String × Syntax.Tree) :=
  match entry.operation with
  | .ingest _ _ text => (Syntax.Tree.ofListing? text entry.listing).map (text, ·)
  | _ => none

end JournalEntry

/-- The tree of a text of which nothing is known: one fault. -/
def unknownTree (text : String) : Syntax.Tree :=
  let attributes : Syntax.Attributes :=
    { kind := "ERROR", faulty := true, hasFault := true, start := 0, stop := text.utf8ByteSize }
  ⟨.mk attributes [], Text.LineMap.ofText text⟩

/-- A parser that knows some texts. -/
def Parser.ofSources (sources : List (String × Syntax.Tree)) : Parser :=
  fun text => (sources.lookup text).getD (unknownTree text)

/-- The operations that a store was made by, from the first. -/
abbrev Journal := List JournalEntry

namespace Journal

/-- A journal as text. -/
def render (journal : Journal) : String :=
  (Json.list (journal.map JournalEntry.json)).render ++ "\n"

/-- Reads a journal. -/
def parse? (text : String) : Option Journal := do
  (← (← Json.parse? text).asList?).mapM JournalEntry.ofJson?

/-- The texts of a journal with their trees. -/
def sources (journal : Journal) : List (String × Syntax.Tree) :=
  journal.filterMap JournalEntry.source?

/-- The store that a journal describes. -/
def replay (journal : Journal) : Store :=
  Store.replay (Parser.ofSources journal.sources) {} (journal.map fun entry =>
    (entry.operation, entry.now))

end Journal

/-- The operations that a command carries out on an open store, in order. -/
def Command.operations (handle : Handle) (workspace : Workspace) : Command → List Operation
  | ingest files => files.filterMap fun path =>
      (workspace.readSource path).toOption.map (.ingest handle.settings.options path ·)
  | verify file => [.verify file]
  | drift file version =>
    match driftVersion (workspace.storeOf handle) file version with
    | .ok number => [.detect file (some number)]
    | .error _ => []
  | _ => []

end SourceLedger
