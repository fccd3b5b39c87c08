import SourceLedger.Yaml.Token

/-!
# Flat documents

A flat document is one mapping from scalars to scalars, one list of scalars, or nothing at all.
`Document.ofTokens?` reads the tokens of one, and `readFlat` gives the content of a text with every
alias replaced by the scalar it stands for.
-/

namespace SourceLedger.Yaml

/-- A key or a value: a scalar, which may have an anchor, or an alias of one. -/
inductive Node where
  | scalar (anchor : Option String) (scalar : Scalar)
  | alias (name : String)
  deriving DecidableEq, Repr, Inhabited

/-- What stands in front of a node. -/
structure Properties where
  anchor : Option String := none
  tag : Option Tag := none
  deriving DecidableEq, Repr, Inhabited

namespace Properties

/-- The anchor and the tag in front of some tokens, in either order, and the other tokens. -/
def take : List Token → Properties × List Token
  | .anchor name :: .tag tag :: rest | .tag tag :: .anchor name :: rest =>
    (⟨some name, some tag⟩, rest)
  | .anchor name :: rest => (⟨some name, none⟩, rest)
  | .tag tag :: rest => (⟨none, some tag⟩, rest)
  | rest => ({}, rest)

/-- The tag in full; it is refused if its handle is unknown. -/
def fullTag? (handles : List TagHandle) (properties : Properties) : Option (Option String) :=
  match properties.tag with
  | some tag => tag.resolve? handles
  | none => some none

end Properties

/-- The tag of a scalar that is there. A tag that says nothing counts as none. -/
def meaningfulTag (tag : Option String) : Option String :=
  if tag = some "!" then none else tag

/-- The node that some tokens are; no token is a plain scalar without text. -/
def Node.ofTokens? (handles : List TagHandle) (tokens : List Token) : Option Node :=
  match tokens with
  | [.alias name] => some (.alias name)
  | tokens => do
    let (properties, rest) := Properties.take tokens
    let tag ← properties.fullTag? handles
    match rest with
    | [] => some (.scalar properties.anchor ⟨"", .plain, tag⟩)
    | [.scalar text style] => some (.scalar properties.anchor ⟨text, style, meaningfulTag tag⟩)
    | _ => none

/-- Cuts tokens at each one of a kind. -/
def cutAt (mark : Token) (tokens : List Token) : List (List Token) :=
  tokens.splitOn mark

/-- The entry that some tokens are: a key, and behind a mark its value. -/
def entryOfTokens? (handles : List TagHandle) (tokens : List Token) : Option (Node × Node) :=
  match cutAt .value tokens with
  | [key] => do return (← Node.ofTokens? handles key, ← Node.ofTokens? handles [])
  | [key, value] => do return (← Node.ofTokens? handles key, ← Node.ofTokens? handles value)
  | _ => none

/-- The entries of a mapping with one entry a line, each behind the mark of a key. -/
def lineEntries? (handles : List TagHandle) (tokens : List Token) : Option (List (Node × Node)) :=
  match cutAt .key tokens with
  | [] :: entries => entries.mapM (entryOfTokens? handles)
  | _ => none

/-- An entry between braces; one without the mark of a key has no value either. -/
def braceGroup? (handles : List TagHandle) : List Token → Option (Node × Node)
  | [] => none
  | .key :: tokens => entryOfTokens? handles tokens
  | tokens => do return (← Node.ofTokens? handles tokens, ← Node.ofTokens? handles [])

/-- The entries of a mapping between braces, with a comma behind each, which may be missing behind
the last one. -/
def braceEntries? (handles : List TagHandle) (tokens : List Token) : Option (List (Node × Node)) :=
  let groups := cutAt .comma tokens
  let entries := if groups.getLast? = some [] then groups.dropLast else groups
  entries.mapM (braceGroup? handles)

/-- The items of a list with one item a line, each behind its dash. -/
def dashItems? (handles : List TagHandle) (tokens : List Token) : Option (List Node) :=
  match cutAt .dash tokens with
  | [] :: items => items.mapM (Node.ofTokens? handles)
  | _ => none

/-- The items of a list between brackets, with a comma behind each, which may be missing behind the
last one. -/
def bracketItems? (handles : List TagHandle) (tokens : List Token) : Option (List Node) :=
  let groups := cutAt .comma tokens
  let items := if groups.getLast? = some [] then groups.dropLast else groups
  if items.any List.isEmpty then none else items.mapM (Node.ofTokens? handles)

/-- What a flat document holds. -/
inductive Content (α : Type) where
  | mapping (entries : List (α × α))
  | list (items : List α)
  deriving DecidableEq, Repr, Inhabited

/-- The parts of a content in the order in which they are written. -/
def Content.parts {α : Type} : Content α → List α
  | mapping entries => entries.flatMap fun (key, value) => [key, value]
  | list items => items

/-- A flat document. -/
structure Document where
  anchor : Option String
  content : Content Node
  deriving DecidableEq, Repr, Inhabited

namespace Document

/-- The document whose content is some tokens: a collection, or nothing but properties, which
stands for a mapping without entries. -/
def ofContent? (handles : List TagHandle) (tokens : List Token) : Option Document := do
  let (properties, rest) := Properties.take tokens
  let _ ← properties.fullTag? handles
  let content ← match rest, rest.getLast? with
    | [], _ => some (.mapping [])
    | .linesStart :: inner, some .linesEnd => (lineEntries? handles inner.dropLast).map .mapping
    | .bracesStart :: inner, some .bracesEnd => (braceEntries? handles inner.dropLast).map .mapping
    | .dashesStart :: inner, some .linesEnd => (dashItems? handles inner.dropLast).map .list
    | .bracketsStart :: inner, some .bracketsEnd => (bracketItems? handles inner.dropLast).map .list
    | _, _ => none
  return ⟨properties.anchor, content⟩

/-- Whether a version of the format can be read. -/
def isKnownVersion (major minor : Nat) : Bool :=
  major = 1 && (minor = 1 || minor = 2)

/-- The handles that the lines in front of a document define, with the tokens behind these lines. A
handle is defined once, and the version is given once. -/
def directives? : (version : Bool) → List TagHandle → List Token →
    Option (List TagHandle × List Token)
  | version, handles, .directive (.version major minor) :: rest =>
    if version || !isKnownVersion major minor then none else directives? true handles rest
  | version, handles, .directive (.handle handle) :: rest =>
    if handles.any (·.handle == handle.handle) then none
    else directives? version (handles ++ [handle]) rest
  | _, handles, rest => some (handles, rest)

/-- The document that tokens are. Marks may end it; lines in front of it need a mark that begins
it. -/
def ofTokens? (tokens : List Token) : Option Document := do
  let content := (tokens.reverse.dropWhile (· = .documentEnd)).reverse
  if content.isEmpty && !tokens.isEmpty then none
  let (handles, rest) ← directives? false [] content
  let known := handles ++ TagHandle.defaults
  match rest with
  | .documentStart :: rest => ofContent? known rest
  | rest => if rest.length = content.length then ofContent? known rest else none

end Document

/-- What the anchors of a document stand for. Every anchor gets as its number how many names were
known before it, and the last node with a number counts. -/
structure Anchors where
  numbers : List (String × Nat) := []
  /-- The nodes by number, last one first; a collection is no scalar. -/
  targets : List (Nat × Option Scalar) := []
  deriving Repr, Inhabited

namespace Anchors

/-- Gives a node a name. -/
def name (anchors : Anchors) (anchor : Option String) (target : Option Scalar) : Anchors :=
  match anchor with
  | none => anchors
  | some anchor =>
    let number := anchors.numbers.length
    ⟨(anchor, number) :: anchors.numbers.filter (·.1 != anchor),
      (number, target) :: anchors.targets⟩

/-- The number of an alias, or the scalar of a node; an alias of a name that is not known yet is
refused. -/
def visit (anchors : Anchors) : Node → Option (Anchors × (Nat ⊕ Scalar))
  | .scalar anchor scalar => some (anchors.name anchor (some scalar), .inr scalar)
  | .alias name => (anchors.numbers.lookup name).map fun number => (anchors, .inl number)

/-- Visits nodes in order. -/
def visitAll (anchors : Anchors) : List Node → Option (Anchors × List (Nat ⊕ Scalar))
  | [] => some (anchors, [])
  | node :: rest => do
    let (anchors, place) ← anchors.visit node
    let (anchors, places) ← anchors.visitAll rest
    return (anchors, place :: places)

/-- The scalar at a place. -/
def scalar? (anchors : Anchors) : Nat ⊕ Scalar → Option Scalar
  | .inl number => (anchors.targets.lookup number).join
  | .inr scalar => some scalar

end Anchors

/-- Groups scalars that come in turn as keys and values. -/
def pairUp : List Scalar → List (Scalar × Scalar)
  | key :: value :: rest => (key, value) :: pairUp rest
  | _ => []

/-- The content of a document, with the scalars that its aliases stand for. -/
def Document.scalars? (document : Document) : Option (Content Scalar) := do
  let anchors := Anchors.name {} document.anchor none
  let (anchors, places) ← anchors.visitAll document.content.parts
  let scalars ← places.mapM anchors.scalar?
  return match document.content with
    | .mapping _ => .mapping (pairUp scalars)
    | .list _ => .list scalars

/-- The content of a text that is a flat document. -/
def readFlat (text : String) : Option (Content Scalar) := do
  (← Document.ofTokens? (← Token.scan text)).scalars?

end SourceLedger.Yaml
