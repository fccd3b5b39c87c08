import SourceLedger.Text.Utf8
import SourceLedger.Yaml.Character

/-!
# Tags

A tag says what a node is. It is written in full between angles, or as a suffix behind a handle,
which stands for the beginning of the tag. Two handles are always known, and lines in front of a
document may define others or redefine these. Percent signs spell bytes of a tag in hexadecimal.
-/

namespace SourceLedger.Yaml

/-- A tag as it is written. Parts that spell no text are left out. -/
structure Tag where
  /-- The handle, which is empty for a tag in full. -/
  handle : String
  suffix : Option String
  deriving DecidableEq, Repr, Inhabited

/-- The meaning of a handle. -/
structure TagHandle where
  handle : String
  start : Option String
  deriving DecidableEq, Repr, Inhabited

/-- The handles that are always known. -/
def TagHandle.defaults : List TagHandle :=
  [⟨"!", some "!"⟩, ⟨"!!", some "tag:yaml.org,2002:"⟩]

/-- The full text of a tag: nothing if a handle is unknown, and no text if its parts spell none. -/
def Tag.resolve? (handles : List TagHandle) (tag : Tag) : Option (Option String) :=
  if tag.handle.isEmpty then some tag.suffix
  else
    (handles.find? (·.handle == tag.handle)).map fun handle => do
      return (← handle.start) ++ (← tag.suffix)

/-- Characters of a tag; `full` says whether it is one in full or the meaning of a handle. -/
def isTagChar (full : Bool) (c : Char) : Bool :=
  isNameChar c ||
    [';', '/', '?', ':', '@', '&', '=', '+', '$', '.', '%', '!', '~', '*', '\x27', '(',
      ')'].contains c ||
    (full && [',', '[', ']'].contains c)

/-- How many bytes a character has whose first byte is given. -/
def utf8Width? (byte : Nat) : Option Nat :=
  if byte < 0x80 then some 1
  else if 0xc0 ≤ byte && byte < 0xe0 then some 2
  else if 0xe0 ≤ byte && byte < 0xf0 then some 3
  else if 0xf0 ≤ byte && byte < 0xf8 then some 4
  else none

/-- The bytes that the characters of a tag spell. `wanted` bytes of a character are still to come,
all of them as escapes. -/
def tagBytes : (wanted : Nat) → List Char → Option (List Nat)
  | wanted, '%' :: high :: low :: rest => do
    let byte := 16 * (← hexValue? high) + (← hexValue? low)
    let wanted ← match wanted with
      | 0 => (utf8Width? byte).map (· - 1)
      | wanted + 1 => if 0x80 ≤ byte && byte < 0xc0 then some wanted else none
    return byte :: (← tagBytes wanted rest)
  | 0, c :: rest => do
    if c = '%' then none
    return c.toNat :: (← tagBytes 0 rest)
  | 0, [] => some []
  | _ + 1, _ => none

/-- The text of bytes up to the first zero, if they are one. -/
def tagText? (bytes : List Nat) : Option String :=
  let bytes := (bytes.takeWhile (· ≠ 0)).map UInt8.ofNat
  (Text.Utf8.decode ⟨bytes.toArray⟩).toOption

/-- Reads the characters of a tag behind `head`: the text that they spell, and what follows. -/
def tagSuffix (full : Bool) (head : List Char) (chars : List Char) :
    Option (Option String × List Char) := do
  let taken := chars.takeWhile (isTagChar full)
  let bytes ← tagBytes 0 taken
  return (tagText? (head.map Char.toNat ++ bytes), chars.drop taken.length)

/-- Reads the characters of a tag, of which there has to be one at least. -/
def tagWhole (full : Bool) (chars : List Char) : Option (Option String × List Char) :=
  if chars.head?.any (isTagChar full) then tagSuffix full [] chars else none

/-- Reads the name of a handle behind its exclamation mark: the name, whether a second mark closes
it, and what follows. -/
def handleName (chars : List Char) : List Char × Bool × List Char :=
  let name := chars.takeWhile isNameChar
  match chars.drop name.length with
  | '!' :: rest => (name, true, rest)
  | rest => (name, false, rest)

/-- Reads a tag in full behind its opening angle. -/
def fullTag (chars : List Char) : Option (Tag × List Char) := do
  let (suffix, rest) ← tagWhole true chars
  match rest with
  | '>' :: rest => some (⟨"", suffix⟩, rest)
  | _ => none

/-- Reads a tag with a handle behind its first exclamation mark. A lone mark is a tag in full. -/
def shortTag (chars : List Char) : Option (Tag × List Char) := do
  let (name, closed, behind) := handleName chars
  if closed then
    let (suffix, rest) ← tagWhole false behind
    return (⟨String.ofList (['!'] ++ name ++ ['!']), suffix⟩, rest)
  else
    let (suffix, rest) ← tagSuffix false name behind
    return (if suffix = some "" then ⟨"", some "!"⟩ else ⟨"!", suffix⟩, rest)

/-- Reads a tag behind its first exclamation mark. -/
def readTag (flow : Bool) (chars : List Char) : Option (Tag × List Char) := do
  let (tag, rest) ← if chars.head? = some '<' then fullTag (chars.drop 1) else shortTag chars
  if isBlankOrEnd rest.head? || (flow && rest.head? = some ',') then return (tag, rest) else none

/-- A line in front of a document. -/
inductive Directive where
  | version (major minor : Nat)
  | handle (handle : TagHandle)
  deriving DecidableEq, Repr

/-- Reads a number of at most nine digits. -/
def versionNumber (chars : List Char) : Option (Nat × List Char) :=
  let digits := chars.takeWhile Char.isDigit
  if digits.isEmpty || 9 < digits.length then none
  else
    some (digits.foldl (fun value c => 10 * value + (c.toNat - '0'.toNat)) 0,
      chars.drop digits.length)

/-- Reads the version of the format. -/
def versionDirective (chars : List Char) : Option (Directive × List Char) := do
  let (major, rest) ← versionNumber (chars.dropWhile isBlank)
  match rest with
  | '.' :: rest =>
    let (minor, rest) ← versionNumber rest
    return (.version major minor, rest)
  | _ => none

/-- Reads a handle and what it stands for. -/
def handleDirective (chars : List Char) : Option (Directive × List Char) := do
  match chars.dropWhile isBlank with
  | '!' :: chars =>
    let (name, closed, rest) := handleName chars
    if !closed && !name.isEmpty then none
    if !rest.head?.any isBlank then none
    let (start, rest) ← tagWhole true (rest.dropWhile isBlank)
    if !isBlankOrEnd rest.head? then none
    let handle := '!' :: name ++ (if closed then ['!'] else [])
    return (.handle ⟨String.ofList handle, start⟩, rest)
  | _ => none

/-- Reads a line in front of a document behind its percent sign, with its comment and its break. -/
def readDirective (chars : List Char) : Option (Directive × List Char) := do
  let name := chars.takeWhile isNameChar
  let behind := chars.drop name.length
  if !isBlankOrEnd behind.head? then none
  let (directive, rest) ← match String.ofList name with
    | "YAML" => versionDirective behind
    | "TAG" => handleDirective behind
    | _ => none
  let rest := rest.dropWhile isBlank
  let rest := if rest.head? = some '#' then rest.dropWhile fun c => !isBreak c else rest
  match rest with
  | [] => return (directive, [])
  | c :: rest => if isBreak c then return (directive, rest) else none

end SourceLedger.Yaml
