import SourceLedger.Path
import SourceLedger.Store.Basic

/-!
# The disk

A disk holds directories, files and stores, each at a place; a place is the list of names on the
way from the root. Following a path looks up every directory on the way, so a path may fail where
its text looks fine. The root is always a directory. Stores are numbered in the order of their
making, and one whose place is cleared lives on for those who have it open.
-/

namespace SourceLedger

/-- A place on a disk: the names from the root on. -/
abbrev Place := List String

/-- What stands at a place. -/
inductive Entry where
  | directory
  | file (content : ByteArray)
  /-- A store, by its number on the disk. -/
  | store (number : Nat)
  deriving Inhabited

/-- Why the disk refuses. -/
inductive DiskFault where
  | notFound
  | notPermitted
  | alreadyThere
  | notDirectory
  | isDirectory
  /-- A name or a path is longer than a disk takes. -/
  | tooLong
  /-- A path has a zero character in it. -/
  | hasNul
  deriving DecidableEq, Repr

/-- The wording of a refusal, with its number. -/
def DiskFault.message : DiskFault → String
  | notFound => "No such file or directory (os error 2)"
  | notPermitted => "Permission denied (os error 13)"
  | alreadyThere => "File exists (os error 17)"
  | notDirectory => "Not a directory (os error 20)"
  | isDirectory => "Is a directory (os error 21)"
  | tooLong => "File name too long (os error 36)"
  | hasNul => "file name contained an unexpected NUL byte"

/-- What a disk holds, by place, and the stores that were made on it. -/
structure Disk where
  entries : List (Place × Entry) := []
  stores : List Store := []
  deriving Inhabited

namespace Disk

variable (disk : Disk)

/-- What stands at a place. -/
def entry? (place : Place) : Option Entry :=
  if place.isEmpty then some .directory else disk.entries.lookup place

/-- Whether a place is a directory. -/
def isDirectory (place : Place) : Bool :=
  match disk.entry? place with
  | some .directory => true
  | _ => false

/-- Whether a place holds a file or a store. -/
def isFile (place : Place) : Bool :=
  match disk.entry? place with
  | some (.file _) | some (.store _) => true
  | _ => false

/-- Puts something at a place, instead of what is there. -/
def put (place : Place) (entry : Entry) : Disk :=
  { disk with entries := (place, entry) :: disk.entries.filter (·.1 != place) }

/-- Clears a place. -/
def erase (place : Place) : Disk :=
  { disk with entries := disk.entries.filter (·.1 != place) }

/-- A path that can be looked up at all, in the number of its bytes and by its characters. -/
def checkPath (path : String) : Except DiskFault Unit :=
  if path.toList.contains '\x00' then .error .hasNul
  else if path.isEmpty then .error .notFound
  else if 4096 ≤ path.utf8ByteSize then .error .tooLong
  else .ok ()

/-- Whether a name is longer than a directory takes. -/
def isLongName (name : String) : Bool :=
  255 < name.utf8ByteSize

/-- The place that names lead to from another one. -/
def walk (place : Place) : List String → Except DiskFault Place
  | [] => .ok place
  | name :: rest =>
    if !disk.isDirectory place then .error .notDirectory
    else if isLongName name then .error .tooLong
    else
      let next := Path.follow place [name]
      if (disk.entry? next).isSome then walk next rest else .error .notFound

/-- The place that a path leads to, seen from a directory. -/
def locate (directory : Place) (path : String) : Except DiskFault Place := do
  checkPath path
  disk.walk (if Path.isAbsolute path then [] else directory) (Path.steps path)

/-- The bytes of a file. -/
def read (directory : Place) (path : String) : Except DiskFault ByteArray := do
  match disk.entry? (← disk.locate directory path) with
  | some (.file content) => .ok content
  | some .directory => .error .isDirectory
  | some (.store _) => .error .notPermitted
  | none => .error .notFound

/-- Goes along names and makes the directories that are missing, as far as nothing is in the way.
A file in the way is a fault, by another name if it stands at the end. -/
def makeDirectories (disk : Disk) (place : Place) :
    List String → Except DiskFault Place × Disk
  | [] => (.ok place, disk)
  | name :: rest =>
    let next := Path.follow place [name]
    if isLongName name then (.error .tooLong, disk)
    else
      match disk.entry? next with
      | some .directory => makeDirectories disk next rest
      | some _ => (.error (if rest.isEmpty then .alreadyThere else .notDirectory), disk)
      | none => makeDirectories (disk.put next .directory) next rest

/-- Makes a directory with all that lead to it. What was made on the way to a fault stays. -/
def createDirectory (directory : Place) (path : String) : Except DiskFault Place × Disk :=
  let start := if Path.isAbsolute path then [] else directory
  if path.isEmpty then (.ok start, disk)
  else
    match checkPath path with
    | .ok _ => disk.makeDirectories start (Path.steps path)
    | .error fault => (.error fault, disk)

/-- The directory that a path leads into, made as needed. -/
def createParent (directory : Place) (path : String) : Except DiskFault Unit × Disk :=
  match Path.parent? path with
  | none => (.ok (), disk)
  | some parent =>
    let (made, disk) := disk.createDirectory directory parent
    (made.map fun _ => (), disk)

/-- Writes a file, in directories that are made as needed. -/
def write (directory : Place) (path : String) (content : ByteArray) :
    Except DiskFault Unit × Disk :=
  match disk.createParent directory path with
  | (.error fault, disk) => (.error fault, disk)
  | (.ok _, disk) =>
    match checkPath path with
    | .error fault => (.error fault, disk)
    | .ok _ =>
      let start := if Path.isAbsolute path then [] else directory
      let place := Path.follow start (Path.steps path)
      if disk.isDirectory place then (.error .isDirectory, disk)
      else if place.getLast?.any isLongName then (.error .tooLong, disk)
      else (.ok (), disk.put place (.file content))

/-- Puts a new store at a place. -/
def addStore (place : Place) (store : Store) : Disk :=
  { disk.put place (.store disk.stores.length) with stores := disk.stores ++ [store] }

/-- The store with a number; one that was never made is empty. -/
def store (number : Nat) : Store :=
  disk.stores.getD number {}

/-- Another state of the store with a number. -/
def putStore (number : Nat) (store : Store) : Disk :=
  { disk with stores := disk.stores.set number store }

end Disk

end SourceLedger
