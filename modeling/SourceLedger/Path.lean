/-!
# Paths

A path is a text in which slashes stand between the names of directories. Paths are compared as
texts: two spellings of one place are two paths. The operations here look at the text alone; what
a path leads to is a matter of the disk.
-/

namespace SourceLedger.Path

/-- Whether a path starts at the root of the disk. -/
def isAbsolute (path : String) : Bool :=
  path.toList.head? = some '/'

/-- A path seen from a directory. -/
def join (directory path : String) : String :=
  if isAbsolute path || directory.isEmpty then path
  else if directory.toList.getLast? = some '/' then directory ++ path
  else directory ++ "/" ++ path

/-- Drops slashes and single dots at the end of a path, which is given last character first. The
slash of the root stays. -/
def trimEnd : List Char → List Char
  | ['/'] => ['/']
  | '/' :: rest => trimEnd rest
  | '.' :: '/' :: rest => trimEnd ('/' :: rest)
  | chars => chars
termination_by chars => chars.length

/-- The directory that a path leads into with its last name; the root has none. -/
def parent? (path : String) : Option String :=
  match trimEnd path.toList.reverse with
  | [] | ['/'] => none
  | chars => some (String.ofList (trimEnd (chars.dropWhile (· ≠ '/'))).reverse)

/-- The names on the way of a path. A slash at the end asks for a directory, which a dot in place
of a name does too. -/
def steps (path : String) : List String :=
  let names := (path.toList.splitOn '/').filter (· ≠ [])
  let asDirectory := if path.toList.getLast? = some '/' then [['.']] else []
  (names ++ asDirectory).map String.ofList

/-- Where names lead from a directory when nothing on the way is looked up: a dot stays, two dots
go back. -/
def follow (place : List String) : List String → List String
  | [] => place
  | name :: rest =>
    if name = "." then follow place rest
    else if name = ".." then follow place.dropLast rest
    else follow (place ++ [name]) rest

/-- The path from the root to a place. -/
def ofPlace (place : List String) : String :=
  if place.isEmpty then "/" else String.join (place.map ("/" ++ ·))

end SourceLedger.Path
