/-!
# Rows and columns of byte offsets

A `LineMap` remembers where the line feeds of a text stand. It turns a byte offset into a row and
a column, both counted from zero and the column in bytes, and a byte range into the lines it
covers, counted from one.
-/

namespace SourceLedger.Text

/-- The byte offsets of the line feeds of a text, in increasing order. -/
structure LineMap where
  feeds : List Nat
  deriving DecidableEq, Repr, Inhabited

namespace LineMap

/-- The line feeds of `text`. -/
def ofText (text : String) : LineMap :=
  ⟨(text.toByteArray.toList.zipIdx.filter (·.1 == 10)).map (·.2)⟩

/-- The number of line feeds before an offset. -/
def row (lines : LineMap) (offset : Nat) : Nat :=
  lines.feeds.countP (· < offset)

/-- The offset at which the row of `offset` begins. -/
def rowStart (lines : LineMap) (offset : Nat) : Nat :=
  match (lines.feeds.filter (· < offset)).getLast? with
  | some feed => feed + 1
  | none => 0

/-- The number of bytes between the start of its row and an offset. -/
def column (lines : LineMap) (offset : Nat) : Nat :=
  offset - lines.rowStart offset

/-- The line, from one, on which a range begins. -/
def firstLine (lines : LineMap) (start : Nat) : Nat :=
  lines.row start + 1

/-- The last line, from one, that a range covers. A range that ends right behind a line feed does
not reach into the line after it. -/
def lastLine (lines : LineMap) (start stop : Nat) : Nat :=
  if lines.column stop = 0 ∧ lines.row start < lines.row stop then lines.row stop
  else lines.row stop + 1

end LineMap

end SourceLedger.Text
