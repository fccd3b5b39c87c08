/-!
# Reading bytes as text

Source files are UTF-8. `decode` reads bytes as text, and when it cannot it reports the first
place at which the bytes stop being well formed: where the offending sequence begins, and how
many bytes of it belong together. A sequence that the end of the input interrupts has no length.
-/

namespace SourceLedger.Text.Utf8

/-- The first ill-formed sequence of some bytes. -/
structure Fault where
  /-- Offset of the first byte of the sequence. -/
  offset : Nat
  /-- Bytes to skip, or `none` when the input ends inside the sequence. -/
  length : Option Nat
  deriving DecidableEq, Repr

/-- The report on an ill-formed sequence. -/
def Fault.message (fault : Fault) : String :=
  match fault.length with
  | some length => s!"invalid utf-8 sequence of {length} bytes from index {fault.offset}"
  | none => s!"incomplete utf-8 byte sequence from index {fault.offset}"

/-- How many bytes follow a leading byte, and the range of the first of them. Leading bytes whose
sequences would be overlong, surrogates or beyond the last code point admit a narrower range. -/
def continuation? (lead : UInt8) : Option (Nat × UInt8 × UInt8) :=
  if 0xc2 ≤ lead && lead ≤ 0xdf then some (1, 0x80, 0xbf)
  else if lead == 0xe0 then some (2, 0xa0, 0xbf)
  else if lead == 0xed then some (2, 0x80, 0x9f)
  else if 0xe1 ≤ lead && lead ≤ 0xef then some (2, 0x80, 0xbf)
  else if lead == 0xf0 then some (3, 0x90, 0xbf)
  else if 0xf1 ≤ lead && lead ≤ 0xf3 then some (3, 0x80, 0xbf)
  else if lead == 0xf4 then some (3, 0x80, 0x8f)
  else none

/-- Follows `pending` further bytes of a sequence of which `seen` bytes are read, the next of them
in the range from `low` to `high`; `none` means that the sequence is well formed. -/
def sequenceFault? : (pending seen : Nat) → (low high : UInt8) → List UInt8 → Option (Option Nat)
  | 0, _, _, _, _ => none
  | _ + 1, _, _, _, [] => some none
  | pending + 1, seen, low, high, byte :: rest =>
    if low ≤ byte && byte ≤ high then sequenceFault? pending (seen + 1) 0x80 0xbf rest
    else some (some seen)

/-- The first fault of bytes that begin at `offset`; `skip` bytes belong to a sequence that was
already found well formed. -/
def firstFault? : (offset skip : Nat) → List UInt8 → Option Fault
  | _, _, [] => none
  | offset, skip + 1, _ :: rest => firstFault? (offset + 1) skip rest
  | offset, 0, lead :: rest =>
    if lead < 0x80 then firstFault? (offset + 1) 0 rest
    else
      match continuation? lead with
      | none => some ⟨offset, some 1⟩
      | some (pending, low, high) =>
        match sequenceFault? pending 1 low high rest with
        | some length => some ⟨offset, length⟩
        | none => firstFault? (offset + 1) pending rest

/-- The bytes as text, or their first fault. -/
def decode (bytes : ByteArray) : Except Fault String :=
  match String.fromUTF8? bytes with
  | some text => .ok text
  | none => .error ((firstFault? 0 0 bytes.toList).getD ⟨bytes.size, none⟩)

end SourceLedger.Text.Utf8
