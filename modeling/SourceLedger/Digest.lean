import SourceLedger.Digest.Sha256

/-!
# Digests of texts

Every digest the ledger keeps is the SHA-256 digest of some text's bytes, as 64 lower-case
hexadecimal digits. A source text is hashed as it stands, a syntax tree through its canonical
form; both digests are of one kind, so that they can be stored and compared alike.
-/

namespace SourceLedger

/-- The digest of some bytes. -/
def digestBytes (bytes : ByteArray) : String :=
  Sha256.hex bytes.toList

/-- The digest of a text's bytes. -/
def digest (text : String) : String :=
  digestBytes text.toByteArray

end SourceLedger
