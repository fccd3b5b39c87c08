import SourceLedger.Extraction.Basic

/-!
# Identity across versions

A component is the same from version to version as long as its full name is there. With each name
goes a committed digest: the digest of the text at the time when the present tree of the component
first appeared, and that time. Layout changes keep it, changes of the tree renew it, and a name
that the previous version does not have begins anew.
-/

namespace SourceLedger

/-- What a version recorded about a name. -/
structure CommittedIdentity where
  componentId : Int
  contentHash : String
  structureHash : String
  committedHash : String
  committedAt : Int
  deriving DecidableEq, Repr, Inhabited

/-- What a version recorded, by name. Of two entries for a name the later one counts. -/
abbrev IdentityTable := List (String × CommittedIdentity)

/-- The identity that a component of a new version gets. -/
structure ResolvedIdentity where
  resolution : Resolution
  committedHash : String
  committedAt : Int
  deriving DecidableEq, Repr, Inhabited

namespace IdentityTable

/-- The entry for a name. -/
def find? (table : IdentityTable) (qualifiedName : String) : Option CommittedIdentity :=
  List.lookup qualifiedName table.reverse

/-- The identity of a component, given its name and digests, at time `now`. -/
def resolve (table : IdentityTable) (qualifiedName contentHash structureHash : String)
    (now : Int) : ResolvedIdentity :=
  match table.find? qualifiedName with
  | some prior =>
    if prior.structureHash = structureHash then ⟨.adopt, prior.committedHash, prior.committedAt⟩
    else ⟨.adopt, contentHash, now⟩
  | none => ⟨.new, contentHash, now⟩

/-- The identity of a component of an extraction. -/
def resolveComponent (table : IdentityTable) (now : Int) (component : Component) :
    ResolvedIdentity :=
  table.resolve component.qualifiedName component.contentHash component.structureHash now

end IdentityTable

end SourceLedger
