import SourceLedger.Syntax.Node

/-!
# Trees as flat listings

Parsers hand a tree over as the list of its nodes, each before its children and with the number of
children it has. `Node.ofListing?` builds the tree again, from the back: by the time a node is
reached its children stand in front of all later trees.
-/

namespace SourceLedger.Syntax

/-- One line of a listing. -/
structure Entry where
  attributes : Attributes
  childCount : Nat
  deriving DecidableEq, Repr

namespace Node

/-- Puts a node in front of some trees, the first of which become its children. -/
def adopt (entry : Entry) (trees : Option (List Node)) : Option (List Node) :=
  trees.bind fun trees =>
    if entry.childCount ≤ trees.length then
      some (mk entry.attributes (trees.take entry.childCount) :: trees.drop entry.childCount)
    else none

/-- The tree with a given listing. -/
def ofListing? (entries : List Entry) : Option Node :=
  match entries.foldr adopt (some []) with
  | some [root] => some root
  | _ => none

mutual

/-- The listing of a tree. -/
def listing : Node → List Entry
  | mk attributes children => ⟨attributes, children.length⟩ :: listingOfAll children

/-- The listings of a row of trees, one after another. -/
def listingOfAll : List Node → List Entry
  | [] => []
  | node :: rest => node.listing ++ listingOfAll rest

end

mutual

/-- Building up a listing puts its tree in front. -/
theorem foldr_adopt_listing (node : Node) (trees : List Node) :
    node.listing.foldr adopt (some trees) = some (node :: trees) := by
  cases node with
  | mk attributes children =>
    rw [listing, List.foldr_cons, foldr_adopt_listingOfAll children trees]
    simp [adopt]

/-- Building up the listings of a row puts the row in front. -/
theorem foldr_adopt_listingOfAll (row trees : List Node) :
    (listingOfAll row).foldr adopt (some trees) = some (row ++ trees) := by
  cases row with
  | nil => rfl
  | cons node rest =>
    rw [listingOfAll, List.foldr_append, foldr_adopt_listingOfAll rest trees,
      foldr_adopt_listing node]
    rfl

end

/-- A tree is determined by its listing. -/
theorem ofListing?_listing (node : Node) : ofListing? node.listing = some node := by
  simp [ofListing?, foldr_adopt_listing]

end Node

/-- The tree of a text from its listing. -/
def Tree.ofListing? (text : String) (entries : List Entry) : Option Tree :=
  (Node.ofListing? entries).map fun root => ⟨root, Text.LineMap.ofText text⟩

end SourceLedger.Syntax
