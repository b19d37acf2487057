import RowQuery.Decimal.Digits

/-!
# Navigation headers

A response can carry its navigation in two headers: the total count of rows, and links to the
previous and the next page as far as they exist.
-/

namespace RowQuery

/-- How a linked page stands to the current one. -/
inductive Relation
  | prev
  | next
deriving DecidableEq, Repr

/-- The word for a relation. -/
def Relation.name : Relation → String
  | prev => "prev"
  | next => "next"

/-- The attribute of a link that states its relation. -/
def Relation.attribute (r : Relation) : String :=
  "rel=\"" ++ r.name ++ "\""

/-- The entry of a link header. -/
def linkEntry (url : String) (r : Relation) : String :=
  "<" ++ url ++ ">; " ++ r.attribute

/-- The navigation headers of a response. -/
structure LinkHeaders where
  /-- How many rows there are on all pages. -/
  totalCount : Nat
  /-- The entries of the link header. -/
  links : List String
deriving DecidableEq, Repr

namespace LinkHeaders

/-- The headers for a count and the addresses of the pages around. -/
def ofUrls (totalCount : Nat) (prev? next? : Option String) : LinkHeaders :=
  ⟨totalCount, (prev?.map (linkEntry · .prev)).toList ++ (next?.map (linkEntry · .next)).toList⟩

/-- Whether a link of a relation is there. -/
def has (h : LinkHeaders) (r : Relation) : Bool :=
  h.links.any fun link => r.attribute.toList.isSuffixOf link.toList

/-- The entries of the link header, with commas between them. -/
def joined : List String → String
  | [] => ""
  | [l] => l
  | l :: ls => l ++ "," ++ joined ls

/-- The headers by name. -/
def pairs (h : LinkHeaders) : List (String × String) :=
  [("x-total-count", String.ofList (Decimal.natText h.totalCount)), ("link", joined h.links)]

end LinkHeaders

end RowQuery
