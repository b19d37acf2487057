import RowQuery.Decimal.Digits
import RowQuery.Page.Query
import RowQuery.Page.Url
import RowQuery.Text.Space

/-!
# Page requests

A `PageRequest` is what a caller asked for, checked against the `PageSettings` of the service: the
rows to pass over, the size of a page (zero or minus one for all rows), the order and the filter.
It is read from the parameters `offset`, `limit`, `filter`, `sort` and `desc` of an address, or
built from parameters given otherwise.

The request remembers its address, and the addresses of the pages around it (`next?` and `prev?`)
are made from that: only `offset` and `limit` change, everything else is carried along.
-/

namespace RowQuery

/-- The greatest number of rows that can be counted. -/
def maxCount : Nat := 0xFFFFFFFFFFFFFFFF

/-- The defaults and bounds of page requests. -/
structure PageSettings where
  defaultOffset : Nat := 0
  /-- The page size if none is asked for; zero or minus one for all rows. -/
  defaultLimit : Int := 25
  /-- The greatest offset, if there is one. -/
  maxOffset? : Option Nat := none
  maxLimit : Int := 1000
  /-- The column to sort by if none is asked for; empty for none. -/
  defaultSort : String := ""
  defaultDescending : Bool := true
deriving DecidableEq, Repr

/-- Why a page request was refused. -/
inductive RequestError
  /-- The offset is no number, negative, or beyond its bound. -/
  | invalidOffset (raw : String)
  /-- The limit is no number, below minus one, or beyond its bound. -/
  | invalidLimit (raw : String)
  /-- The direction is no truth value. -/
  | invalidFlag (raw : String)
deriving DecidableEq, Repr

/-- The text of an error. -/
def RequestError.message : RequestError → String
  | invalidOffset raw => "invalid offset: " ++ raw
  | invalidLimit raw => "invalid limit: " ++ raw
  | invalidFlag raw => "invalid query string: desc must be a boolean, not '" ++ raw ++ "'"

/-- The parameters of a page request, as far as they are given. -/
structure PageParameters where
  offset? : Option Int := none
  limit? : Option Int := none
  filter? : Option String := none
  sort? : Option String := none
  descending? : Option Bool := none
deriving DecidableEq, Repr

/-- Reads a truth value. -/
def readFlag? (s : String) : Option Bool :=
  let word := String.ofList ((Text.trim s.toList).map Char.toLower)
  if word ∈ ["true", "1", "yes", "on"] then some true
  else if word ∈ ["false", "0", "no", "off"] then some false
  else none

namespace PageParameters

/-- Reads a parameter that is given, or reports its text. -/
def readGiven {α : Type} (read : String → Option α) (fault : String → RequestError) :
    Option String → Except RequestError (Option α)
  | none => .ok none
  | some raw => match read raw with
    | some a => .ok (some a)
    | none => .error (fault raw)

/-- Reads the parameters of an address. -/
def ofUrl (u : Url) : Except RequestError PageParameters := do
  let number (s : String) := Decimal.readInt64? (Text.trim s.toList)
  let offset? ← readGiven number .invalidOffset (u.get? "offset")
  let limit? ← readGiven number .invalidLimit (u.get? "limit")
  let descending? ← readGiven readFlag? .invalidFlag (u.get? "desc")
  return { offset?, limit?, descending?, filter? := u.get? "filter", sort? := u.get? "sort" }

end PageParameters

/-- A checked request for one page. -/
structure PageRequest where
  url : Url
  /-- How many rows to pass over. -/
  offset : Nat
  /-- The size of the page; zero or minus one for all rows. -/
  limit : Int
  /-- The column to sort by; empty for none. -/
  sort : String
  direction : Direction
  /-- The filter, if there is one that is not blank. -/
  filter? : Option String
deriving DecidableEq, Repr

/-- An integer as a parameter. -/
def numberText (i : Int) : String :=
  String.ofList (Decimal.intText i)

namespace PageRequest

/-- Checks parameters and fills in the defaults. The address is only used for links. -/
def build (settings : PageSettings) (url : Url) (p : PageParameters) :
    Except RequestError PageRequest := do
  let offset : Int := p.offset?.getD settings.defaultOffset
  if offset < 0 then throw (.invalidOffset (numberText offset))
  if settings.maxOffset?.any fun bound => (bound : Int) < offset then
    throw (.invalidOffset (numberText offset))
  let limit := p.limit?.getD settings.defaultLimit
  if limit < -1 ∨ settings.maxLimit < limit then throw (.invalidLimit (numberText limit))
  return {
    url, limit, offset := offset.toNat
    sort := p.sort?.getD settings.defaultSort
    direction := .ofDescending (p.descending?.getD settings.defaultDescending)
    filter? := p.filter?.filter fun s => !Text.isBlank s }

/-- Reads the request of an address. -/
def ofUrl (settings : PageSettings) (address : String) : Except RequestError PageRequest := do
  let url := Url.parse address
  build settings url (← PageParameters.ofUrl url)

/-- Checks parameters given beside an address. -/
def ofParameters (settings : PageSettings) (address : String) (p : PageParameters) :
    Except RequestError PageRequest :=
  build settings (Url.parse address) p

/-- The number of rows of a page, unless it holds all rows. -/
def pageSize? (r : PageRequest) : Option Nat :=
  if 0 < r.limit then some r.limit.toNat else none

/-- The query that the request makes. A filter given here counts in place of the request's. -/
def query (r : PageRequest) (filter? : Option RowFilter) : PageQuery where
  filter? := filter? <|> r.filter?.map .text
  offset := r.offset
  limit? := r.pageSize?
  order? := if r.sort = "" then none else some ⟨r.sort, r.direction⟩

/-- The address with a page size and an offset. -/
def pageUrl (r : PageRequest) (size offset : Nat) : String :=
  ((r.url.set "limit" (numberText size)).set "offset" (numberText offset)).render

/-- The address of the next page, if there are rows behind this one. -/
def next? (r : PageRequest) (count : Nat) : Option String := do
  let size ← r.pageSize?
  -- An offset is counted up to the greatest count and no further.
  let offset := min (r.offset + size) maxCount
  if offset < count then some (r.pageUrl size offset) else none

/-- The address of the previous page, unless this is the first. If that page begins at the first
    row, the offset is left out. -/
def prev? (r : PageRequest) : Option String :=
  if r.offset = 0 then none
  else match r.pageSize? with
    | some size =>
      if size < r.offset then some (r.pageUrl size (r.offset - size))
      else some (r.url.erase "offset").render
    | none => some (r.url.erase "offset").render

end PageRequest

end RowQuery
