import Allowlist.Json.Decode
import Allowlist.Number

/-! # Pages and their envelopes

Rows of one page with the facts that a client needs to ask for the next. Offsets are words of 64
bits; a sum that does not fit stands at the largest. -/

namespace Allowlist

/-- The sum of an offset and a number of rows, held within 64 bits. -/
def advance (offset : UInt64) (rows : Nat) : UInt64 :=
  UInt64.ofNat (min (offset.toNat + rows) (wordCount - 1))

/-- Where a page stands in the list of all rows. -/
structure PageMeta where
  total : UInt64
  limit : UInt64
  offset : UInt64
  hasMore : Bool
  nextOffset : Option UInt64
  deriving DecidableEq, Repr

namespace PageMeta

/-- The facts of a page of `returned` rows of which it is known whether more follow. -/
def withHasMore (total limit offset : UInt64) (returned : Nat) (hasMore : Bool) : PageMeta where
  total := total
  limit := limit
  offset := offset
  hasMore := hasMore
  nextOffset := if hasMore then some (advance offset returned) else none

/-- The facts of a page of `returned` rows out of `total`. -/
def ofTotal (total limit offset : UInt64) (returned : Nat) : PageMeta :=
  withHasMore total limit offset returned (advance offset returned < total)

/-- The JSON value of the facts; the next offset is left out where there is none. -/
def toJson (m : PageMeta) : Json :=
  .object ([("total", Json.ofUInt64 m.total), ("limit", Json.ofUInt64 m.limit),
      ("offset", Json.ofUInt64 m.offset), ("has_more", .bool m.hasMore)] ++
    (m.nextOffset.map fun n => ("next_offset", Json.ofUInt64 n)).toList)

def fieldNames : List String := ["total", "limit", "offset", "has_more", "next_offset"]

def ofRaw? (v : Json.Raw) : Option PageMeta := do
  match ← v.record? fieldNames with
  | [some total, some limit, some offset, some hasMore, next] =>
    return { total := ← total.uint64?, limit := ← limit.uint64?, offset := ← offset.uint64?,
             hasMore := ← hasMore.bool?, nextOffset := ← Json.Raw.optional? Json.Raw.uint64? next }
  | _ => none

end PageMeta

/-- The rows of a page with its facts. -/
structure ListEnvelope (α : Type) where
  data : List α
  page : PageMeta
  deriving DecidableEq, Repr

namespace ListEnvelope

def ofTotal {α : Type} (data : List α) (total limit offset : UInt64) : ListEnvelope α :=
  ⟨data, .ofTotal total limit offset data.length⟩

def toJson {α : Type} (row : α → Json) (e : ListEnvelope α) : Json :=
  .object [("data", .array (e.data.map row)), ("meta", e.page.toJson)]

def fieldNames : List String := ["data", "meta"]

def ofRaw? {α : Type} (row? : Json.Raw → Option α) (v : Json.Raw) : Option (ListEnvelope α) := do
  match ← v.record? fieldNames with
  | [some (.array rows), some page] => return ⟨← rows.mapM row?, ← PageMeta.ofRaw? page⟩
  | _ => none

end ListEnvelope

/-- A single item. -/
structure ItemEnvelope (α : Type) where
  data : α
  deriving DecidableEq, Repr

namespace ItemEnvelope

def toJson {α : Type} (item : α → Json) (e : ItemEnvelope α) : Json :=
  .object [("data", item e.data)]

def fieldNames : List String := ["data"]

def ofRaw? {α : Type} (item? : Json.Raw → Option α) (v : Json.Raw) : Option (ItemEnvelope α) := do
  match ← v.record? fieldNames with
  | [some data] => return ⟨← item? data⟩
  | _ => none

end ItemEnvelope

end Allowlist
