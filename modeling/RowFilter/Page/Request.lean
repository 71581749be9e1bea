import RowFilter.Page.Limits
import RowFilter.Page.Order
import RowFilter.Page.Window

/-!
# Page requests

The paging half of a list request: a page, a size and sort entries, each of which may be left out.
Against the limits it becomes a window; its sort entries become an order.
-/

namespace RowFilter.Page

open Json (Reading Outline)

/-- A page of a size in an order, as it is asked for (`PageQuery`). -/
structure Request where
  page : Option UInt64 := none
  size : Option UInt64 := none
  sort : List String := []
  deriving DecidableEq

namespace Request

/-- The outline of a page request. -/
def outline : Outline := { name := "PageQuery", fields := ["page", "size", "sort"] }

/-- Reads one part. -/
def set (r : Request) (field : String) (v : Json) : Reading Request := do
  match field with
  | "page" => return { r with page := ← v.readOption Json.readUInt64 }
  | "size" => return { r with size := ← v.readOption Json.readUInt64 }
  | _ => return { r with sort := ← v.readList Json.readString }

/-- A page request; whatever is left out is not asked for. -/
def ofJson (v : Json) : Reading Request := do
  let (r, _) ← outline.read set {} v
  outline.noSurplus v
  return r

/-- The page request as JSON. -/
def toJson (r : Request) : Json :=
  .object [("page", Json.ofOption Json.ofUInt64 r.page),
    ("size", Json.ofOption Json.ofUInt64 r.size), ("sort", .array (r.sort.map .string))]

/-- The window that is asked for (`PageQuery::paginate`): page and size are at least one, and the
size is cut to the largest allowed. -/
def window (r : Request) (limits : Limits) : Except Fault Window :=
  let page := r.page.getD 1
  let size := r.size.getD limits.defaultSize
  if page = 0 then .error (.invalidParameter "page" "pages start at 1")
  else if size = 0 then .error (.invalidParameter "size" "must be at least 1")
  else .ok ⟨page, match limits.maxLimit with
    | some most => min size most
    | none => size, limits.wraps⟩

/-- The order that is asked for (`PageQuery::order_by`). -/
def order (r : Request) : Except Fault Order := Order.parse r.sort

end Request
end RowFilter.Page
