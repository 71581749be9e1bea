import RowFilter.Json.Decode

/-!
# Page limits

The page size that is used when a request gives none, the largest that it may ask for, and what
happens past the last page. On paper the largest size is a signed number, minus one standing for no
limit.
-/

namespace RowFilter.Page

open Json (Reading Outline)

/-- What pages may be asked for (`PaginationConfig`). -/
structure Limits where
  defaultSize : UInt64 := 10
  maxLimit : Option UInt64 := none
  /-- A page past the last one becomes the first. -/
  wraps : Bool := false
  deriving DecidableEq

/-- Why a written limit is none. -/
def badLimit (n : Int64) : String :=
  s!"pagination.max_limit must be positive, or -1 for no limit, found {n.toInt}"

/-- The limit that a written one stands for (`page_limit`). -/
def limitOf (n : Int64) : Except String (Option UInt64) :=
  if n.toInt = -1 then .ok none
  else if 0 ≤ n.toInt then .ok (some (UInt64.ofNat n.toInt.toNat))
  else .error (badLimit n)

namespace Limits

/-- The outline of limits. -/
def outline : Outline where
  name := "PaginationConfig"
  fields := ["default_size", "max_limit", "overflow"]
  isClosed := true

/-- Reads a limit, which may be null. -/
def readLimit (v : Json) : Reading (Option UInt64) := do
  match ← v.readOption Json.readInt64 with
  | some n => (limitOf n).mapError .refused
  | none => return none

/-- Reads one part. -/
def set (limits : Limits) (field : String) (v : Json) : Reading Limits := do
  match field with
  | "default_size" => return { limits with defaultSize := ← v.readUInt64 }
  | "max_limit" => return { limits with maxLimit := ← readLimit v }
  | _ => return { limits with wraps := ← v.readBool }

/-- Limits, the parts left out being the usual ones; what an array holds beyond them is not looked
at. -/
def readParts (v : Json) : Reading Limits := do
  let (limits, _) ← outline.read set {} v
  return limits

/-- Limits, the parts left out being the usual ones. -/
def ofJson (v : Json) : Reading Limits := do
  let limits ← readParts v
  outline.noSurplus v
  return limits

/-- The limits as JSON, without a largest size if there is none. -/
def toJson (limits : Limits) : Json :=
  .object ([("default_size", Json.ofUInt64 limits.defaultSize)]
    ++ (limits.maxLimit.toList.map fun n => ("max_limit", Json.ofUInt64 n))
    ++ [("overflow", .bool limits.wraps)])

end Limits
end RowFilter.Page
