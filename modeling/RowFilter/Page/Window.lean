import RowFilter.Sql.Dialect

/-!
# Page windows

A window is a page number, counted from one, and a page size. It skips the rows of the pages before
it; a product too large for sixty-four bits stays at the largest number. Once the number of rows is
known, a window that wraps and begins past them goes back to the first page.

Headline: `toNat_offset`: the rows skipped, as a number.
-/

namespace RowFilter.Page

/-- A page of some size (`Pagination`). -/
structure Window where
  page : UInt64
  size : UInt64
  wraps : Bool := false
  deriving DecidableEq

namespace Window

/-- The window of a page and a size, each at least one, that does not wrap. -/
def ofPage (page size : UInt64) : Window := ⟨max page 1, max size 1, false⟩

/-- The rows skipped before the window (`Pagination::offset`). -/
def offset (w : Window) : UInt64 :=
  UInt64.ofNat (min ((w.page.toNat - 1) * w.size.toNat) 0xffffffffffffffff)

/-- The rows skipped, as a number: what sixty-four bits cannot hold is cut to the largest they can.
-/
theorem toNat_offset (w : Window) :
    w.offset.toNat = min ((w.page.toNat - 1) * w.size.toNat) 0xffffffffffffffff := by
  have : min ((w.page.toNat - 1) * w.size.toNat) 0xffffffffffffffff < 0x10000000000000000 := by
    omega
  simp only [offset, UInt64.toNat_ofNat', Nat.mod_eq_of_lt this]

/-- The number of pages that some rows fill (`Pagination::pages`). -/
def pages (w : Window) (total : UInt64) : UInt64 :=
  UInt64.ofNat ((total.toNat + w.size.toNat - 1) / w.size.toNat)

/-- The window once the number of rows is known (`Pagination::for_total`). -/
def forTotal (w : Window) (total : UInt64) : Window :=
  if w.wraps && decide (0 < total) && decide (total ≤ w.offset) then { w with page := 1 } else w

/-- The clause that limits a query to the window (`Pagination::to_sql`). -/
def toSql (w : Window) : Sql.Dialect → String
  | .mssql => s!"OFFSET {w.offset.toNat} ROWS FETCH NEXT {w.size.toNat} ROWS ONLY"
  | _ =>
    if w.offset = 0 then s!"LIMIT {w.size.toNat}"
    else s!"LIMIT {w.size.toNat} OFFSET {w.offset.toNat}"

end Window
end RowFilter.Page
