import Mathlib.Algebra.Order.Floor.Div
import RowFilter.Page.Window

/-!
# Pages share out the rows

Pages of one size, as many as some rows fill, share these rows out. All of it rests on one
comparison: a number is below that of the pages exactly when its product with the size is below that
of the rows. An offset among the rows is therefore never one that was cut to the largest number, and
whether a page begins past the rows can be told from its offset, cut or not.

Headlines:
* `lt_pages_iff`: the comparison that pages are counted by;
* `offset_lt_iff`: a page begins among the rows exactly when it is one of their pages;
* **`pages_partition`**: each row is shown by exactly one of the pages, and none by a later one;
* **`forTotal_settles`**: a window that wraps leaves its page exactly when that is past the last.
-/

namespace RowFilter.Page.Window

variable {w : Window} {total page : UInt64} {i n : Nat}

/-- The window of the same size at another page. -/
def turnTo (w : Window) (page : UInt64) : Window := { w with page }

/-- The window shows the row with this index, counted from zero. -/
def Shows (w : Window) (i : Nat) : Prop :=
  w.offset.toNat ≤ i ∧ i < w.offset.toNat + w.size.toNat

/-! ## Counting pages -/

/-- The number of pages is the quotient, rounded up. It fits, as there are no more pages than
rows. -/
theorem toNat_pages (w : Window) (total : UInt64) :
    (w.pages total).toNat = total.toNat ⌈/⌉ w.size.toNat := by
  have hle : total.toNat ⌈/⌉ w.size.toNat ≤ total.toNat := by
    rcases Nat.eq_zero_or_pos w.size.toNat with hzero | hpos
    · rw [hzero, ceilDiv_zero]
      exact Nat.zero_le _
    · rw [ceilDiv_le_iff_le_mul hpos]
      exact Nat.le_mul_of_pos_left _ hpos
  have hfits : total.toNat ⌈/⌉ w.size.toNat < 2 ^ 64 := hle.trans_lt total.toNat_lt
  rw [Nat.ceilDiv_eq_add_pred_div] at hfits ⊢
  rw [pages, UInt64.toNat_ofNat', Nat.mod_eq_of_lt hfits]

/-- **Counting pages**: a number is below that of the pages exactly when its product with the size
is below that of the rows. -/
theorem lt_pages_iff (hsize : 1 ≤ w.size) :
    n < (w.pages total).toNat ↔ n * w.size.toNat < total.toNat := by
  have hpos : 0 < w.size.toNat := UInt64.le_iff_toNat_le.mp hsize
  rw [toNat_pages, ← not_le, ceilDiv_le_iff_le_mul hpos, not_le, Nat.mul_comm]

/-- **A page begins among the rows** exactly when it is one of their pages. Where the product is cut
to the largest number, there are not so many rows. -/
theorem offset_lt_iff (hpage : 1 ≤ w.page) (hsize : 1 ≤ w.size) :
    w.offset < total ↔ w.page ≤ w.pages total := by
  have hfirst : 1 ≤ w.page.toNat := UInt64.le_iff_toNat_le.mp hpage
  have hlt : w.page.toNat - 1 < (w.pages total).toNat ↔
      (w.page.toNat - 1) * w.size.toNat < total.toNat := lt_pages_iff hsize
  -- The number of rows is at most the largest number, so an offset cut to that is not below it.
  have hmost : total.toNat < 2 ^ 64 := total.toNat_lt
  rw [UInt64.lt_iff_toNat_lt, UInt64.le_iff_toNat_le, toNat_offset]
  omega

/-- The offset of a page that begins among the rows is the exact product. -/
theorem toNat_offset_of_lt (h : w.offset < total) :
    w.offset.toNat = (w.page.toNat - 1) * w.size.toNat := by
  have hmost : total.toNat < 2 ^ 64 := total.toNat_lt
  rw [UInt64.lt_iff_toNat_lt] at h
  rw [toNat_offset] at h ⊢
  omega

/-! ## The page of a row -/

/-- One of the pages shows a row exactly when it is the quotient of the index by the size, counted
from one. -/
theorem shows_iff (hpage : 1 ≤ w.page) (hsize : 1 ≤ w.size) (hle : w.page ≤ w.pages total) :
    w.Shows i ↔ w.page.toNat = i / w.size.toNat + 1 := by
  have hpos : 0 < w.size.toNat := UInt64.le_iff_toNat_le.mp hsize
  obtain ⟨before, hbefore⟩ : ∃ before, w.page.toNat = before + 1 :=
    Nat.exists_eq_add_of_le' (UInt64.le_iff_toNat_le.mp hpage)
  rw [Shows, toNat_offset_of_lt ((offset_lt_iff hpage hsize).mpr hle), hbefore,
    Nat.add_sub_cancel, Nat.add_right_cancel_iff, eq_comm, Nat.div_eq_iff hpos]
  have hnext : (before + 1) * w.size.toNat = before * w.size.toNat + w.size.toNat :=
    Nat.succ_mul _ _
  omega

/-- Each row has a page among those that the rows fill. -/
theorem exists_page (hsize : 1 ≤ w.size) (hi : i < total.toNat) :
    ∃ page : UInt64, page.toNat = i / w.size.toNat + 1 ∧ page ≤ w.pages total := by
  have hcount : i / w.size.toNat < (w.pages total).toNat :=
    (lt_pages_iff hsize).mpr ((Nat.div_mul_le_self _ _).trans_lt hi)
  have hfits : i / w.size.toNat + 1 < 2 ^ 64 := Nat.lt_of_le_of_lt hcount (w.pages total).toNat_lt
  have hpage : (UInt64.ofNat (i / w.size.toNat + 1)).toNat = i / w.size.toNat + 1 :=
    UInt64.toNat_ofNat_of_lt' hfits
  refine ⟨.ofNat (i / w.size.toNat + 1), hpage, ?_⟩
  rw [UInt64.le_iff_toNat_le, hpage]
  exact hcount

/-- How pages of one size share out some rows. -/
structure Partitions (w : Window) (total : UInt64) : Prop where
  /-- Each row is shown by exactly one of the pages. -/
  existsUnique_shows : ∀ i < total.toNat, ∃! page : UInt64,
    1 ≤ page ∧ page ≤ w.pages total ∧ (w.turnTo page).Shows i
  /-- Each of the pages begins among the rows, past exactly the rows of the pages before it. -/
  offset_eq : ∀ page : UInt64, 1 ≤ page → page ≤ w.pages total →
    (w.turnTo page).offset.toNat = (page.toNat - 1) * w.size.toNat ∧
      (w.turnTo page).offset < total
  /-- Every later page begins past them, also where its offset is cut to the largest number. -/
  le_offset : ∀ page : UInt64, w.pages total < page → total ≤ (w.turnTo page).offset

/-- **Pages share out the rows**: each row lies on exactly one of them, whatever the size and
however many rows there are. -/
theorem pages_partition (hsize : 1 ≤ w.size) (total : UInt64) : w.Partitions total where
  existsUnique_shows i hi := by
    obtain ⟨page, hpage, hle⟩ := exists_page hsize hi
    have hfirst : 1 ≤ page := by
      rw [UInt64.le_iff_toNat_le, hpage]
      exact Nat.le_add_left 1 _
    refine ⟨page, ⟨hfirst, hle, (shows_iff (w := w.turnTo page) hfirst hsize hle).mpr hpage⟩, ?_⟩
    rintro other ⟨hother, hle', hshows⟩
    -- Both pages are the same quotient.
    have hsame := (shows_iff (w := w.turnTo other) hother hsize hle').mp hshows
    exact UInt64.toNat.inj (hsame.trans hpage.symm)
  offset_eq page hpage hle := by
    have hlt := (offset_lt_iff (w := w.turnTo page) hpage hsize).mpr hle
    exact ⟨toNat_offset_of_lt hlt, hlt⟩
  le_offset page hlt := by
    have hpage : 1 ≤ page := by
      rw [UInt64.lt_iff_toNat_lt] at hlt
      rw [UInt64.le_iff_toNat_le]
      exact Nat.one_le_of_lt hlt
    rw [← UInt64.not_lt, offset_lt_iff (w := w.turnTo page) hpage hsize]
    exact UInt64.not_le.mpr hlt

/-- Pages of more than half of the largest number. -/
def vast : Window := ⟨1, 0x8000000000000001, true⟩

/-- As many rows as there can be fill two such pages. The third begins past all of them, although
its offset, twice the size, is cut to the largest number. -/
theorem partitions_vast : 1 ≤ vast.size ∧ vast.Partitions 0xffffffffffffffff ∧
    vast.pages 0xffffffffffffffff = 2 ∧ (vast.turnTo 3).offset = 0xffffffffffffffff :=
  ⟨by decide, pages_partition (by decide) _, by decide, by decide⟩

/-! ## Wrapping -/

/-- A window goes back to the first page if it wraps and is past the last page of some rows. -/
theorem forTotal_eq (hpage : 1 ≤ w.page) (hsize : 1 ≤ w.size) (total : UInt64) :
    w.forTotal total =
      if w.wraps = true ∧ 0 < total ∧ w.pages total < w.page then w.turnTo 1 else w := by
  have hpast : total ≤ w.offset ↔ w.pages total < w.page := by
    rw [← UInt64.not_lt, offset_lt_iff hpage hsize, UInt64.not_le]
  unfold forTotal turnTo
  simp only [Bool.and_eq_true, decide_eq_true_eq, hpast, and_assoc]

/-- Rows fill at least one page. -/
theorem one_le_pages (hsize : 1 ≤ w.size) (htotal : 0 < total) : 1 ≤ w.pages total := by
  have hrow : 0 * w.size.toNat < total.toNat := by
    rw [Nat.zero_mul]
    exact UInt64.lt_iff_toNat_lt.mp htotal
  exact UInt64.le_iff_toNat_le.mpr ((lt_pages_iff hsize).mpr hrow)

/-- A window past the last page is not on the first. -/
theorem turnTo_one_ne (hsize : 1 ≤ w.size) (htotal : 0 < total) (hpast : w.pages total < w.page) :
    w.turnTo 1 ≠ w := by
  intro heq
  have hpage : w.page = 1 := (congrArg page heq).symm
  rw [hpage, ← UInt64.not_le] at hpast
  exact hpast (one_le_pages hsize htotal)

/-- What becomes of a window once the number of rows is known. -/
structure Settles (w : Window) (total : UInt64) : Prop where
  /-- It changes exactly if it wraps, there are rows, and its page is past their last one. -/
  ne_iff : w.forTotal total ≠ w ↔ w.wraps = true ∧ 0 < total ∧ w.pages total < w.page
  /-- Then it changes only its page, to the first. -/
  eq_of_ne : w.forTotal total ≠ w → w.forTotal total = { w with page := 1 }
  /-- A window that wraps is left on one of the pages, if there are any rows. -/
  among : w.wraps = true → 0 < total →
    1 ≤ (w.forTotal total).page ∧ (w.forTotal total).page ≤ (w.forTotal total).pages total ∧
      (w.forTotal total).offset < total
  /-- Nothing is left to change. -/
  again : (w.forTotal total).forTotal total = w.forTotal total

/-- **Wrapping is being past the last page**: a window goes back to the first page exactly then, and
its offset tells, also where it is cut to the largest number. -/
theorem forTotal_settles (hpage : 1 ≤ w.page) (hsize : 1 ≤ w.size) (total : UInt64) :
    w.Settles total := by
  have heq := forTotal_eq hpage hsize total
  by_cases hpast : w.wraps = true ∧ 0 < total ∧ w.pages total < w.page
  · rw [if_pos hpast] at heq
    obtain ⟨hwraps, htotal, hlt⟩ := hpast
    have hone : 1 ≤ w.pages total := one_le_pages hsize htotal
    have hfirst : 1 ≤ (w.turnTo 1).page := UInt64.le_refl 1
    constructor
    · rw [heq]
      exact iff_of_true (turnTo_one_ne hsize htotal hlt) ⟨hwraps, htotal, hlt⟩
    · exact fun _ => heq
    · intro _ _
      rw [heq]
      exact ⟨hfirst, hone, (offset_lt_iff (w := w.turnTo 1) hfirst hsize).mpr hone⟩
    · -- The first page is not past the last one, so it is left alone.
      rw [heq, forTotal_eq (w := w.turnTo 1) hfirst hsize, if_neg]
      rintro ⟨-, -, hlt⟩
      exact UInt64.not_le.mpr hlt hone
  · rw [if_neg hpast] at heq
    constructor
    · rw [heq]
      exact iff_of_false (fun hne => hne rfl) hpast
    · intro hne
      exact absurd heq hne
    · intro hwraps htotal
      have hle : w.page ≤ w.pages total := UInt64.not_lt.mp fun hlt => hpast ⟨hwraps, htotal, hlt⟩
      rw [heq]
      exact ⟨hpage, hle, (offset_lt_iff hpage hsize).mpr hle⟩
    · rw [heq, heq]

/-- The third of the vast pages is past as many rows as there can be, and becomes the first. -/
theorem settles_vast : 1 ≤ (vast.turnTo 3).page ∧ 1 ≤ (vast.turnTo 3).size ∧
    (vast.turnTo 3).Settles 0xffffffffffffffff ∧
    (vast.turnTo 3).forTotal 0xffffffffffffffff = vast ∧
    (vast.turnTo 2).forTotal 0xffffffffffffffff = vast.turnTo 2 :=
  ⟨by decide, by decide, forTotal_settles (by decide) (by decide) _, by decide, by decide⟩

end RowFilter.Page.Window
