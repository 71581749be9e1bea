import RowFilter.Page.Request
import RowFilter.Proofs.Page.Partition
import RowFilter.Proofs.Settings.Usability

/-!
# Pages within the limits that are set

A request gets the page it asks for, and a size that is cut to the largest allowed. Only a page or a
size that is asked for as zero is refused: settings that a program came by never make a size of zero
out of one that is left out or too large.

Headlines:
* `Limits.one_le_cut` and `Limits.cut_le`: what is left of a size after it has been cut;
* `Request.window_eq_ok_iff` and `Request.window_eq_error_iff`: the window that a request gets, and
  why it gets none;
* `Request.within_of_window`: that window is within the limits;
* **`window_heeds_limits`**: requests heed the limits that are set, whatever places have changed.
-/

namespace RowFilter

namespace Page

/-! ## Sizes -/

namespace Limits

variable {limits : Limits} {size most : UInt64}

/-- A size, or the largest allowed if that is smaller. -/
def cut (limits : Limits) (size : UInt64) : UInt64 :=
  match limits.maxLimit with
  | some most => min size most
  | none => size

theorem cut_le (h : limits.maxLimit = some most) : limits.cut size ≤ most := by
  unfold cut
  rw [h]
  exact Std.min_le_right

theorem one_le_of_ne_zero (h : size ≠ 0) : 1 ≤ size := by
  grind

/-- **A cut size** keeps a row, if there was one and the largest size has one. -/
theorem one_le_cut (hmost : limits.maxLimit ≠ some 0) (hsize : size ≠ 0) :
    1 ≤ limits.cut size := by
  unfold cut
  cases h : limits.maxLimit with
  | none => exact one_le_of_ne_zero hsize
  | some most =>
    have hpos : most ≠ 0 := by
      rintro rfl
      exact hmost h
    exact Std.le_min_iff.mpr ⟨one_le_of_ne_zero hsize, one_le_of_ne_zero hpos⟩

end Limits

/-! ## Requests -/

namespace Request

variable {r : Request} {limits : Limits} {w : Window} {e : Fault}

/-- The size that is asked for, or the usual one, cut to the largest allowed. -/
def cutSize (r : Request) (limits : Limits) : UInt64 :=
  limits.cut (r.size.getD limits.defaultSize)

/-- The fault of a request for a page before the first. -/
def noPage : Fault := .invalidParameter "page" "pages start at 1"

/-- The fault of a request for pages without a row. -/
def noSize : Fault := .invalidParameter "size" "must be at least 1"

/-- Why a request has no window, and the fault that tells of it. The page is looked at first. -/
inductive Refuses (r : Request) : Fault → Prop where
  | page (h : r.page = some 0) : Refuses r noPage
  | size (hpage : r.page ≠ some 0) (h : r.size = some 0) : Refuses r noSize

theorem getD_eq_zero_iff {asked : Option UInt64} {usual : UInt64} (h : usual ≠ 0) :
    asked.getD usual = 0 ↔ asked = some 0 := by
  cases asked with
  | none => simp [h]
  | some n => simp

/-- What becomes of a request, by what it asks for, where the usual size is not zero. -/
theorem window_eq (h : limits.defaultSize ≠ 0) (r : Request) :
    r.window limits =
      if r.page = some 0 then .error noPage
      else if r.size = some 0 then .error noSize
      else .ok ⟨r.page.getD 1, r.cutSize limits, limits.wraps⟩ := by
  have hpage : r.page.getD 1 = 0 ↔ r.page = some 0 := getD_eq_zero_iff (by decide)
  have hsize : r.size.getD limits.defaultSize = 0 ↔ r.size = some 0 := getD_eq_zero_iff h
  unfold window
  simp only [hpage, hsize]
  rfl

/-- **The window of a request**: the page and the size that are asked for, the size cut. -/
theorem window_eq_ok_iff (h : limits.defaultSize ≠ 0) :
    r.window limits = .ok w ↔ r.page ≠ some 0 ∧ r.size ≠ some 0 ∧
      w = ⟨r.page.getD 1, r.cutSize limits, limits.wraps⟩ := by
  rw [window_eq h]
  by_cases hpage : r.page = some 0
  · simp [hpage]
  · by_cases hsize : r.size = some 0
    · simp [hpage, hsize]
    · simp [hpage, hsize, eq_comm]

/-- **A request is refused** for one of the reasons. -/
theorem window_eq_error_iff (h : limits.defaultSize ≠ 0) :
    r.window limits = .error e ↔ r.Refuses e := by
  rw [window_eq h]
  constructor
  · intro he
    split at he
    · rename_i hpage
      obtain rfl := Except.error.inj he
      exact .page hpage
    · rename_i hpage
      split at he
      · rename_i hsize
        obtain rfl := Except.error.inj he
        exact .size hpage hsize
      · cases he
  · intro he
    cases he with
    | page hpage => rw [if_pos hpage]
    | size hpage hsize => rw [if_neg hpage, if_pos hsize]

/-- A request is refused for some reason exactly if it asks for a page or a size of zero. -/
theorem exists_refuses_iff : (∃ e, r.Refuses e) ↔ r.page = some 0 ∨ r.size = some 0 := by
  constructor
  · rintro ⟨e, hpage | ⟨-, hsize⟩⟩
    · exact .inl hpage
    · exact .inr hsize
  · intro h
    by_cases hpage : r.page = some 0
    · exact ⟨_, .page hpage⟩
    · exact ⟨_, .size hpage (h.resolve_left hpage)⟩

/-- **The fault is the client's**, and names the page if that is at fault, and else the size. -/
theorem Refuses.client (h : r.Refuses e) : e.code = .invalidParameter ∧ e.isClient = true ∧
    e.Names (if r.page = some 0 then "page" else "size") := by
  cases h with
  | page hpage =>
    rw [if_pos hpage]
    exact ⟨rfl, rfl, Fault.names_invalidParameter _ _⟩
  | size hpage _ =>
    rw [if_neg hpage]
    exact ⟨rfl, rfl, Fault.names_invalidParameter _ _⟩

/-- The window is a page of one row or more, as a request asks for it and within the limits. -/
structure Within (r : Request) (limits : Limits) (w : Window) : Prop where
  page : w.page = r.page.getD 1
  one_le_page : 1 ≤ w.page
  size : w.size = r.cutSize limits
  one_le_size : 1 ≤ w.size
  size_le : ∀ most, limits.maxLimit = some most → w.size ≤ most
  /-- The size divides any number of rows into pages. -/
  lt_pages_iff : ∀ (total : UInt64) (n : Nat),
    n < (w.pages total).toNat ↔ n * w.size.toNat < total.toNat

/-- **The window that a request gets** is within limits that allow a row. -/
theorem within_of_window (hdefault : limits.defaultSize ≠ 0) (hmost : limits.maxLimit ≠ some 0)
    (hw : r.window limits = .ok w) : r.Within limits w := by
  obtain ⟨hpage, hsize, rfl⟩ := (window_eq_ok_iff hdefault).mp hw
  have hnumber : r.page.getD 1 ≠ 0 := fun h => hpage ((getD_eq_zero_iff (by decide)).mp h)
  have hrows : r.size.getD limits.defaultSize ≠ 0 := fun h =>
    hsize ((getD_eq_zero_iff hdefault).mp h)
  have hcut : 1 ≤ r.cutSize limits := Limits.one_le_cut hmost hrows
  exact {
    page := rfl
    one_le_page := Limits.one_le_of_ne_zero hnumber
    size := rfl
    one_le_size := hcut
    size_le := fun _ => Limits.cut_le
    lt_pages_iff := fun _ _ => Window.lt_pages_iff hcut }

/-- What becomes of a request under some limits. -/
structure Heeds (r : Request) (limits : Limits) : Prop where
  /-- It fails exactly if a page or a size of zero is asked for. -/
  exists_error_iff : (∃ e, r.window limits = .error e) ↔ r.page = some 0 ∨ r.size = some 0
  /-- Then the fault is the client's, and names the page first and the size otherwise. -/
  client : ∀ e, r.window limits = .error e → e.code = .invalidParameter ∧ e.isClient = true ∧
    e.Names (if r.page = some 0 then "page" else "size")
  /-- Otherwise there is a window within the limits. -/
  within : ∀ w, r.window limits = .ok w → r.Within limits w

end Request

end Page

/-! ## Settings -/

namespace Settings

variable {s : Settings}

/-- **Requests heed the limits that are set**: however a program came by its settings, the only
requests that it refuses are for a page or a size of zero, and every other one gets a page of one
row or more, and of no more than the largest size that is set. -/
theorem window_heeds_limits (hs : Obtained s) (r : Page.Request) : r.Heeds s.limits := by
  -- No text and no override leaves a usual or a largest size of zero.
  obtain ⟨-, -, -, hdefault, hmost⟩ := hs.isUsable
  constructor
  · rw [← Page.Request.exists_refuses_iff]
    exact exists_congr fun _ => Page.Request.window_eq_error_iff hdefault
  · intro e he
    exact ((Page.Request.window_eq_error_iff hdefault).mp he).client
  · intro w hw
    exact Page.Request.within_of_window hdefault hmost hw

/-- One place takes the limit of pages away, and another sets it below the usual size. -/
def limitsText : String :=
  "[pagination]\nmax_limit=50\n[environments.bulk.pagination]\nmax_limit=-1\n" ++
  "[environments.small.pagination]\nmax_limit=7"

/-- The settings of the text. -/
def limitsSettings : Settings where
  limits := { maxLimit := some 50 }
  overrides := [("bulk", { limits := some { maxLimit := some (-1) } }),
    ("small", { limits := some { maxLimit := some 7 } })]

/-- The settings of the one place. -/
def bulkSettings : Settings where
  overrides := [("small", { limits := some { maxLimit := some 7 } })]

/-- The settings of the one place and then of the other. -/
def smallSettings : Settings := { limits := { maxLimit := some 7 } }

theorem ofText_limitsText : ofText .empty limitsText = .ok limitsSettings := by
  have htext : (ofText .empty limitsText).toOption = some limitsSettings := by decide +kernel
  exact Outcome.eq_ok_of_toOption htext

theorem obtained_bulkSettings : Obtained bulkSettings := by
  have hbulk : limitsSettings.withOverride "bulk" = .ok bulkSettings := by rfl
  exact .place (.text ofText_limitsText) hbulk

theorem obtained_smallSettings : Obtained smallSettings := by
  have hsmall : bulkSettings.withOverride "small" = .ok smallSettings := by rfl
  exact .place obtained_bulkSettings hsmall

/-- A request without a size gets the largest allowed where the usual size is larger, and no size is
too large where the limit has been taken away. -/
theorem smallSettings_heeds_limits :
    Obtained smallSettings ∧ Page.Request.Heeds { page := some 3 } smallSettings.limits ∧
      Page.Request.window { page := some 3 } smallSettings.limits = .ok ⟨3, 7, false⟩ ∧
      Page.Request.window { size := some 0xffffffffffffffff } bulkSettings.limits =
        .ok ⟨1, 0xffffffffffffffff, false⟩ :=
  ⟨obtained_smallSettings, window_heeds_limits obtained_smallSettings _, by rfl, by rfl⟩

end Settings

end RowFilter
