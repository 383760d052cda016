import GoOdin.Numeric.Binary64
import GoOdin.Text.Decimal

/-!
# `models.Paginate`: pages, limits and offsets

The page and the page size arrive as texts. A page size that is too large or not positive is
replaced, and a page that reads as zero is the first one; a negative page is taken as it is.
The offset is a product of machine integers. The number of pages is a quotient of doubles,
rounded up.

`strconv.Atoi` is a parameter: the number it returns for a text, its error being ignored.
-/

namespace GoOdin.Gorm

structure Paginate where
  page : String
  pageSize : String
  offset : Int64 := 0
  total : Int64 := 0
  pageCount : Int64 := 0
  deriving DecidableEq, Repr

/-- The rows that a query asks for with `Offset` and `Limit`. -/
structure Window where
  offset : Int64
  limit : Int64
  deriving DecidableEq, Repr

/-- The row with this index is asked for. -/
def Window.Contains (w : Window) (row : Int) : Prop :=
  w.offset.toInt ≤ row ∧ row < w.offset.toInt + w.limit.toInt

/-- The expression `int(math.Ceil(float64(total) / float64(pageSize)))`, for a divisor that
is not zero. -/
def countPages (total pageSize : Int64) : Int64 :=
  Int64.ofInt ⌈Binary64.div (Binary64.round total.toInt) (Binary64.round pageSize.toInt)⌉

namespace Paginate

def setPageCount (p : Paginate) (total pageSize : Int64) : Paginate :=
  { p with total := total, pageCount := countPages total pageSize }

variable (atoi : String → Int64)

/-- The page after the test for zero. -/
def currentPage (p : Paginate) : Int64 :=
  let page := atoi p.page
  if page = 0 then 1 else page

/-- The page size after the switch. -/
def limit (p : Paginate) : Int64 :=
  let pageSize := atoi p.pageSize
  if 100 < pageSize then 100 else if pageSize ≤ 0 then 10 else pageSize

def setPagination (p : Paginate) : Paginate :=
  { p with
    pageCount := countPages p.total (p.limit atoi)
    offset := (p.currentPage atoi - 1) * p.limit atoi }

/-- `Pagination`: what the scope it returns does to its receiver and to the query. The scope
has the statements of `SetPagination`. -/
def pagination (p : Paginate) : Paginate × Window :=
  (p.setPagination atoi, ⟨(p.currentPage atoi - 1) * p.limit atoi, p.limit atoi⟩)

/-- `WithPagination`, when `Count` found this number of rows. -/
def withPagination (count : Int64) (p : Paginate) : Paginate × Window :=
  { p with total := count }.pagination atoi

variable {atoi} {p : Paginate}

theorem limit_bounds (atoi : String → Int64) (p : Paginate) :
    1 ≤ (p.limit atoi).toInt ∧ (p.limit atoi).toInt ≤ 100 := by
  unfold limit
  dsimp only
  split_ifs with large small
  · decide
  · decide
  · have upper := Int64.le_iff_toInt_le.mp (Int64.not_lt.mp large)
    have lower := Int64.lt_iff_toInt_lt.mp (Int64.not_le.mp small)
    exact ⟨lower, upper⟩

/-- The page is at least one exactly if its text does not read as a negative number. -/
theorem one_le_currentPage_iff :
    1 ≤ (p.currentPage atoi).toInt ↔ 0 ≤ (atoi p.page).toInt := by
  unfold currentPage
  dsimp only
  split_ifs with zero
  · rw [zero]
    decide
  · have nonzero : (atoi p.page).toInt ≠ 0 := fun same => zero (Int64.toInt_inj.mp same)
    omega

/-- The offset of a page whose product is in the range of `int`. -/
theorem toInt_offset {page limit : Int64} (positive : 1 ≤ page.toInt) (limited : 1 ≤ limit.toInt)
    (fits : (page.toInt - 1) * limit.toInt < 2 ^ 63) :
    ((page - 1) * limit).toInt = (page.toInt - 1) * limit.toInt := by
  have upper := page.toInt_lt
  have before : (page - 1).toInt = page.toInt - 1 := by
    rw [Int64.toInt_sub]
    apply Int.bmod_eq_of_le <;> simp <;> omega
  have nonneg : 0 ≤ (page.toInt - 1) * limit.toInt := by positivity
  rw [Int64.toInt_mul, before]
  apply Int.bmod_eq_of_le <;> omega

/-- A window as a page should have it: a limit from 1 to 100, a page that is at least 1, and
the offset that is the exact product. -/
def WellFormed (page : Int64) (w : Window) : Prop :=
  1 ≤ w.limit.toInt ∧ w.limit.toInt ≤ 100 ∧ 1 ≤ page.toInt ∧ 0 ≤ w.offset.toInt ∧
    w.offset.toInt = (page.toInt - 1) * w.limit.toInt

/-- For every text of page and page size: `SetPagination` and `Pagination` compute a
well-formed window exactly if the page does not read as a negative number and the product of
page and limit is in the range of `int`. -/
theorem window_wellFormed_iff (atoi : String → Int64) (p : Paginate) :
    (WellFormed (p.currentPage atoi) ⟨(p.setPagination atoi).offset, p.limit atoi⟩ ∧
        WellFormed (p.currentPage atoi) (p.pagination atoi).2) ↔
      0 ≤ (atoi p.page).toInt ∧
        ((p.currentPage atoi).toInt - 1) * (p.limit atoi).toInt < 2 ^ 63 := by
  obtain ⟨atLeast, atMost⟩ := limit_bounds atoi p
  rw [← one_le_currentPage_iff]
  constructor
  · rintro ⟨⟨-, -, positive, -, product⟩, -⟩
    have inRange := (p.setPagination atoi).offset.toInt_lt
    exact ⟨positive, product ▸ inRange⟩
  · rintro ⟨positive, fits⟩
    have product := toInt_offset positive atLeast fits
    have nonneg : 0 ≤ ((p.currentPage atoi).toInt - 1) * (p.limit atoi).toInt := by positivity
    have wellFormed : WellFormed (p.currentPage atoi)
        ⟨(p.currentPage atoi - 1) * p.limit atoi, p.limit atoi⟩ :=
      ⟨atLeast, atMost, positive, product ▸ nonneg, product⟩
    exact ⟨wellFormed, wellFormed⟩

/-- A negative page gives a negative offset, and the last page that `Atoi` knows makes the
product wrap around. -/
theorem negative_and_huge_pages_break_window :
    (pagination Decimal.atoi ⟨"-1", "10", 0, 0, 0⟩).2 = ⟨-20, 10⟩ ∧
      (pagination Decimal.atoi ⟨"9223372036854775807", "100", 0, 0, 0⟩).2 = ⟨-200, 100⟩ := by
  decide

/-! ## The pages of a result -/

/-- The quotient of doubles is rounded up as the exact one is. -/
theorem countPages_eq {total limit : Int64} {t l : ℕ} (isTotal : total.toInt = t)
    (isLimit : limit.toInt = l) (fits : t < 2 ^ 53) (positive : 0 < l) (small : l < 2 ^ 53) :
    (countPages total limit).toInt = ⌈(t : ℚ) / l⌉ := by
  have quotient : countPages total limit = Int64.ofInt ⌈(t : ℚ) / l⌉ := by
    rw [countPages, isTotal, isLimit, Int.cast_natCast, Int.cast_natCast,
      Binary64.round_natCast fits, Binary64.round_natCast small,
      Binary64.ceil_div_natCast fits positive]
  have nonneg : 0 ≤ ⌈(t : ℚ) / l⌉ := Int.ceil_nonneg (by positivity)
  have bound : ⌈(t : ℚ) / l⌉ ≤ t := by
    rw [Int.ceil_le]
    exact div_le_self (by positivity) (by exact_mod_cast positive)
  rw [quotient, Int64.toInt_ofInt_of_le (by omega) (by omega)]

/-- The pages are those with a first row. -/
theorem le_countPages_iff {total limit : Int64} (nonneg : 0 ≤ total.toInt)
    (fits : total.toInt < 2 ^ 53) (positive : 1 ≤ limit.toInt) (small : limit.toInt ≤ 100)
    (k : Int) :
    k ≤ (countPages total limit).toInt ↔ (k - 1) * limit.toInt < total.toInt := by
  obtain ⟨t, isTotal⟩ := Int.eq_ofNat_of_zero_le nonneg
  obtain ⟨l, isLimit⟩ := Int.eq_ofNat_of_zero_le (Int.le_trans (by decide) positive)
  have lPos : (0 : ℚ) < l := by
    have : 0 < l := by omega
    exact_mod_cast this
  have step : ((k - 1 : Int) : ℚ) < t / l ↔ (k - 1) * (l : Int) < t := by
    rw [lt_div_iff₀ lPos]
    exact_mod_cast Iff.rfl
  rw [countPages_eq isTotal isLimit (by omega) (by omega) (by omega), ← Int.sub_one_lt_iff,
    Int.lt_ceil, step, isTotal, isLimit]

/-- Blocks of one size cover every number once: the block of a number is found by
division. -/
theorem block_contains_iff {size row : Int} (positive : 0 < size) (q : Int) :
    (q * size ≤ row ∧ row < q * size + size) ↔ q = row / size := by
  have next : q * size + size = (q + 1) * size := by ring
  rw [next, ← Int.le_ediv_iff_mul_le positive, ← Int.ediv_lt_iff_lt_mul positive]
  omega

/-- The receiver with another page. -/
def withPage (p : Paginate) (k : Nat) : Paginate := { p with page := toString k }

/-- The window of each page that has a first row. -/
theorem window_withPage (reads : ∀ n : Nat, n < 2 ^ 63 → atoi (toString n) = Int64.ofNat n)
    {k : Nat} (first : 1 ≤ k) (inRange : ((k : Int) - 1) * (p.limit atoi).toInt < 2 ^ 53) :
    (((p.withPage k).pagination atoi).2.offset).toInt = (k - 1) * (p.limit atoi).toInt := by
  obtain ⟨atLeast, -⟩ := limit_bounds atoi p
  have bound : (k : Int) - 1 < 2 ^ 53 := by
    refine lt_of_le_of_lt ?_ inRange
    exact le_mul_of_one_le_right (by omega) atLeast
  have page : ((p.withPage k).currentPage atoi).toInt = k := by
    have read : atoi (toString k) = Int64.ofNat k := reads k (by omega)
    have value : (Int64.ofNat k).toInt = k := Int64.toInt_ofNat_of_lt (by omega)
    have nonzero : Int64.ofNat k ≠ 0 := by
      intro zero
      rw [zero] at value
      have : (0 : Int64).toInt = 0 := rfl
      omega
    show (if atoi (toString k) = 0 then (1 : Int64) else atoi (toString k)).toInt = k
    rw [read, if_neg nonzero, value]
  have product : (((p.withPage k).currentPage atoi - 1) * p.limit atoi).toInt =
      (((p.withPage k).currentPage atoi).toInt - 1) * (p.limit atoi).toInt :=
    toInt_offset (by omega) atLeast (by rw [page]; omega)
  rw [page] at product
  exact product

/-- The pages partition a result, for every number of rows that a double holds exactly and
every text of the page size: each row is in the window of exactly one of the pages from 1 to
the number of pages, and each of these windows has a row. -/
theorem pages_partition (reads : ∀ n : Nat, n < 2 ^ 63 → atoi (toString n) = Int64.ofNat n)
    (p : Paginate) (nonneg : 0 ≤ p.total.toInt) (fits : p.total.toInt < 2 ^ 53) :
    let window := fun k => ((p.withPage k).pagination atoi).2
    let pageCount := fun k => ((p.withPage k).pagination atoi).1.pageCount
    (∀ k, pageCount k = pageCount 1) ∧
    (∀ row : Int, 0 ≤ row → row < p.total.toInt →
      ∃! k : Nat, (1 ≤ k ∧ (k : Int) ≤ (pageCount 1).toInt) ∧ (window k).Contains row) ∧
    ∀ k : Nat, 1 ≤ k → (k : Int) ≤ (pageCount 1).toInt →
      ∃ row : Int, 0 ≤ row ∧ row < p.total.toInt ∧ (window k).Contains row := by
  intro window pageCount
  obtain ⟨atLeast, atMost⟩ := limit_bounds atoi p
  have hasFirst : ∀ k : Nat, (k : Int) ≤ (pageCount 1).toInt ↔
      ((k : Int) - 1) * (p.limit atoi).toInt < p.total.toInt :=
    fun k => le_countPages_iff nonneg fits atLeast atMost k
  have offset : ∀ k : Nat, 1 ≤ k → (k : Int) ≤ (pageCount 1).toInt →
      (window k).offset.toInt = (k - 1) * (p.limit atoi).toInt := by
    intro k first last
    exact window_withPage reads first (Int.lt_trans ((hasFirst k).mp last) fits)
  have limit : ∀ k, (window k).limit.toInt = (p.limit atoi).toInt := fun _ => rfl
  set size := (p.limit atoi).toInt with isSize
  refine ⟨fun k => rfl, fun row rowNonneg rowBound => ?_, fun k first last => ?_⟩
  · have holds : ∀ k : Nat, 1 ≤ k → (k : Int) ≤ (pageCount 1).toInt →
        ((window k).Contains row ↔ (k : Int) - 1 = row / size) := by
      intro k first last
      rw [Window.Contains, offset k first last, limit]
      exact block_contains_iff (by omega) _
    have quotient : 0 ≤ row / size := Int.ediv_nonneg rowNonneg (by omega)
    have number : (((row / size).toNat + 1 : Nat) : Int) - 1 = row / size := by omega
    have last : (((row / size).toNat + 1 : Nat) : Int) ≤ (pageCount 1).toInt := by
      rw [hasFirst, number]
      exact Int.lt_of_le_of_lt (Int.ediv_mul_le row (by omega)) rowBound
    refine ⟨(row / size).toNat + 1, ⟨⟨by omega, last⟩, (holds _ (by omega) last).mpr number⟩, ?_⟩
    rintro k ⟨⟨first, isLast⟩, contains⟩
    have same := (holds k first isLast).mp contains
    omega
  · refine ⟨(k - 1) * size, ?_, (hasFirst k).mp last, ?_⟩
    · exact Int.mul_nonneg (by omega) (by omega)
    · rw [Window.Contains, offset k first last, limit]
      omega

/-- Eleven rows on pages of ten: the last row is on the second page alone. -/
theorem pages_partition_eleven :
    ∃! k : Nat, (1 ≤ k ∧ (k : Int) ≤
        (((withPage ⟨"", "10", 0, 11, 0⟩ 1).pagination Decimal.atoi).1.pageCount).toInt) ∧
      ((withPage ⟨"", "10", 0, 11, 0⟩ k).pagination Decimal.atoi).2.Contains 10 :=
  (pages_partition (fun _ => Decimal.atoi_toString) ⟨"", "10", 0, 11, 0⟩ (by decide)
    (by decide)).2.1 10 (by decide) (by decide)

end Paginate

end GoOdin.Gorm
