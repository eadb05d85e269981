import Mathlib.Data.List.Dedup
import Bookwarden.Isbn.Agreement
import Bookwarden.Lib.Gaps
import Bookwarden.Lib.Grouping
import Bookwarden.Lib.Ranking
import Bookwarden.Verification.Value

/-!
# Missing volumes of a series

`SeriesGapHunter` of `curation/series.py`: the books are collected by series, and a series whose whole
positive indexes do not fill the range from 1 to the greatest of them is reported with what is missing.
A series of the first volume alone is passed over, and so is one whose indexes lie more than
`MAX_GAP_SPAN` apart.

The rows are those of the query. An index is `NULL`, a float, or a text, which a column of SQLite may
hold in spite of its type.

## Main definitions

* `SeriesRow`, `StoredIndex`
* `SeriesGapHunter.findAllGaps`

## Main results

* `SeriesGapHunter.exactSeries_iff`
* `SeriesGapHunter.zero_is_taken_for_one`
-/

namespace Bookwarden.Curation

/-- What the column `series_index` of a book holds. -/
inductive StoredIndex
  | null
  | real (x : Double)
  | text (s : String)
  deriving DecidableEq

/-- A row of the query: a book of a series. The authors are `GROUP_CONCAT(auth_name, ' & ')`. -/
structure SeriesRow where
  seriesId : ℤ
  seriesName : String
  bookId : ℤ
  title : String
  seriesIndex : StoredIndex
  authors : Option String
  deriving DecidableEq

/-- `int(x)` where `x.is_integer()`. -/
def wholeNumber : Double → Option ℤ
  | .finite q => if q.den = 1 then some q.num else none
  | _ => none

theorem wholeNumber_eq_some {x : Double} {v : ℤ} : wholeNumber x = some v ↔ x = .finite v := by
  cases x with
  | finite q =>
    rw [wholeNumber, Double.finite.injEq]
    constructor
    · intro h
      split at h
      · rename_i hden
        rw [← Option.some.inj h]
        exact (Rat.coe_int_num_of_den_eq_one hden).symm
      · cases h
    · rintro rfl
      simp
  | infinite s => simp [wholeNumber]
  | nan => simp [wholeNumber]

/-- `sorted` of a set of floats. -/
def sortedSet (xs : List Double) : List Double :=
  xs.dedup.insertionSort fun a b => Double.lt b a = false

theorem mem_sortedSet {x : Double} {xs : List Double} : x ∈ sortedSet xs ↔ x ∈ xs := by
  rw [sortedSet, List.mem_insertionSort, List.mem_dedup]

/-- `str.split(" & ")`. -/
def splitAmpersand : List Char → List (List Char)
  | ' ' :: '&' :: ' ' :: cs => [] :: splitAmpersand cs
  | c :: cs =>
    match splitAmpersand cs with
    | w :: ws => (c :: w) :: ws
    | [] => [[c]]
  | [] => [[]]

namespace SeriesGapHunter

/-- `MAX_GAP_SPAN`. -/
def maxGapSpan : ℤ := 200

/-- A book of a series, as the report shows it. -/
structure OwnedBook where
  bookId : ℤ
  title : String
  seriesIndex : Double
  deriving DecidableEq

/-- `SeriesGap`. -/
structure SeriesGap where
  seriesId : ℤ
  seriesName : String
  authors : String
  totalOwned : ℕ
  ownedIndices : List Double
  missingIndices : List ℤ
  books : List OwnedBook
  deriving DecidableEq

/-- `float(r["series_index"] or 1.0)`. -/
def floatIndex (py : RuleRuntime) : StoredIndex → Except PyError Double
  | .null => .ok (.finite 1)
  | .real x => .ok (if x = .finite 0 then .finite 1 else x)
  | .text s =>
    if s = "" then .ok (.finite 1)
    else match py.parseDouble s with
      | some x => .ok x
      | none => .error ⟨.value, "could not convert string to float: " ++ py.reprValue (.str s)⟩

/-- One round of the loop over the rows: the row and its book, under the series. -/
def readRow (py : RuleRuntime) (row : SeriesRow) :
    Except PyError (ℤ × SeriesRow × OwnedBook) :=
  (floatIndex py row.seriesIndex).map fun x => (row.seriesId, row, ⟨row.bookId, row.title, x⟩)

/-- The stripped names of the authors of a series. -/
def authorNames (rows : List SeriesRow) : List String :=
  distinct (((rows.flatMap fun row => splitAmpersand (row.authors.getD "").toList).map
    fun name => String.ofList (stripChars name)).filter fun name => name ≠ "")

/-- `int_indices`. -/
def intIndices (indices : List Double) : List ℤ :=
  (indices.filterMap fun x => (wholeNumber x).filter fun v => 1 ≤ v).dedup

/-- `expected_range` of the whole indexes, unless the series is passed over. -/
def expectedRange (intIndices : List ℤ) : Option (List ℤ) :=
  match intIndices.min?, intIndices.max? with
  | some minIdx, some maxIdx =>
    -- the first volume alone shows no gap yet
    if intIndices.length = 1 ∧ minIdx = 1 then none
    else if maxIdx - minIdx > maxGapSpan then none
    else some (Gaps.range 1 (maxIdx + 1))
  | _, _ => none

/-- One round of the loop over the series. -/
def gapOf (minOwnedThreshold : ℤ) (series : ℤ × List (SeriesRow × OwnedBook)) :
    Option SeriesGap :=
  let books := series.2.map Prod.snd
  if (books.length : ℤ) < minOwnedThreshold then none
  else
    let indices := sortedSet (books.map OwnedBook.seriesIndex)
    match expectedRange (intIndices indices) with
    | none => none
    | some expected =>
      let missing := (expected.filter fun i => i ∉ intIndices indices).insertionSort (· ≤ ·)
      if missing = [] then none
      else
        let authors := authorNames (series.2.map Prod.fst)
        some {
          seriesId := series.1
          seriesName := ((series.2.map fun p => p.1.seriesName).getLast?).getD ""
          authors := if authors = [] then "Unknown" else " & ".intercalate (sorted authors)
          totalOwned := books.length
          ownedIndices := indices
          missingIndices := missing
          books := books }

/-- `find_all_gaps`; the threshold is 1 unless it is given. -/
def findAllGaps (py : RuleRuntime) (minOwnedThreshold : ℤ) (rows : List SeriesRow) :
    Except PyError (List SeriesGap) := do
  let entries ← rows.mapM (readRow py)
  let seriesMap := Grouping.collect entries
  return Ranking.ranked (fun gap => gap.missingIndices.length)
    (seriesMap.filterMap (gapOf minOwnedThreshold))

/-! ### What a report should be -/

section Notions

variable (py : RuleRuntime) (rows : List SeriesRow) (sid : ℤ)

/-- Some book of the series has the index. -/
def HasIndex (q : ℚ) : Prop :=
  ∃ row ∈ rows, row.seriesId = sid ∧ row.seriesIndex = .real (.finite q)

/-- Some book of the series has no index, or the index zero. -/
def Coerced : Prop :=
  ∃ row ∈ rows, row.seriesId = sid ∧
    (row.seriesIndex = .null ∨ row.seriesIndex = .real (.finite 0))

/-- Every book of the series has a finite index or none. -/
def FiniteSeries : Prop :=
  ∀ row ∈ rows, row.seriesId = sid →
    row.seriesIndex = .null ∨ ∃ q, row.seriesIndex = .real (.finite q)

/-- Every text in the column can be read as a float. -/
def Readable : Prop :=
  ∀ row ∈ rows, ∀ s, row.seriesIndex = .text s → s ≠ "" → (py.parseDouble s).isSome = true

/-- `indices`: what counts as owned. -/
def countedIndices : List Double :=
  sortedSet ((rows.filter fun row => row.seriesId = sid).filterMap fun row =>
    (floatIndex py row.seriesIndex).toOption)

/-- The range that is built for the series. -/
def rangeBuilt : List ℤ := (expectedRange (intIndices (countedIndices py rows sid))).getD []

/-- What is reported as missing for the series. -/
def reported (gaps : List SeriesGap) : List ℤ :=
  (gaps.filter fun gap => gap.seriesId = sid).flatMap SeriesGap.missingIndices

/-- Two whole indexes from 1 on lie too far apart. -/
def Implausible : Prop :=
  ∃ v w : ℤ, 1 ≤ v ∧ HasIndex rows sid v ∧ HasIndex rows sid w ∧ maxGapSpan < w - v

/-- The report is exact for the series, and bounded. -/
structure ExactSeries (gaps : List SeriesGap) : Prop where
  exact : Implausible rows sid ∨
    ∀ v : ℤ, v ∈ reported sid gaps ↔
      1 ≤ v ∧ ¬HasIndex rows sid v ∧ ∃ m : ℤ, HasIndex rows sid m ∧ v ≤ m
  increasing : (reported sid gaps).Pairwise (· < ·)
  counted : ∀ x ∈ countedIndices py rows sid, ∃ q, x = .finite q ∧ HasIndex rows sid q
  bounded : ((reported sid gaps).length : ℤ) ≤ maxGapSpan
  boundedRange : ((rangeBuilt py rows sid).length : ℤ) ≤ maxGapSpan

end Notions

variable {py : RuleRuntime} {rows : List SeriesRow} {sid : ℤ}

/-! ### Whole indexes -/

theorem mem_intIndices {indices : List Double} {v : ℤ} :
    v ∈ intIndices indices ↔ 1 ≤ v ∧ Double.finite v ∈ indices := by
  rw [intIndices, List.mem_dedup, List.mem_filterMap]
  constructor
  · rintro ⟨x, hx, hv⟩
    obtain ⟨hwhole, hpos⟩ := Option.filter_eq_some_iff.mp hv
    rw [wholeNumber_eq_some.mp hwhole] at hx
    exact ⟨by simpa using hpos, hx⟩
  · rintro ⟨hpos, hmem⟩
    exact ⟨_, hmem, Option.filter_eq_some_iff.mpr ⟨wholeNumber_eq_some.mpr rfl, by simpa using hpos⟩⟩

theorem nodup_intIndices (indices : List Double) : (intIndices indices).Nodup :=
  List.nodup_dedup _

/-- A series is passed over when it shows the first volume at most, or too wide a span. -/
theorem expectedRange_eq_none {ints : List ℤ} (hnodup : ints.Nodup) :
    expectedRange ints = none ↔
      (∀ v ∈ ints, v = 1) ∨ ∃ v ∈ ints, ∃ w ∈ ints, maxGapSpan < w - v := by
  rw [expectedRange]
  cases hmin : ints.min? with
  | none =>
    rw [List.min?_eq_none_iff] at hmin
    subst hmin
    simp
  | some minIdx =>
    cases hmax : ints.max? with
    | none =>
      rw [List.max?_eq_none_iff] at hmax
      subst hmax
      cases hmin
    | some maxIdx =>
      obtain ⟨hminmem, hminle⟩ := List.min?_eq_some_iff.mp hmin
      obtain ⟨hmaxmem, hmaxle⟩ := List.max?_eq_some_iff.mp hmax
      have hlone : ints.length = 1 ∧ minIdx = 1 ↔ ∀ v ∈ ints, v = 1 := by
        constructor
        · rintro ⟨hlength, rfl⟩ v hv
          obtain ⟨w, rfl⟩ := List.length_eq_one_iff.mp hlength
          rw [List.mem_singleton] at hv hminmem
          rw [hv, hminmem]
        · intro hall
          refine ⟨?_, hall minIdx hminmem⟩
          have hsub : ints ⊆ [1] := fun v hv => by
            rw [hall v hv]
            exact List.mem_singleton_self 1
          have hle := (List.subperm_of_subset hnodup hsub).length_le
          have hpos := List.length_pos_of_mem hminmem
          rw [List.length_singleton] at hle
          omega
      have hwide : maxIdx - minIdx > maxGapSpan ↔
          ∃ v ∈ ints, ∃ w ∈ ints, maxGapSpan < w - v := by
        constructor
        · intro hgt
          exact ⟨minIdx, hminmem, maxIdx, hmaxmem, hgt⟩
        · rintro ⟨v, hv, w, hw, hgt⟩
          have hvle := hminle v hv
          have hwle := hmaxle w hw
          omega
      rw [← hlone, ← hwide]
      show (if ints.length = 1 ∧ minIdx = 1 then none
        else if maxIdx - minIdx > maxGapSpan then none
        else some (Gaps.range 1 (maxIdx + 1))) = none ↔ _
      by_cases h : ints.length = 1 ∧ minIdx = 1
      · simp [h]
      · rw [if_neg h]
        by_cases h' : maxIdx - minIdx > maxGapSpan
        · simp [h']
        · rw [if_neg h']
          simp [h, h']

theorem expectedRange_eq_some {ints expected : List ℤ} (h : expectedRange ints = some expected) :
    ∃ m ∈ ints, (∀ v ∈ ints, v ≤ m) ∧ expected = Gaps.range 1 (m + 1) := by
  rw [expectedRange] at h
  split at h
  · rename_i minIdx maxIdx hmin hmax
    obtain ⟨hmaxmem, hmaxle⟩ := List.max?_eq_some_iff.mp hmax
    split at h
    · cases h
    · split at h
      · cases h
      · exact ⟨maxIdx, hmaxmem, hmaxle, (Option.some.inj h).symm⟩
  · cases h

/-- What is missing of a series with these indexes. -/
def missingOf (indices : List Double) : List ℤ :=
  match expectedRange (intIndices indices) with
  | none => []
  | some expected => (expected.filter fun i => i ∉ intIndices indices).insertionSort (· ≤ ·)

theorem missingOf_of_none {indices : List Double}
    (h : expectedRange (intIndices indices) = none) : missingOf indices = [] := by
  rw [missingOf, h]

theorem missingOf_of_some {indices : List Double} {expected : List ℤ}
    (h : expectedRange (intIndices indices) = some expected) :
    ∃ m ∈ intIndices indices, (∀ v ∈ intIndices indices, v ≤ m) ∧ expected = Gaps.range 1 (m + 1) ∧
      missingOf indices = Gaps.missing 1 (m + 1) (intIndices indices) := by
  obtain ⟨m, hm, hmax, rfl⟩ := expectedRange_eq_some h
  refine ⟨m, hm, hmax, rfl, ?_⟩
  rw [missingOf, h]
  exact ((Gaps.pairwise_missing 1 (m + 1) (intIndices indices)).imp le_of_lt).insertionSort_eq

theorem pairwise_missingOf (indices : List Double) : (missingOf indices).Pairwise (· < ·) := by
  cases h : expectedRange (intIndices indices) with
  | none =>
    rw [missingOf_of_none h]
    exact .nil
  | some expected =>
    obtain ⟨m, -, -, -, hmissing⟩ := missingOf_of_some h
    rw [hmissing]
    exact Gaps.pairwise_missing ..

/-! ### The loop over the series -/

/-- The index of a row that can be read. -/
def indexOf (py : RuleRuntime) (row : SeriesRow) : Double :=
  ((floatIndex py row.seriesIndex).toOption).getD .nan

theorem floatIndex_ok (hread : Readable py rows) {row : SeriesRow} (hrow : row ∈ rows) :
    floatIndex py row.seriesIndex = .ok (indexOf py row) := by
  rw [indexOf]
  cases h : row.seriesIndex with
  | null => rfl
  | real x => rfl
  | text s =>
    by_cases hs : s = ""
    · rw [floatIndex, if_pos hs]
      rfl
    · obtain ⟨x, hx⟩ := Option.isSome_iff_exists.mp (hread row hrow s h hs)
      rw [floatIndex, if_neg hs, hx]
      rfl

theorem readable_of_mapM {entries : List (ℤ × SeriesRow × OwnedBook)}
    (h : rows.mapM (readRow py) = .ok entries) : Readable py rows := by
  intro row hrow s hs hne
  by_contra hnone
  have herror : ∃ e, readRow py row = .error e := by
    rw [Option.not_isSome_iff_eq_none] at hnone
    rw [readRow, hs, floatIndex, if_neg hne, hnone]
    exact ⟨_, rfl⟩
  obtain ⟨e, he⟩ := herror
  obtain ⟨e', he'⟩ := mapM_error hrow he
  rw [h] at he'
  cases he'

/-- The entry of a row that can be read. -/
def entryOf (py : RuleRuntime) (row : SeriesRow) : ℤ × SeriesRow × OwnedBook :=
  (row.seriesId, row, ⟨row.bookId, row.title, indexOf py row⟩)

theorem findAllGaps_ok (hread : Readable py rows) (minOwned : ℤ) :
    findAllGaps py minOwned rows = .ok (Ranking.ranked (fun gap => gap.missingIndices.length)
      ((Grouping.collect (rows.map (entryOf py))).filterMap (gapOf minOwned))) := by
  have hentries : rows.mapM (readRow py) = .ok (rows.map (entryOf py)) := by
    refine mapM_ok fun row hrow => ?_
    rw [readRow, floatIndex_ok hread hrow]
    rfl
  rw [findAllGaps, hentries]
  rfl

theorem gapOf_seriesId {minOwned : ℤ} {series : ℤ × List (SeriesRow × OwnedBook)} {gap : SeriesGap}
    (h : gapOf minOwned series = some gap) : gap.seriesId = series.1 := by
  simp only [gapOf] at h
  split at h
  · cases h
  · split at h
    · cases h
    · split at h
      · cases h
      · rw [← Option.some.inj h]

/-- The gap of a series has what is missing of it. -/
theorem missingIndices_gapOf {group : List (SeriesRow × OwnedBook)} (hne : group ≠ []) :
    (gapOf 1 (sid, group)).toList.flatMap SeriesGap.missingIndices =
      missingOf (sortedSet (group.map fun p => p.2.seriesIndex)) := by
  have hlength : ¬((group.map Prod.snd).length : ℤ) < 1 := by
    have hpos := List.length_pos_iff.mpr hne
    rw [List.length_map]
    omega
  have hindices : (group.map Prod.snd).map OwnedBook.seriesIndex =
      group.map fun p => p.2.seriesIndex := List.map_map
  rw [gapOf, if_neg hlength, missingOf]
  simp only [hindices]
  cases expectedRange (intIndices (sortedSet (group.map fun p => p.2.seriesIndex))) with
  | none => rfl
  | some expected =>
    show (if _ = [] then none else some _ : Option SeriesGap).toList.flatMap _ = _
    split
    · rename_i hnil
      exact hnil.symm
    · simp

theorem group_entries (rows : List SeriesRow) (sid : ℤ) :
    (Grouping.group sid (rows.map (entryOf py))).map (fun p => p.2.seriesIndex) =
      (rows.filter fun row => row.seriesId = sid).map (indexOf py) := by
  rw [Grouping.group, List.filter_map, List.map_map, List.map_map]
  rfl

theorem countedIndices_eq (hread : Readable py rows) :
    countedIndices py rows sid =
      sortedSet ((rows.filter fun row => row.seriesId = sid).map (indexOf py)) := by
  have hmap : (rows.filter fun row => row.seriesId = sid).filterMap (fun row =>
      (floatIndex py row.seriesIndex).toOption) =
      (rows.filter fun row => row.seriesId = sid).map (indexOf py) := by
    rw [← List.filterMap_eq_map]
    refine List.filterMap_congr fun row hrow => ?_
    rw [floatIndex_ok hread (List.mem_filter.mp hrow).1]
    rfl
  rw [countedIndices, hmap]

/-- What is reported for a series is what is missing of the indexes that count as owned. -/
theorem reported_eq (hread : Readable py rows) {gaps : List SeriesGap}
    (h : findAllGaps py 1 rows = .ok gaps) :
    reported sid gaps = missingOf (countedIndices py rows sid) := by
  rw [findAllGaps_ok hread] at h
  have hgaps := (Except.ok.inj h).symm
  have hfilter := Grouping.filter_filterMap_collect (gapOf 1) SeriesGap.seriesId
    (fun _ _ => gapOf_seriesId) (rows.map (entryOf py)) sid
  have hperm : (gaps.filter fun gap => gap.seriesId = sid).Perm
      (((Grouping.collect (rows.map (entryOf py))).filterMap (gapOf 1)).filter
        fun gap => gap.seriesId = sid) := by
    rw [hgaps]
    exact Ranking.ranked_perm.filter _
  rw [hfilter] at hperm
  rw [reported, countedIndices_eq hread, ← group_entries]
  by_cases hnil : Grouping.group sid (rows.map (entryOf py)) = []
  · rw [if_pos hnil] at hperm
    rw [hperm.eq_nil, hnil]
    rfl
  · rw [if_neg hnil] at hperm
    have hlist : gaps.filter (fun gap => gap.seriesId = sid) =
        (gapOf 1 (sid, Grouping.group sid (rows.map (entryOf py)))).toList := by
      cases hgap : gapOf 1 (sid, Grouping.group sid (rows.map (entryOf py))) with
      | none =>
        rw [hgap] at hperm
        exact hperm.eq_nil
      | some gap =>
        rw [hgap] at hperm
        exact List.perm_singleton.mp hperm
    rw [hlist, missingIndices_gapOf hnil]

theorem missing_ne_nil_of_gapOf {minOwned : ℤ} {series : ℤ × List (SeriesRow × OwnedBook)}
    {gap : SeriesGap} (h : gapOf minOwned series = some gap) : gap.missingIndices ≠ [] := by
  simp only [gapOf] at h
  split at h
  · cases h
  · split at h
    · cases h
    · split at h
      · cases h
      · rename_i hne
        rw [← Option.some.inj h]
        exact hne

/-- A series with a gap is one of which something is reported. -/
theorem exists_gap_iff {gaps : List SeriesGap} (h : findAllGaps py 1 rows = .ok gaps) :
    (∃ gap ∈ gaps, gap.seriesId = sid) ↔ reported sid gaps ≠ [] := by
  obtain ⟨entries, -, hgaps⟩ := Except.exists_of_bind_eq_ok h
  rw [reported, Ne, List.flatMap_eq_nil_iff]
  constructor
  · rintro ⟨gap, hgap, hsid⟩ hall
    have hmem := hgap
    rw [← Except.ok.inj hgaps] at hmem
    obtain ⟨series, -, hseries⟩ := List.mem_filterMap.mp (Ranking.ranked_perm.mem_iff.mp hmem)
    exact missing_ne_nil_of_gapOf hseries
      (hall gap (List.mem_filter.mpr ⟨hgap, decide_eq_true hsid⟩))
  · intro hnot
    by_contra hnone
    refine hnot fun gap hgap => absurd ?_ hnone
    obtain ⟨hmem, hsid⟩ := List.mem_filter.mp hgap
    exact ⟨gap, hmem, of_decide_eq_true hsid⟩

/-! ### Exact series -/

theorem mem_countedIndices (hread : Readable py rows) {x : Double} :
    x ∈ countedIndices py rows sid ↔ ∃ row ∈ rows, row.seriesId = sid ∧ indexOf py row = x := by
  rw [countedIndices_eq hread, mem_sortedSet, List.mem_map]
  simp only [List.mem_filter, decide_eq_true_eq, and_assoc]

/-- In a series with finite indexes, what counts as owned is owned, or is a 1 for an index that is
zero or absent. -/
theorem counted_iff (hread : Readable py rows) (hfinite : FiniteSeries rows sid) {x : Double} :
    x ∈ countedIndices py rows sid ↔
      (∃ q, x = .finite q ∧ q ≠ 0 ∧ HasIndex rows sid q) ∨ (x = .finite 1 ∧ Coerced rows sid) := by
  rw [mem_countedIndices hread]
  constructor
  · rintro ⟨row, hrow, hsid, rfl⟩
    rcases hfinite row hrow hsid with hnull | ⟨q, hq⟩
    · refine .inr ⟨?_, row, hrow, hsid, .inl hnull⟩
      rw [indexOf, hnull]
      rfl
    · by_cases hzero : q = 0
      · subst hzero
        refine .inr ⟨?_, row, hrow, hsid, .inr hq⟩
        rw [indexOf, hq]
        rfl
      · refine .inl ⟨q, ?_, hzero, row, hrow, hsid, hq⟩
        rw [indexOf, hq, floatIndex, if_neg (by simpa using hzero)]
        rfl
  · rintro (⟨q, rfl, hzero, row, hrow, hsid, hq⟩ | ⟨rfl, row, hrow, hsid, hcoerced⟩)
    · refine ⟨row, hrow, hsid, ?_⟩
      rw [indexOf, hq, floatIndex, if_neg (by simpa using hzero)]
      rfl
    · refine ⟨row, hrow, hsid, ?_⟩
      rcases hcoerced with h | h
      · rw [indexOf, h]
        rfl
      · rw [indexOf, h]
        rfl

/-- Where nothing is coerced in vain, the whole indexes that count are those that are owned. -/
theorem mem_ints_iff (hread : Readable py rows) (hfinite : FiniteSeries rows sid)
    (hone : Coerced rows sid → HasIndex rows sid 1) {v : ℤ} :
    v ∈ intIndices (countedIndices py rows sid) ↔ 1 ≤ v ∧ HasIndex rows sid v := by
  rw [mem_intIndices, and_congr_right_iff]
  intro hpos
  rw [counted_iff hread hfinite]
  constructor
  · rintro (⟨q, hq, -, hhas⟩ | ⟨hv, hcoerced⟩)
    · rwa [Double.finite.inj hq]
    · rw [Double.finite.inj hv]
      exact hone hcoerced
  · intro hhas
    have hne : (v : ℚ) ≠ 0 := by
      intro hzero
      have hzero' : v = 0 := by exact_mod_cast hzero
      omega
    exact .inl ⟨v, rfl, hne, hhas⟩

/-- When the report is exact for a series and bounded. -/
structure Faithful (py : RuleRuntime) (rows : List SeriesRow) (sid : ℤ) : Prop where
  readable : Readable py rows
  notCoerced : Coerced rows sid → HasIndex rows sid 1
  bounded : Implausible rows sid ∨ ∀ v : ℤ, HasIndex rows sid v → v ≤ maxGapSpan

theorem exact_of_faithful (h : Faithful py rows sid) (hfinite : FiniteSeries rows sid)
    {gaps : List SeriesGap} (hgaps : findAllGaps py 1 rows = .ok gaps) :
    ExactSeries py rows sid gaps := by
  obtain ⟨hread, hone, hbounded⟩ := h
  have hreported : reported sid gaps = missingOf (countedIndices py rows sid) :=
    reported_eq hread hgaps
  have hints := @mem_ints_iff py rows sid hread hfinite hone
  have hcounted : ∀ x ∈ countedIndices py rows sid, ∃ q, x = .finite q ∧ HasIndex rows sid q := by
    intro x hx
    rcases (counted_iff hread hfinite).mp hx with ⟨q, hq, -, hhas⟩ | ⟨hx1, hcoerced⟩
    · exact ⟨q, hq, hhas⟩
    · exact ⟨1, hx1, hone hcoerced⟩
  have hincreasing : (reported sid gaps).Pairwise (· < ·) := by
    rw [hreported]
    exact pairwise_missingOf _
  cases hrange : expectedRange (intIndices (countedIndices py rows sid)) with
  | none =>
    have hnil : reported sid gaps = [] := hreported.trans (missingOf_of_none hrange)
    refine ⟨?_, hincreasing, hcounted, by rw [hnil]; decide, by rw [rangeBuilt, hrange]; decide⟩
    rcases (expectedRange_eq_none (nodup_intIndices _)).mp hrange with hall | ⟨v, hv, w, hw, hwide⟩
    · refine .inr fun v => ?_
      rw [hnil]
      refine iff_of_false List.not_mem_nil ?_
      rintro ⟨hpos, hnot, m, hm, hle⟩
      have hm1 : m = 1 := hall m (hints.mpr ⟨by omega, hm⟩)
      have hv1 : v = 1 := by omega
      rw [hv1] at hnot
      rw [hm1] at hm
      exact hnot hm
    · exact .inl ⟨v, w, (hints.mp hv).1, (hints.mp hv).2, (hints.mp hw).2, hwide⟩
  | some expected =>
    obtain ⟨m, hm, hmax, hexpected, hmissing⟩ := missingOf_of_some hrange
    have hle : m ≤ maxGapSpan := by
      rcases hbounded with ⟨v, w, hpos, hv, hw, hwide⟩ | hsmall
      · have hwpos : 1 ≤ w := by
          rw [maxGapSpan] at hwide
          omega
        have hnone := (expectedRange_eq_none (nodup_intIndices _)).mpr
          (.inr ⟨v, hints.mpr ⟨hpos, hv⟩, w, hints.mpr ⟨hwpos, hw⟩, hwide⟩)
        rw [hnone] at hrange
        cases hrange
      · exact hsmall m (hints.mp hm).2
    refine ⟨.inr fun v => ?_, hincreasing, hcounted, ?_, ?_⟩
    · rw [hreported, hmissing, Gaps.mem_missing, hints]
      constructor
      · rintro ⟨⟨hpos, hlt⟩, hnot⟩
        exact ⟨hpos, fun hhas => hnot ⟨hpos, hhas⟩, m, (hints.mp hm).2, by omega⟩
      · rintro ⟨hpos, hnot, w, hw, hvw⟩
        have hwm := hmax w (hints.mpr ⟨by omega, hw⟩)
        exact ⟨⟨hpos, by omega⟩, fun hhas => hnot hhas.2⟩
    · have hlength := Gaps.length_missing_le 1 (m + 1) (intIndices (countedIndices py rows sid))
      rw [hreported, hmissing]
      have hpos := (hints.mp hm).1
      omega
    · have hpos := (hints.mp hm).1
      rw [rangeBuilt, hrange, Option.getD_some, hexpected, Gaps.length_range]
      omega

theorem faithful_of_exact (hfinite : FiniteSeries rows sid) {gaps : List SeriesGap}
    (hgaps : findAllGaps py 1 rows = .ok gaps) (h : ExactSeries py rows sid gaps) :
    Faithful py rows sid := by
  have hread : Readable py rows := by
    obtain ⟨entries, hentries, -⟩ := Except.exists_of_bind_eq_ok hgaps
    exact readable_of_mapM hentries
  have hone : Coerced rows sid → HasIndex rows sid 1 := by
    intro hcoerced
    have hmem : Double.finite 1 ∈ countedIndices py rows sid :=
      (counted_iff hread hfinite).mpr (.inr ⟨rfl, hcoerced⟩)
    obtain ⟨q, hq, hhas⟩ := h.counted _ hmem
    rwa [Double.finite.inj hq]
  have hints := @mem_ints_iff py rows sid hread hfinite hone
  refine ⟨hread, hone, ?_⟩
  cases hrange : expectedRange (intIndices (countedIndices py rows sid)) with
  | none =>
    rcases (expectedRange_eq_none (nodup_intIndices _)).mp hrange with hall | ⟨v, hv, w, hw, hwide⟩
    · refine .inr fun v hv => ?_
      by_contra hgt
      have hpos : 1 ≤ v := by
        rw [maxGapSpan] at hgt
        omega
      have hv1 := hall v (hints.mpr ⟨hpos, hv⟩)
      rw [hv1, maxGapSpan] at hgt
      omega
    · exact .inl ⟨v, w, (hints.mp hv).1, (hints.mp hv).2, (hints.mp hw).2, hwide⟩
  | some expected =>
    obtain ⟨m, hm, hmax, hexpected⟩ := expectedRange_eq_some hrange
    have hbounded := h.boundedRange
    rw [rangeBuilt, hrange, Option.getD_some, hexpected, Gaps.length_range] at hbounded
    refine .inr fun v hv => ?_
    by_cases hpos : 1 ≤ v
    · have hle := hmax v (hints.mpr ⟨hpos, hv⟩)
      omega
    · rw [maxGapSpan]
      omega

/-- The gaps of a series with finite indexes are reported exactly and within the bound exactly when
every index of the library can be read, no absent or zero index stands for a first volume that is
not there, and a series that is not too wide does not go beyond volume `MAX_GAP_SPAN`. -/
theorem exactSeries_iff (py : RuleRuntime) (rows : List SeriesRow) (sid : ℤ)
    (hfinite : FiniteSeries rows sid) :
    (∃ gaps, findAllGaps py 1 rows = .ok gaps ∧ ExactSeries py rows sid gaps) ↔
      Faithful py rows sid := by
  constructor
  · rintro ⟨gaps, hgaps, h⟩
    exact faithful_of_exact hfinite hgaps h
  · intro h
    exact ⟨_, findAllGaps_ok h.readable 1, exact_of_faithful h hfinite (findAllGaps_ok h.readable 1)⟩

/-! ### A prequel -/

/-- A volume of the series 1. -/
def volume (bookId : ℤ) (title : String) (index : ℚ) : SeriesRow :=
  { seriesId := 1, seriesName := "Dune", bookId := bookId, title := title,
    seriesIndex := .real (.finite index), authors := some "Frank Herbert" }

theorem finiteSeries_volumes {rows : List SeriesRow}
    (h : ∀ row ∈ rows, ∃ q, row.seriesIndex = .real (.finite q)) : FiniteSeries rows sid :=
  fun row hrow _ => .inr (h row hrow)

theorem exactSeries_dune :
    ∃ gaps, findAllGaps .ascii 1 [volume 1 "Dune" 1, volume 2 "Children of Dune" 3] = .ok gaps ∧
      ExactSeries .ascii [volume 1 "Dune" 1, volume 2 "Children of Dune" 3] 1 gaps := by
  have hindex : ∀ row ∈ [volume 1 "Dune" 1, volume 2 "Children of Dune" 3],
      row.seriesIndex = .real (.finite 1) ∨ row.seriesIndex = .real (.finite 3) := by
    intro row hrow
    rcases List.mem_cons.mp hrow with rfl | hrow
    · exact .inl rfl
    · rw [List.mem_singleton.mp hrow]
      exact .inr rfl
  have hfinite : FiniteSeries [volume 1 "Dune" 1, volume 2 "Children of Dune" 3] 1 :=
    finiteSeries_volumes fun row hrow => (hindex row hrow).elim (⟨1, ·⟩) (⟨3, ·⟩)
  refine (exactSeries_iff .ascii _ 1 hfinite).mpr ⟨?_, ?_, .inr ?_⟩
  · intro row hrow s hs
    rcases hindex row hrow with h | h
    · rw [h] at hs
      cases hs
    · rw [h] at hs
      cases hs
  · rintro ⟨row, hrow, -, h⟩
    exact ⟨volume 1 "Dune" 1, List.mem_cons_self, rfl, rfl⟩
  · rintro v ⟨row, hrow, -, h⟩
    rcases hindex row hrow with h' | h'
    · rw [h', StoredIndex.real.injEq, Double.finite.injEq] at h
      have hv : v = 1 := by exact_mod_cast h.symm
      rw [hv]
      decide
    · rw [h', StoredIndex.real.injEq, Double.finite.injEq] at h
      have hv : v = 3 := by exact_mod_cast h.symm
      rw [hv]
      decide

/-- A prequel with the index zero hides that the first volume is missing. -/
theorem zero_is_taken_for_one :
    ¬∃ gaps, findAllGaps .ascii 1 [volume 1 "The Butlerian Jihad" 0, volume 2 "Dune Messiah" 2] =
        .ok gaps ∧
      ExactSeries .ascii [volume 1 "The Butlerian Jihad" 0, volume 2 "Dune Messiah" 2] 1 gaps := by
  rintro ⟨gaps, hgaps, h⟩
  have hnothing : findAllGaps .ascii 1
      [volume 1 "The Butlerian Jihad" 0, volume 2 "Dune Messiah" 2] = .ok [] := by decide +kernel
  rw [hnothing] at hgaps
  cases hgaps
  have hindex : ∀ q, HasIndex [volume 1 "The Butlerian Jihad" 0, volume 2 "Dune Messiah" 2] 1 q →
      q = 0 ∨ q = 2 := by
    rintro q ⟨row, hrow, -, hq⟩
    rcases List.mem_cons.mp hrow with rfl | hrow
    · exact .inl (Double.finite.inj (StoredIndex.real.inj hq)).symm
    · rw [List.mem_singleton.mp hrow] at hq
      exact .inr (Double.finite.inj (StoredIndex.real.inj hq)).symm
  rcases h.exact with ⟨v, w, -, hv, hw, hwide⟩ | hexact
  · rcases hindex _ hw with hw0 | hw2
    · have hw' : w = 0 := by exact_mod_cast hw0
      rcases hindex _ hv with hv0 | hv2
      · have hv' : v = 0 := by exact_mod_cast hv0
        rw [hv', hw', maxGapSpan] at hwide
        omega
      · have hv' : v = 2 := by exact_mod_cast hv2
        rw [hv', hw', maxGapSpan] at hwide
        omega
    · have hw' : w = 2 := by exact_mod_cast hw2
      rcases hindex _ hv with hv0 | hv2
      · have hv' : v = 0 := by exact_mod_cast hv0
        rw [hv', hw', maxGapSpan] at hwide
        omega
      · have hv' : v = 2 := by exact_mod_cast hv2
        rw [hv', hw', maxGapSpan] at hwide
        omega
  · have hone := (hexact 1).mpr ⟨le_rfl, ?_, 2, ?_, by omega⟩
    · cases hone
    · intro hhas
      rcases hindex _ hhas with h0 | h2
      · norm_num at h0
      · norm_num at h2
    · exact ⟨volume 2 "Dune Messiah" 2, by simp, rfl, rfl⟩

end SeriesGapHunter

end Bookwarden.Curation
