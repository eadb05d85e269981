import Bookwarden.Curation.SeriesGaps

/-!
# Two analyses of a series

`SeriesTopologyEngine` of `curation/series_topology.py` looks for missing volumes as well. It leaves
out the rows whose index is no finite number, where the gap hunter raises; it looks in front of the
first volume only when that is the fifth at most; and it passes over a series of a much wider span.

The two engines put the authors of a book in different orders; nothing here depends on them.

## Main definitions

* `SeriesTopologyEngine.analyzeSeriesGaps`

## Main results

* `SeriesTopologyEngine.analyses_agree_iff`
* `SeriesTopologyEngine.unreadable_index_stops_the_hunter`
-/

namespace Bookwarden.Curation.SeriesTopologyEngine

open SeriesGapHunter (findAllGaps reported)

/-- `AdvancedSeriesGap`. -/
structure AdvancedSeriesGap where
  seriesId : ℤ
  seriesName : String
  authors : String
  ownedIndices : List Double
  missingIntegerIndices : List ℤ
  detectedFractionalIndices : List Double
  gapSummary : String
  deriving DecidableEq

/-- `float(row[4] if row[4] is not None else 1.0)`, where it is a finite number. -/
def finiteIndex (py : RuleRuntime) : StoredIndex → Option Double
  | .null => some (.finite 1)
  | .real x => if x.isFinite then some x else none
  | .text s => (py.parseDouble s).filter Double.isFinite

@[simp] theorem finiteIndex_finite (py : RuleRuntime) (q : ℚ) :
    finiteIndex py (.real (.finite q)) = some (.finite q) := rfl

/-- `missing_integers` of the integer indexes, unless the series is passed over. -/
def missingIntegers (integerIndices : List ℤ) : Option (List ℤ) :=
  match integerIndices.min?, integerIndices.max? with
  | some minVol, some maxVol =>
    let leading := if 1 < minVol ∧ minVol ≤ 5 then Gaps.range 1 minVol else []
    if maxVol - minVol > 1000 then none
    else some (leading ++ (Gaps.range minVol (maxVol + 1)).filter fun i => i ∉ integerIndices)
  | _, _ => some []

/-- `gap_summary`. -/
def gapSummary (py : RuleRuntime) (missing : List ℤ) (fractional : List Double) : String :=
  "Missing volumes: " ++ ", ".intercalate (missing.map toString) ++
    if fractional = [] then ""
    else " (Contains side novellas: " ++ ", ".intercalate (fractional.map py.doubleRepr) ++ ")"

/-- One round of the loop over the series. -/
def gapOf (py : RuleRuntime) (series : ℤ × List (SeriesRow × Double)) : Option AdvancedSeriesGap :=
  let indices := sortedSet (series.2.map Prod.snd)
  let fractional := indices.filter fun x => wholeNumber x = none
  match missingIntegers (indices.filterMap wholeNumber) with
  | none => none
  | some missing =>
    if missing = [] then none
    else some {
      seriesId := series.1
      seriesName := ((series.2.map fun p => p.1.seriesName).getLast?).getD ""
      authors := ((series.2.map fun p => p.1.authors.getD "").find? fun a => a ≠ "").getD ""
      ownedIndices := indices
      missingIntegerIndices := missing
      detectedFractionalIndices := fractional
      gapSummary := gapSummary py missing fractional }

/-- The row with its index, under the series, if the index is a finite number. -/
def entryOf (py : RuleRuntime) (row : SeriesRow) : Option (ℤ × SeriesRow × Double) :=
  (finiteIndex py row.seriesIndex).map fun x => (row.seriesId, row, x)

/-- `analyze_series_gaps`. -/
def analyzeSeriesGaps (py : RuleRuntime) (rows : List SeriesRow) : List AdvancedSeriesGap :=
  (Grouping.collect (rows.filterMap (entryOf py))).filterMap (gapOf py)

/-! ### What the analyses owe to a series -/

section Notions

variable (py : RuleRuntime) (rows : List SeriesRow) (sid : ℤ)

/-- What the topology reports as missing for the series. -/
def reportedTopology (gaps : List AdvancedSeriesGap) : List ℤ :=
  (gaps.filter fun gap => gap.seriesId = sid).flatMap AdvancedSeriesGap.missingIntegerIndices

/-- Some book of the series has the whole number as its index. -/
def HasWhole (v : ℤ) : Prop :=
  ∃ row ∈ rows, row.seriesId = sid ∧ row.seriesIndex ≠ .null ∧
    finiteIndex py row.seriesIndex = some (.finite v)

/-- Some book of the series has no index. -/
def Absent : Prop := ∃ row ∈ rows, row.seriesId = sid ∧ row.seriesIndex = .null

/-- The series that are compared: finite or absent indexes, the whole ones from 1 on, the least of
them 5 at most, and no two more than 200 apart. With an absent index, which both engines read as 1,
it is enough that this 1 is the least and no index is more than 200 away from it. -/
structure Comparable : Prop where
  numeric : ∀ row ∈ rows, row.seriesId = sid → (finiteIndex py row.seriesIndex).isSome = true
  positive : ∀ v, HasWhole py rows sid v → 1 ≤ v
  narrow : ∀ v w, HasWhole py rows sid v → HasWhole py rows sid w → w - v ≤ 200
  low : (∃ v, HasWhole py rows sid v ∧ v ≤ 5) ∨
    (Absent rows sid ∧ ∀ v, HasWhole py rows sid v → v ≤ 201)

/-- Both engines report the series or none does, with the same volumes. -/
def Agree : Prop :=
  ∃ gaps, findAllGaps py 1 rows = .ok gaps ∧
    ((∃ gap ∈ gaps, gap.seriesId = sid) ↔
      ∃ gap ∈ analyzeSeriesGaps py rows, gap.seriesId = sid) ∧
    reported sid gaps = reportedTopology sid (analyzeSeriesGaps py rows)

/-- The volumes that the topology reports are in strictly increasing order, none of them is owned,
and there are 1003 of them at most. -/
structure Orderly : Prop where
  increasing : (reportedTopology sid (analyzeSeriesGaps py rows)).Pairwise (· < ·)
  disjoint : ∀ v ∈ reportedTopology sid (analyzeSeriesGaps py rows),
    ∀ row ∈ rows, row.seriesId = sid → finiteIndex py row.seriesIndex ≠ some (.finite v)
  bounded : (reportedTopology sid (analyzeSeriesGaps py rows)).length ≤ 1003

end Notions

variable {py : RuleRuntime} {rows : List SeriesRow} {sid : ℤ}

/-! ### The topology -/

/-- What the topology finds missing of these indexes. -/
def missingOf (indices : List Double) : List ℤ :=
  (missingIntegers (indices.filterMap wholeNumber)).getD []

theorem gapOf_seriesId {series : ℤ × List (SeriesRow × Double)} {gap : AdvancedSeriesGap}
    (h : gapOf py series = some gap) : gap.seriesId = series.1 := by
  simp only [gapOf] at h
  split at h
  · cases h
  · split at h
    · cases h
    · rw [← Option.some.inj h]

theorem missing_ne_nil_of_gapOf {series : ℤ × List (SeriesRow × Double)} {gap : AdvancedSeriesGap}
    (h : gapOf py series = some gap) : gap.missingIntegerIndices ≠ [] := by
  simp only [gapOf] at h
  split at h
  · cases h
  · split at h
    · cases h
    · rename_i hne
      rw [← Option.some.inj h]
      exact hne

theorem missingIntegerIndices_gapOf (series : ℤ × List (SeriesRow × Double)) :
    (gapOf py series).toList.flatMap AdvancedSeriesGap.missingIntegerIndices =
      missingOf (sortedSet (series.2.map Prod.snd)) := by
  rw [missingOf]
  simp only [gapOf]
  cases missingIntegers ((sortedSet (series.2.map Prod.snd)).filterMap wholeNumber) with
  | none => rfl
  | some missing =>
    show (if missing = [] then none else some _ : Option AdvancedSeriesGap).toList.flatMap _ = missing
    split
    · rename_i hnil
      exact hnil.symm
    · simp

/-- `indices` of a series. -/
def finiteIndices (py : RuleRuntime) (rows : List SeriesRow) (sid : ℤ) : List Double :=
  sortedSet ((Grouping.group sid (rows.filterMap (entryOf py))).map Prod.snd)

theorem mem_finiteIndices {x : Double} :
    x ∈ finiteIndices py rows sid ↔
      ∃ row ∈ rows, row.seriesId = sid ∧ finiteIndex py row.seriesIndex = some x := by
  rw [finiteIndices, mem_sortedSet, List.mem_map]
  constructor
  · rintro ⟨⟨row, x⟩, hmem, rfl⟩
    obtain ⟨row', hrow, hentry⟩ := List.mem_filterMap.mp (Grouping.mem_group.mp hmem)
    obtain ⟨y, hy, heq⟩ := Option.map_eq_some_iff.mp hentry
    cases heq
    exact ⟨row, hrow, rfl, hy⟩
  · rintro ⟨row, hrow, rfl, hx⟩
    refine ⟨(row, x), Grouping.mem_group.mpr (List.mem_filterMap.mpr ⟨row, hrow, ?_⟩), rfl⟩
    rw [entryOf, hx]
    rfl

theorem reportedTopology_eq (py : RuleRuntime) (rows : List SeriesRow) (sid : ℤ) :
    reportedTopology sid (analyzeSeriesGaps py rows) = missingOf (finiteIndices py rows sid) := by
  have hfilter := Grouping.filter_filterMap_collect (gapOf py) AdvancedSeriesGap.seriesId
    (fun _ _ => gapOf_seriesId) (rows.filterMap (entryOf py)) sid
  rw [reportedTopology, analyzeSeriesGaps, hfilter, finiteIndices]
  by_cases hnil : Grouping.group sid (rows.filterMap (entryOf py)) = []
  · rw [if_pos hnil, hnil]
    rfl
  · rw [if_neg hnil, missingIntegerIndices_gapOf]

theorem exists_topologyGap_iff :
    (∃ gap ∈ analyzeSeriesGaps py rows, gap.seriesId = sid) ↔
      reportedTopology sid (analyzeSeriesGaps py rows) ≠ [] := by
  rw [reportedTopology, Ne, List.flatMap_eq_nil_iff]
  constructor
  · rintro ⟨gap, hgap, hsid⟩ hall
    obtain ⟨series, -, hseries⟩ := List.mem_filterMap.mp hgap
    exact missing_ne_nil_of_gapOf hseries
      (hall gap (List.mem_filter.mpr ⟨hgap, decide_eq_true hsid⟩))
  · intro hnot
    by_contra hnone
    refine hnot fun gap hgap => absurd ?_ hnone
    obtain ⟨hmem, hsid⟩ := List.mem_filter.mp hgap
    exact ⟨gap, hmem, of_decide_eq_true hsid⟩

/-- The topology's list: what is in front of the first volume, and from there to the last. -/
theorem missingIntegers_of_bounds {ints : List ℤ} {minVol maxVol : ℤ} (hmin : minVol ∈ ints)
    (hmax : maxVol ∈ ints) (hbetween : ∀ v ∈ ints, minVol ≤ v ∧ v ≤ maxVol)
    (hspan : maxVol - minVol ≤ 1000) :
    missingIntegers ints = some ((if 1 < minVol ∧ minVol ≤ 5 then Gaps.range 1 minVol else []) ++
      Gaps.missing minVol (maxVol + 1) ints) := by
  have hmin? : ints.min? = some minVol :=
    List.min?_eq_some_iff.mpr ⟨hmin, fun v hv => (hbetween v hv).1⟩
  have hmax? : ints.max? = some maxVol :=
    List.max?_eq_some_iff.mpr ⟨hmax, fun v hv => (hbetween v hv).2⟩
  have hnarrow : ¬maxVol - minVol > 1000 := not_lt.mpr hspan
  rw [missingIntegers, hmin?, hmax?]
  simp only [if_neg hnarrow]
  rfl

theorem exists_bounds {ints : List ℤ} (h : ints ≠ []) :
    ∃ minVol ∈ ints, ∃ maxVol ∈ ints, ∀ v ∈ ints, minVol ≤ v ∧ v ≤ maxVol := by
  cases hmin : ints.min? with
  | none => exact absurd (List.min?_eq_none_iff.mp hmin) h
  | some minVol =>
    cases hmax : ints.max? with
    | none => exact absurd (List.max?_eq_none_iff.mp hmax) h
    | some maxVol =>
      obtain ⟨hminmem, hminle⟩ := List.min?_eq_some_iff.mp hmin
      obtain ⟨hmaxmem, hmaxle⟩ := List.max?_eq_some_iff.mp hmax
      exact ⟨minVol, hminmem, maxVol, hmaxmem, fun v hv => ⟨hminle v hv, hmaxle v hv⟩⟩

theorem missingIntegers_cases (ints : List ℤ) :
    (missingIntegers ints).getD [] = [] ∨
      ∃ minVol ∈ ints, ∃ maxVol ∈ ints, (∀ v ∈ ints, minVol ≤ v ∧ v ≤ maxVol) ∧
        maxVol - minVol ≤ 1000 ∧
        (missingIntegers ints).getD [] =
          (if 1 < minVol ∧ minVol ≤ 5 then Gaps.range 1 minVol else []) ++
            Gaps.missing minVol (maxVol + 1) ints := by
  by_cases hnil : ints = []
  · subst hnil
    exact .inl rfl
  obtain ⟨minVol, hmin, maxVol, hmax, hbetween⟩ := exists_bounds hnil
  by_cases hwide : maxVol - minVol ≤ 1000
  · refine .inr ⟨minVol, hmin, maxVol, hmax, hbetween, hwide, ?_⟩
    rw [missingIntegers_of_bounds hmin hmax hbetween hwide, Option.getD_some]
  · left
    have hmin? : ints.min? = some minVol :=
      List.min?_eq_some_iff.mpr ⟨hmin, fun v hv => (hbetween v hv).1⟩
    have hmax? : ints.max? = some maxVol :=
      List.max?_eq_some_iff.mpr ⟨hmax, fun v hv => (hbetween v hv).2⟩
    rw [missingIntegers, hmin?, hmax?]
    simp [not_le.mp hwide]

theorem orderly (py : RuleRuntime) (rows : List SeriesRow) (sid : ℤ) : Orderly py rows sid := by
  have hreported := reportedTopology_eq py rows sid
  rw [missingOf] at hreported
  rcases missingIntegers_cases ((finiteIndices py rows sid).filterMap wholeNumber) with
    hnil | ⟨minVol, hmin, maxVol, hmax, hbetween, hspan, hlist⟩
  · rw [hnil] at hreported
    refine ⟨?_, ?_, ?_⟩
    · rw [hreported]
      exact .nil
    · rw [hreported]
      intro v hv
      cases hv
    · rw [hreported]
      exact Nat.zero_le _
  · rw [hlist] at hreported
    have hleading : ∀ v ∈ (if 1 < minVol ∧ minVol ≤ 5 then Gaps.range 1 minVol else []),
        v < minVol := by
      intro v hv
      split at hv
      · exact (Gaps.mem_range.mp hv).2
      · cases hv
    refine ⟨?_, ?_, ?_⟩
    · rw [hreported, List.pairwise_append]
      refine ⟨?_, Gaps.pairwise_missing .., fun v hv w hw => ?_⟩
      · split
        · exact Gaps.pairwise_range ..
        · exact .nil
      · have hlt := hleading v hv
        have hle := (Gaps.mem_missing.mp hw).1.1
        omega
    · intro v hv row hrow hsid hindex
      have hint : v ∈ (finiteIndices py rows sid).filterMap wholeNumber :=
        List.mem_filterMap.mpr ⟨.finite v, mem_finiteIndices.mpr ⟨row, hrow, hsid, hindex⟩,
          wholeNumber_eq_some.mpr rfl⟩
      rw [hreported] at hv
      rcases List.mem_append.mp hv with hv | hv
      · have hlt := hleading v hv
        have hle := (hbetween v hint).1
        omega
      · exact (Gaps.mem_missing.mp hv).2 hint
    · have hinner := Gaps.length_missing_of_mem hmin hmax
      have houter : (if 1 < minVol ∧ minVol ≤ 5 then Gaps.range 1 minVol else []).length ≤ 4 := by
        split
        · rw [Gaps.length_range]
          omega
        · exact Nat.zero_le _
      rw [hreported, List.length_append]
      omega

/-! ### Both engines on one series -/

/-- The whole numbers that both engines see: those of the books, and 1 for an absent index. -/
theorem finiteIndex_whole_iff {v : ℤ} :
    (∃ row ∈ rows, row.seriesId = sid ∧ finiteIndex py row.seriesIndex = some (.finite v)) ↔
      HasWhole py rows sid v ∨ (v = 1 ∧ Absent rows sid) := by
  constructor
  · rintro ⟨row, hrow, hsid, hindex⟩
    by_cases hnull : row.seriesIndex = .null
    · rw [hnull, finiteIndex, Option.some.injEq, Double.finite.injEq] at hindex
      have hv : v = 1 := by exact_mod_cast hindex.symm
      exact .inr ⟨hv, row, hrow, hsid, hnull⟩
    · exact .inl ⟨row, hrow, hsid, hnull, hindex⟩
  · rintro (⟨row, hrow, hsid, -, hindex⟩ | ⟨rfl, row, hrow, hsid, hnull⟩)
    · exact ⟨row, hrow, hsid, hindex⟩
    · refine ⟨row, hrow, hsid, ?_⟩
      rw [hnull, finiteIndex, Int.cast_one]

theorem mem_topologyInts {v : ℤ} :
    v ∈ (finiteIndices py rows sid).filterMap wholeNumber ↔
      HasWhole py rows sid v ∨ (v = 1 ∧ Absent rows sid) := by
  rw [← finiteIndex_whole_iff, List.mem_filterMap]
  constructor
  · rintro ⟨x, hx, hv⟩
    rw [wholeNumber_eq_some.mp hv] at hx
    exact mem_finiteIndices.mp hx
  · intro h
    exact ⟨.finite v, mem_finiteIndices.mpr h, wholeNumber_eq_some.mpr rfl⟩

/-- In a series that is compared the hunter reads what the topology reads. -/
theorem finiteIndex_eq_indexOf (h : Comparable py rows sid) {row : SeriesRow} (hrow : row ∈ rows)
    (hsid : row.seriesId = sid) :
    finiteIndex py row.seriesIndex = some (SeriesGapHunter.indexOf py row) := by
  have hnumeric := h.numeric row hrow hsid
  rw [SeriesGapHunter.indexOf]
  cases hindex : row.seriesIndex with
  | null => rfl
  | real x =>
    rw [hindex, finiteIndex] at hnumeric
    have hfinite : x.isFinite = true := by
      by_contra hnot
      rw [if_neg hnot] at hnumeric
      cases hnumeric
    have hne : x ≠ .finite 0 := by
      rintro rfl
      have hzero : HasWhole py rows sid 0 := by
        refine ⟨row, hrow, hsid, ?_, ?_⟩
        · rw [hindex]
          exact StoredIndex.noConfusion
        · rw [hindex, finiteIndex, if_pos hfinite, Int.cast_zero]
      have hpos := h.positive 0 hzero
      omega
    rw [finiteIndex, if_pos hfinite, SeriesGapHunter.floatIndex, if_neg hne]
    rfl
  | text s =>
    rw [hindex, finiteIndex] at hnumeric
    obtain ⟨x, hx⟩ := Option.isSome_iff_exists.mp hnumeric
    have hparse := (Option.filter_eq_some_iff.mp hx).1
    have hne : s ≠ "" := by
      rintro rfl
      rw [py.parseDouble_empty] at hparse
      cases hparse
    rw [finiteIndex, hx, SeriesGapHunter.floatIndex, if_neg hne, hparse]
    rfl

theorem positive_of_comparable (h : Comparable py rows sid) {v : ℤ}
    (hv : HasWhole py rows sid v ∨ (v = 1 ∧ Absent rows sid)) : 1 ≤ v := by
  rcases hv with hv | ⟨rfl, -⟩
  · exact h.positive v hv
  · exact le_rfl

theorem mem_hunterInts (hread : SeriesGapHunter.Readable py rows) (h : Comparable py rows sid)
    {v : ℤ} :
    v ∈ SeriesGapHunter.intIndices (SeriesGapHunter.countedIndices py rows sid) ↔
      HasWhole py rows sid v ∨ (v = 1 ∧ Absent rows sid) := by
  rw [SeriesGapHunter.mem_intIndices, SeriesGapHunter.mem_countedIndices hread]
  constructor
  · rintro ⟨-, row, hrow, hsid, hindex⟩
    refine finiteIndex_whole_iff.mp ⟨row, hrow, hsid, ?_⟩
    rw [finiteIndex_eq_indexOf h hrow hsid, hindex]
  · intro hv
    obtain ⟨row, hrow, hsid, hindex⟩ := finiteIndex_whole_iff.mpr hv
    refine ⟨positive_of_comparable h hv, row, hrow, hsid, ?_⟩
    rw [finiteIndex_eq_indexOf h hrow hsid] at hindex
    exact Option.some.inj hindex

/-- The topology reports all that is missing up to the last volume. -/
theorem reportedTopology_of_comparable (h : Comparable py rows sid) {m : ℤ}
    (hm : m ∈ (finiteIndices py rows sid).filterMap wholeNumber)
    (hmax : ∀ v ∈ (finiteIndices py rows sid).filterMap wholeNumber, v ≤ m) :
    reportedTopology sid (analyzeSeriesGaps py rows) =
      Gaps.missing 1 (m + 1) ((finiteIndices py rows sid).filterMap wholeNumber) := by
  obtain ⟨minVol, hmin, maxVol, hmaxmem, hbetween⟩ := exists_bounds (List.ne_nil_of_mem hm)
  have hmm : maxVol = m := le_antisymm (hmax maxVol hmaxmem) (hbetween m hm).2
  subst hmm
  have hpos : 1 ≤ minVol := positive_of_comparable h (mem_topologyInts.mp hmin)
  have hbounds : minVol ≤ 5 ∧ maxVol ≤ 205 := by
    rcases h.low with ⟨v, hv, hle⟩ | ⟨habsent, hsmall⟩
    · have hminle := (hbetween v (mem_topologyInts.mpr (.inl hv))).1
      refine ⟨by omega, ?_⟩
      rcases mem_topologyInts.mp hm with hwhole | ⟨hone, -⟩
      · have hspan := h.narrow v maxVol hv hwhole
        omega
      · omega
    · have hminle := (hbetween 1 (mem_topologyInts.mpr (.inr ⟨rfl, habsent⟩))).1
      refine ⟨by omega, ?_⟩
      rcases mem_topologyInts.mp hm with hwhole | ⟨hone, -⟩
      · have hle := hsmall maxVol hwhole
        omega
      · omega
  have hle := (hbetween maxVol hm).1
  rw [reportedTopology_eq, missingOf,
    missingIntegers_of_bounds hmin hm hbetween (by omega), Option.getD_some,
    ← Gaps.missing_append hpos (by omega : minVol ≤ maxVol + 1)]
  congr 1
  rw [← Gaps.range_eq_missing fun v hv => (hbetween v hv).1]
  by_cases hone : 1 < minVol
  · rw [if_pos ⟨hone, hbounds.1⟩]
  · have hmin1 : minVol = 1 := by omega
    rw [if_neg fun hand => hone hand.1, hmin1]
    rfl

/-- When the two analyses agree on a series. -/
structure AgreeWhen (py : RuleRuntime) (rows : List SeriesRow) (sid : ℤ) : Prop where
  readable : SeriesGapHunter.Readable py rows
  absent : Absent rows sid →
    (∀ v, HasWhole py rows sid v → v ≤ 201) ∨
      ∀ v m, HasWhole py rows sid m → 1 < v → v ≤ m → HasWhole py rows sid v

theorem reported_eq_of_agreeWhen (h : Comparable py rows sid) (hwhen : AgreeWhen py rows sid)
    {gaps : List SeriesGapHunter.SeriesGap} (hgaps : findAllGaps py 1 rows = .ok gaps) :
    reported sid gaps = reportedTopology sid (analyzeSeriesGaps py rows) := by
  obtain ⟨hread, habsent⟩ := hwhen
  have hhunter := @mem_hunterInts py rows sid hread h
  have hsame : ∀ v, v ∈ (finiteIndices py rows sid).filterMap wholeNumber ↔
      v ∈ SeriesGapHunter.intIndices (SeriesGapHunter.countedIndices py rows sid) :=
    fun v => mem_topologyInts.trans hhunter.symm
  rw [SeriesGapHunter.reported_eq hread hgaps]
  cases hrange : SeriesGapHunter.expectedRange
      (SeriesGapHunter.intIndices (SeriesGapHunter.countedIndices py rows sid)) with
  | some expected =>
    obtain ⟨m, hm, hmax, -, hmissing⟩ := SeriesGapHunter.missingOf_of_some hrange
    rw [hmissing, reportedTopology_of_comparable h ((hsame m).mpr hm)
      fun v hv => hmax v ((hsame v).mp hv)]
    exact (Gaps.missing_congr hsame).symm
  | none =>
    rw [SeriesGapHunter.missingOf_of_none hrange]
    by_cases hnil : (finiteIndices py rows sid).filterMap wholeNumber = []
    · rw [reportedTopology_eq, missingOf, hnil]
      rfl
    obtain ⟨minVol, -, m, hm, hbetween⟩ := exists_bounds hnil
    rw [reportedTopology_of_comparable h hm fun v hv => (hbetween v hv).2]
    symm
    -- the hunter passes the series over, and nothing is missing
    rw [List.eq_nil_iff_forall_not_mem]
    intro v hv
    obtain ⟨⟨hpos, hlt⟩, hnot⟩ := Gaps.mem_missing.mp hv
    refine hnot ?_
    rcases (SeriesGapHunter.expectedRange_eq_none (SeriesGapHunter.nodup_intIndices _)).mp hrange with
      hall | ⟨v', hv', w, hw, hwide⟩
    · have hm1 := hall m ((hsame m).mp hm)
      have hv1 : v = m := by omega
      rw [hv1]
      exact hm
    · rw [SeriesGapHunter.maxGapSpan] at hwide
      have hvpos := positive_of_comparable h (hhunter.mp hv')
      have hw' : HasWhole py rows sid w := by
        rcases hhunter.mp hw with hw | ⟨hone, -⟩
        · exact hw
        · omega
      rcases hhunter.mp hv' with hwhole | ⟨hone, hnull⟩
      · have hspan := h.narrow v' w hwhole hw'
        omega
      · rcases habsent hnull with hsmall | hfull
        · have hle := hsmall w hw'
          omega
        · rw [mem_topologyInts]
          by_cases hv1 : v = 1
          · exact .inr ⟨hv1, hnull⟩
          · left
            have hmwhole : HasWhole py rows sid m := by
              rcases mem_topologyInts.mp hm with hm | ⟨hone', -⟩
              · exact hm
              · omega
            exact hfull v m hmwhole (by omega) (by omega)

theorem agreeWhen_of_agree (h : Comparable py rows sid) (hagree : Agree py rows sid) :
    AgreeWhen py rows sid := by
  obtain ⟨gaps, hgaps, -, hsamelist⟩ := hagree
  have hread : SeriesGapHunter.Readable py rows := by
    obtain ⟨entries, hentries, -⟩ := Except.exists_of_bind_eq_ok hgaps
    exact SeriesGapHunter.readable_of_mapM hentries
  refine ⟨hread, fun habsent => ?_⟩
  by_cases hsmall : ∀ v, HasWhole py rows sid v → v ≤ 201
  · exact .inl hsmall
  right
  obtain ⟨w, hw⟩ := not_forall.mp hsmall
  obtain ⟨hwhole, hgt⟩ := Classical.not_imp.mp hw
  have hhunter := @mem_hunterInts py rows sid hread h
  have hwide : SeriesGapHunter.expectedRange (SeriesGapHunter.intIndices
      (SeriesGapHunter.countedIndices py rows sid)) = none := by
    refine (SeriesGapHunter.expectedRange_eq_none (SeriesGapHunter.nodup_intIndices _)).mpr
      (.inr ⟨1, hhunter.mpr (.inr ⟨rfl, habsent⟩), w, hhunter.mpr (.inl hwhole), ?_⟩)
    rw [SeriesGapHunter.maxGapSpan]
    omega
  rw [SeriesGapHunter.reported_eq hread hgaps, SeriesGapHunter.missingOf_of_none hwide] at hsamelist
  have hmem : w ∈ (finiteIndices py rows sid).filterMap wholeNumber :=
    mem_topologyInts.mpr (.inl hwhole)
  obtain ⟨minVol, -, last, hlast, hbetween⟩ := exists_bounds (List.ne_nil_of_mem hmem)
  rw [reportedTopology_of_comparable h hlast fun v hv => (hbetween v hv).2] at hsamelist
  intro v m hm hpos hle
  have hmlast := (hbetween m (mem_topologyInts.mpr (.inl hm))).2
  have hvmem : v ∈ (finiteIndices py rows sid).filterMap wholeNumber := by
    by_contra hnot
    have hmissing := Gaps.mem_missing.mpr ⟨(⟨by omega, by omega⟩ : 1 ≤ v ∧ v < last + 1), hnot⟩
    rw [← hsamelist] at hmissing
    cases hmissing
  rcases mem_topologyInts.mp hvmem with hv | ⟨hone, -⟩
  · exact hv
  · omega

/-- The topology is orderly on every series. On a series that is compared the two analyses agree
exactly when the hunter can read every index of the library, and an absent index, read as 1, does not
make it pass over a series in which something is missing. -/
theorem analyses_agree_iff (py : RuleRuntime) (rows : List SeriesRow) (sid : ℤ)
    (h : Comparable py rows sid) :
    (Agree py rows sid ∧ ∀ sid', Orderly py rows sid') ↔ AgreeWhen py rows sid := by
  constructor
  · rintro ⟨hagree, -⟩
    exact agreeWhen_of_agree h hagree
  · intro hwhen
    have hgaps := SeriesGapHunter.findAllGaps_ok hwhen.readable 1
    have hlists := reported_eq_of_agreeWhen h hwhen hgaps
    refine ⟨⟨_, hgaps, ?_, hlists⟩, orderly py rows⟩
    rw [SeriesGapHunter.exists_gap_iff hgaps, exists_topologyGap_iff, hlists]

/-! ### An index that is no number -/

/-- A book of another series whose index is a text. -/
def badIndex : SeriesRow :=
  { seriesId := 2, seriesName := "Foundation", bookId := 9, title := "Foundation",
    seriesIndex := .text "first", authors := some "Isaac Asimov" }

theorem comparable_dune (others : List SeriesRow) (hothers : ∀ row ∈ others, row.seriesId ≠ 1) :
    Comparable .ascii ([SeriesGapHunter.volume 1 "Dune" 1,
      SeriesGapHunter.volume 2 "Children of Dune" 3] ++ others) 1 := by
  have hrows : ∀ row ∈ [SeriesGapHunter.volume 1 "Dune" 1,
      SeriesGapHunter.volume 2 "Children of Dune" 3] ++ others, row.seriesId = 1 →
      row.seriesIndex = .real (.finite 1) ∨ row.seriesIndex = .real (.finite 3) := by
    intro row hrow hsid
    rcases List.mem_append.mp hrow with hrow | hrow
    · rcases List.mem_cons.mp hrow with rfl | hrow
      · exact .inl rfl
      · rw [List.mem_singleton.mp hrow]
        exact .inr rfl
    · exact absurd hsid (hothers row hrow)
  have hwhole : ∀ v, HasWhole .ascii ([SeriesGapHunter.volume 1 "Dune" 1,
      SeriesGapHunter.volume 2 "Children of Dune" 3] ++ others) 1 v → v = 1 ∨ v = 3 := by
    rintro v ⟨row, hrow, hsid, -, hindex⟩
    rcases hrows row hrow hsid with h | h
    · rw [h, finiteIndex_finite, Option.some.injEq, Double.finite.injEq] at hindex
      exact .inl (by exact_mod_cast hindex.symm)
    · rw [h, finiteIndex_finite, Option.some.injEq, Double.finite.injEq] at hindex
      exact .inr (by exact_mod_cast hindex.symm)
  refine ⟨fun row hrow hsid => ?_, fun v hv => ?_, fun v w hv hw => ?_, .inl ⟨1, ?_, by omega⟩⟩
  · rcases hrows row hrow hsid with h | h
    · rw [h]
      rfl
    · rw [h]
      rfl
  · rcases hwhole v hv with rfl | rfl
    · omega
    · omega
  · rcases hwhole v hv with rfl | rfl
    · rcases hwhole w hw with rfl | rfl
      · omega
      · omega
    · rcases hwhole w hw with rfl | rfl
      · omega
      · omega
  · refine ⟨SeriesGapHunter.volume 1 "Dune" 1, by simp, rfl, StoredIndex.noConfusion, ?_⟩
    rw [Int.cast_one]
    rfl

theorem analyses_agree_dune :
    Agree .ascii ([SeriesGapHunter.volume 1 "Dune" 1,
      SeriesGapHunter.volume 2 "Children of Dune" 3] ++ []) 1 := by
  have hcomparable := comparable_dune [] (by simp)
  refine ((analyses_agree_iff .ascii _ 1 hcomparable).mpr ⟨?_, ?_⟩).1
  · intro row hrow s hs
    simp only [List.append_nil, List.mem_cons, List.not_mem_nil, or_false] at hrow
    rcases hrow with rfl | rfl
    · cases hs
    · cases hs
  · rintro ⟨row, hrow, -, hnull⟩
    simp only [List.append_nil, List.mem_cons, List.not_mem_nil, or_false] at hrow
    rcases hrow with rfl | rfl
    · cases hnull
    · cases hnull

/-- A text in the column of one series makes the hunter raise for all of them. The topology reports
the second volume as missing. -/
theorem unreadable_index_stops_the_hunter :
    Comparable .ascii ([SeriesGapHunter.volume 1 "Dune" 1,
        SeriesGapHunter.volume 2 "Children of Dune" 3] ++ [badIndex]) 1 ∧
      reportedTopology 1 (analyzeSeriesGaps .ascii ([SeriesGapHunter.volume 1 "Dune" 1,
        SeriesGapHunter.volume 2 "Children of Dune" 3] ++ [badIndex])) = [2] ∧
      ¬Agree .ascii ([SeriesGapHunter.volume 1 "Dune" 1,
        SeriesGapHunter.volume 2 "Children of Dune" 3] ++ [badIndex]) 1 := by
  refine ⟨comparable_dune [badIndex] (by simp [badIndex]), by decide +kernel, ?_⟩
  rintro ⟨gaps, hgaps, -⟩
  have hraises : (findAllGaps .ascii 1 ([SeriesGapHunter.volume 1 "Dune" 1,
      SeriesGapHunter.volume 2 "Children of Dune" 3] ++ [badIndex])).toOption = none := by
    decide +kernel
  rw [hgaps] at hraises
  cases hraises

end Bookwarden.Curation.SeriesTopologyEngine
