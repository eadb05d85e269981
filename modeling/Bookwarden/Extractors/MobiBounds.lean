import Bookwarden.Extractors.MobiPalmDoc

/-!
# What the MOBI parser reads

The offsets in the record list are the file's own. A record is read with the difference of two of them
as its length, cut to a constant. A negative length raises, except -1, with which `read` returns the
rest of the file: so the bounds are those of files in which no record begins one byte before the
record that it follows.

A record of the EXTH header takes at least its eight bytes of record 0, which is cut to 1 MiB, and
that bounds how many there are, whatever their declared number.

## Main definitions

* `MobiBounded`
* `NoStepBack`

## Main results

* `mobiBounded`, `many_exth_records`
* `length_le_cost_of_stepBack`
-/

namespace Bookwarden.Mobi

/-- The number of records that the header declares. -/
def declaredRecords (stream : Bytes) : ℕ := bigEndian (slice stream 76 78)

/-- So many EXTH records at most, their values one after the other in record 0, and a cover from
within its record. -/
structure ExtractionBounded (maxExth : ℕ) (stream : Bytes) (p : MobiPalmDocParser)
    (extracted : Option ExtractedCover × Exth) : Prop where
  count : extracted.2.values.length ≤ maxExth
  inside : ∀ v ∈ extracted.2.values,
    v.1 ≤ v.2 ∧ p.offset 0 + v.2 ≤ p.offset 1 ∧ p.offset 0 + v.2 ≤ stream.length
  ordered : extracted.2.values.Pairwise fun v w => v.2 ≤ w.1
  cover : ∀ c, extracted.1 = some c →
    c.data <+: slice stream (p.offset c.fromRecord) (p.nextOffset stream c.fromRecord)

/-- What the parser owes to any file: bounded reads, also when it raises, and a bounded result. -/
structure MobiBounded (decode : Bytes → String) (maxExth : ℕ) (stream : Bytes) : Prop where
  cost : (inspectMobi decode stream).cost ≤
    78 + 8 * declaredRecords stream + 1024 * 1024 + 15 * 1024 * 1024
  result : ∀ p extracted, (inspectMobi decode stream).result = .ok (p, extracted) →
    ExtractionBounded maxExth stream p extracted

/-- No record begins one byte before the record that it follows. -/
def NoStepBack (stream : Bytes) : Prop :=
  ∀ p, (parsePalmdbHeader stream).result = .ok p →
    ∀ i, i + 1 < p.numRecords → p.offset (i + 1) + 1 ≠ p.offset i

/-! ### Reads -/

section Reads

variable {stream : Bytes} {pos n : ℕ} {size : ℤ}

/-- A read of a length that is not -1 returns at most so many bytes from there. -/
theorem readAt_meets (hsize : size ≠ -1) (hn : size ≤ n) :
    Metered.Meets (readAt stream pos size) n fun bytes =>
      0 ≤ size ∧ bytes = (stream.drop pos).take size.toNat := by
  rw [readAt]
  by_cases hneg : size < -1
  · rw [if_pos hneg]
    exact ⟨Nat.zero_le n, fun _ h => nomatch h⟩
  · rw [if_neg hneg, if_neg hsize]
    refine ⟨?_, ?_⟩
    · have hlength : ((stream.drop pos).take size.toNat).length ≤ size.toNat := List.length_take_le _ _
      show ((stream.drop pos).take size.toNat).length ≤ n
      omega
    · intro bytes hbytes
      cases hbytes
      exact ⟨by omega, rfl⟩

/-- The rest of a file from behind its end is empty. -/
theorem readAt_behind (h : stream.length ≤ pos) :
    readAt stream pos (-1) = Metered.ret [] := by
  rw [readAt, if_neg (by decide), if_pos rfl, List.drop_of_length_le h]
  rfl

/-- Under a length of -1, a read returns the rest of the file. -/
theorem readAt_rest (stream : Bytes) (pos : ℕ) :
    readAt stream pos (-1) = ⟨.ok (stream.drop pos), (stream.drop pos).length⟩ := by
  rw [readAt, if_neg (by decide), if_pos rfl]

theorem slice_take {a b k : ℕ} (h : b ≤ k) : slice (stream.take k) a b = slice stream a b := by
  rw [slice, slice, List.drop_take, List.take_take, Nat.min_eq_left (by omega)]

theorem slice_append {rest : Bytes} {a b : ℕ} (h : b ≤ stream.length) :
    slice (stream ++ rest) a b = slice stream a b := by
  rw [← @slice_take (stream ++ rest) a b b (le_refl b), List.take_append_of_le_length h,
    slice_take (le_refl b)]

end Reads

/-! ### The header -/

theorem parsePalmdbHeader_cost (stream : Bytes) :
    (parsePalmdbHeader stream).cost ≤ 78 + 8 * declaredRecords stream := by
  have hmeets : Metered.Meets (parsePalmdbHeader stream) (78 + 8 * declaredRecords stream)
      fun _ => True := by
    refine Metered.Meets.bind (readAt_meets (by decide) (le_refl _)) ?_
    rintro header ⟨-, hheader⟩
    split
    · exact Metered.Meets.error
    · have hdeclared : bigEndian (slice header 76 78) = declaredRecords stream := by
        rw [hheader, declaredRecords]
        exact congrArg bigEndian (slice_take (le_refl 78))
      have hread : Metered.Meets (readAt stream 78 (bigEndian (slice header 76 78) * 8 : ℕ))
          (8 * declaredRecords stream) fun _ => True := by
        have hsize : ((bigEndian (slice header 76 78) * 8 : ℕ) : ℤ) ≤
            (8 * declaredRecords stream : ℕ) := by omega
        exact (readAt_meets (by omega) hsize).mono (le_refl _) fun _ _ => trivial
      have hrest : ∀ data, Metered.Meets (do
          let recordOffsets ← Metered.free
            ((List.range (bigEndian (slice header 76 78))).mapM fun i =>
              unpackI (slice data (i * 8) (i * 8 + 4)))
          return (⟨bigEndian (slice header 76 78), recordOffsets⟩ : MobiPalmDocParser)) 0
          fun _ => True := by
        intro data
        show Metered.Meets _ (0 + 0) _
        have hoffsets : Metered.Meets (Metered.free
            ((List.range (bigEndian (slice header 76 78))).mapM fun i =>
              unpackI (slice data (i * 8) (i * 8 + 4)))) 0 fun _ => True :=
          Metered.Meets.of_result fun _ _ => trivial
        exact Metered.Meets.bind hoffsets fun _ _ => Metered.Meets.of_value trivial
      exact Metered.Meets.bind hread fun data _ => hrest data
  exact hmeets.cost

/-! ### The EXTH records -/

/-- Values one after the other, each behind the eight bytes of its record. -/
structure ValuesUpTo (start stop : ℕ) (values : List (ℕ × ℕ)) : Prop where
  inside : ∀ v ∈ values, v.1 ≤ v.2 ∧ v.2 ≤ stop
  ordered : values.Pairwise fun v w => v.2 ≤ w.1
  count : start + 8 * values.length ≤ stop

theorem ValuesUpTo.nil {start stop : ℕ} (h : start ≤ stop) : ValuesUpTo start stop [] :=
  ⟨by simp, List.Pairwise.nil, h⟩

/-- One more record behind the others. -/
theorem ValuesUpTo.concat {start curr size : ℕ} {values : List (ℕ × ℕ)}
    (h : ValuesUpTo start curr values) (hsize : 8 ≤ size) :
    ValuesUpTo start (curr + size) (values ++ [(curr + 8, curr + size)]) := by
  refine ⟨?_, ?_, ?_⟩
  · intro v hv
    rcases List.mem_append.mp hv with hv | hv
    · have hold := h.inside v hv
      omega
    · rw [List.mem_singleton.mp hv]
      show curr + 8 ≤ curr + size ∧ curr + size ≤ curr + size
      omega
  · refine List.pairwise_append.mpr ⟨h.ordered, List.pairwise_singleton _ _, ?_⟩
    intro v hv w hw
    have hold := h.inside v hv
    rw [List.mem_singleton.mp hw]
    show v.2 ≤ curr + 8
    omega
  · have hold := h.count
    rw [List.length_append, List.length_singleton]
    omega

theorem Exth.add_values (decode : Bytes → String) (e : Exth) (recType : ℕ) (valBytes : Bytes) :
    (e.add decode recType valBytes).values = e.values := by
  unfold Exth.add
  repeat' split
  all_goals rfl

/-- The values that the loop reads are one after the other, and none goes beyond the limit. -/
theorem exthLoop_values (decode : Bytes → String) {rec0Data : Bytes} {limit start : ℕ} (n : ℕ)
    {curr : ℕ} {e : Exth} (hlimit : limit ≤ rec0Data.length) (hcurr : curr ≤ rec0Data.length)
    (h : ValuesUpTo start curr e.values) :
    ∃ stop ≤ rec0Data.length,
      ValuesUpTo start stop (exthLoop decode rec0Data limit n curr e).values := by
  induction n generalizing curr e with
  | zero => exact ⟨curr, hcurr, h⟩
  | succ n ih =>
    rw [exthLoop]
    split
    · exact ⟨curr, hcurr, h⟩
    · simp only
      split
      · exact ⟨curr, hcurr, h⟩
      · next hbreak =>
        obtain ⟨hsize, hend⟩ := not_or.mp hbreak
        exact ih (by omega) (h.concat (by omega))

/-- The records lie behind the header of record 0 and the twelve bytes of the EXTH header. -/
theorem exthOf_values (decode : Bytes → String) {rec0Data : Bytes} (h : 28 ≤ rec0Data.length) :
    ∃ stop ≤ rec0Data.length, ValuesUpTo 28 stop (exthOf decode rec0Data).values := by
  rw [exthOf]
  simp only
  split
  · next hexth =>
    have hstart : 28 ≤ 16 + bigEndian (slice rec0Data 20 24) + 12 := by omega
    exact exthLoop_values decode _ (Nat.min_le_right _ _) hexth.2.1 (ValuesUpTo.nil hstart)
  · exact ⟨28, h, ValuesUpTo.nil (le_refl 28)⟩

/-! ### The cover -/

theorem coverOf_meets {stream : Bytes} {p : MobiPalmDocParser}
    (hback : ∀ i, i + 1 < p.numRecords → p.offset (i + 1) + 1 ≠ p.offset i) (firstImageIndex : ℕ)
    (coverOffset : Option ℕ) :
    Metered.Meets (coverOf stream p firstImageIndex coverOffset) (15 * 1024 * 1024)
      fun cover => ∀ c, cover = some c →
        c.data <+: slice stream (p.offset c.fromRecord) (p.nextOffset stream c.fromRecord) := by
  have hnone : Metered.Meets (Metered.ret none : Metered PyError (Option ExtractedCover))
      (15 * 1024 * 1024) fun cover => ∀ c, cover = some c →
        c.data <+: slice stream (p.offset c.fromRecord) (p.nextOffset stream c.fromRecord) :=
    Metered.Meets.of_value fun c hc => nomatch hc
  cases coverOffset with
  | none => exact hnone
  | some coverOffset =>
    simp only [coverOf]
    split
    · exact hnone
    · split
      · show Metered.Meets _ (15 * 1024 * 1024 + 0) _
        set i := firstImageIndex + coverOffset with hi
        have hread : Metered.Meets (readAt stream (p.offset i)
            (min ((p.nextOffset stream i : ℤ) - p.offset i) (15 * 1024 * 1024)))
            (15 * 1024 * 1024) fun rawImg =>
              rawImg <+: slice stream (p.offset i) (p.nextOffset stream i) := by
          by_cases hbehind : ¬i + 1 < p.numRecords ∧ p.offset i = stream.length + 1
          · -- the length is -1, but there is nothing to read
            have hnext : p.nextOffset stream i = stream.length := if_neg hbehind.1
            have hlen : min ((p.nextOffset stream i : ℤ) - p.offset i) (15 * 1024 * 1024) = -1 := by
              omega
            rw [hlen, readAt_behind (by omega)]
            exact Metered.Meets.of_value List.nil_prefix
          · have hstep : (p.nextOffset stream i : ℤ) - p.offset i ≠ -1 := by
              rw [MobiPalmDocParser.nextOffset]
              split
              · next hlt =>
                have hne := hback i hlt
                omega
              · next hlt =>
                have hne : p.offset i ≠ stream.length + 1 := fun h => hbehind ⟨hlt, h⟩
                omega
            refine (readAt_meets (by omega) (by omega)).mono (le_refl _) ?_
            rintro rawImg ⟨hpos, rfl⟩
            exact List.take_prefix_take_left (by omega)
        refine Metered.Meets.bind hread fun rawImg hraw => ?_
        split
        · refine Metered.Meets.of_value fun c hc => ?_
          cases hc
          exact hraw
        · exact Metered.Meets.of_value fun c hc => nomatch hc
      · exact hnone

/-! ### The extraction -/

/-- The EXTH records that fit into 1 MiB. -/
def maxExthRecords : ℕ := 131068

theorem extractionBounded_empty {maxExth : ℕ} {stream : Bytes} {p : MobiPalmDocParser} :
    ExtractionBounded maxExth stream p (none, {}) :=
  ⟨Nat.zero_le _, by simp, List.Pairwise.nil, fun _ hc => nomatch hc⟩

theorem extract_meets (decode : Bytes → String) {stream : Bytes} {p : MobiPalmDocParser}
    (hback : ∀ i, i + 1 < p.numRecords → p.offset (i + 1) + 1 ≠ p.offset i) :
    Metered.Meets (extractCoverAndMetadata decode stream p) (1024 * 1024 + 15 * 1024 * 1024)
      (ExtractionBounded maxExthRecords stream p) := by
  rw [extractCoverAndMetadata]
  split
  · exact Metered.Meets.of_value extractionBounded_empty
  · next hrecords =>
    have hstep : p.offset 1 + 1 ≠ p.offset 0 := hback 0 (by omega)
    have hread := @readAt_meets stream (p.offset 0) (1024 * 1024)
      (min ((p.offset 1 : ℤ) - p.offset 0) (1024 * 1024)) (by omega) (by omega)
    refine Metered.Meets.bind hread ?_
    rintro rec0Data ⟨hpos, hdata⟩
    have hlength : rec0Data.length ≤ 1024 * 1024 ∧ p.offset 0 + rec0Data.length ≤ p.offset 1 ∧
        (rec0Data.length = 0 ∨ p.offset 0 + rec0Data.length ≤ stream.length) := by
      rw [hdata, List.length_take, List.length_drop]
      omega
    split
    · exact Metered.Meets.of_value extractionBounded_empty
    · next hlong =>
      split
      · exact Metered.Meets.of_value extractionBounded_empty
      · show Metered.Meets _ (15 * 1024 * 1024 + 0) _
        obtain ⟨stop, hstop, hvalues⟩ := exthOf_values decode (show 28 ≤ rec0Data.length by omega)
        refine Metered.Meets.bind (coverOf_meets hback _ _) fun cover hcover => ?_
        refine Metered.Meets.of_value ⟨?_, ?_, hvalues.ordered, hcover⟩
        · have hcount := hvalues.count
          show (exthOf decode rec0Data).values.length ≤ 131068
          omega
        · intro v hv
          have hin := hvalues.inside v hv
          omega

theorem inspectMobi_meets (decode : Bytes → String) {stream : Bytes} (hback : NoStepBack stream) :
    Metered.Meets (inspectMobi decode stream)
      (78 + 8 * declaredRecords stream + (1024 * 1024 + 15 * 1024 * 1024))
      fun x => ExtractionBounded maxExthRecords stream x.1 x.2 := by
  have hheader : Metered.Meets (parsePalmdbHeader stream) (78 + 8 * declaredRecords stream)
      fun p => (parsePalmdbHeader stream).result = .ok p :=
    ⟨parsePalmdbHeader_cost stream, fun _ h => h⟩
  refine Metered.Meets.bind hheader fun p hp => ?_
  show Metered.Meets _ (1024 * 1024 + 15 * 1024 * 1024 + 0) _
  refine Metered.Meets.bind (extract_meets decode (hback p hp)) fun extracted hextracted => ?_
  exact Metered.Meets.of_value hextracted

/-- The parser reads a bounded amount of every file in which no record begins one byte before the
record that it follows. -/
theorem mobiBounded (decode : Bytes → String) (stream : Bytes) (hback : NoStepBack stream) :
    MobiBounded decode maxExthRecords stream := by
  have hmeets := inspectMobi_meets decode hback
  constructor
  case cost =>
    calc (inspectMobi decode stream).cost
      _ ≤ 78 + 8 * declaredRecords stream + (1024 * 1024 + 15 * 1024 * 1024) := hmeets.cost
      _ = 78 + 8 * declaredRecords stream + 1024 * 1024 + 15 * 1024 * 1024 :=
        (Nat.add_assoc _ _ _).symm
  case result =>
    intro p extracted h
    exact hmeets.result (p, extracted) h

/-- With the next record one byte before it, record 0 is the rest of the file, whatever its length. -/
theorem length_le_cost_of_stepBack (decode : Bytes → String) (stream : Bytes) {p : MobiPalmDocParser}
    (hrecords : 2 ≤ p.numRecords) (hback : p.offset 1 + 1 = p.offset 0) :
    (stream.drop (p.offset 0)).length ≤ (extractCoverAndMetadata decode stream p).cost := by
  have hsize : min ((p.offset 1 : ℤ) - p.offset 0) (1024 * 1024) = -1 := by omega
  rw [extractCoverAndMetadata, if_neg (by omega)]
  show _ ≤ (readAt stream (p.offset 0) (min ((p.offset 1 : ℤ) - p.offset 0) (1024 * 1024)) >>= _).cost
  rw [hsize]
  refine Nat.le_trans ?_ (Metered.le_cost_bind _ _)
  rw [readAt_rest]

/-- Without an offset of a cover, the EXTH records of record 0 are the result. -/
theorem inspectMobi_of_noCover {decode : Bytes → String} {stream rec0Data : Bytes}
    {p : MobiPalmDocParser} {n : ℕ} (hparse : (parsePalmdbHeader stream).result = .ok p)
    (hrecords : 2 ≤ p.numRecords)
    (hread : readAt stream (p.offset 0) (min ((p.offset 1 : ℤ) - p.offset 0) (1024 * 1024)) =
      ⟨.ok rec0Data, n⟩)
    (hlength : 16 + 128 ≤ rec0Data.length)
    (hmagic : slice rec0Data 16 20 = [0x4d, 0x4f, 0x42, 0x49])
    (hcover : (exthOf decode rec0Data).coverOffset = none) :
    (inspectMobi decode stream).result = .ok (p, none, exthOf decode rec0Data) := by
  have hextract : (extractCoverAndMetadata decode stream p).result =
      .ok (none, exthOf decode rec0Data) := by
    rw [extractCoverAndMetadata, if_neg (by omega)]
    refine (Metered.bind_of_ok (congrArg Metered.result hread)).trans ?_
    rw [if_neg (by omega), if_neg (by rw [hmagic]; simp)]
    show (coverOf stream p _ (exthOf decode rec0Data).coverOffset >>= _).result = _
    rw [hcover]
    rfl
  rw [inspectMobi, Metered.bind_of_ok hparse, Metered.bind_of_ok hextract]
  rfl

/-! ### Many records -/

/-- An EXTH record of type 0 without a value. -/
def emptyRecord : Bytes := [0, 0, 0, 0, 0, 0, 0, 8]

/-- So many of them. -/
def emptyRecords (n : ℕ) : Bytes := (List.replicate n emptyRecord).flatten

theorem emptyRecords_succ (n : ℕ) : emptyRecords (n + 1) = emptyRecord ++ emptyRecords n := rfl

theorem length_emptyRecords (n : ℕ) : (emptyRecords n).length = 8 * n := by
  induction n with
  | zero => rfl
  | succ n ih =>
    rw [emptyRecords_succ, List.length_append, ih]
    show 8 + 8 * n = 8 * (n + 1)
    omega

/-- The loop reads all of them, and no cover. -/
theorem exthLoop_emptyRecords (decode : Bytes → String) {rec0Data : Bytes} {limit curr : ℕ} (n : ℕ)
    {e : Exth} (hdata : rec0Data.drop curr = emptyRecords n) (hlimit : limit = curr + 8 * n) :
    (exthLoop decode rec0Data limit n curr e).values.length = e.values.length + n ∧
      (exthLoop decode rec0Data limit n curr e).coverOffset = e.coverOffset := by
  induction n generalizing curr e with
  | zero => exact ⟨rfl, rfl⟩
  | succ n ih =>
    rw [emptyRecords_succ] at hdata
    have htype : slice rec0Data curr (curr + 4) = [0, 0, 0, 0] := by
      rw [slice, hdata, Nat.add_sub_cancel_left]
      rfl
    have hsize : slice rec0Data (curr + 4) (curr + 8) = [0, 0, 0, 8] := by
      rw [slice, ← List.drop_drop, hdata, show curr + 8 - (curr + 4) = 4 by omega]
      rfl
    have hnumber : bigEndian [0, 0, 0, 8] = 8 := by decide
    have hrest : rec0Data.drop (curr + 8) = emptyRecords n := by
      rw [← List.drop_drop, hdata]
      rfl
    have hadd : ∀ valBytes, e.add decode (bigEndian [0, 0, 0, 0]) valBytes = e := by
      intro valBytes
      simp [Exth.add, bigEndian]
    rw [exthLoop, if_neg (by omega)]
    simp only [htype, hsize, hnumber, hadd]
    rw [if_neg (by omega)]
    obtain ⟨hlength, hcover⟩ := @ih (curr + 8) { e with values := e.values ++ [(curr + 8, curr + 8)] }
      hrest (by omega)
    rw [hlength, hcover, List.length_append, List.length_singleton]
    exact ⟨by omega, rfl⟩

/-- The header of a file with two records: record 0 at 94, and the next at 524538. -/
def fileHeader : Bytes :=
  List.replicate 76 0 ++ [0, 2, 0, 0, 0, 94, 0, 0, 0, 0, 0, 8, 0, 250, 0, 0, 0, 0]

/-- A MOBI header with the flag for an EXTH header, which announces 65536 records. -/
def mobiHeader : Bytes :=
  List.replicate 16 0 ++ [0x4d, 0x4f, 0x42, 0x49, 0, 0, 0, 128] ++ List.replicate 104 0 ++
    [0, 0, 0, 0x40] ++ List.replicate 12 0 ++ [0x45, 0x58, 0x54, 0x48, 0, 8, 0, 12, 0, 1, 0, 0]

theorem length_mobiHeader : mobiHeader.length = 156 := by simp [mobiHeader]

/-- The file with these records. -/
def manyRecords : Bytes := fileHeader ++ (mobiHeader ++ emptyRecords 65536)

theorem parse_manyRecords :
    (parsePalmdbHeader manyRecords).result = .ok ⟨2, [94, 524538]⟩ := by
  have hheader : readAt manyRecords 0 78 = ⟨.ok (fileHeader.take 78), 78⟩ := by
    have htake : manyRecords.take 78 = fileHeader.take 78 := List.take_append_of_le_length (by decide)
    show (⟨.ok (manyRecords.take 78), (manyRecords.take 78).length⟩ : Metered PyError Bytes) = _
    rw [htake]
    rfl
  have hlist : readAt manyRecords 78 (((2 : ℕ) : ℤ) * 8) = ⟨.ok (fileHeader.drop 78), 16⟩ := by
    have htake : (manyRecords.drop 78).take 16 = fileHeader.drop 78 := by
      rw [manyRecords, List.drop_append_of_le_length (by decide),
        List.take_append_of_le_length (by decide)]
      rfl
    show (⟨.ok ((manyRecords.drop 78).take 16), ((manyRecords.drop 78).take 16).length⟩ :
      Metered PyError Bytes) = _
    rw [htake]
    rfl
  have hnumber : bigEndian (slice (fileHeader.take 78) 76 78) = 2 := by decide
  have hoffsets : ((List.range 2).mapM fun i =>
      unpackI (slice (fileHeader.drop 78) (i * 8) (i * 8 + 4))) = .ok [94, 524538] := by decide
  rw [parsePalmdbHeader, Metered.bind_of_ok (congrArg Metered.result hheader), if_neg (by decide)]
  simp only [hnumber]
  rw [Metered.bind_of_ok (congrArg Metered.result hlist), hoffsets]
  rfl

theorem noStepBack_manyRecords : NoStepBack manyRecords := by
  intro p hp i hi
  rw [parse_manyRecords] at hp
  cases hp
  have hzero : i = 0 := by
    have hlt : i + 1 < 2 := hi
    omega
  subst hzero
  decide

/-- The reads of the file are bounded. -/
theorem mobiBounded_manyRecords :
    MobiBounded (fun _ => "") maxExthRecords manyRecords :=
  mobiBounded (fun _ => "") manyRecords noStepBack_manyRecords

/-- Record 0 is read whole. -/
theorem read_manyRecords :
    readAt manyRecords 94 (min ((524538 : ℤ) - 94) (1024 * 1024)) =
      ⟨.ok (mobiHeader ++ emptyRecords 65536), 524444⟩ := by
  have hlength : (mobiHeader ++ emptyRecords 65536).length = 524444 := by
    rw [List.length_append, length_emptyRecords]
    rfl
  have htake : (manyRecords.drop 94).take 524444 = mobiHeader ++ emptyRecords 65536 := by
    have hdrop : manyRecords.drop 94 = mobiHeader ++ emptyRecords 65536 := List.drop_left' (by rfl)
    rw [hdrop, List.take_of_length_le (by omega)]
  show (⟨.ok ((manyRecords.drop 94).take 524444), ((manyRecords.drop 94).take 524444).length⟩ :
    Metered PyError Bytes) = _
  rw [htake, hlength]

theorem exthOf_manyRecords (decode : Bytes → String) :
    (exthOf decode (mobiHeader ++ emptyRecords 65536)).values.length = 65536 ∧
      (exthOf decode (mobiHeader ++ emptyRecords 65536)).coverOffset = none := by
  have hslice : ∀ a b, b ≤ 156 →
      slice (mobiHeader ++ emptyRecords 65536) a b = slice mobiHeader a b :=
    fun a b hb => slice_append hb
  have hlength : (mobiHeader ++ emptyRecords 65536).length = 524444 := by
    rw [List.length_append, length_emptyRecords]
    rfl
  have hheaderLength : bigEndian (slice (mobiHeader ++ emptyRecords 65536) 20 24) = 128 := by
    rw [hslice 20 24 (by decide)]
    decide
  have hflags : bigEndian (slice (mobiHeader ++ emptyRecords 65536) 128 132) = 64 := by
    rw [hslice 128 132 (by decide)]
    decide
  have hmagic : slice (mobiHeader ++ emptyRecords 65536) 144 148 = [0x45, 0x58, 0x54, 0x48] := by
    rw [hslice 144 148 (by decide)]
    decide
  have hexthLen : bigEndian (slice (mobiHeader ++ emptyRecords 65536) 148 152) = 524300 := by
    rw [hslice 148 152 (by decide)]
    decide
  have hrecCount : bigEndian (slice (mobiHeader ++ emptyRecords 65536) 152 156) = 65536 := by
    rw [hslice 152 156 (by decide)]
    decide
  have hdrop : (mobiHeader ++ emptyRecords 65536).drop 156 = emptyRecords 65536 :=
    List.drop_left' (by rfl)
  have hloop := @exthLoop_emptyRecords decode _ 524444 156 65536 {} hdrop (by omega)
  rw [exthOf]
  simp only [hheaderLength, hflags, hlength]
  rw [if_pos ⟨by decide, by decide, hmagic⟩, hexthLen, hrecCount]
  exact ⟨hloop.1.trans (Nat.zero_add 65536), hloop.2⟩

/-- More EXTH records than a number of two bytes counts. -/
theorem many_exth_records : ¬MobiBounded (fun _ => "") 65535 manyRecords := by
  intro h
  obtain ⟨hcount, hcover⟩ := exthOf_manyRecords fun _ => ""
  have hmagic : slice (mobiHeader ++ emptyRecords 65536) 16 20 = [0x4d, 0x4f, 0x42, 0x49] := by
    have hshort : 20 ≤ mobiHeader.length := by
      rw [length_mobiHeader]
      omega
    rw [slice_append hshort]
    decide
  have hlength : 16 + 128 ≤ (mobiHeader ++ emptyRecords 65536).length := by
    rw [List.length_append, length_emptyRecords]
    omega
  have hresult := inspectMobi_of_noCover parse_manyRecords (by decide) read_manyRecords hlength hmagic
    hcover
  have hle := (h.result _ _ hresult).count
  rw [hcount] at hle
  omega

end Bookwarden.Mobi
