import Mathlib.Data.List.Infix
import Bookwarden.CanonicalJson
import Bookwarden.Exceptions
import Bookwarden.Lib.Double
import Bookwarden.Pipeline.Validation

/-!
# Calibration reports

`verification/calibration_v2.py`: a report carries the hash of its own values, is written as JSON,
and opens the gate for automatic corrections while it is valid.

## What is a parameter

`ReportPydantic` has, beside the coercions of pydantic, the time that a datetime stands for; a
datetime is the text that is dumped for it. `json.loads` is a function of bytes. A path is absolute
and given by its components, and a `FileSystem` says what stands at it.

## Main definitions

* `CalibrationReportV2` — with what its validators check
* `CalibrationReportV2.seal`, `CalibrationReportV2.verifySeal`
* `writeCalibrationReport`, `readReport`, `calibrationGate`

## Main results

* `readReport_writeCalibrationReport` — what is written is read, up to a size
* `CalibrationReportV2.readReport_legacy` — reports without the keys of version 2 still verify
* `CalibrationReportV2.eq_of_verifySeal` — a seal determines the report
* `calibrationGate_valid` — what a valid report meets
-/

namespace Bookwarden.Calibration

/-- Pydantic's reading of the fields of a report. -/
structure ReportPydantic extends Pydantic where
  readFloat : Json → Option ℚ
  /-- The time a datetime stands for, in microseconds; `none` for a naive one. -/
  instant : String → Option ℤ
  readFloat_float : ∀ q, readFloat (.float q) = some q
  readDatetime_dumped : ∀ {v s}, readDatetime v = some s → readDatetime (.str s) = some s

/-- Hexadecimal digests are in lower case. -/
structure HexDigests (py : Runtime) : Prop where
  lower : ∀ s, isSha256 s = true → py.lower s = s
  sha256 : ∀ s, isSha256 (py.sha256 s) = true

variable (pd : ReportPydantic) (py : Runtime)

/-! ### Reports -/

/-- `CalibrationReportV2`. -/
@[ext] structure CalibrationReportV2 where
  schemaVersion : ℤ
  policyVersion : String
  corpusSha256 : { s : String // isSha256 s = true }
  sampleSize : { n : ℕ // 1 ≤ n }
  tierADecisions : ℕ
  falsePositiveCount : ℕ
  falseAutoApplyCount : ℕ
  observationsWithTiming : ℕ
  totalReviewSeconds : { q : ℚ // 0 ≤ q }
  totalEgressBytes : ℕ
  evaluatedAt : { s : String // pd.readDatetime (.str s) = some s }
  expiresAt : { s : String // pd.readDatetime (.str s) = some s }
  reportSha256 : Option String

variable {pd}

namespace CalibrationReportV2

/-- `_V2_REPORT_KEYS`. -/
def v2ReportKeys : List String :=
  ["observations_with_timing", "total_review_seconds", "total_egress_bytes"]

/-- `model_dump(mode="json", exclude={"report_sha256"})`. -/
def payload (r : CalibrationReportV2 pd) : Dict :=
  [("schema_version", .int r.schemaVersion), ("policy_version", .str r.policyVersion),
    ("corpus_sha256", .str r.corpusSha256), ("sample_size", .int r.sampleSize),
    ("tier_a_decisions", .int r.tierADecisions),
    ("false_positive_count", .int r.falsePositiveCount),
    ("false_auto_apply_count", .int r.falseAutoApplyCount),
    ("observations_with_timing", .int r.observationsWithTiming),
    ("total_review_seconds", .float r.totalReviewSeconds),
    ("total_egress_bytes", .int r.totalEgressBytes),
    ("evaluated_at", .str r.evaluatedAt), ("expires_at", .str r.expiresAt)]

/-- A dictionary without some keys. -/
def excluding (keys : List String) (d : Dict) : Dict := d.filter fun p => p.1 ∉ keys

/-- `model_dump(mode="json", exclude=…)`. -/
def dump (r : CalibrationReportV2 pd) (exclude : List String) : Dict :=
  excluding exclude r.payload ++ [("report_sha256", .optStr r.reportSha256)]

/-- `_seal_value`. -/
def sealValue (r : CalibrationReportV2 pd) (exclude : List String) : String :=
  hashJson py (.obj (excluding exclude r.payload))

/-- `_v2_keys_at_default`. -/
def v2KeysAtDefault (r : CalibrationReportV2 pd) : Prop :=
  r.observationsWithTiming = 0 ∧ r.totalReviewSeconds.1 = 0 ∧ r.totalEgressBytes = 0

instance (r : CalibrationReportV2 pd) : Decidable r.v2KeysAtDefault :=
  inferInstanceAs (Decidable (_ ∧ _ ∧ _))

/-- `verify_seal`. -/
def verifySeal (r : CalibrationReportV2 pd) : Bool :=
  match r.reportSha256 with
  | none => false
  | some sha =>
    if sha = r.sealValue py [] then true
    else if r.schemaVersion = 1 ∧ r.v2KeysAtDefault then sha = r.sealValue py v2ReportKeys
    else false

end CalibrationReportV2

/-- `seal`. -/
def CalibrationReportV2.seal (r : CalibrationReportV2 pd) : CalibrationReportV2 pd :=
  { r with reportSha256 := some (r.sealValue py []) }

/-! ### Reading -/

/-- `_valid_corpus_sha256`. -/
def readCorpusSha256 : Json → Option { s : String // isSha256 s = true }
  | .str s => if h : isSha256 (py.lower s) = true then some ⟨py.lower s, h⟩ else none
  | _ => none

/-- `Field(ge=0)` of an integer. -/
def readCount (pd : ReportPydantic) (v : Json) : Option ℕ :=
  (pd.readInt v).bind fun n => if 0 ≤ n then some n.toNat else none

/-- `Field(ge=1)` of an integer. -/
def readPositive (pd : ReportPydantic) (v : Json) : Option { n : ℕ // 1 ≤ n } :=
  (pd.readInt v).bind fun n => if h : 1 ≤ n.toNat then some ⟨n.toNat, h⟩ else none

/-- `Field(ge=0)` of a float. -/
def readSeconds (pd : ReportPydantic) (v : Json) : Option { q : ℚ // 0 ≤ q } :=
  (pd.readFloat v).bind fun q => if h : 0 ≤ q then some ⟨q, h⟩ else none

/-- A datetime. -/
def readTime (pd : ReportPydantic) (v : Json) :
    Option { s : String // pd.readDatetime (.str s) = some s } :=
  match h : pd.readDatetime v with
  | none => none
  | some s => some ⟨s, pd.readDatetime_dumped h⟩

/-- The fields of a report. -/
def fieldNames : List String :=
  ["schema_version", "policy_version", "corpus_sha256", "sample_size", "tier_a_decisions",
    "false_positive_count", "false_auto_apply_count", "observations_with_timing",
    "total_review_seconds", "total_egress_bytes", "evaluated_at", "expires_at", "report_sha256"]

/-- `CalibrationReportV2.model_validate`. -/
def CalibrationReportV2.validate (pd : ReportPydantic) : Json → Option (CalibrationReportV2 pd) :=
  readModel fieldNames fun d => do
    let schemaVersion ← d.fieldOr "schema_version" 2 pd.readInt
    let policyVersion ← d.fieldOr "policy_version" "manifestation-v2" readStr
    let corpusSha256 ← d.field "corpus_sha256" (readCorpusSha256 py)
    let sampleSize ← d.field "sample_size" (readPositive pd)
    let tierADecisions ← d.field "tier_a_decisions" (readCount pd)
    let falsePositiveCount ← d.field "false_positive_count" (readCount pd)
    let falseAutoApplyCount ← d.field "false_auto_apply_count" (readCount pd)
    let observationsWithTiming ← d.fieldOr "observations_with_timing" 0 (readCount pd)
    let totalReviewSeconds ← d.fieldOr "total_review_seconds" ⟨0, le_rfl⟩ (readSeconds pd)
    let totalEgressBytes ← d.fieldOr "total_egress_bytes" 0 (readCount pd)
    let evaluatedAt ← d.field "evaluated_at" (readTime pd)
    let expiresAt ← d.field "expires_at" (readTime pd)
    let reportSha256 ← d.fieldOr "report_sha256" none (readOpt (readSha256 py))
    some { schemaVersion, policyVersion, corpusSha256, sampleSize, tierADecisions,
           falsePositiveCount, falseAutoApplyCount, observationsWithTiming, totalReviewSeconds,
           totalEgressBytes, evaluatedAt, expiresAt, reportSha256 }

/-! ### Files -/

/-- What stands at a path. -/
inductive Node
  | absent
  | directory
  | file (bytes : List UInt8)
  | symlink
  | other
  deriving DecidableEq, Repr

/-- What stands at every absolute path. -/
abbrev FileSystem := List String → Node

/-- One line of `json.dumps(…, indent=2, sort_keys=True)` for a value that is no container. -/
def indentedEntry (p : String × Json) : List Char :=
  ' ' :: ' ' :: (quoteChars p.1 ++ ':' :: ' ' :: dumpsChars py p.2)

/-- `json.dumps(…, indent=2, sort_keys=True)` of a dictionary without containers. -/
def dumpsIndented (d : Dict) : List Char :=
  '\x7b' :: '\n' :: ([',', '\n'].intercalate ((d.insertionSort Json.keyLe).map (indentedEntry py))
    ++ ['\n', '\x7d'])

/-- The bytes of the file that is written for a report. -/
def reportBytes (r : CalibrationReportV2 pd) : List UInt8 :=
  (dumpsIndented py (r.dump []) ++ ['\n']).flatMap String.utf8EncodeChar

/-- `MAX_REPORT_BYTES`. -/
def maxReportBytes : ℕ := 1024 * 1024

/-- A path is reached through directories only. -/
def isDirectory (fs : FileSystem) (path : List String) : Prop :=
  ∀ p ∈ path.inits, fs p = .directory

instance (fs : FileSystem) (path : List String) : Decidable (isDirectory fs path) :=
  inferInstanceAs (Decidable (∀ p ∈ path.inits, fs p = .directory))

/-- `replace_bytes_beneath`, which opens every directory without following links. -/
def replaceBytesBeneath (fs : FileSystem) (parent output : List String) (bytes : List UInt8) :
    Except PyError FileSystem :=
  if output = parent then .error ⟨.other, "a directory root cannot be consumed as a regular file"⟩
  else if ¬ isDirectory fs parent then .error ⟨.other, "unsafe or symlinked directory component"⟩
  else if fs output = .directory then .error ⟨.other, "could not securely replace"⟩
  else .ok (Function.update fs output (.file bytes))

/-- `write_calibration_report`. -/
def writeCalibrationReport (fs : FileSystem) (r : CalibrationReportV2 pd) (output : List String) :
    Except PyError FileSystem :=
  if ¬ r.verifySeal py then
    .error ⟨.value, "only a valid checksummed calibration report can be written"⟩
  else if fs output.dropLast ≠ .directory ∨ fs output = .symlink then
    .error ⟨.value, "calibration report output path is unsafe"⟩
  else replaceBytesBeneath fs output.dropLast output (reportBytes py r)

variable (loads : List UInt8 → Option Json)

/-- `_read_report`. -/
def readReport (pd : ReportPydantic) (fs : FileSystem) (path : List String) :
    Except PyError (CalibrationReportV2 pd) :=
  if ∃ p ∈ path.inits.tail, fs p = .symlink then
    .error ⟨.value, "calibration report path contains a symlink"⟩
  else
    match fs path with
    | .file bytes =>
      if maxReportBytes < bytes.length then
        .error ⟨.value, "calibration report exceeds the size limit"⟩
      else
        match (loads bytes).bind (CalibrationReportV2.validate py pd) with
        | none => .error ⟨.value, "calibration report is invalid"⟩
        | some report => .ok report
    | _ => .error ⟨.value, "calibration report is not a regular file"⟩

/-! ### The gate -/

/-- `AutoApplyV2Settings`. -/
structure AutoApplyV2Settings where
  enabled : Bool
  calibrationReport : Option (List String)
  minSampleSize : ℕ
  minTierADecisions : ℕ
  maxFalsePositiveRate : ℚ
  maxReportAgeDays : ℕ

/-- `CalibrationGateDecision`. -/
structure CalibrationGateDecision where
  valid : Bool
  reportSha256 : Option String
  reasons : List String

/-- An infinite quotient is an `OverflowError`. -/
def quotient : Double → Except PyError Double
  | .infinite _ => .error ⟨.other, "integer division result too large for a float"⟩
  | x => .ok x

/-- `/` of integers. -/
def trueDivide (a b : ℕ) : Except PyError Double := quotient (Double.round ((a : ℚ) / b))

/-- `timedelta(days=n)`, in microseconds. -/
def days (n : ℕ) : ℤ := n * 86400000000

/-- The reasons that a report's window gives at a time. -/
def windowReasons (gate : AutoApplyV2Settings) (current : Option ℤ) (r : CalibrationReportV2 pd) :
    Except PyError (List String) :=
  match pd.instant r.evaluatedAt, pd.instant r.expiresAt, current with
  | some evaluated, some expires, some now => .ok (
    (if now < evaluated then ["calibration evaluation timestamp is in the future"] else []) ++
    (if expires ≤ now then ["calibration report is expired"] else []) ++
    (if days gate.maxReportAgeDays < now - evaluated then
      ["calibration report is older than the configured maximum"] else []))
  | some _, some _, none =>
    .error ⟨.type, "can't compare offset-naive and offset-aware datetimes"⟩
  | _, _, _ => .ok ["calibration timestamps must be timezone-aware"]

/-- The reasons against a report that verifies. -/
def gateReasons (gate : AutoApplyV2Settings) (current : Option ℤ) (r : CalibrationReportV2 pd) :
    Except PyError (List String) := do
  let rate ← trueDivide r.falsePositiveCount (max r.tierADecisions 1)
  let window ← windowReasons gate current r
  return (
    (if r.policyVersion ≠ "manifestation-v2" ∨ r.schemaVersion ∉ [1, 2] then
      ["calibration policy or schema version does not match"] else []) ++
    (if r.sampleSize < gate.minSampleSize then
      ["calibration sample is below the configured minimum"] else []) ++
    (if r.tierADecisions < gate.minTierADecisions then
      ["calibration has too few Tier A decisions"] else []) ++
    (if r.falseAutoApplyCount ≠ 0 then
      ["calibration contains at least one false auto-apply"] else []) ++
    (if Double.lt (.finite gate.maxFalsePositiveRate) rate then
      ["calibration false-positive rate exceeds the configured maximum"] else []) ++
    window)

/-- `calibration_gate_from_settings` at the time `current`, which is `none` if it is naive. -/
def calibrationGate (pd : ReportPydantic) (fs : FileSystem) (gate : AutoApplyV2Settings)
    (current : Option ℤ) : Except PyError CalibrationGateDecision :=
  if ¬ gate.enabled then .ok ⟨false, none, ["Tier A auto-apply feature flag is disabled"]⟩
  else
    match gate.calibrationReport with
    | none => .ok ⟨false, none, ["calibration report path is not configured"]⟩
    | some path =>
      match readReport py loads pd fs path with
      | .error e => if e.kind = .value then .ok ⟨false, none, [e.message]⟩ else .error e
      | .ok report =>
        if ¬ report.verifySeal py then .ok ⟨false, none, ["calibration report seal is invalid"]⟩
        else (gateReasons gate current report).map fun reasons =>
          ⟨reasons.isEmpty, report.reportSha256, reasons⟩

/-! ### A seal determines the report -/

variable {py} {loads} {r r' : CalibrationReportV2 pd} {d : Dict}

namespace CalibrationReportV2

/-- What version 1 wrote has the same values, but for the keys of version 2. -/
structure SameV1 (r r' : CalibrationReportV2 pd) : Prop where
  schemaVersion : r.schemaVersion = r'.schemaVersion
  policyVersion : r.policyVersion = r'.policyVersion
  corpusSha256 : r.corpusSha256 = r'.corpusSha256
  sampleSize : r.sampleSize = r'.sampleSize
  tierADecisions : r.tierADecisions = r'.tierADecisions
  falsePositiveCount : r.falsePositiveCount = r'.falsePositiveCount
  falseAutoApplyCount : r.falseAutoApplyCount = r'.falseAutoApplyCount
  evaluatedAt : r.evaluatedAt = r'.evaluatedAt
  expiresAt : r.expiresAt = r'.expiresAt

/-- The payload of version 1. -/
def payloadV1 (r : CalibrationReportV2 pd) : Dict :=
  [("schema_version", .int r.schemaVersion), ("policy_version", .str r.policyVersion),
    ("corpus_sha256", .str r.corpusSha256), ("sample_size", .int r.sampleSize),
    ("tier_a_decisions", .int r.tierADecisions),
    ("false_positive_count", .int r.falsePositiveCount),
    ("false_auto_apply_count", .int r.falseAutoApplyCount),
    ("evaluated_at", .str r.evaluatedAt), ("expires_at", .str r.expiresAt)]

theorem excluding_v2ReportKeys (r : CalibrationReportV2 pd) :
    excluding v2ReportKeys r.payload = r.payloadV1 := by
  simp [excluding, payload, payloadV1, v2ReportKeys]

theorem excluding_nil (d : Dict) : excluding [] d = d := by
  simp [excluding]

theorem nodup_keys_payload (r : CalibrationReportV2 pd) : (Assoc.keys r.payload).Nodup := by
  show fieldNames.dropLast.Nodup
  decide

theorem nodup_keys_payloadV1 (r : CalibrationReportV2 pd) : (Assoc.keys r.payloadV1).Nodup := by
  show ["schema_version", "policy_version", "corpus_sha256", "sample_size", "tier_a_decisions",
    "false_positive_count", "false_auto_apply_count", "evaluated_at", "expires_at"].Nodup
  decide

theorem sameV1_of_canon (h : (Json.obj r.payloadV1).canon = (Json.obj r'.payloadV1).canon) :
    SameV1 r r' := by
  have hkeys : Assoc.keys r.payloadV1 = Assoc.keys r'.payloadV1 := rfl
  have hentries := Json.canonEntries_eq_of_canon_eq r.nodup_keys_payloadV1 hkeys h
  simp only [payloadV1, Json.canonEntries, Json.canon, List.cons.injEq, Prod.mk.injEq,
    Json.int.injEq, Json.str.injEq, Nat.cast_inj, true_and, and_true] at hentries
  obtain ⟨hschema, hpolicy, hcorpus, hsample, htier, hpositive, hauto, hevaluated, hexpires⟩ := hentries
  exact ⟨hschema, hpolicy, Subtype.ext hcorpus, Subtype.ext hsample, htier, hpositive, hauto,
    Subtype.ext hevaluated, Subtype.ext hexpires⟩

/-- Two reports are the same if they agree on version 1, on the keys of version 2 and on the hash. -/
theorem eq_of_sameV1 (h : SameV1 r r') (htiming : r.observationsWithTiming = r'.observationsWithTiming)
    (hseconds : r.totalReviewSeconds = r'.totalReviewSeconds)
    (hbytes : r.totalEgressBytes = r'.totalEgressBytes) (hsha : r.reportSha256 = r'.reportSha256) :
    r = r' :=
  CalibrationReportV2.ext h.schemaVersion h.policyVersion h.corpusSha256 h.sampleSize
    h.tierADecisions h.falsePositiveCount h.falseAutoApplyCount htiming hseconds hbytes h.evaluatedAt
    h.expiresAt hsha

theorem eq_of_canon (h : (Json.obj r.payload).canon = (Json.obj r'.payload).canon)
    (hsha : r.reportSha256 = r'.reportSha256) : r = r' := by
  have hkeys : Assoc.keys r.payload = Assoc.keys r'.payload := rfl
  have hentries := Json.canonEntries_eq_of_canon_eq r.nodup_keys_payload hkeys h
  simp only [payload, Json.canonEntries, Json.canon, List.cons.injEq, Prod.mk.injEq,
    Json.int.injEq, Json.str.injEq, Json.float.injEq, Nat.cast_inj, true_and, and_true] at hentries
  obtain ⟨hschema, hpolicy, hcorpus, hsample, htier, hpositive, hauto, htiming, hseconds, hbytes,
    hevaluated, hexpires⟩ := hentries
  exact CalibrationReportV2.ext hschema hpolicy (Subtype.ext hcorpus) (Subtype.ext hsample) htier
    hpositive hauto htiming (Subtype.ext hseconds) hbytes (Subtype.ext hevaluated)
    (Subtype.ext hexpires) hsha

/-- A payload with the keys of version 2 is not one without. -/
theorem canon_payload_ne : (Json.obj r.payload).canon ≠ (Json.obj r'.payloadV1).canon := by
  intro h
  have hget := Json.get?_of_canon_eq r.nodup_keys_payload h "total_egress_bytes"
  have hleft : Assoc.get? "total_egress_bytes" r.payload = some (.int r.totalEgressBytes) := by
    simp [payload, Assoc.get?]
  have hright : Assoc.get? "total_egress_bytes" r'.payloadV1 = none := by
    simp [payloadV1, Assoc.get?]
  rw [hleft, hright] at hget
  cases hget

variable (py) in
/-- The texts that the two seals of a report are the hashes of. -/
def sealedTexts (r : CalibrationReportV2 pd) : List String :=
  [dumps py (.obj r.payload), dumps py (.obj r.payloadV1)]

/-- What a seal that verifies is the hash of. -/
theorem verifySeal_eq_true_iff : r.verifySeal py = true ↔
    r.reportSha256 = some (hashJson py (.obj r.payload)) ∨
      (r.schemaVersion = 1 ∧ r.v2KeysAtDefault) ∧
        r.reportSha256 = some (hashJson py (.obj r.payloadV1)) := by
  rw [verifySeal, sealValue, sealValue, excluding_nil, excluding_v2ReportKeys]
  cases r.reportSha256 with
  | none => simp
  | some sha =>
    simp only [Option.some.injEq]
    split
    · rename_i hfull
      exact iff_of_true rfl (Or.inl hfull)
    · rename_i hfull
      rw [or_iff_right hfull]
      split
      · rename_i hlegacy
        rw [decide_eq_true_iff, and_iff_right hlegacy]
      · rename_i hlegacy
        exact iff_of_false Bool.false_ne_true fun h => hlegacy h.1

/-- **Tamper evidence.** Two reports that verify with the same hash are equal, unless what they were
sealed over collides. -/
theorem eq_of_verifySeal (hpy : FloatText py)
    (hcollision : ∀ t ∈ r.sealedTexts py, ∀ t' ∈ r'.sealedTexts py, py.sha256 t = py.sha256 t' → t = t')
    (hr : r.verifySeal py = true) (hr' : r'.verifySeal py = true)
    (hsha : r.reportSha256 = r'.reportSha256) : r = r' := by
  have hfull : ∀ r : CalibrationReportV2 pd, dumps py (.obj r.payload) ∈ r.sealedTexts py :=
    fun r => List.mem_cons_self
  have hlegacy : ∀ r : CalibrationReportV2 pd, dumps py (.obj r.payloadV1) ∈ r.sealedTexts py :=
    fun r => List.mem_cons_of_mem _ List.mem_cons_self
  rcases verifySeal_eq_true_iff.mp hr with hseal | ⟨⟨-, hdefault⟩, hseal⟩ <;>
    rcases verifySeal_eq_true_iff.mp hr' with hseal' | ⟨⟨-, hdefault'⟩, hseal'⟩ <;>
    have hhash := Option.some.inj (hseal.symm.trans (hsha.trans hseal'))
  · exact eq_of_canon (dumps_inj hpy (hcollision _ (hfull r) _ (hfull r') hhash)) hsha
  · exact absurd (dumps_inj hpy (hcollision _ (hfull r) _ (hlegacy r') hhash)) canon_payload_ne
  · exact absurd (dumps_inj hpy (hcollision _ (hlegacy r) _ (hfull r') hhash)).symm canon_payload_ne
  · have hv1 := sameV1_of_canon (dumps_inj hpy (hcollision _ (hlegacy r) _ (hlegacy r') hhash))
    exact eq_of_sameV1 hv1 (hdefault.1.trans hdefault'.1.symm)
      (Subtype.ext (hdefault.2.1.trans hdefault'.2.1.symm)) (hdefault.2.2.trans hdefault'.2.2.symm) hsha

theorem verifySeal_seal (r : CalibrationReportV2 pd) : (r.seal py).verifySeal py = true := by
  refine verifySeal_eq_true_iff.mpr (Or.inl ?_)
  show some (r.sealValue py []) = _
  rw [sealValue, excluding_nil]
  rfl

/-! ### What is written is read -/

theorem readCorpusSha256_str (hhex : HexDigests py) (sha : { s : String // isSha256 s = true }) :
    readCorpusSha256 py (.str sha) = some sha := by
  obtain ⟨s, hs⟩ := sha
  have hlower : isSha256 (py.lower s) = true := by rw [hhex.lower s hs, hs]
  rw [readCorpusSha256, dif_pos hlower]
  exact congrArg some (Subtype.ext (hhex.lower s hs))

theorem readCount_int (n : ℕ) : readCount pd (.int n) = some n := by
  rw [readCount, pd.readInt_int, Option.bind_some, if_pos (Int.natCast_nonneg n), Int.toNat_natCast]

theorem readPositive_int (n : { n : ℕ // 1 ≤ n }) : readPositive pd (.int n) = some n := by
  have hpositive : 1 ≤ ((n : ℕ) : ℤ).toNat := by
    rw [Int.toNat_natCast]
    exact n.2
  rw [readPositive, pd.readInt_int, Option.bind_some, dif_pos hpositive]
  exact congrArg some (Subtype.ext (Int.toNat_natCast _))

theorem readSeconds_float (q : { q : ℚ // 0 ≤ q }) : readSeconds pd (.float q) = some q := by
  rw [readSeconds, pd.readFloat_float, Option.bind_some, dif_pos q.2]

theorem readTime_str (t : { s : String // pd.readDatetime (.str s) = some s }) :
    readTime pd (.str t) = some t := by
  obtain ⟨s, hs⟩ := t
  rw [readTime]
  split
  · rename_i hnone
    rw [hs] at hnone
    cases hnone
  · rename_i s' hsome
    rw [hs] at hsome
    exact congrArg some (Subtype.ext (Option.some.inj hsome).symm)

theorem readOpt_readSha256 (hhex : HexDigests py) {sha : Option String}
    (hsha : ∀ s ∈ sha, isSha256 s = true) : readOpt (readSha256 py) (.optStr sha) = some sha := by
  cases sha with
  | none => rfl
  | some s =>
    have hs : isSha256 s = true := hsha s rfl
    show (readSha256 py (.str s)).map some = _
    rw [readSha256, hhex.lower s hs, if_pos hs]
    rfl

/-- A document that has the values of a report, but for keys of version 2 at their defaults. -/
structure Has (d : Dict) (r : CalibrationReportV2 pd) : Prop where
  names : ∀ k ∈ Assoc.keys d, k ∈ fieldNames
  v1 : ∀ p ∈ r.payloadV1, Assoc.get? p.1 d = some p.2
  sha : Assoc.get? "report_sha256" d = some (.optStr r.reportSha256)
  v2 : (∀ p ∈ r.payload, Assoc.get? p.1 d = some p.2) ∨
    r.v2KeysAtDefault ∧ ∀ k ∈ v2ReportKeys, Assoc.get? k d = none

/-- Such a document is read as the report. -/
theorem validate_of_has (hhex : HexDigests py) (h : Has d r)
    (hsha : ∀ s ∈ r.reportSha256, isSha256 s = true) :
    CalibrationReportV2.validate py pd (.obj d) = some r := by
  have hnames : Dict.onlyKeys d fieldNames = true := by
    rw [Dict.onlyKeys, List.all_eq_true]
    exact fun k hk => decide_eq_true (h.names k hk)
  have hv1 := h.v1
  simp only [payloadV1, List.forall_mem_cons, List.not_mem_nil, false_imp_iff, implies_true,
    and_true] at hv1
  obtain ⟨hschema, hpolicy, hcorpus, hsample, htier, hpositive, hauto, hevaluated, hexpires⟩ := hv1
  have hv2 : d.fieldOr "observations_with_timing" 0 (readCount pd) = some r.observationsWithTiming ∧
      d.fieldOr "total_review_seconds" ⟨0, le_rfl⟩ (readSeconds pd) = some r.totalReviewSeconds ∧
      d.fieldOr "total_egress_bytes" 0 (readCount pd) = some r.totalEgressBytes := by
    rcases h.v2 with hfull | ⟨⟨htiming, hseconds, hbytes⟩, hnone⟩
    · have hget : ∀ p ∈ [("observations_with_timing", Json.int r.observationsWithTiming),
          ("total_review_seconds", .float r.totalReviewSeconds),
          ("total_egress_bytes", .int r.totalEgressBytes)], Assoc.get? p.1 d = some p.2 := by
        refine fun p hp => hfull p ?_
        have hsublist : [("observations_with_timing", Json.int r.observationsWithTiming),
            ("total_review_seconds", .float r.totalReviewSeconds),
            ("total_egress_bytes", .int r.totalEgressBytes)].Sublist (r.payload.drop 7) :=
          List.sublist_append_left _ _
        exact List.mem_of_mem_drop (hsublist.subset hp)
      simp only [List.forall_mem_cons, List.not_mem_nil, false_imp_iff, implies_true,
        and_true] at hget
      rw [Dict.fieldOr_of_get hget.1, Dict.fieldOr_of_get hget.2.1, Dict.fieldOr_of_get hget.2.2]
      exact ⟨readCount_int _, readSeconds_float _, readCount_int _⟩
    · simp only [v2ReportKeys, List.forall_mem_cons, List.not_mem_nil, false_imp_iff, implies_true,
        and_true] at hnone
      rw [Dict.fieldOr, Dict.fieldOr, Dict.fieldOr, hnone.1, hnone.2.1, hnone.2.2, htiming, hbytes]
      exact ⟨rfl, congrArg some (Subtype.ext hseconds.symm), rfl⟩
  obtain ⟨htiming, hseconds, hbytes⟩ := hv2
  rw [validate, readModel, if_pos hnames, Dict.fieldOr_of_get hschema, pd.readInt_int,
    Dict.fieldOr_of_get hpolicy, Dict.field_of_get hcorpus, Dict.field_of_get hsample,
    Dict.field_of_get htier, Dict.field_of_get hpositive, Dict.field_of_get hauto, htiming, hseconds,
    hbytes, Dict.field_of_get hevaluated, Dict.field_of_get hexpires, Dict.fieldOr_of_get h.sha,
    readStr_str, readCorpusSha256_str hhex, readPositive_int, readCount_int, readCount_int,
    readCount_int, readTime_str, readTime_str, readOpt_readSha256 hhex hsha]
  rfl

theorem get?_of_perm {l : Dict} (hl : (Assoc.keys l).Nodup) (h : d.Perm l) {p : String × Json}
    (hp : p ∈ l) : Assoc.get? p.1 d = some p.2 := by
  rw [← Assoc.get?_eq_of_perm hl h.symm p.1]
  exact Assoc.get?_of_mem hl hp

theorem has_of_perm (h : d.Perm (r.dump [])) : Has d r := by
  rw [dump, excluding_nil] at h
  have hkeys : Assoc.keys (r.payload ++ [("report_sha256", .optStr r.reportSha256)]) = fieldNames := rfl
  have hnodup : (Assoc.keys (r.payload ++ [("report_sha256", .optStr r.reportSha256)])).Nodup := by
    rw [hkeys]
    decide
  have hpayload : ∀ p ∈ r.payload, Assoc.get? p.1 d = some p.2 := fun p hp =>
    get?_of_perm hnodup h (List.mem_append_left _ hp)
  constructor
  · intro k hk
    rw [← hkeys]
    exact (h.map Prod.fst).mem_iff.mp hk
  · intro p hp
    rw [← excluding_v2ReportKeys] at hp
    exact hpayload p (List.mem_of_mem_filter hp)
  · exact get?_of_perm hnodup h (List.mem_append_right _ (List.mem_singleton_self _))
  · exact Or.inl hpayload

/-- The document of version 1. -/
theorem has_of_perm_v1 (hdefault : r.v2KeysAtDefault) (h : d.Perm (r.dump v2ReportKeys)) : Has d r := by
  rw [dump, excluding_v2ReportKeys] at h
  have hkeys : Assoc.keys (r.payloadV1 ++ [("report_sha256", .optStr r.reportSha256)]) =
      fieldNames.filter fun k => k ∉ v2ReportKeys := by
    simp [payloadV1, fieldNames, v2ReportKeys, Assoc.keys]
  have hnodup : (Assoc.keys (r.payloadV1 ++ [("report_sha256", .optStr r.reportSha256)])).Nodup := by
    rw [hkeys]
    decide
  have hmem : ∀ k ∈ Assoc.keys d, k ∈ fieldNames.filter fun k => k ∉ v2ReportKeys := fun k hk =>
    hkeys ▸ (h.map Prod.fst).mem_iff.mp hk
  constructor
  · exact fun k hk => List.mem_of_mem_filter (hmem k hk)
  · exact fun p hp => get?_of_perm hnodup h (List.mem_append_left _ hp)
  · exact get?_of_perm hnodup h (List.mem_append_right _ (List.mem_singleton_self _))
  · refine Or.inr ⟨hdefault, fun k hk => Assoc.get?_eq_none_iff.mpr fun hk' => ?_⟩
    have hnot := (List.mem_filter.mp (hmem k hk')).2
    exact of_decide_eq_true hnot hk

end CalibrationReportV2

/-! ### Files -/

open CalibrationReportV2 (Has)

variable {fs fs' : FileSystem} {path : List String} {bytes : List UInt8}

/-- A file in its place. -/
structure Stored (fs : FileSystem) (path : List String) (bytes : List UInt8) : Prop where
  noSymlink : ∀ p ∈ path.inits.tail, fs p ≠ .symlink
  file : fs path = .file bytes

theorem readReport_of_stored (hhex : HexDigests py) (hstored : Stored fs path bytes)
    (hsize : bytes.length ≤ maxReportBytes) (hloads : loads bytes = some (.obj d)) (h : Has d r)
    (hsha : ∀ s ∈ r.reportSha256, isSha256 s = true) : readReport py loads pd fs path = .ok r := by
  have hno : ¬ ∃ p ∈ path.inits.tail, fs p = .symlink := fun ⟨p, hp, hlink⟩ =>
    hstored.noSymlink p hp hlink
  rw [readReport, if_neg hno, hstored.file]
  simp only
  rw [if_neg (by omega), hloads, Option.bind_some, CalibrationReportV2.validate_of_has hhex h hsha]

theorem mem_tail_inits {p : List String} : p ∈ path.inits.tail ↔ p <+: path ∧ p ≠ [] := by
  cases path with
  | nil => simp
  | cons name rest =>
    rw [← List.mem_inits, List.inits_cons, List.tail_cons, List.mem_cons]
    constructor
    · intro hp
      obtain ⟨tail, -, rfl⟩ := List.mem_map.mp hp
      exact ⟨Or.inr hp, List.cons_ne_nil _ _⟩
    · rintro ⟨rfl | hp, hne⟩
      · exact absurd rfl hne
      · exact hp

/-- What is written is in its place. -/
theorem stored_of_write (h : writeCalibrationReport py fs r path = .ok fs') :
    Stored fs' path (reportBytes py r) := by
  rw [writeCalibrationReport] at h
  split at h
  · cases h
  split at h
  · cases h
  rw [replaceBytesBeneath] at h
  split at h
  · cases h
  rename_i hroot
  split at h
  · cases h
  rename_i hdirectory
  split at h
  · cases h
  have hfs : Function.update fs path (.file (reportBytes py r)) = fs' := Except.ok.inj h
  rw [← hfs]
  constructor
  · intro p hp
    by_cases heq : p = path
    · rw [heq, Function.update_self]
      exact Node.noConfusion
    · rw [Function.update_of_ne heq]
      obtain ⟨hinitial, -⟩ := mem_tail_inits.mp hp
      have hparent : p <+: path.dropLast := by
        obtain ⟨rest, rfl⟩ := hinitial
        have hrest : rest ≠ [] := fun hnil => heq (by rw [hnil, List.append_nil])
        rw [List.dropLast_append_of_ne_nil hrest]
        exact List.prefix_append _ _
      rw [not_not.mp hdirectory p ((List.mem_inits _ _).mpr hparent)]
      exact Node.noConfusion
  · exact Function.update_self ..

/-- In a directory that is reached without links, a sealed report can be written. -/
theorem write_ok {name : String} (hdirectory : isDirectory fs path)
    (hlink : fs (path ++ [name]) ≠ .symlink) (hfree : fs (path ++ [name]) ≠ .directory)
    (hr : r.verifySeal py = true) : ∃ fs', writeCalibrationReport py fs r (path ++ [name]) = .ok fs' := by
  have hparent : fs path = .directory := hdirectory path ((List.mem_inits _ _).mpr List.prefix_rfl)
  have hne : path ++ [name] ≠ path := by
    intro heq
    have hlength := congrArg List.length heq
    rw [List.length_append, List.length_singleton] at hlength
    omega
  rw [writeCalibrationReport, if_neg (not_not.mpr hr), List.dropLast_concat, replaceBytesBeneath,
    if_neg (not_or.mpr ⟨not_not.mpr hparent, hlink⟩), if_neg hne, if_neg (not_not.mpr hdirectory),
    if_neg hfree]
  exact ⟨_, rfl⟩

/-! ### The size of a file -/

theorem length_le_utf8 (cs : List Char) : cs.length ≤ (cs.flatMap String.utf8EncodeChar).length := by
  induction cs with
  | nil => exact Nat.zero_le _
  | cons c cs ih =>
    have hpos : 1 ≤ (String.utf8EncodeChar c).length := by
      rw [String.length_utf8EncodeChar]
      exact Char.utf8Size_pos c
    rw [List.flatMap_cons, List.length_append, List.length_cons]
    omega

theorem length_le_quoteChars (s : String) : s.length ≤ (quoteChars s).length := by
  have hescape : ∀ cs : List Char, cs.length ≤ (cs.flatMap escapeChar).length := by
    intro cs
    induction cs with
    | nil => exact Nat.zero_le _
    | cons c cs ih =>
      have hpos : escapeChar c ≠ [] := by
        have := escapeChar_escaped c
        generalize escapeChar c = u at this
        cases this <;> simp
      have hlength := List.length_pos_iff.mpr hpos
      rw [List.flatMap_cons, List.length_append, List.length_cons]
      omega
  have hs := hescape s.toList
  rw [quoteChars, List.length_cons, List.length_append, ← String.length_toList]
  omega

theorem length_le_intercalate {sep x : List Char} {xs : List (List Char)} (h : x ∈ xs) :
    x.length ≤ (sep.intercalate xs).length := by
  have hmem : x ∈ xs.intersperse sep := by
    induction xs with
    | nil => cases h
    | cons y ys ih => 
      cases ys with
      | nil => exact h
      | cons z zs => 
        rw [List.intersperse_cons_cons]
        rcases List.mem_cons.mp h with rfl | h
        · exact List.mem_cons_self
        · exact List.mem_cons_of_mem _ (List.mem_cons_of_mem _ (ih h))
  exact (List.sublist_flatten_of_mem hmem).length_le

/-- A file is at least as long as the policy that it names. -/
theorem length_le_reportBytes (r : CalibrationReportV2 pd) :
    r.policyVersion.length ≤ (reportBytes py r).length := by
  have hmem : ("policy_version", Json.str r.policyVersion) ∈ r.dump [] := by
    rw [CalibrationReportV2.dump, CalibrationReportV2.excluding_nil]
    exact List.mem_append_left _ (List.mem_cons_of_mem _ List.mem_cons_self)
  have hentry := @length_le_intercalate [',', '\n'] _ _
    (@List.mem_map_of_mem _ _ _ _ (indentedEntry py) ((List.mem_insertionSort Json.keyLe).mpr hmem))
  have hquote := length_le_quoteChars r.policyVersion
  have htext : (indentedEntry py ("policy_version", Json.str r.policyVersion)).length =
      (quoteChars "policy_version").length + ((quoteChars r.policyVersion).length + 1 + 1) + 1 + 1 := by
    rw [indentedEntry, List.length_cons, List.length_cons, List.length_append, List.length_cons,
      List.length_cons, dumpsChars]
  refine le_trans ?_ (length_le_utf8 _)
  rw [dumpsIndented, List.length_append, List.length_cons, List.length_cons, List.length_append]
  omega

/-! ### The gate -/

variable {gate : AutoApplyV2Settings} {current : Option ℤ}

/-- What a report has to meet at a time. -/
structure Meets (gate : AutoApplyV2Settings) (current : Option ℤ) (r : CalibrationReportV2 pd) :
    Prop where
  policy : r.policyVersion = "manifestation-v2"
  schema : r.schemaVersion = 1 ∨ r.schemaVersion = 2
  sample : gate.minSampleSize ≤ r.sampleSize
  tierA : gate.minTierADecisions ≤ r.tierADecisions
  noFalseAutoApply : r.falseAutoApplyCount = 0
  rate : ∃ q, trueDivide r.falsePositiveCount (max r.tierADecisions 1) = .ok (.finite q) ∧
    q ≤ gate.maxFalsePositiveRate
  window : ∃ evaluated expires now, pd.instant r.evaluatedAt = some evaluated ∧
    pd.instant r.expiresAt = some expires ∧ current = some now ∧ evaluated ≤ now ∧ now < expires ∧
      now - evaluated ≤ days gate.maxReportAgeDays

theorem round_cases (q : ℚ) : (∃ b, Double.round q = .infinite b) ∨ ∃ v, Double.round q = .finite v := by
  rw [Double.round]
  split
  · exact Or.inl ⟨_, rfl⟩
  · exact Or.inr ⟨_, rfl⟩

theorem trueDivide_finite {a b : ℕ} {x : Double} (h : trueDivide a b = .ok x) :
    ∃ q, x = .finite q := by
  rw [trueDivide] at h
  rcases round_cases ((a : ℚ) / b) with ⟨negative, hround⟩ | ⟨q, hround⟩
  · rw [hround] at h
    cases h
  · rw [hround] at h
    exact ⟨q, (Except.ok.inj h).symm⟩

theorem reason_eq_nil {p : Prop} [Decidable p] {s : String} :
    (if p then [s] else []) = [] ↔ ¬ p := by
  by_cases hp : p
  · simp [hp]
  · simp [hp]

theorem window_of_windowReasons (h : windowReasons gate current r = .ok []) :
    ∃ evaluated expires now, pd.instant r.evaluatedAt = some evaluated ∧
      pd.instant r.expiresAt = some expires ∧ current = some now ∧ evaluated ≤ now ∧ now < expires ∧
        now - evaluated ≤ days gate.maxReportAgeDays := by
  rcases hevaluated : pd.instant r.evaluatedAt with _ | evaluated <;>
    rcases hexpires : pd.instant r.expiresAt with _ | expires <;>
    rcases current with _ | now <;> simp only [windowReasons, hevaluated, hexpires] at h
  case some.some.some =>
    have hreasons := Except.ok.inj h
    rw [List.append_eq_nil_iff, List.append_eq_nil_iff, reason_eq_nil, reason_eq_nil,
      reason_eq_nil] at hreasons
    exact ⟨evaluated, expires, now, rfl, rfl, rfl, by omega, by omega, by omega⟩
  all_goals cases h

theorem meets_of_gateReasons (h : gateReasons gate current r = .ok []) : Meets gate current r := by
  obtain ⟨rate, hrate, h⟩ := Except.exists_of_bind_eq_ok h
  obtain ⟨window, hwindow, h⟩ := Except.exists_of_bind_eq_ok h
  have hreasons := Except.ok.inj h
  simp only [List.append_eq_nil_iff, reason_eq_nil] at hreasons
  obtain ⟨⟨⟨⟨⟨hpolicy, hsample⟩, htier⟩, hauto⟩, hmax⟩, rfl⟩ := hreasons
  obtain ⟨q, rfl⟩ := trueDivide_finite hrate
  obtain ⟨hpolicy, hschema⟩ := not_or.mp hpolicy
  constructor
  · exact not_not.mp hpolicy
  · have hversion : r.schemaVersion ∈ [1, 2] := not_not.mp hschema
    simpa using hversion
  · omega
  · omega
  · exact not_not.mp hauto
  · refine ⟨q, hrate, ?_⟩
    have hlt : ¬ gate.maxFalsePositiveRate < q := by simpa [Double.lt] using hmax
    exact not_lt.mp hlt
  · exact window_of_windowReasons hwindow

/-- A valid decision is about a report that verifies and meets every threshold. -/
theorem calibrationGate_valid {decision : CalibrationGateDecision}
    (h : calibrationGate py loads pd fs gate current = .ok decision) (hvalid : decision.valid = true) :
    ∃ path r, gate.enabled = true ∧ gate.calibrationReport = some path ∧
      readReport py loads pd fs path = .ok r ∧ r.verifySeal py = true ∧
        decision.reportSha256 = r.reportSha256 ∧ Meets gate current r := by
  rw [calibrationGate] at h
  split at h
  · rw [← Except.ok.inj h] at hvalid
    cases hvalid
  rename_i henabled
  split at h
  · rw [← Except.ok.inj h] at hvalid
    cases hvalid
  rename_i path hpath
  split at h
  · split at h
    · rw [← Except.ok.inj h] at hvalid
      cases hvalid
    · cases h
  rename_i r hread
  split at h
  · rw [← Except.ok.inj h] at hvalid
    cases hvalid
  rename_i hseal
  cases hreasons : gateReasons gate current r with
  | error e =>
    rw [hreasons] at h
    cases h
  | ok reasons =>
    rw [hreasons] at h
    have hdecision : (⟨reasons.isEmpty, r.reportSha256, reasons⟩ : CalibrationGateDecision) = decision :=
      Except.ok.inj h
    rw [← hdecision] at hvalid ⊢
    rw [List.isEmpty_iff.mp hvalid] at hreasons
    exact ⟨path, r, not_not.mp henabled, hpath, hread, not_not.mp hseal, rfl,
      meets_of_gateReasons hreasons⟩

/-! ### Stability -/

/-- What is written is read, up to a size. -/
theorem readReport_writeCalibrationReport (hhex : HexDigests py)
    (hloads : loads (reportBytes py (r.seal py)) =
      some (.obj (((r.seal py).dump []).insertionSort Json.keyLe)))
    (hwrite : writeCalibrationReport py fs (r.seal py) path = .ok fs')
    (hsize : (reportBytes py (r.seal py)).length ≤ maxReportBytes) :
    readReport py loads pd fs' path = .ok (r.seal py) := by
  refine readReport_of_stored hhex (stored_of_write hwrite) hsize hloads
    (CalibrationReportV2.has_of_perm (List.perm_insertionSort ..)) ?_
  rintro s ⟨⟩
  exact hhex.sha256 _

/-- A report of version 1 is read, with or without the keys of version 2, and verifies. -/
theorem readReport_legacy (hhex : HexDigests py) (hversion : r.schemaVersion = 1)
    (hdefault : r.v2KeysAtDefault)
    (hseal : r.reportSha256 = some (r.sealValue py CalibrationReportV2.v2ReportKeys))
    (hd : d.Perm (r.dump CalibrationReportV2.v2ReportKeys) ∨ d.Perm (r.dump []))
    (hstored : Stored fs path bytes) (hsize : bytes.length ≤ maxReportBytes)
    (hloads : loads bytes = some (.obj d)) :
    readReport py loads pd fs path = .ok r ∧ r.verifySeal py = true := by
  have hhas : Has d r := hd.elim (CalibrationReportV2.has_of_perm_v1 hdefault)
    CalibrationReportV2.has_of_perm
  refine ⟨readReport_of_stored hhex hstored hsize hloads hhas ?_, ?_⟩
  · rw [hseal]
    rintro s ⟨⟩
    exact hhex.sha256 _
  · refine CalibrationReportV2.verifySeal_eq_true_iff.mpr (Or.inr ⟨⟨hversion, hdefault⟩, ?_⟩)
    rw [hseal, CalibrationReportV2.sealValue, CalibrationReportV2.excluding_v2ReportKeys]

/-- **Calibration reports.** A sealed report of at most `maxReportBytes` is read as it was written,
reports of version 1 still verify, a seal determines the report, and a valid decision is about a
report that verifies and meets every threshold. -/
theorem calibration_seals (pd : ReportPydantic) (py : Runtime) (loads : List UInt8 → Option Json)
    (hpy : FloatText py) (hhex : HexDigests py) :
    (∀ (fs fs' : FileSystem) (path : List String) (r : CalibrationReportV2 pd),
      loads (reportBytes py (r.seal py)) =
        some (.obj (((r.seal py).dump []).insertionSort Json.keyLe)) →
      writeCalibrationReport py fs (r.seal py) path = .ok fs' →
      (reportBytes py (r.seal py)).length ≤ maxReportBytes →
        readReport py loads pd fs' path = .ok (r.seal py) ∧ (r.seal py).verifySeal py = true) ∧
    (∀ (fs : FileSystem) (path : List String) (bytes : List UInt8) (d : Dict)
      (r : CalibrationReportV2 pd), r.schemaVersion = 1 → r.v2KeysAtDefault →
      r.reportSha256 = some (r.sealValue py CalibrationReportV2.v2ReportKeys) →
      d.Perm (r.dump CalibrationReportV2.v2ReportKeys) ∨ d.Perm (r.dump []) →
      Stored fs path bytes → bytes.length ≤ maxReportBytes → loads bytes = some (.obj d) →
        readReport py loads pd fs path = .ok r ∧ r.verifySeal py = true) ∧
    (∀ r r' : CalibrationReportV2 pd,
      (∀ t ∈ r.sealedTexts py, ∀ t' ∈ r'.sealedTexts py, py.sha256 t = py.sha256 t' → t = t') →
      r.verifySeal py = true → r'.verifySeal py = true → r.reportSha256 = r'.reportSha256 → r = r') ∧
    ∀ (fs : FileSystem) (gate : AutoApplyV2Settings) (current : Option ℤ)
      (decision : CalibrationGateDecision), calibrationGate py loads pd fs gate current = .ok decision →
      decision.valid = true →
        ∃ path r, gate.enabled = true ∧ gate.calibrationReport = some path ∧
          readReport py loads pd fs path = .ok r ∧ r.verifySeal py = true ∧
            decision.reportSha256 = r.reportSha256 ∧ Meets gate current r :=
  ⟨fun _ _ _ r hloads hwrite hsize =>
      ⟨readReport_writeCalibrationReport hhex hloads hwrite hsize, r.verifySeal_seal⟩,
    fun _ _ _ _ _ hversion hdefault hseal hd hstored hsize hloads =>
      readReport_legacy hhex hversion hdefault hseal hd hstored hsize hloads,
    fun _ _ hcollision hr hr' hsha =>
      CalibrationReportV2.eq_of_verifySeal hpy hcollision hr hr' hsha,
    fun _ _ _ _ h hvalid => calibrationGate_valid h hvalid⟩

/-! ### One report -/

/-- Python's runtime on ASCII text, with one digest of the right form. -/
def hexRuntime : Runtime :=
  { Runtime.ascii with sha256 := fun _ => String.ofList (List.replicate 64 '0') }

/-- A reading of reports without coercions, at two times. -/
def ReportPydantic.strict : ReportPydantic where
  toPydantic := Pydantic.strict
  readFloat
    | .float q => some q
    | _ => none
  instant s := if s = "2026-01-01T00:00:00Z" then some 0
    else if s = "2026-01-31T00:00:00Z" then some 2592000000000 else none
  readFloat_float _ := rfl
  readDatetime_dumped _ := rfl

theorem floatText_hexRuntime : FloatText hexRuntime :=
  ⟨floatText_ascii.lead, floatText_ascii.token, floatText_ascii.injective, floatText_ascii.notInt⟩

theorem hexDigests_hexRuntime : HexDigests hexRuntime where
  lower s hs := by
    rw [isSha256, Bool.and_eq_true, List.all_eq_true] at hs
    have hlower : ∀ c ∈ s.toList, c.toLower = c := by
      intro c hc
      have hhex := hs.2 c hc
      have hnotUpper : ¬ (c.val ≥ 'A'.val ∧ c.val ≤ 'Z'.val) := by
        intro hupper
        simp only [Char.isDigit, Bool.or_eq_true, Bool.and_eq_true, decide_eq_true_eq, ge_iff_le,
          Char.le_def, UInt32.le_iff_toNat_le, Char.reduceVal, UInt32.reduceToNat] at hhex hupper
        omega
      delta Char.toLower
      rw [dif_neg hnotUpper]
    show String.ofList (s.toList.map Char.toLower) = s
    rw [List.map_congr_left hlower, List.map_id', String.ofList_toList]
  sha256 _ := by
    show isSha256 (String.ofList (List.replicate 64 '0')) = true
    decide

/-- A report under some policy. -/
def exampleReport (schemaVersion : ℤ) (policyVersion : String) :
    CalibrationReportV2 ReportPydantic.strict where
  schemaVersion := schemaVersion
  policyVersion := policyVersion
  corpusSha256 := ⟨String.ofList (List.replicate 64 'a'), by decide⟩
  sampleSize := ⟨200, by decide⟩
  tierADecisions := 120
  falsePositiveCount := 0
  falseAutoApplyCount := 0
  observationsWithTiming := 0
  totalReviewSeconds := ⟨0, le_rfl⟩
  totalEgressBytes := 0
  evaluatedAt := ⟨"2026-01-01T00:00:00Z", rfl⟩
  expiresAt := ⟨"2026-01-31T00:00:00Z", rfl⟩
  reportSha256 := none

/-- The report of a policy, and the only file. -/
def exampleSealed (policyVersion : String) : CalibrationReportV2 ReportPydantic.strict :=
  (exampleReport 2 policyVersion).seal hexRuntime

/-- `json.loads`, on the file of a report. -/
def exampleLoads (r : CalibrationReportV2 ReportPydantic.strict) (_ : List UInt8) : Option Json :=
  some (.obj ((r.dump []).insertionSort Json.keyLe))

/-- An empty root directory. -/
def emptyRoot : FileSystem := fun path => if path = [] then .directory else .absent

theorem exists_write (policyVersion : String) :
    ∃ fs', writeCalibrationReport hexRuntime emptyRoot (exampleSealed policyVersion)
      ["report.json"] = .ok fs' := by
  have hroot : isDirectory emptyRoot [] := by decide
  have hfree : emptyRoot ["report.json"] = .absent := by decide
  refine @write_ok _ hexRuntime (exampleSealed policyVersion) emptyRoot [] "report.json" hroot ?_ ?_
    (exampleReport 2 policyVersion).verifySeal_seal
  · show emptyRoot ["report.json"] ≠ .symlink
    rw [hfree]
    exact Node.noConfusion
  · show emptyRoot ["report.json"] ≠ .directory
    rw [hfree]
    exact Node.noConfusion

/-- Thresholds. -/
def exampleSettings : AutoApplyV2Settings where
  enabled := true
  calibrationReport := some ["report.json"]
  minSampleSize := 100
  minTierADecisions := 50
  maxFalsePositiveRate := 0
  maxReportAgeDays := 30

theorem round_zero : Double.round 0 = .finite 0 := by
  have hhalf : Double.roundHalfEven 0 = 0 := by
    simp [Double.roundHalfEven]
  simp [Double.round, hhalf]

theorem gateReasons_exampleReport :
    gateReasons exampleSettings (some 86400000000) (exampleSealed "manifestation-v2") = .ok [] := by
  have hrate : trueDivide 0 (max 120 1) = .ok (.finite 0) := by
    rw [trueDivide, Nat.cast_zero, zero_div, round_zero]
    rfl
  have hwindow : windowReasons exampleSettings (some 86400000000)
      (exampleSealed "manifestation-v2") = .ok [] := by decide
  have hreasons : ∀ {rate : Except PyError Double} {window : Except PyError (List String)},
      rate = .ok (.finite 0) → window = .ok [] → (do
        let rate ← rate
        let window ← window
        return (if Double.lt (.finite 0) rate then
          ["calibration false-positive rate exceeds the configured maximum"] else []) ++ window) =
          (.ok [] : Except PyError (List String)) := by
    rintro _ _ rfl rfl
    exact congrArg Except.ok (by simp [Double.lt])
  exact hreasons hrate hwindow


theorem calibrationGate_exampleReport {fs : FileSystem} {loads : List UInt8 → Option Json}
    (hread : readReport hexRuntime loads .strict fs ["report.json"] =
      .ok (exampleSealed "manifestation-v2")) :
    calibrationGate hexRuntime loads .strict fs exampleSettings (some 86400000000) =
      .ok ⟨true, (exampleSealed "manifestation-v2").reportSha256, []⟩ := by
  have hverify : (exampleSealed "manifestation-v2").verifySeal hexRuntime = true :=
    (exampleReport 2 "manifestation-v2").verifySeal_seal
  have henabled : exampleSettings.enabled = true := rfl
  have hpath : exampleSettings.calibrationReport = some ["report.json"] := rfl
  rw [calibrationGate, if_neg (not_not.mpr henabled), hpath]
  simp only
  rw [hread]
  simp only
  rw [if_neg (not_not.mpr hverify), gateReasons_exampleReport]
  rfl

theorem calibration_seals_exampleReport :
    ∃ fs', writeCalibrationReport hexRuntime emptyRoot (exampleSealed "manifestation-v2")
        ["report.json"] = .ok fs' ∧
      readReport hexRuntime (exampleLoads (exampleSealed "manifestation-v2")) .strict fs'
        ["report.json"] = .ok (exampleSealed "manifestation-v2") ∧
      ∃ r, r.verifySeal hexRuntime = true ∧ @Meets .strict exampleSettings (some 86400000000) r := by
  obtain ⟨hreads, -, -, hgate⟩ := calibration_seals .strict hexRuntime
    (exampleLoads (exampleSealed "manifestation-v2")) floatText_hexRuntime hexDigests_hexRuntime
  obtain ⟨fs', hwrite⟩ := exists_write "manifestation-v2"
  have hsize : (reportBytes hexRuntime (exampleSealed "manifestation-v2")).length ≤ maxReportBytes := by
    decide +kernel
  have hread := (hreads emptyRoot fs' ["report.json"] (exampleReport 2 "manifestation-v2") rfl hwrite
    hsize).1
  obtain ⟨-, r, -, -, -, hverify, -, hmeets⟩ := hgate fs' exampleSettings (some 86400000000) _
    (calibrationGate_exampleReport hread) rfl
  exact ⟨fs', hwrite, hread, r, hverify, hmeets⟩

/-- A report with a long policy is written and not read. -/
theorem large_report_refused :
    ¬ ∀ (loads : List UInt8 → Option Json) (fs fs' : FileSystem) (path : List String)
      (r : CalibrationReportV2 ReportPydantic.strict),
      loads (reportBytes hexRuntime (r.seal hexRuntime)) =
        some (.obj (((r.seal hexRuntime).dump []).insertionSort Json.keyLe)) →
      writeCalibrationReport hexRuntime fs (r.seal hexRuntime) path = .ok fs' →
        readReport hexRuntime loads .strict fs' path = .ok (r.seal hexRuntime) := by
  intro h
  have hlength : (String.ofList (List.replicate (maxReportBytes + 1) 'a')).length =
      maxReportBytes + 1 := by
    rw [← String.length_toList, String.toList_ofList, List.length_replicate]
  generalize String.ofList (List.replicate (maxReportBytes + 1) 'a') = policy at hlength
  obtain ⟨fs', hwrite⟩ := exists_write policy
  have hread := h (exampleLoads (exampleSealed policy)) emptyRoot fs' ["report.json"]
    (exampleReport 2 policy) rfl hwrite
  have hstored := stored_of_write hwrite
  have hbytes := @length_le_reportBytes _ hexRuntime (exampleSealed policy)
  have hpolicy : (exampleSealed policy).policyVersion = policy := rfl
  rw [hpolicy, hlength] at hbytes
  have hno : ¬ ∃ p ∈ ["report.json"].inits.tail, fs' p = .symlink := fun ⟨p, hp, hlink⟩ =>
    hstored.noSymlink p hp hlink
  rw [readReport, if_neg hno, hstored.file] at hread
  simp only at hread
  rw [if_pos (by omega)] at hread
  cases hread

end Bookwarden.Calibration
