import Bookwarden.Identity.Evidence

/-!
# Resolving a manifestation

`resolve_manifestation` of `identity_v2.py`. The function is a chain of early returns, each giving
a Tier B or Tier C resolution without a patch, followed by the field decisions of a Tier A
resolution. `passGates` is the chain: it either refuses with the tier, flag and reason of the return
that was taken, or yields the manifestation identifier the book is admitted under.

## Main definitions

* `valueKey` — the comparison key of a value for a field
* `passGates`, `Refusal` — the chain of early returns
* `decideField`, `resolveFields` — the field decisions and the patch
* `resolveManifestation`

## Main results

* `passGates_eq_ok_iff` — what admission means, as the conjunction `Admitted`
* `admitted_of_tierA`, `tierA_of_admitted` — Tier A is admission with a patch that validates
-/

namespace Bookwarden

variable (py : Runtime)

/-! ### Comparison keys -/

/-- `re.findall(r"\w+", …)`: the maximal runs of word characters. -/
def findWords (cs : List Char) : List (List Char) :=
  (cs.splitOnP fun c => !py.isWord c).filter fun w => w ≠ []

/-- `_text_key`. -/
def textKey (value : String) : String :=
  " ".intercalate ((findWords py (py.casefold (py.nfkc value)).toList).map String.ofList)

/-- The author key of a list of values. -/
def authorsKey (authors : List Json) : String :=
  let present := (authors.map (·.toStr py)).filter fun a => strip a ≠ ""
  dumps py (.strs (sorted (present.map (textKey py))))

/-- The language key of a list of values. -/
def languagesKey (languages : List Json) : String :=
  let present := (languages.map (·.toStr py)).filter fun l => strip l ≠ ""
  dumps py (.strs (sorted (present.map fun l => py.lower (strip l))))

/-- `_value_key`. -/
def valueKey (field : String) (value : Json) : String :=
  match value with
  | .str s =>
    if field ∈ ["title", "publisher", "series", "edition_statement"] then textKey py s
    else if field = "authors" then authorsKey py ((split '&' s).map .str)
    else if field = "languages" then languagesKey py ((split ',' (replaceChar ';' ',' s)).map .str)
    else dumps py value
  | .arr xs =>
    if field = "authors" then authorsKey py xs
    else if field = "languages" then languagesKey py xs
    else dumps py value
  | .obj kvs =>
    if field = "identifiers" then
      dumps py (.strDict (normalizeIdentifiers py (strItems py kvs)))
    else dumps py value
  | _ => dumps py value

/-! ### The gates -/

/-- The fields compared across formats and with an external record. -/
def coreFields : List String := ["title", "authors", "languages"]

/-- `_core_value_present`. -/
def coreValuePresent (field : String) (value : Json) : Bool :=
  match value with
  | .str s => field = "title" && strip s ≠ ""
  | .arr xs => field ≠ "title" && !xs.isEmpty
  | _ => false

/-- The comparison keys of the formats that have the field. -/
def coreKeys (field : String) (formats : List FormatEvidence) : List String :=
  ((formats.map (·.core field)).filter (coreValuePresent field)).map (valueKey py field)

/-- `_formats_have_core_conflict`. -/
def formatsHaveCoreConflict (formats : List FormatEvidence) : Bool :=
  coreFields.any fun field => 1 < (distinct (coreKeys py field formats)).length

/-- `_formats_have_complete_core`. -/
def formatsHaveCompleteCore (formats : List FormatEvidence) : Bool :=
  formats.all fun f => coreFields.all fun field => coreValuePresent field (f.core field)

/-- `expected`: the core key of the first format. -/
def expectedCore (formats : List FormatEvidence) (field : String) : String :=
  valueKey py field ((formats.head?.map (·.core field)).getD .null)

/-- Authoritative evidence of an external promotion kind. -/
def SourceEvidence.isExternal (item : SourceEvidence) : Bool :=
  item.authoritative && decide (item.sourceKind ∈ externalPromotionKinds)

/-- `item.manifestation_ids.get(namespace) == identifier`. -/
def SourceEvidence.bound (item : SourceEvidence) (target : String × String) : Bool :=
  Assoc.get? target.1 item.manifestationIds = some target.2

/-- An external identifier statement for exactly this manifestation. -/
def SourceEvidence.confirmsExternally (target : String × String) (item : SourceEvidence) : Bool :=
  item.isExternal && item.bound target && item.field = "identifiers"

/-- An internal, edition-bearing identifier statement for exactly this manifestation. -/
def SourceEvidence.confirmsInternally (target : String × String) (item : SourceEvidence) : Bool :=
  item.field = "identifiers" && item.authoritative
    && decide (item.sourceKind ∈ internalIdentityKinds) && item.bound target
    && match item.value with
      | .obj kvs =>
        Assoc.get? target.1 (normalizeIdentifiers py (strItems py kvs)) = some target.2
      | _ => false

/-- `roots`: the effective roots of the external records for exactly this manifestation. -/
def exactRoots (evidence : List SourceEvidence) (target : String × String) : List String :=
  distinct ((evidence.filter (·.confirmsExternally target)).map (·.effectiveRoot))

/-- The items `_external_core_matches` reads for one root. -/
def SourceEvidence.speaksFor (root : String) (item : SourceEvidence) : Bool :=
  item.effectiveRoot = root && decide (item.field ∈ coreFields) && item.authoritative

/-- `fields`: the core keys of one root, where a later item replaces an earlier one. -/
def rootCore (evidence : List SourceEvidence) (root : String) : List (String × String) :=
  Assoc.update [] ((evidence.filter (·.speaksFor root)).map fun i =>
    (i.field, valueKey py i.field i.value))

/-- `fields == expected`. The keys of `fields` are core fields, so the dictionaries are equal when
they agree on these. -/
def rootMatches (formats : List FormatEvidence) (evidence : List SourceEvidence) (root : String) :
    Bool :=
  coreFields.all fun field =>
    Assoc.get? field (rootCore py evidence root) = some (expectedCore py formats field)

/-- `_external_core_matches`. -/
def externalCoreMatches (formats : List FormatEvidence) (evidence : List SourceEvidence)
    (target : String × String) : Bool :=
  (exactRoots evidence target).any (rootMatches py formats evidence)

/-- The items `_external_core_conflicts` finds in conflict. -/
def SourceEvidence.conflictsWith (formats : List FormatEvidence) (roots : List String)
    (item : SourceEvidence) : Bool :=
  item.isExternal && decide (item.effectiveRoot ∈ roots) && decide (item.field ∈ coreFields)
    && valueKey py item.field item.value ≠ expectedCore py formats item.field

/-- `_external_core_conflicts`. -/
def externalCoreConflicts (formats : List FormatEvidence) (evidence : List SourceEvidence)
    (target : String × String) : Bool :=
  evidence.any (·.conflictsWith py formats (exactRoots evidence target))

/-- `format_ids`: the checksum-valid ISBN pairs over all formats. -/
def formatIds (formats : List FormatEvidence) : List (String × String) :=
  (formats.flatMap fun f =>
    f.identifiers.filter fun p => p.1 = "isbn" && (validateIsbn p.2).isSome).dedup

/-- An early return of `resolve_manifestation`. -/
structure Refusal where
  tier : IdentityTier
  manifestationIds : Identifiers
  riskFlag : String
  reason : String
  deriving DecidableEq, Repr

/-- `readable`. -/
def readableFormats (formats : List FormatEvidence) : List FormatEvidence :=
  formats.filter fun f => f.status = .readable

/-- The early returns of `resolve_manifestation`, in order. -/
def passGates (formats : List FormatEvidence) (evidence : List SourceEvidence) :
    Except Refusal (String × String) :=
  let readable := readableFormats formats
  let ids := formatIds readable
  if 1 < ids.length then
    .error ⟨.tierC, [], "format_manifestation_conflict",
      "readable formats identify different manifestations"⟩
  else if readable.length ≠ formats.length then
    .error ⟨.tierB, ids, "incomplete_format_evidence",
      "at least one format is unsupported, protected, corrupt, or unreadable"⟩
  else match ids with
    | [] => .error ⟨.tierB, [], "missing_manifestation_identifier",
        "no valid manifestation identifier was found in edition-bearing content"⟩
    | target :: _ =>
      if !evidence.any (·.confirmsInternally py target) then
        .error ⟨.tierB, [target], "missing_internal_manifestation_confirmation",
          "the identifier is not anchored to internal edition-bearing evidence"⟩
      else if !evidence.any (·.confirmsExternally target) then
        .error ⟨.tierB, [target], "missing_external_manifestation_confirmation",
          "no structured external root confirms the internal manifestation identifier"⟩
      else if formatsHaveCoreConflict py readable then
        .error ⟨.tierC, [target], "format_expression_conflict",
          "readable formats disagree on title, authors, or language"⟩
      else if !formatsHaveCompleteCore readable then
        .error ⟨.tierB, [target], "incomplete_internal_core_evidence",
          "title, authors, or language are missing from at least one readable format"⟩
      else if externalCoreConflicts py readable evidence target then
        .error ⟨.tierC, [target], "external_expression_conflict",
          "an exact-identifier external root conflicts on title, authors, or language"⟩
      else if !externalCoreMatches py readable evidence target then
        .error ⟨.tierB, [target], "missing_external_core_confirmation",
          "no single structured root confirms identifier, title, authors, and language"⟩
      else .ok target

/-! ### Field decisions -/

/-- `sorted({item.field for item in evidence if item.field in ALLOWED_PATCH_FIELDS})`. -/
def evidenceFields (evidence : List SourceEvidence) : List String :=
  sorted (distinct ((evidence.filter fun i => decide (i.field ∈ allowedPatchFields)).map (·.field)))

/-- `_non_authoritative_resolution`. -/
def nonAuthoritativeResolution (refusal : Refusal) (evidence : List SourceEvidence)
    (current : Dict) : ManifestationResolution :=
  let status := if refusal.tier = .tierC then .blocked else .review
  { tier := refusal.tier
    manifestationIds := refusal.manifestationIds
    fieldDecisions := (evidenceFields evidence).map fun field =>
      (field, { field, currentValue := current.get field, status,
                evidenceIds := (evidence.filter (·.field = field)).map (·.evidenceId),
                reasons := [refusal.reason] })
    riskFlags := [refusal.riskFlag]
    reasons := [refusal.reason] }

/-- Evidence of a kind that may promote a decision. -/
def SourceEvidence.promotes (item : SourceEvidence) : Bool :=
  decide (item.sourceKind ∈ internalPromotionKinds ++ externalPromotionKinds)

/-- The membership test of `eligible`. -/
def SourceEvidence.eligibleFor (target : String × String) (field : String)
    (item : SourceEvidence) : Bool :=
  item.field = field && item.authoritative && item.promotes && item.bound target

/-- `target_value`: for identifiers, the observed namespaces over the current ones. -/
def targetValue (current : Dict) (field : String) (resolved : Json) : Json :=
  match resolved with
  | .obj kvs =>
    if field = "identifiers" then
      let currentIdentifiers := match current.get field with
        | .obj cur => normalizeIdentifiers py (strItems py cur)
        | _ => []
      .strDict (Assoc.update currentIdentifiers (normalizeIdentifiers py (strItems py kvs)))
    else resolved
  | _ => resolved

/-- The body of the loop of `_resolve_fields`: the decision, and the patched value if any. When
there is one comparison key, `supporting` is all of `eligible`. -/
def decideField (evidence : List SourceEvidence) (current : Dict) (target : String × String)
    (field : String) : FieldDecision × Option Json :=
  let eligible := evidence.filter (·.eligibleFor target field)
  let keys := distinct (eligible.map fun i => valueKey py field i.value)
  if keys.length ≠ 1 then
    ({ field, currentValue := current.get field, status := .review,
       evidenceIds := eligible.map (·.evidenceId),
       rootIds := sorted (distinct (eligible.map (·.rootId))),
       reasons := ["independent evidence is missing or conflicting"] }, none)
  else
    let roots := distinct (eligible.map (·.effectiveRoot))
    let hasPreferredRoot :=
      eligible.any fun i => decide (i.sourceKind ∈ internalPromotionKinds ++ officialKinds)
    let resolved := (eligible.head?.map (·.value)).getD .null
    let value := targetValue py current field resolved
    let decision (status : FieldDecisionStatus) (reason : String) : FieldDecision :=
      { field, currentValue := current.get field, resolvedValue := value, status,
        evidenceIds := eligible.map (·.evidenceId), rootIds := sorted roots, reasons := [reason] }
    if roots.length < 2 || !hasPreferredRoot then
      (decision .review "field lacks two independent roots including internal or official evidence",
        none)
    else if valueKey py field (current.get field) = valueKey py field value then
      (decision .unchanged "current Calibre value matches the evidence consensus", none)
    else
      (decision .auto "two independent roots support the exact manifestation value", some value)

/-- `patch` before validation: the automatic decisions, in field order. -/
def rawPatch (evidence : List SourceEvidence) (current : Dict) (target : String × String) : Dict :=
  (evidenceFields evidence).filterMap fun field =>
    (decideField py evidence current target field).2.map (field, ·)

/-- `_resolve_fields`; `none` is the `ValidationError` of `CanonicalPatch.model_validate`. -/
def resolveFields (evidence : List SourceEvidence) (current : Dict) (target : String × String) :
    Option (List (String × FieldDecision) × Dict) := do
  let decisions := (evidenceFields evidence).map fun field =>
    (field, (decideField py evidence current target field).1)
  let patch ← CanonicalPatch.validate py (rawPatch py evidence current target)
  some (decisions, patch.dump)

/-- `resolve_manifestation`; `none` is a `ValidationError`. -/
def resolveManifestation (formats : List FormatEvidence) (evidence : List SourceEvidence)
    (current : Dict) : Option ManifestationResolution :=
  match passGates py formats evidence with
  | .error refusal => some (nonAuthoritativeResolution refusal evidence current)
  | .ok target => do
    let (fieldDecisions, autoPatch) ← resolveFields py evidence current target
    some { tier := .tierA, manifestationIds := [target], fieldDecisions, autoPatch
           reasons :=
             ["internal content and a structured external root identify the same manifestation"] }

/-! ### What admission means -/

/-- Every gate before the last, the comparison with one external root, is passed. -/
structure Comparable (formats : List FormatEvidence) (evidence : List SourceEvidence)
    (target : String × String) : Prop where
  /-- Every format is readable. -/
  readable : ∀ f ∈ formats, f.status = .readable
  /-- The formats together carry exactly one valid ISBN pair. -/
  ids : formatIds formats = [target]
  /-- Edition-bearing content of the book states the identifier. -/
  internal : evidence.any (·.confirmsInternally py target) = true
  /-- A structured external source states the identifier. -/
  external : evidence.any (·.confirmsExternally target) = true
  /-- The formats that have a core field agree on it. -/
  agree : formatsHaveCoreConflict py formats = false
  /-- Every format has every core field. -/
  complete : formatsHaveCompleteCore formats = true
  /-- No exact external root contradicts the core. -/
  noConflict : externalCoreConflicts py formats evidence target = false

/-- The gates of Tier A, all passed. -/
structure Admitted (formats : List FormatEvidence) (evidence : List SourceEvidence)
    (target : String × String) : Prop extends Comparable py formats evidence target where
  /-- Some exact external root has the whole core. -/
  coreMatch : externalCoreMatches py formats evidence target = true

variable {py}

theorem readableFormats_length {formats : List FormatEvidence} :
    (readableFormats formats).length = formats.length ↔ ∀ f ∈ formats, f.status = .readable := by
  rw [readableFormats, List.length_filter_eq_length_iff]
  simp

theorem readableFormats_eq {formats : List FormatEvidence}
    (h : ∀ f ∈ formats, f.status = .readable) : readableFormats formats = formats := by
  rw [readableFormats, List.filter_eq_self]
  simpa using h

/-- No early return refuses with Tier A. -/
theorem passGates_refusal_tier {formats : List FormatEvidence} {evidence : List SourceEvidence}
    {refusal : Refusal} (h : passGates py formats evidence = .error refusal) :
    refusal.tier ≠ .tierA := by
  simp only [passGates] at h
  -- one case for each early return
  repeat' split at h
  all_goals first
    | (cases h; simp)
    | cases h

theorem passGates_eq_ok_iff {formats : List FormatEvidence} {evidence : List SourceEvidence}
    {target : String × String} :
    passGates py formats evidence = .ok target ↔ Admitted py formats evidence target := by
  constructor
  · intro h
    simp only [passGates] at h
    split at h
    · cases h
    rename_i hone
    split at h
    · cases h
    rename_i hread
    have hall : ∀ f ∈ formats, f.status = .readable :=
      readableFormats_length.mp (Decidable.not_not.mp hread)
    simp only [readableFormats_eq hall] at h hone
    split at h
    · cases h
    rename_i t rest hids
    have hrest : rest = [] := by
      rw [hids] at hone
      simp only [List.length_cons] at hone
      exact List.length_eq_zero_iff.mp (by omega)
    split at h
    · cases h
    rename_i hint
    split at h
    · cases h
    rename_i hext
    split at h
    · cases h
    rename_i hagree
    split at h
    · cases h
    rename_i hcomplete
    split at h
    · cases h
    rename_i hconf
    split at h
    · cases h
    rename_i hmatch
    cases h
    exact ⟨⟨hall, by rw [hids, hrest], by simpa using hint, by simpa using hext,
      by simpa using hagree, by simpa using hcomplete, by simpa using hconf⟩, by simpa using hmatch⟩
  · intro h
    simp only [passGates, readableFormats_eq h.readable, h.ids]
    simp [h.internal, h.external, h.agree, h.complete, h.noConflict, h.coreMatch]

/-- A Tier A resolution comes from an admission with a patch that validates. -/
theorem admitted_of_tierA {formats : List FormatEvidence} {evidence : List SourceEvidence}
    {current : Dict} {r : ManifestationResolution}
    (hr : resolveManifestation py formats evidence current = some r) (htier : r.tier = .tierA) :
    ∃ target patch, Admitted py formats evidence target ∧
      CanonicalPatch.validate py (rawPatch py evidence current target) = some patch ∧
      r.manifestationIds = [target] ∧ r.autoPatch = patch.dump := by
  rw [resolveManifestation] at hr
  split at hr
  · rename_i refusal hgates
    cases hr
    exact absurd htier (passGates_refusal_tier hgates)
  · rename_i target hgates
    cases hv : CanonicalPatch.validate py (rawPatch py evidence current target) with
    | none => simp [resolveFields, hv] at hr
    | some patch =>
      simp only [resolveFields, hv] at hr
      cases hr
      exact ⟨target, patch, passGates_eq_ok_iff.mp hgates, hv, rfl, rfl⟩

/-- And an admission with a patch that validates resolves to Tier A. -/
theorem tierA_of_admitted {formats : List FormatEvidence} {evidence : List SourceEvidence}
    {current : Dict} {target : String × String} {patch : CanonicalPatch}
    (hadm : Admitted py formats evidence target)
    (hv : CanonicalPatch.validate py (rawPatch py evidence current target) = some patch) :
    ∃ r, resolveManifestation py formats evidence current = some r ∧ r.tier = .tierA ∧
      r.manifestationIds = [target] := by
  rw [resolveManifestation, passGates_eq_ok_iff.mpr hadm]
  simp only [resolveFields, hv]
  exact ⟨_, rfl, rfl, rfl⟩

/-! ### A book that reaches Tier A

Two readable formats, edition-bearing content, and one provider record that states the ISBN, the
title, the authors and the language. -/

/-- A readable format of the example book. -/
def exampleFormat (format : String) : FormatEvidence where
  path := "/library/" ++ format
  format := format
  sha256 := "aaaaaaaaaaaaaaaaaaaaaaaaaaaaaaaaaaaaaaaaaaaaaaaaaaaaaaaaaaaaaaaa"
  status := .readable
  identifiers := [("isbn", "9780306406157")]
  title := some "The Example Book"
  authors := ["Ada Author"]
  languages := ["eng"]

/-- An authoritative statement about the example book. -/
def exampleItem (kind : EvidenceSourceKind) (root field : String) (value : Json) :
    SourceEvidence where
  evidenceId := root ++ field
  rootId := root
  sourceKind := kind
  field := field
  value := value
  manifestationIds := [("isbn", "9780306406157")]
  authoritative := true

/-- The ISBN of the example book, as an identifier map. -/
def exampleIsbn : Json := .strDict [("isbn", "9780306406157")]

/-- What the content of the example book states. -/
def exampleContent : List SourceEvidence :=
  [exampleItem .contentNative "content" "identifiers" exampleIsbn,
    exampleItem .contentNative "content" "title" (.str "The Example Book")]

/-- A provider record that states every core field. -/
def exampleRecord (root : String) : List SourceEvidence :=
  [exampleItem .providerStructured root "identifiers" exampleIsbn,
    exampleItem .providerStructured root "title" (.str "The Example Book"),
    exampleItem .providerStructured root "authors" (.strs ["Ada Author"]),
    exampleItem .providerStructured root "languages" (.strs ["eng"])]

example : (resolveManifestation .ascii [exampleFormat "EPUB", exampleFormat "PDF"]
    (exampleContent ++ exampleRecord "volume-1") []).map (·.tier) = some .tierA := by
  decide +kernel

end Bookwarden
