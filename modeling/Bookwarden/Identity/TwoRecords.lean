import Bookwarden.Identity.FieldPatch

/-!
# Two records of one book

What the catalogue says about a book is what the audit is to check, so it must not count as
evidence. Two runs with the same formats and the same evidence, on two records, end in the same tier
for the same reasons; where both patch a field they write the same value, and a field that only the
first record needs has been right in the second. An identifier map is right when it is right in the
namespaces that the evidence observes: a record keeps its other identifiers, so its map as a whole
need not have the comparison key of the evidence.

## Main definitions

* `RecordBlind` — what two runs have in common

## Main results

* `resolution_recordBlind`
* `record_key_differs` — a record with one more identifier is left alone, with another key
-/

namespace Bookwarden

variable {py : Runtime} {formats : List FormatEvidence} {evidence : List SourceEvidence}
  {c₁ c₂ : Dict} {target : String × String} {field : String}

/-! ### The text of a map determines it -/

theorem dumps_strDict_ascii (ids : Identifiers) :
    dumps py (.strDict ids) = dumps .ascii (.strDict ids) := by
  have hentries : ∀ p ∈ (ids.map fun p => (p.1, Json.str p.2)).insertionSort Json.keyLe,
      entryChars py p = entryChars .ascii p := by
    intro p hp
    rw [List.mem_insertionSort, List.mem_map] at hp
    obtain ⟨q, -, rfl⟩ := hp
    rfl
  rw [dumps, dumps, Json.strDict, dumpsChars_obj, dumpsChars_obj, List.map_congr_left hentries]

/-- Maps with the same canonical text have the same values. -/
theorem get?_of_dumps_strDict {ids ids' : Identifiers} (hids : (Assoc.keys ids).Nodup)
    (h : dumps py (.strDict ids) = dumps py (.strDict ids')) (k : String) :
    Assoc.get? k ids = Assoc.get? k ids' := by
  rw [dumps_strDict_ascii ids, dumps_strDict_ascii ids'] at h
  have hcanon := dumps_inj floatText_ascii h
  have hnodup : (Assoc.keys (ids.map fun p => (p.1, Json.str p.2))).Nodup := by
    rw [Assoc.keys, List.map_map]
    exact hids
  have hget := Json.get?_of_canon_eq hnodup hcanon k
  rw [Assoc.get?_map, Assoc.get?_map, Option.map_map, Option.map_map] at hget
  refine Option.map_injective (f := Json.canon ∘ Json.str) (fun s t hst => ?_) hget
  simpa [Json.canon] using hst

/-! ### What two runs have in common -/

variable (py) in
/-- A value of the record, with a normalized identifier map. -/
def normalForm : Json → Json
  | .obj kvs => .strDict (observedIds py (.obj kvs))
  | v => v

variable (py) in
/-- The record has the comparison key of the evidence; for identifiers, in the observed
namespaces. -/
def RecordHasKey (current : Dict) (field : String) (value : Json) : Prop :=
  if field = "identifiers" then
    valueKey py field (restrictTo (observedIds py value) (normalForm py (current.get field))) =
      valueKey py field value
  else valueKey py field (current.get field) = valueKey py field value

/-- An identifier patch keeps the record's other namespaces and sets the observed ones. -/
structure MergesIds (py : Runtime) (current : Dict) (value w : Json) : Prop where
  keeps : ∀ ns v, Assoc.get? ns (observedIds py (current.get "identifiers")) = some v →
    ns ∉ Assoc.keys (observedIds py value) → Assoc.get? ns (observedIds py w) = some v
  sets : ∀ ns v, Assoc.get? ns (observedIds py value) = some v →
    Assoc.get? ns (observedIds py w) = some v
  map : ∃ ids, Normal py ids ∧ w = .strDict ids

/-- Two records of a book are judged by the evidence alone. -/
structure RecordBlind (py : Runtime) (evidence : List SourceEvidence) (c₁ c₂ : Dict)
    (r₁ r₂ : ManifestationResolution) : Prop where
  tier : r₁.tier = r₂.tier
  manifestationIds : r₁.manifestationIds = r₂.manifestationIds
  riskFlags : r₁.riskFlags = r₂.riskFlags
  reasons : r₁.reasons = r₂.reasons
  same : ∀ field ≠ "identifiers", ∀ w₁ w₂, Assoc.get? field r₁.autoPatch = some w₁ →
    Assoc.get? field r₂.autoPatch = some w₂ → w₁ = w₂
  right : ∀ target field w, r₁.manifestationIds = [target] →
    Assoc.get? field r₁.autoPatch = some w → Assoc.get? field r₂.autoPatch = none →
    ∃ i ∈ eligible evidence target field,
      (∀ j ∈ eligible evidence target field,
        valueKey py field j.value = valueKey py field i.value) ∧
      RecordHasKey py c₂ field i.value
  merges : ∀ target w, r₁.manifestationIds = [target] →
    Assoc.get? "identifiers" r₁.autoPatch = some w →
    ∃ i ∈ eligible evidence target "identifiers",
      (∀ j ∈ eligible evidence target "identifiers",
        valueKey py "identifiers" j.value = valueKey py "identifiers" i.value) ∧
      MergesIds py c₁ i.value w

/-- A field that the first record needs and the second does not is right in the second. -/
theorem Patched.recordHasKey (hpy : LowerStable py) {value w : Json}
    (h : Patched py evidence c₁ target field value w)
    (hsame : valueKey py field (c₂.get field) =
      valueKey py field (targetValue py c₂ field value)) : RecordHasKey py c₂ field value := by
  rw [RecordHasKey]
  split
  · rename_i hids
    subst hids
    obtain ⟨kvs, rfl⟩ := exists_obj_of_readIdentifiers h.read
    have hobs := observedIds_normal hpy (.obj kvs)
    have hcur := observedIds_normal hpy (c₂.get "identifiers")
    have hvalue : valueKey py "identifiers" (.obj kvs) =
        dumps py (.strDict (observedIds py (.obj kvs))) := by
      rw [valueKey, if_pos rfl, observedIds]
    rw [targetValue_identifiers, valueKey_strDict (hcur.update hobs)] at hsame
    cases hv : c₂.get "identifiers" with
    | obj kvs₂ =>
      -- the record's map is the merged map, so it has the observed values
      rw [hv] at hsame hcur
      have hkey : valueKey py "identifiers" (.obj kvs₂) =
          dumps py (.strDict (observedIds py (.obj kvs₂))) := by
        rw [valueKey, if_pos rfl, observedIds]
      rw [hkey] at hsame
      have hget := get?_of_dumps_strDict hcur.nodup hsame
      rw [normalForm, hvalue]
      generalize observedIds py (.obj kvs₂) = cur at hcur hget
      generalize observedIds py (.obj kvs) = ids at hobs hget
      have hpart := hcur.filter fun p => p.1 ∈ Assoc.keys ids
      have hrestrict : restrictTo ids (.strDict cur) =
          .strDict (cur.filter fun p => p.1 ∈ Assoc.keys ids) := by
        rw [Json.strDict, restrictTo, List.filter_map, Json.strDict]
        rfl
      rw [hrestrict, valueKey_strDict hpart]
      refine dumps_strDict_congr hpart.nodup hobs.nodup fun k => ?_
      rw [get?_filter_keys]
      split
      · rename_i hk
        obtain ⟨v, hv'⟩ := Assoc.mem_keys_iff.mp hk
        rw [hget, Assoc.get?_update hobs.nodup, hv', Option.some_or]
      · rename_i hk
        exact (Assoc.get?_eq_none_iff.mpr hk).symm
    | _ =>
      rw [hv] at hsame
      have hempty : Assoc.update ([] : Identifiers) (observedIds py (.obj kvs)) =
          observedIds py (.obj kvs) := by
        rw [Assoc.update_of_nodup (by simpa using hobs.nodup), List.nil_append]
      simp only [observedIds] at hsame hempty
      rw [hempty] at hsame
      rw [hvalue, observedIds, ← hsame]
      rfl
  · rename_i hids
    rwa [targetValue_of_ne hids] at hsame

theorem Patched.mergesIds (hpy : LowerStable py) {value w : Json}
    (h : Patched py evidence c₁ target "identifiers" value w) : MergesIds py c₁ value w := by
  obtain ⟨kvs, rfl⟩ := exists_obj_of_readIdentifiers h.read
  have hobs := observedIds_normal hpy (.obj kvs)
  have hnormal := (observedIds_normal hpy (c₁.get "identifiers")).update hobs
  have hw := h.eq_targetValue hpy (by decide)
  rw [targetValue_identifiers] at hw
  refine ⟨fun ns v hv hns => ?_, fun ns v hv => ?_, _, hnormal, hw⟩
  · rw [hw, observedIds_strDict hnormal, Assoc.get?_update hobs.nodup,
      Assoc.get?_eq_none_iff.mpr hns, hv]
    rfl
  · rw [hw, observedIds_strDict hnormal, Assoc.get?_update hobs.nodup, hv, Option.some_or]

/-- The two ways a resolution ends: an early return, or a patch for the target. -/
theorem resolveManifestation_cases {current : Dict} {r : ManifestationResolution}
    (hr : resolveManifestation py formats evidence current = some r) :
    (∃ refusal, passGates py formats evidence = .error refusal ∧
      r = nonAuthoritativeResolution refusal evidence current) ∨
    ∃ target, passGates py formats evidence = .ok target ∧ r.tier = .tierA ∧
      r.manifestationIds = [target] ∧ r.riskFlags = [] ∧ r.reasons =
        ["internal content and a structured external root identify the same manifestation"] ∧
      AllReadable py evidence current target ∧
      IsPatch py evidence current target r.autoPatch := by
  have hresolve := hr
  rw [resolveManifestation] at hr
  cases hgates : passGates py formats evidence with
  | error refusal =>
    rw [hgates] at hr
    exact .inl ⟨refusal, rfl, (Option.some.inj hr).symm⟩
  | ok target =>
    simp only [hgates, Option.bind_eq_bind, Option.bind_eq_some_iff] at hr
    obtain ⟨⟨decisions, patch⟩, -, heq⟩ := hr
    have htier : r.tier = .tierA := by rw [← Option.some.inj heq]
    have hids : r.manifestationIds = [target] := by rw [← Option.some.inj heq]
    obtain ⟨target', -, hread, hids', hpatch⟩ := tierA_patched hresolve htier
    have htarget : target' = target := by simpa [hids] using hids'.symm
    rw [htarget] at hread hpatch
    exact .inr ⟨target, rfl, htier, hids, by rw [← Option.some.inj heq],
      by rw [← Option.some.inj heq], hread, hpatch⟩

/-- **The audited record cannot confirm itself.** -/
theorem resolution_recordBlind (py : Runtime) (hpy : LowerStable py)
    (formats : List FormatEvidence) (evidence : List SourceEvidence) (c₁ c₂ : Dict)
    (r₁ r₂ : ManifestationResolution)
    (h₁ : resolveManifestation py formats evidence c₁ = some r₁)
    (h₂ : resolveManifestation py formats evidence c₂ = some r₂) :
    RecordBlind py evidence c₁ c₂ r₁ r₂ := by
  rcases resolveManifestation_cases h₁ with
    ⟨refusal, hgates, rfl⟩ | ⟨target, hgates, htier, hids, hflags, hreasons, -, hpatch⟩
  · rcases resolveManifestation_cases h₂ with ⟨refusal', hgates', rfl⟩ | ⟨target, hgates', -⟩
    · rw [hgates, Except.error.injEq] at hgates'
      subst hgates'
      refine ⟨rfl, rfl, rfl, rfl, fun _ _ w₁ w₂ h => ?_, fun _ _ w _ h => ?_, fun _ w _ h => ?_⟩
      · cases h
      · cases h
      · cases h
    · rw [hgates] at hgates'
      cases hgates'
  · rcases resolveManifestation_cases h₂ with
      ⟨refusal', hgates', -⟩ | ⟨target', hgates', htier', hids', hflags', hreasons', hread', hpatch'⟩
    · rw [hgates] at hgates'
      cases hgates'
    · rw [hgates, Except.ok.injEq] at hgates'
      subst hgates'
      refine ⟨by rw [htier, htier'], by rw [hids, hids'], by rw [hflags, hflags'],
        by rw [hreasons, hreasons'], fun field hfield w₁ w₂ hw₁ hw₂ => ?_,
        fun t field w ht hw hnone => ?_, fun t w ht hw => ?_⟩
      · obtain ⟨value, hp⟩ := (hpatch.get field w₁).mp hw₁
        obtain ⟨value', hp'⟩ := (hpatch'.get field w₂).mp hw₂
        have hread₁ := hp.read
        have hread₂ := hp'.read
        rw [targetValue_of_ne hfield] at hread₁ hread₂
        rw [hp'.consensus.unique hp.consensus, hread₁] at hread₂
        exact Option.some.inj (Option.some.inj hread₂)
      · have htarget : t = target := by simpa [hids] using ht.symm
        subst htarget
        obtain ⟨value, hp⟩ := (hpatch.get field w).mp hw
        obtain ⟨i, hi, hval⟩ := hp.consensus.exists_first
        refine ⟨i, hi, hval ▸ hp.consensus.agree, hval ▸ hp.recordHasKey hpy ?_⟩
        -- what the first record needs can be read, so the second does not need it
        by_contra hchanged
        obtain ⟨read, hsome⟩ := Option.isSome_iff_exists.mp
          (hread' field hp.allowed value hp.consensus hchanged)
        cases read with
        | none =>
          by_cases hids : field = "identifiers"
          · subst hids
            obtain ⟨kvs, rfl⟩ := exists_obj_of_readIdentifiers hp.read
            rw [readField_targetValue_identifiers hpy] at hsome
            cases hsome
          · have hread₁ := hp.read
            rw [targetValue_of_ne hids] at hsome hread₁
            rw [hread₁] at hsome
            cases hsome
        | some w' =>
          rw [(hpatch'.get field w').mpr ⟨value, hp.allowed, hp.consensus, hchanged, hsome⟩]
            at hnone
          cases hnone
      · have htarget : t = target := by simpa [hids] using ht.symm
        subst htarget
        obtain ⟨value, hp⟩ := (hpatch.get "identifiers" w).mp hw
        obtain ⟨i, hi, hval⟩ := hp.consensus.exists_first
        exact ⟨i, hi, hval ▸ hp.consensus.agree, hval ▸ hp.mergesIds hpy⟩

/-- A record that has the observed identifier and another one. -/
def keptRecord : Dict := [("identifiers", .strDict [("isbn", "9780306406157"), ("goodreads", "17")])]

/-- The example book on an empty record and on one that is right. -/
theorem resolution_recordBlind_example :
    ∃ r₁ r₂, RecordBlind .ascii (exampleContent ++ exampleRecord "volume-1") [] keptRecord r₁ r₂ := by
  have hsome : ∀ c ∈ [[], keptRecord], (resolveManifestation .ascii [exampleFormat "EPUB"]
      (exampleContent ++ exampleRecord "volume-1") c).isSome = true := by
    decide +kernel
  obtain ⟨r₁, h₁⟩ := Option.isSome_iff_exists.mp (hsome [] (by simp))
  obtain ⟨r₂, h₂⟩ := Option.isSome_iff_exists.mp (hsome keptRecord (by simp))
  exact ⟨r₁, r₂, resolution_recordBlind .ascii lowerStable_ascii _ _ _ _ _ _ h₁ h₂⟩

/-- Patched on the empty record, left alone on the other, whose identifiers as a whole have a key of
their own. -/
theorem record_key_differs :
    ∃ r₁ r₂, resolveManifestation .ascii [exampleFormat "EPUB"]
        (exampleContent ++ exampleRecord "volume-1") [] = some r₁ ∧
      resolveManifestation .ascii [exampleFormat "EPUB"]
        (exampleContent ++ exampleRecord "volume-1") keptRecord = some r₂ ∧
      r₁.manifestationIds = [("isbn", "9780306406157")] ∧
      (Assoc.get? "identifiers" r₁.autoPatch).isSome = true ∧
      Assoc.get? "identifiers" r₂.autoPatch = none ∧
      ∀ i ∈ eligible (exampleContent ++ exampleRecord "volume-1") ("isbn", "9780306406157")
        "identifiers", valueKey .ascii "identifiers" (keptRecord.get "identifiers") ≠
          valueKey .ascii "identifiers" i.value := by
  have hrun₁ : (resolveManifestation .ascii [exampleFormat "EPUB"]
      (exampleContent ++ exampleRecord "volume-1") []).any (fun r =>
        r.manifestationIds = [("isbn", "9780306406157")] &&
          (Assoc.get? "identifiers" r.autoPatch).isSome) = true := by
    decide +kernel
  have hrun₂ : (resolveManifestation .ascii [exampleFormat "EPUB"]
      (exampleContent ++ exampleRecord "volume-1") keptRecord).any (fun r =>
        Assoc.get? "identifiers" r.autoPatch = none) = true := by
    decide +kernel
  rw [Option.any_eq_true] at hrun₁ hrun₂
  obtain ⟨r₁, h₁, hrun₁⟩ := hrun₁
  obtain ⟨r₂, h₂, hrun₂⟩ := hrun₂
  rw [Bool.and_eq_true, decide_eq_true_eq] at hrun₁
  exact ⟨r₁, r₂, h₁, h₂, hrun₁.1, hrun₁.2, by simpa using hrun₂, by decide +kernel⟩

end Bookwarden
