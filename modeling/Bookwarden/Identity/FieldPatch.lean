import Bookwarden.Identity.Patch

/-!
# The patch and the evidence

A field is patched when two independent roots, one of them internal or official, agree on a value
that the record does not have. What is then written is the value as `CanonicalPatch` reads it, and
for a series number or a cover that need not be the value that was compared: `3` is written `3.0`,
which has another comparison key. So the patch has the key of the evidence, and applying it ends the
matter, exactly when reading keeps the keys of these two fields.

## Main definitions

* `PatchSound` — every patched field rests on its evidence
* `CorrectionFixed` — the corrected record is not corrected again
* `KeysKept` — reading keeps the comparison keys of series numbers and covers

## Main results

* `patch_sound_iff`, `correction_fixed_iff`
-/

namespace Bookwarden

variable {py : Runtime} {evidence : List SourceEvidence} {current : Dict} {target : String × String}
  {field : String}

/-! ### Identifiers -/

variable (py) in
/-- The identifiers of a value, normalized. -/
def observedIds : Json → Identifiers
  | .obj kvs => normalizeIdentifiers py (strItems py kvs)
  | _ => []

/-- The part of an identifier map in the namespaces of `ids`. -/
def restrictTo (ids : Identifiers) : Json → Json
  | .obj kvs => .obj (kvs.filter fun p => p.1 ∈ Assoc.keys ids)
  | v => v

theorem observedIds_normal (hpy : LowerStable py) (v : Json) : Normal py (observedIds py v) := by
  cases v with
  | obj kvs => exact normalizeIdentifiers_normal hpy _
  | _ => exact Normal.nil

@[simp] theorem observedIds_strDict {ids : Identifiers} (h : Normal py ids) :
    observedIds py (.strDict ids) = ids := by
  rw [Json.strDict, observedIds, strItems_strDict, h.normalize]

theorem targetValue_of_ne (hfield : field ≠ "identifiers") (v : Json) :
    targetValue py current field v = v := by
  cases v with
  | obj kvs => exact if_neg hfield
  | _ => rfl

/-- What an identifier patch asks for: the observed namespaces over the record's. -/
theorem targetValue_identifiers (kvs : Dict) :
    targetValue py current "identifiers" (.obj kvs) =
      .strDict (Assoc.update (observedIds py (current.get "identifiers"))
        (observedIds py (.obj kvs))) := by
  rw [targetValue]
  simp only [reduceIte]
  cases current.get "identifiers" <;> rfl

/-- A value that is no map is no identifier patch. -/
theorem exists_obj_of_readIdentifiers {v w : Json}
    (h : readField py "identifiers" (targetValue py current "identifiers" v) = some (some w)) :
    ∃ kvs, v = .obj kvs := by
  cases v with
  | obj kvs => exact ⟨kvs, rfl⟩
  | _ => simp [targetValue, readField, readIdentifiers] at h

/-- An identifier patch writes just what it asks for. -/
theorem readField_targetValue_identifiers (hpy : LowerStable py) (kvs : Dict) :
    readField py "identifiers" (targetValue py current "identifiers" (.obj kvs)) =
      some (some (targetValue py current "identifiers" (.obj kvs))) := by
  have hnormal := (observedIds_normal hpy (current.get "identifiers")).update
    (observedIds_normal hpy (.obj kvs))
  rw [targetValue_identifiers]
  simp [readField, readIdentifiers_normal hnormal]

theorem get?_filter_keys (ids : Identifiers) (kvs : Identifiers) (k : String) :
    Assoc.get? k (kvs.filter fun p => p.1 ∈ Assoc.keys ids) =
      if k ∈ Assoc.keys ids then Assoc.get? k kvs else none := by
  induction kvs with
  | nil => simp
  | cons p kvs ih =>
    obtain ⟨a, v⟩ := p
    rw [List.filter_cons]
    by_cases ha : a ∈ Assoc.keys ids
    · rw [if_pos (by simpa using ha), Assoc.get?_cons, Assoc.get?_cons, ih]
      by_cases hak : a = k
      · rw [if_pos hak, if_pos hak, if_pos (hak ▸ ha)]
      · rw [if_neg hak, if_neg hak]
    · rw [if_neg (by simpa using ha), ih, Assoc.get?_cons]
      by_cases hak : a = k
      · rw [if_neg (hak ▸ ha), if_neg (hak ▸ ha)]
      · rw [if_neg hak]

theorem valueKey_strDict {ids : Identifiers} (h : Normal py ids) :
    valueKey py "identifiers" (.strDict ids) = dumps py (.strDict ids) := by
  have hnorm := observedIds_strDict h
  rw [Json.strDict, observedIds] at hnorm
  rw [Json.strDict, valueKey, if_pos rfl, hnorm, Json.strDict]

/-- The observed part of an identifier patch has the key of the evidence. -/
theorem valueKey_restrictTo (hpy : LowerStable py) (kvs : Dict) :
    valueKey py "identifiers"
        (restrictTo (observedIds py (.obj kvs)) (targetValue py current "identifiers" (.obj kvs))) =
      valueKey py "identifiers" (.obj kvs) := by
  have hcur := observedIds_normal hpy (current.get "identifiers")
  have hobs := observedIds_normal hpy (.obj kvs)
  rw [targetValue_identifiers]
  generalize observedIds py (current.get "identifiers") = cur at hcur
  have hkey : valueKey py "identifiers" (.obj kvs) =
      dumps py (.strDict (observedIds py (.obj kvs))) := by
    rw [valueKey, if_pos rfl, observedIds]
  rw [hkey]
  generalize observedIds py (.obj kvs) = ids at hobs
  have hpart := (hcur.update hobs).filter fun p => p.1 ∈ Assoc.keys ids
  have hrestrict : restrictTo ids (.strDict (Assoc.update cur ids)) =
      .strDict ((Assoc.update cur ids).filter fun p => p.1 ∈ Assoc.keys ids) := by
    rw [Json.strDict, restrictTo, List.filter_map, Json.strDict]
    rfl
  rw [hrestrict, valueKey_strDict hpart]
  refine dumps_strDict_congr hpart.nodup hobs.nodup fun k => ?_
  rw [get?_filter_keys, Assoc.get?_update hobs.nodup]
  split
  · rename_i hk
    obtain ⟨v, hv⟩ := Assoc.mem_keys_iff.mp hk
    rw [hv, Option.some_or]
  · rename_i hk
    exact (Assoc.get?_eq_none_iff.mpr hk).symm

/-! ### Patched fields -/

/-- A field is patched with `w`: there is a consensus on `value`, the record has another one, and
`w` is what `CanonicalPatch` writes. -/
structure Patched (py : Runtime) (evidence : List SourceEvidence) (current : Dict)
    (target : String × String) (field : String) (value w : Json) : Prop where
  allowed : field ∈ allowedPatchFields
  consensus : Consensus py evidence target field value
  changed : valueKey py field (current.get field) ≠
    valueKey py field (targetValue py current field value)
  read : readField py field (targetValue py current field value) = some (some w)

theorem Comparable.target_unique {formats : List FormatEvidence} {target' : String × String}
    (h : Comparable py formats evidence target) (h' : Comparable py formats evidence target') :
    target = target' := by
  simpa [h.ids] using h'.ids

/-- Every value that is to be patched can be read. -/
def AllReadable (py : Runtime) (evidence : List SourceEvidence) (current : Dict)
    (target : String × String) : Prop :=
  ∀ field ∈ allowedPatchFields, ∀ value, Consensus py evidence target field value →
    valueKey py field (current.get field) ≠
      valueKey py field (targetValue py current field value) →
    (readField py field (targetValue py current field value)).isSome

theorem validate_rawPatch_isSome_iff :
    (CanonicalPatch.validate py (rawPatch py evidence current target)).isSome ↔
      AllReadable py evidence current target := by
  rw [CanonicalPatch.validate_isSome_iff, and_iff_right keys_rawPatch_allowed]
  constructor
  · intro h field hfield value hc hchanged
    have hread := h field hfield
    rwa [Dict.get, get?_rawPatch hfield, decideField_eq_some_iff.mpr ⟨value, hc, rfl, hchanged⟩]
      at hread
  · intro h field hfield
    rw [Dict.get, get?_rawPatch hfield]
    cases hd : (decideField py evidence current target field).2 with
    | none =>
      rw [Option.getD_none, readField_null]
      rfl
    | some v =>
      obtain ⟨value, hc, rfl, hchanged⟩ := decideField_eq_some_iff.mp hd
      exact h field hfield value hc hchanged

/-- The patch of a Tier A resolution: the patched fields and no others. -/
structure IsPatch (py : Runtime) (evidence : List SourceEvidence) (current : Dict)
    (target : String × String) (patch : Dict) : Prop where
  nodup : (Assoc.keys patch).Nodup
  get : ∀ field w, Assoc.get? field patch = some w ↔
    ∃ value, Patched py evidence current target field value w

/-- What a Tier A resolution has. -/
theorem tierA_patched {formats : List FormatEvidence} {r : ManifestationResolution}
    (hr : resolveManifestation py formats evidence current = some r) (htier : r.tier = .tierA) :
    ∃ target, Admitted py formats evidence target ∧ AllReadable py evidence current target ∧
      r.manifestationIds = [target] ∧ IsPatch py evidence current target r.autoPatch := by
  obtain ⟨target, patch, hadm, hv, hids, hpatch⟩ := admitted_of_tierA hr htier
  refine ⟨target, hadm, validate_rawPatch_isSome_iff.mp (by rw [hv]; rfl), hids,
    hpatch ▸ patch.nodup_keys_dump, fun field w => ?_⟩
  rw [hpatch, get?_dump_rawPatch hv]
  constructor
  · rintro ⟨hfield, v, hd, hread⟩
    obtain ⟨value, hc, rfl, hchanged⟩ := decideField_eq_some_iff.mp hd
    exact ⟨value, hfield, hc, hchanged, hread⟩
  · rintro ⟨value, hp⟩
    exact ⟨hp.allowed, _, decideField_eq_some_iff.mpr ⟨value, hp.consensus, rfl, hp.changed⟩,
      hp.read⟩

/-- And where an admission leads. -/
theorem exists_tierA {formats : List FormatEvidence} (hadm : Admitted py formats evidence target)
    (hread : AllReadable py evidence current target) :
    ∃ r, resolveManifestation py formats evidence current = some r ∧ r.tier = .tierA ∧
      r.manifestationIds = [target] := by
  obtain ⟨patch, hv⟩ := Option.isSome_iff_exists.mp (validate_rawPatch_isSome_iff.mpr hread)
  exact tierA_of_admitted hadm hv

/-- Outside Tier A nothing is patched. -/
theorem autoPatch_of_not_tierA {formats : List FormatEvidence} {r : ManifestationResolution}
    (hr : resolveManifestation py formats evidence current = some r) (htier : r.tier ≠ .tierA) :
    r.autoPatch = [] := by
  rw [resolveManifestation] at hr
  split at hr
  · cases hr
    rfl
  · rw [Option.bind_eq_bind, Option.bind_eq_some_iff] at hr
    obtain ⟨p, -, hp⟩ := hr
    cases hp
    exact absurd rfl htier

/-- The two fields whose reading changes values. -/
def coercedFields : List String := ["series_index", "cover"]

/-- Every other field is written as it was asked for. -/
theorem Patched.eq_targetValue (hpy : LowerStable py) {value w : Json}
    (h : Patched py evidence current target field value w) (hfield : field ∉ coercedFields) :
    w = targetValue py current field value := by
  have hread := h.read
  by_cases hids : field = "identifiers"
  · subst hids
    obtain ⟨kvs, rfl⟩ := exists_obj_of_readIdentifiers hread
    rw [readField_targetValue_identifiers hpy] at hread
    exact (Option.some.inj (Option.some.inj hread)).symm
  · refine readField_eq_self ?_ hread
    have hallowed := h.allowed
    simp only [allowedPatchFields, coercedFields, List.mem_cons, List.not_mem_nil, or_false]
      at hallowed hfield ⊢
    tauto

/-! ### Soundness -/

variable (py) in
/-- `w` has the comparison key of `value`; for identifiers, in the namespaces of `value`. -/
def HasKey (field : String) (value w : Json) : Prop :=
  if field = "identifiers" then
    valueKey py field (restrictTo (observedIds py value) w) = valueKey py field value
  else valueKey py field w = valueKey py field value

/-- What has to hold of a field that is patched with `w`. -/
structure FieldSound (py : Runtime) (evidence : List SourceEvidence) (current : Dict)
    (target : String × String) (field : String) (w : Json) : Prop where
  roots : ∃ i ∈ eligible evidence target field, ∃ j ∈ eligible evidence target field,
    i.effectiveRoot ≠ j.effectiveRoot
  preferred : ∃ i ∈ eligible evidence target field,
    i.sourceKind ∈ internalPromotionKinds ++ officialKinds
  value : ∃ i ∈ eligible evidence target field,
    (∀ j ∈ eligible evidence target field, valueKey py field j.value = valueKey py field i.value) ∧
    HasKey py field i.value w
  changed : valueKey py field (current.get field) ≠ valueKey py field w

/-- The patch of a resolution rests on the evidence. -/
def PatchSound (py : Runtime) (formats : List FormatEvidence) (evidence : List SourceEvidence)
    (current : Dict) : Prop :=
  ∀ r, resolveManifestation py formats evidence current = some r →
    (r.tier ≠ .tierA → r.autoPatch = []) ∧
    (r.tier = .tierA → ∃ target, r.manifestationIds = [target] ∧
      (∀ field w, Assoc.get? field r.autoPatch = some w →
        FieldSound py evidence current target field w) ∧
      ∀ field, (∃ i ∈ eligible evidence target field, ∃ j ∈ eligible evidence target field,
        valueKey py field i.value ≠ valueKey py field j.value) →
        Assoc.get? field r.autoPatch = none)

/-- Reading a series number or a cover on which there is a consensus that the record does not have
keeps its comparison key. -/
def KeysKept (py : Runtime) (formats : List FormatEvidence) (evidence : List SourceEvidence)
    (current : Dict) : Prop :=
  ∀ target, Admitted py formats evidence target → AllReadable py evidence current target →
    ∀ field ∈ coercedFields, ∀ value w, Consensus py evidence target field value →
      valueKey py field (current.get field) ≠ valueKey py field value →
      readField py field value = some (some w) → valueKey py field w = valueKey py field value

theorem exists_ne_of_two_le {xs : List String} (h : 2 ≤ (distinct xs).length) :
    ∃ x ∈ xs, ∃ y ∈ xs, x ≠ y := by
  have hnodup : (distinct xs).Nodup := List.nodup_dedup xs
  generalize hd : distinct xs = ds at h hnodup
  match ds, h with
  | x :: y :: rest, _ =>
    have hx : x ∈ distinct xs := by rw [hd]; simp
    have hy : y ∈ distinct xs := by rw [hd]; simp
    have hne : x ≠ y := by
      rintro rfl
      simp at hnodup
    exact ⟨x, List.mem_dedup.mp hx, y, List.mem_dedup.mp hy, hne⟩

theorem ne_identifiers_of_coerced (h : field ∈ coercedFields) : field ≠ "identifiers" := by
  rintro rfl
  revert h
  decide

/-- A patched field has the key of its consensus, when reading keeps it. -/
theorem Patched.hasKey (hpy : LowerStable py) {value w : Json}
    (h : Patched py evidence current target field value w)
    (hkept : field ∈ coercedFields → valueKey py field w = valueKey py field value) :
    HasKey py field value w := by
  rw [HasKey]
  split
  · rename_i hids
    subst hids
    obtain ⟨kvs, rfl⟩ := exists_obj_of_readIdentifiers h.read
    rw [h.eq_targetValue hpy (by decide)]
    exact valueKey_restrictTo hpy kvs
  · rename_i hids
    by_cases hfield : field ∈ coercedFields
    · exact hkept hfield
    · rw [h.eq_targetValue hpy hfield, targetValue_of_ne hids]

theorem Patched.changed_read (hpy : LowerStable py) {value w : Json}
    (h : Patched py evidence current target field value w)
    (hkept : field ∈ coercedFields → valueKey py field w = valueKey py field value) :
    valueKey py field (current.get field) ≠ valueKey py field w := by
  by_cases hfield : field ∈ coercedFields
  · rw [hkept hfield]
    have hchanged := h.changed
    rwa [targetValue_of_ne (ne_identifiers_of_coerced hfield)] at hchanged
  · rw [h.eq_targetValue hpy hfield]
    exact h.changed

theorem Patched.fieldSound (hpy : LowerStable py) {value w : Json}
    (h : Patched py evidence current target field value w)
    (hkept : field ∈ coercedFields → valueKey py field w = valueKey py field value) :
    FieldSound py evidence current target field w where
  roots := by
    obtain ⟨x, hx, y, hy, hne⟩ := exists_ne_of_two_le h.consensus.roots
    obtain ⟨i, hi, rfl⟩ := List.mem_map.mp hx
    obtain ⟨j, hj, rfl⟩ := List.mem_map.mp hy
    exact ⟨i, hi, j, hj, hne⟩
  preferred := h.consensus.preferred
  value := by
    obtain ⟨i, hi, hval⟩ := h.consensus.exists_first
    exact ⟨i, hi, hval ▸ h.consensus.agree, hval ▸ h.hasKey hpy hkept⟩
  changed := h.changed_read hpy hkept

/-- The patch rests on the evidence exactly when reading keeps the keys of series numbers and
covers. -/
theorem patch_sound_iff (py : Runtime) (hpy : LowerStable py) (formats : List FormatEvidence)
    (evidence : List SourceEvidence) (current : Dict) :
    PatchSound py formats evidence current ↔ KeysKept py formats evidence current := by
  constructor
  · intro h target hadm hread field hfield value w hc hchanged hw
    obtain ⟨r, hr, htier, hids⟩ := exists_tierA hadm hread
    obtain ⟨target', hids', hsound, -⟩ := (h r hr).2 htier
    obtain ⟨target'', hadm'', -, -, hpatch⟩ := tierA_patched hr htier
    have htarget : target' = target := by simpa [hids] using hids'.symm
    rw [htarget] at hsound
    rw [← hadm.target_unique hadm''.toComparable] at hpatch
    have hne := ne_identifiers_of_coerced hfield
    have hallowed : field ∈ allowedPatchFields := by
      clear hc hchanged hw hne
      revert field
      decide
    have hp : Patched py evidence current target field value w :=
      ⟨hallowed, hc, by rwa [targetValue_of_ne hne], by rwa [targetValue_of_ne hne]⟩
    obtain ⟨i, hi, -, hkey⟩ := (hsound field w ((hpatch.get field w).mpr ⟨value, hp⟩)).value
    rw [HasKey, if_neg hne] at hkey
    rw [hkey, hc.agree i hi]
  · intro h r hr
    refine ⟨autoPatch_of_not_tierA hr, fun htier => ?_⟩
    obtain ⟨target, hadm, hread, hids, hpatch⟩ := tierA_patched hr htier
    refine ⟨target, hids, fun field w hw => ?_, ?_⟩
    · obtain ⟨value, hp⟩ := (hpatch.get field w).mp hw
      refine hp.fieldSound hpy fun hfield => ?_
      have hne := ne_identifiers_of_coerced hfield
      have hchanged := hp.changed
      have hval := hp.read
      rw [targetValue_of_ne hne] at hchanged hval
      exact h target hadm hread field hfield value w hp.consensus hchanged hval
    · rintro field ⟨i, hi, j, hj, hne⟩
      by_contra hsome
      obtain ⟨w, hw⟩ := Option.ne_none_iff_exists'.mp hsome
      obtain ⟨value, hp⟩ := (hpatch.get field w).mp hw
      exact hne ((hp.consensus.agree i hi).trans (hp.consensus.agree j hj).symm)

/-- A book that reaches Tier A, and two independent statements of its series number. -/
def seriesEvidence (value : Json) : List SourceEvidence :=
  exampleContent ++ exampleRecord "volume-1" ++
    [exampleItem .contentNative "content" "series_index" value,
      exampleItem .providerStructured "volume-1" "series_index" value]

/-- A series number that is a float is written as it is. -/
theorem keysKept_series_float :
    KeysKept .ascii [exampleFormat "EPUB"] (seriesEvidence (.float 3)) [] := by
  intro target hadm _ field hfield value w hc _ hw
  have htarget : target = ("isbn", "9780306406157") := by
    have hids : formatIds [exampleFormat "EPUB"] = [("isbn", "9780306406157")] := by decide +kernel
    simpa [hids] using hadm.ids.symm
  subst htarget
  obtain ⟨i, hi, rfl⟩ := hc.exists_first
  have hall : ∀ field ∈ coercedFields, ∀ i ∈ eligible (seriesEvidence (.float 3))
      ("isbn", "9780306406157") field, readField .ascii field i.value = some (some i.value) := by
    decide +kernel
  rw [hall field hfield i hi] at hw
  rw [Option.some.inj (Option.some.inj hw)]

theorem patch_sound_series_float :
    PatchSound .ascii [exampleFormat "EPUB"] (seriesEvidence (.float 3)) [] :=
  (patch_sound_iff .ascii lowerStable_ascii _ _ _).mpr keysKept_series_float

/-- The integer `3` is written as `3.0`, which the evidence does not say. -/
theorem series_integer_unsound :
    ¬ PatchSound .ascii [exampleFormat "EPUB"] (seriesEvidence (.int 3)) [] := by
  intro h
  have hrun : (resolveManifestation .ascii [exampleFormat "EPUB"] (seriesEvidence (.int 3)) []).any
      (fun r => r.tier = .tierA && r.manifestationIds = [("isbn", "9780306406157")] &&
        Assoc.get? "series_index" r.autoPatch = some (.float 3)) = true := by
    decide +kernel
  rw [Option.any_eq_true] at hrun
  obtain ⟨r, hr, hrun⟩ := hrun
  simp only [Bool.and_eq_true, decide_eq_true_eq] at hrun
  obtain ⟨⟨htier, hids⟩, hpatch⟩ := hrun
  obtain ⟨target, hids', hsound, -⟩ := (h r hr).2 htier
  have htarget : target = ("isbn", "9780306406157") := by simpa [hids] using hids'.symm
  subst htarget
  obtain ⟨i, hi, -, hkey⟩ := (hsound "series_index" _ hpatch).value
  have hall : ∀ i ∈ eligible (seriesEvidence (.int 3)) ("isbn", "9780306406157") "series_index",
      valueKey .ascii "series_index" (.float 3) ≠ valueKey .ascii "series_index" i.value := by
    decide +kernel
  exact hall i hi hkey

/-! ### Applying a patch -/

/-- The corrected record is not corrected again. -/
def CorrectionFixed (py : Runtime) (formats : List FormatEvidence) (evidence : List SourceEvidence)
    (current : Dict) : Prop :=
  ∀ r, resolveManifestation py formats evidence current = some r → r.tier = .tierA →
    ∃ r', resolveManifestation py formats evidence (Assoc.update current r.autoPatch) = some r' ∧
      r'.tier = .tierA ∧ r'.autoPatch = []

variable {patch : Dict}

theorem IsPatch.get_applied (h : IsPatch py evidence current target patch) :
    Dict.get (Assoc.update current patch) field =
      (Assoc.get? field patch).getD (current.get field) := by
  rw [Dict.get, Assoc.get?_update h.nodup]
  cases Assoc.get? field patch with
  | none => rfl
  | some w => rfl

/-- A patched field has what was written. -/
theorem IsPatch.get_patched (h : IsPatch py evidence current target patch) {value w : Json}
    (hp : Patched py evidence current target field value w) :
    Dict.get (Assoc.update current patch) field = w := by
  rw [h.get_applied, (h.get field w).mpr ⟨value, hp⟩, Option.getD_some]

/-- Any other field is as it was. -/
theorem IsPatch.get_unpatched (h : IsPatch py evidence current target patch)
    (hnone : Assoc.get? field patch = none) :
    Dict.get (Assoc.update current patch) field = current.get field := by
  rw [h.get_applied, hnone, Option.getD_none]

theorem targetValue_congr {current' : Dict} (h : current.get field = current'.get field)
    (v : Json) : targetValue py current field v = targetValue py current' field v := by
  cases v <;> simp only [targetValue, h]

/-- Asking for the identifiers of a corrected record asks for what it has. -/
theorem IsPatch.targetValue_patched (hpy : LowerStable py)
    (h : IsPatch py evidence current target patch) {value w : Json}
    (hp : Patched py evidence current target field value w) (hfield : field ∉ coercedFields) :
    targetValue py (Assoc.update current patch) field value = w := by
  have hw := hp.eq_targetValue hpy hfield
  by_cases hids : field = "identifiers"
  · subst hids
    obtain ⟨kvs, rfl⟩ := exists_obj_of_readIdentifiers hp.read
    have hobs := observedIds_normal hpy (.obj kvs)
    have hnormal := (observedIds_normal hpy (current.get "identifiers")).update hobs
    rw [targetValue_identifiers] at hw
    rw [targetValue_identifiers, h.get_patched hp, hw, observedIds_strDict hnormal,
      Assoc.update_update hobs.nodup]
  · rw [targetValue_of_ne hids, hw, targetValue_of_ne hids]

/-- What the corrected record is asked to change: what reading gave another key. -/
theorem IsPatch.changed_again (hpy : LowerStable py) (h : IsPatch py evidence current target patch)
    (hread : AllReadable py evidence current target) {value : Json}
    (hallowed : field ∈ allowedPatchFields) (hc : Consensus py evidence target field value)
    (hchanged : valueKey py field (Dict.get (Assoc.update current patch) field) ≠
      valueKey py field (targetValue py (Assoc.update current patch) field value)) :
    readField py field (targetValue py (Assoc.update current patch) field value) = some none ∨
      ∃ w, field ∈ coercedFields ∧ Patched py evidence current target field value w ∧
        valueKey py field w ≠ valueKey py field value := by
  cases hpatch : Assoc.get? field patch with
  | none =>
    left
    have hsame := h.get_unpatched hpatch
    have htarget : targetValue py (Assoc.update current patch) field value =
        targetValue py current field value := targetValue_congr hsame value
    rw [hsame, htarget] at hchanged
    rw [htarget]
    obtain ⟨read, hw⟩ := Option.isSome_iff_exists.mp (hread field hallowed value hc hchanged)
    cases read with
    | none => exact hw
    | some w =>
      rw [(h.get field w).mpr ⟨value, hallowed, hc, hchanged, hw⟩] at hpatch
      cases hpatch
  | some w =>
    right
    obtain ⟨value', hp⟩ := (h.get field w).mp hpatch
    have hvalue : value' = value := hp.consensus.unique hc
    subst hvalue
    rw [h.get_patched hp] at hchanged
    by_cases hfield : field ∈ coercedFields
    · rw [targetValue_of_ne (ne_identifiers_of_coerced hfield)] at hchanged
      exact ⟨w, hfield, hp, hchanged⟩
    · rw [h.targetValue_patched hpy hp hfield] at hchanged
      exact absurd rfl hchanged

/-- What can be read before the correction can be read after it. -/
theorem IsPatch.allReadable (hpy : LowerStable py) (h : IsPatch py evidence current target patch)
    (hread : AllReadable py evidence current target) :
    AllReadable py evidence (Assoc.update current patch) target := by
  intro field hallowed value hc hchanged
  rcases h.changed_again hpy hread hallowed hc hchanged with hnone | ⟨w, hfield, hp, -⟩
  · rw [hnone]
    rfl
  · have hval := hp.read
    have hne := ne_identifiers_of_coerced hfield
    rw [targetValue_of_ne hne] at hval
    rw [targetValue_of_ne hne, hval]
    rfl

/-- The corrected record is corrected again in the fields whose reading gave another key. -/
theorem IsPatch.patched_again_iff (hpy : LowerStable py)
    (h : IsPatch py evidence current target patch) (hread : AllReadable py evidence current target)
    {value w : Json} : Patched py evidence (Assoc.update current patch) target field value w ↔
      field ∈ coercedFields ∧ Patched py evidence current target field value w ∧
        valueKey py field w ≠ valueKey py field value := by
  constructor
  · intro hp
    rcases h.changed_again hpy hread hp.allowed hp.consensus hp.changed with
      hnone | ⟨w', hfield, hp', hkey⟩
    · rw [hp.read] at hnone
      cases hnone
    · have hne := ne_identifiers_of_coerced hfield
      have hval := hp.read
      have hval' := hp'.read
      rw [targetValue_of_ne hne] at hval hval'
      have hw : w' = w := Option.some.inj (Option.some.inj (hval'.symm.trans hval))
      exact ⟨hfield, hw ▸ hp', hw ▸ hkey⟩
  · rintro ⟨hfield, hp, hkey⟩
    have hne := ne_identifiers_of_coerced hfield
    have hval := hp.read
    rw [targetValue_of_ne hne] at hval
    refine ⟨hp.allowed, hp.consensus, ?_, by rwa [targetValue_of_ne hne]⟩
    rw [h.get_patched hp, targetValue_of_ne hne]
    exact hkey

theorem eq_nil_of_get?_none (h : ∀ field, Assoc.get? field patch = none) : patch = [] := by
  cases patch with
  | nil => rfl
  | cons p patch =>
    have hp := h p.1
    rw [Assoc.get?_cons, if_pos rfl] at hp
    cases hp

/-- A correction is a fixed point exactly when reading keeps the keys of series numbers and
covers. -/
theorem correction_fixed_iff (py : Runtime) (hpy : LowerStable py) (formats : List FormatEvidence)
    (evidence : List SourceEvidence) (current : Dict) :
    CorrectionFixed py formats evidence current ↔ KeysKept py formats evidence current := by
  constructor
  · intro h target hadm hread field hfield value w hc hchanged hw
    by_contra hkey
    obtain ⟨r, hr, htier, -⟩ := exists_tierA hadm hread
    obtain ⟨target', hadm', -, -, hpatch⟩ := tierA_patched hr htier
    rw [← hadm.target_unique hadm'.toComparable] at hpatch
    have hne := ne_identifiers_of_coerced hfield
    have hallowed : field ∈ allowedPatchFields := by
      clear hc hchanged hw hne hkey
      revert field
      decide
    have hp : Patched py evidence current target field value w :=
      ⟨hallowed, hc, by rwa [targetValue_of_ne hne], by rwa [targetValue_of_ne hne]⟩
    have hagain := (hpatch.patched_again_iff hpy hread).mpr ⟨hfield, hp, hkey⟩
    obtain ⟨r', hr', htier', hnil⟩ := h r hr htier
    obtain ⟨target'', hadm'', -, -, hpatch'⟩ := tierA_patched hr' htier'
    rw [← hadm.target_unique hadm''.toComparable] at hpatch'
    have hget := (hpatch'.get field w).mpr ⟨value, hagain⟩
    rw [hnil] at hget
    cases hget
  · intro h r hr htier
    obtain ⟨target, hadm, hread, hids, hpatch⟩ := tierA_patched hr htier
    have hread' := hpatch.allReadable hpy hread
    obtain ⟨r', hr', htier', -⟩ := exists_tierA hadm hread'
    obtain ⟨target', hadm', -, -, hpatch'⟩ := tierA_patched hr' htier'
    rw [← hadm.target_unique hadm'.toComparable] at hpatch'
    refine ⟨r', hr', htier', eq_nil_of_get?_none fun field => ?_⟩
    by_contra hsome
    obtain ⟨w, hw⟩ := Option.ne_none_iff_exists'.mp hsome
    obtain ⟨value, hp⟩ := (hpatch'.get field w).mp hw
    obtain ⟨hfield, hp, hkey⟩ := (hpatch.patched_again_iff hpy hread).mp hp
    have hne := ne_identifiers_of_coerced hfield
    have hchanged := hp.changed
    have hval := hp.read
    rw [targetValue_of_ne hne] at hchanged hval
    exact hkey (h target hadm hread field hfield value w hp.consensus hchanged hval)

theorem correction_fixed_series_float :
    CorrectionFixed .ascii [exampleFormat "EPUB"] (seriesEvidence (.float 3)) [] :=
  (correction_fixed_iff .ascii lowerStable_ascii _ _ _).mpr keysKept_series_float

/-- A record that has been given `3.0` is asked for `3` again. -/
theorem series_integer_again :
    ¬ CorrectionFixed .ascii [exampleFormat "EPUB"] (seriesEvidence (.int 3)) [] := by
  intro h
  have hrun : (resolveManifestation .ascii [exampleFormat "EPUB"] (seriesEvidence (.int 3)) []).any
      (fun r => decide (r.tier = .tierA) &&
        (resolveManifestation .ascii [exampleFormat "EPUB"] (seriesEvidence (.int 3))
          (Assoc.update [] r.autoPatch)).all fun r' => decide (r'.autoPatch ≠ [])) = true := by
    decide +kernel
  rw [Option.any_eq_true] at hrun
  obtain ⟨r, hr, hrun⟩ := hrun
  rw [Bool.and_eq_true, decide_eq_true_eq] at hrun
  obtain ⟨r', hr', -, hnil⟩ := h r hr hrun.1
  have hagain := hrun.2
  rw [hr'] at hagain
  simp [hnil] at hagain

end Bookwarden
