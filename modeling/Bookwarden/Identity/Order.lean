import Bookwarden.Lib.Slots
import Bookwarden.Identity.Noninterference
import Bookwarden.Identity.TierA
import Bookwarden.Identity.TwoRecords

/-!
# The order of formats and evidence

Formats and evidence come from a directory and from services, in an order that means nothing.
Reordering them changes nothing in a resolution except where `_external_core_matches` builds one
dictionary for each exact root: a later item replaces an earlier one, and unlike the test for
conflicts this test takes items of every kind. So the outcome is the same in every order exactly
when the exact roots are settled: one of them has the expected key in all its items, or each of them
lacks it in all its items of some core field.

## Main definitions

* `OrderIndependent` — every reordering gives the same outcome
* `RootsSettled` — no exact root depends on the order

## Main results

* `passGates_perm` — the gates before the last one do not depend on the order
* `order_independent_iff`
-/

namespace Bookwarden

variable {py : Runtime} {formats formats' : List FormatEvidence}
  {evidence evidence' : List SourceEvidence} {target : String × String} {field root : String}

/-! ### The gates -/

theorem formatIds_perm (h : formats.Perm formats') : (formatIds formats).Perm (formatIds formats') :=
  (h.flatMap_right _).dedup

theorem formatsHaveCoreConflict_perm (h : formats.Perm formats') :
    formatsHaveCoreConflict py formats = formatsHaveCoreConflict py formats' := by
  have hkeys : ∀ field, (distinct (coreKeys py field formats)).length =
      (distinct (coreKeys py field formats')).length := by
    intro field
    have hperm : (coreKeys py field formats).Perm (coreKeys py field formats') :=
      ((h.map _).filter _).map _
    exact hperm.dedup.length_eq
  rw [formatsHaveCoreConflict, formatsHaveCoreConflict]
  congr 1
  funext field
  rw [hkeys]

theorem formatsHaveCompleteCore_perm (h : formats.Perm formats') :
    formatsHaveCompleteCore formats = formatsHaveCompleteCore formats' := h.all_eq

/-- Formats that agree on a complete core have the same core in every order. -/
theorem expectedCore_perm (hcomplete : formatsHaveCompleteCore formats = true)
    (hagree : formatsHaveCoreConflict py formats = false) (h : formats.Perm formats')
    (hfield : field ∈ coreFields) :
    expectedCore py formats field = expectedCore py formats' field := by
  obtain ⟨key, hkey⟩ := exists_core_key hcomplete hagree hfield
  cases hf : formats.head? with
  | none =>
    have hnil : formats = [] := List.head?_eq_none_iff.mp hf
    subst hnil
    rw [h.nil_eq]
  | some f =>
    have hmem : f ∈ formats := List.mem_of_head? hf
    cases hf' : formats'.head? with
    | none =>
      have hnil : formats' = [] := List.head?_eq_none_iff.mp hf'
      rw [hnil] at h
      rw [h.eq_nil] at hmem
      cases hmem
    | some f' =>
      have hmem' : f' ∈ formats := h.mem_iff.mpr (List.mem_of_head? hf')
      rw [expectedCore, expectedCore, hf, hf', Option.map_some, Option.map_some, Option.getD_some,
        Option.getD_some, (hkey f hmem).2, (hkey f' hmem').2]

theorem mem_exactRoots : root ∈ exactRoots evidence target ↔
    ∃ i ∈ evidence, i.confirmsExternally target = true ∧ i.effectiveRoot = root := by
  rw [exactRoots, distinct, List.mem_dedup, List.mem_map]
  simp only [List.mem_filter, and_assoc]

theorem mem_exactRoots_perm (h : evidence.Perm evidence') :
    root ∈ exactRoots evidence target ↔ root ∈ exactRoots evidence' target := by
  simp only [mem_exactRoots, h.mem_iff]

theorem externalCoreConflicts_perm (hcore : ∀ field ∈ coreFields,
      expectedCore py formats field = expectedCore py formats' field)
    (h : evidence.Perm evidence') :
    externalCoreConflicts py formats evidence target =
      externalCoreConflicts py formats' evidence' target := by
  have hitem : ∀ i : SourceEvidence, i.conflictsWith py formats (exactRoots evidence target) =
      i.conflictsWith py formats' (exactRoots evidence' target) := by
    intro i
    rw [SourceEvidence.conflictsWith, SourceEvidence.conflictsWith]
    by_cases hfield : i.field ∈ coreFields
    · simp only [hcore i.field hfield, mem_exactRoots_perm h]
    · simp [hfield]
  rw [externalCoreConflicts, externalCoreConflicts, h.any_eq]
  congr 1
  funext i
  exact hitem i

theorem Comparable.perm (hc : Comparable py formats evidence target) (hf : formats.Perm formats')
    (he : evidence.Perm evidence') : Comparable py formats' evidence' target where
  readable := fun f hmem => hc.readable f (hf.mem_iff.mpr hmem)
  ids := by
    have hperm := formatIds_perm hf
    rw [hc.ids] at hperm
    exact (List.perm_singleton.mp hperm.symm)
  internal := by rw [← he.any_eq]; exact hc.internal
  external := by rw [← he.any_eq]; exact hc.external
  agree := by rw [← formatsHaveCoreConflict_perm hf]; exact hc.agree
  complete := by rw [← formatsHaveCompleteCore_perm hf]; exact hc.complete
  noConflict := by
    rw [← externalCoreConflicts_perm (fun _ => expectedCore_perm hc.complete hc.agree hf) he]
    exact hc.noConflict

/-- The early returns depend on the order in the last comparison only. -/
theorem passGates_perm (hf : formats.Perm formats') (he : evidence.Perm evidence')
    (hmatch : ∀ target, Comparable py formats evidence target →
      externalCoreMatches py formats evidence target =
        externalCoreMatches py formats' evidence' target) :
    passGates py formats evidence = passGates py formats' evidence' := by
  have hreadable : (readableFormats formats).Perm (readableFormats formats') := hf.filter _
  have hids := formatIds_perm hreadable
  simp only [passGates, ← hids.length_eq, ← hreadable.length_eq, ← hf.length_eq]
  split
  · rfl
  rename_i hone
  -- at most one identifier, so the lists of identifiers are equal
  have hids : formatIds (readableFormats formats') = formatIds (readableFormats formats) := by
    cases h : formatIds (readableFormats formats) with
    | nil =>
      rw [h] at hids
      exact hids.symm.eq_nil
    | cons p rest =>
      rw [h, List.length_cons] at hone
      have hrest : rest = [] := List.length_eq_zero_iff.mp (by omega)
      rw [h, hrest] at hids
      rw [hrest]
      exact List.perm_singleton.mp hids.symm
  rw [hids]
  split
  · rfl
  rename_i hread
  have hall : ∀ f ∈ formats, f.status = .readable :=
    readableFormats_length.mp (Decidable.not_not.mp hread)
  have hall' : ∀ f ∈ formats', f.status = .readable := fun f hmem => hall f (hf.mem_iff.mpr hmem)
  simp only [readableFormats_eq hall, readableFormats_eq hall'] at hone ⊢
  split
  · rfl
  rename_i target rest hids
  have hrest : rest = [] := by
    rw [hids] at hone
    simp only [List.length_cons] at hone
    exact List.length_eq_zero_iff.mp (by omega)
  simp only [← he.any_eq, ← formatsHaveCoreConflict_perm hf,
    ← formatsHaveCompleteCore_perm hf]
  split
  · rfl
  rename_i hint
  split
  · rfl
  rename_i hext
  split
  · rfl
  rename_i hagree
  split
  · rfl
  rename_i hcomplete
  have hagree : formatsHaveCoreConflict py formats = false := by simpa using hagree
  have hcomplete : formatsHaveCompleteCore formats = true := by simpa using hcomplete
  have hcore : ∀ field ∈ coreFields,
      expectedCore py formats field = expectedCore py formats' field :=
    fun _ => expectedCore_perm hcomplete hagree hf
  rw [← externalCoreConflicts_perm hcore he]
  split
  · rfl
  rename_i hconf
  have hc : Comparable py formats evidence target :=
    ⟨hall, by rw [hids, hrest], by simpa using hint, by simpa using hext, hagree, hcomplete,
      by simpa using hconf⟩
  rw [hmatch target hc]

/-! ### The last comparison -/

/-- The last item of a root for a field decides its key. -/
theorem get?_rootCore : Assoc.get? field (rootCore py evidence root) =
    (Slots.last? (·.field) field (evidence.filter (·.speaksFor root))).map
      fun i => valueKey py i.field i.value :=
  Slots.get?_update_map _ _ _ _

theorem rootMatches_iff : rootMatches py formats evidence root = true ↔ ∀ field ∈ coreFields,
    ∃ i, Slots.last? (·.field) field (evidence.filter (·.speaksFor root)) = some i ∧
      valueKey py i.field i.value = expectedCore py formats field := by
  rw [rootMatches, List.all_eq_true]
  simp only [get?_rootCore, decide_eq_true_eq, Option.map_eq_some_iff]

theorem externalCoreMatches_iff : externalCoreMatches py formats evidence target = true ↔
    ∃ root ∈ exactRoots evidence target, rootMatches py formats evidence root = true := by
  rw [externalCoreMatches, List.any_eq_true]

variable (py formats evidence) in
/-- All items of the root have the expected keys, and there is one for each core field. -/
def RootAgrees (root : String) : Prop :=
  ∀ field ∈ coreFields, (∃ i ∈ evidence, i.speaksFor root = true ∧ i.field = field) ∧
    ∀ i ∈ evidence, i.speaksFor root = true → i.field = field →
      valueKey py i.field i.value = expectedCore py formats field

variable (py formats evidence) in
/-- No item of the root has the expected key of some core field. -/
def RootLacks (root : String) : Prop :=
  ∃ field ∈ coreFields, ∀ i ∈ evidence, i.speaksFor root = true → i.field = field →
    valueKey py i.field i.value ≠ expectedCore py formats field

/-- No exact root depends on the order: one of them agrees, or each of them lacks a field. -/
def RootsSettled (py : Runtime) (formats : List FormatEvidence) (evidence : List SourceEvidence) :
    Prop :=
  ∀ target, Comparable py formats evidence target →
    (∃ root ∈ exactRoots evidence target, RootAgrees py formats evidence root) ∨
    ∀ root ∈ exactRoots evidence target, RootLacks py formats evidence root

theorem mem_of_last_speaks {i : SourceEvidence}
    (h : Slots.last? (·.field) field (evidence.filter (·.speaksFor root)) = some i) :
    i ∈ evidence ∧ i.speaksFor root = true ∧ i.field = field := by
  obtain ⟨hmem, hfield⟩ := Slots.mem_of_last? h
  obtain ⟨hi, hspeaks⟩ := List.mem_filter.mp hmem
  exact ⟨hi, hspeaks, hfield⟩

theorem RootAgrees.rootMatches (h : RootAgrees py formats evidence root) :
    rootMatches py formats evidence root = true := by
  rw [rootMatches_iff]
  intro field hfield
  obtain ⟨⟨i, hi, hspeaks, rfl⟩, hall⟩ := h field hfield
  obtain ⟨j, hj⟩ := Slots.last?_isSome (f := (·.field)) (List.mem_filter.mpr ⟨hi, hspeaks⟩)
  obtain ⟨hmem, hspeaks', hfield'⟩ := mem_of_last_speaks hj
  exact ⟨j, hj, hall j hmem hspeaks' hfield'⟩

theorem RootLacks.rootMatches (h : RootLacks py formats evidence root) :
    rootMatches py formats evidence root = false := by
  obtain ⟨field, hfield, hall⟩ := h
  rw [Bool.eq_false_iff]
  intro hmatch
  obtain ⟨i, hi, hkey⟩ := rootMatches_iff.mp hmatch field hfield
  obtain ⟨hmem, hspeaks, hfield'⟩ := mem_of_last_speaks hi
  exact hall i hmem hspeaks hfield' hkey

theorem RootAgrees.perm (h : RootAgrees py formats evidence root)
    (hcore : ∀ field ∈ coreFields, expectedCore py formats field = expectedCore py formats' field)
    (he : evidence.Perm evidence') : RootAgrees py formats' evidence' root := by
  intro field hfield
  obtain ⟨hsome, hall⟩ := h field hfield
  simp only [← he.mem_iff, ← hcore field hfield]
  exact ⟨hsome, hall⟩

theorem RootLacks.perm (h : RootLacks py formats evidence root)
    (hcore : ∀ field ∈ coreFields, expectedCore py formats field = expectedCore py formats' field)
    (he : evidence.Perm evidence') : RootLacks py formats' evidence' root := by
  obtain ⟨field, hfield, hall⟩ := h
  refine ⟨field, hfield, ?_⟩
  simp only [← he.mem_iff, ← hcore field hfield]
  exact hall

/-- Settled roots answer the last comparison in every order alike. -/
theorem RootsSettled.externalCoreMatches_perm (h : RootsSettled py formats evidence)
    (hc : Comparable py formats evidence target) (hf : formats.Perm formats')
    (he : evidence.Perm evidence') : externalCoreMatches py formats evidence target =
      externalCoreMatches py formats' evidence' target := by
  have hcore : ∀ field ∈ coreFields,
      expectedCore py formats field = expectedCore py formats' field :=
    fun _ => expectedCore_perm hc.complete hc.agree hf
  rcases h target hc with ⟨root, hroot, hagrees⟩ | hlacks
  · have hleft : externalCoreMatches py formats evidence target = true :=
      externalCoreMatches_iff.mpr ⟨root, hroot, hagrees.rootMatches⟩
    have hright : externalCoreMatches py formats' evidence' target = true :=
      externalCoreMatches_iff.mpr ⟨root, (mem_exactRoots_perm he).mp hroot,
        (hagrees.perm hcore he).rootMatches⟩
    rw [hleft, hright]
  · have hleft : externalCoreMatches py formats evidence target = false := by
      rw [Bool.eq_false_iff, Ne, externalCoreMatches_iff]
      rintro ⟨root, hroot, hmatch⟩
      rw [(hlacks root hroot).rootMatches] at hmatch
      cases hmatch
    have hright : externalCoreMatches py formats' evidence' target = false := by
      rw [Bool.eq_false_iff, Ne, externalCoreMatches_iff]
      rintro ⟨root, hroot, hmatch⟩
      have hlack := hlacks root ((mem_exactRoots_perm he).mpr hroot)
      rw [(hlack.perm hcore he).rootMatches] at hmatch
      cases hmatch
    rw [hleft, hright]

/-! ### Two orders -/

variable (py formats) in
/-- The item has another key than the formats. -/
def SourceEvidence.dissents (i : SourceEvidence) : Bool :=
  valueKey py i.field i.value ≠ expectedCore py formats i.field

variable (py formats evidence) in
/-- The evidence with the dissenting items at the end. -/
def dissentLast : List SourceEvidence :=
  evidence.filter (fun i => !i.dissents py formats) ++ evidence.filter (·.dissents py formats)

variable (py formats evidence) in
/-- The evidence with the dissenting items in front. -/
def dissentFirst : List SourceEvidence :=
  evidence.filter (·.dissents py formats) ++ evidence.filter fun i => !i.dissents py formats

theorem dissentFirst_perm : evidence.Perm (dissentFirst py formats evidence) :=
  (List.filter_append_perm _ _).symm

theorem dissentLast_perm : evidence.Perm (dissentLast py formats evidence) :=
  dissentFirst_perm.trans List.perm_append_comm

/-- The last item of a list in two parts, when the second part has one. -/
theorem last?_of_mem_right {l l' : List SourceEvidence} {i : SourceEvidence} (hi : i ∈ l')
    (hspeaks : i.speaksFor root = true) : ∃ j ∈ l',
      Slots.last? (·.field) i.field ((l ++ l').filter (·.speaksFor root)) = some j := by
  obtain ⟨j, hj⟩ := Slots.last?_isSome (f := (·.field)) (List.mem_filter.mpr ⟨hi, hspeaks⟩)
  refine ⟨j, (mem_of_last_speaks hj).1, ?_⟩
  rw [List.filter_append, Slots.last?_append, hj, Option.some_or]

/-- With dissenting items at the end, only a root that agrees matches. -/
theorem rootAgrees_of_dissentLast
    (h : rootMatches py formats (dissentLast py formats evidence) root = true) :
    RootAgrees py formats evidence root := by
  rw [rootMatches_iff] at h
  intro field hfield
  obtain ⟨j, hj, hkey⟩ := h field hfield
  obtain ⟨hmem, hspeaks, hjf⟩ := mem_of_last_speaks hj
  refine ⟨⟨j, dissentLast_perm.mem_iff.mpr hmem, hspeaks, hjf⟩, fun i hi hispeaks hif => ?_⟩
  by_contra hne
  have hdissents : i.dissents py formats = true := by
    rw [SourceEvidence.dissents, hif]
    rw [hif] at hne
    simpa using hne
  obtain ⟨k, hk, hlast⟩ := last?_of_mem_right (l := evidence.filter fun i => !i.dissents py formats)
    (List.mem_filter.mpr ⟨hi, hdissents⟩) hispeaks
  rw [hif] at hlast
  have hsame : j = k := Option.some.inj (hj.symm.trans hlast)
  have hkdissents := (List.mem_filter.mp hk).2
  rw [SourceEvidence.dissents, decide_eq_true_eq, ← hsame, hjf] at hkdissents
  rw [hjf] at hkey
  exact hkdissents hkey

/-- With dissenting items in front, every root that lacks no field matches. -/
theorem rootMatches_dissentFirst (h : ¬ RootLacks py formats evidence root) :
    rootMatches py formats (dissentFirst py formats evidence) root = true := by
  rw [rootMatches_iff]
  intro field hfield
  have hsome : ∃ i ∈ evidence, i.speaksFor root = true ∧ i.field = field ∧
      valueKey py i.field i.value = expectedCore py formats field := by
    by_contra hnone
    refine h ⟨field, hfield, fun i hi hspeaks hif hkey => hnone ⟨i, hi, hspeaks, hif, hkey⟩⟩
  obtain ⟨i, hi, hspeaks, rfl, hkey⟩ := hsome
  have hconsents : (!i.dissents py formats) = true := by
    simpa [SourceEvidence.dissents] using hkey
  obtain ⟨j, hj, hlast⟩ := last?_of_mem_right (l := evidence.filter (·.dissents py formats))
    (List.mem_filter (p := fun i => !i.dissents py formats) |>.mpr ⟨hi, hconsents⟩) hspeaks
  have hjconsents := (List.mem_filter.mp hj).2
  refine ⟨j, hlast, ?_⟩
  rw [← (mem_of_last_speaks hlast).2.2]
  simpa [SourceEvidence.dissents] using hjconsents

/-! ### Typed values -/

/-- A value that `CanonicalPatch` reads as a value of the field. -/
structure TypedValue (py : Runtime) (field : String) (v : Json) : Prop where
  read : ∃ w, readField py field v = some (some w)
  /-- A dictionary has no key twice. -/
  dict : ∀ kvs, v = .obj kvs → (Assoc.keys kvs).Nodup

/-- Every authoritative value has its `CanonicalPatch` type. -/
def TypedValues (py : Runtime) (evidence : List SourceEvidence) : Prop :=
  ∀ i ∈ evidence, i.authoritative = true → i.field ∈ allowedPatchFields →
    TypedValue py i.field i.value

theorem valueKey_coerced (hfield : field ∈ coercedFields) (v : Json) :
    valueKey py field v = dumps py v := by
  have hother : field ∉ ["title", "publisher", "series", "edition_statement"] ∧
      field ≠ "authors" ∧ field ≠ "languages" ∧ field ≠ "identifiers" := by
    revert field
    decide
  obtain ⟨htext, hauthors, hlangs, hids⟩ := hother
  cases v with
  | str s => simp only [valueKey, if_neg htext, if_neg hauthors, if_neg hlangs]
  | arr xs => simp only [valueKey, if_neg hauthors, if_neg hlangs]
  | obj kvs => simp only [valueKey, if_neg hids]
  | _ => rfl

/-- The string under a key. -/
def strAt (key : String) (kvs : Dict) : Option String :=
  match Assoc.get? key kvs with
  | some (.str s) => some s
  | _ => none

theorem readCover_obj (kvs : Dict) : readCover py (.obj kvs) =
    if (Assoc.keys kvs).any fun k =>
        decide (k ∉ ["artifact_path", "artifact_sha256", "manifestation_isbn"]) then none
    else (strAt "artifact_path" kvs).bind fun path => (strAt "artifact_sha256" kvs).bind fun sha =>
      (strAt "manifestation_isbn" kvs).bind fun isbn => (validateIsbn isbn).bind fun canonical =>
        if path = "" ∨ isSha256 (py.lower sha) = false then none
        else some (some ⟨path, py.lower sha, canonical⟩) := by
  rw [readCover]
  split
  · rfl
  simp only [strAt]
  cases hp : Assoc.get? "artifact_path" kvs with
  | none => rfl
  | some p =>
    cases p with
    | str path =>
      cases hs : Assoc.get? "artifact_sha256" kvs with
      | none => rfl
      | some s =>
        cases s with
        | str sha =>
          cases hi : Assoc.get? "manifestation_isbn" kvs with
          | none => rfl
          | some i =>
            cases i with
            | str isbn =>
              show ((validateIsbn isbn).bind _ : Option _) = (validateIsbn isbn).bind _
              congr 1
            | _ => rfl
        | _ => rfl
    | _ => rfl

theorem strAt_eq_of_canon {kvs kvs' : Dict} (hn : (Assoc.keys kvs).Nodup)
    (h : Json.canon (.obj kvs) = Json.canon (.obj kvs')) (key : String) :
    strAt key kvs = strAt key kvs' := by
  have hget := Json.get?_of_canon_eq hn h key
  rw [strAt, strAt]
  cases hv : Assoc.get? key kvs with
  | none =>
    rw [hv, Option.map_none, eq_comm, Option.map_eq_none_iff] at hget
    rw [hget]
  | some v =>
    cases hv' : Assoc.get? key kvs' with
    | none => simp [hv, hv'] at hget
    | some v' =>
      rw [hv, hv', Option.map_some, Option.map_some, Option.some.injEq] at hget
      cases v <;> cases v' <;> simp_all [Json.canon]

theorem readCover_eq_of_canon {kvs kvs' : Dict} (hn : (Assoc.keys kvs).Nodup)
    (hcanon : Json.canon (.obj kvs) = Json.canon (.obj kvs')) :
    readCover py (.obj kvs) = readCover py (.obj kvs') := by
  have hkeys : ∀ k, k ∈ Assoc.keys kvs ↔ k ∈ Assoc.keys kvs' := by
    intro k
    have hget := Json.get?_of_canon_eq hn hcanon k
    have hnone := congrArg Option.isNone hget
    rw [Option.isNone_map, Option.isNone_map, Bool.eq_iff_iff, Option.isNone_iff_eq_none,
      Option.isNone_iff_eq_none, Assoc.get?_eq_none_iff, Assoc.get?_eq_none_iff, not_iff_not]
      at hnone
    exact hnone
  have hany : ∀ p : String → Bool, (Assoc.keys kvs).any p = (Assoc.keys kvs').any p := by
    intro p
    rw [Bool.eq_iff_iff, List.any_eq_true, List.any_eq_true]
    simp only [hkeys]
  rw [readCover_obj, readCover_obj, hany, strAt_eq_of_canon hn hcanon, strAt_eq_of_canon hn hcanon,
    strAt_eq_of_canon hn hcanon]

/-- Series numbers and covers with one comparison key are read alike. -/
theorem readField_eq_of_key (hft : FloatText py) (hfield : field ∈ coercedFields) {v v' : Json}
    (h : TypedValue py field v) (h' : TypedValue py field v')
    (hkey : valueKey py field v = valueKey py field v') :
    readField py field v = readField py field v' := by
  rw [valueKey_coerced hfield, valueKey_coerced hfield] at hkey
  have hcanon := dumps_inj hft hkey
  obtain ⟨w, hw⟩ := h.read
  obtain ⟨w', hw'⟩ := h'.read
  simp only [coercedFields, List.mem_cons, List.not_mem_nil, or_false] at hfield
  rcases hfield with rfl | rfl
  · have hscalar : ∀ {v w : Json}, readField py "series_index" v = some (some w) →
        v.canon = v := by
      intro v w hv
      cases v with
      | arr xs => simp [readField, readOptFloat, Json.num?] at hv
      | obj kvs => simp [readField, readOptFloat, Json.num?] at hv
      | _ => rfl
    rw [hscalar hw, hscalar hw'] at hcanon
    rw [hcanon]
  · have hobj : ∀ {v w : Json}, readField py "cover" v = some (some w) → ∃ kvs, v = .obj kvs := by
      intro v w hv
      cases v with
      | obj kvs => exact ⟨kvs, rfl⟩
      | _ => simp [readField, readCover] at hv
    obtain ⟨kvs, rfl⟩ := hobj hw
    obtain ⟨kvs', rfl⟩ := hobj hw'
    have hcover : ∀ v, readField py "cover" v = (readCover py v).map (·.map CoverPatch.toJson) :=
      fun v => by simp [readField]
    rw [hcover, hcover, readCover_eq_of_canon (h.dict kvs rfl) hcanon]

/-! ### The patch -/

theorem eligible_perm (he : evidence.Perm evidence') :
    (eligible evidence target field).Perm (eligible evidence' target field) := he.filter _

/-- In another order there is a consensus too, on a value with the same key. -/
theorem Consensus.perm {value : Json} (h : Consensus py evidence target field value)
    (he : evidence.Perm evidence') : ∃ value', Consensus py evidence' target field value' ∧
      valueKey py field value' = valueKey py field value := by
  have helig : (eligible evidence target field).Perm (eligible evidence' target field) :=
    eligible_perm he
  cases hhead : (eligible evidence' target field).head? with
  | none =>
    rw [List.head?_eq_none_iff] at hhead
    obtain ⟨i, hi, -⟩ := h.exists_first
    rw [hhead] at helig
    rw [helig.eq_nil] at hi
    cases hi
  | some i =>
    have hi : i ∈ eligible evidence target field := helig.mem_iff.mpr (List.mem_of_head? hhead)
    have hkey := h.agree i hi
    refine ⟨i.value, ⟨by rw [hhead, Option.map_some], fun j hj => ?_, ?_, ?_⟩, hkey⟩
    · rw [hkey]
      exact h.agree j (helig.mem_iff.mpr hj)
    · have hroots : (distinct ((eligible evidence target field).map (·.effectiveRoot))).Perm
          (distinct ((eligible evidence' target field).map (·.effectiveRoot))) :=
        (helig.map _).dedup
      rw [← hroots.length_eq]
      exact h.roots
    · obtain ⟨j, hj, hpref⟩ := h.preferred
      exact ⟨j, helig.mem_iff.mp hj, hpref⟩

theorem Consensus.typed {value : Json} (h : Consensus py evidence target field value)
    (ht : TypedValues py evidence) (hallowed : field ∈ allowedPatchFields) :
    TypedValue py field value := by
  obtain ⟨i, hi, rfl⟩ := h.exists_first
  rw [eligible, List.mem_filter] at hi
  have helig := hi.2
  simp only [SourceEvidence.eligibleFor, Bool.and_eq_true, decide_eq_true_eq] at helig
  obtain ⟨⟨⟨rfl, hauth⟩, -⟩, -⟩ := helig
  exact ht i hi.1 hauth hallowed

theorem TypedValue.exists_obj {v : Json} (h : TypedValue py "identifiers" v) :
    ∃ kvs, v = .obj kvs := by
  obtain ⟨w, hw⟩ := h.read
  cases v with
  | obj kvs => exact ⟨kvs, rfl⟩
  | _ => simp [readField, readIdentifiers] at hw

/-- What is asked for a field has its type when the evidence has. -/
theorem TypedValue.read_targetValue (hpy : LowerStable py) (current : Dict) {v : Json}
    (h : TypedValue py field v) :
    ∃ w, readField py field (targetValue py current field v) = some (some w) := by
  by_cases hids : field = "identifiers"
  · subst hids
    obtain ⟨kvs, rfl⟩ := h.exists_obj
    exact ⟨_, readField_targetValue_identifiers hpy kvs⟩
  · rw [targetValue_of_ne hids]
    exact h.read

theorem TypedValues.allReadable (hpy : LowerStable py) (ht : TypedValues py evidence)
    (current : Dict) : AllReadable py evidence current target := by
  intro field hallowed value hc _
  obtain ⟨w, hw⟩ := (hc.typed ht hallowed).read_targetValue hpy current
  rw [hw]
  rfl

/-- Values with one comparison key ask for the same key. -/
theorem valueKey_targetValue_congr (hpy : LowerStable py) (current : Dict) {v v' : Json}
    (h : TypedValue py field v) (h' : TypedValue py field v')
    (hkey : valueKey py field v = valueKey py field v') :
    valueKey py field (targetValue py current field v) =
      valueKey py field (targetValue py current field v') := by
  by_cases hids : field = "identifiers"
  · subst hids
    obtain ⟨kvs, rfl⟩ := h.exists_obj
    obtain ⟨kvs', rfl⟩ := h'.exists_obj
    have hobs := observedIds_normal hpy (.obj kvs)
    have hobs' := observedIds_normal hpy (.obj kvs')
    have hcur := observedIds_normal hpy (current.get "identifiers")
    have hdumps : dumps py (.strDict (observedIds py (.obj kvs))) =
        dumps py (.strDict (observedIds py (.obj kvs'))) := by
      rw [valueKey, valueKey, if_pos rfl, if_pos rfl] at hkey
      exact hkey
    rw [targetValue_identifiers, targetValue_identifiers, valueKey_strDict (hcur.update hobs),
      valueKey_strDict (hcur.update hobs')]
    refine dumps_strDict_congr (hcur.update hobs).nodup (hcur.update hobs').nodup fun k => ?_
    rw [Assoc.get?_update hobs.nodup, Assoc.get?_update hobs'.nodup,
      get?_of_dumps_strDict hobs.nodup hdumps]
  · rw [targetValue_of_ne hids, targetValue_of_ne hids]
    exact hkey

/-- A patched field is patched in every order, with the same key. -/
theorem Patched.perm (hpy : LowerStable py) (hft : FloatText py) {current : Dict} {value w : Json}
    (h : Patched py evidence current target field value w) (ht : TypedValues py evidence)
    (he : evidence.Perm evidence') : ∃ value' w', Patched py evidence' current target field value' w' ∧
      valueKey py field w' = valueKey py field w := by
  have ht' : TypedValues py evidence' := fun i hi => ht i (he.mem_iff.mpr hi)
  obtain ⟨value', hc', hkey⟩ := h.consensus.perm he
  have htyped := h.consensus.typed ht h.allowed
  have htyped' := hc'.typed ht' h.allowed
  have htarget := valueKey_targetValue_congr hpy current htyped' htyped hkey
  obtain ⟨w', hw'⟩ := htyped'.read_targetValue hpy current
  have hp' : Patched py evidence' current target field value' w' :=
    ⟨h.allowed, hc', by rw [htarget]; exact h.changed, hw'⟩
  refine ⟨value', w', hp', ?_⟩
  by_cases hfield : field ∈ coercedFields
  · have hne := ne_identifiers_of_coerced hfield
    have hw := h.read
    rw [targetValue_of_ne hne] at hw hw'
    rw [readField_eq_of_key hft hfield htyped' htyped hkey, hw] at hw'
    rw [Option.some.inj (Option.some.inj hw')]
  · rw [hp'.eq_targetValue hpy hfield, h.eq_targetValue hpy hfield, htarget]

/-! ### The outcome -/

/-- Same tier, identifiers and flags, and the same patched fields with the same keys. -/
structure SameOutcome (py : Runtime) (r r' : ManifestationResolution) : Prop where
  tier : r.tier = r'.tier
  manifestationIds : r.manifestationIds = r'.manifestationIds
  riskFlags : r.riskFlags = r'.riskFlags
  fields : ∀ field, field ∈ Assoc.keys r.autoPatch ↔ field ∈ Assoc.keys r'.autoPatch
  values : ∀ field w w', Assoc.get? field r.autoPatch = some w →
    Assoc.get? field r'.autoPatch = some w' → valueKey py field w = valueKey py field w'

/-- The same outcome in every order of the formats and of the evidence. -/
def OrderIndependent (py : Runtime) (formats : List FormatEvidence)
    (evidence : List SourceEvidence) (current : Dict) : Prop :=
  ∀ formats' evidence', formats.Perm formats' → evidence.Perm evidence' →
    ∃ r r', resolveManifestation py formats evidence current = some r ∧
      resolveManifestation py formats' evidence' current = some r' ∧ SameOutcome py r r'

theorem IsPatch.fields_perm (hpy : LowerStable py) (hft : FloatText py) {current patch patch' : Dict}
    (h : IsPatch py evidence current target patch) (h' : IsPatch py evidence' current target patch')
    (ht : TypedValues py evidence) (he : evidence.Perm evidence')
    (hmem : field ∈ Assoc.keys patch) : field ∈ Assoc.keys patch' := by
  obtain ⟨w, hw⟩ := Assoc.mem_keys_iff.mp hmem
  obtain ⟨value, hp⟩ := (h.get field w).mp hw
  obtain ⟨value', w', hp', -⟩ := hp.perm hpy hft ht he
  exact Assoc.mem_keys_iff.mpr ⟨w', (h'.get field w').mpr ⟨value', hp'⟩⟩

theorem TypedValues.perm (ht : TypedValues py evidence) (he : evidence.Perm evidence') :
    TypedValues py evidence' := fun i hi => ht i (he.mem_iff.mpr hi)

/-- Two orders with one answer of the gates have one outcome. -/
theorem sameOutcome_of_passGates (hpy : LowerStable py) (hft : FloatText py) (current : Dict)
    (ht : TypedValues py evidence) (he : evidence.Perm evidence')
    (hgates : passGates py formats evidence = passGates py formats' evidence') :
    ∃ r r', resolveManifestation py formats evidence current = some r ∧
      resolveManifestation py formats' evidence' current = some r' ∧ SameOutcome py r r' := by
  cases hpass : passGates py formats evidence with
  | error refusal =>
    refine ⟨nonAuthoritativeResolution refusal evidence current,
      nonAuthoritativeResolution refusal evidence' current, by rw [resolveManifestation, hpass],
      by rw [resolveManifestation, ← hgates, hpass], rfl, rfl, rfl, fun field => Iff.rfl,
      fun field w w' hw _ => ?_⟩
    cases hw
  | ok target =>
    have hadm := passGates_eq_ok_iff.mp hpass
    have hadm' := passGates_eq_ok_iff.mp (hgates ▸ hpass)
    obtain ⟨r, hr, htier, hids⟩ := exists_tierA hadm (ht.allReadable hpy current)
    obtain ⟨r', hr', htier', hids'⟩ := exists_tierA hadm' ((ht.perm he).allReadable hpy current)
    refine ⟨r, r', hr, hr', ?_⟩
    rcases resolveManifestation_cases hr with
      ⟨refusal, hgates, -⟩ | ⟨target₁, hgates₁, -, -, hflags, -, -, hpatch⟩
    · rw [hpass] at hgates
      cases hgates
    rcases resolveManifestation_cases hr' with
      ⟨refusal, hgates', -⟩ | ⟨target₂, hgates₂, -, -, hflags', -, -, hpatch'⟩
    · rw [← hgates, hpass] at hgates'
      cases hgates'
    rw [hpass, Except.ok.injEq] at hgates₁
    rw [← hgates, hpass, Except.ok.injEq] at hgates₂
    subst hgates₁ hgates₂
    refine ⟨by rw [htier, htier'], by rw [hids, hids'], by rw [hflags, hflags'], fun field => ?_,
      fun field w w' hw hw' => ?_⟩
    · exact ⟨hpatch.fields_perm hpy hft hpatch' ht he,
        hpatch'.fields_perm hpy hft hpatch (ht.perm he) he.symm⟩
    · obtain ⟨value, hp⟩ := (hpatch.get field w).mp hw
      obtain ⟨value', w'', hp', hkey⟩ := hp.perm hpy hft ht he
      have hsame := (hpatch'.get field w'').mpr ⟨value', hp'⟩
      rw [hw', Option.some.injEq] at hsame
      rw [hsame, hkey]

/-- A resolution does not depend on the order of formats and evidence exactly when the exact roots
are settled. -/
theorem order_independent_iff (py : Runtime) (hpy : LowerStable py) (hft : FloatText py)
    (formats : List FormatEvidence) (evidence : List SourceEvidence) (current : Dict)
    (ht : TypedValues py evidence) :
    OrderIndependent py formats evidence current ↔ RootsSettled py formats evidence := by
  constructor
  · intro h target hc
    by_contra hunsettled
    rw [not_or] at hunsettled
    obtain ⟨hnone, hsome⟩ := hunsettled
    push Not at hsome
    obtain ⟨root, hroot, hlacks⟩ := hsome
    -- one order fails the last comparison, another passes it
    have hlast : evidence.Perm (dissentLast py formats evidence) := dissentLast_perm
    have hfirst : evidence.Perm (dissentFirst py formats evidence) := dissentFirst_perm
    have hfails : externalCoreMatches py formats (dissentLast py formats evidence) target = false := by
      rw [Bool.eq_false_iff, Ne, externalCoreMatches_iff]
      rintro ⟨root', hroot', hmatch⟩
      exact hnone ⟨root', (mem_exactRoots_perm hlast).mpr hroot', rootAgrees_of_dissentLast hmatch⟩
    have hpasses : externalCoreMatches py formats (dissentFirst py formats evidence) target = true :=
      externalCoreMatches_iff.mpr ⟨root, (mem_exactRoots_perm hfirst).mp hroot,
        rootMatches_dissentFirst hlacks⟩
    obtain ⟨r, r₁, hr, hr₁, hsame₁⟩ := h formats _ (List.Perm.refl _) hlast
    obtain ⟨r', r₂, hr', hr₂, hsame₂⟩ := h formats _ (List.Perm.refl _) hfirst
    rw [hr, Option.some.injEq] at hr'
    subst hr'
    have hgates₁ := (hc.perm (List.Perm.refl _) hlast).passGates_eq
    have hgates₂ := (hc.perm (List.Perm.refl _) hfirst).passGates_eq
    rw [hfails, if_neg Bool.false_ne_true] at hgates₁
    rw [hpasses, if_pos rfl] at hgates₂
    have htier₁ : r₁.tier = .tierB := by
      rw [resolveManifestation, hgates₁] at hr₁
      rw [← Option.some.inj hr₁]
      rfl
    have htier₂ : r₂.tier = .tierA := by
      rcases resolveManifestation_cases hr₂ with ⟨refusal, hgates, -⟩ | ⟨t, -, htier, -⟩
      · rw [hgates₂] at hgates
        cases hgates
      · exact htier
    have htier := hsame₁.tier.symm.trans hsame₂.tier
    rw [htier₁, htier₂] at htier
    cases htier
  · intro h formats' evidence' hf he
    exact sameOutcome_of_passGates hpy hft current ht he
      (passGates_perm hf he fun target hc => h.externalCoreMatches_perm hc hf he)

/-- No root is shared between internal and external kinds. -/
def SeparateRoots (evidence : List SourceEvidence) : Prop :=
  ∀ i ∈ evidence, ∀ j ∈ evidence, i.sourceKind ∈ internalPromotionKinds →
    j.sourceKind ∈ externalPromotionKinds → i.effectiveRoot ≠ j.effectiveRoot

instance (evidence : List SourceEvidence) : Decidable (SeparateRoots evidence) :=
  inferInstanceAs (Decidable (∀ i ∈ evidence, ∀ j ∈ evidence, _ → _ → _))

/-- A dictionary without a repeated key, or no dictionary. -/
def isDict : Json → Bool
  | .obj kvs => decide (Assoc.keys kvs).Nodup
  | _ => true

variable (py) in
/-- `TypedValue`, by running the reader. -/
def isTyped (field : String) (v : Json) : Bool := (readField py field v).join.isSome && isDict v

theorem typedValues_of_isTyped (h : ∀ i ∈ evidence, isTyped py i.field i.value = true) :
    TypedValues py evidence := by
  intro i hi _ _
  have htyped := h i hi
  rw [isTyped, Bool.and_eq_true] at htyped
  refine ⟨?_, fun kvs hkvs => ?_⟩
  · obtain ⟨w, hw⟩ := Option.isSome_iff_exists.mp htyped.1
    exact ⟨w, Option.join_eq_some_iff.mp hw⟩
  · have hdict := htyped.2
    rw [hkvs] at hdict
    exact of_decide_eq_true hdict

/-- The example book has one outcome in every order. -/
theorem order_independent_example :
    OrderIndependent .ascii [exampleFormat "EPUB", exampleFormat "PDF"]
      (exampleContent ++ exampleRecord "volume-1") [] := by
  refine (order_independent_iff .ascii lowerStable_ascii floatText_ascii _ _ _
    (typedValues_of_isTyped (by decide +kernel))).mpr fun target hc => .inl ?_
  have htarget : target = ("isbn", "9780306406157") := by
    have hids : formatIds [exampleFormat "EPUB", exampleFormat "PDF"] =
        [("isbn", "9780306406157")] := by
      decide +kernel
    exact (List.singleton_inj.mp (hids.symm.trans hc.ids)).symm
  subst htarget
  have hagrees : RootAgrees .ascii [exampleFormat "EPUB", exampleFormat "PDF"]
      (exampleContent ++ exampleRecord "volume-1") "volume-1" := by
    show ∀ field ∈ coreFields, _ ∧ ∀ i ∈ _, _ → _ → _
    decide +kernel
  exact ⟨"volume-1", by decide +kernel, hagrees⟩

/-- The example book with an authoritative LLM item under the root of the record. -/
def sharedRootEvidence : List SourceEvidence :=
  exampleContent ++ exampleRecord "volume-1" ++
    [exampleItem .llm "volume-1" "title" (.str "Another Book")]

/-- The record matches when the LLM item comes first, and not when it comes last. -/
theorem shared_root_order_dependent : SeparateRoots sharedRootEvidence ∧
    TypedValues .ascii sharedRootEvidence ∧
    ¬ OrderIndependent .ascii [exampleFormat "EPUB"] sharedRootEvidence [] := by
  refine ⟨by decide +kernel, typedValues_of_isTyped (by decide +kernel), fun h => ?_⟩
  have hperm : sharedRootEvidence.Perm (exampleItem .llm "volume-1" "title" (.str "Another Book") ::
      (exampleContent ++ exampleRecord "volume-1")) := List.perm_append_singleton _ _
  obtain ⟨r, r', hr, hr', hsame⟩ := h _ _ (List.Perm.refl _) hperm
  have htier : (resolveManifestation .ascii [exampleFormat "EPUB"] sharedRootEvidence []).map
      (·.tier) = some .tierB := by
    decide +kernel
  have htier' : (resolveManifestation .ascii [exampleFormat "EPUB"]
      (exampleItem .llm "volume-1" "title" (.str "Another Book") ::
        (exampleContent ++ exampleRecord "volume-1")) []).map (·.tier) = some .tierA := by
    decide +kernel
  rw [hr, Option.map_some, Option.some.injEq] at htier
  rw [hr', Option.map_some, Option.some.injEq] at htier'
  have hne := hsame.tier
  rw [htier, htier'] at hne
  cases hne

end Bookwarden
