import Bookwarden.Pipeline.Package
import Bookwarden.Exceptions

/-!
# Reading Calibre back

The writer decides by comparing what `calibredb` reports with a dictionary of expected values:
before a write with the authorized values, after it with the full target, after a rollback with the
record it started from. `matchesPatch` is that comparison, `_matches_patch` of `apply/writer.py`.

The expected values of a patch come from the sealed snapshot, which holds the canonical view of the
record, while the comparison reads the raw record. Where the two representations differ, an
unchanged book is refused and a faithful write is rolled back.

## Main definitions

* `Readback`, `matchesField`, `matchesPatch`
* `currentValueForPatch`, `targetMetadata` — the dictionaries compared with
* `readsCanonically` — the raw record already shows a field in its canonical form
* `Stores` — a live record that holds exactly what a patch writes

## Main results

* `matchesField_canonicalCurrent_iff` — the pre-write test of one field
* `readback_agrees_iff` — the pre-write and the post-write test on records that should pass
-/

namespace Bookwarden

/-- What a path of the library shows. -/
inductive FileView
  | missing
  | unreadable
  | content (sha256 : String)
  deriving DecidableEq, Repr

/-- One answer of `show_metadata`, with the files of the library at that moment. -/
structure Readback where
  record : Dict
  files : String → FileView

/-- `VOLATILE_METADATA_FIELDS`. -/
def volatileMetadataFields : List String := ["last_modified"]

variable (py : Runtime)

/-- `str(value or "")`. -/
def orEmpty (value : Json) : String := (value.orElse (.str "")).toStr py

/-- The edition shown by a record: `str(r.get("#edition") or r.get("edition_statement") or "")`. -/
def shownEdition (record : Dict) : String :=
  orEmpty py ((record.get "#edition").orElse (record.get "edition_statement"))

/-- The body of the loop of `_matches_patch` for one field that is not volatile. -/
def matchesField (rb : Readback) (field : String) (expected : Json) : Except PyError Bool :=
  if field = "edition_statement" then .ok (shownEdition py rb.record = orEmpty py expected)
  else match field, expected with
    | "cover", .obj kvs =>
      match rb.record.get "cover" with
      | .str path =>
        match rb.files path with
        | .missing => .ok false
        | .unreadable => .error ⟨.os, "cover is unreadable"⟩
        | .content sha => .ok (Json.pyEq (.str sha) (Dict.get kvs "artifact_sha256"))
      | _ => .ok false
    | _, _ => .ok (Json.pyEq (rb.record.get field) expected)

/-- `_matches_patch`. -/
def matchesPatch (rb : Readback) : Dict → Except PyError Bool
  | [] => .ok true
  | (field, expected) :: rest =>
    if field ∈ volatileMetadataFields then matchesPatch rb rest
    else match matchesField py rb field expected with
      | .error e => .error e
      | .ok false => .ok false
      | .ok true => matchesPatch rb rest

/-- `_current_value_for_patch`. -/
def currentValueForPatch (current : Dict) (field : String) : Json :=
  if field = "edition_statement" then current.getD "#edition" (current.get "edition_statement")
  else current.get field

/-- `expected_before_metadata`: the snapshot's values of the patched fields. -/
def expectedBefore (current patch : Dict) : Dict :=
  (Assoc.keys patch).map fun field => (field, currentValueForPatch current field)

/-- The record before the write; an edition patch drops both spellings of the edition. -/
def keptMetadata (before patch : Dict) : Dict :=
  if patch.has "edition_statement" then
    Assoc.erase "edition_statement" (Assoc.erase "#edition" before)
  else before

/-- `target`: the record before the write with the patch over it. -/
def targetMetadata (before patch : Dict) : Dict := Assoc.update (keptMetadata before patch) patch

variable {py}

/-! ### The comparison as a conjunction -/

/-- The comparison accepts when every field that is not volatile does. -/
theorem matchesPatch_eq_ok_true_iff {rb : Readback} {patch : Dict} :
    matchesPatch py rb patch = .ok true ↔
      ∀ p ∈ patch, p.1 ∉ volatileMetadataFields → matchesField py rb p.1 p.2 = .ok true := by
  induction patch with
  | nil => simp [matchesPatch]
  | cons p rest ih =>
    obtain ⟨field, expected⟩ := p
    by_cases hv : field ∈ volatileMetadataFields
    · simp [matchesPatch, hv, ih]
    · rw [matchesPatch, if_neg hv]
      cases hm : matchesField py rb field expected with
      | error e => simp [hm, hv]
      | ok b => cases b <;> simp [hm, hv, ih]

/-! ### Fields shown in canonical form -/

/-- An item that `_normalize_authors` or `_normalize_languages` leaves as it is. -/
def keepsItem (normalize : Json → Option String) (item : Json) : Bool :=
  (normalize item).map .str = some item

/-- A list whose items are all kept. -/
def keepsItems (normalize : Json → Option String) : Json → Bool
  | .arr xs => xs.all (keepsItem normalize)
  | _ => false

/-- A dictionary. -/
def isObj : Json → Bool
  | .obj _ => true
  | _ => false

variable (py) in
/-- The raw record shows the field as the canonical snapshot does. -/
def readsCanonically (raw : Dict) (field : String) : Bool :=
  match field with
  | "authors" => keepsItems (normalizeAuthor py) (raw.get "authors")
  | "languages" => keepsItems (normalizeLanguage py) (raw.get "languages")
  | "identifiers" => isObj (raw.get "identifiers")
  | "pubdate" => raw.has "pubdate" || raw.get "published_date" = .null
  | "edition_statement" =>
    !raw.has "#edition" || (raw.get "#edition").truthy || orEmpty py (raw.get "edition_statement") = ""
  | "cover" => !isObj (raw.get "cover")
  | _ => true

/-- Dropping and rewriting items gives back the list exactly when every item is kept. -/
theorem filterMap_eq_iff_keeps {normalize : Json → Option String} {xs : List Json} :
    Json.arr xs = .strs (xs.filterMap normalize) ↔ xs.all (keepsItem normalize) = true := by
  simp only [Json.strs, Json.arr.injEq, List.all_eq_true, keepsItem, decide_eq_true_eq]
  constructor
  · intro h
    induction xs with
    | nil => simp
    | cons x xs ih =>
      cases hx : normalize x with
      | none =>
        -- the list cannot grow back
        have hlen := congrArg List.length h
        have hle := List.length_filterMap_le normalize xs
        simp only [List.filterMap_cons, hx, List.length_cons, List.length_map] at hlen
        omega
      | some s =>
        simp only [List.filterMap_cons, hx, List.map_cons, List.cons.injEq] at h
        intro y hy
        rcases List.mem_cons.mp hy with rfl | hy
        · rw [hx, h.1, Option.map_some]
        · exact ih h.2 y hy
  · intro h
    induction xs with
    | nil => rfl
    | cons x xs ih =>
      have hx := h x (List.mem_cons_self ..)
      obtain ⟨s, hs, hxs⟩ := Option.map_eq_some_iff.mp hx
      rw [List.filterMap_cons, hs, List.map_cons, hxs]
      exact congrArg _ (ih fun y hy => h y (List.mem_cons_of_mem _ hy))

variable (py) in
@[simp] theorem orEmpty_of_not_truthy {v : Json} (h : v.truthy = false) : orEmpty py v = "" := by
  rw [orEmpty, Json.orElse, h]
  rfl

/-- The comparison of a list field, read back and written by the same normalization of items. -/
theorem pyEq_strs_iff_keeps {normalize : Json → Option String} {raw v : Json} {ys : List String}
    (hv : Json.pyEq (.strs ys) v = true) (hys : ∀ xs, raw = .arr xs → ys = xs.filterMap normalize) :
    Json.pyEq raw v = true ↔ keepsItems normalize raw = true := by
  rw [Json.pyEq_strs_left_iff.mp hv, Json.pyEq_strs_iff]
  cases raw with
  | arr xs => rw [hys xs rfl, keepsItems, filterMap_eq_iff_keeps]
  | _ => simp [Json.strs, keepsItems]

theorem pyEq_identifiers_iff {raw v : Json}
    (hv : Json.pyEq (match raw with
      | .obj kvs => .obj kvs
      | _ => .obj []) v = true) :
    Json.pyEq raw v = true ↔ isObj raw = true := by
  cases raw with
  | obj kvs => simpa [isObj] using hv
  | _ =>
    -- the canonical view is the empty map, which no other value equals
    obtain ⟨kvs, rfl⟩ := Json.exists_obj_of_obj_pyEq hv
    refine ⟨fun h => ?_, fun h => by cases h⟩
    obtain ⟨kvs', h'⟩ := Json.exists_obj_of_pyEq_obj h
    cases h'

theorem pyEq_pubdate_iff {raw : Dict} {v : Json}
    (hv : Json.pyEq (raw.getD "pubdate" (raw.get "published_date")) v = true) :
    Json.pyEq (raw.get "pubdate") v = true ↔
      (raw.has "pubdate" || decide (raw.get "published_date" = .null)) = true := by
  cases hget : Assoc.get? "pubdate" raw with
  | some w =>
    simp only [Dict.getD, Dict.get, Dict.has, hget, Option.getD_some] at hv ⊢
    simpa using hv
  | none =>
    simp only [Dict.getD, hget, Option.getD_none] at hv
    have habsent : raw.get "pubdate" = .null := by rw [Dict.get, hget]; rfl
    rw [habsent, Json.pyEq_null_left_iff, Dict.has, hget]
    constructor
    · rintro rfl
      simpa using Json.pyEq_null_right_iff.mp hv
    · intro h
      have hnull : raw.get "published_date" = .null := by simpa using h
      rw [hnull] at hv
      exact Json.pyEq_null_left_iff.mp hv

theorem shownEdition_iff (raw : Dict) :
    shownEdition py raw = orEmpty py (raw.getD "#edition" (raw.get "edition_statement")) ↔
      (!raw.has "#edition" || (raw.get "#edition").truthy
        || decide (orEmpty py (raw.get "edition_statement") = "")) = true := by
  cases hget : Assoc.get? "#edition" raw with
  | none =>
    have habsent : raw.get "#edition" = .null := by rw [Dict.get, hget]; rfl
    rw [shownEdition, habsent, Dict.getD, Dict.has, hget]
    simp [Json.orElse, Json.truthy]
  | some w =>
    have hshown : raw.get "#edition" = w := by rw [Dict.get, hget]; rfl
    rw [shownEdition, hshown, Dict.getD, Dict.has, hget]
    cases hw : w.truthy with
    | true => simp [Json.orElse, hw]
    | false => simp [Json.orElse, hw]

/-- **One field.** The comparison of a field with a value the canonical view shows accepts exactly
when the raw record already shows the field in that form. -/
theorem matchesField_iff_readsCanonically {rb : Readback} {field : String} {v : Json}
    (hf : field ∈ allowedPatchFields)
    (hv : Json.pyEq ((canonicalCurrent py rb.record).get field) v = true)
    (hexact : field ∈ ["edition_statement", "cover"] →
      (canonicalCurrent py rb.record).get field = v) :
    matchesField py rb field v = .ok true ↔ readsCanonically py rb.record field = true := by
  simp only [allowedPatchFields, List.mem_cons, List.not_mem_nil, or_false] at hf
  rcases hf with rfl | rfl | rfl | rfl | rfl | rfl | rfl | rfl | rfl | rfl
  case inl | inr.inr.inr.inr.inl | inr.inr.inr.inr.inr.inr.inl | inr.inr.inr.inr.inr.inr.inr.inl =>
    -- a field copied from the raw record
    simp only [canonicalCurrent_title, canonicalCurrent_publisher, canonicalCurrent_series,
      canonicalCurrent_series_index] at hv
    simp [matchesField, readsCanonically, hv]
  · rw [canonicalCurrent_authors] at hv
    have h : Json.pyEq (rb.record.get "authors") v = true ↔
        keepsItems (normalizeAuthor py) (rb.record.get "authors") = true :=
      pyEq_strs_iff_keeps hv fun xs hxs => by rw [hxs, normalizeAuthors]
    simpa [matchesField, readsCanonically] using h
  · rw [canonicalCurrent_identifiers] at hv
    simpa [matchesField, readsCanonically] using pyEq_identifiers_iff hv
  · rw [canonicalCurrent_languages] at hv
    have h : Json.pyEq (rb.record.get "languages") v = true ↔
        keepsItems (normalizeLanguage py) (rb.record.get "languages") = true :=
      pyEq_strs_iff_keeps hv fun xs hxs => by
        rw [Dict.getD_of_get hxs (by simp), normalizeLanguages]
    simpa [matchesField, readsCanonically] using h
  · rw [canonicalCurrent_pubdate] at hv
    simpa [matchesField, readsCanonically] using pyEq_pubdate_iff hv
  · rw [← hexact (by simp), canonicalCurrent_edition_statement]
    simpa [matchesField, readsCanonically] using shownEdition_iff rb.record
  · rw [← hexact (by simp), canonicalCurrent_cover]
    cases hc : rb.record.get "cover" <;> simp [matchesField, readsCanonically, isObj, hc]

/-! ### Faithful writes -/

variable (py) in
/-- The live record holds exactly what the patch writes: each written field shows its value in the
canonical view, a written cover is a file with the authorized bytes, and every other field is as
before. -/
structure Stores (before : Dict) (p : CanonicalPatch) (rb : Readback) : Prop where
  written : ∀ field v, Assoc.get? field p.dump = some v → field ≠ "cover" →
    Json.pyEq ((canonicalCurrent py rb.record).get field) v = true
  cover : ∀ c, p.cover = some c →
    ∃ path, rb.record.get "cover" = .str path ∧ rb.files path = .content c.artifactSha256
  kept : ∀ field v, Assoc.get? field (keptMetadata before p.dump) = some v →
    field ∉ Assoc.keys p.dump → field ∉ volatileMetadataFields →
    rb.record.get field = v

variable (py) in
/-- An unwritten field that the comparison reads as it stands: no custom edition hides an
`edition_statement`, and a cover is not a dictionary. -/
def readsPlainly (record : Dict) (field : String) (v : Json) : Bool :=
  match field with
  | "edition_statement" =>
    !(record.get "#edition").truthy || orEmpty py (record.get "#edition") = orEmpty py v
  | "cover" => !isObj v
  | _ => true

theorem readsPlainly_of_ne {record : Dict} {field : String} {v : Json}
    (he : field ≠ "edition_statement") (hc : field ≠ "cover") :
    readsPlainly py record field v = true := by
  rw [readsPlainly.eq_def]
  split
  · exact absurd rfl he
  · exact absurd rfl hc
  · rfl

theorem stable_of_allowed {field : String} (h : field ∈ allowedPatchFields) :
    field ∉ volatileMetadataFields := by
  intro hvol
  rw [List.mem_singleton.mp hvol] at h
  exact absurd h (by decide)

theorem get?_targetMetadata (before : Dict) (p : CanonicalPatch) (field : String) :
    Assoc.get? field (targetMetadata before p.dump)
      = (Assoc.get? field p.dump).or (Assoc.get? field (keptMetadata before p.dump)) :=
  Assoc.get?_update p.nodup_keys_dump field _

theorem nodup_keys_targetMetadata {before : Dict} (hb : (Assoc.keys before).Nodup) (patch : Dict) :
    (Assoc.keys (targetMetadata before patch)).Nodup := by
  refine Assoc.nodup_keys_update ?_ patch
  rw [keptMetadata]
  split
  · exact Assoc.nodup_keys_erase (Assoc.nodup_keys_erase hb _) _
  · exact hb

theorem matchesField_edition (rb : Readback) (v : Json) :
    matchesField py rb "edition_statement" v
      = .ok (decide (shownEdition py rb.record = orEmpty py v)) := rfl

theorem matchesField_kept_iff {rb : Readback} {field : String} {v : Json}
    (h : rb.record.get field = v) :
    matchesField py rb field v = .ok true ↔ readsPlainly py rb.record field v = true := by
  by_cases he : field = "edition_statement"
  · subst he
    have hr : readsPlainly py rb.record "edition_statement" v
        = (!(rb.record.get "#edition").truthy
          || decide (orEmpty py (rb.record.get "#edition") = orEmpty py v)) := rfl
    rw [matchesField_edition, shownEdition, h, hr]
    cases ht : (rb.record.get "#edition").truthy with
    | true => simp [Json.orElse, ht]
    | false => simp [Json.orElse, ht]
  · by_cases hc : field = "cover"
    · subst hc
      cases v <;> simp [matchesField, readsPlainly, isObj, h]
    · have hm : matchesField py rb field v = .ok (Json.pyEq (rb.record.get field) v) := by
        rw [matchesField, if_neg he]
        exact fun _ hcover => absurd hcover hc
      simp only [hm, h, readsPlainly_of_ne he hc, Json.pyEq_refl]

theorem matchesField_cover {rb : Readback} {c : CoverPatch} {path : String}
    (hpath : rb.record.get "cover" = .str path) (hfile : rb.files path = .content c.artifactSha256) :
    matchesField py rb "cover" c.toJson = .ok true := by
  have hsha : Dict.get [("artifact_path", .str c.artifactPath),
      ("artifact_sha256", .str c.artifactSha256), ("manifestation_isbn", .str c.manifestationIsbn)]
      "artifact_sha256" = .str c.artifactSha256 := rfl
  simp [matchesField, CoverPatch.toJson, hpath, hfile, hsha]

/-- A written field is accepted exactly when the live record shows it in canonical form. -/
theorem matchesField_written_iff {before : Dict} {p : CanonicalPatch} {rb : Readback}
    (h : Stores py before p rb) {field : String} {v : Json} (hv : Assoc.get? field p.dump = some v) :
    matchesField py rb field v = .ok true ↔
      (field ≠ "cover" → readsCanonically py rb.record field = true) := by
  by_cases hc : field = "cover"
  · subst hc
    rw [p.get?_dump_cover] at hv
    obtain ⟨c, hcover, rfl⟩ := Option.map_eq_some_iff.mp hv
    obtain ⟨path, hpath, hfile⟩ := h.cover c hcover
    simp [matchesField_cover hpath hfile]
  · have hshown := h.written field v hv hc
    have hmem : field ∈ Assoc.keys p.dump := Assoc.mem_keys_iff.mpr ⟨v, hv⟩
    rw [matchesField_iff_readsCanonically (p.keys_dump_sublist.subset hmem) hshown ?_]
    · exact ⟨fun hr _ => hr, fun hr => hr hc⟩
    · intro hexact
      have he : field = "edition_statement" := by simpa [hc] using hexact
      subst he
      rw [p.get?_dump_editionStatement] at hv
      obtain ⟨s, -, rfl⟩ := Option.map_eq_some_iff.mp hv
      exact Json.pyEq_str_iff.mp hshown

/-- **Readback agreement.** The pre-write test accepts a field of an unchanged record exactly when
the raw record already shows it in canonical form, and the post-write test accepts a record that
holds a patch exactly when it shows each written field in canonical form and each unwritten one
plainly. -/
theorem readback_agrees_iff (py : Runtime) :
    (∀ (raw : Dict) (files : String → FileView), ∀ field ∈ allowedPatchFields,
      (matchesPatch py ⟨raw, files⟩
          [(field, currentValueForPatch (canonicalCurrent py raw) field)] = .ok true ↔
        readsCanonically py raw field = true)) ∧
    (∀ (before : Dict) (p : CanonicalPatch) (rb : Readback), (Assoc.keys before).Nodup →
      Stores py before p rb →
      (matchesPatch py rb (targetMetadata before p.dump) = .ok true ↔
        (∀ field ∈ Assoc.keys p.dump, field ≠ "cover" →
          readsCanonically py rb.record field = true) ∧
        (∀ field v, Assoc.get? field (keptMetadata before p.dump) = some v →
          field ∉ Assoc.keys p.dump → field ∉ volatileMetadataFields →
          readsPlainly py rb.record field v = true))) := by
  refine ⟨fun raw files field hf => ?_, fun before p rb hb h => ?_⟩
  · have hc : currentValueForPatch (canonicalCurrent py raw) field
        = (canonicalCurrent py raw).get field := by
      rw [currentValueForPatch]
      split
      · rename_i he
        rw [he]
        rfl
      · rfl
    have hstable := stable_of_allowed hf
    rw [matchesPatch_eq_ok_true_iff, List.forall_mem_singleton, hc]
    simp only [hstable, not_false_eq_true, forall_const]
    let rb : Readback := ⟨raw, files⟩
    show matchesField py rb field ((canonicalCurrent py rb.record).get field) = .ok true ↔ _
    exact matchesField_iff_readsCanonically hf (Json.pyEq_refl _) fun _ => rfl
  · rw [matchesPatch_eq_ok_true_iff, Assoc.forall_mem_iff (nodup_keys_targetMetadata hb _)
      (P := fun field v => field ∉ volatileMetadataFields →
        matchesField py rb field v = .ok true)]
    simp only [get?_targetMetadata]
    constructor
    · intro hall
      refine ⟨fun field hmem hne => ?_, fun field v hv hno hstable => ?_⟩
      · obtain ⟨v, hv⟩ := Assoc.mem_keys_iff.mp hmem
        have hm := hall field v (by rw [hv]; rfl)
          (stable_of_allowed (p.keys_dump_sublist.subset hmem))
        exact (matchesField_written_iff h hv).mp hm hne
      · have hm := hall field v (by rw [Assoc.get?_eq_none_iff.mpr hno, hv]; rfl) hstable
        exact (matchesField_kept_iff (h.kept field v hv hno hstable)).mp hm
    · rintro ⟨hwritten, hkept⟩ field v hv hstable
      cases hp : Assoc.get? field p.dump with
      | some w =>
        rw [hp] at hv
        cases hv
        have hmem := Assoc.mem_keys_iff.mpr ⟨_, hp⟩
        exact (matchesField_written_iff h hp).mpr fun hne => hwritten field hmem hne
      | none =>
        rw [hp] at hv
        have hno := Assoc.get?_eq_none_iff.mp hp
        exact (matchesField_kept_iff (h.kept field v hv hno hstable)).mpr
          (hkept field v hv hno hstable)

/-- A record with one author, a title and a format path; the author list in either form. -/
def exampleRaw (authors : Json) : Dict :=
  [("id", .int 1), ("title", .str "Exact Book"), ("authors", authors), ("formats", .strs ["/l/a.epub"])]

/-- The patch that corrects the author. -/
def examplePatch : CanonicalPatch := { authors := some ["Ada Author"] }

/-- A live record with the corrected author satisfies `Stores`, as a list and as a joined string. -/
theorem stores_example {authors : Json} (h : authors ∈ [.strs ["Ada Author"], .str "Ada Author"])
    (files : String → FileView) :
    Stores .ascii (exampleRaw (.str "A. Author")) examplePatch ⟨exampleRaw authors, files⟩ where
  written field v hv _ := by
    have hmem : (field, v) ∈ [("authors", Json.strs ["Ada Author"])] := Assoc.mem_of_get? hv
    cases List.mem_singleton.mp hmem
    simp only [List.mem_cons, List.not_mem_nil, or_false] at h
    rcases h with rfl | rfl
    · exact Json.pyEq_strs_iff.mpr rfl
    · exact Json.pyEq_strs_iff.mpr rfl
  cover c hc := by cases hc
  kept field v hv hno _ := by
    have hmem : (field, v) ∈ exampleRaw (.str "A. Author") := Assoc.mem_of_get? hv
    have hne : field ≠ "authors" := fun he => hno (by rw [he]; decide)
    simp only [exampleRaw, List.mem_cons, Prod.mk.injEq, List.not_mem_nil, or_false] at hmem
    rcases hmem with ⟨rfl, rfl⟩ | ⟨rfl, rfl⟩ | ⟨rfl, rfl⟩ | ⟨rfl, rfl⟩
    · rfl
    · rfl
    · exact absurd rfl hne
    · rfl

/-- A corrected author list is accepted. -/
theorem readback_agrees_iff_list :
    matchesPatch .ascii ⟨exampleRaw (.strs ["Ada Author"]), fun _ => .missing⟩
      (targetMetadata (exampleRaw (.str "A. Author")) examplePatch.dump) = .ok true := by
  refine ((readback_agrees_iff .ascii).2 (exampleRaw (.str "A. Author")) examplePatch
    ⟨exampleRaw (.strs ["Ada Author"]), fun _ => .missing⟩ (by decide)
    (stores_example (by simp) _)).mpr ⟨by decide, ?_⟩
  intro field v hv _ _
  have hmem : field ∈ Assoc.keys (exampleRaw (.str "A. Author")) := Assoc.mem_keys_iff.mpr ⟨v, hv⟩
  refine readsPlainly_of_ne ?_ ?_
  · rintro rfl
    exact absurd hmem (by decide)
  · rintro rfl
    exact absurd hmem (by decide)

/-- **Refused and rolled back.** Where `calibredb` reports the authors as a joined string, an
unchanged record fails the pre-write test, and a record that stores the written author fails the
post-write test. -/
theorem joined_authors_refused :
    matchesPatch .ascii ⟨exampleRaw (.str "A. Author"), fun _ => .missing⟩
        [("authors", currentValueForPatch
          (canonicalCurrent .ascii (exampleRaw (.str "A. Author"))) "authors")] = .ok false ∧
      Stores .ascii (exampleRaw (.str "A. Author")) examplePatch
        ⟨exampleRaw (.str "Ada Author"), fun _ => .missing⟩ ∧
      matchesPatch .ascii ⟨exampleRaw (.str "Ada Author"), fun _ => .missing⟩
        (targetMetadata (exampleRaw (.str "A. Author")) examplePatch.dump) = .ok false :=
  ⟨by decide, stores_example (by simp) _, by decide⟩

end Bookwarden
