import Bookwarden.CanonicalJson
import Bookwarden.Pipeline.Validation

/-!
# Sealed packages: round trip and tamper evidence

A sealed package is stored as its dump and loaded by validating the dump. The seal is the hash of
the dump, and the seal of what is loaded has to be right again, so a package survives only if
validation changes nothing in it.

## The condition

`EvidencePackageV2.Canonical` says that every validated value of the package is what its validator
makes of it. A package is not canonical by construction: `inspect_format` sets the format of its
evidence with `model_copy`, which runs no validator, to the suffix of the file in upper case. A file
`a. epub` so has the format ` EPUB`, and the seal covers the space that validation strips.

## Main results

* `EvidencePackageV2.exactly` — the canonical packages are those that are loaded as they were stored
* `EvidencePackageV2.canon_dump_eq` — a seal determines the dump
* `sealed_roundTrip_iff` — both, for sealed packages, with the check of Tier A identities
-/

namespace Bookwarden

open Reread (Exactly)

variable {pd : Pydantic} {py : Runtime}

/-! ### Canonical values -/

/-- A hash that `_valid_sha256` leaves as it is. -/
def CanonicalSha256 (py : Runtime) (s : String) : Prop := isSha256 s = true ∧ py.lower s = s

/-- A hash that the validators of fingerprints and revisions leave as it is. -/
def CanonicalDigest (py : Runtime) (s : String) : Prop :=
  isSha256 s = true ∧ py.lower (strip s) = s

/-- Evidence of a format that its validators leave as it is. -/
structure FormatEvidence.Canonical (py : Runtime) (f : FormatEvidence) : Prop where
  path : f.path ≠ ""
  nonempty : f.format ≠ ""
  format : py.upper (strip f.format) = f.format
  sha256 : CanonicalSha256 py f.sha256
  identifiers : normalizeIdentifiers py f.identifiers = f.identifiers

/-- Evidence of a source that its validators leave as it is. -/
structure SourceEvidence.Canonical (py : Runtime) (e : SourceEvidence) : Prop where
  evidenceId : e.evidenceId ≠ ""
  rootId : e.rootId ≠ ""
  field : e.field ≠ ""
  artifact : ∀ s ∈ e.artifactSha256, CanonicalSha256 py s
  identifiers : normalizeIdentifiers py e.manifestationIds = e.manifestationIds

/-- A snapshot that its validators leave as it is. -/
structure BookSnapshot.Canonical (py : Runtime) (s : BookSnapshot) : Prop where
  source : ∀ source ∈ s.source, CanonicalDigest py source.fingerprint
  revision : ∀ revision ∈ s.sourceRevisionSha256, CanonicalDigest py revision

/-- A package that its validators leave as it is. -/
structure EvidencePackageV2.Canonical (py : Runtime) (p : EvidencePackageV2) : Prop where
  snapshot : p.snapshot.Canonical py
  formats : ∀ f ∈ p.formats, f.Canonical py
  sourceEvidence : ∀ e ∈ p.sourceEvidence, e.Canonical py

/-- The text that is dumped for a datetime: it is read as that datetime. -/
def Pydantic.IsDatetime (pd : Pydantic) (s : String) : Prop := pd.readDatetime (.str s) = some s

/-! ### Readers of single values -/

theorem Json.strs_injective {xs ys : List String} (h : strs xs = strs ys) : xs = ys := by
  have hmap : xs.map str = ys.map str := Json.arr.inj h
  exact List.map_injective_iff.mpr (fun _ _ hst => Json.str.inj hst) hmap

theorem Json.strDict_injective {kvs kvs' : Identifiers} (h : strDict kvs = strDict kvs') :
    kvs = kvs' := by
  have hmap : (kvs.map fun p => (p.1, str p.2)) = kvs'.map fun p => (p.1, str p.2) :=
    Json.obj.inj h
  refine List.map_injective_iff.mpr (fun p q hpq => ?_) hmap
  obtain ⟨hkey, hvalue⟩ := Prod.mk.inj hpq
  exact Prod.ext hkey (Json.str.inj hvalue)

theorem exactly_nonEmpty : Exactly readNonEmpty .str fun s => s ≠ "" where
  reads hs := if_neg hs
  back := by
    intro s t h _ hs
    rw [readNonEmpty, if_pos hs] at h
    exact absurd h (by simp)

theorem exactly_format : Exactly (readFormat py) .str fun s => s ≠ "" ∧ py.upper (strip s) = s where
  reads := by
    intro s ⟨hne, hs⟩
    rw [readFormat, exactly_nonEmpty.reads hne, Option.map_some, hs]
  back := by
    intro s t h hrender
    rw [readFormat, Option.map_eq_some_iff] at h
    obtain ⟨r, hr, rfl⟩ := h
    have hne : s ≠ "" := fun hs => by simp [readNonEmpty, hs] at hr
    have hsr : s = r := by simpa [readNonEmpty, hne] using hr
    subst hsr
    exact ⟨hne, Json.str.inj hrender⟩

theorem exactly_sha256 : Exactly (readSha256 py) .str (CanonicalSha256 py) where
  reads := by
    intro s ⟨hs, hlower⟩
    rw [readSha256, hlower, if_pos hs]
  back := by
    intro s t h hrender
    have hts : t = s := Json.str.inj hrender
    rw [readSha256, Option.ite_none_right_eq_some, Option.some.injEq] at h
    obtain ⟨hs, hlower⟩ := h
    rw [hlower, hts] at hs
    exact ⟨hs, hlower.trans hts⟩

theorem exactly_digest : Exactly (readDigest py) .str (CanonicalDigest py) where
  reads := by
    intro s ⟨hs, hlower⟩
    rw [readDigest, hlower, if_pos hs]
  back := by
    intro s t h hrender
    have hts : t = s := Json.str.inj hrender
    rw [readDigest, Option.ite_none_right_eq_some, Option.some.injEq] at h
    obtain ⟨hs, hlower⟩ := h
    rw [hlower, hts] at hs
    exact ⟨hs, hlower.trans hts⟩

/-- An optional value is read back if and only if the value is. -/
theorem exactly_opt {α : Type} {read : Json → Option α} {render : α → Json} {canonical : α → Prop}
    (h : Exactly read render canonical) (hnull : ∀ x, render x ≠ .null) :
    Exactly (readOpt read) (fun o => (o.map render).getD .null) fun o => ∀ x ∈ o, canonical x := by
  have hsome : ∀ x, readOpt read (render x) = (read (render x)).map some := by
    intro x
    rw [readOpt]
    exact hnull x
  constructor
  · intro o ho
    rcases o with _ | x
    · rfl
    · show readOpt read (render x) = some (some x)
      rw [hsome, h.reads (ho x rfl), Option.map_some]
  · intro o o' hread hrender x hx
    rw [Option.mem_def] at hx
    subst hx
    have hread' : readOpt read (render x) = some o' := hread
    rw [hsome, Option.map_eq_some_iff] at hread'
    obtain ⟨y, hy, rfl⟩ := hread'
    exact h.back hy hrender

theorem Json.optStr_eq (s : Option String) : optStr s = (s.map str).getD .null := by
  cases s with
  | none => rfl
  | some s => rfl

/-- An optional string is read back if and only if the string is. -/
theorem exactly_optStr {read : Json → Option String} {canonical : String → Prop}
    (h : Exactly read .str canonical) :
    Exactly (readOpt read) .optStr fun o => ∀ s ∈ o, canonical s := by
  have hopt : Json.optStr = fun o => (o.map Json.str).getD .null := funext Json.optStr_eq
  rw [hopt]
  exact exactly_opt h fun s hs => Json.noConfusion hs

/-! ### Models -/

theorem FormatEvidence.exactly :
    Exactly (FormatEvidence.validate py) FormatEvidence.toJson (FormatEvidence.Canonical py) where
  reads := by
    intro f h
    rw [FormatEvidence.validate_toJson, exactly_nonEmpty.reads h.path,
      exactly_format.reads ⟨h.nonempty, h.format⟩, exactly_sha256.reads h.sha256, h.identifiers]
    rfl
  back := by
    intro f g h hrender
    rw [FormatEvidence.validate_toJson, Option.bind_eq_some_iff] at h
    obtain ⟨path, hpath, h⟩ := h
    obtain ⟨format, hformat, h⟩ := Option.bind_eq_some_iff.mp h
    obtain ⟨sha256, hsha, h⟩ := Option.bind_eq_some_iff.mp h
    cases h
    simp only [FormatEvidence.toJson, Json.obj.injEq, List.cons.injEq, Prod.mk.injEq, true_and,
      and_true] at hrender
    obtain ⟨hpath', hformat', hsha', hids⟩ := hrender
    obtain ⟨hnonempty, hcanonical⟩ := exactly_format.back hformat hformat'
    exact ⟨exactly_nonEmpty.back hpath hpath', hnonempty, hcanonical, exactly_sha256.back hsha hsha',
      Json.strDict_injective hids⟩

theorem SourceEvidence.exactly :
    Exactly (SourceEvidence.validate pd py) SourceEvidence.toJson (SourceEvidence.Canonical py) where
  reads := by
    intro e h
    rw [SourceEvidence.validate_toJson, exactly_nonEmpty.reads h.evidenceId,
      exactly_nonEmpty.reads h.rootId, exactly_nonEmpty.reads h.field,
      (exactly_optStr exactly_sha256).reads h.artifact, h.identifiers]
    rfl
  back := by
    intro e e' h hrender
    rw [SourceEvidence.validate_toJson, Option.bind_eq_some_iff] at h
    obtain ⟨evidenceId, hid, h⟩ := h
    obtain ⟨rootId, hroot, h⟩ := Option.bind_eq_some_iff.mp h
    obtain ⟨field, hfield, h⟩ := Option.bind_eq_some_iff.mp h
    obtain ⟨artifact, hartifact, h⟩ := Option.bind_eq_some_iff.mp h
    cases h
    simp only [SourceEvidence.toJson, Json.obj.injEq, List.cons.injEq, Prod.mk.injEq, true_and,
      and_true] at hrender
    obtain ⟨hid', hroot', hfield', hids, hartifact'⟩ := hrender
    exact ⟨exactly_nonEmpty.back hid hid', exactly_nonEmpty.back hroot hroot',
      exactly_nonEmpty.back hfield hfield',
      (exactly_optStr exactly_sha256).back hartifact hartifact', Json.strDict_injective hids⟩

theorem BookSourceDescriptor.exactly :
    Exactly (BookSourceDescriptor.validate py) BookSourceDescriptor.toJson
      fun s => CanonicalDigest py s.fingerprint where
  reads := by
    intro s h
    rw [BookSourceDescriptor.validate_toJson, exactly_digest.reads h]
    rfl
  back := by
    intro s s' h hrender
    rw [BookSourceDescriptor.validate_toJson, Option.bind_eq_some_iff] at h
    obtain ⟨fingerprint, hfingerprint, h⟩ := h
    cases h
    simp only [BookSourceDescriptor.toJson, Json.obj.injEq, List.cons.injEq, Prod.mk.injEq, true_and,
      and_true] at hrender
    exact exactly_digest.back hfingerprint hrender

/-- The reader of the `source` field. -/
theorem exactly_source :
    Exactly (readOpt (BookSourceDescriptor.validate py))
      (fun o => (o.map BookSourceDescriptor.toJson).getD .null)
      fun o => ∀ s ∈ o, CanonicalDigest py s.fingerprint :=
  exactly_opt BookSourceDescriptor.exactly fun _ h => Json.noConfusion h

theorem BookSnapshot.exactly :
    Exactly (BookSnapshot.validate pd py) (BookSnapshot.toJson · true)
      (BookSnapshot.Canonical py) where
  reads := by
    intro s h
    rw [BookSnapshot.validate_toJson, exactly_source.reads h.source,
      (exactly_optStr exactly_digest).reads h.revision]
    rfl
  back := by
    intro s s' h hrender
    rw [BookSnapshot.validate_toJson, Option.bind_eq_some_iff] at h
    obtain ⟨source, hsource, h⟩ := h
    obtain ⟨revision, hrevision, h⟩ := Option.bind_eq_some_iff.mp h
    cases h
    simp only [BookSnapshot.toJson, if_true, List.cons_append, List.nil_append, Json.obj.injEq,
      List.cons.injEq, Prod.mk.injEq, true_and, and_true] at hrender
    obtain ⟨hsource', hrevision'⟩ := hrender
    exact ⟨exactly_source.back hsource hsource',
      (exactly_optStr exactly_digest).back hrevision hrevision'⟩

/-- **Loading.** A package is loaded as it was stored if and only if it is canonical. -/
theorem EvidencePackageV2.exactly (now : String) :
    Exactly (fun d => EvidencePackageV2.validate pd py now (.obj d)) EvidencePackageV2.dump
      fun p => pd.IsDatetime p.createdAt ∧ p.Canonical py where
  reads := by
    intro p ⟨hdate, h⟩
    have hformats : readList (FormatEvidence.validate py) (.arr (p.formats.map (·.toJson))) =
        some p.formats := FormatEvidence.exactly.all.reads h.formats
    have hevidence : readList (SourceEvidence.validate pd py)
        (.arr (p.sourceEvidence.map (·.toJson))) = some p.sourceEvidence :=
      SourceEvidence.exactly.all.reads h.sourceEvidence
    rw [EvidencePackageV2.validate_dump, hdate, BookSnapshot.exactly.reads h.snapshot, hformats,
      hevidence]
    rfl
  back := by
    intro p q h hrender
    rw [EvidencePackageV2.validate_dump, Option.bind_eq_some_iff] at h
    obtain ⟨createdAt, hdate, h⟩ := h
    obtain ⟨snapshot, hsnapshot, h⟩ := Option.bind_eq_some_iff.mp h
    obtain ⟨formats, hformats, h⟩ := Option.bind_eq_some_iff.mp h
    obtain ⟨sourceEvidence, hevidence, h⟩ := Option.bind_eq_some_iff.mp h
    cases h
    simp only [EvidencePackageV2.dump, EvidencePackageV2.payload, List.cons_append, List.nil_append,
      List.cons.injEq, Prod.mk.injEq, Json.str.injEq, Json.arr.injEq, true_and, and_true]
      at hrender
    obtain ⟨hdate', hsnapshot', hformats', hevidence'⟩ := hrender
    rw [hdate'] at hdate
    exact ⟨hdate, BookSnapshot.exactly.back hsnapshot hsnapshot',
      FormatEvidence.exactly.all.back hformats hformats',
      SourceEvidence.exactly.all.back hevidence hevidence'⟩

/-! ### The seal determines the dump -/

theorem Json.canon_obj_of_entries {kvs kvs' : Dict} (h : canonEntries kvs = canonEntries kvs') :
    canon (.obj kvs) = canon (.obj kvs') := by
  rw [canon, canon, h]

theorem Json.canonEntries_append (d d' : Dict) :
    canonEntries (d ++ d') = canonEntries d ++ canonEntries d' := by
  rw [canonEntries_eq_map, canonEntries_eq_map, canonEntries_eq_map, List.map_append]

theorem EvidencePackageV2.nodup_keys_payload (p : EvidencePackageV2) (withSource : Bool) :
    (Assoc.keys (p.payload withSource)).Nodup := by
  show ["schema_version", "policy_version", "evidence_id", "run_id", "book_key", "created_at",
    "state", "snapshot", "formats", "source_evidence", "identity", "privacy_receipts", "warnings",
    "error"].Nodup
  decide

/-- The entries of the JSON of a snapshot. -/
def BookSnapshot.entries (s : BookSnapshot) (withSource : Bool) : Dict :=
  [("book_key", .str s.bookKey), ("calibre_book_id", .int s.calibreBookId),
      ("current_metadata", .obj s.currentMetadata), ("files", .strs s.files),
      ("library_root", .optStr s.libraryRoot)]
    ++ (if withSource then [("source", (s.source.map (·.toJson)).getD .null),
        ("source_revision_sha256", .optStr s.sourceRevisionSha256)] else [])
    ++ [("snapshot_sha256", .str s.snapshotSha256)]

theorem BookSnapshot.toJson_eq (s : BookSnapshot) (withSource : Bool) :
    s.toJson withSource = .obj (s.entries withSource) := rfl

theorem BookSnapshot.nodup_keys (s : BookSnapshot) (withSource : Bool) :
    (Assoc.keys (s.entries withSource)).Nodup := by
  cases withSource
  · show ["book_key", "calibre_book_id", "current_metadata", "files", "library_root",
      "snapshot_sha256"].Nodup
    decide
  · show ["book_key", "calibre_book_id", "current_metadata", "files", "library_root", "source",
      "source_revision_sha256", "snapshot_sha256"].Nodup
    decide

/-- A snapshot of a materialized source is not written like one of a local library. -/
theorem BookSnapshot.withSource_eq {s t : BookSnapshot} {b c : Bool}
    (h : (s.toJson b).canon = (t.toJson c).canon) : b = c := by
  have hsource : ∀ (s : BookSnapshot) (b : Bool), (Assoc.get? "source" (s.entries b)).isSome = b := by
    intro s b
    cases b <;> rfl
  rw [BookSnapshot.toJson_eq, BookSnapshot.toJson_eq] at h
  have hget := congrArg Option.isSome (Json.get?_of_canon_eq (s.nodup_keys b) h "source")
  rwa [Option.isSome_map, Option.isSome_map, hsource, hsource] at hget

/-- A valid local snapshot has no source fields. -/
theorem BookSnapshot.revision_of_filesValid {s : BookSnapshot} (hsource : s.source = none)
    (h : s.filesValid py = true) : s.sourceRevisionSha256 = none := by
  rw [BookSnapshot.filesValid, hsource] at h
  rcases hroot : s.libraryRoot with _ | root <;> rw [hroot] at h
  · exact Option.isNone_iff_eq_none.mp h
  · simp only [Bool.and_eq_true] at h
    exact Option.isNone_iff_eq_none.mp h.1.1

/-- What local snapshots leave out is the same in all of them. -/
theorem BookSnapshot.canon_toJson {s t : BookSnapshot}
    (hs : s.source = none ∧ s.sourceRevisionSha256 = none)
    (ht : t.source = none ∧ t.sourceRevisionSha256 = none)
    (h : (s.toJson false).canon = (t.toJson false).canon) :
    (s.toJson true).canon = (t.toJson true).canon := by
  have hentries : Json.canonEntries (s.entries false) = Json.canonEntries (t.entries false) :=
    Json.canonEntries_eq_of_canon_eq (s.nodup_keys false) rfl h
  refine Json.canon_obj_of_entries ?_
  simp only [BookSnapshot.entries, Bool.false_eq_true, if_false, if_true, List.append_nil,
    List.cons_append, List.nil_append, Json.canonEntries, List.cons.injEq, Prod.mk.injEq, true_and,
    and_true] at hentries ⊢
  obtain ⟨hkey, hid, hcurrent, hfiles, hroot, hsha⟩ := hentries
  rw [hs.1, hs.2, ht.1, ht.2]
  exact ⟨hkey, hid, hcurrent, hfiles, hroot, rfl, rfl, hsha⟩

/-- The entries of a package around its snapshot. -/
theorem EvidencePackageV2.canonEntries_payload {p q : EvidencePackageV2} {b : Bool}
    (h : Json.canonEntries (p.payload b) = Json.canonEntries (q.payload b))
    (hsnapshot : (p.snapshot.toJson true).canon = (q.snapshot.toJson true).canon) :
    Json.canonEntries (p.payload true) = Json.canonEntries (q.payload true) := by
  simp only [EvidencePackageV2.payload, Json.canonEntries, List.cons.injEq, Prod.mk.injEq, true_and,
    and_true] at h ⊢
  obtain ⟨hid, hrun, hkey, hdate, hstate, -, hformats, hevidence, hidentity, hreceipts, hwarnings,
    herror⟩ := h
  exact ⟨hid, hrun, hkey, hdate, hstate, hsnapshot, hformats, hevidence, hidentity, hreceipts,
    hwarnings, herror⟩

theorem EvidencePackageV2.filesValid_of_verifySeal {p : EvidencePackageV2}
    (h : p.verifySeal py = true) : p.snapshot.filesValid py = true := by
  rw [EvidencePackageV2.verifySeal, Bool.and_eq_true] at h
  have hinv := h.1
  simp only [EvidencePackageV2.verifyInvariants, Bool.and_eq_true] at hinv
  exact hinv.1.1.1.1.2

theorem EvidencePackageV2.seal_of_verifySeal {p : EvidencePackageV2} (h : p.verifySeal py = true) :
    p.packageSha256 = some (p.sealValue py) := by
  rw [EvidencePackageV2.verifySeal, Bool.and_eq_true] at h
  exact of_decide_eq_true h.2

/-- **Tamper evidence.** Packages that verify with the same seal have the same dump. -/
theorem EvidencePackageV2.canon_dump_eq (hpy : FloatText py) (hsha : Function.Injective py.sha256)
    {p q : EvidencePackageV2} (hp : p.verifySeal py = true) (hq : q.verifySeal py = true)
    (hseal : p.packageSha256 = q.packageSha256) :
    (Json.obj p.dump).canon = (Json.obj q.dump).canon := by
  have hvalue : p.sealValue py = q.sealValue py := by
    rw [p.seal_of_verifySeal hp, q.seal_of_verifySeal hq] at hseal
    exact Option.some.inj hseal
  have hcanon := hashJson_inj hpy hsha hvalue
  -- the sealed snapshots have the same keys, so both packages are local or neither is
  have hsnap : (p.snapshot.toJson p.snapshot.source.isSome).canon =
      (q.snapshot.toJson q.snapshot.source.isSome).canon := by
    have hget := Json.get?_of_canon_eq (p.nodup_keys_payload _) hcanon "snapshot"
    exact Option.some.inj hget
  have hlocal := BookSnapshot.withSource_eq hsnap
  have hfull : (p.snapshot.toJson true).canon = (q.snapshot.toJson true).canon := by
    rcases hb : q.snapshot.source.isSome with _ | _ <;> rw [hlocal, hb] at hsnap
    · have hps : p.snapshot.source = none := by
        rw [← Option.not_isSome_iff_eq_none, hlocal, hb]
        decide
      have hqs : q.snapshot.source = none := by
        rw [← Option.not_isSome_iff_eq_none, hb]
        decide
      exact BookSnapshot.canon_toJson
        ⟨hps, BookSnapshot.revision_of_filesValid hps (p.filesValid_of_verifySeal hp)⟩
        ⟨hqs, BookSnapshot.revision_of_filesValid hqs (q.filesValid_of_verifySeal hq)⟩ hsnap
    · exact hsnap
  rw [hlocal] at hcanon
  have hpayload : Json.canonEntries (p.payload q.snapshot.source.isSome) =
      Json.canonEntries (q.payload q.snapshot.source.isSome) :=
    Json.canonEntries_eq_of_canon_eq (p.nodup_keys_payload _) rfl hcanon
  refine Json.canon_obj_of_entries ?_
  rw [EvidencePackageV2.dump, EvidencePackageV2.dump, Json.canonEntries_append,
    Json.canonEntries_append, EvidencePackageV2.canonEntries_payload hpayload hfull, hseal]

/-! ### Sealed packages -/

/-- A stored package is loaded, its seal is right and its dump is what was stored. -/
def RoundTrips (pd : Pydantic) (py : Runtime) (now : String) (p : EvidencePackageV2) : Prop :=
  ∃ q, EvidencePackageV2.validate pd py now (.obj p.dump) = some q ∧ q.verifySeal py = true ∧
    q.dump = p.dump

/-- Sealing changes nothing that is validated. -/
theorem EvidencePackageV2.roundTrips_iff {p s : EvidencePackageV2} (now : String)
    (hdate : pd.IsDatetime p.createdAt) (hseal : p.seal py = some s) :
    RoundTrips pd py now s ↔ p.Canonical py := by
  obtain ⟨hverify, hs⟩ := EvidencePackageV2.verifySeal_of_seal hseal
  have hcanonical : s.Canonical py ↔ p.Canonical py := by
    rw [hs]
    exact ⟨fun h => ⟨h.snapshot, h.formats, h.sourceEvidence⟩,
      fun h => ⟨h.snapshot, h.formats, h.sourceEvidence⟩⟩
  have hdate' : pd.IsDatetime s.createdAt := by
    rw [hs]
    exact hdate
  rw [← hcanonical]
  constructor
  · rintro ⟨q, hread, -, hdump⟩
    exact ((EvidencePackageV2.exactly now).back hread hdump).2
  · intro h
    exact ⟨s, (EvidencePackageV2.exactly now).reads ⟨hdate', h⟩, hverify, rfl⟩

/-- The identity of a verified Tier A package is what its own evidence derives. -/
theorem EvidencePackageV2.derived_of_verifySeal {p : EvidencePackageV2}
    (h : p.verifySeal py = true) (htier : p.identity.tier = .tierA) :
    ∃ derived, resolveManifestation py p.formats p.sourceEvidence p.snapshot.currentMetadata =
      some derived ∧ Json.pyEq derived.toJson p.identity.toJson = true := by
  rw [EvidencePackageV2.verifySeal, Bool.and_eq_true] at h
  have hinv := h.1
  simp only [EvidencePackageV2.verifyInvariants, Bool.and_eq_true] at hinv
  have htierA := hinv.2
  rw [htier] at htierA
  rcases hderived : resolveManifestation py p.formats p.sourceEvidence p.snapshot.currentMetadata
    with _ | derived <;> rw [hderived] at htierA
  · exact absurd htierA (by simp)
  · exact ⟨derived, rfl, by simpa using htierA⟩

/-- **Sealed packages.** What `seal` accepts is loaded from its dump with a valid seal and the same
dump if and only if it is canonical; packages that verify with the same seal have the same dump; and
a Tier A package verifies only with the identity that its own evidence derives. -/
theorem sealed_roundTrip_iff (hpy : FloatText py) (hsha : Function.Injective py.sha256) :
    (∀ (now : String) (p s : EvidencePackageV2), pd.IsDatetime p.createdAt → p.seal py = some s →
      (RoundTrips pd py now s ↔ p.Canonical py)) ∧
    (∀ p q : EvidencePackageV2, p.verifySeal py = true → q.verifySeal py = true →
      p.packageSha256 = q.packageSha256 → (Json.obj p.dump).canon = (Json.obj q.dump).canon) ∧
    ∀ p : EvidencePackageV2, p.identity.tier = .tierA → p.verifySeal py = true →
      ∃ derived, resolveManifestation py p.formats p.sourceEvidence p.snapshot.currentMetadata =
        some derived ∧ Json.pyEq derived.toJson p.identity.toJson = true :=
  ⟨fun now _ _ hdate hseal => EvidencePackageV2.roundTrips_iff now hdate hseal,
    fun _ _ hp hq hseal => EvidencePackageV2.canon_dump_eq hpy hsha hp hq hseal,
    fun _ htier h => EvidencePackageV2.derived_of_verifySeal h htier⟩

/-- The snapshot of a book with one file at this path. -/
def oneFileSnapshot (path : String) : BookSnapshot :=
  let snapshot : BookSnapshot := {
    bookKey := "calibre:1"
    calibreBookId := 1
    currentMetadata := []
    files := [path]
    libraryRoot := some "/l"
    snapshotSha256 := "" }
  { snapshot with snapshotSha256 := snapshot.calculatedSha256 .ascii }

/-- The package of a book whose only file, at this path, is in a format without an extractor. -/
def oneFilePackage (path format : String) : EvidencePackageV2 where
  evidenceId := "e"
  runId := "run"
  bookKey := "calibre:1"
  createdAt := "2026-01-01T00:00:00Z"
  state := .review
  snapshot := oneFileSnapshot path
  formats := [{
    path := path
    format := format
    sha256 := "0000000000000000000000000000000000000000000000000000000000000000"
    status := .unsupported }]
  identity := { tier := .tierC }

/-- The package is sealed wherever its file is in the library. -/
theorem seal_oneFilePackage (path format : String)
    (hpath : canonicalPath .ascii path = path ∧ isRelativeTo path "/l" = true) :
    (oneFilePackage path format).seal .ascii = some { oneFilePackage path format with
      packageSha256 := some ((oneFilePackage path format).sealValue .ascii) } := by
  have hhash : (oneFileSnapshot path).verifyHash .ascii = true := decide_eq_true rfl
  have hkey : (oneFileSnapshot path).expectedBookKey = "calibre:1" := rfl
  have hroot : canonicalPath .ascii "/l" = "/l" := by decide
  have hfiles : (oneFileSnapshot path).filesValid .ascii = true := by
    simp [BookSnapshot.filesValid, oneFileSnapshot, hroot, hpath]
  have hsnapshot : (oneFilePackage path format).snapshot = oneFileSnapshot path := rfl
  have hinv : (oneFilePackage path format).verifyInvariants .ascii = true := by
    rw [EvidencePackageV2.verifyInvariants, hsnapshot, hhash, hkey, hfiles]
    simp [oneFilePackage, oneFileSnapshot]
  rw [EvidencePackageV2.seal, if_pos hinv]

theorem isDatetime_oneFilePackage (path format : String) :
    Pydantic.strict.IsDatetime (oneFilePackage path format).createdAt := rfl

/-- The theorem at a package with an ordinary format. -/
theorem sealed_roundTrip_epub :
    ∃ s, (oneFilePackage "/l/a.epub" "EPUB").seal .ascii = some s ∧
      RoundTrips .strict .ascii "2026" s := by
  have hsha : Function.Injective Runtime.ascii.sha256 := fun _ _ h => h
  have hseal := seal_oneFilePackage "/l/a.epub" "EPUB" (by decide)
  refine ⟨_, hseal, ((sealed_roundTrip_iff floatText_ascii hsha).1 "2026" _ _
    (isDatetime_oneFilePackage "/l/a.epub" "EPUB") hseal).mpr ?_⟩
  refine ⟨⟨fun _ h => absurd h (Option.not_mem_none _),
    fun _ h => absurd h (Option.not_mem_none _)⟩, fun f hf => ?_, fun e he => absurd he List.not_mem_nil⟩
  obtain rfl := List.mem_singleton.mp hf
  exact ⟨by decide, by decide, by decide, ⟨by decide, by decide⟩, by decide⟩

/-- The suffix ` EPUB` is sealed with its space and read back without it. -/
theorem sealed_suffix_lost :
    ∃ s, (oneFilePackage "/l/a. epub" " EPUB").seal .ascii = some s ∧
      Pydantic.strict.IsDatetime s.createdAt ∧ ¬ RoundTrips .strict .ascii "2026" s := by
  have hseal := seal_oneFilePackage "/l/a. epub" " EPUB" (by decide)
  have hdate := isDatetime_oneFilePackage "/l/a. epub" " EPUB"
  refine ⟨_, hseal, hdate, fun h => ?_⟩
  have hcanonical := (EvidencePackageV2.roundTrips_iff "2026" hdate hseal).mp h
  have hformat := (hcanonical.formats _ (List.mem_singleton_self _)).format
  exact absurd hformat (by decide)

end Bookwarden
