import Bookwarden.Ledger.Guard
import Mathlib.Data.List.Perm.Basic

/-!
# Relocation of sealed files

`_verify_v2_live_files` checks the files of a live record in two ways. The exact check compares the
paths in order and the content of each path with the hash sealed for that path. With
`allow_relocation` the paths may differ, and what is compared are the sorted pairs of a format and a
hash, where the format of a live path is its suffix.

Sorting turns the comparison into a permutation of the pairs, and a permutation of the pairs lifts
to a permutation of the sealed formats themselves. So what the relocation check accepts is a
bijection between the live paths and the sealed formats.

## Main definitions

* `SameContent` — a live path shows the format and the content of a sealed format

## Main results

* `verifyV2LiveFiles_relocation_spec` — what the relocation check has established
* `liveFormats_of_verifyContents` — the reading of the exact check, as the relocation check sees it
* `relocation_check` — what the relocation check accepts, and that it accepts what the exact check
  does
-/

namespace Bookwarden

namespace Ledger

variable {py : Runtime} {validate : Dict → Option EvidencePackageV2}

variable (py) in
/-- The path shows the format and the content of the sealed format. -/
def SameContent (live : Readback) (path : String) (item : FormatEvidence) : Prop :=
  py.casefold (pathSuffix path) = py.casefold item.format ∧ live.files path = .content item.sha256

theorem perm_of_sortedPairs_eq {xs ys : List (String × String)}
    (h : sortedPairs xs = sortedPairs ys) : xs.Perm ys := by
  have hxs : (sortedPairs xs).Perm xs := List.perm_insertionSort _ xs
  have hys : (sortedPairs ys).Perm ys := List.perm_insertionSort _ ys
  rw [h] at hxs
  exact hxs.symm.trans hys

/-- The pairs the loop collects are the formats and the contents of the paths, all of them under
the root. -/
theorem liveFormats_spec {root : String} {files : String → FileView} {paths : List String}
    {items : List (String × String)} (h : liveFormats py root files paths = .ok items) :
    (∀ path ∈ paths, isRelativeTo (canonicalPath py path) (canonicalPath py root) = true ∧
      canonicalPath py path ≠ canonicalPath py root) ∧
    List.Forall₂ (fun path item => py.casefold (pathSuffix path) = item.1 ∧
      files path = .content item.2) paths items := by
  rw [← List.forall₂_and_left]
  induction paths generalizing items with
  | nil =>
    rw [liveFormats] at h
    rw [← Except.ok.inj h]
    exact List.Forall₂.nil
  | cons path rest ih =>
    rw [liveFormats] at h
    split at h
    · exact absurd h (by simp)
    rename_i sha hsha
    split at h
    · exact absurd h (by simp)
    rename_i tail htail
    rw [← Except.ok.inj h]
    obtain ⟨-, hbeneath, hproper, hfile⟩ := secureLibraryFileSha256_spec hsha
    exact List.Forall₂.cons ⟨⟨hbeneath, hproper⟩, rfl, hfile⟩ (ih htail)

/-- The loop of the exact check reads what the loop of the relocation check collects. -/
theorem liveFormats_of_verifyContents {root : String} {files : String → FileView}
    {expected : List (String × String)} {formats : List FormatEvidence}
    (hexpected : ∀ item ∈ formats, Assoc.get? item.path expected = some item.sha256)
    (hsuffix : ∀ item ∈ formats, py.casefold (pathSuffix item.path) = py.casefold item.format)
    (h : verifyContents py root files expected (formats.map (·.path)) = .ok ()) :
    liveFormats py root files (formats.map (·.path))
      = .ok (formats.map fun item => (py.casefold item.format, item.sha256)) := by
  induction formats with
  | nil => rfl
  | cons item rest ih =>
    rw [List.map_cons, verifyContents] at h
    split at h
    · exact absurd h (by simp)
    rename_i sha hsha
    split at h
    · rename_i hsealed
      have hsha' : sha = item.sha256 :=
        Option.some.inj (hsealed.trans (hexpected item (List.mem_cons_self ..)))
      have hrest := ih (fun i hi => hexpected i (List.mem_cons_of_mem _ hi))
        (fun i hi => hsuffix i (List.mem_cons_of_mem _ hi)) h
      rw [List.map_cons, liveFormats, hsha]
      dsimp only
      rw [hrest, List.map_cons, hsuffix item (List.mem_cons_self ..), hsha']
    · exact absurd h (by simp [valueError])

/-- The root of a package that verifies is absolute and normal. -/
theorem libraryRoot_of_verifySeal {package : EvidencePackageV2} {root : String}
    (hseal : package.verifySeal py = true)
    (hroot : package.snapshot.libraryRoot.map (canonicalPath py) = some root) :
    package.snapshot.libraryRoot = some root ∧ canonicalPath py root = root := by
  obtain ⟨sealedRoot, hsealed, rfl⟩ := Option.map_eq_some_iff.mp hroot
  have hfiles : package.snapshot.filesValid py = true := by
    simp only [EvidencePackageV2.verifySeal, EvidencePackageV2.verifyInvariants,
      Bool.and_eq_true] at hseal
    tauto
  rw [BookSnapshot.filesValid, hsealed] at hfiles
  have hcanonical : canonicalPath py sealedRoot = sealedRoot := by
    cases hsource : package.snapshot.source with
    | none =>
      simp only [hsource, Bool.and_eq_true, decide_eq_true_eq] at hfiles
      exact hfiles.1.2
    | some source => simp [hsource] at hfiles
  exact ⟨by rw [hcanonical, hsealed], by rw [hcanonical, hcanonical]⟩

theorem nodup_formats_of_verifySeal {package : EvidencePackageV2}
    (hseal : package.verifySeal py = true) : (package.formats.map (·.path)).Nodup := by
  simp only [EvidencePackageV2.verifySeal, EvidencePackageV2.verifyInvariants, Bool.and_eq_true,
    decide_eq_true_eq] at hseal
  tauto

/-- Pairs collected from the paths are a rearrangement of the expected ones: then the paths are in
bijection with the sealed formats. -/
theorem exists_perm_formats {root : String} {live : Readback} {paths : List String}
    {items : List (String × String)} {formats : List FormatEvidence}
    (hread : liveFormats py root live.files paths = .ok items)
    (hsorted : sortedPairs items
      = sortedPairs (formats.map fun item => (py.casefold item.format, item.sha256))) :
    ∃ aligned, aligned.Perm formats ∧ List.Forall₂ (SameContent py live) paths aligned := by
  have hperm := perm_of_sortedPairs_eq hsorted
  have hlift := congrFun (congrFun (List.eq_map_comp_perm
    (fun item : FormatEvidence => (py.casefold item.format, item.sha256))) items) formats
  obtain ⟨aligned, hitems, haligned⟩ := hlift.mpr hperm
  refine ⟨aligned, haligned, ?_⟩
  have hpairs := (liveFormats_spec hread).2
  rw [hitems, List.forall₂_map_right_iff] at hpairs
  exact hpairs

/-- **The relocation check.** When it accepts a live record, the paths are distinct, each lies
beneath the sealed root, and they are in bijection with the sealed formats, format for format and
hash for hash. And it accepts every record that the exact check accepts and whose suffixes are the
sealed format names. -/
theorem relocation_check {db : Db} {libraryPath : Option String} {op : OperationLedger}
    {live : Readback} {stored : StoredPackage} {package : EvidencePackageV2}
    (hload : loadV2Package py validate db (op.evidenceId.getD "") = .ok (stored, package)) :
    (verifyV2LiveFiles py validate db libraryPath op live true = .ok () →
      (formatPaths (live.record.get "formats")).Nodup ∧
      (∃ root, package.snapshot.libraryRoot = some root ∧
        ∀ path ∈ formatPaths (live.record.get "formats"),
          isRelativeTo (canonicalPath py path) root = true ∧ canonicalPath py path ≠ root) ∧
      ∃ aligned, aligned.Perm package.formats ∧
        List.Forall₂ (SameContent py live) (formatPaths (live.record.get "formats")) aligned) ∧
    (verifyV2LiveFiles py validate db libraryPath op live false = .ok () →
      (∀ item ∈ package.formats, py.casefold (pathSuffix item.path) = py.casefold item.format) →
      verifyV2LiveFiles py validate db libraryPath op live true = .ok ()) := by
  obtain ⟨-, -, hseal, -⟩ := loadV2Package_spec hload
  have hsame : ∀ {package' root},
      LiveFilesChecked py validate db libraryPath op live package' root → package' = package := by
    intro package' root hchecked
    obtain ⟨stored', hload'⟩ := hchecked.loaded
    exact (Prod.mk.inj (Except.ok.inj (hload'.symm.trans hload))).2
  constructor
  · intro h
    obtain ⟨package', root, hchecked, items, hitems, hsorted⟩ := verifyV2LiveFiles_ok_iff.mp h
    have heq := hsame hchecked
    subst heq
    obtain ⟨hroot, hcanonical⟩ := libraryRoot_of_verifySeal hseal hchecked.sealedRoot
    refine ⟨hchecked.distinct, ⟨root, hroot, ?_⟩, exists_perm_formats hitems hsorted⟩
    intro path hpath
    have hbeneath := (liveFormats_spec hitems).1 path hpath
    rw [hcanonical] at hbeneath
    exact hbeneath
  · intro h hsuffix
    obtain ⟨package', root, hchecked, hpaths, hread⟩ := verifyV2LiveFiles_ok_iff.mp h
    have heq := hsame hchecked
    subst heq
    have hnodup := nodup_formats_of_verifySeal hseal
    have hkeys : (Assoc.keys (package'.formats.map fun item => (item.path, item.sha256))).Nodup := by
      rw [Assoc.keys, List.map_map]
      exact hnodup
    have hfiles : package'.snapshot.files = package'.formats.map (·.path) := by
      rw [← hchecked.complete, Assoc.update_of_nodup hkeys, List.nil_append, Assoc.keys, List.map_map]
      rfl
    refine verifyV2LiveFiles_ok_iff.mpr ⟨package', root, hchecked, _, ?_, rfl⟩
    rw [hpaths, hfiles]
    rw [hpaths, hfiles] at hread
    refine liveFormats_of_verifyContents (fun item hitem => ?_) hsuffix hread
    rw [Assoc.update_of_nodup hkeys, List.nil_append]
    exact Assoc.get?_of_mem hkeys (List.mem_map_of_mem hitem)

/-! ### A relocated book -/

/-- The snapshot of a book with one file. -/
def movedSnapshot : BookSnapshot :=
  let snapshot : BookSnapshot := {
    bookKey := "calibre:1"
    calibreBookId := 1
    currentMetadata := []
    files := ["/l/a.epub"]
    libraryRoot := some "/l"
    snapshotSha256 := "" }
  { snapshot with snapshotSha256 := snapshot.calculatedSha256 .ascii }

/-- Its sealed package. -/
def movedPackage : EvidencePackageV2 :=
  let package : EvidencePackageV2 := {
    evidenceId := "e"
    runId := "run"
    bookKey := "calibre:1"
    createdAt := "2026"
    state := .review
    snapshot := movedSnapshot
    formats := [{ path := "/l/a.epub", format := "EPUB", sha256 := "s", status := .readable }]
    identity := { tier := .tierC } }
  { package with packageSha256 := some (package.sealValue .ascii) }

/-- The database that holds the package. -/
def movedDb : Db := { Db.empty with
  packages := Db.empty.packages.set "e" {
    bookKey := "calibre:1"
    runId := "run"
    current := []
    extracted := movedPackage.identity.toJson
    schemaVersion := 2
    observations := some movedPackage.dump } }

/-- A live record of the book, whose file is at this path. -/
def movedLive (path : String) : Readback where
  record := [("formats", .strs [path])]
  files p := if p = path then .content "s" else .missing

theorem verifySeal_movedPackage : movedPackage.verifySeal .ascii = true := by
  have hinv : movedPackage.verifyInvariants .ascii = true := by
    have hhash : movedSnapshot.verifyHash .ascii = true := decide_eq_true rfl
    have hkey : movedSnapshot.expectedBookKey = "calibre:1" := by decide
    have hfiles : movedSnapshot.filesValid .ascii = true := by decide
    have hsnapshot : movedPackage.snapshot = movedSnapshot := rfl
    rw [EvidencePackageV2.verifyInvariants, hsnapshot, hhash, hkey, hfiles]
    simp [movedPackage, movedSnapshot]
  rw [EvidencePackageV2.verifySeal, hinv, Bool.true_and]
  exact decide_eq_true rfl

theorem loadV2Package_moved : ∃ stored, loadV2Package .ascii (fun _ => some movedPackage) movedDb "e"
    = .ok (stored, movedPackage) := by
  have hrow : ∃ stored, movedDb.packages.get? "e" = some stored ∧ stored.schemaVersion = 2 ∧
      stored.observations.getD [] ≠ [] ∧ stored.bookKey = "calibre:1" ∧ stored.runId = "run" ∧
      stored.current = [] ∧ stored.extracted = movedPackage.identity.toJson :=
    ⟨_, rfl, rfl, by decide, rfl, rfl, rfl, rfl⟩
  obtain ⟨stored, hrow, hschema, hobservations, hkey, hrun, hcurrent, hextracted⟩ := hrow
  refine ⟨stored, ?_⟩
  have hidentity : Json.pyEq movedPackage.identity.toJson movedPackage.identity.toJson = true := by
    decide
  have hmetadata : Json.pyEq (.obj []) (.obj movedPackage.snapshot.currentMetadata) = true := by
    decide
  rw [loadV2Package, hrow]
  simp only [hschema, hobservations, hkey, hrun, hcurrent, hextracted, verifySeal_movedPackage,
    hidentity, hmetadata]
  rfl

/-- The operation that wrote the book. -/
def movedOperation : OperationLedger where
  idempotencyKey := "k"
  operationType := "apply_metadata"
  bookKey := "calibre:1"
  requestedPatch := []
  evidenceId := some "e"

theorem verifyV2LiveFiles_moved {path : String} {allowRelocation : Bool}
    (hpaths : formatPaths ((movedLive path).record.get "formats") = [path])
    (hread : LiveFilesRead .ascii "/l" (movedLive path) movedPackage allowRelocation) :
    verifyV2LiveFiles .ascii (fun _ => some movedPackage) movedDb (some "/l") movedOperation
      (movedLive path) allowRelocation = .ok () := by
  refine verifyV2LiveFiles_ok_iff.mpr ⟨movedPackage, "/l", ⟨rfl, loadV2Package_moved, ?_, ?_, ?_, ?_⟩,
    hread⟩
  · decide
  · decide
  · rw [hpaths]
    exact List.nodup_singleton path
  · decide

theorem formatPaths_moved {path : String} (h : strip path = path) (hne : path ≠ "") :
    formatPaths ((movedLive path).record.get "formats") = [path] := by
  show formatPaths (.arr [.str path]) = [path]
  simp [formatPaths, h, hne]

/-- Calibre moved the file of the book and changed the case of its suffix: the one live path is
matched with the one sealed format. The sealed path passes both checks. -/
theorem relocation_check_moved :
    (∃ aligned, aligned.Perm movedPackage.formats ∧
      List.Forall₂ (SameContent .ascii (movedLive "/l/b/c.Epub"))
        (formatPaths ((movedLive "/l/b/c.Epub").record.get "formats")) aligned) ∧
    verifyV2LiveFiles .ascii (fun _ => some movedPackage) movedDb (some "/l") movedOperation
      (movedLive "/l/a.epub") true = .ok () := by
  obtain ⟨stored, hstored⟩ := loadV2Package_moved
  have hload : loadV2Package .ascii (fun _ => some movedPackage) movedDb
      (movedOperation.evidenceId.getD "") = .ok (stored, movedPackage) := hstored
  have hmovedPath := formatPaths_moved (show strip "/l/b/c.Epub" = _ by decide) (by decide)
  have hsealedPath := formatPaths_moved (show strip "/l/a.epub" = _ by decide) (by decide)
  have hmoved : LiveFilesRead .ascii "/l" (movedLive "/l/b/c.Epub") movedPackage true := by
    refine ⟨[("epub", "s")], ?_, by decide⟩
    rw [hmovedPath]
    rfl
  have hexact : LiveFilesRead .ascii "/l" (movedLive "/l/a.epub") movedPackage false := by
    refine ⟨hsealedPath, ?_⟩
    rw [hsealedPath]
    rfl
  have hsuffix : ∀ item ∈ movedPackage.formats,
      Runtime.ascii.casefold (pathSuffix item.path) = Runtime.ascii.casefold item.format := by
    decide
  constructor
  · exact ((relocation_check hload).1 (verifyV2LiveFiles_moved hmovedPath hmoved)).2.2
  · exact (relocation_check hload).2 (verifyV2LiveFiles_moved hsealedPath hexact) hsuffix

end Ledger

end Bookwarden
