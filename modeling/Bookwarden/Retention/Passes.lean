import Mathlib.Data.List.Dedup
import Bookwarden.Exceptions
import Bookwarden.Lib.Collect
import Bookwarden.Lib.Runs
import Bookwarden.Retention.Expiry
import Bookwarden.Retention.QuarantineRuns
import Bookwarden.Retention.RestorePoints

/-!
# Retention passes

A pass is `build_deletion_manifest`, then `quarantine_and_delete` of what it selects, both to their
end. Between the passes, restore points are created. The journal of a pass stays, and every later pass
checks it against the tree.

The passes do not get stuck as long as no name of a deleted restore point begins with a dot and
nothing is created where a restore point was deleted.

## Main definitions

* `Environment` — what reads and writes `restore.json`
* `Store`, `createPoint`, `buildDeletionManifest`
* `Op`, `Store.exec`

## Main results

* `Sound.exists_plan` — a manifest that is built is a plan
* `never_wedged` — creations and passes that keep to the names never get stuck
* `candidate_eq_ok_iff` — a book is selected as in `Expiry`
* `pass_deletes_expired` — a pass deletes what is expired, and nothing else
-/

namespace Bookwarden.Retention.Quarantine

open Crash Crash.Program

/-! ### The store -/

/-- What the store relies on. -/
structure Environment where
  sha : Sha256
  calendar : Calendar
  /-- `json.loads`; `none` when it raises. -/
  loads : List UInt8 → Option Json
  /-- `default_ttl`, in microseconds. -/
  defaultTtl : ℤ

/-- `datetime.fromisoformat` of an instant in UTC. -/
def Environment.fromisoformat (env : Environment) (text : String) : Option (ℤ × Option ℤ) :=
  (env.calendar.fromisoformat text).map fun t => (t, some 0)

/-- The tree, and the directories of restore points that were ever made. -/
structure Store where
  disk : Disk
  known : List Path

/-- Before anything is created. -/
def Store.empty : Store := ⟨⟨fun _ => none, false, [], []⟩, []⟩

local instance lawfulBEq_path : LawfulBEq Path := inferInstance

/-- What the system decides in a creation: the bytes of `restore.json`, the other files that are
written, and the numbers of a new directory. -/
structure Written where
  manifest : List UInt8
  files : List (String × List UInt8)
  device : ℕ
  inode : ℕ

/-- The directory that `RestorePointStore.create` leaves. -/
def Written.dir (written : Written) (old : Option RestoreDir) : RestoreDir :=
  let dir := old.getD ⟨written.device, written.inode, []⟩
  { dir with files := Assoc.set "restore.json" written.manifest (Assoc.update dir.files written.files) }

/-- `RestorePointStore.create`. -/
def createPoint (c : Create) (written : Written) (store : Store) : Store :=
  match pathFor c.run_id c.book_key with
  | none => store
  | some path =>
    { disk :=
        { store.disk with
          points := Function.update store.disk.points path
            (some (written.dir (store.disk.points path))) }
      known := if path ∈ store.known then store.known else store.known ++ [path] }

/-! ### The manifest -/

variable (env : Environment)

/-- One book of `build_deletion_manifest`. -/
def scanBook (now : ℤ) (disk : Disk) (path : Path) :
    Except String (Option RestoreDeletionCandidate) :=
  match disk.points path with
  | none => .error "Unmanaged restore entry"
  | some dir =>
    match Assoc.get? "restore.json" dir.files with
    | none => .error "Missing or unsafe restore manifest"
    | some payload =>
      match Expiry.readStamp env.fromisoformat env.defaultTtl (env.loads payload) with
      | .error _ => .error "Invalid restore manifest"
      | .ok (appliedAt, ttl) =>
        if now - appliedAt ≤ ttl then .ok none
        else .ok (some ⟨path, env.sha.hexdigest payload, dir.device, dir.inode⟩)

/-- `QUARANTINE_ROOT_NAME`. -/
def quarantineRootName : String := ".retention-quarantine"

/-- `sorted(run_dir.iterdir())`. -/
def booksOf (known : List Path) (disk : Disk) (run : String) : List Path :=
  (known.filter fun path => path.1 = run ∧ (disk.points path).isSome).insertionSort fun a b => a.2 ≤ b.2

/-- `sorted(self.restore_root.iterdir())`. -/
def entriesOf (known : List Path) (root : Bool) : List String :=
  ((known.map Prod.fst ++ if root then [quarantineRootName] else []).dedup).insertionSort (· ≤ ·)

/-- The loop of `build_deletion_manifest`. -/
def scanEntries (now : ℤ) (known : List Path) : List String → Program (List RestoreDeletionCandidate)
  | [] => return []
  | name :: names => do
    if name = quarantineRootName then
      let pending ← listPendingQuarantines env.sha
      if pending ≠ [] then raise "Pending retention quarantine requires explicit recovery"
      scanEntries now known names
    else if startsWith name "." then raise "Unmanaged restore entry"
    else
      let scanned ← ask fun disk => Collect.collect (scanBook env now disk) (booksOf known disk name)
      let candidates ← lift scanned
      let rest ← scanEntries now known names
      return candidates ++ rest

/-- `build_deletion_manifest`. -/
def buildDeletionManifest (now : ℤ) (known : List Path) : Program (List RestoreDeletionCandidate) := do
  let root ← ask Disk.quarantineRoot
  scanEntries env now known (entriesOf known root)

/-! ### Operations -/

/-- A creation, or a pass. -/
inductive Op
  | create (c : Create) (written : Written)
  | pass (now : ℤ) (fresh : Fresh) (backupManifestSha256 : String)
    (removals : List (Path → Option RestoreDir))

/-- What a pass does after its scan. -/
def deletePass (store : Store) (now : ℤ) (fresh : Fresh) (backup : String)
    (removals : List (Path → Option RestoreDir)) : Program ℕ := do
  let candidates ← buildDeletionManifest env now store.known
  quarantineAndDelete env.sha fresh candidates backup removals

/-- The disks on the way. -/
def Op.way (store : Store) : Op → List Disk
  | .create _ _ => []
  | .pass now fresh backup removals => (deletePass env store now fresh backup removals store.disk).1

/-- The store after an operation. -/
def Store.exec (store : Store) : Op → Store
  | .create c written => createPoint c written store
  | .pass now fresh backup removals =>
    { store with disk := (deletePass env store now fresh backup removals).after store.disk none }

/-! ### What is expected -/

/-- Every journal is accepted, by the reader and by the preflight. -/
def JournalsAccepted (sha : Sha256) (disk : Disk) : Prop :=
  ∀ entry ∈ disk.transactions, ∃ journal, readQuarantineJournal entry.1 entry.2 = .ok journal ∧
    preflightQuarantine sha disk entry.2 journal = .ok ()

/-- The journals are accepted, and every scan returns. -/
structure Store.Fine (store : Store) : Prop where
  journals : JournalsAccepted env.sha store.disk
  listed : ∃ pending, (listPendingQuarantines env.sha).result store.disk = .ok pending
  built : ∀ now, ∃ candidates,
    (buildDeletionManifest env now store.known).result store.disk = .ok candidates

/-- The operation goes as the environment promises: a creation returns and writes a document that is
read back, and a pass has a new transaction id. -/
def Op.Honest (store : Store) : Op → Prop
  | .create c written =>
    c.Returns ∧ env.loads written.manifest = some (.obj (c.restoreJson env.calendar)) ∧
      86400000000 - Expiry.maxTimedelta ≤ c.ttl_seconds * 1000000 ∧
      c.ttl_seconds * 1000000 < Expiry.maxTimedelta
  | .pass _ fresh _ _ =>
    isTransactionId fresh.id = true ∧ fresh.id ∉ Assoc.keys store.disk.transactions

/-- A creation that does not get in the way: no name of a run begins with a dot, and the path is not
in a journal. -/
def Op.Apart (store : Store) (c : Create) : Prop :=
  startsWith (safeName c.run_id) "." = false ∧
    ∀ entry ∈ store.disk.transactions, ∀ journal ∈ entry.2.journal,
      relativeText c.slot ∉ journal.candidates.map Item.relativePath

/-- Nothing that is deleted has a name that begins with a dot. -/
def Op.Dotless (store : Store) (now : ℤ) : Prop :=
  ∀ path dir, startsWith path.2 "." = true → store.disk.points path = some dir →
    ∀ manifest ∈ Assoc.get? "restore.json" dir.files, ∀ stamp,
      Expiry.readStamp env.fromisoformat env.defaultTtl (env.loads manifest) = .ok stamp →
        now - stamp.1 ≤ stamp.2

/-- The names are kept to. -/
def Op.Legal (store : Store) : Op → Prop
  | .create c _ => Op.Apart store c
  | .pass now _ backup _ => backup.length = 64 → Op.Dotless env store now

/-! ### Names -/

theorem relativeText_eq (path : Path) : relativeText path = "/".intercalate [path.1, path.2] := by
  refine String.toList_inj.mp ?_
  rw [relativeText, String.toList_append, String.toList_append, toList_join]
  simp [List.intercalate]

theorem initialSlashes_relativeText {path : Path} (h : IsName path.1) :
    initialSlashes (relativeText path) = 0 := by
  obtain ⟨c, cs, hcs⟩ := List.exists_cons_of_ne_nil (l := path.1.toList) fun hnil =>
    h.ne_empty (String.toList_eq_nil_iff.mp hnil)
  have hc : c ≠ '/' := fun heq => h.no_slash (hcs ▸ heq ▸ List.mem_cons_self)
  have hlist : (relativeText path).toList = c :: (cs ++ ('/' :: path.2.toList)) := by
    rw [relativeText, String.toList_append, String.toList_append, hcs, List.append_assoc]
    rfl
  have hone : startsWith (relativeText path) "/" = false := by
    rw [startsWith, hlist]
    simp [List.isPrefixOf, hc.symm]
  have htwo : startsWith (relativeText path) "//" = false := by
    rw [startsWith, hlist]
    simp [List.isPrefixOf, hc.symm]
  rw [initialSlashes, htwo, hone]
  rfl

/-- The journal reader takes names without a leading dot. -/
theorem relativeOf_relativeText {path : Path} (hrun : IsName path.1) (hbook : IsName path.2)
    (hdot : startsWith path.1 "." = false) (hdot' : startsWith path.2 "." = false) :
    relativeOf (relativeText path) = some path := by
  have hparts : pathParts (relativeText path) = (0, [path.1, path.2]) := by
    refine Prod.ext (initialSlashes_relativeText hrun) ?_
    rw [pathParts_snd, relativeText_eq]
    refine filter_isKept_split fun c hc => ?_
    rcases List.mem_cons.mp hc with rfl | hc
    · exact hrun
    · rw [List.mem_singleton.mp hc]
      exact hbook
  rw [relativeOf, hparts]
  simp [hdot, hdot']

/-- The reader's path has the text it was read from. -/
theorem relativeText_of_relativeOf {text : String} {path : Path} (h : relativeOf text = some path) :
    relativeText path = text := by
  rw [relativeOf] at h
  split at h
  · rename_i run book _
    split at h
    · cases h
    · rename_i hok
      cases h
      simp only [Bool.or_eq_true, decide_eq_true_eq, not_or, ne_eq, not_not] at hok
      exact hok.2.symm
  · cases h

theorem isName_safeName {name : String} (h : safeName name ∉ unsafeNames) : IsName (safeName name) where
  ne_empty heq := h (by rw [heq]; decide)
  ne_dot heq := h (by rw [heq]; decide)
  ne_up heq := h (by rw [heq]; decide)
  no_slash hslash := by
    rw [safeName, String.toList_ofList] at hslash
    obtain ⟨c, -, hc⟩ := List.mem_map.mp hslash
    split at hc
    · rename_i hname
      rw [hc] at hname
      exact absurd hname (by decide)
    · cases hc

/-- The names of a creation. -/
theorem isName_of_pathFor {run_id book_key : String} {path : Path}
    (h : pathFor run_id book_key = some path) : IsName path.1 ∧ IsName path.2 := by
  rw [pathFor] at h
  split at h
  · cases h
  · rename_i hsafe
    rw [not_or] at hsafe
    cases h
    exact ⟨isName_safeName hsafe.2, isName_safeName hsafe.1⟩

/-! ### Documents -/

theorem roundHalfEven_intCast (n : ℤ) : Double.roundHalfEven n = n := by
  simp [Double.roundHalfEven]

/-- What a creation writes is read back. -/
theorem readStamp_restoreJson {env : Environment} {c : Create}
    (hlow : 86400000000 - Expiry.maxTimedelta ≤ c.ttl_seconds * 1000000)
    (hhigh : c.ttl_seconds * 1000000 < Expiry.maxTimedelta) :
    Expiry.readStamp env.fromisoformat env.defaultTtl (some (.obj (c.restoreJson env.calendar)))
      = .ok (c.now, c.ttl_seconds * 1000000) := by
  have happlied : Expiry.readAppliedAt env.fromisoformat (c.restoreJson env.calendar)
      = .ok (c.now, some 0) := by
    simp [Expiry.readAppliedAt, Create.restoreJson, Assoc.get?_cons, Environment.fromisoformat]
  have hmicros : Double.roundHalfEven ((c.ttl_seconds : ℚ) * 1000000) = c.ttl_seconds * 1000000 := by
    have hcast := roundHalfEven_intCast (c.ttl_seconds * 1000000)
    push_cast at hcast
    exact hcast
  have httl : ∀ fallback, Expiry.readTtl fallback (c.restoreJson env.calendar)
      = .ok (c.ttl_seconds * 1000000) := by
    intro fallback
    have hget : Assoc.get? "ttl_seconds" (c.restoreJson env.calendar)
        = some (.int c.ttl_seconds) := by
      simp [Create.restoreJson, Assoc.get?_cons]
    rw [Expiry.readTtl, hget]
    simp only [Expiry.timedeltaSeconds, Json.num?, hmicros]
    rw [if_pos ⟨hlow, hhigh⟩]
  rw [Expiry.readStamp]
  simp only [happlied, httl]
  simp [Expiry.utc]

/-! ### Scans -/

section

variable {env : Environment} {now : ℤ} {disk : Disk} {known : List Path}

/-- What the reader accepts. -/
theorem accepted_of_read {name : String} {transaction : Transaction} {journal : Journal}
    (h : readQuarantineJournal name transaction = .ok journal) :
    journal ∈ transaction.journal ∧ journal.Accepted name := by
  rw [readQuarantineJournal] at h
  split at h
  · cases h
  · cases hjournal : transaction.journal with
    | none =>
      rw [hjournal] at h
      cases h
    | some read =>
      simp only [hjournal] at h
      split at h
      · rename_i haccepted
        cases h
        exact ⟨rfl, haccepted⟩
      · cases h

theorem pendingOf_settled (h : ∀ entry ∈ disk.transactions, Settled disk.points entry) {sha : Sha256} :
    pendingOf sha disk (sortedByName disk.transactions) = .ok [] := by
  have hcheck : ∀ entry ∈ sortedByName disk.transactions, checkTransaction sha disk entry = .ok false :=
    fun entry hentry => Plan.check_settled (h entry ((List.mem_insertionSort _).mp hentry)) fun _ => id
  rw [Plan.pendingOf_eq (p := fun _ => false) hcheck, List.filter_false, List.map_nil]

theorem accepted_of_check {sha : Sha256} {disk : Disk} {entry : String × Transaction} {pending : Bool}
    (h : checkTransaction sha disk entry = .ok pending) :
    ∃ journal, readQuarantineJournal entry.1 entry.2 = .ok journal ∧
      preflightQuarantine sha disk entry.2 journal = .ok () := by
  rw [checkTransaction] at h
  obtain ⟨journal, hread, h⟩ := Except.exists_of_bind_eq_ok h
  obtain ⟨u, hpreflight, -⟩ := Except.exists_of_bind_eq_ok h
  exact ⟨journal, hread, hpreflight⟩

theorem accepted_of_settled {sha : Sha256} {disk : Disk}
    (h : ∀ entry ∈ disk.transactions, Settled disk.points entry) : JournalsAccepted sha disk :=
  fun entry hentry => accepted_of_check (Plan.check_settled (h entry hentry) fun _ => id)

/-- Nothing is staged, and every transaction is over. -/
theorem list_settled (hstaging : disk.staging = [])
    (h : ∀ entry ∈ disk.transactions, Settled disk.points entry) (sha : Sha256) :
    listPendingQuarantines sha disk = ([], .ok []) := by
  rw [listPendingQuarantines, ask_bind]
  by_cases hroot : disk.quarantineRoot = false
  · rw [id, if_pos hroot]
    rfl
  · rw [id, if_neg hroot, hstaging]
    show ([], pendingOf sha disk (sortedByName disk.transactions)) = _
    rw [pendingOf_settled h]

theorem scanBook_path {path : Path} {candidate : RestoreDeletionCandidate}
    (h : scanBook env now disk path = .ok (some candidate)) :
    candidate.path = path ∧ validateCandidate env.sha disk candidate = .ok () ∧
      ∃ dir manifest stamp, disk.points path = some dir ∧
        Assoc.get? "restore.json" dir.files = some manifest ∧
        Expiry.readStamp env.fromisoformat env.defaultTtl (env.loads manifest) = .ok stamp ∧
        stamp.2 < now - stamp.1 := by
  rw [scanBook] at h
  cases hdir : disk.points path with
  | none =>
    rw [hdir] at h
    cases h
  | some dir =>
    rw [hdir] at h
    cases hmanifest : Assoc.get? "restore.json" dir.files with
    | none =>
      simp only [hmanifest] at h
      cases h
    | some manifest =>
      simp only [hmanifest] at h
      cases hstamp : Expiry.readStamp env.fromisoformat env.defaultTtl (env.loads manifest) with
      | error e =>
        simp only [hstamp] at h
        cases h
      | ok stamp =>
        simp only [hstamp] at h
        split at h
        · cases h
        · rename_i hold
          cases h
          refine ⟨rfl, ?_, dir, manifest, stamp, rfl, hmanifest, hstamp, not_le.mp hold⟩
          rw [validateCandidate, hdir, validateCandidateIdentity, if_neg]
          rw [hmanifest]
          simp

/-- At one book, the scan selects what `Expiry.candidate` selects. -/
theorem candidate_eq_ok_iff {path : Path} {dir : RestoreDir} {manifest : List UInt8}
    (hdir : disk.points path = some dir)
    (hmanifest : Assoc.get? "restore.json" dir.files = some manifest) {out : Option Path} :
    Expiry.candidate env.fromisoformat env.defaultTtl now
        (path, .directory (.file false (env.loads manifest))) = .ok out ↔
      ∃ selected, scanBook env now disk path = .ok selected ∧
        selected.map RestoreDeletionCandidate.path = out := by
  rw [Expiry.candidate, scanBook, hdir]
  simp only [hmanifest]
  cases hstamp : Expiry.readStamp env.fromisoformat env.defaultTtl (env.loads manifest) with
  | error e =>
    constructor
    · intro h
      cases h
    · rintro ⟨selected, hselected, -⟩
      cases hselected
  | ok stamp =>
    simp only
    by_cases hkept : now - stamp.1 ≤ stamp.2
    · rw [if_pos hkept, if_pos hkept]
      constructor
      · intro h
        exact ⟨none, rfl, Except.ok.inj h⟩
      · rintro ⟨selected, hselected, hout⟩
        cases hselected
        exact congrArg _ hout
    · rw [if_neg hkept, if_neg hkept]
      constructor
      · intro h
        exact ⟨_, rfl, Except.ok.inj h⟩
      · rintro ⟨selected, hselected, hout⟩
        cases hselected
        exact congrArg _ hout

/-- What a scan selects. -/
structure Selected (env : Environment) (now : ℤ) (disk : Disk) (known : List Path)
    (names : List String) (candidates : List RestoreDeletionCandidate) : Prop where
  scanned : ∀ candidate ∈ candidates, scanBook env now disk candidate.path = .ok (some candidate)
  mem_known : ∀ candidate ∈ candidates, candidate.path ∈ known
  mem_names : ∀ candidate ∈ candidates, candidate.path.1 ∈ names
  distinct : (candidates.map RestoreDeletionCandidate.path).Nodup
  complete : ∀ path ∈ known, path.1 ∈ names → path.1 ≠ quarantineRootName → ∀ candidate,
    scanBook env now disk path = .ok (some candidate) → candidate ∈ candidates

/-- The scan of a run. -/
theorem selected_books (hknown : known.Nodup) {name : String}
    {candidates : List RestoreDeletionCandidate}
    (h : Collect.collect (scanBook env now disk) (booksOf known disk name) = .ok candidates) :
    Selected env now disk known [name] candidates := by
  have hmem : ∀ candidate ∈ candidates, candidate.path ∈ booksOf known disk name ∧
      scanBook env now disk candidate.path = .ok (some candidate) := by
    intro candidate hcandidate
    obtain ⟨path, hpath, hscan⟩ := (Collect.mem_collect_iff h candidate).mp hcandidate
    rw [(scanBook_path hscan).1]
    exact ⟨hpath, hscan⟩
  have hbooks : ∀ path ∈ booksOf known disk name, path ∈ known ∧ path.1 = name := by
    intro path hpath
    obtain ⟨hin, hname⟩ := List.mem_filter.mp ((List.mem_insertionSort _).mp hpath)
    rw [decide_eq_true_eq] at hname
    exact ⟨hin, hname.1⟩
  refine ⟨fun c hc => (hmem c hc).2, fun c hc => (hbooks _ (hmem c hc).1).1, fun c hc => ?_, ?_, ?_⟩
  · rw [(hbooks _ (hmem c hc).1).2]
    exact List.mem_singleton_self _
  · have hnodup : (booksOf known disk name).Nodup :=
      (List.perm_insertionSort (fun a b : Path => a.2 ≤ b.2) _).nodup_iff.mpr (hknown.filter _)
    exact (Collect.sublist_collect h fun path candidate hscan => (scanBook_path hscan).1).nodup hnodup
  · intro path hpath hname _ candidate hscan
    obtain ⟨-, -, dir, -, -, hdir, -⟩ := scanBook_path hscan
    refine (Collect.mem_collect_iff h candidate).mpr ⟨path, (List.mem_insertionSort _).mpr ?_, hscan⟩
    refine List.mem_filter.mpr ⟨hpath, decide_eq_true ⟨List.mem_singleton.mp hname, ?_⟩⟩
    rw [hdir]
    rfl

/-- The scan takes no step, and selects restore points that are there. -/
theorem scanEntries_eq (hlist : listPendingQuarantines env.sha disk = ([], .ok []))
    (hknown : known.Nodup)
    (hscan : ∀ path ∈ known, (disk.points path).isSome → ∃ out, scanBook env now disk path = .ok out)
    {names : List String} (hnames : ∀ name ∈ names, name = quarantineRootName ∨
      startsWith name "." = false) (hnodup : names.Nodup) :
    ∃ candidates, scanEntries env now known names disk = ([], .ok candidates) ∧
      Selected env now disk known names candidates := by
  induction names with
  | nil =>
    have hnone : ∀ candidate ∈ ([] : List RestoreDeletionCandidate), ∀ p : Prop, p :=
      fun _ h => absurd h List.not_mem_nil
    exact ⟨[], rfl, fun c hc => hnone c hc _, fun c hc => hnone c hc _, fun c hc => hnone c hc _,
      List.nodup_nil, fun _ _ hname => absurd hname List.not_mem_nil⟩
  | cons name names ih =>
    obtain ⟨hout, hnodup⟩ := List.nodup_cons.mp hnodup
    obtain ⟨rest, hrest, hselected⟩ := ih (fun n hn => hnames n (List.mem_cons_of_mem _ hn)) hnodup
    have hweaken : ∀ c ∈ rest, c.path.1 ∈ name :: names := fun c hc =>
      List.mem_cons_of_mem _ (hselected.mem_names c hc)
    rw [scanEntries]
    by_cases hroot : name = quarantineRootName
    · rw [if_pos hroot, bind_of_ok (a := []) (by rw [hlist]), hlist]
      refine ⟨rest, ?_, hselected.scanned, hselected.mem_known, hweaken, hselected.distinct, ?_⟩
      swap
      · intro path hpath hname hne candidate hscan'
        have hin := (List.mem_cons.mp hname).resolve_left fun heq => hne (heq.trans hroot)
        exact hselected.complete path hpath hin hne candidate hscan'
      show ([] ++ (scanEntries env now known names disk).1, (scanEntries env now known names disk).2) = _
      rw [hrest]
      rfl
    · have hdot := (hnames name List.mem_cons_self).resolve_left hroot
      have hfind : ∀ path ∈ booksOf known disk name, ∃ out, scanBook env now disk path = .ok out := by
        intro path hpath
        obtain ⟨hin, hname⟩ := List.mem_filter.mp ((List.mem_insertionSort _).mp hpath)
        rw [decide_eq_true_eq] at hname
        exact hscan path hin hname.2
      obtain ⟨found, hfound⟩ := Collect.exists_collect_iff.mpr hfind
      have hbooks := selected_books hknown hfound
      rw [if_neg hroot, if_neg (by rw [hdot]; exact Bool.false_ne_true), ask_bind, hfound, lift_ok_bind,
        bind_of_ok (a := rest) (by rw [hrest]), hrest]
      refine ⟨found ++ rest, rfl, ?_, ?_, ?_, ?_, ?_⟩
      · exact fun c hc => (List.mem_append.mp hc).elim (hbooks.scanned c) (hselected.scanned c)
      · exact fun c hc => (List.mem_append.mp hc).elim (hbooks.mem_known c) (hselected.mem_known c)
      · refine fun c hc => (List.mem_append.mp hc).elim (fun hc => ?_) (hweaken c)
        rw [List.mem_singleton.mp (hbooks.mem_names c hc)]
        exact List.mem_cons_self
      · rw [List.map_append]
        refine List.Nodup.append hbooks.distinct hselected.distinct ?_
        intro path hpath hpath'
        obtain ⟨c, hc, rfl⟩ := List.mem_map.mp hpath
        obtain ⟨c', hc', heq⟩ := List.mem_map.mp hpath'
        have hname := List.mem_singleton.mp (hbooks.mem_names c hc)
        exact hout (hname ▸ heq ▸ hselected.mem_names c' hc')
      · intro path hpath hname hne candidate hscan'
        rcases List.mem_cons.mp hname with heq | hin
        · exact List.mem_append_left _
            (hbooks.complete path hpath (heq ▸ List.mem_singleton_self _) hne candidate hscan')
        · exact List.mem_append_right _ (hselected.complete path hpath hin hne candidate hscan')

end

/-! ### Sound stores -/

/-- Nothing is staged or pending, and what stands in the tree can be read. -/
structure Sound (env : Environment) (store : Store) : Prop where
  staging : store.disk.staging = []
  root : store.disk.quarantineRoot = false → store.disk.transactions = []
  settled : ∀ entry ∈ store.disk.transactions, Settled store.disk.points entry
  nodup : store.known.Nodup
  known : ∀ path dir, store.disk.points path = some dir → path ∈ store.known
  names : ∀ path ∈ store.known, IsName path.1 ∧ IsName path.2 ∧ startsWith path.1 "." = false
  readable : ∀ path dir, store.disk.points path = some dir → ∃ manifest stamp,
    Assoc.get? "restore.json" dir.files = some manifest ∧
      Expiry.readStamp env.fromisoformat env.defaultTtl (env.loads manifest) = .ok stamp

theorem sound_empty (env : Environment) : Sound env Store.empty :=
  ⟨rfl, fun _ => rfl, fun _ h => absurd h List.not_mem_nil, List.nodup_nil,
    fun _ _ h => absurd h.symm (Option.some_ne_none _), fun _ h => absurd h List.not_mem_nil,
    fun _ _ h => absurd h.symm (Option.some_ne_none _)⟩

namespace Sound

variable {env : Environment} {store : Store} {now : ℤ} {fresh : Fresh} {backup : String}
  {removals : List (Path → Option RestoreDir)}

theorem exists_scanBook (h : Sound env store) (path : Path)
    (hpath : (store.disk.points path).isSome) :
    ∃ out, scanBook env now store.disk path = .ok out := by
  obtain ⟨dir, hdir⟩ := Option.isSome_iff_exists.mp hpath
  obtain ⟨manifest, stamp, hmanifest, hstamp⟩ := h.readable path dir hdir
  rw [scanBook, hdir]
  simp only [hmanifest, hstamp]
  by_cases hold : now - stamp.1 ≤ stamp.2
  · exact ⟨_, if_pos hold⟩
  · exact ⟨_, if_neg hold⟩

/-- The manifest is built, without a step. -/
theorem exists_manifest (h : Sound env store) (now : ℤ) :
    ∃ candidates, buildDeletionManifest env now store.known store.disk = ([], .ok candidates) ∧
      Selected env now store.disk store.known (entriesOf store.known store.disk.quarantineRoot)
        candidates := by
  refine scanEntries_eq (list_settled h.staging h.settled env.sha) h.nodup
    (fun path _ hpath => h.exists_scanBook path hpath) ?_ ?_
  · intro name hname
    have hmem := List.mem_dedup.mp ((List.mem_insertionSort _).mp hname)
    rcases List.mem_append.mp hmem with hmem | hmem
    · obtain ⟨path, hpath, rfl⟩ := List.mem_map.mp hmem
      exact .inr (h.names path hpath).2.2
    · split at hmem
      · exact .inl (List.mem_singleton.mp hmem)
      · cases hmem
  · exact (List.perm_insertionSort (· ≤ · : String → String → Prop) _).nodup_iff.mpr
      (List.nodup_dedup _)

/-- What is selected can be deleted, when its names have no leading dot. -/
theorem exists_plan (h : Sound env store) {candidates : List RestoreDeletionCandidate}
    (hselected : Selected env now store.disk store.known
      (entriesOf store.known store.disk.quarantineRoot) candidates)
    (hdotless : Op.Dotless env store now) (hid : isTransactionId fresh.id = true)
    (hnew : fresh.id ∉ Assoc.keys store.disk.transactions) (hbackup : backup.length = 64)
    (hne : candidates ≠ []) :
    ∃ plan : Plan env.sha, plan.fresh = fresh ∧ plan.backup = backup ∧ plan.candidates = candidates ∧
      plan.points = store.disk.points ∧ plan.others = store.disk.transactions ∧
      plan.Start store.disk :=
  ⟨{  fresh, backup, candidates
      points := store.disk.points
      others := store.disk.transactions
      id_valid := hid
      id_new := hnew
      backup_length := hbackup
      candidates_ne := hne
      distinct := hselected.distinct
      named := by
        intro candidate hcandidate
        obtain ⟨hrun, hbook, hdot⟩ := h.names _ (hselected.mem_known candidate hcandidate)
        obtain ⟨-, -, dir, manifest, stamp, hdir, hmanifest, hstamp, hold⟩ :=
          scanBook_path (hselected.scanned candidate hcandidate)
        refine relativeOf_relativeText hrun hbook hdot (Bool.eq_false_iff.mpr fun hdot' => ?_)
        exact absurd (hdotless _ dir hdot' hdir manifest hmanifest stamp hstamp) (not_le.mpr hold)
      present := fun candidate hcandidate =>
        (scanBook_path (hselected.scanned candidate hcandidate)).2.1
      settled := h.settled },
    rfl, rfl, rfl, rfl, rfl, ⟨rfl, rfl, h.staging, h.root⟩⟩

end Sound

/-! ### What a creation leaves -/

theorem createPoint_eq {c : Create} (h : c.Returns) (written : Written) (store : Store) :
    createPoint c written store =
      { disk :=
          { store.disk with
            points := Function.update store.disk.points c.slot
              (some (written.dir (store.disk.points c.slot))) }
        known := if c.slot ∈ store.known then store.known else store.known ++ [c.slot] } := by
  rw [createPoint, h.pathFor]

theorem update_eq_some {points : Path → Option RestoreDir} {slot path : Path} {dir dir' : RestoreDir}
    (h : Function.update points slot (some dir') path = some dir) :
    path = slot ∧ dir = dir' ∨ points path = some dir := by
  rw [Function.update_apply] at h
  split at h
  · exact .inl ⟨‹_›, (Option.some.inj h).symm⟩
  · exact .inr h

theorem mem_insertKnown {known : List Path} {slot path : Path} :
    path ∈ (if slot ∈ known then known else known ++ [slot]) ↔ path ∈ known ∨ path = slot := by
  split
  · rename_i hslot
    exact ⟨.inl, fun h => h.elim id fun heq => heq ▸ hslot⟩
  · rw [List.mem_append, List.mem_singleton]

theorem nodup_insertKnown {known : List Path} {slot : Path} (h : known.Nodup) :
    (if slot ∈ known then known else known ++ [slot]).Nodup := by
  split
  · exact h
  · rename_i hout
    rw [List.nodup_append_comm, List.singleton_append, List.nodup_cons]
    exact ⟨hout, h⟩

/-- A journal that does not name the new directory stays as it is. -/
theorem Settled.update {points : Path → Option RestoreDir} {entry : String × Transaction}
    (h : Settled points entry) {slot : Path} {dir : Option RestoreDir}
    (hout : ∀ journal ∈ entry.2.journal,
      relativeText slot ∉ journal.candidates.map Item.relativePath) :
    Settled (Function.update points slot dir) entry := by
  obtain ⟨journal, hread, hstate, hdevice, hinode, hpayload, hsources⟩ := h.exists_journal
  refine ⟨journal, hread, hstate, hdevice, hinode, hpayload, fun item hitem => ?_⟩
  obtain ⟨hjournal, haccepted⟩ := accepted_of_read hread
  rw [Function.update_of_ne, hsources item hitem]
  intro hslot
  obtain ⟨path, hpath⟩ := Option.ne_none_iff_exists'.mp (haccepted.paths item hitem)
  have htext := relativeText_of_relativeOf hpath
  rw [Item.path, hpath] at hslot
  refine hout journal hjournal ?_
  rw [← hslot]
  exact htext ▸ List.mem_map_of_mem hitem

/-! ### What a pass leaves -/

theorem Settled.mono {points points' : Path → Option RestoreDir} {entry : String × Transaction}
    (h : Settled points entry) (hpoints : ∀ path, points path = none → points' path = none) :
    Settled points' entry := by
  obtain ⟨journal, hread, hstate, hdevice, hinode, hpayload, hsources⟩ := h.exists_journal
  exact ⟨journal, hread, hstate, hdevice, hinode, hpayload, fun item hitem =>
    hpoints _ (hsources item hitem)⟩

namespace Plan

variable {sha : Sha256} {plan : Plan sha} {disk : Disk}

theorem Deletion.published (h : plan.Deletion disk) :
    plan.Unpublished disk ∨ ∃ gone transaction, disk = plan.disk gone transaction := by
  rcases h with h | ⟨parents, n, rfl⟩ | ⟨gone, moved, parents, n, -, -, -, -, rfl⟩ |
    ⟨moved, parents, n, -, rfl⟩ | ⟨moved, payload, n, -, -, rfl⟩ | ⟨moved, n, -, rfl⟩
  · exact .inl h
  all_goals exact .inr ⟨_, _, rfl⟩

/-- On the way, the journals are accepted. -/
theorem Deletion.accepted (h : plan.Deletion disk) : JournalsAccepted sha disk := by
  rcases h.published with hnone | ⟨gone, transaction, rfl⟩
  · refine accepted_of_settled fun entry hentry => ?_
    rw [hnone.transactions] at hentry
    rw [hnone.points]
    exact plan.settled entry hentry
  · intro entry hentry
    have hlisted := h.safe.listed
    rw [Program.result, list_disk] at hlisted
    cases hcheck : checkTransaction sha (plan.disk gone transaction) entry with
    | ok pending => exact accepted_of_check hcheck
    | error e =>
      obtain ⟨e', he'⟩ := pendingOf_eq_error
        ((List.mem_insertionSort fun a b : String × Transaction => a.1 ≤ b.1).mpr hentry) hcheck
      cases hlisted.symm.trans he'

end Plan

namespace Sound

variable {env : Environment} {store : Store} {now : ℤ} {fresh : Fresh} {backup : String}
  {removals : List (Path → Option RestoreDir)}

/-- A pass deletes what is selected. -/
theorem deletePass_eq (h : Sound env store) (now : ℤ) (fresh : Fresh) (backup : String)
    (removals : List (Path → Option RestoreDir)) :
    ∃ candidates, Selected env now store.disk store.known
        (entriesOf store.known store.disk.quarantineRoot) candidates ∧
      deletePass env store now fresh backup removals store.disk
        = quarantineAndDelete env.sha fresh candidates backup removals store.disk := by
  obtain ⟨candidates, hbuild, hselected⟩ := h.exists_manifest now
  refine ⟨candidates, hselected, ?_⟩
  rw [deletePass, bind_of_ok (a := candidates) (by rw [hbuild]), hbuild]
  rfl

/-- Nothing is deleted without a backup, or when nothing is selected. -/
theorem quarantineAndDelete_idle {sha : Sha256} {candidates : List RestoreDeletionCandidate}
    {disk : Disk} (h : backup.length ≠ 64 ∨ candidates = []) :
    (quarantineAndDelete sha fresh candidates backup removals disk).1 = [] := by
  rw [quarantineAndDelete]
  by_cases hlength : backup.length = 64
  · rw [if_neg (not_not.mpr hlength), h.resolve_left (not_not.mpr hlength)]
    rfl
  · rw [if_pos hlength]
    rfl

/-- After a deletion. -/
theorem of_deleted (h : Sound env store) {plan : Plan env.sha} (hpoints : plan.points = store.disk.points)
    (hothers : plan.others = store.disk.transactions) {disk : Disk} (hdeleted : plan.Deleted disk) :
    Sound env { store with disk } := by
  obtain ⟨moved, n, hall, rfl⟩ := hdeleted
  have hsome : ∀ path dir, plan.without plan.paths path = some dir →
      store.disk.points path = some dir := by
    intro path dir hdir
    rw [Plan.without] at hdir
    split at hdir
    · cases hdir
    · rwa [← hpoints]
  refine ⟨rfl, fun hroot => Bool.noConfusion hroot, fun entry hentry => ?_, h.nodup, fun path dir hdir => h.known path dir
    (hsome path dir hdir), h.names, fun path dir hdir => h.readable path dir (hsome path dir hdir)⟩
  rcases List.mem_append.mp hentry with hother | hown
  · rw [hothers] at hother
    exact (h.settled entry hother).mono fun path hnone => Plan.without_none _ (hpoints ▸ hnone)
  · rw [List.mem_singleton.mp hown]
    refine ⟨_, Plan.read_transaction hall.subset hall.nodup .deleted, rfl, rfl, rfl, rfl, ?_⟩
    intro item hitem
    obtain ⟨candidate, hmem, rfl⟩ := List.mem_map.mp hitem
    rw [Plan.item_path hmem]
    exact if_pos (List.mem_map_of_mem hmem)

/-- A pass that is honest and keeps to the names. -/
theorem pass (h : Sound env store) (hhonest : Op.Honest env store (.pass now fresh backup removals))
    (hdotless : backup.length = 64 → Op.Dotless env store now) :
    Sound env (store.exec env (.pass now fresh backup removals)) ∧
      ∀ disk ∈ Op.way env store (.pass now fresh backup removals), JournalsAccepted env.sha disk := by
  obtain ⟨candidates, hselected, heq⟩ := h.deletePass_eq now fresh backup removals
  rw [Store.exec, after_congr heq, Op.way, heq]
  by_cases hidle : backup.length ≠ 64 ∨ candidates = []
  · rw [after_of_nil (quarantineAndDelete_idle hidle), quarantineAndDelete_idle hidle]
    exact ⟨h, fun _ hdisk => absurd hdisk List.not_mem_nil⟩
  · rw [not_or, not_not] at hidle
    obtain ⟨plan, rfl, rfl, rfl, hpoints, hothers, hstart⟩ := h.exists_plan hselected
      (hdotless hidle.1) hhonest.1 hhonest.2 hidle.1 hidle.2
    have htriple := plan.triple_quarantineAndDelete removals
    obtain ⟨count, -, -, hdeleted⟩ := htriple.returns hstart
    exact ⟨h.of_deleted hpoints hothers hdeleted,
      fun disk hdisk => ((htriple _ hstart).1 disk hdisk).accepted⟩

/-- The restore point at a path is expired. -/
theorem scanBook_of_expired {disk : Disk} {path : Path} {dir : RestoreDir} {manifest : List UInt8}
    {stamp : ℤ × ℤ} (hdir : disk.points path = some dir)
    (hmanifest : Assoc.get? "restore.json" dir.files = some manifest)
    (hstamp : Expiry.readStamp env.fromisoformat env.defaultTtl (env.loads manifest) = .ok stamp)
    (hold : stamp.2 < now - stamp.1) :
    scanBook env now disk path
      = .ok (some ⟨path, env.sha.hexdigest manifest, dir.device, dir.inode⟩) := by
  rw [scanBook, hdir]
  simp only [hmanifest, hstamp]
  rw [if_neg (not_le.mpr hold)]

/-- A pass with a backup deletes what is expired, and nothing else. -/
theorem pass_points (h : Sound env store)
    (hhonest : Op.Honest env store (.pass now fresh backup removals))
    (hdotless : Op.Dotless env store now) (hbackup : backup.length = 64) {path : Path}
    {dir : RestoreDir} (hdir : store.disk.points path = some dir) {manifest : List UInt8}
    {stamp : ℤ × ℤ} (hmanifest : Assoc.get? "restore.json" dir.files = some manifest)
    (hstamp : Expiry.readStamp env.fromisoformat env.defaultTtl (env.loads manifest) = .ok stamp) :
    (store.exec env (.pass now fresh backup removals)).disk.points path
      = if stamp.2 < now - stamp.1 then none else some dir := by
  obtain ⟨candidates, hselected, heq⟩ := h.deletePass_eq now fresh backup removals
  have hmem : path ∈ candidates.map RestoreDeletionCandidate.path ↔ stamp.2 < now - stamp.1 := by
    constructor
    · intro hpath
      obtain ⟨candidate, hcandidate, rfl⟩ := List.mem_map.mp hpath
      obtain ⟨-, -, dir', manifest', stamp', hdir', hmanifest', hstamp', hold⟩ :=
        scanBook_path (hselected.scanned candidate hcandidate)
      cases hdir.symm.trans hdir'
      cases hmanifest.symm.trans hmanifest'
      cases hstamp.symm.trans hstamp'
      exact hold
    · intro hold
      have hknown := h.known path dir hdir
      have hentry : path.1 ∈ entriesOf store.known store.disk.quarantineRoot :=
        (List.mem_insertionSort _).mpr (List.mem_dedup.mpr
          (List.mem_append_left _ (List.mem_map_of_mem hknown)))
      have hroot : path.1 ≠ quarantineRootName := by
        intro heq
        have hdot := (h.names path hknown).2.2
        rw [heq] at hdot
        exact absurd hdot (by decide)
      exact List.mem_map.mpr ⟨_, hselected.complete path hknown hentry hroot _
        (scanBook_of_expired hdir hmanifest hstamp hold), rfl⟩
  rw [Store.exec, after_congr heq]
  by_cases hempty : candidates = []
  · rw [after_of_nil (quarantineAndDelete_idle (.inr hempty)), if_neg fun hold => ?_]
    · exact hdir
    · rw [hempty] at hmem
      exact List.not_mem_nil (hmem.mpr hold)
  · obtain ⟨plan, rfl, rfl, rfl, hpoints, -, hstart⟩ := h.exists_plan hselected hdotless
      hhonest.1 hhonest.2 hbackup hempty
    obtain ⟨count, -, -, moved, n, -, hdeleted⟩ :=
      (plan.triple_quarantineAndDelete removals).returns hstart
    rw [hdeleted]
    show plan.without plan.paths path = _
    rw [Plan.without, hpoints, hdir]
    exact if_congr hmem rfl rfl

/-- A creation that is honest and apart. -/
theorem create (h : Sound env store) {c : Create} {written : Written}
    (hhonest : Op.Honest env store (.create c written)) (hapart : Op.Apart store c) :
    Sound env (store.exec env (.create c written)) := by
  obtain ⟨hreturns, hloads, hlow, hhigh⟩ := hhonest
  obtain ⟨hdot, hjournals⟩ := hapart
  obtain ⟨hrun, hbook⟩ := isName_of_pathFor hreturns.pathFor
  rw [Store.exec, createPoint_eq hreturns]
  refine ⟨h.staging, h.root, fun entry hentry => (h.settled entry hentry).update (hjournals entry hentry),
    nodup_insertKnown h.nodup, fun path dir hdir => ?_, fun path hmem => ?_, fun path dir hdir => ?_⟩
  · rcases update_eq_some hdir with ⟨rfl, -⟩ | hdir
    · exact mem_insertKnown.mpr (.inr rfl)
    · exact mem_insertKnown.mpr (.inl (h.known path dir hdir))
  · rcases mem_insertKnown.mp hmem with hmem | rfl
    · exact h.names path hmem
    · exact ⟨hrun, hbook, hdot⟩
  · rcases update_eq_some hdir with ⟨rfl, rfl⟩ | hdir
    · refine ⟨written.manifest, (c.now, c.ttl_seconds * 1000000), ?_, ?_⟩
      · rw [Written.dir, Assoc.get?_set, if_pos rfl]
      · rw [hloads]
        exact readStamp_restoreJson hlow hhigh
    · exact h.readable path dir hdir

end Sound

/-! ### Main results -/

/-- One operation. -/
theorem Sound.exec {env : Environment} {store : Store} {op : Op} (h : Sound env store)
    (hop : op.Honest env store ∧ op.Legal env store) :
    Sound env (store.exec env op) ∧ ∀ disk ∈ op.way env store, JournalsAccepted env.sha disk := by
  cases op with
  | create c written => exact ⟨h.create hop.1 hop.2, fun _ hdisk => absurd hdisk List.not_mem_nil⟩
  | pass now fresh backup removals => exact h.pass hop.1 hop.2

/-- Among creations and passes that keep to the names, a pass with a backup deletes every restore point
that is expired, and leaves every other as it is. -/
theorem pass_deletes_expired (env : Environment) (before : List Op) (now : ℤ) (fresh : Fresh)
    (backup : String) (removals : List (Path → Option RestoreDir))
    (h : Runs.Meets (Store.exec env) (fun store op => op.Honest env store ∧ op.Legal env store)
      Store.empty (before ++ [.pass now fresh backup removals])) (hbackup : backup.length = 64) :
    ∀ path dir, (Runs.run (Store.exec env) Store.empty before).disk.points path = some dir →
      ∃ manifest appliedAt ttl, Assoc.get? "restore.json" dir.files = some manifest ∧
        Expiry.readStamp env.fromisoformat env.defaultTtl (env.loads manifest)
          = .ok (appliedAt, ttl) ∧
        (Runs.run (Store.exec env) Store.empty
          (before ++ [.pass now fresh backup removals])).disk.points path
            = if ttl < now - appliedAt then none else some dir := by
  intro path dir hdir
  rw [Runs.Meets.append] at h
  have hsound := h.1.invariant _ (fun store op hop hstore => (Sound.exec hstore hop).1)
    (sound_empty env)
  obtain ⟨hhonest, hlegal⟩ := h.2.1
  obtain ⟨manifest, ⟨appliedAt, ttl⟩, hmanifest, hstamp⟩ := hsound.readable path dir hdir
  refine ⟨manifest, appliedAt, ttl, hmanifest, hstamp, ?_⟩
  rw [Runs.run_append]
  exact hsound.pass_points hhonest (hlegal hbackup) hbackup hdir hmanifest hstamp

/-! ### A name with a leading dot -/

/-- A creation at the epoch, for a book with this key. -/
def keyedCall (bookKey : String) : Create where
  run_id := "run"
  book_key := bookKey
  calibre_book_id := none
  before_metadata := .obj []
  after_metadata := .obj []
  fields_changed := []
  original_opf := none
  original_file := none
  original_cover := none
  directory := true
  now := 0
  ttl_seconds := 0

/-- Every document is the one of this creation. -/
def keyedEnvironment (bookKey : String) : Environment where
  sha := constantSha
  calendar := .tally
  loads _ := some (.obj ((keyedCall bookKey).restoreJson .tally))
  defaultTtl := 0

/-- What the creation writes. -/
def keyedWritten : Written := ⟨[], [], 1, 2⟩

/-- A pass a microsecond later. -/
def keyedPass : Op :=
  .pass 1 ⟨"00000000000000000000000000000000", 1, 3, 1, 4⟩ (String.ofList (List.replicate 64 'b')) []

/-- A creation, and a pass that deletes it. -/
def keyedOps (bookKey : String) : List Op :=
  [.create (keyedCall bookKey) keyedWritten, keyedPass]

theorem honest_keyedOps (bookKey : String)
    (h : pathFor "run" bookKey = some ("run", safeName bookKey)) :
    Runs.Meets (Store.exec (keyedEnvironment bookKey))
      (fun store op => op.Honest (keyedEnvironment bookKey) store) Store.empty (keyedOps bookKey) := by
  have hbounds : 86400000000 - Expiry.maxTimedelta ≤ 0 * 1000000 ∧ 0 * 1000000 < Expiry.maxTimedelta := by
    decide
  have hreturns : (keyedCall bookKey).Returns :=
    ⟨by rw [keyedCall, h]; rfl, rfl, fun _ ho => absurd ho List.not_mem_nil⟩
  refine ⟨⟨hreturns, rfl, hbounds.1, hbounds.2⟩, ⟨by decide, ?_⟩, trivial⟩
  rw [Store.exec, createPoint, keyedCall, h]
  exact List.not_mem_nil

/-- The same book, without the dot. -/
theorem legal_keyedOps : Runs.Meets (Store.exec (keyedEnvironment "key"))
    (fun store op => op.Honest (keyedEnvironment "key") store ∧ op.Legal (keyedEnvironment "key") store)
    Store.empty (keyedOps "key") := by
  have hhonest := honest_keyedOps "key" (by decide)
  refine ⟨⟨hhonest.1, by decide, fun _ hentry => absurd hentry List.not_mem_nil⟩,
    ⟨hhonest.2.1, ?_⟩, trivial⟩
  -- the only restore point is that of the creation
  intro _ path dir hdot hdir
  have hpath : pathFor "run" "key" = some ("run", "key") := by decide
  rw [Store.exec, createPoint, keyedCall, hpath] at hdir
  by_cases heq : path = ("run", "key")
  · rw [heq] at hdot
    exact absurd hdot (by decide)
  · exact absurd hdir (by simp [Function.update_of_ne heq, Store.empty])

theorem keyed_deleted :
    (Runs.run (Store.exec (keyedEnvironment "key")) Store.empty (keyedOps "key")).disk.points
      ("run", "key") = none := by
  have hpath : pathFor "run" "key" = some ("run", "key") := by decide
  have hdir : (Runs.run (Store.exec (keyedEnvironment "key")) Store.empty
      [.create (keyedCall "key") keyedWritten]).disk.points ("run", "key")
        = some (keyedWritten.dir none) := by
    rw [Runs.run_cons, Runs.run_nil, Store.exec, createPoint, keyedCall, hpath]
    show Function.update Store.empty.disk.points ("run", "key") (some (keyedWritten.dir none))
      ("run", "key") = _
    exact Function.update_self _ _ _
  obtain ⟨manifest, appliedAt, ttl, -, hstamp, hpoints⟩ :=
    pass_deletes_expired (keyedEnvironment "key") [.create (keyedCall "key") keyedWritten] 1
      ⟨"00000000000000000000000000000000", 1, 3, 1, 4⟩ (String.ofList (List.replicate 64 'b')) []
      legal_keyedOps (by decide) ("run", "key") _ hdir
  cases hstamp.symm.trans (@readStamp_restoreJson (keyedEnvironment "key") (keyedCall "key")
    (by decide) (by decide))
  exact hpoints

end Bookwarden.Retention.Quarantine
