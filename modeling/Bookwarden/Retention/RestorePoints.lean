import Bookwarden.Python
import Bookwarden.Lib.Slots

/-!
# Restore points

`RestorePointStore` of `verification/restore.py`: one directory for each run and book, with copies
of the originals and three docdata snapshots, written before a book is changed.

## What is a parameter

`Calendar` is the pair `datetime.isoformat` and `datetime.fromisoformat` on the instants the store
writes. The disk answers for each directory and for each copied original; the three snapshots are
written without an I/O error.

## Main definitions

* `pathFor`, `create`, `listAll`
* `History` — the calls of a store that returned, and the tree they left

## Main results

* `History.holds` — a directory holds the snapshots of the last call that was given it
* `restore_points_apart` — exactly when different restore points keep apart
-/

namespace Bookwarden.Retention

/-- `datetime.isoformat` and `datetime.fromisoformat` on UTC instants, in microseconds. -/
structure Calendar where
  isoformat : ℤ → String
  /-- `none` when it raises `ValueError`. -/
  fromisoformat : String → Option ℤ
  fromisoformat_isoformat : ∀ t, fromisoformat (isoformat t) = some t

attribute [simp] Calendar.fromisoformat_isoformat

/-- A stand-in that prints instants as tallies. -/
def Calendar.tally : Calendar where
  isoformat
    | .ofNat n => String.ofList (List.replicate n '|')
    | .negSucc n => String.ofList ('-' :: List.replicate n '|')
  fromisoformat s :=
    some (if s.toList.head? = some '-' then .negSucc (s.toList.length - 1) else s.toList.length)
  fromisoformat_isoformat
    | .ofNat 0 => by simp
    | .ofNat (n + 1) => by simp [List.replicate_succ]
    | .negSucc n => by simp

/-! ### Names -/

/-- The characters outside `[^A-Za-z0-9._-]`. -/
def isNameChar (c : Char) : Bool :=
  ('A' ≤ c && c ≤ 'Z') || ('a' ≤ c && c ≤ 'z') || ('0' ≤ c && c ≤ '9') || c == '.' || c == '_' ||
    c == '-'

/-- `re.sub(r"[^A-Za-z0-9._-]", "_", name)`. -/
def safeName (name : String) : String :=
  String.ofList (name.toList.map fun c => if isNameChar c then c else '_')

/-- The directory of a restore point below the restore root: run, then book. -/
abbrev RestorePath := String × String

/-- The identifiers `path_for` refuses after the substitution. -/
def unsafeNames : List String := ["", ".", ".."]

/-- `RestorePointStore.path_for`; `none` when it raises `ValueError`. -/
def pathFor (run_id book_key : String) : Option RestorePath :=
  let safe_key := safeName book_key
  let safe_run := safeName run_id
  if safe_key ∈ unsafeNames ∨ safe_run ∈ unsafeNames then none else some (safe_run, safe_key)

theorem pathFor_eq_some {run_id book_key : String} {path : RestorePath}
    (h : pathFor run_id book_key = some path) : path = (safeName run_id, safeName book_key) := by
  rw [pathFor] at h
  split at h
  · cases h
  · exact (Option.some.inj h).symm

/-! ### The store -/

/-- What a file holds: copied bytes, or the text of a JSON document. -/
inductive File
  | bytes (contents : String)
  | json (document : Json)
  deriving DecidableEq

/-- The files of a restore point, by name. -/
abbrev RestoreDir := List (String × File)

/-- The directories below the restore root. -/
abbrev RestoreTree := Table RestorePath RestoreDir

/-- How `copy_file_replacing_beneath` ends for one original. -/
inductive Copied
  | copied (contents : String)
  /-- `OSError`, which `create` logs. -/
  | failed
  /-- `SecurePathError`, which leaves `create`. -/
  | refused
  deriving DecidableEq

/-- The arguments of one `create`, with the clock and the disk's answers. -/
structure Create where
  run_id : String
  book_key : String
  calibre_book_id : Option ℤ
  before_metadata : Json
  after_metadata : Json
  fields_changed : List String
  /-- `original_opf`, when it is given. -/
  original_opf : Option Copied
  /-- The suffix of `original_file`, when it is given. -/
  original_file : Option (String × Copied)
  original_cover : Option (String × Copied)
  /-- Does `ensure_secure_directory` accept the directory? -/
  directory : Bool
  now : ℤ
  ttl_seconds : ℤ

/-- The pair a restore point belongs to. -/
def Create.pair (c : Create) : String × String := (c.run_id, c.book_key)

/-- The directory names of a restore point. -/
def Create.slot (c : Create) : RestorePath := (safeName c.run_id, safeName c.book_key)

/-- The copies `create` attempts, with their target names, in its order. -/
def Create.originals (c : Create) : List (String × Copied) :=
  (c.original_opf.map fun copy => ("original.opf", copy)).toList ++
    (c.original_file.map fun f => ("original" ++ f.1, f.2)).toList ++
    (c.original_cover.map fun f => ("original.cover" ++ f.1, f.2)).toList

/-- The text of `restore.json`. -/
def Create.restoreJson (cal : Calendar) (c : Create) : Dict :=
  [("run_id", .str c.run_id), ("book_key", .str c.book_key),
    ("calibre_book_id", (c.calibre_book_id.map Json.int).getD .null),
    ("applied_at", .str (cal.isoformat c.now)), ("fields_changed", .strs c.fields_changed),
    ("ttl_seconds", .int c.ttl_seconds)]

/-- The docdata snapshots of a call, in the order they are written. -/
def Create.snapshots (cal : Calendar) (c : Create) : List (String × File) :=
  [("before.json", .json c.before_metadata), ("after.json", .json c.after_metadata),
    ("restore.json", .json (.obj (c.restoreJson cal)))]

/-- Why a call raises. -/
inductive StoreError
  | valueError
  | securePath
  | typeError
  | keyError
  | jsonDecode
  deriving DecidableEq

/-- A restore point as `RestorePointStore` hands it out. -/
structure RestorePoint where
  path : RestorePath
  run_id : Json
  book_key : Json
  calibre_book_id : Json
  applied_at : ℤ
  fields_changed : Json
  /-- In seconds. -/
  restore_point_ttl : ℚ

/-- The handle a call returns. -/
def Create.point (c : Create) (path : RestorePath) : RestorePoint :=
  { path, run_id := .str c.run_id, book_key := .str c.book_key,
    calibre_book_id := (c.calibre_book_id.map Json.int).getD .null, applied_at := c.now,
    fields_changed := .strs c.fields_changed, restore_point_ttl := c.ttl_seconds }

/-- The copies, until one raises. -/
def copyOriginals : List (String × Copied) → RestoreDir → Except StoreError Unit × RestoreDir
  | [], dir => (.ok (), dir)
  | (target, .copied contents) :: rest, dir =>
    copyOriginals rest (Assoc.set target (.bytes contents) dir)
  | (_, .failed) :: rest, dir => copyOriginals rest dir
  | (_, .refused) :: _, dir => (.error .securePath, dir)

/-- `RestorePointStore.create`. -/
def create (cal : Calendar) (c : Create) (tree : RestoreTree) :
    Except StoreError RestorePoint × RestoreTree :=
  match pathFor c.run_id c.book_key with
  | none => (.error .valueError, tree)
  | some rp_dir =>
    if c.directory then
      match copyOriginals c.originals ((tree.get? rp_dir).getD []) with
      | (.error e, dir) => (.error e, tree.set rp_dir dir)
      | (.ok (), dir) =>
        (.ok (c.point rp_dir), tree.set rp_dir (Assoc.update dir (c.snapshots cal)))
    else (.error .securePath, tree)

/-! ### `list_all` -/

/-- The restore point that a parsed `restore.json` describes. -/
def readPoint (cal : Calendar) (path : RestorePath) : File → Except StoreError RestorePoint
  | .bytes _ => .error .jsonDecode
  | .json (.obj doc) =>
    match Assoc.get? "run_id" doc, Assoc.get? "book_key" doc, Assoc.get? "applied_at" doc with
    | some run_id, some book_key, some (.str applied_at) =>
      match cal.fromisoformat applied_at, (Dict.getD doc "ttl_seconds" (.int 2592000)).num? with
      | none, _ => .error .valueError
      | some _, none => .error .typeError
      | some at_, some ttl =>
        .ok { path, run_id, book_key, calibre_book_id := Dict.get doc "calibre_book_id",
              applied_at := at_, fields_changed := Dict.getD doc "fields_changed" (.arr []),
              restore_point_ttl := ttl }
    | some _, some _, some _ => .error .typeError
    | _, _, _ => .error .keyError
  | .json _ => .error .typeError

/-- The directories `list_all` goes through. What is no restore point is passed over, but a
`TypeError` leaves it. -/
def listDirs (cal : Calendar) : List (RestorePath × RestoreDir) → Except StoreError (List RestorePoint)
  | [] => .ok []
  | (path, dir) :: rest =>
    match Assoc.get? "restore.json" dir with
    | none => listDirs cal rest
    | some file => match readPoint cal path file with
      | .ok point => (point :: ·) <$> listDirs cal rest
      | .error .typeError => .error .typeError
      | .error _ => listDirs cal rest

/-- `RestorePointStore.list_all`. -/
def listAll (cal : Calendar) (tree : RestoreTree) : Except StoreError (List RestorePoint) :=
  listDirs cal tree.rows

/-- The pair a listed restore point names. -/
def RestorePoint.pair (point : RestorePoint) : Json × Json := (point.run_id, point.book_key)

/-! ### A sequence of calls -/

/-- The calls that returned, oldest first, and the tree. -/
structure History where
  made : List Create
  tree : RestoreTree

/-- A store before its first call. -/
def History.init : History := ⟨[], Table.empty⟩

/-- One more call. -/
def History.call (cal : Calendar) (h : History) (c : Create) : History :=
  match create cal c h.tree with
  | (.ok _, tree) => ⟨h.made ++ [c], tree⟩
  | (.error _, tree) => ⟨h.made, tree⟩

/-- A sequence of calls on a new store. -/
def History.run (cal : Calendar) (calls : List Create) : History :=
  calls.foldl (History.call cal) History.init

/-! ### What one call does -/

/-- A call returns when its identifiers give a path, the disk accepts the directory, and no copy
raises. -/
def Create.Returns (c : Create) : Prop :=
  (pathFor c.run_id c.book_key).isSome ∧ c.directory = true ∧ ∀ o ∈ c.originals, o.2 ≠ .refused

instance (c : Create) : Decidable c.Returns :=
  inferInstanceAs (Decidable (_ ∧ _ ∧ ∀ o ∈ c.originals, o.2 ≠ .refused))

theorem Create.Returns.pathFor {c : Create} (h : c.Returns) :
    pathFor c.run_id c.book_key = some c.slot := by
  obtain ⟨path, hpath⟩ := Option.isSome_iff_exists.mp h.1
  rw [hpath, pathFor_eq_some hpath, Create.slot]

theorem copyOriginals_ok_iff {originals : List (String × Copied)} (dir : RestoreDir) :
    (copyOriginals originals dir).1 = .ok () ↔ ∀ o ∈ originals, o.2 ≠ .refused := by
  induction originals generalizing dir with
  | nil => simp [copyOriginals]
  | cons o originals ih =>
    obtain ⟨target, copy⟩ := o
    cases copy <;> simp [copyOriginals, ih]

/-- A file that no copy is aimed at stays as it is. -/
theorem get?_copyOriginals {originals : List (String × Copied)} {dir : RestoreDir} {name : String}
    (hname : ∀ o ∈ originals, o.1 ≠ name) :
    Assoc.get? name (copyOriginals originals dir).2 = Assoc.get? name dir := by
  induction originals generalizing dir with
  | nil => rfl
  | cons o originals ih =>
    obtain ⟨target, copy⟩ := o
    have hne : name ≠ target := fun h => hname _ List.mem_cons_self h.symm
    have hrest : ∀ o ∈ originals, o.1 ≠ name := fun o ho => hname o (List.mem_cons_of_mem _ ho)
    cases copy with
    | copied contents => rw [copyOriginals, ih hrest, Assoc.get?_set, if_neg hne]
    | failed => rw [copyOriginals, ih hrest]
    | refused => rfl

theorem ne_of_head {s t : String} (h : s.toList.head? ≠ t.toList.head?) : s ≠ t :=
  fun heq => h (heq ▸ rfl)

/-- No original takes the name of a snapshot. -/
theorem originals_name {c : Create} {name : String} (hname : name.toList.head? ≠ some 'o') :
    ∀ o ∈ c.originals, o.1 ≠ name := by
  intro o ho
  have hhead : o.1.toList.head? = some 'o' := by
    simp only [Create.originals, List.mem_append, Option.mem_toList,
      Option.map_eq_some_iff] at ho
    rcases ho with (⟨copy, -, rfl⟩ | ⟨f, -, rfl⟩) | ⟨f, -, rfl⟩
    · simp
    · simp
    · simp
  exact ne_of_head (by rw [hhead]; exact hname.symm)

theorem snapshots_head {cal : Calendar} {c : Create} {f : String × File}
    (hf : f ∈ c.snapshots cal) : f.1.toList.head? ≠ some 'o' := by
  simp only [Create.snapshots, List.mem_cons, List.not_mem_nil, or_false] at hf
  rcases hf with rfl | rfl | rfl <;> simp

/-- The directory holds the snapshots of the call. -/
def Snapshots (cal : Calendar) (c : Create) (dir : RestoreDir) : Prop :=
  ∀ f ∈ c.snapshots cal, Assoc.get? f.1 dir = some f.2

theorem Snapshots.update (cal : Calendar) (c : Create) (dir : RestoreDir) :
    Snapshots cal c (Assoc.update dir (c.snapshots cal)) := by
  intro f hf
  have hkeys : (Assoc.keys (c.snapshots cal)).Nodup := by
    simp [Assoc.keys, Create.snapshots]
  rw [Assoc.get?_update hkeys, Assoc.get?_of_mem hkeys (v := f.2) (k := f.1) hf]
  rfl

theorem Snapshots.copyOriginals {cal : Calendar} {c : Create} {dir : RestoreDir}
    (h : Snapshots cal c dir) (d : Create) :
    Snapshots cal c (copyOriginals d.originals dir).2 := by
  intro f hf
  rw [get?_copyOriginals (originals_name (snapshots_head hf))]
  exact h f hf

/-- Everything a call can do: refuse, stop at a copy, or write its snapshots. -/
theorem create_cases (cal : Calendar) (c : Create) (tree : RestoreTree) :
    (∃ e, ¬ c.Returns ∧ create cal c tree = (.error e, tree)) ∨
    (∃ e, ¬ c.Returns ∧ create cal c tree =
      (.error e, tree.set c.slot (copyOriginals c.originals ((tree.get? c.slot).getD [])).2)) ∨
    ∃ point, c.Returns ∧ create cal c tree =
      (.ok point, tree.set c.slot (Assoc.update
        (copyOriginals c.originals ((tree.get? c.slot).getD [])).2 (c.snapshots cal))) := by
  rw [create]
  cases hpath : pathFor c.run_id c.book_key with
  | none => exact .inl ⟨_, fun h => by simp [Create.Returns, hpath] at h, rfl⟩
  | some path =>
    have hslot : path = c.slot := pathFor_eq_some hpath
    subst hslot
    by_cases hdir : c.directory = true
    · right
      simp only [if_pos hdir]
      generalize hcopy : copyOriginals c.originals ((tree.get? c.slot).getD []) = copied
      obtain ⟨outcome, dir⟩ := copied
      have hok : outcome = .ok () ↔ ∀ o ∈ c.originals, o.2 ≠ .refused := by
        rw [← copyOriginals_ok_iff ((tree.get? c.slot).getD []), hcopy]
      cases outcome with
      | error e =>
        have hraises : ¬ c.Returns := fun h => by cases hok.mpr h.2.2
        exact .inl ⟨e, hraises, rfl⟩
      | ok u => exact .inr ⟨_, ⟨by rw [hpath]; rfl, hdir, hok.mp rfl⟩, rfl⟩
    · exact .inl ⟨_, fun h => hdir h.2.1, by simp only [if_neg hdir]; rfl⟩

/-! ### What a sequence of calls leaves -/

/-- The tree holds, for each directory, the snapshots of the last call that was given it. -/
structure History.Holds (cal : Calendar) (h : History) : Prop where
  returns : ∀ c ∈ h.made, c.Returns
  filled : ∀ {path c}, Assoc.get? path (Slots.fill Create.slot h.made) = some c →
    ∃ dir, h.tree.get? path = some dir ∧ Snapshots cal c dir
  unfilled : ∀ {path dir}, Assoc.get? path (Slots.fill Create.slot h.made) = none →
    h.tree.get? path = some dir → Assoc.get? "restore.json" dir = none

theorem History.Holds.init (cal : Calendar) : History.init.Holds cal where
  returns := by simp [History.init]
  filled := by simp [History.init, Slots.fill]
  unfilled := by simp [History.init]

/-- The originals of a call that raises do not touch the snapshots. -/
theorem History.Holds.copied {cal : Calendar} {h : History} (hh : h.Holds cal) (c : Create) :
    History.Holds cal ⟨h.made, h.tree.set c.slot
      (copyOriginals c.originals ((h.tree.get? c.slot).getD [])).2⟩ where
  returns := hh.returns
  filled := by
    intro path d hd
    obtain ⟨dir, hdir, hsnap⟩ := hh.filled hd
    by_cases hpath : path = c.slot
    · subst hpath
      refine ⟨_, Table.get?_set_self .., ?_⟩
      rw [hdir]
      exact hsnap.copyOriginals c
    · exact ⟨dir, by rw [Table.get?_set_of_ne _ _ hpath, hdir], hsnap⟩
  unfilled := by
    intro path dir hnone hdir
    by_cases hpath : path = c.slot
    · subst hpath
      rw [Table.get?_set_self] at hdir
      rw [← Option.some.inj hdir, get?_copyOriginals (originals_name (by simp))]
      cases hold : h.tree.get? c.slot with
      | none => rfl
      | some old => exact hh.unfilled hnone hold
    · exact hh.unfilled hnone (by rwa [Table.get?_set_of_ne _ _ hpath] at hdir)

theorem History.Holds.made {cal : Calendar} {h : History} (hh : h.Holds cal) {c : Create}
    (hc : c.Returns) (dir : RestoreDir) :
    History.Holds cal ⟨h.made ++ [c],
      h.tree.set c.slot (Assoc.update dir (c.snapshots cal))⟩ where
  returns := by
    intro d hd
    rcases List.mem_append.mp hd with hd | hd
    · exact hh.returns d hd
    · rwa [List.mem_singleton.mp hd]
  filled := by
    intro path d hd
    rw [Slots.fill_concat, Assoc.get?_set] at hd
    split at hd
    · rename_i hpath
      subst hpath
      rw [← Option.some.inj hd]
      exact ⟨_, Table.get?_set_self .., Snapshots.update cal c dir⟩
    · rename_i hpath
      obtain ⟨old, hold, hsnap⟩ := hh.filled hd
      exact ⟨old, by rw [Table.get?_set_of_ne _ _ hpath, hold], hsnap⟩
  unfilled := by
    intro path old hnone hold
    rw [Slots.fill_concat, Assoc.get?_set] at hnone
    split at hnone
    · cases hnone
    · rename_i hpath
      exact hh.unfilled hnone (by rwa [Table.get?_set_of_ne _ _ hpath] at hold)

theorem History.Holds.call {cal : Calendar} {h : History} (hh : h.Holds cal) (c : Create) :
    (h.call cal c).Holds cal := by
  rw [History.call]
  obtain ⟨e, -, heq⟩ | ⟨e, -, heq⟩ | ⟨point, hc, heq⟩ := create_cases cal c h.tree
  · rw [heq]
    exact hh
  · rw [heq]
    exact hh.copied c
  · rw [heq]
    exact hh.made hc _

/-- After every sequence of calls, each directory holds the snapshots of the last call that was
given it. -/
theorem History.holds (cal : Calendar) (calls : List Create) :
    (History.run cal calls).Holds cal := by
  induction calls using List.reverseRecOn with
  | nil => exact History.Holds.init cal
  | append_singleton calls c ih =>
    rw [History.run, List.foldl_append]
    exact ih.call c

theorem History.made_run (cal : Calendar) (calls : List Create) :
    (History.run cal calls).made = calls.filter fun c => c.Returns := by
  induction calls using List.reverseRecOn with
  | nil => rfl
  | append_singleton calls c ih =>
    rw [History.run, List.foldl_append, List.filter_append, ← ih]
    show (History.call cal (History.run cal calls) c).made = _
    rw [History.call]
    obtain ⟨e, hc, heq⟩ | ⟨e, hc, heq⟩ | ⟨point, hc, heq⟩ :=
      create_cases cal c (History.run cal calls).tree
    · rw [heq]
      simp [hc]
    · rw [heq]
      simp [hc]
    · rw [heq]
      simp [hc]

/-! ### What `list_all` reads -/

/-- The restore point of a row, if it has one. -/
def pointAt (cal : Calendar) (row : RestorePath × RestoreDir) : Option RestorePoint :=
  (Assoc.get? "restore.json" row.2).bind fun file => (readPoint cal row.1 file).toOption

/-- `list_all` reads back what `create` wrote. -/
theorem readPoint_restoreJson (cal : Calendar) (c : Create) (path : RestorePath) :
    readPoint cal path (.json (.obj (c.restoreJson cal))) = .ok (c.point path) := by
  simp [readPoint, Create.restoreJson, Create.point, Assoc.get?_cons, Dict.get, Dict.getD,
    Json.num?]

theorem listDirs_eq {cal : Calendar} {rows : List (RestorePath × RestoreDir)}
    (hread : ∀ r ∈ rows, ∀ file, Assoc.get? "restore.json" r.2 = some file →
      ∃ point, readPoint cal r.1 file = .ok point) :
    listDirs cal rows = .ok (rows.filterMap (pointAt cal)) := by
  induction rows with
  | nil => rfl
  | cons r rows ih =>
    obtain ⟨path, dir⟩ := r
    have ih := ih fun r hr => hread r (List.mem_cons_of_mem _ hr)
    rw [listDirs]
    cases hfile : Assoc.get? "restore.json" dir with
    | none =>
      have hat : pointAt cal (path, dir) = none := by rw [pointAt, hfile]; rfl
      rw [List.filterMap_cons_none hat]
      exact ih
    | some file =>
      obtain ⟨point, hpoint⟩ := hread _ List.mem_cons_self file hfile
      have hat : pointAt cal (path, dir) = some point := by
        rw [pointAt, hfile]
        show (readPoint cal path file).toOption = _
        rw [hpoint]
        rfl
      rw [List.filterMap_cons_some hat]
      simp only [hpoint, ih]
      rfl

theorem Snapshots.restoreJson {cal : Calendar} {c : Create} {dir : RestoreDir}
    (h : Snapshots cal c dir) :
    Assoc.get? "restore.json" dir = some (.json (.obj (c.restoreJson cal))) :=
  h ("restore.json", _) (by simp [Create.snapshots])

theorem History.Holds.pointAt {cal : Calendar} {h : History} (hh : h.Holds cal) {path : RestorePath}
    {dir : RestoreDir} (hdir : h.tree.get? path = some dir) :
    pointAt cal (path, dir) =
      (Assoc.get? path (Slots.fill Create.slot h.made)).map fun c => c.point path := by
  rw [Retention.pointAt]
  cases hfill : Assoc.get? path (Slots.fill Create.slot h.made) with
  | none => rw [hh.unfilled hfill hdir]; rfl
  | some c =>
    obtain ⟨dir', hdir', hsnap⟩ := hh.filled hfill
    have hsame : dir' = dir := Option.some.inj (hdir'.symm.trans hdir)
    subst hsame
    rw [hsnap.restoreJson]
    show (readPoint cal path _).toOption = _
    rw [readPoint_restoreJson]
    rfl

/-- `list_all` gives one point for each directory that a call was given. -/
theorem History.Holds.listAll {cal : Calendar} {h : History} (hh : h.Holds cal) :
    ∃ points, listAll cal h.tree = .ok points ∧
      points.map RestorePoint.pair = (Assoc.keys h.tree.rows).filterMap fun path =>
        (Assoc.get? path (Slots.fill Create.slot h.made)).map fun c =>
          (.str c.run_id, .str c.book_key) := by
  refine ⟨_, listDirs_eq fun r hr file hfile => ?_, ?_⟩
  · have hdir := Table.mem_rows_iff.mp hr
    cases hfill : Assoc.get? r.1 (Slots.fill Create.slot h.made) with
    | none => rw [hh.unfilled hfill hdir] at hfile; cases hfile
    | some c =>
      obtain ⟨dir, hdir', hsnap⟩ := hh.filled hfill
      rw [Option.some.inj (hdir.symm.trans hdir'), hsnap.restoreJson] at hfile
      rw [← Option.some.inj hfile]
      exact ⟨_, readPoint_restoreJson cal c r.1⟩
  · rw [List.map_filterMap, Assoc.keys, List.filterMap_map]
    refine List.filterMap_congr fun r hr => ?_
    rw [hh.pointAt (Table.mem_rows_iff.mp hr), Option.map_map]
    rfl

/-! ### Keeping apart -/

/-- Restore points do not overwrite each other. -/
structure Kept (cal : Calendar) (h : History) : Prop where
  /-- Different pairs have different directories. -/
  apart : ∀ c ∈ h.made, ∀ d ∈ h.made, c.pair ≠ d.pair →
    pathFor c.run_id c.book_key ≠ pathFor d.run_id d.book_key
  /-- The directory of a pair holds the snapshots of the pair's latest call. -/
  latest : ∀ pair c, Slots.last? Create.pair pair h.made = some c →
    ∃ path dir, pathFor pair.1 pair.2 = some path ∧ h.tree.get? path = some dir ∧
      Snapshots cal c dir
  /-- `list_all` gives each pair once, and nothing else. -/
  listed : ∃ points, listAll cal h.tree = .ok points ∧ (points.map RestorePoint.pair).Nodup ∧
    ∀ pair, pair ∈ points.map RestorePoint.pair ↔
      ∃ c ∈ h.made, pair = (.str c.run_id, .str c.book_key)

/-- No two different pairs become the same two names. -/
def Distinguished (calls : List Create) : Prop :=
  ∀ c ∈ calls, c.Returns → ∀ d ∈ calls, d.Returns → c.slot = d.slot → c.pair = d.pair

theorem slot_eq_of_pair_eq {c d : Create} (h : c.pair = d.pair) : c.slot = d.slot := by
  simp only [Create.pair, Prod.mk.injEq] at h
  rw [Create.slot, Create.slot, h.1, h.2]

/-- What the slots hold, when only equal pairs share one. -/
theorem History.get?_fill {h : History} {c : Create} (hc : c ∈ h.made)
    (hslot : ∀ d ∈ h.made, ∀ e ∈ h.made, d.slot = e.slot → d.pair = e.pair) :
    Assoc.get? c.slot (Slots.fill Create.slot h.made) = Slots.last? Create.pair c.pair h.made :=
  Slots.get?_fill_slot fun d hd => ⟨hslot d hd c hc, slot_eq_of_pair_eq⟩

theorem History.Holds.kept {cal : Calendar} {h : History} (hh : h.Holds cal)
    (hslot : ∀ c ∈ h.made, ∀ d ∈ h.made, c.slot = d.slot → c.pair = d.pair) : Kept cal h where
  apart := by
    intro c hc d hd hne heq
    rw [(hh.returns c hc).pathFor, (hh.returns d hd).pathFor] at heq
    exact hne (hslot c hc d hd (Option.some.inj heq))
  latest := by
    intro pair c hlast
    obtain ⟨hc, rfl⟩ := Slots.mem_of_last? hlast
    obtain ⟨dir, hdir, hsnap⟩ := hh.filled ((History.get?_fill hc hslot).trans hlast)
    exact ⟨c.slot, dir, (hh.returns c hc).pathFor, hdir, hsnap⟩
  listed := by
    obtain ⟨points, hlist, hpoints⟩ := hh.listAll
    refine ⟨points, hlist, ?_, fun pair => ?_⟩
    · rw [hpoints]
      -- the pair of a row determines its directory, so rows with distinct names give distinct pairs
      refine h.tree.nodup.filterMap fun path path' pair hp hp' => ?_
      simp only [Option.mem_def, Option.map_eq_some_iff, Slots.get?_fill] at hp hp'
      obtain ⟨c, hc, rfl⟩ := hp
      obtain ⟨d, hd, hpair⟩ := hp'
      simp only [Prod.mk.injEq, Json.str.injEq] at hpair
      rw [← (Slots.mem_of_last? hc).2, ← (Slots.mem_of_last? hd).2]
      exact slot_eq_of_pair_eq (by simp [Create.pair, hpair])
    · rw [hpoints, List.mem_filterMap]
      simp only [Option.map_eq_some_iff]
      constructor
      · rintro ⟨path, -, c, hc, rfl⟩
        rw [Slots.get?_fill] at hc
        exact ⟨c, (Slots.mem_of_last? hc).1, rfl⟩
      · rintro ⟨c, hc, rfl⟩
        obtain ⟨d, hd⟩ := Slots.last?_isSome (f := Create.pair) hc
        have hfill := (History.get?_fill hc hslot).trans hd
        obtain ⟨dir, hdir, -⟩ := hh.filled hfill
        have hpair : d.pair = c.pair := (Slots.mem_of_last? hd).2
        simp only [Create.pair, Prod.mk.injEq] at hpair
        exact ⟨c.slot, Assoc.mem_keys_iff.mpr ⟨dir, hdir⟩, d, hfill, by rw [hpair.1, hpair.2]⟩

/-- Restore points keep apart exactly when different pairs never become the same two names. -/
theorem restore_points_apart (cal : Calendar) (calls : List Create) :
    Kept cal (History.run cal calls) ↔ Distinguished calls := by
  have hmade : ∀ c, c ∈ (History.run cal calls).made ↔ c ∈ calls ∧ c.Returns := by
    intro c
    rw [History.made_run, List.mem_filter, decide_eq_true_eq]
  constructor
  · intro hkept c hc hcr d hd hdr hslot
    by_contra hne
    have happart := hkept.apart c ((hmade c).mpr ⟨hc, hcr⟩) d ((hmade d).mpr ⟨hd, hdr⟩) hne
    rw [hcr.pathFor, hdr.pathFor, hslot] at happart
    exact happart rfl
  · intro hdist
    refine (History.holds cal calls).kept fun c hc d hd => ?_
    rw [hmade] at hc hd
    exact hdist c hc.1 hc.2 d hd.1 hd.2

/-- A call for a book of run `run`, with no originals. -/
def plainCall (book_key : String) : Create :=
  { run_id := "run", book_key, calibre_book_id := some 1, before_metadata := .obj [],
    after_metadata := .obj [], fields_changed := [], original_opf := none, original_file := none,
    original_cover := none, directory := true, now := 0, ttl_seconds := 2592000 }

/-- `calibre:1` and `calibre_1` have one directory. -/
theorem restore_points_collide :
    ¬ Kept Calendar.tally
      (History.run Calendar.tally [plainCall "calibre:1", plainCall "calibre_1"]) := by
  intro hkept
  have hmade : (History.run Calendar.tally [plainCall "calibre:1", plainCall "calibre_1"]).made =
      [plainCall "calibre:1", plainCall "calibre_1"] := by
    rw [History.made_run]
    rfl
  have happart := hkept.apart (plainCall "calibre:1") (by rw [hmade]; simp)
    (plainCall "calibre_1") (by rw [hmade]; simp) (by decide)
  exact happart (by decide)

end Bookwarden.Retention
