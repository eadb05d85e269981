import Bookwarden.Exceptions
import Bookwarden.Lib.Openat
import Bookwarden.Lib.SharedFiles
import Bookwarden.Paths

/-!
# Files beneath a root

`open_file_beneath` and `read_file_beneath` of `security/files.py` on POSIX. The candidate and the root
are compared as texts, after `..` was resolved in them; then the walk starts at `/` and opens component
after component, while others change the directories. The texts of `SecurePathError` leave out what
the system said.

The walk keeps what it promises. But a component with a NUL character makes `os.open` raise a
`ValueError`, which is no `OSError` and is not turned into a `SecurePathError`; and neither `/` nor the
working directory is asked for within the `try`.

## Main results

* `SecureFiles.rooted_of_openFileBeneath` — what is yielded was walked to without a link
* `SecureFiles.openFileBeneath_iff` — when the call only ever raises `SecurePathError`
* `SecureFiles.readFileBeneath_spec` — what is read has the hash and fits the limit
-/

namespace Bookwarden

namespace SecureFiles

open Openat

/-- What `security/files.py` raises. -/
inductive Raised
  /-- `SecurePathError`. -/
  | securePath (message : String)
  /-- An `OSError` outside the `try`. -/
  | os
  /-- `ValueError: embedded null byte`. -/
  | value
  deriving DecidableEq, Repr

/-- `except OSError as exc: raise SecurePathError(…) from exc`. -/
def Raised.ofFailure (message : String) : Failure → Raised
  | .os => .securePath message
  | .value => .value

/-- What `os.getcwd()` returns. -/
structure WorkingDirectory where
  path : String
  absolute : isAbsPath path = true

/-- `_absolute_lexical`; `none` is a working directory that was removed. -/
def absoluteLexical (cwd : Option WorkingDirectory) (path : String) : Except Raised String :=
  if isAbsPath path then .ok (normpath (normpath path))
  else
    match cwd with
    | none => .error .os
    | some dir => .ok (normpath (normpath (joinPath dir.path path)))

/-- `_relative_candidate`; the relative path as its components. -/
def relativeCandidate (cwd : Option WorkingDirectory) (root candidate : String) :
    Except Raised (String × String × List String) := do
  let absoluteRoot ← absoluteLexical cwd root
  let absoluteCandidate ← absoluteLexical cwd candidate
  if isRelativeTo absoluteCandidate absoluteRoot = false then
    throw (.securePath s!"path is outside its configured root: {absoluteCandidate}")
  let relative := (pathParts absoluteCandidate).2.drop (pathParts absoluteRoot).2.length
  if relative = [] then
    throw (.securePath "a directory root cannot be consumed as a regular file")
  return (absoluteRoot, absoluteCandidate, relative)

variable {ι : Type} [DecidableEq ι]

/-- `_open_directory_from_root` without `create`, of a path that is absolute and normal; can `/` itself
be opened? -/
def openDirectoryFromRoot (h : History ι) (rootOpens : Bool) (absolute : String) (tick : ℕ) :
    Except Raised (ι × ℕ) :=
  if rootOpens then
    (openDirectories h h.root (pathParts absolute).2 tick).mapError
      (.ofFailure s!"unsafe or symlinked directory component in {absolute}")
  else .error .os

/-- The `openat` steps of `open_file_beneath` below the root. -/
def openRelative (h : History ι) (directory : ι) (relative : List String) (tick : ℕ) :
    Except Failure (ι × ℕ) := do
  let (parent, tick) ← openDirectories h directory relative.dropLast tick
  let descriptor ← openat h false parent (relative.getLast?.getD "") tick
  return (descriptor, tick + 1)

/-- A file system, and the contents of its regular files. -/
structure Host (ι : Type) where
  tree : History ι
  contents : SharedFiles.History Unit ι UInt8
  /-- `os.open("/", …)` succeeds. -/
  rootOpens : Bool
  cwd : Option WorkingDirectory
  /-- The number of chunks after which a read counts as endless. -/
  patience : ℕ
  /-- The hexadecimal SHA-256. -/
  sha256 : List UInt8 → String

variable (host : Host ι)

/-- The bytes of a file at a tick. -/
def Host.bytes (i : ι) (tick : ℕ) : List UInt8 := ((host.contents.disk tick).inode i).bytes

/-- Entering `open_file_beneath`. -/
def openFileBeneath (root candidate : String) (maxBytes : Option ℤ) (tick : ℕ) :
    Except Raised (ι × ℕ) := do
  let (absoluteRoot, absoluteCandidate, relative) ← relativeCandidate host.cwd root candidate
  let (directory, tick) ← openDirectoryFromRoot host.tree host.rootOpens absoluteRoot tick
  let (descriptor, tick) ← (openRelative host.tree directory relative tick).mapError
    (.ofFailure s!"unsafe or symlinked file path {absoluteCandidate}")
  if host.tree.kind descriptor ≠ .regular then
    throw (.securePath s!"path is not a regular file: {absoluteCandidate}")
  if maxBytes.any fun bound => decide (bound < ((host.bytes descriptor tick).length : ℤ)) then
    throw (.securePath s!"file exceeds the permitted size: {absoluteCandidate}")
  return (descriptor, tick + 1)

/-- `_identity`: the size and the times; device and inode of an open descriptor stay as they are. -/
def Host.identity (i : ι) (tick : ℕ) : ℕ × ℕ × ℕ :=
  let inode := (host.contents.disk tick).inode i
  (inode.bytes.length, inode.mtime, inode.ctime)

/-- `read_file_beneath`; `none` is a file that grows as fast as it is read. A negative limit gets past
no `open_file_beneath`. -/
def readFileBeneath (root candidate : String) (maxBytes : Option ℤ) (expectedSha256 : Option String)
    (tick : ℕ) : Except Raised (Option (List UInt8)) := do
  let (descriptor, tick) ← openFileBeneath host root candidate maxBytes tick
  let before := host.identity descriptor tick
  match host.contents.readLoop descriptor (1024 * 1024) (maxBytes.map Int.toNat) host.patience []
      (tick + 1) with
  | none => return none
  | some (none, _) =>
    throw (.securePath "file grew beyond the permitted size while being read")
  | some (some payload, tick) =>
    if host.identity descriptor tick ≠ before then
      throw (.securePath "file changed while it was being read")
    if expectedSha256.any fun expected => decide (host.sha256 payload ≠ expected) then
      throw (.securePath "file hash does not match the sealed evidence")
    return some payload

/-! ### What the claim is about -/

/-- One normal absolute path lies strictly beneath another, as texts. -/
def StrictlyBeneath (root candidate : String) : Prop :=
  (pathParts candidate).1 = (pathParts root).1 ∧
    ∃ relative, relative ≠ [] ∧ (pathParts candidate).2 = (pathParts root).2 ++ relative

/-- The call raises `SecurePathError`, or it yields a regular file to which a walk without links leads,
by the components of a candidate that lies strictly beneath the root. -/
def Rooted (root candidate : String) (tick : ℕ) : Except Raised (ι × ℕ) → Prop
  | .error (.securePath _) => True
  | .error _ => False
  | .ok (descriptor, _) => host.tree.kind descriptor = .regular ∧
      ∃ absoluteRoot absoluteCandidate, absoluteLexical host.cwd root = .ok absoluteRoot ∧
        absoluteLexical host.cwd candidate = .ok absoluteCandidate ∧
        StrictlyBeneath absoluteRoot absoluteCandidate ∧
        (∀ name ∈ (pathParts absoluteCandidate).2, IsName name) ∧
        Walk host.tree host.tree.root (pathParts absoluteCandidate).2 tick descriptor

/-- What `read_file_beneath` returns has the hash it was given and is no longer than its limit. -/
def ReadsWithin (root candidate : String) (maxBytes : Option ℤ) (tick : ℕ) : Prop :=
  ∀ expectedSha256 payload,
    readFileBeneath host root candidate maxBytes expectedSha256 tick = .ok (some payload) →
      (∀ expected, expectedSha256 = some expected → host.sha256 payload = expected) ∧
      ∀ bound, maxBytes = some bound → (payload.length : ℤ) ≤ bound

/-- The process can say where it is and can open `/`, and the candidate has no NUL character; `/` and
the characters matter only to a candidate beneath the root. -/
def Openable (rootOpens : Bool) (cwd : Option WorkingDirectory) (root candidate : String) : Prop :=
  ∃ absoluteRoot absoluteCandidate, absoluteLexical cwd root = .ok absoluteRoot ∧
    absoluteLexical cwd candidate = .ok absoluteCandidate ∧
    (StrictlyBeneath absoluteRoot absoluteCandidate →
      rootOpens = true ∧ ∀ name ∈ (pathParts absoluteCandidate).2, hasNul name = false)

/-! ### Lexical paths -/

theorem isAbsPath_joinPath {dir path : String} (hdir : isAbsPath dir = true) :
    isAbsPath (joinPath dir path) = true := by
  have happend : ∀ s, startsWith (dir ++ s) "/" = true := by
    intro s
    rw [isAbsPath, startsWith] at hdir
    rw [startsWith, String.toList_append]
    exact List.isPrefixOf_iff_prefix.mpr
      ((List.isPrefixOf_iff_prefix.mp hdir).trans (List.prefix_append _ _))
  rw [isAbsPath, joinPath]
  split
  · assumption
  split
  · exact happend path
  · rw [String.append_assoc]
    exact happend _

/-- An absolute lexical path consists of names. -/
theorem isName_of_absoluteLexical {cwd : Option WorkingDirectory} {path absolute : String}
    (h : absoluteLexical cwd path = .ok absolute) : ∀ c ∈ (pathParts absolute).2, IsName c := by
  have hnormal : ∀ p, isAbsPath p = true →
      ∀ c ∈ (pathParts (normpath (normpath p))).2, IsName c := by
    intro p hp
    exact (pathParts_normpath (pathParts_normpath hp).2.2).2.1
  unfold absoluteLexical at h
  split at h
  · rename_i habs
    obtain rfl := Except.ok.inj h
    exact hnormal path habs
  · split at h
    · cases h
    · rename_i dir
      obtain rfl := Except.ok.inj h
      exact hnormal _ (isAbsPath_joinPath dir.absolute)

theorem absoluteLexical_eq_error {cwd : Option WorkingDirectory} {path : String} {e : Raised}
    (h : absoluteLexical cwd path = .error e) : e = .os := by
  unfold absoluteLexical at h
  split at h
  · cases h
  · split at h
    · exact (Except.error.inj h).symm
    · cases h

theorem isRelativeTo_iff {candidate root : String} : isRelativeTo candidate root = true ↔
    (pathParts candidate).1 = (pathParts root).1 ∧
      ∃ relative, (pathParts candidate).2 = (pathParts root).2 ++ relative := by
  rw [isRelativeTo, Bool.and_eq_true, beq_iff_eq, List.isPrefixOf_iff_prefix]
  refine and_congr_right fun _ => exists_congr fun relative => ?_
  exact eq_comm

section

variable {cwd : Option WorkingDirectory} {root candidate absoluteRoot absoluteCandidate : String}
  (hroot : absoluteLexical cwd root = .ok absoluteRoot)
  (hcandidate : absoluteLexical cwd candidate = .ok absoluteCandidate)

include hroot hcandidate

theorem relativeCandidate_of_not (hnot : ¬ StrictlyBeneath absoluteRoot absoluteCandidate) :
    ∃ message, relativeCandidate cwd root candidate = .error (.securePath message) := by
  rw [relativeCandidate, hroot, hcandidate]
  by_cases hrelative : isRelativeTo absoluteCandidate absoluteRoot = false
  · exact ⟨_, if_pos hrelative⟩
  · have hbeneath := isRelativeTo_iff.mp (Bool.eq_true_of_not_eq_false hrelative)
    obtain ⟨hanchor, relative, hparts⟩ := hbeneath
    have hnil : (pathParts absoluteCandidate).2.drop (pathParts absoluteRoot).2.length = [] := by
      by_contra hne
      refine hnot ⟨hanchor, relative, fun h => hne ?_, hparts⟩
      rw [hparts, List.drop_left, h]
    exact ⟨_, (if_neg hrelative).trans (if_pos hnil)⟩

theorem relativeCandidate_of_beneath (hanchor : (pathParts absoluteCandidate).1 = (pathParts absoluteRoot).1)
    {relative : List String} (hne : relative ≠ [])
    (hparts : (pathParts absoluteCandidate).2 = (pathParts absoluteRoot).2 ++ relative) :
    relativeCandidate cwd root candidate = .ok (absoluteRoot, absoluteCandidate, relative) := by
  rw [relativeCandidate, hroot, hcandidate]
  have hrelative : ¬ isRelativeTo absoluteCandidate absoluteRoot = false := by
    rw [isRelativeTo_iff.mpr ⟨hanchor, relative, hparts⟩]
    exact nofun
  have hdrop : (pathParts absoluteCandidate).2.drop (pathParts absoluteRoot).2.length = relative := by
    rw [hparts, List.drop_left]
  show (if _ then _ else _) = _
  rw [if_neg hrelative, hdrop]
  exact if_neg hne

end

theorem relativeCandidate_eq_ok {cwd : Option WorkingDirectory}
    {root candidate absoluteRoot absoluteCandidate : String} {relative : List String}
    (h : relativeCandidate cwd root candidate = .ok (absoluteRoot, absoluteCandidate, relative)) :
    absoluteLexical cwd root = .ok absoluteRoot ∧
      absoluteLexical cwd candidate = .ok absoluteCandidate ∧
      (pathParts absoluteCandidate).1 = (pathParts absoluteRoot).1 ∧ relative ≠ [] ∧
      (pathParts absoluteCandidate).2 = (pathParts absoluteRoot).2 ++ relative := by
  obtain ⟨root', hroot, h'⟩ := Except.exists_of_bind_eq_ok h
  obtain ⟨candidate', hcandidate, -⟩ := Except.exists_of_bind_eq_ok h'
  by_cases hbeneath : StrictlyBeneath root' candidate'
  · obtain ⟨hanchor, relative', hne, hparts⟩ := hbeneath
    rw [relativeCandidate_of_beneath hroot hcandidate hanchor hne hparts] at h
    obtain ⟨rfl, hrest⟩ := Prod.mk.inj (Except.ok.inj h)
    obtain ⟨rfl, rfl⟩ := Prod.mk.inj hrest
    exact ⟨hroot, hcandidate, hanchor, hne, hparts⟩
  · obtain ⟨message, hraised⟩ := relativeCandidate_of_not hroot hcandidate hbeneath
    rw [hraised] at h
    cases h

/-! ### The walk -/

section

variable {h : History ι} {directory descriptor i : ι} {relative : List String} {tick tick' : ℕ}

omit [DecidableEq ι] in
theorem walk_of_openRelative (hdir : h.kind directory = .directory) (hne : relative ≠ [])
    (hopen : openRelative h directory relative tick = .ok (i, tick')) :
    Walk h directory relative tick i := by
  obtain ⟨⟨parent, last⟩, hparent, hopen⟩ := Except.exists_of_bind_eq_ok hopen
  obtain ⟨child, hchild, hlast⟩ := Except.exists_of_bind_eq_ok hopen
  obtain ⟨rfl, -⟩ := Prod.mk.inj (Except.ok.inj hlast)
  obtain ⟨hwalk, hkind, htick⟩ := walk_of_openDirectories hdir hparent
  obtain ⟨hentry, hlink, -⟩ := openat_eq_ok hchild
  have hsplit : relative.dropLast ++ [relative.getLast?.getD ""] = relative := by
    rw [List.getLast?_eq_getLast_of_ne_nil hne]
    exact List.dropLast_append_getLast hne
  rw [← hsplit]
  refine hwalk.append ?_
  rw [← htick]
  exact .cons hkind hentry hlink (.nil ..)

omit [DecidableEq ι] in
theorem openRelative_ne_value (hne : relative ≠ []) (hnames : ∀ name ∈ relative, hasNul name = false) :
    openRelative h directory relative tick ≠ .error .value := by
  intro hopen
  rcases Except.eq_error_of_bind_eq_error hopen with hparent | ⟨⟨parent, last⟩, -, hopen⟩
  · refine openDirectories_ne_value (fun name hname => hnames name ?_) hparent
    exact (List.dropLast_sublist relative).subset hname
  rcases Except.eq_error_of_bind_eq_error hopen with hchild | ⟨child, -, hreturned⟩
  · refine openat_ne_value ?_ hchild
    rw [List.getLast?_eq_getLast_of_ne_nil hne]
    exact hnames _ (List.getLast_mem hne)
  · cases hreturned

theorem openRelative_loop (hne : relative ≠ []) (hnul : relative.any hasNul = true) :
    openRelative History.loop () relative tick = .error .value := by
  rw [openRelative, openDirectories_loop]
  have hsplit : relative.dropLast ++ [relative.getLast hne] = relative :=
    List.dropLast_append_getLast hne
  cases hparents : relative.dropLast.any hasNul with
  | true => rfl
  | false =>
    have hlast : hasNul (relative.getLast hne) = true := by
      rw [← hsplit, List.any_append, hparents, Bool.false_or] at hnul
      simpa using hnul
    show (openat History.loop false () (relative.getLast?.getD "") _ >>= _) = _
    rw [List.getLast?_eq_getLast_of_ne_nil hne, Option.getD_some, openat_of_hasNul hlast]
    rfl

end

/-! ### `open_file_beneath` -/

section

variable {host : Host ι} {root candidate : String} {maxBytes : Option ℤ} {tick tick' : ℕ}
  {descriptor : ι}

/-- What the last checks leave. -/
theorem openFileBeneath_eq_ok
    (hopen : openFileBeneath host root candidate maxBytes tick = .ok (descriptor, tick')) :
    ∃ absoluteRoot absoluteCandidate relative directory last last',
      relativeCandidate host.cwd root candidate = .ok (absoluteRoot, absoluteCandidate, relative) ∧
      openDirectories host.tree host.tree.root (pathParts absoluteRoot).2 tick =
        .ok (directory, last) ∧
      openRelative host.tree directory relative last = .ok (descriptor, last') ∧
      host.tree.kind descriptor = .regular ∧
      ∀ bound, maxBytes = some bound → ¬ bound < ((host.bytes descriptor last').length : ℤ) := by
  obtain ⟨⟨absoluteRoot, absoluteCandidate, relative⟩, hrelative, hopen⟩ :=
    Except.exists_of_bind_eq_ok hopen
  obtain ⟨⟨directory, last⟩, hdirectory, hopen⟩ := Except.exists_of_bind_eq_ok hopen
  obtain ⟨⟨opened, last'⟩, hopened, hopen⟩ := Except.exists_of_bind_eq_ok hopen
  rw [openDirectoryFromRoot] at hdirectory
  split at hdirectory
  · have hdirectory' := Except.eq_ok_of_mapError hdirectory
    have hopened' := Except.eq_ok_of_mapError hopened
    simp only at hopen
    split at hopen
    · cases hopen
    rename_i hregular
    split at hopen
    · cases hopen
    rename_i hsize
    obtain ⟨rfl, -⟩ := Prod.mk.inj (Except.ok.inj hopen)
    refine ⟨_, _, _, _, _, _, hrelative, hdirectory', hopened', not_not.mp hregular, ?_⟩
    intro bound hbound
    rw [hbound] at hsize
    simpa using hsize
  · cases hdirectory

/-- What is yielded was walked to without a link. -/
theorem rooted_of_openFileBeneath
    (hopen : openFileBeneath host root candidate maxBytes tick = .ok (descriptor, tick')) :
    Rooted host root candidate tick (.ok (descriptor, tick')) := by
  obtain ⟨absoluteRoot, absoluteCandidate, relative, directory, last, _, hrelative, hdirectory,
    hopened, hregular, -⟩ := openFileBeneath_eq_ok hopen
  obtain ⟨hroot, hcandidate, hanchor, hne, hparts⟩ := relativeCandidate_eq_ok hrelative
  refine ⟨hregular, absoluteRoot, absoluteCandidate, hroot, hcandidate, ⟨hanchor, relative, hne, hparts⟩,
    isName_of_absoluteLexical hcandidate, ?_⟩
  obtain ⟨hwalk, hkind, hlast⟩ := walk_of_openDirectories host.tree.root_directory hdirectory
  rw [hparts]
  refine hwalk.append ?_
  rw [← hlast]
  exact walk_of_openRelative hkind hne hopened

/-- Only `SecurePathError` is raised where the candidate can be named to the system. -/
theorem securePath_of_openable {e : Raised} (h : Openable host.rootOpens host.cwd root candidate)
    (hraised : openFileBeneath host root candidate maxBytes tick = .error e) :
    ∃ message, e = .securePath message := by
  obtain ⟨absoluteRoot, absoluteCandidate, hroot, hcandidate, hname⟩ := h
  rcases Except.eq_error_of_bind_eq_error hraised with
    hrefused | ⟨⟨root', candidate', relative⟩, hrelative, hraised⟩
  · by_cases hbeneath : StrictlyBeneath absoluteRoot absoluteCandidate
    · obtain ⟨hanchor, relative, hne, hparts⟩ := hbeneath
      rw [relativeCandidate_of_beneath hroot hcandidate hanchor hne hparts] at hrefused
      cases hrefused
    · obtain ⟨message, houtside⟩ := relativeCandidate_of_not hroot hcandidate hbeneath
      rw [houtside] at hrefused
      exact ⟨message, (Except.error.inj hrefused).symm⟩
  obtain ⟨hroot', hcandidate', hanchor, hne, hparts⟩ := relativeCandidate_eq_ok hrelative
  obtain rfl := Except.ok.inj (hroot.symm.trans hroot')
  obtain rfl := Except.ok.inj (hcandidate.symm.trans hcandidate')
  obtain ⟨hopens, hnames⟩ := hname ⟨hanchor, relative, hne, hparts⟩
  rw [hparts] at hnames
  rcases Except.eq_error_of_bind_eq_error hraised with hraised | ⟨⟨directory, last⟩, -, hraised⟩
  · -- the directories of the root
    simp only [openDirectoryFromRoot, hopens, if_true] at hraised
    obtain ⟨failure, hfailure, rfl⟩ := Except.eq_error_of_mapError hraised
    cases failure with
    | os => exact ⟨_, rfl⟩
    | value =>
      refine absurd hfailure (openDirectories_ne_value fun name hname => ?_)
      exact hnames name (List.mem_append_left _ hname)
  rcases Except.eq_error_of_bind_eq_error hraised with hraised | ⟨opened, -, hraised⟩
  · -- the components below the root
    obtain ⟨failure, hfailure, rfl⟩ := Except.eq_error_of_mapError hraised
    cases failure with
    | os => exact ⟨_, rfl⟩
    | value =>
      refine absurd hfailure (openRelative_ne_value hne fun name hname => ?_)
      exact hnames name (List.mem_append_right _ hname)
  · -- the checks of what was opened
    simp only at hraised
    split at hraised
    · exact ⟨_, (Except.error.inj hraised).symm⟩
    split at hraised
    · exact ⟨_, (Except.error.inj hraised).symm⟩
    · cases hraised

/-! ### `read_file_beneath` -/

/-- What is read has the hash and fits the limit. -/
theorem readFileBeneath_spec (host : Host ι) (root candidate : String) (maxBytes : Option ℤ)
    (tick : ℕ) : ReadsWithin host root candidate maxBytes tick := by
  intro expectedSha256 payload hread
  obtain ⟨⟨descriptor, last⟩, hopen, hread⟩ := Except.exists_of_bind_eq_ok hread
  simp only at hread
  split at hread
  · cases hread
  · cases hread
  rename_i hloop
  split at hread
  · cases hread
  split at hread
  · cases hread
  rename_i hhash
  obtain rfl := Option.some.inj (Except.ok.inj hread)
  constructor
  · intro expected hexpected
    rw [hexpected] at hhash
    simpa using hhash
  · intro bound hbound
    obtain ⟨_, _, _, _, _, last', _, _, _, _, hsize⟩ := openFileBeneath_eq_ok hopen
    have hpositive := hsize bound hbound
    rw [hbound, Option.map_some] at hloop
    have hlength := SharedFiles.History.length_le_of_readLoop (Nat.zero_le _) hloop
    omega

end

/-! ### Where only `SecurePathError` is raised -/

/-- Files without bytes that nobody changes. -/
def emptyFiles : SharedFiles.History Unit Unit UInt8 where
  start :=
    { entry := fun _ => .absent
      inode := fun _ => ⟨[], 0, 0⟩
      clock := 0
      ctime_le := fun _ => Nat.le_refl 0 }
  changes := fun _ => []

/-- A host on which every name leads to one directory. -/
def loopHost (rootOpens : Bool) (cwd : Option WorkingDirectory) : Host Unit where
  tree := .loop
  contents := emptyFiles
  rootOpens := rootOpens
  cwd := cwd
  patience := 1
  sha256 := fun _ => ""

section

variable {rootOpens : Bool} {cwd : Option WorkingDirectory}
  {root candidate absoluteRoot absoluteCandidate : String} {maxBytes : Option ℤ} {tick : ℕ}

/-- Something else than `SecurePathError` is raised beneath a `/` that cannot be opened, and where a
component has a NUL character. -/
theorem not_rooted_loop (hroot : absoluteLexical cwd root = .ok absoluteRoot)
    (hcandidate : absoluteLexical cwd candidate = .ok absoluteCandidate)
    (hbeneath : StrictlyBeneath absoluteRoot absoluteCandidate)
    (hnot : rootOpens = false ∨ (pathParts absoluteCandidate).2.any hasNul = true) :
    ¬ Rooted (loopHost rootOpens cwd) root candidate tick
      (openFileBeneath (loopHost rootOpens cwd) root candidate maxBytes tick) := by
  obtain ⟨hanchor, relative, hne, hparts⟩ := hbeneath
  have hrelative := relativeCandidate_of_beneath hroot hcandidate hanchor hne hparts
  have hopen : openFileBeneath (loopHost rootOpens cwd) root candidate maxBytes tick = .error .os ∨
      openFileBeneath (loopHost rootOpens cwd) root candidate maxBytes tick = .error .value := by
    rw [openFileBeneath]
    show (relativeCandidate cwd root candidate >>= _) = _ ∨ (relativeCandidate cwd root candidate >>= _) = _
    rw [hrelative]
    cases hopens : rootOpens with
    | false => exact .inl rfl
    | true =>
      right
      rw [hopens, hparts, List.any_append] at hnot
      show (openDirectoryFromRoot History.loop true absoluteRoot tick >>= _) = _
      rw [openDirectoryFromRoot, if_pos rfl]
      show ((openDirectories History.loop () (pathParts absoluteRoot).2 tick).mapError _ >>= _) = _
      rw [openDirectories_loop]
      cases hdirectories : (pathParts absoluteRoot).2.any hasNul with
      | true => rfl
      | false =>
        have hrest : relative.any hasNul = true := by
          rcases hnot with h | h
          · cases h
          · rwa [hdirectories, Bool.false_or] at h
        show ((openRelative History.loop () relative _).mapError _ >>= _) = _
        rw [openRelative_loop hne hrest]
        rfl
  rcases hopen with hopen | hopen <;>
  · rw [hopen]
    exact id

/-- Whatever others do meanwhile, the call raises `SecurePathError` or yields what it promises, and what
is read has the hash and fits the limit, exactly when the process can say where it is and, if the
candidate lies beneath the root, can open `/` and the candidate has no NUL character. -/
theorem openFileBeneath_iff (rootOpens : Bool) (cwd : Option WorkingDirectory)
    (root candidate : String) (maxBytes : Option ℤ) :
    (∀ (ι : Type) [DecidableEq ι] (host : Host ι) (tick : ℕ), host.rootOpens = rootOpens →
      host.cwd = cwd →
      Rooted host root candidate tick (openFileBeneath host root candidate maxBytes tick) ∧
        ReadsWithin host root candidate maxBytes tick) ↔
      Openable rootOpens cwd root candidate := by
  constructor
  · intro hall
    have hrooted := (hall Unit (loopHost rootOpens cwd) 0 rfl rfl).1
    cases hroot : absoluteLexical cwd root with
    | error e =>
      obtain rfl := absoluteLexical_eq_error hroot
      have hopen : openFileBeneath (loopHost rootOpens cwd) root candidate maxBytes 0 = .error .os := by
        rw [openFileBeneath, relativeCandidate]
        show ((absoluteLexical cwd root >>= _) >>= _) = _
        rw [hroot]
        rfl
      rw [hopen] at hrooted
      exact hrooted.elim
    | ok absoluteRoot =>
      cases hcandidate : absoluteLexical cwd candidate with
      | error e =>
        obtain rfl := absoluteLexical_eq_error hcandidate
        have hopen : openFileBeneath (loopHost rootOpens cwd) root candidate maxBytes 0
            = .error .os := by
          rw [openFileBeneath, relativeCandidate]
          show ((absoluteLexical cwd root >>= _) >>= _) = _
          rw [hroot]
          show ((absoluteLexical cwd candidate >>= _) >>= _) = _
          rw [hcandidate]
          rfl
        rw [hopen] at hrooted
        exact hrooted.elim
      | ok absoluteCandidate =>
        refine ⟨absoluteRoot, absoluteCandidate, hroot, hcandidate, fun hbeneath => ?_⟩
        have hnot : ¬ (rootOpens = false ∨ (pathParts absoluteCandidate).2.any hasNul = true) :=
          fun h => not_rooted_loop hroot hcandidate hbeneath h hrooted
        rw [not_or, Bool.not_eq_false, Bool.not_eq_true, List.any_eq_false] at hnot
        refine ⟨hnot.1, fun name hname => ?_⟩
        exact Bool.eq_false_of_not_eq_true (hnot.2 name hname)
  · rintro hopenable ι _ host tick rfl rfl
    refine ⟨?_, readFileBeneath_spec host root candidate maxBytes tick⟩
    cases hopen : openFileBeneath host root candidate maxBytes tick with
    | ok opened => exact rooted_of_openFileBeneath hopen
    | error e =>
      obtain ⟨message, rfl⟩ := securePath_of_openable hopenable hopen
      trivial

end

/-- `/srv/a\0b` beneath `/srv` raises a `ValueError`. -/
theorem openFileBeneath_nul : ¬ Rooted (loopHost true none) "/srv" "/srv/a\x00b" 0
    (openFileBeneath (loopHost true none) "/srv" "/srv/a\x00b" none 0) := by
  have hroot : absoluteLexical none "/srv" = .ok "/srv" := by decide
  have hcandidate : absoluteLexical none "/srv/a\x00b" = .ok "/srv/a\x00b" := by decide
  have hbeneath : StrictlyBeneath "/srv" "/srv/a\x00b" :=
    ⟨by decide, ["a\x00b"], by decide, by decide⟩
  exact not_rooted_loop hroot hcandidate hbeneath (.inr (by decide))

end SecureFiles

end Bookwarden
