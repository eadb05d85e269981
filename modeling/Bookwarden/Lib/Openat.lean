import Mathlib.Data.List.Basic
import Mathlib.Tactic.Common

/-!
# Walks through directories that others change

A file system has inodes, each of one kind, and a directory has entries: names with inodes. A program
opens a directory and then, by name, an entry of it, and so on; every `openat` takes one tick, and
between two ticks others may rename, remove or create what they like, so that the entries of a
directory are a function of the tick. An inode that is open stays what it is.

`openat` follows no link. A name with a NUL character never gets to the file system.

## Main definitions

* `Openat.History`, `Openat.openat`, `Openat.openDirectories`
* `Openat.Walk` — each name was, at its tick, an entry of the directory before it, and no link

## Main results

* `Openat.walk_of_openDirectories` — what is open after the directories was walked to
* `Openat.openDirectories_ne_value` — without NUL characters, only the system refuses
-/

namespace Openat

/-- What an inode is. -/
inductive Kind
  | directory
  | regular
  | symlink
  | other
  deriving DecidableEq, Repr

/-- A file system that others change. -/
structure History (ι : Type*) where
  root : ι
  kind : ι → Kind
  /-- The entries of a directory at a tick. -/
  entry : ℕ → ι → String → Option ι
  /-- The call at this tick is refused, for whatever reason. -/
  refused : ℕ → Bool
  root_directory : kind root = .directory

/-- Why `openat` fails. -/
inductive Failure
  /-- The system refuses. -/
  | os
  /-- The name cannot be passed to the system. -/
  | value
  deriving DecidableEq, Repr

variable {ι : Type*} (h : History ι)

/-- The name has a NUL character. -/
def hasNul (name : String) : Bool := name.toList.any (· = Char.ofNat 0)

/-- `openat` of an entry with `O_NOFOLLOW`, and with `O_DIRECTORY` or without. -/
def openat (wantDirectory : Bool) (dir : ι) (name : String) (tick : ℕ) : Except Failure ι :=
  if hasNul name then .error .value
  else if h.refused tick then .error .os
  else
    match h.entry tick dir name with
    | none => .error .os
    | some i =>
      match h.kind i with
      | .symlink => .error .os
      | .directory => .ok i
      | _ => if wantDirectory then .error .os else .ok i

/-- Open directory after directory, and say which is open at which tick. -/
def openDirectories (dir : ι) : List String → ℕ → Except Failure (ι × ℕ)
  | [], tick => .ok (dir, tick)
  | name :: names, tick =>
    match openat h true dir name tick with
    | .error e => .error e
    | .ok child => openDirectories child names (tick + 1)

/-- Each name was an entry of the directory before it, one tick after the other, and no inode on the
way is a link. -/
inductive Walk (h : History ι) : ι → List String → ℕ → ι → Prop
  | nil (i : ι) (tick : ℕ) : Walk h i [] tick i
  | cons {dir child i : ι} {name : String} {names : List String} {tick : ℕ}
      (hdir : h.kind dir = .directory) (hentry : h.entry tick dir name = some child)
      (hchild : h.kind child ≠ .symlink) (hrest : Walk h child names (tick + 1) i) :
      Walk h dir (name :: names) tick i

variable {h} {dir i child : ι} {name : String} {names : List String} {tick tick' : ℕ}
  {wantDirectory : Bool}

theorem openat_eq_ok (hopen : openat h wantDirectory dir name tick = .ok i) :
    h.entry tick dir name = some i ∧ h.kind i ≠ .symlink ∧
      (wantDirectory = true → h.kind i = .directory) := by
  rw [openat] at hopen
  split at hopen
  · cases hopen
  split at hopen
  · cases hopen
  split at hopen
  · cases hopen
  rename_i j hentry
  split at hopen
  · cases hopen
  · rename_i hkind
    obtain rfl := Except.ok.inj hopen
    exact ⟨hentry, by rw [hkind]; decide, fun _ => hkind⟩
  · rename_i hlink hdirectory
    split at hopen
    · cases hopen
    · rename_i hwant
      obtain rfl := Except.ok.inj hopen
      exact ⟨hentry, hlink, fun h => absurd h hwant⟩

theorem openat_ne_value (hname : hasNul name = false) :
    openat h wantDirectory dir name tick ≠ .error .value := by
  intro hopen
  rw [openat, hname] at hopen
  simp only [Bool.false_eq_true, if_false] at hopen
  split at hopen
  · cases hopen
  split at hopen
  · cases hopen
  split at hopen
  · cases hopen
  · cases hopen
  · split at hopen <;> cases hopen

/-- What is open after the directories is a directory, and they were walked. -/
theorem walk_of_openDirectories (hdir : h.kind dir = .directory)
    (hopen : openDirectories h dir names tick = .ok (i, tick')) :
    Walk h dir names tick i ∧ h.kind i = .directory ∧ tick' = tick + names.length := by
  induction names generalizing dir tick with
  | nil =>
    obtain ⟨rfl, rfl⟩ := Prod.mk.inj (Except.ok.inj hopen)
    exact ⟨.nil dir tick, hdir, rfl⟩
  | cons name names ih =>
    rw [openDirectories] at hopen
    split at hopen
    · cases hopen
    · rename_i child hchild
      obtain ⟨hentry, hlink, hdirectory⟩ := openat_eq_ok hchild
      obtain ⟨hwalk, hkind, htick⟩ := ih (hdirectory rfl) hopen
      refine ⟨.cons hdir hentry hlink hwalk, hkind, ?_⟩
      rw [htick, List.length_cons]
      omega

/-- Without NUL characters, only the system refuses. -/
theorem openDirectories_ne_value (hnames : ∀ name ∈ names, hasNul name = false) :
    openDirectories h dir names tick ≠ .error .value := by
  induction names generalizing dir tick with
  | nil => exact nofun
  | cons name names ih =>
    rw [openDirectories]
    have hopen := @openat_ne_value _ h dir name tick true (hnames name List.mem_cons_self)
    split
    · rename_i e he
      intro heq
      rw [he, Except.error.inj heq] at hopen
      exact hopen rfl
    · exact ih fun name hname => hnames name (List.mem_cons_of_mem _ hname)

theorem Walk.append {names' : List String} (hwalk : Walk h dir names tick i)
    (hwalk' : Walk h i names' (tick + names.length) child) :
    Walk h dir (names ++ names') tick child := by
  induction hwalk with
  | nil => exact hwalk'
  | cons hdir hentry hlink _ ih =>
    refine .cons hdir hentry hlink (ih ?_)
    rw [List.length_cons] at hwalk'
    rwa [Nat.add_right_comm, Nat.add_assoc]

/-! ### A file system where every name leads to one directory -/

/-- Every entry of the one directory is the directory itself. -/
def History.loop : History Unit where
  root := ()
  kind _ := .directory
  entry _ _ _ := some ()
  refused _ := false
  root_directory := rfl

theorem openat_loop (hname : hasNul name = false) :
    openat History.loop wantDirectory () name tick = .ok () := by
  rw [openat, hname]
  rfl

theorem openat_of_hasNul (hname : hasNul name = true) :
    openat h wantDirectory dir name tick = .error .value := by
  rw [openat, hname, if_pos rfl]

theorem openDirectories_loop : openDirectories History.loop () names tick =
    if names.any hasNul then .error .value else .ok ((), tick + names.length) := by
  induction names generalizing tick with
  | nil => rfl
  | cons name names ih =>
    rw [openDirectories, List.any_cons]
    cases hname : hasNul name with
    | true =>
      rw [openat_of_hasNul hname]
      rfl
    | false =>
      rw [openat_loop hname, Bool.false_or, List.length_cons]
      simp only
      rw [ih, Nat.add_assoc, Nat.add_comm 1]

end Openat
