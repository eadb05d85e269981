import Mathlib.Data.List.Basic
import Mathlib.Logic.Function.Basic
import Mathlib.Tactic.Common

/-!
# Files that others change

A disk gives every path an entry and every inode its bytes and its times. A program looks at it tick
by tick, and between two ticks others may change it in any way: they write to inodes, which stamps
them with a new `ctime`, and they put other entries at paths.

A file is read through its inode, in chunks, one tick each; what is read may be torn. It is not when
the inode has the same `ctime` before and after.

## Main results

* `SharedFiles.History.inode_eq_of_ctime_eq` — an inode with an unchanged `ctime` was not written to
* `SharedFiles.History.readLoop_eq_of_ctime_eq` — the read that such an inode survives is not torn
* `SharedFiles.History.readLoop_of_still` — a read of files that nobody changes returns their bytes
-/

namespace SharedFiles

variable {π ι β : Type*}

/-- What stands at a path. -/
inductive Entry (ι : Type*)
  | absent
  /-- Not even its presence can be told. -/
  | denied
  /-- Something that is not a readable regular file: a link, a directory, a device. -/
  | other
  | file (i : ι)
  deriving DecidableEq, Repr

/-- The bytes and the times of a regular file. -/
structure Inode (β : Type*) where
  bytes : List β
  mtime : ℕ
  ctime : ℕ
  deriving DecidableEq, Repr

/-- A disk; no inode was written to after the time of its clock. -/
structure Disk (π ι β : Type*) where
  entry : π → Entry ι
  inode : ι → Inode β
  clock : ℕ
  ctime_le : ∀ i, (inode i).ctime ≤ clock

/-- What others do to a disk. -/
inductive Change (π ι β : Type*)
  /-- Edit a file in place or make a new one. The `mtime` is theirs to choose, the `ctime` is not. -/
  | write (i : ι) (bytes : List β) (mtime : ℕ)
  /-- Create, replace, link or remove. -/
  | place (p : π) (e : Entry ι)

variable [DecidableEq π] [DecidableEq ι]

/-- The disk after a change. -/
def Disk.apply (d : Disk π ι β) : Change π ι β → Disk π ι β
  | .write i bytes mtime =>
    { d with
      inode := Function.update d.inode i ⟨bytes, mtime, d.clock + 1⟩
      clock := d.clock + 1
      ctime_le := by
        intro j
        by_cases h : j = i
        · subst h
          have hnew : Function.update d.inode j ⟨bytes, mtime, d.clock + 1⟩ j =
              ⟨bytes, mtime, d.clock + 1⟩ := Function.update_self ..
          exact Nat.le_of_eq (congrArg Inode.ctime hnew)
        · rw [Function.update_of_ne h]
          exact Nat.le_succ_of_le (d.ctime_le j) }
  | .place p e => { d with entry := Function.update d.entry p e }

/-- A disk, and what others do to it before each tick. -/
structure History (π ι β : Type*) where
  start : Disk π ι β
  changes : ℕ → List (Change π ι β)

namespace History

/-- The disk at a tick. -/
def disk (h : History π ι β) : ℕ → Disk π ι β
  | 0 => (h.changes 0).foldl Disk.apply h.start
  | t + 1 => (h.changes (t + 1)).foldl Disk.apply (h.disk t)

/-! ### Stamps -/

/-- From `d` to `d'`, an inode is as it was or has a later `ctime`. -/
structure Later (d d' : Disk π ι β) : Prop where
  clock_le : d.clock ≤ d'.clock
  stamped : ∀ i, d'.inode i = d.inode i ∨ d.clock < (d'.inode i).ctime

omit [DecidableEq π] [DecidableEq ι] in
theorem Later.refl (d : Disk π ι β) : Later d d := ⟨Nat.le_refl _, fun _ => .inl rfl⟩

omit [DecidableEq π] [DecidableEq ι] in
theorem Later.trans {d₁ d₂ d₃ : Disk π ι β} (h : Later d₁ d₂) (h' : Later d₂ d₃) : Later d₁ d₃ := by
  refine ⟨Nat.le_trans h.clock_le h'.clock_le, fun i => ?_⟩
  rcases h'.stamped i with hsame | hlate
  · rw [hsame]
    exact h.stamped i
  · exact .inr (Nat.lt_of_le_of_lt h.clock_le hlate)

theorem later_apply (d : Disk π ι β) (c : Change π ι β) : Later d (d.apply c) := by
  cases c with
  | place p e => exact ⟨Nat.le_refl _, fun _ => .inl rfl⟩
  | write i bytes mtime =>
    refine ⟨Nat.le_succ _, fun j => ?_⟩
    by_cases h : j = i
    · subst h
      right
      show d.clock < (Function.update d.inode j _ j).ctime
      rw [Function.update_self]
      exact Nat.lt_succ_self _
    · exact .inl (Function.update_of_ne h _ _)

theorem later_foldl (d : Disk π ι β) (cs : List (Change π ι β)) :
    Later d (cs.foldl Disk.apply d) := by
  induction cs generalizing d with
  | nil => exact .refl d
  | cons c cs ih => exact (later_apply d c).trans (ih (d.apply c))

variable (h : History π ι β)

theorem later_disk {s t : ℕ} (hst : s ≤ t) : Later (h.disk s) (h.disk t) := by
  induction hst with
  | refl => exact .refl _
  | step _ ih => exact ih.trans (later_foldl _ _)

/-- An inode with the same `ctime` at two ticks was not written to in between. -/
theorem inode_eq_of_ctime_eq {i : ι} {s t u : ℕ} (hst : s ≤ t) (htu : t ≤ u)
    (hctime : ((h.disk u).inode i).ctime = ((h.disk s).inode i).ctime) :
    (h.disk t).inode i = (h.disk s).inode i := by
  have hold : ((h.disk s).inode i).ctime ≤ (h.disk s).clock := (h.disk s).ctime_le i
  rcases (h.later_disk hst).stamped i with hsame | hlate
  · exact hsame
  · exfalso
    rcases (h.later_disk htu).stamped i with hsame' | hlate'
    · rw [← hsame'] at hlate
      omega
    · have hclock := (h.later_disk hst).clock_le
      omega

/-! ### Reading -/

/-- `while chunk := os.read(descriptor, size)`, from what has been read so far; with a limit, the loop
raises when it has read more. `none` when it does not end within the given number of chunks. -/
def readLoop (i : ι) (size : ℕ) (limit : Option ℕ) : ℕ → List β → ℕ → Option (Option (List β) × ℕ)
  | 0, _, _ => none
  | chunks + 1, done, tick =>
    let chunk := (((h.disk tick).inode i).bytes.drop done.length).take size
    match chunk with
    | [] => some (some done, tick + 1)
    | _ :: _ =>
      if limit.all fun bound => decide ((done ++ chunk).length ≤ bound) then
        readLoop i size limit chunks (done ++ chunk) (tick + 1)
      else some (none, tick + 1)

variable {h}

theorem readLoop_tick {i : ι} {size : ℕ} {limit : Option ℕ} {chunks tick tick' : ℕ} {done : List β}
    {result : Option (List β)}
    (hread : h.readLoop i size limit chunks done tick = some (result, tick')) : tick < tick' := by
  induction chunks generalizing done tick with
  | zero => cases hread
  | succ chunks ih =>
    rw [readLoop] at hread
    split at hread
    · cases hread
      exact Nat.lt_succ_self _
    · split at hread
      · exact Nat.lt_of_succ_lt (ih hread)
      · cases hread
        exact Nat.lt_succ_self _

/-- What is read under a limit fits the limit. -/
theorem length_le_of_readLoop {i : ι} {size bound : ℕ} {chunks tick tick' : ℕ}
    {done payload : List β} (hdone : done.length ≤ bound)
    (hread : h.readLoop i size (some bound) chunks done tick = some (some payload, tick')) :
    payload.length ≤ bound := by
  induction chunks generalizing done tick with
  | zero => cases hread
  | succ chunks ih =>
    rw [readLoop] at hread
    split at hread
    · cases hread
      exact hdone
    · split at hread
      · rename_i hfits
        exact ih (of_decide_eq_true hfits) hread
      · cases hread

/-- A chunk that is empty ends the file. -/
theorem drop_eq_nil_of_take {l : List β} {size : ℕ} (hsize : 0 < size) (h : l.take size = []) :
    l = [] := by
  rcases List.take_eq_nil_iff.mp h with h | h
  · omega
  · exact h

/-- While the bytes stay as they are, the loop reads the rest of them. -/
theorem readLoop_eq_of_steady {i : ι} {size : ℕ} (hsize : 0 < size) {limit : Option ℕ}
    {bytes : List β} {chunks tick tick' : ℕ} {done payload : List β}
    (hread : h.readLoop i size limit chunks done tick = some (some payload, tick'))
    (hsteady : ∀ t, tick ≤ t → t < tick' → ((h.disk t).inode i).bytes = bytes)
    (hdone : done = bytes.take done.length) : payload = bytes := by
  induction chunks generalizing done tick with
  | zero => cases hread
  | succ chunks ih =>
    have hlt := readLoop_tick hread
    rw [readLoop, hsteady tick (Nat.le_refl _) hlt] at hread
    split at hread
    · rename_i hend
      cases hread
      have hrest : bytes.drop payload.length = [] := drop_eq_nil_of_take hsize hend
      calc payload = bytes.take payload.length := hdone
        _ = bytes := by
          have h := List.take_append_drop payload.length bytes
          rwa [hrest, List.append_nil] at h
    · split at hread
      · refine ih hread (fun t ht ht' => hsteady t (Nat.le_of_succ_le ht) ht') ?_
        have hnext : done ++ (bytes.drop done.length).take size
            = bytes.take (done.length + size) := by
          rw [List.take_add]
          exact congrArg (· ++ _) hdone
        rw [hnext, List.length_take, List.take_eq_take_iff]
        simp
      · cases hread

/-- **Stable read.** When the inode has the same `ctime` before and after, what was read are its
bytes. -/
theorem readLoop_eq_of_ctime_eq {i : ι} {size : ℕ} (hsize : 0 < size) {limit : Option ℕ}
    {chunks s tick tick' u : ℕ} {payload : List β}
    (hread : h.readLoop i size limit chunks [] tick = some (some payload, tick'))
    (hs : s ≤ tick) (hu : tick' ≤ u)
    (hctime : ((h.disk u).inode i).ctime = ((h.disk s).inode i).ctime) :
    payload = ((h.disk s).inode i).bytes := by
  refine readLoop_eq_of_steady hsize hread (fun t ht ht' => ?_) rfl
  have hsame := h.inode_eq_of_ctime_eq (Nat.le_trans hs ht) (Nat.le_trans (Nat.le_of_lt ht') hu) hctime
  rw [hsame]

/-! ### A disk that nobody changes -/

/-- Nobody changes the disk. -/
def Still (h : History π ι β) : Prop := ∀ t, h.changes t = []

theorem Still.disk_eq (hstill : Still h) (t : ℕ) : h.disk t = h.start := by
  induction t with
  | zero =>
    rw [History.disk, hstill 0]
    rfl
  | succ t ih =>
    rw [History.disk, hstill (t + 1), ih]
    rfl

/-- Reading what nobody changes, in at most as many chunks as there are bytes, and one. -/
theorem readLoop_of_still (hstill : Still h) {i : ι} {size : ℕ} (hsize : 0 < size) {chunks : ℕ}
    (done : List β) (tick : ℕ) (hdone : done = (h.start.inode i).bytes.take done.length)
    (hchunks : (h.start.inode i).bytes.length < chunks + done.length) :
    ∃ tick', h.readLoop i size none chunks done tick
      = some (some (h.start.inode i).bytes, tick') := by
  induction chunks generalizing done tick with
  | zero =>
    exfalso
    have hlength := congrArg List.length hdone
    rw [List.length_take] at hlength
    omega
  | succ chunks ih =>
    rw [readLoop, hstill.disk_eq]
    split
    · rename_i hend
      have hrest : (h.start.inode i).bytes.drop done.length = [] := drop_eq_nil_of_take hsize hend
      have hall := List.take_append_drop done.length (h.start.inode i).bytes
      rw [hrest, List.append_nil, ← hdone] at hall
      rw [← hall]
      exact ⟨_, rfl⟩
    · rename_i hnext
      rw [Option.all_none, if_pos rfl]
      have hcut : done ++ ((h.start.inode i).bytes.drop done.length).take size
          = (h.start.inode i).bytes.take (done.length + size) := by
        rw [List.take_add]
        exact congrArg (· ++ _) hdone
      have hnonempty : 0 < (((h.start.inode i).bytes.drop done.length).take size).length := by
        rw [hnext]
        exact Nat.succ_pos _
      refine ih _ _ ?_ ?_
      · rw [hcut, List.length_take, List.take_eq_take_iff]
        simp
      · rw [List.length_append]
        omega

end History

end SharedFiles
