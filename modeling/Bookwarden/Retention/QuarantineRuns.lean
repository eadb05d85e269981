import Bookwarden.Exceptions
import Bookwarden.Lib.Runs
import Bookwarden.Retention.QuarantineRecovery

/-!
# Deletions that are stopped

A deletion is stopped after any step; after that, recoveries and listings run, and are stopped too. The
tree is safe as long as no recovery of a `prepared` journal is stopped between its first rename and
the write of `quarantined`: after that, the preflight refuses the tree for ever, but every candidate is
still intact at one of its two places.

## Main definitions

* `Event`, `exec` — what happens after the deletion was stopped
* `Plan.Safe`, `Plan.Held`

## Main results

* `Plan.deletion_held` — every candidate is intact, whatever is stopped
* `Plan.deletion_safe_iff` — when the deletion can be carried through
* `Plan.stuck_after_cut` — what is left otherwise stays as it is
-/

namespace Bookwarden.Retention.Quarantine

open Crash

variable {sha : Sha256}

/-! ### Runs -/

/-- What runs after the deletion was stopped; it may be stopped after so many steps. -/
inductive Event
  | recover (id backupManifestSha256 : String) (removals : List (Path → Option RestoreDir))
    (stop : Option ℕ)
  | list (stop : Option ℕ)

/-- The disk that is left. -/
def exec (sha : Sha256) (disk : Disk) : Event → Disk
  | .recover id backupManifestSha256 removals stop =>
    (recoverQuarantine sha id backupManifestSha256 removals).after disk stop
  | .list stop => (listPendingQuarantines sha).after disk stop

/-- What the journal of a transaction says. -/
def Disk.journalState (disk : Disk) (id : String) : Option State :=
  ((Assoc.get? id disk.transactions).bind Transaction.journal).map Journal.state

/-- The payload of a transaction. -/
def Disk.payload (disk : Disk) (id : String) : Option Payload :=
  (Assoc.get? id disk.transactions).bind Transaction.payload

/-- What the payload of a transaction has at a path. -/
def Disk.entry (disk : Disk) (id : String) (path : Path) : Option RestoreDir :=
  (disk.payload id).bind fun payload => payload.entries path

/-- What is opened is what the journal reader accepts. -/
theorem exists_of_openTransaction {id backup : String} {disk : Disk} {journal : Journal}
    (h : openTransaction sha id backup disk = .ok journal) :
    ∃ transaction, Assoc.get? id disk.transactions = some transaction ∧
      readQuarantineJournal id transaction = .ok journal := by
  rw [openTransaction] at h
  by_cases hid : isTransactionId id = false
  · rw [if_pos hid] at h
    cases h
  rw [if_neg hid] at h
  by_cases hroot : disk.quarantineRoot = false
  · rw [if_pos hroot] at h
    cases h
  rw [if_neg hroot] at h
  cases hget : Assoc.get? id disk.transactions with
  | none =>
    rw [hget] at h
    cases h
  | some transaction =>
    rw [hget] at h
    obtain ⟨read, hread, h⟩ := Except.exists_of_bind_eq_ok h
    obtain ⟨-, -, h⟩ := Except.exists_of_bind_eq_ok h
    by_cases hbackup : read.backupManifestSha256 ≠ backup
    · rw [if_pos hbackup] at h
      cases h
    · rw [if_neg hbackup] at h
      cases h
      exact ⟨transaction, rfl, hread⟩

namespace Plan

variable {plan : Plan sha} {least gone moved : List Path} {parents : List String}
  {payload : Option Payload} {journal journal' : Journal} {n : ℕ} {transaction : Transaction}
  {state : State} {path : Path} {disk : Disk} {event : Event}

/-- No recovery of the `prepared` journal is stopped between its first rename and the write of
`quarantined`. -/
def NotCut (plan : Plan sha) (disk : Disk) : Event → Prop
  | .recover id backup _ (some k) =>
    id = plan.fresh.id → backup = plan.backup → disk.journalState id = some .prepared →
      ∀ payload ∈ disk.payload id, k ≤ firstSteps payload.parents plan.candidates ∨
        moveSteps payload.parents plan.candidates + 2 ≤ k
  | _ => True

/-- Nothing but the candidates is touched, and until the journal says `deleting`, each of them is
intact at exactly one of its two places. -/
structure Held (plan : Plan sha) (disk : Disk) : Prop where
  intact : disk.journalState plan.fresh.id ≠ some .deleting →
    disk.journalState plan.fresh.id ≠ some .deleted → ∀ candidate ∈ plan.candidates,
      disk.points candidate.path = plan.points candidate.path ∧
          disk.entry plan.fresh.id candidate.path = none ∨
        disk.points candidate.path = none ∧
          disk.entry plan.fresh.id candidate.path = plan.points candidate.path
  frame : ∀ path ∉ plan.paths, disk.points path = plan.points path
  others : ∀ id ≠ plan.fresh.id, Assoc.get? id disk.transactions = Assoc.get? id plan.others

/-- The candidates are deleted, nothing else is, and the journal says so. -/
structure Finished (plan : Plan sha) (disk : Disk) : Prop where
  points : ∀ path, disk.points path = if path ∈ plan.paths then none else plan.points path
  journal : disk.journalState plan.fresh.id = some .deleted
  payload : (disk.payload plan.fresh.id).isSome = false

/-- The transaction is published and not over. -/
def Pending (plan : Plan sha) (disk : Disk) : Prop :=
  ∃ state, disk.journalState plan.fresh.id = some state ∧ state ≠ .deleted

instance (plan : Plan sha) (disk : Disk) : Decidable (plan.Pending disk) :=
  decidable_of_iff ((disk.journalState plan.fresh.id).any fun state => state ≠ .deleted) (by
    simp [Pending, Option.any_eq_true])

/-- And the deletion can be carried through. -/
structure Safe (plan : Plan sha) (disk : Disk) : Prop extends plan.Held disk where
  listed : (listPendingQuarantines sha).result disk
    = .ok (if plan.Pending disk then [plan.fresh.id] else [])
  recovers : disk.journalState plan.fresh.id ≠ none → ∀ removals,
    (∃ count, (recoverQuarantine sha plan.fresh.id plan.backup removals).result disk = .ok count) ∧
      plan.Finished ((recoverQuarantine sha plan.fresh.id plan.backup removals).after disk none)

theorem journalState_disk (gone : List Path) (payload : Option Payload) (state : State)
    (moved : List Path) (n : ℕ) :
    (plan.disk gone (plan.transaction payload (plan.journal state moved) n)).journalState plan.fresh.id
      = some state := by
  rw [Disk.journalState, get?_disk]
  rfl

theorem payload_disk (gone : List Path) (payload : Option Payload) (journal : Journal) (n : ℕ) :
    (plan.disk gone (plan.transaction payload journal n)).payload plan.fresh.id = payload := by
  rw [Disk.payload, get?_disk]
  rfl

theorem get?_others {id : String} (h : id ≠ plan.fresh.id) (gone : List Path)
    (transaction : Transaction) :
    Assoc.get? id (plan.disk gone transaction).transactions = Assoc.get? id plan.others := by
  show Assoc.get? id (plan.others ++ _) = _
  rw [Assoc.get?_append, Assoc.get?_cons, if_neg (Ne.symm h), Assoc.get?_nil]
  cases Assoc.get? id plan.others <;> rfl

/-- The candidates are at their places. -/
theorem held_moving (hgone : gone ⊆ plan.paths) : plan.Held (plan.disk gone
    (plan.transaction (some (plan.payload parents gone)) journal n)) where
  intact _ _ candidate _ := by
    rw [Disk.entry, payload_disk]
    show plan.without gone candidate.path = _ ∧ (plan.payload parents gone).entries candidate.path = _ ∨
      plan.without gone candidate.path = _ ∧ (plan.payload parents gone).entries candidate.path = _
    by_cases hin : candidate.path ∈ gone
    · exact .inr ⟨if_pos hin, if_pos hin⟩
    · exact .inl ⟨if_neg hin, if_neg hin⟩
  frame path hpath := if_neg fun hin => hpath (hgone hin)
  others id hid := get?_others hid _ _

theorem held_deleting (hstate : state = .deleting ∨ state = .deleted) : plan.Held (plan.disk plan.paths
    (plan.transaction payload (plan.journal state moved) n)) where
  intact hdeleting hdeleted := by
    rw [journalState_disk] at hdeleting hdeleted
    rcases hstate with rfl | rfl
    · exact absurd rfl hdeleting
    · exact absurd rfl hdeleted
  frame path hpath := if_neg hpath
  others id hid := get?_others hid _ _

theorem Unpublished.points (h : plan.Unpublished disk) : disk.points = plan.points := by
  rcases h with h | ⟨transaction, -, rfl⟩
  · exact h.points
  · rfl

theorem Unpublished.transactions (h : plan.Unpublished disk) : disk.transactions = plan.others := by
  rcases h with h | ⟨transaction, -, rfl⟩
  · exact h.transactions
  · rfl

theorem Unpublished.get?_id (h : plan.Unpublished disk) :
    Assoc.get? plan.fresh.id disk.transactions = none := by
  rw [h.transactions]
  exact Assoc.get?_eq_none_iff.mpr plan.id_new

theorem held_unpublished (h : plan.Unpublished disk) : plan.Held disk := by
  refine ⟨fun _ _ candidate _ => .inl ⟨by rw [h.points], ?_⟩, fun path _ => by rw [h.points],
    fun id _ => by rw [h.transactions]⟩
  rw [Disk.entry, Disk.payload, h.get?_id]
  rfl

/-- The disks of every run. -/
def Reached (plan : Plan sha) (disk : Disk) : Prop := plan.Deletion disk ∨ plan.Moving .prepared disk

theorem Reached.held (h : plan.Reached disk) : plan.Held disk := by
  rcases h with (h | ⟨parents, n, rfl⟩ | ⟨gone, moved, parents, n, -, -, hgone, -, rfl⟩ |
    ⟨moved, parents, n, -, rfl⟩ | ⟨moved, payload, n, -, -, rfl⟩ | ⟨moved, n, -, rfl⟩) |
    ⟨gone, moved, parents, n, -, -, hgone, -, rfl⟩
  · exact held_unpublished h
  · exact held_moving (List.nil_subset _)
  · exact held_moving hgone
  · exact held_moving (List.Subset.refl _)
  · exact held_deleting (.inl rfl)
  · exact held_deleting (.inr rfl)
  · exact held_moving hgone

theorem after_recover_of_error {id backup e : String} (h : openTransaction sha id backup disk = .error e)
    (removals : List (Path → Option RestoreDir)) (stop : Option ℕ) :
    (recoverQuarantine sha id backup removals).after disk stop = disk :=
  Program.after_of_nil (by rw [recoverQuarantine_of_error h]) stop

/-- Another transaction is over or does not exist, so its recovery changes nothing. -/
theorem exec_recover_other {id backup : String} (h : plan.Reached disk) (hid : id ≠ plan.fresh.id)
    (removals : List (Path → Option RestoreDir)) (stop : Option ℕ) :
    exec sha disk (.recover id backup removals stop) = disk := by
  cases hopen : openTransaction sha id backup disk with
  | error e => exact after_recover_of_error hopen removals stop
  | ok journal =>
    obtain ⟨transaction, hget, hread⟩ := exists_of_openTransaction hopen
    rw [h.held.others id hid] at hget
    obtain ⟨journal', hread', hdeleted, -⟩ :=
      (plan.settled _ (Assoc.mem_of_get? hget)).exists_journal
    cases hread.symm.trans hread'
    exact Program.after_of_nil (by rw [recoverQuarantine_of_deleted hopen hdeleted]) stop

/-- Nothing is published: there is nothing to recover. -/
theorem openTransaction_unpublished (h : plan.Unpublished disk) (backup : String) :
    ∃ e, openTransaction sha plan.fresh.id backup disk = .error e := by
  cases hopen : openTransaction sha plan.fresh.id backup disk with
  | error e => exact ⟨e, rfl⟩
  | ok journal =>
    obtain ⟨transaction, hget, -⟩ := exists_of_openTransaction hopen
    rw [h.get?_id] at hget
    cases hget

/-- The wrong backup manifest recovers nothing. -/
theorem openTransaction_backup {backup : String} (hbackup : plan.backup ≠ backup)
    (hmoved : moved ⊆ plan.paths) (hnodup : moved.Nodup) :
    ∃ e, openTransaction sha plan.fresh.id backup
      (plan.disk gone (plan.transaction payload (plan.journal state moved) n)) = .error e := by
  rw [openTransaction_disk hmoved hnodup]
  cases preflightQuarantine sha (plan.disk gone (plan.transaction payload (plan.journal state moved) n))
    (plan.transaction payload (plan.journal state moved) n) (plan.journal state moved) with
  | error e => exact ⟨e, rfl⟩
  | ok u => exact ⟨_, if_pos hbackup⟩

/-- Once something is published, the listing takes no step. -/
theorem after_list_disk (gone : List Path) (transaction : Transaction) (stop : Option ℕ) :
    (listPendingQuarantines sha).after (plan.disk gone transaction) stop = plan.disk gone transaction :=
  Program.after_of_nil (by rw [list_disk]) stop

theorem exec_list (h : plan.Reached disk) (stop : Option ℕ) :
    exec sha disk (.list stop) = disk ∨
      plan.Unpublished disk ∧ plan.Unpublished (exec sha disk (.list stop)) := by
  rcases h with (h | ⟨parents, n, rfl⟩ | ⟨gone, moved, parents, n, -, -, -, -, rfl⟩ |
    ⟨moved, parents, n, -, rfl⟩ | ⟨moved, payload, n, -, -, rfl⟩ | ⟨moved, n, -, rfl⟩) |
    ⟨gone, moved, parents, n, -, -, -, -, rfl⟩
  · exact .inr ⟨h, triple_list_unpublished.after h h stop⟩
  all_goals exact .inl (after_list_disk _ _ stop)

theorem AllMoved.subset (h : plan.AllMoved moved) : moved ⊆ plan.paths :=
  fun p hp => (h.mem_iff p).mp hp

/-- What a recovery with the bound digest leaves, unless it starts from a `prepared` journal. -/
theorem exec_recover_later (h : plan.Moving .quarantining disk ∨ plan.Quarantined disk ∨
      plan.Deleting disk ∨ plan.Deleted disk) (removals : List (Path → Option RestoreDir))
    (stop : Option ℕ) :
    (fun d => plan.Moving .quarantining d ∨ plan.Quarantined d ∨ plan.Deleting d ∨ plan.Deleted d)
      (exec sha disk (.recover plan.fresh.id plan.backup removals stop)) := by
  rcases h with ⟨gone, moved, parents, n, -, hmoved, hgone, hnodup, rfl⟩ |
    ⟨moved, parents, n, hall, rfl⟩ | ⟨moved, payload, n, hall, hpayload, rfl⟩ | ⟨moved, n, hall, rfl⟩
  · exact (triple_recover_moving (.inr rfl) hmoved hgone hnodup ⟨nofun, nofun⟩ removals).after rfl
      (.inl (moving_intro (List.nil_subset _) hmoved hgone hnodup)) stop
  · exact .inr ((triple_recover_quarantined hall removals).after rfl
      (.inl ⟨moved, parents, n, hall, rfl⟩) stop)
  · exact .inr (.inr ((triple_recover_deleting hall hpayload removals).after rfl
      (.inl ⟨moved, payload, n, hall, hpayload, rfl⟩) stop))
  · refine .inr (.inr (.inr ?_))
    rw [exec, Program.after_of_nil (by rw [recover_deleted hall])]
    exact ⟨moved, n, hall, rfl⟩

/-- A recovery of a `prepared` journal that is not cut. -/
theorem exec_recover_prepared (h : plan.Prepared disk) (removals : List (Path → Option RestoreDir))
    (stop : Option ℕ)
    (hcut : plan.NotCut disk (.recover plan.fresh.id plan.backup removals stop)) :
    plan.Deletion (exec sha disk (.recover plan.fresh.id plan.backup removals stop)) := by
  obtain ⟨parents, n, rfl⟩ := h
  cases stop with
  | none =>
    obtain ⟨count, -, -, hdeleted⟩ := (@triple_recover_moving _ plan _ _ parents n _
      (.inl rfl) (List.Subset.refl []) (List.nil_subset _) List.nodup_nil
      ⟨fun _ _ _ => List.not_mem_nil, nofun⟩ removals).returns rfl
    exact .inr (.inr (.inr (.inr (.inr hdeleted))))
  | some k =>
    obtain ⟨hlow, -, hhigh⟩ := @recover_prepared _ plan parents n removals k
    rcases hcut rfl rfl (journalState_disk _ _ _ _ _) _ (payload_disk _ _ _ _) with hk | hk
    · exact .inr (.inl (hlow hk))
    · exact .inr (.inr (.inr (hhigh hk)))

/-- One event. -/
theorem Deletion.exec (h : plan.Deletion disk) (hcut : plan.NotCut disk event) :
    plan.Deletion (exec sha disk event) := by
  cases event with
  | list stop =>
    rcases exec_list (.inl h) stop with heq | ⟨-, h'⟩
    · rwa [heq]
    · exact .inl h'
  | recover id backup removals stop =>
    by_cases hid : id = plan.fresh.id
    swap
    · rwa [exec_recover_other (.inl h) hid]
    subst hid
    by_cases hbackup : plan.backup = backup
    · subst hbackup
      rcases h with h | h | h
      · obtain ⟨e, he⟩ := openTransaction_unpublished h plan.backup
        rw [Quarantine.exec, after_recover_of_error he]
        exact .inl h
      · exact exec_recover_prepared h removals stop hcut
      · exact .inr (.inr (exec_recover_later h removals stop))
    · have hopen : ∃ e, openTransaction sha plan.fresh.id backup disk = .error e := by
        rcases h with h | ⟨parents, n, rfl⟩ | ⟨gone, moved, parents, n, -, hmoved, hgone, hnodup, rfl⟩ |
          ⟨moved, parents, n, hall, rfl⟩ | ⟨moved, payload, n, hall, -, rfl⟩ | ⟨moved, n, hall, rfl⟩
        · exact openTransaction_unpublished h backup
        · exact openTransaction_backup hbackup (List.nil_subset _) List.nodup_nil
        · exact openTransaction_backup hbackup (List.Subset.trans hmoved hgone) hnodup
        all_goals exact openTransaction_backup hbackup hall.subset hall.nodup
      obtain ⟨e, he⟩ := hopen
      rwa [Quarantine.exec, after_recover_of_error he]

/-! ### The wedge -/

/-- The preflight refuses a wedged tree. -/
theorem preflight_wedged {least : Path} (hleast : [least] ⊆ gone) (hpath : least ∈ plan.paths)
    (hmoved : moved ⊆ gone) (hgone : gone ⊆ plan.paths) :
    ∃ e, preflightQuarantine sha
      (plan.disk gone (plan.transaction (some (plan.payload parents gone)) (plan.journal .prepared moved) n))
      (plan.transaction (some (plan.payload parents gone)) (plan.journal .prepared moved) n)
      (plan.journal .prepared moved) = .error e := by
  cases hpreflight : preflightQuarantine sha
      (plan.disk gone (plan.transaction (some (plan.payload parents gone)) (plan.journal .prepared moved) n))
      (plan.transaction (some (plan.payload parents gone)) (plan.journal .prepared moved) n)
      (plan.journal .prepared moved) with
  | error e => exact ⟨e, rfl⟩
  | ok u =>
    have hconsistent := (preflight_moving ⟨by decide, by decide⟩ hmoved hgone).mp hpreflight
    exact absurd (hleast List.mem_cons_self) (hconsistent.1 rfl least hpath)

theorem pendingOf_eq_error {l : List (String × Transaction)} {entry : String × Transaction} {e : String}
    (hentry : entry ∈ l) (h : checkTransaction sha disk entry = .error e) :
    ∃ e', pendingOf sha disk l = .error e' := by
  induction l with
  | nil => cases hentry
  | cons other l ih =>
    rw [pendingOf]
    cases hother : checkTransaction sha disk other with
    | error e' => exact ⟨e', rfl⟩
    | ok pending =>
      rcases List.mem_cons.mp hentry with rfl | hentry
      · cases hother.symm.trans h
      · obtain ⟨e', he'⟩ := ih hentry
        exact ⟨e', by rw [he']; rfl⟩

/-- A wedged tree is not listed any more. -/
theorem list_wedged (h : plan.Wedged disk) :
    ∃ e, (listPendingQuarantines sha).result disk = .error e := by
  obtain ⟨path, hpath, gone, moved, parents, n, hleast, hmoved, hgone, hnodup, rfl⟩ := h
  obtain ⟨e, he⟩ := @preflight_wedged _ _ _ _ parents n _ hleast hpath hmoved hgone
  rw [Program.result, list_disk]
  refine @pendingOf_eq_error _ _ _ (plan.fresh.id, plan.transaction (some (plan.payload parents gone))
    (plan.journal .prepared moved) n) e ((List.mem_insertionSort _).mpr (List.mem_append_right _
      List.mem_cons_self)) ?_
  rw [check_transaction (List.Subset.trans hmoved hgone) hnodup, he]
  rfl

theorem Wedged.moving (h : plan.Wedged disk) : plan.Moving .prepared disk := by
  obtain ⟨path, -, gone, moved, parents, n, -, hmoved, hgone, hnodup, rfl⟩ := h
  exact moving_intro (List.nil_subset _) hmoved hgone hnodup

/-- Nothing changes a wedged tree. -/
theorem Wedged.exec (h : plan.Wedged disk) (event : Event) : exec sha disk event = disk := by
  have hreached : plan.Reached disk := .inr h.moving
  cases event with
  | list stop =>
    obtain ⟨path, -, gone, moved, parents, n, -, -, -, -, rfl⟩ := h
    exact after_list_disk _ _ stop
  | recover id backup removals stop =>
    by_cases hid : id = plan.fresh.id
    swap
    · exact exec_recover_other hreached hid removals stop
    subst hid
    obtain ⟨path, hpath, gone, moved, parents, n, hleast, hmoved, hgone, hnodup, rfl⟩ := h
    obtain ⟨e, he⟩ := @preflight_wedged _ _ _ _ parents n _ hleast hpath hmoved hgone
    refine after_recover_of_error (e := e) ?_ removals stop
    rw [openTransaction_disk (List.Subset.trans hmoved hgone) hnodup, he]
    rfl

/-- A wedged tree stays as it is. -/
theorem Wedged.run (h : plan.Wedged disk) (events : List Event) :
    Runs.run (Quarantine.exec sha) disk events = disk := by
  induction events with
  | nil => rfl
  | cons event events ih => rw [Runs.run_cons, h.exec, ih]

theorem Wedged.not_safe (h : plan.Wedged disk) : ¬plan.Safe disk := by
  intro hsafe
  obtain ⟨e, he⟩ := list_wedged h
  cases he.symm.trans hsafe.listed

/-! ### Main results -/

theorem Deleted.finished (h : plan.Deleted disk) : plan.Finished disk := by
  obtain ⟨moved, n, -, rfl⟩ := h
  exact ⟨fun _ => rfl, journalState_disk _ _ _ _ _, by rw [payload_disk]; rfl⟩

theorem journalState_unpublished (h : plan.Unpublished disk) :
    disk.journalState plan.fresh.id = none := by
  rw [Disk.journalState, h.get?_id]
  rfl

theorem pending_disk_iff (gone : List Path) (payload : Option Payload) (moved : List Path) (n : ℕ) :
    plan.Pending (plan.disk gone (plan.transaction payload (plan.journal state moved) n))
      ↔ state ≠ .deleted := by
  rw [Pending, journalState_disk]
  constructor
  · rintro ⟨_, h, hne⟩
    cases h
    exact hne
  · exact fun h => ⟨state, rfl, h⟩

/-- A published transaction that the preflight accepts is listed. -/
theorem result_list_published (hmoved : moved ⊆ plan.paths) (hnodup : moved.Nodup)
    (hpreflight : preflightQuarantine sha
      (plan.disk gone (plan.transaction payload (plan.journal state moved) n))
      (plan.transaction payload (plan.journal state moved) n) (plan.journal state moved) = .ok ()) :
    (listPendingQuarantines sha).result
        (plan.disk gone (plan.transaction payload (plan.journal state moved) n))
      = .ok (if plan.Pending (plan.disk gone (plan.transaction payload (plan.journal state moved) n)) then
          [plan.fresh.id] else []) := by
  rw [Program.result, list_published hmoved hnodup hpreflight, if_congr (pending_disk_iff ..) rfl rfl]
  by_cases h : state = .deleted <;> simp [h]

/-- What a triple says of the recovery. -/
theorem recovers_of_triple {I : Disk → Prop}
    (h : ∀ removals, Triple (fun d => d = disk) (recoverQuarantine sha plan.fresh.id plan.backup removals)
      (fun r d => r = plan.candidates.length ∧ plan.Deleted d) (fun _ => False) I)
    (removals : List (Path → Option RestoreDir)) :
    (∃ count, (recoverQuarantine sha plan.fresh.id plan.backup removals).result disk = .ok count) ∧
      plan.Finished ((recoverQuarantine sha plan.fresh.id plan.backup removals).after disk none) := by
  obtain ⟨count, hresult, -, hdeleted⟩ := (h removals).returns rfl
  exact ⟨⟨count, hresult⟩, hdeleted.finished⟩

theorem Deletion.safe (h : plan.Deletion disk) : plan.Safe disk := by
  refine ⟨Reached.held (.inl h), ?_, ?_⟩
  · rcases h with h | ⟨parents, n, rfl⟩ | ⟨gone, moved, parents, n, -, hmoved, hgone, hnodup, rfl⟩ |
      ⟨moved, parents, n, hall, rfl⟩ | ⟨moved, payload, n, hall, hpayload, rfl⟩ | ⟨moved, n, hall, rfl⟩
    · obtain ⟨pending, hresult, rfl, -⟩ := triple_list_unpublished.returns h
      rw [hresult, if_neg]
      rintro ⟨state, hstate, -⟩
      rw [journalState_unpublished h] at hstate
      cases hstate
    · exact result_list_published (List.nil_subset _) List.nodup_nil
        ((preflight_moving ⟨by decide, by decide⟩ (List.Subset.refl _) (List.nil_subset _)).mpr
          ⟨fun _ _ _ => List.not_mem_nil, nofun⟩)
    · exact result_list_published (List.Subset.trans hmoved hgone) hnodup
        ((preflight_moving ⟨by decide, by decide⟩ hmoved hgone).mpr ⟨nofun, nofun⟩)
    · exact result_list_published hall.subset hall.nodup
        ((preflight_moving ⟨by decide, by decide⟩ hall.subset (List.Subset.refl _)).mpr
          ⟨nofun, fun _ path hpath => (hall.mem_iff path).mpr hpath⟩)
    · exact result_list_published hall.subset hall.nodup (preflight_deleting (.inl rfl) hpayload nofun)
    · exact result_list_published hall.subset hall.nodup
        (@preflight_deleting _ _ _ none _ _ _ (.inr rfl) nofun fun _ => rfl)
  · intro hstate
    rcases h with h | ⟨parents, n, rfl⟩ | ⟨gone, moved, parents, n, -, hmoved, hgone, hnodup, rfl⟩ |
      ⟨moved, parents, n, hall, rfl⟩ | ⟨moved, payload, n, hall, hpayload, rfl⟩ | ⟨moved, n, hall, rfl⟩
    · exact absurd (journalState_unpublished h) hstate
    · exact recovers_of_triple (triple_recover_moving (.inl rfl) (List.Subset.refl []) (List.nil_subset _)
        List.nodup_nil ⟨fun _ _ _ => List.not_mem_nil, nofun⟩)
    · exact recovers_of_triple (triple_recover_moving (.inr rfl) hmoved hgone hnodup ⟨nofun, nofun⟩)
    · exact recovers_of_triple (triple_recover_quarantined hall)
    · exact recovers_of_triple (triple_recover_deleting hall hpayload)
    · intro removals
      have hrecover := @recover_deleted _ plan _ n hall removals
      refine ⟨⟨0, by rw [Program.result, hrecover]⟩, ?_⟩
      rw [Program.after_of_nil (by rw [hrecover])]
      exact Deleted.finished ⟨moved, n, hall, rfl⟩

/-- A recovery of a `prepared` journal that is cut wedges the tree. -/
theorem wedged_of_cut (h : plan.Deletion disk) (hcut : ¬plan.NotCut disk event) :
    plan.Wedged (exec sha disk event) := by
  cases event with
  | list stop => exact absurd trivial hcut
  | recover id backup removals stop =>
    cases stop with
    | none => exact absurd trivial hcut
    | some k =>
      simp only [NotCut, Classical.not_imp, not_forall, not_or, not_le] at hcut
      obtain ⟨rfl, rfl, hstate, payload, hpayload, hlow, hhigh⟩ := hcut
      have hother : ∀ s gone p moved n, disk = plan.disk gone
          (plan.transaction p (plan.journal s moved) n) → s = .prepared := by
        rintro s gone p moved n rfl
        rw [journalState_disk] at hstate
        exact Option.some.inj hstate
      rcases h with h | ⟨parents, n, rfl⟩ | ⟨gone, moved, parents, n, -, -, -, -, rfl⟩ |
        ⟨moved, parents, n, -, rfl⟩ | ⟨moved, payload, n, -, -, rfl⟩ | ⟨moved, n, -, rfl⟩
      · rw [journalState_unpublished h] at hstate
        cases hstate
      · rw [payload_disk] at hpayload
        cases hpayload
        exact (recover_prepared parents n removals k).2.1 hlow hhigh
      all_goals cases hother _ _ _ _ _ rfl

/-- The disk where the deletion was stopped. -/
def stopped (plan : Plan sha) (start : Disk) (removals : List (Path → Option RestoreDir))
    (stop : Option ℕ) : Disk :=
  (quarantineAndDelete sha plan.fresh plan.candidates plan.backup removals).after start stop

theorem deletion_stopped {start : Disk} (h : plan.Start start)
    (removals : List (Path → Option RestoreDir)) (stop : Option ℕ) :
    plan.Deletion (plan.stopped start removals stop) :=
  (triple_quarantineAndDelete removals).after h (.inl (.inl h)) stop

/-- Whatever is stopped, every candidate is intact until the journal says `deleting`, and nothing else
is touched. -/
theorem deletion_held {start : Disk} (h : plan.Start start)
    (removals : List (Path → Option RestoreDir)) (stop : Option ℕ) (events : List Event) :
    plan.Held (Runs.run (exec sha) (plan.stopped start removals stop) events) := by
  have hinv : ∀ disk event, plan.Deletion disk ∨ plan.Wedged disk →
      plan.Deletion (exec sha disk event) ∨ plan.Wedged (exec sha disk event) := by
    rintro disk event (h | h)
    · by_cases hcut : plan.NotCut disk event
      · exact .inl (h.exec hcut)
      · exact .inr (wedged_of_cut h hcut)
    · exact .inr (by rwa [h.exec])
  rcases Runs.invariant _ hinv (.inl (deletion_stopped h removals stop)) events with h | h
  · exact Reached.held (.inl h)
  · exact Reached.held (.inr h.moving)

/-- A run is safe throughout exactly when no recovery of the `prepared` journal is cut. -/
theorem safe_run_iff {events : List Event} (h : plan.Deletion disk) :
    (∀ m, plan.Safe (Runs.run (exec sha) disk (events.take m))) ↔
      Runs.Meets (exec sha) plan.NotCut disk events := by
  induction events generalizing disk with
  | nil => exact iff_of_true (fun m => by rw [List.take_nil]; exact h.safe) trivial
  | cons event events ih =>
    constructor
    · intro hsafe
      have hcut : plan.NotCut disk event := by
        by_contra hcut
        exact (wedged_of_cut h hcut).not_safe (hsafe 1)
      exact ⟨hcut, (ih (h.exec hcut)).mp fun m => hsafe (m + 1)⟩
    · rintro ⟨hcut, hmeets⟩ m
      cases m with
      | zero => exact h.safe
      | succ m => exact (ih (h.exec hcut)).mpr hmeets m

/-- Once a recovery of the `prepared` journal is cut, nothing that follows changes the tree, and no
listing of it returns. -/
theorem stuck_after_cut {start : Disk} (h : plan.Start start)
    (removals : List (Path → Option RestoreDir)) (stop : Option ℕ) {before : List Event}
    {event : Event} (after : List Event)
    (hmeets : Runs.Meets (exec sha) plan.NotCut (plan.stopped start removals stop) before)
    (hcut : ¬plan.NotCut (Runs.run (exec sha) (plan.stopped start removals stop) before) event) :
    Runs.run (exec sha) (plan.stopped start removals stop) (before ++ event :: after)
        = Runs.run (exec sha) (plan.stopped start removals stop) (before ++ [event]) ∧
      ∃ e, (listPendingQuarantines sha).result (Runs.run (exec sha)
        (plan.stopped start removals stop) (before ++ event :: after)) = .error e := by
  have hdeletion := hmeets.invariant _ (fun disk event hok h => Deletion.exec h hok)
    (deletion_stopped h removals stop)
  have hwedged := wedged_of_cut hdeletion hcut
  have hstays : Runs.run (exec sha) (plan.stopped start removals stop) (before ++ event :: after)
      = exec sha (Runs.run (exec sha) (plan.stopped start removals stop) before) event := by
    rw [Runs.run_append, Runs.run_cons, hwedged.run]
  rw [hstays, Runs.run_append]
  exact ⟨rfl, list_wedged hwedged⟩

/-- The deletion is safe, wherever it is stopped, exactly when no recovery of the `prepared` journal
is cut. -/
theorem deletion_safe_iff {start : Disk} (h : plan.Start start)
    (removals : List (Path → Option RestoreDir)) (stop : Option ℕ) (events : List Event) :
    (∀ m, plan.Safe (Runs.run (exec sha) (plan.stopped start removals stop) (events.take m))) ↔
      Runs.Meets (exec sha) plan.NotCut (plan.stopped start removals stop) events :=
  safe_run_iff (deletion_stopped h removals stop)

end Plan

/-! ### One restore point -/

/-- Digests that tell nothing apart. -/
def constantSha : Sha256 where
  hexdigest _ := String.ofList (List.replicate 64 'a')
  length_hexdigest _ := by rw [String.length_ofList, List.length_replicate]

/-- The only restore point. -/
def onlyPoint (path : Path) : Option RestoreDir :=
  if path = ("run", "book") then some ⟨1, 2, [("restore.json", [])]⟩ else none

/-- Its deletion. -/
def onlyPlan : Plan constantSha where
  fresh := ⟨"00000000000000000000000000000000", 1, 3, 1, 4⟩
  backup := String.ofList (List.replicate 64 'b')
  candidates := [⟨("run", "book"), String.ofList (List.replicate 64 'a'), 1, 2⟩]
  points := onlyPoint
  others := []
  id_valid := by decide
  id_new := List.not_mem_nil
  backup_length := by rw [String.length_ofList, List.length_replicate]
  candidates_ne := List.cons_ne_nil _ _
  distinct := List.nodup_singleton _
  named candidate h := by
    rw [List.mem_singleton.mp h]
    decide
  present candidate h := by
    rw [List.mem_singleton.mp h]
    rfl
  settled entry h := absurd h List.not_mem_nil

/-- The disk before. -/
def onlyDisk : Disk := ⟨onlyPoint, false, [], []⟩

theorem start_onlyDisk : onlyPlan.Start onlyDisk := ⟨rfl, rfl, rfl, fun _ => rfl⟩

/-- The deletion stops once the journal is published, and the recovery after its first rename. -/
theorem onlyPlan_cut :
    ¬onlyPlan.NotCut (onlyPlan.stopped onlyDisk [] (some 6))
      (.recover onlyPlan.fresh.id onlyPlan.backup [] (some 2)) := by
  intro hcut
  have hstate : (onlyPlan.stopped onlyDisk [] (some 6)).journalState onlyPlan.fresh.id
      = some .prepared := by rfl
  have hpayload : onlyPlan.payload [] [] ∈ (onlyPlan.stopped onlyDisk [] (some 6)).payload
      onlyPlan.fresh.id := by
    rw [Plan.payload_nil]
    rfl
  exact absurd (hcut rfl rfl hstate _ hpayload) (by decide)

theorem deletion_not_safe :
    ¬∀ (sha : Sha256) (plan : Plan sha) (start : Disk), plan.Start start →
      ∀ (removals : List (Path → Option RestoreDir)) (stop : Option ℕ) (events : List Event),
        plan.Safe (Runs.run (exec sha) (plan.stopped start removals stop) events) := by
  intro h
  exact (Plan.wedged_of_cut (Plan.deletion_stopped start_onlyDisk [] (some 6)) onlyPlan_cut).not_safe
    (h constantSha onlyPlan onlyDisk start_onlyDisk [] (some 6)
      [.recover onlyPlan.fresh.id onlyPlan.backup [] (some 2)])

/-- Stopped at the same place, listed and then recovered without a stop. -/
theorem onlyPlan_safe :
    onlyPlan.Safe (Runs.run (exec constantSha) (onlyPlan.stopped onlyDisk [] (some 6))
      [.list none, .recover onlyPlan.fresh.id onlyPlan.backup [] none]) :=
  (Plan.deletion_safe_iff start_onlyDisk [] (some 6)
    [.list none, .recover onlyPlan.fresh.id onlyPlan.backup [] none]).mpr ⟨trivial, trivial, trivial⟩ 2

theorem onlyPlan_held :
    onlyPlan.Held (Runs.run (exec constantSha) (onlyPlan.stopped onlyDisk [] (some 6))
      [.recover onlyPlan.fresh.id onlyPlan.backup [] (some 2)]) :=
  Plan.deletion_held start_onlyDisk [] (some 6)
    [.recover onlyPlan.fresh.id onlyPlan.backup [] (some 2)]

theorem onlyPlan_stuck :
    ∃ e, (listPendingQuarantines constantSha).result
      (Runs.run (exec constantSha) (onlyPlan.stopped onlyDisk [] (some 6))
        [.recover onlyPlan.fresh.id onlyPlan.backup [] (some 2),
          .recover onlyPlan.fresh.id onlyPlan.backup [] none]) = .error e :=
  (@Plan.stuck_after_cut _ _ _ start_onlyDisk [] (some 6)
    [] _ [.recover onlyPlan.fresh.id onlyPlan.backup [] none] trivial onlyPlan_cut).2

end Bookwarden.Retention.Quarantine
