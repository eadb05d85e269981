import Bookwarden.Retention.Quarantine

/-!
# The disks on the way of a deletion

A plan is a deletion that can be started: candidates that stand where the manifest says, below a
quarantine root where everything else is deleted. Every disk that the deletion or a recovery comes
through is determined by the candidates that are in the payload, the parents and the temporary files
that were made, and the journal.

## Main definitions

* `Plan`
* `Plan.Unpublished`, `Plan.Moving`, `Plan.Quarantined`, `Plan.Deleting`, `Plan.Deleted`

## Main results

* `Plan.triple_moveCandidates`, `Plan.triple_recoverCandidates` — the disks of the two loops
* `Plan.triple_delete` — the disks once every candidate is in the payload
* `Plan.preflight_moving` — when the preflight accepts a disk on which candidates are moved
-/

namespace Bookwarden.Retention.Quarantine

open Crash

variable {sha : Sha256}

/-! ### Plans -/

/-- A transaction that is over, and none of whose candidates is back. -/
structure Settled (points : Path → Option RestoreDir) (entry : String × Transaction) : Prop where
  exists_journal : ∃ journal, readQuarantineJournal entry.1 entry.2 = .ok journal ∧
    journal.state = .deleted ∧ entry.2.device = journal.transactionDevice ∧
    entry.2.inode = journal.transactionInode ∧ entry.2.payload.isSome = false ∧
    ∀ item ∈ journal.candidates, points item.path = none

/-- A deletion that can be started. -/
structure Plan (sha : Sha256) where
  fresh : Fresh
  backup : String
  candidates : List RestoreDeletionCandidate
  /-- The restore points before. -/
  points : Path → Option RestoreDir
  /-- The other transactions. -/
  others : List (String × Transaction)
  id_valid : isTransactionId fresh.id = true
  id_new : fresh.id ∉ Assoc.keys others
  backup_length : backup.length = 64
  candidates_ne : candidates ≠ []
  distinct : (candidates.map RestoreDeletionCandidate.path).Nodup
  named : ∀ candidate ∈ candidates, relativeOf (relativeText candidate.path) = some candidate.path
  present : ∀ candidate ∈ candidates, validateCandidateIdentity sha candidate.manifestSha256
    candidate.device candidate.inode (points candidate.path) = .ok ()
  settled : ∀ entry ∈ others, Settled points entry

namespace Plan

variable (plan : Plan sha)

/-- The paths of the candidates. -/
def paths : List Path := plan.candidates.map RestoreDeletionCandidate.path

/-- The restore points, when some are in the payload or deleted. -/
def without (gone : List Path) (path : Path) : Option RestoreDir :=
  if path ∈ gone then none else plan.points path

/-- The payload that holds them. -/
def payload (parents : List String) (gone : List Path) : Payload where
  device := plan.fresh.payloadDevice
  inode := plan.fresh.payloadInode
  parents := parents
  entries path := if path ∈ gone then plan.points path else none

/-- The journal of the plan. -/
def journal (state : State) (moved : List Path) : Journal :=
  { preparedJournal plan.fresh plan.backup plan.candidates with
    state := state
    moved := moved.map relativeText }

/-- The directory of the plan's transaction. -/
def transaction (payload : Option Payload) (journal : Journal) (temporaries : ℕ) : Transaction where
  device := plan.fresh.device
  inode := plan.fresh.inode
  payload := payload
  journal := some journal
  temporaries := temporaries

/-- The disk on which the transaction is published. -/
def disk (gone : List Path) (transaction : Transaction) : Disk where
  points := plan.without gone
  quarantineRoot := true
  staging := []
  transactions := plan.others ++ [(plan.fresh.id, transaction)]

/-! ### Phases -/

/-- The disk before. -/
structure Start (disk : Disk) : Prop where
  points : disk.points = plan.points
  transactions : disk.transactions = plan.others
  staging : disk.staging = []
  root : disk.quarantineRoot = false → plan.others = []

/-- The disk on which the transaction is being prepared. -/
def staged (transaction : Transaction) : Disk where
  points := plan.points
  quarantineRoot := true
  staging := [(plan.fresh.id, transaction)]
  transactions := plan.others

/-- Nothing is published, and nothing is in the payload. -/
def Unpublished (disk : Disk) : Prop :=
  plan.Start disk ∨ ∃ transaction, (∀ payload ∈ transaction.payload, payload.parents = []) ∧
    disk = plan.staged transaction

/-- Some candidates are in the payload, these among them, and the others where they were; the
journal says so of some. -/
def MovingFrom (least : List Path) (state : State) (disk : Disk) : Prop :=
  ∃ gone moved parents n, least ⊆ gone ∧ moved ⊆ gone ∧ gone ⊆ plan.paths ∧ moved.Nodup ∧
    disk = plan.disk gone
      (plan.transaction (some (plan.payload parents gone)) (plan.journal state moved) n)

/-- Candidates are moved into the payload. -/
def Moving (state : State) (disk : Disk) : Prop := plan.MovingFrom [] state disk

/-- What the preflight of a published transaction asks for, beside the places of the candidates. -/
def Consistent (state : State) (gone moved : List Path) : Prop :=
  (state = .prepared → ∀ path ∈ plan.paths, path ∉ gone) ∧
    (state = .quarantined → ∀ path ∈ plan.paths, path ∈ moved)

/-- Nothing was moved yet. -/
def Prepared (disk : Disk) : Prop :=
  ∃ parents n, disk = plan.disk []
    (plan.transaction (some (plan.payload parents [])) (plan.journal .prepared []) n)

/-- The candidates, in some order. -/
structure AllMoved (moved : List Path) : Prop where
  nodup : moved.Nodup
  mem_iff : ∀ path, path ∈ moved ↔ path ∈ plan.paths

/-- All candidates are in the payload. -/
def Quarantined (disk : Disk) : Prop :=
  ∃ moved parents n, plan.AllMoved moved ∧ disk = plan.disk plan.paths
    (plan.transaction (some (plan.payload parents plan.paths)) (plan.journal .quarantined moved) n)

/-- The payload is being deleted. -/
def Deleting (disk : Disk) : Prop :=
  ∃ moved payload n, plan.AllMoved moved ∧
    (∀ p ∈ payload, p.device = plan.fresh.payloadDevice ∧ p.inode = plan.fresh.payloadInode) ∧
    disk = plan.disk plan.paths (plan.transaction payload (plan.journal .deleting moved) n)

/-- The payload is deleted, and the journal says so. -/
def Deleted (disk : Disk) : Prop :=
  ∃ moved n, plan.AllMoved moved ∧
    disk = plan.disk plan.paths (plan.transaction none (plan.journal .deleted moved) n)

variable {plan} {least gone moved : List Path} {parents : List String} {payload : Option Payload}
  {journal journal' : Journal} {n : ℕ} {transaction : Transaction} {state : State} {path : Path}

/-! ### What the steps do -/

theorem get?_disk (gone : List Path) (transaction : Transaction) :
    Assoc.get? plan.fresh.id (plan.disk gone transaction).transactions = some transaction := by
  show Assoc.get? _ (plan.others ++ _) = _
  rw [Assoc.get?_append, Assoc.get?_eq_none_iff.mpr plan.id_new, Assoc.get?_cons, if_pos rfl]
  rfl

theorem set_append {l : List (String × Transaction)} {id : String} (h : id ∉ Assoc.keys l)
    (old new : Transaction) : Assoc.set id new (l ++ [(id, old)]) = l ++ [(id, new)] := by
  induction l with
  | nil => rw [List.nil_append, List.nil_append, Assoc.set, if_pos rfl]
  | cons entry l ih =>
    have hne : entry.1 ≠ id := fun heq => h (heq ▸ List.mem_cons_self)
    rw [List.cons_append, Assoc.set, if_neg hne, ih fun hmem => h (List.mem_cons_of_mem _ hmem),
      List.cons_append]

theorem modifyTransaction_disk (gone : List Path) (transaction : Transaction)
    (f : Transaction → Transaction) :
    (plan.disk gone transaction).modifyTransaction plan.fresh.id f = plan.disk gone (f transaction) := by
  rw [Disk.modifyTransaction, get?_disk]
  exact congrArg (fun transactions => { plan.disk gone transaction with transactions })
    (set_append plan.id_new transaction (f transaction))

theorem without_append (gone : List Path) (path : Path) :
    Function.update (plan.without gone) path none = plan.without (gone ++ [path]) := by
  funext p
  rw [Function.update_apply, without, without]
  by_cases hp : p = path
  · rw [if_pos hp, if_pos (List.mem_append_right _ (List.mem_singleton.mpr hp))]
  · rw [if_neg hp]
    simp [hp]

theorem entries_append (hpath : path ∉ gone) :
    Function.update (plan.payload parents gone).entries path (plan.without gone path)
      = (plan.payload parents (gone ++ [path])).entries := by
  funext p
  rw [Function.update_apply, without, if_neg hpath]
  show (if p = path then _ else if p ∈ gone then _ else _) = if p ∈ gone ++ [path] then _ else _
  by_cases hp : p = path
  · rw [if_pos hp, if_pos (List.mem_append_right _ (List.mem_singleton.mpr hp)), hp]
  · simp [hp]

/-- A rename moves one candidate into the payload. -/
theorem rename_disk (hpath : path ∉ gone) :
    (plan.disk gone (plan.transaction (some (plan.payload parents gone)) journal n)).rename
        plan.fresh.id path
      = plan.disk (gone ++ [path])
        (plan.transaction (some (plan.payload parents (gone ++ [path]))) journal n) := by
  have hentries : plan.transaction (some (plan.payload parents (gone ++ [path]))) journal n =
      plan.transaction (some { plan.payload parents gone with
        entries := Function.update (plan.payload parents gone).entries path (plan.without gone path) })
        journal n := by
    rw [entries_append hpath]
    rfl
  rw [Disk.rename, modifyTransaction_disk, hentries]
  exact congrArg (fun points => { plan.disk gone _ with points }) (without_append gone path)

/-- The order in which they were moved does not matter. -/
theorem disk_congr {gone' : List Path} (h : ∀ path, path ∈ gone ↔ path ∈ gone') :
    plan.disk gone (plan.transaction (some (plan.payload parents gone)) journal n)
      = plan.disk gone' (plan.transaction (some (plan.payload parents gone')) journal n) := by
  have hwithout : plan.without gone = plan.without gone' := by
    funext path
    rw [without, without, if_congr (h path) rfl rfl]
  have hentries : (plan.payload parents gone).entries = (plan.payload parents gone').entries := by
    funext path
    exact if_congr (h path) rfl rfl
  have hpayload : plan.payload parents gone = plan.payload parents gone' := by
    rw [Plan.payload, Plan.payload]
    exact congrArg (fun entries => Payload.mk _ _ parents entries) hentries
  rw [disk, disk, hwithout, hpayload]

/-! ### The journal -/

@[simp] theorem journal_state (state : State) (moved : List Path) :
    (plan.journal state moved).state = state := rfl

theorem journal_append (state : State) (moved : List Path) (path : Path) :
    { plan.journal state moved with
        moved := (plan.journal state moved).moved ++ [relativeText path] }
      = plan.journal state (moved ++ [path]) := by
  rw [Plan.journal, Plan.journal, List.map_append]
  rfl

theorem item_path {candidate : RestoreDeletionCandidate} (h : candidate ∈ plan.candidates) :
    (candidateToJournal candidate).path = candidate.path := by
  show (relativeOf (relativeText candidate.path)).getD _ = _
  rw [plan.named candidate h]
  rfl

theorem relativeText_inj {p q : Path} (hp : p ∈ plan.paths) (hq : q ∈ plan.paths)
    (h : relativeText p = relativeText q) : p = q := by
  obtain ⟨c, hc, rfl⟩ := List.mem_map.mp hp
  obtain ⟨c', hc', rfl⟩ := List.mem_map.mp hq
  exact Option.some.inj ((plan.named c hc).symm.trans (h ▸ plan.named c' hc'))

theorem mem_moved_iff (hmoved : moved ⊆ plan.paths) (hpath : path ∈ plan.paths) :
    relativeText path ∈ (plan.journal state moved).moved ↔ path ∈ moved := by
  refine ⟨fun h => ?_, fun h => List.mem_map_of_mem h⟩
  obtain ⟨p, hp, heq⟩ := List.mem_map.mp h
  exact relativeText_inj (hmoved hp) hpath heq ▸ hp

theorem texts_eq (state : State) (moved : List Path) :
    (plan.journal state moved).candidates.map Item.relativePath = plan.paths.map relativeText := by
  show (plan.candidates.map candidateToJournal).map Item.relativePath = _
  rw [paths, List.map_map, List.map_map]
  rfl

/-- The journal reader accepts what is written. -/
theorem accepted (hmoved : moved ⊆ plan.paths) (hnodup : moved.Nodup) (state : State) :
    (plan.journal state moved).Accepted plan.fresh.id where
  transactionId := rfl
  candidates h := plan.candidates_ne (List.map_eq_nil_iff.mp h)
  backup := plan.backup_length
  paths item hitem := by
    obtain ⟨c, hc, rfl⟩ := List.mem_map.mp hitem
    rw [show (candidateToJournal c).relativePath = relativeText c.path from rfl, plan.named c hc]
    exact Option.some_ne_none _
  digests item hitem := by
    obtain ⟨c, hc, rfl⟩ := List.mem_map.mp hitem
    have hpresent := plan.present c hc
    unfold validateCandidateIdentity at hpresent
    split at hpresent
    · cases hpresent
    · split at hpresent
      · cases hpresent
      · rename_i dir _ hvalid
        rw [not_or, not_or, not_not, not_not, not_not] at hvalid
        obtain ⟨bytes, -, hbytes⟩ := Option.map_eq_some_iff.mp hvalid.2.2
        show c.manifestSha256.length = 64
        rw [← hbytes]
        exact sha.length_hexdigest bytes
  distinct := by
    rw [texts_eq]
    exact List.Nodup.map_on (fun p hp q hq => relativeText_inj hp hq) plan.distinct
  movedDistinct := List.Nodup.map_on (fun p hp q hq => relativeText_inj (hmoved hp) (hmoved hq)) hnodup
  movedKnown text htext := by
    rw [texts_eq]
    obtain ⟨p, hp, rfl⟩ := List.mem_map.mp htext
    exact List.mem_map_of_mem (hmoved hp)

theorem read_transaction (hmoved : moved ⊆ plan.paths) (hnodup : moved.Nodup) (state : State) :
    readQuarantineJournal plan.fresh.id (plan.transaction payload (plan.journal state moved) n)
      = .ok (plan.journal state moved) := by
  rw [readQuarantineJournal, plan.id_valid]
  exact if_pos (accepted hmoved hnodup state)

/-- A candidate is what it was, wherever it stands. -/
theorem validate_item {candidate : RestoreDeletionCandidate} (h : candidate ∈ plan.candidates) :
    validateJournalCandidate sha (candidateToJournal candidate) (plan.points candidate.path) = .ok () :=
  plan.present candidate h

theorem exists_point {candidate : RestoreDeletionCandidate} (h : candidate ∈ plan.candidates) :
    ∃ dir, plan.points candidate.path = some dir := by
  have hpresent := plan.present candidate h
  cases hpoint : plan.points candidate.path with
  | none =>
    rw [hpoint] at hpresent
    cases hpresent
  | some dir => exact ⟨dir, rfl⟩

/-! ### Journal writes and renames -/

section

variable {E I : Disk → Prop}

theorem triple_writeQuarantineJournal
    (hmid : I (plan.disk gone (plan.transaction payload journal (n + 1))))
    (hend : I (plan.disk gone (plan.transaction payload journal' n))) :
    Triple (fun d => d = plan.disk gone (plan.transaction payload journal n))
      (writeQuarantineJournal plan.fresh.id journal')
      (fun _ d => d = plan.disk gone (plan.transaction payload journal' n)) E I := by
  refine Triple.step_bind (K := fun d => d = plan.disk gone (plan.transaction payload journal (n + 1)))
    (fun d hd => ?_) (Triple.step fun d hd => ?_)
  · rw [hd, modifyTransaction_disk]
    exact ⟨rfl, hmid⟩
  · rw [hd, modifyTransaction_disk]
    exact ⟨rfl, hend⟩

theorem triple_makeParent (run : String)
    (hway : ∀ parents, I (plan.disk gone
      (plan.transaction (some (plan.payload parents gone)) journal n))) :
    Triple (fun d => d = plan.disk gone (plan.transaction (some (plan.payload parents gone)) journal n))
      (makeParent plan.fresh.id run)
      (fun _ d => ∃ parents, d = plan.disk gone
        (plan.transaction (some (plan.payload parents gone)) journal n)) E I := by
  refine Triple.ask_bind fun d hd => ?_
  split
  · exact Triple.pure fun d' hd' => ⟨parents, hd'.trans hd⟩
  · refine Triple.step fun d' hd' => ?_
    rw [hd', hd, modifyTransaction_disk]
    exact ⟨⟨parents ++ [run], rfl⟩, hway _⟩

theorem triple_rename (hpath : path ∉ gone)
    (hway : I (plan.disk (gone ++ [path])
      (plan.transaction (some (plan.payload parents (gone ++ [path]))) journal n))) :
    Triple (fun d => d = plan.disk gone (plan.transaction (some (plan.payload parents gone)) journal n))
      (Program.step fun d => d.rename plan.fresh.id path : Program Unit)
      (fun _ d => d = plan.disk (gone ++ [path])
        (plan.transaction (some (plan.payload parents (gone ++ [path]))) journal n)) E I := by
  refine Triple.step fun d hd => ?_
  rw [hd, rename_disk hpath]
  exact ⟨rfl, hway⟩

end

/-- While candidates are moved. -/
theorem moving_intro (hleast : least ⊆ gone) (hmoved : moved ⊆ gone) (hgone : gone ⊆ plan.paths)
    (hnodup : moved.Nodup) : plan.MovingFrom least state (plan.disk gone
      (plan.transaction (some (plan.payload parents gone)) (plan.journal state moved) n)) :=
  ⟨gone, moved, parents, n, hleast, hmoved, hgone, hnodup, rfl⟩

/-- A candidate that is not in the payload is moved there. -/
theorem triple_move_bind {β : Type} {f : Unit → Program β} {R : β → Disk → Prop} {E : Disk → Prop}
    (hleast : least ⊆ gone) (hmoved : moved ⊆ gone) (hgone : gone ⊆ plan.paths) (hnodup : moved.Nodup)
    (hpath : path ∉ gone) (hcandidate : path ∈ plan.paths)
    (hf : ∀ parents, Triple (fun d => d = plan.disk (gone ++ [path])
        (plan.transaction (some (plan.payload parents (gone ++ [path]))) (plan.journal state moved) n))
      (f ()) R E (plan.MovingFrom least state)) :
    Triple (fun d => d = plan.disk gone
        (plan.transaction (some (plan.payload parents gone)) (plan.journal state moved) n))
      (makeParent plan.fresh.id path.1 >>= fun _ =>
        Program.step (fun d => d.rename plan.fresh.id path) >>= f) R E
      (plan.MovingFrom least state) := by
  have hgone' : gone ++ [path] ⊆ plan.paths :=
    List.append_subset.mpr ⟨hgone, List.cons_subset.mpr ⟨hcandidate, List.nil_subset _⟩⟩
  refine (triple_makeParent path.1 fun _ => moving_intro hleast hmoved hgone hnodup).bind fun _ => ?_
  refine Triple.of_forall fun d hd => ?_
  obtain ⟨parents', rfl⟩ := hd
  refine (triple_rename hpath ?_).bind fun _ => hf parents'
  exact moving_intro (List.subset_append_of_subset_left _ hleast)
    (List.subset_append_of_subset_left _ hmoved) hgone' hnodup

/-- And the journal says so. -/
theorem triple_journal_move (hleast : least ⊆ gone) (hmoved : moved ⊆ gone) (hgone : gone ⊆ plan.paths)
    (hnodup : moved.Nodup) (hpath : path ∉ moved) (hin : path ∈ gone) {E : Disk → Prop} :
    Triple (fun d => d = plan.disk gone
        (plan.transaction (some (plan.payload parents gone)) (plan.journal state moved) n))
      (writeQuarantineJournal plan.fresh.id (plan.journal state (moved ++ [path])))
      (fun _ d => d = plan.disk gone
        (plan.transaction (some (plan.payload parents gone)) (plan.journal state (moved ++ [path])) n))
      E (plan.MovingFrom least state) := by
  refine triple_writeQuarantineJournal (moving_intro hleast hmoved hgone hnodup)
    (moving_intro hleast ?_ hgone ?_)
  · exact List.append_subset.mpr ⟨hmoved, List.cons_subset.mpr ⟨hin, List.nil_subset _⟩⟩
  · rw [List.nodup_append_comm, List.singleton_append, List.nodup_cons]
    exact ⟨hpath, hnodup⟩

/-- The loop of `quarantine_and_delete`. -/
theorem triple_moveCandidates (done rest : List RestoreDeletionCandidate)
    (hsplit : plan.candidates = done ++ rest) :
    Triple
      (fun d => ∃ parents n, d = plan.disk (done.map RestoreDeletionCandidate.path)
        (plan.transaction (some (plan.payload parents (done.map RestoreDeletionCandidate.path)))
          (plan.journal .quarantining (done.map RestoreDeletionCandidate.path)) n))
      (moveCandidates sha plan.fresh.id rest
        (plan.journal .quarantining (done.map RestoreDeletionCandidate.path)))
      (fun journal d => journal = plan.journal .quarantining plan.paths ∧
        ∃ parents n, d = plan.disk plan.paths
          (plan.transaction (some (plan.payload parents plan.paths))
            (plan.journal .quarantining plan.paths) n))
      (fun _ => False) (plan.Moving .quarantining) := by
  induction rest generalizing done with
  | nil =>
    rw [List.append_nil] at hsplit
    refine Triple.pure fun d hd => ?_
    rw [Plan.paths, hsplit]
    exact ⟨rfl, hd⟩
  | cons candidate rest ih =>
    have hmem : candidate ∈ plan.candidates := by
      rw [hsplit]
      exact List.mem_append_right _ List.mem_cons_self
    have hdistinct := plan.distinct
    rw [hsplit, List.map_append, List.map_cons] at hdistinct
    have hgone : done.map RestoreDeletionCandidate.path ⊆ plan.paths := by
      rw [Plan.paths, hsplit, List.map_append]
      exact List.subset_append_left _ _
    have hnodup : (done.map RestoreDeletionCandidate.path).Nodup := hdistinct.of_append_left
    have hpath : candidate.path ∉ done.map RestoreDeletionCandidate.path := fun h =>
      (List.nodup_append.mp hdistinct).2.2 _ h _ List.mem_cons_self rfl
    have hpaths : candidate.path ∈ plan.paths := List.mem_map_of_mem hmem
    rw [moveCandidates]
    refine Triple.ask_bind fun d hd => ?_
    obtain ⟨parents, n, hd⟩ := hd
    have hchecked : validateCandidate sha d candidate = .ok () := by
      rw [validateCandidate, hd]
      show validateCandidateIdentity _ _ _ _ (plan.without _ candidate.path) = _
      rw [Plan.without, if_neg hpath]
      exact plan.present candidate hmem
    rw [hchecked]
    refine Triple.lift_bind (fun _ _ => ?_) nofun
    rw [hd]
    refine triple_move_bind (List.nil_subset _) (List.Subset.refl _) hgone hnodup hpath hpaths
      fun parents => ?_
    have hwrite := @triple_journal_move _ plan _ _ _ parents n .quarantining _ (List.nil_subset _)
      (List.subset_append_left _ _) (List.append_subset.mpr ⟨hgone, List.cons_subset.mpr
        ⟨hpaths, List.nil_subset _⟩⟩) hnodup hpath (List.mem_append_right _ List.mem_cons_self)
      (fun _ => False)
    simp only [journal_append]
    refine hwrite.bind fun _ => ?_
    have hnext := ih (done ++ [candidate]) (by rw [hsplit, List.append_assoc]; rfl)
    rw [List.map_append, List.map_singleton] at hnext
    exact hnext.weaken (fun d' hd' => ⟨parents, n, hd'⟩) (fun _ _ => id) (fun _ => id) fun _ => id

/-! ### Recovering -/

/-- What the loop of `recover_quarantine` sees of a candidate. -/
theorem entry_eq (gone : List Path) (path : Path) :
    ((Assoc.get? plan.fresh.id (plan.disk gone
        (plan.transaction (some (plan.payload parents gone)) journal n)).transactions).bind
          Transaction.payload).bind (fun payload => payload.entries path)
      = if path ∈ gone then plan.points path else none := by
  rw [get?_disk]
  rfl

/-- The loop of `recover_quarantine`. -/
theorem triple_recoverCandidates (done rest : List RestoreDeletionCandidate)
    (hsplit : plan.candidates = done ++ rest) (hdone : done.map RestoreDeletionCandidate.path ⊆ moved)
    (hleast : least ⊆ gone) (hmoved : moved ⊆ gone) (hgone : gone ⊆ plan.paths) (hnodup : moved.Nodup) :
    Triple
      (fun d => d = plan.disk gone
        (plan.transaction (some (plan.payload parents gone)) (plan.journal state moved) n))
      (recoverCandidates sha plan.fresh.id (rest.map candidateToJournal) (plan.journal state moved))
      (fun journal d => ∃ moved parents, plan.AllMoved moved ∧ journal = plan.journal state moved ∧
        d = plan.disk plan.paths (plan.transaction (some (plan.payload parents plan.paths))
          (plan.journal state moved) n))
      (fun _ => False) (plan.MovingFrom least state) := by
  induction rest generalizing done gone moved parents with
  | nil =>
    rw [List.append_nil] at hsplit
    have hall : ∀ path, path ∈ moved ↔ path ∈ plan.paths := fun path =>
      ⟨fun h => hgone (hmoved h), fun h => hdone (by rwa [← hsplit])⟩
    refine Triple.pure fun d hd => ⟨moved, parents, ⟨hnodup, hall⟩, rfl, ?_⟩
    rw [hd]
    exact disk_congr fun path => ⟨fun h => hgone h, fun h => hmoved ((hall path).mpr h)⟩
  | cons candidate rest ih =>
    have hmem : candidate ∈ plan.candidates := by
      rw [hsplit]
      exact List.mem_append_right _ List.mem_cons_self
    have hpaths : candidate.path ∈ plan.paths := List.mem_map_of_mem hmem
    have hsplit' : plan.candidates = (done ++ [candidate]) ++ rest := by
      rw [hsplit, List.append_assoc]
      rfl
    obtain ⟨dir, hdir⟩ := exists_point hmem
    have hvalid := validate_item hmem
    have hlisted : (candidateToJournal candidate).relativePath ∈ (plan.journal state moved).moved ↔
        candidate.path ∈ moved := mem_moved_iff (List.Subset.trans hmoved hgone) hpaths
    rw [List.map_cons, recoverCandidates]
    refine Triple.ask_bind fun d hd => ?_
    refine Triple.ask_bind fun d' hd' => ?_
    rw [hd', hd, item_path hmem, entry_eq]
    -- the journal says so, once the candidate is in the payload
    have hjournal : ∀ gone' parents', least ⊆ gone' → moved ⊆ gone' → gone' ⊆ plan.paths → candidate.path ∈ gone' →
        Triple (fun d => d = plan.disk gone' (plan.transaction (some (plan.payload parents' gone'))
            (plan.journal state moved) n))
          (if (candidateToJournal candidate).relativePath ∈ (plan.journal state moved).moved then
            recoverCandidates sha plan.fresh.id (rest.map candidateToJournal) (plan.journal state moved)
          else do
            writeQuarantineJournal plan.fresh.id (plan.journal state (moved ++ [candidate.path]))
            recoverCandidates sha plan.fresh.id (rest.map candidateToJournal)
              (plan.journal state (moved ++ [candidate.path])))
          (fun journal d => ∃ moved parents, plan.AllMoved moved ∧
            journal = plan.journal state moved ∧
            d = plan.disk plan.paths (plan.transaction (some (plan.payload parents plan.paths))
              (plan.journal state moved) n))
          (fun _ => False) (plan.MovingFrom least state) := by
      intro gone' parents' hleast' hmoved' hgone' hin
      by_cases hsaid : candidate.path ∈ moved
      · rw [if_pos (hlisted.mpr hsaid)]
        refine ih (done ++ [candidate]) hsplit' ?_ hleast' hmoved' hgone' hnodup
        rw [List.map_append]
        exact List.append_subset.mpr ⟨hdone, List.cons_subset.mpr ⟨hsaid, List.nil_subset _⟩⟩
      · rw [if_neg fun h => hsaid (hlisted.mp h)]
        refine (triple_journal_move hleast' hmoved' hgone' hnodup hsaid hin).bind fun _ => ?_
        refine ih (done ++ [candidate]) hsplit' ?_ hleast' ?_ hgone' ?_
        · rw [List.map_append]
          exact List.append_subset.mpr ⟨List.subset_append_of_subset_left _ hdone,
            List.subset_append_right _ _⟩
        · exact List.append_subset.mpr ⟨hmoved', List.cons_subset.mpr ⟨hin, List.nil_subset _⟩⟩
        · rw [List.nodup_append_comm, List.singleton_append, List.nodup_cons]
          exact ⟨hsaid, hnodup⟩
    simp only [← journal_append] at hjournal
    by_cases hin : candidate.path ∈ gone
    · rw [if_pos hin, hdir, if_pos Option.isSome_some, ← hdir, hvalid]
      exact Triple.lift_bind (fun _ _ => hjournal gone parents hleast hmoved hgone hin) nofun
    · have hpoint : (plan.disk gone (plan.transaction (some (plan.payload parents gone))
          (plan.journal state moved) n)).points candidate.path = plan.points candidate.path :=
        if_neg hin
      rw [if_neg hin, if_neg (by simp), hpoint, if_pos (by rw [hdir]; rfl), hvalid]
      refine Triple.lift_bind (fun _ _ => ?_) nofun
      refine triple_move_bind hleast hmoved hgone hnodup hin hpaths fun parents' => ?_
      refine hjournal _ parents' (List.subset_append_of_subset_left _ hleast)
        (List.subset_append_of_subset_left _ hmoved) ?_
        (List.mem_append_right _ List.mem_cons_self)
      exact List.append_subset.mpr ⟨hgone, List.cons_subset.mpr ⟨hpaths, List.nil_subset _⟩⟩

/-- Nothing is left to move. -/
theorem triple_recoverCandidates_of_quarantined {items : List RestoreDeletionCandidate}
    (hitems : items ⊆ plan.candidates) (hmoved : plan.AllMoved moved) {E I : Disk → Prop} :
    Triple
      (fun d => d = plan.disk plan.paths (plan.transaction
        (some (plan.payload parents plan.paths)) (plan.journal state moved) n))
      (recoverCandidates sha plan.fresh.id (items.map candidateToJournal) (plan.journal state moved))
      (fun journal d => journal = plan.journal state moved ∧ d = plan.disk plan.paths (plan.transaction
        (some (plan.payload parents plan.paths)) (plan.journal state moved) n)) E I := by
  induction items with
  | nil => exact Triple.pure fun d hd => ⟨rfl, hd⟩
  | cons candidate items ih =>
    have hmem : candidate ∈ plan.candidates := hitems List.mem_cons_self
    have hpaths : candidate.path ∈ plan.paths := List.mem_map_of_mem hmem
    obtain ⟨dir, hdir⟩ := exists_point hmem
    have hvalid := validate_item hmem
    have hlisted : (candidateToJournal candidate).relativePath ∈ (plan.journal state moved).moved :=
      (mem_moved_iff (fun p hp => (hmoved.mem_iff p).mp hp) hpaths).mpr
        ((hmoved.mem_iff _).mpr hpaths)
    rw [List.map_cons, recoverCandidates]
    refine Triple.ask_bind fun d hd => ?_
    refine Triple.ask_bind fun d' hd' => ?_
    rw [hd', hd, item_path hmem, entry_eq, if_pos hpaths, hdir, if_pos Option.isSome_some, ← hdir,
      hvalid]
    refine Triple.lift_bind (fun _ _ => ?_) nofun
    refine (congrArg (fun x => Triple _ x _ _ _) (if_pos hlisted)).mpr ?_
    exact ih (List.cons_subset.mp hitems).2

/-! ### Deleting -/

theorem validate_payload {payload : Payload}
    (h : payload.device = plan.fresh.payloadDevice ∧ payload.inode = plan.fresh.payloadInode)
    (state : State) (moved : List Path) :
    validatePayloadRoot (plan.journal state moved) (some payload) = .ok () := by
  rw [validatePayloadRoot, if_neg]
  rw [not_or, not_not, not_not]
  exact h

/-- The payload is deleted bit by bit. -/
theorem triple_removePayload (removals : List (Path → Option RestoreDir)) (hmoved : plan.AllMoved moved)
    {E : Disk → Prop} :
    Triple
      (fun d => ∃ payload : Payload, (payload.device = plan.fresh.payloadDevice ∧
        payload.inode = plan.fresh.payloadInode) ∧
        d = plan.disk plan.paths (plan.transaction (some payload) (plan.journal .deleting moved) n))
      (removePayload plan.fresh.id removals)
      (fun _ d => d = plan.disk plan.paths (plan.transaction none (plan.journal .deleting moved) n))
      E plan.Deleting := by
  induction removals with
  | nil =>
    refine Triple.step fun d hd => ?_
    obtain ⟨payload, -, rfl⟩ := hd
    rw [modifyTransaction_disk]
    exact ⟨rfl, moved, none, n, hmoved, nofun, rfl⟩
  | cons contents removals ih =>
    refine Triple.step_bind (fun d hd => ?_) ih
    obtain ⟨payload, hpayload, rfl⟩ := hd
    rw [modifyTransaction_disk]
    refine ⟨⟨{ payload with entries := contents }, hpayload, rfl⟩, moved, _, n, hmoved, ?_, rfl⟩
    intro p hp
    cases hp
    exact hpayload

theorem triple_finishQuarantineDelete (removals : List (Path → Option RestoreDir))
    (hmoved : plan.AllMoved moved)
    (hpayload : ∀ p ∈ payload, p.device = plan.fresh.payloadDevice ∧ p.inode = plan.fresh.payloadInode) :
    Triple
      (fun d => d = plan.disk plan.paths
        (plan.transaction payload (plan.journal .deleting moved) n))
      (finishQuarantineDelete plan.fresh.id (plan.journal .deleting moved) removals)
      (fun _ => plan.Deleted) (fun _ => False) (fun d => plan.Deleting d ∨ plan.Deleted d) := by
  have hwrite : Triple
      (fun d => d = plan.disk plan.paths (plan.transaction none (plan.journal .deleting moved) n))
      (writeQuarantineJournal plan.fresh.id (plan.journal .deleted moved))
      (fun _ => plan.Deleted) (fun _ => False) (fun d => plan.Deleting d ∨ plan.Deleted d) :=
    (triple_writeQuarantineJournal (.inl ⟨moved, none, n + 1, hmoved, nofun, rfl⟩)
      (.inr ⟨moved, n, hmoved, rfl⟩)).weaken (fun _ => id) (fun _ d hd => ⟨moved, n, hmoved, hd⟩)
      (fun _ => id) fun _ => id
  rw [finishQuarantineDelete]
  refine Triple.ask_bind fun d hd => ?_
  rw [hd, get?_disk]
  cases payload with
  | none => exact hwrite
  | some payload =>
    have hvalid := validate_payload (hpayload payload rfl) .deleting moved
    refine Triple.lift_bind (fun _ _ => ?_) fun e he => by cases hvalid.symm.trans he
    refine Triple.bind ((triple_removePayload removals hmoved).weaken ?_ (fun _ _ => id) (fun _ => id)
      fun _ => .inl) fun _ => hwrite
    exact fun d hd => ⟨payload, hpayload payload rfl, hd⟩

theorem payload_identity (parents : List String) (gone : List Path) :
    ∀ p ∈ some (plan.payload parents gone),
      p.device = plan.fresh.payloadDevice ∧ p.inode = plan.fresh.payloadInode := by
  intro p hp
  cases hp
  exact ⟨rfl, rfl⟩

/-- The journal says `quarantined`; the rest of a deletion and of a recovery. -/
theorem triple_delete_quarantined (removals : List (Path → Option RestoreDir))
    (hmoved : plan.AllMoved moved) {I : Disk → Prop}
    (hI : ∀ d, plan.Quarantined d ∨ plan.Deleting d ∨ plan.Deleted d → I d) {count : ℕ}
    (hcount : count = plan.candidates.length) :
    Triple
      (fun d => d = plan.disk plan.paths (plan.transaction (some (plan.payload parents plan.paths))
        (plan.journal .quarantined moved) n))
      (do
        writeQuarantineJournal plan.fresh.id (plan.journal .deleting moved)
        finishQuarantineDelete plan.fresh.id (plan.journal .deleting moved) removals
        return count : Program ℕ)
      (fun r d => r = plan.candidates.length ∧ plan.Deleted d) (fun _ => False) I := by
  refine (triple_writeQuarantineJournal (hI _ (.inl ⟨moved, parents, n + 1, hmoved, rfl⟩))
    (hI _ (.inr (.inl ⟨moved, _, n, hmoved, payload_identity _ _, rfl⟩)))).bind fun _ => ?_
  refine ((triple_finishQuarantineDelete removals hmoved (payload_identity _ _)).weaken (fun _ => id)
    (fun _ _ => id) (fun _ => id) fun d hd => hI d (.inr hd)).bind fun _ => ?_
  exact Triple.pure fun d hd => ⟨hcount, hd⟩

/-- All candidates are in the payload, whatever the journal says. -/
theorem triple_delete (removals : List (Path → Option RestoreDir)) (hmoved : plan.AllMoved moved)
    {I : Disk → Prop}
    (hway : I (plan.disk plan.paths (plan.transaction (some (plan.payload parents plan.paths))
      (plan.journal state moved) (n + 1))))
    (hI : ∀ d, plan.Quarantined d ∨ plan.Deleting d ∨ plan.Deleted d → I d) {count : ℕ}
    (hcount : count = plan.candidates.length) :
    Triple
      (fun d => d = plan.disk plan.paths (plan.transaction (some (plan.payload parents plan.paths))
        (plan.journal state moved) n))
      (do
        writeQuarantineJournal plan.fresh.id (plan.journal .quarantined moved)
        writeQuarantineJournal plan.fresh.id (plan.journal .deleting moved)
        finishQuarantineDelete plan.fresh.id (plan.journal .deleting moved) removals
        return count : Program ℕ)
      (fun r d => r = plan.candidates.length ∧ plan.Deleted d) (fun _ => False) I :=
  (triple_writeQuarantineJournal hway (hI _ (.inl ⟨moved, parents, n, hmoved, rfl⟩))).bind
    fun _ => triple_delete_quarantined removals hmoved hI hcount

/-! ### What the checks say -/

theorem forM_eq_ok {α : Type} {f : α → Except String Unit} {l : List α} (h : ∀ x ∈ l, f x = .ok ()) :
    l.forM f = .ok () := by
  induction l with
  | nil => rfl
  | cons x l ih =>
    show (f x >>= fun _ => l.forM f) = .ok ()
    rw [h x List.mem_cons_self]
    exact ih fun y hy => h y (List.mem_cons_of_mem _ hy)

theorem forM_eq_error {α : Type} {f : α → Except String Unit} {l : List α} {x : α} {e : String}
    (hx : x ∈ l) (h : f x = .error e) : ∃ e', l.forM f = .error e' := by
  induction l with
  | nil => cases hx
  | cons y l ih =>
    show ∃ e', (f y >>= fun _ => l.forM f) = .error e'
    cases hy : f y with
    | error e' => exact ⟨e', rfl⟩
    | ok u =>
      rcases List.mem_cons.mp hx with rfl | hx
      · cases hy.symm.trans h
      · exact ih hx

/-- The check of a candidate that is at one of its two places. -/
theorem preflightItem_disk {candidate : RestoreDeletionCandidate} (h : candidate ∈ plan.candidates)
    (hstate : state ≠ .deleting ∧ state ≠ .deleted) (hmoved : moved ⊆ gone) (hgone : gone ⊆ plan.paths) :
    preflightItem sha (plan.disk gone transaction) (some (plan.payload parents gone))
        (plan.journal state moved) (candidateToJournal candidate)
      = if state = .prepared ∧ candidate.path ∈ gone then
          .error ("Invalid prepared quarantine state: " ++ relativeText candidate.path)
        else if state = .quarantined ∧ candidate.path ∉ moved then
          .error ("Invalid quarantined state: " ++ relativeText candidate.path)
        else .ok () := by
  have hpaths : candidate.path ∈ plan.paths := List.mem_map_of_mem h
  obtain ⟨dir, hdir⟩ := exists_point h
  have hvalid := validate_item h
  rw [hdir] at hvalid
  have hlisted : relativeText candidate.path ∈ (plan.journal state moved).moved ↔
      candidate.path ∈ moved := mem_moved_iff (List.Subset.trans hmoved hgone) hpaths
  have htext : (candidateToJournal candidate).relativePath = relativeText candidate.path := rfl
  have hjournal : (plan.journal state moved).state = state := rfl
  have hsource : (plan.disk gone transaction).points candidate.path
      = if candidate.path ∈ gone then none else some dir := by
    rw [← hdir]
    rfl
  have htarget : ((some (plan.payload parents gone)).bind fun payload => payload.entries candidate.path)
      = if candidate.path ∈ gone then some dir else none := by
    rw [← hdir]
    rfl
  rw [preflightItem]
  simp only [item_path h, hsource, htarget, hlisted, htext, hjournal, hstate.1, hstate.2, or_self,
    if_false]
  by_cases hin : candidate.path ∈ gone
  · by_cases hsaid : candidate.path ∈ moved <;>
      simp [hin, hsaid, hvalid]
  · have hsaid : candidate.path ∉ moved := fun hmem => hin (hmoved hmem)
    simp [hin, hsaid, hvalid]

theorem identity_eq : ¬((plan.transaction payload journal n).device ≠
    (plan.journal state moved).transactionDevice ∨ (plan.transaction payload journal n).inode ≠
      (plan.journal state moved).transactionInode) := by
  rintro (h | h) <;> exact h rfl

/-- The directories of the transaction and of the payload are the ones that the journal names. -/
theorem preflight_eq (hstate : state ≠ .deleting ∧ state ≠ .deleted) (disk : Disk) :
    preflightQuarantine sha disk
        (plan.transaction (some (plan.payload parents gone)) (plan.journal state moved) n)
        (plan.journal state moved)
      = (plan.candidates.map candidateToJournal).forM (preflightItem sha disk
          (some (plan.payload parents gone)) (plan.journal state moved)) := by
  have hvalid : validatePayloadRoot (plan.journal state moved) (some (plan.payload parents gone))
      = .ok () := validate_payload ⟨rfl, rfl⟩ state moved
  rw [preflightQuarantine, if_neg identity_eq]
  cases state with
  | deleted => exact absurd rfl hstate.2
  | deleting => exact absurd rfl hstate.1
  | _ =>
    show (validatePayloadRoot _ (some (plan.payload parents gone)) >>= fun _ => _) = _
    rw [hvalid]
    rfl

/-- The preflight while the candidates are at their places. -/
theorem preflight_moving (hstate : state ≠ .deleting ∧ state ≠ .deleted) (hmoved : moved ⊆ gone)
    (hgone : gone ⊆ plan.paths) :
    preflightQuarantine sha (plan.disk gone transaction)
        (plan.transaction (some (plan.payload parents gone)) (plan.journal state moved) n)
        (plan.journal state moved) = .ok () ↔ plan.Consistent state gone moved := by
  rw [preflight_eq hstate]
  constructor
  · intro h
    refine ⟨fun hprepared path hpath hin => ?_, fun hquarantined path hpath => ?_⟩
    · obtain ⟨candidate, hmem, rfl⟩ := List.mem_map.mp hpath
      have hitem := @preflightItem_disk _ _ _ _ parents transaction _ _ hmem hstate hmoved hgone
      rw [if_pos ⟨hprepared, hin⟩] at hitem
      obtain ⟨e, he⟩ := forM_eq_error (List.mem_map_of_mem hmem) hitem
      cases h.symm.trans he
    · by_contra hout
      obtain ⟨candidate, hmem, rfl⟩ := List.mem_map.mp hpath
      have hitem := @preflightItem_disk _ _ _ _ parents transaction _ _ hmem hstate hmoved hgone
      rw [if_neg (by rw [hquarantined]; simp), if_pos ⟨hquarantined, hout⟩] at hitem
      obtain ⟨e, he⟩ := forM_eq_error (List.mem_map_of_mem hmem) hitem
      cases h.symm.trans he
  · intro h
    refine forM_eq_ok fun item hitem => ?_
    obtain ⟨candidate, hmem, rfl⟩ := List.mem_map.mp hitem
    have hpath : candidate.path ∈ plan.paths := List.mem_map_of_mem hmem
    rw [preflightItem_disk hmem hstate hmoved hgone, if_neg fun hp => h.1 hp.1 _ hpath hp.2,
      if_neg fun hq => hq.2 (h.2 hq.1 _ hpath)]

/-- The preflight once the candidates are being deleted. -/
theorem preflight_deleting (hstate : state = .deleting ∨ state = .deleted)
    (hpayload : ∀ p ∈ payload, p.device = plan.fresh.payloadDevice ∧ p.inode = plan.fresh.payloadInode)
    (hdeleted : state = .deleted → payload = none) :
    preflightQuarantine sha (plan.disk plan.paths transaction)
        (plan.transaction payload (plan.journal state moved) n) (plan.journal state moved) = .ok () := by
  have hitems : (plan.candidates.map candidateToJournal).forM (preflightItem sha
      (plan.disk plan.paths transaction) payload (plan.journal state moved)) = .ok () := by
    refine forM_eq_ok fun item hitem => ?_
    obtain ⟨candidate, hmem, rfl⟩ := List.mem_map.mp hitem
    have hsource : (plan.disk plan.paths transaction).points (candidateToJournal candidate).path = none := by
      rw [item_path hmem]
      exact if_pos (List.mem_map_of_mem hmem)
    have hjournal : (plan.journal state moved).state = .deleting ∨
        (plan.journal state moved).state = .deleted := hstate
    rw [preflightItem]
    simp only [hsource]
    rw [if_pos hjournal]
    rfl
  rw [preflightQuarantine, if_neg identity_eq]
  rcases hstate with rfl | rfl
  · cases payload with
    | none => exact hitems
    | some payload =>
      have hvalid := validate_payload (hpayload payload rfl) .deleting moved
      show (validatePayloadRoot _ (some payload) >>= fun _ => _) = _
      rw [hvalid]
      exact hitems
  · rw [hdeleted rfl] at hitems ⊢
    exact hitems

end Plan

end Bookwarden.Retention.Quarantine
