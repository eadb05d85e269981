import Bookwarden.Retention.QuarantineDisk

/-!
# Stopped deletions and recoveries

What a deletion, a recovery and a listing leave of a plan's tree, wherever they stop.

## Main results

* `Plan.list_published`, `Plan.triple_list_unpublished` — what the listing returns
* `Plan.triple_quarantineAndDelete` — the disks of a deletion
* `Plan.triple_recover_moving`, `Plan.triple_recover_deleting` — the disks of a recovery
* `Plan.recover_prepared` — what a stopped recovery of a `prepared` journal leaves
-/

namespace Bookwarden.Retention.Quarantine

open Crash

variable {sha : Sha256}

namespace Plan

variable {plan : Plan sha} {least gone moved : List Path} {parents : List String}
  {payload : Option Payload} {journal journal' : Journal} {n : ℕ} {transaction : Transaction}
  {state : State} {path : Path}

/-! ### Opening a transaction -/

/-- What `recover_quarantine` opens. -/
theorem openTransaction_disk (hmoved : moved ⊆ plan.paths) (hnodup : moved.Nodup) (backup : String) :
    openTransaction sha plan.fresh.id backup
        (plan.disk gone (plan.transaction payload (plan.journal state moved) n))
      = (preflightQuarantine sha (plan.disk gone (plan.transaction payload (plan.journal state moved) n))
          (plan.transaction payload (plan.journal state moved) n) (plan.journal state moved)).bind
        fun _ => if plan.backup ≠ backup then .error "Backup manifest does not match the transaction"
          else .ok (plan.journal state moved) := by
  rw [openTransaction, plan.id_valid, get?_disk]
  show (readQuarantineJournal _ _ >>= fun _ => _) = _
  rw [read_transaction hmoved hnodup]
  show (preflightQuarantine _ _ _ _ >>= fun _ => _) = _
  cases preflightQuarantine sha (plan.disk gone (plan.transaction payload (plan.journal state moved) n))
    (plan.transaction payload (plan.journal state moved) n) (plan.journal state moved) with
  | error e => rfl
  | ok u =>
    show (if plan.backup ≠ backup then _ else _) = _
    by_cases hbackup : plan.backup = backup
    · rw [if_neg (not_not.mpr hbackup), Except.bind, if_neg (not_not.mpr hbackup)]
      rfl
    · rw [if_pos hbackup, Except.bind, if_pos hbackup]
      rfl

theorem openTransaction_of_preflight (hmoved : moved ⊆ plan.paths) (hnodup : moved.Nodup)
    (hpreflight : preflightQuarantine sha
      (plan.disk gone (plan.transaction payload (plan.journal state moved) n))
      (plan.transaction payload (plan.journal state moved) n) (plan.journal state moved) = .ok ()) :
    openTransaction sha plan.fresh.id plan.backup
      (plan.disk gone (plan.transaction payload (plan.journal state moved) n))
        = .ok (plan.journal state moved) := by
  rw [openTransaction_disk hmoved hnodup, hpreflight, Except.bind, if_neg (not_not.mpr rfl)]

end Plan

/-- Nothing is changed when the transaction does not open. -/
theorem recoverQuarantine_of_error {id backup e : String} {disk : Disk}
    (h : openTransaction sha id backup disk = .error e)
    (removals : List (Path → Option RestoreDir)) :
    recoverQuarantine sha id backup removals disk = ([], .error e) := by
  rw [recoverQuarantine, Program.ask_bind, h]
  rfl

/-- Nor when it is over. -/
theorem recoverQuarantine_of_deleted {id backup : String} {disk : Disk} {journal : Journal}
    (h : openTransaction sha id backup disk = .ok journal) (hdeleted : journal.state = .deleted)
    (removals : List (Path → Option RestoreDir)) :
    recoverQuarantine sha id backup removals disk = ([], .ok 0) := by
  rw [recoverQuarantine, Program.ask_bind, h, Program.lift_ok_bind, if_pos hdeleted]
  rfl

namespace Plan

variable {plan : Plan sha} {least gone moved : List Path} {parents : List String}
  {payload : Option Payload} {journal journal' : Journal} {n : ℕ} {transaction : Transaction}
  {state : State} {path : Path}

/-- The rest of a recovery. -/
theorem recover_of_moving (hstate : state ≠ .deleting ∧ state ≠ .deleted) (hmoved : moved ⊆ gone)
    (hgone : gone ⊆ plan.paths) (hnodup : moved.Nodup) (hconsistent : plan.Consistent state gone moved)
    (removals : List (Path → Option RestoreDir)) :
    recoverQuarantine sha plan.fresh.id plan.backup removals
        (plan.disk gone (plan.transaction (some (plan.payload parents gone)) (plan.journal state moved) n))
      = (recoverCandidates sha plan.fresh.id (plan.candidates.map candidateToJournal)
            (plan.journal state moved) >>= fun journal => do
          writeQuarantineJournal plan.fresh.id { journal with state := .quarantined }
          writeQuarantineJournal plan.fresh.id { journal with state := .deleting }
          finishQuarantineDelete plan.fresh.id { journal with state := .deleting } removals
          return journal.candidates.length)
        (plan.disk gone
          (plan.transaction (some (plan.payload parents gone)) (plan.journal state moved) n)) := by
  have hopen := @openTransaction_of_preflight _ plan _ _ (some (plan.payload parents gone)) n _
    (List.Subset.trans hmoved hgone) hnodup ((preflight_moving hstate hmoved hgone).mpr hconsistent)
  have hvalid : validatePayloadRoot (plan.journal state moved) (some (plan.payload parents gone))
      = .ok () := validate_payload ⟨rfl, rfl⟩ state moved
  rw [recoverQuarantine, Program.ask_bind, hopen, Program.lift_ok_bind, journal_state,
    if_neg hstate.2, if_neg hstate.1, Program.ask_bind, get?_disk]
  show (Program.lift (validatePayloadRoot _ (some (plan.payload parents gone))) >>= fun _ => _) _ = _
  rw [hvalid, Program.lift_ok_bind]
  rfl

/-- A recovery while candidates are moved. -/
theorem triple_recover_moving (hstate : state = .prepared ∨ state = .quarantining)
    (hmoved : moved ⊆ gone) (hgone : gone ⊆ plan.paths) (hnodup : moved.Nodup)
    (hconsistent : plan.Consistent state gone moved) (removals : List (Path → Option RestoreDir)) :
    Triple
      (fun d => d = plan.disk gone
        (plan.transaction (some (plan.payload parents gone)) (plan.journal state moved) n))
      (recoverQuarantine sha plan.fresh.id plan.backup removals)
      (fun r d => r = plan.candidates.length ∧ plan.Deleted d) (fun _ => False)
      (fun d => plan.Moving state d ∨ plan.Quarantined d ∨ plan.Deleting d ∨ plan.Deleted d) := by
  have hstate' : state ≠ .deleting ∧ state ≠ .deleted := by
    rcases hstate with rfl | rfl <;> decide
  refine Triple.congr ?_ (recover_of_moving hstate' hmoved hgone hnodup hconsistent removals)
  refine ((triple_recoverCandidates [] plan.candidates rfl (List.nil_subset _) (List.nil_subset _)
    hmoved hgone hnodup).weaken (fun _ => id) (fun _ _ => id) (fun _ => id) fun _ => .inl).bind
      fun journal => ?_
  refine Triple.of_forall fun d hd => ?_
  obtain ⟨moved', parents', hall, rfl, rfl⟩ := hd
  exact triple_delete removals hall (.inl ⟨plan.paths, moved', parents', n + 1, List.nil_subset _,
    fun p hp => (hall.mem_iff p).mp hp, List.Subset.refl _, hall.nodup, rfl⟩) (fun _ => .inr)
    (List.length_map _)

/-- A recovery when all candidates are in the payload. -/
theorem triple_recover_quarantined (hmoved : plan.AllMoved moved)
    (removals : List (Path → Option RestoreDir)) :
    Triple
      (fun d => d = plan.disk plan.paths (plan.transaction (some (plan.payload parents plan.paths))
        (plan.journal .quarantined moved) n))
      (recoverQuarantine sha plan.fresh.id plan.backup removals)
      (fun r d => r = plan.candidates.length ∧ plan.Deleted d) (fun _ => False)
      (fun d => plan.Quarantined d ∨ plan.Deleting d ∨ plan.Deleted d) := by
  have hconsistent : plan.Consistent .quarantined plan.paths moved :=
    ⟨nofun, fun _ path hpath => (hmoved.mem_iff path).mpr hpath⟩
  refine Triple.congr ?_ (@recover_of_moving _ _ _ _ _ _ .quarantined ⟨by decide, by decide⟩
    (fun p hp => (hmoved.mem_iff p).mp hp) (List.Subset.refl _) hmoved.nodup hconsistent removals)
  refine (triple_recoverCandidates_of_quarantined (List.Subset.refl _) hmoved).bind fun journal => ?_
  refine Triple.of_forall fun d hd => ?_
  obtain ⟨rfl, rfl⟩ := hd
  exact triple_delete removals hmoved (.inl ⟨moved, parents, n + 1, hmoved, rfl⟩) (fun _ => id)
    (List.length_map _)

/-- A recovery while the payload is deleted. -/
theorem triple_recover_deleting (hmoved : plan.AllMoved moved)
    (hpayload : ∀ p ∈ payload, p.device = plan.fresh.payloadDevice ∧ p.inode = plan.fresh.payloadInode)
    (removals : List (Path → Option RestoreDir)) :
    Triple
      (fun d => d = plan.disk plan.paths (plan.transaction payload (plan.journal .deleting moved) n))
      (recoverQuarantine sha plan.fresh.id plan.backup removals)
      (fun r d => r = plan.candidates.length ∧ plan.Deleted d) (fun _ => False)
      (fun d => plan.Deleting d ∨ plan.Deleted d) := by
  have hsubset : moved ⊆ plan.paths := fun p hp => (hmoved.mem_iff p).mp hp
  have hopen := openTransaction_of_preflight (n := n) hsubset hmoved.nodup
    (@preflight_deleting _ _ _ _ _ (plan.transaction payload (plan.journal .deleting moved) n) _
      (.inl rfl) hpayload nofun)
  have hlength : (plan.journal .deleting moved).candidates.length = plan.candidates.length :=
    List.length_map _
  rw [recoverQuarantine]
  refine Triple.ask_bind fun d hd => ?_
  rw [hd, hopen]
  refine Triple.lift_bind (fun journal hjournal => ?_) nofun
  cases hjournal
  rw [journal_state, if_neg (show State.deleting ≠ .deleted by decide), if_pos rfl]
  refine (triple_finishQuarantineDelete removals hmoved hpayload).bind fun _ => ?_
  exact Triple.pure fun d hd => ⟨hlength, hd⟩

/-- A recovery of what is over. -/
theorem recover_deleted (hmoved : plan.AllMoved moved) (removals : List (Path → Option RestoreDir)) :
    recoverQuarantine sha plan.fresh.id plan.backup removals
        (plan.disk plan.paths (plan.transaction none (plan.journal .deleted moved) n)) = ([], .ok 0) :=
  recoverQuarantine_of_deleted (openTransaction_of_preflight
    (fun p hp => (hmoved.mem_iff p).mp hp) hmoved.nodup
    (@preflight_deleting _ _ _ none _ _ _ (.inr rfl) nofun fun _ => rfl)) rfl removals

/-! ### Listing -/

theorem pendingOf_eq {disk : Disk} {p : String × Transaction → Bool} {l : List (String × Transaction)}
    (h : ∀ entry ∈ l, checkTransaction sha disk entry = .ok (p entry)) :
    pendingOf sha disk l = .ok ((l.filter p).map Prod.fst) := by
  induction l with
  | nil => rfl
  | cons entry l ih =>
    rw [pendingOf, h entry List.mem_cons_self, ih fun e he => h e (List.mem_cons_of_mem _ he)]
    cases hp : p entry <;> simp [hp, bind, Except.bind, pure, Except.pure]

/-- A transaction that is over is not pending. -/
theorem check_settled {points : Path → Option RestoreDir} {entry : String × Transaction}
    (h : Settled points entry) {disk : Disk}
    (hpoints : ∀ path, points path = none → disk.points path = none) :
    checkTransaction sha disk entry = .ok false := by
  obtain ⟨journal, hread, hstate, hdevice, hinode, hpayload, hsources⟩ := h.exists_journal
  have hitems : journal.candidates.forM
      (preflightItem sha disk entry.2.payload journal) = .ok () := by
    refine forM_eq_ok fun item hitem => ?_
    rw [preflightItem]
    simp only [hpoints _ (hsources item hitem)]
    rw [if_pos (.inr hstate)]
    rfl
  have hpreflight : preflightQuarantine sha disk entry.2 journal = .ok () := by
    rw [preflightQuarantine, if_neg (by rw [not_or, not_not, not_not]; exact ⟨hdevice, hinode⟩)]
    simp only [hstate, hpayload]
    exact hitems
  rw [checkTransaction, hread]
  show (preflightQuarantine sha disk entry.2 journal >>= fun _ => _) = _
  rw [hpreflight]
  show Except.ok (decide (journal.state ≠ .deleted)) = _
  rw [hstate]
  rfl

/-- What the listing says of the plan's transaction. -/
theorem check_transaction (hmoved : moved ⊆ plan.paths) (hnodup : moved.Nodup) (disk : Disk) :
    checkTransaction sha disk
        (plan.fresh.id, plan.transaction payload (plan.journal state moved) n)
      = (preflightQuarantine sha disk (plan.transaction payload (plan.journal state moved) n)
          (plan.journal state moved)).map fun _ => decide (state ≠ .deleted) := by
  rw [checkTransaction]
  show (readQuarantineJournal plan.fresh.id _ >>= fun _ => _) = _
  rw [read_transaction hmoved hnodup]
  show (preflightQuarantine _ _ _ _ >>= fun _ => _) = _
  cases preflightQuarantine sha disk (plan.transaction payload (plan.journal state moved) n)
    (plan.journal state moved) <;> rfl

theorem without_none (gone : List Path) {path : Path} (h : plan.points path = none) :
    plan.without gone path = none := by
  rw [without, h, ite_self]

/-- Nothing is staged once the transaction is published. -/
theorem list_disk (gone : List Path) (transaction : Transaction) :
    listPendingQuarantines sha (plan.disk gone transaction)
      = ([], pendingOf sha (plan.disk gone transaction)
          (sortedByName (plan.others ++ [(plan.fresh.id, transaction)]))) := rfl

/-- The listing names the transaction as long as it is pending. -/
theorem list_published (hmoved : moved ⊆ plan.paths) (hnodup : moved.Nodup)
    (hpreflight : preflightQuarantine sha
      (plan.disk gone (plan.transaction payload (plan.journal state moved) n))
      (plan.transaction payload (plan.journal state moved) n) (plan.journal state moved) = .ok ()) :
    listPendingQuarantines sha (plan.disk gone (plan.transaction payload (plan.journal state moved) n))
      = ([], .ok (if state = .deleted then [] else [plan.fresh.id])) := by
  have hcheck : ∀ entry ∈ sortedByName (plan.others ++
      [(plan.fresh.id, plan.transaction payload (plan.journal state moved) n)]),
      checkTransaction sha (plan.disk gone (plan.transaction payload (plan.journal state moved) n)) entry
        = .ok (decide (entry.1 = plan.fresh.id ∧ state ≠ .deleted)) := by
    intro entry hentry
    rcases List.mem_append.mp ((List.mem_insertionSort _).mp hentry) with hother | hown
    · have hne : entry.1 ≠ plan.fresh.id := fun heq =>
        plan.id_new (heq ▸ List.mem_map_of_mem (f := Prod.fst) hother)
      rw [check_settled (plan.settled entry hother) fun path => without_none gone]
      simp [hne]
    · rw [List.mem_singleton.mp hown, check_transaction hmoved hnodup, hpreflight]
      simp [Except.map]
  rw [list_disk, pendingOf_eq hcheck]
  have hperm := ((List.perm_insertionSort (fun a b : String × Transaction => a.1 ≤ b.1)
    (plan.others ++ [(plan.fresh.id, plan.transaction payload (plan.journal state moved) n)])).filter
      fun entry => decide (entry.1 = plan.fresh.id ∧ state ≠ .deleted)).map Prod.fst
  have hothers : plan.others.filter
      (fun entry => decide (entry.1 = plan.fresh.id ∧ state ≠ .deleted)) = [] := by
    refine List.filter_eq_nil_iff.mpr fun entry hentry => ?_
    rw [decide_eq_true_eq]
    exact fun h => plan.id_new (h.1 ▸ List.mem_map_of_mem (f := Prod.fst) hentry)
  rw [List.filter_append, hothers, List.nil_append] at hperm
  by_cases hdeleted : state = .deleted
  · simp only [hdeleted, ne_eq, not_true_eq_false, and_false, decide_false, List.filter_false,
      List.map_nil, if_true]
  · rw [if_neg hdeleted]
    rw [List.filter_cons_of_pos (by simp [hdeleted]), List.filter_nil] at hperm
    exact congrArg (fun names => ([], Except.ok names)) (List.perm_singleton.mp hperm)

/-- What is staged has no directory of a run. -/
def Bare (transaction : Transaction) : Prop := ∀ payload ∈ transaction.payload, payload.parents = []

theorem bare_of_none {transaction : Transaction} (h : transaction.payload = none) :
    Bare transaction := by
  intro payload hpayload
  rw [h] at hpayload
  cases hpayload

theorem modifyStaging_staged (transaction : Transaction) (f : Transaction → Transaction) :
    (plan.staged transaction).modifyStaging plan.fresh.id f = plan.staged (f transaction) := by
  simp [Disk.modifyStaging, staged, Assoc.get?_cons, Assoc.set]

theorem triple_unlinkTemporaries (m : ℕ) {E : Disk → Prop} :
    Triple (fun d => ∃ transaction, Bare transaction ∧ d = plan.staged transaction)
      (unlinkTemporaries plan.fresh.id m)
      (fun _ d => ∃ transaction, Bare transaction ∧ d = plan.staged transaction) E plan.Unpublished := by
  induction m with
  | zero => exact Triple.pure fun d hd => hd
  | succ m ih =>
    refine Triple.step_bind (fun d hd => ?_) ih
    obtain ⟨transaction, hbare, rfl⟩ := hd
    rw [modifyStaging_staged]
    have hbare' : Bare { transaction with temporaries := m } := hbare
    exact ⟨⟨_, hbare', rfl⟩, .inr ⟨_, hbare', rfl⟩⟩

/-- A staging directory is discarded. -/
theorem triple_discardAbandonedStaging {transaction : Transaction} (hbare : Bare transaction) :
    Triple (fun d => d = plan.staged transaction)
      (discardAbandonedStaging plan.fresh.id transaction) (fun _ => plan.Start) (fun _ => False)
      plan.Unpublished := by
  have hchecked : checkStaging plan.fresh.id transaction = .ok () := by
    rw [checkStaging, plan.id_valid, if_neg (by decide), if_neg]
    cases hpayload : transaction.payload with
    | none => exact Bool.false_ne_true
    | some payload => simp [hbare payload hpayload]
  have hmodify : ∀ f : Transaction → Transaction, (∀ t, Bare t → Bare (f t)) →
      Triple (fun d => ∃ t, Bare t ∧ d = plan.staged t)
        (Program.step fun d => d.modifyStaging plan.fresh.id f : Program Unit)
        (fun _ d => ∃ t, Bare t ∧ d = plan.staged t) (fun _ => False) plan.Unpublished := by
    intro f hf
    refine Triple.step fun d hd => ?_
    obtain ⟨t, ht, rfl⟩ := hd
    rw [modifyStaging_staged]
    exact ⟨⟨_, hf t ht, rfl⟩, .inr ⟨_, hf t ht, rfl⟩⟩
  have herase : Triple (fun d => ∃ t, Bare t ∧ d = plan.staged t)
      (Program.step fun d => { d with staging := Assoc.erase plan.fresh.id d.staging } : Program Unit)
      (fun _ => plan.Start) (fun _ => False) plan.Unpublished := by
    refine Triple.step fun d hd => ?_
    obtain ⟨t, ht, rfl⟩ := hd
    have hstart : plan.Start { plan.staged t with
        staging := Assoc.erase plan.fresh.id (plan.staged t).staging } :=
      ⟨rfl, rfl, by simp [staged, Assoc.erase], nofun⟩
    exact ⟨hstart, .inl hstart⟩
  have hrest := (@triple_unlinkTemporaries _ plan transaction.temporaries fun _ => False).bind fun _ => herase
  rw [discardAbandonedStaging]
  refine Triple.lift_bind (fun _ _ => ?_) fun e he => by cases hchecked.symm.trans he
  refine Triple.weaken (P := fun d => ∃ t, Bare t ∧ d = plan.staged t) ?_
    (fun d hd => ⟨transaction, hbare, hd⟩) (fun _ _ => id) (fun _ => id) fun _ => id
  have hjournal : Triple (fun d => ∃ t, Bare t ∧ d = plan.staged t)
      (if transaction.journal.isSome then do
        Program.step fun d => d.modifyStaging plan.fresh.id fun transaction =>
          { transaction with journal := none }
        unlinkTemporaries plan.fresh.id transaction.temporaries
        Program.step fun d => { d with staging := Assoc.erase plan.fresh.id d.staging }
      else do
        unlinkTemporaries plan.fresh.id transaction.temporaries
        Program.step fun d => { d with staging := Assoc.erase plan.fresh.id d.staging } : Program Unit)
      (fun _ => plan.Start) (fun _ => False) plan.Unpublished := by
    split
    · exact (hmodify (fun t => { t with journal := none }) fun t ht => ht).bind fun _ => hrest
    · exact hrest
  dsimp only
  split
  · exact (hmodify (fun t => { t with payload := none }) fun t _ => bare_of_none rfl).bind
      fun _ => hjournal
  · exact hjournal

/-- The listing discards what is staged, and nothing is pending. -/
theorem triple_list_unpublished :
    Triple plan.Unpublished (listPendingQuarantines sha)
      (fun pending d => pending = [] ∧ plan.Start d) (fun _ => False) plan.Unpublished := by
  have hpending : ∀ d, plan.Start d → pendingOf sha d (sortedByName d.transactions) = .ok [] := by
    intro d hd
    have hcheck : ∀ entry ∈ sortedByName d.transactions, checkTransaction sha d entry = .ok false := by
      intro entry hentry
      have hother := (List.mem_insertionSort _).mp hentry
      rw [hd.transactions] at hother
      exact check_settled (plan.settled entry hother) fun path h => by rw [hd.points]; exact h
    rw [pendingOf_eq (p := fun _ => false) hcheck, List.filter_false, List.map_nil]
  have hrest : Triple plan.Start (do
      let pending ← Program.ask fun d => pendingOf sha d (sortedByName d.transactions)
      Program.lift pending : Program (List String))
      (fun pending d => pending = [] ∧ plan.Start d) (fun _ => False) plan.Unpublished := by
    refine Triple.ask_bind fun d hd => Triple.lift (fun s a hs ha => ?_) fun s e hs he => ?_
    · rw [hs]
      exact ⟨(Except.ok.inj (ha.symm.trans (hpending d hd))), hd⟩
    · cases he.symm.trans (hpending d hd)
  rw [listPendingQuarantines]
  refine Triple.ask_bind fun d hd => ?_
  rcases hd with hstart | ⟨transaction, hbare, rfl⟩
  · split
    · exact Triple.pure fun s hs => ⟨rfl, hs ▸ hstart⟩
    · simp only [id, hstart.staging]
      exact hrest.weaken (fun s hs => hs ▸ hstart) (fun _ _ => id) (fun _ => id) fun _ => id
  · rw [if_neg (by simp [staged])]
    refine Triple.bind (Q := fun _ => plan.Start) ?_ fun _ => hrest
    exact (triple_discardAbandonedStaging hbare).bind fun _ => Triple.pure fun _ h => h

/-! ### A deletion -/

/-- The disks of a deletion, wherever it stops. -/
def Deletion (plan : Plan sha) (disk : Disk) : Prop :=
  plan.Unpublished disk ∨ plan.Prepared disk ∨ plan.Moving .quarantining disk ∨
    plan.Quarantined disk ∨ plan.Deleting disk ∨ plan.Deleted disk

theorem present_of_start {disk : Disk} (h : plan.Start disk) :
    plan.candidates.forM (validateCandidate sha disk) = .ok () :=
  forM_eq_ok fun candidate hcandidate => by
    rw [validateCandidate, h.points]
    exact plan.present candidate hcandidate

theorem without_nil : plan.without [] = plan.points := by
  funext path
  exact if_neg List.not_mem_nil

theorem payload_nil (parents : List String) : plan.payload parents []
    = ⟨plan.fresh.payloadDevice, plan.fresh.payloadInode, parents, fun _ => none⟩ := by
  have hentries : (fun path => if path ∈ ([] : List Path) then plan.points path else none)
      = fun _ => none := by
    funext path
    exact if_neg List.not_mem_nil
  rw [Plan.payload, hentries]

/-- The prepared transaction is published. -/
theorem publish_staged (payload : Option Payload) (journal : Journal) (n : ℕ) :
    (plan.staged (plan.transaction payload journal n)).publish plan.fresh.id
      = plan.disk [] (plan.transaction payload journal n) := by
  rw [disk, without_nil]
  simp [Disk.publish, staged, Assoc.get?_cons, Assoc.erase, Assoc.set_of_notMem plan.id_new]

/-- The preparation, up to the publication. -/
theorem triple_stage {β : Type} {f : Unit → Program β} {R : β → Disk → Prop} {E I : Disk → Prop}
    (hI : ∀ d, plan.Unpublished d ∨ plan.Prepared d → I d)
    (hf : Triple (fun d => d = plan.disk [] (plan.transaction (some (plan.payload [] []))
      (plan.journal .prepared []) 0)) (f ()) R E I) :
    Triple (fun d => d = ⟨plan.points, true, [], plan.others⟩) (do
      Program.step fun disk => disk.makeStaging plan.fresh
      Program.step fun disk => disk.modifyStaging plan.fresh.id (.makePayload plan.fresh)
      writeStagingJournal plan.fresh.id
        (preparedJournal plan.fresh plan.backup plan.candidates)
      Program.step fun disk => disk.publish plan.fresh.id
      f ()) R E I := by
  have hbare : ∀ t : Transaction, Bare t → I (plan.staged t) := fun t ht => hI _ (.inl (.inr ⟨t, ht, rfl⟩))
  have hnew : ∀ parents journal temporaries, parents = [] → Bare ⟨plan.fresh.device, plan.fresh.inode,
      some (plan.payload parents []), journal, temporaries⟩ := by
    rintro parents journal temporaries rfl payload hpayload
    cases hpayload
    rfl
  refine Triple.step_bind (K := fun d => d
    = plan.staged ⟨plan.fresh.device, plan.fresh.inode, none, none, 0⟩) (fun d hd => ?_) ?_
  · rw [hd]
    exact ⟨rfl, hbare _ nofun⟩
  refine Triple.step_bind (K := fun d => d = plan.staged ⟨plan.fresh.device, plan.fresh.inode,
    some (plan.payload [] []), none, 0⟩) (fun d hd => ?_) ?_
  · rw [hd, modifyStaging_staged, payload_nil]
    refine ⟨rfl, hbare _ ?_⟩
    intro payload hpayload
    cases hpayload
    rfl
  refine Triple.bind (Q := fun _ d => d = plan.staged (plan.transaction (some (plan.payload [] []))
    (plan.journal .prepared []) 0)) ?_ fun _ => ?_
  · refine Triple.step_bind (K := fun d => d = plan.staged ⟨plan.fresh.device, plan.fresh.inode,
      some (plan.payload [] []), none, 1⟩) (fun d hd => ?_) (Triple.step fun d hd => ?_)
    · rw [hd, modifyStaging_staged]
      exact ⟨rfl, hbare _ (hnew _ _ _ rfl)⟩
    · rw [hd, modifyStaging_staged]
      exact ⟨rfl, hbare _ (hnew _ _ _ rfl)⟩
  refine Triple.step_bind (fun d hd => ?_) hf
  rw [hd, publish_staged]
  exact ⟨rfl, hI _ (.inr ⟨[], 0, rfl⟩)⟩

/-- A deletion that is not stopped deletes the candidates. -/
theorem triple_quarantineAndDelete (removals : List (Path → Option RestoreDir)) :
    Triple plan.Start
      (quarantineAndDelete sha plan.fresh plan.candidates plan.backup removals)
      (fun r d => r = plan.candidates.length ∧ plan.Deleted d) (fun _ => False) plan.Deletion := by
  -- after the publication
  have hmove : Triple (fun d => d = plan.disk [] (plan.transaction (some (plan.payload [] []))
        (plan.journal .prepared []) 0)) (do
      writeQuarantineJournal plan.fresh.id (plan.journal .quarantining [])
      let journal ← moveCandidates sha plan.fresh.id plan.candidates (plan.journal .quarantining [])
      let journal := { journal with state := .quarantined }
      writeQuarantineJournal plan.fresh.id journal
      let journal := { journal with state := .deleting }
      writeQuarantineJournal plan.fresh.id journal
      finishQuarantineDelete plan.fresh.id journal removals
      return plan.candidates.length : Program ℕ)
      (fun r d => r = plan.candidates.length ∧ plan.Deleted d) (fun _ => False) plan.Deletion := by
    refine (triple_writeQuarantineJournal (.inr (.inl ⟨[], 1, rfl⟩)) (.inr (.inr (.inl
      (moving_intro (List.nil_subset _) (List.Subset.refl _) (List.nil_subset _) List.nodup_nil))))).bind fun _ => ?_
    refine ((triple_moveCandidates [] plan.candidates rfl).weaken (fun d hd => ⟨[], 0, hd⟩)
      (fun _ _ => id) (fun _ => id) fun d hd => .inr (.inr (.inl hd))).bind fun journal => ?_
    refine Triple.of_forall fun d hd => ?_
    obtain ⟨rfl, parents, n, rfl⟩ := hd
    have hall : plan.AllMoved plan.paths := ⟨plan.distinct, fun _ => Iff.rfl⟩
    exact triple_delete removals hall (.inr (.inr (.inl (moving_intro (List.nil_subset _) (List.Subset.refl _)
      (List.Subset.refl _) plan.distinct)))) (fun d hd => .inr (.inr (.inr hd))) rfl
  have hstage := triple_stage (f := fun _ => _) (R := fun r d => r = plan.candidates.length ∧ plan.Deleted d)
    (fun d hd => hd.elim .inl fun h => .inr (.inl h)) hmove
  rw [quarantineAndDelete, if_neg (not_not.mpr plan.backup_length)]
  refine Triple.ask_bind fun d hd => ?_
  rw [present_of_start hd]
  refine Triple.lift_bind (fun _ _ => ?_) nofun
  rw [if_neg plan.candidates_ne]
  refine Triple.ask_bind fun d' hd' => ?_
  rw [hd']
  obtain ⟨points, root, staging, transactions⟩ := d
  obtain ⟨rfl, rfl, rfl, hroot⟩ := hd
  dsimp only
  split
  · refine Triple.step_bind (fun s hs => ?_) hstage
    rw [hs]
    exact ⟨rfl, .inl (.inl ⟨rfl, rfl, rfl, nofun⟩)⟩
  · rename_i hfound
    refine hstage.weaken (fun s hs => ?_) (fun _ _ => id) (fun _ => id) fun _ => id
    rw [hs, eq_true_of_ne_false hfound]

/-! ### How many steps a recovery takes -/

/-- The steps of `makeParent`. -/
def parentSteps (parents : List String) (run : String) : ℕ := if run ∈ parents then 0 else 1

/-- The directories of runs after `makeParent`. -/
def withParent (parents : List String) (run : String) : List String :=
  if run ∈ parents then parents else parents ++ [run]

/-- The steps of the loop that moves candidates. -/
def moveSteps : List String → List RestoreDeletionCandidate → ℕ
  | _, [] => 0
  | parents, candidate :: candidates =>
    parentSteps parents candidate.path.1 + 3 + moveSteps (withParent parents candidate.path.1) candidates

theorem takes_makeParent (gone : List Path) (parents : List String) (journal : Journal) (n : ℕ)
    (run : String) :
    Program.Takes (makeParent plan.fresh.id run : Program Unit)
      (plan.disk gone (plan.transaction (some (plan.payload parents gone)) journal n))
      (parentSteps parents run) ()
      (plan.disk gone (plan.transaction (some (plan.payload (withParent parents run) gone)) journal n)) := by
  have hfound : (plan.disk gone (plan.transaction (some (plan.payload parents gone)) journal n)).hasParent
      plan.fresh.id run = decide (run ∈ parents) := by
    rw [Disk.hasParent, get?_disk]
    rfl
  refine Program.Takes.congr (x := if run ∈ parents then pure () else
    Program.step fun disk => disk.modifyTransaction plan.fresh.id (.makeParent run)) ?_ ?_
  · rw [parentSteps, withParent]
    by_cases hrun : run ∈ parents
    · rw [if_pos hrun, if_pos hrun, if_pos hrun]
      exact .pure _ _
    · rw [if_neg hrun, if_neg hrun, if_neg hrun]
      have hstep := Program.Takes.step (ε := String) (fun disk : Disk =>
        disk.modifyTransaction plan.fresh.id (.makeParent run))
        (plan.disk gone (plan.transaction (some (plan.payload parents gone)) journal n))
      rwa [modifyTransaction_disk] at hstep
  · rw [makeParent, Program.ask_bind, hfound]
    by_cases hrun : run ∈ parents
    · rw [if_pos (decide_eq_true hrun), if_pos hrun]
    · rw [if_neg (by simp [hrun]), if_neg hrun]

theorem takes_writeQuarantineJournal (gone : List Path) (payload : Option Payload)
    (journal journal' : Journal) (n : ℕ) :
    Program.Takes (writeQuarantineJournal plan.fresh.id journal' : Program Unit)
      (plan.disk gone (plan.transaction payload journal n)) 2 ()
      (plan.disk gone (plan.transaction payload journal' n)) := by
  have hwrite := (Program.Takes.step (ε := String) (fun disk : Disk =>
    disk.modifyTransaction plan.fresh.id .writeTemporary)
    (plan.disk gone (plan.transaction payload journal n))).bind (f := fun _ =>
      Program.step fun disk : Disk => disk.modifyTransaction plan.fresh.id (.replaceJournal journal'))
        (Program.Takes.step _ _)
  rw [modifyTransaction_disk, modifyTransaction_disk] at hwrite
  exact hwrite

/-- The loop of `recover_quarantine` at a candidate that was not moved. -/
theorem recoverCandidates_cons {candidate : RestoreDeletionCandidate} {items : List Item}
    (h : candidate ∈ plan.candidates) (hmoved : moved ⊆ gone) (hgone : gone ⊆ plan.paths)
    (hout : candidate.path ∉ gone) :
    recoverCandidates sha plan.fresh.id (candidateToJournal candidate :: items)
        (plan.journal state moved)
        (plan.disk gone (plan.transaction (some (plan.payload parents gone)) journal n))
      = (makeParent plan.fresh.id candidate.path.1 >>= fun _ =>
          Program.step (fun disk => disk.rename plan.fresh.id candidate.path) >>= fun _ =>
          writeQuarantineJournal plan.fresh.id (plan.journal state (moved ++ [candidate.path])) >>= fun _ =>
          recoverCandidates sha plan.fresh.id items (plan.journal state (moved ++ [candidate.path])))
        (plan.disk gone (plan.transaction (some (plan.payload parents gone)) journal n)) := by
  have hpaths : candidate.path ∈ plan.paths := List.mem_map_of_mem h
  obtain ⟨dir, hdir⟩ := exists_point h
  have hvalid := validate_item h
  have hlisted : (candidateToJournal candidate).relativePath ∉ (plan.journal state moved).moved :=
    fun hmem => hout (hmoved ((mem_moved_iff (List.Subset.trans hmoved hgone) hpaths).mp hmem))
  have hpoint : (plan.disk gone (plan.transaction (some (plan.payload parents gone)) journal n)).points
      candidate.path = plan.points candidate.path := if_neg hout
  rw [recoverCandidates, Program.ask_bind, Program.ask_bind, item_path h, entry_eq, if_neg hout,
    hpoint]
  dsimp only
  rw [if_neg (by simp), if_pos (by rw [hdir]; rfl), hvalid, Program.lift_ok_bind]
  simp only [if_neg hlisted]
  rw [← journal_append]
  rfl

theorem takes_rename (hout : path ∉ gone) (journal : Journal) (n : ℕ) :
    Program.Takes (Program.step fun disk => disk.rename plan.fresh.id path : Program Unit)
      (plan.disk gone (plan.transaction (some (plan.payload parents gone)) journal n)) 1 ()
      (plan.disk (gone ++ [path])
        (plan.transaction (some (plan.payload parents (gone ++ [path]))) journal n)) := by
  have hstep := Program.Takes.step (ε := String) (fun disk : Disk => disk.rename plan.fresh.id path)
    (plan.disk gone (plan.transaction (some (plan.payload parents gone)) journal n))
  rwa [rename_disk hout] at hstep

/-- The paths of the candidates so far do not have the next one. -/
theorem split_paths {done rest : List RestoreDeletionCandidate} {candidate : RestoreDeletionCandidate}
    (hsplit : plan.candidates = done ++ candidate :: rest) :
    candidate ∈ plan.candidates ∧ done.map RestoreDeletionCandidate.path ⊆ plan.paths ∧
      candidate.path ∉ done.map RestoreDeletionCandidate.path := by
  have hdistinct := plan.distinct
  rw [hsplit, List.map_append, List.map_cons] at hdistinct
  refine ⟨?_, ?_, fun h => (List.nodup_append.mp hdistinct).2.2 _ h _ List.mem_cons_self rfl⟩
  · rw [hsplit]
    exact List.mem_append_right _ List.mem_cons_self
  · rw [Plan.paths, hsplit, List.map_append]
    exact List.subset_append_left _ _

/-- The steps of the loop of `recover_quarantine`, when it moves every candidate that is left. -/
theorem takes_recoverCandidates (done rest : List RestoreDeletionCandidate)
    (hsplit : plan.candidates = done ++ rest) (parents : List String) :
    ∃ parents', Program.Takes
      (recoverCandidates sha plan.fresh.id (rest.map candidateToJournal)
        (plan.journal state (done.map RestoreDeletionCandidate.path)))
      (plan.disk (done.map RestoreDeletionCandidate.path)
        (plan.transaction (some (plan.payload parents (done.map RestoreDeletionCandidate.path)))
          (plan.journal state (done.map RestoreDeletionCandidate.path)) n))
      (moveSteps parents rest) (plan.journal state plan.paths)
      (plan.disk plan.paths (plan.transaction (some (plan.payload parents' plan.paths))
        (plan.journal state plan.paths) n)) := by
  induction rest generalizing done parents with
  | nil =>
    rw [List.append_nil] at hsplit
    rw [Plan.paths, hsplit]
    exact ⟨parents, .pure _ _⟩
  | cons candidate rest ih =>
    obtain ⟨hmem, hgone, hout⟩ := split_paths hsplit
    obtain ⟨parents', hrest⟩ := ih (done ++ [candidate]) (by rw [hsplit, List.append_assoc]; rfl)
      (withParent parents candidate.path.1)
    rw [List.map_append, List.map_singleton] at hrest
    refine ⟨parents', Program.Takes.congr ?_ (recoverCandidates_cons hmem (List.Subset.refl _) hgone hout)⟩
    have htakes := (takes_makeParent _ parents
      (plan.journal state (done.map RestoreDeletionCandidate.path)) n candidate.path.1).bind
      (f := fun _ => _) ((takes_rename hout _ n).bind (f := fun _ => _)
        ((takes_writeQuarantineJournal _ _ _ (plan.journal state _) n).bind (f := fun _ => _) hrest))
    rw [show moveSteps parents (candidate :: rest)
      = parentSteps parents candidate.path.1 + (1 + (2 + moveSteps (withParent parents candidate.path.1) rest))
      by rw [moveSteps]; omega]
    exact htakes

/-- The steps of a recovery before its first rename. -/
def firstSteps (parents : List String) : List RestoreDeletionCandidate → ℕ
  | [] => 0
  | candidate :: _ => parentSteps parents candidate.path.1


/-- The journal still says `prepared`, and a candidate is in the payload. -/
def Wedged (plan : Plan sha) (disk : Disk) : Prop :=
  ∃ path ∈ plan.paths, plan.MovingFrom [path] .prepared disk

/-- The loop of a recovery of a `prepared` journal: nothing is moved before the first rename, and
something is after it. -/
theorem recoverCandidates_prepared (parents : List String) (n k : ℕ) :
    (k ≤ firstSteps parents plan.candidates → plan.Prepared
      ((recoverCandidates sha plan.fresh.id (plan.candidates.map candidateToJournal)
        (plan.journal .prepared [])).after (plan.disk []
          (plan.transaction (some (plan.payload parents [])) (plan.journal .prepared []) n)) (some k))) ∧
    (firstSteps parents plan.candidates < k → plan.Wedged
      ((recoverCandidates sha plan.fresh.id (plan.candidates.map candidateToJournal)
        (plan.journal .prepared [])).after (plan.disk []
          (plan.transaction (some (plan.payload parents [])) (plan.journal .prepared []) n)) (some k))) := by
  obtain ⟨candidate, rest, hsplit⟩ := List.exists_cons_of_ne_nil plan.candidates_ne
  obtain ⟨hmem, -, -⟩ := @split_paths _ _ [] rest _ hsplit
  have hpath : candidate.path ∈ plan.paths := List.mem_map_of_mem hmem
  have hmove := @recoverCandidates_cons _ _ _ _ parents (plan.journal .prepared []) n .prepared _
    (rest.map candidateToJournal) hmem (List.Subset.refl []) (List.nil_subset _) List.not_mem_nil
  have hparent := @takes_makeParent _ plan [] parents (plan.journal .prepared []) n
    candidate.path.1
  have hrename := @takes_rename _ plan [] (withParent parents candidate.path.1) candidate.path
    List.not_mem_nil (plan.journal .prepared []) n
  have hfirst : firstSteps parents plan.candidates = parentSteps parents candidate.path.1 := by
    rw [hsplit, firstSteps]
  rw [hfirst, hsplit, List.map_cons, Program.after_congr hmove]
  refine ⟨fun hk => ?_, fun hk => ⟨candidate.path, hpath, ?_⟩⟩
  · rw [hparent.after_le hk]
    exact (triple_makeParent (E := fun _ => False) candidate.path.1 fun parents' => ⟨parents', n, rfl⟩).after
      rfl ⟨parents, n, rfl⟩ _
  · rw [hparent.after_ge (by omega), hrename.after_ge (by omega)]
    have hsingle : [candidate.path] ⊆ plan.paths := List.cons_subset.mpr ⟨hpath, List.nil_subset _⟩
    have hrest := (@triple_journal_move _ plan _ _ _ (withParent parents candidate.path.1) n .prepared _
      (List.Subset.refl [candidate.path]) (List.nil_subset [candidate.path]) hsingle List.nodup_nil List.not_mem_nil
      List.mem_cons_self fun _ => False).bind fun _ =>
        triple_recoverCandidates [candidate] rest hsplit (List.Subset.refl _) (List.Subset.refl _)
          (List.Subset.refl _) hsingle (List.nodup_singleton _)
    exact hrest.after rfl (moving_intro (List.Subset.refl _) (List.nil_subset _) hsingle
      List.nodup_nil) _

/-- What a recovery of a `prepared` journal leaves when it is stopped: before the first rename,
nothing is moved; up to the write of `quarantined`, the tree is wedged; from then on, all candidates
are in the payload. -/
theorem recover_prepared (parents : List String) (n : ℕ) (removals : List (Path → Option RestoreDir))
    (k : ℕ) :
    (k ≤ firstSteps parents plan.candidates → plan.Prepared
      ((recoverQuarantine sha plan.fresh.id plan.backup removals).after (plan.disk []
        (plan.transaction (some (plan.payload parents [])) (plan.journal .prepared []) n)) (some k))) ∧
    (firstSteps parents plan.candidates < k → k < moveSteps parents plan.candidates + 2 → plan.Wedged
      ((recoverQuarantine sha plan.fresh.id plan.backup removals).after (plan.disk []
        (plan.transaction (some (plan.payload parents [])) (plan.journal .prepared []) n)) (some k))) ∧
    (moveSteps parents plan.candidates + 2 ≤ k →
      (fun d => plan.Quarantined d ∨ plan.Deleting d ∨ plan.Deleted d)
        ((recoverQuarantine sha plan.fresh.id plan.backup removals).after (plan.disk []
          (plan.transaction (some (plan.payload parents [])) (plan.journal .prepared []) n)) (some k))) := by
  have hrecover := @recover_of_moving _ plan _ _ parents n .prepared ⟨by decide, by decide⟩ (List.Subset.refl []) (List.nil_subset _) List.nodup_nil
    ⟨fun _ _ _ => List.not_mem_nil, nofun⟩ removals
  rw [Program.after_congr hrecover]
  obtain ⟨parents', hloop⟩ := @takes_recoverCandidates _ _ n .prepared [] plan.candidates
    rfl parents
  rw [List.map_nil] at hloop
  obtain ⟨hlow, hmiddle⟩ := @recoverCandidates_prepared _ plan parents n k
  obtain ⟨path, hpath⟩ := List.exists_mem_of_ne_nil _ fun h => plan.candidates_ne
    (List.map_eq_nil_iff.mp (h : plan.paths = []))
  have hall : plan.AllMoved plan.paths := ⟨plan.distinct, fun _ => Iff.rfl⟩
  have hwedged : ∀ m, plan.Wedged (plan.disk plan.paths
      (plan.transaction (some (plan.payload parents' plan.paths)) (plan.journal .prepared plan.paths) m)) :=
    fun m => ⟨path, hpath, moving_intro (List.cons_subset.mpr ⟨hpath, List.nil_subset _⟩)
      (List.Subset.refl _) (List.Subset.refl _) plan.distinct⟩
  have hwrite := @takes_writeQuarantineJournal _ plan plan.paths
    (some (plan.payload parents' plan.paths)) (plan.journal .prepared plan.paths)
    { plan.journal .prepared plan.paths with state := .quarantined } n
  have hsteps : firstSteps parents plan.candidates ≤ moveSteps parents plan.candidates := by
    cases plan.candidates with
    | nil => exact Nat.zero_le _
    | cons candidate rest =>
      rw [firstSteps, moveSteps]
      omega
  refine ⟨fun hk => ?_, fun hk hk' => ?_, fun hk => ?_⟩
  · rw [hloop.after_le (hk.trans hsteps)]
    exact hlow hk
  · by_cases hloop' : k ≤ moveSteps parents plan.candidates
    · rw [hloop.after_le hloop']
      exact hmiddle hk
    · -- the temporary file of the journal that says `quarantined`
      obtain rfl : k = moveSteps parents plan.candidates + 1 := by omega
      rw [hloop.after_ge (Nat.le_add_right _ 1), hwrite.after_le (by omega), Nat.add_sub_cancel_left]
      show plan.Wedged (Disk.modifyTransaction _ _ _)
      rw [modifyTransaction_disk]
      exact hwedged (n + 1)
  · rw [hloop.after_ge (by omega), hwrite.after_ge (by omega)]
    exact (triple_delete_quarantined removals hall (fun _ => id) (List.length_map _)).after rfl
      (.inl ⟨plan.paths, parents', n, hall, rfl⟩) _

end Plan

end Bookwarden.Retention.Quarantine
