import Bookwarden.Exceptions
import Bookwarden.Pipeline.Process

/-!
# One bad book and the run

A book that raises is recorded by a handler, which seals a package of its own. Sealing that package
checks the paths of the snapshot again, and these paths may be what the book failed of: a path listed
twice, or a path that is not the normalized path of a file below the library root. Then the handler
raises as well, and the run ends without a result.

## Main results

* `LibraryAuditPipeline.processBook_eq_ok_iff` — when a book is audited without an exception
* `LibraryAuditPipeline.seal_handlerPackage_iff` — a handler can seal exactly the snapshots whose
  paths are distinct and valid
* `LibraryAuditPipeline.resilient_iff` — a run survives exactly when every handler it needs can seal
-/

/-! ### The exceptions of a computation -/

namespace Except

variable {ε ε' : Type*} {α β : Type} {P : ε → Prop}

/-- Every exception of `x` satisfies `P`. -/
def RaisesOnly (P : ε → Prop) (x : Except ε α) : Prop := ∀ e, x = .error e → P e

theorem RaisesOnly.ok {a : α} : RaisesOnly P (.ok a) := by
  intro e h
  cases h

theorem RaisesOnly.error {e : ε} (h : P e) : RaisesOnly P (.error e : Except ε α) := by
  intro e' he
  cases he
  exact h

theorem RaisesOnly.bind {x : Except ε α} {f : α → Except ε β} (hx : RaisesOnly P x)
    (hf : ∀ a, RaisesOnly P (f a)) : RaisesOnly P (x >>= f) := by
  intro e h
  cases x with
  | error e' =>
    cases h
    exact hx _ rfl
  | ok a => exact hf a e h

theorem RaisesOnly.mapError {x : Except ε' α} {f : ε' → ε} (hf : ∀ e, P (f e)) :
    RaisesOnly P (x.mapError f) := by
  intro e h
  cases x with
  | error e' =>
    cases h
    exact hf e'
  | ok a => cases h

theorem RaisesOnly.mapM {f : α → Except ε β} (hf : ∀ a, RaisesOnly P (f a)) {l : List α} :
    RaisesOnly P (l.mapM f) := by
  induction l with
  | nil => exact .ok
  | cons a l ih =>
    rw [List.mapM_cons]
    exact .bind (hf a) fun _ => .bind ih fun _ => .ok

theorem RaisesOnly.foldlM {f : β → α → Except ε β} (hf : ∀ b a, RaisesOnly P (f b a)) {l : List α}
    {b : β} : RaisesOnly P (l.foldlM f b) := by
  induction l generalizing b with
  | nil => exact .ok
  | cons a l ih =>
    rw [List.foldlM_cons]
    exact .bind (hf b a) fun _ => ih

/-- Every result of `x` satisfies `Q`. -/
def Ensures (Q : α → Prop) (x : Except ε α) : Prop := ∀ a, x = .ok a → Q a

theorem Ensures.bind {x : Except ε α} {f : α → Except ε β} {Q : α → Prop} {R : β → Prop}
    (hx : Ensures Q x) (hf : ∀ a, Q a → Ensures R (f a)) : Ensures R (x >>= f) := by
  intro b h
  cases x with
  | error e => cases h
  | ok a => exact hf a (hx a rfl) b h

theorem Ensures.trivial {x : Except ε α} : Ensures (fun _ => True) x := fun _ _ => .intro

theorem Ensures.foldlM {f : β → α → Except ε β} {Q : β → Prop}
    (hf : ∀ b a, Q b → Ensures Q (f b a)) {l : List α} {b : β} (hb : Q b) :
    Ensures Q (l.foldlM f b) := by
  induction l generalizing b with
  | nil =>
    intro a h
    cases h
    exact hb
  | cons a l ih =>
    rw [List.foldlM_cons]
    exact .bind (hf b a hb) fun _ hb' => ih hb'

end Except

namespace Bookwarden

/-- The conditions of `verify_invariants` on the files of a snapshot. -/
def BookSnapshot.Sealable (py : Runtime) (s : BookSnapshot) : Prop :=
  s.files.Nodup ∧ s.filesValid py = true

instance (py : Runtime) (s : BookSnapshot) : Decidable (s.Sealable py) :=
  inferInstanceAs (Decidable (_ ∧ _))

/-- A snapshot as `_new_snapshot` makes it: its key and its hash are right. -/
structure BookSnapshot.Fresh (py : Runtime) (s : BookSnapshot) : Prop where
  key : s.bookKey = s.expectedBookKey
  hash : s.verifyHash py = true

namespace LibraryAuditPipeline

variable {py : Runtime} {pipeline : LibraryAuditPipeline} {bookId : ℤ} {rawBook : Dict}
  {replies : BookReplies} {snapshot : BookSnapshot}

/-! ### Snapshots -/

theorem newSnapshot_fresh (current : Dict) (files : List String) (revision : Option String) :
    (pipeline.newSnapshot py bookId current files revision).Fresh py := by
  constructor
  · show pipeline.bookKey bookId = _
    rw [bookKey, BookSnapshot.expectedBookKey]
    rfl
  · exact decide_eq_true rfl

theorem bookSnapshot_fresh {reader : ReaderReply}
    (h : pipeline.bookSnapshot py reader bookId rawBook = .ok snapshot) :
    snapshot.Fresh py ∧ snapshot.bookKey = pipeline.bookKey bookId := by
  rw [bookSnapshot] at h
  split at h
  · cases h
  · split at h
    · cases h
    · cases h
      exact ⟨newSnapshot_fresh _ _ _, rfl⟩

theorem failedSnapshot_fresh (py : Runtime) (pipeline : LibraryAuditPipeline) (bookId : ℤ)
    (rawBook : Dict) (replies : BookReplies) :
    (pipeline.failedSnapshot py bookId rawBook replies).Fresh py ∧
      (pipeline.failedSnapshot py bookId rawBook replies).bookKey = pipeline.bookKey bookId := by
  rw [failedSnapshot]
  cases hread : pipeline.bookSnapshot py replies.failureReader bookId rawBook with
  | ok snapshot => exact bookSnapshot_fresh hread
  | error e => exact ⟨newSnapshot_fresh _ _ _, rfl⟩

/-- When the reader answers the handler as it answered before, the handler seals the snapshot of
the book. -/
theorem failedSnapshot_of_steady (hsteady : replies.failureReader = replies.reader)
    (h : pipeline.bookSnapshot py replies.reader bookId rawBook = .ok snapshot) :
    pipeline.failedSnapshot py bookId rawBook replies = snapshot := by
  rw [failedSnapshot, hsteady, h]

/-! ### Sealing -/

/-- A handler can seal exactly the snapshots whose paths are distinct and valid. -/
theorem seal_handlerPackage_iff (pipeline : LibraryAuditPipeline) (hfresh : snapshot.Fresh py)
    (stamp : String × String) (state : BookAuditState) (hstate : state ∈ [.failed, .sourceChanged])
    (flag message : String) :
    ((pipeline.handlerPackage snapshot stamp state flag message).seal py).isSome = true ↔
      snapshot.Sealable py := by
  have hinv : (pipeline.handlerPackage snapshot stamp state flag message).verifyInvariants py = true
      ↔ snapshot.Sealable py := by
    have hkey := hfresh.key
    have hhash := hfresh.hash
    simp only [EvidencePackageV2.verifyInvariants, handlerPackage, handlerIdentity,
      BookSnapshot.Sealable, hhash, hkey, hstate]
    simp
  rw [← hinv, EvidencePackageV2.seal]
  by_cases h : (pipeline.handlerPackage snapshot stamp state flag message).verifyInvariants py = true
  · simp [h]
  · simp [h]

theorem seal_decidedPackage_iff (replies : BookReplies) (hfresh : snapshot.Fresh py)
    (hkey : snapshot.bookKey = pipeline.bookKey bookId) {collected : Collected}
    {identity : ManifestationResolution} {state : BookAuditState}
    (hstate : state ∉ [.failed, .sourceChanged])
    (hresolve : resolveManifestation py (formatsOf collected) (sourceEvidenceOf collected)
      snapshot.currentMetadata = some identity) :
    ((pipeline.decidedPackage replies bookId snapshot collected identity state).seal py).isSome = true
      ↔ snapshot.Sealable py ∧ (formatsOf collected).map (·.path) = snapshot.files ∧
        ((sourceEvidenceOf collected).map (·.evidenceId)).Nodup := by
  have hinv : (pipeline.decidedPackage replies bookId snapshot collected identity
        state).verifyInvariants py = true ↔
      snapshot.Sealable py ∧ (formatsOf collected).map (·.path) = snapshot.files ∧
        ((sourceEvidenceOf collected).map (·.evidenceId)).Nodup := by
    have hexpected := hfresh.key
    have hhash := hfresh.hash
    rw [hkey] at hexpected
    simp only [EvidencePackageV2.verifyInvariants, decidedPackage, BookSnapshot.Sealable, hhash,
      hkey, ← hexpected, hstate, hresolve]
    simp only [decide_true, Bool.true_and, Bool.and_true, Bool.and_eq_true, decide_false,
      Bool.false_or, ne_eq, Bool.or_true, Json.pyEq_refl]
    constructor
    · rintro ⟨⟨⟨⟨hnodup, hvalid⟩, hpaths⟩, -⟩, hids⟩
      exact ⟨⟨of_decide_eq_true hnodup, hvalid⟩, of_decide_eq_true hpaths, of_decide_eq_true hids⟩
    · rintro ⟨⟨hnodup, hvalid⟩, hpaths, hids⟩
      exact ⟨⟨⟨⟨decide_eq_true hnodup, hvalid⟩, decide_eq_true hpaths⟩,
        decide_eq_true (hpaths ▸ hnodup)⟩, decide_eq_true hids⟩
  rw [← hinv, EvidencePackageV2.seal]
  by_cases h : (pipeline.decidedPackage replies bookId snapshot collected identity
      state).verifyInvariants py = true
  · simp [h]
  · simp [h]

/-! ### What a book raises -/

theorem Raised.exists_uncaught (raised : Raised) :
    ∃ text name, raised.uncaught = .other text name := by
  cases raised with
  | libraryChanged text => exact ⟨text, _, rfl⟩
  | other text name => exact ⟨text, name, rfl⟩

theorem fileReferences_error {reader : ReaderReply} {formats : Json} {error : BookError}
    (h : pipeline.fileReferences reader formats = .error error) :
    ∃ text name, error = .other text name := by
  rw [fileReferences] at h
  split at h
  · cases h
  · split at h
    · rename_i raised _
      cases h
      exact Raised.exists_uncaught raised
    · split at h
      · cases h
      · cases h
        exact ⟨_, _, rfl⟩

theorem bookSnapshot_error {reader : ReaderReply} {error : BookError}
    (h : pipeline.bookSnapshot py reader bookId rawBook = .error error) :
    ∃ text name, error = .other text name := by
  rw [bookSnapshot] at h
  split at h
  · rename_i raised _
    cases h
    exact Raised.exists_uncaught raised
  · split at h
    · rename_i hfiles
      cases h
      exact fileReferences_error hfiles
    · cases h

/-- The exception is about this snapshot, if it says that the source changed. -/
def About (snapshot : BookSnapshot) (error : BookError) : Prop :=
  ∀ s, error = .sourceChanged s → s = snapshot

theorem about_other (text name : String) : About snapshot (.other text name) := by
  intro s h
  cases h

theorem about_uncaught (raised : Raised) : About snapshot raised.uncaught := by
  obtain ⟨text, name, h⟩ := Raised.exists_uncaught raised
  exact h ▸ about_other text name

theorem about_caught (raised : Raised) : About snapshot (raised.caught snapshot) := by
  intro s h
  cases raised with
  | libraryChanged text =>
    cases h
    rfl
  | other text name => cases h

theorem mergeMaterialized_about {merged : Merged} {inspection : FormatInspection} :
    Except.RaisesOnly (About snapshot)
      (mergeMaterialized py replies snapshot merged inspection) := by
  rw [mergeMaterialized]
  split
  · exact .ok
  · split
    · exact .error (about_caught _)
    · split
      · exact .ok
      · exact .error (about_other _ _)

theorem inspectReference_about {done : List FormatInspection × Merged} {reference : String} :
    Except.RaisesOnly (About snapshot) (inspectReference py replies snapshot done reference) := by
  rw [inspectReference]
  exact .bind (.mapError about_caught) fun inspection => .bind mergeMaterialized_about fun merged =>
    .bind (.mapError about_caught) fun _ => .ok

theorem assertSame_about :
    Except.RaisesOnly (About snapshot) (pipeline.assertSame py replies snapshot) := by
  rw [assertSame]
  refine .bind (.mapError about_uncaught) fun currentRaw => .bind ?_ fun files => ?_
  · intro error h
    obtain ⟨text, name, rfl⟩ := fileReferences_error h
    exact about_other text name
  · split
    · exact .error fun s h => (BookError.sourceChanged.inj h).symm
    · exact .mapError about_caught

theorem inspectExports_about :
    Except.RaisesOnly (About snapshot) (inspectExports py replies snapshot) := by
  rw [inspectExports]
  refine .bind (.foldlM fun done reference => inspectReference_about) fun inspected =>
    .bind (.mapError about_uncaught) fun collected => ?_
  dsimp only
  cases inspected.2.merge py collected.2 with
  | none => exact .error (about_other _ _)
  | some merged => exact .ok

theorem inspectRemote_about :
    Except.RaisesOnly (About snapshot) (pipeline.inspectRemote py replies snapshot) := by
  rw [inspectRemote]
  exact .bind inspectExports_about fun _ => .bind assertSame_about fun _ => .ok

theorem gatherLocal_about :
    Except.RaisesOnly (About snapshot) (pipeline.gatherLocal py replies snapshot) := by
  rw [gatherLocal, inspectLocal]
  refine .bind (.mapM fun path => .bind ?_ fun _ => .mapError about_uncaught) fun _ =>
    .mapError about_uncaught
  rw [validatedFile]
  split
  · exact .ok
  · split
    · exact .error (about_other _ _)
    · split
      · exact .error (about_other _ _)
      · exact .ok

/-- A changed source is reported with the snapshot that was being inspected. -/
theorem gather_sourceChanged {s : BookSnapshot}
    (h : pipeline.gather py replies snapshot = .error (.sourceChanged s)) : s = snapshot := by
  rw [gather] at h
  split at h
  · exact gatherLocal_about _ h s rfl
  · exact inspectRemote_about _ h s rfl

/-! ### One book -/

/-- Nothing about the book raises: it is read, inspected, enriched and resolved, and its package is
sealed. -/
structure Clean (py : Runtime) (pipeline : LibraryAuditPipeline) (bookId : ℤ) (rawBook : Dict)
    (replies : BookReplies) (snapshot : BookSnapshot) (collected : Collected) : Prop where
  read : pipeline.bookSnapshot py replies.reader bookId rawBook = .ok snapshot
  gathered : pipeline.gather py replies snapshot = .ok collected
  resolves : (resolveManifestation py (formatsOf collected) (sourceEvidenceOf collected)
    snapshot.currentMetadata).isSome = true
  sealable : snapshot.Sealable py
  paths : (formatsOf collected).map (·.path) = snapshot.files
  ids : ((sourceEvidenceOf collected).map (·.evidenceId)).Nodup

/-- The source changed while the book was inspected. -/
structure Changed (py : Runtime) (pipeline : LibraryAuditPipeline) (bookId : ℤ) (rawBook : Dict)
    (replies : BookReplies) (snapshot : BookSnapshot) : Prop where
  read : pipeline.bookSnapshot py replies.reader bookId rawBook = .ok snapshot
  gathered : pipeline.gather py replies snapshot = .error (.sourceChanged snapshot)

theorem decidedState_shadow (hmode : pipeline.mode = .shadow) (tier : IdentityTier) :
    ∃ state, pipeline.decidedState tier = some state ∧ state ∉ [.failed, .sourceChanged] ∧
      state ∈ terminalBookStates := by
  cases tier with
  | tierA => exact ⟨.shadowed, by rw [decidedState, if_pos hmode], by decide, by decide⟩
  | tierB => exact ⟨.review, rfl, by decide, by decide⟩
  | tierC => exact ⟨.deferred, rfl, by decide, by decide⟩

/-- What `_process_book` makes of a book in shadow mode. -/
theorem processBook_spec (py : Runtime) (hmode : pipeline.mode = .shadow) (bookId : ℤ)
    (rawBook : Dict) (replies : BookReplies) :
    ((∃ package, (pipeline.processBook py bookId rawBook replies).2 = .ok package ∧
        package.bookKey = pipeline.bookKey bookId ∧ package.verifySeal py = true ∧
        package.state ∈ terminalBookStates ∧ package.state ∉ [.failed, .sourceChanged]) ∧
      ∃ snapshot collected, Clean py pipeline bookId rawBook replies snapshot collected) ∨
    (∃ snapshot, (pipeline.processBook py bookId rawBook replies).2 = .error (.sourceChanged snapshot)
      ∧ Changed py pipeline bookId rawBook replies snapshot) ∨
    (∃ text name, (pipeline.processBook py bookId rawBook replies).2 = .error (.other text name)) ∧
      (∀ snapshot collected, ¬ Clean py pipeline bookId rawBook replies snapshot collected) ∧
      ∀ snapshot, ¬ Changed py pipeline bookId rawBook replies snapshot := by
  rw [processBook]
  cases hread : pipeline.bookSnapshot py replies.reader bookId rawBook with
  | error error =>
    obtain ⟨text, name, rfl⟩ := bookSnapshot_error hread
    refine .inr (.inr ⟨⟨text, name, rfl⟩, fun snapshot collected h => ?_, fun snapshot h => ?_⟩)
    · exact absurd (hread.symm.trans h.read) (by simp)
    · exact absurd (hread.symm.trans h.read) (by simp)
  | ok snapshot =>
    have hsame : ∀ s, pipeline.bookSnapshot py replies.reader bookId rawBook = .ok s →
        s = snapshot := fun s hs => (Except.ok.inj (hread.symm.trans hs)).symm
    dsimp only
    cases hgather : pipeline.gather py replies snapshot with
    | error error =>
      have hnot : ∀ s c, ¬ Clean py pipeline bookId rawBook replies s c := by
        intro s c h
        have hg := h.gathered
        rw [hsame s h.read, hgather] at hg
        cases hg
      cases error with
      | sourceChanged s =>
        have hs := gather_sourceChanged hgather
        subst hs
        exact .inr (.inl ⟨s, rfl, hread, hgather⟩)
      | other text name =>
        refine .inr (.inr ⟨⟨text, name, rfl⟩, hnot, fun s h => ?_⟩)
        have hg := h.gathered
        rw [hsame s h.read, hgather] at hg
        cases hg
    | ok collected =>
      have hfresh := bookSnapshot_fresh hread
      have hchanged : ∀ s, ¬ Changed py pipeline bookId rawBook replies s := by
        intro s h
        have hg := h.gathered
        rw [hsame s h.read, hgather] at hg
        cases hg
      have hclean : ∀ s c, Clean py pipeline bookId rawBook replies s c →
          Clean py pipeline bookId rawBook replies snapshot collected := by
        intro s c h
        have hs := hsame s h.read
        subst hs
        have hc : c = collected := Except.ok.inj (h.gathered.symm.trans hgather)
        exact hc ▸ h
      dsimp only
      cases hresolve : resolveManifestation py (formatsOf collected) (sourceEvidenceOf collected)
          snapshot.currentMetadata with
      | none =>
        refine .inr (.inr ⟨⟨_, _, rfl⟩, fun s c h => ?_, hchanged⟩)
        have hr := (hclean s c h).resolves
        rw [hresolve] at hr
        cases hr
      | some identity =>
        obtain ⟨state, hstate, hnot, hterminal⟩ := decidedState_shadow hmode identity.tier
        have hiff := seal_decidedPackage_iff replies hfresh.1 hfresh.2 hnot hresolve
        dsimp only
        rw [hstate]
        dsimp only
        cases hseal : (pipeline.decidedPackage replies bookId snapshot collected identity
            state).seal py with
        | none =>
          rw [hseal] at hiff
          refine .inr (.inr ⟨⟨_, _, rfl⟩, fun s c h => ?_, hchanged⟩)
          have h := hclean s c h
          exact absurd (hiff.mpr ⟨h.sealable, h.paths, h.ids⟩) (by simp)
        | some package =>
          rw [hseal] at hiff
          obtain ⟨hsealable, hpaths, hids⟩ := hiff.mp rfl
          obtain ⟨hverify, heq⟩ := EvidencePackageV2.verifySeal_of_seal hseal
          refine .inl ⟨⟨package, rfl, ?_, hverify, ?_, ?_⟩, snapshot, collected,
            ⟨hread, hgather, by rw [hresolve]; rfl, hsealable, hpaths, hids⟩⟩
          · rw [heq]
            rfl
          · rw [heq]
            exact hterminal
          · rw [heq]
            exact hnot

/-- The book can be recorded: nothing about it raises, or the snapshot that its handler seals has
distinct, valid paths. -/
inductive Recordable (py : Runtime) (pipeline : LibraryAuditPipeline) (bookId : ℤ) (rawBook : Dict)
    (replies : BookReplies) : Prop
  | clean (snapshot : BookSnapshot) (collected : Collected)
      (h : Clean py pipeline bookId rawBook replies snapshot collected)
  | changed (snapshot : BookSnapshot) (h : Changed py pipeline bookId rawBook replies snapshot)
      (hsealable : snapshot.Sealable py)
  | failed (h : ∀ snapshot, ¬ Changed py pipeline bookId rawBook replies snapshot)
      (hsealable : (pipeline.failedSnapshot py bookId rawBook replies).Sealable py)

/-- When the reader answers the handler as it answered before, only the paths matter. -/
theorem recordable_iff_of_steady (hsteady : replies.failureReader = replies.reader) :
    Recordable py pipeline bookId rawBook replies ↔
      (pipeline.failedSnapshot py bookId rawBook replies).Sealable py := by
  constructor
  · intro h
    cases h with
    | clean snapshot collected h =>
      rw [failedSnapshot_of_steady hsteady h.read]
      exact h.sealable
    | changed snapshot h hsealable =>
      rw [failedSnapshot_of_steady hsteady h.read]
      exact hsealable
    | failed h hsealable => exact hsealable
  · intro hsealable
    by_cases h : ∃ snapshot, Changed py pipeline bookId rawBook replies snapshot
    · obtain ⟨snapshot, hchanged⟩ := h
      rw [failedSnapshot_of_steady hsteady hchanged.read] at hsealable
      exact .changed snapshot hchanged hsealable
    · exact .failed (fun snapshot hchanged => h ⟨snapshot, hchanged⟩) hsealable

/-- What the run promises about the package of a book. -/
structure Delivered (py : Runtime) (key : String) (package : EvidencePackageV2) : Prop where
  bookKey : package.bookKey = key
  verifies : package.verifySeal py = true
  terminal : package.state ∈ terminalBookStates

theorem delivered_of_handler {stamp : String × String} {state : BookAuditState}
    (hstate : state ∈ terminalBookStates) {flag message : String} {package : EvidencePackageV2}
    (h : (pipeline.handlerPackage snapshot stamp state flag message).seal py = some package) :
    Delivered py snapshot.bookKey package ∧ package.state = state := by
  obtain ⟨hverify, heq⟩ := EvidencePackageV2.verifySeal_of_seal h
  have hkey : package.bookKey = snapshot.bookKey := by rw [heq]; rfl
  have hsame : package.state = state := by rw [heq]; rfl
  exact ⟨⟨hkey, hverify, hsame ▸ hstate⟩, hsame⟩

/-- One pass of the loop delivers a package exactly when the book can be recorded. -/
theorem auditBook_spec (hmode : pipeline.mode = .shadow) (bookId : ℤ) (rawBook : Dict)
    (replies : BookReplies) :
    (∃ package, (pipeline.auditBook py bookId rawBook replies).2.1 = some package ∧
        Delivered py (pipeline.bookKey bookId) package ∧
        ((pipeline.auditBook py bookId rawBook replies).2.2 = true ↔ package.state = .failed) ∧
        Recordable py pipeline bookId rawBook replies) ∨
      (pipeline.auditBook py bookId rawBook replies).2.1 = none ∧
        ¬ Recordable py pipeline bookId rawBook replies := by
  have hspec := processBook_spec py hmode bookId rawBook replies
  rw [auditBook]
  rcases hprocess : pipeline.processBook py bookId rawBook replies with ⟨states, result⟩
  rw [hprocess] at hspec
  rcases hspec with ⟨⟨package, rfl, hkey, hverify, hterminal, hnot⟩, s, c, hclean⟩ |
    ⟨s, rfl, hchanged⟩ | ⟨⟨text, name, rfl⟩, hclean, hchanged⟩
  · have hstate : package.state ≠ .failed := fun h => hnot (by rw [h]; decide)
    exact .inl ⟨package, rfl, ⟨hkey, hverify, hterminal⟩, by simp [hstate], .clean s c hclean⟩
  · obtain ⟨hfresh, hkey⟩ := bookSnapshot_fresh hchanged.read
    have hiff := seal_handlerPackage_iff pipeline hfresh replies.failureStamp .sourceChanged
      (by decide) "source_changed" "Calibre source changed while the book was being inspected"
    dsimp only
    rw [sourceChangedPackage]
    cases hseal : (pipeline.handlerPackage s replies.failureStamp .sourceChanged "source_changed"
        "Calibre source changed while the book was being inspected").seal py with
    | none =>
      rw [hseal] at hiff
      refine .inr ⟨rfl, fun h => ?_⟩
      have hs : ∀ s', pipeline.bookSnapshot py replies.reader bookId rawBook = .ok s' → s' = s :=
        fun s' h' => (Except.ok.inj (hchanged.read.symm.trans h')).symm
      cases h with
      | clean s' c' h =>
        have hg := h.gathered
        rw [hs s' h.read, hchanged.gathered] at hg
        cases hg
      | changed s' h hsealable => exact absurd (hiff.mpr (hs s' h.read ▸ hsealable)) (by simp)
      | failed h hsealable => exact h s hchanged
    | some package =>
      rw [hseal] at hiff
      obtain ⟨hdelivered, hstate⟩ := delivered_of_handler (by decide) hseal
      exact .inl ⟨package, rfl, hkey ▸ hdelivered, by simp [hstate],
        .changed s hchanged (hiff.mp rfl)⟩
  · obtain ⟨hfresh, hkey⟩ := failedSnapshot_fresh py pipeline bookId rawBook replies
    have hiff := seal_handlerPackage_iff pipeline hfresh replies.failureStamp .failed (by decide)
      "pipeline_error" (pipeline.failureMessage text name)
    dsimp only
    rw [failedPackage]
    cases hseal : (pipeline.handlerPackage (pipeline.failedSnapshot py bookId rawBook replies)
        replies.failureStamp .failed "pipeline_error" (pipeline.failureMessage text name)).seal py with
    | none =>
      rw [hseal] at hiff
      refine .inr ⟨rfl, fun h => ?_⟩
      cases h with
      | clean s c h => exact hclean s c h
      | changed s h hsealable => exact hchanged s h
      | failed h hsealable => exact absurd (hiff.mpr hsealable) (by simp)
    | some package =>
      rw [hseal] at hiff
      obtain ⟨hdelivered, hstate⟩ := delivered_of_handler (by decide) hseal
      exact .inl ⟨package, rfl, hkey ▸ hdelivered, by simp [hstate],
        .failed hchanged (hiff.mp rfl)⟩

/-! ### The run -/

/-- The keys of the books that are not skipped, in order. -/
def queueKeys (pipeline : LibraryAuditPipeline) (skipped : List String)
    (books : List (ℤ × Dict × BookReplies)) : List String :=
  (books.map fun b => pipeline.bookKey b.1).filter fun key => decide (key ∉ skipped)

theorem queueKeys_skip {skipped : List String} {b : ℤ × Dict × BookReplies}
    {books : List (ℤ × Dict × BookReplies)} (h : pipeline.bookKey b.1 ∈ skipped) :
    pipeline.queueKeys skipped (b :: books) = pipeline.queueKeys skipped books := by
  rw [queueKeys, List.map_cons, List.filter_cons_of_neg (by simpa using h), queueKeys]

theorem queueKeys_take {skipped : List String} {b : ℤ × Dict × BookReplies}
    {books : List (ℤ × Dict × BookReplies)} (h : pipeline.bookKey b.1 ∉ skipped) :
    pipeline.queueKeys skipped (b :: books)
      = pipeline.bookKey b.1 :: pipeline.queueKeys skipped books := by
  rw [queueKeys, List.map_cons, List.filter_cons_of_pos (by simpa using h), queueKeys]

/-- The books that the loop takes up can all be recorded. -/
def AllRecordable (py : Runtime) (pipeline : LibraryAuditPipeline) (skipped : List String)
    (books : List (ℤ × Dict × BookReplies)) : Prop :=
  ∀ b ∈ books, pipeline.bookKey b.1 ∉ skipped → Recordable py pipeline b.1 b.2.1 b.2.2

/-- What holds of the trace after the books with these keys. -/
structure Sound (py : Runtime) (keys : List String) (trace : RunTrace) : Prop where
  alive : trace.aborted = false
  inOrder : trace.delivered.map (·.bookKey) = keys
  verified : ∀ p ∈ trace.delivered, p.verifySeal py = true ∧ p.state ∈ terminalBookStates
  errors : trace.hasErrors = true ↔ ∃ p ∈ trace.delivered, p.state = .failed

theorem sound_start : Sound py [] {} := by
  refine ⟨rfl, rfl, fun p hp => absurd hp List.not_mem_nil, ?_⟩
  constructor
  · intro h
    cases h
  · rintro ⟨p, hp, -⟩
    cases hp

theorem Sound.deliver {keys : List String} {trace : RunTrace} (h : Sound py keys trace) {key : String}
    {package : EvidencePackageV2} (hpackage : Delivered py key package) {failed : Bool}
    (hfailed : failed = true ↔ package.state = .failed) (emitted : List (String × BookAuditState)) :
    Sound py (keys ++ [key])
      ⟨emitted, trace.delivered ++ [package], trace.hasErrors || failed, trace.aborted⟩ := by
  refine ⟨h.alive, ?_, ?_, ?_⟩
  · rw [List.map_append, h.inOrder, List.map_singleton, hpackage.bookKey]
  · intro p hp
    rcases List.mem_append.mp hp with hp | hp
    · exact h.verified p hp
    · rw [List.mem_singleton.mp hp]
      exact ⟨hpackage.verifies, hpackage.terminal⟩
  · rw [Bool.or_eq_true, h.errors, hfailed]
    constructor
    · rintro (⟨p, hp, hstate⟩ | hstate)
      · exact ⟨p, List.mem_append_left _ hp, hstate⟩
      · exact ⟨package, List.mem_append_right _ (List.mem_singleton_self _), hstate⟩
    · rintro ⟨p, hp, hstate⟩
      rcases List.mem_append.mp hp with hp | hp
      · exact .inl ⟨p, hp, hstate⟩
      · rw [List.mem_singleton.mp hp] at hstate
        exact .inr hstate

/-- The loop over books that can be recorded delivers one package for each. -/
theorem auditBooks_sound (hmode : pipeline.mode = .shadow) (skipped : List String)
    {books : List (ℤ × Dict × BookReplies)} (hbooks : AllRecordable py pipeline skipped books)
    {keys : List String} {trace : RunTrace} (h : Sound py keys trace) :
    Sound py (keys ++ pipeline.queueKeys skipped books)
      (pipeline.auditBooks py skipped books trace) := by
  induction books generalizing keys trace with
  | nil => simpa [auditBooks, queueKeys] using h
  | cons b books ih =>
    obtain ⟨bookId, rawBook, replies⟩ := b
    have hrest : AllRecordable py pipeline skipped books :=
      fun b hb => hbooks b (List.mem_cons_of_mem _ hb)
    rw [auditBooks]
    dsimp only
    by_cases hskip : pipeline.bookKey bookId ∈ skipped
    · rw [if_pos hskip, queueKeys_skip hskip]
      exact ih hrest h
    · rw [if_neg hskip, queueKeys_take hskip, List.append_cons]
      rcases auditBook_spec hmode bookId rawBook replies with
        ⟨package, hpackage, hdelivered, hfailed, -⟩ | ⟨-, hnot⟩
      · rcases haudit : pipeline.auditBook py bookId rawBook replies with ⟨states, recorded, failed⟩
        rw [haudit] at hpackage hfailed
        subst hpackage
        dsimp only
        rw [if_pos hdelivered.terminal]
        exact ih hrest (h.deliver hdelivered hfailed _)
      · exact absurd (hbooks _ List.mem_cons_self hskip) hnot

/-- The loop ends at a book that cannot be recorded. -/
theorem auditBooks_aborted (hmode : pipeline.mode = .shadow) (skipped : List String)
    {books : List (ℤ × Dict × BookReplies)} (hbooks : ¬ AllRecordable py pipeline skipped books)
    (trace : RunTrace) : (pipeline.auditBooks py skipped books trace).aborted = true := by
  induction books generalizing trace with
  | nil => exact absurd (fun b hb => absurd hb List.not_mem_nil) hbooks
  | cons b books ih =>
    obtain ⟨bookId, rawBook, replies⟩ := b
    rw [auditBooks]
    dsimp only
    by_cases hskip : pipeline.bookKey bookId ∈ skipped
    · rw [if_pos hskip]
      refine ih (fun hall => hbooks fun b hb hkey => ?_) trace
      rcases List.mem_cons.mp hb with rfl | hb
      · exact absurd hskip hkey
      · exact hall b hb hkey
    · rw [if_neg hskip]
      rcases haudit : pipeline.auditBook py bookId rawBook replies with ⟨states, recorded, failed⟩
      rcases auditBook_spec hmode bookId rawBook replies with
        ⟨package, hpackage, hdelivered, -, hrecordable⟩ | ⟨hnone, -⟩
      · rw [haudit] at hpackage
        subst hpackage
        dsimp only
        rw [if_pos hdelivered.terminal]
        refine ih (fun hall => hbooks fun b hb hkey => ?_) _
        rcases List.mem_cons.mp hb with rfl | hb
        · exact hrecordable
        · exact hall b hb hkey
      · rw [haudit] at hnone
        subst hnone
        rfl

/-- The run is resilient and total: it returns, and the package callback has got one package for each
book that is not skipped, in the order of the ids, each verifying and terminal; the status is
`completed` when no book failed. -/
structure Resilient (py : Runtime) (pipeline : LibraryAuditPipeline) (books : List ListedBook)
    (limit : ℕ) (skipped : List String) (selected : List (ℤ × Dict × BookReplies))
    (result : LibraryAuditResult) : Prop where
  selects : selectBooks books limit = some selected
  returns : (pipeline.run py books limit skipped).2 = some result
  ordered : (selected.map (·.1)).Pairwise (· ≤ ·)
  delivers : (pipeline.run py books limit skipped).1.delivered.map (·.bookKey)
    = pipeline.queueKeys skipped selected
  verified : ∀ p ∈ (pipeline.run py books limit skipped).1.delivered,
    p.verifySeal py = true ∧ p.state ∈ terminalBookStates
  status : result.status = .completed ↔
    ∀ p ∈ (pipeline.run py books limit skipped).1.delivered, p.state ≠ .failed

theorem selectBooks_ordered {books : List ListedBook} {limit : ℕ}
    {selected : List (ℤ × Dict × BookReplies)} (h : selectBooks books limit = some selected) :
    (selected.map (·.1)).Pairwise (· ≤ ·) := by
  rw [selectBooks] at h
  obtain ⟨keyed, -, h⟩ := Option.bind_eq_some_iff.mp h
  have hsorted : ((keyed.insertionSort fun a b => a.1 ≤ b.1).map (·.1)).Pairwise (· ≤ ·) := by
    have hmap := List.map_insertionSort (r := fun a b => a.1 ≤ b.1) (s := (· ≤ ·))
      (fun a : ℤ × Dict × BookReplies => a.1) keyed fun a _ b _ => Iff.rfl
    rw [hmap]
    exact List.pairwise_insertionSort _ _
  cases h
  split
  · rw [List.map_take]
    exact hsorted.sublist (List.take_sublist _ _)
  · exact hsorted

/-- **A run survives its books.** A shadow run returns, with one verifying, terminal package for each
book that is not skipped, exactly when every listed id is an integer and every such book can be
recorded. -/
theorem resilient_iff (py : Runtime) (pipeline : LibraryAuditPipeline)
    (hmode : pipeline.mode = .shadow) (books : List ListedBook) (limit : ℕ)
    (skipped : List String) :
    (∃ selected result, Resilient py pipeline books limit skipped selected result) ↔
      ∃ selected, selectBooks books limit = some selected ∧
        AllRecordable py pipeline skipped selected := by
  have hshadow : pipeline.mode ≠ .tierAAuto := by
    rw [hmode]
    decide
  constructor
  · rintro ⟨selected, result, h⟩
    refine ⟨selected, h.selects, ?_⟩
    by_contra hnot
    have hreturns := h.returns
    rw [run, if_neg hshadow, h.selects] at hreturns
    dsimp only at hreturns
    rw [auditBooks_aborted hmode skipped hnot, if_pos rfl] at hreturns
    cases hreturns
  · rintro ⟨selected, hselects, hall⟩
    have hsound := auditBooks_sound hmode skipped hall sound_start
    have hrun : pipeline.run py books limit skipped
        = (pipeline.auditBooks py skipped selected {}, some {
            runId := pipeline.runId
            status := if (pipeline.auditBooks py skipped selected {}).hasErrors then
              .completedWithErrors else .completed
            bookKeys := selected.map fun b => pipeline.bookKey b.1
            snapshotSha256 := hashJson py (.strs (selected.map fun b => pipeline.bookKey b.1))
            packages := (pipeline.auditBooks py skipped selected {}).delivered }) := by
      rw [run, if_neg hshadow, hselects]
      dsimp only
      rw [hsound.alive]
      rfl
    refine ⟨selected, _, hselects, by rw [hrun], selectBooks_ordered hselects, ?_, ?_, ?_⟩
    · rw [hrun]
      exact hsound.inOrder
    · rw [hrun]
      exact hsound.verified
    · rw [hrun]
      dsimp only
      cases herrors : (pipeline.auditBooks py skipped selected {}).hasErrors with
      | false =>
        refine iff_of_true rfl fun p hp hstate => ?_
        exact absurd (hsound.errors.mpr ⟨p, hp, hstate⟩) (by rw [herrors]; decide)
      | true =>
        obtain ⟨p, hp, hstate⟩ := hsound.errors.mp herrors
        exact iff_of_false (by decide) fun h => h p hp hstate

/-- A local source without a configured library root. -/
def localPipeline : LibraryAuditPipeline := { runId := "run" }

/-- A book without files that cannot be read. -/
def unreadableBook : ListedBook where
  id := some 1
  raw := []
  replies :=
    { reader := { metadata := .error (.other "Book with ID 1 not found." "CalibreCLIError") }
      inspect := fun _ => .error (.other "" "")
      stamp := ("evidence_1", "now")
      failureStamp := ("evidence_2", "now") }

/-- The book that cannot be read is recorded, and the run returns. -/
theorem unreadable_book_recorded :
    ∃ selected result, Resilient .ascii localPipeline [unreadableBook] 0 [] selected result :=
  (resilient_iff .ascii localPipeline rfl [unreadableBook] 0 []).mpr
    ⟨[(1, [], unreadableBook.replies)], rfl, fun b hb _ => by
      rw [List.mem_singleton.mp hb]
      exact (recordable_iff_of_steady rfl).mpr ⟨by decide, by decide⟩⟩

/-- A book whose record lists one file twice; the file itself is read without trouble. -/
def doubledBook : ListedBook where
  id := some 1
  raw := []
  replies :=
    { reader := { metadata := .ok [("formats", .strs ["/a.cbz", "/a.cbz"])] }
      inspect := fun path => .ok ⟨⟨path, "CBZ", "0", .readable, [], none, [], [], [], none⟩, [], [], []⟩
      stamp := ("evidence_1", "now")
      failureStamp := ("evidence_2", "now") }

/-- A path listed twice: the package is refused, the handler's package is refused as well, and the
run ends without a result. -/
theorem doubled_path_aborts :
    ¬ ∃ selected result, Resilient .ascii localPipeline [doubledBook] 0 [] selected result := by
  rintro ⟨selected, result, h⟩
  have hselects : selectBooks [doubledBook] 0 = some [(1, [], doubledBook.replies)] := rfl
  have hfiles : (localPipeline.failedSnapshot .ascii 1 [] doubledBook.replies).files
      = ["/a.cbz", "/a.cbz"] := by decide +kernel
  have hnot : ¬ AllRecordable .ascii localPipeline [] [(1, [], doubledBook.replies)] := by
    intro hall
    have hrecordable := hall _ List.mem_cons_self List.not_mem_nil
    have hnodup := ((recordable_iff_of_steady rfl).mp hrecordable).1
    rw [hfiles] at hnodup
    exact absurd hnodup (by decide)
  have hreturns := h.returns
  rw [run, if_neg (by decide), hselects] at hreturns
  dsimp only at hreturns
  rw [auditBooks_aborted rfl [] hnot, if_pos rfl] at hreturns
  cases hreturns

end LibraryAuditPipeline

end Bookwarden
