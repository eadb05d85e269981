import Mathlib.Data.List.Infix
import Bookwarden.Lib.Assoc
import Bookwarden.Verification.Verdict

/-!
# The legacy audit

`run_audit` of `audit/engine.py`. One session of the database is used for all books of a run: a verdict
is stored as a row with JSON columns, which replaces the row of an earlier call.

The session does what its library says. A JSON column takes what can be encoded. A flush inserts
before it deletes, and no evidence id twice. After a flush that fails every use of the session raises,
and reading an attribute of a book is one.

## Main definitions

* `Data`, `BookVerdict.modelDump` — a verdict as a dictionary, with its times
* `Session`, `runAudit`
* `StoresEveryVerdict`

## Main results

* `auditLoop_spec` — where the loop ends
* `storesEveryVerdict_iff`
-/

namespace Bookwarden.LegacyAudit

open Verification

/-! ### Dumped models -/

/-- A value of a dumped model: `model_dump` leaves times as they are. -/
inductive Data
  | value (v : Value)
  | int (n : ℤ)
  | datetime (t : ℤ)
  | list (xs : List Data)
  | dict (kvs : List (String × Data))

mutual

/-- `json.dumps` encodes the value. -/
def Data.encodable : Data → Bool
  | .value _ => true
  | .int _ => true
  | .datetime _ => false
  | .list xs => Data.allEncodable xs
  | .dict kvs => Data.entriesEncodable kvs

def Data.allEncodable : List Data → Bool
  | [] => true
  | x :: xs => x.encodable && Data.allEncodable xs

def Data.entriesEncodable : List (String × Data) → Bool
  | [] => true
  | (_, x) :: kvs => x.encodable && Data.entriesEncodable kvs

end

/-- What a JSON column holds. -/
abbrev Column := { d : Data // d.encodable = true }

/-- A text. -/
def Data.str (s : String) : Data := .value (.str s)

/-- A text or `None`. -/
def Data.optStr : Option String → Data
  | none => .value .null
  | some s => .str s

/-- A list of texts. -/
def Data.strs (xs : List String) : Data := .list (xs.map Data.str)

/-- The value of a `VerdictAction`. -/
def actionValue : VerdictAction → String
  | .noChange => "no_change"
  | .suggestFix => "suggest_fix"
  | .needsReview => "needs_review"
  | .defer => "defer"

/-- `model_dump` of an `EvidenceSpan`, whose locator nothing sets. -/
def dumpSpan (s : EvidenceSpan) : Data :=
  .dict [("source", .str s.source), ("text", .str s.text), ("page_range", .optStr s.pageRange),
    ("confidence", .int s.confidence), ("locator", .value .null)]

/-- `model_dump` of a `JudgeCall`, of which each costs nothing. -/
def dumpCall (c : JudgeCall) : Data :=
  .dict [("provider", .str c.provider), ("model", .str c.model), ("prompt_hash", .str c.promptHash),
    ("response_hash", .str c.responseHash), ("tokens_in", .int c.tokensIn),
    ("tokens_out", .int c.tokensOut), ("duration_ms", .int c.durationMs),
    ("cost_usd", .value (.float (.finite 0)))]

/-- `model_dump` of a `FieldVerdict`. -/
def dumpField (fv : FieldVerdict) (createdAt : ℤ) : Data :=
  .dict [("field", .str fv.field), ("declared_value", .value fv.declaredValue),
    ("observed_value", .value fv.observedValue), ("verdict", .str fv.verdict.value),
    ("confidence", .int fv.confidence), ("evidence", .list (fv.evidence.map dumpSpan)),
    ("judge_calls", .list (fv.judgeCalls.map dumpCall)),
    ("requires_review", .value (.bool fv.requiresReview)), ("risk_flags", .strs fv.riskFlags),
    ("reason", .optStr fv.reason), ("is_deterministic", .value (.bool fv.isDeterministic)),
    ("created_at", .datetime createdAt)]

/-- A verdict with the times at which it and those of its fields were made. -/
structure TimedVerdict where
  verdict : BookVerdict
  createdAt : ℤ
  fieldCreatedAt : String → ℤ

/-- `model_dump` of a `BookVerdict`. -/
def TimedVerdict.modelDump (t : TimedVerdict) : Data :=
  .dict [("book_key", .str t.verdict.bookKey), ("run_id", .str t.verdict.runId),
    ("field_verdicts", .dict (t.verdict.fieldVerdicts.map fun f =>
      (f.1, dumpField f.2 (t.fieldCreatedAt f.1)))),
    ("overall_confidence", .int t.verdict.overallConfidence),
    ("risk_flags", .strs t.verdict.riskFlags), ("action", .str (actionValue t.verdict.action)),
    ("auto_apply_eligible", .value (.bool t.verdict.autoApplyEligible)),
    ("proposed_patch", .dict (t.verdict.proposedPatch.map fun p => (p.1, .value p.2))),
    ("reasons", .strs t.verdict.reasons), ("created_at", .datetime t.createdAt)]

/-! ### The database and its session -/

/-- A `BookRecord`, as far as it is read here. -/
structure Book where
  bookKey : String
  currentMetadata : List (String × Value)

/-- A row of `EvidencePackage`. -/
structure Row where
  evidenceId : String
  bookKey : String
  runId : String
  current : Column
  extracted : Column
  decision : Column

/-- A package that is not flushed yet. -/
structure NewRow where
  evidenceId : String
  bookKey : String
  runId : String
  current : Data
  extracted : Data
  decision : Data

/-- The tables: the status of each book, and the packages with their unique ids. -/
structure Db where
  statuses : Table String String
  evidence : List Row
  unique : (evidence.map (·.evidenceId)).Nodup

/-- A session of the ORM. -/
structure Session where
  db : Db
  /-- A flush has failed. -/
  failed : Bool

/-- What a use of the session after a failed flush raises. -/
def pendingRollback : PyError := ⟨.other, "This Session's transaction has been rolled back"⟩

/-- The row of a package, if its columns can be encoded. -/
def NewRow.encode (r : NewRow) : Option Row :=
  if hcurrent : r.current.encodable = true then
    if hextracted : r.extracted.encodable = true then
      if hdecision : r.decision.encodable = true then
        some ⟨r.evidenceId, r.bookKey, r.runId, ⟨r.current, hcurrent⟩, ⟨r.extracted, hextracted⟩,
          ⟨r.decision, hdecision⟩⟩
      else none
    else none
  else none

/-- `session.exec(select(EvidencePackage)…).first()`. -/
def Db.firstPackage (db : Db) (bookKey runId : String) : Option Row :=
  db.evidence.find? fun r => r.bookKey = bookKey ∧ r.runId = runId

/-- The flush of a commit: a status, a package, and then the deletion of the old one. -/
def Db.flush (db : Db) (bookKey status : String) (new : Option NewRow) (old : Option Row) :
    Except PyError Db :=
  match new with
  | none => .ok { db with statuses := db.statuses.set bookKey status }
  | some new =>
    match new.encode with
    | none => .error ⟨.other, "Object of type datetime is not JSON serializable"⟩
    | some row =>
      if h : row.evidenceId ∈ db.evidence.map (·.evidenceId) then
        .error ⟨.other, "UNIQUE constraint failed: evidencepackage.evidence_id"⟩
      else
        .ok {
          statuses := db.statuses.set bookKey status
          evidence := (db.evidence ++ [row]).filter fun r =>
            old.all fun o => r.evidenceId ≠ o.evidenceId
          unique := by
            have hall : ((db.evidence ++ [row]).map (·.evidenceId)).Nodup := by
              rw [List.map_append]
              refine List.nodup_append.mpr ⟨db.unique, List.nodup_singleton _, fun a ha b hb hab => ?_⟩
              rw [hab, List.mem_singleton.mp hb] at ha
              exact h ha
            exact hall.sublist (List.filter_sublist.map _) }

/-- `session.commit()`. -/
def Session.commit (s : Session) (bookKey status : String) (new : Option NewRow)
    (old : Option Row) : Session × Except PyError Unit :=
  match s.db.flush bookKey status new old with
  | .ok db => ({ s with db := db }, .ok ())
  | .error e => ({ s with failed := true }, .error e)

/-! ### `run_audit` -/

/-- One call of `run_audit`: what building and verifying gives for each book, and what the optional
witness makes of a verdict. -/
structure Call where
  verify : Book → Except PyError TimedVerdict
  witness : TimedVerdict → TimedVerdict
  judge : Bool

/-- The verdict of a book, after the witness. -/
def Call.verdict (call : Call) (book : Book) : Except PyError TimedVerdict :=
  (call.verify book).map fun t => if call.judge then call.witness t else t

/-- `book_key.replace(":", "_")`. -/
def underscored (bookKey : String) : String := replaceChar ':' '_' bookKey

/-- The new package of a book. -/
def packageOf (runId : String) (book : Book) (t : TimedVerdict) : NewRow where
  evidenceId := "ev_" ++ runId ++ "_" ++ underscored book.bookKey
  bookKey := book.bookKey
  runId := runId
  current := .value (.dict book.currentMetadata)
  extracted := t.modelDump
  decision := t.modelDump

/-- The body of the `try`. -/
def auditBook (call : Call) (runId : String) (saveEvidence : Bool) (s : Session) (book : Book) :
    Session × Except PyError Unit :=
  match call.verdict book with
  | .error e => (s, .error e)
  | .ok t =>
    let status := actionValue t.verdict.action
    if saveEvidence then
      s.commit book.bookKey status (some (packageOf runId book t))
        (s.db.firstPackage book.bookKey runId)
    else s.commit book.bookKey status none none

/-- Where a call is, or how it has ended. -/
structure Progress where
  session : Session
  /-- The books that `progress_callback` has been told of. -/
  visited : List String
  result : Except PyError Unit

/-- The loop over the books. The log line reads the book before the `try`, and so does the handler. -/
def auditLoop (call : Call) (runId : String) (saveEvidence : Bool) :
    List Book → Session → List String → Progress
  | [], s, visited => ⟨s, visited, .ok ()⟩
  | book :: books, s, visited =>
    if s.failed then ⟨s, visited, .error pendingRollback⟩
    else
      let visited := visited ++ [book.bookKey]
      match auditBook call runId saveEvidence s book with
      | (s', .ok _) => auditLoop call runId saveEvidence books s' visited
      | (s', .error _) =>
        if s'.failed then ⟨s', visited, .error pendingRollback⟩
        else auditLoop call runId saveEvidence books s' visited

/-- `run_audit` with a new session; closing it discards what is not committed. -/
def runAudit (call : Call) (runId : String) (saveEvidence : Bool) (books : List Book) (db : Db) :
    Progress :=
  auditLoop call runId saveEvidence books ⟨db, false⟩ []

/-- The tables after several calls. -/
def afterCalls (runId : String) (books : List Book) (db : Db) (calls : List Call) : Db :=
  calls.foldl (fun db call => (runAudit call runId true books db).session.db) db

/-! ### The loop -/

theorem entriesEncodable_eq_false {kvs : List (String × Data)} {k : String} {t : ℤ}
    (h : (k, Data.datetime t) ∈ kvs) : Data.entriesEncodable kvs = false := by
  induction kvs with
  | nil => cases h
  | cons kv kvs ih =>
    rw [Data.entriesEncodable, Bool.and_eq_false_iff]
    rcases List.mem_cons.mp h with rfl | h
    · exact Or.inl rfl
    · exact Or.inr (ih h)

/-- A verdict that is dumped has its time in it. -/
theorem encodable_modelDump (t : TimedVerdict) : t.modelDump.encodable = false := by
  have htime : ("created_at", Data.datetime t.createdAt) ∈
      [("book_key", Data.str t.verdict.bookKey), ("run_id", .str t.verdict.runId),
        ("field_verdicts", .dict (t.verdict.fieldVerdicts.map fun f =>
          (f.1, dumpField f.2 (t.fieldCreatedAt f.1)))),
        ("overall_confidence", .int t.verdict.overallConfidence),
        ("risk_flags", .strs t.verdict.riskFlags), ("action", .str (actionValue t.verdict.action)),
        ("auto_apply_eligible", .value (.bool t.verdict.autoApplyEligible)),
        ("proposed_patch", .dict (t.verdict.proposedPatch.map fun p => (p.1, .value p.2))),
        ("reasons", .strs t.verdict.reasons), ("created_at", .datetime t.createdAt)] := by
    simp
  rw [TimedVerdict.modelDump, Data.encodable]
  exact entriesEncodable_eq_false htime

/-- No package can be flushed. -/
theorem encode_packageOf (runId : String) (book : Book) (t : TimedVerdict) :
    (packageOf runId book t).encode = none := by
  rw [NewRow.encode]
  split
  · rw [dif_neg]
    show ¬t.modelDump.encodable = true
    rw [encodable_modelDump]
    exact Bool.false_ne_true
  · rfl

/-- A book either fails before the session is used, or leaves it failed. -/
theorem auditBook_spec (call : Call) (runId : String) (s : Session) (book : Book) :
    (∃ e, call.verdict book = .error e ∧ auditBook call runId true s book = (s, .error e)) ∨
      ∃ t e, call.verdict book = .ok t ∧
        auditBook call runId true s book = ({ s with failed := true }, .error e) := by
  rw [auditBook]
  cases hverdict : call.verdict book with
  | error e => exact Or.inl ⟨e, rfl, rfl⟩
  | ok t =>
    refine Or.inr ⟨t, ⟨.other, "Object of type datetime is not JSON serializable"⟩, rfl, ?_⟩
    simp only [if_true]
    rw [Session.commit, Db.flush]
    simp only [encode_packageOf]

/-- The keys of books. -/
def keysOf (books : List Book) : List String := books.map (·.bookKey)

/-- The loop goes on as long as books fail by themselves, and ends with the first that does not. -/
theorem auditLoop_spec (call : Call) (runId : String) (books : List Book) (s : Session)
    (hs : s.failed = false) (visited : List String) :
    ((∀ b ∈ books, ∃ e, call.verdict b = .error e) ∧
      auditLoop call runId true books s visited = ⟨s, visited ++ keysOf books, .ok ()⟩) ∨
    ∃ before book behind t, books = before ++ book :: behind ∧ call.verdict book = .ok t ∧
      auditLoop call runId true books s visited
        = ⟨{ s with failed := true }, visited ++ keysOf (before ++ [book]),
          .error pendingRollback⟩ := by
  induction books generalizing visited with
  | nil =>
    refine Or.inl ⟨fun b hb => (nomatch hb), ?_⟩
    rw [auditLoop, keysOf, List.map_nil, List.append_nil]
  | cons book books ih =>
    have hopen : ¬s.failed = true := by
      rw [hs]
      exact Bool.false_ne_true
    rw [auditLoop, if_neg hopen]
    rcases auditBook_spec call runId s book with ⟨e, hverdict, hbook⟩ | ⟨t, e, hverdict, hbook⟩
    · simp only [hbook, if_neg hopen]
      rcases ih (visited ++ [book.bookKey]) with ⟨hall, hloop⟩ | ⟨before, b, behind, t, hsplit, hb, hloop⟩
      · refine Or.inl ⟨List.forall_mem_cons.mpr ⟨⟨e, hverdict⟩, hall⟩, ?_⟩
        rw [hloop, List.append_assoc]
        rfl
      · refine Or.inr ⟨book :: before, b, behind, t, ?_, hb, ?_⟩
        · rw [hsplit]
          rfl
        · rw [hloop, List.append_assoc]
          rfl
    · refine Or.inr ⟨[], book, books, t, rfl, hverdict, ?_⟩
      simp only [hbook, if_true]
      rfl

/-- No call changes the tables. -/
theorem runAudit_db (call : Call) (runId : String) (books : List Book) (db : Db) :
    (runAudit call runId true books db).session.db = db := by
  rw [runAudit]
  rcases auditLoop_spec call runId books ⟨db, false⟩ rfl [] with ⟨-, h⟩ | ⟨_, _, _, _, -, -, h⟩
  · rw [h]
  · rw [h]

theorem afterCalls_eq (runId : String) (books : List Book) (db : Db) (calls : List Call) :
    afterCalls runId books db calls = db := by
  induction calls with
  | nil => rfl
  | cons call calls ih =>
    rw [afterCalls, List.foldl_cons, runAudit_db]
    exact ih

/-! ### Every verdict -/

/-- What a call leaves: it has visited every book, and every book that did not fail has one package of
the run, with its verdict. -/
structure StoresVerdicts (runId : String) (books : List Book) (call : Call) (p : Progress) : Prop where
  returned : p.result = .ok ()
  visited : p.visited = keysOf books
  stored : ∀ b ∈ books, ∀ t, call.verdict b = .ok t →
    ∃ row, (p.session.db.evidence.filter fun r => r.bookKey = b.bookKey ∧ r.runId = runId) = [row] ∧
      row.decision.1 = t.modelDump

/-- What every one of several calls should leave. -/
def StoresEveryVerdict (runId : String) (books : List Book) (db : Db) (calls : List Call) : Prop :=
  ∀ before call, before ++ [call] <+: calls →
    StoresVerdicts runId books call (runAudit call runId true books (afterCalls runId books db before))

/-- The verdicts are stored just when there are none: in every call every book fails before its
verdict is made. -/
theorem storesEveryVerdict_iff (runId : String) (books : List Book) (db : Db) (calls : List Call) :
    StoresEveryVerdict runId books db calls ↔
      ∀ call ∈ calls, ∀ b ∈ books, ∃ e, call.verify b = .error e := by
  have hverdict : ∀ (call : Call) (b : Book),
      (∃ e, call.verdict b = .error e) ↔ ∃ e, call.verify b = .error e := by
    intro call b
    rw [Call.verdict]
    cases call.verify b <;> simp [Except.map]
  constructor
  · intro h call hcall b hb
    obtain ⟨before, behind, hsplit⟩ := List.append_of_mem hcall
    have hinitial : before ++ [call] <+: calls := ⟨behind, by rw [hsplit, List.append_assoc]; rfl⟩
    rw [← hverdict]
    cases hb' : call.verdict b with
    | error e => exact ⟨e, rfl⟩
    | ok t =>
      -- a stored decision can be encoded
      obtain ⟨row, -, hrow⟩ := (h before call hinitial).stored b hb t hb'
      have hencodable := row.decision.2
      rw [hrow, encodable_modelDump] at hencodable
      cases hencodable
  · intro h before call hinitial
    have hcall : call ∈ calls := hinitial.subset (List.mem_append_right _ List.mem_cons_self)
    have hall : ∀ b ∈ books, ∃ e, call.verdict b = .error e := fun b hb =>
      (hverdict call b).mpr (h call hcall b hb)
    rcases auditLoop_spec call runId books ⟨afterCalls runId books db before, false⟩ rfl [] with
      ⟨-, hloop⟩ | ⟨front, b, behind, t, hsplit, hb, -⟩
    · rw [runAudit, hloop]
      refine ⟨rfl, rfl, fun b hb t ht => ?_⟩
      obtain ⟨e, he⟩ := hall b hb
      rw [he] at ht
      cases ht
    · obtain ⟨e, he⟩ := hall b (hsplit ▸ List.mem_append_right _ List.mem_cons_self)
      rw [he] at hb
      cases hb

/-- A verdict that says nothing. -/
def emptyVerdict (key : String) : TimedVerdict where
  verdict := ⟨key, "r", [], 100, [], .noChange, false, [], []⟩
  createdAt := 0
  fieldCreatedAt _ := 0

/-- Every book has a verdict. -/
def plainCall : Call where
  verify b := .ok (emptyVerdict b.bookKey)
  witness t := t
  judge := false

/-- The first book of two ends the call, and nothing is stored. -/
theorem first_book_ends_audit :
    (runAudit plainCall "r" true [⟨"calibre:1", []⟩, ⟨"calibre:2", []⟩] ⟨.empty, [], List.nodup_nil⟩).visited
      = ["calibre:1"] ∧
    (runAudit plainCall "r" true [⟨"calibre:1", []⟩, ⟨"calibre:2", []⟩]
      ⟨.empty, [], List.nodup_nil⟩).session.db.evidence = [] ∧
    ¬StoresEveryVerdict "r" [⟨"calibre:1", []⟩, ⟨"calibre:2", []⟩] ⟨.empty, [], List.nodup_nil⟩
      [plainCall] := by
  have hvisited : (runAudit plainCall "r" true [⟨"calibre:1", []⟩, ⟨"calibre:2", []⟩]
      ⟨.empty, [], List.nodup_nil⟩).visited = ["calibre:1"] := by rfl
  refine ⟨hvisited, by rw [runAudit_db], fun h => ?_⟩
  have hall := (h [] plainCall (List.prefix_refl _)).visited
  rw [afterCalls_eq, hvisited] at hall
  cases hall

end Bookwarden.LegacyAudit
