import Bookwarden.CertificateA.Start
import Bookwarden.CertificateA.Fencing

/-!
# A start is idempotent

Requests with one key and one body name one run, in every interleaving of their steps; the unique
constraints and the second reading of the key see to that. One thing is left: a request that has
found no run with its key reads the active run next. When a request with the same key and body
commits in between, the run it reads is its own, and it answers that a run is active.

## Main definitions

* `Holds`, `Matches` — a run with a key and a body
* `Phase.InWindow`, `Undisturbed` — between the two readings, and no twin commits there
* `ConflictOf` — a step answers a conflict to a request that has a run

## Main results

* `step_stepped` — what one step of a request can do
* `World.Sound` and `exec_sound`, `World.Clear` and `exec_clear` — the invariants over one event
* `start_idempotent`
* `disturbed_conflict` — after a commit in the window the conflict is one step away
* `twin_refused` — a run in which it happens
-/

namespace Bookwarden

namespace CertificateA

namespace Start

variable {py : Runtime}

/-! ### What a step can do -/

theorem existingForKey_some {t : RunTable} {key : String} {r : String × RequestedRun}
    (h : t.existingForKey key = some r) :
    t.rows.get? r.1 = some r.2 ∧ r.2.idempotencyKey = some key := by
  have hfound := List.find?_some h
  exact ⟨Table.mem_rows_iff.mp (List.mem_of_find?_eq_some h), of_decide_eq_true hfound⟩

theorem existingForKey_none {t : RunTable} {key : String} (h : t.existingForKey key = none)
    {runId : String} {run : RequestedRun} (hrun : t.rows.get? runId = some run) :
    run.idempotencyKey ≠ some key := by
  have hall := List.find?_eq_none.mp h (runId, run) (Table.mem_rows_iff.mpr hrun)
  simpa using hall

theorem write_rows {t t' : RunTable} {runId : String} {run : RequestedRun}
    (h : t.write runId run = some t') : t'.rows = t.rows.set runId run := by
  rw [RunTable.write] at h
  split at h
  · rw [← Option.some.inj h]
  · exact absurd h (by simp)

theorem insert_spec {t t' : RunTable} {runId : String} {run : RequestedRun}
    (h : t.insert runId run = some t') :
    t.rows.get? runId = none ∧ t'.rows = t.rows.set runId run := by
  rw [RunTable.insert] at h
  split at h
  · exact absurd h (by simp)
  · rename_i hnew
    exact ⟨by simpa using hnew, write_rows h⟩

/-- The run has this key and was requested with this body. -/
def Holds (t : RunTable) (runId key sha256 : String) : Prop :=
  ∃ run, t.rows.get? runId = some run ∧ run.idempotencyKey = some key ∧
    run.requestSha256 = some sha256

/-- Some run has this key and was requested with this body. -/
def Matches (t : RunTable) (key sha256 : String) : Prop := ∃ runId, Holds t runId key sha256

/-- Every run stays, with the key and the body of its request. -/
def Keeps (t t' : RunTable) : Prop :=
  ∀ runId run, t.rows.get? runId = some run → ∃ run', t'.rows.get? runId = some run' ∧
    run'.idempotencyKey = run.idempotencyKey ∧ run'.requestSha256 = run.requestSha256

theorem Keeps.refl (t : RunTable) : Keeps t t := fun _ run h => ⟨run, h, rfl, rfl⟩

theorem Keeps.holds {t t' : RunTable} (h : Keeps t t') {runId key sha256 : String}
    (hh : Holds t runId key sha256) : Holds t' runId key sha256 := by
  obtain ⟨run, hrun, hkey, hsha⟩ := hh
  obtain ⟨run', hrun', hkey', hsha'⟩ := h runId run hrun
  exact ⟨run', hrun', by rw [hkey', hkey], by rw [hsha', hsha]⟩

/-- A key has one run. -/
theorem holds_unique {t : RunTable} {a b key s s' : String} (ha : Holds t a key s)
    (hb : Holds t b key s') : a = b ∧ s = s' := by
  obtain ⟨run, hrun, hkey, hsha⟩ := ha
  obtain ⟨run', hrun', hkey', hsha'⟩ := hb
  have hab : a = b := t.keys a b run run' hrun hrun' (by rw [hkey]; rfl) (by rw [hkey, hkey'])
  subst hab
  rw [hrun] at hrun'
  rw [← Option.some.inj hrun', hsha] at hsha'
  exact ⟨rfl, Option.some.inj hsha'⟩

/-- The request has found no run with its key, and is about to read the active run. -/
def Phase.InWindow (phase : Phase) : Prop := phase = .readActive ∨ phase = .rereadActive

instance : DecidablePred Phase.InWindow := fun phase =>
  inferInstanceAs (Decidable (phase = .readActive ∨ phase = .rereadActive))

/-- What one step of a request can do. -/
structure Stepped (py : Runtime) (settings : StartSettings) (runs : RunTable) (c : Call)
    (runId : String) (now : Moment) (runs' : RunTable) (phase : Phase) : Prop where
  keeps : Keeps runs runs'
  /-- A new run is the run of this request. -/
  gains : ∀ key sha256, Matches runs' key sha256 → Matches runs key sha256 ∨
    (c.phase = .commit ∧ (runs.insert runId (newRun py settings c now)).isSome ∧
      key = c.idempotencyKey ∧ sha256 = requestSha256 py c.request)
  accepts : ∀ a, phase = .answered (.accepted a) → c.phase = .answered (.accepted a) ∨
    Holds runs' a c.idempotencyKey (requestSha256 py c.request)
  window : phase.InWindow → ¬ Matches runs' c.idempotencyKey (requestSha256 py c.request)
  conflict : ∀ response, phase = .answered response → response.isConflict = true →
    c.phase = .answered response ∨ c.phase.InWindow ∨
      ¬ Matches runs c.idempotencyKey (requestSha256 py c.request)

/-- A reading that found the run of the key answers by the body. -/
theorem stepped_of_existing {settings : StartSettings} {runs : RunTable} {c : Call} {runId : String}
    {now : Moment} {r : String × RequestedRun} (h : runs.existingForKey c.idempotencyKey = some r) :
    Stepped py settings runs c runId now runs
      (.answered (idempotentOrConflict r (requestSha256 py c.request))) := by
  obtain ⟨hrun, hkey⟩ := existingForKey_some h
  constructor
  · exact Keeps.refl runs
  · exact fun key sha256 hmatch => .inl hmatch
  · intro a ha
    rw [idempotentOrConflict, Phase.answered.injEq] at ha
    split at ha
    · exact absurd ha (by simp)
    · rename_i hsame
      rw [← Response.accepted.inj ha]
      exact .inr ⟨r.2, hrun, hkey, not_not.mp hsame⟩
  · exact fun hw => absurd hw (by simp [Phase.InWindow])
  · intro response hresponse hconflict
    rw [Phase.answered.injEq, idempotentOrConflict] at hresponse
    split at hresponse
    · rename_i hother
      refine .inr (.inr ?_)
      rintro ⟨b, run, hb, hbkey, hbsha⟩
      have hsame : b = r.1 := runs.keys b r.1 run r.2 hb hrun (by rw [hbkey]; rfl)
        (by rw [hbkey, hkey])
      rw [hsame, hrun] at hb
      rw [← Option.some.inj hb] at hbsha
      exact hother hbsha
    · rw [← hresponse] at hconflict
      exact absurd hconflict (by simp [Response.isConflict])

/-- A reading that found no run of the key goes on. -/
theorem stepped_of_free {settings : StartSettings} {runs : RunTable} {c : Call} {runId : String}
    {now : Moment} {phase : Phase} (h : runs.existingForKey c.idempotencyKey = none)
    (hphase : phase = .readActive ∨ phase = .rereadActive) :
    Stepped py settings runs c runId now runs phase := by
  have hne : ∀ response, phase ≠ .answered response := by
    rintro response rfl
    rcases hphase with h | h <;> exact absurd h (by simp)
  constructor
  · exact Keeps.refl runs
  · exact fun key sha256 hmatch => .inl hmatch
  · exact fun a ha => absurd ha (hne _)
  · rintro - ⟨b, run, hb, hbkey, -⟩
    exact existingForKey_none h hb hbkey
  · exact fun response hresponse => absurd hresponse (hne _)

/-- A step that leaves the runs alone and neither accepts, nor ends a reading of the key, nor
answers a conflict outside the window. -/
theorem stepped_of_quiet {settings : StartSettings} {runs : RunTable} {c : Call} {runId : String}
    {now : Moment} {phase : Phase}
    (haccepts : ∀ a, phase = .answered (.accepted a) → c.phase = .answered (.accepted a))
    (hwindow : ¬ phase.InWindow)
    (hconflict : ∀ response, phase = .answered response → response.isConflict = true →
      c.phase = .answered response ∨ c.phase.InWindow) :
    Stepped py settings runs c runId now runs phase where
  keeps := Keeps.refl runs
  gains _ _ hmatch := .inl hmatch
  accepts a ha := .inl (haccepts a ha)
  window hw := absurd hw hwindow
  conflict response hresponse hc := (hconflict response hresponse hc).imp_right .inl

/-- **What a step of a request can do.** -/
theorem step_stepped (settings : StartSettings) (runs : RunTable) (c : Call) (runId : String)
    (now : Moment) : Stepped py settings runs c runId now
      (c.step py settings runs runId now).1 (c.step py settings runs runId now).2 := by
  rw [Call.step]
  split
  · split
    · exact stepped_of_quiet (by simp) (by simp [Phase.InWindow]) (by simp [Response.isConflict])
    · split
      · rename_i existing hexisting
        exact stepped_of_existing hexisting
      · rename_i hfree
        exact stepped_of_free hfree (.inl rfl)
  · rename_i hphase
    split
    · exact stepped_of_quiet (by simp) (by simp [Phase.InWindow]) fun _ _ _ => .inr (.inl hphase)
    · exact stepped_of_quiet (by simp) (by simp [Phase.InWindow]) (by simp)
  · rename_i hphase
    split
    · rename_i runs' hinsert
      obtain ⟨hnew, hrows⟩ := insert_spec hinsert
      have hkept : ∀ b, b ≠ runId → runs'.rows.get? b = runs.rows.get? b := by
        intro b hb
        rw [hrows, Table.get?_set_of_ne _ _ hb]
      have hself : runs'.rows.get? runId = some (newRun py settings c now) := by
        rw [hrows, Table.get?_set_self]
      constructor
      · intro b run hb
        have hne : b ≠ runId := by
          rintro rfl
          rw [hnew] at hb
          exact absurd hb (by simp)
        exact ⟨run, by rw [hkept b hne, hb], rfl, rfl⟩
      · rintro key sha256 ⟨b, run, hb, hkey, hsha⟩
        by_cases hbn : b = runId
        · rw [hbn, hself] at hb
          rw [← Option.some.inj hb] at hkey hsha
          exact .inr ⟨hphase, by rw [hinsert]; rfl, (Option.some.inj hkey).symm,
            (Option.some.inj hsha).symm⟩
        · rw [hkept b hbn] at hb
          exact .inl ⟨b, run, hb, hkey, hsha⟩
      · intro a ha
        rw [Phase.answered.injEq, Response.accepted.injEq] at ha
        rw [← ha]
        exact .inr ⟨_, hself, rfl, rfl⟩
      · exact fun hw => absurd hw (by simp [Phase.InWindow])
      · intro response hresponse hconflict
        rw [Phase.answered.injEq] at hresponse
        rw [← hresponse] at hconflict
        exact absurd hconflict (by simp [Response.isConflict])
    · exact stepped_of_quiet (by simp) (by simp [Phase.InWindow]) (by simp)
  · split
    · rename_i raced hraced
      exact stepped_of_existing hraced
    · rename_i hfree
      exact stepped_of_free hfree (.inr rfl)
  · rename_i hphase
    split
    · exact stepped_of_quiet (by simp) (by simp [Phase.InWindow]) fun _ _ _ => .inr (.inr hphase)
    · exact stepped_of_quiet (by simp) (by simp [Phase.InWindow]) fun _ _ _ => .inr (.inr hphase)
  · rename_i response hphase
    exact stepped_of_quiet (fun a ha => hphase.trans ha) (by simp [Phase.InWindow])
      fun r hr _ => .inl (hphase.trans hr)

/-! ### What an event can do -/

theorem keeps_write {t t' : RunTable} {runId : String} {row : RequestedRun} {run : VerificationRun}
    (hrow : t.rows.get? runId = some row)
    (h : t.write runId { row with toVerificationRun := run } = some t') :
    Keeps t t' ∧ ∀ key sha256, Matches t' key sha256 → Matches t key sha256 := by
  have hrows := write_rows h
  constructor
  · intro b old hb
    by_cases hbn : b = runId
    · rw [hbn, hrow] at hb
      rw [← Option.some.inj hb, hbn, hrows, Table.get?_set_self]
      exact ⟨_, rfl, rfl, rfl⟩
    · exact ⟨old, by rw [hrows, Table.get?_set_of_ne _ _ hbn, hb], rfl, rfl⟩
  · rintro key sha256 ⟨b, old, hb, hkey, hsha⟩
    by_cases hbn : b = runId
    · rw [hbn, hrows, Table.get?_set_self] at hb
      rw [← Option.some.inj hb] at hkey hsha
      exact ⟨runId, row, hrow, hkey, hsha⟩
    · rw [hrows, Table.get?_set_of_ne _ _ hbn] at hb
      exact ⟨b, old, hb, hkey, hsha⟩

/-- The invariant of every run: a request that is accepted names the run of its key and body. -/
def World.Sound (py : Runtime) (w : World) : Prop :=
  ∀ c ∈ w.calls, ∀ a, c.phase = .answered (.accepted a) →
    Holds w.runs a c.idempotencyKey (requestSha256 py c.request)

/-- The invariant of the runs nobody disturbs: a request in its window has no run yet. -/
def World.Clear (py : Runtime) (w : World) : Prop :=
  ∀ c ∈ w.calls, c.phase.InWindow →
    ¬ Matches w.runs c.idempotencyKey (requestSha256 py c.request)

/-- A step that inserts a run finds no other request with its key and body in the window. -/
def Undisturbed (py : Runtime) (settings : StartSettings) (w : World) : Event → Prop
  | .step i runId now => ∀ c ∈ w.calls[i]?, c.phase = .commit →
    (w.runs.insert runId (newRun py settings c now)).isSome = true →
    ∀ other ∈ w.calls, other.phase.InWindow →
      ¬ (other.idempotencyKey = c.idempotencyKey ∧ other.request = c.request)
  | _ => True

instance (py : Runtime) (settings : StartSettings) (w : World) :
    DecidablePred (Undisturbed py settings w)
  | .arrive _ _ => isTrue trivial
  | .step i runId now => inferInstanceAs (Decidable (∀ c ∈ w.calls[i]?, c.phase = .commit →
      (w.runs.insert runId (newRun py settings c now)).isSome = true →
      ∀ other ∈ w.calls, other.phase.InWindow →
        ¬ (other.idempotencyKey = c.idempotencyKey ∧ other.request = c.request)))
  | .verifier _ _ => isTrue trivial

/-- A step of a request, as a change of the world. -/
theorem exec_step {settings : StartSettings} {w : World} {i : ℕ} {c : Call}
    (hc : w.calls[i]? = some c) (runId : String) (now : Moment) :
    exec py settings w (.step i runId now) = {
      runs := (c.step py settings w.runs runId now).1
      calls := w.calls.set i { c with phase := (c.step py settings w.runs runId now).2 } } := by
  rw [exec, hc]

theorem mem_calls_set {calls : List Call} {i : ℕ} {c d : Call} (hd : d ∈ calls.set i c) :
    d = c ∨ d ∈ calls := by
  rcases List.mem_or_eq_of_mem_set hd with h | h
  · exact .inr h
  · exact .inl h

theorem exec_sound {settings : StartSettings} {w : World} (e : Event) (h : w.Sound py) :
    (exec py settings w e).Sound py := by
  cases e with
  | arrive key request =>
    intro c hc a ha
    rcases List.mem_append.mp hc with hc | hc
    · exact h c hc a ha
    · rw [List.mem_singleton.mp hc] at ha
      exact absurd ha (by simp)
  | step i runId now =>
    cases hcall : w.calls[i]? with
    | none =>
      rw [exec, hcall]
      exact h
    | some c =>
      have hstep : Stepped py settings w.runs c runId now (c.step py settings w.runs runId now).1
          (c.step py settings w.runs runId now).2 := step_stepped settings w.runs c runId now
      rw [exec_step hcall]
      intro d hd a ha
      rcases mem_calls_set hd with rfl | hd
      · rcases hstep.accepts a ha with hbefore | hholds
        · exact hstep.keeps.holds (h c (List.mem_of_getElem? hcall) a hbefore)
        · exact hholds
      · exact hstep.keeps.holds (h d hd a ha)
  | verifier runId run =>
    rw [exec]
    split
    · exact h
    · rename_i row hrow
      split
      · exact h
      · rename_i runs hwrite
        exact fun c hc a ha => (keeps_write hrow hwrite).1.holds (h c hc a ha)

/-- The body of a request is determined by its hash. -/
theorem requestSha256_inj (hsha : Function.Injective py.sha256) {a b : VerifyRequest}
    (h : requestSha256 py a = requestSha256 py b) : a = b := by
  have htext : dumps .ascii a.toJson = dumps .ascii b.toJson := by
    have hpy : ∀ r : VerifyRequest, dumps py r.toJson = dumps .ascii r.toJson := by
      rintro ⟨limit, useOcr⟩
      cases limit <;> rfl
    rw [← hpy, ← hpy]
    exact hsha h
  have hcanon := dumps_inj floatText_ascii htext
  have hkeys : ∀ r : VerifyRequest, ∃ kvs, r.toJson = .obj kvs ∧ (Assoc.keys kvs).Nodup ∧
      Assoc.get? "limit" kvs = some (r.limit.elim .null fun n => .int n.1) ∧
      Assoc.get? "use_ocr" kvs = some (.bool r.useOcr) := by
    rintro ⟨limit, useOcr⟩
    have hnodup : ["limit", "use_ocr", "confirm_calibre_stopped"].Nodup := by decide
    cases limit <;> exact ⟨_, rfl, hnodup, rfl, rfl⟩
  obtain ⟨kvs, hobj, hnodup, hlimit, hocr⟩ := hkeys a
  obtain ⟨kvs', hobj', -, hlimit', hocr'⟩ := hkeys b
  rw [hobj, hobj'] at hcanon
  have hl := Json.get?_of_canon_eq hnodup hcanon "limit"
  have ho := Json.get?_of_canon_eq hnodup hcanon "use_ocr"
  rw [hlimit, hlimit'] at hl
  rw [hocr, hocr'] at ho
  obtain ⟨la, oa⟩ := a
  obtain ⟨lb, ob⟩ := b
  have hlimits : la = lb := by
    cases la <;> cases lb <;> simp_all [Json.canon]
    exact Subtype.ext (by exact_mod_cast hl)
  have hocrs : oa = ob := by simpa [Json.canon] using ho
  rw [hlimits, hocrs]

theorem exec_clear (hsha : Function.Injective py.sha256) {settings : StartSettings} {w : World}
    (e : Event) (hok : Undisturbed py settings w e) (h : w.Clear py) :
    (exec py settings w e).Clear py := by
  cases e with
  | arrive key request =>
    intro c hc hw
    rcases List.mem_append.mp hc with hc | hc
    · exact h c hc hw
    · rw [List.mem_singleton.mp hc] at hw
      exact absurd hw (by simp [Phase.InWindow])
  | step i runId now =>
    cases hcall : w.calls[i]? with
    | none =>
      rw [exec, hcall]
      exact h
    | some c =>
      have hstep : Stepped py settings w.runs c runId now (c.step py settings w.runs runId now).1
          (c.step py settings w.runs runId now).2 := step_stepped settings w.runs c runId now
      rw [exec_step hcall]
      intro d hd hw hmatch
      rcases mem_calls_set hd with rfl | hd
      · exact hstep.window hw hmatch
      · rcases hstep.gains _ _ hmatch with hold | ⟨hphase, hinsert, hkey, hbody⟩
        · exact h d hd hw hold
        · exact hok c hcall hphase hinsert d hd hw ⟨hkey, requestSha256_inj hsha hbody⟩
  | verifier runId run =>
    rw [exec]
    split
    · exact h
    · rename_i row hrow
      split
      · exact h
      · rename_i runs hwrite
        exact fun c hc hw hmatch => h c hc hw ((keeps_write hrow hwrite).2 _ _ hmatch)

/-- The step answers a conflict to a request whose key and body a run has. -/
def ConflictOf (py : Runtime) (settings : StartSettings) (w : World) (i : ℕ) (runId : String)
    (now : Moment) : Prop :=
  ∃ c response, w.calls[i]? = some c ∧ c.phase ≠ .answered response ∧
    (c.step py settings w.runs runId now).2 = .answered response ∧ response.isConflict = true ∧
    Matches w.runs c.idempotencyKey (requestSha256 py c.request)

/-- The world before the first request: any runs under the constraints. -/
def World.before (runs : RunTable) : World := { runs }

theorem run_sound (settings : StartSettings) (runs : RunTable) (es : List Event) :
    (Runs.run (exec py settings) (World.before runs) es).Sound py := by
  refine Runs.invariant (World.Sound py) (fun _ e h => exec_sound e h) ?_ es
  exact fun c hc => absurd hc List.not_mem_nil

/-- **A start is idempotent.** For every table of runs and every interleaving of requests, their
steps and the verifier: a key has at most one run and a source at most one active run; two accepted
requests with one key and body name the same run; a request whose key has a run with another body is
not accepted, so of two requests with one key and two bodies at most one is. And in a run in which
no request commits while another one with its key and body is between its two readings, no request
that has a run is answered a conflict. -/
theorem start_idempotent (py : Runtime) (hsha : Function.Injective py.sha256)
    (settings : StartSettings) (runs : RunTable) (es : List Event) (w : World)
    (hw : w = Runs.run (exec py settings) (World.before runs) es) :
    (∀ a b run run' key, w.runs.rows.get? a = some run → w.runs.rows.get? b = some run' →
      run.idempotencyKey = some key → run'.idempotencyKey = some key → a = b) ∧
    (∀ a b run run' source, w.runs.rows.get? a = some run → w.runs.rows.get? b = some run' →
      run.activeSource = some source → run'.activeSource = some source → a = b) ∧
    (∀ c ∈ w.calls, ∀ d ∈ w.calls, ∀ a b, c.phase = .answered (.accepted a) →
      d.phase = .answered (.accepted b) → c.idempotencyKey = d.idempotencyKey →
      a = b ∧ c.request = d.request) ∧
    (∀ c ∈ w.calls, ∀ a b sha256, c.phase = .answered (.accepted a) →
      Holds w.runs b c.idempotencyKey sha256 → sha256 = requestSha256 py c.request) ∧
    (Runs.Meets (exec py settings) (Undisturbed py settings) (World.before runs) es →
      ∀ i runId now, ¬ ConflictOf py settings w i runId now) := by
  have hsound : w.Sound py := hw ▸ run_sound settings runs es
  refine ⟨?_, ?_, ?_, ?_, ?_⟩
  · intro a b run run' key ha hb hkey hkey'
    exact w.runs.keys a b run run' ha hb (by rw [hkey]; rfl) (by rw [hkey, hkey'])
  · intro a b run run' source ha hb hactive hactive'
    exact w.runs.active a b run run' ha hb (by rw [hactive]; rfl) (by rw [hactive, hactive'])
  · intro c hc d hd a b ha hb hkey
    have hholds := hsound d hd b hb
    rw [← hkey] at hholds
    obtain ⟨hab, hbody⟩ := holds_unique (hsound c hc a ha) hholds
    exact ⟨hab, requestSha256_inj hsha hbody⟩
  · intro c hc a b sha256 ha hb
    exact (holds_unique hb (hsound c hc a ha)).2
  · rintro hmeets i runId now ⟨c, response, hc, hopen, hresponse, hconflict, hmatch⟩
    have hclear : w.Clear py := by
      rw [hw]
      exact Runs.Meets.invariant (World.Clear py) (fun _ e hok h => exec_clear hsha e hok h) hmeets
        fun c hc => absurd hc List.not_mem_nil
    rcases (step_stepped settings w.runs c runId now).conflict response hresponse hconflict with
      hbefore | hwindow | hfree
    · exact hopen hbefore
    · exact hclear c (List.mem_of_getElem? hc) hwindow hmatch
    · exact hfree hmatch

/-! ### The window -/

theorem earliest_isSome {l : List (String × VerificationRun)} (h : l ≠ []) :
    (earliest l).isSome = true := by
  cases l with
  | nil => exact absurd rfl h
  | cons r rest =>
    rw [earliest]
    split
    · rfl
    · split <;> rfl

/-- An active run of the source is found. -/
theorem activeForSource_isSome {t : RunTable} {runId source : String} {run : RequestedRun}
    (hrun : t.rows.get? runId = some run) (hactive : run.activeSource = some source) :
    (t.activeForSource source).isSome = true := by
  refine earliest_isSome fun hnil => ?_
  have hmem : (runId, run) ∈ t.rows.rows.filter fun r => r.2.activeSource = some source :=
    List.mem_filter.mpr ⟨Table.mem_rows_iff.mpr hrun, decide_eq_true hactive⟩
  rw [List.map_eq_nil_iff.mp hnil] at hmem
  exact absurd hmem List.not_mem_nil

/-- A request in the window that finds an active run answers that it exists. -/
theorem step_of_window {settings : StartSettings} {runs : RunTable} {c : Call}
    (hc : c.phase.InWindow) {active : String × VerificationRun}
    (hactive : runs.activeForSource (settings.sourceRootSha256 py) = some active) (runId : String)
    (now : Moment) :
    (c.step py settings runs runId now).2 = .answered (.activeRunExists active.1) := by
  rcases hc with hc | hc <;> rw [Call.step, hc] <;> simp only [hactive]

/-- **The window is needed.** When a request commits while another one with its key and body is in
the window, the next step of the other one, if it comes at once, answers it a conflict. -/
theorem disturbed_conflict {settings : StartSettings} {w : World} {i j : ℕ} {runId : String}
    {now : Moment} {c other : Call} (hc : w.calls[i]? = some c) (hphase : c.phase = .commit)
    (hinsert : (w.runs.insert runId (newRun py settings c now)).isSome)
    (hother : w.calls[j]? = some other) (hwindow : other.phase.InWindow)
    (hkey : other.idempotencyKey = c.idempotencyKey) (hbody : other.request = c.request)
    (runId' : String) (now' : Moment) :
    ConflictOf py settings (exec py settings w (.step i runId now)) j runId' now' := by
  obtain ⟨runs', hinsert⟩ := Option.isSome_iff_exists.mp hinsert
  have hself : runs'.rows.get? runId = some (newRun py settings c now) := by
    rw [(insert_spec hinsert).2, Table.get?_set_self]
  have hactive : (newRun py settings c now).activeSource = some (settings.sourceRootSha256 py) := rfl
  obtain ⟨active, hfound⟩ := Option.isSome_iff_exists.mp (activeForSource_isSome hself hactive)
  have hruns : (exec py settings w (.step i runId now)).runs = runs' := by
    rw [exec_step hc, Call.step, hphase]
    simp only [hinsert]
  have hne : i ≠ j := by
    rintro rfl
    rw [hc] at hother
    rw [← Option.some.inj hother, hphase] at hwindow
    exact absurd hwindow (by simp [Phase.InWindow])
  have hcalls : (exec py settings w (.step i runId now)).calls[j]? = some other := by
    rw [exec_step hc]
    show (w.calls.set i _)[j]? = some other
    rw [List.getElem?_set_ne hne, hother]
  refine ⟨other, .activeRunExists active.1, hcalls, ?_, ?_, rfl, ?_⟩
  · intro hanswered
    rw [hanswered] at hwindow
    exact absurd hwindow (by simp [Phase.InWindow])
  · rw [hruns]
    exact step_of_window hwindow hfound runId' now'
  · rw [hruns, hkey, hbody]
    exact ⟨runId, _, hself, rfl, rfl⟩

/-! ### Twins -/

/-- No runs. -/
def noRuns : RunTable := ⟨.empty, Table.unique_empty _, Table.unique_empty _⟩

/-- Settings without errors. -/
def twinSettings : StartSettings := ⟨[], "/library"⟩

/-- A request arrives twice with one key. -/
def twinArrivals : List Event :=
  [.arrive "verify-library-1" {}, .arrive "verify-library-1" {}]

/-- The first request is answered before the second one reads. -/
def orderedEvents : List Event :=
  twinArrivals ++ [.step 0 "" 0, .step 0 "" 0, .step 0 "verify_1" 0, .step 1 "" 0]

/-- The second request has read the key, and the first one is about to commit. -/
def windowEvents : List Event :=
  twinArrivals ++ [.step 1 "" 0, .step 0 "" 0, .step 0 "" 0]

/-- The first request commits. -/
def twinEvents : List Event := windowEvents ++ [.step 0 "verify_1" 0]

/-- In order, both requests are accepted with one run. -/
theorem start_idempotent_ordered :
    let w := Runs.run (exec .ascii twinSettings) (World.before noRuns) orderedEvents
    (w.calls.map (·.phase) = [.answered (.accepted "verify_1"), .answered (.accepted "verify_1")]) ∧
      ∀ i runId now, ¬ ConflictOf .ascii twinSettings w i runId now := by
  have hmeets : Runs.Meets (exec .ascii twinSettings) (Undisturbed .ascii twinSettings)
      (World.before noRuns) orderedEvents := by decide +kernel
  have hidempotent := start_idempotent .ascii (fun _ _ h => h) twinSettings noRuns orderedEvents _ rfl
  exact ⟨by decide +kernel, hidempotent.2.2.2.2 hmeets⟩

/-- **Refused by its own run.** The first request is accepted while the second one, with the same
key and body, is between its two readings; the second one is then answered that a run is active. -/
theorem twin_refused :
    let w := Runs.run (exec .ascii twinSettings) (World.before noRuns) twinEvents
    w.calls.map (·.phase) = [.answered (.accepted "verify_1"), .readActive] ∧
      (exec .ascii twinSettings w (.step 1 "" 0)).calls.map (·.phase)
        = [.answered (.accepted "verify_1"), .answered (.activeRunExists "verify_1")] ∧
      ConflictOf .ascii twinSettings w 1 "" 0 := by
  have hwindow : (Runs.run (exec .ascii twinSettings) (World.before noRuns) windowEvents).calls
      = [⟨"verify-library-1", {}, .commit⟩, ⟨"verify-library-1", {}, .readActive⟩] := by
    decide +kernel
  have hinsert : ((Runs.run (exec .ascii twinSettings) (World.before noRuns) windowEvents).runs.insert
      "verify_1" (newRun .ascii twinSettings ⟨"verify-library-1", {}, .commit⟩ 0)).isSome = true := by
    decide +kernel
  refine ⟨by decide +kernel, by decide +kernel, ?_⟩
  have hfirst : (Runs.run (exec .ascii twinSettings) (World.before noRuns) windowEvents).calls[0]?
      = some ⟨"verify-library-1", {}, .commit⟩ := by rw [hwindow]; rfl
  have hsecond : (Runs.run (exec .ascii twinSettings) (World.before noRuns) windowEvents).calls[1]?
      = some ⟨"verify-library-1", {}, .readActive⟩ := by rw [hwindow]; rfl
  rw [twinEvents, Runs.run_append]
  exact disturbed_conflict hfirst rfl hinsert hsecond (.inl rfl) rfl rfl "" 0

end Start

end CertificateA

end Bookwarden
