import Bookwarden.Queue.Jobs

/-!
# Lost updates of a job record

An `update_job` writes back the whole record it has read. When the fields it does not change are
still what it read, the write is the update of the current record; otherwise it takes them back to
what they were, and what another update wrote there is lost, be it the final status of the job.

## Main definitions

* `written` — the record after a list of updates, one after the other
* `World.Kept` — the record shows every update, and the final one to the end
* `Fresh` — a write takes no field back

## Main results

* `exec_did` — what an event can do to a record that is there
* `kept_step_iff` — one event keeps the record right exactly when it is fresh
* `kept_iff` — so does a run
* `finished_job_reopened` — a run in which a finished job is running again
-/

namespace Bookwarden

namespace Queue

/-- The record after these updates, one after the other. -/
def written (record : Dict) (log : List Dict) : Dict := log.foldl Assoc.update record

theorem written_append (record : Dict) (log : List Dict) (updates : Dict) :
    written record (log ++ [updates]) = Assoc.update (written record log) updates := by
  rw [written, List.foldl_append]
  rfl

/-- The fields the final update is about. -/
def statusFields : List String := ["status", "result", "error"]

/-- Until it expires, the record has the value of the last update of every field, and after the
final update has returned the status, the result and the error of that update. -/
def World.Kept (queued : Dict) (w : World) : Prop :=
  w.expired = true ∨ ∃ record, w.store = some record ∧
    (∀ field, field ≠ "updated_at" →
      Assoc.get? field record.data = Assoc.get? field (written queued w.log)) ∧
    ∀ outcome, w.main = .returned outcome → ∀ field ∈ statusFields,
      Assoc.get? field record.data = Assoc.get? field (Assoc.update queued outcome.updates)

/-- The write an event makes: what it read, and its updates. -/
def World.pending (w : World) : Event → Option (Dict × Dict)
  | .main _ => match w.main.current with
    | some (updates, .set read _) => some (read, updates)
    | _ => none
  | .task i _ => match w.tasks[i]? with
    | some ⟨current, total, some (.set read _)⟩ => some (read, progressUpdate current total)
    | _ => none
  | _ => none

/-- No field that the write leaves alone has changed since it was read. -/
def Fresh (w : World) (e : Event) : Prop :=
  w.expired = true ∨ ∀ read updates, w.pending e = some (read, updates) →
    ∀ record, w.store = some record → ∀ field, field ∉ Assoc.keys updates →
      field ≠ "updated_at" → Assoc.get? field read = Assoc.get? field record.data

/-! ### What an event can do -/

/-- The updates the job itself has written. -/
def Main.writes : Main → List Dict
  | .starting _ => []
  | .executing | .finishing _ _ => [runningUpdate]
  | .returned outcome => [runningUpdate, outcome.updates]
  | .raised => []

/-- What an event does to a record that is there: it expires, it stays, or a whole record is
written. -/
inductive Did (w : World) (e : Event) (w' : World) : Prop
  | expired (h : w'.expired = true) (hpending : w.pending e = none)
  | stayed (hexpired : w'.expired = w.expired) (hpending : w.pending e = none)
      (hstore : w'.store = w.store) (hlog : w'.log = w.log)
      (hmain : w'.main = .raised ∨ w'.main.writes = w.main.writes ∧
        (w.main = .raised → w'.main = .raised))
  | wrote (read updates : Dict) (now : String) (hexpired : w'.expired = w.expired)
      (hpending : w.pending e = some (read, updates))
      (hstore : ∃ expires, w'.store = some ⟨applyUpdate read updates now, expires⟩)
      (hlog : w'.log = w.log ++ [updates]) (hkeys : (Assoc.keys updates).Nodup)
      (hstamp : "updated_at" ∉ Assoc.keys updates)
      (hmain : w'.main = w.main ∧ (∀ field ∈ statusFields, field ∉ Assoc.keys updates) ∨
        w.main ≠ .raised ∧ w'.main.writes = w.main.writes ++ [updates])

theorem Outcome.updates_keys (outcome : Outcome) : (Assoc.keys outcome.updates).Nodup ∧
    "updated_at" ∉ Assoc.keys outcome.updates := by
  cases outcome with
  | completed result =>
    show ["status", "result"].Nodup ∧ "updated_at" ∉ ["status", "result"]
    decide
  | failed error =>
    show ["status", "error"].Nodup ∧ "updated_at" ∉ ["status", "error"]
    decide

theorem progressUpdate_keys (current total : ℤ) :
    Assoc.keys (progressUpdate current total) = ["progress", "total"] := rfl

/-- The record is there and has fields. -/
def World.Present (w : World) : Prop := ∃ record, w.store = some record ∧ record.data ≠ []

theorem runUpdate_get {w : World} (h : w.Present) (updates : Dict) (now : String) :
    ∃ record, runUpdate w.store updates now .get
      = { store := w.store, next := some (.set record now) } := by
  obtain ⟨record, hstore, hdata⟩ := h
  refine ⟨record.data, ?_⟩
  simp only [runUpdate, hstore, hdata, if_false]

theorem did_nothing (w : World) (e : Event) (hpending : w.pending e = none) : Did w e w :=
  .stayed rfl hpending rfl rfl (.inr ⟨rfl, id⟩)

theorem main_did {w : World} (h : w.Present) (now : String) :
    Did w (.main now) (exec w (.main now)) := by
  cases hmain : w.main with
  | starting phase =>
    cases phase with
    | get =>
      obtain ⟨record, hget⟩ := runUpdate_get h runningUpdate now
      have hexec : exec w (.main now) = { w with main := .starting (.set record now) } := by
        simp only [exec, hmain, Main.current, hget, Main.advance, List.append_nil]
      rw [hexec]
      exact .stayed rfl (by simp [World.pending, hmain, Main.current]) rfl rfl
        (.inr ⟨by rw [hmain]; rfl, by simp [hmain]⟩)
    | set read at_ =>
      have hexec : exec w (.main now) = { w with
          store := (runUpdate w.store runningUpdate now (.set read at_)).store
          main := .executing
          log := w.log ++ [runningUpdate] } := by
        simp only [exec, hmain, Main.current, runUpdate, Main.advance]
      rw [hexec]
      exact .wrote read runningUpdate at_ rfl (by simp [World.pending, hmain, Main.current])
        ⟨_, rfl⟩ rfl (by decide) (by decide) (.inr ⟨by simp [hmain], by rw [hmain]; rfl⟩)
  | finishing outcome phase =>
    cases phase with
    | get =>
      obtain ⟨record, hget⟩ := runUpdate_get h outcome.updates now
      have hexec : exec w (.main now) = { w with main := .finishing outcome (.set record now) } := by
        simp only [exec, hmain, Main.current, hget, Main.advance, List.append_nil]
      rw [hexec]
      exact .stayed rfl (by simp [World.pending, hmain, Main.current]) rfl rfl
        (.inr ⟨by rw [hmain]; rfl, by simp [hmain]⟩)
    | set read at_ =>
      have hexec : exec w (.main now) = { w with
          store := (runUpdate w.store outcome.updates now (.set read at_)).store
          main := .returned outcome
          log := w.log ++ [outcome.updates] } := by
        simp only [exec, hmain, Main.current, runUpdate, Main.advance]
      rw [hexec]
      exact .wrote read outcome.updates at_ rfl (by simp [World.pending, hmain, Main.current])
        ⟨_, rfl⟩ rfl outcome.updates_keys.1 outcome.updates_keys.2
        (.inr ⟨by simp [hmain], by rw [hmain]; rfl⟩)
  | executing | returned outcome | raised =>
    have hexec : exec w (.main now) = w := by
      simp only [exec, hmain, Main.current]
    rw [hexec]
    exact did_nothing w _ (by simp [World.pending, hmain, Main.current])

theorem task_did {w : World} (h : w.Present) (i : ℕ) (now : String) :
    Did w (.task i now) (exec w (.task i now)) := by
  cases htask : w.tasks[i]? with
  | none =>
    have hexec : exec w (.task i now) = w := by simp only [exec, htask]
    rw [hexec]
    exact did_nothing w _ (by simp [World.pending, htask])
  | some t =>
    obtain ⟨current, total, phase⟩ := t
    cases phase with
    | none =>
      have hexec : exec w (.task i now) = w := by simp only [exec, htask]
      rw [hexec]
      exact did_nothing w _ (by simp [World.pending, htask])
    | some phase =>
      cases phase with
      | get =>
        obtain ⟨record, hget⟩ := runUpdate_get h (progressUpdate current total) now
        have hexec : exec w (.task i now) = { w with
            tasks := w.tasks.set i ⟨current, total, some (.set record now)⟩ } := by
          simp only [exec, htask, hget, List.append_nil]
        rw [hexec]
        exact .stayed rfl (by simp [World.pending, htask]) rfl rfl (.inr ⟨rfl, id⟩)
      | set read at_ =>
        have hexec : exec w (.task i now) = { w with
            store := (runUpdate w.store (progressUpdate current total) now (.set read at_)).store
            tasks := w.tasks.set i ⟨current, total, none⟩
            log := w.log ++ [progressUpdate current total] } := by
          simp only [exec, htask, runUpdate]
        rw [hexec]
        refine .wrote read (progressUpdate current total) at_ rfl (by simp [World.pending, htask])
          ⟨_, rfl⟩ rfl ?_ ?_ (.inl ⟨rfl, ?_⟩)
        all_goals
          rw [progressUpdate_keys]
          decide

/-- **What an event can do.** -/
theorem exec_did {w : World} (h : w.Present) (e : Event) : Did w e (exec w e) := by
  cases e with
  | main now => exact main_did h now
  | task i now => exact task_did h i now
  | mainRaises error =>
    rw [exec]
    split
    · exact did_nothing w _ rfl
    · rename_i current hcurrent
      refine .stayed rfl rfl rfl rfl ?_
      show (w.main.raise error) = .raised ∨ (w.main.raise error).writes = w.main.writes ∧ _
      cases hmain : w.main with
      | finishing outcome phase =>
        cases outcome with
        | completed result => exact .inr ⟨rfl, by simp⟩
        | failed message => exact .inl rfl
      | starting phase => exact .inl rfl
      | executing | returned outcome | raised => exact .inl rfl
  | progress current total =>
    rw [exec]
    split
    · exact .stayed rfl rfl rfl rfl (.inr ⟨rfl, id⟩)
    · exact did_nothing w _ rfl
  | finish outcome =>
    rw [exec]
    split
    · rename_i hmain
      exact .stayed rfl rfl rfl rfl (.inr ⟨by rw [hmain]; rfl, by simp [hmain]⟩)
    · exact did_nothing w _ rfl
  | taskRaises i =>
    rw [exec]
    split
    · exact .stayed rfl rfl rfl rfl (.inr ⟨rfl, id⟩)
    · exact did_nothing w _ rfl
  | expire =>
    rw [exec]
    split
    · exact .expired rfl rfl
    · exact did_nothing w _ rfl

/-! ### One event -/

/-- The invariant: the record is there, and the log gives the final fields the values the job itself
has written. -/
structure World.Lawful (queued : Dict) (w : World) : Prop where
  present : w.Present
  log : w.main ≠ .raised → ∀ field ∈ statusFields,
    Assoc.get? field (written queued w.log) = Assoc.get? field (written queued w.main.writes)

theorem get?_applyUpdate {read updates : Dict} {now : String} {field : String}
    (hkeys : (Assoc.keys updates).Nodup) (hfield : field ≠ "updated_at") :
    Assoc.get? field (applyUpdate read updates now)
      = (Assoc.get? field updates).or (Assoc.get? field read) := by
  rw [applyUpdate, Assoc.get?_set, if_neg hfield, Assoc.get?_update hkeys]

theorem applyUpdate_ne_nil (read updates : Dict) (now : String) :
    applyUpdate read updates now ≠ [] := by
  intro h
  have hstamp : Assoc.get? "updated_at" (applyUpdate read updates now) = some (.str now) := by
    rw [applyUpdate, Assoc.get?_set, if_pos rfl]
  rw [h] at hstamp
  cases hstamp

theorem Did.lawful {queued : Dict} {w w' : World} {e : Event} (hd : Did w e w')
    (h : w.Lawful queued) : w'.expired = true ∨ w'.Lawful queued := by
  cases hd with
  | expired hexpired _ => exact .inl hexpired
  | stayed _ _ hstore hlog hmain =>
    refine .inr ⟨?_, fun hraised field hfield => ?_⟩
    · rw [World.Present, hstore]
      exact h.present
    · rcases hmain with hmain | ⟨hwrites, hkept⟩
      · exact absurd hmain hraised
      · rw [hlog, hwrites]
        exact h.log (fun hm => hraised (hkept hm)) field hfield
  | wrote read updates now _ _ hstore hlog hkeys hstamp hmain =>
    obtain ⟨expires, hstore⟩ := hstore
    refine .inr ⟨⟨_, hstore, applyUpdate_ne_nil read updates now⟩, fun hraised field hfield => ?_⟩
    rw [hlog, written_append]
    rcases hmain with ⟨hmain, hother⟩ | ⟨hmain, hwrites⟩
    · -- a progress update does not touch the final fields
      rw [hmain] at hraised ⊢
      rw [Assoc.get?_update_of_notMem (hother field hfield)]
      exact h.log hraised field hfield
    · rw [hwrites, written_append, Assoc.get?_update hkeys, Assoc.get?_update hkeys,
        h.log hmain field hfield]

/-- Every field but the stamp has the value of the log. -/
def World.Faithful (queued : Dict) (w : World) : Prop :=
  ∃ record, w.store = some record ∧ ∀ field, field ≠ "updated_at" →
    Assoc.get? field record.data = Assoc.get? field (written queued w.log)

/-- What the log says about the final fields after the final update. -/
theorem written_returned {queued : Dict} (outcome : Outcome) {field : String}
    (hfield : field ∈ statusFields) :
    Assoc.get? field (written queued (Main.returned outcome).writes)
      = Assoc.get? field (Assoc.update queued outcome.updates) := by
  have hrunning : (Assoc.keys runningUpdate).Nodup := by decide
  show Assoc.get? field (Assoc.update (Assoc.update queued runningUpdate) outcome.updates) = _
  rw [Assoc.get?_update outcome.updates_keys.1, Assoc.get?_update outcome.updates_keys.1,
    Assoc.get?_update hrunning]
  by_cases hstatus : field = "status"
  · rw [hstatus]
    cases outcome <;> rfl
  · have hnone : Assoc.get? field runningUpdate = none := by
      rw [Assoc.get?_eq_none_iff]
      show field ∉ ["status"]
      rw [List.mem_singleton]
      exact hstatus
    rw [hnone, Option.none_or]

theorem kept_iff_faithful {queued : Dict} {w : World} (hexpired : w.expired ≠ true)
    (h : w.Lawful queued) : w.Kept queued ↔ w.Faithful queued := by
  constructor
  · rintro (hexp | ⟨record, hstore, hfields, -⟩)
    · exact absurd hexp hexpired
    · exact ⟨record, hstore, hfields⟩
  · rintro ⟨record, hstore, hfields⟩
    refine .inr ⟨record, hstore, hfields, fun outcome hmain field hfield => ?_⟩
    have hstamp : field ≠ "updated_at" := by
      rintro rfl
      exact absurd hfield (by decide)
    have hlog := h.log (by rw [hmain]; simp) field hfield
    rw [hfields field hstamp, hlog, hmain, written_returned outcome hfield]

/-- A write keeps the record right exactly when it takes no field back. -/
theorem faithful_wrote_iff {queued : Dict} {w w' : World} {read updates : Dict} {now : String}
    {expires : Bool} {record : Record} (hrecord : w.store = some record)
    (hfields : ∀ field, field ≠ "updated_at" →
      Assoc.get? field record.data = Assoc.get? field (written queued w.log))
    (hstore : w'.store = some ⟨applyUpdate read updates now, expires⟩)
    (hlog : w'.log = w.log ++ [updates]) (hkeys : (Assoc.keys updates).Nodup) :
    w'.Faithful queued ↔ ∀ field, field ∉ Assoc.keys updates → field ≠ "updated_at" →
      Assoc.get? field read = Assoc.get? field record.data := by
  have hafter : ∀ field, field ≠ "updated_at" →
      Assoc.get? field (applyUpdate read updates now)
        = (Assoc.get? field updates).or (Assoc.get? field read) :=
    fun field hfield => get?_applyUpdate hkeys hfield
  constructor
  · rintro ⟨record', hstore', hfaithful⟩ field hother hfield
    rw [hstore, Option.some.injEq] at hstore'
    have hvalue := hfaithful field hfield
    rw [← hstore'] at hvalue
    rw [hafter field hfield, hlog, written_append, Assoc.get?_update hkeys,
      Assoc.get?_eq_none_iff.mpr hother, Option.none_or, Option.none_or] at hvalue
    rw [hvalue, hfields field hfield]
  · intro hfresh
    refine ⟨_, hstore, fun field hfield => ?_⟩
    rw [hafter field hfield, hlog, written_append, Assoc.get?_update hkeys, ← hfields field hfield]
    by_cases hother : field ∈ Assoc.keys updates
    · obtain ⟨v, hv⟩ := Assoc.mem_keys_iff.mp hother
      rw [hv, Option.some_or, Option.some_or]
    · rw [hfresh field hother hfield]

/-- **One event.** It keeps the record right exactly when it is fresh. -/
theorem kept_step_iff {queued : Dict} {w : World} (hexpired : w.expired ≠ true)
    (h : w.Lawful queued) (hkept : w.Kept queued) (e : Event) :
    (exec w e).Kept queued ↔ Fresh w e := by
  obtain ⟨record, hrecord, hfields⟩ := (kept_iff_faithful hexpired h).mp hkept
  have hd := exec_did h.present e
  have hquiet : w.pending e = none → Fresh w e := by
    intro hnone
    refine .inr fun read updates hpending => ?_
    rw [hnone] at hpending
    cases hpending
  rcases hd.lawful h with hgone | hlawful
  · refine iff_of_true (.inl hgone) ?_
    cases hd with
    | expired _ hpending => exact hquiet hpending
    | stayed hexp _ _ _ _ => exact absurd (hexp.symm.trans hgone) hexpired
    | wrote _ _ _ hexp _ _ _ _ _ _ => exact absurd (hexp.symm.trans hgone) hexpired
  · cases hd with
    | expired hgone hpending => exact iff_of_true (.inl hgone) (hquiet hpending)
    | stayed hexp hpending hstore hlog _ =>
      refine iff_of_true ((kept_iff_faithful (hexp ▸ hexpired) hlawful).mpr ?_) (hquiet hpending)
      refine ⟨record, by rw [hstore, hrecord], fun field hfield => ?_⟩
      rw [hlog]
      exact hfields field hfield
    | wrote read updates now hexp hpending hstore hlog hkeys _ _ =>
      obtain ⟨expires, hstore⟩ := hstore
      rw [kept_iff_faithful (hexp ▸ hexpired) hlawful,
        faithful_wrote_iff hrecord hfields hstore hlog hkeys]
      constructor
      · intro hfresh
        refine .inr fun read' updates' hpending' record' hrecord' => ?_
        rw [hpending, Option.some.injEq, Prod.mk.injEq] at hpending'
        rw [hrecord, Option.some.injEq] at hrecord'
        rw [← hpending'.1, ← hpending'.2, ← hrecord']
        exact hfresh
      · rintro (hgone | hfresh)
        · exact absurd hgone hexpired
        · exact hfresh read updates hpending record hrecord

/-! ### Runs -/

theorem exec_expired {w : World} (h : w.expired = true) (e : Event) : (exec w e).expired = true := by
  cases e with
  | main now | mainRaises error | progress current total | finish outcome | task i now
  | taskRaises i | expire =>
    rw [exec]
    split
    all_goals first | exact h | rfl

theorem kept_run_iff {queued : Dict} {w : World} (h : w.expired = true ∨ w.Lawful queued)
    (hkept : w.Kept queued) (es : List Event) :
    (∀ es₁ es₂, es = es₁ ++ es₂ → (Runs.run exec w es₁).Kept queued) ↔
      Runs.Meets exec Fresh w es := by
  induction es generalizing w with
  | nil =>
    refine iff_of_true (fun es₁ es₂ heq => ?_) trivial
    rw [(List.append_eq_nil_iff.mp heq.symm).1]
    exact hkept
  | cons e es ih =>
    have hstep : (exec w e).Kept queued ↔ Fresh w e := by
      by_cases hexpired : w.expired = true
      · exact iff_of_true (.inl (exec_expired hexpired e)) (.inl hexpired)
      · exact kept_step_iff hexpired (h.resolve_left hexpired) hkept e
    have hnext : (exec w e).expired = true ∨ (exec w e).Lawful queued := by
      rcases h with hexpired | hlawful
      · exact .inl (exec_expired hexpired e)
      · exact (exec_did hlawful.present e).lawful hlawful
    constructor
    · intro hall
      have hfirst : (exec w e).Kept queued := hall [e] es rfl
      refine ⟨hstep.mp hfirst, (ih hnext hfirst).mp fun es₁ es₂ heq => ?_⟩
      exact hall (e :: es₁) es₂ (by rw [heq, List.cons_append])
    · rintro ⟨hfresh, hmeets⟩ es₁ es₂ heq
      cases es₁ with
      | nil => exact hkept
      | cons e' es₁ =>
        rw [List.cons_append, List.cons.injEq] at heq
        rw [← heq.1]
        exact (ih hnext (hstep.mpr hfresh)).mpr hmeets es₁ es₂ heq.2

/-- **The record of a job.** In every state of a run, up to its expiry, the record has the value of
the last update of every field, and after the final update has returned it keeps the status, the
result and the error of that update, exactly when no write of the run takes a field back that it
does not itself update. -/
theorem kept_iff (jobId task : String) (payload : Json) (now : String) (es : List Event) :
    (∀ es₁ es₂, es = es₁ ++ es₂ → (Runs.run exec (World.queued jobId task payload now) es₁).Kept
        (jobData jobId task payload now)) ↔
      Runs.Meets exec Fresh (World.queued jobId task payload now) es := by
  refine kept_run_iff (.inr ⟨⟨_, rfl, List.cons_ne_nil _ _⟩, fun _ field _ => rfl⟩) ?_ es
  exact .inr ⟨_, rfl, fun field _ => rfl, fun outcome h => absurd h (by simp [World.queued])⟩

/-! ### A job that is reopened -/

/-- The last progress update reads the record before the final update writes it, and writes it
back afterwards. -/
def reopeningEvents : List Event :=
  [.main "1", .main "1", .progress 1 1, .task 0 "2", .finish (.completed (.str "done")), .main "3",
    .main "3", .task 0 "4"]

/-- **Reopened.** The final update of a job has returned; when the last progress task ends, the job
is running again and its result is gone. -/
theorem finished_job_reopened :
    (Runs.run exec (World.queued "j" "audit" .null "0") (reopeningEvents.take 7)).main
        = .returned (.completed (.str "done")) ∧
      ((Runs.run exec (World.queued "j" "audit" .null "0") (reopeningEvents.take 7)).store.map
        fun record => (record.data.get "status", record.data.get "result"))
          = some (.str "completed", .str "done") ∧
      ((Runs.run exec (World.queued "j" "audit" .null "0") reopeningEvents).store.map
        fun record => (record.data.get "status", record.data.get "result"))
          = some (.str "running", .null) ∧
      ¬ (Runs.run exec (World.queued "j" "audit" .null "0") reopeningEvents).Kept
        (jobData "j" "audit" .null "0") := by
  have hstore : ∃ record, (Runs.run exec (World.queued "j" "audit" .null "0") reopeningEvents).store
      = some record ∧ Assoc.get? "status" record.data = some (.str "running") := by
    exact ⟨_, rfl, by decide⟩
  refine ⟨by decide, by decide, by decide, ?_⟩
  rintro (hexpired | ⟨record, hrecord, hfields, -⟩)
  · exact absurd hexpired (by decide)
  · obtain ⟨record', hrecord', hrunning⟩ := hstore
    have hsame : record' = record := Option.some.inj (hrecord'.symm.trans hrecord)
    have hstatus := hfields "status" (by decide)
    rw [← hsame, hrunning] at hstatus
    exact absurd hstatus (by decide)

end Queue

end Bookwarden
