import Mathlib.Data.List.Infix
import Bookwarden.Lib.Assoc
import Bookwarden.Lib.Runs

/-!
# Resumable runs

A `ResumableRunStore` keeps the status of every book in memory and adds each change to a stream of a
Valkey server. A crash loses the store and what is on its way to the server; the stream stays.

## Main definitions

* `ResumableRunStore`, `World`, `Event` — the store, the server, and what happens to them
* `replay` — the table that a stream stands for
* `Survives` — what a store that is made again should show

## Main results

* `table_eq_replay` — the table in memory is the replay of the stream and of what is on its way
* `survives_iff`
-/

namespace Bookwarden.Resumable

/-- `BookStatus`. -/
inductive BookStatus
  | pending | inProgress | completed | failed | skipped
  deriving DecidableEq, Repr

/-- The text of a status. -/
def BookStatus.value : BookStatus → String
  | .pending => "pending"
  | .inProgress => "in_progress"
  | .completed => "completed"
  | .failed => "failed"
  | .skipped => "skipped"

/-- A message of the stream. -/
structure Entry where
  bookKey : String
  status : String
  ts : String
  deriving DecidableEq, Repr

/-- The streams of the server, under their keys. -/
abbrev Valkey := Table String (List Entry)

/-- The messages of a stream; there are none under a key that is not there. -/
def Valkey.stream (valkey : Valkey) (key : String) : List Entry := (valkey.get? key).getD []

/-- `XADD`. -/
def Valkey.xadd (valkey : Valkey) (key : String) (e : Entry) : Valkey :=
  valkey.set key (valkey.stream key ++ [e])

/-- `RunProgress`. -/
structure RunProgress where
  runId : String
  total : ℕ
  startedAt : ℤ
  completed : ℕ
  failed : ℕ
  skipped : ℕ
  inProgress : ℕ
  pending : ℕ
  deriving DecidableEq, Repr

/-- The sum of the counters. -/
def RunProgress.sum (p : RunProgress) : ℕ :=
  p.completed + p.failed + p.skipped + p.inProgress + p.pending

/-- `dict.fromkeys(book_keys, BookStatus.pending)`. -/
def fromKeys (bookKeys : List String) : Table String BookStatus :=
  ⟨Assoc.update [] (bookKeys.map fun k => (k, BookStatus.pending)),
    Assoc.nodup_keys_update (l := []) List.nodup_nil _⟩

/-- A `ResumableRunStore`. -/
structure ResumableRunStore where
  runId : String
  bookKeys : List String
  state : Table String BookStatus
  streamKey : String
  /-- There is a client. -/
  client : Bool

namespace ResumableRunStore

/-- The constructor; `fromUrl` says for which URLs a client can be made. -/
def new (fromUrl : String → Bool) (runId : String) (bookKeys : List String)
    (valkeyUrl : Option String) : ResumableRunStore where
  runId := runId
  bookKeys := bookKeys
  state := fromKeys bookKeys
  streamKey := "run:" ++ runId ++ ":books"
  client := valkeyUrl.any fun url => url ≠ "" && fromUrl url

variable (s : ResumableRunStore)

/-- `get_status`. -/
def getStatus (bookKey : String) : BookStatus := (s.state.get? bookKey).getD .pending

/-- How many books have the status. -/
def countOf (status : BookStatus) : ℕ := s.state.count fun v => v = status

/-- `progress`. -/
def progress (now : ℤ) : RunProgress where
  runId := s.runId
  total := s.state.rows.length
  startedAt := now
  completed := s.countOf .completed
  failed := s.countOf .failed
  skipped := s.countOf .skipped
  inProgress := s.countOf .inProgress
  pending := s.countOf .pending

/-- The table after `reset_in_progress`. -/
def resetTable (t : Table String BookStatus) : Table String BookStatus :=
  ⟨t.rows.map fun r => (r.1, if r.2 = .inProgress then .pending else r.2), by
    rw [Assoc.keys, List.map_map]
    exact t.nodup⟩

/-- `reset_in_progress`; it also returns how many books it rolled back. -/
def resetInProgress : ResumableRunStore × ℕ :=
  ({ s with state := resetTable s.state }, s.countOf .inProgress)

/-- `pending_keys`. -/
def pendingKeys : List String :=
  (s.state.rows.filter fun r => r.2 = .pending ∨ r.2 = .inProgress).map Prod.fst

/-- `next_pending`. -/
def nextPending : Option String :=
  (s.state.rows.find? fun r => r.2 = .pending).map Prod.fst

/-- The first half of a mark: the table is changed. -/
def mark (bookKey : String) (status : BookStatus) : ResumableRunStore :=
  { s with state := s.state.set bookKey status }

/-- The message that `_persist` sends. -/
def entry (bookKey : String) (ts : String) : Entry where
  bookKey := bookKey
  status := (s.getStatus bookKey).value
  ts := ts

end ResumableRunStore

/-! ### Runs -/

/-- A store, the messages it waits for, and the server. -/
structure World where
  store : ResumableRunStore
  onTheWay : List Entry
  valkey : Valkey

/-- What happens: a mark begins, or the server takes a message. -/
inductive Event
  | markInProgress (bookKey ts : String)
  | markCompleted (bookKey ts : String)
  | markFailed (bookKey ts : String)
  | markSkipped (bookKey ts : String)
  | persisted
  deriving DecidableEq, Repr

/-- A mark, up to the answer of the server. -/
def World.mark (w : World) (bookKey ts : String) (status : BookStatus) : World where
  store := w.store.mark bookKey status
  onTheWay :=
    if w.store.client then w.onTheWay ++ [(w.store.mark bookKey status).entry bookKey ts]
    else w.onTheWay
  valkey := w.valkey

/-- One event. -/
def World.exec (w : World) : Event → World
  | .markInProgress k ts => w.mark k ts .inProgress
  | .markCompleted k ts => w.mark k ts .completed
  | .markFailed k ts => w.mark k ts .failed
  | .markSkipped k ts => w.mark k ts .skipped
  | .persisted =>
    match w.onTheWay with
    | [] => w
    | e :: rest => { w with onTheWay := rest, valkey := w.valkey.xadd w.store.streamKey e }

/-- A new store at a server. -/
def World.initial (fromUrl : String → Bool) (runId : String) (bookKeys : List String)
    (valkeyUrl : Option String) (valkey : Valkey) : World :=
  ⟨.new fromUrl runId bookKeys valkeyUrl, [], valkey⟩

/-! ### The counters -/

/-- Every value of a list has one of the five statuses. -/
theorem countP_statuses (l : List (String × BookStatus)) :
    l.countP (fun r => r.2 = .completed) + l.countP (fun r => r.2 = .failed)
      + l.countP (fun r => r.2 = .skipped) + l.countP (fun r => r.2 = .inProgress)
      + l.countP (fun r => r.2 = .pending) = l.length := by
  induction l with
  | nil => rfl
  | cons r l ih =>
    simp only [List.countP_cons, List.length_cons]
    cases hr : r.2 <;> simp <;> omega

/-- The counters sum to the total, whatever the table. -/
theorem progress_sum (s : ResumableRunStore) (now : ℤ) :
    (s.progress now).sum = (s.progress now).total :=
  countP_statuses s.state.rows

/-! ### The stream -/

/-- The status with a text. -/
def statusOf (value : String) : Option BookStatus :=
  [.pending, .inProgress, .completed, .failed, .skipped].find? fun s => s.value = value

theorem statusOf_value (s : BookStatus) : statusOf s.value = some s := by
  cases s <;> decide

/-- A table after a message of the stream. -/
def replayEntry (t : Table String BookStatus) (e : Entry) : Table String BookStatus :=
  match statusOf e.status with
  | none => t
  | some s => t.set e.bookKey s

/-- The table that a stream stands for. -/
def replay (t : Table String BookStatus) (entries : List Entry) : Table String BookStatus :=
  entries.foldl replayEntry t

theorem replay_concat (t : Table String BookStatus) (entries : List Entry) (e : Entry) :
    replay t (entries ++ [e]) = replayEntry (replay t entries) e := by
  rw [replay, List.foldl_append]
  rfl

/-- The messages of the run: those in the stream from some length on, and those on the way. -/
def World.messages (w : World) (before : ℕ) : List Entry :=
  (w.valkey.stream w.store.streamKey).drop before ++ w.onTheWay

/-- The table in memory is what the messages make of a new one. -/
structure Replays (bookKeys : List String) (before : ℕ) (w : World) : Prop where
  table : w.store.state = replay (fromKeys bookKeys) (w.messages before)
  length : before ≤ (w.valkey.stream w.store.streamKey).length
  client : w.store.client = true

theorem stream_xadd (valkey : Valkey) (key : String) (e : Entry) :
    (valkey.xadd key e).stream key = valkey.stream key ++ [e] := by
  rw [Valkey.xadd, Valkey.stream, Table.get?_set_self, Option.getD_some]

theorem entry_mark (s : ResumableRunStore) (bookKey ts : String) (status : BookStatus) :
    (s.mark bookKey status).entry bookKey ts = ⟨bookKey, status.value, ts⟩ := by
  rw [ResumableRunStore.entry, ResumableRunStore.getStatus, ResumableRunStore.mark,
    Table.get?_set_self, Option.getD_some]

theorem Replays.mark {bookKeys : List String} {before : ℕ} {w : World}
    (h : Replays bookKeys before w) (bookKey ts : String) (status : BookStatus) :
    Replays bookKeys before (w.mark bookKey ts status) := by
  refine ⟨?_, h.length, h.client⟩
  have hmessages : (w.mark bookKey ts status).messages before
      = w.messages before ++ [⟨bookKey, status.value, ts⟩] := by
    simp only [World.messages, World.mark, h.client, if_true, entry_mark]
    exact (List.append_assoc _ _ _).symm
  rw [hmessages, replay_concat, ← h.table, replayEntry, statusOf_value]
  rfl

theorem Replays.exec {bookKeys : List String} {before : ℕ} {w : World}
    (h : Replays bookKeys before w) (e : Event) : Replays bookKeys before (w.exec e) := by
  cases e with
  | markInProgress k ts => exact h.mark k ts .inProgress
  | markCompleted k ts => exact h.mark k ts .completed
  | markFailed k ts => exact h.mark k ts .failed
  | markSkipped k ts => exact h.mark k ts .skipped
  | persisted =>
    cases hway : w.onTheWay with
    | nil =>
      rw [World.exec, hway]
      exact h
    | cons e rest =>
      rw [World.exec, hway]
      -- the message moves from one end to the other
      have hmessages : (World.mk w.store rest (w.valkey.xadd w.store.streamKey e)).messages before
          = w.messages before := by
        have hdrop : ((w.valkey.stream w.store.streamKey) ++ [e]).drop before
            = (w.valkey.stream w.store.streamKey).drop before ++ [e] :=
          List.drop_append_of_le_length h.length
        simp only [World.messages, stream_xadd, hdrop, hway, List.append_assoc, List.singleton_append]
      refine ⟨?_, ?_, h.client⟩
      · show w.store.state = _
        rw [hmessages]
        exact h.table
      · show before ≤ ((w.valkey.xadd w.store.streamKey e).stream w.store.streamKey).length
        rw [stream_xadd, List.length_append]
        exact Nat.le_add_right_of_le h.length

/-- At every moment, the table in memory is the replay of what the run sent; a store made from the
messages would have lost nothing but those on the way. -/
theorem table_eq_replay (fromUrl : String → Bool) (runId : String) (bookKeys : List String)
    (valkeyUrl : Option String) (valkey : Valkey)
    (hclient : (ResumableRunStore.new fromUrl runId bookKeys valkeyUrl).client = true)
    (events : List Event) :
    Replays bookKeys (valkey.stream ("run:" ++ runId ++ ":books")).length
      (Runs.run World.exec (.initial fromUrl runId bookKeys valkeyUrl valkey) events) := by
  refine Runs.invariant _ (fun w e h => h.exec e) ⟨?_, le_refl _, hclient⟩ events
  have hmessages : (World.initial fromUrl runId bookKeys valkeyUrl valkey).messages
      (valkey.stream ("run:" ++ runId ++ ":books")).length = [] := by
    show (valkey.stream ("run:" ++ runId ++ ":books")).drop
      (valkey.stream ("run:" ++ runId ++ ":books")).length ++ [] = []
    rw [List.drop_length, List.append_nil]
  rw [hmessages]
  rfl

theorem replays_of_completed :
    Replays ["calibre:1"] 0 (Runs.run World.exec
      (.initial (fun _ => true) "r" ["calibre:1"] (some "redis://v") .empty)
        [.markInProgress "calibre:1" "0", .persisted, .markCompleted "calibre:1" "1"]) :=
  table_eq_replay (fun _ => true) "r" ["calibre:1"] (some "redis://v") .empty (by decide) _

/-! ### After a crash -/

/-- The status of the last message about a book. -/
def lastPersisted (entries : List Entry) (bookKey : String) : Option String :=
  ((entries.filter fun e => e.bookKey = bookKey).map (·.status)).getLast?

/-- The book is done. -/
def Finished (entries : List Entry) (bookKey : String) : Prop :=
  lastPersisted entries bookKey = some "completed" ∨ lastPersisted entries bookKey = some "failed"
    ∨ lastPersisted entries bookKey = some "skipped"

instance (entries : List Entry) (bookKey : String) : Decidable (Finished entries bookKey) :=
  inferInstanceAs (Decidable (_ ∨ _ ∨ _))

/-- The store made again after a crash, with its rolled back books. -/
def recovered (fromUrl : String → Bool) (runId : String) (bookKeys : List String)
    (valkeyUrl : Option String) : ResumableRunStore :=
  (ResumableRunStore.new fromUrl runId bookKeys valkeyUrl).resetInProgress.1

/-- The progress survives a crash after the events. -/
structure Survives (fromUrl : String → Bool) (runId : String) (bookKeys : List String)
    (valkeyUrl : Option String) (valkey : Valkey) (events : List Event) : Prop where
  pending : (recovered fromUrl runId bookKeys valkeyUrl).pendingKeys = bookKeys.filter fun k =>
    ¬Finished ((Runs.run World.exec (.initial fromUrl runId bookKeys valkeyUrl valkey)
      events).valkey.stream ("run:" ++ runId ++ ":books")) k
  counters : ∀ moment, moment <+: events → ∀ now,
    ((Runs.run World.exec (.initial fromUrl runId bookKeys valkeyUrl valkey)
      moment).store.progress now).sum
    = ((Runs.run World.exec (.initial fromUrl runId bookKeys valkeyUrl valkey)
      moment).store.progress now).total
  countersAfter : ∀ now, ((recovered fromUrl runId bookKeys valkeyUrl).progress now).sum
    = ((recovered fromUrl runId bookKeys valkeyUrl).progress now).total

theorem rows_fromKeys {bookKeys : List String} (h : bookKeys.Nodup) :
    (fromKeys bookKeys).rows = bookKeys.map fun k => (k, BookStatus.pending) := by
  have hkeys : Assoc.keys ([] ++ bookKeys.map fun k => (k, BookStatus.pending)) = bookKeys := by
    rw [List.nil_append, Assoc.keys, List.map_map]
    exact List.map_id _
  have hnodup : (Assoc.keys ([] ++ bookKeys.map fun k => (k, BookStatus.pending))).Nodup := by
    rwa [hkeys]
  exact Assoc.update_of_nodup hnodup

/-- A store made again knows nothing of the stream: everything is pending. -/
theorem pendingKeys_recovered (fromUrl : String → Bool) (runId : String) {bookKeys : List String}
    (h : bookKeys.Nodup) (valkeyUrl : Option String) :
    (recovered fromUrl runId bookKeys valkeyUrl).pendingKeys = bookKeys := by
  have hrows : (ResumableRunStore.resetTable (fromKeys bookKeys)).rows
      = bookKeys.map fun k => (k, BookStatus.pending) := by
    show (fromKeys bookKeys).rows.map _ = _
    rw [rows_fromKeys h, List.map_map]
    rfl
  show ((ResumableRunStore.resetTable (fromKeys bookKeys)).rows.filter _).map Prod.fst = bookKeys
  rw [hrows, List.filter_eq_self.mpr ?_, List.map_map]
  · exact List.map_id _
  · intro r hr
    obtain ⟨k, -, rfl⟩ := List.mem_map.mp hr
    rfl

/-- After the roll back, the next book is the first that is pending. -/
theorem nextPending_resetInProgress (s : ResumableRunStore) :
    s.resetInProgress.1.nextPending = s.resetInProgress.1.pendingKeys.head? := by
  have hsame : ∀ r ∈ s.resetInProgress.1.state.rows,
      decide (r.2 = .pending) = decide (r.2 = .pending ∨ r.2 = .inProgress) := by
    intro r hr
    obtain ⟨row, -, rfl⟩ := List.mem_map.mp hr
    by_cases hrow : row.2 = .inProgress
    · simp only [hrow, if_true]
      decide
    · simp only [hrow, if_false, or_false]
  rw [ResumableRunStore.nextPending, ResumableRunStore.pendingKeys, List.head?_map,
    ← List.head?_filter, List.filter_congr hsame]

/-- The progress survives just when there is none: no book of the run is done in the stream. -/
theorem survives_iff (fromUrl : String → Bool) (runId : String) (bookKeys : List String)
    (hkeys : bookKeys.Nodup) (valkeyUrl : Option String) (valkey : Valkey) (events : List Event) :
    Survives fromUrl runId bookKeys valkeyUrl valkey events ↔
      ∀ k ∈ bookKeys, ¬Finished ((Runs.run World.exec
        (.initial fromUrl runId bookKeys valkeyUrl valkey) events).valkey.stream
          ("run:" ++ runId ++ ":books")) k := by
  constructor
  · intro h k hk
    have hpending := h.pending
    rw [pendingKeys_recovered fromUrl runId hkeys] at hpending
    have hkept := List.filter_eq_self.mp hpending.symm k hk
    exact of_decide_eq_true hkept
  · intro h
    refine ⟨?_, fun _ _ now => progress_sum _ now, fun now => progress_sum _ now⟩
    rw [pendingKeys_recovered fromUrl runId hkeys]
    exact (List.filter_eq_self.mpr fun k hk => decide_eq_true (h k hk)).symm

/-- Two books, of which one is done. -/
def twoBooks : List Event :=
  [.markInProgress "calibre:1" "0", .persisted, .markCompleted "calibre:1" "1", .persisted]

theorem survives_iff_twoBooks :
    Survives (fun _ => true) "r" ["calibre:1", "calibre:2"] (some "redis://v") .empty twoBooks ↔
      ∀ k ∈ ["calibre:1", "calibre:2"], ¬Finished ((Runs.run World.exec
        (.initial (fun _ => true) "r" ["calibre:1", "calibre:2"] (some "redis://v") .empty)
          twoBooks).valkey.stream ("run:" ++ "r" ++ ":books")) k :=
  survives_iff _ _ _ (by decide) _ _ _

/-- The book that is done is pending again. -/
theorem twoBooks_lost :
    Finished ((Runs.run World.exec
      (.initial (fun _ => true) "r" ["calibre:1", "calibre:2"] (some "redis://v") .empty)
        twoBooks).valkey.stream "run:r:books") "calibre:1" ∧
    (recovered (fun _ => true) "r" ["calibre:1", "calibre:2"] (some "redis://v")).pendingKeys
      = ["calibre:1", "calibre:2"] ∧
    ¬Survives (fun _ => true) "r" ["calibre:1", "calibre:2"] (some "redis://v") .empty twoBooks := by
  have hfinished : Finished ((Runs.run World.exec
      (.initial (fun _ => true) "r" ["calibre:1", "calibre:2"] (some "redis://v") .empty)
        twoBooks).valkey.stream "run:r:books") "calibre:1" := by decide
  refine ⟨hfinished, pendingKeys_recovered _ _ (by decide) _, fun h => ?_⟩
  have hpending := h.pending
  rw [pendingKeys_recovered _ _ (by decide)] at hpending
  have hkept := List.filter_eq_self.mp hpending.symm "calibre:1" (by simp)
  exact of_decide_eq_true hkept hfinished

end Bookwarden.Resumable
