import Mathlib.Algebra.Order.Ring.Unbundled.Rat
import Bookwarden.Exceptions
import Bookwarden.Lib.Recency
import Bookwarden.Lib.Runs
import Bookwarden.Python

/-!
# The provider cache

`providers/cache.py`: calls of `cached_get_json` that interleave. What a call does under the lock is
one event, and so is its request; a server answers a request always in the same way.

A cache is transparent if every call returns what the server answers to its own request. The key of
a request is one text, in which the parameters are not marked off, so two requests can have the same
key. And an entry that is written again in a full cache takes the place of another one.

## Main definitions

* `Request`, `key`
* `World`, `exec` — the cache, the calls, and what an event does
* `Transparent`, `MakesRoom`
* `Sound` — the events that keep the cache transparent

## Main results

* `exists_returned_of_key_eq` — of two requests with one key, the second is answered like the first
* `length_cache_le` — the cache holds at most `maxEntries` entries
* `transparent_of_sound` — a run of sound events
-/

namespace Bookwarden.ProviderCache

/-! ### Requests -/

/-- A dictionary of string parameters, as its items in the order of their keys. -/
structure Params where
  items : List (String × String)
  sorted : items.Pairwise fun a b => a.1 < b.1
  deriving DecidableEq

/-- The URL and the parameters of a call. -/
structure Request where
  url : String
  params : Option Params
  deriving DecidableEq

/-- `_key`. -/
def key (request : Request) : String :=
  match request.params with
  | none => request.url
  | some params =>
    if params.items = [] then request.url
    else request.url ++ "?" ++ "&".intercalate (params.items.map fun p => p.1 ++ "=" ++ p.2)

/-! ### Calls -/

/-- Where a call of `cached_get_json` is. -/
inductive Phase
  /-- Before the lookup, with the time it has read. -/
  | called (now : ℚ)
  /-- Nothing fresh was there. -/
  | fetching
  | fetched (data : Json)
  | returned (data : Json)
  | raised (error : PyError)

/-- A call. -/
structure Call where
  request : Request
  ttl : ℚ
  phase : Phase

/-- `_CACHE`, `time.monotonic()` and the calls. -/
structure World where
  cache : List (String × (ℚ × Json))
  clock : ℚ
  calls : List Call

/-- Nothing is cached. -/
def World.start : World := ⟨[], 0, []⟩

/-- `_MAX_ENTRIES`. -/
def maxEntries : ℕ := 512

/-- What happens. -/
inductive Event
  /-- Time goes on. -/
  | wait (until_ : ℚ)
  | call (request : Request) (ttl : ℚ)
  /-- The first section under the lock. -/
  | lookup (i : ℕ)
  | fetch (i : ℕ)
  /-- The second section under the lock. -/
  | store (i : ℕ)

/-- Call `i` goes on. -/
def World.advance (w : World) (i : ℕ) (c : Call) (phase : Phase) : World :=
  { w with calls := w.calls.set i { c with phase := phase } }

/-- `_CACHE.get(key)`, if it is fresh. -/
def World.hit (w : World) (c : Call) (now : ℚ) : Option Json :=
  match Assoc.get? (key c.request) w.cache with
  | none => none
  | some (written, data) => if now - written < c.ttl then some data else none

variable (serve : Request → Except PyError Json)

/-- What an event does; one that does not apply does nothing. -/
def exec (w : World) : Event → World
  | .wait t => { w with clock := max w.clock t }
  | .call request ttl => { w with calls := w.calls ++ [⟨request, ttl, .called w.clock⟩] }
  | .lookup i =>
    match w.calls[i]? with
    | some ⟨request, ttl, .called now⟩ =>
      match w.hit ⟨request, ttl, .called now⟩ now with
      | none => w.advance i ⟨request, ttl, .called now⟩ .fetching
      | some data =>
        { w.advance i ⟨request, ttl, .called now⟩ (.returned data) with
          cache := Recency.touch (key request) w.cache }
    | _ => w
  | .fetch i =>
    match w.calls[i]? with
    | some ⟨request, ttl, .fetching⟩ =>
      match serve request with
      | .ok data => w.advance i ⟨request, ttl, .fetching⟩ (.fetched data)
      | .error e => w.advance i ⟨request, ttl, .fetching⟩ (.raised e)
    | _ => w
  | .store i =>
    match w.calls[i]? with
    | some ⟨request, ttl, .fetched data⟩ =>
      { w.advance i ⟨request, ttl, .fetched data⟩ (.returned data) with
        cache := Recency.put maxEntries (key request) (w.clock, data) w.cache }
    | _ => w

/-! ### What is expected -/

/-- Every call that has returned has what the server answers, and the cache is within its bound. -/
structure Transparent (w : World) : Prop where
  returned : ∀ c ∈ w.calls, ∀ data, c.phase = .returned data → serve c.request = .ok data
  bounded : w.cache.length ≤ maxEntries

/-- The event writes a new entry into a full cache. -/
def MakesRoom (w : World) (e : Event) : Prop :=
  ∃ i c data, e = .store i ∧ w.calls[i]? = some c ∧ c.phase = .fetched data ∧
    key c.request ∉ Assoc.keys w.cache ∧ w.cache.length = maxEntries

/-- No call has the key of another request, and no entry but the oldest is written again in a full
cache. -/
def Sound (w : World) : Event → Prop
  | .call request _ => ∀ c ∈ w.calls, key c.request = key request → c.request = request
  | .store i => ∀ c data, w.calls[i]? = some c → c.phase = .fetched data →
      w.cache.length = maxEntries → key c.request ∈ Assoc.keys w.cache →
        (Assoc.keys w.cache).head? = some (key c.request)
  | _ => True

/-! ### What an event can do -/

variable {serve} {w : World} {e : Event} {i : ℕ}

/-- What an event does to the cache and to the calls. -/
inductive Did (w : World) (e : Event) (w' : World) : Prop
  | nothing (hcache : w'.cache = w.cache) (hcalls : w'.calls = w.calls)
  | called (request : Request) (ttl : ℚ) (hevent : e = .call request ttl)
      (hcache : w'.cache = w.cache) (hcalls : w'.calls = w.calls ++ [⟨request, ttl, .called w.clock⟩])
  | advanced (i : ℕ) (c : Call) (phase : Phase) (hcall : w.calls[i]? = some c)
      (hcalls : w'.calls = w.calls.set i { c with phase := phase })
      (hcache : (w'.cache = w.cache ∧ ∀ data, phase ≠ .returned data ∧
          (phase = .fetched data → serve c.request = .ok data)) ∨
        (∃ written data, Assoc.get? (key c.request) w.cache = some (written, data) ∧
          phase = .returned data ∧ w'.cache = Recency.touch (key c.request) w.cache) ∨
        ∃ data, e = .store i ∧ c.phase = .fetched data ∧ phase = .returned data ∧
          w'.cache = Recency.put maxEntries (key c.request) (w.clock, data) w.cache)

theorem exists_of_hit {c : Call} {now : ℚ} {data : Json} (h : w.hit c now = some data) :
    ∃ written, Assoc.get? (key c.request) w.cache = some (written, data) := by
  rw [World.hit] at h
  cases hget : Assoc.get? (key c.request) w.cache with
  | none =>
    rw [hget] at h
    cases h
  | some entry =>
    obtain ⟨written, data'⟩ := entry
    rw [hget] at h
    have hdata : some data' = some data := (Option.ite_none_right_eq_some.mp h).2
    exact ⟨written, by rw [Option.some.inj hdata]⟩

theorem exec_did (serve : Request → Except PyError Json) (w : World) (e : Event) :
    @Did serve w e (exec serve w e) := by
  cases e with
  | wait t => exact .nothing rfl rfl
  | call request ttl => exact .called request ttl rfl rfl rfl
  | lookup i =>
    rw [exec]
    split
    · rename_i request ttl now hcall
      split
      · exact .advanced i _ .fetching hcall rfl (Or.inl ⟨rfl, fun data => ⟨nofun, nofun⟩⟩)
      · rename_i data hhit
        obtain ⟨written, hget⟩ := exists_of_hit hhit
        exact .advanced i _ (.returned data) hcall rfl (Or.inr (Or.inl ⟨written, data, hget, rfl, rfl⟩))
    · exact .nothing rfl rfl
  | fetch i =>
    rw [exec]
    split
    · rename_i request ttl hcall
      split
      · rename_i data hserve
        refine .advanced i _ (.fetched data) hcall rfl (Or.inl ⟨rfl, fun data' => ⟨nofun, ?_⟩⟩)
        intro heq
        rw [hserve, Phase.fetched.inj heq]
      · exact .advanced i _ (.raised _) hcall rfl (Or.inl ⟨rfl, fun data => ⟨nofun, nofun⟩⟩)
    · exact .nothing rfl rfl
  | store i =>
    rw [exec]
    split
    · rename_i request ttl data hcall
      exact .advanced i _ (.returned data) hcall rfl (Or.inr (Or.inr ⟨data, rfl, rfl, rfl, rfl⟩))
    · exact .nothing rfl rfl

/-! ### The size of the cache -/

/-- The entries have different keys, and there is room for them. -/
structure Kept (w : World) : Prop where
  nodup : (Assoc.keys w.cache).Nodup
  bounded : w.cache.length ≤ maxEntries

theorem kept_exec (serve : Request → Except PyError Json) (w : World) (e : Event) (hw : Kept w) :
    Kept (exec serve w e) := by
  have hroom : 0 < maxEntries := by decide
  have hsame : ∀ {w' : World}, w'.cache = w.cache → Kept w' := fun h => ⟨h ▸ hw.nodup, h ▸ hw.bounded⟩
  rcases exec_did serve w e with ⟨hcache, -⟩ | ⟨-, -, -, hcache, -⟩ | ⟨i, c, phase, -, -, hcache⟩
  · exact hsame hcache
  · exact hsame hcache
  · rcases hcache with ⟨hcache, -⟩ | ⟨-, -, -, -, hcache⟩ | ⟨data, -, -, -, hcache⟩
    · exact hsame hcache
    · constructor
      · rw [hcache]
        exact Recency.nodup_keys_touch hw.nodup _
      · rw [hcache]
        exact le_trans (Recency.length_touch_le _ _) hw.bounded
    · constructor
      · rw [hcache]
        exact Recency.nodup_keys_put hw.nodup _ _ _
      · rw [hcache]
        exact Recency.length_put_le hroom _ _ _

theorem kept_run (serve : Request → Except PyError Json) (es : List Event) :
    Kept (Runs.run (exec serve) .start es) := by
  have hstart : Kept .start := ⟨List.nodup_nil, Nat.zero_le _⟩
  exact Runs.invariant Kept (kept_exec serve) hstart es

/-- In every run the cache holds at most `maxEntries` entries. -/
theorem length_cache_le (serve : Request → Except PyError Json) (es : List Event) :
    (Runs.run (exec serve) .start es).cache.length ≤ maxEntries :=
  (kept_run serve es).bounded

/-- An entry is lost by a store only, and only the oldest entry of a full cache. -/
theorem store_of_lost (hw : Kept w) {k : String} (hk : k ∈ Assoc.keys w.cache)
    (hlost : k ∉ Assoc.keys (exec serve w e).cache) :
    ∃ i c data, e = .store i ∧ w.calls[i]? = some c ∧ c.phase = .fetched data ∧
      w.cache.length = maxEntries ∧ (Assoc.keys w.cache).head? = some k ∧ k ≠ key c.request := by
  rcases exec_did serve w e with ⟨hcache, -⟩ | ⟨-, -, -, hcache, -⟩ | ⟨i, c, phase, hcall, -, hcache⟩
  · exact absurd (hcache ▸ hk) hlost
  · exact absurd (hcache ▸ hk) hlost
  · rcases hcache with ⟨hcache, -⟩ | ⟨-, -, -, -, hcache⟩ | ⟨data, hevent, hphase, -, hcache⟩
    · exact absurd (hcache ▸ hk) hlost
    · rw [hcache, ← Assoc.get?_eq_none_iff, Recency.get?_touch, Assoc.get?_eq_none_iff] at hlost
      exact absurd hk hlost
    · rw [hcache] at hlost
      have hroom : 0 < maxEntries := by decide
      obtain ⟨hfull, hhead, hne⟩ := Recency.mem_keys_of_not_put hroom hw.bounded hk hlost
      exact ⟨i, c, data, hevent, hcall, hphase, hfull, hhead, hne⟩

/-! ### Answers -/

/-- The requests of the calls. -/
def World.requests (w : World) : List Request := w.calls.map Call.request

/-- What keeps the answers right. -/
structure Right (serve : Request → Except PyError Json) (w : World) : Prop where
  nodup : (Assoc.keys w.cache).Nodup
  unique : ∀ r ∈ w.requests, ∀ r' ∈ w.requests, key r = key r' → r = r'
  cached : ∀ k written data, Assoc.get? k w.cache = some (written, data) →
    ∃ r ∈ w.requests, key r = k ∧ serve r = .ok data
  answered : ∀ c ∈ w.calls, ∀ data, c.phase = .fetched data ∨ c.phase = .returned data →
    serve c.request = .ok data

theorem requests_set {c : Call} {calls : List Call} (hcall : calls[i]? = some c) (phase : Phase) :
    (calls.set i { c with phase := phase }).map Call.request = calls.map Call.request := by
  rw [List.map_set]
  refine List.ext_getElem? fun j => ?_
  rw [List.getElem?_set, List.getElem?_map]
  by_cases hj : i = j
  · have hlength : i < (calls.map Call.request).length := by
      rw [List.length_map]
      exact (List.getElem?_eq_some_iff.mp hcall).1
    rw [← hj, if_pos rfl, hcall, if_pos hlength]
    rfl
  · rw [if_neg hj]

theorem right_exec {w : World} {e : Event} (hsound : Sound w e) (hw : Right serve w) :
    Right serve (exec serve w e) := by
  have hnodup : (Assoc.keys w.cache).Nodup := hw.nodup
  rcases exec_did serve w e with ⟨hcache, hcalls⟩ | ⟨request, ttl, rfl, hcache, hcalls⟩ |
    ⟨i, c, phase, hcall, hcalls, hcache⟩
  · exact ⟨hcache ▸ hw.nodup, by rw [World.requests, hcalls]; exact hw.unique,
      by rw [World.requests, hcalls, hcache]; exact hw.cached, hcalls ▸ hw.answered⟩
  · have hrequests : (exec serve w (.call request ttl)).requests = w.requests ++ [request] := by
      rw [World.requests, hcalls, List.map_append]
      rfl
    have hnew : ∀ r ∈ w.requests, key r = key request → r = request := by
      intro r hr hkey
      obtain ⟨c, hc, rfl⟩ := List.mem_map.mp hr
      exact hsound c hc hkey
    constructor
    · exact hcache ▸ hw.nodup
    · rw [hrequests]
      intro r hr r' hr' hkey
      rcases List.mem_append.mp hr with hr | hr <;> rcases List.mem_append.mp hr' with hr' | hr'
      · exact hw.unique r hr r' hr' hkey
      · rw [List.mem_singleton.mp hr'] at hkey ⊢
        exact hnew r hr hkey
      · rw [List.mem_singleton.mp hr] at hkey ⊢
        exact (hnew r' hr' hkey.symm).symm
      · rw [List.mem_singleton.mp hr, List.mem_singleton.mp hr']
    · rw [hrequests, hcache]
      intro k written data hget
      obtain ⟨r, hr, hkey, hserve⟩ := hw.cached k written data hget
      exact ⟨r, List.mem_append_left _ hr, hkey, hserve⟩
    · rw [hcalls]
      intro c hc data hphase
      rcases List.mem_append.mp hc with hc | hc
      · exact hw.answered c hc data hphase
      · rw [List.mem_singleton.mp hc] at hphase
        rcases hphase with h | h <;> cases h
  · have hmem : c ∈ w.calls := List.mem_of_getElem? hcall
    have hrequest : c.request ∈ w.requests := List.mem_map_of_mem hmem
    have hrequests : (exec serve w e).requests = w.requests := by
      rw [World.requests, hcalls, requests_set hcall]
      rfl
    -- a call that goes on has an answer only if it is the right one
    have hphase : ∀ data, phase = .fetched data ∨ phase = .returned data → serve c.request = .ok data := by
      intro data hdata
      rcases hcache with ⟨-, hnone⟩ | ⟨written, data', hget, hphase, -⟩ | ⟨data', -, hfetched, hphase, -⟩
      · rcases hdata with hdata | hdata
        · exact (hnone data).2 hdata
        · exact absurd hdata (hnone data).1
      · obtain ⟨r, hr, hkey, hserve⟩ := hw.cached _ written data' hget
        rw [hphase] at hdata
        rcases hdata with hdata | hdata
        · cases hdata
        · rw [← Phase.returned.inj hdata, ← hw.unique r hr _ hrequest hkey]
          exact hserve
      · rw [hphase] at hdata
        rcases hdata with hdata | hdata
        · cases hdata
        · rw [← Phase.returned.inj hdata]
          exact hw.answered c hmem data' (Or.inl hfetched)
    constructor
    · rcases hcache with ⟨hcache, -⟩ | ⟨_, _, _, _, hcache⟩ | ⟨_, _, _, _, hcache⟩
      · exact hcache ▸ hw.nodup
      · rw [hcache]
        exact Recency.nodup_keys_touch hnodup _
      · rw [hcache]
        exact Recency.nodup_keys_put hnodup _ _ _
    · rw [hrequests]
      exact hw.unique
    · rw [hrequests]
      intro k written data hget
      rcases hcache with ⟨hcache, -⟩ | ⟨-, -, -, -, hcache⟩ | ⟨data', -, hfetched, -, hcache⟩
      · rw [hcache] at hget
        exact hw.cached k written data hget
      · rw [hcache, Recency.get?_touch] at hget
        exact hw.cached k written data hget
      · rw [hcache] at hget
        rcases Recency.get?_of_get?_put hnodup hget with ⟨rfl, hdata⟩ | hget
        · rw [(Prod.mk.inj hdata).2]
          exact ⟨c.request, hrequest, rfl, hw.answered c hmem data' (Or.inl hfetched)⟩
        · exact hw.cached k written data hget
    · rw [hcalls]
      intro c' hc' data hdata
      rcases List.mem_or_eq_of_mem_set hc' with hc' | rfl
      · exact hw.answered c' hc' data hdata
      · exact hphase data hdata

/-- **The cache is transparent.** In a run of sound events every call that returns has what the server
answers, the cache is within its bound, and a sound event evicts only to make room. -/
theorem transparent_of_sound (serve : Request → Except PyError Json) (es : List Event)
    (hes : Runs.Meets (exec serve) Sound .start es) :
    Transparent serve (Runs.run (exec serve) .start es) ∧
      ∀ e, Sound (Runs.run (exec serve) .start es) e →
        ∀ k ∈ Assoc.keys (Runs.run (exec serve) .start es).cache,
          k ∉ Assoc.keys (exec serve (Runs.run (exec serve) .start es) e).cache →
            MakesRoom (Runs.run (exec serve) .start es) e := by
  have hstart : Right serve .start :=
    ⟨List.nodup_nil, fun r hr => (nomatch hr), fun k written data h => (nomatch h),
      fun c hc => (nomatch hc)⟩
  have hright : Right serve (Runs.run (exec serve) .start es) :=
    hes.invariant (Right serve) (fun w e => right_exec) hstart
  constructor
  · exact ⟨fun c hc data hphase => hright.answered c hc data (Or.inr hphase), length_cache_le serve es⟩
  · intro e hsound k hk hlost
    obtain ⟨i, c, data, rfl, hcall, hphase, hfull, hhead, hne⟩ :=
      store_of_lost (kept_run serve es) hk hlost
    refine ⟨i, c, data, rfl, hcall, hphase, fun hmem => ?_, hfull⟩
    have hkey := hsound c data hcall hphase hfull hmem
    rw [hhead] at hkey
    exact hne (Option.some.inj hkey)

/-! ### Two requests with one key -/

/-- One call after the other. -/
def twoCalls (r r' : Request) : List Event :=
  [.call r 300, .lookup 0, .fetch 0, .store 0, .call r' 300, .lookup 1]

/-- Of two requests with one key, the second is answered like the first. -/
theorem exists_returned_of_key_eq {r r' : Request} {data : Json} (hserve : serve r = .ok data)
    (hkey : key r = key r') :
    (⟨r', 300, .returned data⟩ : Call) ∈
      (Runs.run (exec serve) .start (twoCalls r r')).calls := by
  have hput : Recency.put maxEntries (key r') ((0 : ℚ), data) [] = [(key r', (0, data))] := rfl
  have hfresh : (0 : ℚ) < 300 := by decide
  simp only [twoCalls, Runs.run_cons, Runs.run_nil, exec, World.start, World.hit, World.advance,
    hserve, hkey, hput, Assoc.get?, if_true, if_pos hfresh, sub_self, List.nil_append,
    List.cons_append, List.getElem?_cons_zero, List.getElem?_cons_succ, List.set_cons_zero,
    List.set_cons_succ]
  exact List.mem_cons_of_mem _ List.mem_cons_self

/-- The parameters of a search by title and author. -/
def searchRequest (title author : String) : Request where
  url := "https://openlibrary.org/search.json"
  params := some
    { items := [("author", author), ("format", "json"), ("title", title)]
      sorted := by
        have hformat : "author" < "format" := by decide
        have htitle : "author" < "title" := by decide
        have hlast : "format" < "title" := by decide
        exact .cons (List.forall_mem_cons.mpr ⟨hformat, List.forall_mem_singleton.mpr htitle⟩)
          (.cons (List.forall_mem_singleton.mpr hlast) (List.pairwise_singleton ..)) }

/-- A server that answers with the last parameter. -/
def echo (r : Request) : Except PyError Json :=
  .ok (.str (((r.params.bind fun params => params.items.getLast?).map Prod.snd).getD ""))

/-- The author of the second search says the rest of the first. -/
theorem not_transparent_search :
    ¬ ∀ (serve : Request → Except PyError Json) (es : List Event),
      Transparent serve (Runs.run (exec serve) .start es) := by
  intro h
  have hkey : key (searchRequest "b&format=json&title=c" "a") =
      key (searchRequest "c" "a&format=json&title=b") := by decide
  have hserve : echo (searchRequest "b&format=json&title=c" "a") =
      .ok (.str "b&format=json&title=c") := rfl
  have hanswer := (h echo _).returned _ (exists_returned_of_key_eq hserve hkey) _ rfl
  have hne : echo (searchRequest "c" "a&format=json&title=b") ≠
      .ok (.str "b&format=json&title=c") := by
    intro heq
    have htitle : "c" = "b&format=json&title=c" := Json.str.inj (Except.ok.inj heq)
    exact absurd htitle (by decide)
  exact hne hanswer

theorem transparent_of_sound_search :
    Transparent echo (Runs.run (exec echo) .start
      (twoCalls (searchRequest "b" "a") (searchRequest "c" "a"))) := by
  have hkey : key (searchRequest "b" "a") ≠ key (searchRequest "c" "a") := by decide
  refine (transparent_of_sound echo _ ?_).1
  refine ⟨fun c hc => (nomatch hc), trivial, trivial, ?_, ?_, trivial, trivial⟩
  · intro c data hc hphase hfull
    exact absurd hfull (by decide)
  · intro c hc heq
    rw [List.mem_singleton.mp hc] at heq
    exact absurd heq hkey

end Bookwarden.ProviderCache
