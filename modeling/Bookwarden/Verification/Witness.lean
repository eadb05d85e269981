import Mathlib.Data.List.MinMax
import Bookwarden.Llm.Router
import Bookwarden.Verification.Verdict

/-!
# The witness for ambiguous fields

`verification/engine_llm.py`: a field that the rules leave ambiguous is put before a language model,
whose answer is refined to a verdict. Answers are kept in a cache under a digest of the prompt.

Time is exact, in seconds. `Clock` has what the clocks show during one call. What the code takes from
a library and the repository does not have is in `WitnessRuntime`: reading and printing of JSON,
`int` of a string, and the texts of validation errors.

## Main definitions

* `buildWitnessPrompt`, `buildRefinedVerdict`
* `WitnessCache` — never larger than its bound
* `LLMWitness.witnessField`
-/

namespace Bookwarden.Verification

open Llm (LLMRequest Content typeName LLMRouter)

/-- Why `json.loads` raises. -/
inductive LoadError
  | notJson (message : String)
  | raised (e : PyError)

/-- What the witness takes from Python. -/
structure WitnessRuntime extends RuleRuntime where
  /-- `json.loads`. -/
  loads : String → Except LoadError Value
  /-- `json.dumps(·, sort_keys=True)`. -/
  dumps : Value → Except PyError String
  /-- `WitnessCache._hash`: the SHA-256 of the sorted JSON in UTF-8. -/
  digest : Value → String
  /-- `int` of a string. -/
  parseInt : String → Except PyError ℤ
  /-- A page range that is no string, as the validation of `EvidenceSpan` reports it. -/
  pageRangeError : Value → String
  /-- Flags that are not all strings, as their sorting or the validation of `FieldVerdict` reports
  them. -/
  riskFlagsError : List Value → PyError

/-! ### The prompt -/

/-- A small number as a value. -/
def Value.small (n : Fin 1000) : Value :=
  have hbound : 1000 ≤ 10 ^ 4300 :=
    le_of_eq_of_le (show 1000 = 10 ^ 3 by norm_num) (Nat.pow_le_pow_right (by decide) (by decide))
  .int ⟨n, lt_of_lt_of_le n.isLt hbound⟩

/-- A JSON schema of one type. -/
def typed (name : String) : Value := .dict [("type", .str name)]

/-- `WITNESS_SCHEMA`. -/
def witnessSchema : Value :=
  .dict [("type", .str "object"),
    ("properties", .dict [
      ("field", typed "string"),
      ("verdict", .dict [("type", .str "string"),
        ("enum", Value.strs ["confirmed", "mismatch", "missing", "still_ambiguous"])]),
      ("confidence", .dict [("type", .str "integer"), ("minimum", Value.small 0),
        ("maximum", Value.small 100)]),
      ("selected_value",
        .dict [("type", Value.strs ["string", "array", "number", "boolean", "null"])]),
      ("reasons", .dict [("type", .str "array"), ("items", typed "string"),
        ("minItems", Value.small 1)]),
      ("evidence_quote", .dict [("type", Value.strs ["string", "null"]),
        ("description", .str "The exact substring from the book that supports your verdict.")]),
      ("evidence_page", .dict [("type", Value.strs ["string", "null"])]),
      ("risk_flags", .dict [("type", .str "array"),
        ("items", .dict [("type", .str "string"),
          ("enum", Value.strs ["author_swap", "isbn_conflict", "edition_ambiguous",
            "cover_mismatch", "wrong_book", "series_mismatch", "publisher_mismatch", "title_noisy",
            "language_mismatch"])])])]),
    ("required", Value.strs ["field", "verdict", "confidence", "selected_value", "reasons",
      "evidence_quote"]),
    ("additionalProperties", .bool false)]

/-- `_SYSTEM_PROMPT`. -/
def systemPrompt : String :=
"You are a library-metadata adjudicator, not a generator. Your only job is
to decide whether the metadata Calibre currently has for a book matches what the
book actually contains.

RULES:
1. Only respond with the JSON schema requested. No prose, no markdown.
2. If the book content supports the declared value, return verdict=\"confirmed\".
3. If the book content disagrees with the declared value, return verdict=\"mismatch\"
   and set selected_value to what the book actually says.
4. If the book content is missing or unreadable, return verdict=\"still_ambiguous\".
5. ALWAYS cite the exact substring from the book that supports your verdict in
   evidence_quote. If you cannot, your confidence must be < 50.
6. NEVER invent metadata. If you are unsure, return still_ambiguous.
7. NEVER change a field's risk_flags to less severe than the deterministic engine's.
8. If the declared value and the book content differ only by trivial formatting
   (punctuation, edition tags like \"(Special Edition)\", transliteration), treat
   them as confirmed and note the variance in reasons.
"

variable (py : WitnessRuntime)

/-- One line on a piece of evidence. -/
def evidenceLine (snippetChars : ℕ) (ev : EvidenceSpan) : String :=
  let text := if snippetChars < ev.text.length then
    String.ofList (ev.text.toList.take snippetChars) ++ "..." else ev.text
  let page := match ev.pageRange with
    | some range => if range = "" then "?" else range
    | none => "?"
  "  - source=" ++ ev.source ++ " page=" ++ page ++ " conf=" ++ toString ev.confidence ++ ": " ++
    py.reprValue (.str text)

/-- `build_witness_prompt`. -/
def buildWitnessPrompt (fieldName : String) (declaredValue observedValue : Value)
    (observedEvidence : List EvidenceSpan) (deterministicVerdict : VerdictKind)
    (deterministicConfidence : ℕ) (deterministicReason bookTitle : Option String)
    (bookAuthors : List String) (snippetChars : ℕ) : List Entries :=
  let snippetBlock := "\n".intercalate ((observedEvidence.take 3).map (evidenceLine py snippetChars))
  let reason := deterministicReason.getD ""
  let title := bookTitle.getD ""
  let parts : List String :=
    ["FIELD TO ADJUDICATE: " ++ fieldName, "",
      "DECLARED (Calibre): " ++ py.reprValue declaredValue,
      "OBSERVED (extracted from book): " ++ py.reprValue observedValue, "",
      "DETERMINISTIC ENGINE SAID: verdict=" ++ deterministicVerdict.value ++ " confidence=" ++
        toString deterministicConfidence] ++
    (if reason = "" then [] else ["  reason: " ++ reason]) ++ [""] ++
    (if title = "" ∧ bookAuthors = [] then [] else
      ["BOOK CONTEXT (for disambiguation):"] ++
      (if title = "" then [] else
        ["  title (from book content): " ++ py.reprValue (.str title)]) ++
      (if bookAuthors = [] then [] else
        ["  authors (from book content): " ++ py.reprValue (Value.strs bookAuthors)]) ++ [""]) ++
    (if snippetBlock = "" then [] else ["EXTRACTED EVIDENCE SPANS:", snippetBlock, ""]) ++
    ["Return JSON. verdict=still_ambiguous if you cannot decide."]
  [[("role", .str "system"), ("content", .str systemPrompt)],
    [("role", .str "user"), ("content", .str ("\n".intercalate parts))]]

/-! ### The refined verdict -/

/-- `int(value)`. -/
def toInt : Value → Except PyError ℤ
  | .bool b => .ok (if b then 1 else 0)
  | .int n => .ok n.1
  | .float (.finite q) => .ok (if 0 ≤ q then ⌊q⌋ else ⌈q⌉)
  | .float (.infinite _) => .error ⟨.other, "cannot convert float infinity to integer"⟩
  | .float .nan => .error ⟨.value, "cannot convert float NaN to integer"⟩
  | .str s => py.parseInt s
  | v => .error ⟨.type, "int() argument must be a string, a bytes-like object or a real number, not '"
      ++ typeName v ++ "'"⟩

/-- `int(parsed.get(key, default))`. -/
def readInt (parsed : Entries) (key : String) (default : ℤ) : Except PyError ℤ :=
  match Assoc.get? key parsed with
  | some v => toInt py v
  | none => .ok default

/-- `parsed.get(key)`, or nothing if that is false. -/
def truthyAt (parsed : Entries) (key : String) : Option Value :=
  (Assoc.get? key parsed).filter Value.truthy

/-- The elements of a value in a loop over it. -/
def iterate : Value → Except PyError (List Value)
  | .str s => .ok (s.toList.map fun c => .str (String.singleton c))
  | .list xs => .ok xs
  | .dict kvs => .ok (kvs.map fun p => .str p.1)
  | v => .error ⟨.type, "'" ++ typeName v ++ "' object is not iterable"⟩

/-- The verdict that an answer names. -/
def verdictOf (parsed : Entries) : VerdictKind :=
  match py.lower (((Assoc.get? "verdict" parsed).getD (.str "still_ambiguous")).toStr
      py.toRuleRuntime) with
  | "confirmed" => .confirmed
  | "mismatch" => .mismatch
  | "missing" => .missing
  | _ => .ambiguous

/-- The evidence that an answer cites. -/
def quotedEvidence (parsed : Entries) (confidence : ℕ) : Except PyError (List EvidenceSpan) :=
  match truthyAt parsed "evidence_quote" with
  | none => .ok []
  | some quote =>
    let span (pageRange : Option String) : EvidenceSpan :=
      { source := "llm_witness", text := quote.toStr py.toRuleRuntime, pageRange, confidence }
    match Assoc.get? "evidence_page" parsed with
    | none => .ok [span none]
    | some .null => .ok [span none]
    | some (.str page) => .ok [span (some page)]
    | some page => .error ⟨.value, py.pageRangeError page⟩

/-- `set(parsed.get("risk_flags") or [])`. -/
def flagSet (parsed : Entries) : Except PyError (List Value) :=
  match truthyAt parsed "risk_flags" with
  | none => .ok []
  | some v => do
    let flags ← iterate v
    match flags.find? Value.isContainer with
    | some flag => .error ⟨.type, "unhashable type: '" ++ typeName flag ++ "'"⟩
    | none => return flags

/-- The reason of the refined verdict. -/
def finalReason (original : FieldVerdict) (parsed : Entries) : Except PyError (Option String) :=
  match truthyAt parsed "reasons" with
  | none => .ok original.reason
  | some (.str reason) => .ok (some reason)
  | some v => (iterate v).map fun reasons =>
      some ("; ".intercalate (reasons.map fun r => r.toStr py.toRuleRuntime))

/-- The strings of a list, if it has nothing else. -/
def allStrings : List Value → Option (List String)
  | [] => some []
  | .str s :: vs => (allStrings vs).map (s :: ·)
  | _ :: _ => none

/-- The merged flags, sorted and validated. -/
def mergedFlags (original : List String) (llmFlags : List Value) : Except PyError (List String) :=
  match allStrings llmFlags with
  | some flags => .ok (sorted (distinct (original ++ flags)))
  | none => .error (py.riskFlagsError llmFlags)

/-- `_build_refined_verdict`. -/
def buildRefinedVerdict (fieldName : String) (original : FieldVerdict) (parsed : Entries)
    (judgeCall : Option JudgeCall) : Except PyError FieldVerdict := do
  let verdict := verdictOf py parsed
  let read ← readInt py parsed "confidence" 50
  let confidence := (max 0 (min 100 read)).toNat
  let quoted ← quotedEvidence py parsed confidence
  let llmFlags ← flagSet parsed
  let reason ← finalReason py original parsed
  let riskFlags ← mergedFlags py original.riskFlags llmFlags
  return {
    field := fieldName
    declaredValue := original.declaredValue
    observedValue := (Assoc.get? "selected_value" parsed).getD original.observedValue
    verdict := verdict
    confidence := if verdict = .ambiguous then original.confidence else confidence
    evidence := original.evidence ++ quoted
    judgeCalls := original.judgeCalls ++ judgeCall.toList
    requiresReview := verdict = .ambiguous || original.requiresReview
    riskFlags := riskFlags
    reason := reason
    isDeterministic := false }

/-! ### The cache of answers -/

/-- `WitnessCacheEntry`. -/
structure WitnessCacheEntry where
  response : Entries
  judgeCall : Option JudgeCall
  createdAt : ℚ

/-- `WitnessCache`. It starts empty and never outgrows its bound. -/
structure WitnessCache where
  maxSize : ℕ := 10000
  ttl : ℤ := 24 * 3600
  entries : List (String × WitnessCacheEntry) := []
  bounded : entries.length ≤ maxSize

namespace WitnessCache

/-- Without one entry. -/
def pop (cache : WitnessCache) (promptHash : String) : WitnessCache where
  maxSize := cache.maxSize
  ttl := cache.ttl
  entries := Assoc.erase promptHash cache.entries
  bounded := (List.length_filter_le _ _).trans cache.bounded

/-- The entry under a digest that has not expired. -/
def live (cache : WitnessCache) (now : ℚ) (promptHash : String) : Option WitnessCacheEntry :=
  (Assoc.get? promptHash cache.entries).filter fun entry => now - entry.createdAt ≤ cache.ttl

/-- `get`. An expired entry is dropped. -/
def get (cache : WitnessCache) (now : ℚ) (promptHash : String) :
    Option WitnessCacheEntry × WitnessCache :=
  match cache.live now promptHash with
  | some entry => (some entry, cache)
  | none => (none, cache.pop promptHash)

theorem length_set_le {κ ρ : Type*} [DecidableEq κ] (k : κ) (v : ρ) (l : List (κ × ρ)) :
    (Assoc.set k v l).length ≤ l.length + 1 := by
  induction l with
  | nil => exact le_rfl
  | cons p l ih =>
    rw [Assoc.set]
    split
    · exact Nat.le_succ _
    · exact Nat.succ_le_succ ih

theorem length_erase_lt {κ ρ : Type*} [DecidableEq κ] {p : κ × ρ} {l : List (κ × ρ)} (h : p ∈ l) :
    (Assoc.erase p.1 l).length < l.length :=
  List.length_filter_lt_length_iff_exists.mpr ⟨p, h, by simp⟩

/-- The entry that `put` evicts: the oldest. -/
def oldest (cache : WitnessCache) : Option (String × WitnessCacheEntry) :=
  cache.entries.argmin fun p => p.2.createdAt

theorem oldest_mem {cache : WitnessCache} {p : String × WitnessCacheEntry}
    (h : cache.oldest = some p) : p ∈ cache.entries := List.argmin_mem h

/-- `put`. A full cache loses its oldest entry first. -/
def put (cache : WitnessCache) (promptHash : String) (entry : WitnessCacheEntry) :
    Except PyError WitnessCache :=
  if hfull : cache.maxSize ≤ cache.entries.length then
    match hold : cache.oldest with
    | none => .error ⟨.value, "min() iterable argument is empty"⟩
    | some p => .ok {
        maxSize := cache.maxSize
        ttl := cache.ttl
        entries := Assoc.set promptHash entry (Assoc.erase p.1 cache.entries)
        bounded := (length_set_le _ _ _).trans
          (lt_of_lt_of_le (length_erase_lt (oldest_mem hold)) cache.bounded) }
  else .ok {
    maxSize := cache.maxSize
    ttl := cache.ttl
    entries := Assoc.set promptHash entry cache.entries
    bounded := (length_set_le _ _ _).trans (not_le.mp hfull) }

end WitnessCache

/-! ### The witness -/

/-- What the witness asks: an `LLMRouter`, or a stand-in for one. -/
structure WitnessRouter where
  /-- `str(settings.judge_model)`. -/
  judgeModel : String
  executeStructured : String → LLMRequest → Value → Except PyError Content
  /-- `get_provider_for_task(task).name`. -/
  providerName : String → Except PyError String

/-- The router of `llm/router.py` as the witness uses it. -/
def witnessRouter (py : Runtime) (router : LLMRouter) : WitnessRouter where
  judgeModel := router.settings.judgeModel
  executeStructured := router.executeStructured py
  providerName task := (router.getProviderForTask py task).map Llm.LLMProvider.name

/-- `WitnessConfig`, the part that is read. -/
structure WitnessConfig where
  maxRemoteChars : ℕ := 4000
  cacheResponses : Bool := true

/-- `LLMWitness`, without its cache. -/
structure LLMWitness where
  router : WitnessRouter
  config : WitnessConfig := {}

/-- What the clocks show during a call: at the look into the cache, for the time that the router
takes, and when the entry is made. -/
structure Clock where
  asked : ℚ
  durationMs : ℤ
  stored : ℚ

/-- `WitnessResult`. -/
structure WitnessResult where
  field : String
  success : Bool
  refinedVerdict : Option FieldVerdict := none
  judgeCall : Option JudgeCall := none
  error : Option String := none
  cacheHit : Bool := false

/-- A field and the context of its book. -/
structure Question where
  fieldName : String
  currentFv : FieldVerdict
  bookTitle : Option String := none
  bookAuthors : List String := []

namespace LLMWitness

variable (w : LLMWitness)

/-- The messages that put a question. -/
def messages (q : Question) : List Entries :=
  buildWitnessPrompt py q.fieldName q.currentFv.declaredValue q.currentFv.observedValue
    q.currentFv.evidence q.currentFv.verdict q.currentFv.confidence q.currentFv.reason q.bookTitle
    q.bookAuthors w.config.maxRemoteChars

/-- The digest of the prompt. -/
def promptHash (q : Question) : String :=
  py.digest (.dict [("messages", .list ((w.messages py q).map .dict)), ("schema", witnessSchema)])

/-- The request that is sent. -/
def request (q : Question) : LLMRequest :=
  { messages := w.messages py q, model := w.router.judgeModel, jsonSchema := true }

/-- The task that the witness routes under. -/
def task : String := "deep_reasoning"

/-- A result without success. -/
def failed (q : Question) (error : String) : WitnessResult :=
  { field := q.fieldName, success := false, error := some error }

/-- The value in a response, or the error of the result. -/
def parseContent : Content → Except String Value
  | .text s =>
    match py.loads s with
    | .ok v => .ok v
    | .error (.notJson message) => .error ("LLM returned non-JSON: " ++ message)
    | .error (.raised e) => .error e.message
  | .dict kvs => .ok (.dict kvs)
  | .other name => .error ("Unexpected response type: <class '" ++ name ++ "'>")

/-- A value that `.get` is called on. -/
def asDict : Value → Except String Entries
  | .dict kvs => .ok kvs
  | v => .error ("'" ++ typeName v ++ "' object has no attribute 'get'")

/-- The live call, up to the record of it. -/
def liveCall (clock : Clock) (q : Question) : Except String (Entries × JudgeCall) := do
  let content ← (w.router.executeStructured task (w.request py q) witnessSchema).mapError
    PyError.message
  let parsed ← parseContent py content
  let provider ← (w.router.providerName task).mapError PyError.message
  let response ← asDict parsed
  let tokensIn ← (readInt py response "_tokens_in" 0).mapError PyError.message
  let tokensOut ← (readInt py response "_tokens_out" 0).mapError PyError.message
  let printed ← (py.dumps (.dict response)).mapError PyError.message
  return (response, {
    provider := provider
    model := w.router.judgeModel
    promptHash := String.ofList ((w.promptHash py q).toList.take 16)
    responseHash := String.ofList ((py.sha256 printed).toList.take 16)
    tokensIn := tokensIn
    tokensOut := tokensOut
    durationMs := clock.durationMs })

/-- The part of `witness_field` behind the look into the cache. Every exception ends in a result. -/
def askRouter (clock : Clock) (cache : WitnessCache) (q : Question) :
    WitnessResult × WitnessCache :=
  match w.liveCall py clock q with
  | .error message => (failed q message, cache)
  | .ok (response, judgeCall) =>
    let entry : WitnessCacheEntry :=
      { response, judgeCall := some judgeCall, createdAt := clock.stored }
    match (if w.config.cacheResponses then cache.put (w.promptHash py q) entry else .ok cache) with
    | .error e => (failed q e.message, cache)
    | .ok cache' =>
      match buildRefinedVerdict py q.fieldName q.currentFv response (some judgeCall) with
      | .error e => (failed q e.message, cache')
      | .ok refined =>
        ({ field := q.fieldName, success := true, refinedVerdict := some refined
           judgeCall := some judgeCall }, cache')

/-- `witness_field`: the result or the exception, and the cache after the call. -/
def witnessField (clock : Clock) (cache : WitnessCache) (q : Question) :
    Except PyError WitnessResult × WitnessCache :=
  if q.currentFv.verdict ≠ .ambiguous then
    (.ok (failed q ("field is " ++ q.currentFv.verdict.value ++ ", not ambiguous")), cache)
  else if w.config.cacheResponses then
    match cache.get clock.asked (w.promptHash py q) with
    | (some entry, cache) =>
      ((buildRefinedVerdict py q.fieldName q.currentFv entry.response none).map fun refined =>
        { field := q.fieldName, success := true, refinedVerdict := some refined
          judgeCall := entry.judgeCall, cacheHit := true }, cache)
    | (none, cache) =>
      let (result, cache) := w.askRouter py clock cache q
      (.ok result, cache)
  else
    let (result, cache) := w.askRouter py clock cache q
    (.ok result, cache)

end LLMWitness

end Bookwarden.Verification
