import Mathlib.Data.List.Dedup
import Bookwarden.Verification.Witness

/-!
# Asking the witness again

A second call with the same question is served from the cache if the first one left an entry. The
two paths differ. The live one adds the record of its call to the verdict and turns every exception
into a result; the one from the cache adds nothing and refines outside any handler.

## Main definitions

* `Refinable` — the answers that a verdict can be refined from
* `Storable` — the answers that reach the cache
* `SameAgain` — what is owed to a second call
* `Repeatable` — when it is given

## Main results

* `buildRefinedVerdict_judgeCall` — the record of the call is all that the two paths differ in
* `exists_refined_iff`, `exists_liveCall_iff`
* `sameAgain_iff`
-/

namespace Bookwarden.Verification

variable {py : WitnessRuntime}

/-! ### What an answer must be to be refined -/

/-- `int` takes the value. -/
def HasInt (py : WitnessRuntime) : Value → Prop
  | .bool _ => True
  | .int _ => True
  | .float x => x.isFinite = true
  | .str s => ∃ n, py.parseInt s = .ok n
  | _ => False

/-- The value is there and false, or not there, or `p` holds of it. -/
def FalsyOr (p : Value → Prop) (parsed : Entries) (key : String) : Prop :=
  ∀ v, Assoc.get? key parsed = some v → v.truthy = true → p v

/-- A loop can run over the value. -/
def IsIterable : Value → Prop
  | .str _ => True
  | .list _ => True
  | .dict _ => True
  | _ => False

/-- Nothing or a string. -/
def IsOptionalText : Value → Prop
  | .null => True
  | .str _ => True
  | _ => False

/-- The elements are strings: a text, a dictionary, or a list of strings. -/
def HasStrings : Value → Prop
  | .str _ => True
  | .list xs => ∀ x ∈ xs, ∃ s, x = .str s
  | .dict _ => True
  | _ => False

/-- The answers that a verdict can be refined from. -/
structure Refinable (py : WitnessRuntime) (parsed : Entries) : Prop where
  confidence : ∀ v, Assoc.get? "confidence" parsed = some v → HasInt py v
  evidencePage : FalsyOr (fun _ => ∀ page, Assoc.get? "evidence_page" parsed = some page →
    IsOptionalText page) parsed "evidence_quote"
  riskFlags : FalsyOr HasStrings parsed "risk_flags"
  reasons : FalsyOr IsIterable parsed "reasons"

theorem exists_toInt_iff {v : Value} : (∃ n, toInt py v = .ok n) ↔ HasInt py v := by
  cases v with
  | float x => cases x <;> simp [toInt, HasInt, Double.isFinite]
  | _ => simp [toInt, HasInt]

theorem exists_readInt_iff {parsed : Entries} {key : String} {default : ℤ} :
    (∃ n, readInt py parsed key default = .ok n) ↔
      ∀ v, Assoc.get? key parsed = some v → HasInt py v := by
  rw [readInt]
  cases Assoc.get? key parsed with
  | none => simp
  | some v => simp [exists_toInt_iff]

theorem exists_iterate_iff {v : Value} : (∃ vs, iterate v = .ok vs) ↔ IsIterable v := by
  cases v <;> simp [iterate, IsIterable]

theorem truthyAt_eq_some {parsed : Entries} {key : String} {v : Value} :
    truthyAt parsed key = some v ↔ Assoc.get? key parsed = some v ∧ v.truthy = true := by
  rw [truthyAt, Option.filter_eq_some_iff]

theorem exists_quotedEvidence_iff {parsed : Entries} {confidence : ℕ} :
    (∃ quoted, quotedEvidence py parsed confidence = .ok quoted) ↔
      FalsyOr (fun _ => ∀ page, Assoc.get? "evidence_page" parsed = some page →
        IsOptionalText page) parsed "evidence_quote" := by
  rw [quotedEvidence]
  cases hq : truthyAt parsed "evidence_quote" with
  | none =>
    refine ⟨fun _ v hv htrue => ?_, fun _ => ⟨_, rfl⟩⟩
    rw [truthyAt_eq_some.mpr ⟨hv, htrue⟩] at hq
    cases hq
  | some quote =>
    obtain ⟨hquote, htrue⟩ := truthyAt_eq_some.mp hq
    have hiff : FalsyOr (fun _ => ∀ page, Assoc.get? "evidence_page" parsed = some page →
        IsOptionalText page) parsed "evidence_quote" ↔
        ∀ page, Assoc.get? "evidence_page" parsed = some page → IsOptionalText page :=
      ⟨fun h => h quote hquote htrue, fun h _ _ _ => h⟩
    rw [hiff]
    cases Assoc.get? "evidence_page" parsed with
    | none => simp
    | some page => cases page <;> simp [IsOptionalText]

theorem allStrings_isSome_iff {vs : List Value} :
    (∃ ss, allStrings vs = some ss) ↔ ∀ v ∈ vs, ∃ s, v = .str s := by
  induction vs with
  | nil => simp [allStrings]
  | cons v vs ih =>
    rw [List.forall_mem_cons, ← ih]
    cases v <;> simp [allStrings, Option.map_eq_some_iff]

theorem flagSet_of_none {parsed : Entries} (h : truthyAt parsed "risk_flags" = none) :
    flagSet parsed = .ok [] := by
  rw [flagSet, h]

theorem flagSet_of_find_none {parsed : Entries} {v : Value} {flags : List Value}
    (h : truthyAt parsed "risk_flags" = some v) (hiter : iterate v = .ok flags)
    (hnone : flags.find? Value.isContainer = none) : flagSet parsed = .ok flags := by
  rw [flagSet, h]
  simp only [hiter, hnone, bind, Except.bind]
  rfl

theorem flagSet_of_find_some {parsed : Entries} {v flag : Value} {flags : List Value}
    (h : truthyAt parsed "risk_flags" = some v) (hiter : iterate v = .ok flags)
    (hsome : flags.find? Value.isContainer = some flag) :
    flagSet parsed = .error ⟨.type, "unhashable type: '" ++ Llm.typeName flag ++ "'"⟩ := by
  rw [flagSet, h]
  simp only [hiter, hsome, bind, Except.bind]

theorem flagSet_of_iterate_error {parsed : Entries} {v : Value} {e : PyError}
    (h : truthyAt parsed "risk_flags" = some v) (hiter : iterate v = .error e) :
    flagSet parsed = .error e := by
  rw [flagSet, h]
  simp only [hiter, bind, Except.bind]

theorem exists_flags_iff {parsed : Entries} {original : List String} :
    (∃ llmFlags, flagSet parsed = .ok llmFlags ∧
      ∃ flags, mergedFlags py original llmFlags = .ok flags) ↔
      FalsyOr HasStrings parsed "risk_flags" := by
  have hmerged : ∀ llmFlags, (∃ flags, mergedFlags py original llmFlags = .ok flags) ↔
      ∀ v ∈ llmFlags, ∃ s, v = .str s := by
    intro llmFlags
    rw [← allStrings_isSome_iff, mergedFlags]
    cases allStrings llmFlags <;> simp
  simp only [hmerged]
  cases hflags : truthyAt parsed "risk_flags" with
  | none =>
    refine ⟨fun _ v hv htrue => ?_, fun _ => ⟨[], flagSet_of_none hflags, by simp⟩⟩
    rw [truthyAt_eq_some.mpr ⟨hv, htrue⟩] at hflags
    cases hflags
  | some v =>
    obtain ⟨hv, htrue⟩ := truthyAt_eq_some.mp hflags
    have hiff : FalsyOr HasStrings parsed "risk_flags" ↔ HasStrings v := by
      refine ⟨fun h => h v hv htrue, fun h w hw _ => ?_⟩
      rwa [← Option.some.inj (hv.symm.trans hw)]
    have hstrings : ∀ ss : List String, (ss.map Value.str).find? Value.isContainer = none :=
      fun ss => List.find?_eq_none.mpr fun x hx => by
        obtain ⟨s, -, rfl⟩ := List.mem_map.mp hx
        simp [Value.isContainer]
    rw [hiff]
    cases v with
    | str s =>
      simp only [HasStrings, iff_true]
      refine ⟨s.toList.map fun c => .str (String.singleton c), ?_, by simp⟩
      have hnone := hstrings (s.toList.map String.singleton)
      rw [List.map_map] at hnone
      exact flagSet_of_find_none hflags rfl hnone
    | dict kvs =>
      simp only [HasStrings, iff_true]
      refine ⟨kvs.map fun p => .str p.1, ?_, fun v hv => ?_⟩
      swap
      · obtain ⟨p, -, rfl⟩ := List.mem_map.mp hv
        exact ⟨p.1, rfl⟩
      have hnone := hstrings (kvs.map Prod.fst)
      rw [List.map_map] at hnone
      exact flagSet_of_find_none hflags rfl hnone
    | list xs =>
      rw [HasStrings]
      cases hfind : xs.find? Value.isContainer with
      | none =>
        rw [flagSet_of_find_none hflags rfl hfind]
        simp
      | some flag =>
        rw [flagSet_of_find_some hflags rfl hfind]
        have hmem := List.mem_of_find?_eq_some hfind
        have hcontainer := List.find?_some hfind
        constructor
        · rintro ⟨_, h, -⟩
          cases h
        · intro h
          obtain ⟨s, rfl⟩ := h flag hmem
          cases hcontainer
    | null => cases htrue
    | bool b =>
      rw [flagSet_of_iterate_error hflags rfl]
      simp [HasStrings]
    | int n =>
      rw [flagSet_of_iterate_error hflags rfl]
      simp [HasStrings]
    | float x =>
      rw [flagSet_of_iterate_error hflags rfl]
      simp [HasStrings]

theorem exists_finalReason_iff {original : FieldVerdict} {parsed : Entries} :
    (∃ reason, finalReason py original parsed = .ok reason) ↔
      FalsyOr IsIterable parsed "reasons" := by
  rw [finalReason]
  cases hreasons : truthyAt parsed "reasons" with
  | none =>
    refine ⟨fun _ v hv htrue => ?_, fun _ => ⟨_, rfl⟩⟩
    rw [truthyAt_eq_some.mpr ⟨hv, htrue⟩] at hreasons
    cases hreasons
  | some v =>
    obtain ⟨hv, htrue⟩ := truthyAt_eq_some.mp hreasons
    have hiff : FalsyOr IsIterable parsed "reasons" ↔ IsIterable v := by
      refine ⟨fun h => h v hv htrue, fun h w hw _ => ?_⟩
      rwa [← Option.some.inj (hv.symm.trans hw)]
    rw [hiff]
    cases v <;> simp [iterate, IsIterable, Except.map]

variable {fieldName : String} {original : FieldVerdict} {parsed : Entries}

/-- An answer is refined to a verdict exactly if it is of the right types. -/
theorem exists_refined_iff {judgeCall : Option JudgeCall} :
    (∃ refined, buildRefinedVerdict py fieldName original parsed judgeCall = .ok refined) ↔
      Refinable py parsed := by
  have hfields : Refinable py parsed ↔
      (∃ n, readInt py parsed "confidence" 50 = .ok n) ∧
      (∀ confidence, ∃ quoted, quotedEvidence py parsed confidence = .ok quoted) ∧
      (∃ llmFlags, flagSet parsed = .ok llmFlags ∧
        ∃ flags, mergedFlags py original.riskFlags llmFlags = .ok flags) ∧
      ∃ reason, finalReason py original parsed = .ok reason := by
    simp only [exists_readInt_iff, exists_quotedEvidence_iff, exists_flags_iff,
      exists_finalReason_iff, forall_const]
    exact ⟨fun h => ⟨h.1, h.2, h.3, h.4⟩, fun h => ⟨h.1, h.2.1, h.2.2.1, h.2.2.2⟩⟩
  rw [hfields]
  constructor
  · rintro ⟨refined, h⟩
    obtain ⟨n, hn, h⟩ := Except.exists_of_bind_eq_ok h
    obtain ⟨quoted, hquoted, h⟩ := Except.exists_of_bind_eq_ok h
    obtain ⟨llmFlags, hllm, h⟩ := Except.exists_of_bind_eq_ok h
    obtain ⟨reason, hreason, h⟩ := Except.exists_of_bind_eq_ok h
    obtain ⟨flags, hflags, -⟩ := Except.exists_of_bind_eq_ok h
    refine ⟨⟨n, hn⟩, fun confidence => ?_, ⟨llmFlags, hllm, flags, hflags⟩, reason, hreason⟩
    exact exists_quotedEvidence_iff.mpr (exists_quotedEvidence_iff.mp ⟨quoted, hquoted⟩)
  · rintro ⟨⟨n, hn⟩, hquoted, ⟨llmFlags, hllm, flags, hflags⟩, reason, hreason⟩
    obtain ⟨quoted, hquoted⟩ := hquoted (max 0 (min 100 n)).toNat
    rw [buildRefinedVerdict, hn, hllm, hreason]
    simp [bind, Except.bind, pure, Except.pure, hquoted, hflags]

/-- The record of the call is all that a refined verdict takes from it. -/
theorem buildRefinedVerdict_judgeCall (judgeCall : Option JudgeCall) :
    buildRefinedVerdict py fieldName original parsed judgeCall =
      (buildRefinedVerdict py fieldName original parsed none).map fun refined =>
        { refined with judgeCalls := original.judgeCalls ++ judgeCall.toList } := by
  rw [buildRefinedVerdict, buildRefinedVerdict]
  cases readInt py parsed "confidence" 50 with
  | error e => rfl
  | ok n =>
    cases hquoted : quotedEvidence py parsed (max 0 (min 100 n)).toNat with
    | error e => simp [bind, Except.bind, Except.map, hquoted]
    | ok quoted =>
      cases hflags : flagSet parsed with
      | error e => simp [bind, Except.bind, Except.map, hquoted]
      | ok llmFlags =>
        cases hreason : finalReason py original parsed with
        | error e => simp [bind, Except.bind, Except.map, hquoted]
        | ok reason =>
          cases hmerged : mergedFlags py original.riskFlags llmFlags with
          | error e => simp [bind, Except.bind, Except.map, hquoted, hmerged]
          | ok flags => simp [bind, Except.bind, Except.map, pure, Except.pure, hquoted, hmerged]

theorem judgeCalls_of_refined {judgeCall : Option JudgeCall} {refined : FieldVerdict}
    (h : buildRefinedVerdict py fieldName original parsed judgeCall = .ok refined) :
    refined.judgeCalls = original.judgeCalls ++ judgeCall.toList := by
  rw [buildRefinedVerdict_judgeCall] at h
  cases hnone : buildRefinedVerdict py fieldName original parsed none with
  | error e =>
    rw [hnone] at h
    cases h
  | ok v =>
    rw [hnone] at h
    rw [← Except.ok.inj h]

/-- No flag of the original verdict is lost. -/
theorem riskFlags_subset_refined {judgeCall : Option JudgeCall} {refined : FieldVerdict}
    (h : buildRefinedVerdict py fieldName original parsed judgeCall = .ok refined) :
    original.riskFlags ⊆ refined.riskFlags := by
  obtain ⟨n, -, h⟩ := Except.exists_of_bind_eq_ok h
  obtain ⟨quoted, -, h⟩ := Except.exists_of_bind_eq_ok h
  obtain ⟨llmFlags, -, h⟩ := Except.exists_of_bind_eq_ok h
  obtain ⟨reason, -, h⟩ := Except.exists_of_bind_eq_ok h
  obtain ⟨flags, hflags, h⟩ := Except.exists_of_bind_eq_ok h
  rw [← Except.ok.inj h]
  intro flag hflag
  rw [mergedFlags] at hflags
  cases hall : allStrings llmFlags with
  | none =>
    rw [hall] at hflags
    cases hflags
  | some ss =>
    rw [hall] at hflags
    rw [← Except.ok.inj hflags, sorted, List.mem_insertionSort, distinct, List.mem_dedup]
    exact List.mem_append_left _ hflag

/-! ### What reaches the cache -/

variable {w : LLMWitness} {q : Question}

/-- The router answers with a dictionary that can be recorded. -/
structure Storable (py : WitnessRuntime) (w : LLMWitness) (q : Question) (response : Entries) :
    Prop where
  answered : ∃ content, w.router.executeStructured LLMWitness.task (w.request py q) witnessSchema =
    .ok content ∧ (content = .dict response ∨
      ∃ text, content = .text text ∧ py.loads text = .ok (.dict response))
  provider : ∃ name, w.router.providerName LLMWitness.task = .ok name
  tokensIn : ∀ v, Assoc.get? "_tokens_in" response = some v → HasInt py v
  tokensOut : ∀ v, Assoc.get? "_tokens_out" response = some v → HasInt py v
  printed : ∃ text, py.dumps (.dict response) = .ok text

theorem asDict_eq_ok_iff {v : Value} {kvs : Entries} :
    LLMWitness.asDict v = .ok kvs ↔ v = .dict kvs := by
  cases v <;> simp [LLMWitness.asDict]

theorem parseContent_eq_dict_iff {content : Llm.Content} {kvs : Entries} :
    LLMWitness.parseContent py content = .ok (.dict kvs) ↔ content = .dict kvs ∨
      ∃ text, content = .text text ∧ py.loads text = .ok (.dict kvs) := by
  cases content with
  | text s =>
    rw [LLMWitness.parseContent]
    cases hload : py.loads s with
    | ok v => simp [hload]
    | error e => cases e <;> simp [hload]
  | dict kvs' => simp [LLMWitness.parseContent]
  | other name => simp [LLMWitness.parseContent]

/-- A live call gets as far as its record exactly if the answer is storable. -/
theorem exists_liveCall_iff {clock : Clock} {response : Entries} :
    (∃ judgeCall, w.liveCall py clock q = .ok (response, judgeCall)) ↔ Storable py w q response := by
  constructor
  · rintro ⟨judgeCall, h⟩
    obtain ⟨content, hcontent, h⟩ := Except.exists_of_bind_eq_ok h
    obtain ⟨parsed, hparsed, h⟩ := Except.exists_of_bind_eq_ok h
    obtain ⟨provider, hprovider, h⟩ := Except.exists_of_bind_eq_ok h
    obtain ⟨response', hdict, h⟩ := Except.exists_of_bind_eq_ok h
    obtain ⟨tokensIn, hin, h⟩ := Except.exists_of_bind_eq_ok h
    obtain ⟨tokensOut, hout, h⟩ := Except.exists_of_bind_eq_ok h
    obtain ⟨printed, hprinted, h⟩ := Except.exists_of_bind_eq_ok h
    obtain ⟨rfl, -⟩ := Prod.mk.inj (Except.ok.inj h)
    obtain rfl := asDict_eq_ok_iff.mp hdict
    exact ⟨⟨content, Except.eq_ok_of_mapError hcontent, parseContent_eq_dict_iff.mp hparsed⟩,
      ⟨provider, Except.eq_ok_of_mapError hprovider⟩,
      exists_readInt_iff.mp ⟨tokensIn, Except.eq_ok_of_mapError hin⟩,
      exists_readInt_iff.mp ⟨tokensOut, Except.eq_ok_of_mapError hout⟩,
      ⟨printed, Except.eq_ok_of_mapError hprinted⟩⟩
  · intro h
    obtain ⟨content, hcontent, hparsed⟩ := h.answered
    obtain ⟨provider, hprovider⟩ := h.provider
    obtain ⟨tokensIn, hin⟩ : ∃ n, readInt py response "_tokens_in" 0 = .ok n :=
      exists_readInt_iff.mpr h.tokensIn
    obtain ⟨tokensOut, hout⟩ : ∃ n, readInt py response "_tokens_out" 0 = .ok n :=
      exists_readInt_iff.mpr h.tokensOut
    obtain ⟨printed, hprinted⟩ := h.printed
    rw [LLMWitness.liveCall, hcontent, hprovider]
    simp [bind, Except.bind, Except.mapError, pure, Except.pure,
      parseContent_eq_dict_iff.mpr hparsed, asDict_eq_ok_iff.mpr rfl, hin, hout, hprinted]

/-- Two live calls differ in the time that they take alone. -/
theorem liveCall_clock (first second : Clock) :
    w.liveCall py second q = (w.liveCall py first q).map fun answer =>
      (answer.1, { answer.2 with durationMs := second.durationMs }) := by
  rw [LLMWitness.liveCall, LLMWitness.liveCall]
  cases (w.router.executeStructured LLMWitness.task (w.request py q) witnessSchema).mapError
      PyError.message with
  | error e => rfl
  | ok content =>
    cases hparsed : LLMWitness.parseContent py content with
    | error e => simp [bind, Except.bind, Except.map, hparsed]
    | ok parsed =>
      cases (w.router.providerName LLMWitness.task).mapError PyError.message with
      | error e => simp [bind, Except.bind, Except.map, hparsed]
      | ok provider =>
        cases hdict : LLMWitness.asDict parsed with
        | error e => simp [bind, Except.bind, Except.map, hparsed, hdict]
        | ok response =>
          cases hin : (readInt py response "_tokens_in" 0).mapError PyError.message with
          | error e => simp [bind, Except.bind, Except.map, hparsed, hdict, hin]
          | ok tokensIn =>
            cases hout : (readInt py response "_tokens_out" 0).mapError PyError.message with
            | error e => simp [bind, Except.bind, Except.map, hparsed, hdict, hin, hout]
            | ok tokensOut =>
              cases hprinted : (py.dumps (.dict response)).mapError PyError.message with
              | error e => simp [bind, Except.bind, Except.map, hparsed, hdict, hin, hout, hprinted]
              | ok printed =>
                simp [bind, Except.bind, Except.map, pure, Except.pure, hparsed, hdict, hin, hout,
                  hprinted]

/-! ### The cache -/

namespace WitnessCache

variable {cache : WitnessCache} {now : ℚ} {hash : String} {entry : WitnessCacheEntry}

theorem put_eq_error (h : cache.maxSize = 0) :
    cache.put hash entry = .error ⟨.value, "min() iterable argument is empty"⟩ := by
  have hnil : cache.entries = [] :=
    List.eq_nil_of_length_eq_zero (Nat.le_zero.mp (h ▸ cache.bounded))
  have hold : cache.oldest = none := by
    rw [oldest, hnil]
    rfl
  rw [put, dif_pos (by rw [h]; exact Nat.zero_le _)]
  split
  · rfl
  · rename_i p hp
    rw [hold] at hp
    cases hp

theorem exists_put (h : cache.maxSize ≠ 0) : ∃ cache', cache.put hash entry = .ok cache' ∧
    cache'.maxSize = cache.maxSize ∧ cache'.ttl = cache.ttl ∧
      Assoc.get? hash cache'.entries = some entry := by
  rw [put]
  split
  · rename_i hfull
    have hne : cache.oldest ≠ none := by
      intro hnone
      rw [oldest, List.argmin_eq_none] at hnone
      rw [hnone] at hfull
      exact h (Nat.le_zero.mp hfull)
    split
    · rename_i hold
      exact absurd hold hne
    · exact ⟨_, rfl, rfl, rfl, by rw [Assoc.get?_set, if_pos rfl]⟩
  · exact ⟨_, rfl, rfl, rfl, by rw [Assoc.get?_set, if_pos rfl]⟩

theorem live_eq_some {now : ℚ} : cache.live now hash = some entry ↔
    Assoc.get? hash cache.entries = some entry ∧ now - entry.createdAt ≤ cache.ttl := by
  rw [live, Option.filter_eq_some_iff, decide_eq_true_iff]

theorem live_pop (now : ℚ) (hash : String) : (cache.pop hash).live now hash = none := by
  rw [live, pop, Assoc.get?_erase, if_pos rfl]
  rfl

end WitnessCache

/-! ### One call -/

variable {cache : WitnessCache} {clock : Clock}

theorem witnessField_hit (hq : q.currentFv.verdict = .ambiguous)
    (hcache : w.config.cacheResponses = true) {entry : WitnessCacheEntry}
    (h : cache.live clock.asked (w.promptHash py q) = some entry) :
    w.witnessField py clock cache q =
      ((buildRefinedVerdict py q.fieldName q.currentFv entry.response none).map fun refined =>
        { field := q.fieldName, success := true, refinedVerdict := some refined
          judgeCall := entry.judgeCall, cacheHit := true }, cache) := by
  rw [LLMWitness.witnessField, if_neg (not_not.mpr hq), if_pos hcache, WitnessCache.get, h]

theorem witnessField_miss (hq : q.currentFv.verdict = .ambiguous)
    (hcache : w.config.cacheResponses = true)
    (h : cache.live clock.asked (w.promptHash py q) = none) :
    w.witnessField py clock cache q =
      (.ok (w.askRouter py clock (cache.pop (w.promptHash py q)) q).1,
        (w.askRouter py clock (cache.pop (w.promptHash py q)) q).2) := by
  rw [LLMWitness.witnessField, if_neg (not_not.mpr hq), if_pos hcache, WitnessCache.get, h]

theorem askRouter_error {message : String} (h : w.liveCall py clock q = .error message) :
    w.askRouter py clock cache q = (LLMWitness.failed q message, cache) := by
  rw [LLMWitness.askRouter, h]

theorem askRouter_full (hcache : w.config.cacheResponses = true) (hfull : cache.maxSize = 0)
    {response : Entries} {judgeCall : JudgeCall}
    (h : w.liveCall py clock q = .ok (response, judgeCall)) :
    w.askRouter py clock cache q =
      (LLMWitness.failed q "min() iterable argument is empty", cache) := by
  rw [LLMWitness.askRouter, h]
  simp only [hcache, if_true, WitnessCache.put_eq_error hfull]

/-- An answer that is stored, and then refined or not. -/
theorem askRouter_stored (hcache : w.config.cacheResponses = true) (hfull : cache.maxSize ≠ 0)
    {response : Entries} {judgeCall : JudgeCall}
    (h : w.liveCall py clock q = .ok (response, judgeCall)) :
    ∃ cache' : WitnessCache, cache'.maxSize = cache.maxSize ∧ cache'.ttl = cache.ttl ∧
      Assoc.get? (w.promptHash py q) cache'.entries =
        some { response, judgeCall := some judgeCall, createdAt := clock.stored } ∧
      w.askRouter py clock cache q =
        (match buildRefinedVerdict py q.fieldName q.currentFv response none with
          | .error e => LLMWitness.failed q e.message
          | .ok refined =>
            { field := q.fieldName, success := true
              refinedVerdict := some { refined with
                judgeCalls := q.currentFv.judgeCalls ++ [judgeCall] }
              judgeCall := some judgeCall }, cache') := by
  obtain ⟨cache', hput, hsize, httl, hget⟩ := @WitnessCache.exists_put cache (w.promptHash py q)
    { response, judgeCall := some judgeCall, createdAt := clock.stored } hfull
  refine ⟨cache', hsize, httl, hget, ?_⟩
  rw [LLMWitness.askRouter, h]
  simp only [hcache, if_true, hput]
  rw [buildRefinedVerdict_judgeCall]
  cases buildRefinedVerdict py q.fieldName q.currentFv response none <;> rfl

/-! ### Two calls -/

/-- Both calls return, with the same outcome, and no flag of the original verdict is lost. -/
def SameAgain (original : FieldVerdict) (first second : Except PyError WitnessResult) : Prop :=
  ∃ a b, first = .ok a ∧ second = .ok b ∧ a.success = b.success ∧ a.error = b.error ∧
    a.refinedVerdict = b.refinedVerdict ∧
    ∀ refined, a.refinedVerdict = some refined → original.riskFlags ⊆ refined.riskFlags

/-- The second call goes the way of the first. With an entry in the cache that can be refined, the
second call must come before it expires. Without one, either nothing is stored, or what is stored has
expired and is not refined, or takes the router the same time again. -/
def Repeatable (py : WitnessRuntime) (w : LLMWitness) (cache : WitnessCache) (q : Question)
    (first second : Clock) : Prop :=
  match cache.live first.asked (w.promptHash py q) with
  | some entry => Refinable py entry.response ∧ second.asked - entry.createdAt ≤ cache.ttl
  | none => cache.maxSize = 0 ∨ ∀ response, Storable py w q response →
      cache.ttl < second.asked - first.stored ∧
        (Refinable py response → first.durationMs = second.durationMs)

theorem sameAgain_failed {message : String} :
    SameAgain original (.ok (LLMWitness.failed q message)) (.ok (LLMWitness.failed q message)) :=
  ⟨_, _, rfl, rfl, rfl, rfl, rfl, fun _ h => by cases h⟩

/-- A live call fails, or its verdict has the record of the call. -/
theorem askRouter_result (hcache : w.config.cacheResponses = true) :
    (∃ message, (w.askRouter py clock cache q).1 = LLMWitness.failed q message) ∨
      ∃ refined judgeCall, (w.askRouter py clock cache q).1.refinedVerdict = some refined ∧
        refined.judgeCalls = q.currentFv.judgeCalls ++ [judgeCall] := by
  cases hlive : w.liveCall py clock q with
  | error message => exact .inl ⟨message, by rw [askRouter_error hlive]⟩
  | ok answer =>
    obtain ⟨response, judgeCall⟩ := answer
    by_cases hfull : cache.maxSize = 0
    · exact .inl ⟨_, by rw [askRouter_full hcache hfull hlive]⟩
    · obtain ⟨cache', -, -, -, hresult⟩ := askRouter_stored hcache hfull hlive
      rw [hresult]
      cases buildRefinedVerdict py q.fieldName q.currentFv response none with
      | error e => exact .inl ⟨e.message, rfl⟩
      | ok v => exact .inr ⟨_, judgeCall, rfl, rfl⟩

/-- A verdict without a new record is not that of a live call. -/
theorem ne_askRouter (hcache : w.config.cacheResponses = true) {v : FieldVerdict}
    (hv : v.judgeCalls = q.currentFv.judgeCalls) :
    (w.askRouter py clock cache q).1.refinedVerdict ≠ some v := by
  intro h
  rcases @askRouter_result py w q cache clock hcache with ⟨message, hfailed⟩ |
    ⟨refined, judgeCall, hrefined, hcalls⟩
  · rw [hfailed] at h
    cases h
  · obtain rfl := Option.some.inj (hrefined.symm.trans h)
    rw [hcalls] at hv
    have hlength := congrArg List.length hv
    rw [List.length_append, List.length_singleton] at hlength
    omega

variable {first second : Clock}

/-- The first call is served from the cache. -/
theorem sameAgain_hit_iff (hq : q.currentFv.verdict = .ambiguous)
    (hcache : w.config.cacheResponses = true) {entry : WitnessCacheEntry}
    (h : cache.live first.asked (w.promptHash py q) = some entry) :
    SameAgain q.currentFv (w.witnessField py first cache q).1
        (w.witnessField py second (w.witnessField py first cache q).2 q).1 ↔
      Refinable py entry.response ∧ second.asked - entry.createdAt ≤ cache.ttl := by
  obtain ⟨hget, -⟩ := WitnessCache.live_eq_some.mp h
  have hsecond : (w.witnessField py first cache q).2 = cache := by
    rw [witnessField_hit hq hcache h]
  rw [hsecond, witnessField_hit hq hcache h,
    ← @exists_refined_iff py q.fieldName q.currentFv entry.response none]
  cases hbuild : buildRefinedVerdict py q.fieldName q.currentFv entry.response none with
  | error e =>
    constructor
    · rintro ⟨a, b, ha, -⟩
      cases ha
    · rintro ⟨⟨v, hv⟩, -⟩
      cases hv
  | ok v =>
    have hv : v.judgeCalls = q.currentFv.judgeCalls := by
      rw [judgeCalls_of_refined hbuild, Option.toList_none, List.append_nil]
    by_cases hage : second.asked - entry.createdAt ≤ cache.ttl
    · refine ⟨fun _ => ⟨⟨v, rfl⟩, hage⟩, fun _ => ?_⟩
      rw [witnessField_hit hq hcache (WitnessCache.live_eq_some.mpr ⟨hget, hage⟩), hbuild]
      refine ⟨_, _, rfl, rfl, rfl, rfl, rfl, fun refined hrefined => ?_⟩
      obtain rfl := Option.some.inj hrefined
      exact riskFlags_subset_refined hbuild
    · refine ⟨fun hsame => ?_, fun hr => absurd hr.2 hage⟩
      have hnone : cache.live second.asked (w.promptHash py q) = none := by
        rw [WitnessCache.live, hget, Option.filter_some, if_neg (by simpa using hage)]
      obtain ⟨a, b, ha, hb, -, -, hrefined, -⟩ := hsame
      obtain rfl := Except.ok.inj ha
      rw [witnessField_miss hq hcache hnone] at hb
      obtain rfl := Except.ok.inj hb
      exact absurd hrefined.symm (ne_askRouter hcache hv)

/-- The first call asks the router, and its answer is not stored. -/
theorem sameAgain_unstored (hq : q.currentFv.verdict = .ambiguous)
    (hcache : w.config.cacheResponses = true)
    (h : cache.live first.asked (w.promptHash py q) = none) {message : String}
    (hfailed : ∀ (clock : Clock) (c : WitnessCache), c.maxSize = cache.maxSize →
      w.askRouter py clock c q = (LLMWitness.failed q message, c)) :
    SameAgain q.currentFv (w.witnessField py first cache q).1
      (w.witnessField py second (w.witnessField py first cache q).2 q).1 := by
  rw [witnessField_miss hq hcache h, hfailed first (cache.pop _) rfl,
    witnessField_miss hq hcache (WitnessCache.live_pop _ _),
    hfailed second ((cache.pop _).pop _) rfl]
  exact sameAgain_failed

/-- The live call fails. -/
theorem sameAgain_of_error (hq : q.currentFv.verdict = .ambiguous)
    (hcache : w.config.cacheResponses = true)
    (h : cache.live first.asked (w.promptHash py q) = none) {message : String}
    (hcall : w.liveCall py first q = .error message) :
    SameAgain q.currentFv (w.witnessField py first cache q).1
      (w.witnessField py second (w.witnessField py first cache q).2 q).1 := by
  have herror : ∀ clock, w.liveCall py clock q = .error message := fun clock => by
    rw [liveCall_clock first clock, hcall]
    rfl
  exact sameAgain_unstored hq hcache h fun clock c _ => askRouter_error (herror clock)

/-- The cache holds nothing. -/
theorem sameAgain_of_full (hq : q.currentFv.verdict = .ambiguous)
    (hcache : w.config.cacheResponses = true) (hfull : cache.maxSize = 0)
    (h : cache.live first.asked (w.promptHash py q) = none) {response : Entries}
    {judgeCall : JudgeCall} (hcall : w.liveCall py first q = .ok (response, judgeCall)) :
    SameAgain q.currentFv (w.witnessField py first cache q).1
      (w.witnessField py second (w.witnessField py first cache q).2 q).1 := by
  have hclock : ∀ clock, w.liveCall py clock q =
      .ok (response, { judgeCall with durationMs := clock.durationMs }) := fun clock => by
    rw [liveCall_clock first clock, hcall]
    rfl
  exact sameAgain_unstored hq hcache h fun clock c hsize =>
    askRouter_full hcache (hsize.trans hfull) (hclock clock)

/-- The first call asks the router and its answer is stored. -/
theorem sameAgain_stored_iff (hq : q.currentFv.verdict = .ambiguous)
    (hcache : w.config.cacheResponses = true) (hfull : cache.maxSize ≠ 0)
    (h : cache.live first.asked (w.promptHash py q) = none) {response : Entries}
    {judgeCall : JudgeCall} (hlive : w.liveCall py first q = .ok (response, judgeCall)) :
    SameAgain q.currentFv (w.witnessField py first cache q).1
        (w.witnessField py second (w.witnessField py first cache q).2 q).1 ↔
      cache.ttl < second.asked - first.stored ∧
        (Refinable py response → first.durationMs = second.durationMs) := by
  obtain ⟨cache', hsize, httl, hget, hresult⟩ :=
    @askRouter_stored py w q (cache.pop (w.promptHash py q)) first hcache hfull _ _ hlive
  rw [witnessField_miss hq hcache h, hresult]
  by_cases hage : second.asked - first.stored ≤ cache.ttl
  · have hentry : cache'.live second.asked (w.promptHash py q) =
        some { response, judgeCall := some judgeCall, createdAt := first.stored } :=
      WitnessCache.live_eq_some.mpr ⟨hget, httl ▸ hage⟩
    rw [witnessField_hit hq hcache hentry]
    refine ⟨fun hsame => ?_, fun hr => absurd hr.1 (not_lt.mpr hage)⟩
    obtain ⟨a, b, ha, hb, -, -, hrefined, -⟩ := hsame
    cases hbuild : buildRefinedVerdict py q.fieldName q.currentFv response none with
    | error e =>
      rw [hbuild] at hb
      cases hb
    | ok v =>
      rw [hbuild] at ha hb
      obtain rfl := Except.ok.inj ha
      obtain rfl := Except.ok.inj hb
      have hv := congrArg List.length (judgeCalls_of_refined hbuild)
      have hcalls := congrArg (fun u => u.map fun r : FieldVerdict => r.judgeCalls.length) hrefined
      simp only [Option.map_some, Option.some.injEq, List.length_append, List.length_singleton,
        Option.toList_none, List.length_nil] at hcalls hv
      omega
  · have hnone : cache'.live second.asked (w.promptHash py q) = none := by
      rw [WitnessCache.live, hget, Option.filter_some,
        if_neg (by simpa [httl, WitnessCache.pop] using hage)]
    have hlive' : w.liveCall py second q =
        .ok (response, { judgeCall with durationMs := second.durationMs }) := by
      rw [liveCall_clock first second, hlive]
      rfl
    obtain ⟨cache'', -, -, -, hresult'⟩ := @askRouter_stored py w q
      (cache'.pop (w.promptHash py q)) second hcache (by rw [WitnessCache.pop, hsize]; exact hfull)
      _ _ hlive'
    rw [witnessField_miss hq hcache hnone, hresult',
      ← @exists_refined_iff py q.fieldName q.currentFv response none]
    have hold : cache.ttl < second.asked - first.stored := not_le.mp hage
    cases hbuild : buildRefinedVerdict py q.fieldName q.currentFv response none with
    | error e =>
      refine ⟨fun _ => ⟨hold, ?_⟩, fun _ => sameAgain_failed⟩
      rintro ⟨v, hv⟩
      cases hv
    | ok v =>
      have hduration : judgeCall = { judgeCall with durationMs := first.durationMs } := by
        have hself := @liveCall_clock py w q first first
        rw [hlive] at hself
        exact (Prod.mk.inj (Except.ok.inj hself)).2
      have hflags : q.currentFv.riskFlags ⊆ v.riskFlags := riskFlags_subset_refined hbuild
      constructor
      · rintro ⟨a, b, ha, hb, -, -, hrefined, -⟩
        obtain rfl := Except.ok.inj ha
        obtain rfl := Except.ok.inj hb
        refine ⟨hold, fun _ => ?_⟩
        have hcalls := congrArg FieldVerdict.judgeCalls (Option.some.inj hrefined)
        have hrecord := List.cons.inj (List.append_cancel_left hcalls)
        rw [hduration] at hrecord
        exact congrArg JudgeCall.durationMs hrecord.1
      · rintro ⟨-, hsame⟩
        have htime := hsame ⟨v, rfl⟩
        refine ⟨_, _, rfl, rfl, rfl, rfl, ?_, fun refined hrefined => ?_⟩
        · rw [hduration, htime]
        · obtain rfl := Option.some.inj hrefined
          exact hflags

/-- A second call with the same question gives the outcome of the first exactly if it goes the same
way. In particular no answer that a verdict can be refined from is given again from the cache. -/
theorem sameAgain_iff (py : WitnessRuntime) (w : LLMWitness) (cache : WitnessCache) (q : Question)
    (first second : Clock) (hq : q.currentFv.verdict = .ambiguous)
    (hcache : w.config.cacheResponses = true) :
    SameAgain q.currentFv (w.witnessField py first cache q).1
        (w.witnessField py second (w.witnessField py first cache q).2 q).1 ↔
      Repeatable py w cache q first second := by
  rw [Repeatable]
  cases hlive : cache.live first.asked (w.promptHash py q) with
  | some entry => exact sameAgain_hit_iff hq hcache hlive
  | none =>
    cases hcall : w.liveCall py first q with
    | error message =>
      refine ⟨fun _ => .inr fun response hstorable => ?_, fun _ =>
        sameAgain_of_error hq hcache hlive hcall⟩
      obtain ⟨judgeCall, hok⟩ := (@exists_liveCall_iff py w q first response).mpr hstorable
      rw [hcall] at hok
      cases hok
    | ok answer =>
      obtain ⟨response, judgeCall⟩ := answer
      by_cases hfull : cache.maxSize = 0
      · exact ⟨fun _ => .inl hfull, fun _ => sameAgain_of_full hq hcache hfull hlive hcall⟩
      · rw [sameAgain_stored_iff hq hcache hfull hlive hcall]
        refine ⟨fun h => .inr fun response' hstorable => ?_, fun h => ?_⟩
        · obtain ⟨judgeCall', hok⟩ := (@exists_liveCall_iff py w q first response').mpr hstorable
          rw [hcall] at hok
          obtain ⟨rfl, -⟩ := Prod.mk.inj (Except.ok.inj hok)
          exact h
        · exact h.resolve_left hfull response (exists_liveCall_iff.mp ⟨judgeCall, hcall⟩)

/-! ### A witness whose router is out of reach, and one that answers -/

mutual

/-- `json.dumps(·, sort_keys=True)` of a value, for texts without characters to escape. -/
def plainDumps : Value → List Char
  | .null => "null".toList
  | .bool b => (if b then "true" else "false").toList
  | .int n => (toString n.1).toList
  | .float _ => "0.0".toList
  | .str s => '"' :: (s.toList ++ ['"'])
  | .list xs => '[' :: ([',', ' '].intercalate (plainDumpsAll xs) ++ [']'])
  | .dict kvs => '\x7b' :: ([',', ' '].intercalate
      (((plainDumpsEntries kvs).insertionSort fun a b => a.1 ≤ b.1).map fun p =>
        '"' :: (p.1.toList ++ ['"', ':', ' '] ++ p.2)) ++ ['\x7d'])

def plainDumpsAll : List Value → List (List Char)
  | [] => []
  | v :: vs => plainDumps v :: plainDumpsAll vs

def plainDumpsEntries : Entries → List (String × List Char)
  | [] => []
  | (k, v) :: kvs => (k, plainDumps v) :: plainDumpsEntries kvs

end

/-- Python on ASCII text, where a digest is the text itself and no text is JSON. -/
def WitnessRuntime.ascii : WitnessRuntime where
  toRuleRuntime := .ascii
  loads _ := .error (.notJson "Expecting value: line 1 column 1 (char 0)")
  dumps v := .ok (String.ofList (plainDumps v))
  digest v := String.ofList (plainDumps v)
  parseInt s :=
    if s ≠ "" ∧ s.toList.all Char.isDigit then
      .ok ((s.toList.foldl (fun n c => 10 * n + (c.toNat - 48)) 0 : ℕ) : ℤ)
    else .error ⟨.value, "invalid literal for int() with base 10: '" ++ s ++ "'"⟩
  pageRangeError _ := "1 validation error for EvidenceSpan"
  riskFlagsError _ := ⟨.value, "1 validation error for FieldVerdict"⟩

/-- A title that the rules could not decide on. -/
def duneQuestion : Question where
  fieldName := "title"
  currentFv :=
    { field := "title", declaredValue := .str "Dune", observedValue := .str "Dune Messiah"
      verdict := .ambiguous, confidence := 50, reason := none }

/-- A router with one answer. -/
def routerOf (answer : Except PyError Llm.Content) : WitnessRouter where
  judgeModel := "llama3"
  executeStructured _ _ _ := answer
  providerName _ := .ok "ollama"

/-- A new cache. -/
def emptyCache : WitnessCache := { bounded := Nat.zero_le _ }

theorem unreachable_twice :
    SameAgain duneQuestion.currentFv
      (({ router := routerOf (.error ⟨.os, "host unreachable"⟩) } : LLMWitness).witnessField .ascii
        ⟨0, 5, 1⟩ emptyCache duneQuestion).1
      (({ router := routerOf (.error ⟨.os, "host unreachable"⟩) } : LLMWitness).witnessField .ascii
        ⟨10, 7, 11⟩ (({ router := routerOf (.error ⟨.os, "host unreachable"⟩) } :
          LLMWitness).witnessField .ascii ⟨0, 5, 1⟩ emptyCache duneQuestion).2 duneQuestion).1 := by
  refine (sameAgain_iff .ascii _ emptyCache duneQuestion ⟨0, 5, 1⟩ ⟨10, 7, 11⟩ rfl rfl).mpr ?_
  refine .inr fun response hstorable => ?_
  obtain ⟨content, hcontent, -⟩ := hstorable.answered
  cases hcontent

local instance neZero_thousand : NeZero 1000 := ⟨by decide⟩

/-- An answer that confirms the title. -/
def confirmation : Entries :=
  [("field", .str "title"), ("verdict", .str "confirmed"), ("confidence", Value.small 90),
    ("selected_value", .str "Dune"), ("reasons", Value.strs ["same book"]),
    ("evidence_quote", .null)]

theorem confirmation_is_not_repeated :
    ¬∀ (py : WitnessRuntime) (w : LLMWitness) (cache : WitnessCache) (q : Question)
        (first second : Clock), q.currentFv.verdict = .ambiguous →
      w.config.cacheResponses = true →
        SameAgain q.currentFv (w.witnessField py first cache q).1
          (w.witnessField py second (w.witnessField py first cache q).2 q).1 := by
  intro h
  let w : LLMWitness := { router := routerOf (.ok (.dict confirmation)) }
  have hstorable : Storable .ascii w duneQuestion confirmation :=
    ⟨⟨_, rfl, .inl rfl⟩, ⟨_, rfl⟩, by simp [confirmation, Assoc.get?],
      by simp [confirmation, Assoc.get?], ⟨_, rfl⟩⟩
  obtain ⟨judgeCall, hcall⟩ := (@exists_liveCall_iff _ w _ ⟨0, 5, 1⟩ _).mpr hstorable
  have hsame := h .ascii w emptyCache duneQuestion ⟨0, 5, 1⟩ ⟨10, 7, 11⟩ rfl rfl
  rw [sameAgain_stored_iff rfl rfl (by decide) rfl hcall] at hsame
  have hexpired := hsame.1
  norm_num [emptyCache] at hexpired

end Bookwarden.Verification
