import Bookwarden.Lib.Runs
import Mathlib.Data.List.Pairwise

/-!
# Fencing tokens

Resources with a token each, and claims stamped with the token they were issued at. Issuing a claim
raises the token of its resource by one; an event that acts under a claim has an effect only while
the claim's stamp is the current token. From these three facts alone, whatever else the system does:
stamps of one resource increase in the order of issue, a superseded claim has no effect any more,
and two issued claims whose stamps are current are the same claim.

## Main definitions

* `Protocol` — a system with tokens, as its step function and what that function keeps to
* `Protocol.World`, `Protocol.step` — its state together with the claims issued so far

## Main results

* `Protocol.ordered_run` — stamps bounded by tokens and increasing in the order of issue
* `Protocol.superseded_inert`, `Protocol.current_unique`
* `Protocol.token_le_run` — tokens never decrease
-/

namespace Fencing

/-- A system that stamps the claims it issues. -/
structure Protocol (σ κ γ ε : Type*) where
  /-- The current token of a resource. -/
  token : σ → κ → ℕ
  /-- The resource a claim is for. -/
  key : γ → κ
  /-- The token a claim was issued at. -/
  stamp : γ → ℕ
  /-- The effect of an event. -/
  exec : σ → ε → σ
  /-- The claim an event issues. -/
  issues : σ → ε → Option γ
  /-- The claim an event acts under. -/
  holder : ε → Option γ
  /-- Issuing a claim raises the token of its resource to the claim's stamp. -/
  issue : ∀ s e c, issues s e = some c →
    stamp c = token s (key c) + 1 ∧ token (exec s e) (key c) = stamp c ∧
      ∀ k, k ≠ key c → token (exec s e) k = token s k
  /-- No other event moves a token. -/
  quiet : ∀ s e, issues s e = none → ∀ k, token (exec s e) k = token s k
  /-- An event that has an effect acts under a claim whose stamp is current. -/
  fenced : ∀ s e c, holder e = some c → exec s e ≠ s → stamp c = token s (key c)

namespace Protocol

variable {σ κ γ ε : Type*} (P : Protocol σ κ γ ε)

/-- The state of the system and the claims issued so far, oldest first. -/
@[ext] structure World (σ γ : Type*) where
  state : σ
  issued : List γ

/-- An event of the world. Only a claim that was issued can be acted under. -/
def step [DecidableEq γ] (w : World σ γ) (e : ε) : World σ γ :=
  match P.holder e with
  | some c =>
    if c ∈ w.issued then ⟨P.exec w.state e, w.issued ++ (P.issues w.state e).toList⟩ else w
  | none => ⟨P.exec w.state e, w.issued ++ (P.issues w.state e).toList⟩

/-- Stamps are bounded by the tokens, and increase in the order of issue. -/
structure Ordered (w : World σ γ) : Prop where
  bounded : ∀ c ∈ w.issued, P.stamp c ≤ P.token w.state (P.key c)
  increasing : w.issued.Pairwise fun c d => P.key c = P.key d → P.stamp c < P.stamp d

variable {P}

/-- No event lowers a token. -/
theorem token_le_exec (s : σ) (e : ε) (k : κ) : P.token s k ≤ P.token (P.exec s e) k := by
  cases h : P.issues s e with
  | none => exact Nat.le_of_eq (P.quiet s e h k).symm
  | some c =>
    obtain ⟨hstamp, hself, hother⟩ := P.issue s e c h
    by_cases hk : k = P.key c
    · subst hk
      omega
    · exact Nat.le_of_eq (hother k hk).symm

theorem ordered_exec {w : World σ γ} (h : P.Ordered w) (e : ε) :
    P.Ordered ⟨P.exec w.state e, w.issued ++ (P.issues w.state e).toList⟩ := by
  have hmono := token_le_exec (P := P) w.state e
  cases hi : P.issues w.state e with
  | none =>
    refine ⟨fun c hc => ?_, by simpa using h.increasing⟩
    have hc' : c ∈ w.issued := by simpa using hc
    exact Nat.le_trans (h.bounded c hc') (hmono _)
  | some d =>
    obtain ⟨hstamp, hself, hother⟩ := P.issue w.state e d hi
    constructor
    · intro c hc
      rcases List.mem_append.mp hc with hc | hc
      · exact Nat.le_trans (h.bounded c hc) (hmono _)
      · have hcd : c = d := by simpa using hc
        subst hcd
        show P.stamp c ≤ P.token (P.exec w.state e) (P.key c)
        omega
    · rw [Option.toList_some, List.pairwise_append]
      refine ⟨h.increasing, List.pairwise_singleton _ _, fun c hc d' hd' hkey => ?_⟩
      have hd : d' = d := by simpa using hd'
      subst hd
      have hle := h.bounded c hc
      rw [hkey] at hle
      omega

variable [DecidableEq γ]

theorem step_eq (w : World σ γ) (e : ε) :
    P.step w e = w ∨
      P.step w e = ⟨P.exec w.state e, w.issued ++ (P.issues w.state e).toList⟩ := by
  rw [step]
  split
  · split
    · exact Or.inr rfl
    · exact Or.inl rfl
  · exact Or.inr rfl

theorem ordered_step {w : World σ γ} (e : ε) (h : P.Ordered w) : P.Ordered (P.step w e) := by
  rcases step_eq (P := P) w e with heq | heq
  · rw [heq]
    exact h
  · rw [heq]
    exact ordered_exec h e

omit [DecidableEq γ] in
theorem ordered_start (s : σ) : P.Ordered ⟨s, []⟩ :=
  ⟨fun _ hc => absurd hc List.not_mem_nil, List.Pairwise.nil⟩

/-- **Order.** After every run, stamps are bounded by tokens and increase in the order of issue. -/
theorem ordered_run {w : World σ γ} (h : P.Ordered w) (es : List ε) :
    P.Ordered (Runs.run P.step w es) :=
  Runs.invariant P.Ordered (fun _ e hw => ordered_step e hw) h es

theorem token_le_step (w : World σ γ) (e : ε) (k : κ) :
    P.token w.state k ≤ P.token (P.step w e).state k := by
  rcases step_eq (P := P) w e with heq | heq
  · exact Nat.le_of_eq (by rw [heq])
  · rw [heq]
    exact token_le_exec w.state e k

/-- **Monotone tokens.** -/
theorem token_le_run (w : World σ γ) (es : List ε) (k : κ) :
    P.token w.state k ≤ P.token (Runs.run P.step w es).state k :=
  Runs.invariant (fun v => P.token w.state k ≤ P.token v.state k)
    (fun v e hv => Nat.le_trans hv (token_le_step v e k)) (Nat.le_refl _) es

/-- A claim below the current token of its resource has no effect. -/
theorem inert_of_stamp_lt {w : World σ γ} {e : ε} {c : γ} (hc : P.holder e = some c)
    (hlt : P.stamp c < P.token w.state (P.key c)) : (P.step w e).state = w.state := by
  by_contra hne
  rcases step_eq (P := P) w e with heq | heq
  · exact hne (by rw [heq])
  · rw [heq] at hne
    have := P.fenced w.state e c hc hne
    omega

/-- **Supersession.** Once a newer claim of the resource was issued, events under the older one have
no effect. -/
theorem superseded_inert {w : World σ γ} (h : P.Ordered w) {c d : γ} (hd : d ∈ w.issued)
    (hkey : P.key c = P.key d) (hlt : P.stamp c < P.stamp d) {e : ε} (he : P.holder e = some c) :
    (P.step w e).state = w.state := by
  refine inert_of_stamp_lt he ?_
  have hle := h.bounded d hd
  rw [hkey]
  omega

omit [DecidableEq γ] in
theorem eq_or_lt_of_mem {w : World σ γ} (h : P.Ordered w) {c d : γ} (hc : c ∈ w.issued)
    (hd : d ∈ w.issued) (hkey : P.key c = P.key d) :
    c = d ∨ P.stamp c < P.stamp d ∨ P.stamp d < P.stamp c := by
  obtain ⟨i, hi, rfl⟩ := List.getElem_of_mem hc
  obtain ⟨j, hj, rfl⟩ := List.getElem_of_mem hd
  have hinc := List.pairwise_iff_getElem.mp h.increasing
  rcases Nat.lt_trichotomy i j with hij | hij | hij
  · exact Or.inr (Or.inl (hinc i j hi hj hij hkey))
  · subst hij
    exact Or.inl rfl
  · exact Or.inr (Or.inr (hinc j i hj hi hij hkey.symm))

omit [DecidableEq γ] in
/-- **Exclusion.** At most one issued claim of a resource is current. -/
theorem current_unique {w : World σ γ} (h : P.Ordered w) {c d : γ} (hc : c ∈ w.issued)
    (hd : d ∈ w.issued) (hkey : P.key c = P.key d)
    (hcur : P.stamp c = P.token w.state (P.key c)) (hcur' : P.stamp d = P.token w.state (P.key d)) :
    c = d := by
  rw [← hkey] at hcur'
  rcases eq_or_lt_of_mem h hc hd hkey with heq | hlt | hlt
  · exact heq
  · omega
  · omega

end Protocol

end Fencing
