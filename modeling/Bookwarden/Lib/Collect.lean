import Mathlib.Data.List.Basic
import Mathlib.Tactic.Common

/-!
# Scans that may fail

A scan looks at the members of a list, first to last. Each gives something, nothing or an error, and
the first error ends the scan.

## Main results

* `Collect.exists_collect_iff` — a scan ends without an error when every member does
* `Collect.mem_collect_iff` — what it has then
-/

namespace Collect

variable {ε α β : Type*} {f : α → Except ε (Option β)} {l : List α} {out : List β}

/-- What the members give. -/
def collect (f : α → Except ε (Option β)) : List α → Except ε (List β)
  | [] => .ok []
  | a :: l =>
    match f a, collect f l with
    | .error e, _ => .error e
    | .ok _, .error e => .error e
    | .ok b, .ok bs => .ok (b.toList ++ bs)

theorem collect_cons_eq_ok {a : α} (h : collect f (a :: l) = .ok out) :
    ∃ b bs, f a = .ok b ∧ collect f l = .ok bs ∧ out = b.toList ++ bs := by
  rw [collect] at h
  split at h
  · cases h
  · cases h
  · rename_i b bs ha hl
    exact ⟨b, bs, ha, hl, (Except.ok.inj h).symm⟩

theorem exists_collect_iff : (∃ out, collect f l = .ok out) ↔ ∀ a ∈ l, ∃ b, f a = .ok b := by
  induction l with
  | nil => exact iff_of_true ⟨[], rfl⟩ fun a ha => absurd ha List.not_mem_nil
  | cons a l ih =>
    rw [List.forall_mem_cons, ← ih]
    constructor
    · rintro ⟨out, hout⟩
      obtain ⟨b, bs, ha, hl, -⟩ := collect_cons_eq_ok hout
      exact ⟨⟨b, ha⟩, bs, hl⟩
    · rintro ⟨⟨b, ha⟩, bs, hl⟩
      exact ⟨b.toList ++ bs, by rw [collect, ha, hl]⟩

theorem mem_collect_iff (h : collect f l = .ok out) (b : β) :
    b ∈ out ↔ ∃ a ∈ l, f a = .ok (some b) := by
  induction l generalizing out with
  | nil =>
    rw [← Except.ok.inj h]
    simp
  | cons a l ih =>
    obtain ⟨b', bs, ha, hl, rfl⟩ := collect_cons_eq_ok h
    rw [List.mem_append, Option.mem_toList, List.exists_mem_cons_iff, ih hl, ha, Except.ok.injEq]

/-- What names its member keeps the order of the list. -/
theorem sublist_collect {g : β → α} (h : collect f l = .ok out)
    (hname : ∀ a b, f a = .ok (some b) → g b = a) : (out.map g).Sublist l := by
  induction l generalizing out with
  | nil =>
    rw [← Except.ok.inj h]
    exact List.nil_sublist _
  | cons a l ih =>
    obtain ⟨b, bs, ha, hl, rfl⟩ := collect_cons_eq_ok h
    cases b with
    | none => exact (ih hl).cons a
    | some b =>
      show (g b :: bs.map g).Sublist (a :: l)
      rw [hname a b ha]
      exact (ih hl).cons_cons a

end Collect
