import Mathlib.Data.List.Basic

/-!
# Backtracking matchers

A matcher of a regular expression gives, for a text, what remains after each match at its start, in
the order in which a backtracking search tries the matches. The first remainder is the match that the
search takes.

## Main definitions

* `Matcher.char`, `Matcher.andThen`, `Matcher.optional`, `Matcher.many`, `Matcher.upTo`,
  `Matcher.exactly`, `Matcher.many1`, `Matcher.oneOf`, `Matcher.repeats`, `Matcher.atEnd` — the
  expressions
* `Matcher.Reads` — what a match consists of
* `Matcher.Avoids` — a character that no match reads
* `Matcher.trail` — what remains after the longest repetition

## Main results

* `Matcher.Reads.andThen`, `Matcher.Avoids.andThen` and their like, one for each expression
* `Matcher.head?_upTo_append` — the match that a bounded greedy repetition takes
* `Matcher.trail_cases` — when it reads further than a given word
-/

/-- A matcher: the remainders after a match, in the order a backtracking search tries them. -/
abbrev Matcher (α : Type*) := List α → List (List α)

namespace Matcher

variable {α : Type*}

/-- One character of a class. -/
def char (p : α → Bool) : Matcher α
  | c :: cs => if p c then [cs] else []
  | [] => []

/-- One match after the other. -/
def andThen (m n : Matcher α) : Matcher α := fun cs => (m cs).flatMap n

/-- `(?:…)?`, preferring the match. -/
def optional (m : Matcher α) : Matcher α := fun cs => m cs ++ [cs]

/-- `[…]*`, preferring the longest match. -/
def many (p : α → Bool) : Matcher α
  | c :: cs => if p c then many p cs ++ [c :: cs] else [c :: cs]
  | [] => [[]]

/-- `[…]{0,n}`, preferring the longest match. -/
def upTo (p : α → Bool) : ℕ → Matcher α
  | n + 1, c :: cs => if p c then upTo p n cs ++ [c :: cs] else [c :: cs]
  | _, cs => [cs]

/-- `[…]{n}`. -/
def exactly (p : α → Bool) : ℕ → Matcher α
  | 0 => fun cs => [cs]
  | n + 1 => andThen (char p) (exactly p n)

/-- `[…]+`, preferring the longest match. -/
def many1 (p : α → Bool) : Matcher α := andThen (char p) (many p)

/-- The matches of the first expression, then those of the next. -/
def oneOf (ms : List (Matcher α)) : Matcher α := fun cs => ms.flatMap fun m => m cs

/-- `(?:…)*`, preferring more matches; the number bounds them. -/
def repeats (m : Matcher α) : ℕ → Matcher α
  | 0 => fun cs => [cs]
  | n + 1 => fun cs => (m cs).flatMap (repeats m n) ++ [cs]

/-- `$`. -/
def atEnd : Matcher α := fun cs => if cs.isEmpty then [cs] else []

variable {m n : Matcher α} {p q : α → Bool} {c : α}

/-! ### What a match reads -/

/-- Every match reads a word of the language. -/
def Reads (m : Matcher α) (L : List α → Prop) : Prop :=
  ∀ cs, ∀ rest ∈ m cs, ∃ w, L w ∧ cs = w ++ rest

variable {L M : List α → Prop}

theorem reads_char (p : α → Bool) : Reads (char p) fun w => ∃ c, p c = true ∧ w = [c] := by
  intro cs rest h
  cases cs with
  | nil => exact absurd h List.not_mem_nil
  | cons c cs =>
    rw [char] at h
    split at h
    next hc =>
      rw [List.mem_singleton.mp h]
      exact ⟨[c], ⟨c, hc, rfl⟩, rfl⟩
    next => exact absurd h List.not_mem_nil

theorem Reads.andThen (hm : Reads m L) (hn : Reads n M) :
    Reads (andThen m n) fun w => ∃ u v, L u ∧ M v ∧ w = u ++ v := by
  intro cs rest h
  obtain ⟨middle, hmiddle, hrest⟩ := List.mem_flatMap.mp h
  obtain ⟨u, hu, rfl⟩ := hm cs middle hmiddle
  obtain ⟨v, hv, rfl⟩ := hn middle rest hrest
  exact ⟨u ++ v, ⟨u, v, hu, hv, rfl⟩, (List.append_assoc u v rest).symm⟩

theorem Reads.optional (hm : Reads m L) : Reads (optional m) fun w => w = [] ∨ L w := by
  intro cs rest h
  rcases List.mem_append.mp h with h | h
  · obtain ⟨w, hw, rfl⟩ := hm cs rest h
    exact ⟨w, .inr hw, rfl⟩
  · rw [List.mem_singleton.mp h]
    exact ⟨[], .inl rfl, rfl⟩

theorem reads_many (p : α → Bool) : Reads (many p) fun w => ∀ c ∈ w, p c = true := by
  intro cs
  induction cs with
  | nil =>
    intro rest h
    rw [List.mem_singleton.mp h]
    exact ⟨[], fun c hc => absurd hc List.not_mem_nil, rfl⟩
  | cons d cs ih =>
    intro rest h
    have hstop : rest = d :: cs → ∃ w, (∀ c ∈ w, p c = true) ∧ d :: cs = w ++ rest := by
      rintro rfl
      exact ⟨[], fun c hc => absurd hc List.not_mem_nil, rfl⟩
    rw [many] at h
    split at h
    next hd =>
      rcases List.mem_append.mp h with h | h
      · obtain ⟨w, hw, rfl⟩ := ih rest h
        exact ⟨d :: w, List.forall_mem_cons.mpr ⟨hd, hw⟩, rfl⟩
      · exact hstop (List.mem_singleton.mp h)
    next => exact hstop (List.mem_singleton.mp h)

theorem reads_upTo (p : α → Bool) (n : ℕ) :
    Reads (upTo p n) fun w => w.length ≤ n ∧ ∀ c ∈ w, p c = true := by
  have hstop : ∀ (k : ℕ) (cs : List α), ∃ w : List α,
      (w.length ≤ k ∧ ∀ c ∈ w, p c = true) ∧ cs = w ++ cs :=
    fun k cs => ⟨[], ⟨Nat.zero_le k, fun c hc => absurd hc List.not_mem_nil⟩, rfl⟩
  induction n with
  | zero =>
    intro cs rest h
    rw [upTo, List.mem_singleton] at h
    · rw [h]
      exact hstop 0 cs
    · exact fun _ _ _ hzero _ => by cases hzero
  | succ n ih =>
    intro cs rest h
    cases cs with
    | nil =>
      rw [upTo, List.mem_singleton] at h
      · rw [h]
        exact hstop (n + 1) []
      · exact fun _ _ _ _ hnil => by cases hnil
    | cons d cs =>
      rw [upTo] at h
      split at h
      next hd =>
        rcases List.mem_append.mp h with h | h
        · obtain ⟨w, ⟨hlength, hw⟩, rfl⟩ := ih cs rest h
          refine ⟨d :: w, ⟨?_, List.forall_mem_cons.mpr ⟨hd, hw⟩⟩, rfl⟩
          rw [List.length_cons]
          omega
        · rw [List.mem_singleton.mp h]
          exact hstop (n + 1) (d :: cs)
      next =>
        rw [List.mem_singleton.mp h]
        exact hstop (n + 1) (d :: cs)

theorem reads_exactly (p : α → Bool) (n : ℕ) :
    Reads (exactly p n) fun w => w.length = n ∧ ∀ c ∈ w, p c = true := by
  induction n with
  | zero =>
    intro cs rest h
    rw [exactly, List.mem_singleton] at h
    rw [h]
    exact ⟨[], ⟨rfl, fun c hc => absurd hc List.not_mem_nil⟩, rfl⟩
  | succ n ih =>
    intro cs rest h
    obtain ⟨w, ⟨u, v, ⟨d, hd, rfl⟩, ⟨hlength, hv⟩, rfl⟩, rfl⟩ := (reads_char p).andThen ih cs rest h
    refine ⟨d :: v, ⟨?_, List.forall_mem_cons.mpr ⟨hd, hv⟩⟩, rfl⟩
    rw [List.length_cons, hlength]

/-! ### Characters that stop a match -/

/-- No match reads the character: what follows it plays no part. -/
def Avoids (m : Matcher α) (c : α) : Prop :=
  ∀ u t, m (u ++ c :: t) = (m u).map (· ++ c :: t)

theorem avoids_char (h : p c = false) : Avoids (char p) c := by
  intro u t
  cases u with
  | nil =>
    show (if p c then [t] else []) = []
    rw [if_neg (by rw [h]; decide)]
  | cons d u =>
    rw [List.cons_append, char, char]
    split <;> rfl

theorem Avoids.andThen (hm : Avoids m c) (hn : Avoids n c) : Avoids (andThen m n) c := by
  intro u t
  rw [Matcher.andThen, Matcher.andThen, hm u t, List.flatMap_map, List.map_flatMap]
  exact List.flatMap_congr fun v _ => hn v t

theorem Avoids.optional (hm : Avoids m c) : Avoids (optional m) c := by
  intro u t
  rw [Matcher.optional, Matcher.optional, hm u t, List.map_append]
  rfl

theorem avoids_many (h : p c = false) : Avoids (many p) c := by
  intro u t
  induction u with
  | nil =>
    show many p (c :: t) = _
    rw [many, if_neg (by rw [h]; decide)]
    rfl
  | cons d u ih =>
    rw [List.cons_append, many, many, ih]
    split
    · rw [List.map_append]
      rfl
    · rfl

theorem avoids_upTo (h : p c = false) (n : ℕ) : Avoids (upTo p n) c := by
  intro u t
  induction u generalizing n with
  | nil =>
    cases n with
    | zero => rfl
    | succ n =>
      show upTo p (n + 1) (c :: t) = _
      rw [upTo, if_neg (by rw [h]; decide)]
      rfl
  | cons d u ih =>
    cases n with
    | zero => rfl
    | succ n =>
      rw [List.cons_append, upTo, upTo, ih]
      split
      · rw [List.map_append]
        rfl
      · rfl

theorem avoids_exactly (h : p c = false) (n : ℕ) : Avoids (exactly p n) c := by
  induction n with
  | zero => exact fun u t => rfl
  | succ n ih => exact (avoids_char h).andThen ih

/-! ### Words that match -/

theorem char_cons (h : p c = true) (cs : List α) : char p (c :: cs) = [cs] := if_pos h

theorem char_cons_of_not (h : p c = false) (cs : List α) : char p (c :: cs) = [] :=
  if_neg (by rw [h]; decide)

theorem exactly_append {w : List α} (h : ∀ c ∈ w, p c = true) (cs : List α) :
    exactly p w.length (w ++ cs) = [cs] := by
  induction w with
  | nil => rfl
  | cons d w ih =>
    obtain ⟨hd, hw⟩ := List.forall_mem_cons.mp h
    rw [List.length_cons, exactly, andThen, List.cons_append, char_cons hd, List.flatMap_singleton]
    exact ih hw

/-- What remains after the longest repetition of at most `n` characters that ends in `q`. -/
def trail (p q : α → Bool) : ℕ → List α → List α
  | 0, rest => rest
  | n + 1, rest => ((andThen (upTo p n) (char q)) rest).head?.getD rest

/-- A greedy repetition reads a word that ends as it must, and then as far as it can. -/
theorem head?_upTo_append (hqp : ∀ d, q d = true → p d = true) {w : List α} {d : α} {n : ℕ}
    (hw : ∀ c ∈ w, p c = true) (hd : q d = true) (hn : w.length ≤ n) (rest : List α) :
    (andThen (upTo p n) (char q) (w ++ d :: rest)).head? = some (trail p q (n - w.length) rest) := by
  induction w generalizing n with
  | nil =>
    cases n with
    | zero =>
      show (List.flatMap (char q) [d :: rest]).head? = _
      rw [List.flatMap_singleton, char_cons hd]
      rfl
    | succ n =>
      show ((upTo p (n + 1) (d :: rest)).flatMap (char q)).head? = _
      rw [upTo, if_pos (hqp d hd), List.flatMap_append, List.flatMap_singleton, char_cons hd,
        List.head?_append]
      show ((andThen (upTo p n) (char q)) rest).head?.or (some rest) = _
      rw [List.length_nil, Nat.sub_zero, trail]
      cases ((andThen (upTo p n) (char q)) rest).head? <;> rfl
  | cons e w ih =>
    obtain ⟨he, hw⟩ := List.forall_mem_cons.mp hw
    cases n with
    | zero => exact absurd hn (by rw [List.length_cons]; omega)
    | succ n =>
      rw [List.length_cons, Nat.add_le_add_iff_right] at hn
      have hrest := ih hw hn
      rw [andThen] at hrest
      rw [andThen, List.cons_append, upTo, if_pos he, List.flatMap_append, List.head?_append, hrest,
        List.length_cons, Nat.add_sub_add_right]
      rfl

/-- A repetition reads no further, or it reads on to another character that may end it. -/
theorem trail_cases (hqp : ∀ d, q d = true → p d = true) (n : ℕ) (rest : List α) :
    (trail p q n rest = rest ∧ ∀ w d after, rest = w ++ d :: after → (∀ c ∈ w, p c = true) →
      w.length < n → q d = false) ∨
    ∃ w d, rest = w ++ d :: trail p q n rest ∧ (∀ c ∈ w, p c = true) ∧ w.length < n ∧ q d = true := by
  cases n with
  | zero => exact .inl ⟨rfl, fun _ _ _ _ _ h => absurd h (Nat.not_lt_zero _)⟩
  | succ n =>
    rw [trail]
    cases hhead : ((andThen (upTo p n) (char q)) rest).head? with
    | none =>
      refine .inl ⟨rfl, fun w d after hsplit hw hlt => ?_⟩
      by_contra hd
      rw [Bool.not_eq_false] at hd
      rw [hsplit, head?_upTo_append hqp hw hd (Nat.le_of_lt_succ hlt)] at hhead
      cases hhead
    | some after =>
      right
      obtain ⟨u, ⟨w, v, ⟨hlength, hw⟩, ⟨d, hd, rfl⟩, rfl⟩, hsplit⟩ :=
        (reads_upTo p n).andThen (reads_char q) rest after (List.mem_of_mem_head? hhead)
      refine ⟨w, d, ?_, hw, Nat.lt_succ_of_le hlength, hd⟩
      rw [hsplit, List.append_assoc]
      rfl

end Matcher
