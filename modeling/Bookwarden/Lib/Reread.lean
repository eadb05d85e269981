import Mathlib.Data.List.Basic

/-!
# Reading back what was written

A reader may put what it reads into a canonical form, so a value is not always read back as it was
written. `Reread.Exactly` says for which values it is: for these and for no others, what is read from
the written value is written in the same way. It is closed under lists.

## Main definitions

* `Reread.readAll`, `Reread.readEntries` — the readers of lists and of maps
* `Reread.Exactly` — the canonical values are those that are read back

## Main results

* `Reread.Exactly.all` — a list is read back if and only if its members are
-/

namespace Reread

variable {ν κ α : Type*}

/-- Read the members of a list, first to last. -/
def readAll (read : ν → Option α) : List ν → Option (List α)
  | [] => some []
  | v :: vs => (read v).bind fun x => (readAll read vs).map (x :: ·)

/-- Read the values of a map. -/
def readEntries (read : ν → Option α) : List (κ × ν) → Option (List (κ × α))
  | [] => some []
  | (k, v) :: kvs => (read v).bind fun x => (readEntries read kvs).map ((k, x) :: ·)

theorem readAll_map {read : ν → Option α} {render : α → ν} {xs : List α}
    (h : ∀ x ∈ xs, read (render x) = some x) : readAll read (xs.map render) = some xs := by
  induction xs with
  | nil => rfl
  | cons x xs ih =>
    have hx : read (render x) = some x := h x List.mem_cons_self
    have hxs : readAll read (xs.map render) = some xs :=
      ih fun y hy => h y (List.mem_cons_of_mem x hy)
    rw [List.map_cons, readAll, hx, hxs]
    rfl

theorem readEntries_map {read : ν → Option α} {render : α → ν}
    (h : ∀ x, read (render x) = some x) (kvs : List (κ × α)) :
    readEntries read (kvs.map fun p => (p.1, render p.2)) = some kvs := by
  induction kvs with
  | nil => rfl
  | cons p kvs ih =>
    rw [List.map_cons, readEntries, h, ih]
    rfl

theorem readAll_cons {read : ν → Option α} {v : ν} {vs : List ν} {ys : List α}
    (h : readAll read (v :: vs) = some ys) :
    ∃ y ys', ys = y :: ys' ∧ read v = some y ∧ readAll read vs = some ys' := by
  rw [readAll, Option.bind_eq_some_iff] at h
  obtain ⟨y, hy, h⟩ := h
  rw [Option.map_eq_some_iff] at h
  obtain ⟨ys', hys', rfl⟩ := h
  exact ⟨y, ys', rfl, hy, hys'⟩

/-- The canonical values are read back as they are, and only they are read back as values that are
written in the same way. -/
structure Exactly (read : ν → Option α) (render : α → ν) (canonical : α → Prop) : Prop where
  reads : ∀ {x}, canonical x → read (render x) = some x
  back : ∀ {x y}, read (render x) = some y → render y = render x → canonical x

variable {read : ν → Option α} {render : α → ν} {canonical : α → Prop}

theorem Exactly.iff (h : Exactly read render canonical) (x : α) :
    (∃ y, read (render x) = some y ∧ render y = render x) ↔ canonical x := by
  constructor
  · rintro ⟨y, hy, hrender⟩
    exact h.back hy hrender
  · intro hx
    exact ⟨x, h.reads hx, rfl⟩

/-- A list is read back if and only if its members are. -/
theorem Exactly.all (h : Exactly read render canonical) :
    Exactly (readAll read) (List.map render) fun xs => ∀ x ∈ xs, canonical x where
  reads hxs := readAll_map fun x hx => h.reads (hxs x hx)
  back := by
    intro xs ys hread hrender
    induction xs generalizing ys with
    | nil => exact fun x hx => absurd hx List.not_mem_nil
    | cons x xs ih =>
      obtain ⟨y, ys', rfl, hy, hys'⟩ := readAll_cons hread
      rw [List.map_cons, List.map_cons, List.cons.injEq] at hrender
      exact List.forall_mem_cons.mpr ⟨h.back hy hrender.1, ih hys' hrender.2⟩

end Reread
