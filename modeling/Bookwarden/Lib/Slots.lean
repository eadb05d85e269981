import Mathlib.Data.List.Induction
import Bookwarden.Lib.Assoc

/-!
# Slots addressed by a function of the item

Items are put one after the other into slots, and an item replaces what its slot held. The slot of
an item is a function of the item, in general not an injective one: two items of different keys that
share a slot lose each other.

## Main definitions

* `Slots.fill` — the slots after a list of items

## Main results

* `Slots.get?_fill` — a slot holds the last item put into it
* `Slots.get?_fill_slot` — as long as only equal keys share slots, that is the last item of its key
-/

namespace Slots

variable {α σ κ : Type*} [DecidableEq σ] [DecidableEq κ]

/-- Put the items into their slots, first to last. -/
def fill (slot : α → σ) (items : List α) : List (σ × α) :=
  items.foldl (fun slots a => Assoc.set (slot a) a slots) []

/-- The last item that has the value `p` under `f`. -/
def last? (f : α → κ) (p : κ) (items : List α) : Option α :=
  (items.filter fun a => f a = p).getLast?

theorem fill_concat (slot : α → σ) (items : List α) (a : α) :
    fill slot (items ++ [a]) = Assoc.set (slot a) a (fill slot items) := by
  rw [fill, List.foldl_append]
  rfl

theorem last?_concat (f : α → κ) (p : κ) (items : List α) (a : α) :
    last? f p (items ++ [a]) = if f a = p then some a else last? f p items := by
  rw [last?, List.filter_append]
  by_cases h : f a = p
  · simp [h]
  · simp [h, last?]

theorem last?_append (f : α → κ) (p : κ) (items items' : List α) :
    last? f p (items ++ items') = (last? f p items').or (last? f p items) := by
  rw [last?, List.filter_append, List.getLast?_append]
  rfl

theorem mem_of_last? {f : α → κ} {p : κ} {items : List α} {a : α} (h : last? f p items = some a) :
    a ∈ items ∧ f a = p := by
  have hmem := List.mem_of_getLast? h
  simpa using hmem

theorem last?_isSome {f : α → κ} {items : List α} {a : α} (h : a ∈ items) :
    ∃ b, last? f (f a) items = some b := by
  have hmem : a ∈ items.filter fun b => f b = f a := by simpa using h
  exact Option.isSome_iff_exists.mp (List.getLast?_isSome.mpr (List.ne_nil_of_mem hmem))

/-- A slot holds the last item that was put into it. -/
theorem get?_fill (slot : α → σ) (items : List α) (p : σ) :
    Assoc.get? p (fill slot items) = last? slot p items := by
  induction items using List.reverseRecOn with
  | nil => rfl
  | append_singleton items a ih =>
    rw [fill_concat, last?_concat, Assoc.get?_set, ih]
    simp only [eq_comm]

/-- A dictionary built from a list has the value of the last item with the key. -/
theorem get?_update_map {β : Type*} (f : α → κ) (g : α → β) (items : List α) (k : κ) :
    Assoc.get? k (Assoc.update [] (items.map fun a => (f a, g a))) = (last? f k items).map g := by
  induction items using List.reverseRecOn with
  | nil => rfl
  | append_singleton items a ih =>
    rw [Assoc.update] at ih
    rw [List.map_append, Assoc.update, List.foldl_append, last?_concat]
    show Assoc.get? k (Assoc.set (f a) (g a) _) = _
    rw [Assoc.get?_set, ih]
    by_cases h : f a = k
    · simp [h]
    · simp [h, Ne.symm h]

/-- Where only items of one key share a slot, an item's slot holds the last item of its key. -/
theorem get?_fill_slot {slot : α → σ} {key : α → κ} {items : List α} {a : α}
    (hslot : ∀ b ∈ items, slot b = slot a ↔ key b = key a) :
    Assoc.get? (slot a) (fill slot items) = last? key (key a) items := by
  have hfilter : (items.filter fun b => slot b = slot a) = items.filter fun b => key b = key a :=
    List.filter_congr fun b hb => by simp only [hslot b hb]
  rw [get?_fill, last?, hfilter, last?]

end Slots
