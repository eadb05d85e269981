import Bookwarden.Python

/-!
# ISBN checksums

The single home of the checksum arithmetic, `rules/isbn.py`. Every function first drops the
characters other than digits and `X`, so hyphens, spaces and labels do not matter.
-/

namespace Bookwarden

/-- `_clean`: keep `0-9Xx`. -/
def cleanIsbn (value : String) : List Char :=
  value.toList.filter fun c => c.isDigit || c = 'X' || c = 'x'

/-- `str.upper` on cleaned characters. -/
def upperX (cs : List Char) : List Char := cs.map fun c => if c = 'x' then 'X' else c

/-- `int(c)` of a decimal digit. -/
def digitVal (c : Char) : ℕ := c.toNat - 48

/-- `sum(int(c) * (10 - i) for i, c in enumerate(cs))`. -/
def isbn10Sum (cs : List Char) : ℕ := (cs.zipIdx.map fun p => digitVal p.1 * (10 - p.2)).sum

/-- `sum(int(c) * (1 if i % 2 == 0 else 3) for i, c in enumerate(cs))`. -/
def isbn13Sum (cs : List Char) : ℕ :=
  (cs.zipIdx.map fun p => digitVal p.1 * (if p.2 % 2 = 0 then 1 else 3)).sum

/-- `isbn10_checksum_valid`. -/
def isbn10ChecksumValid (value : String) : Bool :=
  let s := upperX (cleanIsbn value)
  let last := s.getD 9 ' '
  s.length = 10 && (s.take 9).all Char.isDigit && (last.isDigit || last = 'X')
    && (isbn10Sum (s.take 9) + (if last = 'X' then 10 else digitVal last)) % 11 = 0

/-- `isbn13_checksum_valid`. -/
def isbn13ChecksumValid (value : String) : Bool :=
  let s := cleanIsbn value
  s.length = 13 && s.all Char.isDigit
    && (10 - isbn13Sum (s.take 12) % 10) % 10 = digitVal (s.getD 12 ' ')

/-- `canonical_isbn13`, also called `validate_isbn`: the checksum-validated ISBN-13, or `None`. -/
def validateIsbn (value : String) : Option String :=
  let s := upperX (cleanIsbn value)
  if s.length = 10 && isbn10ChecksumValid (String.ofList s) then
    let body := ['9', '7', '8'] ++ s.take 9
    some (String.ofList (body ++ [Nat.digitChar ((10 - isbn13Sum body % 10) % 10)]))
  else if s.length = 13 && isbn13ChecksumValid (String.ofList s) then some (String.ofList s)
  else none

example : validateIsbn "0-306-40615-2" = some "9780306406157" := by decide +kernel

end Bookwarden
