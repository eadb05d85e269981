import Bookwarden.Exceptions
import Bookwarden.Lib.Metered
import Bookwarden.Python

/-!
# The parser for MOBI files

`MobiPalmDocParser` of `extractors/container_archaeology.py`, on the bytes of a file. A read costs the
bytes it returns. `BufferedReader.read` takes a length, or -1 for everything up to the end of the
file, and raises on any other negative number.

## What is a parameter

`decode` is `bytes.decode("utf-8", "replace")`.

## Main definitions

* `parsePalmdbHeader`, `extractCoverAndMetadata`
* `inspectMobi` — one after the other
-/

namespace Bookwarden.Mobi

/-- The bytes of a file. -/
abbrev Bytes := List UInt8

/-- `data[a:b]`. -/
def slice (data : Bytes) (a b : ℕ) : Bytes := (data.drop a).take (b - a)

/-- The number that bytes write, the highest byte first. -/
def bigEndian (bytes : Bytes) : ℕ := bytes.foldl (fun n b => 256 * n + b.toNat) 0

/-- `struct.unpack(">I", bytes)[0]`. -/
def unpackI (bytes : Bytes) : Except PyError ℕ :=
  if bytes.length = 4 then .ok (bigEndian bytes)
  else .error ⟨.other, "unpack requires a buffer of 4 bytes"⟩

/-- `stream.seek(pos)` and `stream.read(size)`. -/
def readAt (stream : Bytes) (pos : ℕ) (size : ℤ) : Metered PyError Bytes :=
  if size < -1 then ⟨.error ⟨.value, "read length must be non-negative or -1"⟩, 0⟩
  else
    let bytes := if size = -1 then stream.drop pos else (stream.drop pos).take size.toNat
    ⟨.ok bytes, bytes.length⟩

/-! ### The header -/

/-- The parser after its construction. -/
structure MobiPalmDocParser where
  numRecords : ℕ
  recordOffsets : List ℕ
  deriving DecidableEq, Repr

/-- `self.record_offsets[i]`. -/
def MobiPalmDocParser.offset (p : MobiPalmDocParser) (i : ℕ) : ℕ := p.recordOffsets.getD i 0

/-- `_parse_palmdb_header`. -/
def parsePalmdbHeader (stream : Bytes) : Metered PyError MobiPalmDocParser := do
  let header ← readAt stream 0 78
  if header.length < 78 then Metered.free (.error ⟨.value, "File too short to be PalmDB"⟩)
  else
    let numRecords := bigEndian (slice header 76 78)
    let recordListData ← readAt stream 78 (numRecords * 8)
    let recordOffsets ← Metered.free
      ((List.range numRecords).mapM fun i => unpackI (slice recordListData (i * 8) (i * 8 + 4)))
    return { numRecords := numRecords, recordOffsets := recordOffsets }

/-! ### The EXTH records -/

/-- `exth_metadata`. -/
structure ExthMetadata where
  authors : List String := []
  publisher : Option String := none
  isbn : Option String := none
  date : Option String := none
  title : Option String := none
  deriving DecidableEq, Repr

/-- The state of the loop, with the spans of the values it has read. -/
structure Exth where
  metadata : ExthMetadata := {}
  coverOffset : Option ℕ := none
  values : List (ℕ × ℕ) := []
  deriving DecidableEq, Repr

/-- What a record does. -/
def Exth.add (decode : Bytes → String) (e : Exth) (recType : ℕ) (valBytes : Bytes) : Exth :=
  if (recType = 201 ∧ valBytes.length = 4) ∨
      (recType = 129 ∧ e.coverOffset = none ∧ valBytes.length = 4) then
    { e with coverOffset := some (bigEndian valBytes) }
  else if recType = 100 then
    { e with metadata := { e.metadata with authors := e.metadata.authors ++ [decode valBytes] } }
  else if recType = 101 then
    { e with metadata := { e.metadata with publisher := some (decode valBytes) } }
  else if recType = 104 then
    { e with metadata := { e.metadata with isbn := some (strip (decode valBytes)) } }
  else if recType = 106 then
    { e with metadata := { e.metadata with date := some (strip (decode valBytes)) } }
  else if recType = 503 then
    { e with metadata := { e.metadata with title := some (decode valBytes) } }
  else e

/-- The loop over the records, `rec_count` rounds at most. -/
def exthLoop (decode : Bytes → String) (rec0Data : Bytes) (limit : ℕ) : ℕ → ℕ → Exth → Exth
  | 0, _, e => e
  | n + 1, curr, e =>
    if curr + 8 > limit then e
    else
      let recType := bigEndian (slice rec0Data curr (curr + 4))
      let recSize := bigEndian (slice rec0Data (curr + 4) (curr + 8))
      if recSize < 8 ∨ curr + recSize > limit then e
      else
        let valBytes := slice rec0Data (curr + 8) (curr + recSize)
        let e' := { e.add decode recType valBytes with
          values := e.values ++ [(curr + 8, curr + recSize)] }
        exthLoop decode rec0Data limit n (curr + recSize) e'

/-- The part of `extract_cover_and_metadata` under `exth_flags & 0x40`. -/
def exthOf (decode : Bytes → String) (rec0Data : Bytes) : Exth :=
  let headerLength := bigEndian (slice rec0Data 20 24)
  let exthFlags := bigEndian (slice rec0Data 128 132)
  let exthStart := 16 + headerLength
  if exthFlags &&& 0x40 ≠ 0 ∧ exthStart + 12 ≤ rec0Data.length ∧
      slice rec0Data exthStart (exthStart + 4) = [0x45, 0x58, 0x54, 0x48] then
    let exthLen := bigEndian (slice rec0Data (exthStart + 4) (exthStart + 8))
    let recCount := bigEndian (slice rec0Data (exthStart + 8) (exthStart + 12))
    exthLoop decode rec0Data (min (exthStart + exthLen) rec0Data.length) recCount (exthStart + 12) {}
  else {}

/-! ### The cover -/

/-- `detect_image_mime`. -/
def detectImageMime (data : Bytes) : Option String :=
  if [0xff, 0xd8, 0xff].isPrefixOf data then some "image/jpeg"
  else if [0x89, 0x50, 0x4e, 0x47, 0x0d, 0x0a, 0x1a, 0x0a].isPrefixOf data then some "image/png"
  else if [0x52, 0x49, 0x46, 0x46].isPrefixOf data ∧ 12 ≤ data.length ∧
      slice data 8 12 = [0x57, 0x45, 0x42, 0x50] then some "image/webp"
  else if [0x47, 0x49, 0x46, 0x38, 0x37, 0x61].isPrefixOf data ∨
      [0x47, 0x49, 0x46, 0x38, 0x39, 0x61].isPrefixOf data then some "image/gif"
  else none

/-- `ExtractedCover`, with the record that it is from. -/
structure ExtractedCover where
  data : Bytes
  mimeType : String
  sourceStrategy : String
  fromRecord : ℕ
  deriving DecidableEq, Repr

/-- `next_offset` of a record: where the next one begins, or the end of the file. -/
def MobiPalmDocParser.nextOffset (p : MobiPalmDocParser) (stream : Bytes) (i : ℕ) : ℕ :=
  if i + 1 < p.numRecords then p.offset (i + 1) else stream.length

/-- The part on the cover. -/
def coverOf (stream : Bytes) (p : MobiPalmDocParser) (firstImageIndex : ℕ) (coverOffset : Option ℕ) :
    Metered PyError (Option ExtractedCover) :=
  match coverOffset with
  | none => Metered.ret none
  | some coverOffset =>
    if firstImageIndex = 0xFFFFFFFF then Metered.ret none
    else
      let targetRecordIdx := firstImageIndex + coverOffset
      if targetRecordIdx < p.numRecords then do
        let imgOffset := p.offset targetRecordIdx
        let imgLen := min ((p.nextOffset stream targetRecordIdx : ℤ) - imgOffset) (15 * 1024 * 1024)
        let rawImg ← readAt stream imgOffset imgLen
        match detectImageMime rawImg with
        | some mime => Metered.ret (some
            { data := rawImg, mimeType := mime, sourceStrategy := "mobi_exth_201",
              fromRecord := targetRecordIdx })
        | none => Metered.ret none
      else Metered.ret none

/-- `extract_cover_and_metadata`. -/
def extractCoverAndMetadata (decode : Bytes → String) (stream : Bytes) (p : MobiPalmDocParser) :
    Metered PyError (Option ExtractedCover × Exth) := do
  if p.numRecords < 2 then Metered.ret (none, {})
  else
    let rec0Start := p.offset 0
    let rec0Len : ℤ := (p.offset 1 : ℤ) - rec0Start
    let rec0Data ← readAt stream rec0Start (min rec0Len (1024 * 1024))
    if rec0Data.length < 16 + 128 then Metered.ret (none, {})
    else if slice rec0Data 16 20 ≠ [0x4d, 0x4f, 0x42, 0x49] ∧
        slice rec0Data 16 20 ≠ [0x54, 0x45, 0x58, 0x74] then Metered.ret (none, {})
    else
      let firstImageIndex := bigEndian (slice rec0Data 108 112)
      let exth := exthOf decode rec0Data
      let cover ← coverOf stream p firstImageIndex exth.coverOffset
      return (cover, exth)

/-- The construction of the parser and the extraction. -/
def inspectMobi (decode : Bytes → String) (stream : Bytes) :
    Metered PyError (MobiPalmDocParser × Option ExtractedCover × Exth) := do
  let p ← parsePalmdbHeader stream
  let extracted ← extractCoverAndMetadata decode stream p
  return (p, extracted)

end Bookwarden.Mobi
