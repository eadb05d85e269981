import Bookwarden.Exceptions
import Bookwarden.Lib.Double
import Bookwarden.Python

/-!
# Reading members of ZIP archives

`sanitize_member_path`, `validate_zip_archive` and `read_zip_member_safely` of
`extractors/container_archaeology.py`. An archive is a list of members with their declared sizes; what
a member decompresses to is a sequence of chunks, or of errors, and has nothing to do with the sizes.

## What is a parameter

`Texts` is what the error messages print. The streams are those of `zipfile`: a read of 65536 bytes returns at
most so many, and an empty one ends the stream.

## Main definitions

* `sanitizeMemberPath`, `validateZipArchive`
* `readZipMemberSafely`, `readSequence`
-/

namespace Bookwarden.Zip

/-- Bytes. -/
abbrev Bytes := List UInt8

/-- `MAX_MEMBER_BYTES`. -/
def maxMemberBytes : ℕ := 20 * 1024 * 1024

/-- `MAX_CUMULATIVE_BYTES`. -/
def maxCumulativeBytes : ℕ := 60 * 1024 * 1024

/-- `MAX_ARCHIVE_ENTRIES`. -/
def maxArchiveEntries : ℕ := 10000

/-- The size of a read. -/
def chunkBytes : ℕ := 65536

/-- What one read returns. -/
structure Chunk where
  bytes : Bytes
  short : bytes.length ≤ chunkBytes

/-- A member: what the central directory declares, and what opening and reading it does. -/
structure ZipInfo where
  filename : String
  fileSize : ℕ
  compressSize : ℕ
  stream : Except PyError (List (Except PyError Chunk))

/-- `info.is_dir()`. -/
def ZipInfo.isDir (info : ZipInfo) : Bool := info.filename.toList.getLast? = some '/'

/-- `z.infolist()`. -/
abbrev ZipFile := List ZipInfo

/-- `z.getinfo(name)`; the last member of a name is the one that is found. -/
def ZipFile.getinfo (z : ZipFile) (name : String) : Option ZipInfo :=
  (z.filter fun info => info.filename = name).getLast?

/-- A `PathTraversalError`. -/
def pathTraversalError (message : String) : PyError := ⟨.other, message⟩

/-- A `ZipBombError`. -/
def zipBombError (message : String) : PyError := ⟨.other, message⟩

/-- How error messages print a value. -/
structure Texts where
  /-- `repr` of a string. -/
  reprStr : String → String
  /-- `f"{x:.1f}"`. -/
  oneDecimal : Double → String

variable (texts : Texts)

/-- `sanitize_member_path`. -/
def sanitizeMemberPath (name : String) : Except PyError String :=
  let raw := replaceChar '\\' '/' name
  if raw = "" ∨ '\x00' ∈ raw.toList ∨ (raw.toList.any fun c => c.toNat < 32) = true then
    .error (pathTraversalError ("Unsafe member path in ZIP archive: " ++ texts.reprStr name))
  else if startsWith raw "/" = true ∨ ".." ∈ (pathParts raw).2 then
    .error (pathTraversalError ("Malicious member path in ZIP archive: " ++ name))
  else
    let clean := normpath raw
    if clean = "" ∨ clean = "." ∨ startsWith clean "../" = true ∨ clean = ".." then
      .error (pathTraversalError ("Directory escape path detected: " ++ name))
    else if ".." ∈ (pathParts clean).2 then
      .error (pathTraversalError ("Directory escape path detected: " ++ name))
    else .ok clean

/-- The check of one member. -/
def validateInfo (info : ZipInfo) : Except PyError Unit := do
  let _ ← sanitizeMemberPath texts info.filename
  if info.isDir = false ∧ maxMemberBytes < info.fileSize then
    .error (zipBombError ("ZIP member " ++ info.filename ++ " exceeds limit " ++
      toString maxMemberBytes ++ " bytes"))
  else .ok ()

/-- `validate_zip_archive`. -/
def validateZipArchive (z : ZipFile) : Except PyError Unit :=
  if maxArchiveEntries < z.length then
    .error (zipBombError ("ZIP archive exceeds " ++ toString maxArchiveEntries ++ " member limit"))
  else z.forM (validateInfo texts)

/-- `ratio`. -/
def ZipInfo.ratio (info : ZipInfo) : Double := Double.round ((info.fileSize : ℚ) / info.compressSize)

/-- `info.compress_size > 0`, `ratio > MAX_COMPRESSION_RATIO and info.file_size > 500_000`. -/
def ZipInfo.isSuspicious (info : ZipInfo) : Bool :=
  0 < info.compressSize && Double.lt (.finite 100) info.ratio && 500000 < info.fileSize

/-- What a call comes to: its outcome, the tracker, and how many bytes were in the buffer. -/
structure ReadResult where
  outcome : Except PyError Bytes
  tracker : Option ℕ
  buffered : ℕ

/-- The loop over the chunks. -/
def readLoop (safeName : String) (maxBytes : ℕ) :
    List (Except PyError Chunk) → Bytes → Option ℕ → ReadResult
  | [], buffer, tracker => ⟨.ok buffer, tracker, buffer.length⟩
  | .error e :: _, buffer, tracker => ⟨.error e, tracker, buffer.length⟩
  | .ok chunk :: chunks, buffer, tracker =>
    if chunk.bytes = [] then ⟨.ok buffer, tracker, buffer.length⟩
    else
      let buffer' := buffer ++ chunk.bytes
      if maxBytes < buffer'.length then
        ⟨.error (zipBombError ("ZIP member " ++ safeName ++ " exceeded limit " ++
          toString maxBytes ++ " bytes")), tracker, buffer'.length⟩
      else
        match tracker with
        | none => readLoop safeName maxBytes chunks buffer' none
        | some count =>
          if maxCumulativeBytes < count + chunk.bytes.length then
            ⟨.error (zipBombError "Total cumulative decompression quota exceeded"),
              some (count + chunk.bytes.length), buffer'.length⟩
          else readLoop safeName maxBytes chunks buffer' (some (count + chunk.bytes.length))

/-- The tracker has no room for the declared size. -/
def overQuota (tracker : Option ℕ) (fileSize : ℕ) : Bool :=
  match tracker with
  | none => false
  | some count => maxCumulativeBytes < count + fileSize

/-- `read_zip_member_safely`. -/
def readZipMemberSafely (z : ZipFile) (memberName : String) (maxBytes : ℕ) (tracker : Option ℕ) :
    ReadResult :=
  let checked : Except PyError (String × ZipInfo) := do
    let _ ← validateZipArchive texts z
    let safeName ← sanitizeMemberPath texts memberName
    match z.getinfo safeName with
    | none => .error ⟨.os, "ZIP member not found: " ++ safeName⟩
    | some info => .ok (safeName, info)
  match checked with
  | .error e => ⟨.error e, tracker, 0⟩
  | .ok (safeName, info) =>
    if maxBytes < info.fileSize then
      ⟨.error (zipBombError ("ZIP member " ++ safeName ++ " exceeds limit " ++ toString maxBytes ++
        " bytes")), tracker, 0⟩
    else if info.isSuspicious then
      ⟨.error (zipBombError ("Suspicious compression ratio (" ++ texts.oneDecimal info.ratio ++
        ":1) in " ++ safeName)), tracker, 0⟩
    else if overQuota tracker info.fileSize then
      ⟨.error (zipBombError "Total cumulative decompression quota exceeded"), tracker, 0⟩
    else
      match info.stream with
      | .error e => ⟨.error e, tracker, 0⟩
      | .ok chunks => readLoop safeName maxBytes chunks [] tracker

/-- The arguments of a call. -/
structure Call where
  archive : ZipFile
  memberName : String
  maxBytes : ℕ

/-- The calls one after the other on one tracker, which a failed call leaves as it got. -/
def readSequence : List Call → ℕ → List ReadResult
  | [], _ => []
  | call :: calls, count =>
    let r := readZipMemberSafely texts call.archive call.memberName call.maxBytes (some count)
    r :: readSequence calls (r.tracker.getD count)

end Bookwarden.Zip
