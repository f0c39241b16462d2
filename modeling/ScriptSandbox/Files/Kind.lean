import ScriptSandbox.Files.Tree
import ScriptSandbox.Text.Blank
import ScriptSandbox.Text.Case

/-!
# Kinds of files

The kind of a file is read off its first bytes: signatures first, then whether they are text, and
what the text starts with. A character cut off at the end of the window does not count against
text.

A read of an open file gives some of the bytes that come next, and how many is not for the one who
reads to say. So the first bytes are put together in a buffer, each piece behind the one before it,
until it is full or a read gives nothing.
-/

namespace ScriptSandbox

/-! ## Kinds -/

inductive Category
  | image
  | document
  | archive
  | text
  | binary
deriving DecidableEq, Repr

def Category.name : Category → String
  | .image => "image"
  | .document => "document"
  | .archive => "archive"
  | .text => "text"
  | .binary => "binary"

structure FileKind where
  mime : String
  extension : String
  category : Category
deriving DecidableEq, Repr

namespace FileKind

def binary : FileKind := ⟨"application/octet-stream", "bin", .binary⟩

def text : FileKind := ⟨"text/plain", "txt", .text⟩

def webp : FileKind := ⟨"image/webp", "webp", .image⟩

def bmp : FileKind := ⟨"image/bmp", "bmp", .image⟩

def html : FileKind := ⟨"text/html", "html", .document⟩

def json : FileKind := ⟨"application/json", "json", .text⟩

/-- First bytes and the kinds they tell. -/
def signatures : List (Bytes × FileKind) :=
  [([0x89, 0x50, 0x4e, 0x47, 0x0d, 0x0a, 0x1a, 0x0a], ⟨"image/png", "png", .image⟩),
    ([0xff, 0xd8, 0xff], ⟨"image/jpeg", "jpg", .image⟩),
    (Utf8.encode "GIF87a", ⟨"image/gif", "gif", .image⟩),
    (Utf8.encode "GIF89a", ⟨"image/gif", "gif", .image⟩),
    (Utf8.encode "%PDF-", ⟨"application/pdf", "pdf", .document⟩),
    ([0x50, 0x4b, 0x03, 0x04], ⟨"application/zip", "zip", .archive⟩),
    ([0x1f, 0x8b], ⟨"application/gzip", "gz", .archive⟩),
    (Utf8.encode "<?xml", ⟨"application/xml", "xml", .document⟩)]

/-- A chunk `RIFF` of any length that holds `WEBP`. -/
def isWebp (bytes : Bytes) : Bool :=
  bytes.take 4 == Utf8.encode "RIFF" && (bytes.drop 8).take 4 == Utf8.encode "WEBP"

/-- A file header of 14 bytes, then an information header whose length is not zero. -/
def isBmp (bytes : Bytes) : Bool :=
  26 ≤ bytes.length && bytes.take 2 == Utf8.encode "BM" &&
    ((bytes.drop 14).take 4).any (· != 0)

/-- The kind of a text, by what stands behind its leading blanks. -/
def ofText (cs : List Char) : FileKind :=
  let head := (Text.trimStart cs).map Char.toLower
  if "<!doctype html".toList.isPrefixOf head || "<html".toList.isPrefixOf head then html
  else if head.head? == some '\x7b' || head.head? == some '[' then json
  else text

def sniff (bytes : Bytes) : FileKind :=
  if isWebp bytes then webp
  else if isBmp bytes then bmp
  else
    match signatures.find? fun s => s.1.isPrefixOf bytes with
    | some (_, kind) => kind
    | none =>
      if bytes.contains 0 then binary
      else
        match Utf8.decodePartial bytes with
        | (_, some .invalid) => binary
        | (cs, _) => ofText cs

end FileKind

/-! ## Reading piece by piece -/

/-- How files are opened, and what a read gives into so much room, with what it leaves. -/
structure FileReader (σ : Type) where
  openFile : FileTree → String → Except FileError σ
  read : σ → Nat → Except FileError (Bytes × σ)

/-- An open file, with the bytes that are left. A directory can be opened, but not read. -/
inductive OpenFile
  | bytes (rest : Bytes)
  | dir
deriving DecidableEq, Repr

namespace OpenFile

def ofEntry : Entry → OpenFile
  | .file content => .bytes content
  | .dir => .dir
  | .link _ | .sink => .bytes []

/-- Gives all that there is room for. -/
def read : OpenFile → Nat → Except FileError (Bytes × OpenFile)
  | .bytes rest, room => .ok (rest.take room, .bytes (rest.drop room))
  | .dir, _ => .error .isDirectory

end OpenFile

/-- Reads that give all they can. -/
def FileReader.full : FileReader OpenFile where
  openFile t path := (t.stat path).map OpenFile.ofEntry
  read := OpenFile.read

/-- A buffer of fixed length, the first bytes of which are filled. -/
structure Buffer where
  bytes : Bytes
  filled : Nat
deriving DecidableEq, Repr

namespace Buffer

def empty (length : Nat) : Buffer := ⟨List.replicate length 0, 0⟩

/-- The number of bytes that are not filled. -/
def room (b : Buffer) : Nat := b.bytes.length - b.filled

def content (b : Buffer) : Bytes := b.bytes.take b.filled

/-- Writes over the bytes behind those that are filled. -/
def put (b : Buffer) (got : Bytes) : Buffer :=
  ⟨b.bytes.take b.filled ++ got ++ b.bytes.drop (b.filled + got.length), b.filled + got.length⟩

theorem room_put (b : Buffer) (got : Bytes) : (b.put got).room = b.room - got.length := by
  simp only [room, put, List.length_append, List.length_take, List.length_drop]
  omega

theorem room_put_lt {b : Buffer} {got : Bytes} (hroom : 0 < b.room) (hgot : got ≠ []) :
    (b.put got).room < b.room := by
  have hlength := List.length_pos_iff.2 hgot
  rw [room_put]
  omega

/-- Reads one piece after the other into the room that is left. Each takes some of it, so this ends
whatever reads give. -/
def fill {σ : Type} (r : FileReader σ) (b : Buffer) (file : σ) : Except FileError Buffer :=
  if _hroom : 0 < b.room then
    match r.read file b.room with
    | .error e => .error e
    | .ok (got, file) => if _hgot : got = [] then .ok b else fill r (b.put got) file
  else .ok b
termination_by b.room
decreasing_by exact room_put_lt _hroom _hgot

end Buffer

namespace FileKind

/-- The number of bytes looked at. -/
def window : Nat := 512

/-- The kind of the file at a path, by the first bytes that are read of it. -/
def ofPath {σ : Type} (r : FileReader σ) (t : FileTree) (path : String) :
    Except FileError FileKind := do
  let file ← r.openFile t path
  let b ← (Buffer.empty window).fill r file
  return sniff b.content

end FileKind

end ScriptSandbox
