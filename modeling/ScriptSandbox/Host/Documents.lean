import ScriptSandbox.Files.ImageSize
import ScriptSandbox.Files.Kind
import ScriptSandbox.Host.FileAccess
import ScriptSandbox.Json.Reader
import ScriptSandbox.Markup.Content

/-!
# Document and image functions

The text of a document, the value of a JSON file, and the size of an image.
-/

namespace ScriptSandbox.Documents

/-- The bytes of a file whose type and size are admitted. -/
def readAdmitted (s : Settings) (path : String) : HostAction Bytes := do
  if !s.allows path then HostAction.fail (FileAccess.typeRefused path)
  let _ ← FileAccess.sizeWithin .document s path
  HostAction.look (·.read path)

def kindOf (bytes : Bytes) : FileKind := FileKind.sniff (bytes.take FileKind.window)

def markupExtensions : List String := ["xml", "html", "htm", "xhtml", "svg"]

/-- Whether a file is read as markup: by its extension, or by what it starts with. -/
def isMarkup (path : String) (kind : FileKind) : Bool :=
  markupExtensions.contains (Text.lower ((Path.extension? path).getD "")) ||
    kind.extension == "xml" || kind.extension == "html"

/-- Whether a kind has no text to give. -/
def isOpaque (kind : FileKind) : Bool :=
  kind == FileKind.binary || kind.category == .image || kind.category == .archive ||
    kind.extension == "pdf"

/-- The name of the format and the text of a document; none if it has no text. -/
def textOf (path : String) (bytes : Bytes) : Option (String × String) :=
  let kind := kindOf bytes
  let source := Utf8.decodeLossy bytes
  if isMarkup path kind then some ("markup", Markup.textOf source)
  else if isOpaque kind then none
  else some ("text", source)

def extractText (s : Settings) (args : Arguments) : HostAction Json := do
  let path ← HostAction.ofExcept (args.requireText 0 "path")
  let bytes ← readAdmitted s path
  match textOf path bytes with
  | none =>
    let mime := (kindOf bytes).mime
    HostAction.fail { code := .document, message := s!"cannot extract text from {path} ({mime})" }
  | some (format, text) =>
    return successWith [("path", .str path), ("format", .str format), ("length", .nat text.length),
      ("text", .str text)]

def readJson (s : Settings) (args : Arguments) : HostAction Json := do
  let path ← HostAction.ofExcept (args.requireText 0 "path")
  let bytes ← readAdmitted s path
  match Json.read bytes with
  | .ok data => return successWith [("path", .str path), ("data", data)]
  | .error e =>
    let reason := e.message bytes
    HostAction.fail { code := .document, message := s!"{path} is not valid JSON: {reason}" }

def imageFailure (message : String) : Failure := { code := .image, message }

def imageExtensions : List String := ["png", "gif", "jpg", "bmp"]

def imageInfo (s : Settings) (args : Arguments) : HostAction Json := do
  let path ← HostAction.ofExcept (args.requireText 0 "path")
  let size ← HostAction.look (·.size path)
  if s.maxFileSize < size then
    let limit := s.maxFileSize
    HostAction.fail (imageFailure s!"{path} is over the {limit} byte limit")
  let bytes ← HostAction.look (·.read path)
  let kind := kindOf bytes
  let mime := kind.mime
  let extension := kind.extension
  if !imageExtensions.contains extension then
    HostAction.fail (imageFailure s!"{path} is not a supported image ({mime})")
  match ImageSize.ofFormat extension bytes with
  | none =>
    HostAction.fail (imageFailure s!"{path} has a truncated or corrupt {extension} header")
  | some found =>
    return successWith [("path", .str path), ("format", .str extension), ("mime", .str mime),
      ("width", .nat found.width), ("height", .nat found.height), ("size", .nat size)]

end ScriptSandbox.Documents
