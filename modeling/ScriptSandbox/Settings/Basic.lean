import ScriptSandbox.Files.Path
import ScriptSandbox.Text.Blank
import ScriptSandbox.Text.Case

/-!
# Settings

What a sandbox may do and for how long. Times are in milliseconds. File types are lower case
extensions without a dot; an empty list admits every file.

A layer says something of some settings and nothing of the others. Settings are built by applying
layers from the lowest to the highest: a file, the environment, the switches of a command line.
-/

namespace ScriptSandbox

/-- A group of host functions that settings can switch off. -/
inductive Feature
  | filesystem
  | http
  | documents
  | images
  | browser
deriving DecidableEq, Repr

namespace Feature

/-- The features in the order in which they are installed. -/
def all : List Feature := [.filesystem, .http, .documents, .images, .browser]

def name : Feature → String
  | .filesystem => "filesystem"
  | .http => "http"
  | .documents => "documents"
  | .images => "images"
  | .browser => "browser"

/-- The feature with a name or a second name, in any letter case and among blanks. -/
def ofText (text : String) : Except String Feature :=
  match Text.lower (Text.trim text) with
  | "browser" => .ok .browser
  | "filesystem" | "fs" => .ok .filesystem
  | "http" => .ok .http
  | "documents" => .ok .documents
  | "images" | "image_processing" => .ok .images
  | other => .error ("unknown capability group '" ++ other ++ "'")

end Feature

structure Settings where
  scriptTimeout : Nat := 30000
  httpTimeout : Nat := 30000
  /-- The lifetime of a browser session. -/
  browserTimeout : Nat := 60000
  maxFileSize : Nat := 100 * 1024 * 1024
  fileTypes : List String := []
  headless : Bool := true
  filesystem : Bool := true
  http : Bool := true
  documents : Bool := true
  images : Bool := true
  browser : Bool := true
deriving DecidableEq, Repr, Inhabited

namespace Settings

def has (s : Settings) : Feature → Bool
  | .filesystem => s.filesystem
  | .http => s.http
  | .documents => s.documents
  | .images => s.images
  | .browser => s.browser

def switch (s : Settings) (feature : Feature) (on : Bool) : Settings :=
  match feature with
  | .filesystem => { s with filesystem := on }
  | .http => { s with http := on }
  | .documents => { s with documents := on }
  | .images => { s with images := on }
  | .browser => { s with browser := on }

def features (s : Settings) : List Feature := Feature.all.filter s.has

/-- Without blanks around it, dots before it and capital letters. -/
def fileType (text : String) : String :=
  Text.lower (String.ofList ((Text.trim text).toList.dropWhile (· == '.')))

def withFileTypes (s : Settings) (types : List String) : Settings :=
  { s with fileTypes := (types.map fileType).filter (!·.isEmpty) }

/-- Switches the feature with this name off. -/
def without (s : Settings) (name : String) : Except String Settings :=
  (Feature.ofText name).map fun f => s.switch f false

/-- Whether the type of a file is admitted. -/
def allows (s : Settings) (path : String) : Bool :=
  s.fileTypes.isEmpty ||
    match Path.extension? path with
    | some extension => s.fileTypes.contains (fileType extension)
    | none => false

end Settings

/-! ## Layers of settings -/

structure Layer where
  scriptTimeout : Option Nat := none
  httpTimeout : Option Nat := none
  browserTimeout : Option Nat := none
  maxFileSize : Option Nat := none
  fileTypes : Option (List String) := none
  headless : Option Bool := none
  filesystem : Option Bool := none
  http : Option Bool := none
  documents : Option Bool := none
  images : Option Bool := none
  browser : Option Bool := none
deriving DecidableEq, Repr, Inhabited

namespace Layer

def apply (l : Layer) (s : Settings) : Settings :=
  { scriptTimeout := l.scriptTimeout.getD s.scriptTimeout
    httpTimeout := l.httpTimeout.getD s.httpTimeout
    browserTimeout := l.browserTimeout.getD s.browserTimeout
    maxFileSize := l.maxFileSize.getD s.maxFileSize
    fileTypes := match l.fileTypes with
      | some types => (s.withFileTypes types).fileTypes
      | none => s.fileTypes
    headless := l.headless.getD s.headless
    filesystem := l.filesystem.getD s.filesystem
    http := l.http.getD s.http
    documents := l.documents.getD s.documents
    images := l.images.getD s.images
    browser := l.browser.getD s.browser }

/-- The layer also switches a feature off. -/
def off (l : Layer) : Feature → Layer
  | .filesystem => { l with filesystem := some false }
  | .http => { l with http := some false }
  | .documents => { l with documents := some false }
  | .images => { l with images := some false }
  | .browser => { l with browser := some false }

end Layer

end ScriptSandbox
