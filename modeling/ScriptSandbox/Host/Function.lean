import ScriptSandbox.Settings.Basic

/-!
# Host functions

The functions that a guest script can call, in groups. Three groups are always there; the others
follow the settings.
-/

namespace ScriptSandbox

inductive ConsoleLevel
  | log
  | info
  | warn
  | error
  | debug
deriving DecidableEq, Repr

def ConsoleLevel.name : ConsoleLevel → String
  | .log => "log"
  | .info => "info"
  | .warn => "warn"
  | .error => "error"
  | .debug => "debug"

inductive HostFunction
  | systemInfo
  | settings
  | console (level : ConsoleLevel)
  | sleep
  | uuid
  | now
  | base64Encode
  | base64Decode
  | randomInt
  | regexTest
  | detectFileType
  | readFile
  | writeFile
  | appendFile
  | listDir
  | fileExists
  | deleteFile
  | makeDir
  | findFiles
  | httpRequest
  | httpGet
  | httpPost
  | extractText
  | readJson
  | imageInfo
deriving DecidableEq, Repr

inductive Group
  | system
  | logging
  | utilities
  | feature (f : Feature)
deriving DecidableEq, Repr

namespace Group

def always : List Group := [.system, .logging, .utilities]

def all : List Group := always ++ Feature.all.map .feature

def name : Group → String
  | .system => "system"
  | .logging => "logging"
  | .utilities => "utilities"
  | .feature f => f.name

def ofName? (name : String) : Option Group := all.find? (·.name == name)

def functions : Group → List HostFunction
  | .system => [.systemInfo, .settings]
  | .logging => [.log, .info, .warn, .error, .debug].map .console
  | .utilities =>
    [.sleep, .uuid, .now, .base64Encode, .base64Decode, .randomInt, .regexTest, .detectFileType]
  | .feature .filesystem =>
    [.readFile, .writeFile, .appendFile, .listDir, .fileExists, .deleteFile, .makeDir, .findFiles]
  | .feature .http => [.httpRequest, .httpGet, .httpPost]
  | .feature .documents => [.extractText, .readJson]
  | .feature .images => [.imageInfo]
  | .feature .browser => []

end Group

namespace HostFunction

def all : List HostFunction := Group.all.flatMap Group.functions

def name : HostFunction → String
  | .systemInfo => "getSystemInfo"
  | .settings => "getConfig"
  | .console level => level.name
  | .sleep => "sleep"
  | .uuid => "uuid"
  | .now => "now"
  | .base64Encode => "base64Encode"
  | .base64Decode => "base64Decode"
  | .randomInt => "randomInt"
  | .regexTest => "regexTest"
  | .detectFileType => "detectFileType"
  | .readFile => "readFile"
  | .writeFile => "writeFile"
  | .appendFile => "appendFile"
  | .listDir => "listDir"
  | .fileExists => "fileExists"
  | .deleteFile => "deleteFile"
  | .makeDir => "makeDir"
  | .findFiles => "findFiles"
  | .httpRequest => "httpRequest"
  | .httpGet => "httpGet"
  | .httpPost => "httpPost"
  | .extractText => "extractText"
  | .readJson => "readJSON"
  | .imageInfo => "imageInfo"

def arity : HostFunction → Nat
  | .systemInfo | .settings | .uuid | .now => 0
  | .randomInt | .regexTest | .writeFile | .appendFile | .findFiles | .httpPost => 2
  | _ => 1

def description : HostFunction → String
  | .systemInfo => "Operating system, host name, CPU count and memory of the host"
  | .settings => "Timeouts, limits and enabled capability groups of this sandbox"
  | .console _ => "Write the arguments to the host log"
  | .sleep => "Pause the script for the given number of milliseconds"
  | .uuid => "Random v4 UUID"
  | .now => "Current UTC time as RFC 3339 and epoch milliseconds"
  | .base64Encode => "Base64-encode a UTF-8 string"
  | .base64Decode => "Decode base64 into a UTF-8 string"
  | .randomInt => "Random integer in the inclusive range [min, max]"
  | .regexTest => "Test a regular expression against text and return every match"
  | .detectFileType => "Identify a file's type from its leading bytes"
  | .readFile => "Read a file as UTF-8 text, or base64 with encoding 'base64'"
  | .writeFile => "Write text to a file, creating parent directories"
  | .appendFile => "Append text to a file, creating it if needed"
  | .listDir => "List the entries of a directory"
  | .fileExists => "Whether a path exists, and whether it is a file or a directory"
  | .deleteFile => "Delete a file, or a directory with \x7b recursive: true \x7d"
  | .makeDir => "Create a directory and any missing parents"
  | .findFiles => "Recursively find files under a directory whose path matches a glob"
  | .httpRequest => "HTTP request from \x7burl, method, headers, body, json, timeout\x7d"
  | .httpGet => "Shortcut for httpRequest with method GET"
  | .httpPost => "Shortcut for httpRequest with method POST; object bodies are sent as JSON"
  | .extractText => "Plain text of a text, XML or HTML document"
  | .readJson => "Parse a JSON file"
  | .imageInfo => "Format and pixel dimensions of a PNG, GIF, JPEG or BMP image"

def ofName? (name : String) : Option HostFunction := all.find? (·.name == name)

end HostFunction

end ScriptSandbox
