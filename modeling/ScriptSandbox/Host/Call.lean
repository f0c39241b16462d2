import ScriptSandbox.Host.Console
import ScriptSandbox.Host.Documents
import ScriptSandbox.Host.Function
import ScriptSandbox.Host.Utilities
import ScriptSandbox.Http.Client

/-!
# Calls of host functions
-/

namespace ScriptSandbox.HostFunction

/-- What a function does. -/
def action (f : HostFunction) (s : Settings) (args : Arguments) : HostAction Json :=
  match f with
  | .systemInfo => Utilities.systemInfo
  | .settings => Utilities.settings s
  | .console _ => return successWith [("message", .str (Console.line args))]
  | .sleep => Utilities.sleep args
  | .uuid => Utilities.uuid
  | .now => Utilities.now
  | .base64Encode => Utilities.base64Encode args
  | .base64Decode => Utilities.base64Decode args
  | .randomInt => Utilities.randomInt args
  | .regexTest => Utilities.regexTest args
  | .detectFileType => Utilities.detectFileType .full args
  | .readFile => FileAccess.readFile s args
  | .writeFile => FileAccess.writeFile .replace s args
  | .appendFile => FileAccess.writeFile .append s args
  | .listDir => FileAccess.listDir args
  | .fileExists => FileAccess.fileExists args
  | .deleteFile => FileAccess.deleteFile s args
  | .makeDir => FileAccess.makeDir args
  | .findFiles => FileAccess.findFiles args
  | .extractText => Documents.extractText s args
  | .readJson => Documents.readJson s args
  | .imageInfo => Documents.imageInfo s args
  | .httpRequest => HttpClient.call .request s args
  | .httpGet => HttpClient.call .get s args
  | .httpPost => HttpClient.call .post s args

/-- Whether a call gets past its own checks to something that it waits for: a file, a response, the
machine or the clock. -/
def awaits (f : HostFunction) (s : Settings) (args : Arguments) : Bool :=
  match f with
  | .settings | .console _ | .uuid | .now | .base64Encode | .base64Decode | .randomInt
  | .regexTest => false
  | .systemInfo => true
  | .sleep => (Utilities.sleepTime args).isOk
  | .detectFileType | .listDir | .fileExists | .makeDir | .imageInfo =>
    (args.requireText 0 "path").isOk
  | .readFile | .extractText | .readJson => (FileAccess.admittedPath s args).isOk
  | .writeFile =>
    (FileAccess.admittedPath s args).isOk &&
      (args.requireAnyText 1 "content").toOption.any fun text =>
        (Utf8.encode text).length ≤ s.maxFileSize
  | .appendFile => (FileAccess.admittedPath s args).isOk && (args.requireAnyText 1 "content").isOk
  | .deleteFile => (args.requireText 0 "path").isOk && (args.optionalObject 1 "options").isOk
  | .findFiles => (args.requireText 0 "root").isOk && (args.requireText 1 "pattern").isOk
  | .httpRequest => HttpClient.sends .request args
  | .httpGet => HttpClient.sends .get args
  | .httpPost => HttpClient.sends .post args

end ScriptSandbox.HostFunction
