import ScriptSandbox.Main
import ScriptSandbox.Sandbox.Service
import ScriptSandbox.Proofs.Browser.Fields
import ScriptSandbox.Proofs.Browser.Begin
import ScriptSandbox.Proofs.Browser.PoolChange
import ScriptSandbox.Proofs.Browser.LineOrder
import ScriptSandbox.Proofs.Browser.PoolOrder
import ScriptSandbox.Proofs.Browser.PoolLifecycle
import ScriptSandbox.Proofs.Browser.PoolDown
import ScriptSandbox.Proofs.Sandbox.Browser
import ScriptSandbox.Proofs.Sandbox.Closing
import ScriptSandbox.Proofs.Sandbox.Cancelled
import ScriptSandbox.Proofs.Sandbox.Sequence
import ScriptSandbox.Proofs.Sandbox.WorkerOrder
import ScriptSandbox.Proofs.Sandbox.Callers
import ScriptSandbox.Proofs.Sandbox.JobSequence
import ScriptSandbox.Proofs.Sandbox.Waiting
import ScriptSandbox.Proofs.Browser.Work
import ScriptSandbox.Proofs.Browser.SessionChange
import ScriptSandbox.Proofs.Browser.PageOrder
import ScriptSandbox.Proofs.Browser.SessionLifecycle
import ScriptSandbox.Proofs.Browser.CloseProgress
import ScriptSandbox.Proofs.Browser.SessionOver
import ScriptSandbox.Proofs.Browser.TaskChange
import ScriptSandbox.Proofs.Browser.Clock
import ScriptSandbox.Proofs.Browser.OwnResult
import ScriptSandbox.Proofs.Browser.Lifetime
import ScriptSandbox.Proofs.Browser.Quiescent
import ScriptSandbox.Proofs.Host.Actions
import ScriptSandbox.Proofs.Host.Results
import ScriptSandbox.Proofs.Guest.BringIn
import ScriptSandbox.Proofs.Sandbox.Told
import ScriptSandbox.Proofs.Files.Walks
import ScriptSandbox.Proofs.Files.Changes
import ScriptSandbox.Proofs.Text.Utf8
import ScriptSandbox.Proofs.Host.FileCalls
import ScriptSandbox.Proofs.Host.FileStore
import ScriptSandbox.Proofs.Host.FileLimit
import ScriptSandbox.Proofs.Files.Names
import ScriptSandbox.Proofs.Host.FileTypes
import ScriptSandbox.Proofs.Files.Wiped
import ScriptSandbox.Proofs.Host.FileReads
import ScriptSandbox.Proofs.Guest.Held
import ScriptSandbox.Proofs.Guest.Store
import ScriptSandbox.Proofs.Sandbox.Scratch
import ScriptSandbox.Proofs.Number.Whole
import ScriptSandbox.Proofs.Json.ReadBack
import ScriptSandbox.Proofs.Json.Ordered
import ScriptSandbox.Proofs.Guest.Written
import ScriptSandbox.Proofs.Guest.Shown
import ScriptSandbox.Proofs.Guest.Exported
import ScriptSandbox.Proofs.Guest.Globals
import ScriptSandbox.Proofs.Sandbox.Bound
import ScriptSandbox.Proofs.Sandbox.RoundTrip
import ScriptSandbox.Proofs.Settings.Composition
import ScriptSandbox.Proofs.Browser.Siblings
import ScriptSandbox.Proofs.Browser.Course
import ScriptSandbox.Proofs.Browser.Navigation
import ScriptSandbox.Proofs.Browser.Waiting
import ScriptSandbox.Proofs.Browser.Timeouts
import ScriptSandbox.Proofs.Files.JpegWalk
import ScriptSandbox.Proofs.Guest.ArrayItems
import ScriptSandbox.Proofs.Markup.NormalForm
import ScriptSandbox.Proofs.Text.Base64
import ScriptSandbox.Proofs.Text.Blank
import ScriptSandbox.Proofs.Text.Cut
import ScriptSandbox.Proofs.Files.Sniffing
import ScriptSandbox.Proofs.Host.Documents
import ScriptSandbox.Proofs.Host.Encodings
import ScriptSandbox.Proofs.Markup.Tree
import ScriptSandbox.Proofs.Markup.Page
import ScriptSandbox.Proofs.Markup.Alike
import ScriptSandbox.Proofs.Markup.DroppedCode
import ScriptSandbox.Proofs.Host.Pages
import ScriptSandbox.Proofs.Host.Images
import ScriptSandbox.Proofs.Http.Responses
import ScriptSandbox.Proofs.Http.Requests
import ScriptSandbox.Proofs.Browser.Screenshots
import ScriptSandbox.Proofs.Argument
import ScriptSandbox.Proofs.Browser.FaultyCalls
import ScriptSandbox.Proofs.Browser.ScriptCalls
import ScriptSandbox.Proofs.Browser.SoFar
import ScriptSandbox.Proofs.Browser.Elements
import ScriptSandbox.Proofs.Browser.Filling
import ScriptSandbox.Proofs.Browser.Selectors
import ScriptSandbox.Proofs.Host.FileSearch
import ScriptSandbox.Proofs.Files.Rotations
import ScriptSandbox.Proofs.Host.Kinds
