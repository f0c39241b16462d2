import ScriptSandbox.Json.Printer
import ScriptSandbox.Text.Blank

/-!
# Pages

What the address of a page says about it, the scripts that run inside a page, and the options of
processes and sessions. A selector gets into a script as a JSON string between two fixed texts.
-/

namespace ScriptSandbox

namespace PageUrl

def blank : String := "about:blank"

def isBlank (url : String) : Bool :=
  let url := Text.trim url
  url.isEmpty || url == blank

/-- The address a browser gives to a page that could not be loaded. -/
def isErrorPage (url : String) : Bool := "chrome-error:".toList.isPrefixOf (Text.trim url).toList

def hasContent (url : String) : Bool := !isBlank url && !isErrorPage url

end PageUrl

namespace PageScript

/-- A script around one literal. -/
structure Template where
  before : String
  after : String
deriving DecidableEq, Repr

def Template.fill (t : Template) (text : String) : String := t.before ++ Json.quote text ++ t.after

def visibility : Template :=
  { before := "(() => \x7b
  const el = document.querySelector("
    after := ");
  if (!el) return false;
  const style = window.getComputedStyle(el);
  if (style.visibility === 'hidden' || style.display === 'none') return false;
  const rect = el.getBoundingClientRect();
  return rect.width > 0 && rect.height > 0;
\x7d)()" }

def clearing : Template :=
  { before := "(() => \x7b
  const el = document.querySelector("
    after := ");
  if (!el) return false;
  if ('value' in el) \x7b el.value = ''; \x7d else \x7b el.textContent = ''; \x7d
  el.dispatchEvent(new Event('input', \x7b bubbles: true \x7d));
  el.dispatchEvent(new Event('change', \x7b bubbles: true \x7d));
  return true;
\x7d)()" }

def submitting : Template :=
  { before := "(() => \x7b
  const el = document.querySelector("
    after := ");
  if (!el) return false;
  const form = el.tagName === 'FORM' ? el : el.form;
  if (form) \x7b
    if (typeof form.requestSubmit === 'function') \x7b form.requestSubmit(); \x7d else \x7b form.submit(); \x7d
  \x7d else \x7b
    el.click();
  \x7d
  return true;
\x7d)()" }

/-- Evens out a few properties by which automation is told. -/
def stealth : String :=
  "(() => \x7b
  try \x7b
    Object.defineProperty(navigator, 'webdriver', \x7b get: () => undefined \x7d);
    Object.defineProperty(navigator, 'languages', \x7b get: () => ['en-US', 'en'] \x7d);
    Object.defineProperty(navigator, 'plugins', \x7b
      get: () => [
        \x7b name: 'PDF Viewer', filename: 'internal-pdf-viewer' \x7d,
        \x7b name: 'Chrome PDF Viewer', filename: 'internal-pdf-viewer' \x7d,
        \x7b name: 'Chromium PDF Viewer', filename: 'internal-pdf-viewer' \x7d,
      ],
    \x7d);
    window.chrome = window.chrome || \x7b runtime: \x7b\x7d \x7d;
  \x7d catch (e) \x7b\x7d
  return true;
\x7d)()"

def readyState : String := "document.readyState"

def bodyText : String := "document.body ? document.body.innerText : ''"

end PageScript

/-- How a browser process is started. -/
structure LaunchOptions where
  headless : Bool
  requestTimeout : Nat
  userAgent : String :=
    "Mozilla/5.0 (Windows NT 10.0; Win64; x64) AppleWebKit/537.36 " ++
      "(KHTML, like Gecko) Chrome/124.0.0.0 Safari/537.36"
  width : Nat := 1366
  height : Nat := 768
deriving DecidableEq, Repr, Inhabited

/-- The times of a session, in milliseconds. -/
structure SessionOptions where
  /-- How long the session lives. -/
  lifetime : Nat
  /-- The pause before each navigation. -/
  grace : Nat := 500
  /-- How long a document may take to become interactive. -/
  readyLimit : Nat := 10000
  /-- The pause between two looks at the page. -/
  pollInterval : Nat := 100
  /-- How long elements, addresses and texts are waited for. -/
  elementLimit : Nat := 10000
deriving DecidableEq, Repr, Inhabited

end ScriptSandbox
