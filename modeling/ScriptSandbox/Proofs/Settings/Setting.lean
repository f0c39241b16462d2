import ScriptSandbox.CommandLine.Options

/-!
# One setting at a time

Settings and layers as functions of the setting that is asked for. A layer that is applied puts its
own values in the place of those below, and the switches of a command line are one more layer.
-/

namespace ScriptSandbox

inductive Setting
  | scriptTimeout
  | httpTimeout
  | browserTimeout
  | maxFileSize
  | fileTypes
  | headless
  | feature (f : Feature)
deriving DecidableEq, Repr

abbrev Setting.Value : Setting → Type
  | .scriptTimeout | .httpTimeout | .browserTimeout | .maxFileSize => Nat
  | .fileTypes => List String
  | .headless | .feature _ => Bool

namespace Settings

def get (s : Settings) : (x : Setting) → x.Value
  | .scriptTimeout => s.scriptTimeout
  | .httpTimeout => s.httpTimeout
  | .browserTimeout => s.browserTimeout
  | .maxFileSize => s.maxFileSize
  | .fileTypes => s.fileTypes
  | .headless => s.headless
  | .feature f => s.has f

theorem ext_get {s t : Settings} (h : ∀ x, s.get x = t.get x) : s = t := by
  have hscript := h .scriptTimeout
  have hhttp := h .httpTimeout
  have hbrowser := h .browserTimeout
  have hsize := h .maxFileSize
  have htypes := h .fileTypes
  have hheadless := h .headless
  have hfeature (f : Feature) : s.has f = t.has f := h (.feature f)
  cases s
  cases t
  simp only [mk.injEq]
  exact ⟨hscript, hhttp, hbrowser, hsize, htypes, hheadless, hfeature .filesystem,
    hfeature .http, hfeature .documents, hfeature .images, hfeature .browser⟩

@[simp] theorem has_switch (s : Settings) (f g : Feature) (on : Bool) :
    (s.switch f on).has g = if g = f then on else s.has g := by
  cases f <;> cases g <;> rfl

end Settings

namespace Layer

def feature? (l : Layer) : Feature → Option Bool
  | .filesystem => l.filesystem
  | .http => l.http
  | .documents => l.documents
  | .images => l.images
  | .browser => l.browser

/-- What the layer says of a setting; file types are meant in their common form. -/
def get? (l : Layer) : (x : Setting) → Option x.Value
  | .scriptTimeout => l.scriptTimeout
  | .httpTimeout => l.httpTimeout
  | .browserTimeout => l.browserTimeout
  | .maxFileSize => l.maxFileSize
  | .fileTypes => l.fileTypes.map fun types => (types.map Settings.fileType).filter (!·.isEmpty)
  | .headless => l.headless
  | .feature f => l.feature? f

/-- A layer decides the settings it says something of, and keeps the others. -/
theorem get_apply (l : Layer) (s : Settings) (x : Setting) :
    (l.apply s).get x = (l.get? x).getD (s.get x) := by
  cases x with
  | fileTypes => cases h : l.fileTypes <;> simp [Settings.get, get?, apply, h, Settings.withFileTypes]
  | feature f => cases f <;> rfl
  | _ => rfl

@[simp] theorem feature?_off (l : Layer) (f g : Feature) :
    (l.off f).feature? g = if g = f then some false else l.feature? g := by
  cases f <;> cases g <;> rfl

/-- Switching a feature off says nothing of any other setting. -/
theorem get?_off_of_ne (l : Layer) {f : Feature} {x : Setting} (hx : x ≠ .feature f) :
    (l.off f).get? x = l.get? x := by
  cases x with
  | feature g =>
    have hg : g ≠ f := fun h => hx (congrArg _ h)
    show (l.off f).feature? g = l.feature? g
    rw [feature?_off, if_neg hg]
  | _ => cases f <;> rfl

end Layer

namespace CommandLine.Switch

/-- What the switches of a command line say of a setting. -/
def said (switches : List Switch) : (x : Setting) → Option x.Value
  | .headless => if .headed ∈ switches then some false else none
  | .feature f => if .without f ∈ switches then some false else none
  | .scriptTimeout | .httpTimeout | .browserTimeout | .maxFileSize | .fileTypes => none

theorem get_apply (s : Settings) (switch : Switch) (x : Setting) :
    (switch.apply s).get x = (said [switch] x).getD (s.get x) := by
  cases switch with
  | headed => cases x <;> rfl
  | without f =>
    cases x with
    | feature g =>
      show (s.switch f false).has g = _
      rw [Settings.has_switch]
      by_cases h : g = f <;> simp [said, h, Settings.get]
    | _ => cases f <;> rfl

theorem said_cons (switch : Switch) (switches : List Switch) (x : Setting) :
    said (switch :: switches) x = (said switches x).or (said [switch] x) := by
  cases x with
  | headless =>
    simp only [said, List.mem_cons, List.not_mem_nil, or_false]
    by_cases h : Switch.headed ∈ switches <;> simp [h]
  | feature f =>
    simp only [said, List.mem_cons, List.not_mem_nil, or_false]
    by_cases h : Switch.without f ∈ switches <;> simp [h]
  | _ => rfl

/-- The switches are a layer above all others, in whatever order they stand. -/
theorem get_foldl (switches : List Switch) (s : Settings) (x : Setting) :
    (switches.foldl apply s).get x = (said switches x).getD (s.get x) := by
  induction switches generalizing s with
  | nil => cases x <;> rfl
  | cons switch switches ih =>
    rw [List.foldl_cons, ih, get_apply, said_cons switch switches x]
    cases said switches x <;> rfl

end CommandLine.Switch

end ScriptSandbox
