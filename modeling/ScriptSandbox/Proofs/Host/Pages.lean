import ScriptSandbox.Proofs.Host.Documents
import ScriptSandbox.Proofs.Markup.Alike
import ScriptSandbox.Proofs.Markup.DroppedCode

/-!
# Pages without their code

Who asks for the text of a page gets that of the page without its code, whether it is well formed or
not, as long as the names of code are written in small letters and no closing tag of code stands in a
start tag (`code_hidden`). Names in capital letters are known only where the page is not well formed
(`not_every_code_hidden`).
-/

namespace ScriptSandbox.Documents

open FileKind FileTree HostAction Markup

variable {path : String} {bytes : Bytes}

theorem textOf_markup {text : String} (h : isMarkup path (kindOf (Utf8.encode text)) = true) :
    textOf path (Utf8.encode text) = some ("markup", Markup.textOf text) := by
  unfold textOf
  dsimp only
  rw [h, if_pos rfl, Utf8.decodeLossy_encode]

theorem textOf_source (page : Page) :
    Markup.textOf page.source =
      String.ofList ((wellFormedText page.chars).getD (stripTags page.chars)) := by
  rw [textOf_eq, Page.source, String.toList_ofList]

/-- What stands in the scripts and styles of a page does not come out in its text:

* where the page is not well formed, in whatever case their names are, unless a closing tag of code
  stands in the start tag;
* where it is well formed, if their names are in small letters.

Who asks for the text of the page gets that of the page with nothing in those for which both hold. -/
theorem code_hidden (page : Page) :
    stripTags page.chars = stripTags (page.emptied CodeElement.isPlain).chars ∧
    wellFormedText page.chars = wellFormedText (page.emptied CodeElement.isSmall).chars ∧
    ∀ s args w path, Readable s args w path (Utf8.encode page.source) →
      isMarkup path (kindOf (Utf8.encode page.source)) = true →
      (HostFunction.extractText.action s args).run w =
        (.ok (answer path "markup"
          (Markup.textOf (page.emptied fun c => c.isPlain && c.isSmall).source)), w) := by
  refine ⟨stripTags_emptied _ (fun c hc => hc) page, wellFormedText_emptied _ (fun c hc => hc) page,
    fun s args w path hfile hmarkup => ?_⟩
  have htext : Markup.textOf page.source =
      Markup.textOf (page.emptied fun c => c.isPlain && c.isSmall).source := by
    rw [textOf_source, textOf_source,
      wellFormedText_emptied _ (fun c hc => (Bool.and_eq_true_iff.1 hc).2) page,
      stripTags_emptied _ (fun c hc => (Bool.and_eq_true_iff.1 hc).1) page]
  rw [run_extractText hfile, textOf_markup hmarkup, htext]

/-! ## Two pages -/

namespace Script

def startTag (name : List Char) (letter : name.head?.any Char.isAlpha) (plain : name.all isNameChar) :
    StartTag where
  name := name
  inside := []
  letter := letter
  plain := plain
  apart := rfl
  whole := rfl
  isOpen := nofun

def endTag (name : List Char) (plain : name.all isNameChar) : EndTag := ⟨name, [], plain, rfl⟩

/-- A script whose name is in small letters. -/
def small : CodeElement where
  tag := startTag "script".toList (by decide) (by decide)
  ending := endTag "script".toList (by decide)
  named := by decide
  ends := rfl

/-- A script whose name is in capital letters. -/
def capital : CodeElement where
  tag := startTag "SCRIPT".toList (by decide) (by decide)
  ending := endTag "SCRIPT".toList (by decide)
  named := by decide
  ends := rfl

/-- A script whose start tag quotes a closing tag. -/
def quoting : CodeElement where
  tag :=
    { startTag "script".toList (by decide) (by decide) with
      inside := " a='</script>'".toList
      apart := by decide
      whole := by decide
      isOpen := by decide }
  ending := endTag "script".toList (by decide)
  named := by decide
  ends := rfl

/-- A paragraph and a script. -/
def page (c : CodeElement) : Page :=
  .element (startTag ['p'] (by decide) (by decide)) (some (endTag ['p'] (by decide))) (by decide)
    (fun e he => by obtain rfl := Option.some.inj he; rfl) (.text ['A'] (by decide) .nil) <|
    .code c "var x = 1;".toList (by decide) .nil

end Script

/-- A script with its name in capital letters is shown where the page is well formed, and one that
quotes a closing tag where it is not. -/
theorem not_every_code_hidden :
    (¬ ∀ page : Page,
      Markup.textOf page.source = Markup.textOf (page.emptied fun _ => true).source) ∧
    ¬ ∀ page : Page, stripTags page.chars = stripTags (page.emptied fun _ => true).chars := by
  constructor
  · intro h
    have heq := h (Script.page Script.capital)
    have hshown : wellFormedText (Script.page Script.capital).chars =
        some "A\nvar x = 1;".toList := by decide +kernel
    have hempty : wellFormedText ((Script.page Script.capital).emptied fun _ => true).chars =
        some ['A'] := by decide +kernel
    rw [textOf_source, textOf_source, hshown, hempty] at heq
    exact absurd heq (by decide)
  · intro h
    have heq := h (Script.page Script.quoting)
    have hshown : stripTags (Script.page Script.quoting).chars = "A\n'>var x = 1;".toList := by
      decide +kernel
    have hempty : stripTags ((Script.page Script.quoting).emptied fun _ => true).chars =
        "A\n'>".toList := by decide +kernel
    rw [hshown, hempty] at heq
    exact absurd heq (by decide)

/-- The same script with its name in small letters is not. -/
theorem code_hidden_script :
    (HostFunction.extractText.action {} [.str "a.html"]).run
        (Kept.start "a.html" (Utf8.encode (Script.page Script.small).source)) =
      (.ok (answer "a.html" "markup" "A"),
        Kept.start "a.html" (Utf8.encode (Script.page Script.small).source)) := by
  have hsize : (Utf8.encode (Script.page Script.small).source).length ≤
      ({} : Settings).maxFileSize := by decide +kernel
  have hfile := Kept.readable ⟨by decide, by decide, by decide⟩ ⟨by decide, by decide, by decide⟩
    (show Arguments.requireText [.str "a.html"] 0 "path" = .ok "a.html" by decide)
    (show Route.ofPath "a.html" = ⟨false, ["a.html"], false⟩ by decide) hsize
  have htext : wellFormedText
      ((Script.page Script.small).emptied fun c => c.isPlain && c.isSmall).chars = some ['A'] := by
    decide +kernel
  rw [(code_hidden (Script.page Script.small)).2.2 _ _ _ _ hfile (by decide +kernel), textOf_source,
    htext]
  rfl

end ScriptSandbox.Documents
