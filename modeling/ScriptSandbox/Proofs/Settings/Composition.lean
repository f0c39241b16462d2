import ScriptSandbox.Proofs.Settings.Setting
import ScriptSandbox.Proofs.Text.Blank

/-!
# Settings from several layers

A file, the environment and the switches of a command line each say something of some settings. What
is built from them has, for each setting, the value of the highest layer that says something of it.
A variable that cannot be what it is set to makes the whole fail. The list of features to switch off
counts for the features it names and for nothing else.
-/

namespace ScriptSandbox

/-! ## Names of features -/

namespace Text

/-- A text of ASCII letters alone has its lower case letter by letter. -/
theorem lowerAfter_ascii (before : List Char) {cs : List Char} (hcs : ∀ c ∈ cs, c.toNat < 128) :
    lowerAfter before cs = cs.map Char.toLower := by
  induction cs generalizing before with
  | nil => rfl
  | cons c cs ih =>
    have hc := hcs c List.mem_cons_self
    have hsigma : c ≠ 'Σ' := by rintro rfl; exact absurd hc (by decide)
    have hdot : c ≠ 'İ' := by rintro rfl; exact absurd hc (by decide)
    have hrest := ih (c :: before) fun d hd => hcs d (List.mem_cons_of_mem c hd)
    simp [lowerAfter, hsigma, hdot, lowerChar, hc, hrest]

end Text

namespace Feature

def names : Feature → List String
  | .browser => ["browser"]
  | .filesystem => ["filesystem", "fs"]
  | .http => ["http"]
  | .documents => ["documents"]
  | .images => ["images", "image_processing"]

/-- The text is a name of the feature, but for letter case and the blanks around it. -/
def IsNamed (f : Feature) (text : String) : Prop := Text.lower (Text.trim text) ∈ f.names

theorem ofText_eq_ok_iff {text : String} {f : Feature} : ofText text = .ok f ↔ f.IsNamed text := by
  unfold ofText IsNamed
  split <;> cases f <;> simp_all [names]

/-- No name has a capital letter, a blank or a letter outside ASCII. -/
theorem plain_names (f : Feature) : ∀ name ∈ f.names, name.toList ≠ [] ∧
    ∀ c ∈ name.toList, c.toNat < 128 ∧ Text.isBlank c = false := by
  have hall : (f.names.all fun name => !name.toList.isEmpty &&
      name.toList.all fun c => c.toNat < 128 && !Text.isBlank c) = true := by
    cases f <;> decide
  simpa using hall

theorem isNamed_of_spelling {f : Feature} {name : String} (hname : name ∈ f.names)
    {before word after : List Char} (hbefore : ∀ c ∈ before, Text.isBlank c = true)
    (hafter : ∀ c ∈ after, Text.isBlank c = true) (hword : word.map Char.toLower = name.toList) :
    f.IsNamed (String.ofList (before ++ word ++ after)) := by
  obtain ⟨-, hplain⟩ := plain_names f name hname
  have hletter (c : Char) (hc : c ∈ word) : c.toNat < 128 ∧ Text.isBlank c = false := by
    have hlow := hplain c.toLower (hword ▸ List.mem_map_of_mem hc)
    by_cases hcapital : c.val ≥ 'A'.val ∧ c.val ≤ 'Z'.val
    · have hrange : 65 ≤ c.toNat ∧ c.toNat ≤ 90 := hcapital
      simp only [Text.isBlank]
      simp
      omega
    · have hsame : c.toLower = c := dif_neg hcapital
      rwa [hsame] at hlow
  have htrim := Text.trim_padded hbefore hafter fun c hc => (hletter c hc).2
  rw [IsNamed, htrim, Text.lower, String.toList_ofList,
    Text.lowerAfter_ascii [] fun c hc => (hletter c hc).1, hword, String.ofList_toList]
  exact hname

theorem IsNamed.unique {f g : Feature} {text : String} (hf : f.IsNamed text)
    (hg : g.IsNamed text) : f = g :=
  Except.ok.inj ((ofText_eq_ok_iff.mpr hf).symm.trans (ofText_eq_ok_iff.mpr hg))

theorem IsNamed.not_isBlankText {f : Feature} {text : String} (hf : f.IsNamed text) :
    Text.isBlankText text = false := by
  cases hblank : Text.isBlankText text with
  | false => rfl
  | true =>
    have hstart : Text.trimStart text.toList = [] :=
      List.dropWhile_eq_nil_iff.mpr (List.all_eq_true.mp hblank)
    have hlow : Text.lower (Text.trim text) = "" := by
      rw [Text.trim, hstart]
      rfl
    rw [IsNamed, hlow] at hf
    exact absurd hf (by cases f <;> decide)

instance (f : Feature) (text : String) : Decidable (f.IsNamed text) :=
  inferInstanceAs (Decidable (_ ∈ f.names))

end Feature

/-! ## The environment -/

namespace Environment

/-- The variables whose values are numbers. -/
def numberNames : List String :=
  ["SCRIPTBOX_DEFAULT_TIMEOUT_MS", "SCRIPTBOX_HTTP_TIMEOUT_MS", "SCRIPTBOX_BROWSER_TIMEOUT_MS",
    "SCRIPTBOX_MAX_FILE_SIZE"]

/-- The text is a number of at most 64 bits in decimal digits, perhaps behind a plus sign, but for
the blanks around it. -/
def IsWord (n : Nat) (text : String) : Prop :=
  ∃ sign digits, (Text.trim text).toList = sign ++ digits ∧ (sign = [] ∨ sign = ['+']) ∧
    digits ≠ [] ∧ (∀ c ∈ digits, c.isDigit = true) ∧ n = Nat.ofDigitChars 10 digits 0 ∧
    n < 0x10000000000000000

theorem exists_sign (cs : List Char) : ∃ sign, (sign = [] ∨ sign = ['+']) ∧
    cs = sign ++ if cs.head? = some '+' then cs.drop 1 else cs := by
  split
  · rename_i hplus
    obtain ⟨rest, rfl⟩ := List.head?_eq_some_iff.mp hplus
    exact ⟨['+'], .inr rfl, rfl⟩
  · exact ⟨[], .inl rfl, rfl⟩

theorem drop_sign {sign digits : List Char} (hsign : sign = [] ∨ sign = ['+'])
    (hne : digits ≠ []) (hdigits : ∀ c ∈ digits, c.isDigit = true) :
    (if (sign ++ digits).head? = some '+' then (sign ++ digits).drop 1 else sign ++ digits) =
      digits := by
  obtain ⟨c, cs, rfl⟩ := List.exists_cons_of_ne_nil hne
  have hc : c ≠ '+' := by
    rintro rfl
    exact absurd (hdigits _ List.mem_cons_self) (by decide)
  rcases hsign with rfl | rfl
  · simp [hc]
  · simp

theorem word?_eq_some_iff {text : String} {n : Nat} :
    word? (Text.trim text) = some n ↔ IsWord n text := by
  have hvalue (digits : List Char) : digits.foldl (fun n c => 10 * n + (c.toNat - 48)) 0 =
      Nat.ofDigitChars 10 digits 0 := rfl
  unfold word? IsWord
  generalize (Text.trim text).toList = cs
  dsimp only
  constructor
  · intro h
    obtain ⟨sign, hsign, hcs⟩ := exists_sign cs
    generalize (if cs.head? = some '+' then cs.drop 1 else cs) = digits at h hcs
    split at h
    · cases h
    · rename_i hdigits
      simp only [not_or, Bool.not_eq_true', List.all_eq_true, Bool.not_eq_false] at hdigits
      split at h
      · rename_i hbound
        rw [← Option.some.inj h]
        exact ⟨sign, digits, hcs, hsign, hdigits.1, hdigits.2, hvalue _, hbound⟩
      · cases h
  · rintro ⟨sign, digits, rfl, hsign, hne, hdigits, rfl, hbound⟩
    rw [drop_sign hsign hne hdigits, if_neg (by simpa [hne] using hdigits), hvalue]
    exact if_pos hbound

theorem word?_eq_none_iff {text : String} : word? (Text.trim text) = none ↔ ∀ n, ¬ IsWord n text := by
  simp only [Option.eq_none_iff_forall_ne_some, ne_eq, word?_eq_some_iff]

def truthWords : Bool → List String
  | true => ["true", "1", "yes"]
  | false => ["false", "0", "no"]

/-- The text is a word for the truth value, but for letter case and the blanks around it. -/
def IsTruth (b : Bool) (text : String) : Prop := Text.lower (Text.trim text) ∈ truthWords b

instance (b : Bool) (text : String) : Decidable (IsTruth b text) :=
  inferInstanceAs (Decidable (_ ∈ truthWords b))

/-- The truth value that the text is a word for. -/
def truthOf? (text : String) : Option Bool := [true, false].find? fun b => IsTruth b text

/-- The names that are listed to be switched off. -/
def listed (vars : Variables) : List String := names ((vars.lookup "SCRIPTBOX_DISABLE").getD "")

/-- The list names the feature. -/
def SwitchesOff (vars : Variables) (f : Feature) : Prop := ∃ item ∈ listed vars, f.IsNamed item

instance (vars : Variables) (f : Feature) : Decidable (SwitchesOff vars f) :=
  inferInstanceAs (Decidable (∃ item ∈ listed vars, f.IsNamed item))

/-- A variable is set to something that it cannot be. -/
inductive Malformed (vars : Variables) : Prop
  | number (name raw : String) (hname : name ∈ numberNames) (hset : vars.lookup name = some raw)
      (hraw : ∀ n, ¬ IsWord n raw)
  | truth (raw : String) (hset : vars.lookup "SCRIPTBOX_HEADLESS" = some raw)
      (hraw : ∀ b, ¬ IsTruth b raw)
  | feature (item : String) (hitem : item ∈ listed vars) (hblank : Text.isBlankText item = false)
      (hname : ∀ f : Feature, ¬ f.IsNamed item)

theorem malformed_iff {vars : Variables} : Malformed vars ↔
    (∃ name ∈ numberNames, ∃ raw ∈ vars.lookup name, word? (Text.trim raw) = none) ∨
    (∃ raw ∈ vars.lookup "SCRIPTBOX_HEADLESS", ∀ b, ¬ IsTruth b raw) ∨
    ∃ item ∈ listed vars, Text.isBlankText item = false ∧ ∀ f ∈ Feature.all, ¬ f.IsNamed item := by
  constructor
  · intro h
    cases h with
    | number name raw hname hset hraw =>
      exact .inl ⟨name, hname, raw, hset, word?_eq_none_iff.mpr hraw⟩
    | truth raw hset hraw => exact .inr (.inl ⟨raw, hset, hraw⟩)
    | feature item hitem hblank hname =>
      exact .inr (.inr ⟨item, hitem, hblank, fun f _ => hname f⟩)
  · rintro (⟨name, hname, raw, hset, hraw⟩ | ⟨raw, hset, hraw⟩ | ⟨item, hitem, hblank, hname⟩)
    · exact .number name raw hname hset (word?_eq_none_iff.mp hraw)
    · exact .truth raw hset hraw
    · exact .feature item hitem hblank fun f => hname f (by cases f <;> decide)

instance (vars : Variables) : Decidable (Malformed vars) := decidable_of_iff' _ malformed_iff

def numberSaid (vars : Variables) (name : String) : Option Nat :=
  (vars.lookup name).bind fun raw => word? (Text.trim raw)

def truthSaid (vars : Variables) (name : String) : Option Bool :=
  (vars.lookup name).bind truthOf?

/-- What the environment says of a setting. -/
def said (vars : Variables) : (x : Setting) → Option x.Value
  | .scriptTimeout => numberSaid vars "SCRIPTBOX_DEFAULT_TIMEOUT_MS"
  | .httpTimeout => numberSaid vars "SCRIPTBOX_HTTP_TIMEOUT_MS"
  | .browserTimeout => numberSaid vars "SCRIPTBOX_BROWSER_TIMEOUT_MS"
  | .maxFileSize => numberSaid vars "SCRIPTBOX_MAX_FILE_SIZE"
  | .fileTypes => none
  | .headless => truthSaid vars "SCRIPTBOX_HEADLESS"
  | .feature f => if SwitchesOff vars f then some false else none

theorem number_eq_ok_iff {vars : Variables} {name : String} {value : Option Nat} :
    number vars name = .ok value ↔
      (∀ raw, vars.lookup name = some raw → ∃ n, IsWord n raw) ∧
        value = numberSaid vars name := by
  simp only [← word?_eq_some_iff]
  unfold number numberSaid
  cases hset : vars.lookup name with
  | none => simp [eq_comm]
  | some raw => cases hraw : word? (Text.trim raw) <;> simp [hraw, eq_comm]

theorem truth_eq_ok_iff {text : String} {b : Bool} : truth text = .ok b ↔ IsTruth b text := by
  unfold truth IsTruth
  split <;> cases b <;> simp_all [truthWords]

theorem IsTruth.unique {b c : Bool} {text : String} (hb : IsTruth b text) (hc : IsTruth c text) :
    b = c :=
  Except.ok.inj ((truth_eq_ok_iff.mpr hb).symm.trans (truth_eq_ok_iff.mpr hc))

theorem IsTruth.truthOf? {b : Bool} {text : String} (hb : IsTruth b text) :
    truthOf? text = some b := by
  cases b with
  | true => simp [Environment.truthOf?, hb]
  | false =>
    have htrue : ¬ IsTruth true text := fun h => nomatch h.unique hb
    simp [Environment.truthOf?, hb, htrue]

theorem mapM_truth_eq_ok_iff {vars : Variables} {name : String} {value : Option Bool} :
    (vars.lookup name).mapM truth = .ok value ↔
      (∀ raw, vars.lookup name = some raw → ∃ b, IsTruth b raw) ∧
        value = truthSaid vars name := by
  unfold truthSaid
  cases hset : vars.lookup name with
  | none => simp [eq_comm, pure, Except.pure]
  | some raw =>
    constructor
    · intro h
      cases hraw : truth raw with
      | error e => simp [hraw, Functor.map, Except.map] at h
      | ok b =>
        have hb := truth_eq_ok_iff.mp hraw
        obtain rfl : some b = value := by simpa [hraw, Functor.map, Except.map] using h
        refine ⟨fun raw' h' => ?_, by rw [Option.bind_some, hb.truthOf?]⟩
        cases h'
        exact ⟨b, hb⟩
    · intro h
      obtain ⟨b, hb⟩ := h.1 raw rfl
      rw [h.2]
      have htruth : truth raw = .ok b := truth_eq_ok_iff.mpr hb
      rw [Option.mapM_some, htruth, Option.bind_some, hb.truthOf?]
      rfl

theorem layer_eq_ok_iff {vars : Variables} {l : Layer} :
    layer vars = .ok l ↔ ∃ scriptTimeout httpTimeout browserTimeout maxFileSize headless,
      number vars "SCRIPTBOX_DEFAULT_TIMEOUT_MS" = .ok scriptTimeout ∧
      number vars "SCRIPTBOX_HTTP_TIMEOUT_MS" = .ok httpTimeout ∧
      number vars "SCRIPTBOX_BROWSER_TIMEOUT_MS" = .ok browserTimeout ∧
      number vars "SCRIPTBOX_MAX_FILE_SIZE" = .ok maxFileSize ∧
      (vars.lookup "SCRIPTBOX_HEADLESS").mapM truth = .ok headless ∧
      disable { scriptTimeout, httpTimeout, browserTimeout, maxFileSize, headless }
        (listed vars) = .ok l := by
  unfold layer
  cases number vars "SCRIPTBOX_DEFAULT_TIMEOUT_MS" <;>
    cases number vars "SCRIPTBOX_HTTP_TIMEOUT_MS" <;>
    cases number vars "SCRIPTBOX_BROWSER_TIMEOUT_MS" <;>
    cases number vars "SCRIPTBOX_MAX_FILE_SIZE" <;>
    cases (vars.lookup "SCRIPTBOX_HEADLESS").mapM truth <;>
    simp [bind, Except.bind, listed]

/-! The list of names is gone through by `disable`, which a name ends that no feature has. -/

theorem disable_exists (l : Layer) {items : List String}
    (hknown : ∀ item ∈ items, Text.isBlankText item = false → ∃ f : Feature, f.IsNamed item) :
    ∃ l', disable l items = .ok l' := by
  induction items generalizing l with
  | nil => exact ⟨l, rfl⟩
  | cons item items ih =>
    have ih' (l : Layer) := ih l fun i hi => hknown i (List.mem_cons_of_mem item hi)
    cases hblank : Text.isBlankText item with
    | true => simpa [disable, hblank] using ih' l
    | false =>
      obtain ⟨f, hf⟩ := hknown item List.mem_cons_self hblank
      simpa [disable, hblank, Feature.ofText_eq_ok_iff.mpr hf] using ih' (l.off f)

theorem known_of_disable {l l' : Layer} {items : List String} (h : disable l items = .ok l') :
    ∀ item ∈ items, Text.isBlankText item = false → ∃ f : Feature, f.IsNamed item := by
  induction items generalizing l with
  | nil => simp
  | cons item items ih =>
    intro i hi hblank
    rw [disable] at h
    rcases List.mem_cons.mp hi with rfl | hi
    · rw [hblank] at h
      cases hf : Feature.ofText i with
      | error e => simp [hf] at h
      | ok f => exact ⟨f, Feature.ofText_eq_ok_iff.mp hf⟩
    · split at h
      · exact ih h i hi hblank
      · cases hf : Feature.ofText item with
        | error e => simp [hf] at h
        | ok f => exact ih (by simpa [hf] using h) i hi hblank

/-- A list of names switches the features off that it names, and says nothing of other settings. -/
theorem get?_of_disable {l l' : Layer} {items : List String} (h : disable l items = .ok l') :
    (∀ f : Feature, l'.get? (.feature f) =
      if ∃ item ∈ items, f.IsNamed item then some false else l.get? (.feature f)) ∧
    ∀ x, (∀ f, x ≠ .feature f) → l'.get? x = l.get? x := by
  induction items generalizing l with
  | nil =>
    cases h
    simp
  | cons item items ih =>
    rw [disable] at h
    split at h
    · rename_i hblank
      obtain ⟨hfeature, hother⟩ := ih h
      refine ⟨fun f => ?_, hother⟩
      have hnot : ¬ f.IsNamed item := fun hf => by
        rw [hf.not_isBlankText] at hblank
        cases hblank
      rw [hfeature f]
      simp [hnot]
    · cases hg : Feature.ofText item with
      | error e => simp [hg] at h
      | ok g =>
        rw [hg] at h
        obtain ⟨hfeature, hother⟩ := ih h
        have hnamed : g.IsNamed item := Feature.ofText_eq_ok_iff.mp hg
        refine ⟨fun f => ?_, fun x hx => ?_⟩
        · rw [hfeature f]
          show (if _ then _ else (l.off g).feature? f) = if _ then _ else l.feature? f
          rw [Layer.feature?_off]
          have hiff : f.IsNamed item ↔ f = g := ⟨fun hf => hf.unique hnamed, fun hf => hf ▸ hnamed⟩
          simp only [List.mem_cons, exists_eq_or_imp, hiff]
          by_cases hfg : f = g <;> simp [hfg]
        · rw [hother x hx, Layer.get?_off_of_ne l (hx g)]

theorem layer_of_not_malformed {vars : Variables} (h : ¬ Malformed vars) :
    ∃ l, layer vars = .ok l ∧ ∀ x, l.get? x = said vars x := by
  have hnumber (name : String) (hname : name ∈ numberNames) :
      number vars name = .ok (numberSaid vars name) :=
    number_eq_ok_iff.mpr ⟨fun raw hset => Classical.byContradiction fun hnone =>
      h (.number name raw hname hset (not_exists.mp hnone)), rfl⟩
  have htruth := mapM_truth_eq_ok_iff.mpr ⟨fun raw hset =>
    Classical.byContradiction fun hnone => h (.truth raw hset (not_exists.mp hnone)), rfl⟩
  obtain ⟨l, hl⟩ := disable_exists
    { scriptTimeout := numberSaid vars "SCRIPTBOX_DEFAULT_TIMEOUT_MS"
      httpTimeout := numberSaid vars "SCRIPTBOX_HTTP_TIMEOUT_MS"
      browserTimeout := numberSaid vars "SCRIPTBOX_BROWSER_TIMEOUT_MS"
      maxFileSize := numberSaid vars "SCRIPTBOX_MAX_FILE_SIZE"
      headless := truthSaid vars "SCRIPTBOX_HEADLESS" } fun item hitem hblank =>
    Classical.byContradiction fun hnone => h (.feature item hitem hblank (not_exists.mp hnone))
  refine ⟨l, layer_eq_ok_iff.mpr ⟨_, _, _, _, _, hnumber _ (by simp [numberNames]),
    hnumber _ (by simp [numberNames]), hnumber _ (by simp [numberNames]),
    hnumber _ (by simp [numberNames]), htruth, hl⟩, fun x => ?_⟩
  obtain ⟨hfeature, hother⟩ := get?_of_disable hl
  cases x with
  | feature f =>
    rw [hfeature f]
    show _ = if SwitchesOff vars f then some false else none
    cases f <;> rfl
  | _ => exact hother _ nofun

theorem layer_of_malformed {vars : Variables} (h : Malformed vars) : ∃ e, layer vars = .error e := by
  cases hl : layer vars with
  | error e => exact ⟨e, rfl⟩
  | ok l =>
    exfalso
    obtain ⟨_, _, _, _, _, hscript, hhttp, hbrowser, hsize, hheadless, hdisable⟩ :=
      layer_eq_ok_iff.mp hl
    cases h with
    | number name raw hname hset hraw =>
      simp only [numberNames, List.mem_cons, List.not_mem_nil, or_false] at hname
      have hword {value : Option Nat} (hvalue : number vars name = .ok value) : False := by
        obtain ⟨n, hn⟩ := (number_eq_ok_iff.mp hvalue).1 raw hset
        exact hraw n hn
      rcases hname with rfl | rfl | rfl | rfl
      · exact hword hscript
      · exact hword hhttp
      · exact hword hbrowser
      · exact hword hsize
    | truth raw hset hraw =>
      obtain ⟨b, hb⟩ := (mapM_truth_eq_ok_iff.mp hheadless).1 raw hset
      exact hraw b hb
    | feature item hitem hblank hname =>
      obtain ⟨f, hf⟩ := known_of_disable hdisable item hitem hblank
      exact hname f hf

/-- Items without commas are found again in the list that they are put together to. -/
theorem names_intercalate {items : List String} (hne : items ≠ [])
    (hplain : ∀ item ∈ items, ',' ∉ item.toList) : names (",".intercalate items) = items := by
  have hsplit : ([','].intercalate (items.map String.toList)).splitOn ',' =
      items.map String.toList :=
    List.splitOn_intercalate ',' (by simpa using hplain) (by simpa using hne)
  have htext : (",".intercalate items).toList = [','].intercalate (items.map String.toList) :=
    String.toList_intercalate
  rw [names, htext, hsplit, List.map_map]
  simp [Function.comp_def]

/-- The list counts for the features that it names. -/
theorem said_congr {vars vars' : Variables}
    (hsame : ∀ name, name ≠ "SCRIPTBOX_DISABLE" → vars'.lookup name = vars.lookup name)
    (hoff : ∀ f, SwitchesOff vars' f ↔ SwitchesOff vars f) (x : Setting) :
    said vars' x = said vars x := by
  cases x with
  | feature f => simp only [said, hoff]
  | fileTypes => rfl
  | headless => simp only [said, truthSaid, hsame "SCRIPTBOX_HEADLESS" (by decide)]
  | scriptTimeout =>
    simp only [said, numberSaid, hsame "SCRIPTBOX_DEFAULT_TIMEOUT_MS" (by decide)]
  | httpTimeout => simp only [said, numberSaid, hsame "SCRIPTBOX_HTTP_TIMEOUT_MS" (by decide)]
  | browserTimeout => simp only [said, numberSaid, hsame "SCRIPTBOX_BROWSER_TIMEOUT_MS" (by decide)]
  | maxFileSize => simp only [said, numberSaid, hsame "SCRIPTBOX_MAX_FILE_SIZE" (by decide)]

/-- Of a list of items, only the names among them matter. -/
theorem switchesOff_intercalate {vars : Variables} {items : List String} (f : Feature)
    (hset : vars.lookup "SCRIPTBOX_DISABLE" = some (",".intercalate items))
    (hplain : ∀ item ∈ items, ',' ∉ item.toList) :
    SwitchesOff vars f ↔ ∃ item ∈ items, f.IsNamed item := by
  have hlisted : listed vars = names (",".intercalate items) := by
    rw [listed, hset]
    rfl
  rw [SwitchesOff, hlisted]
  by_cases hne : items = []
  · subst hne
    have hblank : names (",".intercalate []) = [""] := by decide
    rw [hblank]
    cases f <;> decide
  · rw [names_intercalate hne hplain]

end Environment

/-! ## All layers -/

namespace CommandLine.Options

/-- What the settings file says; without one, nothing is said. -/
def fileLayer (o : Options) (files : FileTree) : Except String Layer :=
  match o.settingsFile with
  | some path => SettingsFile.load files path
  | none => .ok {}

theorem settings_of_file_error {o : Options} {files : FileTree} {e : String}
    (vars : Environment.Variables) (h : o.fileLayer files = .error e) :
    o.settings vars files = .error e := by
  unfold fileLayer at h
  unfold settings
  cases hpath : o.settingsFile with
  | none => simp [hpath] at h
  | some path =>
    have hload : SettingsFile.load files path = .error e := by simpa [hpath] using h
    simp [hload, bind, Except.bind, Except.map]

theorem settings_of_error {o : Options} {vars : Environment.Variables} {e : String}
    (files : FileTree) (h : Environment.layer vars = .error e) :
    ∃ e', o.settings vars files = .error e' := by
  unfold settings
  cases o.settingsFile with
  | none => exact ⟨e, by simp [h, bind, Except.bind, pure, Except.pure]⟩
  | some path =>
    cases hload : SettingsFile.load files path with
    | error e' => exact ⟨e', by simp [hload, bind, Except.bind, Except.map]⟩
    | ok file => exact ⟨e, by simp [hload, h, bind, Except.bind, Except.map]⟩

theorem settings_of_ok {o : Options} {vars : Environment.Variables} {files : FileTree}
    {file env : Layer} (hfile : o.fileLayer files = .ok file)
    (henv : Environment.layer vars = .ok env) :
    o.settings vars files = .ok (o.switches.foldl Switch.apply (env.apply (file.apply {}))) := by
  unfold fileLayer at hfile
  unfold settings
  cases hpath : o.settingsFile with
  | none =>
    obtain rfl : {} = file := by simpa [hpath] using hfile
    simp [henv, bind, Except.bind, pure, Except.pure]
    rfl
  | some path =>
    have hload : SettingsFile.load files path = .ok file := by simpa [hpath] using hfile
    simp [hload, henv, bind, Except.bind, Except.map, pure, Except.pure]

/-- The value of a setting is that of the highest layer that says something of it. -/
theorem get_settings {o : Options} {vars : Environment.Variables} {files : FileTree} {file : Layer}
    (hfile : o.fileLayer files = .ok file) (hvars : ¬ Environment.Malformed vars) :
    ∃ s, o.settings vars files = .ok s ∧ ∀ x, s.get x =
      ((Switch.said o.switches x).or ((Environment.said vars x).or (file.get? x))).getD
        (({} : Settings).get x) := by
  obtain ⟨env, henv, hsaid⟩ := Environment.layer_of_not_malformed hvars
  refine ⟨_, settings_of_ok hfile henv, fun x => ?_⟩
  calc _ = (Switch.said o.switches x).getD ((env.apply (file.apply {})).get x) :=
        Switch.get_foldl o.switches _ x
    _ = (Switch.said o.switches x).getD ((Environment.said vars x).getD ((file.get? x).getD _)) := by
        rw [Layer.get_apply, Layer.get_apply, hsaid]
    _ = _ := by
        rw [Option.getD_or, Option.getD_or]

/-- A feature is there exactly if no layer switches it off. -/
theorem has_iff {s : Settings} {f : Feature} {o : Options} {vars : Environment.Variables}
    {file : Layer} (h : s.get (.feature f) =
      ((Switch.said o.switches (.feature f)).or
        ((Environment.said vars (.feature f)).or (file.get? (.feature f)))).getD
          (({} : Settings).get (.feature f))) :
    s.has f = true ↔ file.feature? f ≠ some false ∧ ¬ Environment.SwitchesOff vars f ∧
      Switch.without f ∉ o.switches := by
  have hdefault : ({} : Settings).has f = true := by cases f <;> rfl
  have hhas : s.has f = _ := h
  rw [hhas]
  simp only [Switch.said, Environment.said, Layer.get?, Settings.get, hdefault]
  by_cases hswitch : Switch.without f ∈ o.switches <;>
    by_cases henv : Environment.SwitchesOff vars f <;>
    rcases hsaid : file.feature? f with _ | _ | _ <;> simp [hswitch, henv]

namespace ThreeLayers

def content : Bytes := Utf8.encode "[null,5,6,null,null,true,null,null,false]"

def files : FileTree := ⟨[(FileTree.home, .dir), (["home", "s"], .file content)]⟩

def vars : Environment.Variables :=
  [("SCRIPTBOX_HTTP_TIMEOUT_MS", " +7"), ("SCRIPTBOX_HEADLESS", "Yes"),
    ("SCRIPTBOX_DISABLE", "FS ,, image_processing,fs")]

def options : Options := ⟨.source "", 0, some "s", none, [.without .browser, .headed]⟩

theorem resolve_files : files.resolve "s" true = .ok (.found ["home", "s"] (.file content)) := by
  have hwalk : files.walk true FileTree.maxLinks FileTree.home ["s"] =
      .ok (.found ["home", "s"] (.file content)) := by
    unfold FileTree.walk
    unfold FileTree.walk
    rfl
  have hroute : FileTree.Route.ofPath "s" = ⟨false, ["s"], false⟩ := by decide
  rw [FileTree.resolve, hroute]
  simp only [Bool.or_false, Bool.false_eq_true, if_false, hwalk]
  rfl

theorem load_files : SettingsFile.load files "s" =
    .ok { httpTimeout := some 5, browserTimeout := some 6, headless := some true,
          http := some false } := by
  have hdecode : Utf8.decode? content = some "[null,5,6,null,null,true,null,null,false]" := by
    decide +kernel
  rw [SettingsFile.load, FileTree.readText, FileTree.read, FileTree.stat, resolve_files]
  simp only [hdecode]
  rfl

end ThreeLayers

end CommandLine.Options

end ScriptSandbox
