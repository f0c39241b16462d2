import Mathlib.Data.List.Induction
import ScriptSandbox.Host.Call
import ScriptSandbox.Proofs.Host.FileCalls
import ScriptSandbox.Proofs.Http.Sending

/-!
# What functions of the host tell

A value that a function of the host gives says of itself whether the call has succeeded
(`HostFunction.gives_told`), and an error becomes an object that says why it has not
(`Failure.tells`). Every way through a function ends with a value built in one of two ways, so it
is enough to look at the ends (`HostAction.Gives`). A call that waits for nothing has nothing to do
with what lies outside (`HostFunction.prompt_of_not_awaits`).
-/

namespace ScriptSandbox

/-! ## Fields -/

namespace Json

variable {name key : String} {value : Json} {fields : List (String × Json)}

theorem lookup_cons_self : ((name, value) :: fields).lookup name = some value := by
  simp

theorem lookup_cons_of_ne (h : key ≠ name) :
    ((name, value) :: fields).lookup key = fields.lookup key := by
  simp [List.lookup_cons, beq_false_of_ne h]

@[simp] theorem lookup_insertField_self :
    (insertField name value fields).lookup name = some value := by
  induction fields with
  | nil => exact lookup_cons_self
  | cons f fields ih =>
    obtain ⟨other, old⟩ := f
    unfold insertField
    split
    · exact lookup_cons_self
    · rename_i hne
      split
      · exact lookup_cons_self
      · exact (lookup_cons_of_ne hne).trans ih

theorem lookup_insertField_of_ne (h : key ≠ name) :
    (insertField name value fields).lookup key = fields.lookup key := by
  induction fields with
  | nil => exact lookup_cons_of_ne h
  | cons f fields ih =>
    obtain ⟨other, old⟩ := f
    unfold insertField
    split
    · rename_i heq
      subst heq
      rw [lookup_cons_of_ne h, lookup_cons_of_ne h]
    · split
      · exact lookup_cons_of_ne h
      · rw [List.lookup_cons, List.lookup_cons, ih]

/-- Of two fields with one name the later counts. -/
theorem field?_object (key : String) (fields : List (String × Json)) :
    (object fields).field? key = fields.reverse.lookup key := by
  show (fields.foldl (fun acc f => insertField f.1 f.2 acc) []).lookup key = _
  induction fields using List.reverseRecOn with
  | nil => rfl
  | append_singleton fields f ih =>
    obtain ⟨name, value⟩ := f
    rw [List.foldl_append, List.reverse_append]
    show (insertField name value _).lookup key = ((name, value) :: fields.reverse).lookup key
    by_cases heq : key = name
    · subst heq
      rw [lookup_insertField_self, lookup_cons_self]
    · rw [lookup_insertField_of_ne heq, lookup_cons_of_ne heq, ih]

/-! ## What an object tells -/

/-- The object tells of the success of a call, or else of this failure. -/
def Tells (j : Json) : Option Failure → Prop
  | none => j.field? "success" = some (.bool true)
  | some f => j.field? "success" = some (.bool false) ∧ j.field? "error" = some (.str f.message) ∧
      j.field? "code" = some (.str f.code.name)

end Json

theorem success_tells (value : Json) : (success value).Tells none := by
  cases value with
  | obj fields => exact Json.lookup_insertField_self
  | null | bool | num | str | arr => exact (Json.field?_object ..).trans rfl

theorem Failure.tells (f : Failure) : f.toJson.Tells (some f) :=
  ⟨(Json.field?_object ..).trans rfl, (Json.field?_object ..).trans rfl,
    (Json.field?_object ..).trans rfl⟩

/-! ## Responses -/

/-- What a response tells of that is no success. -/
def Response.statusFailure (status : Nat) : Failure :=
  { code := .http, message := s!"HTTP {status} {Status.phrase status}" }

/-- The object gives the status of a response, and tells of a failure unless the status is a
success. -/
def Json.TellsOf (j : Json) (status : Nat) : Prop :=
  j.field? "status" = some (.nat status) ∧
    j.Tells (if Status.isSuccess status then none else some (Response.statusFailure status))

theorem Response.field?_status (r : Response) (url : String) (body : Bytes) :
    (r.toJson url body).field? "status" = some (.nat r.status) := by
  unfold Response.toJson
  dsimp only
  split
  · show (Json.insertField "success" (.bool true) _).lookup "status" = _
    rw [Json.lookup_insertField_of_ne (by decide)]
    exact (Json.field?_object ..).trans rfl
  · exact (Json.field?_object ..).trans rfl

theorem Response.tells (r : Response) (url : String) (body : Bytes) :
    (r.toJson url body).Tells
      (if Status.isSuccess r.status then none else some (statusFailure r.status)) := by
  unfold Response.toJson
  dsimp only
  split
  · exact success_tells _
  · exact ⟨(Json.field?_object ..).trans rfl, (Json.field?_object ..).trans rfl,
      (Json.field?_object ..).trans rfl⟩

/-! ## Actions -/

/-- Every value that the action comes to is of this kind, whatever it finds. -/
def HostAction.Gives {α : Type} (P : α → Prop) (x : HostAction α) : Prop :=
  ∀ w a, (x.run w).1 = .ok a → P a

namespace HostAction

variable {α β : Type} {P : α → Prop} {Q : β → Prop} {x : HostAction α} {f : α → HostAction β}

theorem gives_pure {a : α} (h : P a) : (pure a : HostAction α).Gives P := by
  intro w b hb
  obtain rfl : a = b := Except.ok.inj hb
  exact h

theorem gives_fail (e : Failure) : (fail e : HostAction α).Gives P :=
  fun w a h => by simp at h

theorem gives_throw (e : HostError) : (throw e : HostAction α).Gives P :=
  fun w a h => by simp at h

/-- What an action does first has no say in what it gives in the end. -/
theorem gives_bind (h : ∀ a, (f a).Gives Q) : (x >>= f).Gives Q := by
  intro w b hb
  rcases run_bind_cases x f w with ⟨a, w', -, hrun⟩ | ⟨e, w', -, hrun⟩
  · exact h a w' b (by rw [← hrun]; exact hb)
  · rw [hrun] at hb
    simp at hb

theorem gives_fail_bind (e : Failure) : (fail e >>= f).Gives Q := by
  intro w b hb
  rw [run_bind_fail] at hb
  simp at hb

end HostAction

/-! ## Functions -/

namespace HostFunction

open HostAction

/-- Whether a function gives the response of a server. -/
def givesResponse : HostFunction → Bool
  | .httpRequest | .httpGet | .httpPost => true
  | _ => false

/-- The value tells of success, or of a response where the function gives one. -/
def Told (f : HostFunction) (v : Json) : Prop :=
  if f.givesResponse then ∃ status, v.TellsOf status else v.Tells none

theorem Told.tells {f : HostFunction} {v : Json} (h : f.Told v) : ∃ x, v.Tells x := by
  unfold Told at h
  split at h
  · obtain ⟨status, -, h⟩ := h
    exact ⟨_, h⟩
  · exact ⟨none, h⟩

/-- What a call may end with: what the function comes to, whatever it finds, and every error, since
all that it asks for may fail and it may break off. -/
inductive MayEnd (f : HostFunction) (s : Settings) (args : Arguments) : HostResult → Prop
  | own (w : Surroundings) : MayEnd f s args ((f.action s args).run w).1
  | failed (e : HostError) : MayEnd f s args (.error e)

/-! ## One function after the other -/

theorem gives_successWith (fields : List (String × Json)) :
    (pure (successWith fields) : HostAction Json).Gives (Json.Tells · none) :=
  gives_pure (success_tells _)

theorem writeFile_gives (m : FileAccess.WriteMode) (s : Settings) (args : Arguments) :
    (FileAccess.writeFile m s args).Gives (Json.Tells · none) := by
  refine gives_bind fun path => gives_bind fun content => gives_bind fun w => ?_
  dsimp only
  split
  · exact gives_fail_bind _
  · exact gives_bind fun _ => gives_bind fun _ => gives_successWith _

theorem deleteFile_gives (s : Settings) (args : Arguments) :
    (FileAccess.deleteFile s args).Gives (Json.Tells · none) := by
  refine gives_bind fun path => gives_bind fun options => gives_bind fun entry => ?_
  dsimp only
  split
  · split <;> exact gives_bind fun _ => gives_successWith _
  · split
    · exact gives_fail_bind _
    · exact gives_bind fun _ => gives_successWith _

theorem findFiles_gives (args : Arguments) :
    (FileAccess.findFiles args).Gives (Json.Tells · none) := by
  refine gives_bind fun root => gives_bind fun pattern => gives_bind fun resolved => ?_
  split
  · exact gives_throw _
  · dsimp only
    split
    · exact gives_fail_bind _
    · split
      · exact gives_fail _
      · exact gives_bind fun w => gives_successWith _

theorem imageInfo_gives (s : Settings) (args : Arguments) :
    (Documents.imageInfo s args).Gives (Json.Tells · none) := by
  refine gives_bind fun path => gives_bind fun size => ?_
  dsimp only
  split
  · exact gives_fail_bind _
  · refine gives_bind fun bytes => ?_
    split
    · exact gives_fail_bind _
    · split
      · exact gives_fail _
      · exact gives_successWith _

theorem exchange_gives (s : Settings) (r : Request) :
    (HttpClient.exchange s r).Gives fun j => ∃ status, j.TellsOf status := by
  unfold HttpClient.exchange
  dsimp only
  split
  · exact gives_fail_bind _
  · refine gives_bind fun w => gives_bind fun _ => gives_bind fun _ => ?_
    split
    · exact gives_fail _
    · rename_i response url _
      split
      · exact gives_pure ⟨_, response.field?_status _ _, response.tells _ _⟩
      · exact gives_fail _
      · exact gives_fail _

theorem http_gives (s : Settings) (options : List (String × Json)) :
    (HttpClient.run s options).Gives fun j => ∃ status, j.TellsOf status :=
  gives_bind fun r => exchange_gives s r

theorem gives_told (f : HostFunction) (s : Settings) (args : Arguments) :
    (f.action s args).Gives f.Told := by
  cases f with
  | systemInfo => exact gives_bind fun _ => gives_successWith _
  | settings | console => exact gives_successWith _
  | sleep => exact gives_bind fun _ => gives_bind fun _ => gives_successWith _
  | uuid => exact gives_bind fun _ => gives_successWith _
  | now => exact gives_bind fun _ => gives_successWith _
  | base64Encode => exact gives_bind fun _ => gives_successWith _
  | base64Decode =>
    refine gives_bind fun text => ?_
    dsimp only
    split
    · exact gives_successWith _
    · exact gives_fail _
  | randomInt =>
    refine gives_bind fun low => gives_bind fun high => ?_
    dsimp only
    split
    · exact gives_fail_bind _
    · exact gives_bind fun _ => gives_successWith _
  | regexTest =>
    refine gives_bind fun pattern => gives_bind fun text => ?_
    dsimp only
    split
    · exact gives_fail _
    · exact gives_successWith _
  | detectFileType => exact gives_bind fun _ => gives_bind fun _ => gives_successWith _
  | readFile =>
    exact gives_bind fun _ => gives_bind fun _ => gives_bind fun _ => gives_bind fun _ =>
      gives_successWith _
  | writeFile | appendFile => exact writeFile_gives _ s args
  | listDir => exact gives_bind fun _ => gives_bind fun _ => gives_successWith _
  | fileExists => exact gives_bind fun _ => gives_bind fun _ => gives_successWith _
  | deleteFile => exact deleteFile_gives s args
  | makeDir => exact gives_bind fun _ => gives_bind fun _ => gives_successWith _
  | findFiles => exact findFiles_gives args
  | extractText =>
    refine gives_bind fun path => gives_bind fun bytes => ?_
    dsimp only
    split
    · exact gives_fail _
    · exact gives_successWith _
  | readJson =>
    refine gives_bind fun path => gives_bind fun bytes => ?_
    dsimp only
    split
    · exact gives_successWith _
    · exact gives_fail _
  | imageInfo => exact imageInfo_gives s args
  | httpRequest | httpGet | httpPost => exact gives_bind fun _ => http_gives s _

/-- Whatever a call ends with, the guest gets an object that tells of it. -/
theorem MayEnd.tells {f : HostFunction} {s : Settings} {args : Arguments} {r : HostResult}
    (h : f.MayEnd s args r) : ∃ x, (r.toJson f.name).Tells x := by
  cases h with
  | failed e => exact ⟨_, (e.toFailure f.name).tells⟩
  | own w =>
    cases hr : ((f.action s args).run w).1 with
    | error e => exact ⟨_, (e.toFailure f.name).tells⟩
    | ok v => exact (gives_told f s args w v hr).tells

/-! ## Before anything is waited for -/

theorem now_prompt : Utilities.now.Prompt := by
  refine fun w => ⟨(Utilities.now.run w).1, w.chance, fun w' hc hn => ?_⟩
  unfold Utilities.now
  rw [run_bind_get, run_bind_get, ← hn, ← hc]
  rfl

/-- A content that is too large by itself is refused whatever the file holds. -/
theorem writeFile_prompt {s : Settings} {args : Arguments}
    (h : ∀ path text, FileAccess.admittedPath s args = .ok path →
      args.requireAnyText 1 "content" = .ok text → s.maxFileSize < text.utf8ByteSize) :
    (FileAccess.writeFile .replace s args).Prompt := by
  cases hpath : FileAccess.admittedPath s args with
  | error f => exact prompt_of_run fun _ => FileAccess.writeFile_of_notAdmitted .replace hpath
  | ok path =>
    cases htext : args.requireAnyText 1 "content" with
    | error f => exact prompt_of_run fun _ => FileAccess.writeFile_of_noText .replace hpath htext
    | ok text =>
      have hlarge : s.maxFileSize < 0 + text.utf8ByteSize := by
        have := h path text hpath htext
        omega
      refine prompt_of_run (r := .error (.failure
        (FileAccess.tooLarge .filesystem path (0 + text.utf8ByteSize) s.maxFileSize))) fun w => ?_
      rw [FileAccess.run_writeFile .replace w hpath htext]
      exact if_pos hlarge

theorem document_prompt {s : Settings} {args : Arguments} {k : String → Bytes → HostAction Json}
    (h : (FileAccess.admittedPath s args).isOk = false) :
    (ofExcept (args.requireText 0 "path") >>= fun path =>
      Documents.readAdmitted s path >>= fun bytes => k path bytes).Prompt := by
  refine prompt_ofExcept_bind fun path hpath => ?_
  by_cases hallows : s.allows path = true
  · rw [FileAccess.admittedPath_eq_ok_iff.2 ⟨hpath, hallows⟩] at h
    exact nomatch h
  · have hrefused : s.allows path = false := eq_false_of_ne_true hallows
    exact prompt_of_run fun w =>
      run_bind_of_error (FileAccess.readAdmitted_of_not_allows hrefused)

theorem call_prompt {form : HttpClient.Form} {args : Arguments} (s : Settings)
    (h : HttpClient.sends form args = false) : (HttpClient.call form s args).Prompt := by
  refine prompt_ofExcept_bind fun options hoptions => prompt_ofExcept_bind fun r hr => ?_
  have hweb : HttpClient.isWeb r.url = false := by
    have hasked : form.options args >>= Request.ofOptions = .ok r := by
      rw [hoptions]
      exact hr
    rwa [HttpClient.sends, hasked] at h
  exact prompt_of_run fun w => HttpClient.run_exchange_of_not_web hweb

/-- A call that waits for nothing takes no time and has nothing to do with files, network and machine:
it is refused by its own checks, or its function needs none of them. -/
theorem prompt_of_not_awaits {f : HostFunction} {s : Settings} {args : Arguments}
    (h : f.awaits s args = false) : (f.action s args).Prompt := by
  cases f with
  | systemInfo => simp [awaits] at h
  | settings | console => exact prompt_pure _
  | uuid => exact prompt_bind (prompt_chance _) fun _ => prompt_pure _
  | now => exact now_prompt
  | base64Encode => exact prompt_ofExcept_bind fun _ _ => prompt_pure _
  | base64Decode =>
    refine prompt_ofExcept_bind fun text _ => ?_
    dsimp only
    split
    · exact prompt_pure _
    · exact prompt_fail _
  | randomInt =>
    refine prompt_ofExcept_bind fun low _ => prompt_ofExcept_bind fun high _ => ?_
    dsimp only
    split
    · exact prompt_fail_bind _
    · exact prompt_bind (prompt_chance _) fun _ => prompt_pure _
  | regexTest =>
    refine prompt_ofExcept_bind fun pattern _ => prompt_ofExcept_bind fun text _ => ?_
    dsimp only
    split
    · exact prompt_fail _
    · exact prompt_pure _
  | sleep | detectFileType | listDir | fileExists | makeDir | imageInfo | readFile =>
    refine prompt_ofExcept_bind fun a ha => ?_
    rw [awaits, ha] at h
    exact nomatch h
  | extractText | readJson => exact document_prompt h
  | writeFile =>
    refine writeFile_prompt fun path text hpath htext => ?_
    rw [awaits, hpath, htext] at h
    have hlarge : decide ((Utf8.encode text).length ≤ s.maxFileSize) = false := h
    rw [Utf8.length_encode] at hlarge
    exact Nat.not_le.1 (of_decide_eq_false hlarge)
  | appendFile | deleteFile | findFiles =>
    refine prompt_ofExcept_bind fun a ha => prompt_ofExcept_bind fun b hb => ?_
    rw [awaits, ha, hb] at h
    exact nomatch h
  | httpRequest | httpGet | httpPost => exact call_prompt s h

/-- A content that is too large is refused at once. One that fits is waited for. -/
example : [1, 2].map (fun limit => awaits .writeFile { maxFileSize := limit }
    [.str "a", .str "bc"]) = [false, true] := by decide +kernel

end HostFunction

end ScriptSandbox
