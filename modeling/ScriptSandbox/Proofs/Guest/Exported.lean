import ScriptSandbox.Guest.Task
import ScriptSandbox.Proofs.Guest.Shown

/-!
# Values that leave the guest

A value that stands for a JSON value leaves the guest as that value, and leaves the realm as it is
(`Realm.Holds.exported`). Objects go by way of the text that the guest writes of them, which takes no
longer than is allowed for the realm.
-/

namespace ScriptSandbox.Guest

variable {r : Realm} {v : Value} {o lo hi : ObjId} {n k : Nat}

namespace Machine

variable {m m' : Machine}

theorem run_next (h : m.step = .next m') (n : Nat) : run (n + 1) m = run n m' := by
  rw [run, h]

theorem run_ended {e : Ending} (h : m.step = .ended e r) (n : Nat) :
    run (n + 1) m = .done (e, r) := by
  rw [run, h]

/-- A machine writes as long as writing goes on. -/
theorem run_write {w w' : Writing} (h : Writing.Runs m.realm k w w') (n : Nat) :
    run (n + k) { m with control := .write w } = run n { m with control := .write w' } := by
  induction k generalizing w with
  | zero =>
    obtain rfl : w = w' := h
    rfl
  | succ k ih =>
    obtain ⟨w₁, hstep, hrest⟩ := h
    have hnext : step { m with control := .write w } = .next { m with control := .write w₁ } := by
      show Turn.next (stepWriting { m with control := .write w } w) = _
      unfold stepWriting
      dsimp only
      rw [hstep]
    rw [← Nat.add_assoc, run_next hnext, ih hrest]

end Machine

namespace Realm

/-- The global `JSON` is the one from the start. -/
def KeepsJson (r : Realm) : Prop :=
  (r.obj globalId).own (Units.ofString "JSON") = some (.hidden Intrinsic.json.value)

/-- The global `JSON` and its `stringify` are those from the start. -/
structure StandardJson (r : Realm) : Prop where
  keeps : r.KeepsJson
  json : r.obj Intrinsic.json.id = fresh.obj Intrinsic.json.id
  stringify : r.obj Native.stringify.id = fresh.obj Native.stringify.id

theorem Standard.standardJson (hs : r.Standard) (hj : r.KeepsJson) : r.StandardJson where
  keeps := hj
  json := hs.obj_eq _ (by decide +kernel) (by decide)
  stringify := hs.obj_eq _ (by decide +kernel) (by decide +kernel)

theorem find_json (hj : r.KeepsJson) :
    r.find globalId (Units.ofString "JSON") = some (.hidden Intrinsic.json.value) := find_of_own hj

theorem StandardJson.find_stringify (hs : r.StandardJson) :
    r.find Intrinsic.json.id (Units.ofString "stringify") =
      some (.hidden (.object Native.stringify.id)) := by
  refine find_of_own ?_
  rw [hs.json]
  decide +kernel

/-! ## Ways out -/

/-- What an ended machine gives is what leaves the guest. -/
theorem exported_of_run {j : Json}
    (h : ({ realm := r, control := .export v } : Machine).run (patienceFor r) = .done (.json j, r)) :
    exported v r = .done (.ok j, r) := by
  show GuestTask.bind (({ realm := r, control := .export v } : Machine).run (patienceFor r)) _ = _
  rw [h]
  rfl

/-- What is not written leaves the guest at once. -/
theorem exported_at_once {j : Json}
    (h : ({ realm := r, control := .export v } : Machine).exportValue v =
      { realm := r, control := .exported j }) : exported v r = .done (.ok j, r) := by
  refine exported_of_run ?_
  obtain ⟨n, hn⟩ : ∃ n, patienceFor r = n + 2 := ⟨patienceFor r - 2, by
    unfold patienceFor patience
    omega⟩
  have hstep : ({ realm := r, control := .export v } : Machine).step =
      .next { realm := r, control := .exported j } := congrArg Turn.next h
  rw [hn, Machine.run_next hstep]
  rfl

theorem exported_of_isCallable (h : r.isCallable (.object o) = true) :
    exported (.object o) r = .done (.ok .null, r) := by
  refine exported_at_once ?_
  unfold Machine.exportValue
  dsimp only
  rw [h, if_pos rfl]

/-- An object that is no function is written by the `JSON.stringify` from the start. -/
theorem run_export (hs : r.StandardJson) (hcallable : r.isCallable (.object o) = false)
    (n : Nat) : ({ realm := r, control := .export (.object o) } : Machine).run (n + 5) =
      ({ realm := r, control := .write { steps := [.value (.object o) [] .top] }
         frames := [.exportText (.object o)] } : Machine).run n := by
  have hkind : (r.obj Native.stringify.id).kind = .native .stringify := by
    rw [hs.stringify]
    rfl
  have hfunction : r.isCallable (.object Native.stringify.id) = true := by
    unfold isCallable Obj.isCallable
    dsimp only
    rw [hkind]
  have hjson : ({ realm := r, control := .export (.object o) } : Machine).step =
      .next { realm := r, control := .give Intrinsic.json.value
              frames := [.exportJson (.object o)] } := by
    show Turn.next (Machine.exportValue _ (.object o)) = _
    unfold Machine.exportValue
    dsimp only
    rw [hcallable, if_neg Bool.false_ne_true]
    show Turn.next (Machine.giveFound _ _ (r.find globalId (Units.ofString "JSON"))) = _
    rw [find_json hs.keeps]
    rfl
  have hstringify : ({ realm := r, control := .give Intrinsic.json.value
                       frames := [.exportJson (.object o)] } : Machine).step =
      .next { realm := r, control := .give (.object Native.stringify.id)
              frames := [.exportStringify (.object o) Intrinsic.json.value] } := by
    show Turn.next (Machine.giveFound _ _ (r.find Intrinsic.json.id (Units.ofString "stringify"))) = _
    rw [hs.find_stringify]
    rfl
  have hresume : ({ realm := r, control := .give (.object Native.stringify.id)
                    frames := [.exportStringify (.object o) Intrinsic.json.value] } : Machine).step =
      .next { realm := r, frames := [.exportText (.object o)]
              control := .call (.object Native.stringify.id) Intrinsic.json.value [.object o] } := by
    show Turn.next (Machine.resume _ _ _) = _
    unfold Machine.resume
    dsimp only
    rw [hfunction, if_pos rfl]
    rfl
  have hcall : ({ realm := r, frames := [.exportText (.object o)]
                  control := .call (.object Native.stringify.id) Intrinsic.json.value
                    [.object o] } : Machine).step =
      .next { realm := r, frames := [.exportText (.object o)]
              control := .native .stringify Intrinsic.json.value [.object o] } := by
    unfold Machine.step Machine.callValue
    dsimp only
    rw [hkind]
  rw [Machine.run_next hjson, Machine.run_next hstringify, Machine.run_next hresume,
    Machine.run_next hcall, Machine.run_next rfl]
  rfl

/-- A text that has been written is read. -/
theorem run_exportText (text : Units) (n : Nat) :
    ({ realm := r, control := .write { steps := [], text := text.reverse }
       frames := [.exportText v] } : Machine).run (n + 3) =
      .done (.json (Machine.readWritten (.text text)), r) := by
  have hdone : ({ realm := r, control := .write { steps := [], text := text.reverse }
                  frames := [.exportText v] } : Machine).step =
      .next { realm := r, control := .give (.text text), frames := [.exportText v] } := by
    show Turn.next (Machine.give _ (.text text.reverse.reverse)) = _
    rw [List.reverse_reverse]
    rfl
  rw [Machine.run_next hdone, Machine.run_next rfl]
  rfl

/-- An object that is no function leaves the guest as what the text says that it shows. -/
theorem exported_of_shows (hs : r.StandardJson) (hcallable : r.isCallable (.object o) = false)
    {text : Units} (hshows : Writing.Shows r (.object o) text k lo hi) (hk : k + 8 ≤ patienceFor r) :
    exported (.object o) r = .done (.ok (Machine.readWritten (.text text)), r) := by
  refine exported_of_run ?_
  obtain ⟨n, hn⟩ : ∃ n, patienceFor r = n + 3 + k + 5 := ⟨patienceFor r - (k + 8), by omega⟩
  have htext : (({ steps := [] } : Writing).lead [] .top).add text =
      { steps := [], text := text.reverse } := by
    simp [Writing.lead, Writing.add]
  have hwrite := Machine.run_write (m := { realm := r, frames := [.exportText (.object o)]
                                           control := .give .undefined })
    (hshows { steps := [] } [] .top [] rfl (by simp)) (n + 3)
  rw [htext] at hwrite
  rw [hn, run_export hs hcallable]
  exact hwrite.trans (run_exportText text n)

/-! ## Held values -/

theorem readWritten_ofString (s : String) : Machine.readWritten (.text (Units.ofString s)) =
    ((Json.read (Utf8.encode s)).toOption).getD .null := by
  unfold Machine.readWritten
  dsimp only
  rw [Units.text_ofString]

/-- What is written of a value that travels takes no longer than is allowed. -/
theorem cost_le_patienceFor {cost : Nat} (hhi : hi ≤ r.objects.size)
    (hcost : cost + 3 * r.extentBelow lo ≤ 3 * r.extentBelow hi + 2) : cost + 8 ≤ patienceFor r := by
  have hextent := r.extentBelow_le hhi
  have hsquare : r.extent ≤ r.extent * r.extent := Nat.le_mul_self r.extent
  unfold patienceFor patience
  rw [Nat.mul_assoc]
  omega

/-- A value that stands for a JSON value leaves the guest as that value, and all stays as it is. -/
theorem Holds.exported {d : Nat} {j : Json} (h : r.Holds j lo hi v) (hs : r.Standard)
    (hjson : r.KeepsJson) (hj : Json.Portable d j) (hd : d < Json.maxDepth)
    (hhi : hi ≤ r.objects.size) :
    exported v r = .done (.ok j, r) := by
  obtain ⟨k, cost, hreads, hshows, hcost⟩ := h.travels hs hj
  have hwritten : ∀ o, v = .object o → Guest.exported v r = .done (.ok j, r) := by
    rintro o rfl
    rw [exported_of_shows (hs.standardJson hjson) h.notCallable hshows (cost_le_patienceFor hhi hcost),
      readWritten_ofString, hreads.read_encode hd]
    rfl
  cases j with
  | null =>
    simp only [Holds] at h
    rw [h.1]
    exact exported_at_once rfl
  | bool b =>
    simp only [Holds] at h
    rw [h.1]
    exact exported_at_once rfl
  | str s =>
    simp only [Holds] at h
    rw [h.1]
    refine exported_at_once ?_
    show ({ realm := r, control := .exported (.str (Units.text (Units.ofString s))) } : Machine) = _
    rw [Units.text_ofString]
  | num x =>
    simp only [Holds] at h
    rw [h.1]
    cases x with
    | double x => cases d <;> cases hj
    | int i =>
      have hsmall : i.natAbs < 2 ^ 53 := by cases d <;> exact hj
      refine exported_at_once ?_
      unfold Machine.exportValue
      simp only [Number.toDouble, Double.toInt?_ofInt hsmall]
      rw [if_pos (by omega)]
      rfl
  | arr items =>
    simp only [Holds] at h
    obtain ⟨o, vs, hv, -⟩ := h
    exact hwritten o hv
  | obj fields =>
    simp only [Holds] at h
    obtain ⟨o, props, hv, -⟩ := h
    exact hwritten o hv

end Realm

end ScriptSandbox.Guest
