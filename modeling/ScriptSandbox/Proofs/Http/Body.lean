import Mathlib.Data.List.Basic
import ScriptSandbox.Http.Response

/-!
# Bodies in pieces

A body comes in pieces of any sizes, and the connection may end before its time. What the pieces
come to depends only on the bytes before the end (`Response.joined`) and on whether it was
untimely: `gather` looks at one piece after the other and gives what one look at all of them gives
(`gather_eq`).
-/

namespace ScriptSandbox

namespace Response

variable {limit : Nat} {acc bytes : Bytes} {pieces front rest : List BodyPiece}

/-! ## Cutting -/

@[simp] theorem flatten_cut (cuts : List Nat) (body : Bytes) : (cut cuts body).flatten = body := by
  induction cuts generalizing body with
  | nil => simp [cut]
  | cons n cuts ih => rw [cut, List.flatten_cons, ih, List.take_append_drop]

/-- There is no way to cut a body but by the sizes of its pieces: `cut` gives them all. -/
theorem exists_cut {chunks : List Bytes} (h : chunks ≠ []) :
    ∃ cuts, cut cuts chunks.flatten = chunks := by
  induction chunks with
  | nil => exact absurd rfl h
  | cons chunk chunks ih =>
    by_cases hlast : chunks = []
    · exact ⟨[], by simp [cut, hlast]⟩
    · obtain ⟨cuts, hcuts⟩ := ih hlast
      refine ⟨chunk.length :: cuts, ?_⟩
      rw [cut, List.flatten_cons, List.take_left, List.drop_left, hcuts]

/-! ## Joining -/

/-- The bytes that come before the connection ends. -/
def joined : List BodyPiece → Bytes
  | .data bytes :: rest => bytes ++ joined rest
  | _ => []

theorem joined_append (chunks : List Bytes) (rest : List BodyPiece) :
    joined (chunks.map .data ++ rest) = chunks.flatten ++ joined rest := by
  induction chunks with
  | nil => rfl
  | cons chunk chunks ih =>
    rw [List.map_cons, List.cons_append, joined, ih, List.flatten_cons, List.append_assoc]

@[simp] theorem joined_data (chunks : List Bytes) :
    joined (chunks.map .data) = chunks.flatten := by
  simpa [joined] using joined_append chunks []

@[simp] theorem joined_data_broken (chunks : List Bytes) :
    joined (chunks.map .data ++ [.broken]) = chunks.flatten := by
  exact (joined_append ..).trans (List.append_nil _)

/-! ## Gathering -/

theorem gather_append (limit : Nat) (acc : Bytes) (front rest : List BodyPiece) :
    gather limit acc (front ++ rest) =
      match gather limit acc front with
      | .ok acc' => gather limit acc' rest
      | .error e => .error e := by
  induction front generalizing acc with
  | nil => rfl
  | cons piece front ih =>
    rw [List.cons_append]
    cases piece with
    | broken => rfl
    | data bytes =>
      rw [gather, gather]
      split
      · rfl
      · exact ih _

/-- Bytes are kept only as long as they fit. -/
theorem length_le_of_gather (hacc : acc.length ≤ limit) (h : gather limit acc pieces = .ok bytes) :
    bytes.length ≤ limit := by
  induction pieces generalizing acc with
  | nil =>
    obtain rfl : acc = bytes := Except.ok.inj h
    exact hacc
  | cons piece pieces ih =>
    cases piece with
    | broken => exact nomatch h
    | data chunk =>
      rw [gather] at h
      split at h
      · exact nomatch h
      · rename_i hfit
        exact ih (by rw [List.length_append]; exact Nat.le_of_not_lt hfit) h

theorem gather_of_le (hacc : acc.length ≤ limit) :
    gather limit acc pieces =
      if limit < acc.length + (joined pieces).length then .error .tooLong
      else if .broken ∈ pieces then .error .broken
      else .ok (acc ++ joined pieces) := by
  induction pieces generalizing acc with
  | nil => simp [gather, joined, Nat.not_lt.2 hacc]
  | cons piece pieces ih =>
    cases piece with
    | broken => simp [gather, joined, Nat.not_lt.2 hacc]
    | data chunk =>
      rw [gather, joined, List.length_append, ← Nat.add_assoc]
      by_cases hlong : limit < acc.length + chunk.length
      · rw [if_pos hlong, if_pos (Nat.lt_add_right _ hlong)]
      · have hfit : (acc ++ chunk).length ≤ limit := by
          rw [List.length_append]
          exact Nat.le_of_not_lt hlong
        rw [if_neg hlong, ih hfit]
        simp [List.append_assoc]

/-- One look at all the pieces gives the same as a look at each. -/
theorem gather_eq (limit : Nat) (pieces : List BodyPiece) :
    gather limit [] pieces =
      if limit < (joined pieces).length then .error .tooLong
      else if .broken ∈ pieces then .error .broken
      else .ok (joined pieces) := by
  have h : gather limit [] pieces = _ := gather_of_le (Nat.zero_le _)
  simpa using h

/-! ## In one piece -/

/-- The response with its body in one piece. -/
def whole (r : Response) : Response :=
  { r with body := .data (joined r.body) :: if .broken ∈ r.body then [.broken] else [] }

@[simp] theorem joined_whole (r : Response) : joined r.whole.body = joined r.body := by
  unfold whole
  split <;> simp [joined]

@[simp] theorem broken_mem_whole (r : Response) : .broken ∈ r.whole.body ↔ .broken ∈ r.body := by
  unfold whole
  split <;> simp [*]

theorem gather_whole (limit : Nat) (r : Response) :
    gather limit [] r.whole.body = gather limit [] r.body := by
  simp only [gather_eq, joined_whole, broken_mem_whole]

end Response

/-- The reply with its body in one piece. -/
def Reply.whole (r : Reply) : Reply := { r with cuts := [] }

namespace Response

/-- Whether a response of this status to a request of this method may have a body. -/
def mayHaveBody (method : String) (status : Nat) : Bool :=
  !(method == "HEAD" || Status.isBodiless status)

/-- The pieces of the body of a reply. -/
def piecesOf (r : Reply) : List BodyPiece :=
  let pieces := (cut r.cuts (r.body.take r.length)).map .data
  if r.body.length < r.length then pieces ++ [.broken] else pieces

theorem joined_piecesOf (r : Reply) : joined (piecesOf r) = r.body.take r.length := by
  unfold piecesOf
  dsimp only
  split <;> simp

theorem broken_mem_piecesOf (r : Reply) : .broken ∈ piecesOf r ↔ r.body.length < r.length := by
  unfold piecesOf
  dsimp only
  split <;> simp [*]

/-- The body of a reply to a request of this method. -/
def bodyOf (method : String) (status : Nat) (r : Reply) : List BodyPiece :=
  if mayHaveBody method status && r.length != 0 then piecesOf r else []

theorem joined_bodyOf (method : String) (status : Nat) (r : Reply) :
    joined (bodyOf method status r) =
      if mayHaveBody method status then r.body.take r.length else [] := by
  unfold bodyOf
  by_cases hlength : r.length = 0
  · simp [hlength, joined]
  · by_cases hmay : mayHaveBody method status = true
    · simp [hmay, hlength, joined_piecesOf]
    · simp [hmay, joined]

theorem broken_mem_bodyOf (method : String) (status : Nat) (r : Reply) :
    .broken ∈ bodyOf method status r ↔
      mayHaveBody method status = true ∧ r.body.length < r.length := by
  unfold bodyOf
  by_cases hlength : r.length = 0
  · simp [hlength]
  · by_cases hmay : mayHaveBody method status = true
    · simp [hmay, hlength, broken_mem_piecesOf]
    · simp [hmay]

/-- The status and the headers of a reply; none if it is of no use. -/
def headOf? (r : Reply) : Option (Nat × Headers) := do
  let status ← Status.read r.status
  guard (200 ≤ status)
  let headers ← (r.headers ++
    [("Content-Length", toString r.length), ("Connection", "close")]).mapM readHeader
  return (status, headers)

/-- What a client makes of a reply, by its parts. -/
theorem ofReply_eq (method : String) (r : Reply) :
    ofReply method r =
      (headOf? r).map fun head => ⟨head.1, head.2, bodyOf method head.1 r⟩ := by
  have hbody (status : Nat) : bodyOf method status r =
      if method == "HEAD" || Status.isBodiless status || r.length == 0 then [] else piecesOf r := by
    unfold bodyOf mayHaveBody
    cases method == "HEAD" <;> cases Status.isBodiless status <;> cases hlength : r.length == 0 <;>
      simp_all
  simp only [hbody]
  unfold ofReply headOf? piecesOf
  cases Status.read r.status with
  | none => rfl
  | some status =>
    by_cases hstatus : 200 ≤ status
    · simp only [Option.bind_eq_bind, Option.bind_some, guard, hstatus, if_true]
      cases List.mapM readHeader
        (r.headers ++ [("Content-Length", toString r.length), ("Connection", "close")]) <;> rfl
    · simp only [Option.bind_eq_bind, Option.bind_some, guard, hstatus, if_false]
      rfl

/-- The body that is read is what came of the length announced, and it ends before its time if
that was less. -/
theorem body_of_ofReply {method : String} {r : Reply} {response : Response}
    (h : ofReply method r = some response) :
    joined response.body =
        (if mayHaveBody method response.status then r.body.take r.length else []) ∧
      (.broken ∈ response.body ↔
        mayHaveBody method response.status = true ∧ r.body.length < r.length) := by
  rw [ofReply_eq] at h
  obtain ⟨head, -, rfl⟩ := Option.map_eq_some_iff.1 h
  exact ⟨joined_bodyOf .., broken_mem_bodyOf ..⟩

theorem whole_eq {r r' : Response} (hstatus : r.status = r'.status) (hheaders : r.headers = r'.headers)
    (hjoined : joined r.body = joined r'.body)
    (hbroken : .broken ∈ r.body ↔ .broken ∈ r'.body) : r.whole = r'.whole := by
  simp only [whole, hstatus, hheaders, hjoined, hbroken]

/-- What is made of a reply is the same but for the pieces, however the body is cut. -/
theorem ofReply_whole (method : String) (r : Reply) :
    (ofReply method r.whole).map whole = (ofReply method r).map whole := by
  rw [ofReply_eq, ofReply_eq, Option.map_map, Option.map_map]
  refine congrArg (Option.map · (headOf? r)) (funext fun head => ?_)
  exact whole_eq rfl rfl (by rw [joined_bodyOf, joined_bodyOf]; rfl)
    (by rw [broken_mem_bodyOf, broken_mem_bodyOf]; rfl)

end Response

end ScriptSandbox
