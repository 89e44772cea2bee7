import CodeAtlas.Http.Multipart

/-!
# The parts of a multipart body

A body as the list of its parts. Reading ends with a part that is at fault, if there is one, and the
file of a body is the first part that has a file name.
-/

namespace CodeAtlas.Http

structure Part where
  headers : List (String × Bytes)
  data : Bytes
  deriving DecidableEq, Repr

abbrev Piece := Except MultipartFault Part

def partsFrom (boundary : Bytes) : Nat → Bytes → List Piece
  | 0, _ => [.error .incomplete]
  | rounds + 1, bytes =>
    if dashes.isPrefixOf bytes then []
    else
      let line := bytes.dropWhile fun b => b == 0x20 || b == 0x09
      if !lineEnd.isPrefixOf line then [.error .incomplete]
      else
        match breakOn (lineEnd ++ lineEnd) (line.drop lineEnd.length) with
        | none => [.error .incomplete]
        | some (block, rest) =>
          match partHeaders? block, breakOn (lineEnd ++ dashes ++ boundary) rest with
          | some headers, some (data, rest) => .ok ⟨headers, data⟩ :: partsFrom boundary rounds rest
          | _, _ => [.error .incomplete]

/-- The parts of a body, or those before a fault and the fault. -/
def parts (boundary : String) (body : Bytes) : List Piece :=
  match breakOn (dashes ++ ascii boundary) body with
  | none => [.error .incomplete]
  | some (_, rest) => partsFrom (ascii boundary) (rest.length + 1) rest

def firstFileOf : List Piece → Except MultipartFault (Option Bytes)
  | [] => .ok none
  | .error fault :: _ => .error fault
  | .ok part :: pieces =>
    if (fileName? part.headers).isSome then .ok (some part.data) else firstFileOf pieces

theorem firstFileFrom_eq (boundary : Bytes) (rounds : Nat) (bytes : Bytes) :
    firstFileFrom boundary rounds bytes = firstFileOf (partsFrom boundary rounds bytes) := by
  induction rounds generalizing bytes with
  | zero => rfl
  | succ rounds ih =>
    rw [firstFileFrom, partsFrom]
    by_cases hlast : dashes.isPrefixOf bytes
    · rw [if_pos hlast, if_pos hlast]
      rfl
    · rw [if_neg hlast, if_neg hlast]
      dsimp only
      generalize (bytes.dropWhile fun b => b == 0x20 || b == 0x09) = line
      by_cases hline : !lineEnd.isPrefixOf line
      · rw [if_pos hline, if_pos hline]
        rfl
      · rw [if_neg hline, if_neg hline]
        cases breakOn (lineEnd ++ lineEnd) (line.drop lineEnd.length) with
        | none => rfl
        | some head =>
          obtain ⟨block, rest⟩ := head
          dsimp only
          cases partHeaders? block with
          | none => rfl
          | some headers =>
            cases breakOn (lineEnd ++ dashes ++ boundary) rest with
            | none => rfl
            | some part =>
              obtain ⟨data, rest⟩ := part
              rw [firstFileOf, ← ih]

theorem firstFile_eq (boundary : String) (body : Bytes) :
    firstFile boundary body = firstFileOf (parts boundary body) := by
  rw [firstFile, parts]
  cases breakOn (dashes ++ ascii boundary) body with
  | none => rfl
  | some split => exact firstFileFrom_eq _ _ _

theorem firstFileOf_eq_ok_some_iff (pieces : List Piece) (data : Bytes) :
    firstFileOf pieces = .ok (some data) ↔ ∃ (before : List Part) (part : Part) (after : List Piece),
      pieces = before.map .ok ++ .ok part :: after ∧ (∀ p ∈ before, fileName? p.headers = none) ∧
        (fileName? part.headers).isSome ∧ part.data = data := by
  induction pieces with
  | nil => simp [firstFileOf]
  | cons piece pieces ih =>
    cases piece with
    | error fault =>
      constructor
      · intro h
        cases h
      · rintro ⟨before, part, after, hsplit, -⟩
        cases before <;> simp at hsplit
    | ok first =>
      rw [firstFileOf]
      by_cases hfile : (fileName? first.headers).isSome
      · rw [if_pos hfile]
        constructor
        · intro h
          cases h
          exact ⟨[], first, pieces, rfl, fun _ hp => absurd hp List.not_mem_nil, hfile, rfl⟩
        · rintro ⟨before, part, after, hsplit, hbefore, -, rfl⟩
          cases before with
          | nil =>
            cases hsplit
            rfl
          | cons p before =>
            cases hsplit
            rw [hbefore first List.mem_cons_self] at hfile
            cases hfile
      · rw [if_neg hfile, ih]
        have hnone : fileName? first.headers = none := Option.not_isSome_iff_eq_none.mp hfile
        constructor
        · rintro ⟨before, part, after, rfl, hbefore, hpart⟩
          exact ⟨first :: before, part, after, rfl, List.forall_mem_cons.mpr ⟨hnone, hbefore⟩, hpart⟩
        · rintro ⟨before, part, after, hsplit, hbefore, hpart, hdata⟩
          cases before with
          | nil =>
            cases hsplit
            exact absurd hpart hfile
          | cons p before =>
            cases hsplit
            exact ⟨before, part, after, rfl, (List.forall_mem_cons.mp hbefore).2, hpart, hdata⟩

end CodeAtlas.Http
