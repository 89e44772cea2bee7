import CodeAtlas.Server.Parameters

/-!
# What query parameters hold

A parameter that is known is there once or not at all, whatever else there is.
-/

namespace CodeAtlas.Server

/-- What the fields of one name hold. -/
def valuesOf (name : String) (fields : List (String × String)) : List String :=
  (fields.filter fun field => field.1 = name).map (·.2)

theorem valuesOf_cons_self (name value : String) (fields : List (String × String)) :
    valuesOf name ((name, value) :: fields) = value :: valuesOf name fields := by
  simp [valuesOf]

theorem valuesOf_cons_of_ne {name : String} {field : String × String} (h : field.1 ≠ name)
    (fields : List (String × String)) : valuesOf name (field :: fields) = valuesOf name fields := by
  simp [valuesOf, h]

section ProjectName

theorem addProjectName_of_ne (name : Option String) {field : String × String}
    (h : field.1 ≠ "projectName") : addProjectName name field = .ok name := by
  unfold addProjectName
  split
  · exact absurd rfl h
  · rfl

theorem foldlM_addProjectName_eq_ok_iff (fields : List (String × String))
    (before after : Option String) : fields.foldlM addProjectName before = .ok after ↔
      before.toList ++ valuesOf "projectName" fields = after.toList := by
  induction fields generalizing before with
  | nil =>
    change (Except.ok before : Except QueryFault (Option String)) = .ok after ↔ _
    cases before <;> cases after <;> simp [valuesOf]
  | cons field fields ih =>
    rw [List.foldlM_cons]
    by_cases hname : field.1 = "projectName"
    · obtain ⟨name, value⟩ := field
      obtain rfl : name = "projectName" := hname
      rw [valuesOf_cons_self]
      cases before with
      | none => exact ih (some value)
      | some first =>
        change (Except.error _ : Except QueryFault (Option String)) = .ok after ↔ _
        cases after <;> simp
    · rw [addProjectName_of_ne before hname, valuesOf_cons_of_ne hname]
      exact ih before

theorem readProjectName_eq_ok_iff (query : List Char) (name : Option String) :
    readProjectName query = .ok name ↔
      valuesOf "projectName" (Http.parseForm query) = name.toList :=
  foldlM_addProjectName_eq_ok_iff _ none name

end ProjectName

namespace SearchParameters

def numbers (texts : List String) : List (Except Text.NumberFault Nat) :=
  texts.map fun text => Text.readUnsigned 10 0xffffffffffffffff text.toList

theorem numbers_cons (text : String) (texts : List String) :
    numbers (text :: texts) =
      Text.readUnsigned 10 0xffffffffffffffff text.toList :: numbers texts := rfl

/-- What a search is for and how much it may find, each of them there once or not at all. -/
structure Of (p : SearchParameters) (query : List Char) : Prop where
  query_eq : valuesOf "q" (Http.parseForm query) = p.query.toList
  limit_eq : numbers (valuesOf "limit" (Http.parseForm query)) = p.limit.toList.map .ok

theorem add_of_ne {p : SearchParameters} {field : String × String} (hq : field.1 ≠ "q")
    (hlimit : field.1 ≠ "limit") : p.add field = .ok p := by
  unfold add
  split
  · exact absurd rfl hq
  · exact absurd rfl hlimit
  · rfl

theorem add_limit (query : Option String) (value : String) :
    add ⟨query, none⟩ ("limit", value) =
      match Text.readUnsigned 10 0xffffffffffffffff value.toList with
      | .ok n => .ok ⟨query, some n⟩
      | .error why => .error (.badNumber "limit" why) := rfl

theorem foldlM_add_eq_ok_iff (fields : List (String × String)) (p p' : SearchParameters) :
    fields.foldlM add p = .ok p' ↔
      p.query.toList ++ valuesOf "q" fields = p'.query.toList ∧
        p.limit.toList.map .ok ++ numbers (valuesOf "limit" fields) =
          p'.limit.toList.map .ok := by
  induction fields generalizing p with
  | nil =>
    change (Except.ok p : Except QueryFault SearchParameters) = .ok p' ↔ _
    obtain ⟨query, limit⟩ := p
    obtain ⟨query', limit'⟩ := p'
    cases query <;> cases query' <;> cases limit <;> cases limit' <;> simp [valuesOf, numbers]
  | cons field fields ih =>
    rw [List.foldlM_cons]
    obtain ⟨name, value⟩ := field
    obtain ⟨query, limit⟩ := p
    by_cases hq : name = "q"
    · subst hq
      have hlimit : valuesOf "limit" (("q", value) :: fields) = valuesOf "limit" fields :=
        valuesOf_cons_of_ne (show "q" ≠ "limit" by decide) fields
      rw [valuesOf_cons_self, hlimit]
      cases query with
      | none => exact ih ⟨some value, limit⟩
      | some first =>
        change (Except.error _ : Except QueryFault SearchParameters) = .ok p' ↔ _
        cases p'.query <;> simp
    · by_cases hlimit : name = "limit"
      · subst hlimit
        rw [valuesOf_cons_self, valuesOf_cons_of_ne hq, numbers_cons]
        cases limit with
        | none =>
          rw [add_limit]
          cases Text.readUnsigned 10 0xffffffffffffffff value.toList with
          | error why =>
            change (Except.error _ : Except QueryFault SearchParameters) = .ok p' ↔ _
            cases p'.limit <;> simp
          | ok n => exact ih ⟨query, some n⟩
        | some first =>
          change (Except.error _ : Except QueryFault SearchParameters) = .ok p' ↔ _
          cases p'.limit <;> simp
      · rw [add_of_ne hq hlimit, valuesOf_cons_of_ne hq, valuesOf_cons_of_ne hlimit]
        exact ih ⟨query, limit⟩

theorem read_eq_ok_iff (query : List Char) (p : SearchParameters) :
    read query = .ok p ↔ p.Of query := by
  rw [read, foldlM_add_eq_ok_iff]
  constructor
  · intro h
    exact ⟨h.1, h.2⟩
  · intro h
    exact ⟨h.query_eq, h.limit_eq⟩

end SearchParameters

end CodeAtlas.Server
