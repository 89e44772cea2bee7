import CodeAtlas.Text.Blank

/-!
# Targets of using directives

The namespace or type that a using directive refers to, read off its text: keywords, an alias and all
white space are removed.
-/

namespace CodeAtlas.CSharp

open Text

def usingKeywords : List (List Char) :=
  ["global".toList, "using".toList, "static".toList, "unsafe".toList]

/-- What follows a keyword at the start of the text. The keyword must end there. -/
def stripKeyword? (text keyword : List Char) : Option (List Char) :=
  if keyword.isPrefixOf text then
    match text.drop keyword.length with
    | [] => some []
    | c :: rest => if isBlank c then some (trimStart rest) else none
  else none

def stripAnyKeyword? (text : List Char) : Option (List Char) :=
  usingKeywords.findSome? (stripKeyword? text)

theorem length_trimStart_le (cs : List Char) : (trimStart cs).length ≤ cs.length :=
  (List.dropWhile_suffix isBlank).length_le

theorem stripKeyword?_length_lt {text keyword rest : List Char} (hk : keyword ≠ [])
    (h : stripKeyword? text keyword = some rest) : rest.length < text.length := by
  unfold stripKeyword? at h
  split at h
  · next hp =>
    have hle := (List.isPrefixOf_iff_prefix.1 hp).length_le
    have hpos := List.length_pos_iff.2 hk
    split at h
    · simp only [Option.some.injEq] at h
      subst h
      simp only [List.length_nil]
      omega
    · next c tail hdrop =>
      have hlen := congrArg List.length hdrop
      simp only [List.length_drop, List.length_cons] at hlen
      split at h
      · simp only [Option.some.injEq] at h
        subst h
        have := length_trimStart_le tail
        omega
      · simp at h
  · simp at h

theorem stripAnyKeyword?_length_lt {text rest : List Char}
    (h : stripAnyKeyword? text = some rest) : rest.length < text.length := by
  obtain ⟨keyword, hmem, hk⟩ := List.exists_of_findSome?_eq_some h
  refine stripKeyword?_length_lt ?_ hk
  intro hnil
  subst hnil
  simp [usingKeywords] at hmem

def stripKeywords (text : List Char) : List Char :=
  match _h : stripAnyKeyword? text with
  | some rest => stripKeywords rest
  | none => text
termination_by text.length
decreasing_by exact stripAnyKeyword?_length_lt _h

def stripAlias (text : List Char) : List Char :=
  match text.dropWhile (· != '=') with
  | [] => text
  | _ :: rest => rest

def usingTarget (directive : List Char) : List Char :=
  let text := trim (dropEndWhile (· == ';') (trim directive))
  squeeze (stripAlias (stripKeywords text))

def usingTarget? (directive : String) : Option String :=
  match usingTarget directive.toList with
  | [] => none
  | target => some (String.ofList target)

end CodeAtlas.CSharp
