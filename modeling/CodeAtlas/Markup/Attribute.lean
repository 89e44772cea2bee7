import CodeAtlas.Markup.Event

/-!
# Attributes

Looking up one attribute of a tag. Attributes are read from the left up to the one that is wanted, so
a fault behind it is never met.
-/

namespace CodeAtlas.Markup

/-- Where in an attribute the lookup stands; characters are held nearest first. -/
inductive AttributeState where
  | gap
  | key (name : List Char)
  | afterKey (name : List Char)
  | afterEquals (name : List Char)
  | value (name : List Char) (quote : Char) (raw : List Char)
  deriving DecidableEq, Repr

def lookupFrom (wanted : List Char) (state : AttributeState) (position : Nat) :
    List Char → Except AttributeFault (Option (List Char))
  | [] =>
    match state with
    | .gap => .ok none
    | .key _ | .afterKey _ => .error (.keyAlone position)
    | .afterEquals _ => .error (.valueMissing position)
    | .value _ quote _ => .error (.quoteMissing position quote)
  | c :: rest =>
    let next := position + c.utf8Size
    match state with
    | .gap =>
      if isSpace c then lookupFrom wanted .gap next rest
      else lookupFrom wanted (.key [c]) next rest
    | .key name =>
      if c = '=' then lookupFrom wanted (.afterEquals name) next rest
      else if isSpace c then lookupFrom wanted (.afterKey name) next rest
      else lookupFrom wanted (.key (c :: name)) next rest
    | .afterKey name =>
      if c = '=' then lookupFrom wanted (.afterEquals name) next rest
      else if isSpace c then lookupFrom wanted (.afterKey name) next rest
      else .error (.keyAlone position)
    | .afterEquals name =>
      if isSpace c then lookupFrom wanted (.afterEquals name) next rest
      else if c = '"' ∨ c = '\'' then lookupFrom wanted (.value name c []) next rest
      else .error (.valueUnquoted position)
    | .value name quote raw =>
      if c = quote then
        if name.reverse = wanted then .ok (some raw.reverse)
        else lookupFrom wanted .gap next rest
      else lookupFrom wanted (.value name quote (c :: raw)) next rest

def Tag.attribute? (tag : Tag) (wanted : String) : Except AttributeFault (Option (List Char)) :=
  lookupFrom wanted.toList .gap (String.ofList tag.name).utf8ByteSize
    (tag.content.dropWhile fun c => !isSpace c)

end CodeAtlas.Markup
