import CodeAtlas.Markup.Fault

/-!
# Events of a marked-up document

A document is read one character at a time into events: tags, text between tags with its surrounding
white space removed, and asides (comments, CDATA sections, instructions, document types), which
divide text but say nothing. Reading stops at the first fault. The events read are well nested: an
end tag names the innermost element still open.
-/

namespace CodeAtlas.Markup

def isSpace (c : Char) : Bool := c == ' ' || c == '\t' || c == '\r' || c == '\n'

/-- A tag's whole content between its angle brackets, without the slash of an empty element. -/
structure Tag where
  content : List Char
  deriving DecidableEq, Repr

def Tag.name (tag : Tag) : List Char := tag.content.takeWhile fun c => !isSpace c

def localPart (name : List Char) : List Char :=
  match name.dropWhile (· != ':') with
  | [] => name
  | _ :: rest => rest

def Tag.localName (tag : Tag) : List Char := localPart tag.name

inductive Event where
  | openTag (tag : Tag)
  | emptyTag (tag : Tag)
  | closeTag (name : List Char)
  | text (raw : List Char)
  | aside
  deriving DecidableEq, Repr

inductive ReadState where
  | content (text : List Char)
  | opened
  | tag (quote : Option Char) (content : List Char)
  | closing (quote : Option Char) (content : List Char)
  | bang
  | comment (content : List Char)
  | cdata (content : List Char)
  | doctype (depth : Nat) (content : List Char)
  | instruction (content : List Char)
  deriving DecidableEq, Repr

def trimSpaces (cs : List Char) : List Char :=
  ((cs.dropWhile isSpace).reverse.dropWhile isSpace).reverse

def textEvents (reversed : List Char) : List Event :=
  match trimSpaces reversed.reverse with
  | [] => []
  | raw => [.text raw]

def tagEvent : List Char → Event
  | '/' :: content => .emptyTag ⟨content.reverse⟩
  | content => .openTag ⟨content.reverse⟩

/-- Trailing white space is no part of an end tag's name, unless there is nothing else. -/
def closedName (reversed : List Char) : List Char :=
  match reversed.dropWhile isSpace with
  | [] => reversed.reverse
  | name => name.reverse

def startsIgnoringCase (word : String) (cs : List Char) : Bool :=
  (word.toList.map Char.toLower).isPrefixOf (cs.map Char.toLower)

def quoteAfter (quote : Option Char) (c : Char) : Option Char :=
  match quote with
  | some q => if c = q then none else some q
  | none => if c = '"' ∨ c = '\'' then some c else none

def ReadState.step (state : ReadState) (c : Char) : Except ReadFault (ReadState × List Event) :=
  match state with
  | .content text =>
    if c = '<' then .ok (.opened, textEvents text) else .ok (.content (c :: text), [])
  | .opened =>
    if c = '!' then .ok (.bang, [])
    else if c = '/' then .ok (.closing none [], [])
    else if c = '?' then .ok (.instruction [c], [])
    else if c = '>' then .ok (.content [], [tagEvent []])
    else .ok (.tag (quoteAfter none c) [c], [])
  | .tag quote seen =>
    if c = '>' ∧ quote = none then .ok (.content [], [tagEvent seen])
    else .ok (.tag (quoteAfter quote c) (c :: seen), [])
  | .closing quote seen =>
    if c = '>' ∧ quote = none then .ok (.content [], [.closeTag (closedName seen)])
    else .ok (.closing (quoteAfter quote c) (c :: seen), [])
  | .bang =>
    if c = '-' then .ok (.comment [c], [])
    else if c = '[' then .ok (.cdata [c], [])
    else if c = 'D' ∨ c = 'd' then .ok (.doctype 0 [c], [])
    else .error .unknownMarkup
  | .comment seen =>
    if c = '>' ∧ "--".toList.isPrefixOf seen ∧ 4 ≤ seen.length then
      if "--".toList.isPrefixOf seen.reverse then .ok (.content [], [.aside])
      else .error (.unclosed .comment)
    else .ok (.comment (c :: seen), [])
  | .cdata seen =>
    if c = '>' ∧ "]]".toList.isPrefixOf seen then
      if "[CDATA[".toList.isPrefixOf seen.reverse then .ok (.content [], [.aside])
      else .error (.unclosed .cdata)
    else .ok (.cdata (c :: seen), [])
  | .doctype depth seen =>
    if c = '>' ∧ depth = 0 then
      let declared := seen.reverse
      if !startsIgnoringCase "DOCTYPE" declared then .error (.unclosed .doctype)
      else if (declared.drop 7).all isSpace then .error .namelessDoctype
      else .ok (.content [], [.aside])
    else
      let depth := if c = '<' then depth + 1 else if c = '>' then depth - 1 else depth
      .ok (.doctype depth (c :: seen), [])
  | .instruction seen =>
    if c = '>' ∧ seen.head? = some '?' then
      if 1 < seen.length then .ok (.content [], [.aside])
      else .error (.unclosed .instruction)
    else .ok (.instruction (c :: seen), [])

def ReadState.finish : ReadState → Except ReadFault (List Event)
  | .content text => .ok (textEvents text)
  | .opened | .tag .. | .closing .. => .error (.unclosed .tag)
  | .bang => .error .unknownMarkup
  | .comment _ => .error (.unclosed .comment)
  | .cdata _ => .error (.unclosed .cdata)
  | .doctype .. => .error (.unclosed .doctype)
  | .instruction _ => .error (.unclosed .instruction)

/-- The events read before the first fault, and that fault with its position. -/
structure Reading where
  events : List Event
  fault : Option (Nat × ReadFault)
  deriving Repr

/-- An unknown construct is reported at its exclamation mark, every other fault where reading
stopped. -/
def faultPosition (before after : Nat) : ReadFault → Nat
  | .unknownMarkup => before - 1
  | _ => after

def scanFrom (state : ReadState) (position : Nat) :
    List Char → List (Event × Nat) × Option (Nat × ReadFault)
  | [] =>
    match state.finish with
    | .ok events => (events.map (·, position), none)
    | .error fault => ([], some (faultPosition position position fault, fault))
  | c :: rest =>
    let next := position + c.utf8Size
    match state.step c with
    | .error fault => ([], some (faultPosition position next fault, fault))
    | .ok (state', events) =>
      let (later, fault) := scanFrom state' next rest
      (events.map (·, next) ++ later, fault)

/-- Keeps the events up to the first end tag that does not name the innermost open element. -/
def nestFrom (fault : Option (Nat × ReadFault)) (opened : List (List Char)) :
    List (Event × Nat) → Reading
  | [] => ⟨[], fault⟩
  | (event, position) :: rest =>
    let continueWith (opened : List (List Char)) : Reading :=
      let later := nestFrom fault opened rest
      ⟨event :: later.events, later.fault⟩
    match event with
    | .openTag tag => continueWith (tag.name :: opened)
    | .closeTag name =>
      match opened with
      | [] => ⟨[], some (position, .unmatchedEnd (String.ofList name))⟩
      | expected :: outer =>
        if name = expected then continueWith outer
        else
          ⟨[], some (position, .mismatchedEnd (String.ofList expected) (String.ofList name))⟩
    | _ => continueWith opened

def withoutMark : List Char → List Char
  | '\ufeff' :: rest => rest
  | cs => cs

def read (document : String) : Reading :=
  let (events, fault) := scanFrom (.content []) 0 (withoutMark document.toList)
  nestFrom fault [] events

end CodeAtlas.Markup
