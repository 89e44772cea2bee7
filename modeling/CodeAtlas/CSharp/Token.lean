import CodeAtlas.Text.Blank

/-!
# C# tokens

A source text is read one character at a time into words, symbols and literals, each with its place
in the text. Comments, preprocessor lines and the inside of literals give no tokens, except that the
lines which open and close a conditional region are marked. The expressions inside an interpolated
string are read as code, so that quotes and braces in them pair up.
-/

namespace CodeAtlas.CSharp

inductive TokenKind where
  | word
  | symbol (c : Char)
  | literal
  | regionStart
  | regionEnd
  deriving DecidableEq, Repr

/-- A token covers the characters from `start` up to, and without, `stop`. -/
structure Token where
  kind : TokenKind
  start : Nat
  stop : Nat
  deriving DecidableEq, Repr

/-- The form of a string literal. `dollars` is the number of dollar signs before it: an expression
in it is opened by as many braces, and by none where there are no dollar signs. -/
inductive StringForm where
  | regular (dollars : Nat)
  | verbatim (dollars : Nat)
  | raw (dollars quotes : Nat)
  deriving DecidableEq, Repr

def StringForm.dollars : StringForm → Nat
  | regular d | verbatim d | raw d _ => d

def StringForm.braces : StringForm → Nat
  | regular d | verbatim d => min d 1
  | raw d _ => d

inductive Line where
  | code
  | message
  | condition
  deriving DecidableEq, Repr

inductive Mode where
  | code
  | word (start : Nat)
  | slash
  | lineComment
  | blockComment (star : Bool) (line : Line)
  | marks (start dollars : Nat) (isVerbatim : Bool)
  | opening (start dollars quotes : Nat)
  /-- Inside a string: whether the last character escapes the next one, and the length of the run of
  quotes or of braces that ends here. -/
  | string (start : Nat) (form : StringForm) (escaped : Bool) (quotes braces : Nat)
  | character (start : Nat) (escaped : Bool)
  | colon
  | format
  | directive (name : List Char)
  /-- The free text of a preprocessor line. A backslash or a slash directly before the end of the
  line joins the next line to it. -/
  | message (started : Bool) (held : Option Char)
  | condition (slash quoted : Bool)
  deriving DecidableEq, Repr

structure Hole where
  start : Nat
  form : StringForm
  depth : Nat
  deriving DecidableEq, Repr

structure Lexer where
  mode : Mode
  holes : List Hole
  position : Nat
  tokens : List Token
  deriving Repr

namespace Lexer

def initial : Lexer := { mode := .code, holes := [], position := 0, tokens := [] }

def isSpace (c : Char) : Bool := Text.isBlank c || c == '\ufeff'

def isWordChar (c : Char) : Bool :=
  c.isAlphanum || c == '_' || c == '\\' || (0x80 ≤ c.toNat && !isSpace c)

def isLineEnd (c : Char) : Bool := c == '\n' || c == '\r'

private def emit (l : Lexer) (kind : TokenKind) (start stop : Nat) : Lexer :=
  { l with tokens := ⟨kind, start, stop⟩ :: l.tokens }

private def enter (l : Lexer) (mode : Mode) : Lexer := { l with mode }

private def emitSymbol (l : Lexer) (c : Char) : Lexer :=
  (l.emit (.symbol c) l.position (l.position + 1)).enter .code

/-- A symbol inside an expression of an interpolated string: brackets are counted, a closing brace
at depth zero returns to the string and a colon there begins the format. -/
private def symbolInHole (l : Lexer) (hole : Hole) (outer : List Hole) (c : Char) : Lexer :=
  if c = '}' ∧ hole.depth = 0 then
    { l with mode := .string hole.start hole.form false 0 0, holes := outer }
  else if c = ':' ∧ hole.depth = 0 then l.enter .colon
  else if c = '{' ∨ c = '(' ∨ c = '[' then
    { l with holes := { hole with depth := hole.depth + 1 } :: outer }
  else if c = '}' ∨ c = ')' ∨ c = ']' then
    { l with holes := { hole with depth := hole.depth - 1 } :: outer }
  else l

private def stepCode (l : Lexer) (c : Char) : Lexer :=
  let l := l.enter .code
  if isSpace c then l
  else if isWordChar c then l.enter (.word l.position)
  else if c = '/' then l.enter .slash
  else if c = '"' then l.enter (.opening l.position 0 1)
  else if c = '\'' then l.enter (.character l.position false)
  else if c = '$' then l.enter (.marks l.position 1 false)
  else if c = '@' then l.enter (.marks l.position 0 true)
  else if c = '#' then l.enter (.directive [])
  else match l.holes with
    | [] => l.emitSymbol c
    | hole :: outer => l.symbolInHole hole outer c

/-- Words and literals inside an interpolated string are part of that string. -/
private def emitOutside (l : Lexer) (kind : TokenKind) (start stop : Nat) : Lexer :=
  if l.holes.isEmpty then l.emit kind start stop else l

private def closeLiteral (l : Lexer) (start stop : Nat) : Lexer :=
  (l.emitOutside .literal start stop).enter .code

private def stepString (l : Lexer) (start : Nat) (form : StringForm) (escaped : Bool)
    (quotes braces : Nat) (c : Char) : Lexer :=
  let stay (escaped : Bool) (quotes braces : Nat) : Lexer :=
    l.enter (.string start form escaped quotes braces)
  let openHole (_ : Unit) : Lexer :=
    stepCode { l with holes := ⟨start, form, 0⟩ :: l.holes } c
  let closesHere := 0 < braces ∧ form.braces ≤ braces
  match form with
  | .regular _ =>
    if escaped then stay false 0 0
    else if c = '{' ∧ 0 < form.dollars then stay false 0 (if braces = 1 then 0 else 1)
    else if closesHere then openHole ()
    else if c = '\\' then stay true 0 0
    else if c = '"' ∨ isLineEnd c then l.closeLiteral start (l.position + 1)
    else stay false 0 0
  | .verbatim _ =>
    if quotes = 1 then
      if c = '"' then stay false 0 0 else (l.closeLiteral start l.position).stepCode c
    else if c = '{' ∧ 0 < form.dollars then stay false 0 (if braces = 1 then 0 else 1)
    else if closesHere then openHole ()
    else if c = '"' then stay false 1 0
    else stay false 0 0
  | .raw dollars needed =>
    if c = '{' ∧ 0 < dollars then stay false 0 (braces + 1)
    else if closesHere then openHole ()
    else if c = '"' then
      if quotes + 1 = needed then l.closeLiteral start (l.position + 1)
      else stay false (quotes + 1) 0
    else stay false 0 0

private def enterDirective (l : Lexer) (name : List Char) (c : Char) : Lexer :=
  match String.ofList name.reverse with
  | "if" => stepCondition (l.emit .regionStart l.position l.position) false false c
  | "endif" => (l.emit .regionEnd l.position l.position).stepCode c
  | "else" => l.stepCode c
  | "region" | "endregion" | "error" | "warning" | "define" | "undef" =>
    stepMessage l false none c
  | _ => stepCondition l false false c
where
  stepCondition (l : Lexer) (slash quoted : Bool) (c : Char) : Lexer :=
    if isLineEnd c then l.enter .code
    else if quoted then l.enter (.condition false (c != '"'))
    else if slash ∧ c = '/' then l.enter .lineComment
    else if slash ∧ c = '*' then l.enter (.blockComment false .condition)
    else l.enter (.condition (c == '/') (c == '"'))
  stepMessage (l : Lexer) (started : Bool) (held : Option Char) (c : Char) : Lexer :=
    match started, held with
    | false, some _ =>
      if c = '/' then l.enter .lineComment
      else if c = '*' then l.enter (.blockComment false .message)
      else l.enter (.message true none)
    | false, none =>
      if isLineEnd c then l.enter .code
      else if c = '/' then l.enter (.message false (some c))
      else if isSpace c then l.enter (.message false none)
      else l.enter (.message true (if c = '\\' then some c else none))
    | true, some '/' =>
      if c = '*' then l.enter (.blockComment false .message)
      else l.enter (.message true none)
    | true, some '\\' =>
      if c = '\r' then l.enter (.message true (some c))
      else if c = '\n' then l.enter (.message true none)
      else l.enter (.message true (if c = '/' ∨ c = '\\' then some c else none))
    | true, some _ => if c = '\n' then l.enter (.message true none) else l.stepCode c
    | true, none =>
      if isLineEnd c then l.enter .code
      else l.enter (.message true (if c = '/' ∨ c = '\\' then some c else none))

private def stepMode (l : Lexer) (c : Char) : Lexer :=
  match l.mode with
  | .code => l.stepCode c
  | .word start =>
    if isWordChar c then l else (l.emitOutside .word start l.position).stepCode c
  | .slash =>
    if c = '/' then l.enter .lineComment
    else if c = '*' then l.enter (.blockComment false .code)
    else (l.emitOutside (.symbol '/') (l.position - 1) l.position).stepCode c
  | .lineComment => if isLineEnd c then l.enter .code else l
  | .blockComment star line =>
    if star ∧ c = '/' then
      match line with
      | .code => l.enter .code
      | .message => l.enter (.message false none)
      | .condition => l.enter (.condition false false)
    else l.enter (.blockComment (c == '*') line)
  | .marks start dollars isVerbatim =>
    if c = '$' then l.enter (.marks start (dollars + 1) isVerbatim)
    else if c = '@' then l.enter (.marks start dollars true)
    else if c = '"' then
      if isVerbatim then l.enter (.string start (.verbatim dollars) false 0 0)
      else l.enter (.opening start dollars 1)
    else if isWordChar c ∧ isVerbatim then l.enter (.word start)
    else l.stepCode c
  | .opening start dollars quotes =>
    if c = '"' then l.enter (.opening start dollars (quotes + 1))
    else if quotes = 1 then l.stepString start (.regular dollars) false 0 0 c
    else if quotes = 2 then (l.closeLiteral start l.position).stepCode c
    else l.stepString start (.raw dollars quotes) false 0 0 c
  | .string start form escaped quotes braces => l.stepString start form escaped quotes braces c
  | .character start escaped =>
    if escaped then l.enter (.character start false)
    else if c = '\\' then l.enter (.character start true)
    else if c = '\'' ∨ isLineEnd c then l.closeLiteral start (l.position + 1)
    else l
  | .colon => if c = ':' then l.enter .code else stepFormat l c
  | .format => stepFormat l c
  | .directive name =>
    if c.isAlpha then l.enter (.directive (c :: name))
    else if name.isEmpty ∧ (c = ' ' ∨ c = '\t') then l
    else if name.isEmpty ∧ c = '!' then l.enter .lineComment
    else l.enterDirective name c
  | .message started held => enterDirective.stepMessage l started held c
  | .condition slash quoted => enterDirective.stepCondition l slash quoted c
where
  stepFormat (l : Lexer) (c : Char) : Lexer :=
    match l.holes with
    | hole :: outer =>
      if c = '}' then
        { l with mode := .string hole.start hole.form false 0 0, holes := outer }
      else l.enter .format
    | [] => l.stepCode c

def step (l : Lexer) (c : Char) : Lexer :=
  let l := l.stepMode c
  { l with position := l.position + 1 }

/-- The end of the text ends a word, and a directive that consists of its name. -/
def finish (l : Lexer) : Lexer := l.stepMode '\n'

end Lexer

def tokens (text : List Char) : List Token :=
  (text.foldl Lexer.step Lexer.initial).finish.tokens.reverse

end CodeAtlas.CSharp
