import CodeAtlas.CSharp.Token
import CodeAtlas.CSharp.Tree

/-!
# C# outlines

A reader of C# that keeps to the outline of a compilation unit: using directives, namespaces and type
declarations with what is nested in them. Everything else is an opaque node. A member extends to its
first semicolon or brace-delimited block; a conditional region of the preprocessor is an opaque node
of its own. The program runs with this reader in the place of the whole grammar.
-/

namespace CodeAtlas.CSharp

/-- A part of a member at its own level: a token, or all of a bracketed group. -/
inductive Part where
  | word (text : String) (start stop : Nat)
  | symbol (c : Char) (start stop : Nat)
  | literal (start stop : Nat)
  | group (bracket : Char) (members : List SyntaxNode) (start stop : Nat)
  deriving Repr, Inhabited

namespace Part

def start : Part → Nat
  | word _ s _ | symbol _ s _ | literal s _ | group _ _ s _ => s

def stop : Part → Nat
  | word _ _ s | symbol _ _ s | literal _ s | group _ _ _ s => s

def word? : Part → Option String
  | word text _ _ => some text
  | _ => none

def isSymbol (c : Char) : Part → Bool
  | symbol d _ _ => c == d
  | _ => false

def isGroup (bracket : Char) : Part → Bool
  | group b _ _ _ => bracket == b
  | _ => false

def isEnd (p : Part) : Bool := p.isSymbol ';' || p.isGroup '{'

end Part

def slice (text : Array Char) (start stop : Nat) : String :=
  String.ofList (text.extract start stop).toList

def textOf (text : Array Char) : List Part → Option String
  | [] => none
  | first :: rest => some (slice text first.start ((first :: rest).getLast (by simp)).stop)

def modifiers : List String := [
  "abstract", "async", "const", "extern", "file", "fixed", "internal", "new", "override", "partial",
  "private", "protected", "public", "readonly", "ref", "required", "sealed", "static", "unsafe",
  "virtual", "volatile"]

def isModifier (p : Part) : Bool :=
  match p.word? with
  | some text => modifiers.contains text
  | none => false

def adjacentWords : List Part → Bool
  | p :: q :: rest => (p.word?.isSome && q.word?.isSome) || adjacentWords (q :: rest)
  | _ => false

/-- Whether what follows `using` names a namespace, a type or an alias. Otherwise it declares or
holds a resource. -/
def namesImport (parts : List Part) : Bool :=
  match parts with
  | .word "static" _ _ :: _ | .word "unsafe" _ _ :: _ => true
  | .word _ _ _ :: .symbol '=' _ _ :: _ => true
  | .word _ _ _ :: _ =>
    !(parts.any (·.isSymbol '=')) && !(parts.any (·.isGroup '(')) && !(adjacentWords parts)
  | _ => false

def typeKeywords : List String := ["class", "interface", "struct", "enum"]

def followsRecordName (p : Part) : Bool :=
  p.isEnd || p.isGroup '(' || p.isSymbol '<' || p.isSymbol ':' || p.word? == some "where"

def declared? : List Part → Option (String × Part)
  | .word "record" _ _ :: .word "class" _ _ :: .word name s e :: _ =>
    some ("record_declaration", .word name s e)
  | .word "record" _ _ :: .word "struct" _ _ :: .word name s e :: _ =>
    some ("record_struct_declaration", .word name s e)
  | .word "record" _ _ :: .word name s e :: next :: _ =>
    if followsRecordName next then some ("record_declaration", .word name s e) else none
  | .word keyword _ _ :: .word name s e :: _ =>
    if keyword ∈ typeKeywords then some (keyword ++ "_declaration", .word name s e) else none
  | _ => none

def opaqueNode (children : List SyntaxNode) : SyntaxNode :=
  { kind := "opaque", isNamed := true, field := none, text := none, children }

def nameNode (text : Array Char) (name : List Part) : SyntaxNode :=
  { kind := "identifier", isNamed := true, field := some "name", text := textOf text name
    children := [] }

def bodyNodes (parts : List Part) : List SyntaxNode :=
  match parts.getLast? with
  | some (.group '{' members _ _) =>
    [{ kind := "declaration_list", isNamed := true, field := some "body", text := none
       children := members }]
  | _ => []

/-- The node of a complete member. Attributes and conditional regions before it are passed over. -/
def classify (text : Array Char) (member : List Part) : SyntaxNode :=
  let parts := member.dropWhile fun p => p.isGroup '[' || p.isGroup '#'
  let node (kind : String) (children : List SyntaxNode) : SyntaxNode :=
    { kind, isNamed := true, field := none, text := textOf text parts, children }
  let importing (rest : List Part) : SyntaxNode :=
    if namesImport rest then node "using_directive" [] else opaqueNode []
  match parts with
  | .word "using" _ _ :: rest => importing rest
  | .word "global" _ _ :: .word "using" _ _ :: rest => importing rest
  | .word "namespace" _ _ :: rest =>
    let name := nameNode text (rest.takeWhile fun p => !p.isEnd)
    if rest.any (·.isGroup '{') then node "namespace_declaration" (name :: bodyNodes rest)
    else node "file_scoped_namespace_declaration" [name]
  | _ =>
    match declared? (parts.dropWhile isModifier) with
    | some (kind, name) => node kind (nameNode text [name] :: bodyNodes parts)
    | none => opaqueNode (bodyNodes parts)

/-- A bracket still open: the parts of the member being read and the members before it, each last
first. -/
structure Frame where
  bracket : Char
  start : Nat
  parts : List Part
  members : List SyntaxNode
  deriving Repr, Inhabited

namespace Frame

def opened (bracket : Char) (start : Nat) : Frame :=
  { bracket, start, parts := [], members := [] }

def flush (text : Array Char) (f : Frame) : Frame :=
  match f.parts with
  | [] => f
  | parts => { f with parts := [], members := classify text parts.reverse :: f.members }

def add (text : Array Char) (f : Frame) (p : Part) : Frame :=
  if p.isGroup '#' ∧ f.parts.isEmpty then { f with members := opaqueNode [] :: f.members }
  else
    let f := { f with parts := p :: f.parts }
    if p.isEnd then f.flush text else f

def close (text : Array Char) (f : Frame) (stop : Nat) : Part :=
  .group f.bracket (f.flush text).members.reverse f.start stop

end Frame

structure Outline where
  top : Frame
  outer : List Frame
  deriving Repr

namespace Outline

def initial : Outline := { top := .opened ' ' 0, outer := [] }

def add (text : Array Char) (o : Outline) (p : Part) : Outline :=
  { o with top := o.top.add text p }

def push (o : Outline) (bracket : Char) (start : Nat) : Outline :=
  { top := .opened bracket start, outer := o.top :: o.outer }

/-- Closes the innermost bracket. One that does not match is passed over. -/
def pop (text : Array Char) (o : Outline) (bracket : Char) (stop : Nat) : Outline :=
  match o.outer with
  | [] => o
  | frame :: outer =>
    if o.top.bracket = bracket then
      { top := frame.add text (o.top.close text stop), outer }
    else o

def step (text : Array Char) (o : Outline) (t : Token) : Outline :=
  match t.kind with
  | .word => o.add text (.word (slice text t.start t.stop) t.start t.stop)
  | .literal => o.add text (.literal t.start t.stop)
  | .regionStart => o.push '#' t.start
  | .regionEnd => o.pop text '#' t.stop
  | .symbol '{' => o.push '{' t.start
  | .symbol '(' => o.push '(' t.start
  | .symbol '[' => o.push '[' t.start
  | .symbol '}' => o.pop text '{' t.stop
  | .symbol ')' => o.pop text '(' t.stop
  | .symbol ']' => o.pop text '[' t.stop
  | .symbol c => o.add text (.symbol c t.start t.stop)

/-- Closes all brackets that are still open at the end of the text. -/
def finish (text : Array Char) (stop : Nat) (o : Outline) : Frame :=
  o.outer.foldl (fun top frame => frame.add text (top.close text stop)) o.top

/-- Reads a compilation unit. No source is given up. -/
def readUnit (source : String) : SyntaxNode :=
  let chars := source.toList
  let text := chars.toArray
  let outline := (tokens chars).foldl (Outline.step text) .initial
  let unit := (outline.finish text text.size).flush text
  { kind := "compilation_unit", isNamed := true, field := none, text := some source
    children := unit.members.reverse }

def grammar : Grammar := { languageFault := none, tree? := fun source => some (readUnit source) }

end Outline

end CodeAtlas.CSharp
