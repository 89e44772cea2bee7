import CodeAtlas.Text.Utf8

/-!
# Glob patterns

Patterns over the bytes of a path: `?` and `*` stay inside a component, `**` as a whole component spans
any number of them, brackets hold classes and braces alternatives, and a backslash takes the next
character as it is.
-/

namespace CodeAtlas.Files

inductive GlobToken where
  | byte (b : UInt8)
  | anyOne
  | star
  | leading
  | trailing
  | between
  | oneOf (negated : Bool) (ranges : List (Char × Char))
  deriving DecidableEq, Repr

abbrev Glob := List GlobToken

def slash : UInt8 := 0x2f

def afterComponentPart (rest : List UInt8 → Bool) : List UInt8 → Bool
  | [] => rest []
  | b :: bs => rest (b :: bs) || (b != slash && afterComponentPart rest bs)

def afterSomeSlash (rest : List UInt8 → Bool) : List UInt8 → Bool
  | [] => false
  | b :: bs => (b == slash && rest bs) || afterSomeSlash rest bs

def acceptsSome (rest : List UInt8 → Bool) : List UInt8 → Bool
  | [] => rest []
  | b :: bs => rest (b :: bs) || acceptsSome rest bs

def inClass (negated : Bool) (ranges : List (Char × Char)) (b : UInt8) : Bool :=
  let c := Char.ofNat b.toNat
  (ranges.any fun r => r.1 ≤ c && c ≤ r.2) != negated

def globMatches : Glob → List UInt8 → Bool
  | [], path => path.isEmpty
  | .byte b :: rest, path =>
    match path with
    | c :: cs => b == c && globMatches rest cs
    | [] => false
  | .anyOne :: rest, path =>
    match path with
    | c :: cs => c != slash && globMatches rest cs
    | [] => false
  | .star :: rest, path => afterComponentPart (globMatches rest) path
  | .leading :: rest, path => globMatches rest path || afterSomeSlash (globMatches rest) path
  | .trailing :: rest, path =>
    match path with
    | c :: cs => c == slash && acceptsSome (globMatches rest) cs
    | [] => false
  | .between :: rest, path =>
    match path with
    | c :: cs =>
      c == slash && (globMatches rest cs || afterSomeSlash (globMatches rest) cs)
    | [] => false
  | .oneOf negated ranges :: rest, path =>
    match path with
    | c :: cs => inClass negated ranges c && globMatches rest cs
    | [] => false

inductive GlobMark where
  | char (c : Char)
  | anyOne
  | star
  | oneOf (negated : Bool) (ranges : List (Char × Char))
  | opening
  | comma
  | closing
  deriving DecidableEq, Repr

/-- The ranges of a class read so far, last first; the flag `joined` says that a dash has just joined
the last one to what follows. -/
def readClass (negated : Bool) (first joined : Bool) (ranges : List (Char × Char)) :
    List Char → Option (GlobMark × List Char)
  | [] => none
  | c :: cs =>
    if c = ']' ∧ !first then
      let ranges := if joined then ('-', '-') :: ranges else ranges
      some (.oneOf negated ranges.reverse, cs)
    else if joined then
      match ranges with
      | (low, _) :: more =>
        if c < low then none else readClass negated false false ((low, c) :: more) cs
      | [] => none
    else if c = '-' ∧ !first ∧ !ranges.isEmpty then readClass negated false true ranges cs
    else readClass negated false false ((c, c) :: ranges) cs

theorem length_readClass {negated first joined : Bool} {ranges : List (Char × Char)}
    {cs rest : List Char} {mark : GlobMark}
    (h : readClass negated first joined ranges cs = some (mark, rest)) :
    rest.length < cs.length := by
  induction cs generalizing first joined ranges with
  | nil => simp [readClass] at h
  | cons c cs ih =>
    unfold readClass at h
    split at h
    · simp only [Option.some.injEq, Prod.mk.injEq] at h
      simp [← h.2]
    · split at h
      · split at h
        · split at h
          · simp at h
          · exact Nat.lt_succ_of_lt (ih h)
        · simp at h
      · split at h
        · exact Nat.lt_succ_of_lt (ih h)
        · exact Nat.lt_succ_of_lt (ih h)

def readMarks (cs : List Char) : Option (List GlobMark) :=
  match cs with
  | [] => some []
  | '\\' :: c :: rest => (readMarks rest).map (.char c :: ·)
  | ['\\'] => none
  | '?' :: rest => (readMarks rest).map (.anyOne :: ·)
  | '*' :: rest => (readMarks rest).map (.star :: ·)
  | '\x7b' :: rest => (readMarks rest).map (.opening :: ·)
  | ',' :: rest => (readMarks rest).map (.comma :: ·)
  | '\x7d' :: rest => (readMarks rest).map (.closing :: ·)
  | '[' :: rest =>
    let negated := rest.head? = some '!' ∨ rest.head? = some '^'
    let body := if negated then rest.tail else rest
    match _h : readClass negated true false [] body with
    | some (mark, rest') => (readMarks rest').map (mark :: ·)
    | none => none
  | c :: rest => (readMarks rest).map (.char c :: ·)
termination_by cs.length
decreasing_by
  all_goals simp only [List.length_cons]
  all_goals try omega
  have := length_readClass _h
  have hbody : body.length ≤ rest.length := by
    simp only [body]
    split <;> simp
  omega

/-- Splits off the alternatives of a group, given what has been read of the current one and the
finished ones, each last first. Nothing if the group is not closed. -/
def readAlternatives (depth : Nat) (current : List GlobMark) (finished : List (List GlobMark)) :
    List GlobMark → Option (List (List GlobMark) × List GlobMark)
  | [] => none
  | .opening :: rest => readAlternatives (depth + 1) (.opening :: current) finished rest
  | .closing :: rest =>
    match depth with
    | 0 => some ((current.reverse :: finished).reverse, rest)
    | d + 1 => readAlternatives d (.closing :: current) finished rest
  | .comma :: rest =>
    if depth = 0 then readAlternatives 0 [] (current.reverse :: finished) rest
    else readAlternatives depth (.comma :: current) finished rest
  | mark :: rest => readAlternatives depth (mark :: current) finished rest

/-- The patterns without groups that a pattern stands for. Nothing if its braces do not pair up. The
number of rounds is bounded by the number of opening braces. -/
def expandGroups (rounds : Nat) (marks : List GlobMark) : Option (List (List GlobMark)) :=
  let before := marks.takeWhile (· != .opening)
  if before.contains .closing then none
  else
    match rounds, marks.drop before.length with
    | _, [] => some [marks]
    | 0, _ :: _ => none
    | rounds + 1, _ :: rest => do
      let (alternatives, after) ← readAlternatives 0 [] [] rest
      let expanded ← alternatives.mapM fun middle =>
        expandGroups rounds (before ++ middle ++ after)
      some expanded.flatten

def literalTokens (c : Char) : Glob := (Text.encodeUtf8 c.toString).map .byte

def GlobMark.tokens : GlobMark → Glob
  | char c => literalTokens c
  | anyOne => [.anyOne]
  | star => [.star]
  | oneOf negated ranges => [.oneOf negated ranges]
  | comma => literalTokens ','
  | opening | closing => []

def isSeparator (mark : Option GlobMark) : Bool := mark == some (.char '/')

/-- What two stars mean behind the tokens read so far, which are held last first, and whether the mark
`next` behind the stars belongs to it; `previous` is the mark before them. -/
def doubleStar (tokens : Glob) (previous next : Option GlobMark) : Option (Glob × Bool) :=
  if next.isSome && !isSeparator next then none
  else
    match tokens with
    | [] => some ([.leading], next.isSome)
    | last :: before =>
      if !isSeparator previous then none
      else
        let token :=
          match last with
          | .leading | .trailing => last
          | _ => if next.isSome then .between else .trailing
        some (token :: before, next.isSome)

def readTokens (tokens : Glob) (previous : Option GlobMark) (marks : List GlobMark) : Glob :=
  match marks with
  | [] => tokens.reverse
  | .star :: .star :: rest =>
    match doubleStar tokens previous rest.head? with
    | some (tokens, true) => readTokens tokens (some (.char '/')) rest.tail
    | some (tokens, false) => readTokens tokens (some .star) rest
    | none => readTokens (.star :: .star :: tokens) (some .star) rest
  | mark :: rest => readTokens (mark.tokens.reverse ++ tokens) (some mark) rest
termination_by marks.length
decreasing_by all_goals (simp only [List.length_cons, List.length_tail]; omega)

def globsOf? (pattern : String) : Option (List Glob) := do
  let marks ← readMarks pattern.toList
  let plain ← expandGroups (marks.count .opening) marks
  some (plain.map (readTokens [] none))

end CodeAtlas.Files
