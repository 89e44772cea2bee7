import CodeAtlas.Files.Glob
import CodeAtlas.Text.Blank

/-!
# Ignore files

Lines of patterns that leave files out, or with an exclamation mark let them in again; the last line
that matches decides. A pattern with a slash before its end is bound to the directory of the ignore file,
any other one matches at every depth below it. A slash at the end confines it to directories.
-/

namespace CodeAtlas.Files

structure IgnoreRule where
  globs : List Glob
  letsIn : Bool
  onlyDirectories : Bool
  deriving Repr

inductive Verdict where
  | leaveOut
  | letIn
  deriving DecidableEq, Repr

def anchoredPattern (isAnchored : Bool) (pattern : String) : String :=
  let pattern :=
    if isAnchored || pattern.contains '/' || pattern = "**" then pattern else "**/" ++ pattern
  if pattern.endsWith "/**" then pattern ++ "/*" else pattern

/-- Reads a line without its line end; comments, blank lines and malformed patterns give no rule. -/
def IgnoreRule.ofLine? (line : String) : Option IgnoreRule :=
  if line.startsWith "#" then none
  else
    let line :=
      if line.endsWith "\\ " then line else String.ofList (Text.trimEnd line.toList)
    if line.isEmpty then none
    else
      let (letsIn, isAnchored, body) :=
        match line.toList with
        | '\\' :: '!' :: rest => (false, false, '!' :: rest)
        | '\\' :: '#' :: rest => (false, false, '#' :: rest)
        | '!' :: '/' :: rest => (true, true, rest)
        | '!' :: rest => (true, false, rest)
        | '/' :: rest => (false, true, rest)
        | cs => (false, false, cs)
      let (onlyDirectories, body) :=
        match body.reverse with
        | '/' :: '\\' :: rest => (true, rest.reverse)
        | '/' :: rest => (true, rest.reverse)
        | _ => (false, body)
      (globsOf? (anchoredPattern isAnchored (String.ofList body))).map fun globs =>
        { globs, letsIn, onlyDirectories }

/-- The lines of a file up to the first that is no valid text, without their line ends. -/
def linesOf (bytes : List UInt8) : List String :=
  let lines := (bytes.splitOn 0x0a).map Text.decodeUtf8?
  lines.takeWhile (·.isSome) |>.filterMap fun line =>
    line.map fun text => if text.endsWith "\r" then String.ofList text.toList.dropLast else text

def ignoreRules (bytes : List UInt8) : List IgnoreRule :=
  match linesOf bytes with
  | [] => []
  | first :: rest =>
    let first := String.ofList (first.toList.dropWhile (· = '\ufeff'))
    (first :: rest).filterMap IgnoreRule.ofLine?

def IgnoreRule.matchesPath (rule : IgnoreRule) (path : List UInt8) (isDirectory : Bool) : Bool :=
  (!rule.onlyDirectories || isDirectory) && rule.globs.any (globMatches · path)

def verdict? (rules : List IgnoreRule) (path : String) (isDirectory : Bool) : Option Verdict :=
  let bytes := path.toUTF8.toList
  (rules.reverse.find? (·.matchesPath bytes isDirectory)).map fun rule =>
    if rule.letsIn then .letIn else .leaveOut

end CodeAtlas.Files
