import CodeAtlas.Archive.ProjectFiles
import CodeAtlas.Files.Ignore
import CodeAtlas.Files.Tree

/-!
# Walking a directory

The files below a directory that are neither hidden, nor in a directory of build output, nor left out by
an ignore file. The ignore files of a directory hold for everything below it; those nearer to a file come
first, and `.ignore` comes before `.gitignore` and that before the exclude file of a repository. The
latter two count only inside a repository, and not beyond its root.
-/

namespace CodeAtlas.Files

def excludedDirectories : List String := ["bin", "obj", ".git", ".vs", "node_modules"]

/-- The ignore files of one directory, and the path from there to the directory being walked. -/
structure IgnoreLevel where
  ignore : List IgnoreRule
  gitIgnore : List IgnoreRule
  gitExclude : List IgnoreRule
  isRepository : Bool
  below : List String
  deriving Repr

abbrev ByteTree := FileTree (List UInt8)

def rulesAt (path : List String) (directory : ByteTree) : List IgnoreRule :=
  match directory.find? path with
  | some (.file bytes) => ignoreRules bytes
  | _ => []

def IgnoreLevel.ofDirectory (directory : ByteTree) : IgnoreLevel :=
  { ignore := rulesAt [".ignore"] directory
    gitIgnore := rulesAt [".gitignore"] directory
    gitExclude := rulesAt [".git", "info", "exclude"] directory
    isRepository := (directory.child? ".git").isSome
    below := [] }

def descend (name : String) (levels : List IgnoreLevel) : List IgnoreLevel :=
  levels.map fun level => { level with below := level.below ++ [name] }

/-- The levels up to the root of the repository around the directory, if there is one. -/
def repositoryLevels : List IgnoreLevel → List IgnoreLevel
  | [] => []
  | level :: outer => if level.isRepository then [level] else level :: repositoryLevels outer

def levelsVerdict? (levels : List IgnoreLevel) (name : String) (isDirectory : Bool) :
    Option Verdict :=
  let ask (rules : IgnoreLevel → List IgnoreRule) (levels : List IgnoreLevel) : Option Verdict :=
    levels.findSome? fun level =>
      verdict? (rules level) (String.intercalate "/" (level.below ++ [name])) isDirectory
  let git := if levels.any (·.isRepository) then repositoryLevels levels else []
  ask (·.ignore) levels <|> ask (·.gitIgnore) git <|> ask (·.gitExclude) git

def isVisited (levels : List IgnoreLevel) (name : String) (isDirectory : Bool) : Bool :=
  if isDirectory && excludedDirectories.contains name then false
  else
    match levelsVerdict? levels name isDirectory with
    | some .leaveOut => false
    | some .letIn => true
    | none => !name.startsWith "."

mutual

/-- The files below a directory with their paths relative to the start of the walk. `levels` are the
ignore files above, the innermost first. -/
def walkTree (levels : List IgnoreLevel) (path : List String) :
    ByteTree → List (List String × List UInt8)
  | .file bytes => [(path, bytes)]
  | .directory entries =>
    walkEntries (.ofDirectory (.directory entries) :: levels) path entries

def walkEntries (levels : List IgnoreLevel) (path : List String) :
    List (String × ByteTree) → List (List String × List UInt8)
  | [] => []
  | (name, child) :: rest =>
    let found :=
      if isVisited levels name child.isDirectory then
        walkTree (descend name levels) (path ++ [name]) child
      else []
    found ++ walkEntries levels path rest

end

def levelsAbove (levels : List IgnoreLevel) (tree : ByteTree) : List String → List IgnoreLevel
  | [] => levels
  | name :: rest =>
    match tree.child? name with
    | some child => levelsAbove (descend name (.ofDirectory tree :: levels)) child rest
    | none => levels

def reportedPath (parts : List String) : String :=
  String.ofList ((String.intercalate "/" parts).toList.map fun c => if c = '\\' then '/' else c)

def projectFilesAt (registry : Registry) (tree : ByteTree) (place : List String) : ProjectFiles :=
  match tree.find? place with
  | none => .empty
  | some start =>
    let found := (walkTree (levelsAbove [] tree place) [] start).map fun (parts, bytes) =>
      ({ path := reportedPath parts, text := Text.decodeUtf8 bytes } : SourceFile)
    .classify registry (found.mergeSort fun a b => decide (a.path ≤ b.path))

/-- The project files below a path. A path that leads nowhere holds none. -/
def projectFilesBelow (registry : Registry) (tree : ByteTree) (path : String) : ProjectFiles :=
  match tree.resolve path with
  | .ok place => projectFilesAt registry tree place
  | .error _ => .empty

def loadProject (registry : Registry) (tree : ByteTree) (path : String) :
    Except Error ProjectFiles :=
  match tree.resolve path with
  | .error fault => .error (.file fault)
  | .ok place =>
    match tree.find? place with
    | some (.file bytes) => ProjectFiles.ofZip registry bytes.toArray
    | _ => .ok (projectFilesAt registry tree place)

end CodeAtlas.Files
