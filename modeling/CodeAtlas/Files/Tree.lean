import CodeAtlas.Error
import CodeAtlas.Text.Search

/-!
# File trees

A directory with everything below it, as a value. Files hold bytes, or the contents of another kind of
store that is kept in a file.
-/

namespace CodeAtlas.Files

inductive FileTree (α : Type) where
  | file (content : α)
  | directory (entries : List (String × FileTree α))
  deriving Repr, Inhabited

variable {α : Type}

namespace FileTree

def empty : FileTree α := .directory []

def isDirectory : FileTree α → Bool
  | directory _ => true
  | file _ => false

def child? (name : String) : FileTree α → Option (FileTree α)
  | file _ => none
  | directory entries => entries.lookup name

def find? : List String → FileTree α → Option (FileTree α)
  | [], t => some t
  | name :: path, t =>
    match t.child? name with
    | some child => find? path child
    | none => none

def setEntry (name : String) (child : FileTree α) (entries : List (String × FileTree α)) :
    List (String × FileTree α) :=
  if entries.any (·.1 == name) then
    entries.map fun e => if e.1 = name then (name, child) else e
  else entries ++ [(name, child)]

/-- Puts a tree at a path and makes the directories on the way. A file in the way stops it. -/
def put (node : FileTree α) : List String → FileTree α → Except FileFault (FileTree α)
  | [], _ => .ok node
  | _ :: _, file _ => .error .notDirectory
  | name :: path, directory entries => do
    let child ← put node path ((entries.lookup name).getD empty)
    .ok (directory (setEntry name child entries))

end FileTree

def pathParts (path : String) : List String :=
  (Text.splitAt '/' path.toList).map String.ofList

def namedParts (path : String) : List String :=
  (pathParts path).filter fun part => part ≠ "" ∧ part ≠ "."

/-- A file name without what follows its last dot, unless it only begins with one. -/
def fileStem (name : String) : String :=
  match (Text.splitAt '.' name.toList).dropLast with
  | [] | [[]] => name
  | pieces => String.ofList (List.intercalate ['.'] pieces)

namespace FileTree

def map {β : Type} (f : α → β) : FileTree α → FileTree β
  | file content => file (f content)
  | directory entries => directory (mapEntries f entries)
where
  mapEntries {β : Type} (f : α → β) : List (String × FileTree α) → List (String × FileTree β)
    | [] => []
    | (name, child) :: rest => (name, map f child) :: mapEntries f rest

/-- Follows the parts of a path from a place in the tree. Two dots lead back, and nothing lies below a
file, not even the file itself. -/
def follow (tree : FileTree α) (place : List String) : List String → Except FileFault (List String)
  | [] => .ok place
  | part :: rest =>
    match tree.find? place with
    | some (directory entries) =>
      if part = "" ∨ part = "." then follow tree place rest
      else if part = ".." then follow tree place.dropLast rest
      else if (entries.lookup part).isSome then follow tree (place ++ [part]) rest
      else .error .notFound
    | _ => .error .notDirectory

def resolve (path : String) (tree : FileTree α) : Except FileFault (List String) :=
  if path.isEmpty then .error .notFound else follow tree [] (pathParts path)

def holds (path : String) (tree : FileTree α) : Bool := (tree.resolve path).isOk

def write (path : String) (content : α) (tree : FileTree α) : Except FileFault (FileTree α) :=
  let parts := pathParts path
  let name := parts.getLastD ""
  if path.isEmpty then .error .notFound
  else
    match follow tree [] parts.dropLast with
    | .error fault => .error fault
    | .ok place =>
      if name = "" ∨ name = "." ∨ name = ".." then .error .isDirectory
      else
        match tree.find? (place ++ [name]) with
        | some (directory _) => .error .isDirectory
        | _ => put (file content) (place ++ [name]) tree

def makeDirectoriesFrom (place : List String) :
    List String → FileTree α → Except FileFault (FileTree α)
  | [], tree => .ok tree
  | part :: rest, tree =>
    if part = "" ∨ part = "." then makeDirectoriesFrom place rest tree
    else if part = ".." then makeDirectoriesFrom place.dropLast rest tree
    else
      let next := place ++ [part]
      match tree.find? next with
      | some (directory _) => makeDirectoriesFrom next rest tree
      | some (file _) => .error .notDirectory
      | none =>
        match put (directory []) next tree with
        | .ok tree => makeDirectoriesFrom next rest tree
        | .error fault => .error fault

def makeDirectories (path : List String) (tree : FileTree α) : Except FileFault (FileTree α) :=
  makeDirectoriesFrom [] path tree

end FileTree

end CodeAtlas.Files
