import CodeAtlas.Files.Tree

/-!
# Changes of a file tree

What has to be done to a directory so that it becomes a tree that has everything it had, or more.
-/

namespace CodeAtlas.Files

inductive FileChange (α : Type) where
  | makeDirectory (path : List String)
  | writeFile (path : List String) (content : α)
  deriving Repr

variable {α : Type} [BEq α]

mutual

def FileTree.changes (path : List String) (before : Option (FileTree α)) :
    FileTree α → List (FileChange α)
  | .file content =>
    match before with
    | some (.file old) => if old == content then [] else [.writeFile path content]
    | _ => [.writeFile path content]
  | .directory entries =>
    let made :=
      match before with
      | some (.directory _) => []
      | _ => [.makeDirectory path]
    made ++ entryChanges path before entries

def FileTree.entryChanges (path : List String) (before : Option (FileTree α)) :
    List (String × FileTree α) → List (FileChange α)
  | [] => []
  | (name, child) :: rest =>
    FileTree.changes (path ++ [name]) (before.bind (·.child? name)) child ++
      FileTree.entryChanges path before rest

end

end CodeAtlas.Files
