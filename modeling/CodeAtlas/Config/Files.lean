import CodeAtlas.Config.Printer
import CodeAtlas.Files.Tree

/-!
# Configuration on disk

Loading and writing configuration files, and making the directory of a database. Each write yields the
tree as it is afterwards.
-/

namespace CodeAtlas.Config

open Files

variable {α : Type}

def load (contents : α → List UInt8) (path : String) (tree : FileTree α) :
    Except ConfigFault (Option Config) :=
  match tree.resolve path with
  | .error _ => .ok none
  | .ok place =>
    match tree.find? place with
    | some (.file content) => (ofBytes (contents content)).map some
    | _ => .error (.file .isDirectory)

def save (contents : List UInt8 → α) (path : String) (config : Config) (force : Bool)
    (tree : FileTree α) : Except ConfigFault (FileTree α) :=
  if tree.holds path && !force then .error (.alreadyExists path)
  else
    match tree.write path (contents (Text.encodeUtf8 config.render)) with
    | .ok tree => .ok tree
    | .error fault => .error (.file fault)

def ensureParent (path : String) (tree : FileTree α) : Except FileFault (FileTree α) :=
  let parent := (namedParts path).dropLast
  if parent.isEmpty || tree.holds (String.intercalate "/" parent) then .ok tree
  else tree.makeDirectories parent

end CodeAtlas.Config
