import CodeAtlas.Error
import CodeAtlas.Package
import CodeAtlas.Markup.Attribute
import CodeAtlas.Markup.Reference
import CodeAtlas.Text.Blank
import CodeAtlas.Text.Case

/-!
# Build manifests

Reading the package references of a project file. A reference takes its version from its `Version`
attribute, or else from the last text of a `Version` element inside it. A manifest counts only as a
whole: it has one root element, every element is closed, and no fault is met on the way.
-/

namespace CodeAtlas.Manifest

open Markup

/-- A manifest is known by the text after its last dot. -/
def isManifest (path : String) : Bool :=
  let reversed := path.toList.reverse
  match reversed.dropWhile (· != '.') with
  | [] => false
  | _ =>
    Text.sameIgnoringAsciiCase (String.ofList (reversed.takeWhile (· != '.')).reverse) "csproj"

structure KnownPackage where
  name : String
  risk : String
  license : String

def knownPackages : List KnownPackage := [
  ⟨"Newtonsoft.Json", "Low: keep updated", "MIT"⟩,
  ⟨"Dapper", "Low", "Apache-2.0"⟩,
  ⟨"Some.Vuln.Package", "High: CVE-XXXX-YYYY", "UNKNOWN"⟩]

def annotate (package : Package) : Package :=
  match knownPackages.find? fun known => Text.sameIgnoringAsciiCase known.name package.name with
  | some known => { package with risk := known.risk, license := some known.license }
  | none => package

structure PendingReference where
  name : String
  version : Option String
  versionElement : Option String
  deriving DecidableEq, Repr

def PendingReference.package? (pending : PendingReference) : Option Package :=
  if Text.isBlankText pending.name then none
  else
    let version := (pending.version <|> pending.versionElement).getD ""
    some (annotate (Package.plain pending.name version))

def attributeText? (tag : Tag) (key : String) : Except Fault (Option String) := do
  match ← (tag.attribute? key).mapError .tag with
  | none => .ok none
  | some raw =>
    let text ← (decodeReferences raw).mapError .entity
    .ok (some (String.ofList text))

def PendingReference.ofTag (tag : Tag) : Except Fault PendingReference := do
  let name ← attributeText? tag "Include"
  let version ← attributeText? tag "Version"
  .ok { name := name.getD "", version, versionElement := none }

structure ScanState where
  packages : List Package
  current : Option PendingReference
  inVersion : Bool
  depth : Nat
  roots : Nat
  deriving Repr

def ScanState.initial : ScanState :=
  { packages := [], current := none, inVersion := false, depth := 0, roots := 0 }

def ScanState.emit (s : ScanState) (pending : PendingReference) : ScanState :=
  { s with packages := s.packages ++ pending.package?.toList }

/-- An element begins; at depth zero it is a root, of which there may be one. -/
def ScanState.countRoot (s : ScanState) : Except Fault ScanState :=
  if s.depth = 0 then
    if s.roots = 0 then .ok { s with roots := 1 } else .error .multipleRoots
  else .ok s

def isReference (name : List Char) : Bool := name == "PackageReference".toList

def isVersion (name : List Char) : Bool := name == "Version".toList

def ScanState.step (s : ScanState) : Event → Except Fault ScanState
  | .openTag tag => do
    let s ← s.countRoot
    let s := { s with depth := s.depth + 1 }
    if isReference tag.localName then
      let pending ← PendingReference.ofTag tag
      .ok { s with current := some pending }
    else if isVersion tag.localName && s.current.isSome then .ok { s with inVersion := true }
    else .ok s
  | .emptyTag tag => do
    let s ← s.countRoot
    if isReference tag.localName then
      let pending ← PendingReference.ofTag tag
      .ok (s.emit pending)
    else .ok s
  | .text raw =>
    if s.inVersion then do
      let text ← (decodeReferences raw).mapError .entity
      .ok { s with
        current := s.current.map fun pending =>
          { pending with versionElement := some (String.ofList text) } }
    else .ok s
  | .closeTag name =>
    let s := { s with depth := s.depth - 1 }
    let name := localPart name
    if isVersion name then .ok { s with inVersion := false }
    else if isReference name then
      match s.current with
      | some pending => .ok { s.emit pending with current := none }
      | none => .ok s
    else .ok s
  | .aside => .ok s

def ScanState.run (s : ScanState) : List Event → Except Fault ScanState
  | [] => .ok s
  | event :: rest => do (← s.step event).run rest

def ScanState.finish (s : ScanState) : Except Fault (List Package) :=
  if 0 < s.depth then .error (.unclosedElements s.depth)
  else if s.roots = 0 then .error .rootMissing
  else .ok s.packages

/-- The reader's fault counts only when every event before it is in order. -/
def scanReading (reading : Reading) : Except Fault (List Package) := do
  let s ← ScanState.initial.run reading.events
  match reading.fault with
  | some (position, fault) => .error (.reader position fault)
  | none => s.finish

def scanManifest (text : String) : Except Fault (List Package) := scanReading (Markup.read text)

def scan (texts : List String) : List Package :=
  texts.flatMap fun text =>
    match scanManifest text with
    | .ok packages => packages
    | .error _ => []

end CodeAtlas.Manifest
