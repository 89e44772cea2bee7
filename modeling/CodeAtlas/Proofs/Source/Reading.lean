import CodeAtlas.Source.File
import CodeAtlas.Source.Registry

/-!
# What the parser of a file makes of it

The parser of a file is the first one of the registry that takes its path.
-/

namespace CodeAtlas.Registry

/-- What the parser of a file makes of it, if the file has one. -/
def reading? (registry : Registry) (file : SourceFile) : Option (Except Error ParsedSource) :=
  (registry.parserFor? file.path).map fun parser => parser.parse file.path file.text

theorem parse_eq (registry : Registry) (file : SourceFile) :
    registry.parse file.path file.text =
      match registry.reading? file with
      | none => .ok none
      | some (.ok parsed) => .ok (some parsed)
      | some (.error e) => .error e := by
  rw [parse, reading?]
  cases registry.parserFor? file.path with
  | none => rfl
  | some parser =>
    cases hparse : parser.parse file.path file.text <;> simp [hparse, Except.map]

theorem isSome_reading? {registry : Registry} {file : SourceFile} :
    (registry.reading? file).isSome = registry.isSource file.path := by
  rw [reading?, isSource, Option.isSome_map]

end CodeAtlas.Registry
