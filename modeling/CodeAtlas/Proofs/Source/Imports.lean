import CodeAtlas.Proofs.Except
import CodeAtlas.Proofs.Source.Reading
import CodeAtlas.Source.Lines

/-!
# Imports are listed once

A parser owes a list of imports without repeats. One that gathers them import by import keeps to this,
as both parsers do.
-/

namespace CodeAtlas

namespace ParsedSource

def ListsOnce (s : ParsedSource) : Prop := s.imports.Nodup

variable {s : ParsedSource}

theorem ListsOnce.empty : empty.ListsOnce := List.nodup_nil

theorem ListsOnce.addImport (h : s.ListsOnce) (name : String) : (s.addImport name).ListsOnce := by
  rw [ParsedSource.addImport]
  by_cases hskip : name = "" ∨ name ∈ s.imports
  · rwa [if_pos hskip]
  · rw [if_neg hskip, ListsOnce, List.nodup_append]
    refine ⟨h, by simp, ?_⟩
    intro a ha b hb hab
    rw [List.mem_singleton] at hb
    exact hskip (Or.inr (hb ▸ hab ▸ ha))

theorem ListsOnce.addDeclaration (h : s.ListsOnce) (d : TypeDeclaration) :
    (s.addDeclaration d).ListsOnce := h

end ParsedSource

/-- What a parser owes about the imports of every file. -/
def SourceParser.ListsOnce (parser : SourceParser) : Prop :=
  ∀ path text parsed, parser.parse path text = .ok parsed → parsed.ListsOnce

def Registry.ListsOnce (registry : Registry) : Prop :=
  ∀ parser ∈ registry, SourceParser.ListsOnce parser

theorem Registry.ListsOnce.of_reading {registry : Registry} (h : Registry.ListsOnce registry)
    {file : SourceFile} {parsed : ParsedSource}
    (hread : registry.reading? file = some (.ok parsed)) : parsed.ListsOnce := by
  obtain ⟨parser, hparser, hparse⟩ := Option.map_eq_some_iff.mp hread
  exact h parser (List.mem_of_find?_eq_some hparser) file.path file.text parsed hparse

namespace CSharp

theorem listsOnce_addUsing {out : ParsedSource} (h : out.ListsOnce) (directive : Option String) :
    (addUsing out directive).ListsOnce := by
  rw [addUsing]
  split
  · exact h.addImport _
  · exact h

theorem listsOnce_addDeclared {out : ParsedSource} (h : out.ListsOnce) (nspace : Option String)
    (node : SyntaxNode) : (addDeclared nspace out node).ListsOnce := by
  rw [addDeclared]
  split
  · exact h.addDeclaration _
  · exact h

theorem listsOnce_collectFrom (base file : Option String) (atTop : Bool) {out : ParsedSource}
    (h : out.ListsOnce) (nodes : List SyntaxNode) :
    (collectFrom base file atTop out nodes).ListsOnce := by
  fun_induction collectFrom base file atTop out nodes with
  | case1 => exact h
  | case2 base file atTop out node rest huse ih => exact ih (listsOnce_addUsing h node.text)
  | case3 base file atTop out node rest huse hkind hname ih => exact ih h
  | case4 base file atTop out node rest huse hkind name hname hbody ih => exact ih h
  | case5 base file atTop out node rest huse hkind name hname body hbody inner ihInner ih =>
    exact ih (ihInner h)
  | case6 base file atTop out node rest huse hblock hkind hname ih => exact ih h
  | case7 base file atTop out node rest huse hblock hkind name hname inner ihInner ih =>
    exact ih (ihInner h)
  | case8 base file atTop out node rest huse hblock hkind ih => exact ih (listsOnce_addDeclared h _ node)

theorem listsOnce_parse (grammar : Grammar) {path source : String} {parsed : ParsedSource}
    (h : parse grammar path source = .ok parsed) : parsed.ListsOnce := by
  rw [parse] at h
  split at h
  · cases h
  · split at h
    · next root _ =>
      cases h
      exact listsOnce_collectFrom none none true .empty root.namedChildren
    · cases h

end CSharp

theorem Registry.listsOnce_builtIn (grammar : CSharp.Grammar) :
    Registry.ListsOnce (.builtIn grammar) := by
  intro parser hparser path text parsed hparse
  obtain rfl := List.mem_singleton.mp hparser
  exact CSharp.listsOnce_parse grammar hparse

namespace LineNotation

theorem listsOnce_readLine {out parsed : ParsedSource} (h : out.ListsOnce) {line : List Char}
    (hread : readLine out line = .ok parsed) : parsed.ListsOnce := by
  rw [readLine] at hread
  split at hread
  · cases hread
    exact h.addImport _
  · split at hread
    · cases hread
      exact h.addDeclaration _
    · cases hread
  · cases hread
  · cases hread
    exact h

theorem listsOnce_readLines {out parsed : ParsedSource} (h : out.ListsOnce)
    {lines : List (List Char)} (hread : lines.foldlM readLine out = .ok parsed) :
    parsed.ListsOnce := by
  induction lines generalizing out with
  | nil =>
    cases hread
    exact h
  | cons line lines ih =>
    rw [List.foldlM_cons] at hread
    obtain ⟨next, hline, hrest⟩ := (bind_eq_ok_iff _ _ _).mp hread
    exact ih (listsOnce_readLine h hline) hrest

theorem listsOnce_lines (language : String) (extensions : List String) :
    (parser language extensions).ListsOnce :=
  fun _ _ _ hparse => listsOnce_readLines .empty hparse

end LineNotation

end CodeAtlas
