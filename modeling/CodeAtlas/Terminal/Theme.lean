import CodeAtlas.Package
import CodeAtlas.Text.Search

/-!
# Themes

The styles of a terminal's text. A style is a list of display attributes; text in the plain style is
printed as it is.
-/

namespace CodeAtlas.Terminal

structure Style where
  attributes : List Nat
  deriving DecidableEq, Repr, Inhabited

def Style.plain : Style := ⟨[]⟩

def Style.apply (s : Style) (text : String) : String :=
  if s.attributes.isEmpty then text
  else
    "\x1b[" ++ String.intercalate ";" (s.attributes.map toString) ++ "m" ++ text ++ "\x1b[0m"

structure Theme where
  header : Style
  success : Style
  error : Style
  warn : Style
  info : Style
  dim : Style
  accent : Style
  deriving DecidableEq, Repr, Inhabited

namespace Theme

def colored : Theme :=
  { header := ⟨[36, 1]⟩
    success := ⟨[32, 1]⟩
    error := ⟨[31, 1]⟩
    warn := ⟨[33, 1]⟩
    info := ⟨[35]⟩
    dim := ⟨[37, 2]⟩
    accent := ⟨[34, 1]⟩ }

def plain : Theme :=
  { header := .plain, success := .plain, error := .plain, warn := .plain, info := .plain
    dim := .plain, accent := .plain }

def risk (t : Theme) (label : String) : Style :=
  if Text.startsWith "High" label then t.error
  else if Text.startsWith "Low" label then t.success
  else t.dim

end Theme

end CodeAtlas.Terminal
