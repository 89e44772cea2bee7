import CodeAtlas.Terminal.Theme

/-!
# Console lines

The kinds of lines that commands print. Only the line that ends an ingest depends on more than the graph:
it says how long the ingest took.
-/

namespace CodeAtlas.Terminal

inductive Printed where
  | line (text : String)
  | completed
  deriving DecidableEq, Repr

namespace Printed

def blank : Printed := line ""

def header (t : Theme) (text : String) : Printed := line ("🚀 " ++ t.header.apply text)

def status (t : Theme) (icon label value : String) : Printed :=
  line (icon ++ " " ++ t.dim.apply label ++ ": " ++ value)

def success (t : Theme) (text : String) : Printed := line ("✅ " ++ t.success.apply text)

def info (t : Theme) (label value : String) : Printed :=
  line (t.info.apply "ℹ️" ++ " " ++ t.dim.apply label ++ ": " ++ value)

def summaryRow (t : Theme) (label : String) (value : Nat) : Printed :=
  line ("  " ++ t.dim.apply label ++ " " ++ toString value)

def titled (t : Theme) (title : String) : List Printed :=
  [blank, line ("━" ++ t.header.apply title ++ "━")]

def render (t : Theme) (elapsed : String) : Printed → String
  | line text => text ++ "\n"
  | completed =>
    t.success.apply "✅" ++ " " ++ t.success.apply ("Complete in " ++ elapsed) ++ "\n"

end Printed

def warning (t : Theme) (text : String) : String := "⚠️ " ++ t.warn.apply text ++ "\n"

end CodeAtlas.Terminal
