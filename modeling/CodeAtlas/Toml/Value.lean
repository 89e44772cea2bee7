/-!
# TOML values

A table remembers how it came to be, because that decides what may still be added to it.
-/

namespace CodeAtlas

inductive TableOrigin where
  /-- Written between braces: nothing can be added. -/
  | inline
  | header
  /-- Only a part of longer headers so far. -/
  | implied
  | dotted
  deriving DecidableEq, Repr

/-- Of floats and dates only the fact that they are such is kept. -/
inductive Toml where
  | string (text : String)
  | integer (value : Int)
  | float
  | boolean (value : Bool)
  | date
  | array (items : List Toml)
  | table (origin : TableOrigin) (entries : List (String × Toml))
  | rows (last : List (String × Toml)) (earlier : List (List (String × Toml)))
  deriving Repr, Inhabited

namespace Toml

abbrev Entries := List (String × Toml)

def replaceEntry (key : String) (value : Toml) (entries : Entries) : Entries :=
  entries.map fun e => if e.1 = key then (key, value) else e

/-- Adds a value under a dotted key. `isOpen` says whether the table at hand takes further values
itself; one that headers imply does not, but its subtables may. -/
def assign (value : Toml) (isOpen : Bool) : List String → Entries → Option Entries
  | [], _ => none
  | [key], entries =>
    if isOpen && (entries.lookup key).isNone then some (entries ++ [(key, value)]) else none
  | key :: path, entries =>
    match entries.lookup key with
    | none =>
      (assign value true path []).map fun inner => entries ++ [(key, table .dotted inner)]
    | some (table .dotted inner) =>
      (assign value true path inner).map fun inner =>
        replaceEntry key (table .dotted inner) entries
    | some (table .implied inner) =>
      (assign value false path inner).map fun inner =>
        replaceEntry key (table .implied inner) entries
    | some (rows last earlier) =>
      (assign value false path last).map fun last =>
        replaceEntry key (rows last earlier) entries
    | some _ => none

def alterTable (change : Entries → Option Entries) : List String → Entries → Option Entries
  | [], entries => change entries
  | key :: path, entries =>
    match entries.lookup key with
    | none =>
      (alterTable change path []).map fun inner => entries ++ [(key, table .implied inner)]
    | some (table .inline _) => none
    | some (table origin inner) =>
      (alterTable change path inner).map fun inner =>
        replaceEntry key (table origin inner) entries
    | some (rows last earlier) =>
      (alterTable change path last).map fun last =>
        replaceEntry key (rows last earlier) entries
    | some _ => none

def openTable (key : String) (entries : Entries) : Option Entries :=
  match entries.lookup key with
  | none => some (entries ++ [(key, table .header [])])
  | some (table .implied inner) => some (replaceEntry key (table .header inner) entries)
  | some _ => none

def openRow (key : String) (entries : Entries) : Option Entries :=
  match entries.lookup key with
  | none => some (entries ++ [(key, rows [] [])])
  | some (rows last earlier) => some (replaceEntry key (rows [] (last :: earlier)) entries)
  | some _ => none

end Toml

end CodeAtlas
