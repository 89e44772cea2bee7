import CodeAtlas.Config.Basic
import CodeAtlas.Text.Search

/-!
# Failures of commands

What a command may fail with, and the report of a failure: its message, and below it the causes that it
wraps.
-/

namespace CodeAtlas.Cli

inductive Failure where
  | config (fault : ConfigFault)
  | file (fault : FileFault)
  | library (error : Error)
  | unknownModule (id : String)
  | noNetwork
  deriving DecidableEq, Repr

namespace Failure

def message : Failure → String
  | config fault => fault.message
  | file fault => fault.message
  | library error => error.message
  | unknownModule id => "Module not found: " ++ id
  | noNetwork => "no network to listen on"

def causes : Failure → List String
  | library error => error.causes
  | _ => []

def setIn (margin text : String) : String :=
  String.intercalate ("\n" ++ margin) ((Text.splitAt '\n' text.toList).map String.ofList)

def numbered (cause : String × Nat) : String :=
  let number := toString cause.2
  let blanks := String.ofList (List.replicate (5 - number.length) ' ')
  blanks ++ number ++ ": " ++ setIn "       " cause.1

def causesText : List String → String
  | [] => ""
  | [cause] => "\n\nCaused by:\n    " ++ setIn "    " cause
  | causes => "\n\nCaused by:\n" ++ String.intercalate "\n" (causes.zipIdx.map numbered)

def report (f : Failure) : String :=
  match f with
  | config .malformed => "Error: " ++ f.message
  | _ => "Error: " ++ f.message ++ causesText f.causes ++ "\n"

end Failure

end CodeAtlas.Cli
