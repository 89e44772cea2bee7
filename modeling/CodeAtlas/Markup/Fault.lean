import CodeAtlas.Text.Number

/-!
# Faults of a marked-up document

What may be wrong with a document, with the wording of each fault. Positions count bytes: from the
start of the document for the reader's faults, from the start of the tag's content for faults of
attributes, and from the start of the raw value for faults of references.
-/

namespace CodeAtlas.Markup

inductive Construct where
  | tag
  | comment
  | cdata
  | doctype
  | instruction
  deriving DecidableEq, Repr

def Construct.unclosedMessage : Construct → String
  | tag => "tag not closed: `>` not found before end of input"
  | comment => "comment not closed: `-->` not found before end of input"
  | cdata => "CDATA not closed: `]]>` not found before end of input"
  | doctype => "DOCTYPE not closed: `>` not found before end of input"
  | instruction =>
    "processing instruction or xml declaration not closed: `?>` not found before end of input"

inductive ReadFault where
  | unclosed (construct : Construct)
  | unknownMarkup
  | namelessDoctype
  | mismatchedEnd (expected found : String)
  | unmatchedEnd (found : String)
  deriving DecidableEq, Repr

def ReadFault.message : ReadFault → String
  | unclosed construct => "syntax error: " ++ construct.unclosedMessage
  | unknownMarkup => "syntax error: unknown or missed symbol in markup"
  | namelessDoctype =>
    "ill-formed document: `<!DOCTYPE>` declaration does not contain a name of a document type"
  | mismatchedEnd expected found =>
    "ill-formed document: expected `</" ++ expected ++ ">`, but `</" ++ found ++ ">` was found"
  | unmatchedEnd found =>
    "ill-formed document: close tag `</" ++ found ++ ">` does not match any open tag"

inductive AttributeFault where
  | keyAlone (position : Nat)
  | valueMissing (position : Nat)
  | valueUnquoted (position : Nat)
  | quoteMissing (position : Nat) (quote : Char)
  deriving DecidableEq, Repr

def AttributeFault.message : AttributeFault → String
  | keyAlone p =>
    "position " ++ toString p ++ ": attribute key must be directly followed by `=` or space"
  | valueMissing p => "position " ++ toString p ++ ": `=` must be followed by an attribute value"
  | valueUnquoted p =>
    "position " ++ toString p ++ ": attribute value must be enclosed in `\"` or `'`"
  | quoteMissing p quote =>
    "position " ++ toString p ++ ": missing closing quote `" ++ quote.toString ++
      "` in attribute value"

inductive ReferenceFault where
  | unterminated (first last : Nat)
  | unrecognized (first last : Nat) (name : String)
  | signed
  | number (fault : Text.NumberFault)
  | nul
  | notACharacter (code : Nat)
  deriving DecidableEq, Repr

private def rangeText (first last : Nat) : String := toString first ++ ".." ++ toString last

def ReferenceFault.message : ReferenceFault → String
  | unterminated first last =>
    "Error while escaping character at range " ++ rangeText first last ++
      ": Cannot find ';' after '&'"
  | unrecognized first last name =>
    "at " ++ rangeText first last ++ ": unrecognized entity `" ++ name ++ "`"
  | signed => "invalid character reference: unexpected number sign"
  | number fault => "invalid character reference: " ++ fault.message
  | nul => "invalid character reference: 0x0 character is not permitted in XML"
  | notACharacter code =>
    "invalid character reference: `" ++ toString code ++ "` is not a valid codepoint"

inductive Fault where
  | reader (position : Nat) (fault : ReadFault)
  | tag (fault : AttributeFault)
  | entity (fault : ReferenceFault)
  | multipleRoots
  | unclosedElements (count : Nat)
  | rootMissing
  deriving DecidableEq, Repr

def Fault.message : Fault → String
  | reader position fault => "at byte " ++ toString position ++ ": " ++ fault.message
  | tag fault => fault.message
  | entity fault => fault.message
  | multipleRoots => "multiple root elements"
  | unclosedElements count => toString count ++ " unclosed element(s) at end of input"
  | rootMissing => "root element is missing"

end CodeAtlas.Markup
