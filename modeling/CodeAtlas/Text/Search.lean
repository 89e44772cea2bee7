/-!
# Literal search

Prefixes, substrings, and cutting a text at a character.
-/

namespace CodeAtlas.Text

def startsWith (start text : String) : Bool := start.toList.isPrefixOf text.toList

/-- Whether `needle` occurs in the text; the empty needle occurs in every text. -/
def occursIn (needle : List Char) : List Char → Bool
  | [] => needle.isEmpty
  | c :: rest => needle.isPrefixOf (c :: rest) || occursIn needle rest

/-- The pieces between the occurrences of a separator; one more than there are separators. -/
def splitAt (separator : Char) : List Char → List (List Char)
  | [] => [[]]
  | c :: rest =>
    if c = separator then [] :: splitAt separator rest
    else
      match splitAt separator rest with
      | [] => [[c]]
      | piece :: pieces => (c :: piece) :: pieces

def contains (needle text : String) : Bool := occursIn needle.toList text.toList

end CodeAtlas.Text
