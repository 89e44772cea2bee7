import CodeAtlas.Text.Case
import CodeAtlas.Text.WidthTable

/-!
# Display width

The number of columns that a line takes on a terminal. Wide characters take two and marks none; an emoji
that is written with several characters takes two as a whole.
-/

namespace CodeAtlas.Text

def isEmoji (c : Char) : Bool := inRanges emojiRanges c.toNat

def isTextEmoji (c : Char) : Bool := inRanges textEmojiRanges c.toNat

def isModifierBase (c : Char) : Bool := inRanges modifierBaseRanges c.toNat

def isSkinTone (c : Char) : Bool := 0x1f3fb ≤ c.toNat && c.toNat ≤ 0x1f3ff

def isFlagLetter (c : Char) : Bool := 0x1f1e6 ≤ c.toNat && c.toNat ≤ 0x1f1ff

def emojiSelector : Char := '\ufe0f'

def textSelector : Char := '\ufe0e'

def joiner : Char := '\u200d'

def hasPlainForm (c : Char) : Bool := inRanges plainFormRanges c.toNat

def charWidth (c : Char) : Nat :=
  if c.toNat < 0x20 then 0
  else if c.toNat < 0x7f then 1
  else if c.toNat < 0xa0 || inRanges zeroWidthRanges c.toNat then 0
  else if inRanges wideRanges c.toNat then 2
  else if c.toNat = 0x17d8 then 3
  else 1

/-- How many characters the emoji at the start of a text is written with, without joined ones. -/
def emojiSize? : List Char → Option Nat
  | c :: d :: _ =>
    if isFlagLetter c then if isFlagLetter d then some 2 else none
    else if isModifierBase c && isSkinTone d then some 2
    else if d == emojiSelector && (isEmoji c || isTextEmoji c) then some 2
    else if isEmoji c && !(d == textSelector && hasPlainForm c) then some 1
    else none
  | [c] => if isEmoji c && !isFlagLetter c then some 1 else none
  | [] => none

/-- The width of what is left of a line, when `counted` more characters belong to an emoji that has
been counted, and `afterEmoji` says that one ends here. -/
def widthFrom (counted : Nat) (afterEmoji : Bool) : List Char → Nat
  | [] => 0
  | c :: rest =>
    match counted with
    | n + 1 => widthFrom n afterEmoji rest
    | 0 =>
      if afterEmoji && c == joiner then
        match emojiSize? rest with
        | some n => widthFrom n true rest
        | none => widthFrom 0 false rest
      else
        match emojiSize? (c :: rest) with
        | some n => 2 + widthFrom (n - 1) true rest
        | none =>
          let plain := rest.head? = some textSelector ∧ hasPlainForm c
          (if plain then 1 else charWidth c) + widthFrom 0 false rest

def lineWidth (line : List Char) : Nat := widthFrom 0 false line

end CodeAtlas.Text
