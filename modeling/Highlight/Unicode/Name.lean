/-
Code points by their names, after the Unicode standard, version 14.

Names are listed, or follow from the number of the code point, or are
spelled by its parts. A listed name and one that ends in the number may
be written in small letters too; the names of the unified ideographs and
of the Hangul syllables may not. A name of several code points is none of
these, and the Tangut ideographs go without one.
-/
import Highlight.Text.Digits
import Highlight.Unicode.Ranges
import Highlight.Unicode.Name.Hangul
import Highlight.Unicode.Name.Alias
import Highlight.Unicode.Name.FromLatin
import Highlight.Unicode.Name.FromMyanmar
import Highlight.Unicode.Name.Symbols
import Highlight.Unicode.Name.FromGlagolitic
import Highlight.Unicode.Name.Forms
import Highlight.Unicode.Name.FromLinearB
import Highlight.Unicode.Name.FromHieroglyphs
import Highlight.Unicode.Name.Pictures
import Highlight.Unicode.Name.Tags

namespace Highlight.Unicode

-- ======================================================= numbered names

/-- The unified ideographs. -/
def unifiedIdeographs : Ranges :=
  [(0x3400, 0x4DBF), (0x4E00, 0x9FFF), (0x20000, 0x2A6DF),
   (0x2A700, 0x2B738), (0x2B740, 0x2B81D), (0x2B820, 0x2CEA1),
   (0x2CEB0, 0x2EBE0), (0x30000, 0x3134A)]

/-- The unified ideograph with a number of four or five digits, none of
them a small letter. -/
def unifiedIdeograph? (ds : Text) : Option Nat := do
  guard (ds.length = 4 ∨ ds.length = 5)
  guard (!ds.any Char.isLower)
  let n ← Text.hexNumber? ds
  guard (unifiedIdeographs.mem n)
  return n

/-- Code points whose names are a stem and their number. -/
structure NumberedNames where
  stem : String
  ranges : Ranges
deriving DecidableEq, Repr

/-- The code point with a name in capital letters; its number has no zero
in front. -/
def NumberedNames.find? (f : NumberedNames) (name : Text) :
    Option Nat := do
  guard (f.stem.toList.isPrefixOf name)
  let ds := name.drop f.stem.length
  guard (ds.head? ≠ some '0')
  let n ← Text.hexNumber? ds
  guard (f.ranges.mem n)
  return n

def numberedNames : List NumberedNames :=
  [⟨"CJK COMPATIBILITY IDEOGRAPH-",
      [(0xF900, 0xFA6D), (0xFA70, 0xFAD9), (0x2F800, 0x2FA1D)]⟩,
   ⟨"KHITAN SMALL SCRIPT CHARACTER-", [(0x18B00, 0x18CD5)]⟩,
   ⟨"NUSHU CHARACTER-", [(0x1B170, 0x1B2FB)]⟩]

-- ========================================================= listed names

/-- All listed names. -/
def listedNames : List (List NameRun) :=
  [namesFromLatin, aliases, namesOfSymbols, namesFromMyanmar,
   namesFromGlagolitic, namesOfForms, namesFromLinearB,
   namesFromHieroglyphs, namesOfPictures, namesOfTags]

/-- The code point with a listed name. -/
def listed? (name : Text) : Option Nat :=
  let words := Text.cut ' ' name
  listedNames.findSome? fun runs => runs.findSome? (·.find? words)

-- =============================================================== look-up

/-- The stem of the unified ideographs. -/
def ideographStem : Text := "CJK UNIFIED IDEOGRAPH-".toList

/-- The stem of the Hangul syllables. -/
def syllableStem : Text := "HANGUL SYLLABLE ".toList

/-- The code point with a name. -/
def codeOfName? (name : Text) : Option Nat :=
  if syllableStem.isPrefixOf name then
    Hangul.find? (name.drop syllableStem.length)
  else if ideographStem.isPrefixOf name then
    unifiedIdeograph? (name.drop ideographStem.length)
  else
    let capitals := name.map Char.toUpper
    (numberedNames.findSome? (·.find? capitals)).or (listed? capitals)

end Highlight.Unicode
