/-
The names of the Hangul syllables. A syllable is a lead, a vowel and
perhaps a tail, and its name spells them one behind the other; the code
points go through all combinations in order. One lead and the absent tail
have an empty spelling, so a name is read by the longest spelling at each
place.
-/
import Highlight.Text.Basic

namespace Highlight.Unicode.Hangul

def leads : List String :=
  ["G", "GG", "N", "D", "DD", "R", "M", "B", "BB", "S", "SS", "", "J",
   "JJ", "C", "K", "T", "P", "H"]

def vowels : List String :=
  ["A", "AE", "YA", "YAE", "EO", "E", "YEO", "YE", "O", "WA", "WAE", "OE",
   "YO", "U", "WEO", "WE", "WI", "YU", "EU", "YI", "I"]

def tails : List String :=
  ["", "G", "GG", "GS", "N", "NJ", "NH", "D", "L", "LG", "LM", "LB", "LS",
   "LT", "LP", "LH", "M", "B", "BS", "S", "SS", "NG", "J", "C", "K", "T",
   "P", "H"]

/-- The place of the longest spelling with which a text begins, and the
text behind it. -/
def longest? (spellings : List String) (t : Text) :
    Option (Nat × Text) :=
  let fitting := spellings.zipIdx.filter fun s => s.1.toList.isPrefixOf t
  let better (best s : String × Nat) :=
    if best.1.length < s.1.length then s else best
  match fitting with
  | [] => none
  | s :: more =>
    let (spelling, place) := more.foldl better s
    some (place, t.drop spelling.length)

/-- The syllable with a spelling. -/
def find? (spelling : Text) : Option Nat := do
  let (lead, r) ← longest? leads spelling
  let (vowel, r) ← longest? vowels r
  let (tail, r) ← longest? tails r
  guard r.isEmpty
  return 0xAC00 + (lead * vowels.length + vowel) * tails.length + tail

end Highlight.Unicode.Hangul
