/-!
# Blank characters

Which characters count as blank, and the three things the library does with
them: cutting them off both ends of a text, splitting a text at its runs of
blanks, and asking whether a character is one.

The blanks are the characters of the Unicode category `Zs` and those with the
bidirectional type of a separator or of white space. A line feed, a tab and an
ideographic space are blanks; a zero-width space is not.
-/

namespace ReleaseNotes.Text

/-- The blank characters, as closed ranges of code points in rising order. -/
def blankRanges : List (Nat × Nat) :=
  [(0x09, 0x0D), (0x1C, 0x20), (0x85, 0x85), (0xA0, 0xA0), (0x1680, 0x1680),
   (0x2000, 0x200A), (0x2028, 0x2029), (0x202F, 0x202F), (0x205F, 0x205F),
   (0x3000, 0x3000)]

/-- Whether a code point lies in one of the given closed ranges. -/
def inRanges (ranges : List (Nat × Nat)) (n : Nat) : Bool :=
  ranges.any fun r => r.1 ≤ n && n ≤ r.2

/-- Whether a character is blank. -/
def isBlank (c : Char) : Bool :=
  inRanges blankRanges c.toNat

/-- The longest suffix of a list that ends in an element failing the test. -/
def dropWhileEnd {α : Type} (p : α → Bool) (xs : List α) : List α :=
  (xs.reverse.dropWhile p).reverse

/-- A text without the blanks at its two ends. -/
def trim (cs : List Char) : List Char :=
  dropWhileEnd isBlank (cs.dropWhile isBlank)

/-- Whether a character is white space. The separators just below the space are blank, but no white
space. -/
def isWhite (c : Char) : Bool :=
  isBlank c && !(0x1C ≤ c.toNat && c.toNat ≤ 0x1F)

/-- A text without the white space at its two ends. -/
def trimWhite (cs : List Char) : List Char :=
  dropWhileEnd isWhite (cs.dropWhile isWhite)

/-- The runs of non-blank characters of a text, the first of them begun with the
characters of `run`, which are held newest first. -/
def wordsFrom (run : List Char) : List Char → List (List Char)
  | [] => if run.isEmpty then [] else [run.reverse]
  | c :: rest =>
    if isBlank c then
      if run.isEmpty then wordsFrom [] rest else run.reverse :: wordsFrom [] rest
    else wordsFrom (c :: run) rest

/-- The maximal runs of non-blank characters of a text, in order. -/
def words (cs : List Char) : List (List Char) :=
  wordsFrom [] cs

/-- A text whose runs of blanks are single spaces and whose ends are not blank. -/
def joinWords (s : String) : String :=
  String.intercalate " " ((words s.toList).map String.ofList)

/-- What follows the last occurrence of a character in a text, or the whole text. -/
def afterLast (c : Char) (cs : List Char) : List Char :=
  (cs.reverse.takeWhile (· != c)).reverse

/-- A text without the slashes at its end. -/
def dropSlashes (s : String) : String :=
  String.ofList (dropWhileEnd (· == '/') s.toList)

end ReleaseNotes.Text
