import ReleaseNotes.Terminal.Tag
import ReleaseNotes.Terminal.Width

/-!
# Lines on a terminal

What a terminal shows of a message. A message for people has its tags carried out, loses some control
characters, and has its tabs filled up with spaces (`message`). A line for other programs only loses
the sequences that control a terminal (`plainLine`).
-/

namespace ReleaseNotes.Terminal

/-- A text with a look, between the tags that begin it and end it. -/
def inLook (look s : String) : String :=
  "[" ++ look ++ "]" ++ s ++ "[/" ++ look ++ "]"

/-- How many columns lie between two tab stops. -/
def tabWidth : Nat := 8

/-- Whether a character is left out of messages. -/
def isSilent (c : Char) : Bool :=
  [7, 8, 11, 12, 13].contains c.toNat

/-- A text with its tabs filled up with spaces. `column` is where it begins. -/
def expandTabs (column : Nat) : List Char → List Char
  | [] => []
  | c :: rest =>
    if c == '\n' then c :: expandTabs 0 rest
    else if c == '\t' then
      let next := (column / tabWidth + 1) * tabWidth
      List.replicate (next - column) ' ' ++ expandTabs next rest
    else c :: expandTabs (column + width c) rest

/-- What a terminal shows of a message. -/
def message (s : String) : Except TagFault String :=
  (withoutTags s).map fun shown =>
    String.ofList (expandTabs 0 (shown.toList.filter (!isSilent ·))) ++ "\n"

/-- Whether a character may stand inside of a sequence that controls a terminal. -/
def isSequencePart (c : Char) : Bool :=
  c == ';' || c == '?' || c.isDigit

/-- A text without the sequences that control a terminal. `skip` counts the characters of a sequence
that are still to be passed over. -/
def dropSequences (skip : Nat) : List Char → List Char
  | [] => []
  | c :: rest =>
    if skip != 0 then dropSequences (skip - 1) rest
    else if c == '\x1b' && rest.head? == some '[' then
      let inner := (rest.drop 1).takeWhile isSequencePart
      match rest.drop (1 + inner.length) with
      | last :: _ =>
        if last.isAlpha then dropSequences (inner.length + 2) rest else c :: dropSequences 0 rest
      | [] => c :: dropSequences 0 rest
    else c :: dropSequences 0 rest

/-- What a terminal that is none shows of a line. -/
def plainLine (s : String) : String :=
  String.ofList (dropSequences 0 s.toList) ++ "\n"

end ReleaseNotes.Terminal
