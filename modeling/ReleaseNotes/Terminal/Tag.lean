import ReleaseNotes.Text.Case
import ReleaseNotes.Text.Blank

/-!
# Tags in messages

A message may carry tags that say how it is to look, such as `[dim]` and `[/dim]`. A plain terminal
shows none of them, so a message is shown without its tags (`withoutTags`). A tag that closes nothing
is a fault. A text that is not to be read for tags is escaped first (`escaped`): a backslash in front
of a tag makes it plain text, and two backslashes there are one.

What is closed is compared by its name, up to case, the blanks around it and the short form of a single word.
That is exact for looks of one word. A look of several words (`bold red`), whose words may stand in another order
where it is closed, and a tag that begins with `@`, which asks for something to be done, are taken here for looks
whose name is all that stands in the tag.
-/

namespace ReleaseNotes.Terminal

/-- A tag that closes nothing that is open. -/
structure TagFault where
  /-- What stands between the brackets. -/
  tag : String
  deriving DecidableEq, Repr

/-- The wording of a fault. -/
def TagFault.message (f : TagFault) : String :=
  "closing tag '[" ++ f.tag ++ "]' has nothing to close"

/-- Whether a character may begin a tag. -/
def beginsTag (c : Char) : Bool :=
  c.isLower || c == '#' || c == '/' || c == '@'

/-- What stands between the brackets of a tag, read from after its first character on, and what
follows the tag. -/
def takeTagRest : List Char → Option (List Char × List Char)
  | [] => none
  | c :: rest =>
    if c == ']' then some ([], rest)
    else if c == '[' then none
    else (takeTagRest rest).map fun (inner, after) => (c :: inner, after)

/-- What stands between the brackets of a tag at the start of a text, and what follows the tag. -/
def takeTag : List Char → Option (List Char × List Char)
  | '[' :: c :: rest =>
    if beginsTag c then (takeTagRest rest).map fun (inner, after) => (c :: inner, after) else none
  | _ => none

/-- A part of a message. -/
inductive Part where
  /-- A character that is shown. -/
  | shown (c : Char)
  /-- A tag, and how many backslashes stand right before it. -/
  | tag (backslashes : Nat) (inner : List Char)
  deriving DecidableEq, Repr

/-- The parts of a message from a place where no backslash stands before. `backslashes` counts those
that have been passed, and `skip` the characters that are part of a tag which is known already. -/
def partsFrom (backslashes skip : Nat) : List Char → List Part
  | [] => List.replicate backslashes (.shown '\\')
  | c :: rest =>
    if skip != 0 then partsFrom 0 (skip - 1) rest
    else if c == '\\' then partsFrom (backslashes + 1) 0 rest
    else match takeTag (c :: rest) with
      | some (inner, _) => .tag backslashes inner :: partsFrom 0 (inner.length + 1) rest
      | none =>
        List.replicate backslashes (.shown '\\') ++ .shown c :: partsFrom 0 0 rest

/-- The parts of a message. -/
def parts (s : String) : List Part :=
  partsFrom 0 0 s.toList

/-! ### Escaping -/

/-- A tag with its brackets. -/
def bracketed (inner : List Char) : List Char :=
  '[' :: inner ++ [']']

/-- A part of a text as it is written so that it is not read for tags. -/
def Part.escaped : Part → List Char
  | .shown c => [c]
  | .tag n inner => List.replicate (2 * n + 1) '\\' ++ bracketed inner

/-- Whether a text ends in a single backslash. -/
def endsSingle (cs : List Char) : Bool :=
  match cs.reverse with
  | '\\' :: '\\' :: _ => false
  | '\\' :: _ => true
  | _ => false

/-- A text as it is written so that it is not read for tags. -/
def escaped (s : String) : String :=
  let cs := (parts s).flatMap Part.escaped
  String.ofList (if endsSingle cs then cs ++ ['\\'] else cs)

/-! ### Showing -/

/-- The short names of looks. -/
def shortNames : List (String × String) :=
  [("b", "bold"), ("d", "dim"), ("i", "italic"), ("u", "underline"), ("r", "reverse"),
   ("c", "conceal"), ("s", "strike"), ("uu", "underline2"), ("o", "overline")]

/-- The name of a look as it is compared. -/
def lookName (cs : List Char) : String :=
  let name := String.ofList (Text.lower (Text.trim cs))
  (shortNames.lookup name).getD name

/-- The names that are still open after a tag. -/
def afterTag (opened : List String) (inner : List Char) : Except TagFault (List String) :=
  let name := inner.takeWhile (· != '=')
  match name with
  | '/' :: closed =>
    let fault := TagFault.mk (String.ofList inner)
    if (Text.trim closed).isEmpty then
      match opened with
      | [] => .error fault
      | _ :: others => .ok others
    else if opened.contains (lookName closed) then .ok (opened.erase (lookName closed))
    else .error fault
  | _ => .ok (lookName name :: opened)

/-- Text without the backslashes that stand before a bracket. -/
def dropBefore : List Char → List Char
  | '\\' :: '[' :: rest => '[' :: dropBefore rest
  | c :: rest => c :: dropBefore rest
  | [] => []

/-- The runs of text that some parts show, with the tags between them carried out. `run` holds the
run that has begun, newest character first. -/
def shownFrom (opened : List String) (run : List Char) : List Part → Except TagFault (List (List Char))
  | [] => .ok [run.reverse]
  | .shown c :: rest => shownFrom opened (c :: run) rest
  | .tag n inner :: rest =>
    let slashes := List.replicate (n / 2) '\\'
    if n % 2 == 1 then
      (shownFrom opened [] rest).map fun runs =>
        run.reverse :: slashes :: bracketed inner :: runs
    else do
      let opened ← afterTag opened inner
      let runs ← shownFrom opened [] rest
      .ok (run.reverse :: slashes :: runs)

/-- A message without its tags. -/
def withoutTags (s : String) : Except TagFault String :=
  if !s.toList.contains '[' then .ok s
  else (shownFrom [] [] (parts s)).map fun runs => String.ofList (runs.flatMap dropBefore)

end ReleaseNotes.Terminal
