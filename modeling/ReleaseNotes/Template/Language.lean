import ReleaseNotes.Template.Render

/-!
# The language of templates

Templates are written in a language of their own, of which the settings and the pamphlet know three
things only (`Language`): it reads a template, it finds the names that the template looks up, and it
puts the template together with values for them. What is done with these is the same for every
language. `validate` checks a template that may use some names, and `render` fills it in.

`core` is the part of the language that is written out here: the choices, loops and assignments of
`Statement`, the operators of `Expr`, and the filters and tests that have a name in `filters` and
`tests`. A template with any other tag, filter or test is malformed in `core`, and nothing is too
deeply nested for it. The whole language has more of all three, so what is to be true of every
template is stated for a language that is given.
-/

namespace ReleaseNotes.Template

/-- A template that has been read. -/
structure Parsed where
  /-- The names without a meaning of their own that it looks up, if they can be found. -/
  asked : Except Fault (List String)
  /-- What it comes to with the values that a caller gives to names. What it leaves to chance is settled. -/
  text : Context → Except Fault String

/-- A language of templates. -/
structure Language where
  /-- The names that mean something in every template. -/
  ownNames : List String
  /-- Reads a template. -/
  parse : String → Except Fault Parsed

/-- Some names in order, each once. -/
def sortedNames (names : List String) : List String :=
  names.eraseDups.mergeSort

namespace Language

variable (language : Language)

/-- Checks a template that may use the available names. That it is malformed is told if it comes out
when it is read, and not if it comes out when its names are looked for. -/
def validate (available : List String) (template : String) : Except Fault Unit := do
  let parsed ← (language.parse template).mapError Fault.told
  let asked ← parsed.asked.mapError Fault.untold
  match sortedNames (asked.filter fun n => !available.contains n) with
  | [] => .ok ()
  | names => .error (.undeclared names (sortedNames available))

/-- The text of a template that is put together with values for names. -/
def render (template : String) (caller : Context) : Except Fault String :=
  (do (← language.parse template).text caller : Except Fault String).mapError Fault.told

end Language

/-! ### The core of the language -/

/-- The names without a meaning of their own that some statements look up. -/
def wantedNames (found : List Statement) : List String :=
  (askedNames found).filter fun n => !globalNames.contains n

/-- The template that some statements are. -/
def Parsed.ofStatements (found : List Statement) : Parsed where
  asked := (accepted found).map wantedNames
  text caller := accepted found >>= runTemplate caller

/-- The part of the language that is written out here. -/
def core : Language where
  ownNames := selfName :: globalNames
  parse template := (statements template).map Parsed.ofStatements

/-- Checks a template that may use the available names. -/
def validate (available : List String) (template : String) : Except Fault Unit :=
  core.validate available template

/-- The text of a template that is put together with values for names. -/
def render (template : String) (caller : Context) : Except Fault String :=
  core.render template caller

end ReleaseNotes.Template
