import ReleaseNotes.Template.Grammar

/-!
# Reading statements

A template's pieces become statements in two steps. Each piece is read by itself, which
makes marks of it: a finished statement, or the beginning, the middle or the end of one that
holds others (`Mark.ofPiece`). Then the marks are nested, with the statements that are still
open held innermost first (`nest`).
-/

namespace ReleaseNotes.Template

/-- What a piece is in the nesting of statements. -/
inductive Mark where
  /-- A finished statement. -/
  | statement (s : Statement)
  /-- The beginning of a choice. -/
  | branch (test : Expr)
  /-- A further test of a choice. -/
  | elseBranch (test : Expr)
  /-- The beginning of the alternative of a choice or a loop. -/
  | otherwise
  /-- The end of a choice. -/
  | endBranch
  /-- The beginning of a loop. -/
  | loop (target : Target) (source : Expr) (test? : Option Expr)
  /-- The end of a loop. -/
  | endLoop

mutual

/-- The target that an expression is, if it is one. -/
def Target.ofExpr? : Expr → Option Target
  | .name n => some (.name n)
  | .tuple items => (targetsOf? items).map .several
  | _ => none

/-- The targets that some expressions are, if all of them are targets. -/
def targetsOf? : List Expr → Option (List Target)
  | [] => some []
  | e :: rest =>
    match Target.ofExpr? e, targetsOf? rest with
    | some target, some targets => some (target :: targets)
    | _, _ => none

end

/-- The items of a target, each a value by itself, and whether a comma makes a tuple of them. -/
def readTargetItems :
    Nat → List String → List Token → Except Fault (List Expr × Bool × List Token)
  | 0, _, _ => .error tooDeep
  | n + 1, words, ts =>
    if endsTuple words ts then .ok ([], false, ts)
    else
      match readPrimary (supply ts) ts with
      | .error fault => .error fault
      | .ok (e, .sign "," :: rest) =>
        match readTargetItems n words rest with
        | .error fault => .error fault
        | .ok (items, _, rest) => .ok (e :: items, true, rest)
      | .ok (e, rest) => .ok ([e], false, rest)

/-- The target that begins some tokens, and the tokens after it. -/
def readTarget (words : List String) (ts : List Token) : Except Fault (Target × List Token) :=
  match readTargetItems (supply ts) words ts with
  | .error fault => .error fault
  | .ok (items, isTuple, rest) =>
    if items.isEmpty then .error noExpression
    else match Target.ofExpr? (tupleOf items isTuple) with
      | some target => .ok (target, rest)
      | none => .error (.malformed "can't assign to an expression")

/-- Refuses tokens that are left over at the end of a tag. -/
def atEnd {α : Type} (found : α) (rest : List Token) : Except Fault α :=
  if rest.isEmpty then .ok found else .error (.malformed "expected the end of the tag")

/-- Refuses tokens that are left over at the end of a tag that begins a body, where a colon may
stand. -/
def atBody {α : Type} (found : α) : List Token → Except Fault α
  | .sign ":" :: rest => atEnd found rest
  | rest => atEnd found rest

/-- The beginning of a loop, from after its first word on. -/
def readLoop (ts : List Token) : Except Fault Mark := do
  let (target, rest) ← readTarget ["in"] ts
  match rest with
  | .name "in" :: rest => do
    let (source, rest) ← readExpression .either ["recursive"] rest
    match rest with
    | .name "if" :: rest => do
      let (test, rest) ← readLevel (supply rest) .choice rest
      atBody (.loop target source (some test)) rest
    | rest => atBody (.loop target source none) rest
  | _ => .error (.malformed "expected in")

/-- A value given to a target, from after the first word on. -/
def readAssignment (ts : List Token) : Except Fault Mark := do
  let (target, rest) ← readTarget [] ts
  let rest ← expect "=" rest
  let (e, rest) ← readExpression .choice [] rest
  atEnd (.statement (.assign target e)) rest

/-- The mark that a directive is. The whole language has more directives. -/
def readDirective : List Token → Except Fault Mark
  | .name word :: rest =>
    if word == "if" then do
      let (test, rest) ← readExpression .either [] rest
      atBody (.branch test) rest
    else if word == "elif" then do
      let (test, rest) ← readExpression .either [] rest
      atBody (.elseBranch test) rest
    else if word == "else" then atBody .otherwise rest
    else if word == "endif" then atEnd .endBranch rest
    else if word == "for" then readLoop rest
    else if word == "endfor" then atEnd .endLoop rest
    else if word == "set" then readAssignment rest
    else .error (.malformed ("Encountered unknown tag '" ++ word ++ "'."))
  | _ => .error (.malformed "tag name expected")

/-- The mark that a piece is. -/
def Mark.ofPiece : Piece → Except Fault Mark
  | .text s => .ok (.statement (.text s))
  | .output tokens => do
    let (e, rest) ← readExpression .choice [] tokens
    atEnd (.statement (.output e)) rest
  | .directive tokens => readDirective tokens

/-! ### Nesting -/

/-- A statement that is still open, with what comes before it in the body around it, newest
first. -/
inductive Opened where
  /-- A choice in its first body. -/
  | branch (test : Expr) (before : List Statement)
  /-- A choice in its alternative, which has a further test. Its first body is known. -/
  | elseBranch (test : Expr) (body before : List Statement)
  /-- A choice in its alternative. Its first body is known. -/
  | branchOtherwise (test : Expr) (body before : List Statement)
  /-- A loop in its body. -/
  | loop (target : Target) (source : Expr) (test? : Option Expr) (before : List Statement)
  /-- A loop in its alternative. Its body is known. -/
  | loopOtherwise (target : Target) (source : Expr) (test? : Option Expr)
      (body before : List Statement)

/-- The fault of a word that continues or ends nothing. -/
def misplaced (word : String) : Fault :=
  .malformed ("Encountered unknown tag '" ++ word ++ "'.")

/-- Closes the choices whose alternative a finished choice is: the statements of the body around
all of them, newest first, and what is still open around that. -/
def closeChain (before : List Statement) (s : Statement) :
    List Opened → List Statement × List Opened
  | .elseBranch test body older :: outer => closeChain older (.branch test body [s]) outer
  | outer => (s :: before, outer)

/-- The statements that some marks are when they are nested. `before` holds those of the body that
is being read, newest first; `outer` the statements around it that are still open. -/
def nest (outer : List Opened) (before : List Statement) :
    List Mark → Except Fault (List Statement)
  | [] =>
    match outer with
    | [] => .ok before.reverse
    | _ => .error (.malformed "Unexpected end of template.")
  | mark :: rest =>
    match mark, outer with
    | .statement s, outer => nest outer (s :: before) rest
    | .branch test, outer => nest (.branch test before :: outer) [] rest
    | .loop target source test?, outer => nest (.loop target source test? before :: outer) [] rest
    | .elseBranch test, .branch first older :: outer =>
      nest (.branch test [] :: .elseBranch first before.reverse older :: outer) [] rest
    | .otherwise, .branch test older :: outer =>
      nest (.branchOtherwise test before.reverse older :: outer) [] rest
    | .otherwise, .loop target source test? older :: outer =>
      nest (.loopOtherwise target source test? before.reverse older :: outer) [] rest
    | .endBranch, .branch test older :: outer =>
      let (before, outer) := closeChain older (.branch test before.reverse []) outer
      nest outer before rest
    | .endBranch, .branchOtherwise test body older :: outer =>
      let (before, outer) := closeChain older (.branch test body before.reverse) outer
      nest outer before rest
    | .endLoop, .loop target source test? older :: outer =>
      nest outer (.loop target source test? before.reverse [] :: older) rest
    | .endLoop, .loopOtherwise target source test? body older :: outer =>
      nest outer (.loop target source test? body before.reverse :: older) rest
    | .elseBranch _, _ => .error (misplaced "elif")
    | .otherwise, _ => .error (misplaced "else")
    | .endBranch, _ => .error (misplaced "endif")
    | .endLoop, _ => .error (misplaced "endfor")

/-- The statements of a template. -/
def statements (template : String) : Except Fault (List Statement) := do
  let found ← pieces template
  let marks ← found.mapM Mark.ofPiece
  nest [] [] marks

end ReleaseNotes.Template
