import ReleaseNotes.Template.Expression

/-!
# Scopes

Which names a template uses, and where each of them gets its value. The body of a template
and each body of a loop is a frame. Before anything in a frame is carried out, all its names
are settled: a name that is used in it, or given a value in it, belongs to the frame unless a
frame around it has the name already, and it starts out with the value that it has around the
frame, with the value that the caller gives it, or with none (`Origin`). So a name that gets a
value late in a frame belongs to the frame from its beginning on.

A branch of a choice has no frame of its own. A name that gets a value only there has, as long
as the branch is not taken, the value that the caller gives it.
-/

namespace ReleaseNotes.Template

/-- Where a name of a frame gets its first value. -/
inductive Origin where
  /-- The frame is entered with a value for it. -/
  | given
  /-- A frame around has the name. -/
  | around
  /-- The caller of the template has it. -/
  | caller
  /-- Nowhere. -/
  | nowhere
  deriving DecidableEq, Repr

/-- The names of a frame, in the order in which they are come upon. -/
abbrev Names := List (String × Origin)

/-- The names of the frames around a frame, innermost first. -/
abbrev Scope := List (List String)

/-- Whether a frame has a name. -/
def Names.has (own : Names) (n : String) : Bool :=
  own.any (·.1 == n)

/-- Whether some frame has a name. -/
def Scope.has (outer : Scope) (n : String) : Bool :=
  outer.any (·.contains n)

/-- Settles a name that is used. -/
def Names.use (outer : Scope) (own : Names) (n : String) : Names :=
  if own.has n || outer.has n then own else own ++ [(n, .caller)]

/-- Settles a name that is given a value. -/
def Names.give (outer : Scope) (inBranch : Bool) (own : Names) (n : String) : Names :=
  if own.has n then own
  else if outer.has n then own ++ [(n, .around)]
  else own ++ [(n, if inBranch then .caller else .nowhere)]

/-! ### The names in expressions and targets -/

mutual

/-- The names that an expression uses, in order. -/
def Expr.names : Expr → List String
  | .constant _ => []
  | .name n => [n]
  | .list items => namesOfAll items
  | .tuple items => namesOfAll items
  | .table keys values => namesOfAll keys ++ namesOfAll values
  | .attribute whole _ => whole.names
  | .item whole key => whole.names ++ key.names
  | .slice whole start stop step => whole.names ++ start.names ++ stop.names ++ step.names
  | .unary _ e => e.names
  | .binary _ left right => left.names ++ right.names
  | .joined items => namesOfAll items
  | .both left right => left.names ++ right.names
  | .either left right => left.names ++ right.names
  | .negation e => e.names
  | .comparison first _ rest => first.names ++ namesOfAll rest
  | .choice value test otherwise => test.names ++ value.names ++ otherwise.names
  | .filter e _ arguments _ => e.names ++ namesOfAll arguments
  | .test e _ arguments _ => e.names ++ namesOfAll arguments
  | .call function arguments _ => function.names ++ namesOfAll arguments

/-- The names that some expressions use, in order. -/
def namesOfAll : List Expr → List String
  | [] => []
  | e :: rest => e.names ++ namesOfAll rest

end

mutual

/-- The names that a target gives values to. -/
def Target.names : Target → List String
  | .name n => [n]
  | .several targets => namesOfTargets targets

/-- The names that some targets give values to. -/
def namesOfTargets : List Target → List String
  | [] => []
  | t :: rest => t.names ++ namesOfTargets rest

end

/-! ### The names of a frame -/

mutual

/-- Settles the names of a statement in the frame it stands in. The bodies of a loop are frames of
their own. -/
def Statement.settle (outer : Scope) (inBranch : Bool) (own : Names) : Statement → Names
  | .text _ => own
  | .output e => e.names.foldl (Names.use outer) own
  | .branch test body otherwise =>
    let own := test.names.foldl (Names.use outer) own
    settleAll outer true (settleAll outer true own body) otherwise
  | .loop _ source _ _ _ => source.names.foldl (Names.use outer) own
  | .assign target e =>
    target.names.foldl (Names.give outer inBranch) (e.names.foldl (Names.use outer) own)

/-- Settles the names of some statements. -/
def settleAll (outer : Scope) (inBranch : Bool) (own : Names) : List Statement → Names
  | [] => own
  | s :: rest => settleAll outer inBranch (s.settle outer inBranch own) rest

end

/-- The name of the state of a loop. -/
def loopName : String := "loop"

/-- The name of the template itself. -/
def selfName : String := "self"

mutual

/-- Whether a statement, or one inside of it, uses a name. -/
def Statement.uses (n : String) : Statement → Bool
  | .text _ => false
  | .output e => e.names.contains n
  | .branch test body otherwise =>
    test.names.contains n || usedInAny n body || usedInAny n otherwise
  | .loop _ source test? body otherwise =>
    source.names.contains n || ((test?.map Expr.names).getD []).contains n || usedInAny n body ||
      usedInAny n otherwise
  | .assign _ e => e.names.contains n

/-- Whether some statements use a name. -/
def usedInAny (n : String) : List Statement → Bool
  | [] => false
  | s :: rest => s.uses n || usedInAny n rest

end

/-- The names with which the body of a loop is entered: the state of the loop, if the body uses it,
and those of the target. -/
def turnNames (target : Target) (body : List Statement) : Names :=
  let names := if usedInAny loopName body then loopName :: target.names else target.names
  names.map fun n => (n, .given)

/-- The names of the frame of the body of a loop. -/
def bodyNames (outer : Scope) (target : Target) (body : List Statement) : Names :=
  settleAll outer false (turnNames target body) body

/-- The names of the frame in which the test of a loop is made. -/
def testNames (outer : Scope) (target : Target) (test : Expr) : Names :=
  test.names.foldl (Names.use outer) (target.names.map fun n => (n, .given))

/-- The names of the frame of the whole template. -/
def templateNames (statements : List Statement) : Names :=
  let first : Names := if usedInAny selfName statements then [(selfName, .given)] else []
  settleAll [] false first statements

/-! ### Names that the caller must give -/

/-- The names of a frame that the caller must give. -/
def Names.asked (own : Names) : List String :=
  (own.filter fun e => e.2 == .caller).map Prod.fst

mutual

/-- The names that the caller must give for the frames inside of a statement. -/
def Statement.asked (outer : Scope) : Statement → List String
  | .text _ => []
  | .output _ => []
  | .branch _ body otherwise => askedByAll outer body ++ askedByAll outer otherwise
  | .loop target _ test? body otherwise =>
    let inner := bodyNames outer target body
    let other := settleAll outer false [] otherwise
    let tested := (test?.map (testNames outer target)).getD []
    tested.asked ++ inner.asked ++ askedByAll (inner.map Prod.fst :: outer) body ++
      other.asked ++ askedByAll (other.map Prod.fst :: outer) otherwise
  | .assign _ _ => []

/-- The names that the caller must give for the frames inside of some statements. -/
def askedByAll (outer : Scope) : List Statement → List String
  | [] => []
  | s :: rest => s.asked outer ++ askedByAll outer rest

end

/-- The names that the caller of a template must give. -/
def askedNames (statements : List Statement) : List String :=
  let own := templateNames statements
  own.asked ++ askedByAll [own.map Prod.fst] statements

end ReleaseNotes.Template
