import ReleaseNotes.Template.Filter
import ReleaseNotes.Template.Scope
import ReleaseNotes.Template.Statements

/-!
# Checking statements

Statements that have been read are checked before they are used: outside of choices every filter and
every test in them must exist, and nothing inside of a loop may give a value to the name of the
loop's state (`accepted`).
-/

namespace ReleaseNotes.Template

mutual

/-- The filters and tests of an expression that do not exist. Those in a choice do not count. -/
def Expr.strangers : Expr → List String
  | .constant _ => []
  | .name _ => []
  | .list items => strangersOfAll items
  | .tuple items => strangersOfAll items
  | .table keys values => strangersOfAll keys ++ strangersOfAll values
  | .attribute whole _ => whole.strangers
  | .item whole key => whole.strangers ++ key.strangers
  | .slice whole start stop step =>
    whole.strangers ++ start.strangers ++ stop.strangers ++ step.strangers
  | .unary _ e => e.strangers
  | .binary _ left right => left.strangers ++ right.strangers
  | .joined items => strangersOfAll items
  | .both left right => left.strangers ++ right.strangers
  | .either left right => left.strangers ++ right.strangers
  | .negation e => e.strangers
  | .comparison first _ rest => first.strangers ++ strangersOfAll rest
  | .choice _ _ _ => []
  | .filter e name arguments _ =>
    (if isFilter name then [] else [name]) ++ e.strangers ++ strangersOfAll arguments
  | .test e name arguments _ =>
    (if isTest name then [] else [name]) ++ e.strangers ++ strangersOfAll arguments
  | .call function arguments _ => function.strangers ++ strangersOfAll arguments

/-- The filters and tests of some expressions that do not exist. -/
def strangersOfAll : List Expr → List String
  | [] => []
  | e :: rest => e.strangers ++ strangersOfAll rest

end

mutual

/-- The filters and tests of a statement that do not exist. Those directly in a branch do not
count; the bodies of a loop count even there. -/
def Statement.strangers (inBranch : Bool) : Statement → List String
  | .text _ => []
  | .output e => if inBranch then [] else e.strangers
  | .branch _ body otherwise => strangersInAll true body ++ strangersInAll true otherwise
  | .loop _ source test? body otherwise =>
    (if inBranch then [] else source.strangers) ++ (test?.map Expr.strangers).getD [] ++
      strangersInAll false body ++ strangersInAll false otherwise
  | .assign _ e => if inBranch then [] else e.strangers

/-- The filters and tests of some statements that do not exist. -/
def strangersInAll (inBranch : Bool) : List Statement → List String
  | [] => []
  | s :: rest => s.strangers inBranch ++ strangersInAll inBranch rest

end

mutual

/-- Whether a statement, or one inside of it, gives a value to the name of the state of a loop. -/
def Statement.givesLoop : Statement → Bool
  | .text _ => false
  | .output _ => false
  | .branch _ body otherwise => someGivesLoop body || someGivesLoop otherwise
  | .loop target _ _ body otherwise =>
    target.names.contains loopName || someGivesLoop body || someGivesLoop otherwise
  | .assign target _ => target.names.contains loopName

/-- Whether some statements give a value to the name of the state of a loop. -/
def someGivesLoop : List Statement → Bool
  | [] => false
  | s :: rest => s.givesLoop || someGivesLoop rest

end

mutual

/-- Whether a loop in a statement gives a value to the name of its state. -/
def Statement.abusesLoop : Statement → Bool
  | .text _ => false
  | .output _ => false
  | .branch _ body otherwise => someAbusesLoop body || someAbusesLoop otherwise
  | .loop target source test? body otherwise =>
    (Statement.loop target source test? body otherwise).givesLoop
  | .assign _ _ => false

/-- Whether a loop in some statements gives a value to the name of its state. -/
def someAbusesLoop : List Statement → Bool
  | [] => false
  | s :: rest => s.abusesLoop || someAbusesLoop rest

end

/-- Some statements that break none of the rules that are left once they can be read. -/
def accepted (found : List Statement) : Except Fault (List Statement) :=
  if someAbusesLoop found then .error (.malformed "Can't assign to special loop variable")
  else
    match strangersInAll false found with
    | [] => .ok found
    | name :: _ => .error (.malformed ("No filter or test named " ++ Text.quoted name ++ "."))

end ReleaseNotes.Template
