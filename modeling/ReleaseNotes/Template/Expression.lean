import ReleaseNotes.Template.Value

/-!
# Expressions and statements

What a template is made of once it is read. An expression has a value; a statement writes
text, chooses, repeats, or gives a value to a name.
-/

namespace ReleaseNotes.Template

/-- An operator on one value. -/
inductive UnaryOp where
  /-- The value with its sign turned. -/
  | minus
  /-- The value as it is. -/
  | plus
  deriving DecidableEq, Repr

/-- An operator on two values. -/
inductive BinaryOp where
  /-- The sum of numbers, or texts or lists put together. -/
  | add
  /-- The difference. -/
  | subtract
  /-- The product, or a text or list repeated. -/
  | multiply
  /-- The quotient. -/
  | divide
  /-- The quotient rounded down. -/
  | floorDivide
  /-- The remainder of that. -/
  | remainder
  /-- A power. -/
  | power
  deriving DecidableEq, Repr

/-- A comparison of two values. -/
inductive Comparison where
  /-- The values are equal. -/
  | equal
  /-- The values are not equal. -/
  | unequal
  /-- The first is less. -/
  | less
  /-- The first is less or neither is. -/
  | lessEqual
  /-- The second is less. -/
  | greater
  /-- The second is less or neither is. -/
  | greaterEqual
  /-- The first is in the second. -/
  | among
  /-- The first is not in the second. -/
  | notAmong
  deriving DecidableEq, Repr

/-- An expression. -/
inductive Expr where
  /-- A fixed value. -/
  | constant (v : Value)
  /-- The value of a name. -/
  | name (n : String)
  /-- A list. -/
  | list (items : List Expr)
  /-- A list of fixed length. -/
  | tuple (items : List Expr)
  /-- A table: its keys in order, and as many values. -/
  | table (keys values : List Expr)
  /-- What a value has under a name. -/
  | attribute (whole : Expr) (name : String)
  /-- What a value has under a key. -/
  | item (whole key : Expr)
  /-- A part of a text or list: its bounds and its step. -/
  | slice (whole start stop step : Expr)
  /-- An operator on one value. -/
  | unary (op : UnaryOp) (e : Expr)
  /-- An operator on two values. -/
  | binary (op : BinaryOp) (left right : Expr)
  /-- Values written one after the other. -/
  | joined (items : List Expr)
  /-- The second value if the first counts as true, and else the first. -/
  | both (left right : Expr)
  /-- The first value if it counts as true, and else the second. -/
  | either (left right : Expr)
  /-- Whether a value does not count as true. -/
  | negation (e : Expr)
  /-- Whether every one of a chain of values compares with the next as it should. -/
  | comparison (first : Expr) (ops : List Comparison) (rest : List Expr)
  /-- One of two values. -/
  | choice (value test otherwise : Expr)
  /-- A value put through a filter. The last arguments have the given names. -/
  | filter (e : Expr) (name : String) (arguments : List Expr) (names : List String)
  /-- Whether a value passes a test. The last arguments have the given names. -/
  | test (e : Expr) (name : String) (arguments : List Expr) (names : List String)
  /-- A function applied. The last arguments have the given names. -/
  | call (function : Expr) (arguments : List Expr) (names : List String)
  deriving Repr, Inhabited

/-- What a value is given to: a name, or as many targets as the value holds values. -/
inductive Target where
  /-- A name. -/
  | name (n : String)
  /-- Several targets. -/
  | several (targets : List Target)
  deriving Repr, Inhabited

/-- A statement. -/
inductive Statement where
  /-- Text written as it is. -/
  | text (s : String)
  /-- The value of an expression written. -/
  | output (e : Expr)
  /-- One of two bodies. -/
  | branch (test : Expr) (body otherwise : List Statement)
  /-- A body repeated for every value that passes the test, or another body if there is none. -/
  | loop (target : Target) (source : Expr) (test? : Option Expr) (body otherwise : List Statement)
  /-- A value given to a target. -/
  | assign (target : Target) (e : Expr)
  deriving Repr, Inhabited

end ReleaseNotes.Template
