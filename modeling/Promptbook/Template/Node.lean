import Promptbook.Template.Expression

/-!
# Nodes of a Template

What a template means once its tags and their blocks have been understood.
-/

namespace Promptbook.Template

/-- What a loop goes through. -/
inductive LoopSource where
  /-- The items of an array or the members of an object, which `e` denotes. -/
  | items (e : Expression)
  /-- The whole numbers of a range, from `first` to `last`. -/
  | range (first last : Expression)
  deriving Inhabited

/-- The head of a loop. -/
structure LoopHead where
  /-- The variable that holds the current item. -/
  name : String
  /-- What the loop goes through. -/
  source : LoopSource
  /-- How many items it goes through at most. -/
  limit : Option Expression
  /-- How many items it leaves out at the start. -/
  offset : Option Expression
  /-- Whether it goes backwards. -/
  reversed : Bool
  /-- How many columns a row has, in a loop that makes a table. -/
  columns : Option Expression
  deriving Inhabited

/-- A part of a template. -/
inductive Node where
  /-- The plain text `s`. -/
  | text (s : String)
  /-- An output of what `chain` denotes. -/
  | output (chain : Chain)
  /-- A call of the host: the directive with the number `id`. -/
  | call (id : Nat)
  /-- Give the variable `name` what `chain` denotes. -/
  | assign (name : String) (chain : Chain)
  /-- Give the variable `name` the text of `body`. -/
  | capture (name : String) (body : List Node)
  /-- Show the counter `name` and count up. -/
  | increment (name : String)
  /-- Count down and show the counter `name`. -/
  | decrement (name : String)
  /-- Show the next one of `values`, starting over after the last. -/
  | cycle (key : String) (values : List Expression)
  /-- Show `body` if the condition is as `expected`, and `otherwise` if not. -/
  | branch (expected : Bool) (condition : Condition) (body otherwise : List Node)
  /-- Show the first arm with a value that equals `subject`, or else `otherwise`. -/
  | select (subject : Expression) (arms : List (List Expression × List Node))
    (otherwise : List Node)
  /-- Show `body` for every item, or `otherwise` if there are no items. -/
  | loop (head : LoopHead) (body otherwise : List Node)
  /-- A table with a cell for every item. -/
  | table (head : LoopHead) (body : List Node)
  /-- Show `body`, unless the last such block had the same text. -/
  | whenChanged (body : List Node)
  /-- Leave the innermost loop. -/
  | leave
  /-- Go on with the next item of the innermost loop. -/
  | skip
  /-- The template `name`, of which there is none; once, or once for every item of a sequence. -/
  | partialTemplate (name : Expression) (repeated : Option LoopSource)
  /-- Nothing. -/
  | nothing
  deriving Inhabited

end Promptbook.Template
