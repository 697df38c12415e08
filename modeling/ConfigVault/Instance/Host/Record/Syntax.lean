import ConfigVault.Instance.Host.Pattern.Basic

/-!
# Programs for records

A program for records is a list of rules: what to do with which records.  Its expressions hold numbers
and texts alike; its tables hold values under keys.
-/

namespace ConfigVault.Host.Record

inductive Operator where
  | add
  | subtract
  | multiply
  | divide
  | remainder
  | power
  deriving DecidableEq, Repr

inductive Comparison where
  | less
  | atMost
  | equal
  | unequal
  | more
  | atLeast
  deriving DecidableEq, Repr

inductive Expr where
  | number (x : Float)
  | text (text : Raw)
  | pattern (p : Pattern)
  | name (name : Raw)
  | field (index : Expr)
  | element (table : Raw) (keys : List Expr)
  | assign (target value : Expr)
  | update (op : Operator) (target value : Expr)
  /-- Adds a number to a target; the value is the one before or behind that. -/
  | step (target : Expr) (amount : Float) (before : Bool)
  | choice (test yes no : Expr)
  | both (a b : Expr)
  | either (a b : Expr)
  | negated (a : Expr)
  | sign (minus : Bool) (a : Expr)
  | combine (op : Operator) (a b : Expr)
  | compare (c : Comparison) (a b : Expr)
  | joined (a b : Expr)
  | found (negated : Bool) (text pattern : Expr)
  | member (keys : List Expr) (table : Raw)
  | call (function : Raw) (arguments : List Expr)
  | standard (function : Raw) (arguments : List Expr)
  | readLine (target : Option Expr)
  | readFile (target : Option Expr) (file : Expr)
  | readCommand (target : Option Expr) (command : Expr)

def Expr.isTarget : Expr → Bool
  | .name _ => true
  | .field _ => true
  | .element _ _ => true
  | _ => false

inductive Destination where
  | output
  | file (name : Expr) (appends : Bool)
  | command (text : Expr)

inductive Statement where
  | nothing
  | expression (e : Expr)
  | print (arguments : List Expr) (destination : Destination)
  | printLaidOut (arguments : List Expr) (destination : Destination)
  | choice (test : Expr) (yes no : Statement)
  | loop (test : Expr) (body : Statement)
  | loopAfter (body : Statement) (test : Expr)
  | count (start : Statement) (test : Option Expr) (step body : Statement)
  | each (name table : Raw) (body : Statement)
  | sequence (first rest : Statement)
  | next
  | nextFile
  | exit (status : Option Expr)
  | back (value : Option Expr)
  | leave
  | again
  | erase (table : Raw) (keys : List Expr)
  | eraseAll (table : Raw)

inductive Trigger where
  | start
  | finish
  | always
  | when (test : Expr)
  /-- From a record of which one condition holds up to one of which another does. -/
  | range (first last : Expr)

structure Rule where
  trigger : Trigger
  body : Statement

structure Function where
  name : Raw
  parameters : List Raw
  body : Statement

structure Script where
  rules : List Rule
  functions : List Function

end ConfigVault.Host.Record
