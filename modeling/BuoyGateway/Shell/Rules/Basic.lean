import BuoyGateway.Shell.Format

/-!
# Rules for records

A program of rules goes through records: each rule says which records it is for, and what is done
with them. This module holds what such a program consists of.
-/

namespace BuoyGateway.Shell.Rules

inductive Reckoning
  | add
  | subtract
  | multiply
  | divide
  | remainder
  | power
  deriving DecidableEq, Repr

inductive Comparison
  | less
  | lessEqual
  | equal
  | unequal
  | greater
  | greaterEqual
  deriving DecidableEq, Repr

inductive Expression
  | number (x : Float)
  | text (s : List Char)
  | pattern (s : List Char)
  | variable (name : String)
  | field (index : Expression)
  | entry (table : String) (keys : List Expression)
  | group (parts : List Expression)
  | assign (place : Expression) (how : Option Reckoning) (value : Expression)
  | step (place : Expression) (up before : Bool)
  | reckon (how : Reckoning) (a b : Expression)
  | compare (how : Comparison) (a b : Expression)
  | joined (a b : Expression)
  | negative (a : Expression)
  | positive (a : Expression)
  | not (a : Expression)
  | both (a b : Expression)
  | either (a b : Expression)
  | choice (condition yes no : Expression)
  | fits (wanted : Bool) (a b : Expression)
  | isKey (keys : List Expression) (table : String)
  | call (name : String) (arguments : List Expression)
  | builtIn (name : String) (arguments : List Expression)
  | nextRecord (place : Option Expression)
  | fileRecord (place : Option Expression) (path : Expression)
  | commandRecord (place : Option Expression) (command : Expression)
  deriving Inhabited

def Expression.isPlace : Expression → Bool
  | .variable _ | .field _ | .entry .. => true
  | _ => false

inductive Target
  | file
  | fileEnd
  | command
  deriving DecidableEq, Repr

inductive Statement
  | expression (e : Expression)
  | print (values : List Expression) (target : Option (Target × Expression))
  | format (values : List Expression) (target : Option (Target × Expression))
  | block (parts : List Statement)
  | choice (condition : Expression) (yes : Statement) (no : Option Statement)
  | whileDo (condition : Expression) (body : Statement)
  | doWhile (body : Statement) (condition : Expression)
  | forDo (first : Option Statement) (condition : Option Expression) (last : Option Statement)
      (body : Statement)
  | forKeys (name table : String) (body : Statement)
  | nextRecord
  | nextFile
  | leave
  | again
  | exit (code : Option Expression)
  | giveBack (value : Option Expression)
  | delete (table : String) (keys : Option (List Expression))
  deriving Inhabited

inductive Trigger
  | start
  | finish
  | always
  | fits (e : Expression)
  | between (first last : Expression)

/-- A rule: what it is for and what is done; a record is written where nothing else is said. -/
structure Rule where
  trigger : Trigger
  body : Option (List Statement)

structure Function where
  name : String
  parameters : List String
  body : List Statement

structure Program where
  rules : List Rule := []
  functions : List Function := []

def Program.readsRecords (p : Program) : Bool :=
  p.rules.any (fun r => match r.trigger with
    | .start => false
    | _ => true)

end BuoyGateway.Shell.Rules
