import Reconciliation.Text.Numeral

/-!
# JSON values

The data that a JSON text denotes, and how such texts are written. An object keeps its members
in order with repetitions; looking a name up finds the last member of that name, so a repeated
name counts once. A number is an integer if it is written as one and fits 64 bits, with or
without sign; any other number is kept as it is written, since nothing here computes with it.

A string is written between quotes. The quote, the backslash and the controls are escaped,
five controls by a letter and the others by their number; every other character stands
for itself.
-/

namespace Reconciliation.Json

/-- A number: an integer of at most 64 bits, or the literal of any other number. -/
inductive Number where
  | integer (n : Int)
  | real (literal : List Char)
deriving DecidableEq, Repr

/-- What a JSON text denotes. -/
inductive Value where
  | null
  | bool (b : Bool)
  | number (n : Number)
  | string (s : String)
  | array (items : List Value)
  | object (members : List (String × Value))
deriving Repr

namespace Value

/-- The value of the last member with this name. -/
def member? (name : String) : Value → Option Value
  | object members => (members.reverse.find? (·.1 == name)).map (·.2)
  | _ => none

def string? : Value → Option String
  | string s => some s
  | _ => none

def isObject : Value → Bool
  | object _ => true
  | _ => false

end Value

/-! ## Writing -/

open Text

/-- One character inside a written string. -/
def escapeChar (c : Char) : List Char :=
  if c = '"' then ['\\', '"']
  else if c = '\\' then ['\\', '\\']
  else if c = '\x08' then ['\\', 'b']
  else if c = '\x0c' then ['\\', 'f']
  else if c = '\n' then ['\\', 'n']
  else if c = '\r' then ['\\', 'r']
  else if c = '\t' then ['\\', 't']
  else if c.toNat < 0x20 then
    ['\\', 'u', '0', '0', hexDigit (c.toNat / 16), hexDigit (c.toNat % 16)]
  else [c]

/-- A string as JSON. -/
def writeString (s : String) : List Char :=
  '"' :: (s.toList.flatMap escapeChar ++ ['"'])

/-- What is present as JSON, by a writer, or null. -/
def writeOption {α : Type} (write : α → List Char) : Option α → List Char
  | some a => write a
  | none => ['n', 'u', 'l', 'l']

/-- An object as JSON from its names and the texts of its values, without blanks. -/
def writeObject (members : List (String × List Char)) : List Char :=
  let texts := members.map fun (name, v) => writeString name ++ ':' :: v
  '\x7b' :: ((texts.intersperse [',']).flatten ++ ['\x7d'])

end Reconciliation.Json
