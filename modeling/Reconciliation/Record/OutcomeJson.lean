import Reconciliation.Record.Json
import Reconciliation.Record.Outcome

/-!
# Outcomes as JSON

An outcome is an object whose member `outcome` says which it is; the other member carries
the label or the deadline. The tag may stand anywhere in the object, other members are
passed over, and a missing deadline is none. An outcome may also be an array of the tag
and the value.

The tag is checked when it is read, the value only after the whole object or array has
been read.
-/

namespace Reconciliation.Outcome

open Json

/-- The two tags. -/
inductive Tag where
  | completed
  | retry
deriving DecidableEq

def Tag.name : Tag → String
  | completed => "completed"
  | retry => "retry"

def Tag.ofName? (name : String) : Option Tag :=
  [Tag.completed, Tag.retry].find? (·.name == name)

/-- The name of the member that holds the tag. -/
def tagName : String := "outcome"

/-- The name of the member that holds the value. -/
def Tag.field : Tag → String
  | completed => "status"
  | retry => "until"

/-- The outcome with a tag and a value, if the value fits. -/
def ofValue? : Tag → Value → Option Outcome
  | .completed, .string status => some (.completed status)
  | .retry, .null => some (.retry none)
  | .retry, .string text => (Instant.ofText? text).map fun t => .retry (some t)
  | _, _ => none

/-- The outcome with a tag among members: the value's member may come once, and only a
deadline may be missing. -/
def ofMembers? (tag : Tag) (members : List (String × Value)) : Option Outcome :=
  match (members.filter (·.1 == tag.field)).map (·.2), tag with
  | [v], tag => ofValue? tag v
  | [], .retry => some (.retry none)
  | _, _ => none

/-- Reads the members of an object, setting the tag apart, up to the closing brace, which is
left. -/
def readMembers (fuel : Nat) (first : Bool) (tag : Option Tag) (s : List Char) :
    Except Failure ((Option Tag × List (String × Value)) × List Char) :=
  match fuel with
  | 0 => .error (failAt .endInObject s)
  | fuel + 1 => do
    match ← nextKey first s with
    | (false, s) => return ((tag, []), s)
    | (true, s) =>
      let (name, s) ← stringTail .keep s
      if name = tagName then
        if tag.isSome then .error (failAt .content s)
        else
          let ((), s) ← colon s
          let (tag, s) ← readMeaning Tag.ofName? s
          readMembers fuel false (some tag) s
      else
        -- the tag may stand behind the members that it gives a meaning, so these are kept
        let ((), s) ← colon s
        let (v, s) ← keepValue (depthLimit - 1) s
        let ((tag, ms), s) ← readMembers fuel false tag s
        return ((tag, (name, v) :: ms), s)

/-- The outcome, or the failure of its content before the rest of the text. -/
def fitting (outcome : Option Outcome) (s : List Char) : Except Failure Outcome :=
  match outcome with
  | some o => .ok o
  | none => .error (failAt .content s)

/-- The outcome that a JSON text holds. -/
def read (s : List Char) : Except Failure Outcome :=
  match skipSpace s with
  | '\x7b' :: r => do
    let ((tag, members), s) ← readMembers (enough r) true none r
    let outcome ← fitting (tag.bind (ofMembers? · members)) s
    finish (s.drop 1)
    return outcome
  | '[' :: r => do
    match ← nextItem true r with
    | (false, s) => .error (failAt .content s)
    | (true, s) =>
      let (tag, s) ← readMeaning Tag.ofName? s
      let (values, s) ← items .keep (enough s) (depthLimit - 1) false s
      let outcome ← match values with
        | [v] => fitting (ofValue? tag v) s
        | _ => .error (failAt .content s)
      finish s
      return outcome
  | s => do
    let (_, rest) ← keepValue depthLimit s
    .error (failAt .content rest)

/-- The outcome as a JSON object without blanks. -/
def write : Outcome → List Char
  | .completed status =>
    writeObject [(tagName, writeString Tag.completed.name), ("status", writeString status)]
  | .retry until? =>
    writeObject [(tagName, writeString Tag.retry.name),
      ("until", writeOption (fun t => writeString t.text) until?)]

end Reconciliation.Outcome
