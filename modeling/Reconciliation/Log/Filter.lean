import Reconciliation.Log.Event
import Reconciliation.Text.Classes
import Reconciliation.Text.Numeral

/-!
# Log filters

A filter is a list of directives. Each says up to which level events are let through: those
from a target whose name begins with a given text, or all. Of the directives that apply the
most specific one decides, that is the one with the longest text, and without any nothing
is let through.

Directives are written with commas between them: a level alone, a target alone, which lets
everything through, or both with `=` between. Behind a target there may be brackets with the
name of a span, or a field in braces, or both. A directive for a field alone is about the
events that have the field; it is also, like one for a span, about all that is logged within
such spans, and there every directive counts. A text that cannot be read gives the default
filter.
-/

namespace Reconciliation.Log

open Text

/-- A field that something has to have, and perhaps what the field has to match. -/
structure Condition where
  name : String
  pattern : Option String
deriving DecidableEq, Repr

/-- How much is let through, from nothing to everything, and from where. -/
structure Directive where
  /-- The front of the targets' names; everywhere if there is none. -/
  target : Option String := none
  /-- The span that the directive is about, if it is about one. -/
  span : Option String := none
  /-- The field that the directive is about, if it is about one. -/
  field : Option Condition := none
  /-- The highest rank of a level that is let through; zero for none. -/
  rank : Nat
deriving DecidableEq, Repr

/-- The names of the ranks. -/
def rankNames : List String := ["off", "error", "warn", "info", "debug", "trace"]

/-- The rank of everything. -/
def fullRank : Nat := 5

/-- The rank that a text names, by a name in any case or by a number. -/
def rank? (s : List Char) : Option Nat :=
  let lower := String.ofList (s.map Char.toLower)
  (rankNames.findIdx? (· == lower)).or (readNatural fullRank s).toOption

/-- The rank that a text behind `=` asks for; everything if nothing is said. -/
def askedRank? (s : List Char) : Option Nat := if s.isEmpty then some fullRank else rank? s

namespace Directive

/-- Whether a directive may begin with a character. -/
def mayBegin (c : Char) : Bool := isAlphanumeric c || c == '_' || c == ':' || c == '-'

/-- The directive of a text that is a level, or else a target. -/
def single (s : List Char) : Directive :=
  match rank? s with
  | some rank => { rank }
  | none => { target := some (String.ofList s), rank := fullRank }

/-- A number without needless signs and zeros; any other text as it is. -/
def plainPattern (s : List Char) : String :=
  match readInteger 9223372036854775808 18446744073709551615 s with
  | .ok n => decimalText n
  | .error _ => String.ofList s

/-- The condition that stands in braces: a name, and perhaps a pattern behind `=`. -/
def readCondition (s : List Char) : Condition :=
  let parts := s.splitOnP (· == '=')
  ⟨String.ofList (parts.headD []), parts[1]?.map plainPattern⟩

/-! Blanks around a directive do not count when its parts are found, but a part is cut from the
text with its blanks, at the place that it would have without them. So the readers take
both: `marks`, where the signs are found, and `s`, where the parts are cut. -/

/-- The level behind the brackets of a directive. -/
def readLevel (d : Directive) (marks s : List Char) : Option Directive :=
  match marks with
  | [] => some d
  | '=' :: _ => (askedRank? (s.drop 1)).map fun rank => { d with rank }
  | _ => none

/-- The directive for a target and what stands in brackets, from behind the opening one on. -/
def readBrackets (target : Option String) (marks s : List Char) : Option Directive :=
  let size := (marks.takeWhile fun c => c != ']' && c != '\x7b').length
  let name := String.ofList (s.take size)
  let s := s.drop (size + 1)
  match marks.drop size with
  | ']' :: marks => readLevel { target, span := some name, rank := fullRank } marks s
  | '\x7b' :: marks =>
    let size := (marks.takeWhile (· != '\x7d')).length
    let span := if name.isEmpty then none else some name
    match s.take size, marks.drop size with
    | c :: cs, '\x7d' :: ']' :: marks =>
      let field := some (readCondition (c :: cs))
      readLevel { target, span, field, rank := fullRank } marks (s.drop (size + 2))
    | _, _ => none
  | _ => none

/-- The directive that a text gives. -/
def read (s : List Char) : Option Directive :=
  match trim s with
  | [] => none
  | '[' :: marks => readBrackets none marks (s.drop 1)
  | c :: marks =>
    let size := ((c :: marks).takeWhile fun c => c != '=' && c != '[').length
    let target := some (String.ofList (s.take size))
    let rest := s.drop (size + 1)
    if !mayBegin c then none
    else
      match (c :: marks).drop size with
      | [] => some (single s)
      | '[' :: marks => readBrackets target marks rest
      | _ => (askedRank? rest).map fun rank => { target, rank }

/-- The condition as a text. -/
def conditionText (c : Condition) : String :=
  "\x7b" ++ c.name ++ (match c.pattern with
    | some p => "=" ++ p
    | none => "") ++ "\x7d"

/-- The directive as a text. -/
def text (d : Directive) : String :=
  let inside := d.span.getD "" ++ ((d.field.map conditionText).getD "")
  let brackets := if d.span.isSome ∨ d.field.isSome then "[" ++ inside ++ "]" else ""
  let level := rankNames.getD d.rank ""
  if d.target.isNone ∧ brackets.isEmpty then level
  else d.target.getD "" ++ brackets ++ "=" ++ level

/-- Whether a directive is about spans. -/
def isDynamic (d : Directive) : Bool := d.span.isSome || d.field.isSome

/-- Whether a directive is about events. -/
def isStatic (d : Directive) : Bool := d.span.isNone && d.field.all (·.pattern.isNone)

/-- What decides which of two directives is looked at first: of the first difference in this list
the larger one is. -/
def specificity (a b : Directive) : Ordering :=
  let size (d : Directive) : Nat := d.target.elim 0 (·.utf8ByteSize + 1)
  let present {α : Type} (x : Option α) : Nat := if x.isSome then 1 else 0
  let name (x : Option String) : String := x.getD ""
  let pattern (d : Directive) : Option String := d.field.bind (·.pattern)
  (compare (size a) (size b)).then <|
  (compare (present a.span) (present b.span)).then <|
  (compare (present a.field) (present b.field)).then <|
  (compare (name a.target) (name b.target)).then <|
  (compare (name a.span) (name b.span)).then <|
  (compare (present (pattern a)) (present (pattern b))).then <|
  (compare (name (a.field.map (·.name))) (name (b.field.map (·.name)))).then <|
  compare (name (pattern a)) (name (pattern b))

/-- Whether `a` is looked at before `b`. -/
def precedes (a b : Directive) : Bool := (specificity a b).isGT

/-- Whether a directive applies to something with a target and fields. -/
def applies (d : Directive) (target : String) (fields : List String) : Bool :=
  (d.target.all fun t => t.toList.isPrefixOf target.toList) &&
    d.field.all fun c => fields.contains c.name

end Directive

/-- Directives, the most specific first, no two of them for the same. -/
abbrev Filter := List Directive

namespace Filter

/-- Puts a directive in its place, instead of one for the same. -/
def add (f : Filter) (d : Directive) : Filter :=
  f.takeWhile (·.precedes d) ++ d :: f.filter (d.precedes ·)

/-- The filter of some directives; of two for the same the later counts. -/
def ofList (ds : List Directive) : Filter := ds.foldl add []

/-- The filter where nothing is asked for. -/
def default : Filter :=
  ofList [{ rank := Level.info.rank }, { target := some "sqlx", rank := Level.warn.rank }]

/-- The filter that a text gives; the default if there is no text, or a blank one, or one that
cannot be read. -/
def ofText (text : Option String) : Filter :=
  match text.filter (!allBlank ·) with
  | none => default
  | some s =>
    let items := (s.toList.splitOnP (· == ',')).filter (!·.isEmpty)
    match items.mapM Directive.read with
    | some ds => ofList ds
    | none => default

/-- The filter as a text: the directives about events, then those about spans. -/
def text (f : Filter) : String :=
  String.intercalate "," ((f.filter (·.isStatic) ++ f.filter (·.isDynamic)).map Directive.text)

/-- Whether an event from a target is let through by the directives about events. -/
def allowsEvent (f : Filter) (target : String) (e : Event) : Bool :=
  match f.find? fun d => d.isStatic && d.applies target e.fieldNames with
  | some d => decide (e.level.rank ≤ d.rank)
  | none => false

/-- Whether spans are looked at, which are of the level `info`. -/
def tracesSpans (f : Filter) : Bool :=
  f.any fun d => decide (Level.info.rank ≤ d.rank) || d.field.any (·.pattern.isSome)

/-- Whether an event from a target is let through by a directive about the span around it. What
matches a pattern is not looked into, so directives with one let nothing through. -/
def allowsWithin (f : Filter) (target : String) (e : Event) : Bool :=
  match e.span? with
  | some (name, fields) => f.tracesSpans && f.any fun d =>
      d.isDynamic && d.field.all (·.pattern.isNone) && d.span.all (· == name) &&
        d.applies target fields && decide (e.level.rank ≤ d.rank)
  | none => false

/-- The events that are let through, by the targets of the parts that log them. -/
def allowed (f : Filter) (targetOf : Part → String) (events : List Event) : List Event :=
  events.filter fun e => f.allowsEvent (targetOf e.part) e || f.allowsWithin (targetOf e.part) e

end Filter

end Reconciliation.Log
