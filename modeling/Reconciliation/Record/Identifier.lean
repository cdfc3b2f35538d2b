import Reconciliation.Text.Bytes
import Reconciliation.Text.Classes
import Reconciliation.Text.Numeral

/-!
# Identifiers

A record is about an entity, a number of 64 bits with sign, and is itself identified by a
number of 128 bits. Records of one entity are kept together: of several that say the same
kind of thing only the newest counts.

An entity is read from a decimal numeral with blanks allowed around it. The written form of
a record's identifier is 32 lower-case hexadecimal digits in groups of 8, 4, 4, 4 and 12,
joined by hyphens. Read are, with digits in either case, that form, the 32 digits without
hyphens, and the hyphenated form inside braces or after `urn:uuid:`. `digits?` finds the 32
digits in any of the spellings; a text that has none is given one of the reasons of
`Misspelling`, found by counting bytes.

New records get identifiers of version 7: the millisecond at which the identifier is made,
the version, the two bits of the variant, and a counter that tells the identifiers of one
millisecond apart. Identifiers made one after another are in ascending order.
-/

namespace Reconciliation

open Text

/-! ## Failures of the domain -/

/-- A failure that the domain rules alone decide. -/
inductive DomainError where
  /-- A value is malformed. -/
  | validation (reason : String)
  /-- A rule of a record's life is broken. -/
  | invariant (reason : String)
  /-- A text is no identifier. -/
  | invalidId (reason : String)
deriving DecidableEq, Repr

/-- The wording of a domain error. -/
def DomainError.message : DomainError → String
  | .validation reason => "validation failed: " ++ reason
  | .invariant reason => "invariant violated: " ++ reason
  | .invalidId reason => "invalid identifier: " ++ reason

/-! ## Entities -/

/-- The subject that a record is about. -/
structure EntityId where
  val : Int
  least_le : -9223372036854775808 ≤ val
  le_greatest : val ≤ 9223372036854775807
deriving DecidableEq

namespace EntityId

/-- The entity with this number, if it has 64 bits. -/
def of? (n : Int) : Option EntityId :=
  if h : -9223372036854775808 ≤ n ∧ n ≤ 9223372036854775807 then some ⟨n, h.1, h.2⟩ else none

instance : LE EntityId := ⟨fun a b => a.val ≤ b.val⟩

instance : LT EntityId := ⟨fun a b => a.val < b.val⟩

instance (a b : EntityId) : Decidable (a ≤ b) := inferInstanceAs (Decidable (a.val ≤ b.val))

instance (a b : EntityId) : Decidable (a < b) := inferInstanceAs (Decidable (a.val < b.val))

/-- The entity's number as a numeral. -/
def text (e : EntityId) : String := decimalText e.val

/-- The entity that a numeral names, blanks around it allowed. -/
def read (s : List Char) : Except NumeralError EntityId :=
  match readInteger 9223372036854775808 9223372036854775807 (trim s) with
  | .error why => .error why
  | .ok n =>
    match of? n with
    | some e => .ok e
    | none => .error (if n < 0 then .tooSmall else .tooLarge)

/-- The entity that a numeral names, or the domain's error. -/
def parse (s : String) : Except DomainError EntityId :=
  match read s.toList with
  | .ok e => .ok e
  | .error why => .error (.invalidId ("EntityId: " ++ why.message))

theorem of?_eq_some {n : Int} {e : EntityId} (h : of? n = some e) : e.val = n := by
  unfold of? at h
  split at h
  · cases h; rfl
  · cases h

theorem of?_val (e : EntityId) : of? e.val = some e := by
  unfold of?
  rw [dif_pos ⟨e.least_le, e.le_greatest⟩]

end EntityId

/-! ## Identifiers of records -/

/-- The identifier of a record: a number of 128 bits. -/
structure RecordId where
  toNat : Nat
  isLt : toNat < 0x100000000000000000000000000000000
deriving DecidableEq

namespace RecordId

instance : LE RecordId := ⟨fun a b => a.toNat ≤ b.toNat⟩

instance : LT RecordId := ⟨fun a b => a.toNat < b.toNat⟩

instance (a b : RecordId) : Decidable (a ≤ b) := inferInstanceAs (Decidable (a.toNat ≤ b.toNat))

instance (a b : RecordId) : Decidable (a < b) := inferInstanceAs (Decidable (a.toNat < b.toNat))

/-- The identifier with the low 128 bits of a number. -/
def ofNat (n : Nat) : RecordId :=
  ⟨n % 0x100000000000000000000000000000000, Nat.mod_lt _ (by decide)⟩

theorem toNat_inj {a b : RecordId} : a.toNat = b.toNat ↔ a = b := by
  refine ⟨fun h => ?_, fun h => h ▸ rfl⟩
  cases a
  cases b
  cases h
  rfl

/-- The identifier whose bits are all zero. -/
def nil : RecordId := ofNat 0

/-- The 32 hexadecimal digits, highest first. -/
def digits (id : RecordId) : List Char := (lowDigits 16 32 id.toNat).map hexDigit

/-- The sixteen bytes, highest first. -/
def bytes (id : RecordId) : List Nat := lowDigits 256 16 id.toNat

/-- The sizes of the groups of digits. -/
def groups : List Nat := [8, 4, 4, 4, 12]

/-- Digits cut into groups of the given sizes with a hyphen between any two. -/
def hyphenate : List Nat → List Char → List Char
  | [], _ => []
  | [n], s => s.take n
  | n :: ns, s => s.take n ++ '-' :: hyphenate ns (s.drop n)

/-- The written form of an identifier. -/
def write (id : RecordId) : List Char := hyphenate groups id.digits

/-- The written form as a string. -/
def text (id : RecordId) : String := String.ofList id.write

/-- The digits of a text that consists of hexadecimal groups of the given sizes joined by
hyphens. -/
def ungroup? : List Nat → List Char → Option (List Char)
  | [], _ => none
  | [n], s => if s.length = n ∧ s.all isHex then some s else none
  | n :: ns, s =>
    if (s.take n).length = n ∧ (s.take n).all isHex then
      match s.drop n with
      | '-' :: rest => (ungroup? ns rest).map (s.take n ++ ·)
      | _ => none
    else none

/-- The mark that may stand before a hyphenated identifier, in any case. -/
def urn : List Char := "urn:uuid:".toList

/-- Whether a text begins with the mark, in any case. -/
def beginsWithUrn (s : List Char) : Bool := (s.take 9).map Char.toLower == urn

/-- A spelling freed of its wrapping: braces or the mark. The flag says whether there was any. -/
def unwrap (s : List Char) : List Char × Bool :=
  if s.head? = some '\x7b' ∧ 2 ≤ s.length ∧ s.getLast? = some '\x7d' then (s.tail.dropLast, true)
  else if beginsWithUrn s then (s.drop 9, true)
  else (s, false)

/-- The 32 digits of any accepted spelling. -/
def digits? (s : List Char) : Option (List Char) :=
  match unwrap s with
  | (inner, true) => ungroup? groups inner
  | (inner, false) => (ungroup? [32] inner).or (ungroup? groups inner)

/-- The number denoted by hexadecimal digits, highest first. -/
def hexSum (s : List Char) : Nat :=
  s.foldl (fun n c => 16 * n + (hexValue? c).getD 0) 0

/-- Why a text is no identifier. Lengths and places count bytes. -/
inductive Misspelling where
  /-- The text is empty, too long, or has no hyphens and not 32 digits. -/
  | length (found : Nat)
  /-- A character is neither a digit nor a hyphen. -/
  | character (found : Char) (place : Nat)
  /-- The number of groups is not five. -/
  | groupCount (found : Nat)
  /-- A group has the wrong length. -/
  | groupLength (group expected found : Nat)
deriving DecidableEq, Repr

/-- The wording of a misspelling. -/
def Misspelling.message : Misspelling → String
  | .length found => "invalid length: found " ++ Nat.repr found
  | .character found place =>
    "invalid character: found `" ++ String.singleton found ++ "` at " ++ Nat.repr place
  | .groupCount found => "invalid group count: expected 5, found " ++ Nat.repr found
  | .groupLength group expected found =>
    "invalid group length in group " ++ Nat.repr group ++ ": expected " ++ Nat.repr expected ++
      ", found " ++ Nat.repr found

/-- The first character that is neither a digit nor a hyphen, and its place in bytes. -/
def strayCharacter? (place : Nat) : List Char → Option (Char × Nat)
  | [] => none
  | c :: r => if isHex c ∨ c = '-' then strayCharacter? (place + c.utf8Size) r else some (c, place)

/-- The first of the groups, numbered from `i`, whose length is not the expected one. -/
def wrongGroup? (i : Nat) : List Nat → List Char → Option Misspelling
  | n :: ns, s =>
    let len := (s.takeWhile (· != '-')).length
    if len = n then wrongGroup? (i + 1) ns (s.drop (len + 1)) else some (.groupLength i n len)
  | [], _ => none

/-- The part of a text that has to be hyphenated, as its size shows: a text of 36 bytes, or 36
bytes that are wrapped. -/
def hyphenatedPart? (s : List Char) : Option (List Char) :=
  if byteLength s = 36 then some s
  else
    match unwrap s with
    | (inner, true) => if byteLength inner = 36 then some inner else none
    | (_, false) => none

/-- What is wrong with a text as a hyphenated one. The text stands at a place in a whole of
`size` bytes. -/
def fault (place size : Nat) (s : List Char) : Misspelling :=
  match strayCharacter? place s with
  | some (c, i) => .character c i
  | none =>
    if s.count '-' ≠ 4 then .groupCount (s.count '-' + 1)
    else (wrongGroup? 0 (groups.take 4) s).getD (.groupLength 4 12 (size - 24))

/-- The reason why a text that has no digits by `digits?` is no identifier. In a part that has
to be hyphenated places are counted from its own first byte, elsewhere from that of the
whole text. -/
def misspelling (s : List Char) : Misspelling :=
  let size := byteLength s
  if size = 0 ∨ 45 < size then .length size
  else
    match hyphenatedPart? s with
    | some part => fault 0 36 part
    | none =>
      let (inner, wrapped) := unwrap s
      -- places are counted behind what was taken off
      let place := if beginsWithUrn s then 9 else if wrapped then 1 else 0
      match fault place size inner with
      | .groupCount 1 => if wrapped then .groupCount 1 else .length size
      | why => why

/-- The identifier that a text spells. -/
def read (s : List Char) : Except Misspelling RecordId :=
  match digits? s with
  | some ds => .ok (ofNat (hexSum ds))
  | none => .error (misspelling s)

/-- The identifier that a text spells, or the domain's error. -/
def parse (s : String) : Except DomainError RecordId :=
  match read s.toList with
  | .ok id => .ok id
  | .error why => .error (.invalidId ("MessageId: " ++ why.message))

end RecordId

/-! ## Fresh identifiers -/

namespace RecordId

/-- The identifier with this counter in a millisecond since 1970; 48 bits of the one and 62 of
the other are kept. -/
def fresh (millis counter : Nat) : RecordId :=
  ofNat (millis % 0x1000000000000 * 0x100000000000000000000 + 0x70008000000000000000 +
    counter % 0x4000000000000000)

/-- The version of an identifier. -/
def version (id : RecordId) : Nat := id.toNat / 0x10000000000000000000 % 16

theorem version_fresh (millis counter : Nat) : (fresh millis counter).version = 7 := by
  simp only [version, fresh, ofNat]
  omega

/-- Within a millisecond the identifiers follow the counter, as long as it has 62 bits. -/
theorem fresh_lt_fresh {millis m n : Nat} (hmn : m < n) (hn : n < 0x4000000000000000) :
    fresh millis m < fresh millis n := by
  show (fresh millis m).toNat < (fresh millis n).toNat
  simp only [fresh, ofNat]
  omega

end RecordId

end Reconciliation
