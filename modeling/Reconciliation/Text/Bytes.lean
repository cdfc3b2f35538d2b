import Reconciliation.Text.Numeral

/-!
# Bytes of a text

Lengths and places in messages count the bytes of a text in UTF-8. In the parts of an
address any byte may be written as `%` and two hexadecimal digits; a `%` without two digits
after it stands for itself.
-/

namespace Reconciliation.Text

/-- The number of bytes of a text. -/
def byteLength : List Char → Nat
  | [] => 0
  | c :: r => c.utf8Size + byteLength r

@[simp] theorem byteLength_append (s t : List Char) :
    byteLength (s ++ t) = byteLength s + byteLength t := by
  induction s with
  | nil => simp [byteLength]
  | cons c r ih => simp [byteLength, ih, Nat.add_assoc]

/-! ## Percent escapes -/

/-- The bytes that a text with percent escapes stands for. -/
def percentBytes : List Char → List UInt8
  | [] => []
  | '%' :: high :: low :: r =>
    match hexValue? high, hexValue? low with
    | some h, some l => UInt8.ofNat (16 * h + l) :: percentBytes r
    | _, _ => String.utf8EncodeChar '%' ++ percentBytes (high :: low :: r)
  | c :: r => String.utf8EncodeChar c ++ percentBytes r
termination_by s => s.length

/-- Whether the bytes of a text with percent escapes are a text again. -/
def spellsText (s : List Char) : Bool :=
  (String.fromUTF8? ⟨(percentBytes s).toArray⟩).isSome

/-- The escape of a full stop read as the full stop it is. -/
def plainDots : List Char → List Char
  | [] => []
  | '%' :: '2' :: 'e' :: r | '%' :: '2' :: 'E' :: r => '.' :: plainDots r
  | c :: r => c :: plainDots r

end Reconciliation.Text
