import Mathlib.Algebra.Ring.Nat
import Mathlib.Data.List.Basic
import Mathlib.Data.List.Induction
import Reconciliation.Record.Identifier

/-!
# Identifiers are read from their spellings

An identifier is spelled by 32 hexadecimal digits, in either case, without hyphens or in groups of
8, 4, 4, 4 and 12 joined by them; the grouped digits may stand in braces or behind a mark. `Spells`
tells these forms apart from how they are read, with the marks that are allowed as a parameter, and
`octets` is what the digits denote, two to a byte.

* `RecordId.digits?_eq_some_iff`: digits are found in exactly their spellings.
* `RecordId.bytes_ofNat`, `RecordId.digits_ofNat`: an identifier made of digits keeps all of them,
  with the letters in lower case.
* `RecordId.read_write`: the written form is read as the identifier that it was made from.
* `RecordId.reads_spellings`: identifiers are read from exactly their spellings, and the written
  form is the one that all spellings of an identifier share.
-/

namespace Reconciliation

open Text

namespace Text

/-! ## Digits to a base -/

/-- The low digits of a number are digits of the base. -/
theorem lt_of_mem_lowDigits {base width n d : Nat} (hb : 0 < base)
    (h : d ∈ lowDigits base width n) :
    d < base := by
  induction width generalizing n with
  | zero => cases h
  | succ width ih =>
    rw [lowDigits] at h
    rcases List.mem_append.1 h with h | h
    · exact ih h
    · rw [List.mem_singleton.1 h]
      exact Nat.mod_lt n hb

/-- The number denoted by digits to a base, highest first. -/
def denoted (base : Nat) (ds : List Nat) : Nat := ds.foldl (fun n d => base * n + d) 0

/-- One digit more at the end. -/
theorem denoted_concat (base : Nat) (ds : List Nat) (d : Nat) :
    denoted base (ds ++ [d]) = base * denoted base ds + d := by
  rw [denoted, List.foldl_append]
  rfl

/-- The lowest digits of a number denote its remainder. -/
theorem denoted_lowDigits (base width n : Nat) :
    denoted base (lowDigits base width n) = n % base ^ width := by
  induction width generalizing n with
  | zero => exact (Nat.mod_one n).symm
  | succ width ih =>
    rw [lowDigits, denoted_concat, ih, Nat.pow_succ, Nat.mul_comm (base ^ width), Nat.mod_mul,
      Nat.add_comm]

/-- Digits are the lowest digits of what they denote. -/
theorem lowDigits_denoted {base : Nat} {ds : List Nat} (h : ∀ d ∈ ds, d < base) :
    lowDigits base ds.length (denoted base ds) = ds := by
  induction ds using List.reverseRecOn with
  | nil => rfl
  | append_singleton ds d ih =>
    rw [List.forall_mem_append, List.forall_mem_singleton] at h
    have hpos : 0 < base := Nat.zero_lt_of_lt h.2
    have hdiv : (base * denoted base ds + d) / base = denoted base ds := by
      rw [Nat.mul_add_div hpos, Nat.div_eq_of_lt h.2, Nat.add_zero]
    have hmod : (base * denoted base ds + d) % base = d := by
      rw [Nat.mul_add_mod, Nat.mod_eq_of_lt h.2]
    rw [denoted_concat, List.length_append, List.length_singleton, lowDigits, hdiv, hmod, ih h.1]

/-- So many digits denote less than the power of the base. -/
theorem denoted_lt {base : Nat} {ds : List Nat} (h : ∀ d ∈ ds, d < base) :
    denoted base ds < base ^ ds.length := by
  induction ds using List.reverseRecOn with
  | nil => exact Nat.one_pos
  | append_singleton ds d ih =>
    rw [List.forall_mem_append, List.forall_mem_singleton] at h
    rw [denoted_concat, List.length_append, List.length_singleton, Nat.pow_succ,
      Nat.mul_comm _ base]
    calc base * denoted base ds + d < base * (denoted base ds + 1) := by
          rw [Nat.mul_add, Nat.mul_one]
          exact Nat.add_lt_add_left h.2 _
      _ ≤ base * base ^ ds.length := Nat.mul_le_mul_left base (ih h.1)

/-! ## Hexadecimal digits -/

/-- The value of a hexadecimal digit, and zero of another character. -/
def hexValue (c : Char) : Nat := (hexValue? c).getD 0

/-- A digit has the value that it was written for. -/
theorem hexValue_hexDigit {d : Nat} (h : d < 16) : hexValue (hexDigit d) = d := by
  rw [hexValue, hexValue?_hexDigit d h, Option.getD_some]

/-- The largest of the digits is f, and nothing comes after it. -/
theorem lt_of_isHex {c : Char} (hc : isHex c = true) : c.toNat < 103 := by
  rw [isHex, hexValue?] at hc
  split_ifs at hc with hdigit hlower hupper
  · exact Nat.lt_of_le_of_lt hdigit.2 (by decide)
  · exact Nat.lt_of_le_of_lt hlower.2 (by decide)
  · exact Nat.lt_of_le_of_lt hupper.2 (by decide)
  · cases hc

/-- What holds of every hexadecimal digit is seen by looking at the characters up to the last. -/
theorem forall_isHex {p : Char → Prop} {c : Char}
    (h : ∀ n < 103, isHex (Char.ofNat n) = true → p (Char.ofNat n)) (hc : isHex c = true) :
    p c := by
  have hp := h c.toNat (lt_of_isHex hc)
  rw [Char.ofNat_toNat] at hp
  exact hp hc

/-- A digit of base 16 has a value below 16. -/
theorem hexValue_lt {c : Char} (hc : isHex c = true) : hexValue c < 16 :=
  forall_isHex (p := fun c => hexValue c < 16) (by decide) hc

/-- A digit that is written for the value of another is the same one in lower case. -/
theorem hexDigit_hexValue {c : Char} (hc : isHex c = true) : hexDigit (hexValue c) = c.toLower :=
  forall_isHex (p := fun c => hexDigit (hexValue c) = c.toLower) (by decide) hc

/-- A digit stays one in lower case. -/
theorem isHex_toLower {c : Char} (hc : isHex c = true) : isHex c.toLower = true :=
  forall_isHex (p := fun c => isHex c.toLower = true) (by decide) hc

end Text

namespace RecordId

variable {id : RecordId} {ds s : List Char} {ns : List Nat} {n : Nat} {c : Char}

/-! ## Spellings -/

/-- Digits cut into groups of the given sizes, with a hyphen between any two. -/
inductive Hyphenates : List Nat → List Char → List Char → Prop
  | last {n : Nat} {ds : List Char} (h : ds.length = n) : Hyphenates [n] ds ds
  | group {n : Nat} {ns : List Nat} {g ds s : List Char} (hg : g.length = n)
      (h : Hyphenates ns ds s) : Hyphenates (n :: ns) (g ++ ds) (g ++ '-' :: s)

/-- The 32 hexadecimal digits of an identifier, each in either case. -/
structure AreDigits (ds : List Char) : Prop where
  length : ds.length = 32
  hex : ∀ c ∈ ds, isHex c = true

/-- The spellings of an identifier's digits: the digits themselves, or their hyphenated form, which
may stand inside a pair of braces or behind a mark. -/
inductive Spells (Mark : List Char → Prop) (ds : List Char) : List Char → Prop
  | plain : Spells Mark ds ds
  | hyphenated {s : List Char} (h : Hyphenates groups ds s) : Spells Mark ds s
  | braced {s : List Char} (h : Hyphenates groups ds s) : Spells Mark ds ('\x7b' :: s ++ ['\x7d'])
  | marked {m s : List Char} (hm : Mark m) (h : Hyphenates groups ds s) : Spells Mark ds (m ++ s)

/-- The mark with its letters in either case. -/
def IsUrn (m : List Char) : Prop := m.map Char.toLower = urn

/-- The bytes that hexadecimal digits denote, two digits to a byte. -/
def octets : List Char → List Nat
  | [] | [_] => []
  | high :: low :: ds => (16 * hexValue high + hexValue low) :: octets ds

/-- In one group there is no hyphen. -/
theorem hyphenates_singleton : Hyphenates [n] ds s ↔ ds.length = n ∧ s = ds := by
  constructor
  · intro h
    cases h with
    | last h => exact ⟨h, rfl⟩
    | group hg h => cases h
  · rintro ⟨h, rfl⟩
    exact .last h

/-- There are as many digits as the groups have together. -/
theorem Hyphenates.length_eq (h : Hyphenates ns ds s) : ds.length = ns.sum := by
  induction h with
  | last h => rw [h, List.sum_singleton]
  | group hg h ih => rw [List.length_append, hg, ih, List.sum_cons]

/-- The hyphenated form begins with the first digit. -/
theorem Hyphenates.head?_eq (h : Hyphenates (n :: ns) ds s) (hn : 0 < n) :
    s.head? = ds.head? := by
  cases h with
  | last h => rfl
  | group hg h =>
    obtain ⟨c, r, rfl⟩ := List.exists_cons_of_length_pos (hg.symm ▸ hn)
    rfl

/-! ## Finding the digits -/

/-- More groups than one are taken apart at the hyphen behind the first. -/
theorem ungroup?_cons (hne : ns ≠ []) :
    ungroup? (n :: ns) s =
      if (s.take n).length = n ∧ (s.take n).all isHex then
        match s.drop n with
        | '-' :: rest => (ungroup? ns rest).map (s.take n ++ ·)
        | _ => none
      else none := by
  obtain ⟨m, ns, rfl⟩ := List.exists_cons_of_ne_nil hne
  rfl

/-- **Digits are put together** from exactly the texts in which they are hyphenated. -/
theorem ungroup?_eq_some_iff :
    ungroup? ns s = some ds ↔ Hyphenates ns ds s ∧ ∀ c ∈ ds, isHex c = true := by
  constructor
  · intro h
    -- the reader goes by the lengths of the groups, and so does the induction
    induction ns generalizing s ds with
    | nil => cases h
    | cons n ns ih =>
      cases ns with
      | nil =>
        rw [ungroup?, Option.ite_none_right_eq_some, Option.some.injEq] at h
        obtain ⟨⟨hlen, hhex⟩, rfl⟩ := h
        exact ⟨.last hlen, List.all_eq_true.1 hhex⟩
      | cons m ns =>
        rw [ungroup?_cons (List.cons_ne_nil m ns), Option.ite_none_right_eq_some] at h
        obtain ⟨⟨hlen, hhex⟩, h⟩ := h
        split at h
        · rename_i rest hrest
          obtain ⟨ds, hds, rfl⟩ := Option.map_eq_some_iff.1 h
          obtain ⟨hgroups, hall⟩ := ih hds
          have hform := Hyphenates.group hlen hgroups
          rw [← hrest, List.take_append_drop] at hform
          exact ⟨hform, List.forall_mem_append.2 ⟨List.all_eq_true.1 hhex, hall⟩⟩
        · cases h
  · rintro ⟨h, hhex⟩
    -- here the text is given in groups already, and the induction is on these
    induction h with
    | last h => exact if_pos ⟨h, List.all_eq_true.2 hhex⟩
    | @group n ns g ds s hg h ih =>
      obtain ⟨hghex, hdshex⟩ := List.forall_mem_append.1 hhex
      have htake : (g ++ '-' :: s).take n = g := List.take_left' hg
      have hdrop : (g ++ '-' :: s).drop n = '-' :: s := List.drop_left' hg
      have hne : ns ≠ [] := by
        rintro rfl
        cases h
      rw [ungroup?_cons hne, htake, hdrop, if_pos ⟨hg, List.all_eq_true.2 hghex⟩]
      change (ungroup? ns s).map (g ++ ·) = _
      rw [ih hdshex, Option.map_some]

/-- The hyphens tell the hyphenated form from digits without them. -/
theorem Hyphenates.ungroup?_plain (h : Hyphenates groups ds s) : ungroup? [32] s = none := by
  have hhyphen : '-' ∈ s := by
    cases h with
    | group hg h => exact List.mem_append_right _ List.mem_cons_self
  refine Option.eq_none_iff_forall_ne_some.2 fun es hes => ?_
  obtain ⟨hplain, hhex⟩ := ungroup?_eq_some_iff.1 hes
  rw [(hyphenates_singleton.1 hplain).2] at hhyphen
  exact absurd (hhex '-' hhyphen) (by decide)

/-- A text that begins with a digit is not wrapped. -/
theorem unwrap_eq_self (h : ∀ c ∈ s.head?, isHex c = true) : unwrap s = (s, false) := by
  rcases s with _ | ⟨c, s⟩
  · rfl
  · have hc : isHex c = true := h c rfl
    have hbrace : c ≠ '\x7b' := by
      rintro rfl
      exact absurd hc (by decide)
    have hurn : c.toLower ≠ 'u' := forall_isHex (p := fun c => c.toLower ≠ 'u') (by decide) hc
    have hmark : beginsWithUrn (c :: s) = false := by
      rw [beginsWithUrn, beq_eq_false_iff_ne]
      exact fun h => hurn (List.cons.inj h).1
    rw [unwrap, if_neg fun h => hbrace (Option.some.inj h.1), hmark]
    rfl

/-- Braces are taken off. -/
theorem unwrap_braced (s : List Char) : unwrap ('\x7b' :: s ++ ['\x7d']) = (s, true) := by
  have hbraces : ('\x7b' :: s ++ ['\x7d']).head? = some '\x7b' ∧
      2 ≤ ('\x7b' :: s ++ ['\x7d']).length ∧
      ('\x7b' :: s ++ ['\x7d']).getLast? = some '\x7d' :=
    ⟨rfl, by simp, List.getLast?_concat⟩
  rw [unwrap, if_pos hbraces, List.cons_append, List.tail_cons, List.dropLast_concat]

/-- So is the mark of a name, in whatever case it is written. -/
theorem unwrap_marked {m : List Char} (hm : IsUrn m) (s : List Char) :
    unwrap (m ++ s) = (s, true) := by
  have hlen : m.length = 9 := by
    rw [← List.length_map (f := Char.toLower), hm]
    rfl
  have hbrace : (m ++ s).head? ≠ some '\x7b' := by
    rcases m with _ | ⟨c, m⟩
    · cases hlen
    · intro h
      cases h
      exact absurd (List.cons.inj hm).1 (by decide)
  have hmark : beginsWithUrn (m ++ s) = true := by
    rw [beginsWithUrn, List.take_left' hlen, beq_iff_eq]
    exact hm
  rw [unwrap, if_neg fun h => hbrace h.1, if_pos hmark, List.drop_left' hlen]

/-- A text stands in braces, behind a mark, or is not wrapped. -/
theorem unwrap_cases (s : List Char) :
    (∃ t, s = '\x7b' :: t ++ ['\x7d'] ∧ unwrap s = (t, true)) ∨
      (∃ m t, IsUrn m ∧ s = m ++ t ∧ unwrap s = (t, true)) ∨ unwrap s = (s, false) := by
  by_cases hbraces : s.head? = some '\x7b' ∧ 2 ≤ s.length ∧ s.getLast? = some '\x7d'
  · obtain ⟨hhead, hlen, hlast⟩ := hbraces
    obtain ⟨t, rfl⟩ := List.head?_eq_some_iff.1 hhead
    obtain ⟨c, t, rfl⟩ := List.exists_cons_of_length_pos (Nat.le_of_succ_le_succ hlen)
    rw [List.getLast?_cons_cons] at hlast
    obtain ⟨t, ht⟩ := List.getLast?_eq_some_iff.1 hlast
    rw [ht]
    exact .inl ⟨t, rfl, unwrap_braced t⟩
  · by_cases hmark : beginsWithUrn s = true
    · have hurn : IsUrn (s.take 9) := beq_iff_eq.1 hmark
      have hunwrap := unwrap_marked hurn (s.drop 9)
      rw [List.take_append_drop] at hunwrap
      exact .inr (.inl ⟨_, _, hurn, (List.take_append_drop 9 s).symm, hunwrap⟩)
    · exact .inr (.inr (by rw [unwrap, if_neg hbraces, if_neg hmark]))

/-- **Digits are found** in exactly their spellings. -/
theorem digits?_eq_some_iff : digits? s = some ds ↔ AreDigits ds ∧ Spells IsUrn ds s := by
  constructor
  · intro h
    rcases unwrap_cases s with ⟨t, rfl, ht⟩ | ⟨m, t, hm, rfl, ht⟩ | ht
    · rw [digits?, ht] at h
      obtain ⟨hgroups, hhex⟩ := ungroup?_eq_some_iff.1 h
      exact ⟨⟨hgroups.length_eq, hhex⟩, .braced hgroups⟩
    · rw [digits?, ht] at h
      obtain ⟨hgroups, hhex⟩ := ungroup?_eq_some_iff.1 h
      exact ⟨⟨hgroups.length_eq, hhex⟩, .marked hm hgroups⟩
    · -- nothing is around the digits; whether they stand in groups is tried after whether they do
      -- not
      rw [digits?, ht] at h
      rcases Option.or_eq_some_iff.1 h with h | ⟨-, h⟩
      · obtain ⟨hplain, hhex⟩ := ungroup?_eq_some_iff.1 h
        obtain ⟨hlen, rfl⟩ := hyphenates_singleton.1 hplain
        exact ⟨⟨hlen, hhex⟩, .plain⟩
      · obtain ⟨hgroups, hhex⟩ := ungroup?_eq_some_iff.1 h
        exact ⟨⟨hgroups.length_eq, hhex⟩, .hyphenated hgroups⟩
  · rintro ⟨hds, h⟩
    cases h with
    | plain =>
      have hplain := ungroup?_eq_some_iff.2 ⟨.last hds.length, hds.hex⟩
      rw [digits?, unwrap_eq_self fun c hc => hds.hex c (List.mem_of_mem_head? hc)]
      change (ungroup? [32] ds).or (ungroup? groups ds) = _
      rw [hplain, Option.some_or]
    | hyphenated h =>
      have hhead : ∀ c ∈ s.head?, isHex c = true := fun c hc => by
        rw [h.head?_eq (by decide)] at hc
        exact hds.hex c (List.mem_of_mem_head? hc)
      rw [digits?, unwrap_eq_self hhead]
      change (ungroup? [32] s).or (ungroup? groups s) = _
      rw [h.ungroup?_plain, Option.none_or]
      exact ungroup?_eq_some_iff.2 ⟨h, hds.hex⟩
    | braced h =>
      rw [digits?, unwrap_braced]
      exact ungroup?_eq_some_iff.2 ⟨h, hds.hex⟩
    | marked hm h =>
      rw [digits?, unwrap_marked hm]
      exact ungroup?_eq_some_iff.2 ⟨h, hds.hex⟩

/-! ## What digits denote -/

/-- The digits of an identifier are 32 digits of base 16. -/
theorem areDigits_digits (id : RecordId) : AreDigits id.digits := by
  refine ⟨by rw [digits, List.length_map, length_lowDigits], fun c hc => ?_⟩
  obtain ⟨d, hd, rfl⟩ := List.mem_map.1 hc
  rw [isHex, hexValue?_hexDigit d (lt_of_mem_lowDigits (by decide) hd)]
  rfl

/-- They still are in lower case. -/
theorem AreDigits.toLower (h : AreDigits ds) : AreDigits (ds.map Char.toLower) := by
  refine ⟨by rw [List.length_map, h.length], fun c hc => ?_⟩
  obtain ⟨d, hd, rfl⟩ := List.mem_map.1 hc
  exact isHex_toLower (h.hex d hd)

/-- The sum over the digits is the number that they denote. -/
theorem hexSum_eq_denoted (s : List Char) : hexSum s = denoted 16 (s.map hexValue) :=
  List.foldl_map.symm

/-- The digits of an identifier denote its number. -/
theorem hexSum_digits (id : RecordId) : hexSum id.digits = id.toNat := by
  have hvalues : id.digits.map hexValue = lowDigits 16 32 id.toNat := by
    rw [digits, List.map_map]
    exact (List.map_congr_left fun d hd =>
      hexValue_hexDigit (lt_of_mem_lowDigits (by decide) hd)).trans (List.map_id _)
  rw [hexSum_eq_denoted, hvalues, denoted_lowDigits]
  exact Nat.mod_eq_of_lt id.isLt

/-- An identifier is known by its digits. -/
theorem digits_inj {a b : RecordId} : a.digits = b.digits ↔ a = b := by
  refine ⟨fun h => toNat_inj.1 ?_, fun h => h ▸ rfl⟩
  rw [← hexSum_digits a, ← hexSum_digits b, h]

/-- Every one of them has a value below 16. -/
theorem AreDigits.hexValue_lt (h : AreDigits ds) : ∀ d ∈ ds.map hexValue, d < 16 := by
  intro d hd
  obtain ⟨c, hc, rfl⟩ := List.mem_map.1 hd
  exact Text.hexValue_lt (h.hex c hc)

/-- 32 digits fit an identifier. -/
theorem AreDigits.toNat_ofNat (h : AreDigits ds) : (ofNat (hexSum ds)).toNat = hexSum ds := by
  have hlt := denoted_lt h.hexValue_lt
  rw [List.length_map, h.length, ← hexSum_eq_denoted] at hlt
  exact Nat.mod_eq_of_lt hlt

/-- The digits of an identifier are those that it was made of, in lower case. -/
theorem digits_ofNat (h : AreDigits ds) : (ofNat (hexSum ds)).digits = ds.map Char.toLower := by
  have hvalues : lowDigits 16 32 (hexSum ds) = ds.map hexValue := by
    have hlow := lowDigits_denoted h.hexValue_lt
    rwa [List.length_map, h.length, ← hexSum_eq_denoted] at hlow
  rw [digits, h.toNat_ofNat, hvalues, List.map_map]
  exact List.map_congr_left fun c hc => hexDigit_hexValue (h.hex c hc)

/-- Two digits make an octet. -/
theorem length_octets (ds : List Char) : (octets ds).length = ds.length / 2 := by
  fun_induction octets ds with
  | case1 => rfl
  | case2 c => exact (Nat.div_eq_of_lt Nat.one_lt_two).symm
  | case3 high low ds ih =>
    rw [List.length_cons, ih, List.length_cons, List.length_cons]
    omega

/-- An octet is below 256. -/
theorem octets_lt (h : ∀ c ∈ ds, isHex c = true) : ∀ b ∈ octets ds, b < 256 := by
  fun_induction octets ds with
  | case1 => exact List.forall_mem_nil _
  | case2 c => exact List.forall_mem_nil _
  | case3 high low ds ih =>
    rw [List.forall_mem_cons, List.forall_mem_cons] at h
    have hhigh := Text.hexValue_lt h.1
    have hlow := Text.hexValue_lt h.2.1
    exact List.forall_mem_cons.2 ⟨by omega, ih h.2.2⟩

/-- A byte is read onto a number as its two digits are. -/
theorem foldl_octets (h : 2 ∣ ds.length) (start : Nat) :
    (octets ds).foldl (fun n b => 256 * n + b) start =
      ds.foldl (fun n c => 16 * n + hexValue c) start := by
  fun_induction octets ds generalizing start with
  | case1 => rfl
  | case2 c => exact absurd (Nat.dvd_one.1 h) (by decide)
  | case3 high low ds ih =>
    have hbyte : 256 * start + (16 * hexValue high + hexValue low) =
        16 * (16 * start + hexValue high) + hexValue low := by omega
    rw [List.foldl_cons, List.foldl_cons, List.foldl_cons, hbyte]
    exact ih ((Nat.dvd_add_left (Nat.dvd_refl 2)).1 h) _

/-- The bytes of an identifier are those that its digits denote. -/
theorem bytes_ofNat (h : AreDigits ds) : (ofNat (hexSum ds)).bytes = octets ds := by
  have hsum : hexSum ds = denoted 256 (octets ds) :=
    (foldl_octets (h.length ▸ by decide) 0).symm
  have hlow := lowDigits_denoted (octets_lt h.hex)
  rwa [length_octets, h.length, ← hsum, ← h.toNat_ofNat] at hlow

/-! ## Reading and writing -/

/-- Digits are hyphenated into their groups. -/
theorem hyphenates_hyphenate (hne : ns ≠ []) (h : ds.length = ns.sum) :
    Hyphenates ns ds (hyphenate ns ds) := by
  induction ns generalizing ds with
  | nil => exact absurd rfl hne
  | cons n ns ih =>
    rw [List.sum_cons] at h
    cases ns with
    | nil =>
      have htake : ds.take n = ds := List.take_of_length_le (Nat.le_of_eq h)
      rw [hyphenate, htake]
      exact .last h
    | cons m ns =>
      have htake : (ds.take n).length = n := by
        rw [List.length_take]
        omega
      have hdrop : (ds.drop n).length = (m :: ns).sum := by
        rw [List.length_drop]
        omega
      have hform := Hyphenates.group htake (ih (List.cons_ne_nil m ns) hdrop)
      rwa [List.take_append_drop] at hform

/-- An identifier is written with hyphens. -/
theorem hyphenates_write (id : RecordId) : Hyphenates groups id.digits id.write :=
  hyphenates_hyphenate (by decide) (areDigits_digits id).length

/-- The digits of an identifier are the only ones that its written form has. -/
theorem hyphenates_write_iff (hds : AreDigits ds) :
    Hyphenates groups ds id.write ↔ id.digits = ds := by
  refine ⟨fun h => Option.some.inj ?_, fun h => h ▸ hyphenates_write id⟩
  rw [← ungroup?_eq_some_iff.2 ⟨h, hds.hex⟩]
  exact (ungroup?_eq_some_iff.2 ⟨hyphenates_write id, (areDigits_digits id).hex⟩).symm

/-- **Whatever spells 32 digits is read** as the number that they denote. -/
theorem read_spelled (hds : AreDigits ds) (h : Spells IsUrn ds s) :
    read s = .ok (ofNat (hexSum ds)) := by
  rw [read, digits?_eq_some_iff.2 ⟨hds, h⟩]

/-- What is read is made of the digits that the text spells. -/
theorem read_eq_ok_iff :
    read s = .ok id ↔ ∃ ds, AreDigits ds ∧ Spells IsUrn ds s ∧ ofNat (hexSum ds) = id := by
  constructor
  · intro h
    rw [read] at h
    split at h
    · rename_i ds hds
      obtain ⟨hdigits, hspells⟩ := digits?_eq_some_iff.1 hds
      exact ⟨ds, hdigits, hspells, Except.ok.inj h⟩
    · cases h
  · rintro ⟨ds, hds, hspells, rfl⟩
    exact read_spelled hds hspells

/-- **The written form of an identifier** is read as that identifier. -/
theorem read_write (id : RecordId) : read id.write = .ok id := by
  have hsum : ofNat (hexSum id.digits) = id := by
    rw [← toNat_inj, (areDigits_digits id).toNat_ofNat, hexSum_digits]
  rw [read_spelled (areDigits_digits id) (.hyphenated (hyphenates_write id)), hsum]

/-- A text is parsed as its characters are read. -/
theorem parse_eq_ok_iff {s : String} : parse s = .ok id ↔ read s.toList = .ok id := by
  rw [parse]
  cases read s.toList <;> simp

/-- **Identifiers are read from their spellings.** A text is read as an identifier exactly if it
spells digits, and its bytes are those that the digits denote. The written form of an identifier is
read as that identifier. A text that spells digits spells an identifier exactly if the written form
has the same digits, in lower case and hyphenated: all spellings of the identifier share it. -/
theorem reads_spellings :
    (∀ s : String, (∃ id, parse s = .ok id) ↔ ∃ ds, AreDigits ds ∧ Spells IsUrn ds s.toList) ∧
    (∀ (s : String) (ds : List Char), AreDigits ds → Spells IsUrn ds s.toList →
      ∃ id, parse s = .ok id ∧ id.bytes = octets ds) ∧
    (∀ id : RecordId, parse id.text = .ok id) ∧
    ∀ (s : String) (id : RecordId) (ds : List Char), AreDigits ds → Spells IsUrn ds s.toList →
      (parse s = .ok id ↔ Hyphenates groups (ds.map Char.toLower) id.text.toList) := by
  have hparse : ∀ {s : String} {id : RecordId}, parse s = .ok id ↔
      ∃ ds, AreDigits ds ∧ Spells IsUrn ds s.toList ∧ ofNat (hexSum ds) = id :=
    parse_eq_ok_iff.trans read_eq_ok_iff
  refine ⟨fun s => ⟨?_, ?_⟩, fun s ds hds hspells => ?_, fun id => ?_,
    fun s id ds hds hspells => ?_⟩
  · rintro ⟨id, h⟩
    obtain ⟨ds, hds, hspells, -⟩ := hparse.1 h
    exact ⟨ds, hds, hspells⟩
  · rintro ⟨ds, hds, hspells⟩
    exact ⟨_, hparse.2 ⟨ds, hds, hspells, rfl⟩⟩
  · exact ⟨_, hparse.2 ⟨ds, hds, hspells, rfl⟩, bytes_ofNat hds⟩
  · rw [parse_eq_ok_iff, text, String.toList_ofList]
    exact read_write id
  · rw [parse_eq_ok_iff, text, String.toList_ofList, hyphenates_write_iff hds.toLower,
      ← digits_ofNat hds, digits_inj, read_spelled hds hspells, Except.ok.injEq, eq_comm]

/-- The mark is known in capitals too. -/
theorem reads_capital_mark :
    parse "URN:UUID:01890a5d-ac96-774b-bcce-b302099a8057" =
        .ok ⟨0x01890a5dac96774bbcceb302099a8057, by decide⟩ ∧
      ¬ ∃ ds, AreDigits ds ∧
        Spells (· = urn) ds "URN:UUID:01890a5d-ac96-774b-bcce-b302099a8057".toList := by
  refine ⟨by decide +kernel, ?_⟩
  rintro ⟨ds, hds, hspells⟩
  have hcapital : ¬ isHex 'U' = true := by decide
  generalize hs : "URN:UUID:01890a5d-ac96-774b-bcce-b302099a8057".toList = s at hspells
  cases hspells with
  | plain => exact hcapital (hds.hex 'U' (hs ▸ by decide))
  | hyphenated h =>
    have hhead := h.head?_eq (by decide)
    rw [← hs] at hhead
    exact hcapital (hds.hex 'U' (List.mem_of_mem_head? hhead.symm))
  | braced h => cases hs
  | marked hm h =>
    subst hm
    cases hs

end RecordId

end Reconciliation
