import Reconciliation.Proofs.Spelling

/-!
# What is read was spelled

The reader takes nothing that the grammar does not have. What it reads as a string is one of the
texts of that string, what it reads as a number is a literal, and whatever it takes for a value,
kept or passed over, has the form of one. Each token is taken back from what the reader says of it:
the text before is the token, and the text after is what is left.

* `Json.spellsText_of_stringTail`: strings.
* `Json.spells_of_literal`: numbers.
* `Json.value_cases`, `Json.items_cases`, `Json.members_cases`: one step of each reader, with
  whatever care it reads.
* `Json.takes`: values, and the rests of arrays and objects, by their form.
* `Json.Part.Stands.unique`: where a value ends does not depend on who reads it.
-/

namespace Reconciliation.Json

open Text

variable {care : Care} {c : Char} {cs r s t rest : List Char} {n : Nat}

/-- What is made of what is read leaves what was left. -/
theorem front_of_map {α β : Type} {x : Except Failure (α × List Char)} {f : α → β} {b : β}
    (h : (x.map fun (a, r) => (f a, r)) = .ok (b, rest)) : ∃ a, x = .ok (a, rest) ∧ f a = b := by
  obtain ⟨⟨a, r⟩, hx, hp⟩ := ok_of_map h
  obtain ⟨rfl, rfl⟩ := Prod.mk.inj hp
  exact ⟨a, hx, rfl⟩

/-! ## Strings -/

/-- Inside an escape a hexadecimal digit is due. -/
theorem hexValue?_of_stringChars {high : Option Nat} {seen value : Nat} {p : List Char × List Char}
    (h : stringChars care (.digits high seen value) s = .ok p) :
    ∃ c d r, s = c :: r ∧ hexValue? c = some d := by
  cases s with
  | nil =>
    rw [stringChars] at h
    cases h
  | cons c r =>
    rw [stringChars] at h
    split at h
    · split at h <;> cases h
    · rename_i d hd
      exact ⟨c, d, r, rfl, hd⟩

/-- An escape by a number has its four digits. -/
theorem fourDigits_of_stringChars {high : Option Nat} {p : List Char × List Char}
    (h : stringChars care (.digits high 0 0) s = .ok p) :
    ∃ n t r, FourDigits n t ∧ s = t ++ r := by
  obtain ⟨a, w, s, rfl, ha⟩ := hexValue?_of_stringChars h
  rw [stringChars_digit (by decide) ha] at h
  obtain ⟨b, x, s, rfl, hb⟩ := hexValue?_of_stringChars h
  rw [stringChars_digit (by decide) hb] at h
  obtain ⟨c, y, s, rfl, hc⟩ := hexValue?_of_stringChars h
  rw [stringChars_digit (by decide) hc] at h
  obtain ⟨d, z, s, rfl, hd⟩ := hexValue?_of_stringChars h
  exact ⟨_, _, s, .intro ha hb hc hd, rfl⟩

/-- A hexadecimal digit is below sixteen. -/
theorem hexValue?_lt {d : Nat} (h : hexValue? c = some d) : d < 16 := by
  rw [hexValue?] at h
  split_ifs at h with hdigit hlower hupper
  all_goals
    obtain rfl := Option.some.inj h
  · have hle : c.toNat ≤ 57 := hdigit.2
    omega
  · have hle : c.toNat ≤ 102 := hlower.2
    omega
  · have hle : c.toNat ≤ 70 := hupper.2
    omega

/-- Four digits that are no half of a pair are the number of a character. -/
theorem FourDigits.toNat_ofNat (h : FourDigits n t) (hlow : isLowSurrogate n = false)
    (hhigh : isHighSurrogate n = false) : (Char.ofNat n).toNat = n := by
  have hlt : n < 0x10000 := by
    cases h with
    | intro ha hb hc hd =>
      have hw := hexValue?_lt ha
      have hx := hexValue?_lt hb
      have hy := hexValue?_lt hc
      have hz := hexValue?_lt hd
      omega
  simp only [isLowSurrogate, isHighSurrogate, Bool.and_eq_false_iff, decide_eq_false_iff_not]
    at hlow hhigh
  have hvalid : n.isValidChar := by
    rw [Nat.isValidChar]
    omega
  rw [Char.ofNat, dif_pos hvalid]
  rfl

/-- The second half of a pair follows the first. -/
theorem secondHalf_of_stringChars {high : Nat} {p : List Char × List Char}
    (h : stringChars care (.second high) s = .ok p) :
    ∃ r, s = '\\' :: 'u' :: r ∧ stringChars care (.digits (some high) 0 0) r = .ok p := by
  cases s with
  | nil => simp [stringChars] at h
  | cons c s =>
    by_cases hc : c = '\\'
    · subst hc
      cases s with
      | nil => simp [stringChars] at h
      | cons e s =>
        by_cases he : e = 'u'
        · subst he
          rw [stringChars, stringChars] at h
          exact ⟨s, rfl, h⟩
        · simp [stringChars] at h
    · simp [stringChars] at h

/-- What stands in front of the characters that follow: a piece that has the form of a character
and, unless it is passed over, is one of the texts of the character that is read. -/
def TakesChar (care : Care) (s cs rest : List Char) : Prop :=
  ∃ c cs' t r, s = t ++ r ∧ cs = c :: cs' ∧ stringChars care .plain r = .ok (cs', rest) ∧
    r.length < s.length ∧ (∀ u, IsQuoted u → IsQuoted (t ++ u)) ∧ (care ≠ .skip → SpellsChar c t)

/-- The step that all characters share: a piece of the text is one character, and the rest is read
as before. -/
theorem TakesChar.of_map
    (h : ((stringChars care .plain r).map fun (cs, rest) => (c :: cs, rest)) = .ok (cs, rest))
    (ht : t ≠ []) (hform : ∀ u, IsQuoted u → IsQuoted (t ++ u))
    (hchar : care ≠ .skip → SpellsChar c t) : TakesChar care (t ++ r) cs rest := by
  obtain ⟨cs', hr, rfl⟩ := front_of_map h
  have hlength := List.length_pos_iff.2 ht
  exact ⟨c, cs', t, r, rfl, rfl, hr, by rw [List.length_append]; omega, hform, hchar⟩

/-- An escape by a number is one character, or half of a pair. -/
theorem takesChar_number (h : stringChars care (.digits none 0 0) s = .ok (cs, rest)) :
    TakesChar care ('\\' :: 'u' :: s) cs rest := by
  obtain ⟨n, t, r, ht, rfl⟩ := fourDigits_of_stringChars h
  have hform : ∀ u, IsQuoted u → IsQuoted (('\\' :: 'u' :: t) ++ u) := fun u hu => .number ht hu
  by_cases hcare : care = .skip
  · subst hcare
    rw [ht.stringChars_skip] at h
    exact .of_map h (List.cons_ne_nil _ _) hform fun hskip => absurd rfl hskip
  · rw [ht.stringChars hcare] at h
    dsimp only at h
    split_ifs at h with hlow hhigh
    · -- the first half of a pair, so the second half follows
      obtain ⟨s, rfl, hsecond⟩ := secondHalf_of_stringChars h
      obtain ⟨m, u, r, hu, rfl⟩ := fourDigits_of_stringChars hsecond
      rw [hu.stringChars hcare] at hsecond
      dsimp only at hsecond
      split_ifs at hsecond with hpair
      have hboth : '\\' :: 'u' :: (t ++ '\\' :: 'u' :: (u ++ r)) =
          ('\\' :: 'u' :: (t ++ '\\' :: 'u' :: u)) ++ r := by
        simp only [List.cons_append, List.append_assoc]
      rw [hboth]
      refine .of_map hsecond (List.cons_ne_nil _ _) (fun v hv => ?_)
        fun _ => .pair ht hu hhigh hpair
      have hquoted := IsQuoted.number ht (.number hu hv)
      rwa [List.cons_append, List.cons_append, List.append_assoc, List.cons_append,
        List.cons_append]
    · have hn := ht.toNat_ofNat (Bool.eq_false_iff.2 hlow) (Bool.eq_false_iff.2 hhigh)
      exact .of_map h (List.cons_ne_nil _ _) hform fun _ => .number (hn.symm ▸ ht)

/-- Behind a backslash stands a letter, or a number. -/
theorem takesChar_escape (h : stringChars care .escape s = .ok (cs, rest)) :
    TakesChar care ('\\' :: s) cs rest := by
  cases s with
  | nil => simp [stringChars] at h
  | cons e r =>
    by_cases he : e = 'u'
    · subst he
      rw [stringChars] at h
      exact takesChar_number h
    · rw [stringChars] at h
      · split at h
        · rename_i c hc
          exact .of_map (t := ['\\', e]) h (List.cons_ne_nil _ _) (fun u hu => .letter hc hu)
            fun _ => .letter hc
        · cases h
      · exact he

/-- Inside a string stands its end, or a character. -/
theorem end_or_takesChar (h : stringChars care .plain s = .ok (cs, rest)) :
    (s = '"' :: rest ∧ cs = []) ∨ TakesChar care s cs rest := by
  cases s with
  | nil => simp [stringChars] at h
  | cons c r =>
    by_cases hquote : c = '"'
    · subst hquote
      rw [stringChars] at h
      obtain ⟨rfl, rfl⟩ := Prod.mk.inj (Except.ok.inj h)
      exact .inl ⟨rfl, rfl⟩
    by_cases hback : c = '\\'
    · subst hback
      rw [stringChars] at h
      exact .inr (takesChar_escape h)
    by_cases hcontrol : 0x20 ≤ c.toNat
    · rw [stringChars_itself hcontrol hquote hback] at h
      exact .inr (.of_map (t := [c]) h (List.cons_ne_nil _ _)
        (fun u hu => .itself hcontrol hquote hback hu) fun _ => .itself hcontrol hquote hback)
    · simp [stringChars, Nat.not_le.1 hcontrol] at h

/-- The characters of a string are taken one after another. -/
theorem spellsText_of_stringChars (h : stringChars care .plain s = .ok (cs, rest)) :
    ∃ t, s = t ++ '"' :: rest ∧ IsQuoted t ∧ (care ≠ .skip → SpellsText cs t) := by
  induction hlength : s.length using Nat.strongRecOn generalizing s cs with
  | ind k ih =>
    obtain ⟨rfl, rfl⟩ | ⟨c, cs', t, r, rfl, rfl, hr, hshorter, hform, hchar⟩ := end_or_takesChar h
    · exact ⟨[], rfl, .nil, fun _ => .nil⟩
    · obtain ⟨u, rfl, hquoted, hspells⟩ := ih r.length (hlength ▸ hshorter) hr rfl
      exact ⟨t ++ u, (List.append_assoc ..).symm, hform u hquoted,
        fun hcare => .cons (hchar hcare) (hspells hcare)⟩

/-- **What is read as a string** is one of its texts, and what is passed over has the form of
one. -/
theorem spellsText_of_stringTail {x : String} (h : stringTail care s = .ok (x, rest)) :
    ∃ t, s = t ++ '"' :: rest ∧ IsQuoted t ∧ (care ≠ .skip → SpellsText x.toList t) := by
  rw [stringTail] at h
  obtain ⟨cs, hchars, rfl⟩ := front_of_map h
  rw [String.toList_ofList]
  exact spellsText_of_stringChars hchars

/-! ## Numbers -/

/-- A run of digits is taken off the front. -/
theorem eq_takeWhile_append (p : Char → Bool) (s : List Char) :
    s = s.takeWhile p ++ s.drop (s.takeWhile p).length :=
  (List.prefix_iff_eq_append.1 (List.takeWhile_prefix p)).symm

/-- The digits at the front of a text are a run unless there are none. -/
theorem isRun_takeWhile (h : s.takeWhile isDigit ≠ []) : IsRun (s.takeWhile isDigit) :=
  ⟨h, fun _ => List.mem_takeWhile_imp⟩

/-- What is read as the whole part of a number are digits without a needless zero in front. -/
theorem run_of_wholeDigits {ds : List Char} (h : wholeDigits care s = .ok (ds, rest)) :
    s = ds ++ rest ∧ IsRun ds ∧ ∀ r, ds = '0' :: r → r = [] := by
  rw [wholeDigits.eq_def] at h
  split at h
  · split at h
    · cases h
    · obtain ⟨rfl, rfl⟩ := Prod.mk.inj (Except.ok.inj h)
      refine ⟨rfl, by decide, ?_⟩
      rintro r ⟨⟩
      rfl
  · rename_i hzero
    dsimp only at h
    split at h
    · cases h
    · rename_i hne
      obtain ⟨rfl, rfl⟩ := Prod.mk.inj (Except.ok.inj h)
      refine ⟨eq_takeWhile_append isDigit s, isRun_takeWhile hne, fun r hr => ?_⟩
      have hfront := eq_takeWhile_append isDigit s
      rw [hr] at hfront
      exact absurd hfront (hzero _)

/-- What is read as a fraction is a point with digits behind it, or nothing at all. -/
theorem point_of_fractionDigits {f : Option (List Char)}
    (h : fractionDigits care s = .ok (f, rest)) :
    s = point f ++ rest ∧ ∀ ds, f = some ds → IsRun ds := by
  rw [fractionDigits.eq_def] at h
  split at h
  · rename_i r
    dsimp only at h
    split at h
    · cases h
    · rename_i hne
      obtain ⟨rfl, rfl⟩ := Prod.mk.inj (Except.ok.inj h)
      refine ⟨congrArg ('.' :: ·) (eq_takeWhile_append isDigit r), ?_⟩
      rintro _ ⟨⟩
      exact isRun_takeWhile hne
  · obtain ⟨rfl, rfl⟩ := Prod.mk.inj (Except.ok.inj h)
    exact ⟨rfl, nofun⟩

/-- And what is read as an exponent is one in a spelling that the grammar has. -/
theorem spells_of_exponentDigits {x : Option (Bool × List Char)}
    (h : exponentDigits care s = .ok (x, rest)) : ∃ t, s = t ++ rest ∧ SpellsExponent x t := by
  -- behind the letter a sign may stand, and a run of digits is due
  have hafter : ∀ (front r : List Char) (negative : Bool),
      (∀ ds, IsRun ds → SpellsExponent (some (negative, ds)) (front ++ ds)) →
      (if r.takeWhile isDigit = [] then .error (digitDue care r)
        else .ok (some (negative, r.takeWhile isDigit), r.drop (r.takeWhile isDigit).length) :
        Except Failure (Option (Bool × List Char) × List Char)) = .ok (x, rest) →
      ∃ t, front ++ r = t ++ rest ∧ SpellsExponent x t := by
    intro front r negative hfront hr
    split at hr
    · cases hr
    · rename_i hne
      obtain ⟨rfl, rfl⟩ := Prod.mk.inj (Except.ok.inj hr)
      refine ⟨_, ?_, hfront _ (isRun_takeWhile hne)⟩
      rw [List.append_assoc, ← eq_takeWhile_append isDigit r]
  rw [exponentDigits.eq_def] at h
  dsimp only at h
  split at h
  · split at h
    · exact hafter ['e', '-'] _ true (fun _ => .minus (.inl rfl)) h
    · exact hafter ['e', '+'] _ false (fun _ => .plus (.inl rfl)) h
    · exact hafter ['e'] _ false (fun _ => .bare (.inl rfl)) h
  · split at h
    · exact hafter ['E', '-'] _ true (fun _ => .minus (.inr rfl)) h
    · exact hafter ['E', '+'] _ false (fun _ => .plus (.inr rfl)) h
    · exact hafter ['E'] _ false (fun _ => .bare (.inr rfl)) h
  · obtain ⟨rfl, rfl⟩ := Prod.mk.inj (Except.ok.inj h)
    exact ⟨[], rfl, .none⟩

/-- The parts of a literal behind its sign. -/
theorem spells_of_parts {whole s₁ s₂ : List Char} {fraction : Option (List Char)}
    {exponent : Option (Bool × List Char)} (negative : Bool)
    (hwhole : wholeDigits care s = .ok (whole, s₁))
    (hfraction : fractionDigits care s₁ = .ok (fraction, s₂))
    (hexponent : exponentDigits care s₂ = .ok (exponent, rest)) :
    ∃ t, (if negative then ['-'] else []) ++ s = t ++ rest ∧
      Literal.Spells ⟨negative, whole, fraction, exponent⟩ t := by
  obtain ⟨rfl, hrun, hzero⟩ := run_of_wholeDigits hwhole
  obtain ⟨rfl, hpoint⟩ := point_of_fractionDigits hfraction
  obtain ⟨x, rfl, hx⟩ := spells_of_exponentDigits hexponent
  exact ⟨_, by simp only [List.append_assoc], hrun, hzero, hpoint, x, hx, rfl⟩

/-- **What is read as a number** is one of the texts of its literal. -/
theorem spells_of_literal {l : Literal} (h : literal care s = .ok (l, rest)) :
    ∃ t, s = t ++ rest ∧ l.Spells t := by
  rw [literal.eq_def] at h
  dsimp only at h
  split at h
  all_goals
    obtain ⟨⟨whole, s₁⟩, hwhole, h⟩ := ok_of_bind h
    obtain ⟨⟨fraction, s₂⟩, hfraction, h⟩ := ok_of_bind h
    obtain ⟨⟨exponent, s₃⟩, hexponent, h⟩ := ok_of_bind h
    obtain ⟨rfl, rfl⟩ := Prod.mk.inj (Except.ok.inj h)
  · exact spells_of_parts true hwhole hfraction hexponent
  · exact spells_of_parts false hwhole hfraction hexponent

/-- A number is read only where a literal is spelled, and it is the number of that literal. -/
theorem spells_of_number {x : Number} (h : number care s = .ok (x, rest)) :
    ∃ (l : Literal) (t : List Char), s = t ++ rest ∧ l.Spells t ∧ l.number = x := by
  rw [number] at h
  obtain ⟨⟨l, r⟩, hliteral, hgo⟩ := ok_of_bind h
  obtain ⟨t, rfl, ht⟩ := spells_of_literal hliteral
  dsimp only at hgo
  split at hgo
  · obtain ⟨rfl, rfl⟩ := Prod.mk.inj (Except.ok.inj hgo)
    exact ⟨l, t, rfl, ht, rfl⟩
  · obtain ⟨rfl, rfl⟩ := Prod.mk.inj (Except.ok.inj hgo)
    exact ⟨l, t, rfl, ht, rfl⟩
  · cases hgo

/-! ## Tokens -/

variable {first b : Bool} {d fuel room : Nat} {v : Value} {vs : List Value}
  {ms : List (String × Value)}

/-- White space is passed over, and nothing else. -/
theorem spaces_of_skipSpace (h : skipSpace s = r) : ∃ ws, IsSpaces ws ∧ s = ws ++ r :=
  ⟨s.takeWhile isSpace, fun _ => List.mem_takeWhile_imp,
    h ▸ List.takeWhile_append_dropWhile.symm⟩

/-- Nothing but white space stands at the end. -/
theorem spaces_of_finish (h : finish s = .ok ()) : IsSpaces s := by
  rw [finish] at h
  split at h
  · rename_i heq
    obtain ⟨ws, hws, rfl⟩ := spaces_of_skipSpace heq
    rwa [List.append_nil]
  · cases h

/-- A word is read letter by letter. -/
theorem eq_of_word {letters : List Char} (h : word letters s = .ok ((), r)) : s = letters ++ r := by
  induction letters generalizing s with
  | nil =>
    rw [word] at h
    exact (Prod.mk.inj (Except.ok.inj h)).2
  | cons l ls ih =>
    cases s with
    | nil => cases h
    | cons c s =>
      rw [word] at h
      split_ifs at h with hc
      rw [hc, ih h]
      rfl

/-- What a word is read as leaves what is behind the word. -/
theorem eq_of_word_map {α : Type} {letters : List Char} {a x : α}
    (h : ((word letters s).map fun (_, r) => (a, r)) = .ok (x, rest)) :
    s = letters ++ rest ∧ a = x := by
  obtain ⟨⟨_, r⟩, hword, hp⟩ := ok_of_map h
  obtain ⟨rfl, rfl⟩ := Prod.mk.inj hp
  exact ⟨eq_of_word hword, rfl⟩

/-- A colon may have white space in front of it. -/
theorem spaces_of_colon (h : colon s = .ok ((), r)) :
    ∃ ws, IsSpaces ws ∧ s = ws ++ ':' :: r := by
  rw [colon] at h
  split at h
  · cases h
  · rename_i heq
    obtain ⟨-, rfl⟩ := Prod.mk.inj (Except.ok.inj h)
    exact spaces_of_skipSpace heq
  · cases h

/-- How an array goes on: with its end, or with an item behind what leads to it. -/
theorem leads_of_nextItem (h : nextItem first s = .ok (b, r)) :
    (b = false ∧ ∃ ws rest, IsSpaces ws ∧ s = ws ++ r ∧ r = ']' :: rest) ∨
      (b = true ∧ ∃ lead, Leads first lead ∧ s = lead ++ r) := by
  rw [nextItem] at h
  split at h
  · cases h
  · rename_i rest heq
    obtain ⟨rfl, rfl⟩ := Prod.mk.inj (Except.ok.inj h)
    obtain ⟨ws, hws, hs⟩ := spaces_of_skipSpace heq
    exact .inl ⟨rfl, ws, rest, hws, hs, rfl⟩
  · rename_i c r' _ heq
    obtain ⟨ws, hws, rfl⟩ := spaces_of_skipSpace heq
    split_ifs at h with hfirst hcomma
    · obtain ⟨rfl, rfl⟩ := Prod.mk.inj (Except.ok.inj h)
      exact .inr ⟨rfl, ws, hfirst ▸ .first hws, rfl⟩
    · subst hcomma
      split at h
      · cases h
      · cases h
      · rename_i heq'
        obtain ⟨rfl, rfl⟩ := Prod.mk.inj (Except.ok.inj h)
        obtain ⟨ws', hws', hr⟩ := spaces_of_skipSpace (s := r') rfl
        refine .inr ⟨rfl, ws ++ ',' :: ws', Bool.eq_false_iff.2 hfirst ▸ .next hws hws', ?_⟩
        rw [List.append_assoc, List.cons_append, ← hr]

/-- How an object goes on: with its end, or with a key behind what leads to it. -/
theorem leads_of_nextKey (h : nextKey first s = .ok (b, r)) :
    (b = false ∧ ∃ ws rest, IsSpaces ws ∧ s = ws ++ r ∧ r = '\x7d' :: rest) ∨
      (b = true ∧ ∃ lead, Leads first lead ∧ s = lead ++ '"' :: r) := by
  rw [nextKey] at h
  split at h
  · cases h
  · rename_i rest heq
    obtain ⟨rfl, rfl⟩ := Prod.mk.inj (Except.ok.inj h)
    obtain ⟨ws, hws, hs⟩ := spaces_of_skipSpace heq
    exact .inl ⟨rfl, ws, rest, hws, hs, rfl⟩
  · rename_i c r' _ heq
    obtain ⟨ws, hws, rfl⟩ := spaces_of_skipSpace heq
    split_ifs at h with hfirst hquote hcomma
    · subst hquote
      obtain ⟨rfl, rfl⟩ := Prod.mk.inj (Except.ok.inj h)
      exact .inr ⟨rfl, ws, hfirst ▸ .first hws, rfl⟩
    · subst hcomma
      split at h
      · cases h
      · rename_i heq'
        obtain ⟨rfl, rfl⟩ := Prod.mk.inj (Except.ok.inj h)
        obtain ⟨ws', hws', rfl⟩ := spaces_of_skipSpace heq'
        refine .inr ⟨rfl, ws ++ ',' :: ws', Bool.eq_false_iff.2 hfirst ▸ .next hws hws', ?_⟩
        rw [List.append_assoc, List.cons_append]
      · cases h
      · cases h

/-! ## Readers one step at a time -/

/-- How the items of an array go on: with its end, or with an item and further ones. -/
theorem items_cases (h : items care (fuel + 1) room first s = .ok (vs, rest)) :
    (vs = [] ∧ ∃ ws, IsSpaces ws ∧ s = ws ++ ']' :: rest) ∨
      ∃ lead t v r us, Leads first lead ∧ s = lead ++ t ∧ value care fuel room t = .ok (v, r) ∧
        items care fuel room false r = .ok (us, rest) ∧ vs = v :: us := by
  rw [items] at h
  obtain ⟨⟨more, r⟩, hnext, hgo⟩ := ok_of_bind h
  obtain ⟨rfl, ws, r', hws, rfl, rfl⟩ | ⟨rfl, lead, hlead, rfl⟩ := leads_of_nextItem hnext
  · obtain ⟨rfl, rfl⟩ := Prod.mk.inj (Except.ok.inj hgo)
    exact .inl ⟨rfl, ws, hws, rfl⟩
  · obtain ⟨⟨v, s₁⟩, hv, hgo⟩ := ok_of_bind hgo
    obtain ⟨⟨us, s₂⟩, hus, hgo⟩ := ok_of_bind hgo
    obtain ⟨rfl, rfl⟩ := Prod.mk.inj (Except.ok.inj hgo)
    exact .inr ⟨lead, r, v, s₁, us, hlead, rfl, hv, hus, rfl⟩

/-- How the members of an object go on: with its end, or with a member and further ones. -/
theorem members_cases (h : members care (fuel + 1) room first s = .ok (ms, rest)) :
    (ms = [] ∧ ∃ ws, IsSpaces ws ∧ s = ws ++ '\x7d' :: rest) ∨
      ∃ lead key ws t k v r ns, Leads first lead ∧ IsQuoted key ∧
        (care ≠ .skip → SpellsText k.toList key) ∧ IsSpaces ws ∧
        s = lead ++ '"' :: (key ++ '"' :: (ws ++ ':' :: t)) ∧ value care fuel room t = .ok (v, r) ∧
        members care fuel room false r = .ok (ns, rest) ∧ ms = (k, v) :: ns := by
  rw [members] at h
  obtain ⟨⟨more, r⟩, hnext, hgo⟩ := ok_of_bind h
  obtain ⟨rfl, ws, r', hws, rfl, rfl⟩ | ⟨rfl, lead, hlead, rfl⟩ := leads_of_nextKey hnext
  · obtain ⟨rfl, rfl⟩ := Prod.mk.inj (Except.ok.inj hgo)
    exact .inl ⟨rfl, ws, hws, rfl⟩
  · obtain ⟨⟨k, s₁⟩, hk, hgo⟩ := ok_of_bind hgo
    obtain ⟨⟨_, s₂⟩, hcolon, hgo⟩ := ok_of_bind hgo
    obtain ⟨⟨v, s₃⟩, hv, hgo⟩ := ok_of_bind hgo
    obtain ⟨⟨ns, s₄⟩, hns, hgo⟩ := ok_of_bind hgo
    obtain ⟨rfl, rfl⟩ := Prod.mk.inj (Except.ok.inj hgo)
    obtain ⟨key, rfl, hquoted, hkey⟩ := spellsText_of_stringTail hk
    obtain ⟨ws, hws, rfl⟩ := spaces_of_colon hcolon
    exact .inr ⟨lead, key, ws, s₂, k, v, s₃, ns, hlead, hquoted, hkey, hws, rfl, hv, hns, rfl⟩

/-- What a value is read from, as its first character tells. From a brace on an object is read, or
the text that it stands for. -/
inductive TakesValue (care : Care) (fuel room : Nat) (s rest : List Char) : Value → Prop
  | null (hs : s = ['n', 'u', 'l', 'l'] ++ rest) : TakesValue care fuel room s rest .null
  | yes (hs : s = ['t', 'r', 'u', 'e'] ++ rest) : TakesValue care fuel room s rest (.bool true)
  | no (hs : s = ['f', 'a', 'l', 's', 'e'] ++ rest) :
      TakesValue care fuel room s rest (.bool false)
  | number {n : Number} (h : Json.number care s = .ok (n, rest)) :
      TakesValue care fuel room s rest (.number n)
  | string {x : String} {t : List Char} (hs : s = '"' :: (t ++ '"' :: rest)) (hquoted : IsQuoted t)
      (ht : care ≠ .skip → SpellsText x.toList t) : TakesValue care fuel room s rest (.string x)
  | array {vs : List Value} {r : List Char} (hs : s = '[' :: r) (hroom : care ≠ .skip → room ≠ 0)
      (h : items care fuel (room - 1) true r = .ok (vs, rest)) :
      TakesValue care fuel room s rest (.array vs)
  | brace {v : Value} {r : List Char} (hs : s = '\x7b' :: r) (hroom : care ≠ .skip → room ≠ 0)
      (h : value care (fuel + 1) room ('\x7b' :: r) = .ok (v, rest)) :
      TakesValue care fuel room s rest v

/-- How a value is read behind white space. -/
theorem value_cases (h : value care (fuel + 1) room s = .ok (v, rest)) :
    ∃ ws t, IsSpaces ws ∧ s = ws ++ t ∧ TakesValue care fuel room t rest v := by
  obtain ⟨ws, hws, hs⟩ := spaces_of_skipSpace (s := s) rfl
  refine ⟨ws, skipSpace s, hws, hs, ?_⟩
  -- what stands behind a brace is not taken apart here, since a text may be embedded in it
  have hbrace : ∀ r, skipSpace s = '\x7b' :: r →
      value care (fuel + 1) room ('\x7b' :: r) = .ok (v, rest) := by
    intro r hr
    rw [← hr, ← value_spaces hws, ← hs, h]
  rw [value] at h
  split at h
  case h_1 => cases h
  case h_2 =>
    rename_i heq
    obtain ⟨rfl, rfl⟩ := eq_of_word_map h
    exact .null heq
  case h_3 =>
    rename_i heq
    obtain ⟨rfl, rfl⟩ := eq_of_word_map h
    exact .yes heq
  case h_4 =>
    rename_i heq
    obtain ⟨rfl, rfl⟩ := eq_of_word_map h
    exact .no heq
  case h_5 =>
    rename_i heq
    obtain ⟨x, htail, rfl⟩ := front_of_map h
    obtain ⟨t, rfl, hquoted, ht⟩ := spellsText_of_stringTail htail
    exact .string heq hquoted ht
  case h_6 =>
    rename_i heq
    split_ifs at h with hfull
    obtain ⟨vs, hitems, rfl⟩ := front_of_map h
    exact .array heq (fun hcare hroom => hfull ⟨hcare, hroom⟩) hitems
  case h_7 =>
    rename_i r heq
    split_ifs at h with hfull
    exact .brace heq (fun hcare hroom => hfull ⟨hcare, hroom⟩) (hbrace r heq)
  case h_8 =>
    rename_i heq
    split_ifs at h
    obtain ⟨n, hnumber, rfl⟩ := front_of_map h
    exact .number (heq ▸ hnumber)

/-! ## Values -/

/-- What may be nested so deep may be nested deeper. -/
theorem Spells.deeper {σ : Style} {p : Part} {e : Nat} (h : Spells σ d p t) (hle : d ≤ e) :
    Spells σ e p t := by
  induction h generalizing e with
  | null hws => exact .null hws
  | yes hws => exact .yes hws
  | no hws => exact .no hws
  | number hws h => exact .number hws h
  | string hws h => exact .string hws h
  | array hws _ ih =>
    obtain ⟨e, rfl⟩ := Nat.exists_eq_add_one_of_ne_zero (Nat.ne_of_gt (Nat.zero_lt_of_lt hle))
    exact .array hws (ih (Nat.le_of_succ_le_succ hle))
  | object hws _ ih =>
    obtain ⟨e, rfl⟩ := Nat.exists_eq_add_one_of_ne_zero (Nat.ne_of_gt (Nat.zero_lt_of_lt hle))
    exact .object hws (ih (Nat.le_of_succ_le_succ hle))
  | noItem hws => exact .noItem hws
  | item hlead _ _ ih ih' => exact .item hlead (ih hle) (ih' hle)
  | noMember hws => exact .noMember hws
  | member hlead hkey hws _ _ ih ih' => exact .member hlead hkey hws (ih hle) (ih' hle)

/-- White space in front of a value is part of its text. -/
theorem Spells.spaces {σ : Style} {ws : List Char} (hws : IsSpaces ws)
    (h : Spells σ d (.value v) t) : Spells σ d (.value v) (ws ++ t) := by
  cases h
  all_goals rw [← List.append_assoc]
  case null hus => exact .null (hws.append hus)
  case yes hus => exact .yes (hws.append hus)
  case no hus => exact .no (hws.append hus)
  case number hus h => exact .number (hws.append hus) h
  case string hus h => exact .string (hws.append hus) h
  case array hus h => exact .array (hws.append hus) h
  case object hus h => exact .object (hws.append hus) h

/-- A part stands in front of a text, up to what is left. -/
def Part.Stands (p : Part) (s rest : List Char) : Prop :=
  ∃ d t, s = t ++ rest ∧ Spells .form d p t

/-- What is taken in so many steps stands there. The readers of values, items and members call each
other, so the three are shown together. -/
structure Takes (care : Care) (fuel : Nat) : Prop where
  value : ∀ {room s v rest}, Json.value care fuel room s = .ok (v, rest) →
    (Part.value v).Stands s rest
  items : ∀ {room first s vs rest}, Json.items care fuel room first s = .ok (vs, rest) →
    (Part.items first vs).Stands s rest
  members : ∀ {room first s ms rest}, Json.members care fuel room first s = .ok (ms, rest) →
    (Part.members first ms).Stands s rest

/-- The step for arrays: whoever has fuel for one more item has read it, and then the items behind
it. -/
theorem Takes.items_succ (htakes : Takes care fuel)
    (h : Json.items care (fuel + 1) room first s = .ok (vs, rest)) :
    (Part.items first vs).Stands s rest := by
  obtain ⟨rfl, ws, hws, rfl⟩ | ⟨lead, r, v, r', us, hlead, rfl, hv, hus, rfl⟩ := items_cases h
  · exact ⟨0, ws ++ [']'], by simp, .noItem hws⟩
  · obtain ⟨d, t, rfl, ht⟩ := htakes.value hv
    obtain ⟨e, u, rfl, hu⟩ := htakes.items hus
    exact ⟨max d e, lead ++ (t ++ u), by simp only [List.append_assoc],
      .item hlead (ht.deeper (Nat.le_max_left d e)) (hu.deeper (Nat.le_max_right d e))⟩

/-- The step for objects, where each value stands behind its key. -/
theorem Takes.members_succ (htakes : Takes care fuel)
    (h : Json.members care (fuel + 1) room first s = .ok (ms, rest)) :
    (Part.members first ms).Stands s rest := by
  obtain ⟨rfl, ws, hws, rfl⟩ |
    ⟨lead, key, ws, r, k, v, r', ns, hlead, hkey, -, hws, rfl, hv, hns, rfl⟩ := members_cases h
  · exact ⟨0, ws ++ ['\x7d'], by simp, .noMember hws⟩
  · obtain ⟨d, t, rfl, ht⟩ := htakes.value hv
    obtain ⟨e, u, rfl, hu⟩ := htakes.members hns
    exact ⟨max d e, lead ++ '"' :: (key ++ '"' :: (ws ++ ':' :: (t ++ u))), by simp,
      .member hlead hkey hws (ht.deeper (Nat.le_max_left d e)) (hu.deeper (Nat.le_max_right d e))⟩

/-- The step for values, one case for each character with which a value can begin. With embedded
texts it is not true, as these are read in place of the object around them. -/
theorem Takes.value_succ (hcare : care ≠ .resolve) (htakes : Takes care fuel)
    (h : Json.value care (fuel + 1) room s = .ok (v, rest)) : (Part.value v).Stands s rest := by
  obtain ⟨ws, s, hws, rfl, hcase⟩ := value_cases h
  suffices hvalue : (Part.value v).Stands s rest by
    obtain ⟨d, t, rfl, hspells⟩ := hvalue
    exact ⟨d, ws ++ t, (List.append_assoc ..).symm, hspells.spaces hws⟩
  cases hcase with
  | null hs => exact ⟨0, _, hs, .null isSpaces_nil⟩
  | yes hs => exact ⟨0, _, hs, .yes isSpaces_nil⟩
  | no hs => exact ⟨0, _, hs, .no isSpaces_nil⟩
  | number hnumber =>
    obtain ⟨l, t, ht, hspells, hn⟩ := spells_of_number hnumber
    exact ⟨0, t, ht, .number isSpaces_nil ⟨l, hspells, hn⟩⟩
  | string hs hquoted _ => exact ⟨0, _, by rw [hs]; simp, .string isSpaces_nil hquoted⟩
  | array hs _ hitems =>
    obtain ⟨d, t, rfl, ht⟩ := htakes.items hitems
    exact ⟨d + 1, _, hs, .array isSpaces_nil ht⟩
  | brace hs hroom hbrace =>
    -- nothing that is embedded is looked at
    rw [value_object hroom _ fun hresolve => absurd hresolve hcare] at hbrace
    obtain ⟨us, hus, rfl⟩ := front_of_map hbrace
    obtain ⟨d, t, rfl, ht⟩ := htakes.members hus
    exact ⟨d + 1, _, hs, .object isSpaces_nil ht⟩

/-- **Whatever is taken for a value has the form of one**, unless embedded texts are resolved. -/
theorem takes (hcare : care ≠ .resolve) (fuel : Nat) : Takes care fuel := by
  induction fuel with
  | zero => exact ⟨nofun, nofun, nofun⟩
  | succ fuel ih => exact ⟨ih.value_succ hcare, ih.items_succ, ih.members_succ⟩

/-- What is passed over has the form of a value. -/
theorem stands_of_skipValue (h : skipValue s = .ok ((), rest)) :
    ∃ v, (Part.value v).Stands s rest := by
  rw [skipValue] at h
  obtain ⟨⟨v, r⟩, hvalue, hp⟩ := ok_of_map h
  obtain ⟨-, rfl⟩ := Prod.mk.inj hp
  exact ⟨v, (takes (by decide) _).value hvalue⟩

/-- What is kept is a value in one of its spellings. -/
theorem stands_of_keepValue (h : keepValue room s = .ok (v, rest)) : (Part.value v).Stands s rest :=
  (takes (by decide) _).value h

/-- **A value in front of a text ends at one place**, unless a number goes on there. -/
theorem Part.Stands.unique {w : Value} {rest' : List Char} (h : (Part.value v).Stands s rest)
    (h' : (Part.value w).Stands s rest') (hrest : Stops continuesNumber rest)
    (hrest' : Stops continuesNumber rest') : rest = rest' := by
  obtain ⟨d, t, rfl, ht⟩ := h
  obtain ⟨d', t', hs, ht'⟩ := h'
  have hskip := ht'.skipValue hrest'
  rw [← hs, ht.skipValue hrest] at hskip
  exact (Prod.mk.inj (Except.ok.inj hskip)).2

end Reconciliation.Json
