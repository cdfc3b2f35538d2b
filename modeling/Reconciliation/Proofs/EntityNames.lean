import Reconciliation.Proofs.Envelopes
import Reconciliation.Proofs.Places

/-!
# An entity by its number or by its numeral

A producer may name the entity of an event by a number or by a string. Both are names of the same
entity: whatever else an event holds and however it is spelled, if another name is put in the place
of the one it has, the event is of the entity that is named there. A number that is no integer of 64
bits with a sign names none; the event is refused for that, or already as a text if the number is
out of the range of binary fractions.

* `Json.Literal.Spells.value_ne_ok`: numbers that are read as no value.
* `Envelope.EntityText.resolves`: the names of an entity are read as values that name it.
* `Envelope.understood_swaps`: the event with another value in the place.
* `Envelope.names_entity_either_way`: numbers and strings in the place.
-/

namespace Reconciliation

open Json Text

/-! ## Numbers -/

namespace Json.Literal

variable {l : Literal} {t rest : List Char} {fuel room : Nat}

/-- A number that is finite is read wherever it stands. -/
theorem Spells.resolves (h : l.Spells t) (hfinite : l.Finite) :
    Resolves room (.number l.number) t :=
  .of_spells (d := 0) (.number isSpaces_nil ⟨l, h, hfinite, rfl⟩) .number (Nat.zero_le _)

/-- A literal that denotes no integer is not the numeral of one. -/
theorem Spells.ne_decimal (h : l.Spells t) (hl : ∀ n, l.number ≠ .integer n) (e : EntityId) :
    t ≠ decimal e.val := by
  rintro rfl
  have hread : Json.literal .keep (decimal e.val ++ []) = .ok (l, []) := h.literal stops_nil
  rw [(integerLiteral_spells e.val).literal stops_nil] at hread
  obtain ⟨rfl, -⟩ := Prod.mk.inj (Except.ok.inj hread)
  exact hl _ (number_integerLiteral e.least_le (Int.le_trans e.le_greatest (by decide)))

/-- **A number that is not finite** is read as no value. -/
theorem Spells.value_ne_ok (h : l.Spells t) (hfinite : ¬l.Finite)
    (hrest : Stops continuesNumber rest) (p : Value × List Char) :
    value .resolve fuel room (t ++ rest) ≠ .ok p := by
  intro hvalue
  cases fuel with
  | zero => cases hvalue
  | succ fuel =>
    have hliteral : Json.literal .resolve (t ++ rest) = .ok (l, rest) := h.literal hrest
    obtain ⟨c, r, rfl, hc⟩ := h.eq_cons
    rw [List.cons_append, value_number _ _ _ hc, Json.number, ← List.cons_append, hliteral,
      ok_bind] at hvalue
    dsimp only at hvalue
    cases hoverflow : l.overflow? rest with
    | none => exact hfinite (finite_of_overflow? hoverflow)
    | some f =>
      rw [hoverflow] at hvalue
      cases hvalue

end Json.Literal

namespace Envelope

variable {raw raw' : String} {t t' : List Char} {w' : Value} {env : Envelope} {e : EntityId}

/-! ## Names of an entity -/

/-- The texts that name an entity in an event: its numeral as a number, and the strings that an
entity is read from. -/
inductive EntityText (e : EntityId) : List Char → Prop
  | number : EntityText e (decimal e.val)
  | string {s : String} {u : List Char} (hs : EntityId.parse s = .ok e)
      (hu : SpellsText s.toList u) : EntityText e ('"' :: (u ++ ['"']))

/-- **A name of an entity** is read as a value that names it. -/
theorem EntityText.resolves (h : EntityText e t) :
    ∃ w, NamesEntity (some w) e ∧ ∀ room, Resolves room w t := by
  cases h with
  | number =>
    have hword : e.val ≤ 18446744073709551615 := Int.le_trans e.le_greatest (by decide)
    have hnumber : (integerLiteral e.val).number = .integer e.val :=
      number_integerLiteral e.least_le hword
    refine ⟨.number (integerLiteral e.val).number, .inl (by rw [hnumber]), fun room => ?_⟩
    exact (integerLiteral_spells e.val).resolves (integerLiteral_finite e.least_le hword)
  | @string s u hs hu =>
    refine ⟨.string s, .inr ⟨s, rfl, hs⟩, fun room => ?_⟩
    exact .of_spells (d := 0) (.string isSpaces_nil hu) .string (Nat.zero_le _)

/-- A number names an entity by the numeral of the entity alone. -/
theorem eq_decimal_of_namesEntity {l : Literal} (hl : l.Spells t)
    (h : NamesEntity (some (.number l.number)) e) : t = decimal e.val := by
  rcases h with hnumber | ⟨s, hstring, -⟩
  · exact hl.eq_decimal (Value.number.inj (Option.some.inj hnumber))
  · cases hstring

/-! ## Events with another name -/

/-- A text that is not read is refused. -/
theorem parse_of_unread (h : ∀ v, Json.read raw.toList ≠ .ok v) :
    ∃ reason, parse raw = .error (.malformed reason) := by
  rw [parse, readBody]
  cases hread : Json.read raw.toList with
  | ok v => exact absurd hread (h v)
  | error f => exact ⟨_, rfl⟩

/-- An event that does not come in a notification. -/
def Bare (raw : String) : Prop :=
  ∀ v s, Json.read raw.toList = .ok v → v.member? "Message" ≠ some (.string s)

/-- What a bare event is read as. -/
theorem read_of_parse (hparse : parse raw = .ok env) (hbare : Bare raw) :
    ∃ v name e, Json.read raw.toList = .ok v ∧ NamesKind (v.member? "eventType") name ∧
      NamesEntity (v.member? "bookingId") e ∧ env = ⟨EventType.parse name, e, raw⟩ := by
  cases hread : Json.read raw.toList with
  | error f =>
    have hunread : ∀ v, Json.read raw.toList ≠ .ok v := by
      intro v hv
      rw [hread] at hv
      cases hv
    obtain ⟨reason, hreason⟩ := parse_of_unread hunread
    rw [hreason] at hparse
    cases hparse
  | ok v =>
    rw [parse_of_read hread fun s => hbare v s hread, ofBody_eq_ok_iff] at hparse
    obtain ⟨-, name, hname, e, he, rfl⟩ := hparse
    rw [Option.or_none, ← namesKind_iff] at hname
    exact ⟨v, name, e, rfl, hname, he, rfl⟩

/-- **The event with another value in the place** of its entity is of the same kind, and of the
entity that the value names, if it names one. -/
theorem understood_swaps (hparse : parse raw = .ok env) (hbare : Bare raw)
    (hswaps : Swaps "bookingId" t t' raw.toList raw'.toList) (hw' : ∀ room, Resolves room w' t') :
    ∃ kind name, NamesKind kind name ∧ env.eventType = EventType.parse name ∧
      Understood kind (some w') raw' (parse raw') := by
  obtain ⟨v, name, e, hread, hname, -, rfl⟩ := read_of_parse hparse hbare
  obtain ⟨before, w, later, rfl, hlater, hagain⟩ := hswaps.read_object (by decide) hread
  -- the other members are found as before
  have hother := fun k (hk : k ≠ "bookingId") => Value.member?_otherPlace hk before later w' w
  have hkind := hother "eventType" (by decide)
  have hmessage := hother "Message" (by decide)
  have hplace : (Value.object (before ++ ("bookingId", w') :: later)).member? "bookingId" =
      some w' := Value.member?_place hlater
  refine ⟨_, name, hname, rfl, ?_⟩
  rw [parse_of_read (hagain w' hw') fun s => by rw [hmessage]; exact hbare _ s hread, ← hkind,
    ← hplace]
  exact understood_ofBody rfl raw'

/-- **A number and a string name the same entity**, from one end of the range to the other, and no
other number names any. -/
theorem names_entity_either_way (hparse : parse raw = .ok env) (hbare : Bare raw) :
    (∃ t, ∀ t', ∃ raw' : String, Swaps "bookingId" t t' raw.toList raw'.toList) ∧
      ∀ t t' (raw' : String), Swaps "bookingId" t t' raw.toList raw'.toList →
        (∀ e, EntityText e t' → parse raw' = .ok ⟨env.eventType, e, raw'⟩) ∧
        ∀ l : Literal, l.Spells t' → (∀ e : EntityId, t' ≠ decimal e.val) →
          (l.Finite → parse raw' = .error .missingEntity) ∧
          (¬l.Finite → ∃ reason, parse raw' = .error (.malformed reason)) := by
  constructor
  · -- it is an event, so there is a member of that name
    obtain ⟨v, name, e, hread, -, he, -⟩ := read_of_parse hparse hbare
    obtain ⟨w, hw⟩ : ∃ w, v.member? "bookingId" = some w := by
      rcases he with hw | ⟨s, hw, -⟩ <;> exact ⟨_, hw⟩
    obtain ⟨t, ht⟩ := exists_swaps hread hw
    refine ⟨t, fun t' => ?_⟩
    obtain ⟨s', hs'⟩ := ht t'
    exact ⟨String.ofList s', by rwa [String.toList_ofList]⟩
  · intro t t' raw' hswaps
    refine ⟨fun e he => ?_, fun l hl hnumeral => ⟨fun hfinite => ?_, fun hfinite => ?_⟩⟩
    · obtain ⟨w', he, hw'⟩ := he.resolves
      obtain ⟨kind, name, hkind, htype, hunderstood⟩ := understood_swaps hparse hbare hswaps hw'
      rw [hunderstood.event name e hkind he, htype]
    · obtain ⟨kind, name, hkind, -, hunderstood⟩ :=
        understood_swaps hparse hbare hswaps fun _ => hl.resolves hfinite
      refine hunderstood.missingEntity.2 ⟨⟨name, hkind⟩, fun e he => ?_⟩
      exact hnumeral e (eq_decimal_of_namesEntity hl he)
    · exact parse_of_unread fun v => hswaps.read_ne_ok (by decide)
        fun _ _ _ p hrest => hl.value_ne_ok hfinite hrest p

/-- An event with this text in the place of its entity. -/
def placedEvent (t : List Char) : String :=
  String.ofList (writeObject [("eventType", writeString "A"), ("bookingId", t)])

/-- The two events differ in the token of the booking alone. -/
theorem swaps_placedEvent (t' : List Char) : Swaps "bookingId" (decimal 29) t'
    (placedEvent (decimal 29)).toList (placedEvent t').toList := by
  have hnone : IsSpaces [] := nofun
  have hform : ∀ {v t}, Spells .free 0 (.value v) t → HasForm t := fun h => ⟨0, _, h.form⟩
  have hfront : LeadsTo "bookingId" true _ :=
    .after (.first hnone) (spellsText_escaped "eventType".toList) (fun _ => by decide) hnone
      (hform (spells_writeString "A"))
      (.here (.next hnone hnone) (spellsText_escaped "bookingId".toList) hnone hnone)
  have hnumber : HasForm (decimal 29) :=
    hform (.number hnone (WritesNumber.free (.integer (n := 29) (by decide) (by decide))))
  have hback : Behind "bookingId" ['\x7d'] := ⟨[], .nil hnone⟩
  have hswaps : Swaps "bookingId" _ t' _ _ := .member hnone hfront hnumber hback hnone
  simpa only [placedEvent, String.toList_ofList, writeObject, writeString, List.map_cons,
    List.map_nil, List.intersperse_cons_cons, List.intersperse_singleton, List.flatten_cons,
    List.flatten_nil, List.append_assoc, List.cons_append, List.nil_append, List.append_nil]
    using hswaps

/-- The entity that both of them name. -/
def placedEntity : EntityId := ⟨29, by decide, by decide⟩

/-- The same number, but with a fraction. -/
def fractionLiteral : Literal := ⟨false, ['2', '9'], some ['0'], none⟩

/-- A number beyond all binary fractions. -/
def hugeLiteral : Literal := ⟨false, ['1'], none, some (false, ['4', '0', '0'])⟩

theorem fractionLiteral_finite : fractionLiteral.Finite := ⟨by rintro _ ⟨⟩, by decide +kernel⟩

theorem hugeLiteral_infinite : ¬hugeLiteral.Finite := fun h =>
  absurd (h.overflow? []) (by decide +kernel)

theorem fractionLiteral_spells : fractionLiteral.Spells ['2', '9', '.', '0'] := by
  refine Literal.Shaped.spells ⟨by decide, ?_, ?_, ?_⟩ false
  · rintro _ ⟨⟩
  · rintro _ ⟨⟩
    decide
  · rintro _ ⟨⟩

theorem hugeLiteral_spells : hugeLiteral.Spells ['1', 'e', '4', '0', '0'] := by
  refine Literal.Shaped.spells ⟨by decide, ?_, ?_, ?_⟩ false
  · rintro _ ⟨⟩
  · rintro _ ⟨⟩
  · rintro _ ⟨⟩
    decide

theorem bare_placedEvent : Bare (placedEvent (decimal 29)) := by
  intro v s hread
  have hobject : Json.read (placedEvent (decimal 29)).toList =
      .ok (.object [("eventType", .string "A"), ("bookingId", .number (.integer 29))]) := rfl
  obtain rfl := Except.ok.inj (hobject.symm.trans hread)
  rintro ⟨⟩

/-- A numeral in a string names the entity that the number names; the fraction and the huge number
name none. -/
theorem names_entity_either_way_placedEvent :
    parse (placedEvent (decimal 29)) =
      .ok ⟨.unknown "A", placedEntity, placedEvent (decimal 29)⟩ ∧
    Bare (placedEvent (decimal 29)) ∧
    parse (placedEvent (writeString " +29")) =
      .ok ⟨.unknown "A", placedEntity, placedEvent (writeString " +29")⟩ ∧
    parse (placedEvent ['2', '9', '.', '0']) = .error .missingEntity ∧
    ∃ reason, parse (placedEvent ['1', 'e', '4', '0', '0']) = .error (.malformed reason) := by
  have hparse : parse (placedEvent (decimal 29)) =
      .ok ⟨.unknown "A", placedEntity, placedEvent (decimal 29)⟩ := by decide +kernel
  have hswaps := (names_entity_either_way hparse bare_placedEvent).2 (decimal 29)
  refine ⟨hparse, bare_placedEvent, ?_, ?_, ?_⟩
  · exact (hswaps _ _ (swaps_placedEvent _)).1 placedEntity
      (.string (s := " +29") (by decide +kernel) (spellsText_escaped _))
  · exact ((hswaps _ _ (swaps_placedEvent _)).2 _ fractionLiteral_spells
      (fractionLiteral_spells.ne_decimal nofun)).1 fractionLiteral_finite
  · exact ((hswaps _ _ (swaps_placedEvent _)).2 _ hugeLiteral_spells
      (hugeLiteral_spells.ne_decimal nofun)).2 hugeLiteral_infinite

/-- **A number out of range** is no name of an entity either, but that is not what the event is
refused for. -/
theorem refuses_hugeNumber :
    parse (placedEvent (decimal 29)) =
      .ok ⟨.unknown "A", placedEntity, placedEvent (decimal 29)⟩ ∧
    Bare (placedEvent (decimal 29)) ∧
    Swaps "bookingId" (decimal 29) ['1', 'e', '4', '0', '0'] (placedEvent (decimal 29)).toList
      (placedEvent ['1', 'e', '4', '0', '0']).toList ∧
    hugeLiteral.Spells ['1', 'e', '4', '0', '0'] ∧
    (∀ e : EntityId, ['1', 'e', '4', '0', '0'] ≠ decimal e.val) ∧
    parse (placedEvent ['1', 'e', '4', '0', '0']) =
      .error (.malformed "number out of range at line 1 column 34") :=
  ⟨by decide +kernel, bare_placedEvent, swaps_placedEvent _, hugeLiteral_spells,
    hugeLiteral_spells.ne_decimal nofun, by decide +kernel⟩

end Envelope

end Reconciliation
