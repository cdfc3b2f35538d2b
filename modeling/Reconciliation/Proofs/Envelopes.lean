import Reconciliation.Proofs.Writing
import Reconciliation.Record.Envelope

/-!
# Events in any spelling

What an event says is told by two of its members, whichever way its text is spelled and whatever
else is in it: `Envelope.understands_bare`. A notification that carries the text of an event says
what the event says, and its attribute is heard only where the event names no kind:
`Envelope.understands_wrapped`.

Both hold of values that are read as themselves. An object whose first member has the reserved
name is not: it is read as what that member holds, and refused if that is no text.
-/

namespace Reconciliation

open Json Text Decimal

/-- Nothing is left of a text exactly when it is blank throughout. -/
theorem Text.trim_eq_nil_iff (s : List Char) : trim s = [] ↔ s.all isBlank = true := by
  have hreverse : trim s = [] ↔ trimStart (trimStart s).reverse = [] := List.reverse_eq_nil_iff
  rw [hreverse, trimStart_eq_nil_iff, List.all_reverse, ← trimStart_eq_nil_iff s]
  cases hs : trimStart s with
  | nil => exact iff_of_true rfl rfl
  | cons c r =>
    have hc : isBlank c = false := head_trimStart s c (by rw [hs]; rfl)
    refine iff_of_false ?_ (List.cons_ne_nil c r)
    rw [List.all_cons, hc]
    exact Bool.false_ne_true

namespace Envelope

variable {v : Value} {ms : List (String × Value)} {kind entity : Option Value} {e : EntityId}
  {name raw body : String} {fallback : Option String} {d : Nat}

/-! ## The two members -/

/-- The kind of an event is a text that is not blank. -/
def NamesKind (kind : Option Value) (name : String) : Prop :=
  kind = some (.string name) ∧ trim name.toList ≠ []

/-- The entity of an event is an integer or a text that an entity is read from. -/
def NamesEntity (entity : Option Value) (e : EntityId) : Prop :=
  entity = some (.number (.integer e.val)) ∨
    ∃ s, entity = some (.string s) ∧ EntityId.parse s = .ok e

/-- What is no string gives none. -/
theorem bind_string? {o : Option Value} (h : ∀ s, o ≠ some (.string s)) :
    o.bind Value.string? = none := by
  rcases o with _ | _ | _ | _ | s | _ | _
  case some.string => exact absurd rfl (h s)
  all_goals rfl

/-- A kind is named by a string that is not blank. -/
theorem namesKind_iff : NamesKind kind name ↔
    (kind.bind Value.string?).filter (!Text.allBlank ·) = some name := by
  have hblank : trim name.toList ≠ [] ↔ (!Text.allBlank name) = true := by
    rw [ne_eq, trim_eq_nil_iff, Bool.not_eq_true', ← Bool.not_eq_true]
    rfl
  have hstring : kind = some (.string name) ↔ kind.bind Value.string? = some name := by
    rcases kind with _ | _ | _ | _ | s | _ | _ <;> simp [Value.string?]
  rw [NamesKind, hblank, hstring, Option.filter_eq_some_iff]

/-- An entity is named by a value that is read as one. -/
theorem namesEntity_iff : NamesEntity entity e ↔ entity.bind entityOf = some e := by
  have hnumber : ∀ n, EntityId.of? n = some e ↔ n = e.val := by
    intro n
    refine ⟨fun h => (EntityId.of?_eq_some h).symm, ?_⟩
    rintro rfl
    exact EntityId.of?_val e
  have hstring : ∀ s : String, (EntityId.read s.toList).toOption = some e ↔
      EntityId.parse s = .ok e := by
    intro s
    rw [EntityId.parse]
    cases EntityId.read s.toList <;> simp [Except.toOption]
  rcases entity with _ | _ | _ | (n | _) | s | _ | _ <;>
    simp [NamesEntity, entityOf, hnumber, hstring]

/-- The kind that is named is one alone. -/
theorem NamesKind.unique {other : String} (h : NamesKind kind name) (h' : NamesKind kind other) :
    name = other :=
  Option.some.inj ((namesKind_iff.1 h).symm.trans (namesKind_iff.1 h'))

/-- The entity that is named is one alone. -/
theorem NamesEntity.unique {other : EntityId} (h : NamesEntity entity e)
    (h' : NamesEntity entity other) : e = other :=
  Option.some.inj ((namesEntity_iff.1 h).symm.trans (namesEntity_iff.1 h'))

/-! ## Bodies -/

/-- What comes of an event is told by its kind and its entity. -/
structure Understood (kind entity : Option Value) (body : String)
    (result : Except EnvelopeError Envelope) : Prop where
  wellFormed : ∀ reason, result ≠ .error (.malformed reason)
  missingEventType : result = .error .missingEventType ↔ ∀ name, ¬NamesKind kind name
  missingEntity : result = .error .missingEntity ↔
    (∃ name, NamesKind kind name) ∧ ∀ e, ¬NamesEntity entity e
  event : ∀ name e, NamesKind kind name → NamesEntity entity e →
    result = .ok ⟨EventType.parse name, e, body⟩

/-- Without a kind that is missing, whatever else there is. -/
theorem Understood.noKind (hno : ∀ name, ¬NamesKind kind name) :
    Understood kind entity body (.error .missingEventType) where
  wellFormed _ h := by cases h
  missingEventType := iff_of_true rfl hno
  missingEntity := by
    constructor
    · intro h
      cases h
    · rintro ⟨⟨name, hname⟩, -⟩
      exact absurd hname (hno name)
  event name _ hname _ := absurd hname (hno name)

/-- With a kind and without an entity the entity is missing. -/
theorem Understood.noEntity (hname : NamesKind kind name) (hno : ∀ e, ¬NamesEntity entity e) :
    Understood kind entity body (.error .missingEntity) where
  wellFormed _ h := by cases h
  missingEventType := by
    constructor
    · intro h
      cases h
    · intro h
      exact absurd hname (h name)
  missingEntity := iff_of_true rfl ⟨⟨name, hname⟩, hno⟩
  event _ e _ he := absurd he (hno e)

/-- With both the event is understood, and the body is kept as it is. -/
theorem Understood.made (hname : NamesKind kind name) (he : NamesEntity entity e) :
    Understood kind entity body (.ok ⟨EventType.parse name, e, body⟩) where
  wellFormed _ h := by cases h
  missingEventType := by
    constructor
    · intro h
      cases h
    · intro h
      exact absurd hname (h name)
  missingEntity := by
    constructor
    · intro h
      cases h
    · rintro ⟨-, hno⟩
      exact absurd he (hno e)
  event _ _ hname' he' := by rw [hname.unique hname', he.unique he']

/-- When an event is made from a body. -/
theorem ofBody_eq_ok_iff {env : Envelope} : ofBody v body fallback = .ok env ↔
    v.isObject = true ∧ ∃ name, (((v.member? "eventType").bind Value.string?).or fallback).filter
      (!Text.allBlank ·) = some name ∧ ∃ e, NamesEntity (v.member? "bookingId") e ∧
        env = ⟨EventType.parse name, e, body⟩ := by
  simp only [namesEntity_iff]
  rw [ofBody]
  cases v.isObject with
  | false => simp
  | true =>
    rcases (((v.member? "eventType").bind Value.string?).or fallback).filter (!Text.allBlank ·)
      with _ | name
    · simp
    · rcases (v.member? "bookingId").bind entityOf with _ | e <;> simp [eq_comm]

/-- An object that names no kind. -/
theorem ofBody_noKind (hobject : v.isObject = true) (body : String)
    (hkind : ((v.member? "eventType").bind Value.string?).filter (!Text.allBlank ·) = none) :
    ofBody v body none = .error .missingEventType := by
  rw [ofBody, hobject, Option.or_none, hkind]
  rfl

/-- An object that names a kind and no entity. -/
theorem ofBody_noEntity (hobject : v.isObject = true) (body : String)
    (hkind : ((v.member? "eventType").bind Value.string?).filter (!Text.allBlank ·) = some name)
    (hentity : (v.member? "bookingId").bind entityOf = none) :
    ofBody v body none = .error .missingEntity := by
  rw [ofBody, hobject, Option.or_none, hkind, hentity]
  rfl

/-- **An object's meaning** is in two of its members. -/
theorem understood_ofBody (hobject : v.isObject = true) (body : String) :
    Understood (v.member? "eventType") (v.member? "bookingId") body (ofBody v body none) := by
  rcases hkind : ((v.member? "eventType").bind Value.string?).filter (!Text.allBlank ·)
    with _ | name
  · rw [ofBody_noKind hobject body hkind]
    refine .noKind fun name hname => ?_
    rw [namesKind_iff, hkind] at hname
    cases hname
  · have hname := namesKind_iff.2 hkind
    rcases hentity : (v.member? "bookingId").bind entityOf with _ | e
    · rw [ofBody_noEntity hobject body hkind hentity]
      refine .noEntity hname fun e he => ?_
      rw [namesEntity_iff, hentity] at he
      cases he
    · have he := namesEntity_iff.2 hentity
      rw [ofBody_eq_ok_iff.2 ⟨hobject, name, by rw [Option.or_none, hkind], e, he, rfl⟩]
      exact .made hname he

/-- A body is read as any other text. -/
theorem readBody_of_read (h : Json.read body.toList = .ok v) (context : String) :
    readBody context body = .ok v := by
  rw [readBody, h]

/-! ## Bare events -/

/-- A text that is read, and that holds no other text, is an event by itself. -/
theorem parse_of_read (hread : Json.read raw.toList = .ok v)
    (hmessage : ∀ s, v.member? "Message" ≠ some (.string s)) : parse raw = ofBody v raw none := by
  rw [parse, readBody_of_read hread, ok_bind, bind_string? hmessage]

/-- **A bare event is understood in any spelling.** -/
theorem understands_bare (hraw : Spelled .free d (.object ms) raw.toList) (hd : d ≤ depthLimit)
    (hplain : (Value.object ms).Plain)
    (hmessage : ∀ s, (Value.object ms).member? "Message" ≠ some (.string s)) :
    Understood ((Value.object ms).member? "eventType") ((Value.object ms).member? "bookingId") raw
      (parse raw) := by
  -- whatever the text looks like, it is read as this object
  rw [parse_of_read (hraw.read hd hplain) hmessage]
  exact understood_ofBody rfl raw

/-- An event with white space, an escape, and a number that is not looked at. -/
def sampleBare : String := "\x7b \"eventType\" : \"\\u0041\", \"bookingId\":7,\"x\":1e2\x7d"

/-- The members of this event, of which the last one means nothing. -/
def sampleMembers : List (String × Value) :=
  [("eventType", .string "A"), ("bookingId", .number (.integer 7)),
    ("x", .number (.real ['1', 'e', '2']))]

/-- The event is spelled in this way, with the white space and the escape. -/
theorem spelled_sampleBare : Spelled .free 1 (.object sampleMembers) sampleBare.toList := by
  have hnone : IsSpaces [] := nofun
  have hspace : IsSpaces [' '] := fun c hc => List.mem_singleton.1 hc ▸ rfl
  have hfour : FourDigits (16 * (16 * (16 * (16 * 0 + 0) + 0) + 4) + 1) ['0', '0', '4', '1'] :=
    .intro rfl rfl rfl rfl
  have hname : Style.free.string "A" ['\\', 'u', '0', '0', '4', '1'] :=
    .cons (SpellsChar.number (c := 'A') hfour) .nil
  have hseven : Style.free.number (.integer 7) ['7'] :=
    WritesNumber.free (.integer (n := 7) (by decide) (by decide))
  have hlarge : Style.free.number (.real ['1', 'e', '2']) ['1', 'e', '2'] := by
    refine ⟨⟨false, ['1'], none, some (false, ['2'])⟩, ?_, ⟨?_, ?_⟩, rfl⟩
    · refine Literal.Shaped.spells ⟨by decide, ?_, ?_, ?_⟩ false
      · rintro _ ⟨⟩
      · rintro _ ⟨⟩
      · rintro _ ⟨⟩
        decide
    · rintro _ ⟨⟩ _
      decide
    · decide +kernel
  have hmembers : Spells .free 0 (.members true sampleMembers) _ :=
    .member (.first hspace) (spellsText_escaped _) hspace (.string hspace hname)
      (.member (.next hnone hspace) (spellsText_escaped _) hnone (.number hnone hseven)
        (.member (.next hnone hnone) (spellsText_escaped _) hnone (.number hnone hlarge)
          (.noMember hnone)))
  exact ⟨_, [], .object hnone hmembers, nofun, rfl⟩

/-- It is understood as the event that it spells, and the number in it does not count. -/
theorem understands_sampleBare : Spelled .free 1 (.object sampleMembers) sampleBare.toList ∧
    parse sampleBare = .ok ⟨.unknown "A", ⟨7, by decide, by decide⟩, sampleBare⟩ := by
  have hplain : (Value.object sampleMembers).Plain := by
    refine .object ?_ (List.forall_mem_cons.2 ⟨.string, List.forall_mem_cons.2 ⟨.number,
      List.forall_mem_cons.2 ⟨.number, nofun⟩⟩⟩)
    rintro _ ⟨⟩
    decide
  have hunderstood := understands_bare spelled_sampleBare (by decide) hplain (by rintro s ⟨⟩)
  exact ⟨spelled_sampleBare, hunderstood.event "A" _ ⟨rfl, by decide⟩ (.inl rfl)⟩

/-- Any escapes, and any literal that denotes a number below the limit. -/
def exactStyle : Style where
  string := Style.free.string
  number n t := ∃ l : Literal, l.Spells t ∧ l.exact < pow2 1024 ∧ l.number = n

/-- An event that begins with the reserved name. -/
def reservedBare : String :=
  "\x7b\"$serde_json::private::RawValue\":1,\"eventType\":\"A\",\"bookingId\":1\x7d"

/-- An event with a number below the limit that is rounded beyond it. -/
def roundedBare : String :=
  "\x7b\"eventType\":\"A\",\"bookingId\":1,\"x\":17976931348623156225e289\x7d"

/-- Members of which the first has the reserved name. -/
def reservedMembers : List (String × Value) :=
  [(embeddedName, .number (.integer 1)), ("eventType", .string "A"),
    ("bookingId", .number (.integer 1))]

/-- Members with a number that is less than the largest finite one. -/
def roundedMembers : List (String × Value) :=
  [("eventType", .string "A"), ("bookingId", .number (.integer 1)),
    ("x", .number (.real "17976931348623156225e289".toList))]

theorem exactStyle_one : exactStyle.number (.integer 1) ['1'] :=
  ⟨integerLiteral 1, integerLiteral_spells 1, by decide +kernel, rfl⟩

theorem exactStyle_rounded : exactStyle.number (.real "17976931348623156225e289".toList)
    "17976931348623156225e289".toList := by
  refine ⟨⟨false, "17976931348623156225".toList, none, some (false, "289".toList)⟩, ?_,
    by decide +kernel, rfl⟩
  refine Literal.Shaped.spells ⟨by decide, ?_, ?_, ?_⟩ false
  · rintro _ ⟨⟩
  · rintro _ ⟨⟩
  · rintro _ ⟨⟩
    decide

/-- **Some objects are refused** although no number in them is beyond the limit. -/
theorem refuses_bare :
    (Spelled exactStyle 1 (.object reservedMembers) reservedBare.toList ∧
      (∀ s, (Value.object reservedMembers).member? "Message" ≠ some (.string s)) ∧
      parse reservedBare = .error (.malformed
        "invalid type: integer `1`, expected raw value at line 1 column 35")) ∧
    Spelled exactStyle 1 (.object roundedMembers) roundedBare.toList ∧
      (∀ s, (Value.object roundedMembers).member? "Message" ≠ some (.string s)) ∧
      parse roundedBare = .error (.malformed "number out of range at line 1 column 59") := by
  have hnone : IsSpaces [] := nofun
  have hstring : ∀ s, exactStyle.string s (s.toList.flatMap escapeChar) :=
    fun s => spellsText_escaped s.toList
  have hkind : Spells exactStyle 0 (.value (.string "A")) ['"', 'A', '"'] :=
    .string hnone (hstring "A")
  have hone : Spells exactStyle 0 (.value (.number (.integer 1))) ['1'] :=
    .number hnone exactStyle_one
  have hrounded : Spells exactStyle 0 (.value (.number (.real "17976931348623156225e289".toList)))
      "17976931348623156225e289".toList := .number hnone exactStyle_rounded
  have hreserved : SpellsMembers exactStyle 0 reservedMembers
      [(embeddedName, ['1']), ("eventType", ['"', 'A', '"']), ("bookingId", ['1'])] :=
    .cons ⟨rfl, hone⟩ (.cons ⟨rfl, hkind⟩ (.cons ⟨rfl, hone⟩ .nil))
  have hlarge : SpellsMembers exactStyle 0 roundedMembers
      [("eventType", ['"', 'A', '"']), ("bookingId", ['1']),
        ("x", "17976931348623156225e289".toList)] :=
    .cons ⟨rfl, hkind⟩ (.cons ⟨rfl, hone⟩ (.cons ⟨rfl, hrounded⟩ .nil))
  exact ⟨⟨⟨_, [], spells_writeObject hstring hreserved, nofun, rfl⟩, by rintro s ⟨⟩,
    by decide +kernel⟩, ⟨_, [], spells_writeObject hstring hlarge, nofun, rfl⟩, by rintro s ⟨⟩,
    by decide +kernel⟩

/-! ## Wrapped events -/

/-- A notification is the event in the text that it holds. -/
theorem parse_of_message {outer : Value} (houter : Json.read raw.toList = .ok outer)
    (hmessage : outer.member? "Message" = some (.string body))
    (hread : Json.read body.toList = .ok v) : parse raw = ofBody v body (attribute? outer) := by
  have hsome : (outer.member? "Message").bind Value.string? = some body := by
    rw [hmessage]
    rfl
  rw [parse, readBody_of_read houter, ok_bind, hsome]
  dsimp only
  rw [readBody_of_read hread, ok_bind]

/-- **A wrapped event means the same as the bare event**, whatever the attribute says; and the
attribute names the kind of an event that does not name one. -/
theorem understands_wrapped (hread : Json.read body.toList = .ok v)
    (hbare : ∀ s, v.member? "Message" ≠ some (.string s))
    (hraw : Spelled .written d (.object ms) raw.toList) (hd : d ≤ depthLimit)
    (hplain : (Value.object ms).Plain)
    (hmessage : (Value.object ms).member? "Message" = some (.string body)) :
    (∀ env, parse body = .ok env → parse raw = .ok env ∧ env.body = body) ∧
      ∀ a e, parse body = .error .missingEventType →
        (∀ s, v.member? "eventType" ≠ some (.string s)) →
        attribute? (.object ms) = some a → trim a.toList ≠ [] →
        NamesEntity (v.member? "bookingId") e → parse raw = .ok ⟨EventType.parse a, e, body⟩ := by
  have hwrapped := parse_of_message (hraw.of_written.read hd hplain) hmessage hread
  rw [parse_of_read hread hbare, hwrapped]
  refine ⟨fun env henv => ?_, fun a e hmissing hkind hattribute hblank he => ?_⟩
  · -- the event names its kind, so the attribute is not heard
    obtain ⟨hobject, name, hname, e, he, rfl⟩ := ofBody_eq_ok_iff.1 henv
    rw [Option.or_none, Option.filter_eq_some_iff] at hname
    refine ⟨ofBody_eq_ok_iff.2 ⟨hobject, name, ?_, e, he, rfl⟩, rfl⟩
    rw [hname.1, Option.some_or, Option.filter_eq_some_iff]
    exact ⟨rfl, hname.2⟩
  · -- the event is an object, since it is refused for nothing but its kind
    have hobject : v.isObject = true := by
      by_contra hother
      rw [ofBody, Bool.eq_false_iff.2 hother] at hmissing
      cases hmissing
    have hnone : (v.member? "eventType").bind Value.string? = none := bind_string? hkind
    refine ofBody_eq_ok_iff.2 ⟨hobject, a, ?_, e, he, rfl⟩
    rw [hnone, Option.none_or, hattribute]
    exact namesKind_iff.1 ⟨rfl, hblank⟩

/-- An event that names its kind, and one that does not. -/
def sampleEvent : String := "\x7b\"eventType\":\"A\",\"bookingId\":7\x7d"

/-- The members of the first of these events. -/
def sampleEventMembers : List (String × Value) :=
  [("eventType", .string "A"), ("bookingId", .number (.integer 7))]

/-- An event that does not name its kind. -/
def sampleUnnamed : String := "\x7b\"bookingId\":7\x7d"

/-- The members of a notification with an attribute, and their texts. -/
def notificationMembers (body : String) : List (String × Value) :=
  [("Message", .string body),
    ("MessageAttributes", .object [("eventType", .object [("Value", .string "B")])]),
    ("x", .number (.real ['0', '.', '5']))]

/-- The members of a notification as they are written. -/
def notificationTexts (body : String) : List (String × List Char) :=
  [("Message", writeString body),
    ("MessageAttributes", writeObject [("eventType", writeObject [("Value", writeString "B")])]),
    ("x", ['0', '.', '5'])]

/-- A notification is spelled as it is written, whatever it wraps. -/
theorem spelled_notification (body : String) :
    Spelled .written 3 (.object (notificationMembers body))
      (String.ofList (writeObject (notificationTexts body))).toList := by
  have hnone : IsSpaces [] := nofun
  have hstring : ∀ s, Style.written.string s (s.toList.flatMap escapeChar) := fun _ => rfl
  have htext : ∀ (d : Nat) (s : String),
      Spells .written d (.value (.string s)) (writeString s) := fun _ s => .string hnone (hstring s)
  have hhalf : IsBinaryFraction (1 / 2) := ⟨by decide +kernel, by decide +kernel, by decide +kernel⟩
  have hnumber : (realLiteral false (1 / 2)).number = .real ['0', '.', '5'] := by decide +kernel
  have hwritten : (realLiteral false (1 / 2)).written false = ['0', '.', '5'] := by decide +kernel
  have hreal : Style.written.number (.real ['0', '.', '5']) ['0', '.', '5'] := by
    rw [← hnumber, ← hwritten]
    exact .real false false hhalf
  have hattribute : Spells .written 2 (.value (.object [("eventType",
      .object [("Value", .string "B")])])) (writeObject [("eventType",
        writeObject [("Value", writeString "B")])]) :=
    spells_writeObject hstring (.cons ⟨rfl, spells_writeObject hstring
      (.cons ⟨rfl, htext 0 "B"⟩ .nil)⟩ .nil)
  have hmembers : SpellsMembers .written 2 (notificationMembers body) (notificationTexts body) :=
    .cons ⟨rfl, htext 2 body⟩ (.cons ⟨rfl, hattribute⟩ (.cons ⟨rfl, .number hnone hreal⟩ .nil))
  rw [String.toList_ofList]
  exact ⟨_, [], spells_writeObject hstring hmembers, nofun, (List.append_nil _).symm⟩

/-- It has no member with the reserved name. -/
theorem plain_notification (body : String) : (Value.object (notificationMembers body)).Plain := by
  have hvalue : (Value.object [("Value", .string "B")]).Plain :=
    .object (by rintro _ ⟨⟩; decide) (List.forall_mem_cons.2 ⟨.string, nofun⟩)
  have hattributes : (Value.object [("eventType", .object [("Value", .string "B")])]).Plain :=
    .object (by rintro _ ⟨⟩; decide) (List.forall_mem_cons.2 ⟨hvalue, nofun⟩)
  have hfirst : "Message" ≠ embeddedName := by decide
  exact .object (by rintro _ ⟨⟩; exact hfirst) (List.forall_mem_cons.2 ⟨.string,
    List.forall_mem_cons.2 ⟨hattributes, List.forall_mem_cons.2 ⟨.number, nofun⟩⟩⟩)

/-- The attribute is heard for the event that does not name its kind. -/
theorem understands_notification :
    parse (String.ofList (writeObject (notificationTexts sampleEvent))) =
      .ok ⟨.unknown "A", ⟨7, by decide, by decide⟩, sampleEvent⟩ ∧
    parse (String.ofList (writeObject (notificationTexts sampleUnnamed))) =
      .ok ⟨.unknown "B", ⟨7, by decide, by decide⟩, sampleUnnamed⟩ := by
  have hevent : Json.read sampleEvent.toList = .ok (.object sampleEventMembers) := rfl
  have hunnamed : Json.read sampleUnnamed.toList =
      .ok (.object [("bookingId", .number (.integer 7))]) := rfl
  constructor
  · have hwrapped := understands_wrapped hevent (by rintro s ⟨⟩) (spelled_notification sampleEvent)
      (by decide) (plain_notification sampleEvent) rfl
    exact (hwrapped.1 _ (by decide +kernel)).1
  · have hwrapped := understands_wrapped hunnamed (by rintro s ⟨⟩)
      (spelled_notification sampleUnnamed) (by decide) (plain_notification sampleUnnamed) rfl
    exact hwrapped.2 "B" _ (by decide +kernel) (by rintro s ⟨⟩) rfl (by decide) (.inl rfl)

/-- A notification that begins with the reserved name. -/
def reservedNotification : String :=
  "\x7b\"$serde_json::private::RawValue\":1,\"Message\":" ++
    "\"\x7b\\\"eventType\\\":\\\"A\\\",\\\"bookingId\\\":7\x7d\"\x7d"

/-- **Some notifications are refused** although their event is not. -/
theorem refuses_wrapped :
    Json.read sampleEvent.toList = .ok (.object sampleEventMembers) ∧
    (∀ s, (Value.object sampleEventMembers).member? "Message" ≠ some (.string s)) ∧
    Spelled .written 1 (.object [(embeddedName, .number (.integer 1)),
      ("Message", .string sampleEvent)]) reservedNotification.toList ∧
    parse sampleEvent = .ok ⟨.unknown "A", ⟨7, by decide, by decide⟩, sampleEvent⟩ ∧
    parse reservedNotification = .error (.malformed
      "invalid type: integer `1`, expected raw value at line 1 column 35") := by
  have hnone : IsSpaces [] := nofun
  have hstring : ∀ s, Style.written.string s (s.toList.flatMap escapeChar) := fun _ => rfl
  have hone : Style.written.number (.integer 1) ['1'] :=
    WritesNumber.integer (n := 1) (by decide) (by decide)
  have hmembers : SpellsMembers .written 0
      [(embeddedName, .number (.integer 1)), ("Message", .string sampleEvent)]
      [(embeddedName, ['1']), ("Message", writeString sampleEvent)] :=
    .cons ⟨rfl, .number hnone hone⟩ (.cons ⟨rfl, .string hnone (hstring sampleEvent)⟩ .nil)
  exact ⟨rfl, by rintro s ⟨⟩, ⟨_, [], spells_writeObject hstring hmembers, nofun, rfl⟩,
    by decide +kernel, by decide +kernel⟩

end Envelope

end Reconciliation
