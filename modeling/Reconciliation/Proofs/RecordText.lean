import Reconciliation.Proofs.Identifiers
import Reconciliation.Proofs.Json
import Reconciliation.Proofs.Timestamp

/-!
# Records are read as they are written

A record is written as an object with its fields in their fixed order. The reader takes one
member after another into a draft, so what it has read by then is the draft with the fields so
far (`WorkRecord.Draft.fill`), and at the end nothing is missing.

* `WorkRecord.Draft.readField_write`: the value of each field is read as it was.
* `WorkRecord.readMembers_written`: different fields in any order are read one after another.
* `WorkRecord.reads_as_written`: the whole text is read as the record that it was made from.
-/

namespace Reconciliation.WorkRecord

open Json Text

variable {r : WorkRecord} {rest : List Char}

/-! ## Fields -/

/-- A draft in which one more field has been read from a record. -/
def Draft.fill (r : WorkRecord) (d : Draft) : Field → Draft
  | .id => { d with id := some r.id }
  | .entity => { d with entity := some r.entity }
  | .eventType => { d with eventType := some (EventType.parse r.eventType.name) }
  | .payload => { d with payload := some r.payload }
  | .created => { d with created := some r.created }
  | .retryCount => { d with retryCount := some r.retryCount }
  | .expiry => { d with expiry := some r.expiry }
  | .processed => { d with processed := some r.processed }
  | .status => { d with status := some r.status }

/-- To fill one field says nothing about the others. -/
theorem Draft.has_fill (r : WorkRecord) (d : Draft) {f g : Field} (h : g ≠ f) :
    (d.fill r f).has g = d.has g := by
  cases f <;> cases g <;> first | rfl | exact absurd rfl h

/-- The text of an identifier is read as that identifier. -/
theorem ofText?_id (id : RecordId) : RecordId.ofText? id.text = some id := by
  rw [RecordId.ofText?, RecordId.text, String.toList_ofList, RecordId.read_write]
  rfl

/-- The text of an instant is read as that instant. -/
theorem ofText?_instant (t : Instant) : Instant.ofText? t.text = some t := by
  rw [Instant.ofText?, Instant.text, String.toList_ofList]
  exact Instant.read?_write (.inl rfl) t

/-- Every count is the count of its number. -/
theorem count?_toNat (n : UInt32) : count? n.toNat = some n := by
  have hlt := n.toNat_lt
  rw [count?, if_pos (by omega), Int.toNat_natCast, UInt32.ofNat_toNat]

/-- **The written value of a field** is read as the value of that field. -/
theorem Draft.readField_write (d : Draft) (f : Field) (hrest : Stops continuesNumber rest) :
    d.readField f (r.writeField f ++ rest) = .ok (d.fill r f, rest) := by
  cases f with
  | id =>
    rw [readField, writeField, readMeaning_write (ofText?_id r.id)]
    rfl
  | entity =>
    rw [readField, writeField, readInteger_decimal _ _ (EntityId.of?_val r.entity) hrest]
    · rfl
    · exact r.entity.least_le
    · exact Int.le_trans r.entity.le_greatest (by decide)
  | eventType =>
    rw [readField, writeField, readString_write]
    rfl
  | payload =>
    rw [readField, writeField, readString_write]
    rfl
  | created =>
    rw [readField, writeField, readMeaning_write (ofText?_instant r.created)]
    rfl
  | retryCount =>
    have hlt := r.retryCount.toNat_lt
    rw [readField, writeField, readInteger_decimal _ _ (count?_toNat r.retryCount) hrest]
    · rfl
    · omega
    · omega
  | expiry =>
    rw [readField, writeField, readMeaning_write (ofText?_instant r.expiry)]
    rfl
  | processed =>
    rw [readField, writeField]
    rw [readOption_write]
    · rfl
    · exact fun t => ⟨t.text, rfl⟩
    · exact fun t _ rest => readMeaning_write (ofText?_instant t) rest
  | status =>
    rw [readField, writeField]
    rw [readOption_write]
    · rfl
    · exact fun s => ⟨s, rfl⟩
    · exact fun s _ rest => readString_write s rest

/-! ## Members -/

/-- The written members that are left, each but the first behind a comma, and the brace. -/
def members (r : WorkRecord) (first : Bool) : List Field → List Char
  | [] => ['\x7d']
  | f :: fs => (if first then [] else [',']) ++
      (writeString f.name ++ ':' :: (r.writeField f ++ members r false fs))

/-- Behind a member there is a comma or a brace, so a number ends where it was written to end. -/
theorem members_stops (r : WorkRecord) (fs : List Field) :
    Stops continuesNumber (members r false fs) := by
  cases fs <;> exact stops_cons.2 (by decide)

/-- The written object, one member after another. -/
theorem writeObject_eq (r : WorkRecord) (fs : List Field) :
    writeObject (fs.map fun f => (f.name, r.writeField f)) = '\x7b' :: members r true fs := by
  have hlater : ∀ (gs : List Field) (s : List Char),
      ((s :: gs.map fun f => writeString f.name ++ ':' :: r.writeField f).intersperse
        [',']).flatten ++ ['\x7d'] = s ++ members r false gs := by
    intro gs
    induction gs with
    | nil => simp [members]
    | cons g gs ih => simp [members, ih]
  cases fs with
  | nil => rfl
  | cons f fs =>
    have h := hlater fs (writeString f.name ++ ':' :: r.writeField f)
    simp only [writeObject, List.map_cons, List.map_map, Function.comp_def, h, members, if_true,
      List.nil_append, List.append_assoc, List.cons_append]

/-- A name is that of one field only, so a member is taken for the field that it was written for. -/
theorem Field.ofName?_name (f : Field) : Field.ofName? f.name = some f := by
  cases f <;> decide

/-- **A written member** whose field is not in the draft yet is read into it. -/
theorem readMembers_member {d : Draft} {f : Field} (hnew : d.has f = false) (fuel : Nat)
    (first : Bool) (fs : List Field) :
    readMembers (fuel + 1) first d (members r first (f :: fs)) =
      readMembers fuel false (d.fill r f) (members r false fs) := by
  have hkey : nextKey first (members r first (f :: fs)) =
      .ok (true, f.name.toList.flatMap escapeChar ++
        '"' :: ':' :: (r.writeField f ++ members r false fs)) := by
    -- a comma is due in front of every member but the first
    cases first <;> simp [members, nextKey, writeString, skipSpace_eq, isSpace]
  have hcolon : colon (':' :: (r.writeField f ++ members r false fs)) =
      .ok ((), r.writeField f ++ members r false fs) := rfl
  rw [readMembers, hkey, ok_bind]
  dsimp only
  rw [stringTail_escaped, ok_bind]
  dsimp only
  rw [Field.ofName?_name]
  dsimp only
  rw [hnew, if_neg Bool.false_ne_true, hcolon, ok_bind]
  dsimp only
  rw [Draft.readField_write d f (members_stops r fs), ok_bind]

/-- **Written members** with different fields are read one after another into a draft that has
none of them yet. -/
theorem readMembers_written {fs : List Field} (hdistinct : fs.Nodup) {d : Draft}
    (hnew : ∀ f ∈ fs, d.has f = false) {fuel : Nat} (hfuel : fs.length < fuel) (first : Bool) :
    readMembers fuel first d (members r first fs) = .ok (fs.foldl (Draft.fill r) d, ['\x7d']) := by
  induction fs generalizing d fuel first with
  | nil =>
    obtain ⟨fuel, rfl⟩ := Nat.exists_eq_add_one_of_ne_zero (Nat.ne_of_gt hfuel)
    rfl
  | cons f fs ih =>
    obtain ⟨hf, hfs⟩ := List.nodup_cons.1 hdistinct
    obtain ⟨fuel, rfl⟩ := Nat.exists_eq_add_one_of_ne_zero (Nat.ne_of_gt (Nat.zero_lt_of_lt hfuel))
    rw [readMembers_member (hnew f List.mem_cons_self), List.foldl_cons]
    refine ih hfs (fun g hg => ?_) (Nat.lt_of_succ_lt_succ hfuel) false
    rw [Draft.has_fill]
    · exact hnew g (List.mem_cons_of_mem _ hg)
    · rintro rfl
      exact hf hg

/-! ## Records -/

/-- The fuel of a reader, which goes by the length of what it reads, is enough for every field. -/
theorem length_lt_enough (r : WorkRecord) (first : Bool) (fs : List Field) :
    fs.length < enough (members r first fs) := by
  induction fs generalizing first with
  | nil => exact Nat.zero_lt_succ _
  | cons f fs ih =>
    have h := ih false
    simp only [enough, members, List.length_append, List.length_cons] at h ⊢
    omega

/-- Every record is read from its text, its kind by name. -/
theorem read_write (r : WorkRecord) :
    read r.write = .ok { r with eventType := EventType.parse r.eventType.name } := by
  have hmembers : readMembers (enough (members r true Field.all)) true .empty
      (members r true Field.all) = .ok (Field.all.foldl (Draft.fill r) .empty, ['\x7d']) := by
    refine readMembers_written (by decide) ?_ (length_lt_enough r true Field.all) true
    intro f hf
    cases f <;> rfl
  have hstart : read ('\x7b' :: members r true Field.all) =
      (readMembers (enough (members r true Field.all)) true .empty (members r true Field.all) >>=
        fun p => do
          let record ← finished p.1 p.2
          finish (p.2.drop 1)
          return record) := rfl
  -- all fields are in the draft, so its record is the one that was written
  rw [write, writeObject_eq, hstart, hmembers, ok_bind]
  rfl

/-- **Reading undoes writing.** A record whose kind is the kind of some name is read from its
text as it was: every identifier, entity, text, count and instant, and what is missing. -/
theorem reads_as_written (r : WorkRecord) (h : ∃ name, EventType.parse name = r.eventType) :
    read r.write = .ok r := by
  obtain ⟨name, hname⟩ := h
  rw [read_write, ← hname, EventType.name_parse, hname]

/-- A record at the ends of its ranges and within a leap second, whose texts need escapes. -/
def extremeRecord : WorkRecord where
  id := ⟨0xfffffffffffffffffffffffffffffffe, by decide⟩
  entity := ⟨-9223372036854775808, by decide, by decide⟩
  eventType := .unknown "\"\\\""
  payload := "\x7b\"a\": \"b\\n\"\x7d\n\x01"
  created := Instant.earliest
  retryCount := 4294967295
  expiry := ⟨1483228799, 1500000000, by decide, by decide, by decide, by decide⟩
  processed := some Instant.latest
  status := none

/-- It is applied to a record at the ends of every range: the earliest instant, an instant within a
leap second, the largest count, and a payload that has to be escaped. -/
theorem reads_extremeRecord : (∃ name, EventType.parse name = extremeRecord.eventType) ∧
    extremeRecord.created.text = "-262143-01-01T00:00:00Z" ∧
    extremeRecord.expiry.text = "2016-12-31T23:59:60.500Z" ∧
    writeString extremeRecord.payload = "\"\x7b\\\"a\\\": \\\"b\\\\n\\\"\x7d\\n\\u0001\"".toList ∧
    read extremeRecord.write = .ok extremeRecord := by
  have hkind : ∃ name, EventType.parse name = extremeRecord.eventType := ⟨"\"\\\"", by decide⟩
  exact ⟨hkind, by decide +kernel, by decide +kernel, by decide +kernel,
    reads_as_written extremeRecord hkind⟩

end Reconciliation.WorkRecord
