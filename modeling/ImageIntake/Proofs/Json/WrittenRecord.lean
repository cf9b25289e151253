import ImageIntake.Proofs.Json.WholeNumber
import ImageIntake.Proofs.Json.Written
import Mathlib.Data.List.Forall2
import Mathlib.Data.List.Nodup

namespace ImageIntake.Json

inductive Scalar where
  | text (value : String)
  | whole (z : WholeNumber)

inductive WritesScalar : Scalar → List UInt8 → Prop where
  | text {value : String} {inner : List UInt8} : WritesChars value.toList inner →
      WritesScalar (.text value) (0x22 :: (inner ++ [0x22]))
  | whole (z : WholeNumber) : WritesScalar (.whole z) z.bytes

def AreBlanks (bytes : List UInt8) : Prop := ∀ b ∈ bytes, isJsonBlank b = true

theorem areBlanks_nil : AreBlanks [] := nofun

abbrev Entry := String × Scalar

inductive WritesEntry : Entry → List UInt8 → Prop where
  | entry {name : String} {value : Scalar} {before key between after bytes behind : List UInt8} :
      AreBlanks before → WritesChars name.toList key → AreBlanks between → AreBlanks after →
      WritesScalar value bytes → AreBlanks behind →
      WritesEntry (name, value)
        (before ++ 0x22 :: (key ++ 0x22 :: (between ++ 0x3a :: (after ++ (bytes ++ behind)))))

inductive WritesEntries : List Entry → List UInt8 → Prop where
  | single {e : Entry} {bytes : List UInt8} : WritesEntry e bytes → WritesEntries [e] bytes
  | cons {e : Entry} {es : List Entry} {first rest : List UInt8} : WritesEntry e first →
      WritesEntries es rest → WritesEntries (e :: es) (first ++ 0x2c :: rest)

inductive WritesRecord : List Entry → List UInt8 → Prop where
  | record {es : List Entry} {before bytes behind : List UInt8} : AreBlanks before →
      WritesEntries es bytes → AreBlanks behind →
      WritesRecord es (before ++ 0x7b :: (bytes ++ 0x7d :: behind))

theorem skipBlanks_append {blanks : List UInt8} (h : AreBlanks blanks) (rest : List UInt8) :
    skipBlanks (blanks ++ rest) = skipBlanks rest :=
  List.dropWhile_append_of_pos h

theorem skipBlanks_cons {b : UInt8} (h : isJsonBlank b = false) (rest : List UInt8) :
    skipBlanks (b :: rest) = b :: rest := by
  rw [skipBlanks, List.dropWhile_cons_of_neg (by simp [h])]

theorem expectColon_append {blanks : List UInt8} (h : AreBlanks blanks) (rest : List UInt8) :
    expectColon (blanks ++ 0x3a :: rest) = .ok rest := by
  rw [expectColon, skipBlanks_append h, skipBlanks_cons (by decide)]
  rfl

theorem endsNumber_of_blank {b : UInt8} (h : isJsonBlank b = true) (rest : List UInt8) :
    EndsNumber (b :: rest) := by
  simp only [isJsonBlank, Bool.or_eq_true, beq_iff_eq] at h
  rcases h with ((rfl | rfl) | rfl) | rfl <;> exact endsNumber_cons (by decide)

theorem endsNumber_append {blanks : List UInt8} (h : AreBlanks blanks) {rest : List UInt8}
    (hrest : EndsNumber rest) : EndsNumber (blanks ++ rest) := by
  cases blanks with
  | nil => exact hrest
  | cons b blanks => exact endsNumber_of_blank (h b List.mem_cons_self) _

namespace WholeNumber

def problem (z : WholeNumber) (site : Site) (rest : List UInt8) : ReadProblem :=
  match z.found? with
  | some (.negative n) => .mismatch site (.belowZero n) rest
  | some (.float x) => .mismatch site (.wrongType (.float x) FieldKind.count.expected) rest
  | _ => .malformed

def IsStart (b : UInt8) : Prop := (b == 0x2d || isDigitByte b) = true

theorem isJsonBlank_of_isStart {b : UInt8} (h : IsStart b) : isJsonBlank b = false := by
  cases hblank : isJsonBlank b with
  | false => rfl
  | true =>
      simp only [isJsonBlank, Bool.or_eq_true, beq_iff_eq] at hblank
      rcases hblank with ((rfl | rfl) | rfl) | rfl <;> exact absurd h (by unfold IsStart; decide)

theorem exists_first_byte (z : WholeNumber) : ∃ b more, z.bytes = b :: more ∧ IsStart b := by
  obtain ⟨first, more, hdigits⟩ := z.exists_first_digit
  cases hneg : z.isNegative with
  | true => exact ⟨0x2d, _, if_pos hneg, rfl⟩
  | false =>
      have hdigit := digit?_asciiByte (z.isDigit first (hdigits ▸ List.mem_cons_self))
      refine ⟨Text.asciiByte first, more.map Text.asciiByte, ?_, ?_⟩
      · rw [bytes, hneg, hdigits]
        rfl
      · rw [IsStart, isDigitByte, hdigit, Option.isSome_some, Bool.or_true]

end WholeNumber

namespace Scalar

def kind : Scalar → FieldKind
  | .text _ => .text
  | .whole _ => .count

def held? : Scalar → Option FieldValue
  | .text value => some (.text value)
  | .whole z =>
      match z.found? with
      | some (.natural n) => some (.count n)
      | _ => none

def problem (site : Site) (rest : List UInt8) : Scalar → ReadProblem
  | .text _ => .malformed
  | .whole z => z.problem site rest

theorem held?_whole_eq_some {z : WholeNumber} {v : FieldValue} :
    held? (.whole z) = some v ↔ z.IsWord ∧ v = .count z.magnitude := by
  have hnatural := z.read_found?.2
  rw [held?]
  constructor
  · intro h
    split at h
    · next n hfound =>
      obtain ⟨hword, hn⟩ := (hnatural n).mp hfound
      exact ⟨hword, by rw [hn]; exact (Option.some.inj h).symm⟩
    · cases h
  · rintro ⟨hword, rfl⟩
    rw [(hnatural z.magnitude).mpr ⟨hword, rfl⟩]

theorem held?_whole_eq_none {z : WholeNumber} : held? (.whole z) = none ↔ ¬z.IsWord := by
  rw [← Option.not_isSome_iff_eq_none, Option.isSome_iff_exists, not_iff_not]
  simp only [held?_whole_eq_some, exists_and_left, exists_eq, and_true]

def read (value : Scalar) (site : Site) (rest : List UInt8) :
    Except ReadProblem (FieldValue × List UInt8) :=
  match value.held? with
  | some v => .ok (v, rest)
  | none => .error (value.problem site rest)

variable {value : Scalar} {bytes blanks rest : List UInt8}

theorem readCount_bytes (z : WholeNumber) (hrest : EndsNumber rest) (site : Site) :
    readCount site (z.bytes ++ rest) = read (.whole z) site rest := by
  obtain ⟨b, more, hbytes, hstart⟩ := z.exists_first_byte
  have hread := z.read_found?.1 rest hrest
  rw [hbytes, List.cons_append] at hread
  have hnumber : (b == 0x2d || isDigitByte b) = true := hstart
  rw [hbytes, List.cons_append, readCount, if_pos hnumber, hread, read, held?, problem,
    WholeNumber.problem]
  cases z.found? with
  | none => rfl
  | some found => cases found <;> rfl

theorem readValue_written (h : WritesScalar value bytes) (hblanks : AreBlanks blanks)
    (hrest : EndsNumber rest) (site : Site) :
    readValue value.kind site (blanks ++ (bytes ++ rest)) = value.read site rest := by
  cases h with
  | text hinner =>
      rw [kind, readValue, skipBlanks_append hblanks, List.cons_append,
        skipBlanks_cons (by decide), readText, List.append_assoc, List.singleton_append,
        hinner.readString]
      rfl
  | whole z =>
      obtain ⟨b, more, hbytes, hstart⟩ := z.exists_first_byte
      have hskip : skipBlanks (z.bytes ++ rest) = z.bytes ++ rest := by
        rw [hbytes, List.cons_append, skipBlanks_cons (WholeNumber.isJsonBlank_of_isStart hstart)]
      rw [kind, readValue, skipBlanks_append hblanks, hskip, readCount_bytes z hrest]

end Scalar

section

variable {form : RecordForm} {read : Fields} {e : Entry} {es : List Entry}
  {bytes rest : List UInt8} {isFirst : Bool}

def separator (isFirst : Bool) : List UInt8 := if isFirst then [] else [0x2c]

theorem readEntries_blanks {blanks : List UInt8} (h : AreBlanks blanks) (fuel : Nat) :
    readEntries form fuel isFirst read (blanks ++ rest) =
      readEntries form fuel isFirst read rest := by
  cases fuel with
  | zero => rfl
  | succ fuel => simp only [readEntries, skipBlanks_append h]

theorem readEntries_key {blanks : List UInt8} (h : AreBlanks blanks) (fuel : Nat) :
    readEntries form (fuel + 1) isFirst read (separator isFirst ++ (blanks ++ 0x22 :: rest)) =
      (readEntry form read rest).bind fun p => readEntries form fuel false p.1 p.2 := by
  cases isFirst with
  | true =>
      rw [separator, if_pos rfl, List.nil_append, readEntries_blanks h, readEntries.eq_def]
      simp only [skipBlanks_cons (show isJsonBlank 0x22 = false by decide)]
      rfl
  | false =>
      rw [separator, if_neg (by decide), List.singleton_append, readEntries.eq_def]
      simp only [skipBlanks_cons (show isJsonBlank 0x2c = false by decide), skipBlanks_append h,
        skipBlanks_cons (show isJsonBlank 0x22 = false by decide)]
      rfl

def FollowsEntry (rest : List UInt8) : Prop := ∃ b more, rest = b :: more ∧ (b = 0x2c ∨ b = 0x7d)

theorem FollowsEntry.endsNumber (h : FollowsEntry rest) : EndsNumber rest := by
  obtain ⟨b, more, rfl, rfl | rfl⟩ := h <;> exact endsNumber_cons (by decide)

theorem readEntries_entry (h : WritesEntry e bytes)
    (hkind : form.fields.lookup e.1 = some e.2.kind) (hnew : read.lookup e.1 = none)
    (hrest : FollowsEntry rest) (fuel : Nat) : ∃ behind, AreBlanks behind ∧
      readEntries form (fuel + 1) isFirst read (separator isFirst ++ (bytes ++ rest)) =
        (e.2.read (.field e.1) (behind ++ rest)).bind fun p =>
          readEntries form fuel false ((e.1, p.1) :: read) p.2 := by
  cases h with
  | @entry name value before key between after bytes behind hbefore hkey hbetween hafter hvalue
      hbehind =>
      refine ⟨behind, hbehind, ?_⟩
      have hread := Scalar.readValue_written hvalue hafter
        (endsNumber_append hbehind hrest.endsNumber) (.field name)
      simp only [List.append_assoc, List.cons_append] at hread ⊢
      rw [readEntries_key hbefore, readEntry, hkey.readString]
      simp only [hkind, hnew, Option.isSome_none, Bool.false_eq_true, if_false,
        expectColon_append hbetween, bind, Except.bind, hread]
      cases value.read (.field name) (behind ++ rest) <;> rfl

theorem readEntries_held (h : WritesEntry e bytes)
    (hkind : form.fields.lookup e.1 = some e.2.kind) (hnew : read.lookup e.1 = none)
    (hrest : FollowsEntry rest) {v : FieldValue} (hv : e.2.held? = some v) (fuel : Nat) :
    readEntries form (fuel + 1) isFirst read (separator isFirst ++ (bytes ++ rest)) =
      readEntries form fuel false ((e.1, v) :: read) rest := by
  obtain ⟨behind, hbehind, hread⟩ := readEntries_entry h hkind hnew hrest fuel
  rw [hread, Scalar.read, hv]
  exact readEntries_blanks hbehind fuel

theorem readEntries_not_held (h : WritesEntry e bytes)
    (hkind : form.fields.lookup e.1 = some e.2.kind) (hnew : read.lookup e.1 = none)
    (hrest : FollowsEntry rest) (hv : e.2.held? = none) (fuel : Nat) : ∃ left,
      readEntries form (fuel + 1) isFirst read (separator isFirst ++ (bytes ++ rest)) =
        .error (e.2.problem (.field e.1) left) := by
  obtain ⟨behind, -, hread⟩ := readEntries_entry h hkind hnew hrest fuel
  refine ⟨behind ++ rest, ?_⟩
  rw [hread, Scalar.read, hv]
  rfl

structure RecordForm.Knows (form : RecordForm) (es : List Entry) : Prop where
  kind : ∀ e ∈ es, form.fields.lookup e.1 = some e.2.kind
  once : (es.map (·.1)).Nodup

def heldFields (es : List Entry) : Fields :=
  (es.filterMap fun e => e.2.held?.map fun v => (e.1, v)).reverse

theorem RecordForm.Knows.tail (h : form.Knows (e :: es)) : form.Knows es :=
  ⟨fun e he => h.kind e (List.mem_cons_of_mem _ he), (List.nodup_cons.mp h.once).2⟩

theorem lookup_cons_of_ne {name other : String} {v : FieldValue} (h : other ≠ name) :
    List.lookup name ((other, v) :: read) = read.lookup name := by
  rw [List.lookup_cons, beq_eq_false_iff_ne.mpr h.symm]

theorem RecordForm.Knows.lookup_tail (h : form.Knows (e :: es))
    (hnew : ∀ e' ∈ e :: es, read.lookup e'.1 = none) (v : FieldValue) :
    ∀ e' ∈ es, List.lookup e'.1 ((e.1, v) :: read) = none := by
  intro e' he'
  have hne : e.1 ≠ e'.1 := by
    intro heq
    exact (List.nodup_cons.mp h.once).1 (List.mem_map.mpr ⟨e', he', heq.symm⟩)
  rw [lookup_cons_of_ne hne]
  exact hnew e' (List.mem_cons_of_mem _ he')

theorem heldFields_cons {v : FieldValue} (hv : e.2.held? = some v) :
    heldFields (e :: es) = heldFields es ++ [(e.1, v)] := by
  rw [heldFields, List.filterMap_cons, hv, Option.map_some, List.reverse_cons]
  rfl

theorem readEntries_of_held (h : WritesEntries es bytes) (hknows : form.Knows es)
    (hnew : ∀ e ∈ es, read.lookup e.1 = none) (hheld : ∀ e ∈ es, e.2.held?.isSome)
    (fuel : Nat) (isFirst : Bool) (rest : List UInt8) :
    readEntries form (fuel + es.length) isFirst read
        (separator isFirst ++ (bytes ++ 0x7d :: rest)) =
      readEntries form fuel false (heldFields es ++ read) (0x7d :: rest) := by
  induction h generalizing read isFirst with
  | @single e bytes he =>
      obtain ⟨v, hv⟩ := Option.isSome_iff_exists.mp (hheld e List.mem_cons_self)
      rw [heldFields_cons hv]
      exact readEntries_held he (hknows.kind e List.mem_cons_self) (hnew e List.mem_cons_self)
        ⟨_, _, rfl, .inr rfl⟩ hv fuel
  | @cons e es first others he _ ih =>
      obtain ⟨v, hv⟩ := Option.isSome_iff_exists.mp (hheld e List.mem_cons_self)
      have hnext := ih hknows.tail (hknows.lookup_tail hnew v)
        (fun e' he' => hheld e' (List.mem_cons_of_mem _ he')) false
      rw [heldFields_cons hv, List.append_assoc, List.length_cons, ← Nat.add_assoc,
        List.append_assoc, List.cons_append,
        readEntries_held he (hknows.kind e List.mem_cons_self) (hnew e List.mem_cons_self)
          ⟨_, _, rfl, .inl rfl⟩ hv]
      exact hnext

theorem readEntries_of_not_held (h : WritesEntries es bytes) (hknows : form.Knows es)
    (hnew : ∀ e ∈ es, read.lookup e.1 = none) (hnone : ∃ e ∈ es, e.2.held? = none)
    (fuel : Nat) (isFirst : Bool) (rest : List UInt8) : ∃ e ∈ es, e.2.held? = none ∧ ∃ left,
      readEntries form (fuel + es.length) isFirst read
          (separator isFirst ++ (bytes ++ 0x7d :: rest)) =
        .error (e.2.problem (.field e.1) left) := by
  induction h generalizing read isFirst with
  | @single e bytes he =>
      obtain ⟨e', he', hv⟩ := hnone
      obtain rfl := List.mem_singleton.mp he'
      exact ⟨e', he', hv, readEntries_not_held he (hknows.kind e' he') (hnew e' he')
        ⟨_, _, rfl, .inr rfl⟩ hv fuel⟩
  | @cons e es first others he _ ih =>
      have hkind := hknows.kind e List.mem_cons_self
      have hold := hnew e List.mem_cons_self
      rw [List.length_cons, ← Nat.add_assoc, List.append_assoc, List.cons_append]
      cases hv : e.2.held? with
      | none =>
          exact ⟨e, List.mem_cons_self, hv,
            readEntries_not_held he hkind hold ⟨_, _, rfl, .inl rfl⟩ hv _⟩
      | some v =>
          have hlater : ∃ e' ∈ es, e'.2.held? = none := by
            obtain ⟨e', he', hv'⟩ := hnone
            rcases List.mem_cons.mp he' with rfl | hmem
            · cases hv.symm.trans hv'
            · exact ⟨e', hmem, hv'⟩
          obtain ⟨e', he', hv', left, hread⟩ :=
            ih hknows.tail (hknows.lookup_tail hnew v) hlater false
          refine ⟨e', List.mem_cons_of_mem _ he', hv', left, ?_⟩
          rw [readEntries_held he hkind hold ⟨_, _, rfl, .inl rfl⟩ hv]
          exact hread

theorem readEntries_end (fuel : Nat) {values : List FieldValue}
    (h : collectFields read form.fields = .ok values) (rest : List UInt8) :
    readEntries form (fuel + 1) false read (0x7d :: rest) = .ok (values, rest) := by
  rw [readEntries.eq_def]
  simp only [skipBlanks_cons (show isJsonBlank 0x7d = false by decide), h]

theorem WritesEntry.length_pos (h : WritesEntry e bytes) : 0 < bytes.length := by
  cases h
  simp only [List.length_append, List.length_cons]
  omega

theorem WritesEntries.length_le (h : WritesEntries es bytes) : es.length ≤ bytes.length := by
  induction h with
  | single he => exact he.length_pos
  | cons he _ ih =>
      simp only [List.length_cons, List.length_append]
      omega

theorem collectFields_of_forall₂ {fields : List (String × FieldKind)} {values : List FieldValue}
    (h : List.Forall₂ (fun field v => read.lookup field.1 = some v) fields values) :
    collectFields read fields = .ok values := by
  induction h with
  | nil => rfl
  | cons hv _ ih =>
      rw [collectFields, hv, ih]
      rfl

theorem mem_heldFields {v : FieldValue} (he : e ∈ es) (hv : e.2.held? = some v) :
    (e.1, v) ∈ heldFields es := by
  rw [heldFields, List.mem_reverse]
  exact List.mem_filterMap.mpr ⟨e, he, by rw [hv, Option.map_some]⟩

theorem nodup_heldFields (h : (es.map (·.1)).Nodup) : ((heldFields es).map (·.1)).Nodup := by
  rw [heldFields, List.map_reverse, List.nodup_reverse]
  refine h.sublist ?_
  clear h
  induction es with
  | nil => exact .slnil
  | cons e es ih =>
      rw [List.filterMap_cons]
      cases e.2.held? with
      | none => exact ih.cons _
      | some v => exact ih.cons_cons _

theorem lookup_of_mem {fields : Fields} (h : (fields.map (·.1)).Nodup) {name : String}
    {v : FieldValue} (hmem : (name, v) ∈ fields) : fields.lookup name = some v := by
  induction fields with
  | nil => cases hmem
  | cons field fields ih =>
      obtain ⟨hnotin, htail⟩ := List.nodup_cons.mp h
      rcases List.mem_cons.mp hmem with rfl | hlater
      · exact List.lookup_cons_self
      · have hne : field.1 ≠ name := by
          intro heq
          exact hnotin (List.mem_map.mpr ⟨_, hlater, heq.symm⟩)
        rw [← Prod.eta field, lookup_cons_of_ne hne]
        exact ih htail hlater

theorem WritesRecord.readRecord_of_held {document : List UInt8} (h : WritesRecord es document)
    (hknows : form.Knows es) (hheld : ∀ e ∈ es, e.2.held?.isSome) {values : List FieldValue}
    (hvalues : List.Forall₂ (fun field v => ∃ e ∈ es, e.1 = field.1 ∧ e.2.held? = some v)
      form.fields values) : readRecord form document = .ok values := by
  cases h with
  | @record before bytes behind hbefore hentries hbehind =>
      obtain ⟨fuel, hfuel⟩ : ∃ fuel, (bytes ++ 0x7d :: behind).length + 1 = fuel + 1 + es.length :=
        ⟨(bytes ++ 0x7d :: behind).length - es.length, by
          have hlength := hentries.length_le
          simp only [List.length_append]
          omega⟩
      have hcollect : collectFields (heldFields es ++ []) form.fields = .ok values := by
        refine collectFields_of_forall₂ (hvalues.imp ?_)
        rintro field v ⟨e, he, hname, hv⟩
        rw [List.append_nil, ← hname]
        exact lookup_of_mem (nodup_heldFields hknows.once) (mem_heldFields he hv)
      have hread : readFields form (before ++ 0x7b :: (bytes ++ 0x7d :: behind)) =
          .ok (values, behind) := by
        rw [readFields, skipBlanks_append hbefore, skipBlanks_cons (by decide)]
        simp only [hfuel]
        exact (readEntries_of_held hentries hknows (fun _ _ => rfl) hheld (fuel + 1) true
          behind).trans (readEntries_end fuel hcollect behind)
      have hrest : skipBlanks behind = [] := by
        rw [← List.append_nil behind, skipBlanks_append hbehind]
        rfl
      rw [readRecord, hread]
      simp only [hrest]
      rfl

theorem WritesRecord.readRecord_of_not_held {document : List UInt8} (h : WritesRecord es document)
    (hknows : form.Knows es) (hnone : ∃ e ∈ es, e.2.held? = none) :
    ∃ e ∈ es, e.2.held? = none ∧ ∃ left,
      readRecord form document = .error (e.2.problem (.field e.1) left) := by
  cases h with
  | @record before bytes behind hbefore hentries hbehind =>
      obtain ⟨fuel, hfuel⟩ : ∃ fuel, (bytes ++ 0x7d :: behind).length + 1 = fuel + es.length :=
        ⟨(bytes ++ 0x7d :: behind).length + 1 - es.length, by
          have hlength := hentries.length_le
          simp only [List.length_append]
          omega⟩
      have hnew : ∀ e ∈ es, List.lookup e.1 ([] : Fields) = none := fun _ _ => rfl
      obtain ⟨e, he, hv, left, hread⟩ :=
        readEntries_of_not_held hentries hknows hnew hnone fuel true behind
      refine ⟨e, he, hv, left, ?_⟩
      rw [readRecord, readFields, skipBlanks_append hbefore, skipBlanks_cons (by decide)]
      simp only [hfuel]
      rw [separator, if_pos rfl, List.nil_append] at hread
      rw [hread]

end

end ImageIntake.Json
