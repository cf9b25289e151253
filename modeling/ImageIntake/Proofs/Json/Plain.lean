import ImageIntake.Proofs.Json.WrittenRecord

namespace ImageIntake.Json

open Text

def IsPlain (c : Char) : Prop := 32 ≤ c.toNat ∧ c.toNat < 127 ∧ c ≠ '"' ∧ c ≠ '\\'

instance (c : Char) : Decidable (IsPlain c) := inferInstanceAs (Decidable (_ ∧ _))

theorem IsPlain.standsForItself {c : Char} (h : IsPlain c) : StandsForItself c :=
  ⟨h.1, h.2.2⟩

theorem isPlain_of_all {text : String}
    (h : text.toList.all (fun c => decide (IsPlain c)) = true) : ∀ c ∈ text.toList, IsPlain c :=
  fun c hc => of_decide_eq_true (List.all_eq_true.mp h c hc)

theorem length_toUTF8_of_plain {text : String} (h : ∀ c ∈ text.toList, IsPlain c) :
    text.toUTF8.data.toList.length = text.toList.length := by
  rw [toUTF8_of_ascii fun c hc => Nat.lt_succ_of_lt (h c hc).2.1, List.length_map]

def writeScalar : Scalar → List UInt8
  | .text value => 0x22 :: (value.toUTF8.data.toList ++ [0x22])
  | .whole z => z.bytes

def writeEntry (e : Entry) : List UInt8 :=
  0x22 :: (e.1.toUTF8.data.toList ++ 0x22 :: 0x3a :: writeScalar e.2)

def writeEntries : List Entry → List UInt8
  | [] => []
  | [e] => writeEntry e
  | e :: es => writeEntry e ++ 0x2c :: writeEntries es

def writeRecord (es : List Entry) : List UInt8 := 0x7b :: (writeEntries es ++ [0x7d])

structure Unescaped (e : Entry) : Prop where
  name : ∀ c ∈ e.1.toList, StandsForItself c
  value : ∀ text, e.2 = .text text → ∀ c ∈ text.toList, StandsForItself c

theorem unescaped_text {name text : String} (hname : ∀ c ∈ name.toList, IsPlain c)
    (htext : ∀ c ∈ text.toList, IsPlain c) : Unescaped (name, .text text) where
  name c hc := (hname c hc).standsForItself
  value other heq c hc := by
    obtain rfl := Scalar.text.inj heq
    exact (htext c hc).standsForItself

theorem unescaped_whole {name : String} (hname : ∀ c ∈ name.toList, IsPlain c)
    (z : WholeNumber) : Unescaped (name, .whole z) where
  name c hc := (hname c hc).standsForItself
  value := nofun

variable {e : Entry} {es : List Entry}

theorem Unescaped.writesScalar (h : Unescaped e) : WritesScalar e.2 (writeScalar e.2) := by
  cases hvalue : e.2 with
  | text text => exact .text (writesChars_self (h.value text hvalue))
  | whole z => exact .whole z

theorem Unescaped.writesEntry (h : Unescaped e) : WritesEntry e (writeEntry e) := by
  have hentry := WritesEntry.entry areBlanks_nil (writesChars_self h.name) areBlanks_nil
    areBlanks_nil h.writesScalar areBlanks_nil
  simp only [List.nil_append, List.append_nil] at hentry
  exact hentry

theorem writesEntries_writeEntries (h : ∀ e ∈ es, Unescaped e) (hne : es ≠ []) :
    WritesEntries es (writeEntries es) := by
  induction es with
  | nil => exact absurd rfl hne
  | cons e es ih =>
      have he := (h e List.mem_cons_self).writesEntry
      cases es with
      | nil => exact .single he
      | cons e' es =>
          exact .cons he (ih (fun e'' he'' => h e'' (List.mem_cons_of_mem _ he'')) nofun)

theorem writesRecord_writeRecord (h : ∀ e ∈ es, Unescaped e) (hne : es ≠ []) :
    WritesRecord es (writeRecord es) :=
  .record areBlanks_nil (writesEntries_writeEntries h hne) areBlanks_nil

end ImageIntake.Json
