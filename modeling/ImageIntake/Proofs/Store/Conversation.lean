import ImageIntake.Proofs.Walk
import ImageIntake.Store.Program

namespace ImageIntake

inductive Call where
  | get (key : String) (limit : Nat)
  | put (w : Write)
  | delete (key : String)
  | presign (key contentType : String) (lifetime : Span)

inductive Event where
  | asks (call : Call)
  | reads (key : String) (answer : Answer ByteArray)
  | writes (w : Write) (answer : Answer Unit)
  | deletes (key : String) (answer : Answer Unit)
  | presigns (key : String) (answer : Answer String)

def Event.call? : Event → Option Call
  | .asks call => some call
  | _ => none

def callsIn (trace : List Event) : List Call := trace.filterMap Event.call?

@[simp] theorem callsIn_nil : callsIn [] = [] := rfl

@[simp] theorem callsIn_append (trace more : List Event) :
    callsIn (trace ++ more) = callsIn trace ++ callsIn more :=
  List.filterMap_append

@[simp] theorem callsIn_asks (call : Call) (trace : List Event) :
    callsIn (.asks call :: trace) = call :: callsIn trace := rfl

@[simp] theorem callsIn_reads (key : String) (answer : Answer ByteArray) (trace : List Event) :
    callsIn (.reads key answer :: trace) = callsIn trace := rfl

@[simp] theorem callsIn_writes (w : Write) (answer : Answer Unit) (trace : List Event) :
    callsIn (.writes w answer :: trace) = callsIn trace := rfl

@[simp] theorem callsIn_deletes (key : String) (answer : Answer Unit) (trace : List Event) :
    callsIn (.deletes key answer :: trace) = callsIn trace := rfl

def Program.map {α β : Type} (g : α → β) (p : Program α) : Program β := p.bind fun a => .done (g a)

inductive Progress where
  | unasked
  | asked
  | done
  deriving DecidableEq, Repr

inductive Position (α : Type) where
  | done (result : α)
  | get (key : String) (limit : Nat) (next : Answer ByteArray → Program α) (asked : Bool)
  | putBoth (first second : Write) (one two : Progress) (next : Answer Unit → Program α)
  | delete (key : String) (next : Answer Unit → Program α) (asked : Bool)
  | presign (key contentType : String) (lifetime : Span) (next : Answer String → Program α)
      (asked : Bool)

namespace Position

variable {α : Type}

def start : Program α → Position α
  | .done result => .done result
  | .get key limit next => .get key limit next false
  | .putBoth first second next => .putBoth first second .unasked .unasked next
  | .delete key next => .delete key next false
  | .presign key contentType lifetime next => .presign key contentType lifetime next false

def afterWrite (first second : Write) (one two : Progress) (next : Answer Unit → Program α) :
    Position α :=
  if one = .done ∧ two = .done then start (next (.ok ()))
  else .putBoth first second one two next

inductive Step : Position α → Event → Position α → Prop where
  | askGet {key limit next} :
      Step (.get key limit next false) (.asks (.get key limit)) (.get key limit next true)
  | hearGet {key limit next} (answer) :
      Step (.get key limit next true) (.reads key answer) (start (next answer))
  | askFirst {first second two next} :
      Step (.putBoth first second .unasked two next) (.asks (.put first))
        (.putBoth first second .asked two next)
  | askSecond {first second one next} :
      Step (.putBoth first second one .unasked next) (.asks (.put second))
        (.putBoth first second one .asked next)
  | firstDone {first second two next} :
      Step (.putBoth first second .asked two next) (.writes first (.ok ()))
        (afterWrite first second .done two next)
  | secondDone {first second one next} :
      Step (.putBoth first second one .asked next) (.writes second (.ok ()))
        (afterWrite first second one .done next)
  | firstRefused {first second two next} (cause) :
      Step (.putBoth first second .asked two next) (.writes first (.error cause))
        (start (next (.error cause)))
  | secondRefused {first second one next} (cause) :
      Step (.putBoth first second one .asked next) (.writes second (.error cause))
        (start (next (.error cause)))
  | askDelete {key next} :
      Step (.delete key next false) (.asks (.delete key)) (.delete key next true)
  | hearDelete {key next} (answer) :
      Step (.delete key next true) (.deletes key answer) (start (next answer))
  | askPresign {key contentType lifetime next} :
      Step (.presign key contentType lifetime next false)
        (.asks (.presign key contentType lifetime)) (.presign key contentType lifetime next true)
  | hearPresign {key contentType lifetime next} (answer) :
      Step (.presign key contentType lifetime next true) (.presigns key answer)
        (start (next answer))

abbrev Converses : Position α → List Event → Position α → Prop := Walk Step

def Live : Position α → Prop
  | .putBoth _ _ one two _ => ¬(one = .done ∧ two = .done)
  | _ => True

theorem live_start (p : Program α) : Live (start p) := by
  cases p <;> simp [start, Live]

theorem live_afterWrite (first second : Write) (one two : Progress)
    (next : Answer Unit → Program α) : Live (afterWrite first second one two next) := by
  rw [afterWrite]
  split
  · exact live_start _
  · assumption

theorem live_step {pos pos' : Position α} {e : Event} (h : Step pos e pos') (hl : Live pos) :
    Live pos' := by
  cases h with
  | hearGet | firstRefused | secondRefused | hearDelete | hearPresign => exact live_start _
  | firstDone | secondDone => exact live_afterWrite ..
  | askFirst | askSecond => simp [Live]
  | askGet | askDelete | askPresign => trivial

theorem start_completes (p : Program α) (cause : StoreError) :
    ∃ trace result, Converses (start p) trace (.done result) := by
  induction p with
  | done result => exact ⟨[], result, .refl _⟩
  | get key limit next ih =>
      obtain ⟨trace, result, h⟩ := ih (.error cause)
      exact ⟨_, result, .cons .askGet (.cons (.hearGet _) h)⟩
  | putBoth first second next ih =>
      obtain ⟨trace, result, h⟩ := ih (.error cause)
      exact ⟨_, result, .cons .askFirst (.cons (.firstRefused _) h)⟩
  | delete key next ih =>
      obtain ⟨trace, result, h⟩ := ih (.error cause)
      exact ⟨_, result, .cons .askDelete (.cons (.hearDelete _) h)⟩
  | presign key contentType lifetime next ih =>
      obtain ⟨trace, result, h⟩ := ih (.error cause)
      exact ⟨_, result, .cons .askPresign (.cons (.hearPresign _) h)⟩

theorem live_completes {pos : Position α} (h : Live pos) :
    ∃ trace result, Converses pos trace (.done result) := by
  let cause : StoreError := .transport ""
  cases pos with
  | done result => exact ⟨[], result, .refl _⟩
  | get key limit next asked =>
      obtain ⟨trace, result, hw⟩ := start_completes (next (.error cause)) cause
      cases asked with
      | false => exact ⟨_, result, .cons .askGet (.cons (.hearGet _) hw)⟩
      | true => exact ⟨_, result, .cons (.hearGet _) hw⟩
  | putBoth first second one two next =>
      obtain ⟨trace, result, hw⟩ := start_completes (next (.error cause)) cause
      cases one with
      | unasked => exact ⟨_, result, .cons .askFirst (.cons (.firstRefused _) hw)⟩
      | asked => exact ⟨_, result, .cons (.firstRefused _) hw⟩
      | done =>
          cases two with
          | unasked => exact ⟨_, result, .cons .askSecond (.cons (.secondRefused _) hw)⟩
          | asked => exact ⟨_, result, .cons (.secondRefused _) hw⟩
          | done => exact absurd ⟨rfl, rfl⟩ h
  | delete key next asked =>
      obtain ⟨trace, result, hw⟩ := start_completes (next (.error cause)) cause
      cases asked with
      | false => exact ⟨_, result, .cons .askDelete (.cons (.hearDelete _) hw)⟩
      | true => exact ⟨_, result, .cons (.hearDelete _) hw⟩
  | presign key contentType lifetime next asked =>
      obtain ⟨trace, result, hw⟩ := start_completes (next (.error cause)) cause
      cases asked with
      | false => exact ⟨_, result, .cons .askPresign (.cons (.hearPresign _) hw)⟩
      | true => exact ⟨_, result, .cons (.hearPresign _) hw⟩

theorem converses_completes {p : Program α} {trace : List Event} {pos : Position α}
    (h : Converses (start p) trace pos) :
    ∃ more result, Converses pos more (.done result) :=
  live_completes (h.keeps (fun _ _ _ hl hs => live_step hs hl) (live_start p))

variable {β : Type} (g : α → β)

def map : Position α → Position β
  | .done result => .done (g result)
  | .get key limit next asked => .get key limit (fun answer => (next answer).map g) asked
  | .putBoth first second one two next =>
      .putBoth first second one two fun answer => (next answer).map g
  | .delete key next asked => .delete key (fun answer => (next answer).map g) asked
  | .presign key contentType lifetime next asked =>
      .presign key contentType lifetime (fun answer => (next answer).map g) asked

theorem start_map (p : Program α) : start (p.map g) = (start p).map g := by
  cases p <;> rfl

theorem afterWrite_map (first second : Write) (one two : Progress)
    (next : Answer Unit → Program α) :
    afterWrite first second one two (fun answer => (next answer).map g) =
      (afterWrite first second one two next).map g := by
  rw [afterWrite, afterWrite]
  split
  · exact start_map g _
  · rfl

theorem step_of_step_map {pos : Position α} {e : Event} {pos' : Position β}
    (h : Step (pos.map g) e pos') : ∃ mid, Step pos e mid ∧ pos' = mid.map g := by
  cases pos with
  | done result => cases h
  | get key limit next asked =>
      cases h with
      | askGet => exact ⟨_, .askGet, rfl⟩
      | hearGet answer => exact ⟨_, .hearGet answer, start_map g _⟩
  | putBoth first second one two next =>
      cases h with
      | askFirst => exact ⟨_, .askFirst, rfl⟩
      | askSecond => exact ⟨_, .askSecond, rfl⟩
      | firstDone => exact ⟨_, .firstDone, afterWrite_map ..⟩
      | secondDone => exact ⟨_, .secondDone, afterWrite_map ..⟩
      | firstRefused cause => exact ⟨_, .firstRefused cause, start_map g _⟩
      | secondRefused cause => exact ⟨_, .secondRefused cause, start_map g _⟩
  | delete key next asked =>
      cases h with
      | askDelete => exact ⟨_, .askDelete, rfl⟩
      | hearDelete answer => exact ⟨_, .hearDelete answer, start_map g _⟩
  | presign key contentType lifetime next asked =>
      cases h with
      | askPresign => exact ⟨_, .askPresign, rfl⟩
      | hearPresign answer => exact ⟨_, .hearPresign answer, start_map g _⟩

theorem eq_done_of_map {pos : Position α} {b : β} (h : .done b = pos.map g) :
    ∃ a, b = g a ∧ pos = .done a := by
  cases pos with
  | done a =>
      injection h with hb
      exact ⟨a, hb, rfl⟩
  | get | putBoth | delete | presign => cases h

theorem converses_of_converses_map {pos : Position α} {trace : List Event} {pos' : Position β}
    (h : Converses (pos.map g) trace pos') :
    ∃ mid, Converses pos trace mid ∧ pos' = mid.map g := by
  generalize hs : pos.map g = s at h
  induction h with
  | refl =>
      subst hs
      exact ⟨pos, .refl _, rfl⟩
  | snoc _ hstep ih =>
      obtain ⟨mid, hw, rfl⟩ := ih
      obtain ⟨last, hlast, rfl⟩ := step_of_step_map g hstep
      exact ⟨last, hw.snoc hlast, rfl⟩

theorem converses_of_map {p : Program α} {trace : List Event} {b : β}
    (h : Converses (start (p.map g)) trace (.done b)) :
    ∃ a, b = g a ∧ Converses (start p) trace (.done a) := by
  rw [start_map] at h
  obtain ⟨mid, hw, hmid⟩ := converses_of_converses_map g h
  obtain ⟨a, hb, rfl⟩ := eq_done_of_map g hmid
  exact ⟨a, hb, hw⟩

end Position

end ImageIntake
