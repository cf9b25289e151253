import ImageIntake.Proofs.Store.Conversation

namespace ImageIntake

namespace Program

variable {α : Type} (P : Call → Prop)

inductive Only : Program α → Prop where
  | done (result : α) : Only (.done result)
  | get {key limit next} : P (.get key limit) → (∀ answer, Only (next answer)) →
      Only (.get key limit next)
  | putBoth {first second next} : P (.put first) → P (.put second) →
      (∀ answer, Only (next answer)) → Only (.putBoth first second next)
  | delete {key next} : P (.delete key) → (∀ answer, Only (next answer)) → Only (.delete key next)
  | presign {key contentType lifetime next} : P (.presign key contentType lifetime) →
      (∀ answer, Only (next answer)) → Only (.presign key contentType lifetime next)

variable {P}

theorem Only.map {β : Type} (g : α → β) {p : Program α} (h : p.Only P) : (p.map g).Only P := by
  induction h with
  | done result => exact .done (g result)
  | get hcall _ ih => exact .get hcall ih
  | putBoth hfirst hsecond _ ih => exact .putBoth hfirst hsecond ih
  | delete hcall _ ih => exact .delete hcall ih
  | presign hcall _ ih => exact .presign hcall ih

theorem Only.mono {Q : Call → Prop} (hPQ : ∀ call, P call → Q call) {p : Program α}
    (h : p.Only P) : p.Only Q := by
  induction h with
  | done result => exact .done result
  | get hcall _ ih => exact .get (hPQ _ hcall) ih
  | putBoth hfirst hsecond _ ih => exact .putBoth (hPQ _ hfirst) (hPQ _ hsecond) ih
  | delete hcall _ ih => exact .delete (hPQ _ hcall) ih
  | presign hcall _ ih => exact .presign (hPQ _ hcall) ih

end Program

namespace Position

variable {α : Type} (P : Call → Prop)

inductive Only : Position α → Prop where
  | done (result : α) : Only (.done result)
  | get {key limit next asked} : (asked = false → P (.get key limit)) →
      (∀ answer, (next answer).Only P) → Only (.get key limit next asked)
  | putBoth {first second one two next} : (one = .unasked → P (.put first)) →
      (two = .unasked → P (.put second)) → (∀ answer, (next answer).Only P) →
      Only (.putBoth first second one two next)
  | delete {key next asked} : (asked = false → P (.delete key)) →
      (∀ answer, (next answer).Only P) → Only (.delete key next asked)
  | presign {key contentType lifetime next asked} :
      (asked = false → P (.presign key contentType lifetime)) →
      (∀ answer, (next answer).Only P) → Only (.presign key contentType lifetime next asked)

variable {P}

theorem Only.start {p : Program α} (h : p.Only P) : (start p).Only P := by
  cases h with
  | done result => exact .done result
  | get hcall hnext => exact .get (fun _ => hcall) hnext
  | putBoth hfirst hsecond hnext => exact .putBoth (fun _ => hfirst) (fun _ => hsecond) hnext
  | delete hcall hnext => exact .delete (fun _ => hcall) hnext
  | presign hcall hnext => exact .presign (fun _ => hcall) hnext

theorem Only.afterWrite {first second : Write} {one two : Progress} {next : Answer Unit → Program α}
    (h : (Position.putBoth first second one two next).Only P) :
    (afterWrite first second one two next).Only P := by
  rw [Position.afterWrite]
  split
  · cases h with
    | putBoth _ _ hnext => exact .start (hnext _)
  · exact h

theorem Only.step {pos pos' : Position α} {e : Event} (h : pos.Only P) (hs : Step pos e pos') :
    (∀ call, e = .asks call → P call) ∧ pos'.Only P := by
  cases hs with
  | askGet =>
      cases h with
      | get hcall hnext => exact ⟨by rintro _ ⟨⟩; exact hcall rfl, .get nofun hnext⟩
  | askDelete =>
      cases h with
      | delete hcall hnext => exact ⟨by rintro _ ⟨⟩; exact hcall rfl, .delete nofun hnext⟩
  | askPresign =>
      cases h with
      | presign hcall hnext => exact ⟨by rintro _ ⟨⟩; exact hcall rfl, .presign nofun hnext⟩
  | askFirst =>
      cases h with
      | putBoth hfirst hsecond hnext =>
          exact ⟨by rintro _ ⟨⟩; exact hfirst rfl, .putBoth nofun hsecond hnext⟩
  | askSecond =>
      cases h with
      | putBoth hfirst hsecond hnext =>
          exact ⟨by rintro _ ⟨⟩; exact hsecond rfl, .putBoth hfirst nofun hnext⟩
  | hearGet answer =>
      cases h with
      | get _ hnext => exact ⟨nofun, .start (hnext answer)⟩
  | hearDelete answer =>
      cases h with
      | delete _ hnext => exact ⟨nofun, .start (hnext answer)⟩
  | hearPresign answer =>
      cases h with
      | presign _ hnext => exact ⟨nofun, .start (hnext answer)⟩
  | firstDone =>
      cases h with
      | putBoth _ hsecond hnext => exact ⟨nofun, .afterWrite (.putBoth nofun hsecond hnext)⟩
  | secondDone =>
      cases h with
      | putBoth hfirst _ hnext => exact ⟨nofun, .afterWrite (.putBoth hfirst nofun hnext)⟩
  | firstRefused cause | secondRefused cause =>
      cases h with
      | putBoth _ _ hnext => exact ⟨nofun, .start (hnext _)⟩

theorem Only.walk {pos pos' : Position α} {trace : List Event} (h : pos.Only P)
    (hw : Converses pos trace pos') : (∀ call ∈ callsIn trace, P call) ∧ pos'.Only P := by
  induction hw with
  | refl => exact ⟨nofun, h⟩
  | @snoc mid last trace e _ hs ih =>
      obtain ⟨hcalls, hmid⟩ := ih
      obtain ⟨he, hlast⟩ := hmid.step hs
      refine ⟨fun call hmem => ?_, hlast⟩
      rw [callsIn_append, List.mem_append] at hmem
      rcases hmem with hmem | hmem
      · exact hcalls call hmem
      · cases e with
        | asks asked =>
            obtain rfl : call = asked := by simpa using hmem
            exact he call rfl
        | reads | writes | deletes | presigns => cases hmem

theorem calls_of_only {p : Program α} (h : p.Only P) {trace : List Event} {pos : Position α}
    (hw : Converses (.start p) trace pos) : ∀ call ∈ callsIn trace, P call :=
  ((Only.start h).walk hw).1

end Position

end ImageIntake
