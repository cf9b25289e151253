import ImageIntake.Proofs.Store.Conversation

namespace ImageIntake

def StoreError.saysTooLarge : StoreError → Bool
  | .tooLarge _ _ => true
  | _ => false

def StoreError.SameSize (e e' : StoreError) : Prop := e.saysTooLarge = e'.saysTooLarge

inductive Answer.UpTo {α : Type} (near : StoreError → StoreError → Prop) :
    Answer α → Answer α → Prop where
  | ok (a : α) : UpTo near (.ok a) (.ok a)
  | error {e e' : StoreError} (h : near e e') : UpTo near (.error e) (.error e')

abbrev Answer.UpToCause {α : Type} : Answer α → Answer α → Prop := Answer.UpTo fun _ _ => True

abbrev Answer.UpToReason : Answer ByteArray → Answer ByteArray → Prop :=
  Answer.UpTo StoreError.SameSize

structure FailAlike (trace trace' : List Event) : Prop where
  reads : ∀ key a a', .reads key a ∈ trace → .reads key a' ∈ trace' → Answer.UpToReason a a'
  writes : ∀ w a a', .writes w a ∈ trace → .writes w a' ∈ trace' → Answer.UpToCause a a'
  presigns : ∀ key a a', .presigns key a ∈ trace → .presigns key a' ∈ trace' →
    Answer.UpToCause a a'

theorem FailAlike.mono {trace trace' more more' : List Event} (h : FailAlike trace trace')
    (hmore : more ⊆ trace) (hmore' : more' ⊆ trace') : FailAlike more more' where
  reads key a a' ha ha' := h.reads key a a' (hmore ha) (hmore' ha')
  writes w a a' ha ha' := h.writes w a a' (hmore ha) (hmore' ha')
  presigns key a a' ha ha' := h.presigns key a a' (hmore ha) (hmore' ha')

namespace Position

variable {α : Type} {trace : List Event} {b : α}

theorem converses_done {a : α} (h : Converses (.done a) trace (.done b)) : trace = [] ∧ a = b := by
  rcases h.eq_or_first with ⟨htrace, hb⟩ | ⟨e, t, rest, -, hstep, -⟩
  · cases hb
    exact ⟨htrace, rfl⟩
  · cases hstep

theorem heard_get {key : String} {limit : Nat} {next : Answer ByteArray → Program α}
    (h : Converses (.get key limit next false) trace (.done b)) :
    ∃ answer rest, trace = .asks (.get key limit) :: .reads key answer :: rest ∧
      Converses (start (next answer)) rest (.done b) := by
  rcases h.eq_or_first with ⟨-, hb⟩ | ⟨e, t, rest, rfl, hask, hrest⟩
  · cases hb
  · cases hask
    rcases hrest.eq_or_first with ⟨-, hb⟩ | ⟨e, t, rest, rfl, hhear, hrest⟩
    · cases hb
    · cases hhear with
      | hearGet answer => exact ⟨answer, rest, rfl, hrest⟩

theorem heard_delete {key : String} {next : Answer Unit → Program α}
    (h : Converses (.delete key next false) trace (.done b)) :
    ∃ answer rest, trace = .asks (.delete key) :: .deletes key answer :: rest ∧
      Converses (start (next answer)) rest (.done b) := by
  rcases h.eq_or_first with ⟨-, hb⟩ | ⟨e, t, rest, rfl, hask, hrest⟩
  · cases hb
  · cases hask
    rcases hrest.eq_or_first with ⟨-, hb⟩ | ⟨e, t, rest, rfl, hhear, hrest⟩
    · cases hb
    · cases hhear with
      | hearDelete answer => exact ⟨answer, rest, rfl, hrest⟩

theorem heard_presign {key contentType : String} {lifetime : Span}
    {next : Answer String → Program α}
    (h : Converses (.presign key contentType lifetime next false) trace (.done b)) :
    ∃ answer rest,
      trace = .asks (.presign key contentType lifetime) :: .presigns key answer :: rest ∧
      Converses (start (next answer)) rest (.done b) := by
  rcases h.eq_or_first with ⟨-, hb⟩ | ⟨e, t, rest, rfl, hask, hrest⟩
  · cases hb
  · cases hask
    rcases hrest.eq_or_first with ⟨-, hb⟩ | ⟨e, t, rest, rfl, hhear, hrest⟩
    · cases hb
    · cases hhear with
      | hearPresign answer => exact ⟨answer, rest, rfl, hrest⟩

structure Hears (first second : Write) (one two : Progress) (heard : List Event)
    (answer : Answer Unit) : Prop where
  madeFirst : answer = .ok () → one ≠ .done → .writes first (.ok ()) ∈ heard
  madeSecond : answer = .ok () → two ≠ .done → .writes second (.ok ()) ∈ heard
  refused : ∀ cause, answer = .error cause →
    .writes first (.error cause) ∈ heard ∨ .writes second (.error cause) ∈ heard

variable {first second : Write} {one two : Progress} {next : Answer Unit → Program α}

theorem hears_refusal {cause : StoreError} {heard : List Event}
    (h : .writes first (.error cause) ∈ heard ∨ .writes second (.error cause) ∈ heard) :
    Hears first second one two heard (.error cause) where
  madeFirst hok := by cases hok
  madeSecond hok := by cases hok
  refused _ herror := by cases herror; exact h

theorem Hears.cons {heard : List Event} {answer : Answer Unit} {one' two' : Progress} {e : Event}
    (h : Hears first second one' two' heard answer)
    (hone : one ≠ .done → one' ≠ .done ∨ e = .writes first (.ok ()))
    (htwo : two ≠ .done → two' ≠ .done ∨ e = .writes second (.ok ())) :
    Hears first second one two (e :: heard) answer where
  madeFirst hok hne := by
    rcases hone hne with hne' | rfl
    · exact List.mem_cons_of_mem _ (h.madeFirst hok hne')
    · exact List.mem_cons_self
  madeSecond hok hne := by
    rcases htwo hne with hne' | rfl
    · exact List.mem_cons_of_mem _ (h.madeSecond hok hne')
    · exact List.mem_cons_self
  refused cause herror :=
    (h.refused cause herror).imp (List.mem_cons_of_mem _) (List.mem_cons_of_mem _)

theorem heard_putBoth (h : Converses (.putBoth first second one two next) trace (.done b)) :
    ∃ answer heard rest, trace = heard ++ rest ∧ Hears first second one two heard answer ∧
      Converses (start (next answer)) rest (.done b) := by
  -- the first event takes one of the writes further, or ends the wait for both
  induction trace generalizing one two with
  | nil =>
      rcases h.eq_or_first with ⟨-, hb⟩ | ⟨e, t, rest, hnil, -⟩
      · cases hb
      · cases hnil
  | cons e trace ih =>
      rcases h.eq_or_first with ⟨hnil, -⟩ | ⟨e, t, rest, heq, hstep, hrest⟩
      · cases hnil
      obtain ⟨rfl, rfl⟩ := List.cons.inj heq
      cases hstep with
      | askFirst =>
          obtain ⟨answer, heard, rest, rfl, hheard, hrest⟩ := ih hrest
          exact ⟨answer, _ :: heard, rest, rfl, hheard.cons (fun _ => .inl nofun) .inl, hrest⟩
      | askSecond =>
          obtain ⟨answer, heard, rest, rfl, hheard, hrest⟩ := ih hrest
          exact ⟨answer, _ :: heard, rest, rfl, hheard.cons .inl (fun _ => .inl nofun), hrest⟩
      | firstRefused cause =>
          exact ⟨_, [_], _, rfl, hears_refusal (.inl List.mem_cons_self), hrest⟩
      | secondRefused cause =>
          exact ⟨_, [_], _, rfl, hears_refusal (.inr List.mem_cons_self), hrest⟩
      | firstDone =>
          rw [afterWrite] at hrest
          split at hrest
          · next hdone =>
            refine ⟨_, [_], _, rfl, ⟨fun _ _ => List.mem_cons_self,
              fun _ hne => absurd hdone.2 hne, fun _ herror => ?_⟩, hrest⟩
            cases herror
          · obtain ⟨answer, heard, rest, rfl, hheard, hrest⟩ := ih hrest
            exact ⟨answer, _ :: heard, rest, rfl, hheard.cons (fun _ => .inr rfl) .inl, hrest⟩
      | secondDone =>
          rw [afterWrite] at hrest
          split at hrest
          · next hdone =>
            refine ⟨_, [_], _, rfl, ⟨fun _ hne => absurd hdone.1 hne,
              fun _ _ => List.mem_cons_self, fun _ herror => ?_⟩, hrest⟩
            cases herror
          · obtain ⟨answer, heard, rest, rfl, hheard, hrest⟩ := ih hrest
            exact ⟨answer, _ :: heard, rest, rfl, hheard.cons .inl (fun _ => .inr rfl), hrest⟩

theorem Hears.upToCause {heard heard' : List Event} {answer answer' : Answer Unit}
    (h : Hears first second .unasked .unasked heard answer)
    (h' : Hears first second .unasked .unasked heard' answer') (hagree : FailAlike heard heard') :
    Answer.UpToCause answer answer' := by
  cases answer with
  | ok =>
      cases answer' with
      | ok => exact .ok ()
      | error cause =>
          rcases h'.refused cause rfl with hmem | hmem
          · cases hagree.writes first _ _ (h.madeFirst rfl nofun) hmem
          · cases hagree.writes second _ _ (h.madeSecond rfl nofun) hmem
  | error cause =>
      cases answer' with
      | error cause' => exact .error trivial
      | ok =>
          rcases h.refused cause rfl with hmem | hmem
          · cases hagree.writes first _ _ hmem (h'.madeFirst rfl nofun)
          · cases hagree.writes second _ _ hmem (h'.madeSecond rfl nofun)

end Position

namespace Program

variable {α : Type}

inductive Blind : Program α → Prop where
  | done (result : α) : Blind (.done result)
  | get {key limit next} : (∀ a a', Answer.UpToReason a a' → next a = next a') →
      (∀ a, Blind (next a)) → Blind (.get key limit next)
  | putBoth {first second next} : (∀ a a', Answer.UpToCause a a' → next a = next a') →
      (∀ a, Blind (next a)) → Blind (.putBoth first second next)
  | delete {key next} : (∀ a a', next a = next a') → (∀ a, Blind (next a)) →
      Blind (.delete key next)
  | presign {key contentType lifetime next} :
      (∀ a a', Answer.UpToCause a a' → next a = next a') → (∀ a, Blind (next a)) →
      Blind (.presign key contentType lifetime next)

theorem Blind.map {β : Type} (g : α → β) {p : Program α} (h : p.Blind) : (p.map g).Blind := by
  induction h with
  | done result => exact .done (g result)
  | get hsame _ ih => exact .get (fun a a' h => congrArg (Program.map g) (hsame a a' h)) ih
  | putBoth hsame _ ih => exact .putBoth (fun a a' h => congrArg (Program.map g) (hsame a a' h)) ih
  | delete hsame _ ih => exact .delete (fun a a' => congrArg (Program.map g) (hsame a a')) ih
  | presign hsame _ ih => exact .presign (fun a a' h => congrArg (Program.map g) (hsame a a' h)) ih

open Position (start Converses)

theorem Blind.eq_of_failAlike {p : Program α} (h : p.Blind) {trace trace' : List Event} {a b : α}
    (hw : Converses (start p) trace (.done a)) (hw' : Converses (start p) trace' (.done b))
    (hagree : FailAlike trace trace') : a = b := by
  induction h generalizing trace trace' with
  | done result =>
      obtain ⟨-, rfl⟩ := Position.converses_done hw
      exact (Position.converses_done hw').2
  | @get key limit next hsame _ ih =>
      obtain ⟨answer, rest, rfl, hrest⟩ := Position.heard_get hw
      obtain ⟨answer', rest', rfl, hrest'⟩ := Position.heard_get hw'
      have hanswer : Answer.UpToReason answer answer' :=
        hagree.reads key _ _ (by simp) (by simp)
      rw [← hsame _ _ hanswer] at hrest'
      exact ih _ hrest hrest' (hagree.mono (by simp) (by simp))
  | @putBoth first second next hsame _ ih =>
      obtain ⟨answer, heard, rest, rfl, hheard, hrest⟩ := Position.heard_putBoth hw
      obtain ⟨answer', heard', rest', rfl, hheard', hrest'⟩ := Position.heard_putBoth hw'
      have hanswer : Answer.UpToCause answer answer' :=
        hheard.upToCause hheard' (hagree.mono (by simp) (by simp))
      rw [← hsame _ _ hanswer] at hrest'
      exact ih _ hrest hrest' (hagree.mono (by simp) (by simp))
  | @delete key next hsame _ ih =>
      obtain ⟨answer, rest, rfl, hrest⟩ := Position.heard_delete hw
      obtain ⟨answer', rest', rfl, hrest'⟩ := Position.heard_delete hw'
      rw [hsame answer' answer] at hrest'
      exact ih _ hrest hrest' (hagree.mono (by simp) (by simp))
  | @presign key contentType lifetime next hsame _ ih =>
      obtain ⟨answer, rest, rfl, hrest⟩ := Position.heard_presign hw
      obtain ⟨answer', rest', rfl, hrest'⟩ := Position.heard_presign hw'
      have hanswer : Answer.UpToCause answer answer' :=
        hagree.presigns key _ _ (by simp) (by simp)
      rw [← hsame _ _ hanswer] at hrest'
      exact ih _ hrest hrest' (hagree.mono (by simp) (by simp))

end Program

structure Mirrors {σ σ' : Type} [ObjectStore σ] [ObjectStore σ'] (InStep : σ → σ' → Prop) :
    Prop where
  get : ∀ key limit m m', InStep m m' →
    Answer.UpToReason (ObjectStore.get key limit m).1 (ObjectStore.get key limit m').1 ∧
      InStep (ObjectStore.get key limit m).2 (ObjectStore.get key limit m').2
  putBoth : ∀ first second m m', InStep m m' →
    Answer.UpToCause (ObjectStore.putBoth first second m).1
        (ObjectStore.putBoth first second m').1 ∧
      InStep (ObjectStore.putBoth first second m).2 (ObjectStore.putBoth first second m').2
  delete : ∀ key m m', InStep m m' →
    InStep (ObjectStore.delete key m).2 (ObjectStore.delete key m').2
  presign : ∀ key contentType lifetime m m', InStep m m' →
    Answer.UpToCause (ObjectStore.presign key contentType lifetime m).1
        (ObjectStore.presign key contentType lifetime m').1 ∧
      InStep (ObjectStore.presign key contentType lifetime m).2
        (ObjectStore.presign key contentType lifetime m').2
  elapsed : ∀ m m', InStep m m' → ObjectStore.elapsed m = ObjectStore.elapsed m'

structure Quiet (σ : Type) where
  store : σ

namespace Quiet

def hush {α : Type} : Answer α → Answer α
  | .ok a => .ok a
  | .error (.tooLarge _ _) => .error (.tooLarge "" 0)
  | .error _ => .error (.transport "")

variable {σ : Type} [ObjectStore σ]

def muffle {α : Type} (call : StateM σ (Answer α)) : StateM (Quiet σ) (Answer α) :=
  fun quiet => (hush (call quiet.store).1, ⟨(call quiet.store).2⟩)

instance : ObjectStore (Quiet σ) where
  get key limit := muffle (ObjectStore.get key limit)
  put w := muffle (ObjectStore.put w)
  delete key := muffle (ObjectStore.delete key)
  presign key contentType lifetime := muffle (ObjectStore.presign key contentType lifetime)
  putBoth first second := muffle (ObjectStore.putBoth first second)
  elapsed quiet := ObjectStore.elapsed quiet.store

theorem upToReason_hush (a : Answer ByteArray) : Answer.UpToReason a (hush a) := by
  cases a with
  | ok raw => exact .ok raw
  | error e => cases e <;> exact .error rfl

theorem upToCause_hush {α : Type} (a : Answer α) : Answer.UpToCause a (hush a) := by
  cases a with
  | ok value => exact .ok value
  | error e => cases e <;> exact .error trivial

theorem mirrors : Mirrors fun (m : σ) (quiet : Quiet σ) => quiet.store = m where
  get := by
    rintro key limit _ ⟨m⟩ rfl
    exact ⟨upToReason_hush _, rfl⟩
  putBoth := by
    rintro first second _ ⟨m⟩ rfl
    exact ⟨upToCause_hush _, rfl⟩
  delete := by
    rintro key _ ⟨m⟩ rfl
    rfl
  presign := by
    rintro key contentType lifetime _ ⟨m⟩ rfl
    exact ⟨upToCause_hush _, rfl⟩
  elapsed := by
    rintro _ ⟨m⟩ rfl
    rfl

end Quiet

namespace Program

variable {α σ σ' : Type} [ObjectStore σ] [ObjectStore σ'] {InStep : σ → σ' → Prop}

theorem fst_unlessLate {deadline : Span} {p q : Program α} (hpq : p = q) {m : σ} {m' : σ'}
    (htime : ObjectStore.elapsed m = ObjectStore.elapsed m')
    (hrun : (p.runWithin deadline m).1 = (p.runWithin deadline m').1) :
    (unlessLate deadline (p.runWithin deadline) m).1 =
      (unlessLate deadline (q.runWithin deadline) m').1 := by
  subst hpq
  show ((if ObjectStore.elapsed m < deadline then p.runWithin deadline else pure none) m).1 =
    ((if ObjectStore.elapsed m' < deadline then p.runWithin deadline else pure none) m').1
  rw [htime]
  split
  · exact hrun
  · rfl

theorem Blind.fst_runWithin {p : Program α} (h : p.Blind) (hmirrors : Mirrors InStep)
    (deadline : Span) {m : σ} {m' : σ'} (hm : InStep m m') :
    (p.runWithin deadline m).1 = (p.runWithin deadline m').1 := by
  induction h generalizing m m' with
  | done result => rfl
  | @get key limit next hsame _ ih =>
      obtain ⟨hanswer, hstep⟩ := hmirrors.get key limit m m' hm
      exact fst_unlessLate (hsame _ _ hanswer) (hmirrors.elapsed _ _ hstep) (ih _ hstep)
  | @putBoth first second next hsame _ ih =>
      obtain ⟨hanswer, hstep⟩ := hmirrors.putBoth first second m m' hm
      exact fst_unlessLate (hsame _ _ hanswer) (hmirrors.elapsed _ _ hstep) (ih _ hstep)
  | @delete key next hsame _ ih =>
      have hstep := hmirrors.delete key m m' hm
      exact fst_unlessLate (hsame _ _) (hmirrors.elapsed _ _ hstep) (ih _ hstep)
  | @presign key contentType lifetime next hsame _ ih =>
      obtain ⟨hanswer, hstep⟩ := hmirrors.presign key contentType lifetime m m' hm
      exact fst_unlessLate (hsame _ _ hanswer) (hmirrors.elapsed _ _ hstep) (ih _ hstep)

end Program

end ImageIntake
