import ImageIntake.Proofs.Store.Conversation
import ImageIntake.Store.Memory

namespace ImageIntake

namespace Memory

theorem objects_getObject (m : Memory) (key : String) (limit : Nat) :
    (m.getObject key limit).2.objects = m.objects := by
  rw [getObject]
  split
  · rfl
  · split <;> rfl

theorem getObject_of_none {m : Memory} {key : String} (h : m.objects.find? key = none)
    (limit : Nat) : m.getObject key limit = (.error (.notFound key), m) := by
  simp only [getObject, h]

theorem fst_getObject_of_some {m : Memory} {key : String} {object : StoredObject}
    (h : m.objects.find? key = some object) (limit : Nat) :
    (m.getObject key limit).1 =
      if limit < object.body.size then .error (.tooLarge key limit) else .ok object.body := by
  simp only [getObject, h]
  split <;> rfl

theorem getObject_eq_ok {m : Memory} {key : String} {limit : Nat} {raw : ByteArray}
    (h : (m.getObject key limit).1 = .ok raw) :
    ∃ object, m.objects.find? key = some object ∧ object.body = raw := by
  rw [getObject] at h
  split at h
  · exact absurd h (by simp)
  · next object hfind =>
    split at h
    · exact absurd h (by simp)
    · exact ⟨object, hfind, Except.ok.inj h⟩

theorem find?_upload (m : Memory) (key other : String) (body : ByteArray) (contentType : String) :
    (m.upload key body contentType).objects.find? other =
      if key = other then some ⟨body, ⟨contentType, none⟩⟩ else m.objects.find? other :=
  m.objects.find?_insert key other _

theorem putObject_of_refused {m : Memory} {w : Write} (h : m.refusesPut w.key = true) :
    m.putObject w = (.error (.serverFault ("injected put failure: " ++ w.key)), m) :=
  if_pos h

theorem putObject_of_taken {m : Memory} {w : Write} (h : m.refusesPut w.key = false) :
    m.putObject w = (.ok (), { m with objects := m.objects.insert w.key w.object }) :=
  if_neg (by simp [h])

theorem find?_putObject_ok {m : Memory} {w : Write} (h : (m.putObject w).1 = .ok ()) :
    (m.putObject w).2.objects.find? w.key = some w.object := by
  cases hr : m.refusesPut w.key with
  | true => rw [putObject_of_refused hr] at h; exact absurd h (by simp)
  | false => rw [putObject_of_taken hr, m.objects.find?_insert, if_pos rfl]

theorem find?_putObject_of_ne (m : Memory) {w : Write} {key : String} (h : key ≠ w.key) :
    (m.putObject w).2.objects.find? key = m.objects.find? key := by
  cases hr : m.refusesPut w.key with
  | true => rw [putObject_of_refused hr]
  | false => rw [putObject_of_taken hr, m.objects.find?_insert, if_neg (Ne.symm h)]

theorem isSome_find?_putObject (m : Memory) (w : Write) {key : String}
    (h : (m.objects.find? key).isSome) : ((m.putObject w).2.objects.find? key).isSome := by
  cases hr : m.refusesPut w.key with
  | true => rwa [putObject_of_refused hr]
  | false =>
      rw [putObject_of_taken hr, m.objects.find?_insert]
      split
      · rfl
      · exact h

theorem deleteObject_of_obeyed {m : Memory} (h : m.deletesFail = false) (key : String) :
    m.deleteObject key = (.ok (), { m with objects := m.objects.erase key }) :=
  if_neg (by simp [h])

theorem find?_deleteObject_self {m : Memory} (h : m.deletesFail = false) (key : String) :
    (m.deleteObject key).2.objects.find? key = none := by
  rw [deleteObject_of_obeyed h, m.objects.find?_erase, if_pos rfl]

theorem find?_deleteObject_of_ne (m : Memory) {key other : String} (h : other ≠ key) :
    (m.deleteObject key).2.objects.find? other = m.objects.find? other := by
  rw [deleteObject]
  split
  · rfl
  · rw [m.objects.find?_erase, if_neg (Ne.symm h)]

theorem find?_deleteObject (m : Memory) (key : String) :
    (m.deleteObject key).2.objects.find? key =
      if m.deletesFail then m.objects.find? key else none := by
  cases h : m.deletesFail with
  | false => exact find?_deleteObject_self h key
  | true => rw [deleteObject, if_pos h, if_pos rfl]

theorem find?_of_find?_deleteObject {m : Memory} {key other : String} {object : StoredObject}
    (h : (m.deleteObject key).2.objects.find? other = some object) :
    m.objects.find? other = some object := by
  rw [deleteObject] at h
  split at h
  · exact h
  · rw [m.objects.find?_erase] at h
    split at h
    · cases h
    · exact h

@[simp] theorem failingSuffix_getObject (m : Memory) (key : String) (limit : Nat) :
    (m.getObject key limit).2.failingSuffix = m.failingSuffix := by
  rw [getObject]
  split
  · rfl
  · split <;> rfl

@[simp] theorem deletesFail_getObject (m : Memory) (key : String) (limit : Nat) :
    (m.getObject key limit).2.deletesFail = m.deletesFail := by
  rw [getObject]
  split
  · rfl
  · split <;> rfl

@[simp] theorem failingSuffix_putObject (m : Memory) (w : Write) :
    (m.putObject w).2.failingSuffix = m.failingSuffix := by
  rw [putObject]
  split <;> rfl

@[simp] theorem deletesFail_putObject (m : Memory) (w : Write) :
    (m.putObject w).2.deletesFail = m.deletesFail := by
  rw [putObject]
  split <;> rfl

@[simp] theorem failingSuffix_deleteObject (m : Memory) (key : String) :
    (m.deleteObject key).2.failingSuffix = m.failingSuffix := by
  rw [deleteObject]
  split <;> rfl

@[simp] theorem deletesFail_deleteObject (m : Memory) (key : String) :
    (m.deleteObject key).2.deletesFail = m.deletesFail := by
  rw [deleteObject]
  split <;> rfl

theorem refusesPut_of_none {m : Memory} (h : m.failingSuffix = none) (key : String) :
    m.refusesPut key = false := by
  rw [refusesPut, h]

theorem putBoth_of_refused {m : Memory} {first : Write} (h : m.refusesPut first.key = true)
    (second : Write) : ObjectStore.putBoth first second m = m.putObject first := by
  simp only [ObjectStore.putBoth, bind, StateT.bind, putObject_of_refused h]
  rfl

theorem putBoth_of_taken {m : Memory} {first : Write} (h : m.refusesPut first.key = false)
    (second : Write) :
    ObjectStore.putBoth first second m = (m.putObject first).2.putObject second := by
  simp only [ObjectStore.putBoth, bind, StateT.bind, putObject_of_taken h]

def answer (m : Memory) : Call → Event × Memory
  | .get key limit => (.reads key (m.getObject key limit).1, (m.getObject key limit).2)
  | .put w => (.writes w (m.putObject w).1, (m.putObject w).2)
  | .delete key => (.deletes key (m.deleteObject key).1, (m.deleteObject key).2)
  | .presign key contentType lifetime =>
      (.presigns key (presignUpload key contentType lifetime), m)

end Memory

namespace Position

variable {α : Type}

inductive Exchange : Position α × Memory → Call → Position α × Memory → Prop where
  | intro {pos mid pos' : Position α} {m : Memory} {call : Call} :
      Step pos (.asks call) mid → Step mid (m.answer call).1 pos' →
      Exchange (pos, m) call (pos', (m.answer call).2)

theorem exchange_get (key : String) (limit : Nat) (next : Answer ByteArray → Program α)
    (m : Memory) :
    Exchange (start (.get key limit next), m) (.get key limit)
      (start (next (m.getObject key limit).1), (m.getObject key limit).2) :=
  .intro .askGet (.hearGet _)

theorem exchange_delete (key : String) (next : Answer Unit → Program α) (m : Memory) :
    Exchange (start (.delete key next), m) (.delete key)
      (start (next (m.deleteObject key).1), (m.deleteObject key).2) :=
  .intro .askDelete (.hearDelete _)

theorem exchange_presign (key contentType : String) (lifetime : Span)
    (next : Answer String → Program α) (m : Memory) :
    Exchange (start (.presign key contentType lifetime next), m)
      (.presign key contentType lifetime)
      (start (next (Memory.presignUpload key contentType lifetime)), m) :=
  .intro .askPresign (.hearPresign _)

theorem exchange_first (first second : Write) (next : Answer Unit → Program α) {m : Memory}
    (h : m.refusesPut first.key = false) :
    Exchange (start (.putBoth first second next), m) (.put first)
      (.putBoth first second .done .unasked next, (m.putObject first).2) := by
  refine .intro .askFirst ?_
  simp only [Memory.answer, Memory.putObject_of_taken h]
  exact .firstDone

theorem exchange_first_refused (first second : Write) (next : Answer Unit → Program α)
    {m : Memory} (h : m.refusesPut first.key = true) :
    Exchange (start (.putBoth first second next), m) (.put first)
      (start (next (m.putObject first).1), (m.putObject first).2) := by
  refine .intro .askFirst ?_
  simp only [Memory.answer, Memory.putObject_of_refused h]
  exact .firstRefused _

theorem exchange_second (first second : Write) (next : Answer Unit → Program α) (m : Memory) :
    Exchange (.putBoth first second .done .unasked next, m) (.put second)
      (start (next (m.putObject second).1), (m.putObject second).2) := by
  refine .intro .askSecond ?_
  cases h : m.refusesPut second.key with
  | true =>
      simp only [Memory.answer, Memory.putObject_of_refused h]
      exact .secondRefused _
  | false =>
      simp only [Memory.answer, Memory.putObject_of_taken h]
      exact .secondDone

theorem exchanges_putBoth (first second : Write) (next : Answer Unit → Program α) (m : Memory) :
    ∃ calls, Walk Exchange (start (.putBoth first second next), m) calls
      (start (next (ObjectStore.putBoth first second m).1),
        (ObjectStore.putBoth first second m).2) := by
  cases h : m.refusesPut first.key with
  | true =>
      rw [Memory.putBoth_of_refused h]
      exact ⟨_, .single (exchange_first_refused first second next h)⟩
  | false =>
      rw [Memory.putBoth_of_taken h]
      exact ⟨_, .cons (exchange_first first second next h)
        (.single (exchange_second first second next _))⟩

theorem exchanges_run (p : Program α) (m : Memory) :
    ∃ calls, Walk Exchange (start p, m) calls (.done (p.run m).1, (p.run m).2) := by
  induction p generalizing m with
  | done result => exact ⟨[], .refl _⟩
  | get key limit next ih =>
      obtain ⟨calls, h⟩ := ih (m.getObject key limit).1 (m.getObject key limit).2
      exact ⟨_, .cons (exchange_get key limit next m) h⟩
  | putBoth first second next ih =>
      obtain ⟨calls, h⟩ := ih (ObjectStore.putBoth first second m).1
        (ObjectStore.putBoth first second m).2
      obtain ⟨puts, hp⟩ := exchanges_putBoth first second next m
      exact ⟨_, hp.append h⟩
  | delete key next ih =>
      obtain ⟨calls, h⟩ := ih (m.deleteObject key).1 (m.deleteObject key).2
      exact ⟨_, .cons (exchange_delete key next m) h⟩
  | presign key contentType lifetime next ih =>
      obtain ⟨calls, h⟩ := ih (Memory.presignUpload key contentType lifetime) m
      exact ⟨_, .cons (exchange_presign key contentType lifetime next m) h⟩

theorem run_of_runWithin {σ : Type} [ObjectStore σ] {deadline : Span} {p : Program α} {m m' : σ}
    {result : α} (h : p.runWithin deadline m = (some result, m')) : p.run m = (result, m') := by
  have hlate {next : StateM σ (Option α)} {m : σ}
      (h : Program.unlessLate deadline next m = (some result, m')) :
      next m = (some result, m') := by
    have hite : (if ObjectStore.elapsed m < deadline then next else pure none) m =
        (some result, m') := h
    split at hite
    · exact hite
    · cases hite
  induction p generalizing m with
  | done a =>
      cases h
      rfl
  | get key limit next ih | putBoth first second next ih | delete key next ih
  | presign key contentType lifetime next ih =>
      exact ih _ (hlate h)

theorem exchanges_done {a : α} {m : Memory} {calls : List Call} {t : Position α × Memory}
    (h : Walk Exchange (.done a, m) calls t) : t = (.done a, m) :=
  h.keeps (I := fun s => s = (.done a, m)) (by rintro _ _ _ rfl ⟨hask, _⟩; cases hask) rfl

inductive Idle : Position α → Prop where
  | done {result} : Idle (.done result)
  | presign {key contentType lifetime next asked} :
      (∀ answer, ∃ result, next answer = .done result) →
      Idle (.presign key contentType lifetime next asked)

theorem Idle.map {β : Type} (g : α → β) {pos : Position α} (h : Idle pos) : Idle (pos.map g) := by
  cases h with
  | done => exact .done
  | presign hnext =>
      refine .presign fun answer => ?_
      obtain ⟨result, hr⟩ := hnext answer
      exact ⟨g result, congrArg (Program.map g) hr⟩

theorem Idle.start_map {β : Type} (g : α → β) {p : Program α} (h : Idle (start p)) :
    Idle (start (p.map g)) := by
  rw [Position.start_map]
  exact h.map g

theorem Idle.exchange {pos pos' : Position α} {m m' : Memory} {call : Call} (h : Idle pos)
    (hx : Exchange (pos, m) call (pos', m')) : Idle pos' ∧ m' = m := by
  cases hx with
  | intro hask hhear =>
      cases h with
      | done => cases hask
      | @presign key contentType lifetime _ _ hnext =>
          cases hask with
          | askPresign =>
              cases hhear with
              | hearPresign =>
                  obtain ⟨result, hr⟩ := hnext (Memory.presignUpload key contentType lifetime)
                  rw [hr]
                  exact ⟨.done, rfl⟩

theorem Idle.walk {pos pos' : Position α} {m m' : Memory} {calls : List Call} (h : Idle pos)
    (hw : Walk Exchange (pos, m) calls (pos', m')) : m' = m := by
  have hkeeps : Idle pos' ∧ m' = m :=
    hw.keeps (I := fun s : Position α × Memory => Idle s.1 ∧ s.2 = m)
      (fun _ _ _ hs hx => ⟨(hs.1.exchange hx).1, (hs.1.exchange hx).2.trans hs.2⟩) ⟨h, rfl⟩
  exact hkeeps.2

variable {β : Type} (g : α → β)

theorem exchange_of_exchange_map {pos : Position α} {pos' : Position β} {m m' : Memory}
    {call : Call} (h : Exchange (pos.map g, m) call (pos', m')) :
    ∃ mid, Exchange (pos, m) call (mid, m') ∧ pos' = mid.map g := by
  cases h with
  | intro hask hhear =>
      obtain ⟨mid, hmid, rfl⟩ := step_of_step_map g hask
      obtain ⟨last, hlast, rfl⟩ := step_of_step_map g hhear
      exact ⟨last, .intro hmid hlast, rfl⟩

theorem exchanges_of_exchanges_map {pos : Position α} {m : Memory} {t : Position β × Memory}
    {calls : List Call} (h : Walk Exchange (pos.map g, m) calls t) :
    ∃ mid, Walk Exchange (pos, m) calls (mid, t.2) ∧ t.1 = mid.map g := by
  generalize hs : (pos.map g, m) = s at h
  induction h with
  | refl =>
      subst hs
      exact ⟨pos, .refl _, rfl⟩
  | @snoc u t _ _ _ hx ih =>
      obtain ⟨mid, hw, hmid⟩ := ih
      obtain ⟨here, m⟩ := u
      obtain rfl := hmid
      obtain ⟨last, hlast, heq⟩ := exchange_of_exchange_map g hx
      exact ⟨last, hw.snoc hlast, heq⟩

theorem exchanges_of_map {p : Program α} {m m' : Memory} {calls : List Call} {b : β}
    (h : Walk Exchange (start (p.map g), m) calls (.done b, m')) :
    ∃ a, b = g a ∧ Walk Exchange (start p, m) calls (.done a, m') := by
  rw [start_map] at h
  obtain ⟨mid, hw, hmid⟩ := exchanges_of_exchanges_map g h
  obtain ⟨a, hb, rfl⟩ := eq_done_of_map g hmid
  exact ⟨a, hb, hw⟩

end Position

end ImageIntake
