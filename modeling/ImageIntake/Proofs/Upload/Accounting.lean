import ImageIntake.Proofs.Upload.Exchange

namespace ImageIntake

def Write.Held (w : Write) (progress : Progress) (m : Memory) : Prop :=
  m.objects.find? w.key = if progress = .done then some w.object else none

def Job.Unused (j : Job) (m : Memory) : Prop :=
  m.objects.find? j.keys.full = none ∧ m.objects.find? j.keys.thumbnail = none

def Phase.Leaves (j : Job) (m : Memory) : Phase → Prop
  | .reading _ => j.Unused m
  | .writing _ pair one two => (j.fullWrite pair).Held one m ∧ (j.thumbnailWrite pair).Held two m
  | .clearing _ pair _ => (j.fullWrite pair).Held .done m ∧ (j.thumbnailWrite pair).Held .done m
  | .published _ pair => (j.fullWrite pair).Held .done m ∧ (j.thumbnailWrite pair).Held .done m
  | .refused (.storage _) => ∃ pair one two, ¬(one = .done ∧ two = .done) ∧
      (j.fullWrite pair).Held one m ∧ (j.thumbnailWrite pair).Held two m
  | .refused _ => j.Unused m

namespace Write

variable {w : Write} {progress : Progress} {m m' : Memory}

theorem Held.of_find?_eq (h : w.Held progress m)
    (hf : m'.objects.find? w.key = m.objects.find? w.key) : w.Held progress m' :=
  hf.trans h

theorem Held.isSome_iff (h : w.Held progress m) :
    (m.objects.find? w.key).isSome ↔ progress = .done := by
  rw [h]
  split <;> simp [*]

theorem Held.eq_object (h : w.Held progress m) {object : StoredObject}
    (hf : m.objects.find? w.key = some object) : object = w.object := by
  rw [h] at hf
  split at hf
  · exact (Option.some.inj hf).symm
  · cases hf

theorem held_of_none (hp : progress ≠ .done) (h : m.objects.find? w.key = none) :
    w.Held progress m := by
  rw [Held, if_neg hp, h]

theorem held_of_putObject (h : (m.putObject w).1 = .ok ()) : w.Held .done (m.putObject w).2 := by
  rw [Held, if_pos rfl, Memory.find?_putObject_ok h]

theorem putObject_of_error {cause : StoreError} (h : (m.putObject w).1 = .error cause) :
    (m.putObject w).2 = m := by
  cases hr : m.refusesPut w.key with
  | true => rw [Memory.putObject_of_refused hr]
  | false => rw [Memory.putObject_of_taken hr] at h; cases h

end Write

namespace Phase

variable {p : Publisher} {j : Job} {m m' : Memory}

theorem Leaves.ofRead (h : j.Unused m) (answer : Answer ByteArray) :
    Leaves j m (Phase.ofRead p answer) := by
  rcases answer with cause | raw
  · cases cause <;> exact h
  · rw [Phase.ofRead]
    split
    · exact h
    · split
      · exact h
      · cases p.render raw with
        | none => exact h
        | some pair => exact ⟨Write.held_of_none (by simp) h.1, Write.held_of_none (by simp) h.2⟩

theorem Leaves.ofWrite {raw : ByteArray} {pair : RenditionPair} {one two : Progress}
    (hfull : (j.fullWrite pair).Held one m) (hthumbnail : (j.thumbnailWrite pair).Held two m) :
    Leaves j m (Phase.ofWrite raw pair one two) := by
  rw [Phase.ofWrite]
  split
  · next hd =>
    obtain ⟨rfl, rfl⟩ := hd
    exact ⟨hfull, hthumbnail⟩
  · exact ⟨hfull, hthumbnail⟩

theorem Leaves.exchange {phase phase' : Phase} {call : Call} (hraw : isRawKey j.rawKey = true)
    (h : Leaves j m phase) (hx : Exchange p j (phase, m) call (phase', m')) :
    Leaves j m' phase' := by
  cases hx with
  | read =>
      refine Leaves.ofRead ?_ _
      rw [Job.Unused, m.objects_getObject]
      exact h
  | @full raw pair two =>
      obtain ⟨hfull, hthumbnail⟩ := h
      cases hput : (m.putObject (j.fullWrite pair)).1 with
      | error cause =>
          rw [Write.putObject_of_error hput]
          exact ⟨pair, .unasked, two, by simp, hfull, hthumbnail⟩
      | ok =>
          refine Leaves.ofWrite (Write.held_of_putObject hput) (hthumbnail.of_find?_eq ?_)
          exact m.find?_putObject_of_ne (PublishedKeys.full_ne_thumbnail _ _ _ _).symm
  | @thumbnail raw pair one =>
      obtain ⟨hfull, hthumbnail⟩ := h
      cases hput : (m.putObject (j.thumbnailWrite pair)).1 with
      | error cause =>
          rw [Write.putObject_of_error hput]
          exact ⟨pair, one, .unasked, by simp, hfull, hthumbnail⟩
      | ok =>
          refine Leaves.ofWrite (hfull.of_find?_eq ?_) (Write.held_of_putObject hput)
          exact m.find?_putObject_of_ne (PublishedKeys.full_ne_thumbnail _ _ _ _)
  | delete =>
      obtain ⟨hfull, hthumbnail⟩ := h
      constructor
      · exact hfull.of_find?_eq <| m.find?_deleteObject_of_ne <|
          PublishedKeys.ne_rawKey j.keys.has_full hraw
      · exact hthumbnail.of_find?_eq <| m.find?_deleteObject_of_ne <|
          PublishedKeys.ne_rawKey j.keys.has_thumbnail hraw

end Phase

structure Settled (j : Job) (m m' : Memory) (result : Except UploadError Publication) : Prop where
  elsewhere : ∀ key, ¬j.keys.Has key → isRawKey key = false →
    m'.objects.find? key = m.objects.find? key
  raw : ∀ key, isRawKey key = true → (m'.objects.find? key).isSome → (m.objects.find? key).isSome
  options : ∀ key object, j.keys.Has key → m'.objects.find? key = some object →
    object.options = Publisher.options
  ok : ∀ publication, result = .ok publication →
    (m'.objects.find? j.keys.full).isSome ∧ (m'.objects.find? j.keys.thumbnail).isSome
  storage : ∀ cause, result = .error (.storage cause) →
    ¬((m'.objects.find? j.keys.full).isSome ∧ (m'.objects.find? j.keys.thumbnail).isSome)
  refused : ∀ e, result = .error e → (∀ cause, e ≠ .storage cause) → j.Unused m'

namespace Phase

variable {p : Publisher} {j : Job} {m m' : Memory}

structure Account (j : Job) (m : Memory) (s : Phase × Memory) : Prop where
  leaves : Leaves j s.2 s.1
  elsewhere : ∀ key, ¬j.keys.Has key → isRawKey key = false →
    s.2.objects.find? key = m.objects.find? key
  raw : ∀ key, isRawKey key = true → (s.2.objects.find? key).isSome →
    (m.objects.find? key).isSome

theorem Account.exchange {s t : Phase × Memory} {call : Call} (hraw : isRawKey j.rawKey = true)
    (h : Account j m s) (hx : Exchange p j s call t) : Account j m t where
  leaves := h.leaves.exchange hraw hx
  elsewhere key hk hr := by
    have hne : key ≠ j.rawKey := (ne_of_isRawKey hraw hr).symm
    exact (hx.find?_of_ne hk hne).trans (h.elsewhere key hk hr)
  raw key hk hs := h.raw key hk (hx.isSome_of_raw hk hs)

theorem Account.walk {phase : Phase} {calls : List Call} (hunused : j.Unused m)
    (h : Walk (Exchange p j) (start j, m) calls (phase, m')) : Account j m (phase, m') := by
  have hfirst (phase : Phase) (hl : Leaves j m phase) : Account j m (phase, m) :=
    ⟨hl, fun _ _ _ => rfl, fun _ _ hs => hs⟩
  -- without a raw key there is no exchange at all
  cases hraw : isRawKey j.rawKey with
  | true =>
      rw [start, if_pos hraw] at h
      exact h.keeps (I := Account j m) (fun _ _ _ hs hx => hs.exchange hraw hx)
        (hfirst (.reading false) hunused)
  | false =>
      rw [start, if_neg (by simp [hraw])] at h
      have hend : (phase, m') = (.refused .notFound, m) :=
        h.keeps (I := fun s => s = (.refused .notFound, m)) (by rintro _ _ _ rfl hx; cases hx) rfl
      rw [hend]
      exact hfirst (.refused .notFound) hunused

theorem Leaves.options {phase : Phase} (h : Leaves j m phase) {key : String}
    {object : StoredObject} (hk : j.keys.Has key) (hf : m.objects.find? key = some object) :
    object.options = Publisher.options := by
  have hheld {pair : RenditionPair} {one two : Progress} (hfull : (j.fullWrite pair).Held one m)
      (hthumbnail : (j.thumbnailWrite pair).Held two m) : object.options = Publisher.options := by
    rcases hk with rfl | rfl
    · rw [hfull.eq_object hf]; rfl
    · rw [hthumbnail.eq_object hf]; rfl
  have hunused (h : j.Unused m) : object.options = Publisher.options := by
    rcases hk with rfl | rfl
    · rw [h.1] at hf; cases hf
    · rw [h.2] at hf; cases hf
  cases phase with
  | reading => exact hunused h
  | writing | clearing | published => exact hheld h.1 h.2
  | refused e =>
      cases e with
      | storage cause =>
          obtain ⟨pair, one, two, -, hfull, hthumbnail⟩ := h
          exact hheld hfull hthumbnail
      | unauthorized | unsupportedType | declaredTooLarge | notFound | invalid => exact hunused h

theorem Account.settled {phase : Phase} (h : Account j m (phase, m'))
    {result : Except UploadError Publication} (hr : phase.position p j = .done result) :
    Settled j m m' result where
  elsewhere := h.elsewhere
  raw := h.raw
  options _ _ hk hf := h.leaves.options hk hf
  ok publication hok := by
    subst hok
    cases phase with
    | published raw pair =>
        obtain ⟨hfull, hthumbnail⟩ := h.leaves
        exact ⟨hfull.isSome_iff.mpr rfl, hthumbnail.isSome_iff.mpr rfl⟩
    | reading | writing | clearing | refused => cases hr
  storage cause he := by
    subst he
    cases phase with
    | refused e =>
        cases hr
        obtain ⟨pair, one, two, hnot, hfull, hthumbnail⟩ := h.leaves
        rintro ⟨hf, ht⟩
        exact hnot ⟨hfull.isSome_iff.mp hf, hthumbnail.isSome_iff.mp ht⟩
    | reading | writing | clearing | published => cases hr
  refused e he hs := by
    subst he
    cases phase with
    | refused e =>
        cases hr
        cases e with
        | storage cause => exact absurd rfl (hs cause)
        | unauthorized | unsupportedType | declaredTooLarge | notFound | invalid => exact h.leaves
    | reading | writing | clearing | published => cases hr

end Phase

theorem settled_of_exchanges {p : Publisher} {j : Job} {m m' : Memory} {calls : List Call}
    {result : Except UploadError Publication} (hunused : j.Unused m)
    (h : Walk Position.Exchange (.start (p.run j), m) calls (.done result, m')) :
    Settled j m m' result := by
  rw [← Phase.position_start] at h
  obtain ⟨phase, hw, hpos⟩ := Phase.exchanges_of_exchanges p j h
  exact (Phase.Account.walk hunused hw).settled hpos.symm

end ImageIntake
