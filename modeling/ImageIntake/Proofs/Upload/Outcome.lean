import ImageIntake.Proofs.Upload.Accounting

namespace ImageIntake

structure Publisher.Fetches (p : Publisher) (j : Job) (m : Memory) (raw : ByteArray)
    (pair : RenditionPair) : Prop where
  rawKey : isRawKey j.rawKey = true
  stored : ∃ upload, m.objects.find? j.rawKey = some upload ∧ upload.body = raw
  renders : p.Renders raw pair

namespace Job

variable (j : Job) (pair : RenditionPair) (objects : Shelf StoredObject)

def writtenSoFar (one two : Progress) : Shelf StoredObject :=
  if one = .done then objects.insert j.keys.full (j.fullWrite pair).object
  else if two = .done then objects.insert j.keys.thumbnail (j.thumbnailWrite pair).object
  else objects

def AddsAtMostOne (objects' : Shelf StoredObject) : Prop :=
  objects' = objects ∨ ∃ key object, j.keys.Has key ∧ objects' = objects.insert key object

theorem addsAtMostOne_writtenSoFar (one two : Progress) :
    j.AddsAtMostOne objects (j.writtenSoFar pair objects one two) := by
  rw [writtenSoFar]
  split
  · exact .inr ⟨_, _, j.keys.has_full, rfl⟩
  · split
    · exact .inr ⟨_, _, j.keys.has_thumbnail, rfl⟩
    · exact .inl rfl

theorem AddsAtMostOne.find?_rawKey {j : Job} {objects objects' : Shelf StoredObject}
    (h : j.AddsAtMostOne objects objects') (hraw : isRawKey j.rawKey = true) :
    objects'.find? j.rawKey = objects.find? j.rawKey := by
  rcases h with rfl | ⟨key, object, hkey, rfl⟩
  · rfl
  · rw [objects.find?_insert, if_neg (PublishedKeys.ne_rawKey hkey hraw)]

theorem held_full {m : Memory} {two : Progress}
    (h : m.objects = j.writtenSoFar pair objects .done two) :
    (j.fullWrite pair).Held .done m := by
  rw [Write.Held, h, writtenSoFar, if_pos rfl, if_pos rfl]
  exact (objects.find?_insert _ _ _).trans (if_pos rfl)

theorem held_thumbnail {m : Memory} {one : Progress} (hone : one ≠ .done)
    (h : m.objects = j.writtenSoFar pair objects one .done) :
    (j.thumbnailWrite pair).Held .done m := by
  rw [Write.Held, h, writtenSoFar, if_neg hone, if_pos rfl, if_pos rfl]
  exact (objects.find?_insert _ _ _).trans (if_pos rfl)

end Job

namespace Phase

variable {p : Publisher} {j : Job} {m₀ m m' : Memory}

def Record (p : Publisher) (j : Job) (m₀ m : Memory) : Phase → Prop
  | .reading _ => isRawKey j.rawKey = true ∧ m.objects = m₀.objects
  | .writing raw pair one two =>
      p.Fetches j m₀ raw pair ∧ m.objects = j.writtenSoFar pair m₀.objects one two
  | .clearing raw pair _ => p.Fetches j m₀ raw pair ∧
      (j.fullWrite pair).Held .done m ∧ (j.thumbnailWrite pair).Held .done m
  | .published raw pair => p.Fetches j m₀ raw pair ∧
      (j.fullWrite pair).Held .done m ∧ (j.thumbnailWrite pair).Held .done m
  | .refused (.storage _) =>
      (∃ raw pair, p.Fetches j m₀ raw pair) ∧ j.AddsAtMostOne m₀.objects m.objects
  | .refused _ => m.objects = m₀.objects

theorem Record.ofRead {answer : Answer ByteArray} (hraw : isRawKey j.rawKey = true)
    (hm : m.objects = m₀.objects)
    (hanswer : ∀ raw, answer = .ok raw →
      ∃ upload, m₀.objects.find? j.rawKey = some upload ∧ upload.body = raw) :
    Record p j m₀ m (Phase.ofRead p answer) := by
  rcases answer with cause | raw
  · cases cause <;> exact hm
  · rw [Phase.ofRead]
    split
    · exact hm
    · next hs =>
      split
      · exact hm
      · next hl =>
        cases hrender : p.render raw with
        | none => exact hm
        | some pair =>
            have hrenders : p.Renders raw pair := ⟨hs, Nat.le_of_not_lt hl, hrender⟩
            exact ⟨⟨hraw, hanswer raw rfl, hrenders⟩, hm⟩

theorem Record.refused {raw : ByteArray} {pair : RenditionPair} {one two : Progress}
    (h : Record p j m₀ m (.writing raw pair one two)) (cause : StoreError) :
    Record p j m₀ m (.refused (.storage cause)) := by
  obtain ⟨hfetches, hm⟩ := h
  refine ⟨⟨raw, pair, hfetches⟩, ?_⟩
  rw [hm]
  exact j.addsAtMostOne_writtenSoFar ..

theorem Record.putFull {raw : ByteArray} {pair : RenditionPair} {two : Progress}
    (h : Record p j m₀ m (.writing raw pair .unasked two)) :
    Record p j m₀ (m.putObject (j.fullWrite pair)).2
      (afterFull raw pair two (m.putObject (j.fullWrite pair)).1) := by
  cases hr : m.refusesPut (j.fullWrite pair).key with
  | true =>
      rw [Memory.putObject_of_refused hr]
      exact h.refused _
  | false =>
      obtain ⟨hfetches, hm⟩ := h
      have hput : (m.putObject (j.fullWrite pair)).1 = .ok () := by
        rw [Memory.putObject_of_taken hr]
      rw [hput, afterFull, Phase.ofWrite]
      split
      · next hd =>
        -- the thumbnail was written first, and still stands
        obtain rfl := hd.2
        refine ⟨hfetches, Write.held_of_putObject hput, Write.Held.of_find?_eq ?_ <|
          m.find?_putObject_of_ne (PublishedKeys.full_ne_thumbnail _ _ _ _).symm⟩
        exact j.held_thumbnail pair m₀.objects (by decide) hm
      · next hd =>
        have htwo : two ≠ .done := fun heq => hd ⟨rfl, heq⟩
        refine ⟨hfetches, ?_⟩
        rw [Memory.putObject_of_taken hr, hm, Job.writtenSoFar, Job.writtenSoFar,
          if_neg (by decide), if_neg htwo, if_pos rfl]
        rfl

theorem Record.putThumbnail {raw : ByteArray} {pair : RenditionPair} {one : Progress}
    (h : Record p j m₀ m (.writing raw pair one .unasked)) :
    Record p j m₀ (m.putObject (j.thumbnailWrite pair)).2
      (afterThumbnail raw pair one (m.putObject (j.thumbnailWrite pair)).1) := by
  cases hr : m.refusesPut (j.thumbnailWrite pair).key with
  | true =>
      rw [Memory.putObject_of_refused hr]
      exact h.refused _
  | false =>
      obtain ⟨hfetches, hm⟩ := h
      have hput : (m.putObject (j.thumbnailWrite pair)).1 = .ok () := by
        rw [Memory.putObject_of_taken hr]
      rw [hput, afterThumbnail, Phase.ofWrite]
      split
      · next hd =>
        obtain rfl := hd.1
        refine ⟨hfetches, Write.Held.of_find?_eq ?_ <|
          m.find?_putObject_of_ne (PublishedKeys.full_ne_thumbnail _ _ _ _),
          Write.held_of_putObject hput⟩
        exact j.held_full pair m₀.objects hm
      · next hd =>
        have hone : one ≠ .done := fun heq => hd ⟨heq, rfl⟩
        refine ⟨hfetches, ?_⟩
        rw [Memory.putObject_of_taken hr, hm, Job.writtenSoFar, Job.writtenSoFar,
          if_neg hone, if_neg (by decide), if_neg hone, if_pos rfl]
        rfl

theorem Record.exchange {phase phase' : Phase} {call : Call} (h : Record p j m₀ m phase)
    (hx : Exchange p j (phase, m) call (phase', m')) : Record p j m₀ m' phase' := by
  cases hx with
  | read =>
      obtain ⟨hraw, hm⟩ := h
      refine Record.ofRead hraw ((m.objects_getObject _ _).trans hm) fun raw hanswer => ?_
      obtain ⟨upload, hfind, hbody⟩ := Memory.getObject_eq_ok hanswer
      exact ⟨upload, hm ▸ hfind, hbody⟩
  | full => exact h.putFull
  | thumbnail => exact h.putThumbnail
  | delete =>
      -- only the raw key is cleared, and neither image stands there
      obtain ⟨hfetches, hfull, hthumbnail⟩ := h
      refine ⟨hfetches, hfull.of_find?_eq ?_, hthumbnail.of_find?_eq ?_⟩
      · exact m.find?_deleteObject_of_ne (PublishedKeys.ne_rawKey j.keys.has_full hfetches.rawKey)
      · exact m.find?_deleteObject_of_ne
          (PublishedKeys.ne_rawKey j.keys.has_thumbnail hfetches.rawKey)

theorem record_start (p : Publisher) (j : Job) (m : Memory) : Record p j m m (start j) := by
  rw [start]
  split
  · next hraw => exact ⟨hraw, rfl⟩
  · rfl

end Phase

variable {p : Publisher} {j : Job} {m m' : Memory} {calls : List Call}

theorem record_of_exchanges {result : Except UploadError Publication}
    (h : Walk Position.Exchange (.start (p.run j), m) calls (.done result, m')) :
    ∃ phase : Phase, phase.Record p j m m' ∧ phase.position p j = .done result := by
  rw [← Phase.position_start] at h
  obtain ⟨phase, hw, hpos⟩ := Phase.exchanges_of_exchanges p j h
  refine ⟨phase, ?_, hpos.symm⟩
  exact hw.keeps (I := fun s => s.1.Record p j m s.2) (fun _ _ _ hs hx => hs.exchange hx)
    (Phase.record_start p j m)

theorem objects_of_refused {e : UploadError} (he : ∀ cause, e ≠ .storage cause)
    (h : Walk Position.Exchange (.start (p.run j), m) calls (.done (.error e), m')) :
    m'.objects = m.objects := by
  obtain ⟨phase, hrecord, hpos⟩ := record_of_exchanges h
  cases phase with
  | refused e' =>
      cases hpos
      cases e with
      | storage cause => exact absurd rfl (he cause)
      | unauthorized | unsupportedType | declaredTooLarge | notFound | invalid => exact hrecord
  | reading | writing | clearing | published => cases hpos

theorem fetches_of_storage {cause : StoreError}
    (h : Walk Position.Exchange (.start (p.run j), m) calls (.done (.error (.storage cause)), m')) :
    (∃ raw pair, p.Fetches j m raw pair) ∧ j.AddsAtMostOne m.objects m'.objects := by
  obtain ⟨phase, hrecord, hpos⟩ := record_of_exchanges h
  cases phase with
  | refused e =>
      cases hpos
      exact hrecord
  | reading | writing | clearing | published => cases hpos

theorem held_of_published {publication : Publication}
    (h : Walk Position.Exchange (.start (p.run j), m) calls (.done (.ok publication), m')) :
    ∃ raw pair, p.Fetches j m raw pair ∧
      publication = p.publication j.keys pair.full j.now ∧
      (j.fullWrite pair).Held .done m' ∧ (j.thumbnailWrite pair).Held .done m' := by
  obtain ⟨phase, hrecord, hpos⟩ := record_of_exchanges h
  cases phase with
  | published raw pair =>
      cases hpos
      obtain ⟨hfetches, hheld⟩ := hrecord
      exact ⟨raw, pair, hfetches, rfl, hheld⟩
  | refused => cases hpos
  | reading | writing | clearing => cases hpos

end ImageIntake
