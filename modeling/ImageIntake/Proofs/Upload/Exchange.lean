import ImageIntake.Proofs.Store.Exchange
import ImageIntake.Proofs.Upload.History

namespace ImageIntake

namespace Phase

variable (p : Publisher) (j : Job)

def afterFull (raw : ByteArray) (pair : RenditionPair) (two : Progress) (answer : Answer Unit) :
    Phase :=
  match answer with
  | .ok () => ofWrite raw pair .done two
  | .error cause => .refused (.storage cause)

def afterThumbnail (raw : ByteArray) (pair : RenditionPair) (one : Progress)
    (answer : Answer Unit) : Phase :=
  match answer with
  | .ok () => ofWrite raw pair one .done
  | .error cause => .refused (.storage cause)

inductive Exchange : Phase × Memory → Call → Phase × Memory → Prop where
  | read {m} :
      Exchange (.reading false, m) j.read
        (ofRead p (m.getObject j.rawKey Policy.maxUploadBytes).1,
          (m.getObject j.rawKey Policy.maxUploadBytes).2)
  | full {raw pair two m} :
      Exchange (.writing raw pair .unasked two, m) (.put (j.fullWrite pair))
        (afterFull raw pair two (m.putObject (j.fullWrite pair)).1,
          (m.putObject (j.fullWrite pair)).2)
  | thumbnail {raw pair one m} :
      Exchange (.writing raw pair one .unasked, m) (.put (j.thumbnailWrite pair))
        (afterThumbnail raw pair one (m.putObject (j.thumbnailWrite pair)).1,
          (m.putObject (j.thumbnailWrite pair)).2)
  | delete {raw pair m} :
      Exchange (.clearing raw pair false, m) (.delete j.rawKey)
        (.published raw pair, (m.deleteObject j.rawKey).2)

theorem hear_full {raw : ByteArray} {pair : RenditionPair} {two : Progress}
    {answer : Answer Unit} {phase : Phase}
    (h : Step p j (.writing raw pair .asked two) (.writes (j.fullWrite pair) answer) phase) :
    phase = afterFull raw pair two answer := by
  generalize hw : j.fullWrite pair = w at h
  cases h with
  | fullDone | fullRefused => rfl
  | thumbnailDone | thumbnailRefused =>
      exact absurd hw (PublishedKeys.full_ne_thumbnail j.post j.post j.token j.token <|
        congrArg Write.key ·)

theorem hear_thumbnail {raw : ByteArray} {pair : RenditionPair} {one : Progress}
    {answer : Answer Unit} {phase : Phase}
    (h : Step p j (.writing raw pair one .asked) (.writes (j.thumbnailWrite pair) answer) phase) :
    phase = afterThumbnail raw pair one answer := by
  generalize hw : j.thumbnailWrite pair = w at h
  cases h with
  | thumbnailDone | thumbnailRefused => rfl
  | fullDone | fullRefused =>
      exact absurd hw.symm (PublishedKeys.full_ne_thumbnail j.post j.post j.token j.token <|
        congrArg Write.key ·)

theorem exchange_of_exchange {phase : Phase} {m m' : Memory} {call : Call}
    {pos : Position (Except UploadError Publication)}
    (h : Position.Exchange (phase.position p j, m) call (pos, m')) :
    ∃ phase', Exchange p j (phase, m) call (phase', m') ∧ pos = phase'.position p j := by
  cases h with
  | intro hask hhear =>
      obtain ⟨mid, hmid, rfl⟩ := step_of_step p j hask
      obtain ⟨phase', hphase', rfl⟩ := step_of_step p j hhear
      cases hmid with
      | askRead =>
          cases hphase' with
          | hearRead => exact ⟨_, .read, rfl⟩
      | askFull =>
          obtain rfl := hear_full p j hphase'
          exact ⟨_, .full, rfl⟩
      | askThumbnail =>
          obtain rfl := hear_thumbnail p j hphase'
          exact ⟨_, .thumbnail, rfl⟩
      | askDelete =>
          cases hphase' with
          | hearDelete => exact ⟨_, .delete, rfl⟩

theorem exchanges_of_exchanges {phase : Phase} {m m' : Memory} {calls : List Call}
    {pos : Position (Except UploadError Publication)}
    (h : Walk Position.Exchange (phase.position p j, m) calls (pos, m')) :
    ∃ phase', Walk (Exchange p j) (phase, m) calls (phase', m') ∧ pos = phase'.position p j := by
  generalize hs : (phase.position p j, m) = s at h
  generalize ht : (pos, m') = t at h
  induction h generalizing pos m' with
  | refl =>
      obtain ⟨rfl, rfl⟩ := Prod.mk.inj (ht.trans hs.symm)
      exact ⟨phase, .refl _, rfl⟩
  | @snoc u t _ _ _ hx ih =>
      obtain ⟨mid, hw, hmid⟩ := ih rfl
      obtain ⟨here, m₁⟩ := u
      obtain rfl := hmid
      subst ht
      obtain ⟨phase', hx', heq⟩ := exchange_of_exchange p j hx
      exact ⟨phase', hw.snoc hx', heq⟩

variable {p j} in
theorem Exchange.find?_of_ne {phase phase' : Phase} {m m' : Memory} {call : Call}
    (h : Exchange p j (phase, m) call (phase', m')) {key : String} (hp : ¬j.keys.Has key)
    (hr : key ≠ j.rawKey) : m'.objects.find? key = m.objects.find? key := by
  cases h with
  | read => rw [m.objects_getObject]
  | full => exact m.find?_putObject_of_ne fun hk => hp (.inl hk)
  | thumbnail => exact m.find?_putObject_of_ne fun hk => hp (.inr hk)
  | delete => exact m.find?_deleteObject_of_ne hr

variable {p j} in
theorem Exchange.isSome_find? {phase phase' : Phase} {m m' : Memory} {call : Call}
    (h : Exchange p j (phase, m) call (phase', m')) {key : String} (hr : key ≠ j.rawKey)
    (hs : (m.objects.find? key).isSome) : (m'.objects.find? key).isSome := by
  cases h with
  | read => rwa [m.objects_getObject]
  | full => exact m.isSome_find?_putObject _ hs
  | thumbnail => exact m.isSome_find?_putObject _ hs
  | delete => rwa [m.find?_deleteObject_of_ne hr]

variable {p j} in
theorem Exchange.find?_of_raw {phase phase' : Phase} {m m' : Memory} {call : Call}
    (h : Exchange p j (phase, m) call (phase', m')) {key : String} (hk : isRawKey key = true)
    {object : StoredObject} (hf : m'.objects.find? key = some object) :
    m.objects.find? key = some object := by
  cases h with
  | read => rwa [m.objects_getObject] at hf
  | full =>
      rwa [m.find?_putObject_of_ne (PublishedKeys.ne_rawKey j.keys.has_full hk).symm] at hf
  | thumbnail =>
      rwa [m.find?_putObject_of_ne (PublishedKeys.ne_rawKey j.keys.has_thumbnail hk).symm] at hf
  | delete => exact Memory.find?_of_find?_deleteObject hf

variable {p j} in
theorem Exchange.isSome_of_raw {phase phase' : Phase} {m m' : Memory} {call : Call}
    (h : Exchange p j (phase, m) call (phase', m')) {key : String} (hk : isRawKey key = true)
    (hs : (m'.objects.find? key).isSome) : (m.objects.find? key).isSome := by
  obtain ⟨object, hf⟩ := Option.isSome_iff_exists.mp hs
  rw [h.find?_of_raw hk hf]
  rfl

variable {p j} in
theorem Exchange.published_of_ne {phase phase' : Phase} {m m' : Memory} {call : Call}
    (h : Exchange p j (phase, m) call (phase', m')) {key : String} (hk : isRawKey key = true)
    (hne : m'.objects.find? key ≠ m.objects.find? key) :
    ∃ raw pair, phase = .clearing raw pair false ∧ phase' = .published raw pair ∧
      call = .delete j.rawKey ∧ key = j.rawKey := by
  cases h with
  | read => exact absurd (congrArg (·.find? key) (m.objects_getObject _ _)) hne
  | full =>
      refine absurd (m.find?_putObject_of_ne fun hkey => ?_) hne
      exact PublishedKeys.ne_rawKey j.keys.has_full hk hkey.symm
  | thumbnail =>
      refine absurd (m.find?_putObject_of_ne fun hkey => ?_) hne
      exact PublishedKeys.ne_rawKey j.keys.has_thumbnail hk hkey.symm
  | @delete raw pair =>
      refine ⟨raw, pair, rfl, rfl, rfl, ?_⟩
      by_contra hkey
      exact hne (m.find?_deleteObject_of_ne hkey)

variable {p j} in
theorem Exchange.position {phase phase' : Phase} {m m' : Memory} {call : Call}
    (h : Exchange p j (phase, m) call (phase', m')) :
    Position.Exchange (phase.position p j, m) call (phase'.position p j, m') := by
  cases h with
  | read =>
      rw [position_ofRead]
      exact .intro .askGet (.hearGet _)
  | full =>
      refine .intro .askFirst ?_
      simp only [Memory.answer]
      cases (m.putObject (j.fullWrite _)).1 with
      | error cause => exact .firstRefused cause
      | ok => rw [afterFull, position_ofWrite]; exact .firstDone
  | thumbnail =>
      refine .intro .askSecond ?_
      simp only [Memory.answer]
      cases (m.putObject (j.thumbnailWrite _)).1 with
      | error cause => exact .secondRefused cause
      | ok => rw [afterThumbnail, position_ofWrite]; exact .secondDone
  | delete => exact .intro .askDelete (.hearDelete _)

variable {p j} in
theorem ofRead_found {m : Memory} {upload : StoredObject} {pair : RenditionPair}
    (h : m.objects.find? j.rawKey = some upload) (hr : p.Renders upload.body pair) :
    ofRead p (m.getObject j.rawKey Policy.maxUploadBytes).1 =
      .writing upload.body pair .unasked .unasked := by
  rw [Memory.fst_getObject_of_some h, if_neg (Nat.not_lt.mpr hr.small)]
  exact ofRead_eq_writing hr.filled hr.small hr.rendered

variable {p j} in
theorem Exchange.read_found {m : Memory} {upload : StoredObject} {pair : RenditionPair}
    (h : m.objects.find? j.rawKey = some upload) (hr : p.Renders upload.body pair) :
    Exchange p j (.reading false, m) j.read
      (.writing upload.body pair .unasked .unasked,
        (m.getObject j.rawKey Policy.maxUploadBytes).2) := by
  have hread := @Exchange.read p j m
  rwa [ofRead_found h hr] at hread

variable {p j} in
theorem Exchange.full_taken {m : Memory} (raw : ByteArray) (pair : RenditionPair) (two : Progress)
    (h : m.failingSuffix = none) :
    Exchange p j (.writing raw pair .unasked two, m) (.put (j.fullWrite pair))
      (ofWrite raw pair .done two, (m.putObject (j.fullWrite pair)).2) := by
  have hput := Memory.putObject_of_taken (w := j.fullWrite pair) (Memory.refusesPut_of_none h _)
  have hfull := @Exchange.full p j raw pair two m
  rwa [congrArg Prod.fst hput] at hfull

variable {p j} in
theorem Exchange.thumbnail_taken {m : Memory} (raw : ByteArray) (pair : RenditionPair)
    (one : Progress) (h : m.failingSuffix = none) :
    Exchange p j (.writing raw pair one .unasked, m) (.put (j.thumbnailWrite pair))
      (ofWrite raw pair one .done, (m.putObject (j.thumbnailWrite pair)).2) := by
  have hput :=
    Memory.putObject_of_taken (w := j.thumbnailWrite pair) (Memory.refusesPut_of_none h _)
  have hthumbnail := @Exchange.thumbnail p j raw pair one m
  rwa [congrArg Prod.fst hput] at hthumbnail

end Phase

namespace Sample

def stored : Memory := Memory.empty.upload job.rawKey raw "image/png"

theorem find?_stored : stored.objects.find? job.rawKey = some ⟨raw, ⟨"image/png", none⟩⟩ := by
  rw [stored, Memory.find?_upload, if_pos rfl]

end Sample

end ImageIntake
