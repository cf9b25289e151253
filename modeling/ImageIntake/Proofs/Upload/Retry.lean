import ImageIntake.Proofs.Upload.Outcome
import ImageIntake.Proofs.Upload.Redemption

namespace ImageIntake

theorem Publisher.Fetches.of_find?_eq {p : Publisher} {j j' : Job} {m m' : Memory}
    {raw : ByteArray} {pair : RenditionPair} (h : p.Fetches j m raw pair)
    (hkey : j'.rawKey = j.rawKey)
    (hm : m'.objects.find? j.rawKey = m.objects.find? j.rawKey) : p.Fetches j' m' raw pair where
  rawKey := by rw [hkey, h.rawKey]
  stored := by rw [hkey, hm]; exact h.stored
  renders := h.renders

theorem Publisher.Fetches.pair_eq {p : Publisher} {j : Job} {m : Memory} {raw raw' : ByteArray}
    {pair pair' : RenditionPair} (h : p.Fetches j m raw pair) (h' : p.Fetches j m raw' pair') :
    pair = pair' := by
  obtain ⟨upload, hfind, rfl⟩ := h.stored
  obtain ⟨upload', hfind', rfl⟩ := h'.stored
  obtain rfl := Option.some.inj (hfind.symm.trans hfind')
  exact Option.some.inj (h.renders.rendered.symm.trans h'.renders.rendered)

namespace Phase

variable {p : Publisher} {j : Job} {m₀ m m' : Memory}

def Smooth (j : Job) (m₀ m : Memory) : Phase → Prop
  | .published _ _ => m.objects.find? j.rawKey =
      if m₀.deletesFail then m₀.objects.find? j.rawKey else none
  | .refused _ => False
  | _ => m.objects.find? j.rawKey = m₀.objects.find? j.rawKey

structure Course (j : Job) (m₀ m : Memory) (phase : Phase) : Prop where
  puts : m.failingSuffix = none
  deletes : m.deletesFail = m₀.deletesFail
  smooth : phase.Smooth j m₀ m

theorem Smooth.ofWrite {raw : ByteArray} {pair : RenditionPair} {one two : Progress}
    (h : m.objects.find? j.rawKey = m₀.objects.find? j.rawKey) :
    (Phase.ofWrite raw pair one two).Smooth j m₀ m := by
  rw [Phase.ofWrite]
  split <;> exact h

theorem Course.put {w : Write} (hputs : m.failingSuffix = none)
    (hdeletes : m.deletesFail = m₀.deletesFail) {phase : Phase}
    (h : phase.Smooth j m₀ (m.putObject w).2) : phase.Course j m₀ (m.putObject w).2 where
  puts := (m.failingSuffix_putObject w).trans hputs
  deletes := (m.deletesFail_putObject w).trans hdeletes
  smooth := h

theorem Course.exchange {upload : StoredObject} {pair : RenditionPair}
    (hraw : isRawKey j.rawKey = true) (hfind : m₀.objects.find? j.rawKey = some upload)
    (hrenders : p.Renders upload.body pair) {phase phase' : Phase} {call : Call}
    (h : phase.Course j m₀ m) (hx : Exchange p j (phase, m) call (phase', m')) :
    phase'.Course j m₀ m' := by
  obtain ⟨hputs, hdeletes, hsmooth⟩ := h
  have htaken (w : Write) : (m.putObject w).1 = .ok () := by
    rw [Memory.putObject_of_taken (Memory.refusesPut_of_none hputs _)]
  cases hx with
  | read =>
      rw [ofRead_found (hsmooth.trans hfind) hrenders]
      refine ⟨(m.failingSuffix_getObject _ _).trans hputs,
        (m.deletesFail_getObject _ _).trans hdeletes, ?_⟩
      show (m.getObject _ _).2.objects.find? j.rawKey = _
      rw [m.objects_getObject]
      exact hsmooth
  | @full raw pair two =>
      refine .put hputs hdeletes ?_
      rw [htaken]
      have hne := PublishedKeys.ne_rawKey j.keys.has_full hraw
      exact .ofWrite ((m.find?_putObject_of_ne hne.symm).trans hsmooth)
  | @thumbnail raw pair one =>
      refine .put hputs hdeletes ?_
      rw [htaken]
      have hne := PublishedKeys.ne_rawKey j.keys.has_thumbnail hraw
      exact .ofWrite ((m.find?_putObject_of_ne hne.symm).trans hsmooth)
  | delete =>
      refine ⟨(m.failingSuffix_deleteObject _).trans hputs,
        (m.deletesFail_deleteObject _).trans hdeletes, ?_⟩
      show (m.deleteObject j.rawKey).2.objects.find? j.rawKey = _
      rw [m.find?_deleteObject, hdeletes]
      split
      · exact hsmooth
      · rfl

theorem course_start (hraw : isRawKey j.rawKey = true) (hputs : m.failingSuffix = none) :
    (start j).Course j m m := by
  rw [start, if_pos hraw]
  exact ⟨hputs, rfl, rfl⟩

end Phase

variable {p : Publisher} {j : Job} {m m' : Memory} {calls : List Call} {raw : ByteArray}
  {pair : RenditionPair} {result : Except UploadError Publication}

structure Job.Publishes (j : Job) (pair : RenditionPair) (m m' : Memory) : Prop where
  full : m'.objects.find? j.keys.full = some ⟨pair.full.data, Publisher.options⟩
  thumbnail : m'.objects.find? j.keys.thumbnail = some ⟨pair.thumbnail.data, Publisher.options⟩
  raw : m'.objects.find? j.rawKey = if m.deletesFail then m.objects.find? j.rawKey else none
  elsewhere : ∀ key, ¬j.keys.Has key → key ≠ j.rawKey →
    m'.objects.find? key = m.objects.find? key

theorem succeeds_of_exchanges (hfetches : p.Fetches j m raw pair) (hputs : m.failingSuffix = none)
    (h : Walk Position.Exchange (.start (p.run j), m) calls (.done result, m')) :
    (∃ publication, result = .ok publication) ∧
      m'.objects.find? j.rawKey = if m.deletesFail then m.objects.find? j.rawKey else none := by
  obtain ⟨upload, hfind, rfl⟩ := hfetches.stored
  rw [← Phase.position_start] at h
  obtain ⟨phase, hw, hpos⟩ := Phase.exchanges_of_exchanges p j h
  have hcourse : phase.Course j m m' :=
    hw.keeps (I := fun s => s.1.Course j m s.2)
      (fun _ _ _ hs hx => hs.exchange hfetches.rawKey hfind hfetches.renders hx)
      (Phase.course_start hfetches.rawKey hputs)
  cases phase with
  | published raw pair =>
      cases hpos
      exact ⟨⟨_, rfl⟩, hcourse.smooth⟩
  | refused e => exact absurd hcourse.smooth id
  | reading | writing | clearing => cases hpos

theorem publishes_of_exchanges (hfetches : p.Fetches j m raw pair) (hputs : m.failingSuffix = none)
    (h : Walk Position.Exchange (.start (p.run j), m) calls (.done result, m')) :
    result = .ok (p.publication j.keys pair.full j.now) ∧ j.Publishes pair m m' := by
  obtain ⟨⟨publication, rfl⟩, hraw⟩ := succeeds_of_exchanges hfetches hputs h
  obtain ⟨raw', pair', hfetches', rfl, hfull, hthumbnail⟩ := held_of_published h
  obtain rfl := hfetches.pair_eq hfetches'
  exact ⟨rfl, hfull, hthumbnail, hraw, fun key hkey hne => find?_of_exchanges hkey hne h⟩

end ImageIntake
