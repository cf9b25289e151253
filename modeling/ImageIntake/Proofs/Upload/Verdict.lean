import ImageIntake.Proofs.Upload.Redemption

namespace ImageIntake

def Write.latest (writes : List Write) (key : String) : Option StoredObject :=
  (writes.find? fun w => w.key = key).map Write.object

namespace Memory

variable {m m' : Memory} {writes : List Write} {apart : String}

def Gains (m m' : Memory) (writes : List Write) (apart : String) : Prop :=
  ∀ key, key ≠ apart → m'.objects.find? key = (Write.latest writes key).or (m.objects.find? key)

theorem gains_nil (h : m'.objects = m.objects) : m.Gains m' [] apart := by
  intro key _
  rw [h]
  rfl

theorem Gains.find?_eq_some (h : m.Gains m' writes apart) {key : String} (hkey : key ≠ apart)
    {object : StoredObject} (hlatest : Write.latest writes key = some object) :
    m'.objects.find? key = some object := by
  rw [h key hkey, hlatest, Option.some_or]

theorem Gains.putObject (h : m.Gains m' writes apart) {w : Write}
    (hw : m'.refusesPut w.key = false) : m.Gains (m'.putObject w).2 (w :: writes) apart := by
  intro key hkey
  rw [putObject_of_taken hw, m'.objects.find?_insert, Write.latest, List.find?_cons]
  by_cases heq : w.key = key
  · simp only [heq, if_true, decide_true]
    rfl
  · simp only [heq, if_false, decide_false]
    exact h key hkey

theorem Gains.deleteObject (h : m.Gains m' writes apart) :
    m.Gains (m'.deleteObject apart).2 writes apart :=
  fun key hkey => (m'.find?_deleteObject_of_ne hkey).trans (h key hkey)

theorem refusesPut_eq (h : m'.failingSuffix = m.failingSuffix) (key : String) :
    m'.refusesPut key = m.refusesPut key := by
  rw [refusesPut, h, refusesPut]

theorem refusesPut_getObject (m : Memory) (key : String) (limit : Nat) :
    (m.getObject key limit).2.refusesPut = m.refusesPut :=
  funext fun other => refusesPut_eq (m.failingSuffix_getObject key limit) other

theorem refusesPut_putObject (m : Memory) (w : Write) :
    (m.putObject w).2.refusesPut = m.refusesPut :=
  funext fun other => refusesPut_eq (m.failingSuffix_putObject w) other

end Memory

structure Verdict where
  result : Except UploadError Publication
  writes : List Write

namespace Publisher

def verdict (p : Publisher) (keys : PublishedKeys) (now : Instant) (refuses : String → Bool) :
    Option RenditionPair → Verdict
  | none => ⟨.error (.invalid .notAnImage), []⟩
  | some pair =>
      let full : Write := ⟨keys.full, pair.full.data, options⟩
      let thumbnail : Write := ⟨keys.thumbnail, pair.thumbnail.data, options⟩
      let refused (w : Write) := StoreError.serverFault ("injected put failure: " ++ w.key)
      if refuses full.key then ⟨.error (.storage (refused full)), []⟩
      else if refuses thumbnail.key then ⟨.error (.storage (refused thumbnail)), [full]⟩
      else ⟨.ok (p.publication keys pair.full now), [thumbnail, full]⟩

theorem isSome_latest_of_ok {p : Publisher} {keys : PublishedKeys} {now : Instant}
    {refuses : String → Bool} {pair? : Option RenditionPair} {publication : Publication}
    (h : (p.verdict keys now refuses pair?).result = .ok publication) {key : String}
    (hkey : keys.Has key) :
    (Write.latest (p.verdict keys now refuses pair?).writes key).isSome := by
  cases pair? with
  | none => cases h
  | some pair =>
      simp only [verdict] at h ⊢
      split at h
      · cases h
      · split at h
        · cases h
        · next hfull hthumbnail =>
          simp only [if_neg hfull, if_neg hthumbnail, Write.latest, Option.isSome_map,
            List.find?_isSome]
          rcases hkey with rfl | rfl
          · exact ⟨_, .tail _ (.head _), by simp⟩
          · exact ⟨_, .head _, by simp⟩

variable {p : Publisher} {j : Job} {m : Memory}

theorem run_publish (m : Memory) (pair : RenditionPair) :
    ((p.publish j.keys j.rawKey j.now pair).run m).1 =
        (p.verdict j.keys j.now m.refusesPut (some pair)).result ∧
      m.Gains ((p.publish j.keys j.rawKey j.now pair).run m).2
        (p.verdict j.keys j.now m.refusesPut (some pair)).writes j.rawKey := by
  rw [p.publish_eq, Program.run_putBoth]
  simp only [verdict]
  cases hfull : m.refusesPut (j.fullWrite pair).key with
  | true =>
      have hfull' : m.refusesPut j.keys.full = true := hfull
      rw [Memory.putBoth_of_refused hfull, Memory.putObject_of_refused hfull, if_pos hfull']
      exact ⟨rfl, Memory.gains_nil rfl⟩
  | false =>
      have hfull' : ¬m.refusesPut j.keys.full = true := by
        show ¬m.refusesPut (j.fullWrite pair).key = true
        simp [hfull]
      have hgains : m.Gains (m.putObject (j.fullWrite pair)).2 [j.fullWrite pair] j.rawKey :=
        (Memory.gains_nil rfl).putObject hfull
      have hsame := m.refusesPut_putObject (j.fullWrite pair)
      rw [Memory.putBoth_of_taken hfull, if_neg hfull']
      -- of the store after the first write only its gains and its refusals matter
      generalize (m.putObject (j.fullWrite pair)).2 = m₁ at hgains hsame ⊢
      rw [← hsame]
      cases hthumbnail : m₁.refusesPut (j.thumbnailWrite pair).key with
      | true =>
          have hthumbnail' : m₁.refusesPut j.keys.thumbnail = true := hthumbnail
          rw [Memory.putObject_of_refused hthumbnail, if_pos hthumbnail']
          exact ⟨rfl, hgains⟩
      | false =>
          have hthumbnail' : ¬m₁.refusesPut j.keys.thumbnail = true := by
            show ¬m₁.refusesPut (j.thumbnailWrite pair).key = true
            simp [hthumbnail]
          have hboth := (hgains.putObject hthumbnail).deleteObject
          rw [if_neg hthumbnail']
          rw [Memory.putObject_of_taken hthumbnail] at hboth ⊢
          exact ⟨rfl, hboth⟩

theorem run_stored {upload : StoredObject} (hraw : isRawKey j.rawKey = true)
    (hfind : m.objects.find? j.rawKey = some upload) (hfilled : upload.body.size ≠ 0)
    (hsmall : upload.body.size ≤ Policy.maxUploadBytes) :
    ((p.run j).run m).1 =
        (p.verdict j.keys j.now m.refusesPut (p.render upload.body)).result ∧
      m.Gains ((p.run j).run m).2
        (p.verdict j.keys j.now m.refusesPut (p.render upload.body)).writes j.rawKey := by
  cases hrender : p.render upload.body with
  | none =>
      rw [run_rejected hraw hfind (.notAnImage hfilled hsmall hrender)]
      exact ⟨rfl, Memory.gains_nil (m.objects_getObject ..)⟩
  | some pair =>
      rw [run_renders hraw hfind ⟨hfilled, hsmall, hrender⟩,
        ← m.refusesPut_getObject j.rawKey Policy.maxUploadBytes]
      obtain ⟨hresult, hgains⟩ :=
        run_publish (p := p) (j := j) (m.getObject j.rawKey Policy.maxUploadBytes).2 pair
      refine ⟨hresult, fun key hkey => ?_⟩
      rw [hgains key hkey, m.objects_getObject]

end Publisher

end ImageIntake
