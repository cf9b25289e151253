import ImageIntake.Proofs.Upload.Exchange
import ImageIntake.Proofs.Upload.Grant

namespace ImageIntake

namespace Program

variable {α β : Type}

variable {σ : Type} [ObjectStore σ]

theorem run_putBoth (first second : Write) (next : Answer Unit → Program α) (m : σ) :
    (putBoth first second next).run m =
      (next (ObjectStore.putBoth first second m).1).run
        (ObjectStore.putBoth first second m).2 := rfl

theorem run_presign (key contentType : String) (lifetime : Span) (next : Answer String → Program α)
    (m : σ) :
    (presign key contentType lifetime next).run m =
      (next (ObjectStore.presign key contentType lifetime m).1).run
        (ObjectStore.presign key contentType lifetime m).2 := rfl

theorem run_map (g : α → β) (p : Program α) (m : σ) :
    (p.map g).run m = (g (p.run m).1, (p.run m).2) := by
  induction p generalizing m with
  | done result => rfl
  | get key limit next ih | putBoth first second next ih | delete key next ih
  | presign key contentType lifetime next ih => exact ih _ _

theorem runWithin_eq {deadline : Span} (h : 0 < deadline.nanos) (p : Program α) (m : Memory) :
    p.runWithin deadline m = (some (p.run m).1, (p.run m).2) := by
  have hnext {next : StateM Memory (Option α)} {m : Memory} :
      unlessLate deadline next m = next m := by
    have hlate : ObjectStore.elapsed m < deadline := h
    show (if ObjectStore.elapsed m < deadline then next else pure none) m = next m
    rw [if_pos hlate]
  induction p generalizing m with
  | done result => rfl
  | get key limit next ih | putBoth first second next ih | delete key next ih
  | presign key contentType lifetime next ih => exact hnext.trans (ih _ _)

end Program

namespace Memory

variable {m : Memory}

theorem putBoth_of_none (h : m.failingSuffix = none) (first second : Write) :
    ∃ m', ObjectStore.putBoth first second m = (.ok (), m') ∧ m'.deletesFail = m.deletesFail := by
  let m₁ : Memory := { m with objects := m.objects.insert first.key first.object }
  let m₂ : Memory := { m₁ with objects := m₁.objects.insert second.key second.object }
  have hfirst : m.putObject first = (.ok (), m₁) := putObject_of_taken (refusesPut_of_none h _)
  have hsecond : m₁.putObject second = (.ok (), m₂) := putObject_of_taken (refusesPut_of_none h _)
  refine ⟨m₂, ?_, rfl⟩
  rw [putBoth_of_taken (refusesPut_of_none h _), hfirst, hsecond]

end Memory

theorem rawKey_of_authorize {σ : Type} [ObjectStore σ] {lifetime : Span} {token : Token}
    {d : Declaration} {m : σ} {g : Grant} (h : ((authorize lifetime token d).run m).1 = .ok g) :
    g.rawKey = rawKey g.type token := by
  cases d.fate with
  | unsupported hd | tooLarge hd =>
      rw [hd] at h
      cases h
  | asked type hd =>
      rw [hd.authorize_eq, Program.run_presign] at h
      cases hanswer : (ObjectStore.presign (rawKey type token) type.mime lifetime m).1 with
      | error cause =>
          rw [hanswer] at h
          cases h
      | ok url =>
          rw [hanswer] at h
          cases h
          rfl

theorem keeps_of_exchanges {p : Publisher} {j : Job} {I : Memory → Prop}
    (hx : ∀ phase phase' m m' call, I m → Phase.Exchange p j (phase, m) call (phase', m') → I m')
    {m m' : Memory} {calls : List Call} {result : Except UploadError Publication}
    (h : Walk Position.Exchange (.start (p.run j), m) calls (.done result, m')) (hm : I m) :
    I m' := by
  rw [← Phase.position_start] at h
  obtain ⟨phase, hw, -⟩ := Phase.exchanges_of_exchanges p j h
  exact hw.keeps (I := fun s => I s.2) (fun s call t hs ht => hx s.1 t.1 s.2 t.2 call hs ht) hm

theorem find?_of_exchanges {p : Publisher} {j : Job} {m m' : Memory} {calls : List Call}
    {result : Except UploadError Publication} {key : String} (hkey : ¬j.keys.Has key)
    (hne : key ≠ j.rawKey)
    (h : Walk Position.Exchange (.start (p.run j), m) calls (.done result, m')) :
    m'.objects.find? key = m.objects.find? key :=
  keeps_of_exchanges (I := fun m' => m'.objects.find? key = m.objects.find? key)
    (fun _ _ _ _ _ hm hx => (hx.find?_of_ne hkey hne).trans hm) h rfl

namespace Publisher

variable {p : Publisher} {j : Job} {m : Memory}

theorem rejects_or_renders (p : Publisher) (raw : ByteArray) :
    (∃ reason, p.Rejects raw reason) ∨ ∃ pair, p.Renders raw pair := by
  by_cases hs : raw.size = 0
  · exact .inl ⟨_, .empty hs⟩
  · by_cases hl : Policy.maxUploadBytes < raw.size
    · exact .inl ⟨_, .tooLarge hl⟩
    · have hl' := Nat.le_of_not_lt hl
      cases hpair : p.render raw with
      | none => exact .inl ⟨_, .notAnImage hs hl' hpair⟩
      | some pair => exact .inr ⟨pair, hs, hl', hpair⟩

theorem run_eq_afterRead (hraw : isRawKey j.rawKey = true) :
    (p.run j).run m = (p.afterRead j (m.getObject j.rawKey Policy.maxUploadBytes).1).run
      (m.getObject j.rawKey Policy.maxUploadBytes).2 := by
  rw [p.run_of_isRawKey hraw]
  rfl

theorem run_absent (h : m.objects.find? j.rawKey = none) :
    (p.run j).run m = (.error .notFound, m) := by
  cases hraw : isRawKey j.rawKey with
  | false =>
      rw [p.run_of_not_isRawKey hraw]
      rfl
  | true =>
      rw [run_eq_afterRead hraw, Memory.getObject_of_none h]
      rfl

variable {upload : StoredObject} (hraw : isRawKey j.rawKey = true)
  (hfind : m.objects.find? j.rawKey = some upload)

include hraw hfind

theorem run_rejected {reason : InvalidUpload} (h : p.Rejects upload.body reason) :
    (p.run j).run m =
      (.error (.invalid reason), (m.getObject j.rawKey Policy.maxUploadBytes).2) := by
  rw [run_eq_afterRead hraw, Memory.fst_getObject_of_some hfind]
  cases h with
  | empty hs =>
      have hlimit : ¬Policy.maxUploadBytes < upload.body.size := by omega
      rw [if_neg hlimit]
      simp only [afterRead, publishUpload, if_pos hs]
      rfl
  | tooLarge hlimit =>
      rw [if_pos hlimit]
      rfl
  | notAnImage hs hl hn =>
      have hlimit : ¬Policy.maxUploadBytes < upload.body.size := Nat.not_lt.mpr hl
      rw [if_neg hlimit]
      simp only [afterRead, publishUpload, if_neg hs, if_neg hlimit, hn]
      rfl

theorem run_renders {pair : RenditionPair} (h : p.Renders upload.body pair) :
    (p.run j).run m = (p.publish j.keys j.rawKey j.now pair).run
      (m.getObject j.rawKey Policy.maxUploadBytes).2 := by
  have hlimit : ¬Policy.maxUploadBytes < upload.body.size := Nat.not_lt.mpr h.small
  have hread : p.afterRead j (m.getObject j.rawKey Policy.maxUploadBytes).1 =
      p.publish j.keys j.rawKey j.now pair := by
    rw [Memory.fst_getObject_of_some hfind, if_neg hlimit]
    simp only [afterRead, publishUpload, if_neg h.filled, if_neg hlimit, h.rendered]
  rw [run_eq_afterRead hraw, hread]

theorem run_published (hputs : m.failingSuffix = none) (hdeletes : m.deletesFail = false)
    {pair : RenditionPair} (h : p.Renders upload.body pair) :
    ∃ m', (p.run j).run m = (.ok (p.publication j.keys pair.full j.now), m') ∧
      m'.objects.find? j.rawKey = none := by
  rw [run_renders hraw hfind h]
  generalize hm₁ : (m.getObject j.rawKey Policy.maxUploadBytes).2 = m₁
  have hputs₁ : m₁.failingSuffix = none := by rw [← hm₁, m.failingSuffix_getObject, hputs]
  obtain ⟨m₂, hboth, hdeletes₂⟩ :=
    Memory.putBoth_of_none hputs₁ (j.fullWrite pair) (j.thumbnailWrite pair)
  have hdeletes₁ : m₁.deletesFail = false := by rw [← hm₁, m.deletesFail_getObject, hdeletes]
  refine ⟨(m₂.deleteObject j.rawKey).2, ?_,
    Memory.find?_deleteObject_self (hdeletes₂.trans hdeletes₁) j.rawKey⟩
  rw [p.publish_eq, Program.run_putBoth, hboth]
  rfl

end Publisher

end ImageIntake
