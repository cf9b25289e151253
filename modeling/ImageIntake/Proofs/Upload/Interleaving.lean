import ImageIntake.Proofs.Upload.History
import ImageIntake.Proofs.Upload.World

namespace ImageIntake

namespace World

variable {ι : Type} (p : Publisher) (jobs : ι → Job)

def Distinct : Prop := Function.Injective fun i => (jobs i).token

def Kept (m : Memory) (w : Write) : Prop :=
  (m.objects.find? w.key).isSome ∧ (Distinct jobs → m.objects.find? w.key = some w.object)

structure Written (m : Memory) (j : Job) (pair : RenditionPair) (one two : Progress) : Prop where
  full : one = .done → Kept jobs m (j.fullWrite pair)
  thumbnail : two = .done → Kept jobs m (j.thumbnailWrite pair)

variable {p jobs}

theorem Kept.of_find?_eq {m m' : Memory} {write : Write} (h : Kept jobs m write)
    (hf : m'.objects.find? write.key = m.objects.find? write.key) : Kept jobs m' write := by
  rw [Kept, hf]
  exact h

theorem Kept.exchange {i k : ι} (hik : i ≠ k) {phase phase' : Phase} {m m' : Memory} {call : Call}
    {write : Write} (h : Kept jobs m write)
    (hx : Phase.Exchange p (jobs k) (phase, m) call (phase', m'))
    (hraw : isRawKey (jobs k).rawKey = true) (hw : (jobs i).keys.Has write.key) :
    Kept jobs m' write := by
  have hne : write.key ≠ (jobs k).rawKey := PublishedKeys.ne_rawKey hw hraw
  refine ⟨hx.isSome_find? hne h.1, fun hd => ?_⟩
  have hother : ¬(jobs k).keys.Has write.key := fun hk =>
    hik (hd (PublishedKeys.has_injective hw hk).2)
  rw [hx.find?_of_ne hother hne]
  exact h.2 hd

theorem Written.mono {m m' : Memory} {j : Job} {pair : RenditionPair} {one two : Progress}
    (h : Written jobs m j pair one two)
    (hk : ∀ write : Write, j.keys.Has write.key → Kept jobs m write → Kept jobs m' write) :
    Written jobs m' j pair one two where
  full hd := hk _ (.inl rfl) (h.full hd)
  thumbnail hd := hk _ (.inr rfl) (h.thumbnail hd)

theorem Written.putFull {m : Memory} {j : Job} {pair : RenditionPair} {two : Progress}
    (h : Written jobs m j pair .unasked two) (hput : (m.putObject (j.fullWrite pair)).1 = .ok ()) :
    Written jobs (m.putObject (j.fullWrite pair)).2 j pair .done two where
  full _ := by
    have hfind := Memory.find?_putObject_ok hput
    exact ⟨by rw [hfind]; rfl, fun _ => hfind⟩
  thumbnail hd := (h.thumbnail hd).of_find?_eq <|
    m.find?_putObject_of_ne (PublishedKeys.full_ne_thumbnail _ _ _ _).symm

theorem Written.putThumbnail {m : Memory} {j : Job} {pair : RenditionPair} {one : Progress}
    (h : Written jobs m j pair one .unasked)
    (hput : (m.putObject (j.thumbnailWrite pair)).1 = .ok ()) :
    Written jobs (m.putObject (j.thumbnailWrite pair)).2 j pair one .done where
  full hd := (h.full hd).of_find?_eq <|
    m.find?_putObject_of_ne (PublishedKeys.full_ne_thumbnail _ _ _ _)
  thumbnail _ := by
    have hfind := Memory.find?_putObject_ok hput
    exact ⟨by rw [hfind]; rfl, fun _ => hfind⟩

variable [DecidableEq ι] (p jobs)

def ReadFrom (w₀ : World ι) (acts : List (Act ι)) (w : World ι) (i : ι) (raw : ByteArray) : Prop :=
  ∃ before after w₁ w₂ upload,
    acts = before ++ .call i (jobs i).read :: after ∧
    .call i (jobs i).read ∉ before ∧ .call i (jobs i).read ∉ after ∧
    Run w₀ before w₁ ∧ Step w₁ (.call i (jobs i).read) w₂ ∧ Run w₂ after w ∧
    w₁.memory.objects.find? (jobs i).rawKey = some upload ∧ upload.body = raw

structure Obtained (w₀ : World ι) (acts : List (Act ι)) (w : World ι) (i : ι) (raw : ByteArray)
    (pair : RenditionPair) : Prop where
  rawKey : isRawKey (jobs i).rawKey = true
  renders : p.Renders raw pair
  read : ReadFrom jobs w₀ acts w i raw

def Sound (w₀ : World ι) (acts : List (Act ι)) (w : World ι) (i : ι) : Phase → Prop
  | .reading _ => isRawKey (jobs i).rawKey = true ∧ .call i (jobs i).read ∉ acts
  | .writing raw pair one two =>
      Obtained p jobs w₀ acts w i raw pair ∧ Written jobs w.memory (jobs i) pair one two
  | .clearing raw pair _ =>
      Obtained p jobs w₀ acts w i raw pair ∧ Written jobs w.memory (jobs i) pair .done .done
  | .published raw pair =>
      Obtained p jobs w₀ acts w i raw pair ∧ Written jobs w.memory (jobs i) pair .done .done
  | .refused _ => True

def Coherent (w₀ : World ι) (acts : List (Act ι)) (w : World ι) : Prop :=
  ∀ i, ∃ phase : Phase, w.position i = phase.position p (jobs i) ∧ Sound p jobs w₀ acts w i phase

variable {p jobs}

theorem ReadFrom.snoc {w₀ w w' : World ι} {acts : List (Act ι)} {act : Act ι} {i : ι}
    {raw : ByteArray} (h : ReadFrom jobs w₀ acts w i raw) (hs : Step w act w')
    (hact : act ≠ .call i (jobs i).read) : ReadFrom jobs w₀ (acts ++ [act]) w' i raw := by
  obtain ⟨before, after, w₁, w₂, upload, rfl, hb, ha, h₁, h₂, h₃, hu⟩ := h
  refine ⟨before, after ++ [act], w₁, w₂, upload, by simp, hb, ?_, h₁, h₂, h₃.snoc hs, hu⟩
  simp [ha, hact.symm]

theorem Obtained.snoc {w₀ w w' : World ι} {acts : List (Act ι)} {act : Act ι} {i : ι}
    {raw : ByteArray} {pair : RenditionPair} (h : Obtained p jobs w₀ acts w i raw pair)
    (hs : Step w act w') (hact : act ≠ .call i (jobs i).read) :
    Obtained p jobs w₀ (acts ++ [act]) w' i raw pair :=
  ⟨h.rawKey, h.renders, h.read.snoc hs hact⟩

theorem Sound.snoc {w₀ w w' : World ι} {acts : List (Act ι)} {act : Act ι} {i : ι} {phase : Phase}
    (h : Sound p jobs w₀ acts w i phase) (hs : Step w act w')
    (hact : act ≠ .call i (jobs i).read)
    (hk : ∀ write : Write, (jobs i).keys.Has write.key →
      Kept jobs w.memory write → Kept jobs w'.memory write) :
    Sound p jobs w₀ (acts ++ [act]) w' i phase := by
  cases phase with
  | reading asked => exact ⟨h.1, by simp [h.2, hact.symm]⟩
  | writing raw pair one two => exact ⟨h.1.snoc hs hact, h.2.mono hk⟩
  | clearing raw pair asked => exact ⟨h.1.snoc hs hact, h.2.mono hk⟩
  | published raw pair => exact ⟨h.1.snoc hs hact, h.2.mono hk⟩
  | refused e => trivial

theorem Sound.ofWrite {w₀ w : World ι} {acts : List (Act ι)} {i : ι} {raw : ByteArray}
    {pair : RenditionPair} {one two : Progress} (ho : Obtained p jobs w₀ acts w i raw pair)
    (hw : Written jobs w.memory (jobs i) pair one two) :
    Sound p jobs w₀ acts w i (Phase.ofWrite raw pair one two) := by
  rw [Phase.ofWrite]
  split
  · next hd =>
    obtain ⟨rfl, rfl⟩ := hd
    exact ⟨ho, hw⟩
  · exact ⟨ho, hw⟩

theorem Sound.ofRead {w₀ w : World ι} {acts : List (Act ι)} {i : ι} {answer : Answer ByteArray}
    (hraw : isRawKey (jobs i).rawKey = true)
    (hr : ∀ raw, answer = .ok raw → ReadFrom jobs w₀ acts w i raw) :
    Sound p jobs w₀ acts w i (Phase.ofRead p answer) := by
  rcases answer with cause | raw
  · cases cause <;> trivial
  · rw [Phase.ofRead]
    split
    · trivial
    · next hs =>
      split
      · trivial
      · next hl =>
        cases hrender : p.render raw with
        | none => trivial
        | some pair =>
            have hren : p.Renders raw pair := ⟨hs, Nat.le_of_not_lt hl, hrender⟩
            exact ⟨⟨hraw, hren, hr raw rfl⟩, by constructor <;> simp⟩

theorem Sound.exchange {w₀ w w' : World ι} {acts : List (Act ι)} {i : ι} {call : Call}
    {phase phase' : Phase} (h : Sound p jobs w₀ acts w i phase) (hrun : Run w₀ acts w)
    (hs : Step w (.call i call) w')
    (hx : Phase.Exchange p (jobs i) (phase, w.memory) call (phase', w'.memory)) :
    Sound p jobs w₀ (acts ++ [.call i call]) w' i phase' := by
  generalize hm : w'.memory = m' at hx
  cases hx with
  | read =>
      refine Sound.ofRead h.1 fun raw hraw => ?_
      -- this is the one read, so nothing has followed it yet
      obtain ⟨upload, hfind, hbody⟩ := Memory.getObject_eq_ok hraw
      exact ⟨acts, [], w, w', upload, rfl, h.2, List.not_mem_nil, hrun, hs, .refl _, hfind, hbody⟩
  | @full raw pair two =>
      obtain ⟨hobtained, hwritten⟩ := h
      have hobtained' := hobtained.snoc hs (by simp [Job.read])
      cases hput : (w.memory.putObject ((jobs i).fullWrite pair)).1 with
      | error cause => trivial
      | ok =>
          refine Sound.ofWrite hobtained' ?_
          rw [hm]
          exact hwritten.putFull hput
  | @thumbnail raw pair one =>
      obtain ⟨hobtained, hwritten⟩ := h
      have hobtained' := hobtained.snoc hs (by simp [Job.read])
      cases hput : (w.memory.putObject ((jobs i).thumbnailWrite pair)).1 with
      | error cause => trivial
      | ok =>
          refine Sound.ofWrite hobtained' ?_
          rw [hm]
          exact hwritten.putThumbnail hput
  | delete =>
      obtain ⟨hobtained, hwritten⟩ := h
      refine ⟨hobtained.snoc hs (by simp [Job.read]), hwritten.mono fun write hw hkept => ?_⟩
      rw [hm]
      exact hkept.of_find?_eq <|
        w.memory.find?_deleteObject_of_ne (PublishedKeys.ne_rawKey hw hobtained.rawKey)

theorem Sound.isRawKey {w₀ w : World ι} {acts : List (Act ι)} {i : ι} {call : Call}
    {phase phase' : Phase} {m m' : Memory} (h : Sound p jobs w₀ acts w i phase)
    (hx : Phase.Exchange p (jobs i) (phase, m) call (phase', m')) :
    ImageIntake.isRawKey (jobs i).rawKey = true := by
  cases hx with
  | read => exact h.1
  | full | thumbnail | delete => exact h.1.rawKey

theorem Coherent.kept {w₀ w w' : World ι} {acts : List (Act ι)} {act : Act ι} {i : ι}
    (h : Coherent p jobs w₀ acts w) (hs : Step w act w') (hne : ∀ call, act ≠ .call i call)
    {write : Write} (hw : (jobs i).keys.Has write.key) (hkept : Kept jobs w.memory write) :
    Kept jobs w'.memory write := by
  cases hs with
  | @call k call pos m hdropped hx =>
      have hik : i ≠ k := by
        rintro rfl
        exact hne call rfl
      obtain ⟨phase, hpos, hsound⟩ := h k
      rw [hpos] at hx
      obtain ⟨phase', hx', -⟩ := Phase.exchange_of_exchange p (jobs k) hx
      exact hkept.exchange hik hx' (hsound.isRawKey hx') hw
  | upload body contentType hraw =>
      refine hkept.of_find?_eq ?_
      rw [w.memory.find?_upload, if_neg (PublishedKeys.ne_rawKey hw hraw).symm]
  | drop | failPuts | failDeletes => exact hkept

theorem Coherent.snoc {w₀ w w' : World ι} {acts : List (Act ι)} {act : Act ι}
    (h : Coherent p jobs w₀ acts w) (hrun : Run w₀ acts w) (hs : Step w act w') :
    Coherent p jobs w₀ (acts ++ [act]) w' := by
  intro i
  obtain ⟨phase, hpos, hsound⟩ := h i
  -- a commit's own call moves it to its next phase; nothing else does
  by_cases hown : ∃ call, act = .call i call
  · obtain ⟨call, rfl⟩ := hown
    obtain ⟨phase', hx, hpos'⟩ := hs.exchange hpos
    exact ⟨phase', hpos', hsound.exchange hrun hs hx⟩
  · have hne : ∀ call, act ≠ .call i call := fun call hc => hown ⟨call, hc⟩
    refine ⟨phase, (hs.position_eq hne).trans hpos, hsound.snoc hs (hne _) ?_⟩
    exact fun write hw hkept => h.kept hs hne hw hkept

theorem coherent_start (m : Memory) :
    Coherent p jobs (start p jobs m) [] (start p jobs m) := by
  intro i
  refine ⟨Phase.start (jobs i), (Phase.position_start p (jobs i)).symm, ?_⟩
  rw [Phase.start]
  split
  · next h => exact ⟨h, List.not_mem_nil⟩
  · trivial

theorem coherent_of_run {m : Memory} {acts : List (Act ι)} {w : World ι}
    (h : Run (start p jobs m) acts w) : Coherent p jobs (start p jobs m) acts w := by
  generalize hw : start p jobs m = w₀ at h ⊢
  induction h with
  | refl => exact hw ▸ coherent_start m
  | snoc hrun hs ih => exact ih.snoc hrun hs

end World

end ImageIntake
