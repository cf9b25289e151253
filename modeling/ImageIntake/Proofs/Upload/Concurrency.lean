import ImageIntake.Proofs.Upload.Interleaving

namespace ImageIntake

namespace World

variable {ι : Type} [DecidableEq ι] {p : Publisher} {jobs : ι → Job} {m : Memory}

theorem eq_published_of_position {j : Job} {phase : Phase} {publication : Publication}
    (h : phase.position p j = .done (.ok publication)) :
    ∃ raw pair, phase = .published raw pair ∧
      publication = p.publication j.keys pair.full j.now := by
  cases phase with
  | published raw pair =>
      injection h with h
      exact ⟨raw, pair, rfl, (Except.ok.inj h).symm⟩
  | refused e =>
      injection h with h
      cases h
  | reading | writing | clearing => cases h

theorem written_of_run {acts more : List (Act ι)} {w w' : World ι} {i : ι} {raw : ByteArray}
    {pair : RenditionPair} (hrun : Run (start p jobs m) acts w)
    (hpos : w.position i = (Phase.published raw pair).position p (jobs i))
    (hwritten : Written jobs w.memory (jobs i) pair .done .done) (hmore : Run w more w') :
    Written jobs w'.memory (jobs i) pair .done .done := by
  induction hmore with
  | refl => exact hwritten
  | @snoc t u es act hwalk hs ih =>
      -- the commit is at its end, so the step is not its own
      have hcoherent := coherent_of_run (hrun.append hwalk)
      have hne : ∀ call, act ≠ .call i call := by
        rintro call rfl
        have hpos' : t.position i = (Phase.published raw pair).position p (jobs i) :=
          position_done_of_run hwalk hpos
        obtain ⟨phase, hx, -⟩ := hs.exchange hpos'
        cases hx
      exact ih.mono fun write hw hkept => hcoherent.kept hs hne hw hkept

theorem exists_exchange {acts : List (Act ι)} {w w' : World ι} {i : ι} {call : Call}
    (hrun : Run (start p jobs m) acts w) (hs : Step w (.call i call) w') :
    ∃ phase phase', Phase.Exchange p (jobs i) (phase, w.memory) call (phase', w'.memory) ∧
      w'.position i = phase'.position p (jobs i) ∧
      Sound p jobs (start p jobs m) acts w i phase ∧
      Sound p jobs (start p jobs m) (acts ++ [.call i call]) w' i phase' := by
  obtain ⟨phase, hpos, hsound⟩ := coherent_of_run hrun i
  obtain ⟨phase', hx, hpos'⟩ := hs.exchange hpos
  exact ⟨phase, phase', hx, hpos', hsound, hsound.exchange hrun hs hx⟩

theorem find?_of_call {acts : List (Act ι)} {w w' : World ι} {i k : ι} {call : Call}
    (hd : Distinct jobs) (hrun : Run (start p jobs m) acts w) (hs : Step w (.call k call) w')
    (hik : i ≠ k) {key : String} (hkey : (jobs i).keys.Has key) :
    w'.memory.objects.find? key = w.memory.objects.find? key := by
  obtain ⟨phase, phase', hx, -, hsound, -⟩ := exists_exchange hrun hs
  have hother : ¬(jobs k).keys.Has key := fun hk =>
    hik (hd (PublishedKeys.has_injective hkey hk).2)
  exact hx.find?_of_ne hother (PublishedKeys.ne_rawKey hkey (hsound.isRawKey hx))

theorem find?_of_refused {before after : List (Act ι)} {w₁ w₂ w : World ι} {i : ι} {call : Call}
    {e : UploadError} (hbefore : Run (start p jobs m) before w₁) (hs : Step w₁ (.call i call) w₂)
    (hafter : Run w₂ after w) (he : w.position i = .done (.error e)) {key : String}
    (hkey : isRawKey key = true) :
    w₂.memory.objects.find? key = w₁.memory.objects.find? key := by
  by_contra hne
  obtain ⟨phase, phase', hx, hpos, -, -⟩ := exists_exchange hbefore hs
  obtain ⟨raw, pair, -, rfl, -, -⟩ := hx.published_of_ne hkey hne
  rw [position_done_of_run hafter hpos] at he
  injection he with he
  cases he

theorem cleared_of_removed {acts : List (Act ι)} {w w' : World ι} {i : ι} {call : Call}
    {key : String} (hrun : Run (start p jobs m) acts w) (hs : Step w (.call i call) w')
    (hin : (w.memory.objects.find? key).isSome) (hout : w'.memory.objects.find? key = none) :
    call = .delete key ∧ key = (jobs i).rawKey ∧
      ∃ raw pair, Obtained p jobs (start p jobs m) acts w i raw pair ∧
        Written jobs w.memory (jobs i) pair .done .done ∧
        w'.position i = (Phase.published raw pair).position p (jobs i) ∧
        Written jobs w'.memory (jobs i) pair .done .done := by
  obtain ⟨phase, phase', hx, hpos, hsound, hsound'⟩ := exists_exchange hrun hs
  have hout' : ¬(w'.memory.objects.find? key).isSome := by simp [hout]
  have hkey : key = (jobs i).rawKey := by
    by_contra hne
    exact hout' (hx.isSome_find? hne hin)
  subst hkey
  have hne : w'.memory.objects.find? (jobs i).rawKey ≠ w.memory.objects.find? (jobs i).rawKey := by
    intro heq
    exact hout' (heq ▸ hin)
  obtain ⟨raw, pair, rfl, rfl, rfl, -⟩ := hx.published_of_ne (hsound.isRawKey hx) hne
  exact ⟨rfl, rfl, raw, pair, hsound.1, hsound.2, hpos, hsound'.2⟩

/-- However the calls of commits with distinct tokens interleave with each other and with uploads
and failures: a commit that succeeds has read one upload, once, and has published for good what its
reply names, made from that upload; a commit changes nothing under the keys of another; and one
that is refused has removed nothing that clients uploaded. -/
theorem commits_are_isolated (sanitize : Sanitizer) (publicBase : String) (jobs : ι → Job)
    (m : Memory) (hd : Distinct jobs) {acts : List (Act ι)} {w : World ι}
    (h : Run (start (sanitize.publisher publicBase) jobs m) acts w) :
    (∀ i publication, w.position i = .done (.ok publication) →
      ∃ raw full thumbnail,
        ReadFrom jobs (start (sanitize.publisher publicBase) jobs m) acts w i raw ∧
        sanitize raw .full = .rendition full ∧
        sanitize raw .thumbnail = .rendition thumbnail ∧
        publication =
          { fullUrl := publicBase ++ "/" ++ (jobs i).keys.full
            thumbnailUrl := publicBase ++ "/" ++ (jobs i).keys.thumbnail
            width := full.width
            height := full.height
            bytes := full.data.size
            createdAt := (jobs i).now } ∧
        ∀ more w', Run w more w' →
          w'.memory.objects.find? (jobs i).keys.full =
              some ⟨full.data, Publisher.options⟩ ∧
            w'.memory.objects.find? (jobs i).keys.thumbnail =
              some ⟨thumbnail.data, Publisher.options⟩) ∧
      (∀ i k call w' key, Step w (.call k call) w' → i ≠ k → (jobs i).keys.Has key →
        w'.memory.objects.find? key = w.memory.objects.find? key) ∧
      ∀ i e, w.position i = .done (.error e) → ∀ before call after w₁ w₂,
        acts = before ++ .call i call :: after →
        Run (start (sanitize.publisher publicBase) jobs m) before w₁ →
        Step w₁ (.call i call) w₂ → Run w₂ after w → ∀ key, isRawKey key = true →
          w₂.memory.objects.find? key = w₁.memory.objects.find? key := by
  refine ⟨?_, ?_, ?_⟩
  · intro i publication hi
    obtain ⟨phase, hpos, hsound⟩ := coherent_of_run h i
    obtain ⟨raw, pair, rfl, rfl⟩ := eq_published_of_position (hpos.symm.trans hi)
    obtain ⟨hobtained, hwritten⟩ := hsound
    obtain ⟨hfull, hthumbnail⟩ := twoPasses_eq_some_iff.mp hobtained.renders.rendered
    refine ⟨raw, pair.full, pair.thumbnail, hobtained.read, hfull, hthumbnail, rfl, ?_⟩
    intro more w' hmore
    have hkept := written_of_run h hpos hwritten hmore
    exact ⟨(hkept.full rfl).2 hd, (hkept.thumbnail rfl).2 hd⟩
  · intro i k call w' key hs hik hkey
    exact find?_of_call hd h hs hik hkey
  · intro i e he before call after w₁ w₂ _ hbefore hs hafter key hkey
    exact find?_of_refused hbefore hs hafter he hkey

end World

namespace Sample

open World

def other : Job := { job with token := ⟨"ffeeddccbbaa99887766554433221100", by decide⟩ }

def jobs : Bool → Job
  | true => job
  | false => other

theorem distinct_jobs : Distinct jobs := by
  intro i k h
  cases i <;> cases k
  · rfl
  · exact absurd (congrArg Token.text h) (by decide)
  · exact absurd (congrArg Token.text h) (by decide)
  · rfl

theorem renders_raw : publisher.Renders raw pair := ⟨by decide, by decide, rfl⟩

def world (one two : Phase) (m : Memory) : World Bool where
  memory := m
  position
    | true => one.position publisher job
    | false => two.position publisher other
  dropped _ := false

variable {one one' two two' : Phase} {m m' : Memory} {call : Call}

theorem step_job (h : Phase.Exchange publisher job (one, m) call (one', m')) :
    Step (world one two m) (.call true call) (world one' two m') := by
  have hpos : (world one' two m').position =
      Function.update (world one two m).position true (one'.position publisher job) := by
    funext b
    cases b <;> rfl
  have hstep := Step.call (w := world one two m) (i := true) rfl h.position
  rwa [← hpos] at hstep

theorem step_other (h : Phase.Exchange publisher other (two, m) call (two', m')) :
    Step (world one two m) (.call false call) (world one two' m') := by
  have hpos : (world one two' m').position =
      Function.update (world one two m).position false (two'.position publisher other) := by
    funext b
    cases b <;> rfl
  have hstep := Step.call (w := world one two m) (i := false) rfl h.position
  rwa [← hpos] at hstep

theorem start_jobs (m : Memory) :
    World.start publisher jobs m = world (.reading false) (.reading false) m := by
  have hstart (b : Bool) : (World.start publisher jobs m).position b =
      (Phase.reading false).position publisher (jobs b) := by
    have hphase : Phase.start (jobs b) = .reading false := by cases b <;> exact start_job
    rw [← hphase, Phase.position_start]
    rfl
  have hpos : (World.start publisher jobs m).position =
      (world (.reading false) (.reading false) m).position := by
    funext b
    rw [hstart]
    cases b <;> rfl
  exact congrArg (fun position => World.mk m position fun _ => false) hpos

def written : Memory :=
  (((stored.getObject job.rawKey Policy.maxUploadBytes).2.getObject job.rawKey
    Policy.maxUploadBytes).2.putObject (job.thumbnailWrite pair)).2.putObject
      (job.fullWrite pair) |>.2

def writing : List (Act Bool) :=
  [.upload job.rawKey raw "image/png", .call true job.read, .call false other.read,
    .call true (.put (job.thumbnailWrite pair)), .call true (.put (job.fullWrite pair))]

theorem run_writing : Run (World.start publisher jobs .empty) writing
    (world (.clearing raw pair false) (.writing raw pair .unasked .unasked) written) := by
  have hfind' : (stored.getObject job.rawKey Policy.maxUploadBytes).2.objects.find? other.rawKey =
      some ⟨raw, ⟨"image/png", none⟩⟩ := by
    rw [Memory.objects_getObject]
    exact find?_stored
  have hnone : stored.failingSuffix = none := rfl
  have hupload : Step (world (.reading false) (.reading false) .empty)
      (.upload job.rawKey raw "image/png") (world (.reading false) (.reading false) stored) :=
    .upload raw "image/png" isRawKey_job
  have h₁ := Walk.single hupload
  have h₂ := h₁.snoc (step_job (.read_found find?_stored renders_raw))
  have h₃ := h₂.snoc (step_other (.read_found hfind' renders_raw))
  have h₄ := h₃.snoc (step_job (.thumbnail_taken raw pair .unasked (by simp [hnone])))
  have h₅ := h₄.snoc (step_job (.full_taken raw pair .done (by simp [hnone])))
  rw [start_jobs]
  exact h₅

theorem step_delete :
    Step (world (.clearing raw pair false) (.writing raw pair .unasked .unasked) written)
      (.call true (.delete job.rawKey))
      (world (.published raw pair) (.writing raw pair .unasked .unasked)
        (written.deleteObject job.rawKey).2) :=
  step_job .delete

end Sample

namespace World

variable {ι : Type} [DecidableEq ι]

theorem commits_are_isolated_same_upload :
    Distinct Sample.jobs ∧
      ∃ w raw full, Run (start Sample.publisher Sample.jobs .empty)
          (Sample.writing ++ [.call true (.delete Sample.job.rawKey)]) w ∧
        ReadFrom Sample.jobs (start Sample.publisher Sample.jobs .empty)
          (Sample.writing ++ [.call true (.delete Sample.job.rawKey)]) w true raw ∧
        Sample.sanitize raw .full = .rendition full ∧
        w.memory.objects.find? Sample.job.keys.full = some ⟨full.data, Publisher.options⟩ := by
  have hrun := Sample.run_writing.snoc Sample.step_delete
  obtain ⟨raw, full, thumbnail, hread, hfull, -, -, hkept⟩ :=
    (commits_are_isolated Sample.sanitize Sample.publicBase Sample.jobs .empty
      Sample.distinct_jobs hrun).1 true _ rfl
  exact ⟨Sample.distinct_jobs, _, raw, full, hrun, hread, hfull, (hkept [] _ (.refl _)).1⟩

theorem removed_only_when_published (p : Publisher) (jobs : ι → Job) (m : Memory)
    {before after : List (Act ι)} {w₁ w₂ w : World ι} {i : ι} {call : Call} {key : String}
    (hbefore : Run (start p jobs m) before w₁) (hs : Step w₁ (.call i call) w₂)
    (hafter : Run w₂ after w) (hin : (w₁.memory.objects.find? key).isSome)
    (hout : w₂.memory.objects.find? key = none) :
    call = .delete key ∧ key = (jobs i).rawKey ∧ isRawKey key = true ∧
      ∃ raw pair, ReadFrom jobs (start p jobs m) before w₁ i raw ∧ p.Renders raw pair ∧
        (Kept jobs w₁.memory ((jobs i).fullWrite pair) ∧
          Kept jobs w₁.memory ((jobs i).thumbnailWrite pair)) ∧
        Kept jobs w.memory ((jobs i).fullWrite pair) ∧
          Kept jobs w.memory ((jobs i).thumbnailWrite pair) := by
  obtain ⟨rfl, rfl, raw, pair, hobtained, hwritten, hpos, hwritten'⟩ :=
    cleared_of_removed hbefore hs hin hout
  have hkept := written_of_run (hbefore.snoc hs) hpos hwritten' hafter
  exact ⟨rfl, rfl, hobtained.rawKey, raw, pair, hobtained.read, hobtained.renders,
    ⟨hwritten.full rfl, hwritten.thumbnail rfl⟩, hkept.full rfl, hkept.thumbnail rfl⟩

theorem removed_only_when_published_dropped :
    ∃ w, (Sample.written.objects.find? Sample.job.rawKey).isSome = true ∧
      (Sample.written.deleteObject Sample.job.rawKey).2.objects.find? Sample.job.rawKey = none ∧
      Run (start Sample.publisher Sample.jobs .empty)
        (Sample.writing ++ [.call true (.delete Sample.job.rawKey)] ++ [.drop false]) w ∧
      (w.memory.objects.find? Sample.job.keys.full).isSome ∧
      (w.memory.objects.find? Sample.job.keys.thumbnail).isSome := by
  have hin : (Sample.written.objects.find? Sample.job.rawKey).isSome = true := by decide +kernel
  have hout : (Sample.written.deleteObject Sample.job.rawKey).2.objects.find?
      Sample.job.rawKey = none := Option.isNone_iff_eq_none.mp (by decide +kernel)
  have hdeleted := Sample.run_writing.snoc Sample.step_delete
  have hdropped := hdeleted.snoc (.drop false)
  obtain ⟨-, -, -, raw, pair, -, -, -, hfull, hthumbnail⟩ :=
    removed_only_when_published Sample.publisher Sample.jobs .empty Sample.run_writing
      Sample.step_delete (.single (.drop false)) hin hout
  exact ⟨_, hin, hout, hdropped, hfull.1, hthumbnail.1⟩

end World

end ImageIntake
