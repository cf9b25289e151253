import ImageIntake.Proofs.Upload.Concurrency

namespace ImageIntake

def Act.upload? {ι : Type} (key : String) : Act ι → Option StoredObject
  | .upload other body contentType =>
      if other = key then some ⟨body, ⟨contentType, none⟩⟩ else none
  | _ => none

namespace World

variable {ι : Type}

def newest (key : String) (acts : List (Act ι)) : Option StoredObject :=
  (acts.filterMap (Act.upload? key)).getLast?

theorem newest_snoc (key : String) (acts : List (Act ι)) (act : Act ι) :
    newest key (acts ++ [act]) = (act.upload? key).or (newest key acts) := by
  rw [newest, newest, List.filterMap_append]
  cases hact : act.upload? key with
  | none => simp [hact]
  | some object => simp [hact]

variable [DecidableEq ι] {p : Publisher} {jobs : ι → Job} {m : Memory}

theorem Step.find?_eq_uploaded {acts : List (Act ι)} {w w' : World ι} {act : Act ι}
    (hrun : Run (start p jobs m) acts w) (hs : Step w act w') {key : String}
    (hkey : isRawKey key = true) {object : StoredObject}
    (hf : w'.memory.objects.find? key = some object) :
    some object = (act.upload? key).or (w.memory.objects.find? key) := by
  cases act with
  | call i call =>
      obtain ⟨phase, phase', hx, -, -, -⟩ := exists_exchange hrun hs
      exact (hx.find?_of_raw hkey hf).symm
  | upload other body contentType =>
      cases hs with
      | upload =>
          rw [w.memory.find?_upload] at hf
          rw [Act.upload?, ← hf]
          split <;> rfl
  | drop | failPuts | failDeletes =>
      cases hs
      exact hf.symm

theorem find?_eq_newest {before later : List (Act ι)} {w w' : World ι}
    (hrun : Run (start p jobs m) before w) (hlater : Run w later w') {key : String}
    (hkey : isRawKey key = true) {object : StoredObject}
    (hf : w'.memory.objects.find? key = some object) :
    some object = (newest key later).or (w.memory.objects.find? key) := by
  -- the last act decides if it uploads there, else what stands there has stood there before it
  induction hlater generalizing object with
  | refl => exact hf.symm
  | @snoc t u es act hwalk hs ih =>
      have hstep := Step.find?_eq_uploaded (hrun.append hwalk) hs hkey hf
      rw [newest_snoc]
      cases hact : act.upload? key with
      | none =>
          rw [hact, Option.none_or] at hstep
          exact ih hstep.symm
      | some uploaded =>
          rw [hact, Option.some_or] at hstep
          exact hstep

theorem Step.objects_of_get {w w' : World ι} {i : ι} {key : String} {limit : Nat}
    (h : Step w (.call i (.get key limit)) w') : w'.memory.objects = w.memory.objects := by
  cases h with
  | call _ hx =>
      cases hx with
      | intro _ _ => exact w.memory.objects_getObject key limit

/-- However the calls of commits interleave with uploads and failures: what a commit removes stands
under its own raw key, after the commit has read an upload there and has both of its images in the
store. It is that upload, or the newest of those that clients have made to the key since. -/
theorem removes_the_newest_upload (p : Publisher) (jobs : ι → Job) (m : Memory)
    {before : List (Act ι)} {w₁ w₂ : World ι} {i : ι} {call : Call} {key : String}
    {object : StoredObject} (hbefore : Run (start p jobs m) before w₁)
    (hs : Step w₁ (.call i call) w₂) (hin : w₁.memory.objects.find? key = some object)
    (hout : w₂.memory.objects.find? key = none) :
    call = .delete key ∧ key = (jobs i).rawKey ∧
      ∃ earlier later w upload pair, before = earlier ++ .call i (jobs i).read :: later ∧
        .call i (jobs i).read ∉ earlier ∧ .call i (jobs i).read ∉ later ∧
        Run (start p jobs m) earlier w ∧ w.memory.objects.find? key = some upload ∧
        p.Renders upload.body pair ∧
        Kept jobs w₁.memory ((jobs i).fullWrite pair) ∧
        Kept jobs w₁.memory ((jobs i).thumbnailWrite pair) ∧
        object = (newest key later).getD upload := by
  have hsome : (w₁.memory.objects.find? key).isSome := by rw [hin]; rfl
  obtain ⟨rfl, rfl, raw, pair, hobtained, hwritten, -, -⟩ := cleared_of_removed hbefore hs hsome hout
  obtain ⟨earlier, later, w, w', upload, hacts, hearlier, hlater, hrun, hread, hmore, hfind, rfl⟩ :=
    hobtained.read
  -- the read removes nothing, so the upload that it found is what later ones replace
  have hnewest := find?_eq_newest (hrun.snoc hread) hmore hobtained.rawKey hin
  rw [hread.objects_of_get, hfind, Option.or_some] at hnewest
  exact ⟨rfl, rfl, earlier, later, w, upload, pair, hacts, hearlier, hlater, hrun, hfind,
    hobtained.renders, hwritten.full rfl, hwritten.thumbnail rfl, Option.some.inj hnewest⟩

end World

namespace Sample

open World

def alone (phase : Phase) (m : Memory) : World Unit where
  memory := m
  position _ := phase.position publisher job
  dropped _ := false

theorem start_alone (m : Memory) :
    World.start publisher (fun _ : Unit => job) m = alone (.reading false) m := by
  have hpos : (World.start publisher (fun _ : Unit => job) m).position =
      (alone (.reading false) m).position := by
    funext i
    rw [World.position_start, ← start_job]
    exact (Phase.position_start publisher job).symm
  exact congrArg (fun position => World.mk m position fun _ => false) hpos

theorem step_alone {phase phase' : Phase} {m m' : Memory} {call : Call}
    (h : Phase.Exchange publisher job (phase, m) call (phase', m')) :
    Step (alone phase m) (.call () call) (alone phase' m') := by
  have hpos : (alone phase' m').position =
      Function.update (alone phase m).position () (phase'.position publisher job) := by
    funext _
    rfl
  have hstep := Step.call (w := alone phase m) (i := ()) rfl h.position
  rwa [← hpos] at hstep

def retake : ByteArray := ⟨#[8]⟩

def retaken : Memory :=
  (stored.getObject job.rawKey Policy.maxUploadBytes).2.upload job.rawKey retake "image/png"

def retakenPublished : Memory :=
  ((retaken.putObject (job.fullWrite pair)).2.putObject (job.thumbnailWrite pair)).2

def retaking : List (Act Unit) :=
  [.upload job.rawKey retake "image/png", .call () (.put (job.fullWrite pair)),
    .call () (.put (job.thumbnailWrite pair))]

theorem run_upload : Run (World.start publisher (fun _ : Unit => job) .empty)
    [.upload job.rawKey raw "image/png"] (alone (.reading false) stored) := by
  rw [start_alone]
  exact .single (.upload raw "image/png" isRawKey_job)

theorem step_read : Step (alone (.reading false) stored) (.call () job.read)
    (alone (.writing raw pair .unasked .unasked)
      (stored.getObject job.rawKey Policy.maxUploadBytes).2) :=
  step_alone (.read_found find?_stored renders_raw)

theorem run_retaking : Run
    (alone (.writing raw pair .unasked .unasked)
      (stored.getObject job.rawKey Policy.maxUploadBytes).2) retaking
    (alone (.clearing raw pair false) retakenPublished) := by
  have hnone : retaken.failingSuffix = none := rfl
  have hupload : Step
      (alone (.writing raw pair .unasked .unasked)
        (stored.getObject job.rawKey Policy.maxUploadBytes).2)
      (.upload job.rawKey retake "image/png")
      (alone (.writing raw pair .unasked .unasked) retaken) :=
    .upload retake "image/png" isRawKey_job
  have hwritten := (Walk.single hupload).snoc
    (step_alone (.full_taken raw pair .unasked hnone))
  exact hwritten.snoc (step_alone (.thumbnail_taken raw pair .done (by simp [hnone])))

theorem run_retaken : Run (World.start publisher (fun _ : Unit => job) .empty)
    ([.upload job.rawKey raw "image/png"] ++ [.call () job.read] ++ retaking)
    (alone (.clearing raw pair false) retakenPublished) :=
  (run_upload.snoc step_read).append run_retaking

theorem readFrom_retaken : ReadFrom (fun _ : Unit => job)
    (World.start publisher (fun _ : Unit => job) .empty)
    ([.upload job.rawKey raw "image/png"] ++ [.call () job.read] ++ retaking)
    (alone (.clearing raw pair false) retakenPublished) () raw :=
  ⟨_, _, _, _, _, rfl, by simp, by simp [retaking, Job.read], run_upload, step_read, run_retaking,
    find?_stored, rfl⟩

theorem step_clearing :
    Step (alone (.clearing raw pair false) retakenPublished) (.call () (.delete job.rawKey))
      (alone (.published raw pair) (retakenPublished.deleteObject job.rawKey).2) :=
  step_alone .delete

theorem find?_retakenPublished :
    retakenPublished.objects.find? job.rawKey = some ⟨retake, ⟨"image/png", none⟩⟩ := by
  have hfull : job.rawKey ≠ job.keys.full :=
    (PublishedKeys.ne_rawKey job.keys.has_full isRawKey_job).symm
  have hthumbnail : job.rawKey ≠ job.keys.thumbnail :=
    (PublishedKeys.ne_rawKey job.keys.has_thumbnail isRawKey_job).symm
  rw [retakenPublished, Memory.find?_putObject_of_ne _ hthumbnail,
    Memory.find?_putObject_of_ne _ hfull, retaken, Memory.find?_upload, if_pos rfl]

theorem find?_retakenCleared :
    (retakenPublished.deleteObject job.rawKey).2.objects.find? job.rawKey = none :=
  Memory.find?_deleteObject_self rfl job.rawKey

end Sample

namespace World

theorem removes_unread_reupload :
    ¬∀ (before : List (Act Unit)) (w₁ w₂ : World Unit) (object : StoredObject) (raw : ByteArray),
      Run (start Sample.publisher (fun _ => Sample.job) .empty) before w₁ →
      Step w₁ (.call () (.delete Sample.job.rawKey)) w₂ →
      w₁.memory.objects.find? Sample.job.rawKey = some object →
      w₂.memory.objects.find? Sample.job.rawKey = none →
      ReadFrom (fun _ => Sample.job) (start Sample.publisher (fun _ => Sample.job) .empty) before
        w₁ () raw →
      object.body = raw := by
  intro hclaim
  have hsame : Sample.retake = Sample.raw := hclaim _ _ _ _ _ Sample.run_retaken
    Sample.step_clearing Sample.find?_retakenPublished Sample.find?_retakenCleared
    Sample.readFrom_retaken
  exact absurd hsame (by decide)

theorem removes_the_newest_upload_retaken :
    Sample.retakenPublished.objects.find? Sample.job.rawKey =
        some ⟨Sample.retake, ⟨"image/png", none⟩⟩ ∧
      (Sample.retakenPublished.deleteObject Sample.job.rawKey).2.objects.find?
        Sample.job.rawKey = none ∧
      ∃ earlier later upload, earlier ++ .call () Sample.job.read :: later =
          [.upload Sample.job.rawKey Sample.raw "image/png"] ++ [.call () Sample.job.read] ++
            Sample.retaking ∧
        (⟨Sample.retake, ⟨"image/png", none⟩⟩ : StoredObject) =
          (newest Sample.job.rawKey later).getD upload := by
  obtain ⟨-, -, earlier, later, w, upload, pair, hacts, -, -, -, -, -, -, -, hobject⟩ :=
    removes_the_newest_upload Sample.publisher (fun _ => Sample.job) .empty Sample.run_retaken
      Sample.step_clearing Sample.find?_retakenPublished Sample.find?_retakenCleared
  exact ⟨Sample.find?_retakenPublished, Sample.find?_retakenCleared, earlier, later, upload,
    hacts.symm, hobject⟩

end World

end ImageIntake
