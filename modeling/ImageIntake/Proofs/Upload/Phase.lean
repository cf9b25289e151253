import ImageIntake.Proofs.Rendering
import ImageIntake.Proofs.Store.Conversation
import ImageIntake.Upload.Commit

namespace ImageIntake

structure Job where
  token : Token
  now : Instant
  post : String
  rawKey : String

namespace Job

def keys (j : Job) : PublishedKeys := .of j.post j.token.text

def read (j : Job) : Call := .get j.rawKey Policy.maxUploadBytes

def fullWrite (j : Job) (pair : RenditionPair) : Write :=
  ⟨j.keys.full, pair.full.data, Publisher.options⟩

def thumbnailWrite (j : Job) (pair : RenditionPair) : Write :=
  ⟨j.keys.thumbnail, pair.thumbnail.data, Publisher.options⟩

end Job

def Sanitizer.publisher (sanitize : Sanitizer) (publicBase : String) : Publisher :=
  ⟨publicBase, twoPasses sanitize⟩

inductive Phase where
  | reading (asked : Bool)
  | writing (raw : ByteArray) (pair : RenditionPair) (one two : Progress)
  | clearing (raw : ByteArray) (pair : RenditionPair) (asked : Bool)
  | published (raw : ByteArray) (pair : RenditionPair)
  | refused (e : UploadError)

namespace Publisher

def run (p : Publisher) (j : Job) : Program (Except UploadError Publication) :=
  p.commit j.token j.now j.post j.rawKey

def afterRead (p : Publisher) (j : Job) (answer : Answer ByteArray) :
    Program (Except UploadError Publication) :=
  match answer with
  | .error (.tooLarge _ _) => .done (.error (.invalid .tooLarge))
  | .error _ => .done (.error .notFound)
  | .ok raw => p.publishUpload j.keys j.rawKey j.now raw

def afterWrites (p : Publisher) (j : Job) (pair : RenditionPair) (answer : Answer Unit) :
    Program (Except UploadError Publication) :=
  match answer with
  | .error cause => .done (.error (.storage cause))
  | .ok () => .delete j.rawKey fun _ => .done (.ok (p.publication j.keys pair.full j.now))

theorem run_of_isRawKey (p : Publisher) {j : Job} (h : isRawKey j.rawKey = true) :
    p.run j = .get j.rawKey Policy.maxUploadBytes (p.afterRead j) := by
  rw [run, commit, if_pos h]
  rfl

theorem run_of_not_isRawKey (p : Publisher) {j : Job} (h : isRawKey j.rawKey = false) :
    p.run j = .done (.error .notFound) := by
  rw [run, commit, if_neg (by simp [h])]

theorem publish_eq (p : Publisher) (j : Job) (pair : RenditionPair) :
    p.publish j.keys j.rawKey j.now pair =
      .putBoth (j.fullWrite pair) (j.thumbnailWrite pair) (p.afterWrites j pair) := rfl

end Publisher

namespace Phase

variable (p : Publisher) (j : Job)

def position : Phase → Position (Except UploadError Publication)
  | .reading asked => .get j.rawKey Policy.maxUploadBytes (p.afterRead j) asked
  | .writing _ pair one two =>
      .putBoth (j.fullWrite pair) (j.thumbnailWrite pair) one two (p.afterWrites j pair)
  | .clearing _ pair asked =>
      .delete j.rawKey (fun _ => .done (.ok (p.publication j.keys pair.full j.now))) asked
  | .published _ pair => .done (.ok (p.publication j.keys pair.full j.now))
  | .refused e => .done (.error e)

def start : Phase := if isRawKey j.rawKey then .reading false else .refused .notFound

def ofRead (answer : Answer ByteArray) : Phase :=
  match answer with
  | .error (.tooLarge _ _) => .refused (.invalid .tooLarge)
  | .error _ => .refused .notFound
  | .ok raw =>
      if raw.size = 0 then .refused (.invalid .empty)
      else if Policy.maxUploadBytes < raw.size then .refused (.invalid .tooLarge)
      else match p.render raw with
        | none => .refused (.invalid .notAnImage)
        | some pair => .writing raw pair .unasked .unasked

variable {p} in
theorem ofRead_eq_writing {raw : ByteArray} {pair : RenditionPair} (hs : raw.size ≠ 0)
    (hl : raw.size ≤ Policy.maxUploadBytes) (hr : p.render raw = some pair) :
    ofRead p (.ok raw) = .writing raw pair .unasked .unasked := by
  simp only [ofRead, if_neg hs, if_neg (Nat.not_lt.mpr hl), hr]

def ofWrite (raw : ByteArray) (pair : RenditionPair) (one two : Progress) : Phase :=
  if one = .done ∧ two = .done then .clearing raw pair false else .writing raw pair one two

inductive Step : Phase → Event → Phase → Prop where
  | askRead : Step (.reading false) (.asks j.read) (.reading true)
  | hearRead (answer) : Step (.reading true) (.reads j.rawKey answer) (ofRead p answer)
  | askFull {raw pair two} :
      Step (.writing raw pair .unasked two) (.asks (.put (j.fullWrite pair)))
        (.writing raw pair .asked two)
  | askThumbnail {raw pair one} :
      Step (.writing raw pair one .unasked) (.asks (.put (j.thumbnailWrite pair)))
        (.writing raw pair one .asked)
  | fullDone {raw pair two} :
      Step (.writing raw pair .asked two) (.writes (j.fullWrite pair) (.ok ()))
        (ofWrite raw pair .done two)
  | thumbnailDone {raw pair one} :
      Step (.writing raw pair one .asked) (.writes (j.thumbnailWrite pair) (.ok ()))
        (ofWrite raw pair one .done)
  | fullRefused {raw pair two} (cause) :
      Step (.writing raw pair .asked two) (.writes (j.fullWrite pair) (.error cause))
        (.refused (.storage cause))
  | thumbnailRefused {raw pair one} (cause) :
      Step (.writing raw pair one .asked) (.writes (j.thumbnailWrite pair) (.error cause))
        (.refused (.storage cause))
  | askDelete {raw pair} :
      Step (.clearing raw pair false) (.asks (.delete j.rawKey)) (.clearing raw pair true)
  | hearDelete {raw pair} (answer) :
      Step (.clearing raw pair true) (.deletes j.rawKey answer) (.published raw pair)

theorem position_start : (start j).position p j = Position.start (p.run j) := by
  rw [start]
  split
  · next h => rw [p.run_of_isRawKey h]; rfl
  · next h => rw [p.run_of_not_isRawKey (by simpa using h)]; rfl

theorem position_ofRead (answer : Answer ByteArray) :
    (ofRead p answer).position p j = Position.start (p.afterRead j answer) := by
  rcases answer with cause | raw
  · cases cause <;> rfl
  · simp only [ofRead, Publisher.afterRead, Publisher.publishUpload]
    split
    · rfl
    · split
      · rfl
      · cases p.render raw with
        | none => rfl
        | some pair => simp only [p.publish_eq]; rfl

theorem position_ofWrite (raw : ByteArray) (pair : RenditionPair) (one two : Progress) :
    (ofWrite raw pair one two).position p j =
      Position.afterWrite (j.fullWrite pair) (j.thumbnailWrite pair) one two
        (p.afterWrites j pair) := by
  rw [ofWrite, Position.afterWrite]
  split <;> rfl

theorem step_of_step {phase : Phase} {e : Event} {pos : Position (Except UploadError Publication)}
    (h : Position.Step (phase.position p j) e pos) :
    ∃ phase', Step p j phase e phase' ∧ pos = phase'.position p j := by
  cases phase with
  | reading asked =>
      cases h with
      | askGet => exact ⟨_, .askRead, rfl⟩
      | hearGet answer => exact ⟨_, .hearRead answer, (position_ofRead p j answer).symm⟩
  | writing raw pair one two =>
      cases h with
      | askFirst => exact ⟨_, .askFull, rfl⟩
      | askSecond => exact ⟨_, .askThumbnail, rfl⟩
      | firstDone => exact ⟨_, .fullDone, (position_ofWrite p j raw pair .done two).symm⟩
      | secondDone => exact ⟨_, .thumbnailDone, (position_ofWrite p j raw pair one .done).symm⟩
      | firstRefused cause => exact ⟨_, .fullRefused cause, rfl⟩
      | secondRefused cause => exact ⟨_, .thumbnailRefused cause, rfl⟩
  | clearing raw pair asked =>
      cases h with
      | askDelete => exact ⟨_, .askDelete, rfl⟩
      | hearDelete answer => exact ⟨_, .hearDelete answer, rfl⟩
  | published raw pair => cases h
  | refused e => cases h

variable {p j} in
theorem Step.position {phase phase' : Phase} {e : Event} (h : Step p j phase e phase') :
    Position.Step (phase.position p j) e (phase'.position p j) := by
  cases h with
  | askRead => exact .askGet
  | hearRead answer => rw [position_ofRead]; exact .hearGet answer
  | askFull => exact .askFirst
  | askThumbnail => exact .askSecond
  | fullDone => rw [position_ofWrite]; exact .firstDone
  | thumbnailDone => rw [position_ofWrite]; exact .secondDone
  | fullRefused cause => exact .firstRefused cause
  | thumbnailRefused cause => exact .secondRefused cause
  | askDelete => exact .askDelete
  | hearDelete answer => exact .hearDelete answer

theorem converses_of_walk {phase phase' : Phase} {trace : List Event}
    (h : Walk (Step p j) phase trace phase') :
    Position.Converses (phase.position p j) trace (phase'.position p j) := by
  induction h with
  | refl => exact .refl _
  | snoc _ hstep ih => exact ih.snoc hstep.position

theorem walk_of_converses {phase : Phase} {trace : List Event}
    {pos : Position (Except UploadError Publication)}
    (h : Position.Converses (phase.position p j) trace pos) :
    ∃ phase', Walk (Step p j) phase trace phase' ∧ pos = phase'.position p j := by
  generalize hs : phase.position p j = start at h
  induction h with
  | refl => exact ⟨phase, .refl _, hs.symm⟩
  | snoc _ hstep ih =>
      obtain ⟨mid, hw, rfl⟩ := ih
      obtain ⟨phase', hp, rfl⟩ := step_of_step p j hstep
      exact ⟨phase', hw.snoc hp, rfl⟩

end Phase

namespace Sample

def job : Job where
  token := ⟨"00112233445566778899aabbccddeeff", by decide⟩
  now := ⟨0, 0⟩
  post := "post42"
  rawKey := "raw/0123456789abcdef0123456789abcdef.png"

def sanitize : Sanitizer := fun raw _ => .rendition ⟨raw, 1, 1⟩

def publicBase : String := "https://cdn.example.com"

def publisher : Publisher := sanitize.publisher publicBase

def raw : ByteArray := ⟨#[7]⟩

def pair : RenditionPair := ⟨⟨raw, 1, 1⟩, ⟨raw, 1, 1⟩⟩

theorem isRawKey_job : isRawKey job.rawKey = true := by decide

theorem start_job : Phase.start job = .reading false := if_pos isRawKey_job

end Sample

end ImageIntake
