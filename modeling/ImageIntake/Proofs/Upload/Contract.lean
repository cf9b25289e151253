import ImageIntake.Proofs.Upload.History
import Mathlib.Data.List.Permutation

namespace ImageIntake

namespace Job

def publishing (j : Job) (pair : RenditionPair) : List (List Call) :=
  let full := .put (j.fullWrite pair)
  let thumbnail := .put (j.thumbnailWrite pair)
  let delete := .delete j.rawKey
  [[j.read, full], [j.read, thumbnail], [j.read, full, thumbnail], [j.read, thumbnail, full],
    [j.read, full, thumbnail, delete], [j.read, thumbnail, full, delete]]

theorem fullWrite_ne_thumbnailWrite (j : Job) (pair pair' : RenditionPair) :
    j.fullWrite pair ≠ j.thumbnailWrite pair' := by
  intro h
  exact PublishedKeys.full_ne_thumbnail j.post j.post j.token j.token (congrArg Write.key h)

def WroteBoth (j : Job) (trace : List Event) : Prop :=
  ∃ pair, .writes (j.fullWrite pair) (.ok ()) ∈ trace ∧
    .writes (j.thumbnailWrite pair) (.ok ()) ∈ trace

end Job

structure Orderly (sanitize : Sanitizer) (j : Job) (trace : List Event) : Prop where
  calls : callsIn trace = [] ∨ callsIn trace = [j.read] ∨
    ∃ pair, callsIn trace ∈ j.publishing pair
  puts : ∀ before after w, trace = before ++ .asks (.put w) :: after →
    ∃ raw pair, .reads j.rawKey (.ok raw) ∈ before ∧
      1 ≤ raw.size ∧ raw.size ≤ Policy.maxUploadBytes ∧
      sanitize raw .full = .rendition pair.full ∧
      sanitize raw .thumbnail = .rendition pair.thumbnail ∧
      (w = j.fullWrite pair ∨ w = j.thumbnailWrite pair)
  deletes : ∀ before after key, trace = before ++ .asks (.delete key) :: after →
    key = j.rawKey ∧ j.WroteBoth before

structure Concluded (sanitize : Sanitizer) (publicBase : String) (j : Job) (trace : List Event)
    (result : Except UploadError Publication) : Prop where
  silent_iff : callsIn trace = [] ↔ isRawKey j.rawKey = false
  delete_iff : .asks (.delete j.rawKey) ∈ trace ↔ j.WroteBoth trace
  notFound_iff : result = .error .notFound ↔ isRawKey j.rawKey = false ∨
    ∃ cause, .reads j.rawKey (.error cause) ∈ trace ∧ ∀ key limit, cause ≠ .tooLarge key limit
  tooLarge_iff : result = .error (.invalid .tooLarge) ↔
    (∃ key limit, .reads j.rawKey (.error (.tooLarge key limit)) ∈ trace) ∨
      ∃ raw, .reads j.rawKey (.ok raw) ∈ trace ∧ Policy.maxUploadBytes < raw.size
  empty_iff : result = .error (.invalid .empty) ↔
    ∃ raw, .reads j.rawKey (.ok raw) ∈ trace ∧ raw.size = 0
  notAnImage_iff : result = .error (.invalid .notAnImage) ↔
    ∃ raw, .reads j.rawKey (.ok raw) ∈ trace ∧
      1 ≤ raw.size ∧ raw.size ≤ Policy.maxUploadBytes ∧
      ¬∃ full thumbnail, sanitize raw .full = .rendition full ∧
        sanitize raw .thumbnail = .rendition thumbnail
  storage_iff : ∀ cause, result = .error (.storage cause) ↔
    ∃ w, j.keys.Has w.key ∧ .writes w (.error cause) ∈ trace
  ok_iff : ∀ publication, result = .ok publication ↔
    ∃ raw pair, .reads j.rawKey (.ok raw) ∈ trace ∧
      sanitize raw .full = .rendition pair.full ∧
      .writes (j.fullWrite pair) (.ok ()) ∈ trace ∧
      .writes (j.thumbnailWrite pair) (.ok ()) ∈ trace ∧
      publication = (sanitize.publisher publicBase).publication j.keys pair.full j.now
  covered : (∃ publication, result = .ok publication) ∨ result = .error .notFound ∨
    (∃ reason, result = .error (.invalid reason)) ∨ ∃ cause, result = .error (.storage cause)

namespace Puts

variable {first second : Write} {one two : Progress} {es : List Event}

theorem callsIn_mem (h : Puts first second one two es) :
    callsIn es ∈ [[], [.put first], [.put second], [.put first, .put second],
      [.put second, .put first]] := by
  have hp := h.callsIn_perm
  cases one <;> cases two <;> simp_all [callsOf, List.perm_pair]

theorem callsIn_done (h : Puts first second .done .done es) :
    callsIn es = [.put first, .put second] ∨ callsIn es = [.put second, .put first] :=
  List.perm_pair.mp h.callsIn_perm

theorem not_mem_delete (h : Puts first second one two es) (key : String) :
    .asks (.delete key) ∉ es := by
  rw [h.mem_iff]
  simp

end Puts

theorem Puts.mem_fullDone {j : Job} {pair : RenditionPair} {one two : Progress}
    {es : List Event} (h : Puts (j.fullWrite pair) (j.thumbnailWrite pair) one two es)
    (pair' : RenditionPair) :
    .writes (j.fullWrite pair') (.ok ()) ∈ es ↔
      j.fullWrite pair' = j.fullWrite pair ∧ one = .done := by
  rw [h.mem_iff]
  simp [j.fullWrite_ne_thumbnailWrite]

theorem Puts.mem_thumbnailDone {j : Job} {pair : RenditionPair} {one two : Progress}
    {es : List Event} (h : Puts (j.fullWrite pair) (j.thumbnailWrite pair) one two es)
    (pair' : RenditionPair) :
    .writes (j.thumbnailWrite pair') (.ok ()) ∈ es ↔
      j.thumbnailWrite pair' = j.thumbnailWrite pair ∧ two = .done := by
  rw [h.mem_iff]
  simp [(j.fullWrite_ne_thumbnailWrite _ _).symm]

theorem prefix_of_not_mem {l rest before after : List Event} {e : Event}
    (h : l ++ rest = before ++ e :: after) (he : e ∉ l) : l <+: before := by
  rcases List.append_eq_append_iff.mp h with ⟨mid, rfl, -⟩ | ⟨mid, rfl, hmid⟩
  · exact List.prefix_append _ _
  · cases mid with
    | nil => simp
    | cons d mid =>
        obtain ⟨rfl, -⟩ := List.cons.inj hmid
        exact absurd (by simp) he

namespace History

variable {sanitize : Sanitizer} {publicBase : String} {j : Job} {trace : List Event}
  {phase : Phase}

theorem calls (h : History (sanitize.publisher publicBase) j trace phase) :
    callsIn trace = [] ∨ callsIn trace = [j.read] ∨
      ∃ pair, callsIn trace ∈ j.publishing pair := by
  cases h with
  | foreign | fresh => exact .inl rfl
  | asked | unread | tooLong | rejected => exact .inr (.inl rfl)
  | @writing raw pair one two puts _ _ hp _ =>
      have hm := hp.callsIn_mem
      refine .inr ?_
      simp only [callsIn_asks, callsIn_reads, Job.publishing]
      simp only [List.mem_cons, List.not_mem_nil, or_false] at hm
      rcases hm with hm | hm | hm | hm | hm <;> rw [hm]
      · exact .inl rfl
      all_goals exact .inr ⟨pair, by simp⟩
  | @unwritten raw pair one two puts w cause _ _ hp _ =>
      have hm := hp.callsIn_mem
      refine .inr ?_
      simp only [callsIn_asks, callsIn_reads, callsIn_append, callsIn_writes, callsIn_nil,
        List.append_nil, Job.publishing]
      simp only [List.mem_cons, List.not_mem_nil, or_false] at hm
      rcases hm with hm | hm | hm | hm | hm <;> rw [hm]
      · exact .inl rfl
      all_goals exact .inr ⟨pair, by simp⟩
  | @clearing raw pair puts _ _ hp =>
      refine .inr (.inr ⟨pair, ?_⟩)
      rcases hp.callsIn_done with hm | hm <;> simp [Job.publishing, hm]
  | @deleting raw pair puts _ _ hp =>
      refine .inr (.inr ⟨pair, ?_⟩)
      rcases hp.callsIn_done with hm | hm <;> simp [Job.publishing, hm]
  | @published raw pair puts answer _ _ hp =>
      refine .inr (.inr ⟨pair, ?_⟩)
      rcases hp.callsIn_done with hm | hm <;> simp [Job.publishing, hm]

theorem of_put (h : History (sanitize.publisher publicBase) j trace phase) {w : Write}
    (hw : .asks (.put w) ∈ trace) :
    ∃ raw pair rest, (sanitize.publisher publicBase).Renders raw pair ∧
      trace = [.asks j.read, .reads j.rawKey (.ok raw)] ++ rest ∧
      (w = j.fullWrite pair ∨ w = j.thumbnailWrite pair) := by
  have hput {pair : RenditionPair} {one two : Progress} {puts : List Event}
      (hp : Puts (j.fullWrite pair) (j.thumbnailWrite pair) one two puts)
      (hm : .asks (.put w) ∈ puts) : w = j.fullWrite pair ∨ w = j.thumbnailWrite pair := by
    rw [hp.mem_iff] at hm
    simp only [Event.asks.injEq, Call.put.injEq, reduceCtorEq, false_and, or_false] at hm
    exact hm.imp And.left And.left
  cases h with
  | foreign | fresh => simp at hw
  | asked | unread | tooLong | rejected => simp [Job.read] at hw
  | writing _ hr hp _ | clearing _ hr hp =>
      exact ⟨_, _, _, hr, rfl, hput hp (by simpa [Job.read] using hw)⟩
  | unwritten _ hr hp _ | deleting _ hr hp | published _ _ hr hp =>
      exact ⟨_, _, _, hr, rfl, hput hp (by simpa [Job.read] using hw)⟩

theorem of_delete (h : History (sanitize.publisher publicBase) j trace phase) {key : String}
    (hd : .asks (.delete key) ∈ trace) :
    key = j.rawKey ∧ ∃ raw pair puts rest,
      Puts (j.fullWrite pair) (j.thumbnailWrite pair) .done .done puts ∧
      trace = ([.asks j.read, .reads j.rawKey (.ok raw)] ++ puts) ++ rest := by
  cases h with
  | foreign | fresh => simp at hd
  | asked | unread | tooLong | rejected => simp [Job.read] at hd
  | writing _ _ hp _ | clearing _ _ hp =>
      exact absurd (by simpa [Job.read] using hd) (hp.not_mem_delete key)
  | unwritten _ _ hp _ =>
      exact absurd (by simpa [Job.read] using hd) (hp.not_mem_delete key)
  | deleting _ _ hp | published _ _ _ hp =>
      have hk := hp.not_mem_delete key
      exact ⟨by simpa [Job.read, hk] using hd, _, _, _, _, hp, rfl⟩

theorem orderly (h : History (sanitize.publisher publicBase) j trace phase) :
    Orderly sanitize j trace where
  calls := h.calls
  puts := by
    intro before after w ht
    obtain ⟨raw, pair, rest, hr, hrest, hw⟩ := h.of_put (w := w) (by simp [ht])
    -- the read and its answer are no put, so they come before any
    have hpre := prefix_of_not_mem (hrest.symm.trans ht) (by simp [Job.read])
    have hread : .reads j.rawKey (.ok raw) ∈ before := hpre.subset (by simp)
    obtain ⟨hf, hth⟩ := twoPasses_eq_some_iff.mp hr.rendered
    exact ⟨raw, pair, hread, Nat.pos_of_ne_zero hr.filled, hr.small, hf, hth, hw⟩
  deletes := by
    intro before after key ht
    have hmem : .asks (.delete key) ∈ trace := by simp [ht]
    obtain ⟨hkey, raw, pair, puts, rest, hp, hrest⟩ := h.of_delete hmem
    have hnot : .asks (.delete key) ∉ [Event.asks j.read, .reads j.rawKey (.ok raw)] ++ puts := by
      simp [Job.read, hp.not_mem_delete key]
    have hpre := prefix_of_not_mem (hrest.symm.trans ht) hnot
    refine ⟨hkey, pair, hpre.subset ?_, hpre.subset ?_⟩
    · exact List.mem_append_right _ ((hp.mem_iff _).mpr (by simp))
    · exact List.mem_append_right _ ((hp.mem_iff _).mpr (by simp))

theorem concluded_foreign (h : isRawKey j.rawKey = false) :
    Concluded sanitize publicBase j [] (.error .notFound) := by
  constructor <;> simp [h, Job.WroteBoth]

theorem concluded_unread (h : isRawKey j.rawKey = true) {cause : StoreError}
    (hc : ∀ key limit, cause ≠ .tooLarge key limit) :
    Concluded sanitize publicBase j [.asks j.read, .reads j.rawKey (.error cause)]
      (.error .notFound) := by
  have hc' : ∀ key limit, .tooLarge key limit ≠ cause := fun key limit => (hc key limit).symm
  constructor <;> simp [h, hc, hc', Job.read, Job.WroteBoth]

theorem concluded_tooLong (h : isRawKey j.rawKey = true) (key : String) (limit : Nat) :
    Concluded sanitize publicBase j
      [.asks j.read, .reads j.rawKey (.error (.tooLarge key limit))]
      (.error (.invalid .tooLarge)) := by
  constructor <;> simp [h, Job.read, Job.WroteBoth]

theorem concluded_rejected (h : isRawKey j.rawKey = true) {raw : ByteArray}
    {reason : InvalidUpload} (hr : (sanitize.publisher publicBase).Rejects raw reason) :
    Concluded sanitize publicBase j [.asks j.read, .reads j.rawKey (.ok raw)]
      (.error (.invalid reason)) := by
  have hmax : 0 < Policy.maxUploadBytes := by decide
  cases hr with
  | empty hs =>
      constructor <;> simp [h, hs, Job.read, Job.WroteBoth, -ByteArray.size_eq_zero_iff]
  | tooLarge hs =>
      have hn : raw.size ≠ 0 := by omega
      have hl : ¬raw.size ≤ Policy.maxUploadBytes := by omega
      constructor <;> simp [h, hs, hn, hl, Job.read, Job.WroteBoth, -ByteArray.size_eq_zero_iff]
  | notAnImage hs hl hn =>
      have hpair := twoPasses_eq_none_iff.mp hn
      have hpos : 1 ≤ raw.size := Nat.pos_of_ne_zero hs
      have hl' : ¬Policy.maxUploadBytes < raw.size := by omega
      constructor <;>
        simp [h, hs, hl, hl', hpos, Job.read, Job.WroteBoth, -ByteArray.size_eq_zero_iff]
      intro full hf thumbnail ht
      exact hpair ⟨full, thumbnail, hf, ht⟩

theorem concluded_unwritten (h : isRawKey j.rawKey = true) {raw : ByteArray}
    {pair : RenditionPair} (hr : (sanitize.publisher publicBase).Renders raw pair)
    {one two : Progress} {puts : List Event} {w : Write} (cause : StoreError)
    (hp : Puts (j.fullWrite pair) (j.thumbnailWrite pair) one two puts)
    (hw : w = j.fullWrite pair ∧ one = .asked ∨ w = j.thumbnailWrite pair ∧ two = .asked) :
    Concluded sanitize publicBase j
      (.asks j.read :: .reads j.rawKey (.ok raw) :: (puts ++ [.writes w (.error cause)]))
      (.error (.storage cause)) := by
  have hpos : 1 ≤ raw.size := Nat.pos_of_ne_zero hr.filled
  have hl : ¬Policy.maxUploadBytes < raw.size := Nat.not_lt.mpr hr.small
  obtain ⟨hf, ht⟩ := twoPasses_eq_some_iff.mp hr.rendered
  have hasks := hp.not_mem_delete j.rawKey
  have hfull := hp.mem_fullDone
  have hthumb := hp.mem_thumbnailDone
  rcases hw with ⟨rfl, rfl⟩ | ⟨rfl, rfl⟩
  · have hkey : j.keys.Has (j.fullWrite pair).key := .inl rfl
    constructor <;>
      simp [h, hr.filled, hr.small, hl, hpos, hf, ht, hasks, hfull, hthumb, hkey, hp.mem_iff,
        Job.read, Job.WroteBoth, -ByteArray.size_eq_zero_iff]
    exact fun _ => eq_comm
  · have hkey : j.keys.Has (j.thumbnailWrite pair).key := .inr rfl
    constructor <;>
      simp [h, hr.filled, hr.small, hl, hpos, hf, ht, hasks, hfull, hthumb, hkey, hp.mem_iff,
        Job.read, Job.WroteBoth, -ByteArray.size_eq_zero_iff]
    exact fun _ => eq_comm

theorem concluded_published (h : isRawKey j.rawKey = true) {raw : ByteArray}
    {pair : RenditionPair} (hr : (sanitize.publisher publicBase).Renders raw pair)
    {puts : List Event} (answer : Answer Unit)
    (hp : Puts (j.fullWrite pair) (j.thumbnailWrite pair) .done .done puts) :
    Concluded sanitize publicBase j
      (.asks j.read :: .reads j.rawKey (.ok raw) ::
        (puts ++ [.asks (.delete j.rawKey), .deletes j.rawKey answer]))
      (.ok ((sanitize.publisher publicBase).publication j.keys pair.full j.now)) := by
  have hpos : 1 ≤ raw.size := Nat.pos_of_ne_zero hr.filled
  have hl : ¬Policy.maxUploadBytes < raw.size := Nat.not_lt.mpr hr.small
  obtain ⟨hf, ht⟩ := twoPasses_eq_some_iff.mp hr.rendered
  have hfull := hp.mem_fullDone
  have hthumb := hp.mem_thumbnailDone
  constructor <;>
    simp [h, hr.filled, hr.small, hl, hpos, hf, ht, hfull, hthumb, hp.mem_iff,
      Job.read, Job.WroteBoth, -ByteArray.size_eq_zero_iff]
  · exact ⟨pair, rfl, rfl⟩
  · intro publication
    constructor
    · rintro rfl
      exact ⟨pair, rfl, rfl, rfl, rfl⟩
    · rintro ⟨pair', hpair, -, -, rfl⟩
      rw [hpair]

theorem concluded (h : History (sanitize.publisher publicBase) j trace phase)
    {result : Except UploadError Publication}
    (hr : Position.done result = phase.position (sanitize.publisher publicBase) j) :
    Concluded sanitize publicBase j trace result := by
  cases h with
  | fresh | asked | writing | clearing | deleting => cases hr
  | foreign hk => cases hr; exact concluded_foreign hk
  | unread hk hc => cases hr; exact concluded_unread hk hc
  | tooLong hk => cases hr; exact concluded_tooLong hk _ _
  | rejected hk hrej => cases hr; exact concluded_rejected hk hrej
  | unwritten hk hren hp hw => cases hr; exact concluded_unwritten hk hren _ hp hw
  | published answer hk hren hp => cases hr; exact concluded_published hk hren answer hp

theorem length_le (h : History (sanitize.publisher publicBase) j trace phase) :
    trace.length ≤ 8 := by
  cases h with
  | foreign | fresh | asked | unread | tooLong | rejected => simp
  | writing _ _ hp _ | unwritten _ _ hp _ | clearing _ _ hp | deleting _ _ hp
  | published _ _ _ hp =>
      have hlen := hp.length_le
      simp only [List.length_cons, List.length_append, List.length_nil]
      omega

end History

theorem twoPasses_congr {sanitize sanitize' : Sanitizer} {raw : ByteArray}
    (h : ∀ profile, sanitize raw profile = sanitize' raw profile) :
    twoPasses sanitize raw = twoPasses sanitize' raw := by
  rw [twoPasses, twoPasses, h, h]

theorem publishUpload_congr {sanitize sanitize' : Sanitizer}
    (h : ∀ raw profile, 1 ≤ raw.size → raw.size ≤ Policy.maxUploadBytes →
      sanitize raw profile = sanitize' raw profile) (publicBase : String) (j : Job)
    (raw : ByteArray) :
    (sanitize.publisher publicBase).publishUpload j.keys j.rawKey j.now raw =
      (sanitize'.publisher publicBase).publishUpload j.keys j.rawKey j.now raw := by
  rw [Publisher.publishUpload, Publisher.publishUpload]
  split
  · rfl
  · next hs =>
    split
    · rfl
    · next hl =>
      have hpair : (sanitize.publisher publicBase).render raw =
          (sanitize'.publisher publicBase).render raw :=
        twoPasses_congr fun profile =>
          h raw profile (Nat.pos_of_ne_zero hs) (Nat.le_of_not_lt hl)
      rw [hpair]
      rfl

theorem commit_congr {sanitize sanitize' : Sanitizer}
    (h : ∀ raw profile, 1 ≤ raw.size → raw.size ≤ Policy.maxUploadBytes →
      sanitize raw profile = sanitize' raw profile) (publicBase : String) (j : Job) :
    (sanitize.publisher publicBase).run j = (sanitize'.publisher publicBase).run j := by
  cases hraw : isRawKey j.rawKey with
  | false => rw [Publisher.run_of_not_isRawKey _ hraw, Publisher.run_of_not_isRawKey _ hraw]
  | true =>
      rw [Publisher.run_of_isRawKey _ hraw, Publisher.run_of_isRawKey _ hraw]
      congr 1
      funext answer
      rcases answer with cause | raw
      · cases cause <;> rfl
      · exact publishUpload_congr h publicBase j raw

/-- For any answers of the store and any outcome of the passes: what a commit calls is in order,
what it returns is as it was answered, it always comes to an end, and the sanitizer sees only
uploads of an allowed size. -/
theorem commit_in_order (sanitize : Sanitizer) (publicBase : String) (j : Job)
    {trace : List Event} {pos : Position (Except UploadError Publication)}
    (h : Position.Converses
      (.start ((sanitize.publisher publicBase).commit j.token j.now j.post j.rawKey)) trace pos) :
    Orderly sanitize j trace ∧
      (∀ result, pos = .done result → Concluded sanitize publicBase j trace result) ∧
      (trace.length ≤ 8 ∧ ∃ more result, Position.Converses pos more (.done result)) ∧
      ∀ sanitize' : Sanitizer,
        (∀ raw profile, 1 ≤ raw.size → raw.size ≤ Policy.maxUploadBytes →
          sanitize raw profile = sanitize' raw profile) →
        (sanitize.publisher publicBase).commit j.token j.now j.post j.rawKey =
          (sanitize'.publisher publicBase).commit j.token j.now j.post j.rawKey := by
  obtain ⟨phase, hh, rfl⟩ := History.of_converses (p := sanitize.publisher publicBase) h
  refine ⟨hh.orderly, fun result hr => hh.concluded hr.symm, ⟨hh.length_le, ?_⟩, ?_⟩
  · exact Position.converses_completes h
  · intro sanitize' hs
    exact commit_congr hs publicBase j

namespace Sample

theorem ofRead_raw :
    Phase.ofRead publisher (.ok raw) = .writing raw pair .unasked .unasked :=
  Phase.ofRead_eq_writing (by decide) (by decide) rfl

def publication : Publication := publisher.publication job.keys pair.full job.now

def conversation : List Event :=
  [.asks job.read, .reads job.rawKey (.ok raw), .asks (.put (job.thumbnailWrite pair)),
    .asks (.put (job.fullWrite pair)), .writes (job.fullWrite pair) (.ok ()),
    .writes (job.thumbnailWrite pair) (.ok ()), .asks (.delete job.rawKey),
    .deletes job.rawKey (.error (.transport "dispatch failure"))]

theorem converses_conversation :
    Position.Converses (.start (publisher.run job)) conversation (.done (.ok publication)) := by
  have hwalk : Walk (Phase.Step publisher job) (.reading false) conversation
      (.published raw pair) := by
    refine .cons .askRead (.cons (.hearRead _) ?_)
    rw [ofRead_raw]
    exact .cons .askThumbnail (.cons .askFull (.cons .fullDone (.cons .thumbnailDone
      (.cons .askDelete (.cons (.hearDelete _) (.refl _))))))
  have hconv := Phase.converses_of_walk publisher job hwalk
  rwa [← start_job, Phase.position_start] at hconv

end Sample

theorem commit_in_order_undeleted :
    Position.Converses (.start (Sample.publisher.commit Sample.job.token Sample.job.now
        Sample.job.post Sample.job.rawKey)) Sample.conversation (.done (.ok Sample.publication)) ∧
      Orderly Sample.sanitize Sample.job Sample.conversation ∧
      Concluded Sample.sanitize Sample.publicBase Sample.job Sample.conversation
        (.ok Sample.publication) := by
  have hconv := Sample.converses_conversation
  have h := commit_in_order Sample.sanitize Sample.publicBase Sample.job hconv
  exact ⟨hconv, h.1, h.2.1 _ rfl⟩

end ImageIntake
