import ImageIntake.Proofs.Http.Atomicity
import ImageIntake.Proofs.Http.Redemption
import ImageIntake.Proofs.Upload.Retry

namespace ImageIntake

theorem find?_of_other_token {p : Publisher} {j : Job} {m m' : Memory} {calls : List Call}
    {result : Except UploadError Publication} {post key : String} {token : Token}
    (hkey : (PublishedKeys.of post token.text).Has key) (hne : token ≠ j.token)
    (h : Walk Position.Exchange (.start (p.run j), m) calls (.done result, m')) :
    m'.objects.find? key = m.objects.find? key := by
  cases hraw : isRawKey j.rawKey with
  | false =>
      rw [p.run_of_not_isRawKey hraw] at h
      obtain ⟨-, rfl⟩ := Prod.mk.inj (Position.exchanges_done h)
      rfl
  | true =>
      exact find?_of_exchanges (fun hk => hne (PublishedKeys.has_injective hkey hk).2)
        (PublishedKeys.ne_rawKey hkey hraw) h

namespace Http

namespace Session

variable {s : Service} {token : Token} {now : Instant} {r : Request} {reply : Reply}
  {m m' : Memory} {act : Act} {acts : List Act} {order : CommitOrder}

theorem Step.find?_of_other (h : Step s m act m') (hact : act.token? ≠ some token)
    {post key : String} (hkey : (PublishedKeys.of post token.text).Has key) :
    m'.objects.find? key = m.objects.find? key := by
  cases act with
  | request other now r reply =>
      rcases h.of_request with ⟨rfl, -⟩ | ⟨order, calls, result, -, -, hw, -⟩
      · rfl
      · have hne : token ≠ other := by
          rintro rfl
          exact hact rfl
        exact find?_of_other_token hkey hne hw
  | upload raw body contentType =>
      cases h with
      | upload _ _ hraw =>
          have hne : raw ≠ key := (PublishedKeys.ne_rawKey hkey hraw).symm
          rw [m.find?_upload, if_neg hne]
  | failPuts | failDeletes =>
      cases h
      rfl

theorem find?_of_other_run (h : Run s m acts m') (hacts : token ∉ tokens acts)
    {post key : String} (hkey : (PublishedKeys.of post token.text).Has key) :
    m'.objects.find? key = m.objects.find? key := by
  have hother : ∀ act ∈ acts, act.token? ≠ some token := by
    intro act hact heq
    exact hacts (List.mem_filterMap.mpr ⟨act, hact, heq⟩)
  exact h.keeps_among (I := fun m' => m'.objects.find? key = m.objects.find? key)
    (fun _ _ _ hact hm hs => (hs.find?_of_other hact hkey).trans hm) hother rfl

theorem Step.admits_of_failed (h : Step s m (.request token now r reply) m') (hr : r.IsCommit)
    (h500 : reply.status = 500) : s.guard.admits r = true := by
  cases hadmits : s.guard.admits r with
  | true => rfl
  | false =>
      obtain ⟨refused, hdone, h401⟩ := s.handle_refused token now hr hadmits
      cases h with
      | request hw =>
          rw [hdone] at hw
          obtain ⟨heq, -⟩ := Prod.mk.inj (Position.exchanges_done hw)
          cases heq
          omega

theorem Step.of_order (h : Step s m (.request token now r reply) m') (hr : r.IsCommit)
    (hadmits : s.guard.admits r = true) (hread : readForm commitOrderForm r = .ok order) :
    ∃ calls result, Walk Position.Exchange
        (.start (s.publisher.run ⟨token, now, order.post, order.rawKey⟩), m) calls
        (.done result, m') ∧
      reply = s.share r (Service.answer publicationDocument result) := by
  cases h with
  | request hw =>
      rw [s.handle_order token now hr hadmits hread] at hw
      obtain ⟨_, rfl, hanswer⟩ := Position.exchanges_of_map _ hw
      obtain ⟨result, rfl, hcommit⟩ := Position.exchanges_of_map _ hanswer
      exact ⟨_, result, hcommit, rfl⟩

end Session

namespace Service

variable {s : Service} {token : Token} {now : Instant} {r : Request} {reply : Reply}
  {m m' : Memory} {order : CommitOrder}

theorem Replies.step (h : s.Replies token now r m reply m')
    (htimeout : 0 < s.settings.requestTimeout.nanos) :
    Session.Step s m (.request token now r reply) m' := by
  cases h with
  | finished hstep => exact hstep
  | responded hrespond =>
      have hrun := Program.runWithin_eq htimeout (s.handle token now r) m
      obtain ⟨rfl, rfl⟩ := Prod.mk.inj ((respond_of_runWithin hrun).symm.trans hrespond)
      exact .of_runWithin hrun

def Announces (s : Service) (keys : PublishedKeys) (now : Instant) (width height bytes : Nat)
    (reply : Reply) : Prop :=
  reply.status = 200 ∧ reply.body = .json (.record [
    ("status", .string "OK"),
    ("url_original", .string (s.settings.publicBase ++ "/" ++ keys.full)),
    ("url_thumb", .string (s.settings.publicBase ++ "/" ++ keys.thumbnail)),
    ("width", .number width),
    ("height", .number height),
    ("bytes", .number bytes),
    ("created_at", .string now.rfc3339)])

theorem announces_of_fetches (hr : r.IsCommit) (hadmits : s.guard.admits r = true)
    (hread : readForm commitOrderForm r = .ok order) {raw : ByteArray} {pair : RenditionPair}
    (hfetches : s.publisher.Fetches ⟨token, now, order.post, order.rawKey⟩ m raw pair)
    (hputs : m.failingSuffix = none) (h : Session.Step s m (.request token now r reply) m') :
    s.Announces (.of order.post token.text) now pair.full.width pair.full.height
        pair.full.data.size reply ∧
      Job.Publishes ⟨token, now, order.post, order.rawKey⟩ pair m m' := by
  obtain ⟨calls, result, hw, rfl⟩ := h.of_order hr hadmits hread
  obtain ⟨rfl, hpublishes⟩ := publishes_of_exchanges hfetches hputs hw
  exact ⟨⟨rfl, rfl⟩, hpublishes⟩

/-- A commit that is answered with a failure of the store, and with leave to try again, has added
one of its images at most and left the upload where it was. The same request, made again when writes
do not fail and the upload has not changed, announces the image that the first would have announced,
under keys of its own, and publishes it. It leaves alone what the first had added, as do all other
requests. Rendering is taken to keep within the time limit. -/
theorem blamed_commits_can_be_retried {readUrl : UrlReader} {lookup : Lookup}
    (hload : Settings.load readUrl lookup = .ok s.settings) (hr : r.IsCommit) {m₁ : Memory}
    (h : s.Replies token now r m reply m₁) (h500 : reply.status = 500) :
    reply.BlamesStore ∧ ∃ order pair, readForm commitOrderForm r = .ok order ∧
      m₁.objects.find? order.rawKey = m.objects.find? order.rawKey ∧
      (m₁.objects = m.objects ∨ ∃ key object,
        (PublishedKeys.of order.post token.text).Has key ∧
          m₁.objects = m.objects.insert key object) ∧
      (∀ reply₀ m₀, s.Replies token now r { m with failingSuffix := none } reply₀ m₀ →
        s.Announces (.of order.post token.text) now pair.full.width pair.full.height
          pair.full.data.size reply₀) ∧
      (∀ acts m₂, Session.Run s m₁ acts m₂ → token ∉ Session.tokens acts →
        ∀ key, (PublishedKeys.of order.post token.text).Has key →
          m₂.objects.find? key = m₁.objects.find? key) ∧
      ∀ token' now' m₂ reply' m₃, token' ≠ token →
        m₂.objects.find? order.rawKey = m₁.objects.find? order.rawKey →
        m₂.failingSuffix = none → s.Replies token' now' r m₂ reply' m₃ →
        s.Announces (.of order.post token'.text) now' pair.full.width pair.full.height
            pair.full.data.size reply' ∧
          Job.Publishes ⟨token', now', order.post, order.rawKey⟩ pair m₂ m₃ ∧
          ∀ key, (PublishedKeys.of order.post token.text).Has key →
            m₃.objects.find? key = m₂.objects.find? key := by
  have htimeout := Settings.seconds_pos (Settings.loadedFrom_of_load hload).requestTimeout
  have hstep := h.step htimeout
  have hadmits := hstep.admits_of_failed hr h500
  obtain ⟨hblames, order, raw, pair, hread, hfetches, hadds⟩ := hstep.fetches_of_failed hr h500
  have hupload : m₁.objects.find? order.rawKey = m.objects.find? order.rawKey :=
    hadds.find?_rawKey hfetches.rawKey
  refine ⟨hblames, order, pair, hread, hupload, hadds, ?_, ?_, ?_⟩
  · intro reply₀ m₀ h₀
    have hfetches₀ : s.publisher.Fetches ⟨token, now, order.post, order.rawKey⟩
        { m with failingSuffix := none } raw pair := hfetches.of_find?_eq rfl rfl
    exact (announces_of_fetches hr hadmits hread hfetches₀ rfl (h₀.step htimeout)).1
  · intro acts m₂ hrun hacts key hkey
    exact Session.find?_of_other_run hrun hacts hkey
  · intro token' now' m₂ reply' m₃ hne hsame hputs h'
    have hfetches' : s.publisher.Fetches ⟨token', now', order.post, order.rawKey⟩ m₂ raw pair :=
      hfetches.of_find?_eq rfl (hsame.trans hupload)
    obtain ⟨hannounces, hpublishes⟩ :=
      announces_of_fetches hr hadmits hread hfetches' hputs (h'.step htimeout)
    refine ⟨hannounces, hpublishes, fun key hkey => hpublishes.elsewhere key (fun hk => ?_) ?_⟩
    · exact hne (PublishedKeys.has_injective hk hkey).2
    · exact PublishedKeys.ne_rawKey hkey hfetches.rawKey

end Service

end Http

namespace Sample

open Http

def unwritable : Memory :=
  (Memory.empty.upload order.rawKey raw "image/png").failPutsEndingWith "_thumb.webp"

def blaming : Reply × Memory :=
  renderer.respond job.token ⟨0, 0⟩ (order.request "opensesame") unwritable

def mended : Memory := { blaming.2 with failingSuffix := none }

def otherToken : Token := ⟨"8899aabbccddeeff0011223344556677", by decide⟩

def retried : Reply × Memory :=
  renderer.respond otherToken ⟨60, 0⟩ (order.request "opensesame") mended

end Sample

namespace Http.Service

theorem blamed_commits_can_be_retried_thumbnail :
    Sample.blaming.1.status = 500 ∧ Sample.blaming.2.objects ≠ Sample.unwritable.objects ∧
      ∃ order pair, readForm commitOrderForm (Sample.order.request "opensesame") = .ok order ∧
        Sample.renderer.Announces (.of order.post Sample.otherToken.text) ⟨60, 0⟩ pair.full.width
          pair.full.height pair.full.data.size Sample.retried.1 ∧
        Job.Publishes ⟨Sample.otherToken, ⟨60, 0⟩, order.post, order.rawKey⟩ pair Sample.mended
          Sample.retried.2 := by
  have hblaming : Sample.blaming.1.status = 500 ∧
      Sample.blaming.2.objects.keys ≠ Sample.unwritable.objects.keys := by decide +kernel
  obtain ⟨hstatus, hkeys⟩ := hblaming
  have hcommit : (Sample.order.request "opensesame").IsCommit := ⟨rfl, by decide +kernel⟩
  have hne : Sample.otherToken ≠ Sample.job.token := by decide
  obtain ⟨-, order, pair, hread, -, -, -, -, hretry⟩ :=
    blamed_commits_can_be_retried Sample.load_lookup hcommit
      (.responded (Prod.eta Sample.blaming).symm) hstatus
  obtain ⟨hannounces, hpublishes, -⟩ := hretry Sample.otherToken ⟨60, 0⟩ Sample.mended _ _ hne
    rfl rfl (.responded (Prod.eta Sample.retried).symm)
  exact ⟨hstatus, fun heq => hkeys (congrArg Shelf.keys heq), order, pair, hread, hannounces,
    hpublishes⟩

end Http.Service

end ImageIntake
