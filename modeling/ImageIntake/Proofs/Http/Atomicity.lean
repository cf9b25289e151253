import ImageIntake.Proofs.Http.TimeLimit
import ImageIntake.Proofs.Upload.Outcome
import Mathlib.Data.List.Infix

namespace ImageIntake

def Token.Unseen (token : Token) (m : Memory) : Prop :=
  ∀ key ∈ m.objects.keys, ¬token.text.toList <:+: key.toList

instance (token : Token) (m : Memory) : Decidable (token.Unseen m) :=
  inferInstanceAs (Decidable (∀ key ∈ m.objects.keys, ¬token.text.toList <:+: key.toList))

theorem PublishedKeys.infix_of_has {post image key : String} (h : (of post image).Has key) :
    image.toList <:+: key.toList := by
  rcases h with rfl | rfl
  · exact ⟨stem post, ".webp".toList, (toList_full post image).symm⟩
  · refine ⟨stem post, "_thumb".toList ++ ".webp".toList, ?_⟩
    rw [toList_thumbnail, List.append_assoc _ "_thumb".toList]

theorem Token.Unseen.find?_eq_none {token : Token} {m : Memory} (h : token.Unseen m)
    {post key : String} (hk : (PublishedKeys.of post token.text).Has key) :
    m.objects.find? key = none := by
  by_contra hsome
  have hmem : key ∈ m.objects.keys := Shelf.mem_keys_iff.mpr (Option.isSome_iff_ne_none.mpr hsome)
  exact h key hmem (PublishedKeys.infix_of_has hk)

namespace Http

def Reply.BlamesStore (reply : Reply) : Prop :=
  reply.body = .json (.record [("allowRetry", .bool true), ("error", .record
    [("code", .string "storage_error"), ("message", .string "Storage error")])])

namespace Session

variable {s : Service} {token : Token} {now : Instant} {r : Request} {m m' : Memory}
  {reply : Reply}

theorem Step.objects_of_failed (h : Step s m (.request token now r reply) m')
    (h200 : reply.status ≠ 200) (h500 : ¬(r.IsCommit ∧ reply.status = 500)) :
    m'.objects = m.objects := by
  rcases h.of_request with ⟨rfl, -⟩ | ⟨order, calls, result, hr, -, hw, hstatus⟩
  · rfl
  · rw [hstatus] at h200 h500
    cases result with
    | ok publication => exact absurd (status_answer_eq_200.mpr ⟨publication, rfl⟩) h200
    | error e =>
        refine objects_of_refused (fun cause he => h500 ⟨hr, ?_⟩) hw
        exact status_answer_eq_500.mpr ⟨cause, he ▸ rfl⟩

theorem Step.fetches_of_failed (h : Step s m (.request token now r reply) m') (hr : r.IsCommit)
    (h500 : reply.status = 500) :
    reply.BlamesStore ∧ ∃ order raw pair, readForm commitOrderForm r = .ok order ∧
      s.publisher.Fetches ⟨token, now, order.post, order.rawKey⟩ m raw pair ∧
      Job.AddsAtMostOne ⟨token, now, order.post, order.rawKey⟩ m.objects m'.objects := by
  rcases h.reply_of_request with ⟨-, hstatus⟩ | ⟨order, calls, result, -, hread, hw, hreply⟩
  · exact absurd h500 (hstatus hr).2
  · have hstatus : (Service.answer publicationDocument result).status = 500 := by
      rw [hreply] at h500
      exact h500
    obtain ⟨cause, rfl⟩ := status_answer_eq_500.mp hstatus
    obtain ⟨⟨raw, pair, hfetches⟩, hadds⟩ := fetches_of_storage hw
    exact ⟨by rw [hreply]; rfl, order, raw, pair, hread, hfetches, hadds⟩

theorem Step.adds_of_failed (h : Step s m (.request token now r reply) m') (hr : r.IsCommit)
    (h500 : reply.status = 500) :
    reply.BlamesStore ∧ ∃ order, readForm commitOrderForm r = .ok order ∧
      isRawKey order.rawKey = true ∧
      Job.AddsAtMostOne ⟨token, now, order.post, order.rawKey⟩ m.objects m'.objects := by
  obtain ⟨hblames, order, raw, pair, hread, hfetches, hadds⟩ := h.fetches_of_failed hr h500
  exact ⟨hblames, order, hread, hfetches.rawKey, hadds⟩

end Session

theorem Service.failed_requests_are_atomic (s : Service) {token : Token} {now : Instant}
    {r : Request} {m m' : Memory} {reply : Reply} (hunseen : token.Unseen m)
    (h : s.Replies token now r m reply m') :
    (reply.status ≠ 200 → ¬(r.IsCommit ∧ reply.status = 500) → m'.objects = m.objects) ∧
    (r.IsCommit → reply.status = 500 → reply.BlamesStore ∧
      ∃ order, readForm commitOrderForm r = .ok order ∧
        m'.objects.find? order.rawKey = m.objects.find? order.rawKey ∧
        (m'.objects = m.objects ∨ ∃ key object,
          (PublishedKeys.of order.post token.text).Has key ∧ m.objects.find? key = none ∧
          m'.objects = m.objects.insert key object)) ∧
    (r.path = "/api/uploads/presign" →
      m'.objects = m.objects ∧ m'.bytesServed = m.bytesServed) := by
  have hstep := h.step_or_timedOut
  refine ⟨?_, ?_, ?_⟩
  · intro h200 h500
    rcases hstep with hstep | ⟨-, hobjects, -⟩
    · exact hstep.objects_of_failed h200 h500
    · exact hobjects
  · intro hr h500
    rcases hstep with hstep | ⟨rfl, -, -⟩
    · obtain ⟨hblames, order, hread, hraw, hadds⟩ := hstep.adds_of_failed hr h500
      refine ⟨hblames, order, hread, ?_⟩
      rcases hadds with hsame | ⟨key, object, hkey, hinsert⟩
      · exact ⟨by rw [hsame], .inl hsame⟩
      · -- an image never stands under a raw key
        have hne : key ≠ order.rawKey := PublishedKeys.ne_rawKey hkey hraw
        refine ⟨?_, .inr ⟨key, object, hkey, hunseen.find?_eq_none hkey, hinsert⟩⟩
        rw [hinsert, m.objects.find?_insert, if_neg hne]
    · cases h500
  · intro hpath
    have hnot : ¬r.IsCommit := by
      rintro ⟨-, hcommit⟩
      rw [hpath] at hcommit
      exact absurd hcommit (by decide)
    rcases hstep with hstep | ⟨-, -, hsame⟩
    · rcases hstep.of_request with ⟨rfl, -⟩ | ⟨_, _, _, hr, -⟩
      · exact ⟨rfl, rfl⟩
      · exact absurd hr hnot
    · obtain rfl := hsame hnot
      exact ⟨rfl, rfl⟩

end Http

end ImageIntake

namespace ImageIntake.Sample

open Http

def halfway : Memory := stored.failPutsEndingWith "_thumb.webp"

def halfAnswered : Reply × Memory := service.respond job.token job.now request halfway

end ImageIntake.Sample

namespace ImageIntake.Http.Service

theorem failed_requests_are_atomic_halfway :
    Sample.job.token.Unseen Sample.halfway ∧ Sample.halfAnswered.1.status = 500 ∧
      ∃ order, readForm commitOrderForm Sample.request = .ok order ∧
        ∃ key object, (PublishedKeys.of order.post Sample.job.token.text).Has key ∧
          Sample.halfway.objects.find? key = none ∧
          Sample.halfAnswered.2.objects = Sample.halfway.objects.insert key object := by
  have hunseen : Sample.job.token.Unseen Sample.halfway := by decide +kernel
  have hanswered : Sample.halfAnswered.1.status = 500 ∧
      Sample.halfAnswered.2.objects.keys ≠ Sample.halfway.objects.keys := by decide +kernel
  have hreplies : Sample.service.Replies Sample.job.token Sample.job.now Sample.request
      Sample.halfway Sample.halfAnswered.1 Sample.halfAnswered.2 :=
    .responded (Prod.eta Sample.halfAnswered).symm
  have hcommit : Sample.request.IsCommit := ⟨rfl, by decide +kernel⟩
  obtain ⟨hstatus, hkeys⟩ := hanswered
  obtain ⟨-, order, hread, -, hsame | hadded⟩ :=
    (failed_requests_are_atomic Sample.service hunseen hreplies).2.1 hcommit hstatus
  · exact absurd (congrArg Shelf.keys hsame) hkeys
  · exact ⟨hunseen, hstatus, order, hread, hadded⟩

end ImageIntake.Http.Service
