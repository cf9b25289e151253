import ImageIntake.Proofs.Http.Redemption
import ImageIntake.Proofs.Http.TimeLimit
import ImageIntake.Proofs.Upload.Verdict

namespace ImageIntake

namespace Http

def badPost : ApiError :=
  .ofField "post_id" "must be 1 to 128 characters of letters, digits, '_' or '-'"

namespace Service

def ruling (s : Service) (token : Token) (now : Instant) (post : String) (refuses : String → Bool)
    (pair? : Option RenditionPair) (leave : Headers) : Reply × List Write :=
  if isPostId post = false then (badPost.reply.addHeaders leave, [])
  else if s.settings.requestTimeout.nanos = 0 then (timedOut, [])
  else
    let verdict := s.publisher.verdict (.of post token.text) now refuses pair?
    ((answer publicationDocument verdict.result).addHeaders leave, verdict.writes)

theorem isSome_latest_of_ruling {s : Service} {token : Token} {now : Instant} {post : String}
    {refuses : String → Bool} {pair? : Option RenditionPair} {leave : Headers}
    (h : (s.ruling token now post refuses pair? leave).1.status = 200) {key : String}
    (hkey : (PublishedKeys.of post token.text).Has key) :
    (Write.latest (s.ruling token now post refuses pair? leave).2 key).isSome := by
  rw [ruling] at h ⊢
  split at h
  · cases h
  · next hpost =>
    rw [if_neg hpost]
    split at h
    · cases h
    · next hlimit =>
      rw [if_neg hlimit]
      obtain ⟨publication, hok⟩ := status_answer_eq_200.mp h
      exact Publisher.isSome_latest_of_ok hok hkey

structure OrdersHeld (s : Service) (r : Request) (post key : String) (upload : StoredObject)
    (m : Memory) : Prop where
  orders : s.Orders r post key
  rawKey : isRawKey key = true
  held : m.objects.find? key = some upload
  filled : 1 ≤ upload.body.size
  small : upload.body.size ≤ 5242880

variable {s : Service} {r : Request} {post key : String} {m : Memory} {upload : StoredObject}

theorem Orders.respond_badPost (h : s.Orders r post key) (hpost : isPostId post = false)
    (token : Token) (now : Instant) :
    s.respond token now r m = (s.share r badPost.reply, m) := by
  have hshort : ¬Policy.maxRequestBytes < r.body.size := Nat.not_lt.mpr h.short
  have hvalues : commitOrderForm.ofValues [.text post, .text key] = some ⟨post, key⟩ := rfl
  have hrule : commitOrderForm.brokenRule ⟨post, key⟩ = some badPost := by
    simp only [commitOrderForm, hpost]
    rfl
  have hread : Http.readForm commitOrderForm r = .error badPost := by
    rw [Http.readForm, h.json, if_neg (by decide), if_neg hshort]
    simp only [h.document, hvalues, hrule]
  have hhandle (token : Token) (now : Instant) :
      s.handle token now r = .done (s.share r badPost.reply) := by
    rw [s.handle_admitted token now h.posts h.admitted, commit, hread]
    rfl
  exact (dismisses_of_handle hhandle).respond token now m

theorem Orders.respond_expired (h : s.Orders r post key) (hpost : isPostId post = true)
    (hkey : isRawKey key = true) (hlimit : s.settings.requestTimeout.nanos = 0) (token : Token)
    (now : Instant) :
    ∃ m', s.respond token now r m = (timedOut, m') ∧ m'.objects = m.objects := by
  let j : Job := ⟨token, now, post, key⟩
  have hget : s.publisher.commit token now post key = _ := s.publisher.run_of_isRawKey (j := j) hkey
  have hrun : (s.handle token now r).runWithin s.settings.requestTimeout m =
      (none, (m.getObject key Policy.maxUploadBytes).2) := by
    rw [s.handle_order token now h.posts h.admitted (h.readForm hpost hkey), hget]
    exact Program.unlessLate_of_expired hlimit _
  exact ⟨_, respond_of_runWithin hrun, m.objects_getObject key Policy.maxUploadBytes⟩

theorem OrdersHeld.respond (h : s.OrdersHeld r post key upload m) (token : Token) (now : Instant)
    {reply : Reply} {writes : List Write}
    (hruling : s.ruling token now post m.refusesPut (s.render upload.body) (s.cors.actual r) =
      (reply, writes)) :
    ∃ m', s.respond token now r m = (reply, m') ∧ m.Gains m' writes key := by
  rw [ruling] at hruling
  split at hruling
  · next hpost =>
    obtain ⟨rfl, rfl⟩ := Prod.mk.inj hruling
    exact ⟨m, h.orders.respond_badPost hpost token now, Memory.gains_nil rfl⟩
  · next hpost =>
    have hpost' : isPostId post = true := by simpa using hpost
    split at hruling
    · next hlimit =>
      obtain ⟨rfl, rfl⟩ := Prod.mk.inj hruling
      obtain ⟨m', hrespond, hsame⟩ := h.orders.respond_expired hpost' h.rawKey hlimit token now
      exact ⟨m', hrespond, Memory.gains_nil hsame⟩
    · next hlimit =>
      obtain ⟨rfl, rfl⟩ := Prod.mk.inj hruling
      let j : Job := ⟨token, now, post, key⟩
      obtain ⟨hresult, hgains⟩ := Publisher.run_stored (p := s.publisher) (j := j) h.rawKey h.held
        (Nat.ne_of_gt h.filled) h.small
      refine ⟨((s.publisher.run j).run m).2, ?_, hgains⟩
      rw [respond_order (Nat.pos_of_ne_zero hlimit) h.orders hpost' h.rawKey rfl, hresult]
      rfl

/-- Two uploads that show the same, ordered to be published for the same post with the same token at
the same time, by requests from the same origin and on stores that refuse the same writes: both
requests get the same reply, both stores gain the same objects, and if the uploads are published,
they are published as the same two objects. Rendering is taken to keep within the time limit. -/
theorem only_the_image_is_published {Pixel : ColourType → Type} {codec : Codec Pixel}
    (hs : s.render = twoPasses codec.sanitize) {upload₁ upload₂ : StoredObject}
    (hshows : codec.ShowsSame upload₁.body upload₂.body)
    {r₁ r₂ : Request} {key₁ key₂ : String} {m₁ m₂ : Memory}
    (h₁ : s.OrdersHeld r₁ post key₁ upload₁ m₁) (h₂ : s.OrdersHeld r₂ post key₂ upload₂ m₂)
    (hrefuses : ∀ key, m₁.refusesPut key = m₂.refusesPut key)
    (horigin : r₁.header? "origin" = r₂.header? "origin") (token : Token) (now : Instant)
    {reply₁ reply₂ : Reply} {m₁' m₂' : Memory}
    (hreply₁ : s.respond token now r₁ m₁ = (reply₁, m₁'))
    (hreply₂ : s.respond token now r₂ m₂ = (reply₂, m₂')) :
    reply₁ = reply₂ ∧
      (∃ writes, m₁.Gains m₁' writes key₁ ∧ m₂.Gains m₂' writes key₂) ∧
      (reply₁.status = 200 → ∀ key, (PublishedKeys.of post token.text).Has key →
        ∃ object, m₁'.objects.find? key = some object ∧ m₂'.objects.find? key = some object) := by
  -- all that the ruling is told by is the same for both
  have hrefuses' : m₁.refusesPut = m₂.refusesPut := funext hrefuses
  have hpair : s.render upload₁.body = s.render upload₂.body := by rw [hs, hshows.twoPasses]
  have hleave : s.cors.actual r₁ = s.cors.actual r₂ := s.cors.actual_congr horigin
  cases hruling : s.ruling token now post m₁.refusesPut (s.render upload₁.body)
    (s.cors.actual r₁) with
  | mk reply writes =>
      have hruling' : s.ruling token now post m₂.refusesPut (s.render upload₂.body)
          (s.cors.actual r₂) = (reply, writes) := by
        rw [← hrefuses', ← hpair, ← hleave, hruling]
      obtain ⟨after₁, hrun₁, hgains₁⟩ := h₁.respond token now hruling
      obtain ⟨after₂, hrun₂, hgains₂⟩ := h₂.respond token now hruling'
      obtain ⟨rfl, rfl⟩ := Prod.mk.inj (hrun₁.symm.trans hreply₁)
      obtain ⟨rfl, rfl⟩ := Prod.mk.inj (hrun₂.symm.trans hreply₂)
      refine ⟨rfl, ⟨writes, hgains₁, hgains₂⟩, fun h200 key hkey => ?_⟩
      have h200' : (s.ruling token now post m₁.refusesPut (s.render upload₁.body)
          (s.cors.actual r₁)).1.status = 200 := by rw [hruling, h200]
      have hsome := isSome_latest_of_ruling h200' hkey
      rw [hruling] at hsome
      obtain ⟨object, hobject⟩ := Option.isSome_iff_exists.mp hsome
      exact ⟨object, hgains₁.find?_eq_some (PublishedKeys.ne_rawKey hkey h₁.rawKey) hobject,
        hgains₂.find?_eq_some (PublishedKeys.ne_rawKey hkey h₂.rawKey) hobject⟩

end Service

end Http

end ImageIntake

namespace ImageIntake.Sample

open Http

def otherOrder : CommitOrder := ⟨order.post, rawKey .webp job.token⟩

def plainStore : Memory := Memory.empty.upload order.rawKey plainGif "image/png"

def tellingStore : Memory :=
  ((Memory.empty.upload job.rawKey raw "image/png").upload otherOrder.rawKey tellingGif
    "image/webp").setDeletesFail true

theorem showsSame_gifs : codec.ShowsSame plainGif tellingGif := ⟨rfl, rfl⟩

def plainReply : Reply × Memory :=
  encoder.respond job.token ⟨0, 0⟩ (order.request "opensesame") plainStore

def tellingReply : Reply × Memory :=
  encoder.respond job.token ⟨0, 0⟩ (otherOrder.request "opensesame") tellingStore

end ImageIntake.Sample

namespace ImageIntake.Http.Service

theorem only_the_image_is_published_gifs :
    Sample.codec.ShowsSame Sample.plainGif Sample.tellingGif ∧
      Sample.plainReply.1.status = 200 ∧ Sample.plainReply.1 = Sample.tellingReply.1 ∧
      ∀ key, (PublishedKeys.of Sample.order.post Sample.job.token.text).Has key →
        ∃ object, Sample.plainReply.2.objects.find? key = some object ∧
          Sample.tellingReply.2.objects.find? key = some object := by
  have hplain : Sample.encoder.OrdersHeld (Sample.order.request "opensesame") Sample.order.post
      Sample.order.rawKey ⟨Sample.plainGif, ⟨"image/png", none⟩⟩ Sample.plainStore := by
    refine ⟨Sample.orders_request rfl (isRawKey_rawKey .png _), isRawKey_rawKey .png _, ?_,
      by decide, by decide⟩
    rw [Sample.plainStore, Memory.find?_upload, if_pos rfl]
  have htelling : Sample.encoder.OrdersHeld (Sample.otherOrder.request "opensesame")
      Sample.order.post Sample.otherOrder.rawKey ⟨Sample.tellingGif, ⟨"image/webp", none⟩⟩
      Sample.tellingStore := by
    refine ⟨Sample.orders_request rfl (isRawKey_rawKey .webp _), isRawKey_rawKey .webp _, ?_,
      by decide, by decide⟩
    show (Memory.upload _ _ _ _).objects.find? _ = _
    rw [Memory.find?_upload, if_pos rfl]
  have hstatus : Sample.plainReply.1.status = 200 := by decide +kernel
  obtain ⟨hreply, -, hpublished⟩ := only_the_image_is_published rfl Sample.showsSame_gifs hplain
    htelling (fun _ => rfl) (by decide +kernel) Sample.job.token ⟨0, 0⟩
    (Prod.eta Sample.plainReply).symm (Prod.eta Sample.tellingReply).symm
  exact ⟨Sample.showsSame_gifs, hstatus, hreply, hpublished hstatus⟩

end ImageIntake.Http.Service
