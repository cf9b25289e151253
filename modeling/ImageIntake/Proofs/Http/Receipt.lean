import ImageIntake.Proofs.Http.Redemption
import ImageIntake.Proofs.Http.TimeLimit
import ImageIntake.Proofs.Picture.Passes
import ImageIntake.Proofs.Upload.Outcome
import ImageIntake.Proofs.Webp.Writer

namespace ImageIntake.Http.Service

structure Describes (s : Service) (measure : ByteArray → Option (Nat × Nat)) (keys : PublishedKeys)
    (now : Instant) (width height : Nat) (reply : Reply) (m : Memory)
    (full thumbnail : StoredObject) : Prop where
  fullHeld : m.objects.find? keys.full = some full
  thumbnailHeld : m.objects.find? keys.thumbnail = some thumbnail
  fullSize : measure full.body = some (width, height)
  thumbnailSize : measure thumbnail.body = some (fitWithin width height 640)
  told : reply.body = .json (.record [
    ("status", .string "OK"),
    ("url_original", .string (s.settings.publicBase ++ "/" ++ keys.full)),
    ("url_thumb", .string (s.settings.publicBase ++ "/" ++ keys.thumbnail)),
    ("width", .number width),
    ("height", .number height),
    ("bytes", .number full.body.size),
    ("created_at", .string now.rfc3339)])

/-- A commit that is answered with success was one of an upload that the store held, and its answer
describes the pair that the store now holds for the post and the token: where it is, how long the
image is as it was published, and its size, which is that of the image in the upload when it stands
upright. The resizer and the encoder are taken to give the size that they are asked for. -/
theorem success_describes_the_store {s : Service} {Pixel : ColourType → Type}
    {codec : Codec Pixel} (hs : s.render = twoPasses codec.sanitize) (hresizes : codec.Resizes)
    {measure : ByteArray → Option (Nat × Nat)} (hkeeps : codec.KeepsSize measure) {token : Token}
    {now : Instant} {r : Request} {m m' : Memory} {reply : Reply} (hr : r.IsCommit) (h : s.Replies token now r m reply m')
    (h200 : reply.status = 200) :
    ∃ order, readForm commitOrderForm r = .ok order ∧
      ∃ upload, m.objects.find? order.rawKey = some upload ∧
      ∃ image, codec.decode upload.body = .ok image ∧
      ∃ width height, (width, height) = ((codec.upright? upload.body).getD .identity).sizeOf
        (image.width, image.height) ∧
      ∃ full thumbnail, s.Describes measure (.of order.post token.text) now width height reply m'
        full thumbnail := by
  rcases h.step_or_timedOut with hstep | ⟨rfl, -, -⟩
  · rcases hstep.reply_of_request with ⟨-, hstatus⟩ | ⟨order, calls, result, -, hread, hw, rfl⟩
    · exact absurd h200 (hstatus hr).1
    · obtain ⟨publication, rfl⟩ := status_answer_eq_200.mp h200
      obtain ⟨raw, pair, hfetches, rfl, hfull, hthumbnail⟩ := held_of_published hw
      obtain ⟨upload, hfind, rfl⟩ := hfetches.stored
      have hpair : twoPasses codec.sanitize upload.body = some pair :=
        hs ▸ hfetches.renders.rendered
      obtain ⟨image, hdecode, width, height, hsize, rfl, rfl, hfullSize, hthumbnailSize⟩ :=
        hkeeps.pair hresizes hpair
      let j : Job := ⟨token, now, order.post, order.rawKey⟩
      refine ⟨order, hread, upload, hfind, image, hdecode, _, _, hsize.symm,
        (j.fullWrite pair).object, (j.thumbnailWrite pair).object, ?_⟩
      exact ⟨hfull, hthumbnail, hfullSize, hthumbnailSize, rfl⟩
  · cases h200

end ImageIntake.Http.Service

namespace ImageIntake.Sample

open Http

theorem pair_lyingPng : ∃ pair, twoPasses codec.sanitize lyingPng = some pair := by
  have hends : (codec.sanitize lyingPng .full).EndsAt (1, 2) :=
    lawful_codec.sanitize_endsAt (by decide) decode_lyingPng shownSize_lyingPng
  obtain ⟨data, hfull⟩ := hends.rendition (by decide) (by decide)
  exact lawful_codec.pair_of_full hfull

theorem keepsSize_codec : codec.KeepsSize Webp.size? := by
  intro p quality data hw hh hdata
  dsimp only [codec, Builtin.encode] at hdata
  split at hdata
  · cases hdata
  · split at hdata
    · cases hdata
    · next picture hpicture =>
      obtain rfl := Except.ok.inj hdata
      obtain ⟨hpos, heq⟩ := Option.dite_none_right_eq_some.mp hpicture
      obtain rfl := Option.some.inj heq
      exact Webp.size?_encode (hw.trans (by decide)) (hh.trans (by decide))

def lyingStore : Memory := Memory.empty.upload order.rawKey lyingPng "image/png"

def lyingReply : Reply × Memory :=
  encoder.respond job.token ⟨0, 0⟩ (order.request "opensesame") lyingStore

end ImageIntake.Sample

namespace ImageIntake.Http.Service

theorem success_describes_the_store_lying :
    Sample.codec.Resizes ∧ Sample.codec.KeepsSize Webp.size? ∧ Sample.lyingReply.1.status = 200 ∧
      ∃ full thumbnail, Sample.encoder.Describes Webp.size?
        (.of Sample.order.post Sample.job.token.text) ⟨0, 0⟩ 1 2 Sample.lyingReply.1
        Sample.lyingReply.2 full thumbnail := by
  have hkey : isRawKey Sample.order.rawKey = true := isRawKey_rawKey .png Sample.job.token
  have horder : Sample.encoder.Orders (Sample.order.request "opensesame") Sample.order.post
      Sample.order.rawKey := Sample.orders_request rfl hkey
  have hfind : Sample.lyingStore.objects.find? Sample.order.rawKey =
      some ⟨Sample.lyingPng, ⟨"image/png", none⟩⟩ := by
    rw [Sample.lyingStore, Memory.find?_upload, if_pos rfl]
  obtain ⟨pair, hpair⟩ := Sample.pair_lyingPng
  obtain ⟨hfull, hthumbnail⟩ := twoPasses_eq_some_iff.mp hpair
  have hstatus : Sample.lyingReply.1.status = 200 :=
    (redeemed_of_held (by decide) rfl hkey hfind rfl rfl horder Sample.isPostId_order
      Sample.job.token ⟨0, 0⟩).published (by decide) (by decide) _ _ hfull hthumbnail
  obtain ⟨order, hread, upload, hfind', image, hdecode, width, height, hsize, hdescribed⟩ :=
    success_describes_the_store rfl Sample.resizes_codec Sample.keepsSize_codec horder.posts
      (.responded (Prod.eta Sample.lyingReply).symm) hstatus
  obtain rfl : Sample.order = order :=
    Except.ok.inj ((horder.readForm Sample.isPostId_order hkey).symm.trans hread)
  obtain rfl := Option.some.inj (hfind.symm.trans hfind')
  obtain rfl := Except.ok.inj (Sample.decode_lyingPng.symm.trans hdecode)
  rw [Codec.upright?, Sample.recordedTag?_lyingPng] at hsize
  obtain ⟨rfl, rfl⟩ : width = 1 ∧ height = 2 := Prod.mk.inj hsize
  exact ⟨Sample.resizes_codec, Sample.keepsSize_codec, hstatus, hdescribed⟩

end ImageIntake.Http.Service
