import ImageIntake.Proofs.Codec
import ImageIntake.Proofs.Http.Orders
import ImageIntake.Proofs.Http.Session
import ImageIntake.Proofs.Settings.Load
import ImageIntake.Proofs.Upload.Redemption

namespace ImageIntake.Http

def Reply.Grants (reply : Reply) (key : String) : Prop :=
  reply.status = 200 ∧ ∃ url mime, reply.body = .json (.record
    [("upload_url", .string url), ("raw_key", .string key), ("content_type", .string mime)])

def Reply.Reports (reply : Reply) (status : Nat) (code message : String) : Prop :=
  reply.status = status ∧ reply.body = .json (.record [("allowRetry", .bool false),
    ("error", .record [("code", .string code), ("message", .string message)])])

theorem ApiError.not_grants (e : ApiError) (headers : Headers) (key : String) :
    ¬(e.reply.addHeaders headers).Grants key := by
  rintro ⟨-, url, mime, hbody⟩
  simp [ApiError.reply, ApiError.document, Reply.ofBody, Reply.addHeaders] at hbody

namespace Service

variable {s : Service} {r : Request} {post key : String} {token : Token} {now : Instant}
  {m m' : Memory} {reply : Reply}

theorem respond_eq_run (htimeout : 0 < s.settings.requestTimeout.nanos) :
    s.respond token now r m = (s.handle token now r).run m := by
  simp only [respond, bind, StateT.bind, Program.runWithin_eq htimeout]
  rfl

theorem respond_declaration (htimeout : 0 < s.settings.requestTimeout.nanos)
    (hr : r.PostsTo .presign) (hadmits : s.guard.admits r = true) {d : Declaration}
    (hread : Http.readForm declarationForm r = .ok d) {type : ImageType}
    (htype : ImageType.parse? d.contentType = some type) (hsize : d.bytes ≤ Policy.maxUploadBytes) :
    (s.respond token now r m).1.Grants (rawKey type token) ∧ (s.respond token now r m).2 = m := by
  have hd : d.Passes type := ⟨htype, hsize⟩
  rw [respond_eq_run htimeout, s.handle_declaration token now hr hadmits hread, Program.run_map,
    Program.run_map, hd.authorize_eq]
  exact ⟨⟨rfl, _, _, rfl⟩, rfl⟩

theorem isRawKey_of_grants (htimeout : 0 < s.settings.requestTimeout.nanos)
    (hr : r.PostsTo .presign) (hreply : s.respond token now r m = (reply, m'))
    (h : reply.Grants key) : isRawKey key = true := by
  rw [respond_eq_run htimeout] at hreply
  cases hadmits : s.guard.admits r with
  | false =>
      rw [s.handle_unauthorized token now hr rfl hadmits] at hreply
      cases hreply
      exact absurd h (ApiError.not_grants _ _ key)
  | true =>
      cases hread : Http.readForm declarationForm r with
      | error e =>
          rw [s.handle_presign token now hr hadmits, presign, hread] at hreply
          cases hreply
          exact absurd h (ApiError.not_grants _ _ key)
      | ok d =>
          rw [s.handle_declaration token now hr hadmits hread, Program.run_map,
            Program.run_map] at hreply
          obtain ⟨rfl, -⟩ := Prod.mk.inj hreply
          cases hresult : ((authorize Policy.uploadLifetime token d).run m).1 with
          | error e =>
              rw [hresult] at h
              exact absurd h (ApiError.not_grants _ _ key)
          | ok g =>
              rw [hresult] at h
              obtain ⟨-, url, mime, hbody⟩ := h
              obtain rfl : g.rawKey = key := by
                simp [share, answer, grantDocument, Reply.ofBody, Reply.addHeaders] at hbody
                exact hbody.2.1
              rw [rawKey_of_authorize hresult]
              exact isRawKey_rawKey g.type token

theorem respond_order (htimeout : 0 < s.settings.requestTimeout.nanos) (h : s.Orders r post key)
    (hpost : isPostId post = true) (hkey : isRawKey key = true) {j : Job}
    (hj : j = ⟨token, now, post, key⟩) :
    s.respond token now r m =
      (s.share r (answer publicationDocument ((s.publisher.run j).run m).1),
        ((s.publisher.run j).run m).2) := by
  subst hj
  rw [respond_eq_run htimeout, s.handle_order token now h.posts h.admitted (h.readForm hpost hkey),
    Program.run_map, Program.run_map]
  rfl

theorem respond_order_absent (htimeout : 0 < s.settings.requestTimeout.nanos)
    (h : s.Orders r post key) (hpost : isPostId post = true) (hkey : isRawKey key = true)
    (hnone : m.objects.find? key = none) :
    ∃ reply, s.respond token now r m = (reply, m) ∧ reply.status = 404 := by
  let notFound : Reply := s.share r (ApiError.ofUpload .notFound).reply
  have hreply : s.respond token now r m = (notFound, m) := by
    rw [respond_order htimeout h hpost hkey rfl, Publisher.run_absent hnone]
    rfl
  exact ⟨notFound, hreply, rfl⟩

end Service

namespace Session

def Act.Uploads (key : String) : Act → Prop
  | .upload other _ _ => other = key
  | _ => False

def Act.Redeems (key : String) : Act → Prop
  | .request _ _ r _ =>
      r.IsCommit ∧ ∃ order, readForm commitOrderForm r = .ok order ∧ order.rawKey = key
  | _ => False

variable {s : Service} {m m' : Memory} {act : Act} {acts : List Act} {key : String}

theorem Step.find?_eq_none (h : Step s m act m') (hkey : isRawKey key = true)
    (hact : ¬act.Uploads key) (hnone : m.objects.find? key = none) :
    m'.objects.find? key = none := by
  cases act with
  | request token now r reply =>
      rcases h.of_request with ⟨rfl, -⟩ | ⟨order, calls, result, -, -, hw, -⟩
      · exact hnone
      · refine keeps_of_exchanges (I := fun m => m.objects.find? key = none)
          (fun phase phase' m m' call hm hx => ?_) hw hnone
        by_contra hsome
        have hbefore := hx.isSome_of_raw hkey (Option.isSome_iff_ne_none.mpr hsome)
        rw [hm] at hbefore
        cases hbefore
  | upload other body contentType =>
      cases h with
      | upload =>
          have hne : other ≠ key := hact
          rw [m.find?_upload, if_neg hne, hnone]
  | failPuts | failDeletes =>
      cases h
      exact hnone

theorem Step.find?_eq (h : Step s m act m') (hkey : isRawKey key = true)
    (huploads : ¬act.Uploads key) (hredeems : ¬act.Redeems key) :
    m'.objects.find? key = m.objects.find? key := by
  cases act with
  | request token now r reply =>
      rcases h.of_request with ⟨rfl, -⟩ | ⟨order, calls, result, hr, hread, hw, -⟩
      · rfl
      · have hne : key ≠ order.rawKey := fun heq => hredeems ⟨hr, order, hread, heq.symm⟩
        exact find?_of_exchanges (fun hk => PublishedKeys.ne_rawKey hk hkey rfl) hne hw
  | upload other body contentType =>
      cases h with
      | upload =>
          have hne : other ≠ key := huploads
          rw [m.find?_upload, if_neg hne]
  | failPuts | failDeletes =>
      cases h
      rfl

theorem find?_eq_none_of_run (h : Run s m acts m') (hkey : isRawKey key = true)
    (hacts : ∀ act ∈ acts, ¬act.Uploads key) (hnone : m.objects.find? key = none) :
    m'.objects.find? key = none :=
  h.keeps_among (fun _ _ _ hact hm hs => hs.find?_eq_none hkey hact hm) hacts hnone

theorem find?_eq_of_run (h : Run s m acts m') (hkey : isRawKey key = true)
    (hacts : ∀ act ∈ acts, ¬act.Uploads key ∧ ¬act.Redeems key) :
    m'.objects.find? key = m.objects.find? key :=
  h.keeps_among (I := fun m' => m'.objects.find? key = m.objects.find? key)
    (fun _ _ _ hact hm hs => (hs.find?_eq hkey hact.1 hact.2).trans hm) hacts rfl

end Session

structure Service.Redeemed (s : Service) (sanitize : Sanitizer) (key : String)
    (upload : StoredObject) (reply : Reply) (m : Memory) : Prop where
  found : reply.status ≠ 404
  empty : upload.body.size = 0 → reply.Reports 400 "invalid_input" "Empty file"
  tooLarge : 5242880 < upload.body.size → reply.Reports 400 "invalid_input" "File too large"
  notAnImage : 1 ≤ upload.body.size → upload.body.size ≤ 5242880 →
    (¬∃ full thumbnail, sanitize upload.body .full = .rendition full ∧
      sanitize upload.body .thumbnail = .rendition thumbnail) →
    reply.Reports 400 "invalid_input" "Invalid image"
  published : 1 ≤ upload.body.size → upload.body.size ≤ 5242880 → ∀ full thumbnail,
    sanitize upload.body .full = .rendition full →
    sanitize upload.body .thumbnail = .rendition thumbnail → reply.status = 200
  kept : reply.status = 400 → m.objects.find? key = some upload
  spent : reply.status = 200 → m.objects.find? key = none ∧
    ∀ acts m', Session.Run s m acts m' → (∀ act ∈ acts, ¬act.Uploads key) →
      ∀ token now r post, s.Orders r post key → isPostId post = true →
        ∃ reply', s.respond token now r m' = (reply', m') ∧ reply'.status = 404

theorem Reply.reports_of_invalid (s : Service) (r : Request) (reason : InvalidUpload) :
    (s.share r (Service.answer publicationDocument (.error (.invalid reason)))).Reports 400
      "invalid_input" reason.message := ⟨rfl, rfl⟩

namespace Service

variable {s : Service} {sanitize : Sanitizer} {key : String} {upload : StoredObject}
  {reply : Reply} {m : Memory}

theorem redeemed_of_rejects (hs : s.render = twoPasses sanitize) {reason : InvalidUpload}
    (h : s.publisher.Rejects upload.body reason)
    (hreply : reply.Reports 400 "invalid_input" reason.message)
    (hfind : m.objects.find? key = some upload) : s.Redeemed sanitize key upload reply m := by
  have hmax : Policy.maxUploadBytes = 5242880 := rfl
  have hstatus : reply.status = 400 := hreply.1
  refine ⟨by omega, fun hempty => ?_, fun hlarge => ?_, fun hfilled hsmall _ => ?_,
    fun hfilled hsmall full thumbnail hfull hthumbnail => ?_, fun _ => hfind, by omega⟩
  · cases h with
    | empty => exact hreply
    | tooLarge => omega
    | notAnImage => contradiction
  · cases h with
    | tooLarge => exact hreply
    | empty | notAnImage => omega
  · cases h with
    | notAnImage => exact hreply
    | empty | tooLarge => omega
  · cases h with
    | empty | tooLarge => omega
    | notAnImage _ _ hnone =>
        have hnone' : twoPasses sanitize upload.body = none := hs ▸ hnone
        exact absurd ⟨full, thumbnail, hfull, hthumbnail⟩ (twoPasses_eq_none_iff.mp hnone')

theorem redeemed_of_renders (htimeout : 0 < s.settings.requestTimeout.nanos)
    (hs : s.render = twoPasses sanitize) (hkey : isRawKey key = true) {pair : RenditionPair}
    (h : s.publisher.Renders upload.body pair) (hstatus : reply.status = 200)
    (hnone : m.objects.find? key = none) : s.Redeemed sanitize key upload reply m := by
  have hmax : Policy.maxUploadBytes = 5242880 := rfl
  have hfilled := h.filled
  have hsmall := h.small
  have hpair : twoPasses sanitize upload.body = some pair := hs ▸ h.rendered
  refine ⟨by omega, fun hempty => absurd hempty hfilled, by omega, fun _ _ hno => ?_,
    fun _ _ _ _ _ _ => hstatus, by omega, fun _ => ⟨hnone, ?_⟩⟩
  · obtain ⟨hfull, hthumbnail⟩ := twoPasses_eq_some_iff.mp hpair
    exact absurd ⟨_, _, hfull, hthumbnail⟩ hno
  · intro acts m' hrun hacts token now r post hr hpost
    exact respond_order_absent htimeout hr hpost hkey
      (Session.find?_eq_none_of_run hrun hkey hacts hnone)

theorem redeemed_of_held (htimeout : 0 < s.settings.requestTimeout.nanos)
    (hs : s.render = twoPasses sanitize) (hkey : isRawKey key = true)
    (hfind : m.objects.find? key = some upload) (hputs : m.failingSuffix = none)
    (hdeletes : m.deletesFail = false) {r : Request} {post : String} (hr : s.Orders r post key)
    (hpost : isPostId post = true) (token : Token) (now : Instant) :
    s.Redeemed sanitize key upload (s.respond token now r m).1 (s.respond token now r m).2 := by
  let j : Job := ⟨token, now, post, key⟩
  have hrespond : s.respond token now r m = _ := respond_order htimeout hr hpost hkey rfl
  rcases s.publisher.rejects_or_renders upload.body with ⟨reason, hrejects⟩ | ⟨pair, hrenders⟩
  · rw [hrespond, Publisher.run_rejected (j := j) hkey hfind hrejects]
    refine redeemed_of_rejects hs hrejects (Reply.reports_of_invalid s r reason) ?_
    rw [m.objects_getObject]
    exact hfind
  · obtain ⟨m', hrun, hnone⟩ :=
      Publisher.run_published (j := j) hkey hfind hputs hdeletes hrenders
    rw [hrespond, hrun]
    exact redeemed_of_renders htimeout hs hkey hrenders rfl hnone

/-- Every grant can be redeemed: an upload to a granted key is found by a commit with leave for any
post, which answers by the upload alone, and once only. Rendering is taken to keep within the time
limit. -/
theorem grants_are_redeemed_once {readUrl : UrlReader} {lookup : Lookup} {settings : Settings}
    (hload : Settings.load readUrl lookup = .ok settings) (sanitize : Sanitizer) {s : Service}
    (hs : s = ⟨settings, twoPasses sanitize⟩) {ask : Request} (hask : ask.PostsTo .presign)
    {token : Token} {now : Instant} {m₀ m₁ : Memory} {grant : Reply}
    (hreply : s.respond token now ask m₀ = (grant, m₁)) {key : String} (hgrant : grant.Grants key)
    {body : ByteArray} {contentType : String} {acts : List Session.Act} {m₂ m₃ : Memory}
    (hrun : Session.Run s (m₂.upload key body contentType) acts m₃)
    (hacts : ∀ act ∈ acts, ¬act.Uploads key ∧ ¬act.Redeems key)
    (hputs : m₃.failingSuffix = none) (hdeletes : m₃.deletesFail = false) {r : Request}
    {post : String} (hr : s.Orders r post key) (hpost : isPostId post = true) (token' : Token)
    (now' : Instant) :
    s.Redeemed sanitize key ⟨body, ⟨contentType, none⟩⟩ (s.respond token' now' r m₃).1
      (s.respond token' now' r m₃).2 := by
  subst hs
  have htimeout := Settings.seconds_pos (Settings.loadedFrom_of_load hload).requestTimeout
  have hkey := isRawKey_of_grants htimeout hask hreply hgrant
  have hfind : m₃.objects.find? key = some ⟨body, ⟨contentType, none⟩⟩ := by
    rw [Session.find?_eq_of_run hrun hkey hacts, Memory.find?_upload, if_pos rfl]
  exact redeemed_of_held htimeout rfl hkey hfind hputs hdeletes hr hpost token' now'

end Service

end ImageIntake.Http

namespace ImageIntake.Sample

open Http

def renderer : Service := ⟨loaded, twoPasses sanitize⟩

def encoder : Service := ⟨loaded, twoPasses codec.sanitize⟩

def ask : Request where
  method := "POST"
  target := "/api/uploads/presign"
  headers := [("content-type", "application/json".toUTF8), ("x-api-key", "opensesame".toUTF8)]
  body := "\x7b\"filename\":\"a.png\",\"content_type\":\"image/png\",\"bytes\":1\x7d".toUTF8

def order : CommitOrder := ⟨"post42", rawKey .png job.token⟩

theorem isPostId_order : isPostId order.post = true := by decide +kernel

theorem orders_request {s : Service} (hs : s.settings = loaded) {key : String}
    (hkey : isRawKey key = true) :
    s.Orders (CommitOrder.request ⟨order.post, key⟩ "opensesame") order.post key := by
  have hsecret : s.settings.apiKey = "opensesame" := by rw [hs]; rfl
  have hvisible : s.settings.apiKey.toUTF8.data.all isVisibleByte = true := by
    rw [hsecret]
    decide +kernel
  rw [← hsecret]
  exact CommitOrder.orders_request hvisible isPostId_order hkey

end ImageIntake.Sample

namespace ImageIntake.Http.Service

theorem grants_are_redeemed_once_published :
    (Sample.renderer.respond Sample.job.token ⟨0, 0⟩ Sample.ask Memory.empty).1.Grants
        Sample.order.rawKey ∧
      (Sample.renderer.respond Sample.job.token ⟨0, 0⟩ (Sample.order.request "opensesame")
        (Memory.empty.upload Sample.order.rawKey Sample.raw "image/png")).1.status = 200 := by
  have htimeout : 0 < Sample.renderer.settings.requestTimeout.nanos := by decide
  have hask : Sample.ask.PostsTo .presign := ⟨rfl, by decide +kernel⟩
  have hadmits : Sample.renderer.guard.admits Sample.ask = true := by decide +kernel
  have hread : Http.readForm declarationForm Sample.ask = .ok ⟨"a.png", "image/png", 1⟩ := by
    decide +kernel
  have htype : ImageType.parse? "image/png" = some .png := by decide +kernel
  have hgrant : (Sample.renderer.respond Sample.job.token ⟨0, 0⟩ Sample.ask Memory.empty).1.Grants
      Sample.order.rawKey :=
    (respond_declaration htimeout hask hadmits hread htype (by decide)).1
  have hvisible : Sample.loaded.apiKey.toUTF8.data.all isVisibleByte = true := by decide +kernel
  have hpost : isPostId Sample.order.post = true := by decide +kernel
  have horder : Sample.renderer.Orders (Sample.order.request "opensesame") Sample.order.post
      Sample.order.rawKey :=
    CommitOrder.orders_request hvisible hpost (isRawKey_rawKey .png Sample.job.token)
  have hredeemed := grants_are_redeemed_once Sample.load_lookup Sample.sanitize rfl hask rfl hgrant
    (.refl (Memory.empty.upload Sample.order.rawKey Sample.raw "image/png")) nofun rfl rfl horder
    hpost Sample.job.token ⟨0, 0⟩
  exact ⟨hgrant, hredeemed.published (by decide) (by decide) _ _ rfl rfl⟩

end ImageIntake.Http.Service
