import ImageIntake.Proofs.Http.Service
import ImageIntake.Proofs.Upload.Accounting

namespace ImageIntake.Http

namespace Session

inductive Act where
  | request (token : Token) (now : Instant) (r : Request) (reply : Reply)
  | upload (key : String) (body : ByteArray) (contentType : String)
  | failPuts (suffix : String)
  | failDeletes (fail : Bool)

def Act.token? : Act → Option Token
  | .request token _ _ _ => some token
  | _ => none

def tokens (acts : List Act) : List Token := acts.filterMap Act.token?

inductive Step (s : Service) : Memory → Act → Memory → Prop where
  | request {m m' token now r reply calls} :
      Walk Position.Exchange (.start (s.handle token now r), m) calls (.done reply, m') →
      Step s m (.request token now r reply) m'
  | upload {m key} (body : ByteArray) (contentType : String) : isRawKey key = true →
      Step s m (.upload key body contentType) (m.upload key body contentType)
  | failPuts {m} (suffix : String) : Step s m (.failPuts suffix) (m.failPutsEndingWith suffix)
  | failDeletes {m} (fail : Bool) : Step s m (.failDeletes fail) (m.setDeletesFail fail)

abbrev Run (s : Service) : Memory → List Act → Memory → Prop := Walk (Step s)

variable {s : Service} {m m' : Memory}

theorem Step.of_runWithin {token : Token} {now : Instant} {r : Request} {reply : Reply}
    (h : (s.handle token now r).runWithin s.settings.requestTimeout m = (some reply, m')) :
    Step s m (.request token now r reply) m' := by
  obtain ⟨calls, hw⟩ := Position.exchanges_run (s.handle token now r) m
  rw [Position.run_of_runWithin h] at hw
  exact .request hw

theorem Step.reply_of_request {token : Token} {now : Instant} {r : Request} {reply : Reply}
    (h : Step s m (.request token now r reply) m') :
    (m' = m ∧ (r.IsCommit → reply.status ≠ 200 ∧ reply.status ≠ 500)) ∨
      ∃ order calls result, r.IsCommit ∧ readForm commitOrderForm r = .ok order ∧
        Walk Position.Exchange
          (.start (s.publisher.run ⟨token, now, order.post, order.rawKey⟩), m) calls
          (.done result, m') ∧
        reply = (Service.answer publicationDocument result).addHeaders (s.cors.actual r) := by
  cases h with
  | request hw =>
      by_cases hr : r.IsCommit
      · rcases s.handle_commit token now hr with ⟨reply', hdone, hstatus⟩ | ⟨order, hread, hmade⟩
        · rw [hdone] at hw
          obtain ⟨hreply, hm⟩ := Prod.mk.inj (Position.exchanges_done hw)
          cases hreply
          exact .inl ⟨hm, fun _ => hstatus⟩
        · rw [hmade] at hw
          obtain ⟨reply', rfl, hanswer⟩ := Position.exchanges_of_map _ hw
          obtain ⟨result, rfl, hcommit⟩ := Position.exchanges_of_map _ hanswer
          exact .inr ⟨order, _, result, hr, hread, hcommit, rfl⟩
      · exact .inl ⟨(s.idle_handle token now hr).walk hw, fun hc => absurd hc hr⟩

theorem Step.of_request {token : Token} {now : Instant} {r : Request} {reply : Reply}
    (h : Step s m (.request token now r reply) m') :
    (m' = m ∧ (r.IsCommit → reply.status ≠ 200 ∧ reply.status ≠ 500)) ∨
      ∃ order calls result, r.IsCommit ∧ readForm commitOrderForm r = .ok order ∧
        Walk Position.Exchange
          (.start (s.publisher.run ⟨token, now, order.post, order.rawKey⟩), m) calls
          (.done result, m') ∧
        reply.status = (Service.answer publicationDocument result).status := by
  refine h.reply_of_request.imp_right ?_
  rintro ⟨order, calls, result, hr, hread, hw, rfl⟩
  exact ⟨order, calls, result, hr, hread, hw, rfl⟩

def Accounted (used : List Token) (m : Memory) : Prop :=
  ∀ key object, m.objects.find? key = some object → isRawKey key = true ∨
    ∃ post, ∃ token ∈ used, isPostId post = true ∧ (PublishedKeys.of post token.text).Has key ∧
      object.options = Publisher.options

theorem Accounted.find?_eq_none {used : List Token} (h : Accounted used m) {token : Token}
    (ht : token ∉ used) {post key : String} (hk : (PublishedKeys.of post token.text).Has key) :
    m.objects.find? key = none := by
  rw [Option.eq_none_iff_forall_ne_some]
  intro object hf
  rcases h key object hf with hraw | ⟨other, used', hused, -, hk', -⟩
  · exact PublishedKeys.ne_rawKey hk hraw rfl
  · obtain ⟨-, rfl⟩ := PublishedKeys.has_injective hk hk'
    exact ht hused

theorem Accounted.settled {used : List Token} (h : Accounted used m) {j : Job} (ht : j.token ∉ used)
    {calls : List Call} {result : Except UploadError Publication}
    (hw : Walk Position.Exchange (.start (s.publisher.run j), m) calls (.done result, m')) :
    Settled j m m' result :=
  settled_of_exchanges
    ⟨h.find?_eq_none ht j.keys.has_full, h.find?_eq_none ht j.keys.has_thumbnail⟩ hw

theorem Accounted.snoc {used : List Token} (h : Accounted used m) {act : Act}
    (hs : Step s m act m') (ht : ∀ token, act.token? = some token → token ∉ used) :
    Accounted (used ++ act.token?.toList) m' := by
  have hmono {m : Memory} (h : Accounted used m) : Accounted (used ++ act.token?.toList) m := by
    intro key object hf
    refine (h key object hf).imp_right ?_
    rintro ⟨post, token, hused, hrest⟩
    exact ⟨post, token, List.mem_append_left _ hused, hrest⟩
  cases act with
  | request token now r reply =>
      rcases hs.of_request with ⟨rfl, -⟩ | ⟨order, calls, result, -, hread, hw, -⟩
      · exact hmono h
      · have hsettled := h.settled (ht token rfl) hw
        intro key object hf
        by_cases hk : (PublishedKeys.of order.post token.text).Has key
        · exact .inr ⟨order.post, token, by simp [Act.token?], isPostId_of_readForm hread, hk,
            hsettled.options key object hk hf⟩
        · cases hraw : isRawKey key with
          | true => exact .inl rfl
          | false =>
              rw [hsettled.elsewhere key hk hraw] at hf
              simpa [hraw] using hmono h key object hf
  | upload key body contentType =>
      cases hs with
      | upload _ _ hraw =>
          intro other object hf
          by_cases hk : key = other
          · exact .inl (hk ▸ hraw)
          · rw [m.find?_upload, if_neg hk] at hf
            exact hmono h other object hf
  | failPuts | failDeletes =>
      cases hs
      exact hmono h

theorem Accounted.find?_eq {used : List Token} (h : Accounted used m) {act : Act}
    (hs : Step s m act m') (ht : ∀ token, act.token? = some token → token ∉ used) {key : String}
    {object : StoredObject} (hraw : isRawKey key = false)
    (hf : m.objects.find? key = some object) : m'.objects.find? key = some object := by
  cases act with
  | request token now r reply =>
      rcases hs.of_request with ⟨rfl, -⟩ | ⟨order, calls, result, -, -, hw, -⟩
      · exact hf
      · have hsettled := h.settled (ht token rfl) hw
        refine (hsettled.elsewhere key (fun hk => ?_) hraw).trans hf
        rw [h.find?_eq_none (ht token rfl) hk] at hf
        cases hf
  | upload other body contentType =>
      cases hs with
      | upload _ _ hother =>
          have hne : other ≠ key := ne_of_isRawKey hother hraw
          rw [m.find?_upload, if_neg hne, hf]
  | failPuts | failDeletes =>
      cases hs
      exact hf

theorem tokens_append (acts more : List Act) : tokens (acts ++ more) = tokens acts ++ tokens more :=
  List.filterMap_append

theorem tokens_snoc (acts : List Act) (act : Act) :
    tokens (acts ++ [act]) = tokens acts ++ act.token?.toList := by
  rw [tokens_append]
  cases act <;> rfl

theorem not_mem_tokens {acts : List Act} {act : Act} (h : (tokens (acts ++ [act])).Nodup)
    {token : Token} (ht : act.token? = some token) : token ∉ tokens acts := by
  rw [tokens_snoc, ht] at h
  intro hmem
  exact (List.nodup_append.mp h).2.2 token hmem token (by simp) rfl

theorem accounted_of_run {acts : List Act} (h : Run s .empty acts m)
    (hd : (tokens acts).Nodup) : Accounted (tokens acts) m := by
  generalize hm : Memory.empty = m₀ at h
  induction h with
  | refl =>
      subst hm
      intro key object hf
      cases hf
  | snoc _ hs ih =>
      have hd' := hd
      rw [tokens_snoc] at hd' ⊢
      exact (ih (List.nodup_append.mp hd').1).snoc hs fun token ht => not_mem_tokens hd ht

theorem find?_of_run {acts more : List Act} (h : Run s .empty acts m) (hmore : Run s m more m')
    (hd : (tokens (acts ++ more)).Nodup) {key : String} {object : StoredObject}
    (hraw : isRawKey key = false) (hf : m.objects.find? key = some object) :
    m'.objects.find? key = some object := by
  induction hmore with
  | refl => exact hf
  | snoc hwalk hs ih =>
      rw [← List.append_assoc] at hd
      have hbefore := hd
      rw [tokens_snoc] at hbefore
      have hd' := (List.nodup_append.mp hbefore).1
      exact (accounted_of_run (h.append hwalk) hd').find?_eq hs
        (fun token ht => not_mem_tokens hd ht) hraw (ih hd')

theorem isRawKey_of_isPublic {key : String} (h : "public/".toList <+: key.toList) :
    isRawKey key = false := by
  cases hraw : isRawKey key with
  | false => rfl
  | true =>
      obtain ⟨rest, hrest⟩ := h
      have hhead : ("public/".toList ++ rest).head? = some 'p' := rfl
      rw [hrest, head_of_isRawKey hraw] at hhead
      exact absurd hhead (by decide)

def Adds (m m' : Memory) (key : String) : Prop :=
  m.objects.find? key = none ∧ (m'.objects.find? key).isSome

structure Adding (m m' : Memory) (token : Token) (r : Request) (reply : Reply) : Prop where
  pair : r.IsCommit → reply.status = 200 → ∃ order, readForm commitOrderForm r = .ok order ∧
    ∀ key, Adds m m' key ↔ (PublishedKeys.of order.post token.text).Has key
  half : r.IsCommit → reply.status = 500 → ∃ order, readForm commitOrderForm r = .ok order ∧
    (∀ key, Adds m m' key → (PublishedKeys.of order.post token.text).Has key) ∧
    ¬∀ key, (PublishedKeys.of order.post token.text).Has key → Adds m m' key
  nothing : ¬(r.IsCommit ∧ (reply.status = 200 ∨ reply.status = 500)) → ∀ key, ¬Adds m m' key

theorem adding_same {token : Token} {r : Request} {reply : Reply}
    (h : r.IsCommit → reply.status ≠ 200 ∧ reply.status ≠ 500) : Adding m m token r reply where
  pair hr hs := absurd hs (h hr).1
  half hr hs := absurd hs (h hr).2
  nothing _ key := by
    rintro ⟨hnone, hsome⟩
    rw [hnone] at hsome
    cases hsome

theorem has_of_adds {j : Job} {result : Except UploadError Publication}
    (h : Settled j m m' result) {key : String} (ha : Adds m m' key) : j.keys.Has key := by
  obtain ⟨hnone, hsome⟩ := ha
  by_contra hk
  cases hraw : isRawKey key with
  | true =>
      have hbefore := h.raw key hraw hsome
      rw [hnone] at hbefore
      cases hbefore
  | false =>
      rw [h.elsewhere key hk hraw, hnone] at hsome
      cases hsome

theorem Accounted.adding {used : List Token} (h : Accounted used m) {token : Token}
    (ht : token ∉ used) {now : Instant} {r : Request} {reply : Reply}
    (hs : Step s m (.request token now r reply) m') : Adding m m' token r reply := by
  rcases hs.of_request with ⟨rfl, hstatus⟩ | ⟨order, calls, result, hr, hread, hw, hstatus⟩
  · exact adding_same hstatus
  · have hsettled := h.settled ht hw
    have hnone {key : String} (hk : (PublishedKeys.of order.post token.text).Has key) :
        m.objects.find? key = none := h.find?_eq_none ht hk
    constructor
    · intro _ h200
      rw [hstatus, status_answer_eq_200] at h200
      obtain ⟨publication, hok⟩ := h200
      obtain ⟨hfull, hthumbnail⟩ := hsettled.ok publication hok
      refine ⟨order, hread, fun key => ⟨fun ha => has_of_adds hsettled ha, fun hk => ?_⟩⟩
      refine ⟨hnone hk, ?_⟩
      rcases hk with rfl | rfl
      · exact hfull
      · exact hthumbnail
    · intro _ h500
      rw [hstatus, status_answer_eq_500] at h500
      obtain ⟨cause, he⟩ := h500
      refine ⟨order, hread, fun key ha => has_of_adds hsettled ha, fun hall => ?_⟩
      exact hsettled.storage cause he
        ⟨(hall _ (PublishedKeys.has_full _)).2, (hall _ (PublishedKeys.has_thumbnail _)).2⟩
    · intro hnot key ha
      cases result with
      | ok publication =>
          exact hnot ⟨hr, .inl (hstatus.trans (status_answer_eq_200.mpr ⟨publication, rfl⟩))⟩
      | error e =>
          have hunused := hsettled.refused e rfl fun cause he =>
            hnot ⟨hr, .inr (hstatus.trans (status_answer_eq_500.mpr ⟨cause, he ▸ rfl⟩))⟩
          have hsome := ha.2
          rcases has_of_adds hsettled ha with rfl | rfl
          · rw [hunused.1] at hsome; cases hsome
          · rw [hunused.2] at hsome; cases hsome

/-- In every session from an empty store whose requests have distinct tokens: all keys are those
of uploads or of published images, what is published stays as it is and may be cached for ever, and
only commits publish, both images if they succeed and at most one if the store fails. -/
theorem published_objects_are_accounted_for (s : Service) {acts : List Act} {m : Memory}
    (h : Run s .empty acts m) (hd : (tokens acts).Nodup) :
    (∀ key, (m.objects.find? key).isSome → isRawKey key = true ∨
      ∃ (post : String) (token : Token), isPostId post = true ∧
        (PublishedKeys.of post token.text).Has key) ∧
    (∀ key object, m.objects.find? key = some object → "public/".toList <+: key.toList →
      object.options = ⟨"image/webp", some "public, max-age=31536000, immutable"⟩ ∧
        ∀ more m', Run s m more m' → (tokens (acts ++ more)).Nodup →
          m'.objects.find? key = some object) ∧
    ∀ token now r reply m', token ∉ tokens acts → Step s m (.request token now r reply) m' →
      Adding m m' token r reply := by
  have hm := accounted_of_run h hd
  refine ⟨?_, ?_, ?_⟩
  · intro key hsome
    obtain ⟨object, hf⟩ := Option.isSome_iff_exists.mp hsome
    refine (hm key object hf).imp_right ?_
    rintro ⟨post, token, -, hpost, hk, -⟩
    exact ⟨post, token, hpost, hk⟩
  · intro key object hf hpublic
    have hraw := isRawKey_of_isPublic hpublic
    constructor
    · rcases hm key object hf with htrue | ⟨post, token, -, -, -, hoptions⟩
      · rw [hraw] at htrue
        cases htrue
      · exact hoptions
    · intro more m' hmore hd'
      exact find?_of_run h hmore hd' hraw hf
  · intro token now r reply m' ht hs
    exact hm.adding ht hs

end Session

end ImageIntake.Http

namespace ImageIntake.Sample

open Http

def settings : Settings where
  stage := .development
  store := ⟨"https://store.example.com", "id", "secret", "auto", "showoff", .ofSeconds 10⟩
  publicBase := publicBase
  apiKey := Settings.developmentKey
  port := Settings.defaultPort
  origins := []
  requestTimeout := .ofSeconds 30

def service : Service := ⟨settings, twoPasses sanitize⟩

def request : Request where
  method := "POST"
  target := Route.commit.path
  headers := [("content-type", "application/json".toUTF8), ("x-api-key", "dev-123".toUTF8)]
  body := ("\x7b\"post_id\":\"" ++ job.post ++ "\",\"raw_key\":\"" ++ job.rawKey ++ "\"\x7d").toUTF8

def answered : Reply × Memory := (service.handle job.token job.now request).run stored

end ImageIntake.Sample

namespace ImageIntake.Http

namespace Session

theorem published_objects_are_accounted_for_commit :
    Run Sample.service .empty [.upload Sample.job.rawKey Sample.raw "image/png"] Sample.stored ∧
      Step Sample.service Sample.stored
        (.request Sample.job.token Sample.job.now Sample.request Sample.answered.1)
        Sample.answered.2 ∧
      ∃ order, readForm commitOrderForm Sample.request = .ok order ∧
        ∀ key, Adds Sample.stored Sample.answered.2 key ↔
          (PublishedKeys.of order.post Sample.job.token.text).Has key := by
  have hrun : Run Sample.service .empty [.upload Sample.job.rawKey Sample.raw "image/png"]
      Sample.stored := .single (.upload _ _ Sample.isRawKey_job)
  obtain ⟨calls, hw⟩ := Position.exchanges_run
    (Sample.service.handle Sample.job.token Sample.job.now Sample.request) Sample.stored
  have hstep : Step Sample.service Sample.stored
      (.request Sample.job.token Sample.job.now Sample.request Sample.answered.1)
      Sample.answered.2 := .request hw
  have hadding := (published_objects_are_accounted_for Sample.service hrun List.nodup_nil).2.2
    _ _ _ _ _ List.not_mem_nil hstep
  have hcommit : Sample.request.IsCommit := ⟨rfl, by decide +kernel⟩
  have hstatus : Sample.answered.1.status = 200 := by decide +kernel
  exact ⟨hrun, hstep, hadding.pair hcommit hstatus⟩

end Session

end ImageIntake.Http
