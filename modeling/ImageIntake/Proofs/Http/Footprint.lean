import ImageIntake.Proofs.Http.Guard
import ImageIntake.Proofs.Http.Session
import ImageIntake.Proofs.Store.Footprint
import ImageIntake.Proofs.Upload.Contract
import ImageIntake.Proofs.Upload.KeyForm

namespace ImageIntake

def Token.Grants (token : Token) (call : Call) : Prop :=
  ∃ extension mime,
    (extension, mime) ∈ [("jpg", "image/jpeg"), ("png", "image/png"), ("webp", "image/webp")] ∧
    call = .presign ("raw/" ++ token.text ++ "." ++ extension) mime (.ofSeconds 300)

inductive Http.CommitOrder.Allows (order : CommitOrder) (token : Token) : Call → Prop where
  | read : RawKeyForm order.rawKey → Allows order token (.get order.rawKey (5 * 1024 * 1024))
  | write (w : Write) : PublishedKeyForm order.post token.text w.key → Allows order token (.put w)
  | remove : RawKeyForm order.rawKey → Allows order token (.delete order.rawKey)

theorem Token.grants_rawKey (token : Token) (type : ImageType) :
    token.Grants (.presign (rawKey type token) type.mime Policy.uploadLifetime) := by
  refine ⟨type.extension, type.mime, ?_, rfl⟩
  cases type <;> simp [ImageType.extension, ImageType.mime]

theorem only_authorize (token : Token) (d : Declaration) :
    (authorize Policy.uploadLifetime token d).Only token.Grants := by
  cases d.fate with
  | unsupported h | tooLarge h =>
      rw [h]
      exact .done _
  | asked type h =>
      rw [h.authorize_eq]
      exact .presign (token.grants_rawKey type) fun answer => .done _

variable (p : Publisher) (token : Token) (now : Instant) {order : Http.CommitOrder}

theorem only_publish (hpost : isPostId order.post = true) (hraw : RawKeyForm order.rawKey)
    (pair : RenditionPair) :
    (p.publish (.of order.post token.text) order.rawKey now pair).Only (order.Allows token) := by
  refine .putBoth ?_ ?_ fun answer => ?_
  · exact .write _ (PublishedKeys.form_of_has hpost (PublishedKeys.has_full _))
  · exact .write _ (PublishedKeys.form_of_has hpost (PublishedKeys.has_thumbnail _))
  · cases answer with
    | error cause => exact .done _
    | ok => exact .delete (.remove hraw) fun _ => .done _

theorem only_publishUpload (hpost : isPostId order.post = true) (hraw : RawKeyForm order.rawKey)
    (raw : ByteArray) :
    (p.publishUpload (.of order.post token.text) order.rawKey now raw).Only
      (order.Allows token) := by
  rw [Publisher.publishUpload]
  split
  · exact .done _
  · split
    · exact .done _
    · cases p.render raw with
      | none => exact .done _
      | some pair => exact only_publish p token now hpost hraw pair

theorem only_commit (hpost : isPostId order.post = true) :
    (p.commit token now order.post order.rawKey).Only (order.Allows token) := by
  rw [Publisher.commit]
  split
  · next hraw =>
    have hform := isRawKey_iff.mp hraw
    refine .get (.read hform) fun answer => ?_
    rcases answer with cause | raw
    · cases cause <;> exact .done _
    · exact only_publishUpload p token now hpost hform raw
  · exact .done _

namespace Http

inductive Service.Allows (s : Service) (token : Token) (r : Request) : Call → Prop where
  | grant {call : Call} : r.method = "POST" → r.path = "/api/uploads/presign" →
      r.header? "x-api-key" = some s.settings.apiKey.toUTF8 → token.Grants call →
      Allows s token r call
  | publish {order : CommitOrder} {call : Call} : r.method = "POST" →
      r.path = "/api/uploads/commit" → r.header? "x-api-key" = some s.settings.apiKey.toUTF8 →
      readForm commitOrderForm r = .ok order → order.Allows token call → Allows s token r call

theorem Service.only_handle (s : Service) (r : Request) :
    (s.handle token now r).Only (s.Allows token r) := by
  cases s.fate token now r with
  | answered reply hreply =>
      rw [hreply]
      exact .done reply
  | presigned d hr hadmits _ hmade =>
      have honly : (authorize Policy.uploadLifetime token d).Only (s.Allows token r) :=
        (only_authorize token d).mono fun call hcall =>
          .grant hr.1 hr.2 (Guard.header?_of_admits hadmits) hcall
      rw [hmade]
      exact (honly.map _).map _
  | committed order hr hadmits hread hmade =>
      have honly : (s.publisher.commit token now order.post order.rawKey).Only
          (s.Allows token r) :=
        (only_commit s.publisher token now (isPostId_of_readForm hread)).mono fun call hcall =>
          .publish hr.1 hr.2 (Guard.header?_of_admits hadmits) hread hcall
      rw [hmade]
      exact (honly.map _).map _

theorem Service.calls_are_confined (s : Service) (r : Request) {trace : List Event}
    {pos : Position Reply} (h : Position.Converses (.start (s.handle token now r)) trace pos) :
    ∀ call ∈ callsIn trace, s.Allows token r call :=
  Position.calls_of_only (s.only_handle token now r) h

theorem Service.calls_are_confined_read :
    ∃ pos, Position.Converses
        (.start (Sample.service.handle Sample.job.token Sample.job.now Sample.request))
        [.asks (.get Sample.job.rawKey (5 * 1024 * 1024))] pos ∧
      Sample.service.Allows Sample.job.token Sample.request
        (.get Sample.job.rawKey (5 * 1024 * 1024)) := by
  have hcommit : Sample.request.IsCommit := ⟨rfl, by decide +kernel⟩
  have hadmits : Sample.service.guard.admits Sample.request = true := by decide +kernel
  have hread : readForm commitOrderForm Sample.request =
      .ok ⟨Sample.job.post, Sample.job.rawKey⟩ := by decide +kernel
  have hmade := Sample.service.handle_order Sample.job.token Sample.job.now hcommit hadmits hread
  have hget : Sample.service.publisher.commit Sample.job.token Sample.job.now Sample.job.post
      Sample.job.rawKey = .get Sample.job.rawKey Policy.maxUploadBytes
        (Sample.service.publisher.afterRead Sample.job) :=
    Sample.service.publisher.run_of_isRawKey Sample.isRawKey_job
  have hasks : ∃ pos, Position.Converses
      (.start (Sample.service.handle Sample.job.token Sample.job.now Sample.request))
      [.asks (.get Sample.job.rawKey (5 * 1024 * 1024))] pos := by
    rw [hmade, hget]
    exact ⟨_, .single .askGet⟩
  obtain ⟨pos, hpos⟩ := hasks
  exact ⟨pos, hpos, Sample.service.calls_are_confined _ _ _ hpos _ List.mem_cons_self⟩

end Http

end ImageIntake
