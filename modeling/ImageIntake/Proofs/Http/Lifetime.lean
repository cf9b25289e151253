import ImageIntake.Proofs.Http.Routing
import ImageIntake.Proofs.S3.Lifetime
import ImageIntake.Proofs.Upload.Redemption

namespace ImageIntake

theorem Policy.bounded_uploadLifetime : uploadLifetime.Bounded where
  pos := by decide
  le_week := by decide

variable {lifetime : Span} {token : Token} {d : Declaration} {type : ImageType}

section

variable {σ : Type} [ObjectStore σ] {store : σ}

theorem Span.GrantedBy.run_authorize (h : lifetime.GrantedBy store (rawKey type token) type.mime)
    (hd : d.Passes type) :
    ∃ url, (authorize lifetime token d).run store = (.ok ⟨url, rawKey type token, type⟩, store) := by
  obtain ⟨url, hurl, -⟩ := h
  refine ⟨url, ?_⟩
  rw [hd.authorize_eq, Program.run_presign, hurl]
  rfl

theorem Span.RefusedBy.run_authorize (h : lifetime.RefusedBy store (rawKey type token) type.mime)
    (hd : d.Passes type) :
    ∃ detail, (authorize lifetime token d).run store =
      (.error (.storage (.configuration detail)), store) := by
  obtain ⟨detail, hdetail⟩ := h
  refine ⟨detail, ?_⟩
  rw [hd.authorize_eq, Program.run_presign, hdetail]
  rfl

end

inductive Grant.Alike : Except UploadError Grant → Except UploadError Grant → Prop where
  | ok (url url' key : String) (type : ImageType) :
      Alike (.ok ⟨url, key, type⟩) (.ok ⟨url', key, type⟩)
  | error (e : UploadError) : Alike (.error e) (.error e)

namespace S3.Gateway

variable {τ : Type} {g : Gateway τ} {endpoint : Endpoint}

theorem addresses_rawKey (hreaches : Endpoint.of? g.readUrl g.settings = some endpoint)
    (type : ImageType)
    (token : Token) : g.Addresses (rawKey type token) type.mime where
  reaches := ⟨endpoint, hreaches⟩
  key := by simp [rawKey, rawPrefix]
  type := by cases type <;> decide +kernel

variable [Transport τ]

theorem authorize_alike (hreaches : Endpoint.of? g.readUrl g.settings = some endpoint)
    (hbounded : lifetime.Bounded) (m : Memory) (token : Token) (d : Declaration) :
    Grant.Alike ((authorize lifetime token d).run m).1 ((authorize lifetime token d).run g).1 := by
  cases d.fate with
  | unsupported h | tooLarge h =>
      rw [h]
      exact .error _
  | asked type hd =>
      have haddresses := addresses_rawKey hreaches type token
      obtain ⟨url, hrun⟩ := (m.grantedBy_of_pos hbounded.pos).run_authorize hd
      obtain ⟨url', hrun'⟩ := (g.grantedBy_of_le haddresses hbounded.le_week).run_authorize hd
      rw [hrun, hrun']
      exact .ok url url' _ _

theorem authorize_alike_iff_bounded (hreaches : Endpoint.of? g.readUrl g.settings = some endpoint)
    (hd : d.Passes type) (m : Memory) (token : Token) :
    Grant.Alike ((authorize lifetime token d).run m).1 ((authorize lifetime token d).run g).1 ↔
      lifetime.Bounded := by
  refine ⟨fun halike => ?_, fun hbounded => authorize_alike hreaches hbounded m token d⟩
  by_contra hnot
  -- one of the stores grants and the other refuses
  rcases Nat.eq_zero_or_pos lifetime.nanos with hzero | hpos
  · have hle : lifetime.nanos ≤ maxLifetime.nanos := hzero ▸ Nat.zero_le _
    obtain ⟨detail, hrun⟩ := (m.refusedBy_of_zero hzero).run_authorize hd
    obtain ⟨url, hrun'⟩ :=
      (g.grantedBy_of_le (addresses_rawKey hreaches type token) hle).run_authorize hd
    rw [hrun, hrun'] at halike
    cases halike
  · have hlt : maxLifetime < lifetime := Nat.lt_of_not_le fun hle => hnot ⟨hpos, hle⟩
    obtain ⟨url, hrun⟩ := (m.grantedBy_of_pos hpos).run_authorize hd
    obtain ⟨detail, hrun'⟩ := (g.refusedBy_of_lt hlt).run_authorize hd
    rw [hrun, hrun'] at halike
    cases halike

end S3.Gateway

namespace Http

open S3

inductive Reply.SameButForUrl : Reply → Reply → Prop where
  | granted (url url' key mime : String) (headers : Headers) :
      SameButForUrl
        ((Reply.ofBody 200 (.json (.record [("upload_url", .string url), ("raw_key", .string key),
          ("content_type", .string mime)]))).addHeaders headers)
        ((Reply.ofBody 200 (.json (.record [("upload_url", .string url'), ("raw_key", .string key),
          ("content_type", .string mime)]))).addHeaders headers)
  | same (reply : Reply) : SameButForUrl reply reply

theorem Reply.sameButForUrl_of_alike {result result' : Except UploadError Grant}
    (h : Grant.Alike result result') (headers : Headers) :
    SameButForUrl ((Service.answer grantDocument result).addHeaders headers)
      ((Service.answer grantDocument result').addHeaders headers) := by
  cases h with
  | ok url url' key type => exact .granted url url' key type.mime headers
  | error e => exact .same _

theorem Service.handle_presign_alike (s : Service) (token : Token) (now : Instant) {r : Request}
    (hr : r.PostsTo .presign) (m : Memory) {τ : Type} [Transport τ] {g : Gateway τ}
    {endpoint : Endpoint} (hreaches : Endpoint.of? g.readUrl g.settings = some endpoint) :
    Reply.SameButForUrl ((s.handle token now r).run m).1 ((s.handle token now r).run g).1 := by
  cases hadmits : s.guard.admits r with
  | false =>
      rw [s.handle_unauthorized token now hr rfl hadmits]
      exact .same _
  | true =>
      cases hread : readForm declarationForm r with
      | error e =>
          rw [s.handle_presign token now hr hadmits, presign, hread]
          exact .same _
      | ok d =>
          have halike := Gateway.authorize_alike hreaches Policy.bounded_uploadLifetime m token d
          rw [s.handle_declaration token now hr hadmits hread]
          simp only [Program.run_map]
          exact Reply.sameButForUrl_of_alike halike _

end Http

end ImageIntake
