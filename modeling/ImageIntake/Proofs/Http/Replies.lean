import ImageIntake.Proofs.Http.Redemption
import ImageIntake.Proofs.Store.Results

namespace ImageIntake.Http

abbrev ErrorKind := Nat × String × Bool

def ApiError.kind (e : ApiError) : ErrorKind := (e.status, e.code, e.allowRetry)

def rejections : List ErrorKind := [
  (401, "unauthorized", false),
  (400, "invalid_content_type", false),
  (400, "invalid_json", false),
  (400, "validation_error", false)]

def Route.failures : Route → List ErrorKind
  | .presign => [
      (400, "unsupported_media_type", false),
      (400, "payload_too_large", false),
      (500, "storage_error", true)]
  | .commit => [
      (400, "invalid_input", false),
      (404, "not_found", false),
      (500, "storage_error", true)]
  | _ => []

structure Reply.Carries (reply : Reply) (status : Nat) (document : Json) : Prop where
  status : reply.status = status
  contentType : ("content-type", "application/json".toUTF8) ∈ reply.headers
  body : reply.body = .json document

def Reply.Tells (reply : Reply) (kinds : List ErrorKind) : Prop :=
  ∃ status code allowRetry message, (status, code, allowRetry) ∈ kinds ∧
    reply.Carries status (.record [
      ("allowRetry", .bool allowRetry),
      ("error", .record [("code", .string code), ("message", .string message)])])

inductive Route.Gives : Route → Json → Prop where
  | grant (url key mime : String) : mime ∈ ["image/jpeg", "image/png", "image/webp"] →
      Gives .presign (.record [
        ("upload_url", .string url), ("raw_key", .string key), ("content_type", .string mime)])
  | publication (fullUrl thumbnailUrl createdAt : String) (width height bytes : Nat) :
      Gives .commit (.record [
        ("status", .string "OK"),
        ("url_original", .string fullUrl),
        ("url_thumb", .string thumbnailUrl),
        ("width", .number width),
        ("height", .number height),
        ("bytes", .number bytes),
        ("created_at", .string createdAt)])

def Route.Yields (route : Route) (reply : Reply) : Prop :=
  (∃ document, route.Gives document ∧ reply.Carries 200 document) ∨ reply.Tells route.failures

def Route.Answers (route : Route) (reply : Reply) : Prop :=
  reply.Tells rejections ∨ route.Yields reply

theorem Route.gives_grantDocument (g : Grant) : presign.Gives (grantDocument g) :=
  .grant g.url g.rawKey g.type.mime (by cases g.type <;> decide)

theorem Route.gives_publicationDocument (p : Publication) : commit.Gives (publicationDocument p) :=
  .publication p.fullUrl p.thumbnailUrl p.createdAt.rfc3339 p.width p.height p.bytes

theorem Reply.carries_share (s : Service) (r : Request) (status : Nat) (document : Json) :
    (s.share r (.ofBody status (.json document))).Carries status document :=
  ⟨rfl, List.mem_cons_self, rfl⟩

theorem ApiError.tells_share (e : ApiError) {kinds : List ErrorKind} (h : e.kind ∈ kinds)
    (s : Service) (r : Request) : (s.share r e.reply).Tells kinds :=
  ⟨e.status, e.code, e.allowRetry, e.message, h, Reply.carries_share s r e.status e.document⟩

theorem Reply.Tells.common {reply : Reply} {kinds kinds' : List ErrorKind} (h : reply.Tells kinds)
    (h' : reply.Tells kinds') : ∃ kind ∈ kinds, kind ∈ kinds' := by
  obtain ⟨status, code, allowRetry, message, hmem, hreply⟩ := h
  obtain ⟨status', code', allowRetry', message', hmem', hreply'⟩ := h'
  obtain rfl : status = status' := hreply.status.symm.trans hreply'.status
  have hbody := hreply.body.symm.trans hreply'.body
  simp only [Body.json.injEq, Json.record.injEq, List.cons.injEq, Prod.mk.injEq, Json.bool.injEq,
    Json.string.injEq, true_and, and_true] at hbody
  obtain ⟨rfl, rfl, -⟩ := hbody
  exact ⟨_, hmem, hmem'⟩

theorem Reply.Carries.not_tells_rejections {reply : Reply} {document : Json}
    (h : reply.Carries 200 document) : ¬reply.Tells rejections := by
  rintro ⟨status, code, allowRetry, message, hmem, hreply⟩
  have hstatus : ∀ kind ∈ rejections, kind.1 ≠ 200 := by decide
  exact hstatus _ hmem (hreply.status.symm.trans h.status)

theorem Route.disjoint_failures (route : Route) :
    ∀ kind ∈ rejections, kind ∉ route.failures := by
  cases route <;> decide

theorem Route.Yields.not_tells_rejections {route : Route} {reply : Reply} (h : route.Yields reply) :
    ¬reply.Tells rejections := by
  intro hrejected
  rcases h with ⟨document, -, hreply⟩ | hfailed
  · exact hreply.not_tells_rejections hrejected
  · obtain ⟨kind, hmem, hmem'⟩ := hrejected.common hfailed
    exact route.disjoint_failures kind hmem hmem'

theorem ApiError.kind_validation (message : String) : (validation message).kind ∈ rejections :=
  List.mem_of_elem_eq_true rfl

theorem kind_of_readForm {α : Type} {f : FormOf α} {r : Request} {e : ApiError}
    (hf : ∀ a e, f.brokenRule a = some e → ∃ message, e = .validation message)
    (h : readForm f r = .error e) : e.kind ∈ rejections := by
  rcases readForm_eq_error h with rfl | rfl | ⟨message, rfl⟩ | ⟨a, hrule⟩
  · decide
  · decide
  · exact ApiError.kind_validation message
  · obtain ⟨message, rfl⟩ := hf a e hrule
    exact ApiError.kind_validation message

theorem kind_of_declaration {r : Request} {e : ApiError}
    (h : readForm declarationForm r = .error e) : e.kind ∈ rejections := by
  refine kind_of_readForm (fun d e hrule => ?_) h
  simp only [declarationForm] at hrule
  split at hrule
  · cases hrule
    exact ⟨_, rfl⟩
  · cases hrule

theorem kind_of_commitOrder {r : Request} {e : ApiError}
    (h : readForm commitOrderForm r = .error e) : e.kind ∈ rejections := by
  refine kind_of_readForm (fun order e hrule => ?_) h
  simp only [commitOrderForm] at hrule
  split at hrule
  · cases hrule
    exact ⟨_, rfl⟩
  · split at hrule
    · cases hrule
      exact ⟨_, rfl⟩
    · cases hrule

def Route.Allows (route : Route) {α : Type} (result : Except UploadError α) : Prop :=
  ∀ e, result = .error e → (ApiError.ofUpload e).kind ∈ route.failures

theorem Route.allows_ok (route : Route) {α : Type} (a : α) :
    route.Allows (.ok a : Except UploadError α) := nofun

theorem Route.allows_error {route : Route} {α : Type} {e : UploadError}
    (h : route.failures.elem (ApiError.ofUpload e).kind = true) :
    route.Allows (.error e : Except UploadError α) := by
  rintro _ ⟨⟩
  exact List.mem_of_elem_eq_true h

theorem results_authorize (lifetime : Span) (token : Token) (d : Declaration) :
    (authorize lifetime token d).Results Route.presign.Allows := by
  cases d.fate with
  | unsupported h | tooLarge h =>
      rw [h]
      exact .done (Route.allows_error rfl)
  | asked type h =>
      rw [h.authorize_eq]
      refine .presign fun answer => ?_
      cases answer with
      | error cause => exact .done (Route.allows_error rfl)
      | ok url => exact .done (Route.allows_ok _ _)

theorem results_publish (p : Publisher) (keys : PublishedKeys) (rawKey : String) (now : Instant)
    (pair : RenditionPair) : (p.publish keys rawKey now pair).Results Route.commit.Allows := by
  refine .putBoth fun answer => ?_
  cases answer with
  | error cause => exact .done (Route.allows_error rfl)
  | ok => exact .delete fun _ => .done (Route.allows_ok _ _)

theorem results_publishUpload (p : Publisher) (keys : PublishedKeys) (rawKey : String)
    (now : Instant) (raw : ByteArray) :
    (p.publishUpload keys rawKey now raw).Results Route.commit.Allows := by
  have hinvalid (reason : InvalidUpload) :
      Route.commit.Allows (.error (.invalid reason) : Except UploadError Publication) :=
    Route.allows_error rfl
  rw [Publisher.publishUpload]
  split
  · exact .done (hinvalid _)
  · split
    · exact .done (hinvalid _)
    · split
      · exact .done (hinvalid _)
      · exact results_publish ..

theorem results_commit (p : Publisher) (token : Token) (now : Instant) (post rawKey : String) :
    (p.commit token now post rawKey).Results Route.commit.Allows := by
  have hnotFound : Route.commit.Allows (.error .notFound : Except UploadError Publication) :=
    Route.allows_error rfl
  rw [Publisher.commit]
  split
  · refine .get fun answer => ?_
    split
    · exact .done (Route.allows_error rfl)
    · exact .done hnotFound
    · exact results_publishUpload ..
  · exact .done hnotFound

namespace Service

variable (s : Service) {route : Route} {r : Request}

theorem yields_answer {α : Type} {document : α → Json} (hgives : ∀ a, route.Gives (document a))
    {result : Except UploadError α} (h : route.Allows result) :
    route.Yields (s.share r (answer document result)) := by
  cases result with
  | ok a => exact .inl ⟨document a, hgives a, Reply.carries_share s r 200 (document a)⟩
  | error e => exact .inr (ApiError.tells_share _ (h e rfl) s r)

theorem results_answer {α : Type} {document : α → Json} (hgives : ∀ a, route.Gives (document a))
    {p : Program (Except UploadError α)} (h : p.Results route.Allows) :
    ((p.map (answer document)).map (s.share r)).Results route.Yields :=
  (h.map (Q := fun reply => route.Yields (s.share r reply))
    fun _ hresult => s.yields_answer hgives hresult).map fun _ hreply => hreply

theorem dismisses_or_works (hguarded : route.isGuarded = true) (hr : r.PostsTo route) :
    (∃ reply, s.Dismisses r reply ∧ reply.Tells rejections) ∨
      ∀ token now, (s.handle token now r).Results route.Yields := by
  have hdismisses (e : ApiError) (hkind : e.kind ∈ rejections)
      (h : ∀ token now, s.handle token now r = .done (s.share r e.reply)) :
      ∃ reply, s.Dismisses r reply ∧ reply.Tells rejections :=
    ⟨_, dismisses_of_handle h, e.tells_share hkind s r⟩
  cases hadmits : s.guard.admits r with
  | false =>
      exact .inl (hdismisses (.ofUpload .unauthorized) (by decide) fun token now =>
        s.handle_unauthorized token now hr hguarded hadmits)
  | true =>
      cases route with
      | root | health | page | description => cases hguarded
      | presign =>
          cases hread : readForm declarationForm r with
          | error e =>
              refine .inl (hdismisses e (kind_of_declaration hread) fun token now => ?_)
              rw [s.handle_presign token now hr hadmits, presign, hread]
              rfl
          | ok d =>
              refine .inr fun token now => ?_
              rw [s.handle_declaration token now hr hadmits hread]
              exact s.results_answer Route.gives_grantDocument (results_authorize ..)
      | commit =>
          cases hread : readForm commitOrderForm r with
          | error e =>
              refine .inl (hdismisses e (kind_of_commitOrder hread) fun token now => ?_)
              rw [s.handle_admitted token now hr hadmits, commit, hread]
              rfl
          | ok order =>
              refine .inr fun token now => ?_
              rw [s.handle_order token now hr hadmits hread]
              exact s.results_answer Route.gives_publicationDocument (results_commit ..)

/-- A request posted to an upload route gets what the route can answer and nothing else, from
every store and whatever it contains, unless it takes too long; and a store is asked for nothing on
behalf of those that are turned away. -/
theorem upload_routes_answer (hguarded : route.isGuarded = true) (hr : r.PostsTo route)
    (token : Token) (now : Instant) :
    (∀ trace reply, Position.Converses (.start (s.handle token now r)) trace (.done reply) →
      route.Answers reply ∧ (reply.Tells rejections → callsIn trace = [])) ∧
    (∀ trace pos, Position.Converses (.start (s.handle token now r)) trace pos →
      ∃ more reply, Position.Converses pos more (.done reply)) ∧
    ∀ {σ : Type} [ObjectStore σ] (m m' : σ) (reply : Reply),
      (s.handle token now r).runWithin s.settings.requestTimeout m = (some reply, m') →
        s.respond token now r m = (reply, m') ∧ route.Answers reply ∧
          (reply.Tells rejections → m' = m) := by
  refine ⟨fun trace reply hw => ?_, fun trace pos hw => Position.converses_completes hw,
    fun m m' reply hrun => ⟨?_, ?_⟩⟩
  · rcases s.dismisses_or_works hguarded hr with ⟨rejection, hdismisses, htells⟩ | hworks
    · rw [hdismisses.handle token now] at hw
      obtain ⟨rfl, rfl⟩ := Position.converses_done hw
      exact ⟨.inl htells, fun _ => rfl⟩
    · have hyields := (hworks token now).of_converses hw
      exact ⟨.inr hyields, fun htells => absurd htells hyields.not_tells_rejections⟩
  · exact respond_of_runWithin hrun
  · rcases s.dismisses_or_works hguarded hr with ⟨rejection, hdismisses, htells⟩ | hworks
    · rw [hdismisses.handle token now] at hrun
      cases hrun
      exact ⟨.inl htells, fun _ => rfl⟩
    · have hyields := (hworks token now).of_runWithin hrun
      exact ⟨.inr hyields, fun htells => absurd htells hyields.not_tells_rejections⟩

theorem upload_routes_answer_sample :
    Sample.ask.PostsTo .presign ∧ Sample.mistaken.PostsTo .commit ∧
      Route.presign.Answers
        (Sample.renderer.respond Sample.job.token ⟨0, 0⟩ Sample.ask Memory.empty).1 ∧
      ∀ trace reply, Position.Converses
        (.start (Sample.renderer.handle Sample.job.token ⟨0, 0⟩ Sample.mistaken)) trace
          (.done reply) → Route.commit.Answers reply := by
  have hask : Sample.ask.PostsTo .presign := ⟨rfl, by decide +kernel⟩
  have hmistaken : Sample.mistaken.PostsTo .commit := ⟨rfl, by decide +kernel⟩
  obtain ⟨-, -, hstore⟩ := upload_routes_answer Sample.renderer rfl hask Sample.job.token ⟨0, 0⟩
  obtain ⟨hsaid, -, -⟩ :=
    upload_routes_answer Sample.renderer rfl hmistaken Sample.job.token ⟨0, 0⟩
  have htimeout : 0 < Sample.renderer.settings.requestTimeout.nanos := by decide
  obtain ⟨hrespond, hanswers, -⟩ := hstore _ _ _ (Program.runWithin_eq htimeout _ Memory.empty)
  refine ⟨hask, hmistaken, ?_, fun trace reply hw => (hsaid trace reply hw).1⟩
  rw [hrespond]
  exact hanswers

end Service

end ImageIntake.Http
