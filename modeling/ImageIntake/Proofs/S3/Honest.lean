import ImageIntake.Proofs.S3.Response
import ImageIntake.Proofs.Text.Percent

namespace ImageIntake.S3

open Text

structure Describes (field : String × String) : Prop where
  name : field.1 ∈ ["cache-control", "content-type", "content-length"]
  value : Http.isHeaderText field.2 = true

structure Request.Asks (r : Request) (endpoint : Endpoint) (method operation : String) : Prop where
  endpoint : r.endpoint = endpoint
  method : r.method = method
  query : r.query = [("x-id", operation)]
  fields : ∀ field ∈ r.headers, Describes field
  length : r.body.size = 0 ∨ ("content-length", toString r.body.size) ∈ r.headers

structure Sets (before after : String → Option ByteArray) (path : String)
    (value : Option ByteArray) : Prop where
  here : after path = value
  elsewhere : ∀ other, decodedPath other ≠ decodedPath path → after other = before other

structure Honest {τ : Type} [Transport τ] (who : Signer) (endpoint : Endpoint)
    (held : τ → String → Option ByteArray) : Prop where
  found : ∀ {r : Request} {t : τ} {body : ByteArray}, r.Asks endpoint "GET" "GetObject" →
    held t r.path = some body →
    ∃ answer t', Transport.send (who.sign r) t = (.response answer, t') ∧ held t' = held t ∧
      answer.status = 200 ∧ answer.Delivers body
  missing : ∀ {r : Request} {t : τ}, r.Asks endpoint "GET" "GetObject" → held t r.path = none →
    ∃ answer t' document, Transport.send (who.sign r) t = (.response answer, t') ∧
      held t' = held t ∧ answer.status = 404 ∧ answer.Delivers document ∧
      errorCode? document = some "NoSuchKey"
  put : ∀ {r : Request} {t : τ}, r.Asks endpoint "PUT" "PutObject" →
    ∃ answer t' document, Transport.send (who.sign r) t = (.response answer, t') ∧
      Sets (held t) (held t') r.path (some r.body) ∧ answer.status = 200 ∧
      answer.Delivers document ∧ isErrorDocument document = false
  delete : ∀ {r : Request} {t : τ}, r.Asks endpoint "DELETE" "DeleteObject" →
    ∃ answer t' document, Transport.send (who.sign r) t = (.response answer, t') ∧
      Sets (held t) (held t') r.path none ∧ answer.isSuccess = true ∧
      answer.Delivers document ∧ isErrorDocument document = false

theorem Endpoint.keyPath_injective {endpoint : Endpoint} {key key' : String}
    (h : decodedPath (endpoint.keyPath key) = decodedPath (endpoint.keyPath key')) : key = key' :=
  decodedPath_escapePath_injective h

theorem Sets.of_keyPath {before after : String → Option ByteArray} {endpoint : Endpoint}
    {key : String} {value : Option ByteArray} (h : Sets before after (endpoint.keyPath key) value)
    (other : String) :
    after (endpoint.keyPath other) =
      if key = other then value else before (endpoint.keyPath other) := by
  split
  · next heq => rw [← heq, h.here]
  · next hne => exact h.elsewhere _ fun heq => hne (Endpoint.keyPath_injective heq).symm

theorem buildRequest_eq_ok {readUrl : UrlReader} {settings : StoreSettings} {endpoint : Endpoint}
    {key : String} {headers : List (String × String)} {body : ByteArray} (operation : Operation)
    (hendpoint : Endpoint.of? readUrl settings = some endpoint) (hkey : key ≠ "")
    (hfields : ∀ field ∈ headers, Describes field)
    (hlength : body.size = 0 ∨ ("content-length", toString body.size) ∈ headers) :
    ∃ r, buildRequest readUrl settings operation key headers body = .ok r ∧
      r.Asks endpoint operation.method operation.name ∧ r.path = endpoint.keyPath key ∧
      r.body = body := by
  have hlegal : headers.all (fun field => Http.isHeaderText field.2) = true :=
    List.all_eq_true.mpr fun field hfield => (hfields field hfield).value
  let r : Request := ⟨operation.method, endpoint, endpoint.keyPath key,
    [("x-id", operation.name)], headers, body⟩
  have hr : buildRequest readUrl settings operation key headers body = .ok r := by
    rw [buildRequest, if_neg hkey, hlegal, hendpoint]
    rfl
  exact ⟨r, hr, ⟨rfl, rfl, rfl, hfields, hlength⟩, rfl, rfl⟩

theorem buildRequest_bare {readUrl : UrlReader} {settings : StoreSettings} {endpoint : Endpoint}
    {key : String} (operation : Operation)
    (hendpoint : Endpoint.of? readUrl settings = some endpoint) (hkey : key ≠ "") :
    ∃ r, buildRequest readUrl settings operation key [] .empty = .ok r ∧
      r.Asks endpoint operation.method operation.name ∧ r.path = endpoint.keyPath key := by
  have hsize : ByteArray.empty.size = 0 := rfl
  obtain ⟨r, hr, hasks, hpath, -⟩ :=
    buildRequest_eq_ok operation hendpoint hkey (List.forall_mem_nil _) (.inl hsize)
  exact ⟨r, hr, hasks, hpath⟩

structure LegalOptions (options : PutOptions) : Prop where
  contentType : Http.isHeaderText options.contentType = true
  cacheControl : ∀ directive, options.cacheControl = some directive →
    Http.isHeaderText directive = true

theorem LegalOptions.describes {options : PutOptions} (h : LegalOptions options) (size : Nat) :
    ∀ field ∈ optionHeaders options ++ [("content-length", toString size)], Describes field := by
  have htype : Describes ("content-type", options.contentType) := ⟨by simp, h.contentType⟩
  have hlength : Describes ("content-length", toString size) :=
    ⟨by simp, isHeaderText_toString size⟩
  intro field hfield
  rw [optionHeaders, List.mem_append, List.mem_singleton] at hfield
  rcases hfield with hfield | rfl
  · split at hfield
    · rw [List.mem_singleton] at hfield
      exact hfield ▸ htype
    · next directive hdirective =>
      rw [List.mem_pair] at hfield
      rcases hfield with rfl | rfl
      · exact ⟨by simp, h.cacheControl directive hdirective⟩
      · exact htype
  · exact hlength

theorem buildRequest_write {readUrl : UrlReader} {settings : StoreSettings} {endpoint : Endpoint}
    {w : Write} (hendpoint : Endpoint.of? readUrl settings = some endpoint) (hkey : w.key ≠ "")
    (hoptions : LegalOptions w.options) :
    ∃ r, buildRequest readUrl settings .put w.key
        (optionHeaders w.options ++ [("content-length", toString w.body.size)]) w.body = .ok r ∧
      r.Asks endpoint "PUT" "PutObject" ∧ r.path = endpoint.keyPath w.key ∧ r.body = w.body :=
  buildRequest_eq_ok .put hendpoint hkey (hoptions.describes w.body.size)
    (.inr (List.mem_append_right _ (List.mem_singleton_self _)))

namespace Gateway

variable {τ : Type} [Transport τ] {g : Gateway τ} {r : Request} {answer : Response} {t' : τ}

theorem send_of_response
    (h : Transport.send (g.signer.sign r) g.transport = (.response answer, t')) :
    send (.ok r) g = (.ok answer, { g with transport := t' }) := by
  rw [send, h]

theorem getObject_of_response {key : String}
    (hr : buildRequest g.readUrl g.settings .get key [] .empty = .ok r)
    (h : Transport.send (g.signer.sign r) g.transport = (.response answer, t')) (limit : Nat) :
    getObject key limit g = (receive key limit answer, { g with transport := t' }) := by
  rw [getObject]
  simp only [bind, StateT.bind, get, getThe, MonadStateOf.get, StateT.get, pure, hr,
    send_of_response h]
  rfl

theorem putObject_of_response {w : Write}
    (hr : buildRequest g.readUrl g.settings .put w.key
      (optionHeaders w.options ++ [("content-length", toString w.body.size)]) w.body = .ok r)
    (h : Transport.send (g.signer.sign r) g.transport = (.response answer, t')) :
    putObject w g = (acknowledge .put w.key answer, { g with transport := t' }) := by
  rw [putObject]
  simp only [bind, StateT.bind, get, getThe, MonadStateOf.get, StateT.get, pure, hr,
    send_of_response h]
  rfl

theorem deleteObject_of_response {key : String}
    (hr : buildRequest g.readUrl g.settings .delete key [] .empty = .ok r)
    (h : Transport.send (g.signer.sign r) g.transport = (.response answer, t')) :
    deleteObject key g = (acknowledge .delete key answer, { g with transport := t' }) := by
  rw [deleteObject]
  simp only [bind, StateT.bind, get, getThe, MonadStateOf.get, StateT.get, pure, hr,
    send_of_response h]
  rfl

variable {endpoint : Endpoint} {held : τ → String → Option ByteArray}

theorem getObject_found (hhonest : Honest g.signer endpoint held)
    (hendpoint : Endpoint.of? g.readUrl g.settings = some endpoint) {key : String} (hkey : key ≠ "")
    {body : ByteArray} (hbody : held g.transport (endpoint.keyPath key) = some body)
    (hsize : body.size < 1 <<< 63) (limit : Nat) :
    ∃ t', held t' = held g.transport ∧ getObject key limit g =
      (if limit < body.size then .error (.tooLarge key limit) else .ok body,
        { g with transport := t' }) := by
  obtain ⟨r, hr, hasks, hpath⟩ := buildRequest_bare .get hendpoint hkey
  rw [← hpath] at hbody
  obtain ⟨answer, t', hsend, hheld, hstatus, hdelivers⟩ := hhonest.found hasks hbody
  refine ⟨t', hheld, ?_⟩
  rw [getObject_of_response hr hsend, hdelivers.receive_found hsize hstatus]

theorem getObject_missing (hhonest : Honest g.signer endpoint held)
    (hendpoint : Endpoint.of? g.readUrl g.settings = some endpoint) {key : String} (hkey : key ≠ "")
    (hnone : held g.transport (endpoint.keyPath key) = none) (limit : Nat) :
    ∃ t', held t' = held g.transport ∧
      getObject key limit g = (.error (.notFound key), { g with transport := t' }) := by
  obtain ⟨r, hr, hasks, hpath⟩ := buildRequest_bare .get hendpoint hkey
  rw [← hpath] at hnone
  obtain ⟨answer, t', document, hsend, hheld, hstatus, hdelivers, -⟩ := hhonest.missing hasks hnone
  refine ⟨t', hheld, ?_⟩
  rw [getObject_of_response hr hsend, hdelivers.receive_missing hstatus]

theorem putObject_sets (hhonest : Honest g.signer endpoint held)
    (hendpoint : Endpoint.of? g.readUrl g.settings = some endpoint) {w : Write} (hkey : w.key ≠ "")
    (hoptions : LegalOptions w.options) :
    ∃ t', Sets (held g.transport) (held t') (endpoint.keyPath w.key) (some w.body) ∧
      putObject w g = (.ok (), { g with transport := t' }) := by
  obtain ⟨r, hr, hasks, hpath, hbody⟩ := buildRequest_write hendpoint hkey hoptions
  obtain ⟨answer, t', document, hsend, hsets, hstatus, hdelivers, hdocument⟩ :=
    hhonest.put (t := g.transport) hasks
  have hsuccess : answer.isSuccess = true := by rw [Response.isSuccess, hstatus]; rfl
  refine ⟨t', hpath ▸ hbody ▸ hsets, ?_⟩
  rw [putObject_of_response hr hsend, hdelivers.acknowledge_eq hsuccess hdocument]

theorem deleteObject_sets (hhonest : Honest g.signer endpoint held)
    (hendpoint : Endpoint.of? g.readUrl g.settings = some endpoint) {key : String}
    (hkey : key ≠ "") :
    ∃ t', Sets (held g.transport) (held t') (endpoint.keyPath key) none ∧
      deleteObject key g = (.ok (), { g with transport := t' }) := by
  obtain ⟨r, hr, hasks, hpath⟩ := buildRequest_bare .delete hendpoint hkey
  obtain ⟨answer, t', document, hsend, hsets, hsuccess, hdelivers, hdocument⟩ :=
    hhonest.delete (t := g.transport) hasks
  refine ⟨t', hpath ▸ hsets, ?_⟩
  rw [deleteObject_of_response hr hsend, hdelivers.acknowledge_eq hsuccess hdocument]

end Gateway

end ImageIntake.S3
