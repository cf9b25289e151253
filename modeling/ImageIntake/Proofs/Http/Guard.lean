import ImageIntake.Proofs.Http.Routing
import ImageIntake.Proofs.Settings.Load

namespace ImageIntake.Http

theorem eq_of_visibleText? {value : ByteArray} {text : String}
    (h : visibleText? value = some text) : value = text.toUTF8 := by
  rw [visibleText?] at h
  split at h
  · rw [String.fromUTF8?] at h
    split at h
    · cases h
      rfl
    · cases h
  · cases h

namespace Guard

variable {g : Guard} {r : Request}

theorem presented_of_admits (h : g.admits r = true) : presented r = some g.secret := by
  unfold admits accepts at h
  split at h
  · cases h
  · next text htext =>
    rw [htext, beq_iff_eq.mp h]

theorem header?_of_admits (h : g.admits r = true) :
    r.header? headerName = some g.secret.toUTF8 := by
  obtain ⟨value, hvalue, htext⟩ := Option.bind_eq_some_iff.mp (presented_of_admits h)
  rw [hvalue, eq_of_visibleText? htext]

theorem admits_eq_false (h : r.header? headerName ≠ some g.secret.toUTF8) :
    g.admits r = false := by
  cases hadmits : g.admits r with
  | false => rfl
  | true => exact absurd (header?_of_admits hadmits) h

end Guard

theorem Cors.actual_congr (c : Cors) {r r' : Request}
    (h : r.header? "origin" = r'.header? "origin") : c.actual r = c.actual r' := by
  rw [actual, actual, shared, shared, allowOrigin, allowOrigin, h]

namespace Service

structure Dismisses (s : Service) (r : Request) (reply : Reply) : Prop where
  handle : ∀ token now, s.handle token now r = .done reply
  respond : ∀ {σ : Type} [ObjectStore σ] (token : Token) (now : Instant) (m : σ),
    s.respond token now r m = (reply, m)

theorem dismisses_of_handle {s : Service} {r : Request} {reply : Reply}
    (h : ∀ token now, s.handle token now r = .done reply) : s.Dismisses r reply where
  handle := h
  respond token now m := by
    simp only [respond, h]
    rfl

theorem dismisses_unauthorized (s : Service) {route : Route} (hguarded : route.isGuarded = true)
    {r : Request} (hr : r.PostsTo route)
    (hkey : r.header? Guard.headerName ≠ some s.settings.apiKey.toUTF8) :
    s.Dismisses r (s.share r refusal) :=
  dismisses_of_handle fun token now =>
    s.handle_unauthorized token now hr hguarded (Guard.admits_eq_false hkey)

theorem unauthorized_requests_are_alike {readUrl : UrlReader} {lookup : Lookup}
    {settings : Settings} (hload : Settings.load readUrl lookup = .ok settings)
    (render : ByteArray → Option RenditionPair)
    {route : Route} (hguarded : route.isGuarded = true) {r r' : Request} (hr : r.PostsTo route)
    (hr' : r'.PostsTo route) (horigin : r.header? "origin" = r'.header? "origin")
    (hkey : r.header? "x-api-key" ≠ some settings.apiKey.toUTF8)
    (hkey' : r'.header? "x-api-key" ≠ some settings.apiKey.toUTF8) :
    (∃ reply, reply.status = 401 ∧
      reply.body = .json (.record [("allowRetry", .bool false), ("error", .record
        [("code", .string "unauthorized"), ("message", .string "Unauthorized")])]) ∧
      Dismisses ⟨settings, render⟩ r reply ∧ Dismisses ⟨settings, render⟩ r' reply) ∧
    ∀ value : Option ByteArray, value = none ∨ value = some ByteArray.empty →
      value ≠ some settings.apiKey.toUTF8 := by
  let s : Service := ⟨settings, render⟩
  have hshare : s.share r refusal = s.share r' refusal :=
    congrArg refusal.addHeaders (s.cors.actual_congr horigin)
  refine ⟨⟨s.share r refusal, rfl, rfl, s.dismisses_unauthorized hguarded hr hkey, ?_⟩, ?_⟩
  · rw [hshare]
    exact s.dismisses_unauthorized hguarded hr' hkey'
  · rintro value (rfl | rfl) hsome
    · cases hsome
    · have hbytes : settings.apiKey.toUTF8 = "".toUTF8 := (Option.some.inj hsome).symm
      exact Settings.apiKey_ne_empty (Settings.loadedFrom_of_load hload).apiKey
        (String.toByteArray_inj.mp hbytes)

end Service

end ImageIntake.Http

namespace ImageIntake.Sample

open Http

def keyless : Request where
  method := "POST"
  target := "/api/uploads/commit"
  headers := [("Content-Type", "text/plain".toUTF8)]
  body := "\x7b".toUTF8

def mistaken : Request where
  method := "POST"
  target := "/api/uploads/commit?retry"
  headers := [("x-api-key", "Opensesame".toUTF8), ("x-api-key", "opensesame".toUTF8)]
  body := ByteArray.empty

end ImageIntake.Sample

namespace ImageIntake.Http.Service

theorem unauthorized_requests_are_alike_mistaken :
    Sample.keyless.header? "x-api-key" ≠ some Sample.loaded.apiKey.toUTF8 ∧
      Sample.mistaken.header? "x-api-key" ≠ some Sample.loaded.apiKey.toUTF8 ∧
      ∃ reply, reply.status = 401 ∧
        Dismisses ⟨Sample.loaded, fun _ => none⟩ Sample.keyless reply ∧
        Dismisses ⟨Sample.loaded, fun _ => none⟩ Sample.mistaken reply := by
  have hkeyless : Sample.keyless.header? "x-api-key" ≠ some Sample.loaded.apiKey.toUTF8 := by
    decide +kernel
  have hmistaken : Sample.mistaken.header? "x-api-key" ≠ some Sample.loaded.apiKey.toUTF8 := by
    decide +kernel
  have hposts : Sample.keyless.PostsTo .commit := ⟨rfl, by decide +kernel⟩
  have hposts' : Sample.mistaken.PostsTo .commit := ⟨rfl, by decide +kernel⟩
  have horigin : Sample.keyless.header? "origin" = Sample.mistaken.header? "origin" := by
    decide +kernel
  obtain ⟨⟨reply, hstatus, -, hreply, hreply'⟩, -⟩ :=
    unauthorized_requests_are_alike Sample.load_lookup (fun _ => none) rfl hposts hposts' horigin
      hkeyless hmistaken
  exact ⟨hkeyless, hmistaken, reply, hstatus, hreply, hreply'⟩

end ImageIntake.Http.Service
