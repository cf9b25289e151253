import ImageIntake.Proofs.Http.Routing
import ImageIntake.Proofs.Settings.OriginList
import ImageIntake.Proofs.Store.Results
import ImageIntake.Proofs.Upload.Phase

namespace ImageIntake.Http

def valuesOf (name : String) (headers : Headers) : List ByteArray :=
  (headers.filter fun field => field.1 == name).map (·.2)

theorem valuesOf_append (name : String) (headers more : Headers) :
    valuesOf name (headers ++ more) = valuesOf name headers ++ valuesOf name more := by
  rw [valuesOf, List.filter_append, List.map_append]
  rfl

theorem valuesOf_of_ne {name : String} {headers : Headers} (h : ∀ field ∈ headers, field.1 ≠ name) :
    valuesOf name headers = [] := by
  rw [valuesOf, List.map_eq_nil_iff, List.filter_eq_nil_iff]
  exact fun field hfield heq => h field hfield (beq_iff_eq.mp heq)

def Reply.allowedOrigins (reply : Reply) : List ByteArray :=
  valuesOf "access-control-allow-origin" reply.headers

theorem Reply.allowedOrigins_addHeaders (reply : Reply) (headers : Headers) :
    (reply.addHeaders headers).allowedOrigins =
      reply.allowedOrigins ++ valuesOf "access-control-allow-origin" headers :=
  valuesOf_append _ _ _

theorem beq_bytes_iff {a b : ByteArray} : (a == b) = true ↔ a = b := by
  obtain ⟨a⟩ := a
  obtain ⟨b⟩ := b
  rw [ByteArray.mk.injEq, ← beq_iff_eq (a := a)]
  rfl

namespace Cors

variable (c : Cors) {r : Request}

theorem valuesOf_echo {asked allowed : String} (h : allowed ≠ "access-control-allow-origin") :
    valuesOf "access-control-allow-origin" (echo r asked allowed) = [] := by
  refine valuesOf_of_ne fun field hfield => ?_
  rw [echo] at hfield
  split at hfield
  · cases hfield
  · cases List.mem_singleton.mp hfield
    exact h

theorem valuesOf_shared (r : Request) :
    valuesOf "access-control-allow-origin" (c.shared r) = (c.allowOrigin r).map (·.2) := by
  have hrest : ∀ vary credentials : ByteArray, valuesOf "access-control-allow-origin"
      [("vary", vary), ("access-control-allow-credentials", credentials)] = [] := by
    intro vary credentials
    refine valuesOf_of_ne ?_
    simp
  rw [shared, valuesOf_append, hrest, List.append_nil, allowOrigin]
  split
  · rfl
  · split <;> rfl

theorem valuesOf_actual (r : Request) :
    valuesOf "access-control-allow-origin" (c.actual r) = (c.allowOrigin r).map (·.2) := by
  rw [actual, valuesOf_append, valuesOf_shared]
  exact List.append_nil _

theorem valuesOf_preflight (r : Request) :
    valuesOf "access-control-allow-origin" (c.preflight r) = (c.allowOrigin r).map (·.2) := by
  rw [preflight, valuesOf_append, valuesOf_append, valuesOf_shared, valuesOf_echo (by decide),
    valuesOf_echo (by decide), List.append_nil, List.append_nil]

theorem allowOrigin_of_mem {value : ByteArray} (hvalue : r.header? "origin" = some value)
    (hmem : ∃ origin ∈ c.origins, origin.toUTF8 = value) :
    c.allowOrigin r = [("access-control-allow-origin", value)] := by
  have hany : (c.origins.any fun allowed => allowed.toUTF8 == value) = true := by
    obtain ⟨origin, horigin, heq⟩ := hmem
    exact List.any_eq_true.mpr ⟨origin, horigin, beq_bytes_iff.mpr heq⟩
  simp only [allowOrigin, hvalue, hany, if_true]

theorem allowOrigin_of_not_mem
    (h : ∀ origin ∈ c.origins, r.header? "origin" ≠ some origin.toUTF8) : c.allowOrigin r = [] := by
  rw [allowOrigin]
  split
  · rfl
  · next value hvalue =>
    refine if_neg fun hany => ?_
    obtain ⟨origin, horigin, heq⟩ := List.any_eq_true.mp hany
    exact h origin horigin (hvalue.trans (congrArg some (beq_bytes_iff.mp heq).symm))

end Cors

structure Reply.GivesLeave (reply : Reply) (r : Request) (origins : List String) : Prop where
  listed : ∀ value, r.header? "origin" = some value →
    (∃ origin ∈ origins, origin.toUTF8 = value) → reply.allowedOrigins = [value]
  unlisted : (∀ origin ∈ origins, r.header? "origin" ≠ some origin.toUTF8) →
    reply.allowedOrigins = []
  notAll : "*".toUTF8 ∉ reply.allowedOrigins

theorem Reply.givesLeave {reply : Reply} {c : Cors} {r : Request} (hstar : "*" ∉ c.origins)
    (h : reply.allowedOrigins = (c.allowOrigin r).map (·.2)) : reply.GivesLeave r c.origins where
  listed value hvalue hmem := by rw [h, c.allowOrigin_of_mem hvalue hmem]; rfl
  unlisted hnot := by rw [h, c.allowOrigin_of_not_mem hnot]; rfl
  notAll := by
    intro hall
    rw [h] at hall
    by_cases hlisted : ∃ origin ∈ c.origins, r.header? "origin" = some origin.toUTF8
    · obtain ⟨origin, horigin, hvalue⟩ := hlisted
      rw [c.allowOrigin_of_mem hvalue ⟨origin, horigin, rfl⟩] at hall
      have heq : "*" = origin := String.toByteArray_inj.mp (by simpa using hall)
      exact hstar (heq ▸ horigin)
    · rw [c.allowOrigin_of_not_mem fun origin horigin heq => hlisted ⟨origin, horigin, heq⟩] at hall
      cases hall

def Reply.Bare (reply : Reply) : Prop := reply.allowedOrigins = []

theorem Reply.bare_ofBody (status : Nat) (body : Body) : (Reply.ofBody status body).Bare := by
  refine valuesOf_of_ne fun field hfield => ?_
  cases body with
  | empty => cases hfield
  | json | page =>
      cases List.mem_singleton.mp hfield
      decide

theorem Reply.bare_ofStatus (status : Nat) : (Reply.ofStatus status).Bare := rfl

theorem Reply.Bare.addAllow {reply : Reply} (h : reply.Bare) (methods : ByteArray) :
    (reply.addHeaders [("allow", methods)]).Bare := by
  rw [Bare, allowedOrigins_addHeaders, h]
  rfl

theorem ApiError.bare_reply (e : ApiError) : e.reply.Bare := Reply.bare_ofBody _ _

namespace Service

variable (s : Service) (token : Token) (now : Instant) (r : Request)

theorem bare_answer {α : Type} (document : α → Json) (result : Except UploadError α) :
    (answer document result).Bare := by
  cases result with
  | ok a => exact Reply.bare_ofBody _ _
  | error e => exact ApiError.bare_reply _

theorem bare_methodNotAllowed (route : Route) : (methodNotAllowed route).Bare :=
  (Reply.bare_ofStatus 405).addAllow _

theorem bare_presign : (presign token r).Results Reply.Bare := by
  rw [presign]
  split
  · exact .done (ApiError.bare_reply _)
  · exact (Program.results_of_forall (fun _ => trivial) _).bind (P := fun _ => True)
      fun result _ => .done (bare_answer _ result)

theorem bare_commit : (s.commit token now r).Results Reply.Bare := by
  rw [commit]
  split
  · exact .done (ApiError.bare_reply _)
  · exact (Program.results_of_forall (fun _ => trivial) _).bind (P := fun _ => True)
      fun result _ => .done (bare_answer _ result)

theorem bare_handleGuarded (route : Route) :
    (s.handleGuarded token now route r).Results Reply.Bare := by
  unfold handleGuarded
  split
  · refine .done ?_
    split
    · exact ApiError.bare_reply _
    · exact (ApiError.bare_reply _).addAllow _
  · split
    · exact .done (bare_methodNotAllowed route)
    · cases route with
      | presign => exact bare_presign token r
      | commit => exact s.bare_commit token now r
      | root | health | page | description => exact .done (Reply.bare_ofStatus 404)

theorem bare_handleRoute (route : Route) :
    (s.handleRoute token now route r).Results Reply.Bare := by
  rw [handleRoute]
  split
  · exact s.bare_handleGuarded token now r route
  · refine .done ?_
    split
    · exact Reply.bare_ofBody _ _
    · exact bare_methodNotAllowed route

theorem allowedOrigins_preflight :
    (s.preflight r).allowedOrigins = (s.cors.allowOrigin r).map (·.2) := by
  rw [preflight, Reply.allowedOrigins_addHeaders, valuesOf_append, s.cors.valuesOf_preflight]
  cases Route.find? s.settings.stage r.path <;> rfl

theorem results_handle : (s.handle token now r).Results fun reply =>
    reply.allowedOrigins = (s.cors.allowOrigin r).map (·.2) := by
  rw [handle]
  split
  · exact .done (s.allowedOrigins_preflight r)
  · rw [handleActual]
    refine Program.Results.bind (P := Reply.Bare) ?_ fun reply hbare => .done ?_
    · split
      · exact .done (Reply.bare_ofStatus 404)
      · exact s.bare_handleRoute token now r _
    · have hsent : (if r.method = "HEAD" then reply.withoutBody else reply).allowedOrigins = [] := by
        split <;> exact hbare
      rw [Reply.allowedOrigins_addHeaders, hsent, s.cors.valuesOf_actual, List.nil_append]

theorem leave_is_given_as_listed {readUrl : UrlReader} {lookup : Lookup} {settings : Settings}
    (hload : Settings.load readUrl lookup = .ok settings) {text : String}
    (hset : lookup .origins = some text) (htext : Text.trim text ≠ "")
    (hstar : ∀ part ∈ text.toList.splitOn ',', Text.trim (String.ofList part) ≠ "*")
    (render : ByteArray → Option RenditionPair) {s : Service} (hs : s = ⟨settings, render⟩) :
    settings.origins = ((text.toList.splitOn ',').map fun part =>
      Text.trim (String.ofList part)).filter (· != "") ∧
    (∀ list, (∀ origin ∈ list, Settings.Listable origin) →
      Settings.parseOrigins (",".intercalate list) = .ok list ∧
      (list ≠ [] → Settings.load readUrl (lookup.set .origins (",".intercalate list)) =
        .ok { settings with origins := list })) ∧
    (∀ parts, Settings.Loosens (text.toList.splitOn ',') parts →
      Settings.parseOrigins (Settings.joined parts) = .ok settings.origins ∧
      Settings.load readUrl (lookup.set .origins (Settings.joined parts)) = .ok settings) ∧
    s.isServable = true ∧
    ∀ (r : Request) (token : Token) (now : Instant),
      (∀ trace reply, Position.Converses (.start (s.handle token now r)) trace (.done reply) →
        reply.GivesLeave r settings.origins) ∧
      ∀ {σ : Type} [ObjectStore σ] (m m' : σ) (reply : Reply),
        (s.handle token now r).runWithin settings.requestTimeout m = (some reply, m') →
          s.respond token now r m = (reply, m') ∧ reply.GivesLeave r settings.origins := by
  subst hs
  have horigins : settings.origins = Settings.segments text :=
    Settings.origins_of_set (Settings.loadedFrom_of_load hload).origins hset htext
  have hservable : "*" ∉ settings.origins := by
    rw [horigins, Settings.mem_segments]
    rintro ⟨-, part, hpart, heq⟩
    exact hstar part hpart heq
  refine ⟨horigins, fun list hlist => ⟨Settings.parseOrigins_intercalate hlist, fun hne =>
    Settings.load_intercalate hload hlist hne⟩, fun parts hparts => ⟨?_,
    Settings.load_of_loosens hload hset htext hparts⟩, isServable_iff.mpr hservable,
    fun r token now => ⟨fun trace reply hw => ?_, fun m m' reply hrun => ⟨?_, ?_⟩⟩⟩
  · rw [Settings.parseOrigins_of_loosens hparts]
    exact Settings.parseOrigins_of_load hload hset htext
  · exact Reply.givesLeave hservable ((results_handle _ token now r).of_converses hw)
  · exact respond_of_runWithin (s := ⟨settings, render⟩) hrun
  · exact Reply.givesLeave hservable ((results_handle _ token now r).of_runWithin hrun)

end Service

end ImageIntake.Http

namespace ImageIntake.Sample

open Http

def visit : Request where
  method := "DELETE"
  target := "/nothing"
  headers := [("Origin", "http://localhost:3000".toUTF8)]
  body := ByteArray.empty

end ImageIntake.Sample

namespace ImageIntake.Http.Service

theorem leave_is_given_as_listed_visit :
    Sample.lookup .origins = some "http://localhost:3000," ∧
      Text.trim "http://localhost:3000," ≠ "" ∧
      ∃ trace reply, Position.Converses
        (.start (handle ⟨Sample.loaded, fun _ => none⟩ Sample.job.token ⟨0, 0⟩ Sample.visit)) trace
          (.done reply) ∧ reply.allowedOrigins = ["http://localhost:3000".toUTF8] := by
  have hset : Sample.lookup .origins = some "http://localhost:3000," := rfl
  have htext : Text.trim "http://localhost:3000," ≠ "" := by decide +kernel
  have hstar : ∀ part ∈ "http://localhost:3000,".toList.splitOn ',',
      Text.trim (String.ofList part) ≠ "*" := by decide +kernel
  have horigin : Sample.visit.header? "origin" = some "http://localhost:3000".toUTF8 := by
    decide +kernel
  obtain ⟨-, -, -, -, hleave⟩ :=
    leave_is_given_as_listed Sample.load_lookup hset htext hstar (fun _ => none) rfl
  obtain ⟨trace, reply, hw⟩ := Position.converses_completes (.refl (Position.start
    (handle ⟨Sample.loaded, fun _ => none⟩ Sample.job.token ⟨0, 0⟩ Sample.visit)))
  refine ⟨hset, htext, trace, reply, hw, ?_⟩
  exact ((hleave Sample.visit Sample.job.token ⟨0, 0⟩).1 trace reply hw).listed _ horigin
    ⟨_, List.mem_cons_self, rfl⟩

end ImageIntake.Http.Service
