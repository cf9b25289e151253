import ImageIntake.Proofs.Http.Service

namespace ImageIntake.Http

def Request.PostsTo (r : Request) (route : Route) : Prop :=
  r.method = "POST" ∧ r.path = route.path

def refusal : Reply := (ApiError.ofUpload .unauthorized).reply

theorem Route.find?_guarded {route : Route} (h : route.isGuarded = true) (stage : Stage) :
    Route.find? stage route.path = some route := by
  cases route with
  | root | health | page | description => cases h
  | presign | commit => cases stage <;> decide

theorem Route.show?_guarded {route : Route} (h : route.isGuarded = true) :
    Service.show? route = none := by
  cases route with
  | root | health | page | description => cases h
  | presign | commit => rfl

namespace Service

variable (s : Service) (token : Token) (now : Instant) {r : Request}

def share (r : Request) (reply : Reply) : Reply := reply.addHeaders (s.cors.actual r)

theorem handle_guarded {route : Route} (hr : r.PostsTo route) (h : route.isGuarded = true) :
    s.handle token now r = (s.handleGuarded token now route r).map (s.share r) := by
  have hoptions : r.method ≠ "OPTIONS" := by rw [hr.1]; decide
  have hhead : r.method ≠ "HEAD" := by rw [hr.1]; decide
  rw [handle, if_neg hoptions, handleActual, hr.2, Route.find?_guarded h]
  simp only [handleRoute, Route.show?_guarded h, if_neg hhead]
  rfl

theorem handle_unauthorized {route : Route} (hr : r.PostsTo route) (h : route.isGuarded = true)
    (hadmits : s.guard.admits r = false) :
    s.handle token now r = .done (s.share r refusal) := by
  rw [s.handle_guarded token now hr h]
  simp only [handleGuarded, hadmits, hr.1, Bool.not_false, if_true]
  rfl

theorem handle_presign (hr : r.PostsTo .presign) (hadmits : s.guard.admits r = true) :
    s.handle token now r = (presign token r).map (s.share r) := by
  rw [s.handle_guarded token now hr rfl, handleGuarded, if_neg (by rw [hadmits]; decide),
    if_neg (not_not_intro hr.1)]

theorem handle_declaration (hr : r.PostsTo .presign) (hadmits : s.guard.admits r = true)
    {d : Declaration} (hread : readForm declarationForm r = .ok d) :
    s.handle token now r = ((authorize Policy.uploadLifetime token d).map
      (answer grantDocument)).map (s.share r) := by
  rw [s.handle_presign token now hr hadmits, presign, hread]
  rfl

theorem handle_order (hr : r.PostsTo .commit) (hadmits : s.guard.admits r = true)
    {order : CommitOrder} (hread : readForm commitOrderForm r = .ok order) :
    s.handle token now r = ((s.publisher.commit token now order.post order.rawKey).map
      (answer publicationDocument)).map (s.share r) := by
  rw [s.handle_admitted token now hr hadmits, commit, hread]
  rfl

inductive Fate (s : Service) (token : Token) (now : Instant) (r : Request) : Prop where
  | answered (reply : Reply) : s.handle token now r = .done reply → Fate s token now r
  | presigned (d : Declaration) : r.PostsTo .presign → s.guard.admits r = true →
      readForm declarationForm r = .ok d →
      s.handle token now r = ((authorize Policy.uploadLifetime token d).map
        (answer grantDocument)).map (s.share r) → Fate s token now r
  | committed (order : CommitOrder) : r.PostsTo .commit → s.guard.admits r = true →
      readForm commitOrderForm r = .ok order →
      s.handle token now r = ((s.publisher.commit token now order.post order.rawKey).map
        (answer publicationDocument)).map (s.share r) → Fate s token now r

theorem fate_of_posted {route : Route} (hr : r.PostsTo route) (h : route.isGuarded = true) :
    Fate s token now r := by
  cases hadmits : s.guard.admits r with
  | false => exact .answered _ (s.handle_unauthorized token now hr h hadmits)
  | true =>
      cases route with
      | root | health | page | description => cases h
      | presign =>
          have hhandle := s.handle_presign token now hr hadmits
          cases hread : readForm declarationForm r with
          | error e => exact .answered _ (by rw [hhandle, presign, hread]; rfl)
          | ok d =>
              exact .presigned d hr hadmits hread (s.handle_declaration token now hr hadmits hread)
      | commit =>
          have hhandle := s.handle_admitted token now hr hadmits
          cases hread : readForm commitOrderForm r with
          | error e => exact .answered _ (by rw [hhandle, commit, hread]; rfl)
          | ok order =>
              exact .committed order hr hadmits hread (s.handle_order token now hr hadmits hread)

theorem handleGuarded_of_not_posted {route : Route} (h : r.method ≠ "POST") :
    ∃ reply, s.handleGuarded token now route r = .done reply := by
  unfold handleGuarded
  cases s.guard.admits r with
  | false => exact ⟨_, rfl⟩
  | true => exact ⟨_, by rw [if_neg (by decide), if_pos h]⟩

theorem handleRoute_of_not_posted {route : Route}
    (h : route.isGuarded = true → r.method ≠ "POST") :
    ∃ reply, s.handleRoute token now route r = .done reply := by
  cases route with
  | root | health | page | description => exact ⟨_, rfl⟩
  | presign | commit => exact s.handleGuarded_of_not_posted token now (h rfl)

theorem fate (r : Request) : Fate s token now r := by
  by_cases hoptions : r.method = "OPTIONS"
  · exact .answered _ (if_pos hoptions)
  · cases hfind : Route.find? s.settings.stage r.path with
    | none => exact .answered _ (by rw [handle, if_neg hoptions, handleActual, hfind]; rfl)
    | some route =>
        by_cases hposted : route.isGuarded = true ∧ r.method = "POST"
        · exact s.fate_of_posted token now ⟨hposted.2, (Route.path_of_find? hfind).symm⟩ hposted.1
        · have hnot : route.isGuarded = true → r.method ≠ "POST" :=
            fun hguarded hmethod => hposted ⟨hguarded, hmethod⟩
          obtain ⟨reply, hreply⟩ := s.handleRoute_of_not_posted token now hnot
          refine .answered
            (s.share r (if r.method = "HEAD" then reply.withoutBody else reply)) ?_
          rw [handle, if_neg hoptions, handleActual, hfind]
          simp only [hreply]
          rfl

end Service

end ImageIntake.Http
