import ImageIntake.Http.Service
import ImageIntake.Proofs.Store.Exchange
import ImageIntake.Proofs.Upload.Grant

namespace ImageIntake.Http

def Request.IsCommit (r : Request) : Prop := r.method = "POST" ∧ r.path = Route.commit.path

theorem readForm_eq_ok {α : Type} {f : FormOf α} {r : Request} {a : α}
    (h : readForm f r = .ok a) :
    sendsJson r = true ∧ r.body.size ≤ Policy.maxRequestBytes ∧
      ∃ values, Json.readRecord f.form r.body.toList = .ok values ∧
        f.ofValues values = some a ∧ f.brokenRule a = none := by
  rw [readForm] at h
  split at h
  · cases h
  · next hjson =>
    split at h
    · cases h
    · next hsize =>
      dsimp only at h
      split at h
      · cases h
      · next values hvalues =>
        split at h
        · cases h
        · next b hof =>
          split at h
          · cases h
          · next hrule =>
            cases h
            exact ⟨by simpa using hjson, Nat.le_of_not_lt hsize, values, hvalues, hof, hrule⟩

theorem readForm_eq_error {α : Type} {f : FormOf α} {r : Request} {e : ApiError}
    (h : readForm f r = .error e) :
    e = .missingContentType ∨ e = .malformedJson ∨ (∃ message, e = .validation message) ∨
      ∃ a, f.brokenRule a = some e := by
  rw [readForm] at h
  split at h
  · cases h
    exact .inl rfl
  · split at h
    · cases h
      exact .inr (.inl rfl)
    · dsimp only at h
      split at h
      · next problem _ =>
        cases h
        cases problem with
        | malformed => exact .inr (.inl rfl)
        | mismatch => exact .inr (.inr (.inl ⟨_, rfl⟩))
      · split at h
        · cases h
          exact .inr (.inl rfl)
        · split at h
          · next hrule =>
            cases h
            exact .inr (.inr (.inr ⟨_, hrule⟩))
          · cases h

theorem status_of_readForm {α : Type} {f : FormOf α} {r : Request} {e : ApiError}
    (hf : ∀ a e, f.brokenRule a = some e → e.status = 400) (h : readForm f r = .error e) :
    e.status = 400 := by
  rcases readForm_eq_error h with rfl | rfl | ⟨message, rfl⟩ | ⟨a, hrule⟩
  · rfl
  · rfl
  · rfl
  · exact hf a e hrule

theorem isPostId_of_readForm {r : Request} {order : CommitOrder}
    (h : readForm commitOrderForm r = .ok order) : isPostId order.post = true := by
  obtain ⟨-, -, values, -, -, hrule⟩ := readForm_eq_ok h
  simp only [commitOrderForm] at hrule
  split at hrule
  · cases hrule
  · next hpost => simpa using hpost

theorem status_of_commitOrder {r : Request} {e : ApiError}
    (h : readForm commitOrderForm r = .error e) : e.status = 400 := by
  refine status_of_readForm ?_ h
  intro order e he
  simp only [commitOrderForm] at he
  split at he
  · cases he; rfl
  · split at he
    · cases he; rfl
    · cases he

theorem Route.path_of_find? {stage : Stage} {path : String} {route : Route}
    (h : Route.find? stage path = some route) : route.path = path := by
  have hroute := List.find?_some h
  simp only [Bool.and_eq_true, beq_iff_eq] at hroute
  exact hroute.1

theorem Route.find?_commit (stage : Stage) :
    Route.find? stage Route.commit.path = some .commit := by
  cases stage <;> decide

theorem status_answer_eq_200 {result : Except UploadError Publication} :
    (Service.answer publicationDocument result).status = 200 ↔
      ∃ publication, result = .ok publication := by
  rcases result with e | publication
  · cases e <;> simp [Service.answer, ApiError.reply, ApiError.ofUpload, Reply.ofBody]
  · simp [Service.answer, Reply.ofBody]

theorem status_answer_eq_500 {result : Except UploadError Publication} :
    (Service.answer publicationDocument result).status = 500 ↔
      ∃ cause, result = .error (.storage cause) := by
  rcases result with e | publication
  · cases e <;> simp [Service.answer, ApiError.reply, ApiError.ofUpload, Reply.ofBody]
  · simp [Service.answer, Reply.ofBody]

namespace Service

open Position (Idle start)

theorem respond_of_runWithin {s : Service} {token : Token} {now : Instant} {r : Request} {σ : Type}
    [ObjectStore σ] {m m' : σ} {outcome : Option Reply}
    (h : (s.handle token now r).runWithin s.settings.requestTimeout m = (outcome, m')) :
    s.respond token now r m = (outcome.getD timedOut, m') := by
  simp only [respond, bind, StateT.bind, h]
  rfl

variable (s : Service) (token : Token) (now : Instant) {r : Request}

theorem handle_refused (hr : r.IsCommit) (h : s.guard.admits r = false) :
    ∃ reply, s.handle token now r = .done reply ∧ reply.status = 401 := by
  have hoptions : r.method ≠ "OPTIONS" := by rw [hr.1]; decide
  have hfind : Route.find? s.settings.stage r.path = some .commit := by
    rw [hr.2]
    exact Route.find?_commit _
  rw [handle, if_neg hoptions, handleActual, hfind]
  simp only [handleRoute, show?, handleGuarded, h, Bool.not_false, if_true, hr.1]
  exact ⟨_, rfl, rfl⟩

theorem handle_admitted (hr : r.IsCommit) (h : s.guard.admits r = true) :
    s.handle token now r =
      (s.commit token now r).map fun reply => reply.addHeaders (s.cors.actual r) := by
  have hoptions : r.method ≠ "OPTIONS" := by rw [hr.1]; decide
  have hfind : Route.find? s.settings.stage r.path = some .commit := by
    rw [hr.2]
    exact Route.find?_commit _
  rw [handle, if_neg hoptions, handleActual, hfind]
  simp only [handleRoute, show?, handleGuarded, h, hr.1]
  rfl

theorem handle_commit (hr : r.IsCommit) :
    (∃ reply, s.handle token now r = .done reply ∧ reply.status ≠ 200 ∧ reply.status ≠ 500) ∨
      ∃ order, readForm commitOrderForm r = .ok order ∧
        s.handle token now r =
          ((s.publisher.commit token now order.post order.rawKey).map
            (answer publicationDocument)).map fun reply => reply.addHeaders (s.cors.actual r) := by
  cases hadmits : s.guard.admits r with
  | false =>
      obtain ⟨reply, hreply, hstatus⟩ := s.handle_refused token now hr hadmits
      exact .inl ⟨reply, hreply, by omega, by omega⟩
  | true =>
      rw [s.handle_admitted token now hr hadmits]
      cases hread : readForm commitOrderForm r with
      | error e =>
          have hstatus := status_of_commitOrder hread
          refine .inl ⟨e.reply.addHeaders (s.cors.actual r), ?_, ?_, ?_⟩
          · rw [commit, hread]
            rfl
          · show e.status ≠ 200
            omega
          · show e.status ≠ 500
            omega
      | ok order =>
          refine .inr ⟨order, rfl, ?_⟩
          rw [commit, hread]
          rfl

theorem idle_authorize (lifetime : Span) (d : Declaration) :
    Idle (start (authorize lifetime token d)) := by
  cases d.fate with
  | unsupported h | tooLarge h =>
      rw [h]
      exact .done
  | asked type h =>
      rw [h.authorize_eq]
      exact .presign fun answer => ⟨_, rfl⟩

theorem idle_presign : Idle (start (presign token r)) := by
  rw [presign]
  split
  · exact .done
  · next declaration _ =>
    have hidle : Idle (start (authorize Policy.uploadLifetime token declaration)) :=
      idle_authorize token Policy.uploadLifetime declaration
    have hmap := Idle.start_map (answer grantDocument) hidle
    exact hmap

theorem idle_handleGuarded {route : Route} (h : ¬r.IsCommit) (hroute : route.path = r.path) :
    Idle (start (s.handleGuarded token now route r)) := by
  unfold handleGuarded
  cases s.guard.admits r with
  | false => exact .done
  | true =>
      by_cases hmethod : r.method = "POST"
      · rw [if_neg (by decide), if_neg (not_not_intro hmethod)]
        cases route with
        | presign => exact idle_presign token
        | commit => exact absurd ⟨hmethod, hroute.symm⟩ h
        | root | health | page | description => exact .done
      · rw [if_neg (by decide), if_pos hmethod]
        exact .done

theorem idle_handle (h : ¬r.IsCommit) : Idle (start (s.handle token now r)) := by
  rw [handle]
  split
  · exact .done
  · rw [handleActual]
    refine Idle.start_map _ ?_
    split
    · exact .done
    · next route hfind =>
      rw [handleRoute]
      split
      · exact s.idle_handleGuarded token now h (Route.path_of_find? hfind)
      · exact .done

end Service

end ImageIntake.Http
