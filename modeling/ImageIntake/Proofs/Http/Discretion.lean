import ImageIntake.Proofs.Http.Atomicity
import ImageIntake.Proofs.Http.Redemption
import ImageIntake.Proofs.Store.Blind

namespace ImageIntake

open Http

theorem blind_authorize (lifetime : Span) (token : Token) (d : Declaration) :
    ((authorize lifetime token d).map (Service.answer grantDocument)).Blind := by
  cases d.fate with
  | unsupported h | tooLarge h =>
      rw [h]
      exact .done _
  | asked type h =>
      rw [h.authorize_eq]
      refine .presign (fun a a' halike => ?_) fun a => .done _
      cases halike with
      | ok url => rfl
      | error => rfl

namespace Publisher

variable (p : Publisher) (j : Job)

theorem afterRead_error (e : StoreError) : p.afterRead j (.error e) =
    .done (.error (if e.saysTooLarge then .invalid .tooLarge else .notFound)) := by
  cases e <;> rfl

theorem blind_publish (pair : RenditionPair) :
    ((p.publish j.keys j.rawKey j.now pair).map (Service.answer publicationDocument)).Blind := by
  rw [p.publish_eq]
  refine .putBoth (fun a a' h => ?_) fun a => ?_
  · cases h with
    | ok => rfl
    | error => rfl
  · cases a with
    | ok => exact .delete (fun _ _ => rfl) fun _ => .done _
    | error cause => exact .done _

theorem blind_publishUpload (raw : ByteArray) :
    ((p.publishUpload j.keys j.rawKey j.now raw).map
      (Service.answer publicationDocument)).Blind := by
  rw [publishUpload]
  split
  · exact .done _
  · split
    · exact .done _
    · cases p.render raw with
      | none => exact .done _
      | some pair => exact p.blind_publish j pair

theorem blind_run : ((p.run j).map (Service.answer publicationDocument)).Blind := by
  cases hraw : isRawKey j.rawKey with
  | false =>
      rw [p.run_of_not_isRawKey hraw]
      exact .done _
  | true =>
      rw [p.run_of_isRawKey hraw]
      refine .get (fun a a' h => ?_) fun a => ?_
      · cases h with
        | ok raw => rfl
        | @error e e' hsize =>
            have hsame : e.saysTooLarge = e'.saysTooLarge := hsize
            rw [afterRead_error, afterRead_error, hsame]
      · cases a with
        | ok raw => exact p.blind_publishUpload j raw
        | error e =>
            rw [afterRead_error]
            exact .done _

end Publisher

namespace Http

structure TellsFailures (trace : List Event) (reply : Reply) : Prop where
  unread : ∀ key e, .reads key (.error e) ∈ trace → (∀ k limit, e ≠ .tooLarge k limit) →
    reply.Reports 404 "not_found" "Raw upload not found"
  unwritten : ∀ w e, .writes w (.error e) ∈ trace → reply.status = 500 ∧ reply.BlamesStore
  unsigned : ∀ key e, .presigns key (.error e) ∈ trace → reply.status = 500 ∧ reply.BlamesStore
  undeleted : ∀ key e, .deletes key (.error e) ∈ trace → reply.status = 200

theorem tellsFailures_nil (reply : Reply) : TellsFailures [] reply := by
  constructor <;> simp

namespace Service

variable (s : Service) (token : Token) (now : Instant)

theorem blind_handle (r : Request) : (s.handle token now r).Blind := by
  cases s.fate token now r with
  | answered reply hreply =>
      rw [hreply]
      exact .done reply
  | presigned d _ _ _ hmade =>
      rw [hmade]
      exact (blind_authorize _ token d).map _
  | committed order _ _ _ hmade =>
      rw [hmade]
      exact (s.publisher.blind_run ⟨token, now, order.post, order.rawKey⟩).map _

theorem tells_presigned {lifetime : Span} {d : Declaration} {trace : List Event}
    {result : Except UploadError Grant}
    (h : Position.Converses (.start (authorize lifetime token d)) trace (.done result))
    (leave : Headers) :
    TellsFailures trace ((answer grantDocument result).addHeaders leave) := by
  cases d.fate with
  | unsupported hd | tooLarge hd =>
      rw [hd] at h
      obtain ⟨rfl, -⟩ := Position.converses_done h
      exact tellsFailures_nil _
  | asked type hd =>
      rw [hd.authorize_eq] at h
      obtain ⟨heard, rest, rfl, hrest⟩ := Position.heard_presign h
      obtain ⟨rfl, rfl⟩ := Position.converses_done hrest
      cases heard with
      | ok url => constructor <;> simp
      | error cause =>
          refine ⟨by simp, by simp, ?_, by simp⟩
          intro _ _ _
          exact ⟨rfl, rfl⟩

theorem tells_committed {p : Publisher} {j : Job} {trace : List Event}
    {result : Except UploadError Publication}
    (h : Position.Converses (.start (p.run j)) trace (.done result)) (leave : Headers) :
    TellsFailures trace ((answer publicationDocument result).addHeaders leave) := by
  obtain ⟨phase, hhistory, hdone⟩ := History.of_converses h
  cases hhistory with
  | fresh | asked | writing | clearing | deleting => cases hdone
  | foreign => exact tellsFailures_nil _
  | unread =>
      cases hdone
      refine ⟨?_, by simp [Job.read], by simp [Job.read], by simp [Job.read]⟩
      intro _ _ _ _
      exact ⟨rfl, rfl⟩
  | tooLong =>
      refine ⟨?_, by simp [Job.read], by simp [Job.read], by simp [Job.read]⟩
      intro key e he hne
      simp [Job.read] at he
      exact absurd he.2 (hne _ _)
  | rejected => constructor <;> simp [Job.read]
  | unwritten _ _ hputs =>
      cases hdone
      refine ⟨by simp [Job.read, hputs.mem_iff], ?_, by simp [Job.read, hputs.mem_iff],
        by simp [Job.read, hputs.mem_iff]⟩
      intro _ _ _
      exact ⟨rfl, rfl⟩
  | published _ _ _ hputs =>
      cases hdone
      refine ⟨by simp [Job.read, hputs.mem_iff], by simp [Job.read, hputs.mem_iff],
        by simp [Job.read, hputs.mem_iff], ?_⟩
      intro _ _ _
      rfl

theorem tells_handle {r : Request} {trace : List Event} {reply : Reply}
    (h : Position.Converses (.start (s.handle token now r)) trace (.done reply)) :
    TellsFailures trace reply := by
  cases s.fate token now r with
  | answered reply' hreply =>
      rw [hreply] at h
      obtain ⟨rfl, -⟩ := Position.converses_done h
      exact tellsFailures_nil _
  | presigned d _ _ _ hmade =>
      rw [hmade] at h
      obtain ⟨_, rfl, hanswer⟩ := Position.converses_of_map _ h
      obtain ⟨result, rfl, hw⟩ := Position.converses_of_map _ hanswer
      exact tells_presigned token hw _
  | committed order _ _ _ hmade =>
      rw [hmade] at h
      obtain ⟨_, rfl, hanswer⟩ := Position.converses_of_map _ h
      obtain ⟨result, rfl, hw⟩ := Position.converses_of_map _ hanswer
      exact tells_committed (j := ⟨token, now, order.post, order.rawKey⟩) hw _

/-- Whatever a request asks for: two conversations with stores in which the same calls fail end with
one and the same reply, whatever the errors say, and so does the request when it is answered on two
stores that stay in step. What the client is told is that there is no upload if a read failed, that
the store failed if a write or a signature did, and nothing if a deletion failed. -/
theorem store_failures_are_not_told (r : Request) :
    (∀ trace trace' reply reply',
      Position.Converses (.start (s.handle token now r)) trace (.done reply) →
      Position.Converses (.start (s.handle token now r)) trace' (.done reply') →
      FailAlike trace trace' → reply = reply') ∧
    (∀ trace reply, Position.Converses (.start (s.handle token now r)) trace (.done reply) →
      TellsFailures trace reply) ∧
    ∀ (σ σ' : Type) [ObjectStore σ] [ObjectStore σ'] (InStep : σ → σ' → Prop), Mirrors InStep →
      ∀ m m', InStep m m' → (s.respond token now r m).1 = (s.respond token now r m').1 := by
  have hblind := s.blind_handle token now r
  refine ⟨?_, fun trace reply => s.tells_handle token now, ?_⟩
  · intro trace trace' reply reply' hw hw' hagree
    exact hblind.eq_of_failAlike hw hw' hagree
  · intro σ σ' _ _ InStep hmirrors m m' hm
    have hrun := hblind.fst_runWithin hmirrors s.settings.requestTimeout hm
    exact congrArg (fun reply : Option Reply => reply.getD timedOut) hrun

end Service

end Http

namespace Sample

open Http

def unreadable (cause : StoreError) : List Event :=
  [.asks job.read, .reads job.rawKey (.error cause)]

theorem converses_unreadable (cause : StoreError) (h : cause.saysTooLarge = false) :
    Position.Converses (.start (service.handle job.token job.now request)) (unreadable cause)
      (.done (service.share request (Service.answer publicationDocument (.error .notFound)))) := by
  have hcommit : request.PostsTo .commit := ⟨rfl, by decide +kernel⟩
  have hadmits : service.guard.admits request = true := by decide +kernel
  have hread : readForm commitOrderForm request = .ok ⟨job.post, job.rawKey⟩ := by decide +kernel
  have hget : service.publisher.commit job.token job.now job.post job.rawKey =
      .get job.rawKey Policy.maxUploadBytes (service.publisher.afterRead job) :=
    service.publisher.run_of_isRawKey isRawKey_job
  have hnotFound : service.publisher.afterRead job (.error cause) = .done (.error .notFound) := by
    rw [Publisher.afterRead_error, h]
    rfl
  rw [service.handle_order job.token job.now hcommit hadmits hread, hget]
  refine .cons .askGet (.cons (.hearGet (.error cause)) ?_)
  show Walk Position.Step
    (.start (((service.publisher.afterRead job (.error cause)).map _).map _)) [] _
  rw [hnotFound]
  exact .refl _

theorem failAlike_unreadable (cause cause' : StoreError) (h : cause.saysTooLarge = false)
    (h' : cause'.saysTooLarge = false) : FailAlike (unreadable cause) (unreadable cause') where
  reads key a a' ha ha' := by
    simp only [unreadable, Job.read, List.mem_cons, reduceCtorEq, false_or, Event.reads.injEq,
      List.not_mem_nil, or_false] at ha ha'
    obtain ⟨-, rfl⟩ := ha
    obtain ⟨-, rfl⟩ := ha'
    exact .error (h.trans h'.symm)
  writes := by simp [unreadable, Job.read]
  presigns := by simp [unreadable, Job.read]

end Sample

namespace Http.Service

theorem store_failures_are_not_told_sample :
    (∃ reply reply',
      Position.Converses
        (.start (Sample.service.handle Sample.job.token Sample.job.now Sample.request))
        (Sample.unreadable (.transport "dispatch failure")) (.done reply) ∧
      Position.Converses
        (.start (Sample.service.handle Sample.job.token Sample.job.now Sample.request))
        (Sample.unreadable (.service "AccessDenied: bucket showoff")) (.done reply') ∧
      reply = reply' ∧ reply.Reports 404 "not_found" "Raw upload not found") ∧
    Sample.halfAnswered.1.status = 500 ∧
    Sample.halfAnswered.1 = (Sample.service.respond Sample.job.token Sample.job.now Sample.request
      (⟨Sample.halfway⟩ : Quiet Memory)).1 := by
  obtain ⟨hsame, htells, hrespond⟩ := store_failures_are_not_told Sample.service Sample.job.token
    Sample.job.now Sample.request
  have hw := Sample.converses_unreadable (.transport "dispatch failure") rfl
  have hw' := Sample.converses_unreadable (.service "AccessDenied: bucket showoff") rfl
  have hagree := Sample.failAlike_unreadable (.transport "dispatch failure")
    (.service "AccessDenied: bucket showoff") rfl rfl
  have hreports := (htells _ _ hw).unread Sample.job.rawKey (.transport "dispatch failure")
    (by simp [Sample.unreadable]) (by simp)
  refine ⟨⟨_, _, hw, hw', hsame _ _ _ _ hw hw' hagree, hreports⟩, by decide +kernel, ?_⟩
  exact hrespond Memory (Quiet Memory) _ Quiet.mirrors _ _ rfl

end Http.Service

end ImageIntake
