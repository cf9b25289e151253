import ImageIntake.Proofs.S3.BoundedRead
import ImageIntake.Proofs.Store.Alike

namespace ImageIntake

inductive Call.AsksForChange : Call → Prop where
  | put (w : Write) : AsksForChange (.put w)
  | delete (key : String) : AsksForChange (.delete key)

end ImageIntake

namespace ImageIntake.S3

inductive Failure where
  | unsent
  | lost
  | late
  | refused (status : Nat) (code : Option String)

namespace Failure

def IsServerFault (failure : Failure) : Prop :=
  ∃ status code, failure = .refused status code ∧ 500 ≤ status

inductive Means (operation : Operation) : Failure → StoreError → Prop where
  | missing {status code} (about : String) : operation = .get →
      code = some "NoSuchKey" ∨ status = 404 → Means operation (.refused status code) (.notFound about)
  | serverFault {status code} (detail : String) : 500 ≤ status →
      ¬(operation = .get ∧ code = some "NoSuchKey") →
      Means operation (.refused status code) (.serverFault detail)
  | service {status code} (detail : String) : status < 500 →
      ¬(operation = .get ∧ (code = some "NoSuchKey" ∨ status = 404)) →
      Means operation (.refused status code) (.service detail)
  | late : Means operation .late (.transport "operation timed out")
  | lost (detail : String) : Means operation .lost (.transport detail)
  | unsent (detail : String) : Means operation .unsent (.transport detail)

end Failure

inductive Poses (readUrl : UrlReader) (settings : StoreSettings) :
    Call → Operation → Except String Request → Prop where
  | get (key : String) (limit : Nat) :
      Poses readUrl settings (.get key limit) .get
        (buildRequest readUrl settings .get key [] .empty)
  | put (w : Write) :
      Poses readUrl settings (.put w) .put (buildRequest readUrl settings .put w.key
        (optionHeaders w.options ++ [("content-length", toString w.body.size)]) w.body)
  | delete (key : String) :
      Poses readUrl settings (.delete key) .delete
        (buildRequest readUrl settings .delete key [] .empty)

inductive Response.Tells (r : Response) : Call → Failure → Prop where
  | unread {call} : r.isSuccess = false → wholeBody? r = none → Tells r call .lost
  | refused {call body} : r.isSuccess = false → wholeBody? r = some body →
      Tells r call (.refused r.status (errorCode? body))
  | unreadReceipt {call} : call.AsksForChange → wholeBody? r = none → Tells r call .lost
  | refusedReceipt {call body} : call.AsksForChange → wholeBody? r = some body →
      isErrorDocument body = true → Tells r call (.refused r.status (errorCode? body))
  | noLength {key limit} : r.isSuccess = true → announcedLength r = .error () →
      Tells r (.get key limit) (.refused r.status none)
  | brokenOff {key limit announced} : r.isSuccess = true → announcedLength r = .ok announced →
      Admits limit announced → totalSize r.chunks ≤ limit → r.body.ending = .brokenOff →
      Tells r (.get key limit) .lost

variable {τ : Type} [Transport τ]

inductive Fails (g : Gateway τ) (call : Call) (operation : Operation) : Failure → Prop where
  | unsent {detail} : Poses g.readUrl g.settings call operation (.error detail) →
      Fails g call operation .unsent
  | unreached {request t'} : Poses g.readUrl g.settings call operation (.ok request) →
      Transport.send (g.signer.sign request) g.transport = (.failure, t') →
      Fails g call operation .lost
  | late {request t'} : Poses g.readUrl g.settings call operation (.ok request) →
      Transport.send (g.signer.sign request) g.transport = (.silence, t') →
      Fails g call operation .late
  | told {request r t' failure} : Poses g.readUrl g.settings call operation (.ok request) →
      Transport.send (g.signer.sign request) g.transport = (.response r, t') →
      r.Tells call failure → Fails g call operation failure

def verdict (r : Response) : Call → Option StoreError
  | .get key limit => (receive key limit r).error?
  | .put w => (acknowledge .put w.key r).error?
  | .delete key => (acknowledge .delete key r).error?
  | .presign .. => none

theorem error?_exchange {β : Type} (request : Except String Request) (read : Response → Answer β)
    (g : Gateway τ) :
    ((do match ← Gateway.send request with
      | .error e => return .error e
      | .ok r => return read r : StateM (Gateway τ) (Answer β)) g).1.error? =
      match (Gateway.send request g).1 with
      | .error e => some e
      | .ok r => (read r).error? := by
  simp only [bind, StateT.bind, pure]
  rcases Gateway.send request g with ⟨_ | _, g'⟩ <;> rfl

theorem error?_answer {g : Gateway τ} {call : Call} {operation : Operation}
    {request : Except String Request} (h : Poses g.readUrl g.settings call operation request) :
    (answer call g).1.error? =
      match (Gateway.send request g).1 with
      | .error e => some e
      | .ok r => verdict r call := by
  cases h with
  | get key limit => exact error?_exchange _ (receive key limit) g
  | put w => exact error?_exchange _ (acknowledge .put w.key) g
  | delete key => exact error?_exchange _ (acknowledge .delete key) g

structure Failure.ToldAs (operation : Operation) (failure : Failure) (e : StoreError) : Prop where
  means_iff : failure.Means operation e ↔ ¬(operation = .delete ∧ failure.IsServerFault)
  deletion : operation = .delete → failure.IsServerFault → ∃ detail, e = .service detail

theorem Failure.not_isServerFault {failure : Failure}
    (h : ∀ status code, failure ≠ .refused status code) : ¬failure.IsServerFault := by
  rintro ⟨status, code, hrefused, -⟩
  exact h status code hrefused

theorem Failure.Means.toldAs {operation : Operation} {failure : Failure} {e : StoreError}
    (h : failure.Means operation e) (hnot : operation = .delete → ¬failure.IsServerFault) :
    failure.ToldAs operation e where
  means_iff := iff_of_true h fun hfault => hnot hfault.1 hfault.2
  deletion hdelete hfault := absurd hfault (hnot hdelete)

theorem Failure.Means.toldAs_of_ne {operation : Operation} {failure : Failure} {e : StoreError}
    (h : failure.Means operation e) (hne : operation ≠ .delete) : failure.ToldAs operation e :=
  h.toldAs fun heq => absurd heq hne

theorem toldAs_unsent (operation : Operation) (detail : String) :
    Failure.unsent.ToldAs operation (.transport detail) :=
  (Failure.Means.unsent detail).toldAs fun _ => Failure.not_isServerFault (by simp)

theorem toldAs_lost (operation : Operation) (detail : String) :
    Failure.lost.ToldAs operation (.transport detail) :=
  (Failure.Means.lost detail).toldAs fun _ => Failure.not_isServerFault (by simp)

theorem toldAs_late (operation : Operation) :
    Failure.late.ToldAs operation (.transport timeoutDetail) :=
  Failure.Means.late.toldAs fun _ => Failure.not_isServerFault (by simp)

theorem means_serverFault {operation : Operation} {status : Nat} {code : Option String}
    (hne : operation ≠ .get) (h : 500 ≤ status) (detail : String) :
    (Failure.refused status code).Means operation (.serverFault detail) :=
  .serverFault detail h fun hget => hne hget.1

theorem means_service {operation : Operation} {status : Nat} {code : Option String}
    (hne : operation ≠ .get) (h : status < 500) (detail : String) :
    (Failure.refused status code).Means operation (.service detail) :=
  .service detail h fun hget => hne hget.1

theorem toldAs_refusal (operation : Operation) (key : String) (status : Nat)
    (code : Option String) :
    (Failure.refused status code).ToldAs operation (refusal operation key status code) := by
  have hfault : (Failure.refused status code).IsServerFault ↔ 500 ≤ status :=
    ⟨by rintro ⟨_, _, ⟨⟩, h⟩; exact h, fun h => ⟨status, code, rfl, h⟩⟩
  cases operation with
  | get =>
      have hne : Operation.get ≠ .delete := by decide
      simp only [refusal]
      split
      · next hmissing => exact (Failure.Means.missing key rfl hmissing).toldAs_of_ne hne
      · next hfound =>
        split
        · next hlarge =>
          exact (Failure.Means.serverFault _ hlarge fun h => hfound (.inl h.2)).toldAs_of_ne hne
        · next hsmall =>
          refine (Failure.Means.service _ (Nat.lt_of_not_le hsmall) ?_).toldAs_of_ne hne
          exact fun h => hfound h.2
  | put =>
      have hput : Operation.put ≠ .get := by decide
      have hne : Operation.put ≠ .delete := by decide
      simp only [refusal]
      split
      · next hlarge =>
        exact (means_serverFault hput hlarge _).toldAs_of_ne hne
      · next hsmall =>
        exact (means_service hput (Nat.lt_of_not_le hsmall) _).toldAs_of_ne hne
  | delete =>
      have hne : Operation.delete ≠ .get := by decide
      by_cases hlarge : 500 ≤ status
      · refine ⟨iff_of_false ?_ (not_not_intro ⟨rfl, hfault.mpr hlarge⟩), fun _ _ => ⟨_, rfl⟩⟩
        intro h
        cases h with
        | service _ hsmall => omega
      · exact (means_service hne (Nat.lt_of_not_le hlarge) _).toldAs
          fun _ h => hlarge (hfault.mp h)

section

variable {r : Response} {key : String} {limit : Nat}

theorem acknowledge_of_unread (h : wholeBody? r = none) (operation : Operation) (key : String) :
    acknowledge operation key r = .error (.transport "Failed to read the response") := by
  rw [acknowledge, h]

theorem acknowledge_of_refused {body : ByteArray} (h : wholeBody? r = some body)
    (hrefused : r.isSuccess = false ∨ isErrorDocument body = true) (operation : Operation)
    (key : String) :
    acknowledge operation key r = .error (refusal operation key r.status (errorCode? body)) := by
  have hnot : ¬(r.isSuccess && !isErrorDocument body) = true := by
    rcases hrefused with hstatus | hdocument
    · simp [hstatus]
    · simp [hdocument]
  simp only [acknowledge, h, if_neg hnot]

theorem receive_of_unread (hstatus : r.isSuccess = false) (h : wholeBody? r = none) (key : String)
    (limit : Nat) : receive key limit r = .error (.transport "Failed to read the response") := by
  rw [receive, if_neg (by simp [hstatus]), h]

theorem receive_of_refused {body : ByteArray} (hstatus : r.isSuccess = false)
    (h : wholeBody? r = some body) (key : String) (limit : Nat) :
    receive key limit r = .error (refusal .get key r.status (errorCode? body)) := by
  rw [receive, if_neg (by simp [hstatus]), h]

theorem receive_of_noLength (hstatus : r.isSuccess = true) (h : announcedLength r = .error ())
    (key : String) (limit : Nat) :
    receive key limit r = .error (.service "the announced length cannot be read") := by
  rw [receive, if_pos hstatus, receiveObject, h]

theorem receive_of_length {announced : Option Int} (hstatus : r.isSuccess = true)
    (h : announcedLength r = .ok announced) (key : String) (limit : Nat) :
    receive key limit r = (receiveBody key limit announced r.body).1 := by
  rw [receive, if_pos hstatus, receiveObject, h]

theorem receiveBody_error {announced : Option Int} (h : Admits limit announced)
    (hfits : totalSize r.chunks ≤ limit) (hbroken : r.body.ending = .brokenOff) (key : String) :
    ∃ detail, (receiveBody key limit announced r.body).1 = .error (.transport detail) := by
  have hbody : r.body = ⟨r.chunks, .brokenOff⟩ := by rw [← hbroken, Response.body]
  have hsize : ByteArray.empty.size + totalSize r.chunks ≤ limit := by simpa using hfits
  obtain ⟨detail, hrun⟩ := Reading.run_of_brokenOff hsize
  refine ⟨detail, ?_⟩
  rw [receiveBody_of_admitted h, hbody]
  exact congrArg Prod.fst hrun

end

section

variable {readUrl : UrlReader} {settings : StoreSettings} {call : Call} {operation : Operation}
  {request : Except String Request} {r : Response}

theorem Poses.change (h : Poses readUrl settings call operation request)
    (hchange : call.AsksForChange) :
    ∃ key, ∀ r, verdict r call = (acknowledge operation key r).error? := by
  cases h with
  | get => cases hchange
  | put w => exact ⟨w.key, fun _ => rfl⟩
  | delete key => exact ⟨key, fun _ => rfl⟩

theorem verdict_of_unread (h : Poses readUrl settings call operation request)
    (hstatus : r.isSuccess = false)
    (hbody : wholeBody? r = none) :
    verdict r call = some (.transport "Failed to read the response") := by
  cases h with
  | get key limit => rw [verdict, receive_of_unread hstatus hbody]; rfl
  | put | delete => rw [verdict, acknowledge_of_unread hbody]; rfl

theorem verdict_of_refused (h : Poses readUrl settings call operation request)
    (hstatus : r.isSuccess = false) {body : ByteArray} (hbody : wholeBody? r = some body) :
    ∃ key, verdict r call = some (refusal operation key r.status (errorCode? body)) := by
  cases h with
  | get key limit => exact ⟨key, by rw [verdict, receive_of_refused hstatus hbody]; rfl⟩
  | put w => exact ⟨w.key, by rw [verdict, acknowledge_of_refused hbody (.inl hstatus)]; rfl⟩
  | delete key => exact ⟨key, by rw [verdict, acknowledge_of_refused hbody (.inl hstatus)]; rfl⟩

theorem Response.Tells.toldAs {failure : Failure} (h : r.Tells call failure)
    (hposes : Poses readUrl settings call operation request) :
    ∃ e, verdict r call = some e ∧ failure.ToldAs operation e := by
  cases h with
  | unread hstatus hbody =>
      exact ⟨_, verdict_of_unread hposes hstatus hbody, toldAs_lost operation _⟩
  | refused hstatus hbody =>
      obtain ⟨key, hverdict⟩ := verdict_of_refused hposes hstatus hbody
      exact ⟨_, hverdict, toldAs_refusal operation key _ _⟩
  | unreadReceipt hchange hbody =>
      obtain ⟨key, hverdict⟩ := hposes.change hchange
      refine ⟨.transport "Failed to read the response", ?_, toldAs_lost operation _⟩
      rw [hverdict, acknowledge_of_unread hbody, Answer.error?]
  | refusedReceipt hchange hbody hdocument =>
      obtain ⟨key, hverdict⟩ := hposes.change hchange
      refine ⟨_, ?_, toldAs_refusal operation key _ _⟩
      rw [hverdict, acknowledge_of_refused hbody (.inr hdocument), Answer.error?]
  | noLength hstatus hlength =>
      cases hposes
      refine ⟨_, by rw [verdict, receive_of_noLength hstatus hlength]; rfl, ?_⟩
      have hrange : 200 ≤ r.status ∧ r.status ≤ 299 := by simpa [isSuccess] using hstatus
      have hfound : ¬((none : Option String) = some "NoSuchKey" ∨ r.status = 404) := by
        rintro (hcode | hmissing)
        · cases hcode
        · omega
      have hsmall : r.status < 500 := by omega
      exact (Failure.Means.service _ hsmall fun h => hfound h.2).toldAs_of_ne (by decide)
  | @brokenOff key limit _ hstatus hlength hadmits hfits hbroken =>
      cases hposes
      obtain ⟨detail, herror⟩ := receiveBody_error hadmits hfits hbroken key
      refine ⟨.transport detail, ?_, toldAs_lost _ detail⟩
      rw [verdict, receive_of_length hstatus hlength, herror]
      rfl

theorem tells_of_acknowledge {key : String} {e : StoreError} (hchange : call.AsksForChange)
    (h : acknowledge operation key r = .error e) : ∃ failure, r.Tells call failure := by
  cases hbody : wholeBody? r with
  | none => exact ⟨_, .unreadReceipt hchange hbody⟩
  | some body =>
      cases hstatus : r.isSuccess with
      | false => exact ⟨_, .refused hstatus hbody⟩
      | true =>
          cases hdocument : isErrorDocument body with
          | true => exact ⟨_, .refusedReceipt hchange hbody hdocument⟩
          | false =>
              rw [acknowledge, hbody] at h
              simp [hstatus, hdocument] at h

theorem tells_of_receive {key : String} {limit : Nat} {e : StoreError}
    (h : receive key limit r = .error e) :
    (∃ failure, r.Tells (.get key limit) failure) ∨ e = .tooLarge key limit := by
  cases hstatus : r.isSuccess with
  | false =>
      cases hbody : wholeBody? r with
      | none => exact .inl ⟨_, .unread hstatus hbody⟩
      | some body => exact .inl ⟨_, .refused hstatus hbody⟩
  | true =>
      cases hlength : announcedLength r with
      | error => exact .inl ⟨_, .noLength hstatus hlength⟩
      | ok announced =>
          rw [receive_of_length hstatus hlength] at h
          by_cases hadmits : Admits limit announced
          · rw [receiveBody_of_admitted hadmits] at h
            by_cases hfits : totalSize r.chunks ≤ limit
            · cases hending : r.body.ending with
              | brokenOff => exact .inl ⟨_, .brokenOff hstatus hlength hadmits hfits hending⟩
              | complete =>
                  have hbody : r.body = ⟨r.chunks, .complete⟩ := by rw [← hending, Response.body]
                  rw [hbody, readBounded_of_le hfits] at h
                  cases h
            · obtain ⟨_, _, _, -, -, -, hread⟩ :=
                readBounded_of_lt (Nat.lt_of_not_le hfits) key r.body.ending
              have hbody : r.body = ⟨r.chunks, r.body.ending⟩ := rfl
              rw [hbody, hread] at h
              cases h
              exact .inr rfl
          · simp only [Admits, not_forall] at hadmits
            obtain ⟨length, rfl, -, hlarge⟩ := hadmits
            rw [receiveBody_of_refused (Int.not_le.mp hlarge)] at h
            cases h
            exact .inr rfl

theorem tells_of_verdict {e : StoreError} (hposes : Poses readUrl settings call operation request)
    (h : verdict r call = some e) :
    (∃ failure, r.Tells call failure) ∨
      ∃ key limit, call = .get key limit ∧ e = .tooLarge key limit := by
  cases hposes with
  | get key limit =>
      exact (tells_of_receive (Answer.error?_eq_some.mp h)).imp_right fun he => ⟨key, limit, rfl, he⟩
  | put w => exact .inl (tells_of_acknowledge (.put w) (Answer.error?_eq_some.mp h))
  | delete key => exact .inl (tells_of_acknowledge (.delete key) (Answer.error?_eq_some.mp h))

end

section

variable {g : Gateway τ} {call : Call} {operation : Operation} {failure : Failure}

theorem Fails.toldAs (h : Fails g call operation failure) :
    ∃ e, (answer call g).1.error? = some e ∧ failure.ToldAs operation e := by
  cases h with
  | @unsent detail hposes =>
      refine ⟨_, ?_, toldAs_unsent operation detail⟩
      rw [error?_answer hposes, Gateway.send]
  | unreached hposes hsend =>
      refine ⟨_, ?_, toldAs_lost operation "dispatch failure"⟩
      rw [error?_answer hposes, Gateway.send, hsend]
  | late hposes hsend =>
      refine ⟨_, ?_, toldAs_late operation⟩
      rw [error?_answer hposes, Gateway.send, hsend]
  | told hposes hsend htells =>
      obtain ⟨e, hverdict, htold⟩ := htells.toldAs hposes
      refine ⟨e, ?_, htold⟩
      rw [error?_answer hposes, Gateway.send_of_response hsend]
      exact hverdict

theorem fails_of_error {request : Except String Request} {e : StoreError}
    (hposes : Poses g.readUrl g.settings call operation request)
    (h : (answer call g).1.error? = some e) :
    (∃ failure, Fails g call operation failure) ∨
      ∃ key limit, call = .get key limit ∧ e = .tooLarge key limit := by
  cases request with
  | error detail => exact .inl ⟨_, .unsent hposes⟩
  | ok request =>
      rcases hsend : Transport.send (g.signer.sign request) g.transport with ⟨outcome, t'⟩
      cases outcome with
      | failure => exact .inl ⟨_, .unreached hposes hsend⟩
      | silence => exact .inl ⟨_, .late hposes hsend⟩
      | response r =>
          rw [error?_answer hposes, Gateway.send_of_response hsend] at h
          exact (tells_of_verdict hposes h).imp_left
            fun ⟨failure, htells⟩ => ⟨failure, .told hposes hsend htells⟩

theorem Failure.ToldAs.get_of_notFound {about : String}
    (h : failure.ToldAs operation (.notFound about)) : operation = .get := by
  by_cases hexempt : operation = .delete ∧ failure.IsServerFault
  · obtain ⟨detail, hdetail⟩ := h.deletion hexempt.1 hexempt.2
    cases hdetail
  · cases h.means_iff.mpr hexempt with
    | missing _ hget => exact hget

/-- No failure of a call passes for a success, and its error is of the kind that is there for it,
unless the service has trouble with a deletion: that is told like a refusal for which the caller is
to blame. There are no other errors than those of failures, but that an object may be too large to
be read; and only reads ever miss an object. -/
theorem failures_are_told_apart {request : Except String Request}
    (hposes : Poses g.readUrl g.settings call operation request) :
    (∀ failure, Fails g call operation failure → ∃ e, (answer call g).1.error? = some e ∧
      (failure.Means operation e ↔ ¬(operation = .delete ∧ failure.IsServerFault)) ∧
      (operation = .delete → failure.IsServerFault → ∃ detail, e = .service detail)) ∧
    (∀ e, (answer call g).1.error? = some e → (∃ failure, Fails g call operation failure) ∨
      ∃ key limit, call = .get key limit ∧ e = .tooLarge key limit) ∧
    ∀ about, (answer call g).1.error? = some (.notFound about) → operation = .get := by
  refine ⟨fun failure hfails => ?_, fun e => fails_of_error hposes, fun about herror => ?_⟩
  · obtain ⟨e, herror, htold⟩ := hfails.toldAs
    exact ⟨e, herror, htold.means_iff, htold.deletion⟩
  · rcases fails_of_error hposes herror with ⟨failure, hfails⟩ | ⟨_, _, -, hlarge⟩
    · obtain ⟨e, herror', htold⟩ := hfails.toldAs
      cases Option.some.inj (herror.symm.trans herror')
      exact htold.get_of_notFound
    · cases hlarge

end

end ImageIntake.S3

namespace ImageIntake.Sample

open S3

def overload : Response where
  status := 503
  headers := [("Content-Type", "application/xml")]
  chunks := ["<Error><Code>ServiceUnavailable</Code></Error>".toUTF8]

def overloaded : Gateway Script :=
  ⟨readUrl, loaded.store, ⟨0, 0⟩, ⟨[{ outcome := .response overload }], []⟩, ⟨0⟩⟩

theorem fails_overloaded {call : Call} {operation : Operation} {request : Request}
    (hposes : Poses overloaded.readUrl overloaded.settings call operation (.ok request)) :
    Fails overloaded call operation (.refused 503 (some "ServiceUnavailable")) := by
  obtain ⟨body, hbody, hcode⟩ : ∃ body, wholeBody? overload = some body ∧
      errorCode? body = some "ServiceUnavailable" := ⟨_, rfl, by decide +kernel⟩
  have hstatus : overload.isSuccess = false := rfl
  rw [← hcode]
  exact .told hposes rfl (.refused hstatus hbody)

theorem exists_request_overloaded (operation : Operation) :
    ∃ request, buildRequest overloaded.readUrl overloaded.settings operation "raw/a" [] .empty =
      .ok request := by
  have hendpoint : Endpoint.of? overloaded.readUrl overloaded.settings =
      some ⟨"http", "[::1]:9000", "/uploads"⟩ := by decide +kernel
  obtain ⟨request, hrequest, -⟩ := buildRequest_bare operation hendpoint (by decide : "raw/a" ≠ "")
  exact ⟨request, hrequest⟩

theorem exists_poses_read :
    ∃ request, Poses overloaded.readUrl overloaded.settings (.get "raw/a" 8) .get
      (.ok request) := by
  obtain ⟨request, hrequest⟩ := exists_request_overloaded .get
  exact ⟨request, hrequest ▸ .get "raw/a" 8⟩

theorem exists_poses_deletion :
    ∃ request, Poses overloaded.readUrl overloaded.settings (.delete "raw/a") .delete
      (.ok request) := by
  obtain ⟨request, hrequest⟩ := exists_request_overloaded .delete
  exact ⟨request, hrequest ▸ .delete "raw/a"⟩

end ImageIntake.Sample

namespace ImageIntake.S3

theorem failures_are_told_apart_overloaded :
    (∃ detail, (answer (.get "raw/a" 8) Sample.overloaded).1.error? = some (.serverFault detail)) ∧
      ∃ detail, (answer (.delete "raw/a") Sample.overloaded).1.error? = some (.service detail) := by
  obtain ⟨_, hread⟩ := Sample.exists_poses_read
  obtain ⟨_, hdeletion⟩ := Sample.exists_poses_deletion
  constructor
  · obtain ⟨e, herror, hmeans, -⟩ :=
      (failures_are_told_apart hread).1 _ (Sample.fails_overloaded hread)
    have hne : ¬(Operation.get = .delete ∧
        (Failure.refused 503 (some "ServiceUnavailable")).IsServerFault) :=
      fun h => absurd h.1 (by decide)
    cases hmeans.mpr hne with
    | missing _ _ hmissing => exact absurd hmissing (by decide)
    | serverFault detail => exact ⟨detail, herror⟩
    | service _ hsmall => exact absurd hsmall (by decide)
  · obtain ⟨e, herror, -, htold⟩ :=
      (failures_are_told_apart hdeletion).1 _ (Sample.fails_overloaded hdeletion)
    obtain ⟨detail, rfl⟩ := htold rfl ⟨503, _, rfl, by decide⟩
    exact ⟨detail, herror⟩

theorem exists_failure_mistold :
    ¬∀ (g : Gateway Script) (call : Call) (operation : Operation) (failure : Failure),
      Fails g call operation failure →
        ∃ e, (answer call g).1.error? = some e ∧ failure.Means operation e := by
  intro h
  obtain ⟨_, hposes⟩ := Sample.exists_poses_deletion
  have hfails := Sample.fails_overloaded hposes
  obtain ⟨e, herror, hmeans⟩ := h _ _ _ _ hfails
  obtain ⟨e', herror', htold⟩ := hfails.toldAs
  cases Option.some.inj (herror.symm.trans herror')
  exact htold.means_iff.mp hmeans ⟨rfl, 503, _, rfl, by decide⟩

end ImageIntake.S3
