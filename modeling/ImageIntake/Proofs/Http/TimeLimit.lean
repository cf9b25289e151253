import ImageIntake.Proofs.Http.Session
import ImageIntake.Proofs.Upload.Redemption

namespace ImageIntake

namespace Program

variable {α : Type} {deadline : Span} {m m' : Memory}

theorem expired_of_abandoned {p : Program α} (h : p.runWithin deadline m = (none, m')) :
    deadline.nanos = 0 := by
  by_contra hne
  rw [runWithin_eq (Nat.pos_of_ne_zero hne)] at h
  cases h

theorem unlessLate_of_expired (h : deadline.nanos = 0) (next : StateM Memory (Option α)) :
    unlessLate deadline next m = (none, m) := by
  have hlate : ¬ObjectStore.elapsed m < deadline := by
    show ¬0 < deadline.nanos
    omega
  show (if ObjectStore.elapsed m < deadline then next else pure none) m = (none, m)
  rw [if_neg hlate]
  rfl

theorem objects_of_abandoned_get {key : String} {limit : Nat}
    {next : Answer ByteArray → Program α}
    (h : (get key limit next).runWithin deadline m = (none, m')) : m'.objects = m.objects := by
  have hget : (get key limit next).runWithin deadline m = (none, (m.getObject key limit).2) :=
    unlessLate_of_expired (expired_of_abandoned h) _
  obtain ⟨-, rfl⟩ := Prod.mk.inj (hget.symm.trans h)
  exact m.objects_getObject key limit

theorem eq_of_abandoned_idle {p : Program α} (hp : Position.Idle (.start p))
    (h : p.runWithin deadline m = (none, m')) : m' = m := by
  cases p with
  | done result => cases h
  | presign key contentType lifetime next =>
      have hpresign : (presign key contentType lifetime next).runWithin deadline m = (none, m) :=
        unlessLate_of_expired (expired_of_abandoned h) _
      exact (Prod.mk.inj (h.symm.trans hpresign)).2
  | get | putBoth | delete => cases hp

end Program

namespace Http

namespace Service

variable {s : Service} {token : Token} {now : Instant} {r : Request} {m m' : Memory}
  {reply : Reply}

theorem objects_of_abandoned {deadline : Span}
    (h : (s.handle token now r).runWithin deadline m = (none, m')) :
    m'.objects = m.objects ∧ (¬r.IsCommit → m' = m) := by
  by_cases hr : r.IsCommit
  · refine ⟨?_, fun hnot => absurd hr hnot⟩
    rcases s.handle_commit token now hr with ⟨reply, hdone, -⟩ | ⟨order, -, hmade⟩
    · rw [hdone] at h
      cases h
    · -- with a raw key the commit begins with its read, and is abandoned there if at all
      rw [hmade, Publisher.commit] at h
      split at h
      · exact Program.objects_of_abandoned_get h
      · cases h
  · obtain rfl := Program.eq_of_abandoned_idle (s.idle_handle token now hr) h
    exact ⟨rfl, fun _ => rfl⟩

inductive Replies (s : Service) (token : Token) (now : Instant) (r : Request) (m : Memory)
    (reply : Reply) (m' : Memory) : Prop where
  | finished : Session.Step s m (.request token now r reply) m' → Replies s token now r m reply m'
  | responded : s.respond token now r m = (reply, m') → Replies s token now r m reply m'

theorem Replies.step_or_timedOut (h : s.Replies token now r m reply m') :
    Session.Step s m (.request token now r reply) m' ∨
      reply = timedOut ∧ m'.objects = m.objects ∧ (¬r.IsCommit → m' = m) := by
  cases h with
  | finished hstep => exact .inl hstep
  | responded hrespond =>
      cases hrun : (s.handle token now r).runWithin s.settings.requestTimeout m with
      | mk outcome after =>
          obtain ⟨rfl, rfl⟩ := Prod.mk.inj ((respond_of_runWithin hrun).symm.trans hrespond)
          cases outcome with
          | some reply => exact .inl (.of_runWithin hrun)
          | none => exact .inr ⟨rfl, objects_of_abandoned hrun⟩

end Service

end Http

end ImageIntake
