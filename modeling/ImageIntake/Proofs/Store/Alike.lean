import ImageIntake.Proofs.Store.Conversation
import Mathlib.Data.List.Forall2

namespace ImageIntake

inductive StoreError.Alike : StoreError → StoreError → Prop where
  | notFound (key key' : String) : Alike (.notFound key) (.notFound key')
  | tooLarge (key : String) (limit : Nat) : Alike (.tooLarge key limit) (.tooLarge key limit)
  | service (detail detail' : String) : Alike (.service detail) (.service detail')
  | serverFault (detail detail' : String) : Alike (.serverFault detail) (.serverFault detail')
  | transport (detail detail' : String) : Alike (.transport detail) (.transport detail')
  | configuration (detail detail' : String) : Alike (.configuration detail) (.configuration detail')

inductive Answer.Alike {α : Type} : Answer α → Answer α → Prop where
  | ok (a : α) : Alike (.ok a) (.ok a)
  | error {e e' : StoreError} (h : e.Alike e') : Alike (.error e) (.error e')

inductive Event.Alike : Event → Event → Prop where
  | reads (key : String) {a a' : Answer ByteArray} (h : a.Alike a') :
      Alike (.reads key a) (.reads key a')
  | writes (w : Write) {a a' : Answer Unit} (h : a.Alike a') : Alike (.writes w a) (.writes w a')
  | deletes (key : String) {a a' : Answer Unit} (h : a.Alike a') :
      Alike (.deletes key a) (.deletes key a')

def Answer.error? {α : Type} : Answer α → Option StoreError
  | .ok _ => none
  | .error e => some e

def Event.error? : Event → Option StoreError
  | .asks _ => none
  | .reads _ answer => answer.error?
  | .writes _ answer => answer.error?
  | .deletes _ answer => answer.error?
  | .presigns _ answer => answer.error?

theorem Answer.error?_eq_some {α : Type} {a : Answer α} {e : StoreError} :
    a.error? = some e ↔ a = .error e := by
  cases a <;> simp [error?]

variable {σ σ' : Type} [ObjectStore σ] [ObjectStore σ']

def answer : Call → StateM σ Event
  | .get key limit => return .reads key (← ObjectStore.get key limit)
  | .put w => return .writes w (← ObjectStore.put w)
  | .delete key => return .deletes key (← ObjectStore.delete key)
  | .presign key contentType lifetime =>
      return .presigns key (← ObjectStore.presign key contentType lifetime)

def answers : List Call → StateM σ (List Event)
  | [] => return []
  | call :: calls => return (← answer call) :: (← answers calls)

theorem answers_cons (call : Call) (calls : List Call) (s : σ) :
    answers (call :: calls) s =
      ((answer call s).1 :: (answers calls (answer call s).2).1,
        (answers calls (answer call s).2).2) := rfl

theorem alike_answers {Related : σ → σ' → Prop} {Allowed : Call → Prop}
    (hstep : ∀ s s' call, Related s s' → Allowed call →
      (answer call s).1.Alike (answer call s').1 ∧ Related (answer call s).2 (answer call s').2)
    {s : σ} {s' : σ'} (h : Related s s') {calls : List Call}
    (hcalls : ∀ call ∈ calls, Allowed call) :
    List.Forall₂ Event.Alike (answers calls s).1 (answers calls s').1 := by
  induction calls generalizing s s' with
  | nil => exact .nil
  | cons call calls ih =>
      obtain ⟨hcall, hrest⟩ := List.forall_mem_cons.mp hcalls
      obtain ⟨halike, hnext⟩ := hstep s s' call h hcall
      rw [answers_cons, answers_cons]
      exact .cons halike (ih hnext hrest)

end ImageIntake
