import ImageIntake.Store.Basic
import ImageIntake.Time.Span

namespace ImageIntake

abbrev Answer (α : Type) := Except StoreError α

inductive Program (α : Type) where
  | done (result : α)
  | get (key : String) (limit : Nat) (next : Answer ByteArray → Program α)
  | putBoth (first second : Write) (next : Answer Unit → Program α)
  | delete (key : String) (next : Answer Unit → Program α)
  | presign (key contentType : String) (lifetime : Span) (next : Answer String → Program α)

namespace Program

def bind {α β : Type} (p : Program α) (f : α → Program β) : Program β :=
  match p with
  | .done a => f a
  | .get key limit next => .get key limit fun answer => (next answer).bind f
  | .putBoth first second next => .putBoth first second fun answer => (next answer).bind f
  | .delete key next => .delete key fun answer => (next answer).bind f
  | .presign key contentType lifetime next =>
      .presign key contentType lifetime fun answer => (next answer).bind f

instance : Monad Program where
  pure := .done
  bind := bind

end Program

class ObjectStore (σ : Type) where
  get : String → Nat → StateM σ (Answer ByteArray)
  put : Write → StateM σ (Answer Unit)
  delete : String → StateM σ (Answer Unit)
  presign : String → String → Span → StateM σ (Answer String)
  putBoth : Write → Write → StateM σ (Answer Unit) := fun first second => do
    match ← put first with
    | .error e => return .error e
    | .ok _ => put second
  elapsed : σ → Span := fun _ => ⟨0⟩

namespace Program

variable {σ α : Type} [ObjectStore σ]

def run : Program α → StateM σ α
  | .done a => pure a
  | .get key limit next => do (next (← ObjectStore.get key limit)).run
  | .putBoth first second next => do (next (← ObjectStore.putBoth first second)).run
  | .delete key next => do (next (← ObjectStore.delete key)).run
  | .presign key contentType lifetime next => do
      (next (← ObjectStore.presign key contentType lifetime)).run

def unlessLate (deadline : Span) (next : StateM σ (Option α)) : StateM σ (Option α) := do
  if ObjectStore.elapsed (← getThe σ) < deadline then next else return none

/-- Runs a program, and abandons it after the call with which the store's time reaches
`deadline`. -/
def runWithin (deadline : Span) : Program α → StateM σ (Option α)
  | .done a => pure (some a)
  | .get key limit next => do
      let answer ← ObjectStore.get key limit
      unlessLate deadline ((next answer).runWithin deadline)
  | .putBoth first second next => do
      let answer ← ObjectStore.putBoth first second
      unlessLate deadline ((next answer).runWithin deadline)
  | .delete key next => do
      let answer ← ObjectStore.delete key
      unlessLate deadline ((next answer).runWithin deadline)
  | .presign key contentType lifetime next => do
      let answer ← ObjectStore.presign key contentType lifetime
      unlessLate deadline ((next answer).runWithin deadline)

end Program

end ImageIntake
