import ImageIntake.Proofs.Upload.Exchange
import Mathlib.Logic.Function.Basic

namespace ImageIntake

structure World (ι : Type) where
  memory : Memory
  position : ι → Position (Except UploadError Publication)
  dropped : ι → Bool

inductive Act (ι : Type) where
  | call (i : ι) (call : Call)
  | drop (i : ι)
  | upload (key : String) (body : ByteArray) (contentType : String)
  | failPuts (suffix : String)
  | failDeletes (fail : Bool)

namespace World

variable {ι : Type} [DecidableEq ι]

def start (p : Publisher) (jobs : ι → Job) (m : Memory) : World ι where
  memory := m
  position i :=
    .start (p.commit (jobs i).token (jobs i).now (jobs i).post (jobs i).rawKey)
  dropped _ := false

omit [DecidableEq ι] in
theorem position_start (p : Publisher) (jobs : ι → Job) (m : Memory) (i : ι) :
    (start p jobs m).position i = .start (p.run (jobs i)) := rfl

inductive Step : World ι → Act ι → World ι → Prop where
  | call {w : World ι} {i : ι} {call : Call} {pos m} : w.dropped i = false →
      Position.Exchange (w.position i, w.memory) call (pos, m) →
      Step w (.call i call) { w with memory := m, position := Function.update w.position i pos }
  | drop {w : World ι} (i : ι) :
      Step w (.drop i) { w with dropped := Function.update w.dropped i true }
  | upload {w : World ι} {key : String} (body : ByteArray) (contentType : String) :
      isRawKey key = true →
      Step w (.upload key body contentType)
        { w with memory := w.memory.upload key body contentType }
  | failPuts {w : World ι} (suffix : String) :
      Step w (.failPuts suffix) { w with memory := w.memory.failPutsEndingWith suffix }
  | failDeletes {w : World ι} (fail : Bool) :
      Step w (.failDeletes fail) { w with memory := w.memory.setDeletesFail fail }

abbrev Run : World ι → List (Act ι) → World ι → Prop := Walk Step

theorem Step.position_eq {w w' : World ι} {act : Act ι} {i : ι} (h : Step w act w')
    (hi : ∀ call, act ≠ .call i call) : w'.position i = w.position i := by
  cases h with
  | @call k call pos m _ _ =>
      have hik : i ≠ k := by
        rintro rfl
        exact hi call rfl
      exact Function.update_of_ne hik _ _
  | drop | upload | failPuts | failDeletes => rfl

theorem Step.exchange {w w' : World ι} {i : ι} {call : Call} (h : Step w (.call i call) w')
    {p : Publisher} {j : Job} {phase : Phase} (hi : w.position i = phase.position p j) :
    ∃ phase', Phase.Exchange p j (phase, w.memory) call (phase', w'.memory) ∧
      w'.position i = phase'.position p j := by
  cases h with
  | call _ hx =>
      rw [hi] at hx
      obtain ⟨phase', hx', rfl⟩ := Phase.exchange_of_exchange p j hx
      exact ⟨phase', hx', Function.update_self ..⟩

theorem Step.position_done {w w' : World ι} {act : Act ι} {i : ι} (h : Step w act w')
    {result : Except UploadError Publication} (hi : w.position i = .done result) :
    w'.position i = .done result := by
  cases h with
  | @call k call pos m _ hx =>
      by_cases hik : i = k
      · subst hik
        cases hx with
        | intro hask _ =>
            rw [hi] at hask
            cases hask
      · exact (Function.update_of_ne hik _ _).trans hi
  | drop | upload | failPuts | failDeletes => exact hi

theorem position_done_of_run {w w' : World ι} {acts : List (Act ι)} (h : Run w acts w') {i : ι}
    {result : Except UploadError Publication} (hi : w.position i = .done result) :
    w'.position i = .done result :=
  h.keeps (fun _ _ _ hs ht => ht.position_done hs) hi

end World

end ImageIntake
