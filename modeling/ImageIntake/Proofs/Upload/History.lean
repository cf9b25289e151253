import ImageIntake.Proofs.Upload.Key
import ImageIntake.Proofs.Upload.Phase

namespace ImageIntake

inductive Puts (first second : Write) : Progress → Progress → List Event → Prop where
  | none : Puts first second .unasked .unasked []
  | askFirst {two es} : Puts first second .unasked two es →
      Puts first second .asked two (es ++ [.asks (.put first)])
  | askSecond {one es} : Puts first second one .unasked es →
      Puts first second one .asked (es ++ [.asks (.put second)])
  | firstDone {two es} : Puts first second .asked two es →
      Puts first second .done two (es ++ [.writes first (.ok ())])
  | secondDone {one es} : Puts first second one .asked es →
      Puts first second one .done (es ++ [.writes second (.ok ())])

namespace Puts

variable {first second : Write} {one two : Progress} {es : List Event}

theorem mem_iff (h : Puts first second one two es) (e : Event) :
    e ∈ es ↔ (e = .asks (.put first) ∧ one ≠ .unasked) ∨
      (e = .asks (.put second) ∧ two ≠ .unasked) ∨
      (e = .writes first (.ok ()) ∧ one = .done) ∨
      (e = .writes second (.ok ()) ∧ two = .done) := by
  induction h with
  | none => simp
  | askFirst _ ih | askSecond _ ih | firstDone _ ih | secondDone _ ih =>
      simp only [List.mem_append, List.mem_singleton, ih]
      simp only [ne_eq, reduceCtorEq, not_true_eq_false, not_false_eq_true, and_false, and_true,
        false_or, or_assoc, or_comm, or_left_comm]

def callsOf (w : Write) : Progress → List Call
  | .unasked => []
  | .asked => [.put w]
  | .done => [.put w]

theorem callsIn_perm (h : Puts first second one two es) :
    (callsIn es).Perm (callsOf first one ++ callsOf second two) := by
  induction h with
  | none => exact .refl _
  | @askFirst two es _ ih =>
      rw [callsIn_append]
      have hswap : (callsIn es ++ [Call.put first]).Perm (Call.put first :: callsIn es) :=
        List.perm_append_singleton _ _
      exact hswap.trans (ih.cons _)
  | askSecond _ ih =>
      rw [callsIn_append]
      simpa [callsOf] using ih.append_right [Call.put second]
  | firstDone _ ih | secondDone _ ih =>
      rw [callsIn_append]
      simpa [callsOf] using ih

theorem length_le (h : Puts first second one two es) : es.length ≤ 4 := by
  have hlen : es.length = one.ctorIdx + two.ctorIdx := by
    induction h with
    | none => rfl
    | askFirst _ ih | askSecond _ ih | firstDone _ ih | secondDone _ ih =>
        rw [List.length_append, ih]
        simp [Progress.ctorIdx] <;> omega
  cases one <;> cases two <;> simp [hlen, Progress.ctorIdx]

end Puts

structure Publisher.Renders (p : Publisher) (raw : ByteArray) (pair : RenditionPair) : Prop where
  filled : raw.size ≠ 0
  small : raw.size ≤ Policy.maxUploadBytes
  rendered : p.render raw = some pair

inductive Publisher.Rejects (p : Publisher) (raw : ByteArray) : InvalidUpload → Prop where
  | empty : raw.size = 0 → Rejects p raw .empty
  | tooLarge : Policy.maxUploadBytes < raw.size → Rejects p raw .tooLarge
  | notAnImage : raw.size ≠ 0 → raw.size ≤ Policy.maxUploadBytes → p.render raw = none →
      Rejects p raw .notAnImage

inductive History (p : Publisher) (j : Job) : List Event → Phase → Prop where
  | foreign : isRawKey j.rawKey = false → History p j [] (.refused .notFound)
  | fresh : isRawKey j.rawKey = true → History p j [] (.reading false)
  | asked : isRawKey j.rawKey = true → History p j [.asks j.read] (.reading true)
  | unread {cause} : isRawKey j.rawKey = true → (∀ key limit, cause ≠ .tooLarge key limit) →
      History p j [.asks j.read, .reads j.rawKey (.error cause)] (.refused .notFound)
  | tooLong {key limit} : isRawKey j.rawKey = true →
      History p j [.asks j.read, .reads j.rawKey (.error (.tooLarge key limit))]
        (.refused (.invalid .tooLarge))
  | rejected {raw reason} : isRawKey j.rawKey = true → p.Rejects raw reason →
      History p j [.asks j.read, .reads j.rawKey (.ok raw)] (.refused (.invalid reason))
  | writing {raw pair one two puts} : isRawKey j.rawKey = true → p.Renders raw pair →
      Puts (j.fullWrite pair) (j.thumbnailWrite pair) one two puts →
      ¬(one = .done ∧ two = .done) →
      History p j (.asks j.read :: .reads j.rawKey (.ok raw) :: puts) (.writing raw pair one two)
  | unwritten {raw pair one two puts w cause} : isRawKey j.rawKey = true → p.Renders raw pair →
      Puts (j.fullWrite pair) (j.thumbnailWrite pair) one two puts →
      (w = j.fullWrite pair ∧ one = .asked ∨ w = j.thumbnailWrite pair ∧ two = .asked) →
      History p j
        (.asks j.read :: .reads j.rawKey (.ok raw) :: (puts ++ [.writes w (.error cause)]))
        (.refused (.storage cause))
  | clearing {raw pair puts} : isRawKey j.rawKey = true → p.Renders raw pair →
      Puts (j.fullWrite pair) (j.thumbnailWrite pair) .done .done puts →
      History p j (.asks j.read :: .reads j.rawKey (.ok raw) :: puts) (.clearing raw pair false)
  | deleting {raw pair puts} : isRawKey j.rawKey = true → p.Renders raw pair →
      Puts (j.fullWrite pair) (j.thumbnailWrite pair) .done .done puts →
      History p j
        (.asks j.read :: .reads j.rawKey (.ok raw) :: (puts ++ [.asks (.delete j.rawKey)]))
        (.clearing raw pair true)
  | published {raw pair puts} (answer) : isRawKey j.rawKey = true → p.Renders raw pair →
      Puts (j.fullWrite pair) (j.thumbnailWrite pair) .done .done puts →
      History p j
        (.asks j.read :: .reads j.rawKey (.ok raw) ::
          (puts ++ [.asks (.delete j.rawKey), .deletes j.rawKey answer]))
        (.published raw pair)

namespace History

variable {p : Publisher} {j : Job} {trace : List Event}

theorem start (p : Publisher) (j : Job) : History p j [] (Phase.start j) := by
  rw [Phase.start]
  split
  · next h => exact .fresh h
  · next h => exact .foreign (by simpa using h)

theorem ofRead (h : isRawKey j.rawKey = true) (answer : Answer ByteArray) :
    History p j [.asks j.read, .reads j.rawKey answer] (Phase.ofRead p answer) := by
  rcases answer with cause | raw
  · cases cause with
    | tooLarge key limit => exact .tooLong h
    | notFound | service | serverFault | transport | configuration =>
        exact .unread h (fun _ _ => by simp)
  · rw [Phase.ofRead]
    split
    · next hs => exact .rejected h (.empty hs)
    · next hs =>
      split
      · next hl => exact .rejected h (.tooLarge hl)
      · next hl =>
        cases hr : p.render raw with
        | none => exact .rejected h (.notAnImage hs (Nat.le_of_not_lt hl) hr)
        | some pair =>
            exact .writing h ⟨hs, Nat.le_of_not_lt hl, hr⟩ .none (by simp)

theorem ofWrite {raw : ByteArray} {pair : RenditionPair} {one two : Progress} {puts : List Event}
    (h : isRawKey j.rawKey = true) (hr : p.Renders raw pair)
    (hp : Puts (j.fullWrite pair) (j.thumbnailWrite pair) one two puts) :
    History p j (.asks j.read :: .reads j.rawKey (.ok raw) :: puts)
      (Phase.ofWrite raw pair one two) := by
  rw [Phase.ofWrite]
  split
  · next hd =>
    obtain ⟨rfl, rfl⟩ := hd
    exact .clearing h hr hp
  · next hd => exact .writing h hr hp hd

theorem step {phase phase' : Phase} {e : Event} (h : History p j trace phase)
    (hs : Phase.Step p j phase e phase') : History p j (trace ++ [e]) phase' := by
  cases hs with
  | askRead => cases h with | fresh hk => exact .asked hk
  | hearRead answer => cases h with | asked hk => exact ofRead hk answer
  | askFull => cases h with | writing hk hr hp _ => exact .writing hk hr hp.askFirst (by simp)
  | askThumbnail => cases h with | writing hk hr hp _ => exact .writing hk hr hp.askSecond (by simp)
  | fullDone => cases h with | writing hk hr hp _ => exact ofWrite hk hr hp.firstDone
  | thumbnailDone => cases h with | writing hk hr hp _ => exact ofWrite hk hr hp.secondDone
  | fullRefused => cases h with | writing hk hr hp _ => exact .unwritten hk hr hp (.inl ⟨rfl, rfl⟩)
  | thumbnailRefused =>
      cases h with | writing hk hr hp _ => exact .unwritten hk hr hp (.inr ⟨rfl, rfl⟩)
  | askDelete => cases h with | clearing hk hr hp => exact .deleting hk hr hp
  | hearDelete answer =>
      cases h with
      | deleting hk hr hp =>
          have hpub := published answer hk hr hp
          simpa using hpub

theorem walk {phase : Phase} (h : Walk (Phase.Step p j) (Phase.start j) trace phase) :
    History p j trace phase := by
  generalize hs : Phase.start j = start at h
  induction h with
  | refl => exact hs ▸ History.start p j
  | snoc _ hstep ih => exact ih.step hstep

theorem of_converses {pos : Position (Except UploadError Publication)}
    (h : Position.Converses (.start (p.run j)) trace pos) :
    ∃ phase : Phase, History p j trace phase ∧ pos = phase.position p j := by
  rw [← Phase.position_start] at h
  obtain ⟨phase, hw, hpos⟩ := Phase.walk_of_converses p j h
  exact ⟨phase, walk hw, hpos⟩

end History

end ImageIntake
