import ImageIntake.Proofs.S3.Body
import ImageIntake.Proofs.Text.Numeral
import ImageIntake.S3.Gateway

namespace ImageIntake.S3

open Text

structure Response.Delivers (r : Response) (body : ByteArray) : Prop where
  joined : r.chunks.foldl (· ++ ·) .empty = body
  unbroken : r.breaksOff = false
  length : r.values "content-length" = [] ∨ r.values "content-length" = [toString body.size]

namespace Response.Delivers

variable {r : Response} {body : ByteArray}

theorem bodyEnd_eq (h : r.Delivers body) : bodyEnd r body.size = .complete := by
  rw [bodyEnd, h.unbroken, bindingLength?]
  rcases h.length with hlength | hlength
  · rw [hlength]
    rfl
  · rw [hlength]
    simp only [readNumeral_toString]
    by_cases hle : body.size ≤ largest64
    · rw [if_pos hle]
      exact if_pos rfl
    · rw [if_neg hle]
      rfl

theorem wholeBody?_eq (h : r.Delivers body) : wholeBody? r = some body := by
  simp only [wholeBody?, h.joined, h.bodyEnd_eq]

theorem announcedLength_eq (h : r.Delivers body) (hsize : body.size < 1 <<< 63) :
    announcedLength r = .ok none ∨ announcedLength r = .ok (some body.size) := by
  rcases h.length with hlength | hlength
  · refine .inl ?_
    rw [announcedLength, hlength]
  · refine .inr ?_
    have hread : readNumeral (1 <<< 63 - 1) (toString body.size) = .ok body.size := by
      rw [readNumeral_toString, if_pos (by omega)]
    have hminus : '-' ∉ (toString body.size).toList := fun hmem =>
      absurd (isDigit_of_mem_toString hmem) (by decide)
    rw [announcedLength, hlength]
    simp only [trim_toString]
    split
    · next hnil => exact absurd hnil (toList_toString_ne_nil _)
    · next hneg => exact absurd (hneg ▸ List.mem_cons_self) hminus
    · rw [String.ofList_toList, hread]

theorem size_eq (h : r.Delivers body) : body.size = totalSize r.chunks := by
  rw [← h.joined, size_foldl_append, ByteArray.size_empty, Nat.zero_add]

theorem body_eq (h : r.Delivers body) : r.body = ⟨r.chunks, .complete⟩ := by
  rw [Response.body, ← h.size_eq, h.bodyEnd_eq]

theorem readBounded_eq (h : r.Delivers body) (key : String) (limit : Nat) :
    (readBounded key limit r.body).1 =
      if limit < body.size then .error (.tooLarge key limit) else .ok body := by
  rw [h.body_eq]
  by_cases hfull : limit < body.size
  · rw [if_pos hfull]
    rw [h.size_eq] at hfull
    obtain ⟨_, _, _, -, -, -, hread⟩ := readBounded_of_lt hfull key .complete
    rw [hread]
  · rw [if_neg hfull]
    rw [h.size_eq, Nat.not_lt] at hfull
    rw [readBounded_of_le hfull, h.joined]

theorem receiveObject_eq (h : r.Delivers body) (hsize : body.size < 1 <<< 63) (key : String)
    (limit : Nat) :
    receiveObject key limit r =
      if limit < body.size then .error (.tooLarge key limit) else .ok body := by
  rw [receiveObject, ← h.readBounded_eq key limit]
  rcases h.announcedLength_eq hsize with hnone | hsome
  · rw [hnone]
    rfl
  · simp only [hsome]
    by_cases hfull : limit < body.size
    · rw [receiveBody_of_refused (Int.ofNat_lt.mpr hfull), h.readBounded_eq, if_pos hfull]
    · have hadmitted : Admits limit (some body.size) := by
        intro length hlength _
        cases hlength
        exact Int.ofNat_le.mpr (Nat.not_lt.mp hfull)
      rw [receiveBody_of_admitted hadmitted]

theorem receive_found (h : r.Delivers body) (hsize : body.size < 1 <<< 63) (hstatus : r.status = 200)
    (key : String) (limit : Nat) :
    receive key limit r =
      if limit < body.size then .error (.tooLarge key limit) else .ok body := by
  have hsuccess : r.isSuccess = true := by simp [isSuccess, hstatus]
  rw [receive, if_pos hsuccess, h.receiveObject_eq hsize]

theorem receive_missing (h : r.Delivers body) (hstatus : r.status = 404) (key : String)
    (limit : Nat) : receive key limit r = .error (.notFound key) := by
  have hfailure : ¬r.isSuccess = true := by simp [isSuccess, hstatus]
  rw [receive, if_neg hfailure, h.wholeBody?_eq]
  simp only [refusal, hstatus, or_true, if_true]

theorem acknowledge_eq (h : r.Delivers body) (hsuccess : r.isSuccess = true)
    (hdocument : isErrorDocument body = false) (operation : Operation) (key : String) :
    acknowledge operation key r = .ok () := by
  rw [acknowledge, h.wholeBody?_eq]
  simp [hsuccess, hdocument]

end Response.Delivers

end ImageIntake.S3
