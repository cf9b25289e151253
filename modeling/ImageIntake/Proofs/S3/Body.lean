import ImageIntake.S3.Body
import Mathlib.Logic.Relation

namespace ImageIntake.S3

@[simp] theorem totalSize_nil : totalSize [] = 0 := rfl

@[simp] theorem totalSize_cons (piece : ByteArray) (pieces : List ByteArray) :
    totalSize (piece :: pieces) = piece.size + totalSize pieces := rfl

@[simp] theorem totalSize_append (pieces pieces' : List ByteArray) :
    totalSize (pieces ++ pieces') = totalSize pieces + totalSize pieces' := by
  induction pieces with
  | nil => simp
  | cons piece pieces ih =>
      rw [List.cons_append, totalSize_cons, totalSize_cons, ih]
      omega

theorem size_foldl_append (data : ByteArray) (pieces : List ByteArray) :
    (pieces.foldl (· ++ ·) data).size = data.size + totalSize pieces := by
  induction pieces generalizing data with
  | nil => simp
  | cons piece pieces ih =>
      rw [List.foldl_cons, ih, ByteArray.size_append, totalSize_cons]
      omega

theorem totalSize_mono {before pieces : List ByteArray} (h : before <+: pieces) :
    totalSize before ≤ totalSize pieces := by
  obtain ⟨after, rfl⟩ := h
  simp

theorem exists_crossing {limit : Nat} {pieces : List ByteArray} (h : limit < totalSize pieces) :
    ∃ taken piece unread, pieces = taken ++ piece :: unread ∧ totalSize taken ≤ limit ∧
      limit < totalSize (taken ++ [piece]) := by
  induction pieces generalizing limit with
  | nil => cases h
  | cons first pieces ih =>
      rw [totalSize_cons] at h
      by_cases hfirst : limit < first.size
      · exact ⟨[], first, pieces, rfl, Nat.zero_le _, by simpa using hfirst⟩
      · have hrest : limit - first.size < totalSize pieces := by omega
        obtain ⟨taken, piece, unread, rfl, htaken, hcrossed⟩ := ih hrest
        refine ⟨first :: taken, piece, unread, rfl, ?_, ?_⟩
        · rw [totalSize_cons]
          omega
        · rw [List.cons_append, totalSize_cons]
          omega

namespace Reading

variable {key : String} {limit : Nat} {s t : Reading} {data : ByteArray}
  {pieces taken unread : List ByteArray} {piece : ByteArray} {ending : BodyEnd}

theorem turn_of_le (h : data.size + piece.size ≤ limit) :
    turn key limit ⟨data, ⟨piece :: pieces, ending⟩⟩ = .onward ⟨data ++ piece, ⟨pieces, ending⟩⟩ :=
  if_neg (Nat.not_lt.mpr h)

theorem turn_of_lt (h : limit < data.size + piece.size) :
    turn key limit ⟨data, ⟨piece :: pieces, ending⟩⟩ =
      .settled (.error (.tooLarge key limit)) ⟨pieces, ending⟩ :=
  if_pos h

theorem run_of_onward (h : s.turn key limit = .onward t) : s.run key limit = t.run key limit := by
  rw [run]
  split
  · next h' => cases h.symm.trans h'; rfl
  · next h' => cases h.symm.trans h'

theorem run_of_settled {answer : Answer ByteArray} {body : Body}
    (h : s.turn key limit = .settled answer body) : s.run key limit = (answer, body) := by
  rw [run]
  split
  · next h' => cases h.symm.trans h'
  · next h' => cases h.symm.trans h'; rfl

theorem run_append (h : data.size + totalSize taken ≤ limit) (key : String)
    (unread : List ByteArray) (ending : BodyEnd) :
    run key limit ⟨data, ⟨taken ++ unread, ending⟩⟩ =
      run key limit ⟨taken.foldl (· ++ ·) data, ⟨unread, ending⟩⟩ := by
  induction taken generalizing data with
  | nil => rfl
  | cons piece taken ih =>
      rw [totalSize_cons] at h
      have hpiece : data.size + piece.size ≤ limit := by omega
      have hrest : (data ++ piece).size + totalSize taken ≤ limit := by
        rw [ByteArray.size_append]
        omega
      rw [List.cons_append, run_of_onward (turn_of_le hpiece), ih hrest, List.foldl_cons]

theorem run_of_complete (h : data.size + totalSize pieces ≤ limit) :
    run key limit ⟨data, ⟨pieces, .complete⟩⟩ =
      (.ok (pieces.foldl (· ++ ·) data), ⟨[], .complete⟩) := by
  have happend := run_append h key [] .complete
  rw [List.append_nil] at happend
  rw [happend]
  exact run_of_settled rfl

theorem run_of_brokenOff (h : data.size + totalSize pieces ≤ limit) :
    ∃ detail, run key limit ⟨data, ⟨pieces, .brokenOff⟩⟩ =
      (.error (.transport detail), ⟨[], .brokenOff⟩) := by
  have happend := run_append h key [] .brokenOff
  rw [List.append_nil] at happend
  exact ⟨_, happend.trans (run_of_settled rfl)⟩

theorem run_of_crossing (htaken : data.size + totalSize taken ≤ limit)
    (hcrossed : limit < data.size + totalSize (taken ++ [piece])) :
    run key limit ⟨data, ⟨taken ++ piece :: unread, ending⟩⟩ =
      (.error (.tooLarge key limit), ⟨unread, ending⟩) := by
  have hfull : limit < (taken.foldl (· ++ ·) data).size + piece.size := by
    rw [totalSize_append, totalSize_cons, totalSize_nil] at hcrossed
    rw [size_foldl_append]
    omega
  rw [run_append htaken]
  exact run_of_settled (turn_of_lt hfull)

def Reaches (key : String) (limit : Nat) : Reading → Reading → Prop :=
  Relation.ReflTransGen fun s t => s.turn key limit = .onward t

structure Of (limit : Nat) (body : Body) (s : Reading) : Prop where
  within : s.data.size ≤ limit
  taken : ∃ taken, body.pieces = taken ++ s.rest.pieces ∧ s.data = taken.foldl (· ++ ·) .empty
  ending : s.rest.ending = body.ending

theorem of_start (limit : Nat) (body : Body) : Of limit body ⟨.empty, body⟩ :=
  ⟨Nat.zero_le limit, ⟨[], rfl, rfl⟩, rfl⟩

theorem Of.turn {body : Body} (h : Of limit body s) (hturn : s.turn key limit = .onward t) :
    Of limit body t := by
  obtain ⟨data, ⟨pieces, ending⟩⟩ := s
  cases pieces with
  | nil => cases ending <;> cases hturn
  | cons piece pieces =>
      by_cases hfull : limit < data.size + piece.size
      · rw [turn_of_lt hfull] at hturn
        cases hturn
      · rw [turn_of_le (Nat.not_lt.mp hfull)] at hturn
        cases hturn
        obtain ⟨taken, hpieces, hdata⟩ := h.taken
        refine ⟨?_, ⟨taken ++ [piece], ?_, ?_⟩, h.ending⟩
        · rw [ByteArray.size_append]
          exact Nat.not_lt.mp hfull
        · rw [hpieces, List.append_assoc, List.singleton_append]
        · rw [List.foldl_append, ← hdata, List.foldl_cons, List.foldl_nil]

theorem of_reaches {body : Body} (h : Reaches key limit ⟨.empty, body⟩ s) : Of limit body s := by
  induction h with
  | refl => exact of_start limit body
  | tail _ hturn ih => exact ih.turn hturn

theorem exists_settled (key : String) (limit : Nat) (s : Reading) :
    ∃ last, Reaches key limit s last ∧
      last.turn key limit = .settled (s.run key limit).1 (s.run key limit).2 := by
  fun_induction run key limit s with
  | case1 s t hturn ih =>
      obtain ⟨last, hreaches, hlast⟩ := ih
      exact ⟨last, hreaches.head hturn, hlast⟩
  | case2 s answer unread hturn => exact ⟨s, .refl, hturn⟩

theorem data_of_settled {body : Body} (h : s.turn key limit = .settled (.ok data) body) :
    data = s.data := by
  unfold turn at h
  split at h
  · cases h
    rfl
  · cases h
  · split at h <;> cases h

theorem size_le_of_run {body unread : Body}
    (h : run key limit ⟨.empty, body⟩ = (.ok data, unread)) : data.size ≤ limit := by
  obtain ⟨last, hreaches, hlast⟩ := exists_settled key limit ⟨.empty, body⟩
  rw [h] at hlast
  rw [data_of_settled hlast]
  exact (of_reaches hreaches).within

end Reading

theorem readBounded_of_le {limit : Nat} {pieces : List ByteArray} (h : totalSize pieces ≤ limit)
    (key : String) :
    (readBounded key limit ⟨pieces, .complete⟩).1 = .ok (pieces.foldl (· ++ ·) .empty) := by
  rw [readBounded, Reading.run_of_complete (by simpa using h)]

theorem readBounded_of_lt {limit : Nat} {pieces : List ByteArray} (h : limit < totalSize pieces)
    (key : String) (ending : BodyEnd) :
    ∃ taken piece unread, pieces = taken ++ piece :: unread ∧ totalSize taken ≤ limit ∧
      limit < totalSize (taken ++ [piece]) ∧
      readBounded key limit ⟨pieces, ending⟩ =
        (.error (.tooLarge key limit), ⟨unread, ending⟩) := by
  obtain ⟨taken, piece, unread, rfl, htaken, hcrossed⟩ := exists_crossing h
  refine ⟨taken, piece, unread, rfl, htaken, hcrossed, ?_⟩
  exact Reading.run_of_crossing (by simpa using htaken) (by simpa using hcrossed)

def Admits (limit : Nat) (announced : Option Int) : Prop :=
  ∀ length : Int, announced = some length → 0 ≤ length → length ≤ limit

theorem receiveBody_of_refused {limit : Nat} {length : Int} (h : (limit : Int) < length)
    (key : String) (body : Body) :
    receiveBody key limit (some length) body = (.error (.tooLarge key limit), body) := by
  cases length with
  | ofNat n => exact if_pos (Int.ofNat_lt.mp h)
  | negSucc n => omega

theorem receiveBody_of_admitted {limit : Nat} {announced : Option Int}
    (h : Admits limit announced) (key : String) (body : Body) :
    receiveBody key limit announced body = readBounded key limit body := by
  match announced with
  | none => rfl
  | some (.negSucc n) => rfl
  | some (.ofNat n) =>
      have hle := h _ rfl (Int.natCast_nonneg n)
      exact if_neg (Nat.not_lt.mpr (Int.ofNat_le.mp hle))

end ImageIntake.S3
