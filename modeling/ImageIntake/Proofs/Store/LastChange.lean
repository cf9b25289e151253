import ImageIntake.Proofs.Store.Alike
import ImageIntake.Proofs.Store.Exchange
import Mathlib.Data.List.Induction

namespace ImageIntake

def Event.served : Event → Nat
  | .reads _ (.ok body) => body.size
  | _ => 0

def totalServed : List Event → Nat
  | [] => 0
  | e :: heard => e.served + totalServed heard

theorem totalServed_append (heard more : List Event) :
    totalServed (heard ++ more) = totalServed heard + totalServed more := by
  induction heard with
  | nil => exact (Nat.zero_add _).symm
  | cons e heard ih => rw [List.cons_append, totalServed, totalServed, ih, Nat.add_assoc]

namespace Memory

inductive Act where
  | insert (key : String) (body : ByteArray) (contentType : String)
  | call (call : Call)
  | failPuts (suffix : String)
  | failDeletes (fail : Bool)

namespace Act

def suffix? : Act → Option String
  | .failPuts suffix => some suffix
  | _ => none

def fail? : Act → Option Bool
  | .failDeletes fail => some fail
  | _ => none

end Act

def perform (m : Memory) : Act → List Event × Memory
  | .insert key body contentType => ([], m.upload key body contentType)
  | .call call => ([(m.answer call).1], (m.answer call).2)
  | .failPuts suffix => ([], m.failPutsEndingWith suffix)
  | .failDeletes fail => ([], m.setDeletesFail fail)

def replay (acts : List Act) : List Event × Memory :=
  acts.foldl (fun past act => (past.1 ++ (past.2.perform act).1, (past.2.perform act).2)) ([], empty)

theorem replay_concat (acts : List Act) (act : Act) :
    replay (acts ++ [act]) =
      ((replay acts).1 ++ ((replay acts).2.perform act).1, ((replay acts).2.perform act).2) := by
  rw [replay, List.foldl_append]
  rfl

def suffixInForce (acts : List Act) : Option String := (acts.filterMap Act.suffix?).getLast?

def deletesRefused (acts : List Act) : Bool := (acts.filterMap Act.fail?).getLast?.getD false

inductive Act.Leaves (before : List Act) (key : String) : Act → Option StoredObject → Prop where
  | insert (body : ByteArray) (contentType : String) :
      Leaves before key (.insert key body contentType) (some ⟨body, ⟨contentType, none⟩⟩)
  | put (w : Write) : w.key = key →
      (∀ suffix, suffixInForce before = some suffix → ¬suffix.toList <:+ key.toList) →
      Leaves before key (.call (.put w)) (some w.object)
  | delete : deletesRefused before = false → Leaves before key (.call (.delete key)) none

def LastLeaves (acts : List Act) (key : String) (left : Option StoredObject) : Prop :=
  ∃ before act later, acts = before ++ act :: later ∧ act.Leaves before key left ∧
    ∀ between act' rest, later = between ++ act' :: rest →
      ∀ left', ¬act'.Leaves (before ++ act :: between) key left'

section

variable {acts before : List Act} {act : Act} {key : String} {left left' : Option StoredObject}

theorem Act.Leaves.unique (h : act.Leaves before key left) (h' : act.Leaves before key left') :
    left = left' := by
  cases h with
  | insert | put | delete => cases h'; rfl

theorem split_concat {later : List Act} {act' : Act}
    (h : acts ++ [act] = before ++ act' :: later) :
    (before = acts ∧ act' = act ∧ later = []) ∨
      ∃ rest, later = rest ++ [act] ∧ acts = before ++ act' :: rest := by
  rcases List.eq_nil_or_concat later with rfl | ⟨rest, last, rfl⟩
  · obtain ⟨hacts, hact⟩ := List.append_inj' h rfl
    exact .inl ⟨hacts.symm, (List.singleton_inj.mp hact).symm, rfl⟩
  · have h' : acts ++ [act] = (before ++ act' :: rest) ++ [last] := by simpa using h
    obtain ⟨hacts, hact⟩ := List.append_inj' h' rfl
    obtain rfl := List.singleton_inj.mp hact
    exact .inr ⟨rest, List.concat_eq_append, hacts⟩

theorem lastLeaves_concat_of_leaves (h : act.Leaves acts key left) :
    LastLeaves (acts ++ [act]) key left' ↔ left' = left := by
  constructor
  · rintro ⟨before, act', later, hacts, hleaves, hlast⟩
    rcases split_concat hacts with ⟨rfl, rfl, -⟩ | ⟨rest, hlater, rfl⟩
    · exact hleaves.unique h
    · exact absurd h (hlast rest act [] hlater left)
  · rintro rfl
    exact ⟨acts, act, [], rfl, h, fun between act' rest hnil => absurd hnil (by simp)⟩

theorem lastLeaves_concat_of_idle (h : ∀ left, ¬act.Leaves acts key left) :
    LastLeaves (acts ++ [act]) key left ↔ LastLeaves acts key left := by
  constructor
  · rintro ⟨before, act', later, hacts, hleaves, hlast⟩
    rcases split_concat hacts with ⟨rfl, rfl, -⟩ | ⟨rest, rfl, rfl⟩
    · exact absurd hleaves (h left)
    · refine ⟨before, act', rest, rfl, hleaves, fun between act'' more hrest => ?_⟩
      exact hlast between act'' (more ++ [act]) (by simp [hrest])
  · rintro ⟨before, act', later, rfl, hleaves, hlast⟩
    refine ⟨before, act', later ++ [act], by simp, hleaves, fun between act'' rest hlater => ?_⟩
    rcases split_concat hlater with ⟨rfl, rfl, -⟩ | ⟨more, -, hmore⟩
    · exact h
    · exact hlast between act'' more hmore

theorem not_lastLeaves_nil (key : String) (left : Option StoredObject) : ¬LastLeaves [] key left := by
  rintro ⟨before, act, later, hnil, -⟩
  exact absurd hnil (by simp)

end

section

variable (m : Memory) (acts : List Act) (act : Act)

theorem suffixInForce_concat :
    suffixInForce (acts ++ [act]) = act.suffix?.or (suffixInForce acts) := by
  rw [suffixInForce, List.filterMap_append, List.getLast?_append]
  cases act <;> rfl

theorem deletesRefused_concat :
    deletesRefused (acts ++ [act]) = act.fail?.getD (deletesRefused acts) := by
  rw [deletesRefused, List.filterMap_append, List.getLast?_append]
  cases act <;> rfl

theorem failingSuffix_perform :
    (m.perform act).2.failingSuffix = act.suffix?.or m.failingSuffix := by
  cases act with
  | insert | failPuts | failDeletes => rfl
  | call call => cases call <;> simp [perform, answer, Act.suffix?]

theorem deletesFail_perform : (m.perform act).2.deletesFail = act.fail?.getD m.deletesFail := by
  cases act with
  | insert | failPuts | failDeletes => rfl
  | call call => cases call <;> simp [perform, answer, Act.fail?]

theorem switches_replay :
    (replay acts).2.failingSuffix = suffixInForce acts ∧
      (replay acts).2.deletesFail = deletesRefused acts := by
  induction acts using List.reverseRecOn with
  | nil => exact ⟨rfl, rfl⟩
  | append_singleton acts act ih =>
      rw [replay_concat, failingSuffix_perform, deletesFail_perform, suffixInForce_concat,
        deletesRefused_concat, ih.1, ih.2]
      exact ⟨rfl, rfl⟩

variable {m acts act} {key : String} {left : Option StoredObject}

theorem refusesPut_iff :
    m.refusesPut key = true ↔
      ∃ suffix, m.failingSuffix = some suffix ∧ suffix.toList <:+ key.toList := by
  rw [refusesPut]
  cases m.failingSuffix <;> simp

theorem find?_of_leaves (hsuffix : m.failingSuffix = suffixInForce acts)
    (hdeletes : m.deletesFail = deletesRefused acts) (h : act.Leaves acts key left) :
    (m.perform act).2.objects.find? key = left := by
  cases h with
  | insert body contentType =>
      exact (m.find?_upload key key body contentType).trans (if_pos rfl)
  | put w hkey hfree =>
      subst hkey
      have htaken : m.refusesPut w.key = false := by
        rw [← Bool.not_eq_true, refusesPut_iff, hsuffix]
        rintro ⟨suffix, hforce, hends⟩
        exact hfree suffix hforce hends
      refine find?_putObject_ok ?_
      rw [putObject_of_taken htaken]
  | delete hobeyed => exact find?_deleteObject_self (hdeletes.trans hobeyed) key

theorem find?_of_idle (hsuffix : m.failingSuffix = suffixInForce acts)
    (hdeletes : m.deletesFail = deletesRefused acts) (h : ∀ left, ¬act.Leaves acts key left) :
    (m.perform act).2.objects.find? key = m.objects.find? key := by
  cases act with
  | failPuts | failDeletes => rfl
  | insert other body contentType =>
      have hne : other ≠ key := by
        rintro rfl
        exact h _ (.insert body contentType)
      exact (m.find?_upload other key body contentType).trans (if_neg hne)
  | call call =>
      cases call with
      | get other limit =>
          show (m.getObject other limit).2.objects.find? key = _
          rw [m.objects_getObject]
      | presign => rfl
      | put w =>
          show (m.putObject w).2.objects.find? key = _
          by_cases hkey : key = w.key
          · have hrefused : m.refusesPut w.key = true := by
              by_contra hnot
              rw [refusesPut_iff, hsuffix] at hnot
              refine h _ (.put w hkey.symm fun suffix hforce hends => hnot ⟨suffix, hforce, ?_⟩)
              rwa [← hkey]
            rw [putObject_of_refused hrefused]
          · exact m.find?_putObject_of_ne hkey
      | delete other =>
          show (m.deleteObject other).2.objects.find? key = _
          by_cases hkey : key = other
          · subst hkey
            have hrefused : m.deletesFail = true := by
              by_contra hnot
              rw [hdeletes, Bool.not_eq_true] at hnot
              exact h _ (.delete hnot)
            rw [m.find?_deleteObject, if_pos hrefused]
          · exact m.find?_deleteObject_of_ne hkey

theorem find?_replay {object : StoredObject} :
    (replay acts).2.objects.find? key = some object ↔ LastLeaves acts key (some object) := by
  induction acts using List.reverseRecOn with
  | nil => exact iff_of_false (by simp [replay, empty]) (not_lastLeaves_nil key _)
  | append_singleton acts act ih =>
      obtain ⟨hsuffix, hdeletes⟩ := switches_replay acts
      rw [replay_concat]
      by_cases h : ∃ left, act.Leaves acts key left
      · obtain ⟨left, hleaves⟩ := h
        rw [find?_of_leaves hsuffix hdeletes hleaves, lastLeaves_concat_of_leaves hleaves, eq_comm]
      · have hidle := not_exists.mp h
        rw [find?_of_idle hsuffix hdeletes hidle, lastLeaves_concat_of_idle hidle, ih]

theorem getObject_eq_ok_iff {limit : Nat} {body : ByteArray} :
    (m.getObject key limit).1 = .ok body ↔
      ∃ object, m.objects.find? key = some object ∧ object.body = body ∧ body.size ≤ limit := by
  rw [getObject]
  cases m.objects.find? key with
  | none => simp
  | some object =>
      by_cases hlarge : limit < object.body.size
      · simp only [if_pos hlarge]
        refine iff_of_false (by simp) ?_
        rintro ⟨_, ⟨⟩, rfl, hsmall⟩
        omega
      · simp only [if_neg hlarge]
        constructor
        · rintro ⟨⟩
          exact ⟨object, rfl, rfl, Nat.le_of_not_lt hlarge⟩
        · rintro ⟨_, ⟨⟩, rfl, -⟩
          rfl

theorem getObject_tooLarge_iff {limit : Nat} :
    (m.getObject key limit).1 = .error (.tooLarge key limit) ↔
      ∃ object, m.objects.find? key = some object ∧ limit < object.body.size := by
  rw [getObject]
  cases m.objects.find? key with
  | none => simp
  | some object => by_cases hlarge : limit < object.body.size <;> simp [hlarge]

theorem getObject_notFound_iff {limit : Nat} :
    (m.getObject key limit).1 = .error (.notFound key) ↔ m.objects.find? key = none := by
  rw [getObject]
  cases m.objects.find? key with
  | none => simp
  | some object => by_cases hlarge : limit < object.body.size <;> simp [hlarge]

theorem bytesServed_getObject (m : Memory) (key : String) (limit : Nat) :
    (m.getObject key limit).2.bytesServed.toNat =
      (m.bytesServed.toNat + (Event.reads key (m.getObject key limit).1).served) % UInt64.size := by
  have hword := m.bytesServed.toNat_lt
  rw [getObject]
  split
  · exact (Nat.mod_eq_of_lt hword).symm
  · split
    · exact (Nat.mod_eq_of_lt hword).symm
    · simp [Event.served]

theorem bytesServed_answer (m : Memory) (call : Call) :
    (m.answer call).2.bytesServed.toNat =
      (m.bytesServed.toNat + (m.answer call).1.served) % UInt64.size := by
  have hword : m.bytesServed.toNat = m.bytesServed.toNat % UInt64.size :=
    (Nat.mod_eq_of_lt m.bytesServed.toNat_lt).symm
  cases call with
  | get key limit => exact bytesServed_getObject m key limit
  | presign => exact hword
  | put w =>
      have hkept : (m.putObject w).2.bytesServed = m.bytesServed := by
        rw [putObject]
        split <;> rfl
      exact (congrArg UInt64.toNat hkept).trans hword
  | delete key =>
      have hkept : (m.deleteObject key).2.bytesServed = m.bytesServed := by
        rw [deleteObject]
        split <;> rfl
      exact (congrArg UInt64.toNat hkept).trans hword

theorem bytesServed_perform (m : Memory) (act : Act) :
    (m.perform act).2.bytesServed.toNat =
      (m.bytesServed.toNat + totalServed (m.perform act).1) % UInt64.size := by
  cases act with
  | insert | failPuts | failDeletes => exact (Nat.mod_eq_of_lt m.bytesServed.toNat_lt).symm
  | call call => exact bytesServed_answer m call

theorem bytesServed_replay (acts : List Act) :
    (replay acts).2.bytesServed.toNat = totalServed (replay acts).1 % UInt64.size := by
  induction acts using List.reverseRecOn with
  | nil => rfl
  | append_singleton acts act ih =>
      rw [replay_concat, bytesServed_perform, ih, totalServed_append, Nat.mod_add_mod]

theorem answer_of_error {call : Call} {e : StoreError} (h : (m.answer call).1.error? = some e) :
    (m.answer call).2 = m := by
  cases call with
  | presign => rfl
  | get key limit =>
      have herror : (m.getObject key limit).1 = .error e := Answer.error?_eq_some.mp h
      show (m.getObject key limit).2 = m
      rw [getObject] at herror ⊢
      split at herror
      · rfl
      · split at herror
        · next hlarge => rw [if_pos hlarge]
        · cases herror
  | put w =>
      have herror : (m.putObject w).1 = .error e := Answer.error?_eq_some.mp h
      show (m.putObject w).2 = m
      cases hrefuses : m.refusesPut w.key with
      | true => rw [putObject_of_refused hrefuses]
      | false =>
          rw [putObject_of_taken hrefuses] at herror
          cases herror
  | delete key =>
      have herror : (m.deleteObject key).1 = .error e := Answer.error?_eq_some.mp h
      show (m.deleteObject key).2 = m
      cases hfail : m.deletesFail with
      | true => rw [deleteObject, if_pos hfail]
      | false =>
          rw [deleteObject_of_obeyed hfail] at herror
          cases herror

end

structure Remembers (m : Memory) (acts : List Act) (heard : List Event) : Prop where
  held : ∀ key object,
    m.objects.find? key = some object ↔ LastLeaves acts key (some object)
  ordered : m.objects.keys.Pairwise (· < ·)
  listed : ∀ key, key ∈ m.objects.keys ↔ ∃ object, LastLeaves acts key (some object)
  read : ∀ key limit body, (m.getObject key limit).1 = .ok body ↔
    ∃ object, LastLeaves acts key (some object) ∧ object.body = body ∧ body.size ≤ limit
  tooLarge : ∀ key limit, (m.getObject key limit).1 = .error (.tooLarge key limit) ↔
    ∃ object, LastLeaves acts key (some object) ∧ limit < object.body.size
  absent : ∀ key limit, (m.getObject key limit).1 = .error (.notFound key) ↔
    ∀ object, ¬LastLeaves acts key (some object)
  counted : m.bytesServed.toNat = totalServed heard % UInt64.size
  kept : ∀ call e, (m.answer call).1.error? = some e → (m.answer call).2 = m

theorem remembers_replay (acts : List Act) :
    (replay acts).2.Remembers acts (replay acts).1 where
  held _ _ := find?_replay
  ordered := Shelf.pairwise_keys _
  listed key := by
    rw [Shelf.mem_keys_iff, Option.isSome_iff_exists]
    exact exists_congr fun _ => find?_replay
  read key limit body := by
    rw [getObject_eq_ok_iff]
    exact exists_congr fun _ => and_congr_left fun _ => find?_replay
  tooLarge key limit := by
    rw [getObject_tooLarge_iff]
    exact exists_congr fun _ => and_congr_left fun _ => find?_replay
  absent key limit := by
    rw [getObject_notFound_iff, Option.eq_none_iff_forall_ne_some]
    exact forall_congr' fun _ => not_congr find?_replay
  counted := bytesServed_replay acts
  kept _ _ := answer_of_error

end Memory

end ImageIntake
