import ImageIntake.Proofs.S3.Bucket
import ImageIntake.Proofs.Settings.Load
import ImageIntake.S3.Script

namespace ImageIntake.S3

structure ReadsWithin (key : String) (limit : Nat) (body : Body)
    (outcome : Answer ByteArray × Body) : Prop where
  overflow : (∃ before, before <+: body.pieces ∧ limit < totalSize before) →
    ∃ taken piece unread, body.pieces = taken ++ piece :: unread ∧ totalSize taken ≤ limit ∧
      limit < totalSize (taken ++ [piece]) ∧
      outcome = (.error (.tooLarge key limit), ⟨unread, body.ending⟩)
  brokenOff : (∀ before, before <+: body.pieces → totalSize before ≤ limit) →
    body.ending = .brokenOff → ∃ detail, outcome.1 = .error (.transport detail)
  complete : (∀ before, before <+: body.pieces → totalSize before ≤ limit) →
    body.ending = .complete → outcome.1 = .ok (body.pieces.foldl (· ++ ·) .empty)
  moment : ∃ last, Reading.Reaches key limit ⟨.empty, body⟩ last ∧
    last.turn key limit = .settled outcome.1 outcome.2

theorem readsWithin_readBounded (key : String) (limit : Nat) (body : Body) :
    ReadsWithin key limit body (readBounded key limit body) := by
  obtain ⟨pieces, ending⟩ := body
  have hall (hfits : ∀ before, before <+: pieces → totalSize before ≤ limit) :
      ByteArray.empty.size + totalSize pieces ≤ limit := by
    simpa using hfits pieces List.prefix_rfl
  refine ⟨?_, ?_, ?_, Reading.exists_settled key limit _⟩
  · -- more than the limit in some front is more than the limit in all
    rintro ⟨before, hbefore, hlimit⟩
    have hfull := Nat.lt_of_lt_of_le hlimit (totalSize_mono hbefore)
    exact readBounded_of_lt hfull key ending
  · rintro hfits rfl
    obtain ⟨detail, hrun⟩ := Reading.run_of_brokenOff (hall hfits)
    exact ⟨detail, congrArg Prod.fst hrun⟩
  · rintro hfits rfl
    exact congrArg Prod.fst (Reading.run_of_complete (hall hfits))

theorem size_le_of_receiveBody {key : String} {limit : Nat} {announced : Option Int} {body : Body}
    {data : ByteArray} (h : (receiveBody key limit announced body).1 = .ok data) :
    data.size ≤ limit := by
  by_cases hadmitted : Admits limit announced
  · rw [receiveBody_of_admitted hadmitted] at h
    exact Reading.size_le_of_run (Prod.ext h rfl)
  · simp only [Admits, not_forall] at hadmitted
    obtain ⟨length, rfl, -, hlength⟩ := hadmitted
    rw [receiveBody_of_refused (Int.not_le.mp hlength)] at h
    cases h

theorem reads_are_bounded (key : String) (limit : Nat) (announced : Option Int) (body : Body) :
    ((∃ length : Int, announced = some length ∧ 0 ≤ length ∧ limit < length) →
      receiveBody key limit announced body = (.error (.tooLarge key limit), body)) ∧
    (Admits limit announced →
      ReadsWithin key limit body (receiveBody key limit announced body)) ∧
    (∀ s, Reading.Reaches key limit ⟨.empty, body⟩ s → s.Of limit body) ∧
    (∀ data, (receiveBody key limit announced body).1 = .ok data → data.size ≤ limit) ∧
    ∀ {τ : Type} [Transport τ] (g : Gateway τ) (request : Request) (r : Response) (t' : τ),
      buildRequest g.readUrl g.settings .get key [] .empty = .ok request →
      Transport.send (g.signer.sign request) g.transport = (.response r, t') →
      r.isSuccess = true → announcedLength r = .ok announced → r.body = body →
      Gateway.getObject key limit g =
        ((receiveBody key limit announced body).1, { g with transport := t' }) := by
  refine ⟨?_, ?_, fun s => Reading.of_reaches, fun data => size_le_of_receiveBody, ?_⟩
  · rintro ⟨length, rfl, -, hlength⟩
    exact receiveBody_of_refused hlength key body
  · intro hadmitted
    rw [receiveBody_of_admitted hadmitted]
    exact readsWithin_readBounded key limit body
  · intro τ _ g request r t' hrequest hsend hsuccess hlength hbody
    rw [Gateway.getObject_of_response hrequest hsend, receive, if_pos hsuccess, receiveObject,
      hlength, hbody]

end ImageIntake.S3

namespace ImageIntake.Sample

open S3

def fragments : Response where
  status := 200
  headers := [("Content-Length", "-1")]
  chunks := [⟨#[1, 2, 3]⟩, .empty, ⟨#[4, 5, 6, 7, 8, 9]⟩, ⟨#[10]⟩]
  breaksOff := true

def fragmentary : Gateway Script :=
  ⟨readUrl, loaded.store, ⟨0, 0⟩, ⟨[{ outcome := .response fragments }], []⟩, ⟨0⟩⟩

theorem announcedLength_fragments : announcedLength fragments = .ok (some (-1)) := by
  decide +kernel

theorem send_fragmentary (request : Request) :
    ∃ t', Transport.send (fragmentary.signer.sign request) fragmentary.transport =
      (.response fragments, t') := ⟨_, rfl⟩

end ImageIntake.Sample

namespace ImageIntake.S3

theorem reads_are_bounded_fragmentary :
    announcedLength Sample.fragments = .ok (some (-1)) ∧ Admits 8 (some (-1)) ∧
      (∃ before, before <+: Sample.fragments.body.pieces ∧ 8 < totalSize before) ∧
      (Gateway.getObject "raw/a" 8 Sample.fragmentary).1 = .error (.tooLarge "raw/a" 8) := by
  have hadmitted : Admits 8 (some (-1)) := by
    intro length hlength
    cases hlength
    omega
  have hcrossed : ∃ before, before <+: Sample.fragments.body.pieces ∧ 8 < totalSize before :=
    ⟨[⟨#[1, 2, 3]⟩, .empty, ⟨#[4, 5, 6, 7, 8, 9]⟩], ⟨[⟨#[10]⟩], rfl⟩, by decide⟩
  obtain ⟨-, hreads, -, -, hgateway⟩ :=
    reads_are_bounded "raw/a" 8 (some (-1)) Sample.fragments.body
  obtain ⟨_, _, _, -, -, -, houtcome⟩ := (hreads hadmitted).overflow hcrossed
  have hendpoint : Endpoint.of? Sample.fragmentary.readUrl Sample.fragmentary.settings =
      some ⟨"http", "[::1]:9000", "/uploads"⟩ := by decide +kernel
  obtain ⟨request, hrequest, -⟩ :=
    buildRequest_bare .get hendpoint (by decide : "raw/a" ≠ "")
  obtain ⟨t', hsend⟩ := Sample.send_fragmentary request
  have hget := hgateway Sample.fragmentary request Sample.fragments t' hrequest hsend rfl
    Sample.announcedLength_fragments rfl
  refine ⟨Sample.announcedLength_fragments, hadmitted, hcrossed, ?_⟩
  rw [hget, houtcome]

end ImageIntake.S3
