import ImageIntake.Proofs.S3.Bucket
import ImageIntake.Proofs.Settings.Load
import ImageIntake.Proofs.Store.Alike
import ImageIntake.Proofs.Store.Exchange

namespace ImageIntake.S3

inductive LegalCall : Call → Prop where
  | get {key : String} (hkey : key ≠ "") (limit : Nat) : LegalCall (.get key limit)
  | put {w : Write} (hkey : w.key ≠ "") (hoptions : LegalOptions w.options)
      (hsize : w.body.size < 1 <<< 63) : LegalCall (.put w)
  | delete {key : String} (hkey : key ≠ "") : LegalCall (.delete key)

variable {τ : Type} {who : Signer} {endpoint : Endpoint} {held : τ → String → Option ByteArray}
  {m : Memory} {g : Gateway τ}

structure Agree (who : Signer) (endpoint : Endpoint) (held : τ → String → Option ByteArray)
    (m : Memory) (g : Gateway τ) : Prop where
  signer : g.signer = who
  reaches : Endpoint.of? g.readUrl g.settings = some endpoint
  bodies : ∀ key, held g.transport (endpoint.keyPath key) = (m.objects.find? key).map (·.body)
  fits : ∀ {key object}, m.objects.find? key = some object → object.body.size < 1 <<< 63
  takes : m.failingSuffix = none
  forgets : m.deletesFail = false

theorem agree_empty (hreaches : Endpoint.of? g.readUrl g.settings = some endpoint)
    (hempty : ∀ key, held g.transport (endpoint.keyPath key) = none) :
    Agree g.signer endpoint held .empty g := by
  refine ⟨rfl, hreaches, hempty, ?_, rfl, rfl⟩
  intro key object hfind
  cases hfind

theorem Agree.of_get (h : Agree who endpoint held m g) (key : String) (limit : Nat) {t' : τ}
    (hheld : held t' = held g.transport) :
    Agree who endpoint held (m.getObject key limit).2 { g with transport := t' } := by
  have hobjects := m.objects_getObject key limit
  refine ⟨h.signer, h.reaches, ?_, ?_, ?_, ?_⟩
  · intro other
    rw [hheld, hobjects]
    exact h.bodies other
  · intro other object hfind
    rw [hobjects] at hfind
    exact h.fits hfind
  · rw [Memory.failingSuffix_getObject]
    exact h.takes
  · rw [Memory.deletesFail_getObject]
    exact h.forgets

theorem Agree.of_sets (h : Agree who endpoint held m g) {key : String}
    {entry : Option StoredObject} {objects : Shelf StoredObject} {t' : τ}
    (hfind : ∀ other, objects.find? other = if key = other then entry else m.objects.find? other)
    (hsize : ∀ object, entry = some object → object.body.size < 1 <<< 63)
    (hsets : Sets (held g.transport) (held t') (endpoint.keyPath key) (entry.map (·.body))) :
    Agree who endpoint held { m with objects } { g with transport := t' } := by
  refine ⟨h.signer, h.reaches, ?_, ?_, h.takes, h.forgets⟩
  · intro other
    rw [hsets.of_keyPath other, hfind other]
    split
    · rfl
    · exact h.bodies other
  · intro other object hother
    rw [hfind other] at hother
    split at hother
    · exact hsize object hother
    · exact h.fits hother

variable [Transport τ]

theorem Agree.alike_get (hhonest : Honest who endpoint held) (h : Agree who endpoint held m g)
    {key : String} (hkey : key ≠ "") (limit : Nat) :
    (m.getObject key limit).1.Alike (Gateway.getObject key limit g).1 ∧
      Agree who endpoint held (m.getObject key limit).2 (Gateway.getObject key limit g).2 := by
  have hhere := h.bodies key
  rw [← h.signer] at hhonest
  cases hfind : m.objects.find? key with
  | none =>
      rw [hfind] at hhere
      obtain ⟨t', hheld, hget⟩ := Gateway.getObject_missing hhonest h.reaches hkey hhere limit
      have hmemory : (m.getObject key limit).1 = .error (.notFound key) := by
        rw [Memory.getObject_of_none hfind]
      rw [hget, hmemory]
      exact ⟨.error (.notFound key key), h.of_get key limit hheld⟩
  | some object =>
      rw [hfind] at hhere
      obtain ⟨t', hheld, hget⟩ :=
        Gateway.getObject_found hhonest h.reaches hkey hhere (h.fits hfind) limit
      rw [hget, Memory.fst_getObject_of_some hfind limit]
      refine ⟨?_, h.of_get key limit hheld⟩
      split
      · exact .error (.tooLarge key limit)
      · exact .ok object.body

theorem Agree.alike_put (hhonest : Honest who endpoint held) (h : Agree who endpoint held m g)
    {w : Write} (hkey : w.key ≠ "") (hoptions : LegalOptions w.options)
    (hsize : w.body.size < 1 <<< 63) :
    (m.putObject w).1.Alike (Gateway.putObject w g).1 ∧
      Agree who endpoint held (m.putObject w).2 (Gateway.putObject w g).2 := by
  rw [← h.signer] at hhonest
  obtain ⟨t', hsets, hput⟩ := Gateway.putObject_sets hhonest h.reaches hkey hoptions
  rw [Memory.putObject_of_taken (Memory.refusesPut_of_none h.takes w.key), hput]
  refine ⟨.ok (), h.of_sets (fun other => m.objects.find?_insert w.key other w.object) ?_ hsets⟩
  intro object hobject
  rw [← Option.some.inj hobject]
  exact hsize

theorem Agree.alike_delete (hhonest : Honest who endpoint held) (h : Agree who endpoint held m g)
    {key : String} (hkey : key ≠ "") :
    (m.deleteObject key).1.Alike (Gateway.deleteObject key g).1 ∧
      Agree who endpoint held (m.deleteObject key).2 (Gateway.deleteObject key g).2 := by
  rw [← h.signer] at hhonest
  obtain ⟨t', hsets, hdelete⟩ := Gateway.deleteObject_sets hhonest h.reaches hkey
  rw [Memory.deleteObject_of_obeyed h.forgets key, hdelete]
  refine ⟨.ok (), h.of_sets (fun other => m.objects.find?_erase key other) ?_ hsets⟩
  intro object hobject
  cases hobject

theorem Agree.alike_answer (hhonest : Honest who endpoint held) (h : Agree who endpoint held m g)
    {call : Call} (hcall : LegalCall call) :
    (answer call m).1.Alike (answer call g).1 ∧
      Agree who endpoint held (answer call m).2 (answer call g).2 := by
  cases hcall with
  | get hkey limit =>
      obtain ⟨halike, hnext⟩ := h.alike_get hhonest hkey limit
      exact ⟨.reads _ halike, hnext⟩
  | put hkey hoptions hsize =>
      obtain ⟨halike, hnext⟩ := h.alike_put hhonest hkey hoptions hsize
      exact ⟨.writes _ halike, hnext⟩
  | delete hkey =>
      obtain ⟨halike, hnext⟩ := h.alike_delete hhonest hkey
      exact ⟨.deletes _ halike, hnext⟩

theorem Gateway.answers_like_memory (hreaches : Endpoint.of? g.readUrl g.settings = some endpoint)
    (hhonest : Honest g.signer endpoint held)
    (hempty : ∀ key, held g.transport (endpoint.keyPath key) = none) {calls : List Call}
    (hcalls : ∀ call ∈ calls, LegalCall call) :
    List.Forall₂ Event.Alike (answers calls Memory.empty).1 (answers calls g).1 :=
  alike_answers (fun _ _ _ h hcall => h.alike_answer hhonest hcall) (agree_empty hreaches hempty)
    hcalls

end ImageIntake.S3

namespace ImageIntake.Sample

open S3

def endpoint : Endpoint := ⟨"http", "[::1]:9000", "/uploads"⟩

def gateway : Gateway Bucket := ⟨readUrl, loaded.store, ⟨0, 0⟩, ⟨.empty⟩, ⟨0⟩⟩

def banner : Write := ⟨"public/a b.webp", ⟨#[1, 2, 3]⟩, ⟨"image/webp", some "no-store"⟩⟩

def calls : List Call :=
  [.get banner.key 9, .put banner, .get banner.key 2, .get banner.key 3, .delete banner.key,
    .delete banner.key, .get banner.key 9]

theorem legal_calls : ∀ call ∈ calls, LegalCall call := by
  have hkey : banner.key ≠ "" := by decide
  have hoptions : LegalOptions banner.options := by
    refine ⟨by decide +kernel, ?_⟩
    intro directive hdirective
    cases hdirective
    decide +kernel
  have hsize : banner.body.size < 1 <<< 63 := by decide
  simp only [calls, List.forall_mem_cons]
  exact ⟨.get hkey 9, .put hkey hoptions hsize, .get hkey 2, .get hkey 3, .delete hkey,
    .delete hkey, .get hkey 9, List.forall_mem_nil _⟩

end ImageIntake.Sample

namespace ImageIntake.S3.Gateway

theorem answers_like_memory_bucket :
    Endpoint.of? Sample.gateway.readUrl Sample.gateway.settings = some Sample.endpoint ∧
      List.Forall₂ Event.Alike (answers Sample.calls Memory.empty).1
        (answers Sample.calls Sample.gateway).1 := by
  have hreaches : Endpoint.of? Sample.gateway.readUrl Sample.gateway.settings =
      some Sample.endpoint := by decide +kernel
  have hhonest : Honest Sample.gateway.signer Sample.endpoint Bucket.held :=
    Bucket.honest Sample.gateway.signer Sample.endpoint
  exact ⟨hreaches, answers_like_memory hreaches hhonest (fun _ => rfl) Sample.legal_calls⟩

end ImageIntake.S3.Gateway
