import ImageIntake.Proofs.S3.Agreement
import ImageIntake.Proofs.S3.SignedUrl

namespace ImageIntake

namespace Span

variable {σ : Type} [ObjectStore σ]

def RefusedBy (lifetime : Span) (store : σ) (key contentType : String) : Prop :=
  ∃ detail, ObjectStore.presign key contentType lifetime store =
    (.error (.configuration detail), store)

def marks : List String := ["expires-in=", "X-Amz-Expires="]

def GrantedBy (lifetime : Span) (store : σ) (key contentType : String) : Prop :=
  ∃ url, ObjectStore.presign key contentType lifetime store = (.ok url, store) ∧
    ∃ mark ∈ marks, S3.HasParameter (mark ++ toString lifetime.seconds) url

structure Bounded (lifetime : Span) : Prop where
  pos : 0 < lifetime.nanos
  le_week : lifetime ≤ S3.maxLifetime

variable {lifetime : Span} {store : σ} {key contentType : String}

theorem GrantedBy.not_refusedBy (h : lifetime.GrantedBy store key contentType) :
    ¬lifetime.RefusedBy store key contentType := by
  rintro ⟨detail, hrefused⟩
  obtain ⟨url, hgranted, -⟩ := h
  cases hrefused.symm.trans hgranted

theorem bounded_iff : lifetime.Bounded ↔ (lifetime.nanos = 0 ↔ S3.maxLifetime < lifetime) := by
  have hweek : 0 < S3.maxLifetime.nanos := by decide
  have hlt : S3.maxLifetime < lifetime ↔ S3.maxLifetime.nanos < lifetime.nanos := Iff.rfl
  rw [hlt]
  constructor
  · rintro ⟨hpos, hle⟩
    have hle' : lifetime.nanos ≤ S3.maxLifetime.nanos := hle
    omega
  · intro h
    have hle : lifetime.nanos ≤ S3.maxLifetime.nanos := by omega
    exact ⟨by omega, hle⟩

end Span

variable {lifetime : Span} {key contentType : String}

namespace Memory

variable (m : Memory)

theorem refusedBy_of_zero (h : lifetime.nanos = 0) : lifetime.RefusedBy m key contentType :=
  ⟨_, congrArg (·, m) (if_pos h)⟩

theorem grantedBy_of_pos (h : 0 < lifetime.nanos) : lifetime.GrantedBy m key contentType := by
  have hmark : "&expires-in=" = "&" ++ "expires-in=" := by decide
  refine ⟨_, congrArg (·, m) (if_neg (Nat.pos_iff_ne_zero.mp h)), "expires-in=",
    List.mem_cons_self, ?_⟩
  rw [hmark, ← String.append_assoc, String.append_assoc]
  exact .last _

theorem refusedBy_iff : lifetime.RefusedBy m key contentType ↔ lifetime.nanos = 0 := by
  refine ⟨fun hrefused => ?_, m.refusedBy_of_zero⟩
  by_contra hne
  exact (m.grantedBy_of_pos (Nat.pos_iff_ne_zero.mpr hne)).not_refusedBy hrefused

theorem grantedBy_iff :
    lifetime.GrantedBy m key contentType ↔ ¬lifetime.RefusedBy m key contentType := by
  refine ⟨Span.GrantedBy.not_refusedBy, fun hnot => ?_⟩
  rw [m.refusedBy_iff] at hnot
  exact m.grantedBy_of_pos (Nat.pos_iff_ne_zero.mpr hnot)

end Memory

namespace S3.Gateway

variable {τ : Type} (g : Gateway τ)

structure Addresses (g : Gateway τ) (key contentType : String) : Prop where
  reaches : ∃ endpoint, Endpoint.of? g.readUrl g.settings = some endpoint
  key : key ≠ ""
  type : Http.isHeaderText contentType = true

theorem presignUpload_of_le (h : lifetime ≤ maxLifetime) :
    g.presignUpload key contentType lifetime =
      match buildRequest g.readUrl g.settings .put key [("content-type", contentType)] .empty with
      | .error detail => .error (.service ("Failed to generate presigned URL: " ++ detail))
      | .ok request => .ok (g.signer.presignedUrl request lifetime.seconds) :=
  if_neg (Nat.not_lt.mpr h)

variable [Transport τ]

theorem refusedBy_of_lt (h : maxLifetime < lifetime) : lifetime.RefusedBy g key contentType :=
  ⟨_, congrArg (·, g) (if_pos h)⟩

theorem grantedBy_of_le (haddresses : g.Addresses key contentType) (h : lifetime ≤ maxLifetime) :
    lifetime.GrantedBy g key contentType := by
  obtain ⟨endpoint, hendpoint⟩ := haddresses.reaches
  have hfields : ∀ field ∈ [("content-type", contentType)], Describes field := by
    intro field hfield
    rw [List.mem_singleton.mp hfield]
    exact ⟨by simp, haddresses.type⟩
  have hsize : ByteArray.empty.size = 0 := rfl
  obtain ⟨request, hrequest, -⟩ :=
    buildRequest_eq_ok .put hendpoint haddresses.key hfields (.inl hsize)
  have hurl : g.presignUpload key contentType lifetime =
      .ok (g.signer.presignedUrl request lifetime.seconds) := by
    rw [presignUpload_of_le g h, hrequest]
  exact ⟨_, congrArg (·, g) hurl, "X-Amz-Expires=", by decide,
    g.signer.hasParameter_presignedUrl request lifetime.seconds⟩

theorem refusedBy_iff : lifetime.RefusedBy g key contentType ↔ maxLifetime < lifetime := by
  refine ⟨fun ⟨detail, hrefused⟩ => ?_, g.refusedBy_of_lt⟩
  by_contra hle
  have hurl : g.presignUpload key contentType lifetime = .error (.configuration detail) :=
    congrArg Prod.fst hrefused
  rw [g.presignUpload_of_le (Nat.not_lt.mp hle)] at hurl
  split at hurl
  · cases hurl
  · cases hurl

theorem grantedBy_iff (haddresses : g.Addresses key contentType) :
    lifetime.GrantedBy g key contentType ↔ ¬lifetime.RefusedBy g key contentType := by
  refine ⟨Span.GrantedBy.not_refusedBy, fun hnot => ?_⟩
  rw [g.refusedBy_iff] at hnot
  exact g.grantedBy_of_le haddresses (Nat.not_lt.mp hnot)

/-- A store in memory and a gateway hold the same lifetimes to be invalid just within the bounds of
both: the one refuses no more than nothing at all, the other what is longer than a week. What a
store does not refuse, it grants. -/
theorem lifetimes_agree_iff_bounded (m : Memory) (key contentType : String) (lifetime : Span) :
    ((lifetime.RefusedBy m key contentType ↔ lifetime.RefusedBy g key contentType) ↔
      lifetime.Bounded) ∧
    (lifetime.RefusedBy m key contentType ↔ lifetime.nanos = 0) ∧
    (lifetime.RefusedBy g key contentType ↔ maxLifetime < lifetime) ∧
    (lifetime.GrantedBy m key contentType ↔ ¬lifetime.RefusedBy m key contentType) ∧
    (g.Addresses key contentType →
      (lifetime.GrantedBy g key contentType ↔ ¬lifetime.RefusedBy g key contentType)) := by
  refine ⟨?_, m.refusedBy_iff, g.refusedBy_iff, m.grantedBy_iff, g.grantedBy_iff⟩
  rw [m.refusedBy_iff, g.refusedBy_iff, Span.bounded_iff]

end S3.Gateway

namespace Sample

open S3

theorem addresses_banner : gateway.Addresses banner.key banner.options.contentType where
  reaches := ⟨endpoint, by decide +kernel⟩
  key := by decide
  type := by decide +kernel

end Sample

namespace S3.Gateway

open Sample (gateway banner)

theorem lifetimes_agree_iff_bounded_week :
    gateway.Addresses banner.key banner.options.contentType ∧
      maxLifetime.GrantedBy Memory.empty banner.key banner.options.contentType ∧
      maxLifetime.GrantedBy gateway banner.key banner.options.contentType ∧
      (Span.mk 604800000000001).GrantedBy Memory.empty banner.key banner.options.contentType ∧
      (Span.mk 604800000000001).RefusedBy gateway banner.key banner.options.contentType := by
  have haddresses := Sample.addresses_banner
  obtain ⟨-, hmemory, hgateway, hgranted, hgranted'⟩ := lifetimes_agree_iff_bounded gateway .empty
    banner.key banner.options.contentType maxLifetime
  obtain ⟨-, hmemory', hgateway', hlonger, -⟩ := lifetimes_agree_iff_bounded gateway .empty
    banner.key banner.options.contentType ⟨604800000000001⟩
  refine ⟨haddresses, hgranted.mpr ?_, (hgranted' haddresses).mpr ?_, hlonger.mpr ?_,
    hgateway'.mpr (by decide)⟩
  · rw [hmemory]
    decide
  · rw [hgateway]
    decide
  · rw [hmemory']
    decide

theorem exists_lifetime_judged_apart :
    ¬∀ (m : Memory) (g : Gateway Bucket) (key contentType : String) (lifetime : Span),
      g.Addresses key contentType →
      (lifetime.RefusedBy m key contentType ↔ lifetime.RefusedBy g key contentType) := by
  intro hall
  have hsame := hall .empty gateway _ _ ⟨0⟩ Sample.addresses_banner
  have hrefused := hsame.mp (Memory.empty.refusedBy_of_zero rfl)
  exact absurd (gateway.refusedBy_iff.mp hrefused) (by decide)

end S3.Gateway

end ImageIntake
