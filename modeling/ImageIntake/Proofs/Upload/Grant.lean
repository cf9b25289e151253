import ImageIntake.Upload.Grant

namespace ImageIntake

def grantOf (type : ImageType) (token : Token) : Answer String → Except UploadError Grant
  | .error cause => .error (.storage cause)
  | .ok url => .ok { url, rawKey := rawKey type token, type }

namespace Declaration

structure Passes (d : Declaration) (type : ImageType) : Prop where
  type : ImageType.parse? d.contentType = some type
  size : d.bytes ≤ Policy.maxUploadBytes

variable {d : Declaration} {type : ImageType}

theorem Passes.authorize_eq (h : d.Passes type) (lifetime : Span) (token : Token) :
    authorize lifetime token d = .presign (rawKey type token) type.mime lifetime fun answer =>
      .done (grantOf type token answer) := by
  rw [authorize]
  simp only [h.type, if_neg (Nat.not_lt.mpr h.size)]
  refine congrArg (Program.presign _ _ _) (funext fun answer => ?_)
  cases answer <;> rfl

theorem authorize_of_none (h : ImageType.parse? d.contentType = none) (lifetime : Span)
    (token : Token) : authorize lifetime token d =
      .done (.error (.unsupportedType (ImageType.plainDeclaration d.contentType))) := by
  rw [authorize, h]

theorem authorize_of_lt (htype : ImageType.parse? d.contentType = some type)
    (hsize : Policy.maxUploadBytes < d.bytes) (lifetime : Span) (token : Token) :
    authorize lifetime token d =
      .done (.error (.declaredTooLarge d.bytes Policy.maxUploadBytes)) := by
  rw [authorize]
  simp only [htype, if_pos hsize]

inductive Fate (d : Declaration) : Prop where
  | unsupported : (∀ lifetime token, authorize lifetime token d =
      .done (.error (.unsupportedType (ImageType.plainDeclaration d.contentType)))) → Fate d
  | tooLarge : (∀ lifetime token, authorize lifetime token d =
      .done (.error (.declaredTooLarge d.bytes Policy.maxUploadBytes))) → Fate d
  | asked (type : ImageType) : d.Passes type → Fate d

theorem fate (d : Declaration) : d.Fate := by
  cases htype : ImageType.parse? d.contentType with
  | none => exact .unsupported (authorize_of_none htype)
  | some type =>
      by_cases hsize : d.bytes ≤ Policy.maxUploadBytes
      · exact .asked type ⟨htype, hsize⟩
      · exact .tooLarge (authorize_of_lt htype (Nat.not_le.mp hsize))

end Declaration

end ImageIntake
