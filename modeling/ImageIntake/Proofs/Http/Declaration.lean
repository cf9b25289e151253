import ImageIntake.Proofs.Http.Redemption

namespace ImageIntake

open Text

theorem ImageType.parse?_eq_some_iff {declared : String} {type : ImageType} :
    parse? declared = some type ↔ toLowerAscii (trim declared) = type.mime := by
  constructor
  · exact fun h => (mime_of_parse? h).symm
  · intro h
    have hplain : plainDeclaration declared = type.mime := h
    rw [parse?, hplain]
    cases type <;> decide

theorem ImageType.parse?_eq_none_iff {declared : String} :
    parse? declared = none ↔ ∀ type : ImageType, toLowerAscii (trim declared) ≠ type.mime := by
  rw [Option.eq_none_iff_forall_ne_some]
  exact forall_congr' fun type => not_congr parse?_eq_some_iff

namespace Http

def declared (filename contentType : String) (size : Json.WholeNumber) : List Json.Entry :=
  [("filename", .text filename), ("content_type", .text contentType), ("bytes", .whole size)]

def DeclaresIn (filename contentType : String) (size : Json.WholeNumber) (document : List UInt8) :
    Prop :=
  ∃ es : List Json.Entry, es.Perm (declared filename contentType size) ∧
    Json.WritesRecord es document

section

variable {filename contentType : String} {size : Json.WholeNumber} {es : List Json.Entry}
  {document : List UInt8}

theorem knows_of_perm (h : es.Perm (declared filename contentType size)) :
    declarationForm.form.Knows es where
  kind e he := by
    have hmem := h.mem_iff.mp he
    simp only [declared, List.mem_cons, List.not_mem_nil, or_false] at hmem
    rcases hmem with rfl | rfl | rfl
    · exact List.lookup_cons_self
    · show declarationForm.form.fields.lookup "content_type" = some .text
      decide
    · show declarationForm.form.fields.lookup "bytes" = some .count
      decide
  once := by
    have hnames : ["filename", "content_type", "bytes"].Nodup := by decide
    have hperm : (es.map (·.1)).Perm ["filename", "content_type", "bytes"] := h.map _
    exact hperm.nodup_iff.mpr hnames

theorem DeclaresIn.readRecord_of_isWord (h : DeclaresIn filename contentType size document)
    (hword : size.IsWord) : Json.readRecord declarationForm.form document =
      .ok [.text filename, .text contentType, .count size.magnitude] := by
  obtain ⟨es, hperm, hwrites⟩ := h
  have hheld : Json.Scalar.held? (.whole size) = some (.count size.magnitude) :=
    Json.Scalar.held?_whole_eq_some.mpr ⟨hword, rfl⟩
  have hmem (e : Json.Entry) : e ∈ es ↔ e ∈ declared filename contentType size := hperm.mem_iff
  refine hwrites.readRecord_of_held (knows_of_perm hperm) ?_ ?_
  · intro e he
    have he' := (hmem e).mp he
    simp only [declared, List.mem_cons, List.not_mem_nil, or_false] at he'
    rcases he' with rfl | rfl | rfl
    · rfl
    · rfl
    · rw [hheld, Option.isSome_some]
  · refine .cons ⟨_, (hmem ("filename", .text filename)).mpr ?_, rfl, rfl⟩
      (.cons ⟨_, (hmem ("content_type", .text contentType)).mpr ?_, rfl, rfl⟩
        (.cons ⟨_, (hmem ("bytes", .whole size)).mpr ?_, rfl, hheld⟩ .nil)) <;>
    simp [declared]

theorem DeclaresIn.readRecord_of_not_isWord (h : DeclaresIn filename contentType size document)
    (hword : ¬size.IsWord) : ∃ left, Json.readRecord declarationForm.form document =
      .error (size.problem (.field "bytes") left) := by
  obtain ⟨es, hperm, hwrites⟩ := h
  have hsize : ("bytes", .whole size) ∈ es := hperm.mem_iff.mpr (by simp [declared])
  obtain ⟨e, he, hnone, left, hread⟩ := hwrites.readRecord_of_not_held (knows_of_perm hperm)
    ⟨_, hsize, Json.Scalar.held?_whole_eq_none.mpr hword⟩
  have he' := hperm.mem_iff.mp he
  simp only [declared, List.mem_cons, List.not_mem_nil, or_false] at he'
  rcases he' with rfl | rfl | rfl
  · cases hnone
  · cases hnone
  · exact ⟨left, hread⟩

end

def sizeComplaint (complaint : Json.Complaint) : String :=
  "Failed to deserialize the JSON body into the target type: bytes: " ++ complaint.describe

def placed (text : String) (place : Nat × Nat) : ApiError :=
  .validation (text ++ " at line " ++ toString place.1 ++ " column " ++ toString place.2)

def sizeRefusal (size : Json.WholeNumber) (place : Nat × Nat) : ApiError :=
  match size.found? with
  | some (.negative n) => placed (sizeComplaint (.belowZero n)) place
  | some (.float x) =>
      placed (sizeComplaint (.wrongType (.float x) Json.FieldKind.count.expected)) place
  | _ => .malformedJson

theorem problemError_size (size : Json.WholeNumber) (document left : List UInt8) :
    ∃ place, problemError document (size.problem (.field "bytes") left) =
      sizeRefusal size place := by
  refine ⟨Json.endPosition (document.take (document.length - left.length)), ?_⟩
  rw [Json.WholeNumber.problem, sizeRefusal]
  cases size.found? with
  | none => rfl
  | some found => cases found <;> rfl

def SameButForPlace (e : Nat × Nat → ApiError) : Prop :=
  (∀ place, e place = .malformedJson) ∨
    ∃ text, ∀ place, e place = placed text place

theorem sameButForPlace_sizeRefusal (size : Json.WholeNumber) :
    SameButForPlace (sizeRefusal size) := by
  unfold sizeRefusal
  cases size.found? with
  | none => exact .inl fun _ => rfl
  | some found =>
      cases found with
      | natural => exact .inl fun _ => rfl
      | negative n => exact .inr ⟨sizeComplaint (.belowZero n), fun _ => rfl⟩
      | float x =>
          exact .inr ⟨sizeComplaint (.wrongType (.float x) Json.FieldKind.count.expected),
            fun _ => rfl⟩

theorem SameButForPlace.fields {e : Nat × Nat → ApiError} (h : SameButForPlace e)
    (place : Nat × Nat) : (e place).status = 400 ∧ (e place).allowRetry = false ∧
      ((e place).code = "validation_error" ∨ (e place).code = "invalid_json") := by
  rcases h with hsame | ⟨text, htext⟩
  · rw [hsame place]
    exact ⟨rfl, rfl, .inr rfl⟩
  · rw [htext place]
    exact ⟨rfl, rfl, .inl rfl⟩

namespace Service

structure Declares (s : Service) (r : Request) (filename contentType : String)
    (size : Json.WholeNumber) : Prop where
  posts : r.PostsTo .presign
  admitted : s.guard.admits r = true
  json : sendsJson r = true
  short : r.body.size ≤ 2 * 1024 * 1024
  document : DeclaresIn filename contentType size r.body.toList

structure AsksForUrl (s : Service) (token : Token) (r : Request) (key mime : String)
    (lifetime : Span) (reply : Answer String → Reply) : Prop where
  handle : ∀ now, s.handle token now r =
    .presign key mime lifetime fun answer => .done (reply answer)
  respond : ∀ {σ : Type} [ObjectStore σ] (now : Instant) (m m' : σ) (answer : Answer String),
    ObjectStore.presign key mime lifetime m = (answer, m') →
    s.respond token now r m =
      (if ObjectStore.elapsed m' < s.settings.requestTimeout then reply answer else timedOut, m')

variable {s : Service} {r r' : Request} {filename filename' contentType : String}
  {size : Json.WholeNumber} {token : Token}

theorem asksForUrl_of_handle {key mime : String} {lifetime : Span} {reply : Answer String → Reply}
    (h : ∀ now, s.handle token now r =
      .presign key mime lifetime fun answer => .done (reply answer)) :
    s.AsksForUrl token r key mime lifetime reply where
  handle := h
  respond {σ} _ now m m' answer hanswer := by
    have hrun : (s.handle token now r).runWithin s.settings.requestTimeout m =
        (if ObjectStore.elapsed m' < s.settings.requestTimeout then some (reply answer) else none,
          m') := by
      rw [h now, Program.runWithin]
      simp only [bind, StateT.bind, hanswer]
      show (if ObjectStore.elapsed m' < s.settings.requestTimeout then pure (some (reply answer))
        else pure none : StateM σ (Option Reply)) m' = _
      split <;> rfl
    simp only [respond, bind, StateT.bind, hrun]
    split <;> rfl

theorem dismisses_of_readForm (hr : r.PostsTo .presign) (hadmits : s.guard.admits r = true)
    {e : ApiError} (hread : readForm declarationForm r = .error e) :
    s.Dismisses r (s.share r e.reply) :=
  dismisses_of_handle fun token now => by
    rw [s.handle_presign token now hr hadmits, presign, hread]
    rfl

theorem dismisses_of_authorize (hr : r.PostsTo .presign) (hadmits : s.guard.admits r = true)
    {d : Declaration} (hread : readForm declarationForm r = .ok d) {e : UploadError}
    (hrefused : ∀ token, authorize Policy.uploadLifetime token d = .done (.error e)) :
    s.Dismisses r (s.share r (ApiError.ofUpload e).reply) :=
  dismisses_of_handle fun token now => by
    rw [s.handle_declaration token now hr hadmits hread, hrefused]
    rfl

theorem reports_share (s : Service) (r : Request) {e : ApiError} (h : e.allowRetry = false) :
    (s.share r e.reply).Reports e.status e.code e.message := by
  refine ⟨rfl, ?_⟩
  show Body.json e.document = _
  rw [ApiError.document, h]

theorem message_eq_of_body {e e' : ApiError}
    (h : (s.share r e.reply).body = (s.share r' e'.reply).body) : e.message = e'.message := by
  have hdocument : e.document = e'.document := Body.json.inj h
  simp only [ApiError.document, Json.record.injEq, List.cons.injEq, Prod.mk.injEq,
    Json.string.injEq, true_and, and_true] at hdocument
  exact hdocument.2.2

theorem share_congr (s : Service) (h : r.header? "origin" = r'.header? "origin") :
    s.share r = s.share r' :=
  funext fun reply => congrArg reply.addHeaders (s.cors.actual_congr h)

def granted (s : Service) (r : Request) (token : Token) (type : ImageType) :
    Answer String → Reply
  | .error cause => s.share r (ApiError.ofUpload (.storage cause)).reply
  | .ok url => s.share r (.ofBody 200 (.json (grantDocument ⟨url, rawKey type token, type⟩)))

namespace Declares

variable (h : s.Declares r filename contentType size)

include h

theorem readForm_of_not_isWord (hword : ¬size.IsWord) :
    ∃ place, readForm declarationForm r = .error (sizeRefusal size place) := by
  obtain ⟨left, hread⟩ := h.document.readRecord_of_not_isWord hword
  obtain ⟨place, hplace⟩ := problemError_size size r.body.toList left
  exact ⟨place, by rw [readForm_of_problem h.json h.short hread, hplace]⟩

theorem readForm_of_zero (hword : size.IsWord) (hzero : size.magnitude = 0) :
    readForm declarationForm r = .error (.ofField "bytes" "range") :=
  readForm_of_broken h.json h.short (h.document.readRecord_of_isWord hword) rfl (if_pos hzero)

theorem readForm_of_pos (hword : size.IsWord) (hpos : size.magnitude ≠ 0) :
    readForm declarationForm r = .ok ⟨filename, contentType, size.magnitude⟩ :=
  readForm_of_kept h.json h.short (h.document.readRecord_of_isWord hword) rfl (if_neg hpos)

theorem dismissed_of_value (hvalue : size.value < 1 ∨ 2 ^ 64 ≤ size.value) :
    ∃ e : ApiError, e.status = 400 ∧ e.allowRetry = false ∧
      (e.code = "validation_error" ∨ e.code = "invalid_json") ∧
      s.Dismisses r (s.share r e.reply) := by
  by_cases hword : size.IsWord
  · have hzero : size.magnitude = 0 := by
      have hlimit := (Json.WholeNumber.isWord_iff.mp hword).2.1
      rw [hword.value_eq] at hvalue hlimit
      omega
    exact ⟨_, rfl, rfl, .inl rfl,
      dismisses_of_readForm h.posts h.admitted (h.readForm_of_zero hword hzero)⟩
  · obtain ⟨place, hread⟩ := h.readForm_of_not_isWord hword
    obtain ⟨hstatus, hretry, hcode⟩ := (sameButForPlace_sizeRefusal size).fields place
    exact ⟨_, hstatus, hretry, hcode, dismisses_of_readForm h.posts h.admitted hread⟩

theorem readForm_of_value (hlow : 1 ≤ size.value) (hhigh : size.value < 2 ^ 64) :
    readForm declarationForm r = .ok ⟨filename, contentType, size.magnitude⟩ ∧
      size.value = size.magnitude := by
  have hword : size.IsWord :=
    Json.WholeNumber.isWord_iff.mpr ⟨by omega, hhigh, fun hzero => by omega⟩
  have hvalue := hword.value_eq
  exact ⟨h.readForm_of_pos hword (by omega), hvalue⟩

theorem dismissed_of_type (hlow : 1 ≤ size.value) (hhigh : size.value < 2 ^ 64)
    (htype : ∀ type : ImageType, toLowerAscii (trim contentType) ≠ type.mime) :
    s.Dismisses r (s.share r (ApiError.ofUpload
      (.unsupportedType (toLowerAscii (trim contentType)))).reply) := by
  obtain ⟨hread, -⟩ := h.readForm_of_value hlow hhigh
  let d : Declaration := ⟨filename, contentType, size.magnitude⟩
  have hnone : ImageType.parse? d.contentType = none := ImageType.parse?_eq_none_iff.mpr htype
  exact dismisses_of_authorize h.posts h.admitted hread (Declaration.authorize_of_none hnone _)

theorem dismissed_of_size {type : ImageType} (htype : toLowerAscii (trim contentType) = type.mime)
    (hlarge : 5242880 < size.value) (hhigh : size.value < 2 ^ 64) :
    s.Dismisses r (s.share r (ApiError.ofUpload
      (.declaredTooLarge size.magnitude Policy.maxUploadBytes)).reply) := by
  obtain ⟨hread, hvalue⟩ := h.readForm_of_value (by omega) hhigh
  have hlimit : Policy.maxUploadBytes < size.magnitude := by
    show 5242880 < size.magnitude
    omega
  let d : Declaration := ⟨filename, contentType, size.magnitude⟩
  have hsome : ImageType.parse? d.contentType = some type :=
    ImageType.parse?_eq_some_iff.mpr htype
  exact dismisses_of_authorize h.posts h.admitted hread
    (Declaration.authorize_of_lt hsome hlimit _)

theorem asksForUrl {type : ImageType} (htype : toLowerAscii (trim contentType) = type.mime)
    (hlow : 1 ≤ size.value) (hsize : size.value ≤ 5242880) (token : Token) :
    s.AsksForUrl token r ("raw/" ++ token.text ++ "." ++ type.extension) type.mime
      (.ofSeconds 300) (s.granted r token type) := by
  obtain ⟨hread, hvalue⟩ := h.readForm_of_value hlow (by omega)
  have hlimit : size.magnitude ≤ Policy.maxUploadBytes := by
    show size.magnitude ≤ 5242880
    omega
  have hd : Declaration.Passes ⟨filename, contentType, size.magnitude⟩ type :=
    ⟨ImageType.parse?_eq_some_iff.mpr htype, hlimit⟩
  refine asksForUrl_of_handle fun now => ?_
  rw [s.handle_declaration token now h.posts h.admitted hread, hd.authorize_eq]
  refine congrArg (Program.presign _ _ _) (funext fun answer => ?_)
  cases answer <;> rfl

theorem presign_congr (h' : s.Declares r' filename' contentType size) (hword : size.IsWord)
    (token : Token) : presign token r = presign token r' := by
  by_cases hzero : size.magnitude = 0
  · rw [presign, presign, h.readForm_of_zero hword hzero, h'.readForm_of_zero hword hzero]
  · simp only [presign, h.readForm_of_pos hword hzero, h'.readForm_of_pos hword hzero, authorize]

end Declares

theorem declarations_are_judged_in_order (h : s.Declares r filename contentType size) :
    (size.value < 1 ∨ 2 ^ 64 ≤ size.value → ∃ code message reply,
      (code = "validation_error" ∨ code = "invalid_json") ∧
      Reply.Reports reply 400 code message ∧ s.Dismisses r reply) ∧
    (1 ≤ size.value → size.value < 2 ^ 64 →
      (∀ type : ImageType, toLowerAscii (trim contentType) ≠ type.mime) →
      ∃ message reply, Reply.Reports reply 400 "unsupported_media_type" message ∧
        s.Dismisses r reply) ∧
    (∀ type : ImageType, toLowerAscii (trim contentType) = type.mime →
      (5242880 < size.value → size.value < 2 ^ 64 →
        ∃ message reply, Reply.Reports reply 400 "payload_too_large" message ∧
          s.Dismisses r reply) ∧
      (1 ≤ size.value → size.value ≤ 5242880 → ∀ token : Token, ∃ reply : Answer String → Reply,
        isRawKey ("raw/" ++ token.text ++ "." ++ type.extension) = true ∧
        s.AsksForUrl token r ("raw/" ++ token.text ++ "." ++ type.extension) type.mime
          (.ofSeconds 300) reply ∧
        (∀ url, (reply (.ok url)).status = 200 ∧ (reply (.ok url)).body = .json (.record [
          ("upload_url", .string url),
          ("raw_key", .string ("raw/" ++ token.text ++ "." ++ type.extension)),
          ("content_type", .string type.mime)])) ∧
        ∀ cause, (reply (.error cause)).status = 500 ∧
          (reply (.error cause)).body = .json (.record [("allowRetry", .bool true),
            ("error", .record [("code", .string "storage_error"),
              ("message", .string "Storage error")])]))) ∧
    (∀ r' filename', s.Declares r' filename' contentType size →
      r.header? "origin" = r'.header? "origin" →
      (size.IsWord → ∀ token now, s.handle token now r = s.handle token now r') ∧
      (¬size.IsWord → ∃ e place place', SameButForPlace e ∧
        s.Dismisses r (s.share r (e place).reply) ∧
        s.Dismisses r' (s.share r (e place').reply))) := by
  refine ⟨fun hvalue => ?_, fun hlow hhigh htype => ?_, fun type htype => ⟨?_, ?_⟩, ?_⟩
  · obtain ⟨e, hstatus, hretry, hcode, hdismisses⟩ := h.dismissed_of_value hvalue
    exact ⟨e.code, e.message, _, hcode, hstatus ▸ s.reports_share r hretry, hdismisses⟩
  · exact ⟨_, _, s.reports_share r rfl, h.dismissed_of_type hlow hhigh htype⟩
  · intro hlarge hhigh
    exact ⟨_, _, s.reports_share r rfl, h.dismissed_of_size htype hlarge hhigh⟩
  · intro hlow hsize token
    exact ⟨_, isRawKey_rawKey type token, h.asksForUrl htype hlow hsize token,
      fun url => ⟨rfl, rfl⟩, fun cause => ⟨rfl, rfl⟩⟩
  · intro r' filename' h' horigin
    have hshare := s.share_congr horigin
    refine ⟨fun hword token now => ?_, fun hword => ?_⟩
    · rw [s.handle_presign token now h.posts h.admitted,
        s.handle_presign token now h'.posts h'.admitted, h.presign_congr h' hword token, hshare]
    · obtain ⟨place, hread⟩ := h.readForm_of_not_isWord hword
      obtain ⟨place', hread'⟩ := h'.readForm_of_not_isWord hword
      refine ⟨sizeRefusal size, place, place', sameButForPlace_sizeRefusal size,
        dismisses_of_readForm h.posts h.admitted hread, ?_⟩
      rw [hshare]
      exact dismisses_of_readForm h'.posts h'.admitted hread'

end Service

end Http

namespace Sample

open Http

def declaring (filename contentType : String) (size : Json.WholeNumber) : Request where
  method := "POST"
  target := "/api/uploads/presign"
  headers := clientHeaders "opensesame"
  body := ⟨(Json.writeRecord (declared filename contentType size)).toArray⟩

theorem declares_declaring {filename contentType : String} {size : Json.WholeNumber}
    (hfilename : filename.toList.all (fun c => decide (Json.IsPlain c)) = true)
    (htype : contentType.toList.all (fun c => decide (Json.IsPlain c)) = true)
    (hshort : (declaring filename contentType size).body.size ≤ 2 * 1024 * 1024) :
    encoder.Declares (declaring filename contentType size) filename contentType size where
  posts := ⟨rfl, by
    show String.ofList ("/api/uploads/presign".toList.takeWhile fun c => c != '?' && c != '#') = _
    decide⟩
  admitted := Guard.admits_of_visible (by decide +kernel) (header?_secret_of_client rfl)
  json := sendsJson_of_header? (header?_contentType_of_client rfl)
  short := hshort
  document := by
    refine ⟨_, .refl _, ?_⟩
    rw [Text.toList_eq_data]
    refine Json.writesRecord_writeRecord (fun e he => ?_) nofun
    simp only [declared, List.mem_cons, List.not_mem_nil, or_false] at he
    rcases he with rfl | rfl | rfl
    · exact Json.unescaped_text (Json.isPlain_of_all (by decide)) (Json.isPlain_of_all hfilename)
    · exact Json.unescaped_text (Json.isPlain_of_all (by decide)) (Json.isPlain_of_all htype)
    · exact Json.unescaped_whole (Json.isPlain_of_all (by decide)) size

def largest : Json.WholeNumber where
  isNegative := false
  digits := ['5', '2', '4', '2', '8', '8', '0']
  isDigit := by simp
  canonical := .inr ⟨'5', _, rfl, by decide⟩

def minusFive : Json.WholeNumber where
  isNegative := true
  digits := ['5']
  isDigit := by simp
  canonical := .inr ⟨'5', _, rfl, by decide⟩

end Sample

namespace Http.Service

theorem declarations_are_judged_in_order_largest :
    Sample.encoder.Declares (Sample.declaring "a.png" " Image/PNG " Sample.largest) "a.png"
        " Image/PNG " Sample.largest ∧
      ∃ reply, Sample.encoder.AsksForUrl Sample.job.token
        (Sample.declaring "a.png" " Image/PNG " Sample.largest)
        ("raw/" ++ Sample.job.token.text ++ ".png") "image/png" (.ofSeconds 300) reply := by
  have hdeclares : Sample.encoder.Declares (Sample.declaring "a.png" " Image/PNG " Sample.largest)
      "a.png" " Image/PNG " Sample.largest :=
    Sample.declares_declaring (by decide) (by decide) (by decide +kernel)
  have htype : toLowerAscii (trim " Image/PNG ") = ImageType.png.mime := by decide +kernel
  obtain ⟨-, -, hallowed, -⟩ := declarations_are_judged_in_order hdeclares
  obtain ⟨reply, -, hasks, -⟩ :=
    (hallowed .png htype).2 (by decide) (by decide) Sample.job.token
  exact ⟨hdeclares, reply, hasks⟩

theorem exists_name_in_reply :
    Sample.encoder.Declares (Sample.declaring "a" "image/png" Sample.minusFive) "a" "image/png"
        Sample.minusFive ∧
      Sample.encoder.Declares (Sample.declaring "a.png" "image/png" Sample.minusFive) "a.png"
        "image/png" Sample.minusFive ∧
      ∀ token now, Sample.encoder.handle token now
          (Sample.declaring "a" "image/png" Sample.minusFive) ≠
        Sample.encoder.handle token now
          (Sample.declaring "a.png" "image/png" Sample.minusFive) := by
  let short := Sample.declaring "a" "image/png" Sample.minusFive
  let long := Sample.declaring "a.png" "image/png" Sample.minusFive
  have hshort : Sample.encoder.Declares short "a" "image/png" Sample.minusFive :=
    Sample.declares_declaring (by decide) (by decide) (by decide +kernel)
  have hlong : Sample.encoder.Declares long "a.png" "image/png" Sample.minusFive :=
    Sample.declares_declaring (by decide) (by decide) (by decide +kernel)
  have hread : readForm declarationForm short =
      .error (sizeRefusal Sample.minusFive (1, 53)) := by decide +kernel
  have hread' : readForm declarationForm long =
      .error (sizeRefusal Sample.minusFive (1, 57)) := by decide +kernel
  refine ⟨hshort, hlong, fun token now heq => ?_⟩
  rw [(dismisses_of_readForm hshort.posts hshort.admitted hread).handle token now,
    (dismisses_of_readForm hlong.posts hlong.admitted hread').handle token now] at heq
  have hmessage := message_eq_of_body (congrArg Reply.body (Program.done.inj heq))
  exact absurd hmessage (by decide +kernel)

end Http.Service

end ImageIntake
