import ImageIntake.Proofs.Http.Guard
import ImageIntake.Proofs.Json.Plain
import ImageIntake.Proofs.Upload.RawKey

namespace ImageIntake

open Json (IsPlain isPlain_of_all)

theorem IsNameChar.isPlain {c : Char} (h : IsNameChar c) : IsPlain c := by
  have hcode := h.code
  refine ⟨by omega, by omega, ?_, ?_⟩ <;> (rintro rfl; revert h; unfold IsNameChar; decide)

theorem PostForm.isPlain {post : String} (h : PostForm post) : ∀ c ∈ post.toList, IsPlain c :=
  fun c hc => (h.chars c hc).isPlain

theorem RawKeyForm.isPlain {key : String} (h : RawKeyForm key) : ∀ c ∈ key.toList, IsPlain c := by
  obtain ⟨token, extension, hparts⟩ := rawKeyForm_iff.mp h
  intro c hc
  rcases hparts.isNameChar_or_mark c hc with hname | rfl | rfl
  · exact hname.isPlain
  · decide
  · decide

theorem RawKeyForm.length_le {key : String} (h : RawKeyForm key) : key.toList.length ≤ 41 := by
  obtain ⟨token, extension, hparts⟩ := rawKeyForm_iff.mp h
  exact hparts.length_le

namespace Http

section

variable {α : Type} {f : FormOf α} {r : Request} (hjson : sendsJson r = true)
  (hshort : r.body.size ≤ Policy.maxRequestBytes)

include hjson hshort

theorem readForm_of_problem {problem : Json.ReadProblem}
    (hread : Json.readRecord f.form r.body.toList = .error problem) :
    readForm f r = .error (problemError r.body.toList problem) := by
  rw [readForm, hjson, if_neg (by decide), if_neg (Nat.not_lt.mpr hshort)]
  simp only [hread]

variable {values : List Json.FieldValue} {a : α}
  (hread : Json.readRecord f.form r.body.toList = .ok values) (hof : f.ofValues values = some a)

include hread hof

theorem readForm_of_broken {e : ApiError} (hrule : f.brokenRule a = some e) :
    readForm f r = .error e := by
  rw [readForm, hjson, if_neg (by decide), if_neg (Nat.not_lt.mpr hshort)]
  simp only [hread, hof, hrule]

theorem readForm_of_kept (hrule : f.brokenRule a = none) : readForm f r = .ok a := by
  rw [readForm, hjson, if_neg (by decide), if_neg (Nat.not_lt.mpr hshort)]
  simp only [hread, hof, hrule]

end

structure Service.Orders (s : Service) (r : Request) (post key : String) : Prop where
  posts : r.PostsTo .commit
  admitted : s.guard.admits r = true
  json : sendsJson r = true
  short : r.body.size ≤ Policy.maxRequestBytes
  document : Json.readRecord commitOrderForm.form r.body.toList = .ok [.text post, .text key]

theorem commitOrderForm.brokenRule_eq_none {post key : String} (hpost : isPostId post = true)
    (hkey : isRawKey key = true) : commitOrderForm.brokenRule ⟨post, key⟩ = none := by
  have hne : key ≠ "" := by
    rintro rfl
    exact absurd hkey (by decide)
  simp [commitOrderForm, hpost, hne]

namespace Service

variable {s : Service} {r : Request} {post key : String}

theorem Orders.readForm (h : s.Orders r post key) (hpost : isPostId post = true)
    (hkey : isRawKey key = true) : readForm commitOrderForm r = .ok ⟨post, key⟩ :=
  readForm_of_kept h.json h.short h.document rfl (commitOrderForm.brokenRule_eq_none hpost hkey)

end Service

def CommitOrder.document (order : CommitOrder) : String :=
  "\x7b\"" ++ ("post_id" ++ "\":\"" ++ (order.post ++ "\"" ++ (",\"" ++
    ("raw_key" ++ "\":\"" ++ (order.rawKey ++ "\"" ++ "\x7d")))))

def CommitOrder.request (order : CommitOrder) (secret : String) : Request where
  method := "POST"
  target := "/api/uploads/commit"
  headers := [("content-type", "application/json".toUTF8), ("x-api-key", secret.toUTF8)]
  body := order.document.toUTF8

def CommitOrder.entries (order : CommitOrder) : List Json.Entry :=
  [("post_id", .text order.post), ("raw_key", .text order.rawKey)]

theorem CommitOrder.toList_document (order : CommitOrder) :
    order.document.toUTF8.toList = Json.writeRecord order.entries := by
  have hopen : "\x7b\"".toUTF8.data.toList = [0x7b, 0x22] := by decide
  have hcolon : "\":\"".toUTF8.data.toList = [0x22, 0x3a, 0x22] := by decide
  have hquote : "\"".toUTF8.data.toList = [0x22] := by decide
  have hcomma : ",\"".toUTF8.data.toList = [0x2c, 0x22] := by decide
  have hclose : "\x7d".toUTF8.data.toList = [0x7d] := by decide
  simp only [Text.toList_eq_data, document, Text.toUTF8_append, hopen, hcolon, hquote, hcomma,
    hclose, entries, Json.writeRecord, Json.writeEntries, Json.writeEntry, Json.writeScalar,
    List.append_assoc, List.cons_append, List.nil_append]

theorem CommitOrder.knows_entries (order : CommitOrder) :
    commitOrderForm.form.Knows order.entries where
  kind e he := by
    simp only [entries, List.mem_cons, List.not_mem_nil, or_false] at he
    rcases he with rfl | rfl
    · exact List.lookup_cons_self
    · show commitOrderForm.form.fields.lookup "raw_key" = some .text
      decide
  once := by
    show ["post_id", "raw_key"].Nodup
    decide

theorem CommitOrder.readRecord_entries {order : CommitOrder} {document : List UInt8}
    (h : Json.WritesRecord order.entries document) :
    Json.readRecord commitOrderForm.form document = .ok [.text order.post, .text order.rawKey] := by
  refine h.readRecord_of_held order.knows_entries ?_ ?_
  · intro e he
    simp only [entries, List.mem_cons, List.not_mem_nil, or_false] at he
    rcases he with rfl | rfl <;> rfl
  · exact .cons ⟨_, List.mem_cons_self, rfl, rfl⟩
      (.cons ⟨_, List.mem_cons_of_mem _ List.mem_cons_self, rfl, rfl⟩ .nil)

theorem Guard.admits_of_visible {g : Guard} (h : g.secret.toUTF8.data.all isVisibleByte = true)
    {r : Request} (hr : r.header? headerName = some g.secret.toUTF8) : g.admits r = true := by
  have htext : visibleText? g.secret.toUTF8 = some g.secret := by
    rw [visibleText?, if_pos h, Text.fromUTF8?_toUTF8]
  rw [admits, presented, hr, Option.bind_some, htext, accepts, beq_self_eq_true]

theorem sendsJson_of_header? {r : Request}
    (h : r.header? "content-type" = some "application/json".toUTF8) : sendsJson r = true := by
  rw [sendsJson, h]
  decide +kernel

def clientHeaders (secret : String) : Headers :=
  [("content-type", "application/json".toUTF8), ("x-api-key", secret.toUTF8)]

section

variable {r : Request} {secret : String} (h : r.headers = clientHeaders secret)

include h

theorem header?_contentType_of_client :
    r.header? "content-type" = some "application/json".toUTF8 := by
  have hname : (Text.toLowerAscii "content-type" == "content-type") = true := by decide
  simp only [Request.header?, h, clientHeaders, List.find?_cons, hname, Option.map_some]

theorem header?_secret_of_client : r.header? Guard.headerName = some secret.toUTF8 := by
  have hother : (Text.toLowerAscii "content-type" == "x-api-key") = false := by decide
  have hname : (Text.toLowerAscii "x-api-key" == "x-api-key") = true := by decide
  simp only [Request.header?, h, clientHeaders, Guard.headerName, List.find?_cons, hother, hname,
    Option.map_some]

end

theorem CommitOrder.orders_request {s : Service} {order : CommitOrder}
    (hvisible : s.settings.apiKey.toUTF8.data.all isVisibleByte = true)
    (hpost : isPostId order.post = true) (hkey : isRawKey order.rawKey = true) :
    s.Orders (order.request s.settings.apiKey) order.post order.rawKey := by
  have hform := isPostId_iff.mp hpost
  have hraw := isRawKey_iff.mp hkey
  have hfirst : ∀ c ∈ "post_id".toList, IsPlain c := isPlain_of_all (by decide)
  have hsecond : ∀ c ∈ "raw_key".toList, IsPlain c := isPlain_of_all (by decide)
  constructor
  · have hpath : String.ofList ("/api/uploads/commit".toList.takeWhile
        fun c => c != '?' && c != '#') = "/api/uploads/commit" := by decide
    exact ⟨rfl, hpath⟩
  · exact Guard.admits_of_visible hvisible (header?_secret_of_client rfl)
  · exact sendsJson_of_header? (header?_contentType_of_client rfl)
  · have hnames : "post_id".toList.length = 7 ∧ "raw_key".toList.length = 7 := by decide
    have hlength := congrArg List.length order.toList_document
    simp only [Text.toList_eq_data, CommitOrder.entries, Json.writeRecord, Json.writeEntries,
      Json.writeEntry, Json.writeScalar, List.length_cons, List.length_append, List.length_nil,
      Json.length_toUTF8_of_plain hfirst, Json.length_toUTF8_of_plain hsecond,
      Json.length_toUTF8_of_plain hform.isPlain, Json.length_toUTF8_of_plain hraw.isPlain,
      hnames] at hlength
    have hsize : order.document.toUTF8.size = order.document.toUTF8.data.toList.length := by simp
    have hshort := hform.short
    have hshort' := hraw.length_le
    show order.document.toUTF8.size ≤ 2 * 1024 * 1024
    omega
  · show Json.readRecord commitOrderForm.form order.document.toUTF8.toList = _
    rw [order.toList_document]
    refine CommitOrder.readRecord_entries (Json.writesRecord_writeRecord ?_ nofun)
    intro e he
    simp only [CommitOrder.entries, List.mem_cons, List.not_mem_nil, or_false] at he
    rcases he with rfl | rfl
    · exact Json.unescaped_text hfirst hform.isPlain
    · exact Json.unescaped_text hsecond hraw.isPlain

end Http

end ImageIntake
