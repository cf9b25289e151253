import ImageIntake.Proofs.S3.Honest
import ImageIntake.Store.Shelf

namespace ImageIntake.S3

structure Bucket where
  objects : Shelf ByteArray

namespace Bucket

def held (b : Bucket) (path : String) : Option ByteArray := b.objects.find? path

def refusalDocument : ByteArray := "<Error><Code>NoSuchKey</Code></Error>".toUTF8

def replyTo (b : Bucket) (path : String) : Response :=
  match b.held path with
  | none => ⟨404, [], [refusalDocument], false⟩
  | some body =>
      ⟨200, [("Content-Length", toString body.size)],
        [body.extract 0 1, body.extract 1 body.size], false⟩

def serve (r : Request) (b : Bucket) : Response × Bucket :=
  if r.method = "PUT" then (⟨200, [], [], false⟩, ⟨b.objects.insert r.path r.body⟩)
  else if r.method = "DELETE" then (⟨204, [], [], false⟩, ⟨b.objects.erase r.path⟩)
  else (b.replyTo r.path, b)

instance : Transport Bucket where
  send r b := (.response (serve r b).1, (serve r b).2)

theorem delivers_empty (status : Nat) : Response.Delivers ⟨status, [], [], false⟩ .empty :=
  ⟨rfl, rfl, .inl rfl⟩

theorem isErrorDocument_empty : isErrorDocument .empty = false := by decide +kernel

theorem delivers_found (body : ByteArray) :
    Response.Delivers ⟨200, [("Content-Length", toString body.size)],
      [body.extract 0 1, body.extract 1 body.size], false⟩ body := by
  have hname : Text.toLowerAscii "Content-Length" = "content-length" := by decide +kernel
  have hjoined : body.extract 0 1 ++ body.extract 1 body.size = body := by
    rw [ByteArray.extract_append_extract, Nat.zero_min, ByteArray.extract_zero_max_size]
  refine ⟨?_, rfl, .inr ?_⟩
  · simp only [List.foldl_cons, List.foldl_nil, ByteArray.empty_append, hjoined]
  · simp only [Response.values, List.filter_cons, List.filter_nil, hname, beq_self_eq_true, if_true,
      List.map_cons, List.map_nil]

theorem sets_insert (b : Bucket) (path : String) (body : ByteArray) :
    Sets b.held (held ⟨b.objects.insert path body⟩) path (some body) := by
  refine ⟨?_, ?_⟩
  · rw [held, Shelf.find?_insert, if_pos rfl]
  · intro other hother
    have hne : path ≠ other := fun heq => hother (heq ▸ rfl)
    rw [held, Shelf.find?_insert, if_neg hne, held]

theorem sets_erase (b : Bucket) (path : String) :
    Sets b.held (held ⟨b.objects.erase path⟩) path none := by
  refine ⟨?_, ?_⟩
  · rw [held, Shelf.find?_erase, if_pos rfl]
  · intro other hother
    have hne : path ≠ other := fun heq => hother (heq ▸ rfl)
    rw [held, Shelf.find?_erase, if_neg hne, held]

theorem serve_get {r : Request} (h : r.method = "GET") (b : Bucket) :
    serve r b = (b.replyTo r.path, b) := by
  rw [serve, if_neg (by simp [h]), if_neg (by simp [h])]

theorem serve_put {r : Request} (h : r.method = "PUT") (b : Bucket) :
    serve r b = (⟨200, [], [], false⟩, ⟨b.objects.insert r.path r.body⟩) := if_pos h

theorem serve_delete {r : Request} (h : r.method = "DELETE") (b : Bucket) :
    serve r b = (⟨204, [], [], false⟩, ⟨b.objects.erase r.path⟩) := by
  rw [serve, if_neg (by simp [h]), if_pos h]

theorem send_of_serve {r : Request} {b b' : Bucket} {answer : Response}
    (h : serve r b = (answer, b')) (who : Signer) :
    Transport.send (who.sign r) b = (.response answer, b') := by
  change (Outcome.response (serve r b).1, (serve r b).2) = _
  rw [h]

theorem honest (who : Signer) (endpoint : Endpoint) : Honest who endpoint held where
  found := by
    intro r b body hasks hbody
    have hreply : b.replyTo r.path = ⟨200, [("Content-Length", toString body.size)],
        [body.extract 0 1, body.extract 1 body.size], false⟩ := by
      rw [replyTo, hbody]
    have hserve := serve_get hasks.method b
    rw [hreply] at hserve
    exact ⟨_, b, send_of_serve hserve who, rfl, rfl, delivers_found body⟩
  missing := by
    intro r b hasks hnone
    have hreply : b.replyTo r.path = ⟨404, [], [refusalDocument], false⟩ := by
      rw [replyTo, hnone]
    have hserve := serve_get hasks.method b
    have hcode : errorCode? refusalDocument = some "NoSuchKey" := by decide +kernel
    rw [hreply] at hserve
    exact ⟨_, b, refusalDocument, send_of_serve hserve who, rfl, rfl,
      ⟨ByteArray.empty_append, rfl, .inl rfl⟩, hcode⟩
  put := by
    intro r b hasks
    exact ⟨_, _, .empty, send_of_serve (serve_put hasks.method b) who,
      b.sets_insert r.path r.body, rfl, delivers_empty 200, isErrorDocument_empty⟩
  delete := by
    intro r b hasks
    exact ⟨_, _, .empty, send_of_serve (serve_delete hasks.method b) who,
      b.sets_erase r.path, rfl, delivers_empty 204, isErrorDocument_empty⟩

end Bucket

end ImageIntake.S3
