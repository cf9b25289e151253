import ImageIntake.Proofs.Upload.Contract
import ImageIntake.Proofs.Upload.RawKey
import Mathlib.Data.List.Nodup

namespace ImageIntake

namespace PublishedKeys

instance (keys : PublishedKeys) (key : String) : Decidable (keys.Has key) :=
  inferInstanceAs (Decidable (_ ∨ _))

def read? (key : String) : Option (String × Token) := do
  let rest ← (publicPrefix ++ "/" ++ collection ++ "/").toList.isPrefixOf? key.toList
  let post := String.ofList (rest.takeWhile (· != '/'))
  let name := (rest.dropWhile (· != '/')).drop 1
  let token ← Token.ofString? (String.ofList (name.take tokenLength))
  if isPostId post = true ∧ (of post token.text).Has key then some (post, token) else none

variable {post image key : String} {token : Token}

theorem toList_of_has (h : (of post image).Has key) : ∃ ending,
    key.toList = (publicPrefix ++ "/" ++ collection ++ "/").toList ++
      (post.toList ++ '/' :: (image.toList ++ ending)) := by
  rcases h with rfl | rfl
  · refine ⟨".webp".toList, ?_⟩
    rw [toList_full, stem]
    simp only [List.append_assoc, List.cons_append, List.nil_append]
  · refine ⟨"_thumb".toList ++ ".webp".toList, ?_⟩
    rw [toList_thumbnail, stem]
    simp only [List.append_assoc, List.cons_append, List.nil_append]

theorem slash_ends_post (hpost : isPostId post = true) (rest : List Char) :
    (post.toList ++ '/' :: rest).takeWhile (· != '/') = post.toList ∧
      (post.toList ++ '/' :: rest).dropWhile (· != '/') = '/' :: rest := by
  have hslash : ∀ c ∈ post.toList, (c != '/') = true := by
    intro c hc
    rw [bne_iff_ne]
    rintro rfl
    exact not_isNameChar_slash ((isPostId_iff.mp hpost).chars _ hc)
  rw [List.takeWhile_append_of_pos hslash, List.dropWhile_append_of_pos hslash]
  simp

theorem read?_of_has (hpost : isPostId post = true) (h : (of post token.text).Has key) :
    read? key = some (post, token) := by
  obtain ⟨ending, hkey⟩ := toList_of_has h
  obtain ⟨htake, hdrop⟩ := slash_ends_post hpost (token.text.toList ++ ending)
  have hname : (token.text.toList ++ ending).take tokenLength = token.text.toList := by
    rw [tokenLength, ← token.length_toList, List.take_left]
  have htoken : Token.ofString? token.text = some token := dif_pos token.isToken_toList
  rw [read?, List.isPrefixOf?_eq_some_iff_append_eq.mpr hkey.symm]
  simp only [Option.bind_eq_bind, Option.bind_some, htake, hdrop, List.drop_one, List.tail_cons,
    hname, String.ofList_toList, htoken, hpost, h, and_self, if_true]

theorem has_of_read? (h : read? key = some (post, token)) :
    isPostId post = true ∧ (of post token.text).Has key := by
  simp only [read?, Option.bind_eq_bind, Option.bind_eq_some_iff] at h
  obtain ⟨rest, -, found, -, h⟩ := h
  split at h
  · next hfound =>
    cases h
    exact hfound
  · cases h

theorem read?_eq_some_iff :
    read? key = some (post, token) ↔ isPostId post = true ∧ (of post token.text).Has key :=
  ⟨has_of_read?, fun h => read?_of_has h.1 h.2⟩

end PublishedKeys

def Call.writtenKey? : Call → Option String
  | .put w => some w.key
  | _ => none

structure Publisher.Attempt (p : Publisher) where
  job : Job
  trace : List Event
  position : Position (Except UploadError Publication)
  converses : Position.Converses
    (.start (p.commit job.token job.now job.post job.rawKey)) trace position

namespace Publisher.Attempt

variable {sanitize : Sanitizer} {publicBase : String}

def writtenKeys {p : Publisher} (a : p.Attempt) : List String :=
  (callsIn a.trace).filterMap Call.writtenKey?

theorem writtenKeys_subperm (a : (sanitize.publisher publicBase).Attempt) :
    a.writtenKeys.Subperm [a.job.keys.full, a.job.keys.thumbnail] := by
  obtain ⟨phase, hhistory, -⟩ :=
    History.of_converses (p := sanitize.publisher publicBase) a.converses
  rw [writtenKeys]
  rcases hhistory.calls with hcalls | hcalls | ⟨pair, hcalls⟩
  · rw [hcalls]
    exact List.nil_subperm
  · rw [hcalls]
    exact List.nil_subperm
  · have hfull : [a.job.keys.full].Subperm [a.job.keys.full, a.job.keys.thumbnail] :=
      (List.sublist_append_left [a.job.keys.full] [a.job.keys.thumbnail]).subperm
    have hthumbnail : [a.job.keys.thumbnail].Subperm [a.job.keys.full, a.job.keys.thumbnail] :=
      (List.sublist_cons_self a.job.keys.full [a.job.keys.thumbnail]).subperm
    have hboth : [a.job.keys.thumbnail, a.job.keys.full].Subperm
        [a.job.keys.full, a.job.keys.thumbnail] := (List.Perm.swap _ _ _).subperm
    simp only [Job.publishing, List.mem_cons, List.not_mem_nil, or_false] at hcalls
    rcases hcalls with hcalls | hcalls | hcalls | hcalls | hcalls | hcalls <;> rw [hcalls]
    · exact hfull
    · exact hthumbnail
    · exact .refl _
    · exact hboth
    · exact .refl _
    · exact hboth

theorem has_of_writtenKeys (a : (sanitize.publisher publicBase).Attempt) {key : String}
    (h : key ∈ a.writtenKeys) : a.job.keys.Has key := by
  have hkeys := a.writtenKeys_subperm.subset h
  rwa [List.mem_cons, List.mem_singleton] at hkeys

theorem nodup_writtenKeys (a : (sanitize.publisher publicBase).Attempt) : a.writtenKeys.Nodup := by
  have hne : a.job.keys.full ≠ a.job.keys.thumbnail :=
    PublishedKeys.full_ne_thumbnail a.job.post a.job.post a.job.token a.job.token
  have hpair : [a.job.keys.full, a.job.keys.thumbnail].Nodup := by simpa using hne
  obtain ⟨keys, hperm, hsublist⟩ := a.writtenKeys_subperm
  exact hperm.nodup_iff.mp (hpair.sublist hsublist)

theorem nodup_flatMap_writtenKeys {attempts : List (sanitize.publisher publicBase).Attempt}
    (h : (attempts.map fun a => a.job.token).Nodup) : (attempts.flatMap writtenKeys).Nodup := by
  refine List.nodup_flatMap.mpr ⟨fun a _ => a.nodup_writtenKeys, ?_⟩
  refine (List.pairwise_map.mp h).imp fun {a b} htokens => ?_
  intro key ha hb
  exact htokens (PublishedKeys.has_injective (has_of_writtenKeys a ha) (has_of_writtenKeys b hb)).2

end Publisher.Attempt

theorem published_keys_never_collide (sanitize : Sanitizer) (publicBase : String) :
    (∀ post, isPostId post = true ↔ PostForm post) ∧
    (∀ post post' image image' : String, TokenForm image → TokenForm image' →
      ((PublishedKeys.of post image).full = (PublishedKeys.of post' image').full →
        post = post' ∧ image = image') ∧
      ((PublishedKeys.of post image).thumbnail = (PublishedKeys.of post' image').thumbnail →
        post = post' ∧ image = image') ∧
      (PublishedKeys.of post image).full ≠ (PublishedKeys.of post' image').thumbnail) ∧
    (∀ attempts : List (sanitize.publisher publicBase).Attempt,
      (attempts.map fun a => a.job.token).Nodup →
        (attempts.flatMap fun a => a.writtenKeys).Nodup) ∧
    ∀ key post token, PublishedKeys.read? key = some (post, token) ↔
      isPostId post = true ∧ (PublishedKeys.of post token.text).Has key := by
  refine ⟨fun _ => isPostId_iff, fun post post' image image' himage himage' => ?_,
    fun _ => Publisher.Attempt.nodup_flatMap_writtenKeys,
    fun _ _ _ => PublishedKeys.read?_eq_some_iff⟩
  let token : Token := ⟨image, isToken_iff.mpr himage⟩
  let token' : Token := ⟨image', isToken_iff.mpr himage'⟩
  have htext {post post' : String} (h : post = post' ∧ token = token') :
      post = post' ∧ image = image' := ⟨h.1, congrArg Token.text h.2⟩
  exact ⟨fun h => htext (PublishedKeys.full_injective h),
    fun h => htext (PublishedKeys.thumbnail_injective h),
    PublishedKeys.full_ne_thumbnail post post' token token'⟩

namespace Sample

def laterJob : Job := { job with token := ⟨"0f1e2d3c4b5a69788796a5b4c3d2e1f0", by decide⟩ }

def published : publisher.Attempt := ⟨job, conversation, _, converses_conversation⟩

theorem converses_laterJob : Position.Converses (.start (publisher.run laterJob))
    [.asks laterJob.read, .reads laterJob.rawKey (.ok raw), .asks (.put (laterJob.fullWrite pair)),
      .writes (laterJob.fullWrite pair) (.error (.transport "timeout"))]
    (Phase.position publisher laterJob (.refused (.storage (.transport "timeout")))) := by
  have hwalk : Walk (Phase.Step publisher laterJob) (Phase.start laterJob)
      [.asks laterJob.read, .reads laterJob.rawKey (.ok raw),
        .asks (.put (laterJob.fullWrite pair)),
        .writes (laterJob.fullWrite pair) (.error (.transport "timeout"))]
      (.refused (.storage (.transport "timeout"))) := by
    refine .cons .askRead (.cons (.hearRead _) ?_)
    rw [ofRead_raw]
    exact .cons .askFull (.cons (.fullRefused _) (.refl _))
  rw [← Phase.position_start]
  exact Phase.converses_of_walk publisher laterJob hwalk

def interrupted : publisher.Attempt := ⟨laterJob, _, _, converses_laterJob⟩

end Sample

theorem published_keys_never_collide_halfway :
    [Sample.published.job.token, Sample.interrupted.job.token].Nodup ∧
      (Sample.published.writtenKeys ++ Sample.interrupted.writtenKeys).Nodup ∧
      Sample.published.writtenKeys.length = 2 ∧
      Sample.interrupted.writtenKeys =
        ["public/showoff/post42/0f1e2d3c4b5a69788796a5b4c3d2e1f0.webp"] ∧
      PublishedKeys.read? "public/showoff/post42/0f1e2d3c4b5a69788796a5b4c3d2e1f0.webp" =
        some ("post42", Sample.laterJob.token) := by
  have htokens : [Sample.published.job.token, Sample.interrupted.job.token].Nodup := by decide
  obtain ⟨-, -, hnodup, hread⟩ := published_keys_never_collide Sample.sanitize Sample.publicBase
  have hkeys : (Sample.published.writtenKeys ++ (Sample.interrupted.writtenKeys ++ [])).Nodup :=
    hnodup [Sample.published, Sample.interrupted] htokens
  rw [List.append_nil] at hkeys
  exact ⟨htokens, hkeys, rfl, by decide, (hread _ _ _).mpr ⟨by decide, .inl (by decide)⟩⟩

end ImageIntake
