import ImageIntake.Proofs.Http.Orders
import ImageIntake.Proofs.Upload.Phase

namespace ImageIntake

open Text

namespace Http

theorem isVisibleByte_iff {b : UInt8} :
    isVisibleByte b = true ↔ isFieldByte b = true ∧ b.toNat < 128 := by
  simp only [isVisibleByte, isFieldByte, Bool.or_eq_true, Bool.and_eq_true, beq_iff_eq,
    bne_iff_ne, decide_eq_true_eq, UInt8.le_iff_toNat_le, UInt8.lt_iff_toNat_lt,
    ← UInt8.toNat_inj, ne_eq, UInt8.reduceToNat]
  omega

theorem visible_iff_ascii {s : String} (h : isHeaderText s = true) :
    s.toUTF8.data.all isVisibleByte = true ↔ ∀ c ∈ s.toList, c.toNat < 128 := by
  rw [isHeaderText, ← Array.all_toList, List.all_eq_true] at h
  rw [← Array.all_toList, List.all_eq_true]
  constructor
  · intro hvisible
    exact ascii_of_toUTF8 fun b hb => (isVisibleByte_iff.mp (hvisible b hb)).2
  · intro hascii b hb
    refine isVisibleByte_iff.mpr ⟨h b hb, ?_⟩
    rw [toUTF8_of_ascii hascii] at hb
    obtain ⟨c, hc, rfl⟩ := List.mem_map.mp hb
    have hc128 := hascii c hc
    rw [asciiByte, UInt8.toNat_ofNat']
    omega

theorem Guard.admits_iff {g : Guard} (hlegal : isHeaderText g.secret = true) {r : Request}
    (hr : r.header? headerName = some g.secret.toUTF8) :
    g.admits r = true ↔ ∀ c ∈ g.secret.toList, c.toNat < 128 := by
  rw [← visible_iff_ascii hlegal]
  constructor
  · intro hadmits
    have hpresented := presented_of_admits hadmits
    rw [presented, hr, Option.bind_some, visibleText?] at hpresented
    split at hpresented
    · next hvisible => exact hvisible
    · cases hpresented
  · intro hvisible
    exact admits_of_visible hvisible hr

theorem Guard.admits_eq_false_of_beyond {g : Guard} (hlegal : isHeaderText g.secret = true)
    {r : Request} (hr : r.header? headerName = some g.secret.toUTF8)
    (h : ∃ c ∈ g.secret.toList, 128 ≤ c.toNat) : g.admits r = false := by
  obtain ⟨c, hc, hbeyond⟩ := h
  rw [← Bool.not_eq_true, admits_iff hlegal hr]
  intro hascii
  exact absurd (hascii c hc) (Nat.not_lt.mpr hbeyond)

namespace Service

variable (s : Service) (token : Token) (now : Instant) {r : Request}

def handler (route : Route) (r : Request) : Program Reply :=
  match route with
  | .presign => presign token r
  | .commit => s.commit token now r
  | _ => .done (.ofStatus 404)

theorem handle_handler {route : Route} (hr : r.PostsTo route) (h : route.isGuarded = true)
    (hadmits : s.guard.admits r = true) :
    s.handle token now r = (s.handler token now route r).map (s.share r) := by
  cases route with
  | root | health | page | description => cases h
  | presign => exact s.handle_presign token now hr hadmits
  | commit => exact s.handle_admitted token now hr hadmits

/-- A request to a guarded route that shows a key which may stand in a header gets to the handler
of the route if the key is ASCII. If it is not, then the request is refused just as one that shows
another key or none. -/
theorem shown_key_admits_iff_ascii (s : Service)
    (hlegal : isHeaderText s.settings.apiKey = true) {route : Route}
    (hguarded : route.isGuarded = true) {r : Request} (hr : r.PostsTo route) :
    (r.header? "x-api-key" = some s.settings.apiKey.toUTF8 →
      (∀ c ∈ s.settings.apiKey.toList, c.toNat < 128) →
      ∀ token now, s.handle token now r = (s.handler token now route r).map (s.share r)) ∧
    (r.header? "x-api-key" = some s.settings.apiKey.toUTF8 →
      (∃ c ∈ s.settings.apiKey.toList, 128 ≤ c.toNat) →
      s.Dismisses r (s.share r refusal)) ∧
    (r.header? "x-api-key" ≠ some s.settings.apiKey.toUTF8 →
      s.Dismisses r (s.share r refusal)) := by
  refine ⟨?_, ?_, s.dismisses_unauthorized hguarded hr⟩
  · intro hshown hascii token now
    have hadmits : s.guard.admits r = true := (Guard.admits_iff hlegal hshown).mpr hascii
    exact s.handle_handler token now hr hguarded hadmits
  · intro hshown hbeyond
    have hadmits : s.guard.admits r = false :=
      Guard.admits_eq_false_of_beyond hlegal hshown hbeyond
    exact dismisses_of_handle fun token now =>
      s.handle_unauthorized token now hr hguarded hadmits

end Service

end Http

namespace Sample

open Http

def keyed (key : String) : Lookup
  | .apiKey => some key
  | which => lookup which

theorem load_keyed (key : String) (hkey : trim key = key) (hne : key ≠ "") :
    Settings.load readUrl (keyed key) = .ok { loaded with apiKey := key } := by
  have hloaded := Settings.loadedFrom_of_load load_lookup
  have hvalue : (keyed key).value? .apiKey = some key := by
    simp only [Lookup.value?, keyed, hkey, if_neg hne]
  have happiKey : Settings.readApiKey (keyed key) loaded.stage = .ok key := by
    rw [Settings.readApiKey, hvalue]
    exact if_neg fun h => absurd h.2 (by decide)
  exact Settings.load_of_loadedFrom { hloaded with apiKey := happiKey }

def keyedService (key : String) : Service := ⟨{ loaded with apiKey := key }, fun _ => none⟩

def showing (key : String) : Request where
  method := "POST"
  target := Route.presign.path
  headers := [("x-api-key", key.toUTF8)]
  body := ByteArray.empty

theorem showing_posts (key : String) : (showing key).PostsTo .presign := by
  have hpath : String.ofList (Route.presign.path.toList.takeWhile
      fun c => c != '?' && c != '#') = Route.presign.path := by decide +kernel
  exact ⟨rfl, hpath⟩

theorem header?_showing (key : String) :
    (showing key).header? Guard.headerName = some key.toUTF8 := by
  have hname : (Text.toLowerAscii "x-api-key" == Guard.headerName) = true := by decide +kernel
  simp only [Request.header?, showing, List.find?_cons, hname, Option.map_some]

def foreignKey : String := "schlüssel"

theorem isHeaderText_foreignKey : isHeaderText foreignKey = true := by decide +kernel

theorem beyond_foreignKey : ∃ c ∈ foreignKey.toList, 128 ≤ c.toNat :=
  ⟨'ü', by decide +kernel, by decide⟩

end Sample

namespace Http.Service

theorem shown_key_admits_iff_ascii_sample :
    (Sample.keyedService Sample.foreignKey).Dismisses (Sample.showing Sample.foreignKey)
        ((Sample.keyedService Sample.foreignKey).share (Sample.showing Sample.foreignKey) refusal) ∧
      ∀ token now,
        (Sample.keyedService "opensesame").handle token now (Sample.showing "opensesame") =
          ((Sample.keyedService "opensesame").handler token now .presign
            (Sample.showing "opensesame")).map
              ((Sample.keyedService "opensesame").share (Sample.showing "opensesame")) := by
  have hlegal : isHeaderText "opensesame" = true := by decide +kernel
  have hall : "opensesame".toList.all (fun c => decide (c.toNat < 128)) = true := by decide +kernel
  have hascii : ∀ c ∈ "opensesame".toList, c.toNat < 128 :=
    fun c hc => of_decide_eq_true (List.all_eq_true.mp hall c hc)
  have hforeign := shown_key_admits_iff_ascii (Sample.keyedService Sample.foreignKey)
    Sample.isHeaderText_foreignKey rfl (Sample.showing_posts Sample.foreignKey)
  have hplain := shown_key_admits_iff_ascii (Sample.keyedService "opensesame") hlegal rfl
    (Sample.showing_posts "opensesame")
  exact ⟨hforeign.2.1 (Sample.header?_showing _) Sample.beyond_foreignKey,
    hplain.1 (Sample.header?_showing _) hascii⟩

theorem exists_accepted_key_refused :
    ¬∀ (lookup : Lookup) (settings : Settings) (render : ByteArray → Option RenditionPair)
      (route : Route) (r : Request) (token : Token) (now : Instant),
      Settings.load Sample.readUrl lookup = .ok settings → isHeaderText settings.apiKey = true →
      route.isGuarded = true → r.PostsTo route →
      r.header? "x-api-key" = some settings.apiKey.toUTF8 →
      (Service.mk settings render).handle token now r =
        ((Service.mk settings render).handler token now route r).map
          ((Service.mk settings render).share r) := by
  intro hall
  have hlegal := Sample.isHeaderText_foreignKey
  have hload := Sample.load_keyed Sample.foreignKey (by decide +kernel) (by decide +kernel)
  have hposts := Sample.showing_posts Sample.foreignKey
  have hshown := Sample.header?_showing Sample.foreignKey
  let s := Sample.keyedService Sample.foreignKey
  let r := Sample.showing Sample.foreignKey
  have hadmits : s.guard.admits r = false :=
    Guard.admits_eq_false_of_beyond (g := s.guard) hlegal hshown Sample.beyond_foreignKey
  have hrefused := s.handle_unauthorized Sample.job.token Sample.job.now hposts rfl hadmits
  have hlet := hall _ _ (fun _ => none) .presign r Sample.job.token Sample.job.now hload hlegal rfl
    hposts hshown
  -- the handler would have missed the type of the content
  have hreply : s.share r refusal = s.share r ApiError.missingContentType.reply :=
    Program.done.inj (hrefused.symm.trans hlet)
  exact absurd (congrArg Reply.status hreply) (by decide)

end Http.Service

end ImageIntake
