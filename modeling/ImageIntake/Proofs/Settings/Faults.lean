import ImageIntake.Proofs.Settings.Origins
import ImageIntake.Proofs.Settings.Stage
import ImageIntake.Proofs.Text.Numeral

namespace ImageIntake

open Text

namespace Variable

def checked : List Variable := [.stage, .endpoint, .accessKeyId, .secretAccessKey, .bucket,
  .storeTimeout, .publicBase, .apiKey, .port, .origins, .requestTimeout]

example : checked.map name = ["APP_ENV", "R2_ENDPOINT", "R2_ACCESS_KEY_ID", "R2_SECRET_ACCESS_KEY",
    "R2_BUCKET", "STORE_TIMEOUT_SECS", "R2_PUBLIC_BASE", "API_KEY", "PORT", "CORS_ALLOWED_ORIGINS",
    "REQUEST_TIMEOUT_SECS"] := rfl

theorem mem_checked {which : Variable} (h : which ≠ .region) : which ∈ checked := by
  cases which with
  | region => exact absurd rfl h
  | _ => decide

end Variable

namespace Lookup

def Holds (lookup : Lookup) (which : Variable) (text : String) : Prop :=
  ∃ whole, lookup which = some whole ∧ trim whole = text ∧ text ≠ ""

def IsUnset (lookup : Lookup) (which : Variable) : Prop :=
  ∀ whole, lookup which = some whole → trim whole = ""

def IsProduction (lookup : Lookup) : Prop :=
  ∃ whole, lookup .stage = some whole ∧ Spells whole "production"

def MayHoldNumber (lookup : Lookup) (which : Variable) (least largest : Nat) : Prop :=
  lookup.IsUnset which ∨
    ∃ text n, lookup.Holds which text ∧ Denotes text n ∧ least ≤ n ∧ n ≤ largest

def Suits (lookup : Lookup) (readUrl : UrlReader) : Variable → Prop
  | .stage => lookup.IsUnset .stage ∨
      ∃ (whole : String) (stage : Stage), lookup .stage = some whole ∧ Spells whole stage.name
  | .endpoint => ∃ text scheme, lookup.Holds .endpoint text ∧ readUrl text = .ok scheme ∧
      (scheme = "http" ∨ scheme = "https")
  | .accessKeyId => ∃ text, lookup.Holds .accessKeyId text
  | .secretAccessKey => ∃ text, lookup.Holds .secretAccessKey text
  | .region => True
  | .bucket => ∃ text, lookup.Holds .bucket text
  | .storeTimeout => lookup.MayHoldNumber .storeTimeout 1 largest64
  | .publicBase => ∃ text, lookup.Holds .publicBase text ∧ ∃ c ∈ text.toList, c ≠ '/'
  | .apiKey => lookup.IsProduction → ∃ key, lookup.Holds .apiKey key ∧ key ≠ "dev-123"
  | .port => lookup.MayHoldNumber .port 0 largest16
  | .origins => ∀ text, lookup.Holds .origins text → ∀ segment ∈ text.toList.splitOn ',',
      trim (String.ofList segment) ≠ "" →
        Http.isHeaderText (trim (String.ofList segment)) = true
  | .requestTimeout => lookup.MayHoldNumber .requestTimeout 1 largest64

def Lacks (lookup : Lookup) : Variable → Prop
  | .endpoint => lookup.IsUnset .endpoint
  | .accessKeyId => lookup.IsUnset .accessKeyId
  | .secretAccessKey => lookup.IsUnset .secretAccessKey
  | .bucket => lookup.IsUnset .bucket
  | .publicBase => ∀ text, lookup.Holds .publicBase text → ∀ c ∈ text.toList, c = '/'
  | .apiKey => lookup.IsProduction ∧ lookup.IsUnset .apiKey
  | .stage | .region | .storeTimeout | .port | .origins | .requestTimeout => False

variable {lookup : Lookup} {which : Variable} {text : String}

theorem holds_iff : lookup.Holds which text ↔ lookup.value? which = some text := by
  rw [value?_eq_some_iff]
  constructor
  · rintro ⟨whole, hwhole, rfl, hne⟩
    exact ⟨whole, hwhole, hne, rfl⟩
  · rintro ⟨whole, hwhole, hne, rfl⟩
    exact ⟨whole, hwhole, rfl, hne⟩

theorem isUnset_iff : lookup.IsUnset which ↔ lookup.value? which = none :=
  value?_eq_none_iff.symm

theorem not_isUnset (h : lookup.value? which = some text) : ¬lookup.IsUnset which := by
  rw [isUnset_iff, h]
  exact nofun

theorem not_holds (h : lookup.value? which = none) : ¬lookup.Holds which text := by
  rw [holds_iff, h]
  exact nofun

theorem Holds.eq (h : lookup.Holds which text) {other : String}
    (hother : lookup.value? which = some other) : text = other :=
  Option.some.inj ((holds_iff.mp h).symm.trans hother)

theorem mayHoldNumber_iff {least largest : Nat} (h : lookup.value? which = some text) :
    lookup.MayHoldNumber which least largest ↔
      ∃ n, readNumeral largest text = .ok n ∧ least ≤ n := by
  constructor
  · rintro (hunset | ⟨text', n, hholds, hdenotes, hleast, hlargest⟩)
    · exact absurd hunset (not_isUnset h)
    · rw [hholds.eq h] at hdenotes
      exact ⟨n, readNumeral_eq_ok_iff.mpr ⟨hdenotes, hlargest⟩, hleast⟩
  · rintro ⟨n, hread, hleast⟩
    obtain ⟨hdenotes, hlargest⟩ := readNumeral_eq_ok_iff.mp hread
    exact .inr ⟨text, n, holds_iff.mpr h, hdenotes, hleast, hlargest⟩

end Lookup

namespace Settings

structure Checks (readUrl : UrlReader) (lookup : Lookup) {α : Type} (list : List Variable)
    (read : Except SettingsError α) : Prop where
  accepted : ∀ a, read = .ok a → ∀ which ∈ list, lookup.Suits readUrl which
  refused : ∀ e, read = .error e → ∃ before after, list = before ++ e.about :: after ∧
    (∀ which ∈ before, lookup.Suits readUrl which) ∧ ¬lookup.Suits readUrl e.about ∧
    (e = .missing e.about ↔ lookup.Lacks e.about)

namespace Checks

variable {readUrl : UrlReader} {lookup : Lookup} {which : Variable} {α β : Type}

theorem of_suits {a : α} (h : lookup.Suits readUrl which) : Checks readUrl lookup [which] (.ok a) :=
  ⟨fun _ _ => List.forall_mem_singleton.mpr h, nofun⟩

theorem nil {a : α} : Checks readUrl lookup [] (.ok a) := ⟨fun _ _ => nofun, nofun⟩

theorem missing (h : ¬lookup.Suits readUrl which) (hlacks : lookup.Lacks which) :
    Checks readUrl lookup (α := α) [which] (.error (.missing which)) := by
  refine ⟨nofun, fun e he => ?_⟩
  cases he
  exact ⟨[], [], rfl, nofun, h, iff_of_true rfl hlacks⟩

theorem invalid {flaw : Flaw} (h : ¬lookup.Suits readUrl which) (hlacks : ¬lookup.Lacks which) :
    Checks readUrl lookup (α := α) [which] (.error (.invalid which flaw)) := by
  refine ⟨nofun, fun e he => ?_⟩
  cases he
  exact ⟨[], [], rfl, nofun, h, iff_of_false nofun hlacks⟩

theorem bind {x : Except SettingsError α} {f : α → Except SettingsError β} {rest : List Variable}
    (hx : Checks readUrl lookup [which] x) (hf : ∀ a, x = .ok a → Checks readUrl lookup rest (f a)) :
    Checks readUrl lookup (which :: rest) (x >>= f) := by
  cases x with
  | error e =>
      refine ⟨nofun, fun e' he => ?_⟩
      cases he
      obtain ⟨before, after, hlist, hfault⟩ := hx.refused e rfl
      refine ⟨before, after ++ rest, ?_, hfault⟩
      rw [← List.singleton_append, hlist, List.append_assoc, List.cons_append]
  | ok a =>
      have hsuits : lookup.Suits readUrl which := hx.accepted a rfl which List.mem_cons_self
      constructor
      · intro b hb
        exact List.forall_mem_cons.mpr ⟨hsuits, (hf a rfl).accepted b hb⟩
      · intro e he
        obtain ⟨before, after, rfl, hbefore, hfault⟩ := (hf a rfl).refused e he
        exact ⟨which :: before, after, rfl, List.forall_mem_cons.mpr ⟨hsuits, hbefore⟩, hfault⟩

end Checks

variable (readUrl : UrlReader) (lookup : Lookup)

theorem suits_stage_iff : lookup.Suits readUrl .stage ↔ ∃ stage, readStage lookup = .ok stage := by
  constructor
  · rintro (hunset | ⟨whole, stage, hwhole, hspells⟩)
    · exact ⟨.development, readStage_of_unset (Lookup.isUnset_iff.mp hunset)⟩
    · exact ⟨stage, readStage_eq_ok_iff.mpr (.inr ⟨whole, hwhole, hspells⟩)⟩
  · rintro ⟨stage, hstage⟩
    rcases readStage_eq_ok_iff.mp hstage with ⟨hunset, -⟩ | ⟨whole, hwhole, hspells⟩
    · exact .inl (Lookup.isUnset_iff.mpr hunset)
    · exact .inr ⟨whole, stage, hwhole, hspells⟩

theorem checks_stage : Checks readUrl lookup [.stage] (readStage lookup) := by
  cases hread : readStage lookup with
  | ok stage => exact .of_suits ((suits_stage_iff readUrl lookup).mpr ⟨stage, hread⟩)
  | error e =>
      have hnot : ¬lookup.Suits readUrl .stage := by
        intro hsuits
        obtain ⟨stage, hstage⟩ := (suits_stage_iff readUrl lookup).mp hsuits
        cases hread.symm.trans hstage
      rw [readStage, readStageValue] at hread
      split at hread
      · cases hread
      · cases hread
        exact .invalid hnot id

variable {readUrl lookup} in
theorem checks_required {which : Variable}
    (hsuits : lookup.Suits readUrl which ↔ ∃ text, lookup.Holds which text)
    (hlacks : lookup.Lacks which ↔ lookup.IsUnset which) :
    Checks readUrl lookup [which] (lookup.required which) := by
  rw [Lookup.required]
  cases hvalue : lookup.value? which with
  | none =>
      refine .missing (fun h => ?_) (hlacks.mpr (Lookup.isUnset_iff.mpr hvalue))
      obtain ⟨text, hholds⟩ := hsuits.mp h
      exact Lookup.not_holds hvalue hholds
  | some text => exact .of_suits (hsuits.mpr ⟨text, Lookup.holds_iff.mpr hvalue⟩)

theorem checks_endpoint : Checks readUrl lookup [.endpoint] (readEndpoint readUrl lookup) := by
  rw [readEndpoint, Lookup.required]
  cases hvalue : lookup.value? .endpoint with
  | none =>
      refine .missing ?_ (Lookup.isUnset_iff.mpr hvalue)
      rintro ⟨text, scheme, hholds, -⟩
      exact Lookup.not_holds hvalue hholds
  | some text =>
      have hset := Lookup.not_isUnset hvalue
      dsimp only
      cases hurl : readUrl text with
      | error cause =>
          refine .invalid ?_ hset
          rintro ⟨text', scheme, hholds, hread, -⟩
          rw [hholds.eq hvalue, hurl] at hread
          cases hread
      | ok scheme =>
          dsimp only
          split
          · next hscheme => exact .of_suits ⟨text, scheme, Lookup.holds_iff.mpr hvalue, hurl, hscheme⟩
          · next hscheme =>
            refine .invalid ?_ hset
            rintro ⟨text', scheme', hholds, hread, hscheme'⟩
            rw [hholds.eq hvalue, hurl] at hread
            cases hread
            exact hscheme hscheme'

variable {readUrl lookup} in
theorem checks_seconds {which : Variable}
    (hsuits : lookup.Suits readUrl which ↔ lookup.MayHoldNumber which 1 largest64)
    (hlacks : ¬lookup.Lacks which) : Checks readUrl lookup [which] (readSeconds lookup which) := by
  rw [readSeconds]
  cases hvalue : lookup.value? which with
  | none => exact .of_suits (hsuits.mpr (.inl (Lookup.isUnset_iff.mpr hvalue)))
  | some text =>
      rw [Lookup.mayHoldNumber_iff hvalue] at hsuits
      dsimp only
      cases hread : readNumeral largest64 text with
      | error cause =>
          refine .invalid (fun h => ?_) hlacks
          obtain ⟨n, hn, -⟩ := hsuits.mp h
          cases hread.symm.trans hn
      | ok n =>
          dsimp only
          split
          · next hpos => exact .of_suits (hsuits.mpr ⟨n, hread, hpos⟩)
          · next hpos =>
            refine .invalid (fun h => ?_) hlacks
            obtain ⟨n', hn, hpos'⟩ := hsuits.mp h
            cases hread.symm.trans hn
            exact hpos hpos'

theorem checks_publicBase : Checks readUrl lookup [.publicBase] (readPublicBase lookup) := by
  rw [readPublicBase, Lookup.required]
  cases hvalue : lookup.value? .publicBase with
  | none =>
      refine .missing ?_ fun text hholds => absurd hholds (Lookup.not_holds hvalue)
      rintro ⟨text, hholds, -⟩
      exact Lookup.not_holds hvalue hholds
  | some text =>
      dsimp only
      split
      · next hslashes =>
        rw [trimEndOf_eq_empty_iff] at hslashes
        refine .missing ?_ fun text' hholds => hholds.eq hvalue ▸ hslashes
        rintro ⟨text', hholds, c, hc, hne⟩
        rw [hholds.eq hvalue] at hc
        exact hne (hslashes c hc)
      · next hslashes =>
        rw [trimEndOf_eq_empty_iff] at hslashes
        push Not at hslashes
        exact .of_suits ⟨text, Lookup.holds_iff.mpr hvalue, hslashes⟩

theorem checks_apiKey {stage : Stage} (hstage : readStage lookup = .ok stage) :
    Checks readUrl lookup [.apiKey] (readApiKey lookup stage) := by
  have hproduction : stage = .production ↔ lookup.IsProduction := stage_eq_production_iff hstage
  have hdefault : stage.allowsDefaultKey = false ↔ stage = .production := by cases stage <;> decide
  rw [readApiKey]
  cases hvalue : lookup.value? .apiKey with
  | none =>
      dsimp only
      split
      · next hallows =>
        refine .of_suits fun h => ?_
        rw [hdefault.mpr (hproduction.mpr h)] at hallows
        cases hallows
      · next hallows =>
        have h := hproduction.mp (hdefault.mp (Bool.eq_false_iff.mpr hallows))
        refine .missing (fun hsuits => ?_) ⟨h, Lookup.isUnset_iff.mpr hvalue⟩
        obtain ⟨key, hholds, -⟩ := hsuits h
        exact Lookup.not_holds hvalue hholds
  | some key =>
      dsimp only
      split
      · next hdevelopment =>
        obtain ⟨hkey, hrefuses⟩ := hdevelopment
        refine .invalid (fun hsuits => ?_) (fun hlacks => Lookup.not_isUnset hvalue hlacks.2)
        obtain ⟨key', hholds, hne⟩ := hsuits (hproduction.mp (hdefault.mp hrefuses))
        exact hne ((hholds.eq hvalue).trans hkey)
      · next hother =>
        refine .of_suits fun h => ⟨key, Lookup.holds_iff.mpr hvalue, fun hkey => ?_⟩
        exact hother ⟨hkey, hdefault.mpr (hproduction.mpr h)⟩

theorem checks_port : Checks readUrl lookup [.port] (readPort lookup) := by
  rw [readPort]
  cases hvalue : lookup.value? .port with
  | none => exact .of_suits (.inl (Lookup.isUnset_iff.mpr hvalue))
  | some text =>
      have hsuits : lookup.Suits readUrl .port ↔ _ := Lookup.mayHoldNumber_iff hvalue
      dsimp only
      cases hread : readNumeral largest16 text with
      | ok n => exact .of_suits (hsuits.mpr ⟨n, hread, Nat.zero_le n⟩)
      | error cause =>
          refine .invalid (fun h => ?_) id
          obtain ⟨n, hn, -⟩ := hsuits.mp h
          cases hread.symm.trans hn

theorem suits_origins {text : String} (h : lookup.value? .origins = some text) :
    lookup.Suits readUrl .origins ↔ ∀ origin ∈ segments text, Http.isHeaderText origin = true := by
  constructor
  · intro hsuits origin horigin
    obtain ⟨hne, segment, hsegment, rfl⟩ := mem_segments.mp horigin
    exact hsuits text (Lookup.holds_iff.mpr h) segment hsegment hne
  · intro hall text' hholds segment hsegment hne
    rw [hholds.eq h] at hsegment
    exact hall _ (mem_segments.mpr ⟨hne, segment, hsegment, rfl⟩)

theorem checks_origins : Checks readUrl lookup [.origins] (readOrigins lookup) := by
  rw [readOrigins]
  cases hvalue : lookup.value? .origins with
  | none =>
      have hread : (segments defaultOrigins).mapM checkOrigin = .ok ["http://localhost:3000"] := by
        decide +kernel
      rw [Option.getD_none, hread]
      exact .of_suits fun text hholds => absurd hholds (Lookup.not_holds hvalue)
  | some text =>
      have hsuits := suits_origins readUrl lookup hvalue
      rw [Option.getD_some]
      cases hread : (segments text).mapM checkOrigin with
      | ok origins => exact .of_suits (hsuits.mpr (mapM_checkOrigin hread).2)
      | error e =>
          obtain ⟨origin, horigin, hillegal, rfl⟩ := mapM_checkOrigin_error hread
          refine .invalid (fun h => ?_) id
          rw [hsuits.mp h origin horigin] at hillegal
          cases hillegal

theorem checks_load : Checks readUrl lookup Variable.checked (load readUrl lookup) := by
  rw [load]
  -- one step for each variable of the list; the key is judged by the stage that was read
  refine (checks_stage readUrl lookup).bind fun stage hstage => ?_
  refine (checks_endpoint readUrl lookup).bind fun endpoint _ => ?_
  refine (checks_required .rfl .rfl).bind fun accessKeyId _ => ?_
  refine (checks_required .rfl .rfl).bind fun secretAccessKey _ => ?_
  refine (checks_required .rfl .rfl).bind fun bucket _ => ?_
  refine (checks_seconds .rfl id).bind fun timeout _ => ?_
  refine (checks_publicBase readUrl lookup).bind fun publicBase _ => ?_
  refine (checks_apiKey readUrl lookup hstage).bind fun apiKey _ => ?_
  refine (checks_port readUrl lookup).bind fun port _ => ?_
  refine (checks_origins readUrl lookup).bind fun origins _ => ?_
  refine (checks_seconds .rfl id).bind fun requestTimeout _ => ?_
  exact .nil

/-- Settings are read just if every variable holds what it has to. Else the error is about the first
variable, in the order of their checks, that does not, and says whether it is missing. -/
theorem load_reports_the_first_fault :
    ((∃ s, load readUrl lookup = .ok s) ↔ ∀ which, lookup.Suits readUrl which) ∧
    ∀ e, load readUrl lookup = .error e → ∃ before after, Variable.checked = before ++ e.about :: after ∧
      (∀ which ∈ before, lookup.Suits readUrl which) ∧ ¬lookup.Suits readUrl e.about ∧
      (e = .missing e.about ↔ lookup.Lacks e.about) := by
  have hchecks := checks_load readUrl lookup
  refine ⟨⟨?_, ?_⟩, hchecks.refused⟩
  · rintro ⟨s, hs⟩ which
    by_cases hregion : which = .region
    · rw [hregion]
      trivial
    · exact hchecks.accepted s hs which (Variable.mem_checked hregion)
  · intro hall
    cases hload : load readUrl lookup with
    | ok s => exact ⟨s, rfl⟩
    | error e =>
        obtain ⟨before, after, -, -, hfault, -⟩ := hchecks.refused e hload
        exact absurd (hall e.about) hfault

end Settings

end ImageIntake
