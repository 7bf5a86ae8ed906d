import LinkPattern.Proofs.Url.Delimiters

/-!
# What a base is for

A base is missed only where a reference names no scheme, and it is unfit only where it is opaque.
Whatever else is wrong with a URL is wrong with its own text. From a base a URL inherits a query,
but only one that the base has.
-/

namespace LinkPattern

def UrlError.isAboutBase : UrlError → Bool
  | .relativeWithoutBase | .relativeWithOpaqueBase => true
  | _ => false

namespace Url

/-! ## Faults of a text -/

def OwnFaults {α : Type} (x : Except UrlError α) : Prop := FailsOnly (·.isAboutBase = false) x

/-! ## Authorities -/

theorem Host.ownFaults_checkBracketed (host : Text) : OwnFaults (checkBracketed host) :=
  .ite (.ok ()) (.error rfl)

theorem Host.ownFaults_domain (host : Text) : OwnFaults (domain host) := by
  unfold domain
  refine .ite (.map (ownFaults_checkBracketed host)) ?_
  cases Percent.decode host with
  | error e => exact .error rfl
  | ok decoded => exact .ite (.error rfl) (.ite (.error rfl) (.ite (.error rfl) (.ok _)))

theorem Host.ownFaults_checkOpaque (host : Text) : OwnFaults (checkOpaque host) :=
  .ite (ownFaults_checkBracketed host) (.ite (.error rfl) (.ok ()))

theorem Authority.ownFaults_skipPort (t : Text) : OwnFaults (skipPort t) := by
  unfold skipPort
  split
  · exact .ite (.ok _) (.error rfl)
  · exact .ok t

theorem Authority.ownFaults_skipHost (kind : SchemeKind) (user : Bool) (t : Text) : OwnFaults (skipHost kind user t) := by
  unfold skipHost
  have hrest : ∀ (host rest : Text), OwnFaults (do
      if host = [] ∧ rest ≠ [] then throw .emptyHost
      let rest ← skipPort rest
      if host = [] ∧ user then throw .emptyHost
      return rest) := by
    intro host rest
    refine .ite (.error rfl) (.bind (ownFaults_skipPort rest) fun after => ?_)
    exact .ite (.error rfl) (.ok after)
  generalize Host.ofFront false t = parts
  obtain ⟨host, rest⟩ := parts
  refine .ite (.error rfl) (.ite ?_ ?_)
  · exact .bind (.map (Host.ownFaults_domain host)) fun _ => hrest host rest
  · exact .bind (Host.ownFaults_checkOpaque host) fun _ => hrest host rest

theorem Authority.ownFaults_skip (kind : SchemeKind) (more : Bool) (t : Text) : OwnFaults (skip kind more t) := by
  unfold skip
  simp only
  split
  · exact .bind (ownFaults_skipHost kind _ _) fun _ => .ok _
  · exact .ite (.error rfl) (.bind (ownFaults_skipHost kind _ _) fun _ => .ok _)

/-! ## Paths -/

theorem Path.ownFaults_ofFileAuthority (t : Text) : OwnFaults (ofFileAuthority t) := by
  refine .ite (.ok _) (.ite (.ok _) (.bind (Host.ownFaults_domain _) fun domain => ?_))
  exact .ite (.ok _) (.ok _)

theorem Path.ownFaults_ofFile (base? : Option Text) (t : Text) : OwnFaults (ofFile base? t) := by
  unfold ofFile
  split
  · exact .ok _
  · refine .ite (.ite (ownFaults_ofFileAuthority _) (.ok _)) ?_
    cases base? with
    | none => exact .ok _
    | some base => exact .ok _

namespace Reference

variable (r : Reference)

theorem ownFaults_pathAfterAuthority (kind : SchemeKind) (t : Text) : OwnFaults (r.pathAfterAuthority kind t) :=
  .bind (Authority.ownFaults_skip kind _ t) fun _ => .ok _

theorem ownFaults_relativePath (base : Url) (t : Text) : OwnFaults (r.relativePath base t) := by
  unfold relativePath
  split
  · exact .ok _
  · refine .ite (.ok _) ?_
    split
    · exact .ok _
    · exact .ite (.ok _) (r.ownFaults_pathAfterAuthority _ _)

theorem ownFaults_relativeTo (base : Url) (t : Text) : OwnFaults (r.relativeTo base t) := by
  rw [relativeTo_eq]
  exact .ite (.ok _) (.map (.ite (Path.ownFaults_ofFile _ t) (r.ownFaults_relativePath base _)))

theorem ownFaults_ownPath (kind : SchemeKind) (t : Text) : OwnFaults (r.ownPath kind t) := by
  unfold ownPath
  split
  · exact .map (Path.ownFaults_ofFile none t)
  · exact .map (r.ownFaults_pathAfterAuthority _ _)
  · exact .map (r.ownFaults_pathAfterAuthority _ _)
  · exact .ok _
  · exact .ok _

theorem ownFaults_absolute (base? : Option Url) (scheme t : Text) : OwnFaults (r.absolute base? scheme t) := by
  unfold absolute
  split
  · exact r.ownFaults_relativeTo _ t
  · exact .map (r.ownFaults_ownPath _ t)

/-! ## What is said of a base -/

variable {r : Reference} {base : Url} {base? : Option Url}

theorem resolve_of_scheme {scheme rest : Text} (h : scheme? r.front = some (scheme, rest)) (base? : Option Url) :
    r.resolve base? = r.absolute base? scheme rest := by
  unfold resolve
  rw [h]

theorem resolve_none (h : scheme? r.front = none) : r.resolve none = .error .relativeWithoutBase := by
  unfold resolve
  rw [h]

theorem resolve_some (h : scheme? r.front = none) (hb : base.isOpaque = false) :
    r.resolve (some base) = r.relativeTo base r.front := by
  unfold resolve
  rw [h]
  simp [hb]

theorem ownFaults_resolve (hb : base.isOpaque = false) : OwnFaults (r.resolve (some base)) := by
  cases hs : scheme? r.front with
  | some parts => rw [resolve_of_scheme hs]; exact r.ownFaults_absolute _ _ _
  | none => rw [resolve_some hs hb]; exact r.ownFaults_relativeTo base _

theorem resolve_eq_relativeWithoutBase (hb : ∀ base ∈ base?, base.isOpaque = false) :
    r.resolve base? = .error .relativeWithoutBase ↔ base? = none ∧ scheme? r.front = none := by
  constructor
  · intro h
    cases base? with
    | some base => exact absurd h ((ownFaults_resolve (hb base rfl)).ne (by simp [UrlError.isAboutBase]))
    | none =>
      cases hs : scheme? r.front with
      | some parts =>
        rw [resolve_of_scheme hs] at h
        exact absurd h ((r.ownFaults_absolute none _ _).ne (by simp [UrlError.isAboutBase]))
      | none => exact ⟨rfl, rfl⟩
  · rintro ⟨rfl, hs⟩
    exact resolve_none hs

theorem resolve_ne_relativeWithOpaqueBase (hb : ∀ base ∈ base?, base.isOpaque = false) :
    r.resolve base? ≠ .error .relativeWithOpaqueBase := by
  have hown : UrlError.relativeWithOpaqueBase.isAboutBase ≠ false := by decide
  cases base? with
  | some base => exact (ownFaults_resolve (hb base rfl)).ne hown
  | none =>
    cases hs : scheme? r.front with
    | some parts => rw [resolve_of_scheme hs]; exact (r.ownFaults_absolute none _ _).ne hown
    | none => rw [resolve_none hs]; simp

/-! ## What a URL has from its base -/

def HasPartsOf (u : Url) (r : Reference) : Prop :=
  u.query?.isSome = r.query?.isSome ∧ u.fragment?.isSome = r.fragment?.isSome

theorem withPath_hasPartsOf (scheme : Text) (isOpaque : Bool) (path : Text) :
    HasPartsOf (r.withPath scheme isOpaque path) r := ⟨Option.isSome_map, Option.isSome_map⟩

theorem relativeTo_hasPartsOf (hb : base.query? = none) {t : Text} {u : Url} (h : r.relativeTo base t = .ok u) :
    HasPartsOf u r := by
  rw [relativeTo_eq] at h
  by_cases hleft : significant t = [] ∧ r.query? = none
  · rw [if_pos hleft] at h
    cases h
    exact ⟨by rw [hb, hleft.2], Option.isSome_map⟩
  · rw [if_neg hleft] at h
    obtain ⟨path, -, rfl⟩ := map_eq_ok.mp h
    exact withPath_hasPartsOf _ _ path

theorem absolute_hasPartsOf (hb : ∀ base ∈ base?, base.query? = none) {scheme t : Text} {u : Url}
    (h : r.absolute base? scheme t = .ok u) : HasPartsOf u r := by
  unfold absolute at h
  split at h
  · next base hf => exact relativeTo_hasPartsOf (hb base (Option.filter_eq_some_iff.mp hf).1) h
  · obtain ⟨⟨isOpaque, path⟩, -, hu⟩ := map_eq_ok.mp h
    cases hu
    exact withPath_hasPartsOf scheme isOpaque path

theorem resolve_hasPartsOf (hb : ∀ base ∈ base?, base.query? = none) {u : Url} (h : r.resolve base? = .ok u) :
    HasPartsOf u r := by
  unfold resolve at h
  split at h
  · exact absolute_hasPartsOf hb h
  · cases h
  · simp only at h
    split at h
    · cases h
    · exact relativeTo_hasPartsOf (hb _ rfl) h

theorem mem_of_mem_trim {t : Text} {x : Char} (h : x ∈ trim t) : x ∈ t := by
  have hdropped := (List.dropWhile_sublist _).mem (List.mem_reverse.mp h)
  exact (List.dropWhile_sublist _).mem (List.mem_reverse.mp hdropped)

theorem mem_of_query? {t : Text} (h : (ofText t).query?.isSome) : '?' ∈ t := by
  obtain ⟨q, hq⟩ := Option.isSome_iff_exists.mp h
  obtain ⟨query, hquery, -⟩ := Option.map_eq_some_iff.mp hq
  exact mem_of_mem_trim ((cutOff_fst _).2 _ (mem_of_cutOff hquery))

theorem mem_of_fragment? {t : Text} (h : (ofText t).fragment?.isSome) : '#' ∈ t := by
  obtain ⟨f, hf⟩ := Option.isSome_iff_exists.mp h
  obtain ⟨fragment, hfragment, -⟩ := Option.map_eq_some_iff.mp hf
  exact mem_of_mem_trim (mem_of_cutOff hfragment)

end Reference

theorem opened_of_parse {base? : Option Url} (hb : ∀ base ∈ base?, base.query? = none) {t : Text} {u : Url}
    (h : parse t base? = .ok u) : (u.query?.isSome → '?' ∈ t) ∧ (u.fragment?.isSome → '#' ∈ t) := by
  obtain ⟨hquery, hfragment⟩ := Reference.resolve_hasPartsOf hb h
  exact ⟨fun hq => Reference.mem_of_query? (hquery ▸ hq), fun hf => Reference.mem_of_fragment? (hfragment ▸ hf)⟩

end Url

end LinkPattern
