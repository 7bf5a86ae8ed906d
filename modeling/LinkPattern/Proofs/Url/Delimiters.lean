import LinkPattern.Matcher
import LinkPattern.Proofs.Options
import LinkPattern.Proofs.Results

/-!
# What ends the parts of a URL

However a URL is read, its path has neither `?` nor `#` in it and its query no `#`: the reference is
cut at these characters before anything else, and a path only grows by escaped segments.
-/

namespace LinkPattern

namespace Url

open Percent

def Undelimited (t : Text) : Prop := ∀ x ∈ t, x ≠ '?' ∧ x ≠ '#'

instance (t : Text) : Decidable (Undelimited t) := List.decidableBAll _ t

namespace Undelimited

variable {s t : Text}

theorem not_mem (h : Undelimited t) {x : Char} (hx : x = '?' ∨ x = '#') : x ∉ t := by
  intro hm
  rcases hx with rfl | rfl
  · exact (h _ hm).1 rfl
  · exact (h _ hm).2 rfl

theorem nil : Undelimited [] := by decide

theorem slash : Undelimited ['/'] := by decide

theorem more (more : Bool) : Undelimited (if more then ['/'] else []) := by cases more <;> decide

theorem of_subset (h : Undelimited t) (hs : ∀ x ∈ s, x ∈ t) : Undelimited s := fun x hx => h x (hs x hx)

theorem append (hs : Undelimited s) (ht : Undelimited t) : Undelimited (s ++ t) := by
  intro x hx
  rcases List.mem_append.mp hx with hx | hx
  · exact hs x hx
  · exact ht x hx

theorem of_isAlpha {c : Char} (h : c.isAlpha = true) : Undelimited [c] := by
  intro x hx
  rw [List.mem_singleton.mp hx]
  constructor
  · rintro rfl; cases h
  · rintro rfl; cases h

end Undelimited

theorem of_mem_escape {set : EscapeSet} {t : Text} {x : Char} (h : x ∈ escape set t) (hx : x = '?' ∨ x = '#') :
    x ∈ t ∧ set x = false := by
  obtain ⟨c, hct, hc⟩ := List.mem_flatMap.mp h
  rcases mem_escapeChar hc with rfl | ⟨n, hn, rfl⟩ | ⟨rfl, hs, -⟩
  · exact absurd hx (by decide)
  · have := isAlphanum_upper hn
    rcases hx with he | he
    · rw [he] at this; cases this
    · rw [he] at this; cases this
  · exact ⟨hct, hs⟩

theorem undelimited_escape_path (t : Text) : Undelimited (escape EscapeSet.path t) := by
  intro x hx
  constructor
  · rintro rfl; cases (of_mem_escape hx (.inl rfl)).2
  · rintro rfl; cases (of_mem_escape hx (.inr rfl)).2

theorem Undelimited.escape {t : Text} (h : Undelimited t) (set : EscapeSet) : Undelimited (escape set t) := by
  intro x hx
  constructor
  · rintro rfl; exact (h _ (of_mem_escape hx (.inl rfl)).1).1 rfl
  · rintro rfl; exact (h _ (of_mem_escape hx (.inr rfl)).1).2 rfl

/-! ## Paths -/

namespace Path

variable {path : Text}

theorem undelimited_cutLast (h : Undelimited path) : Undelimited (cutLast path).1 :=
  h.of_subset fun _ hx => List.mem_reverse.mp ((List.dropWhile_sublist _).mem (List.mem_reverse.mp hx))

theorem undelimited_shorten (h : Undelimited path) (kind : SchemeKind) : Undelimited (shorten kind path) := by
  simp only [shorten]
  split
  · exact h
  · exact undelimited_cutLast h

theorem undelimited_dropSlash (h : Undelimited path) : Undelimited (dropSlash path) := by
  simp only [dropSlash]
  split
  · exact h.of_subset fun _ hx => List.dropLast_subset _ hx
  · exact h

theorem undelimited_withSlash (h : Undelimited path) : Undelimited (withSlash path) := by
  unfold withSlash
  split
  · exact h
  · exact h.append .slash

theorem undelimited_addPlain (h : Undelimited path) (kind : SchemeKind) (segment : Text) (more : Bool) :
    Undelimited (addPlain kind path segment more) := by
  have hseg := undelimited_escape_path segment
  have hpath : Undelimited
      (if kind = .file ∧ segment ≠ [] ∧ isNormalDrive (path.drop 1) then path ++ ['/'] else path) := by
    split
    · exact h.append .slash
    · exact h
  have hmore := Undelimited.more more
  unfold addPlain
  -- the path and the segment as they are when the segment is looked at for dots
  generalize Percent.escape EscapeSet.path segment = segment' at *
  generalize (if kind = .file ∧ segment ≠ [] ∧ isNormalDrive (path.drop 1) then path ++ ['/'] else path) = path' at *
  have hshort := undelimited_shorten (undelimited_dropSlash hpath) kind
  by_cases hdd : isDoubleDot segment' = true
  · simp only [hdd, ite_true]
    split
    · exact undelimited_withSlash hshort
    · exact hshort
  by_cases hd : isDot segment' = true
  · simp only [hdd, hd, ite_true, ite_false, Bool.false_eq_true]
    exact undelimited_withSlash hpath
  simp only [hdd, hd, ite_false, Bool.false_eq_true]
  refine (hpath.append ?_).append hmore
  split
  · next c d =>
    split
    · exact (hseg.of_subset (s := [c]) (by simp)).append (t := [':']) (by decide)
    · exact hseg
  · exact hseg

theorem undelimited_severedDrive {segment drive rest : Text} (h : severedDrive? segment = some (drive, rest)) :
    Undelimited drive := by
  unfold severedDrive? at h
  split at h
  · cases h
  · simp only at h
    split at h
    · next front _ _ hd =>
      cases h
      cases hf : significant front with
      | nil => decide
      | cons c t =>
        have hn := hd.1
        rw [hf] at hn
        cases t with
        | nil => exact (Undelimited.of_isAlpha hn).append (t := [':']) (by decide)
        | cons d t => simp [isNormalDrive] at hn
    · cases h

theorem undelimited_add (h : Undelimited path) (kind : SchemeKind) (segment : Text) (more : Bool) :
    Undelimited (add kind path segment more) := by
  unfold add
  split
  · next drive rest hd =>
    split at hd
    · have hrest := undelimited_escape_path rest
      have hmore := Undelimited.more more
      rw [List.append_cons]
      exact (((h.append (undelimited_severedDrive hd)).append .slash).append hrest).append hmore
    · cases hd
  · exact undelimited_addPlain h kind _ more

theorem undelimited_addAll (h : Undelimited path) (kind : SchemeKind) (segments : List Text) :
    Undelimited (addAll kind path segments) := by
  induction segments generalizing path with
  | nil => exact h
  | cons segment rest ih =>
    cases rest with
    | nil => exact undelimited_add h kind segment false
    | cons next rest => exact ih (undelimited_add h kind segment true)

theorem undelimited_extend (h : Undelimited path) (kind : SchemeKind) (t : Text) : Undelimited (extend kind path t) := by
  have hall := undelimited_addAll h kind (Text.splitOn '/' (t.map fun c => if Authority.isSlash kind c then '/' else c))
  simp only [extend]
  split
  · exact Undelimited.slash.append (hall.of_subset fun _ hx => (List.dropWhile_sublist _).mem hx)
  · exact hall

/-! ## Where a path begins -/

theorem undelimited_afterAuthority (kind : SchemeKind) (t : Text) : Undelimited (afterAuthority kind t) := by
  unfold afterAuthority
  split
  · split
    · exact undelimited_extend .slash kind []
    · exact .nil
  · split
    · exact undelimited_extend .slash kind _
    · exact undelimited_extend .slash kind _

theorem undelimited_relative (h : Undelimited path) (kind : SchemeKind) (t : Text) :
    Undelimited (relative kind path t) := by
  simp only [relative]
  apply undelimited_extend
  split
  · exact .slash
  · exact undelimited_shorten h kind

theorem undelimited_ofFileAuthority {t path : Text} (h : ofFileAuthority t = .ok path) : Undelimited path := by
  simp only [ofFileAuthority] at h
  split at h
  · cases h; exact undelimited_extend .slash .file t
  split at h
  · cases h; exact undelimited_extend .slash .file _
  generalize Host.domain (significant (t.takeWhile (!Authority.isSlash .file ·))) = domain at h
  cases domain with
  | error cause => cases h
  | ok domain =>
    simp only [bind, Except.bind] at h
    split at h
    · cases h; exact undelimited_extend .slash .file _
    · cases h; exact undelimited_afterAuthority .file _

theorem undelimited_drive (h : Undelimited path) : Undelimited (drive path) := by
  simp only [drive]
  split
  · exact Undelimited.slash.append (h.of_subset fun _ hx => List.drop_subset _ _ ((List.takeWhile_sublist _).mem hx))
  · exact .nil

theorem undelimited_ofFile {base? : Option Text} {t path : Text} (hb : ∀ b ∈ base?, Undelimited b)
    (h : ofFile base? t = .ok path) : Undelimited path := by
  unfold ofFile at h
  split at h
  · cases h
    cases base? with
    | none => exact .slash
    | some base => exact hb base rfl
  · split at h
    · split at h
      · exact undelimited_ofFileAuthority h
      · cases h
        apply undelimited_extend
        split
        · exact .nil
        · cases base? with
          | none => exact .nil
          | some base => exact undelimited_drive (hb base rfl)
    · cases base? with
      | none => cases h; exact undelimited_extend .slash .file t
      | some base =>
        cases h
        split
        · exact undelimited_extend .slash .file t
        · exact undelimited_relative (hb base rfl) .file t

end Path

/-! ## References -/

theorem cutOff_fst {d : Char} (t : Text) : d ∉ (cutOff d t).1 ∧ ∀ x ∈ (cutOff d t).1, x ∈ t := by
  unfold cutOff
  split
  · next front rest h =>
    obtain ⟨rfl, hd⟩ := Text.cut_eq_some h
    exact ⟨hd, fun x hx => List.mem_append_left _ hx⟩
  · next h => exact ⟨Text.cut_eq_none.mp h, fun x hx => hx⟩

theorem cutOff_snd {d : Char} {t after : Text} (h : (cutOff d t).2 = some after) : ∀ x ∈ after, x ∈ t := by
  unfold cutOff at h
  split at h
  · next front rest hc =>
    cases h
    obtain ⟨rfl, -⟩ := Text.cut_eq_some hc
    exact fun x hx => List.mem_append_right _ (List.mem_cons_of_mem _ hx)
  · cases h

theorem cutOff_append {d : Char} {s : Text} (h : d ∉ s) (t : Text) :
    cutOff d (s ++ t) = (s ++ (cutOff d t).1, (cutOff d t).2) := by
  unfold cutOff
  cases hc : Text.cut d t with
  | none =>
    have : d ∉ s ++ t := by simp [h, Text.cut_eq_none.mp hc]
    rw [Text.cut_eq_none.mpr this]
  | some parts =>
    obtain ⟨front, rest⟩ := parts
    obtain ⟨rfl, hd⟩ := Text.cut_eq_some hc
    have : d ∉ s ++ front := by simp [h, hd]
    rw [← List.append_assoc, Text.cut_append_cons rest this]

theorem cutOff_flatten (d : Char) (t : Text) : (cutOff d t).1 ++ (cutOff d t).2.elim [] (d :: ·) = t := by
  unfold cutOff
  cases hc : Text.cut d t with
  | none => simp
  | some parts => exact (Text.cut_eq_some hc).1.symm

theorem mem_of_cutOff {d : Char} {t after : Text} (h : (cutOff d t).2 = some after) : d ∈ t := by
  rw [← cutOff_flatten d t, h]
  simp

def frontOf (t : Text) : Text := (cutOff '?' (cutOff '#' t).1).1

def queryOf? (t : Text) : Option Text := (cutOff '?' (cutOff '#' t).1).2

def fragmentOf? (t : Text) : Option Text := (cutOff '#' t).2

theorem flatten_parts (t : Text) :
    frontOf t ++ (queryOf? t).elim [] ('?' :: ·) ++ (fragmentOf? t).elim [] ('#' :: ·) = t := by
  rw [frontOf, queryOf?, fragmentOf?, cutOff_flatten, cutOff_flatten]

theorem mem_of_mem_frontOf {t : Text} {x : Char} (h : x ∈ frontOf t) : x ∈ t :=
  (cutOff_fst t).2 x ((cutOff_fst _).2 x h)

theorem undelimited_frontOf (t : Text) : Undelimited (frontOf t) := by
  obtain ⟨h1, hsub⟩ := cutOff_fst (d := '?') (cutOff '#' t).1
  obtain ⟨h2, -⟩ := cutOff_fst (d := '#') t
  intro x hx
  constructor
  · rintro rfl; exact h1 hx
  · rintro rfl; exact h2 (hsub _ hx)

theorem parts_of_undelimited {t : Text} (h : Undelimited t) : frontOf t = t ∧ queryOf? t = none ∧ fragmentOf? t = none := by
  have hcut : ∀ d, d ∉ t → cutOff d t = (t, none) := by
    intro d hd
    rw [cutOff, Text.cut_eq_none.mpr hd]
  rw [frontOf, queryOf?, fragmentOf?, hcut '#' (h.not_mem (.inr rfl))]
  simp only [hcut '?' (h.not_mem (.inl rfl)), and_self]

theorem not_mem_queryOf? {t q : Text} (h : queryOf? t = some q) : '#' ∉ q := fun hm =>
  (cutOff_fst t).1 (cutOff_snd h _ hm)

theorem mem_of_scheme? {t scheme rest : Text} (h : scheme? t = some (scheme, rest)) : ∀ x ∈ rest, x ∈ t := by
  unfold scheme? at h
  cases hc : Text.cut ':' t with
  | none => rw [hc] at h; cases h
  | some parts =>
    obtain ⟨front, after⟩ := parts
    obtain ⟨rfl, -⟩ := Text.cut_eq_some hc
    rw [hc] at h
    simp only [Option.map_some] at h
    split at h
    · next hs =>
      split at h
      · obtain ⟨-, rfl⟩ := Prod.mk.inj (Option.some.inj hs)
        cases h
        exact fun x hx => List.mem_append_right _ (List.mem_cons_of_mem _ hx)
      · cases h
    · cases h

structure Reference.Delimited (r : Reference) : Prop where
  front : Undelimited r.front
  query : ∀ q ∈ r.query?, '#' ∉ q

theorem Reference.delimited_ofText (t : Text) : (ofText t).Delimited where
  front := undelimited_frontOf (trim t)
  query := by
    intro q hq hm
    obtain ⟨query, hquery, rfl⟩ := Option.map_eq_some_iff.mp hq
    exact not_mem_queryOf? hquery (List.mem_filter.mp hm).1

/-! ## URLs -/

/-- The path of the URL ends before any `?` or `#`, and its query before any `#`. -/
structure Delimited (u : Url) : Prop where
  path : Undelimited u.path
  query : ∀ q ∈ u.query?, '#' ∉ q

namespace Reference

variable {r : Reference} {base : Url} {t path : Text}

theorem Delimited.withPath (hr : r.Delimited) (h : Undelimited path) (scheme : Text) (isOpaque : Bool) :
    (r.withPath scheme isOpaque path).Delimited where
  path := h
  query q hq hm := by
    obtain ⟨query, hquery, rfl⟩ := Option.map_eq_some_iff.mp hq
    exact hr.query query hquery (of_mem_escape hm (.inr rfl)).1

theorem undelimited_pathAfterAuthority {kind : SchemeKind} (h : r.pathAfterAuthority kind t = .ok path) :
    Undelimited path := by
  obtain ⟨rest, -, hp⟩ := bind_eq_ok.mp h
  cases hp
  exact Path.undelimited_afterAuthority kind rest

theorem undelimited_relativePath (hb : base.Delimited) (h : r.relativePath base t = .ok path) : Undelimited path := by
  unfold relativePath at h
  split at h
  · cases h; exact hb.path
  split at h
  · cases h; exact Path.undelimited_relative hb.path base.kind _
  split at h
  · cases h; exact Path.undelimited_extend .slash base.kind _
  split at h
  · cases h; exact Path.undelimited_extend .slash base.kind _
  · exact undelimited_pathAfterAuthority h

theorem relativeTo_eq (r : Reference) (base : Url) (t : Text) :
    r.relativeTo base t =
      if significant t = [] ∧ r.query? = none then
        .ok { r.withPath base.scheme base.isOpaque base.path with query? := base.query? }
      else
        (if base.kind = .file then Path.ofFile (some base.path) t else r.relativePath base (significant t)).map
          (r.withPath base.scheme base.isOpaque) := by
  unfold relativeTo
  by_cases hleft : significant t = [] ∧ r.query? = none
  · rw [if_pos hleft, if_pos hleft]
  rw [if_neg hleft, if_neg hleft]
  by_cases hfile : base.kind = .file
  · simp only [hfile, ite_true]
    exact bind_pure_comp _ _
  · simp only [hfile, ite_false]
    exact bind_pure_comp _ _

theorem delimited_relativeTo (hr : r.Delimited) (hb : base.Delimited) {u : Url} (h : r.relativeTo base t = .ok u) :
    u.Delimited := by
  rw [relativeTo_eq] at h
  split at h
  · cases h; exact { path := hb.path, query := hb.query }
  obtain ⟨path, hpath, rfl⟩ := map_eq_ok.mp h
  apply hr.withPath
  split at hpath
  · exact Path.undelimited_ofFile (by rintro _ ⟨⟩; exact hb.path) hpath
  · exact undelimited_relativePath hb hpath

theorem undelimited_ownPath (ht : Undelimited t) {kind : SchemeKind} {isOpaque : Bool}
    (h : r.ownPath kind t = .ok (isOpaque, path)) : Undelimited path := by
  unfold ownPath at h
  split at h
  · obtain ⟨path', hp, he⟩ := map_eq_ok.mp h
    cases he
    exact Path.undelimited_ofFile (by rintro _ ⟨⟩) hp
  · obtain ⟨path', hp, he⟩ := map_eq_ok.mp h
    cases he
    exact undelimited_pathAfterAuthority hp
  · obtain ⟨path', hp, he⟩ := map_eq_ok.mp h
    cases he
    exact undelimited_pathAfterAuthority hp
  · cases h; exact Path.undelimited_extend .slash .other _
  · cases h
    have hs : Undelimited (significant t) := ht.of_subset fun _ hx => (List.mem_filter.mp hx).1
    exact hs.escape EscapeSet.controls

theorem delimited_absolute (hr : r.Delimited) {base? : Option Url} (hb : ∀ b ∈ base?, b.Delimited) {scheme : Text}
    (ht : Undelimited t) {u : Url} (h : r.absolute base? scheme t = .ok u) : u.Delimited := by
  unfold absolute at h
  split at h
  · next base hf => exact delimited_relativeTo hr (hb base (Option.filter_eq_some_iff.mp hf).1) h
  · obtain ⟨⟨isOpaque, path⟩, hp, he⟩ := map_eq_ok.mp h
    cases he
    exact hr.withPath (undelimited_ownPath ht hp) scheme isOpaque

theorem delimited_resolve (hr : r.Delimited) {base? : Option Url} (hb : ∀ b ∈ base?, b.Delimited) {u : Url}
    (h : r.resolve base? = .ok u) : u.Delimited := by
  unfold resolve at h
  split at h
  · next scheme rest hs => exact delimited_absolute hr hb (hr.front.of_subset (mem_of_scheme? hs)) h
  · cases h
  · simp only at h
    split at h
    · cases h
    · exact delimited_relativeTo hr (hb _ rfl) h

end Reference

theorem delimited_of_parse {t : Text} {base? : Option Url} (hb : ∀ b ∈ base?, b.Delimited) {u : Url}
    (h : parse t base? = .ok u) : u.Delimited := Reference.delimited_resolve (Reference.delimited_ofText t) hb h

end Url

theorem Matcher.delimited_base {o : Options} {m : Matcher} (h : ofOptions o = .ok m) : ∀ b ∈ m.base?, b.Delimited := by
  obtain ⟨base?, hb, rfl⟩ := map_eq_ok.mp h
  rintro base rfl
  cases ho : o.baseUrl? with
  | none =>
    rw [Options.base?_of_none ho] at hb
    cases hb
  | some value =>
    obtain ⟨u, hu, -, he⟩ := (Options.base?_eq_ok ho).mp hb
    cases he
    exact Url.delimited_of_parse (by simp) hu

end LinkPattern
