import LinkPattern.Proofs.Url.Delimiters
import LinkPattern.Proofs.Url.Dots
import Mathlib.Data.List.Basic

/-!
# URLs at a site

Behind a scheme and a host, a text that begins with a slash is read part by part: what stands before
the first delimiter is the path, then come query and fragment, and each of them is what was written
with some characters escaped. Dot segments apart, no segment of the path goes away.
-/

namespace LinkPattern.Url

open Percent

theorem significant_eq_self {t : Text} (h : ∀ x ∈ t, isIgnored x = false) : significant t = t :=
  List.filter_eq_self.mpr fun x hx => by simp [h x hx]

theorem isIgnored_of_visible {x : Char} (h : 0x20 < x.toNat) : isIgnored x = false := by
  have hne : ∀ y : Char, y.toNat ≤ 0x20 → x ≠ y := by
    rintro y hy rfl
    omega
  simp [isIgnored, hne '\t' (by decide), hne '\n' (by decide), hne '\r' (by decide)]

/-! ## Paths -/

namespace Path

def slashed (kind : SchemeKind) (t : Text) : Text := t.map fun c => if Authority.isSlash kind c then '/' else c

theorem slashed_eq_self {kind : SchemeKind} {t : Text} (h : '\\' ∉ t) : slashed kind t = t := by
  refine (List.map_congr_left fun c hc => ?_).trans (List.map_id' t)
  have hb : c ≠ '\\' := fun e => h (e ▸ hc)
  by_cases hs : c = '/' <;> simp [Authority.isSlash, hb, hs]

theorem isIgnored_of_mem_slashed {kind : SchemeKind} {t : Text} (h : ∀ x ∈ t, isIgnored x = false) :
    ∀ x ∈ slashed kind t, isIgnored x = false := by
  intro x hx
  obtain ⟨c, hc, rfl⟩ := List.mem_map.mp hx
  split
  · decide
  · exact h c hc

def Undotted (kind : SchemeKind) (path : Text) : Prop :=
  ∀ s ∈ Text.splitOn '/' (slashed kind path), isDot s = false ∧ isDoubleDot s = false

instance (kind : SchemeKind) (path : Text) : Decidable (Undotted kind path) := List.decidableBAll _ _

theorem escape_join {set : EscapeSet} (h : set '/' = false) (segments : List Text) :
    escape set (Text.join '/' segments) = Text.join '/' (segments.map (escape set)) := by
  induction segments with
  | nil => rfl
  | cons segment rest ih =>
    cases rest with
    | nil => rfl
    | cons next rest =>
      rw [Text.join_cons (by simp), escape_append, escape, escape, List.flatMap_cons, escapeChar_eq_self (by decide) h]
      simp only [List.map_cons, Text.join] at ih ⊢
      rw [← ih]
      rfl

structure IsKept (segment : Text) : Prop where
  significant : ∀ x ∈ segment, isIgnored x = false
  noDot : isDot segment = false
  noDoubleDot : isDoubleDot segment = false

section
variable {kind : SchemeKind} (hk : kind ≠ .file)
include hk

theorem add_of_isKept {segment : Text} (h : IsKept segment) (path : Text) (more : Bool) :
    add kind path segment more = path ++ escape EscapeSet.path segment ++ if more then ['/'] else [] := by
  simp only [add, addPlain, hk, false_and, ite_false, significant_eq_self h.significant, isDot_escape, h.noDot,
    isDoubleDot_escape, h.noDoubleDot, Bool.false_eq_true]
  split <;> rfl

theorem addAll_of_isKept {segments : List Text} (h : ∀ s ∈ segments, IsKept s) (path : Text) :
    addAll kind path segments = path ++ Text.join '/' (segments.map (escape EscapeSet.path)) := by
  induction segments generalizing path with
  | nil => simp [addAll, Text.join]
  | cons segment rest ih =>
    cases rest with
    | nil => simp [addAll, Text.join, add_of_isKept hk (h segment (by simp))]
    | cons next rest =>
      rw [addAll, add_of_isKept hk (h segment (by simp)), ih fun s hs => h s (List.mem_cons_of_mem _ hs)]
      · simp [Text.join]
      · simp

theorem extend_of_undotted {t : Text} (ht : ∀ x ∈ t, isIgnored x = false) (h : Undotted kind t) (path : Text) :
    extend kind path t = path ++ escape EscapeSet.path (slashed kind t) := by
  have hkept : ∀ s ∈ Text.splitOn '/' (slashed kind t), IsKept s := fun s hs =>
    { significant := fun x hx => isIgnored_of_mem_slashed ht x (Text.mem_of_mem_splitOn hs hx)
      noDot := (h s hs).1
      noDoubleDot := (h s hs).2 }
  have hall := addAll_of_isKept hk hkept path
  rw [← escape_join (by decide), Text.join_splitOn] at hall
  simp only [extend, hk, ite_false]
  exact hall

end

end Path

/-! ## References -/

theorem trim_eq_self {t : Text} (hhead : ∀ x ∈ t.head?, 0x20 < x.toNat) (hlast : ∀ x ∈ t.getLast?, 0x20 < x.toNat) :
    trim t = t := by
  have hdrop : ∀ s : Text, (∀ x ∈ s.head?, 0x20 < x.toNat) → s.dropWhile (·.toNat ≤ 0x20) = s := by
    intro s hs
    cases s with
    | nil => rfl
    | cons x s =>
      have := hs x rfl
      rw [List.dropWhile_cons_of_neg]
      simpa using this
  rw [trim, hdrop t hhead, hdrop t.reverse (by simpa using hlast), List.reverse_reverse]

/-- What may stand behind a site: nothing in it is skipped, neither at its end nor anywhere. -/
structure IsTail (t : Text) : Prop where
  absolute : t.head? = some '/'
  significant : ∀ x ∈ t, isIgnored x = false
  visible : ∀ x ∈ t.getLast?, 0x20 < x.toNat

namespace IsTail

variable {t : Text}

theorem front (h : IsTail t) : ∃ rest, frontOf t = '/' :: rest ∧ ∀ x ∈ frontOf t, isIgnored x = false := by
  obtain ⟨rest, rfl⟩ := List.head?_eq_some_iff.mp h.absolute
  have h1 : '#' ∉ ['/'] := by decide
  have h2 : '?' ∉ ['/'] := by decide
  refine ⟨frontOf rest, ?_, fun x hx => h.significant x (mem_of_mem_frontOf hx)⟩
  show (cutOff '?' (cutOff '#' (['/'] ++ rest)).1).1 = _
  rw [cutOff_append h1, cutOff_append h2]
  rfl

theorem significant_query (h : IsTail t) : (queryOf? t).map Url.significant = queryOf? t := by
  refine (Option.map_congr fun q hq => ?_).trans Option.map_id'
  exact significant_eq_self fun x hx => h.significant x ((cutOff_fst t).2 x (cutOff_snd hq x hx))

theorem significant_fragment (h : IsTail t) : (fragmentOf? t).map Url.significant = fragmentOf? t := by
  refine (Option.map_congr fun f hf => ?_).trans Option.map_id'
  exact significant_eq_self fun x hx => h.significant x (cutOff_snd hf x hx)

end IsTail

/-! ## Sites -/

def isUnmarked (c : Char) : Bool := 0x20 < c.toNat && !"/\\?#@".toList.contains c

/-- A scheme and a host as they stand in front of a path, in their normal forms. -/
structure Site where
  scheme : Text
  host : Text
  reads : ∀ t, scheme? (scheme ++ ':' :: t) = some (scheme, t)
  noFile : kindOf scheme ≠ .file
  nonempty : host ≠ []
  accepted : Authority.skipHost (kindOf scheme) false host = .ok []
  unmarked : (scheme ++ host).all isUnmarked = true

namespace Site

variable (site : Site) {t : Text}

theorem of_mem {x : Char} (hx : x ∈ site.scheme ++ site.host) : 0x20 < x.toNat ∧ x ∉ "/\\?#@".toList := by
  have h := List.all_eq_true.mp site.unmarked x hx
  simpa [isUnmarked] using h

def kind : SchemeKind := kindOf site.scheme

theorem kind_ne_file : site.kind ≠ .file := site.noFile

def text : Text := site.scheme ++ "://".toList ++ site.host

theorem mem_text {x : Char} (hx : x ∈ site.text) : 0x20 < x.toNat ∧ x ≠ '?' ∧ x ≠ '#' := by
  have hmarks : "://".toList.all (fun x => 0x20 < x.toNat && x ≠ '?' && x ≠ '#') = true := by decide
  have hpart : x ∈ site.scheme ++ site.host ∨ x ∈ "://".toList := by
    simp only [text, List.mem_append] at hx ⊢
    tauto
  rcases hpart with hx | hx
  · obtain ⟨hvisible, hmark⟩ := site.of_mem hx
    exact ⟨hvisible, fun e => hmark (e ▸ by decide), fun e => hmark (e ▸ by decide)⟩
  · simpa [and_assoc] using List.all_eq_true.mp hmarks x hx

theorem ofText (h : IsTail t) :
    Reference.ofText (site.text ++ t) = ⟨site.text ++ frontOf t, queryOf? t, fragmentOf? t⟩ := by
  have h1 : '#' ∉ site.text := fun hx => (site.mem_text hx).2.2 rfl
  have h2 : '?' ∉ site.text := fun hx => (site.mem_text hx).2.1 rfl
  have htrim : trim (site.text ++ t) = site.text ++ t := by
    refine trim_eq_self (fun x hx => ?_) (fun x hx => ?_)
    · rw [List.head?_append_of_ne_nil _ (by simp [text])] at hx
      exact (site.mem_text (List.mem_of_mem_head? hx)).1
    · have ht : t ≠ [] := by
        rintro rfl
        cases h.absolute
      rw [List.getLast?_append_of_ne_nil _ ht] at hx
      exact h.visible x hx
  simp only [Reference.ofText, htrim, cutOff_append h1, cutOff_append h2]
  show Reference.mk _ ((queryOf? t).map significant) ((fragmentOf? t).map significant) = _
  rw [h.significant_query, h.significant_fragment]
  rfl

theorem scheme?_text (t : Text) : scheme? (site.text ++ t) = some (site.scheme, "//".toList ++ site.host ++ t) := by
  have h : site.text ++ t = site.scheme ++ ':' :: ("//".toList ++ site.host ++ t) := by simp [text]
  rw [h, site.reads]

theorem not_slash {x : Char} (hx : x ∈ site.host) : x ≠ '/' ∧ x ≠ '\\' := by
  have h := (site.of_mem (List.mem_append_right _ hx)).2
  exact ⟨fun e => h (e ▸ by decide), fun e => h (e ▸ by decide)⟩

theorem skip (h : t.head? = some '/') (more : Bool) : Authority.skip site.kind more (site.host ++ t) = .ok t := by
  have hhost : ∀ x ∈ site.host, (!Authority.isSlash site.kind x) = true := fun x hx => by
    simp [Authority.isSlash, site.not_slash hx]
  have huser : Authority.userInfo? site.host = none := by
    have hat : '@' ∉ site.host.reverse := fun hx =>
      (site.of_mem (List.mem_append_right _ (List.mem_reverse.mp hx))).2 (by decide)
    rw [Authority.userInfo?, Text.cut_eq_none.mpr hat]
    rfl
  obtain ⟨rest, rfl⟩ := List.head?_eq_some_iff.mp h
  have htake : (site.host ++ '/' :: rest).takeWhile (!Authority.isSlash site.kind ·) = site.host := by
    rw [List.takeWhile_append_of_pos hhost]
    simp [Authority.isSlash]
  have hdrop : (site.host ++ '/' :: rest).dropWhile (!Authority.isSlash site.kind ·) = '/' :: rest := by
    rw [List.dropWhile_append_of_pos hhost]
    simp [Authority.isSlash]
  have haccepted : Authority.skipHost site.kind false site.host = .ok [] := site.accepted
  simp only [Authority.skip, htake, hdrop, huser, haccepted]
  rfl

theorem afterAuthority {rest : Text} (hsig : ∀ x ∈ rest, isIgnored x = false)
    (hdot : Path.Undotted site.kind ('/' :: rest)) :
    Path.afterAuthority site.kind ('/' :: rest) = escape EscapeSet.path (Path.slashed site.kind ('/' :: rest)) := by
  have hslashed : Path.slashed site.kind ('/' :: rest) = '/' :: Path.slashed site.kind rest := by
    simp [Path.slashed, Authority.isSlash]
  have hrest : Path.Undotted site.kind rest := by
    intro s hs
    refine hdot s ?_
    rw [hslashed, Text.splitOn, if_pos rfl]
    exact List.mem_cons_of_mem _ hs
  have hextend : Path.afterAuthority site.kind ('/' :: rest) = Path.extend site.kind ['/'] rest := by
    simp [Path.afterAuthority, Authority.isSlash]
  rw [hextend, Path.extend_of_undotted site.kind_ne_file hsig hrest, hslashed]
  rfl

theorem ownPath (r : Reference) {path rest : Text} (hpath : path = '/' :: rest)
    (hsig : ∀ x ∈ path, isIgnored x = false) (hdot : Path.Undotted site.kind path) :
    r.ownPath site.kind ("//".toList ++ site.host ++ path) =
      .ok (false, escape EscapeSet.path (Path.slashed site.kind path)) := by
  have hall : significant ("//".toList ++ site.host ++ path) = '/' :: '/' :: (site.host ++ path) := by
    refine significant_eq_self fun x hx => ?_
    simp only [List.append_assoc, List.mem_append] at hx
    rcases hx with hx | hx | hx
    · have hslashes : "//".toList.all (isIgnored · = false) = true := by decide
      simpa using List.all_eq_true.mp hslashes x hx
    · exact isIgnored_of_visible (site.of_mem (List.mem_append_right _ hx)).1
    · exact hsig x hx
  have hskip : r.pathAfterAuthority site.kind (site.host ++ path) =
      .ok (escape EscapeSet.path (Path.slashed site.kind path)) := by
    subst hpath
    rw [Reference.pathAfterAuthority, site.skip rfl,
      ← site.afterAuthority (fun x hx => hsig x (List.mem_cons_of_mem _ hx)) hdot]
    rfl
  have hdrop : ('/' :: '/' :: (site.host ++ path)).dropWhile isAnySlash = site.host ++ path := by
    obtain ⟨c, host, hhost⟩ := List.exists_cons_of_ne_nil site.nonempty
    have hc := site.not_slash (x := c) (by simp [hhost])
    simp [hhost, isAnySlash, hc]
  -- the two kinds take the slashes off in different ways
  unfold Reference.ownPath
  rw [hall]
  cases hk : site.kind with
  | file => exact absurd hk site.kind_ne_file
  | special =>
    rw [hk] at hskip
    simp only [hdrop, hskip]
    rfl
  | other =>
    rw [hk] at hskip
    simp only [hskip]
    rfl

end Site

def Site.url (site : Site) (t : Text) : Url where
  scheme := site.scheme
  isOpaque := false
  path := escape EscapeSet.path (Path.slashed site.kind (frontOf t))
  query? := (queryOf? t).map (escapeQuery site.kind)
  fragment? := (fragmentOf? t).map (escape EscapeSet.fragment)

theorem Site.staysRelative (site : Site) (base : Url) (t : Text) :
    Url.staysRelative base site.scheme ("//".toList ++ t) = false := by
  by_cases hs : base.scheme = site.scheme
  · have hkind : base.kind = site.kind := congrArg kindOf hs
    have htwo : ¬ ((significant ("//".toList ++ t)).takeWhile isAnySlash).length < 2 := by
      rw [show significant ("//".toList ++ t) = '/' :: '/' :: significant t from rfl]
      simp [isAnySlash]
    cases hk : site.kind with
    | file => exact absurd hk site.kind_ne_file
    | special => simp only [Url.staysRelative, hkind, hk, htwo, decide_false, Bool.and_false]
    | other => simp only [Url.staysRelative, hkind, hk, Bool.and_false]
  · simp only [Url.staysRelative, hs, decide_false, Bool.false_and]

theorem Site.parse_of_undotted (site : Site) {t : Text} (ht : IsTail t) (hdot : Path.Undotted site.kind (frontOf t))
    (base? : Option Url) : parse (site.text ++ t) base? = .ok (site.url t) := by
  obtain ⟨rest, hfront, hsig⟩ := ht.front
  have hown := fun r : Reference => site.ownPath r hfront hsig hdot
  have hbase : base?.filter (Url.staysRelative · site.scheme ("//".toList ++ site.host ++ frontOf t)) = none := by
    rw [Option.filter_eq_none_iff]
    intro base _
    rw [List.append_assoc, site.staysRelative]
    exact Bool.false_ne_true
  have hresolve : ∀ r : Reference, r.front = site.text ++ frontOf t →
      r.resolve base? = .ok (r.withPath site.scheme false (site.url t).path) := by
    intro r hr
    unfold Reference.resolve
    rw [hr, site.scheme?_text]
    have hkind : kindOf site.scheme = site.kind := rfl
    simp only [Reference.absolute, hbase, hkind, hown]
    rfl
  unfold parse
  rw [site.ofText ht, hresolve _ rfl]
  rfl

/-! ## Two sites -/

theorem scheme?_append {c : Char} {scheme : Text} (hc : c.isAlpha = true) (hcolon : ':' ∉ c :: scheme)
    (hscheme : scheme.all (fun x => x.isAlphanum || x = '+' || x = '-' || x = '.') = true)
    (hlower : (c :: scheme).map Char.toLower = c :: scheme) (hsig : significant (c :: scheme) = c :: scheme) (t : Text) :
    scheme? ((c :: scheme) ++ ':' :: t) = some (c :: scheme, t) := by
  unfold scheme?
  rw [Text.cut_append_cons _ hcolon]
  simp only [Option.map_some, hsig, hc, hscheme, hlower, and_self, ite_true]

def Site.example : Site where
  scheme := "https".toList
  host := "example.com".toList
  reads := scheme?_append rfl (by decide) (by decide) (by decide) (by decide)
  noFile := by decide
  nonempty := by decide
  accepted := by decide +kernel
  unmarked := by decide

def Site.shop : Site where
  scheme := "app".toList
  host := "shop".toList
  reads := scheme?_append rfl (by decide) (by decide) (by decide) (by decide)
  noFile := by decide
  nonempty := by decide
  accepted := by decide +kernel
  unmarked := by decide

/-! ## Plain URLs

Plain characters stand for themselves in every part of a URL that they do not end. A URL that is
plain behind its host, and has no dot segment in its path, is read as it is written. -/

def isPlain (c : Char) : Bool := c.isAlphanum || "/=&?#-%,;".toList.contains c

def Plain (t : Text) : Prop := ∀ x ∈ t, isPlain x = true

theorem toNat_lt_of_isAlphanum {c : Char} (h : c.isAlphanum = true) : c.toNat < 128 := by
  have hle : ∀ {b : UInt32}, c.val ≤ b → b.toNat < 128 → c.toNat < 128 := fun h hb =>
    Nat.lt_of_le_of_lt (UInt32.le_iff_toNat_le.mp h) hb
  rcases Bool.or_eq_true_iff.mp h with h | h
  · rcases Bool.or_eq_true_iff.mp h with h | h
    · exact hle (of_decide_eq_true (p := _ ∧ c.val ≤ 'Z'.val) h).2 (by decide)
    · exact hle (b := 'z'.val) (of_decide_eq_true (Bool.and_eq_true_iff.mp h).2) (by decide)
  · exact hle (b := '9'.val) (of_decide_eq_true (Bool.and_eq_true_iff.mp h).2) (by decide)

theorem toNat_lt_of_isPlain {c : Char} (h : isPlain c = true) : c.toNat < 128 := by
  rcases Bool.or_eq_true_iff.mp h with h | h
  · exact toNat_lt_of_isAlphanum h
  · have hall : "/=&?#-%,;".toList.all (·.toNat < 128) = true := by decide
    simpa using List.all_eq_true.mp hall c (List.contains_iff_mem.mp h)

structure Unchanged (c : Char) : Prop where
  visible : 0x20 < c.toNat
  ascii : c.toNat < 0x80
  significant : isIgnored c = false
  noBackslash : c ≠ '\\'
  fragment : EscapeSet.fragment c = false
  query : c ≠ '#' → EscapeSet.specialQuery c = false
  path : c ≠ '?' → c ≠ '#' → EscapeSet.path c = false

theorem unchanged_of_isPlain {c : Char} (h : isPlain c = true) : Unchanged c := by
  have hlt := toNat_lt_of_isPlain h
  obtain ⟨h1, h2, h3, h4, h5, h6⟩ := Text.forall_ascii (P := fun c => isPlain c = true →
    0x20 < c.toNat ∧ isIgnored c = false ∧ c ≠ '\\' ∧ EscapeSet.fragment c = false ∧
      (c ≠ '#' → EscapeSet.specialQuery c = false) ∧ (c ≠ '?' → c ≠ '#' → EscapeSet.path c = false))
    (by decide) hlt h
  exact ⟨h1, hlt, h2, h3, h4, h5, h6⟩

namespace Plain

variable {t : Text}

theorem slashed (h : Plain t) (kind : SchemeKind) : Path.slashed kind t = t :=
  Path.slashed_eq_self fun hm => (unchanged_of_isPlain (h _ hm)).noBackslash rfl

theorem escape_path (h : Plain t) (hu : Undelimited t) : escape EscapeSet.path t = t :=
  escape_eq_self fun x hx =>
    have hc := unchanged_of_isPlain (h x hx)
    ⟨hc.ascii, hc.path (hu x hx).1 (hu x hx).2⟩

theorem escape_query (h : Plain t) (hq : '#' ∉ t) : escape EscapeSet.specialQuery t = t :=
  escape_eq_self fun x hx =>
    have hc := unchanged_of_isPlain (h x hx)
    ⟨hc.ascii, hc.query fun e => hq (e ▸ hx)⟩

theorem escape_fragment (h : Plain t) : escape EscapeSet.fragment t = t :=
  escape_eq_self fun x hx =>
    have hc := unchanged_of_isPlain (h x hx)
    ⟨hc.ascii, hc.fragment⟩

theorem frontOf (h : Plain t) : Plain (frontOf t) := fun x hx => h x (mem_of_mem_frontOf hx)

theorem queryOf? (h : Plain t) {q : Text} (hq : queryOf? t = some q) : Plain q := fun x hx =>
  h x ((cutOff_fst t).2 x (cutOff_snd hq x hx))

theorem fragmentOf? (h : Plain t) {f : Text} (hf : fragmentOf? t = some f) : Plain f := fun x hx =>
  h x (cutOff_snd hf x hx)

end Plain

theorem parse_of_plain {t : Text} (ht : Plain t) (hhead : t.head? = some '/')
    (hdot : ∀ s ∈ Text.splitOn '/' (frontOf t), Path.isDot s = false ∧ Path.isDoubleDot s = false) :
    parse ("https://example.com".toList ++ t) none =
      .ok { scheme := "https".toList, isOpaque := false, path := frontOf t, query? := queryOf? t,
            fragment? := fragmentOf? t } := by
  have htail : IsTail t :=
    { absolute := hhead
      significant := fun x hx => (unchanged_of_isPlain (ht x hx)).significant
      visible := fun x hx => (unchanged_of_isPlain (ht x (List.mem_of_mem_getLast? hx))).visible }
  have hslashed : Path.slashed .special (frontOf t) = frontOf t := ht.frontOf.slashed .special
  have hpath : escape EscapeSet.path (frontOf t) = frontOf t := ht.frontOf.escape_path (undelimited_frontOf t)
  have hquery : (queryOf? t).map (escapeQuery .special) = queryOf? t :=
    (Option.map_congr fun q hq => (ht.queryOf? hq).escape_query (not_mem_queryOf? hq)).trans Option.map_id'
  have hfragment : (fragmentOf? t).map (escape EscapeSet.fragment) = fragmentOf? t :=
    (Option.map_congr fun f hf => (ht.fragmentOf? hf).escape_fragment).trans Option.map_id'
  have hparse := Site.example.parse_of_undotted htail (fun s hs => hdot s (hslashed ▸ hs)) none
  have hkind : Site.example.kind = .special := by decide
  rw [Site.url, hkind, hslashed, hpath, hquery, hfragment] at hparse
  exact hparse

end LinkPattern.Url
