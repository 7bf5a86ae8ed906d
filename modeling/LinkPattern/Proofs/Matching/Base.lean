import LinkPattern.Options.File
import LinkPattern.Proofs.Bindings.Filters
import LinkPattern.Proofs.Url.Base

/-!
# The base of a matcher

A matcher does not look at its base again: the options were looked at when the matcher was made. So
every matcher has a base that URLs can be relative to, or none when its options give none, and no
URL has a query or a fragment from it.
-/

namespace LinkPattern

/-! ## Failures -/

def MatchError.isMalformed : MatchError → Bool
  | .malformed _ => true
  | _ => false

namespace Bindings

variable {F : Type} (o : Options) (query? : Option Span)

theorem failsOnly_decode (plusAsSpace : Bool) (raw : Text) :
    FailsOnly (·.isMalformed = false) (decode plusAsSpace raw) := .mapError fun _ => rfl

theorem failsOnly_ofCapture (c : Capture F) : FailsOnly (·.isMalformed = false) (ofCapture o query? c) := by
  unfold ofCapture
  split
  · exact .ok none
  · exact .ite (.error rfl) (.map (failsOnly_decode _ _))
  · exact .ite (.ok _) (.map (.mapM (failsOnly_decode _) _))

theorem failsOnly_ofCaptures (captures : List (Capture F)) :
    FailsOnly (·.isMalformed = false) (ofCaptures o query? captures) := by
  induction captures with
  | nil => exact .ok []
  | cons c rest ih => exact .bind (failsOnly_ofCapture o query? c) fun _ => .bind ih fun _ => .ok _

end Bindings

/-! ## Matchers -/

namespace Matcher

variable {m : Matcher}

/-- The matchers there are: the default one, and those for options that are valid. -/
inductive Made : Matcher → Prop
  | default : Made {}
  | ofOptions {o : Options} {m : Matcher} (h : Matcher.ofOptions o = .ok m) : Made m

theorem exists_made_of_ofToml {document : Text} {o : Options} (h : Options.ofToml document = .ok o) :
    ∃ m : Matcher, m.Made ∧ m.options = o := by
  unfold Options.ofToml at h
  split at h
  · cases h
  · split at h
    · next hf =>
      cases h
      obtain ⟨base?, hb⟩ := Options.exists_base?_of_faults hf
      exact ⟨⟨o, base?⟩, .ofOptions (map_eq_ok.mpr ⟨base?, hb, rfl⟩), rfl⟩
    · cases h

theorem Made.base?_of_none (hm : m.Made) (h : m.options.baseUrl? = none) : m.base? = none := by
  cases hm with
  | default => rfl
  | ofOptions ho =>
    obtain ⟨base?, hb, rfl⟩ := map_eq_ok.mp ho
    rw [Options.base?_of_none h] at hb
    cases hb
    rfl

theorem Made.base?_of_some (hm : m.Made) {value : Text} (h : m.options.baseUrl? = some value) :
    ∃ u, Url.parse value none = .ok u ∧ u.IsBase ∧ m.base? = some u := by
  cases hm with
  | default => cases h
  | ofOptions ho =>
    obtain ⟨base?, hb, rfl⟩ := map_eq_ok.mp ho
    exact (Options.base?_eq_ok h).mp hb

theorem Made.isBase (hm : m.Made) : ∀ base ∈ m.base?, base.IsBase := by
  intro base hbase
  cases h : m.options.baseUrl? with
  | none =>
    rw [hm.base?_of_none h] at hbase
    cases hbase
  | some value =>
    obtain ⟨u, -, hu, he⟩ := hm.base?_of_some h
    cases he.symm.trans hbase
    exact hu

variable {F : Type} {p : Pattern F} {url : Text}

theorem bindings_eq_malformed {cause : UrlError} :
    m.bindings p url = .error (.malformed cause) ↔ Url.parse url m.base? = .error cause := by
  refine ⟨fun h => ?_, bindings_of_malformed⟩
  cases hu : Url.parse url m.base? with
  | error cause' =>
    rw [bindings_of_malformed hu] at h
    cases h
    rfl
  | ok u =>
    have hfails : FailsOnly (·.isMalformed = false) (m.bindings p url) := by
      rw [bindings_of_parse hu]
      exact .ite (.error rfl) (.bind (.mapError fun _ => rfl) (Bindings.failsOnly_ofCaptures _ _))
    exact absurd h (hfails.ne (by simp [MatchError.isMalformed]))

/-- Strictness only fails a URL that has a delimiter in its text. -/
theorem bindings_of_not_mem {base? : Option Url} (hb : ∀ base ∈ base?, base.query? = none) (o : Options) (p : Pattern F)
    (hquery : '?' ∉ url) (hfragment : '#' ∉ url) :
    bindings ⟨o, base?⟩ p url = bindings ⟨{ o with strictComponents := false }, base?⟩ p url := by
  cases hu : Url.parse url base? with
  | error cause => rw [bindings_of_malformed hu, bindings_of_malformed hu]
  | ok u =>
    have hopened := Url.opened_of_parse hb hu
    have hq : u.query? = none := Option.not_isSome_iff_eq_none.mp fun h => hquery (hopened.1 h)
    have hf : u.fragment? = none := Option.not_isSome_iff_eq_none.mp fun h => hfragment (hopened.2 h)
    have hleaves : p.leavesOut u = false := by simp [Pattern.leavesOut, hq, hf]
    rw [bindings_of_parse hu, bindings_of_parse hu]
    simp only [hleaves, Bool.and_false, Bool.false_eq_true, ite_false]
    exact congrArg _ (funext (Bindings.ofCaptures_strict o.strictComponents false))

/-- Every matcher has a base exactly when its options give one, and then it is the URL they give, is
not opaque and has neither query nor fragment. So a match never fails for what the base is, and fails
for the lack of one only where the options give none and the URL names no scheme. A URL has a query
or a fragment only if its text has a `?` or `#`, and strictness does not touch other URLs. -/
theorem made_has_base (hm : m.Made) :
    (m.base?.isSome ↔ m.options.baseUrl?.isSome) ∧
    (∀ value ∈ m.options.baseUrl?, ∀ base ∈ m.base?, Url.parse value none = .ok base ∧
      base.isOpaque = false ∧ base.query? = none ∧ base.fragment? = none) ∧
    (∀ (p : Pattern F) url, m.bindings p url ≠ .error (.malformed .relativeWithOpaqueBase) ∧
      (m.bindings p url = .error (.malformed .relativeWithoutBase) ↔
        m.options.baseUrl? = none ∧ Url.scheme? (Url.Reference.ofText url).front = none)) ∧
    (∀ url u, Url.parse url m.base? = .ok u → (u.query?.isSome → '?' ∈ url) ∧ (u.fragment?.isSome → '#' ∈ url)) ∧
    ∀ (p : Pattern F) url, '?' ∉ url → '#' ∉ url →
      m.bindings p url = bindings ⟨{ m.options with strictComponents := false }, m.base?⟩ p url := by
  have hisSome : m.base?.isSome ↔ m.options.baseUrl?.isSome := by
    cases h : m.options.baseUrl? with
    | none => simp [hm.base?_of_none h]
    | some value =>
      obtain ⟨u, -, -, hbase⟩ := hm.base?_of_some h
      simp [hbase]
  have hnone : m.base? = none ↔ m.options.baseUrl? = none := by
    rw [← Option.not_isSome_iff_eq_none, ← Option.not_isSome_iff_eq_none, hisSome]
  have hopaque : ∀ base ∈ m.base?, base.isOpaque = false := fun base hbase => (hm.isBase base hbase).hierarchical
  have hquery : ∀ base ∈ m.base?, base.query? = none := fun base hbase => (hm.isBase base hbase).query
  refine ⟨hisSome, ?_, ?_, fun url u => Url.opened_of_parse hquery, fun p url => bindings_of_not_mem hquery m.options p⟩
  · intro value hvalue base hbase
    obtain ⟨u, hu, hisBase, he⟩ := hm.base?_of_some hvalue
    cases he.symm.trans hbase
    exact ⟨hu, hisBase.hierarchical, hisBase.query, hisBase.fragment⟩
  · intro p url
    rw [Ne, bindings_eq_malformed, bindings_eq_malformed, ← hnone]
    exact ⟨Url.Reference.resolve_ne_relativeWithOpaqueBase hopaque, Url.Reference.resolve_eq_relativeWithoutBase hopaque⟩

theorem made_has_base_relative :
    let base : Url := ⟨"https".toList, false, "/a/b".toList, none, none⟩
    let o : Options := { strictComponents := true, baseUrl? := some "https://example.com/a/b".toList }
    let p : Pattern Text := .of [.literal "/a/".toList, .field "id".toList]
    Matcher.ofOptions o = .ok ⟨o, some base⟩ ∧ Url.parse "https://example.com/a/b".toList none = .ok base ∧
      base.isOpaque = false ∧ bindings ⟨o, some base⟩ p ['?'] ≠ .error (.malformed .relativeWithoutBase) ∧
      bindings ⟨o, some base⟩ p ['c'] = bindings ⟨{ o with strictComponents := false }, some base⟩ p ['c'] ∧
      bindings {} p ['c'] = .error (.malformed .relativeWithoutBase) := by
  intro base o p
  have hmade : Matcher.ofOptions o = .ok ⟨o, some base⟩ := by decide +kernel
  obtain ⟨-, hbase, hreason, -, hstrict⟩ := made_has_base (F := Text) (.ofOptions hmade)
  obtain ⟨-, -, hdefault, -, -⟩ := made_has_base (F := Text) .default
  obtain ⟨hparse, hopaque, -, -⟩ := hbase _ rfl base rfl
  have hwith : bindings ⟨o, some base⟩ p ['?'] ≠ .error (.malformed .relativeWithoutBase) := by
    intro h
    cases ((hreason p ['?']).2.mp h).1
  exact ⟨hmade, hparse, hopaque, hwith, hstrict p ['c'] (by decide) (by decide),
    (hdefault p ['c']).2.mpr ⟨rfl, by decide⟩⟩

end Matcher

end LinkPattern
