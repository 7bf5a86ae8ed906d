import LinkPattern.Matcher
import LinkPattern.Proofs.Results

/-!
# What a match takes

A URL gives values to a pattern's fields when it can be read, has nothing that may not be left out,
aligns with the pattern and has captures that can be bound.
-/

namespace LinkPattern.Matcher

variable {F : Type} {m : Matcher} {p : Pattern F} {url : Text}

theorem bindings_of_malformed {cause : UrlError} (h : Url.parse url m.base? = .error cause) :
    m.bindings p url = .error (.malformed cause) := by
  unfold bindings
  rw [h]
  rfl

theorem bindings_of_parse {u : Url} (h : Url.parse url m.base? = .ok u) :
    m.bindings p url =
      if (m.options.strictComponents && p.leavesOut u) = true then .error .noMatch
      else (align p.segments (u.subject p.addressesQuery p.addressesFragment).text u.escaping).mapError
          (fun _ => .noMatch) >>=
        Bindings.ofCaptures m.options (u.subject p.addressesQuery p.addressesFragment).query? := by
  unfold bindings
  rw [h]
  rfl

/-- What is bound and how does not matter before there are captures. -/
theorem bindings_eq_ofCaptures (base? : Option Url) (strict : Bool) (p : Pattern F) (url : Text) :
    (∃ e, ∀ o : Options, o.strictComponents = strict → bindings ⟨o, base?⟩ p url = .error e) ∨
    ∃ query? captures, ∀ o : Options, o.strictComponents = strict →
      bindings ⟨o, base?⟩ p url = Bindings.ofCaptures o query? captures := by
  cases hu : Url.parse url base? with
  | error cause => exact .inl ⟨.malformed cause, fun o _ => bindings_of_malformed hu⟩
  | ok u =>
    by_cases hs : (strict && p.leavesOut u) = true
    · refine .inl ⟨.noMatch, fun o ho => ?_⟩
      rw [bindings_of_parse hu, ho, if_pos hs]
    · cases hc : align p.segments (u.subject p.addressesQuery p.addressesFragment).text u.escaping with
      | error mismatch =>
        refine .inl ⟨.noMatch, fun o ho => ?_⟩
        rw [bindings_of_parse hu, ho, if_neg hs, hc]
        rfl
      | ok captures =>
        refine .inr ⟨(u.subject p.addressesQuery p.addressesFragment).query?, captures, fun o ho => ?_⟩
        rw [bindings_of_parse hu, ho, if_neg hs, hc]
        rfl

theorem bindings_eq_ok {bs : Bindings F} :
    m.bindings p url = .ok bs ↔ ∃ u captures, Url.parse url m.base? = .ok u ∧
      (m.options.strictComponents && p.leavesOut u) = false ∧
      align p.segments (u.subject p.addressesQuery p.addressesFragment).text u.escaping = .ok captures ∧
      Bindings.ofCaptures m.options (u.subject p.addressesQuery p.addressesFragment).query? captures = .ok bs := by
  constructor
  · intro h
    obtain ⟨u, hu, h⟩ := bind_eq_ok.mp h
    simp only at h
    split at h
    · cases h
    · next hs =>
      obtain ⟨captures, hc, h⟩ := bind_eq_ok.mp h
      exact ⟨u, captures, mapError_eq_ok.mp hu, by simpa using hs, mapError_eq_ok.mp hc, h⟩
  · rintro ⟨u, captures, hu, hs, hc, hb⟩
    refine bind_eq_ok.mpr ⟨u, mapError_eq_ok.mpr hu, ?_⟩
    simp only [hs, Bool.false_eq_true, ite_false]
    exact bind_eq_ok.mpr ⟨captures, mapError_eq_ok.mpr hc, hb⟩

def Captured (m : Matcher) (p : Pattern F) (url : Text) (captures : List (Capture F)) : Prop :=
  ∃ u, Url.parse url m.base? = .ok u ∧
    align p.segments (u.subject p.addressesQuery p.addressesFragment).text u.escaping = .ok captures

theorem Captured.unique {captures captures' : List (Capture F)} (h : m.Captured p url captures)
    (h' : m.Captured p url captures') : captures = captures' := by
  obtain ⟨u, hu, hc⟩ := h
  obtain ⟨u', hu', hc'⟩ := h'
  rw [hu] at hu'
  cases hu'
  rw [hc] at hc'
  cases hc'
  rfl

theorem exists_captured {bs : Bindings F} (h : m.bindings p url = .ok bs) :
    ∃ captures query?, m.Captured p url captures ∧ Bindings.ofCaptures m.options query? captures = .ok bs := by
  obtain ⟨u, captures, hu, -, hc, hb⟩ := bindings_eq_ok.mp h
  exact ⟨captures, _, ⟨u, hu, hc⟩, hb⟩

end LinkPattern.Matcher
