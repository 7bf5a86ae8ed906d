import LinkPattern.Options

/-!
# Options that are valid

Options are valid when they give no base URL, or one that other URLs can be relative to without a
query or a fragment from it.
-/

namespace LinkPattern

structure Url.IsBase (u : Url) : Prop where
  hierarchical : u.isOpaque = false
  query : u.query? = none
  fragment : u.fragment? = none

namespace Options

variable {o : Options} {base? : Option Url}

theorem baseFaults_eq_nil {value : Text} {u : Url} : baseFaults value u = [] ↔ u.IsBase := by
  have h : baseFaults value u = [] ↔ u.isOpaque = false ∧ u.query? = none ∧ u.fragment? = none := by
    simp [baseFaults]
  rw [h]
  exact ⟨fun ⟨h1, h2, h3⟩ => ⟨h1, h2, h3⟩, fun hu => ⟨hu.hierarchical, hu.query, hu.fragment⟩⟩

theorem base?_of_none (h : o.baseUrl? = none) : o.base? = .ok none := by
  unfold Options.base?
  rw [h]

theorem base?_eq_ok {value : Text} (h : o.baseUrl? = some value) :
    o.base? = .ok base? ↔ ∃ u, Url.parse value none = .ok u ∧ u.IsBase ∧ base? = some u := by
  unfold Options.base?
  rw [h]
  simp only
  cases Url.parse value none with
  | error cause =>
    constructor
    · intro hb
      cases hb
    · intro ⟨u, hu, _⟩
      cases hu
  | ok u =>
    simp only
    cases hf : baseFaults value u with
    | nil =>
      constructor
      · intro hb
        cases hb
        exact ⟨u, rfl, baseFaults_eq_nil.mp hf, rfl⟩
      · rintro ⟨_, ⟨⟩, -, rfl⟩
        rfl
    | cons fault rest =>
      constructor
      · intro hb
        cases hb
      · rintro ⟨_, ⟨⟩, hu, -⟩
        rw [baseFaults_eq_nil.mpr hu] at hf
        cases hf

theorem exists_base?_of_faults (h : o.faults = []) : ∃ base?, o.base? = .ok base? := by
  unfold faults at h
  cases hb : o.base? with
  | ok base? => exact ⟨base?, rfl⟩
  | error fs =>
    rw [hb] at h
    simp only at h
    subst h
    -- there is a reason whenever there is no base
    unfold Options.base? at hb
    split at hb
    · cases hb
    · split at hb
      · cases hb
      · split at hb
        · cases hb
        · next hne => exact (hne (Except.error.inj hb)).elim

end Options

end LinkPattern
