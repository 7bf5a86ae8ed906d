import Mathlib.Data.List.Forall2

/-!
# Results of steps

Steps in `Except` that give a result together have each given one, and where they fail, one of them
does. Two runs agree when they end with one error or with results that are related, and they do so
when their steps do.
-/

namespace LinkPattern

variable {ε ε' α β : Type} {x : Except ε α}

theorem bind_eq_ok {f : α → Except ε β} {b : β} : x >>= f = .ok b ↔ ∃ a, x = .ok a ∧ f a = .ok b := by
  cases x with
  | error e =>
    constructor
    · intro h; cases h
    · rintro ⟨a, h, -⟩; cases h
  | ok a =>
    constructor
    · intro h; exact ⟨a, rfl, h⟩
    · rintro ⟨a', h, hb⟩; cases h; exact hb

theorem map_eq_ok {f : α → β} {b : β} : x.map f = .ok b ↔ ∃ a, x = .ok a ∧ f a = b := by
  cases x with
  | error e =>
    constructor
    · intro h; cases h
    · rintro ⟨a, h, -⟩; cases h
  | ok a =>
    constructor
    · intro h; cases h; exact ⟨a, rfl, rfl⟩
    · rintro ⟨a', h, hb⟩; cases h; cases hb; rfl

theorem mapError_eq_ok {g : ε → ε'} {a : α} : x.mapError g = .ok a ↔ x = .ok a := by
  cases x with
  | error e =>
    constructor
    · intro h; cases h
    · intro h; cases h
  | ok a' =>
    constructor
    · intro h; cases h; rfl
    · intro h; cases h; rfl

theorem map_eq_error {f : α → β} {e : ε} : x.map f = .error e ↔ x = .error e := by
  cases x with
  | error e' =>
    constructor
    · intro h; cases h; rfl
    · intro h; cases h; rfl
  | ok a =>
    constructor
    · intro h; cases h
    · intro h; cases h

theorem mapError_eq_error {g : ε → ε'} {e' : ε'} :
    x.mapError g = .error e' ↔ ∃ e, x = .error e ∧ g e = e' := by
  cases x with
  | error e =>
    constructor
    · intro h; cases h; exact ⟨e, rfl, rfl⟩
    · intro ⟨_, h, he⟩; cases h; cases he; rfl
  | ok a =>
    constructor
    · intro h; cases h
    · intro ⟨_, h, _⟩; cases h

theorem mapM_eq_ok {f : α → Except ε β} {xs : List α} {ys : List β} :
    xs.mapM f = .ok ys ↔ List.Forall₂ (fun x y => f x = .ok y) xs ys := by
  induction xs generalizing ys with
  | nil =>
    rw [List.mapM_nil, List.forall₂_nil_left_iff]
    constructor
    · intro h; cases h; rfl
    · intro h; rw [h]; rfl
  | cons x xs ih =>
    rw [List.mapM_cons, bind_eq_ok, List.forall₂_cons_left_iff]
    constructor
    · intro ⟨y, hy, h⟩
      obtain ⟨ys, hys, h⟩ := bind_eq_ok.mp h
      cases h
      exact ⟨y, ys, hy, ih.mp hys, rfl⟩
    · intro ⟨y, ys, hy, hys, h⟩
      subst h
      exact ⟨y, hy, bind_eq_ok.mpr ⟨ys, ih.mpr hys, rfl⟩⟩

theorem exists_mapM_eq_error {f : α → Except ε β} {xs : List α} :
    (∃ e, xs.mapM f = .error e) ↔ ∃ x ∈ xs, ∃ e, f x = .error e := by
  induction xs with
  | nil =>
    constructor
    · intro ⟨e, h⟩; cases h
    · intro ⟨x, hx, _⟩; cases hx
  | cons x xs ih =>
    rw [List.mapM_cons, List.exists_mem_cons_iff, ← ih]
    cases f x with
    | error e =>
      constructor
      · intro _; exact .inl ⟨e, rfl⟩
      · intro _; exact ⟨e, rfl⟩
    | ok y =>
      cases xs.mapM f with
      | error e =>
        constructor
        · intro _; exact .inr ⟨e, rfl⟩
        · intro _; exact ⟨e, rfl⟩
      | ok ys =>
        constructor
        · intro ⟨e, h⟩; cases h
        · rintro (⟨e, h⟩ | ⟨e, h⟩) <;> cases h

theorem exists_rel_of_mem {r : α → β → Prop} {xs : List α} {ys : List β} (h : List.Forall₂ r xs ys) {y : β} (hy : y ∈ ys) :
    ∃ x ∈ xs, r x y := by
  induction h with
  | nil => cases hy
  | cons hr _ ih =>
    rcases List.mem_cons.mp hy with e | hm
    · exact ⟨_, by simp, e ▸ hr⟩
    · obtain ⟨x, hx, hxy⟩ := ih hm
      exact ⟨x, List.mem_cons_of_mem _ hx, hxy⟩

theorem map_eq_map {γ : Type} {r : α → β → Prop} {f : α → γ} {g : β → γ} {xs : List α} {ys : List β}
    (h : List.Forall₂ r xs ys) (hr : ∀ x y, r x y → f x = g y) : xs.map f = ys.map g := by
  induction h with
  | nil => rfl
  | cons hxy _ ih => rw [List.map_cons, List.map_cons, hr _ _ hxy, ih]

/-! ## Failures -/

def FailsOnly (q : ε → Prop) (x : Except ε α) : Prop := ∀ e, x = .error e → q e

namespace FailsOnly

variable {q : ε → Prop} {y : Except ε α}

theorem ok (a : α) : FailsOnly q (.ok a) := by
  intro e h
  cases h

theorem error {e : ε} (h : q e) : FailsOnly q (.error e : Except ε α) := by
  intro e' he
  cases he
  exact h

theorem ne (hx : FailsOnly q x) {e : ε} (h : ¬ q e) : x ≠ .error e := fun he => h (hx e he)

theorem bind {f : α → Except ε β} (hx : FailsOnly q x) (hf : ∀ a, FailsOnly q (f a)) : FailsOnly q (x >>= f) := by
  cases x with
  | error e => exact .error (hx e rfl)
  | ok a => exact hf a

theorem map {f : α → β} (hx : FailsOnly q x) : FailsOnly q (x.map f) := by
  intro e h
  exact hx e (map_eq_error.mp h)

theorem mapError {q : ε' → Prop} {g : ε → ε'} (h : ∀ e, q (g e)) : FailsOnly q (x.mapError g) := by
  intro e' he
  obtain ⟨e, -, rfl⟩ := mapError_eq_error.mp he
  exact h e

theorem ite {c : Prop} [Decidable c] (hx : FailsOnly q x) (hy : FailsOnly q y) : FailsOnly q (if c then x else y) := by
  by_cases h : c
  · rwa [if_pos h]
  · rwa [if_neg h]

theorem mapM {f : β → Except ε α} (h : ∀ b, FailsOnly q (f b)) (bs : List β) : FailsOnly q (bs.mapM f) := by
  induction bs with
  | nil => exact .ok []
  | cons b bs ih =>
    rw [List.mapM_cons]
    exact .bind (h b) fun a => .bind ih fun as => .ok (a :: as)

end FailsOnly

/-! ## Two runs -/

/-- Both end with the same error, or both with a result and these are related. -/
inductive Agree (r : α → β → Prop) : Except ε α → Except ε β → Prop
  | error (e : ε) : Agree r (.error e) (.error e)
  | ok {a : α} {b : β} : r a b → Agree r (.ok a) (.ok b)

namespace Agree

variable {α' β' γ : Type} {y : Except ε β} {r : α → β → Prop} {s : α' → β' → Prop}

theorem refl {r : α → α → Prop} (h : ∀ a, x = .ok a → r a a) : Agree r x x := by
  cases x with
  | error e => exact .error e
  | ok a => exact .ok (h a rfl)

theorem of_ok {s : α → β → Prop} (h : Agree r x y) (hs : ∀ a b, x = .ok a → y = .ok b → s a b) : Agree s x y := by
  cases h with
  | error e => exact .error e
  | ok => exact .ok (hs _ _ rfl rfl)

theorem bind {f : α → Except ε α'} {g : β → Except ε β'} (h : Agree r x y)
    (hfg : ∀ a b, r a b → Agree s (f a) (g b)) : Agree s (x >>= f) (y >>= g) := by
  cases h with
  | error e => exact .error e
  | ok hab => exact hfg _ _ hab

theorem map {f : α → α'} {g : β → β'} (h : Agree r x y) (hfg : ∀ a b, r a b → s (f a) (g b)) :
    Agree s (x.map f) (y.map g) := by
  cases h with
  | error e => exact .error e
  | ok hab => exact .ok (hfg _ _ hab)

theorem mapError (h : Agree r x y) (g : ε → ε') : Agree r (x.mapError g) (y.mapError g) := by
  cases h with
  | error e => exact .error _
  | ok hab => exact .ok hab

theorem eq_error_iff (h : Agree r x y) {e : ε} : x = .error e ↔ y = .error e := by
  cases h <;> simp

theorem mapM {r : γ → α → β → Prop} {f : γ → Except ε α} {g : γ → Except ε β} {cs : List γ}
    (h : ∀ c, Agree (r c) (f c) (g c)) :
    Agree (fun as bs => as.length = bs.length ∧ List.Forall₂ (fun c p => r c p.1 p.2) cs (as.zip bs))
      (cs.mapM f) (cs.mapM g) := by
  induction cs with
  | nil => exact .ok ⟨rfl, .nil⟩
  | cons c cs ih =>
    rw [List.mapM_cons, List.mapM_cons]
    refine (h c).bind fun a b hab => ih.bind fun as bs hrest => .ok ?_
    exact ⟨by simp [hrest.1], .cons hab hrest.2⟩

end Agree

end LinkPattern
