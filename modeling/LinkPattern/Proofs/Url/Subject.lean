import LinkPattern.Proofs.Component
import LinkPattern.Proofs.Url.Delimiters

/-!
# What a pattern is aligned with

Literals are escaped by sets of their own, which are those that URLs are written by, and special are
the same schemes. A pattern that opens what a text opens speaks of the query and of the fragment of the
text if there are any. So nothing that a URL shows of the text is left out of its subject.
-/

namespace LinkPattern

/-! ## Two sides of escaping -/

namespace Escaping

open Percent

variable (e : Escaping)

theorem set_path : e.set .path = if e.opaquePath then EscapeSet.controls else EscapeSet.path := rfl

theorem set_query : e.set .query = if e.special then EscapeSet.specialQuery else EscapeSet.query := rfl

theorem set_fragment : e.set .fragment = EscapeSet.fragment := rfl

end Escaping

namespace Url

theorem any_specialSchemes (scheme : Text) :
    specialSchemes.any (·.toList = scheme) = (kindOf scheme).isSpecial := by
  unfold kindOf
  by_cases hfile : scheme = "file".toList
  · subst hfile
    decide
  · have hne : ¬ "file".toList = scheme := fun h => hfile h.symm
    have hany : specialSchemes.any (·.toList = scheme) =
        ["http", "https", "ws", "wss", "ftp"].any (·.toList = scheme) := by
      simp only [specialSchemes, List.any_cons, List.any_nil, decide_eq_false hne, Bool.or_false]
    rw [if_neg hfile, hany]
    cases ["http", "https", "ws", "wss", "ftp"].any (·.toList = scheme) <;> rfl

theorem escaping_eq (u : Url) : u.escaping = ⟨u.kind.isSpecial, u.isOpaque⟩ :=
  congrArg (Escaping.mk · u.isOpaque) (any_specialSchemes u.scheme)

/-! ## The text of a subject -/

variable {F : Type} {t : Text}

theorem query_mem_opens {q : Text} (h : queryOf? t = some q) : .query ∈ Component.path.opens t := by
  have hmem : '?' ∈ (cutOff '#' t).1 := mem_of_cutOff h
  have hfront : ∀ x ∈ (cutOff '#' t).1, decide (x ≠ '#') = true := by
    intro x hx
    exact decide_eq_true fun e => (cutOff_fst t).1 (e ▸ hx)
  rw [Component.query_mem_opens_path, ← cutOff_flatten '#' t, List.takeWhile_append_of_pos hfront]
  exact List.mem_append_left _ hmem

theorem fragment_mem_opens {f : Text} (h : fragmentOf? t = some f) : .fragment ∈ Component.path.opens t :=
  Component.fragment_mem_opens_path.mpr (mem_of_cutOff h)

section
variable {p : Pattern F} (h : Pattern.opened .path p.segments = Component.path.opens t)
include h

theorem subject_text {u : Url} {query fragment : Text → Text} (hq : u.query? = (queryOf? t).map query)
    (hf : u.fragment? = (fragmentOf? t).map fragment) :
    (u.subject p.addressesQuery p.addressesFragment).text =
      u.path ++ (queryOf? t).elim [] ('?' :: query ·) ++ (fragmentOf? t).elim [] ('#' :: fragment ·) := by
  have hquery : (if p.addressesQuery then u.query? else none) = (queryOf? t).map query := by
    rw [hq]
    cases hq : queryOf? t with
    | none => simp
    | some q => simp [Pattern.addressesQuery_eq, h, query_mem_opens hq]
  have hfragment : (if p.addressesFragment then u.fragment? else none) = (fragmentOf? t).map fragment := by
    rw [hf]
    cases hf : fragmentOf? t with
    | none => simp
    | some f => simp [Pattern.addressesFragment_eq, h, fragment_mem_opens hf]
  simp only [subject, hquery, hfragment, Option.elim_map]
  rfl

theorem subject_text_of_opens (scheme : Text) :
    ((Url.mk scheme false (frontOf t) (queryOf? t) (fragmentOf? t)).subject p.addressesQuery p.addressesFragment).text =
      t := by
  have hid : ∀ o : Option Text, o = o.map id := fun o => by simp
  rw [subject_text h (hid _) (hid _)]
  exact flatten_parts t

end

end Url

end LinkPattern
