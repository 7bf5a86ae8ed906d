import LinkPattern.Proofs.Alignment.Components

/-!
# The pieces of a text

A text is cut into pieces where a component ends. The subject of a URL is put together without
looking at any of its characters, and yet it is cut where it was put together: the path ends before
the first `?` or `#`, the query before the first `#`, and nothing ends the fragment.
-/

namespace LinkPattern

namespace Component

def stretch (c : Component) (t : Text) : List Piece := if t = [] then [] else [.text c t]

variable {c d : Component} {x : Char} {t rest : Text}

theorem pieces_of_opened (h : c.opened? x = some d) : c.pieces (x :: t) = .delimiter x :: d.pieces t := by
  simp [pieces, h]

theorem pieces_append_of_opened (h : ∀ y ∈ t, c.opened? y = none) (hrest : ∀ y ∈ rest.head?, c.opened? y ≠ none) :
    c.pieces (t ++ rest) = c.stretch t ++ c.pieces rest := by
  induction t with
  | nil => rfl
  | cons x t ih =>
    have hpieces : c.pieces (x :: t ++ rest) = Piece.extend c x (c.stretch t ++ c.pieces rest) := by
      rw [← ih fun y hy => h y (List.mem_cons_of_mem _ hy)]
      simp [pieces, h x (by simp)]
    rw [hpieces]
    by_cases ht : t = []
    · subst ht
      cases rest with
      | nil => rfl
      | cons y rest =>
        obtain ⟨d, hd⟩ := Option.ne_none_iff_exists'.mp (hrest y rfl)
        rw [pieces_of_opened hd]
        rfl
    · simp [stretch, ht, Piece.extend]

theorem pieces_eq_stretch (h : ∀ y ∈ t, c.opened? y = none) : c.pieces t = c.stretch t := by
  have hnil : ∀ y ∈ ([] : Text).head?, c.opened? y ≠ none := by simp
  have := pieces_append_of_opened h hnil
  rwa [List.append_nil, pieces, List.append_nil] at this

theorem pieces_fragment (hc : c.opened? '#' = some .fragment) (fragment? : Option Text) :
    c.pieces (fragment?.elim [] ('#' :: ·)) =
      fragment?.elim [] (fun f => .delimiter '#' :: Component.fragment.stretch f) := by
  cases fragment? with
  | none => rfl
  | some f => rw [Option.elim_some, pieces_of_opened hc, pieces_eq_stretch fun _ _ => rfl, Option.elim_some]

end Component

namespace Url

open Component

def parts (u : Url) (withQuery withFragment : Bool) : List Piece :=
  stretch .path u.path ++
    (if withQuery then u.query? else none).elim [] (fun q => .delimiter '?' :: stretch .query q) ++
    (if withFragment then u.fragment? else none).elim [] (fun f => .delimiter '#' :: stretch .fragment f)

def lastComponent (u : Url) (withQuery withFragment : Bool) : Component :=
  if withFragment ∧ u.fragment?.isSome then .fragment
  else if withQuery ∧ u.query?.isSome then .query
  else .path

variable {u : Url}

theorem opened?_head (query? fragment? : Option Text) :
    ∀ x ∈ (query?.elim [] ('?' :: ·) ++ fragment?.elim [] ('#' :: ·) : Text).head?, Component.path.opened? x ≠ none := by
  intro x hx
  cases query? with
  | some q => cases hx; decide
  | none =>
    cases fragment? with
    | some f => cases hx; decide
    | none => cases hx

theorem pieces_subject (hu : u.Delimited) (withQuery withFragment : Bool) :
    Component.path.pieces (u.subject withQuery withFragment).text = u.parts withQuery withFragment := by
  simp only [subject, parts]
  rw [List.append_assoc, pieces_append_of_opened hu.path.opened? (opened?_head _ _), List.append_assoc,
    List.append_cancel_left_eq]
  cases hq : (if withQuery then u.query? else none) with
  | none => exact pieces_fragment rfl _
  | some q =>
    have hhead : ∀ x ∈ ((if withFragment then u.fragment? else none).elim [] ('#' :: ·) : Text).head?,
        Component.query.opened? x ≠ none := by
      intro x hx
      cases hf : (if withFragment then u.fragment? else none) with
      | none => rw [hf] at hx; cases hx
      | some f => rw [hf] at hx; cases hx; decide
    rw [Option.elim_some, Option.elim_some, List.cons_append, pieces_of_opened (d := .query) rfl,
      pieces_append_of_opened (hu.opened?_query hq) hhead, pieces_fragment rfl, List.cons_append]

theorem after_subject (hu : u.Delimited) (withQuery withFragment : Bool) :
    Component.path.after (u.subject withQuery withFragment).text = u.lastComponent withQuery withFragment := by
  have hnone : ∀ {asked : Bool} {t? : Option Text}, (if asked then t? else none) = none → ¬ (asked ∧ t?.isSome) := by
    intro asked t? h
    cases asked <;> simp_all
  simp only [subject]
  cases hf : (if withFragment then u.fragment? else none) with
  | some f =>
    obtain ⟨hasked, hfragment⟩ := Option.ite_none_right_eq_some.mp hf
    rw [lastComponent, if_pos (c := withFragment ∧ _) ⟨hasked, by simp [hfragment]⟩]
    exact after_fragment hu f
  | none =>
    rw [lastComponent, if_neg (hnone hf), Option.elim_none, List.append_nil]
    cases hq : (if withQuery then u.query? else none) with
    | some q =>
      obtain ⟨hasked, hquery⟩ := Option.ite_none_right_eq_some.mp hq
      rw [if_pos ⟨hasked, by simp [hquery]⟩]
      exact after_query hu hq q.prefix_refl
    | none =>
      rw [if_neg (hnone hq), Option.elim_none, List.append_nil]
      exact hu.path.after_path

/-- The subject of a URL is cut into the parts it was put together from, and the query stands in it
where the subject says, if it was asked for and there is one. -/
theorem split_subject (hu : u.Delimited) (withQuery withFragment : Bool) :
    let s := u.subject withQuery withFragment
    Component.path.split s.text = (u.parts withQuery withFragment, u.lastComponent withQuery withFragment) ∧
      (s.query?.isSome ↔ withQuery ∧ u.query?.isSome) ∧
      ∀ q ∈ u.query?, ∀ r ∈ s.query?,
        r.start = Text.octetLength (u.path ++ ['?']) ∧ Text.slice? r s.text = some q := by
  intro s
  refine ⟨?_, ?_, ?_⟩
  · rw [Component.split, pieces_subject hu, after_subject hu]
  · cases withQuery <;> simp [s, subject]
  · intro q hq r hr
    obtain ⟨q', hq', rfl⟩ := Option.map_eq_some_iff.mp hr
    have hasked := Option.ite_none_right_eq_some.mp hq'
    cases hq.symm.trans hasked.2
    have hstart : Text.octetLength u.path + 1 = Text.octetLength (u.path ++ ['?']) := by
      rw [Text.octetLength_append]
      rfl
    refine ⟨hstart, ?_⟩
    have htext : s.text = u.path ++ ['?'] ++ q ++ (if withFragment then u.fragment? else none).elim [] ('#' :: ·) := by
      simp [s, subject, hq']
    rw [htext, hstart]
    exact Text.slice?_append _ _ _

theorem split_subject_delimiters :
    ∃ u v : Url, parse "https://example.com/a?b?c#?d#".toList none = .ok u ∧
      Component.path.split (u.subject true true).text = ([.text .path "/a".toList, .delimiter '?',
        .text .query "b?c".toList, .delimiter '#', .text .fragment "?d#".toList], .fragment) ∧
      Component.path.split (u.subject false true).text =
        ([.text .path "/a".toList, .delimiter '#', .text .fragment "?d#".toList], .fragment) ∧
      (u.subject false true).query?.isSome = false ∧ Text.slice? ⟨3, 6⟩ (u.subject true false).text = some "b?c".toList ∧
      parse "https://example.com/?#e".toList none = .ok v ∧
      Component.path.split (v.subject true false).text = ([.text .path ['/'], .delimiter '?'], .query) := by
  let u : Url := ⟨"https".toList, false, "/a".toList, some "b?c".toList, some "?d#".toList⟩
  let v : Url := ⟨"https".toList, false, ['/'], some [], some ['e']⟩
  have hu : parse "https://example.com/a?b?c#?d#".toList none = .ok u := by decide +kernel
  have hv : parse "https://example.com/?#e".toList none = .ok v := by decide +kernel
  have hud := delimited_of_parse (by simp) hu
  have hvd := delimited_of_parse (by simp) hv
  obtain ⟨hboth, -, -⟩ := split_subject hud true true
  obtain ⟨hfragment, hnone, -⟩ := split_subject hud false true
  obtain ⟨-, -, hslice⟩ := split_subject hud true false
  obtain ⟨hempty, -, -⟩ := split_subject hvd true false
  refine ⟨u, v, hu, hboth, hfragment, ?_, (hslice _ rfl _ (by decide)).2, hv, hempty⟩
  exact Bool.eq_false_iff.mpr fun h => Bool.false_ne_true (hnone.mp h).1

end Url

end LinkPattern
