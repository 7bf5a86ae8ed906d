import LinkPattern.Proofs.Bindings
import LinkPattern.Proofs.Rendering.Subject
import LinkPattern.Proofs.Url.Site

/-!
# Separators in a path

A capture is cut at a separator as the URL shows it. Where a path shows the separator as it is, the
items between the separators are found; a separator that a path escapes is found nowhere, and what was
joined with it is read as one item that has the separators in it.
-/

namespace LinkPattern

open Percent

/-- What begins an escape, ends a part of a URL or is skipped in one. -/
def Url.reserved : Text := "%/\\?#\t\n\r".toList

def Separates (d : Char) : Prop := d.isAlphanum = false ∧ d ∉ Url.reserved

instance (d : Char) : Decidable (Separates d) := inferInstanceAs (Decidable (_ ∧ _))

def Percent.ShownInPath (c : Char) : Prop := c.toNat < 0x80 ∧ EscapeSet.path c = false

instance (c : Char) : Decidable (ShownInPath c) := inferInstanceAs (Decidable (_ ∧ _))

theorem Percent.shownInPath_of_isAlphanum {c : Char} (h : c.isAlphanum = true) : ShownInPath c := by
  have hc : Url.Unchanged c := Url.unchanged_of_isPlain (by simp [Url.isPlain, h])
  refine ⟨hc.ascii, hc.path ?_ ?_⟩
  · rintro rfl; cases h
  · rintro rfl; cases h

structure Joinable (items : List Text) : Prop where
  ne_nil : items ≠ []
  nonempty : ∀ t ∈ items, t ≠ []
  alphanumeric : ∀ t ∈ items, t.all Char.isAlphanum = true

namespace Joinable

variable {items : List Text} (h : Joinable items) {d : Char}
include h

theorem isAlphanum {t : Text} (ht : t ∈ items) {x : Char} (hx : x ∈ t) : x.isAlphanum = true :=
  List.all_eq_true.mp (h.alphanumeric t ht) x hx

theorem join_ne_nil (d : Char) : Text.join d items ≠ [] := by
  intro hj
  rcases Text.join_eq_nil.mp hj with he | he
  · exact h.ne_nil he
  · exact h.nonempty [] (he ▸ by simp) rfl

theorem mem_join {x : Char} (hx : x ∈ Text.join d items) : x = d ∨ x.isAlphanum = true := by
  rcases Text.mem_join hx with he | ⟨t, ht, hm⟩
  · exact .inl he
  · exact .inr (h.isAlphanum ht hm)

theorem not_mem_join (hd : Separates d) {c : Char} (hc : c ∈ Url.reserved) : c ∉ Text.join d items := by
  intro hm
  rcases h.mem_join hm with rfl | ha
  · exact hd.2 hc
  · have hnone : Url.reserved.all (!·.isAlphanum) = true := by decide
    have := List.all_eq_true.mp hnone c hc
    simp [ha] at this

/-! ## Captures -/

theorem mapM_decode (plusAsSpace : Bool) : items.mapM (Bindings.decode plusAsSpace) = .ok items := by
  have hescape : items.map (escape EscapeSet.nonAlphanumeric) = items := by
    refine (List.map_congr_left fun t ht => ?_).trans (List.map_id' items)
    refine escape_eq_self fun x hx => ⟨Url.toNat_lt_of_isAlphanum (h.isAlphanum ht hx), ?_⟩
    simp [EscapeSet.nonAlphanumeric, h.isAlphanum ht hx]
  have hdecode := Assignment.mapM_decode_escape plusAsSpace items
  rwa [hescape] at hdecode

theorem splitOn_escape (hd : Separates d) :
    Text.splitOn d (escape EscapeSet.path (Text.join d items)) =
      if ShownInPath d then items else [escape EscapeSet.path (Text.join d items)] := by
  by_cases hs : ShownInPath d
  · have hescape : escape EscapeSet.path (Text.join d items) = Text.join d items := by
      refine escape_eq_self fun x hx => ?_
      rcases h.mem_join hx with rfl | ha
      · exact hs
      · exact shownInPath_of_isAlphanum ha
    rw [if_pos hs, hescape]
    refine Text.splitOn_join h.ne_nil fun t ht hm => ?_
    exact absurd (h.isAlphanum ht hm) (by simp [hd.1])
  · rw [if_neg hs]
    apply Text.splitOn_of_not_mem
    intro hm
    obtain ⟨c, -, hc⟩ := List.mem_flatMap.mp hm
    -- an escape is made of percent signs and digits
    rcases mem_escapeChar hc with he | ⟨n, hn, he⟩ | ⟨rfl, hset, hascii⟩
    · exact hd.2 (he ▸ by decide)
    · have hupper := isAlphanum_upper hn
      rw [← he, hd.1] at hupper
      cases hupper
    · exact hs ⟨hascii, hset⟩

theorem bound {F : Type} (hd : Separates d) (o : Options) (f : F) (start : Nat) :
    Bindings.Bound o none ⟨.list f d, start, escape EscapeSet.path (Text.join d items)⟩
      (f, .list (if ShownInPath d then items else [Text.join d items])) := by
  refine .items (fun he => h.join_ne_nil d (escape_eq_nil.mp he)) ?_
  have hplus : Bindings.plusAsSpace o none
      (⟨.list f d, start, escape EscapeSet.path (Text.join d items)⟩ : Capture F) = false := by
    simp [Bindings.plusAsSpace]
  rw [h.splitOn_escape hd, hplus]
  by_cases hs : ShownInPath d
  · simp only [hs, ite_true]
    exact mapM_eq_ok.mp (h.mapM_decode false)
  · have hpercent : '%' ∉ Text.join d items := h.not_mem_join hd (by decide)
    have hdecode : Bindings.decode false (escape EscapeSet.path (Text.join d items)) = .ok (Text.join d items) := by
      unfold Bindings.decode
      simp only [Bool.false_eq_true, ite_false]
      rw [Percent.decode_escape fun hm => absurd hm hpercent]
      rfl
    simp only [hs, ite_false]
    exact .cons hdecode .nil

/-! ## URLs -/

theorem not_mem_url (hd : Separates d) {c : Char} (hc : c ∈ Url.reserved) (hslash : c ≠ '/') :
    c ∉ "/t=".toList ++ Text.join d items := by
  intro hm
  rcases List.mem_append.mp hm with hm | hm
  · have hfront : "/t=".toList.all (fun c => c = '/' || !Url.reserved.contains c) = true := by decide
    have := List.all_eq_true.mp hfront c hm
    simp [hc, hslash] at this
  · exact h.not_mem_join hd hc hm

theorem isTail (hd : Separates d) : Url.IsTail ("/t=".toList ++ Text.join d items) where
  absolute := rfl
  significant x hx := by
    have hne : ∀ c ∈ Url.reserved, c ≠ '/' → x ≠ c := fun c hc hs e => h.not_mem_url hd hc hs (e ▸ hx)
    simp [Url.isIgnored, hne '\t' (by decide) (by decide), hne '\n' (by decide) (by decide),
      hne '\r' (by decide) (by decide)]
  visible x hx := by
    rw [List.getLast?_append_of_ne_nil _ (h.join_ne_nil d)] at hx
    obtain ⟨t, ht, hm⟩ := Text.mem_of_getLast?_join h.nonempty hx
    exact (Url.unchanged_of_isPlain (by simp [Url.isPlain, h.isAlphanum ht hm])).visible

theorem undelimited (hd : Separates d) : Url.Undelimited ("/t=".toList ++ Text.join d items) := by
  refine fun x hx => ⟨fun e => ?_, fun e => ?_⟩
  · exact h.not_mem_url hd (c := '?') (by decide) (by decide) (e ▸ hx)
  · exact h.not_mem_url hd (c := '#') (by decide) (by decide) (e ▸ hx)

theorem slashed (hd : Separates d) (kind : Url.SchemeKind) :
    Url.Path.slashed kind ("/t=".toList ++ Text.join d items) = "/t=".toList ++ Text.join d items := by
  apply Url.Path.slashed_eq_self
  exact h.not_mem_url hd (by decide) (by decide)

theorem undotted (hd : Separates d) (kind : Url.SchemeKind) :
    Url.Path.Undotted kind ("/t=".toList ++ Text.join d items) := by
  have hslash : '/' ∉ "t=".toList ++ Text.join d items := by
    intro hm
    rcases List.mem_append.mp hm with hm | hm
    · exact absurd hm (by decide)
    · exact h.not_mem_join hd (by decide) hm
  have hsplit : Text.splitOn '/' ("/t=".toList ++ Text.join d items) = [[], "t=".toList ++ Text.join d items] := by
    refine (Text.splitOn_append_cons (a := []) (by simp) _).trans ?_
    exact congrArg (List.cons []) (Text.splitOn_of_not_mem hslash)
  rw [Url.Path.Undotted, h.slashed hd, hsplit]
  intro s hs
  simp only [List.mem_cons, List.not_mem_nil, or_false] at hs
  rcases hs with rfl | rfl
  · decide
  · simp [Url.Path.isDot, Url.Path.isDoubleDot]

theorem parse (hd : Separates d) (base? : Option Url) :
    Url.parse ("https://example.com/t=".toList ++ Text.join d items) base? =
      .ok { scheme := "https".toList, isOpaque := false,
            path := "/t=".toList ++ escape EscapeSet.path (Text.join d items), query? := none, fragment? := none } := by
  obtain ⟨hfront, hquery, hfragment⟩ := Url.parts_of_undelimited (h.undelimited hd)
  have hparse := Url.Site.example.parse_of_undotted (h.isTail hd) (hfront.symm ▸ h.undotted hd _) base?
  rw [Url.Site.url, hfront, hquery, hfragment, h.slashed hd, escape_append] at hparse
  exact hparse

end Joinable

variable {F : Type}

/-- Items of letters and digits that are joined with a separator are bound as they were where a path shows
the separator as it is, and as one item where it does not. -/
theorem bindings_of_joined (m : Matcher) {p : Pattern F} {f : F} {d : Char} (hd : Separates d)
    (hp : p.segments = [.literal "/t=".toList, .list f d]) {items : List Text} (h : Joinable items) :
    m.bindings p ("https://example.com/t=".toList ++ Text.join d items) =
      .ok [(f, .list (if ShownInPath d then items else [Text.join d items]))] := by
  let raw := escape EscapeSet.path (Text.join d items)
  have halign : align p.segments ("/t=".toList ++ raw) ⟨true, false⟩ = .ok [⟨.list f d, 3, raw⟩] := by
    have hliteral : Escaping.escape ⟨true, false⟩ .path "/t=".toList = "/t=".toList := by decide
    have hdrop : "/t=".toList.isPrefixOf? ("/t=".toList ++ raw) = some raw :=
      List.isPrefixOf?_eq_some_iff_append_eq.mpr rfl
    rw [hp, align, Alignment.align_literal, hliteral, hdrop]
    exact Alignment.align_single rfl _ _ _ _
  have hbind : Bindings.ofCaptures m.options none [⟨.list f d, 3, raw⟩] =
      .ok [(f, .list (if ShownInPath d then items else [Text.join d items]))] := by
    rw [Bindings.ofCaptures, Bindings.ofCapture_eq_some.mpr (h.bound hd m.options f 3)]
    rfl
  have hescaping : Url.escaping ⟨"https".toList, false, "/t=".toList ++ raw, none, none⟩ = ⟨true, false⟩ := rfl
  refine Matcher.bindings_eq_ok.mpr ⟨_, [⟨.list f d, 3, raw⟩], h.parse hd m.base?, ?_, ?_, ?_⟩
  · simp [Pattern.leavesOut]
  · rw [hescaping]
    simpa [Url.subject] using halign
  · simpa [Url.subject] using hbind

theorem bindings_of_joined_both :
    let items : List Text := ["a1".toList, "Z".toList, ['b']]
    ∃ p q : Pattern Text, Pattern.ofTemplate "/t=\x7bt|;\x7d".toList = .ok p ∧
      Pattern.ofTemplate "/t=\x7bt|é\x7d".toList = .ok q ∧ Separates ';' ∧ Separates 'é' ∧ Joinable items ∧
      ({} : Matcher).bindings p "https://example.com/t=a1;Z;b".toList = .ok [(['t'], .list items)] ∧
      ({} : Matcher).bindings q "https://example.com/t=a1éZéb".toList = .ok [(['t'], .list ["a1éZéb".toList])] := by
  intro items
  let list (d : Char) : Pattern Text := .of [.literal "/t=".toList, .list ['t'] d]
  have hitems : Joinable items := ⟨by decide, by decide, by decide⟩
  have hsemicolon := bindings_of_joined {} (p := list ';') (by decide) rfl hitems
  have hescaped := bindings_of_joined {} (p := list 'é') (by decide) rfl hitems
  rw [if_pos (by decide)] at hsemicolon
  rw [if_neg (by decide)] at hescaped
  exact ⟨list ';', list 'é', by decide +kernel, by decide +kernel, by decide, by decide, hitems, hsemicolon, hescaped⟩

/-- Two items with a space between them are one. -/
theorem exists_joined_unsplit :
    ∃ (p : Pattern Text) (items : List Text), Pattern.ofTemplate "/t=\x7bt| \x7d".toList = .ok p ∧ Separates ' ' ∧
      Joinable items ∧ items.length = 2 ∧
      ({} : Matcher).bindings p ("https://example.com/t=".toList ++ Text.join ' ' items) = .ok [(['t'], .list ["a b".toList])] ∧
      ({} : Matcher).bindings p ("https://example.com/t=".toList ++ Text.join ' ' items) ≠ .ok [(['t'], .list items)] := by
  refine ⟨.of [.literal "/t=".toList, .list ['t'] ' '], [['a'], ['b']], ?_, by decide, ⟨by decide, by decide, by decide⟩, rfl,
    ?_, ?_⟩
  · decide +kernel
  · decide +kernel
  · decide +kernel

end LinkPattern
