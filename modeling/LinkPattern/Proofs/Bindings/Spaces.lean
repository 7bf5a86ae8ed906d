import LinkPattern.Proofs.Alignment.Tiling
import LinkPattern.Proofs.Bindings
import LinkPattern.Proofs.Decoding

/-!
# What plus signs change

Captures are bound once with plus signs as they are and once with those of the query as spaces. Both
runs fail together and in the same way, or both bind the same fields; a value differs only where its
capture lies in the query, and only in the characters that stand for plus signs of the capture.
-/

namespace LinkPattern

variable {F : Type}

/-- Two readings of `raw`: what stands between its plus signs, decoded, around plus signs and around
spaces. A plus sign that was written as an escape is in a part, and the same in both. -/
def Percent.Spaced (raw off on : Text) : Prop :=
  ∃ parts, List.Forall₂ (fun piece part => decode piece = .ok part) (Text.splitOn '+' raw) parts ∧
    off = Text.join '+' parts ∧ on = Text.join ' ' parts

theorem Percent.Spaced.of_decodesAround {raw off on : Text} (hoff : DecodesAround '+' raw off)
    (hon : DecodesAround ' ' raw on) : Spaced raw off on := by
  obtain ⟨parts, hparts, rfl⟩ := hoff
  obtain ⟨parts', hparts', rfl⟩ := hon
  have hunique : Relator.RightUnique fun piece part : Text => decode piece = .ok part := by
    intro piece part part' h h'
    rw [h] at h'
    cases h'
    rfl
  obtain rfl := hunique.forall₂ hparts hparts'
  exact ⟨parts, hparts, rfl, rfl⟩

namespace Bindings

theorem decode_agree (raw : Text) : Agree (Percent.Spaced raw) (decode false raw) (decode true raw) := by
  have h := (Percent.decode_plusToSpace raw).mapError (MatchError.undecodable raw)
  exact Agree.of_ok h fun off on hoff hon => .of_decodesAround (decode_eq_ok.mp hoff) (decode_eq_ok.mp hon)

/-! ## One capture -/

inductive Spaced : Capture F → F × Value → F × Value → Prop
  | text {f : F} {start : Nat} {raw off on : Text} : Percent.Spaced raw off on →
      Spaced ⟨.field f, start, raw⟩ (f, .text off) (f, .text on)
  | empty {f : F} {d : Char} {start : Nat} : Spaced ⟨.list f d, start, []⟩ (f, .list []) (f, .list [])
  | items {f : F} {d : Char} {start : Nat} {raw : Text} {off on : List Text} : raw ≠ [] → off.length = on.length →
      List.Forall₂ (fun piece item => Percent.Spaced piece item.1 item.2) (Text.splitOn d raw) (off.zip on) →
      Spaced ⟨.list f d, start, raw⟩ (f, .list off) (f, .list on)

theorem Spaced.fst_eq {c : Capture F} {off on : F × Value} (h : Spaced c off on) : off.1 = on.1 := by
  cases h <;> rfl

/-- The captures that are bound have values in both runs, which differ as they may. -/
structure SpacedIn (o : Options) (query? : Option Span) (captures : List (Capture F)) (off on : Bindings F) : Prop where
  fields : off.map Prod.fst = on.map Prod.fst
  values : List.Forall₂ (fun c b => if query?.any (·.encloses c.span) = true then Spaced c b.1 b.2 else b.1 = b.2)
    (captures.filter (!·.isUnset o)) (off.zip on)

variable {o : Options} {query? : Option Span} {captures captures' : List (Capture F)} {c : Capture F}
  {off on off' on' : Bindings F}

theorem SpacedIn.append (h : SpacedIn o query? captures off on) (h' : SpacedIn o query? captures' off' on') :
    SpacedIn o query? (captures ++ captures') (off ++ off') (on ++ on') where
  fields := by rw [List.map_append, List.map_append, h.fields, h'.fields]
  values := by
    have hlength : off.length = on.length := by simpa using congrArg List.length h.fields
    rw [List.filter_append, List.zip_append hlength]
    exact List.rel_append h.values h'.values

theorem SpacedIn.unset (hu : c.isUnset o = true) : SpacedIn o query? [c] [] [] where
  fields := rfl
  values := by
    rw [List.filter_cons_of_neg (by simp [hu])]
    exact .nil

theorem SpacedIn.same {b : F × Value} (hu : c.isUnset o ≠ true) (hq : query?.any (·.encloses c.span) ≠ true) :
    SpacedIn o query? [c] [b] [b] where
  fields := rfl
  values := by
    rw [List.filter_cons_of_pos (by simp [hu])]
    exact .cons (by rw [if_neg hq]) .nil

theorem SpacedIn.spaced {b b' : F × Value} (hu : c.isUnset o ≠ true) (hq : query?.any (·.encloses c.span) = true)
    (h : Spaced c b b') : SpacedIn o query? [c] [b] [b'] where
  fields := by simp [h.fst_eq]
  values := by
    rw [List.filter_cons_of_pos (by simp [hu])]
    exact .cons (by rwa [if_pos hq]) .nil

theorem ofCapture_agree_outside (hc : c.segment.isPlaceholder = true) (hq : query?.any (·.encloses c.span) ≠ true) :
    Agree (fun off on => SpacedIn o query? [c] off.toList on.toList)
      (ofCapture { o with queryPlusAsSpace := false } query? c)
      (ofCapture { o with queryPlusAsSpace := true } query? c) := by
  have hplus : plusAsSpace { o with queryPlusAsSpace := true } query? c = false := by simpa [plusAsSpace] using hq
  have hsame : ofCapture { o with queryPlusAsSpace := true } query? c =
      ofCapture { o with queryPlusAsSpace := false } query? c := by
    unfold ofCapture
    rw [hplus]
    rfl
  have hnone : ofCapture { o with queryPlusAsSpace := false } query? c = .ok none ↔ c.isUnset o = true :=
    ofCapture_eq_none hc
  rw [hsame]
  refine .refl fun binding? h => ?_
  cases binding? with
  | none => exact .unset (hnone.mp h)
  | some b =>
    refine .same (fun hu => ?_) hq
    rw [hnone.mpr hu] at h
    cases h

theorem ofCapture_agree_inside (hc : c.segment.isPlaceholder = true) (hq : query?.any (·.encloses c.span) = true) :
    Agree (fun off on => SpacedIn o query? [c] off.toList on.toList)
      (ofCapture { o with queryPlusAsSpace := false } query? c)
      (ofCapture { o with queryPlusAsSpace := true } query? c) := by
  have hplus : plusAsSpace { o with queryPlusAsSpace := true } query? c = true := by simpa [plusAsSpace] using hq
  have hnone : plusAsSpace { o with queryPlusAsSpace := false } query? c = false := rfl
  unfold ofCapture
  rw [hplus, hnone]
  obtain ⟨s, start, raw⟩ := c
  cases s with
  | literal t => cases hc
  | field f =>
    have hu : Capture.isUnset o ⟨.field f, start, raw⟩ ≠ true := by simp [Capture.isUnset, Segment.kind?]
    by_cases hraw : raw = [] ∧ o.emptyField = .noMatch
    · simp only [hraw, and_self, ite_true]
      exact .error _
    · simp only [hraw, ite_false]
      exact (decode_agree raw).map fun off on h => .spaced hu hq (.text h)
  | list f d =>
    by_cases hraw : raw = []
    · subst hraw
      simp only [ite_true]
      by_cases he : o.emptyList = .empty
      · have hu : Capture.isUnset o ⟨.list f d, start, []⟩ ≠ true := by simp [Capture.isUnset, he]
        simp only [he, ite_true]
        exact .ok (.spaced hu hq .empty)
      · have hu : Capture.isUnset o ⟨.list f d, start, []⟩ = true := by
          cases ho : o.emptyList with
          | empty => exact absurd ho he
          | unset => simp [Capture.isUnset, Segment.kind?, ho]
        simp only [he, ite_false]
        exact .ok (.unset hu)
    · have hu : Capture.isUnset o ⟨.list f d, start, raw⟩ ≠ true := by simp [Capture.isUnset, hraw]
      simp only [hraw, ite_false]
      exact (Agree.mapM decode_agree).map fun off on h => .spaced hu hq (.items hraw h.1 h.2)

/-! ## All captures -/

theorem ofCaptures_agree (hc : ∀ c ∈ captures, c.segment.isPlaceholder = true) :
    Agree (SpacedIn o query? captures)
      (ofCaptures { o with queryPlusAsSpace := false } query? captures)
      (ofCaptures { o with queryPlusAsSpace := true } query? captures) := by
  refine ofCaptures_induct (r := fun cs => Agree (SpacedIn o query? cs)) (.ok ⟨rfl, .nil⟩) ?_ fun c hmem => ?_
  · intro cs cs' x y x' y' h h'
    exact h.bind fun off on hcs => h'.map fun off' on' hcs' => hcs.append hcs'
  · refine Agree.map ?_ fun off on h => h
    by_cases hq : query?.any (·.encloses c.span) = true
    · exact ofCapture_agree_inside (hc c hmem) hq
    · exact ofCapture_agree_outside (hc c hmem) hq

end Bindings

/-- Whether plus signs of the query are spaces makes no difference to what fails and how. Where nothing
fails, the same fields have values in the same order, lists of the same length, and only values that were
captured in the query may differ, by a space for each plus sign that is one in the capture. -/
theorem plusAsSpace_turns_plus_signs {segments : List (Segment F)} {text : Text} {e : Escaping}
    {captures : List (Capture F)} (h : align segments text e = .ok captures) (query? : Option Span) (o : Options) :
    let run := fun plusAsSpace => Bindings.ofCaptures { o with queryPlusAsSpace := plusAsSpace } query? captures
    (∃ error, run false = .error error ∧ run true = .error error) ∨
      ∃ off on, run false = .ok off ∧ run true = .ok on ∧ off.map Prod.fst = on.map Prod.fst ∧
        List.Forall₂ (fun c b => if query?.any (·.encloses c.span) = true then Bindings.Spaced c b.1 b.2 else b.1 = b.2)
          (captures.filter (!·.isUnset o)) (off.zip on) := by
  intro run
  have hagree : Agree (Bindings.SpacedIn o query? captures) (run false) (run true) :=
    Bindings.ofCaptures_agree (Alignment.isPlaceholder_of_align (by simp) h)
  generalize run false = off at hagree ⊢
  generalize run true = on at hagree ⊢
  cases hagree with
  | error e => exact .inl ⟨e, rfl, rfl⟩
  | ok hspaced => exact .inr ⟨_, _, rfl, rfl, hspaced.fields, hspaced.values⟩

/-- Plus signs in front of the query and in it, one of them an escape and one behind a percent sign that
begins none. -/
theorem plusAsSpace_turns_plus_signs_escaped :
    let query? : Option Span := some ⟨4, 15⟩
    let captures : List (Capture Text) := [⟨.field ['p'], 1, "a+".toList⟩, ⟨.list ['q'] ',', 6, "c+d%2B,%+".toList⟩]
    let off : Bindings Text := [(['p'], .text "a+".toList), (['q'], .list ["c+d+".toList, "%+".toList])]
    let on : Bindings Text := [(['p'], .text "a+".toList), (['q'], .list ["c d+".toList, "% ".toList])]
    align [.literal ['/'], .field ['p'], .literal "?q=".toList, .list ['q'] ','] "/a+?q=c+d%2B,%+".toList ⟨true, false⟩ =
        .ok captures ∧
      Bindings.ofCaptures { queryPlusAsSpace := false } query? captures = .ok off ∧
      Bindings.ofCaptures { queryPlusAsSpace := true } query? captures = .ok on ∧
      List.Forall₂ (fun c b => if query?.any (·.encloses c.span) = true then Bindings.Spaced c b.1 b.2 else b.1 = b.2)
        captures (off.zip on) := by
  intro query? captures off on
  have halign : align [.literal ['/'], .field ['p'], .literal "?q=".toList, .list ['q'] ','] "/a+?q=c+d%2B,%+".toList
      ⟨true, false⟩ = .ok captures := by decide +kernel
  have hoff : Bindings.ofCaptures { queryPlusAsSpace := false } query? captures = .ok off := by decide +kernel
  have hon : Bindings.ofCaptures { queryPlusAsSpace := true } query? captures = .ok on := by decide +kernel
  refine ⟨halign, hoff, hon, ?_⟩
  obtain ⟨e, he, -⟩ | ⟨off', on', hoff', hon', -, hvalues⟩ := plusAsSpace_turns_plus_signs halign query? {}
  · cases hoff.symm.trans he
  · cases hoff.symm.trans hoff'
    cases hon.symm.trans hon'
    exact hvalues

end LinkPattern
