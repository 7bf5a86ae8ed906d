import LinkPattern.NamedValues
import LinkPattern.Proofs.Alignment.Leftmost
import LinkPattern.Proofs.Matching
import Mathlib.Data.Finset.Card

/-!
# From captures to a record

A capture is bound to the field of its placeholder and as the kind of value that this stands for. Only
the capture of an empty list may be bound to nothing. There is one capture for each placeholder and no
field has two of them, so a match assigns every field of the pattern once at most, in the pattern's
order, and each value is of the kind that its field was declared with.
-/

namespace LinkPattern

variable {F : Type}

def Capture.isUnset (o : Options) (c : Capture F) : Bool :=
  c.segment.kind? = some .list && c.raw = [] && o.emptyList = .unset

namespace Bindings

variable {o : Options} {query? : Option Span} {c : Capture F} {b : F × Value}

/-! ## One capture -/

inductive Bound (o : Options) (query? : Option Span) : Capture F → F × Value → Prop
  | text {f : F} {start : Nat} {raw t : Text} : ¬ (raw = [] ∧ o.emptyField = .noMatch) →
      decode (plusAsSpace o query? ⟨.field f, start, raw⟩) raw = .ok t →
      Bound o query? ⟨.field f, start, raw⟩ (f, .text t)
  | empty {f : F} {d : Char} {start : Nat} : o.emptyList = .empty → Bound o query? ⟨.list f d, start, []⟩ (f, .list [])
  | items {f : F} {d : Char} {start : Nat} {raw : Text} {items : List Text} : raw ≠ [] →
      List.Forall₂ (fun part t => decode (plusAsSpace o query? ⟨.list f d, start, raw⟩) part = .ok t)
        (Text.splitOn d raw) items →
      Bound o query? ⟨.list f d, start, raw⟩ (f, .list items)

theorem Bound.field? (h : Bound o query? c b) : c.segment.field? = some b.1 := by
  cases h <;> rfl

theorem Bound.kind? (h : Bound o query? c b) : c.segment.kind? = some b.2.kind := by
  cases h <;> rfl

theorem ofCapture_eq_some : ofCapture o query? c = .ok (some b) ↔ Bound o query? c b := by
  obtain ⟨s, start, raw⟩ := c
  constructor
  · intro h
    unfold ofCapture at h
    cases s with
    | literal t => cases h
    | field f =>
      by_cases hraw : raw = [] ∧ o.emptyField = .noMatch
      · simp only [hraw, and_self, ite_true] at h
        cases h
      · simp only [hraw, ite_false] at h
        obtain ⟨t, ht, hb⟩ := map_eq_ok.mp h
        cases hb
        exact .text hraw ht
    | list f d =>
      by_cases hraw : raw = []
      · subst hraw
        by_cases he : o.emptyList = .empty
        · simp only [he, ite_true] at h
          cases h
          exact .empty he
        · simp only [he, ite_true, ite_false] at h
          cases h
      · simp only [hraw, ite_false] at h
        obtain ⟨items, hitems, hb⟩ := map_eq_ok.mp h
        cases hb
        exact .items hraw (mapM_eq_ok.mp hitems)
  · intro h
    cases h with
    | text hraw ht => simp [ofCapture, hraw, ht, Except.map]
    | empty he => simp [ofCapture, he]
    | items hraw hitems => simp [ofCapture, hraw, mapM_eq_ok.mpr hitems, Except.map]

theorem ofCapture_eq_none (hc : c.segment.isPlaceholder = true) :
    ofCapture o query? c = .ok none ↔ c.isUnset o = true := by
  obtain ⟨s, start, raw⟩ := c
  cases s with
  | literal t => cases hc
  | field f =>
    by_cases hraw : raw = [] ∧ o.emptyField = .noMatch
    · simp [ofCapture, Capture.isUnset, hraw, Segment.kind?]
    · simp only [ofCapture, hraw, ite_false, map_eq_ok]
      simp [Capture.isUnset, Segment.kind?]
  | list f d =>
    by_cases hraw : raw = []
    · cases ho : o.emptyList <;> simp [ofCapture, Capture.isUnset, Segment.kind?, hraw, ho]
    · simp only [ofCapture, hraw, ite_false, map_eq_ok]
      simp [Capture.isUnset, hraw]

/-! ## All captures -/

theorem ofCaptures_cons (c : Capture F) (rest : List (Capture F)) :
    ofCaptures o query? (c :: rest) =
      (ofCapture o query? c).map Option.toList >>= fun bs => (ofCaptures o query? rest).map (bs ++ ·) := by
  rw [ofCaptures]
  cases ofCapture o query? c with
  | error e => rfl
  | ok b? => cases ofCaptures o query? rest <;> rfl

/-- What holds of two runs on each capture, and of two runs after two others, holds of the whole runs. -/
theorem ofCaptures_induct {o' : Options}
    {r : List (Capture F) → Except MatchError (Bindings F) → Except MatchError (Bindings F) → Prop}
    (nil : r [] (.ok []) (.ok []))
    (append : ∀ {cs cs' : List (Capture F)} {x y x' y' : Except MatchError (Bindings F)}, r cs x y → r cs' x' y' →
      r (cs ++ cs') (x >>= fun bs => x'.map (bs ++ ·)) (y >>= fun bs => y'.map (bs ++ ·)))
    {captures : List (Capture F)}
    (step : ∀ c ∈ captures, r [c] ((ofCapture o query? c).map Option.toList) ((ofCapture o' query? c).map Option.toList)) :
    r captures (ofCaptures o query? captures) (ofCaptures o' query? captures) := by
  induction captures with
  | nil => exact nil
  | cons c rest ih =>
    rw [ofCaptures_cons, ofCaptures_cons]
    exact append (step c (by simp)) (ih fun c hc => step c (List.mem_cons_of_mem _ hc))

theorem ofCaptures_eq_mapM {α : Type} {f : α → Except MatchError (F × Value)} {xs : List α} {captures : List (Capture F)}
    (h : List.Forall₂ (fun x c => ofCapture o query? c = (f x).map some) xs captures) :
    ofCaptures o query? captures = xs.mapM f := by
  induction h with
  | nil => rfl
  | @cons x c xs captures hx _ ih =>
    rw [ofCaptures, hx, ih, List.mapM_cons]
    cases f x with
    | error e => rfl
    | ok b => cases xs.mapM f <;> rfl

theorem ofCaptures_eq_ok {captures : List (Capture F)} (hc : ∀ c ∈ captures, c.segment.isPlaceholder = true)
    {bs : Bindings F} :
    ofCaptures o query? captures = .ok bs ↔ List.Forall₂ (Bound o query?) (captures.filter (!·.isUnset o)) bs := by
  induction captures generalizing bs with
  | nil =>
    rw [List.filter_nil, List.forall₂_nil_left_iff]
    constructor
    · intro h; cases h; rfl
    · intro h; rw [h]; rfl
  | cons c rest ih =>
    have hrest : ∀ c ∈ rest, c.segment.isPlaceholder = true := fun c hc' => hc c (List.mem_cons_of_mem _ hc')
    have hnone : ofCapture o query? c = .ok none ↔ c.isUnset o = true := ofCapture_eq_none (hc c (by simp))
    rw [ofCaptures, bind_eq_ok]
    by_cases hu : c.isUnset o = true
    · rw [List.filter_cons_of_neg (by simp [hu]), ← ih hrest, hnone.mpr hu]
      constructor
      · intro ⟨_, hb, h⟩
        cases hb
        obtain ⟨more, hmore, h⟩ := bind_eq_ok.mp h
        cases h
        exact hmore
      · intro h
        exact ⟨none, rfl, bind_eq_ok.mpr ⟨bs, h, rfl⟩⟩
    · rw [List.filter_cons_of_pos (by simp [hu]), List.forall₂_cons_left_iff]
      constructor
      · intro ⟨binding?, hb, h⟩
        obtain ⟨more, hmore, h⟩ := bind_eq_ok.mp h
        cases h
        cases binding? with
        | none => exact absurd (hnone.mp hb) hu
        | some b => exact ⟨b, more, ofCapture_eq_some.mp hb, (ih hrest).mp hmore, rfl⟩
      · intro ⟨b, more, hb, hmore, h⟩
        subst h
        exact ⟨some b, ofCapture_eq_some.mpr hb, bind_eq_ok.mpr ⟨more, (ih hrest).mpr hmore, rfl⟩⟩

theorem fst_eq_fields {kept : List (Capture F)} {bs : Bindings F} (h : List.Forall₂ (Bound o query?) kept bs) :
    bs.map Prod.fst = kept.filterMap (·.segment.field?) := by
  induction h with
  | nil => rfl
  | cons hb _ ih => rw [List.map_cons, List.filterMap_cons, hb.field?, ih]

/-! ## Records -/

theorem commit_run {R : Type} [Record R F] (bs : Bindings F) (record : R) :
    (commit bs).run record = (bs.length, store record bs) := by
  have hassign : (bs.forM fun b => modify fun r => Record.assign r b.1 b.2 : StateM R Unit).run record =
      ((), store record bs) := by
    induction bs generalizing record with
    | nil => rfl
    | cons b bs ih => exact ih _
  simp only [commit, StateT.run_bind, hassign]
  rfl

end Bindings

/-! ## Matches -/

section
variable [DecidableEq F] [Vocabulary F] {m : Matcher} {p : Pattern F} {url : Text}

theorem Matcher.Captured.segments (hp : p.Made) {captures : List (Capture F)} (h : m.Captured p url captures) :
    captures.map Capture.segment = p.segments.filter Segment.isPlaceholder := by
  obtain ⟨u, -, hc⟩ := h
  exact segments_of_align hp.wellFormed.alternates hc

theorem Matcher.Captured.mem_segments (hp : p.Made) {captures : List (Capture F)} (h : m.Captured p url captures)
    {c : Capture F} (hc : c ∈ captures) : c.segment ∈ p.segments ∧ c.segment.isPlaceholder = true := by
  obtain ⟨u, -, halign⟩ := h
  exact mem_segments_of_align hp.wellFormed.alternates halign hc

theorem Matcher.Captured.fields (hp : p.Made) {captures : List (Capture F)} (h : m.Captured p url captures) :
    captures.filterMap (·.segment.field?) = p.fields := by
  have hmap : captures.filterMap (·.segment.field?) = (captures.map Capture.segment).filterMap Segment.field? := by
    rw [List.filterMap_map]
    rfl
  rw [hmap, h.segments hp, List.filterMap_filter, Pattern.fields]
  refine List.filterMap_congr fun s _ => ?_
  cases s <;> rfl

theorem Matcher.exists_bound (hp : p.Made) {bs : Bindings F} (h : m.bindings p url = .ok bs) :
    ∃ captures query?, m.Captured p url captures ∧
      List.Forall₂ (Bindings.Bound m.options query?) (captures.filter (!·.isUnset m.options)) bs := by
  obtain ⟨captures, query?, hc, hb⟩ := exists_captured h
  exact ⟨captures, query?, hc, (Bindings.ofCaptures_eq_ok fun c hm => (hc.mem_segments hp hm).2).mp hb⟩

theorem Matcher.fields_sublist (hp : p.Made) {bs : Bindings F} (h : m.bindings p url = .ok bs) :
    (bs.map Prod.fst).Sublist p.fields := by
  obtain ⟨captures, query?, hc, hb⟩ := exists_bound hp h
  rw [Bindings.fst_eq_fields hb, ← hc.fields hp]
  exact List.filter_sublist.filterMap _

theorem Matcher.nodup_fields (hp : p.Made) {bs : Bindings F} (h : m.bindings p url = .ok bs) :
    (bs.map Prod.fst).Nodup := (fields_sublist hp h).nodup hp.wellFormed.nodup

theorem Matcher.not_mem_of_isUnset (hp : p.Made) {bs : Bindings F} (h : m.bindings p url = .ok bs)
    {captures : List (Capture F)} (hc : m.Captured p url captures) {c : Capture F} (hm : c ∈ captures)
    (hu : c.isUnset m.options = true) {f : F} (hf : c.segment.field? = some f) : f ∉ bs.map Prod.fst := by
  obtain ⟨captures', query?, hc', hb⟩ := exists_bound hp h
  cases hc.unique hc'
  have hnodup := hp.wellFormed.nodup
  rw [← Pattern.fields, ← hc.fields hp, ← ((List.filter_append_perm (·.isUnset m.options) captures).filterMap _).nodup_iff,
    List.filterMap_append] at hnodup
  rw [Bindings.fst_eq_fields hb]
  have hleft : f ∈ (captures.filter (·.isUnset m.options)).filterMap (·.segment.field?) :=
    List.mem_filterMap.mpr ⟨c, List.mem_filter.mpr ⟨hm, hu⟩, hf⟩
  intro hright
  exact (List.nodup_append.mp hnodup).2.2 f hleft f (by simpa using hright) rfl

/-- A match binds the fields of the pattern in its order, each to a value of the kind that its
placeholder says and its declaration too, and none of them twice; only empty lists are left out where
that is asked for. So as many fields are assigned as there are assignments. -/
theorem bindings_follow_fields (hp : p.Made) {bs : Bindings F} (h : m.bindings p url = .ok bs) :
    ∃ captures, m.Captured p url captures ∧ captures.map Capture.segment = p.segments.filter Segment.isPlaceholder ∧
      captures.filterMap (·.segment.field?) = p.fields ∧
      List.Forall₂ (fun c b => c.segment.field? = some b.1 ∧ c.segment.kind? = some b.2.kind)
        (captures.filter (!·.isUnset m.options)) bs ∧
      (bs.map Prod.fst).Nodup ∧
      (∀ b ∈ bs, ∀ k, Vocabulary.kind? b.1 = some k → b.2.kind = k) ∧
      ∀ {R : Type} [Record R F] (record : R),
        (Bindings.commit bs).run record = ((bs.map Prod.fst).toFinset.card, Bindings.store record bs) := by
  obtain ⟨captures, query?, hc, hb⟩ := Matcher.exists_bound hp h
  have hnodup := Matcher.nodup_fields hp h
  refine ⟨captures, hc, hc.segments hp, hc.fields hp, hb.imp fun c b hbound => ⟨hbound.field?, hbound.kind?⟩, hnodup,
    ?_, ?_⟩
  · intro b hbs k hk
    obtain ⟨c, hmem, hbound⟩ := exists_rel_of_mem hb hbs
    have hseg := (hc.mem_segments hp (List.mem_of_mem_filter hmem)).1
    have hdeclared := hp.wellFormed.kinds _ hseg b.1 hbound.field? k hk
    rw [hbound.kind?] at hdeclared
    exact Option.some.inj hdeclared
  · intro R _ record
    rw [Bindings.commit_run, List.toFinset_card_of_nodup hnodup, List.length_map]

end

theorem bindings_follow_fields_unset :
    let s : Schema := [⟨"id".toList, some .scalar, []⟩, ⟨"tags".toList, some .list, []⟩, ⟨"ids".toList, some .list, []⟩]
    let id : s.Field := ⟨⟨0, by decide⟩⟩
    let ids : s.Field := ⟨⟨2, by decide⟩⟩
    let m : Matcher := ⟨{ emptyList := .unset }, none⟩
    let bs : Bindings s.Field := [(id, .text ['7']), (ids, .list [['a'], ['b']])]
    ∃ p : Pattern s.Field, Pattern.ofTemplate "/\x7bid\x7d?t=\x7btags|,\x7d&i=\x7bids|;\x7d".toList = .ok p ∧
      m.bindings p "https://example.com/7?t=&i=a;b".toList = .ok bs ∧ (bs.map Prod.fst).Nodup ∧
      (∀ b ∈ bs, ∀ k, Vocabulary.kind? b.1 = some k → b.2.kind = k) ∧
      ((Bindings.commit bs).run NamedValues.empty).1 = 2 := by
  intro s id ids m bs
  let tags : s.Field := ⟨⟨1, by decide⟩⟩
  let p : Pattern s.Field :=
    .of [.literal ['/'], .field id, .literal "?t=".toList, .list tags ',', .literal "&i=".toList, .list ids ';']
  have hp : Pattern.ofTemplate "/\x7bid\x7d?t=\x7btags|,\x7d&i=\x7bids|;\x7d".toList = .ok p := by decide +kernel
  have hb : m.bindings p "https://example.com/7?t=&i=a;b".toList = .ok bs := by decide +kernel
  obtain ⟨-, -, -, -, -, hnodup, hkinds, hcommit⟩ := bindings_follow_fields (.template hp) hb
  refine ⟨p, hp, hb, hnodup, hkinds, ?_⟩
  rw [hcommit]
  rfl

end LinkPattern
