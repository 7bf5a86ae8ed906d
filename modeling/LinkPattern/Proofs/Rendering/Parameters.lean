import LinkPattern.Proofs.Bindings
import LinkPattern.Proofs.Component
import LinkPattern.Proofs.Decoding

/-!
# Parameters of a query

A query is written as names with values, and a pattern has a field for each value. Nothing that ends a
value is in one, so the pattern captures the values, and what they are bound as is what the query says
as a form. Only a value that does not decode is no value to a match, but has U+FFFD in it as a form's.
-/

namespace LinkPattern

open LinkPattern.Alignment

variable {F : Type}

structure Parameter (F : Type) where
  key : Text
  value : Text
  field : F
  deriving DecidableEq, Repr

namespace Parameter

def written (q : Parameter F) : Text := q.key ++ '=' :: q.value

def query (ps : List (Parameter F)) : Text := Text.join '&' (ps.map written)

def segments (opening : Text) : List (Parameter F) → List (Segment F)
  | [] => []
  | q :: ps => .literal (opening ++ q.key ++ ['=']) :: .field q.field :: segments ['&'] ps

def pieces (opening : Text) : List (Parameter F) → List Text
  | [] => []
  | q :: ps => (opening ++ q.key ++ ['=']) :: q.value :: pieces ['&'] ps

/-- Nothing is escaped in the name, and neither name nor value has in it what ends it. -/
structure Legible (e : Escaping) (q : Parameter F) : Prop where
  key : ∀ x ∈ q.key, x ≠ '&' ∧ x ≠ '=' ∧ x ≠ '#'
  shown : e.escape .query q.key = q.key
  value : '&' ∉ q.value

/-! ## What is captured -/

def Leads (e : Escaping) (c : Component) (t : Text) : Prop := e.escape c t = t ∧ c.after t = .query

variable {e : Escaping} {c : Component} {opening : Text} {q : Parameter F} {ps : List (Parameter F)}

theorem Leads.append {a b : Text} (ha : Leads e c a) (hb : Leads e .query b) : Leads e c (a ++ b) := by
  refine ⟨?_, ?_⟩
  · rw [Escaping.escape_append, ha.1, ha.2, hb.1]
  · rw [Component.after_append, ha.2, hb.2]

theorem leads_front (e : Escaping) : Leads e .path "/p?".toList := by
  obtain ⟨special, isOpaque⟩ := e
  cases special <;> cases isOpaque <;> exact ⟨rfl, rfl⟩

theorem leads_ampersand (e : Escaping) : Leads e .query ['&'] := by
  obtain ⟨special, isOpaque⟩ := e
  cases special <;> exact ⟨rfl, rfl⟩

theorem leads_equals (e : Escaping) : Leads e .query ['='] := by
  obtain ⟨special, isOpaque⟩ := e
  cases special <;> exact ⟨rfl, rfl⟩

theorem Legible.leads (h : q.Legible e) (ho : Leads e c opening) : Leads e c (opening ++ q.key ++ ['=']) := by
  have hkey : Component.query.after q.key = .query :=
    Component.after_eq_self fun x hx => Component.opened?_query.mpr (h.key x hx).2.2
  exact (ho.append ⟨h.shown, hkey⟩).append (leads_equals e)

theorem tiles_pieces (h : ∀ q ∈ ps, q.Legible e) (ho : Leads e c opening) :
    Tiles e c (segments opening ps) (pieces opening ps) := by
  induction ps generalizing c opening with
  | nil => exact .nil c
  | cons q ps ih =>
    obtain ⟨hescape, hafter⟩ := (h q (by simp)).leads ho
    have hrest := ih (fun q hq => h q (List.mem_cons_of_mem _ hq)) (leads_ampersand e)
    have hfield : Tiles e .query (.field q.field :: segments ['&'] ps) (q.value :: pieces ['&'] ps) :=
      .placeholder q.value rfl hrest
    rw [← hafter] at hfield
    rw [segments, pieces]
    simpa only [hescape] using hfield.literal

theorem alternates_segments (opening : Text) (ps : List (Parameter F)) : Pattern.Alternates (segments opening ps) := by
  induction ps generalizing opening with
  | nil => exact .nil
  | cons q ps ih =>
    refine List.isChain_cons_cons.mpr ⟨by simp, List.isChain_cons.mpr ⟨fun s hs => ?_, ih ['&']⟩⟩
    cases ps with
    | nil => cases hs
    | cons q' ps => cases hs; simp

theorem separated_pieces (h : ∀ q ∈ ps, q.Legible e) : Separated (segments opening ps) (pieces opening ps) := by
  induction ps generalizing opening with
  | nil =>
    intro i p x y hi
    simp [segments] at hi
  | cons q ps ih =>
    intro i p x y hi hp hl hx hy
    match i with
    | 0 => cases hi; cases hp
    | 1 =>
      cases hx
      cases ps with
      | nil => simp [segments] at hl
      | cons q' ps =>
        cases hy
        exact ⟨'&', rfl, (h q (by simp)).value⟩
    | i + 2 =>
      refine ih (fun q hq => h q (List.mem_cons_of_mem _ hq)) i p x y hi hp ?_ hx hy
      simp only [segments, List.length_cons] at hl
      omega

theorem flatten_pieces (opening : Text) (hps : ps ≠ []) : (pieces opening ps).flatten = opening ++ query ps := by
  induction ps generalizing opening with
  | nil => exact absurd rfl hps
  | cons q ps ih =>
    by_cases hrest : ps = []
    · simp [hrest, pieces, query, written, Text.join]
    · have hquery : query (q :: ps) = written q ++ '&' :: query ps := Text.join_cons (by simpa using hrest) _
      rw [pieces, List.flatten_cons, List.flatten_cons, ih ['&'] hrest, hquery]
      simp [written]

theorem captured_values (start : Nat) (opening : Text) (ps : List (Parameter F)) :
    List.Forall₂ (fun q cap => cap.segment = .field q.field ∧ cap.raw = q.value ∧
        start + opening.octetLength ≤ cap.start ∧ cap.span.stop ≤ start + Text.octetLength (pieces opening ps).flatten)
      ps (capturesOf start (segments opening ps) (pieces opening ps)) := by
  induction ps generalizing start opening with
  | nil => exact .nil
  | cons q ps ih =>
    simp only [segments, pieces, capturesOf, Segment.isPlaceholder_literal, Segment.isPlaceholder_field, ite_true,
      Bool.false_eq_true, ite_false]
    refine .cons ⟨rfl, rfl, ?_, ?_⟩ ((ih _ _).imp fun q' cap hcap => ⟨hcap.1, hcap.2.1, ?_, ?_⟩)
    · simp only [Text.octetLength_append]; omega
    · simp only [Capture.span, List.flatten_cons, Text.octetLength_append]; omega
    · have := hcap.2.2.1
      simp only [Text.octetLength_append] at this ⊢; omega
    · have := hcap.2.2.2
      simp only [List.flatten_cons, Text.octetLength_append] at this ⊢; omega

theorem exists_captured (hps : ps ≠ []) (h : ∀ q ∈ ps, q.Legible e) :
    ∃ captures, align (segments "/p?".toList ps) ("/p?".toList ++ query ps) e = .ok captures ∧
      List.Forall₂ (fun q cap => cap.segment = .field q.field ∧ cap.raw = q.value ∧
        3 ≤ cap.span.start ∧ cap.span.stop ≤ 3 + (query ps).octetLength) ps captures := by
  have halign := align_flatten (alternates_segments "/p?".toList ps) (tiles_pieces h (leads_front e))
    (separated_pieces h) 0
  have hcaptured := captured_values 0 "/p?".toList ps
  rw [flatten_pieces _ hps] at halign hcaptured
  refine ⟨_, halign, hcaptured.imp fun q cap hcap => ?_⟩
  obtain ⟨hs, hraw, hstart, hstop⟩ := hcap
  have hfront : Text.octetLength "/p?".toList = 3 := rfl
  rw [Text.octetLength_append] at hstop
  refine ⟨hs, hraw, ?_, ?_⟩
  · simp only [Capture.span]
    omega
  · omega

/-! ## What a form says -/

theorem pairs_query (hps : ps ≠ []) (h : ∀ q ∈ ps, q.Legible e) :
    Form.pairs (query ps) = ps.map fun q => (Form.decode q.key, Form.decode q.value) := by
  have hamp : ∀ t ∈ ps.map written, '&' ∉ t := by
    intro t ht hm
    obtain ⟨q, hq, rfl⟩ := List.mem_map.mp ht
    rcases List.mem_append.mp hm with hm | hm
    · exact ((h q hq).key '&' hm).1 rfl
    · exact (h q hq).value ((List.mem_cons.mp hm).resolve_left (by decide))
  have hfull : ∀ t ∈ ps.map written, decide (t ≠ []) = true := by
    intro t ht
    obtain ⟨q, -, rfl⟩ := List.mem_map.mp ht
    simp [written]
  rw [Form.pairs, query, Text.splitOn_join (by simpa using hps) hamp, List.filter_eq_self.mpr hfull, List.map_map]
  refine List.map_congr_left fun q hq => ?_
  have hcut : Text.cut '=' (written q) = some (q.key, q.value) :=
    Text.cut_append_cons q.value fun hm => ((h q hq).key '=' hm).2.1 rfl
  simp only [Function.comp_apply, Form.pair, hcut]

theorem decode_eq_form {value t : Text} (h : Bindings.decode true value = .ok t) : Form.decode value = t :=
  Utf8.decodeLossy_eq_of_decode (mapError_eq_ok.mp h)

theorem exists_decode_eq_error {value : Text} :
    (∃ e, Bindings.decode true value = .error e) ↔ ∃ cause, Percent.decode value = .error cause := by
  have hagree := Percent.decode_plusToSpace value
  constructor
  · intro ⟨e, h⟩
    obtain ⟨cause, hcause, -⟩ := mapError_eq_error.mp h
    exact ⟨cause, hagree.eq_error_iff.mpr hcause⟩
  · intro ⟨cause, h⟩
    exact ⟨_, mapError_eq_error.mpr ⟨cause, hagree.eq_error_iff.mp h, rfl⟩⟩

theorem replacement_mem_form {value : Text} {cause : Utf8.DecodeError} (h : Percent.decode value = .error cause) :
    '\uFFFD' ∈ Form.decode value :=
  Utf8.replacement_mem_of_decode ((Percent.decode_plusToSpace value).eq_error_iff.mp h)

/-! ## What is bound -/

def binding (q : Parameter F) : Except MatchError (F × Value) :=
  (Bindings.decode true q.value).map fun t => (q.field, .text t)

theorem ofCapture_eq_binding {o : Options} (hfield : o.emptyField = .bind) {query? : Option Span} {cap : Capture F}
    (hs : cap.segment = .field q.field) (hraw : cap.raw = q.value)
    (hplus : Bindings.plusAsSpace o query? cap = true) :
    Bindings.ofCapture o query? cap = q.binding.map some := by
  have hkept : ¬ (q.value = [] ∧ o.emptyField = .noMatch) := by
    rw [hfield]
    simp
  unfold Bindings.ofCapture
  simp only [hs, hkept, ite_false, hplus, hraw, binding]
  cases Bindings.decode true q.value <;> rfl

theorem eq_of_binding {b : F × Value} (h : q.binding = .ok b) : (q.field, .text (Form.decode q.value)) = b := by
  obtain ⟨t, ht, hb⟩ := map_eq_ok.mp h
  rw [decode_eq_form ht, hb]

theorem exists_binding_eq_error : (∃ e, q.binding = .error e) ↔ ∃ cause, Percent.decode q.value = .error cause := by
  rw [← exists_decode_eq_error]
  simp only [binding, map_eq_error]

end Parameter

/-- A pattern with a field for each value of a query captures these values as they are written. With plus
signs as spaces and empty values allowed, its fields are bound to what the query says as a form, unless a
value does not decode: then nothing is bound, and U+FFFD stands in that value of the form. -/
theorem parameters_bind_form_values {ps : List (Parameter F)} (hps : ps ≠ []) {e : Escaping}
    (h : ∀ q ∈ ps, q.Legible e) (o : Options) {u : Url} (hu : u.query? = some (Parameter.query ps)) :
    let query := Parameter.query ps
    let query? : Option Span := some ⟨3, 3 + query.octetLength⟩
    let run := Bindings.ofCaptures { o with emptyField := .bind, queryPlusAsSpace := true } query?
    ∃ captures, align (Parameter.segments "/p?".toList ps) ("/p?".toList ++ query) e = .ok captures ∧
      captures.map Capture.segment = ps.map (.field ·.field) ∧ captures.map Capture.raw = ps.map Parameter.value ∧
      (∀ bs, run captures = .ok bs →
        bs.map Prod.fst = ps.map Parameter.field ∧ bs.map Prod.snd = u.queryPairs.map (.text ·.2)) ∧
      ((∃ error, run captures = .error error) ↔ ∃ q ∈ ps, ∃ cause, Percent.decode q.value = .error cause) ∧
      List.Forall₂ (fun q pair => (∃ cause, Percent.decode q.value = .error cause) → '\uFFFD' ∈ pair.2)
        ps u.queryPairs := by
  intro query query? run
  obtain ⟨captures, halign, hcaptured⟩ := Parameter.exists_captured hps h
  have hrun : run captures = ps.mapM Parameter.binding := by
    refine Bindings.ofCaptures_eq_mapM (hcaptured.imp fun q cap hcap => ?_)
    obtain ⟨hs, hraw, hspan⟩ := hcap
    refine Parameter.ofCapture_eq_binding rfl hs hraw ?_
    simpa [Bindings.plusAsSpace, query?, Span.encloses] using hspan
  have hpairs : u.queryPairs = ps.map fun q => (Form.decode q.key, Form.decode q.value) := by
    rw [Url.queryPairs, hu]
    exact Parameter.pairs_query hps h
  refine ⟨captures, halign, ?_, ?_, ?_, ?_, ?_⟩
  · exact (map_eq_map hcaptured fun q cap hcap => hcap.1.symm).symm
  · exact (map_eq_map hcaptured fun q cap hcap => hcap.2.1.symm).symm
  · intro bs hbs
    have hbound := mapM_eq_ok.mp (hrun.symm.trans hbs)
    refine ⟨?_, ?_⟩
    · exact (map_eq_map hbound fun q b hb => congrArg Prod.fst (Parameter.eq_of_binding hb)).symm
    · rw [hpairs, List.map_map]
      exact (map_eq_map hbound fun q b hb => congrArg Prod.snd (Parameter.eq_of_binding hb)).symm
  · rw [hrun, exists_mapM_eq_error]
    simp only [Parameter.exists_binding_eq_error]
  · rw [hpairs, List.forall₂_map_right_iff, List.forall₂_same]
    intro q _ herror
    obtain ⟨cause, hcause⟩ := herror
    exact Parameter.replacement_mem_form hcause

theorem parameters_bind_form_values_signs :
    let e : Escaping := ⟨true, false⟩
    let o : Options := { emptyField := .bind, queryPlusAsSpace := true }
    let ps : List (Parameter Nat) := [⟨['a'], "x=1".toList, 1⟩, ⟨['b'], "%+%2B".toList, 2⟩, ⟨[], [], 3⟩]
    let bs : Bindings Nat := [(1, .text "x=1".toList), (2, .text "% +".toList), (3, .text [])]
    let broken : Parameter Nat := ⟨['a'], "+%C3".toList, 1⟩
    let url (query : String) : Url := ⟨"https".toList, false, "/p".toList, some query.toList, none⟩
    (∃ captures, align (Parameter.segments "/p?".toList ps) "/p?a=x=1&b=%+%2B&=".toList e = .ok captures ∧
      Bindings.ofCaptures o (some ⟨3, 18⟩) captures = .ok bs ∧
      bs.map Prod.snd = (url "a=x=1&b=%+%2B&=").queryPairs.map (.text ·.2)) ∧
    ∃ captures error, align (Parameter.segments "/p?".toList [broken]) "/p?a=+%C3".toList e = .ok captures ∧
      Bindings.ofCaptures o (some ⟨3, 9⟩) captures = .error error ∧
      ∀ pair ∈ (url "a=+%C3").queryPairs, '\uFFFD' ∈ pair.2 := by
  intro e o ps bs broken url
  refine ⟨?_, ?_⟩
  · have hlegible : ∀ q ∈ ps, q.Legible e := by
      intro q hq
      simp only [ps, List.mem_cons, List.not_mem_nil, or_false] at hq
      rcases hq with rfl | rfl | rfl
      · exact ⟨by simp, rfl, by decide⟩
      · exact ⟨by simp, rfl, by decide⟩
      · exact ⟨by simp, rfl, by decide⟩
    let captures : List (Capture Nat) :=
      [⟨.field 1, 5, "x=1".toList⟩, ⟨.field 2, 11, "%+%2B".toList⟩, ⟨.field 3, 18, []⟩]
    have halign : align (Parameter.segments "/p?".toList ps) "/p?a=x=1&b=%+%2B&=".toList e = .ok captures := by
      decide +kernel
    have hbs : Bindings.ofCaptures o (some ⟨3, 18⟩) captures = .ok bs := by decide +kernel
    have hquery : (url "a=x=1&b=%+%2B&=").query? = some (Parameter.query ps) := by decide
    obtain ⟨captures', halign', -, -, hbound, -⟩ := parameters_bind_form_values (by simp [ps]) hlegible o hquery
    cases halign.symm.trans halign'
    exact ⟨captures, halign, hbs, (hbound bs hbs).2⟩
  · have hlegible : ∀ q ∈ [broken], q.Legible e := by
      intro q hq
      obtain rfl := List.mem_singleton.mp hq
      exact ⟨by simp [broken], rfl, by decide⟩
    have hbroken : Percent.decode broken.value = .error (.incomplete 1) := by decide +kernel
    have hquery : (url "a=+%C3").query? = some (Parameter.query [broken]) := by decide
    obtain ⟨captures, halign, -, -, -, herror, hform⟩ := parameters_bind_form_values (by simp) hlegible o hquery
    obtain ⟨error, hrun⟩ := herror.mpr ⟨broken, by simp, _, hbroken⟩
    refine ⟨captures, error, halign, hrun, fun pair hpair => ?_⟩
    obtain ⟨q, hq, h⟩ := exists_rel_of_mem hform hpair
    obtain rfl := List.mem_singleton.mp hq
    exact h ⟨_, hbroken⟩

end LinkPattern
