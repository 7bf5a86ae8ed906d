import LinkPattern.Proofs.Bindings
import LinkPattern.Proofs.Decoding

/-!
# Options that filter

What becomes of empty captures and of what a pattern does not speak of is said by options of their own,
and each only filters. Empty lists that are left unset are missing from what is bound otherwise, and
empty values that are refused fail exactly the matches that would bind one. Strictness fails the URLs
that have more in them and no others.
-/

namespace LinkPattern

variable {F : Type}

namespace Bindings

variable {o : Options} {query? : Option Span} {c : Capture F} {b : F × Value}

/-! ## Empty values -/

theorem items_ne_nil {plusAsSpace : Bool} {d : Char} {raw : Text} {items : List Text}
    (h : List.Forall₂ (fun part t => decode plusAsSpace part = .ok t) (Text.splitOn d raw) items) : items ≠ [] := by
  intro hitems
  rw [hitems, List.forall₂_nil_right_iff] at h
  exact Text.splitOn_ne_nil d raw h

theorem Bound.eq_list_nil_iff (h : Bound o query? c b) :
    b.2 = .list [] ↔ c.segment.kind? = some .list ∧ c.raw = [] := by
  cases h with
  | text hraw ht => simp [Segment.kind?]
  | empty ho => simp [Segment.kind?]
  | items hraw hitems => simp [hraw, items_ne_nil hitems]

theorem Bound.eq_text_nil_iff (h : Bound o query? c b) :
    b.2 = .text [] ↔ c.segment.kind? = some .scalar ∧ c.raw = [] := by
  cases h with
  | @text f start raw t hraw ht =>
    have hempty : t = [] ↔ raw = [] := by
      constructor
      · intro h
        rw [h] at ht
        exact decode_eq_ok_nil.mp ht
      · intro h
        rw [decode_eq_ok_nil.mpr h] at ht
        exact (Except.ok.inj ht).symm
    simp [Segment.kind?, hempty]
  | empty ho => simp [Segment.kind?]
  | items hraw hitems => simp [Segment.kind?]

/-! ## One capture -/

theorem ofCapture_emptyList (h : ¬ (c.segment.kind? = some .list ∧ c.raw = [])) (x y : EmptyList) :
    ofCapture { o with emptyList := x } query? c = ofCapture { o with emptyList := y } query? c := by
  obtain ⟨s, start, raw⟩ := c
  cases s with
  | literal t => rfl
  | field f => rfl
  | list f d =>
    have hraw : raw ≠ [] := fun hraw => h ⟨rfl, hraw⟩
    simp only [ofCapture, hraw, ite_false]
    rfl

theorem ofCapture_emptyField (h : ¬ (c.segment.kind? = some .scalar ∧ c.raw = [])) (x y : EmptyField) :
    ofCapture { o with emptyField := x } query? c = ofCapture { o with emptyField := y } query? c := by
  obtain ⟨s, start, raw⟩ := c
  cases s with
  | literal t => rfl
  | field f =>
    have hraw : raw ≠ [] := fun hraw => h ⟨rfl, hraw⟩
    simp only [ofCapture, hraw, false_and, ite_false]
    rfl
  | list f d => rfl

theorem ofCapture_unset (o : Options) (query? : Option Span) (c : Capture F) :
    ofCapture { o with emptyList := .unset } query? c =
      (ofCapture { o with emptyList := .empty } query? c).map (Option.filter (·.2 ≠ .list [])) := by
  by_cases hc : c.segment.kind? = some .list ∧ c.raw = []
  · obtain ⟨s, start, raw⟩ := c
    obtain ⟨hs, rfl⟩ := hc
    cases s with
    | literal t => cases hs
    | field f => cases hs
    | list f d => rfl
  · rw [ofCapture_emptyList hc .unset .empty]
    cases hx : ofCapture { o with emptyList := .empty } query? c with
    | error e => rfl
    | ok b? =>
      cases b? with
      | none => rfl
      | some b =>
        have hb : b.2 ≠ .list [] := mt (ofCapture_eq_some.mp hx).eq_list_nil_iff.mp hc
        exact congrArg Except.ok (Option.filter_some_pos (by simpa using hb)).symm

/-- What becomes of a result when texts may not be empty. The capture of an empty text fails at once,
so it is before an error that comes later. -/
inductive Rejects : Except MatchError (Bindings F) → Except MatchError (Bindings F) → Prop
  | kept {bs : Bindings F} : (∀ b ∈ bs, b.2 ≠ .text []) → Rejects (.ok bs) (.ok bs)
  | empty {bs : Bindings F} : (∃ b ∈ bs, b.2 = .text []) → Rejects (.ok bs) (.error .noMatch)
  | failed (e : MatchError) : Rejects (.error e) (.error e)
  | earlier (e : MatchError) : Rejects (.error e) (.error .noMatch)

theorem Rejects.append {x y x' y' : Except MatchError (Bindings F)} (h : Rejects x y) (h' : Rejects x' y') :
    Rejects (x >>= fun bs => x'.map (bs ++ ·)) (y >>= fun bs => y'.map (bs ++ ·)) := by
  cases h with
  | @kept bs hbs =>
    cases h' with
    | @kept bs' hbs' => exact .kept (List.forall_mem_append.mpr ⟨hbs, hbs'⟩)
    | @empty bs' hbs' =>
      obtain ⟨b, hb, he⟩ := hbs'
      exact .empty ⟨b, List.mem_append_right _ hb, he⟩
    | failed e => exact .failed e
    | earlier e => exact .earlier e
  | @empty bs hbs =>
    obtain ⟨b, hb, he⟩ := hbs
    cases h' with
    | kept => exact .empty ⟨b, List.mem_append_left _ hb, he⟩
    | empty => exact .empty ⟨b, List.mem_append_left _ hb, he⟩
    | failed e => exact .earlier e
    | earlier e => exact .earlier e
  | failed e => exact .failed e
  | earlier e => exact .earlier e

section
variable {x y : Except MatchError (Bindings F)} (h : Rejects x y)
include h

theorem Rejects.eq_ok_iff {bs : Bindings F} : y = .ok bs ↔ x = .ok bs ∧ ∀ b ∈ bs, b.2 ≠ .text [] := by
  cases h with
  | kept hbs =>
    constructor
    · intro h
      cases h
      exact ⟨rfl, hbs⟩
    · exact And.left
  | empty hbs =>
    constructor
    · intro h
      cases h
    · intro ⟨h, hno⟩
      cases h
      obtain ⟨b, hb, he⟩ := hbs
      exact absurd he (hno b hb)
  | failed e => simp
  | earlier e => simp

theorem Rejects.eq_noMatch {bs : Bindings F} (hx : x = .ok bs) (he : ∃ b ∈ bs, b.2 = .text []) : y = .error .noMatch := by
  cases h with
  | kept hbs =>
    cases hx
    obtain ⟨b, hb, he⟩ := he
    exact absurd he (hbs b hb)
  | empty hbs => rfl
  | failed e => cases hx
  | earlier e => rfl

theorem Rejects.eq_error {e : MatchError} (hx : x = .error e) : y = .error e ∨ y = .error .noMatch := by
  cases h with
  | kept hbs => cases hx
  | empty hbs => cases hx
  | failed e => exact .inl hx
  | earlier e => exact .inr rfl

end

theorem ofCapture_rejects (o : Options) (query? : Option Span) (c : Capture F) :
    Rejects ((ofCapture { o with emptyField := .bind } query? c).map Option.toList)
      ((ofCapture { o with emptyField := .noMatch } query? c).map Option.toList) := by
  by_cases hc : c.segment.kind? = some .scalar ∧ c.raw = []
  · obtain ⟨s, start, raw⟩ := c
    obtain ⟨hs, rfl⟩ := hc
    cases s with
    | literal t => cases hs
    | field f =>
      have hbind : ofCapture { o with emptyField := .bind } query? ⟨.field f, start, []⟩ = .ok (some (f, .text [])) :=
        ofCapture_eq_some.mpr (.text (by simp) (decode_eq_ok_nil.mpr rfl))
      rw [hbind]
      exact .empty ⟨(f, .text []), by simp, rfl⟩
    | list f d => cases hs
  · rw [ofCapture_emptyField hc .noMatch .bind]
    cases hx : ofCapture { o with emptyField := .bind } query? c with
    | error e => exact .failed e
    | ok b? =>
      refine .kept fun b hb => ?_
      obtain rfl : b? = some b := Option.mem_toList.mp hb
      exact mt (ofCapture_eq_some.mp hx).eq_text_nil_iff.mp hc

/-! ## All captures -/

theorem ofCaptures_unset (o : Options) (query? : Option Span) (captures : List (Capture F)) :
    ofCaptures { o with emptyList := .unset } query? captures =
      (ofCaptures { o with emptyList := .empty } query? captures).map (List.filter (·.2 ≠ .list [])) := by
  refine ofCaptures_induct (r := fun _ x y => x = y.map (List.filter (·.2 ≠ .list []))) rfl ?_ fun c _ => ?_
  · intro cs cs' x y x' y' h h'
    rw [h, h']
    cases y with
    | error e => rfl
    | ok bs =>
      cases y' with
      | error e => rfl
      | ok bs' => exact congrArg Except.ok (List.filter_append bs bs').symm
  · rw [ofCapture_unset]
    cases ofCapture { o with emptyList := .empty } query? c with
    | error e => rfl
    | ok b? => exact congrArg Except.ok Option.toList_filter

theorem ofCaptures_rejects (o : Options) (query? : Option Span) (captures : List (Capture F)) :
    Rejects (ofCaptures { o with emptyField := .bind } query? captures)
      (ofCaptures { o with emptyField := .noMatch } query? captures) :=
  ofCaptures_induct (r := fun _ => Rejects) (.kept (by simp)) Rejects.append fun c _ => ofCapture_rejects o query? c

theorem ofCaptures_strict (x y : Bool) (captures : List (Capture F)) :
    ofCaptures { o with strictComponents := x } query? captures =
      ofCaptures { o with strictComponents := y } query? captures := by
  refine ofCaptures_induct (r := fun _ => Eq) rfl ?_ fun c _ => rfl
  intro cs cs' x y x' y' h h'
  rw [h, h']

end Bindings

/-! ## Matches -/

def Pattern.Neglects (p : Pattern F) (u : Url) : Prop :=
  (∃ q, u.query? = some q ∧ q ≠ [] ∧ p.addressesQuery = false) ∨
    ∃ f, u.fragment? = some f ∧ f ≠ [] ∧ p.addressesFragment = false

theorem Pattern.neglects_iff {p : Pattern F} {u : Url} : p.Neglects u ↔ p.leavesOut u = true := by
  have hpart : ∀ (t? : Option Text) (addresses : Bool),
      (∃ t, t? = some t ∧ t ≠ [] ∧ addresses = false) ↔ (t?.any (· ≠ []) && !addresses) = true := by
    intro t? addresses
    cases t? <;> simp
  rw [Neglects, leavesOut, Bool.or_eq_true, hpart, hpart]

namespace Matcher

variable (o : Options) (base? : Option Url) (p : Pattern F) (url : Text)

theorem bindings_unset :
    bindings ⟨{ o with emptyList := .unset }, base?⟩ p url =
      (bindings ⟨{ o with emptyList := .empty }, base?⟩ p url).map (List.filter (·.2 ≠ .list [])) := by
  obtain ⟨e, h⟩ | ⟨query?, captures, h⟩ := bindings_eq_ofCaptures base? o.strictComponents p url
  · rw [h { o with emptyList := .unset } rfl, h { o with emptyList := .empty } rfl]
    rfl
  · rw [h { o with emptyList := .unset } rfl, h { o with emptyList := .empty } rfl]
    exact Bindings.ofCaptures_unset o query? captures

theorem bindings_rejects :
    Bindings.Rejects (bindings ⟨{ o with emptyField := .bind }, base?⟩ p url)
      (bindings ⟨{ o with emptyField := .noMatch }, base?⟩ p url) := by
  obtain ⟨e, h⟩ | ⟨query?, captures, h⟩ := bindings_eq_ofCaptures base? o.strictComponents p url
  · rw [h { o with emptyField := .bind } rfl, h { o with emptyField := .noMatch } rfl]
    exact .failed e
  · rw [h { o with emptyField := .bind } rfl, h { o with emptyField := .noMatch } rfl]
    exact Bindings.ofCaptures_rejects o query? captures

variable {base? p url}

theorem bindings_strict {u : Url} (hu : Url.parse url base? = .ok u) :
    bindings ⟨{ o with strictComponents := true }, base?⟩ p url =
      if p.leavesOut u = true then .error .noMatch
      else bindings ⟨{ o with strictComponents := false }, base?⟩ p url := by
  rw [bindings_of_parse hu, bindings_of_parse hu]
  by_cases h : p.leavesOut u = true
  · simp only [h, Bool.true_and, ite_true]
  · simp only [h, Bool.true_and, Bool.false_and, Bool.false_eq_true, ite_false]
    exact congrArg _ (funext (Bindings.ofCaptures_strict true false))

end Matcher

/-- Leaving empty lists unset takes these from what is bound and changes nothing else. Refusing empty
texts keeps what has none and fails the other matches; where binding fails anyway, it fails so too or
sooner. Strictness fails the URLs that have more than the pattern addresses and changes nothing else. -/
theorem options_filter_bindings (o : Options) (base? : Option Url) (p : Pattern F) (url : Text) :
    let run := fun o => Matcher.bindings ⟨o, base?⟩ p url
    (run { o with emptyList := .unset } = (run { o with emptyList := .empty }).map (List.filter (·.2 ≠ .list []))) ∧
    ((∀ bs, run { o with emptyField := .noMatch } = .ok bs ↔
        run { o with emptyField := .bind } = .ok bs ∧ ∀ b ∈ bs, b.2 ≠ .text []) ∧
      (∀ bs, run { o with emptyField := .bind } = .ok bs → (∃ b ∈ bs, b.2 = .text []) →
        run { o with emptyField := .noMatch } = .error .noMatch) ∧
      ∀ e, run { o with emptyField := .bind } = .error e →
        run { o with emptyField := .noMatch } = .error e ∨ run { o with emptyField := .noMatch } = .error .noMatch) ∧
    (∀ u, Url.parse url base? = .ok u → p.Neglects u → run { o with strictComponents := true } = .error .noMatch) ∧
    ((¬ ∃ u, Url.parse url base? = .ok u ∧ p.Neglects u) →
      run { o with strictComponents := true } = run { o with strictComponents := false }) := by
  intro run
  refine ⟨Matcher.bindings_unset o base? p url, ?_, ?_, ?_⟩
  · have hrejects : Bindings.Rejects (run { o with emptyField := .bind }) (run { o with emptyField := .noMatch }) :=
      Matcher.bindings_rejects o base? p url
    generalize run { o with emptyField := .bind } = x at hrejects ⊢
    generalize run { o with emptyField := .noMatch } = y at hrejects ⊢
    exact ⟨fun bs => hrejects.eq_ok_iff, fun bs => hrejects.eq_noMatch, fun e => hrejects.eq_error⟩
  · intro u hu hn
    exact (Matcher.bindings_strict o hu).trans (if_pos (Pattern.neglects_iff.mp hn))
  · intro h
    cases hu : Url.parse url base? with
    | error cause =>
      have hmalformed : ∀ o, run o = .error (.malformed cause) := fun _ => Matcher.bindings_of_malformed hu
      rw [hmalformed, hmalformed]
    | ok u => exact (Matcher.bindings_strict o hu).trans (if_neg fun hl => h ⟨u, hu, Pattern.neglects_iff.mpr hl⟩)

theorem options_filter_bindings_empty :
    let o : Options := { emptyField := .bind }
    let p : Pattern Text := .of [.literal ['/'], .field ['a'], .literal "?t=".toList, .list ['t'] ',']
    let run := fun o => Matcher.bindings ⟨o, none⟩ p "https://example.com/?t=#f".toList
    run o = .ok [(['a'], .text []), (['t'], .list [])] ∧
      run { o with emptyList := .unset } = .ok [(['a'], .text [])] ∧
      run { o with emptyField := .noMatch } = .error .noMatch ∧
      run { o with strictComponents := true } = .error .noMatch := by
  intro o p run
  have hbase : run o = .ok [(['a'], .text []), (['t'], .list [])] := by decide +kernel
  obtain ⟨hunset, ⟨-, hempty, -⟩, hstrict, -⟩ := options_filter_bindings o none p "https://example.com/?t=#f".toList
  refine ⟨hbase, hunset.trans ?_, hempty _ hbase ⟨_, List.mem_cons_self, rfl⟩, ?_⟩
  · exact (congrArg _ hbase).trans rfl
  · let u : Url := ⟨"https".toList, false, ['/'], some "t=".toList, some ['f']⟩
    have hu : Url.parse "https://example.com/?t=#f".toList none = .ok u := by decide +kernel
    exact hstrict u hu (.inr ⟨['f'], rfl, by simp, by decide +kernel⟩)

end LinkPattern
