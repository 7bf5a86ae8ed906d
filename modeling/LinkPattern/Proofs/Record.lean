import LinkPattern.Proofs.Bindings

/-!
# Records over many attempts

Attempts to match are made on one record, each with a matcher, a pattern and a URL of its own. One that
fails leaves the record as it is, and one that succeeds writes the fields that it binds and no other.
So in the end a name has the value that the last attempt to bind it gave it, or the one from before.
-/

namespace LinkPattern

/-- All values are there before the first is assigned. -/
theorem Matcher.attempt_run {R F : Type} [Record R F] (m : Matcher) (p : Pattern F) (url : Text) (record : R) :
    (m.attempt p url).run.run record =
      match m.matchUrl p url record with
      | .ok record' => (.ok (), record')
      | .error e => (.error e, record) := by
  unfold attempt matchUrl
  cases h : m.bindings p url with
  | ok bs => exact congrArg (fun s => (Except.ok (), s.2)) (Bindings.commit_run bs record)
  | error e => rfl

/-! ## Values by name -/

section
variable {bs : Bindings Text} {n : Text}

theorem lookup_eq_some (h : (bs.map Prod.fst).Nodup) {v : Value} : bs.lookup n = some v ↔ (n, v) ∈ bs := by
  induction bs with
  | nil => simp
  | cons b bs ih =>
    obtain ⟨f, w⟩ := b
    obtain ⟨hfresh, hrest⟩ := List.nodup_cons.mp h
    by_cases hn : n = f
    · subst hn
      have hnot : (n, v) ∉ bs := fun hm => hfresh (List.mem_map.mpr ⟨_, hm, rfl⟩)
      simp [hnot, eq_comm]
    · have hne : (n == f) = false := by simpa using hn
      simp [List.lookup_cons, hne, ih hrest, hn]

theorem lookup_eq_none : bs.lookup n = none ↔ n ∉ bs.map Prod.fst := by
  induction bs with
  | nil => simp
  | cons b bs ih =>
    obtain ⟨f, w⟩ := b
    by_cases hn : n = f
    · simp [hn]
    · have hne : (n == f) = false := by simpa using hn
      simp only [List.lookup_cons, hne, ih, List.map_cons, List.mem_cons, hn, false_or]

theorem NamedValues.get?_store (h : (bs.map Prod.fst).Nodup) (record : NamedValues) :
    (Bindings.store record bs).get? n = (bs.lookup n).or (record.get? n) := by
  induction bs generalizing record with
  | nil => rfl
  | cons b bs ih =>
    obtain ⟨f, w⟩ := b
    obtain ⟨hfresh, hrest⟩ := List.nodup_cons.mp h
    have hassign : (Record.assign record f w).get? n = if n = f then some w else record.get? n :=
      record.get?_assign f w n
    have hstore : Bindings.store record ((f, w) :: bs) = Bindings.store (Record.assign record f w) bs := rfl
    rw [hstore, ih hrest, hassign]
    by_cases hn : n = f
    · subst hn
      simp [lookup_eq_none.mpr hfresh]
    · have hne : (n == f) = false := by simpa using hn
      simp [List.lookup_cons, hne, hn]

end

/-! ## Attempts -/

structure Attempt where
  matcher : Matcher
  pattern : Pattern Text
  url : Text

namespace Attempt

variable (a : Attempt) (record : NamedValues) (n : Text)

def bindings : Except MatchError (Bindings Text) := a.matcher.bindings a.pattern a.url

def run : StateM NamedValues (Except MatchError Unit) := (a.matcher.attempt a.pattern a.url).run

/-- One attempt after another, whatever becomes of each. -/
def runAll (attempts : List Attempt) : StateM NamedValues (List (Except MatchError Unit)) := attempts.mapM run

def value? : Option Value := a.bindings.toOption.bind (List.lookup n)

/-! ### One attempt -/

section
variable {a record n}

theorem run_of_ok {bs : Bindings Text} (h : a.bindings = .ok bs) :
    a.run.run record = (.ok (), Bindings.store record bs) := by
  have hmatch : a.matcher.matchUrl a.pattern a.url record = .ok (Bindings.store record bs) :=
    map_eq_ok.mpr ⟨bs, h, rfl⟩
  refine (a.matcher.attempt_run a.pattern a.url record).trans ?_
  rw [hmatch]

theorem run_of_error {e : MatchError} (h : a.bindings = .error e) : a.run.run record = (.error e, record) := by
  have hmatch : a.matcher.matchUrl a.pattern a.url record = .error e := map_eq_error.mpr h
  refine (a.matcher.attempt_run a.pattern a.url record).trans ?_
  rw [hmatch]

theorem run_fst : (a.run.run record).1 = a.bindings.map fun _ => () := by
  cases h : a.bindings with
  | ok bs => rw [run_of_ok h]; rfl
  | error e => rw [run_of_error h]; rfl

variable (hp : a.pattern.Made)
include hp

theorem value?_eq_some {v : Value} : a.value? n = some v ↔ ∃ bs, a.bindings = .ok bs ∧ (n, v) ∈ bs := by
  unfold value?
  cases h : a.bindings with
  | ok bs => simp [Except.toOption, lookup_eq_some (Matcher.nodup_fields hp h)]
  | error e => simp [Except.toOption]

theorem get?_run : (a.run.run record).2.get? n = (a.value? n).or (record.get? n) := by
  unfold value?
  cases h : a.bindings with
  | ok bs => rw [run_of_ok h]; exact NamedValues.get?_store (Matcher.nodup_fields hp h) record
  | error e => rw [run_of_error h]; rfl

theorem value?_of_not_mem (h : n ∉ a.pattern.fields) : a.value? n = none := by
  refine Option.eq_none_iff_forall_ne_some.mpr fun v hv => ?_
  obtain ⟨bs, hbs, hm⟩ := (value?_eq_some hp).mp hv
  exact h ((Matcher.fields_sublist hp hbs).subset (List.mem_map_of_mem (f := Prod.fst) hm))

theorem value?_of_isUnset {captures : List (Capture Text)} (hc : a.matcher.Captured a.pattern a.url captures)
    {c : Capture Text} (hm : c ∈ captures) (hu : c.isUnset a.matcher.options = true) (hf : c.segment.field? = some n) :
    a.value? n = none := by
  refine Option.eq_none_iff_forall_ne_some.mpr fun v hv => ?_
  obtain ⟨bs, hbs, hn⟩ := (value?_eq_some hp).mp hv
  exact Matcher.not_mem_of_isUnset hp hbs hc hm hu hf (List.mem_map_of_mem (f := Prod.fst) hn)

end

/-! ### Many attempts -/

theorem runAll_cons (rest : List Attempt) :
    (runAll (a :: rest)).run record =
      ((a.run.run record).1 :: ((runAll rest).run (a.run.run record).2).1, ((runAll rest).run (a.run.run record).2).2) := by
  unfold runAll
  rw [List.mapM_cons]
  rfl

variable {n} in
theorem get?_runAll {attempts : List Attempt} (hp : ∀ a ∈ attempts, a.pattern.Made) (record : NamedValues) :
    ((runAll attempts).run record).2.get? n = (attempts.reverse.findSome? (·.value? n)).or (record.get? n) := by
  induction attempts generalizing record with
  | nil => rfl
  | cons a rest ih =>
    rw [runAll_cons, ih (fun b hb => hp b (List.mem_cons_of_mem _ hb)), get?_run (hp a (by simp)), List.reverse_cons,
      List.findSome?_append, List.findSome?_singleton, Option.or_assoc]

theorem results_runAll (attempts : List Attempt) (record : NamedValues) :
    ((runAll attempts).run record).1 = attempts.map fun a => a.bindings.map fun _ => () := by
  induction attempts generalizing record with
  | nil => rfl
  | cons a rest ih => rw [runAll_cons, ih, run_fst, List.map_cons]

/-- After any attempts a name has the value of the last one that bound it, if there is one, and else what
it had. An attempt fails where it binds nothing at all, and then the record stays as it is; where it
succeeds, it writes neither fields of no placeholder nor lists that are to stay unset. -/
theorem runAll_keeps_last {attempts : List Attempt} (hp : ∀ a ∈ attempts, a.pattern.Made) (record : NamedValues) :
    (∀ n, ((runAll attempts).run record).2.get? n = (attempts.reverse.findSome? (·.value? n)).or (record.get? n)) ∧
      ((runAll attempts).run record).1 = (attempts.map fun a => a.bindings.map fun _ => ()) ∧
      ∀ a ∈ attempts, (∀ n v, a.value? n = some v ↔ ∃ bs, a.bindings = .ok bs ∧ (n, v) ∈ bs) ∧
        (a.matcher.isMatch a.pattern a.url = true ↔ ∃ bs, a.bindings = .ok bs) ∧
        ∀ r : NamedValues, ((a.run.run r).1 = .ok () ↔ a.matcher.isMatch a.pattern a.url = true) ∧
          (∀ e, (a.run.run r).1 = .error e → (a.run.run r).2 = r) ∧
          (∀ n, n ∉ a.pattern.fields → (a.run.run r).2.get? n = r.get? n) ∧
          ∀ captures, a.matcher.Captured a.pattern a.url captures → ∀ c ∈ captures,
            c.isUnset a.matcher.options = true → ∀ n ∈ c.segment.field?, (a.run.run r).2.get? n = r.get? n := by
  refine ⟨fun n => get?_runAll hp record, results_runAll attempts record, fun a ha => ?_⟩
  have hmade := hp a ha
  have hmatch : a.matcher.isMatch a.pattern a.url = true ↔ ∃ bs, a.bindings = .ok bs := by
    unfold Matcher.isMatch
    show a.bindings.isOk = true ↔ _
    cases a.bindings <;> simp [Except.isOk, Except.toBool]
  refine ⟨fun n v => value?_eq_some hmade, hmatch, fun r => ⟨?_, ?_, ?_, ?_⟩⟩
  · rw [run_fst, hmatch, map_eq_ok]
    simp
  · intro e he
    rw [run_fst, map_eq_error] at he
    rw [run_of_error he]
  · intro n hn
    rw [get?_run hmade, value?_of_not_mem hmade hn, Option.none_or]
  · intro captures hc c hm hu n hn
    rw [get?_run hmade, value?_of_isUnset hmade hc hm hu hn, Option.none_or]

/-- The second attempt leaves the list from the first one unset, the third finds a value for `a` before it
fails at that for `b`, and the fourth has no URL. -/
theorem runAll_keeps_last_four :
    let tagged : Pattern Text :=
      (Pattern.Builder.empty.pushSome [.literal ['/'], .field ['a'], .literal "?t=".toList, .list ['t'] ',']).build
    let pair : Pattern Text :=
      (Pattern.Builder.empty.pushSome [.literal ['/'], .field ['a'], .literal ['-'], .field ['b']]).build
    let attempts : List Attempt :=
      [⟨{}, tagged, "https://example.com/x?t=1,2".toList⟩,
        ⟨⟨{ emptyList := .unset }, none⟩, tagged, "https://example.com/y?t=".toList⟩,
        ⟨{}, pair, "https://example.com/z-%FF".toList⟩, ⟨{}, pair, "/z-w".toList⟩]
    let after := ((runAll attempts).run (NamedValues.empty.assign ['b'] (.text ['k']))).2
    (∀ a ∈ attempts, a.pattern.Made) ∧ after.get? ['a'] = some (.text ['y']) ∧
      after.get? ['t'] = some (.list [['1'], ['2']]) ∧ after.get? ['b'] = some (.text ['k']) := by
  intro tagged pair attempts after
  have hp : ∀ a ∈ attempts, a.pattern.Made := by
    have htagged : tagged.Made := .build _
    have hpair : pair.Made := .build _
    simp only [attempts, List.forall_mem_cons, List.not_mem_nil, false_implies, implies_true, and_true]
    exact ⟨htagged, htagged, hpair, hpair⟩
  obtain ⟨hlast, -⟩ := runAll_keeps_last hp (NamedValues.empty.assign ['b'] (.text ['k']))
  refine ⟨hp, (hlast _).trans ?_, (hlast _).trans ?_, (hlast _).trans ?_⟩ <;> decide +kernel

end Attempt

end LinkPattern
