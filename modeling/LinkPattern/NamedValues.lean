import LinkPattern.Field

/-!
# NamedValues

A record of values by name, in the order of the names' code points, which is also the order of
their UTF-8 octets. `get?_assign` is all that a user of the record has to know.
-/

namespace LinkPattern

structure NamedValues where
  entries : List (Text × Value)
  increasing : entries.Pairwise (Text.precedes ·.1 ·.1)
  deriving DecidableEq

namespace NamedValues

def place (n : Text) (v : Value) : List (Text × Value) → List (Text × Value)
  | [] => [(n, v)]
  | e :: rest =>
    if n = e.1 then (n, v) :: rest
    else if Text.precedes n e.1 then (n, v) :: e :: rest
    else e :: place n v rest

def find? (n : Text) : List (Text × Value) → Option Value
  | [] => none
  | e :: rest => if n = e.1 then some e.2 else find? n rest

theorem mem_place {n : Text} {v : Value} {l : List (Text × Value)} {e : Text × Value} (h : e ∈ place n v l) :
    e = (n, v) ∨ e ∈ l := by
  induction l with
  | nil => simpa [place] using h
  | cons x l ih =>
    rw [place] at h
    split at h
    · simp only [List.mem_cons] at h ⊢; rcases h with h | h <;> simp [h]
    split at h
    · simpa using h
    · simp only [List.mem_cons] at h ⊢
      rcases h with h | h
      · simp [h]
      · rcases ih h with h | h <;> simp [h]

theorem pairwise_place (n : Text) (v : Value) {l : List (Text × Value)} (h : l.Pairwise (Text.precedes ·.1 ·.1)) :
    (place n v l).Pairwise (Text.precedes ·.1 ·.1) := by
  induction l with
  | nil => simp [place]
  | cons x l ih =>
    obtain ⟨hx, hl⟩ := List.pairwise_cons.1 h
    rw [place]
    split
    · next hn => exact List.pairwise_cons.2 ⟨fun e he => hn ▸ hx e he, hl⟩
    split
    · next hlt =>
      refine List.pairwise_cons.2 ⟨fun e he => ?_, h⟩
      rcases List.mem_cons.1 he with rfl | he
      · exact hlt
      · exact Text.precedes_trans hlt (hx e he)
    · next hne hnl =>
      refine List.pairwise_cons.2 ⟨fun e he => ?_, ih hl⟩
      rcases mem_place he with rfl | he
      · exact Text.precedes_of_not hnl hne
      · exact hx e he

theorem find?_place (n : Text) (v : Value) (l : List (Text × Value)) (m : Text) :
    find? m (place n v l) = if m = n then some v else find? m l := by
  induction l with
  | nil => rfl
  | cons x l ih =>
    rw [place]
    split
    · next hn => subst hn; simp only [find?]; split <;> rfl
    split
    · rfl
    · next hne _ =>
      simp only [find?, ih]
      split
      · next hm => rw [if_neg (fun h => hne (h.symm.trans hm))]
      · rfl

/-! ## The record -/

def empty : NamedValues := ⟨[], List.Pairwise.nil⟩

def assign (r : NamedValues) (n : Text) (v : Value) : NamedValues := ⟨place n v r.entries, pairwise_place n v r.increasing⟩

def ofList (l : List (Text × Value)) : NamedValues := l.foldl (fun r e => r.assign e.1 e.2) empty

def get? (r : NamedValues) (n : Text) : Option Value := find? n r.entries

def text? (r : NamedValues) (n : Text) : Option Text := (r.get? n).bind Value.asText?

def list? (r : NamedValues) (n : Text) : Option (List Text) := (r.get? n).bind Value.asList?

def size (r : NamedValues) : Nat := r.entries.length

def isEmpty (r : NamedValues) : Bool := r.entries.isEmpty

theorem get?_assign (r : NamedValues) (n : Text) (v : Value) (m : Text) :
    (r.assign n v).get? m = if m = n then some v else r.get? m :=
  find?_place n v r.entries m

end NamedValues

instance {F : Type} [Vocabulary F] : Record NamedValues F where
  assign r f v := r.assign (Vocabulary.name f) v

end LinkPattern
