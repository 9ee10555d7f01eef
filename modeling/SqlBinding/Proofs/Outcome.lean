import Mathlib.Data.List.Forall2

/-!
# Outcomes

How an outcome that another one was made from is read back.
-/

set_option autoImplicit false

namespace SqlBinding.Outcome

variable {ε α β γ : Type}

/-- What comes after a success goes on with its value. -/
theorem ok_bind (a : α) (f : α → Except ε β) : (.ok a : Except ε α) >>= f = f a := rfl

/-- Nothing comes after a failure. -/
theorem error_bind (e : ε) (f : α → Except ε β) : (.error e : Except ε α) >>= f = .error e := rfl

/-- A mapped computation succeeds with what the function makes of its value. -/
theorem map_eq_ok_iff {x : Except ε α} {f : α → β} {b : β} :
    x.map f = .ok b ↔ ∃ a, x = .ok a ∧ f a = b := by
  cases x <;> simp [Except.map]

/-- Mapping neither adds nor hides an error. -/
theorem map_eq_error_iff {x : Except ε α} {f : α → β} {e : ε} :
    x.map f = .error e ↔ x = .error e := by
  cases x <;> simp [Except.map]

/-- Two computations in a row succeed if the first does and the second does with its value. -/
theorem bind_eq_ok_iff {x : Except ε α} {f : α → Except ε β} {b : β} :
    x >>= f = .ok b ↔ ∃ a, x = .ok a ∧ f a = .ok b := by
  cases x with
  | error e => simp [bind, Except.bind]
  | ok a => simp [bind, Except.bind]

/-- Two computations in a row fail in the first, or in the second with the value of the first. -/
theorem bind_eq_error_iff {x : Except ε α} {f : α → Except ε β} {e : ε} :
    x >>= f = .error e ↔ x = .error e ∨ ∃ a, x = .ok a ∧ f a = .error e := by
  cases x with
  | error e => simp [bind, Except.bind]
  | ok a => simp [bind, Except.bind]

/-- A list of outcomes succeeds with the values of all of them. -/
theorem mapM_eq_ok_iff {f : α → Except ε β} {as : List α} {bs : List β} :
    as.mapM f = .ok bs ↔ List.Forall₂ (fun a b => f a = .ok b) as bs := by
  induction as generalizing bs with
  | nil => simp [pure, Except.pure, eq_comm]
  | cons a as ih =>
    rw [List.mapM_cons, bind_eq_ok_iff, List.forall₂_cons_left_iff]
    constructor
    · rintro ⟨b, hb, hrest⟩
      obtain ⟨bs, hbs, hcons⟩ := bind_eq_ok_iff.1 hrest
      cases hcons
      exact ⟨b, bs, hb, ih.1 hbs, rfl⟩
    · rintro ⟨b, bs, hb, hbs, rfl⟩
      exact ⟨b, hb, bind_eq_ok_iff.2 ⟨bs, ih.2 hbs, rfl⟩⟩

/-- If every outcome of a list is a success of some kind, the list succeeds with values of this
kind. -/
theorem exists_mapM_eq_ok {f : α → Except ε β} {P : β → γ → Prop} {as : List α} {cs : List γ}
    (h : List.Forall₂ (fun a c => ∃ b, f a = .ok b ∧ P b c) as cs) :
    ∃ bs, as.mapM f = .ok bs ∧ List.Forall₂ P bs cs := by
  simp only [mapM_eq_ok_iff]
  induction h with
  | nil => exact ⟨[], .nil, .nil⟩
  | cons hfirst _ ih =>
    obtain ⟨b, hb, hkind⟩ := hfirst
    obtain ⟨bs, hbs, hkinds⟩ := ih
    exact ⟨b :: bs, .cons hb hbs, .cons hkind hkinds⟩

/-- Each value of a list comes to the one in its place. -/
theorem exists_getElem?_of_mapM {f : α → Except ε β} {as : List α} {bs : List β}
    (h : as.mapM f = .ok bs) {i : Nat} {a : α} (ha : as[i]? = some a) :
    ∃ b, bs[i]? = some b ∧ f a = .ok b := by
  have hall := mapM_eq_ok_iff.1 h
  obtain ⟨hi, rfl⟩ := List.getElem?_eq_some_iff.1 ha
  have hi' : i < bs.length := hall.length_eq ▸ hi
  exact ⟨bs[i], List.getElem?_eq_getElem hi', hall.get hi hi'⟩

/-- A list of outcomes fails as the first failure in it does. -/
theorem mapM_eq_error_iff {f : α → Except ε β} {as : List α} {e : ε} :
    as.mapM f = .error e ↔ ∃ front a back, as = front ++ a :: back ∧
      (∀ b ∈ front, ∃ c, f b = .ok c) ∧ f a = .error e := by
  constructor
  · intro h
    induction as with
    | nil => cases h
    | cons a as ih =>
      rw [List.mapM_cons] at h
      cases ha : f a with
      | error e' =>
        rw [ha] at h
        cases h
        exact ⟨[], a, as, rfl, by simp, ha⟩
      | ok c =>
        rw [ha] at h
        cases has : as.mapM f with
        | ok cs =>
          rw [has] at h
          cases h
        | error e' =>
          rw [has] at h
          cases h
          obtain ⟨front, a', back, rfl, hfront, ha'⟩ := ih has
          exact ⟨a :: front, a', back, rfl, List.forall_mem_cons.2 ⟨⟨c, ha⟩, hfront⟩, ha'⟩
  · rintro ⟨front, a, back, rfl, hfront, ha⟩
    induction front with
    | nil =>
      rw [List.nil_append, List.mapM_cons, ha]
      rfl
    | cons b front ih =>
      obtain ⟨⟨c, hc⟩, hfront⟩ := List.forall_mem_cons.1 hfront
      rw [List.cons_append, List.mapM_cons, hc, ih hfront]
      rfl

/-- Two outcomes have the same result, or none, exactly if they succeed with the same values. -/
theorem toOption_eq_iff {x y : Except ε α} :
    x.toOption = y.toOption ↔ ∀ a, x = .ok a ↔ y = .ok a := by
  have hok (z : Except ε α) (a : α) : z.toOption = some a ↔ z = .ok a := by
    cases z <;> simp [Except.toOption]
  rw [Option.ext_iff]
  simp only [hok]

end SqlBinding.Outcome
