/-!
# Computations that may fail

* `bind_eq_ok_iff` and its like: when a computation in steps succeeds, step by step.
* `foldlM_eq_error_iff` and its like: which step a computation fails at.
* `ErrorsAre`: every error of a computation has some property; each step adds its own errors.
-/

namespace DerivedQuery

variable {ε ε' α β : Type}

/-! ## Success -/

theorem ok_bind (a : α) (f : α → Except ε β) : Except.ok a >>= f = f a :=
  rfl

theorem bind_eq_ok_iff {x : Except ε α} {f : α → Except ε β} {b : β} :
    x >>= f = .ok b ↔ ∃ a, x = .ok a ∧ f a = .ok b := by
  cases x <;> simp [bind, Except.bind]

theorem pure_eq_ok_iff {a b : α} : (pure a : Except ε α) = .ok b ↔ a = b := by
  simp [pure, Except.pure]

@[simp] theorem throw_ne_ok {err : ε} {a : α} : (throw err : Except ε α) ≠ .ok a := by
  intro h
  cases h

theorem mapError_eq_ok_iff {x : Except ε α} {f : ε → ε'} {a : α} :
    x.mapError f = .ok a ↔ x = .ok a := by
  cases x with
  | ok b =>
    show (.ok b : Except ε' α) = .ok a ↔ _
    simp
  | error err =>
    show (.error (f err) : Except ε' α) = .ok a ↔ _
    simp

/-- A list is gone through successfully when each of its elements is. -/
theorem mapM_map_eq_ok {γ : Type} {as : List α} {k : α → γ} {f : γ → Except ε β} {g : α → β}
    (h : ∀ a ∈ as, f (k a) = .ok (g a)) : (as.map k).mapM f = .ok (as.map g) := by
  induction as with
  | nil => rfl
  | cons a as ih =>
    have ha := h a List.mem_cons_self
    have has := ih fun b hb => h b (List.mem_cons_of_mem a hb)
    rw [List.map_cons, List.mapM_cons, ha, ok_bind, has, ok_bind]
    rfl

/-- Where one computation changes the result of another, it does so for every element of a list. -/
theorem mapM_eq_map_of_forall {f g : α → Except ε β} {change : β → β}
    (h : ∀ a, g a = (f a).map change) (as : List α) :
    as.mapM g = (as.mapM f).map (List.map change) := by
  induction as with
  | nil => rfl
  | cons a as ih =>
    rw [List.mapM_cons, List.mapM_cons, h, ih]
    cases f a with
    | error err => rfl
    | ok b => cases as.mapM f <;> rfl

/-- Where a step succeeds for valid elements only, and leads to the state of all elements so far, so
does the loop. -/
theorem foldlM_eq_ok_iff_of_step {σ ι : Type} {step : σ → ι → Except ε σ} (valid : ι → Prop)
    (state : List ι → σ)
    (hstep : ∀ done i s, step (state done) i = .ok s ↔ valid i ∧ s = state (done ++ [i]))
    {items : List ι} (done : List ι) {s : σ} :
    items.foldlM step (state done) = .ok s ↔
      (∀ i ∈ items, valid i) ∧ s = state (done ++ items) := by
  induction items generalizing done with
  | nil =>
    rw [List.foldlM_nil, pure_eq_ok_iff, List.append_nil]
    simp [eq_comm]
  | cons i items ih =>
    simp only [List.foldlM_cons, bind_eq_ok_iff, hstep, List.forall_mem_cons]
    constructor
    · rintro ⟨_, ⟨hi, rfl⟩, hrest⟩
      obtain ⟨hitems, rfl⟩ := (ih _).1 hrest
      exact ⟨⟨hi, hitems⟩, by simp⟩
    · rintro ⟨⟨hi, hitems⟩, rfl⟩
      exact ⟨_, ⟨hi, rfl⟩, (ih _).2 ⟨hitems, by simp⟩⟩

/-- A computation that succeeds just under a condition, and then with one result. -/
theorem eq_ok_iff_of_imp {x : Except ε α} {a b : α} {P : Prop} (hok : P → x = .ok a)
    (hP : x = .ok b → P) : x = .ok b ↔ P ∧ b = a := by
  constructor
  · intro h
    have hmade := hok (hP h)
    rw [h] at hmade
    exact ⟨hP h, Except.ok.inj hmade⟩
  · rintro ⟨h, rfl⟩
    exact hok h

/-- The computation succeeds with some result. -/
theorem exists_ok_of_isOk {x : Except ε α} (h : x.isOk = true) : ∃ a, x = .ok a := by
  cases x with
  | ok a => exact ⟨a, rfl⟩
  | error err => cases h

theorem toOption_eq_some_iff {x : Except ε α} {a : α} : x.toOption = some a ↔ x = .ok a := by
  cases x <;> simp [Except.toOption]

theorem toOption_eq_none_iff {x : Except ε α} : x.toOption = none ↔ ∃ err, x = .error err := by
  cases x <;> simp [Except.toOption]

theorem eq_ok_of_toOption {x : Except ε α} {a : α} (h : x.toOption = some a) : x = .ok a :=
  toOption_eq_some_iff.1 h

theorem exists_error_of_isOk {x : Except ε α} (h : x.isOk = false) : ∃ err, x = .error err := by
  cases x with
  | ok a => cases h
  | error err => exact ⟨err, rfl⟩

/-! ## Failure -/

theorem bind_eq_error_iff {x : Except ε α} {f : α → Except ε β} {err : ε} :
    x >>= f = .error err ↔ x = .error err ∨ ∃ a, x = .ok a ∧ f a = .error err := by
  cases x <;> simp [bind, Except.bind]

theorem map_eq_ok_iff {x : Except ε α} {f : α → β} {b : β} :
    f <$> x = .ok b ↔ ∃ a, x = .ok a ∧ f a = b := by
  cases x <;> simp [Functor.map, Except.map]

theorem map_eq_error_iff {x : Except ε α} {f : α → β} {err : ε} :
    f <$> x = .error err ↔ x = .error err := by
  cases x <;> simp [Functor.map, Except.map]

theorem mapError_eq_error_iff {x : Except ε α} {f : ε → ε'} {err : ε'} :
    x.mapError f = .error err ↔ ∃ cause, x = .error cause ∧ f cause = err := by
  cases x with
  | ok a =>
    show (.ok a : Except ε' α) = .error err ↔ _
    simp
  | error cause =>
    show (.error (f cause) : Except ε' α) = .error err ↔ _
    simp

/-- A fold fails at the first step that does; the steps before it lead there. -/
theorem foldlM_eq_error_iff {f : β → α → Except ε β} {as : List α} {b : β} {err : ε} :
    as.foldlM f b = .error err ↔
      ∃ earlier a later c, as = earlier ++ a :: later ∧ earlier.foldlM f b = .ok c ∧
        f c a = .error err := by
  constructor
  · intro h
    induction as generalizing b with
    | nil => cases h
    | cons a as ih =>
      rw [List.foldlM_cons, bind_eq_error_iff] at h
      rcases h with h | ⟨c, hc, h⟩
      · exact ⟨[], a, as, b, rfl, rfl, h⟩
      · rcases ih h with ⟨earlier, d, later, m, rfl, hearlier, hd⟩
        refine ⟨a :: earlier, d, later, m, rfl, ?_, hd⟩
        rw [List.foldlM_cons, hc, ok_bind, hearlier]
  · rintro ⟨earlier, a, later, c, rfl, hearlier, ha⟩
    rw [List.foldlM_append, hearlier, ok_bind, List.foldlM_cons, ha]
    rfl

/-- A list is gone through until an element fails. -/
theorem mapM_eq_error_iff {f : α → Except ε β} {as : List α} {err : ε} :
    as.mapM f = .error err ↔
      ∃ earlier a later, as = earlier ++ a :: later ∧ (∀ c ∈ earlier, ∃ b, f c = .ok b) ∧
        f a = .error err := by
  -- The first element that fails is either this one or one of the others.
  induction as with
  | nil => simp [pure, Except.pure]
  | cons a as ih =>
    rw [List.mapM_cons, bind_eq_error_iff]
    simp only [bind_eq_error_iff, ih]
    constructor
    · rintro (h | ⟨b, hb, ⟨earlier, c, later, rfl, hearlier, hc⟩ | ⟨bs, -, hbs⟩⟩)
      · exact ⟨[], a, as, rfl, by simp, h⟩
      · refine ⟨a :: earlier, c, later, rfl, ?_, hc⟩
        rintro d (_ | ⟨_, hd⟩)
        · exact ⟨b, hb⟩
        · exact hearlier d hd
      · cases hbs
    · rintro ⟨_ | ⟨d, earlier⟩, c, later, heq, hearlier, hc⟩
      · cases heq
        exact .inl hc
      · cases heq
        rcases hearlier a List.mem_cons_self with ⟨b, hb⟩
        exact .inr ⟨b, hb, .inl ⟨earlier, c, later, rfl,
          fun d hd => hearlier d (List.mem_cons_of_mem a hd), hc⟩⟩

/-- Every error of `x` has the property `P`. -/
def ErrorsAre (P : ε → Prop) (x : Except ε α) : Prop :=
  ∀ err, x = .error err → P err

namespace ErrorsAre

variable {P : ε → Prop} {x : Except ε α}

theorem ok (a : α) : ErrorsAre P (.ok a) := by
  intro err h
  cases h

theorem pure (a : α) : ErrorsAre P (Pure.pure a) :=
  ok a

theorem error {err : ε} (h : P err) : ErrorsAre P (.error err : Except ε α) := by
  intro err' herr
  cases herr
  exact h

/-- Two steps fail with the errors of either. -/
theorem bind {f : α → Except ε β} (hx : ErrorsAre P x) (hf : ∀ a, ErrorsAre P (f a)) :
    ErrorsAre P (x >>= f) := by
  intro err h
  cases x with
  | ok a => exact hf a err h
  | error cause =>
    cases h
    exact hx _ rfl

theorem mapError {f : ε' → ε} {x : Except ε' α} (h : ∀ cause, x = .error cause → P (f cause)) :
    ErrorsAre P (x.mapError f) := by
  intro err herr
  cases x with
  | ok a => cases herr
  | error cause =>
    cases herr
    exact h _ rfl

theorem map {f : α → β} (hx : ErrorsAre P x) : ErrorsAre P (x.map f) := by
  intro err h
  cases x with
  | ok a => cases h
  | error cause =>
    cases h
    exact hx _ rfl

/-- A fold fails with the errors of its steps. -/
theorem foldlM {f : β → α → Except ε β} (hf : ∀ b a, ErrorsAre P (f b a)) (as : List α) (b : β) :
    ErrorsAre P (as.foldlM f b) := by
  induction as generalizing b with
  | nil => exact ok b
  | cons a as ih =>
    rw [List.foldlM_cons]
    exact (hf b a).bind ih

theorem mapM {f : α → Except ε β} (hf : ∀ a, ErrorsAre P (f a)) (as : List α) :
    ErrorsAre P (as.mapM f) := by
  induction as with
  | nil => exact ok []
  | cons a as ih =>
    rw [List.mapM_cons]
    exact (hf a).bind fun b => ih.bind fun bs => ok (b :: bs)

end ErrorsAre

end DerivedQuery
