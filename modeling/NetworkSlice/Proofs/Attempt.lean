import NetworkSlice.Error

/-
Chains of steps that may fail.

A chain comes to a value exactly when each of its steps does (`bind_eq_ok`),
and it fails with what its first failing step fails with (`bind_eq_error`). So
a property of all the errors of a chain, `FailsOnly`, is a property of the
errors of its steps, and chains of steps that come to the same values come to
the same values, `Alike`; where they come to different ones, or fail, `Parallel`
relates what the one and the other come to. Where the steps are one function on
the entries of a list, the values are those of the entries (`mapM_eq_some_iff`),
and a check of them, one after another, fails at the first bad one
(`scan_eq_error_iff`).
-/
namespace NetworkSlice

variable {ε α β : Type} {P : ε → Prop}

/-- A chain of two comes to a value through a value of the first. -/
theorem bind_eq_ok {x : Except ε α} {f : α → Except ε β} {b : β} :
    (x >>= f) = .ok b ↔ ∃ a, x = .ok a ∧ f a = .ok b := by
  cases x with
  | error e =>
      constructor
      · intro h; cases h
      · rintro ⟨a, ha, -⟩; cases ha
  | ok a =>
      constructor
      · intro h; exact ⟨a, rfl, h⟩
      · rintro ⟨a', ha, hb⟩
        injection ha with ha
        subst ha
        exact hb

/-- A chain of two fails in the first, or in the second after it. -/
theorem bind_eq_error {x : Except ε α} {f : α → Except ε β} {e : ε} :
    (x >>= f) = .error e ↔ x = .error e ∨ ∃ a, x = .ok a ∧ f a = .error e := by
  cases x with
  | error e' =>
      constructor
      · intro h
        injection h with h
        exact Or.inl (congrArg Except.error h)
      · rintro (h | ⟨a, ha, -⟩)
        · injection h with h
          exact congrArg Except.error h
        · cases ha
  | ok a =>
      constructor
      · intro h; exact Or.inr ⟨a, rfl, h⟩
      · rintro (h | ⟨a', ha, he⟩)
        · cases h
        · injection ha with ha
          subst ha
          exact he

@[simp] theorem mapError_ok {δ : Type} (a : α) (f : δ → ε) :
    (.ok a : Except δ α).mapError f = .ok a := rfl

@[simp] theorem mapError_error {δ : Type} (d : δ) (f : δ → ε) :
    (.error d : Except δ α).mapError f = .error (f d) := rfl

/-- An error that was worded is one of before. -/
theorem mapError_eq_error {δ : Type} {x : Except δ α} {f : δ → ε} {e : ε} :
    x.mapError f = .error e ↔ ∃ d, x = .error d ∧ e = f d := by
  cases x with
  | error d =>
      constructor
      · intro h; injection h with h; exact ⟨d, rfl, h.symm⟩
      · rintro ⟨d', hd, rfl⟩
        injection hd with hd
        exact congrArg (fun d => Except.error (f d)) hd
  | ok a =>
      constructor
      · intro h; cases h
      · rintro ⟨d, hd, -⟩; cases hd

/-- Wording errors makes no success. -/
theorem mapError_eq_ok {δ : Type} {x : Except δ α} {f : δ → ε} {a : α} :
    x.mapError f = .ok a ↔ x = .ok a := by
  cases x with
  | error d => simp
  | ok a' => simp

/-- An attempt comes to a value unless it fails. -/
theorem exists_ok_iff {x : Except ε α} : (∃ a, x = .ok a) ↔ ∀ e, ¬ x = .error e := by
  cases x with
  | error e =>
      constructor
      · rintro ⟨a, ha⟩; cases ha
      · intro h; exact absurd rfl (h e)
  | ok a =>
      constructor
      · intro _ e he; cases he
      · intro _; exact ⟨a, rfl⟩

/-- So a check passes unless it fails. -/
theorem passes_iff {x : Except ε Unit} : x = .ok () ↔ ∀ e, ¬ x = .error e := by
  rw [← exists_ok_iff]
  exact ⟨fun h => ⟨(), h⟩, fun ⟨_, h⟩ => h⟩

/-- What each entry of a list is, once all those before it are, all entries
are: there is no first that is not. -/
theorem forall_mem_of_first {P : α → Prop} {l : List α}
    (h : ∀ before x after, l = before ++ x :: after → (∀ y ∈ before, P y) → P x) :
    ∀ x ∈ l, P x := by
  induction l with
  | nil => intro x hx; cases hx
  | cons x rest ih =>
      have hx : P x := h [] x rest rfl fun _ hy => nomatch hy
      refine List.forall_mem_cons.mpr ⟨hx, ih ?_⟩
      intro before y after hrest hbefore
      exact h (x :: before) y after (by rw [hrest]; rfl) (List.forall_mem_cons.mpr ⟨hx, hbefore⟩)

/-- A check of the entries in turn, which remembers the keys of those before,
fails at an entry when all before it pass. -/
theorem scan_eq_error_iff {κ : Type} {check : List κ → List α → Except ε Unit} (key : α → κ)
    (hnil : ∀ seen, check seen [] = .ok ())
    (hcons : ∀ seen x rest,
      check seen (x :: rest) = check seen [x] >>= fun _ => check (key x :: seen) rest)
    {l : List α} {e : ε} :
    ∀ {seen : List κ}, check seen l = .error e
      ↔ ∃ before x after, l = before ++ x :: after ∧ check seen before = .ok ()
        ∧ check ((before.map key).reverse ++ seen) [x] = .error e := by
  induction l with
  | nil => intro seen; simp [hnil]
  | cons y rest ih =>
      intro seen
      rw [hcons, bind_eq_error]
      constructor
      · rintro (h | ⟨u, hy, h⟩)
        · exact ⟨[], y, rest, rfl, hnil seen, h⟩
        · obtain ⟨before, x, after, rfl, hbefore, hx⟩ := ih.mp h
          refine ⟨y :: before, x, after, rfl, ?_, ?_⟩
          · rw [hcons]
            exact bind_eq_ok.mpr ⟨u, hy, hbefore⟩
          · simpa using hx
      · rintro ⟨before, x, after, hl, hbefore, hx⟩
        cases before with
        | nil =>
            injection hl with hl _
            subst hl
            exact Or.inl hx
        | cons y' before =>
            injection hl with hl hrest
            subst hl
            rw [hcons] at hbefore
            obtain ⟨u, hy, hbefore⟩ := bind_eq_ok.mp hbefore
            exact Or.inr ⟨u, hy, ih.mpr ⟨before, x, after, hrest, hbefore, by simpa using hx⟩⟩

/-- What an attempt fails with, if it fails. -/
def FailsOnly (P : ε → Prop) (x : Except ε α) : Prop := ∀ e, x = .error e → P e

theorem failsOnly_ok (a : α) : FailsOnly P (.ok a : Except ε α) := by
  intro e h
  cases h

/-- An error is of its own kind. -/
theorem failsOnly_error {e : ε} (h : P e) : FailsOnly P (.error e : Except ε α) := by
  intro e' h'
  injection h' with h'
  exact h' ▸ h

/-- A chain fails only as its steps do. -/
theorem FailsOnly.bind {x : Except ε α} {f : α → Except ε β} (hx : FailsOnly P x)
    (hf : ∀ a, x = .ok a → FailsOnly P (f a)) : FailsOnly P (x >>= f) := by
  cases x with
  | error e => exact failsOnly_error (hx e rfl)
  | ok a => exact hf a rfl

/-- What is made of a success does not fail either. -/
theorem FailsOnly.map {x : Except ε α} {f : α → β} (hx : FailsOnly P x) :
    FailsOnly P (x.map f) := by
  cases x with
  | error e => exact failsOnly_error (hx e rfl)
  | ok a => exact failsOnly_ok (f a)

/-- An attempt whose errors are put in other words. -/
theorem failsOnly_mapError {δ : Type} {x : Except δ α} {f : δ → ε} (h : ∀ e, P (f e)) :
    FailsOnly P (x.mapError f) := by
  cases x with
  | error e => exact failsOnly_error (h e)
  | ok a => exact failsOnly_ok a

/-- Attempts that come to the same value, or both to none. -/
def Alike (x y : Except ε α) : Prop := ∀ a, x = .ok a ↔ y = .ok a

theorem Alike.refl (x : Except ε α) : Alike x x := fun _ => Iff.rfl

/-- All failures are alike. -/
theorem alike_error (e e' : ε) : Alike (.error e : Except ε α) (.error e') :=
  fun _ => ⟨fun h => (nomatch h), fun h => nomatch h⟩

/-- Attempts that are alike may be followed by such. -/
theorem Alike.bind {x y : Except ε α} {f g : α → Except ε β} (h : Alike x y)
    (hsteps : ∀ a, Alike (f a) (g a)) : Alike (x >>= f) (y >>= g) := by
  intro b
  rw [bind_eq_ok, bind_eq_ok]
  constructor
  · rintro ⟨a, hx, hb⟩
    exact ⟨a, (h a).mp hx, (hsteps a b).mp hb⟩
  · rintro ⟨a, hy, hb⟩
    exact ⟨a, (h a).mpr hy, (hsteps a b).mpr hb⟩

/-- And the same be made of both. -/
theorem Alike.map {x y : Except ε α} (h : Alike x y) (f : α → β) : Alike (x.map f) (y.map f) :=
  h.bind fun _ => .refl _

/-- Attempts that come out side by side: both come to values, which are related
by `S`, or both fail, with errors related by `R`. -/
inductive Parallel (R : ε → ε → Prop) (S : α → β → Prop) : Except ε α → Except ε β → Prop
  | ok {a : α} {b : β} (h : S a b) : Parallel R S (.ok a) (.ok b)
  | error {e e' : ε} (h : R e e') : Parallel R S (.error e) (.error e')

namespace Parallel

variable {γ δ : Type} {R : ε → ε → Prop} {S : α → β → Prop} {T : γ → δ → Prop}

theorem refl (hR : ∀ e, R e e) (x : Except ε α) : Parallel R (· = ·) x x := by
  cases x with
  | error e => exact .error (hR e)
  | ok a => exact .ok rfl

/-- Errors may be worded on both sides. -/
theorem mapError {ε' : Type} {R' : ε' → ε' → Prop} {f : ε → ε'} {x : Except ε α} {y : Except ε β}
    (h : Parallel R S x y) (hR : ∀ {e e'}, R e e' → R' (f e) (f e')) :
    Parallel R' S (x.mapError f) (y.mapError f) := by
  cases h with
  | ok h => exact .ok h
  | error h => exact .error (hR h)

/-- Where the one comes to a value, so does the other. -/
theorem exists_ok {a : α} {y : Except ε β} (h : Parallel R S (.ok a) y) :
    ∃ b, y = .ok b ∧ S a b := by
  cases h with
  | ok h => exact ⟨_, rfl, h⟩

/-- Chains come out side by side when their steps do. -/
theorem bind {x : Except ε α} {y : Except ε β} {f : α → Except ε γ} {g : β → Except ε δ}
    (h : Parallel R S x y)
    (hsteps : ∀ a b, x = .ok a → y = .ok b → S a b → Parallel R T (f a) (g b)) :
    Parallel R T (x >>= f) (y >>= g) := by
  cases h with
  | ok h => exact hsteps _ _ rfl rfl h
  | error h => exact .error h

end Parallel

/-- A function has a value on all entries of a list when its values are there
one by one. -/
theorem mapM_eq_some_iff {f : α → Option β} {l : List α} :
    ∀ {values : List β}, l.mapM f = some values ↔ l.map f = values.map some := by
  induction l with
  | nil =>
      intro values
      rw [List.mapM_nil, List.map_nil]
      constructor
      · intro h
        injection h with h
        rw [← h]
        rfl
      · intro h
        rw [List.map_eq_nil_iff.mp h.symm]
        rfl
  | cons x rest ih =>
      intro values
      rw [List.mapM_cons, List.map_cons]
      cases hx : f x with
      | none =>
          constructor
          · intro h; cases h
          · intro h
            cases values with
            | nil => cases h
            | cons y ys => cases (List.cons.inj h).1
      | some y =>
          cases values with
          | nil =>
              constructor
              · intro h
                cases hrest : rest.mapM f with
                | none => rw [hrest] at h; cases h
                | some ys => rw [hrest] at h; cases h
              · intro h; cases h
          | cons y' ys =>
              rw [List.map_cons, List.cons.injEq, ← ih]
              cases hrest : rest.mapM f with
              | none => simp
              | some ys' => simp

/-- A function has a value on all entries unless it has none on one. -/
theorem mapM_eq_none_iff {f : α → Option β} {l : List α} :
    l.mapM f = none ↔ ∃ x ∈ l, f x = none := by
  induction l with
  | nil =>
      rw [List.mapM_nil]
      constructor
      · intro h; cases h
      · rintro ⟨x, hx, -⟩; cases hx
  | cons x rest ih =>
      rw [List.mapM_cons]
      cases hx : f x with
      | none => simp [hx]
      | some y =>
          cases hrest : rest.mapM f with
          | none =>
              obtain ⟨z, hz, hnone⟩ := ih.mp hrest
              exact ⟨fun _ => ⟨z, List.mem_cons_of_mem x hz, hnone⟩, fun _ => rfl⟩
          | some ys =>
              constructor
              · intro h; cases h
              · rintro ⟨z, hz, hnone⟩
                rcases List.mem_cons.mp hz with rfl | hz
                · rw [hx] at hnone; cases hnone
                · rw [ih.mpr ⟨z, hz, hnone⟩] at hrest; cases hrest

end NetworkSlice
