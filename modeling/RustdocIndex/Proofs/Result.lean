import Mathlib.Data.List.Forall2

/-! Results of steps that are done one after the other. -/
namespace RustdocIndex

variable {ε ε' α β : Type}

/-- A sequence succeeds if both of its steps do. -/
theorem bind_eq_ok {x : Except ε α} {f : α → Except ε β} {b : β} :
    (x >>= f) = .ok b ↔ ∃ a, x = .ok a ∧ f a = .ok b := by
  cases x <;> simp [bind, Except.bind]

/-- A sequence fails with its first step, or with its second after the first. -/
theorem bind_eq_error {x : Except ε α} {f : α → Except ε β} {e : ε} :
    (x >>= f) = .error e ↔ x = .error e ∨ ∃ a, x = .ok a ∧ f a = .error e := by
  cases x <;> simp [bind, Except.bind]

theorem bind_congr_ok {x y : Except ε α} {g k : α → Except ε β} (hxy : x = y)
    (h : ∀ a, x = .ok a → g a = k a) : x >>= g = y >>= k := by
  subst hxy
  cases x with
  | error e => rfl
  | ok a => exact h a rfl

theorem map_bind {γ : Type} {x : Except ε α} {f : α → Except ε β} {g : β → γ} :
    (x >>= f).map g = x >>= fun a => (f a).map g := by
  cases x <;> rfl

theorem mapError_map {f : ε → ε'} {g : α → β} {x : Except ε α} :
    (x.map g).mapError f = (x.mapError f).map g := by
  cases x <;> rfl

theorem mapM_map {γ : Type} {f : α → Except ε β} {g : β → γ} (xs : List α) :
    (xs.mapM fun x => (f x).map g) = (xs.mapM f).map (List.map g) := by
  induction xs with
  | nil => rfl
  | cons x xs ih =>
    rw [List.mapM_cons, List.mapM_cons, ih]
    cases f x with
    | error e => rfl
    | ok y => cases xs.mapM f <;> rfl

theorem mapError_eq_ok {f : ε → ε'} {x : Except ε α} {a : α} :
    x.mapError f = .ok a ↔ x = .ok a := by
  cases x <;> simp [Except.mapError]

theorem mapError_eq_error {f : ε → ε'} {x : Except ε α} {e' : ε'} :
    x.mapError f = .error e' ↔ ∃ e, x = .error e ∧ f e = e' := by
  cases x <;> simp [Except.mapError]

theorem toOption_eq_some {x : Except ε α} {a : α} : x.toOption = some a ↔ x = .ok a := by
  cases x <;> simp [Except.toOption]

/-- What does not depend on errors can be taken from one result to the other. -/
theorem ok_of_toOption_eq {x : Except ε α} {y : Except ε' α} {a : α}
    (h : x.toOption = y.toOption) (hx : x = .ok a) : y = .ok a := by
  rw [← toOption_eq_some, ← h, toOption_eq_some, hx]

/-- A traversal succeeds element by element. -/
theorem mapM_eq_ok {f : α → Except ε β} {xs : List α} {ys : List β} :
    xs.mapM f = .ok ys ↔ List.Forall₂ (fun x y => f x = .ok y) xs ys := by
  induction xs generalizing ys with
  | nil => cases ys <;> simp [pure, Except.pure]
  | cons x xs ih =>
    rw [List.mapM_cons]
    constructor
    · intro h
      obtain ⟨y, hy, h⟩ := bind_eq_ok.mp h
      obtain ⟨rest, hr, h⟩ := bind_eq_ok.mp h
      cases h
      exact .cons hy (ih.mp hr)
    · intro h
      cases h with
      | cons hy hr => exact bind_eq_ok.mpr ⟨_, hy, bind_eq_ok.mpr ⟨_, ih.mpr hr, rfl⟩⟩

/-- A map over elements with their positions succeeds if it does so for each element. -/
theorem mapM_zipIdx_of_forall₂ {γ : Type} {f : α × Nat → Except ε β} {g : γ → β} {xs : List α}
    {ys : List γ} (h : List.Forall₂ (fun x y => ∀ i, f (x, i) = .ok (g y)) xs ys) (n : Nat) :
    (xs.zipIdx n).mapM f = .ok (ys.map g) := by
  induction h generalizing n with
  | nil => rfl
  | cons hx _ ih =>
    rw [List.zipIdx_cons, List.mapM_cons, hx n, ih (n + 1)]
    rfl

/-- What a map over elements with their positions finds for the elements. -/
theorem forall₂_of_mapM_zipIdx {f : α × Nat → Except ε β} {R : α → β → Prop} {xs : List α}
    {ys : List β} (h : xs.zipIdx.mapM f = .ok ys) (hR : ∀ x i y, f (x, i) = .ok y → R x y) :
    List.Forall₂ R xs ys := by
  have hall : List.Forall₂ (fun (p : α × Nat) y => R p.1 y) xs.zipIdx ys :=
    (mapM_eq_ok.mp h).imp fun p y hp => hR p.1 p.2 y hp
  have hmap := (List.forall₂_map_left_iff (f := Prod.fst)).mpr hall
  rwa [List.zipIdx_map_fst] at hmap

/-- The first of them that fails decides. -/
theorem mapM_eq_error {f : α → Except ε β} {xs : List α} {e : ε} :
    xs.mapM f = .error e ↔ ∃ before x after, xs = before ++ x :: after ∧
      (∀ y ∈ before, ∃ b, f y = .ok b) ∧ f x = .error e := by
  induction xs with
  | nil => simp [pure, Except.pure]
  | cons x xs ih =>
    rw [List.mapM_cons]
    constructor
    · intro h
      rcases bind_eq_error.mp h with h | ⟨b, hb, h⟩
      · exact ⟨[], x, xs, rfl, by simp, h⟩
      · rcases bind_eq_error.mp h with h | ⟨bs, -, h⟩
        · obtain ⟨before, y, after, rfl, hbefore, hy⟩ := ih.mp h
          refine ⟨x :: before, y, after, rfl, fun z hz => ?_, hy⟩
          rcases List.mem_cons.mp hz with rfl | hz
          · exact ⟨b, hb⟩
          · exact hbefore z hz
        · cases h
    · rintro ⟨before, y, after, hs, hbefore, hy⟩
      cases before with
      | nil =>
        cases hs
        exact bind_eq_error.mpr (.inl hy)
      | cons z before =>
        cases hs
        obtain ⟨b, hb⟩ := hbefore x (by simp)
        have htail := ih.mpr ⟨before, y, after, rfl, fun z hz => hbefore z (by simp [hz]), hy⟩
        exact bind_eq_error.mpr (.inr ⟨b, hb, bind_eq_error.mpr (.inl htail)⟩)

theorem mapM_eq_some {f : α → Option β} {xs : List α} {ys : List β} :
    xs.mapM f = some ys ↔ List.Forall₂ (fun x y => f x = some y) xs ys := by
  induction xs generalizing ys with
  | nil => cases ys <;> simp
  | cons x xs ih =>
    rw [List.mapM_cons]
    constructor
    · intro h
      obtain ⟨y, hy, h⟩ := Option.bind_eq_some_iff.mp h
      obtain ⟨rest, hr, h⟩ := Option.bind_eq_some_iff.mp h
      cases h
      exact .cons hy (ih.mp hr)
    · intro h
      cases h with
      | cons hy hr =>
        exact Option.bind_eq_some_iff.mpr ⟨_, hy, Option.bind_eq_some_iff.mpr ⟨_, ih.mpr hr, rfl⟩⟩

theorem exists_of_forall₂ {R : α → β → Prop} {xs : List α} {ys : List β} {y : β}
    (h : List.Forall₂ R xs ys) (hy : y ∈ ys) : ∃ x ∈ xs, R x y := by
  induction h with
  | nil => cases hy
  | cons hx _ ih =>
    rcases List.mem_cons.mp hy with rfl | hy
    · exact ⟨_, by simp, hx⟩
    · obtain ⟨x, hm, hx⟩ := ih hy
      exact ⟨x, by simp [hm], hx⟩

theorem getElem?_of_forall₂ {R : α → β → Prop} {xs : List α} {ys : List β} {y : β} {i : Nat}
    (h : List.Forall₂ R xs ys) (hy : ys[i]? = some y) : ∃ x, xs[i]? = some x ∧ R x y := by
  induction h generalizing i with
  | nil => cases hy
  | cons hxy _ ih =>
    cases i with
    | zero =>
      cases hy
      exact ⟨_, rfl, hxy⟩
    | succ i => exact ih hy

/-- Whatever is in the result of a traversal comes from one of the elements. -/
theorem exists_of_mem_mapM {f : α → Except ε β} {xs : List α} {ys : List β} {y : β}
    (h : xs.mapM f = .ok ys) (hy : y ∈ ys) : ∃ x ∈ xs, f x = .ok y := by
  obtain ⟨x, hx, hf⟩ := exists_of_forall₂ (mapM_eq_ok.mp h) hy
  exact ⟨x, hx, hf⟩

theorem toOption_bind {x : Except ε α} {f : α → Except ε β} :
    (x >>= f).toOption = x.toOption.bind fun a => (f a).toOption := by
  cases x <;> rfl

theorem toOption_mapError {f : ε → ε'} {x : Except ε α} :
    (x.mapError f).toOption = x.toOption := by
  cases x <;> rfl

/-- Whether a traversal succeeds, and with what, does not depend on the errors of its steps. -/
theorem toOption_mapM {f : α → Except ε β} (xs : List α) :
    (xs.mapM f).toOption = xs.mapM fun x => (f x).toOption := by
  induction xs with
  | nil => rfl
  | cons x xs ih =>
    rw [List.mapM_cons, List.mapM_cons, toOption_bind]
    refine congrArg _ (funext fun y => ?_)
    rw [toOption_bind, ih]
    rfl

/-- Of two steps that do not need each other, either may come first. -/
theorem toOption_bind_comm {γ : Type} {x : Except ε α} {y : Except ε β} {f : α → β → Except ε γ} :
    (x >>= fun a => y >>= fun b => f a b).toOption =
      (y >>= fun b => x >>= fun a => f a b).toOption := by
  cases x <;> cases y <;> rfl

/-- The positions of a list do not matter to what does not look at them. -/
theorem toOption_mapM_zipIdx {f : α × Nat → Except ε β} {γ : Type} {g : γ → Option β}
    {xs : List α} {ys : List γ} (h : List.Forall₂ (fun x y => ∀ i, (f (x, i)).toOption = g y) xs ys)
    (n : Nat) : ((xs.zipIdx n).mapM f).toOption = ys.mapM g := by
  induction h generalizing n with
  | nil => rfl
  | cons hx _ ih =>
    rw [List.zipIdx_cons, List.mapM_cons, List.mapM_cons, toOption_bind, hx]
    refine congrArg _ (funext fun b => ?_)
    rw [toOption_bind, ih]
    rfl

/-- A result that fails with errors of one kind only. -/
def FailsOnly (P : ε → Prop) (x : Except ε α) : Prop := ∀ e, x = .error e → P e

namespace FailsOnly

variable {P : ε → Prop}

theorem ok (a : α) : FailsOnly P (.ok a) := by
  intro e h
  cases h

theorem error {e : ε} (h : P e) : FailsOnly P (.error e : Except ε α) := by
  intro e' he
  cases he
  exact h

theorem imp {Q : ε → Prop} {x : Except ε α} (hx : FailsOnly P x) (h : ∀ e, P e → Q e) :
    FailsOnly Q x :=
  fun e he => h e (hx e he)

theorem bind {x : Except ε α} {f : α → Except ε β} (hx : FailsOnly P x)
    (hf : ∀ a, x = .ok a → FailsOnly P (f a)) : FailsOnly P (x >>= f) := by
  intro e h
  rcases bind_eq_error.mp h with h | ⟨a, ha, h⟩
  · exact hx e h
  · exact hf a ha e h

theorem mapError {P : ε' → Prop} {f : ε → ε'} {x : Except ε α}
    (hx : FailsOnly (fun e => P (f e)) x) : FailsOnly P (x.mapError f) := by
  intro e' h
  obtain ⟨e, he, rfl⟩ := mapError_eq_error.mp h
  exact hx e he

/-- A traversal fails with an error of one of its steps. -/
theorem mapM {f : α → Except ε β} {xs : List α} (h : ∀ x ∈ xs, FailsOnly P (f x)) :
    FailsOnly P (xs.mapM f) := by
  induction xs with
  | nil => exact ok _
  | cons x xs ih =>
    rw [List.mapM_cons]
    have ih := ih fun y hy => h y (List.mem_cons_of_mem _ hy)
    exact (h x (by simp)).bind fun _ _ => ih.bind fun _ _ => ok _

end FailsOnly

/-- A result that fails, with an error of one kind. -/
def FailsWith (P : ε → Prop) (x : Except ε α) : Prop := ∃ e, x = .error e ∧ P e

namespace FailsWith

variable {P : ε → Prop}

@[simp] theorem of_ok (a : α) : ¬ FailsWith P (.ok a) := by
  rintro ⟨e, h, -⟩
  cases h

@[simp] theorem of_error {e : ε} : FailsWith P (.error e : Except ε α) ↔ P e := by
  constructor
  · rintro ⟨e', h, he⟩
    cases h
    exact he
  · exact fun he => ⟨e, rfl, he⟩

theorem not_of_forall {x : Except ε α} (h : ∀ e, ¬ P e) : ¬ FailsWith P x := by
  rintro ⟨e, -, he⟩
  exact h e he

/-- A sequence fails in a certain way if one of its steps does. -/
theorem of_bind {x : Except ε α} {f : α → Except ε β} :
    FailsWith P (x >>= f) ↔ FailsWith P x ∨ ∃ a, x = .ok a ∧ FailsWith P (f a) := by
  cases x with
  | error e => simp [bind, Except.bind]
  | ok a => simp [bind, Except.bind]

theorem of_map {f : α → β} {x : Except ε α} : FailsWith P (x.map f) ↔ FailsWith P x := by
  cases x <;> simp [Except.map]

theorem of_mapError {P : ε' → Prop} {f : ε → ε'} {x : Except ε α} :
    FailsWith P (x.mapError f) ↔ FailsWith (fun e => P (f e)) x := by
  cases x <;> simp [Except.mapError]

end FailsWith

end RustdocIndex
