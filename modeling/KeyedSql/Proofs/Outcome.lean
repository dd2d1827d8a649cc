import Mathlib.Data.List.Forall2

/-!
# Outcomes of checked computations

A computation that may fail succeeds exactly when each of its steps does. The lemmas of this file
take a successful sequence of steps apart, and a successful pass over a list into one success for
each item.
-/

namespace KeyedSql.Outcome

variable {ε α β : Type}

theorem bind_eq_ok_iff {x : Except ε α} {f : α → Except ε β} {b : β} :
    x >>= f = .ok b ↔ ∃ a, x = .ok a ∧ f a = .ok b := by
  cases x <;> simp [bind, Except.bind]

theorem bind_eq_error_iff {x : Except ε α} {f : α → Except ε β} {e : ε} :
    x >>= f = .error e ↔ x = .error e ∨ ∃ a, x = .ok a ∧ f a = .error e := by
  cases x <;> simp [bind, Except.bind]

theorem pure_eq_ok_iff {a b : α} : (pure a : Except ε α) = .ok b ↔ a = b :=
  Except.ok.injEq a b ▸ Iff.rfl

theorem map_eq_ok_iff {x : Except ε α} {f : α → β} {b : β} :
    x.map f = .ok b ↔ ∃ a, x = .ok a ∧ f a = b := by
  cases x <;> simp [Except.map]

theorem exists_map_eq_ok_iff {x : Except ε α} {f : α → β} :
    (∃ b, x.map f = .ok b) ↔ ∃ a, x = .ok a := by
  cases x <;> simp [Except.map]

theorem map_eq_error_iff {x : Except ε α} {f : α → β} {e : ε} :
    x.map f = .error e ↔ x = .error e := by
  cases x <;> simp [Except.map]

theorem mapError_eq_ok_iff {ε' : Type} {x : Except ε α} {f : ε → ε'} {a : α} :
    x.mapError f = .ok a ↔ x = .ok a := by
  cases x <;> simp [Except.mapError]

theorem mapError_eq_error_iff {ε' : Type} {x : Except ε α} {f : ε → ε'} {e : ε'} :
    x.mapError f = .error e ↔ ∃ e', x = .error e' ∧ f e' = e := by
  cases x <;> simp [Except.mapError]

theorem exists_eq_ok_iff {x : Except ε α} : (∃ a, x = .ok a) ↔ ¬ ∃ e, x = .error e := by
  cases x <;> simp

theorem exists_eq_ok_iff_of_image {x : Except ε α} {g : α → β} {P : β → Prop}
    (h : ∀ b, (∃ a, x = .ok a ∧ g a = b) ↔ P b) : (∃ a, x = .ok a) ↔ ∃ b, P b := by
  simp only [← h]
  constructor
  · rintro ⟨a, ha⟩
    exact ⟨g a, a, ha, rfl⟩
  · rintro ⟨b, a, ha, -⟩
    exact ⟨a, ha⟩

theorem check_bind_eq_ok_iff {x : Except ε Unit} {y : Except ε β} {b : β} :
    (x >>= fun _ => y) = .ok b ↔ x = .ok () ∧ y = .ok b := by
  cases x <;> simp [bind, Except.bind]

theorem guard_eq_ok_iff {c : Prop} [Decidable c] {e : ε} {x : Except ε β} {b : β} :
    (if c then (throw e >>= fun _ : PUnit => x) else x) = .ok b ↔ ¬ c ∧ x = .ok b := by
  by_cases h : c
  · simp [h, throw, throwThe, MonadExceptOf.throw, bind, Except.bind]
  · simp [h]

/-- What follows a step only matters for the results of that step. -/
theorem bind_congr_of_ok {x : Except ε α} {f g : α → Except ε β}
    (h : ∀ a, x = .ok a → f a = g a) : x >>= f = x >>= g := by
  cases x with
  | error e => rfl
  | ok a => exact h a rfl

/-! ## Steps that may be left out -/

theorem option_mapM_eq_ok_iff {o : Option α} {f : α → Except ε β} {p : Option β} :
    o.mapM f = .ok p ↔ (o = none ∧ p = none) ∨ ∃ a b, o = some a ∧ p = some b ∧ f a = .ok b := by
  cases o with
  | none =>
    rw [Option.mapM_none, pure_eq_ok_iff]
    simp [eq_comm]
  | some a =>
    rw [Option.mapM_some]
    cases h : f a <;> simp [Functor.map, Except.map, h, eq_comm]

/-! ## Passes over a list -/

theorem mapM_eq_ok_iff {f : α → Except ε β} {xs : List α} {ys : List β} :
    xs.mapM f = .ok ys ↔ List.Forall₂ (fun x y => f x = .ok y) xs ys := by
  induction xs generalizing ys with
  | nil => cases ys <;> simp [pure, Except.pure]
  | cons x xs ih =>
    rw [List.mapM_cons, bind_eq_ok_iff, List.forall₂_cons_left_iff]
    constructor
    · rintro ⟨y, hy, h⟩
      obtain ⟨rest, hrest, h⟩ := bind_eq_ok_iff.1 h
      cases h
      exact ⟨y, rest, hy, ih.1 hrest, rfl⟩
    · rintro ⟨y, rest, hy, hrest, rfl⟩
      exact ⟨y, hy, bind_eq_ok_iff.2 ⟨rest, ih.2 hrest, rfl⟩⟩

theorem mem_iff_of_mapM_eq_ok {f : α → Except ε β} {xs : List α} {ys : List β}
    (h : xs.mapM f = .ok ys) {y : β} : y ∈ ys ↔ ∃ x ∈ xs, f x = .ok y := by
  induction mapM_eq_ok_iff.1 h with
  | nil => simp
  | @cons x z xs ys hx hxs ih =>
    rw [List.mem_cons, ih (mapM_eq_ok_iff.2 hxs), List.exists_mem_cons_iff, hx, Except.ok.injEq,
      eq_comm]

theorem length_eq_of_mapM_eq_ok {f : α → Except ε β} {xs : List α} {ys : List β}
    (h : xs.mapM f = .ok ys) : ys.length = xs.length :=
  (mapM_eq_ok_iff.1 h).length_eq.symm

/-- What each result shares with its item, the list of results shares with the list of items. -/
theorem map_eq_map_of_mapM_eq_ok {γ : Type} {f : α → Except ε β} {g : α → γ} {h : β → γ}
    (hf : ∀ x y, f x = .ok y → h y = g x) {xs : List α} {ys : List β} (hxs : xs.mapM f = .ok ys) :
    ys.map h = xs.map g := by
  have hpaired := mapM_eq_ok_iff.1 hxs
  clear hxs
  induction hpaired with
  | nil => rfl
  | cons hxy _ ih => rw [List.map_cons, List.map_cons, ih, hf _ _ hxy]

theorem map_eq_filterMap_of_mapM_eq_ok {γ : Type} {f : α → Except ε β} {g : α → Option γ}
    {h : β → γ} (hf : ∀ x y, f x = .ok y → g x = some (h y)) {xs : List α} {ys : List β}
    (hxs : xs.mapM f = .ok ys) : ys.map h = xs.filterMap g := by
  have hmap : ys.map (fun y => some (h y)) = xs.map g :=
    map_eq_map_of_mapM_eq_ok (fun x y hxy => (hf x y hxy).symm) hxs
  have hitems : (xs.map g).filterMap id = xs.filterMap g := List.filterMap_map
  rw [← hitems, ← hmap, List.filterMap_map, ← List.filterMap_eq_map]
  rfl

/-- Where each item and its result make up a value, the values come from both lists. -/
theorem mapM_return_eq_ok_iff {γ : Type} {f : α → Except ε β} {g : α → β → γ} {xs : List α}
    {zs : List γ} : (xs.mapM fun x => do return g x (← f x)) = .ok zs ↔
      ∃ ys, xs.mapM f = .ok ys ∧ List.zipWith g xs ys = zs := by
  induction xs generalizing zs with
  | nil => simp [pure_eq_ok_iff]
  | cons x xs ih =>
    simp only [List.mapM_cons, bind_eq_ok_iff, pure_eq_ok_iff, ih]
    constructor
    · rintro ⟨z, ⟨y, hy, rfl⟩, _, ⟨ys, hys, rfl⟩, rfl⟩
      exact ⟨y :: ys, ⟨y, hy, ys, hys, rfl⟩, rfl⟩
    · rintro ⟨_, ⟨y, hy, ys, hys, rfl⟩, rfl⟩
      exact ⟨g x y, ⟨y, hy, rfl⟩, _, ⟨ys, hys, rfl⟩, rfl⟩

/-- Where only the results make up the values, the items do not show in these. -/
theorem zipWith_eq_map_right {γ : Type} {g : α → β → γ} {k : β → γ} (hk : ∀ x y, g x y = k y)
    {xs : List α} {ys : List β} (hlength : ys.length = xs.length) :
    List.zipWith g xs ys = ys.map k := by
  induction ys generalizing xs with
  | nil => exact List.zipWith_nil_right
  | cons y ys ih =>
    cases xs with
    | nil => cases hlength
    | cons x xs =>
      rw [List.zipWith_cons_cons, List.map_cons, hk, ih (Nat.succ.inj hlength)]

theorem zipWith_eq_map_left {γ : Type} {g : α → β → γ} {k : α → γ} (hk : ∀ x y, g x y = k x)
    {xs : List α} {ys : List β} (hlength : ys.length = xs.length) :
    List.zipWith g xs ys = xs.map k := by
  rw [List.zipWith_comm]
  exact zipWith_eq_map_right (fun y x => hk x y) hlength.symm

theorem exists_mapM_eq_ok_iff {f : α → Except ε β} {xs : List α} :
    (∃ ys, xs.mapM f = .ok ys) ↔ ∀ x ∈ xs, ∃ y, f x = .ok y := by
  induction xs with
  | nil => exact iff_of_true ⟨[], rfl⟩ (by simp)
  | cons x xs ih =>
    simp only [List.forall_mem_cons, ← ih, List.mapM_cons, bind_eq_ok_iff]
    constructor
    · rintro ⟨_, y, hy, ys, hys, -⟩
      exact ⟨⟨y, hy⟩, ys, hys⟩
    · rintro ⟨⟨y, hy⟩, ys, hys⟩
      exact ⟨y :: ys, y, hy, ys, hys, rfl⟩

/-- A pass fails with the error of the first item that has one. -/
theorem mapM_eq_error_iff {f : α → Except ε β} {xs : List α} {e : ε} :
    xs.mapM f = .error e ↔ ∃ before x after, xs = before ++ x :: after ∧
      (∀ y ∈ before, ∃ b, f y = .ok b) ∧ f x = .error e := by
  induction xs with
  | nil => simp [pure, Except.pure]
  | cons x xs ih =>
    rw [List.mapM_cons, bind_eq_error_iff]
    constructor
    · rintro (hx | ⟨b, hx, hrest⟩)
      · exact ⟨[], x, xs, rfl, by simp, hx⟩
      · rcases bind_eq_error_iff.1 hrest with hxs | ⟨bs, -, hreturn⟩
        · obtain ⟨before, y, after, rfl, hbefore, hy⟩ := ih.1 hxs
          exact ⟨x :: before, y, after, rfl, List.forall_mem_cons.2 ⟨⟨b, hx⟩, hbefore⟩, hy⟩
        · cases hreturn
    · rintro ⟨before, y, after, hxs, hbefore, hy⟩
      cases before with
      | nil =>
        obtain ⟨rfl, rfl⟩ := List.cons.inj hxs
        exact .inl hy
      | cons z before =>
        obtain ⟨rfl, rfl⟩ := List.cons.inj hxs
        obtain ⟨⟨b, hx⟩, hbefore⟩ := List.forall_mem_cons.1 hbefore
        exact .inr ⟨b, hx, bind_eq_error_iff.2 (.inl (ih.2 ⟨before, y, after, rfl, hbefore, hy⟩))⟩

theorem exists_mapM_return_eq_ok_iff {γ : Type} {f : α → Except ε β} {g : α → β → γ}
    {xs : List α} :
    (∃ zs, (xs.mapM fun x => do return g x (← f x)) = .ok zs) ↔ ∀ x ∈ xs, ∃ y, f x = .ok y := by
  simp only [← exists_mapM_eq_ok_iff, mapM_return_eq_ok_iff]
  constructor
  · rintro ⟨_, ys, hys, -⟩
    exact ⟨ys, hys⟩
  · rintro ⟨ys, hys⟩
    exact ⟨_, ys, hys, rfl⟩

theorem exists_of_mapM_return_eq_ok {γ : Type} {f : α → Except ε β} {g : α → β → γ} {xs : List α}
    {zs : List γ} (h : (xs.mapM fun x => do return g x (← f x)) = .ok zs) :
    ∀ x ∈ xs, ∃ y, f x = .ok y :=
  exists_mapM_return_eq_ok_iff.1 ⟨zs, h⟩

theorem forM_eq_ok_iff {f : α → Except ε Unit} {xs : List α} :
    xs.forM f = .ok () ↔ ∀ x ∈ xs, f x = .ok () := by
  induction xs with
  | nil => exact iff_of_true rfl (by simp)
  | cons x xs ih =>
    show (f x >>= fun _ => xs.forM f) = _ ↔ _
    rw [check_bind_eq_ok_iff, ih, List.forall_mem_cons]

theorem mapM_congr {f g : α → Except ε β} {xs : List α} (h : ∀ x ∈ xs, f x = g x) :
    xs.mapM f = xs.mapM g := by
  induction xs with
  | nil => rfl
  | cons x xs ih =>
    obtain ⟨hx, hxs⟩ := List.forall_mem_cons.1 h
    rw [List.mapM_cons, List.mapM_cons, hx, ih hxs]

/-- Where reading an item undoes writing it, reading a list of items undoes writing them. -/
theorem mapM_eq_ok_iff_map {f : α → Except ε β} {g : β → α} {P : β → Prop}
    (hf : ∀ x y, f x = .ok y ↔ x = g y ∧ P y) {xs : List α} {ys : List β} :
    xs.mapM f = .ok ys ↔ xs = ys.map g ∧ ∀ y ∈ ys, P y := by
  rw [mapM_eq_ok_iff]
  simp only [hf]
  induction ys generalizing xs with
  | nil => simp
  | cons y ys ih =>
    rw [List.forall₂_cons_right_iff]
    constructor
    · rintro ⟨x, rest, ⟨rfl, hy⟩, hrest, rfl⟩
      obtain ⟨rfl, hys⟩ := ih.1 hrest
      exact ⟨rfl, List.forall_mem_cons.2 ⟨hy, hys⟩⟩
    · rintro ⟨rfl, h⟩
      obtain ⟨hy, hys⟩ := List.forall_mem_cons.1 h
      exact ⟨g y, ys.map g, ⟨rfl, hy⟩, ih.2 ⟨rfl, hys⟩, rfl⟩

/-! ## Runs of steps -/

section Runs

variable {σ τ : Type} {f : σ → α → Except ε σ} {Inv : σ → Prop} {xs : List α} {s : σ}

/-- A run of steps that succeed for some items succeeds exactly if all items are such. -/
theorem foldlM_eq_ok_iff {g : σ → α → σ} {P : α → Prop}
    (hstep : ∀ s, Inv s → ∀ x s', f s x = .ok s' ↔ P x ∧ g s x = s')
    (hinv : ∀ s, Inv s → ∀ x, Inv (g s x)) (hs : Inv s) {s' : σ} :
    xs.foldlM f s = .ok s' ↔ (∀ x ∈ xs, P x) ∧ xs.foldl g s = s' := by
  induction xs generalizing s with
  | nil => simp [pure_eq_ok_iff]
  | cons x xs ih =>
    rw [List.foldlM_cons, bind_eq_ok_iff, List.forall_mem_cons, List.foldl_cons, and_assoc]
    constructor
    · rintro ⟨next, hnext, hrest⟩
      obtain ⟨hx, rfl⟩ := (hstep s hs x next).1 hnext
      exact ⟨hx, (ih (hinv s hs x)).1 hrest⟩
    · rintro ⟨hx, hrest⟩
      exact ⟨g s x, (hstep s hs x _).2 ⟨hx, rfl⟩, (ih (hinv s hs x)).2 hrest⟩

/-- A run fails with the error of the first step that has one. -/
theorem foldlM_eq_error_iff {e : ε} : xs.foldlM f s = .error e ↔
    ∃ before x after s', xs = before ++ x :: after ∧ before.foldlM f s = .ok s' ∧
      f s' x = .error e := by
  induction xs generalizing s with
  | nil => simp [pure, Except.pure]
  | cons x xs ih =>
    rw [List.foldlM_cons, bind_eq_error_iff]
    constructor
    · rintro (hx | ⟨next, hnext, hrest⟩)
      · exact ⟨[], x, xs, s, rfl, rfl, hx⟩
      · obtain ⟨before, y, after, s', rfl, hbefore, hy⟩ := ih.1 hrest
        refine ⟨x :: before, y, after, s', rfl, ?_, hy⟩
        exact bind_eq_ok_iff.2 ⟨next, hnext, hbefore⟩
    · rintro ⟨before, y, after, s', hxs, hbefore, hy⟩
      cases before with
      | nil =>
        obtain ⟨rfl, rfl⟩ := List.cons.inj hxs
        cases hbefore
        exact .inl hy
      | cons z before =>
        obtain ⟨rfl, rfl⟩ := List.cons.inj hxs
        obtain ⟨next, hnext, hbefore⟩ := bind_eq_ok_iff.1 hbefore
        exact .inr ⟨next, hnext, ih.2 ⟨before, y, after, s', rfl, hbefore, hy⟩⟩

/-- Where each step commutes with taking the image of a state, so does a run. -/
theorem foldlM_image {g : τ → α → Except ε τ} {h : σ → τ}
    (hstep : ∀ s x, g (h s) x = (f s x).map h) : xs.foldlM g (h s) = (xs.foldlM f s).map h := by
  induction xs generalizing s with
  | nil => rfl
  | cons x xs ih =>
    rw [List.foldlM_cons, List.foldlM_cons, hstep]
    cases f s x with
    | error e => rfl
    | ok next => exact ih

end Runs

/-! ## The errors of a computation -/

/-- Every error of the computation is of a kind. -/
def FailsOnly (P : ε → Prop) (x : Except ε α) : Prop :=
  ∀ e, x = .error e → P e

namespace FailsOnly

variable {P : ε → Prop}

theorem pure {a : α} : FailsOnly P (Pure.pure a : Except ε α) :=
  nofun

theorem error {e : ε} (he : P e) : FailsOnly P (.error e : Except ε α) := by
  rintro _ ⟨⟩
  exact he

theorem bind {x : Except ε α} {f : α → Except ε β} (hx : FailsOnly P x)
    (hf : ∀ a, FailsOnly P (f a)) : FailsOnly P (x >>= f) := by
  intro e h
  rcases bind_eq_error_iff.1 h with h | ⟨a, -, h⟩
  · exact hx e h
  · exact hf a e h

theorem guard {c : Prop} [Decidable c] {e : ε} {x : Except ε β} (he : P e) (hx : FailsOnly P x) :
    FailsOnly P (if c then (throw e >>= fun _ : PUnit => x) else x) := by
  split_ifs
  · exact error he
  · exact hx

theorem mapM {f : α → Except ε β} {xs : List α} (h : ∀ x ∈ xs, FailsOnly P (f x)) :
    FailsOnly P (xs.mapM f) := by
  induction xs with
  | nil => exact pure
  | cons x xs ih =>
    obtain ⟨hx, hxs⟩ := List.forall_mem_cons.1 h
    rw [List.mapM_cons]
    exact hx.bind fun _ => (ih hxs).bind fun _ => pure

end FailsOnly

end KeyedSql.Outcome
