import Mathlib.Data.List.Basic

/-!
# Traversals

A traversal runs an action that may fail on each element of a list and stops at the first failure.
It succeeds exactly when the action succeeds on all elements, and fails as the first that fails.
-/

namespace UtilityMarkup

variable {ε α β γ : Type}

/-! ### Results -/

instance decidableEqExcept [DecidableEq ε] [DecidableEq α] : DecidableEq (Except ε α)
  | .ok a, .ok b => decidable_of_iff (a = b) (by simp)
  | .error e, .error e' => decidable_of_iff (e = e') (by simp)
  | .ok _, .error _ => isFalse nofun
  | .error _, .ok _ => isFalse nofun

lemma bind_eq_ok_iff {x : Except ε α} {f : α → Except ε β} {b : β} :
    x >>= f = .ok b ↔ ∃ a, x = .ok a ∧ f a = .ok b := by
  cases x <;> simp [bind, Except.bind]

/-- Two results look alike when they are the same error or two values that look alike. -/
lemma map_eq_map_iff {x : Except ε α} {y : Except ε β} {f : α → γ} {g : β → γ} :
    x.map f = y.map g ↔
      (∃ e, x = .error e ∧ y = .error e) ∨ ∃ a b, x = .ok a ∧ y = .ok b ∧ f a = g b := by
  cases x <;> cases y <;> simp [Except.map, eq_comm]

/-- Results that look alike still do when less of them is seen. -/
lemma map_comp_eq_of_map_eq {x y : Except ε α} {f : α → β} (h : x.map f = y.map f) (g : β → γ) :
    x.map (fun a => g (f a)) = y.map fun a => g (f a) := by
  have hcomp (z : Except ε α) : z.map (fun a => g (f a)) = (z.map f).map g := by
    cases z <;> rfl
  rw [hcomp, hcomp, h]

lemma mapM_eq_ok_iff {f : α → Except ε β} {xs : List α} {ys : List β} :
    xs.mapM f = .ok ys ↔ xs.map f = ys.map .ok := by
  induction xs generalizing ys with
  | nil => cases ys <;> simp [pure, Except.pure]
  | cons x xs ih =>
    simp only [List.mapM_cons, bind_eq_ok_iff, pure, Except.pure, Except.ok.injEq]
    constructor
    · rintro ⟨y, hy, rest, hrest, rfl⟩
      rw [List.map_cons, hy, ih.mp hrest, List.map_cons]
    · intro h
      cases ys with
      | nil => cases h
      | cons y rest =>
        obtain ⟨hy, hrest⟩ := List.cons.inj h
        exact ⟨y, hy, rest, ih.mpr hrest, rfl⟩

/-- Facts about results carry over from the arguments that they were obtained from. -/
lemma map_eq_of_map_eq_ok {f : α → Except ε β} {g : β → γ} {h : α → γ} {xs : List α} {ys : List β}
    (hf : xs.map f = ys.map .ok) (hg : ∀ x ∈ xs, ∀ y, f x = .ok y → g y = h x) :
    ys.map g = xs.map h := by
  induction xs generalizing ys with
  | nil => cases ys with
    | nil => rfl
    | cons y ys => cases hf
  | cons x xs ih => cases ys with
    | nil => cases hf
    | cons y ys =>
      obtain ⟨hx, hxs⟩ := List.cons.inj hf
      rw [List.map_cons, List.map_cons, hg x (by simp) y hx,
        ih hxs fun x' hx' => hg x' (List.mem_cons_of_mem _ hx')]

/-- Where the results of some arguments hold one value each, and the other results hold none, the
values belong to those arguments in their order. -/
lemma forall₂_filter_flatMap {f : α → Except ε β} {g : β → List γ} {p : α → Bool}
    {r : α → γ → Prop} {xs : List α} {ys : List β} (hf : xs.map f = ys.map .ok)
    (hkept : ∀ x y, f x = .ok y → p x = true → ∃ c, g y = [c] ∧ r x c)
    (hdropped : ∀ x y, f x = .ok y → p x = false → g y = []) :
    List.Forall₂ r (xs.filter p) (ys.flatMap g) := by
  induction xs generalizing ys with
  | nil => cases ys with
    | nil => exact .nil
    | cons y ys => cases hf
  | cons x xs ih => cases ys with
    | nil => cases hf
    | cons y ys =>
      obtain ⟨hx, hxs⟩ := List.cons.inj hf
      cases hp : p x with
      | true =>
        obtain ⟨c, hc, hr⟩ := hkept x y hx hp
        rw [List.filter_cons_of_pos hp, List.flatMap_cons, hc]
        exact .cons hr (ih hxs)
      | false =>
        rw [List.filter_cons_of_neg (by simp [hp]), List.flatMap_cons, hdropped x y hx hp]
        exact ih hxs

lemma mapM_congr {f g : α → Except ε β} {xs : List α} (h : ∀ x ∈ xs, f x = g x) :
    xs.mapM f = xs.mapM g := by
  induction xs with
  | nil => rfl
  | cons x xs ih =>
    rw [List.mapM_cons, List.mapM_cons, h x (by simp),
      ih fun x' hx' => h x' (List.mem_cons_of_mem _ hx')]

lemma map_mapM (f : α → Except ε β) (g : β → γ) (xs : List α) :
    (xs.mapM f).map (List.map g) = xs.mapM fun x => (f x).map g := by
  induction xs with
  | nil => rfl
  | cons x xs ih =>
    rw [List.mapM_cons, List.mapM_cons, ← ih]
    cases f x with
    | error e => rfl
    | ok y => cases xs.mapM f <;> rfl

/-! ### Errors -/

def errorOf? : Except ε α → Option ε
  | .ok _ => none
  | .error e => some e

lemma errorOf?_eq_some_iff {x : Except ε α} {e : ε} : errorOf? x = some e ↔ x = .error e := by
  cases x <;> simp [errorOf?]

lemma errorOf?_bind_return (x : Except ε α) (f : α → β) :
    errorOf? (do let a ← x; return f a) = errorOf? x := by
  cases x <;> rfl

lemma errorOf?_mapM (f : α → Except ε β) (xs : List α) :
    errorOf? (xs.mapM f) = xs.findSome? fun x => errorOf? (f x) := by
  induction xs with
  | nil => rfl
  | cons x xs ih =>
    rw [List.mapM_cons, List.findSome?_cons, ← ih]
    cases f x with
    | error e => rfl
    | ok y => cases xs.mapM f <;> rfl

lemma findSome?_flatMap (xs : List α) (f : α → List β) (g : β → Option γ) :
    (xs.flatMap f).findSome? g = xs.findSome? fun x => (f x).findSome? g := by
  simp only [← List.head?_filterMap, List.filterMap_flatMap, List.head?_flatMap]

/-- The first result depends on the elements only by what the results are computed from. -/
lemma findSome?_eq_of_map_eq {δ : Type} {xs : List α} {ys : List β} {f : α → γ} {f' : β → γ}
    {g : α → Option δ} {g' : β → Option δ} (hmap : xs.map f = ys.map f')
    (h : ∀ x y, f x = f' y → g x = g' y) : xs.findSome? g = ys.findSome? g' := by
  induction xs generalizing ys with
  | nil => cases ys with
    | nil => rfl
    | cons y ys => cases hmap
  | cons x xs ih => cases ys with
    | nil => cases hmap
    | cons y ys =>
      obtain ⟨hx, hxs⟩ := List.cons.inj hmap
      rw [List.findSome?_cons, List.findSome?_cons, h x y hx, ih hxs]

end UtilityMarkup
