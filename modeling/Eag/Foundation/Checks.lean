/-
  Eag.Foundation.Checks

  Fallible straight-line code as `Except`: a guard `require p e` that stops with
  `e` unless `p` holds, and the inversion lemmas that peel a sequence of guards
  and bindings apart from its successful result. And loops over fallible steps: a map
  that succeeds at every element, and a fold over values that were each made by a
  fallible constructor.
-/

import Mathlib.Data.List.Forall2
import Mathlib.Logic.Basic

namespace Eag.Foundation

variable {ε α β : Type _}

/-- Stop with `e` unless `p` holds. -/
def require (p : Prop) [Decidable p] (e : ε) : Except ε Unit :=
  if p then .ok () else .error e

@[simp] theorem require_eq_ok (p : Prop) [Decidable p] (e : ε) (u : Unit) :
    require p e = .ok u ↔ p := by
  by_cases h : p <;> simp [require, h]

theorem require_of (p : Prop) [Decidable p] (e : ε) (h : p) :
    require p e = .ok () := by
  rw [require_eq_ok]; exact h

/-- Stop with `e` unless `p` holds, and hand its proof to what follows. -/
def ensure (p : Prop) [Decidable p] (e : ε) : Except ε (PLift p) :=
  if h : p then .ok ⟨h⟩ else .error e

theorem ensure_of {p : Prop} [Decidable p] (h : p) (e : ε) : ensure p e = .ok ⟨h⟩ := dif_pos h

/-- What follows a proof that was handed on needs just the proof. -/
theorem exists_ensure {p : Prop} [Decidable p] {e : ε} {Q : PLift p → Prop} :
    (∃ a, ensure p e = .ok a ∧ Q a) ↔ ∃ h : p, Q ⟨h⟩ := by
  constructor
  · rintro ⟨⟨h⟩, -, hq⟩
    exact ⟨h, hq⟩
  · rintro ⟨h, hq⟩
    exact ⟨⟨h⟩, ensure_of h e, hq⟩

/-- A sequence succeeds exactly when its first part does and the rest succeeds
    on what the first part returned. -/
@[simp] theorem except_bind_eq_ok (x : Except ε α) (f : α → Except ε β) (b : β) :
    (x >>= f) = .ok b ↔ ∃ a, x = .ok a ∧ f a = .ok b := by
  cases x with
  | ok a => simp [bind, Except.bind]
  | error e => simp [bind, Except.bind]

@[simp] theorem except_pure_eq_ok (a b : α) :
    (pure a : Except ε α) = .ok b ↔ a = b := by
  simp [pure, Except.pure]

@[simp] theorem except_ok_bind (a : α) (f : α → Except ε β) :
    ((Except.ok a : Except ε α) >>= f) = f a := rfl

/-- Another error for a failure changes no result. -/
theorem except_mapError_eq_ok {x : Except ε α} {g : ε → β} {a : α} :
    x.mapError g = .ok a ↔ x = .ok a := by
  cases x <;> simp [Except.mapError]

/-! ## Loops -/

section Loops

variable {ε α β σ : Type}

/-- A map whose step succeeds at every element. -/
theorem mapM_ok {f : α → Except ε β} {g : α → β} {xs : List α}
    (h : ∀ x ∈ xs, f x = .ok (g x)) : xs.mapM f = .ok (xs.map g) := by
  induction xs with
  | nil => rfl
  | cons x rest ih =>
      rw [List.mapM_cons, h x List.mem_cons_self, ih fun y hy => h y (List.mem_cons_of_mem x hy)]
      rfl

/-- A map succeeds exactly where its step does at every element. -/
theorem mapM_eq_ok_iff {f : α → Except ε β} {good : α → Prop} {g : α → β}
    (hgood : ∀ x y, f x = .ok y ↔ good x ∧ y = g x) {xs : List α} {ys : List β} :
    xs.mapM f = .ok ys ↔ (∀ x ∈ xs, good x) ∧ ys = xs.map g := by
  constructor
  · intro h
    have hall : ∀ x ∈ xs, good x := by
      induction xs generalizing ys with
      | nil => exact fun x hx => nomatch hx
      | cons x rest ih =>
          rw [List.mapM_cons, except_bind_eq_ok] at h
          obtain ⟨y, hy, h⟩ := h
          rw [except_bind_eq_ok] at h
          obtain ⟨others, hothers, -⟩ := h
          exact List.forall_mem_cons.mpr ⟨((hgood x y).mp hy).1, ih hothers⟩
    rw [mapM_ok fun x hx => (hgood x (g x)).mpr ⟨hall x hx, rfl⟩] at h
    exact ⟨hall, (Except.ok.inj h).symm⟩
  · rintro ⟨hall, rfl⟩
    exact mapM_ok fun x hx => (hgood x (g x)).mpr ⟨hall x hx, rfl⟩

/-- A map succeeds with the values its step returns, element by element. -/
theorem mapM_eq_ok_forall₂ {f : α → Except ε β} {xs : List α} {ys : List β} :
    xs.mapM f = .ok ys ↔ List.Forall₂ (fun x y => f x = .ok y) xs ys := by
  induction xs generalizing ys with
  | nil =>
      rw [List.mapM_nil, except_pure_eq_ok, List.forall₂_nil_left_iff]
      exact eq_comm
  | cons x rest ih =>
      simp only [List.mapM_cons, except_bind_eq_ok, except_pure_eq_ok, List.forall₂_cons_left_iff,
        ih]
      constructor
      · rintro ⟨y, hy, others, hothers, rfl⟩
        exact ⟨y, others, hy, hothers, rfl⟩
      · rintro ⟨y, others, hy, hothers, rfl⟩
        exact ⟨y, hy, others, hothers, rfl⟩

/-- In two lists related element by element, every left element has its right one. -/
theorem exists_mem_of_forall₂ {R : α → β → Prop} {xs : List α} {ys : List β}
    (h : List.Forall₂ R xs ys) {x : α} (hx : x ∈ xs) : ∃ y ∈ ys, R x y := by
  induction h with
  | nil => cases hx
  | @cons a b _ _ hfirst _ ih =>
      rcases List.mem_cons.mp hx with rfl | hrest
      · exact ⟨b, List.mem_cons_self, hfirst⟩
      · obtain ⟨y, hy, hxy⟩ := ih hrest
        exact ⟨y, List.mem_cons_of_mem b hy, hxy⟩

/-- Every right element has its left one. -/
theorem exists_mem_of_forall₂_right {R : α → β → Prop} {xs : List α} {ys : List β}
    (h : List.Forall₂ R xs ys) {y : β} (hy : y ∈ ys) : ∃ x ∈ xs, R x y := by
  induction h with
  | nil => cases hy
  | @cons a b _ _ hfirst _ ih =>
      rcases List.mem_cons.mp hy with rfl | hrest
      · exact ⟨a, List.mem_cons_self, hfirst⟩
      · obtain ⟨x, hx, hxy⟩ := ih hrest
        exact ⟨x, List.mem_cons_of_mem a hx, hxy⟩

/-- A loop of checks passes when every check does. -/
theorem forM_eq_ok {f : α → Except ε Unit} {xs : List α} {u : Unit} :
    xs.forM f = .ok u ↔ ∀ x ∈ xs, f x = .ok () := by
  induction xs with
  | nil => exact iff_of_true rfl nofun
  | cons x rest ih =>
      show (f x >>= fun _ => rest.forM f) = .ok u ↔ _
      rw [except_bind_eq_ok, List.forall_mem_cons, ← ih]
      constructor
      · rintro ⟨_, hx, hrest⟩
        exact ⟨hx, hrest⟩
      · rintro ⟨hx, hrest⟩
        exact ⟨(), hx, hrest⟩

/-- A right element for every left one makes a right list. -/
theorem exists_forall₂ {R : α → β → Prop} {xs : List α} (h : ∀ x ∈ xs, ∃ y, R x y) :
    ∃ ys, List.Forall₂ R xs ys := by
  induction xs with
  | nil => exact ⟨[], .nil⟩
  | cons x rest ih =>
      obtain ⟨y, hy⟩ := h x List.mem_cons_self
      obtain ⟨ys, hys⟩ := ih fun z hz => h z (List.mem_cons_of_mem x hz)
      exact ⟨y :: ys, .cons hy hys⟩

/-- Every value was made. -/
theorem exists_eq_map_ok {made : List (Except ε α)} :
    (∃ xs : List α, made = xs.map .ok) ↔ ∀ x ∈ made, ∃ a, x = .ok a := by
  constructor
  · rintro ⟨xs, rfl⟩ x hx
    obtain ⟨a, -, rfl⟩ := List.mem_map.mp hx
    exact ⟨a, rfl⟩
  · intro h
    induction made with
    | nil => exact ⟨[], rfl⟩
    | cons first rest ih =>
        obtain ⟨a, rfl⟩ := h first List.mem_cons_self
        obtain ⟨xs, rfl⟩ := ih fun x hx => h x (List.mem_cons_of_mem _ hx)
        exact ⟨a :: xs, rfl⟩

theorem mem_map_ok {xs : List α} {a : α} : (.ok a : Except ε α) ∈ xs.map .ok ↔ a ∈ xs := by
  rw [List.mem_map]
  constructor
  · rintro ⟨b, hb, h⟩
    rwa [← Except.ok.inj h]
  · intro h
    exact ⟨a, h, rfl⟩

/-- A fold over made values goes through exactly where all of them were made, and is then
    the fold over the values. -/
theorem foldlM_made {add : σ → α → σ} {step : σ → Except ε α → Except ε σ}
    (hok : ∀ s x, step s (.ok x) = .ok (add s x)) (herror : ∀ s e, step s (.error e) = .error e)
    {made : List (Except ε α)} {s s' : σ} :
    made.foldlM step s = .ok s' ↔ ∃ xs : List α, made = xs.map .ok ∧ s' = xs.foldl add s := by
  induction made generalizing s with
  | nil =>
      constructor
      · intro h
        exact ⟨[], rfl, (Except.ok.inj h).symm⟩
      · rintro ⟨xs, hxs, rfl⟩
        rw [List.map_eq_nil_iff.mp hxs.symm]
        rfl
  | cons first rest ih =>
      rw [List.foldlM_cons]
      cases first with
      | error e =>
          rw [herror]
          refine iff_of_false (fun h => nomatch h) ?_
          rintro ⟨xs, hxs, -⟩
          cases xs <;> cases hxs
      | ok x =>
          rw [hok, except_ok_bind, ih]
          constructor
          · rintro ⟨xs, rfl, rfl⟩
            exact ⟨x :: xs, rfl, rfl⟩
          · rintro ⟨xs, hxs, rfl⟩
            cases xs with
            | nil => cases hxs
            | cons next xs =>
                obtain ⟨hnext, hrest⟩ := List.cons.inj hxs
                rw [← Except.ok.inj hnext]
                exact ⟨xs, hrest, rfl⟩

end Loops

end Eag.Foundation
