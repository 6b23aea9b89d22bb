/-
  Eag.Foundation.Text

  The text values the models share: `str.strip()` emptiness and resolved paths.

  A text is a sequence of Unicode scalar values. Paths stand for what
  `Path.resolve()` returned; a resolution that fails is not modelled.
-/

import Mathlib.Data.List.Basic

namespace Eag.Foundation

/-- The characters `str.strip()` removes. -/
def isSpace (c : Char) : Bool :=
  let n := c.toNat
  (0x09 ≤ n && n ≤ 0x0d) || (0x1c ≤ n && n ≤ 0x20) || n == 0x85 || n == 0xa0 ||
    n == 0x1680 || (0x2000 ≤ n && n ≤ 0x200a) || n == 0x2028 || n == 0x2029 ||
    n == 0x202f || n == 0x205f || n == 0x3000

/-- `not value.strip()`. -/
def isBlank (s : String) : Bool :=
  s.toList.all isSpace

/-- A text with something left after stripping. -/
def NonBlank (s : String) : Prop :=
  isBlank s = false

instance (s : String) : Decidable (NonBlank s) :=
  inferInstanceAs (Decidable (isBlank s = false))

theorem nonBlank_of_mem {s : String} {c : Char} (hc : c ∈ s.toList) (hs : isSpace c = false) :
    NonBlank s := by
  unfold NonBlank isBlank
  rw [List.all_eq_false]
  exact ⟨c, hc, by simp [hs]⟩

/-- A text whose first character is not a space. -/
theorem nonBlank_of_head (c : Char) (cs : List Char) (h : isSpace c = false) :
    NonBlank (String.ofList (c :: cs)) :=
  nonBlank_of_mem (c := c) (by simp) h

/-- `value.strip()`. -/
def strip (s : String) : String :=
  String.ofList ((s.toList.dropWhile isSpace).reverse.dropWhile isSpace).reverse

/-- A text that is not blank and that stripping leaves alone. -/
def Trimmed (s : String) : Prop := NonBlank s ∧ strip s = s

instance (s : String) : Decidable (Trimmed s) := inferInstanceAs (Decidable (_ ∧ _))

/-! ## Paths -/

/-- A path after `Path.resolve()`: the names from the root down. -/
structure ResolvedPath where
  parts : List String
  parts_wellFormed : ∀ p ∈ parts, p ≠ "" ∧ '/' ∉ p.toList
  deriving DecidableEq, Repr

namespace ResolvedPath

/-- Every name after its separator. -/
def segments : List String → List Char
  | [] => []
  | p :: ps => '/' :: (p.toList ++ segments ps)

/-- `str(path)`. -/
def text (p : ResolvedPath) : String :=
  String.ofList (if p.parts = [] then ['/'] else segments p.parts)

/-- `path.is_relative_to(root)`. -/
def isRelativeTo (p root : ResolvedPath) : Bool := decide (root.parts <+: p.parts)

theorem segments_inj {ps qs : List String} (hp : ∀ p ∈ ps, '/' ∉ p.toList)
    (hq : ∀ q ∈ qs, '/' ∉ q.toList) (h : segments ps = segments qs) : ps = qs := by
  induction ps generalizing qs with
  | nil => cases qs with
    | nil => rfl
    | cons q qs => simp [segments] at h
  | cons p ps ih =>
      cases qs with
      | nil => simp [segments] at h
      | cons q qs =>
          have hsep : ∀ rs, segments rs = [] ∨ ∃ t, segments rs = '/' :: t := by
            intro rs; cases rs with
            | nil => exact Or.inl rfl
            | cons r rs => exact Or.inr ⟨_, rfl⟩
          have hname : ∀ (xs ys : List Char) (us vs : List String), '/' ∉ xs → '/' ∉ ys →
              xs ++ segments us = ys ++ segments vs → xs = ys ∧ segments us = segments vs := by
            intro xs
            induction xs with
            | nil =>
                intro ys us vs _ hy he
                cases ys with
                | nil => exact ⟨rfl, he⟩
                | cons y ys =>
                    rcases hsep us with hu | ⟨t, hu⟩ <;> rw [hu] at he <;> simp at he
                    exact absurd he.1.symm (by rintro rfl; simp at hy)
            | cons x xs ihx =>
                intro ys us vs hx hy he
                cases ys with
                | nil =>
                    rcases hsep vs with hv | ⟨t, hv⟩ <;> rw [hv] at he <;> simp at he
                    exact absurd he.1 (by rintro rfl; simp at hx)
                | cons y ys =>
                    obtain ⟨rfl, he'⟩ := List.cons.inj he
                    obtain ⟨rfl, hr⟩ := ihx ys us vs (fun hm => hx (List.mem_cons_of_mem _ hm))
                      (fun hm => hy (List.mem_cons_of_mem _ hm)) he'
                    exact ⟨rfl, hr⟩
          obtain ⟨hpq, hrest⟩ := hname _ _ _ _ (hp p (by simp)) (hq q (by simp))
            (List.cons.inj h).2
          rw [String.toList_injective hpq,
            ih (fun r hr => hp r (List.mem_cons_of_mem _ hr))
              (fun r hr => hq r (List.mem_cons_of_mem _ hr)) hrest]

/-- The text of a resolved path determines it. -/
theorem text_injective {p q : ResolvedPath} (h : p.text = q.text) : p = q := by
  have hne : ∀ r : ResolvedPath, r.parts ≠ [] → segments r.parts ≠ ['/'] := by
    intro r hr hs
    cases hparts : r.parts with
    | nil => exact hr hparts
    | cons a as =>
        rw [hparts] at hs
        have ha := (r.parts_wellFormed a (by simp [hparts])).1
        simp only [segments, List.cons.injEq, List.append_eq_nil_iff, true_and] at hs
        exact ha (String.toList_injective hs.1)
  have hparts : p.parts = q.parts := by
    have ht := String.ofList_injective h
    split at ht <;> split at ht
    · next hp hq => rw [hp, hq]
    · next hp hq => exact absurd ht.symm (hne q hq)
    · next hp hq => exact absurd ht (hne p hp)
    · exact segments_inj (fun r hr => (p.parts_wellFormed r hr).2)
        (fun r hr => (q.parts_wellFormed r hr).2) ht
  cases p; cases q; cases hparts; rfl

end ResolvedPath

end Eag.Foundation
