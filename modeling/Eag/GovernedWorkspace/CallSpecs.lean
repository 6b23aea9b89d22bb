/-
  Eag.GovernedWorkspace.CallSpecs

  What each call of the custody gate can do to the ledger of descriptors, and whether its
  failure is guarded.
-/

import Eag.GovernedWorkspace.Gate

namespace Eag.GovernedWorkspace

open Eag.Foundation
open Prog (Ensures)

variable {tree : DirectoryTree} {k : Kernel} {mine : List Event}

/-! ## Guarded calls -/

theorem Guarded.snoc (h : Guarded mine) {e : Event} (he : ¬Unguarded e) : Guarded (mine ++ [e]) :=
  guarded_snoc.mpr ⟨h, he⟩

theorem not_guarded_snoc {e : Event} (he : Unguarded e) : ¬Guarded (mine ++ [e]) :=
  fun h => (guarded_snoc.mp h).2 he

/-- An event that is not unguarded decides nothing. -/
theorem guarded_snoc_iff {e : Event} (he : ¬Unguarded e) : Guarded (mine ++ [e]) ↔ Guarded mine :=
  guarded_snoc.trans (and_iff_left he)

/-! ## Opening -/

/-- Opening a directory fails without effect, or opens what it was asked for. -/
theorem Kernel.opening_cases (k : Kernel) (tree : DirectoryTree) (env : Injection)
    (path : Option Path) :
    k.opening tree env path = (k, .error .osError) ∨
    ∃ p, path = some p ∧ tree.node p = some .directory ∧
      k.opening tree env path = (k.acquire p, .ok k.opened.length) := by
  cases path with
  | none => exact Or.inl rfl
  | some p =>
      by_cases h : env.fails ∨ tree.node p ≠ some .directory
      · exact Or.inl (if_pos h)
      · have hnode : tree.node p = some .directory := not_not.mp (not_or.mp h).2
        exact Or.inr ⟨p, rfl, hnode, if_neg h⟩

/-- **Opening a declared root.** -/
theorem openRoot_spec (root : Root) (path : PyText) (hmine : Guarded mine) :
    Ensures tree.perform (fun k' later (r : Except Raised Descriptor) =>
      (k' = k ∧ Guarded later ∧ r = .error .osError) ∨
      (k' = k ∧ (Guarded later ↔ root = .workspace) ∧ r = .error .valueError) ∨
      ∃ p, tree.target path = some p ∧ tree.node p = some .directory ∧ k' = k.acquire p ∧
        Guarded later ∧ r = .ok k.opened.length)
      k mine (Prog.perform (Operation.openRoot root path)) := by
  intro env
  show _ ∨ _ ∨ _
  have hperform : tree.perform k env (.openRoot root path)
      = if IsPathText path then k.opening tree env (tree.target path)
        else (k, .error .valueError) := rfl
  rw [hperform]
  by_cases hpath : IsPathText path
  · rw [if_pos hpath]
    rcases k.opening_cases tree env (tree.target path) with h | ⟨p, htarget, hnode, h⟩
    · rw [h]
      exact Or.inl ⟨rfl, hmine.snoc fun hu => hu.2 rfl, rfl⟩
    · rw [h]
      exact Or.inr (Or.inr ⟨p, htarget, hnode, rfl, hmine.snoc fun hu => hu, rfl⟩)
  · rw [if_neg hpath]
    refine Or.inr (Or.inl ⟨rfl, ?_, rfl⟩)
    rw [guarded_snoc, and_iff_right hmine]
    constructor
    · intro h
      by_contra hroot
      exact h ⟨hroot, by decide⟩
    · intro hroot hu
      exact hu.1 hroot

/-- **Opening the parent** of a live descriptor. -/
theorem openParent_spec {descriptor : Descriptor} {path : Path}
    (hlive : k.live? descriptor = some path) (hmine : Guarded mine) :
    Ensures tree.perform (fun k' later (r : Except Raised Descriptor) =>
      Guarded later ∧
      ((k' = k ∧ ∃ error, r = .error error) ∨
        (k' = k.acquire path.dropLast ∧ tree.node path.dropLast = some .directory ∧
          r = .ok k.opened.length)))
      k mine (Prog.perform (Operation.openParent descriptor)) := by
  intro env
  show _ ∧ _
  have hperform : tree.perform k env (.openParent descriptor)
      = k.opening tree env ((k.live? descriptor).map List.dropLast) := rfl
  rw [hperform, hlive]
  rcases k.opening_cases tree env (some path.dropLast) with h | ⟨p, hp, hnode, h⟩
  · rw [Option.map_some, h]
    exact ⟨hmine.snoc fun hu => hu, Or.inl ⟨rfl, _, rfl⟩⟩
  · cases hp
    rw [Option.map_some, h]
    exact ⟨hmine.snoc fun hu => hu, Or.inr ⟨rfl, hnode, rfl⟩⟩

/-- **Duplicating** a live descriptor: its failure is not guarded. -/
theorem dup_spec {descriptor : Descriptor} {path : Path}
    (hlive : k.live? descriptor = some path) (hmine : Guarded mine) :
    Ensures tree.perform (fun k' later (r : Except Raised Descriptor) =>
      (k' = k ∧ ¬Guarded later ∧ ∃ error, r = .error error) ∨
      (k' = k.acquire path ∧ Guarded later ∧ r = .ok k.opened.length))
      k mine (Prog.perform (Operation.dup descriptor)) := by
  intro env
  show _ ∨ _
  have hperform : tree.perform k env (.dup descriptor)
      = k.opening tree env (k.live? descriptor) := rfl
  rw [hperform, hlive]
  rcases k.opening_cases tree env (some path) with h | ⟨p, hp, -, h⟩
  · rw [h]
    exact Or.inl ⟨rfl, not_guarded_snoc (by exact trivial), _, rfl⟩
  · cases hp
    rw [h]
    exact Or.inr ⟨rfl, hmine.snoc fun hu => hu, rfl⟩

/-! ## Closing -/

/-- A `close` other than the one of a directory the walk leaves is guarded. -/
theorem close_spec {closing : Closing} (hclosing : closing ≠ .left) (descriptor : Descriptor) :
    Ensures tree.perform (fun k' later (r : Except Raised Unit) =>
      k' = k.release descriptor ∧ (Guarded later ↔ Guarded mine) ∧
      (r = .ok () ∨ ∃ error, r = .error error))
      k mine (Prog.perform (Operation.close closing descriptor)) := by
  intro env
  show _ ∧ _ ∧ _
  generalize hreply : (tree.perform k env (.close closing descriptor)).2 = reply
  have hu : ¬Unguarded ⟨.close closing descriptor, reply⟩ := by
    cases closing with
    | left => exact absurd rfl hclosing
    | suppressed | top => cases reply <;> exact fun hu => hu
  refine ⟨rfl, guarded_snoc_iff hu, ?_⟩
  cases reply with
  | ok _ => exact Or.inl rfl
  | error error => exact Or.inr ⟨error, rfl⟩

/-- **Leaving a directory** of the walk. -/
theorem leave_spec (descriptor : Descriptor) (hmine : Guarded mine) :
    Ensures tree.perform (fun k' later (r : Except Raised Unit) =>
      k' = k.release descriptor ∧
      ((Guarded later ∧ r = .ok ()) ∨ (¬Guarded later ∧ ∃ error, r = .error error)))
      k mine (Prog.perform (Operation.close .left descriptor)) := by
  intro env
  show _ ∧ _
  generalize hreply : (tree.perform k env (.close .left descriptor)).2 = reply
  refine ⟨rfl, ?_⟩
  cases reply with
  | ok _ => exact Or.inl ⟨hmine.snoc fun hu => hu, rfl⟩
  | error error => exact Or.inr ⟨not_guarded_snoc (by exact trivial), error, rfl⟩

/-- `_close_all` releases what it is given and fails nowhere. -/
theorem closeAll_spec (descriptors : List Descriptor) :
    Ensures tree.perform (fun k' later _ =>
      k' = k.releaseAll descriptors ∧ (Guarded later ↔ Guarded mine))
      k mine (closeAll descriptors) := by
  induction descriptors generalizing k mine with
  | nil => exact ⟨rfl, Iff.rfl⟩
  | cons descriptor rest ih =>
      refine Ensures.bind (close_spec (by decide) descriptor) ?_
      rintro k1 later r ⟨rfl, hlater, -⟩
      refine ih.imp ?_
      rintro k2 later2 _ ⟨rfl, hlater2⟩
      exact ⟨rfl, hlater2.trans hlater⟩

/-! ## Reading -/

/-- An identity check of the admission. -/
theorem fromDescriptor_spec {descriptor : Descriptor} {path : Path}
    (hlive : k.live? descriptor = some path) (hmine : Guarded mine) :
    Ensures tree.perform (fun k' later r => k' = k ∧
      ((Guarded later ∧ r = .ok (.observed (tree.stat path))) ∨
        (¬Guarded later ∧ r = .error unavailable)))
      k mine (fromDescriptor .admission descriptor) := by
  intro env
  have hperform : tree.perform k env (.fstat .admission descriptor)
      = (k, env.guard (.ok (tree.stat path))) := by
    show (k, env.guard (k.about descriptor tree.stat)) = _
    rw [Kernel.about, hlive]
  rw [hperform]
  cases hfails : env.fails with
  | true =>
      rw [Injection.guard, hfails, if_pos rfl]
      exact ⟨rfl, Or.inr ⟨not_guarded_snoc (by exact trivial), rfl⟩⟩
  | false =>
      rw [Injection.guard, hfails, if_neg Bool.false_ne_true]
      exact ⟨rfl, Or.inl ⟨hmine.snoc fun hu => hu, rfl⟩⟩

/-- The identity check after the claim changes nothing and is guarded. -/
theorem fromDescriptor_binding (descriptor : Descriptor) (hmine : Guarded mine) :
    Ensures tree.perform (fun k' later _ => k' = k ∧ Guarded later)
      k mine (fromDescriptor .binding descriptor) := by
  intro env
  generalize hreply : (tree.perform k env (.fstat .binding descriptor)).2 = reply
  cases reply with
  | ok stat => exact ⟨rfl, hmine.snoc fun hu => hu⟩
  | error error => exact ⟨rfl, hmine.snoc fun hu => hu⟩

/-- **Emptiness** of a live directory, claimed only of a directory without entries. -/
theorem descriptorEmpty_spec {descriptor : Descriptor} {path : Path}
    (hlive : k.live? descriptor = some path) (hmine : Guarded mine) :
    Ensures tree.perform (fun k' later empty => k' = k ∧ Guarded later ∧
      (empty = true → ∀ name, tree.node (path ++ [name]) = none))
      k mine (descriptorEmpty descriptor) := by
  intro env
  have hperform : tree.perform k env (.scandir descriptor)
      = (k, env.guard (.ok (tree.entries path).head?)) := by
    show (k, env.guard (k.about descriptor fun path => (tree.entries path).head?)) = _
    rw [Kernel.about, hlive]
  rw [hperform]
  cases hfails : env.fails with
  | true =>
      rw [Injection.guard, hfails, if_pos rfl]
      exact ⟨rfl, hmine.snoc fun hu => hu, fun h => by cases h⟩
  | false =>
      rw [Injection.guard, hfails, if_neg Bool.false_ne_true]
      refine ⟨rfl, hmine.snoc fun hu => hu, fun hempty name => ?_⟩
      have hentries : tree.entries path = [] := by
        rw [← List.head?_eq_none_iff]
        exact Option.isNone_iff_eq_none.mp hempty
      by_contra hnode
      have hmem := (tree.mem_entries path name).mpr hnode
      rw [hentries] at hmem
      exact List.not_mem_nil hmem

end Eag.GovernedWorkspace
