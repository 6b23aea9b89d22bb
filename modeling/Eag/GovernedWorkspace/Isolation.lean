/-
  Eag.GovernedWorkspace.Isolation

  The checks on the opened roots. The walk from a root upwards meets every directory above
  it, so the roots that pass are not nested; and at every exit of a check the descriptors it
  opened are closed, unless a call failed without a guard, and then one stays open
  (`Checked`).
-/

import Eag.GovernedWorkspace.CallSpecs

namespace Eag.GovernedWorkspace

open Eag.Foundation
open Prog (Ensures)
open Ledger (Balanced Leaks)

variable {tree : DirectoryTree} {k : Kernel} {mine : List Event}

/-! ## Placed descriptors -/

/-- A descriptor was opened on a directory. -/
def On (tree : DirectoryTree) (k : Kernel) (descriptor : Descriptor) (path : Path) : Prop :=
  k.opened[descriptor]? = some path ∧ tree.node path = some .directory

theorem On.mono {k' : Kernel} {descriptor : Descriptor} {path : Path}
    (h : On tree k descriptor path) (hopened : k.opened <+: k'.opened) :
    On tree k' descriptor path := by
  obtain ⟨rest, hrest⟩ := hopened
  refine ⟨?_, h.2⟩
  obtain ⟨hlt, hget⟩ := List.getElem?_eq_some_iff.mp h.1
  rw [← hrest, List.getElem?_append_left hlt]
  exact h.1

theorem on_acquire {path : Path} (hnode : tree.node path = some .directory) :
    On tree (k.acquire path) k.opened.length path :=
  ⟨List.getElem?_concat_length, hnode⟩

theorem acquire_opened (k : Kernel) (path : Path) : k.opened <+: (k.acquire path).opened :=
  List.prefix_append _ _

/-- A held descriptor is live on its directory. -/
theorem live_on {held : List Descriptor} {descriptor : Descriptor} {path : Path}
    (h : Balanced held k) (hmem : descriptor ∈ held) (hon : On tree k descriptor path) :
    k.live? descriptor = some path := by
  rw [h.live hmem]
  exact hon.1

/-- None of these was closed. -/
def Unclosed (held : List Descriptor) (k : Kernel) : Prop :=
  ∀ descriptor ∈ held, descriptor < k.opened.length ∧ descriptor ∉ k.released

theorem unclosed_of_balanced {held held' : List Descriptor} (h : Balanced held' k)
    (hsub : held ⊆ held') : Unclosed held k := by
  intro descriptor hmem
  exact ⟨h.known _ (hsub hmem), h.not_released (hsub hmem)⟩

theorem Unclosed.release {held : List Descriptor} {other : Descriptor} (h : Unclosed held k)
    (hnot : other ∉ held) : Unclosed held (k.release other) := by
  intro descriptor hmem
  obtain ⟨hlt, hopen⟩ := h descriptor hmem
  refine ⟨hlt, fun hreleased => ?_⟩
  rcases List.mem_cons.mp hreleased with rfl | hreleased
  · exact hnot hmem
  · exact hopen hreleased

theorem Unclosed.leaks {held : List Descriptor} (h : Unclosed held k) (hne : held ≠ []) :
    Leaks [] k := by
  obtain ⟨descriptor, rest, rfl⟩ := List.exists_cons_of_ne_nil hne
  obtain ⟨hlt, hopen⟩ := h descriptor List.mem_cons_self
  exact ⟨descriptor, hlt, List.not_mem_nil, hopen⟩

/-! ## Outcomes of a check -/

/-- How a check ends that was handed the descriptors `held`: with all others closed once and
    the fact it establishes; or after a failure that is not guarded, with the handed ones
    abandoned by an exception or with another one leaked. -/
def Checked (held : List Descriptor) (fact : Bool → Prop) (k : Kernel) (calls : List Event)
    (result : Except Raised Bool) : Prop :=
  (Guarded calls ∧ Balanced held k ∧ ∃ b, result = .ok b ∧ fact b) ∨
  (¬Guarded calls ∧
    (((∃ error, result = .error error) ∧ Unclosed held k) ∨
      (result = .ok true ∧ Leaks held k)))

/-- **The ancestor walk** from a directory: it ends, and it reaches the root of the tree only
    when it has not met the target above. -/
theorem walk_spec {ancestor path : Path} {held : List Descriptor} {current : Descriptor}
    {steps : Nat} (hbalanced : Balanced (current :: held) k)
    (hon : On tree k current path) (hsteps : path.length < steps) (hmine : Guarded mine) :
    Ensures tree.perform (fun k' later r => k.opened <+: k'.opened ∧ r.1 ∉ held ∧
      ((Guarded later ∧ Balanced (r.1 :: held) k' ∧
          ∃ b, r.2 = .ok b ∧ (b = false → ¬ancestor <+: path)) ∨
        (¬Guarded later ∧
          ((r.2 = .error unavailable ∧ Unclosed held k') ∨
            (r.2 = .ok true ∧ Leaks (r.1 :: held) k')))))
      k mine (walk (.observed (tree.stat ancestor)) steps current) := by
  -- induction on the steps; the path gets shorter with each directory that is left
  induction steps generalizing k mine current path with
  | zero => exact absurd hsteps (Nat.not_lt_zero _)
  | succ steps ih =>
      have hfresh : current ∉ held := (List.nodup_cons.mp hbalanced.distinct).1
      have hlive := live_on hbalanced List.mem_cons_self hon
      refine Ensures.bind (fromDescriptor_spec hlive hmine) ?_
      rintro k1 later1 r1 ⟨rfl, ⟨hlater1, rfl⟩ | ⟨hlater1, rfl⟩⟩
      · show Ensures _ _ _ _ (if _ then _ else _)
        by_cases hfound : WorkspaceCustodyFilesystemObjectIdentity.observed (tree.stat path)
            = .observed (tree.stat ancestor)
        · rw [if_pos hfound]
          exact ⟨List.prefix_refl _, hfresh,
            Or.inl ⟨hlater1, hbalanced, true, rfl, fun h => by cases h⟩⟩
        · rw [if_neg hfound]
          have hne : ancestor ≠ path := fun heq => hfound (by rw [heq])
          refine Ensures.bind (openParent_spec hlive hlater1) ?_
          rintro k2 later2 r2 ⟨hlater2, ⟨rfl, error, rfl⟩ | ⟨rfl, hparent, rfl⟩⟩
          · exact ⟨List.prefix_refl _, hfresh,
              Or.inl ⟨hlater2, hbalanced, true, rfl, fun h => by cases h⟩⟩
          · have hbalanced2 := hbalanced.acquire path.dropLast
            have hon2 : On tree (k1.acquire path.dropLast) k1.opened.length path.dropLast :=
              on_acquire hparent
            have hlive2 := live_on hbalanced2 List.mem_cons_self hon2
            have hopened := acquire_opened k1 path.dropLast
            refine Ensures.bind (fromDescriptor_spec hlive2 hlater2) ?_
            rintro k3 later3 r3 ⟨rfl, ⟨hlater3, rfl⟩ | ⟨hlater3, rfl⟩⟩
            · show Ensures _ _ _ _ (if _ then _ else _)
              by_cases htop : WorkspaceCustodyFilesystemObjectIdentity.observed
                  (tree.stat path.dropLast) = .observed (tree.stat path)
              · -- the parent of the root of the tree is the root itself
                rw [if_pos htop]
                have hpath : path = [] := by
                  have heq := tree.stat_injective _ _ hparent hon.2
                    (WorkspaceCustodyFilesystemObjectIdentity.observed_injective htop)
                  have hlength := congrArg List.length heq
                  rw [List.length_dropLast] at hlength
                  exact List.length_eq_zero_iff.mp (by omega)
                refine Ensures.bind (close_spec (by decide) k1.opened.length) ?_
                rintro k4 later4 r4 ⟨rfl, hlater4, hr4⟩
                have hbalanced4 := hbalanced2.release
                rcases hr4 with rfl | ⟨error, rfl⟩
                · refine ⟨hopened, hfresh,
                    Or.inl ⟨hlater4.mpr hlater3, hbalanced4, false, rfl, fun _ hprefix => ?_⟩⟩
                  rw [hpath] at hprefix hne
                  exact hne (List.prefix_nil.mp hprefix)
                · exact ⟨hopened, hfresh,
                    Or.inl ⟨hlater4.mpr hlater3, hbalanced4, true, rfl, fun h => by cases h⟩⟩
              · rw [if_neg htop]
                refine Ensures.bind (leave_spec current hlater3) ?_
                rintro k4 later4 r4 ⟨rfl, ⟨hlater4, rfl⟩ | ⟨hlater4, error, rfl⟩⟩
                · have hswap := hbalanced2.perm (List.Perm.swap current k1.opened.length held)
                  have hshort : path.dropLast.length < steps := by
                    have hne' : path ≠ [] := fun hnil => htop (by rw [hnil]; rfl)
                    have hpos := List.length_pos_of_ne_nil hne'
                    rw [List.length_dropLast]
                    omega
                  refine (ih hswap.release hon2 hshort hlater4).imp ?_
                  rintro k5 later5 r5 ⟨hopened5, hfresh5, hend⟩
                  refine ⟨hopened.trans hopened5, hfresh5, hend.imp_left ?_⟩
                  rintro ⟨hlater5, hbalanced5, b, hb, hfact⟩
                  refine ⟨hlater5, hbalanced5, b, hb, fun hfalse hprefix => hfact hfalse ?_⟩
                  -- a proper ancestor is an ancestor of the parent or the parent
                  rcases List.eq_nil_or_concat path with hnil | ⟨init, last, hconcat⟩
                  · exact absurd (by rw [hnil]; rfl) htop
                  · rw [hconcat, List.concat_eq_append] at hprefix hne ⊢
                    rw [List.dropLast_concat]
                    exact (List.prefix_concat_iff.mp hprefix).resolve_left hne
                · -- the directory left is closed again, its parent never
                  have hother : k1.opened.length ≠ current := by
                    have hlt := hbalanced.known current List.mem_cons_self
                    omega
                  have hswap := hbalanced2.perm (List.Perm.swap current k1.opened.length held)
                  have hdistinct := List.nodup_cons.mp hbalanced2.distinct
                  refine ⟨hopened, hfresh, Or.inr ⟨hlater4, Or.inr ⟨rfl, ?_⟩⟩⟩
                  exact hswap.release.leaks List.mem_cons_self hdistinct.1
            · refine ⟨hopened, hfresh, Or.inr ⟨hlater3, Or.inl ⟨rfl, ?_⟩⟩⟩
              exact unclosed_of_balanced hbalanced2 fun n hn =>
                List.mem_cons_of_mem _ (List.mem_cons_of_mem _ hn)
      · refine ⟨List.prefix_refl _, hfresh, Or.inr ⟨hlater1, Or.inl ⟨rfl, ?_⟩⟩⟩
        exact unclosed_of_balanced hbalanced fun n hn => List.mem_cons_of_mem _ hn

theorem length_lt_of_directory {path : Path} (h : tree.node path = some .directory) :
    path.length < tree.depth + 1 := by
  have hle := tree.length_le path (by rw [h]; exact Option.some_ne_none _)
  omega

/-- **`_is_ancestor`** says no only of directories of which the first is not above the
    second. -/
theorem isAncestor_spec {held : List Descriptor} {ancestor descendant : Descriptor}
    {above below : Path} (hbalanced : Balanced held k) (hancestor : ancestor ∈ held)
    (hdescendant : descendant ∈ held) (habove : On tree k ancestor above)
    (hbelow : On tree k descendant below) (hmine : Guarded mine) :
    Ensures tree.perform (fun k' later r => k.opened <+: k'.opened ∧
      Checked held (fun nested => nested = false → ¬above <+: below) k' later r)
      k mine (isAncestor (tree.depth + 1) ancestor descendant) := by
  have hne : held ≠ [] := List.ne_nil_of_mem hancestor
  refine Ensures.bind (fromDescriptor_spec (live_on hbalanced hancestor habove) hmine) ?_
  rintro k1 later1 r1 ⟨rfl, ⟨hlater1, rfl⟩ | ⟨hlater1, rfl⟩⟩
  · refine Ensures.bind (dup_spec (live_on hbalanced hdescendant hbelow) hlater1) ?_
    rintro k2 later2 r2 (⟨rfl, hlater2, error, rfl⟩ | ⟨rfl, hlater2, rfl⟩)
    · exact ⟨List.prefix_refl _,
        Or.inr ⟨hlater2, Or.inl ⟨⟨error, rfl⟩, unclosed_of_balanced hbalanced fun _ h => h⟩⟩⟩
    · have hopened := acquire_opened k1 below
      refine Ensures.bind (walk_spec (hbalanced.acquire below) (on_acquire hbelow.2)
        (length_lt_of_directory hbelow.2) hlater2) ?_
      rintro k3 later3 ⟨current, result⟩ ⟨hopened3, hfresh, hend⟩
      refine Ensures.bind (close_spec (by decide) current) ?_
      rintro k4 later4 r4 ⟨rfl, hlater4, -⟩
      refine ⟨hopened.trans hopened3, ?_⟩
      rcases hend with ⟨hlater3, hbalanced3, b, hb, hfact⟩ |
        ⟨hlater3, ⟨herror, hopen⟩ | ⟨htrue, hleaks⟩⟩
      · exact Or.inl ⟨hlater4.mpr hlater3, hbalanced3.release, b, hb, hfact⟩
      · exact Or.inr ⟨fun h => hlater3 (hlater4.mp h), Or.inl ⟨⟨_, herror⟩, hopen.release hfresh⟩⟩
      · exact Or.inr ⟨fun h => hlater3 (hlater4.mp h), Or.inr ⟨htrue, hleaks.release⟩⟩
  · exact ⟨List.prefix_refl _,
      Or.inr ⟨hlater1, Or.inl ⟨⟨_, rfl⟩, unclosed_of_balanced hbalanced fun _ h => h⟩⟩⟩

/-- The loop over the pairs. -/
theorem anyAncestor_spec {held : List Descriptor} {paths : Descriptor → Path}
    (pairs : List (Descriptor × Descriptor)) (hbalanced : Balanced held k)
    (hpairs : ∀ pair ∈ pairs, pair.1 ∈ held ∧ pair.2 ∈ held)
    (hon : ∀ descriptor ∈ held, On tree k descriptor (paths descriptor))
    (hmine : Guarded mine) :
    Ensures tree.perform (fun k' later r => k.opened <+: k'.opened ∧
      Checked held (fun nested => nested = false →
        ∀ pair ∈ pairs, ¬paths pair.1 <+: paths pair.2) k' later r)
      k mine (anyAncestor (tree.depth + 1) pairs) := by
  induction pairs generalizing k mine with
  | nil =>
      exact ⟨List.prefix_refl _,
        Or.inl ⟨hmine, hbalanced, false, rfl, fun _ pair hpair => absurd hpair List.not_mem_nil⟩⟩
  | cons pair rest ih =>
      obtain ⟨ancestor, descendant⟩ := pair
      obtain ⟨hancestor, hdescendant⟩ := hpairs _ List.mem_cons_self
      refine Ensures.bind (isAncestor_spec hbalanced hancestor hdescendant (hon _ hancestor)
        (hon _ hdescendant) hmine) ?_
      rintro k1 later1 r1 ⟨hopened, hchecked⟩
      rcases hchecked with ⟨hlater1, hbalanced1, b, rfl, hfact⟩ |
        ⟨hlater1, ⟨⟨error, rfl⟩, hopen⟩ | ⟨rfl, hleaks⟩⟩
      · cases b with
        | true =>
            exact ⟨hopened, Or.inl ⟨hlater1, hbalanced1, true, rfl, fun h => by cases h⟩⟩
        | false =>
            have hon1 : ∀ descriptor ∈ held, On tree k1 descriptor (paths descriptor) :=
              fun descriptor hmem => (hon descriptor hmem).mono hopened
            refine (ih hbalanced1 (fun pair hpair => hpairs pair (List.mem_cons_of_mem _ hpair))
              hon1 hlater1).imp ?_
            rintro k2 later2 r2 ⟨hopened2, hchecked2⟩
            refine ⟨hopened.trans hopened2, hchecked2.imp_left ?_⟩
            rintro ⟨hlater2, hbalanced2, b, hb, hrest⟩
            refine ⟨hlater2, hbalanced2, b, hb, fun hfalse pair hpair => ?_⟩
            rcases List.mem_cons.mp hpair with rfl | hpair
            · exact hfact rfl
            · exact hrest hfalse pair hpair
      · exact ⟨hopened, Or.inr ⟨hlater1, Or.inl ⟨⟨error, rfl⟩, hopen⟩⟩⟩
      · exact ⟨hopened, Or.inr ⟨hlater1, Or.inr ⟨rfl, hleaks⟩⟩⟩

/-- The identities of live descriptors. -/
theorem identitiesOf_spec {held : List Descriptor} {paths : Descriptor → Path}
    (descriptors : Descriptors) (hbalanced : Balanced held k)
    (hheld : ∀ entry ∈ descriptors, entry.2 ∈ held)
    (hon : ∀ descriptor ∈ held, On tree k descriptor (paths descriptor))
    (hmine : Guarded mine) :
    Ensures tree.perform (fun k' later r => k' = k ∧
      ((Guarded later ∧
          r = .ok (descriptors.map fun entry => (entry.1, .observed (tree.stat (paths entry.2))))) ∨
        (¬Guarded later ∧ ∃ error, r = .error error)))
      k mine (identitiesOf descriptors) := by
  induction descriptors generalizing mine with
  | nil => exact ⟨rfl, Or.inl ⟨hmine, rfl⟩⟩
  | cons entry rest ih =>
      obtain ⟨root, descriptor⟩ := entry
      have hmem := hheld _ List.mem_cons_self
      refine Ensures.bind (fromDescriptor_spec (live_on hbalanced hmem (hon _ hmem)) hmine) ?_
      rintro k1 later1 r1 ⟨rfl, ⟨hlater1, rfl⟩ | ⟨hlater1, rfl⟩⟩
      · refine Ensures.bind (ih (fun entry h => hheld entry (List.mem_cons_of_mem _ h)) hlater1) ?_
        rintro k2 later2 r2 ⟨rfl, ⟨hlater2, rfl⟩ | ⟨hlater2, error, rfl⟩⟩
        · exact ⟨rfl, Or.inl ⟨hlater2, rfl⟩⟩
        · exact ⟨rfl, Or.inr ⟨hlater2, error, rfl⟩⟩
      · exact ⟨rfl, Or.inr ⟨hlater1, _, rfl⟩⟩

/-! ## The rejection of opened roots -/

/-- A dictionary of all roots has an entry for each of them. -/
theorem exists_lookup {β : Type} {entries : List (Root × β)}
    (hnames : entries.map (·.1) = Root.all) (root : Root) :
    ∃ value, entries.lookup root = some value ∧ (root, value) ∈ entries := by
  have hmem : root ∈ entries.map (·.1) := by
    rw [hnames]
    cases root <;> decide
  clear hnames
  induction entries with
  | nil => exact absurd hmem List.not_mem_nil
  | cons entry rest ih =>
      obtain ⟨name, value⟩ := entry
      by_cases hroot : root = name
      · subst hroot
        exact ⟨value, List.lookup_cons_self, List.mem_cons_self⟩
      · obtain ⟨found, hlookup, hfound⟩ := ih ((List.mem_cons.mp hmem).resolve_left hroot)
        refine ⟨found, ?_, List.mem_cons_of_mem _ hfound⟩
        rw [List.lookup_cons, beq_false_of_ne hroot]
        exact hlookup

theorem mem_orderedPairs {descriptors : Descriptors} {ancestor descendant : Root × Descriptor}
    (hancestor : ancestor ∈ descriptors) (hdescendant : descendant ∈ descriptors)
    (hne : ancestor.1 ≠ descendant.1) :
    (ancestor.2, descendant.2) ∈ orderedPairs descriptors := by
  refine List.mem_flatMap.mpr ⟨ancestor, hancestor, List.mem_map.mpr ⟨descendant, ?_, rfl⟩⟩
  exact List.mem_filter.mpr ⟨hdescendant, decide_eq_true (Ne.symm hne)⟩

theorem of_mem_orderedPairs {descriptors : Descriptors} {pair : Descriptor × Descriptor}
    (h : pair ∈ orderedPairs descriptors) :
    pair.1 ∈ descriptors.map (·.2) ∧ pair.2 ∈ descriptors.map (·.2) := by
  obtain ⟨ancestor, hancestor, h⟩ := List.mem_flatMap.mp h
  obtain ⟨descendant, hdescendant, rfl⟩ := List.mem_map.mp h
  exact ⟨List.mem_map_of_mem hancestor, List.mem_map_of_mem (List.mem_filter.mp hdescendant).1⟩

/-- The opened roots are not nested, and the workspace is empty when that is required. -/
def Separate (tree : DirectoryTree) (request : WorkspaceCustodyRequest)
    (descriptors : Descriptors) (paths : Descriptor → Path) : Prop :=
  (∀ entry ∈ descriptors, ∀ other ∈ descriptors, entry.1 ≠ other.1 →
    ¬paths entry.2 <+: paths other.2) ∧
  (request.policy.requireEmptyWorkspace = true → ∀ workspace,
    (Root.workspace, workspace) ∈ descriptors → ∀ name,
      tree.node (paths workspace ++ [name]) = none)

/-- The workspace is found empty when that is required, or wanted entries are no matter. -/
theorem unwantedEntries_spec {request : WorkspaceCustodyRequest} {descriptors : Descriptors}
    {paths : Descriptor → Path} (hnames : descriptors.map (·.1) = Root.all)
    (hbalanced : Balanced (descriptors.map (·.2)) k)
    (hon : ∀ descriptor ∈ descriptors.map (·.2), On tree k descriptor (paths descriptor))
    (hmine : Guarded mine) :
    Ensures tree.perform (fun k' later r => k' = k ∧ Guarded later ∧ ∃ unwanted,
      r = .ok unwanted ∧ (unwanted = false → request.policy.requireEmptyWorkspace = true →
        ∀ workspace, (Root.workspace, workspace) ∈ descriptors →
          ∀ name, tree.node (paths workspace ++ [name]) = none))
      k mine (unwantedEntries request descriptors) := by
  obtain ⟨workspace, hlookup, hmem⟩ := exists_lookup hnames .workspace
  have hheld : workspace ∈ descriptors.map (·.2) := List.mem_map_of_mem (f := (·.2)) hmem
  have hunique : ∀ other, (Root.workspace, other) ∈ descriptors → other = workspace := by
    intro other hother
    have hnodup : (descriptors.map (·.1)).Nodup := by rw [hnames]; decide
    have heq := List.inj_on_of_nodup_map hnodup hother hmem rfl
    exact (Prod.ext_iff.mp heq).2
  unfold unwantedEntries
  cases hrequired : request.policy.requireEmptyWorkspace with
  | false =>
      rw [if_pos rfl]
      exact ⟨rfl, hmine, false, rfl, fun _ h => absurd h Bool.false_ne_true⟩
  | true =>
      rw [if_neg Bool.true_eq_false_eq_False, hlookup]
      refine Ensures.bind (descriptorEmpty_spec (live_on hbalanced hheld (hon _ hheld)) hmine) ?_
      rintro k1 later1 empty ⟨rfl, hlater1, hempty⟩
      refine ⟨rfl, hlater1, !empty, rfl, fun hfound _ other hother => ?_⟩
      rw [hunique other hother]
      exact hempty (by simpa using hfound)

/-- **`_descriptor_rejection`** lets only separate roots pass. -/
theorem descriptorRejection_spec {request : WorkspaceCustodyRequest} {descriptors : Descriptors}
    {paths : Descriptor → Path} (hnames : descriptors.map (·.1) = Root.all)
    (hbalanced : Balanced (descriptors.map (·.2)) k)
    (hon : ∀ descriptor ∈ descriptors.map (·.2), On tree k descriptor (paths descriptor))
    (hmine : Guarded mine) :
    Ensures tree.perform (fun k' later r => k.opened <+: k'.opened ∧
      ((Guarded later ∧ Balanced (descriptors.map (·.2)) k' ∧ ∃ rejection, r = .ok rejection ∧
          (rejection = none → Separate tree request descriptors paths)) ∨
        (¬Guarded later ∧
          (((∃ error, r = .error error) ∧ Leaks [] k') ∨
            ((∃ reason, r = .ok (some reason)) ∧ Leaks (descriptors.map (·.2)) k')))))
      k mine (descriptorRejection (tree.depth + 1) request descriptors) := by
  have hne : descriptors.map (·.2) ≠ [] := by
    obtain ⟨workspace, -, hmem⟩ := exists_lookup hnames .workspace
    exact List.ne_nil_of_mem (List.mem_map_of_mem (f := (·.2)) hmem)
  have hopen := unclosed_of_balanced hbalanced fun _ h => h
  refine Ensures.bind (identitiesOf_spec descriptors hbalanced
    (fun entry h => List.mem_map_of_mem h) hon hmine) ?_
  rintro k1 later1 r1 ⟨rfl, ⟨hlater1, rfl⟩ | ⟨hlater1, error, rfl⟩⟩
  · show Ensures _ _ _ _ (if _ then _ else _)
    split
    · exact ⟨List.prefix_refl _, Or.inl ⟨hlater1, hbalanced, _, rfl, fun h => nomatch h⟩⟩
    · refine Ensures.bind (unwantedEntries_spec hnames hbalanced hon hlater1) ?_
      rintro k2 later2 r2 ⟨rfl, hlater2, unwanted, rfl, hempty⟩
      cases unwanted with
      | true =>
          exact ⟨List.prefix_refl _, Or.inl ⟨hlater2, hbalanced, _, rfl, fun h => nomatch h⟩⟩
      | false =>
          refine Ensures.bind (anyAncestor_spec (orderedPairs descriptors) hbalanced
            (fun pair h => of_mem_orderedPairs h) hon hlater2) ?_
          rintro k3 later3 r3 ⟨hopened, hchecked⟩
          rcases hchecked with ⟨hlater3, hbalanced3, b, rfl, hfact⟩ |
            ⟨hlater3, ⟨⟨error, rfl⟩, hopen3⟩ | ⟨rfl, hleaks⟩⟩
          · cases b with
            | true => exact ⟨hopened, Or.inl ⟨hlater3, hbalanced3, _, rfl, fun h => nomatch h⟩⟩
            | false =>
                refine ⟨hopened, Or.inl ⟨hlater3, hbalanced3, none, rfl, fun _ => ?_⟩⟩
                refine ⟨fun entry hentry other hother hdiff => ?_, hempty rfl⟩
                exact hfact rfl _ (mem_orderedPairs hentry hother hdiff)
          · exact ⟨hopened, Or.inr ⟨hlater3, Or.inl ⟨⟨error, rfl⟩, hopen3.leaks hne⟩⟩⟩
          · exact ⟨hopened, Or.inr ⟨hlater3, Or.inr ⟨⟨_, rfl⟩, hleaks⟩⟩⟩
  · exact ⟨List.prefix_refl _, Or.inr ⟨hlater1, Or.inl ⟨⟨error, rfl⟩, hopen.leaks hne⟩⟩⟩

end Eag.GovernedWorkspace
