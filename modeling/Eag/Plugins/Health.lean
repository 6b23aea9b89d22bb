/-
  Eag.Plugins.Health

  Does the health record of a plugin follow its state?

  `load` writes both, `unload` the state alone. `health_follows_iff`: the records follow the
  states after every call of a run exactly when no call of the run unloads a plugin that is
  loaded, or registers one that is already loaded or failed. A hook that raises reaches its own
  plugin only, in every run.
-/

import Eag.Foundation.Runs
import Eag.Plugins.Manager

namespace Eag.Plugins.PluginManager

open Eag.Foundation
open Eag.Foundation.PyText (ofString)

/-! ## Statements -/

/-- The record says loaded for a plugin that is loaded, and failed or unavailable for one that
    failed. -/
structure Matches (registration : PluginRegistration) (health : PluginHealth) : Prop where
  loaded : health.status = .loaded ↔ registration.state = .loaded
  failed : health.status = .failed ∨ health.status = .unavailable ↔ registration.state = .failed

/-- Every registered plugin has a record that follows its state. -/
def HealthFollows (m : PluginManager) : Prop :=
  ∀ name registration, m.plugins.get? name = some registration →
    ∃ health, m.health.get? name = some health ∧ Matches registration health

/-- A plugin is the same in two managers: its state, its policy and its record. -/
structure SameAt (name : PyText) (m m' : PluginManager) : Prop where
  plugin : m'.plugins.get? name = m.plugins.get? name
  health : m'.health.get? name = m.health.get? name

/-- A call changes a plugin only through the hook of that plugin: a call about one plugin leaves
    the others alone, and a call about all leaves each as it was or as it would be if it were
    the only one. -/
def OwnHooksOnly (m : PluginManager) (input : Call × Hooks) : Prop :=
  match input.1 with
  | .register name _ _ | .load name | .unload name =>
      ∀ other, other ≠ name → SameAt other m (m.step input)
  | .loadAll => ∀ name, SameAt name m (m.step input) ∨
      SameAt name (m.load input.2 name).2 (m.step input)
  | .unloadAll => ∀ name, SameAt name m (m.step input) ∨
      SameAt name (m.unload input.2 name).2 (m.step input)

/-- The plugin of this name is loaded. -/
def LoadedAt (m : PluginManager) (name : PyText) : Prop :=
  ∃ registration, m.plugins.get? name = some registration ∧ registration.state = .loaded

/-- The call unloads no plugin that is loaded, and registers none that is loaded or failed. -/
def Harmless (m : PluginManager) (input : Call × Hooks) : Prop :=
  match input.1 with
  | .register name state _ => m.plugins.get? name = none → state ≠ .loaded ∧ state ≠ .failed
  | .load _ | .loadAll => True
  | .unload name => ¬m.LoadedAt name
  | .unloadAll => ∀ name, ¬m.LoadedAt name

/-! ## One plugin recorded -/

/-- The manager with the state and the record of one plugin changed. -/
def record (m : PluginManager) (name : PyText) (registration : PluginRegistration)
    (health : PluginHealth) : PluginManager where
  plugins := m.plugins.set name registration
  health := m.health.set name health

theorem SameAt.refl (name : PyText) (m : PluginManager) : SameAt name m m := ⟨rfl, rfl⟩

theorem SameAt.trans {name : PyText} {m m' m'' : PluginManager} (h : SameAt name m m')
    (h' : SameAt name m' m'') : SameAt name m m'' :=
  ⟨h'.plugin.trans h.plugin, h'.health.trans h.health⟩

variable {m : PluginManager} {name : PyText} {hooks : Hooks}

theorem sameAt_record {other : PyText} (hne : other ≠ name) (registration : PluginRegistration)
    (health : PluginHealth) : SameAt other m (m.record name registration health) := by
  have hplugin := Dict.get?_set m.plugins name other registration
  have hhealth := Dict.get?_set m.health name other health
  rw [if_neg hne] at hplugin hhealth
  exact ⟨hplugin, hhealth⟩

theorem HealthFollows.record (h : HealthFollows m) {registration : PluginRegistration}
    {health : PluginHealth} (hmatches : Matches registration health) :
    HealthFollows (m.record name registration health) := by
  intro other found hfound
  by_cases hother : other = name
  · have hplugin := Dict.get?_set m.plugins name other registration
    have hhealth := Dict.get?_set m.health name other health
    rw [if_pos hother] at hplugin hhealth
    have hsame : registration = found := Option.some.inj (hplugin.symm.trans hfound)
    exact ⟨health, hhealth, hsame ▸ hmatches⟩
  · have hsame := @sameAt_record m name other hother registration health
    obtain ⟨kept, hkept, hmatch⟩ := h other found (hsame.plugin.symm.trans hfound)
    exact ⟨kept, hsame.health.trans hkept, hmatch⟩

/-! ## What each call can do -/

/-- A registration that is not refused adds a plugin with the record of a new one. -/
theorem register_cases (m : PluginManager) (name : PyText) (state : PluginState)
    (policy : PluginPolicy) :
    (m.register name state policy).2 = m ∨
      m.plugins.get? name = none ∧ (m.register name state policy).2 =
        m.record name ⟨state, policy⟩ { name, policy, status := .registered } := by
  rw [register]
  split
  · exact .inl rfl
  · next hnew => exact .inr ⟨hnew, rfl⟩

/-- Loading leaves everything alone, or gives the plugin a state and a record that follows it. -/
theorem load_cases (m : PluginManager) (hooks : Hooks) (name : PyText) :
    (m.load hooks name).2 = m ∨
      ∃ registration health, Matches registration health ∧
        (m.load hooks name).2 = m.record name registration health := by
  unfold load
  split
  · exact .inl rfl
  · next registration _ =>
      dsimp only
      split
      · exact .inl rfl
      all_goals first
        | exact .inl rfl
        | (refine .inr ?_
           split
           · exact ⟨_, _, ⟨by simp, by simp⟩, rfl⟩
           · refine ⟨_, _, ⟨?_, ?_⟩, rfl⟩
             · cases registration.policy <;> simp [failureStatus]
             · cases registration.policy <;> simp [failureStatus])

/-- Unloading leaves everything alone, or takes a loaded plugin to a state in which it is not
    loaded; the records are the same in any case. -/
theorem unload_cases (m : PluginManager) (hooks : Hooks) (name : PyText) :
    ¬m.LoadedAt name ∧ (m.unload hooks name).2 = m ∨
      m.LoadedAt name ∧ ∃ registration : PluginRegistration, registration.state ≠ .loaded ∧
        (m.unload hooks name).2 = { m with plugins := m.plugins.set name registration } := by
  unfold unload
  split
  · next hnone =>
      refine .inl ⟨?_, rfl⟩
      rintro ⟨registration, hsome, -⟩
      exact nomatch hnone.symm.trans hsome
  · next registration hsome =>
      have hstate : m.LoadedAt name ↔ registration.state = .loaded := by
        constructor
        · rintro ⟨found, hfound, hloaded⟩
          rwa [Option.some.inj (hsome.symm.trans hfound)]
        · exact fun hloaded => ⟨registration, hsome, hloaded⟩
      rw [hstate]
      cases hcase : registration.state with
      | loaded =>
          refine .inr ⟨rfl, ?_⟩
          dsimp only
          split
          · exact ⟨_, PluginState.noConfusion, rfl⟩
          · exact ⟨_, PluginState.noConfusion, rfl⟩
      | created | loading | unloading | unloaded | failed =>
          exact .inl ⟨PluginState.noConfusion, rfl⟩

theorem sameAt_load {other : PyText} (hne : other ≠ name) :
    SameAt other m (m.load hooks name).2 := by
  rcases load_cases m hooks name with h | ⟨registration, health, -, h⟩
  · rw [h]
    exact .refl other m
  · rw [h]
    exact sameAt_record hne registration health

theorem sameAt_unload {other : PyText} (hne : other ≠ name) :
    SameAt other m (m.unload hooks name).2 := by
  rcases unload_cases m hooks name with ⟨-, h⟩ | ⟨-, registration, -, h⟩
  · rw [h]
    exact .refl other m
  · rw [h]
    have hplugin := Dict.get?_set m.plugins name other registration
    rw [if_neg hne] at hplugin
    exact ⟨hplugin, rfl⟩

theorem unload_health : (m.unload hooks name).2.health = m.health := by
  rcases unload_cases m hooks name with ⟨-, h⟩ | ⟨-, registration, -, h⟩ <;> rw [h]

theorem not_loadedAt_unload : ¬(m.unload hooks name).2.LoadedAt name := by
  rcases unload_cases m hooks name with ⟨hnot, h⟩ | ⟨-, registration, hstate, h⟩
  · rwa [h]
  · rw [h]
    rintro ⟨found, hfound, hloaded⟩
    have hplugin := Dict.get?_set m.plugins name name registration
    rw [if_pos rfl] at hplugin
    exact hstate (Option.some.inj (hplugin.symm.trans hfound) ▸ hloaded)

theorem SameAt.loadedAt_iff {m' : PluginManager} (h : SameAt name m m') :
    m'.LoadedAt name ↔ m.LoadedAt name := by
  rw [LoadedAt, LoadedAt, h.plugin]

/-- What loading does to a plugin depends on that plugin only. -/
theorem SameAt.load {m' : PluginManager} (h : SameAt name m m') :
    SameAt name (m.load hooks name).2 (m'.load hooks name).2 := by
  unfold PluginManager.load
  rw [h.plugin]
  split
  · exact h
  · dsimp only
    split
    all_goals first
      | exact h
      | (split <;>
          exact ⟨by simp only [Dict.get?_set, if_true], by simp only [Dict.get?_set, if_true]⟩)

theorem SameAt.unload {m' : PluginManager} (h : SameAt name m m') :
    SameAt name (m.unload hooks name).2 (m'.unload hooks name).2 := by
  unfold PluginManager.unload
  rw [h.plugin]
  split
  · exact h
  · split
    all_goals first
      | exact h
      | (split <;> exact ⟨by simp only [Dict.get?_set, if_true], h.health⟩)

/-! ## The loops -/

/-- A pass over plugins that does something to each in turn, or leaves it alone, and may end
    early. -/
inductive Pass (f : PluginManager → PyText → PluginManager) :
    List PyText → PluginManager → PluginManager → Prop where
  | stop (names : List PyText) (m : PluginManager) : Pass f names m m
  | skip (name : PyText) {rest : List PyText} {m after : PluginManager} :
      Pass f rest m after → Pass f (name :: rest) m after
  | done {name : PyText} {rest : List PyText} {m after : PluginManager} :
      Pass f rest (f m name) after → Pass f (name :: rest) m after

theorem pass_loadEach (hooks : Hooks) (names : List PyText) (m : PluginManager) :
    Pass (fun m name => (m.load hooks name).2) names m (loadEach hooks names m).2 := by
  induction names generalizing m with
  | nil => exact .stop [] m
  | cons name rest ih =>
      refine .done ?_
      rw [loadEach]
      generalize hload : m.load hooks name = called
      obtain ⟨outcome, after⟩ := called
      cases outcome with
      | ok _ => exact ih after
      | error raised =>
          dsimp only
          split
          · exact ih after
          · exact .stop rest after

theorem pass_unloadEach (hooks : Hooks) (names : List PyText) (m : PluginManager) :
    Pass (fun m name => (m.unload hooks name).2) names m (unloadEach hooks names m).2 := by
  induction names generalizing m with
  | nil => exact .stop [] m
  | cons name rest ih =>
      rw [unloadEach]
      split
      · refine .done ?_
        generalize hunload : m.unload hooks name = called
        obtain ⟨outcome, after⟩ := called
        cases outcome with
        | ok _ => exact ih after
        | error raised => exact .stop rest after
      · exact .skip name (ih m)

section Pass

variable {f : PluginManager → PyText → PluginManager} {names : List PyText}
  {after : PluginManager}

theorem Pass.invariant {P : PluginManager → Prop} (hkeep : ∀ m name, P m → P (f m name))
    (hpass : Pass f names m after) (h : P m) : P after := by
  induction hpass with
  | stop => exact h
  | skip _ _ ih => exact ih h
  | done _ ih => exact ih (hkeep _ _ h)

/-- A plugin that the pass does not come to stays as it was. -/
theorem Pass.sameAt_of_not_mem (hframe : ∀ m name other, other ≠ name → SameAt other m (f m name))
    (hpass : Pass f names m after) (hname : name ∉ names) : SameAt name m after := by
  induction hpass with
  | stop => exact .refl _ _
  | skip _ _ ih => exact ih fun hmem => hname (List.mem_cons_of_mem _ hmem)
  | done _ ih =>
      have hne := List.ne_of_not_mem_cons hname
      exact (hframe _ _ _ hne).trans (ih (List.not_mem_of_not_mem_cons hname))

/-- The pass leaves a plugin as it was, or as what it does to it alone leaves it. -/
theorem Pass.sameAt (hframe : ∀ m name other, other ≠ name → SameAt other m (f m name))
    (hown : ∀ {m m' name}, SameAt name m m' → SameAt name (f m name) (f m' name))
    (hpass : Pass f names m after) (hnodup : names.Nodup) (name : PyText) :
    SameAt name m after ∨ SameAt name (f m name) after := by
  induction hpass with
  | stop => exact .inl (.refl _ _)
  | skip _ _ ih => exact ih (List.nodup_cons.mp hnodup).2
  | @done first rest m after hrest ih =>
      obtain ⟨hnew, hnodup⟩ := List.nodup_cons.mp hnodup
      by_cases hname : name = first
      · rw [hname]
        exact .inr (hrest.sameAt_of_not_mem hframe hnew)
      · have hfirst := hframe m first name hname
        refine (ih hnodup).imp hfirst.trans fun halone => ?_
        exact (hown hfirst).trans halone

end Pass

/-- Where a plugin is loaded, unloading all takes some plugin from loaded to something else. -/
theorem exists_unloaded {names : List PyText} (hnodup : names.Nodup)
    (h : ∃ name ∈ names, m.LoadedAt name) :
    ∃ name, m.LoadedAt name ∧ ¬(unloadEach hooks names m).2.LoadedAt name := by
  induction names with
  | nil =>
      obtain ⟨name, hname, -⟩ := h
      exact absurd hname List.not_mem_nil
  | cons first rest ih =>
      obtain ⟨hnew, hnodup⟩ := List.nodup_cons.mp hnodup
      rw [unloadEach]
      split
      · next policy hfirst =>
          have hloaded : m.LoadedAt first := ⟨_, hfirst, rfl⟩
          have hnot := @not_loadedAt_unload m first hooks
          refine ⟨first, hloaded, ?_⟩
          generalize m.unload hooks first = called at hnot ⊢
          obtain ⟨outcome, after⟩ := called
          cases outcome with
          | error raised => exact hnot
          | ok _ =>
              -- what follows does not come back to the plugin
              have hframe := (pass_unloadEach hooks rest after).sameAt_of_not_mem
                (fun _ _ _ hne => sameAt_unload hne) hnew
              rwa [hframe.loadedAt_iff]
      · next hother =>
          obtain ⟨name, hname, hloaded⟩ := h
          refine ih hnodup ⟨name, ?_, hloaded⟩
          rcases List.mem_cons.mp hname with rfl | hrest
          · obtain ⟨⟨state, policy⟩, hsome, hstate⟩ := hloaded
            exact absurd (hstate ▸ hsome) (hother policy)
          · exact hrest

/-! ## Steps -/

theorem ownHooksOnly (m : PluginManager) (input : Call × Hooks) : OwnHooksOnly m input := by
  obtain ⟨c, hooks⟩ := input
  cases c with
  | register name state policy =>
      intro other hne
      show SameAt other m (m.register name state policy).2
      rcases register_cases m name state policy with h | ⟨-, h⟩
      · rw [h]
        exact .refl other m
      · rw [h]
        exact sameAt_record hne _ _
  | load name => exact fun other hne => sameAt_load hne
  | unload name => exact fun other hne => sameAt_unload hne
  | loadAll =>
      intro name
      exact (pass_loadEach hooks m.plugins.keys m).sameAt (fun _ _ _ hne => sameAt_load hne)
        SameAt.load m.plugins.keys_nodup name
  | unloadAll =>
      intro name
      exact (pass_unloadEach hooks m.plugins.keys.reverse m).sameAt
        (fun _ _ _ hne => sameAt_unload hne) SameAt.unload
        (List.nodup_reverse.mpr m.plugins.keys_nodup) name

/-- A harmless call keeps the records following the states. -/
theorem HealthFollows.step {input : Call × Hooks} (h : HealthFollows m)
    (hharmless : Harmless m input) : HealthFollows (m.step input) := by
  obtain ⟨c, hooks⟩ := input
  have hload : ∀ (m : PluginManager) (name : PyText), HealthFollows m →
      HealthFollows (m.load hooks name).2 := by
    intro m name hfollows
    rcases load_cases m hooks name with heq | ⟨registration, health, hmatches, heq⟩
    · rwa [heq]
    · rw [heq]
      exact hfollows.record hmatches
  cases c with
  | register name state policy =>
      show HealthFollows (m.register name state policy).2
      rcases register_cases m name state policy with heq | ⟨hnew, heq⟩
      · rwa [heq]
      · obtain ⟨hloaded, hfailed⟩ := hharmless hnew
        rw [heq]
        exact h.record ⟨by simp [hloaded], by simp [hfailed]⟩
  | load name => exact hload m name h
  | unload name =>
      show HealthFollows (m.unload hooks name).2
      rcases unload_cases m hooks name with ⟨-, heq⟩ | ⟨hloaded, -⟩
      · rwa [heq]
      · exact absurd hloaded hharmless
  | loadAll => exact (pass_loadEach hooks m.plugins.keys m).invariant hload h
  | unloadAll =>
      have hsame : ∀ names, (unloadEach hooks names m).2 = m := by
        intro names
        induction names with
        | nil => rfl
        | cons name rest ih =>
            rw [unloadEach]
            split
            · next policy hfirst => exact absurd ⟨_, hfirst, rfl⟩ (hharmless name)
            · exact ih
      show HealthFollows (unloadEach hooks m.plugins.keys.reverse m).2
      rwa [hsame]

/-- A plugin that was loaded and is not, with the record it had, has a record that does not
    follow. -/
theorem not_healthFollows {after : PluginManager} (h : HealthFollows m)
    (hhealth : after.health = m.health) (hkeys : ∀ name, after.plugins.get? name = none →
      m.plugins.get? name = none) (hloaded : m.LoadedAt name) (hnot : ¬after.LoadedAt name) :
    ¬HealthFollows after := by
  intro hafter
  obtain ⟨registration, hsome, hstate⟩ := hloaded
  obtain ⟨health, hrecord, hmatches⟩ := h name registration hsome
  cases hget : after.plugins.get? name with
  | none => exact nomatch (hkeys name hget).symm.trans hsome
  | some later =>
      obtain ⟨record, hrecord', hmatches'⟩ := hafter name later hget
      rw [hhealth, hrecord] at hrecord'
      cases hrecord'
      exact hnot ⟨later, hget, hmatches'.loaded.mp (hmatches.loaded.mpr hstate)⟩

theorem unload_registered {m : PluginManager} {name : PyText} (other : PyText)
    (h : (m.unload hooks name).2.plugins.get? other = none) : m.plugins.get? other = none := by
  rcases unload_cases m hooks name with ⟨-, heq⟩ | ⟨-, registration, -, heq⟩
  · rwa [heq] at h
  · rw [heq] at h
    have hplugin := Dict.get?_set m.plugins name other registration
    split at hplugin
    · cases hplugin.symm.trans h
    · exact hplugin.symm.trans h

/-- A call after which the records follow was harmless. -/
theorem HealthFollows.harmless {input : Call × Hooks} (h : HealthFollows m)
    (hafter : HealthFollows (m.step input)) : Harmless m input := by
  obtain ⟨c, hooks⟩ := input
  cases c with
  | register name state policy =>
      intro hnew
      have hstep : m.step (.register name state policy, hooks) =
          m.record name ⟨state, policy⟩ { name, policy, status := .registered } := by
        rcases register_cases m name state policy with heq | ⟨-, heq⟩
        · rw [register, hnew] at heq
          rw [PluginManager.step, call, register, hnew]
          rfl
        · exact heq
      rw [hstep] at hafter
      have hplugin := Dict.get?_set m.plugins name name ⟨state, policy⟩
      have hhealth := Dict.get?_set m.health name name
        { name, policy, status := .registered }
      rw [if_pos rfl] at hplugin hhealth
      obtain ⟨health, hrecord, hmatches⟩ := hafter name _ hplugin
      cases Option.some.inj (hhealth.symm.trans hrecord)
      refine ⟨fun hloaded => ?_, fun hfailed => ?_⟩
      · exact nomatch hmatches.loaded.mpr hloaded
      · rcases hmatches.failed.mpr hfailed with hstatus | hstatus <;> exact nomatch hstatus
  | load name => trivial
  | unload name =>
      intro hloaded
      exact not_healthFollows h unload_health (fun other => unload_registered other) hloaded
        not_loadedAt_unload hafter
  | loadAll => trivial
  | unloadAll =>
      intro name hloaded
      have hname : name ∈ m.plugins.keys.reverse := by
        obtain ⟨registration, hsome, -⟩ := hloaded
        exact List.mem_reverse.mpr (Dict.mem_keys.mpr ⟨registration, Dict.get?_eq_some.mp hsome⟩)
      obtain ⟨first, hfirst, hnot⟩ := @exists_unloaded m hooks _
        (List.nodup_reverse.mpr m.plugins.keys_nodup) ⟨name, hname, hloaded⟩
      have hpass := pass_unloadEach hooks m.plugins.keys.reverse m
      have hhealth : (m.step (.unloadAll, hooks)).health = m.health :=
        hpass.invariant (P := fun after => after.health = m.health)
          (fun _ _ heq => unload_health.trans heq) rfl
      have hkeys : ∀ other, (m.step (.unloadAll, hooks)).plugins.get? other = none →
          m.plugins.get? other = none :=
        hpass.invariant (P := fun after => ∀ other, after.plugins.get? other = none →
          m.plugins.get? other = none) (fun _ _ hkeep other hnone =>
            hkeep other (unload_registered other hnone)) fun _ => id
      exact not_healthFollows h hhealth hkeys hfirst hnot hafter

/-! ## Runs -/

/-- **The records follow the states** after every call of a run exactly when every call of the
    run is harmless. In every call a plugin changes through its own hook only. -/
theorem health_follows_iff (calls : List (Call × Hooks)) :
    Throughout step HealthFollows init calls ∧ EachStep step OwnHooksOnly init calls ↔
      EachStep step Harmless init calls := by
  have hiff : Throughout step HealthFollows init calls ↔ EachStep step Harmless init calls := by
    refine throughout_iff_eachStep (I := HealthFollows) ?_ (fun m h => h) ?_ ?_
    · exact fun m input h hharmless => h.step hharmless
    · exact fun m input h hafter => h.harmless hafter
    · intro name registration hsome
      exact nomatch hsome
  rw [hiff]
  exact and_iff_left fun before input _ => ownHooksOnly _ input

/-- No hook raises. -/
def quiet : Hooks := ⟨fun _ => none, fun _ => none⟩

/-- A plugin is registered, loaded and unloaded; its record still says loaded. -/
theorem unloaded_plugin_recorded_loaded :
    ¬(Throughout step HealthFollows init
        [(.register (ofString "git") .created .required, quiet), (.load (ofString "git"), quiet),
          (.unload (ofString "git"), quiet)] ∧
      EachStep step OwnHooksOnly init
        [(.register (ofString "git") .created .required, quiet), (.load (ofString "git"), quiet),
          (.unload (ofString "git"), quiet)]) := by
  rintro ⟨hfollows, -⟩
  obtain ⟨health, hrecord, hmatches⟩ := hfollows _ (List.prefix_refl _) (ofString "git")
    ⟨.unloaded, .required⟩ (by decide)
  have hhealth : health = ⟨ofString "git", .required, .loaded, none⟩ :=
    Option.some.inj (hrecord.symm.trans (by decide))
  rw [hhealth] at hmatches
  exact nomatch hmatches.loaded.mp rfl

end Eag.Plugins.PluginManager
