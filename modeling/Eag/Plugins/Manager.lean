/-
  Eag.Plugins.Manager

  The plugin manager (`plugins/manager.py`): the registrations, with the state of each plugin
  object, and the health records beside them.

  What the hooks of the plugins raise in a call is an input of the call: a call runs each hook
  of each plugin at most once. Left out: the events and log lines, which nothing here reads, and
  the states of a plugin while its hook runs.
-/

import Eag.Foundation.Ranking

namespace Eag.Plugins

open Eag.Foundation
open Eag.Foundation.PyText (ofString)

/-! ## Vocabulary -/

/-- `PluginState`. -/
inductive PluginState where
  | created
  | loading
  | loaded
  | unloading
  | unloaded
  | failed
  deriving DecidableEq, Repr

def PluginState.value : PluginState → String
  | created => "created"
  | loading => "loading"
  | loaded => "loaded"
  | unloading => "unloading"
  | unloaded => "unloaded"
  | failed => "failed"

/-- `PluginPolicy`. -/
inductive PluginPolicy where
  | required
  | optional
  deriving DecidableEq, Repr

/-- `PluginRuntimeStatus`. -/
inductive PluginRuntimeStatus where
  | registered
  | loaded
  | unavailable
  | failed
  deriving DecidableEq, Repr

/-- What a hook raises: the name of the type and the text. -/
structure HookError where
  errorType : PyText
  errorMessage : PyText
  deriving DecidableEq, Repr

/-- `PluginHealth`. -/
structure PluginHealth where
  name : PyText
  policy : PluginPolicy
  status : PluginRuntimeStatus
  error : Option HookError := none
  deriving DecidableEq, Repr

/-- `PluginRegistration`, with the state that its plugin is in. -/
structure PluginRegistration where
  state : PluginState
  policy : PluginPolicy
  deriving DecidableEq, Repr

/-- What a call of the manager raises. -/
inductive Raised where
  | alreadyRegistered (text : PyText)
  | notFound (text : PyText)
  | lifecycle (text : PyText)
  | hook (error : HookError)
  deriving DecidableEq, Repr

/-- What the hooks raise during a call, by the name of the plugin. -/
structure Hooks where
  load : PyText → Option HookError
  unload : PyText → Option HookError

/-! ## The manager -/

/-- `PluginManager`. -/
structure PluginManager where
  plugins : Dict PyText PluginRegistration
  health : Dict PyText PluginHealth

namespace PluginManager

/-- What a call returns or raises, and the manager after it. -/
abbrev Called : Type := Except Raised Unit × PluginManager

/-- `__init__`. -/
def init : PluginManager := ⟨.empty, .empty⟩

/-- The message of `PluginNotFoundError`. -/
def notFound (name : PyText) : Raised :=
  .notFound (ofString "Plugin '" ++ name ++ ofString "' is not registered")

/-- The message of `PluginLifecycleError`. -/
def lifecycle (verb : String) (name : PyText) (state : PluginState) : Raised :=
  .lifecycle (ofString "Cannot " ++ ofString verb ++ ofString " plugin '" ++ name ++
    ofString "' from state '" ++ ofString state.value ++ ofString "'")

/-- `register`. -/
def register (m : PluginManager) (name : PyText) (state : PluginState) (policy : PluginPolicy) :
    Called :=
  match m.plugins.get? name with
  | some _ =>
      (.error (.alreadyRegistered
        (ofString "Plugin '" ++ name ++ ofString "' is already registered")), m)
  | none =>
      (.ok (),
        { plugins := m.plugins.set name ⟨state, policy⟩
          health := m.health.set name { name, policy, status := .registered } })

/-- The status of a plugin whose load hook raised. -/
def failureStatus : PluginPolicy → PluginRuntimeStatus
  | .optional => .unavailable
  | .required => .failed

/-- `load`. -/
def load (m : PluginManager) (hooks : Hooks) (name : PyText) : Called :=
  match m.plugins.get? name with
  | none => (.error (notFound name), m)
  | some registration =>
      match registration.state with
      | .loaded => (.ok (), m)
      | .created | .unloaded =>
          let policy := registration.policy
          match hooks.load name with
          | none =>
              (.ok (),
                { plugins := m.plugins.set name { registration with state := .loaded }
                  health := m.health.set name { name, policy, status := .loaded } })
          | some error =>
              (.error (.hook error),
                { plugins := m.plugins.set name { registration with state := .failed }
                  health := m.health.set name
                    { name, policy, status := failureStatus policy, error := some error } })
      | state => (.error (lifecycle "load" name state), m)

/-- `unload`: the health record stays as it is. -/
def unload (m : PluginManager) (hooks : Hooks) (name : PyText) : Called :=
  match m.plugins.get? name with
  | none => (.error (notFound name), m)
  | some registration =>
      match registration.state with
      | .unloaded => (.ok (), m)
      | .loaded =>
          match hooks.unload name with
          | none =>
              (.ok (),
                { m with plugins := m.plugins.set name { registration with state := .unloaded } })
          | some error =>
              (.error (.hook error),
                { m with plugins := m.plugins.set name { registration with state := .failed } })
      | state => (.error (lifecycle "unload" name state), m)

/-- The loop of `load_all`: what an optional plugin raises is dropped. -/
def loadEach (hooks : Hooks) : List PyText → PluginManager → Called
  | [], m => (.ok (), m)
  | name :: rest, m =>
      match m.load hooks name with
      | (.ok (), after) => loadEach hooks rest after
      | (.error raised, after) =>
          match m.plugins.get? name with
          | some ⟨_, .optional⟩ => loadEach hooks rest after
          | _ => (.error raised, after)

/-- `load_all`. -/
def loadAll (m : PluginManager) (hooks : Hooks) : Called := loadEach hooks m.plugins.keys m

/-- The loop of `unload_all`. -/
def unloadEach (hooks : Hooks) : List PyText → PluginManager → Called
  | [], m => (.ok (), m)
  | name :: rest, m =>
      match m.plugins.get? name with
      | some ⟨.loaded, _⟩ =>
          match m.unload hooks name with
          | (.ok (), after) => unloadEach hooks rest after
          | (.error raised, after) => (.error raised, after)
      | _ => unloadEach hooks rest m

/-- `unload_all`: in reverse order of registration. -/
def unloadAll (m : PluginManager) (hooks : Hooks) : Called :=
  unloadEach hooks m.plugins.keys.reverse m

/-! ## Calls -/

/-- A call of the manager. A plugin that is registered is in a state of its own. -/
inductive Call where
  | register (name : PyText) (state : PluginState) (policy : PluginPolicy)
  | load (name : PyText)
  | unload (name : PyText)
  | loadAll
  | unloadAll
  deriving DecidableEq, Repr

/-- A call with what the hooks raise in it. -/
def call (m : PluginManager) (c : Call) (hooks : Hooks) : Called :=
  match c with
  | .register name state policy => m.register name state policy
  | .load name => m.load hooks name
  | .unload name => m.unload hooks name
  | .loadAll => m.loadAll hooks
  | .unloadAll => m.unloadAll hooks

/-- The manager after a call. -/
def step (m : PluginManager) (input : Call × Hooks) : PluginManager :=
  (m.call input.1 input.2).2

end PluginManager

end Eag.Plugins
