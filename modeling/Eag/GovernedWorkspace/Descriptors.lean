/-
  Eag.GovernedWorkspace.Descriptors

  The calls of the custody gate on the system, the store and the constructors.

  Nothing in the directory tree changes while a request is admitted, so a descriptor refers
  to the path it was opened on. The kernel is the ledger of the descriptors opened during
  the call. Every call meets an injection: a system call may fail with an `OSError`, a
  constructor with a `MemoryError`, and the probe and the store answer as they like.
-/

import Eag.Foundation.Ledger
import Eag.Foundation.Interleaving
import Eag.GovernedWorkspace.Models

namespace Eag.GovernedWorkspace

open Eag.Foundation

/-! ## The directory tree -/

/-- The names from the root of the file system. -/
abbrev Path := List PyText

/-- What stands at a path. -/
inductive Node where
  | directory
  | file
  | link
  deriving DecidableEq, Repr

/-- A finite tree of directories with what the system reports about them. -/
structure DirectoryTree where
  node : Path → Option Node
  /-- The names a directory lists. -/
  entries : Path → List PyText
  /-- `st_dev` and `st_ino`. -/
  stat : Path → Nat × Nat
  /-- Where a path text leads; links on the way are followed, the last name is not. -/
  target : PyText → Option Path
  /-- `Path.resolve`. -/
  resolve : PyText → Except Raised PyText
  depth : Nat
  mem_entries : ∀ path name, name ∈ entries path ↔ node (path ++ [name]) ≠ none
  length_le : ∀ path, node path ≠ none → path.length ≤ depth
  stat_injective : ∀ path path', node path = some .directory → node path' = some .directory →
    stat path = stat path' → path = path'

/-- A text the system takes as a path: no NUL, and only surrogates that stand for bytes. -/
def IsPathText (path : PyText) : Prop :=
  ∀ c ∈ path, match c with
    | .scalar c => c ≠ '\x00'
    | .surrogate offset => 0x480 ≤ offset.val ∧ offset.val < 0x500

instance (path : PyText) : Decidable (IsPathText path) := by
  unfold IsPathText
  have : DecidablePred fun c : CodePoint => match c with
      | .scalar c => c ≠ '\x00'
      | .surrogate offset => 0x480 ≤ offset.val ∧ offset.val < 0x500 := fun c =>
    match c with
    | .scalar c => inferInstanceAs (Decidable (c ≠ '\x00'))
    | .surrogate _ => inferInstanceAs (Decidable (_ ∧ _))
  infer_instance

/-! ## Calls -/

/-- Which identity check reads a descriptor: one of the admission, or the one of the root
    binding after the claim. -/
inductive Check where
  | admission
  | binding
  deriving DecidableEq, Repr

/-- Which `os.close`: one whose `OSError` is suppressed, the one of the root directory the
    ancestor walk has come to, or the one of a directory that the walk leaves. -/
inductive Closing where
  | suppressed
  | top
  | left
  deriving DecidableEq, Repr

/-- The records whose constructors the successful paths run. -/
inductive Record where
  | attestation
  | admission
  | result
  | binding
  | handle
  | handoff
  deriving DecidableEq, Repr

/-- `WorkspaceCustodyClaimDisposition`. -/
inductive WorkspaceCustodyClaimDisposition where
  | claimed
  | duplicate
  | conflict
  deriving DecidableEq, Repr

/-- What the gate calls. -/
inductive Operation where
  /-- The injected `capability_probe`. -/
  | probe
  /-- `datetime.now(UTC)`. -/
  | now
  | resolve (path : PyText)
  /-- `os.open` of a declared root, with `O_RDONLY | O_DIRECTORY | O_NOFOLLOW | O_CLOEXEC`. -/
  | openRoot (root : Root) (path : PyText)
  | fstat (check : Check) (descriptor : Descriptor)
  /-- `os.scandir`, and the first entry. -/
  | scandir (descriptor : Descriptor)
  | dup (descriptor : Descriptor)
  /-- `os.open` of `".."` with the same flags, relative to a descriptor. -/
  | openParent (descriptor : Descriptor)
  | close (closing : Closing) (descriptor : Descriptor)
  /-- `claim` of the custody store. -/
  | claim (attestation : WorkspaceCustodyAttestation)
  /-- The constructor of a record, with what its checks raise. -/
  | build (record : Record) (refused : Option Raised)

/-- What a call returns. -/
def Answer : Operation → Type
  | .probe => Bool
  | .now => Occurrence
  | .resolve _ => PyText
  | .openRoot _ _ | .dup _ | .openParent _ => Descriptor
  | .fstat _ _ => Nat × Nat
  | .scandir _ => Option PyText
  | .close _ _ | .build _ _ => Unit
  | .claim _ => WorkspaceCustodyClaimDisposition

/-- A call with its reply. -/
abbrev Event := Σ op, Except Raised (Answer op)

/-- What meets one call. -/
structure Injection where
  fails : Bool
  probe : Except Raised Bool
  now : Occurrence
  claimed : Except Raised WorkspaceCustodyClaimDisposition

/-- The descriptors opened during the call, each with its directory. -/
abbrev Kernel := Ledger Path

/-- A call that fails as injected, or answers. -/
def Injection.guard {α : Type} (env : Injection) (answer : Except Raised α) : Except Raised α :=
  if env.fails then .error .osError else answer

/-- What the system answers about a descriptor. -/
def Kernel.about {α : Type} (k : Kernel) (descriptor : Descriptor) (f : Path → α) :
    Except Raised α :=
  match k.live? descriptor with
  | none => .error .osError
  | some path => .ok (f path)

/-- Open a directory. -/
def Kernel.opening (k : Kernel) (tree : DirectoryTree) (env : Injection) (path : Option Path) :
    Kernel × Except Raised Descriptor :=
  match path with
  | none => (k, .error .osError)
  | some path =>
      if env.fails ∨ tree.node path ≠ some .directory then (k, .error .osError)
      else (k.acquire path, .ok k.opened.length)

/-- One call. A `close` releases the descriptor also when it reports an error. -/
def DirectoryTree.perform (tree : DirectoryTree) (k : Kernel) (env : Injection) :
    (op : Operation) → Kernel × Except Raised (Answer op)
  | .probe => (k, env.probe)
  | .now => (k, .ok env.now)
  | .resolve path => (k, env.guard (tree.resolve path))
  | .openRoot _ path =>
      if IsPathText path then k.opening tree env (tree.target path) else (k, .error .valueError)
  | .fstat _ descriptor => (k, env.guard (k.about descriptor tree.stat))
  | .scandir descriptor =>
      (k, env.guard (k.about descriptor fun path => (tree.entries path).head?))
  | .dup descriptor => k.opening tree env (k.live? descriptor)
  | .openParent descriptor => k.opening tree env ((k.live? descriptor).map List.dropLast)
  | .close _ descriptor =>
      (k.release descriptor,
        if env.fails ∨ descriptor ∈ k.released then .error .osError else .ok ())
  | .claim _ => (k, env.claimed)
  | .build _ (some error) => (k, .error error)
  | .build _ none => (k, if env.fails then .error .memoryError else .ok ())

/-! ## Failures nobody cleans up after -/

/-- A failure at a point where descriptors are open that no clause on the way out closes: a
    declared root after the first that is no path text, an identity check or a `dup` of the
    admission, the `close` of a directory the walk leaves, and the constructors between the
    admission and the `try` of the callers, or after the handle has left the dictionary. -/
def Unguarded : Event → Prop
  | ⟨.openRoot root _, .error error⟩ => root ≠ .workspace ∧ error ≠ .osError
  | ⟨.fstat .admission _, .error _⟩ => True
  | ⟨.dup _, .error _⟩ => True
  | ⟨.close .left _, .error _⟩ => True
  | ⟨.build .attestation _, .error _⟩ => True
  | ⟨.build .admission _, .error _⟩ => True
  | ⟨.build .handoff _, .error _⟩ => True
  | _ => False

/-- No call failed at such a point. -/
def Guarded (calls : List Event) : Prop := ∀ e ∈ calls, ¬Unguarded e

theorem guarded_snoc {calls : List Event} {e : Event} :
    Guarded (calls ++ [e]) ↔ Guarded calls ∧ ¬Unguarded e := by
  unfold Guarded
  rw [List.forall_mem_append, List.forall_mem_singleton]

end Eag.GovernedWorkspace
