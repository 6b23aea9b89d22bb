/-
  Eag.GovernedFileConstruction.Filesystem

  The file system under descriptor-relative calls. Nothing that exists is renamed or
  removed while files are constructed, so a descriptor is the absolute path of what it
  was opened on, and a name is looked up in a directory without following a link.

  Every call meets an injection: it may fail with an `OSError` and then has no effect, and
  a write or a read may transfer fewer bytes. A name with a NUL raises `ValueError`.
-/

import Eag.Foundation.Interleaving
import Eag.GovernedFileConstruction.Models

namespace Eag.GovernedFileConstruction

open Eag.Foundation

/-! ## Nodes -/

/-- The names from the root of the file system. -/
abbrev Path := List PyText

/-- What stands at a path. -/
inductive Node where
  | directory
  | file (bytes : List UInt8)
  | link (target : PyText)
  deriving DecidableEq, Repr

/-- The nodes, and the offset of the file that is open at a path. -/
structure Kernel where
  node : Path → Option Node
  offset : Path → Nat

/-- A new node at a path. -/
def Kernel.put (k : Kernel) (path : Path) (node : Node) : Kernel :=
  { k with node := Function.update k.node path (some node) }

/-- Where a name leads from a directory. -/
def Kernel.locate (k : Kernel) (name : PyText) (directory : Path) : Option Path :=
  if k.node directory ≠ some .directory ∨ name = [] then none
  else if name = PyText.ofString "." then some directory
  else if name = PyText.ofString ".." then some directory.dropLast
  else some (directory ++ [name])

theorem Kernel.locate_entry {k : Kernel} {name : PyText} {directory path : Path}
    (hname : IsEntryName name) (h : k.locate name directory = some path) :
    k.node directory = some .directory ∧ path = directory ++ [name] := by
  obtain ⟨-, hdot, hdots, -⟩ := hname
  unfold locate at h
  split at h
  · cases h
  · rename_i hdirectory
    exact ⟨not_not.mp (not_or.mp hdirectory).1, (Option.some.inj h).symm⟩

/-! ## Calls -/

/-- The `OSError`s the constructor tells apart. -/
inductive OsFault where
  | fileExists
  | other
  deriving DecidableEq, Repr

/-- What a call raises. -/
inductive Raised where
  | os (fault : OsFault)
  /-- `ValueError` for a name with a NUL. -/
  | embeddedNull
  deriving DecidableEq, Repr

/-- The system calls of the constructor. -/
inductive Operation where
  | mkdir (name : PyText) (directory : Path)
  /-- `os.open` with `O_RDONLY | O_DIRECTORY | O_NOFOLLOW`. -/
  | openDirectory (name : PyText) (directory : Path)
  /-- `os.open` with `O_RDWR | O_CREAT | O_EXCL | O_NOFOLLOW`. -/
  | createFile (name : PyText) (directory : Path)
  | fstat (descriptor : Path)
  | write (descriptor : Path) (bytes : List UInt8)
  | fsync (descriptor : Path)
  /-- `os.lseek(descriptor, 0, os.SEEK_SET)`. -/
  | seekStart (descriptor : Path)
  | read (descriptor : Path) (count : Nat)
  | close (descriptor : Path)
  /-- The `os.close` of the custody handle, which suppresses what it raises. -/
  | closeRoot (descriptor : Path)

/-- The part of a `stat_result` the constructor reads. -/
structure Metadata where
  isDirectory : Bool
  isRegular : Bool
  links : Nat

/-- What a call returns. -/
def Answer : Operation → Type
  | .openDirectory _ _ | .createFile _ _ => Path
  | .fstat _ => Metadata
  | .write _ _ => Nat
  | .read _ _ => List UInt8
  | _ => Unit

/-- A call with its reply. -/
abbrev Event := Σ op, Except Raised (Answer op)

/-- What meets one call. -/
structure Injection where
  fault : Option OsFault
  /-- How many bytes a transfer moves at most. -/
  transfer : Nat
  /-- How many links the node of an `fstat` has. -/
  links : Nat

/-- The NUL character. -/
def nul : CodePoint := .scalar '\x00'

namespace Kernel

/-- A call that fails as injected, or acts. -/
def guarded {α : Type} (k : Kernel) (env : Injection) (act : Kernel × Except Raised α) :
    Kernel × Except Raised α :=
  match env.fault with
  | some fault => (k, .error (.os fault))
  | none => act

/-- A call on a name in a directory. -/
def named {α : Type} (k : Kernel) (env : Injection) (name : PyText) (directory : Path)
    (act : Path → Kernel × Except Raised α) : Kernel × Except Raised α :=
  if nul ∈ name then (k, .error .embeddedNull)
  else k.guarded env <|
    match k.locate name directory with
    | none => (k, .error (.os .other))
    | some path => act path

/-- The bytes of a file after some were written at an offset. -/
def overwrite (old : List UInt8) (offset : Nat) (bytes : List UInt8) : List UInt8 :=
  old.take offset ++ bytes ++ old.drop (offset + bytes.length)

/-- One system call. -/
def perform (k : Kernel) (env : Injection) : (op : Operation) → Kernel × Except Raised (Answer op)
  | .mkdir name directory => k.named env name directory fun path =>
      match k.node path with
      | some _ => (k, .error (.os .fileExists))
      | none => (k.put path .directory, .ok ())
  | .openDirectory name directory => k.named env name directory fun path =>
      match k.node path with
      | some .directory => (k, .ok path)
      | _ => (k, .error (.os .other))
  | .createFile name directory => k.named env name directory fun path =>
      match k.node path with
      | some _ => (k, .error (.os .fileExists))
      | none =>
          ({ k.put path (.file []) with offset := Function.update k.offset path 0 }, .ok path)
  | .fstat descriptor => k.guarded env <|
      match k.node descriptor with
      | some .directory => (k, .ok ⟨true, false, env.links⟩)
      | some (.file _) => (k, .ok ⟨false, true, env.links⟩)
      | _ => (k, .error (.os .other))
  | .write descriptor bytes => k.guarded env <|
      match k.node descriptor with
      | some (.file old) =>
          let count := min env.transfer bytes.length
          let start := k.offset descriptor
          ({ k.put descriptor (.file (overwrite old start (bytes.take count))) with
              offset := Function.update k.offset descriptor (start + count) }, .ok count)
      | _ => (k, .error (.os .other))
  | .fsync _ => k.guarded env (k, .ok ())
  | .seekStart descriptor => k.guarded env
      ({ k with offset := Function.update k.offset descriptor 0 }, .ok ())
  | .read descriptor count => k.guarded env <|
      match k.node descriptor with
      | some (.file bytes) =>
          let start := k.offset descriptor
          let chunk := (bytes.drop start).take (min env.transfer count)
          ({ k with offset := Function.update k.offset descriptor (start + chunk.length) },
            .ok chunk)
      | _ => (k, .error (.os .other))
  | .close _ => k.guarded env (k, .ok ())
  | .closeRoot _ => k.guarded env (k, .ok ())

/-! ## What one call can do -/

variable (k : Kernel) (env : Injection)

/-- A guarded call fails with an `OSError` and no effect, or acts. -/
theorem guarded_cases {α : Type} (act : Kernel × Except Raised α) :
    (∃ fault, k.guarded env act = (k, .error (.os fault))) ∨ k.guarded env act = act := by
  unfold guarded
  cases env.fault with
  | some fault => exact Or.inl ⟨fault, rfl⟩
  | none => exact Or.inr rfl

/-- A call on a name is refused for a NUL, fails without effect, or acts where the name
    leads. -/
theorem named_cases {α : Type} (name : PyText) (directory : Path)
    (act : Path → Kernel × Except Raised α) :
    (nul ∈ name ∧ k.named env name directory act = (k, .error .embeddedNull)) ∨
    (nul ∉ name ∧ ((∃ fault, k.named env name directory act = (k, .error (.os fault))) ∨
      ∃ path, k.locate name directory = some path ∧
        k.named env name directory act = act path)) := by
  unfold named
  split
  · rename_i hnul
    exact Or.inl ⟨hnul, rfl⟩
  · rename_i hnul
    refine Or.inr ⟨hnul, ?_⟩
    cases hpath : k.locate name directory with
    | none =>
        rcases k.guarded_cases env (α := α) (k, .error (.os .other)) with ⟨fault, h⟩ | h
        · exact Or.inl ⟨fault, h⟩
        · exact Or.inl ⟨.other, h⟩
    | some path =>
        rcases k.guarded_cases env (act path) with ⟨fault, h⟩ | h
        · exact Or.inl ⟨fault, h⟩
        · exact Or.inr ⟨path, rfl, h⟩

end Kernel

end Eag.GovernedFileConstruction
