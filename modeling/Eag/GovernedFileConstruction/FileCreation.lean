/-
  Eag.GovernedFileConstruction.FileCreation

  What the creation of one file does to the file system, whatever the injections: it only
  adds nodes, each strictly below the root and through real directories (`Grows`), and it
  ends by an exception exactly when one of its calls was harmful: a `close` that failed, or
  a name with a NUL (`Harmless`).
-/

import Eag.GovernedFileConstruction.Constructor

namespace Eag.GovernedFileConstruction

open Eag.Foundation
open Prog (Ensures)

/-! ## What a run may add -/

/-- The nodes of a file system. -/
abbrev Nodes := Path → Option Node

/-- A path below the root whose ancestors from the root on are directories. -/
def Below (root : Path) (nodes : Nodes) (path : Path) : Prop :=
  root <+: path ∧ ∀ q, root <+: q → q <+: path → q ≠ path → nodes q = some .directory

/-- Nothing that existed changes, and what is new lies strictly below the root, through
    directories only. -/
structure Grows (root : Path) (before after : Nodes) : Prop where
  kept : ∀ path node, before path = some node → after path = some node
  inside : ∀ path, before path = none → after path ≠ none → path ≠ root ∧ Below root after path

theorem Grows.refl (root : Path) (nodes : Nodes) : Grows root nodes nodes :=
  ⟨fun _ _ h => h, fun _ hnone hsome => absurd hnone hsome⟩

theorem Below.of_grows {root path : Path} {before after : Nodes} (h : Below root before path)
    (hgrows : Grows root before after) : Below root after path :=
  ⟨h.1, fun q hroot hq hne => hgrows.kept q .directory (h.2 q hroot hq hne)⟩

theorem Grows.trans {root : Path} {a b c : Nodes} (hab : Grows root a b) (hbc : Grows root b c) :
    Grows root a c where
  kept path node h := hbc.kept path node (hab.kept path node h)
  inside path hnone hsome := by
    cases hb : b path with
    | none => exact hbc.inside path hb hsome
    | some node =>
        have hb' : b path ≠ none := by rw [hb]; exact Option.some_ne_none node
        obtain ⟨hne, hbelow⟩ := hab.inside path hnone hb'
        exact ⟨hne, hbelow.of_grows hbc⟩

/-- An entry of a directory below the root is below the root. -/
theorem Below.entry {root directory : Path} {nodes : Nodes} (h : Below root nodes directory)
    (hdirectory : nodes directory = some .directory) (name : PyText) :
    directory ++ [name] ≠ root ∧ Below root nodes (directory ++ [name]) := by
  refine ⟨?_, h.1.trans (List.prefix_append _ _), ?_⟩
  · intro heq
    have hle := h.1.length_le
    rw [← heq, List.length_append] at hle
    simp only [List.length_cons, List.length_nil] at hle
    omega
  · intro q hroot hq hne
    have hq' : q <+: directory := by
      rcases List.prefix_concat_iff.mp hq with rfl | hq
      · exact absurd rfl hne
      · exact hq
    by_cases heq : q = directory
    · rw [heq]; exact hdirectory
    · exact h.2 q hroot hq' heq

/-- Putting a node where there was none. -/
theorem grows_update {root path : Path} {nodes : Nodes} (hnone : nodes path = none)
    (hne : path ≠ root) (hbelow : Below root nodes path) (node : Node) :
    Grows root nodes (Function.update nodes path (some node)) where
  kept q n h := by
    have hq : q ≠ path := by
      rintro rfl
      rw [hnone] at h
      cases h
    rw [Function.update_of_ne hq]
    exact h
  inside q hq hsome := by
    have heq : q = path := by
      by_contra hq'
      rw [Function.update_of_ne hq'] at hsome
      exact hsome hq
    subst heq
    refine ⟨hne, hbelow.1, fun r hroot hr hrne => ?_⟩
    rw [Function.update_of_ne hrne]
    exact hbelow.2 r hroot hr hrne

/-! ## Harmless calls -/

/-- The name a call hands to the system. -/
def Operation.name? : Operation → Option PyText
  | .mkdir name _ | .openDirectory name _ | .createFile name _ => some name
  | _ => none

/-- A call that is no `close` that failed and names nothing with a NUL. -/
def Harmless (e : Event) : Prop :=
  (∀ descriptor, e.1 = .close descriptor → e.2.isOk = true) ∧
    ∀ name, e.1.name? = some name → nul ∉ name

/-- All calls were harmless. -/
def Clean (calls : List Event) : Prop := ∀ e ∈ calls, Harmless e

theorem clean_snoc {calls : List Event} {e : Event} :
    Clean (calls ++ [e]) ↔ Clean calls ∧ Harmless e := by
  constructor
  · intro h
    exact ⟨fun x hx => h x (List.mem_append_left _ hx), h e (List.mem_append_right _ (by simp))⟩
  · rintro ⟨hcalls, he⟩ x hx
    rcases List.mem_append.mp hx with hx | hx
    · exact hcalls x hx
    · rw [List.mem_singleton.mp hx]
      exact he

/-- A call on a descriptor that is not a `close`. -/
def Operation.isPlain : Operation → Bool
  | .fstat _ | .write _ _ | .fsync _ | .seekStart _ | .read _ _ | .closeRoot _ => true
  | _ => false

theorem harmless_of_isPlain {op : Operation} (h : op.isPlain = true)
    (reply : Except Raised (Answer op)) : Harmless ⟨op, reply⟩ := by
  constructor
  · rintro descriptor rfl
    cases h
  · intro name hname
    have hnone : op.name? = none := by
      cases op with
      | mkdir | openDirectory | createFile => cases h
      | _ => rfl
    rw [hnone] at hname
    cases hname

theorem harmless_close {descriptor : Path} {reply : Except Raised Unit} :
    Harmless ⟨.close descriptor, reply⟩ ↔ reply.isOk = true := by
  constructor
  · intro h
    exact h.1 descriptor rfl
  · intro h
    exact ⟨fun _ _ => h, fun name hname => nomatch hname⟩

theorem harmless_named {op : Operation} {name : PyText} (hop : op.name? = some name)
    (reply : Except Raised (Answer op)) : Harmless ⟨op, reply⟩ ↔ nul ∉ name := by
  constructor
  · intro h
    exact h.2 name hop
  · intro h
    refine ⟨fun descriptor heq => ?_, fun other hother => ?_⟩
    · rw [show op = .close descriptor from heq] at hop
      cases hop
    · rw [hop] at hother
      cases hother
      exact h

/-! ## Calls that leave the nodes as they are -/

/-- The nodes stay, and what is raised is an `OSError`. -/
def Quiet {α : Type} (k : Kernel) (result : Kernel × Except Raised α) : Prop :=
  result.1.node = k.node ∧ ∀ error, result.2 = .error error → ∃ fault, error = .os fault

theorem quiet_ok {α : Type} {k k' : Kernel} (h : k'.node = k.node) (a : α) :
    Quiet k (k', .ok a) :=
  ⟨h, fun _ herror => nomatch herror⟩

theorem quiet_error {α : Type} (k : Kernel) (fault : OsFault) :
    Quiet k (k, (.error (.os fault) : Except Raised α)) :=
  ⟨rfl, fun _ herror => ⟨fault, (Except.error.inj herror).symm⟩⟩

theorem Quiet.guarded {α : Type} {k : Kernel} {act : Kernel × Except Raised α}
    (h : Quiet k act) (env : Injection) : Quiet k (k.guarded env act) := by
  rcases k.guarded_cases env act with ⟨fault, hfault⟩ | hact
  · rw [hfault]
    exact quiet_error k fault
  · rw [hact]
    exact h

/-- A plain call that is no write changes no node, and raises only `OSError`s. -/
theorem perform_plain {op : Operation} (hplain : op.isPlain = true)
    (hwrite : ∀ descriptor bytes, op ≠ .write descriptor bytes) (k : Kernel) (env : Injection) :
    Quiet k (k.perform env op) := by
  cases op with
  | mkdir | openDirectory | createFile | close => cases hplain
  | write descriptor bytes => exact absurd rfl (hwrite descriptor bytes)
  | fsync | closeRoot => exact (quiet_ok rfl ()).guarded env
  | seekStart descriptor =>
      have hact : Quiet k (⟨k.node, Function.update k.offset descriptor 0⟩,
          (.ok () : Except Raised Unit)) := quiet_ok rfl ()
      exact hact.guarded env
  | fstat descriptor =>
      refine Quiet.guarded ?_ env
      split
      · exact quiet_ok rfl _
      · exact quiet_ok rfl _
      · exact quiet_error k .other
  | read descriptor count =>
      refine Quiet.guarded ?_ env
      split
      · exact quiet_ok rfl _
      · exact quiet_error k .other

/-- A plain call that is no write, in a program: what holds of every state with these nodes
    holds after it. -/
theorem ensures_plain {β : Type} {op : Operation} {k : Kernel} {mine : List Event}
    {R : Kernel → List Event → Except Raised β → Prop} {f : Answer op → Raising β}
    (hplain : op.isPlain = true) (hwrite : ∀ descriptor bytes, op ≠ .write descriptor bytes)
    (herror : ∀ k' later fault, k'.node = k.node → (Clean mine → Clean later) →
      R k' later (.error (.os fault)))
    (hok : ∀ k' later answer, k'.node = k.node → (Clean mine → Clean later) →
      Ensures Kernel.perform R k' later (f answer).run) :
    Ensures Kernel.perform R k mine (Prog.ask op >>= f).run := by
  have hclean : ∀ reply : Except Raised (Answer op), Clean mine → Clean (mine ++ [⟨op, reply⟩]) :=
    fun reply hmine => clean_snoc.mpr ⟨hmine, harmless_of_isPlain hplain reply⟩
  refine Prog.ensures_ask ?_ ?_
  · intro env error hreply
    obtain ⟨hnode, hos⟩ := perform_plain hplain hwrite k env
    obtain ⟨fault, rfl⟩ := hos error hreply
    exact herror _ _ fault hnode (hclean _)
  · intro env answer hreply
    exact hok _ _ answer (perform_plain hplain hwrite k env).1 (hclean _)

/-! ## Filling a file -/

/-- The nodes after a file got these bytes. -/
def withFile (nodes : Nodes) (path : Path) (bytes : List UInt8) : Nodes :=
  Function.update nodes path (some (.file bytes))

/-- A write appends what it reports, when the offset is at the end of the file. -/
theorem perform_write {k : Kernel} {descriptor : Path} {done : List UInt8}
    (hfile : k.node descriptor = some (.file done)) (hoffset : k.offset descriptor = done.length)
    (env : Injection) (bytes : List UInt8) :
    (∃ fault, k.perform env (.write descriptor bytes) = (k, .error (.os fault))) ∨
    ∃ count ≤ bytes.length, k.perform env (.write descriptor bytes) =
      (⟨withFile k.node descriptor (done ++ bytes.take count),
        Function.update k.offset descriptor (done.length + count)⟩, .ok count) := by
  refine (k.guarded_cases env _).imp id fun h => ?_
  refine ⟨min env.transfer bytes.length, Nat.min_le_right _ _, ?_⟩
  refine Eq.trans h ?_
  have hover : ∀ new, Kernel.overwrite done done.length new = done ++ new := by
    intro new
    rw [Kernel.overwrite, List.take_length, List.drop_eq_nil_of_le (Nat.le_add_right _ _),
      List.append_nil]
  simp only [hfile, hoffset, hover]
  rfl

/-- **The write loop** leaves the file with bytes, all of them when it says so. -/
theorem writeAll_spec (descriptor : Path) (remaining : List UInt8) {k : Kernel}
    {mine : List Event} {done : List UInt8} (hfile : k.node descriptor = some (.file done))
    (hoffset : k.offset descriptor = done.length) (hmine : Clean mine) :
    Ensures Kernel.perform (fun k' later ending =>
      Clean later ∧
      (∃ bytes, k'.node = withFile k.node descriptor bytes ∧
        (ending = .ok true → bytes = done ++ remaining)) ∧
      ∀ error, ending = .error error → ∃ fault, error = .os fault)
      k mine (writeAll descriptor remaining).run := by
  -- induction on what is left to write
  generalize hlength : remaining.length = n
  induction n using Nat.strong_induction_on generalizing remaining k mine done with
  | _ n ih =>
      have hsame : k.node = withFile k.node descriptor done := by
        rw [withFile, ← hfile, Function.update_eq_self]
      rw [writeAll]
      by_cases hremaining : remaining = []
      · rw [dif_pos hremaining]
        refine ⟨hmine, ⟨done, hsame, fun _ => ?_⟩, fun _ herror => nomatch herror⟩
        rw [hremaining, List.append_nil]
      · rw [dif_neg hremaining]
        have hclean : ∀ reply : Except Raised Nat,
            Clean (mine ++ [⟨.write descriptor remaining, reply⟩]) :=
          fun reply => clean_snoc.mpr
            ⟨hmine, @harmless_of_isPlain (.write descriptor remaining) rfl reply⟩
        refine Prog.ensures_ask ?_ ?_
        · intro env error hreply
          rcases perform_write hfile hoffset env remaining with ⟨fault, h⟩ | ⟨count, -, h⟩
          · rw [h] at hreply ⊢
            refine ⟨hclean _, ⟨done, hsame, fun hok => nomatch hok⟩, fun error' herror => ?_⟩
            cases hreply
            exact ⟨fault, (Except.error.inj herror).symm⟩
          · rw [h] at hreply
            cases hreply
        · intro env (count : Nat) hreply
          rcases perform_write hfile hoffset env remaining with ⟨fault, h⟩ | ⟨count', hle, h⟩
          · rw [h] at hreply
            cases hreply
          · rw [h] at hreply ⊢
            cases hreply
            have hnext : withFile k.node descriptor (done ++ remaining.take count) descriptor =
                some (.file (done ++ remaining.take count)) := Function.update_self _ _ _
            by_cases hcount : count = 0
            · rw [dif_pos hcount]
              exact ⟨hclean _, ⟨_, rfl, fun hok => nomatch hok⟩, fun _ herror => nomatch herror⟩
            · rw [dif_neg hcount]
              have hpos : 0 < remaining.length := List.length_pos_of_ne_nil hremaining
              have hless : (remaining.drop count).length < n := by
                rw [List.length_drop]
                omega
              have hend : Function.update k.offset descriptor (done.length + count) descriptor =
                  (done ++ remaining.take count).length := by
                rw [Function.update_self, List.length_append, List.length_take,
                  Nat.min_eq_left hle]
              refine (ih _ hless (remaining.drop count) hnext hend (hclean _) rfl).imp ?_
              rintro k' later ending ⟨hlater, ⟨bytes, hbytes, hall⟩, herror⟩
              refine ⟨hlater, ⟨bytes, ?_, fun hok => ?_⟩, herror⟩
              · rw [hbytes, withFile, withFile, Function.update_idem]
                rfl
              · rw [hall hok, List.append_assoc, List.take_append_drop]

/-- The read loop changes no node. -/
theorem readAll_spec (descriptor : Path) (length : Nat) (observed : List UInt8) {k : Kernel}
    {mine : List Event} (hmine : Clean mine) :
    Ensures Kernel.perform (fun k' later ending =>
      Clean later ∧ k'.node = k.node ∧
      ∀ error, ending = .error error → ∃ fault, error = .os fault)
      k mine (readAll descriptor length observed).run := by
  -- induction on what is left to read
  generalize hleft : length - observed.length = n
  induction n using Nat.strong_induction_on generalizing observed k mine with
  | _ n ih =>
      rw [readAll]
      by_cases hmore : observed.length < length
      · rw [dif_pos hmore]
        refine ensures_plain rfl (fun _ _ h => nomatch h) ?_ ?_
        · intro k' later fault hnode hclean
          exact ⟨hclean hmine, hnode, fun _ herror => ⟨fault, (Except.error.inj herror).symm⟩⟩
        · intro k' later (chunk : List UInt8) hnode hclean
          by_cases hchunk : chunk = []
          · rw [dif_pos hchunk]
            exact ⟨hclean hmine, hnode, fun _ herror => nomatch herror⟩
          · rw [dif_neg hchunk]
            have hpos : 0 < chunk.length := List.length_pos_of_ne_nil hchunk
            have hless : length - (observed ++ chunk).length < n := by
              rw [List.length_append]
              omega
            refine (ih _ hless (observed ++ chunk) (hclean hmine) rfl).imp ?_
            rintro k'' later' ending ⟨hlater, hnode', herror⟩
            exact ⟨hlater, hnode'.trans hnode, herror⟩
      · rw [dif_neg hmore]
        exact ⟨hmine, rfl, fun _ herror => nomatch herror⟩

/-- How the filling of a file may end: with the file holding bytes, all of them unless an
    attempt is returned. -/
def Filled (nodes : Nodes) (descriptor : Path) (encoded : List UInt8) (k : Kernel)
    (calls : List Event) (ending : Ending) : Prop :=
  Clean calls ∧
  (∃ bytes, k.node = withFile nodes descriptor bytes ∧ (ending = .ok none → bytes = encoded)) ∧
  (∀ attempt, ending = .ok (some attempt) → attempt.effectStarted = true) ∧
  ∀ error, ending = .error error → ∃ fault, error = .os fault

theorem filled_attempt {nodes : Nodes} {descriptor : Path} {encoded bytes : List UInt8}
    {k : Kernel} {calls : List Event} (hclean : Clean calls)
    (hnode : k.node = withFile nodes descriptor bytes) (finding : ConstructionFindingCode) :
    Filled nodes descriptor encoded k calls (.ok (some ⟨finding, true⟩)) := by
  refine ⟨hclean, ⟨bytes, hnode, fun h => nomatch h⟩, fun attempt h => ?_, fun _ h => nomatch h⟩
  cases h
  rfl

theorem filled_error {nodes : Nodes} {descriptor : Path} {encoded bytes : List UInt8}
    {k : Kernel} {calls : List Event} (hclean : Clean calls)
    (hnode : k.node = withFile nodes descriptor bytes) (fault : OsFault) :
    Filled nodes descriptor encoded k calls (.error (.os fault)) := by
  refine ⟨hclean, ⟨bytes, hnode, fun h => nomatch h⟩, fun _ h => (nomatch h), fun error h => ?_⟩
  exact ⟨fault, (Except.error.inj h).symm⟩

/-- **Filling a new file.** -/
theorem fillFile_spec {descriptor : Path} (encoded : List UInt8) (expectedDigest : String)
    {k : Kernel} {mine : List Event} (hfile : k.node descriptor = some (.file []))
    (hoffset : k.offset descriptor = 0) (hmine : Clean mine) :
    Ensures Kernel.perform (Filled k.node descriptor encoded) k mine
      (fillFile descriptor encoded expectedDigest).run := by
  unfold fillFile
  refine Prog.ensures_bind (writeAll_spec descriptor encoded hfile hoffset hmine) ?_ ?_
  · rintro k1 later error ⟨hclean, ⟨bytes, hnode, -⟩, hos⟩
    obtain ⟨fault, rfl⟩ := hos error rfl
    exact filled_error hclean hnode fault
  · rintro k1 later written ⟨hclean, ⟨bytes, hnode, hall⟩, -⟩
    cases written with
    | false => exact filled_attempt hclean hnode _
    | true =>
        obtain rfl : bytes = encoded := hall rfl
        -- from here on no call changes a node
        show Ensures Kernel.perform _ k1 later (ExceptT.run (Prog.ask (.fsync descriptor) >>= _))
        refine ensures_plain rfl (fun _ _ h => nomatch h)
          (fun k2 later2 fault h2 hc2 => filled_error (hc2 hclean) (h2.trans hnode) fault) ?_
        intro k2 later2 _ h2 hc2
        have hnode2 := h2.trans hnode
        refine ensures_plain rfl (fun _ _ h => nomatch h)
          (fun k3 later3 fault h3 hc3 => filled_error (hc3 (hc2 hclean)) (h3.trans hnode2) fault) ?_
        intro k3 later3 (metadata : Metadata) h3 hc3
        have hclean3 := hc3 (hc2 hclean)
        have hnode3 := h3.trans hnode2
        split
        · exact filled_attempt hclean3 hnode3 _
        · refine ensures_plain rfl (fun _ _ h => nomatch h)
            (fun k4 later4 fault h4 hc4 => filled_error (hc4 hclean3) (h4.trans hnode3) fault) ?_
          intro k4 later4 _ h4 hc4
          have hnode4 := h4.trans hnode3
          refine Prog.ensures_bind (readAll_spec descriptor bytes.length [] (hc4 hclean3)) ?_ ?_
          · rintro k5 later5 error ⟨hclean5, h5, hos⟩
            obtain ⟨fault, rfl⟩ := hos error rfl
            exact filled_error hclean5 (h5.trans hnode4) fault
          · rintro k5 later5 observed ⟨hclean5, h5, -⟩
            have hnode5 := h5.trans hnode4
            split
            · exact filled_attempt hclean5 hnode5 _
            · exact ⟨hclean5, ⟨bytes, hnode5, fun _ => rfl⟩, fun _ h => (nomatch h),
                fun _ h => nomatch h⟩

/-! ## Calls on an entry -/

section Entry

variable {name : PyText} {directory : Path} (hname : IsEntryName name) (k : Kernel)
  (env : Injection)

include hname

theorem perform_mkdir :
    (nul ∈ name ∧ k.perform env (.mkdir name directory) = (k, .error .embeddedNull)) ∨
    (nul ∉ name ∧ ((∃ fault, k.perform env (.mkdir name directory) = (k, .error (.os fault))) ∨
      (k.node directory = some .directory ∧ k.node (directory ++ [name]) = none ∧
        k.perform env (.mkdir name directory) =
          (k.put (directory ++ [name]) .directory, .ok ())))) := by
  rcases k.named_cases env name directory _ with h | ⟨hnul, h | ⟨path, hpath, h⟩⟩
  · exact Or.inl h
  · exact Or.inr ⟨hnul, Or.inl h⟩
  · obtain ⟨hdirectory, rfl⟩ := k.locate_entry hname hpath
    refine Or.inr ⟨hnul, ?_⟩
    cases hnode : k.node (directory ++ [name]) with
    | some node =>
        rw [hnode] at h
        exact Or.inl ⟨.fileExists, h⟩
    | none =>
        rw [hnode] at h
        exact Or.inr ⟨hdirectory, rfl, h⟩

theorem perform_openDirectory :
    (nul ∈ name ∧ k.perform env (.openDirectory name directory) = (k, .error .embeddedNull)) ∨
    (nul ∉ name ∧
      ((∃ fault, k.perform env (.openDirectory name directory) = (k, .error (.os fault))) ∨
      (k.node directory = some .directory ∧ k.node (directory ++ [name]) = some .directory ∧
        k.perform env (.openDirectory name directory) = (k, .ok (directory ++ [name]))))) := by
  rcases k.named_cases env name directory _ with h | ⟨hnul, h | ⟨path, hpath, h⟩⟩
  · exact Or.inl h
  · exact Or.inr ⟨hnul, Or.inl h⟩
  · obtain ⟨hdirectory, rfl⟩ := k.locate_entry hname hpath
    refine Or.inr ⟨hnul, ?_⟩
    split at h
    · rename_i hnode
      exact Or.inr ⟨hdirectory, hnode, h⟩
    · exact Or.inl ⟨.other, h⟩

theorem perform_createFile :
    (nul ∈ name ∧ k.perform env (.createFile name directory) = (k, .error .embeddedNull)) ∨
    (nul ∉ name ∧
      ((∃ fault, k.perform env (.createFile name directory) = (k, .error (.os fault))) ∨
      (k.node directory = some .directory ∧ k.node (directory ++ [name]) = none ∧
        k.perform env (.createFile name directory) =
          (⟨withFile k.node (directory ++ [name]) [],
            Function.update k.offset (directory ++ [name]) 0⟩, .ok (directory ++ [name]))))) := by
  rcases k.named_cases env name directory _ with h | ⟨hnul, h | ⟨path, hpath, h⟩⟩
  · exact Or.inl h
  · exact Or.inr ⟨hnul, Or.inl h⟩
  · obtain ⟨hdirectory, rfl⟩ := k.locate_entry hname hpath
    refine Or.inr ⟨hnul, ?_⟩
    cases hnode : k.node (directory ++ [name]) with
    | some node =>
        rw [hnode] at h
        exact Or.inl ⟨.fileExists, h⟩
    | none =>
        rw [hnode] at h
        exact Or.inr ⟨hdirectory, rfl, h⟩

end Entry

/-! ## The walk -/

/-- A call that names something: the calls stay clean exactly when there is no NUL. -/
theorem clean_named {op : Operation} {name : PyText} (hop : op.name? = some name)
    {mine : List Event} (hmine : Clean mine) (reply : Except Raised (Answer op)) :
    Clean (mine ++ [⟨op, reply⟩]) ↔ nul ∉ name := by
  rw [clean_snoc, harmless_named hop]
  exact and_iff_right hmine

theorem openParent_spec {part : PyText} {directory : Path} (hname : IsEntryName part)
    {k : Kernel} {mine : List Event} (hmine : Clean mine) :
    Ensures Kernel.perform (fun k' later ending =>
      k'.node = k.node ∧ (Clean later ↔ ending ≠ .error .embeddedNull) ∧
      ∀ next metadata, ending = .ok (next, metadata) →
        next = directory ++ [part] ∧ k.node directory = some .directory ∧
          k.node next = some .directory)
      k mine (openParent part directory).run := by
  unfold openParent
  have hcalls := fun reply => @clean_named (.openDirectory part directory) part rfl mine hmine reply
  refine Prog.ensures_ask ?_ ?_
  · intro env error hreply
    rcases perform_openDirectory hname k env with ⟨hnul, h⟩ | ⟨hnul, ⟨fault, h⟩ | ⟨-, -, h⟩⟩
    · rw [h] at hreply ⊢
      cases hreply
      refine ⟨rfl, ?_, fun _ _ h => nomatch h⟩
      rw [hcalls]
      exact iff_of_false (not_not.mpr hnul) fun h => h rfl
    · rw [h] at hreply ⊢
      cases hreply
      refine ⟨rfl, ?_, fun _ _ h => nomatch h⟩
      rw [hcalls]
      exact iff_of_true hnul fun h => nomatch h
    · rw [h] at hreply
      cases hreply
  · intro env (next : Path) hreply
    rcases perform_openDirectory hname k env with
      ⟨hnul, h⟩ | ⟨hnul, ⟨fault, h⟩ | ⟨hdirectory, hnode, h⟩⟩
    · rw [h] at hreply
      cases hreply
    · rw [h] at hreply
      cases hreply
    · rw [h] at hreply ⊢
      cases hreply
      have hclean := (hcalls (.ok (directory ++ [part]))).mpr hnul
      refine ensures_plain rfl (fun _ _ h => nomatch h) ?_ ?_
      · intro k' later fault hnode' hlater
        exact ⟨hnode', iff_of_true (hlater hclean) fun h => (nomatch h), fun _ _ h => nomatch h⟩
      · intro k' later metadata hnode' hlater
        refine ⟨hnode', iff_of_true (hlater hclean) fun h => (nomatch h), fun next _ h => ?_⟩
        cases h
        exact ⟨rfl, hdirectory, hnode⟩

/-- What entering one parent directory does: it adds at most that directory, and says so. -/
def Entered (root : Path) (nodes : Nodes) (part : PyText) (frame : Frame) (k : Kernel)
    (calls : List Event) (result : Bool × Except Raised (Path × Metadata)) : Prop :=
  Grows root nodes k.node ∧
  (result.1 = false → frame.effectStarted = false ∧ k.node = nodes) ∧
  (Clean calls ↔ result.2 ≠ .error .embeddedNull) ∧
  ∀ next metadata, result.2 = .ok (next, metadata) →
    next = frame.directory ++ [part] ∧ nodes frame.directory = some .directory ∧
      k.node next = some .directory

theorem enterParent_spec {root : Path} {part : PyText} {frame : Frame}
    (hname : IsEntryName part) {k : Kernel} {mine : List Event} (hmine : Clean mine)
    (hbelow : Below root k.node frame.directory) :
    Ensures Kernel.perform (Entered root k.node part frame) k mine
      (enterParent part frame) := by
  have hcalls := fun reply =>
    @clean_named (.mkdir part frame.directory) part rfl mine hmine reply
  intro env
  rcases perform_mkdir hname k env with ⟨hnul, h⟩ | ⟨hnul, ⟨fault, h⟩ | ⟨hdirectory, hnone, h⟩⟩
  · rw [h]
    refine ⟨Grows.refl _ _, fun heffect => ⟨heffect, rfl⟩, ?_, fun _ _ h => nomatch h⟩
    rw [hcalls]
    exact iff_of_false (not_not.mpr hnul) fun h => h rfl
  · rw [h]
    have hclean := (hcalls (.error (.os fault))).mpr hnul
    cases fault with
    | other =>
        exact ⟨Grows.refl _ _, fun heffect => ⟨heffect, rfl⟩,
          iff_of_true hclean fun h => (nomatch h), fun _ _ h => nomatch h⟩
    | fileExists =>
        refine (openParent_spec hname hclean).bind ?_
        rintro k' later opened ⟨hnode, hlater, hopened⟩
        refine ⟨by rw [hnode]; exact Grows.refl _ _, fun heffect => ⟨heffect, hnode⟩, hlater, ?_⟩
        intro next metadata hok
        obtain ⟨h1, h2, h3⟩ := hopened next metadata hok
        exact ⟨h1, h2, by rw [hnode]; exact h3⟩
  · rw [h]
    have hclean := (hcalls (.ok ())).mpr hnul
    obtain ⟨hne, hentry⟩ := hbelow.entry hdirectory part
    refine (openParent_spec hname hclean).bind ?_
    rintro k' later opened ⟨hnode, hlater, hopened⟩
    refine ⟨?_, fun h => (nomatch h), hlater, ?_⟩
    · rw [hnode]
      exact grows_update hnone hne hentry .directory
    · intro next metadata hok
      obtain ⟨h1, -, h3⟩ := hopened next metadata hok
      exact ⟨h1, hdirectory, by rw [hnode]; exact h3⟩

/-- A failed `close` is no clean call, any other is. -/
theorem clean_close {mine : List Event} (hmine : Clean mine) (descriptor : Path)
    (reply : Except Raised Unit) :
    Clean (mine ++ [⟨.close descriptor, reply⟩]) ↔ reply.isOk = true := by
  rw [clean_snoc, harmless_close]
  exact and_iff_right hmine

/-- Closing changes nothing; it fails as injected or returns. -/
theorem perform_close (k : Kernel) (env : Injection) (descriptor : Path) :
    (∃ fault, k.perform env (.close descriptor) = (k, .error (.os fault))) ∨
      k.perform env (.close descriptor) = (k, .ok ()) :=
  k.guarded_cases env (k, .ok ())

/-- What the walk to the parent directory does. -/
def Walked (root : Path) (nodes : Nodes) (parts : List PyText) (frame : Frame) (k : Kernel)
    (calls : List Event) (result : Frame × Ending) : Prop :=
  Grows root nodes k.node ∧
  (result.1.effectStarted = false → frame.effectStarted = false ∧ k.node = nodes) ∧
  (Clean calls ↔ ∃ returned, result.2 = .ok returned) ∧
  (result.2 = .ok none →
    result.1.directory = frame.directory ++ parts ∧ Below root k.node result.1.directory) ∧
  ∀ attempt, result.2 = .ok (some attempt) → attempt.effectStarted = result.1.effectStarted

/-- **The walk.** It only adds directories of its path, each in the one before. -/
theorem walkParents_spec {root : Path} {parts : List PyText}
    (hnames : ∀ part ∈ parts, IsEntryName part) {frame : Frame} {k : Kernel}
    {mine : List Event} (hmine : Clean mine) (hbelow : Below root k.node frame.directory) :
    Ensures Kernel.perform (Walked root k.node parts frame) k mine
      (walkParents parts frame) := by
  induction parts generalizing frame k mine with
  | nil =>
      refine ⟨Grows.refl _ _, fun h => ⟨h, rfl⟩, iff_of_true hmine ⟨_, rfl⟩, fun _ => ?_,
        fun _ h => nomatch h⟩
      exact ⟨(List.append_nil _).symm, hbelow⟩
  | cons part rest ih =>
      refine (enterParent_spec (hnames part List.mem_cons_self) hmine hbelow).bind ?_
      rintro k1 later1 ⟨effect, entered⟩ ⟨hgrows, heffect, hclean, hopened⟩
      cases entered with
      | error error =>
          cases error with
          | os fault =>
              refine ⟨hgrows, heffect, ?_, fun h => (nomatch h), fun attempt h => ?_⟩
              · rw [hclean]
                exact iff_of_true (fun h => nomatch h) ⟨_, rfl⟩
              · cases h
                rfl
          | embeddedNull =>
              refine ⟨hgrows, heffect, ?_, fun h => (nomatch h), fun _ h => nomatch h⟩
              rw [hclean]
              exact iff_of_false (fun h => h rfl) fun ⟨_, h⟩ => nomatch h
      | ok opened =>
          obtain ⟨next, metadata⟩ := opened
          obtain ⟨rfl, hdirectory, hnext⟩ := hopened next metadata rfl
          have hclean1 : Clean later1 := hclean.mpr fun h => nomatch h
          have hentry : Below root k1.node (frame.directory ++ [part]) :=
            (hbelow.of_grows hgrows).entry (hgrows.kept _ _ hdirectory) part |>.2
          -- the rest of the walk, from the directory just opened
          have hrest : ∀ {later : List Event}, Clean later →
              Ensures Kernel.perform (Walked root k.node (part :: rest) frame) k1 later
                (walkParents rest ⟨frame.directory ++ [part], true, effect⟩) := by
            intro later hlater
            refine (ih (fun p hp => hnames p (List.mem_cons_of_mem _ hp)) hlater hentry).imp ?_
            rintro k2 later2 ⟨frame2, ending⟩ ⟨hgrows2, heffect2, hclean2, hreached, hattempt⟩
            refine ⟨hgrows.trans hgrows2, fun h => ?_, hclean2, fun h => ?_, hattempt⟩
            · obtain ⟨h1, h2⟩ := heffect2 h
              obtain ⟨h3, h4⟩ := heffect h1
              exact ⟨h3, h2.trans h4⟩
            · obtain ⟨h1, h2⟩ := hreached h
              refine ⟨?_, h2⟩
              rw [h1]
              exact List.append_assoc _ _ _
          dsimp only
          split
          · refine ⟨hgrows, heffect, iff_of_true hclean1 ⟨_, rfl⟩, fun h => (nomatch h),
              fun attempt h => ?_⟩
            cases h
            rfl
          · split
            · intro env
              rcases perform_close k1 env frame.directory with ⟨fault, h⟩ | h
              · rw [h]
                refine ⟨hgrows, heffect, ?_, fun h => (nomatch h), fun _ h => nomatch h⟩
                refine (clean_close hclean1 _ _).trans ?_
                exact iff_of_false (fun h => nomatch h) fun ⟨_, h⟩ => nomatch h
              · rw [h]
                exact hrest ((clean_close hclean1 _ _).mpr rfl)
            · exact hrest hclean1

/-! ## The file -/

/-- How the creation of a file ends: nothing that existed changes, an exception means a
    harmful call, no attempt means the file holds its bytes, and an attempt without effect
    means that nothing changed. -/
def Created (root : Path) (nodes : Nodes) (target : Path) (encoded : List UInt8)
    (effectBefore : Bool) (k : Kernel) (calls : List Event) (ending : Ending) : Prop :=
  Grows root nodes k.node ∧
  (Clean calls ↔ ∃ returned, ending = .ok returned) ∧
  (ending = .ok none → k.node target = some (.file encoded)) ∧
  ∀ attempt, ending = .ok (some attempt) → attempt.effectStarted = false →
    effectBefore = false ∧ k.node = nodes

theorem createTarget_spec {root : Path} {name : PyText} {frame : Frame} (encoded : List UInt8)
    (expectedDigest : String) (hname : IsEntryName name) {k : Kernel} {mine : List Event}
    (hmine : Clean mine) (hbelow : Below root k.node frame.directory) :
    Ensures Kernel.perform
      (Created root k.node (frame.directory ++ [name]) encoded frame.effectStarted) k mine
      (createTarget name frame encoded expectedDigest) := by
  have hcalls := fun reply =>
    @clean_named (.createFile name frame.directory) name rfl mine hmine reply
  intro env
  rcases perform_createFile hname k env with
    ⟨hnul, h⟩ | ⟨hnul, ⟨fault, h⟩ | ⟨hdirectory, hnone, h⟩⟩
  · rw [h]
    refine ⟨Grows.refl _ _, ?_, fun h => (nomatch h), fun _ h => nomatch h⟩
    rw [hcalls]
    exact iff_of_false (not_not.mpr hnul) fun ⟨_, h⟩ => nomatch h
  · rw [h]
    have hclean := (hcalls (.error (.os fault))).mpr hnul
    cases fault with
    | fileExists =>
        refine ⟨Grows.refl _ _, iff_of_true hclean ⟨_, rfl⟩, fun h => (nomatch h), ?_⟩
        intro attempt hattempt heffect
        cases hattempt
        exact ⟨heffect, rfl⟩
    | other =>
        refine ⟨Grows.refl _ _, iff_of_true hclean ⟨_, rfl⟩, fun h => (nomatch h), ?_⟩
        intro attempt hattempt heffect
        cases hattempt
        exact ⟨heffect, rfl⟩
  · rw [h]
    have hclean := (hcalls (.ok (frame.directory ++ [name]))).mpr hnul
    obtain ⟨hne, hentry⟩ := hbelow.entry hdirectory name
    refine (fillFile_spec encoded expectedDigest (Function.update_self _ _ _)
      (Function.update_self _ _ _) hclean).bind ?_
    rintro k2 later2 filled ⟨hclean2, ⟨bytes, hnode, hall⟩, hstarted, hos⟩
    have hnode' : k2.node = withFile k.node (frame.directory ++ [name]) bytes := by
      rw [hnode, withFile, withFile, withFile, Function.update_idem]
    have hgrows : Grows root k.node k2.node := by
      rw [hnode']
      exact grows_update hnone hne hentry _
    intro env'
    rcases perform_close k2 env' (frame.directory ++ [name]) with ⟨fault, hclose⟩ | hclose
    · rw [hclose]
      refine ⟨hgrows, ?_, fun h => (nomatch h), fun _ h => nomatch h⟩
      exact (clean_close hclean2 _ _).trans
        (iff_of_false (fun h => nomatch h) fun ⟨_, h⟩ => nomatch h)
    · rw [hclose]
      have hclean3 := (clean_close hclean2 (frame.directory ++ [name]) (.ok ())).mpr rfl
      -- an `OSError` of the filling becomes an attempt with effect
      cases filled with
      | error error =>
          obtain ⟨fault, rfl⟩ := hos error rfl
          refine ⟨hgrows, iff_of_true hclean3 ⟨_, rfl⟩, fun h => (nomatch h), ?_⟩
          intro attempt hattempt heffect
          cases hattempt
          cases heffect
      | ok returned =>
          refine ⟨hgrows, iff_of_true hclean3 ⟨_, rfl⟩, fun h => ?_, ?_⟩
          · cases h
            have hbytes : bytes = encoded := hall rfl
            show k2.node _ = _
            rw [hnode', hbytes, withFile, Function.update_self]
          · intro attempt hattempt heffect
            cases hattempt
            rw [hstarted attempt rfl] at heffect
            cases heffect

theorem closeOwned_spec (frame : Frame) {ending : Ending} {k : Kernel} {mine : List Event}
    (hmine : Clean mine ↔ ∃ returned, ending = .ok returned) :
    Ensures Kernel.perform (fun k' later closed => k'.node = k.node ∧
      (Clean later ↔ ∃ returned, closed = .ok returned) ∧
      ∀ returned, closed = .ok returned → closed = ending)
      k mine (closeOwned frame ending) := by
  unfold closeOwned
  split
  · intro env
    rcases perform_close k env frame.directory with ⟨fault, h⟩ | h
    · rw [h]
      refine ⟨rfl, iff_of_false (fun hclean => ?_) fun ⟨_, h⟩ => (nomatch h), fun _ h => nomatch h⟩
      exact nomatch harmless_close.mp (clean_snoc.mp hclean).2
    · rw [h]
      refine ⟨rfl, ?_, fun _ _ => rfl⟩
      rw [← hmine, clean_snoc]
      exact and_iff_left (harmless_close.mpr rfl)
  · exact ⟨rfl, hmine, fun _ _ => rfl⟩

/-- **One file.** -/
theorem createOneFile_spec (root : Path) {parts : List PyText} (hparts : parts ≠ [])
    (hnames : ∀ part ∈ parts, IsEntryName part) (encoded : List UInt8)
    (expectedDigest : String) {k : Kernel} {mine : List Event} (hmine : Clean mine) :
    Ensures Kernel.perform (Created root k.node (root ++ parts) encoded false) k mine
      (createOneFile root parts encoded expectedDigest) := by
  have hroot : Below root k.node root :=
    ⟨List.prefix_rfl, fun q hq hq' hne => absurd (hq'.eq_of_length_le hq.length_le) hne⟩
  refine (walkParents_spec (fun p hp => hnames p (List.dropLast_subset _ hp)) hmine hroot).bind ?_
  rintro k1 later1 ⟨frame, walked⟩ ⟨hgrows, heffect, hclean, hreached, hattempt⟩
  -- closing at the end keeps what was reached before it
  have hclose : ∀ {k' : Kernel} {later : List Event} {ending : Ending},
      Created root k.node (root ++ parts) encoded false k' later ending →
      Ensures Kernel.perform (Created root k.node (root ++ parts) encoded false) k' later
        (closeOwned frame ending) := by
    rintro k' later ending ⟨hgrows', hclean', hcreated, hwithout⟩
    refine (closeOwned_spec frame hclean').imp ?_
    rintro k'' later' closed ⟨hnode, hclean'', hsame⟩
    refine ⟨by rw [hnode]; exact hgrows', hclean'', fun h => ?_, fun attempt h => ?_⟩
    · rw [hnode]
      exact hcreated ((hsame none h).symm.trans h)
    · rw [hnode]
      exact hwithout attempt ((hsame _ h).symm.trans h)
  cases walked with
  | error error => exact hclose ⟨hgrows, hclean, fun h => (nomatch h), fun _ h => nomatch h⟩
  | ok returned =>
      cases returned with
      | some attempt =>
          refine hclose ⟨hgrows, hclean, fun h => (nomatch h), fun attempt' h hwithout => ?_⟩
          cases h
          exact heffect ((hattempt attempt rfl).symm.trans hwithout)
      | none =>
          obtain ⟨hdirectory, hbelow⟩ := hreached rfl
          have hlast : parts.getLastD [] = parts.getLast hparts := by
            rw [List.getLastD_eq_getLast?, List.getLast?_eq_some_getLast hparts]
            rfl
          have htarget : frame.directory ++ [parts.getLastD []] = root ++ parts := by
            rw [hdirectory, List.append_assoc, hlast, List.dropLast_append_getLast]
          have hentry : IsEntryName (parts.getLastD []) := by
            rw [hlast]
            exact hnames _ (List.getLast_mem hparts)
          refine (createTarget_spec encoded expectedDigest hentry (hclean.mpr ⟨_, rfl⟩)
            hbelow).bind ?_
          rintro k2 later2 ending ⟨hgrows2, hclean2, hcreated, hwithout⟩
          rw [htarget] at hcreated
          refine hclose ⟨hgrows.trans hgrows2, hclean2, hcreated, fun attempt h h' => ?_⟩
          obtain ⟨h1, h2⟩ := hwithout attempt h h'
          obtain ⟨-, h3⟩ := heffect h1
          exact ⟨rfl, h2.trans h3⟩

end Eag.GovernedFileConstruction
