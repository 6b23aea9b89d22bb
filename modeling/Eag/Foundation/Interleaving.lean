/-
  Eag.Foundation.Interleaving

  Sequential programs whose only shared effects are atomic operations, and runs
  that interleave any number of them over one shared state. A run is given by a
  schedule: which program takes its next operation, and what the environment
  does to that operation.

  The history of a run lists the operations in the order they took effect. The
  operations of one program, in history order, are a path of that program
  (`Config.path_run`), and a property of the shared state and the history that one
  operation keeps holds after every run (`Config.run_shared`).

  Over every environment: `Prog.Meets` and `Prog.Follows` say what holds of each
  operation and of the result, given the operations before or what they come to;
  `Prog.Ensures` is the weakest-precondition reading of a program run alone.
-/

import Mathlib.Data.List.Induction
import Mathlib.Logic.Function.Basic

namespace Eag.Foundation

/-! ## Programs -/

/-- A program over the operations `Op`, each answered with its own kind of reply. -/
inductive Prog (Op : Type) (Reply : Op → Type) (α : Type) where
  | ret (a : α)
  | call (op : Op) (next : Reply op → Prog Op Reply α)

namespace Prog

variable {Op : Type} {Reply : Op → Type} {α β : Type}

/-- Run one program, then the one its result selects. -/
def bind : Prog Op Reply α → (α → Prog Op Reply β) → Prog Op Reply β
  | ret a, f => f a
  | call op next, f => call op fun reply => (next reply).bind f

/-- The program that performs one operation and returns its reply. -/
def perform (op : Op) : Prog Op Reply (Reply op) := call op ret

instance : Monad (Prog Op Reply) where
  pure := ret
  bind := bind

@[simp] theorem pure_eq (a : α) : (pure a : Prog Op Reply α) = ret a := rfl

@[simp] theorem ret_bind (a : α) (f : α → Prog Op Reply β) : (ret a >>= f) = f a := rfl

@[simp] theorem call_bind (op : Op) (next : Reply op → Prog Op Reply α)
    (f : α → Prog Op Reply β) : (call op next >>= f) = call op fun r => next r >>= f := rfl

@[simp] theorem perform_bind (op : Op) (f : Reply op → Prog Op Reply β) :
    (perform op >>= f) = call op f := rfl

theorem id_bind (p : Prog Op Reply α) : p.bind (fun a => ret (id a)) = p := by
  induction p with
  | ret a => rfl
  | call op next ih => exact congrArg (call op) (funext ih)

theorem bind_bind {γ : Type} (p : Prog Op Reply α) (f : α → Prog Op Reply β)
    (g : β → Prog Op Reply γ) : (p.bind f).bind g = p.bind fun a => (f a).bind g := by
  induction p with
  | ret a => rfl
  | call op next ih => exact congrArg (call op) (funext ih)

instance : LawfulMonad (Prog Op Reply) := LawfulMonad.mk' _ id_bind (fun _ _ => rfl) bind_bind

/-- `Path p h q`: after the operations `h`, answered as they are in `h`, the
    program `p` has become `q`. -/
inductive Path : Prog Op Reply α → List (Sigma Reply) → Prog Op Reply α → Prop where
  | refl (p : Prog Op Reply α) : Path p [] p
  | step {op : Op} {next : Reply op → Prog Op Reply α} {reply : Reply op}
      {h : List (Sigma Reply)} {q : Prog Op Reply α} :
      Path (next reply) h q → Path (call op next) (⟨op, reply⟩ :: h) q

theorem path_ret {a : α} {h : List (Sigma Reply)} {q : Prog Op Reply α}
    (p : Path (ret a) h q) : h = [] ∧ q = ret a := by
  cases p; exact ⟨rfl, rfl⟩

theorem path_call {op : Op} {next : Reply op → Prog Op Reply α} {h : List (Sigma Reply)}
    {q : Prog Op Reply α} (p : Path (call op next) h q) :
    (h = [] ∧ q = call op next) ∨
      ∃ reply rest, h = ⟨op, reply⟩ :: rest ∧ Path (next reply) rest q := by
  cases p with
  | refl => exact Or.inl ⟨rfl, rfl⟩
  | step p => exact Or.inr ⟨_, _, rfl, p⟩

theorem Path.trans {p q r : Prog Op Reply α} {h k : List (Sigma Reply)} (hp : Path p h q)
    (hq : Path q k r) : Path p (h ++ k) r := by
  induction hp with
  | refl => exact hq
  | step _ ih => exact .step (ih hq)

/-- A path can be cut after any of its operations. -/
theorem Path.split {p r : Prog Op Reply α} {h k : List (Sigma Reply)}
    (hp : Path p (h ++ k) r) : ∃ q, Path p h q ∧ Path q k r := by
  induction h generalizing p with
  | nil => exact ⟨p, .refl p, hp⟩
  | cons e h ih =>
      cases hp with
      | step hp =>
          obtain ⟨q, h1, h2⟩ := ih hp
          exact ⟨q, .step h1, h2⟩

/-- The operations determine what the program has become. -/
theorem Path.eq {p q r : Prog Op Reply α} {h : List (Sigma Reply)} (hq : Path p h q)
    (hr : Path p h r) : q = r := by
  induction hq with
  | refl p =>
      cases hr
      rfl
  | step _ ih =>
      cases hr with
      | step hr => exact ih hr

/-- A program ends at one place of a sequence of operations. -/
theorem Path.ret_eq {p : Prog Op Reply α} {h k later : List (Sigma Reply)} {a b : α}
    (hp : Path p h (ret a)) (kp : Path p k (ret b)) (hh : h <+: later) (hk : k <+: later) :
    a = b := by
  have hends : ∀ {h k : List (Sigma Reply)} {a b : α}, Path p h (ret a) → Path p k (ret b) →
      h <+: k → a = b := by
    rintro h _ a b hp kp ⟨rest, rfl⟩
    obtain ⟨q, hq, hrest⟩ := kp.split
    rw [← hp.eq hq] at hrest
    exact (ret.inj (path_ret hrest).2).symm
  rcases List.prefix_or_prefix_of_prefix hh hk with hle | hle
  · exact hends hp kp hle
  · exact (hends kp hp hle).symm

/-- A path of two programs in sequence stops inside the first, or has run the
    first to its end. -/
theorem Path.bind_cases {p : Prog Op Reply α} {f : α → Prog Op Reply β}
    {h : List (Sigma Reply)} {q : Prog Op Reply β} (hp : Path (p >>= f) h q) :
    (∃ q', Path p h q' ∧ q = (q' >>= f)) ∨
      ∃ h1 h2 a, h = h1 ++ h2 ∧ Path p h1 (ret a) ∧ Path (f a) h2 q := by
  induction p generalizing h with
  | ret a => exact Or.inr ⟨[], h, a, rfl, .refl _, hp⟩
  | call op next ih =>
      rcases path_call hp with ⟨rfl, rfl⟩ | ⟨reply, rest, rfl, hrest⟩
      · exact Or.inl ⟨_, .refl _, rfl⟩
      · rcases ih reply hrest with ⟨q', hq', rfl⟩ | ⟨h1, h2, a, rfl, h3, h4⟩
        · exact Or.inl ⟨q', .step hq', rfl⟩
        · exact Or.inr ⟨⟨op, reply⟩ :: h1, h2, a, rfl, .step h3, h4⟩

/-- A path of a program whose result is wrapped is a path of the program. -/
theorem Path.of_map {p : Prog Op Reply α} {g : α → β} {h : List (Sigma Reply)}
    {q : Prog Op Reply β} (hp : Path (p >>= fun a => ret (g a)) h q) :
    ∃ q', Path p h q' ∧ q = (q' >>= fun a => ret (g a)) := by
  rcases hp.bind_cases with h1 | ⟨h1, h2, a, rfl, h3, h4⟩
  · exact h1
  · obtain ⟨rfl, rfl⟩ := path_ret h4
    exact ⟨ret a, by rwa [List.append_nil], rfl⟩

theorem map_eq_ret {p : Prog Op Reply α} {g : α → β} {b : β}
    (h : (p >>= fun a => ret (g a)) = ret b) : ∃ a, p = ret a ∧ g a = b := by
  cases p with
  | ret a => exact ⟨a, rfl, by simpa using h⟩
  | call op next => cases h

/-- Every operation of the program satisfies `Q` and its result satisfies `R`, given the
    operations that the program performed before. -/
def Meets (Q : List (Sigma Reply) → Sigma Reply → Prop) (R : List (Sigma Reply) → α → Prop) :
    List (Sigma Reply) → Prog Op Reply α → Prop
  | mine, ret a => R mine a
  | mine, call op next =>
      ∀ reply, Q mine ⟨op, reply⟩ ∧ (next reply).Meets Q R (mine ++ [⟨op, reply⟩])

section Meets

variable {Q : List (Sigma Reply) → Sigma Reply → Prop} {mine : List (Sigma Reply)}

/-- **Sequence rule.** -/
theorem Meets.bind {R : List (Sigma Reply) → α → Prop} {S : List (Sigma Reply) → β → Prop}
    {p : Prog Op Reply α} {f : α → Prog Op Reply β} (hp : p.Meets Q R mine)
    (hf : ∀ later a, R later a → (f a).Meets Q S later) : (p >>= f).Meets Q S mine := by
  induction p generalizing mine with
  | ret a => exact hf mine a hp
  | call op next ih => exact fun reply => ⟨(hp reply).1, ih reply (hp reply).2⟩

theorem Meets.imp {R S : List (Sigma Reply) → α → Prop} {p : Prog Op Reply α}
    (hp : p.Meets Q R mine) (himp : ∀ later a, R later a → S later a) : p.Meets Q S mine := by
  induction p generalizing mine with
  | ret a => exact himp mine a hp
  | call op next ih => exact fun reply => ⟨(hp reply).1, ih reply (hp reply).2⟩

/-- Two readings of one program. -/
theorem Meets.and {R S : List (Sigma Reply) → α → Prop} {p : Prog Op Reply α}
    (hR : p.Meets Q R mine) (hS : p.Meets (fun _ _ => True) S mine) :
    p.Meets Q (fun later a => R later a ∧ S later a) mine := by
  induction p generalizing mine with
  | ret a => exact ⟨hR, hS⟩
  | call op next ih => exact fun reply => ⟨(hR reply).1, ih reply (hR reply).2 (hS reply).2⟩

/-- A program only adds to the operations performed before. -/
theorem meets_prefix (p : Prog Op Reply α) :
    p.Meets (fun _ _ => True) (fun later _ => mine <+: later) mine := by
  induction p generalizing mine with
  | ret a => exact List.prefix_refl mine
  | call op next ih =>
      intro reply
      refine ⟨trivial, (ih reply).imp fun later _ h => ?_⟩
      exact (List.prefix_append mine _).trans h

/-- The operations of a program are a path to its result. -/
theorem meets_path {whole p : Prog Op Reply α} (hpath : Path whole mine p) :
    p.Meets (fun _ _ => True) (fun later a => Path whole later (ret a)) mine := by
  induction p generalizing mine with
  | ret a => exact hpath
  | call op next ih =>
      intro reply
      exact ⟨trivial, ih reply (hpath.trans (.step (.refl _)))⟩

/-- What a program meets holds along each of its paths. -/
theorem Meets.path {R : List (Sigma Reply) → α → Prop} {p q : Prog Op Reply α}
    {h : List (Sigma Reply)} (hp : p.Meets Q R mine) (hpath : Path p h q) :
    q.Meets Q R (mine ++ h) := by
  induction hpath generalizing mine with
  | refl => rwa [List.append_nil]
  | step _ ih =>
      rw [List.append_cons]
      exact ih (hp _).2

/-- The operations along a path, each after those before it. -/
theorem Meets.operation {R : List (Sigma Reply) → α → Prop} {p q : Prog Op Reply α}
    {h : List (Sigma Reply)} {e : Sigma Reply} (hp : p.Meets Q R mine)
    (hpath : Path p (h ++ [e]) q) : Q (mine ++ h) e := by
  obtain ⟨middle, hbefore, hlast⟩ := hpath.split
  have hmiddle := hp.path hbefore
  cases hlast with
  | step _ => exact (hmiddle _).1

end Meets

/-! ## Programs that can fail -/

/-- Programs whose operations answer or fail, and which fail with them. -/
abbrev Fallible (ε Op : Type) (Answer : Op → Type) (α : Type) : Type :=
  ExceptT ε (Prog Op fun op => Except ε (Answer op)) α

section Fallible

variable {ε : Type} {Answer : Op → Type}

/-- Perform one operation. -/
def ask (op : Op) : Fallible ε Op Answer (Answer op) := ExceptT.mk (perform op)

variable {Q : List (Σ op, Except ε (Answer op)) → (Σ op, Except ε (Answer op)) → Prop}
  {mine : List (Σ op, Except ε (Answer op))}
  {R : List (Σ op, Except ε (Answer op)) → Except ε β → Prop}

theorem meets_ask {op : Op} {f : Answer op → Fallible ε Op Answer β}
    (herror : ∀ error, Q mine ⟨op, .error error⟩ ∧
      R (mine ++ [⟨op, .error error⟩]) (.error error))
    (hok : ∀ answer, Q mine ⟨op, .ok answer⟩ ∧
      (f answer).run.Meets Q R (mine ++ [⟨op, .ok answer⟩])) :
    (ask op >>= f).run.Meets Q R mine := by
  intro reply
  cases reply with
  | error error => exact herror error
  | ok answer => exact hok answer

/-- **Sequence rule**, for programs that can fail. -/
theorem meets_bind {S : List (Σ op, Except ε (Answer op)) → Except ε α → Prop}
    {x : Fallible ε Op Answer α} {f : α → Fallible ε Op Answer β} (hx : x.run.Meets Q S mine)
    (herror : ∀ later error, S later (.error error) → R later (.error error))
    (hok : ∀ later a, S later (.ok a) → (f a).run.Meets Q R later) :
    (x >>= f).run.Meets Q R mine := by
  refine Meets.bind (p := x.run) hx fun later result hresult => ?_
  cases result with
  | error error => exact herror later error hresult
  | ok a => exact hok later a hresult

/-- `try`: what comes of a program, as a value. -/
def attempt (x : Fallible ε Op Answer α) : Fallible ε Op Answer (Except ε α) :=
  ExceptT.mk (x.run >>= fun outcome => ret (.ok outcome))

/-! ## Programs that keep a state when they fail -/

/-- A program over a state that is still there when it has failed. -/
abbrev Stateful (ε σ Op : Type) (Answer : Op → Type) (α : Type) : Type :=
  ExceptT ε (StateT σ (Prog Op fun op => Except ε (Answer op))) α

variable {σ : Type}

/-- A program that does not touch the state. -/
def keep (x : Fallible ε Op Answer α) : Stateful ε σ Op Answer α := ExceptT.mk (StateT.lift x.run)

/-- The program from a state: its outcome, and the state that it leaves. -/
def startedIn (x : Stateful ε σ Op Answer α) (s : σ) : Fallible ε Op Answer (Except ε α × σ) :=
  ExceptT.mk (x.run.run s >>= fun outcome => ret (.ok outcome))

end Fallible

/-! ## What the operations come to -/

section Follows

variable {τ : Type} (after : τ → Sigma Reply → τ) (Q : τ → Op → Prop)

/-- Every operation satisfies `Q` and the result satisfies `R`, given what the operations before
    come to. -/
def Follows (R : τ → α → Prop) : τ → Prog Op Reply α → Prop
  | t, ret a => R t a
  | t, call op next => Q t op ∧ ∀ reply, Follows R (after t ⟨op, reply⟩) (next reply)

variable {after Q}

theorem follows_ret {R : τ → α → Prop} {a : α} {t : τ} (h : R t a) :
    (ret a : Prog Op Reply α).Follows after Q R t := h

/-- **Sequence rule.** -/
theorem follows_bind {R : τ → β → Prop} {p : Prog Op Reply α} {f : α → Prog Op Reply β} {t : τ}
    (hp : p.Follows after Q (fun t' a => (f a).Follows after Q R t') t) :
    (p >>= f).Follows after Q R t := by
  induction p generalizing t with
  | ret a => exact hp
  | call op next ih => exact ⟨hp.1, fun reply => ih reply (hp.2 reply)⟩

theorem Follows.imp {R S : τ → α → Prop} {p : Prog Op Reply α} {t : τ}
    (hp : p.Follows after Q R t) (himp : ∀ t' a, R t' a → S t' a) : p.Follows after Q S t := by
  induction p generalizing t with
  | ret a => exact himp t a hp
  | call op next ih => exact ⟨hp.1, fun reply => ih reply (hp.2 reply)⟩

/-- What holds given a summary of the operations before holds given these operations. -/
theorem Follows.meets {R : τ → α → Prop} {p : Prog Op Reply α} {t : τ}
    {Q' : List (Sigma Reply) → Sigma Reply → Prop} {R' : List (Sigma Reply) → α → Prop}
    {mine : List (Sigma Reply)} (hp : p.Follows after Q R (mine.foldl after t))
    (hQ : ∀ mine e, Q (mine.foldl after t) e.1 → Q' mine e)
    (hR : ∀ later a, R (later.foldl after t) a → R' later a) : p.Meets Q' R' mine := by
  induction p generalizing mine with
  | ret a => exact hR mine a hp
  | call op next ih =>
      refine fun reply => ⟨hQ _ _ hp.1, ih reply ?_⟩
      rw [List.foldl_append]
      exact hp.2 reply

end Follows

section Fallible

variable {ε σ τ : Type} {Answer : Op → Type}
  {after : τ → (Σ op, Except ε (Answer op)) → τ} {Q : τ → Op → Prop} {t : τ}

/-- What is asked of the outcome of the first of two programs. -/
def Continues (after : τ → (Σ op, Except ε (Answer op)) → τ) (Q : τ → Op → Prop)
    (R : τ → Except ε β → Prop) (f : α → Fallible ε Op Answer β) (t : τ) : Except ε α → Prop
  | .error error => R t (.error error)
  | .ok a => (f a).run.Follows after Q R t

/-- **Sequence rule**, for programs that can fail. -/
theorem follows_then {R : τ → Except ε β → Prop} {x : Fallible ε Op Answer α}
    {f : α → Fallible ε Op Answer β}
    (hx : x.run.Follows after Q (Continues after Q R f) t) :
    (x >>= f).run.Follows after Q R t := by
  refine follows_bind (p := x.run) (hx.imp fun t' outcome h => ?_)
  cases outcome <;> exact h

theorem follows_ask {R : τ → Except ε β → Prop} {op : Op} {f : Answer op → Fallible ε Op Answer β}
    (hop : Q t op) (herror : ∀ error, R (after t ⟨op, .error error⟩) (.error error))
    (hok : ∀ answer, (f answer).run.Follows after Q R (after t ⟨op, .ok answer⟩)) :
    (ask op >>= f).run.Follows after Q R t :=
  follows_then ⟨hop, fun reply => by cases reply; exacts [herror _, hok _]⟩

theorem follows_attempt {R : τ → Except ε β → Prop} {x : Fallible ε Op Answer α}
    {f : Except ε α → Fallible ε Op Answer β}
    (hx : x.run.Follows after Q (fun t' outcome => (f outcome).run.Follows after Q R t') t) :
    (attempt x >>= f).run.Follows after Q R t :=
  follows_then (follows_bind (p := x.run) hx)

/-- A program over a state follows: its outcome and the state that it leaves satisfy `T`. -/
def FollowsFrom (after : τ → (Σ op, Except ε (Answer op)) → τ) (Q : τ → Op → Prop)
    (T : τ → Except ε α → σ → Prop) (t : τ) (s : σ) (x : Stateful ε σ Op Answer α) : Prop :=
  (x.run.run s).Follows after Q (fun t' outcome => T t' outcome.1 outcome.2) t

/-- What is asked of the outcome of a program that does not touch the state. -/
def ContinuesFrom (after : τ → (Σ op, Except ε (Answer op)) → τ) (Q : τ → Op → Prop)
    (T : τ → Except ε β → σ → Prop) (s : σ) (f : α → Stateful ε σ Op Answer β) (t : τ) :
    Except ε α → Prop
  | .error error => T t (.error error) s
  | .ok a => FollowsFrom after Q T t s (f a)

theorem followsFrom_keep {T : τ → Except ε β → σ → Prop} {s : σ} {x : Fallible ε Op Answer α}
    {f : α → Stateful ε σ Op Answer β}
    (hx : x.run.Follows after Q (ContinuesFrom after Q T s f) t) :
    FollowsFrom after Q T t s (keep x >>= f) := by
  refine follows_bind (p := x.run >>= fun outcome => ret (outcome, s))
    (follows_bind (hx.imp fun t' outcome h => ?_))
  cases outcome <;> exact h

theorem followsFrom_get {T : τ → Except ε β → σ → Prop} {s : σ}
    {f : σ → Stateful ε σ Op Answer β} (h : FollowsFrom after Q T t s (f s)) :
    FollowsFrom after Q T t s (get >>= f) := h

theorem followsFrom_modify {T : τ → Except ε β → σ → Prop} {s : σ} {g : σ → σ}
    {f : PUnit → Stateful ε σ Op Answer β} (h : FollowsFrom after Q T t (g s) (f ⟨⟩)) :
    FollowsFrom after Q T t s (modify g >>= f) := h

theorem follows_startedIn {R : τ → Except ε β → Prop} {s : σ} {x : Stateful ε σ Op Answer α}
    {f : Except ε α × σ → Fallible ε Op Answer β}
    (hx : FollowsFrom after Q
      (fun t' outcome s' => (f (outcome, s')).run.Follows after Q R t') t s x) :
    (startedIn x s >>= f).run.Follows after Q R t :=
  follows_then (follows_bind (p := x.run.run s) hx)

end Fallible

end Prog

/-! ## Runs -/

section Runs

variable {ι σ Env Op α : Type} {Reply : Op → Type}

/-- The programs in flight, the shared state, and what has happened so far. -/
structure Config (ι σ Op : Type) (Reply : Op → Type) (α : Type) where
  shared : σ
  progs : ι → Prog Op Reply α
  history : List (ι × Sigma Reply)

/-- The operations of one program, in history order. -/
def projection [DecidableEq ι] (i : ι) (h : List (ι × Sigma Reply)) : List (Sigma Reply) :=
  h.filterMap fun e => if e.1 = i then some e.2 else none

variable [DecidableEq ι]

@[simp] theorem projection_nil (i : ι) :
    projection i ([] : List (ι × Sigma Reply)) = [] := rfl

theorem projection_append (i : ι) (h k : List (ι × Sigma Reply)) :
    projection i (h ++ k) = projection i h ++ projection i k :=
  List.filterMap_append

@[simp] theorem projection_singleton_self (i : ι) (e : Sigma Reply) :
    projection i [(i, e)] = [e] := by
  simp [projection]

theorem projection_singleton_of_ne {i j : ι} (h : j ≠ i) (e : Sigma Reply) :
    projection i [(j, e)] = [] := by
  simp [projection, h]

theorem mem_projection {i : ι} {h : List (ι × Sigma Reply)} {e : Sigma Reply} :
    e ∈ projection i h ↔ (i, e) ∈ h := by
  simp only [projection, List.mem_filterMap]
  constructor
  · rintro ⟨⟨j, e'⟩, hm, he⟩
    simp only [Option.ite_none_right_eq_some, Option.some.injEq] at he
    obtain ⟨rfl, rfl⟩ := he
    exact hm
  · intro hm
    exact ⟨(i, e), hm, by simp⟩

/-- Counting one program's entries in the history is counting in its projection. -/
theorem countP_projection (i : ι) (p : Sigma Reply → Bool) (h : List (ι × Sigma Reply)) :
    (projection i h).countP p = h.countP fun e => decide (e.1 = i) && p e.2 := by
  induction h with
  | nil => rfl
  | cons e h ih =>
      have hcons : projection i (e :: h) = projection i [e] ++ projection i h :=
        projection_append i [e] h
      rw [hcons, List.countP_append, ih, List.countP_cons]
      by_cases hi : e.1 = i
      · subst hi
        rw [projection_singleton_self, List.countP_singleton]
        simp [Nat.add_comm]
      · rw [projection_singleton_of_ne hi]
        simp [hi]

variable (perform : σ → Env → (op : Op) → σ × Reply op)

/-- One scheduled step: program `i` takes its next operation under `env`. A
    program that has returned does nothing. -/
def Config.step (c : Config ι σ Op Reply α) (choice : ι × Env) : Config ι σ Op Reply α :=
  match c.progs choice.1 with
  | .ret _ => c
  | .call op next =>
      let result := perform c.shared choice.2 op
      { shared := result.1
        progs := Function.update c.progs choice.1 (next result.2)
        history := c.history ++ [(choice.1, ⟨op, result.2⟩)] }

/-- The configuration before anything ran. -/
def Config.start (shared : σ) (progs : ι → Prog Op Reply α) : Config ι σ Op Reply α :=
  ⟨shared, progs, []⟩

/-- A whole run. -/
def Config.run (c : Config ι σ Op Reply α) (schedule : List (ι × Env)) :
    Config ι σ Op Reply α :=
  schedule.foldl (Config.step perform) c

theorem Config.run_induction {P : Config ι σ Op Reply α → Prop}
    (hstep : ∀ c choice, P c → P (c.step perform choice)) (schedule : List (ι × Env))
    {c : Config ι σ Op Reply α} (h : P c) : P (c.run perform schedule) := by
  induction schedule generalizing c with
  | nil => exact h
  | cons choice schedule ih => exact ih (hstep c choice h)

/-- **Each program only sees its own operations.** -/
theorem Config.path_run (shared : σ) (progs : ι → Prog Op Reply α)
    (schedule : List (ι × Env)) (i : ι) :
    let final := (Config.start shared progs).run perform schedule
    (progs i).Path (projection i final.history) (final.progs i) := by
  refine Config.run_induction perform
    (P := fun c => (progs i).Path (projection i c.history) (c.progs i))
    ?_ schedule (.refl _)
  intro c choice h
  cases hp : c.progs choice.1 with
  | ret a => simpa [Config.step, hp] using h
  | call op next =>
      simp only [Config.step, hp, projection_append]
      by_cases hi : choice.1 = i
      · subst hi
        rw [projection_singleton_self, Function.update_self]
        rw [hp] at h
        exact h.trans (.step (.refl _))
      · rw [projection_singleton_of_ne hi, List.append_nil,
          Function.update_of_ne (fun h => hi h.symm)]
        exact h

/-- The operations before an entry, and the entry itself, are a path of its own
    program. -/
theorem Config.path_run_prefix (shared : σ) (progs : ι → Prog Op Reply α)
    (schedule : List (ι × Env)) {before after : List (ι × Sigma Reply)} {i : ι}
    {e : Sigma Reply}
    (h : ((Config.start shared progs).run perform schedule).history =
      before ++ (i, e) :: after) :
    ∃ q, (progs i).Path (projection i before ++ [e]) q := by
  have hp := Config.path_run perform shared progs schedule i
  simp only [h] at hp
  rw [List.append_cons before (i, e) after, projection_append, projection_append,
    projection_singleton_self] at hp
  obtain ⟨q, hq, -⟩ := hp.split
  exact ⟨q, hq⟩

/-- **Invariants of the shared state and the history.** -/
theorem Config.run_shared {P : σ → List (ι × Sigma Reply) → Prop} {shared : σ}
    (h0 : P shared []) (progs : ι → Prog Op Reply α)
    (hstep : ∀ s h i env op, P s h →
      P (perform s env op).1 (h ++ [(i, ⟨op, (perform s env op).2⟩)]))
    (schedule : List (ι × Env)) :
    let final := (Config.start shared progs).run perform schedule
    P final.shared final.history := by
  refine Config.run_induction perform (P := fun c => P c.shared c.history) ?_ schedule h0
  intro c choice h
  cases hp : c.progs choice.1 with
  | ret a => simpa [Config.step, hp] using h
  | call op next => simpa only [Config.step, hp] using hstep _ _ _ _ _ h

/-- **What the programs meet holds of every operation of a run.** -/
theorem Config.run_meets {Q : ι → List (Sigma Reply) → Sigma Reply → Prop}
    {R : ι → List (Sigma Reply) → α → Prop} (shared : σ) {progs : ι → Prog Op Reply α}
    (hmeets : ∀ i, (progs i).Meets (Q i) (R i) []) (schedule : List (ι × Env))
    {before after : List (ι × Sigma Reply)} {i : ι} {e : Sigma Reply}
    (h : ((Config.start shared progs).run perform schedule).history =
      before ++ (i, e) :: after) :
    Q i (projection i before) e := by
  obtain ⟨q, hpath⟩ := Config.path_run_prefix perform shared progs schedule h
  have hoperation := (hmeets i).operation hpath
  rwa [List.nil_append] at hoperation

/-- One program run alone: the shared state after it, and what is left of it. -/
def Prog.exec (perform : σ → Env → (op : Op) → σ × Reply op) :
    σ → List Env → Prog Op Reply α → σ × Prog Op Reply α
  | s, [], p => (s, p)
  | s, _ :: _, .ret a => (s, .ret a)
  | s, env :: envs, .call op next =>
      Prog.exec perform (perform s env op).1 envs (next (perform s env op).2)

omit [DecidableEq ι] in
theorem Prog.exec_map {β : Type} (g : α → β) (s : σ) (envs : List Env)
    (p : Prog Op Reply α) :
    Prog.exec perform s envs (p >>= fun a => .ret (g a)) =
      ((Prog.exec perform s envs p).1, (Prog.exec perform s envs p).2 >>= fun a => .ret (g a)) := by
  induction envs generalizing s p with
  | nil => rfl
  | cons env envs ih =>
      cases p with
      | ret a => rfl
      | call op next => exact ih _ _

omit [DecidableEq ι] in
/-- An operation that is answered is passed. -/
theorem Prog.exec_ask {ε β : Type} {Answer : Op → Type}
    {perform : σ → Env → (op : Op) → σ × Except ε (Answer op)} {s : σ} {env : Env}
    {envs : List Env} {op : Op} {f : Answer op → Prog.Fallible ε Op Answer β} {answer : Answer op}
    (h : (perform s env op).2 = .ok answer) :
    Prog.exec perform s (env :: envs) (Prog.ask op >>= f).run =
      Prog.exec perform (perform s env op).1 envs (f answer).run := by
  show Prog.exec perform (perform s env op).1 envs
    (ExceptT.bindCont f (perform s env op).2) = _
  rw [h]
  rfl

/-- Steps of one program alone leave the other programs where they are. -/
theorem Config.run_alone (c : Config ι σ Op Reply α) (i : ι) (envs : List Env) :
    (c.run perform (envs.map (i, ·))).shared = (Prog.exec perform c.shared envs (c.progs i)).1 ∧
    (c.run perform (envs.map (i, ·))).progs =
      Function.update c.progs i (Prog.exec perform c.shared envs (c.progs i)).2 := by
  induction envs generalizing c with
  | nil => simp [Config.run, Prog.exec]
  | cons env envs ih =>
      simp only [List.map_cons, Config.run, List.foldl_cons] at ih ⊢
      obtain ⟨hs, hp⟩ := ih (c.step perform (i, env))
      rw [hs, hp]
      cases hc : c.progs i with
      | ret a =>
          have hstep : c.step perform (i, env) = c := by simp [Config.step, hc]
          rw [hstep, hc]
          cases envs <;> exact ⟨rfl, rfl⟩
      | call op next => simp [Config.step, hc, Prog.exec]

/-- Two programs one after the other. -/
theorem Config.run_inTurn (shared : σ) (progs : ι → Prog Op Reply α) {i j : ι} (hij : j ≠ i)
    (xs ys : List Env) :
    let first := Prog.exec perform shared xs (progs i)
    let final := (Config.start shared progs).run perform (xs.map (i, ·) ++ ys.map (j, ·))
    final.progs i = first.2 ∧ final.progs j = (Prog.exec perform first.1 ys (progs j)).2 := by
  intro first final
  obtain ⟨hs, hp⟩ := Config.run_alone perform (Config.start shared progs) i xs
  have hfinal : final = ((Config.start shared progs).run perform (xs.map (i, ·))).run perform
      (ys.map (j, ·)) := List.foldl_append
  obtain ⟨-, hp'⟩ := Config.run_alone perform
    ((Config.start shared progs).run perform (xs.map (i, ·))) j ys
  rw [hfinal, hp', hs, hp]
  refine ⟨?_, ?_⟩
  · rw [Function.update_of_ne hij.symm, Function.update_self]
    rfl
  · rw [Function.update_self, Function.update_of_ne hij]
    rfl

end Runs

/-! ## What some programs see of the others -/

section View

variable {ι σ Env Op α : Type} {Reply : Op → Type} [DecidableEq ι]
  (perform : σ → Env → (op : Op) → σ × Reply op)

/-- A view of the shared state that the operations of the visible programs depend on, and that
    those of the other programs leave alone. -/
structure ViewOf (visible : ι → Bool) (Q : ι → Op → Prop) (View : σ → σ → Prop) : Prop where
  seen : ∀ i op env s t, visible i = true → Q i op → View s t →
    View (perform s env op).1 (perform t env op).1 ∧ (perform s env op).2 = (perform t env op).2
  unseen : ∀ i op env s t, visible i = false → Q i op → View s t → View (perform s env op).1 t

variable {perform}

/-- Every operation of the program is one of `Q`. -/
def Prog.Uses (Q : Op → Prop) (p : Prog Op Reply α) : Prop :=
  ∃ mine, p.Meets (fun _ e => Q e.1) (fun _ _ => True) mine

omit [DecidableEq ι] in
theorem Prog.Uses.next {Q : Op → Prop} {op : Op} {next : Reply op → Prog Op Reply α}
    (h : (Prog.call op next).Uses Q) (reply : Reply op) : Q op ∧ (next reply).Uses Q := by
  obtain ⟨mine, hmeets⟩ := h
  exact ⟨(hmeets reply).1, _, (hmeets reply).2⟩

/-- **Programs do not see what leaves their view alone**: a run and its run without the other
    programs leave the visible programs in the same place. -/
theorem Config.run_visible {visible : ι → Bool} {Q : ι → Op → Prop} {View : σ → σ → Prop}
    (hview : ViewOf perform visible Q View) (schedule : List (ι × Env))
    {c d : Config ι σ Op Reply α} (hshared : View c.shared d.shared)
    (hprogs : ∀ i, visible i = true → c.progs i = d.progs i) (huses : ∀ i, (c.progs i).Uses (Q i))
    {j : ι} (hj : visible j = true) :
    (c.run perform schedule).progs j =
      (d.run perform (schedule.filter fun choice => visible choice.1)).progs j := by
  induction schedule generalizing c d with
  | nil => exact hprogs j hj
  | cons choice schedule ih =>
      obtain ⟨i, env⟩ := choice
      rw [List.filter_cons]
      have hkeep : ∀ op next, c.progs i = .call op next → ∀ k,
          ((c.step perform (i, env)).progs k).Uses (Q k) := by
        intro op next hc k
        simp only [Config.step, hc]
        by_cases hk : k = i
        · subst hk
          rw [Function.update_self]
          exact ((hc ▸ huses k : (Prog.call op next).Uses (Q k)).next _).2
        · rw [Function.update_of_ne hk]
          exact huses k
      cases hi : visible i with
      | true =>
          rw [if_pos rfl]
          show ((c.step perform (i, env)).run perform schedule).progs j =
            ((d.step perform (i, env)).run perform _).progs j
          have hdi := hprogs i hi
          cases hc : c.progs i with
          | ret a =>
              rw [hc] at hdi
              have hcs : c.step perform (i, env) = c := by simp only [Config.step, hc]
              have hds : d.step perform (i, env) = d := by simp only [Config.step, ← hdi]
              rw [hcs, hds]
              exact ih hshared hprogs huses
          | call op next =>
              have hop := ((hc ▸ huses i : (Prog.call op next).Uses (Q i)).next
                (perform c.shared env op).2).1
              obtain ⟨hnext, hreply⟩ := hview.seen i op env _ _ hi hop hshared
              refine ih ?_ ?_ (hkeep op next hc)
              · rw [hc] at hdi
                simp only [Config.step, hc, ← hdi]
                exact hnext
              · intro k hk
                rw [hc] at hdi
                simp only [Config.step, hc, ← hdi, hreply]
                by_cases hki : k = i
                · rw [hki, Function.update_self, Function.update_self]
                · rw [Function.update_of_ne hki, Function.update_of_ne hki]
                  exact hprogs k hk
      | false =>
          rw [if_neg Bool.false_ne_true]
          show ((c.step perform (i, env)).run perform schedule).progs j = _
          cases hc : c.progs i with
          | ret a =>
              have hcs : c.step perform (i, env) = c := by simp only [Config.step, hc]
              rw [hcs]
              exact ih hshared hprogs huses
          | call op next =>
              have hop := ((hc ▸ huses i : (Prog.call op next).Uses (Q i)).next
                (perform c.shared env op).2).1
              refine ih ?_ ?_ (hkeep op next hc)
              · simp only [Config.step, hc]
                exact hview.unseen i op env _ _ hi hop hshared
              · intro k hk
                have hne : k ≠ i := by
                  rintro rfl
                  rw [hi] at hk
                  cases hk
                simp only [Config.step, hc]
                rw [Function.update_of_ne hne]
                exact hprogs k hk

end View

/-! ## Undisturbed operations -/

section Replay

variable {ι σ Op α : Type} {Reply : Op → Type}
  (perform : σ → Unit → (op : Op) → σ × Reply op)

/-- The shared state after the operations of a history. -/
def replay (shared : σ) (h : List (ι × Sigma Reply)) : σ :=
  h.foldl (fun s e => (perform s () e.2.1).1) shared

theorem replay_snoc (shared : σ) (h : List (ι × Sigma Reply)) (e : ι × Sigma Reply) :
    replay perform shared (h ++ [e]) = (perform (replay perform shared h) () e.2.1).1 := by
  simp [replay]

end Replay

/-! ## Facts about every position of a history -/

/-- `Q` holds of every entry and the entries before it. -/
def AtEach {ε : Type} (Q : List ε → ε → Prop) (h : List ε) : Prop :=
  ∀ before e after, h = before ++ e :: after → Q before e

theorem atEach_nil {ε : Type} (Q : List ε → ε → Prop) : AtEach Q [] := by
  intro before e after h
  cases before <;> cases h

theorem AtEach.snoc {ε : Type} {Q : List ε → ε → Prop} {h : List ε} {x : ε}
    (hh : AtEach Q h) (hx : Q h x) : AtEach Q (h ++ [x]) := by
  intro before e after heq
  rcases List.eq_nil_or_concat after with rfl | ⟨after', y, rfl⟩
  · obtain ⟨rfl, he⟩ := List.append_inj' heq rfl
    cases he
    exact hx
  · rw [List.concat_eq_append, ← List.cons_append, ← List.append_assoc] at heq
    obtain ⟨hpre, -⟩ := List.append_inj' heq rfl
    exact hh before e after' hpre

theorem AtEach.of_snoc {ε : Type} {Q : List ε → ε → Prop} {h : List ε} {x : ε}
    (hh : AtEach Q (h ++ [x])) : AtEach Q h ∧ Q h x := by
  refine ⟨fun before e after heq => hh before e (after ++ [x]) ?_, hh h x [] rfl⟩
  rw [heq, List.append_assoc, List.cons_append]

/-- A fact about every position of a history is one about every position of a prefix. -/
theorem AtEach.of_prefix {ε : Type} {Q : List ε → ε → Prop} {earlier h : List ε}
    (hh : AtEach Q h) (hle : earlier <+: h) : AtEach Q earlier := by
  obtain ⟨rest, rfl⟩ := hle
  intro before e after heq
  refine hh before e (after ++ rest) ?_
  rw [heq, List.append_assoc, List.cons_append]

/-- What has no earlier entry of its kind occurs at most once. -/
theorem countP_le_one {ε : Type} {p : ε → Bool} {h : List ε}
    (hfirst : AtEach (fun before e => p e = true → ∀ x ∈ before, p x = false) h) :
    h.countP p ≤ 1 := by
  induction h using List.reverseRecOn with
  | nil => exact Nat.zero_le 1
  | append_singleton h e ih =>
      obtain ⟨hbefore, hlast⟩ := hfirst.of_snoc
      rw [List.countP_append, List.countP_singleton]
      by_cases he : p e = true
      · have hnone : h.countP p = 0 := by
          refine List.countP_eq_zero.mpr fun x hx => ?_
          rw [hlast he x hx]
          exact Bool.false_ne_true
        rewrite [hnone, if_pos he]
        exact Nat.le_refl 1
      · rw [if_neg he]
        exact ih hbefore

/-- Of two different entries, one stands before the other. -/
theorem exists_before {ε : Type} {h : List ε} {x y : ε} (hx : x ∈ h) (hy : y ∈ h) (hne : x ≠ y) :
    (∃ before after, h = before ++ x :: after ∧ y ∈ before) ∨
      ∃ before after, h = before ++ y :: after ∧ x ∈ before := by
  obtain ⟨before, after, rfl⟩ := List.append_of_mem hx
  rcases List.mem_append.mp hy with hy | hy
  · exact Or.inl ⟨before, after, rfl, hy⟩
  · have hafter := (List.mem_cons.mp hy).resolve_left (Ne.symm hne)
    obtain ⟨between, rest, rfl⟩ := List.append_of_mem hafter
    refine Or.inr ⟨before ++ x :: between, rest, ?_, ?_⟩
    · rw [List.append_assoc, List.cons_append]
    · exact List.mem_append_right _ List.mem_cons_self

section Replies

variable {ι σ Op α : Type} {Reply : Op → Type} [DecidableEq ι]
  (perform : σ → Unit → (op : Op) → σ × Reply op)

/-- **The history determines a run**: its operations lead to the shared state, and each reply
    is the one its operation gets there. -/
theorem Config.run_replay (shared : σ) (progs : ι → Prog Op Reply α)
    (schedule : List (ι × Unit)) :
    let final := (Config.start shared progs).run perform schedule
    final.shared = replay perform shared final.history ∧
    AtEach (fun before e => e.2.2 = (perform (replay perform shared before) () e.2.1).2)
      final.history := by
  refine Config.run_shared perform
    (P := fun s h => s = replay perform shared h ∧
      AtEach (fun before e => e.2.2 = (perform (replay perform shared before) () e.2.1).2) h)
    ⟨rfl, atEach_nil _⟩ progs ?_ schedule
  rintro s h i env op ⟨rfl, hreplies⟩
  have hnext := replay_snoc perform shared h
    (i, ⟨op, (perform (replay perform shared h) env op).2⟩)
  exact ⟨hnext.symm, hreplies.snoc rfl⟩

end Replies

section Last

variable {ε : Type} {h : List ε} {x a b c : ε}

theorem concat_eq_one (he : h ++ [x] = [a]) : h = [] ∧ x = a := by
  obtain ⟨rfl, hx⟩ := List.append_inj' (show h ++ [x] = [] ++ [a] from he) rfl
  exact ⟨rfl, by simpa using hx⟩

theorem concat_eq_two (he : h ++ [x] = [a, b]) : h = [a] ∧ x = b := by
  obtain ⟨rfl, hx⟩ := List.append_inj' (show h ++ [x] = [a] ++ [b] from he) rfl
  exact ⟨rfl, by simpa using hx⟩

theorem concat_eq_three (he : h ++ [x] = [a, b, c]) : h = [a, b] ∧ x = c := by
  obtain ⟨rfl, hx⟩ := List.append_inj' (show h ++ [x] = [a, b] ++ [c] from he) rfl
  exact ⟨rfl, by simpa using hx⟩

end Last

/-! ## Runs of one program -/

namespace Prog

variable {σ Env Op α β : Type} {Reply : Op → Type}
  (perform : σ → Env → (op : Op) → σ × Reply op)

/-! ## Whole runs -/

/-- What a whole run leaves: the shared state, the operations with their replies, and the
    value returned. -/
structure Played (σ Op : Type) (Reply : Op → Type) (α : Type) where
  shared : σ
  trace : List (Sigma Reply)
  value : α

/-- Run a program to its end; its operation number `n` meets the environment `envs n`. -/
def play : σ → (Nat → Env) → Prog Op Reply α → Played σ Op Reply α
  | s, _, ret a => ⟨s, [], a⟩
  | s, envs, call op next =>
      let answered := perform s (envs 0) op
      let rest := play answered.1 (fun n => envs (n + 1)) (next answered.2)
      ⟨rest.shared, ⟨op, answered.2⟩ :: rest.trace, rest.value⟩

/-! ## Postconditions -/

/-- Whatever the environment does, the program ends with `Q` of the state, of the
    operations `mine` performed before together with its own, and of its value. -/
def Ensures (Q : σ → List (Sigma Reply) → α → Prop) :
    σ → List (Sigma Reply) → Prog Op Reply α → Prop
  | s, mine, ret a => Q s mine a
  | s, mine, call op next => ∀ env,
      Ensures Q (perform s env op).1 (mine ++ [⟨op, (perform s env op).2⟩])
        (next (perform s env op).2)

variable {perform} {s : σ} {mine : List (Sigma Reply)}

/-- **Sequence rule.** -/
theorem Ensures.bind {Q : σ → List (Sigma Reply) → α → Prop}
    {R : σ → List (Sigma Reply) → β → Prop} {p : Prog Op Reply α} {f : α → Prog Op Reply β}
    (hp : Ensures perform Q s mine p)
    (hf : ∀ s' later a, Q s' later a → Ensures perform R s' later (f a)) :
    Ensures perform R s mine (p >>= f) := by
  induction p generalizing s mine with
  | ret a => exact hf s mine a hp
  | call op next ih =>
      intro env
      exact ih _ (hp env)

theorem Ensures.imp {Q R : σ → List (Sigma Reply) → α → Prop} {p : Prog Op Reply α}
    (hp : Ensures perform Q s mine p) (himp : ∀ s' later a, Q s' later a → R s' later a) :
    Ensures perform R s mine p := by
  induction p generalizing s mine with
  | ret a => exact himp s mine a hp
  | call op next ih =>
      intro env
      exact ih _ (hp env)

/-- **A postcondition holds at the end of every run.** -/
theorem Ensures.play {Q : σ → List (Sigma Reply) → α → Prop} {p : Prog Op Reply α}
    (hp : Ensures perform Q s mine p) (envs : Nat → Env) :
    let final := p.play perform s envs
    Q final.shared (mine ++ final.trace) final.value := by
  induction p generalizing s mine envs with
  | ret a =>
      show Q s (mine ++ []) a
      rw [List.append_nil]
      exact hp
  | call op next ih =>
      have hrest := ih _ (hp (envs 0)) fun n => envs (n + 1)
      simp only [List.append_assoc, List.singleton_append] at hrest
      exact hrest

/-! ## Programs that can fail -/

section Fallible

variable {ε : Type} {Answer : Op → Type}
  {perform : σ → Env → (op : Op) → σ × Except ε (Answer op)}
  {mine : List (Σ op, Except ε (Answer op))}
  {R : σ → List (Σ op, Except ε (Answer op)) → Except ε β → Prop}

theorem ensures_ask {op : Op} {f : Answer op → Fallible ε Op Answer β}
    (herror : ∀ env error, (perform s env op).2 = .error error →
      R (perform s env op).1 (mine ++ [⟨op, .error error⟩]) (.error error))
    (hok : ∀ env answer, (perform s env op).2 = .ok answer →
      Ensures perform R (perform s env op).1 (mine ++ [⟨op, .ok answer⟩]) (f answer).run) :
    Ensures perform R s mine (ask op >>= f).run := by
  intro env
  have herror := herror env
  have hok := hok env
  generalize perform s env op = answered at herror hok
  obtain ⟨s', reply⟩ := answered
  cases reply with
  | error error => exact herror error rfl
  | ok answer => exact hok answer rfl

/-- **Sequence rule**, for programs that can fail. -/
theorem ensures_bind {S : σ → List (Σ op, Except ε (Answer op)) → Except ε α → Prop}
    {x : Fallible ε Op Answer α} {f : α → Fallible ε Op Answer β}
    (hx : Ensures perform S s mine x.run)
    (herror : ∀ s' later error, S s' later (.error error) → R s' later (.error error))
    (hok : ∀ s' later a, S s' later (.ok a) → Ensures perform R s' later (f a).run) :
    Ensures perform R s mine (x >>= f).run := by
  refine Ensures.bind (p := x.run) hx fun s' later result hresult => ?_
  cases result with
  | error error => exact herror s' later error hresult
  | ok a => exact hok s' later a hresult

end Fallible

/-! ## Programs that can fail, in one environment -/

section Settle

variable {ε : Type} {Answer : Op → Type}
  (perform : σ → Env → (op : Op) → σ × Except ε (Answer op)) (env : Env)

/-- What a program returns or raises when every operation meets the same environment, and the
    state it leaves. -/
def settle (s : σ) (p : Fallible ε Op Answer α) : Except ε α × σ :=
  let final := p.run.play perform s fun _ => env
  (final.value, final.shared)

@[simp] theorem settle_pure (s : σ) (a : α) :
    settle perform env s (pure a : Fallible ε Op Answer α) = (.ok a, s) := rfl

@[simp] theorem settle_throw (s : σ) (error : ε) :
    settle perform env s (throw error : Fallible ε Op Answer α) = (.error error, s) := rfl

/-- A result that is there without an operation. -/
@[simp] theorem settle_ret (s : σ) (outcome : Except ε α) :
    settle perform env s (ExceptT.mk (ret outcome) : Fallible ε Op Answer α)
      = (outcome, s) := rfl

@[simp] theorem settle_ask (s : σ) (op : Op) :
    settle perform env s (ask op : Fallible ε Op Answer (Answer op))
      = ((perform s env op).2, (perform s env op).1) := rfl

/-- In one environment, a sequence goes on from what its first part leaves. -/
theorem play_bind {Reply : Op → Type} (perform : σ → Env → (op : Op) → σ × Reply op) (s : σ)
    (p : Prog Op Reply α) (f : α → Prog Op Reply β) :
    let first := p.play perform s fun _ => env
    ((p >>= f).play perform s fun _ => env).shared
        = ((f first.value).play perform first.shared fun _ => env).shared ∧
      ((p >>= f).play perform s fun _ => env).value
        = ((f first.value).play perform first.shared fun _ => env).value := by
  induction p generalizing s with
  | ret a => exact ⟨rfl, rfl⟩
  | call op next ih => exact ih _ _

/-- **Sequence rule.** -/
theorem settle_bind (s : σ) (x : Fallible ε Op Answer α) (f : α → Fallible ε Op Answer β) :
    settle perform env s (x >>= f) =
      match settle perform env s x with
      | (.ok a, s') => settle perform env s' (f a)
      | (.error error, s') => (.error error, s') := by
  unfold settle
  have hplay := play_bind env perform s x.run fun result =>
    match result with
    | .ok a => (f a).run
    | .error error => ret (.error error)
  have hrun : (x >>= f).run = x.run >>= fun result =>
      match result with
      | .ok a => (f a).run
      | .error error => ret (.error error) := by
    show x.run >>= ExceptT.bindCont f = _
    congr 1
    funext result
    cases result <;> rfl
  rw [hrun]
  dsimp only
  dsimp only at hplay
  rw [hplay.1, hplay.2]
  cases (x.run.play perform s fun _ => env).value <;> rfl

end Settle

end Prog

end Eag.Foundation
