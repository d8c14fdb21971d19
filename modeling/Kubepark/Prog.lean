import Mathlib.Data.List.Basic
import Mathlib.Logic.Relation

/-!
# Programs that call an interface

A `Prog Op Resp α` is a finite tree of calls : it returns a value, or makes a call
`op : Op` and goes on with the response. What a call does is left to a handler, a
relation between the call, the state before, the response and the state after; so one
program has a meaning under a faithful server, under a server whose calls may fail, and
under a server that other parties write to in between.

`Exec` is the big-step meaning with the trace of the calls, each with the state it was
made in; `Visits` is an execution that is cut short after some of its calls. `wp H P Q` is
the weakest precondition : every call is made in a state that `P` allows, and every execution
ends in `Q`. It is defined on the tree, and `Exec.wp` reads it off an execution. `Within`
bounds what a program can call and return whatever it is answered. `run` executes a program
against a functional handler.

A `Routine` is a program with a local record that it may update and an error that ends
it early; the record keeps its updates when an error is returned. The postcondition of
`Routine.wp` speaks of the runs that return without error, and `Routine.Frame` says which
calls a routine makes and which part of the record it leaves as it was.
-/

/-- A program that makes calls `op : Op` and receives `Resp op`. -/
inductive Prog (Op : Type) (Resp : Op → Type) (α : Type) : Type
  /-- Return a value. -/
  | pure (a : α)
  /-- Make a call and go on with its response. -/
  | call (op : Op) (next : Resp op → Prog Op Resp α)

namespace Prog

variable {Op : Type} {Resp : Op → Type} {S α β : Type}

/-- Sequential composition. -/
def bind : Prog Op Resp α → (α → Prog Op Resp β) → Prog Op Resp β
  | .pure a, f => f a
  | .call op next, f => .call op fun r => (next r).bind f

/-- The single call `op`. -/
def ask (op : Op) : Prog Op Resp (Resp op) :=
  .call op .pure

/-! ## Executions -/

section Exec

variable (H : (op : Op) → S → Resp op → S → Prop)

/-- `p.Exec H s t a s'` : from `s`, `p` can return `a` in `s'`, having made the calls `t`,
each listed with the state it was made in. -/
def Exec : Prog Op Resp α → S → List (Op × S) → α → S → Prop
  | .pure a, s, t, b, s' => t = [] ∧ b = a ∧ s' = s
  | .call op next, s, t, b, s' =>
    ∃ r s₁ t₁, H op s r s₁ ∧ t = (op, s) :: t₁ ∧ (next r).Exec s₁ t₁ b s'

/-- `p.Visits H s t s'` : an execution of `p` from `s` that is cut short after the calls `t`
leaves the state `s'`. -/
def Visits : Prog Op Resp α → S → List (Op × S) → S → Prop
  | .pure _, s, t, s' => t = [] ∧ s' = s
  | .call op next, s, t, s' => (t = [] ∧ s' = s) ∨
    ∃ r s₁ t₁, H op s r s₁ ∧ t = (op, s) :: t₁ ∧ (next r).Visits s₁ t₁ s'

/-- From `s`, every call is made in a state that `P` allows and every execution ends
in `Q`. -/
def wp (P : Op → S → Prop) : Prog Op Resp α → (α → S → Prop) → S → Prop
  | .pure a, Q, s => Q a s
  | .call op next, Q, s => P op s ∧ ∀ r s', H op s r s' → (next r).wp P Q s'

variable {H} {P : Op → S → Prop}

/-- What the weakest precondition says of an execution. -/
theorem Exec.wp {p : Prog Op Resp α} {Q : α → S → Prop} {s s' : S} {t : List (Op × S)} {a : α}
    (he : p.Exec H s t a s') (h : p.wp H P Q s) : (∀ e ∈ t, P e.1 e.2) ∧ Q a s' := by
  induction p generalizing s t with
  | pure b =>
    obtain ⟨rfl, rfl, rfl⟩ := he
    exact ⟨by simp, h⟩
  | call op next ih =>
    obtain ⟨r, s₁, t₁, hr, rfl, he⟩ := he
    obtain ⟨ht, hQ⟩ := ih r he (h.2 r s₁ hr)
    exact ⟨List.forall_mem_cons.mpr ⟨h.1, ht⟩, hQ⟩

/-- An execution that ends is one that got that far. -/
theorem Exec.visits {p : Prog Op Resp α} {s s' : S} {t : List (Op × S)} {a : α}
    (he : p.Exec H s t a s') : p.Visits H s t s' := by
  induction p generalizing s t with
  | pure b => exact ⟨he.1, he.2.2⟩
  | call op next ih =>
    obtain ⟨r, s₁, t₁, hr, rfl, he⟩ := he
    exact Or.inr ⟨r, s₁, t₁, hr, rfl, ih r he⟩

theorem visits_nil (p : Prog Op Resp α) (s : S) : p.Visits H s [] s := by
  cases p with
  | pure a => exact ⟨rfl, rfl⟩
  | call op next => exact Or.inl ⟨rfl, rfl⟩

/-- What the weakest precondition says of an execution that was cut short. -/
theorem Visits.wp {p : Prog Op Resp α} {Q : α → S → Prop} {s s' : S} {t : List (Op × S)}
    (hv : p.Visits H s t s') (h : p.wp H P Q s) : ∀ e ∈ t, P e.1 e.2 := by
  induction p generalizing s t with
  | pure a =>
    obtain ⟨rfl, -⟩ := hv
    simp
  | call op next ih =>
    rcases hv with ⟨rfl, -⟩ | ⟨r, s₁, t₁, hr, rfl, hv⟩
    · simp
    · exact List.forall_mem_cons.mpr ⟨h.1, ih r hv (h.2 r s₁ hr)⟩

/-- Where every call has an answer, the calls of the executions are all that the weakest
precondition speaks of. -/
theorem wp_of_visits (hH : ∀ op s, ∃ r s', H op s r s') {p : Prog Op Resp α} {s : S}
    (h : ∀ t s', p.Visits H s t s' → ∀ e ∈ t, P e.1 e.2) : p.wp H P (fun _ _ => True) s := by
  induction p generalizing s with
  | pure a => trivial
  | call op next ih =>
    refine ⟨?_, fun r s₁ hr => ih r fun t s' hv e he => ?_⟩
    · obtain ⟨r, s₁, hr⟩ := hH op s
      exact h _ _ (Or.inr ⟨r, s₁, [], hr, rfl, visits_nil _ _⟩) (op, s) (List.mem_singleton_self _)
    · exact h _ _ (Or.inr ⟨r, s₁, t, hr, rfl, hv⟩) e (List.mem_cons_of_mem _ he)

/-- The ends of the executions are all that the weakest precondition speaks of. -/
theorem wp_of_exec {p : Prog Op Resp α} {Q : α → S → Prop} {s : S}
    (h : ∀ t a s', p.Exec H s t a s' → Q a s') : p.wp H (fun _ _ => True) Q s := by
  induction p generalizing s with
  | pure a => exact h _ _ _ ⟨rfl, rfl, rfl⟩
  | call op next ih =>
    exact ⟨trivial, fun r s₁ hr => ih r fun t a s' he => h _ _ _ ⟨r, s₁, t, hr, rfl, he⟩⟩

/-- What holds at every call and at every end holds wherever an execution is cut short. -/
theorem Visits.holds {I : S → Prop} {p : Prog Op Resp α} {Q : α → S → Prop} {s s' : S}
    {t : List (Op × S)} (hv : p.Visits H s t s') (h : p.wp H P Q s) (hP : ∀ op s, P op s → I s)
    (hQ : ∀ a s, Q a s → I s) : I s' := by
  induction p generalizing s t with
  | pure a =>
    obtain ⟨-, rfl⟩ := hv
    exact hQ a s' h
  | call op next ih =>
    rcases hv with ⟨-, rfl⟩ | ⟨r, s₁, t₁, hr, rfl, hv⟩
    · exact hP op s' h.1
    · exact ih r hv (h.2 r s₁ hr)

/-- What the calls of an execution preserve holds wherever it is cut short. -/
theorem Visits.preserves {I : S → Prop} {p : Prog Op Resp α} {s s' : S} {t : List (Op × S)}
    (hv : p.Visits H s t s') (ht : ∀ e ∈ t, P e.1 e.2)
    (hI : ∀ op s r s', P op s → H op s r s' → I s → I s') (hs : I s) : I s' := by
  induction p generalizing s t with
  | pure a =>
    obtain ⟨-, rfl⟩ := hv
    exact hs
  | call op next ih =>
    rcases hv with ⟨-, rfl⟩ | ⟨r, s₁, t₁, hr, rfl, hv⟩
    · exact hs
    · obtain ⟨hop, ht⟩ := List.forall_mem_cons.mp ht
      exact ih r hv ht (hI op s r s₁ hop hr hs)

/-- What every allowed call preserves, the program preserves. -/
theorem wp_preserves {I : S → Prop} {p : Prog Op Resp α} {Q : α → S → Prop} {s : S}
    (hI : ∀ op s r s', P op s → H op s r s' → I s → I s') (h : p.wp H P Q s) (hs : I s) :
    p.wp H (fun op s => P op s ∧ I s) (fun a s' => Q a s' ∧ I s') s := by
  induction p generalizing s with
  | pure a => exact ⟨h, hs⟩
  | call op next ih =>
    exact ⟨⟨h.1, hs⟩, fun r s' hr => ih r (h.2 r s' hr) (hI op s r s' h.1 hr hs)⟩

theorem wp_mono {P' : Op → S → Prop} {p : Prog Op Resp α} {Q Q' : α → S → Prop} {s : S}
    (h : p.wp H P Q s) (hP : ∀ op s, P op s → P' op s) (hQ : ∀ a s', Q a s' → Q' a s') :
    p.wp H P' Q' s := by
  induction p generalizing s with
  | pure a => exact hQ a s h
  | call op next ih => exact ⟨hP op s h.1, fun r s' hr => ih r (h.2 r s' hr)⟩

theorem wp_true (p : Prog Op Resp α) (s : S) : p.wp H (fun _ _ => True) (fun _ _ => True) s := by
  induction p generalizing s with
  | pure a => trivial
  | call op next ih => exact ⟨trivial, fun r s' _ => ih r s'⟩

theorem wp_and {P' : Op → S → Prop} {p : Prog Op Resp α} {Q Q' : α → S → Prop} {s : S}
    (h : p.wp H P Q s) (h' : p.wp H P' Q' s) :
    p.wp H (fun op s => P op s ∧ P' op s) (fun a s' => Q a s' ∧ Q' a s') s := by
  induction p generalizing s with
  | pure a => exact ⟨h, h'⟩
  | call op next ih => exact ⟨⟨h.1, h'.1⟩, fun r s' hr => ih r (h.2 r s' hr) (h'.2 r s' hr)⟩

theorem wp_bind {p : Prog Op Resp α} {f : α → Prog Op Resp β} {Q : β → S → Prop} {s : S} :
    (p.bind f).wp H P Q s ↔ p.wp H P (fun a s' => (f a).wp H P Q s') s := by
  induction p generalizing s with
  | pure a => exact Iff.rfl
  | call op next ih =>
    simp only [bind, wp]
    exact and_congr_right fun _ =>
      forall_congr' fun r => forall_congr' fun s' => imp_congr_right fun _ => ih r

end Exec

/-! ## Whatever is answered -/

/-- Whatever its calls are answered, the program makes only calls in `P` and returns only
values in `R`. -/
def Within (P : Op → Prop) (R : α → Prop) : Prog Op Resp α → Prop
  | .pure a => R a
  | .call op next => P op ∧ ∀ r, (next r).Within P R

theorem Within.mono {P : Op → Prop} {R R' : α → Prop} {p : Prog Op Resp α} (h : p.Within P R)
    (hR : ∀ a, R a → R' a) : p.Within P R' := by
  induction p with
  | pure a => exact hR a h
  | call op next ih => exact ⟨h.1, fun r => ih r (h.2 r)⟩

theorem Within.imp {P P' : Op → Prop} {R : α → Prop} {p : Prog Op Resp α} (h : p.Within P R)
    (hP : ∀ op, P op → P' op) : p.Within P' R := by
  induction p with
  | pure a => exact h
  | call op next ih => exact ⟨hP op h.1, fun r => ih r (h.2 r)⟩

theorem Within.bind {P : Op → Prop} {R : α → Prop} {R' : β → Prop} {p : Prog Op Resp α}
    {f : α → Prog Op Resp β} (h : p.Within P R) (hf : ∀ a, R a → (f a).Within P R') :
    (p.bind f).Within P R' := by
  induction p with
  | pure a => exact hf a h
  | call op next ih => exact ⟨h.1, fun r => ih r (h.2 r)⟩

/-- What is returned whatever is answered may be assumed in the postcondition. -/
theorem Within.wp {H : (op : Op) → S → Resp op → S → Prop} {P : Op → S → Prop} {P' : Op → Prop}
    {R : α → Prop} {Q : α → S → Prop} {p : Prog Op Resp α} {s : S} (h : p.Within P' R)
    (hp : p.wp H P (fun a s' => R a → Q a s') s) : p.wp H P Q s := by
  induction p generalizing s with
  | pure a => exact hp h
  | call op next ih => exact ⟨hp.1, fun r s' hr => ih r (h.2 r) (hp.2 r s' hr)⟩

theorem within_true (p : Prog Op Resp α) : p.Within (fun _ => True) fun _ => True := by
  induction p with
  | pure a => trivial
  | call op next ih => exact ⟨trivial, ih⟩

/-- What holds under the handler that may answer anything holds whatever is answered. -/
theorem within_of_wp {P : Op → Prop} {R : α → Prop} {p : Prog Op Resp α} {s : S}
    (h : p.wp (fun _ _ _ _ => True) (fun op _ => P op) (fun a _ => R a) s) : p.Within P R := by
  induction p generalizing s with
  | pure a => exact h
  | call op next ih => exact ⟨h.1, fun r => ih r (h.2 r s trivial)⟩

/-- A program cannot tell handlers apart that agree on its calls. -/
theorem Within.handler {H H' : (op : Op) → S → Resp op → S → Prop} {P : Op → S → Prop}
    {P' : Op → Prop} {R : α → Prop} {Q : α → S → Prop} {p : Prog Op Resp α} {s : S}
    (h : p.Within P' R) (hH : ∀ op s r s', P' op → H' op s r s' → H op s r s')
    (hp : p.wp H P Q s) : p.wp H' P Q s := by
  induction p generalizing s with
  | pure a => exact hp
  | call op next ih =>
    exact ⟨hp.1, fun r s' hr => ih r (h.2 r) (hp.2 r s' (hH op s r s' h.1 hr))⟩

/-- What every call of `P` preserves holds at every call and at the end, under any handler. -/
theorem Within.preserves {H : (op : Op) → S → Resp op → S → Prop} {P : Op → Prop} {R : α → Prop}
    {I : S → Prop} {p : Prog Op Resp α} {s : S} (h : p.Within P R)
    (hI : ∀ op s r s', P op → H op s r s' → I s → I s') (hs : I s) :
    p.wp H (fun op s => P op ∧ I s) (fun a s' => R a ∧ I s') s := by
  induction p generalizing s with
  | pure a => exact ⟨h, hs⟩
  | call op next ih =>
    exact ⟨⟨h.1, hs⟩, fun r s' hr => ih r (h.2 r) (hI op s r s' h.1 hr hs)⟩

/-! ## Several parties, several interfaces -/

/-- The handler under which other parties take steps of `env` after each call. -/
def interleaved (H : (op : Op) → S → Resp op → S → Prop) (env : S → S → Prop) (op : Op) (s : S)
    (r : Resp op) (s' : S) : Prop :=
  ∃ s₁, H op s r s₁ ∧ Relation.ReflTransGen env s₁ s'

section Via

variable {Op' : Type} {Resp' : Op' → Type} (f : Op → Op') (g : (op : Op) → Resp' (f op) → Resp op)

/-- The program over another interface : the call `op` is made as `f op`. -/
def via : Prog Op Resp α → Prog Op' Resp' α
  | .pure a => .pure a
  | .call op next => .call (f op) fun r => (next (g op r)).via

theorem wp_via {H : (op : Op') → S → Resp' op → S → Prop} {P : Op' → S → Prop} {p : Prog Op Resp α}
    {Q : α → S → Prop} {s : S}
    (h : p.wp (fun op s r s' => ∃ r', g op r' = r ∧ H (f op) s r' s') (fun op => P (f op)) Q s) :
    (p.via f g).wp H P Q s := by
  induction p generalizing s with
  | pure a => exact h
  | call op next ih => exact ⟨h.1, fun r s' hr => ih (g op r) (h.2 (g op r) s' ⟨r, rfl, hr⟩)⟩

theorem Within.via {P : Op' → Prop} {R : α → Prop} {p : Prog Op Resp α}
    (h : p.Within (fun op => P (f op)) R) : (p.via f g).Within P R := by
  induction p with
  | pure a => exact h
  | call op next ih => exact ⟨h.1, fun r => ih (g op r) (h.2 (g op r))⟩

end Via

/-! ## Functional handlers -/

/-- Execute `p` against a handler that answers every call in one way. -/
def run (h : (op : Op) → S → Resp op × S) : Prog Op Resp α → S → α × S
  | .pure a, s => (a, s)
  | .call op next, s => (next (h op s).1).run h (h op s).2

/-- The calls of `run`, each with the state it was made in. -/
def trace (h : (op : Op) → S → Resp op × S) : Prog Op Resp α → S → List (Op × S)
  | .pure _, _ => []
  | .call op next, s => (op, s) :: (next (h op s).1).trace h (h op s).2

/-- What the handler preserves holds at every call. -/
theorem trace_preserves {h : (op : Op) → S → Resp op × S} {I : S → Prop}
    (hI : ∀ op s, I s → I (h op s).2) (p : Prog Op Resp α) {s : S} (hs : I s) :
    ∀ e ∈ p.trace h s, I e.2 := by
  induction p generalizing s with
  | pure a => exact fun _ he => absurd he List.not_mem_nil
  | call op next ih => exact List.forall_mem_cons.mpr ⟨hs, ih _ (hI op s hs)⟩

/-- `run` is one of the executions under a handler that allows the answers it got. -/
theorem exec_run_of_trace {H : (op : Op) → S → Resp op → S → Prop}
    {h : (op : Op) → S → Resp op × S} (p : Prog Op Resp α) (s : S)
    (hH : ∀ e ∈ p.trace h s, H e.1 e.2 (h e.1 e.2).1 (h e.1 e.2).2) :
    p.Exec H s (p.trace h s) (p.run h s).1 (p.run h s).2 := by
  induction p generalizing s with
  | pure a => exact ⟨rfl, rfl, rfl⟩
  | call op next ih =>
    obtain ⟨hop, hnext⟩ := List.forall_mem_cons.mp hH
    exact ⟨_, _, _, hop, rfl, ih _ _ hnext⟩

/-- `run` is one of the executions under any handler that allows its answers. -/
theorem exec_run {H : (op : Op) → S → Resp op → S → Prop} {h : (op : Op) → S → Resp op × S}
    (hH : ∀ op s, H op s (h op s).1 (h op s).2) (p : Prog Op Resp α) (s : S) :
    p.Exec H s (p.trace h s) (p.run h s).1 (p.run h s).2 :=
  exec_run_of_trace p s fun e _ => hH e.1 e.2

/-- A handler that answers every call where `I` holds, and keeps it, has an execution. -/
theorem exists_exec {H : (op : Op) → S → Resp op → S → Prop} {I : S → Prop}
    (hH : ∀ op s, I s → ∃ r s', H op s r s' ∧ I s') (p : Prog Op Resp α) {s : S} (hs : I s) :
    ∃ t a s', p.Exec H s t a s' ∧ I s' := by
  induction p generalizing s with
  | pure a => exact ⟨_, _, _, ⟨rfl, rfl, rfl⟩, hs⟩
  | call op next ih =>
    obtain ⟨r, s₁, hr, hs₁⟩ := hH op s hs
    obtain ⟨t, a, s', hexec, hs'⟩ := ih r hs₁
    exact ⟨_, a, s', ⟨r, s₁, t, hr, rfl, hexec⟩, hs'⟩

end Prog

/-! ## Routines : a local record and an error -/

/-- A program with a local record `σ` and an error `ε`. An error keeps the record as it
was when the error occurred. -/
def Routine (Op : Type) (Resp : Op → Type) (σ ε α : Type) : Type :=
  σ → Prog Op Resp (Except ε α × σ)

namespace Routine

variable {Op : Type} {Resp : Op → Type} {S σ ε α β : Type}

instance : Monad (Routine Op Resp σ ε) where
  pure a := fun st => .pure (.ok a, st)
  bind x f := fun st => (x st).bind fun
    | (.ok a, st') => f a st'
    | (.error e, st') => .pure (.error e, st')

/-- Run a program that neither reads the record nor fails. -/
def lift (p : Prog Op Resp α) : Routine Op Resp σ ε α :=
  fun st => p.bind fun a => .pure (.ok a, st)

/-- Run `x` on a record of its own, and return its result and the record. -/
def runFrom {τ : Type} (x : Routine Op Resp τ ε α) (st : τ) :
    Routine Op Resp σ ε (Except ε α × τ) :=
  lift (x st)

/-- The routine over another interface. -/
def via {Op' : Type} {Resp' : Op' → Type} (f : Op → Op') (g : (op : Op) → Resp' (f op) → Resp op)
    (x : Routine Op Resp σ ε α) : Routine Op' Resp' σ ε α :=
  fun st => (x st).via f g

/-- End with an error. -/
def fail (e : ε) : Routine Op Resp σ ε α :=
  fun st => .pure (.error e, st)

/-- Return what a call answered, or end with its error. -/
def ofExcept : Except ε α → Routine Op Resp σ ε α
  | .ok a => Pure.pure a
  | .error e => fail e

/-- Return what a call answered; of its errors, take those in `ignored` for `b` and end with
the others. -/
def ignoring (ignored : ε → Bool) (f : α → β) (b : β) : Except ε α → Routine Op Resp σ ε β
  | .ok a => Pure.pure (f a)
  | .error e => if ignored e then Pure.pure b else fail e

/-- Read the record. -/
def record : Routine Op Resp σ ε σ :=
  fun st => .pure (.ok st, st)

/-- Update the record. -/
def modify (f : σ → σ) : Routine Op Resp σ ε Unit :=
  fun st => .pure (.ok (), f st)

/-- Do `body` for each element in turn, stopping at the first error. -/
def forEach : List β → (β → Routine Op Resp σ ε Unit) → Routine Op Resp σ ε Unit
  | [], _ => Pure.pure ()
  | b :: l, body => body b >>= fun _ => forEach l body

section Rules

variable (H : (op : Op) → S → Resp op → S → Prop)

/-- A postcondition of the runs without error, as one of all runs. -/
def okPost (Q : α → σ → S → Prop) : Except ε α × σ → S → Prop
  | (.ok a, st), s => Q a st s
  | (.error _, _), _ => True

/-- Every call is made in a state that `P` allows, and every execution that returns without
error ends in `Q`, which speaks of the value, the record and the state. -/
def wp (P : Op → S → Prop) (x : Routine Op Resp σ ε α) (Q : α → σ → S → Prop) (st : σ) (s : S) :
    Prop :=
  (x st).wp H P (okPost Q) s

/-- Every call of every execution is made in a state that `P` allows. -/
def Always (P : Op → S → Prop) (x : Routine Op Resp σ ε α) (st : σ) (s : S) : Prop :=
  x.wp H P (fun _ _ _ => True) st s

/-- Every execution that returns without error ends in `Q`. -/
abbrev Ends (x : Routine Op Resp σ ε α) (Q : α → σ → S → Prop) (st : σ) (s : S) : Prop :=
  x.wp H (fun _ _ => True) Q st s

variable {H} {P : Op → S → Prop}

theorem wp_mono {P' : Op → S → Prop} {x : Routine Op Resp σ ε α} {Q Q' : α → σ → S → Prop} {st : σ}
    {s : S} (h : x.wp H P Q st s) (hP : ∀ op s, P op s → P' op s)
    (hQ : ∀ a st' s', Q a st' s' → Q' a st' s') : x.wp H P' Q' st s := by
  refine Prog.wp_mono h hP fun r s' hr => ?_
  obtain ⟨r, st'⟩ := r
  cases r with
  | ok a => exact hQ a st' s' hr
  | error e => trivial

theorem wp_post {x : Routine Op Resp σ ε α} {Q Q' : α → σ → S → Prop} {st : σ} {s : S}
    (h : x.wp H P Q st s) (hQ : ∀ a st' s', Q a st' s' → Q' a st' s') : x.wp H P Q' st s :=
  wp_mono h (fun _ _ => id) hQ

theorem wp_and {P' : Op → S → Prop} {x : Routine Op Resp σ ε α} {Q Q' : α → σ → S → Prop} {st : σ}
    {s : S} (h : x.wp H P Q st s) (h' : x.wp H P' Q' st s) :
    x.wp H (fun op s => P op s ∧ P' op s) (fun a st' s' => Q a st' s' ∧ Q' a st' s') st s := by
  refine Prog.wp_mono (Prog.wp_and h h') (fun _ _ => id) fun r s' hr => ?_
  obtain ⟨r, st'⟩ := r
  cases r with
  | ok a => exact hr
  | error e => trivial

/-- What the calls are and what the ends are, together. -/
theorem Always.ends {x : Routine Op Resp σ ε α} {Q : α → σ → S → Prop} {st : σ} {s : S}
    (h : x.Always H P st s) (h' : x.Ends H Q st s) : x.wp H P Q st s :=
  wp_mono (wp_and h h') (fun _ _ h => h.1) fun _ _ _ h => h.2

theorem ends_and {x : Routine Op Resp σ ε α} {Q Q' : α → σ → S → Prop} {st : σ} {s : S}
    (h : x.Ends H Q st s) (h' : x.Ends H Q' st s) :
    x.Ends H (fun a st' s' => Q a st' s' ∧ Q' a st' s') st s :=
  wp_mono (wp_and h h') (fun _ _ _ => trivial) fun _ _ _ => id

theorem ends_of_forall {x : Routine Op Resp σ ε α} {Q : α → σ → S → Prop} {st : σ} {s : S}
    (h : ∀ a st' s', Q a st' s') : x.Ends H Q st s := by
  refine Prog.wp_mono (Prog.wp_true (x st) s) (fun _ _ => id) fun r s' _ => ?_
  obtain ⟨r, st'⟩ := r
  cases r with
  | ok a => exact h a st' s'
  | error e => trivial

@[simp] theorem wp_pure {a : α} {Q : α → σ → S → Prop} {st : σ} {s : S} :
    (Pure.pure a : Routine Op Resp σ ε α).wp H P Q st s ↔ Q a st s :=
  Iff.rfl

@[simp] theorem wp_bind {x : Routine Op Resp σ ε α} {f : α → Routine Op Resp σ ε β}
    {Q : β → σ → S → Prop} {st : σ} {s : S} : (x >>= f).wp H P Q st s ↔
      x.wp H P (fun a st' s' => (f a).wp H P Q st' s') st s := by
  refine (Prog.wp_bind (p := x st)).trans (iff_of_eq ?_)
  refine congrArg (fun R => (x st).wp H P R s) ?_
  funext r s'
  obtain ⟨r, st'⟩ := r
  cases r <;> rfl

@[simp] theorem wp_lift {p : Prog Op Resp α} {Q : α → σ → S → Prop} {st : σ} {s : S} :
    (lift p : Routine Op Resp σ ε α).wp H P Q st s ↔ p.wp H P (fun a s' => Q a st s') s :=
  Prog.wp_bind

@[simp] theorem wp_fail (e : ε) (Q : α → σ → S → Prop) (st : σ) (s : S) :
    (fail e : Routine Op Resp σ ε α).wp H P Q st s :=
  trivial

@[simp] theorem wp_record {Q : σ → σ → S → Prop} {st : σ} {s : S} :
    (record : Routine Op Resp σ ε σ).wp H P Q st s ↔ Q st st s :=
  Iff.rfl

@[simp] theorem wp_modify {f : σ → σ} {Q : Unit → σ → S → Prop} {st : σ} {s : S} :
    (modify f : Routine Op Resp σ ε Unit).wp H P Q st s ↔ Q () (f st) s :=
  Iff.rfl

@[simp] theorem wp_ofExcept {r : Except ε α} {Q : α → σ → S → Prop} {st : σ} {s : S} :
    (ofExcept r : Routine Op Resp σ ε α).wp H P Q st s ↔ ∀ a, r = .ok a → Q a st s := by
  cases r <;> simp [ofExcept]

theorem wp_ignoring {ignored : ε → Bool} {f : α → β} {b : β} (r : Except ε α) (Q : β → σ → S → Prop)
    (st : σ) (s : S) : (ignoring ignored f b r : Routine Op Resp σ ε β).wp H P Q st s ↔
      (∀ a, r = .ok a → Q (f a) st s) ∧ ∀ e, r = .error e → ignored e = true → Q b st s := by
  cases r with
  | ok a => simp [ignoring]
  | error e => cases h : ignored e <;> simp [ignoring, h]

theorem wp_ite {p : Prop} [Decidable p] {x y : Routine Op Resp σ ε α} {Q : α → σ → S → Prop}
    {st : σ} {s : S} (hx : p → x.wp H P Q st s) (hy : ¬p → y.wp H P Q st s) :
    (if p then x else y).wp H P Q st s := by
  split_ifs with h
  · exact hx h
  · exact hy h

/-- An answer that is a result or an error, whose error is passed on. -/
theorem wp_bind_ofExcept {x : Routine Op Resp σ ε (Except ε α)} {Q : α → σ → S → Prop} {st : σ}
    {s : S} (h : x.wp H P (fun r st' s' => ∀ a, r = .ok a → Q a st' s') st s) :
    (x >>= fun r => ofExcept r).wp H P Q st s :=
  wp_bind.mpr (wp_post h fun _ _ _ hr => wp_ofExcept.mpr hr)

/-- An answer that is a result or an error, some of whose errors are ignored. -/
theorem wp_bind_ignoring {x : Routine Op Resp σ ε (Except ε α)} {ignored : ε → Bool} {f : α → β}
    {b : β} {Q : β → σ → S → Prop} {st : σ} {s : S}
    (h : x.wp H P (fun r st' s' => (∀ a, r = .ok a → Q (f a) st' s') ∧
      ∀ e, r = .error e → ignored e = true → Q b st' s') st s) :
    (x >>= fun r => ignoring ignored f b r).wp H P Q st s :=
  wp_bind.mpr (wp_post h fun _ _ _ hr => (wp_ignoring _ _ _ _).mpr hr)

/-- A routine run on a record of its own. What follows it sees its errors too. -/
theorem wp_runFrom_bind {τ : Type} {x : Routine Op Resp τ ε α} {st' : τ}
    {f : Except ε α × τ → Routine Op Resp σ ε β} {R : Except ε α × τ → S → Prop}
    {Q : β → σ → S → Prop} {st : σ} {s : S} (hx : (x st').wp H P R s)
    (hf : ∀ r s', R r s' → (f r).wp H P Q st s') : (x.runFrom st' >>= f).wp H P Q st s := by
  rw [wp_bind]
  exact wp_lift.mpr (Prog.wp_mono hx (fun _ _ => id) hf)

/-- A sequence, with a postcondition of all its ends. -/
theorem wp_all_bind {x : Routine Op Resp σ ε α} {f : α → Routine Op Resp σ ε β}
    {R : Except ε α × σ → S → Prop} {Q : Except ε β × σ → S → Prop} {st : σ} {s : S}
    (hx : (x st).wp H P R s) (hok : ∀ a st' s', R (.ok a, st') s' → (f a st').wp H P Q s')
    (herror : ∀ e st' s', R (.error e, st') s' → Q (.error e, st') s') :
    ((x >>= f) st).wp H P Q s := by
  refine Prog.wp_bind.mpr (Prog.wp_mono hx (fun _ _ => id) ?_)
  rintro ⟨r, st'⟩ s' hr
  cases r with
  | ok a => exact hok a st' s' hr
  | error e => exact herror e st' s' hr

/-- A routine run on a record of its own, with a postcondition of all ends. -/
theorem wp_all_runFrom_bind {τ : Type} {x : Routine Op Resp τ ε α} {st' : τ}
    {f : Except ε α × τ → Routine Op Resp σ ε β} {R : Except ε α × τ → S → Prop}
    {Q : Except ε β × σ → S → Prop} {st : σ} {s : S} (hx : (x st').wp H P R s)
    (hf : ∀ r s', R r s' → (f r st).wp H P Q s') : ((x.runFrom st' >>= f) st).wp H P Q s :=
  Prog.wp_bind.mpr (Prog.wp_bind.mpr (Prog.wp_mono hx (fun _ _ => id) hf))

/-- A call, with a postcondition of all ends. -/
theorem wp_all_ask_bind {op : Op} {f : Resp op → Routine Op Resp σ ε β}
    {Q : Except ε β × σ → S → Prop} {st : σ} {s : S} (hop : P op s)
    (hf : ∀ r s', H op s r s' → (f r st).wp H P Q s') :
    ((lift (Prog.ask op) >>= f) st).wp H P Q s :=
  ⟨hop, hf⟩

/-- A loop keeps what its body keeps, on the runs that reach the end of the list. The
invariant may speak of the elements still to come. -/
theorem wp_forEach {body : β → Routine Op Resp σ ε Unit} (I : List β → σ → S → Prop)
    (hbody : ∀ b l st s, I (b :: l) st s → (body b).wp H P (fun _ st' s' => I l st' s') st s) :
    ∀ (l : List β) {st : σ} {s : S}, I l st s →
      (forEach l body).wp H P (fun _ st' s' => I [] st' s') st s
  | [], st, s, h => by simpa [forEach] using h
  | b :: l, st, s, h => by
    rw [forEach, wp_bind]
    exact wp_post (hbody b l st s h) fun _ _ _ h' => wp_forEach I hbody l h'

/-- What every allowed call preserves may be assumed at every call and at the end. -/
theorem wp_preserves {I : S → Prop} {x : Routine Op Resp σ ε α} {Q : α → σ → S → Prop} {st : σ}
    {s : S} (hI : ∀ op s r s', P op s → H op s r s' → I s → I s') (h : x.wp H P Q st s) (hs : I s) :
    x.wp H (fun op s => P op s ∧ I s) (fun a st' s' => Q a st' s' ∧ I s') st s := by
  refine Prog.wp_mono (Prog.wp_preserves hI h hs) (fun _ _ => id) fun r s' hr => ?_
  obtain ⟨r, st'⟩ := r
  cases r with
  | ok a => exact hr
  | error e => trivial

/-! ## Runs that do not fail -/

/-- Every execution returns without error, in `Q`. -/
def Succeeds (H : (op : Op) → S → Resp op → S → Prop) (x : Routine Op Resp σ ε α)
    (Q : α → σ → S → Prop) (st : σ) (s : S) : Prop :=
  (x st).wp H (fun _ _ => True) (fun r s' => ∃ a, r.1 = .ok a ∧ Q a r.2 s') s

theorem succeeds_pure {a : α} {Q : α → σ → S → Prop} {st : σ} {s : S} (h : Q a st s) :
    (Pure.pure a : Routine Op Resp σ ε α).Succeeds H Q st s :=
  ⟨a, rfl, h⟩

theorem succeeds_modify {g : σ → σ} {Q : Unit → σ → S → Prop} {st : σ} {s : S} (h : Q () (g st) s) :
    (modify g : Routine Op Resp σ ε Unit).Succeeds H Q st s :=
  ⟨(), rfl, h⟩

theorem succeeds_record {Q : σ → σ → S → Prop} {st : σ} {s : S} (h : Q st st s) :
    (record : Routine Op Resp σ ε σ).Succeeds H Q st s :=
  ⟨st, rfl, h⟩

theorem Succeeds.mono {x : Routine Op Resp σ ε α} {Q Q' : α → σ → S → Prop} {st : σ} {s : S}
    (h : x.Succeeds H Q st s) (hQ : ∀ a st' s', Q a st' s' → Q' a st' s') :
    x.Succeeds H Q' st s :=
  Prog.wp_mono h (fun _ _ => id) fun r s' ⟨a, hr, ha⟩ => ⟨a, hr, hQ a r.2 s' ha⟩

theorem Succeeds.bind {x : Routine Op Resp σ ε α} {f : α → Routine Op Resp σ ε β}
    {R : α → σ → S → Prop} {Q : β → σ → S → Prop} {st : σ} {s : S} (hx : x.Succeeds H R st s)
    (hf : ∀ a st' s', R a st' s' → (f a).Succeeds H Q st' s') : (x >>= f).Succeeds H Q st s := by
  refine Prog.wp_bind.mpr (Prog.wp_mono hx (fun _ _ => id) ?_)
  rintro ⟨r, st'⟩ s' ⟨a, hr, ha⟩
  obtain rfl : r = .ok a := hr
  exact hf a st' s' ha

/-- What follows a routine that does not fail, with a postcondition of all its ends. -/
theorem Succeeds.wp_all_bind {x : Routine Op Resp σ ε α} {f : α → Routine Op Resp σ ε β}
    {R : α → σ → S → Prop} {Q : Except ε β × σ → S → Prop} {st : σ} {s : S}
    (hx : x.Succeeds H R st s)
    (hf : ∀ a st' s', R a st' s' → (f a st').wp H (fun _ _ => True) Q s') :
    ((x >>= f) st).wp H (fun _ _ => True) Q s := by
  refine Routine.wp_all_bind hx ?_ ?_
  · rintro a st' s' ⟨b, hr, hb⟩
    cases hr
    exact hf a st' s' hb
  · rintro e st' s' ⟨b, hr, -⟩
    cases hr

theorem succeeds_ite {p : Prop} [Decidable p] {x y : Routine Op Resp σ ε α} {Q : α → σ → S → Prop}
    {st : σ} {s : S} (hx : p → x.Succeeds H Q st s) (hy : ¬p → y.Succeeds H Q st s) :
    (if p then x else y).Succeeds H Q st s := by
  split_ifs with h
  · exact hx h
  · exact hy h

/-- A routine run on a record of its own, when it does not fail. -/
theorem succeeds_runFrom_bind {τ : Type} {x : Routine Op Resp τ ε α} {st' : τ}
    {f : Except ε α × τ → Routine Op Resp σ ε β} {R : α → τ → S → Prop} {Q : β → σ → S → Prop}
    {st : σ} {s : S} (hx : x.Succeeds H R st' s)
    (hf : ∀ a st'' s', R a st'' s' → (f (.ok a, st'')).Succeeds H Q st s') :
    (x.runFrom st' >>= f).Succeeds H Q st s := by
  refine Prog.wp_bind.mpr (Prog.wp_bind.mpr ?_)
  refine Prog.wp_mono hx (fun _ _ => id) ?_
  rintro ⟨r, st''⟩ s' ⟨a, hr, ha⟩
  obtain rfl : r = .ok a := hr
  exact hf a st'' s' ha

/-- What is known of the runs without error is known of a routine that does not fail. -/
theorem Succeeds.and {x : Routine Op Resp σ ε α} {Q Q' : α → σ → S → Prop} {st : σ} {s : S}
    (h : x.Succeeds H Q st s) (h' : x.wp H P Q' st s) :
    x.Succeeds H (fun a st' s' => Q a st' s' ∧ Q' a st' s') st s := by
  refine Prog.wp_mono (Prog.wp_and h h') (fun _ _ _ => trivial) ?_
  rintro ⟨r, st'⟩ s' ⟨⟨a, hr, ha⟩, h⟩
  obtain rfl : r = .ok a := hr
  exact ⟨a, rfl, ha, h⟩

/-- A loop whose body does not fail. -/
theorem succeeds_forEach {body : β → Routine Op Resp σ ε Unit} (I : List β → σ → S → Prop)
    (hbody : ∀ b l st s, I (b :: l) st s → (body b).Succeeds H (fun _ st' s' => I l st' s') st s) :
    ∀ (l : List β) {st : σ} {s : S}, I l st s →
      (forEach l body).Succeeds H (fun _ st' s' => I [] st' s') st s
  | [], _, _, h => succeeds_pure h
  | b :: l, st, s, h => (hbody b l st s h).bind fun _ _ _ h' => succeeds_forEach I hbody l h'

/-! ## Calls only -/

theorem Always.bind {x : Routine Op Resp σ ε α} {f : α → Routine Op Resp σ ε β}
    {st : σ} {s : S} (hx : x.Always H P st s) (hf : ∀ a st' s', (f a).Always H P st' s') :
    (x >>= f).Always H P st s :=
  wp_bind.mpr (wp_post hx fun a st' s' _ => hf a st' s')

theorem always_ofExcept (r : Except ε α) (st : σ) (s : S) :
    (ofExcept r : Routine Op Resp σ ε α).Always H P st s := by
  cases r <;> trivial

theorem always_ignoring (ignored : ε → Bool) (f : α → β) (b : β) (r : Except ε α) (st : σ) (s : S) :
    (ignoring ignored f b r : Routine Op Resp σ ε β).Always H P st s := by
  cases r with
  | ok a => trivial
  | error e => exact wp_ite (fun _ => trivial) fun _ => trivial

theorem Always.forEach {body : β → Routine Op Resp σ ε Unit} :
    ∀ (l : List β) {st : σ} {s : S}, (∀ b ∈ l, ∀ st s, (body b).Always H P st s) →
      (forEach l body).Always H P st s
  | [], _, _, _ => trivial
  | b :: l, st, s, h => by
    refine (h b (by simp) st s).bind fun _ st' s' => ?_
    exact Always.forEach l fun b' hb' => h b' (by simp [hb'])

end Rules

/-! ## Calls and the part of the record that is left alone -/

section Frame

variable {τ : Type} {P : Op → Prop} {f : σ → τ}

/-- Whatever it is answered, the routine makes only calls in `P` and leaves the part `f` of the
record as it was. -/
def Frame (P : Op → Prop) (f : σ → τ) (x : Routine Op Resp σ ε α) : Prop :=
  ∀ st, (x st).Within P fun r => f r.2 = f st

theorem frame_pure (a : α) : (Pure.pure a : Routine Op Resp σ ε α).Frame P f :=
  fun _ => rfl

theorem frame_fail (e : ε) : (fail e : Routine Op Resp σ ε α).Frame P f :=
  fun _ => rfl

theorem frame_ofExcept (r : Except ε α) : (ofExcept r : Routine Op Resp σ ε α).Frame P f := by
  cases r with
  | ok a => exact frame_pure a
  | error e => exact frame_fail e

theorem frame_ite {p : Prop} [Decidable p] {x y : Routine Op Resp σ ε α} (hx : x.Frame P f)
    (hy : y.Frame P f) : (if p then x else y).Frame P f := by
  split_ifs
  · exact hx
  · exact hy

theorem frame_ignoring (ignored : ε → Bool) (g : α → β) (b : β) (r : Except ε α) :
    (ignoring ignored g b r : Routine Op Resp σ ε β).Frame P f := by
  cases r with
  | ok a => exact frame_pure _
  | error e => exact frame_ite (frame_pure _) (frame_fail _)

theorem frame_call {op : Op} (h : P op) :
    (lift (Prog.ask op) : Routine Op Resp σ ε (Resp op)).Frame P f :=
  fun _ => ⟨h, fun _ => rfl⟩

theorem frame_modify {g : σ → σ} (h : ∀ st, f (g st) = f st) :
    (modify g : Routine Op Resp σ ε Unit).Frame P f :=
  h

theorem Frame.imp {P' : Op → Prop} {x : Routine Op Resp σ ε α} (hx : x.Frame P f)
    (hP : ∀ op, P op → P' op) : x.Frame P' f :=
  fun st => (hx st).imp hP

theorem Frame.bind {x : Routine Op Resp σ ε α} {g : α → Routine Op Resp σ ε β} (hx : x.Frame P f)
    (hg : ∀ a, (g a).Frame P f) : (x >>= g).Frame P f := by
  refine fun st => (hx st).bind fun r hr => ?_
  obtain ⟨r, st'⟩ := r
  cases r with
  | ok a => exact (hg a st').mono fun _ h => h.trans hr
  | error e => exact hr

theorem frame_forEach {body : β → Routine Op Resp σ ε Unit} (h : ∀ b, (body b).Frame P f) :
    ∀ l, (forEach l body).Frame P f
  | [] => frame_pure ()
  | b :: l => (h b).bind fun _ => frame_forEach h l

/-- What a routine leaves alone may be assumed of the record after it. -/
theorem Frame.wp {H : (op : Op) → S → Resp op → S → Prop} {P' : Op → S → Prop}
    {x : Routine Op Resp σ ε α} {Q : α → σ → S → Prop} {st : σ} {s : S} (hx : x.Frame P f)
    (h : x.wp H P' (fun a st' s' => f st' = f st → Q a st' s') st s) : x.wp H P' Q st s := by
  refine (hx st).wp (Prog.wp_mono h (fun _ _ => id) fun r s' hr hf => ?_)
  obtain ⟨r, st'⟩ := r
  cases r with
  | ok a => exact hr hf
  | error e => trivial

/-- What a routine leaves alone is known at all its ends. -/
theorem Frame.wp_all {H : (op : Op) → S → Resp op → S → Prop} {P' : Op → S → Prop}
    {x : Routine Op Resp σ ε α} {Q : α → σ → S → Prop} {st : σ} {s : S} (hx : x.Frame P f)
    (h : x.wp H P' Q st s) : (x st).wp H P' (fun out s' => f out.2 = f st ∧ okPost Q out s') s :=
  (hx st).wp (Prog.wp_mono h (fun _ _ => id) fun _ _ hout hf => ⟨hf, hout⟩)

/-- What a routine leaves alone is all that is known after it, whatever it was answered. -/
theorem Frame.wp_of_forall {H : (op : Op) → S → Resp op → S → Prop} {P' : Op → S → Prop}
    {x : Routine Op Resp σ ε α} {Q : α → σ → S → Prop} {st : σ} {s : S} (hx : x.Frame P f)
    (hP : ∀ op s, P op → P' op s) (hQ : ∀ a st' s', f st' = f st → Q a st' s') :
    x.wp H P' Q st s := by
  have hkept := (hx st).preserves (H := H) (I := fun _ => True) (s := s)
    (fun _ _ _ _ _ _ _ => trivial) trivial
  refine Prog.wp_mono hkept (fun op s h => hP op s h.1) fun r s' hr => ?_
  obtain ⟨r, st'⟩ := r
  cases r with
  | ok a => exact hQ a st' s' hr.1
  | error e => trivial

theorem Frame.always {H : (op : Op) → S → Resp op → S → Prop} {P' : Op → S → Prop}
    {x : Routine Op Resp σ ε α} {st : σ} {s : S} (hx : x.Frame P f) (hP : ∀ op s, P op → P' op s) :
    x.Always H P' st s :=
  hx.wp_of_forall hP fun _ _ _ _ => trivial

/-- A routine run on a record of its own leaves this one alone. -/
theorem Frame.runFrom {τ' σ' : Type} {g : σ' → τ'} {x : Routine Op Resp σ ε α} (hx : x.Frame P f)
    (st : σ) : (x.runFrom st : Routine Op Resp σ' ε (Except ε α × σ)).Frame P g :=
  fun _ => (hx st).bind fun _ _ => rfl

/-- A routine cannot tell handlers apart that agree on its calls. -/
theorem Frame.handler {H H' : (op : Op) → S → Resp op → S → Prop} {P' : Op → S → Prop}
    {x : Routine Op Resp σ ε α} {Q : α → σ → S → Prop} {st : σ} {s : S} (hx : x.Frame P f)
    (hH : ∀ op s r s', P op → H' op s r s' → H op s r s') (h : x.wp H P' Q st s) :
    x.wp H' P' Q st s :=
  (hx st).handler hH h

/-- Where the routine ends with an error, it has left the part `f` of the record as it was. -/
def KeepsOnError (f : σ → τ) (x : Routine Op Resp σ ε α) : Prop :=
  ∀ st, (x st).Within (fun _ => True) fun r => ∀ e, r.1 = .error e → f r.2 = f st

theorem Frame.keepsOnError {x : Routine Op Resp σ ε α} (hx : x.Frame P f) : x.KeepsOnError f :=
  fun st => ((hx st).imp fun _ _ => trivial).mono fun _ h _ _ => h

theorem keepsOnError_pure (a : α) : (Pure.pure a : Routine Op Resp σ ε α).KeepsOnError f :=
  fun _ _ he => nomatch he

theorem keepsOnError_ite {p : Prop} [Decidable p] {x y : Routine Op Resp σ ε α}
    (hx : x.KeepsOnError f) (hy : y.KeepsOnError f) : (if p then x else y).KeepsOnError f := by
  split_ifs
  · exact hx
  · exact hy

/-- A routine that leaves `f` as it was, and then one that does so where it fails. -/
theorem Frame.bind_keepsOnError {x : Routine Op Resp σ ε α} {g : α → Routine Op Resp σ ε β}
    (hx : x.Frame P f) (hg : ∀ a, (g a).KeepsOnError f) : (x >>= g).KeepsOnError f := by
  refine fun st => ((hx st).imp fun _ _ => trivial).bind fun r hr => ?_
  obtain ⟨r, st'⟩ := r
  cases r with
  | ok a => exact (hg a st').mono fun _ h e he => (h e he).trans hr
  | error e => exact fun _ _ => hr

theorem KeepsOnError.wp_all {H : (op : Op) → S → Resp op → S → Prop} {P' : Op → S → Prop}
    {x : Routine Op Resp σ ε α} {Q : α → σ → S → Prop} {st : σ} {s : S} (hx : x.KeepsOnError f)
    (h : x.wp H P' Q st s) :
    (x st).wp H P' (fun out s' => (∀ e, out.1 = .error e → f out.2 = f st) ∧ okPost Q out s') s :=
  (hx st).wp (Prog.wp_mono h (fun _ _ => id) fun _ _ hout hf => ⟨hf, hout⟩)

/-- A routine that leaves `f` as it was where it fails, and then one that does not fail. -/
theorem KeepsOnError.bind {x : Routine Op Resp σ ε α} {g : α → Routine Op Resp σ ε β}
    (hx : x.KeepsOnError f)
    (hg : ∀ a st, (g a st).Within (fun _ => True) fun r => ∃ b, r.1 = .ok b) :
    (x >>= g).KeepsOnError f := by
  refine fun st => (hx st).bind fun r hr => ?_
  obtain ⟨r, st'⟩ := r
  cases r with
  | ok a => exact (hg a st').mono fun _ ⟨_, hb⟩ _ he => nomatch hb.symm.trans he
  | error e => exact fun _ _ => hr e rfl

end Frame

/-! ## Invariants that tie the record to the state -/

section Maintains

variable {H : (op : Op) → S → Resp op → S → Prop} {P : Op → S → Prop} {I F : σ → S → Prop}

/-- From a record and a state in `I`, every call is made in a state that `P` allows, and every
execution ends in `F`, with or without an error. -/
def Leads (H : (op : Op) → S → Resp op → S → Prop) (P : Op → S → Prop) (I F : σ → S → Prop)
    (x : Routine Op Resp σ ε α) : Prop :=
  ∀ st s, I st s → (x st).wp H P (fun r s' => F r.2 s') s

/-- The routine maintains `I`, also where it ends with an error. -/
abbrev Maintains (H : (op : Op) → S → Resp op → S → Prop) (P : Op → S → Prop) (I : σ → S → Prop)
    (x : Routine Op Resp σ ε α) : Prop :=
  x.Leads H P I I

theorem maintains_pure (a : α) : (Pure.pure a : Routine Op Resp σ ε α).Maintains H P I :=
  fun _ _ h => h

theorem maintains_fail (e : ε) : (fail e : Routine Op Resp σ ε α).Maintains H P I :=
  fun _ _ h => h

theorem leads_ite {p : Prop} [Decidable p] {x y : Routine Op Resp σ ε α}
    (hx : p → x.Leads H P I F) (hy : ¬p → y.Leads H P I F) :
    (if p then x else y).Leads H P I F := by
  split_ifs with h
  · exact hx h
  · exact hy h

theorem maintains_ignoring (ignored : ε → Bool) (g : α → β) (b : β) (r : Except ε α) :
    (ignoring ignored g b r : Routine Op Resp σ ε β).Maintains H P I := by
  cases r with
  | ok a => exact maintains_pure _
  | error e => exact leads_ite (fun _ => maintains_pure _) fun _ => maintains_fail _

theorem maintains_modify {g : σ → σ} (h : ∀ st s, I st s → I (g st) s) :
    (modify g : Routine Op Resp σ ε Unit).Maintains H P I :=
  h

theorem maintains_record : (record : Routine Op Resp σ ε σ).Maintains H P I :=
  fun _ _ h => h

theorem Leads.mono {I' F' : σ → S → Prop} {x : Routine Op Resp σ ε α} (hx : x.Leads H P I F)
    (hI : ∀ st s, I' st s → I st s) (hF : ∀ st s, F st s → F' st s) : x.Leads H P I' F' :=
  fun st s h => Prog.wp_mono (hx st s (hI st s h)) (fun _ _ => id) fun r s' => hF r.2 s'

theorem Leads.seq {J : σ → S → Prop} {x : Routine Op Resp σ ε α} {f : α → Routine Op Resp σ ε β}
    (hx : x.Leads H P I J) (hf : ∀ a, (f a).Leads H P J F) (hF : ∀ st s, J st s → F st s) :
    (x >>= f).Leads H P I F := by
  refine fun st s h => Prog.wp_bind.mpr (Prog.wp_mono (hx st s h) (fun _ _ => id) ?_)
  rintro ⟨r, st'⟩ s' h'
  cases r with
  | ok a => exact hf a st' s' h'
  | error e => exact hF st' s' h'

theorem Leads.bind {x : Routine Op Resp σ ε α} {f : α → Routine Op Resp σ ε β}
    (hx : x.Leads H P I F) (hf : ∀ a, (f a).Maintains H P F) : (x >>= f).Leads H P I F :=
  hx.seq hf fun _ _ h => h

theorem maintains_call {op : Op}
    (h : ∀ st s, I st s → P op s ∧ ∀ r s', H op s r s' → I st s') :
    (lift (Prog.ask op) : Routine Op Resp σ ε (Resp op)).Maintains H P I :=
  h

/-- A routine whose calls keep the invariant, and whose record changes do not matter to it. -/
theorem Frame.maintains {τ : Type} {P' : Op → Prop} {f : σ → τ} {x : Routine Op Resp σ ε α}
    (hx : x.Frame P' f) (hP : ∀ op st s, P' op → I st s → P op s)
    (hcall : ∀ op st s r s', P' op → H op s r s' → I st s → I st s')
    (hf : ∀ st st' s, f st' = f st → I st s → I st' s) : x.Maintains H P I := by
  intro st s h
  refine Prog.wp_mono ((hx st).preserves (fun op s r s' hop hr => hcall op st s r s' hop hr) h) ?_ ?_
  · exact fun op s h => hP op st s h.1 h.2
  · exact fun r s' h => hf st r.2 s' h.1 h.2

end Maintains

/-! ## Routines with a point of no return -/

section Commits

variable {H : (op : Op) → S → Resp op → S → Prop} {I : S → Prop} {F : σ → Prop}

/-- Wherever the routine ends, either the state is still in `I`, or the routine has ended without
an error and its record is in `F`. -/
def Commits (H : (op : Op) → S → Resp op → S → Prop) (I : S → Prop) (F : σ → Prop)
    (x : Routine Op Resp σ ε α) : Prop :=
  ∀ st s, I s → (x st).wp H (fun _ _ => True) (fun r s' => I s' ∨ (∃ a, r.1 = .ok a) ∧ F r.2) s

theorem Leads.commits {x : Routine Op Resp σ ε α}
    (hx : x.Maintains H (fun _ _ => True) fun _ => I) : x.Commits H I F :=
  fun st s h => Prog.wp_mono (hx st s h) (fun _ _ => id) fun _ _ => Or.inl

theorem commits_ite {p : Prop} [Decidable p] {x y : Routine Op Resp σ ε α}
    (hx : x.Commits H I F) (hy : y.Commits H I F) : (if p then x else y).Commits H I F := by
  split_ifs
  · exact hx
  · exact hy

theorem Leads.bind_commits {x : Routine Op Resp σ ε α} {f : α → Routine Op Resp σ ε β}
    (hx : x.Maintains H (fun _ _ => True) fun _ => I) (hf : ∀ a, (f a).Commits H I F) :
    (x >>= f).Commits H I F :=
  fun st s h => wp_all_bind (hx st s h) (fun a st' s' h' => hf a st' s' h') fun _ _ _ => Or.inl

/-- After the point of no return nothing fails. -/
theorem Commits.bind {F' : σ → Prop} {x : Routine Op Resp σ ε α} {f : α → Routine Op Resp σ ε β}
    (hx : x.Commits H I F) (hf : ∀ a, (f a).Maintains H (fun _ _ => True) fun _ => I)
    (hok : ∀ a st, F st → (f a st).Within (fun _ => True) fun r => (∃ b, r.1 = .ok b) ∧ F' r.2) :
    (x >>= f).Commits H I F' := by
  refine fun st s h => wp_all_bind (hx st s h) ?_ ?_
  · rintro a st' s' (h' | ⟨-, hF⟩)
    · exact (hf a).commits st' s' h'
    · exact (hok a st' hF).wp (Prog.wp_mono (Prog.wp_true _ _) (fun _ _ => id) fun _ _ _ => Or.inr)
  · rintro e st' s' (h' | ⟨⟨a, ha⟩, -⟩)
    · exact Or.inl h'
    · cases ha

end Commits

end Routine
