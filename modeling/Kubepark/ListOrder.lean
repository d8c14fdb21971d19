import Kubepark.ApiClient

/-!
# Lists in any order

The API server promises nothing about the order in which a List returns its items. `ListStep` is
the server with every list in an arbitrary order, another one on each call. Of the calls only a
list can tell the difference (`ListStep.step`), so a routine has its old rules up to there, and a
list has the rule `wp_list_any`.
-/

set_option linter.unusedSectionVars false

namespace ApiServer

open Client

variable {Kind : Type} [DecidableEq Kind] {Spec Status : Kind → Type} [KindInfo Kind]
  [∀ k, DecidableEq (Spec k)] [∀ k, Inhabited (Status k)]

/-- The call is a List. -/
def Op.IsList (op : Op Spec Status) : Prop :=
  ∃ k selector, op = .list k selector

/-- `r` is the answer `r₀`, with a list in any order. -/
def Reorders : (op : Op Spec Status) → Resp Spec Status op → Resp Spec Status op → Prop
  | .list _ _, .ok l₀, .ok l => l.Perm l₀
  | _, r₀, r => r = r₀

/-- The server with every list in an arbitrary order. -/
def ListStep (op : Op Spec Status) (c : ApiServer Spec Status) (r : Resp Spec Status op)
    (c' : ApiServer Spec Status) : Prop :=
  ∃ r₀, Step op c r₀ c' ∧ Reorders op r₀ r

section Rules

variable {σ α : Type} {op : Op Spec Status} {c c' : ApiServer Spec Status} {r : Resp Spec Status op}
  {st : σ} {P : Op Spec Status → ApiServer Spec Status → Prop}

theorem ListStep.step (hop : ¬op.IsList) (h : ListStep op c r c') : Step op c r c' := by
  obtain ⟨r₀, hstep, hr⟩ := h
  cases op with
  | list k selector => exact absurd ⟨k, selector, rfl⟩ hop
  | _ => exact hr ▸ hstep

/-- The state after a call does not depend on the order. -/
theorem ListStep.of_step (h : Step op c r c') : ListStep op c r c' := by
  refine ⟨r, h, ?_⟩
  cases op with
  | list k selector =>
    cases r with
    | ok l => exact List.Perm.refl l
    | error e => rfl
  | _ => rfl

/-- A routine that makes no lists does not notice the order. -/
theorem wp_listStep {τ : Type} {f : σ → τ} {x : Client Spec Status σ α}
    {Q : α → σ → ApiServer Spec Status → Prop} (hx : x.Frame (fun op => ¬op.IsList) f)
    (h : x.wp Step P Q st c) : x.wp ListStep P Q st c :=
  hx.handler (fun _ _ _ _ hop => ListStep.step hop) h

theorem wp_list_any {k : Kind} {selector : Object Spec Status k → Bool}
    {Q : List (Object Spec Status k) → σ → ApiServer Spec Status → Prop}
    (hP : P (.list k selector) c) (h : ∀ l, l.Perm ((c.objs k).filter selector) → Q l st c) :
    (list k selector).wp ListStep P Q st c := by
  refine wp_list_of hP ?_
  rintro l c' ⟨r₀, ⟨rfl, rfl⟩ | ⟨e, -, hfails, -⟩, hr⟩
  · exact h l hr
  · obtain rfl : r₀ = .error e := hfails
    cases hr

end Rules

end ApiServer
