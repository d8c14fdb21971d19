import Kubepark.PassGuarantees
import Kubepark.SandboxTeardown
import Mathlib.Logic.Relation

/-!
# Runs of the cluster

A run interleaves passes of the sandbox controller with the calls of everyone else. The
controller has one worker, so passes do not overlap; a pass may be cut short after any of its
calls, by a call that fails or by a restart. The others are users, the gateway, the other
controllers and the kubelet : they make any call but those that are the sandbox controller's
to make (`Foreign`). The clock moves on, and pods go away.

`RunInvariant` is what has to be shown for a property to hold in every state of a run. The
passes of a run may be restricted (`Allowed`) : the claims about runs that the code does not
meet in general are proved for the runs that avoid one kind of step.
-/

namespace Kubepark

open ApiServer Client SandboxReconciler

/-- A pass over `key` from `c`, cut short after the calls `t`, leaves `c'`. -/
def PartialPass (r : SandboxReconciler) (key : ObjectKey) (c : Cluster) (t : List (Call × Cluster))
    (c' : Cluster) : Prop :=
  (r.reconcile key ()).Visits Step c t c'

theorem PartialPass.calls {r : SandboxReconciler} {key : ObjectKey} {c c' : Cluster}
    {t : List (Call × Cluster)} (h : PartialPass r key c t c') :
    ∀ e ∈ t, PassCall r key c e.1 e.2 :=
  h.wp (reconcile_calls r key c)

/-- The pass against the faithful server. -/
theorem partialPass_runPass (r : SandboxReconciler) (key : ObjectKey) (c : Cluster) :
    PartialPass r key c (passTrace r key c) (runPass r key c).2 :=
  (Prog.exec_run step_handle (r.reconcile key ()) c).visits

/-- The call creates the object under `key` or writes its metadata or spec. -/
def Rewrites (k : Kind) (key : ObjectKey) (op : Call) : Prop :=
  (∃ o, op = .create k o ∧ o.key = key) ∨ (∃ o, op = .update k o ∧ o.key = key) ∨
    ∃ change, op = .patch k key change

/-- The calls of the others. -/
structure Foreign (op : Call) (c : Cluster) : Prop where
  /-- The pods of sandboxes are created and labelled by the controller only. -/
  pods : ∀ ns n, ¬Rewrites .pod ⟨ns, podName n⟩ op
  /-- The network policies of sandboxes are written and deleted by the controller only. -/
  policies : ∀ ns n, op.target ≠ some (.networkPolicy, ⟨ns, netPolName n⟩)
  /-- A sandbox has a name, and a UID of its own. -/
  sandboxes : ∀ sb, op = .create .sandbox sb → sb.metadata.name ≠ "" ∧
    ∀ sb' ∈ c.objs .sandbox, sb'.metadata.uid ≠ sb.metadata.uid
  /-- The controller's finalizer is left on. -/
  finalizers : ∀ sb old, op = .update .sandbox sb → c.find? .sandbox sb.key = some old →
    sandboxFinalizer ∈ old.metadata.finalizers → sandboxFinalizer ∈ sb.metadata.finalizers

/-- A user deletes a sandbox. -/
theorem foreign_sandbox_delete (key : ObjectKey) (site : String) (c : Cluster) :
    Foreign (.delete .sandbox key site) c where
  pods ns n := by
    rintro (⟨o, hop, -⟩ | ⟨o, hop, -⟩ | ⟨change, hop⟩) <;> cases hop
  policies ns n := by simp [Op.target]
  sandboxes sb hop := by cases hop
  finalizers sb old hop := by cases hop

/-- One step of a run. `Allowed key c t` restricts the passes : over `key`, from `c`, with the
calls `t`. -/
inductive RunStep (r : SandboxReconciler)
    (Allowed : ObjectKey → Cluster → List (Call × Cluster) → Prop) : Cluster → Cluster → Prop
  | pass {key : ObjectKey} {c c' : Cluster} {t : List (Call × Cluster)}
    (h : PartialPass r key c t c') (hallowed : Allowed key c t) : RunStep r Allowed c c'
  | foreign {op : Call} {c : Cluster} (h : Foreign op c) : RunStep r Allowed c (handle op c).2
  | tick {c : Cluster} (t : Time) (h : c.clock ≤ t) : RunStep r Allowed c { c with clock := t }
  /-- The grace period of a pod ends, or its node is gone. -/
  | podGone {c : Cluster} (key : ObjectKey) : RunStep r Allowed c (c.remove .pod key)

/-- A run from one state to another. -/
def Run (r : SandboxReconciler) (Allowed : ObjectKey → Cluster → List (Call × Cluster) → Prop) :
    Cluster → Cluster → Prop :=
  Relation.ReflTransGen (RunStep r Allowed)

/-- What has to be shown for `I` to hold all along a run : each call of a pass keeps it, and so
does each step of the others. -/
structure RunInvariant (r : SandboxReconciler)
    (Allowed : ObjectKey → Cluster → List (Call × Cluster) → Prop) (I : Cluster → Prop) : Prop where
  pass : ∀ key c t c', PartialPass r key c t c' → Allowed key c t → I c → I c'
  foreign : ∀ op c, Foreign op c → I c → I (handle op c).2
  tick : ∀ (c : Cluster) (t : Time), I c → I { c with clock := t }
  podGone : ∀ (c : Cluster) (key : ObjectKey), I c → I (c.remove .pod key)

/-- The invariant holds in every state of a run. -/
theorem RunInvariant.run {r : SandboxReconciler}
    {Allowed : ObjectKey → Cluster → List (Call × Cluster) → Prop} {I : Cluster → Prop}
    (h : RunInvariant r Allowed I) {c c' : Cluster} (hrun : Run r Allowed c c') (hc : I c) :
    I c' := by
  induction hrun with
  | refl => exact hc
  | tail _ hstep ih =>
    cases hstep with
    | pass hpass hallowed => exact h.pass _ _ _ _ hpass hallowed ih
    | foreign hop => exact h.foreign _ _ hop ih
    | tick t _ => exact h.tick _ t ih
    | podGone key => exact h.podGone _ key ih

/-! ## What happens to the objects of a sandbox -/

section Objects

variable {op : Call} {c c' : Cluster} {a : Resp Spec Status op} {key : ObjectKey}

/-- A sandbox that has the finalizer stays, with its UID, under calls that leave the finalizer
on. -/
theorem sandbox_stays {sb : Sandbox} (hs : Step op c a c') (hsb : c.find? .sandbox key = some sb)
    (hfinalizer : sandboxFinalizer ∈ sb.metadata.finalizers)
    (hop : ∀ o : Sandbox, op = .update .sandbox o → o.key = key →
      sandboxFinalizer ∈ o.metadata.finalizers) :
    ∃ sb', c'.find? .sandbox key = some sb' ∧ sb'.metadata.uid = sb.metadata.uid ∧
      sandboxFinalizer ∈ sb'.metadata.finalizers := by
  cases h : c'.find? .sandbox key with
  | none =>
    cases hs.gone hsb h with
    | deleted site _ _ hnone => simp [hnone] at hfinalizer
    | finalized new hop' hkey _ _ hnone => simpa [hnone] using hop new hop' hkey
  | some sb' =>
    refine ⟨sb', rfl, ?_⟩
    cases hs.written h with
    | kept hold =>
      obtain rfl := Option.some.inj (hsb.symm.trans hold)
      exact ⟨rfl, hfinalizer⟩
    | created o _ _ hnone => exact nomatch hsb.symm.trans hnone
    | updated old o hop' hkey hold h =>
      obtain rfl := Option.some.inj (hsb.symm.trans hold)
      subst h
      exact ⟨rfl, hop o hop' hkey⟩
    | statusUpdated old _ _ _ hold h | patched old _ _ hold h | statusPatched old _ _ hold h
    | terminated old _ _ hold _ _ h =>
      obtain rfl := Option.some.inj (hsb.symm.trans hold)
      subst h
      exact ⟨rfl, hfinalizer⟩

/-- A sandbox that is there after a call was there before, with the same UID, or is new. -/
theorem sandbox_origin {sb' : Sandbox} (hs : Step op c a c')
    (hsb' : c'.find? .sandbox key = some sb') :
    (∃ sb, c.find? .sandbox key = some sb ∧ sb'.metadata.uid = sb.metadata.uid) ∨
      ∃ o : Sandbox, op = .create .sandbox o ∧ o.key = key ∧ sb'.metadata.uid = o.metadata.uid := by
  cases hs.written hsb' with
  | kept hold => exact Or.inl ⟨sb', hold, rfl⟩
  | created o hop hkey _ h =>
    subst h
    exact Or.inr ⟨o, hop, hkey, rfl⟩
  | updated old _ _ _ hold h | statusUpdated old _ _ _ hold h | patched old _ _ hold h
  | statusPatched old _ _ hold h | terminated old _ _ hold _ _ h =>
    subst h
    exact Or.inl ⟨old, hold, rfl⟩

theorem sandbox_was {sb' : Sandbox} (hs : Step op c a c') (hsb' : c'.find? .sandbox key = some sb')
    (hop : ∀ o, op ≠ .create .sandbox o) :
    ∃ sb, c.find? .sandbox key = some sb ∧ sb'.metadata.uid = sb.metadata.uid := by
  rcases sandbox_origin hs hsb' with hold | ⟨o, hop', -⟩
  · exact hold
  · exact absurd hop' (hop o)

/-- A pod that is there after a call that does not rewrite it was there before, with the same
labels and spec. -/
theorem pod_stays {pod' : Pod} (hs : Step op c a c') (hpod' : c'.find? .pod key = some pod')
    (hop : ¬Rewrites .pod key op) : ∃ pod, c.find? .pod key = some pod ∧
      pod'.metadata.labels = pod.metadata.labels ∧ pod'.spec = pod.spec := by
  cases hs.written hpod' with
  | kept hold => exact ⟨pod', hold, rfl, rfl⟩
  | created o hop' hkey => exact absurd (Or.inl ⟨o, hop', hkey⟩) hop
  | updated old o hop' hkey => exact absurd (Or.inr (Or.inl ⟨o, hop', hkey⟩)) hop
  | patched old change hop' => exact absurd (Or.inr (Or.inr ⟨change, hop'⟩)) hop
  | statusUpdated old _ _ _ hold h | statusPatched old _ _ hold h | terminated old _ _ hold _ _ h =>
    subst h
    exact ⟨old, hold, rfl, rfl⟩

end Objects

end Kubepark
