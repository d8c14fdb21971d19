import Kubepark.SandboxReport
import Kubepark.SuspendRoute

/-!
# Which home claims the controller deletes

The controller deletes a claim in one place, when it tears down a sandbox that asks for it, and
it goes by the name : the claim under the generated name of the sandbox. Nothing records that it
was the controller who created that claim. A user who creates a claim under a generated name
loses it with the sandbox that adopts it (`adopted_claim_deleted`); in every run in which no user
does so the controller deletes only what it created (`deletes_own_claims`).

Each call of a pass is a step here, and the others act between any two of them.
-/

namespace Kubepark

open ApiServer Client SandboxReconciler Routine

/-! ## The calls of a pass -/

/-- Of the claims, the call creates one that the controller builds, or deletes one under a
generated name. -/
structure ClaimOp (op : Call) : Prop where
  creates : ∀ o, op = .create .persistentVolumeClaim o → ∃ sb tpl, o = buildPVC sb tpl
  deletes : ∀ key site, op = .delete .persistentVolumeClaim key site → ∃ n, key.name = pvcName n

theorem ClaimOp.of_within {ks : List Kind} {op : Call} (h : op.Within ks)
    (hks : Kind.persistentVolumeClaim ∉ ks) : ClaimOp op where
  creates o hop := by
    subst hop
    exact absurd (h _ rfl) hks
  deletes key site hop := by
    subst hop
    exact absurd (h _ rfl) hks

theorem claimOp_gate {ks : List Kind} {op : Call} (h : GateOp ks op)
    (hks : Kind.persistentVolumeClaim ∉ ks) : ClaimOp op :=
  .of_within h.within hks

theorem claimOp_read {op : Call} (h : op.target = none) : ClaimOp op :=
  ⟨fun _ hop => (nomatch (hop ▸ h)), fun _ _ hop => (nomatch (hop ▸ h))⟩

section Frames

variable (r : SandboxReconciler) (sb : Sandbox)

/-- What is known of the record of a pass when only its calls matter. -/
def ignored {σ : Type} (_ : σ) : Unit :=
  ()

theorem frame_suspend_pod : (suspend sb).Frame (·.Within [.pod]) ignored := by
  refine Routine.Frame.bind (fun _ => rfl) fun _ => ?_
  refine (frame_getOptional (within_read rfl)).bind fun pod => ?_
  cases pod with
  | none => exact fun _ => rfl
  | some pod =>
    refine Routine.Frame.bind (fun _ => rfl) fun _ => ?_
    refine frame_ite (frame_pure _) ?_
    exact (frame_deleteIfPresent (within_write rfl (by simp))).bind fun _ => frame_pure _

theorem frame_run_pod (tpl : SandboxTemplate) (currentHash serviceAccount : String) :
    (r.run sb tpl currentHash serviceAccount).Frame (·.Within [.pod]) ignored := by
  have htail : ((reportDrift sb currentHash >>= fun _ => pure {}) : SandboxM Result).Frame
      (·.Within [.pod]) ignored := by
    refine Routine.Frame.bind (fun st => ?_) fun _ => frame_pure _
    show ((if _ then _ else _ : SandboxM Unit) st).Within _ _
    split_ifs <;> rfl
  refine (frame_getOptional (within_read rfl)).bind fun pod => ?_
  cases pod with
  | none =>
    refine (frame_createIfAbsent (within_write rfl (by simp))).bind fun _ => ?_
    exact fun _ => rfl
  | some pod =>
    refine Routine.Frame.bind (frame_modify fun _ => rfl) fun _ => ?_
    refine frame_ite ?_ (frame_ite ?_ ?_)
    · refine frame_ite (fun _ => rfl) ?_
      exact (frame_deleteIfPresent (within_write rfl (by simp))).bind fun _ _ => rfl
    · refine Routine.Frame.bind ?_ fun _ => htail
      exact (frame_call (within_read rfl)).bind fun _ _ => rfl
    · exact Routine.Frame.bind (fun _ => rfl) fun _ => htail

theorem frame_driveState_pod (tpl : SandboxTemplate) (serviceAccount : String) :
    (r.driveState sb tpl serviceAccount).Frame (·.Within [.pod]) ignored := by
  have hnow : (now : SandboxM Time).Frame (·.Within [.pod]) ignored :=
    frame_call (within_read rfl)
  refine frame_ite (frame_suspend_pod sb) ?_
  refine Routine.Frame.bind ?_ fun active => Routine.Frame.bind (fun _ => rfl) fun _ => ?_
  · exact (frame_list (within_read rfl)).bind fun _ => frame_pure _
  refine Routine.Frame.bind (fun _ => rfl) fun st => hnow.bind fun t => ?_
  refine frame_ite (frame_suspend_pod sb) ?_
  refine (frame_run_pod r sb tpl _ serviceAccount).bind fun result => ?_
  exact Routine.Frame.bind (fun _ => rfl) fun st => hnow.bind fun t => frame_pure _

/-- Of the claims, the body of a pass creates one, as the controller builds it. -/
theorem frame_reconcileSandbox_claims : (r.reconcileSandbox sb).Frame ClaimOp ignored := by
  have hpending : ∀ reason message, (pendingWith sb reason message).Frame ClaimOp ignored :=
    fun _ _ _ => rfl
  refine (frame_getOptional (claimOp_read rfl)).bind fun tpl => ?_
  cases tpl with
  | none => exact hpending _ _
  | some tpl =>
    refine Routine.Frame.bind (frame_reconcileHome sb ?_ ?_ fun _ _ _ _ _ => rfl) fun requeue => ?_
    · exact fun op h => claimOp_gate h List.not_mem_nil
    · refine fun tpl => ⟨fun o ho => ⟨sb, tpl, ?_⟩, nofun⟩
      cases ho
      rfl
    cases requeue with
    | some requeue => exact frame_pure _
    | none =>
      refine ((frame_reconcileHostKey r sb).imp fun _ h => claimOp_gate h (by decide)).bind
        fun _ => ?_
      refine ((frame_reconcileNetworkPolicy r sb tpl).imp fun _ h => claimOp_gate h
        (by decide)).bind fun _ => ?_
      refine Routine.Frame.bind ((frame_reconcileRBAC sb ?_).imp fun _ h => claimOp_gate h
        (by decide)) fun rbac => frame_ite ?_ (hpending _ _)
      · exact fun _ _ _ _ => rfl
      · exact (frame_driveState_pod r sb tpl _).imp fun _ h => .of_within h (by decide)

theorem frame_reconcileLive_claims : (r.reconcileLive sb).Frame ClaimOp ignored := by
  have hsandbox : ∀ {op : Call}, op.Within [.sandbox] → ClaimOp op :=
    fun h => .of_within h (by decide)
  refine Routine.Frame.bind (frame_ite (frame_pure _) (frame_update
    (hsandbox (within_write rfl (by simp))))) fun sb => ?_
  refine ((frame_reconcileSandbox_claims r sb).runFrom _).bind fun out => ?_
  have hpatch : (patchStatus sb out.2 : ClientM Unit Unit).Frame ClaimOp ignored :=
    frame_ite (frame_pure _) ((frame_updateStatusIfPresent
      (hsandbox (within_write rfl (by simp)))).bind fun _ => frame_pure _)
  refine (hpatch.runFrom ()).bind fun _ => ?_
  refine (frame_ofExcept _).bind fun _ => ?_
  exact (frame_ofExcept _).bind fun _ => frame_pure _

end Frames

section Calls

variable {S : Type} {H : (op : Call) → S → Resp Spec Status op → S → Prop}
  (hget : ∀ k key s o s', H (.get k key) s (.ok o) s' → o.key = key)
  (sb : Sandbox) {σ : Type} {st : σ} {s : S}

include hget

/-- What is deleted is what was read, under the generated name. -/
theorem always_applyHomeRetainPolicy :
    (applyHomeRetainPolicy sb : ClientM σ Unit).Always H (fun op _ => ClaimOp op) st s := by
  unfold applyHomeRetainPolicy
  cases existingClaim sb with
  | some claim => trivial
  | none =>
    refine wp_bind.mpr (wp_getOptional_of (claimOp_read rfl) ?_ ?_)
    · intro pvc s' hpvc
      have hkey : pvc.key = homeKey sb := hget _ _ _ _ _ hpvc
      refine Routine.Frame.always (P := ClaimOp) (f := ignored) (frame_ite ?_ ?_)
        fun _ _ h => h
      · refine frame_deleteIfPresent ⟨nofun, fun key site hop => ⟨sb.metadata.name, ?_⟩⟩
        cases hop
        rw [hkey]
        rfl
      · exact frame_updateIfPresent ⟨nofun, nofun⟩
    · exact fun _ _ _ => trivial

theorem always_finalize_claims :
    (finalize sb : ClientM σ Result).Always H (fun op _ => ClaimOp op) st s := by
  have hcalls : ∀ {α : Type} {ks : List Kind} {x : ClientM σ α} {st : σ} {s : S},
      x.Frame (·.Within ks) ignored → Kind.persistentVolumeClaim ∉ ks →
        x.Always H (fun op _ => ClaimOp op) st s :=
    fun hx hks => hx.always fun _ _ h => .of_within h hks
  have hsandbox : Kind.sandbox ∈ [Kind.sandbox] := List.mem_singleton_self _
  have hmark : (markTerminating sb : ClientM σ Sandbox).Frame (·.Within [.sandbox]) ignored :=
    frame_ite (frame_pure _) ((frame_updateStatusIfPresent
      (within_write rfl hsandbox)).bind fun _ => frame_pure _)
  refine wp_ite (fun _ => trivial) fun _ => ?_
  refine (hcalls hmark (by decide)).bind fun sb st s => ?_
  refine Routine.Always.bind (Routine.Always.forEach _ fun child hchild st s => ?_) fun _ st s => ?_
  · exact hcalls (frame_deleteIfPresent (within_write rfl (kind_of_ownedChildren sb hchild)))
      (by decide)
  refine (hcalls ((frame_gcRBAC sb none).imp fun _ h => h.within) (by decide)).bind fun _ st s => ?_
  refine (hcalls (frame_closeSessions sb) (by decide)).bind fun _ st s => ?_
  refine (always_applyHomeRetainPolicy hget sb).bind fun _ st s => ?_
  exact (hcalls (frame_update (within_write rfl hsandbox)) (by decide)).bind fun _ _ _ => trivial

/-- Whatever it is answered otherwise, a pass deletes claims under generated names only, and
creates only claims that it builds. -/
theorem always_reconcile_claims (r : SandboxReconciler) (key : ObjectKey) :
    (r.reconcile key).Always H (fun op _ => ClaimOp op) () s := by
  refine Routine.Always.bind ((frame_getOptional (f := ignored) (claimOp_read rfl)).always
    fun _ _ h => h) fun found _ s => ?_
  cases found with
  | none => trivial
  | some sb =>
    refine wp_ite (fun _ => always_finalize_claims hget sb) fun _ => ?_
    exact (frame_reconcileLive_claims r sb).always fun _ _ h => h

end Calls

/-! ## Runs -/

/-- The cluster, and for each claim that the controller created the object of that `Create`. -/
structure ClaimWorld where
  cluster : Cluster
  madeBy : ObjectKey → Option PersistentVolumeClaim

/-- The object of a `Create` of the claim under `key`. -/
def createdClaim (op : Call) (key : ObjectKey) : Option PersistentVolumeClaim :=
  match op with
  | .create .persistentVolumeClaim o => if o.key = key then some o else none
  | _ => none

/-- The cluster goes on to `c'`. A claim that stands keeps its origin; one that comes into being
has the origin `made`. -/
def ClaimWorld.next (w : ClaimWorld) (c' : Cluster)
    (made : ObjectKey → Option PersistentVolumeClaim) : ClaimWorld where
  cluster := c'
  madeBy key :=
    if (w.cluster.find? .persistentVolumeClaim key).isSome then w.madeBy key else made key

/-- A call of the controller. -/
def ControllerCall (op : Call) (w : ClaimWorld) (a : Resp Spec Status op) (w' : ClaimWorld) :
    Prop :=
  ∃ c', Step op w.cluster a c' ∧ w' = w.next c' (createdClaim op)

/-- A step of the others, whose calls are those that `Allowed` admits. -/
inductive OthersStep (Allowed : Call → Prop) : ClaimWorld → ClaimWorld → Prop
  | call {op : Call} (w : ClaimWorld) (h : Allowed op) :
    OthersStep Allowed w (w.next (handle op w.cluster).2 fun _ => none)
  | tick (w : ClaimWorld) (t : Time) (h : w.cluster.clock ≤ t) :
    OthersStep Allowed w (w.next { w.cluster with clock := t } fun _ => none)
  | podGone (w : ClaimWorld) (key : ObjectKey) :
    OthersStep Allowed w (w.next (w.cluster.remove .pod key) fun _ => none)

/-- A run, with the calls of the controller and the state each was made in. A pass may be cut
short after any of its calls. -/
inductive ClaimRun (r : SandboxReconciler) (Allowed : Call → Prop) (w₀ : ClaimWorld) :
    List (Call × ClaimWorld) → ClaimWorld → Prop
  | start : ClaimRun r Allowed w₀ [] w₀
  | others {t : List (Call × ClaimWorld)} {w w' : ClaimWorld} (hrun : ClaimRun r Allowed w₀ t w)
    (h : OthersStep Allowed w w') : ClaimRun r Allowed w₀ t w'
  | pass {t t' : List (Call × ClaimWorld)} {w w' : ClaimWorld} (hrun : ClaimRun r Allowed w₀ t w)
    (key : ObjectKey) (h : (r.reconcile key ()).Visits
      (Prog.interleaved ControllerCall (OthersStep Allowed)) w t' w') :
    ClaimRun r Allowed w₀ (t ++ t') w'

/-- Every claim under a generated name was created by the controller, as it builds claims. -/
def ClaimsOwn (w : ClaimWorld) : Prop :=
  ∀ key n, key.name = pvcName n → (w.cluster.find? .persistentVolumeClaim key).isSome →
    ∃ sb tpl, w.madeBy key = some (buildPVC sb tpl)

/-- The call does not create a claim under a generated name. -/
def LeavesNames (op : Call) : Prop :=
  ∀ o n, op = .create .persistentVolumeClaim o → o.metadata.name ≠ pvcName n

/-- What a step has to do for the claims to be the controller's own : whatever claim it brings
into being has to be one that the controller builds. -/
theorem ClaimsOwn.next {w : ClaimWorld} {c' : Cluster}
    {made : ObjectKey → Option PersistentVolumeClaim} (h : ClaimsOwn w)
    (hnew : ∀ key n pvc, key.name = pvcName n →
      w.cluster.find? .persistentVolumeClaim key = none →
        c'.find? .persistentVolumeClaim key = some pvc →
          ∃ sb tpl, made key = some (buildPVC sb tpl)) : ClaimsOwn (w.next c' made) := by
  intro key n hname hpresent
  simp only [ClaimWorld.next]
  split_ifs with hstood
  · exact h key n hname hstood
  · obtain ⟨pvc, hpvc⟩ := Option.isSome_iff_exists.mp hpresent
    exact hnew key n pvc hname (by simpa using hstood) hpvc

theorem ClaimsOwn.controllerCall {op : Call} {w w' : ClaimWorld} {a : Resp Spec Status op}
    (h : ClaimsOwn w) (hop : ClaimOp op) (hcall : ControllerCall op w a w') : ClaimsOwn w' := by
  obtain ⟨c', hstep, rfl⟩ := hcall
  refine h.next fun key n pvc _ hnone hpvc => ?_
  cases hstep.written hpvc with
  | kept hold => exact nomatch hnone.symm.trans hold
  | created o hop' hkey =>
    obtain ⟨sb, tpl, rfl⟩ := hop.creates o hop'
    subst hop'
    exact ⟨sb, tpl, by simp [createdClaim, hkey]⟩
  | updated old _ _ _ hold | statusUpdated old _ _ _ hold | patched old _ _ hold
  | statusPatched old _ _ hold | terminated old _ _ hold => exact nomatch hnone.symm.trans hold

theorem ClaimsOwn.othersStep {w w' : ClaimWorld} (h : ClaimsOwn w)
    (hstep : OthersStep LeavesNames w w') : ClaimsOwn w' := by
  cases hstep with
  | @call op _ hop =>
    refine h.next fun key n pvc hname hnone hpvc => ?_
    cases (step_handle op w.cluster).written hpvc with
    | kept hold => exact nomatch hnone.symm.trans hold
    | created o hop' hkey =>
      subst hkey
      exact absurd hname (hop o n hop')
    | updated old _ _ _ hold | statusUpdated old _ _ _ hold | patched old _ _ hold
    | statusPatched old _ _ hold | terminated old _ _ hold => exact nomatch hnone.symm.trans hold
  | tick t ht => exact h.next fun key n pvc _ hnone hpvc => nomatch hnone.symm.trans hpvc
  | podGone key' =>
    refine h.next fun key n pvc _ hnone hpvc => ?_
    rw [find?_remove_ne _ _ _ (by simp)] at hpvc
    exact nomatch hnone.symm.trans hpvc

theorem ClaimsOwn.interleaved {op : Call} {w w' : ClaimWorld} {a : Resp Spec Status op}
    (h : ClaimsOwn w) (hop : ClaimOp op)
    (hcall : Prog.interleaved ControllerCall (OthersStep LeavesNames) op w a w') :
    ClaimsOwn w' := by
  obtain ⟨w₁, hcall, hothers⟩ := hcall
  have h₁ := h.controllerCall hop hcall
  clear hcall
  induction hothers with
  | refl => exact h₁
  | tail _ hstep ih => exact ih.othersStep hstep

section Pass

variable {r : SandboxReconciler} {key : ObjectKey} {w w' : ClaimWorld}
  {t : List (Call × ClaimWorld)}

/-- A pass keeps the claims the controller's own, at each of its calls and wherever it stops. -/
theorem ClaimsOwn.pass (h : ClaimsOwn w) (hpass : (r.reconcile key ()).Visits
    (Prog.interleaved ControllerCall (OthersStep LeavesNames)) w t w') :
    ClaimsOwn w' ∧ ∀ e ∈ t, ClaimOp e.1 ∧ ClaimsOwn e.2 := by
  have hget : ∀ k key w o w', Prog.interleaved ControllerCall (OthersStep LeavesNames)
      (.get k key) w (.ok o) w' → o.key = key := by
    rintro k key w o w' ⟨w₁, ⟨c', hstep, -⟩, -⟩
    exact key_of_find? hstep.get_ok.1
  have hcalls := wp_preserves (I := ClaimsOwn)
    (fun op w a w' hop hcall h => h.interleaved hop hcall)
    (always_reconcile_claims hget r key) h
  have htrace : ∀ e ∈ t, ClaimOp e.1 ∧ ClaimsOwn e.2 :=
    Prog.Visits.wp (P := fun op w => ClaimOp op ∧ ClaimsOwn w) hpass hcalls
  refine ⟨?_, htrace⟩
  exact hpass.preserves (P := fun op _ => ClaimOp op) (fun e he => (htrace e he).1)
    (fun op w a w' hop hcall h => h.interleaved hop hcall) h

end Pass

theorem ClaimsOwn.run {r : SandboxReconciler} {w w' : ClaimWorld} {t : List (Call × ClaimWorld)}
    (h : ClaimsOwn w) (hrun : ClaimRun r LeavesNames w t w') :
    ClaimsOwn w' ∧ ∀ e ∈ t, ClaimOp e.1 ∧ ClaimsOwn e.2 := by
  induction hrun with
  | start => exact ⟨h, by simp⟩
  | others _ hstep ih => exact ⟨ih.1.othersStep hstep, ih.2⟩
  | pass _ key hpass ih =>
    obtain ⟨hw, ht⟩ := ih.1.pass hpass
    exact ⟨hw, fun e he => (List.mem_append.mp he).elim (ih.2 e) (ht e)⟩

/-- The call deletes a claim that is there and that the controller did not create. -/
def DeletesForeignClaim (op : Call) (w : ClaimWorld) : Prop :=
  ∃ key site, op = .delete .persistentVolumeClaim key site ∧
    (w.cluster.find? .persistentVolumeClaim key).isSome ∧
      ∀ sb tpl, w.madeBy key ≠ some (buildPVC sb tpl)

/-- In a run that starts without claims under generated names, and in which no one else creates
a claim under such a name, the controller deletes only claims that it created. -/
theorem deletes_own_claims (r : SandboxReconciler) (w₀ w : ClaimWorld)
    (t : List (Call × ClaimWorld))
    (hstart : ∀ key n, key.name = pvcName n →
      w₀.cluster.find? .persistentVolumeClaim key = none)
    (hrun : ClaimRun r LeavesNames w₀ t w) : ∀ e ∈ t, ¬DeletesForeignClaim e.1 e.2 := by
  have hown : ClaimsOwn w₀ := fun key n hname h => by simp [hstart key n hname] at h
  rintro e he ⟨key, site, hop, hpresent, hforeign⟩
  obtain ⟨hclaim, hown⟩ := (hown.run hrun).2 e he
  obtain ⟨n, hname⟩ := hclaim.deletes key site hop
  obtain ⟨sb, tpl, hmade⟩ := hown key n hname hpresent
  exact hforeign sb tpl hmade

/-! ## A claim under a generated name -/

/-- The rule of the CRD on the home of a sandbox. -/
def AdmissibleHome (spec : SandboxSpec) : Prop :=
  ∀ home, spec.home = some home → home.existingClaim ≠ "" → home.retainPolicy ≠ .delete

/-- What users do with claims and sandboxes. -/
inductive UserAction : Call → Prop
  | createClaim (pvc : PersistentVolumeClaim) : UserAction (.create .persistentVolumeClaim pvc)
  | createSandbox (sb : Sandbox) (h : AdmissibleHome sb.spec) : UserAction (.create .sandbox sb)
  | editSandbox (key : ObjectKey) (change : SandboxSpec → SandboxSpec)
    (h : ∀ spec, AdmissibleHome (change spec)) : UserAction (.patch .sandbox key change)
  | deleteSandbox (key : ObjectKey) : UserAction (.delete .sandbox key "user")

namespace Team

/-- A call of the controller, against the faithful server. -/
def serveClaims (op : Call) (w : ClaimWorld) : Resp Spec Status op × ClaimWorld :=
  ((handle op w.cluster).1, w.next (handle op w.cluster).2 (createdClaim op))

theorem visits_serveClaims (Allowed : Call → Prop) (w : ClaimWorld) :
    (reconciler.reconcile key ()).Visits (Prog.interleaved ControllerCall (OthersStep Allowed)) w
      ((reconciler.reconcile key ()).trace serveClaims w)
      ((reconciler.reconcile key ()).run serveClaims w).2 :=
  (Prog.exec_run (fun op w => ⟨_, ⟨_, step_handle op w.cluster, rfl⟩, .refl⟩) _ w).visits

/-- A user makes a call. -/
def acts (op : Call) (w : ClaimWorld) : ClaimWorld :=
  w.next (handle op w.cluster).2 fun _ => none

/-- The controller makes a pass over the sandbox. -/
def tends (w : ClaimWorld) : ClaimWorld :=
  ((reconciler.reconcile key ()).run serveClaims w).2

/-- Alice's sandbox, whose home is to be deleted with it. -/
def disposable : Sandbox :=
  { sandbox .running {} with
    spec :=
      { template := "base"
        owner := { name := "alice" }
        home := some { retainPolicy := .delete } } }

def noClaims : ClaimWorld where
  cluster := vacant
  madeBy _ := none

/-- From the creation of the sandbox to its deletion. -/
def lived (w : ClaimWorld) : ClaimWorld :=
  acts (.delete .sandbox key "user") (tends (acts (.create .sandbox disposable) w))

/-- The controller deletes a claim : whether it had created it. -/
def deletesClaim (created : Bool) (e : Call × ClaimWorld) : Bool :=
  match e.1 with
  | .delete .persistentVolumeClaim key _ =>
    (e.2.cluster.find? .persistentVolumeClaim key).isSome && (e.2.madeBy key).isSome == created
  | _ => false

/-- The calls of the pass that tears the sandbox down. -/
def teardown (w : ClaimWorld) : List (Call × ClaimWorld) :=
  (reconciler.reconcile key ()).trace serveClaims (lived w)

/-- Alice has a claim named as the home of her sandbox will be. -/
def named : PersistentVolumeClaim :=
  ⟨{ name := "kubepark-home-dev", namespaceName := "team" }, ⟨[], none, 1⟩, ()⟩

theorem run_teardown {Allowed : Call → Prop} {w₀ w : ClaimWorld} {t : List (Call × ClaimWorld)}
    (hcreate : Allowed (.create .sandbox disposable))
    (hdelete : Allowed (.delete .sandbox key "user"))
    (hrun : ClaimRun reconciler Allowed w₀ t w) :
    ∃ t', ClaimRun reconciler Allowed w₀ (t' ++ teardown w) (tends (lived w)) := by
  have hcreated := hrun.others (.call w hcreate)
  have htended := hcreated.pass key (visits_serveClaims Allowed _)
  have hdeleted := htended.others (.call _ hdelete)
  exact ⟨_, hdeleted.pass key (visits_serveClaims Allowed _)⟩

theorem deletesForeignClaim_of {e : Call × ClaimWorld} (h : deletesClaim false e = true) :
    DeletesForeignClaim e.1 e.2 := by
  obtain ⟨op, w⟩ := e
  unfold deletesClaim at h
  split at h
  · rename_i key site hop
    obtain ⟨hpresent, hnone⟩ := by simpa only [Bool.and_eq_true] using h
    refine ⟨key, site, hop, hpresent, fun sb tpl hmade => ?_⟩
    rw [hmade] at hnone
    exact nomatch hnone
  · exact nomatch h

end Team

/-- A claim that the controller created is deleted with its sandbox, and no other is. -/
theorem generated_claim_deleted : ∃ (t : List (Call × ClaimWorld)) (w : ClaimWorld),
    ClaimRun Team.reconciler LeavesNames Team.noClaims t w ∧
      (∃ e ∈ t, Team.deletesClaim true e = true) ∧ ∀ e ∈ t, ¬DeletesForeignClaim e.1 e.2 := by
  have hdeletes : (Team.teardown Team.noClaims).any (Team.deletesClaim true) = true := by
    decide +kernel
  have hstart : ClaimRun Team.reconciler LeavesNames Team.noClaims [] Team.noClaims := .start
  obtain ⟨t, hrun⟩ := Team.run_teardown nofun nofun hstart
  obtain ⟨e, he, hdelete⟩ := List.any_eq_true.mp hdeletes
  refine ⟨_, _, hrun, ⟨e, List.mem_append_right t he, hdelete⟩, ?_⟩
  exact deletes_own_claims Team.reconciler Team.noClaims _ _ (fun _ _ _ => rfl) hrun

/-- The controller takes a claim for the home of a sandbox by its name alone, and deletes it
with the sandbox. -/
theorem adopted_claim_deleted : ∃ (r : SandboxReconciler) (w₀ w : ClaimWorld)
    (t : List (Call × ClaimWorld)),
    (∀ key, w₀.cluster.find? .persistentVolumeClaim key = none) ∧ ClaimRun r UserAction w₀ t w ∧
      ∃ e ∈ t, DeletesForeignClaim e.1 e.2 := by
  have hdeletes : (Team.teardown (Team.acts (.create .persistentVolumeClaim Team.named)
      Team.noClaims)).any (Team.deletesClaim false) = true := by decide +kernel
  have hadmissible : AdmissibleHome Team.disposable.spec := by
    rintro home ⟨⟩ h
    exact absurd rfl h
  have hnamed : ClaimRun Team.reconciler UserAction Team.noClaims []
      (Team.acts (.create .persistentVolumeClaim Team.named) Team.noClaims) :=
    .others .start (.call _ (.createClaim _))
  obtain ⟨t, hrun⟩ := Team.run_teardown (.createSandbox _ hadmissible) (.deleteSandbox _) hnamed
  obtain ⟨e, he, hdelete⟩ := List.any_eq_true.mp hdeletes
  exact ⟨_, _, _, _, fun _ => rfl, hrun, e, List.mem_append_right t he,
    Team.deletesForeignClaim_of hdelete⟩

end Kubepark
