import Kubepark.Changes
import Kubepark.PendingWakes
import Kubepark.SandboxConverges
import Kubepark.TeardownComplete

/-!
# No wake is lost

The controller looks at a sandbox when its key is in the work queue, and the watches that
`SetupWithManager` registers put it there. `SandboxSettled` says what a pass over a sandbox looks
at, so it says what has to be watched. `UnseenKept` lists what is not : who else claims the home,
the claim itself, the RoleBindings, and children that the sandbox does not own. Any other change to
a settled sandbox makes a request for it (`AtRest.touched`).

`no_wake_lost` puts this together with the passes that settle a sandbox. Whatever happens, calls by
anyone, pods that go away, passes that end well, fail or are cut short, the sandbox under a key is
at rest or its key is in the queue.
-/

namespace Kubepark

open ApiServer Client SandboxReconciler Routine

/-! ## What the watches tell of -/

/-- The event of a change to the object of kind `k` under `key'` adds a request for `key`. -/
structure Noticed (key : ObjectKey) (k : Kind) (key' : ObjectKey) (c c' : Cluster) : Prop where
  changed : c'.find? k key' ≠ c.find? k key'
  carried : ∃ o, (c.find? k key' = some o ∨ c'.find? k key' = some o) ∧ key ∈ requests c' k o

theorem Noticed.enqueued {key key' : ObjectKey} {k : Kind} {op : Call} {c c' : Cluster}
    (h : Noticed key k key' c c') (htarget : op.target = some (k, key')) :
    Enqueued key op c c' := by
  obtain ⟨o, hcarried, hmem⟩ := h.carried
  exact .event o htarget h.changed hcarried hmem

/-- What a pass over `sb` looks at and the watches do not tell of is as it was. -/
structure UnseenKept (c : Cluster) (sb : Sandbox) (c' : Cluster) : Prop where
  home : SameHome c sb c'
  bindings : ∀ ns, c'.find? .roleBinding (bindingKey sb ns) =
    c.find? .roleBinding (bindingKey sb ns)
  labelled : ∀ rb : RoleBinding, matchingLabel labelSandboxUID sb.metadata.uid rb = true →
    c'.find? .roleBinding rb.key = some rb → c.find? .roleBinding rb.key = some rb
  /-- A child of `sb` that is another now, was or is owned by `sb`. -/
  children : ∀ child ∈ ownedChildren sb,
    c'.find? child.1 ⟨sb.metadata.namespaceName, child.2⟩ =
      c.find? child.1 ⟨sb.metadata.namespaceName, child.2⟩ ∨
    ∃ o, (c.find? child.1 ⟨sb.metadata.namespaceName, child.2⟩ = some o ∨
        c'.find? child.1 ⟨sb.metadata.namespaceName, child.2⟩ = some o) ∧
      sb.metadata.uid ∈ o.metadata.ownerReferences

section Touched

variable {c c' : Cluster} {k : Kind} {key key' : ObjectKey} {sb : Sandbox}

/-- Of what has changed there is an object before or after. -/
theorem exists_carried (hne : c'.find? k key' ≠ c.find? k key') :
    ∃ o, c.find? k key' = some o ∨ c'.find? k key' = some o := by
  cases hold : c.find? k key' with
  | some o => exact ⟨o, Or.inl rfl⟩
  | none =>
    rw [hold] at hne
    obtain ⟨o, ho⟩ := Option.ne_none_iff_exists'.mp hne
    exact ⟨o, Or.inr ho⟩

/-- An object that makes a request whenever it changes has not changed without one. -/
theorem kept_of_unnoticed (ht : Touched k key' c c') (hn : ¬Noticed key k key' c c') {k₀ : Kind}
    {key₀ : ObjectKey} (hreq : ∀ o : Obj k₀, o.key = key₀ → key ∈ requests c' k₀ o) :
    c'.find? k₀ key₀ = c.find? k₀ key₀ := by
  by_contra hne
  obtain ⟨rfl, rfl⟩ := Prod.mk.inj (ht.at_of_ne hne)
  obtain ⟨o, ho⟩ := exists_carried hne
  exact hn ⟨hne, o, ho, hreq o (ho.elim key_of_find? key_of_find?)⟩

/-- A listing whose objects make a request whenever they change. -/
theorem listing_of_unnoticed (ht : Touched k key' c c') (hn : ¬Noticed key k key' c c') {k₀ : Kind}
    {p : Obj k₀ → Bool} (hreq : ∀ o, p o = true → key ∈ requests c' k₀ o) :
    (c'.objs k₀).filter p = (c.objs k₀).filter p := by
  by_cases hk : k₀ = k
  · subst hk
    have hout : ∀ o, (c.find? k₀ key' = some o ∨ c'.find? k₀ key' = some o) → p o = false :=
      fun o ho => Bool.eq_false_iff.mpr fun hp => hn ⟨ht.changed, o, ho, hreq o hp⟩
    exact ht.listing p (fun o ho => hout o (Or.inl ho)) fun o ho => hout o (Or.inr ho)
  · rw [ht.outside.objs (by simpa using hk)]

theorem mem_ownersOf {k : Kind} {o : Obj k} (hsb : c.find? .sandbox sb.key = some sb)
    (hns : o.metadata.namespaceName = sb.metadata.namespaceName)
    (howner : sb.metadata.uid ∈ o.metadata.ownerReferences) : sb.key ∈ ownersOf c o := by
  refine List.mem_map_of_mem (List.mem_filter.mpr ⟨mem_objs_iff.mpr hsb, ?_⟩)
  simpa [inNamespace, hns] using howner

/-- The owned kinds are watched for their owners. -/
theorem requests_of_ownedChildren {child : Kind × String} (hchild : child ∈ ownedChildren sb)
    (o : Obj child.1) : requests c child.1 o = ownersOf c o := by
  simp only [ownedChildren, List.mem_cons, List.not_mem_nil, or_false] at hchild
  rcases hchild with rfl | rfl | rfl | rfl <;> rfl

theorem child_of_unnoticed (ht : Touched k key' c c') (hn : ¬Noticed sb.key k key' c c')
    (hsb : c'.find? .sandbox sb.key = some sb) (hunseen : UnseenKept c sb c')
    (child : Kind × String) (hchild : child ∈ ownedChildren sb) :
    c'.find? child.1 ⟨sb.metadata.namespaceName, child.2⟩ =
      c.find? child.1 ⟨sb.metadata.namespaceName, child.2⟩ := by
  rcases hunseen.children child hchild with hsame | ⟨o, ho, howner⟩
  · exact hsame
  by_contra hne
  obtain ⟨rfl, rfl⟩ := Prod.mk.inj (ht.at_of_ne hne)
  have hns : o.metadata.namespaceName = sb.metadata.namespaceName :=
    congrArg ObjectKey.namespaceName (ho.elim key_of_find? key_of_find?)
  refine hn ⟨hne, o, ho, ?_⟩
  rw [requests_of_ownedChildren hchild]
  exact mem_ownersOf hsb hns howner

/-- What makes no request leaves what a pass looks at as it was. -/
theorem sameView_of_unnoticed (ht : Touched k key' c c') (hn : ¬Noticed sb.key k key' c c')
    (hsb : c'.find? .sandbox sb.key = some sb) (hname : sb.metadata.name ≠ "")
    (hunseen : UnseenKept c sb c') : SameView c sb c' where
  template := kept_of_unnoticed ht hn fun _ ho =>
    mem_requests_template hsb (congrArg ObjectKey.name ho)
  home := hunseen.home
  hostKey := child_of_unnoticed ht hn hsb hunseen (.secret, hostKeyName sb.metadata.name)
    (by simp [ownedChildren])
  policy := child_of_unnoticed ht hn hsb hunseen (.networkPolicy, netPolName sb.metadata.name)
    (by simp [ownedChildren])
  endpoints := by
    unfold clusterEndpoints
    rw [listing_of_unnoticed ht hn fun o ho => ?_]
    simp only [inNamespace, matchingLabel, Bool.and_eq_true, decide_eq_true_eq] at ho
    rw [requests, sandboxesForAPIServerEndpoints, if_neg (by simp [ho])]
    exact mem_requestsFrom hsb rfl
  rbac :=
    { profile := fun hnamed => kept_of_unnoticed ht hn fun _ ho =>
        mem_requests_profile hsb hnamed (congrArg ObjectKey.name ho)
      account := child_of_unnoticed ht hn hsb hunseen (.serviceAccount, saName sb.metadata.name)
        (by simp [ownedChildren])
      bindings := hunseen.bindings
      labelled := hunseen.labelled }
  sessions := by
    unfold activeSessions
    rw [List.countP_eq_length_filter, List.countP_eq_length_filter, List.filter_filter,
      List.filter_filter, listing_of_unnoticed ht hn fun o ho => ?_]
    simp only [inNamespace, Bool.and_eq_true, decide_eq_true_eq] at ho
    obtain ⟨⟨hsandbox, -⟩, hns⟩ := ho
    simp [requests, sandboxForSession, hsandbox, hns, hname, Object.key]
  pod := child_of_unnoticed ht hn hsb hunseen (.pod, podName sb.metadata.name)
    (by simp [ownedChildren])
  clock := ht.outside.clock

end Touched

/-! ## At rest -/

/-- The controller is done with the sandbox under `key` : there is none, it is settled, or it is
being deleted and the controller has let it go. -/
def AtRest (r : SandboxReconciler) (key : ObjectKey) (c : Cluster) : Prop :=
  ∀ sb, c.find? .sandbox key = some sb → SandboxSettled r c sb ∨
    sb.deleting = true ∧ sandboxFinalizer ∉ sb.metadata.finalizers

section AtRest

variable {r : SandboxReconciler} {key : ObjectKey} {c c' : Cluster} {sb : Sandbox}

theorem SandboxSettled.transport (h : SandboxSettled r c sb)
    (hsb : c'.find? .sandbox sb.key = some sb) (hc : SameView c sb c') : SandboxSettled r c' sb :=
  ⟨hsb, h.live, h.finalizer, h.generation, h.pass.transport hc⟩

theorem AtRest.same (h : AtRest r key c) (hc : SameOutside [] c c') : AtRest r key c' := by
  intro sb hsb
  rw [hc.find? List.not_mem_nil] at hsb
  obtain rfl := key_of_find? hsb
  refine (h sb hsb).imp_left fun hsettled =>
    hsettled.transport ((hc.find? List.not_mem_nil _).trans hsb) ?_
  exact sameView_of_same (hc.mono (by simp)) fun claim => conflictOf_congr hc (by simp) claim

/-- A change disturbs a sandbox that is at rest with a request for it only. -/
theorem AtRest.touched {k : Kind} {key' : ObjectKey} (h : AtRest r key c)
    (ht : Touched k key' c c') (hname : key.name ≠ "")
    (hunseen : ∀ sb, c.find? .sandbox key = some sb → UnseenKept c sb c') :
    AtRest r key c' ∨ Noticed key k key' c c' := by
  by_cases hn : Noticed key k key' c c'
  · exact Or.inr hn
  have hstored : c'.find? .sandbox key = c.find? .sandbox key :=
    kept_of_unnoticed ht hn fun o ho => ho ▸ List.mem_singleton_self _
  refine Or.inl fun sb hsb => ?_
  have hwas := hstored.symm.trans hsb
  obtain rfl := key_of_find? hsb
  exact (h sb hwas).imp_left fun hsettled =>
    hsettled.transport hsb (sameView_of_unnoticed ht hn hsb hname (hunseen sb hwas))

theorem AtRest.tick {t : Time} (h : AtRest r key c) (ht : c.clock ≤ t)
    (hwindow : ∀ sb tpl, c.find? .sandbox key = some sb → GatesOpen c sb tpl →
      Suspends { c with clock := t } sb tpl sb.status.lastActivityTime →
        Suspends c sb tpl sb.status.lastActivityTime) : AtRest r key { c with clock := t } := by
  intro sb hsb
  obtain rfl := key_of_find? hsb
  exact (h sb hsb).imp_left fun hsettled => (hsettled.quiet (.tick t ht hwindow)).1

/-- A pass without error over a sandbox that is being deleted lets it go. -/
theorem Pass.releases {t : List (Call × Cluster)} {result : Result} {sb' : Sandbox}
    (h : Pass r key c t (.ok result) c') (hsb : c.find? .sandbox key = some sb)
    (hdeleting : sb.deleting = true) (hsb' : c'.find? .sandbox key = some sb') :
    sb'.deleting = true ∧ sandboxFinalizer ∉ sb'.metadata.finalizers := by
  have hthere : StillThere key sb c := fun sb₁ hsb₁ =>
    ⟨sb.status, sb.metadata.finalizers, sb.metadata.resourceVersion,
      Option.some.inj (hsb₁.symm.trans hsb)⟩
  obtain ⟨_, _, _, hstamp⟩ := PartialPass.stillThere h.visits hdeleting hthere sb' hsb'
  refine ⟨hstamp ▸ hdeleting, ?_⟩
  by_cases hon : sandboxFinalizer ∈ sb.metadata.finalizers
  · exact ((h.wp (wp_reconcile_teardown hsb hdeleting hon)).2).2 sb' hsb'
  · -- Without the finalizer the pass has nothing to do.
    have hstays : (r.reconcile key).Ends Step (fun _ _ c' => c' = c) () c := by
      refine wp_bind.mpr (wp_getOptional.mpr ⟨trivial, ?_⟩)
      rw [hsb]
      refine wp_ite (fun _ => ?_) fun hlive => absurd hdeleting hlive
      exact wp_ite (fun _ => rfl) fun hoff => by simp [hon] at hoff
    obtain rfl := (h.wp hstays).2
    obtain rfl := Option.some.inj (hsb.symm.trans hsb')
    exact hon

/-- A pass without error leaves the sandbox at rest, or it has changed something that makes a
request for it. -/
theorem Pass.atRest {t : List (Call × Cluster)} {result : Result}
    (h : Pass r key c t (.ok result) c') (hheld : c.DeletionsHeld) :
    AtRest r key c' ∨ ∃ k key', Noticed key k key' c c' := by
  cases hsb : c.find? .sandbox key with
  | none =>
    have hstays : (r.reconcile key).Ends Step (fun _ _ c' => c' = c) () c := by
      refine wp_bind.mpr (wp_getOptional.mpr ⟨trivial, ?_⟩)
      rw [hsb]
      rfl
    obtain rfl := (h.wp hstays).2
    exact Or.inl fun sb hfound => nomatch hsb.symm.trans hfound
  | some sb =>
    by_cases hdeleting : sb.deleting = true
    · exact Or.inl fun sb' hsb' => Or.inr (h.releases hsb hdeleting hsb')
    obtain ⟨sb', _, _, _, hstamp, hsb', hsettled | hcreated⟩ :=
      h.settles hheld hsb (Bool.eq_false_iff.mpr hdeleting)
    · refine Or.inl fun sb₁ hsb₁ => Or.inl ?_
      exact Option.some.inj (hsb'.symm.trans hsb₁) ▸ hsettled
    · obtain ⟨pod, hpod, -, howner⟩ := hcreated.created
      obtain rfl := key_of_find? hsb'
      refine Or.inr ⟨.pod, podKey sb, ?_, pod, Or.inr hpod, mem_ownersOf hsb' ?_ ?_⟩
      · rw [hpod, hcreated.absent]
        exact Option.some_ne_none pod
      · rw [hstamp]
        exact congrArg ObjectKey.namespaceName (key_of_find? hpod)
      · rw [hstamp]
        exact howner

end AtRest

/-! ## Runs with a work queue -/

/-- The cluster, and whether the work queue of the controller has a request for the key. -/
structure Workload where
  cluster : Cluster
  queued : Bool

/-- One step of a run, as far as the sandbox under `key` is concerned. The steps say when a request
has to be in the queue; it may be there for other reasons. -/
inductive QueueStep (r : SandboxReconciler) (key : ObjectKey) : Workload → Workload → Prop
  /-- A call by anyone, passes over other sandboxes included. -/
  | call {c c' : Cluster} {q q' : Bool} {op : Call} {a : Resp Spec Status op} (h : Step op c a c')
    (hunseen : ∀ sb, c.find? .sandbox key = some sb → UnseenKept c sb c')
    (hq : q = true ∨ Enqueued key op c c' → q' = true) : QueueStep r key ⟨c, q⟩ ⟨c', q'⟩
  /-- The grace period of a pod ends, or its node is gone. -/
  | podGone {c : Cluster} {q q' : Bool} (pod : ObjectKey)
    (hunseen : ∀ sb, c.find? .sandbox key = some sb → UnseenKept c sb (c.remove .pod pod))
    (hq : q = true ∨ Noticed key .pod pod c (c.remove .pod pod) → q' = true) :
    QueueStep r key ⟨c, q⟩ ⟨c.remove .pod pod, q'⟩
  /-- A pass without error takes the request from the queue; what it changes may put it back. -/
  | pass {c c' : Cluster} {q q' : Bool} {t : List (Call × Cluster)} {result : Result}
    (h : Pass r key c t (.ok result) c')
    (hq : (∃ k key', Noticed key k key' c c') → q' = true) : QueueStep r key ⟨c, q⟩ ⟨c', q'⟩
  /-- A pass that fails is tried again, and so is one that is cut short by a restart. -/
  | retry {c c' : Cluster} {q : Bool} {t : List (Call × Cluster)} (h : PartialPass r key c t c') :
    QueueStep r key ⟨c, q⟩ ⟨c', true⟩
  /-- Time goes by within the idle window. -/
  | tick {c : Cluster} {q : Bool} (t : Time) (h : c.clock ≤ t)
    (hwindow : ∀ sb tpl, c.find? .sandbox key = some sb → GatesOpen c sb tpl →
      Suspends { c with clock := t } sb tpl sb.status.lastActivityTime →
        Suspends c sb tpl sb.status.lastActivityTime) :
    QueueStep r key ⟨c, q⟩ ⟨{ c with clock := t }, q⟩

/-- The sandbox is at rest, or its key is in the queue. -/
structure Watched (r : SandboxReconciler) (key : ObjectKey) (w : Workload) : Prop where
  held : w.cluster.DeletionsHeld
  versioned : w.cluster.Versioned
  rest : w.queued = true ∨ AtRest r key w.cluster

section Run

variable {r : SandboxReconciler} {key : ObjectKey} {w w' : Workload}

/-- What is at rest stays so, or its key comes into the queue. -/
theorem Watched.step (h : Watched r key w) (hname : key.name ≠ "") (hstep : QueueStep r key w w') :
    Watched r key w' := by
  cases hstep with
  | call hs hunseen hq =>
    refine ⟨hs.deletionsHeld h.held, hs.versioned h.versioned, ?_⟩
    rcases h.rest with hqueued | hrest
    · exact Or.inl (hq (Or.inl hqueued))
    rcases hs.touches h.versioned with hsame | ⟨k, key', htarget, ht⟩
    · exact Or.inr (hrest.same hsame)
    rcases hrest.touched ht hname hunseen with hrest' | hnoticed
    · exact Or.inr hrest'
    · exact Or.inl (hq (Or.inr (hnoticed.enqueued htarget)))
  | podGone pod hunseen hq =>
    refine ⟨deletionsHeld_remove h.held _ _, h.versioned.remove _ _, ?_⟩
    rcases h.rest with hqueued | hrest
    · exact Or.inl (hq (Or.inl hqueued))
    cases hpod : find? _ Kind.pod pod with
    | none => exact Or.inr (hrest.same (remove_of_none hpod))
    | some o =>
      rcases hrest.touched (touched_remove hpod) hname hunseen with hrest' | hnoticed
      · exact Or.inr hrest'
      · exact Or.inl (hq (Or.inr hnoticed))
  | pass hpass hq =>
    refine ⟨?_, ?_, ?_⟩
    · exact hpass.visits.preserves (P := fun _ _ => True) (fun _ _ => trivial)
        (fun _ _ _ _ _ hs => hs.deletionsHeld) h.held
    · exact hpass.visits.preserves (P := fun _ _ => True) (fun _ _ => trivial)
        (fun _ _ _ _ _ hs => hs.versioned) h.versioned
    · exact (hpass.atRest h.held).symm.imp_left hq
  | retry hpass =>
    refine ⟨?_, ?_, Or.inl rfl⟩
    · exact hpass.preserves (P := fun _ _ => True) (fun _ _ => trivial)
        (fun _ _ _ _ _ hs => hs.deletionsHeld) h.held
    · exact hpass.preserves (P := fun _ _ => True) (fun _ _ => trivial)
        (fun _ _ _ _ _ hs => hs.versioned) h.versioned
  | tick t ht hwindow =>
    exact ⟨h.held, h.versioned, h.rest.imp_right fun hrest => hrest.tick ht hwindow⟩

/-- No wake is lost. From a state in which the key is in the queue, as it is for every sandbox when
the controller starts, or the sandbox is at rest, every run leads to such a state again. -/
theorem no_wake_lost (r : SandboxReconciler) {key : ObjectKey} {w w' : Workload}
    (hname : key.name ≠ "") (hheld : w.cluster.DeletionsHeld) (hversioned : w.cluster.Versioned)
    (hstart : w.queued = true ∨ AtRest r key w.cluster)
    (hrun : Relation.ReflTransGen (QueueStep r key) w w') :
    w'.queued = true ∨ AtRest r key w'.cluster := by
  have hwatched : Watched r key w' := by
    induction hrun with
    | refl => exact ⟨hheld, hversioned, hstart⟩
    | tail _ hstep ih => exact ih.step hname hstep
  exact hwatched.rest

end Run

theorem Team.versioned_newborn : newborn.Versioned := by
  refine versioned_ofObjects fun k => ?_
  cases k <;> simp [template, sandbox]

/-- Three passes over a new sandbox, the last of which leaves the queue empty, and the sandbox is at
rest. -/
theorem newborn_sandbox_rests :
    AtRest Team.reconciler Team.key (Team.pass (Team.pass (Team.pass Team.newborn))) := by
  have hthird : ∀ c₁ c₂ result₁ result₂ result₃,
      Pass Team.reconciler Team.key Team.newborn (passTrace Team.reconciler Team.key Team.newborn)
        (.ok result₁) c₁ →
      Pass Team.reconciler Team.key c₁ (passTrace Team.reconciler Team.key c₁) (.ok result₂) c₂ →
      Pass Team.reconciler Team.key c₂ (passTrace Team.reconciler Team.key c₂) (.ok result₃)
        (Team.pass c₂) →
      AtRest Team.reconciler Team.key (Team.pass c₂) := by
    intro c₁ c₂ _ _ _ h₁ h₂ h₃
    obtain ⟨sb₂, hkey, hsettled⟩ := Pass.settles_again (t := c₁.clock) h₁ h₂
      Team.deletionsHeld_newborn
      (show Team.newborn.find? .sandbox Team.key = some (Team.sandbox .running {}) from rfl) rfl
      le_rfl
    have hstill : Team.pass c₂ = c₂ := by
      have hsame := hsettled.still
      rw [hkey] at hsame
      exact hsame.visits (partialPass_runPass Team.reconciler Team.key c₂)
    have hrun : Relation.ReflTransGen (QueueStep Team.reconciler Team.key) ⟨Team.newborn, true⟩
        ⟨Team.pass c₂, false⟩ := by
      have first : QueueStep Team.reconciler Team.key ⟨Team.newborn, true⟩ ⟨c₁, true⟩ :=
        .pass h₁ fun _ => rfl
      have second : QueueStep Team.reconciler Team.key ⟨c₁, true⟩ ⟨c₂, true⟩ :=
        .pass h₂ fun _ => rfl
      refine .tail (.tail (.single first) second) (.pass h₃ ?_)
      rintro ⟨k, key', hnoticed⟩
      exact absurd (by rw [hstill]) hnoticed.changed
    exact (no_wake_lost Team.reconciler (by decide) Team.deletionsHeld_newborn
      Team.versioned_newborn (Or.inl rfl) hrun).resolve_left Bool.false_ne_true
  obtain ⟨_, h₁⟩ := Team.pass_of_eval (c := Team.newborn) (by decide +kernel)
  obtain ⟨_, h₂⟩ := Team.pass_of_eval (c := Team.pass Team.newborn) (by decide +kernel)
  obtain ⟨_, h₃⟩ := Team.pass_of_eval (c := Team.pass (Team.pass Team.newborn)) (by decide +kernel)
  exact hthird _ _ _ _ _ h₁ h₂ h₃

end Kubepark
