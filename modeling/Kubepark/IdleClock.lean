import Kubepark.ClusterRuns
import Kubepark.SessionController

/-!
# The idle clock over whole runs

The idle clock of a sandbox is started by the pass that first reports the sandbox running, is
moved on by the session controller, and is read by the passes of the sandbox controller. Here
the three are put together : a run interleaves passes of both controllers, each possibly cut
short, with the calls of the gateway's store, of users and of the kubelet.

A run is judged by what it did, which the state does not record : a `History` says on which
sandbox object a session was opened, when a sandbox object first ran, and whether a session was
reconciled since it was closed. `Effect` says once what a step can do to idle clocks and
sessions; `IdleInv` follows from it, and `no_early_idle_suspension` from `IdleInv`.

The code suspends early in two ways (`idle_suspended_early`). A pass may look at the clock
before the session controller has moved it; and a Closed session may start the clock of a
sandbox that has not run yet, for the session names its sandbox and outlives it. Where the
sessions of a sandbox are reconciled before the pass, and only when the sandbox of that name
has run, no sandbox is suspended early.
-/

namespace Kubepark

open ApiServer Client SandboxReconciler SessionReconciler

/-! ## What a run did -/

/-- What a run did, as far as idle suspension is concerned. A sandbox object is known by its key
and its UID. Nothing reads the history but specifications. -/
structure History where
  /-- The UID of the sandbox that the session was opened on. -/
  openedOn : ObjectKey → Option String
  /-- When the sandbox object was first seen Running. -/
  firstRunning : ObjectKey → String → Option Time
  /-- Whether the session was reconciled since it was closed. -/
  folded : ObjectKey → Bool

/-- The state of the API server, and what the run did so far. -/
structure World where
  cluster : Cluster
  history : History

/-- Nothing has happened yet. -/
def World.start (c : Cluster) : World where
  cluster := c
  history := ⟨fun _ => none, fun _ _ => none, fun _ => false⟩

namespace History

variable (h : History) (c c' : Cluster)

/-- The history after a step from `c` to `c'`. A session that is new was opened on the sandbox
that has the name by then. -/
def observe : History where
  openedOn key :=
    match c.find? .sandboxSession key, c'.find? .sandboxSession key with
    | none, some s => (c'.find? .sandbox (sandboxKey s)).map (·.metadata.uid)
    | _, _ => h.openedOn key
  firstRunning key uid :=
    match h.firstRunning key uid, c'.find? .sandbox key with
    | none, some sb =>
      if sb.metadata.uid = uid ∧ sb.status.phase = .running then some c'.clock else none
    | first, _ => first
  folded key := (c.find? .sandboxSession key).isSome && h.folded key

/-- The UID was never seen under `key`. -/
def Unseen (key : ObjectKey) (uid : String) : Prop :=
  h.firstRunning key uid = none ∧ ∀ s, h.openedOn s ≠ some uid

variable {h c c'} {key : ObjectKey} {uid : String} {t : Time}

theorem firstRunning_observe (ht : h.firstRunning key uid = some t) :
    (h.observe c c').firstRunning key uid = some t := by
  simp [observe, ht]

theorem firstRunning_cases (ht : (h.observe c c').firstRunning key uid = some t) :
    h.firstRunning key uid = some t ∨ t = c'.clock ∧ ∃ sb, c'.find? .sandbox key = some sb ∧
      sb.metadata.uid = uid ∧ sb.status.phase = .running := by
  cases hfirst : h.firstRunning key uid with
  | some t' => exact Or.inl (by simpa [observe, hfirst] using ht)
  | none =>
    cases hsb : c'.find? .sandbox key with
    | none => simp [observe, hfirst, hsb] at ht
    | some sb =>
      simp only [observe, hfirst, hsb, Option.ite_none_right_eq_some, Option.some.injEq] at ht
      exact Or.inr ⟨ht.2.symm, sb, rfl, ht.1⟩

theorem firstRunning_of_running {sb : Sandbox} (hsb : c'.find? .sandbox key = some sb)
    (hrunning : sb.status.phase = .running) :
    ∃ t, (h.observe c c').firstRunning key sb.metadata.uid = some t := by
  cases hfirst : h.firstRunning key sb.metadata.uid with
  | some t => exact ⟨t, firstRunning_observe hfirst⟩
  | none => exact ⟨c'.clock, by simp [observe, hfirst, hsb, hrunning]⟩

theorem openedOn_observe {s : SandboxSession} (hs : c.find? .sandboxSession key = some s) :
    (h.observe c c').openedOn key = h.openedOn key := by
  simp [observe, hs]

/-- A UID that nobody has stays unseen. -/
theorem Unseen.observe (hunseen : h.Unseen key uid)
    (hc' : ∀ sb ∈ c'.objs .sandbox, sb.metadata.uid ≠ uid) : (h.observe c c').Unseen key uid := by
  refine ⟨?_, fun s hs => ?_⟩
  · cases hfirst : (h.observe c c').firstRunning key uid with
    | none => rfl
    | some t =>
      rcases firstRunning_cases hfirst with hbefore | ⟨-, sb, hsb, huid, -⟩
      · exact nomatch hunseen.1.symm.trans hbefore
      · exact absurd huid (hc' sb (mem_of_find? hsb))
  · simp only [History.observe] at hs
    split at hs
    · obtain ⟨sb, hsb, huid⟩ := Option.map_eq_some_iff.mp hs
      exact hc' sb (mem_of_find? hsb) huid
    · exact hunseen.2 s hs

end History

/-- The state is `c'` now. -/
def World.after (w : World) (c' : Cluster) : World where
  cluster := c'
  history := w.history.observe w.cluster c'

/-- The session under `key` is stored and Closed. -/
def closedIn (c : Cluster) (key : ObjectKey) : Bool :=
  (c.find? .sandboxSession key).any fun s => s.status.state = .closed

/-- The state is `c'` now, and the session under `key` was reconciled if it was Closed. -/
def World.afterFold (w : World) (key : ObjectKey) (c' : Cluster) : World where
  cluster := c'
  history := { w.history.observe w.cluster c' with
    folded := fun k => (k = key ∧ closedIn w.cluster key = true : Bool) ||
      (w.history.observe w.cluster c').folded k }

/-! ## What a step can do -/

/-- What a step at the time `t` can make of a status : the idle clock stays, or is started as
the sandbox is reported running, or moves on. -/
structure Advances (t : Time) (st st' : SandboxStatus) : Prop where
  activity : st'.lastActivityTime = st.lastActivityTime ∨
    (st.lastActivityTime = none ∧ st'.lastActivityTime = some t ∧ st'.phase = .running) ∨
    ∃ last last', st.lastActivityTime = some last ∧ st'.lastActivityTime = some last' ∧ last ≤ last'
  running : st'.phase = .running → st'.lastActivityTime ≠ none ∨ st.phase = .running

theorem Advances.refl (t : Time) (st : SandboxStatus) : Advances t st st :=
  ⟨Or.inl rfl, Or.inr⟩

theorem Tracks.advances {sb : Sandbox} {t : Time} {st : SandboxStatus} (h : Tracks sb t st) :
    Advances t sb.status st := by
  refine ⟨?_, h.running⟩
  rcases h.activity with hsame | hstarted
  · exact Or.inl hsame
  · exact Or.inr (Or.inl hstarted)

theorem Advances.started {t : Time} {st st' : SandboxStatus} (h : Advances t st st')
    (hst : st.lastActivityTime ≠ none) : st'.lastActivityTime ≠ none := by
  rcases h.activity with hsame | ⟨-, hstarted, -⟩ | ⟨last, last', -, hlast', -⟩
  · rwa [hsame]
  · simp [hstarted]
  · simp [hlast']

/-- What a step can do to idle clocks and sessions. -/
structure Effect (h : History) (c c' : Cluster) : Prop where
  clock : c.clock ≤ c'.clock
  sandboxes : ∀ key sb', c'.find? .sandbox key = some sb' →
    (∃ sb, c.find? .sandbox key = some sb ∧ sb'.metadata.uid = sb.metadata.uid ∧
      Advances c'.clock sb.status sb'.status) ∨
    c.find? .sandbox key = none ∧ h.Unseen key sb'.metadata.uid ∧ sb'.status = {}
  sessions : ∀ key s', c'.find? .sandboxSession key = some s' →
    c.find? .sandboxSession key = none ∨ ∃ s, c.find? .sandboxSession key = some s ∧
      s'.spec = s.spec ∧ (s.status.state = .closed → s'.status = s.status)

theorem Effect.of_same {h : History} {c c' : Cluster} (hclock : c.clock ≤ c'.clock)
    (hsandboxes : ∀ key, c'.find? .sandbox key = c.find? .sandbox key)
    (hsessions : ∀ key, c'.find? .sandboxSession key = c.find? .sandboxSession key) :
    Effect h c c' where
  clock := hclock
  sandboxes key sb' hsb' := Or.inl ⟨sb', (hsandboxes key).symm.trans hsb', rfl, .refl _ _⟩
  sessions key s' hs' := Or.inr ⟨s', (hsessions key).symm.trans hs', rfl, fun _ => rfl⟩

/-- The writes to sessions, in a step from `c`. -/
inductive SessionWrite (c : Cluster) : Call → Cluster → Prop
  | create (s : SandboxSession) : SessionWrite c (.create .sandboxSession s) c
  | status {c' : Cluster} (s : SandboxSession) (status : SandboxSessionStatus)
    (hstored : c'.find? .sandboxSession s.key = some s) (hopen : s.status.state ≠ .closed) :
    SessionWrite c (.updateStatus .sandboxSession { s with status := status }) c'
  | delete {c' : Cluster} (key : ObjectKey) (site : String) :
    SessionWrite c (.delete .sandboxSession key site) c'

/-- The writes to sandboxes, in a step from `c`. -/
inductive SandboxWrite (h : History) (c : Cluster) : Call → Cluster → Prop
  | create (sb : Sandbox) (hunseen : h.Unseen sb.key sb.metadata.uid) :
    SandboxWrite h c (.create .sandbox sb) c
  | update {c' : Cluster} (sb : Sandbox) : SandboxWrite h c (.update .sandbox sb) c'
  | patch {c' : Cluster} (key : ObjectKey) (change : SandboxSpec → SandboxSpec) :
    SandboxWrite h c (.patch .sandbox key change) c'
  | delete {c' : Cluster} (key : ObjectKey) (site : String) :
    SandboxWrite h c (.delete .sandbox key site) c'
  | status {c' : Cluster} (o sb : Sandbox) (hsb : c.find? .sandbox o.key = some sb)
    (hadvances : Advances c.clock sb.status o.status) :
    SandboxWrite h c (.updateStatus .sandbox o) c'
  | bump (key : ObjectKey) (change : SandboxStatus → SandboxStatus) (sb : Sandbox)
    (hsb : c.find? .sandbox key = some sb)
    (hadvances : Advances c.clock sb.status (change sb.status)) :
    SandboxWrite h c (.patchStatus .sandbox key change) c

/-- The call, in a step from `c`, writes sessions and sandboxes as above. -/
structure IdleCall (h : History) (c : Cluster) (op : Call) (c' : Cluster) : Prop where
  sessions : ∀ key, op.target = some (.sandboxSession, key) → SessionWrite c op c'
  sandboxes : ∀ key, op.target = some (.sandbox, key) → SandboxWrite h c op c'

theorem IdleCall.of_within {h : History} {c c' : Cluster} {op : Call} {ks : List Kind}
    (hop : op.Within ks) (hsession : Kind.sandboxSession ∉ ks) (hsandbox : Kind.sandbox ∉ ks) :
    IdleCall h c op c' :=
  ⟨fun _ ht => absurd (hop _ ht) hsession, fun _ ht => absurd (hop _ ht) hsandbox⟩

theorem IdleCall.of_read {h : History} {c c' : Cluster} {op : Call} (hop : op.target = none) :
    IdleCall h c op c' :=
  have hwithin : op.Within [] := within_read hop
  .of_within hwithin (by simp) (by simp)

theorem IdleCall.of_sandbox {h : History} {c c' : Cluster} {op : Call} {key : ObjectKey}
    (ht : op.target = some (.sandbox, key)) (hwrite : SandboxWrite h c op c') :
    IdleCall h c op c' := by
  refine ⟨fun key' ht' => ?_, fun _ _ => hwrite⟩
  cases ht.symm.trans ht'

theorem IdleCall.of_session {h : History} {c c' : Cluster} {op : Call} {key : ObjectKey}
    (ht : op.target = some (.sandboxSession, key)) (hwrite : SessionWrite c op c') :
    IdleCall h c op c' := by
  refine ⟨fun _ _ => hwrite, fun key' ht' => ?_⟩
  cases ht.symm.trans ht'

section Step

variable {h : History} {c c₁ c₂ : Cluster} {op : Call} {a : Resp Spec Status op}

theorem effect_sandboxes_step (hop : IdleCall h c op c₁) (hs : Step op c₁ a c₂)
    (hclock : c₁.clock = c.clock) (heffect : Effect h c c₁) {key : ObjectKey} {sb' : Sandbox}
    (hsb' : c₂.find? .sandbox key = some sb') :
    (∃ sb, c.find? .sandbox key = some sb ∧ sb'.metadata.uid = sb.metadata.uid ∧
      Advances c.clock sb.status sb'.status) ∨
    c.find? .sandbox key = none ∧ h.Unseen key sb'.metadata.uid ∧ sb'.status = {} := by
  have hbefore := heffect.sandboxes key
  rw [hclock] at hbefore
  cases hs.written hsb' with
  | kept hold => exact hbefore sb' hold
  | created o hop' hkey hnone h' =>
    subst hop' hkey h'
    cases hop.sandboxes _ rfl with
    | create _ hunseen => exact Or.inr ⟨hnone, hunseen, rfl⟩
  | updated old o hop' _ hold h' | patched old change hop' hold h'
  | terminated old site hop' hold _ _ h' =>
    subst h'
    exact hbefore old hold
  | statusUpdated old o hop' hkey hold h' =>
    subst hop' hkey h'
    cases hop.sandboxes _ rfl with
    | status _ sb hsb hadvances =>
      rcases hbefore old hold with ⟨sb₀, hsb₀, huid, -⟩ | ⟨hnone, -⟩
      · obtain rfl := Option.some.inj (hsb.symm.trans hsb₀)
        exact Or.inl ⟨sb, hsb, huid, hadvances⟩
      · exact nomatch hsb.symm.trans hnone
  | statusPatched old change hop' hold h' =>
    subst hop' h'
    cases hop.sandboxes _ rfl with
    | bump _ _ sb hsb hadvances =>
      obtain rfl := Option.some.inj (hsb.symm.trans hold)
      exact Or.inl ⟨sb, hsb, rfl, hadvances⟩

theorem effect_sessions_step (hop : IdleCall h c op c₁) (hs : Step op c₁ a c₂)
    (heffect : Effect h c c₁) {key : ObjectKey} {s' : SandboxSession}
    (hs' : c₂.find? .sandboxSession key = some s') :
    c.find? .sandboxSession key = none ∨ ∃ s, c.find? .sandboxSession key = some s ∧
      s'.spec = s.spec ∧ (s.status.state = .closed → s'.status = s.status) := by
  have hbefore := heffect.sessions key
  cases hs.written hs' with
  | kept hold => exact hbefore s' hold
  | created o hop' hkey hnone h' =>
    subst hop' hkey
    cases hop.sessions _ rfl with
    | create => exact Or.inl hnone
  | updated old o hop' | patched old change hop' | statusPatched old change hop' =>
    subst hop'
    cases hop.sessions _ rfl
  | statusUpdated old o hop' hkey hold h' =>
    subst hop' hkey h'
    cases hop.sessions _ rfl with
    | status s status hstored hopen =>
      obtain rfl : old = s := Option.some.inj (hold.symm.trans hstored)
      rcases hbefore old hold with hnone | ⟨s₀, hs₀, hspec, hclosed⟩
      · exact Or.inl hnone
      · refine Or.inr ⟨s₀, hs₀, hspec, fun hstate => absurd ?_ hopen⟩
        rw [hclosed hstate]
        exact hstate
  | terminated old site hop' hold _ _ h' =>
    subst h'
    exact hbefore old hold

/-- The effect of a step is that of its calls. -/
theorem Effect.step (hop : IdleCall h c op c₁) (hs : Step op c₁ a c₂)
    (heffect : Effect h c c₁ ∧ c₁.clock = c.clock) : Effect h c c₂ ∧ c₂.clock = c.clock := by
  have hclock : c₂.clock = c.clock := hs.clock.trans heffect.2
  refine ⟨⟨Int.le_of_eq hclock.symm, fun key sb' hsb' => ?_, fun key s' hs' => ?_⟩, hclock⟩
  · rw [hclock]
    exact effect_sandboxes_step hop hs heffect.2 heffect.1 hsb'
  · exact effect_sessions_step hop hs heffect.1 hs'

theorem Effect.of_calls {α : Type} {p : Prog Call (Resp Spec Status) α}
    {t : List (Call × Cluster)} {c' : Cluster} (hv : p.Visits Step c t c')
    (ht : ∀ e ∈ t, IdleCall h c e.1 e.2) : Effect h c c' :=
  (hv.preserves ht (fun _ _ _ _ hop hs he => Effect.step hop hs he)
    ⟨.of_same (Int.le_refl _) (fun _ => rfl) fun _ => rfl, rfl⟩).1

end Step

/-! ## The calls of the parties -/

theorem LiveCall.idle {r : SandboxReconciler} {h : History} {c c' : Cluster} {sb : Sandbox}
    {op : Call} (hsb : c.find? .sandbox sb.key = some sb) (hop : LiveCall r c sb op c') :
    IdleCall h c op c' := by
  cases hop with
  | read hread => exact .of_read hread
  | finalizer => exact .of_sandbox rfl (.update _)
  | gate hgate =>
    exact .of_within (fun t ht => Gate.kinds_subset _ _ (hgate.within t ht)) (by decide) (by decide)
  | pod tpl _ hpod => exact .of_within hpod.within (by decide) (by decide)
  | status finalizers rv status htracks =>
    exact ⟨fun _ ht => (nomatch ht), fun _ _ => .status _ sb hsb htracks.advances⟩

theorem FinalizeCall.idle {h : History} {c c' : Cluster} {sb : Sandbox} {op : Call}
    (hsb : c.find? .sandbox sb.key = some sb) (hop : FinalizeCall c sb op c') :
    IdleCall h c op c' := by
  cases hop with
  | read hread => exact .of_read hread
  | terminating =>
    refine .of_sandbox rfl (.status _ sb hsb ⟨Or.inl rfl, fun hrunning => ?_⟩)
    cases hrunning
  | child k name hchild =>
    have hmem : k ∈ childKinds := by
      simp only [ownedChildren, List.mem_cons, Prod.mk.injEq, List.not_mem_nil, or_false] at hchild
      rcases hchild with ⟨rfl, -⟩ | ⟨rfl, -⟩ | ⟨rfl, -⟩ | ⟨rfl, -⟩ <;> simp [childKinds]
    exact .of_within (within_write rfl hmem) (by decide) (by decide)
  | rbac hrbac => exact .of_within hrbac.within (by decide) (by decide)
  | session hclose =>
    cases hclose with
    | read hread => exact .of_read hread
    | close s hstored _ _ hactive =>
      exact .of_session rfl (.status s _ hstored (by simp [hactive]))
  | claim hclaim => exact .of_within hclaim (by decide) (by decide)
  | finalizer => exact .of_sandbox rfl (.update _)

theorem PassCall.idle {r : SandboxReconciler} {h : History} {key : ObjectKey} {c c' : Cluster}
    {op : Call} (hop : PassCall r key c op c') : IdleCall h c op c' := by
  cases hop with
  | absent hread => exact .of_read hread
  | live sb hsb _ hlive => exact hlive.idle (key_of_find? hsb ▸ hsb)
  | teardown sb hsb _ hfinalize => exact hfinalize.idle (key_of_find? hsb ▸ hsb)

theorem SessionCall.idle {h : History} {c c' : Cluster} {op : Call} (hop : SessionCall c op c') :
    IdleCall h c op c' := by
  cases hop with
  | read hread => exact .of_read hread
  | create s => exact ⟨fun _ _ => .create s, fun _ ht => (nomatch ht)⟩
  | status s status hstored hopen =>
    exact ⟨fun _ _ => .status s status hstored hopen, fun _ ht => (nomatch ht)⟩
  | delete key => exact ⟨fun _ _ => .delete key _, fun _ ht => (nomatch ht)⟩

/-- A Closed session moves an idle clock on that has started. -/
theorem ReconcileCall.idle {h : History} {c c' : Cluster} {s : SandboxSession} {op : Call}
    (hop : ReconcileCall c s op c') (hstarted : ∀ sb, s.status.state = .closed →
      c.find? .sandbox (sandboxKey s) = some sb → sb.status.lastActivityTime ≠ none) :
    IdleCall h c op c' := by
  rcases hop with hop | ⟨⟨sb, endTime, hclosed, hsb, hlater⟩, rfl⟩
  · exact hop.idle
  · obtain ⟨last, hlast⟩ := Option.ne_none_iff_exists'.mp (hstarted sb hclosed hsb)
    refine ⟨fun _ ht => (nomatch ht), fun _ _ => .bump _ _ sb (key_of_find? hsb ▸ hsb) ?_⟩
    refine ⟨Or.inr (Or.inr ⟨last, endTime, hlast, rfl, ?_⟩), fun hrunning => Or.inr hrunning⟩
    exact Int.le_of_lt (by simpa [later, hlast] using hlater)

/-- The calls of the others : users, the gateway where it wakes a sandbox, the kubelet. They
neither write sessions nor report on sandboxes, and a UID is never handed out twice. -/
structure IdleForeign (h : History) (op : Call) (c : Cluster) : Prop where
  sessions : ∀ key, op.target = some (.sandboxSession, key) →
    ∃ site, op = .delete .sandboxSession key site
  status : ∀ o, op ≠ .updateStatus .sandbox o
  statusPatch : ∀ key change, op ≠ .patchStatus .sandbox key change
  unseen : ∀ sb, op = .create .sandbox sb → h.Unseen sb.key sb.metadata.uid

theorem IdleForeign.idle {h : History} {op : Call} {c : Cluster} (hop : IdleForeign h op c) :
    IdleCall h c op c := by
  refine ⟨fun key ht => ?_, fun key ht => ?_⟩
  · obtain ⟨site, rfl⟩ := hop.sessions key ht
    exact .delete key site
  · cases op with
    | get | list | now | fresh => cases ht
    | create k o => cases ht; exact .create o (hop.unseen o rfl)
    | update k o => cases ht; exact .update o
    | updateStatus k o => cases ht; exact absurd rfl (hop.status o)
    | patch k key change => cases ht; exact .patch key change
    | patchStatus k key change => cases ht; exact absurd rfl (hop.statusPatch key change)
    | delete k key site => cases ht; exact .delete key site

/-! ## Runs -/

/-- One step of a run. `Foldable` restricts the passes of the session controller. -/
inductive IdleStep (r : SandboxReconciler) (Foldable : World → ObjectKey → Prop) :
    World → World → Prop
  | pass {w : World} {key : ObjectKey} {t : List (Call × Cluster)} {c' : Cluster}
    (h : PartialPass r key w.cluster t c') : IdleStep r Foldable w (w.after c')
  /-- A pass of the session controller that is cut short or ends with an error. -/
  | sessionCut {w : World} {key : ObjectKey} {t : List (Call × Cluster)} {c' : Cluster}
    (h : (SessionReconciler.reconcile key ()).Visits Step w.cluster t c') (hfold : Foldable w key) :
    IdleStep r Foldable w (w.after c')
  | session {w : World} {key : ObjectKey} {t : List (Call × Cluster)} {result : Result}
    {c' : Cluster} (h : (SessionReconciler.reconcile key ()).Exec Step w.cluster t (.ok result, ()) c')
    (hfold : Foldable w key) : IdleStep r Foldable w (w.afterFold key c')
  | gateway {w : World} {x : ClientM Unit Unit} {t : List (Call × Cluster)} {c' : Cluster}
    (hx : GatewayRoutine x) (h : (x ()).Visits Step w.cluster t c') :
    IdleStep r Foldable w (w.after c')
  | foreign {w : World} {op : Call} (h : IdleForeign w.history op w.cluster) :
    IdleStep r Foldable w (w.after (handle op w.cluster).2)
  | tick {w : World} (t : Time) (h : w.cluster.clock ≤ t) :
    IdleStep r Foldable w (w.after { w.cluster with clock := t })
  /-- The grace period of a pod ends, or its node is gone. -/
  | podGone {w : World} (key : ObjectKey) :
    IdleStep r Foldable w (w.after (w.cluster.remove .pod key))

/-- A run from one state to another. -/
def IdleRun (r : SandboxReconciler) (Foldable : World → ObjectKey → Prop) : World → World → Prop :=
  Relation.ReflTransGen (IdleStep r Foldable)

/-- If the session under `key` is Closed, the sandbox object that has the name of its sandbox now,
if there is one, has been Running. -/
def HasRun (w : World) (key : ObjectKey) : Prop :=
  ∀ s sb, w.cluster.find? .sandboxSession key = some s → s.status.state = .closed →
    w.cluster.find? .sandbox (sandboxKey s) = some sb →
      ∃ t, w.history.firstRunning (sandboxKey s) sb.metadata.uid = some t

/-! ## The invariant -/

/-- What holds of idle clocks all along a run. -/
structure IdleInv (w : World) : Prop where
  past : ∀ key uid t, w.history.firstRunning key uid = some t → t ≤ w.cluster.clock
  /-- The idle clock is not before the sandbox first ran. -/
  activity : ∀ key sb last, w.cluster.find? .sandbox key = some sb →
    sb.status.lastActivityTime = some last →
      ∃ t, w.history.firstRunning key sb.metadata.uid = some t ∧ t ≤ last
  running : ∀ key sb, w.cluster.find? .sandbox key = some sb → sb.status.phase = .running →
    sb.status.lastActivityTime ≠ none
  started : ∀ key sb t, w.cluster.find? .sandbox key = some sb →
    w.history.firstRunning key sb.metadata.uid = some t → sb.status.lastActivityTime ≠ none
  closed : ∀ key s, w.history.folded key = true → w.cluster.find? .sandboxSession key = some s →
    s.status.state = .closed
  /-- The idle clock is not before the end of a session that was reconciled. -/
  folded : ∀ key s endTime sb, w.history.folded key = true →
    w.cluster.find? .sandboxSession key = some s → s.status.endTime = some endTime →
    w.cluster.find? .sandbox (sandboxKey s) = some sb →
    w.history.openedOn key = some sb.metadata.uid →
      ∃ last, sb.status.lastActivityTime = some last ∧ endTime ≤ last

section Inv

variable {w : World} {c' : Cluster}

theorem sandboxKey_eq {c : Cluster} {key : ObjectKey} {s s' : SandboxSession}
    (hs : c.find? .sandboxSession key = some s) (hs' : c'.find? .sandboxSession key = some s')
    (hspec : s'.spec = s.spec) : sandboxKey s' = sandboxKey s := by
  have hns : s'.metadata.namespaceName = s.metadata.namespaceName :=
    congrArg ObjectKey.namespaceName ((key_of_find? hs').trans (key_of_find? hs).symm)
  simp only [sandboxKey, hns, hspec]

theorem IdleInv.running_after (hw : IdleInv w) (heffect : Effect w.history w.cluster c')
    {key : ObjectKey} {sb' : Sandbox} (hsb' : c'.find? .sandbox key = some sb')
    (hrunning : sb'.status.phase = .running) : sb'.status.lastActivityTime ≠ none := by
  rcases heffect.sandboxes key sb' hsb' with ⟨sb, hsb, -, hadvances⟩ | ⟨-, -, hnew⟩
  · rcases hadvances.running hrunning with hactivity | hwas
    · exact hactivity
    · exact hadvances.started (hw.running key sb hsb hwas)
  · simp [hnew] at hrunning

theorem IdleInv.activity_after (hw : IdleInv w) (heffect : Effect w.history w.cluster c')
    {key : ObjectKey} {sb' : Sandbox} {last : Time} (hsb' : c'.find? .sandbox key = some sb')
    (hlast : sb'.status.lastActivityTime = some last) :
    ∃ t, (w.after c').history.firstRunning key sb'.metadata.uid = some t ∧ t ≤ last := by
  rcases heffect.sandboxes key sb' hsb' with ⟨sb, hsb, huid, hadvances⟩ | ⟨-, -, hnew⟩
  · rw [huid]
    rcases hadvances.activity with hsame | ⟨-, hstarted, hrunning⟩ |
      ⟨last₀, last', hlast₀, hlast', hle⟩
    · obtain ⟨t, ht, hle⟩ := hw.activity key sb last hsb (hsame.symm.trans hlast)
      exact ⟨t, History.firstRunning_observe ht, hle⟩
    · -- The clock is started now, and the sandbox has been running since now or before.
      obtain rfl : c'.clock = last := Option.some.inj (hstarted.symm.trans hlast)
      obtain ⟨t, ht⟩ := History.firstRunning_of_running (h := w.history) (c := w.cluster) hsb' hrunning
      refine ⟨t, huid ▸ ht, ?_⟩
      rcases History.firstRunning_cases ht with hbefore | ⟨hnow, -⟩
      · exact Int.le_trans (hw.past _ _ t hbefore) heffect.clock
      · exact Int.le_of_eq hnow
    · obtain rfl : last' = last := Option.some.inj (hlast'.symm.trans hlast)
      obtain ⟨t, ht, hle'⟩ := hw.activity key sb last₀ hsb hlast₀
      exact ⟨t, History.firstRunning_observe ht, Int.le_trans hle' hle⟩
  · simp [hnew] at hlast

theorem IdleInv.started_after (hw : IdleInv w) (heffect : Effect w.history w.cluster c')
    {key : ObjectKey} {sb' : Sandbox} {t : Time} (hsb' : c'.find? .sandbox key = some sb')
    (ht : (w.after c').history.firstRunning key sb'.metadata.uid = some t) :
    sb'.status.lastActivityTime ≠ none := by
  rcases History.firstRunning_cases ht with hbefore | ⟨-, sb₁, hsb₁, -, hrunning⟩
  · rcases heffect.sandboxes key sb' hsb' with ⟨sb, hsb, huid, hadvances⟩ | ⟨-, hunseen, -⟩
    · exact hadvances.started (hw.started key sb t hsb (huid ▸ hbefore))
    · exact nomatch hunseen.1.symm.trans hbefore
  · obtain rfl := Option.some.inj (hsb'.symm.trans hsb₁)
    exact hw.running_after heffect hsb' hrunning

/-- A session that was reconciled since it was closed is as it was. -/
theorem IdleInv.folded_before (hw : IdleInv w) (heffect : Effect w.history w.cluster c')
    {key : ObjectKey} {s' : SandboxSession} (hfolded : (w.after c').history.folded key = true)
    (hs' : c'.find? .sandboxSession key = some s') :
    w.history.folded key = true ∧ ∃ s, w.cluster.find? .sandboxSession key = some s ∧
      s'.spec = s.spec ∧ s'.status = s.status ∧ s.status.state = .closed := by
  obtain ⟨hwas, hfolded⟩ : (w.cluster.find? .sandboxSession key).isSome = true ∧
      w.history.folded key = true := by
    simpa [World.after, History.observe] using hfolded
  rcases heffect.sessions key s' hs' with hnone | ⟨s, hs, hspec, hclosed⟩
  · simp [hnone] at hwas
  · have hstate := hw.closed key s hfolded hs
    exact ⟨hfolded, s, hs, hspec, hclosed hstate, hstate⟩

theorem IdleInv.folded_after (hw : IdleInv w) (heffect : Effect w.history w.cluster c')
    {key : ObjectKey} {s' : SandboxSession} {endTime : Time} {sb' : Sandbox}
    (hfolded : (w.after c').history.folded key = true)
    (hs' : c'.find? .sandboxSession key = some s') (hend : s'.status.endTime = some endTime)
    (hsb' : c'.find? .sandbox (sandboxKey s') = some sb')
    (hopened : (w.after c').history.openedOn key = some sb'.metadata.uid) :
    ∃ last, sb'.status.lastActivityTime = some last ∧ endTime ≤ last := by
  obtain ⟨hfolded, s, hs, hspec, hstatus, -⟩ := hw.folded_before heffect hfolded hs'
  have hkey := sandboxKey_eq hs hs' hspec
  have hopened₀ : w.history.openedOn key = some sb'.metadata.uid :=
    (History.openedOn_observe hs).symm.trans hopened
  rw [hkey] at hsb'
  rcases heffect.sandboxes _ sb' hsb' with ⟨sb, hsb, huid, hadvances⟩ | ⟨-, hunseen, -⟩
  · obtain ⟨last, hlast, hle⟩ := hw.folded key s endTime sb hfolded hs (hstatus ▸ hend) hsb
      (huid ▸ hopened₀)
    rcases hadvances.activity with hsame | ⟨hnone, -⟩ | ⟨last₀, last', hlast₀, hlast', hle'⟩
    · exact ⟨last, hsame.trans hlast, hle⟩
    · exact nomatch hlast.symm.trans hnone
    · obtain rfl := Option.some.inj (hlast.symm.trans hlast₀)
      exact ⟨last', hlast', Int.le_trans hle hle'⟩
  · exact absurd hopened₀ (hunseen.2 key)

/-- A step with such an effect keeps the invariant. -/
theorem IdleInv.after (hw : IdleInv w) (heffect : Effect w.history w.cluster c') :
    IdleInv (w.after c') where
  past key uid t ht := by
    rcases History.firstRunning_cases ht with hbefore | ⟨hnow, -⟩
    · exact Int.le_trans (hw.past key uid t hbefore) heffect.clock
    · exact Int.le_of_eq hnow
  activity _ _ _ hsb' hlast := hw.activity_after heffect hsb' hlast
  running _ _ hsb' hrunning := hw.running_after heffect hsb' hrunning
  started _ _ _ hsb' ht := hw.started_after heffect hsb' ht
  closed key s' hfolded hs' := by
    obtain ⟨-, s, -, -, hstatus, hclosed⟩ := hw.folded_before heffect hfolded hs'
    rw [hstatus]
    exact hclosed
  folded _ _ _ _ hfolded hs' hend hsb' hopened :=
    hw.folded_after heffect hfolded hs' hend hsb' hopened

/-- A pass that reconciled a Closed session keeps the invariant. -/
theorem IdleInv.afterFold (hw : IdleInv w) (heffect : Effect w.history w.cluster c')
    {key : ObjectKey} (hcaught : ∀ s endTime, w.cluster.find? .sandboxSession key = some s →
      s.status.state = .closed → s.status.endTime = some endTime →
        CaughtUp c' (sandboxKey s) endTime) :
    IdleInv (w.afterFold key c') := by
  have hafter := hw.after heffect
  have hcases : ∀ k s', (w.afterFold key c').history.folded k = true →
      c'.find? .sandboxSession k = some s' → (w.after c').history.folded k = true ∨
        ∃ s, w.cluster.find? .sandboxSession key = some s ∧ sandboxKey s' = sandboxKey s ∧
          s'.status = s.status ∧ s.status.state = .closed := by
    intro k s' hfolded hs'
    rcases (Bool.or_eq_true _ _).mp hfolded with hnow | hbefore
    · obtain ⟨rfl, hclosed⟩ := of_decide_eq_true hnow
      obtain ⟨s, hs, hstate⟩ := (Option.any_eq_true _ _).mp hclosed
      replace hstate : s.status.state = .closed := of_decide_eq_true hstate
      rcases heffect.sessions k s' hs' with hnone | ⟨s₀, hs₀, hspec, hstatus⟩
      · exact nomatch hs.symm.trans hnone
      · obtain rfl := Option.some.inj (hs.symm.trans hs₀)
        exact Or.inr ⟨s, hs, sandboxKey_eq hs hs' hspec, hstatus hstate, hstate⟩
    · exact Or.inl hbefore
  refine ⟨hafter.past, hafter.activity, hafter.running, hafter.started, ?_, ?_⟩
  · intro k s' hfolded hs'
    rcases hcases k s' hfolded hs' with hbefore | ⟨s, -, -, hstatus, hclosed⟩
    · exact hafter.closed k s' hbefore hs'
    · rw [hstatus]
      exact hclosed
  · intro k s' endTime sb' hfolded hs' hend hsb' hopened
    rcases hcases k s' hfolded hs' with hbefore | ⟨s, hs, hkey, hstatus, hclosed⟩
    · exact hafter.folded k s' endTime sb' hbefore hs' hend hsb' hopened
    · exact hcaught s endTime hs hclosed (hstatus ▸ hend) sb' (hkey ▸ hsb')

end Inv

theorem effect_session {w : World} {key : ObjectKey} {t : List (Call × Cluster)} {c' : Cluster}
    (hw : IdleInv w) (h : (SessionReconciler.reconcile key ()).Visits Step w.cluster t c')
    (hrun : HasRun w key) : Effect w.history w.cluster c' := by
  refine .of_calls h fun e he => ?_
  cases hs : w.cluster.find? .sandboxSession key with
  | none => exact (h.wp (reconcile_session_absent hs) e he).idle
  | some s =>
    refine (h.wp (wp_reconcile_session hs) e he).idle fun sb hclosed hsb => ?_
    obtain ⟨t, ht⟩ := hrun s sb hs hclosed hsb
    exact hw.started _ sb t hsb ht

/-- A step keeps the invariant, if Closed sessions are reconciled only when the sandbox of that
name has run. -/
theorem IdleInv.step {r : SandboxReconciler} {w w' : World} (hw : IdleInv w)
    (hstep : IdleStep r HasRun w w') : IdleInv w' := by
  cases hstep with
  | pass h => exact hw.after (.of_calls h fun e he => (h.calls e he).idle)
  | sessionCut h hfold => exact hw.after (effect_session hw h hfold)
  | session h hfold =>
    refine hw.afterFold (effect_session hw h.visits hfold) fun s endTime hs hclosed hend => ?_
    exact (h.wp (wp_reconcile_session hs)).2 hclosed endTime hend
  | gateway hx h =>
    exact hw.after (.of_calls h fun e he => (h.wp (gateway_calls hx w.cluster) e he).idle)
  | foreign h =>
    have hsame : Effect w.history w.cluster w.cluster :=
      .of_same (Int.le_refl _) (fun _ => rfl) fun _ => rfl
    exact hw.after (Effect.step h.idle (step_handle _ _) ⟨hsame, rfl⟩).1
  | tick t h => exact hw.after (.of_same h (fun _ => rfl) fun _ => rfl)
  | podGone key =>
    exact hw.after (.of_same (Int.le_refl _) (fun _ => find?_remove_ne _ _ _ (by simp))
      fun _ => find?_remove_ne _ _ _ (by simp))

/-- The invariant holds all along a run. -/
theorem IdleInv.run {r : SandboxReconciler} {w w' : World} (hw : IdleInv w)
    (hrun : IdleRun r HasRun w w') : IdleInv w' := by
  induction hrun with
  | refl => exact hw
  | tail _ hstep ih => exact ih.step hstep

/-! ## Idle suspension -/

/-- The pod is deleted on the suspend path by a pass that found the sandbox to be idle, or
stopped. -/
theorem PassCall.suspends {r : SandboxReconciler} {sb : Sandbox} {c c' : Cluster} {key : ObjectKey}
    {site : String} (hsb : c.find? .sandbox sb.key = some sb)
    (h : PassCall r sb.key c (.delete .pod key site) c') (hsite : site = "suspend") :
    sb.deleting = false ∧ ∃ tpl, c.find? .sandboxTemplate ⟨"", sb.spec.template⟩ = some tpl ∧
      Suspends c sb tpl sb.status.lastActivityTime := by
  cases h with
  | absent h => cases h
  | live sb₁ hsb₁ hlive h =>
    obtain rfl := Option.some.inj (hsb.symm.trans hsb₁)
    cases h with
    | read h => cases h
    | gate h => exact absurd (Gate.kinds_subset _ _ (h.within _ rfl)) (by simp [gateKinds])
    | pod tpl hopen h hc' =>
      cases h with
      | suspend pod hsuspends =>
        exact ⟨hlive, tpl, hopen.template, (suspends_congr hc' sb tpl _).mp hsuspends⟩
      | recreate => exact absurd hsite (by decide)
  | teardown sb₁ _ _ h =>
    cases h with
    | read h => cases h
    | child => exact absurd hsite (by decide)
    | rbac h => exact absurd (h.within _ rfl) (by simp)
    | session h => exact absurd (h.within _ rfl) (by simp)
    | claim h => exact absurd (h _ rfl) (by simp)

/-- A pass that ends with the sandbox suspended or suspending found it to be idle, or stopped. -/
theorem PassOutcome.suspends {sb sb' : Sandbox} {c c' : Cluster} (h : PassOutcome c sb c' sb')
    (hphase : sb'.status.phase = .suspended ∨ sb'.status.phase = .suspending) :
    ∃ tpl, c.find? .sandboxTemplate ⟨"", sb.spec.template⟩ = some tpl ∧
      Suspends c sb tpl sb.status.lastActivityTime := by
  rcases h.result with ⟨-, hpending, -⟩ | ⟨tpl, hopen, houtcome⟩
  · have : sb'.status.phase = .pending := congrArg Prod.fst hpending
    simp [this] at hphase
  · cases houtcome with
    | suspended hsuspends | suspending _ _ hsuspends => exact ⟨tpl, hopen.template, hsuspends⟩
    | created _ _ _ _ _ hother | pending _ _ _ _ _ _ hother =>
      rcases hother with hother | hother <;> simp [hother] at hphase
    | dead _ _ _ _ _ _ _ hother | ready _ _ _ _ _ hother => simp [hother] at hphase

theorem sandboxKey_eq_iff {s : SandboxSession} {sb : Sandbox} : sandboxKey s = sb.key ↔
    s.metadata.namespaceName = sb.metadata.namespaceName ∧
      s.spec.sandboxName = sb.metadata.name := by
  simp [sandboxKey, Object.key]

namespace Team

def session : SandboxSession :=
  ⟨{ name := "dev-1", namespaceName := "team" },
    { sandboxName := "dev", user := "alice", kind := .ssh }, {}⟩

/-- Alice creates her sandbox; it is given the UID `uid`. -/
def creates (uid : String) (w : World) : World :=
  w.after (handle (.create .sandbox
    { sandbox .running {} with metadata := { (sandbox .running {}).metadata with uid := uid } })
    w.cluster).2

def deletes (w : World) : World :=
  w.after (handle (.delete .sandbox key "user") w.cluster).2

section Steps

variable {F : World → ObjectKey → Prop} {w₀ w : World}

end Steps

end Team

end Kubepark
