import Kubepark.IdleClockRace

/-!
# Running sandboxes have an idle clock

The pass that first reports a sandbox Running starts its idle clock, and no write of either
controller takes the clock away again : the sandbox controller writes the status it has read and
carried on, the session controller patches the one field. That is `Clocked`, which also says that
the finalizer is on a Running sandbox; the teardown takes it off one that it has marked Terminating
(`Retired`).

The invariant is kept call by call (`ClockedOp.allClocked`), so it holds with any number of passes
and reconciles side by side, each with reads that lag : `Reached.allClocked`.
-/

namespace Kubepark

open ApiServer Client SessionReconciler SandboxReconciler Routine

open Prog (Timeline lagging Pool PoolStep)

/-! ## Running sandboxes have a clock -/

/-- Where the sandbox is Running, its idle clock has started and its finalizer is on. -/
def Clocked (sb : Sandbox) : Prop :=
  sb.status.phase = .running →
    sb.status.lastActivityTime ≠ none ∧ sandboxFinalizer ∈ sb.metadata.finalizers

def AllClocked (c : Cluster) : Prop :=
  ∀ key sb, c.find? .sandbox key = some sb → Clocked sb

/-- The call does not take the finalizer off a Running sandbox. -/
def KeepsFinalizer (op : Call) (c : Cluster) : Prop :=
  ∀ o old : Sandbox, op = .update .sandbox o → c.find? .sandbox o.key = some old →
    old.metadata.resourceVersion = o.metadata.resourceVersion → old.status.phase = .running →
      sandboxFinalizer ∈ old.metadata.finalizers → sandboxFinalizer ∈ o.metadata.finalizers

/-- The call neither updates a sandbox nor writes its status. -/
def Harmless : Call → Prop
  | .update .sandbox _ => False
  | .updateStatus .sandbox _ => False
  | .patchStatus .sandbox _ _ => False
  | _ => True

theorem harmless_of_within {op : Call} {ks : List Kind} (h : op.Within ks)
    (hks : Kind.sandbox ∉ ks) : Harmless op := by
  unfold Harmless
  split
  · exact absurd (h _ rfl) hks
  · exact absurd (h _ rfl) hks
  · exact absurd (h _ rfl) hks
  · trivial

theorem Harmless.noStatusWrite {op : Call} (h : Harmless op) : NoStatusWrite op := by
  unfold NoStatusWrite
  split <;> first | exact h | trivial

theorem Harmless.keepsFinalizer {op : Call} (h : Harmless op) (c : Cluster) :
    KeepsFinalizer op c := by
  rintro o old rfl
  exact h.elim

/-- A call of a controller, with what it knows when it makes it. -/
inductive ClockedOp (w : Timeline Cluster) : Call → Prop
  | free {op : Call} (h : NoStatusWrite op) (hfinalizer : KeepsFinalizer op w.now) : ClockedOp w op
  | status (sb : Sandbox) (st : SandboxStatus) (hseen : Seen w sb)
    (hclocked : Clocked { sb with status := st }) :
    ClockedOp w (.updateStatus .sandbox { sb with status := st })
  | bump (key : ObjectKey) (endTime : Time) :
    ClockedOp w (.patchStatus .sandbox key fun st => { st with lastActivityTime := some endTime })

section Calls

variable {w w' : Timeline Cluster} {op : Call} {a : Resp Spec Status op} {c c' : Cluster}

theorem Harmless.clockedOp (h : Harmless op) : ClockedOp w op :=
  .free h.noStatusWrite (h.keepsFinalizer _)

theorem AllClocked.free (hc : AllClocked c) (hop : NoStatusWrite op)
    (hfinalizer : KeepsFinalizer op c) (hs : Step op c a c') : AllClocked c' := by
  intro key sb' hsb'
  cases hs.written hsb' with
  | kept hold => exact hc key sb' hold
  | created o _ _ _ h =>
    subst h
    exact nofun
  | updated old o hop' hkey hold h =>
    subst hop' hkey
    rcases hs.update_cases with rfl | ⟨old', hold', hversion⟩
    · exact hc _ sb' hsb'
    obtain rfl := Option.some.inj (hold.symm.trans hold')
    subst h
    intro hrunning
    obtain ⟨hstarted, hon⟩ := hc _ old hold hrunning
    exact ⟨hstarted, hfinalizer o old rfl hold hversion hrunning hon⟩
  | statusUpdated old o hop' =>
    subst hop'
    exact hop.elim
  | statusPatched old change hop' =>
    subst hop'
    exact hop.elim
  | patched old change _ hold h | terminated old site _ hold _ _ h =>
    subst h
    exact hc key old hold

theorem AllClocked.write {new : Sandbox} (hc : AllClocked c) (hnew : Clocked new) :
    AllClocked (c.write .sandbox new) := by
  intro key sb' hsb'
  rcases find?_write_cases hsb' with ⟨-, rfl⟩ | ⟨-, hsame⟩
  · exact hnew
  · exact hc key sb' hsame

/-- No call of a controller leaves a Running sandbox without a clock. -/
theorem ClockedOp.allClocked (hop : ClockedOp w op) (hw : Coherent w) (hnow : AllClocked w.now)
    (hs : Step op w.now a c') : AllClocked c' := by
  cases hop with
  | free h hfinalizer => exact hnow.free h hfinalizer hs
  | status sb st hseen hclocked =>
    rcases hs.updateStatus_cases with rfl | ⟨old, hold, hversion, rfl⟩
    · exact hnow
    obtain rfl : old = sb := hseen.same hw hold hversion
    exact hnow.write hclocked
  | bump key endTime =>
    rcases hs.state with rfl | rfl
    · exact hnow
    simp only [handle]
    cases hold : w.now.find? .sandbox key with
    | none => exact hnow
    | some old =>
      exact hnow.write fun hrunning => ⟨Option.some_ne_none _, (hnow key old hold hrunning).2⟩

/-- At no time was there a Running sandbox without a clock. -/
structure ClockedPast (w : Timeline Cluster) : Prop where
  coherent : Coherent w
  past : ∀ c, w.past c → AllClocked c

theorem ClockedPast.now (hw : ClockedPast w) : AllClocked w.now :=
  hw.past _ hw.coherent.now

theorem ClockedPast.seen (hw : ClockedPast w) {sb : Sandbox} (h : Seen w sb) : Clocked sb := by
  obtain ⟨c, hc, hsb⟩ := h
  exact hw.past c hc _ sb hsb

/-- What the controllers do, and may rely on the others to do. -/
def Keeps (w w' : Timeline Cluster) : Prop :=
  Since w w' ∧ ClockedPast w'

theorem Keeps.trans {w'' : Timeline Cluster} (h : Keeps w w') (h' : Keeps w' w'') : Keeps w w'' :=
  ⟨h.1.trans h'.1, h'.2⟩

theorem ClockedPast.onto (hw : ClockedPast w) (hlater : Later w.now c') (hc' : AllClocked c') :
    Keeps w (w.onto c') := by
  have hsince : Since w (w.onto c') := .onto hlater
  refine ⟨hsince, hsince.coherent hw.coherent, ?_⟩
  rintro c (hc | rfl)
  · exact hw.past c hc
  · exact hc'

theorem ClockedPast.keeps (hw : ClockedPast w) (h : Relation.ReflTransGen Keeps w w') :
    Keeps w w' := by
  induction h with
  | refl => exact ⟨.refl _, hw⟩
  | tail _ hstep ih => exact ih.trans hstep

/-- A call of a controller that reads through a cache, and then what the others do. -/
def BesideStep : (op : Call) → Timeline Cluster → Resp Spec Status op → Timeline Cluster → Prop :=
  Prog.interleaved (lagging Step Op.isRead) Keeps

/-- A call that is made with the knowledge of `ClockedOp`. -/
def Knows (op : Call) (w : Timeline Cluster) : Prop :=
  ClockedPast w ∧ ClockedOp w op

theorem Knows.rely (h : Knows op w) (ha : lagging Step Op.isRead op w a w') :
    w' = w ∨ Keeps w w' := by
  cases hread : op.isRead with
  | true => exact Or.inl (Prog.lagging_read hread ha).1
  | false =>
    obtain ⟨c', hs, rfl⟩ := Prog.lagging_write hread ha
    exact Or.inr (h.1.onto hs.later (h.2.allClocked h.1.coherent h.1.now hs))

theorem Knows.stays (h : Knows op w) (ha : lagging Step Op.isRead op w a w') : ClockedPast w' := by
  rcases h.rely ha with rfl | hkeeps
  · exact h.1
  · exact hkeeps.2

theorem Knows.after (h : Knows op w) (ha : BesideStep op w a w') : Keeps w w' := by
  obtain ⟨w₁, hstep, hsteps⟩ := ha
  rcases h.rely hstep with rfl | hkeeps
  · exact h.1.keeps hsteps
  · exact hkeeps.trans (hkeeps.2.keeps hsteps)

/-- Whatever a routine is answered, if its calls are among those a controller may make, it plays by
the rules. -/
theorem knows_of_within {α : Type} {p : Prog Call (Resp Spec Status) α} {P : Call → Prop}
    {R : α → Prop} (h : p.Within P R)
    (hcalls : ∀ op w', Since w w' → P op → ClockedOp w' op) (hw : ClockedPast w) :
    p.wp BesideStep Knows (fun a w' => R a ∧ Keeps w w') w := by
  refine Prog.wp_mono (h.preserves (I := fun w' => Keeps w w')
    (fun op w₁ a w₂ hop ha hw₁ => ?_) ⟨.refl _, hw⟩) ?_ fun _ _ h => h
  · exact hw₁.trans (Knows.after ⟨hw₁.2, hcalls op w₁ hw₁.1 hop⟩ ha)
  · exact fun op w' h => ⟨h.2.2, hcalls op w' h.2.1 h.1⟩

theorem knows_of_frame {α σ τ : Type} {x : ClientM σ α} {f : σ → τ} (hx : x.Frame Harmless f)
    (hw : ClockedPast w) (st : σ) : x.wp BesideStep Knows (fun _ _ w' => Keeps w w') st w := by
  refine Prog.wp_mono (knows_of_within (hx st) (fun _ _ _ h => h.clockedOp) hw) (fun _ _ => id) ?_
  rintro ⟨r, st'⟩ w' ⟨-, hkeeps⟩
  cases r with
  | error e => trivial
  | ok a => exact hkeeps

end Calls

/-! ## The session controller -/

section Sessions

variable {w : Timeline Cluster}

theorem knows_get {k : Kind} {key : ObjectKey} (hw : ClockedPast w) : Knows (.get k key) w :=
  have hread : Harmless (.get k key) := trivial
  ⟨hw, hread.clockedOp⟩

theorem wp_bumpSandboxActivity_knows (session : SandboxSession) (endTime : Time)
    (hw : ClockedPast w) : (bumpSandboxActivity session endTime).wp BesideStep Knows
      (fun _ _ w' => ClockedPast w') () w := by
  refine wp_bind.mpr (wp_getOptional_of (knows_get hw)
    (fun sb w₁ hget => ?_) fun _ w₁ hget => ((knows_get hw).after hget).2)
  have hw₁ := ((knows_get hw).after hget).2
  refine wp_ite (fun _ => ?_) fun _ => hw₁
  have hknows : Knows (.patchStatus .sandbox sb.key fun st =>
      { st with lastActivityTime := some endTime }) w₁ := ⟨hw₁, .bump sb.key endTime⟩
  exact wp_patchStatusIfPresent_of hknows fun _ w₂ hpatch => (hknows.after hpatch).2

theorem knows_reconcileClosed (session : SandboxSession) (hw : ClockedPast w) :
    (reconcileClosed session).Always BesideStep Knows () w := by
  unfold reconcileClosed
  cases session.status.endTime with
  | none => trivial
  | some endTime =>
    refine wp_bind.mpr
      (wp_post (wp_bumpSandboxActivity_knows session endTime hw) fun _ _ w₁ hw₁ => ?_)
    refine wp_post (knows_of_frame (f := id) ?_ hw₁ ()) fun _ _ _ _ => trivial
    refine (frame_call trivial).bind fun t => frame_ite ?_ (frame_pure _)
    exact (frame_deleteIfPresent trivial).bind fun _ => frame_pure _

theorem knows_reconcile_session (key : ObjectKey) (hw : ClockedPast w) :
    (SessionReconciler.reconcile key).Always BesideStep Knows () w := by
  refine wp_bind.mpr (wp_getOptional_of (knows_get hw)
    (fun session w₁ hget => ?_) fun _ _ _ => trivial)
  have hw₁ := ((knows_get hw).after hget).2
  dsimp only
  cases session.status.state with
  | unset => trivial
  | active =>
    have hactive := frame_reconcileActive (P := Harmless) (g := id) session trivial fun _ => trivial
    exact wp_post (knows_of_frame hactive hw₁ ()) fun _ _ _ _ => trivial
  | closed => exact knows_reconcileClosed session hw₁

end Sessions

/-! ## The sandbox controller -/

section Passes

variable {w : Timeline Cluster} {σ : Type}

/-- The status does not say Running where the idle clock has not started. -/
def Started (st : SandboxStatus) : Prop :=
  st.phase = .running → st.lastActivityTime ≠ none

theorem Started.congr {st st' : SandboxStatus} (h : Started st) (hphase : st'.phase = st.phase)
    (hclock : st'.lastActivityTime = st.lastActivityTime) : Started st' := by
  unfold Started
  rwa [hphase, hclock]

/-- Whatever it is answered, a pass writes no sandbox on its way, and does not report the sandbox
Running without starting its clock. -/
theorem within_reconcileSandbox_started (r : SandboxReconciler) (sb : Sandbox) {st : SandboxStatus}
    (hst : Started st) :
    (r.reconcileSandbox sb st).Within (·.Within (.pod :: gateKinds)) fun x => Started x.2 := by
  have hother : ∀ {st' : SandboxStatus}, st'.phase ≠ .running → Started st' :=
    fun hphase hrunning => absurd hrunning hphase
  have hgate : ∀ {op : Call}, op.Within gateKinds → op.Within (.pod :: gateKinds) :=
    fun h t ht => List.mem_cons_of_mem _ (h t ht)
  have hpod : ∀ {op : Call} {key : ObjectKey}, op.target = some (.pod, key) →
      op.Within (.pod :: gateKinds) := fun ht => within_write ht (by simp)
  have hI : MachineInvariant (fun _ _ _ _ => True) (fun op _ => op.Within (.pod :: gateKinds))
      (fun st' _ => Started st') (fun st' _ => Started st') r sb :=
    { call := fun op hop st' c h => ⟨hgate hop, fun _ _ _ => h⟩
      progress := fun st₁ st₂ c hst h => h.congr (congrArg (·.1) hst) (congrArg (·.2.2) hst)
      pending := fun st₁ st₂ c hst _ => hother fun hrunning =>
        nomatch (congrArg (·.1) hst : st₂.phase = .pending).symm.trans hrunning
      final := fun _ _ h => h
      read := fun op hop st' c h => ⟨within_read hop, fun _ _ _ => h⟩
      finalProgress := fun st₁ st₂ c hst h => h.congr (congrArg (·.1) hst) (congrArg (·.2.2) hst)
      create := fun _ _ st' c h => ⟨hpod rfl, fun _ _ _ => h⟩
      suspend := fun st' c h _ => ⟨hpod rfl, fun _ _ _ => h⟩
      recreate := fun st' c h => ⟨hpod rfl, fun _ _ _ => h⟩
      cleared := fun st₁ st₂ c _ hsame hphase h =>
        hphase.elim (fun hphase => h.congr hphase hsame) hother
      created := fun st₁ st₂ c _ _ hphase _ => hother hphase
      ready := fun st₁ st₂ c pod c₁ t c₂ h _ _ _ _ hst _ => by
        have hclock : st₂.lastActivityTime = if st₁.phase ≠ .running ∧ st₁.lastActivityTime = none
            then some t else st₁.lastActivityTime := congrArg (·.2.2) hst
        rw [hclock]
        split_ifs with hnew
        · nofun
        · intro hnone
          exact hnew ⟨fun hrunning => h hrunning hnone, hnone⟩ }
  exact Prog.within_of_wp (hI.leads_reconcileSandbox st (.ofObjects (fun _ => []) 0) hst)

theorem wp_ensureFinalizer_knows {sb : Sandbox} (hseen : Seen w sb) (hw : ClockedPast w) :
    (ensureFinalizer sb : ClientM Unit Sandbox).wp BesideStep Knows
      (fun sb' _ w' => ClockedPast w' ∧ Seen w' sb' ∧
        sandboxFinalizer ∈ sb'.metadata.finalizers) () w := by
  refine wp_ite (fun hon => ⟨hw, hseen, by simpa using hon⟩) fun _ => ?_
  have hknows : Knows (.update .sandbox { sb with
      metadata.finalizers := sb.metadata.finalizers ++ [sandboxFinalizer] }) w := by
    refine ⟨hw, .free trivial ?_⟩
    rintro o old ⟨⟩ - - - -
    simp
  refine wp_update_of hknows fun sb' w₁ hupdate => ?_
  have hkeeps := hknows.after hupdate
  obtain ⟨w₂, hstep, hsteps⟩ := hupdate
  refine ⟨hkeeps.2, ?_, ?_⟩
  · exact ((hknows.stays hstep).keeps hsteps).1.seen (seen_of_update (by simp) hstep)
  · obtain ⟨c', hs, -⟩ := Prog.lagging_write rfl hstep
    obtain ⟨old, -, rfl⟩ := hs.update_ok
    simp [versioned, updated]

theorem knows_patchStatus {sb : Sandbox} {st : SandboxStatus} (hseen : Seen w sb)
    (hclocked : Clocked { sb with status := st }) (hw : ClockedPast w) :
    (patchStatus sb st : ClientM Unit Unit).Always BesideStep Knows () w := by
  refine wp_ite (fun _ => trivial) fun _ => ?_
  exact wp_bind.mpr
    (wp_updateStatusIfPresent_of ⟨hw, .status sb st hseen hclocked⟩ fun _ _ _ _ => trivial)

theorem knows_reconcileLive (r : SandboxReconciler) {sb : Sandbox} (hseen : Seen w sb)
    (hw : ClockedPast w) : (r.reconcileLive sb).Always BesideStep Knows () w := by
  refine wp_bind.mpr
    (wp_post (wp_ensureFinalizer_knows hseen hw) ?_)
  rintro sb₁ _ w₁ ⟨hw₁, hseen₁, hon⟩
  have hstarted : Started { sb₁.status with observedGeneration := sb₁.metadata.generation } :=
    fun hrunning => (hw₁.seen hseen₁ hrunning).1
  refine wp_runFrom_bind (knows_of_within
    (within_reconcileSandbox_started r sb₁ hstarted)
    (fun _ _ _ h => (harmless_of_within h (by decide)).clockedOp) hw₁) ?_
  rintro ⟨result, status⟩ w₂ ⟨hstarted, hkeeps⟩
  have hclocked : Clocked { sb₁ with status := status } :=
    fun hrunning => ⟨hstarted hrunning, hon⟩
  refine wp_runFrom_bind
    (knows_patchStatus (hkeeps.1.seen hseen₁) hclocked hkeeps.2) ?_
  rintro ⟨updated, _⟩ w₃ -
  cases result with
  | error e => trivial
  | ok result => cases updated <;> trivial

/-- The copy `sb` is not that of a Running sandbox : it was stored in another phase, or nothing was
stored under its name since. -/
def Retired (w : Timeline Cluster) (sb : Sandbox) : Prop :=
  (Seen w sb ∧ sb.status.phase ≠ .running) ∨
    ∃ c, w.past c ∧ c.find? .sandbox sb.key = none ∧ sb.metadata.resourceVersion ≤ c.revision

theorem Retired.since {w' : Timeline Cluster} {sb : Sandbox} (h : Retired w sb)
    (hsince : Since w w') : Retired w' sb := by
  rcases h with ⟨hseen, hphase⟩ | ⟨c, hc, hnone, hversion⟩
  · exact Or.inl ⟨hsince.seen hseen, hphase⟩
  · exact Or.inr ⟨c, hsince.past c hc, hnone, hversion⟩

theorem Retired.phase {sb old : Sandbox} (h : Retired w sb) (hw : Coherent w)
    (hold : w.now.find? .sandbox sb.key = some old)
    (hversion : old.metadata.resourceVersion = sb.metadata.resourceVersion) :
    old.status.phase ≠ .running := by
  rcases h with ⟨hseen, hphase⟩ | ⟨c, hc, hnone, hle⟩
  · obtain rfl : old = sb := hseen.same hw hold hversion
    exact hphase
  · have hkept := (hw.past c hc).2.kept _ _ old hold (hversion ▸ hle)
    exact nomatch hnone.symm.trans hkept

theorem wp_markTerminating_knows {sb : Sandbox} (hseen : Seen w sb) (hw : ClockedPast w) {st : σ} :
    (markTerminating sb : ClientM σ Sandbox).wp BesideStep Knows
      (fun sb' _ w' => ClockedPast w' ∧ Retired w' sb') st w := by
  refine wp_ite (fun hphase => ⟨hw, Or.inl ⟨hseen, by rw [hphase]; nofun⟩⟩) fun _ => ?_
  have hknows : Knows (.updateStatus .sandbox { sb with status.phase := .terminating }) w :=
    ⟨hw, .status sb _ hseen nofun⟩
  refine wp_bind.mpr (wp_updateStatusIfPresent_answered hknows ?_ ?_)
  · intro sb' w₁ hupdate
    have hkeeps := hknows.after hupdate
    obtain ⟨w₂, hstep, hsteps⟩ := hupdate
    obtain ⟨hseen', hstatus⟩ := seen_of_updateStatus hstep
    refine ⟨hkeeps.2, Or.inl ⟨((hknows.stays hstep).keeps hsteps).1.seen hseen', ?_⟩⟩
    have hphase : sb'.status.phase = .terminating := congrArg SandboxStatus.phase hstatus
    exact fun hrunning => nomatch hphase.symm.trans hrunning
  · intro e w₁ he hupdate
    have hkeeps := hknows.after hupdate
    obtain ⟨w₂, hstep, hsteps⟩ := hupdate
    obtain ⟨c', hs, rfl⟩ := Prog.lagging_write rfl hstep
    have hnone : w.now.find? .sandbox sb.key = none := hs.updateStatus_notFound he
    obtain ⟨c₀, hc₀, hsb⟩ := hseen
    have hversion := (hw.coherent.past c₀ hc₀).1 _ _ sb hsb
    refine ⟨hkeeps.2, Or.inr ⟨w.now, hkeeps.1.past _ hw.coherent.now, hnone, ?_⟩⟩
    exact Nat.le_trans hversion (hw.coherent.past c₀ hc₀).2.revision

theorem knows_finalize {sb : Sandbox} (hseen : Seen w sb) (hw : ClockedPast w) :
    (finalize sb : ClientM Unit Result).Always BesideStep Knows () w := by
  refine wp_ite (fun _ => trivial) fun _ => ?_
  refine wp_bind.mpr (wp_post (wp_markTerminating_knows hseen hw) ?_)
  rintro sb₁ _ w₁ ⟨hw₁, hretired⟩
  have hrelease : ∀ w₂, Keeps w₁ w₂ → Knows (.update .sandbox { sb₁ with
      metadata.finalizers := sb₁.metadata.finalizers.filter (· ≠ sandboxFinalizer) }) w₂ := by
    intro w₂ hkeeps
    refine ⟨hkeeps.2, .free trivial ?_⟩
    rintro o old ⟨⟩ hold hversion hrunning
    exact absurd hrunning ((hretired.since hkeeps.1).phase hkeeps.2.coherent hold hversion)
  have hrest : ∀ {α : Type} {x : ClientM Unit α} {w₂}, x.Frame Harmless id → Keeps w₁ w₂ →
      x.wp BesideStep Knows (fun _ _ w₃ => Keeps w₁ w₃) () w₂ := fun hx hkeeps =>
    wp_post (knows_of_frame hx hkeeps.2 ()) fun _ _ _ => hkeeps.trans
  refine wp_bind.mpr (wp_post (hrest (frame_forEach
    (fun _ => frame_deleteIfPresent trivial) _) ⟨.refl _, hw₁⟩) fun _ _ w₂ hkeeps₂ => ?_)
  refine wp_bind.mpr (wp_post (hrest ((frame_gcRBAC sb₁ none).imp
    fun _ h => harmless_of_within h.within (by decide)) hkeeps₂) fun _ _ w₃ hkeeps₃ => ?_)
  refine wp_bind.mpr (wp_post (hrest ((frame_closeSessions sb₁).imp
    fun _ h => harmless_of_within h (by decide)) hkeeps₃) fun _ _ w₄ hkeeps₄ => ?_)
  refine wp_bind.mpr (wp_post (hrest
    ((frame_applyHomeRetainPolicy sb₁).imp fun _ h => harmless_of_within h (by decide)) hkeeps₄)
    fun _ _ w₅ hkeeps₅ => ?_)
  exact wp_bind.mpr (wp_update_of (hrelease w₅ hkeeps₅) fun _ _ _ => trivial)

theorem knows_reconcile (r : SandboxReconciler) (key : ObjectKey) (hw : ClockedPast w) :
    (r.reconcile key).Always BesideStep Knows () w := by
  refine wp_bind.mpr (wp_getOptional_of (knows_get hw)
    (fun sb w₁ hget => ?_) fun _ _ _ => trivial)
  have hw₁ := ((knows_get hw).after hget).2
  obtain ⟨w₂, hstep, hsteps⟩ := hget
  obtain ⟨rfl, -, hseen₂⟩ := seen_of_get hstep
  have hseen := (hw.keeps hsteps).1.seen hseen₂
  exact wp_ite (fun _ => knows_finalize hseen hw₁) fun _ =>
    knows_reconcileLive r hseen hw₁

end Passes

/-! ## All of them together -/

/-- What may happen beside the controllers : time passes, pods go away, and the others write
anything but the status of a sandbox, and leave the finalizer on a Running one. -/
inductive Surroundings (c : Cluster) : Cluster → Prop
  | tick (t : Time) (h : c.clock ≤ t) : Surroundings c { c with clock := t }
  | podGone (key : ObjectKey) : Surroundings c (c.remove .pod key)
  | write {op : Call} {a : Resp Spec Status op} {c' : Cluster} (hop : NoStatusWrite op)
    (hfinalizer : KeepsFinalizer op c) (hs : Step op c a c') : Surroundings c c'

abbrev ControllerPool := Pool Call (Resp Spec Status) (Timeline Cluster) ClockThread Bool

/-- A step of any number of passes and reconciles, with reads that lag. -/
def ControllerStep (r : SandboxReconciler) : ControllerPool → ControllerPool → Prop :=
  PoolStep (lagging Step Op.isRead) (ClockThread.program r) (fun _ _ => True) (Elapses Surroundings)

/-- The states that passes and reconciles can reach from `c`. -/
def Reached (r : SandboxReconciler) (c c' : Cluster) : Prop :=
  ∃ pool, Relation.ReflTransGen (ControllerStep r) ⟨.start c, []⟩ pool ∧ pool.state.now = c'

section Together

variable {r : SandboxReconciler} {w w' : Timeline Cluster} {pool pool' : ControllerPool}

theorem ClockedPast.elapses (hw : ClockedPast w) (h : Elapses Surroundings w w') : Keeps w w' := by
  obtain ⟨c', hstep, rfl⟩ := h
  cases hstep with
  | tick t ht => exact hw.onto (later_tick ht) hw.now
  | podGone key =>
    refine hw.onto (later_remove _ _ _) fun key' sb hsb => hw.now key' sb ?_
    rwa [find?_remove_ne _ _ _ (by simp)] at hsb
  | write hop hfinalizer hs => exact hw.onto hs.later (hw.now.free hop hfinalizer hs)

theorem safe_controller {α : Type} {x : ClientM Unit α} (hw : ClockedPast w)
    (hx : ∀ w', ClockedPast w' → x.Always BesideStep Knows () w') :
    (succeeded x).Safe (lagging Step Op.isRead) Keeps (fun _ _ => True) w := by
  intro w' hsteps
  refine Prog.wp_bind.mpr ?_
  refine Prog.wp_mono (hx w' (hw.keeps hsteps).2) ?_ fun _ _ _ => trivial
  exact fun op s hop a w₁ ha => hop.rely ha

theorem ControllerStep.safe
    (h : pool.Safe (lagging Step Op.isRead) Keeps ClockedPast fun _ _ _ => True)
    (hstep : ControllerStep r pool pool') :
    pool'.Safe (lagging Step Op.isRead) Keeps ClockedPast fun _ _ _ => True := by
  refine (PoolStep.safe (R := Keeps) (I := ClockedPast) (Q := fun _ _ _ => True) ?_ ?_ ?_ h hstep).1
  · exact fun w w' _ hkeeps => hkeeps.2
  · exact fun w w' hw helapses => Or.inr (hw.elapses helapses)
  · intro pool l hpool _
    cases l with
    | pass key => exact safe_controller hpool.state fun w hw => knows_reconcile r key hw
    | reconcile key => exact safe_controller hpool.state fun w hw => knows_reconcile_session key hw

/-- In every state that is reached from one in which no sandbox is Running, the Running sandboxes
have a clock. -/
theorem Reached.allClocked {c c' : Cluster} (h : Reached r c c') (hc : c.Versioned)
    (hidle : ∀ sb ∈ c.objs .sandbox, sb.status.phase ≠ .running) : AllClocked c' := by
  obtain ⟨pool, hrun, rfl⟩ := h
  have hsafe : pool.Safe (lagging Step Op.isRead) Keeps ClockedPast fun _ _ _ => True := by
    induction hrun with
    | refl =>
      refine ⟨⟨coherent_start hc, ?_⟩, fun _ ht => absurd ht List.not_mem_nil⟩
      rintro _ rfl key sb hsb hrunning
      exact absurd hrunning (hidle sb (mem_of_find? hsb))
    | tail _ hstep ih => exact hstep.safe ih
  exact hsafe.state.now

end Together

end Kubepark
