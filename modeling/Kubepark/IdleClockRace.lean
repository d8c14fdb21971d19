import Kubepark.SessionHistory
import Kubepark.SuspendRoute

/-!
# The idle clock under two controllers

The sandbox controller starts the idle clock and the session controller moves it, each from a read
of its own. The first writes the status over the version it has read, so what it writes is worked
out from what is stored (`Seen.same`). The second patches the one field whatever is stored by then,
and has compared the session's end with the clock it has read.

So the clock does not go back (`ClockForward`) as long as a patch finds the clock that its reconcile
has read (`Unraced`), with any number of passes and reconciles side by side and with reads that
lag : `idle_clock_forward`. Without that it does : `idle_clock_set_back` is a run in which a pass
starts the clock between the read and the patch.
-/

namespace Kubepark

open ApiServer Client SessionReconciler SandboxReconciler Routine

open Prog (Timeline lagging recalling Pool PoolStep Log)

/-! ## The clock -/

/-- The clock of `st` is not later than that of `st'`. One that has not started is before any. -/
def ClockKept (st st' : SandboxStatus) : Prop :=
  ∀ t, st.lastActivityTime = some t → ∃ t', st'.lastActivityTime = some t' ∧ t ≤ t'

theorem clockKept_of_eq {st st' : SandboxStatus} (h : st'.lastActivityTime = st.lastActivityTime) :
    ClockKept st st' :=
  fun t ht => ⟨t, h.trans ht, Int.le_refl t⟩

/-- No clock goes back, or is reset. -/
def ClockForward (c c' : Cluster) : Prop :=
  ∀ key sb sb', c.find? .sandbox key = some sb → c'.find? .sandbox key = some sb' →
    ClockKept sb.status sb'.status

theorem clockForward_refl (c : Cluster) : ClockForward c c := by
  intro key sb sb' hsb hsb'
  obtain rfl := Option.some.inj (hsb.symm.trans hsb')
  exact clockKept_of_eq rfl

/-- The call does not write the status of a sandbox. -/
def NoStatusWrite : Call → Prop
  | .updateStatus .sandbox _ => False
  | .patchStatus .sandbox _ _ => False
  | _ => True

theorem noStatusWrite_of_within {op : Call} {ks : List Kind} (h : op.Within ks)
    (hks : Kind.sandbox ∉ ks) : NoStatusWrite op := by
  unfold NoStatusWrite
  split
  · exact absurd (h _ rfl) hks
  · exact absurd (h _ rfl) hks
  · trivial

section Effects

variable {op : Call} {c c' : Cluster} {a : Resp Spec Status op}

theorem NoStatusWrite.forward (hop : NoStatusWrite op) (hs : Step op c a c') :
    ClockForward c c' := by
  intro key sb sb' hsb hsb'
  cases hs.written hsb' with
  | kept hold =>
    obtain rfl := Option.some.inj (hsb.symm.trans hold)
    exact clockKept_of_eq rfl
  | created _ _ _ hnone => exact nomatch hsb.symm.trans hnone
  | updated old o _ _ hold h =>
    obtain rfl := Option.some.inj (hsb.symm.trans hold)
    subst h
    exact clockKept_of_eq rfl
  | statusUpdated old o hop' =>
    subst hop'
    exact hop.elim
  | patched old change _ hold h =>
    obtain rfl := Option.some.inj (hsb.symm.trans hold)
    subst h
    exact clockKept_of_eq rfl
  | statusPatched old change hop' =>
    subst hop'
    exact hop.elim
  | terminated old site _ hold _ _ h =>
    obtain rfl := Option.some.inj (hsb.symm.trans hold)
    subst h
    exact clockKept_of_eq rfl

/-- A status is written over another. -/
theorem clockForward_write {old new : Sandbox} (hold : c.find? .sandbox old.key = some old)
    (hkey : new.key = old.key) (hkept : ClockKept old.status new.status) :
    ClockForward c (c.write .sandbox new) := by
  intro key sb sb' hsb hsb'
  rcases find?_write_cases hsb' with ⟨rfl, rfl⟩ | ⟨-, hsame⟩
  · rw [hkey] at hsb
    obtain rfl := Option.some.inj (hold.symm.trans hsb)
    exact hkept
  · obtain rfl := Option.some.inj (hsb.symm.trans hsame)
    exact clockKept_of_eq rfl

end Effects

/-! ## What a party knows -/

/-- The sandbox that a call has read. -/
def readSandbox : (Σ op : Call, Resp Spec Status op) → Option Sandbox
  | ⟨.get .sandbox _, .ok sb⟩ => some sb
  | _ => none

/-- The sandbox that a party has read last. -/
def lastRead (log : Log Call (Resp Spec Status)) : Option Sandbox :=
  log.findSome? readSandbox

/-- A patch of the status of a sandbox finds the clock that the party has read. -/
def Unraced (log : Log Call (Resp Spec Status)) (op : Call) (c : Cluster) : Prop :=
  ∀ key change, op = .patchStatus .sandbox key change → ∀ sb old, lastRead log = some sb →
    c.find? .sandbox key = some old → old.status.lastActivityTime = sb.status.lastActivityTime

/-- A call of a party, with what it knows when it makes it. -/
inductive ClockOp (log : Log Call (Resp Spec Status)) (w : Timeline Cluster) : Call → Prop
  | free {op : Call} (h : NoStatusWrite op) : ClockOp log w op
  | status (sb : Sandbox) (st : SandboxStatus) (hseen : Seen w sb) (hkept : ClockKept sb.status st) :
    ClockOp log w (.updateStatus .sandbox { sb with status := st })
  | bump (sb : Sandbox) (endTime : Time) (hread : lastRead log = some sb)
    (hlater : later endTime sb.status.lastActivityTime = true) :
    ClockOp log w (.patchStatus .sandbox sb.key fun st => { st with lastActivityTime := some endTime })

theorem clockKept_of_later {st : SandboxStatus} {endTime : Time}
    (h : later endTime st.lastActivityTime = true) :
    ClockKept st { st with lastActivityTime := some endTime } := by
  intro t ht
  rw [ht] at h
  exact ⟨endTime, rfl, Int.le_of_lt (of_decide_eq_true h)⟩

/-- No call of a party sets a clock back that finds what the party has read. -/
theorem ClockOp.forward {log : Log Call (Resp Spec Status)} {w : Timeline Cluster} {op : Call}
    {a : Resp Spec Status op} {c' : Cluster} (hop : ClockOp log w op) (hw : Coherent w)
    (hcond : Unraced log op w.now) (hs : Step op w.now a c') : ClockForward w.now c' := by
  cases hop with
  | free h => exact h.forward hs
  | status sb st hseen hkept =>
    rcases hs.updateStatus_cases with rfl | ⟨old, hold, hversion, rfl⟩
    · exact clockForward_refl _
    obtain rfl : old = sb := hseen.same hw hold hversion
    have hstored : w.now.find? .sandbox old.key = some old := hold
    have hwritten : ClockForward w.now (w.now.write .sandbox { old with status := st }) :=
      clockForward_write hstored rfl hkept
    exact hwritten
  | bump sb endTime hread hlater =>
    rcases hs.state with rfl | rfl
    · exact clockForward_refl _
    simp only [handle]
    cases hold : w.now.find? .sandbox sb.key with
    | none => exact clockForward_refl _
    | some old =>
      have hclock := hcond _ _ rfl sb old hread hold
      have hkey : old.key = sb.key := key_of_find? hold
      rw [← hkey] at hold
      rw [← hclock] at hlater
      have hwritten : ClockForward w.now (w.now.write .sandbox
          { old with status := { old.status with lastActivityTime := some endTime } }) :=
        clockForward_write hold rfl (clockKept_of_later hlater)
      exact hwritten

/-! ## Parties side by side -/

/-- The handler of the parties : reads lag, and a call is made where `Cond` allows it. -/
def ClockStep (Cond : Log Call (Resp Spec Status) → Call → Cluster → Prop)
    (e : Log Call (Resp Spec Status) × Call) (w : Timeline Cluster) (a : Resp Spec Status e.2)
    (w' : Timeline Cluster) : Prop :=
  lagging Step Op.isRead e.2 w a w' ∧ Cond e.1 e.2 w.now

/-- What the parties do, and may rely on the others to do. -/
def Ticks (w w' : Timeline Cluster) : Prop :=
  ∃ c', w' = w.onto c' ∧ Later w.now c' ∧ ClockForward w.now c'

theorem Ticks.since {w w' : Timeline Cluster} (h : Ticks w w') : Since w w' := by
  obtain ⟨c', rfl, hlater, -⟩ := h
  exact .onto hlater

theorem since_ticks {w w' : Timeline Cluster} (h : Relation.ReflTransGen Ticks w w') :
    Since w w' := by
  induction h with
  | refl => exact .refl _
  | tail _ hstep ih => exact ih.trans hstep.since

/-- A party with its log, and the timeline. -/
abbrev Party := Log Call (Resp Spec Status) × Timeline Cluster

/-- A call that is made with the knowledge of `ClockOp`. -/
def Informed (op : Call) (s : Party) : Prop :=
  Coherent s.2 ∧ ClockOp s.1 s.2 op

/-- A party's call, and then what the others do. -/
def PartyStep : (op : Call) → Party → Resp Spec Status op → Party → Prop :=
  Prog.logging (Prog.interleaved (ClockStep Unraced) Ticks)

section Parties

variable {op : Call} {s s' : Party} {a : Resp Spec Status op} {σ τ : Type} {f : σ → τ}

theorem Informed.rely {w' : Timeline Cluster} (h : Informed op s)
    (ha : ClockStep Unraced (s.1, op) s.2 a w') : w' = s.2 ∨ Ticks s.2 w' := by
  obtain ⟨hstep, hcond⟩ := ha
  cases hread : op.isRead with
  | true => exact Or.inl (Prog.lagging_read hread hstep).1
  | false =>
    obtain ⟨c', hs, rfl⟩ := Prog.lagging_write hread hstep
    exact Or.inr ⟨c', rfl, hs.later, h.2.forward h.1 hcond hs⟩

/-- What was known before a call is known after it. -/
theorem since_partyStep (ha : PartyStep op s a s') : Since s.2 s'.2 := by
  obtain ⟨⟨w₁, ⟨hstep, -⟩, hsteps⟩, -⟩ := ha
  exact (since_lagging hstep).trans (since_ticks hsteps)

theorem party_get {k : Kind} {key : ObjectKey} {o : Object Spec Status k}
    (h : PartyStep (.get k key) s (.ok o) s') : o.key = key ∧ Seen s'.2 o := by
  obtain ⟨⟨w₁, ⟨hget, -⟩, hsteps⟩, -⟩ := h
  obtain ⟨rfl, hkey, hseen⟩ := seen_of_get hget
  exact ⟨hkey, (since_ticks hsteps).seen hseen⟩

theorem party_getSandbox {key : ObjectKey} {sb : Sandbox}
    (h : PartyStep (.get .sandbox key) s (.ok sb) s') : lastRead s'.1 = some sb := by
  rw [h.2]
  rfl

theorem party_update {k : Kind} {o o' : Object Spec Status k}
    (hfinalizers : o.metadata.finalizers ≠ []) (h : PartyStep (.update k o) s (.ok o') s') :
    Seen s'.2 o' := by
  obtain ⟨⟨w₁, ⟨hupdate, -⟩, hsteps⟩, -⟩ := h
  exact (since_ticks hsteps).seen (seen_of_update hfinalizers hupdate)

/-- Whatever a routine is answered, if each of its calls is one that a party may make while it knows
`I`, and knows `I` still after it, then the routine plays by the rules. -/
theorem informed_of_within {α : Type} {p : Prog Call (Resp Spec Status) α} {P : Call → Prop}
    {R : α → Prop} (h : p.Within P R)
    (hcalls : ∀ op (s' : Party), Since s.2 s'.2 → P op → ClockOp s'.1 s'.2 op) (hw : Coherent s.2) :
    p.wp PartyStep Informed (fun a s' => R a ∧ Coherent s'.2 ∧ Since s.2 s'.2) s := by
  refine Prog.wp_mono (h.preserves (I := fun s' => Coherent s'.2 ∧ Since s.2 s'.2)
    (fun op s₁ a s₂ _ ha hs₁ => ?_) ⟨hw, .refl _⟩) ?_ fun _ _ h => h
  · exact ⟨(since_partyStep ha).coherent hs₁.1, hs₁.2.trans (since_partyStep ha)⟩
  · exact fun op s' h => ⟨h.2.1, hcalls op s' h.2.2 h.1⟩

theorem informed_of_frame {α : Type} {x : ClientM σ α} (hx : x.Frame NoStatusWrite f)
    (hw : Coherent s.2) (st : σ) : x.Always PartyStep Informed st s := by
  refine Prog.wp_mono (informed_of_within (hx st) (fun _ _ _ => .free) hw) (fun _ _ => id) ?_
  rintro ⟨r, st'⟩ s' -
  cases r <;> trivial

/-! The session controller. -/

theorem wp_bumpSandboxActivity_informed (session : SandboxSession) (endTime : Time)
    (hw : Coherent s.2) : (bumpSandboxActivity session endTime).wp PartyStep Informed
      (fun _ _ s' => Coherent s'.2) () s := by
  refine wp_bind.mpr (wp_getOptional_of ⟨hw, .free trivial⟩
    (fun sb s₁ hget => ?_) fun _ s₁ hget => (since_partyStep hget).coherent hw)
  have hw₁ := (since_partyStep hget).coherent hw
  refine wp_ite (fun hlater => ?_) fun _ => hw₁
  refine wp_patchStatusIfPresent_of ⟨hw₁, .bump sb endTime (party_getSandbox hget) hlater⟩ ?_
  exact fun _ s₂ hpatch => (since_partyStep hpatch).coherent hw₁

theorem informed_reconcileClosed (session : SandboxSession) (hw : Coherent s.2) :
    (reconcileClosed session).Always PartyStep Informed () s := by
  unfold reconcileClosed
  cases session.status.endTime with
  | none => trivial
  | some endTime =>
    refine wp_bind.mpr
      (wp_post (wp_bumpSandboxActivity_informed session endTime hw) fun _ _ s₁ hw₁ => ?_)
    refine informed_of_frame (f := id) ?_ hw₁ ()
    refine (frame_call trivial).bind fun t => frame_ite ?_ (frame_pure _)
    exact (frame_deleteIfPresent trivial).bind fun _ => frame_pure _

theorem informed_reconcile_session (key : ObjectKey) (hw : Coherent s.2) :
    (SessionReconciler.reconcile key).Always PartyStep Informed () s := by
  refine wp_bind.mpr (wp_getOptional_of ⟨hw, .free trivial⟩
    (fun session s₁ hget => ?_) fun _ _ _ => trivial)
  have hw₁ := (since_partyStep hget).coherent hw
  dsimp only
  cases session.status.state with
  | unset => trivial
  | active => exact informed_of_frame (frame_reconcileActive (g := id) session trivial fun _ => trivial) hw₁ ()
  | closed => exact informed_reconcileClosed session hw₁

/-! The sandbox controller. -/

theorem ClockKept.congr {st st₁ st₂ : SandboxStatus} (h : ClockKept st st₁)
    (hsame : st₂.lastActivityTime = st₁.lastActivityTime) : ClockKept st st₂ := by
  intro t ht
  rw [hsame]
  exact h t ht

/-- Whatever it is answered, a pass writes no status on its way, and works out one that keeps the
clock. -/
theorem within_reconcileSandbox (r : SandboxReconciler) (sb : Sandbox) (st : SandboxStatus) :
    (r.reconcileSandbox sb st).Within NoStatusWrite fun x => ClockKept st x.2 := by
  have hI : MachineInvariant (fun _ _ _ _ => True) (fun op _ => NoStatusWrite op)
      (fun st' _ => ClockKept st st') (fun st' _ => ClockKept st st') r sb :=
    { call := fun op hop st' c h =>
        ⟨noStatusWrite_of_within hop (by decide), fun _ _ _ => h⟩
      progress := fun st₁ st₂ c hst h => h.congr (congrArg (·.2.2) hst)
      pending := fun st₁ st₂ c hst h => h.congr (congrArg (·.2.2) hst)
      final := fun _ _ h => h
      read := fun op hop st' c h =>
        ⟨noStatusWrite_of_within (within_read hop) List.not_mem_nil, fun _ _ _ => h⟩
      finalProgress := fun st₁ st₂ c hst h => h.congr (congrArg (·.2.2) hst)
      create := fun _ _ st' c h => ⟨trivial, fun _ _ _ => h⟩
      suspend := fun st' c h _ => ⟨trivial, fun _ _ _ => h⟩
      recreate := fun st' c h => ⟨trivial, fun _ _ _ => h⟩
      cleared := fun st₁ st₂ c _ hsame _ h => h.congr hsame
      created := fun st₁ st₂ c _ hsame _ h => h.congr hsame
      ready := fun st₁ st₂ c pod c₁ t c₂ h _ _ _ _ hst => by
        have hclock : st₂.lastActivityTime = if st₁.phase ≠ .running ∧ st₁.lastActivityTime = none
            then some t else st₁.lastActivityTime := congrArg (·.2.2) hst
        intro t₀ ht₀
        obtain ⟨t₁, ht₁, hle⟩ := h t₀ ht₀
        refine ⟨t₁, ?_, hle⟩
        rw [hclock, if_neg (by simp [ht₁])]
        exact ht₁ }
  have hstart : ClockKept st st := clockKept_of_eq rfl
  exact Prog.within_of_wp (hI.leads_reconcileSandbox st (.ofObjects (fun _ => []) 0) hstart)

/-- The calls of a teardown of the copy `sb`. -/
def TeardownOp (sb : Sandbox) (op : Call) : Prop :=
  NoStatusWrite op ∨
    ∃ st, op = .updateStatus .sandbox { sb with status := st } ∧ ClockKept sb.status st

theorem frame_finalize_clock (sb : Sandbox) :
    (finalize sb : ClientM σ Result).Frame (TeardownOp sb) f := by
  have hfree : ∀ {ks : List Kind}, Kind.sandbox ∉ ks → ∀ op : Call, op.Within ks →
      TeardownOp sb op := fun hks op h => Or.inl (noStatusWrite_of_within h hks)
  refine frame_ite (frame_pure _) ?_
  refine Routine.Frame.bind (x := markTerminating sb) ?_ fun sb' => ?_
  · refine frame_ite (frame_pure _) ?_
    exact (frame_updateStatusIfPresent (Or.inr ⟨_, rfl, clockKept_of_eq rfl⟩)).bind fun _ =>
      frame_pure _
  refine (frame_forEach (fun child => frame_deleteIfPresent (Or.inl trivial)) _).bind
    fun _ => ?_
  refine ((frame_gcRBAC sb' none).imp fun op h => hfree (by decide) op h.within).bind fun _ => ?_
  refine ((frame_closeSessions sb').imp (hfree (by decide))).bind fun _ => ?_
  refine ((frame_applyHomeRetainPolicy sb').imp (hfree (by decide))).bind fun _ => ?_
  exact (frame_update (Or.inl trivial)).bind fun _ => frame_pure _

theorem informed_finalize {sb : Sandbox} (hseen : Seen s.2 sb) (hw : Coherent s.2) :
    (finalize sb : ClientM Unit Result).Always PartyStep Informed () s := by
  refine Prog.wp_mono (informed_of_within (frame_finalize_clock (f := id) sb ()) ?_ hw)
    (fun _ _ => id) ?_
  · rintro op s' hsince (hop | ⟨st, rfl, hkept⟩)
    · exact .free hop
    · exact .status sb st (hsince.seen hseen) hkept
  · rintro ⟨r, st'⟩ s' -
    cases r <;> trivial

theorem wp_ensureFinalizer_informed {sb : Sandbox} (hseen : Seen s.2 sb) (hw : Coherent s.2) :
    (ensureFinalizer sb : ClientM Unit Sandbox).wp PartyStep Informed
      (fun sb' _ s' => Coherent s'.2 ∧ Seen s'.2 sb') () s := by
  refine wp_ite (fun _ => ⟨hw, hseen⟩) fun _ => ?_
  refine wp_update_of ⟨hw, .free trivial⟩ fun sb' s₁ hupdate => ?_
  exact ⟨(since_partyStep hupdate).coherent hw, party_update (by simp) hupdate⟩

theorem informed_patchStatus {sb : Sandbox} {st : SandboxStatus} (hkept : ClockKept sb.status st)
    (hseen : Seen s.2 sb) (hw : Coherent s.2) :
    (patchStatus sb st : ClientM Unit Unit).Always PartyStep Informed () s := by
  refine wp_ite (fun _ => trivial) fun _ => ?_
  exact wp_bind.mpr
    (wp_updateStatusIfPresent_of ⟨hw, .status sb st hseen hkept⟩ fun _ _ _ _ => trivial)

theorem informed_reconcileLive (r : SandboxReconciler) {sb : Sandbox} (hseen : Seen s.2 sb)
    (hw : Coherent s.2) : (r.reconcileLive sb).Always PartyStep Informed () s := by
  refine wp_bind.mpr
    (wp_post (wp_ensureFinalizer_informed hseen hw) ?_)
  rintro sb₁ _ s₁ ⟨hw₁, hseen₁⟩
  refine wp_runFrom_bind (informed_of_within (within_reconcileSandbox r sb₁ _)
    (fun _ _ _ => .free) hw₁) ?_
  rintro ⟨result, status⟩ s₂ ⟨hkept, hw₂, hsince⟩
  refine wp_runFrom_bind (informed_patchStatus hkept (hsince.seen hseen₁) hw₂) ?_
  rintro ⟨updated, _⟩ s₃ -
  cases result with
  | error e => trivial
  | ok result => cases updated <;> trivial

theorem informed_reconcile (r : SandboxReconciler) (key : ObjectKey) (hw : Coherent s.2) :
    (r.reconcile key).Always PartyStep Informed () s := by
  refine wp_bind.mpr (wp_getOptional_of ⟨hw, .free trivial⟩
    (fun sb s₁ hget => ?_) fun _ _ _ => trivial)
  have hw₁ := (since_partyStep hget).coherent hw
  have hseen := (party_get hget).2
  exact wp_ite (fun _ => informed_finalize hseen hw₁) fun _ =>
    informed_reconcileLive r hseen hw₁

end Parties

/-! ## All of them together -/

/-- What the controllers run : a pass over a sandbox, or a reconcile of a session. -/
inductive ClockThread
  | pass (key : ObjectKey)
  | reconcile (key : ObjectKey)

/-- What a thread does. -/
def ClockThread.program (r : SandboxReconciler) : ClockThread → Prog Call (Resp Spec Status) Bool
  | .pass key => succeeded (r.reconcile key)
  | .reconcile key => succeeded (SessionReconciler.reconcile key)

abbrev ClockPool := Pool (Log Call (Resp Spec Status) × Call) (fun e => Resp Spec Status e.2)
  (Timeline Cluster) ClockThread Bool

/-- Time passes, and the others write anything but the status of a sandbox. -/
def OtherWriters (c c' : Cluster) : Prop :=
  (∃ t, c.clock ≤ t ∧ c' = { c with clock := t }) ∨
    ∃ (op : Call) (a : Resp Spec Status op), NoStatusWrite op ∧ Step op c a c'

/-- A step of any number of passes and reconciles. -/
def ClockRun (r : SandboxReconciler)
    (Cond : Log Call (Resp Spec Status) → Call → Cluster → Prop) (pool pool' : ClockPool) : Prop :=
  PoolStep (ClockStep Cond) (fun l => (ClockThread.program r l).recorded []) (fun _ _ => True)
    (Elapses OtherWriters) pool pool'

section Together

variable {r : SandboxReconciler} {w w' : Timeline Cluster} {pool pool' : ClockPool}

theorem ticks_otherWriters (h : Elapses OtherWriters w w') : Ticks w w' := by
  obtain ⟨c', (⟨t, ht, rfl⟩ | ⟨op, a, hop, hs⟩), rfl⟩ := h
  · exact ⟨_, rfl, later_tick ht, clockForward_refl w.now⟩
  · exact ⟨c', rfl, hs.later, hop.forward hs⟩

theorem safe_recorded {α : Type} {x : ClientM Unit α} (hw : Coherent w)
    (hx : ∀ s : Party, Coherent s.2 → x.Always PartyStep Informed () s) :
    ((succeeded x).recorded []).Safe (ClockStep Unraced) Ticks (fun _ _ => True) w := by
  intro w' hsteps
  refine Prog.wp_recorded (Prog.wp_bind.mpr ?_)
  refine Prog.wp_mono (hx ([], w') ((since_ticks hsteps).coherent hw)) ?_ fun _ _ _ => trivial
  exact fun op s hop a w₁ ha => hop.rely ha

theorem safe_clockThread (hw : Coherent w) (l : ClockThread) :
    ((l.program r).recorded []).Safe (ClockStep Unraced) Ticks (fun _ _ => True) w := by
  cases l with
  | pass key => exact safe_recorded hw fun s hs => informed_reconcile r key hs
  | reconcile key => exact safe_recorded hw fun s hs => informed_reconcile_session key hs

/-- Every thread of the pool plays by the rules. -/
def Disciplined (pool : ClockPool) : Prop :=
  pool.Safe (ClockStep Unraced) Ticks Coherent fun _ _ _ => True

theorem ClockRun.disciplined (h : Disciplined pool) (hstep : ClockRun r Unraced pool pool') :
    Disciplined pool' ∧ (pool'.state = pool.state ∨ Ticks pool.state pool'.state) := by
  refine PoolStep.safe (R := Ticks) (I := Coherent) (Q := fun _ _ _ => True) ?_ ?_ ?_ h hstep
  · exact fun w w' hw hticks => hticks.since.coherent hw
  · exact fun w w' _ helapses => Or.inr (ticks_otherWriters helapses)
  · exact fun pool l hpool _ => safe_clockThread hpool.state l

theorem disciplined_run {c : Cluster} (hc : c.Versioned)
    (hrun : Relation.ReflTransGen (ClockRun r Unraced) ⟨.start c, []⟩ pool) :
    Disciplined pool := by
  induction hrun with
  | refl => exact ⟨coherent_start hc, fun _ ht => absurd ht List.not_mem_nil⟩
  | tail _ hstep ih => exact (hstep.disciplined ih).1

end Together

/-- In every run of any number of passes and reconciles, from any state and with reads that lag, in
which each patch finds the clock that its reconcile has read, no step sets an idle clock back or
resets it. -/
theorem idle_clock_forward (r : SandboxReconciler) {c : Cluster} (hc : c.Versioned)
    {pool pool' : ClockPool}
    (hrun : Relation.ReflTransGen (ClockRun r Unraced) ⟨.start c, []⟩ pool)
    (hstep : ClockRun r Unraced pool pool') :
    ClockForward pool.state.now pool'.state.now := by
  rcases (hstep.disciplined (disciplined_run hc hrun)).2 with hsame | ⟨c', hc', -, hforward⟩
  · rw [hsame]
    exact clockForward_refl _
  · rw [hc']
    exact hforward

/-! ## A pass between the read and the patch -/

namespace Team

/-- A session of Alice's that ended a minute after the epoch. -/
def left : SandboxSession :=
  { ended with status := { ended.status with endTime := some (60 * second) } }

/-- Alice's sandbox, before it is seen running. Its clock has been started at the epoch, or not at
all. -/
def waking (started : Bool) : Sandbox :=
  sandbox .running
    { phase := .provisioning, lastActivityTime := if started then some 0 else none }

/-- The sandbox with its pod ready, and the session, two minutes after the epoch. -/
def comingUp (started : Bool) : Cluster :=
  .ofObjects (fun
    | .namespace => [⟨{ name := "team" }, (), ()⟩, ⟨{ name := "kubepark-system" }, (), ()⟩]
    | .sandboxTemplate => [template]
    | .sandbox => [waking started]
    | .pod => [pod]
    | .sandboxSession => [left]
    | _ => []) (120 * second)

theorem versioned_comingUp (started : Bool) : (comingUp started).Versioned := by
  refine versioned_ofObjects fun k => ?_
  cases k <;> simp [left, ended, abandoned, Gateway.buildSession, template, waking, sandbox, pod,
    SandboxReconciler.desiredPod, setControllerReference, buildPod]

/-- What the reconcile of the session does to the sandbox. -/
def bump : Call :=
  .patchStatus .sandbox key fun st => { st with lastActivityTime := some (60 * second) }

end Team

/-- The session controller has read the sandbox, and is about to patch it. -/
theorem run_to_bump (Cond : Log Call (Resp Spec Status) → Call → Cluster → Prop) (started : Bool)
    (hcond : ∀ log op c, op.isRead = true → Cond log op c) :
    ∃ log next, lastRead log = some (Team.waking started) ∧
      Relation.ReflTransGen (ClockRun Team.reconciler Cond) ⟨.start (Team.comingUp started), []⟩
        ⟨.start (Team.comingUp started), [(.reconcile Team.left.key,
          .call (log, Team.bump) next)]⟩ := by
  have hread : ∀ log (op : Call) a, op.isRead = true → (handle op (Team.comingUp started)).1 = a →
      ClockStep Cond (log, op) (.start (Team.comingUp started)) a
        (.start (Team.comingUp started)) := by
    rintro log op _ hop rfl
    refine ⟨?_, hcond _ _ _ hop⟩
    rw [lagging, if_pos hop]
    exact ⟨rfl, _, _, rfl, step_handle op _⟩
  have hget := hread [] (.get .sandboxSession Team.left.key) (.ok Team.left) rfl
    (by cases started <;> rfl)
  have hsandbox := hread [⟨.get .sandboxSession Team.left.key, .ok Team.left⟩]
    (.get .sandbox Team.key) (.ok (Team.waking started)) rfl (by cases started <;> rfl)
  have hstart : ClockRun Team.reconciler Cond ⟨.start (Team.comingUp started), []⟩
      ⟨.start (Team.comingUp started), [(.reconcile Team.left.key, _)]⟩ := .start trivial
  cases started with
  | true =>
    exact ⟨_, _, rfl, .head hstart (.head (PoolStep.last rfl hget)
      (.head (PoolStep.last rfl hsandbox) .refl))⟩
  | false =>
    exact ⟨_, _, rfl, .head hstart (.head (PoolStep.last rfl hget)
      (.head (PoolStep.last rfl hsandbox) .refl))⟩

/-- Nothing happens between the read and the patch, and the clock moves on by a minute. -/
theorem idle_clock_bumped : ∃ pool pool' : ClockPool,
    Relation.ReflTransGen (ClockRun Team.reconciler Unraced) ⟨.start (Team.comingUp true), []⟩
      pool ∧
    ClockRun Team.reconciler Unraced pool pool' ∧
    (pool.state.now.find? .sandbox Team.key).any
      (fun sb => sb.status.lastActivityTime = some 0) = true ∧
    (pool'.state.now.find? .sandbox Team.key).any
      (fun sb => sb.status.lastActivityTime = some (60 * second)) = true ∧
    ClockForward pool.state.now pool'.state.now := by
  have hread : ∀ log op c, op.isRead = true → Unraced log op c := by
    rintro log op c hop key change rfl
    cases hop
  obtain ⟨log, next, hlog, hrun⟩ := run_to_bump Unraced true hread
  have hstored : (Team.comingUp true).find? .sandbox Team.key = some (Team.waking true) := rfl
  have hunraced : Unraced log Team.bump (Team.comingUp true) := by
    rintro key change hop sb old hsb hold
    obtain rfl : Team.key = key := by
      cases hop
      rfl
    obtain rfl := Option.some.inj (hlog.symm.trans hsb)
    obtain rfl := Option.some.inj (hstored.symm.trans hold)
    rfl
  have hpatch : ClockStep Unraced (log, Team.bump) (.start (Team.comingUp true)) _ _ :=
    ⟨⟨_, step_handle Team.bump (Team.comingUp true), rfl⟩, hunraced⟩
  have hstep : ClockRun Team.reconciler Unraced _ ⟨_, [(.reconcile Team.left.key, next _)]⟩ :=
    PoolStep.last rfl hpatch
  have hbefore : ((Team.comingUp true).find? .sandbox Team.key).any
      (fun sb => sb.status.lastActivityTime = some 0) = true := by decide +kernel
  have hafter : ((handle Team.bump (Team.comingUp true)).2.find? .sandbox Team.key).any
      (fun sb => sb.status.lastActivityTime = some (60 * second)) = true := by decide +kernel
  refine ⟨_, _, hrun, hstep, hbefore, hafter, ?_⟩
  exact idle_clock_forward Team.reconciler (Team.versioned_comingUp true) hrun hstep

namespace Team

/-- A pass over the sandbox that reads what is stored. -/
def passed : Timeline Cluster :=
  ((ClockThread.program reconciler (.pass key)).run (Prog.present handle Op.isRead)
    (.start (comingUp false))).2

end Team

/-- The pass runs to its end beside other threads. -/
theorem run_passed (ts : List (ClockThread × Prog _ _ Bool)) : ∃ done,
    Relation.ReflTransGen (ClockRun Team.reconciler fun _ _ _ => True)
      ⟨.start (Team.comingUp false), ts⟩ ⟨Team.passed, (.pass Team.key, .pure done) :: ts⟩ := by
  obtain ⟨t, hpass⟩ := Prog.exec_present
    (K := fun op w a w' => lagging Step Op.isRead op w a w' ∧ True)
    (fun op w hw => ⟨Prog.lagging_recalling step_handle Op.isRead op hw, trivial⟩)
    (ClockThread.program Team.reconciler (.pass Team.key)) (w := .start (Team.comingUp false)) rfl
  obtain ⟨t', hpass'⟩ := Prog.exec_recorded hpass []
  exact ⟨_, Pool.run_start trivial hpass'⟩

/-- A pass starts the clock between the read of the session controller and its patch, which then
sets the clock back by a minute. -/
theorem idle_clock_set_back : ∃ (c : Cluster) (pool pool' : ClockPool), c.Versioned ∧
    Relation.ReflTransGen (ClockRun Team.reconciler fun _ _ _ => True) ⟨.start c, []⟩ pool ∧
    ClockRun Team.reconciler (fun _ _ _ => True) pool pool' ∧
    ¬ClockForward pool.state.now pool'.state.now := by
  obtain ⟨log, next, -, hrun⟩ := run_to_bump (fun _ _ _ => True) false fun _ _ _ _ => trivial
  obtain ⟨done, hpass⟩ := run_passed [(.reconcile Team.left.key, .call (log, Team.bump) next)]
  have hpatch : ClockStep (fun _ _ _ => True) (log, Team.bump) Team.passed _ _ :=
    ⟨⟨_, step_handle Team.bump Team.passed.now, rfl⟩, trivial⟩
  have hstep : ClockRun Team.reconciler (fun _ _ _ => True)
      ⟨Team.passed, [(.pass Team.key, .pure done)] ++ [(.reconcile Team.left.key, .call _ next)]⟩
      ⟨_, [(.pass Team.key, .pure done)] ++ [(.reconcile Team.left.key, next _)]⟩ := .call hpatch
  refine ⟨_, _, _, Team.versioned_comingUp false, hrun.trans hpass, hstep, fun hforward => ?_⟩
  have hstarted : (Team.passed.now.find? .sandbox Team.key).any
      (fun sb => sb.status.lastActivityTime = some (120 * second)) = true := by decide +kernel
  have hback : ((handle Team.bump Team.passed.now).2.find? .sandbox Team.key).any
      (fun sb => sb.status.lastActivityTime = some (60 * second)) = true := by decide +kernel
  obtain ⟨sb, hsb, hclock⟩ := (Option.any_eq_true _ _).mp hstarted
  obtain ⟨sb', hsb', hclock'⟩ := (Option.any_eq_true _ _).mp hback
  obtain ⟨t, ht, hle⟩ := hforward Team.key sb sb' hsb hsb' _ (of_decide_eq_true hclock)
  obtain rfl := Option.some.inj ((of_decide_eq_true hclock').symm.trans ht)
  exact absurd hle (by decide)

end Kubepark
