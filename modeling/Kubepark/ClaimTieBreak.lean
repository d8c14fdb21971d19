import Kubepark.HomeExclusive
import Kubepark.ListOrder
import Mathlib.Data.String.Basic

/-!
# Who gets a claim

Two sandboxes may name the same claim as their home. Each decides in its own pass whether to
yield (`claimConflict`) : it looks for another user of the claim that was created before it, the
UID deciding ties (`wins`). What it reports does not depend on the order in which the users are
listed, up to which of several winners it names (`ConflictReport`).

`wins` is a strict total order on sandboxes with distinct UIDs, so among the sandboxes that name
a claim exactly one does not yield (`claim_elects_one`). The guard takes two kinds of sandboxes
for users that are not (`Bystander`) : one that is suspended for being idle, and one whose
generated claim it would be if it did not name another. It is exact where these do not decide
(`claim_conflict_exact_iff`).
-/

namespace Kubepark

open ApiServer Client Routine

/-! ## The tie-break -/

section Order

variable {a b d : Sandbox}

theorem wins_iff : wins a b = true ↔ a.metadata.creationTimestamp < b.metadata.creationTimestamp ∨
    a.metadata.creationTimestamp = b.metadata.creationTimestamp ∧
      a.metadata.uid < b.metadata.uid := by
  unfold wins
  split_ifs with h
  · simp [h]
  · simp [not_not.mp h]

theorem wins_trans (h : wins a b = true) (h' : wins b d = true) : wins a d = true := by
  rw [wins_iff] at h h' ⊢
  rcases h with h | ⟨h, huid⟩ <;> rcases h' with h' | ⟨h', huid'⟩
  · exact Or.inl (lt_trans h h')
  · exact Or.inl (h' ▸ h)
  · exact Or.inl (h ▸ h')
  · exact Or.inr ⟨h.trans h', String.lt_trans huid huid'⟩

theorem not_wins_of_wins (h : wins a b = true) : ¬wins b a = true := by
  intro h'
  rcases wins_iff.mp (wins_trans h h') with h | ⟨-, h⟩
  · exact lt_irrefl _ h
  · exact String.lt_irrefl _ h

theorem wins_or_wins (h : a.metadata.uid ≠ b.metadata.uid) : wins a b = true ∨ wins b a = true := by
  rw [wins_iff, wins_iff]
  rcases lt_trichotomy a.metadata.creationTimestamp b.metadata.creationTimestamp with ht | ht | ht
  · exact Or.inl (Or.inl ht)
  · rcases lt_or_gt_of_ne h with hu | hu
    · exact Or.inl (Or.inr ⟨ht, hu⟩)
    · exact Or.inr (Or.inr ⟨ht.symm, hu⟩)
  · exact Or.inr (Or.inl ht)

/-- Of finitely many sandboxes one beats all the others. -/
theorem exists_winner : ∀ l : List Sandbox, l ≠ [] →
    (∀ x ∈ l, ∀ y ∈ l, x.metadata.uid = y.metadata.uid → x = y) →
    ∃ w ∈ l, ∀ x ∈ l, x ≠ w → wins w x = true
  | [], h, _ => absurd rfl h
  | [x], _, _ => ⟨x, List.mem_singleton_self x, fun y hy hne => absurd (List.mem_singleton.mp hy) hne⟩
  | x :: y :: l, _, huid => by
    have huid' : ∀ a ∈ y :: l, ∀ b ∈ y :: l, a.metadata.uid = b.metadata.uid → a = b :=
      fun a ha b hb => huid a (List.mem_cons_of_mem x ha) b (List.mem_cons_of_mem x hb)
    obtain ⟨w, hw, hbest⟩ := exists_winner (y :: l) (by simp) huid'
    by_cases hx : x = w
    · refine ⟨w, List.mem_cons_of_mem x hw, fun z hz hne => ?_⟩
      rcases List.mem_cons.mp hz with rfl | hz
      · exact absurd hx hne
      · exact hbest z hz hne
    have hdistinct : x.metadata.uid ≠ w.metadata.uid :=
      fun h => hx (huid x List.mem_cons_self w (List.mem_cons_of_mem x hw) h)
    rcases wins_or_wins hdistinct with hwins | hwins
    · refine ⟨x, List.mem_cons_self, fun z hz hne => ?_⟩
      have hz := (List.mem_cons.mp hz).resolve_left hne
      by_cases hzw : z = w
      · exact hzw ▸ hwins
      · exact wins_trans hwins (hbest z hz hzw)
    · refine ⟨w, List.mem_cons_of_mem x hw, fun z hz hne => ?_⟩
      rcases List.mem_cons.mp hz with rfl | hz
      · exact hwins
      · exact hbest z hz hne

end Order

/-! ## What the guard reports -/

/-- What `claimConflict` may report : nothing when no candidate blocks, and otherwise the name of
one that does. -/
inductive ConflictReport (c : Cluster) (sb : Sandbox) (claim : String) : String → Prop
  | free (h : ∀ o ∈ claimCandidates c sb claim, blocks sb o = false) : ConflictReport c sb claim ""
  | taken (o : Sandbox) (ho : o ∈ claimCandidates c sb claim) (h : blocks sb o = true) :
    ConflictReport c sb claim o.metadata.name

section Report

variable {c : Cluster} {sb : Sandbox} {claim : String} {st : SandboxStatus}

/-- The first candidate that blocks, whatever order they come in. -/
theorem conflictReport_of_perm {l : List Sandbox} (hl : l.Perm (claimCandidates c sb claim)) :
    ConflictReport c sb claim ((l.find? (blocks sb)).elim "" (·.metadata.name)) := by
  cases hfind : l.find? (blocks sb) with
  | none =>
    refine .free fun o ho => ?_
    simpa using List.find?_eq_none.mp hfind o (hl.mem_iff.mpr ho)
  | some o =>
    exact .taken o (hl.mem_iff.mp (List.mem_of_find?_eq_some hfind)) (List.find?_some hfind)

/-- An error-free `claimConflict`, with the users of the claim listed in any order. -/
theorem ends_claimConflict_any :
    (claimConflict sb claim).wp ListStep (fun _ _ => True)
      (fun name _ _ => ConflictReport c sb claim name) st c := by
  refine wp_bind.mpr (wp_list_any trivial fun l hl => ?_)
  have hframe : (generatedClaimOwner sb claim).Frame (fun op => ¬op.IsList) id := by
    unfold generatedClaimOwner
    cases ownerOfGeneratedClaim claim with
    | none => exact frame_pure _
    | some owner =>
      refine frame_ite ?_ (frame_pure _)
      refine (frame_getOptional ?_).bind fun _ => frame_pure _
      rintro ⟨_, _, h⟩
      cases h
  refine wp_bind.mpr (wp_listStep hframe ?_)
  have hreport : ∀ owner, claimCandidates c sb claim = (c.objs .sandbox).filter (fun o =>
      inNamespace sb.metadata.namespaceName o && existingClaim o = some claim) ++ owner →
      ConflictReport c sb claim (((l ++ owner).find? (blocks sb)).elim "" (·.metadata.name)) :=
    fun owner h => conflictReport_of_perm (h ▸ hl.append_right owner)
  unfold generatedClaimOwner
  cases howner : ownerOfGeneratedClaim claim with
  | none => exact hreport [] (by simp [claimCandidates, howner])
  | some owner =>
    refine wp_ite (fun hne => ?_) fun heq => hreport [] ?_
    · refine wp_bind.mpr (wp_getOptional.mpr ⟨trivial, ?_⟩)
      refine hreport _ ?_
      simp only [claimCandidates, howner, if_pos hne]
    · simp only [claimCandidates, howner, if_neg heq]

theorem blocks_iff {o : Sandbox} : blocks sb o = true ↔ o.metadata.uid ≠ sb.metadata.uid ∧
    o.deleting = false ∧ ¬(o.spec.desiredState = .stopped ∧ o.status.phase = .suspended) ∧
    wins o sb = true := by
  unfold blocks
  split_ifs with hself hstopped
  · rw [Bool.or_eq_true, decide_eq_true_eq] at hself
    refine iff_of_false (by simp) fun h => ?_
    rcases hself with hself | hself
    · exact h.1 hself
    · exact nomatch h.2.1.symm.trans hself
  · exact iff_of_false (by simp) fun h => h.2.2.1 hstopped
  · rw [Bool.or_eq_true, decide_eq_true_eq, not_or, Bool.not_eq_true] at hself
    exact ⟨fun h => ⟨hself.1, hself.2, hstopped, h⟩, fun h => h.2.2.2⟩

end Report

/-- Against a server that does not fail `claimConflict` returns. -/
theorem claimConflict_returns (c : Cluster) (sb : Sandbox) (claim : String) (st : SandboxStatus) :
    ∃ name st' t c', (claimConflict sb claim st).Exec ListStep c t (.ok name, st') c' := by
  have hsucceeds : (claimConflict sb claim).Succeeds Faithful (fun _ _ _ => True) st c := by
    refine Routine.Succeeds.bind (succeeds_list (Q := fun _ _ _ => True) trivial) fun _ st c _ => ?_
    refine Routine.Succeeds.bind (R := fun _ _ _ => True) ?_
      fun _ _ _ _ => succeeds_pure trivial
    unfold generatedClaimOwner
    cases ownerOfGeneratedClaim claim with
    | none => exact succeeds_pure trivial
    | some owner =>
      refine succeeds_ite (fun _ => ?_) fun _ => succeeds_pure trivial
      exact Routine.Succeeds.bind (succeeds_getOptional (Q := fun _ _ _ => True) trivial)
        fun _ _ _ _ => succeeds_pure trivial
  have hexec := Prog.exec_run (H := Faithful) (fun _ _ => ⟨rfl, rfl⟩) (claimConflict sb claim st) c
  obtain ⟨name, hname, -⟩ := (hexec.wp hsucceeds).2
  have hok : ((claimConflict sb claim st).run handle c).1 =
      (.ok name, ((claimConflict sb claim st).run handle c).1.2) := Prod.ext hname rfl
  have hany := Prog.exec_run (fun op c => ListStep.of_step (step_handle op c))
    (claimConflict sb claim st) c
  rw [hok] at hany
  exact ⟨name, _, _, _, hany⟩

/-! ## Exactness -/

theorem ownerOfGeneratedClaim_eq_some {claim owner : String}
    (h : ownerOfGeneratedClaim claim = some owner) : claim = pvcName owner := by
  unfold ownerOfGeneratedClaim at h
  rw [Option.ite_none_right_eq_some] at h
  obtain ⟨⟨-, htake⟩, howner⟩ := h
  have hsplit := List.take_append_drop "kubepark-home-".toList.length claim.toList
  have hrest : owner.toList = claim.toList.drop "kubepark-home-".toList.length := by
    rw [← Option.some.inj howner]
    exact String.toList_ofList
  have hlist : (pvcName owner).toList = "kubepark-home-".toList ++ owner.toList :=
    String.toList_append
  rw [← String.toList_inj, hlist, hrest, ← hsplit, htake, List.drop_left]

/-- Another sandbox in the namespace of `sb` that is not being deleted and beats `sb`. -/
structure Elder (c : Cluster) (sb o : Sandbox) : Prop where
  stored : c.find? .sandbox o.key = some o
  sameNamespace : o.metadata.namespaceName = sb.metadata.namespaceName
  other : o.key ≠ sb.key
  live : o.deleting = false
  beats : wins o sb = true

/-- Another sandbox that uses the claim, is not suspended, and beats `sb`. -/
structure Rival (c : Cluster) (sb : Sandbox) (claim : String) (o : Sandbox) : Prop extends
    Elder c sb o where
  uses : homeClaim o = claim
  awake : o.status.phase ≠ .suspended

/-- Another sandbox that the guard takes for a user of the claim : it is suspended without having
been stopped, or it would generate the claim if it did not name another. -/
structure Bystander (c : Cluster) (sb : Sandbox) (claim : String) (o : Sandbox) : Prop extends
    Elder c sb o where
  counted : ¬(o.spec.desiredState = .stopped ∧ o.status.phase = .suspended)
  idle : homeClaim o = claim ∧ o.status.phase = .suspended ∨
    claim = pvcName o.metadata.name ∧ homeClaim o ≠ claim

section Exact

variable {c : Cluster} {sb o : Sandbox} {claim : String}

/-- Whom the guard looks at. -/
theorem mem_claimCandidates_iff (hnamed : WellNamed c) : o ∈ claimCandidates c sb claim ↔
    c.find? .sandbox o.key = some o ∧ o.metadata.namespaceName = sb.metadata.namespaceName ∧
      (existingClaim o = some claim ∨
        claim = pvcName o.metadata.name ∧ o.metadata.name ≠ sb.metadata.name) := by
  unfold claimCandidates
  rw [List.mem_append, List.mem_filter, mem_objs_iff, Bool.and_eq_true, decide_eq_true_eq]
  have hns : inNamespace sb.metadata.namespaceName o = true ↔
      o.metadata.namespaceName = sb.metadata.namespaceName := by
    simp [inNamespace]
  rw [hns]
  constructor
  · rintro (⟨hstored, hns, hclaim⟩ | h)
    · exact ⟨hstored, hns, Or.inl hclaim⟩
    · cases howner : ownerOfGeneratedClaim claim with
      | none => simp [howner] at h
      | some owner =>
        by_cases hne : owner = sb.metadata.name
        · simp [howner, hne] at h
        · simp only [howner, ne_eq, hne, not_false_eq_true, ↓reduceIte, Option.mem_toList] at h
          have hkey := key_of_find? h
          have hname : o.metadata.name = owner := congrArg (·.name) hkey
          refine ⟨hkey ▸ h, congrArg (·.namespaceName) hkey, Or.inr ⟨?_, hname ▸ hne⟩⟩
          rw [hname]
          exact ownerOfGeneratedClaim_eq_some howner
  · rintro ⟨hstored, hns, hclaim | ⟨rfl, hne⟩⟩
    · exact Or.inl ⟨hstored, hns, hclaim⟩
    · refine Or.inr ?_
      rw [ownerOfGeneratedClaim_pvcName (hnamed.name _ o hstored)]
      have hkey : (⟨sb.metadata.namespaceName, o.metadata.name⟩ : ObjectKey) = o.key := by
        rw [← hns]
        rfl
      simp only [ne_eq, hne, not_false_eq_true, ↓reduceIte, hkey, hstored, Option.toList_some,
        List.mem_singleton]

/-- The guard yields to a sandbox exactly when it is a rival or a bystander. -/
theorem yields_iff (hnamed : WellNamed c) (hsb : c.find? .sandbox sb.key = some sb) :
    (o ∈ claimCandidates c sb claim ∧ blocks sb o = true) ↔
      Rival c sb claim o ∨ Bystander c sb claim o := by
  rw [mem_claimCandidates_iff hnamed, blocks_iff]
  constructor
  · rintro ⟨⟨hstored, hns, huser⟩, huid, hlive, hcounted, hwins⟩
    have helder : Elder c sb o := by
      refine ⟨hstored, hns, fun hkey => huid ?_, hlive, hwins⟩
      rw [hkey, hsb] at hstored
      rw [Option.some.inj hstored]
    by_cases huses : homeClaim o = claim
    · by_cases hphase : o.status.phase = .suspended
      · exact Or.inr ⟨helder, hcounted, Or.inl ⟨huses, hphase⟩⟩
      · exact Or.inl ⟨helder, huses, hphase⟩
    · refine Or.inr ⟨helder, hcounted, Or.inr ?_⟩
      rcases huser with hclaim | ⟨hclaim, -⟩
      · exact absurd (by rw [homeClaim_eq, hclaim, Option.getD_some]) huses
      · exact ⟨hclaim, huses⟩
  · have helder : ∀ o, Elder c sb o → o.metadata.uid ≠ sb.metadata.uid ∧
        o.metadata.name ≠ sb.metadata.name := by
      intro o h
      refine ⟨fun huid => h.other (hnamed.uid _ _ o sb h.stored hsb huid), fun hname => h.other ?_⟩
      exact congrArg₂ ObjectKey.mk h.sameNamespace hname
    have huser : Elder c sb o → homeClaim o = claim → existingClaim o = some claim ∨
        claim = pvcName o.metadata.name ∧ o.metadata.name ≠ sb.metadata.name := by
      intro h huses
      rw [homeClaim_eq] at huses
      cases hclaim : existingClaim o with
      | none =>
        rw [hclaim, Option.getD_none] at huses
        exact Or.inr ⟨huses.symm, (helder o h).2⟩
      | some claim' =>
        rw [hclaim, Option.getD_some] at huses
        exact Or.inl (congrArg some huses)
    rintro (h | h)
    · have hold := h.toElder
      exact ⟨⟨hold.stored, hold.sameNamespace, huser hold h.uses⟩, (helder o hold).1, hold.live,
        fun hstopped => h.awake hstopped.2, hold.beats⟩
    · have hold := h.toElder
      refine ⟨⟨hold.stored, hold.sameNamespace, ?_⟩, (helder o hold).1, hold.live, h.counted,
        hold.beats⟩
      rcases h.idle with ⟨huses, -⟩ | ⟨hclaim, -⟩
      · exact huser hold huses
      · exact Or.inr ⟨hclaim, (helder o hold).2⟩

/-- The guard reports a name exactly when there is a rival or a bystander. -/
theorem ConflictReport.ne_empty_iff {name : String} (hnamed : WellNamed c)
    (hsb : c.find? .sandbox sb.key = some sb) (h : ConflictReport c sb claim name) :
    name ≠ "" ↔ (∃ o, Rival c sb claim o) ∨ ∃ o, Bystander c sb claim o := by
  cases h with
  | free hfree =>
    refine iff_of_false (by simp) ?_
    rintro (⟨o, ho⟩ | ⟨o, ho⟩)
    · obtain ⟨hmem, hblocks⟩ := (yields_iff hnamed hsb).mpr (Or.inl ho)
      exact nomatch (hfree o hmem).symm.trans hblocks
    · obtain ⟨hmem, hblocks⟩ := (yields_iff hnamed hsb).mpr (Or.inr ho)
      exact nomatch (hfree o hmem).symm.trans hblocks
  | taken o ho hblocks =>
    refine iff_of_true (hnamed.name _ o (stored_of_mem_claimCandidates ho)) ?_
    rcases (yields_iff hnamed hsb).mp ⟨ho, hblocks⟩ with h | h
    · exact Or.inl ⟨o, h⟩
    · exact Or.inr ⟨o, h⟩

end Exact

/-- `claimConflict` reports a conflict exactly when another sandbox uses the claim, is awake and
beats `sb`, if and only if there is such a sandbox, or none of those that it takes for one. -/
theorem claim_conflict_exact_iff (c c' : Cluster) (sb : Sandbox) (claim name : String)
    (st st' : SandboxStatus) (t : List (Call × Cluster)) (hnamed : WellNamed c)
    (hsb : c.find? .sandbox sb.key = some sb) (_hclaim : existingClaim sb = some claim)
    (hrun : (claimConflict sb claim st).Exec ListStep c t (.ok name, st') c') :
    ((name ≠ "" ↔ ∃ o, Rival c sb claim o) ↔
      (∃ o, Rival c sb claim o) ∨ ∀ o, ¬Bystander c sb claim o) := by
  have hreport : ConflictReport c sb claim name := (hrun.wp ends_claimConflict_any).2
  rw [hreport.ne_empty_iff hnamed hsb]
  by_cases hrival : ∃ o, Rival c sb claim o
  · exact iff_of_true (iff_of_true (Or.inl hrival) hrival) (Or.inl hrival)
  · constructor
    · intro h
      refine Or.inr fun o ho => hrival (h.mp (Or.inr ⟨o, ho⟩))
    · rintro (h | hnone)
      · exact absurd h hrival
      · refine iff_of_false ?_ hrival
        rintro (h | ⟨o, ho⟩)
        · exact hrival h
        · exact hnone o ho

namespace Team

/-- A sandbox on a claim of its own choice. -/
def onClaim (name uid claim : String) (phase : SandboxPhase) (created : Time) : Sandbox :=
  ⟨{ name := name, namespaceName := "team", uid := uid, creationTimestamp := created },
    { template := "base", owner := { name := "alice" },
      home := some { existingClaim := claim } }, { phase := phase }⟩

/-- `dev` runs on `data`; a younger sandbox is to have the home that `dev` once generated. -/
def movedOut : Cluster :=
  .ofObjects (fun
    | .sandbox =>
      [onClaim "dev" "u1" "data" .running 0, onClaim "copy" "u2" "kubepark-home-dev" .pending 60]
    | _ => []) 60

/-- `dev` runs on `data`, and a younger sandbox names the same claim. -/
def contended : Cluster :=
  .ofObjects (fun
    | .sandbox => [onClaim "copy" "u2" "data" .pending 60, onClaim "dev" "u1" "data" .running 0]
    | _ => []) 60

end Team

/-- Whether the sandboxes of a state have names and distinct UIDs. -/
theorem wellNamed_of_objs {c : Cluster} (h : (c.objs .sandbox).all (fun a => a.metadata.name ≠ "" ∧
    (c.objs .sandbox).all (fun b => a.metadata.uid = b.metadata.uid → a.key = b.key)) = true) :
    WellNamed c where
  name _ sb hsb := (of_decide_eq_true (List.all_eq_true.mp h sb (mem_of_find? hsb))).1
  uid key key' sb sb' hsb hsb' huid := by
    have hall := (of_decide_eq_true (List.all_eq_true.mp h sb (mem_of_find? hsb))).2
    rw [← key_of_find? hsb, ← key_of_find? hsb']
    exact of_decide_eq_true (List.all_eq_true.mp hall sb' (mem_of_find? hsb')) huid

/-- The younger sandbox yields to the older one on the same claim. -/
theorem claim_conflict_contended : ∃ name st' t c',
    (claimConflict (Team.onClaim "copy" "u2" "data" .pending 60) "data" {}).Exec ListStep
      Team.contended t (.ok name, st') c' ∧
    (name ≠ "" ↔
      ∃ o, Rival Team.contended (Team.onClaim "copy" "u2" "data" .pending 60) "data" o) := by
  obtain ⟨name, st', t, c', hrun⟩ := claimConflict_returns Team.contended
    (Team.onClaim "copy" "u2" "data" .pending 60) "data" {}
  have hrival : Rival Team.contended (Team.onClaim "copy" "u2" "data" .pending 60) "data"
      (Team.onClaim "dev" "u1" "data" .running 0) :=
    ⟨⟨rfl, rfl, by decide, rfl, by decide⟩, rfl, by decide⟩
  exact ⟨name, st', t, c', hrun, (claim_conflict_exact_iff _ _ _ _ _ _ _ _
    (wellNamed_of_objs (by decide +kernel)) rfl rfl hrun).mpr (Or.inl ⟨_, hrival⟩)⟩

/-- A sandbox that is to take over the home that `dev` left for another is refused it, on account
of `dev`. -/
theorem claim_conflict_with_bystander : ∃ name st' t c',
    (claimConflict (Team.onClaim "copy" "u2" "kubepark-home-dev" .pending 60)
      "kubepark-home-dev" {}).Exec ListStep Team.movedOut t (.ok name, st') c' ∧ name ≠ "" ∧
    ∀ o, ¬Rival Team.movedOut (Team.onClaim "copy" "u2" "kubepark-home-dev" .pending 60)
      "kubepark-home-dev" o := by
  obtain ⟨name, st', t, c', hrun⟩ := claimConflict_returns Team.movedOut
    (Team.onClaim "copy" "u2" "kubepark-home-dev" .pending 60) "kubepark-home-dev" {}
  have hnamed : WellNamed Team.movedOut := wellNamed_of_objs (by decide +kernel)
  have hreport := (hrun.wp ends_claimConflict_any).2
  have hbystander : Bystander Team.movedOut
      (Team.onClaim "copy" "u2" "kubepark-home-dev" .pending 60) "kubepark-home-dev"
      (Team.onClaim "dev" "u1" "data" .running 0) :=
    ⟨⟨rfl, rfl, by decide, rfl, by decide⟩, by decide, Or.inr ⟨by decide, by decide⟩⟩
  have husers : (Team.movedOut.objs .sandbox).all
      (fun o => o.metadata.name = "copy" ∨ homeClaim o ≠ "kubepark-home-dev") = true := by
    decide +kernel
  refine ⟨name, st', t, c', hrun, (hreport.ne_empty_iff hnamed rfl).mpr (Or.inr ⟨_, hbystander⟩), ?_⟩
  intro o ho
  rcases of_decide_eq_true (List.all_eq_true.mp husers o (mem_of_find? ho.stored)) with h | h
  · exact ho.other (congrArg₂ ObjectKey.mk ho.sameNamespace h)
  · exact h ho.uses

/-! ## The election -/

/-- The sandboxes of a namespace that name the claim. -/
def claimUsers (c : Cluster) (ns claim : String) : List Sandbox :=
  (c.objs .sandbox).filter fun o => inNamespace ns o && existingClaim o = some claim

theorem claimCandidates_eq_users {c : Cluster} {sb : Sandbox} {claim : String}
    (h : ownerOfGeneratedClaim claim = none) :
    claimCandidates c sb claim = claimUsers c sb.metadata.namespaceName claim := by
  simp [claimCandidates, claimUsers, h]

/-- Of the sandboxes that name a claim, none of them stopped or being deleted, exactly one does not
yield : the one that beats all the others. Each other one is told the name of one that beats it. -/
theorem claim_elects_one (c : Cluster) (ns claim : String) (hsome : claimUsers c ns claim ≠ [])
    (hclaim : ∀ x, claim ≠ "kubepark-home-" ++ x)
    (huids : ∀ x ∈ claimUsers c ns claim, ∀ y ∈ claimUsers c ns claim,
      x.metadata.uid = y.metadata.uid → x = y)
    (hnames : ∀ x ∈ claimUsers c ns claim, x.metadata.name ≠ "")
    (hactive : ∀ x ∈ claimUsers c ns claim, x.deleting = false ∧
      ¬(x.spec.desiredState = .stopped ∧ x.status.phase = .suspended)) :
    ∃ w ∈ claimUsers c ns claim, (∀ x ∈ claimUsers c ns claim, x ≠ w → wins w x = true) ∧
      ∀ sb ∈ claimUsers c ns claim, ∀ st,
        (∃ name st' t c', (claimConflict sb claim st).Exec ListStep c t (.ok name, st') c') ∧
        ∀ name st' t c', (claimConflict sb claim st).Exec ListStep c t (.ok name, st') c' →
          (name = "" ↔ sb = w) ∧
          (sb ≠ w → ∃ o ∈ claimUsers c ns claim, wins o sb = true ∧ name = o.metadata.name) := by
  obtain ⟨w, hw, hbest⟩ := exists_winner _ hsome huids
  refine ⟨w, hw, hbest, fun sb hsb st => ⟨claimConflict_returns c sb claim st, ?_⟩⟩
  intro name st' t c' hrun
  have hgenerated : ownerOfGeneratedClaim claim = none := by
    cases howner : ownerOfGeneratedClaim claim with
    | none => rfl
    | some owner => exact absurd (ownerOfGeneratedClaim_eq_some howner) (hclaim owner)
  have hns : sb.metadata.namespaceName = ns := by
    have h := List.of_mem_filter hsb
    rw [Bool.and_eq_true] at h
    simpa [inNamespace] using h.1
  have hreport : ConflictReport c sb claim name := (hrun.wp ends_claimConflict_any).2
  have hcandidates : claimCandidates c sb claim = claimUsers c ns claim :=
    hns ▸ claimCandidates_eq_users hgenerated
  -- Whoever beats `sb` makes it yield : nobody on the claim is stopped or being deleted.
  have hblocks : ∀ o ∈ claimUsers c ns claim, blocks sb o = true ↔
      o.metadata.uid ≠ sb.metadata.uid ∧ wins o sb = true := by
    intro o ho
    rw [blocks_iff]
    exact ⟨fun h => ⟨h.1, h.2.2.2⟩, fun h => ⟨h.1, (hactive o ho).1, (hactive o ho).2, h.2⟩⟩
  cases hreport with
  | free hfree =>
    have hsbw : sb = w := by
      by_contra hne
      have hyields := (hblocks w hw).mpr
        ⟨fun huid => hne (huids w hw sb hsb huid).symm, hbest sb hsb hne⟩
      cases (hfree w (hcandidates ▸ hw)).symm.trans hyields
    exact ⟨iff_of_true rfl hsbw, fun hne => absurd hsbw hne⟩
  | taken o ho hyields =>
    rw [hcandidates] at ho
    obtain ⟨huid, hwins⟩ := (hblocks o ho).mp hyields
    have hne : sb ≠ w := by
      rintro rfl
      exact not_wins_of_wins hwins (hbest o ho fun h => huid (h ▸ rfl))
    exact ⟨iff_of_false (hnames o ho) hne, fun _ => ⟨o, ho, hwins, rfl⟩⟩

/-- Of the two sandboxes on the claim one is elected, and the younger one is told to yield. -/
theorem claim_elects_older : ∃ w ∈ claimUsers Team.contended "team" "data",
    (∀ x ∈ claimUsers Team.contended "team" "data", x ≠ w → wins w x = true) ∧
    w ≠ Team.onClaim "copy" "u2" "data" .pending 60 := by
  have hdev : Team.onClaim "dev" "u1" "data" .running 0 ∈
      claimUsers Team.contended "team" "data" := List.mem_filter.mpr ⟨mem_objs_iff.mpr rfl, by decide⟩
  have hnamed : WellNamed Team.contended := wellNamed_of_objs (by decide +kernel)
  have hstored : ∀ x ∈ claimUsers Team.contended "team" "data",
      Team.contended.find? .sandbox x.key = some x :=
    fun x hx => mem_objs_iff.mp (List.mem_of_mem_filter hx)
  have hactive : (claimUsers Team.contended "team" "data").all (fun x => x.deleting = false ∧
      ¬(x.spec.desiredState = .stopped ∧ x.status.phase = .suspended)) = true := by decide +kernel
  have hclaim : ∀ x, "data" ≠ "kubepark-home-" ++ x := by
    intro x h
    have hlength := congrArg String.length h
    rw [String.length_append, show "data".length = 4 from rfl,
      show "kubepark-home-".length = 14 from rfl] at hlength
    omega
  have huids : ∀ x ∈ claimUsers Team.contended "team" "data",
      ∀ y ∈ claimUsers Team.contended "team" "data", x.metadata.uid = y.metadata.uid → x = y := by
    intro x hx y hy huid
    have hkey := hnamed.uid _ _ x y (hstored x hx) (hstored y hy) huid
    exact Option.some.inj ((hstored x hx).symm.trans (hkey ▸ hstored y hy))
  obtain ⟨w, hw, hbest, -⟩ := claim_elects_one Team.contended "team" "data" (List.ne_nil_of_mem hdev)
    hclaim huids (fun x hx => hnamed.name _ x (hstored x hx))
    fun x hx => of_decide_eq_true (List.all_eq_true.mp hactive x hx)
  refine ⟨w, hw, hbest, ?_⟩
  rintro rfl
  have hne : Team.onClaim "dev" "u1" "data" .running 0 ≠
      Team.onClaim "copy" "u2" "data" .pending 60 := by simp [Team.onClaim]
  exact absurd (hbest _ hdev hne) (by decide)

end Kubepark
