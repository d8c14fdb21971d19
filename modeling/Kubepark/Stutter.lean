import Kubepark.ApiClient

/-!
# Routines that change nothing

A routine is still in a record and a state (`Routine.Still`) if none of its executions changes
either, whatever its calls are answered and wherever it is cut short or ends with an error. The
rules follow the routine : a sequence is still if its parts are, with what the first part can
return, and an update of the record is still if it writes what is there.

Against the API server the idioms of a client are still where they find what they are after : a
create whose object is there, a delete whose object is gone or being deleted. `DeletionsHeld` is
what the server keeps of the objects that are being deleted : something holds each of them.
-/

set_option linter.unusedSectionVars false

namespace Routine

variable {Op : Type} {Resp : Op → Type} {S σ ε α β : Type}

/-- Every execution leaves the record and the state as they are, at each call and at the end, and
what is returned without error is in `R`. -/
def Still (H : (op : Op) → S → Resp op → S → Prop) (R : α → Prop) (x : Routine Op Resp σ ε α)
    (st : σ) (s : S) : Prop :=
  (x st).wp H (fun _ s' => s' = s)
    (fun r s' => s' = s ∧ r.2 = st ∧ ∀ a, r.1 = .ok a → R a) s

section Rules

variable {H : (op : Op) → S → Resp op → S → Prop} {R : α → Prop} {st : σ} {s : S}

theorem still_pure {a : α} (h : R a) : (Pure.pure a : Routine Op Resp σ ε α).Still H R st s := by
  refine ⟨rfl, rfl, fun b hb => ?_⟩
  cases hb
  exact h

theorem still_fail (e : ε) : (fail e : Routine Op Resp σ ε α).Still H R st s := by
  refine ⟨rfl, rfl, fun b hb => ?_⟩
  cases hb

theorem still_modify {g : σ → σ} (h : g st = st) :
    (modify g : Routine Op Resp σ ε Unit).Still H (fun _ => True) st s :=
  ⟨rfl, h, fun _ _ => trivial⟩

theorem still_record : (record : Routine Op Resp σ ε σ).Still H (· = st) st s := by
  refine ⟨rfl, rfl, fun a ha => ?_⟩
  cases ha
  rfl

theorem still_ofExcept {r : Except ε α} (h : ∀ a, r = .ok a → R a) :
    (ofExcept r : Routine Op Resp σ ε α).Still H R st s := by
  cases r with
  | ok a => exact still_pure (h a rfl)
  | error e => exact still_fail e

theorem Still.mono {R' : α → Prop} {x : Routine Op Resp σ ε α} (h : x.Still H R st s)
    (hR : ∀ a, R a → R' a) : x.Still H R' st s :=
  Prog.wp_mono h (fun _ _ => id) fun _ _ ⟨hs, hst, hr⟩ => ⟨hs, hst, fun a ha => hR a (hr a ha)⟩

theorem Still.bind {R' : β → Prop} {x : Routine Op Resp σ ε α} {f : α → Routine Op Resp σ ε β}
    (hx : x.Still H R st s) (hf : ∀ a, R a → (f a).Still H R' st s) :
    (x >>= f).Still H R' st s := by
  refine Prog.wp_bind.mpr (Prog.wp_mono hx (fun _ _ => id) ?_)
  rintro ⟨r, st'⟩ s' ⟨hs, hst, hr⟩
  obtain rfl : s' = s := hs
  obtain rfl : st' = st := hst
  cases r with
  | ok a => exact hf a (hr a rfl)
  | error e =>
    refine ⟨rfl, rfl, fun b hb => ?_⟩
    cases hb

theorem still_ite {p : Prop} [Decidable p] {x y : Routine Op Resp σ ε α}
    (hx : p → x.Still H R st s) (hy : ¬p → y.Still H R st s) :
    (if p then x else y).Still H R st s := by
  split_ifs with h
  · exact hx h
  · exact hy h

theorem still_forEach {body : β → Routine Op Resp σ ε Unit} :
    ∀ {l : List β}, (∀ b ∈ l, (body b).Still H (fun _ => True) st s) →
      (forEach l body).Still H (fun _ => True) st s
  | [], _ => still_pure trivial
  | b :: l, h => by
    obtain ⟨hb, hl⟩ := List.forall_mem_cons.mp h
    exact hb.bind fun _ _ => still_forEach hl

theorem still_call {op : Op} {R : Resp op → Prop} (h : ∀ r s', H op s r s' → s' = s ∧ R r) :
    (lift (Prog.ask op) : Routine Op Resp σ ε (Resp op)).Still H R st s := by
  refine ⟨rfl, fun r s' hr => ?_⟩
  obtain ⟨hs, hR⟩ := h r s' hr
  refine ⟨hs, rfl, fun a ha => ?_⟩
  cases ha
  exact hR

/-- A routine that is still on a record of its own. -/
theorem Still.runFrom {τ : Type} {x : Routine Op Resp τ ε α} {st' : τ} (h : x.Still H R st' s) :
    (x.runFrom st' : Routine Op Resp σ ε (Except ε α × τ)).Still H
      (fun r => r.2 = st' ∧ ∀ a, r.1 = .ok a → R a) st s := by
  refine Prog.wp_bind.mpr (Prog.wp_mono h (fun _ _ => id) ?_)
  rintro r s' ⟨hs, hst, hr⟩
  refine ⟨hs, rfl, fun a ha => ?_⟩
  cases ha
  exact ⟨hst, hr⟩

/-- Wherever an execution of a still routine is cut short, the state is as it was. -/
theorem Still.visits {x : Routine Op Resp σ ε α} {t : List (Op × S)} {s' : S}
    (h : x.Still H R st s) (hv : (x st).Visits H s t s') : s' = s :=
  hv.holds h (fun _ _ => id) fun _ _ hr => hr.1

end Rules

end Routine

namespace ApiServer

open Client Routine

variable {Kind : Type} [DecidableEq Kind] {Spec Status : Kind → Type} [KindInfo Kind]
  [∀ k, DecidableEq (Spec k)] [∀ k, Inhabited (Status k)] {σ : Type}

section Idioms

variable {c : ApiServer Spec Status} {k : Kind} {key : ObjectKey} {o : Object Spec Status k}
  {st : σ}

/-- A call that changes nothing, followed by a routine that gives up on faults. -/
theorem still_call_bind {op : Op Spec Status} {α β : Type} {R : β → Prop}
    (toResp : Except ApiError α → Resp Spec Status op)
    (hfails : ∀ e r, Fails op e r ↔ r = toResp (.error e))
    {f : Resp Spec Status op → Client Spec Status σ β} (hstate : (handle op c).2 = c)
    (hfault : ∀ e : ApiError, e.IsFault → f (toResp (.error e)) = Routine.fail e)
    (hf : (f (handle op c).1).Still Step R st c) :
    ((lift (Prog.ask op) : Client Spec Status σ _) >>= f).Still Step R st c := by
  refine Still.bind (R := fun r => (f r).Still Step R st c) (still_call fun r c' hr => ?_)
    fun r hr => hr
  rcases hr with ⟨rfl, rfl⟩ | ⟨e, he, hr, hc'⟩
  · exact ⟨hstate, hf⟩
  · rw [(hfails e r).mp hr, hfault e he]
    exact ⟨hc'.elim id fun h => h.trans hstate, still_fail e⟩

theorem still_get :
    (Client.get k key : Client Spec Status σ _).Still Step (c.find? k key = some ·) st c := by
  refine still_call_bind id (fun _ _ => Iff.rfl) ?_ (fun e _ => rfl) ?_
  · simp only [handle]
    split <;> rfl
  · refine still_ofExcept fun o ho => ?_
    simp only [handle] at ho
    cases hfind : c.find? k key with
    | none =>
      rw [hfind] at ho
      cases ho
    | some o' =>
      rw [hfind] at ho
      cases ho
      rfl

theorem still_getOptional :
    (getOptional k key : Client Spec Status σ _).Still Step (· = c.find? k key) st c := by
  refine still_call_bind id (fun _ _ => Iff.rfl) ?_ (fun e he => ?_) ?_
  · simp only [handle]
    split <;> rfl
  · simp [ignoring, he.1]
  · simp only [handle]
    cases hfind : c.find? k key with
    | none => exact still_pure rfl
    | some o => exact still_pure rfl

theorem still_tryList {selector : Object Spec Status k → Bool} :
    (tryList k selector : Client Spec Status σ _).Still Step
      (fun r => ∀ l, r = .ok l → l = (c.objs k).filter selector) st c := by
  refine still_call fun r c' hr => ?_
  rcases hr with ⟨rfl, rfl⟩ | ⟨e, -, hf, hc'⟩
  · refine ⟨rfl, fun l hl => ?_⟩
    cases hl
    rfl
  · obtain rfl : r = .error e := hf
    refine ⟨hc'.elim id id, fun l hl => ?_⟩
    cases hl

theorem still_list {selector : Object Spec Status k → Bool} :
    (list k selector : Client Spec Status σ _).Still Step (· = (c.objs k).filter selector) st c :=
  still_call_bind id (fun _ _ => Iff.rfl) rfl (fun _ _ => rfl) (still_pure rfl)

theorem still_now : (now : Client Spec Status σ _).Still Step (· = c.clock) st c := by
  refine still_call fun r c' hr => ?_
  rcases hr with ⟨rfl, rfl⟩ | ⟨e, -, hf, -⟩
  · exact ⟨rfl, rfl⟩
  · exact hf.elim

/-- A create whose object is there. -/
theorem still_createIfAbsent (h : (c.find? k o.key).isSome = true) :
    (createIfAbsent k o : Client Spec Status σ _).Still Step (fun _ => True) st c := by
  obtain ⟨old, hold⟩ := Option.isSome_iff_exists.mp h
  refine still_call_bind id (fun _ _ => Iff.rfl) ?_ (fun e he => ?_) ?_
  · simp only [handle, hold]
    split_ifs <;> rfl
  · simp [ignoring, he.2]
  · simp only [handle, hold]
    cases c.admits k o with
    | false => exact still_fail _
    | true => exact still_pure trivial

/-- A delete whose object is gone, or is being deleted. -/
theorem still_deleteIfPresent {site : String}
    (h : ∀ o, c.find? k key = some o → o.deleting = true) :
    (deleteIfPresent k key site : Client Spec Status σ _).Still Step (fun _ => True) st c := by
  refine still_call_bind id (fun _ _ => Iff.rfl) ?_ (fun e he => ?_) ?_
  · simp only [handle]
    cases hold : c.find? k key with
    | none => rfl
    | some o => simp only [deleted, h o hold, ↓reduceIte]
  · simp [ignoring, he.1]
  · simp only [handle]
    cases c.find? k key with
    | none => exact still_pure trivial
    | some o => exact still_pure trivial

end Idioms

/-! ## What is being deleted is held -/

/-- Of an object that is being deleted there is a grace period to wait for, or a finalizer. -/
def DeletionsHeld (c : ApiServer Spec Status) : Prop :=
  ∀ k key o, c.find? k key = some o → o.deleting = true →
    KindInfo.graceful k = true ∨ o.metadata.finalizers ≠ []

theorem DeletionsHeld.handle {c : ApiServer Spec Status} (hc : c.DeletionsHeld)
    (op : Op Spec Status) : (handle op c).2.DeletionsHeld := by
  intro k key o' ho' hdeleting
  cases written_handle ho' with
  | kept hold => exact hc k key o' hold hdeleting
  | created o hop hkey hnone h =>
    subst h
    cases hdeleting
  | updated old o hop hkey hold h =>
    subst hop hkey h
    have hkey : old.key = o.key := key_of_find? hold
    refine or_iff_not_imp_left.mpr fun hgraceful hfinalizers => ?_
    simp only [ApiServer.handle, hold] at ho'
    split_ifs at ho'
    · -- An update that leaves nothing to hold the object removes it.
      have hgone : ((updated old o).deleting && (updated old o).metadata.finalizers.isEmpty &&
          !KindInfo.graceful k) = true := by
        simp only [Bool.and_eq_true, List.isEmpty_iff, Bool.not_eq_true']
        exact ⟨⟨hdeleting, hfinalizers⟩, Bool.eq_false_iff.mpr hgraceful⟩
      rw [settle, if_pos hgone, show (updated old o).key = o.key from hkey,
        find?_remove_self] at ho'
      cases ho'
    · rcases hc k o.key _ ho' hdeleting with h | h
      · exact hgraceful h
      · exact h hfinalizers
  | statusUpdated old o hop hkey hold h =>
    subst h
    exact hc k key old hold hdeleting
  | patched old change hop hold h =>
    subst h
    exact hc k key old hold hdeleting
  | statusPatched old change hop hold h =>
    subst h
    exact hc k key old hold hdeleting
  | terminated old site hop hold hlive hstays h =>
    subst h
    exact hstays

theorem DeletionsHeld.ensured {c : ApiServer Spec Status} (hc : c.DeletionsHeld) {k : Kind}
    (o : Object Spec Status k) : (c.ensured k o).DeletionsHeld := by
  unfold ApiServer.ensured
  split
  · exact hc
  · intro k' key o' ho' hdeleting
    by_cases hkey : (⟨k', key⟩ : Kind × ObjectKey) = (k, (c.created o).key)
    · obtain ⟨rfl, rfl⟩ := Prod.mk.inj hkey
      rw [find?_write_self] at ho'
      cases ho'
      cases hdeleting
    · rw [find?_write_ne c k (c.created o) hkey] at ho'
      exact hc k' key o' ho' hdeleting

theorem Step.deletionsHeld {op : Op Spec Status} {c c' : ApiServer Spec Status}
    {r : Resp Spec Status op} (hs : Step op c r c') (hc : c.DeletionsHeld) : c'.DeletionsHeld := by
  rcases hs.state with rfl | rfl
  · exact hc
  · exact hc.handle op

end ApiServer
