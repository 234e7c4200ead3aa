import Cockroach.Kvadmission.Basic
import Mathlib.Algebra.Order.Sub.Defs
import Mathlib.Algebra.BigOperators.Group.Multiset
import Mathlib.Data.Multiset.OrderedMonoid
import Mathlib.Tactic.Abel

/-!
# The admission queues as collaborators

The controller talks to three queues (the KV work queue, the store write queues and
the elastic CPU queue) and to the tenant weight provider.  None of them is in this
package, so their answers are free: a `Prog` is a program of the controller that
either returns or makes one `Call` and continues with whatever the call returns.
`Prog.Runs p evs a` says `p` can return `a` having made the answered calls `evs`.

A queue is described by what it has handed out and not yet taken back: a
`Multiset Grant`.  A successful `Admit` obtains a grant (`Call.obtains`), an
`AdmittedWorkDone` gives one back (`Call.releases`).  `Prog.Safe p held Q` is the
demonic weakest precondition of `p`: started by a caller that holds `held`, every
call of every run gives back only grants the caller holds, and every run ends in
`Q`.  It composes through `>>=` (`safe_bind`), so each function of the controller
gets one `Safe` lemma and its callers never unfold it.
-/

namespace Kvadmission

/-- The calls the controller makes: one constructor per method of a collaborator. -/
inductive Call
  /-- `StoreWorkQueue.Admit` -/
  | storeAdmit (q : StoreWorkQueue) (info : StoreWriteWorkInfo)
  /-- `StoreWorkQueue.AdmittedWorkDone` -/
  | storeAdmittedWorkDone (q : StoreWorkQueue) (h : StoreWorkHandle) (doneInfo : StoreWorkDoneInfo)
  /-- `StoreWorkQueue.BypassedWorkDone` -/
  | storeBypassedWorkDone (q : StoreWorkQueue) (workCount : BitVec 64)
      (doneInfo : StoreWorkDoneInfo)
  /-- `StoreWorkQueue.StatsToIgnore` -/
  | storeStatsToIgnore (q : StoreWorkQueue) (stats : IngestOperationStats)
  /-- `StoreWorkQueue.SetTenantWeights` -/
  | storeSetTenantWeights (q : StoreWorkQueue) (weights : WeightMap)
  /-- `ElasticCPUWorkQueue.Admit` -/
  | elasticAdmit (duration : Duration) (info : WorkInfo)
  /-- `ElasticCPUWorkQueue.AdmittedWorkDone` -/
  | elasticAdmittedWorkDone (h : Option ElasticCPUWorkHandle)
  /-- `ElasticCPUWorkQueue.SetTenantWeights` -/
  | elasticSetTenantWeights (weights : WeightMap)
  /-- `ElasticCPUWorkHandle.OverLimit` on a non-nil handle -/
  | overLimit (h : ElasticCPUWorkHandle)
  /-- `WorkQueue.Admit` -/
  | kvAdmit (info : WorkInfo)
  /-- `WorkQueue.AdmittedWorkDone` -/
  | kvAdmittedWorkDone (tenantID : TenantID)
  /-- `WorkQueue.SetTenantWeights` -/
  | kvSetTenantWeights (weights : WeightMap)
  /-- `TenantWeightProvider.GetTenantWeights` -/
  | getTenantWeights

/-- The Go results of each call. -/
def Call.Ret : Call → Type
  | .storeAdmit .. => StoreWorkHandle × Option GoError
  | .storeAdmittedWorkDone .. => Option GoError
  | .elasticAdmit .. => Option ElasticCPUWorkHandle × Option GoError
  | .overLimit _ => Bool × Duration
  | .kvAdmit _ => Bool × Option GoError
  | .getTenantWeights => TenantWeights
  | _ => Unit

/-- A program of the controller over its collaborators. -/
inductive Prog (α : Type) : Type
  | ret : α → Prog α
  | call (c : Call) (k : c.Ret → Prog α) : Prog α

namespace Prog

/-- Sequencing: run `p`, then `f` on its result. -/
def bind : Prog α → (α → Prog β) → Prog β
  | .ret a, f => f a
  | .call c k, f => .call c fun r => (k r).bind f

instance : Monad Prog where
  pure := .ret
  bind := Prog.bind

@[simp] theorem pure_eq (a : α) : (pure a : Prog α) = .ret a := rfl

@[simp] theorem ret_bind (a : α) (f : α → Prog β) : (Prog.ret a >>= f) = f a := rfl

@[simp] theorem bind_ret (p : Prog α) : (p >>= fun a => Prog.ret a) = p := by
  induction p with
  | ret a => rfl
  | call c k ih => exact congrArg (Prog.call c) (funext ih)

@[simp] theorem call_bind (c : Call) (k : c.Ret → Prog α) (f : α → Prog β) :
    (Prog.call c k >>= f) = .call c fun r => k r >>= f := rfl

theorem bind_assoc (p : Prog α) (f : α → Prog β) (g : β → Prog γ) :
    (p >>= f) >>= g = p >>= fun a => f a >>= g := by
  induction p with
  | ret a => rfl
  | call c k ih => exact congrArg (Prog.call c) (funext ih)

instance : LawfulMonad Prog :=
  LawfulMonad.mk' Prog (fun p => bind_ret p) (fun _ _ => rfl) bind_assoc

end Prog

/-! ## The collaborators' methods

Each method this package calls on a queue or on the weight provider is one `Call`,
answered by the collaborator. -/

/-- `StoreWorkQueue.Admit`. -/
def StoreWorkQueue.admitWork (q : StoreWorkQueue) (info : StoreWriteWorkInfo) :
    Prog (StoreWorkHandle × Option GoError) := .call (.storeAdmit q info) .ret

/-- `StoreWorkQueue.AdmittedWorkDone`. -/
def StoreWorkQueue.admittedWorkDone (q : StoreWorkQueue) (h : StoreWorkHandle)
    (doneInfo : StoreWorkDoneInfo) : Prog (Option GoError) :=
  .call (.storeAdmittedWorkDone q h doneInfo) .ret

/-- `StoreWorkQueue.BypassedWorkDone`. -/
def StoreWorkQueue.bypassedWorkDone (q : StoreWorkQueue) (workCount : BitVec 64)
    (doneInfo : StoreWorkDoneInfo) : Prog Unit :=
  .call (.storeBypassedWorkDone q workCount doneInfo) .ret

/-- `StoreWorkQueue.StatsToIgnore`. -/
def StoreWorkQueue.statsToIgnore (q : StoreWorkQueue) (stats : IngestOperationStats) :
    Prog Unit := .call (.storeStatsToIgnore q stats) .ret

/-- `StoreWorkQueue.SetTenantWeights`. -/
def StoreWorkQueue.setTenantWeights (q : StoreWorkQueue) (weights : WeightMap) :
    Prog Unit := .call (.storeSetTenantWeights q weights) .ret

/-- `ElasticCPUWorkQueue.Admit` on the controller's elastic CPU queue. -/
def ElasticCPUWorkQueue.admitWork (duration : Duration) (info : WorkInfo) :
    Prog (Option ElasticCPUWorkHandle × Option GoError) := .call (.elasticAdmit duration info) .ret

/-- `ElasticCPUWorkQueue.AdmittedWorkDone`, given a possibly nil handle. -/
def ElasticCPUWorkQueue.admittedWorkDone (h : Option ElasticCPUWorkHandle) : Prog Unit :=
  .call (.elasticAdmittedWorkDone h) .ret

/-- `ElasticCPUWorkQueue.SetTenantWeights`. -/
def ElasticCPUWorkQueue.setTenantWeights (weights : WeightMap) : Prog Unit :=
  .call (.elasticSetTenantWeights weights) .ret

/-- `ElasticCPUWorkHandle.OverLimit`, which is `false` on a nil handle. -/
def ElasticCPUWorkHandle.overLimit : Option ElasticCPUWorkHandle → Prog (Bool × Duration)
  | none => pure (false, 0)
  | some h => .call (.overLimit h) .ret

/-- `WorkQueue.Admit` on the controller's KV work queue. -/
def WorkQueue.admitWork (info : WorkInfo) : Prog (Bool × Option GoError) := .call (.kvAdmit info) .ret

/-- `WorkQueue.AdmittedWorkDone`. -/
def WorkQueue.admittedWorkDone (tenantID : TenantID) : Prog Unit :=
  .call (.kvAdmittedWorkDone tenantID) .ret

/-- `WorkQueue.SetTenantWeights`. -/
def WorkQueue.setTenantWeights (weights : WeightMap) : Prog Unit :=
  .call (.kvSetTenantWeights weights) .ret

/-- `TenantWeightProvider.GetTenantWeights` on the provider the loop was given. -/
def TenantWeightProvider.getTenantWeights : Prog TenantWeights := .call .getTenantWeights .ret

/-! ## Grants -/

/-- One unit of admission a queue has handed out and not yet taken back. -/
inductive Grant
  | store (q : StoreWorkQueue) (h : StoreWorkHandle)
  | elastic (h : ElasticCPUWorkHandle)
  | kv (tenantID : TenantID)
  deriving DecidableEq

/-- The grant a successful admission obtains: a store grant only when the handle
reports admission enabled, a KV grant only when `Admit` returns `true`, an elastic
grant only when `Admit` returns a non-nil handle.  A call that returns an error
obtains nothing. -/
def Call.obtains : (c : Call) → c.Ret → Multiset Grant
  | .storeAdmit q _, r => if r.2 = none ∧ r.1.admissionEnabled then {.store q r.1} else 0
  | .elasticAdmit _ _, r => if r.2 = none then (r.1.map Grant.elastic).toList else 0
  | .kvAdmit info, r => if r.2 = none ∧ r.1 then {.kv info.tenantID} else 0
  | .storeAdmittedWorkDone .., _ | .storeBypassedWorkDone .., _ | .storeStatsToIgnore .., _
  | .storeSetTenantWeights .., _ | .elasticAdmittedWorkDone _, _
  | .elasticSetTenantWeights _, _ | .overLimit _, _ | .kvAdmittedWorkDone _, _
  | .kvSetTenantWeights _, _ | .getTenantWeights, _ => 0

/-- The grant a call gives back; giving back a nil elastic handle does nothing. -/
def Call.releases : Call → Multiset Grant
  | .storeAdmittedWorkDone q h _ => {.store q h}
  | .elasticAdmittedWorkDone h => (h.map Grant.elastic).toList
  | .kvAdmittedWorkDone tenantID => {.kv tenantID}
  | .storeAdmit .. | .storeBypassedWorkDone .. | .storeStatsToIgnore .. | .storeSetTenantWeights ..
  | .elasticAdmit .. | .elasticSetTenantWeights _ | .overLimit _ | .kvAdmit _
  | .kvSetTenantWeights _ | .getTenantWeights => 0

/-- The `WorkInfo` an admission call hands to its queue. -/
def Call.workInfo? : Call → Option WorkInfo
  | .storeAdmit _ info => some info.workInfo
  | .elasticAdmit _ info | .kvAdmit info => some info
  | .storeAdmittedWorkDone .. | .storeBypassedWorkDone .. | .storeStatsToIgnore ..
  | .storeSetTenantWeights .. | .elasticAdmittedWorkDone _ | .elasticSetTenantWeights _
  | .overLimit _ | .kvAdmittedWorkDone _ | .kvSetTenantWeights _ | .getTenantWeights => none

/-- One call together with what it returned. -/
structure Event where
  call : Call
  ret : call.Ret

/-- Every grant obtained in `evs`. -/
def obtained (evs : List Event) : Multiset Grant := (evs.map fun e => e.call.obtains e.ret).sum

/-- Every grant given back in `evs`. -/
def released (evs : List Event) : Multiset Grant := (evs.map fun e => e.call.releases).sum

/-- What a caller holding `held` holds after the calls `evs`. -/
def heldAfter (held : Multiset Grant) : List Event → Multiset Grant
  | [] => held
  | e :: evs => heldAfter (held - e.call.releases + e.call.obtains e.ret) evs

@[simp] theorem obtained_nil : obtained [] = 0 := rfl

@[simp] theorem obtained_cons (e : Event) (evs : List Event) :
    obtained (e :: evs) = e.call.obtains e.ret + obtained evs := by simp [obtained]

@[simp] theorem obtained_append (evs evs' : List Event) :
    obtained (evs ++ evs') = obtained evs + obtained evs' := by simp [obtained]

@[simp] theorem released_nil : released [] = 0 := rfl

@[simp] theorem released_cons (e : Event) (evs : List Event) :
    released (e :: evs) = e.call.releases + released evs := by simp [released]

@[simp] theorem released_append (evs evs' : List Event) :
    released (evs ++ evs') = released evs + released evs' := by simp [released]

@[simp] theorem heldAfter_nil (held : Multiset Grant) : heldAfter held [] = held := rfl

@[simp] theorem heldAfter_cons (held : Multiset Grant) (e : Event) (evs : List Event) :
    heldAfter held (e :: evs) = heldAfter (held - e.call.releases + e.call.obtains e.ret) evs :=
  rfl

theorem heldAfter_append (held : Multiset Grant) (evs evs' : List Event) :
    heldAfter held (evs ++ evs') = heldAfter (heldAfter held evs) evs' := by
  induction evs generalizing held with
  | nil => rfl
  | cons e evs ih => exact ih _

/-! ## Runs and the demonic weakest precondition -/

namespace Prog

/-- `p.Runs evs a`: answered as recorded in `evs`, `p` makes exactly those calls and
returns `a`. -/
inductive Runs : Prog α → List Event → α → Prop
  | ret (a : α) : Runs (.ret a) [] a
  | call {c : Call} {k : c.Ret → Prog α} {evs : List Event} {a : α} (r : c.Ret) :
      Runs (k r) evs a → Runs (.call c k) (⟨c, r⟩ :: evs) a

/-- A run of `ret a` makes no call and returns `a`. -/
theorem Runs.ret_inv {a b : α} {evs : List Event} (h : (Prog.ret a).Runs evs b) : evs = [] ∧ b = a := by
  cases h
  exact ⟨rfl, rfl⟩

/-- Inversion of a run of a call: its first event is that call, with some answer `r`,
and the rest is a run of the continuation at `r`. -/
theorem Runs.call_inv {c : Call} {k : c.Ret → Prog α} {evs : List Event} {a : α}
    (h : (Prog.call c k).Runs evs a) : ∃ r evs', evs = ⟨c, r⟩ :: evs' ∧ (k r).Runs evs' a := by
  cases h with
  | call r h => exact ⟨r, _, rfl, h⟩

/-- Inversion of a run of `p >>= f`: a run of `p`, then a run of `f` at its result. -/
theorem Runs.bind_inv {p : Prog α} {f : α → Prog β} {evs : List Event} {b : β}
    (h : (p >>= f).Runs evs b) : ∃ evs₁ a evs₂, evs = evs₁ ++ evs₂ ∧ p.Runs evs₁ a ∧ (f a).Runs evs₂ b := by
  induction p generalizing evs with
  | ret a => exact ⟨[], a, evs, rfl, .ret a, h⟩
  | call c k ih =>
    obtain ⟨r, evs', rfl, hk⟩ := Runs.call_inv h
    obtain ⟨evs₁, a, evs₂, rfl, h₁, h₂⟩ := ih r hk
    exact ⟨⟨c, r⟩ :: evs₁, a, evs₂, rfl, .call r h₁, h₂⟩

/-- `p.Safe held Q`: whatever the collaborators answer, every call `p` makes gives
back only grants its caller holds (the caller starting with `held`), and every run
returning `a` after the calls `evs` satisfies `Q a evs`. -/
def Safe : Prog α → Multiset Grant → (α → List Event → Prop) → Prop
  | .ret a, _, Q => Q a []
  | .call c k, held, Q =>
      c.releases ≤ held ∧
        ∀ r, (k r).Safe (held - c.releases + c.obtains r) fun a evs => Q a (⟨c, r⟩ :: evs)

@[simp] theorem safe_ret {a : α} {held : Multiset Grant} {Q : α → List Event → Prop} :
    (Prog.ret a).Safe held Q ↔ Q a [] := Iff.rfl

@[simp] theorem safe_call {c : Call} {k : c.Ret → Prog α} {held : Multiset Grant}
    {Q : α → List Event → Prop} :
    (Prog.call c k).Safe held Q ↔ c.releases ≤ held ∧
      ∀ r, (k r).Safe (held - c.releases + c.obtains r) fun a evs => Q a (⟨c, r⟩ :: evs) :=
  Iff.rfl

/-- **`Safe` through `>>=`.**  The second program starts from what the caller holds
after the first, and sees its own calls after the first's. -/
theorem safe_bind (p : Prog α) (f : α → Prog β) :
    ∀ held Q, (p >>= f).Safe held Q ↔
      p.Safe held fun a evs => (f a).Safe (heldAfter held evs) fun b evs' => Q b (evs ++ evs') := by
  induction p with
  | ret a => intro held Q; simp
  | call c k ih => intro held Q; simp [ih]

theorem Safe.mono {p : Prog α} {held : Multiset Grant} {Q Q' : α → List Event → Prop}
    (h : p.Safe held Q) (hQ : ∀ a evs, Q a evs → Q' a evs) : p.Safe held Q' := by
  induction p generalizing held Q Q' with
  | ret a => exact hQ a [] h
  | call c k ih => exact ⟨h.1, fun r => ih r (h.2 r) fun a evs => hQ a _⟩

/-- `p.AllCalls P`: every call `p` may make, whatever the answers, satisfies `P`. -/
def AllCalls (P : Call → Prop) : Prog α → Prop
  | .ret _ => True
  | .call c k => P c ∧ ∀ r, (k r).AllCalls P

@[simp] theorem allCalls_ret {P : Call → Prop} {a : α} : (Prog.ret a).AllCalls P := trivial

@[simp] theorem allCalls_call {P : Call → Prop} {c : Call} {k : c.Ret → Prog α} :
    (Prog.call c k).AllCalls P ↔ P c ∧ ∀ r, (k r).AllCalls P := Iff.rfl

theorem AllCalls.bind {P : Call → Prop} {p : Prog α} {f : α → Prog β} (hp : p.AllCalls P)
    (hf : ∀ a, (f a).AllCalls P) : (p >>= f).AllCalls P := by
  induction p with
  | ret a => exact hf a
  | call c k ih => exact ⟨hp.1, fun r => ih r (hp.2 r)⟩

/-- Every call of every run satisfies what `AllCalls` promises. -/
theorem AllCalls.runs {P : Call → Prop} {p : Prog α} (h : p.AllCalls P) {evs : List Event} {a : α}
    (hr : p.Runs evs a) : ∀ e ∈ evs, P e.call := by
  induction hr with
  | ret => simp
  | call r _ ih => exact fun e he => (List.mem_cons.1 he).elim (· ▸ h.1) (ih (h.2 r) e)

/-- Every run of a safe program ends in its postcondition. -/
theorem Safe.runs {p : Prog α} {held : Multiset Grant} {Q : α → List Event → Prop}
    (h : p.Safe held Q) {evs : List Event} {a : α} (hr : p.Runs evs a) : Q a evs := by
  induction hr generalizing held Q with
  | ret => exact h
  | call r _ ih => exact ih (h.2 r)

/-- Along every run of a safe program, what the caller holds plus what it gave back is
what it held plus what it obtained. -/
theorem Safe.held_add_released {p : Prog α} {held : Multiset Grant} {Q : α → List Event → Prop}
    (h : p.Safe held Q) :
    p.Safe held fun a evs => Q a evs ∧ heldAfter held evs + released evs = held + obtained evs := by
  induction p generalizing held Q with
  | ret a => exact ⟨h, by simp⟩
  | call c k ih =>
    refine ⟨h.1, fun r => (ih r (h.2 r)).mono fun a evs ⟨hq, he⟩ => ⟨hq, ?_⟩⟩
    have hc : held - c.releases + c.releases = held := tsub_add_cancel_of_le h.1
    simp only [heldAfter_cons, released_cons, obtained_cons]
    generalize held - c.releases = rest at he hc
    rw [← hc, add_left_comm, he]
    abel

end Prog

end Kvadmission
