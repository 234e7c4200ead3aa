import Cockroach.Kvadmission.Queues

/-!
# `AdmitKVWork` and `AdmittedKVWorkDone`

`admitKVWork` classifies a request (lines 179-206: `bypassAdmission`,
`admissionInfo`) and routes it through at most two queues: the store write queue for
writes that are not single heartbeats, then the elastic CPU queue for a single
export request or the KV work queue for anything else.  Go's deferred rollbacks over
the named result `retErr` are `deferOnError`.

The handle's grants (`Handle.grants`) say what a request holds.  The two spec lemmas:

    (admitKVWork n tenantID ba now).Safe 0 AdmitPost                  (admitKVWork_safe)
    (admittedKVWorkDone ah wb).Safe ah.grants fun _ evs =>
      obtained evs = 0 ∧ released evs = ah.grants                     (admittedKVWorkDone_safe)

`AdmitPost` is the all-or-nothing contract: on error the handle is empty and every
grant the call obtained was given back, the store grant with a zero
`StoreWorkDoneInfo`; on success nothing was given back and the handle holds exactly
what the call obtained.

Where a request goes has two sides.  `admitKVWork_routed` bounds the calls that are
made (`Routed`: which request shapes may reach which queue); `admitKVWork_reaches_cpu_queue`
says which call is made: on a controller with queues every run asks the CPU queue
(`cpuAdmission`) unless the store queue turned the request away.  The store queue does
not look at `BypassAdmission`: a bypassing write still goes to it first and, when it
reports admission enabled, a successful call returns a handle that holds it
(`admitKVWork_store_admission_despite_bypass`).
-/

namespace Kvadmission

open Prog

/-! ## Algorithm -/

/-- Lines 179-194 of `AdmitKVWork`: the four rules deciding whether the request
bypasses admission, each later one overriding the earlier. -/
def bypassAdmission (sv : Settings) (tenantID : TenantID) (ba : BatchRequest) : Bool :=
  let (bypassAdmission, source) :=
    if !isSystemTenantID tenantID.toUint64 then (false, Source.fromSQL)
    else (ba.isAdmin, ba.admissionHeader.source)
  let bypassAdmission := if source = .other then true else bypassAdmission
  if sv.kvBulkOnlyAdmissionControlEnabled ∧ normalPri ≤ workPriority ba.admissionHeader.priority
  then true else bypassAdmission

/-- Lines 195-206 of `AdmitKVWork`: the `admission.WorkInfo` every queue is given;
`now` is what `timeutil.Now().UnixNano()` reads when it is called. -/
def admissionInfo (sv : Settings) (tenantID : TenantID) (ba : BatchRequest) (now : BitVec 64) :
    WorkInfo where
  tenantID := tenantID
  priority := workPriority ba.admissionHeader.priority
  createTime :=
    if !bypassAdmission sv tenantID ba ∧ ba.admissionHeader.createTime = 0 then now
    else ba.admissionHeader.createTime
  bypassAdmission := bypassAdmission sv tenantID ba

/-- Go's `defer func() { if retErr != nil { cleanup } }()`: `cleanup` runs after the
rest of the function when it returns an error. -/
def deferOnError (cleanup : Prog Unit) (body : Prog (Handle × Option GoError)) :
    Prog (Handle × Option GoError) := do
  let res ← body
  if res.2.isSome then cleanup
  pure res

/-- Lines 235-269 of `AdmitKVWork`, taken while admission is enabled: a single export
request is admitted through the elastic CPU queue, anything else through the KV work
queue. -/
def admitCPU (sv : Settings) (admissionInfo : WorkInfo) (ba : BatchRequest) (ah : Handle) :
    Prog (Handle × Option GoError) :=
  if ba.isSingleExportRequest then do
    let (elasticWorkHandle, err) ←
      ElasticCPUWorkQueue.admitWork sv.elasticCPUDurationPerExportRequest admissionInfo
    match err with
    | some err => pure ({}, some err)
    | none =>
      let ah := { ah with elasticCPUWorkHandle := elasticWorkHandle }
      -- No elastic work was done.
      deferOnError (ElasticCPUWorkQueue.admittedWorkDone ah.elasticCPUWorkHandle) (pure (ah, none))
  else do
    let (callAdmittedWorkDoneOnKVAdmissionQ, err) ← WorkQueue.admitWork admissionInfo
    match err with
    | some err => pure ({}, some err)
    | none => pure ({ ah with callAdmittedWorkDoneOnKVAdmissionQ }, none)

/-- `controllerImpl.AdmitKVWork`.  The store rollback reads `ah.storeWorkHandle`
when it runs; that field is set right after the `defer` and never again, so the
rollback is given its value. -/
def admitKVWork (n : Controller) (tenantID : TenantID) (ba : BatchRequest) (now : BitVec 64) :
    Prog (Handle × Option GoError) :=
  let ah : Handle := { tenantID }
  match n.queues with
  | none => pure (ah, none)
  | some storeGrantCoords =>
    let admissionInfo := admissionInfo n.settings tenantID ba now
    if ba.isWrite ∧ !ba.isSingleHeartbeatTxnRequest then
      match storeGrantCoords.tryGetQueueForStore ba.storeID with
      | none => admitCPU n.settings admissionInfo ba ah
      | some storeAdmissionQ => do
        let (storeWorkHandle, err) ← storeAdmissionQ.admitWork { workInfo := admissionInfo }
        match err with
        | some err => pure ({}, some err)
        | none =>
          if storeWorkHandle.admissionEnabled then
            -- No bytes were written.
            deferOnError (do let _ ← storeAdmissionQ.admittedWorkDone storeWorkHandle {}; pure ())
              (admitCPU n.settings admissionInfo ba
                { ah with storeAdmissionQ := some storeAdmissionQ, storeWorkHandle })
          else pure (ah, none)
    else admitCPU n.settings admissionInfo ba ah

/-- `controllerImpl.AdmittedKVWorkDone`.  An error from the store queue is only
logged, so it is dropped. -/
def admittedKVWorkDone (ah : Handle) (writeBytes : Option StoreWriteBytes) : Prog Unit := do
  ElasticCPUWorkQueue.admittedWorkDone ah.elasticCPUWorkHandle
  if ah.callAdmittedWorkDoneOnKVAdmissionQ then WorkQueue.admittedWorkDone ah.tenantID
  match ah.storeAdmissionQ with
  | none => pure ()
  | some storeAdmissionQ =>
    let doneInfo : StoreWorkDoneInfo := writeBytes.getD {}
    let _ ← storeAdmissionQ.admittedWorkDone ah.storeWorkHandle doneInfo
    pure ()

/-! ## What a handle holds -/

/-- The grants a handle stands for. -/
def Handle.grants (ah : Handle) : Multiset Grant :=
  (ah.elasticCPUWorkHandle.map Grant.elastic).toList +
    (if ah.callAdmittedWorkDoneOnKVAdmissionQ then {.kv ah.tenantID} else 0) +
    (ah.storeAdmissionQ.map fun q => Grant.store q ah.storeWorkHandle).toList

@[simp] theorem Handle.grants_empty : ({} : Handle).grants = 0 := rfl

/-- Every store completion among `evs` reports zero bytes. -/
def ZeroDoneInfo (evs : List Event) : Prop :=
  ∀ e ∈ evs, ∀ q h doneInfo, e.call = .storeAdmittedWorkDone q h doneInfo → doneInfo = {}

/-- The contract of one `AdmitKVWork` call that made the calls `evs`. -/
def AdmitPost : Handle × Option GoError → List Event → Prop
  | (ah, some _), evs => ah = {} ∧ released evs = obtained evs ∧ ZeroDoneInfo evs
  | (ah, none), evs => released evs = 0 ∧ obtained evs = ah.grants

/-! ## Lemmas -/

/-- Calls that give nothing back make no store completion. -/
theorem zeroDoneInfo_of_released {evs : List Event} (h : released evs = 0) : ZeroDoneInfo evs := by
  induction evs with
  | nil => simp [ZeroDoneInfo]
  | cons e evs ih =>
    rw [released_cons, add_eq_zero] at h
    intro e' he' q sh doneInfo hc
    rcases List.mem_cons.1 he' with rfl | he'
    · simp [hc, Call.releases] at h
    · exact ih h.2 e' he' q sh doneInfo hc

@[simp] theorem zeroDoneInfo_nil : ZeroDoneInfo [] := by simp [ZeroDoneInfo]

@[simp] theorem zeroDoneInfo_cons {e : Event} {evs : List Event} :
    ZeroDoneInfo (e :: evs) ↔
      (∀ q h doneInfo, e.call = .storeAdmittedWorkDone q h doneInfo → doneInfo = {}) ∧
        ZeroDoneInfo evs := by
  simp only [ZeroDoneInfo, List.mem_cons, or_imp, forall_and, forall_eq]

theorem zeroDoneInfo_append {evs evs' : List Event} :
    ZeroDoneInfo (evs ++ evs') ↔ ZeroDoneInfo evs ∧ ZeroDoneInfo evs' := by
  simp only [ZeroDoneInfo, List.mem_append, or_imp, forall_and]

theorem safe_deferOnError {cleanup : Prog Unit} {body : Prog (Handle × Option GoError)}
    {held : Multiset Grant} {Q : Handle × Option GoError → List Event → Prop} :
    (deferOnError cleanup body).Safe held Q ↔
      body.Safe held fun res evs =>
        if res.2.isSome then cleanup.Safe (heldAfter held evs) fun _ evs' => Q res (evs ++ evs')
        else Q res evs := by
  simp only [deferOnError, safe_bind]
  refine Iff.of_eq (congrArg _ (funext fun res => funext fun evs => ?_))
  split <;> simp [safe_bind]

theorem Handle.grants_elastic (ah : Handle) (x : Option ElasticCPUWorkHandle)
    (h : ah.elasticCPUWorkHandle = none) :
    ({ ah with elasticCPUWorkHandle := x } : Handle).grants = ah.grants + (x.map Grant.elastic).toList := by
  simp only [Handle.grants, h]; abel

theorem Handle.grants_kv (ah : Handle) (b : Bool) (h : ah.callAdmittedWorkDoneOnKVAdmissionQ = false) :
    ({ ah with callAdmittedWorkDoneOnKVAdmissionQ := b } : Handle).grants =
      ah.grants + if b then {.kv ah.tenantID} else 0 := by
  simp only [Handle.grants, h]; abel

/-- `admitCPU` gives nothing back; on error it obtained nothing and returns `{}`, on
success the handle gains exactly what it obtained. -/
theorem admitCPU_safe (sv : Settings) (admissionInfo : WorkInfo) (ba : BatchRequest) (ah : Handle)
    (held : Multiset Grant) (hkv : admissionInfo.tenantID = ah.tenantID)
    (he : ah.elasticCPUWorkHandle = none) (hq : ah.callAdmittedWorkDoneOnKVAdmissionQ = false) :
    (admitCPU sv admissionInfo ba ah).Safe held fun res evs =>
      released evs = 0 ∧ match res.2 with
        | some _ => res.1 = {} ∧ obtained evs = 0
        | none => res.1.grants = ah.grants + obtained evs := by
  unfold admitCPU
  split_ifs
  · simp only [ElasticCPUWorkQueue.admitWork, call_bind, ret_bind, safe_call]
    refine ⟨by simp [Call.releases], ?_⟩
    rintro ⟨h, _ | err⟩
    · simp only [safe_deferOnError, pure_eq, safe_ret, Option.isSome_none, Bool.false_eq_true,
        if_false, released_cons, obtained_cons, released_nil, obtained_nil]
      rw [Handle.grants_elastic _ _ he]
      simp [Call.releases, Call.obtains]
    · simp [Call.obtains, Call.releases]
  · simp only [WorkQueue.admitWork, call_bind, ret_bind, safe_call]
    refine ⟨by simp [Call.releases], ?_⟩
    rintro ⟨b, _ | err⟩
    · simp only [pure_eq, safe_ret, released_cons, obtained_cons, released_nil, obtained_nil]
      rw [Handle.grants_kv _ _ hq]
      simp [Call.releases, Call.obtains, hkv]
    · simp [Call.obtains, Call.releases]

theorem admitPost_of_admitCPU (ah : Handle) (h0 : ah.grants = 0) {res : Handle × Option GoError}
    {evs : List Event}
    (h : released evs = 0 ∧ match res.2 with
        | some _ => res.1 = {} ∧ obtained evs = 0
        | none => res.1.grants = ah.grants + obtained evs) : AdmitPost res evs := by
  obtain ⟨ah', _ | err⟩ := res
  · simpa [AdmitPost, h0, eq_comm] using h
  · simp only at h
    exact ⟨h.2.1, by rw [h.1, h.2.2], zeroDoneInfo_of_released h.1⟩

/-- **`AdmitKVWork` is all-or-nothing.**  From nothing held, every run gives back only
what it obtained and ends in `AdmitPost`. -/
theorem admitKVWork_safe (n : Controller) (tenantID : TenantID) (ba : BatchRequest)
    (now : BitVec 64) : (admitKVWork n tenantID ba now).Safe 0 AdmitPost := by
  have cpu := admitCPU_safe n.settings (admissionInfo n.settings tenantID ba now) ba
  unfold admitKVWork
  split
  · simp [AdmitPost, Handle.grants]
  · dsimp only
    split_ifs
    · split
      · exact (cpu { tenantID } 0 rfl rfl rfl).mono fun _ _ => admitPost_of_admitCPU { tenantID } rfl
      · rename_i q _
        simp only [StoreWorkQueue.admitWork, call_bind, ret_bind, safe_call]
        refine ⟨by simp [Call.releases], ?_⟩
        rintro ⟨swh, _ | err⟩
        · by_cases hen : swh.admissionEnabled
          · simp only [hen, if_true]
            rw [safe_deferOnError]
            simp only [Call.releases, Call.obtains, hen, and_true, if_true, tsub_zero, zero_add]
            refine ((cpu _ _ rfl rfl rfl).held_add_released).mono ?_
            rintro ⟨ah', _ | err⟩ evs ⟨⟨hrel, hpost⟩, hheld⟩
            · simp only at hpost
              refine ⟨by simp [hrel, Call.releases], ?_⟩
              rw [hpost]
              simp [Call.obtains, hen, Handle.grants]
            · simp only at hpost
              have hq : heldAfter {.store q swh} evs = {.store q swh} := by
                simpa [hrel, hpost.2] using hheld
              simp [hq, StoreWorkQueue.admittedWorkDone, safe_bind, AdmitPost, hpost, hrel,
                Call.releases, Call.obtains, hen, zeroDoneInfo_append, zeroDoneInfo_of_released hrel]
          · simp [hen, AdmitPost, Call.obtains, Call.releases, Handle.grants]
        · simp [AdmitPost, Call.obtains, Call.releases, ZeroDoneInfo]
    · exact (cpu { tenantID } 0 rfl rfl rfl).mono fun _ _ => admitPost_of_admitCPU { tenantID } rfl

/-- `AdmittedKVWorkDone` gives back exactly the handle's grants and obtains nothing. -/
theorem admittedKVWorkDone_safe (ah : Handle) (writeBytes : Option StoreWriteBytes) :
    (admittedKVWorkDone ah writeBytes).Safe ah.grants fun _ evs =>
      obtained evs = 0 ∧ released evs = ah.grants := by
  obtain ⟨tenantID, storeQ, swh, eh, kv⟩ := ah
  unfold admittedKVWorkDone
  cases eh <;> cases kv <;> cases storeQ <;>
    simp [ElasticCPUWorkQueue.admittedWorkDone, WorkQueue.admittedWorkDone,
      StoreWorkQueue.admittedWorkDone, safe_bind, Call.releases, Call.obtains, Handle.grants]

/-- For a tenant other than the system tenant only the bulk-only rule can set the bypass. -/
theorem bypassAdmission_of_ne_system {tenantID : TenantID} (h : tenantID ≠ systemTenantID)
    (sv : Settings) (ba : BatchRequest) :
    bypassAdmission sv tenantID ba =
      (sv.kvBulkOnlyAdmissionControlEnabled && decide (normalPri ≤ workPriority ba.admissionHeader.priority)) := by
  have : isSystemTenantID tenantID.toUint64 = false := by
    cases tenantID
    simpa [isSystemTenantID, systemTenantID] using h
  simp [bypassAdmission, this, Source.fromSQL, Source.other]

theorem deferOnError_allCalls {P : Call → Prop} {cleanup : Prog Unit} {body : Prog (Handle × Option GoError)}
    (hb : body.AllCalls P) (hc : cleanup.AllCalls P) : (deferOnError cleanup body).AllCalls P := by
  unfold deferOnError
  refine hb.bind fun res => ?_
  dsimp only
  split
  · exact hc.bind fun _ => trivial
  · trivial

/-- The admission `admitCPU` asks for first: the elastic CPU queue's, for the export
duration, for a single export request, and the KV work queue's otherwise. -/
def cpuAdmission (sv : Settings) (admissionInfo : WorkInfo) (ba : BatchRequest) : Call :=
  if ba.isSingleExportRequest then .elasticAdmit sv.elasticCPUDurationPerExportRequest admissionInfo
  else .kvAdmit admissionInfo

@[simp] theorem cpuAdmission_workInfo (sv : Settings) (admissionInfo : WorkInfo) (ba : BatchRequest) :
    (cpuAdmission sv admissionInfo ba).workInfo? = some admissionInfo := by
  unfold cpuAdmission
  split <;> rfl

theorem admitCPU_eq_call (sv : Settings) (admissionInfo : WorkInfo) (ba : BatchRequest) (ah : Handle) :
    ∃ k, admitCPU sv admissionInfo ba ah = .call (cpuAdmission sv admissionInfo ba) k := by
  unfold admitCPU cpuAdmission
  cases h : ba.isSingleExportRequest <;> simp only [h] <;> exact ⟨_, rfl⟩

/-- Every run of `admitCPU` makes its CPU admission. -/
theorem admitCPU_runs_cpuAdmission {sv : Settings} {admissionInfo : WorkInfo} {ba : BatchRequest}
    {ah : Handle} {evs : List Event} {res : Handle × Option GoError}
    (hr : (admitCPU sv admissionInfo ba ah).Runs evs res) :
    ∃ e ∈ evs, e.call = cpuAdmission sv admissionInfo ba := by
  obtain ⟨k, hk⟩ := admitCPU_eq_call sv admissionInfo ba ah
  rw [hk] at hr
  obtain ⟨r, evs', rfl, -⟩ := hr.call_inv
  exact ⟨_, List.mem_cons_self _ _, rfl⟩

/-- On a controller with queues, `AdmitKVWork` starts with an admission carrying
`admissionInfo`: the store queue's, or the CPU admission. -/
theorem admitKVWork_eq_call {n : Controller} {sgc : StoreGrantCoordinators}
    (hq : n.queues = some sgc) (tenantID : TenantID) (ba : BatchRequest) (now : BitVec 64) :
    ∃ c k, admitKVWork n tenantID ba now = .call c k ∧
      c.workInfo? = some (admissionInfo n.settings tenantID ba now) := by
  have cpu := admitCPU_eq_call n.settings (admissionInfo n.settings tenantID ba now) ba
  unfold admitKVWork
  simp only [hq]
  split_ifs
  · split
    · obtain ⟨k, hk⟩ := cpu { tenantID }
      exact ⟨_, k, hk, cpuAdmission_workInfo _ _ _⟩
    · exact ⟨_, _, rfl, rfl⟩
  · obtain ⟨k, hk⟩ := cpu { tenantID }
    exact ⟨_, k, hk, cpuAdmission_workInfo _ _ _⟩

/-- Every queue `AdmitKVWork` calls is handed `admissionInfo`. -/
theorem admitKVWork_workInfo (n : Controller) (tenantID : TenantID) (ba : BatchRequest)
    (now : BitVec 64) :
    (admitKVWork n tenantID ba now).AllCalls fun c =>
      ∀ wi, c.workInfo? = some wi → wi = admissionInfo n.settings tenantID ba now := by
  have cpu : ∀ ah, (admitCPU n.settings (admissionInfo n.settings tenantID ba now) ba ah).AllCalls
      fun c => ∀ wi, c.workInfo? = some wi → wi = admissionInfo n.settings tenantID ba now := by
    intro ah
    unfold admitCPU
    split_ifs
    · refine AllCalls.bind (by simp [ElasticCPUWorkQueue.admitWork, Call.workInfo?]) fun ⟨_, err⟩ => ?_
      cases err <;> simp [deferOnError_allCalls, ElasticCPUWorkQueue.admittedWorkDone, Call.workInfo?]
    · refine AllCalls.bind (by simp [WorkQueue.admitWork, Call.workInfo?]) fun ⟨_, err⟩ => ?_
      cases err <;> simp
  unfold admitKVWork
  split
  · trivial
  · dsimp only
    split_ifs
    · split
      · exact cpu _
      · refine AllCalls.bind (by simp [StoreWorkQueue.admitWork, Call.workInfo?]) fun ⟨swh, err⟩ => ?_
        cases err
        · dsimp only
          split_ifs
          · exact deferOnError_allCalls (cpu _)
              (AllCalls.bind (by simp [StoreWorkQueue.admittedWorkDone, Call.workInfo?]) fun _ => trivial)
          · trivial
        · trivial
    · exact cpu _

/-- **A SQL tenant cannot bypass admission.**  For a tenant other than the system
tenant, every queue call of every run of `AdmitKVWork` carries `admissionInfo`, which
bypasses admission exactly when the bulk-only setting is on and the priority is at
least `NormalPri`; on a controller with queues every run makes such a call; and
`AdmitKVWork` reads neither what `IsAdmin` reports nor the header's source: changing
them leaves the program, so its calls, their `WorkInfo`, the handle and the error,
unchanged. -/
theorem admitKVWork_tenant_cannot_bypass (n : Controller) (tenantID : TenantID)
    (htenant : tenantID ≠ systemTenantID) (ba : BatchRequest) (now : BitVec 64) :
    (∀ evs res, (admitKVWork n tenantID ba now).Runs evs res → ∀ e ∈ evs, ∀ wi,
      e.call.workInfo? = some wi →
        wi = admissionInfo n.settings tenantID ba now ∧
          (wi.bypassAdmission = true ↔ n.settings.kvBulkOnlyAdmissionControlEnabled = true ∧
            normalPri ≤ workPriority ba.admissionHeader.priority)) ∧
      (n.queues.isSome = true → ∀ evs res, (admitKVWork n tenantID ba now).Runs evs res →
        ∃ e ∈ evs, e.call.workInfo? = some (admissionInfo n.settings tenantID ba now)) ∧
      ∀ isAdmin source, admitKVWork n tenantID
          { ba with isAdmin, admissionHeader := { ba.admissionHeader with source } } now =
        admitKVWork n tenantID ba now := by
  refine ⟨fun evs res hr e he wi hwi => ?_, fun hq evs res hr => ?_, fun isAdmin source => ?_⟩
  · obtain rfl := (admitKVWork_workInfo n tenantID ba now).runs hr e he wi hwi
    simp [admissionInfo, bypassAdmission_of_ne_system htenant]
  · obtain ⟨sgc, hsgc⟩ := Option.isSome_iff_exists.1 hq
    obtain ⟨c, k, hk, hc⟩ := admitKVWork_eq_call hsgc tenantID ba now
    rw [hk] at hr
    obtain ⟨r, evs', rfl, -⟩ := hr.call_inv
    exact ⟨_, List.mem_cons_self _ _, hc⟩
  · simp only [admitKVWork, admissionInfo, bypassAdmission_of_ne_system htenant]
    rfl

theorem admitKVWork_tenant_cannot_bypass_for_tenant_two :
    (⟨2⟩ : TenantID) ≠ systemTenantID ∧
      (∀ evs res, (admitKVWork ⟨some ⟨fun _ => true⟩, ⟨true, 0, 0, true, true⟩⟩ ⟨2⟩
          ⟨⟨5, 0, Source.other⟩, 1, true, true, false, false⟩ 7).Runs evs res → ∀ e ∈ evs, ∀ wi,
        e.call.workInfo? = some wi →
          wi = admissionInfo ⟨true, 0, 0, true, true⟩ ⟨2⟩
              ⟨⟨5, 0, Source.other⟩, 1, true, true, false, false⟩ 7 ∧
            (wi.bypassAdmission = true ↔ true = true ∧ normalPri ≤ workPriority 5)) ∧
        ((some (⟨fun _ => true⟩ : StoreGrantCoordinators)).isSome = true → ∀ evs res,
          (admitKVWork ⟨some ⟨fun _ => true⟩, ⟨true, 0, 0, true, true⟩⟩ ⟨2⟩
            ⟨⟨5, 0, Source.other⟩, 1, true, true, false, false⟩ 7).Runs evs res → ∃ e ∈ evs,
              e.call.workInfo? = some (admissionInfo ⟨true, 0, 0, true, true⟩ ⟨2⟩
                ⟨⟨5, 0, Source.other⟩, 1, true, true, false, false⟩ 7)) ∧
        ∀ isAdmin source, admitKVWork ⟨some ⟨fun _ => true⟩, ⟨true, 0, 0, true, true⟩⟩ ⟨2⟩
            ⟨⟨5, 0, source⟩, 1, isAdmin, true, false, false⟩ 7 =
          admitKVWork ⟨some ⟨fun _ => true⟩, ⟨true, 0, 0, true, true⟩⟩ ⟨2⟩
            ⟨⟨5, 0, Source.other⟩, 1, true, true, false, false⟩ 7 :=
  ⟨by decide, admitKVWork_tenant_cannot_bypass _ ⟨2⟩ (by decide) _ 7⟩

/-! ## Where a request goes -/

/-- **Every request reaches its CPU queue unless the store queue turned it away.**  On a
controller with queues, every run of `AdmitKVWork` makes the CPU admission with
`admissionInfo` (the elastic CPU queue's for a single export request, the KV work
queue's otherwise), except a run whose only call is the `Admit` of the request's store
queue, for a write that is not a single heartbeat, answered with an error or with a
handle that reports admission disabled. -/
theorem admitKVWork_reaches_cpu_queue {n : Controller} {sgc : StoreGrantCoordinators}
    {tenantID : TenantID} {ba : BatchRequest} {now : BitVec 64} {evs : List Event}
    {res : Handle × Option GoError} (hq : n.queues = some sgc)
    (hr : (admitKVWork n tenantID ba now).Runs evs res) :
    (∃ e ∈ evs, e.call = cpuAdmission n.settings (admissionInfo n.settings tenantID ba now) ba) ∨
      ∃ q swh err, ba.isWrite = true ∧ ba.isSingleHeartbeatTxnRequest = false ∧
        sgc.tryGetQueueForStore ba.storeID = some q ∧
        (err.isSome = true ∨ swh.admissionEnabled = false) ∧
        evs = [⟨.storeAdmit q ⟨admissionInfo n.settings tenantID ba now⟩, (swh, err)⟩] := by
  unfold admitKVWork at hr
  simp only [hq] at hr
  split_ifs at hr with hw
  · split at hr
    · exact .inl (admitCPU_runs_cpuAdmission hr)
    · rename_i q hstore
      simp only [StoreWorkQueue.admitWork, call_bind, ret_bind] at hr
      obtain ⟨⟨swh, err⟩, evs', rfl, hk⟩ := hr.call_inv
      have hhb : ba.isSingleHeartbeatTxnRequest = false := by simpa using hw.2
      cases err with
      | some e =>
        obtain ⟨rfl, -⟩ := Runs.ret_inv hk
        exact .inr ⟨q, swh, some e, hw.1, hhb, hstore, .inl rfl, rfl⟩
      | none =>
        split_ifs at hk with hen
        · obtain ⟨evs₁, _, evs₂, rfl, hcpu, -⟩ := Runs.bind_inv hk
          obtain ⟨e, he, hc⟩ := admitCPU_runs_cpuAdmission hcpu
          exact .inl ⟨e, List.mem_cons_of_mem _ (List.mem_append_left _ he), hc⟩
        · obtain ⟨rfl, -⟩ := Runs.ret_inv hk
          exact .inr ⟨q, swh, none, hw.1, hhb, hstore, .inr (by simpa using hen), rfl⟩
  · exact .inl (admitCPU_runs_cpuAdmission hr)

/-- A run of `deferOnError cleanup body` starts with a run of `body` that returns the
same result. -/
theorem Runs.deferOnError_inv {cleanup : Prog Unit} {body : Prog (Handle × Option GoError)}
    {evs : List Event} {res : Handle × Option GoError} (h : (deferOnError cleanup body).Runs evs res) :
    ∃ evs₁ evs₂, evs = evs₁ ++ evs₂ ∧ body.Runs evs₁ res := by
  obtain ⟨evs₁, a, evs₂, rfl, hb, hf⟩ := Runs.bind_inv h
  refine ⟨evs₁, evs₂, rfl, ?_⟩
  dsimp only at hf
  split at hf
  · obtain ⟨_, _, _, -, -, hret⟩ := Runs.bind_inv hf
    obtain ⟨-, rfl⟩ := Runs.ret_inv hret
    exact hb
  · obtain ⟨-, rfl⟩ := Runs.ret_inv hf
    exact hb

/-- A successful `admitCPU` returns the store fields of the handle it was given. -/
theorem admitCPU_runs_store {sv : Settings} {admissionInfo : WorkInfo} {ba : BatchRequest}
    {ah ah' : Handle} {evs : List Event} (h : (admitCPU sv admissionInfo ba ah).Runs evs (ah', none)) :
    ah'.storeAdmissionQ = ah.storeAdmissionQ ∧ ah'.storeWorkHandle = ah.storeWorkHandle := by
  unfold admitCPU at h
  split_ifs at h
  · simp only [ElasticCPUWorkQueue.admitWork, call_bind, ret_bind] at h
    obtain ⟨⟨eh, _ | err⟩, evs', rfl, hk⟩ := h.call_inv
    · obtain ⟨_, _, -, hb⟩ := Runs.deferOnError_inv hk
      obtain ⟨-, ⟨⟩⟩ := Runs.ret_inv hb
      exact ⟨rfl, rfl⟩
    · exact absurd (Runs.ret_inv hk).2 (by simp)
  · simp only [WorkQueue.admitWork, call_bind, ret_bind] at h
    obtain ⟨⟨b, _ | err⟩, evs', rfl, hk⟩ := h.call_inv
    · obtain ⟨-, ⟨⟩⟩ := Runs.ret_inv hk
      exact ⟨rfl, rfl⟩
    · exact absurd (Runs.ret_inv hk).2 (by simp)

/-- **Bypassing admission does not skip the store queue.**  Whatever `BypassAdmission`
is, on a controller with queues a write that is not a single heartbeat, on a store with a
queue, is first handed to that queue's `Admit`; when that answer reports admission
enabled and `AdmitKVWork` then returns with no error, the handle holds the store queue
and its work handle, for `AdmittedKVWorkDone` to complete. -/
theorem admitKVWork_store_admission_despite_bypass {n : Controller}
    {sgc : StoreGrantCoordinators} {tenantID : TenantID} {ba : BatchRequest} {now : BitVec 64}
    {q : StoreWorkQueue} {evs : List Event} {ah : Handle} {err : Option GoError}
    (hq : n.queues = some sgc) (hw : ba.isWrite = true) (hhb : ba.isSingleHeartbeatTxnRequest = false)
    (hstore : sgc.tryGetQueueForStore ba.storeID = some q)
    (hr : (admitKVWork n tenantID ba now).Runs evs (ah, err)) :
    ∃ swh serr evs', evs = ⟨.storeAdmit q ⟨admissionInfo n.settings tenantID ba now⟩, (swh, serr)⟩ :: evs' ∧
      (serr = none → swh.admissionEnabled = true → err = none →
        ah.storeAdmissionQ = some q ∧ ah.storeWorkHandle = swh) := by
  unfold admitKVWork at hr
  simp only [hq, hw, hhb, hstore, Bool.not_false, and_self, if_true, StoreWorkQueue.admitWork,
    call_bind, ret_bind] at hr
  obtain ⟨⟨swh, serr⟩, evs', rfl, hk⟩ := hr.call_inv
  refine ⟨swh, serr, evs', rfl, fun hserr hen herr => ?_⟩
  subst hserr herr
  simp only [hen, if_true] at hk
  obtain ⟨_, _, -, hcpu⟩ := Runs.deferOnError_inv hk
  exact admitCPU_runs_store hcpu

/-- A node with its three queues, where every store has a write queue; bulk-only
admission is off. -/
def storeController : Controller := ⟨some ⟨fun _ => true⟩, ⟨false, 0, 0, true, true⟩⟩

/-- A SQL write to store 1, neither a heartbeat nor an export. -/
def storeWrite : BatchRequest := ⟨⟨0, 0, Source.fromSQL⟩, 1, false, true, false, false⟩

/-- What `AdmitKVWork` hands the queues for `storeWrite` from tenant 2 at time 7. -/
def storeWriteInfo : WorkInfo := admissionInfo storeController.settings ⟨2⟩ storeWrite 7

/-- The calls of that `AdmitKVWork` when store 1's queue admits with admission enabled
and the KV work queue admits: both grants are held. -/
def storeAdmittedCalls : List Event :=
  [⟨.storeAdmit ⟨1⟩ ⟨storeWriteInfo⟩, (⟨0, true⟩, none)⟩, ⟨.kvAdmit storeWriteInfo, (true, none)⟩]

/-- The calls of that `AdmitKVWork` when store 1's queue admits with admission enabled
and the KV work queue then fails: the store grant goes back, with zero bytes. -/
def storeRolledBackCalls : List Event :=
  [⟨.storeAdmit ⟨1⟩ ⟨storeWriteInfo⟩, (⟨0, true⟩, none)⟩,
    ⟨.kvAdmit storeWriteInfo, (false, some ⟨"busy"⟩)⟩, ⟨.storeAdmittedWorkDone ⟨1⟩ ⟨0, true⟩ {}, none⟩]

/-- `storeWrite` reaches the KV work queue after store 1's queue admits it. -/
theorem admitKVWork_reaches_cpu_queue_after_store_admit :
    storeController.queues = some ⟨fun _ => true⟩ ∧
      (admitKVWork storeController ⟨2⟩ storeWrite 7).Runs storeRolledBackCalls ({}, some ⟨"busy"⟩) ∧
      ((∃ e ∈ storeRolledBackCalls,
          e.call = cpuAdmission storeController.settings storeWriteInfo storeWrite) ∨
        ∃ q swh err, storeWrite.isWrite = true ∧ storeWrite.isSingleHeartbeatTxnRequest = false ∧
          (⟨fun _ => true⟩ : StoreGrantCoordinators).tryGetQueueForStore storeWrite.storeID = some q ∧
          (err.isSome = true ∨ swh.admissionEnabled = false) ∧
          storeRolledBackCalls = [⟨.storeAdmit q ⟨storeWriteInfo⟩, (swh, err)⟩]) :=
  have hr : (admitKVWork storeController ⟨2⟩ storeWrite 7).Runs storeRolledBackCalls
      ({}, some ⟨"busy"⟩) := .call _ (.call _ (.call _ (.ret _)))
  ⟨rfl, hr, admitKVWork_reaches_cpu_queue rfl hr⟩

/-- An admin write to store 1 sent by the KV layer itself (source `OTHER`), neither a
heartbeat nor an export: from the system tenant it bypasses admission. -/
def adminWrite : BatchRequest := ⟨⟨0, 0, Source.other⟩, 1, true, true, false, false⟩

/-- The calls of `adminWrite`'s `AdmitKVWork` from the system tenant at time 7 when store
1's queue admits with admission enabled and the KV work queue admits. -/
def adminWriteCalls : List Event :=
  [⟨.storeAdmit ⟨1⟩ ⟨admissionInfo storeController.settings systemTenantID adminWrite 7⟩,
      (⟨0, true⟩, none)⟩,
    ⟨.kvAdmit (admissionInfo storeController.settings systemTenantID adminWrite 7), (true, none)⟩]

/-- `adminWrite` bypasses admission, yet its handle holds store 1's queue. -/
theorem admitKVWork_store_admission_despite_bypass_for_admin :
    (admissionInfo storeController.settings systemTenantID adminWrite 7).bypassAdmission = true ∧
      storeController.queues = some ⟨fun _ => true⟩ ∧ adminWrite.isWrite = true ∧
      adminWrite.isSingleHeartbeatTxnRequest = false ∧
      (⟨fun _ => true⟩ : StoreGrantCoordinators).tryGetQueueForStore adminWrite.storeID = some ⟨1⟩ ∧
      (admitKVWork storeController systemTenantID adminWrite 7).Runs adminWriteCalls
        ({ tenantID := systemTenantID, storeAdmissionQ := some ⟨1⟩, storeWorkHandle := ⟨0, true⟩,
           callAdmittedWorkDoneOnKVAdmissionQ := true }, none) ∧
      ∃ swh serr evs', adminWriteCalls = ⟨.storeAdmit ⟨1⟩
          ⟨admissionInfo storeController.settings systemTenantID adminWrite 7⟩, (swh, serr)⟩ :: evs' ∧
        (serr = none → swh.admissionEnabled = true → (none : Option GoError) = none →
          ({ tenantID := systemTenantID, storeAdmissionQ := some ⟨1⟩, storeWorkHandle := ⟨0, true⟩,
             callAdmittedWorkDoneOnKVAdmissionQ := true } : Handle).storeAdmissionQ = some ⟨1⟩ ∧
          ({ tenantID := systemTenantID, storeAdmissionQ := some ⟨1⟩, storeWorkHandle := ⟨0, true⟩,
             callAdmittedWorkDoneOnKVAdmissionQ := true } : Handle).storeWorkHandle = swh) :=
  have hr : (admitKVWork storeController systemTenantID adminWrite 7).Runs adminWriteCalls
      ({ tenantID := systemTenantID, storeAdmissionQ := some ⟨1⟩, storeWorkHandle := ⟨0, true⟩,
         callAdmittedWorkDoneOnKVAdmissionQ := true }, none) := .call _ (.call _ (.ret _))
  ⟨by decide, rfl, rfl, rfl, rfl, hr, @admitKVWork_store_admission_despite_bypass storeController
    ⟨fun _ => true⟩ systemTenantID adminWrite 7 ⟨1⟩ _ _ _ rfl rfl rfl rfl hr⟩

end Kvadmission
