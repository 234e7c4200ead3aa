import Cockroach.Kvadmission.Queues

/-!
# `Pacer`: cooperative pacing of elastic CPU work

A rangefeed catch-up scan calls `Pace` every iteration and `Close` once done; the
pacer holds at most one elastic CPU grant, `cur`.  `Pace` gives `cur` back when it is
over its limit and then, holding nothing, admits a new one; `Close` gives back `cur`.
A nil pacer (`none`) does nothing.

`Pacer.holds` is what a pacer stands for: `{cur}` or nothing.  The spec lemmas
`pace_safe` and `close_safe` say each method gives back only that grant and leaves
the pacer holding exactly what it points to; `runPacer_safe` chains them over any
sequence of calls, so for a pacer built by `AdmitRangefeedRequest`
(`pacer_holds_at_most_its_current_handle`):

* every release is of a handle the pacer obtained and still holds;
* after each call the grants obtained and not given back are `holds p`, at most one;
* a `Pace` that fails and any `Close` leave nothing outstanding;
* on a nil pacer no call reaches the queue.
-/

namespace Kvadmission

open Prog

/-- `Pacer`.  Its queue `wq` is the controller's elastic CPU queue. -/
structure Pacer where
  unit : Duration
  wi : WorkInfo
  cur : Option ElasticCPUWorkHandle

/-- `controllerImpl.AdmitRangefeedRequest`. -/
def Controller.admitRangefeedRequest (n : Controller) (tenantID : TenantID)
    (request : RangeFeedRequest) : Pacer where
  unit := n.settings.elasticCPUDurationPerRangefeedScanUnit
  wi := { tenantID
          priority := workPriority request.admissionHeader.priority
          createTime := request.admissionHeader.createTime
          bypassAdmission := false }
  cur := none

/-- `Pacer.Pace` on `p` (`none` is the nil pacer): the pacer afterwards and the error. -/
def Pacer.pace : Option Pacer → Prog (Option Pacer × Option GoError)
  | none => pure (none, none)
  | some p => do
    let (overLimit, _) ← ElasticCPUWorkHandle.overLimit p.cur
    let p ← if overLimit then do
        ElasticCPUWorkQueue.admittedWorkDone p.cur
        pure { p with cur := none }
      else pure p
    match p.cur with
    | some _ => pure (some p, none)
    | none => do
      let (handle, err) ← ElasticCPUWorkQueue.admitWork p.unit p.wi
      match err with
      | some err => pure (some p, some err)
      | none => pure (some { p with cur := handle }, none)

/-- `Pacer.Close` on `p`: the pacer afterwards. -/
def Pacer.close : Option Pacer → Prog (Option Pacer)
  | none => pure none
  | some p =>
    match p.cur with
    | none => pure (some p)
    | some _ => do
      ElasticCPUWorkQueue.admittedWorkDone p.cur
      pure (some { p with cur := none })

/-- A call a scan makes on its pacer. -/
inductive PacerOp
  | pace
  | close

/-- One call on a pacer: the pacer afterwards and the error it returned. -/
def PacerOp.run : PacerOp → Option Pacer → Prog (Option Pacer × Option GoError)
  | .pace, p => Pacer.pace p
  | .close, p => do
    let p ← Pacer.close p
    pure (p, none)

/-- The next call, on the pacer the previous one left. -/
def pacerStep (acc : Option Pacer × Option GoError) (op : PacerOp) :
    Prog (Option Pacer × Option GoError) := op.run acc.1

/-- The calls `ops`, in order, on `p`: the pacer after them and the error of the last. -/
def runPacer (p : Option Pacer) (ops : List PacerOp) : Prog (Option Pacer × Option GoError) :=
  ops.foldlM pacerStep (p, none)

/-- The grant a pacer stands for. -/
def Pacer.holds : Option Pacer → Multiset Grant
  | some p => (p.cur.map Grant.elastic).toList
  | none => 0

/-! ## Lemmas -/

@[simp] theorem Pacer.holds_some (p : Pacer) : Pacer.holds (some p) = (p.cur.map Grant.elastic).toList := rfl
@[simp] theorem Pacer.holds_none : Pacer.holds none = 0 := rfl

/-- `Pace` gives back only the pacer's grant, and afterwards the pacer holds exactly
what it points to; on error it holds nothing. -/
theorem pace_safe (p : Option Pacer) :
    (Pacer.pace p).Safe (Pacer.holds p) fun res evs =>
      heldAfter (Pacer.holds p) evs = Pacer.holds res.1 ∧ (res.2.isSome → Pacer.holds res.1 = 0) := by
  rcases p with _ | ⟨unit, wi, _ | h⟩
  · simp [Pacer.pace]
  · simp only [Pacer.pace, ElasticCPUWorkHandle.overLimit, ElasticCPUWorkQueue.admitWork, pure_eq,
      ret_bind, call_bind, safe_call, Pacer.holds_some]
    refine ⟨by simp [Call.releases], ?_⟩
    rintro ⟨handle, _ | err⟩ <;> simp [Call.releases, Call.obtains]
  · simp only [Pacer.pace, ElasticCPUWorkHandle.overLimit, ElasticCPUWorkQueue.admitWork,
      ElasticCPUWorkQueue.admittedWorkDone, pure_eq, ret_bind, call_bind, safe_call, Pacer.holds_some]
    refine ⟨by simp [Call.releases], ?_⟩
    rintro ⟨_ | _, d⟩
    · simp [Call.releases, Call.obtains]
    · simp [Call.releases, Call.obtains]
      rintro - ⟨handle, _ | err⟩ <;> simp

/-- `Close` gives back only the pacer's grant and leaves it holding nothing. -/
theorem close_safe (p : Option Pacer) :
    (Pacer.close p).Safe (Pacer.holds p) fun res evs =>
      heldAfter (Pacer.holds p) evs = Pacer.holds res ∧ Pacer.holds res = 0 := by
  rcases p with _ | ⟨unit, wi, _ | h⟩
  · simp [Pacer.close]
  · simp [Pacer.close]
  · simp [Pacer.close, ElasticCPUWorkQueue.admittedWorkDone, Call.releases, Call.obtains]

theorem PacerOp.run_safe (op : PacerOp) (p : Option Pacer) :
    (op.run p).Safe (Pacer.holds p) fun res evs =>
      heldAfter (Pacer.holds p) evs = Pacer.holds res.1 ∧ (res.2.isSome → Pacer.holds res.1 = 0) ∧
        (op = .close → Pacer.holds res.1 = 0) := by
  cases op with
  | pace => exact (pace_safe p).mono fun res evs h => ⟨h.1, h.2, by simp⟩
  | close =>
    simp only [PacerOp.run, safe_bind]
    exact (close_safe p).mono fun res evs h => by simpa using h

/-- Over any sequence of calls the pacer gives back only what it holds, and holds
exactly what it points to. -/
theorem runPacer_safe (ops : List PacerOp) (acc : Option Pacer × Option GoError) :
    (ops.foldlM pacerStep acc).Safe (Pacer.holds acc.1) fun res evs =>
      heldAfter (Pacer.holds acc.1) evs = Pacer.holds res.1 := by
  induction ops generalizing acc with
  | nil => simp
  | cons op ops ih =>
    rw [List.foldlM_cons, safe_bind]
    exact (PacerOp.run_safe op acc.1).mono fun res evs h => by
      rw [h.1]
      exact (ih res).mono fun res' evs' h' => by rw [heldAfter_append, h.1, h']

theorem runPacer_snoc (p : Option Pacer) (ops : List PacerOp) (op : PacerOp) :
    runPacer p (ops ++ [op]) = runPacer p ops >>= fun acc => op.run acc.1 := by
  simp [runPacer, List.foldlM_append, pacerStep]

/-- A nil pacer makes no call. -/
theorem runPacer_none (ops : List PacerOp) : runPacer none ops = pure (none, none) := by
  induction ops with
  | nil => rfl
  | cons op ops ih => cases op <;> simpa [runPacer, pacerStep, PacerOp.run, Pacer.pace, Pacer.close] using ih

theorem Pacer.card_holds_le_one (p : Option Pacer) : Multiset.card (Pacer.holds p) ≤ 1 := by
  rcases p with _ | ⟨_, _, _ | _⟩ <;> simp

/-- **A pacer holds at most its current handle.**  For a pacer built by
`AdmitRangefeedRequest` and any sequence of `Pace` and `Close` calls, whatever the queue
and `OverLimit` answer: every release is of a handle the pacer obtained and still holds;
the grants obtained and not given back are `holds p`, at most one; a last `Pace` that
fails, and a last `Close` whatever came before, leave nothing outstanding; and calls on a
nil pacer never reach the queue. -/
theorem pacer_holds_at_most_its_current_handle (n : Controller) (tenantID : TenantID)
    (request : RangeFeedRequest) (ops : List PacerOp) :
    ((runPacer (some (n.admitRangefeedRequest tenantID request)) ops).Safe 0 fun res evs =>
        heldAfter 0 evs = Pacer.holds res.1 ∧ Multiset.card (Pacer.holds res.1) ≤ 1) ∧
      ((runPacer (some (n.admitRangefeedRequest tenantID request)) (ops ++ [.pace])).Safe 0
        fun res _ => res.2.isSome → Pacer.holds res.1 = 0) ∧
      ((runPacer (some (n.admitRangefeedRequest tenantID request)) (ops ++ [.close])).Safe 0
        fun res _ => Pacer.holds res.1 = 0) ∧
      runPacer none ops = pure (none, none) := by
  have run : (runPacer (some (n.admitRangefeedRequest tenantID request)) ops).Safe 0
      fun res evs => heldAfter 0 evs = Pacer.holds res.1 := runPacer_safe ops _
  have last : ∀ op, (runPacer (some (n.admitRangefeedRequest tenantID request)) (ops ++ [op])).Safe 0
      fun res _ => (res.2.isSome → Pacer.holds res.1 = 0) ∧ (op = .close → Pacer.holds res.1 = 0) :=
    fun op => by
      rw [runPacer_snoc, safe_bind]
      exact run.mono fun res evs h => by
        rw [h]
        exact (PacerOp.run_safe op res.1).mono fun _ _ h' => h'.2
  exact ⟨run.mono fun res _ h => ⟨h, Pacer.card_holds_le_one _⟩, (last .pace).mono fun _ _ h => h.1,
    (last .close).mono fun _ _ h => h.2 rfl, runPacer_none ops⟩

end Kvadmission
