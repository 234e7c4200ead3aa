import Cockroach.Kvadmission.Queues

/-!
# The tenant weight loop

`SetTenantWeightProvider` starts a goroutine that, at every tick, reads the two weight
settings and, unless both are disabled now and were at the previous tick (the
loop-local `allWeightsDisabled`), polls the provider and pushes the node weights to the
KV and elastic CPU queues and each store's weights to that store's queue, clearing
whatever the settings disable.  `weightTick` is one pass of the loop body.

A queue's weights are those of the last `SetTenantWeights` it was given
(`Weights.afterCalls`).  `LoopRun` is the loop after any sequence of ticks, each with
the settings it read and the calls it made; a tick polled when one of its calls is
`GetTenantWeights` (`Tick.poll_isSome_iff`).  `weightLoop_spec` says, after every tick:
the provider was polled exactly when it is the first tick or the two settings were not
both disabled at this tick and the previous one; the KV and elastic CPU queues hold the
node weights of this tick's poll, or nil when node weights are disabled; and the queue of
every store of the most recent poll holds that store's last entry, or nil when store
weights are disabled.  So the short-circuit never skips a push that would have changed a
queue's weights.
-/

namespace Kvadmission

open Prog

/-! ## Algorithm -/

/-- Lines 345-353: push each store's weights to its queue, if it has one. -/
def pushStoreWeights (storeGrantCoords : StoreGrantCoordinators) (kvStoresDisabled : Bool) :
    List TenantWeightsForStore → Prog Unit
  | [] => pure ()
  | storeWeights :: rest => do
    match storeGrantCoords.tryGetQueueForStore storeWeights.storeID with
    | some q => q.setTenantWeights (if kvStoresDisabled then none else storeWeights.weights)
    | none => pure ()
    pushStoreWeights storeGrantCoords kvStoresDisabled rest

/-- One tick of the loop of `SetTenantWeightProvider` (lines 332-354): `sv` is what the
settings read at this tick, `allWeightsDisabled` the loop variable; returns its next
value. -/
def weightTick (storeGrantCoords : StoreGrantCoordinators) (sv : Settings)
    (allWeightsDisabled : Bool) : Prog Bool := do
  let kvDisabled := !sv.kvTenantWeightsEnabled
  let kvStoresDisabled := !sv.kvStoresTenantWeightsEnabled
  if allWeightsDisabled && kvDisabled && kvStoresDisabled then
    -- Have already transitioned to disabled, so noop.
    return allWeightsDisabled
  let weights ← TenantWeightProvider.getTenantWeights
  let node := if kvDisabled then none else weights.node
  WorkQueue.setTenantWeights node
  ElasticCPUWorkQueue.setTenantWeights node
  pushStoreWeights storeGrantCoords kvStoresDisabled weights.stores
  return kvDisabled && kvStoresDisabled

/-! ## The weights the queues hold -/

/-- The weights last given to the KV work queue, the elastic CPU queue and each store's
queue. -/
structure Weights where
  kv : WeightMap
  elastic : WeightMap
  store : StoreID → WeightMap

/-- A `SetTenantWeights` call replaces its queue's weights. -/
def Weights.apply (w : Weights) : Call → Weights
  | .kvSetTenantWeights m => { w with kv := m }
  | .elasticSetTenantWeights m => { w with elastic := m }
  | .storeSetTenantWeights q m => { w with store := Function.update w.store q.storeID m }
  | .storeAdmit .. | .storeAdmittedWorkDone .. | .storeBypassedWorkDone .. | .storeStatsToIgnore ..
  | .elasticAdmit .. | .elasticAdmittedWorkDone _ | .overLimit _ | .kvAdmit _
  | .kvAdmittedWorkDone _ | .getTenantWeights => w

/-- The weights after the calls `evs`. -/
def Weights.afterCalls (w : Weights) (evs : List Event) : Weights :=
  evs.foldl (fun w e => w.apply e.call) w

/-- The provider's answer, if `e` is a call to `GetTenantWeights`. -/
def Event.tenantWeights? : Event → Option TenantWeights
  | ⟨.getTenantWeights, r⟩ => some r
  | _ => none

/-- One tick as it happened: the settings it read and the calls it made. -/
structure Tick where
  sv : Settings
  calls : List Event

/-- What the provider answered at this tick, if it was polled. -/
def Tick.poll (t : Tick) : Option TenantWeights := t.calls.findSome? Event.tenantWeights?

/-- Both weight settings read disabled at this tick. -/
def Tick.bothDisabled (t : Tick) : Bool :=
  !t.sv.kvTenantWeightsEnabled && !t.sv.kvStoresTenantWeightsEnabled

/-- The most recent poll of the ticks. -/
def lastPoll (ticks : List Tick) : Option TenantWeights := ticks.reverse.findSome? Tick.poll

/-- The last entry of `stores` for the store `storeID`. -/
def lastEntry (stores : List TenantWeightsForStore) (storeID : StoreID) :
    Option TenantWeightsForStore :=
  (stores.filter (·.storeID = storeID)).getLast?

/-- The loop variable and the weights the queues hold. -/
structure LoopState where
  allWeightsDisabled : Bool
  weights : Weights

/-- `LoopRun sgc w₀ ticks s`: from queues holding `w₀`, the loop ran the ticks `ticks`
(any settings, any answers of the provider) and is in state `s`. -/
inductive LoopRun (storeGrantCoords : StoreGrantCoordinators) (w₀ : Weights) :
    List Tick → LoopState → Prop
  | start : LoopRun storeGrantCoords w₀ [] ⟨false, w₀⟩
  | tick {ticks : List Tick} {s : LoopState} {t : Tick} {a : Bool} :
      LoopRun storeGrantCoords w₀ ticks s →
      (weightTick storeGrantCoords t.sv s.allWeightsDisabled).Runs t.calls a →
      LoopRun storeGrantCoords w₀ (ticks ++ [t]) ⟨a, s.weights.afterCalls t.calls⟩

/-! ## What a run establishes -/

/-- What pushing one store's entry does to the store queues' weights. -/
def storePush (sgc : StoreGrantCoordinators) (dis : Bool) (f : StoreID → WeightMap)
    (sw : TenantWeightsForStore) : StoreID → WeightMap :=
  match sgc.tryGetQueueForStore sw.storeID with
  | some q => Function.update f q.storeID (if dis then none else sw.weights)
  | none => f

/-- What the queues hold after the tick `t`, when `poll` is the most recent poll. -/
def HoldsAfter (sgc : StoreGrantCoordinators) (t : Tick) (poll : Option TenantWeights)
    (w : Weights) : Prop :=
  (t.sv.kvTenantWeightsEnabled = false → w.kv = none ∧ w.elastic = none) ∧
  (t.sv.kvTenantWeightsEnabled = true →
    ∃ tw, t.poll = some tw ∧ w.kv = tw.node ∧ w.elastic = tw.node) ∧
  (t.sv.kvStoresTenantWeightsEnabled = false → ∀ tw, poll = some tw → ∀ id,
    (lastEntry tw.stores id).isSome → (sgc.tryGetQueueForStore id).isSome → w.store id = none) ∧
  (t.sv.kvStoresTenantWeightsEnabled = true → ∃ tw, t.poll = some tw ∧ ∀ id last,
    lastEntry tw.stores id = some last → (sgc.tryGetQueueForStore id).isSome →
      w.store id = last.weights)

/-- The loop invariant: `allWeightsDisabled` is the previous tick's "both disabled", and
the queues hold what the last tick says. -/
def LoopInv (sgc : StoreGrantCoordinators) (ticks : List Tick) (s : LoopState) : Prop :=
  match ticks.getLast? with
  | none => s.allWeightsDisabled = false
  | some t => s.allWeightsDisabled = t.bothDisabled ∧ HoldsAfter sgc t (lastPoll ticks) s.weights

/-! ## Lemmas -/

/-- A tick has a poll exactly when one of its calls is `GetTenantWeights`. -/
theorem Tick.poll_isSome_iff (t : Tick) :
    t.poll.isSome ↔ ∃ e ∈ t.calls, e.call = .getTenantWeights := by
  simp only [Tick.poll, List.findSome?_isSome_iff]
  refine exists_congr fun ⟨c, r⟩ => and_congr_right fun _ => ?_
  cases c <;> simp [Event.tenantWeights?]

@[simp] theorem Weights.afterCalls_nil (w : Weights) : w.afterCalls [] = w := rfl

@[simp] theorem Weights.afterCalls_cons (w : Weights) (e : Event) (evs : List Event) :
    w.afterCalls (e :: evs) = (w.apply e.call).afterCalls evs := rfl

/-- The store pushes make no poll, and leave the store queues as `storePush` says. -/
theorem pushStoreWeights_safe (sgc : StoreGrantCoordinators) (dis : Bool)
    (stores : List TenantWeightsForStore) :
    (pushStoreWeights sgc dis stores).Safe 0 fun _ calls =>
      (∀ e ∈ calls, e.tenantWeights? = none) ∧
        ∀ w : Weights, w.afterCalls calls =
          { w with store := stores.foldl (storePush sgc dis) w.store } := by
  induction stores with
  | nil => simp [pushStoreWeights]
  | cons sw rest ih =>
    simp only [pushStoreWeights, safe_bind]
    rcases hq : sgc.tryGetQueueForStore sw.storeID with _ | q
    · simpa [storePush, hq] using ih
    · simp only [StoreWorkQueue.setTenantWeights, call_bind, ret_bind, safe_call, Call.releases,
        le_refl, true_and, safe_ret, heldAfter_cons, heldAfter_nil, Call.obtains, tsub_zero, add_zero]
      intro r
      refine ih.mono fun _ calls h => ⟨?_, fun w => ?_⟩
      · simpa [Event.tenantWeights?] using h.1
      · simp [h.2, Weights.apply, storePush, hq]

/-- One tick either skips, making no call, or polls once and pushes what it polled. -/
theorem weightTick_safe (sgc : StoreGrantCoordinators) (sv : Settings) (a : Bool) :
    (weightTick sgc sv a).Safe 0 fun a' calls =>
      if a && !sv.kvTenantWeightsEnabled && !sv.kvStoresTenantWeightsEnabled then calls = [] ∧ a' = a
      else a' = (!sv.kvTenantWeightsEnabled && !sv.kvStoresTenantWeightsEnabled) ∧
        ∃ tw, calls.findSome? Event.tenantWeights? = some tw ∧ ∀ w : Weights, w.afterCalls calls =
          { kv := if !sv.kvTenantWeightsEnabled then none else tw.node,
            elastic := if !sv.kvTenantWeightsEnabled then none else tw.node,
            store := tw.stores.foldl (storePush sgc !sv.kvStoresTenantWeightsEnabled) w.store } := by
  by_cases h : (a && !sv.kvTenantWeightsEnabled && !sv.kvStoresTenantWeightsEnabled) = true
  · simp [weightTick, h]
  · simp only [weightTick, h, Bool.false_eq_true, if_false, TenantWeightProvider.getTenantWeights,
      WorkQueue.setTenantWeights, ElasticCPUWorkQueue.setTenantWeights, pure_bind, call_bind,
      ret_bind, safe_call, Call.releases, le_refl, true_and, Call.obtains, tsub_zero, add_zero]
    intro tw _ _
    rw [safe_bind]
    refine (pushStoreWeights_safe _ _ _).mono fun _ calls hp => ?_
    simp only [pure_eq, safe_ret, List.append_nil]
    exact ⟨trivial, tw, by simp [Event.tenantWeights?], fun w => by simp [Weights.apply, hp.2]⟩

theorem storePush_apply (sgc : StoreGrantCoordinators) (dis : Bool) (f : StoreID → WeightMap)
    (sw : TenantWeightsForStore) (id : StoreID) (hid : (sgc.tryGetQueueForStore id).isSome) :
    storePush sgc dis f sw id =
      if sw.storeID = id then (if dis then none else sw.weights) else f id := by
  unfold storePush StoreGrantCoordinators.tryGetQueueForStore at *
  by_cases h : sw.storeID = id
  · subst h; simp_all
  · split_ifs at * <;> simp_all [Function.update_apply, Ne.symm h]

/-- After pushing a poll's store weights, a resolved store's queue holds its last entry. -/
theorem foldl_storePush (sgc : StoreGrantCoordinators) (dis : Bool) (f : StoreID → WeightMap)
    (stores : List TenantWeightsForStore) (id : StoreID) (hid : (sgc.tryGetQueueForStore id).isSome) :
    stores.foldl (storePush sgc dis) f id =
      ((lastEntry stores id).map fun sw => if dis then none else sw.weights).getD (f id) := by
  induction stores using List.reverseRecOn with
  | nil => rfl
  | append_singleton l sw ih =>
    rw [List.foldl_append, List.foldl_cons, List.foldl_nil, storePush_apply _ _ _ _ _ hid, ih]
    by_cases h : sw.storeID = id <;> simp [lastEntry, h]

theorem lastPoll_append_singleton (ticks : List Tick) (t : Tick) :
    lastPoll (ticks ++ [t]) = t.poll.or (lastPoll ticks) := by
  simp only [lastPoll, List.reverse_append, List.reverse_singleton, List.singleton_append,
    List.findSome?_cons]
  cases t.poll <;> rfl

/-- A skipped tick leaves the queues as the previous tick did, which is what it would
have pushed. -/
theorem HoldsAfter.skip {sgc : StoreGrantCoordinators} {prev t : Tick}
    {poll : Option TenantWeights} {w : Weights} (h : HoldsAfter sgc prev poll w)
    (hprev : prev.bothDisabled = true) (ht : t.bothDisabled = true) : HoldsAfter sgc t poll w := by
  simp only [Tick.bothDisabled, Bool.and_eq_true, Bool.not_eq_true'] at hprev ht
  exact ⟨fun _ => h.1 hprev.1, by simp [ht.1], fun _ => h.2.2.1 hprev.2, by simp [ht.2]⟩

/-- A tick that polls `tw` leaves the queues holding what it pushed. -/
theorem holdsAfter_of_poll (sgc : StoreGrantCoordinators) {t : Tick} {tw : TenantWeights}
    (hpoll : t.poll = some tw) (w : Weights) :
    HoldsAfter sgc t (some tw)
      { kv := if !t.sv.kvTenantWeightsEnabled then none else tw.node,
        elastic := if !t.sv.kvTenantWeightsEnabled then none else tw.node,
        store := tw.stores.foldl (storePush sgc !t.sv.kvStoresTenantWeightsEnabled) w.store } := by
  refine ⟨fun h => by simp [h], fun h => ⟨tw, hpoll, by simp [h]⟩, fun h tw' htw id hsome hid => ?_,
    fun h => ⟨tw, hpoll, fun id last hlast hid => ?_⟩⟩
  · cases htw
    obtain ⟨last, hlast⟩ := Option.isSome_iff_exists.1 hsome
    simp [foldl_storePush _ _ _ _ _ hid, hlast, h]
  · simp [foldl_storePush _ _ _ _ _ hid, hlast, h]

/-- One tick keeps the invariant, and polls exactly when the loop was not already
disabled or a setting is enabled now. -/
theorem LoopInv.tick {sgc : StoreGrantCoordinators} {ticks : List Tick} {s : LoopState} {t : Tick}
    {a : Bool} (hinv : LoopInv sgc ticks s)
    (hrun : (weightTick sgc t.sv s.allWeightsDisabled).Runs t.calls a) :
    (t.poll.isSome ↔ ¬(s.allWeightsDisabled = true ∧ t.bothDisabled = true)) ∧
      LoopInv sgc (ticks ++ [t]) ⟨a, s.weights.afterCalls t.calls⟩ := by
  have post := (weightTick_safe sgc t.sv s.allWeightsDisabled).runs hrun
  have hboth : (s.allWeightsDisabled && !t.sv.kvTenantWeightsEnabled && !t.sv.kvStoresTenantWeightsEnabled) =
      (s.allWeightsDisabled && t.bothDisabled) := by simp [Tick.bothDisabled, Bool.and_assoc]
  rw [hboth] at post
  simp only [LoopInv, List.getLast?_append, List.getLast?_singleton, Option.or_some, lastPoll_append_singleton]
  by_cases hskip : (s.allWeightsDisabled && t.bothDisabled) = true
  · obtain ⟨hcalls, rfl⟩ := if_pos hskip ▸ post
    have hpoll : t.poll = none := by simp [Tick.poll, hcalls]
    simp only [Bool.and_eq_true] at hskip
    unfold LoopInv at hinv
    split at hinv
    · simp [hskip.1] at hinv
    · refine ⟨by simp [hpoll, hskip], by simp [hskip], ?_⟩
      simpa [hpoll, hcalls] using hinv.2.skip (hinv.1 ▸ hskip.1) hskip.2
  · obtain ⟨rfl, tw, hpoll, hw⟩ := if_neg hskip ▸ post
    have : t.poll = some tw := hpoll
    refine ⟨by simpa [this] using hskip, rfl, ?_⟩
    rw [hw, this]
    exact holdsAfter_of_poll sgc this s.weights

/-- Every run keeps the invariant. -/
theorem LoopRun.loopInv {sgc : StoreGrantCoordinators} {w₀ : Weights} {ticks : List Tick}
    {s : LoopState} (h : LoopRun sgc w₀ ticks s) : LoopInv sgc ticks s := by
  induction h with
  | start => rfl
  | tick _ hrun ih => exact (ih.tick hrun).2

theorem LoopRun.of_append_singleton {sgc : StoreGrantCoordinators} {w₀ : Weights}
    {ticks : List Tick} {t : Tick} {s' : LoopState} (h : LoopRun sgc w₀ (ticks ++ [t]) s') :
    ∃ s a, LoopRun sgc w₀ ticks s ∧ (weightTick sgc t.sv s.allWeightsDisabled).Runs t.calls a ∧
      s' = ⟨a, s.weights.afterCalls t.calls⟩ := by
  generalize hl : ticks ++ [t] = l at h
  cases h with
  | start => simp at hl
  | tick hs hrun =>
    obtain ⟨rfl, ht⟩ := List.append_inj' hl rfl
    cases List.singleton_inj.1 ht
    exact ⟨_, _, hs, hrun, rfl⟩

/-- **The weight loop.**  At every tick the provider is polled exactly when it is the
first tick or the two settings were not both disabled at the previous tick and this one,
and afterwards the queues hold what this tick's settings and the most recent poll say
(`HoldsAfter`). -/
theorem weightLoop_spec {sgc : StoreGrantCoordinators} {w₀ : Weights} {ticks : List Tick}
    {t : Tick} {s : LoopState} (h : LoopRun sgc w₀ (ticks ++ [t]) s) :
    (t.poll.isSome ↔
        ∀ prev, ticks.getLast? = some prev → ¬(prev.bothDisabled = true ∧ t.bothDisabled = true)) ∧
      HoldsAfter sgc t (lastPoll (ticks ++ [t])) s.weights := by
  obtain ⟨s, a, hs, hrun, rfl⟩ := h.of_append_singleton
  have hinv := hs.loopInv
  obtain ⟨hpoll, hinv'⟩ := hinv.tick hrun
  simp only [LoopInv, List.getLast?_append, List.getLast?_singleton, Option.or_some] at hinv hinv'
  refine ⟨hpoll.trans ?_, hinv'.2⟩
  rcases hlast : ticks.getLast? with _ | prev <;> rw [hlast] at hinv
  · simp [hinv]
  · simp [hinv.1]

/-- A node where store 1 has a write queue and no other store has one. -/
def storeOneCoords : StoreGrantCoordinators := ⟨fun id => id == 1⟩

/-- Both settings enabled: the poll lists stores 1 and 3, and only store 1's queue gets
its weights. -/
def enabledTick : Tick :=
  ⟨⟨false, 0, 0, true, true⟩,
    [⟨.getTenantWeights, ⟨some [(2, 1)], [⟨1, some [(2, 5)]⟩, ⟨3, some [(2, 9)]⟩]⟩⟩,
      ⟨.kvSetTenantWeights (some [(2, 1)]), ()⟩, ⟨.elasticSetTenantWeights (some [(2, 1)]), ()⟩,
      ⟨.storeSetTenantWeights ⟨1⟩ (some [(2, 5)]), ()⟩]⟩

/-- Both settings disabled after a tick that was not: the loop still polls, and clears
every queue's weights. -/
def disabledTick : Tick :=
  ⟨⟨false, 0, 0, false, false⟩,
    [⟨.getTenantWeights, ⟨some [(2, 1)], [⟨1, some [(2, 5)]⟩]⟩⟩, ⟨.kvSetTenantWeights none, ()⟩,
      ⟨.elasticSetTenantWeights none, ()⟩, ⟨.storeSetTenantWeights ⟨1⟩ none, ()⟩]⟩

/-- Both settings disabled again: the tick is skipped. -/
def skippedTick : Tick := ⟨⟨false, 0, 0, false, false⟩, []⟩

/-- Store weights enabled again, node weights still disabled: the poll lists store 1
twice, and its queue ends with the last entry. -/
def storesOnlyTick : Tick :=
  ⟨⟨false, 0, 0, false, true⟩,
    [⟨.getTenantWeights, ⟨some [(2, 1)], [⟨1, some [(2, 4)]⟩, ⟨1, some [(2, 6)]⟩]⟩⟩,
      ⟨.kvSetTenantWeights none, ()⟩, ⟨.elasticSetTenantWeights none, ()⟩,
      ⟨.storeSetTenantWeights ⟨1⟩ (some [(2, 4)]), ()⟩, ⟨.storeSetTenantWeights ⟨1⟩ (some [(2, 6)]), ()⟩]⟩

/-- Four ticks on `storeOneCoords`: the third is skipped, and the fourth leaves store 1's
queue with the last of its two entries. -/
theorem weightLoop_spec_skip_then_stores_only :
    LoopRun storeOneCoords ⟨none, none, fun _ => none⟩
        ([enabledTick, disabledTick, skippedTick] ++ [storesOnlyTick])
        ⟨false, Weights.afterCalls ⟨none, none, fun _ => none⟩
          (enabledTick.calls ++ disabledTick.calls ++ skippedTick.calls ++ storesOnlyTick.calls)⟩ ∧
      (storesOnlyTick.poll.isSome ↔ ∀ prev, [enabledTick, disabledTick, skippedTick].getLast? = some prev →
        ¬(prev.bothDisabled = true ∧ storesOnlyTick.bothDisabled = true)) ∧
      HoldsAfter storeOneCoords storesOnlyTick
        (lastPoll ([enabledTick, disabledTick, skippedTick] ++ [storesOnlyTick]))
        (Weights.afterCalls ⟨none, none, fun _ => none⟩
          (enabledTick.calls ++ disabledTick.calls ++ skippedTick.calls ++ storesOnlyTick.calls)) :=
  have h : LoopRun storeOneCoords ⟨none, none, fun _ => none⟩
      ([] ++ [enabledTick] ++ [disabledTick] ++ [skippedTick] ++ [storesOnlyTick]) _ :=
    .tick (.tick (.tick (.tick .start (.call _ (.call _ (.call _ (.call _ (.ret _))))))
      (.call _ (.call _ (.call _ (.call _ (.ret _)))))) (.ret _))
      (.call _ (.call _ (.call _ (.call _ (.call _ (.ret _))))))
  ⟨h, weightLoop_spec h⟩

end Kvadmission
