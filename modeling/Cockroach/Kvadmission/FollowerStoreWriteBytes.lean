import Cockroach.Kvadmission.Queues
import Mathlib.Data.BitVec

/-!
# Follower write statistics

A replica that is not the leaseholder reports what it wrote to its store as a
`FollowerStoreWriteBytes`; reports are accumulated with `Merge` and handed to the store's
queue by `controllerImpl.FollowerStoreWriteBytes`, which, like `SnapshotIngested`, only
adjusts the queue's accounting: neither takes or gives back a grant
(`followerStoreWriteBytes_safe`, `snapshotIngested_safe`).

`Merge` adds the three counters with Go's wrapping `int64` addition, which is `+` on
`BitVec 64`.  `mergeAll_order_independent`: merging a list of reports one by one into a
zero accumulator gives the same value for every permutation of the list, namely the
field-wise sums, whose `int64` readings are the sums of the reports' `int64` readings
wrapped by `Int.bmod (2^64)`; and `Merge` is commutative and associative.
-/

namespace Kvadmission

open Prog

/-! ## Algorithm -/

/-- `FollowerStoreWriteBytes`: the entries a follower applied and the bytes they wrote. -/
structure FollowerStoreWriteBytes extends StoreWorkDoneInfo where
  numEntries : BitVec 64 := 0
  deriving DecidableEq

/-- `FollowerStoreWriteBytes.Merge`: the receiver after `f.Merge(from)`. -/
def FollowerStoreWriteBytes.merge (f «from» : FollowerStoreWriteBytes) :
    FollowerStoreWriteBytes :=
  { f with
    numEntries := f.numEntries + «from».numEntries
    writeBytes := f.writeBytes + «from».writeBytes
    ingestedBytes := f.ingestedBytes + «from».ingestedBytes }

/-- Merging reports one by one into a zero-valued accumulator. -/
def mergeAll (reports : List FollowerStoreWriteBytes) : FollowerStoreWriteBytes :=
  reports.foldl FollowerStoreWriteBytes.merge {}

/-- `controllerImpl.SnapshotIngested`, with the controller's store grant coordinators. -/
def snapshotIngested (storeGrantCoords : StoreGrantCoordinators) (storeID : StoreID)
    (ingestStats : IngestOperationStats) : Prog Unit :=
  match storeGrantCoords.tryGetQueueForStore storeID with
  | none => pure ()
  | some storeAdmissionQ => storeAdmissionQ.statsToIgnore ingestStats

/-- `controllerImpl.FollowerStoreWriteBytes`, with the controller's store grant
coordinators. -/
def followerStoreWriteBytes (storeGrantCoords : StoreGrantCoordinators) (storeID : StoreID)
    (followerWriteBytes : FollowerStoreWriteBytes) : Prog Unit :=
  if followerWriteBytes.writeBytes = 0 ∧ followerWriteBytes.ingestedBytes = 0 then pure ()
  else
    match storeGrantCoords.tryGetQueueForStore storeID with
    | none => pure ()
    | some storeAdmissionQ =>
      storeAdmissionQ.bypassedWorkDone followerWriteBytes.numEntries
        followerWriteBytes.toStoreWorkDoneInfo

/-! ## Lemmas -/

namespace FollowerStoreWriteBytes

@[simp] theorem merge_numEntries (f g : FollowerStoreWriteBytes) :
    (f.merge g).numEntries = f.numEntries + g.numEntries := rfl

@[simp] theorem merge_writeBytes (f g : FollowerStoreWriteBytes) :
    (f.merge g).writeBytes = f.writeBytes + g.writeBytes := rfl

@[simp] theorem merge_ingestedBytes (f g : FollowerStoreWriteBytes) :
    (f.merge g).ingestedBytes = f.ingestedBytes + g.ingestedBytes := rfl

theorem eq_of_fields {f g : FollowerStoreWriteBytes} (hn : f.numEntries = g.numEntries)
    (hw : f.writeBytes = g.writeBytes) (hi : f.ingestedBytes = g.ingestedBytes) : f = g := by
  rcases f with ⟨⟨⟩, _⟩
  rcases g with ⟨⟨⟩, _⟩
  simp_all

theorem merge_comm (f g : FollowerStoreWriteBytes) : f.merge g = g.merge f :=
  eq_of_fields (BitVec.add_comm _ _) (BitVec.add_comm _ _) (BitVec.add_comm _ _)

theorem merge_assoc (f g h : FollowerStoreWriteBytes) :
    (f.merge g).merge h = f.merge (g.merge h) :=
  eq_of_fields (BitVec.add_assoc _ _ _) (BitVec.add_assoc _ _ _) (BitVec.add_assoc _ _ _)

theorem merge_right_comm (f g h : FollowerStoreWriteBytes) :
    (f.merge g).merge h = (f.merge h).merge g := by
  rw [merge_assoc, merge_comm g, ← merge_assoc]

end FollowerStoreWriteBytes

/-- Reporting an ingested snapshot takes no grant and gives none back. -/
theorem snapshotIngested_safe (storeGrantCoords : StoreGrantCoordinators) (storeID : StoreID)
    (ingestStats : IngestOperationStats) (held : Multiset Grant) :
    (snapshotIngested storeGrantCoords storeID ingestStats).Safe held fun _ evs =>
      obtained evs = 0 ∧ released evs = 0 := by
  unfold snapshotIngested
  cases storeGrantCoords.tryGetQueueForStore storeID <;>
    simp [StoreWorkQueue.statsToIgnore, Call.releases, Call.obtains]

/-- Reporting follower writes takes no grant and gives none back. -/
theorem followerStoreWriteBytes_safe (storeGrantCoords : StoreGrantCoordinators)
    (storeID : StoreID) (followerWriteBytes : FollowerStoreWriteBytes) (held : Multiset Grant) :
    (followerStoreWriteBytes storeGrantCoords storeID followerWriteBytes).Safe held fun _ evs =>
      obtained evs = 0 ∧ released evs = 0 := by
  unfold followerStoreWriteBytes
  split_ifs
  · simp
  · cases storeGrantCoords.tryGetQueueForStore storeID <;>
      simp [StoreWorkQueue.bypassedWorkDone, Call.releases, Call.obtains]

open FollowerStoreWriteBytes in
/-- Merging into `acc` adds the field-wise sums of the reports to it. -/
theorem foldl_merge (reports : List FollowerStoreWriteBytes) (acc : FollowerStoreWriteBytes) :
    reports.foldl merge acc =
      { numEntries := acc.numEntries + (reports.map (·.numEntries)).sum
        writeBytes := acc.writeBytes + (reports.map (·.writeBytes)).sum
        ingestedBytes := acc.ingestedBytes + (reports.map (·.ingestedBytes)).sum } := by
  induction reports generalizing acc with
  | nil => exact eq_of_fields (by simp) (by simp) (by simp)
  | cons r reports ih =>
    rw [List.foldl_cons, ih]
    exact eq_of_fields (by simp [BitVec.add_assoc]) (by simp [BitVec.add_assoc]) (by simp [BitVec.add_assoc])

/-- Merging into a zero accumulator gives the field-wise sums. -/
theorem mergeAll_eq (reports : List FollowerStoreWriteBytes) :
    mergeAll reports =
      { numEntries := (reports.map (·.numEntries)).sum
        writeBytes := (reports.map (·.writeBytes)).sum
        ingestedBytes := (reports.map (·.ingestedBytes)).sum } :=
  (foldl_merge reports {}).trans (FollowerStoreWriteBytes.eq_of_fields
    (BitVec.zero_add _) (BitVec.zero_add _) (BitVec.zero_add _))

/-- The `int64` reading of a wrapping sum is the sum of the readings, wrapped. -/
theorem toInt_list_sum (xs : List (BitVec 64)) :
    xs.sum.toInt = (xs.map BitVec.toInt).sum.bmod (2 ^ 64) := by
  induction xs with
  | nil => rfl
  | cons x xs ih => simp [ih]

open FollowerStoreWriteBytes in
/-- **Merging is order-independent.**  For every list of reports and every permutation
of it, merging one by one into a zero accumulator gives the same value: the field-wise
wrapping sums, whose `int64` readings are the sums of the reports' readings wrapped into
`int64`.  `Merge` is commutative and associative. -/
theorem mergeAll_order_independent {reports reports' : List FollowerStoreWriteBytes}
    (hperm : reports.Perm reports') :
    mergeAll reports' = mergeAll reports ∧
      mergeAll reports =
        { numEntries := (reports.map (·.numEntries)).sum
          writeBytes := (reports.map (·.writeBytes)).sum
          ingestedBytes := (reports.map (·.ingestedBytes)).sum } ∧
      (mergeAll reports).numEntries.toInt =
        (reports.map fun r : FollowerStoreWriteBytes => r.numEntries.toInt).sum.bmod (2 ^ 64) ∧
      (mergeAll reports).writeBytes.toInt =
        (reports.map fun r : FollowerStoreWriteBytes => r.writeBytes.toInt).sum.bmod (2 ^ 64) ∧
      (mergeAll reports).ingestedBytes.toInt =
        (reports.map fun r : FollowerStoreWriteBytes => r.ingestedBytes.toInt).sum.bmod (2 ^ 64) ∧
      (∀ f g : FollowerStoreWriteBytes, f.merge g = g.merge f) ∧
      ∀ f g h : FollowerStoreWriteBytes, (f.merge g).merge h = f.merge (g.merge h) := by
  have hsum := mergeAll_eq reports
  refine ⟨(hperm.foldl_eq' (fun _ _ _ _ f => merge_right_comm f _ _) _).symm, hsum, ?_, ?_, ?_,
    merge_comm, merge_assoc⟩
  all_goals simp [hsum, toInt_list_sum, List.map_map, Function.comp_def]

/-- Two reports whose entry counts add past the largest `int64`. -/
def reportsPastInt64Max : List FollowerStoreWriteBytes :=
  [{ numEntries := 0x7FFFFFFFFFFFFFFF, writeBytes := 5 },
    { numEntries := 1, writeBytes := 7, ingestedBytes := 3 }]

theorem mergeAll_order_independent_past_int64_max :
    reportsPastInt64Max.Perm reportsPastInt64Max.reverse ∧
      mergeAll reportsPastInt64Max.reverse = mergeAll reportsPastInt64Max ∧
      mergeAll reportsPastInt64Max =
        { numEntries := (reportsPastInt64Max.map (·.numEntries)).sum
          writeBytes := (reportsPastInt64Max.map (·.writeBytes)).sum
          ingestedBytes := (reportsPastInt64Max.map (·.ingestedBytes)).sum } ∧
      (mergeAll reportsPastInt64Max).numEntries.toInt =
        (reportsPastInt64Max.map fun r : FollowerStoreWriteBytes => r.numEntries.toInt).sum.bmod
          (2 ^ 64) ∧
      (mergeAll reportsPastInt64Max).writeBytes.toInt =
        (reportsPastInt64Max.map fun r : FollowerStoreWriteBytes => r.writeBytes.toInt).sum.bmod
          (2 ^ 64) ∧
      (mergeAll reportsPastInt64Max).ingestedBytes.toInt =
        (reportsPastInt64Max.map fun r : FollowerStoreWriteBytes => r.ingestedBytes.toInt).sum.bmod
          (2 ^ 64) ∧
      (∀ f g : FollowerStoreWriteBytes, f.merge g = g.merge f) ∧
      ∀ f g h : FollowerStoreWriteBytes, (f.merge g).merge h = f.merge (g.merge h) :=
  ⟨(List.reverse_perm _).symm, mergeAll_order_independent (List.reverse_perm _).symm⟩

end Kvadmission
