import Mathlib.Data.Multiset.Basic

/-!
# `kvadmission`: the data model

The values the KV admission layer reads and builds (`kvadmission.go`): tenants,
priorities, the admission header of a batch, the `WorkInfo` handed to every queue,
the receipts the queues return, the `Handle` a request carries from `AdmitKVWork`
to `AdmittedKVWorkDone`, and the controller with its settings.

Go's fixed-width integers are `BitVec`s of their width (`int8` priorities are
`Int8`); a Go zero value is the structure instance `{}`, every field having its
zero value as default.  Collaborators outside this package (`roachpb`, `admission`,
`pebble`) appear only through the fields and methods this package uses.
-/

namespace Kvadmission

/-- `time.Duration`: an `int64` count of nanoseconds. -/
abbrev Duration := BitVec 64

/-- A Go `error` returned by a collaborator; the controller only passes it on. -/
structure GoError where
  msg : String
  deriving DecidableEq

/-- `roachpb.TenantID`; admission reads only its `uint64` value. -/
structure TenantID where
  toUint64 : UInt64
  deriving DecidableEq

/-- `roachpb.SystemTenantID`, the tenant of the KV layer itself. -/
def systemTenantID : TenantID := ⟨1⟩

/-- `roachpb.IsSystemTenantID`. -/
def isSystemTenantID (id : UInt64) : Bool := id == systemTenantID.toUint64

/-- `roachpb.StoreID`, an `int32`. -/
abbrev StoreID := BitVec 32

/-- `admissionpb.WorkPriority`, an `int8`. -/
abbrev WorkPriority := Int8

/-- `admissionpb.NormalPri`. -/
def normalPri : WorkPriority := 0

/-- The conversion `admissionpb.WorkPriority(p)` of the header's `int32` priority:
Go keeps the low eight bits. -/
def workPriority (p : BitVec 32) : WorkPriority := ⟨⟨p.truncate 8⟩⟩

/-- `roachpb.AdmissionHeader_Source`, a protobuf enum: an `int32` that may hold
values no constant names. -/
structure Source where
  val : BitVec 32
  deriving DecidableEq

/-- `roachpb.AdmissionHeader_OTHER`. -/
def Source.other : Source := ⟨0⟩

/-- `roachpb.AdmissionHeader_FROM_SQL`. -/
def Source.fromSQL : Source := ⟨1⟩

/-- `roachpb.AdmissionHeader`, the fields admission reads. -/
structure AdmissionHeader where
  priority : BitVec 32
  createTime : BitVec 64
  source : Source
  deriving DecidableEq

/-- What `AdmitKVWork` reads of a `roachpb.BatchRequest`: its admission header, the
store of its replica (`ba.Replica.StoreID`) and the four predicates `roachpb`
computes from its requests (`IsAdmin`, `IsWrite`, `IsSingleHeartbeatTxnRequest`,
`IsSingleExportRequest`), each free here. -/
structure BatchRequest where
  admissionHeader : AdmissionHeader
  storeID : StoreID
  isAdmin : Bool
  isWrite : Bool
  isSingleHeartbeatTxnRequest : Bool
  isSingleExportRequest : Bool
  deriving DecidableEq

/-- What `AdmitRangefeedRequest` reads of a `roachpb.RangeFeedRequest`. -/
structure RangeFeedRequest where
  admissionHeader : AdmissionHeader
  deriving DecidableEq

/-- `admission.WorkInfo`, the fields the controller sets. -/
structure WorkInfo where
  tenantID : TenantID
  priority : WorkPriority
  createTime : BitVec 64
  bypassAdmission : Bool
  deriving DecidableEq

/-- `admission.StoreWriteWorkInfo`, built as `StoreWriteWorkInfo{WorkInfo: ...}`. -/
structure StoreWriteWorkInfo where
  workInfo : WorkInfo
  deriving DecidableEq

/-- `admission.StoreWorkDoneInfo`: the bytes a piece of store work wrote. -/
structure StoreWorkDoneInfo where
  writeBytes : BitVec 64 := 0
  ingestedBytes : BitVec 64 := 0
  deriving DecidableEq

/-- `StoreWriteBytes`, declared as `admission.StoreWorkDoneInfo`. -/
abbrev StoreWriteBytes := StoreWorkDoneInfo

/-- `pebble.IngestOperationStats`.  The controller passes it to the store queue without
reading it, so none of its fields is modelled. -/
structure IngestOperationStats where
  deriving DecidableEq

/-- `admission.StoreWorkHandle`, the store queue's receipt.  The controller reads
only `AdmissionEnabled()`; `receipt` stands for the fields only the queue reads. -/
structure StoreWorkHandle where
  receipt : Nat := 0
  admissionEnabled : Bool := false
  deriving DecidableEq

/-- A non-nil `*admission.ElasticCPUWorkHandle`, known by its address. -/
structure ElasticCPUWorkHandle where
  addr : Nat
  deriving DecidableEq

/-- A non-nil `*admission.StoreWorkQueue`.  Each store's grant coordinator owns its
own queue, so the store's ID names it. -/
structure StoreWorkQueue where
  storeID : StoreID
  deriving DecidableEq

/-- Modelled from the spec: `admission.StoreGrantCoordinators`, which resolves a
store to its own write queue when the store has one. -/
structure StoreGrantCoordinators where
  hasStore : StoreID → Bool

/-- Modelled from the spec: `StoreGrantCoordinators.TryGetQueueForStore`. -/
def StoreGrantCoordinators.tryGetQueueForStore (sgc : StoreGrantCoordinators)
    (storeID : StoreID) : Option StoreWorkQueue :=
  if sgc.hasStore storeID then some ⟨storeID⟩ else none

/-- The cluster settings the controller reads from `n.settings.SV`. -/
structure Settings where
  kvBulkOnlyAdmissionControlEnabled : Bool
  elasticCPUDurationPerExportRequest : Duration
  elasticCPUDurationPerRangefeedScanUnit : Duration
  kvTenantWeightsEnabled : Bool
  kvStoresTenantWeightsEnabled : Bool

/-- `controllerImpl`.  `MakeController` takes its three queues all nil or all
non-nil: `queues` is `none` in the first case and otherwise holds the store grant
coordinators (the KV work queue and the elastic CPU queue are one per node and hold
nothing the controller reads). -/
structure Controller where
  queues : Option StoreGrantCoordinators
  settings : Settings

/-- `Handle`: what one admitted request holds; `{}` is Go's `Handle{}`. -/
structure Handle where
  tenantID : TenantID := ⟨0⟩
  storeAdmissionQ : Option StoreWorkQueue := none
  storeWorkHandle : StoreWorkHandle := {}
  elasticCPUWorkHandle : Option ElasticCPUWorkHandle := none
  callAdmittedWorkDoneOnKVAdmissionQ : Bool := false
  deriving DecidableEq

/-- A Go `map[uint64]uint32` of tenant weights, by its entries; `none` is the nil
map. -/
abbrev WeightMap := Option (List (UInt64 × UInt32))

/-- `TenantWeightsForStore`. -/
structure TenantWeightsForStore where
  storeID : StoreID
  weights : WeightMap
  deriving DecidableEq

/-- `TenantWeights`, one answer of the weight provider. -/
structure TenantWeights where
  node : WeightMap
  stores : List TenantWeightsForStore
  deriving DecidableEq

end Kvadmission
