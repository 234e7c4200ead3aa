import Cockroach.Kvadmission.Basic
import Cockroach.Kvadmission.Queues
import Cockroach.Kvadmission.AdmitKVWork
import Cockroach.Kvadmission.Requests
import Cockroach.Kvadmission.Pacer
import Cockroach.Kvadmission.TenantWeights
import Cockroach.Kvadmission.FollowerStoreWriteBytes
import Cockroach.Kvadmission.DurationSettings
import Cockroach.Rafttest.SplitMsgs
import Cockroach.Rafttest.Stabilize
