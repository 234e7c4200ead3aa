import Mathlib.Data.List.Perm.Basic

/-!
# `splitMsgs`: taking one recipient's messages out of the pending list

The interaction test environment keeps its undelivered raft messages in one list;
`splitMsgs` takes out those for one recipient (optionally of one type, and optionally
keeping back local messages when messages are being dropped) without reordering, and
`Stabilize` uses it to see whether a node has messages waiting.

`splitMsgs_eq_filter` says the loop computes two filters of the list by the test the
spec states (`Extracted`): so both results are subsequences of the input, together a
permutation of it, and with `drop` set no local message is extracted.
`raft.IsLocalMsgTarget` is not part of this package; it is a parameter, so every result
holds whatever the local targets are.
-/

namespace Rafttest

/-! ## Algorithm -/

/-- `raftpb.Message`, with the fields `splitMsgs` reads; `type` is the `int32` enum
`raftpb.MessageType`. -/
structure Message where
  type : BitVec 32
  «to» : UInt64
  «from» : UInt64
  deriving DecidableEq

section
variable (isLocalMsgTarget : UInt64 → Bool)

/-- `isLocalMsg`: local messages require reliable delivery and are never dropped. -/
def isLocalMsg (msg : Message) : Bool :=
  msg.from == msg.to || isLocalMsgTarget msg.from || isLocalMsgTarget msg.to

/-- One iteration of the loop of `splitMsgs` on the accumulators `(toMsgs, rmdr)`. -/
def splitStep («to» : UInt64) (typ : BitVec 32) (drop : Bool)
    (acc : List Message × List Message) (msg : Message) : List Message × List Message :=
  if msg.to == «to» && !(drop && isLocalMsg isLocalMsgTarget msg) &&
      (typ.slt 0 || msg.type == typ) then
    (acc.1 ++ [msg], acc.2)
  else
    (acc.1, acc.2 ++ [msg])

/-- `splitMsgs`: the messages for `to` of type `typ` (`-1` for all types) and the
remainder. -/
def splitMsgs (msgs : List Message) («to» : UInt64) (typ : BitVec 32) (drop : Bool) :
    List Message × List Message :=
  msgs.foldl (splitStep isLocalMsgTarget «to» typ drop) ([], [])

/-! ## The spec's test -/

/-- The spec's test for a message that `splitMsgs` extracts, with `typ < 0` read on the
signed value. -/
def Extracted («to» : UInt64) (typ : BitVec 32) (drop : Bool) (m : Message) : Prop :=
  m.to = «to» ∧ ¬(drop = true ∧ isLocalMsg isLocalMsgTarget m = true) ∧
    (typ.toInt < 0 ∨ m.type = typ)

instance («to» : UInt64) (typ : BitVec 32) (drop : Bool) :
    DecidablePred (Extracted isLocalMsgTarget «to» typ drop) :=
  fun _ => inferInstanceAs (Decidable (_ ∧ _))

/-! ## Lemmas -/

theorem splitStep_eq («to» : UInt64) (typ : BitVec 32) (drop : Bool)
    (acc : List Message × List Message) (msg : Message) :
    splitStep isLocalMsgTarget «to» typ drop acc msg =
      if Extracted isLocalMsgTarget «to» typ drop msg then (acc.1 ++ [msg], acc.2)
      else (acc.1, acc.2 ++ [msg]) := by
  cases drop <;> simp [splitStep, Extracted, BitVec.slt, and_assoc]

/-- The loop appends the filters of `msgs` to its accumulators. -/
theorem foldl_splitStep («to» : UInt64) (typ : BitVec 32) (drop : Bool) (msgs : List Message)
    (acc : List Message × List Message) :
    msgs.foldl (splitStep isLocalMsgTarget «to» typ drop) acc =
      (acc.1 ++ msgs.filter (Extracted isLocalMsgTarget «to» typ drop ·),
        acc.2 ++ msgs.filter (¬Extracted isLocalMsgTarget «to» typ drop ·)) := by
  induction msgs generalizing acc with
  | nil => simp
  | cons msg msgs ih =>
    rw [List.foldl_cons, ih, splitStep_eq]
    by_cases h : Extracted isLocalMsgTarget «to» typ drop msg <;> simp [h]

/-- **`splitMsgs` is a pair of filters.**  The loop returns the messages that pass the
spec's test and those that fail it, each in their order in `msgs`; together they are
`msgs` again, and with `drop` set no local message is extracted. -/
theorem splitMsgs_eq_filter (msgs : List Message) («to» : UInt64) (typ : BitVec 32)
    (drop : Bool) :
    splitMsgs isLocalMsgTarget msgs «to» typ drop =
        (msgs.filter (Extracted isLocalMsgTarget «to» typ drop ·),
          msgs.filter (¬Extracted isLocalMsgTarget «to» typ drop ·)) ∧
      (splitMsgs isLocalMsgTarget msgs «to» typ drop).1.Sublist msgs ∧
      (splitMsgs isLocalMsgTarget msgs «to» typ drop).2.Sublist msgs ∧
      ((splitMsgs isLocalMsgTarget msgs «to» typ drop).1 ++
        (splitMsgs isLocalMsgTarget msgs «to» typ drop).2).Perm msgs ∧
      (drop = true → ∀ m ∈ (splitMsgs isLocalMsgTarget msgs «to» typ drop).1,
        isLocalMsg isLocalMsgTarget m = false) := by
  have h : splitMsgs isLocalMsgTarget msgs «to» typ drop = _ := foldl_splitStep _ _ _ _ msgs ([], [])
  simp only [List.nil_append] at h
  rw [h]
  refine ⟨rfl, List.filter_sublist _, List.filter_sublist _,
    by simpa using List.filter_append_perm (Extracted isLocalMsgTarget «to» typ drop ·) msgs,
    fun hdrop m hm => ?_⟩
  simp only [List.mem_filter, decide_eq_true_eq, Extracted, hdrop, true_and,
    Bool.not_eq_true] at hm
  exact hm.2.2.1

/-- The call in `Stabilize`, all types and no dropping, extracts exactly the messages to
the node. -/
theorem splitMsgs_all_types (msgs : List Message) (id : UInt64) :
    (splitMsgs isLocalMsgTarget msgs id (-1) false).1 = msgs.filter (·.to = id) := by
  rw [splitMsgs, foldl_splitStep]
  simp [Extracted, show (-1 : BitVec 32).toInt = -1 from rfl]

end

end Rafttest
