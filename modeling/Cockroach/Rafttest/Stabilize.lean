import Cockroach.Rafttest.SplitMsgs

/-!
# `Stabilize` and `handleStabilize`

`Stabilize` runs rounds over the chosen nodes of the interaction environment until a
round finds nothing to do.  A round has four passes, each over every chosen node:
handle a pending `Ready`, deliver the messages addressed to the node, drain its append
thread, drain its apply thread; each pass that does something prints a header and clears
`done`.  A `ProcessReady` or `ProcessAppendThread` error ends `Stabilize` at once.

The environment (`InteractionEnv`: its nodes, messages, output and the methods that
process them) is defined outside this package, so its methods are the fields of a
structure over an abstract state: every result holds whatever they do.  The only law
assumed is that the output level is a field (`outputLvl_setOutputLvl`).  Go's loops
that may not end are run with fuel; `none` is "has not returned".

* `stabilize_fixed_point`: when `Stabilize` returns `nil`, no chosen node has a `Ready`,
  a message addressed to it, append work or apply work: the last round changed nothing.
* `handleStabilize_restores_outputLvl`: the `log-level` arguments of `handleStabilize`
  each defer a restore of the level they found; run last-in first-out, these leave the
  output level as it was on entry, whatever `LogLevel` and `Stabilize` did and also when
  `LogLevel` fails.
-/

namespace Rafttest

/-! ## The environment -/

/-- A Go `error` returned by the environment. -/
structure GoError where
  msg : String
  deriving DecidableEq

/-- The methods of `InteractionEnv`, and of its nodes, that this file uses, over the
environment's state `σ`.  A node is known by its position in `env.Nodes`. -/
structure InteractionEnv (σ : Type) where
  /-- `len(env.Nodes)` -/
  nodeCount : σ → Nat
  /-- `rn.HasReady()` -/
  hasReady : σ → Nat → Bool
  /-- `rn.Status().ID` -/
  statusID : σ → Nat → UInt64
  /-- `len(rn.AppendWork)` -/
  appendWork : σ → Nat → Nat
  /-- `len(rn.ApplyWork)` -/
  applyWork : σ → Nat → Nat
  /-- `env.Messages` -/
  messages : σ → List Message
  /-- `fmt.Fprintf(env.Output, ...)` -/
  write : σ → String → σ
  /-- `env.withIndent(func() { err = env.ProcessReady(idx) })` -/
  processReady : σ → Int → σ × Option GoError
  /-- `env.withIndent(func() { env.DeliverMsgs(-1, Recipient{ID: id}) })` -/
  deliverMsgs : σ → UInt64 → σ
  /-- `env.withIndent(func() { err = env.ProcessAppendThread(idx) })` -/
  processAppendThread : σ → Int → σ × Option GoError
  /-- `env.withIndent(func() { env.ProcessApplyThread(idx) })` -/
  processApplyThread : σ → Int → σ
  /-- `env.LogLevel(level)` -/
  logLevel : σ → String → σ × Option GoError
  /-- `env.Output.Lvl` -/
  outputLvl : σ → Int
  /-- the assignment `env.Output.Lvl = lvl` -/
  setOutputLvl : σ → Int → σ
  outputLvl_setOutputLvl : ∀ s lvl, outputLvl (setOutputLvl s lvl) = lvl

/-- `int(id - 1)`: the index of the node with ID `id`, through Go's wrapping `uint64`
subtraction and its conversion to `int`. -/
def nodeIdx (id : UInt64) : Int := (BitVec.ofNat 64 (id - 1).toNat).toInt

section
variable {σ : Type} (env : InteractionEnv σ) (isLocalMsgTarget : UInt64 → Bool)

/-! ## Algorithm -/

/-- Lines 50-59: the nodes given by `idxs`, or every node when there are none. -/
def stabilizeNodes (s : σ) (idxs : List Nat) : List Nat :=
  if idxs.length ≠ 0 then idxs else List.range (env.nodeCount s)

/-- Lines 63-74: every chosen node with a `Ready` handles it.  Returns the state, `done`
and the error that ends `Stabilize`. -/
def readyPass : List Nat → σ → Bool → σ × Bool × Option GoError
  | [], s, done => (s, done, none)
  | rn :: nodes, s, done =>
    if env.hasReady s rn then
      let idx := nodeIdx (env.statusID s rn)
      let s := env.write s ("> " ++ toString (idx + 1) ++ " handling Ready\n")
      match env.processReady s idx with
      | (s, some err) => (s, false, some err)
      | (s, none) => readyPass nodes s false
    else readyPass nodes s done

/-- Lines 75-84: every chosen node with messages addressed to it receives them. -/
def deliverPass : List Nat → σ → Bool → σ × Bool
  | [], s, done => (s, done)
  | rn :: nodes, s, done =>
    let id := env.statusID s rn
    -- NB: we grab the messages just to see whether to print the header.
    if (splitMsgs isLocalMsgTarget (env.messages s) id (-1) false).1.length > 0 then
      let s := env.write s ("> " ++ toString id ++ " receiving messages\n")
      deliverPass nodes (env.deliverMsgs s id) false
    else deliverPass nodes s done

/-- Lines 89-95: `for len(rn.AppendWork) > 0`, processing the append thread of `idx`. -/
def drainAppend (rn : Nat) (idx : Int) : Nat → σ → Option (σ × Option GoError)
  | 0, _ => none
  | fuel + 1, s =>
    if env.appendWork s rn > 0 then
      match env.processAppendThread s idx with
      | (s, some err) => some (s, some err)
      | (s, none) => drainAppend rn idx fuel s
    else some (s, none)

/-- Lines 85-98: every chosen node with append work drains it. -/
def appendPass (fuel : Nat) : List Nat → σ → Bool → Option (σ × Bool × Option GoError)
  | [], s, done => some (s, done, none)
  | rn :: nodes, s, done =>
    let idx := nodeIdx (env.statusID s rn)
    if env.appendWork s rn > 0 then
      let s := env.write s ("> " ++ toString (idx + 1) ++ " processing append thread\n")
      match drainAppend env rn idx fuel s with
      | none => none
      | some (s, some err) => some (s, false, some err)
      | some (s, none) => appendPass fuel nodes s false
    else appendPass fuel nodes s done

/-- Lines 103-105: `for len(rn.ApplyWork) > 0`, processing the apply thread of `idx`. -/
def drainApply (rn : Nat) (idx : Int) : Nat → σ → Option σ
  | 0, _ => none
  | fuel + 1, s =>
    if env.applyWork s rn > 0 then drainApply rn idx fuel (env.processApplyThread s idx)
    else some s

/-- Lines 99-108: every chosen node with apply work drains it. -/
def applyPass (fuel : Nat) : List Nat → σ → Bool → Option (σ × Bool)
  | [], s, done => some (s, done)
  | rn :: nodes, s, done =>
    let idx := nodeIdx (env.statusID s rn)
    if env.applyWork s rn > 0 then
      let s := env.write s ("> " ++ toString (idx + 1) ++ " processing apply thread\n")
      match drainApply env rn idx fuel s with
      | none => none
      | some s => applyPass fuel nodes s false
    else applyPass fuel nodes s done

/-- Lines 61-112: rounds of the four passes until one does nothing. -/
def stabilizeLoop (nodes : List Nat) : Nat → σ → Option (σ × Option GoError)
  | 0, _ => none
  | fuel + 1, s =>
    match readyPass env nodes s true with
    | (s, _, some err) => some (s, some err)
    | (s, done, none) =>
      let (s, done) := deliverPass env isLocalMsgTarget nodes s done
      match appendPass env fuel nodes s done with
      | none => none
      | some (s, _, some err) => some (s, some err)
      | some (s, done, none) =>
        match applyPass env fuel nodes s done with
        | none => none
        | some (s, done) => if done then some (s, none) else stabilizeLoop nodes fuel s

/-- `InteractionEnv.Stabilize(idxs...)`, with `fuel` bounding every loop. -/
def stabilize (fuel : Nat) (idxs : List Nat) (s : σ) : Option (σ × Option GoError) :=
  stabilizeLoop env isLocalMsgTarget (stabilizeNodes env s idxs) fuel s

/-- `datadriven.CmdArg`: a key and its values. -/
structure CmdArg where
  key : String
  vals : List String

/-- Lines 30-42: the inner loop of `handleStabilize`, over the values of one argument
with key `key`.  Returns the state, the levels saved by the deferred restores, most
recent first, and the error of a failed `LogLevel`. -/
def logLevelVals (key : String) : List String → σ → List Int → σ × List Int × Option GoError
  | [], s, defers => (s, defers, none)
  | level :: vals, s, defers =>
    if key = "log-level" then
      -- defer func(old int) { env.Output.Lvl = old }(env.Output.Lvl)
      let defers := env.outputLvl s :: defers
      match env.logLevel s level with
      | (s, some err) => (s, defers, some err)
      | (s, none) => logLevelVals key vals s defers
    else logLevelVals key vals s defers

/-- Lines 29-43: the loop of `handleStabilize` over its arguments. -/
def logLevelArgs : List CmdArg → σ → List Int → σ × List Int × Option GoError
  | [], s, defers => (s, defers, none)
  | arg :: args, s, defers =>
    match logLevelVals env arg.key arg.vals s defers with
    | (s, defers, some err) => (s, defers, some err)
    | (s, defers, none) => logLevelArgs args s defers

/-- The deferred restores, run last-in first-out. -/
def runDefers (s : σ) (defers : List Int) : σ := defers.foldl env.setOutputLvl s

/-- `InteractionEnv.handleStabilize`; `idxs` is what `nodeIdxs(t, d)` returned. -/
def handleStabilize (fuel : Nat) (idxs : List Nat) (args : List CmdArg) (s : σ) :
    Option (σ × Option GoError) :=
  match logLevelArgs env args s [] with
  | (s, defers, some err) => some (runDefers env s defers, some err)
  | (s, defers, none) =>
    (stabilize env isLocalMsgTarget fuel idxs s).map fun (s, err) => (runDefers env s defers, err)

/-! ## Lemmas -/

/-- A ready pass that leaves `done` set handled nothing and found no `Ready`. -/
theorem readyPass_done {nodes : List Nat} {s s' : σ} {done : Bool} {err : Option GoError}
    (h : readyPass env nodes s done = (s', true, err)) :
    done = true ∧ s' = s ∧ err = none ∧ ∀ rn ∈ nodes, env.hasReady s rn = false := by
  induction nodes generalizing s done with
  | nil => cases h; simp
  | cons rn nodes ih =>
    unfold readyPass at h
    dsimp only at h
    split_ifs at h with hr
    · split at h
      · cases h
      · exact absurd (ih h).1 Bool.false_ne_true
    · obtain ⟨rfl, rfl, rfl, hall⟩ := ih h
      exact ⟨rfl, rfl, rfl, List.forall_mem_cons.2 ⟨by simpa using hr, hall⟩⟩

/-- A delivery pass that leaves `done` set delivered nothing and found no message
addressed to a chosen node. -/
theorem deliverPass_done {nodes : List Nat} {s s' : σ} {done : Bool}
    (h : deliverPass env isLocalMsgTarget nodes s done = (s', true)) :
    done = true ∧ s' = s ∧ ∀ rn ∈ nodes,
      (splitMsgs isLocalMsgTarget (env.messages s) (env.statusID s rn) (-1) false).1 = [] := by
  induction nodes generalizing s done with
  | nil => cases h; simp
  | cons rn nodes ih =>
    unfold deliverPass at h
    dsimp only at h
    split_ifs at h with hm
    · exact absurd (ih h).1 Bool.false_ne_true
    · obtain ⟨rfl, rfl, hall⟩ := ih h
      exact ⟨rfl, rfl, List.forall_mem_cons.2 ⟨by simpa using hm, hall⟩⟩

/-- An append pass that leaves `done` set found no append work. -/
theorem appendPass_done {fuel : Nat} {nodes : List Nat} {s s' : σ} {done : Bool}
    {err : Option GoError} (h : appendPass env fuel nodes s done = some (s', true, err)) :
    done = true ∧ s' = s ∧ err = none ∧ ∀ rn ∈ nodes, env.appendWork s rn = 0 := by
  induction nodes generalizing s done with
  | nil => cases h; simp
  | cons rn nodes ih =>
    unfold appendPass at h
    dsimp only at h
    split_ifs at h with hw
    · split at h
      · cases h
      · cases h
      · exact absurd (ih h).1 Bool.false_ne_true
    · obtain ⟨rfl, rfl, rfl, hall⟩ := ih h
      exact ⟨rfl, rfl, rfl, List.forall_mem_cons.2 ⟨by simpa using hw, hall⟩⟩

/-- An apply pass that leaves `done` set found no apply work. -/
theorem applyPass_done {fuel : Nat} {nodes : List Nat} {s s' : σ} {done : Bool}
    (h : applyPass env fuel nodes s done = some (s', true)) :
    done = true ∧ s' = s ∧ ∀ rn ∈ nodes, env.applyWork s rn = 0 := by
  induction nodes generalizing s done with
  | nil => cases h; simp
  | cons rn nodes ih =>
    unfold applyPass at h
    dsimp only at h
    split_ifs at h with hw
    · split at h
      · cases h
      · exact absurd (ih h).1 Bool.false_ne_true
    · obtain ⟨rfl, rfl, hall⟩ := ih h
      exact ⟨rfl, rfl, List.forall_mem_cons.2 ⟨by simpa using hw, hall⟩⟩

/-- What a round that did nothing found, at the state it left unchanged. -/
def Stable (nodes : List Nat) (s : σ) : Prop :=
  ∀ rn ∈ nodes, env.hasReady s rn = false ∧
    (splitMsgs isLocalMsgTarget (env.messages s) (env.statusID s rn) (-1) false).1 = [] ∧
      env.appendWork s rn = 0 ∧ env.applyWork s rn = 0

theorem stabilizeLoop_stable {nodes : List Nat} {fuel : Nat} {s s' : σ}
    (h : stabilizeLoop env isLocalMsgTarget nodes fuel s = some (s', none)) :
    Stable env isLocalMsgTarget nodes s' := by
  induction fuel generalizing s with
  | zero => cases h
  | succ fuel ih =>
    unfold stabilizeLoop at h
    rcases hr : readyPass env nodes s true with ⟨s₁, d₁, _ | err⟩ <;> rw [hr] at h
    · rcases hd : deliverPass env isLocalMsgTarget nodes s₁ d₁ with ⟨s₂, d₂⟩
      rcases ha : appendPass env fuel nodes s₂ d₂ with _ | ⟨s₃, d₃, _ | err⟩
      · simp [hd, ha] at h
      · rcases hp : applyPass env fuel nodes s₃ d₃ with _ | ⟨s₄, _ | _⟩ <;>
          simp only [hd, ha, hp, Bool.false_eq_true, if_false, if_true, Option.some.injEq,
            Prod.mk.injEq, reduceCtorEq] at h
        · exact ih h
        · obtain ⟨rfl, -⟩ := h
          obtain ⟨rfl, rfl, happly⟩ := applyPass_done env hp
          obtain ⟨rfl, rfl, -, happend⟩ := appendPass_done env ha
          obtain ⟨rfl, rfl, hmsgs⟩ := deliverPass_done env isLocalMsgTarget hd
          obtain ⟨-, rfl, -, hready⟩ := readyPass_done env hr
          exact fun rn hrn => ⟨hready rn hrn, hmsgs rn hrn, happend rn hrn, happly rn hrn⟩
      · simp [hd, ha] at h
    · simp at h

/-- The restores leave the level the earliest of them saved, if any. -/
theorem outputLvl_runDefers (s : σ) (defers : List Int) :
    env.outputLvl (runDefers env s defers) = defers.getLast?.getD (env.outputLvl s) := by
  induction defers generalizing s with
  | nil => rfl
  | cons d defers ih =>
    rw [runDefers, List.foldl_cons, ← runDefers, ih, env.outputLvl_setOutputLvl]
    cases defers <;> simp [List.getLast?_cons]

/-- The values of one argument push restores in front of `acc`; the earliest saves the
level on entry, and a `log-level` argument with a value pushes at least one.  Without a
push nothing happened. -/
theorem logLevelVals_defers {key : String} {vals : List String} {s s' : σ}
    {acc defers : List Int} {err : Option GoError}
    (h : logLevelVals env key vals s acc = (s', defers, err)) :
    ∃ pushed, defers = pushed ++ acc ∧ (pushed = [] → s' = s ∧ err = none) ∧
      (pushed ≠ [] → pushed.getLast? = some (env.outputLvl s)) ∧
      (key = "log-level" → vals ≠ [] → pushed ≠ []) := by
  induction vals generalizing s acc with
  | nil => cases h; exact ⟨[], rfl, fun _ => ⟨rfl, rfl⟩, by simp, by simp⟩
  | cons level vals ih =>
    unfold logLevelVals at h
    split_ifs at h with hkey
    · split at h
      · cases h
        exact ⟨[env.outputLvl s], rfl, by simp, by simp, by simp⟩
      · obtain ⟨pushed, rfl, -⟩ := ih h
        exact ⟨pushed ++ [env.outputLvl s], by simp, by simp, by simp, by simp⟩
    · obtain ⟨pushed, rfl, hnil, hlast, -⟩ := ih h
      exact ⟨pushed, rfl, hnil, hlast, fun h => absurd h hkey⟩

/-- Over all arguments: the earliest restore saves the level on entry, and there is one
as soon as some `log-level` argument has a value. -/
theorem logLevelArgs_defers {args : List CmdArg} {s s' : σ} {acc defers : List Int}
    {err : Option GoError} (h : logLevelArgs env args s acc = (s', defers, err)) :
    ∃ pushed, defers = pushed ++ acc ∧
      (pushed ≠ [] → pushed.getLast? = some (env.outputLvl s)) ∧
      ((∃ arg ∈ args, arg.key = "log-level" ∧ arg.vals ≠ []) → pushed ≠ []) := by
  induction args generalizing s acc with
  | nil => cases h; exact ⟨[], rfl, by simp, by simp⟩
  | cons arg args ih =>
    unfold logLevelArgs at h
    rcases hv : logLevelVals env arg.key arg.vals s acc with ⟨s₁, acc₁, _ | e⟩ <;> rw [hv] at h
    · obtain ⟨pushed₁, rfl, hnil, hlast₁, hlog₁⟩ := logLevelVals_defers env hv
      obtain ⟨pushed₂, rfl, hlast₂, hlog₂⟩ := ih h
      refine ⟨pushed₂ ++ pushed₁, by simp, fun hne => ?_, fun ⟨a, ha, hkey, hvals⟩ => ?_⟩
      · by_cases h₁ : pushed₁ = []
        · obtain ⟨rfl, -⟩ := hnil h₁
          simpa [h₁] using hlast₂ (by simpa [h₁] using hne)
        · rw [List.getLast?_append_of_ne_nil _ h₁, hlast₁ h₁]
      · rcases List.mem_cons.1 ha with rfl | ha
        · simp [hlog₁ hkey hvals]
        · simp [hlog₂ ⟨a, ha, hkey, hvals⟩]
    · cases h
      obtain ⟨pushed₁, rfl, hnil, hlast₁, -⟩ := logLevelVals_defers env hv
      exact ⟨pushed₁, rfl, hlast₁, fun _ h₁ => by simpa using (hnil h₁).2⟩

/-- **`Stabilize` returns `nil` only at a fixed point.**  Whatever the environment's
methods do, when `Stabilize` returns `nil` no chosen node has a `Ready` to handle, a
message addressed to it, append work or apply work. -/
theorem stabilize_fixed_point {fuel : Nat} {idxs : List Nat} {s s' : σ}
    (h : stabilize env isLocalMsgTarget fuel idxs s = some (s', none)) :
    ∀ rn ∈ stabilizeNodes env s idxs, env.hasReady s' rn = false ∧
      (∀ m ∈ env.messages s', m.to ≠ env.statusID s' rn) ∧
      env.appendWork s' rn = 0 ∧ env.applyWork s' rn = 0 := by
  intro rn hrn
  obtain ⟨hready, hmsgs, happend, happly⟩ := stabilizeLoop_stable env isLocalMsgTarget h rn hrn
  rw [splitMsgs_all_types, List.filter_eq_nil_iff] at hmsgs
  exact ⟨hready, fun m hm => by simpa using hmsgs m hm, happend, happly⟩

/-- A one-node environment whose state is the node's pending `Ready`s and the output
level: handling a `Ready` consumes one, and `LogLevel` sets the level to 3. -/
def readyCounter : InteractionEnv (Nat × Int) where
  nodeCount _ := 1
  hasReady s _ := decide (0 < s.1)
  statusID _ _ := 1
  appendWork _ _ := 0
  applyWork _ _ := 0
  messages _ := []
  write s _ := s
  processReady s _ := ((s.1 - 1, s.2), none)
  deliverMsgs s _ := s
  processAppendThread s _ := (s, none)
  processApplyThread s _ := s
  logLevel s _ := ((s.1, 3), none)
  outputLvl s := s.2
  setOutputLvl s lvl := (s.1, lvl)
  outputLvl_setOutputLvl _ _ := rfl

theorem stabilize_fixed_point_two_readies :
    stabilize readyCounter (fun _ => false) 5 [] (2, 0) = some ((0, 0), none) ∧
      ∀ rn ∈ stabilizeNodes readyCounter (2, 0) [], readyCounter.hasReady (0, 0) rn = false ∧
        (∀ m ∈ readyCounter.messages (0, 0), m.to ≠ readyCounter.statusID (0, 0) rn) ∧
        readyCounter.appendWork (0, 0) rn = 0 ∧ readyCounter.applyWork (0, 0) rn = 0 :=
  have h : stabilize readyCounter (fun _ => false) 5 [] (2, 0) = some ((0, 0), none) := by decide
  ⟨h, stabilize_fixed_point readyCounter (fun _ => false) h⟩

/-- **`handleStabilize` restores the output level.**  When some `log-level` argument has a
value, the deferred restores leave `env.Output.Lvl` as it was on entry, whatever
`LogLevel` and `Stabilize` did, on success and on error. -/
theorem handleStabilize_restores_outputLvl {fuel : Nat} {idxs : List Nat} {args : List CmdArg}
    {s s' : σ} {err : Option GoError}
    (hlog : ∃ arg ∈ args, arg.key = "log-level" ∧ arg.vals ≠ [])
    (h : handleStabilize env isLocalMsgTarget fuel idxs args s = some (s', err)) :
    env.outputLvl s' = env.outputLvl s := by
  unfold handleStabilize at h
  rcases ha : logLevelArgs env args s [] with ⟨s₁, defers, _ | e⟩ <;> rw [ha] at h
  all_goals
    obtain ⟨pushed, rfl, hlast, hne⟩ := logLevelArgs_defers env ha
    rw [List.append_nil] at *
  · obtain ⟨⟨s₂, e₂⟩, -, hrun⟩ := Option.map_eq_some'.1 h
    cases hrun
    rw [outputLvl_runDefers, hlast (hne hlog)]
    rfl
  · cases h
    rw [outputLvl_runDefers, hlast (hne hlog)]
    rfl

theorem handleStabilize_restores_outputLvl_after_log_level :
    (∃ arg ∈ [(⟨"log-level", ["debug"]⟩ : CmdArg)], arg.key = "log-level" ∧ arg.vals ≠ []) ∧
      handleStabilize readyCounter (fun _ => false) 5 [] [⟨"log-level", ["debug"]⟩] (2, 0) =
        some ((0, 0), none) ∧
      readyCounter.outputLvl (0, 0) = readyCounter.outputLvl (2, 0) :=
  have hlog : ∃ arg ∈ [(⟨"log-level", ["debug"]⟩ : CmdArg)],
      arg.key = "log-level" ∧ arg.vals ≠ [] := ⟨_, List.mem_singleton_self _, rfl, by simp⟩
  have h : handleStabilize readyCounter (fun _ => false) 5 [] [⟨"log-level", ["debug"]⟩] (2, 0) =
      some ((0, 0), none) := by decide
  ⟨hlog, h, handleStabilize_restores_outputLvl readyCounter (fun _ => false) hlog h⟩

end

end Rafttest
