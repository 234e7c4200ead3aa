import Cockroach.Kvadmission.AdmitKVWork
import Mathlib.Logic.Relation

/-!
# Any number of requests, interleaved

Requests call `AdmitKVWork` and later, at most once, `AdmittedKVWorkDone` on the
handle they got; the queues are shared.  A `Sys` is the queues' outstanding grants
and the requests, each a `Phase` that records the calls it has made.  One `Step` is
one queue call of one request (any answer), a return, a new request, or a request
starting `AdmittedKVWorkDone`: every interleaving of the requests' calls is a run.

A request holds what its own calls obtained and did not give back
(`Phase.holds`).  The invariant `SysInv`: the queues' outstanding grants are the
initial ones plus what each request holds, and each request is where its two spec
lemmas (`admitKVWork_safe`, `admittedKVWorkDone_safe`) put it.  So, in every
reachable state (`requests_hold_every_outstanding_grant`):

* the outstanding grants are exactly those the requests hold, and the next call of
  any request gives back only grants that request holds (no double release);
* a request whose `AdmitKVWork` failed holds nothing: it gave back everything it
  obtained, the store grant with zero bytes, and its handle is `{}`;
* a request whose `AdmitKVWork` succeeded gave nothing back and holds its handle's
  grants, and one `AdmittedKVWorkDone` gives back exactly those.

Hence once every request has finished, the queues hold again exactly what they held at
the start (`outstanding_eq_initial_of_finished`).
-/

namespace Kvadmission

open Prog

/-- Where one request stands, with the calls it has made and their answers. -/
inductive Phase
  /-- inside `AdmitKVWork`, `p` being the rest of it -/
  | admitting (p : Prog (Handle × Option GoError)) (calls : List Event)
  /-- `AdmitKVWork` returned `(ah, err)` -/
  | admitted (ah : Handle) (err : Option GoError) (calls : List Event)
  /-- inside `AdmittedKVWorkDone ah`, `p` being the rest of it -/
  | completing (ah : Handle) (err : Option GoError) (admitCalls : List Event) (p : Prog Unit)
      (calls : List Event)
  /-- `AdmittedKVWorkDone ah` returned -/
  | completed (ah : Handle) (err : Option GoError) (admitCalls calls : List Event)

/-- Every call the request has made. -/
def Phase.calls : Phase → List Event
  | .admitting _ calls | .admitted _ _ calls => calls
  | .completing _ _ admitCalls _ calls | .completed _ _ admitCalls calls => admitCalls ++ calls

/-- The grants a request holds: what its calls obtained and did not give back. -/
def Phase.holds (q : Phase) : Multiset Grant := heldAfter 0 q.calls

/-- The call a request makes next, if it is inside a controller method. -/
def Phase.nextCall : Phase → Option Call
  | .admitting (.call c _) _ | .completing _ _ _ (.call c _) _ => some c
  | _ => none

/-- The shared queues and the requests using them. -/
structure Sys where
  outstanding : Multiset Grant
  requests : List Phase

/-- One step of one request. -/
inductive Step : Sys → Sys → Prop
  /-- a new request calls `AdmitKVWork` -/
  | start {G : Multiset Grant} {reqs : List Phase} (n : Controller) (tenantID : TenantID)
      (ba : BatchRequest) (now : BitVec 64) :
      Step ⟨G, reqs⟩ ⟨G, reqs ++ [.admitting (admitKVWork n tenantID ba now) []]⟩
  /-- inside `AdmitKVWork`, a queue call answered `r` -/
  | admitCall {G : Multiset Grant} {pre post : List Phase} {c : Call}
      {k : c.Ret → Prog (Handle × Option GoError)} {calls : List Event} (r : c.Ret) :
      Step ⟨G, pre ++ .admitting (.call c k) calls :: post⟩
        ⟨G - c.releases + c.obtains r, pre ++ .admitting (k r) (calls ++ [⟨c, r⟩]) :: post⟩
  /-- `AdmitKVWork` returns -/
  | admitReturn {G : Multiset Grant} {pre post : List Phase} {res : Handle × Option GoError}
      {calls : List Event} :
      Step ⟨G, pre ++ .admitting (.ret res) calls :: post⟩
        ⟨G, pre ++ .admitted res.1 res.2 calls :: post⟩
  /-- the request calls `AdmittedKVWorkDone` on its handle -/
  | done {G : Multiset Grant} {pre post : List Phase} {ah : Handle} {err : Option GoError}
      {calls : List Event} (writeBytes : Option StoreWriteBytes) :
      Step ⟨G, pre ++ .admitted ah err calls :: post⟩
        ⟨G, pre ++ .completing ah err calls (admittedKVWorkDone ah writeBytes) [] :: post⟩
  /-- inside `AdmittedKVWorkDone`, a queue call answered `r` -/
  | doneCall {G : Multiset Grant} {pre post : List Phase} {ah : Handle} {err : Option GoError}
      {admitCalls : List Event} {c : Call} {k : c.Ret → Prog Unit} {calls : List Event}
      (r : c.Ret) :
      Step ⟨G, pre ++ .completing ah err admitCalls (.call c k) calls :: post⟩
        ⟨G - c.releases + c.obtains r,
          pre ++ .completing ah err admitCalls (k r) (calls ++ [⟨c, r⟩]) :: post⟩
  /-- `AdmittedKVWorkDone` returns -/
  | doneReturn {G : Multiset Grant} {pre post : List Phase} {ah : Handle} {err : Option GoError}
      {admitCalls calls : List Event} :
      Step ⟨G, pre ++ .completing ah err admitCalls (.ret ()) calls :: post⟩
        ⟨G, pre ++ .completed ah err admitCalls calls :: post⟩

/-- The states reachable from outstanding grants `G₀` and no request. -/
def Reachable (G₀ : Multiset Grant) (s : Sys) : Prop := Relation.ReflTransGen Step ⟨G₀, []⟩ s

/-- What one `AdmittedKVWorkDone ah` that made the calls `evs` guarantees. -/
def DonePost (ah : Handle) (evs : List Event) : Prop := obtained evs = 0 ∧ released evs = ah.grants

/-- Where the spec lemmas put a request. -/
def Phase.Inv : Phase → Prop
  | .admitting p calls => p.Safe (heldAfter 0 calls) fun res evs => AdmitPost res (calls ++ evs)
  | .admitted ah err calls => AdmitPost (ah, err) calls
  | .completing ah err admitCalls p calls =>
      AdmitPost (ah, err) admitCalls ∧
        p.Safe (heldAfter 0 (admitCalls ++ calls)) fun _ evs => DonePost ah (calls ++ evs)
  | .completed ah err admitCalls calls => AdmitPost (ah, err) admitCalls ∧ DonePost ah calls

/-- The invariant of the interleaved requests. -/
def SysInv (G₀ : Multiset Grant) (s : Sys) : Prop :=
  s.outstanding = G₀ + (s.requests.map Phase.holds).sum ∧
    ∀ q ∈ s.requests, q.Inv ∧ q.holds + released q.calls = obtained q.calls

/-! ## Lemmas -/

/-- Giving back `R` from one request's holdings `h` and obtaining `O` changes the sum
of all holdings the same way. -/
theorem outstanding_call {G₀ A B h R O : Multiset Grant} (hR : R ≤ h) :
    G₀ + (A + (h + B)) - R + O = G₀ + (A + (h - R + O + B)) := by
  have hh : h - R + R = h := tsub_add_cancel_of_le hR
  generalize h - R = h' at hh
  subst hh
  rw [show G₀ + (A + (h' + R + B)) = G₀ + (A + (h' + B)) + R by abel, add_tsub_cancel_right]
  abel

theorem holds_call {calls : List Event} {c : Call} {r : c.Ret}
    (hR : c.releases ≤ heldAfter 0 calls)
    (h : heldAfter 0 calls + released calls = obtained calls) :
    heldAfter 0 (calls ++ [⟨c, r⟩]) + released (calls ++ [⟨c, r⟩]) =
      obtained (calls ++ [⟨c, r⟩]) := by
  have hh := tsub_add_cancel_of_le hR
  simp only [heldAfter_append, heldAfter_cons, heldAfter_nil, released_append, released_cons,
    released_nil, obtained_append, obtained_cons, obtained_nil, add_zero, ← h]
  generalize heldAfter 0 calls - c.releases = h' at hh
  rw [← hh]
  abel

/-- After `AdmitKVWork` returns, the request holds exactly its handle's grants. -/
theorem holds_of_admitPost {ah : Handle} {err : Option GoError} {calls : List Event}
    (hpost : AdmitPost (ah, err) calls) (h : heldAfter 0 calls + released calls = obtained calls) :
    heldAfter 0 calls = ah.grants := by
  cases err with
  | none => simpa [hpost.1, hpost.2] using h
  | some e =>
    obtain ⟨rfl, hro, -⟩ := hpost
    simpa [hro] using h

theorem sysInv_replace {G₀ G : Multiset Grant} {pre post : List Phase} {q q' : Phase}
    (hs : SysInv G₀ ⟨G, pre ++ q :: post⟩) (hq' : q'.Inv ∧ q'.holds + released q'.calls = obtained q'.calls)
    (hG : G₀ + ((pre ++ q' :: post).map Phase.holds).sum = G') :
    SysInv G₀ ⟨G', pre ++ q' :: post⟩ := by
  refine ⟨hG.symm, fun p hp => ?_⟩
  rcases List.mem_append.1 hp with hp | hp
  · exact hs.2 p (List.mem_append_left _ hp)
  · rcases List.mem_cons.1 hp with rfl | hp
    · exact hq'
    · exact hs.2 p (List.mem_append_right _ (List.mem_cons_of_mem _ hp))

section
variable {G₀ G : Multiset Grant} {pre post : List Phase} {q q' : Phase}

/-- The request at the focus of a step is where its spec lemmas put it. -/
theorem SysInv.focus (hs : SysInv G₀ ⟨G, pre ++ q :: post⟩) :
    q.Inv ∧ q.holds + released q.calls = obtained q.calls :=
  hs.2 q (List.mem_append_right _ (List.mem_cons_self _ _))

/-- A step that makes no call keeps the invariant, once the request is where its spec
lemmas put it. -/
theorem SysInv.replace_same (hs : SysInv G₀ ⟨G, pre ++ q :: post⟩)
    (hcalls : q'.calls = q.calls) (hq' : q'.Inv) : SysInv G₀ ⟨G, pre ++ q' :: post⟩ :=
  sysInv_replace hs ⟨hq', by simpa only [Phase.holds, hcalls] using hs.focus.2⟩
    (by simpa [Phase.holds, hcalls] using hs.1.symm)

/-- A queue call by one request moves the outstanding grants as it moves that request's
holdings. -/
theorem SysInv.call {c : Call} {r : c.Ret} (hs : SysInv G₀ ⟨G, pre ++ q :: post⟩)
    (hR : c.releases ≤ q.holds) (hcalls : q'.calls = q.calls ++ [⟨c, r⟩]) (hq' : q'.Inv) :
    SysInv G₀ ⟨G - c.releases + c.obtains r, pre ++ q' :: post⟩ := by
  have hrel := @holds_call q.calls c r hR hs.focus.2
  refine sysInv_replace hs ⟨hq', by simpa only [Phase.holds, hcalls] using hrel⟩ ?_
  have hG := hs.1
  dsimp only at hG
  rw [hG]
  simp only [List.map_append, List.map_cons, List.sum_append, List.sum_cons, Phase.holds, hcalls,
    heldAfter_append, heldAfter_cons, heldAfter_nil]
  exact (outstanding_call hR).symm

end

/-- One step keeps the invariant. -/
theorem Step.sysInv {G₀ : Multiset Grant} {s s' : Sys} (h : Step s s') (hs : SysInv G₀ s) :
    SysInv G₀ s' := by
  cases h with
  | start n tenantID ba now =>
    refine ⟨by simpa [Phase.holds, Phase.calls] using hs.1, fun q hq => ?_⟩
    rcases List.mem_append.1 hq with hq | hq
    · exact hs.2 q hq
    · rw [List.mem_singleton.1 hq]
      exact ⟨(admitKVWork_safe n tenantID ba now).mono fun res evs h => by simpa using h,
        by simp [Phase.holds, Phase.calls]⟩
  | admitCall r =>
    obtain ⟨hsafe, -⟩ := hs.focus
    exact hs.call hsafe.1 rfl (by simpa [Phase.Inv, heldAfter_append] using hsafe.2 r)
  | admitReturn => exact hs.replace_same rfl (by simpa [Phase.Inv] using hs.focus.1)
  | done writeBytes =>
    obtain ⟨hpost, hrel⟩ := hs.focus
    exact hs.replace_same (List.append_nil _) ⟨hpost,
      by simpa [holds_of_admitPost hpost hrel] using admittedKVWorkDone_safe _ writeBytes⟩
  | doneCall r =>
    obtain ⟨⟨hpost, hsafe⟩, -⟩ := hs.focus
    exact hs.call hsafe.1 (List.append_assoc _ _ _).symm
      ⟨hpost, by simpa [heldAfter_append] using hsafe.2 r⟩
  | doneReturn =>
    obtain ⟨⟨hpost, hsafe⟩, -⟩ := hs.focus
    exact hs.replace_same rfl ⟨hpost, by simpa using hsafe⟩

/-- A request inside `AdmitKVWork` that runs to its end while no other request moves. -/
theorem admitting_runs {G : Multiset Grant} {reqs : List Phase} {p : Prog (Handle × Option GoError)}
    {calls evs : List Event} {res : Handle × Option GoError} (hr : p.Runs evs res) :
    Relation.ReflTransGen Step ⟨G, reqs ++ [.admitting p calls]⟩
      ⟨heldAfter G evs, reqs ++ [.admitted res.1 res.2 (calls ++ evs)]⟩ := by
  induction hr generalizing G calls with
  | ret a => simpa using Relation.ReflTransGen.single (@Step.admitReturn G reqs [] a calls)
  | @call c k evs a r _ ih =>
    rw [List.append_cons calls]
    exact .head (@Step.admitCall G reqs [] _ _ calls r) ih

/-- A new request whose `AdmitKVWork` runs alone, with the calls `evs`, leaves the queues
with `heldAfter G evs`. -/
theorem Reachable.admitKVWork_runs {G₀ G G' : Multiset Grant} {reqs : List Phase} (n : Controller)
    (tenantID : TenantID) (ba : BatchRequest) (now : BitVec 64) {evs : List Event} {ah : Handle}
    {err : Option GoError} (hs : Reachable G₀ ⟨G, reqs⟩)
    (hr : (admitKVWork n tenantID ba now).Runs evs (ah, err)) (hG : heldAfter G evs = G') :
    Reachable G₀ ⟨G', reqs ++ [.admitted ah err evs]⟩ :=
  hG ▸ hs.trans (.head (Step.start n tenantID ba now) (by simpa using @admitting_runs G reqs _ [] _ _ hr))

/-- The invariant holds in every reachable state. -/
theorem Reachable.sysInv {G₀ : Multiset Grant} {s : Sys} (h : Reachable G₀ s) : SysInv G₀ s := by
  induction h with
  | refl => exact ⟨by simp, by simp⟩
  | tail _ hstep ih => exact hstep.sysInv ih

/-- The grant accounting of a state: the outstanding grants are exactly those the
requests hold (beyond the initial `G₀`); the next call of a request gives back only
grants it holds; what a request holds plus what it gave back is what it obtained;
a request whose `AdmitKVWork` returned is where `AdmitPost` puts it (holding nothing,
with the handle `{}`, on error; holding the handle's grants otherwise); and one
`AdmittedKVWorkDone` gave back exactly the handle's grants. -/
def GrantsAccounted (G₀ : Multiset Grant) (s : Sys) : Prop :=
  s.outstanding = G₀ + (s.requests.map Phase.holds).sum ∧
    (∀ q ∈ s.requests, ∀ c, q.nextCall = some c → c.releases ≤ q.holds) ∧
    (∀ q ∈ s.requests, q.holds + released q.calls = obtained q.calls) ∧
    (∀ ah err calls, .admitted ah err calls ∈ s.requests → AdmitPost (ah, err) calls) ∧
    (∀ ah err admitCalls calls, .completed ah err admitCalls calls ∈ s.requests →
      AdmitPost (ah, err) admitCalls ∧ DonePost ah calls)

/-- **No grant is leaked or given back twice**, whatever the queues answer and however
the calls of any number of requests interleave. -/
theorem requests_hold_every_outstanding_grant {G₀ : Multiset Grant} {s : Sys}
    (hs : Reachable G₀ s) : GrantsAccounted G₀ s := by
  obtain ⟨hG, hreq⟩ := hs.sysInv
  refine ⟨hG, fun q hq c hc => ?_, fun q hq => (hreq q hq).2, fun ah err calls hq => (hreq _ hq).1,
    fun ah err admitCalls calls hq => (hreq _ hq).1⟩
  have hinv := (hreq q hq).1
  rcases q with p | _ | ⟨_, _, _, p⟩ | _ <;> (try cases p) <;> simp [Phase.nextCall] at hc
  · subst hc; exact hinv.1
  · subst hc; exact hinv.2.1

/-- `storeWrite` admitted by store 1's queue, with admission enabled, and by the KV
work queue: the request holds both grants. -/
theorem requests_hold_every_outstanding_grant_store_and_kv :
    Reachable 0 ⟨{.store ⟨1⟩ ⟨0, true⟩, .kv ⟨2⟩}, [] ++ [.admitted
      { tenantID := ⟨2⟩, storeAdmissionQ := some ⟨1⟩, storeWorkHandle := ⟨0, true⟩,
        callAdmittedWorkDoneOnKVAdmissionQ := true } none storeAdmittedCalls]⟩ ∧
    GrantsAccounted 0 ⟨{.store ⟨1⟩ ⟨0, true⟩, .kv ⟨2⟩}, [] ++ [.admitted
      { tenantID := ⟨2⟩, storeAdmissionQ := some ⟨1⟩, storeWorkHandle := ⟨0, true⟩,
        callAdmittedWorkDoneOnKVAdmissionQ := true } none storeAdmittedCalls]⟩ :=
  have h : Reachable 0 ⟨{.store ⟨1⟩ ⟨0, true⟩, .kv ⟨2⟩}, [] ++ [.admitted
      { tenantID := ⟨2⟩, storeAdmissionQ := some ⟨1⟩, storeWorkHandle := ⟨0, true⟩,
        callAdmittedWorkDoneOnKVAdmissionQ := true } none storeAdmittedCalls]⟩ :=
    Reachable.admitKVWork_runs storeController ⟨2⟩ storeWrite 7 .refl (.call _ (.call _ (.ret _)))
      (by decide)
  ⟨h, requests_hold_every_outstanding_grant h⟩

/-- A request with nothing left to do: its `AdmitKVWork` failed, or its
`AdmittedKVWorkDone` returned. -/
def Phase.Finished : Phase → Prop
  | .admitted _ err _ => err.isSome
  | .completed .. => True
  | .admitting .. | .completing .. => False

/-- A finished request holds nothing. -/
theorem Phase.holds_eq_zero {q : Phase} (hf : q.Finished) (hinv : q.Inv)
    (hrel : q.holds + released q.calls = obtained q.calls) : q.holds = 0 := by
  rcases q with _ | ⟨ah, _ | err, calls⟩ | _ | ⟨ah, _ | err, admitCalls, calls⟩
  · exact hf.elim
  · simp [Phase.Finished] at hf
  · exact add_left_eq_self.1 (hrel.trans hinv.2.1.symm)
  · exact hf.elim
  · obtain ⟨⟨hrel₀, hob₀⟩, hob, hrel₁⟩ := hinv
    simp only [Phase.calls, released_append, obtained_append, hrel₀, hob₀, hob, hrel₁, zero_add,
      add_zero] at hrel
    exact add_left_eq_self.1 hrel
  · obtain ⟨⟨rfl, hrel₀, -⟩, hob, hrel₁⟩ := hinv
    simp only [Phase.calls, released_append, obtained_append, hrel₀, hob, hrel₁,
      Handle.grants_empty, add_zero] at hrel
    exact add_left_eq_self.1 hrel

/-- **Every grant comes back.**  Once every request has finished, the queues' outstanding
grants are those they started with, whatever the queues answered and however the calls
interleaved. -/
theorem outstanding_eq_initial_of_finished {G₀ : Multiset Grant} {s : Sys} (hs : Reachable G₀ s)
    (hfin : ∀ q ∈ s.requests, q.Finished) : s.outstanding = G₀ := by
  obtain ⟨hG, hreq⟩ := hs.sysInv
  rw [hG, List.sum_eq_zero, add_zero]
  simp only [List.mem_map]
  rintro _ ⟨q, hq, rfl⟩
  exact Phase.holds_eq_zero (hfin q hq) (hreq q hq).1 (hreq q hq).2

/-- `storeWrite` admitted by store 1's queue, with admission enabled, then refused by the
KV work queue: the store grant it obtained is back. -/
theorem outstanding_eq_initial_after_store_rollback :
    obtained storeRolledBackCalls = {.store ⟨1⟩ ⟨0, true⟩} ∧
      Reachable 0 ⟨0, [] ++ [.admitted {} (some ⟨"busy"⟩) storeRolledBackCalls]⟩ ∧
      (∀ q ∈ ([] ++ [.admitted {} (some ⟨"busy"⟩) storeRolledBackCalls] : List Phase), q.Finished) ∧
      (0 : Multiset Grant) = 0 :=
  have h : Reachable 0 ⟨0, [] ++ [.admitted {} (some ⟨"busy"⟩) storeRolledBackCalls]⟩ :=
    Reachable.admitKVWork_runs storeController ⟨2⟩ storeWrite 7 .refl
      (.call _ (.call _ (.call _ (.ret _)))) (by decide)
  have hfin : ∀ q ∈ ([] ++ [.admitted {} (some ⟨"busy"⟩) storeRolledBackCalls] : List Phase),
      q.Finished := by simp [Phase.Finished]
  ⟨by decide, h, hfin, outstanding_eq_initial_of_finished h hfin⟩

end Kvadmission
