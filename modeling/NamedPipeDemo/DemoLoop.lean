/-
**The loop of the demo client: whether it ends.**

`Client::Start` calls `ReadRequest` as long as `IsGood` holds, that is, until the iteration counter
has reached the number of iterations.  In the mode `STEP_BY_STEP` the counter chooses the demo as
well, and it stands still when a demo needs a handle and the repository gives none: then the client
asks for the same demo again.  With a repository that is empty it does so for ever, since nothing
is sent and nothing is read any more.  The loop is also left, though not by its condition, when a
response makes the parser stop with a fault, or the callback the parser calls: the one that
retrieves an object decodes the string it is given with `CustomClass::Deserialize`.

Here the policy is `Sync` and every send succeeds; the two calls of `rand()` and the outcome of the
read of the response come from a tape.

Main definitions:

* `NamedPipeDemo.DemoClient`, `NamedPipeDemo.loopStep` — the client with its simulator, and one
  round of the loop;
* `NamedPipeDemo.FindsHandle`, `NamedPipeDemo.Decodes` — a round finds the handle it needs, and
  neither the parser nor a callback stops with a fault on its response.

Main results:

* `NamedPipeDemo.run_demoStep_roundEvents` — a round of the loop is a run of `Client::Start`;
* `NamedPipeDemo.onTape_of_emptyRepository` — **without handles the loop stands still**;
* `NamedPipeDemo.stepByStep_ends_iff` — **the loop ends within the given number of calls exactly
  when every call finds its handle, and no response stops the parser or a callback.**
-/

import NamedPipeDemo.DemoAccounting
import NamedPipeDemo.Client

set_option relaxedAutoImplicit false
set_option autoImplicit false

namespace NamedPipeDemo

open LabelledRuns

/-! ### The loop -/

/-- The client, with its simulator. -/
structure DemoClient where
  sim : DemoSimulator
  client : ClientRun DemoCallback

/-- What one round of the loop takes from outside: what `ReadRequest` takes, and what
`ReadDataFromServerSync` returns, without data when it fails. -/
structure RoundInput where
  input : DemoInput := {}
  response : Option RawDataType := none

namespace DemoClient

/-- A client that is connected, and enters the loop. -/
def start (mode : SimulationMode) (iterations : ℕ) (repository : ClassRepository) : DemoClient where
  sim := { mode := mode, iterations := iterations }
  client := { pc := .head, parser := { repository := repository } }

/-- What `ReadRequest` returns in this round. -/
def read (s : DemoClient) (i : RoundInput) : ClientRequest DemoCallback × DemoSimulator :=
  s.sim.readRequest i.input s.client.parser.repository

/-- The client behind the send of a request. -/
def sent (s : DemoClient) (request : ClientRequest DemoCallback) : ClientRun DemoCallback :=
  (s.client.register request).send .sync (requestIdOf (s.client.requestIdCounter + 1)) request
    .success

/-- One round of the loop of `Client::Start`; there is no next round when the parser or a callback
stops with a fault on the response. -/
def round (s : DemoClient) (i : RoundInput) : Option DemoClient :=
  let request := (s.read i).1
  if request.data = [] then some { s with sim := (s.read i).2 }
  else
    match request.waitForResponse, i.response with
    | true, some response =>
        (demoStep (s.sent request) (.readResponse (some response))).map fun client =>
          ⟨(s.read i).2, client⟩
    | _, _ => some ⟨(s.read i).2, { s.sent request with pc := .head }⟩

end DemoClient

/-- **One call of `ReadRequest` in the loop, with what follows it.** -/
def loopStep (s : DemoClient) (i : RoundInput) : Option DemoClient :=
  if s.sim.isGood then s.round i else none

/-! ### The loop is that of the client -/

/-- The events of the client in a round. -/
def DemoClient.roundEvents (s : DemoClient) (i : RoundInput) : List (ClientEvent DemoCallback) :=
  let request := (s.read i).1
  .readRequest request ::
    if request.data = [] then []
    else .send .success :: if request.waitForResponse then [.readResponse i.response] else []

section Events

variable {s : DemoClient} {request : ClientRequest DemoCallback}

/-- The client registers and sends a request. -/
theorem run_demoStep_sent (hpc : s.client.pc = .head) (hdata : request.data ≠ [])
    (hcounter : s.client.requestIdCounter + 1 < 2 ^ 31) (is : List (ClientEvent DemoCallback)) :
    run demoStep s.client (.readRequest request :: .send .success :: is) =
      run demoStep (s.sent request) is := by
  have hread : demoStep s.client (.readRequest request) = some (s.client.register request) := by
    refine demoStep_eq_some.2 ⟨rfl, ?_⟩
    have hempty : request.data.isEmpty = false := by
      rw [Bool.eq_false_iff, ne_eq, List.isEmpty_iff]
      exact hdata
    simp only [clientStep, hpc, hempty, Bool.false_eq_true, if_false, if_pos hcounter]
  rw [run_cons, hread, Option.bind_some, run_cons]
  rfl

/-- Behind a request that waits the client is in its read. -/
theorem DemoClient.sent_pc : (s.sent request).pc =
    if request.waitForResponse = true then .reading (requestIdOf (s.client.requestIdCounter + 1))
    else .head := by
  simp only [sent, ClientRun.send, afterSend, true_and]

/-- **A round of the loop is a run of `Client::Start`.** -/
theorem run_demoStep_roundEvents {i : RoundInput} (hpc : s.client.pc = .head)
    (hcounter : s.client.requestIdCounter + 1 < 2 ^ 31) :
    run demoStep s.client (s.roundEvents i) = (s.round i).map DemoClient.client := by
  unfold DemoClient.roundEvents DemoClient.round
  simp only
  by_cases hdata : (s.read i).1.data = []
  · have hskip : demoStep s.client (.readRequest (s.read i).1) = some s.client := by
      refine demoStep_eq_some.2 ⟨rfl, ?_⟩
      simp only [clientStep, hpc, hdata, List.isEmpty_nil, if_true]
    rw [if_pos hdata, if_pos hdata, run_cons, hskip]
    rfl
  rw [if_neg hdata, if_neg hdata, run_demoStep_sent hpc hdata hcounter]
  have hsent : (s.sent (s.read i).1).pc = _ := s.sent_pc
  cases hwait : (s.read i).1.waitForResponse with
  | false =>
      rw [hwait] at hsent
      have hhead : ({ s.sent (s.read i).1 with pc := .head } : ClientRun DemoCallback) =
          s.sent (s.read i).1 := by
        rw [← show (s.sent (s.read i).1).pc = .head from hsent]
      simp only [Bool.false_eq_true, if_false, Option.map_some, hhead]
      rfl
  | true =>
      rw [hwait, if_pos rfl] at hsent
      rw [if_pos rfl, run_cons]
      cases hresponse : i.response with
      | none =>
          have hfailed : demoStep (s.sent (s.read i).1) (.readResponse none) =
              some { s.sent (s.read i).1 with pc := .head } :=
            demoStep_eq_some.2 ⟨rfl, by simp only [clientStep, hsent]⟩
          rw [hfailed]
          rfl
      | some response =>
          simp only [Option.map_map]
          cases demoStep (s.sent (s.read i).1) (.readResponse (some response)) <;> rfl

end Events

/-! ### When the loop ends -/

/-- A demo that needs a handle gets one from the repository. -/
def FindsHandle (s : DemoClient) (i : RoundInput) : Prop :=
  6 ≤ s.sim.getDemoIndex i.input →
    DemoSimulator.getClassHandleAtRandom i.input.randHandle s.client.parser.repository ≠
      kInvalidClassHandle

/-- If the client reads a response, the parser does not stop with a fault on it, and neither does
the callback it calls. -/
def Decodes (s : DemoClient) (i : RoundInput) : Prop :=
  ∀ response, i.response = some response → (s.read i).1.waitForResponse = true →
    ∃ a, decodeResponse response.1 = .ok a ∧
      (s.sent (s.read i).1).parser.callbackReturns a = true

/-- A simulator in the mode `STEP_BY_STEP` with this many iterations. -/
def StepByStep (iterations : ℕ) (s : DemoClient) : Prop :=
  s.sim.mode = .stepByStep ∧ s.sim.iterations = iterations

section Ends

variable {s s' : DemoClient} {i : RoundInput} {iterations : ℕ}

/-- A round leaves the simulator as `ReadRequest` does. -/
theorem sim_of_round (h : s.round i = some s') : s'.sim = (s.read i).2 := by
  unfold DemoClient.round at h
  simp only at h
  split at h
  · cases h
    rfl
  · split at h
    · obtain ⟨client, _, rfl⟩ := Option.map_eq_some_iff.1 h
      rfl
    · cases h
      rfl

/-- A call of `ReadRequest` counts one iteration when it finds its handle, and none otherwise. -/
theorem currIteration_read (s : DemoClient) (i : RoundInput) :
    (FindsHandle s i ∧ (s.read i).2.currIteration = s.sim.currIteration + 1) ∨
      (¬ FindsHandle s i ∧ (s.read i).2.currIteration = s.sim.currIteration) := by
  unfold FindsHandle
  rcases Int.lt_or_le (s.sim.getDemoIndex i.input) 6 with hlt | hge
  · refine Or.inl ⟨fun hge => absurd hlt (Int.not_lt.2 hge), ?_⟩
    rw [DemoClient.read, DemoSimulator.readRequest_of_plain hlt]
    rfl
  · obtain ⟨request, -, heq⟩ :=
      DemoSimulator.readRequest_of_handle s.client.parser.repository hge
    rw [DemoClient.read, heq]
    by_cases hhandle : DemoSimulator.getClassHandleAtRandom i.input.randHandle
        s.client.parser.repository = kInvalidClassHandle
    · rw [if_pos hhandle]
      exact Or.inr ⟨fun hfinds => hfinds hge hhandle, rfl⟩
    · rw [if_neg hhandle]
      exact Or.inl ⟨fun _ => hhandle, rfl⟩

/-- A request without data does not wait. -/
theorem waitForResponse_of_nil (h : (s.read i).1.data = []) :
    (s.read i).1.waitForResponse = false := by
  rw [DemoClient.read] at h ⊢
  rcases Int.lt_or_le (s.sim.getDemoIndex i.input) 6 with hlt | hge
  · rw [DemoSimulator.readRequest_of_plain hlt] at h ⊢
    have hneg := (DemoSimulator.plainDemo_data_eq_nil_iff hlt).1 h
    unfold DemoSimulator.plainDemo
    split <;> first | rfl | omega
  · obtain ⟨request, hdata, heq⟩ :=
      DemoSimulator.readRequest_of_handle s.client.parser.repository hge
    rw [heq] at h ⊢
    split at h
    · next hhandle => rw [if_pos hhandle]
    · exact absurd h hdata

/-- A client in its read goes on exactly when the parser and the callback return. -/
theorem exists_demoStep_readResponse_iff {client : ClientRun DemoCallback} {id : RequestId}
    (hpc : client.pc = .reading id) (response : RawDataType) :
    (∃ client', demoStep client (.readResponse (some response)) = some client') ↔
      ∃ a, decodeResponse response.1 = .ok a ∧ client.parser.callbackReturns a = true := by
  simp only [demoStep_eq_some, ClientRun.callbackReturns, clientStep, hpc]
  constructor
  · rintro ⟨client', hreturns, hclient⟩
    obtain ⟨t, ht, -⟩ := Option.map_eq_some_iff.1 hclient
    obtain ⟨a, ha, -⟩ := (ClientRun.handleResponse_eq_some _).1 ht
    rw [ha] at hreturns
    exact ⟨a, ha, hreturns⟩
  · rintro ⟨a, ha, hreturns⟩
    rw [ha]
    exact ⟨_, hreturns, Option.map_eq_some_iff.2
      ⟨_, (ClientRun.handleResponse_eq_some _).2 ⟨a, ha, rfl⟩, rfl⟩⟩

/-- There is a next round exactly when neither the parser nor the callback stops. -/
theorem round_isSome_iff : (∃ s', s.round i = some s') ↔ Decodes s i := by
  unfold DemoClient.round Decodes
  simp only
  by_cases hdata : (s.read i).1.data = []
  · rw [if_pos hdata]
    refine iff_of_true ⟨_, rfl⟩ fun response _ hwait => ?_
    rw [waitForResponse_of_nil hdata] at hwait
    cases hwait
  rw [if_neg hdata]
  cases hwait : (s.read i).1.waitForResponse with
  | false => exact iff_of_true ⟨_, rfl⟩ fun _ _ h => by cases h
  | true =>
      cases hresponse : i.response with
      | none => exact iff_of_true ⟨_, rfl⟩ fun _ h => by cases h
      | some response =>
          have hsent : (s.sent (s.read i).1).pc =
              .reading (requestIdOf (s.client.requestIdCounter + 1)) := by
            rw [s.sent_pc, if_pos hwait]
          have hiff := exists_demoStep_readResponse_iff hsent response
          constructor
          · rintro ⟨s', hs'⟩ _ hr -
            cases hr
            obtain ⟨client, hclient, -⟩ := Option.map_eq_some_iff.1 hs'
            exact hiff.1 ⟨client, hclient⟩
          · intro h
            obtain ⟨client, hclient⟩ := hiff.2 (h response rfl rfl)
            exact ⟨_, Option.map_eq_some_iff.2 ⟨client, hclient, rfl⟩⟩

/-- A round that is taken keeps the mode and the number of iterations. -/
theorem StepByStep.step (h : StepByStep iterations s) (hstep : loopStep s i = some s') :
    StepByStep iterations s' := by
  rw [loopStep] at hstep
  split at hstep
  · obtain ⟨hmode, hiterations⟩ : (s.read i).2.mode = _ ∧ (s.read i).2.iterations = _ :=
      DemoSimulator.readRequest_frame
    rw [StepByStep, sim_of_round hstep, hmode, hiterations]
    exact h
  · cases hstep

/-- The iteration counter is a counter of the loop. -/
theorem counter_loopStep (iterations : ℕ) :
    Counter loopStep (StepByStep iterations) (fun s => s.sim.currIteration) iterations where
  keep _ _ _ h hstep := h.step hstep
  below s i s' h hstep := by
    rw [loopStep] at hstep
    split at hstep
    · next hgood => exact h.2 ▸ of_decide_eq_true hgood
    · cases hstep
  raise s i s' h hstep := by
    rw [loopStep] at hstep
    split at hstep
    · rw [sim_of_round hstep]
      rcases currIteration_read s i with ⟨_, heq⟩ | ⟨_, heq⟩ <;> omega
    · cases hstep

/-- **A round raises the counter exactly when it finds its handle, and neither the parser nor the
callback stops on its response.** -/
theorem loopStep_raises_iff (h : StepByStep iterations s)
    (hlt : s.sim.currIteration < iterations) :
    (∃ t, loopStep s i = some t ∧ t.sim.currIteration = s.sim.currIteration + 1) ↔
      FindsHandle s i ∧ Decodes s i := by
  have hgood : s.sim.isGood = true := by
    rw [DemoSimulator.isGood, h.2]
    exact decide_eq_true hlt
  rw [loopStep, if_pos hgood, ← round_isSome_iff]
  constructor
  · rintro ⟨t, ht, heq⟩
    rw [sim_of_round ht] at heq
    rcases currIteration_read s i with ⟨hfinds, _⟩ | ⟨_, hsame⟩
    · exact ⟨hfinds, t, ht⟩
    · omega
  · rintro ⟨hfinds, t, ht⟩
    refine ⟨t, ht, ?_⟩
    rw [sim_of_round ht]
    exact (currIteration_read s i).elim And.right fun hnot => absurd hfinds hnot.1

/-- **Without handles the loop stands still.** -/
theorem round_of_emptyRepository (hge : 6 ≤ s.sim.getDemoIndex i.input)
    (hempty : s.client.parser.repository = []) : s.round i = some s := by
  obtain ⟨request, -, heq⟩ := DemoSimulator.readRequest_of_handle s.client.parser.repository hge
  have hread : s.read i = ({}, s.sim) := by
    rw [DemoClient.read, heq, if_pos]
    rw [hempty]
    rfl
  unfold DemoClient.round
  simp only [hread, if_true]

end Ends

/-- The loop ends within this number of calls of `ReadRequest`. -/
def EndsWithin (n : ℕ) (s : DemoClient) (tape : ℕ → RoundInput) : Prop :=
  ∃ m ≤ n, ∃ s', onTape loopStep s tape m = some s' ∧ s'.sim.isGood = false

/-- **The loop in the mode `STEP_BY_STEP` ends within the given number of calls of `ReadRequest`
exactly when every call that needs a handle finds one, and no response stops the parser, or the
callback it calls, with a fault.** -/
theorem stepByStep_ends_iff (iterations : ℕ) (repository : ClassRepository)
    (tape : ℕ → RoundInput) :
    EndsWithin iterations (.start .stepByStep iterations repository) tape ↔
      ∀ n s, onTape loopStep (.start .stepByStep iterations repository) tape n = some s →
        s.sim.isGood = true → FindsHandle s (tape n) ∧ Decodes s (tape n) := by
  have hcounter := counter_loopStep iterations
  have hstart : StepByStep iterations (.start .stepByStep iterations repository) := ⟨rfl, rfl⟩
  have hinv {n : ℕ} {s : DemoClient}
      (hn : onTape loopStep (.start .stepByStep iterations repository) tape n = some s) :
      StepByStep iterations s := invariant_onTape hcounter.keep hstart hn
  have hgood {n : ℕ} {s : DemoClient}
      (hn : onTape loopStep (.start .stepByStep iterations repository) tape n = some s) :
      s.sim.isGood = true ↔ s.sim.currIteration < iterations := by
    rw [DemoSimulator.isGood, (hinv hn).2, decide_eq_true_iff]
  calc EndsWithin iterations (.start .stepByStep iterations repository) tape
      ↔ ∃ n ≤ iterations, ∃ s,
          onTape loopStep (.start .stepByStep iterations repository) tape n = some s ∧
            iterations ≤ s.sim.currIteration := by
        refine exists_congr fun n => and_congr_right fun _ => exists_congr fun s =>
          and_congr_right fun hn => ?_
        rw [← Bool.not_eq_true, hgood hn, not_lt]
    _ ↔ ∀ n s, onTape loopStep (.start .stepByStep iterations repository) tape n = some s →
          s.sim.currIteration < iterations →
            ∃ t, loopStep s (tape n) = some t ∧ t.sim.currIteration = s.sim.currIteration + 1 :=
        hcounter.finishes_iff hstart rfl
    _ ↔ _ := by
        refine forall₃_congr fun n s hn => ?_
        rw [hgood hn]
        exact forall_congr' fun hlt => loopStep_raises_iff (hinv hn) hlt

/-- **Without handles the loop stands still**: it calls `ReadRequest` for ever. -/
theorem onTape_of_emptyRepository {s : DemoClient} {tape : ℕ → RoundInput} {n : ℕ}
    {t : DemoClient} (hn : onTape loopStep s tape n = some t) (hmode : t.sim.mode = .stepByStep)
    (hindex : 6 ≤ t.sim.currIteration % kTotalDemos) (hgood : t.sim.isGood = true)
    (hempty : t.client.parser.repository = []) (k : ℕ) :
    onTape loopStep s tape (n + k) = some t := by
  induction k with
  | zero => exact hn
  | succ k ih =>
      have hge : 6 ≤ t.sim.getDemoIndex (tape (n + k)).input := by
        rw [DemoSimulator.getDemoIndex, hmode]
        exact Int.ofNat_le.2 hindex
      refine onTape_succ_eq_some.2 ⟨t, ih, ?_⟩
      rw [loopStep, if_pos hgood]
      exact round_of_emptyRepository hge hempty

/-- Every read fails, so that the client learns of no handle: the seventh demo is asked for again
and again. -/
theorem failedReads_never_end :
    ¬ ∀ (iterations : ℕ) (repository : ClassRepository) (tape : ℕ → RoundInput),
        EndsWithin iterations (.start .stepByStep iterations repository) tape := by
  intro h
  obtain ⟨n, hn, s, hs, hdone⟩ := h 7 [] fun _ => {}
  have hgood : ∀ n ≤ 7, (onTape loopStep (.start .stepByStep 7 []) (fun _ => {}) n).map
      (fun s => s.sim.isGood) = some true := by decide
  have hn' := hgood n hn
  rw [hs, Option.map_some, hdone] at hn'
  cases hn'

end NamedPipeDemo
