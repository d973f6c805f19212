/-
**Every demo of a `Sync` client is completed.**

A simulator in the mode `STEP_BY_STEP` goes through its demos in order.  Nothing in its loop says
that it ends: a demo that needs a handle is tried again, uncounted, while the repository is empty,
and a client that waits for a response waits as long as the server lets it.  In the system it does
end.  The first demos create objects, and a `Sync` client has read the response to each before it
goes on, so that a handle is there when the first demo asks for one; its thread on the server can
always go on; and no callback stops with a fault on what the server has written.  No call on a pipe
fails here: a client whose reads fail learns of no handle.

What a client and its thread do is charged to an account that its simulator opens with eight steps
for each demo.  Every turn of the client or of its thread takes from the account, nobody else's turn
touches it, and as long as it is not used up one of the two can move.

Main definitions:

* `NamedPipeDemo.DemoInv` — what holds of a client that goes through its demos in order;
* `NamedPipeDemo.DemoMove` — the turns of such a client;
* `NamedPipeDemo.Session.rest`, `NamedPipeDemo.ThreadedSystem.account` — the account.

Main results:

* `NamedPipeDemo.DemoInv.clientTurn` — every turn of the client keeps what holds of it;
* `NamedPipeDemo.DemoRun.lowers`, `NamedPipeDemo.DemoRun.enabled` — every turn takes from the
  account, and while there is something left there is a turn;
* `NamedPipeDemo.demo_completes` — **every demo is completed, whatever the others do.**
-/

import NamedPipeDemo.DemoAccounting
import NamedPipeDemo.ThreadedSystem

set_option relaxedAutoImplicit false
set_option autoImplicit false

namespace NamedPipeDemo

open LabelledRuns

/-! ### A client that goes through its demos in order -/

/-- The client is at a demo that creates an object: it sends the request, or waits. -/
def ClientRun.Creating (s : ClientRun DemoCallback) : Prop :=
  ∃ id request, (id, request) ∈ s.reads ∧ request.successCallback = some .onCustomClassCreation ∧
    (s.pc = .sending id request ∧ request.waitForResponse = true ∨ s.pc = .reading id)

/-- The client sends the request with this id, or waits for its response. -/
def ClientPc.At {κ : Type} (id : RequestId) : ClientPc κ → Prop
  | .sending id' _ => id' = id
  | .reading id' => id' = id
  | _ => False

/-- **What holds of a client that goes through `n` demos in order**: it has read as many requests as
it has counted, it has a handle once it is past the first demo that creates an object, and it has an
answer to every request that asks for one, but the one it is at. -/
structure DemoInv (n : ℕ) (p : Session) : Prop where
  mode : p.sim.mode = .stepByStep
  iterations : p.sim.iterations = n
  le : p.sim.currIteration ≤ n
  counter : p.client.requestIdCounter = p.sim.currIteration
  object : 4 ≤ p.sim.currIteration → p.client.parser.repository ≠ [] ∨ p.client.Creating
  answered : ∀ x ∈ p.client.reads, x.2.waitForResponse = true →
    x.1 ∈ p.client.answered ∨ p.client.pc.At x.1
  returned : ∀ b, p.client.pc = .returned b → b = true ∧ p.sim.currIteration = n

/-- **The turns of such a client.** -/
inductive DemoMove (p : Session) : Session → Prop
  | connect {k : ℕ} (hpc : p.client.pc = .connecting k) :
      DemoMove p { p with client := { p.client with pc := .head } }
  | read {request : ClientRequest DemoCallback} (hpc : p.client.pc = .head)
      (hgood : p.sim.currIteration < p.sim.iterations)
      (hcreate : p.sim.currIteration = 3 → request = DemoSimulator.plainDemo 3) :
      DemoMove p { p with sim := p.sim.counted, client := p.client.register request }
  | finish (hpc : p.client.pc = .head) (hend : ¬ p.sim.currIteration < p.sim.iterations) :
      DemoMove p { p with client := { p.client with pc := .returned true } }
  | send {id : RequestId} {request : ClientRequest DemoCallback}
      (hpc : p.client.pc = .sending id request) :
      DemoMove p { p with
        client := p.client.send .sync id request .success
        toServer := p.toServer ++ [frameRequest id request.data] }
  | receive {id : RequestId} {request : ClientRequest DemoCallback} {v : AnyValue}
      (hpc : p.client.pc = .reading id) (hread : (id, request) ∈ p.client.reads)
      (hopen : id ∉ p.client.answered) (hexpects : Expects request (some v)) :
      DemoMove p { p with
        client := { p.client.answer DemoCallback.onSuccess (.deliver id v) with pc := .head }
        toClient := p.toClient.drop kBufSize }

section Client

variable {n : ℕ} {w : ServerState} {p p' : Session} {input : DemoInput}

/-- A handle of a repository that is not empty is chosen. -/
theorem DemoSimulator.getClassHandleAtRandom_ne {rand : ℕ} {repository : ClassRepository}
    (hne : repository ≠ []) (hvalid : kInvalidClassHandle ∉ repository) :
    getClassHandleAtRandom rand repository ≠ kInvalidClassHandle := by
  have hlen : repository.length ≠ 0 := fun hzero => hne (List.length_eq_zero_iff.1 hzero)
  have hlt : rand % repository.length < repository.length :=
    Nat.mod_lt _ (Nat.pos_of_ne_zero hlen)
  rw [getClassHandleAtRandom, if_neg hlen, List.getElem?_eq_getElem hlt, Option.getD_some]
  exact fun heq => hvalid (heq ▸ List.getElem_mem hlt)

/-- A client at the head of its loop reads a request with data, and counts it. -/
theorem DemoInv.readRequest (h : DemoInv n p) (hpc : p.client.pc = .head)
    (hvalid : kInvalidClassHandle ∉ p.client.parser.repository) (input : DemoInput) :
    ∃ request, p.sim.readRequest input p.client.parser.repository = (request, p.sim.counted) ∧
      request.data ≠ [] ∧ (p.sim.currIteration = 3 → request = DemoSimulator.plainDemo 3) := by
  have hindex : p.sim.getDemoIndex input = (p.sim.currIteration % 11 : ℕ) := by
    rw [DemoSimulator.getDemoIndex, h.mode]
    rfl
  rcases Int.lt_or_le (p.sim.getDemoIndex input) 6 with hlt | hge
  · refine ⟨_, DemoSimulator.readRequest_of_plain hlt, ?_, fun hthree => ?_⟩
    · rw [ne_eq, DemoSimulator.plainDemo_data_eq_nil_iff hlt]
      omega
    · rw [hindex, hthree]
      rfl
  · obtain ⟨request, hdata, heq⟩ :=
      DemoSimulator.readRequest_of_handle p.client.parser.repository hge
    -- the client is past the first objects, and does not wait for one
    have hne : p.client.parser.repository ≠ [] := by
      refine (h.object (by omega)).resolve_right ?_
      rintro ⟨id, request, -, -, ⟨hsending, -⟩ | hreading⟩
      · rw [hpc] at hsending
        cases hsending
      · rw [hpc] at hreading
        cases hreading
    rw [if_neg (DemoSimulator.getClassHandleAtRandom_ne hne hvalid)] at heq
    exact ⟨request, heq, hdata, fun hthree => by omega⟩

/-- **Every turn is one of the moves.** -/
theorem demoMove_of_turn (h : DemoInv n p) (hs : SessionInv w p)
    (hvalid : kInvalidClassHandle ∉ p.client.parser.repository)
    (hturn : p.clientTurn input = some p') : DemoMove p p' := by
  obtain ⟨i, client, hi, hstep, rfl⟩ := Session.exists_clientStep hturn
  have hmove := clientMove_of_step hstep
  cases hpc : p.client.pc with
  | connecting k =>
      simp only [Session.event, hpc, Option.some.injEq] at hi
      subst hi
      cases hmove with
      | connect _ =>
          simp only [Session.exchange, hpc]
          exact .connect hpc
  | head =>
      simp only [Session.event, hpc] at hi
      simp only [Session.exchange, hpc]
      obtain ⟨request, hread, hdata, hcreate⟩ := h.readRequest hpc hvalid input
      split at hi
      · next hgo =>
          cases hi
          rw [if_pos hgo, hread]
          rw [hread] at hmove
          cases hmove with
          | skip _ hnil => exact absurd hnil hdata
          | register _ _ _ => exact .read hpc (of_decide_eq_true hgo) hcreate
      · next hend =>
          cases hi
          rw [if_neg hend]
          cases hmove with
          | finish _ => exact .finish hpc fun hlt => hend (decide_eq_true hlt)
  | sending id request =>
      simp only [Session.event, hpc, Option.some.injEq] at hi
      subst hi
      cases hmove with
      | @send _ id' request' hpc' =>
          rw [hpc, ClientPc.sending.injEq] at hpc'
          obtain ⟨rfl, rfl⟩ := hpc'
          simp only [Session.exchange, hpc]
          exact .send hpc
  | reading id =>
      simp only [Session.event, hpc] at hi
      split at hi
      · cases hi
      next hne =>
      cases hi
      obtain ⟨m, v, rfl, hr⟩ := hs.traffic.read hpc hne
      cases hmove with
      | @read _ _ a _ hdec =>
          rw [hr.decodes, Except.ok.injEq] at hdec
          subst hdec
          simp only [Session.exchange, hpc]
          exact .receive hpc hr.good.read hr.unanswered hr.expects
  | returned result =>
      simp only [Session.event, hpc] at hi
      cases hi

theorem DemoInv.congr (h : DemoInv n p) (hsim : p'.sim = p.sim) (hclient : p'.client = p.client) :
    DemoInv n p' := by
  obtain ⟨hmode, hiterations, hle, hcounter, hobject, hanswered, hreturned⟩ := h
  constructor <;> simp only [hsim, hclient] <;> assumption

/-- A callback does not empty the repository. -/
theorem DemoCallback.onSuccess_ne_nil {callback : DemoCallback} {v : AnyValue}
    {repository : ClassRepository} (hne : repository ≠ []) :
    onSuccess callback v repository ≠ [] := by
  rw [onSuccess_eq]
  split
  · rw [ClassRepository.registerClassHandle]
    split
    · exact hne
    · exact List.append_ne_nil_of_left_ne_nil hne _
  · exact hne

/-- Behind the response to a request that creates an object, the repository has a handle. -/
theorem DemoCallback.onSuccess_creation_ne_nil {v : AnyValue} (repository : ClassRepository)
    (hcasts : onCustomClassCreation.Casts v) :
    onSuccess onCustomClassCreation v repository ≠ [] := by
  cases v with
  | int handle =>
      show repository.registerClassHandle handle ≠ []
      rw [ClassRepository.registerClassHandle]
      split
      · next hmem => exact List.ne_nil_of_mem hmem
      · exact List.append_ne_nil_of_right_ne_nil _ (List.cons_ne_nil _ _)
  | _ => exact absurd hcasts id

/-- The repository behind the response to a request that was read and is open. -/
theorem ClientInv.repository_answer {s : ClientRun DemoCallback} (h : ClientInv s)
    {id : RequestId} {request : ClientRequest DemoCallback} {callback : DemoCallback} {v : AnyValue}
    (hread : (id, request) ∈ s.reads) (hopen : id ∉ s.answered)
    (hcallback : request.successCallback = some callback) :
    (s.answer DemoCallback.onSuccess (.deliver id v)).parser.repository =
      callback.onSuccess v s.parser.repository := by
  simp only [ClientRun.answer, ResponseAction.perform, ClientState.notify, h.lookup hread hopen,
    ClientRequest.handleSuccess, hcallback]

/-- The id of a request that was read becomes an answered one. -/
theorem ClientRun.answered_answer {s : ClientRun DemoCallback} {id : RequestId} {v : AnyValue}
    (hread : id ∈ s.readIds) :
    (s.answer DemoCallback.onSuccess (.deliver id v)).answered = id :: s.answered ∧
      (s.answer DemoCallback.onSuccess (.deliver id v)).requestIdCounter = s.requestIdCounter := by
  simp only [answer, record, if_pos hread]
  exact ⟨trivial, trivial⟩

/-- A client that is at no request does not create an object. -/
theorem ClientRun.Creating.exists_at {s : ClientRun DemoCallback} (h : s.Creating) :
    ∃ id, s.pc.At id := by
  obtain ⟨id, request, -, -, ⟨hpc, -⟩ | hpc⟩ := h
  · exact ⟨id, by rw [hpc]; rfl⟩
  · exact ⟨id, by rw [hpc]; rfl⟩

/-- A client that is at no request has its handle, and its answers. -/
theorem DemoInv.between (h : DemoInv n p) (hidle : ∀ id, ¬ p.client.pc.At id) :
    (4 ≤ p.sim.currIteration → p.client.parser.repository ≠ []) ∧
      ∀ x ∈ p.client.reads, x.2.waitForResponse = true → x.1 ∈ p.client.answered :=
  ⟨fun hfour => (h.object hfour).resolve_right fun hcreating =>
      hcreating.exists_at.elim fun id hat => hidle id hat,
    fun x hx hwait => (h.answered x hx hwait).resolve_right (hidle x.1)⟩

/-- The client reads the next request of its simulator. -/
theorem DemoInv.register (h : DemoInv n p) (hpc : p.client.pc = .head)
    {request : ClientRequest DemoCallback} (hgood : p.sim.currIteration < p.sim.iterations)
    (hcreate : p.sim.currIteration = 3 → request = DemoSimulator.plainDemo 3) :
    DemoInv n { p with sim := p.sim.counted, client := p.client.register request } := by
  obtain ⟨hobject, hanswered⟩ := h.between fun _ hat => by
    rw [hpc] at hat
    exact hat
  have hrepository : (p.client.register request).parser.repository =
      p.client.parser.repository := by
    simp only [ClientRun.register, ClientState.registerRequest]
    split <;> rfl
  refine ⟨h.mode, h.iterations, h.iterations ▸ hgood, congrArg (· + 1) h.counter,
    fun hfour => ?_, fun x hx hwait => ?_, fun b hb => by cases hb⟩
  · have hthree : 3 ≤ p.sim.currIteration := Nat.le_of_succ_le_succ hfour
    rcases Nat.eq_or_lt_of_le hthree with heq | hlt
    · -- the demo that creates the first object
      rw [hcreate heq.symm]
      exact Or.inr ⟨_, _, List.mem_append_right _ (List.mem_singleton_self _), rfl,
        Or.inl ⟨rfl, rfl⟩⟩
    · exact Or.inl (hrepository ▸ hobject hlt)
  · rcases List.mem_append.1 hx with hx | hx
    · exact Or.inl (hanswered x hx hwait)
    · rw [List.mem_singleton.1 hx]
      exact Or.inr rfl

/-- The client hands its request over. -/
theorem DemoInv.send (h : DemoInv n p) (hs : SessionInv w p) {id : RequestId}
    {request : ClientRequest DemoCallback} (hpc : p.client.pc = .sending id request) :
    DemoInv n { p with
      client := p.client.send .sync id request .success
      toServer := p.toServer ++ [frameRequest id request.data] } := by
  obtain ⟨_, a, ha⟩ := hs.sending id request hpc
  have hafter : (p.client.send .sync id request .success).pc =
      if request.waitForResponse = true then .reading id else .head := by
    simp only [ClientRun.send, afterSend, true_and]
  refine ⟨h.mode, h.iterations, h.le, h.counter, fun hfour => ?_, fun x hx hwait => ?_,
    fun b hb => ?_⟩
  · refine (h.object hfour).imp_right ?_
    rintro ⟨id', request', hread, hcallback, ⟨hsending, hwait⟩ | hreading⟩
    · rw [hpc, ClientPc.sending.injEq] at hsending
      obtain ⟨rfl, rfl⟩ := hsending
      exact ⟨id, request, hread, hcallback, Or.inr (hafter.trans (if_pos hwait))⟩
    · rw [hpc] at hreading
      cases hreading
  · refine (h.answered x hx hwait).imp_right fun hat => ?_
    rw [hpc] at hat
    -- the request that is sent is the one with this id, so it waits
    obtain rfl : id = x.1 := hat
    obtain rfl : x.2 = request := hs.client.request_unique hx ha.read
    show (p.client.send .sync x.1 x.2 .success).pc.At x.1
    rw [hafter, if_pos hwait]
    rfl
  · have hb : (p.client.send .sync id request .success).pc = .returned b := hb
    rw [hafter] at hb
    split at hb <;> cases hb

/-- The client reads the response. -/
theorem DemoInv.receive (h : DemoInv n p) (hs : SessionInv w p) {id : RequestId}
    {request : ClientRequest DemoCallback} {v : AnyValue} (hpc : p.client.pc = .reading id)
    (hread : (id, request) ∈ p.client.reads) (hopen : id ∉ p.client.answered)
    (hexpects : Expects request (some v)) :
    DemoInv n { p with
      client := { p.client.answer DemoCallback.onSuccess (.deliver id v) with pc := .head }
      toClient := p.toClient.drop kBufSize } := by
  obtain ⟨_, callback, hcallback, hcasts⟩ := hexpects
  obtain ⟨hids, hcounter⟩ := ClientRun.answered_answer (v := v)
    (List.mem_map_of_mem (f := Prod.fst) hread)
  have hrepository := hs.client.repository_answer (v := v) hread hopen hcallback
  refine ⟨h.mode, h.iterations, h.le, hcounter.trans h.counter, fun hfour => Or.inl ?_,
    fun x hx hwait => Or.inl ?_, fun b hb => by cases hb⟩
  · rw [hrepository]
    rcases h.object hfour with hne | ⟨id', request', hread', hcreation, ⟨hsending, -⟩ | hreading⟩
    · exact DemoCallback.onSuccess_ne_nil hne
    · rw [hpc] at hsending
      cases hsending
    · -- the response is the one to the request that creates an object
      rw [hpc, ClientPc.reading.injEq] at hreading
      subst hreading
      obtain rfl := hs.client.request_unique hread hread'
      obtain rfl := Option.some_inj.1 (hcallback.symm.trans hcreation)
      exact DemoCallback.onSuccess_creation_ne_nil _ hcasts
  · have hx : x ∈ p.client.reads :=
      (p.client.frame_answer DemoCallback.onSuccess (.deliver id v)).2.1 ▸ hx
    show x.1 ∈ (p.client.answer DemoCallback.onSuccess (.deliver id v)).answered
    rw [hids]
    rcases h.answered x hx hwait with hans | hat
    · exact List.mem_cons_of_mem _ hans
    · rw [hpc] at hat
      obtain rfl : id = x.1 := hat
      exact List.mem_cons_self

/-- **Every turn keeps what holds of the client.** -/
theorem DemoInv.clientTurn (h : DemoInv n p) (hs : SessionInv w p)
    (hvalid : kInvalidClassHandle ∉ p.client.parser.repository)
    (hturn : p.clientTurn input = some p') : DemoInv n p' := by
  cases demoMove_of_turn h hs hvalid hturn with
  | connect hpc =>
      obtain ⟨hobject, hanswered⟩ := h.between fun _ hat => by
        rw [hpc] at hat
        exact hat
      exact ⟨h.mode, h.iterations, h.le, h.counter, fun hfour => Or.inl (hobject hfour),
        fun x hx hwait => Or.inl (hanswered x hx hwait), fun b hb => by cases hb⟩
  | read hpc hgood hcreate => exact h.register hpc hgood hcreate
  | finish hpc hend =>
      obtain ⟨hobject, hanswered⟩ := h.between fun _ hat => by
        rw [hpc] at hat
        exact hat
      refine ⟨h.mode, h.iterations, h.le, h.counter, fun hfour => Or.inl (hobject hfour),
        fun x hx hwait => Or.inl (hanswered x hx hwait), fun b hb => ?_⟩
      cases hb
      have hge : n ≤ p.sim.currIteration := h.iterations ▸ Nat.le_of_not_lt hend
      exact ⟨rfl, Nat.le_antisymm h.le hge⟩
  | send hpc => exact h.send hs hpc
  | receive hpc hread hopen hexpects => exact h.receive hs hpc hread hopen hexpects

end Client

/-! ### The client in the system -/

section System

variable {env : AddressText} {sims : ℕ → DemoSimulator} {turns : List Turn} {c n : ℕ}

/-- The thread of the server leaves the client and its simulator alone. -/
theorem Session.serverTurn_frame {w w' : ServerState} {p p' : Session}
    (hturn : p.serverTurn env w c = some (w', p')) : p'.sim = p.sim ∧ p'.client = p.client := by
  simp only [serverTurn] at hturn
  split at hturn
  · cases hturn
  split at hturn
  · cases hturn
  split at hturn <;> cases hturn
  exact ⟨rfl, rfl⟩

/-- No client is given the invalid handle, as long as the counter has not left the range of an
`int`. -/
theorem kInvalidClassHandle_notMem {s : System}
    (hrun : run (systemStep env) (System.start sims) turns = some s)
    (hcounter : s.server.registry.handleCounter < 2 ^ 31) :
    kInvalidClassHandle ∉ (s.session c).client.parser.repository := by
  intro hmem
  obtain ⟨g, w, t, hv⟩ := storeView_run hrun hcounter
  have hknown := ((systemInv_run hrun).session c).repository _ hmem
  have hlt := (hv.registry.numbered _).1 (ServerState.known_eq_true.1 hknown)
  have hvalue : kInvalidClassHandle.toNat = 2 ^ 32 - 1 := by decide
  omega

theorem demoInv_start (hsim : sims c = { mode := .stepByStep, iterations := n }) :
    DemoInv n ((System.start sims).session c) := by
  have hstart : (System.start sims).session c =
      { sim := { mode := .stepByStep, iterations := n }, client := .start true true } :=
    congrArg (Session.mk · _ _ _) hsim
  rw [hstart]
  exact ⟨rfl, rfl, Nat.zero_le _, rfl, fun hfour => absurd hfour (Nat.not_succ_le_zero 3),
    fun x hx => absurd hx List.not_mem_nil, fun b hb => by cases hb⟩

/-- **Every run keeps what holds of the client.** -/
theorem demoInv_run {s : System} (hsim : sims c = { mode := .stepByStep, iterations := n })
    (hrun : run (systemStep env) (System.start sims) turns = some s)
    (hcounter : s.server.registry.handleCounter < 2 ^ 31) : DemoInv n (s.session c) := by
  refine invariant_history (I := fun _ s => s.server.registry.handleCounter < 2 ^ 31 →
    DemoInv n (s.session c)) (fun _ => demoInv_start hsim) ?_ hrun hcounter
  intro turns turn s s' hrun hI hstep hcounter
  have hs := systemInv_run hrun
  have hlt := lt_of_le_of_lt (hs.handleCounter_le hstep) hcounter
  have h := hI hlt
  cases turn with
  | client c' input =>
      obtain ⟨p, hturn, rfl⟩ := Option.map_eq_some_iff.1 hstep
      by_cases hc : c = c'
      · subst hc
        rw [System.session_put_self]
        exact h.clientTurn (hs.session c) (kInvalidClassHandle_notMem hrun hlt) hturn
      · rw [System.session_put_of_ne s _ _ hc]
        exact h
  | server c' =>
      obtain ⟨⟨w, p⟩, hturn, rfl⟩ := Option.map_eq_some_iff.1 hstep
      by_cases hc : c = c'
      · subst hc
        obtain ⟨hsame, hclient⟩ := Session.serverTurn_frame hturn
        rw [System.session_put_self]
        exact h.congr hsame hclient
      · rw [System.session_put_of_ne s _ _ hc]
        exact h

end System

/-! ### The account -/

/-- What is left to a client, and to its thread for the requests it has not sent yet: eight steps
for each demo. -/
def Session.rest (p : Session) : ℕ :=
  let demos := 8 * (p.sim.iterations - p.sim.currIteration)
  match p.client.pc with
  | .connecting _ => demos + 2
  | .head => demos + 1
  | .sending _ _ => demos + 8
  | .reading _ => demos + 2
  | .returned _ => 0

/-- **The account of a client and its thread.** -/
def ThreadedSystem.account (s : ThreadedSystem) (c : ℕ) : ℕ := (s.session c).rest + s.work c

/-- Every turn of the client takes from the account; a message it sends pays for the five steps of
its thread. -/
theorem DemoMove.lowers {p p' : Session} (h : DemoMove p p') :
    p'.rest + 5 * p'.toServer.length < p.rest + 5 * p.toServer.length := by
  cases h with
  | connect hpc =>
      simp only [Session.rest, hpc]
      omega
  | read hpc hgood hcreate =>
      simp only [Session.rest, hpc, ClientRun.register, DemoSimulator.counted]
      omega
  | finish hpc hend =>
      simp only [Session.rest, hpc]
      omega
  | @send id request hpc =>
      by_cases hwait : request.waitForResponse = true
      · simp only [Session.rest, hpc, ClientRun.send, afterSend, true_and, if_pos hwait,
          List.length_append, List.length_singleton]
        omega
      · simp only [Session.rest, hpc, ClientRun.send, afterSend, true_and, if_neg hwait,
          List.length_append, List.length_singleton]
        omega
  | receive hpc _ _ _ =>
      simp only [Session.rest, hpc]
      omega

/-- Whether a turn is one of client `c` or of its thread. -/
def Turn.isOf (c : ℕ) : Turn → Bool
  | .client c' _ => c' = c
  | .server c' => c' = c

/-- A state of a run in which client `c` goes through `n` demos in order. -/
structure DemoRun (env : AddressText) (n c : ℕ) (s : ThreadedSystem) : Prop where
  threads : ThreadedInv env s
  demo : DemoInv n (s.session c)
  valid : kInvalidClassHandle ∉ (s.session c).client.parser.repository

section Account

variable {env : AddressText} {n c : ℕ} {s s' : ThreadedSystem}

/-- Every state of a run is one of these. -/
theorem demoRun_of_run {sims : ℕ → DemoSimulator} {turns : List Turn}
    (hsim : sims c = { mode := .stepByStep, iterations := n })
    (hrun : run (threadedStep env) (.start sims) turns = some s)
    (hcounter : s.server.server.registry.handleCounter < 2 ^ 31) : DemoRun env n c s := by
  obtain ⟨hinv, turns', hrun', _⟩ := threaded_refines hrun
  have hvalid := kInvalidClassHandle_notMem (c := c) hrun' hcounter
  exact ⟨hinv, (demoInv_run hsim hrun' hcounter).congr rfl rfl, hvalid⟩

/-- **Every turn of the client or of its thread takes from the account.** -/
theorem DemoRun.lowers (h : DemoRun env n c s) {turn : Turn} (hof : turn.isOf c = true)
    (hstep : threadedStep env s turn = some s') : s'.account c < s.account c := by
  cases turn with
  | client c' input =>
      obtain rfl : c' = c := of_decide_eq_true hof
      obtain ⟨p, hturn, rfl⟩ := Option.map_eq_some_iff.1 hstep
      obtain ⟨hatomic, -, -⟩ := Session.clientTurn_atomic (c := c') (h.threads.single c') hturn
      have hdemo : DemoInv n (s.atomic.session c') := h.demo.congr rfl rfl
      -- what the thread holds is the same on both sides
      have hlower : p.rest + 5 * (taken ((s.server.threads c').phase c') ++ p.toServer).length <
          (s.session c').rest +
            5 * (taken ((s.server.threads c').phase c') ++ (s.session c').toServer).length :=
        (demoMove_of_turn hdemo (h.threads.atomic.session c') h.valid hatomic).lowers
      rw [List.length_append, List.length_append] at hlower
      rw [ThreadedSystem.account, ThreadedSystem.account, ThreadedSystem.work, ThreadedSystem.work,
        ThreadedSystem.session_put_self]
      show p.rest + (5 * p.toServer.length + (s.server.threads c').pc.left) < _
      omega
  | server c' =>
      obtain rfl : c' = c := of_decide_eq_true hof
      obtain ⟨hlt, hsim, hclient⟩ := h.threads.lowers hstep
      have hrest : (s'.session c').rest = (s.session c').rest := by
        rw [Session.rest, Session.rest, hsim, hclient]
      rw [ThreadedSystem.account, ThreadedSystem.account, hrest]
      exact Nat.add_lt_add_left hlt _

/-- Nobody else's turn touches it. -/
theorem account_eq_of_not (h : ThreadedInv env s) {turn : Turn} (hof : turn.isOf c = false)
    (hstep : threadedStep env s turn = some s') : s'.account c = s.account c := by
  cases turn with
  | client c' input =>
      obtain ⟨p, _, rfl⟩ := Option.map_eq_some_iff.1 hstep
      have hc : c ≠ c' := fun heq => of_decide_eq_false hof heq.symm
      rw [ThreadedSystem.account, ThreadedSystem.work, ThreadedSystem.session_put_of_ne s _ p hc]
      rfl
  | server c' =>
      have hc : c ≠ c' := fun heq => of_decide_eq_false hof heq.symm
      obtain ⟨hwork, hsame⟩ := work_eq_of_ne hc hstep h
      rw [ThreadedSystem.account, ThreadedSystem.account, hwork, hsame]

/-- A client that has not returned can take its turn, if there is something to read when it
waits. -/
theorem DemoInv.enabled {w : ServerState} {p : Session} (h : DemoInv n p) (hs : SessionInv w p)
    (hvalid : kInvalidClassHandle ∉ p.client.parser.repository) (hn : n < 2 ^ 31)
    (hreturned : ∀ b, p.client.pc ≠ .returned b)
    (hreading : ∀ id, p.client.pc = .reading id → p.toClient ≠ []) (input : DemoInput) :
    ∃ p', p.clientTurn input = some p' := by
  have hturn : ∀ i client, p.event input = some i →
      clientStep .sync DemoCallback.onSuccess p.client i = some client →
        ∃ p', p.clientTurn input = some p' := fun i client hi hclient =>
    ⟨_, Option.bind_eq_some_iff.2 ⟨i, hi, Option.map_eq_some_iff.2
      ⟨client, demoStep_eq_some.2 ⟨hs.callbackReturns hi, hclient⟩, rfl⟩⟩⟩
  cases hpc : p.client.pc with
  | connecting k =>
      refine hturn (.connect true) { p.client with pc := .head } ?_ ?_
      · simp only [Session.event, hpc]
      · simp only [clientStep, hpc]
        rfl
  | head =>
      by_cases hgood : p.sim.isGood = true
      · obtain ⟨request, hread, hdata, _⟩ := h.readRequest hpc hvalid input
        have hlt : p.client.requestIdCounter + 1 < 2 ^ 31 := by
          have hcounter := h.counter
          have hdemos : p.sim.currIteration < p.sim.iterations := of_decide_eq_true hgood
          rw [h.iterations] at hdemos
          omega
        refine hturn (.readRequest request) (p.client.register request) ?_ ?_
        · simp only [Session.event, hpc, if_pos hgood, hread]
        · simp only [clientStep, hpc, List.isEmpty_iff, if_neg hdata, if_pos hlt]
      · refine hturn .finish { p.client with pc := .returned true } ?_ ?_
        · simp only [Session.event, hpc, if_neg hgood]
        · simp only [clientStep, hpc]
  | sending id request =>
      refine hturn (.send .success) (p.client.send .sync id request .success) ?_ ?_
      · simp only [Session.event, hpc]
      · simp only [clientStep, hpc]
  | reading id =>
      have hne := hreading id hpc
      obtain ⟨m, v, _, hr⟩ := hs.traffic.read hpc hne
      refine hturn (.readResponse (some (readFile p.toClient)))
        { p.client.answer DemoCallback.onSuccess (.deliver m.id v) with pc := .head } ?_ ?_
      · simp only [Session.event, hpc, if_neg hne]
      · simp only [clientStep, hpc]
        exact Option.map_eq_some_iff.2
          ⟨_, (ClientRun.handleResponse_eq_some _).2 ⟨_, hr.decodes, rfl⟩, rfl⟩
  | returned b => exact absurd hpc (hreturned b)

/-- **While there is something left, the client or its thread can move.** -/
theorem DemoRun.enabled (h : DemoRun env n c s) (hn : n < 2 ^ 31) (hleft : 0 < s.account c) :
    (∀ input, ∃ s', threadedStep env s (.client c input) = some s') ∨
      ∃ s', threadedStep env s (.server c) = some s' := by
  rcases Nat.eq_zero_or_pos (s.work c) with hwork | hwork
  · have hs := h.threads.atomic.session c
    rw [ThreadedSystem.atomic_of_done hwork] at hs
    have hreturned : ∀ b, (s.session c).client.pc ≠ .returned b := by
      intro b hpc
      rw [ThreadedSystem.account, hwork, Session.rest, hpc] at hleft
      exact Nat.lt_irrefl 0 hleft
    refine Or.inl fun input => ?_
    obtain ⟨p, hturn⟩ := h.demo.enabled hs h.valid hn hreturned
      (fun id hpc => h.threads.toClient_ne_nil hpc hwork) input
    exact ⟨_, Option.map_eq_some_iff.2 ⟨p, hturn, rfl⟩⟩
  · exact Or.inr (h.threads.enabled hwork)

/-- **A run takes no more turns of the client and of its thread than the account allows.** -/
theorem demo_turns_le {sims : ℕ → DemoSimulator} {turns : List Turn}
    (hsim : sims c = { mode := .stepByStep, iterations := n })
    (hrun : run (threadedStep env) (.start sims) turns = some s)
    (hcounter : s.server.server.registry.handleCounter < 2 ^ 31) :
    (turns.filter (Turn.isOf c)).length + s.account c ≤ 8 * n + 2 := by
  refine invariant_history (I := fun turns s => s.server.server.registry.handleCounter < 2 ^ 31 →
    (turns.filter (Turn.isOf c)).length + s.account c ≤ 8 * n + 2) (fun _ => ?_) ?_ hrun hcounter
  · have hrest : ((System.start sims).session c).rest = 8 * n + 2 := by
      simp only [System.start, hsim]
      rfl
    exact Nat.le_of_eq ((Nat.zero_add _).trans hrest)
  · intro turns turn s s' hrun hI hstep hcounter
    have hinv := (threaded_refines hrun).1
    have hlt := lt_of_le_of_lt (hinv.handleCounter_le hstep) hcounter
    have hle := hI hlt
    rw [List.filter_append, List.length_append]
    cases hof : turn.isOf c with
    | true =>
        have hlower := (demoRun_of_run hsim hrun hlt).lowers hof hstep
        rw [List.filter_cons_of_pos hof, List.filter_nil, List.length_singleton]
        omega
    | false =>
        rw [List.filter_cons_of_neg (by rw [hof]; exact Bool.false_ne_true),
          account_eq_of_not hinv hof hstep]
        exact hle

end Account

/-- **Every demo is completed, whatever the others do**, as long as no call on a pipe fails.  Let
the simulator of a `Sync` client go through `n` demos in order, next to any number of other clients
in any mode, with the threads of the server interleaved in any way.  In every run the client and its
thread take at most `8 * n + 2` turns.  When neither of them can move any more, `Client::Start` has
returned `true`, it has read `n` requests, every one of them that asks for a response has been
answered, and nothing is left in the pipe. -/
theorem demo_completes (env : AddressText) {sims : ℕ → DemoSimulator} {c n : ℕ}
    (hsim : sims c = { mode := .stepByStep, iterations := n }) (hn : n < 2 ^ 31)
    {turns : List Turn} {s : ThreadedSystem}
    (hrun : run (threadedStep env) (.start sims) turns = some s)
    (hcounter : s.server.server.registry.handleCounter < 2 ^ 31) :
    (turns.filter (Turn.isOf c)).length ≤ 8 * n + 2 ∧
      ((∃ input, threadedStep env s (.client c input) = none) →
        threadedStep env s (.server c) = none →
          (s.session c).client.pc = .returned true ∧ (s.session c).client.reads.length = n ∧
            (∀ x ∈ (s.session c).client.reads, x.2.waitForResponse = true →
              x.1 ∈ (s.session c).client.answered) ∧
            (s.session c).toServer = [] ∧ (s.session c).toClient = []) := by
  have hdemo := demoRun_of_run hsim hrun hcounter
  have hturns := demo_turns_le hsim hrun hcounter
  refine ⟨by omega, ?_⟩
  rintro ⟨input, hclient⟩ hserver
  have hzero : s.account c = 0 := by
    refine Nat.eq_zero_of_not_pos fun hpos => ?_
    rcases hdemo.enabled hn hpos with hmoves | ⟨s', hs'⟩
    · obtain ⟨s', hs'⟩ := hmoves input
      rw [hclient] at hs'
      cases hs'
    · rw [hserver] at hs'
      cases hs'
  rw [ThreadedSystem.account, Nat.add_eq_zero_iff] at hzero
  obtain ⟨hrest, hwork⟩ := hzero
  have hpc : ∃ b, (s.session c).client.pc = .returned b := by
    cases hpc : (s.session c).client.pc with
    | returned b => exact ⟨b, rfl⟩
    | connecting | head | sending | reading =>
        rw [Session.rest, hpc] at hrest
        cases hrest
  obtain ⟨b, hpc⟩ := hpc
  obtain ⟨rfl, hall⟩ := hdemo.demo.returned b hpc
  obtain ⟨-, hanswered⟩ := hdemo.demo.between fun id hat => by
    rw [hpc] at hat
    exact hat
  have hs := hdemo.threads.atomic.session c
  rw [ThreadedSystem.atomic_of_done hwork] at hs
  obtain ⟨_, _, _, hempty⟩ := hs.traffic.of_not_reading fun id heq => by
    rw [hpc] at heq
    cases heq
  have hreads : (s.session c).client.reads.length = n := by
    have hids := congrArg List.length hs.client.numbered
    rw [ClientRun.readIds, List.length_map, List.length_map, List.length_range,
      hdemo.demo.counter, hall] at hids
    exact hids
  exact ⟨hpc, hreads, hanswered, (ThreadedSystem.work_eq_zero hwork).1, hempty⟩

/-- Every simulator goes through the demos up to the first one that creates an object. -/
def fourDemos : ℕ → DemoSimulator := fun _ => { mode := .stepByStep, iterations := 4 }

/-- The first client sends three plain values ahead of the server, and waits for its object. -/
def fourTurns : List Turn :=
  List.replicate 9 (.client 0 {}) ++ List.replicate 13 (.server 0) ++
    [.client 1 {}, .client 0 {}, .client 0 {}]

/-- The client has returned, and has read four requests. -/
theorem fourDemos_complete :
    ∃ s, run (threadedStep default) (.start fourDemos) fourTurns = some s ∧
      (fourTurns.filter (Turn.isOf 0)).length ≤ 8 * 4 + 2 ∧
      (s.session 0).client.pc = .returned true ∧ (s.session 0).client.reads.length = 4 := by
  have hend : (run (threadedStep default) (.start fourDemos) fourTurns).map (fun s =>
      (s.server.server.registry.handleCounter, (threadedStep default s (.client 0 {})).isNone,
        (threadedStep default s (.server 0)).isNone)) = some (1, true, true) := by decide
  obtain ⟨s, hrun, hs⟩ := Option.map_eq_some_iff.1 hend
  simp only [Prod.mk.injEq, Option.isNone_iff_eq_none] at hs
  obtain ⟨hcounter, hclient, hserver⟩ := hs
  obtain ⟨hturns, hdone⟩ := @demo_completes default fourDemos 0 4 rfl (by decide) fourTurns s hrun
    (by rw [hcounter]; decide)
  obtain ⟨hpc, hreads, -⟩ := hdone ⟨{}, hclient⟩ hserver
  exact ⟨s, hrun, hturns, hpc, hreads⟩

end NamedPipeDemo
