/-
**The main loop of the client: `Client::Start`.**

The client reads a request, registers it under the next id, frames it, and hands the frame to the
pipe.  With the policy `Sync` it then waits for the response, if the request needs one; with
`Async` responses arrive while the loop goes on.  A send that fails because the pipe is being
closed makes the client connect again, any other failure ends the loop.

What the source takes from outside — the requests of the data source, the outcomes of the calls of
the pipe, the bytes of a response — are the labels of a machine.  The pipe itself stays outside; the
module that puts two programs together supplies it.

Main definitions:

* `NamedPipeDemo.ClientRun` — the state of the loop, and its history;
* `NamedPipeDemo.clientStep` — one step of the loop;
* `NamedPipeDemo.ClientMove` — what a step can do;
* `NamedPipeDemo.demoStep` — one step of a `Sync` client with the callbacks of the demo, which can
  stop with a fault.

Main results:

* `NamedPipeDemo.clientMove_of_step` — **every step is one of the moves**;
* `NamedPipeDemo.ClientInv`, `NamedPipeDemo.clientInv_run` — the ids of the requests read, and which
  of them are in the table;
* `NamedPipeDemo.requests_handed_over` — **a client that returns `true` has handed over every
  request, in order, exactly when no send failed with `ERROR_NO_DATA`.**
-/

import NamedPipeDemo.DemoSimulator
import NamedPipeDemo.LabelledRuns

set_option relaxedAutoImplicit false
set_option autoImplicit false

namespace NamedPipeDemo

open LabelledRuns

/-! ### The loop -/

/-- What `SendDataToServerSync` and `SendDataToServerAsync` come to: the write succeeds, or it fails
and `GetLastError` is `ERROR_NO_DATA`, or it fails with another error. -/
inductive SendOutcome
  | success
  | noData
  | failed
  deriving DecidableEq, Repr

/-- The size of the buffers of `ReadDataFromServerSync` and `ReadDataFromServerAsync`. -/
def kBufSize : ℕ := 4096

/-- One `ReadFile` on the handle of the client, which is in byte mode: it returns what was written
and is not yet read, whatever writes it comes from, up to the size of the buffer. -/
def readFile (bytes : RawData) : RawDataType :=
  ⟨bytes.take kBufSize, (List.length_take_le _ _).trans (by decide)⟩

/-- Where the client is. -/
inductive ClientPc (κ : Type)
  /-- `ConnectToPipe` has failed to connect this many times. -/
  | connecting (retryIteration : ℕ)
  /-- The head of the loop. -/
  | head
  /-- The request is registered, and its frame is sent next. -/
  | sending (id : RequestId) (request : ClientRequest κ)
  /-- `ReadDataFromServerSync`, behind the send of this request. -/
  | reading (id : RequestId)
  | returned (result : Bool)

/-- What happens to the client. -/
inductive ClientEvent (κ : Type)
  /-- `Pipe::Connect` returns. -/
  | connect (connected : Bool)
  /-- `IsGood` returns `false`. -/
  | finish
  /-- `IsGood` returns `true`, and `ReadRequest` returns. -/
  | readRequest (request : ClientRequest κ)
  /-- The send returns. -/
  | send (outcome : SendOutcome)
  /-- `ReadDataFromServerSync` returns, without data when it fails. -/
  | readResponse (response : Option RawDataType)
  /-- An overlapped read completes. -/
  | responseArrived (response : RawDataType)

/-- The state of `Client::Start`, with the parser it shares with the callbacks, and its history: the
non-empty requests it has read and the frames a send has accepted, in order, with their ids, and
the ids of the responses that were decoded, told apart by whether their request had been read. -/
structure ClientRun (κ : Type) where
  pc : ClientPc κ
  requestIdCounter : ℕ := 0
  parser : ClientState κ := {}
  reads : List (RequestId × ClientRequest κ) := []
  accepted : List (RequestId × RawData) := []
  answered : List RequestId := []
  unsolicited : List RequestId := []

/-- The `n`-th value of `request_id_counter_`. -/
def requestIdOf (n : ℕ) : RequestId := BitVec.ofNat 32 n

section Loop

variable {κ : Type} (policy : ExecutionPolicy)
  (onSuccess : κ → AnyValue → ClassRepository → ClassRepository)

/-- `Client::Start` up to its first call: without a data source or a parser it returns `false`. -/
def ClientRun.start (hasDataSource hasParser : Bool) : ClientRun κ where
  pc := if !hasDataSource || !hasParser then .returned false else .connecting 0

/-- One round of the loop of `Client::ConnectToPipe`. -/
def connectToPipe (connected : Bool) (retryIteration : ℕ) : ClientPc κ :=
  if connected then .head
  else if retryIteration + 1 = 100 then .returned false
  else .connecting (retryIteration + 1)

/-- The body of the loop up to the send. -/
def ClientRun.register (s : ClientRun κ) (request : ClientRequest κ) : ClientRun κ :=
  let requestId := requestIdOf (s.requestIdCounter + 1)
  { s with
    pc := .sending requestId request
    requestIdCounter := s.requestIdCounter + 1
    -- whether the request waits, and whether its send succeeds, is not known yet
    parser := (s.parser.registerRequest requestId request).2
    reads := s.reads ++ [(requestId, request)] }

/-- Behind a send: `ExecuteRequestSync` reads the response if there will be one, and
`ExecuteRequestAsync` returns; a failed send makes the client connect again or return. -/
def afterSend (id : RequestId) (request : ClientRequest κ) : SendOutcome → ClientPc κ
  | .success => if policy = .sync ∧ request.waitForResponse = true then .reading id else .head
  | .noData => .connecting 0
  | .failed => .returned false

/-- The send of a request. -/
def ClientRun.send (s : ClientRun κ) (id : RequestId) (request : ClientRequest κ)
    (outcome : SendOutcome) : ClientRun κ :=
  { s with
    pc := afterSend policy id request outcome
    accepted := if outcome = .success then s.accepted ++ [(id, frameRequest id request.data)]
      else s.accepted }

/-- The ids of the requests read. -/
def ClientRun.readIds (s : ClientRun κ) : List RequestId := s.reads.map Prod.fst

/-- The history after a response that was decoded. -/
def ClientRun.record (s : ClientRun κ) : Except Fault ResponseAction → ClientRun κ
  | .ok (.deliver id _) =>
      if id ∈ s.readIds then { s with answered := id :: s.answered }
      else { s with unsolicited := id :: s.unsolicited }
  | _ => s

/-- The parser is called on a response; there is no step when it stops with a fault. -/
def ClientRun.handleResponse (s : ClientRun κ) (response : RawDataType) : Option (ClientRun κ) :=
  match (parseResponse onSuccess response.1).run s.parser with
  | .ok _ parser => some { s.record (decodeResponse response.1) with parser := parser }
  | .error _ _ => none

/-- **One step of the client.**  There is no step when the counter would leave the range of an
`int`. -/
def clientStep (s : ClientRun κ) : ClientEvent κ → Option (ClientRun κ)
  | .connect connected =>
      match s.pc with
      | .connecting retryIteration => some { s with pc := connectToPipe connected retryIteration }
      | _ => none
  | .finish =>
      match s.pc with
      | .head => some { s with pc := .returned true }
      | _ => none
  | .readRequest request =>
      match s.pc with
      | .head =>
          if request.data.isEmpty then some s
          else if s.requestIdCounter + 1 < 2 ^ 31 then some (s.register request)
          else none
      | _ => none
  | .send outcome =>
      match s.pc with
      | .sending id request => some (s.send policy id request outcome)
      | _ => none
  | .readResponse response =>
      match s.pc with
      | .reading _ =>
          match response with
          | some response =>
              (s.handleResponse onSuccess response).map fun s' => { s' with pc := .head }
          -- a read that fails is only logged
          | none => some { s with pc := .head }
      | _ => none
  | .responseArrived response =>
      match policy with
      | .async => s.handleResponse onSuccess response
      | .sync => none

/-- The state after a response. -/
def ClientRun.answer (s : ClientRun κ) (a : ResponseAction) : ClientRun κ :=
  { s.record (.ok a) with parser := a.perform onSuccess s.parser }

/-- A response leaves alone where the client is, and what it has read and handed over. -/
theorem ClientRun.frame_answer (s : ClientRun κ) (a : ResponseAction) :
    (s.answer onSuccess a).pc = s.pc ∧ (s.answer onSuccess a).reads = s.reads ∧
      (s.answer onSuccess a).accepted = s.accepted := by
  cases a with
  | deliver id v =>
      simp only [answer, record]
      split <;> exact ⟨rfl, rfl, rfl⟩
  | _ => exact ⟨rfl, rfl, rfl⟩

/-- A response is decoded and performed. -/
theorem ClientRun.handleResponse_eq_some {s s' : ClientRun κ} {response : RawDataType} :
    s.handleResponse onSuccess response = some s' ↔
      ∃ a, decodeResponse response.1 = .ok a ∧ s' = s.answer onSuccess a := by
  rw [handleResponse, parseResponse_eq]
  cases decodeResponse response.1 with
  | error e => simp
  | ok a =>
      simp only [Option.some.injEq, Except.ok.injEq, exists_eq_left']
      exact eq_comm

/-- **The moves of the client.** -/
inductive ClientMove (s : ClientRun κ) : ClientEvent κ → ClientRun κ → Prop
  | connect {connected : Bool} {n : ℕ} (hpc : s.pc = .connecting n) :
      ClientMove s (.connect connected) { s with pc := connectToPipe connected n }
  | finish (hpc : s.pc = .head) : ClientMove s .finish { s with pc := .returned true }
  | skip {request : ClientRequest κ} (hpc : s.pc = .head) (hdata : request.data = []) :
      ClientMove s (.readRequest request) s
  | register {request : ClientRequest κ} (hpc : s.pc = .head) (hdata : request.data ≠ [])
      (hcounter : s.requestIdCounter + 1 < 2 ^ 31) :
      ClientMove s (.readRequest request) (s.register request)
  | send {outcome : SendOutcome} {id : RequestId} {request : ClientRequest κ}
      (hpc : s.pc = .sending id request) :
      ClientMove s (.send outcome) (s.send policy id request outcome)
  | readFailed {id : RequestId} (hpc : s.pc = .reading id) :
      ClientMove s (.readResponse none) { s with pc := .head }
  | read {id : RequestId} {response : RawDataType} {a : ResponseAction} (hpc : s.pc = .reading id)
      (hdec : decodeResponse response.1 = .ok a) :
      ClientMove s (.readResponse (some response)) { s.answer onSuccess a with pc := .head }
  | arrive {response : RawDataType} {a : ResponseAction} (hasync : policy = .async)
      (hdec : decodeResponse response.1 = .ok a) :
      ClientMove s (.responseArrived response) (s.answer onSuccess a)

variable {policy onSuccess}

/-- **Every step is one of the moves.** -/
theorem clientMove_of_step {s s' : ClientRun κ} {i : ClientEvent κ}
    (h : clientStep policy onSuccess s i = some s') : ClientMove policy onSuccess s i s' := by
  cases i with
  | connect connected =>
      simp only [clientStep] at h
      split at h
      · next n hpc =>
          cases h
          exact .connect hpc
      · cases h
  | finish =>
      simp only [clientStep] at h
      split at h
      · next hpc =>
          cases h
          exact .finish hpc
      · cases h
  | readRequest request =>
      simp only [clientStep] at h
      split at h
      swap
      · cases h
      next hpc =>
      split at h
      · next hdata =>
          cases h
          exact .skip hpc (List.isEmpty_iff.1 hdata)
      next hdata =>
      split at h
      · next hcounter =>
          cases h
          exact .register hpc (fun hnil => hdata (List.isEmpty_iff.2 hnil)) hcounter
      · cases h
  | send outcome =>
      simp only [clientStep] at h
      split at h
      · next id request hpc =>
          cases h
          exact .send hpc
      · cases h
  | readResponse response =>
      simp only [clientStep] at h
      split at h
      swap
      · cases h
      next id hpc =>
      cases response with
      | none =>
          cases h
          exact .readFailed hpc
      | some response =>
          obtain ⟨t, ht, rfl⟩ := Option.map_eq_some_iff.1 h
          obtain ⟨a, hdec, rfl⟩ := (ClientRun.handleResponse_eq_some onSuccess).1 ht
          exact .read hpc hdec
  | responseArrived response =>
      cases policy with
      | sync => cases h
      | async =>
          obtain ⟨a, hdec, rfl⟩ := (ClientRun.handleResponse_eq_some onSuccess).1 h
          exact .arrive rfl hdec

end Loop

/-! ### The callbacks of the demo -/

/-- The callback that is called for a response, if there is one, returns. -/
def ClientState.callbackReturns (s : ClientState DemoCallback) : ResponseAction → Bool
  | .deliver id v =>
      (s.requests.lookup id).all fun request =>
        request.successCallback.all fun callback => callback.returns v
  | _ => true

/-- The callback that is called in a step, if there is one, returns. -/
def ClientRun.callbackReturns (s : ClientRun DemoCallback) : ClientEvent DemoCallback → Bool
  | .readResponse (some response) =>
      match decodeResponse response.1 with
      | .ok a => s.parser.callbackReturns a
      -- the parser does not get to the callback
      | .error _ => true
  | _ => true

/-- **One step of a `Sync` client whose requests are those of a `DemoSimulator`.**  There is no step
when a callback stops with a fault: it leaves `ParseResponse`, and `Client::Start`. -/
def demoStep (s : ClientRun DemoCallback) (i : ClientEvent DemoCallback) :
    Option (ClientRun DemoCallback) :=
  if s.callbackReturns i then clientStep .sync DemoCallback.onSuccess s i else none

/-- A step of such a client is a step of the client, whose callback returns. -/
theorem demoStep_eq_some {s s' : ClientRun DemoCallback} {i : ClientEvent DemoCallback} :
    demoStep s i = some s' ↔
      s.callbackReturns i = true ∧ clientStep .sync DemoCallback.onSuccess s i = some s' := by
  rw [demoStep]
  split
  · next h => exact (and_iff_right h).symm
  · next h => exact iff_of_false (Option.some_ne_none s').symm fun hs => h hs.1

/-- The callback of a response to a request in the table is that of the request. -/
theorem ClientState.callbackReturns_of_lookup {s : ClientState DemoCallback} {id : RequestId}
    {v : AnyValue} {request : ClientRequest DemoCallback}
    (hlookup : s.requests.lookup id = some request)
    (hreturns : ∀ callback, request.successCallback = some callback → callback.returns v = true) :
    s.callbackReturns (.deliver id v) = true := by
  rw [callbackReturns, hlookup, Option.all_some]
  cases hcallback : request.successCallback with
  | none => rfl
  | some callback => exact hreturns callback hcallback

/-! ### Ids and the table -/

/-- A response takes its id, and no other, out of the table. -/
theorem ClientState.mem_notify {κ : Type}
    {onSuccess : κ → AnyValue → ClassRepository → ClassRepository} {s : ClientState κ}
    {id r : RequestId} {v : AnyValue} :
    r ∈ (s.notify onSuccess id v).requests ↔ r ∈ s.requests ∧ r ≠ id := by
  rw [notify]
  cases hl : s.requests.lookup id with
  | some request =>
      rw [Finmap.mem_erase]
      exact and_comm
  | none =>
      refine ⟨fun h => ⟨h, ?_⟩, And.left⟩
      rintro rfl
      exact Finmap.lookup_eq_none.1 hl h

/-- A response changes no entry. -/
theorem ClientState.lookup_notify {κ : Type}
    {onSuccess : κ → AnyValue → ClassRepository → ClassRepository} {s : ClientState κ}
    {id r : RequestId} {v : AnyValue} {request : ClientRequest κ}
    (h : (s.notify onSuccess id v).requests.lookup r = some request) :
    s.requests.lookup r = some request := by
  have hne : r ≠ id := (mem_notify.1 (Finmap.lookup_isSome.1 (by rw [h]; rfl))).2
  rw [notify] at h
  cases hl : s.requests.lookup id with
  | some request' =>
      rw [hl] at h
      rwa [Finmap.lookup_erase_ne hne] at h
  | none =>
      rw [hl] at h
      exact h

theorem toNat_requestIdOf {n : ℕ} (h : n < 2 ^ 31) : (requestIdOf n).toNat = n := by
  rw [requestIdOf, BitVec.toNat_ofNat]
  exact Nat.mod_eq_of_lt (by omega)

/-- **The ids are numbered, and the table holds what was read and is not yet answered.** -/
structure ClientInv {κ : Type} (s : ClientRun κ) : Prop where
  numbered : s.readIds = (List.range s.requestIdCounter).map fun n => requestIdOf (n + 1)
  counter_lt : s.requestIdCounter < 2 ^ 31
  table : ∀ r, r ∈ s.parser.requests ↔ r ∈ s.readIds ∧ r ∉ s.answered
  entry : ∀ r request, s.parser.requests.lookup r = some request → (r, request) ∈ s.reads
  answered : ∀ r ∈ s.answered, r ∈ s.readIds

section Invariant

variable {κ : Type} {policy : ExecutionPolicy}
  {onSuccess : κ → AnyValue → ClassRepository → ClassRepository} {s s' : ClientRun κ}
  {i : ClientEvent κ}

/-- An id that was assigned lies between one and the counter. -/
theorem ClientInv.bounds (h : ClientInv s) {r : RequestId} (hr : r ∈ s.readIds) :
    0 < r.toNat ∧ r.toNat ≤ s.requestIdCounter := by
  rw [h.numbered, List.mem_map] at hr
  obtain ⟨n, hn, rfl⟩ := hr
  have hlt := h.counter_lt
  rw [List.mem_range] at hn
  rw [toNat_requestIdOf (by omega)]
  omega

/-- The next id is fresh. -/
theorem ClientInv.next_notMem (h : ClientInv s) (hlt : s.requestIdCounter + 1 < 2 ^ 31) :
    requestIdOf (s.requestIdCounter + 1) ∉ s.readIds := by
  intro hmem
  have hle := (h.bounds hmem).2
  rw [toNat_requestIdOf hlt] at hle
  omega

/-- No two requests have one id. -/
theorem ClientInv.nodup (h : ClientInv s) : s.readIds.Nodup := by
  have hlt := h.counter_lt
  rw [h.numbered, List.nodup_map_iff_inj_on List.nodup_range]
  intro m hm n hn heq
  rw [List.mem_range] at hm hn
  have htoNat := congrArg BitVec.toNat heq
  rw [toNat_requestIdOf (by omega), toNat_requestIdOf (by omega)] at htoNat
  omega

/-- The id of a request determines it. -/
theorem ClientInv.request_unique (h : ClientInv s) {r : RequestId}
    {request request' : ClientRequest κ} (hr : (r, request) ∈ s.reads)
    (hr' : (r, request') ∈ s.reads) : request = request' :=
  (Prod.ext_iff.1 (List.inj_on_of_nodup_map h.nodup hr hr' rfl)).2

/-- A request that was read and is not answered is what its id is looked up to. -/
theorem ClientInv.lookup (h : ClientInv s) {r : RequestId} {request : ClientRequest κ}
    (hr : (r, request) ∈ s.reads) (hans : r ∉ s.answered) :
    s.parser.requests.lookup r = some request := by
  have hmem : r ∈ s.parser.requests := (h.table r).2 ⟨List.mem_map_of_mem hr, hans⟩
  obtain ⟨request', hl⟩ := Option.isSome_iff_exists.1 (Finmap.lookup_isSome.2 hmem)
  rw [hl, h.request_unique (h.entry r request' hl) hr]

theorem clientInv_start (hasDataSource hasParser : Bool) :
    ClientInv (ClientRun.start hasDataSource hasParser : ClientRun κ) where
  numbered := rfl
  counter_lt := Nat.two_pow_pos 31
  table _ := ⟨fun h => absurd h Finmap.notMem_empty, fun h => absurd h.1 List.not_mem_nil⟩
  entry r request h := by
    rw [show (ClientRun.start hasDataSource hasParser : ClientRun κ).parser.requests.lookup r = none
      from rfl] at h
    cases h
  answered _ hr := absurd hr List.not_mem_nil

/-- A step that leaves the counter, the table and the history of ids alone keeps the invariant. -/
theorem ClientInv.congr (h : ClientInv s) (hcounter : s'.requestIdCounter = s.requestIdCounter)
    (hparser : s'.parser.requests = s.parser.requests) (hreads : s'.reads = s.reads)
    (hanswered : s'.answered = s.answered) : ClientInv s' := by
  obtain ⟨hnum, hlt, htable, hentry, hans⟩ := h
  refine ⟨?_, by rwa [hcounter], ?_, ?_, ?_⟩ <;>
    simp only [ClientRun.readIds, hcounter, hparser, hreads, hanswered] <;> assumption

/-- A new request keeps the invariant. -/
theorem ClientInv.register (h : ClientInv s) (hlt : s.requestIdCounter + 1 < 2 ^ 31)
    (request : ClientRequest κ) : ClientInv (s.register request) := by
  have hfresh := h.next_notMem hlt
  have hids : (s.register request).readIds =
      s.readIds ++ [requestIdOf (s.requestIdCounter + 1)] := List.map_append
  have hunanswered : requestIdOf (s.requestIdCounter + 1) ∉ s.answered := fun hmem =>
    hfresh (h.answered _ hmem)
  have hnot : requestIdOf (s.requestIdCounter + 1) ∉ s.parser.requests := fun hmem =>
    hfresh ((h.table _).1 hmem).1
  constructor
  · rw [hids, h.numbered]
    simp only [ClientRun.register, List.range_succ, List.map_append, List.map_cons, List.map_nil]
  · exact hlt
  · intro r
    rw [hids, List.mem_append, List.mem_singleton]
    simp only [ClientRun.register, ClientState.registerRequest, if_neg hnot, Finmap.mem_insert]
    rw [h.table]
    constructor
    · rintro (rfl | ⟨hread, hans⟩)
      · exact ⟨Or.inr rfl, hunanswered⟩
      · exact ⟨Or.inl hread, hans⟩
    · rintro ⟨hread | rfl, hans⟩
      · exact Or.inr ⟨hread, hans⟩
      · exact Or.inl rfl
  · intro r request' hl
    simp only [ClientRun.register, ClientState.registerRequest, if_neg hnot] at hl ⊢
    by_cases hr : r = requestIdOf (s.requestIdCounter + 1)
    · subst hr
      rw [Finmap.lookup_insert, Option.some.injEq] at hl
      rw [hl]
      exact List.mem_append_right _ (List.mem_singleton_self _)
    · rw [Finmap.lookup_insert_of_ne _ hr] at hl
      exact List.mem_append_left _ (h.entry r request' hl)
  · intro r hr
    rw [hids]
    exact List.mem_append_left _ (h.answered r hr)

/-- A response keeps the invariant. -/
theorem ClientInv.answer (h : ClientInv s) (a : ResponseAction) :
    ClientInv (s.answer onSuccess a) := by
  cases a with
  | register handle => exact h.congr rfl rfl rfl rfl
  | reject => exact h.congr rfl rfl rfl rfl
  | deliver id v =>
      by_cases hid : id ∈ s.readIds
      · -- the id leaves the table and becomes an answered one
        have heq : s.answer onSuccess (.deliver id v) =
            { s with answered := id :: s.answered, parser := s.parser.notify onSuccess id v } := by
          simp only [ClientRun.answer, ClientRun.record, if_pos hid, ResponseAction.perform]
        rw [heq]
        refine ⟨h.numbered, h.counter_lt, fun r => ?_,
          fun r _ hl => h.entry r _ (ClientState.lookup_notify hl), fun r hr => ?_⟩
        · simp only [ClientState.mem_notify, h.table, List.mem_cons, not_or]
          exact ⟨fun ⟨⟨hread, hans⟩, hne⟩ => ⟨hread, hne, hans⟩,
            fun ⟨hread, hne, hans⟩ => ⟨⟨hread, hans⟩, hne⟩⟩
        · rcases List.mem_cons.1 hr with rfl | hr
          · exact hid
          · exact h.answered r hr
      · -- an id that was not read is not in the table
        have hne : ∀ r, r ∈ s.parser.requests → r ≠ id := by
          rintro r hr rfl
          exact hid ((h.table r).1 hr).1
        have heq : s.answer onSuccess (.deliver id v) =
            { s with
              unsolicited := id :: s.unsolicited
              parser := s.parser.notify onSuccess id v } := by
          simp only [ClientRun.answer, ClientRun.record, if_neg hid, ResponseAction.perform]
        rw [heq]
        refine ⟨h.numbered, h.counter_lt, fun r => ?_,
          fun r _ hl => h.entry r _ (ClientState.lookup_notify hl), h.answered⟩
        rw [ClientState.mem_notify]
        exact ⟨fun hr => (h.table r).1 hr.1, fun hr =>
          have hmem := (h.table r).2 hr
          ⟨hmem, hne r hmem⟩⟩

/-- **Every step keeps the invariant.** -/
theorem ClientInv.step (h : ClientInv s) (hstep : clientStep policy onSuccess s i = some s') :
    ClientInv s' := by
  cases clientMove_of_step hstep with
  | register hpc hdata hcounter => exact h.register hcounter _
  | read hpc hdec => exact (h.answer _).congr rfl rfl rfl rfl
  | arrive hasync hdec => exact h.answer _
  | skip hpc hdata => exact h
  | _ => exact h.congr rfl rfl rfl rfl

/-- **Every run keeps the invariant.** -/
theorem clientInv_run {hasDataSource hasParser : Bool} {is : List (ClientEvent κ)}
    (h : run (clientStep policy onSuccess) (.start hasDataSource hasParser) is = some s) :
    ClientInv s :=
  invariant_run (fun _ _ _ hinv hstep => hinv.step hstep) (clientInv_start _ _) h

end Invariant

/-! ### What is handed over -/

section HandedOver

variable {κ : Type} {policy : ExecutionPolicy}
  {onSuccess : κ → AnyValue → ClassRepository → ClassRepository} {s s' : ClientRun κ}
  {is : List (ClientEvent κ)} {i : ClientEvent κ}

/-- The frames of the requests read, in order, with their ids. -/
def ClientRun.frames (s : ClientRun κ) : List (RequestId × RawData) :=
  s.reads.map fun x => (x.1, frameRequest x.1 x.2.data)

/-- The frame that is about to be sent. -/
def ClientRun.pending (s : ClientRun κ) : List (RequestId × RawData) :=
  match s.pc with
  | .sending id request => [(id, frameRequest id request.data)]
  | _ => []

/-- **Every request read was handed to the pipe by a send that succeeded, once and in order.** -/
def ClientRun.HandedOver (s : ClientRun κ) : Prop := s.accepted = s.frames

/-- A send that fails with `ERROR_NO_DATA` loses its request, and nothing else does. -/
structure SendHistory (is : List (ClientEvent κ)) (s : ClientRun κ) : Prop where
  le : s.accepted.length + s.pending.length ≤ s.reads.length
  lost : .send .noData ∈ is → s.accepted.length + s.pending.length < s.reads.length
  kept : .send .noData ∉ is → s.pc ≠ .returned false → s.accepted ++ s.pending = s.frames

theorem sendHistory_start (hasDataSource hasParser : Bool) :
    SendHistory [] (ClientRun.start hasDataSource hasParser : ClientRun κ) := by
  have hpending : (ClientRun.start hasDataSource hasParser : ClientRun κ).pending = [] := by
    cases hasDataSource <;> cases hasParser <;> rfl
  constructor
  · rw [hpending]
    exact Nat.le_refl 0
  · intro h
    cases h
  · intro _ _
    rw [hpending]
    rfl

/-- A step that neither reads nor sends keeps the history of sends. -/
theorem SendHistory.congr (h : SendHistory is s) (hi : i ≠ .send .noData)
    (haccepted : s'.accepted = s.accepted) (hreads : s'.reads = s.reads)
    (hpending : s'.pending = s.pending) (hpc : s.pc = .returned false → s'.pc = .returned false) :
    SendHistory (is ++ [i]) s' := by
  have hlast : .send .noData ∈ is ++ [i] → .send .noData ∈ is := fun hmem => by
    rcases List.mem_append.1 hmem with hmem | hmem
    · exact hmem
    · exact absurd (List.mem_singleton.1 hmem).symm hi
  constructor
  · rw [haccepted, hreads, hpending]
    exact h.le
  · rw [haccepted, hreads, hpending]
    exact fun hmem => h.lost (hlast hmem)
  · rw [haccepted, hpending, ClientRun.frames, hreads]
    exact fun hno hne =>
      h.kept (fun hmem => hno (List.mem_append_left _ hmem)) (fun heq => hne (hpc heq))

/-- A new request is pending. -/
theorem SendHistory.register (h : SendHistory is s) (hpc : s.pc = .head)
    (request : ClientRequest κ) :
    SendHistory (is ++ [.readRequest request]) (s.register request) := by
  obtain ⟨hle, hlost, hkept⟩ := h
  have hpending : s.pending = [] := by rw [ClientRun.pending, hpc]
  have hlast : .send .noData ∈ is ++ [.readRequest request] → .send .noData ∈ is := fun hmem => by
    simpa using hmem
  rw [hpending] at hle hlost hkept
  simp only [List.length_nil, Nat.add_zero, List.append_nil] at hle hlost hkept
  constructor
  · simpa [ClientRun.register, ClientRun.pending] using hle
  · intro hmem
    simpa [ClientRun.register, ClientRun.pending] using hlost (hlast hmem)
  · intro hno _
    have hold := hkept (fun hmem => hno (List.mem_append_left _ hmem)) (by rw [hpc]; nofun)
    simp only [ClientRun.register, ClientRun.pending, ClientRun.frames, List.map_append,
      List.map_cons, List.map_nil, hold]

/-- A send hands the pending frame over, or loses it. -/
theorem SendHistory.send (h : SendHistory is s) {id : RequestId} {request : ClientRequest κ}
    (hpc : s.pc = .sending id request) (outcome : SendOutcome) :
    SendHistory (is ++ [.send outcome]) (s.send policy id request outcome) := by
  obtain ⟨hle, hlost, hkept⟩ := h
  have hpending : s.pending = [(id, frameRequest id request.data)] := by
    rw [ClientRun.pending, hpc]
  have hafter : (s.send policy id request outcome).pending = [] := by
    cases outcome with
    | success =>
        simp only [ClientRun.pending, ClientRun.send, afterSend]
        split <;> first | rfl | exact absurd ‹_› (by split <;> nofun)
    | noData => rfl
    | failed => rfl
  rw [hpending] at hle hlost hkept
  rw [List.length_singleton] at hle hlost
  have hreads : (s.send policy id request outcome).reads = s.reads := rfl
  by_cases hsuccess : outcome = .success
  · subst hsuccess
    have haccepted : (s.send policy id request .success).accepted =
        s.accepted ++ [(id, frameRequest id request.data)] := rfl
    constructor
    · rw [hafter, haccepted, hreads, List.length_append, List.length_singleton]
      exact hle
    · rw [hafter, haccepted, hreads, List.length_append, List.length_singleton]
      exact fun hmem => hlost (by simpa using hmem)
    · intro hno _
      rw [hafter, haccepted, List.append_nil, ClientRun.frames, hreads]
      exact hkept (fun hmem => hno (List.mem_append_left _ hmem)) (by rw [hpc]; nofun)
  · -- the frame is neither pending nor accepted, and the loop goes on or ends with `false`
    have haccepted : (s.send policy id request outcome).accepted = s.accepted := if_neg hsuccess
    have hlt : s.accepted.length < s.reads.length := by omega
    constructor
    · rw [hafter, haccepted, hreads]
      exact hlt.le
    · rw [hafter, haccepted, hreads]
      exact fun _ => hlt
    · intro hno hne
      cases outcome with
      | success => exact absurd rfl hsuccess
      | noData => exact absurd (List.mem_append_right _ (List.mem_singleton_self _)) hno
      | failed => exact absurd rfl hne

/-- **Every step keeps the history of sends.** -/
theorem SendHistory.step (h : SendHistory is s)
    (hstep : clientStep policy onSuccess s i = some s') : SendHistory (is ++ [i]) s' := by
  cases clientMove_of_step hstep with
  | @connect connected n hpc =>
      refine h.congr nofun rfl rfl ?_ (by rw [hpc]; nofun)
      simp only [ClientRun.pending, hpc, connectToPipe]
      split_ifs <;> rfl
  | finish hpc =>
      refine h.congr nofun rfl rfl ?_ (by rw [hpc]; nofun)
      simp only [ClientRun.pending, hpc]
  | skip hpc hdata => exact h.congr nofun rfl rfl rfl id
  | register hpc hdata hcounter => exact h.register hpc _
  | send hpc => exact h.send hpc _
  | readFailed hpc =>
      refine h.congr nofun rfl rfl ?_ (by rw [hpc]; nofun)
      simp only [ClientRun.pending, hpc]
  | @read _ _ a hpc hdec =>
      obtain ⟨_, hreads, haccepted⟩ := s.frame_answer onSuccess a
      refine h.congr nofun haccepted hreads ?_ (by rw [hpc]; nofun)
      simp only [ClientRun.pending, hpc]
  | @arrive _ a hasync hdec =>
      obtain ⟨hpc, hreads, haccepted⟩ := s.frame_answer onSuccess a
      refine h.congr nofun haccepted hreads ?_ fun heq => hpc.trans heq
      rw [ClientRun.pending, ClientRun.pending, hpc]

/-- **Every run keeps the history of sends.** -/
theorem sendHistory_run {hasDataSource hasParser : Bool}
    (hrun : run (clientStep policy onSuccess) (.start hasDataSource hasParser) is = some s) :
    SendHistory is s :=
  invariant_history (sendHistory_start _ _) (fun _ _ _ _ _ h hstep => h.step hstep) hrun

/-- When nothing is pending and no send lost its request, everything is handed over. -/
theorem SendHistory.handedOver (h : SendHistory is s) (hpending : s.pending = [])
    (hno : .send .noData ∉ is) (hpc : s.pc ≠ .returned false) : s.HandedOver := by
  rw [ClientRun.HandedOver, ← h.kept hno hpc, hpending, List.append_nil]

/-- **Reconnection loses exactly the requests whose send found the pipe closing.**  In every run
that ends with `Client::Start` returning `true`, every request read was handed over by a send that
succeeded, once and in order, exactly when no send of the run failed with `ERROR_NO_DATA`. -/
theorem requests_handed_over (policy : ExecutionPolicy)
    (onSuccess : κ → AnyValue → ClassRepository → ClassRepository)
    (hasDataSource hasParser : Bool) (is : List (ClientEvent κ)) (s : ClientRun κ)
    (hrun : run (clientStep policy onSuccess) (.start hasDataSource hasParser) is = some s)
    (hreturned : s.pc = .returned true) :
    s.HandedOver ↔ .send .noData ∉ is := by
  have hist := sendHistory_run hrun
  have hpending : s.pending = [] := by rw [ClientRun.pending, hreturned]
  constructor
  · intro hall hmem
    have hlt := hist.lost hmem
    rw [hpending, hall, ClientRun.frames, List.length_map, List.length_nil] at hlt
    omega
  · intro hno
    exact hist.handedOver hpending hno (by rw [hreturned]; nofun)

/-- **As long as no send fails, every request read is handed over or pending.** -/
theorem ClientRun.handed_step (hstep : clientStep policy onSuccess s i = some s')
    (hsend : ∀ outcome, i = .send outcome → outcome = .success)
    (h : s.accepted ++ s.pending = s.frames) : s'.accepted ++ s'.pending = s'.frames := by
  have hsame : ∀ {t : ClientRun κ}, t.accepted = s.accepted → t.reads = s.reads →
      t.pending = s.pending → t.accepted ++ t.pending = t.frames := by
    intro t haccepted hreads hpending
    rw [haccepted, hpending, ClientRun.frames, hreads]
    exact h
  cases clientMove_of_step hstep with
  | @connect connected n hpc =>
      refine hsame rfl rfl ?_
      simp only [ClientRun.pending, hpc, connectToPipe]
      split_ifs <;> rfl
  | finish hpc => exact hsame rfl rfl (by simp only [ClientRun.pending, hpc])
  | skip _ _ => exact h
  | register hpc _ _ =>
      have hpending : s.pending = [] := by rw [ClientRun.pending, hpc]
      rw [hpending, List.append_nil] at h
      simp only [ClientRun.register, ClientRun.pending, ClientRun.frames, List.map_append,
        List.map_cons, List.map_nil, h]
  | @send outcome id request hpc =>
      rw [hsend outcome rfl]
      have hafter : (s.send policy id request .success).pending = [] := by
        simp only [ClientRun.pending, ClientRun.send, afterSend]
        split
        · next heq => split at heq <;> cases heq
        · rfl
      rw [ClientRun.pending, hpc] at h
      rw [hafter, List.append_nil]
      exact h
  | readFailed hpc => exact hsame rfl rfl (by simp only [ClientRun.pending, hpc])
  | @read _ _ a hpc _ =>
      obtain ⟨_, hreads, haccepted⟩ := s.frame_answer onSuccess a
      exact hsame haccepted hreads (by simp only [ClientRun.pending, hpc])
  | @arrive _ a _ _ =>
      obtain ⟨hpc, hreads, haccepted⟩ := s.frame_answer onSuccess a
      exact hsame haccepted hreads (by rw [ClientRun.pending, ClientRun.pending, hpc])

/-- The ids handed over are all different, and the one that is about to be sent is none of them. -/
theorem ClientInv.nodup_accepted (h : ClientInv s) (hhanded : s.accepted ++ s.pending = s.frames) :
    (s.accepted.map Prod.fst ++ s.pending.map Prod.fst).Nodup := by
  have hids : s.frames.map Prod.fst = s.readIds := by
    rw [ClientRun.frames, List.map_map]
    rfl
  rw [← List.map_append, hhanded, hids]
  exact h.nodup

end HandedOver

/-- Nothing the callbacks do matters here. -/
def ignoreValue : Unit → AnyValue → ClassRepository → ClassRepository :=
  fun _ _ repository => repository

/-- A request is read and sent; the send has this outcome, and the client connects again when it
must. -/
def oneSend (outcome : SendOutcome) : List (ClientEvent Unit) :=
  [.connect true, .readRequest { data := ascii "x" }, .send outcome] ++
    match outcome with
    | .noData => [.connect true, .finish]
    | _ => [.finish]

/-- A request that is sent is handed over. -/
theorem oneSend_handed_over :
    ∃ s, run (clientStep .sync ignoreValue) (.start true true) (oneSend .success) = some s ∧
      s.pc = .returned true ∧ s.HandedOver := by
  have hpc : (run (clientStep .sync ignoreValue) (.start true true) (oneSend .success)).map
      (fun s => s.pc) = some (.returned true) := rfl
  obtain ⟨s, hrun, hs⟩ := Option.map_eq_some_iff.1 hpc
  refine ⟨s, hrun, hs, (requests_handed_over _ _ _ _ _ s hrun hs).2 ?_⟩
  simp [oneSend]

/-- A request whose send finds the pipe closing is not, and `Client::Start` still returns `true`. -/
theorem oneSend_lost :
    ∃ s, run (clientStep .sync ignoreValue) (.start true true) (oneSend .noData) = some s ∧
      s.pc = .returned true ∧ ¬ s.HandedOver := by
  have hpc : (run (clientStep .sync ignoreValue) (.start true true) (oneSend .noData)).map
      (fun s => (s.pc, s.accepted, s.frames)) =
        some (.returned true, [], [(1, frameRequest 1 (ascii "x"))]) := rfl
  obtain ⟨s, hrun, hs⟩ := Option.map_eq_some_iff.1 hpc
  simp only [Prod.mk.injEq] at hs
  refine ⟨s, hrun, hs.1, fun hall => ?_⟩
  rw [ClientRun.HandedOver, hs.2.1, hs.2.2] at hall
  cases hall

end NamedPipeDemo
