/-
**Handles across a reconnect.**

When a send fails with `ERROR_NO_DATA` the client drops its pipe and connects again, and it may then
talk to another process: one that was started after the first has exited, and that has an empty
`ClassRegistry`.  The `ClassRepository` of the client is a singleton, and it keeps what it has.  So
the next demo on an object names a handle of the old process; the new one does not know it, or has
another object under it.

The system of this module is one client with its simulator, under either policy, the pipe, and a
server process that exits and is started again at any time, with requests of other clients in
between.  A response that was read from the pipe of the old process may be handled after the
reconnect, under `Async`; and its reads take bytes, not responses.

Main definitions:

* `NamedPipeDemo.Reconnecting`, `NamedPipeDemo.reconnectStep` — **the system and its steps**;
* `NamedPipeDemo.Names` — a request names a handle;
* `NamedPipeDemo.HandlesValid` — what is sent names only handles that the process the client is
  connected to has returned, and no client waits for nothing;
* `NamedPipeDemo.NothingStale` — the client comes to a new process without handles, and registers
  none from a response of an old one;
* `NamedPipeDemo.ReconnectInv` — **the invariant.**

Main results:

* `NamedPipeDemo.ReconnectInv.step` — every step that meets the condition keeps the invariant;
* `NamedPipeDemo.ReconnectInv.served` — a client that waits is served;
* `NamedPipeDemo.handles_valid_along` — **handles stay valid in the runs all of whose steps meet the
  condition.**
-/

import NamedPipeDemo.Lockstep

set_option relaxedAutoImplicit false
set_option autoImplicit false

namespace NamedPipeDemo

open LabelledRuns

/-! ### The system -/

/-- One client with its simulator and its pipe, and the server process.

A process has the number of its start; `peer` is the one that the pipe leads to, or led to last, and
`linked` says that it still does.  In the pipe are the messages on the way to the server and the
bytes written to the client and not yet read.  Under `Async` there are the overlapped writes whose
completion is not yet handled (with their `wait_for_response`), the reads that have not returned,
and the buffers of the reads whose completion is not yet handled.  The last two fields are history:
the responses that the process `peer` has written to the client, and the handles of the objects it
has created at its request. -/
structure Reconnecting where
  sim : DemoSimulator
  client : ClientRun DemoCallback := .start true true
  server : Option ServerState := none
  started : ℕ := 0
  peer : ℕ := 0
  linked : Bool := false
  toServer : List RawData := []
  unread : RawData := []
  writes : List Bool := []
  reads : ℕ := 0
  filled : List RawDataType := []
  written : List RawData := []
  created : List ClassHandle := []

/-- What happens in the system. -/
inductive ReconnectEvent
  /-- A server process is started. -/
  | start
  | exit
  /-- The server closes the pipe of the client, with or without what is unread in it. -/
  | hangUp (discards : Bool)
  /-- `Pipe::Connect` returns. -/
  | connect (connected : Bool)
  | readRequest (input : DemoInput)
  | finish
  | send (outcome : SendOutcome)
  /-- The server performs a request of another client. -/
  | otherClient (a : Action)
  /-- The server handles the next message of this client, under this number. -/
  | serve (c : ℕ)
  /-- `ReadDataFromServerSync` returns. -/
  | read (success : Bool)
  /-- The completion of a write is handled. -/
  | writeCompleted (k : ℕ) (success : Bool)
  /-- An overlapped read returns. -/
  | readReturned
  /-- The completion of a read is handled. -/
  | readCompleted (k : ℕ)

/-- The handle of the object that a message makes the server create, if it does. -/
def createdBy (w : ServerState) (data : RawData) : Option ClassHandle :=
  match decodeRequest w.known data with
  | .ok (_, .create _) => some w.registry.nextHandle
  | _ => none

namespace Reconnecting

variable (s : Reconnecting)

/-- The pipe no longer leads to the server. -/
def unlink (discards : Bool) : Reconnecting :=
  { s with
    linked := false
    toServer := []
    unread := if discards then [] else s.unread }

/-- The pipe is opened anew, and leads to the process that runs.  The reads on the old handle are
cancelled; what they have read before may still be handled. -/
def link : Reconnecting :=
  { s with
    linked := true
    peer := s.started
    toServer := []
    unread := []
    reads := 0
    written := if s.peer = s.started then s.written else []
    created := if s.peer = s.started then s.created else [] }

end Reconnecting

section System

variable (policy : ExecutionPolicy) (env : AddressText)

/-- The client takes a step of its own.  A callback is taken to return: a fault that leaves it ends
the client, and with it the run. -/
def Reconnecting.clientEvent (s : Reconnecting) (i : ClientEvent DemoCallback) :
    Option Reconnecting :=
  (clientStep policy DemoCallback.onSuccess s.client i).map fun client =>
    { s with client := client }

/-- **One step of the system.** -/
def reconnectStep (s : Reconnecting) : ReconnectEvent → Option Reconnecting
  | .start =>
      match s.server with
      | none => some { s with server := some {}, started := s.started + 1 }
      | some _ => none
  | .exit =>
      match s.server with
      | some _ => some { s.unlink false with server := none }
      | none => none
  | .hangUp discards => if s.linked then some (s.unlink discards) else none
  | .connect connected =>
      if connected then
        match s.server with
        | some _ => s.link.clientEvent policy (.connect true)
        | none => none
      else s.clientEvent policy (.connect false)
  | .readRequest input =>
      if s.sim.isGood then
        let r := s.sim.readRequest input s.client.parser.repository
        ({ s with sim := r.2 } : Reconnecting).clientEvent policy (.readRequest r.1)
      else none
  | .finish => if s.sim.isGood then none else s.clientEvent policy .finish
  | .send outcome =>
      match s.client.pc, outcome with
      | .sending id request, .success =>
          if s.linked then
            ({ s with
              toServer := s.toServer ++ [frameRequest id request.data]
              writes := if policy = .async then s.writes ++ [request.waitForResponse]
                else s.writes } : Reconnecting).clientEvent policy (.send .success)
          else none
      | .sending _ _, .noData => if s.linked then none else s.clientEvent policy (.send .noData)
      | .sending _ _, .failed => s.clientEvent policy (.send .failed)
      | _, _ => none
  | .otherClient a =>
      match s.server with
      | some w =>
          -- the other clients are demos as well, and store short strings
          if a.storedString.length ≤ kDemoStringSize then
            some { s with server := some (a.perform w) }
          else none
      | none => none
  | .serve c =>
      match s.linked, s.server, s.toServer with
      | true, some w, data :: rest =>
          -- a message that does not fit the buffer makes `ReadFile` fail, and ends the thread
          if kBuffSize < data.length then none
          else
            match (handleClientRequest c env data).run w with
            | .ok response w' =>
                some { s with
                  server := some w'
                  toServer := rest
                  unread := s.unread ++ response.getD []
                  written := s.written ++ response.toList
                  created := s.created ++ (createdBy w data).toList }
            | .error _ _ => none
      | _, _, _ => none
  | .read success =>
      match s.client.pc with
      | .reading _ =>
          if success then
            -- `ReadFile` returns when there is something to read
            if s.unread = [] then none
            else
              ({ s with unread := s.unread.drop kBufSize } : Reconnecting).clientEvent policy
                (.readResponse (some (readFile s.unread)))
          else if s.linked = false ∧ s.unread = [] then s.clientEvent policy (.readResponse none)
          else none
      | _ => none
  | .writeCompleted k success =>
      match s.writes[k]? with
      | some waitForResponse =>
          some { s with
            writes := s.writes.eraseIdx k
            reads := if success && waitForResponse then s.reads + 1 else s.reads }
      | none => none
  | .readReturned =>
      if s.reads = 0 ∨ s.unread = [] then none
      else
        some { s with
          reads := s.reads - 1
          unread := s.unread.drop kBufSize
          filled := s.filled ++ [readFile s.unread] }
  | .readCompleted k =>
      match s.filled[k]? with
      | some data =>
          ({ s with filled := s.filled.eraseIdx k } : Reconnecting).clientEvent policy
            (.responseArrived data)
      | none => none

end System

/-- A request names a handle: it stands behind the class name. -/
def Names (data : RawData) (h : ClassHandle) : Prop :=
  ∃ rest, data = createCustomClassRequest ++ (serializeInt h ++ rest)

/-- A send that is accepted names only handles that the process the client is connected to has
returned to it; and they are in the registry of that process. -/
def SendsLearned (s : Reconnecting) : ReconnectEvent → Prop
  | .send .success => s.linked = true → ∀ id request, s.client.pc = .sending id request →
      ∀ h, Names request.data h → h ∈ s.created ∧ ∃ w, s.server = some w ∧ w.known h = true
  | _ => True

/-- The parser registers a handle when it is called on this buffer. -/
def Reconnecting.registers (s : Reconnecting) (data : RawDataType) : Bool :=
  match decodeResponse data.1 with
  | .ok (.register _) => true
  | .ok (.deliver id (.int _)) =>
      match s.client.parser.requests.lookup id with
      | some request => request.successCallback = some .onCustomClassCreation
      | none => false
  | _ => false

/-- The client comes to another process without handles; and a completed read registers no handle,
unless its buffer starts with a response of the process the client is connected to. -/
def NothingStale (s : Reconnecting) : ReconnectEvent → Prop
  | .connect true => s.peer ≠ s.started → s.client.parser.repository = []
  | .readCompleted k => ∀ data ∈ s.filled[k]?, s.registers data = true →
      ∃ response ∈ s.written, response <+: data.1
  | _ => True

instance NothingStale.decidable (s : Reconnecting) : ∀ i, Decidable (NothingStale s i)
  | .connect true =>
      inferInstanceAs (Decidable (s.peer ≠ s.started → s.client.parser.repository = []))
  | .readCompleted k =>
      inferInstanceAs (Decidable (∀ data ∈ s.filled[k]?, s.registers data = true →
        ∃ response ∈ s.written, response <+: data.1))
  | .connect false | .start | .exit | .hangUp _ | .readRequest _ | .finish | .send _ |
    .otherClient _ | .serve _ | .read _ | .writeCompleted _ _ | .readReturned => .isTrue trivial

/-- The client does not wait for nothing: when it waits, and its pipe leads to the process, there is
something to read as soon as the process has handled what is on the way. -/
def Unblocked (policy : ExecutionPolicy) (env : AddressText) (s : Reconnecting) : Prop :=
  ∀ id, s.client.pc = .reading id → s.linked = true → ∃ s',
    run (reconnectStep policy env) s (List.replicate s.toServer.length (.serve 0)) = some s' ∧
      s'.client = s.client ∧ s'.unread ≠ []

/-- **Handles stay valid.** -/
def HandlesValid (policy : ExecutionPolicy) (env : AddressText) (s : Reconnecting)
    (i : ReconnectEvent) : Prop :=
  SendsLearned s i ∧ Unblocked policy env s

/-! ### What a demo names -/

section Names

variable {h h' : ClassHandle} {rest : RawData}

/-- The handle that a request names is determined by the request. -/
theorem Names.eq (hn : Names (createCustomClassRequest ++ (serializeInt h ++ rest)) h') :
    h' = h := by
  obtain ⟨rest', heq⟩ := hn
  have hint := List.append_cancel_left heq
  have hlen : (serializeInt h).length = (serializeInt h').length := by
    rw [length_serializeInt, length_serializeInt]
  exact serializeInt_injective (List.append_inj_left hint hlen).symm

/-- A demo on an object names its handle. -/
theorem names_handleDemo {demoIndex : ℤ} {request : ClientRequest DemoCallback}
    (hdemo : DemoSimulator.handleDemo demoIndex h = some request) (hn : Names request.data h') :
    h' = h := by
  unfold DemoSimulator.handleDemo at hdemo
  split at hdemo <;> cases hdemo <;> exact hn.eq

/-- A create request names no handle. -/
theorem not_names_create (args : List AnyValue) : ¬ Names (createObjectRequest args) h := by
  rintro ⟨rest, heq⟩
  have hhead : some (chr '#') = some (chr 'i') :=
    congrArg List.head? (List.append_cancel_left heq)
  exact absurd hhead (by decide)

/-- A plain value names no handle. -/
theorem not_names_of_head {data : RawData} (hhead : data.head? ≠ some (chr '#')) :
    ¬ Names data h := by
  rintro ⟨rest, rfl⟩
  exact hhead rfl

/-- The demos that need no handle name none. -/
theorem not_names_plainDemo (demoIndex : ℤ) :
    ¬ Names (DemoSimulator.plainDemo demoIndex).data h := by
  unfold DemoSimulator.plainDemo
  split
  · exact not_names_of_head (by decide)
  · exact not_names_of_head (by decide)
  · exact not_names_of_head (by decide)
  · exact not_names_create _
  · exact not_names_create _
  · exact not_names_create _
  · exact not_names_of_head (by decide)

/-- **What a simulator names is in the repository.** -/
theorem names_readRequest {sim : DemoSimulator} {input : DemoInput} {repository : ClassRepository}
    (hn : Names (sim.readRequest input repository).1.data h) : h ∈ repository := by
  simp only [DemoSimulator.readRequest] at hn
  split at hn
  · next request hdemo =>
      split at hn
      · exact absurd hn (not_names_of_head fun hhead => by cases hhead)
      · next hvalid =>
          rw [names_handleDemo hdemo hn]
          exact DemoSimulator.getClassHandleAtRandom_mem hvalid
  · exact absurd hn (not_names_plainDemo _)

end Names

/-! ### The invariant -/

/-- The client has read the request, the server will take it for the action, and the object it is
about was created at the request of this client. -/
structure Message.Learned (created : List ClassHandle)
    (reads : List (RequestId × ClientRequest DemoCallback)) (m : Message) : Prop where
  read : (m.id, m.request) ∈ reads
  understood : Understood m.request m.action
  learned : ∀ h, m.action.target = some h → h ∈ created

/-- A response carries a value, and a value that is a handle is one of these. -/
def Returned (created : List ClassHandle) (response : RawData) : Prop :=
  ∃ id v, response = createRequestIdData id ++ v.serialize ∧ AnyValue.Short v ∧
    ∀ h, v = .int h → h ∈ created

/-- **Where a `Sync` client is, and what is in its pipe**, with the messages on the way. -/
inductive SyncTraffic (s : Reconnecting) (ms : List Message) : Prop
  /-- The client does not wait, and no response will come. -/
  | quiet (hpc : ∀ id, s.client.pc ≠ .reading id)
      (hsilent : ∀ m ∈ ms, m.request.waitForResponse = false) (hunread : s.unread = [])
  /-- The client waits, and its request is the last one on the way. -/
  | asked (front : List Message) (m : Message) (hpc : s.client.pc = .reading m.id)
      (hms : ms = front ++ [m]) (hsilent : ∀ m ∈ front, m.request.waitForResponse = false)
      (hwait : m.request.waitForResponse = true) (hunread : s.unread = [])
  /-- The client waits, and one response is all there is in its pipe. -/
  | answered (id : RequestId) (hpc : s.client.pc = .reading id) (hms : ms = [])
      (hunread : s.unread ∈ s.written) (hfits : s.unread.length ≤ kBufSize)
  /-- The client waits in front of a pipe that leads nowhere. -/
  | lost (id : RequestId) (hpc : s.client.pc = .reading id) (hms : ms = [])
      (hunread : s.unread = []) (hlinked : s.linked = false)

/-- The overlapped operations of a `Sync` client: there are none. -/
structure NoOverlapped (s : Reconnecting) : Prop where
  writes : s.writes = []
  reads : s.reads = 0
  filled : s.filled = []

/-- **The invariant.**  What the client has in its repository, and what it is about to send, was
created at its request by the process it talks to. -/
structure ReconnectInv (policy : ExecutionPolicy) (s : Reconnecting) (ms : List Message) :
    Prop where
  client : ClientInv s.client
  repository : ∀ h ∈ s.client.parser.repository, h ∈ s.created
  sending : ∀ id request, s.client.pc = .sending id request →
    (∃ a, (Message.mk id request a).Learned s.created s.client.reads) ∧
      ∀ h, Names request.data h → h ∈ s.created
  toServer : s.toServer = ms.map Message.bytes
  messages : ∀ m ∈ ms, m.Learned s.created s.client.reads
  written : ∀ response ∈ s.written, Returned s.created response
  peer : s.peer ≤ s.started
  link : s.linked = true → s.peer = s.started ∧ ∃ w, s.server = some w
  unlinked : s.linked = false → ms = []
  strings : ∀ w, s.server = some w → w.StringsWithin kDemoStringSize
  known : ∀ w, s.server = some w → s.peer = s.started → ∀ h ∈ s.created, w.known h = true
  waits : ∀ id, s.client.pc = .reading id → policy = .sync
  sync : policy = .sync → SyncTraffic s ms ∧ NoOverlapped s

section Invariant

variable {policy : ExecutionPolicy} {env : AddressText} {s s' : Reconnecting} {ms : List Message}
  {created created' : List ClassHandle}
  {reads reads' : List (RequestId × ClientRequest DemoCallback)} {w : ServerState}

theorem Message.Learned.mono {m : Message} (h : m.Learned created reads)
    (hcreated : ∀ h ∈ created, h ∈ created') (hreads : ∀ x ∈ reads, x ∈ reads') :
    m.Learned created' reads' where
  read := hreads _ h.read
  understood := h.understood
  learned h' ht := hcreated h' (h.learned h' ht)

theorem Returned.mono {response : RawData} (h : Returned created response)
    (hcreated : ∀ h ∈ created, h ∈ created') : Returned created' response := by
  obtain ⟨id, v, heq, hshort, hint⟩ := h
  exact ⟨id, v, heq, hshort, fun h' hv => hcreated h' (hint h' hv)⟩

variable (env) in
/-- What the server does with a message whose object it knows. -/
theorem Message.Learned.handled {m : Message} (h : m.Learned created reads) (c : ℕ)
    (hknown : ∀ h ∈ created, w.known h = true) :
    (handleClientRequest c env m.bytes).run w =
        .ok ((m.action.responseValue env w).map fun v => createRequestIdData m.id ++ v.serialize)
          (m.action.perform w) ∧
      createdBy w m.bytes = match m.action with
        | .create _ => some w.registry.nextHandle
        | _ => none := by
  have hdec : decodeRequest w.known m.bytes = .ok (m.id, m.action) :=
    h.understood.decodes w.known m.id fun h' ht => hknown h' (h.learned h' ht)
  constructor
  · rw [handleClientRequest_eq, hdec]
  · rw [createdBy, hdec]
    cases m.action <;> rfl

/-- A response that is in front of a buffer is what is decoded of it. -/
theorem decodeResponse_of_prefix {response data : RawData} (h : Returned created response)
    (hstarts : response <+: data) :
    ∃ id v, decodeResponse data = .ok (.deliver id v) ∧ ∀ h, v = .int h → h ∈ created := by
  obtain ⟨id, v, rfl, hshort, hint⟩ := h
  obtain ⟨rest, rfl⟩ := hstarts
  have hat : Segment.HasAt ((createRequestIdData id ++ v.serialize) ++ rest) 0
      (createRequestIdData id ++ v.serialize) :=
    Segment.HasAt.left (Segment.hasAt_self _)
  rw [Segment.hasAt_append_iff, length_createRequestIdData] at hat
  exact ⟨id, v, decodeResponse_framed hat.1 (valueAt_of_hasAt hshort hat.2), hint⟩

/-- A response that is delivered registers nothing but the handle it carries. -/
theorem mem_repository_deliver {client : ClientRun DemoCallback} {id : RequestId} {v : AnyValue}
    {h : ClassHandle}
    (hmem : h ∈ (client.answer DemoCallback.onSuccess (.deliver id v)).parser.repository) :
    h ∈ client.parser.repository ∨ v = .int h := by
  simp only [ClientRun.answer, ResponseAction.perform, ClientState.notify] at hmem
  split at hmem
  · next request hlookup =>
      simp only [ClientRequest.handleSuccess] at hmem
      split at hmem
      · exact DemoCallback.mem_onSuccess hmem
      · exact Or.inl hmem
  · exact Or.inl hmem

/-- A response that comes from these objects fits the buffer, and a handle it carries is the one of
the new object. -/
theorem Message.Learned.returned {m : Message} (h : m.Learned created reads)
    (hw : w.StringsWithin kDemoStringSize) (hknown : ∀ h ∈ created, w.known h = true)
    {v : AnyValue} (hv : m.action.responseValue env w = some v) :
    (createRequestIdData m.id ++ v.serialize).length ≤ kBufSize ∧
      Returned (created ++ (createdBy w m.bytes).toList)
        (createRequestIdData m.id ++ v.serialize) := by
  have hlen := hw.length_response_le hv
  rw [kDemoStringSize] at hlen
  refine ⟨?_, m.id, v, rfl, v.short_of_length (by omega), fun h' heq => ?_⟩
  · rw [List.length_append, length_createRequestIdData, kBufSize]
    omega
  · subst heq
    rw [(h.handled env 0 hknown).2]
    -- only a create command answers with a handle
    cases ha : m.action with
    | create obj =>
        rw [ha, Action.responseValue, Option.some.injEq, AnyValue.int.injEq] at hv
        rw [← hv]
        exact List.mem_append_right _ (List.mem_singleton_self _)
    | call h c =>
        rw [ha] at hv
        cases c <;> cases hv
    | _ =>
        rw [ha] at hv
        cases hv

/-! ### The client moves -/

/-- A client that does not wait has nothing to read, and nothing will come. -/
theorem SyncTraffic.of_not_reading (h : SyncTraffic s ms) (hpc : ∀ id, s.client.pc ≠ .reading id) :
    (∀ m ∈ ms, m.request.waitForResponse = false) ∧ s.unread = [] := by
  cases h with
  | quiet _ hsilent hunread => exact ⟨hsilent, hunread⟩
  | asked _ m hreading => exact absurd hreading (hpc m.id)
  | answered id hreading => exact absurd hreading (hpc id)
  | lost id hreading => exact absurd hreading (hpc id)

/-- A client that neither sends nor waits, before or after its step. -/
theorem ReconnectInv.idle (h : ReconnectInv policy s ms) (sim : DemoSimulator)
    {client : ClientRun DemoCallback} (hclient : ClientInv client)
    (hreads : client.reads = s.client.reads)
    (hrepository : client.parser.repository = s.client.parser.repository)
    (hpc : ∀ id, s.client.pc ≠ .reading id) (hreading : ∀ id, client.pc ≠ .reading id)
    (hsending : ∀ id request, client.pc ≠ .sending id request) :
    ReconnectInv policy { s with sim := sim, client := client } ms where
  client := hclient
  repository := by
    rw [hrepository]
    exact h.repository
  sending id request hpc' := absurd hpc' (hsending id request)
  toServer := h.toServer
  messages := by
    rw [hreads]
    exact h.messages
  written := h.written
  peer := h.peer
  link := h.link
  unlinked := h.unlinked
  strings := h.strings
  known := h.known
  waits id hpc' := absurd hpc' (hreading id)
  sync hsync := by
    obtain ⟨htraffic, hnone⟩ := h.sync hsync
    obtain ⟨hsilent, hunread⟩ := htraffic.of_not_reading hpc
    exact ⟨.quiet hreading hsilent hunread, hnone.writes, hnone.reads, hnone.filled⟩

/-- The client connects. -/
theorem ReconnectInv.connect (h : ReconnectInv policy s ms) {connected : Bool}
    (hstep : s.clientEvent policy (.connect connected) = some s') : ReconnectInv policy s' ms := by
  obtain ⟨client, hmove, rfl⟩ := Option.map_eq_some_iff.1 hstep
  have hclient := h.client.step hmove
  cases clientMove_of_step hmove with
  | @connect _ n hpc =>
      refine h.idle s.sim hclient rfl rfl ?_ ?_ ?_
      · intro id hreading
        rw [hpc] at hreading
        cases hreading
      · intro id hreading
        simp only [connectToPipe] at hreading
        split_ifs at hreading
      · intro id request hsending
        simp only [connectToPipe] at hsending
        split_ifs at hsending

/-- The pipe is opened anew. -/
theorem ReconnectInv.openPipe (h : ReconnectInv policy s ms)
    (hstale : s.peer ≠ s.started → s.client.parser.repository = []) {n : ℕ}
    (hpc : s.client.pc = .connecting n) (hw : s.server = some w) :
    ReconnectInv policy s.link [] where
  client := h.client
  repository h' hmem := by
    by_cases hsame : s.peer = s.started
    · simp only [Reconnecting.link, if_pos hsame]
      exact h.repository h' hmem
    · have hnone := hstale hsame
      rw [show s.link.client = s.client from rfl, hnone] at hmem
      exact absurd hmem List.not_mem_nil
  sending id request hsending := by
    rw [show s.link.client.pc = .connecting n from hpc] at hsending
    cases hsending
  toServer := rfl
  messages := List.forall_mem_nil _
  written := by
    by_cases hsame : s.peer = s.started
    · simp only [Reconnecting.link, if_pos hsame]
      exact h.written
    · simp only [Reconnecting.link, if_neg hsame]
      exact List.forall_mem_nil _
  peer := Nat.le_refl _
  link _ := ⟨rfl, w, hw⟩
  unlinked _ := rfl
  strings := h.strings
  known w' hw' _ := by
    by_cases hsame : s.peer = s.started
    · simp only [Reconnecting.link, if_pos hsame]
      exact h.known w' hw' hsame
    · simp only [Reconnecting.link, if_neg hsame]
      exact List.forall_mem_nil _
  waits := h.waits
  sync hsync := by
    obtain ⟨_, hnone⟩ := h.sync hsync
    refine ⟨.quiet ?_ (List.forall_mem_nil _) rfl, hnone.writes, rfl, hnone.filled⟩
    intro id hreading
    rw [show s.link.client.pc = .connecting n from hpc] at hreading
    cases hreading

/-- `Pipe::Connect` returns. -/
theorem ReconnectInv.connectStep (h : ReconnectInv policy s ms) {connected : Bool}
    (hi : NothingStale s (.connect connected))
    (hstep : reconnectStep policy env s (.connect connected) = some s') :
    ∃ ms', ReconnectInv policy s' ms' := by
  cases connected with
  | true =>
      simp only [reconnectStep, if_true] at hstep
      split at hstep
      swap
      · cases hstep
      next w hw =>
      obtain ⟨client, hmove, _⟩ := Option.map_eq_some_iff.1 hstep
      cases clientMove_of_step hmove with
      | connect hpc => exact ⟨[], (h.openPipe hi hpc hw).connect hstep⟩
  | false => exact ⟨ms, h.connect hstep⟩

/-- The client reads a request from its simulator. -/
theorem ReconnectInv.readRequest (h : ReconnectInv policy s ms) {input : DemoInput}
    (sim : DemoSimulator) {request : ClientRequest DemoCallback}
    (hrequest : request = (s.sim.readRequest input s.client.parser.repository).1)
    (hstep : ({ s with sim := sim } : Reconnecting).clientEvent policy (.readRequest request) =
      some s') : ReconnectInv policy s' ms := by
  obtain ⟨client, hmove, rfl⟩ := Option.map_eq_some_iff.1 hstep
  have hclient := h.client.step hmove
  have hnot {n : ClientPc DemoCallback} (hhead : n = .head) : ∀ id, n ≠ .reading id := by
    intro id hreading
    rw [hhead] at hreading
    cases hreading
  cases clientMove_of_step hmove with
  | skip hpc _ =>
      refine h.idle sim hclient rfl rfl (hnot hpc) (hnot hpc) ?_
      intro id request' hsending
      rw [show s.client.pc = .head from hpc] at hsending
      cases hsending
  | register hpc hdata hcounter =>
      have hunderstood :=
        (s.sim.readRequest_understood input s.client.parser.repository).resolve_left
          (hrequest ▸ hdata)
      obtain ⟨a, ha, htarget⟩ := hunderstood
      have hreads : ∀ x ∈ s.client.reads, x ∈ (s.client.register request).reads := fun x hx =>
        List.mem_append_left _ hx
      have hrepository : (s.client.register request).parser.repository =
          s.client.parser.repository := by
        simp only [ClientRun.register, ClientState.registerRequest]
        split <;> rfl
      refine ⟨hclient, ?_, ?_, h.toServer, ?_, h.written, h.peer, h.link, h.unlinked, h.strings,
        h.known, (fun _ hreading => by cases hreading), fun hsync => ?_⟩
      · rw [hrepository]
        exact h.repository
      · intro id request' hsending
        cases hsending
        refine ⟨⟨a, List.mem_append_right _ (List.mem_singleton_self _), hrequest ▸ ha, ?_⟩, ?_⟩
        · exact fun h' ht => h.repository h' (htarget h' ht)
        · exact fun h' hn => h.repository h' (names_readRequest (hrequest ▸ hn))
      · exact fun m hm => (h.messages m hm).mono (fun _ hc => hc) hreads
      · obtain ⟨htraffic, hnone⟩ := h.sync hsync
        obtain ⟨hsilent, hunread⟩ := htraffic.of_not_reading (hnot hpc)
        exact ⟨.quiet (fun _ hreading => by cases hreading) hsilent hunread, hnone.writes,
          hnone.reads, hnone.filled⟩

/-- A client that does not wait sends a request, and waits if there will be a response. -/
theorem SyncTraffic.send (h : SyncTraffic s ms) (hpc : ∀ id, s.client.pc ≠ .reading id)
    {m : Message} (hafter : s'.client.pc =
      if m.request.waitForResponse = true then .reading m.id else .head)
    (hunread : s'.unread = s.unread) : SyncTraffic s' (ms ++ [m]) := by
  obtain ⟨hsilent, hnothing⟩ := h.of_not_reading hpc
  by_cases hwait : m.request.waitForResponse = true
  · rw [if_pos hwait] at hafter
    exact .asked ms m hafter rfl hsilent hwait (by rwa [hunread])
  · rw [if_neg hwait] at hafter
    refine .quiet ?_ ?_ (by rwa [hunread])
    · intro id hreading
      rw [hafter] at hreading
      cases hreading
    · intro m' hm'
      rcases List.mem_append.1 hm' with hm' | hm'
      · exact hsilent m' hm'
      · rw [List.mem_singleton.1 hm']
        exact Bool.eq_false_iff.2 hwait

/-- A send that is accepted: what the request names was created by the process it goes to. -/
theorem ReconnectInv.sendSuccess (h : ReconnectInv policy s ms) {id : RequestId}
    {request : ClientRequest DemoCallback} (hpc : s.client.pc = .sending id request)
    (hlinked : s.linked = true)
    (hstep : ({ s with
      toServer := s.toServer ++ [frameRequest id request.data]
      writes := if policy = .async then s.writes ++ [request.waitForResponse]
        else s.writes } : Reconnecting).clientEvent policy (.send .success) = some s') :
    ∃ ms', ReconnectInv policy s' ms' := by
  obtain ⟨client, hmove, rfl⟩ := Option.map_eq_some_iff.1 hstep
  have hclient := h.client.step hmove
  obtain ⟨⟨a, ha⟩, _⟩ := h.sending id request hpc
  cases clientMove_of_step hmove with
  | @send _ id' request' hpc' =>
      rw [show s.client.pc = .sending id' request' from hpc', ClientPc.sending.injEq] at hpc
      obtain ⟨rfl, rfl⟩ := hpc
      have hafter : (s.client.send policy id' request' .success).pc =
          if policy = .sync ∧ request'.waitForResponse = true then .reading id' else .head := rfl
      refine ⟨ms ++ [⟨id', request', a⟩], hclient, h.repository, ?_, ?_, ?_, h.written, h.peer,
        h.link, ?_, h.strings, h.known, ?_, fun hsync => ?_⟩
      · intro id request hsending
        rw [hafter] at hsending
        split at hsending <;> cases hsending
      · rw [List.map_append, ← h.toServer]
        rfl
      · intro m hm
        rcases List.mem_append.1 hm with hm | hm
        · exact h.messages m hm
        · exact List.mem_singleton.1 hm ▸ ha
      · intro hunlinked
        rw [show s.linked = false from hunlinked] at hlinked
        cases hlinked
      · intro id hreading
        rw [hafter] at hreading
        split at hreading
        · next hboth => exact hboth.1
        · cases hreading
      · obtain ⟨htraffic, hnone⟩ := h.sync hsync
        subst hsync
        simp only [true_and] at hafter
        refine ⟨htraffic.send ?_ hafter rfl, hnone.writes, hnone.reads, hnone.filled⟩
        intro id hreading
        rw [show s.client.pc = .sending id' request' from hpc'] at hreading
        cases hreading

/-- A send that fails: the client connects again, or ends. -/
theorem ReconnectInv.sendFailure (h : ReconnectInv policy s ms) {outcome : SendOutcome}
    (houtcome : outcome ≠ .success)
    (hstep : s.clientEvent policy (.send outcome) = some s') : ReconnectInv policy s' ms := by
  obtain ⟨client, hmove, rfl⟩ := Option.map_eq_some_iff.1 hstep
  have hclient := h.client.step hmove
  cases clientMove_of_step hmove with
  | @send _ id request hpc =>
      refine h.idle s.sim hclient rfl rfl ?_ ?_ ?_
      · intro id' hreading
        rw [hpc] at hreading
        cases hreading
      · intro id' hreading
        cases outcome with
        | success => exact houtcome rfl
        | _ => cases hreading
      · intro id' request' hsending
        cases outcome with
        | success => exact houtcome rfl
        | _ => cases hsending

/-- The send returns. -/
theorem ReconnectInv.sendStep (h : ReconnectInv policy s ms) {outcome : SendOutcome}
    (hstep : reconnectStep policy env s (.send outcome) = some s') :
    ∃ ms', ReconnectInv policy s' ms' := by
  simp only [reconnectStep] at hstep
  cases hpc : s.client.pc with
  | sending id request =>
      cases outcome with
      | success =>
          simp only [hpc] at hstep
          split at hstep
          · next hlinked => exact h.sendSuccess hpc hlinked hstep
          · cases hstep
      | noData =>
          simp only [hpc] at hstep
          split at hstep
          · cases hstep
          · exact ⟨ms, h.sendFailure (fun heq => by cases heq) hstep⟩
      | failed =>
          simp only [hpc] at hstep
          exact ⟨ms, h.sendFailure (fun heq => by cases heq) hstep⟩
  | _ =>
      simp only [hpc] at hstep
      cases hstep

/-- The client returns `true`. -/
theorem ReconnectInv.finish (h : ReconnectInv policy s ms)
    (hstep : s.clientEvent policy .finish = some s') : ReconnectInv policy s' ms := by
  obtain ⟨client, hmove, rfl⟩ := Option.map_eq_some_iff.1 hstep
  have hclient := h.client.step hmove
  cases clientMove_of_step hmove with
  | finish hpc =>
      refine h.idle s.sim hclient rfl rfl ?_ (fun _ hreading => by cases hreading)
        (fun _ _ hsending => by cases hsending)
      intro id hreading
      rw [hpc] at hreading
      cases hreading

/-! ### The server moves -/

/-- The traffic stays what it is while the client stays where it is and nothing is read. -/
theorem SyncTraffic.congr (h : SyncTraffic s ms) (hpc : s'.client.pc = s.client.pc)
    (hunread : s'.unread = s.unread) (hwritten : s'.written = s.written)
    (hlinked : s.linked = false → s'.linked = false) : SyncTraffic s' ms := by
  cases h with
  | quiet hquiet hsilent hnothing =>
      exact .quiet (by rwa [hpc]) hsilent (by rwa [hunread])
  | asked front m hreading hms hsilent hwait hnothing =>
      exact .asked front m (by rwa [hpc]) hms hsilent hwait (by rwa [hunread])
  | answered id hreading hms hmem hfits =>
      exact .answered id (by rwa [hpc]) hms (by rwa [hunread, hwritten]) (by rwa [hunread])
  | lost id hreading hms hnothing hunlinked =>
      exact .lost id (by rwa [hpc]) hms (by rwa [hunread]) (hlinked hunlinked)

/-- A process is started: it is not the one the client talked to. -/
theorem ReconnectInv.start (h : ReconnectInv policy s ms) (hnone : s.server = none) :
    ReconnectInv policy { s with server := some {}, started := s.started + 1 } ms where
  client := h.client
  repository := h.repository
  sending := h.sending
  toServer := h.toServer
  messages := h.messages
  written := h.written
  peer := Nat.le_succ_of_le h.peer
  link hlinked := by
    obtain ⟨_, w, hw⟩ := h.link hlinked
    rw [hnone] at hw
    cases hw
  unlinked := h.unlinked
  strings w hw := by
    rw [← Option.some_inj.1 hw]
    exact ServerState.stringsWithin_start _
  known w _ hpeer := by
    have hle := h.peer
    rw [show s.peer = s.started + 1 from hpeer] at hle
    omega
  waits := h.waits
  sync hsync := by
    obtain ⟨htraffic, hover⟩ := h.sync hsync
    exact ⟨htraffic.congr rfl rfl rfl id, hover.writes, hover.reads, hover.filled⟩

/-- The pipe no longer leads to the server: the messages on the way are lost. -/
theorem ReconnectInv.unlink (h : ReconnectInv policy s ms) (discards : Bool) :
    ReconnectInv policy (s.unlink discards) [] where
  client := h.client
  repository := h.repository
  sending := h.sending
  toServer := rfl
  messages := List.forall_mem_nil _
  written := h.written
  peer := h.peer
  link hlinked := by cases hlinked
  unlinked _ := rfl
  strings := h.strings
  known := h.known
  waits := h.waits
  sync hsync := by
    obtain ⟨htraffic, hover⟩ := h.sync hsync
    refine ⟨?_, hover.writes, hover.reads, hover.filled⟩
    have hnothing (hunread : s.unread = []) : (s.unlink discards).unread = [] := by
      simp only [Reconnecting.unlink, hunread, ite_self]
    cases htraffic with
    | quiet hpc _ hunread =>
        exact .quiet hpc (List.forall_mem_nil _) (hnothing hunread)
    | asked front m hpc _ _ _ hunread => exact .lost m.id hpc rfl (hnothing hunread) rfl
    | answered id hpc _ hmem hfits =>
        cases discards with
        | true => exact .lost id hpc rfl rfl rfl
        | false => exact .answered id hpc rfl hmem hfits
    | lost id hpc _ hunread _ => exact .lost id hpc rfl (hnothing hunread) rfl

/-- The process exits. -/
theorem ReconnectInv.exit (h : ReconnectInv policy s ms) :
    ReconnectInv policy { s.unlink false with server := none } [] := by
  have hunlink := h.unlink false
  refine ⟨h.client, h.repository, h.sending, rfl, hunlink.messages, h.written, h.peer, ?_,
    fun _ => rfl, ?_, ?_, h.waits, fun hsync => ?_⟩
  · intro hlinked
    cases hlinked
  · intro w hw
    cases hw
  · intro w hw
    cases hw
  · obtain ⟨htraffic, hover⟩ := hunlink.sync hsync
    exact ⟨htraffic.congr rfl rfl rfl id, hover.writes, hover.reads, hover.filled⟩

/-- The server performs what another client asks for. -/
theorem ReconnectInv.otherClient (h : ReconnectInv policy s ms) {a : Action}
    (hw : s.server = some w) (hshort : a.storedString.length ≤ kDemoStringSize) :
    ReconnectInv policy { s with server := some (a.perform w) } ms := by
  refine ⟨h.client, h.repository, h.sending, h.toServer, h.messages, h.written, h.peer, ?_,
    h.unlinked, ?_, ?_, h.waits, fun hsync => ?_⟩
  · exact fun hlinked => ⟨(h.link hlinked).1, _, rfl⟩
  · intro w' hw'
    rw [← Option.some_inj.1 hw']
    exact (h.strings w hw).perform hshort
  · intro w' hw' hpeer h' hmem
    rw [← Option.some_inj.1 hw']
    exact Action.known_perform (h.known w hw hpeer h' hmem)
  · obtain ⟨htraffic, hover⟩ := h.sync hsync
    exact ⟨htraffic.congr rfl rfl rfl id, hover.writes, hover.reads, hover.filled⟩

/-- The server takes the next message, and its response is all there is to read. -/
theorem SyncTraffic.serve {m : Message} (h : SyncTraffic s (m :: ms))
    (hm : Understood m.request m.action) {response : Option RawData}
    (hresponse : response = (m.action.responseValue env w).map fun v =>
      createRequestIdData m.id ++ v.serialize)
    (hfits : ∀ data, response = some data → data.length ≤ kBufSize)
    (hclient : s'.client = s.client) (hunread : s'.unread = s.unread ++ response.getD [])
    (hwritten : s'.written = s.written ++ response.toList) : SyncTraffic s' ms := by
  -- a request that does not wait brings nothing
  have hskip (hwait : m.request.waitForResponse = false) (hnothing : s.unread = []) :
      s'.unread = [] := by
    rw [hunread, hresponse, hm.responseValue_of_silent hwait, hnothing]
    rfl
  cases h with
  | quiet hpc hsilent hnothing =>
      refine .quiet (by rwa [hclient]) (fun m' hm' => hsilent m' (List.mem_cons_of_mem m hm')) ?_
      exact hskip (hsilent m List.mem_cons_self) hnothing
  | asked front last hpc hms hsilent hwait hnothing =>
      cases front with
      | nil =>
          -- the last message is the request the client waits for
          obtain ⟨rfl, rfl⟩ := List.cons.inj hms
          obtain ⟨v, hv, _⟩ := hm.responseValue_of_waiting hwait env w
          rw [hv, Option.map_some] at hresponse
          subst hresponse
          rw [hnothing, List.nil_append, Option.getD_some] at hunread
          refine .answered m.id (by rwa [hclient]) rfl ?_ ?_
          · rw [hunread, hwritten]
            exact List.mem_append_right _ (List.mem_singleton_self _)
          · rw [hunread]
            exact hfits _ rfl
      | cons m' front =>
          obtain ⟨rfl, rfl⟩ := List.cons.inj hms
          refine .asked front last (by rwa [hclient]) rfl
            (fun m' hm' => hsilent m' (List.mem_cons_of_mem m hm')) hwait ?_
          exact hskip (hsilent m List.mem_cons_self) hnothing
  | answered id _ hms => cases hms
  | lost id _ hms => cases hms

/-- The object that a message creates is in the registry behind it. -/
theorem known_of_createdBy {m : Message} {h' : ClassHandle} (h : m.Learned created reads)
    (hknown : ∀ h ∈ created, w.known h = true) (hmem : h' ∈ (createdBy w m.bytes).toList) :
    (m.action.perform w).known h' = true := by
  rw [(h.handled default 0 hknown).2] at hmem
  cases ha : m.action with
  | create obj =>
      rw [ha] at hmem
      have hv : (Action.create obj).responseValue default w = some (.int h') :=
        congrArg (some ∘ AnyValue.int) (Option.some_inj.1 (Option.mem_toList.1 hmem))
      exact Action.known_of_responseValue hv
  | _ =>
      rw [ha] at hmem
      cases hmem

/-- The server handles a message of the client: an object it creates is one the client may name. -/
theorem ReconnectInv.serve (h : ReconnectInv policy s ms) (hlinked : s.linked = true)
    (hw : s.server = some w) {c : ℕ} {data : RawData} {rest : List RawData}
    {response : Option RawData} {w' : ServerState} (hserver : s.toServer = data :: rest)
    (hrun : (handleClientRequest c env data).run w = .ok response w') :
    ∃ ms', ReconnectInv policy { s with
      server := some w'
      toServer := rest
      unread := s.unread ++ response.getD []
      written := s.written ++ response.toList
      created := s.created ++ (createdBy w data).toList } ms' := by
  cases ms with
  | nil =>
      rw [h.toServer] at hserver
      cases hserver
  | cons m ms =>
      rw [h.toServer, List.map_cons, List.cons.injEq] at hserver
      obtain ⟨rfl, rfl⟩ := hserver
      have hm := h.messages m List.mem_cons_self
      have hpeer := (h.link hlinked).1
      have hknown := h.known w hw hpeer
      have hstrings := h.strings w hw
      rw [(hm.handled env c hknown).1] at hrun
      obtain ⟨rfl, rfl⟩ : _ = response ∧ _ = w' := by simpa using hrun
      have hkeep : ∀ h ∈ s.created, h ∈ s.created ++ (createdBy w m.bytes).toList := fun _ hc =>
        List.mem_append_left _ hc
      refine ⟨ms, h.client, fun h' hmem => hkeep h' (h.repository h' hmem), ?_, rfl, ?_, ?_, h.peer,
        fun _ => ⟨hpeer, _, rfl⟩, ?_, ?_, ?_, h.waits, fun hsync => ?_⟩
      · intro id request hpc
        obtain ⟨⟨a, ha⟩, hnames⟩ := h.sending id request hpc
        exact ⟨⟨a, ha.mono hkeep fun _ hx => hx⟩, fun h' hn => hkeep h' (hnames h' hn)⟩
      · exact fun m' hm' => (h.messages m' (List.mem_cons_of_mem m hm')).mono hkeep fun _ hx => hx
      · intro response' hmem
        rcases List.mem_append.1 hmem with hmem | hmem
        · exact (h.written response' hmem).mono hkeep
        · obtain ⟨v, hv, rfl⟩ := Option.map_eq_some_iff.1 (Option.mem_toList.1 hmem)
          exact (hm.returned hstrings hknown hv).2
      · intro hunlinked
        rw [show s.linked = false from hunlinked] at hlinked
        cases hlinked
      · intro w' hw'
        rw [← Option.some_inj.1 hw']
        exact hstrings.perform hm.understood.short
      · intro w' hw' _ h' hmem
        rw [← Option.some_inj.1 hw']
        rcases List.mem_append.1 hmem with hmem | hmem
        · exact Action.known_perform (hknown h' hmem)
        · exact known_of_createdBy hm hknown hmem
      · obtain ⟨htraffic, hover⟩ := h.sync hsync
        refine ⟨htraffic.serve hm.understood rfl ?_ rfl rfl rfl, hover.writes, hover.reads,
          hover.filled⟩
        intro data hdata
        obtain ⟨v, hv, rfl⟩ := Option.map_eq_some_iff.1 hdata
        exact (hm.returned hstrings hknown hv).1

/-! ### Responses arrive -/

/-- The client reads the response it waits for. -/
theorem ReconnectInv.read (h : ReconnectInv policy s ms) (hne : s.unread ≠ [])
    {id : RequestId} (hpc : s.client.pc = .reading id)
    (hstep : ({ s with unread := s.unread.drop kBufSize } : Reconnecting).clientEvent policy
      (.readResponse (some (readFile s.unread))) = some s') : ReconnectInv policy s' [] := by
  obtain ⟨client, hmove, rfl⟩ := Option.map_eq_some_iff.1 hstep
  have hclient := h.client.step hmove
  obtain ⟨htraffic, hover⟩ := h.sync (h.waits id hpc)
  cases htraffic with
  | quiet hquiet => exact absurd hpc (hquiet id)
  | asked _ _ _ _ _ _ hunread => exact absurd hunread hne
  | lost _ _ _ hunread => exact absurd hunread hne
  | answered _ _ hms hmem hfits =>
      subst hms
      have hwhole : s.unread <+: (readFile s.unread).1 := by
        rw [show (readFile s.unread).1 = s.unread from List.take_of_length_le hfits]
      obtain ⟨id', v, hdec, hint⟩ := decodeResponse_of_prefix (h.written _ hmem) hwhole
      cases clientMove_of_step hmove with
      | @read _ _ a _ hdec' =>
          rw [hdec, Except.ok.injEq] at hdec'
          subst hdec'
          refine ⟨hclient, fun h' hmem => ?_, (fun _ _ hsending => by cases hsending), h.toServer,
            (List.forall_mem_nil _), h.written, h.peer, h.link, fun _ => rfl,
            h.strings, h.known, (fun _ hreading => by cases hreading), fun _ => ⟨?_, ?_⟩⟩
          · rcases mem_repository_deliver hmem with hold | hnew
            · exact h.repository h' hold
            · exact hint h' hnew
          · exact .quiet (fun _ hreading => by cases hreading)
              (List.forall_mem_nil _) (List.drop_of_length_le hfits)
          · exact ⟨hover.writes, hover.reads, hover.filled⟩

/-- A read in front of a pipe that leads nowhere fails. -/
theorem ReconnectInv.readFailed (h : ReconnectInv policy s ms) (hlinked : s.linked = false)
    (hunread : s.unread = []) (hstep : s.clientEvent policy (.readResponse none) = some s') :
    ReconnectInv policy s' ms := by
  obtain ⟨client, hmove, rfl⟩ := Option.map_eq_some_iff.1 hstep
  have hclient := h.client.step hmove
  cases clientMove_of_step hmove with
  | readFailed hpc =>
      refine ⟨hclient, h.repository, (fun _ _ hsending => by cases hsending), h.toServer,
        h.messages, h.written, h.peer, h.link, h.unlinked, h.strings, h.known,
        (fun _ hreading => by cases hreading), fun hsync => ?_⟩
      obtain ⟨_, hover⟩ := h.sync hsync
      refine ⟨.quiet (fun _ hreading => by cases hreading) ?_ hunread, hover.writes, hover.reads,
        hover.filled⟩
      intro m hm
      rw [h.unlinked hlinked] at hm
      exact absurd hm List.not_mem_nil

/-- `ReadDataFromServerSync` returns. -/
theorem ReconnectInv.readStep (h : ReconnectInv policy s ms) {success : Bool}
    (hstep : reconnectStep policy env s (.read success) = some s') :
    ∃ ms', ReconnectInv policy s' ms' := by
  simp only [reconnectStep] at hstep
  split at hstep
  swap
  · cases hstep
  next id hpc =>
  cases success with
  | true =>
      simp only [if_true] at hstep
      split at hstep
      · cases hstep
      next hne => exact ⟨[], h.read hne hpc hstep⟩
  | false =>
      simp only [Bool.false_eq_true, if_false] at hstep
      split at hstep
      · next hdead => exact ⟨ms, h.readFailed hdead.1 hdead.2 hstep⟩
      · cases hstep

/-- A response that registers no handle leaves the repository alone. -/
theorem Reconnecting.repository_of_registers {data : RawDataType} {a : ResponseAction}
    (hdec : decodeResponse data.1 = .ok a) (hno : s.registers data = false) :
    (s.client.answer DemoCallback.onSuccess a).parser.repository = s.client.parser.repository := by
  rw [registers, hdec] at hno
  cases a with
  | register handle => cases hno
  | reject => rfl
  | deliver id v =>
      simp only [ClientRun.answer, ResponseAction.perform, ClientState.notify]
      cases hlookup : s.client.parser.requests.lookup id with
      | none => rfl
      | some request =>
          simp only [ClientRequest.handleSuccess]
          cases hcallback : request.successCallback with
          | none => rfl
          | some callback =>
              simp only [callback.onSuccess_eq]
              cases hr : callback.registers v with
              | none => rfl
              | some handle =>
                  -- only one callback registers, and only an `int`
                  obtain ⟨rfl, rfl⟩ := DemoCallback.registers_eq_some hr
                  simp only [hlookup, hcallback, decide_true, Bool.true_eq_false] at hno

/-- The completion of a read is handled, and what it registers the client may name. -/
theorem ReconnectInv.arrive (h : ReconnectInv policy s ms) {data : RawDataType}
    (filled : List RawDataType)
    (hstale : s.registers data = true → ∃ response ∈ s.written, response <+: data.1)
    (hstep : ({ s with filled := filled } : Reconnecting).clientEvent policy
      (.responseArrived data) = some s') : ReconnectInv policy s' ms := by
  obtain ⟨client, hmove, rfl⟩ := Option.map_eq_some_iff.1 hstep
  have hclient := h.client.step hmove
  cases clientMove_of_step hmove with
  | @arrive _ a hasync hdec =>
      obtain ⟨hpc, hreads, _⟩ := s.client.frame_answer DemoCallback.onSuccess a
      refine ⟨hclient, fun h' hmem => ?_, ?_, h.toServer, ?_, h.written, h.peer, h.link,
        h.unlinked, h.strings, h.known, ?_, fun hsync => ?_⟩
      · by_cases hregisters : s.registers data = true
        · obtain ⟨response, hwritten, hstarts⟩ := hstale hregisters
          obtain ⟨id, v, hdec', hint⟩ := decodeResponse_of_prefix (h.written _ hwritten) hstarts
          rw [hdec', Except.ok.injEq] at hdec
          subst hdec
          rcases mem_repository_deliver hmem with hold | hnew
          · exact h.repository h' hold
          · exact hint h' hnew
        · have hsame := s.repository_of_registers hdec (Bool.eq_false_iff.2 hregisters)
          exact h.repository h' (hsame ▸ hmem)
      · intro id request hsending
        obtain ⟨⟨a', ha⟩, hnames⟩ := h.sending id request (hpc.symm.trans hsending)
        exact ⟨⟨a', ha.mono (fun _ hc => hc) fun _ hx => hreads.symm ▸ hx⟩, hnames⟩
      · exact fun m hm => (h.messages m hm).mono (fun _ hc => hc) fun _ hx => hreads.symm ▸ hx
      · exact fun id hreading => h.waits id (hpc.symm.trans hreading)
      · subst hsync
        cases hasync

/-- The overlapped operations of an `Async` client change nothing but themselves and what is
unread. -/
theorem ReconnectInv.overlapped (h : ReconnectInv policy s ms) (hasync : policy ≠ .sync)
    (unread : RawData) (writes : List Bool) (reads : ℕ) (filled : List RawDataType) :
    ReconnectInv policy { s with
      unread := unread, writes := writes, reads := reads, filled := filled } ms :=
  { h with sync := fun hsync => absurd hsync hasync }

/-! ### Runs -/

/-- **Every step that meets the condition keeps the invariant.** -/
theorem ReconnectInv.step (h : ReconnectInv policy s ms) {i : ReconnectEvent}
    (hi : NothingStale s i) (hstep : reconnectStep policy env s i = some s') :
    ∃ ms', ReconnectInv policy s' ms' := by
  cases i with
  | start =>
      simp only [reconnectStep] at hstep
      split at hstep
      · next hnone =>
          cases hstep
          exact ⟨ms, h.start hnone⟩
      · cases hstep
  | exit =>
      simp only [reconnectStep] at hstep
      split at hstep
      · cases hstep
        exact ⟨[], h.exit⟩
      · cases hstep
  | hangUp discards =>
      simp only [reconnectStep] at hstep
      split at hstep
      · cases hstep
        exact ⟨[], h.unlink discards⟩
      · cases hstep
  | connect connected => exact h.connectStep hi hstep
  | readRequest input =>
      simp only [reconnectStep] at hstep
      split at hstep
      · exact ⟨ms, h.readRequest _ rfl hstep⟩
      · cases hstep
  | finish =>
      simp only [reconnectStep] at hstep
      split at hstep
      · cases hstep
      · exact ⟨ms, h.finish hstep⟩
  | send outcome => exact h.sendStep hstep
  | otherClient a =>
      simp only [reconnectStep] at hstep
      split at hstep
      swap
      · cases hstep
      next w hw =>
      split at hstep
      · next hshort =>
          cases hstep
          exact ⟨ms, h.otherClient hw hshort⟩
      · cases hstep
  | serve c =>
      simp only [reconnectStep] at hstep
      split at hstep
      swap
      · cases hstep
      next w data rest hlinked hw hserver =>
      split at hstep
      · cases hstep
      split at hstep
      · next response w' hrun =>
          cases hstep
          exact h.serve hlinked hw hserver hrun
      · cases hstep
  | read success => exact h.readStep hstep
  | writeCompleted k success =>
      simp only [reconnectStep] at hstep
      split at hstep
      swap
      · cases hstep
      next hwrite =>
      have hasync : policy ≠ .sync := by
        intro hsync
        rw [(h.sync hsync).2.writes] at hwrite
        cases hwrite
      cases hstep
      exact ⟨ms, h.overlapped hasync ..⟩
  | readReturned =>
      simp only [reconnectStep] at hstep
      split at hstep
      · cases hstep
      next hread =>
      have hasync : policy ≠ .sync := fun hsync => hread (Or.inl (h.sync hsync).2.reads)
      cases hstep
      exact ⟨ms, h.overlapped hasync ..⟩
  | readCompleted k =>
      simp only [reconnectStep] at hstep
      split at hstep
      swap
      · cases hstep
      next data hdata =>
      exact ⟨ms, h.arrive _ (hi data hdata) hstep⟩

/-- **What the client names, the process it sends to has created for it.** -/
theorem ReconnectInv.sendsLearned (h : ReconnectInv policy s ms) (i : ReconnectEvent) :
    SendsLearned s i := by
  unfold SendsLearned
  split
  · intro hlinked id request hpc h' hn
    have hmem := (h.sending id request hpc).2 h' hn
    obtain ⟨hpeer, w, hw⟩ := h.link hlinked
    exact ⟨hmem, w, hw, h.known w hw hpeer h' hmem⟩
  · trivial

variable (env) in
/-- The process takes the next message, and leaves the client alone. -/
theorem ReconnectInv.serve_next (h : ReconnectInv policy s ms) (hlinked : s.linked = true)
    {data : RawData} {rest : List RawData} (hserver : s.toServer = data :: rest) :
    ∃ s', reconnectStep policy env s (.serve 0) = some s' ∧ s'.client = s.client ∧
      s'.linked = true ∧ s'.toServer = rest := by
  obtain ⟨hpeer, w, hw⟩ := h.link hlinked
  have hmem : data ∈ ms.map Message.bytes := by
    rw [← h.toServer, hserver]
    exact List.mem_cons_self
  obtain ⟨m, hm, rfl⟩ := List.mem_map.1 hmem
  have hlearned := h.messages m hm
  have hfits : ¬ kBuffSize < m.bytes.length := by
    have hlen := hlearned.understood.fits
    rw [Message.bytes, length_frameRequest]
    omega
  have hrun := (hlearned.handled env 0 (h.known w hw hpeer)).1
  simp only [reconnectStep, hlinked, hw, hserver, if_neg hfits, hrun]
  exact ⟨_, rfl, rfl, rfl, rfl⟩

/-- A client that waits, with no message on the way in a pipe that leads to the process, has its
response. -/
theorem ReconnectInv.unread_ne_nil (h : ReconnectInv policy s ms) {id : RequestId}
    (hpc : s.client.pc = .reading id) (hlinked : s.linked = true) (hserver : s.toServer = []) :
    s.unread ≠ [] := by
  cases (h.sync (h.waits id hpc)).1 with
  | quiet hquiet => exact absurd hpc (hquiet id)
  | asked front m _ hms =>
      have hnone := h.toServer
      rw [hserver, hms, List.map_append] at hnone
      exact absurd hnone.symm (List.append_ne_nil_of_right_ne_nil _ (List.cons_ne_nil _ _))
  | answered _ _ _ hmem =>
      obtain ⟨id', v, heq, _⟩ := h.written _ hmem
      rw [heq]
      exact List.append_ne_nil_of_left_ne_nil
        (List.append_ne_nil_of_left_ne_nil (by decide) _) _
  | lost _ _ _ _ hunlinked =>
      rw [hlinked] at hunlinked
      cases hunlinked

/-- **A client that waits is served**, as long as its pipe leads to the process. -/
theorem ReconnectInv.served (h : ReconnectInv policy s ms) : Unblocked policy env s := by
  intro id hpc hlinked
  have hserve : ∀ t k, ((∃ ms, ReconnectInv policy t ms) ∧ t.client = s.client ∧ t.linked = true) →
      t.toServer.length = k + 1 → ∃ t', reconnectStep policy env t (.serve 0) = some t' ∧
        ((∃ ms, ReconnectInv policy t' ms) ∧ t'.client = s.client ∧ t'.linked = true) ∧
          t'.toServer.length = k := by
    rintro t k ⟨⟨ms, ht⟩, hsame, hlinked⟩ hk
    obtain ⟨data, rest, hserver⟩ := List.exists_cons_of_length_eq_add_one hk
    obtain ⟨t', hstep, hclient, hlinked', hrest⟩ := ht.serve_next env hlinked hserver
    have hi : NothingStale t (.serve 0) := trivial
    refine ⟨t', hstep, ⟨ht.step hi hstep, hclient.trans hsame, hlinked'⟩, ?_⟩
    rw [hserver, List.length_cons] at hk
    rw [hrest]
    omega
  obtain ⟨s', hrun, ⟨⟨ms', h'⟩, hclient, hlinked'⟩, hlen⟩ := run_replicate
    (fun t => (∃ ms, ReconnectInv policy t ms) ∧ t.client = s.client ∧ t.linked = true)
    (fun t => t.toServer.length) hserve ⟨⟨ms, h⟩, rfl, hlinked⟩ rfl
  have hpc' : s'.client.pc = .reading id := by rw [hclient, hpc]
  have hnone := List.length_eq_zero_iff.1 hlen
  exact ⟨s', hrun, hclient, h'.unread_ne_nil hpc' hlinked' hnone⟩

theorem reconnectInv_start (policy : ExecutionPolicy) (sim : DemoSimulator) :
    ReconnectInv policy { sim := sim } [] := by
  refine ⟨clientInv_start true true, (List.forall_mem_nil _),
    (fun _ _ hsending => by cases hsending), rfl, (List.forall_mem_nil _),
    (List.forall_mem_nil _), Nat.le_refl _, (fun hlinked => by cases hlinked),
    fun _ => rfl, (fun _ hw => by cases hw), (fun _ hw => by cases hw),
    (fun _ hreading => by cases hreading), fun _ => ⟨?_, rfl, rfl, rfl⟩⟩
  exact .quiet (fun _ hreading => by cases hreading) (List.forall_mem_nil _) rfl

end Invariant

/-- **Handles stay valid across reconnects in the runs in which nothing stale is met**: under either
policy, with any number of processes one after the other, and whatever other clients ask for. -/
theorem handles_valid_along (policy : ExecutionPolicy) (env : AddressText) (sim : DemoSimulator)
    (es : List ReconnectEvent)
    (hstale : Along (reconnectStep policy env) NothingStale { sim := sim } es) :
    Along (reconnectStep policy env) (HandlesValid policy env) { sim := sim } es := by
  refine Along.of_invariant (I := fun s => ∃ ms, ReconnectInv policy s ms) ?_ ?_
    ⟨[], reconnectInv_start policy sim⟩ hstale
  · rintro s i s' ⟨ms, h⟩ hi hstep
    exact h.step hi hstep
  · rintro s i ⟨ms, h⟩ _
    exact ⟨h.sendsLearned i, h.served⟩

/-! ### Two processes -/

/-- The demos are typed. -/
def typist : DemoSimulator := { mode := .manual, iterations := 10 }

/-- A demo is typed, and its request is sent. -/
def oneDemo (demoIndex : ℤ) : List ReconnectEvent :=
  [.readRequest { typed := some demoIndex }, .send .success]

/-- A demo is typed, its request is sent, and the response is read. -/
def waitingDemo (demoIndex : ℤ) : List ReconnectEvent :=
  oneDemo demoIndex ++ [.serve 0, .read true]

/-- The process exits and is started again; the client finds out when it sends. -/
def restart : List ReconnectEvent :=
  [.exit, .start, .readRequest { typed := some 0 }, .send .noData, .connect true]

/-- The client creates an object after the restart, and prints it. -/
def restartThenCreate : List ReconnectEvent :=
  [.start, .connect true] ++ oneDemo 0 ++ restart ++ waitingDemo 3 ++ waitingDemo 7

set_option maxRecDepth 4000 in
/-- A client that had no handle when it connected to the new process names only its own. -/
theorem restartThenCreate_valid :
    Along (reconnectStep .sync default) (HandlesValid .sync default) { sim := typist }
      restartThenCreate :=
  handles_valid_along .sync default typist restartThenCreate (by decide)

/-- The client creates an object before the restart. -/
def createThenRestart : List ReconnectEvent :=
  [.start, .connect true] ++ waitingDemo 3 ++ restart ++ [.readRequest { typed := some 7 }]

/-- The data of the request that is sent next. -/
def sendingData (s : Reconnecting) : RawData :=
  match s.client.pc with
  | .sending _ request => request.data
  | _ => []

/-- **A `Sync` client that has created an object names it to the next process**, which has never
returned a handle. -/
theorem createThenRestart_stale :
    ¬ ∀ (policy : ExecutionPolicy) (env : AddressText) (sim : DemoSimulator)
      (es : List ReconnectEvent),
      Along (reconnectStep policy env) (HandlesValid policy env) { sim := sim } es := by
  intro hall
  have hend : (run (reconnectStep .sync default) { sim := typist } createThenRestart).map
      (fun s => (s.linked, s.created, sendingData s)) =
      some (true, [], createCallMethodRequest 0 (ascii "PrintToString") []) := by decide
  obtain ⟨s, hrun, hs⟩ := Option.map_eq_some_iff.1 hend
  simp only [Prod.mk.injEq] at hs
  obtain ⟨hlinked, hcreated, hdata⟩ := hs
  have hlast := ((along_concat hrun).1 (hall .sync default typist
    (createThenRestart ++ [.send .success]))).2.1
  cases hpc : s.client.pc with
  | sending id request =>
      simp only [sendingData, hpc] at hdata
      have hmem := (hlast hlinked id request hpc 0 (hdata ▸ ⟨_, rfl⟩)).1
      rw [hcreated] at hmem
      exact List.not_mem_nil hmem
  | _ =>
      simp only [sendingData, hpc] at hdata
      cases hdata

end NamedPipeDemo
