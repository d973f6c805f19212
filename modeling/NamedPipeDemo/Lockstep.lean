/-
**One server and any number of `Sync` clients run in lockstep.**

Each client is driven by a `DemoSimulator` and has a pipe of its own: messages go to the server in
order, and the bytes of the responses come back in order.  The server takes the next message of any
client and writes the response, if it has one, before it takes another.  Everything else is
arbitrary: who moves next, which demo a simulator picks, which handle it chooses.  No call on a pipe
fails.

Nothing but a convention keeps the two sides in step.  The invariant below is joint: it ties the
repository of every client to the registry, and the place of every client to what is in its pipe.

Main definitions:

* `NamedPipeDemo.Session`, `NamedPipeDemo.System`, `NamedPipeDemo.systemStep` — the clients, their
  pipes and the server;
* `NamedPipeDemo.Traffic` — where a client is, and what is in its pipe;
* `NamedPipeDemo.SystemInv` — **the joint invariant**;
* `NamedPipeDemo.Lockstep` — what lockstep means.

Main results:

* `NamedPipeDemo.SessionInv.callbackReturns` — no callback stops with a fault;
* `NamedPipeDemo.SystemInv.step` — every turn keeps the invariant;
* `NamedPipeDemo.SystemInv.served` — a client that waits is served;
* `NamedPipeDemo.sync_lockstep` — **every reachable state is in lockstep.**
-/

import NamedPipeDemo.Client
import NamedPipeDemo.DemoRequests

set_option relaxedAutoImplicit false
set_option autoImplicit false

namespace NamedPipeDemo

open LabelledRuns

/-! ### The system -/

/-- A client, the simulator that is its data source, and its pipe: the messages on the way to the
server, and the bytes on the way back. -/
structure Session where
  sim : DemoSimulator
  client : ClientRun DemoCallback
  toServer : List RawData := []
  toClient : RawData := []

/-- The server and its clients. -/
structure System where
  server : ServerState := {}
  session : ℕ → Session

/-- Who moves: a client, with what its simulator takes from outside, or the thread of the server for
a client. -/
inductive Turn
  | client (c : ℕ) (input : DemoInput)
  | server (c : ℕ)

/-- What happens next to a client whose pipe works: it connects at once, and no call of `WriteFile`
or `ReadFile` fails. -/
def Session.event (p : Session) (input : DemoInput) : Option (ClientEvent DemoCallback) :=
  match p.client.pc with
  | .connecting _ => some (.connect true)
  | .head =>
      if p.sim.isGood then
        some (.readRequest (p.sim.readRequest input p.client.parser.repository).1)
      else some .finish
  | .sending _ _ => some (.send .success)
  | .reading _ =>
      -- `ReadFile` returns when there is something to read
      if p.toClient = [] then none else some (.readResponse (some (readFile p.toClient)))
  | .returned _ => none

/-- What the turn of a client does to its simulator and to its pipe. -/
def Session.exchange (p : Session) (input : DemoInput) : Session :=
  match p.client.pc with
  | .head =>
      if p.sim.isGood then
        { p with sim := (p.sim.readRequest input p.client.parser.repository).2 }
      else p
  | .sending id request => { p with toServer := p.toServer ++ [frameRequest id request.data] }
  | .reading _ => { p with toClient := p.toClient.drop kBufSize }
  | _ => p

/-- **The turn of a client.**  In `ReadFile` it waits for something to read; it does not get past a
callback that stops with a fault. -/
def Session.clientTurn (p : Session) (input : DemoInput) : Option Session :=
  (p.event input).bind fun i =>
    (demoStep p.client i).map fun client => { p.exchange input with client := client }

/-- The turn of a client is a step of its loop. -/
theorem Session.exists_clientStep {p p' : Session} {input : DemoInput}
    (hturn : p.clientTurn input = some p') :
    ∃ i client, p.event input = some i ∧
      clientStep .sync DemoCallback.onSuccess p.client i = some client ∧
        p' = { p.exchange input with client := client } := by
  obtain ⟨i, hi, hmap⟩ := Option.bind_eq_some_iff.1 hturn
  obtain ⟨client, hdemo, rfl⟩ := Option.map_eq_some_iff.1 hmap
  exact ⟨i, client, hi, (demoStep_eq_some.1 hdemo).2, rfl⟩

/-- **The turn of the server**, on behalf of one client: one round of
`Server::HandleClientConnection`. -/
def Session.serverTurn (env : AddressText) (w : ServerState) (c : ℕ) (p : Session) :
    Option (ServerState × Session) :=
  match p.toServer with
  | [] => none
  | data :: rest =>
      -- a message that does not fit the buffer makes `ReadFile` fail, which does not happen here
      if kBuffSize < data.length then none
      else
        match (handleClientRequest c env data).run w with
        | .ok response w' =>
            some (w', { p with toServer := rest, toClient := p.toClient ++ response.getD [] })
        | .error _ _ => none

/-- The server and one session change. -/
def System.put (s : System) (w : ServerState) (c : ℕ) (p : Session) : System where
  server := w
  session := Function.update s.session c p

@[simp] theorem System.session_put_self (s : System) (w : ServerState) (c : ℕ) (p : Session) :
    (s.put w c p).session c = p := Function.update_self ..

theorem System.session_put_of_ne (s : System) (w : ServerState) {c c' : ℕ} (p : Session)
    (h : c' ≠ c) : (s.put w c p).session c' = s.session c' := Function.update_of_ne h ..

/-- **One step of the system.** -/
def systemStep (env : AddressText) (s : System) : Turn → Option System
  | .client c input => ((s.session c).clientTurn input).map fun p => s.put s.server c p
  | .server c => ((s.session c).serverTurn env s.server c).map fun r => s.put r.1 c r.2

/-- No client has connected yet. -/
def System.start (sims : ℕ → DemoSimulator) : System where
  session c := { sim := sims c, client := .start true true }

/-! ### The joint invariant -/

/-- A message on the way to the server: its id, its request, and what the server will take it
for. -/
structure Message where
  id : RequestId
  request : ClientRequest DemoCallback
  action : Action

/-- The bytes of a message. -/
def Message.bytes (m : Message) : RawData := frameRequest m.id m.request.data

/-- The client has read the request, and the server takes it for the action. -/
structure Message.Good (w : ServerState) (reads : List (RequestId × ClientRequest DemoCallback))
    (m : Message) : Prop where
  read : (m.id, m.request) ∈ reads
  understood : Understood m.request m.action
  known : ∀ h, m.action.target = some h → w.known h = true

/-- These messages are good, and none of them waits for a response. -/
def Silent (w : ServerState) (reads : List (RequestId × ClientRequest DemoCallback))
    (ms : List Message) : Prop :=
  ∀ m ∈ ms, m.Good w reads ∧ m.request.waitForResponse = false

/-- **Where a client is, and what is in its pipe.** -/
inductive Traffic (w : ServerState) (p : Session) : Prop
  /-- The client does not wait: nothing comes back, and nothing on the way will bring a response. -/
  | quiet (ms : List Message) (hpc : ∀ id, p.client.pc ≠ .reading id)
      (hserver : p.toServer = ms.map Message.bytes) (hsilent : Silent w p.client.reads ms)
      (hclient : p.toClient = [])
  /-- The client waits, and its request is the last one on the way. -/
  | asked (ms : List Message) (m : Message) (hpc : p.client.pc = .reading m.id)
      (hserver : p.toServer = ms.map Message.bytes ++ [m.bytes])
      (hsilent : Silent w p.client.reads ms) (hm : m.Good w p.client.reads)
      (hwait : m.request.waitForResponse = true)
      (hsent : p.client.accepted.getLast? = some (m.id, m.bytes))
      (hopen : m.id ∉ p.client.answered) (hclient : p.toClient = [])
  /-- The client waits, and its response is all there is in its pipe. -/
  | answered (m : Message) (v : AnyValue) (hpc : p.client.pc = .reading m.id)
      (hserver : p.toServer = []) (hm : m.Good w p.client.reads)
      (hsent : p.client.accepted.getLast? = some (m.id, m.bytes))
      (hopen : m.id ∉ p.client.answered)
      (hclient : p.toClient = createRequestIdData m.id ++ v.serialize) (hshort : v.Short)
      (hfits : v.serialize.length + 7 ≤ kBufSize) (hexpects : Expects m.request (some v))
      (hknown : ∀ h, v = .int h → w.known h = true)
      (hreturns : ∀ callback, m.request.successCallback = some callback →
        callback.returns v = true)

/-- What holds of one client and the server. -/
structure SessionInv (w : ServerState) (p : Session) : Prop where
  client : ClientInv p.client
  repository : ∀ h ∈ p.client.parser.repository, w.known h = true
  sending : ∀ id request, p.client.pc = .sending id request → id ∉ p.client.answered ∧
    ∃ a, (Message.mk id request a).Good w p.client.reads
  traffic : Traffic w p

/-- **The joint invariant.** -/
structure SystemInv (s : System) : Prop where
  strings : s.server.StringsWithin kDemoStringSize
  session : ∀ c, SessionInv s.server (s.session c)

section Session

variable {env : AddressText} {w w' : ServerState} {p p' : Session}
  {reads reads' : List (RequestId × ClientRequest DemoCallback)}

/-- A message stays good while handles and requests are added. -/
theorem Message.Good.mono {m : Message} (h : m.Good w reads)
    (hknown : ∀ h, w.known h = true → w'.known h = true)
    (hreads : ∀ x ∈ reads, x ∈ reads') : m.Good w' reads' where
  read := hreads _ h.read
  understood := h.understood
  known h' ht := hknown h' (h.known h' ht)

theorem silent_nil : Silent w reads [] := fun _ hm => absurd hm List.not_mem_nil

/-- Silent messages stay silent while handles and requests are added. -/
theorem Silent.mono {ms : List Message} (h : Silent w reads ms)
    (hknown : ∀ h, w.known h = true → w'.known h = true)
    (hreads : ∀ x ∈ reads, x ∈ reads') : Silent w' reads' ms := by
  intro m hm
  obtain ⟨hgood, hwait⟩ := h m hm
  exact ⟨hgood.mono hknown hreads, hwait⟩

theorem Silent.tail {m : Message} {ms : List Message} (h : Silent w reads (m :: ms)) :
    Silent w reads ms := fun m' hm' => h m' (List.mem_cons_of_mem _ hm')

theorem Silent.concat {m : Message} {ms : List Message} (h : Silent w reads ms)
    (hm : m.Good w reads) (hwait : m.request.waitForResponse = false) :
    Silent w reads (ms ++ [m]) := by
  intro m' hm'
  rcases List.mem_append.1 hm' with hm' | hm'
  · exact h m' hm'
  · rw [List.mem_singleton.1 hm']
    exact ⟨hm, hwait⟩

/-- The traffic of a client stays what it is while the server serves another. -/
theorem Traffic.mono (h : Traffic w p) (hknown : ∀ h, w.known h = true → w'.known h = true) :
    Traffic w' p := by
  cases h with
  | quiet ms hpc hserver hsilent hclient =>
      exact .quiet ms hpc hserver (hsilent.mono hknown fun _ hx => hx) hclient
  | asked ms m hpc hserver hsilent hm hwait hsent hopen hclient =>
      exact .asked ms m hpc hserver (hsilent.mono hknown fun _ hx => hx)
        (hm.mono hknown fun _ hx => hx) hwait hsent hopen hclient
  | answered m v hpc hserver hm hsent hopen hclient hshort hfits hexpects hint hreturns =>
      exact .answered m v hpc hserver (hm.mono hknown fun _ hx => hx) hsent hopen hclient hshort
        hfits hexpects (fun h hv => hknown h (hint h hv)) hreturns

theorem SessionInv.mono (h : SessionInv w p)
    (hknown : ∀ h, w.known h = true → w'.known h = true) : SessionInv w' p where
  client := h.client
  repository h' hh := hknown h' (h.repository h' hh)
  sending id request hpc := by
    obtain ⟨hopen, a, ha⟩ := h.sending id request hpc
    exact ⟨hopen, a, ha.mono hknown fun _ hx => hx⟩
  traffic := h.traffic.mono hknown

/-- A client that does not wait has nothing to read. -/
theorem Traffic.of_not_reading (h : Traffic w p) (hpc : ∀ id, p.client.pc ≠ .reading id) :
    ∃ ms : List Message, p.toServer = ms.map Message.bytes ∧ Silent w p.client.reads ms ∧
      p.toClient = [] := by
  cases h with
  | quiet ms _ hserver hsilent hclient => exact ⟨ms, hserver, hsilent, hclient⟩
  | asked _ m hreading => exact absurd hreading (hpc m.id)
  | answered m _ hreading => exact absurd hreading (hpc m.id)

/-! ### The server -/

variable (env) in
/-- The server takes a good message for its action, and puts what the action answers in the
pipe. -/
theorem Session.serverTurn_of_message {m : Message} {rest : List RawData} (c : ℕ)
    (hserver : p.toServer = m.bytes :: rest) (hm : m.Good w reads) :
    p.serverTurn env w c = some (m.action.perform w,
      { p with
        toServer := rest
        toClient := p.toClient ++ ((m.action.responseValue env w).map fun v =>
          createRequestIdData m.id ++ v.serialize).getD [] }) := by
  have hfits : ¬ kBuffSize < m.bytes.length := by
    have hlen := hm.understood.fits
    rw [Message.bytes, length_frameRequest]
    omega
  have hd := hm.understood.decodes w.known m.id hm.known
  simp only [serverTurn, hserver, if_neg hfits]
  rw [Message.bytes, handleClientRequest_eq, hd]

/-- A message that does not wait is taken, and nothing comes back. -/
theorem Session.serverTurn_of_silent {m : Message} {rest : List RawData} (c : ℕ)
    (hserver : p.toServer = m.bytes :: rest) (hm : m.Good w reads)
    (hwait : m.request.waitForResponse = false) :
    p.serverTurn env w c = some (m.action.perform w, { p with toServer := rest }) := by
  rw [serverTurn_of_message env c hserver hm, hm.understood.responseValue_of_silent hwait]
  simp only [Option.map_none, Option.getD_none, List.append_nil]

variable (env) in
/-- A message that waits is taken, and its response comes back. -/
theorem Session.serverTurn_of_waiting {m : Message} {rest : List RawData} (c : ℕ)
    (hserver : p.toServer = m.bytes :: rest) (hm : m.Good w reads)
    (hwait : m.request.waitForResponse = true) :
    ∃ v, m.action.responseValue env w = some v ∧ Expects m.request (some v) ∧
      p.serverTurn env w c = some (m.action.perform w,
        { p with
          toServer := rest
          toClient := p.toClient ++ (createRequestIdData m.id ++ v.serialize) }) := by
  obtain ⟨v, hv, hexpects⟩ := hm.understood.responseValue_of_waiting hwait env w
  rw [serverTurn_of_message env c hserver hm, hv]
  exact ⟨v, rfl, hexpects, rfl⟩

/-- **The turn of the server** keeps what holds of the client it serves. -/
theorem SessionInv.serverTurn {c : ℕ} (h : SessionInv w p) (hw : w.StringsWithin kDemoStringSize)
    (hturn : p.serverTurn env w c = some (w', p')) :
    w'.StringsWithin kDemoStringSize ∧ (∀ h, w.known h = true → w'.known h = true) ∧
      SessionInv w' p' := by
  have hkeep : ∀ (m : Message), m.Good w p.client.reads →
      (m.action.perform w).StringsWithin kDemoStringSize ∧
      ∀ h, w.known h = true → (m.action.perform w).known h = true := fun m hm =>
    ⟨hw.perform hm.understood.short, fun _ => Action.known_perform⟩
  cases h.traffic with
  | quiet ms hpc hserver hsilent hclient =>
      cases ms with
      | nil =>
          rw [Session.serverTurn, hserver] at hturn
          cases hturn
      | cons m ms =>
          obtain ⟨hm, hwait⟩ := hsilent m List.mem_cons_self
          rw [Session.serverTurn_of_silent c hserver hm hwait] at hturn
          cases hturn
          obtain ⟨hstrings, hknown⟩ := hkeep m hm
          have htraffic := Traffic.quiet (p := { p with toServer := ms.map Message.bytes }) ms hpc
            rfl (hsilent.tail.mono hknown fun _ hx => hx) hclient
          exact ⟨hstrings, hknown, { h.mono hknown with traffic := htraffic }⟩
  | asked ms m hpc hserver hsilent hm hwait hsent hopen hclient =>
      cases ms with
      | nil =>
          -- the last message is the request the client waits for
          obtain ⟨v, hv, hexpects, hresponse⟩ :=
            Session.serverTurn_of_waiting env c hserver hm hwait
          rw [hresponse] at hturn
          cases hturn
          obtain ⟨hstrings, hknown⟩ := hkeep m hm
          have hlen := hw.length_response_le hv
          rw [kDemoStringSize] at hlen
          have hfits : v.serialize.length + 7 ≤ kBufSize := by
            rw [kBufSize]
            omega
          have hint : ∀ h, v = .int h → (m.action.perform w).known h = true := fun h heq =>
            Action.known_of_responseValue (heq ▸ hv)
          have htraffic := Traffic.answered (p := { p with
            toServer := []
            toClient := p.toClient ++ (createRequestIdData m.id ++ v.serialize) }) m v hpc rfl
            (hm.mono hknown fun _ hx => hx) hsent hopen (by rw [hclient]; rfl)
            (v.short_of_length (by omega)) hfits hexpects hint fun callback hcallback =>
              hm.understood.returns env w v callback hw hv hcallback
          exact ⟨hstrings, hknown, { h.mono hknown with traffic := htraffic }⟩
      | cons m' ms =>
          obtain ⟨hm', hwait'⟩ := hsilent m' List.mem_cons_self
          rw [Session.serverTurn_of_silent c hserver hm' hwait'] at hturn
          cases hturn
          obtain ⟨hstrings, hknown⟩ := hkeep m' hm'
          have htraffic := Traffic.asked
            (p := { p with toServer := ms.map Message.bytes ++ [m.bytes] }) ms m hpc rfl
            (hsilent.tail.mono hknown fun _ hx => hx) (hm.mono hknown fun _ hx => hx) hwait hsent
            hopen hclient
          exact ⟨hstrings, hknown, { h.mono hknown with traffic := htraffic }⟩
  | answered m v hpc hserver =>
      rw [Session.serverTurn, hserver] at hturn
      cases hturn

/-! ### A client -/

theorem ClassRepository.mem_registerClassHandle {repository : ClassRepository}
    {h h' : ClassHandle} (hmem : h' ∈ repository.registerClassHandle h) :
    h' ∈ repository ∨ h' = h := by
  rw [registerClassHandle] at hmem
  split at hmem
  · exact Or.inl hmem
  · exact (List.mem_append.1 hmem).imp_right List.mem_singleton.1

/-- A callback puts nothing into the repository but the handle it is given. -/
theorem DemoCallback.mem_onSuccess {callback : DemoCallback} {v : AnyValue}
    {repository : ClassRepository} {h : ClassHandle} (hmem : h ∈ onSuccess callback v repository) :
    h ∈ repository ∨ v = .int h := by
  rw [onSuccess_eq] at hmem
  cases hr : callback.registers v with
  | none =>
      rw [hr] at hmem
      exact Or.inl hmem
  | some handle =>
      rw [hr] at hmem
      exact (ClassRepository.mem_registerClassHandle hmem).imp_right fun heq => by
        rw [heq, (registers_eq_some hr).2]

/-- What a client can read is the whole response to its message, which carries this value. -/
structure Session.Receives (w : ServerState) (p : Session) (m : Message) (v : AnyValue) : Prop where
  served : p.toServer = []
  good : m.Good w p.client.reads
  sent : p.client.accepted.getLast? = some (m.id, m.bytes)
  unanswered : m.id ∉ p.client.answered
  expects : Expects m.request (some v)
  known : ∀ h, v = .int h → w.known h = true
  returns : ∀ callback, m.request.successCallback = some callback → callback.returns v = true
  decodes : decodeResponse (readFile p.toClient).1 = .ok (.deliver m.id v)
  rest : p.toClient.drop kBufSize = []

/-- What is read in front of a quiet pipe is the response the server has written. -/
theorem Traffic.read (h : Traffic w p) {id : RequestId} (hpc : p.client.pc = .reading id)
    (hne : p.toClient ≠ []) : ∃ (m : Message) (v : AnyValue), m.id = id ∧ p.Receives w m v := by
  cases h with
  | quiet _ hquiet => exact absurd hpc (hquiet id)
  | asked _ _ _ _ _ _ _ _ _ hclient => exact absurd hclient hne
  | answered m v hreading hserver hm hsent hopen hclient hshort hfits hexpects hknown hreturns =>
      rw [hpc, ClientPc.reading.injEq] at hreading
      have hlen : p.toClient.length ≤ kBufSize := by
        rw [hclient, List.length_append, length_createRequestIdData]
        omega
      have hwhole : (readFile p.toClient).1 = createRequestIdData m.id ++ v.serialize := by
        rw [← hclient]
        exact List.take_of_length_le hlen
      refine ⟨m, v, hreading.symm, hserver, hm, hsent, hopen, hexpects, hknown, hreturns, ?_,
        List.drop_of_length_le hlen⟩
      rw [hwhole, decodeResponse_serialize m.id hshort]

/-- **No callback stops with a fault** on what the server has written. -/
theorem SessionInv.callbackReturns (h : SessionInv w p) {input : DemoInput}
    {i : ClientEvent DemoCallback} (hi : p.event input = some i) :
    p.client.callbackReturns i = true := by
  cases hpc : p.client.pc with
  | connecting n =>
      simp only [Session.event, hpc, Option.some.injEq] at hi
      subst hi
      rfl
  | head =>
      simp only [Session.event, hpc] at hi
      split at hi <;> cases hi <;> rfl
  | sending id request =>
      simp only [Session.event, hpc, Option.some.injEq] at hi
      subst hi
      rfl
  | reading id =>
      simp only [Session.event, hpc] at hi
      split at hi
      · cases hi
      next hne =>
      cases hi
      obtain ⟨m, v, _, hr⟩ := h.traffic.read hpc hne
      simp only [ClientRun.callbackReturns, hr.decodes]
      exact ClientState.callbackReturns_of_lookup (h.client.lookup hr.good.read hr.unanswered)
        hr.returns
  | returned result =>
      simp only [Session.event, hpc] at hi
      cases hi

section Turn

variable {client : ClientRun DemoCallback} {input : DemoInput} {id : RequestId}
  {request : ClientRequest DemoCallback}

/-- A client that neither sends nor waits, before or after its turn. -/
theorem SessionInv.idle (h : SessionInv w p) (sim : DemoSimulator) (hclient : ClientInv client)
    (hreads : client.reads = p.client.reads)
    (hrepository : client.parser.repository = p.client.parser.repository)
    (hpc : ∀ id, p.client.pc ≠ .reading id) (hreading : ∀ id, client.pc ≠ .reading id)
    (hsending : ∀ id request, client.pc ≠ .sending id request) :
    SessionInv w { p with sim := sim, client := client } := by
  obtain ⟨ms, hserver, hsilent, hnothing⟩ := h.traffic.of_not_reading hpc
  constructor
  · exact hclient
  · rw [hrepository]
    exact h.repository
  · intro id request hpc'
    exact absurd hpc' (hsending id request)
  · exact .quiet ms hreading hserver (by rw [hreads]; exact hsilent) hnothing

/-- A client reads a request from its simulator: the server will understand it, because its handle
is in the repository. -/
theorem SessionInv.register (h : SessionInv w p) (sim : DemoSimulator)
    (hpc : ∀ id, p.client.pc ≠ .reading id) (hclient : ClientInv (p.client.register request))
    (hcounter : p.client.requestIdCounter + 1 < 2 ^ 31)
    (hunderstood : ∃ a, Understood request a ∧
      ∀ h, a.target = some h → h ∈ p.client.parser.repository) :
    SessionInv w { p with sim := sim, client := p.client.register request } := by
  obtain ⟨ms, hserver, hsilent, hnothing⟩ := h.traffic.of_not_reading hpc
  have hreads : ∀ x ∈ p.client.reads, x ∈ (p.client.register request).reads := fun x hx =>
    List.mem_append_left _ hx
  constructor
  · exact hclient
  · have hrepository : (p.client.register request).parser.repository =
        p.client.parser.repository := by
      simp only [ClientRun.register, ClientState.registerRequest]
      split <;> rfl
    rw [hrepository]
    exact h.repository
  · intro id request' hsending
    cases hsending
    obtain ⟨a, ha, htarget⟩ := hunderstood
    refine ⟨fun hans => h.client.next_notMem hcounter (h.client.answered _ hans), a, ?_, ha, ?_⟩
    · exact List.mem_append_right _ (List.mem_singleton_self _)
    · exact fun h' ht => h.repository h' (htarget h' ht)
  · exact .quiet ms (fun _ hreading => by cases hreading) hserver
      (hsilent.mono (fun _ hk => hk) hreads) hnothing

/-- A client sends its request, and waits if there will be a response. -/
theorem SessionInv.send (h : SessionInv w p) (hpc : p.client.pc = .sending id request)
    (hclient : ClientInv (p.client.send .sync id request .success)) :
    SessionInv w { p with
      client := p.client.send .sync id request .success
      toServer := p.toServer ++ [frameRequest id request.data] } := by
  obtain ⟨ms, hserver, hsilent, hnothing⟩ :=
    h.traffic.of_not_reading (by rw [hpc]; intro _ hreading; cases hreading)
  obtain ⟨hopen, a, ha⟩ := h.sending id request hpc
  have hafter : (p.client.send .sync id request .success).pc =
      if request.waitForResponse = true then .reading id else .head := by
    simp only [ClientRun.send, afterSend, true_and]
  refine ⟨hclient, h.repository, ?_, ?_⟩
  · intro id' request' hsending
    rw [hafter] at hsending
    split at hsending <;> cases hsending
  · by_cases hwait : request.waitForResponse = true
    · rw [if_pos hwait] at hafter
      exact .asked ms ⟨id, request, a⟩ hafter (by rw [hserver]; rfl) hsilent ha hwait
        List.getLast?_concat hopen hnothing
    · rw [if_neg hwait] at hafter
      refine .quiet (ms ++ [⟨id, request, a⟩]) ?_ ?_
        (hsilent.concat ha (Bool.eq_false_iff.2 hwait)) hnothing
      · intro id' hreading
        rw [hafter] at hreading
        cases hreading
      · rw [hserver, List.map_append]
        rfl

/-- A client reads its response: a handle that its callback registers exists. -/
theorem SessionInv.receive (h : SessionInv w p) {m : Message} {v : AnyValue}
    (hr : p.Receives w m v)
    (hclient : ClientInv { p.client.answer DemoCallback.onSuccess (.deliver m.id v) with
      pc := .head }) :
    SessionInv w { p with
      client := { p.client.answer DemoCallback.onSuccess (.deliver m.id v) with pc := .head }
      toClient := p.toClient.drop kBufSize } := by
  obtain ⟨_, callback, hcallback, _⟩ := hr.expects
  have hlookup := h.client.lookup hr.good.read hr.unanswered
  refine ⟨hclient, fun h' hmem => ?_, (fun _ _ hsending => by cases hsending),
    .quiet [] (fun _ hreading => by cases hreading) hr.served silent_nil hr.rest⟩
  simp only [ClientRun.answer, ResponseAction.perform, ClientState.notify, hlookup,
    ClientRequest.handleSuccess, hcallback] at hmem
  rcases DemoCallback.mem_onSuccess hmem with hold | hnew
  · exact h.repository h' hold
  · exact hr.known h' hnew

/-- **The turn of a client** keeps what holds of it. -/
theorem SessionInv.clientTurn (h : SessionInv w p) (hturn : p.clientTurn input = some p') :
    SessionInv w p' := by
  obtain ⟨i, client, hi, hstep, rfl⟩ := Session.exists_clientStep hturn
  have hclient := h.client.step hstep
  have hmove := clientMove_of_step hstep
  cases hpc : p.client.pc with
  | connecting n =>
      have hnot : ∀ id, p.client.pc ≠ .reading id := by
        intro id hreading
        rw [hpc] at hreading
        cases hreading
      simp only [Session.event, hpc, Option.some.injEq] at hi
      subst hi
      cases hmove with
      | connect _ =>
          simp only [Session.exchange, hpc]
          exact h.idle _ hclient rfl rfl hnot (fun _ hreading => by cases hreading)
            (fun _ _ hsending => by cases hsending)
  | head =>
      have hnot : ∀ id, p.client.pc ≠ .reading id := by
        intro id hreading
        rw [hpc] at hreading
        cases hreading
      simp only [Session.event, hpc] at hi
      simp only [Session.exchange, hpc]
      split at hi
      · next hgo =>
          cases hi
          rw [if_pos hgo]
          -- what the simulator returns is empty, or it is understood
          cases hmove with
          | skip _ _ =>
              exact h.idle _ hclient rfl rfl hnot hnot
                (fun _ _ hsending => by rw [hpc] at hsending; cases hsending)
          | register _ hdata hcounter =>
              have hread := p.sim.readRequest_understood input p.client.parser.repository
              exact h.register _ hnot hclient hcounter (hread.resolve_left hdata)
      · next hend =>
          cases hi
          rw [if_neg hend]
          cases hmove with
          | finish _ =>
              exact h.idle _ hclient rfl rfl hnot (fun _ hreading => by cases hreading)
                (fun _ _ hsending => by cases hsending)
  | sending id request =>
      simp only [Session.event, hpc, Option.some.injEq] at hi
      subst hi
      cases hmove with
      | @send _ id' request' hpc' =>
          rw [hpc, ClientPc.sending.injEq] at hpc'
          obtain ⟨rfl, rfl⟩ := hpc'
          simp only [Session.exchange, hpc]
          exact h.send hpc hclient
  | reading id =>
      simp only [Session.event, hpc] at hi
      split at hi
      · cases hi
      next hne =>
      cases hi
      obtain ⟨m, v, _, hr⟩ := h.traffic.read hpc hne
      cases hmove with
      | @read _ _ a _ hdec =>
          rw [hr.decodes, Except.ok.injEq] at hdec
          subst hdec
          simp only [Session.exchange, hpc]
          exact h.receive hr hclient
  | returned result =>
      simp only [Session.event, hpc] at hi
      cases hi

end Turn

end Session

/-! ### Runs -/

section Runs

variable {env : AddressText} {s s' : System} {turn : Turn}

theorem systemInv_start (sims : ℕ → DemoSimulator) : SystemInv (System.start sims) where
  strings := ServerState.stringsWithin_start _
  session c := by
    refine ⟨clientInv_start true true, fun _ hm => absurd hm List.not_mem_nil, ?_,
      .quiet [] ?_ rfl silent_nil rfl⟩
    · intro id request hsending
      cases hsending
    · intro id hreading
      cases hreading

/-- What one session and the server become keeps the invariant, if no handle disappears. -/
theorem SystemInv.put (h : SystemInv s) {w : ServerState} {c : ℕ} {p : Session}
    (hstrings : w.StringsWithin kDemoStringSize)
    (hknown : ∀ h, s.server.known h = true → w.known h = true)
    (hp : SessionInv w p) : SystemInv (s.put w c p) where
  strings := hstrings
  session c' := by
    by_cases hc : c' = c
    · rw [hc, System.session_put_self]
      exact hp
    · rw [System.session_put_of_ne s w p hc]
      exact (h.session c').mono hknown

/-- **Every turn keeps the joint invariant.** -/
theorem SystemInv.step (h : SystemInv s) (hstep : systemStep env s turn = some s') :
    SystemInv s' := by
  cases turn with
  | client c input =>
      obtain ⟨p, hturn, rfl⟩ := Option.map_eq_some_iff.1 hstep
      exact h.put h.strings (fun _ hk => hk) ((h.session c).clientTurn hturn)
  | server c =>
      obtain ⟨⟨w, p⟩, hturn, rfl⟩ := Option.map_eq_some_iff.1 hstep
      obtain ⟨hstrings, hknown, hsession⟩ := (h.session c).serverTurn h.strings hturn
      exact h.put hstrings hknown hsession

/-- Every reachable state satisfies the joint invariant. -/
theorem systemInv_run {sims : ℕ → DemoSimulator} {turns : List Turn}
    (h : run (systemStep env) (System.start sims) turns = some s) : SystemInv s :=
  invariant_run (fun _ _ _ hinv hstep => hinv.step hstep) (systemInv_start sims) h

/-! ### Lockstep -/

/-- **Lockstep.**  What holds whatever the clients, the simulators and the scheduler do. -/
structure Lockstep (env : AddressText) (s : System) : Prop where
  /-- Every handle a client knows exists on the server, -/
  registered : ∀ c, ∀ h ∈ (s.session c).client.parser.repository, s.server.known h = true
  /-- and so does every handle a simulator chooses. -/
  chosen : ∀ c rand h, h = DemoSimulator.getClassHandleAtRandom rand
    (s.session c).client.parser.repository → h ≠ kInvalidClassHandle → s.server.known h = true
  /-- The server parses every message, and its response is valid exactly when the client waits. -/
  agreed : ∀ c, ∀ data ∈ (s.session c).toServer, ∃ id request flag response w,
    (id, request) ∈ (s.session c).client.reads ∧ data = frameRequest id request.data ∧
      ((RequestParser.mk c).parseRequest env data).run s.server = .ok (flag, response) w ∧
      (response.isValid = true ↔ request.waitForResponse = true)
  /-- When a client sends, there is nothing unread in its pipe and no response will still come. -/
  clear : ∀ c id request, (s.session c).client.pc = .sending id request →
    (s.session c).toClient = [] ∧ ∀ data ∈ (s.session c).toServer, ∃ id request,
      (id, request) ∈ (s.session c).client.reads ∧ data = frameRequest id request.data ∧
        request.waitForResponse = false
  /-- What a client reads is the whole response to the request it has just sent; it has the type the
  callback of the request casts to, and the callback returns on it. -/
  matched : ∀ c id, (s.session c).client.pc = .reading id → (s.session c).toClient ≠ [] →
    ∃ request callback v,
      (s.session c).client.accepted.getLast? = some (id, frameRequest id request.data) ∧
      (s.session c).client.parser.requests.lookup id = some request ∧
      decodeResponse (readFile (s.session c).toClient).1 = .ok (.deliver id v) ∧
      (s.session c).toClient.drop kBufSize = [] ∧
      request.successCallback = some callback ∧ callback.Casts v ∧ callback.returns v = true
  /-- A client that waits has its response when the server has served its messages. -/
  served : ∀ c id, (s.session c).client.pc = .reading id → ∃ s',
    run (systemStep env) s (List.replicate (s.session c).toServer.length (.server c)) = some s' ∧
      (s'.session c).client = (s.session c).client ∧ (s'.session c).toClient ≠ []

/-- Every message on the way is good. -/
theorem Traffic.message {w : ServerState} {p : Session} (h : Traffic w p) {data : RawData}
    (hdata : data ∈ p.toServer) :
    ∃ m : Message, data = m.bytes ∧ m.Good w p.client.reads := by
  cases h with
  | quiet ms _ hserver hsilent =>
      rw [hserver] at hdata
      obtain ⟨m, hm, rfl⟩ := List.mem_map.1 hdata
      exact ⟨m, rfl, (hsilent m hm).1⟩
  | asked ms m _ hserver hsilent hlast =>
      rw [hserver] at hdata
      rcases List.mem_append.1 hdata with hdata | hdata
      · obtain ⟨m', hm', rfl⟩ := List.mem_map.1 hdata
        exact ⟨m', rfl, (hsilent m' hm').1⟩
      · exact ⟨m, List.mem_singleton.1 hdata, hlast⟩
  | answered _ _ _ hserver =>
      rw [hserver] at hdata
      exact absurd hdata List.not_mem_nil

variable (env) in
/-- The server takes the next message of a client, and leaves the client alone. -/
theorem SystemInv.serve (h : SystemInv s) {c : ℕ} {data : RawData} {rest : List RawData}
    (hserver : (s.session c).toServer = data :: rest) :
    ∃ s', systemStep env s (.server c) = some s' ∧
      (s'.session c).client = (s.session c).client ∧ (s'.session c).toServer = rest := by
  obtain ⟨m, rfl, hm⟩ := (h.session c).traffic.message (hserver ▸ List.mem_cons_self)
  have hturn := Session.serverTurn_of_message env c hserver hm
  refine ⟨_, Option.map_eq_some_iff.2 ⟨_, hturn, rfl⟩, ?_⟩
  rw [System.session_put_self]
  exact ⟨rfl, rfl⟩

/-- A client that waits and has no message on the way has its response. -/
theorem Traffic.toClient_ne_nil {w : ServerState} {p : Session} (h : Traffic w p) {id : RequestId}
    (hpc : p.client.pc = .reading id) (hserver : p.toServer = []) : p.toClient ≠ [] := by
  cases h with
  | quiet _ hquiet => exact absurd hpc (hquiet id)
  | asked ms m _ hasked =>
      rw [hserver] at hasked
      exact absurd hasked.symm (List.append_ne_nil_of_right_ne_nil _ (List.cons_ne_nil _ _))
  | answered m v _ _ _ _ _ hclient =>
      rw [hclient]
      exact List.append_ne_nil_of_left_ne_nil
        (List.append_ne_nil_of_left_ne_nil (by decide) _) _

/-- **A client that waits is served**: when the server has taken the messages in its pipe, there is
something to read. -/
theorem SystemInv.served {c : ℕ} {id : RequestId} (h : SystemInv s)
    (hpc : (s.session c).client.pc = .reading id) :
    ∃ s', run (systemStep env) s
        (List.replicate (s.session c).toServer.length (.server c)) = some s' ∧
      (s'.session c).client = (s.session c).client ∧ (s'.session c).toClient ≠ [] := by
  have hserve : ∀ t k, (SystemInv t ∧ (t.session c).client = (s.session c).client) →
      (t.session c).toServer.length = k + 1 → ∃ t', systemStep env t (.server c) = some t' ∧
        (SystemInv t' ∧ (t'.session c).client = (s.session c).client) ∧
          (t'.session c).toServer.length = k := by
    rintro t k ⟨ht, hsame⟩ hk
    obtain ⟨data, rest, hserver⟩ := List.exists_cons_of_length_eq_add_one hk
    obtain ⟨t', hstep, hclient, hrest⟩ := ht.serve env hserver
    refine ⟨t', hstep, ⟨ht.step hstep, hclient.trans hsame⟩, ?_⟩
    rw [hserver, List.length_cons] at hk
    rw [hrest]
    omega
  obtain ⟨s', hrun, ⟨hinv, hclient⟩, hlen⟩ := run_replicate
    (fun t => SystemInv t ∧ (t.session c).client = (s.session c).client)
    (fun t => (t.session c).toServer.length) hserve ⟨h, rfl⟩ rfl
  have hpc' : (s'.session c).client.pc = .reading id := by rw [hclient, hpc]
  have hnone := List.length_eq_zero_iff.1 hlen
  exact ⟨s', hrun, hclient, (hinv.session c).traffic.toClient_ne_nil hpc' hnone⟩

/-- **Every reachable state is in lockstep**: one server, any number of `Sync` clients driven by
simulators in any mode, and any interleaving, as long as no call on a pipe fails. -/
theorem sync_lockstep (env : AddressText) (sims : ℕ → DemoSimulator) (turns : List Turn)
    (s : System) (hrun : run (systemStep env) (System.start sims) turns = some s) :
    Lockstep env s := by
  have hinv := systemInv_run hrun
  have hregistered := fun c => (hinv.session c).repository
  refine ⟨hregistered, ?_, ?_, ?_, ?_, ?_⟩
  · rintro c rand h rfl hvalid
    exact hregistered c _ (DemoSimulator.getClassHandleAtRandom_mem hvalid)
  · intro c data hdata
    obtain ⟨m, rfl, hm⟩ := (hinv.session c).traffic.message hdata
    have hparse := (RequestParser.mk c).parseRequest_eq env m.bytes s.server
    rw [Message.bytes, hm.understood.decodes s.server.known m.id hm.known] at hparse
    refine ⟨m.id, m.request, (m.action.answer env m.id s.server).1,
      (m.action.answer env m.id s.server).2, _, hm.read, rfl, hparse, ?_⟩
    rw [Action.isValid_answer]
    have hexpects := hm.understood.expects env s.server
    cases hv : m.action.responseValue env s.server with
    | some v =>
        rw [hv] at hexpects
        exact ⟨fun _ => hexpects.1, fun _ => rfl⟩
    | none =>
        rw [hv, Expects] at hexpects
        rw [hexpects]
        exact iff_of_false Bool.false_ne_true Bool.false_ne_true
  · intro c id request hpc
    obtain ⟨ms, hserver, hsilent, hclient⟩ :=
      (hinv.session c).traffic.of_not_reading (by rw [hpc]; intro _ hreading; cases hreading)
    refine ⟨hclient, fun data hdata => ?_⟩
    rw [hserver] at hdata
    obtain ⟨m, hm, rfl⟩ := List.mem_map.1 hdata
    exact ⟨m.id, m.request, (hsilent m hm).1.read, rfl, (hsilent m hm).2⟩
  · intro c id hpc hne
    obtain ⟨m, v, rfl, hr⟩ := (hinv.session c).traffic.read hpc hne
    obtain ⟨_, callback, hcallback, hcasts⟩ := hr.expects
    have hlookup := (hinv.session c).client.lookup hr.good.read hr.unanswered
    exact ⟨m.request, callback, v, hr.sent, hlookup, hr.decodes, hr.rest, hcallback, hcasts,
      hr.returns callback hcallback⟩
  · intro c id hpc
    exact hinv.served hpc

end Runs

/-- Every simulator starts with the demo that creates an object. -/
def createFirst : ℕ → DemoSimulator := fun _ =>
  { mode := .stepByStep, iterations := 10, currIteration := 3 }

/-- The first client creates an object while the second one connects. -/
def createTurns : List Turn :=
  [.client 0 {}, .client 0 {}, .client 1 {}, .client 0 {}, .server 0, .client 0 {}]

/-- At the end the first client knows the object. -/
theorem createTurns_lockstep :
    ∃ s, run (systemStep default) (System.start createFirst) createTurns = some s ∧
      (s.session 0).client.parser.repository = [0] ∧ Lockstep default s := by
  have hend : (run (systemStep default) (System.start createFirst) createTurns).map
      (fun s => (s.session 0).client.parser.repository) = some [0] := by decide
  obtain ⟨s, hrun, hs⟩ := Option.map_eq_some_iff.1 hend
  exact ⟨s, hrun, hs, sync_lockstep default createFirst createTurns s hrun⟩

end NamedPipeDemo
