/-
**What the `Sync` clients see is a store.**

Everything between the callback of a client and the object it asks for is on the way here: the
frame, the pipe to the server, the parser of the server, the registry, the response, the pipe back,
and the read of the client.  The clients move as they like, and see only their own end: a send hands
over the bytes of a request, a read returns bytes.

What they see is nevertheless a history of the abstract store, and a linearizable one: the requests
can be put into an order in which the store answers what the reads return, and in which a request
that was answered before another one was sent stands before it.  The requests of one client stand
in it in the order in which they were sent, those without a response too.

Main definitions:

* `NamedPipeDemo.Demand`, `NamedPipeDemo.Store.meet` — what a demo asks of the store;
* `NamedPipeDemo.Carries` — bytes that carry an answer of the store;
* `NamedPipeDemo.Session.observe`, `NamedPipeDemo.System.observe` — what is seen of a turn;
* `NamedPipeDemo.SessionMove` — **the moves of a client with its pipe**;
* `NamedPipeDemo.StoreView` — what was seen is a linearizable history of the store.

Main results:

* `NamedPipeDemo.DemoSimulator.readRequest_demand` — every request of a `DemoSimulator` is a demand;
* `NamedPipeDemo.StoreView.clientTurn`, `NamedPipeDemo.StoreView.serverTurn` — every turn keeps the
  view;
* `NamedPipeDemo.sync_clients_see_store` — **the clients see a linearizable store.**
-/

import NamedPipeDemo.Lockstep
import NamedPipeDemo.Linearizability

set_option relaxedAutoImplicit false
set_option autoImplicit false

namespace NamedPipeDemo

open LabelledRuns Linearizability

/-! ### Demands -/

/-- What a demo asks of the store: a command, or nothing, when the request is a plain value. -/
inductive Demand
  | command (c : Command)
  | value (v : AnyValue)
  deriving DecidableEq

/-- **The store meets a demand.**  A plain value is not answered. -/
def Store.meet (s : Store) : Demand → Option Answer × Store
  | .command c => (some (s.react c).1, (s.react c).2)
  | .value _ => (none, s)

namespace Demand

/-- The data of the request. -/
def encode : Demand → RawData
  | command c => c.encode
  | value v => v.serialize

/-- What the server takes the request for, given which handles exist. -/
def action (known : ClassHandle → Bool) : Demand → Action
  | command c => c.action known
  | value _ => .value

/-- The demands of the demos: the strings are short, and a plain value is not a `bool`, which the
server does not read. -/
def Short : Demand → Prop
  | command c => c.argument.length ≤ kDemoStringSize
  | value v => v.isBool = false ∧ v.Short

/-- **The server decodes every demand.** -/
theorem decodeRequest_encode (known : ClassHandle → Bool) (id : RequestId) {d : Demand}
    (hd : d.Short) : decodeRequest known (frameRequest id d.encode) = .ok (id, d.action known) := by
  cases d with
  | command c =>
      exact NamedPipeDemo.decodeRequest_encode known id (lt_of_le_of_lt hd (by decide))
  | value v => exact decodeRequest_value known id hd.1 hd.2

end Demand

/-! ### The demos -/

namespace DemoSimulator

theorem plainDemo_demand (demoIndex : ℤ) :
    (plainDemo demoIndex).data = [] ∨
      ∃ d : Demand, d.Short ∧ (plainDemo demoIndex).data = d.encode := by
  have hstring : (AnyValue.string (ascii "loli PoPq !@??zz z '\\ ~")).Short := by
    show (ascii "loli PoPq !@??zz z '\\ ~").length < 2 ^ 31
    decide
  have hhello : (Command.createIntString 52 (ascii "Hello World")).argument.length ≤
      kDemoStringSize := by decide
  unfold plainDemo
  split
  · exact Or.inr ⟨.value (.int 42), ⟨rfl, trivial⟩, rfl⟩
  · exact Or.inr ⟨.value (.double 0xc0ac94506a2b1705#64), ⟨rfl, trivial⟩, rfl⟩
  · exact Or.inr ⟨.value (.string _), ⟨rfl, hstring⟩, rfl⟩
  · exact Or.inr ⟨.command .create, Nat.zero_le _, rfl⟩
  · exact Or.inr ⟨.command (.createInt 52), Nat.zero_le _, rfl⟩
  · exact Or.inr ⟨.command (.createIntString 52 (ascii "Hello World")), hhello, rfl⟩
  · exact Or.inl rfl

theorem handleDemo_demand {demoIndex : ℤ} {h : ClassHandle}
    {request : ClientRequest DemoCallback} (hdemo : handleDemo demoIndex h = some request) :
    ∃ d : Demand, d.Short ∧ request.data = d.encode := by
  unfold handleDemo at hdemo
  split at hdemo
  · cases hdemo
    exact ⟨.command (.printToCout h), Nat.zero_le _, rfl⟩
  · cases hdemo
    exact ⟨.command (.printToString h), Nat.zero_le _, rfl⟩
  · cases hdemo
    exact ⟨.command (.setIntegerValue h 750), Nat.zero_le _, rfl⟩
  · cases hdemo
    exact ⟨.command (.setStringValue h (ascii "Hello World From Client")), Nat.le_refl 23, rfl⟩
  · cases hdemo
    exact ⟨.command (.getInstance h), Nat.zero_le _, rfl⟩
  · cases hdemo

/-- **Every request of a `DemoSimulator` is empty, or a demand.** -/
theorem readRequest_demand (sim : DemoSimulator) (input : DemoInput)
    (repository : ClassRepository) :
    (sim.readRequest input repository).1.data = [] ∨
      ∃ d : Demand, d.Short ∧ (sim.readRequest input repository).1.data = d.encode := by
  simp only [readRequest]
  split
  · next request hdemo =>
      split
      · exact Or.inl rfl
      · exact Or.inr (handleDemo_demand hdemo)
  · exact plainDemo_demand _

end DemoSimulator

/-! ### One demand -/

/-- **The bytes carry the answer**: they are those of a response that conveys it, and there are none
where the response is not valid, or the store does not answer. -/
def Carries (env : AddressText) (k : ℕ × RequestId) (bytes : RawData) : Option Answer → Prop
  | some answer => ∃ r : Bool × ServerResponse, Conveys env (some r) (k.2, answer) ∧
      bytes = if r.2.isValid then r.2.dataToSend else []
  | none => bytes = []

section Demands

variable {w : ServerState} {t : Store}

/-- The bytes the server writes for an action. -/
def Action.responseBytes (env : AddressText) (id : RequestId) (a : Action) (w : ServerState) :
    RawData :=
  ((a.responseValue env w).map fun v => createRequestIdData id ++ v.serialize).getD []

theorem Action.responseBytes_eq (env : AddressText) (id : RequestId) (a : Action)
    (w : ServerState) :
    a.responseBytes env id w =
      if (a.answer env id w).2.isValid then (a.answer env id w).2.dataToSend else [] := by
  have hsnd := a.answer_snd env id w
  rw [responseBytes]
  cases hv : a.responseValue env w with
  | some v =>
      rw [hv] at hsnd
      obtain ⟨hdata, hid, hvalid⟩ := hsnd
      rw [if_pos hvalid, ServerResponse.dataToSend, hdata, hid]
      rfl
  | none =>
      rw [hv] at hsnd
      simp only at hsnd
      simp only [hsnd, Bool.false_eq_true, if_false, Option.map_none, Option.getD_none]

/-- What the server is told to store is the string among the arguments. -/
theorem Demand.length_storedString (known : ClassHandle → Bool) {d : Demand} (hd : d.Short) :
    (d.action known).storedString.length ≤ kDemoStringSize := by
  have hreject : Action.reject.storedString.length ≤ kDemoStringSize := Nat.zero_le _
  cases d with
  | value v => exact Nat.zero_le _
  | command c =>
      cases c with
      | create | createInt => exact Nat.zero_le _
      | createIntString => exact hd
      | setStringValue h str =>
          simp only [action, Command.action]
          split
          · exact hd
          · exact hreject
      | setIntegerValue | printToCout | printToString | getInstance =>
          simp only [action, Command.action]
          split <;> exact Nat.zero_le _

/-- **One demand.**  When the registry stands for the store, the bytes that are written carry what
the store answers, and the new registry stands for the new store. -/
theorem represents_meet (env : AddressText) (k : ℕ × RequestId) (hr : Represents w t)
    (hw : RegistryInv w.registry) (hlt : t.length < 2 ^ 31) {d : Demand} (hd : d.Short)
    (hknown : ∀ h, (d.action w.known).target = some h → w.known h = true) :
    Carries env k ((d.action w.known).responseBytes env k.2 w) (t.meet d).1 ∧
      Represents ((d.action w.known).perform w) (t.meet d).2 ∧
      RegistryInv ((d.action w.known).perform w).registry := by
  have hstored := (Demand.length_storedString w.known hd).trans
    (by decide : kDemoStringSize ≤ kBuffSize)
  refine ⟨?_, ?_, hw.perform (hr.counter ▸ hlt) hknown hstored⟩
  · cases d with
    | command c =>
        exact ⟨_, conveys_answer env k.2 hr hw hlt hknown, Action.responseBytes_eq ..⟩
    | value v => rfl
  · cases d with
    | command c => exact represents_perform hr hw hlt c
    | value v => exact hr

/-- A command that the server would take for the same if every handle existed is not about an
unknown object. -/
theorem Represents.answer_ne_unknown (hr : Represents w t) {c : Command}
    (hsame : c.action w.known = c.action fun _ => true) : (t.react c).1 ≠ .unknown := by
  have hon : ∀ (h : ClassHandle) (a : Action) (f : CInt × RawData → Answer × Store),
      (if w.known h = true then a else .reject) = a → a ≠ .reject →
      (∀ obj, (f obj).1 ≠ .unknown) → (t.onObject h f).1 ≠ .unknown := by
    intro h a f ha hne hf
    rw [Store.onObject]
    cases hp : t.find h with
    | none =>
        rw [hr.unknown hp] at ha
        exact absurd ha.symm hne
    | some obj => exact hf obj
  cases c with
  | create | createInt | createIntString => exact fun heq => by cases heq
  | setIntegerValue | setStringValue | printToCout | printToString | getInstance =>
      exact hon _ _ _ hsame (fun heq => by cases heq) fun _ heq => by cases heq

/-- The same of a demand. -/
theorem Represents.meet_ne_unknown (hr : Represents w t) {d : Demand}
    (hsame : d.action w.known = d.action fun _ => true) : (t.meet d).1 ≠ some .unknown := by
  cases d with
  | command c => exact fun heq => hr.answer_ne_unknown hsame (Option.some_inj.1 heq)
  | value v => exact (Option.some_ne_none _).symm

end Demands

/-! ### What is seen -/

/-- What is seen of a client that moves: a send hands over a frame, a read returns bytes.  A request
is named by its client and its id. -/
def Session.observe (c : ℕ) (p : Session) : List (Event (ℕ × RequestId) RawData RawData) :=
  match p.client.pc with
  | .sending id request => [.call (c, id) (frameRequest id request.data)]
  | .reading id => [.return_ (c, id) (readFile p.toClient).1]
  | _ => []

/-- **What is seen of a turn.**  Nothing is seen of the server. -/
def System.observe (s : System) : Turn → List (Event (ℕ × RequestId) RawData RawData)
  | .client c _ => (s.session c).observe c
  | .server _ => []

/-- The frame is the frame of the demand. -/
def Frames (k : ℕ × RequestId) (frame : RawData) (d : Demand) : Prop :=
  frame = frameRequest k.2 d.encode

/-- The requests of one client. -/
def requestsOf (c : ℕ) : Naming RequestId (ℕ × RequestId) where
  name id := (c, id)
  own k := if k.1 = c then some k.2 else none
  own_eq_some k id := by
    rw [Option.ite_none_right_eq_some, Option.some_inj]
    constructor
    · rintro ⟨rfl, rfl⟩
      rfl
    · rintro rfl
      exact ⟨rfl, rfl⟩

/-- **The moves of a client with its pipe.** -/
inductive SessionMove (p : Session) (input : DemoInput) : Session → Prop
  | idle {client : ClientRun DemoCallback} (sim : DemoSimulator)
      (hsending : ∀ id request, p.client.pc ≠ .sending id request)
      (hreading : ∀ id, p.client.pc ≠ .reading id)
      (haccepted : client.accepted = p.client.accepted)
      (hreads : client.reads = p.client.reads) :
      SessionMove p input { p with sim := sim, client := client }
  | register {request : ClientRequest DemoCallback} (sim : DemoSimulator)
      (hpc : p.client.pc = .head)
      (hread : request = (p.sim.readRequest input p.client.parser.repository).1)
      (hdata : request.data ≠ []) :
      SessionMove p input { p with sim := sim, client := p.client.register request }
  | send {id : RequestId} {request : ClientRequest DemoCallback}
      (hpc : p.client.pc = .sending id request) :
      SessionMove p input { p with
        client := p.client.send .sync id request .success
        toServer := p.toServer ++ [frameRequest id request.data] }
  | read {id : RequestId} {a : ResponseAction} (hpc : p.client.pc = .reading id)
      (hne : p.toClient ≠ []) (hdec : decodeResponse (readFile p.toClient).1 = .ok a) :
      SessionMove p input { p with
        client := { p.client.answer DemoCallback.onSuccess a with pc := .head }
        toClient := p.toClient.drop kBufSize }

/-- **Every turn of a client is one of the moves.** -/
theorem sessionMove_of_turn {p p' : Session} {input : DemoInput}
    (hturn : p.clientTurn input = some p') : SessionMove p input p' := by
  obtain ⟨i, client, hi, hstep, rfl⟩ := Session.exists_clientStep hturn
  have hmove := clientMove_of_step hstep
  cases hpc : p.client.pc with
  | connecting n =>
      simp only [Session.event, hpc, Option.some.injEq] at hi
      subst hi
      cases hmove with
      | connect hpc' =>
          simp only [Session.exchange, hpc]
          exact .idle _ (fun _ _ heq => by rw [hpc] at heq; cases heq)
            (fun _ heq => by rw [hpc] at heq; cases heq) rfl rfl
  | head =>
      simp only [Session.event, hpc] at hi
      simp only [Session.exchange, hpc]
      have hsending : ∀ id request, p.client.pc ≠ .sending id request := fun _ _ heq => by
        rw [hpc] at heq
        cases heq
      have hreading : ∀ id, p.client.pc ≠ .reading id := fun _ heq => by
        rw [hpc] at heq
        cases heq
      split at hi
      · next hgo =>
          cases hi
          rw [if_pos hgo]
          cases hmove with
          | skip _ _ => exact .idle _ hsending hreading rfl rfl
          | register _ hdata _ => exact .register _ hpc rfl hdata
      · next hend =>
          cases hi
          rw [if_neg hend]
          cases hmove with
          | finish _ => exact .idle _ hsending hreading rfl rfl
  | sending id request =>
      simp only [Session.event, hpc, Option.some.injEq] at hi
      subst hi
      cases hmove with
      | @send _ id' request' hpc' =>
          rw [hpc, ClientPc.sending.injEq] at hpc'
          obtain ⟨rfl, rfl⟩ := hpc'
          simp only [Session.exchange, hpc]
          exact .send hpc
  | reading id =>
      simp only [Session.event, hpc] at hi
      split at hi
      · cases hi
      next hne =>
      cases hi
      cases hmove with
      | read _ hdec =>
          simp only [Session.exchange, hpc]
          exact .read hpc hne hdec
  | returned result =>
      simp only [Session.event, hpc] at hi
      cases hi

/-! ### The view -/

/-- **Where the requests of a client are**: in front of the pipe, in it, or behind the step of the
store; and what can be read is the answer to the last one. -/
structure SessionView (env : AddressText) (g : List (Event (ℕ × RequestId) Demand (Option Answer)))
    (w : List (Done (ℕ × RequestId) Demand (Option Answer))) (c : ℕ) (p : Session) : Prop where
  demands : ∀ x ∈ p.client.reads, ∃ d : Demand, d.Short ∧ x.2.data = d.encode
  order : ∃ ms : List (RequestId × Demand),
    InOrder (requestsOf c) g w (p.client.accepted.map Prod.fst) ms ∧
      p.toServer = ms.map (fun m => frameRequest m.1 m.2.encode) ∧ ∀ m ∈ ms, m.2.Short
  answered : p.toClient ≠ [] → ∃ d ∈ w, d.call.1 = c ∧
    (∃ data, p.client.accepted.getLast? = some (d.call.2, data)) ∧
      Carries env d.call p.toClient d.answer

/-- **What was seen is a history of the store, and it linearizes to the store that the registry
stands for.** -/
structure StoreView (env : AddressText) (h : List (Event (ℕ × RequestId) RawData RawData))
    (s : System) (g : List (Event (ℕ × RequestId) Demand (Option Answer)))
    (w : List (Done (ℕ × RequestId) Demand (Option Answer))) (t : Store) : Prop where
  linearizes : LinearizesTo Store.meet [] g w t
  seen : List.Forall₂ (Event.Rel Frames (Carries env)) h g
  represents : Represents s.server t
  registry : RegistryInv s.server.registry
  known : ∀ d ∈ w, d.answer ≠ some .unknown
  session : ∀ c, SessionView env g w c (s.session c)

section Session

variable {env : AddressText} {g g' : List (Event (ℕ × RequestId) Demand (Option Answer))}
  {w w' : List (Done (ℕ × RequestId) Demand (Option Answer))} {c : ℕ} {p : Session}

/-- What other clients see and get does not change the view of this one. -/
theorem SessionView.mono (hv : SessionView env g w c p)
    {e : List (Event (ℕ × RequestId) Demand (Option Answer))} (he : ∀ id d, .call (c, id) d ∉ e) :
    SessionView env (g ++ e) w c p where
  demands := hv.demands
  order := by
    obtain ⟨ms, horder, hrest⟩ := hv.order
    exact ⟨ms, horder.mono he, hrest⟩
  answered := hv.answered

theorem SessionView.other (hv : SessionView env g w c p)
    {d : Done (ℕ × RequestId) Demand (Option Answer)} (hd : d.call.1 ≠ c) :
    SessionView env g (w ++ [d]) c p where
  demands := hv.demands
  order := by
    obtain ⟨ms, horder, hrest⟩ := hv.order
    exact ⟨ms, horder.other (if_neg hd), hrest⟩
  answered hne := by
    obtain ⟨d, hd, hrest⟩ := hv.answered hne
    exact ⟨d, List.mem_append_left _ hd, hrest⟩

/-- A client that neither sends nor reads. -/
theorem SessionView.idle (hv : SessionView env g w c p) (sim : DemoSimulator)
    {client : ClientRun DemoCallback} (haccepted : client.accepted = p.client.accepted)
    (hreads : client.reads = p.client.reads) :
    SessionView env g w c { p with sim := sim, client := client } where
  demands := by
    simp only [hreads]
    exact hv.demands
  order := by
    simp only [haccepted]
    exact hv.order
  answered := by
    simp only [haccepted]
    exact hv.answered

/-- A client reads a demand from its simulator. -/
theorem SessionView.register (hv : SessionView env g w c p) (sim : DemoSimulator)
    {request : ClientRequest DemoCallback}
    (hdemand : ∃ d : Demand, d.Short ∧ request.data = d.encode) :
    SessionView env g w c { p with sim := sim, client := p.client.register request } where
  demands x hx := by
    rcases List.mem_append.1 hx with hx | hx
    · exact hv.demands x hx
    · rw [List.mem_singleton.1 hx]
      exact hdemand
  order := hv.order
  answered := hv.answered

/-- A client hands over its demand. -/
theorem SessionView.send (hv : SessionView env g w c p) {id : RequestId}
    {request : ClientRequest DemoCallback} {d : Demand} (hd : d.Short)
    (hdata : request.data = d.encode) (hempty : p.toClient = []) :
    SessionView env (g ++ [.call (c, id) d]) w c { p with
      client := p.client.send .sync id request .success
      toServer := p.toServer ++ [frameRequest id request.data] } where
  demands := hv.demands
  order := by
    obtain ⟨ms, horder, hserver, hshort⟩ := hv.order
    have haccepted : (p.client.send .sync id request .success).accepted.map Prod.fst =
        p.client.accepted.map Prod.fst ++ [id] := List.map_append
    refine ⟨ms ++ [(id, d)], haccepted ▸ horder.send, ?_, fun m hm => ?_⟩
    · simp only [hserver, hdata, List.map_append, List.map_cons, List.map_nil]
    · rcases List.mem_append.1 hm with hm | hm
      · exact hshort m hm
      · rw [List.mem_singleton.1 hm]
        exact hd
  answered hne := absurd hempty hne

/-- A client reads all there is. -/
theorem SessionView.read (hv : SessionView env g w c p) {id : RequestId} {a : ResponseAction}
    {answer : Option Answer} (hrest : p.toClient.drop kBufSize = []) :
    SessionView env (g ++ [.return_ (c, id) answer]) w c { p with
      client := { p.client.answer DemoCallback.onSuccess a with pc := .head }
      toClient := p.toClient.drop kBufSize } := by
  obtain ⟨_, hreads, haccepted⟩ := p.client.frame_answer DemoCallback.onSuccess a
  have hidle : SessionView env g w c { p with
      client := { p.client.answer DemoCallback.onSuccess a with pc := .head } } :=
    hv.idle p.sim haccepted hreads
  have hmono := hidle.mono (e := [.return_ (c, id) answer]) fun id' d hmem => by
    cases List.mem_singleton.1 hmem
  exact ⟨hmono.demands, hmono.order, fun hne => absurd hrest hne⟩

end Session

/-! ### The turns -/

/-- No request is lost between the simulators and the pipes. -/
def System.Handed (s : System) : Prop :=
  ∀ c, (s.session c).client.accepted ++ (s.session c).client.pending = (s.session c).client.frames

theorem System.Handed.step {env : AddressText} {s s' : System} {turn : Turn} (h : s.Handed)
    (hstep : systemStep env s turn = some s') : s'.Handed := by
  intro c'
  cases turn with
  | client c input =>
      obtain ⟨p, hturn, rfl⟩ := Option.map_eq_some_iff.1 hstep
      obtain ⟨i, client, hi, hclient, rfl⟩ := Session.exists_clientStep hturn
      by_cases hc : c' = c
      swap
      · rw [System.session_put_of_ne s _ _ hc]
        exact h c'
      subst hc
      rw [System.session_put_self]
      refine ClientRun.handed_step hclient (fun outcome hsend => ?_) (h c')
      subst hsend
      -- the pipe of a session works
      simp only [Session.event] at hi
      split at hi
      · cases hi
      · split at hi <;> cases hi
      · cases hi
        rfl
      · split at hi <;> cases hi
      · cases hi
  | server c =>
      obtain ⟨⟨u, p⟩, hturn, rfl⟩ := Option.map_eq_some_iff.1 hstep
      by_cases hc : c' = c
      swap
      · rw [System.session_put_of_ne s _ _ hc]
        exact h c'
      subst hc
      rw [System.session_put_self]
      simp only [Session.serverTurn] at hturn
      split at hturn
      · cases hturn
      split at hturn
      · cases hturn
      split at hturn <;> cases hturn
      exact h c'

/-- A pipe with messages on the way has nothing to read. -/
theorem Traffic.toClient_eq_nil {w : ServerState} {p : Session} (h : Traffic w p)
    (hne : p.toServer ≠ []) : p.toClient = [] := by
  cases h with
  | quiet _ _ _ _ hclient => exact hclient
  | asked _ _ _ _ _ _ _ _ _ hclient => exact hclient
  | answered _ _ _ hserver => exact absurd hserver hne

/-- What can be read is the answer to the last request, and no message is on the way. -/
theorem Traffic.sent_of_toClient_ne_nil {w : ServerState} {p : Session} (h : Traffic w p)
    (hne : p.toClient ≠ []) :
    p.toServer = [] ∧ ∃ id data, p.client.accepted.getLast? = some (id, data) := by
  cases h with
  | quiet _ _ _ _ hclient => exact absurd hclient hne
  | asked _ _ _ _ _ _ _ _ _ hclient => exact absurd hclient hne
  | answered m _ _ hserver _ hsent => exact ⟨hserver, m.id, m.bytes, hsent⟩

section Turns

variable {env : AddressText} {h : List (Event (ℕ × RequestId) RawData RawData)} {s s' : System}
  {g : List (Event (ℕ × RequestId) Demand (Option Answer))}
  {w : List (Done (ℕ × RequestId) Demand (Option Answer))} {t : Store} {c : ℕ}

/-- One client and its pipe change, and something may be seen of it. -/
theorem StoreView.put (hv : StoreView env h s g w t) {p : Session}
    {e : List (Event (ℕ × RequestId) RawData RawData)}
    {f : List (Event (ℕ × RequestId) Demand (Option Answer))}
    (hlin : LinearizesTo Store.meet [] (g ++ f) w t)
    (hseen : List.Forall₂ (Event.Rel Frames (Carries env)) e f)
    (hother : ∀ k d, .call k d ∈ f → k.1 = c)
    (hp : SessionView env (g ++ f) w c p) :
    StoreView env (h ++ e) (s.put s.server c p) (g ++ f) w t where
  linearizes := hlin
  seen := List.rel_append hv.seen hseen
  represents := hv.represents
  registry := hv.registry
  known := hv.known
  session c' := by
    by_cases hc : c' = c
    · subst hc
      rw [System.session_put_self]
      exact hp
    · rw [System.session_put_of_ne s s.server p hc]
      exact (hv.session c').mono fun id d hmem => hc (hother _ _ hmem)

/-- Nothing is seen. -/
theorem StoreView.silent (hv : StoreView env h s g w t) {p : Session}
    (hp : SessionView env g w c p) : StoreView env (h ++ []) (s.put s.server c p) g w t := by
  have hput := hv.put (p := p) (c := c) (e := []) (f := [])
  simp only [List.append_nil] at hput ⊢
  exact hput hv.linearizes .nil (fun _ _ hmem => by cases hmem) hp

/-- **The turn of a client** keeps the view: a send begins a call of the store, and a read returns
from one. -/
theorem StoreView.clientTurn (hv : StoreView env h s g w t) (hs : SystemInv s) (hhanded : s.Handed)
    {input : DemoInput} (hstep : systemStep env s (.client c input) = some s') :
    ∃ g', StoreView env (h ++ s.observe (.client c input)) s' g' w t := by
  obtain ⟨p, hturn, rfl⟩ := Option.map_eq_some_iff.1 hstep
  have hc := hv.session c
  cases sessionMove_of_turn hturn with
  | idle sim hsending hreading haccepted hreads =>
      have hsilent : s.observe (.client c input) = [] := by
        simp only [System.observe, Session.observe]
      rw [hsilent]
      exact ⟨g, hv.silent (hc.idle sim haccepted hreads)⟩
  | @register request sim hpc hread hdata =>
      have hsilent : s.observe (.client c input) = [] := by
        simp only [System.observe, Session.observe, hpc]
      have hdemand := (s.session c).sim.readRequest_demand input
        (s.session c).client.parser.repository
      rw [← hread] at hdemand
      rw [hsilent]
      exact ⟨g, hv.silent (hc.register sim (hdemand.resolve_left hdata))⟩
  | @send id request hpc =>
      have hcall : s.observe (.client c input) =
          [.call (c, id) (frameRequest id request.data)] := by
        simp only [System.observe, Session.observe, hpc]
      obtain ⟨_, a, hgood⟩ := (hs.session c).sending id request hpc
      obtain ⟨d, hd, hdata⟩ := hc.demands _ hgood.read
      obtain ⟨_, _, _, hempty⟩ := (hs.session c).traffic.of_not_reading fun id' heq => by
        rw [hpc] at heq
        cases heq
      -- the id is none of those that were handed over
      have hfresh : id ∉ (s.session c).client.accepted.map Prod.fst := fun hmem => by
        have hnodup := (hs.session c).client.nodup_accepted (hhanded c)
        rw [ClientRun.pending, hpc] at hnodup
        exact List.disjoint_of_nodup_append hnodup hmem List.mem_cons_self
      obtain ⟨_, horder, _⟩ := hc.order
      rw [hcall]
      refine ⟨g ++ [.call (c, id) d], hv.put (hv.linearizes.call (horder.fresh hfresh))
        (.cons (.call ?_) .nil) (fun k d' hmem => ?_) (hc.send hd hdata hempty)⟩
      · rw [Frames, hdata]
      · cases List.mem_singleton.1 hmem
        rfl
  | @read id a hpc hne hdec =>
      have hreturn : s.observe (.client c input) =
          [.return_ (c, id) (readFile (s.session c).toClient).1] := by
        simp only [System.observe, Session.observe, hpc]
      obtain ⟨m, _, rfl, hr⟩ := (hs.session c).traffic.read hpc hne
      obtain ⟨d, hd, hclient, ⟨data, hlast⟩, hcarries⟩ := hc.answered hne
      -- the answer that can be read is the answer to the request the client waits for
      have hid : d.call = (c, m.id) := by
        rw [hr.sent, Option.some_inj, Prod.mk.injEq] at hlast
        exact Prod.ext hclient hlast.1.symm
      have hwhole : (readFile (s.session c).toClient).1 = (s.session c).toClient :=
        List.take_of_length_le (List.drop_eq_nil_iff.1 hr.rest)
      rw [hreturn, hwhole]
      rw [hid] at hcarries
      have hlin := hv.linearizes.return_ hd
      rw [hid] at hlin
      refine ⟨g ++ [.return_ (c, m.id) d.answer], hv.put hlin (.cons (.return_ hcarries) .nil)
        (fun k d' hmem => ?_) (hc.read hr.rest)⟩
      cases List.mem_singleton.1 hmem

/-- **The turn of the server** keeps the view: the store meets the next demand of the client. -/
theorem StoreView.serverTurn (hv : StoreView env h s g w t) (hs : SystemInv s)
    (hs' : SystemInv s') (hhanded : s.Handed) (hstep : systemStep env s (.server c) = some s')
    (hcounter : s.server.registry.handleCounter < 2 ^ 31) :
    ∃ w' t', StoreView env h s' g w' t' := by
  obtain ⟨⟨u, p⟩, hturn, rfl⟩ := Option.map_eq_some_iff.1 hstep
  have hc := hv.session c
  cases hserver : (s.session c).toServer with
  | nil =>
      rw [Session.serverTurn, hserver] at hturn
      cases hturn
  | cons data rest =>
  obtain ⟨m, rfl, hm⟩ := (hs.session c).traffic.message (hserver ▸ List.mem_cons_self)
  rw [Session.serverTurn_of_message env c hserver hm] at hturn
  cases hturn
  obtain ⟨ms, horder, hms, hshort⟩ := hc.order
  rw [hserver] at hms
  cases ms with
  | nil => cases hms
  | cons x ms =>
  obtain ⟨id, d⟩ := x
  rw [List.map_cons, List.cons.injEq] at hms
  obtain ⟨hframe, hrest⟩ := hms
  have hd : d.Short := hshort (id, d) List.mem_cons_self
  -- what the server takes the message for is what it takes the demand for
  have haction : ∀ known, (∀ h, m.action.target = some h → known h = true) →
      id = m.id ∧ d.action known = m.action := by
    intro known hknown
    have hdec := hm.understood.decodes known m.id hknown
    have hframe' : frameRequest m.id m.request.data = frameRequest id d.encode := hframe
    rw [hframe', Demand.decodeRequest_encode known id hd, Except.ok.injEq, Prod.mk.injEq] at hdec
    exact hdec
  obtain ⟨rfl, hact⟩ := haction s.server.known hm.known
  have hsame : d.action s.server.known = d.action fun _ => true :=
    hact.trans (haction _ fun _ _ => rfl).2.symm
  have hlt : t.length < 2 ^ 31 := hv.represents.counter ▸ hcounter
  have hknown := hm.known
  rw [← hact] at hknown
  obtain ⟨hcarries, hrep, hreg⟩ := represents_meet env (c, m.id) hv.represents hv.registry hlt hd
    hknown
  rw [hact] at hcarries hrep hreg
  have hcall : .call (c, m.id) d ∈ g := horder.queued (m.id, d) List.mem_cons_self
  have hnodup := (hs.session c).client.nodup_accepted (hhanded c)
  have hnew := horder.notMem_effects (List.nodup_append.1 hnodup).1
  have hclient := (hs.session c).traffic.toClient_eq_nil
    (by rw [hserver]; exact List.cons_ne_nil _ _)
  refine ⟨w ++ [⟨(c, m.id), d, (t.meet d).1⟩], (t.meet d).2, ?_⟩
  refine ⟨hv.linearizes.commit hcall hnew, hv.seen, hrep, hreg, fun x hx => ?_, fun c' => ?_⟩
  · rcases List.mem_append.1 hx with hx | hx
    · exact hv.known x hx
    · rw [List.mem_singleton.1 hx]
      exact hv.represents.meet_ne_unknown hsame
  by_cases hcc : c' = c
  swap
  · rw [System.session_put_of_ne s _ _ hcc]
    exact (hv.session c').other fun heq => hcc heq.symm
  have htraffic := (hs'.session c).traffic
  subst hcc
  rw [System.session_put_self] at htraffic ⊢
  have horder' := horder.serve (t.meet d).1
  refine ⟨hc.demands, ⟨ms, horder', hrest, fun x hx => hshort x ?_⟩, fun hne => ?_⟩
  · exact List.mem_cons_of_mem _ hx
  -- what can be read now answers the last request, and this was the last one
  obtain ⟨hnone, id', data', hlast⟩ := htraffic.sent_of_toClient_ne_nil hne
  have hms : ms = [] := List.map_eq_nil_iff.1 (hrest.symm.trans hnone)
  have hid : id' = m.id := by
    have hfirst := congrArg List.getLast? horder.split
    rw [List.getLast?_map, hlast, hms, List.map_singleton, List.getLast?_concat] at hfirst
    exact Option.some_inj.1 hfirst
  refine ⟨_, List.mem_append_right _ (List.mem_singleton_self _), rfl, ⟨data', ?_⟩, ?_⟩
  · rw [← hid]
    exact hlast
  · rw [hclient, List.nil_append]
    exact hcarries

end Turns

/-! ### The result -/

section Result

variable {env : AddressText} {sims : ℕ → DemoSimulator} {turns : List Turn} {s s' : System}
  {turn : Turn}

/-- The counter of the registry is never lowered. -/
theorem SystemInv.handleCounter_le (hs : SystemInv s) (hstep : systemStep env s turn = some s') :
    s.server.registry.handleCounter ≤ s'.server.registry.handleCounter := by
  cases turn with
  | client c input =>
      obtain ⟨p, _, rfl⟩ := Option.map_eq_some_iff.1 hstep
      exact Nat.le_refl _
  | server c =>
      obtain ⟨⟨u, p⟩, hturn, rfl⟩ := Option.map_eq_some_iff.1 hstep
      cases hserver : (s.session c).toServer with
      | nil =>
          rw [Session.serverTurn, hserver] at hturn
          cases hturn
      | cons data rest =>
          obtain ⟨m, rfl, hm⟩ := (hs.session c).traffic.message (hserver ▸ List.mem_cons_self)
          rw [Session.serverTurn_of_message env c hserver hm] at hturn
          cases hturn
          exact handleCounter_le_perform m.action s.server

theorem storeView_start (env : AddressText) (sims : ℕ → DemoSimulator) :
    StoreView env [] (System.start sims) [] [] [] where
  linearizes := .nil
  seen := .nil
  represents := ⟨rfl, fun _ => rfl⟩
  registry := registryInv_empty
  known _ hd := by cases hd
  session c := by
    refine ⟨(fun _ hx => by cases hx), ?_, fun hne => absurd rfl hne⟩
    exact ⟨[], .start, rfl, fun _ hm => by cases hm⟩

/-- **Every run keeps the view**, as long as the counter has not left the range of an `int`. -/
theorem storeView_run (hrun : run (systemStep env) (System.start sims) turns = some s)
    (hcounter : s.server.registry.handleCounter < 2 ^ 31) :
    ∃ g w t, StoreView env
      (runTrace (systemStep env) (fun _ => System.observe) 0 (System.start sims) turns)
      s g w t := by
  refine (invariant_history (I := fun turns s => SystemInv s ∧ s.Handed ∧
    (s.server.registry.handleCounter < 2 ^ 31 → ∃ g w t, StoreView env
      (runTrace (systemStep env) (fun _ => System.observe) 0 (System.start sims) turns) s g w t))
    ⟨systemInv_start sims, fun _ => rfl, fun _ => ⟨[], [], [], storeView_start env sims⟩⟩ ?_
    hrun).2.2 hcounter
  rintro turns turn s s' hrun ⟨hs, hhanded, hview⟩ hstep
  refine ⟨hs.step hstep, hhanded.step hstep, fun hlt => ?_⟩
  have hlt' := lt_of_le_of_lt (hs.handleCounter_le hstep) hlt
  obtain ⟨g, w, t, hv⟩ := hview hlt'
  rw [runTrace_concat hrun hstep]
  cases turn with
  | client c input =>
      obtain ⟨g', hv'⟩ := hv.clientTurn hs hhanded hstep
      exact ⟨g', w, t, hv'⟩
  | server c =>
      obtain ⟨w', t', hv'⟩ := hv.serverTurn hs (hs.step hstep) hhanded hstep hlt'
      refine ⟨g, w', t', ?_⟩
      rw [System.observe, List.append_nil]
      exact hv'

/-- **The clients see a linearizable store.**  In every run of one server and any number of `Sync`
clients in which no call on a pipe fails, whatever their simulators choose and whoever moves next,
what the clients have sent and read is, event by event, a history of the store: each frame is the
frame of a demand, and the bytes of each read carry the answer of the store.  That history is
linearizable; the registry stands for the store; no client is ever told that an object does not
exist; and the requests of a client take effect in the order in which it sent them, the last ones
being those still in its pipe. -/
theorem sync_clients_see_store (env : AddressText) (sims : ℕ → DemoSimulator) {turns : List Turn}
    {s : System} (hrun : run (systemStep env) (System.start sims) turns = some s)
    (hcounter : s.server.registry.handleCounter < 2 ^ 31) :
    ∃ g w t, LinearizesTo Store.meet [] g w t ∧
      List.Forall₂ (Event.Rel Frames (Carries env))
        (runTrace (systemStep env) (fun _ => System.observe) 0 (System.start sims) turns) g ∧
      Represents s.server t ∧ (∀ d ∈ w, d.answer ≠ some .unknown) ∧
      ∀ c, ∃ ids, (s.session c).client.accepted.map Prod.fst = effects (requestsOf c) w ++ ids ∧
        ids.length = (s.session c).toServer.length := by
  obtain ⟨g, w, t, hv⟩ := storeView_run hrun hcounter
  refine ⟨g, w, t, hv.linearizes, hv.seen, hv.represents, hv.known, fun c => ?_⟩
  obtain ⟨ms, horder, hserver, _⟩ := (hv.session c).order
  exact ⟨ms.map Prod.fst, horder.split, by rw [hserver, List.length_map, List.length_map]⟩

end Result

/-- Two clients ask for an object at the same time, and the second one is served first. -/
def bothCreate : List Turn :=
  [.client 0 {}, .client 1 {}, .client 0 {}, .client 1 {}, .client 0 {}, .client 1 {}, .server 1,
    .server 0, .client 0 {}, .client 1 {}]

/-- There are two objects at the end, and the clients have seen a store with two objects. -/
theorem bothCreate_seen :
    ∃ s, run (systemStep default) (System.start createFirst) bothCreate = some s ∧
      s.server.registry.handleCounter = 2 ∧
      ∃ g w t, LinearizesTo Store.meet [] g w t ∧
        List.Forall₂ (Event.Rel Frames (Carries default))
          (runTrace (systemStep default) (fun _ => System.observe) 0 (System.start createFirst)
            bothCreate) g ∧
        Represents s.server t := by
  have hend : (run (systemStep default) (System.start createFirst) bothCreate).map
      (fun s => s.server.registry.handleCounter) = some 2 := by decide
  obtain ⟨s, hrun, hs⟩ := Option.map_eq_some_iff.1 hend
  obtain ⟨g, w, t, hlin, hseen, hrep, _⟩ :=
    sync_clients_see_store default createFirst hrun (by rw [hs]; decide)
  exact ⟨s, hrun, hs, g, w, t, hlin, hseen, hrep⟩

end NamedPipeDemo
