/-
**The threads of the server and the `Sync` clients, end to end.**

In `Lockstep.lean` the server takes a message of a client and writes its response before it looks at
another client.  The real server does not: every client has a thread, and the threads read, parse,
take the lock of the registry, call a member and write whenever they are let.  Here the threads of
`RequestThreads.lean` stand at the ends of the pipes, and everybody moves one step at a time.

Nothing of this can be seen from outside.  A message that a thread has taken and not served counts
as still in the pipe, and a response that it has not written as already there; then all steps of a
thread but one change nothing, and the one in which the request takes effect is the turn of the
server of `Lockstep.lean`.  So the clients see the same linearizable store.

The threads do not block each other either.  A client that waits needs at most five steps of its own
thread for each of its messages, and the thread can always take them.  All of this holds as long as
no call on a pipe fails: a thread whose `ReadFile` or `WriteFile` fails returns, and does not serve
its client any more.

Main definitions:

* `NamedPipeDemo.ThreadedSystem`, `NamedPipeDemo.threadedStep` — the clients, their pipes and the
  threads of the server;
* `NamedPipeDemo.ThreadedSystem.atomic` — the same with messages that are served as a whole;
* `NamedPipeDemo.ServingMove` — what a step of a thread can do;
* `NamedPipeDemo.ThreadedInv` — the invariant;
* `NamedPipeDemo.ThreadedSystem.work` — the steps that are left to a thread.

Main results:

* `NamedPipeDemo.ThreadedInv.step` — every step is one of `systemStep` that shows the same, or none
  that shows nothing;
* `NamedPipeDemo.threaded_refines` — every run shows what a run of `systemStep` shows;
* `NamedPipeDemo.threaded_clients_see_store` — **the clients see a linearizable store**;
* `NamedPipeDemo.ThreadedInv.enabled` — a thread with work can go on;
* `NamedPipeDemo.threaded_served` — **a client that waits is served, whatever the others do.**
-/

import NamedPipeDemo.RequestThreads
import NamedPipeDemo.SyncStore

set_option relaxedAutoImplicit false
set_option autoImplicit false

namespace NamedPipeDemo

open LabelledRuns Linearizability

/-! ### The system -/

/-- The threads of the server, and its clients with their pipes. -/
structure ThreadedSystem where
  server : RequestThreads := {}
  session : ℕ → Session

/-- What the thread writes: `Server::SendResponseToClient`, when the response is valid. -/
def ServerResponse.written (response : ServerResponse) : RawData :=
  if response.isValid then response.dataToSend else []

/-- **One step of the thread of a client**, in its loop `Server::HandleClientConnection`, as long as
no `ReadFile` and no `WriteFile` fails. -/
def Session.threadTurn (env : AddressText) (w : RequestThreads) (c : ℕ) (p : Session) :
    Option (RequestThreads × Session) :=
  match (w.threads c).pc with
  | .idle =>
      match p.toServer with
      | [] => none
      | data :: rest =>
          -- `ReadFile` fails on a message that does not fit the buffer, which does not happen here
          if kBuffSize < data.length then none
          else (requestStep env w (.receive c data)).map fun w' => (w', { p with toServer := rest })
  | .parsing => (requestStep env w (.parse c)).map fun w' => (w', p)
  | .creating _ _ => (requestStep env w (.insert c)).map fun w' => (w', p)
  | .finding _ _ _ => (requestStep env w (.find c)).map fun w' => (w', p)
  | .found _ _ _ => (requestStep env w (.callMember c)).map fun w' => (w', p)
  | .answered result =>
      (requestStep env w (.reply c)).map fun w' =>
        (w', { p with toClient := p.toClient ++ result.2.written })

namespace ThreadedSystem

/-- The threads and one session change. -/
def put (s : ThreadedSystem) (w : RequestThreads) (c : ℕ) (p : Session) : ThreadedSystem where
  server := w
  session := Function.update s.session c p

@[simp] theorem session_put_self (s : ThreadedSystem) (w : RequestThreads) (c : ℕ) (p : Session) :
    (s.put w c p).session c = p := Function.update_self ..

theorem session_put_of_ne (s : ThreadedSystem) (w : RequestThreads) {c c' : ℕ} (p : Session)
    (h : c' ≠ c) : (s.put w c p).session c' = s.session c' := Function.update_of_ne h ..

/-- No client has connected yet. -/
def start (sims : ℕ → DemoSimulator) : ThreadedSystem where
  session := (System.start sims).session

/-- What is seen of a turn. -/
def observe (s : ThreadedSystem) : Turn → List (Event (ℕ × RequestId) RawData RawData)
  | .client c _ => (s.session c).observe c
  | .server _ => []

end ThreadedSystem

/-- **One step of the system**: of a client, or of the thread of a client. -/
def threadedStep (env : AddressText) (s : ThreadedSystem) : Turn → Option ThreadedSystem
  | .client c input => ((s.session c).clientTurn input).map fun p => s.put s.server c p
  | .server c => ((s.session c).threadTurn env s.server c).map fun r => s.put r.1 c r.2

/-! ### Messages served as a whole -/

/-- The message that a thread has taken and not served. -/
def taken : Phase Incoming (Option (Bool × ServerResponse)) → List RawData
  | .inside _ m => [m.data]
  | _ => []

/-- The bytes of the response that a thread has not written. -/
def unwritten : Phase Incoming (Option (Bool × ServerResponse)) → RawData
  | .past _ _ (some result) => result.2.written
  | _ => []

/-- The session, with what its thread holds put back into the pipe. -/
def Session.atomic (p : Session) (φ : Phase Incoming (Option (Bool × ServerResponse))) :
    Session :=
  { p with toServer := taken φ ++ p.toServer, toClient := p.toClient ++ unwritten φ }

/-- **The system in which a message is served as a whole.** -/
def ThreadedSystem.atomic (s : ThreadedSystem) : System where
  server := s.server.server
  session c := (s.session c).atomic ((s.server.threads c).phase c)

section Atomic

variable {env : AddressText} {s : ThreadedSystem} {c : ℕ} {p p' : Session}
  {φ : Phase Incoming (Option (Bool × ServerResponse))} {input : DemoInput}

theorem System.put_self (s : System) (c : ℕ) : s.put s.server c (s.session c) = s := by
  rw [System.put, Function.update_eq_self]

/-- When the thread of one client goes on, the others hold what they held. -/
theorem ThreadedSystem.atomic_put (s : ThreadedSystem) {w : RequestThreads} (p : Session)
    (hother : ∀ c' ≠ c, w.threads c' = s.server.threads c') :
    (s.put w c p).atomic = s.atomic.put w.server c (p.atomic ((w.threads c).phase c)) := by
  refine congrArg (System.mk w.server) (funext fun c' => ?_)
  by_cases hc : c' = c
  · subst hc
    rw [session_put_self, Function.update_self]
    rfl
  · rw [session_put_of_ne s w p hc, Function.update_of_ne hc]
    show _ = (s.session c').atomic _
    rw [← hother c' hc]
    rfl

/-- A client that reads in front of an empty pipe has to wait. -/
theorem Session.unwritten_eq_nil {id : RequestId} {i : ClientEvent DemoCallback}
    (hφ : p.toClient = [] ∨ unwritten φ = []) (hpc : p.client.pc = .reading id)
    (hi : p.event input = some i) : unwritten φ = [] := by
  refine hφ.resolve_left fun hnil => ?_
  simp only [event, hpc, if_pos hnil] at hi
  cases hi

theorem Session.event_atomic (hφ : ∀ id, p.client.pc = .reading id → unwritten φ = []) :
    (p.atomic φ).event input = p.event input := by
  cases hpc : p.client.pc with
  | reading id => simp only [event, atomic, hpc, hφ id hpc, List.append_nil]
  | head =>
      simp only [event, atomic, hpc]
      rfl
  | connecting | sending | returned => simp only [event, atomic, hpc]

theorem Session.exchange_atomic (hφ : ∀ id, p.client.pc = .reading id → unwritten φ = []) :
    (p.atomic φ).exchange input = (p.exchange input).atomic φ := by
  cases hpc : p.client.pc with
  | reading id => simp only [exchange, atomic, hpc, hφ id hpc, List.append_nil]
  | sending id request => simp only [exchange, atomic, hpc, List.append_assoc]
  | head =>
      have hpc' : (p.atomic φ).client.pc = .head := hpc
      by_cases hgood : p.sim.isGood = true
      · have hgood' : (p.atomic φ).sim.isGood = true := hgood
        simp only [exchange, hpc, hpc', if_pos hgood, if_pos hgood']
        rfl
      · have hgood' : ¬ (p.atomic φ).sim.isGood = true := hgood
        simp only [exchange, hpc, hpc', if_neg hgood, if_neg hgood']
  | connecting | returned => simp only [exchange, atomic, hpc]

theorem Session.observe_atomic (hφ : ∀ id, p.client.pc = .reading id → unwritten φ = []) :
    (p.atomic φ).observe c = p.observe c := by
  cases hpc : p.client.pc with
  | reading id => simp only [observe, atomic, hpc, hφ id hpc, List.append_nil]
  | connecting | head | sending | returned => simp only [observe, atomic, hpc]

/-- A turn of a client puts nothing into the pipe that leads to it. -/
theorem Session.toClient_exchange (hnil : p.toClient = []) : (p.exchange input).toClient = [] := by
  rw [exchange]
  split
  · split <;> exact hnil
  · exact hnil
  · show p.toClient.drop kBufSize = []
    rw [hnil]
    rfl
  · exact hnil

/-- **A client takes no notice of what its thread holds**, when there is no response behind the
bytes it can read. -/
theorem Session.clientTurn_atomic (hφ : p.toClient = [] ∨ unwritten φ = [])
    (hturn : p.clientTurn input = some p') :
    (p.atomic φ).clientTurn input = some (p'.atomic φ) ∧
      (p.atomic φ).observe c = p.observe c ∧ (p'.toClient = [] ∨ unwritten φ = []) := by
  obtain ⟨i, hi, hmap⟩ := Option.bind_eq_some_iff.1 hturn
  obtain ⟨client, hclient, rfl⟩ := Option.map_eq_some_iff.1 hmap
  have hreading : ∀ id, p.client.pc = .reading id → unwritten φ = [] := fun _ hpc =>
    unwritten_eq_nil hφ hpc hi
  have hstep : demoStep (p.atomic φ).client i = some client := hclient
  refine ⟨?_, observe_atomic hreading, hφ.imp_left toClient_exchange⟩
  rw [clientTurn, event_atomic hreading, hi, Option.bind_some, hstep, exchange_atomic hreading]
  rfl

end Atomic

/-! ### The step of a thread -/

/-- The steps that are left to a request, at most. -/
def RequestPc.left : RequestPc → ℕ
  | .idle => 0
  | .parsing => 4
  | .creating _ _ => 2
  | .finding _ _ _ => 3
  | .found _ _ _ => 2
  | .answered _ => 1

theorem RequestPc.left_le (pc : RequestPc) : pc.left ≤ 4 := by
  cases pc <;> simp only [left] <;> decide

/-- Every step of a request but the first one leaves fewer. -/
theorem RequestMove.left_lt {env : AddressText} {w w' : RequestThreads} {e : RequestEvent}
    (h : RequestMove env w e w') (hreceive : ∀ c data, e ≠ .receive c data) :
    (w'.threads e.client).pc.left < (w.threads e.client).pc.left := by
  cases h with
  | receive => exact absurd rfl (hreceive _ _)
  | create hpc | lookup hpc | found hpc =>
      simp only [RequestEvent.client, RequestThreads.threads_setPc, RequestPc.left, hpc]
      decide
  | done hpc | insert hpc | missing hpc | callMember hpc =>
      simp only [RequestEvent.client, RequestThreads.threads_commit, RequestPc.left, hpc]
      decide
  | reply hpc =>
      simp only [RequestEvent.client, RequestThreads.threads_reply, RequestPc.left, hpc]
      decide

/-- What the step of a thread does to its request and to the pipe. -/
inductive ServingMove (env : AddressText) (w : RequestThreads) (c : ℕ) (p : Session) :
    RequestThreads → Session → Prop
  | receive {data : RawData} {rest : List RawData} (hpc : (w.threads c).pc = .idle)
      (hserver : p.toServer = data :: rest) :
      ServingMove env w c p (w.receive c data) { p with toServer := rest }
  | goOn {pc : RequestPc}
      (hphase : { w.threads c with pc := pc }.phase c = (w.threads c).phase c)
      (hleft : pc.left < (w.threads c).pc.left) : ServingMove env w c p (w.setPc c pc) p
  | commit {id : RequestId} {a : Action}
      (hphase : (w.threads c).phase c = .inside (w.threads c).call ⟨c, (w.threads c).data⟩)
      (hd : decodeRequest w.server.known (w.threads c).data = .ok (id, a))
      (hleft : 1 < (w.threads c).pc.left) : ServingMove env w c p (w.commit c env id a) p
  | reply {result : Bool × ServerResponse} (hpc : (w.threads c).pc = .answered result) :
      ServingMove env w c p (w.reply c result)
        { p with toClient := p.toClient ++ result.2.written }

section Threads

variable {env : AddressText} {w w' : RequestThreads} {c : ℕ} {p p' : Session}

/-- The steps in between: the pipe stays as it is. -/
theorem servingMove_of_step (h : RequestInv env w) {e : RequestEvent}
    (he : e = .parse c ∨ e = .insert c ∨ e = .find c ∨ e = .callMember c)
    (hturn : (requestStep env w e).map (fun w' => (w', p)) = some (w', p')) :
    RequestInv env w' ∧ ServingMove env w c p w' p' := by
  obtain ⟨v, hstep, heq⟩ := Option.map_eq_some_iff.1 hturn
  cases heq
  have hc : e.client = c := by
    rcases he with rfl | rfl | rfl | rfl <;> rfl
  have hreceive : ∀ c data, e ≠ .receive c data := by
    rintro _ _ rfl
    rcases he with he | he | he | he <;> cases he
  have hleft := (requestMove_of_step hstep).left_lt hreceive
  refine ⟨h.step hstep, ?_⟩
  cases h.effect hstep with
  | receive => exact absurd rfl (hreceive _ _)
  | goOn hc' hphase _ =>
      obtain rfl := hc.symm.trans hc'
      rw [hc, RequestThreads.threads_setPc] at hleft
      exact .goOn hphase hleft
  | commit hc' hphase hd =>
      obtain rfl := hc.symm.trans hc'
      rw [hc, RequestThreads.threads_commit] at hleft
      exact .commit hphase hd hleft
  | reply => rcases he with he | he | he | he <;> cases he

/-- **Every step of a thread is one of the moves.** -/
theorem servingMove_of_turn (h : RequestInv env w)
    (hturn : p.threadTurn env w c = some (w', p')) :
    RequestInv env w' ∧ ServingMove env w c p w' p' := by
  rw [Session.threadTurn] at hturn
  split at hturn
  · next hpc =>
      split at hturn
      · cases hturn
      next data rest hserver =>
      split at hturn
      · cases hturn
      obtain ⟨v, hstep, heq⟩ := Option.map_eq_some_iff.1 hturn
      cases heq
      refine ⟨h.step hstep, ?_⟩
      simp only [requestStep, hpc, Option.some.injEq] at hstep
      exact hstep ▸ .receive hpc hserver
  · exact servingMove_of_step h (Or.inl rfl) hturn
  · exact servingMove_of_step h (Or.inr (Or.inl rfl)) hturn
  · exact servingMove_of_step h (Or.inr (Or.inr (Or.inl rfl))) hturn
  · exact servingMove_of_step h (Or.inr (Or.inr (Or.inr rfl))) hturn
  · next result hpc =>
      obtain ⟨v, hstep, heq⟩ := Option.map_eq_some_iff.1 hturn
      cases heq
      refine ⟨h.step hstep, ?_⟩
      simp only [requestStep, hpc, Option.some.injEq] at hstep
      exact hstep ▸ .reply hpc

end Threads

/-! ### The refinement -/

/-- **The invariant**: the threads know their requests, the system with whole messages is in step,
and no response waits behind another one. -/
structure ThreadedInv (env : AddressText) (s : ThreadedSystem) : Prop where
  threads : RequestInv env s.server
  atomic : SystemInv s.atomic
  single : ∀ c, (s.session c).toClient = [] ∨ unwritten ((s.server.threads c).phase c) = []

section Refinement

variable {env : AddressText} {s s' : ThreadedSystem} {w : RequestThreads} {c : ℕ} {p : Session}

/-- One thread and its session change. -/
theorem ThreadedInv.put (h : ThreadedInv env s) (hthreads : RequestInv env w)
    (hother : ∀ c' ≠ c, w.threads c' = s.server.threads c')
    (hatomic : SystemInv (s.put w c p).atomic)
    (hsingle : p.toClient = [] ∨ unwritten ((w.threads c).phase c) = []) :
    ThreadedInv env (s.put w c p) where
  threads := hthreads
  atomic := hatomic
  single c' := by
    by_cases hc : c' = c
    · subst hc
      rw [ThreadedSystem.session_put_self]
      exact hsingle
    · rw [ThreadedSystem.session_put_of_ne s w p hc]
      show _ ∨ unwritten ((w.threads c').phase c') = []
      rw [hother c' hc]
      exact h.single c'

/-- A step in which no message is served: what the thread holds stays in the same place. -/
theorem ThreadedInv.silent (h : ThreadedInv env s) (hthreads : RequestInv env w)
    (hserver : w.server = s.server.server)
    (hother : ∀ c' ≠ c, w.threads c' = s.server.threads c')
    (hsame : p.atomic ((w.threads c).phase c) = s.atomic.session c)
    (hsingle : p.toClient = [] ∨ unwritten ((w.threads c).phase c) = []) :
    ThreadedInv env (s.put w c p) ∧ (s.put w c p).atomic = s.atomic := by
  have heq : (s.put w c p).atomic = s.atomic := by
    rw [s.atomic_put p hother, hserver, hsame]
    exact s.atomic.put_self c
  exact ⟨h.put hthreads hother (heq ▸ h.atomic) hsingle, heq⟩

/-- The message a thread has taken and not served is good, and it is the next one. -/
theorem ThreadedInv.inside (h : ThreadedInv env s)
    (hphase : (s.server.threads c).phase c =
      .inside (s.server.threads c).call ⟨c, (s.server.threads c).data⟩) :
    ∃ m : Message, (s.server.threads c).data = m.bytes ∧
      (s.atomic.session c).toServer = m.bytes :: (s.session c).toServer ∧
      m.Good s.server.server (s.session c).client.reads := by
  have hserver : (s.atomic.session c).toServer =
      (s.server.threads c).data :: (s.session c).toServer := by
    show taken _ ++ _ = _
    rw [hphase]
    rfl
  obtain ⟨m, hm, hgood⟩ := (h.atomic.session c).traffic.message (hserver ▸ List.mem_cons_self)
  exact ⟨m, hm, hm ▸ hserver, hgood⟩

/-- **The request of a thread takes effect**: this is the turn of the server that serves the whole
message. -/
theorem ThreadedInv.commit (h : ThreadedInv env s) {id : RequestId} {a : Action}
    (hthreads : RequestInv env (s.server.commit c env id a))
    (hphase : (s.server.threads c).phase c =
      .inside (s.server.threads c).call ⟨c, (s.server.threads c).data⟩)
    (hd : decodeRequest s.server.server.known (s.server.threads c).data = .ok (id, a)) :
    ThreadedInv env (s.put (s.server.commit c env id a) c (s.session c)) ∧
      systemStep env s.atomic (.server c) =
        some (s.put (s.server.commit c env id a) c (s.session c)).atomic := by
  obtain ⟨m, hdata, hserver, hm⟩ := h.inside hphase
  -- the thread has decoded the message as the client meant it
  have hmeant := hm.understood.decodes s.server.server.known m.id hm.known
  have hbytes : frameRequest m.id m.request.data = (s.server.threads c).data := hdata.symm
  rw [hbytes, hd, Except.ok.injEq, Prod.mk.injEq] at hmeant
  obtain ⟨rfl, rfl⟩ := hmeant
  have hother : ∀ c' ≠ c, (s.server.commit c env m.id m.action).threads c' =
      s.server.threads c' := fun c' hc => Function.update_of_ne hc ..
  -- the thread was not writing a response
  have hbefore : (s.atomic.session c).toClient = (s.session c).toClient := by
    show _ ++ unwritten _ = _
    rw [hphase]
    exact List.append_nil _
  have hnil : (s.session c).toClient = [] := by
    rw [← hbefore]
    exact (h.atomic.session c).traffic.toClient_eq_nil (by rw [hserver]; exact List.cons_ne_nil _ _)
  have hafter : ((s.server.commit c env m.id m.action).threads c).phase c =
      .past (s.server.threads c).call ⟨c, (s.server.threads c).data⟩
        (some (m.action.answer env m.id s.server.server)) := by
    rw [RequestThreads.threads_commit]
    rfl
  have hstep : systemStep env s.atomic (.server c) =
      some (s.put (s.server.commit c env m.id m.action) c (s.session c)).atomic := by
    rw [s.atomic_put _ hother, hafter]
    refine Option.map_eq_some_iff.2
      ⟨_, Session.serverTurn_of_message env c hserver hm, congrArg (s.atomic.put _ c) ?_⟩
    show Session.mk _ _ _ _ = Session.mk _ _ _ _
    rw [hbefore]
    exact congrArg (fun bytes => Session.mk _ _ _ ((s.session c).toClient ++ bytes))
      (Action.responseBytes_eq env m.id m.action s.server.server)
  exact ⟨h.put hthreads hother (h.atomic.step hstep) (Or.inl hnil), hstep⟩

/-- **Every step is a step of the system with whole messages that shows the same, or none that shows
nothing.** -/
theorem ThreadedInv.step (h : ThreadedInv env s) {turn : Turn}
    (hstep : threadedStep env s turn = some s') :
    ThreadedInv env s' ∧ (s'.atomic = s.atomic ∧ s.observe turn = [] ∨
      ∃ turn', systemStep env s.atomic turn' = some s'.atomic ∧
        s.atomic.observe turn' = s.observe turn) := by
  cases turn with
  | client c input =>
      obtain ⟨p, hturn, rfl⟩ := Option.map_eq_some_iff.1 hstep
      obtain ⟨hatomic, hseen, hsingle⟩ :=
        Session.clientTurn_atomic (c := c) (h.single c) hturn
      have hstep' : systemStep env s.atomic (.client c input) =
          some (s.put s.server c p).atomic := by
        rw [s.atomic_put p fun _ _ => rfl]
        exact Option.map_eq_some_iff.2 ⟨_, hatomic, rfl⟩
      exact ⟨h.put h.threads (fun _ _ => rfl) (h.atomic.step hstep') hsingle,
        Or.inr ⟨_, hstep', hseen⟩⟩
  | server c =>
      obtain ⟨⟨w, p⟩, hturn, rfl⟩ := Option.map_eq_some_iff.1 hstep
      obtain ⟨hthreads, hmove⟩ := servingMove_of_turn h.threads hturn
      cases hmove with
      | @receive data rest hpc hserver =>
          have hbefore : (s.server.threads c).phase c = .outside := by
            rw [RequestThread.phase, hpc]
          have hafter : ((s.server.receive c data).threads c).phase c =
              .inside s.server.record.calls ⟨c, data⟩ := by
            rw [RequestThreads.threads_receive]
            rfl
          obtain ⟨hinv, hsame⟩ := h.silent (c := c) (p := { s.session c with toServer := rest })
            hthreads rfl (fun c' hc => Function.update_of_ne hc ..)
            (by
              show _ = (s.session c).atomic _
              rw [hafter, hbefore, Session.atomic, Session.atomic, hserver]
              rfl)
            (Or.inr (by rw [hafter]; rfl))
          exact ⟨hinv, Or.inl ⟨hsame, rfl⟩⟩
      | @goOn pc hphase _ =>
          have hafter : ((s.server.setPc c pc).threads c).phase c =
              (s.server.threads c).phase c := by
            rw [RequestThreads.threads_setPc, hphase]
          obtain ⟨hinv, hsame⟩ := h.silent (c := c) (p := s.session c) hthreads rfl
            (fun c' hc => Function.update_of_ne hc ..) (by rw [hafter]; rfl)
            (by rw [hafter]; exact h.single c)
          exact ⟨hinv, Or.inl ⟨hsame, rfl⟩⟩
      | commit hphase hd _ =>
          obtain ⟨hinv, hstep'⟩ := h.commit hthreads hphase hd
          exact ⟨hinv, Or.inr ⟨_, hstep', rfl⟩⟩
      | @reply result hpc =>
          have hbefore : (s.server.threads c).phase c =
              .past (s.server.threads c).call ⟨c, (s.server.threads c).data⟩ (some result) := by
            rw [RequestThread.phase, hpc]
          have hafter : ((s.server.reply c result).threads c).phase c = .outside := by
            rw [RequestThreads.threads_reply]
            rfl
          obtain ⟨hinv, hsame⟩ := h.silent (c := c)
            (p := { s.session c with toClient := (s.session c).toClient ++ result.2.written })
            hthreads rfl (fun c' hc => Function.update_of_ne hc ..)
            (by
              show _ = (s.session c).atomic _
              rw [hafter, hbefore, Session.atomic, Session.atomic]
              exact congrArg (Session.mk _ _ _) (List.append_nil _))
            (Or.inr (by rw [hafter]; rfl))
          exact ⟨hinv, Or.inl ⟨hsame, rfl⟩⟩

/-- The counter of the registry is never lowered. -/
theorem ThreadedInv.handleCounter_le (h : ThreadedInv env s) {turn : Turn}
    (hstep : threadedStep env s turn = some s') :
    s.server.server.registry.handleCounter ≤ s'.server.server.registry.handleCounter := by
  rcases (h.step hstep).2 with ⟨hsame, -⟩ | ⟨turn', hstep', -⟩
  · exact Nat.le_of_eq (congrArg (fun t : System => t.server.registry.handleCounter) hsame.symm)
  · exact h.atomic.handleCounter_le hstep'

theorem threadedInv_start (env : AddressText) (sims : ℕ → DemoSimulator) :
    ThreadedInv env (.start sims) where
  threads := .start
  atomic := systemInv_start sims
  single _ := Or.inl rfl

/-- **Every run of the threads shows what a run with whole messages shows.** -/
theorem threaded_refines {sims : ℕ → DemoSimulator} {turns : List Turn}
    (hrun : run (threadedStep env) (.start sims) turns = some s) :
    ThreadedInv env s ∧ ∃ turns', run (systemStep env) (System.start sims) turns' = some s.atomic ∧
      runTrace (systemStep env) (fun _ => System.observe) 0 (System.start sims) turns' =
        runTrace (threadedStep env) (fun _ => ThreadedSystem.observe) 0 (.start sims) turns := by
  obtain ⟨hinv, turns', hrun', htrace⟩ := refinement (fun _ _ _ h hstep => h.step hstep)
    (threadedInv_start env sims) hrun
  exact ⟨hinv, turns', hrun', htrace 0 0⟩

end Refinement

/-! ### What the clients see -/

/-- **The clients see a linearizable store, although their requests are handled at the same time.**
In every run of the threads of the server and any number of `Sync` clients in which no call on a
pipe fails, whatever their simulators choose and whoever moves next, what the clients have sent and
read is, event by event, a history of the store.  That history is linearizable, the registry stands
for the store, no client is ever told that an object does not exist, and the requests of a client
take effect in the order in which it sent them; the last ones are those in its pipe, and the one its
thread works at. -/
theorem threaded_clients_see_store (env : AddressText) (sims : ℕ → DemoSimulator)
    {turns : List Turn} {s : ThreadedSystem}
    (hrun : run (threadedStep env) (.start sims) turns = some s)
    (hcounter : s.server.server.registry.handleCounter < 2 ^ 31) :
    ∃ g w t, LinearizesTo Store.meet [] g w t ∧
      List.Forall₂ (Event.Rel Frames (Carries env))
        (runTrace (threadedStep env) (fun _ => ThreadedSystem.observe) 0 (.start sims) turns) g ∧
      Represents s.server.server t ∧ (∀ d ∈ w, d.answer ≠ some .unknown) ∧
      ∀ c, ∃ ids, (s.session c).client.accepted.map Prod.fst = effects (requestsOf c) w ++ ids ∧
        ids.length =
          (taken ((s.server.threads c).phase c)).length + (s.session c).toServer.length := by
  obtain ⟨_, turns', hrun', htrace⟩ := threaded_refines hrun
  obtain ⟨g, w, t, hv⟩ := storeView_run hrun' hcounter
  refine ⟨g, w, t, hv.linearizes, htrace ▸ hv.seen, hv.represents, hv.known, fun c => ?_⟩
  obtain ⟨ms, horder, hserver, _⟩ := (hv.session c).order
  refine ⟨ms.map Prod.fst, horder.split, ?_⟩
  rw [List.length_map, ← List.length_append, ← List.length_map]
  exact (congrArg List.length hserver).symm

/-- Two clients ask for an object, and wait. -/
def bothAsk : List Turn :=
  [.client 0 {}, .client 1 {}, .client 0 {}, .client 1 {}, .client 0 {}, .client 1 {}]

/-- Both threads have parsed the requests before one of them enters its object.  The second one is
the first to do so, and the last to write its response. -/
def bothParse : List Turn :=
  bothAsk ++ [.server 0, .server 1, .server 0, .server 1, .server 1, .server 0, .server 0,
    .client 0 {}, .server 1, .client 1 {}]

/-- There are two objects at the end, and the clients have seen a store with two objects. -/
theorem bothParse_seen :
    ∃ s, run (threadedStep default) (.start createFirst) bothParse = some s ∧
      s.server.server.registry.handleCounter = 2 ∧
      ∃ g w t, LinearizesTo Store.meet [] g w t ∧
        List.Forall₂ (Event.Rel Frames (Carries default))
          (runTrace (threadedStep default) (fun _ => ThreadedSystem.observe) 0
            (.start createFirst) bothParse) g ∧
        Represents s.server.server t := by
  have hend : (run (threadedStep default) (.start createFirst) bothParse).map
      (fun s => s.server.server.registry.handleCounter) = some 2 := by decide
  obtain ⟨s, hrun, hs⟩ := Option.map_eq_some_iff.1 hend
  obtain ⟨g, w, t, hlin, hseen, hrep, _⟩ :=
    threaded_clients_see_store default createFirst hrun (by rw [hs]; decide)
  exact ⟨s, hrun, hs, g, w, t, hlin, hseen, hrep⟩

/-! ### Nobody waits for another client -/

/-- The steps that are left to the thread of a client: five for each message in the pipe, and what
is left of the request it works at. -/
def ThreadedSystem.work (s : ThreadedSystem) (c : ℕ) : ℕ :=
  5 * (s.session c).toServer.length + (s.server.threads c).pc.left

section Served

variable {env : AddressText} {s s' : ThreadedSystem} {c : ℕ}

/-- **Every step of the thread leaves it less.** -/
theorem ThreadedInv.lowers (h : ThreadedInv env s)
    (hstep : threadedStep env s (.server c) = some s') :
    s'.work c < s.work c ∧ (s'.session c).sim = (s.session c).sim ∧
      (s'.session c).client = (s.session c).client := by
  obtain ⟨⟨w, p⟩, hturn, rfl⟩ := Option.map_eq_some_iff.1 hstep
  obtain ⟨_, hmove⟩ := servingMove_of_turn h.threads hturn
  rw [ThreadedSystem.work, ThreadedSystem.work, ThreadedSystem.session_put_self]
  show 5 * p.toServer.length + (w.threads c).pc.left < _ ∧ _
  cases hmove with
  | receive hpc hserver =>
      simp only [RequestThreads.threads_receive, hpc, hserver, RequestPc.left, List.length_cons]
      exact ⟨by omega, trivial, trivial⟩
  | goOn _ hleft =>
      rw [RequestThreads.threads_setPc]
      exact ⟨Nat.add_lt_add_left hleft _, rfl, rfl⟩
  | commit _ _ hleft =>
      rw [RequestThreads.threads_commit]
      exact ⟨Nat.add_lt_add_left hleft _, rfl, rfl⟩
  | reply hpc =>
      simp only [RequestThreads.threads_reply, hpc, RequestPc.left]
      exact ⟨by omega, trivial, trivial⟩

/-- What others do leaves the thread of a client, and what it has to do, alone. -/
theorem work_eq_of_ne {c' : ℕ} (hc : c ≠ c') (hstep : threadedStep env s (.server c') = some s')
    (h : ThreadedInv env s) :
    s'.work c = s.work c ∧ s'.session c = s.session c := by
  obtain ⟨⟨w, p⟩, hturn, rfl⟩ := Option.map_eq_some_iff.1 hstep
  obtain ⟨_, hmove⟩ := servingMove_of_turn h.threads hturn
  have hthread : w.threads c = s.server.threads c := by
    cases hmove <;> exact Function.update_of_ne hc ..
  rw [ThreadedSystem.work, ThreadedSystem.work, ThreadedSystem.session_put_of_ne s w p hc]
  exact ⟨congrArg (fun t : RequestThread => _ + t.pc.left) hthread, rfl⟩

/-- What a thread that parses knows of its message: it decodes. -/
theorem ThreadedInv.decodes (h : ThreadedInv env s)
    (hphase : (s.server.threads c).phase c =
      .inside (s.server.threads c).call ⟨c, (s.server.threads c).data⟩) :
    ∃ id a stage, stageRequest (s.server.threads c).data = .ok (id, stage) ∧
      stage.action s.server.server.known (s.server.threads c).data = .ok a := by
  obtain ⟨m, hdata, _, hm⟩ := h.inside hphase
  have hd := hm.understood.decodes s.server.server.known m.id hm.known
  obtain ⟨stage, hstage⟩ := stage_of_decodeRequest hd
  exact ⟨m.id, m.action, stage, hdata ▸ hstage⟩

/-- **A thread with work can go on.** -/
theorem ThreadedInv.enabled (h : ThreadedInv env s) (hwork : 0 < s.work c) :
    ∃ s', threadedStep env s (.server c) = some s' := by
  have hputs : ∀ r, (s.session c).threadTurn env s.server c = some r →
      ∃ s', threadedStep env s (.server c) = some s' := fun r hturn =>
    ⟨_, Option.map_eq_some_iff.2 ⟨r, hturn, rfl⟩⟩
  rw [ThreadedSystem.work] at hwork
  cases hpc : (s.server.threads c).pc with
  | idle =>
      rw [hpc, RequestPc.left] at hwork
      cases hserver : (s.session c).toServer with
      | nil =>
          rw [hserver] at hwork
          exact absurd hwork (Nat.lt_irrefl 0)
      | cons data rest =>
          -- the message fits the buffer, since it is one of the messages of the clients
          have hmem : data ∈ (s.atomic.session c).toServer :=
            List.mem_append_right _ (hserver ▸ List.mem_cons_self)
          obtain ⟨m, rfl, hm⟩ := (h.atomic.session c).traffic.message hmem
          have hfits : ¬ kBuffSize < m.bytes.length := by
            have hlen := hm.understood.fits
            rw [Message.bytes, length_frameRequest]
            omega
          refine hputs (s.server.receive c m.bytes, { s.session c with toServer := rest }) ?_
          simp only [Session.threadTurn, hpc, hserver, if_neg hfits, requestStep, Option.map_some]
  | parsing =>
      obtain ⟨id, a, stage, hstage, _⟩ := h.decodes (by rw [RequestThread.phase, hpc])
      cases stage with
      | done a =>
          refine hputs (s.server.commit c env id a, s.session c) ?_
          simp only [Session.threadTurn, hpc, requestStep, hstage, Option.map_some]
      | create obj =>
          refine hputs (s.server.setPc c (.creating id obj), s.session c) ?_
          simp only [Session.threadTurn, hpc, requestStep, hstage, Option.map_some]
      | find handle k =>
          refine hputs (s.server.setPc c (.finding id handle k), s.session c) ?_
          simp only [Session.threadTurn, hpc, requestStep, hstage, Option.map_some]
  | creating id obj =>
      refine hputs (s.server.commit c env id (.create obj), s.session c) ?_
      simp only [Session.threadTurn, hpc, requestStep, Option.map_some]
  | finding id handle k =>
      cases hfind : s.server.server.registry.getClassObjectByHandle handle with
      | some obj =>
          refine hputs (s.server.setPc c (.found id handle k), s.session c) ?_
          simp only [Session.threadTurn, hpc, requestStep, hfind, Option.map_some]
      | none =>
          refine hputs (s.server.commit c env id .reject, s.session c) ?_
          simp only [Session.threadTurn, hpc, requestStep, hfind, Option.map_some]
  | found id handle k =>
      have hknows := h.threads.knows c
      simp only [RequestThread.Knows, hpc] at hknows
      obtain ⟨hfound, hknown⟩ := hknows
      obtain ⟨id', a, stage, hstage, ha⟩ := h.decodes (by rw [RequestThread.phase, hpc])
      rw [hfound, Except.ok.injEq, Prod.mk.injEq] at hstage
      obtain ⟨rfl, rfl⟩ := hstage
      rw [Stage.action, if_pos hknown] at ha
      refine hputs (s.server.commit c env id a, s.session c) ?_
      simp only [Session.threadTurn, hpc, requestStep, ha, Option.map_some]
  | answered result =>
      refine hputs (s.server.reply c result, { s.session c with
        toClient := (s.session c).toClient ++ result.2.written }) ?_
      simp only [Session.threadTurn, hpc, requestStep, Option.map_some]

/-- A thread that has nothing left to do waits for a message, and there is none. -/
theorem ThreadedSystem.work_eq_zero (hwork : s.work c = 0) :
    (s.session c).toServer = [] ∧ (s.server.threads c).pc = .idle := by
  rw [work, Nat.add_eq_zero_iff, Nat.mul_eq_zero] at hwork
  obtain ⟨hserver, hleft⟩ := hwork
  refine ⟨List.length_eq_zero_iff.1 (hserver.resolve_left (by decide)), ?_⟩
  cases hpc : (s.server.threads c).pc with
  | idle => rfl
  | parsing | creating | finding | found | answered =>
      rw [hpc] at hleft
      cases hleft

/-- It holds nothing then. -/
theorem ThreadedSystem.atomic_of_done (hwork : s.work c = 0) :
    s.atomic.session c = s.session c := by
  show (s.session c).atomic _ = _
  rw [RequestThread.phase, (work_eq_zero hwork).2]
  exact congrArg (Session.mk _ _ _) (List.append_nil _)

/-- A client that waits, and whose thread has nothing left to do, has its response. -/
theorem ThreadedInv.toClient_ne_nil (h : ThreadedInv env s) {id : RequestId}
    (hpc : (s.session c).client.pc = .reading id) (hwork : s.work c = 0) :
    (s.session c).toClient ≠ [] := by
  have htraffic := (h.atomic.session c).traffic
  rw [ThreadedSystem.atomic_of_done hwork] at htraffic
  exact htraffic.toClient_ne_nil hpc (ThreadedSystem.work_eq_zero hwork).1

/-- Whether a turn is one of the thread of client `c`. -/
def Turn.isServer (c : ℕ) : Turn → Bool
  | .client _ _ => false
  | .server c' => c' = c

/-- **While a client waits**, every step of its thread leaves the thread less, and nothing else
changes what is left. -/
theorem ThreadedInv.meanwhile (h : ThreadedInv env s) {turns : List Turn}
    (hrun : run (threadedStep env) s turns = some s')
    (hwaits : ∀ input, .client c input ∉ turns) :
    ThreadedInv env s' ∧ (s'.session c).client = (s.session c).client ∧
      (turns.filter (Turn.isServer c)).length + s'.work c ≤ s.work c := by
  refine invariant_history (I := fun turns s' => (∀ input, .client c input ∉ turns) →
    ThreadedInv env s' ∧ (s'.session c).client = (s.session c).client ∧
      (turns.filter (Turn.isServer c)).length + s'.work c ≤ s.work c)
    (fun _ => ⟨h, rfl, Nat.le_of_eq (Nat.zero_add _)⟩) ?_ hrun hwaits
  intro turns turn t t' _ hI hstep hwaits
  obtain ⟨ht, hclient, hle⟩ := hI fun input hmem => hwaits input (List.mem_append_left _ hmem)
  refine ⟨(ht.step hstep).1, ?_⟩
  rw [List.filter_append, List.length_append]
  cases turn with
  | client c' input =>
      obtain ⟨p, hturn, rfl⟩ := Option.map_eq_some_iff.1 hstep
      have hc : c ≠ c' := by
        rintro rfl
        exact hwaits input (List.mem_append_right _ (List.mem_singleton_self _))
      rw [ThreadedSystem.work, ThreadedSystem.session_put_of_ne t _ p hc]
      exact ⟨hclient, hle⟩
  | server c' =>
      by_cases hc : c = c'
      · subst hc
        obtain ⟨hlt, _, hsame⟩ := ht.lowers hstep
        have hone : ([Turn.server c].filter (Turn.isServer c)).length ≤ 1 :=
          List.length_filter_le ..
        exact ⟨hsame.trans hclient, by omega⟩
      · obtain ⟨heq, hsame⟩ := work_eq_of_ne hc hstep ht
        have hnone : [Turn.server c'].filter (Turn.isServer c) = [] :=
          List.filter_cons_of_neg fun htrue => hc (of_decide_eq_true htrue).symm
        rw [hnone, heq, hsame]
        exact ⟨hclient, hle⟩

/-- **A client that waits is served, whatever the others do**, as long as no call on a pipe fails (a
`WriteFile` that fails would end the thread).  Let a client be in `ReadFile`.  While it is, its
thread takes at most five steps for each message in the pipe and four for the one it works at; and
as long as there is nothing to read, it can take the next one.  The other clients and their threads,
however often they move in between, cannot prevent that. -/
theorem threaded_served (env : AddressText) (sims : ℕ → DemoSimulator) {turns more : List Turn}
    {s s' : ThreadedSystem} {c : ℕ} {id : RequestId}
    (hrun : run (threadedStep env) (.start sims) turns = some s)
    (hpc : (s.session c).client.pc = .reading id)
    (hmore : run (threadedStep env) s more = some s')
    (hwaits : ∀ input, .client c input ∉ more) :
    (more.filter (Turn.isServer c)).length ≤ 5 * (s.session c).toServer.length + 4 ∧
      ((s'.session c).toClient = [] → ∃ t, threadedStep env s' (.server c) = some t) := by
  obtain ⟨hinv, hsame, hcount⟩ := (threaded_refines hrun).1.meanwhile hmore hwaits
  have hwork : s.work c ≤ 5 * (s.session c).toServer.length + 4 :=
    Nat.add_le_add_left (RequestPc.left_le _) _
  refine ⟨by omega, fun hnil => hinv.enabled (Nat.pos_of_ne_zero fun hzero => ?_)⟩
  exact hinv.toClient_ne_nil (by rw [hsame]; exact hpc) hzero hnil

end Served

/-- The thread of the second client does all it has to, while the first one has only begun. -/
def secondServed : List Turn :=
  [.server 0, .server 1, .server 1, .server 1, .server 0, .server 1, .client 1 {}]

/-- The first client still waits, and its thread can go on. -/
theorem secondServed_served :
    ∃ s s', run (threadedStep default) (.start createFirst) bothAsk = some s ∧
      run (threadedStep default) s secondServed = some s' ∧ (s'.session 0).toClient = [] ∧
      (secondServed.filter (Turn.isServer 0)).length ≤ 5 * (s.session 0).toServer.length + 4 ∧
      ∃ t, threadedStep default s' (.server 0) = some t := by
  have hasked : (run (threadedStep default) (.start createFirst) bothAsk).map
      (fun s => (s.session 0).client.pc) = some (.reading 1) := rfl
  obtain ⟨s, hrun, hpc⟩ := Option.map_eq_some_iff.1 hasked
  have hend : (run (threadedStep default) s secondServed).map
      (fun s' => (s'.session 0).toClient) = some [] := by
    have hboth : (run (threadedStep default) (.start createFirst) (bothAsk ++ secondServed)).map
        (fun s' => (s'.session 0).toClient) = some [] := by decide
    rw [run_append, hrun] at hboth
    exact hboth
  obtain ⟨s', hmore, hnil⟩ := Option.map_eq_some_iff.1 hend
  obtain ⟨hcount, hgo⟩ := threaded_served default createFirst hrun hpc hmore
    (fun input hmem => by simp [secondServed] at hmem)
  exact ⟨s, s', hrun, hmore, hnil, hcount, hgo hnil⟩

end NamedPipeDemo
