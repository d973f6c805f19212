/-
**`ResponseParser` under concurrency.**

With the policy `Async` the thread of `Client::Start` registers requests while threads of the system
hand responses to the parser.  `RegisterRequest` and the last part of `ParseResponse` hold the mutex
of the table, and the callback of a request runs inside the second.  The callback may register a
handle at the repository, which has a mutex of its own and takes it twice; an announcement registers
one too, and holds nothing between the two.

Handles can end up in the repository twice that way.  Nothing else goes wrong: the calls could have
been made one after another, each as a whole, in an order that respects real time, and in this order
the parser gives the same results, calls the same callbacks, empties the same entries of the table,
and registers the same handles.

Main definitions:

* `NamedPipeDemo.ParserThreads`, `NamedPipeDemo.parserThreadStep` — any number of threads that share
  the parser, and their steps;
* `NamedPipeDemo.parserReact` — the parser, one call at a time;
* `NamedPipeDemo.ParserInv` — **the invariant**: how far the threads are ahead of the order.

Main results:

* `NamedPipeDemo.parser_linearizable` — **concurrent calls could have been made one after another**;
* `NamedPipeDemo.concurrent_responses_matched` — **every callback is called at most once**, with the
  value of a response that was not over before the request was registered.
-/

import NamedPipeDemo.DemoSimulator
import NamedPipeDemo.Linearizability
import NamedPipeDemo.RepositoryThreads
import NamedPipeDemo.ResponseMatching

set_option relaxedAutoImplicit false
set_option autoImplicit false

namespace NamedPipeDemo

open Linearizability LabelledRuns Segment

/-! ### The parser, one call at a time -/

/-- The handle that is registered when a request is handed a value. -/
def ClientRequest.registers (request : ClientRequest DemoCallback) (value : AnyValue) :
    Option ClassHandle :=
  request.successCallback.bind fun callback => callback.registers value

theorem ClientRequest.handleSuccess_eq (request : ClientRequest DemoCallback) (value : AnyValue)
    (repository : ClassRepository) :
    request.handleSuccess DemoCallback.onSuccess value repository =
      match request.registers value with
      | some handle => repository.registerClassHandle handle
      | none => repository := by
  rw [handleSuccess, registers]
  cases request.successCallback with
  | none => rfl
  | some callback => exact callback.onSuccess_eq value repository

/-- **The parser, one call at a time**: the result of the call, or `none` when it does not
return. -/
def parserReact (s : ClientState DemoCallback) :
    ParserCall DemoCallback → Option Bool × ClientState DemoCallback
  | .register id request =>
      let r := s.registerRequest id request
      (some r.1, r.2)
  | .response data =>
      match (parseResponse DemoCallback.onSuccess data.1).run s with
      | .ok result s' => (some result, s')
      | .error _ s' => (none, s')

theorem parserReact_response {s : ClientState DemoCallback} {data : RawDataType}
    {a : ResponseAction} (hd : decodeResponse data.1 = .ok a) :
    parserReact s (.response data) =
      (some (decide (a ≠ .reject)), a.perform DemoCallback.onSuccess s) := by
  rw [parserReact, parseResponse_eq, hd]

/-- An announcement registers its handle. -/
theorem parserReact_announced {s : ClientState DemoCallback} {op : ParserCall DemoCallback}
    {handle : ClassHandle}
    (hop : ∃ data, op = .response data ∧ decodeResponse data.1 = .ok (.register handle)) :
    parserReact s op =
      (some true, { s with repository := s.repository.registerClassHandle handle }) := by
  obtain ⟨data, rfl, hd⟩ := hop
  rw [parserReact_response hd]
  rfl

/-! ### Threads that share the parser -/

/-- Where a thread is. -/
inductive ParserPc
  | idle
  /-- In `RegisterRequest`, in front of the mutex of the table. -/
  | registering (id : RequestId) (request : ClientRequest DemoCallback)
  /-- At the test and the insertion. -/
  | inserting (id : RequestId) (request : ClientRequest DemoCallback)
  /-- In `ParseResponse`, in front of the bytes. -/
  | parsing (data : RawDataType)
  /-- In front of the mutex of the table, with a value. -/
  | notifying (id : RequestId) (value : AnyValue)
  /-- At `requests_.find`. -/
  | finding (id : RequestId) (value : AnyValue)
  /-- In `RegisterClassHandle`, at the test: for an announcement, or in the callback of an entry. -/
  | testing (handle : ClassHandle) (entry : Option RequestId)
  /-- Behind a test that found nothing, and before `push_back`. -/
  | pushing (handle : ClassHandle) (entry : Option RequestId)
  /-- At `requests_.erase`. -/
  | erasing (id : RequestId)
  /-- At the end of the scope of the lock. -/
  | unlocking (result : Bool)
  | returning (result : Bool)

namespace ParserPc

/-- The thread holds the mutex of the table. -/
def isHeld : ParserPc → Bool
  | inserting _ _ => true
  | finding _ _ => true
  | testing _ (some _) => true
  | pushing _ (some _) => true
  | erasing _ => true
  | unlocking _ => true
  | _ => false

/-- The entry whose callback was called, and that is still in the table. -/
def erases : ParserPc → Option RequestId
  | testing _ entry => entry
  | pushing _ entry => entry
  | erasing id => some id
  | _ => none

/-- The handle that a callback has still to register. -/
def registers : ParserPc → Option ClassHandle
  | testing handle (some _) => some handle
  | pushing handle (some _) => some handle
  | _ => none

end ParserPc

/-- A thread, with the number of its call and the call itself. -/
structure ParserThread where
  pc : ParserPc := .idle
  call : ℕ := 0
  op : ParserCall DemoCallback := .register 0 {}

/-- The parser with its repository, the thread that holds the mutex of the table, and the threads;
and what has been observed of their calls. -/
structure ParserThreads where
  client : ClientState DemoCallback := {}
  requestsMutex : Option ℕ := none
  threads : ℕ → ParserThread := fun _ => {}
  record : Record (ParserCall DemoCallback) (Option Bool) := {}

namespace ParserThreads

variable (s : ParserThreads) (t : ℕ)

/-- The thread goes on. -/
def setPc (pc : ParserPc) : ParserThreads :=
  { s with threads := Function.update s.threads t { s.threads t with pc := pc } }

/-- The call of the thread takes effect, with this result. -/
def commit (result : Bool) : ParserThreads :=
  { s with record := s.record.commit (s.threads t).call (s.threads t).op (some result) }

end ParserThreads

/-- A step of the thread `t`. -/
inductive ParserEvent
  | call (t : ℕ) (op : ParserCall DemoCallback)
  | lock (t : ℕ)
  | insert (t : ℕ)
  | parse (t : ℕ)
  | find (t : ℕ)
  | containsClassHandle (t : ℕ)
  | pushBack (t : ℕ)
  | erase (t : ℕ)
  | unlock (t : ℕ)
  | return_ (t : ℕ)

/-- Where a call begins. -/
def ParserCall.entry : ParserCall DemoCallback → ParserPc
  | register id request => .registering id request
  | response data => .parsing data

/-- **One step of one thread.**  The bytes of a response belong to the thread that looks at them.  A
callback is taken to return: a fault that leaves it ends the program. -/
def parserThreadStep (s : ParserThreads) : ParserEvent → Option ParserThreads
  | .call t op =>
      match (s.threads t).pc with
      | .idle =>
          some { s with
            threads := Function.update s.threads t ⟨op.entry, s.record.calls, op⟩
            record := s.record.call op }
      | _ => none
  | .lock t =>
      if s.requestsMutex = none then
        match (s.threads t).pc with
        | .registering id request =>
            some ({ s with requestsMutex := some t }.setPc t (.inserting id request))
        | .notifying id value =>
            some ({ s with requestsMutex := some t }.setPc t (.finding id value))
        | _ => none
      else none
  | .insert t =>
      match (s.threads t).pc with
      | .inserting id request =>
          let r := s.client.registerRequest id request
          some ({ s.commit t r.1 with client := r.2 }.setPc t (.unlocking r.1))
      | _ => none
  | .parse t =>
      match (s.threads t).pc with
      | .parsing data =>
          match decodeResponse data.1 with
          | .ok (.register handle) => some (s.setPc t (.testing handle none))
          | .ok (.deliver id value) => some (s.setPc t (.notifying id value))
          | .ok .reject => some ((s.commit t false).setPc t (.returning false))
          | .error _ => none
      | _ => none
  | .find t =>
      match (s.threads t).pc with
      | .finding id value =>
          match s.client.requests.lookup id with
          | some request =>
              -- `HandleSuccess` is called
              let deliveries := ⟨id, request, value⟩ :: s.client.deliveries
              some ({ s.commit t true with
                client := { s.client with deliveries := deliveries } }.setPc t
                  (match request.registers value with
                  | some handle => .testing handle (some id)
                  | none => .erasing id))
          | none => some ((s.commit t true).setPc t (.unlocking true))
      | _ => none
  | .containsClassHandle t =>
      match (s.threads t).pc with
      | .testing handle entry =>
          if s.client.repository.containsClassHandle handle then
            match entry with
            | some id => some (s.setPc t (.erasing id))
            | none => some ((s.commit t true).setPc t (.returning true))
          else some (s.setPc t (.pushing handle entry))
      | _ => none
  | .pushBack t =>
      match (s.threads t).pc with
      | .pushing handle entry =>
          let client := { s.client with repository := s.client.repository ++ [handle] }
          match entry with
          | some id => some ({ s with client := client }.setPc t (.erasing id))
          | none => some ({ s.commit t true with client := client }.setPc t (.returning true))
      | _ => none
  | .erase t =>
      match (s.threads t).pc with
      | .erasing id =>
          some ({ s with
            client := { s.client with requests := s.client.requests.erase id } }.setPc t
              (.unlocking true))
      | _ => none
  | .unlock t =>
      match (s.threads t).pc with
      | .unlocking result => some ({ s with requestsMutex := none }.setPc t (.returning result))
      | _ => none
  | .return_ t =>
      match (s.threads t).pc with
      | .returning result =>
          some ({ s with
            record := s.record.return_ (s.threads t).call (some result) }.setPc t .idle)
      | _ => none

/-- What a step can do. -/
inductive ParserMove (s : ParserThreads) : ParserEvent → ParserThreads → Prop
  | call {t : ℕ} {op : ParserCall DemoCallback} (hpc : (s.threads t).pc = .idle) :
      ParserMove s (.call t op) { s with
        threads := Function.update s.threads t ⟨op.entry, s.record.calls, op⟩
        record := s.record.call op }
  | lockInsert {t : ℕ} {id : RequestId} {request : ClientRequest DemoCallback}
      (hpc : (s.threads t).pc = .registering id request) (hfree : s.requestsMutex = none) :
      ParserMove s (.lock t) ({ s with requestsMutex := some t }.setPc t (.inserting id request))
  | lockFind {t : ℕ} {id : RequestId} {value : AnyValue}
      (hpc : (s.threads t).pc = .notifying id value) (hfree : s.requestsMutex = none) :
      ParserMove s (.lock t) ({ s with requestsMutex := some t }.setPc t (.finding id value))
  | insert {t : ℕ} {id : RequestId} {request : ClientRequest DemoCallback}
      (hpc : (s.threads t).pc = .inserting id request) :
      ParserMove s (.insert t) ({ s.commit t (s.client.registerRequest id request).1 with
        client := (s.client.registerRequest id request).2 }.setPc t
          (.unlocking (s.client.registerRequest id request).1))
  | announce {t : ℕ} {data : RawDataType} {handle : ClassHandle}
      (hpc : (s.threads t).pc = .parsing data)
      (hd : decodeResponse data.1 = .ok (.register handle)) :
      ParserMove s (.parse t) (s.setPc t (.testing handle none))
  | deliver {t : ℕ} {data : RawDataType} {id : RequestId} {value : AnyValue}
      (hpc : (s.threads t).pc = .parsing data)
      (hd : decodeResponse data.1 = .ok (.deliver id value)) :
      ParserMove s (.parse t) (s.setPc t (.notifying id value))
  | reject {t : ℕ} {data : RawDataType} (hpc : (s.threads t).pc = .parsing data)
      (hd : decodeResponse data.1 = .ok .reject) :
      ParserMove s (.parse t) ((s.commit t false).setPc t (.returning false))
  | hit {t : ℕ} {id : RequestId} {value : AnyValue} {request : ClientRequest DemoCallback}
      (hpc : (s.threads t).pc = .finding id value)
      (hl : s.client.requests.lookup id = some request) :
      ParserMove s (.find t) ({ s.commit t true with
        client := { s.client with
          deliveries := ⟨id, request, value⟩ :: s.client.deliveries } }.setPc t
            (match request.registers value with
            | some handle => .testing handle (some id)
            | none => .erasing id))
  | miss {t : ℕ} {id : RequestId} {value : AnyValue} (hpc : (s.threads t).pc = .finding id value)
      (hl : s.client.requests.lookup id = none) :
      ParserMove s (.find t) ((s.commit t true).setPc t (.unlocking true))
  | presentEntry {t : ℕ} {handle : ClassHandle} {id : RequestId}
      (hpc : (s.threads t).pc = .testing handle (some id))
      (hmem : handle ∈ s.client.repository) :
      ParserMove s (.containsClassHandle t) (s.setPc t (.erasing id))
  | present {t : ℕ} {handle : ClassHandle} (hpc : (s.threads t).pc = .testing handle none)
      (hmem : handle ∈ s.client.repository) :
      ParserMove s (.containsClassHandle t) ((s.commit t true).setPc t (.returning true))
  | absent {t : ℕ} {handle : ClassHandle} {entry : Option RequestId}
      (hpc : (s.threads t).pc = .testing handle entry) (hmem : handle ∉ s.client.repository) :
      ParserMove s (.containsClassHandle t) (s.setPc t (.pushing handle entry))
  | pushEntry {t : ℕ} {handle : ClassHandle} {id : RequestId}
      (hpc : (s.threads t).pc = .pushing handle (some id)) :
      ParserMove s (.pushBack t) ({ s with
        client := { s.client with
          repository := s.client.repository ++ [handle] } }.setPc t (.erasing id))
  | push {t : ℕ} {handle : ClassHandle} (hpc : (s.threads t).pc = .pushing handle none) :
      ParserMove s (.pushBack t) ({ s.commit t true with
        client := { s.client with
          repository := s.client.repository ++ [handle] } }.setPc t (.returning true))
  | erase {t : ℕ} {id : RequestId} (hpc : (s.threads t).pc = .erasing id) :
      ParserMove s (.erase t) ({ s with
        client := { s.client with
          requests := s.client.requests.erase id } }.setPc t (.unlocking true))
  | unlock {t : ℕ} {result : Bool} (hpc : (s.threads t).pc = .unlocking result) :
      ParserMove s (.unlock t) ({ s with requestsMutex := none }.setPc t (.returning result))
  | return_ {t : ℕ} {result : Bool} (hpc : (s.threads t).pc = .returning result) :
      ParserMove s (.return_ t) ({ s with
        record := s.record.return_ (s.threads t).call (some result) }.setPc t .idle)

section Moves

variable {s s' : ParserThreads} {e : ParserEvent} {t : ℕ}

/-- **Every step is one of the moves.** -/
theorem parserMove_of_step (hstep : parserThreadStep s e = some s') : ParserMove s e s' := by
  cases e with
  | call t op =>
      simp only [parserThreadStep] at hstep
      split at hstep <;> cases hstep
      next hpc => exact .call hpc
  | lock t =>
      simp only [parserThreadStep] at hstep
      split at hstep
      swap
      · cases hstep
      next hfree =>
      split at hstep <;> cases hstep
      · next hpc => exact .lockInsert hpc hfree
      · next hpc => exact .lockFind hpc hfree
  | insert t =>
      simp only [parserThreadStep] at hstep
      split at hstep <;> cases hstep
      next hpc => exact .insert hpc
  | parse t =>
      simp only [parserThreadStep] at hstep
      split at hstep
      swap
      · cases hstep
      next hpc =>
      split at hstep <;> cases hstep
      · next hd => exact .announce hpc hd
      · next hd => exact .deliver hpc hd
      · next hd => exact .reject hpc hd
  | find t =>
      simp only [parserThreadStep] at hstep
      split at hstep
      swap
      · cases hstep
      next hpc =>
      split at hstep <;> cases hstep
      · next hl => exact .hit hpc hl
      · next hl => exact .miss hpc hl
  | containsClassHandle t =>
      simp only [parserThreadStep] at hstep
      split at hstep
      swap
      · cases hstep
      next handle entry hpc =>
      split at hstep
      · next hmem =>
          cases entry with
          | none =>
              cases hstep
              exact .present hpc (ClassRepository.containsClassHandle_iff.1 hmem)
          | some id =>
              cases hstep
              exact .presentEntry hpc (ClassRepository.containsClassHandle_iff.1 hmem)
      · next hmem =>
          cases hstep
          exact .absent hpc (mt ClassRepository.containsClassHandle_iff.2 hmem)
  | pushBack t =>
      simp only [parserThreadStep] at hstep
      split at hstep
      swap
      · cases hstep
      next handle entry hpc =>
      cases entry with
      | none =>
          cases hstep
          exact .push hpc
      | some id =>
          cases hstep
          exact .pushEntry hpc
  | erase t =>
      simp only [parserThreadStep] at hstep
      split at hstep <;> cases hstep
      next hpc => exact .erase hpc
  | unlock t =>
      simp only [parserThreadStep] at hstep
      split at hstep <;> cases hstep
      next hpc => exact .unlock hpc
  | return_ t =>
      simp only [parserThreadStep] at hstep
      split at hstep <;> cases hstep
      next hpc => exact .return_ hpc

end Moves

/-! ### The invariant -/

/-- Where a thread is with respect to its call.  An entry that was found is as good as erased. -/
def ParserThread.phase (x : ParserThread) : Phase (ParserCall DemoCallback) (Option Bool) :=
  match x.pc with
  | .idle => .outside
  | .testing _ (some _) => .past x.call x.op (some true)
  | .pushing _ (some _) => .past x.call x.op (some true)
  | .erasing _ => .past x.call x.op (some true)
  | .unlocking result => .past x.call x.op (some result)
  | .returning result => .past x.call x.op (some result)
  | _ => .inside x.call x.op

/-- What a thread knows about its own call. -/
def ParserThread.Knows (x : ParserThread) : Prop :=
  match x.pc with
  | .registering id request => x.op = .register id request
  | .inserting id request => x.op = .register id request
  | .parsing data => x.op = .response data
  | .notifying id value => ∃ data, x.op = .response data ∧
      decodeResponse data.1 = .ok (.deliver id value)
  | .finding id value => ∃ data, x.op = .response data ∧
      decodeResponse data.1 = .ok (.deliver id value)
  | .testing handle none => ∃ data, x.op = .response data ∧
      decodeResponse data.1 = .ok (.register handle)
  | .pushing handle none => ∃ data, x.op = .response data ∧
      decodeResponse data.1 = .ok (.register handle)
  | _ => True

/-- Where the thread is that holds the mutex of the table. -/
def ParserThreads.holderPc (s : ParserThreads) : ParserPc :=
  match s.requestsMutex with
  | some t => (s.threads t).pc
  | none => .idle

/-- The table without the entry that is about to be erased. -/
def ParserPc.erased (pc : ParserPc)
    (requests : Finmap fun _ : RequestId => ClientRequest DemoCallback) :
    Finmap fun _ : RequestId => ClientRequest DemoCallback :=
  match pc.erases with
  | some id => requests.erase id
  | none => requests

/-- The sequential parser is ahead by what the thread with the mutex has begun: an entry is gone,
and its handle is registered.  The repositories have the same handles; one may have some twice. -/
structure Settled (s : ParserThreads) (w : ClientState DemoCallback) : Prop where
  table : w.requests = s.holderPc.erased s.client.requests
  deliveries : w.deliveries = s.client.deliveries
  repository : ∀ handle, handle ∈ w.repository ↔
    handle ∈ s.client.repository ∨ s.holderPc.registers = some handle

/-- **The invariant**: what has happened so far linearizes, every thread knows its call, and the
mutex is held where the source holds it. -/
structure ParserInv (s : ParserThreads) (w : ClientState DemoCallback) : Prop where
  tracked : Tracked parserReact {} (fun t => (s.threads t).phase) s.record w
  knows : ∀ t, (s.threads t).Knows
  holder : ∀ t, (s.threads t).pc.isHeld = true ↔ s.requestsMutex = some t
  settled : Settled s w

section Steps

variable {s s' : ParserThreads} {w w' : ClientState DemoCallback} {e : ParserEvent} {t : ℕ}

theorem ParserThreads.holderPc_of_held (h : s.requestsMutex = some t) :
    s.holderPc = (s.threads t).pc := by
  rw [holderPc, h]

theorem ParserThreads.holderPc_of_free (h : s.requestsMutex = none) : s.holderPc = .idle := by
  rw [holderPc, h]

/-- A thread that does not hold the mutex goes on. -/
theorem ParserThreads.holderPc_of_ne {x : ParserThread}
    (hthreads : s'.threads = Function.update s.threads t x)
    (hmutex : s'.requestsMutex = s.requestsMutex) (h : s.requestsMutex ≠ some t) :
    s'.holderPc = s.holderPc := by
  rw [holderPc, holderPc, hmutex, hthreads]
  cases hm : s.requestsMutex with
  | none => rfl
  | some u =>
      have hne : u ≠ t := by
        rintro rfl
        exact h hm
      simp only [Function.update_of_ne hne]

/-- A step that changes neither the parser nor what the holder of the mutex has begun. -/
theorem Settled.same (h : Settled s w) (hclient : s'.client = s.client)
    (herases : s'.holderPc.erases = s.holderPc.erases)
    (hregisters : s'.holderPc.registers = s.holderPc.registers) : Settled s' w where
  table := by
    rw [h.table, ParserPc.erased, ParserPc.erased, herases, hclient]
  deliveries := by rw [h.deliveries, hclient]
  repository handle := by rw [h.repository, hregisters, hclient]

/-- A registered handle is in the repository. -/
theorem ClassRepository.mem_registerClassHandle_iff {repository : ClassRepository}
    {handle h : ClassHandle} :
    h ∈ repository.registerClassHandle handle ↔ h ∈ repository ∨ handle = h := by
  rw [registerClassHandle]
  split
  · next hmem =>
      refine ⟨Or.inl, fun hh => hh.elim id ?_⟩
      rintro rfl
      exact hmem
  · rw [List.mem_append, List.mem_singleton, eq_comm (a := h)]

/-- The phases after a step of one thread. -/
theorem parserPhase_update (threads : ℕ → ParserThread) (x : ParserThread) :
    (fun u => (Function.update threads t x u).phase) =
      Function.update (fun u => (threads u).phase) t x.phase :=
  funext fun u => Function.apply_update (fun _ x => ParserThread.phase x) threads t x u

/-- A thread that stays in its phase. -/
theorem parserPhase_silent {threads : ℕ → ParserThread} {x : ParserThread}
    (hphase : x.phase = (threads t).phase) (u : ℕ) :
    (Function.update threads t x u).phase = (threads u).phase := by
  by_cases hut : u = t
  · rw [hut, Function.update_self, hphase]
  · rw [Function.update_of_ne hut]

namespace ParserInv

/-- One thread goes on. -/
theorem update (h : ParserInv s w) {x : ParserThread}
    (hthreads : s'.threads = Function.update s.threads t x)
    (htracked : Tracked parserReact {} (fun u => (s'.threads u).phase) s'.record w')
    (hknows : x.Knows) (hself : x.pc.isHeld = true ↔ s'.requestsMutex = some t)
    (hothers : ∀ u ≠ t, s'.requestsMutex = some u ↔ s.requestsMutex = some u)
    (hsettled : Settled s' w') : ParserInv s' w' where
  tracked := htracked
  knows := by
    rw [hthreads]
    exact (Function.forall_update_iff s.threads fun _ x => x.Knows).2 ⟨hknows, fun u _ => h.knows u⟩
  holder u := by
    rw [hthreads]
    by_cases hut : u = t
    · rw [hut, Function.update_self]
      exact hself
    · rw [Function.update_of_ne hut, hothers u hut]
      exact h.holder u
  settled := hsettled

/-- A thread that does not hold the mutex of the table does not hold it afterwards either. -/
theorem outside (h : ParserInv s w) {x : ParserThread}
    (hthreads : s'.threads = Function.update s.threads t x)
    (hmutex : s'.requestsMutex = s.requestsMutex)
    (htracked : Tracked parserReact {} (fun u => (s'.threads u).phase) s'.record w')
    (hknows : x.Knows) (hold : (s.threads t).pc.isHeld = false) (hnew : x.pc.isHeld = false)
    (hclient : Settled s w → s'.holderPc = s.holderPc → Settled s' w') : ParserInv s' w' := by
  have hnot : s.requestsMutex ≠ some t := fun heq => by
    rw [(h.holder t).2 heq] at hold
    cases hold
  refine h.update hthreads htracked hknows ?_ (fun u _ => by rw [hmutex]) ?_
  · rw [hnew, hmutex]
    exact iff_of_false nofun hnot
  · exact hclient h.settled (ParserThreads.holderPc_of_ne hthreads hmutex hnot)

/-- The thread with the mutex goes on, and keeps it. -/
theorem inside (h : ParserInv s w) {x : ParserThread}
    (hthreads : s'.threads = Function.update s.threads t x)
    (hmutex : s'.requestsMutex = s.requestsMutex)
    (htracked : Tracked parserReact {} (fun u => (s'.threads u).phase) s'.record w')
    (hknows : x.Knows) (hold : (s.threads t).pc.isHeld = true) (hnew : x.pc.isHeld = true)
    (hclient : Settled s w → s.holderPc = (s.threads t).pc → s'.holderPc = x.pc →
      Settled s' w') : ParserInv s' w' := by
  have hheld : s.requestsMutex = some t := (h.holder t).1 hold
  refine h.update hthreads htracked hknows ?_ (fun u _ => by rw [hmutex]) ?_
  · rw [hnew, hmutex]
    exact iff_of_true rfl hheld
  · refine hclient h.settled (ParserThreads.holderPc_of_held hheld) ?_
    rw [ParserThreads.holderPc_of_held (hmutex.trans hheld), hthreads, Function.update_self]

/-- The thread stays in its phase. -/
theorem tracked_silent (h : ParserInv s w) {x : ParserThread}
    (hphase : x.phase = (s.threads t).phase) :
    Tracked parserReact {} (fun u => (Function.update s.threads t x u).phase) s.record w :=
  h.tracked.silent (parserPhase_silent hphase)

/-- The call of the thread takes effect. -/
theorem tracked_commit (h : ParserInv s w) {x : ParserThread} {result : Bool}
    (hinside : (s.threads t).phase = .inside (s.threads t).call (s.threads t).op)
    (hpast : x.phase = .past (s.threads t).call (s.threads t).op (some result))
    (hreact : parserReact w (s.threads t).op = (some result, w')) :
    Tracked parserReact {} (fun u => (Function.update s.threads t x u).phase)
      (s.commit t result).record w' := by
  have htracked := h.tracked.commit (t := t) hinside rfl
  rw [hreact] at htracked
  rw [parserPhase_update, hpast]
  exact htracked

/-- A registration, in the section that holds the mutex. -/
theorem insert (h : ParserInv s w) {id : RequestId} {request : ClientRequest DemoCallback}
    (hpc : (s.threads t).pc = .inserting id request) :
    ParserInv ({ s.commit t (s.client.registerRequest id request).1 with
      client := (s.client.registerRequest id request).2 }.setPc t
        (.unlocking (s.client.registerRequest id request).1))
      (w.registerRequest id request).2 := by
  have hop : (s.threads t).op = .register id request := by
    have hknows := h.knows t
    rwa [ParserThread.Knows, hpc] at hknows
  have hheld : s.requestsMutex = some t := (h.holder t).1 (by rw [hpc]; rfl)
  have htable : w.requests = s.client.requests := by
    rw [h.settled.table, ParserThreads.holderPc_of_held hheld, hpc]
    rfl
  have hresult : (w.registerRequest id request).1 = (s.client.registerRequest id request).1 ∧
      (w.registerRequest id request).2.requests =
        (s.client.registerRequest id request).2.requests ∧
      (w.registerRequest id request).2.deliveries =
        (s.client.registerRequest id request).2.deliveries ∧
      (w.registerRequest id request).2.repository = w.repository ∧
      (s.client.registerRequest id request).2.repository = s.client.repository := by
    simp only [ClientState.registerRequest, htable]
    split <;> exact ⟨rfl, by first | exact htable | rfl, h.settled.deliveries, rfl, rfl⟩
  obtain ⟨hfirst, hrequests, hdeliveries, hrepository, hrepository'⟩ := hresult
  refine h.inside rfl rfl ?_ trivial (by rw [hpc]; rfl) rfl fun hs hpc₀ hpc₁ => ?_
  · refine h.tracked_commit (by rw [ParserThread.phase, hpc]) rfl ?_
    rw [hop, parserReact, hfirst]
  · refine ⟨?_, hdeliveries, fun handle => ?_⟩
    · rw [hpc₁]
      exact hrequests
    · have hold := hs.repository handle
      rw [hpc₀, hpc] at hold
      rw [hpc₁]
      change handle ∈ (w.registerRequest id request).2.repository ↔
        handle ∈ (s.client.registerRequest id request).2.repository ∨ _
      rw [hrepository, hrepository']
      exact hold

/-- The entry of a response is found, and its callback is called: for the sequential parser it is
gone, and its handle is registered. -/
theorem hit (h : ParserInv s w) {id : RequestId} {value : AnyValue}
    {request : ClientRequest DemoCallback} (hpc : (s.threads t).pc = .finding id value)
    (hl : s.client.requests.lookup id = some request) :
    ParserInv ({ s.commit t true with
      client := { s.client with
        deliveries := ⟨id, request, value⟩ :: s.client.deliveries } }.setPc t
          (match request.registers value with
          | some handle => .testing handle (some id)
          | none => .erasing id)) (w.notify DemoCallback.onSuccess id value) := by
  obtain ⟨data, hop, hd⟩ : ∃ data, (s.threads t).op = .response data ∧
      decodeResponse data.1 = .ok (.deliver id value) := by
    have hknows := h.knows t
    rwa [ParserThread.Knows, hpc] at hknows
  have hheld : s.requestsMutex = some t := (h.holder t).1 (by rw [hpc]; rfl)
  have htable : w.requests = s.client.requests := by
    rw [h.settled.table, ParserThreads.holderPc_of_held hheld, hpc]
    rfl
  have hrepository : ∀ handle, handle ∈ w.repository ↔ handle ∈ s.client.repository := by
    intro handle
    rw [h.settled.repository, ParserThreads.holderPc_of_held hheld, hpc]
    exact or_iff_left (Option.some_ne_none _).symm
  have hreact : parserReact w (s.threads t).op =
      (some true, w.notify DemoCallback.onSuccess id value) := by
    rw [hop, parserReact_response hd]
    rfl
  have hnotify : w.notify DemoCallback.onSuccess id value =
      { requests := w.requests.erase id
        repository := request.handleSuccess DemoCallback.onSuccess value w.repository
        deliveries := ⟨id, request, value⟩ :: w.deliveries } := by
    rw [ClientState.notify, htable, hl]
  cases hregisters : request.registers value with
  | some handle =>
      refine h.inside rfl rfl ?_ trivial (by rw [hpc]; rfl) rfl fun hs _ hpc₁ => ?_
      · exact h.tracked_commit (by rw [ParserThread.phase, hpc]) rfl hreact
      · rw [hnotify]
        refine ⟨?_, ?_, fun handle' => ?_⟩
        · rw [hpc₁, htable]
          rfl
        · exact congrArg (List.cons _) hs.deliveries
        · rw [hpc₁, ClientRequest.handleSuccess_eq, hregisters,
            ClassRepository.mem_registerClassHandle_iff, hrepository]
          exact or_congr_right Option.some_inj.symm
  | none =>
      refine h.inside rfl rfl ?_ trivial (by rw [hpc]; rfl) rfl fun hs _ hpc₁ => ?_
      · exact h.tracked_commit (by rw [ParserThread.phase, hpc]) rfl hreact
      · rw [hnotify]
        refine ⟨?_, ?_, fun handle' => ?_⟩
        · rw [hpc₁, htable]
          rfl
        · exact congrArg (List.cons _) hs.deliveries
        · rw [hpc₁, ClientRequest.handleSuccess_eq, hregisters, hrepository]
          exact (or_iff_left (Option.some_ne_none _).symm).symm

/-- **Every step keeps the invariant**, with a call of the sequential parser or without one. -/
theorem step (h : ParserInv s w) (hstep : parserThreadStep s e = some s') :
    ∃ w', ParserInv s' w' := by
  cases parserMove_of_step hstep with
  | @call t op hpc =>
      refine ⟨w, h.outside rfl rfl ?_ ?_ (by rw [hpc]; rfl) ?_ fun hs hpc₁ =>
        hs.same rfl (by rw [hpc₁]) (by rw [hpc₁])⟩
      · have htracked := h.tracked.call (t := t) op rfl
        rw [parserPhase_update]
        cases op <;> exact htracked
      · cases op <;> rfl
      · cases op <;> rfl
  | @lockInsert t id request hpc hfree =>
      have hknows := h.knows t
      rw [ParserThread.Knows, hpc] at hknows
      refine ⟨w, h.update rfl (h.tracked_silent ?_) hknows (iff_of_true rfl rfl) ?_ ?_⟩
      · simp only [ParserThread.phase, hpc]
      · intro u hu
        rw [hfree]
        exact iff_of_false (fun heq => hu (Option.some_inj.1 heq).symm) fun heq => by cases heq
      · refine h.settled.same rfl ?_ ?_ <;>
          rw [ParserThreads.holderPc_of_free hfree, ParserThreads.holderPc_of_held (t := t) rfl] <;>
          simp only [ParserThreads.setPc, Function.update_self] <;> rfl
  | @lockFind t id value hpc hfree =>
      have hknows := h.knows t
      rw [ParserThread.Knows, hpc] at hknows
      refine ⟨w, h.update rfl (h.tracked_silent ?_) hknows (iff_of_true rfl rfl) ?_ ?_⟩
      · simp only [ParserThread.phase, hpc]
      · intro u hu
        rw [hfree]
        exact iff_of_false (fun heq => hu (Option.some_inj.1 heq).symm) fun heq => by cases heq
      · refine h.settled.same rfl ?_ ?_ <;>
          rw [ParserThreads.holderPc_of_free hfree, ParserThreads.holderPc_of_held (t := t) rfl] <;>
          simp only [ParserThreads.setPc, Function.update_self] <;> rfl
  | insert hpc => exact ⟨_, h.insert hpc⟩
  | @announce t data handle hpc hd =>
      have hknows := h.knows t
      rw [ParserThread.Knows, hpc] at hknows
      refine ⟨w, h.outside rfl rfl (h.tracked_silent ?_) ⟨data, hknows, hd⟩ (by rw [hpc]; rfl) rfl
        fun hs hpc₁ => hs.same rfl (by rw [hpc₁]) (by rw [hpc₁])⟩
      simp only [ParserThread.phase, hpc]
  | @deliver t data id value hpc hd =>
      have hknows := h.knows t
      rw [ParserThread.Knows, hpc] at hknows
      refine ⟨w, h.outside rfl rfl (h.tracked_silent ?_) ⟨data, hknows, hd⟩ (by rw [hpc]; rfl) rfl
        fun hs hpc₁ => hs.same rfl (by rw [hpc₁]) (by rw [hpc₁])⟩
      simp only [ParserThread.phase, hpc]
  | @reject t data hpc hd =>
      have hknows := h.knows t
      rw [ParserThread.Knows, hpc] at hknows
      refine ⟨w, h.outside rfl rfl ?_ trivial (by rw [hpc]; rfl) rfl
        fun hs hpc₁ => hs.same rfl (by rw [hpc₁]) (by rw [hpc₁])⟩
      refine h.tracked_commit (by rw [ParserThread.phase, hpc]) rfl ?_
      rw [hknows, parserReact_response hd]
      rfl
  | hit hpc hl => exact ⟨_, h.hit hpc hl⟩
  | @miss t id value hpc hl =>
      obtain ⟨data, hop, hd⟩ : ∃ data, (s.threads t).op = .response data ∧
          decodeResponse data.1 = .ok (.deliver id value) := by
        have hknows := h.knows t
        rwa [ParserThread.Knows, hpc] at hknows
      have hheld : s.requestsMutex = some t := (h.holder t).1 (by rw [hpc]; rfl)
      refine ⟨w, h.inside rfl rfl ?_ trivial (by rw [hpc]; rfl) rfl fun hs hpc₀ hpc₁ =>
        hs.same rfl (by rw [hpc₀, hpc₁, hpc]; rfl) (by rw [hpc₀, hpc₁, hpc]; rfl)⟩
      refine h.tracked_commit (by rw [ParserThread.phase, hpc]) rfl ?_
      have hnone : w.requests.lookup id = none := by
        rw [h.settled.table, ParserThreads.holderPc_of_held hheld, hpc]
        exact hl
      rw [hop, parserReact_response hd]
      simp only [ResponseAction.perform, ClientState.notify, hnone]
      rfl
  | @presentEntry t handle id hpc hmem =>
      refine ⟨w, h.inside rfl rfl (h.tracked_silent ?_) trivial (by rw [hpc]; rfl) rfl
        fun hs hpc₀ hpc₁ => ⟨?_, hs.deliveries, fun handle' => ?_⟩⟩
      · simp only [ParserThread.phase, hpc]
      · rw [hs.table, hpc₀, hpc₁, hpc]
        rfl
      · rw [hs.repository, hpc₀, hpc₁, hpc]
        refine ⟨fun hor => Or.inl (hor.elim (fun hold => hold) fun heq => ?_),
          fun hor => hor.elim Or.inl fun heq => by cases heq⟩
        rwa [← Option.some_inj.1 heq]
  | @present t handle hpc hmem =>
      have hknows := h.knows t
      rw [ParserThread.Knows, hpc] at hknows
      refine ⟨_, h.outside rfl rfl (h.tracked_commit ?_ rfl (parserReact_announced hknows)) trivial
        (by rw [hpc]; rfl) rfl fun hs hpc₁ => ⟨?_, hs.deliveries, fun handle' => ?_⟩⟩
      · rw [ParserThread.phase, hpc]
      · rw [hpc₁]
        exact hs.table
      · rw [hpc₁, ClassRepository.mem_registerClassHandle_iff, hs.repository]
        refine ⟨fun hor => hor.elim id fun heq => ?_, Or.inl⟩
        exact Or.inl (heq ▸ hmem)
  | @absent t handle entry hpc hmem =>
      have hknows := h.knows t
      rw [ParserThread.Knows, hpc] at hknows
      cases entry with
      | none =>
          refine ⟨w, h.outside rfl rfl (h.tracked_silent ?_) hknows (by rw [hpc]; rfl) rfl
            fun hs hpc₁ => hs.same rfl (by rw [hpc₁]) (by rw [hpc₁])⟩
          simp only [ParserThread.phase, hpc]
      | some id =>
          refine ⟨w, h.inside rfl rfl (h.tracked_silent ?_) trivial (by rw [hpc]; rfl) rfl
            fun hs hpc₀ hpc₁ =>
              hs.same rfl (by rw [hpc₀, hpc₁, hpc]; rfl) (by rw [hpc₀, hpc₁, hpc]; rfl)⟩
          simp only [ParserThread.phase, hpc]
  | @pushEntry t handle id hpc =>
      refine ⟨w, h.inside rfl rfl (h.tracked_silent ?_) trivial (by rw [hpc]; rfl) rfl
        fun hs hpc₀ hpc₁ => ⟨?_, hs.deliveries, fun handle' => ?_⟩⟩
      · simp only [ParserThread.phase, hpc]
      · rw [hs.table, hpc₀, hpc₁, hpc]
        rfl
      · rw [hs.repository, hpc₀, hpc₁, hpc]
        simp only [ParserThreads.setPc, List.mem_append, List.mem_singleton, ParserPc.registers,
          Option.some_inj, reduceCtorEq, or_false, eq_comm]
  | @push t handle hpc =>
      have hknows := h.knows t
      rw [ParserThread.Knows, hpc] at hknows
      refine ⟨_, h.outside rfl rfl (h.tracked_commit ?_ rfl (parserReact_announced hknows)) trivial
        (by rw [hpc]; rfl) rfl fun hs hpc₁ => ⟨?_, hs.deliveries, fun handle' => ?_⟩⟩
      · rw [ParserThread.phase, hpc]
      · rw [hpc₁]
        exact hs.table
      · rw [hpc₁, ClassRepository.mem_registerClassHandle_iff, hs.repository]
        simp only [ParserThreads.setPc, List.mem_append, List.mem_singleton]
        rw [or_right_comm, eq_comm (a := handle)]
  | @erase t id hpc =>
      refine ⟨w, h.inside rfl rfl (h.tracked_silent ?_) trivial (by rw [hpc]; rfl) rfl
        fun hs hpc₀ hpc₁ => ⟨?_, hs.deliveries, fun handle' => ?_⟩⟩
      · simp only [ParserThread.phase, hpc]
      · rw [hs.table, hpc₀, hpc₁, hpc]
        rfl
      · rw [hs.repository, hpc₀, hpc₁, hpc]
        rfl
  | @unlock t result hpc =>
      have hheld : s.requestsMutex = some t := (h.holder t).1 (by rw [hpc]; rfl)
      refine ⟨w, h.update rfl (h.tracked_silent ?_) trivial
        (iff_of_false (fun heq => by cases heq) fun heq => by cases heq) ?_ ?_⟩
      · simp only [ParserThread.phase, hpc]
      · intro u hu
        rw [hheld]
        exact iff_of_false (fun heq => by cases heq) fun heq => hu (Option.some_inj.1 heq).symm
      · refine h.settled.same rfl ?_ ?_ <;>
          rw [ParserThreads.holderPc_of_held hheld, ParserThreads.holderPc_of_free rfl, hpc] <;> rfl
  | @return_ t result hpc =>
      have hphase : (s.threads t).phase =
          .past (s.threads t).call (s.threads t).op (some result) := by
        rw [ParserThread.phase, hpc]
      refine ⟨w, h.outside rfl rfl ?_ trivial (by rw [hpc]; rfl) rfl
        fun hs hpc₁ => hs.same rfl (by rw [hpc₁]) (by rw [hpc₁])⟩
      have htracked := h.tracked.return_ (t := t) hphase rfl
      rw [ParserThreads.setPc, parserPhase_update]
      exact htracked

end ParserInv

end Steps

/-! ### The order -/

/-- Before anything has happened nobody holds the mutex. -/
theorem parserInv_start : ParserInv {} {} where
  tracked := .start fun _ => rfl
  knows _ := trivial
  holder _ := iff_of_false nofun nofun
  settled := ⟨rfl, rfl, fun _ => (or_iff_left nofun).symm⟩

/-- Every run keeps the invariant. -/
theorem parserInv_run {es : List ParserEvent} {s : ParserThreads}
    (hrun : run parserThreadStep {} es = some s) : ∃ w, ParserInv s w :=
  invariant_run (I := fun s => ∃ w, ParserInv s w)
    (fun _ _ _ ⟨_, hinv⟩ hstep => hinv.step hstep) ⟨_, parserInv_start⟩ hrun

/-- **The parser is linearizable.**  In every run of any number of threads that register requests
and hand over responses, the calls that have taken effect could have been made one after another:
in this order they have the same results, and a call that returned before another one began stands
before it.  They leave the same calls of callbacks behind; and when nobody holds the mutex of the
table, the same table and the same handles. -/
theorem parser_linearizable {es : List ParserEvent} {s : ParserThreads}
    (hrun : run parserThreadStep {} es = some s) :
    ∃ w, LinearizesTo parserReact {} s.record.history s.record.done w ∧ Settled s w ∧
      (s.requestsMutex = none → w.requests = s.client.requests ∧
        ∀ handle, handle ∈ w.repository ↔ handle ∈ s.client.repository) := by
  obtain ⟨w, hinv⟩ := parserInv_run hrun
  refine ⟨w, hinv.tracked.linearizes, hinv.settled, fun hfree => ⟨?_, fun handle => ?_⟩⟩
  · rw [hinv.settled.table, ParserThreads.holderPc_of_free hfree]
    rfl
  · rw [hinv.settled.repository, ParserThreads.holderPc_of_free hfree]
    exact or_iff_left nofun

/-- A request that creates an object, as the client registers it. -/
def creationRequest : ClientRequest DemoCallback :=
  { data := ascii "x", waitForResponse := true, successCallback := some .onCustomClassCreation }

/-- The response with the handle 7. -/
def creationResponse : RawDataType := ⟨createRequestIdData 1 ++ serializeInt 7, by decide⟩

/-- A request is registered, and two threads hand over the same response to it.  The thread that
comes second begins first. -/
def responseTwice : List ParserEvent :=
  [.call 0 (.register 1 creationRequest), .lock 0, .insert 0, .unlock 0, .return_ 0,
    .call 1 (.response creationResponse), .call 2 (.response creationResponse), .parse 1, .parse 2,
    .lock 2, .find 2, .containsClassHandle 2, .pushBack 2, .erase 2, .unlock 2, .lock 1, .find 1,
    .unlock 1, .return_ 1, .return_ 2]

set_option maxRecDepth 4000 in
/-- The calls take effect in another order than they begin. -/
theorem responseTwice_linearizes :
    ∃ s w, run parserThreadStep {} responseTwice = some s ∧
      s.record.done.map Done.call = [0, 2, 1] ∧
      LinearizesTo parserReact {} s.record.history s.record.done w ∧ s.client.repository = [7] ∧
      w.requests = s.client.requests := by
  obtain ⟨w, hlin, _, hfree⟩ := @parser_linearizable responseTwice _ rfl
  exact ⟨_, w, rfl, rfl, hlin, rfl, (hfree rfl).1⟩

/-! ### What the callbacks get -/

section Callbacks

variable {κ : Type} {onSuccess : κ → AnyValue → ClassRepository → ClassRepository}

/-- Every delivery is the work of a response behind the registration. -/
def DeliveredBy (es : List (ParserCall κ)) (s : ClientState κ) : Prop :=
  ∀ d ∈ s.deliveries, ∃ es₁ data es₂, es = es₁ ++ .response data :: es₂ ∧
    .register d.id d.request ∈ es₁ ∧ HasAt data.1 0 (createRequestIdData d.id) ∧
    ValueAt data.1 7 d.value

theorem deliveredBy_run {es : List (ParserCall κ)} {s : ClientState κ} (hids : FreshIds es)
    (h : run (parserStep onSuccess) {} es = some s) : DeliveredBy es s := by
  refine invariant_history (I := fun es s => FreshIds es → DeliveredBy es s)
    (fun _ d hd => absurd hd List.not_mem_nil) ?_ h hids
  intro es e s s' hrun ih hstep hfresh d hd
  have hold : d ∈ s.deliveries → ∃ es₁ data es₂, es ++ [e] = es₁ ++ .response data :: es₂ ∧
      .register d.id d.request ∈ es₁ ∧ HasAt data.1 0 (createRequestIdData d.id) ∧
      ValueAt data.1 7 d.value := by
    intro hd
    obtain ⟨es₁, data, es₂, rfl, hrest⟩ := ih hfresh.prefix d hd
    exact ⟨es₁, data, es₂ ++ [e], by simp, hrest⟩
  cases e with
  | register id request =>
      obtain ⟨_, heq⟩ :=
        requests_of_register hfresh (matchingInv_run hfresh.prefix hrun).entry
      rw [parserStep, heq, Option.some_inj] at hstep
      subst hstep
      exact hold hd
  | response data =>
      have hentry := (matchingInv_run hfresh.prefix hrun).entry
      cases responseEffect_of_step hfresh.prefix hentry hstep with
      | untouched table deliveries =>
          rw [deliveries] at hd
          exact hold hd
      | delivered registered frame behind entry table deliveries =>
          rw [deliveries] at hd
          rcases List.mem_cons.1 hd with rfl | hd
          · exact ⟨es, data, [], rfl, registered, frame, behind⟩
          · exact hold hd

end Callbacks

/-- The parser returns from the call. -/
def ParserCall.decodes : ParserCall DemoCallback → Bool
  | register _ _ => true
  | response data =>
      match decodeResponse data.1 with
      | .ok _ => true
      | .error _ => false

/-- A call that does not return changes nothing: the others are a run of the parser. -/
theorem run_parserStep (ops : List (ParserCall DemoCallback)) :
    ∀ s, run (parserStep DemoCallback.onSuccess) s (ops.filter ParserCall.decodes) =
      some (respond parserReact s ops).2 := by
  induction ops with
  | nil => exact fun _ => rfl
  | cons op ops ih =>
      intro s
      cases op with
      | register id request => exact ih _
      | response data =>
          cases hd : decodeResponse data.1 with
          | error e =>
              have hreact : parserReact s (.response data) = (none, s) := by
                rw [parserReact, parseResponse_eq, hd]
              rw [List.filter_cons_of_neg (by simp [ParserCall.decodes, hd]), ih, respond, hreact]
          | ok a =>
              rw [List.filter_cons_of_pos (by simp [ParserCall.decodes, hd]), run_cons, respond,
                parserReact_response hd, parserStep, parseResponse_eq, hd]
              exact ih _

theorem exists_of_mem_registeredIds {κ : Type} {es : List (ParserCall κ)} {id : RequestId}
    (h : id ∈ registeredIds es) : ∃ request, ParserCall.register id request ∈ es := by
  induction es with
  | nil => exact absurd h List.not_mem_nil
  | cons e es ih =>
      cases e with
      | register id' request =>
          rcases List.mem_cons.1 h with rfl | h
          · exact ⟨request, List.mem_cons_self⟩
          · exact (ih h).imp fun _ => List.mem_cons_of_mem _
      | response data => exact (ih h).imp fun _ => List.mem_cons_of_mem _

/-- No two calls register the same id, and all ids are positive. -/
structure FreshHistory (h : List (Event ℕ (ParserCall DemoCallback) (Option Bool))) : Prop where
  once : ∀ j k id request request', .call j (.register id request) ∈ h →
    .call k (.register id request') ∈ h → j = k
  positive : ∀ k id request, .call k (.register id request) ∈ h → 0 < id.toInt

/-- In an order of the calls in such a history, the ids are those a client assigns. -/
theorem FreshHistory.freshIds {h : List (Event ℕ (ParserCall DemoCallback) (Option Bool))}
    (hfresh : FreshHistory h) {ds : List (Done ℕ (ParserCall DemoCallback) (Option Bool))}
    (hcalled : ∀ d ∈ ds, .call d.call d.op ∈ h) (hnodup : (ds.map Done.call).Nodup) :
    FreshIds (ds.map Done.op) := by
  have hcall : ∀ id request, ParserCall.register id request ∈ ds.map Done.op →
      ∃ d ∈ ds, d.op = .register id request :=
    fun id request hmem => List.mem_map.1 hmem
  constructor
  · induction ds with
    | nil => exact List.nodup_nil
    | cons d ds ih =>
        rw [List.map_cons, List.nodup_cons] at hnodup
        have hrest := ih (fun d' hd' => hcalled d' (List.mem_cons_of_mem _ hd')) hnodup.2
          fun id request => List.mem_map.1
        rw [List.map_cons]
        cases hop : d.op with
        | register id request =>
            refine List.nodup_cons.2 ⟨fun hmem => ?_, hrest⟩
            obtain ⟨request', hmem⟩ := exists_of_mem_registeredIds hmem
            obtain ⟨d', hd', hop'⟩ := List.mem_map.1 hmem
            have heq := hfresh.once d.call d'.call id request request'
              (hop ▸ hcalled d List.mem_cons_self)
              (hop' ▸ hcalled d' (List.mem_cons_of_mem _ hd'))
            exact hnodup.1 (heq ▸ List.mem_map_of_mem hd')
        | response data => exact hrest
  · intro id hmem
    obtain ⟨request, hmem⟩ := exists_of_mem_registeredIds hmem
    obtain ⟨d, hd, hop⟩ := hcall id request hmem
    exact hfresh.positive d.call id request (hop ▸ hcalled d hd)

/-- **Every callback is called at most once, whatever the threads do.**  In every run in which no
two calls register the same id and all ids are positive: no id is delivered to twice, and what was
delivered is the value behind the frame of some response, whose call had not returned when the call
that registered the request began. -/
theorem concurrent_responses_matched {es : List ParserEvent} {s : ParserThreads}
    (hrun : run parserThreadStep {} es = some s) (hfresh : FreshHistory s.record.history) :
    (s.client.deliveries.map Delivery.id).Nodup ∧
      ∀ d ∈ s.client.deliveries, ∃ j k data,
        .call j (.register d.id d.request) ∈ s.record.history ∧
        .call k (.response data) ∈ s.record.history ∧
        HasAt data.1 0 (createRequestIdData d.id) ∧ ValueAt data.1 7 d.value ∧
        ¬ Before s.record.history k j := by
  obtain ⟨w, hinv⟩ := parserInv_run hrun
  have hlin := hinv.tracked.linearizes
  -- the calls that return, in their order, are a run of the parser that ends in `w`
  obtain ⟨ds, hds⟩ : ∃ ds, ds = s.record.done.filter fun d => d.op.decodes := ⟨_, rfl⟩
  have hsub : ds.Sublist s.record.done := hds ▸ List.filter_sublist
  have hparser : run (parserStep DemoCallback.onSuccess) {} (ds.map Done.op) = some w := by
    have hend := run_parserStep (s.record.done.map Done.op) {}
    rw [hlin.legal, List.filter_map] at hend
    rwa [hds]
  have hids : FreshIds (ds.map Done.op) :=
    hfresh.freshIds (fun d hd => hlin.called d (hsub.subset hd)) (hlin.once.sublist (hsub.map _))
  rw [← hinv.settled.deliveries]
  refine ⟨(matchingInv_run hids hparser).nodup, fun d hd => ?_⟩
  obtain ⟨es₁, data, es₂, heq, hreg, hframe, hvalue⟩ := deliveredBy_run hids hparser d hd
  obtain ⟨ds₁, ds', rfl, rfl, hrest⟩ := List.map_eq_append_iff.1 heq
  obtain ⟨dk, ds₂, rfl, hop, _⟩ := List.map_eq_cons_iff.1 hrest
  obtain ⟨dj, hdj, hopj⟩ := List.mem_map.1 hreg
  refine ⟨dj.call, dk.call, data, ?_, ?_, hframe, hvalue, hlin.not_before ?_⟩
  · exact hopj ▸ hlin.called dj (hsub.subset (List.mem_append_left _ hdj))
  · exact hop ▸ hlin.called dk (hsub.subset (List.mem_append_right _ List.mem_cons_self))
  · have hpair : [dj, dk].Sublist (ds₁ ++ dk :: ds₂) :=
      (List.singleton_sublist.2 hdj).append (List.singleton_sublist.2 List.mem_cons_self)
    exact (hpair.trans hsub).map Done.call

set_option maxRecDepth 4000 in
/-- The second response finds no entry: the callback is called once, with the handle. -/
theorem responseTwice_matched :
    ∃ s, run parserThreadStep {} responseTwice = some s ∧
      s.client.deliveries.map (fun d => (d.id, d.value)) = [(1, .int 7)] ∧
      (s.client.deliveries.map Delivery.id).Nodup := by
  refine ⟨_, rfl, rfl, (@concurrent_responses_matched responseTwice _ rfl ⟨?_, ?_⟩).1⟩
  · intro j k id request request' hj hk
    simp [Record.call, Record.return_, Record.commit, ParserThreads.setPc, ParserThreads.commit]
      at hj hk
    omega
  · intro k id request hk
    simp [Record.call, Record.return_, Record.commit, ParserThreads.setPc, ParserThreads.commit]
      at hk
    rw [hk.2.1]
    decide

end NamedPipeDemo
