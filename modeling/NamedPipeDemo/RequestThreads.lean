/-
**Requests of several clients at once: the server is linearizable.**

Every client has a thread on the server, and the threads parse their requests at the same time.  No
lock is held over a whole request.  A thread parses without looking at anything but its own bytes
until it needs the registry: then it takes the lock of the registry once, either to enter a new
object or to look a handle up, and with the pointer it got it calls one member of the object.
Between these steps the other threads go on.

The requests can still be put in an order in which the server could have handled them one after
another.  A creation takes effect in the locked section of `Create`; a request for a handle that
does not exist takes effect when the handle is looked up; every other request takes effect when it
calls the member.  This last step is behind the lookup, but a handle that was found once never
disappears.  A call of a member is one step here: two threads that are in members of the same object
at the same time race, and the source does nothing about that.

Main definitions:

* `NamedPipeDemo.Stage`, `NamedPipeDemo.stageRequest` — a request up to its first use of the
  registry;
* `NamedPipeDemo.RequestThreads`, `NamedPipeDemo.requestStep` — the threads, and their steps;
* `NamedPipeDemo.serveRequest` — **the sequential server**: one request is handled as a whole.

Main results:

* `NamedPipeDemo.decodeRequest_eq_stage` — the two parts of a request make up the whole;
* `NamedPipeDemo.RequestInv.effect` — every step of a thread is silent, or begins, commits or
  answers its request;
* `NamedPipeDemo.requests_linearizable` — **the concurrent server is linearizable**;
* `NamedPipeDemo.concurrent_reaches` — its registry is one that whole messages lead to;
* `NamedPipeDemo.commands_linearizable` — **under commands it behaves like the store**.
-/

import NamedPipeDemo.Linearizability
import NamedPipeDemo.ObjectStore

set_option relaxedAutoImplicit false
set_option autoImplicit false

namespace NamedPipeDemo

open LabelledRuns Linearizability

/-! ### A request up to its first use of the registry -/

/-- What a thread needs the registry for. -/
inductive Stage
  /-- Nothing: the request is a plain value or no command. -/
  | done (a : Action)
  /-- `ParseCreateClass` calls `Create`. -/
  | create (obj : CustomClass)
  /-- `GetClassInstaceFromRequest` looks a handle up; the command is behind it. -/
  | find (handle : ClassHandle) (k : ℕ)
  deriving DecidableEq, Repr

/-- `CustomClassParser::Parse` behind the class name. -/
def stageCommand (data : RawData) (n : ℕ) : Except Fault Stage := do
  match ← decodeCreate data n with
  | some obj => return .create obj
  | none =>
      let (handle, k) ← parseInt data n
      return .find handle.2 k

/-- `CustomClassParser::Parse` -/
def stageClass (data : RawData) (idx : ℕ) : Except Fault Stage := do
  let b ← readByte data idx
  if b ≠ chr '#' then
    return .done .reject
  let (name, idx) ← parseString data (idx + 1)
  if name.1 = false then
    return .done .reject
  if name.2 ≠ CustomClass.kClassName then
    return .done .reject
  stageCommand data idx

/-- `RequestParser::ParseRequest` behind the id. -/
def stageBody (data : RawData) (idx : ℕ) : Except Fault Stage := do
  let (ival, idx) ← parseInt data idx
  if ival.1 then
    return .done .value
  let (dval, idx) ← parseDouble data idx
  if dval.1 then
    return .done .value
  let (sval, idx) ← parseString data idx
  if sval.1 then
    return .done .value
  stageClass data idx

/-- **`RequestParser::ParseRequest` up to its first use of the registry.** -/
def stageRequest (data : RawData) : Except Fault (RequestId × Stage) := do
  let (requestId, idx) ← parseRequestId data 0
  let stage ← stageBody data idx
  return (requestId, stage)

/-- The rest of a request, given which handles exist. -/
def Stage.action (known : ClassHandle → Bool) (data : RawData) : Stage → Except Fault Action
  | .done a => .ok a
  | .create obj => .ok (.create obj)
  | .find handle k => if known handle then decodeOn handle data k else .ok .reject

section Stages

variable {known : ClassHandle → Bool} {data : RawData} {idx n : ℕ}

theorem decodeCommand_eq_stage :
    decodeCommand known data n = stageCommand data n >>= Stage.action known data := by
  rw [decodeCommand, stageCommand]
  cases decodeCreate data n with
  | error e => rfl
  | ok o =>
      cases o with
      | some obj => rfl
      | none =>
          simp only [ok_bind, decodeOnInstance]
          cases parseInt data n <;> rfl

theorem decodeClass_eq_stage :
    decodeClass known data idx = stageClass data idx >>= Stage.action known data := by
  rw [decodeClass, stageClass]
  cases readByte data idx with
  | error e => rfl
  | ok b =>
      simp only [ok_bind]
      split
      · rfl
      cases parseString data (idx + 1) with
      | error e => rfl
      | ok s =>
          simp only [ok_bind]
          split
          · rfl
          split
          · rfl
          exact decodeCommand_eq_stage

theorem decodeBody_eq_stage :
    decodeBody known data idx = stageBody data idx >>= Stage.action known data := by
  rw [decodeBody, stageBody]
  cases parseInt data idx with
  | error e => rfl
  | ok i =>
      simp only [ok_bind]
      split
      · rfl
      cases parseDouble data i.2 with
      | error e => rfl
      | ok d =>
          simp only [ok_bind]
          split
          · rfl
          cases parseString data d.2 with
          | error e => rfl
          | ok s =>
              simp only [ok_bind]
              split
              · rfl
              exact decodeClass_eq_stage

/-- **The two parts of a request make up the whole**, whenever the handles are looked at. -/
theorem decodeRequest_eq_stage :
    decodeRequest known data = do
      let r ← stageRequest data
      let a ← r.2.action known data
      return (r.1, a) := by
  rw [decodeRequest, stageRequest]
  cases parseRequestId data 0 with
  | error e => rfl
  | ok p =>
      simp only [ok_bind, decodeBody_eq_stage]
      cases stageBody data p.2 <;> rfl

/-- A stage whose rest decodes to an action. -/
theorem decodeRequest_of_stage {id : RequestId} {stage : Stage} {a : Action}
    (hstage : stageRequest data = .ok (id, stage)) (ha : stage.action known data = .ok a) :
    decodeRequest known data = .ok (id, a) := by
  rw [decodeRequest_eq_stage, hstage, ok_bind, ha]
  rfl

/-- Both parts of a request that decodes do. -/
theorem stage_of_decodeRequest {id : RequestId} {a : Action}
    (hd : decodeRequest known data = .ok (id, a)) :
    ∃ stage, stageRequest data = .ok (id, stage) ∧ stage.action known data = .ok a := by
  rw [decodeRequest_eq_stage] at hd
  cases hstage : stageRequest data with
  | error e =>
      rw [hstage] at hd
      cases hd
  | ok r =>
      obtain ⟨id', stage⟩ := r
      rw [hstage, ok_bind] at hd
      cases ha : stage.action known data with
      | error e =>
          simp only [ha] at hd
          cases hd
      | ok a' =>
          simp only [ha] at hd
          cases hd
          exact ⟨stage, rfl, ha⟩

end Stages

/-! ### The threads -/

/-- Where the thread of a client is in `ParseRequest`. -/
inductive RequestPc
  | idle
  /-- The bytes have arrived. -/
  | parsing
  /-- In `Create`, with the object made and the lock not yet taken. -/
  | creating (id : RequestId) (obj : CustomClass)
  /-- In `GetClassObjectByHandle`, before the lock is taken. -/
  | finding (id : RequestId) (handle : ClassHandle) (k : ℕ)
  /-- Behind it, with a pointer to the object under the handle. -/
  | found (id : RequestId) (handle : ClassHandle) (k : ℕ)
  /-- `ParseRequest` has its result. -/
  | answered (result : Bool × ServerResponse)
  deriving DecidableEq, Repr

/-- The thread of a client: its request, by number, and where it is. -/
structure RequestThread where
  call : ℕ := 0
  data : RawData := []
  pc : RequestPc := .idle

/-- The server, its threads, and the record of the requests. -/
structure RequestThreads where
  server : ServerState := {}
  threads : ℕ → RequestThread := fun _ => {}
  record : Record Incoming (Option (Bool × ServerResponse)) := {}

/-- A step of the thread of client `c`. -/
inductive RequestEvent
  | receive (c : ℕ) (data : RawData)
  | parse (c : ℕ)
  /-- The locked section of `Create`. -/
  | insert (c : ℕ)
  /-- The locked section of `GetClassObjectByHandle`. -/
  | find (c : ℕ)
  /-- The rest of the request is parsed, and the member is called. -/
  | callMember (c : ℕ)
  | reply (c : ℕ)
  deriving DecidableEq, Repr

/-- Whose thread takes the step. -/
def RequestEvent.client : RequestEvent → ℕ
  | receive c _ | parse c | insert c | find c | callMember c | reply c => c

namespace RequestThreads

variable (s : RequestThreads) (c : ℕ)

/-- The thread of client `c` goes on. -/
def setPc (pc : RequestPc) : RequestThreads :=
  { s with threads := Function.update s.threads c { s.threads c with pc := pc } }

/-- A request arrives. -/
def receive (data : RawData) : RequestThreads :=
  { s with
    threads := Function.update s.threads c { call := s.record.calls, data := data, pc := .parsing }
    record := s.record.call ⟨c, data⟩ }

/-- The request of client `c` takes effect: its action is performed and answered. -/
def commit (env : AddressText) (id : RequestId) (a : Action) : RequestThreads :=
  let t := s.threads c
  let result := a.answer env id s.server
  { server := a.perform s.server
    threads := Function.update s.threads c { t with pc := .answered result }
    record := s.record.commit t.call ⟨c, t.data⟩ (some result) }

/-- The result of `ParseRequest` is returned. -/
def reply (result : Bool × ServerResponse) : RequestThreads :=
  let t := s.threads c
  { s with
    threads := Function.update s.threads c { t with pc := .idle }
    record := s.record.return_ t.call (some result) }

/-! The thread of the client after each of them. -/

@[simp] theorem threads_setPc (pc : RequestPc) :
    (s.setPc c pc).threads c = { s.threads c with pc := pc } := Function.update_self ..

@[simp] theorem threads_receive (data : RawData) :
    (s.receive c data).threads c = { call := s.record.calls, data := data, pc := .parsing } :=
  Function.update_self ..

@[simp] theorem threads_commit (env : AddressText) (id : RequestId) (a : Action) :
    (s.commit c env id a).threads c =
      { s.threads c with pc := .answered (a.answer env id s.server) } := Function.update_self ..

@[simp] theorem threads_reply (result : Bool × ServerResponse) :
    (s.reply c result).threads c = { s.threads c with pc := .idle } := Function.update_self ..

end RequestThreads

/-- **One step of one thread.**  There is no step when the parser stops with a fault. -/
def requestStep (env : AddressText) (s : RequestThreads) : RequestEvent → Option RequestThreads
  | .receive c data =>
      match (s.threads c).pc with
      | .idle => some (s.receive c data)
      | _ => none
  | .parse c =>
      match (s.threads c).pc with
      | .parsing =>
          match stageRequest (s.threads c).data with
          | .error _ => none
          | .ok (id, .done a) => some (s.commit c env id a)
          | .ok (id, .create obj) => some (s.setPc c (.creating id obj))
          | .ok (id, .find handle k) => some (s.setPc c (.finding id handle k))
      | _ => none
  | .insert c =>
      match (s.threads c).pc with
      | .creating id obj => some (s.commit c env id (.create obj))
      | _ => none
  | .find c =>
      match (s.threads c).pc with
      | .finding id handle k =>
          match s.server.registry.getClassObjectByHandle handle with
          | some _ => some (s.setPc c (.found id handle k))
          | none => some (s.commit c env id .reject)
      | _ => none
  | .callMember c =>
      match (s.threads c).pc with
      | .found id handle k =>
          match decodeOn handle (s.threads c).data k with
          | .ok a => some (s.commit c env id a)
          | .error _ => none
      | _ => none
  | .reply c =>
      match (s.threads c).pc with
      | .answered result => some (s.reply c result)
      | _ => none

/-- The step of a thread as a relation: one constructor for each branch of `requestStep`. -/
inductive RequestMove (env : AddressText) (s : RequestThreads) :
    RequestEvent → RequestThreads → Prop
  | receive {c : ℕ} {data : RawData} (hpc : (s.threads c).pc = .idle) :
      RequestMove env s (.receive c data) (s.receive c data)
  | done {c : ℕ} {id : RequestId} {a : Action} (hpc : (s.threads c).pc = .parsing)
      (hstage : stageRequest (s.threads c).data = .ok (id, .done a)) :
      RequestMove env s (.parse c) (s.commit c env id a)
  | create {c : ℕ} {id : RequestId} {obj : CustomClass} (hpc : (s.threads c).pc = .parsing)
      (hstage : stageRequest (s.threads c).data = .ok (id, .create obj)) :
      RequestMove env s (.parse c) (s.setPc c (.creating id obj))
  | lookup {c : ℕ} {id : RequestId} {handle : ClassHandle} {k : ℕ}
      (hpc : (s.threads c).pc = .parsing)
      (hstage : stageRequest (s.threads c).data = .ok (id, .find handle k)) :
      RequestMove env s (.parse c) (s.setPc c (.finding id handle k))
  | insert {c : ℕ} {id : RequestId} {obj : CustomClass}
      (hpc : (s.threads c).pc = .creating id obj) :
      RequestMove env s (.insert c) (s.commit c env id (.create obj))
  | found {c : ℕ} {id : RequestId} {handle : ClassHandle} {k : ℕ}
      (hpc : (s.threads c).pc = .finding id handle k) (hknown : s.server.known handle = true) :
      RequestMove env s (.find c) (s.setPc c (.found id handle k))
  | missing {c : ℕ} {id : RequestId} {handle : ClassHandle} {k : ℕ}
      (hpc : (s.threads c).pc = .finding id handle k) (hknown : s.server.known handle = false) :
      RequestMove env s (.find c) (s.commit c env id .reject)
  | callMember {c : ℕ} {id : RequestId} {handle : ClassHandle} {k : ℕ} {a : Action}
      (hpc : (s.threads c).pc = .found id handle k)
      (ha : decodeOn handle (s.threads c).data k = .ok a) :
      RequestMove env s (.callMember c) (s.commit c env id a)
  | reply {c : ℕ} {result : Bool × ServerResponse} (hpc : (s.threads c).pc = .answered result) :
      RequestMove env s (.reply c) (s.reply c result)

section Moves

variable {env : AddressText} {s s' : RequestThreads} {e : RequestEvent} {c : ℕ}

/-- **Every step is one of the moves.** -/
theorem requestMove_of_step (h : requestStep env s e = some s') : RequestMove env s e s' := by
  cases e with
  | receive c data =>
      simp only [requestStep] at h
      split at h <;> cases h
      next hpc => exact .receive hpc
  | parse c =>
      simp only [requestStep] at h
      split at h
      swap
      · cases h
      next hpc =>
      split at h <;> cases h
      · next hstage => exact .done hpc hstage
      · next hstage => exact .create hpc hstage
      · next hstage => exact .lookup hpc hstage
  | insert c =>
      simp only [requestStep] at h
      split at h <;> cases h
      next hpc => exact .insert hpc
  | find c =>
      simp only [requestStep] at h
      split at h
      swap
      · cases h
      next id handle k hpc =>
      by_cases hmem : handle ∈ s.server.registry.instances
      · rw [ClassRegistry.getClassObjectByHandle, if_pos hmem] at h
        cases h
        exact .found hpc (ServerState.known_eq_true.2 hmem)
      · rw [ClassRegistry.getClassObjectByHandle, if_neg hmem] at h
        cases h
        exact .missing hpc (decide_eq_false hmem)
  | callMember c =>
      simp only [requestStep] at h
      split at h
      swap
      · cases h
      next hpc =>
      split at h <;> cases h
      next ha => exact .callMember hpc ha
  | reply c =>
      simp only [requestStep] at h
      split at h <;> cases h
      next hpc => exact .reply hpc

/-! ### The sequential server -/

/-- **A request is handled as a whole**: what `ParseRequest` returns, if it is not stopped, and the
state it leaves. -/
def serveRequest (env : AddressText) (w : ServerState) (m : Incoming) :
    Option (Bool × ServerResponse) × ServerState :=
  match ((RequestParser.mk m.clientId).parseRequest env m.data).run w with
  | .ok r w' => (some r, w')
  | .error _ w' => (none, w')

/-- A request that decodes is performed and answered. -/
theorem serveRequest_of_decode {w : ServerState} {m : Incoming} {id : RequestId} {a : Action}
    (hd : decodeRequest w.known m.data = .ok (id, a)) :
    serveRequest env w m = (some (a.answer env id w), a.perform w) := by
  rw [serveRequest, RequestParser.parseRequest_eq, hd]

/-- The state a request leaves behind is the one `serverStep` describes. -/
theorem serverStep_eq_serveRequest {w : ServerState} {m : Incoming}
    (hfits : m.data.length ≤ kBuffSize) :
    serverStep env w m = some (serveRequest env w m).2 := by
  rw [serverStep, if_pos hfits, endState_parseRequest, serveRequest,
    RequestParser.parseRequest_eq]
  cases decodeRequest w.known m.data <;> rfl

/-! ### The invariant -/

/-- Where a thread is with respect to its request. -/
def RequestThread.phase (c : ℕ) (t : RequestThread) :
    Phase Incoming (Option (Bool × ServerResponse)) :=
  match t.pc with
  | .idle => .outside
  | .answered result => .past t.call ⟨c, t.data⟩ (some result)
  | _ => .inside t.call ⟨c, t.data⟩

/-- What a thread knows about its own request, and that the handle it has found exists. -/
def RequestThread.Knows (w : ServerState) (t : RequestThread) : Prop :=
  match t.pc with
  | .creating id obj => stageRequest t.data = .ok (id, .create obj)
  | .finding id handle k => stageRequest t.data = .ok (id, .find handle k)
  | .found id handle k => stageRequest t.data = .ok (id, .find handle k) ∧ w.known handle = true
  | _ => True

/-- **The invariant**: what has happened so far linearizes, and every thread knows its request. -/
structure RequestInv (env : AddressText) (s : RequestThreads) : Prop where
  tracked : Tracked (serveRequest env) {} (fun c => (s.threads c).phase c) s.record s.server
  knows : ∀ c, (s.threads c).Knows s.server

/-- What a thread knows it knows as long as no handle disappears. -/
theorem RequestThread.Knows.mono {w w' : ServerState} {t : RequestThread} (h : t.Knows w)
    (hknown : ∀ h, w.known h = true → w'.known h = true) : t.Knows w' := by
  rw [Knows] at h ⊢
  split at h
  · exact h
  · exact h
  · exact ⟨h.1, hknown _ h.2⟩
  · exact h

/-- One thread goes on, and no handle disappears. -/
theorem knows_update {w w' : ServerState} {threads : ℕ → RequestThread} {t : RequestThread}
    (h : ∀ c, (threads c).Knows w) (hknown : ∀ h, w.known h = true → w'.known h = true)
    (ht : t.Knows w') : ∀ d, (Function.update threads c t d).Knows w' :=
  (Function.forall_update_iff threads fun _ t => t.Knows w').2 ⟨ht, fun d _ => (h d).mono hknown⟩

/-- The phases after a step of one thread. -/
theorem phase_update (threads : ℕ → RequestThread) (t : RequestThread) :
    (fun d => (Function.update threads c t d).phase d) =
      Function.update (fun d => (threads d).phase d) c (t.phase c) :=
  funext fun d => Function.apply_update (fun d t => RequestThread.phase d t) threads c t d

/-- What a step comes to, for the request of the thread: it arrives, goes on unseen, takes effect as
it decodes at that moment, or is answered. -/
inductive RequestEffect (env : AddressText) (s : RequestThreads) :
    RequestEvent → RequestThreads → Prop
  | receive {c : ℕ} {data : RawData} (hpc : (s.threads c).pc = .idle) :
      RequestEffect env s (.receive c data) (s.receive c data)
  | goOn {e : RequestEvent} {c : ℕ} {pc : RequestPc} (hc : e.client = c)
      (hphase : { s.threads c with pc := pc }.phase c = (s.threads c).phase c)
      (hknows : { s.threads c with pc := pc }.Knows s.server) :
      RequestEffect env s e (s.setPc c pc)
  | commit {e : RequestEvent} {c : ℕ} {id : RequestId} {a : Action} (hc : e.client = c)
      (hphase : (s.threads c).phase c = .inside (s.threads c).call ⟨c, (s.threads c).data⟩)
      (hd : decodeRequest s.server.known (s.threads c).data = .ok (id, a)) :
      RequestEffect env s e (s.commit c env id a)
  | reply {c : ℕ} {result : Bool × ServerResponse}
      (hphase : (s.threads c).phase c =
        .past (s.threads c).call ⟨c, (s.threads c).data⟩ (some result)) :
      RequestEffect env s (.reply c) (s.reply c result)

namespace RequestInv

theorem start : RequestInv env {} where
  tracked := .start fun _ => rfl
  knows _ := trivial

/-- A step inside a request that nobody else can see. -/
theorem setPc (h : RequestInv env s) {pc : RequestPc}
    (hphase : { s.threads c with pc := pc }.phase c = (s.threads c).phase c)
    (hknows : { s.threads c with pc := pc }.Knows s.server) : RequestInv env (s.setPc c pc) where
  tracked := h.tracked.silent fun d => by
    change (Function.update s.threads c { s.threads c with pc := pc } d).phase d = _
    by_cases hd : d = c
    · subst hd
      rw [Function.update_self, hphase]
    · rw [Function.update_of_ne hd]
  knows := knows_update h.knows (fun _ => id) hknows

/-- A request takes effect when it decodes at that moment. -/
theorem commit (h : RequestInv env s) {id : RequestId} {a : Action}
    (hphase : (s.threads c).phase c = .inside (s.threads c).call ⟨c, (s.threads c).data⟩)
    (hd : decodeRequest s.server.known (s.threads c).data = .ok (id, a)) :
    RequestInv env (s.commit c env id a) := by
  have hserve : serveRequest env s.server ⟨c, (s.threads c).data⟩ =
      (some (a.answer env id s.server), a.perform s.server) := serveRequest_of_decode hd
  refine ⟨?_, knows_update h.knows (fun _ => Action.known_perform) trivial⟩
  have htracked := h.tracked.commit (t := c) hphase rfl
  rw [hserve] at htracked
  exact htracked.silent fun d => congrFun (phase_update _ _) d

/-- **What a step comes to**, for the request of the thread. -/
theorem effect (h : RequestInv env s) (hstep : requestStep env s e = some s') :
    RequestEffect env s e s' := by
  cases requestMove_of_step hstep with
  | receive hpc => exact .receive hpc
  | done hpc hstage =>
      exact .commit rfl (by rw [RequestThread.phase, hpc]) (decodeRequest_of_stage hstage rfl)
  | create hpc hstage => exact .goOn rfl (by simp only [RequestThread.phase, hpc]) hstage
  | lookup hpc hstage => exact .goOn rfl (by simp only [RequestThread.phase, hpc]) hstage
  | @insert c id obj hpc =>
      have hknows := h.knows c
      simp only [RequestThread.Knows, hpc] at hknows
      exact .commit rfl (by rw [RequestThread.phase, hpc]) (decodeRequest_of_stage hknows rfl)
  | @found c id handle k hpc hknown =>
      have hknows := h.knows c
      simp only [RequestThread.Knows, hpc] at hknows
      exact .goOn rfl (by simp only [RequestThread.phase, hpc]) ⟨hknows, hknown⟩
  | @missing c id handle k hpc hknown =>
      -- the handle is missing now, whatever is created later
      have hknows := h.knows c
      simp only [RequestThread.Knows, hpc] at hknows
      refine .commit rfl (by rw [RequestThread.phase, hpc]) (decodeRequest_of_stage hknows ?_)
      rw [Stage.action, hknown]
      rfl
  | @callMember c id handle k a hpc ha =>
      -- the handle was found earlier, and it still exists
      have hknows := h.knows c
      simp only [RequestThread.Knows, hpc] at hknows
      refine .commit rfl (by rw [RequestThread.phase, hpc]) (decodeRequest_of_stage hknows.1 ?_)
      rw [Stage.action, hknows.2, if_pos rfl]
      exact ha
  | reply hpc => exact .reply (by rw [RequestThread.phase, hpc])

/-- **Every step keeps the invariant.** -/
theorem step (h : RequestInv env s) (hstep : requestStep env s e = some s') :
    RequestInv env s' := by
  cases h.effect hstep with
  | @receive c data hpc =>
      refine ⟨h.tracked.call (t := c) _ ?_, knows_update h.knows (fun _ => id) trivial⟩
      exact phase_update _ _
  | goOn _ hphase hknows => exact h.setPc hphase hknows
  | commit _ hphase hd => exact h.commit hphase hd
  | @reply c result hphase =>
      refine ⟨h.tracked.return_ (t := c) hphase ?_, knows_update h.knows (fun _ => id) trivial⟩
      exact phase_update _ _

/-- **Every run keeps the invariant.** -/
theorem run {es : List RequestEvent}
    (hrun : LabelledRuns.run (requestStep env) {} es = some s) : RequestInv env s :=
  invariant_run (fun _ _ _ hinv hstep => hinv.step hstep) start hrun

end RequestInv

/-- The calls in the history are the requests that have arrived. -/
theorem received_of_call {es : List RequestEvent} (hrun : run (requestStep env) {} es = some s) :
    ∀ k m, .call k m ∈ s.record.history → .receive m.clientId m.data ∈ es := by
  refine invariant_history (I := fun es (s : RequestThreads) => ∀ k m,
    .call k m ∈ s.record.history → .receive m.clientId m.data ∈ es) (fun _ _ hcall => ?_) ?_ hrun
  · cases hcall
  · intro es e s s' _ hI hstep k m hcall
    have hold : .call k m ∈ s.record.history → .receive m.clientId m.data ∈ es ++ [e] :=
      fun hmem => List.mem_append_left _ (hI k m hmem)
    cases requestMove_of_step hstep with
    | receive hpc =>
        rcases List.mem_append.1 hcall with hcall | hcall
        · exact hold hcall
        · cases List.mem_singleton.1 hcall
          exact List.mem_append_right _ (List.mem_singleton_self _)
    | reply hpc =>
        rcases List.mem_append.1 hcall with hcall | hcall
        · exact hold hcall
        · cases List.mem_singleton.1 hcall
    | done | create | lookup | insert | found | missing | callMember => exact hold hcall

end Moves

/-! ### The results -/

/-- **The concurrent server is linearizable.**  In every run of any number of threads, the requests
that have taken effect could have been handled one after another, each as a whole: in this order
they leave the same objects and get the same responses, and a request that was answered before
another one arrived stands before it. -/
theorem requests_linearizable (env : AddressText) {es : List RequestEvent} {s : RequestThreads}
    (hrun : run (requestStep env) {} es = some s) :
    LinearizesTo (serveRequest env) {} s.record.history s.record.done s.server :=
  (RequestInv.run hrun).tracked.linearizes

section Results

variable {env : AddressText} {es : List RequestEvent} {s : RequestThreads}

/-- **The registry of the concurrent server is one that whole messages lead to.** -/
theorem concurrent_reaches (hrun : run (requestStep env) {} es = some s)
    (hfits : ∀ c data, .receive c data ∈ es → data.length ≤ kBuffSize) :
    Reaches (serverStep env) {} s.server := by
  refine (RequestInv.run hrun).tracked.linearizes.invariant
    (P := fun m : Incoming => m.data.length ≤ kBuffSize) ⟨[], rfl⟩ ?_ ?_
  · intro w m hw hm
    exact hw.concat (serverStep_eq_serveRequest hm)
  · exact fun k m hcall => hfits _ _ (received_of_call hrun k m hcall)

/-- The message of a command. -/
def Issued.incoming (m : Issued) : Incoming := ⟨m.clientId, m.frame⟩

/-- What the sequential server does with a command. -/
def Issued.serve (env : AddressText) (w : ServerState) (m : Issued) :
    Option (Bool × ServerResponse) × ServerState :=
  serveRequest env w m.incoming

/-- Every create raises the counter. -/
theorem creates_le_handleCounter (env : AddressText) :
    ∀ {ms : List Issued} {w : ServerState}, (∀ m ∈ ms, m.frame.length ≤ kBuffSize) →
      w.registry.handleCounter + (ms.filter fun m => m.command.isCreate).length ≤
        (respond (Issued.serve env) w ms).2.registry.handleCounter := by
  intro ms
  induction ms with
  | nil => exact fun _ => Nat.le_refl _
  | cons m ms ih =>
      intro w hfits
      have hrest := ih (w := (m.serve env w).2) fun m' hm' =>
        hfits m' (List.mem_cons_of_mem _ hm')
      refine le_trans ?_ hrest
      have hlen := hfits m List.mem_cons_self
      rw [Issued.frame, length_frameRequest, kBuffSize] at hlen
      have harg := m.command.length_argument_le
      have hd := decodeRequest_encode w.known m.id (c := m.command) (by omega)
      rw [Issued.serve, serveRequest_of_decode (m := m.incoming) hd, List.filter_cons]
      cases hc : m.command.isCreate with
      | false =>
          have hle := handleCounter_le_perform (m.command.action w.known) w
          simp only [Bool.false_eq_true, if_false]
          omega
      | true =>
          have hsucc : ((m.command.action w.known).perform w).registry.handleCounter =
              w.registry.handleCounter + 1 := by
            cases hcmd : m.command <;> rw [hcmd] at hc <;> first | rfl | cases hc
          rw [hsucc, if_pos rfl, List.length_cons]
          omega

/-- **Under commands the concurrent server behaves like the store.**  In every run in which every
request is an encoded command that fits the buffer of the server, and as long as the counter has
not left the range of an `int`, the order in which the requests take effect is a run of the store:
one by one the responses convey what the store answers, and the registry stands for the store. -/
theorem commands_linearizable (hrun : run (requestStep env) {} es = some s)
    (hcommands : ∀ c data, .receive c data ∈ es →
      ∃ m : Issued, m.incoming = ⟨c, data⟩ ∧ data.length ≤ kBuffSize)
    (hcounter : s.server.registry.handleCounter < 2 ^ 31) :
    LinearizesTo (serveRequest env) {} s.record.history s.record.done s.server ∧
      ∃ ms : List Issued, s.record.done.map Done.op = ms.map Issued.incoming ∧
        List.Forall₂ (Conveys env) (s.record.done.map Done.answer)
          (respond Store.serve [] ms).1 ∧
        Represents s.server (respond Store.serve [] ms).2 := by
  have hlin := requests_linearizable env hrun
  refine ⟨hlin, ?_⟩
  have hissued : ∀ op ∈ s.record.done.map Done.op, ∃ m : Issued, m.incoming = op ∧
      op.data.length ≤ kBuffSize := by
    intro op hop
    obtain ⟨d, hd, rfl⟩ := List.mem_map.1 hop
    exact hcommands _ _ (received_of_call hrun _ _ (hlin.called d hd))
  obtain ⟨ms, hms⟩ : s.record.done.map Done.op ∈ Set.range (List.map Issued.incoming) := by
    rw [Set.range_list_map]
    exact fun op hop => (hissued op hop).imp fun _ hm => hm.1
  have hfits : ∀ m ∈ ms, m.frame.length ≤ kBuffSize := by
    intro m hm
    obtain ⟨_, _, hlen⟩ := hissued m.incoming (hms ▸ List.mem_map_of_mem hm)
    exact hlen
  refine ⟨ms, hms.symm, ?_⟩
  have hcreates : (ms.filter fun m => m.command.isCreate).length < 2 ^ 31 := by
    have hle := creates_le_handleCounter env (w := {}) hfits
    have hend := congrArg Prod.snd hlin.legal
    rw [← hms, respond_map] at hend
    have hstate : (respond (Issued.serve env) {} ms).2 = s.server := hend
    rw [hstate] at hle
    exact lt_of_le_of_lt (Nat.le_add_left _ _) (lt_of_le_of_lt hle hcounter)
  have hempty : Represents {} [] := ⟨rfl, fun h => rfl⟩
  have hsim := hlin.simulation hms.symm
    (R := fun w s => Represents w s ∧ RegistryInv w.registry) (Q := Conveys env)
    (G := fun s m => m.frame.length ≤ kBuffSize ∧ s.length < 2 ^ 31)
    (fun w s m hR hG => represents_step env m hR.1 hR.2 hG.1 hG.2)
    ⟨hempty, registryInv_empty⟩
    (guarded_of_creates hfits (by simpa using hcreates))
  exact ⟨hsim.1, hsim.2.1⟩

end Results

/-- A client creates an object.  Then it writes the object while another client reads it; the other
one finds the object first, and reads it after it was written. -/
def overlappingRequests : List RequestEvent :=
  [.receive 0 (Issued.frame ⟨0, 1, .create⟩), .parse 0, .insert 0, .reply 0,
    .receive 0 (Issued.frame ⟨0, 2, .setIntegerValue 0 5⟩),
    .receive 1 (Issued.frame ⟨1, 1, .getInstance 0⟩), .parse 0, .parse 1, .find 1, .find 0,
    .callMember 0, .callMember 1, .reply 1, .reply 0]

set_option maxRecDepth 4000 in
theorem overlappingRequests_linearize :
    ∃ s, run (requestStep default) {} overlappingRequests = some s ∧
      s.record.done.map (fun d => (d.call, d.op.clientId)) = [(0, 0), (1, 0), (2, 1)] ∧
      LinearizesTo (serveRequest default) {} s.record.history s.record.done s.server :=
  ⟨_, rfl, rfl, @requests_linearizable default overlappingRequests _ rfl⟩

set_option maxRecDepth 4000 in
/-- The three requests are the commands of the two clients. -/
theorem overlappingRequests_like_store :
    ∃ s, run (requestStep default) {} overlappingRequests = some s ∧
      ∃ ms : List Issued, s.record.done.map Done.op = ms.map Issued.incoming ∧
        List.Forall₂ (Conveys default) (s.record.done.map Done.answer)
          (respond Store.serve [] ms).1 ∧
        Represents s.server (respond Store.serve [] ms).2 := by
  refine ⟨_, rfl, (@commands_linearizable default overlappingRequests _ rfl ?_ (by decide)).2⟩
  intro c data hmem
  simp only [overlappingRequests, List.mem_cons, RequestEvent.receive.injEq, reduceCtorEq,
    List.not_mem_nil, false_or, or_false] at hmem
  rcases hmem with ⟨rfl, rfl⟩ | ⟨rfl, rfl⟩ | ⟨rfl, rfl⟩
  · exact ⟨⟨0, 1, .create⟩, rfl, by decide⟩
  · exact ⟨⟨0, 2, .setIntegerValue 0 5⟩, rfl, by decide⟩
  · exact ⟨⟨1, 1, .getInstance 0⟩, rfl, by decide⟩

end NamedPipeDemo
