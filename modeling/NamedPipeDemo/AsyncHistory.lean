/-
**What an `Async` client is told is the history of a server that takes one request at a time.**

An `Async` client may lose responses, and the callbacks of those it does not lose run when the
completions of the reads are handled, in any order.  The server serves other clients in between.
As long as a read finds no more than its buffer holds, what the client is told is still right: the
requests of all clients can be put into an order in which the sequential server gives the answers
that the callbacks are called with, a callback that was called before a request was sent stands
before it, and the requests of the client stand in it in the order in which they were sent.  A lost
response is a call that does not return.

Main definitions:

* `NamedPipeDemo.AsyncSystem.observe` — what is seen of a step;
* `NamedPipeDemo.Told` — a callback is called with the value of this answer;
* `NamedPipeDemo.AsyncView` — **what was seen is a linearizable history of the server**.

Main results:

* `NamedPipeDemo.AsyncView.send`, `NamedPipeDemo.AsyncView.otherClient`,
  `NamedPipeDemo.AsyncView.serve`, `NamedPipeDemo.AsyncView.readCompleted` — the steps that are
  seen, and the one that takes effect;
* `NamedPipeDemo.async_client_sees_server` — **the result.**
-/

import NamedPipeDemo.AsyncLoss
import NamedPipeDemo.RequestThreads

set_option relaxedAutoImplicit false
set_option autoImplicit false

namespace NamedPipeDemo

open LabelledRuns Linearizability

/-! ### What is seen -/

section Observe

variable {κ : Type}

/-- The callback that the handler of a completion calls: the id of its request, and the value. -/
def AsyncSystem.called (s : AsyncSystem κ) (data : RawData) : Option (RequestId × AnyValue) :=
  match decodeResponse data with
  | .ok (.deliver id v) =>
      if (s.client.parser.requests.lookup id).isSome then some (id, v) else none
  | _ => none

/-- **What is seen of a step**: a send hands over a message, and a callback is called.  The client
names its requests by their ids; those of other clients are named by the step. -/
def AsyncSystem.observe (c n : ℕ) (s : AsyncSystem κ) :
    AsyncEvent κ → List (Event (RequestId ⊕ ℕ) Incoming (Option AnyValue))
  | .send =>
      match s.client.pc with
      | .sending id request => [.call (.inl id) ⟨c, frameRequest id request.data⟩]
      | _ => []
  | .otherClient m => [.call (.inr n) m, .return_ (.inr n) none]
  | .readCompleted k =>
      ((s.filled[k]?.bind fun data => s.called data.1).map fun r =>
        .return_ (.inl r.1) (some r.2)).toList
  | _ => []

/-- A callback is called with the value that this answer of the server delivers.  What other clients
are told is not seen. -/
def Told : RequestId ⊕ ℕ → Option AnyValue → Option (Bool × ServerResponse) → Prop
  | .inl id, some v, some r => r.2.isValid = true ∧ Delivers r.2.dataToSend id v
  | .inr _, none, _ => True
  | _, _, _ => False

/-- The requests of the client. -/
def ownRequests : Naming RequestId (RequestId ⊕ ℕ) where
  name := .inl
  own := Sum.getLeft?
  own_eq_some _ _ := Sum.getLeft?_eq_some_iff

end Observe

/-! ### The view -/

section View

variable {κ : Type} {env : AddressText} {c n : ℕ}
  {onSuccess : κ → AnyValue → ClassRepository → ClassRepository} {s s' : AsyncSystem κ}
  {i : AsyncEvent κ} {h : List (Event (RequestId ⊕ ℕ) Incoming (Option AnyValue))}
  {g : List (Event (RequestId ⊕ ℕ) Incoming (Option (Bool × ServerResponse)))}
  {w : List (Done (RequestId ⊕ ℕ) Incoming (Option (Bool × ServerResponse)))}

/-- **What was seen is a history of the sequential server, and it linearizes to the state of the
server.**  Every response that was written answers a request of the client that took effect, and
every callback that was called is seen. -/
structure AsyncView (env : AddressText) (c n : ℕ)
    (h : List (Event (RequestId ⊕ ℕ) Incoming (Option AnyValue))) (s : AsyncSystem κ)
    (g : List (Event (RequestId ⊕ ℕ) Incoming (Option (Bool × ServerResponse))))
    (w : List (Done (RequestId ⊕ ℕ) Incoming (Option (Bool × ServerResponse)))) : Prop where
  linearizes : LinearizesTo (serveRequest env) {} g w s.server
  seen : List.Forall₂ (Event.Rel (fun _ m m' => m = m') Told) h g
  numbered : ∀ k m, .call (.inr k) m ∈ g → k < n
  order : ∃ ms : List (RequestId × Incoming),
    InOrder ownRequests g w (s.client.accepted.map Prod.fst) ms ∧
      s.toServer = ms.map (fun m => m.2.data) ∧
      ∀ m ∈ ms, ∃ data, m.2 = ⟨c, frameRequest m.1 data⟩
  written : ∀ bytes ∈ s.written, ∃ d ∈ w, ∃ id v, d.call = .inl id ∧ v.Short ∧
    bytes = createRequestIdData id ++ v.serialize ∧ Told (.inl id) (some v) d.answer
  delivered : ∀ d ∈ s.client.parser.deliveries, .return_ (.inl d.id) (some d.value) ∈ h

theorem asyncView_start : AsyncView env c 0 [] (AsyncSystem.start : AsyncSystem κ) [] [] where
  linearizes := .nil
  seen := .nil
  numbered _ _ hcall := by cases hcall
  order := ⟨[], .start, rfl, fun _ hm => by cases hm⟩
  written _ hbytes := by cases hbytes
  delivered _ hd := by cases hd

/-- A step that is not seen and does not reach the server. -/
theorem AsyncView.silent (hv : AsyncView env c n h s g w) (hserver : s'.server = s.server)
    (haccepted : s'.client.accepted = s.client.accepted) (htoServer : s'.toServer = s.toServer)
    (hwritten : s'.written = s.written)
    (hdeliveries : ∀ d ∈ s'.client.parser.deliveries, d ∈ s.client.parser.deliveries) :
    AsyncView env c (n + 1) (h ++ []) s' g w where
  linearizes := hserver ▸ hv.linearizes
  seen := by rw [List.append_nil]; exact hv.seen
  numbered k m hcall := Nat.lt_succ_of_lt (hv.numbered k m hcall)
  order := by rw [haccepted, htoServer]; exact hv.order
  written := by rw [hwritten]; exact hv.written
  delivered d hd := by rw [List.append_nil]; exact hv.delivered d (hdeliveries d hd)

/-! ### The client -/

/-- No request is lost between the data source and the pipe. -/
def AsyncSystem.Handed (s : AsyncSystem κ) : Prop :=
  s.client.accepted ++ s.client.pending = s.client.frames

theorem AsyncSystem.Handed.step (hs : s.Handed)
    (hstep : asyncStep env c onSuccess s i = some s') : s'.Handed := by
  cases i with
  | client i =>
      simp only [asyncStep] at hstep
      split at hstep
      swap
      · cases hstep
      next hlocal =>
      obtain ⟨client, hclient, rfl⟩ := Option.map_eq_some_iff.1 hstep
      refine ClientRun.handed_step hclient (fun outcome hsend => ?_) hs
      subst hsend
      cases hlocal
  | send =>
      simp only [asyncStep] at hstep
      split at hstep
      swap
      · cases hstep
      obtain ⟨client, hclient, rfl⟩ := Option.map_eq_some_iff.1 hstep
      exact ClientRun.handed_step hclient (fun outcome hsend => by cases hsend; rfl) hs
  | otherClient m =>
      obtain ⟨u, _, rfl⟩ := Option.map_eq_some_iff.1 hstep
      exact hs
  | serve =>
      simp only [asyncStep] at hstep
      split at hstep
      · cases hstep
      split at hstep
      · cases hstep
      split at hstep <;> cases hstep
      exact hs
  | writeCompleted k =>
      simp only [asyncStep] at hstep
      split at hstep <;> cases hstep
      exact hs
  | readReturned =>
      simp only [asyncStep] at hstep
      split at hstep <;> cases hstep
      exact hs
  | readCompleted k =>
      simp only [asyncStep] at hstep
      split at hstep
      swap
      · cases hstep
      obtain ⟨client, hclient, rfl⟩ := Option.map_eq_some_iff.1 hstep
      exact ClientRun.handed_step hclient (fun outcome hsend => by cases hsend) hs

/-- The client connects, reads a request, or is done. -/
theorem AsyncView.clientEvent (hv : AsyncView env c n h s g w) {i : ClientEvent κ}
    (hstep : asyncStep env c onSuccess s (.client i) = some s') :
    AsyncView env c (n + 1) (h ++ s.observe c n (.client i)) s' g w := by
  simp only [asyncStep] at hstep
  split at hstep
  swap
  · cases hstep
  next hlocal =>
  obtain ⟨client, hclient, rfl⟩ := Option.map_eq_some_iff.1 hstep
  cases clientMove_of_step hclient with
  | connect _ | finish _ | skip _ _ => exact hv.silent rfl rfl rfl rfl fun _ hd => hd
  | @register request _ _ _ =>
      refine hv.silent rfl rfl rfl rfl fun d hd => ?_
      simp only [ClientRun.register, ClientState.registerRequest] at hd
      split at hd <;> exact hd
  | send _ | readFailed _ | read _ _ | arrive _ _ => cases hlocal

/-- **The client sends**: a call begins. -/
theorem AsyncView.send (hv : AsyncView env c n h s g w) (hs : s.Handed)
    (hinv : ClientInv s.client) (hstep : asyncStep env c onSuccess s .send = some s') :
    ∃ g', AsyncView env c (n + 1) (h ++ s.observe c n .send) s' g' w := by
  simp only [asyncStep] at hstep
  split at hstep
  swap
  · cases hstep
  next id request hpc =>
  obtain ⟨client, hclient, rfl⟩ := Option.map_eq_some_iff.1 hstep
  have hcall : s.observe c n .send =
      [.call (.inl id) ⟨c, frameRequest id request.data⟩] := by
    simp only [AsyncSystem.observe, hpc]
  have hfresh : id ∉ s.client.accepted.map Prod.fst := fun hmem => by
    have hnodup := hinv.nodup_accepted hs
    rw [ClientRun.pending, hpc] at hnodup
    exact List.disjoint_of_nodup_append hnodup hmem List.mem_cons_self
  obtain ⟨ms, horder, hserver, hms⟩ := hv.order
  rw [hcall]
  cases clientMove_of_step hclient with
  | @send _ id' request' hpc' =>
      rw [hpc, ClientPc.sending.injEq] at hpc'
      obtain ⟨rfl, rfl⟩ := hpc'
      have haccepted : (s.client.send .async id request .success).accepted.map Prod.fst =
          s.client.accepted.map Prod.fst ++ [id] := List.map_append
      refine ⟨g ++ [.call (.inl id) ⟨c, frameRequest id request.data⟩],
        hv.linearizes.call (horder.fresh hfresh),
        List.rel_append hv.seen (.cons (.call rfl) .nil), fun k m hmem => ?_,
        ⟨ms ++ [(id, ⟨c, frameRequest id request.data⟩)], haccepted ▸ horder.send, ?_,
          fun m hm => ?_⟩,
        hv.written, fun d hd => List.mem_append_left _ (hv.delivered d hd)⟩
      · rcases List.mem_append.1 hmem with hmem | hmem
        · exact Nat.lt_succ_of_lt (hv.numbered k m hmem)
        · cases List.mem_singleton.1 hmem
      · simp only [hserver, List.map_append, List.map_cons, List.map_nil]
      · rcases List.mem_append.1 hm with hm | hm
        · exact hms m hm
        · rw [List.mem_singleton.1 hm]
          exact ⟨_, rfl⟩

/-! ### The server -/

/-- **The server handles a message of another client**: a call begins, takes effect and returns. -/
theorem AsyncView.otherClient (hv : AsyncView env c n h s g w) {m : Incoming}
    (hstep : asyncStep env c onSuccess s (.otherClient m) = some s') :
    ∃ g' w', AsyncView env c (n + 1) (h ++ s.observe c n (.otherClient m)) s' g' w' := by
  obtain ⟨u, hu, rfl⟩ := Option.map_eq_some_iff.1 hstep
  have hserver : u = (serveRequest env s.server m).2 := by
    have hfits : m.data.length ≤ kBuffSize := by
      by_contra hlong
      rw [serverStep, if_neg hlong] at hu
      cases hu
    rw [serverStep_eq_serveRequest hfits, Option.some_inj] at hu
    exact hu.symm
  have hnew : ∀ m, .call (.inr n) m ∉ g := fun m hmem =>
    Nat.lt_irrefl _ (hv.numbered n m hmem)
  have hundone : .inr n ∉ w.map Done.call := fun hmem => by
    obtain ⟨d, hd, hcall⟩ := List.mem_map.1 hmem
    exact hnew d.op (hcall ▸ hv.linearizes.called d hd)
  have hbegun : LinearizesTo (serveRequest env) {} (g ++ [.call (.inr n) m]) w s.server :=
    hv.linearizes.call hnew
  have hdone := hbegun.commit (List.mem_append_right _ (List.mem_singleton_self _)) hundone
  have hreturned := hdone.return_ (List.mem_append_right _ (List.mem_singleton_self _))
  rw [List.append_assoc, ← hserver] at hreturned
  obtain ⟨ms, horder, hrest⟩ := hv.order
  have horder' := (horder.mono (e := [.call (.inr n) m,
    .return_ (.inr n) (serveRequest env s.server m).1]) fun id m' hmem => by
      rcases List.mem_cons.1 hmem with heq | hmem
      · cases heq
      · cases List.mem_singleton.1 hmem).other
    (d := ⟨.inr n, m, (serveRequest env s.server m).1⟩) rfl
  refine ⟨_, _, hreturned,
    List.rel_append hv.seen (.cons (.call rfl) (.cons (.return_ trivial) .nil)),
    fun k m' hmem => ?_, ⟨ms, horder', hrest⟩, fun bytes hbytes => ?_,
    fun d hd => List.mem_append_left _ (hv.delivered d hd)⟩
  · rcases List.mem_append.1 hmem with hmem | hmem
    · exact Nat.lt_succ_of_lt (hv.numbered k m' hmem)
    · rcases List.mem_cons.1 hmem with heq | hmem
      · cases heq
        exact Nat.lt_succ_self n
      · cases List.mem_singleton.1 hmem
  · obtain ⟨d, hd, hrest⟩ := hv.written bytes hbytes
    exact ⟨d, List.mem_append_left _ hd, hrest⟩

/-- **The server takes the next message of the client**: the call takes effect. -/
theorem AsyncView.serve (hv : AsyncView env c n h s g w) (hs : s.Handed)
    (hinv : ClientInv s.client) (hstrings : s.server.StringsWithin kBuffSize)
    (hstep : asyncStep env c onSuccess s .serve = some s') :
    ∃ w', AsyncView env c (n + 1) (h ++ s.observe c n .serve) s' g w' := by
  obtain ⟨ms, horder, hms, hframes⟩ := hv.order
  cases ms with
  | nil =>
      simp only [asyncStep, hms, List.map_nil] at hstep
      cases hstep
  | cons x ms =>
  obtain ⟨id, m⟩ := x
  obtain ⟨data, rfl⟩ : ∃ data, m = ⟨c, frameRequest id data⟩ :=
    hframes (id, m) List.mem_cons_self
  simp only [asyncStep, hms, List.map_cons] at hstep
  split at hstep
  · cases hstep
  next hlen =>
  rw [handleClientRequest_eq] at hstep
  cases hd : decodeRequest s.server.known (frameRequest id data) with
  | error e =>
      rw [hd] at hstep
      cases hstep
  | ok r =>
  obtain ⟨id', a⟩ := r
  have hid : id' = id := id_of_decodeRequest_frame (le_maxSize_of_le (Nat.not_lt.1 hlen)) hd
  subst hid
  simp only [hd, Option.some.injEq] at hstep
  subst hstep
  have hserve : serveRequest env s.server ⟨c, frameRequest id' data⟩ =
      (some (a.answer env id' s.server), a.perform s.server) := serveRequest_of_decode hd
  have hcall := horder.queued _ List.mem_cons_self
  have hundone := horder.notMem_effects (List.nodup_append.1 (hinv.nodup_accepted hs)).1
  have hdone := hv.linearizes.commit hcall hundone
  have hsilent : h ++ s.observe c n .serve = h := List.append_nil h
  rw [hserve] at hdone
  rw [hsilent]
  refine ⟨_, hdone, hv.seen, fun k m hmem => Nat.lt_succ_of_lt (hv.numbered k m hmem),
    ⟨ms, horder.serve _, rfl, fun m hm => hframes m (List.mem_cons_of_mem _ hm)⟩,
    fun bytes hbytes => ?_, hv.delivered⟩
  rcases List.mem_append.1 hbytes with hbytes | hbytes
  · obtain ⟨d, hd, hrest⟩ := hv.written bytes hbytes
    exact ⟨d, List.mem_append_left _ hd, hrest⟩
  · -- the response that has just been written carries the value of the action
    obtain ⟨v, hvalue, rfl⟩ := Option.map_eq_some_iff.1 (Option.mem_toList.1 hbytes)
    have hshort : v.Short := by
      have hresponse := hstrings.length_response_le hvalue
      rw [kBuffSize] at hresponse
      exact v.short_of_length (by omega)
    have hdelivers := Action.delivers_answer id' hvalue hshort
    exact ⟨_, List.mem_append_right _ (List.mem_singleton_self _), id', v, rfl, hshort, rfl,
      hdelivers.1, hdelivers.2.2⟩

/-! ### The callbacks -/

/-- What `HandleSuccess` is called with is what is seen. -/
theorem AsyncSystem.deliveries_answer {data : RawData} {a : ResponseAction}
    (hdec : decodeResponse data = .ok a) {d : Delivery κ}
    (hd : d ∈ (s.client.answer onSuccess a).parser.deliveries) :
    d ∈ s.client.parser.deliveries ∨ s.called data = some (d.id, d.value) := by
  cases a with
  | register handle => exact Or.inl hd
  | reject => exact Or.inl hd
  | deliver id v =>
      simp only [ClientRun.answer, ResponseAction.perform, ClientState.notify] at hd
      split at hd
      · next request hlookup =>
          rcases List.mem_cons.1 hd with rfl | hd
          · refine Or.inr ?_
            simp only [called, hdec, hlookup, Option.isSome_some, if_true]
          · exact Or.inl hd
      · exact Or.inl hd

/-- What is in a buffer starts with a response that was written. -/
theorem LossInv.filled_starts {m k : ℕ} {data : RawDataType} (hl : LossInv m s)
    (hdata : s.filled[k]? = some data) : ∃ bytes ∈ s.written, ∃ rest, data.1 = bytes ++ rest := by
  obtain ⟨firsts, lost, _, hfirsts, ms, done, buffered, fresh, hinv⟩ := hl
  obtain ⟨hk, rest, hrest⟩ := startsWith_of_getElem? hfirsts hdata
  refine ⟨(firsts[k]).1, hinv.written.mem_iff.2 ?_, rest, hrest⟩
  have hmem : (firsts[k]).1 ∈ buffered.map Reply.bytes := by
    rw [← hinv.filled]
    exact List.mem_map_of_mem (List.mem_append_left _ (List.getElem_mem hk))
  rw [List.map_append, List.map_append]
  exact List.mem_append_right _ (List.mem_append_left _ hmem)

/-- **The completion of a read is handled**: the call of the first response in the buffer returns,
if its request is in the table. -/
theorem AsyncView.readCompleted (hv : AsyncView env c n h s g w) {m k : ℕ} (hl : LossInv m s)
    (hstep : asyncStep env c onSuccess s (.readCompleted k) = some s') :
    ∃ g', AsyncView env c (n + 1) (h ++ s.observe c n (.readCompleted k)) s' g' w := by
  simp only [asyncStep] at hstep
  split at hstep
  swap
  · cases hstep
  next data hdata =>
  obtain ⟨client, hclient, rfl⟩ := Option.map_eq_some_iff.1 hstep
  obtain ⟨bytes, hbytes, rest, hrest⟩ := hl.filled_starts hdata
  obtain ⟨d, hd, id, v, hid, hshort, rfl, htold⟩ := hv.written bytes hbytes
  have hfirst : decodeResponse data.1 = .ok (.deliver id v) := by
    rw [hrest]
    exact decodeResponse_append id hshort rest
  cases clientMove_of_step hclient with
  | @arrive _ a _ hdec =>
      obtain ⟨_, _, haccepted⟩ := s.client.frame_answer onSuccess a
      have hobserve : s.observe c n (.readCompleted k) =
          ((s.called data.1).map fun r => .return_ (.inl r.1) (some r.2)).toList := by
        simp only [AsyncSystem.observe, hdata, Option.bind_some]
      rw [hobserve]
      have hdeliveries := fun d' (hd' : d' ∈ (s.client.answer onSuccess a).parser.deliveries) =>
        AsyncSystem.deliveries_answer hdec hd'
      cases hcalled : s.called data.1 with
      | none =>
          refine ⟨g, hv.silent rfl haccepted rfl rfl fun d' hd' => ?_⟩
          refine (hdeliveries d' hd').resolve_right fun heq => ?_
          rw [hcalled] at heq
          cases heq
      | some r =>
          obtain rfl : r = (id, v) := by
            simp only [AsyncSystem.called, hfirst, Option.ite_none_right_eq_some,
              Option.some_inj] at hcalled
            exact hcalled.2.symm
          have hreturned := hv.linearizes.return_ hd
          rw [hid] at hreturned
          obtain ⟨ms, horder, hrest⟩ := hv.order
          refine ⟨_, hreturned, List.rel_append hv.seen (.cons (.return_ htold) .nil),
            fun k' m' hmem => ?_, ⟨ms, ?_, hrest⟩, hv.written, fun d' hd' => ?_⟩
          · rcases List.mem_append.1 hmem with hmem | hmem
            · exact Nat.lt_succ_of_lt (hv.numbered k' m' hmem)
            · cases List.mem_singleton.1 hmem
          · rw [haccepted]
            exact horder.mono fun id' m' hmem => by cases List.mem_singleton.1 hmem
          · rcases hdeliveries d' hd' with hold | heq
            · exact List.mem_append_left _ (hv.delivered d' hold)
            · rw [hcalled, Option.some_inj, Prod.mk.injEq] at heq
              rw [← heq.1, ← heq.2]
              exact List.mem_append_right _ (List.mem_singleton_self _)

/-! ### The result -/

theorem LossInv.client {m : ℕ} (hl : LossInv m s) : ClientInv s.client := by
  obtain ⟨_, _, _, _, _, _, _, _, hinv⟩ := hl
  exact hinv.client

theorem LossInv.strings {m : ℕ} (hl : LossInv m s) : s.server.StringsWithin kBuffSize := by
  obtain ⟨_, _, _, _, _, _, _, _, hinv⟩ := hl
  exact hinv.strings

/-- **Every step keeps the view.** -/
theorem AsyncView.step (hv : AsyncView env c n h s g w) (hs : s.Handed) {m : ℕ} (hl : LossInv m s)
    (hstep : asyncStep env c onSuccess s i = some s') :
    ∃ g' w', AsyncView env c (n + 1) (h ++ s.observe c n i) s' g' w' := by
  cases i with
  | client i => exact ⟨g, w, hv.clientEvent hstep⟩
  | send =>
      obtain ⟨g', hv'⟩ := hv.send hs hl.client hstep
      exact ⟨g', w, hv'⟩
  | otherClient m => exact hv.otherClient hstep
  | serve =>
      obtain ⟨w', hv'⟩ := hv.serve hs hl.client hl.strings hstep
      exact ⟨g, w', hv'⟩
  | writeCompleted k =>
      simp only [asyncStep] at hstep
      split at hstep <;> cases hstep
      exact ⟨g, w, hv.silent rfl rfl rfl rfl fun _ hd => hd⟩
  | readReturned =>
      simp only [asyncStep] at hstep
      split at hstep <;> cases hstep
      exact ⟨g, w, hv.silent rfl rfl rfl rfl fun _ hd => hd⟩
  | readCompleted k =>
      obtain ⟨g', hv'⟩ := hv.readCompleted hl hstep
      exact ⟨g', w, hv'⟩

/-- **An `Async` client sees a linearizable server.**  In every run in which no connect, write or
read fails and whose reads find no more than their buffer holds, whatever is lost, whenever the
completions are handled and whatever other clients ask for in between: every callback that was
called is seen, and what is seen is a history of the server that handles one request at a time, in
which each callback is called with the value of the answer to its request.  The history is
linearizable, its object ends in the state of the server, and the requests of the client take effect
in the order in which it sent them, the last ones being those still in its pipe. -/
theorem async_client_sees_server (env : AddressText) (c : ℕ)
    (onSuccess : κ → AnyValue → ClassRepository → ClassRepository) {is : List (AsyncEvent κ)}
    (hrun : run (asyncStep env c onSuccess) .start is = some s)
    (hfits : Along (asyncStep env c onSuccess) FitsBuffer .start is) :
    (∀ d ∈ s.client.parser.deliveries, .return_ (.inl d.id) (some d.value) ∈
      runTrace (asyncStep env c onSuccess) (AsyncSystem.observe c) 0 .start is) ∧
    ∃ g w, LinearizesTo (serveRequest env) {} g w s.server ∧
      List.Forall₂ (Event.Rel (fun _ m m' => m = m') Told)
        (runTrace (asyncStep env c onSuccess) (AsyncSystem.observe c) 0 .start is) g ∧
      ∃ ids, s.client.accepted.map Prod.fst = effects ownRequests w ++ ids ∧
        ids.length = s.toServer.length := by
  have hview := invariant_history (I := fun is s =>
    Along (asyncStep env c onSuccess) FitsBuffer .start is →
      (∃ m, LossInv m s) ∧ s.Handed ∧ ∃ g w, AsyncView env c is.length
        (runTrace (asyncStep env c onSuccess) (AsyncSystem.observe c) 0 .start is) s g w)
    (fun _ => ⟨⟨0, lossInv_start⟩, rfl, [], [], asyncView_start⟩) ?_ hrun hfits
  · obtain ⟨_, _, g, w, hv⟩ := hview
    obtain ⟨ms, horder, hserver, _⟩ := hv.order
    exact ⟨hv.delivered, g, w, hv.linearizes, hv.seen, ms.map Prod.fst, horder.split,
      by rw [hserver, List.length_map, List.length_map]⟩
  · intro is i s s' hrun hview hstep hfits
    obtain ⟨hfits, hfit⟩ := (along_concat hrun).1 hfits
    obtain ⟨⟨m, hl⟩, hs, g, w, hv⟩ := hview hfits
    obtain ⟨g', w', hv'⟩ := hv.step hs hl hstep
    rw [runTrace_concat hrun hstep, List.length_append, List.length_singleton, Nat.zero_add]
    exact ⟨⟨_, hl.step hfit hstep⟩, hs.step hstep, g', w', hv'⟩

end View

/-- Of two responses in one buffer the second is lost: its call has taken effect, and does not
return. -/
theorem mergedEvents_seen :
    ∃ s, run (asyncStep default 0 ignoreValue) .start mergedEvents = some s ∧
      ∃ g w, LinearizesTo (serveRequest default) {} g w s.server ∧
        List.Forall₂ (Event.Rel (fun _ m m' => m = m') Told)
          (runTrace (asyncStep default 0 ignoreValue) (AsyncSystem.observe 0) 0 .start
            mergedEvents) g ∧
        effects ownRequests w = [1, 2] := by
  have hend : (run (asyncStep default 0 ignoreValue) .start mergedEvents).map
      (fun s => (s.client.accepted.map Prod.fst, s.toServer.length)) = some ([1, 2], 0) := by decide
  obtain ⟨s, hrun, hs⟩ := Option.map_eq_some_iff.1 hend
  rw [Prod.mk.injEq] at hs
  obtain ⟨_, g, w, hlin, hseen, ids, hids, hlen⟩ :=
    async_client_sees_server default 0 ignoreValue hrun (by decide)
  rw [hs.2] at hlen
  rw [hs.1, List.length_eq_zero_iff.1 hlen, List.append_nil] at hids
  exact ⟨s, hrun, g, w, hlin, hseen, hids.symm⟩

end NamedPipeDemo
