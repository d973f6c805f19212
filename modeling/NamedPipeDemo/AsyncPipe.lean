/-
**An `Async` client: when its reads return one response each.**

With the policy `Async` the client does not wait.  A write is issued and its completion is handled
later; the handler issues one read if the request needs a response; the read returns when there is
something to read, and the handler of its completion passes the whole buffer to `ParseResponse`,
which looks at the first frame only.  The handle of the client is in byte mode, so a read takes
whatever has been written: two responses that are written before the first read returns end up in
one buffer, and the second one is lost.

This module runs the client, its pipe and the server through any order of these steps, with other
clients at the same server, and proves that nothing is lost as long as every read that returns finds
exactly one response.

Main definitions:

* `NamedPipeDemo.AsyncSystem`, `NamedPipeDemo.asyncStep` — the client, its pipe and the server;
* `NamedPipeDemo.AsyncSystem.NothingLost` — every response that was written reached its callback;
* `NamedPipeDemo.OneResponse` — a read that returns finds one response;
* `NamedPipeDemo.Ledger`, `NamedPipeDemo.AsyncInv` — **the invariant**: every response is unread, in
  a buffer, or delivered.

Main results:

* `NamedPipeDemo.AsyncInv.step` — every step that meets the condition keeps the invariant;
* `NamedPipeDemo.async_nothing_lost` — **nothing is lost in the runs all of whose steps meet it**;
* `NamedPipeDemo.mergedResponses_lost` — two responses in one buffer.
-/

import NamedPipeDemo.Client
import NamedPipeDemo.ServerRuns

set_option relaxedAutoImplicit false
set_option autoImplicit false

namespace NamedPipeDemo

open LabelledRuns

/-! ### The system -/

/-- The server, an `Async` client, and the pipe between them: the messages on the way to the server,
the overlapped writes whose completion is not yet handled (with their `wait_for_response`), the
reads that have not returned, the bytes written to the client and not yet read, and the buffers of
the reads whose completion is not yet handled.  The last two fields are history: the responses the
server has written, and how many of them since a read last returned. -/
structure AsyncSystem (κ : Type) where
  server : ServerState := {}
  client : ClientRun κ
  toServer : List RawData := []
  writes : List Bool := []
  reads : ℕ := 0
  unread : RawData := []
  filled : List RawDataType := []
  written : List RawData := []
  fresh : ℕ := 0

/-- What happens in the system. -/
inductive AsyncEvent (κ : Type)
  /-- The client connects, reads a request, or is done. -/
  | client (i : ClientEvent κ)
  /-- The client issues the write of its request. -/
  | send
  /-- The server handles a message of another client. -/
  | otherClient (m : Incoming)
  /-- The server handles the next message of this client. -/
  | serve
  /-- The completion of a write is handled. -/
  | writeCompleted (k : ℕ)
  /-- A read returns. -/
  | readReturned
  /-- The completion of a read is handled. -/
  | readCompleted (k : ℕ)

/-- The steps of the client that do not touch its pipe. -/
def ClientEvent.isLocal {κ : Type} : ClientEvent κ → Bool
  | connect connected => connected
  | finish => true
  | readRequest _ => true
  | _ => false

section System

variable {κ : Type} (env : AddressText) (c : ℕ)
  (onSuccess : κ → AnyValue → ClassRepository → ClassRepository)

/-- **One step of the system**, in which no connect, write or read fails.  `c` is the number the
server gave the client. -/
def asyncStep (s : AsyncSystem κ) : AsyncEvent κ → Option (AsyncSystem κ)
  | .client i =>
      if i.isLocal then
        (clientStep .async onSuccess s.client i).map fun client => { s with client := client }
      else none
  | .send =>
      match s.client.pc with
      | .sending id request =>
          (clientStep .async onSuccess s.client (.send .success)).map fun client =>
            { s with
              client := client
              toServer := s.toServer ++ [frameRequest id request.data]
              writes := s.writes ++ [request.waitForResponse] }
      | _ => none
  | .otherClient m => (serverStep env s.server m).map fun w => { s with server := w }
  | .serve =>
      match s.toServer with
      | [] => none
      | data :: rest =>
          -- a message that does not fit the buffer makes `ReadFile` fail, and ends the thread
          if kBuffSize < data.length then none
          else
            match (handleClientRequest c env data).run s.server with
            | .ok response w =>
                some { s with
                  server := w
                  toServer := rest
                  unread := s.unread ++ response.getD []
                  written := s.written ++ response.toList
                  fresh := s.fresh + response.toList.length }
            | .error _ _ => none
  | .writeCompleted k =>
      match s.writes[k]? with
      | some waitForResponse =>
          some { s with
            writes := s.writes.eraseIdx k
            reads := if waitForResponse then s.reads + 1 else s.reads }
      | none => none
  | .readReturned =>
      -- a read that was issued stays open until there is something to read
      if s.reads = 0 ∨ s.unread = [] then none
      else
        some { s with
          reads := s.reads - 1
          unread := s.unread.drop kBufSize
          filled := s.filled ++ [readFile s.unread]
          fresh := 0 }
  | .readCompleted k =>
      match s.filled[k]? with
      | some data =>
          (clientStep .async onSuccess s.client (.responseArrived data)).map fun client =>
            { s with client := client, filled := s.filled.eraseIdx k }
      | none => none

/-- The client has not connected yet. -/
def AsyncSystem.start : AsyncSystem κ where
  client := .start true true

/-- The value of this response was passed once, and nothing else, to the callback of its request. -/
def AsyncSystem.Delivered (s : AsyncSystem κ) (response : RawData) : Prop :=
  ∃ id request value, decodeResponse response = .ok (.deliver id value) ∧
    (id, request) ∈ s.client.reads ∧
    s.client.parser.deliveries.filter (fun d => d.id = id) = [⟨id, request, value⟩]

/-- **Nothing is lost**: when every byte written has been handed to `ParseResponse`, every response
written was delivered. -/
def AsyncSystem.NothingLost (s : AsyncSystem κ) : Prop :=
  s.unread = [] → s.filled = [] → ∀ response ∈ s.written, s.Delivered response

/-- A read that returns finds exactly one response, and it fits the buffer. -/
def OneResponse (s : AsyncSystem κ) : AsyncEvent κ → Prop
  | .readReturned => s.fresh = 1 ∧ s.unread.length ≤ kBufSize
  | _ => True

instance (s : AsyncSystem κ) : ∀ i : AsyncEvent κ, Decidable (OneResponse s i)
  | .readReturned => inferInstanceAs (Decidable (_ ∧ _))
  | .client _ => .isTrue trivial
  | .send => .isTrue trivial
  | .otherClient _ => .isTrue trivial
  | .serve => .isTrue trivial
  | .writeCompleted _ => .isTrue trivial
  | .readCompleted _ => .isTrue trivial

end System

/-! ### The ledger -/

/-- A response: the request it answers, and the value it carries. -/
structure Reply (κ : Type) where
  id : RequestId
  request : ClientRequest κ
  value : AnyValue

section Ledger

variable {κ : Type} {env : AddressText} {c : ℕ}
  {onSuccess : κ → AnyValue → ClassRepository → ClassRepository} {s s' : AsyncSystem κ}
  {i : AsyncEvent κ} {reads reads' ms : List (RequestId × ClientRequest κ)}
  {replies replies' done buffered fresh : List (Reply κ)}

/-- The bytes of a response. -/
def Reply.bytes (r : Reply κ) : RawData := createRequestIdData r.id ++ r.value.serialize

/-- The call of `HandleSuccess` a response leads to. -/
def Reply.delivery (r : Reply κ) : Delivery κ := ⟨r.id, r.request, r.value⟩

theorem Reply.bytes_ne_nil (r : Reply κ) : r.bytes ≠ [] :=
  List.append_ne_nil_of_left_ne_nil (List.append_ne_nil_of_left_ne_nil (by decide) _) _

/-- The responses written so far and the messages on the way belong to distinct requests. -/
structure Ledger (reads ms : List (RequestId × ClientRequest κ)) (replies : List (Reply κ)) :
    Prop where
  nodup : (replies.map Reply.id ++ ms.map Prod.fst).Nodup
  message : ∀ m ∈ ms, m ∈ reads
  reply : ∀ r ∈ replies, (r.id, r.request) ∈ reads
  short : ∀ r ∈ replies, r.value.Short

/-- It does not matter where the responses are. -/
theorem Ledger.perm (h : Ledger reads ms replies) (hperm : replies.Perm replies') :
    Ledger reads ms replies' where
  nodup := ((hperm.map Reply.id).append_right _).nodup_iff.1 h.nodup
  message := h.message
  reply r hr := h.reply r (hperm.mem_iff.2 hr)
  short r hr := h.short r (hperm.mem_iff.2 hr)

/-- The client may read more requests. -/
theorem Ledger.mono (h : Ledger reads ms replies) (hreads : ∀ x ∈ reads, x ∈ reads') :
    Ledger reads' ms replies where
  nodup := h.nodup
  message m hm := hreads m (h.message m hm)
  reply r hr := hreads _ (h.reply r hr)
  short := h.short

/-- A request that is new to the ledger is sent. -/
theorem Ledger.send (h : Ledger reads ms replies) {id : RequestId} {request : ClientRequest κ}
    (hread : (id, request) ∈ reads) (hreply : id ∉ replies.map Reply.id)
    (hmessage : id ∉ ms.map Prod.fst) : Ledger reads (ms ++ [(id, request)]) replies where
  nodup := by
    rw [List.map_append, ← List.append_assoc, List.nodup_append]
    refine ⟨h.nodup, List.nodup_singleton _, ?_⟩
    rintro x hx _ hlast rfl
    rw [List.mem_singleton.1 hlast] at hx
    exact (List.mem_append.1 hx).elim hreply hmessage
  message m hm := by
    rcases List.mem_append.1 hm with hm | hm
    · exact h.message m hm
    · rw [List.mem_singleton.1 hm]
      exact hread
  reply := h.reply
  short := h.short

/-- A message is served without a response. -/
theorem Ledger.serve {m : RequestId × ClientRequest κ} (h : Ledger reads (m :: ms) replies) :
    Ledger reads ms replies where
  nodup := h.nodup.sublist ((List.Sublist.refl _).append (List.sublist_cons_self _ _))
  message m' hm := h.message m' (List.mem_cons_of_mem _ hm)
  reply := h.reply
  short := h.short

/-- A message is served with a response. -/
theorem Ledger.answer {id : RequestId} {request : ClientRequest κ}
    (h : Ledger reads ((id, request) :: ms) replies) {v : AnyValue} (hv : v.Short) :
    Ledger reads ms (⟨id, request, v⟩ :: replies) where
  nodup := by
    have hmiddle : (replies.map Reply.id ++ id :: ms.map Prod.fst).Nodup := h.nodup
    exact List.nodup_middle.1 hmiddle
  message m hm := h.message m (List.mem_cons_of_mem _ hm)
  reply r hr := by
    rcases List.mem_cons.1 hr with rfl | hr
    · exact h.message _ List.mem_cons_self
    · exact h.reply r hr
  short r hr := by
    rcases List.mem_cons.1 hr with rfl | hr
    · exact hv
    · exact h.short r hr

/-- The calls for one request, when no two responses belong to one. -/
theorem filter_delivery (hnodup : (replies.map Reply.id).Nodup) {r : Reply κ} (hr : r ∈ replies) :
    (replies.map Reply.delivery).filter (fun d => d.id = r.id) = [r.delivery] := by
  induction replies with
  | nil => exact absurd hr List.not_mem_nil
  | cons r' rest ih =>
      rw [List.map_cons, List.nodup_cons] at hnodup
      rw [List.map_cons, List.filter_cons]
      rcases List.mem_cons.1 hr with rfl | hr
      · have hnone : (rest.map Reply.delivery).filter (fun d => d.id = r.id) = [] := by
          rw [List.filter_eq_nil_iff]
          intro d hd
          obtain ⟨r', hr', rfl⟩ := List.mem_map.1 hd
          rw [decide_eq_true_eq]
          exact fun heq => hnodup.1 (heq ▸ List.mem_map_of_mem hr')
        rw [hnone]
        simp [Reply.delivery]
      · have hne : r'.id ≠ r.id := fun heq => hnodup.1 (heq ▸ List.mem_map_of_mem hr)
        rw [if_neg (by simp [Reply.delivery, hne])]
        exact ih hnodup.2 hr

/-! ### The invariant -/

/-- **Every response the server has written is unread, in a buffer of its own, or delivered.** -/
structure AsyncInv (s : AsyncSystem κ) (ms : List (RequestId × ClientRequest κ))
    (done buffered fresh : List (Reply κ)) : Prop where
  client : ClientInv s.client
  strings : s.server.StringsWithin kBuffSize
  ledger : Ledger s.client.reads ms (done ++ (buffered ++ fresh))
  sending : ∀ id request, s.client.pc = .sending id request → (id, request) ∈ s.client.reads ∧
    id ∉ (done ++ (buffered ++ fresh)).map Reply.id ∧ id ∉ ms.map Prod.fst
  toServer : s.toServer = ms.map fun m => frameRequest m.1 m.2.data
  deliveries : s.client.parser.deliveries = done.map Reply.delivery
  answered : s.client.answered = done.map Reply.id
  filled : (s.filled.map fun data : RawDataType => data.1) = buffered.map Reply.bytes
  unread : s.unread = (fresh.map Reply.bytes).flatten
  count : s.fresh = fresh.length
  written : s.written.Perm ((done ++ (buffered ++ fresh)).map Reply.bytes)

theorem asyncInv_start : AsyncInv (AsyncSystem.start : AsyncSystem κ) [] [] [] [] where
  client := clientInv_start true true
  strings := ServerState.stringsWithin_start _
  ledger := ⟨List.nodup_nil, fun _ h => absurd h List.not_mem_nil,
    fun _ h => absurd h List.not_mem_nil, fun _ h => absurd h List.not_mem_nil⟩
  sending id request h := by cases h
  toServer := rfl
  deliveries := rfl
  answered := rfl
  filled := rfl
  unread := rfl
  count := rfl
  written := List.Perm.nil

/-- An id in the ledger was assigned. -/
theorem AsyncInv.notMem_of_fresh (h : AsyncInv s ms done buffered fresh) {id : RequestId}
    (hid : id ∉ s.client.readIds) :
    id ∉ (done ++ (buffered ++ fresh)).map Reply.id ∧ id ∉ ms.map Prod.fst := by
  constructor
  · intro hmem
    obtain ⟨r, hr, rfl⟩ := List.mem_map.1 hmem
    exact hid (List.mem_map_of_mem (h.ledger.reply r hr))
  · intro hmem
    obtain ⟨m, hm, rfl⟩ := List.mem_map.1 hmem
    exact hid (List.mem_map_of_mem (h.ledger.message m hm))

/-- The client reads requests and connects. -/
theorem AsyncInv.clientEvent (h : AsyncInv s ms done buffered fresh) {i : ClientEvent κ}
    (hstep : asyncStep env c onSuccess s (.client i) = some s') :
    AsyncInv s' ms done buffered fresh := by
  simp only [asyncStep] at hstep
  split at hstep
  swap
  · cases hstep
  next hlocal =>
  obtain ⟨client, hclient, rfl⟩ := Option.map_eq_some_iff.1 hstep
  have hinv := h.client.step hclient
  cases clientMove_of_step hclient with
  | @connect connected n hpc =>
      have hconnected : connected = true := hlocal
      subst hconnected
      exact { h with client := hinv, sending := fun _ _ hsending => by cases hsending }
  | finish hpc =>
      exact { h with client := hinv, sending := fun _ _ hsending => by cases hsending }
  | skip hpc hdata => exact h
  | @register request hpc hdata hcounter =>
      have hdeliveries : (s.client.register request).parser.deliveries =
          s.client.parser.deliveries := by
        simp only [ClientRun.register, ClientState.registerRequest]
        split <;> rfl
      have hsending : ∀ id request', (s.client.register request).pc = .sending id request' →
          (id, request') ∈ (s.client.register request).reads ∧
            id ∉ (done ++ (buffered ++ fresh)).map Reply.id ∧ id ∉ ms.map Prod.fst := by
        intro id request' hsending
        cases hsending
        exact ⟨List.mem_append_right _ (List.mem_singleton_self _),
          h.notMem_of_fresh (h.client.next_notMem hcounter)⟩
      exact { h with
        client := hinv
        ledger := h.ledger.mono fun x hx => List.mem_append_left _ hx
        sending := hsending
        deliveries := hdeliveries.trans h.deliveries }
  | send hpc => cases hlocal
  | readFailed hpc => cases hlocal
  | read hpc hdec => cases hlocal
  | arrive hasync hdec => cases hlocal

/-- The client issues a write. -/
theorem AsyncInv.send (h : AsyncInv s ms done buffered fresh)
    (hstep : asyncStep env c onSuccess s .send = some s') :
    ∃ ms', AsyncInv s' ms' done buffered fresh := by
  simp only [asyncStep] at hstep
  split at hstep
  swap
  · cases hstep
  next id request hpc =>
  obtain ⟨client, hclient, rfl⟩ := Option.map_eq_some_iff.1 hstep
  have hinv := h.client.step hclient
  obtain ⟨hread, hreply, hmessage⟩ := h.sending id request hpc
  cases clientMove_of_step hclient with
  | @send _ id' request' hpc' =>
      rw [hpc, ClientPc.sending.injEq] at hpc'
      obtain ⟨rfl, rfl⟩ := hpc'
      refine ⟨ms ++ [(id, request)], hinv, h.strings, h.ledger.send hread hreply hmessage, ?_, ?_,
        h.deliveries, h.answered, h.filled, h.unread, h.count, h.written⟩
      · intro id' request' hsending
        cases hsending
      · rw [List.map_append, ← h.toServer]
        rfl

/-- The server handles a message of another client. -/
theorem AsyncInv.otherClient (h : AsyncInv s ms done buffered fresh) {m : Incoming}
    (hstep : asyncStep env c onSuccess s (.otherClient m) = some s') :
    AsyncInv s' ms done buffered fresh := by
  obtain ⟨w, hw, rfl⟩ := Option.map_eq_some_iff.1 hstep
  have hstrings : w.StringsWithin kBuffSize := h.strings.serverStep (Nat.sub_le _ _) hw
  exact { h with strings := hstrings }

/-- The request the client is about to send is not among the messages that are left. -/
theorem AsyncInv.sending_tail {m : RequestId × ClientRequest κ}
    (h : AsyncInv s (m :: ms) done buffered fresh) {id : RequestId} {request : ClientRequest κ}
    (hpc : s.client.pc = .sending id request) :
    (id, request) ∈ s.client.reads ∧ id ∉ (done ++ (buffered ++ fresh)).map Reply.id ∧
      id ≠ m.1 ∧ id ∉ ms.map Prod.fst := by
  obtain ⟨hread, hreply, hmessage⟩ := h.sending id request hpc
  rw [List.map_cons, List.mem_cons, not_or] at hmessage
  exact ⟨hread, hreply, hmessage⟩

/-- The server takes a message and sends nothing back. -/
theorem AsyncInv.silent {m : RequestId × ClientRequest κ}
    (h : AsyncInv s (m :: ms) done buffered fresh) {w : ServerState}
    (hw : w.StringsWithin kBuffSize) :
    AsyncInv { s with server := w, toServer := ms.map fun m => frameRequest m.1 m.2.data } ms done
      buffered fresh := by
  have hsending : ∀ id request, s.client.pc = .sending id request →
      (id, request) ∈ s.client.reads ∧ id ∉ (done ++ (buffered ++ fresh)).map Reply.id ∧
        id ∉ ms.map Prod.fst := by
    intro id request hpc
    obtain ⟨hread, hreply, _, hmessage⟩ := h.sending_tail hpc
    exact ⟨hread, hreply, hmessage⟩
  exact { h with strings := hw, ledger := h.ledger.serve, sending := hsending, toServer := rfl }

/-- The server takes a message and writes its response, which joins the unread ones. -/
theorem AsyncInv.reply {id : RequestId} {request : ClientRequest κ}
    (h : AsyncInv s ((id, request) :: ms) done buffered fresh) {w : ServerState}
    (hw : w.StringsWithin kBuffSize) {v : AnyValue} (hv : v.Short) :
    AsyncInv { s with
      server := w
      toServer := ms.map fun m => frameRequest m.1 m.2.data
      unread := s.unread ++ (createRequestIdData id ++ v.serialize)
      written := s.written ++ [createRequestIdData id ++ v.serialize]
      fresh := s.fresh + 1 } ms done buffered (fresh ++ [⟨id, request, v⟩]) := by
  have hperm : (⟨id, request, v⟩ :: (done ++ (buffered ++ fresh))).Perm
      (done ++ (buffered ++ (fresh ++ [⟨id, request, v⟩]))) := by
    rw [← List.append_assoc, ← List.append_assoc, ← List.append_assoc]
    exact (List.perm_append_singleton _ _).symm
  refine ⟨h.client, hw, (h.ledger.answer hv).perm hperm, ?_, rfl, h.deliveries, h.answered,
    h.filled, ?_, ?_, ?_⟩
  · intro id' request' hpc
    obtain ⟨hread, hreply, hne, hmessage⟩ := h.sending_tail hpc
    refine ⟨hread, fun hmem => ?_, hmessage⟩
    rcases List.mem_cons.1 ((hperm.map Reply.id).mem_iff.2 hmem) with heq | hmem
    · exact hne heq
    · exact hreply hmem
  · rw [h.unread, List.map_append, List.flatten_append]
    simp only [List.map_cons, List.map_nil, List.flatten_cons, List.flatten_nil, List.append_nil]
    rfl
  · rw [h.count, List.length_append, List.length_singleton]
  · refine List.Perm.trans ?_ (hperm.map Reply.bytes)
    refine (List.perm_append_singleton _ _).trans ?_
    exact List.Perm.cons _ h.written

/-- The server handles the next message of the client. -/
theorem AsyncInv.serve (h : AsyncInv s ms done buffered fresh)
    (hstep : asyncStep env c onSuccess s .serve = some s') :
    ∃ ms' fresh', AsyncInv s' ms' done buffered fresh' := by
  have hserver := h.toServer
  cases ms with
  | nil =>
      simp only [asyncStep, hserver, List.map_nil] at hstep
      cases hstep
  | cons m ms =>
      obtain ⟨id, request⟩ := m
      simp only [asyncStep, hserver, List.map_cons] at hstep
      split at hstep
      · cases hstep
      next hlen =>
      rw [handleClientRequest_eq] at hstep
      cases hd : decodeRequest s.server.known (frameRequest id request.data) with
      | error e =>
          rw [hd] at hstep
          cases hstep
      | ok r =>
          obtain ⟨id', a⟩ := r
          have hid : id' = id := id_of_decodeRequest_frame (le_maxSize_of_le (Nat.not_lt.1 hlen)) hd
          subst hid
          simp only [hd, Option.some.injEq] at hstep
          have hstrings : (a.perform s.server).StringsWithin kBuffSize :=
            h.strings.perform
              ((action_of_decodeRequest (Nat.not_lt.1 hlen) hd).2.trans (Nat.sub_le _ _))
          cases hv : a.responseValue env s.server with
          | none =>
              simp only [hv, Option.map_none, Option.getD_none, List.append_nil,
                Option.toList_none, List.length_nil, Nat.add_zero] at hstep
              subst hstep
              exact ⟨ms, fresh, h.silent hstrings⟩
          | some v =>
              simp only [hv, Option.map_some, Option.getD_some, Option.toList_some,
                List.length_singleton] at hstep
              subst hstep
              have hshort : v.Short := by
                have hresponse := h.strings.length_response_le hv
                rw [kBuffSize] at hresponse
                exact v.short_of_length (by omega)
              exact ⟨ms, _, h.reply hstrings hshort⟩

/-- The completion of a write is handled. -/
theorem AsyncInv.writeCompleted (h : AsyncInv s ms done buffered fresh) {k : ℕ}
    (hstep : asyncStep env c onSuccess s (.writeCompleted k) = some s') :
    AsyncInv s' ms done buffered fresh := by
  simp only [asyncStep] at hstep
  split at hstep
  · cases hstep
    exact ⟨h.client, h.strings, h.ledger, h.sending, h.toServer, h.deliveries, h.answered, h.filled,
      h.unread, h.count, h.written⟩
  · cases hstep

/-- A read returns one response, which is all there is to read. -/
theorem AsyncInv.readReturned (h : AsyncInv s ms done buffered fresh)
    (hone : OneResponse s .readReturned)
    (hstep : asyncStep env c onSuccess s .readReturned = some s') :
    ∃ buffered', AsyncInv s' ms done buffered' [] := by
  obtain ⟨hcount, hfits⟩ := hone
  simp only [asyncStep] at hstep
  split at hstep
  · cases hstep
  cases hstep
  rw [h.count] at hcount
  obtain ⟨r, rfl⟩ := List.length_eq_one_iff.1 hcount
  have hunread : s.unread = r.bytes := by
    rw [h.unread]
    exact List.append_nil _
  have hread : (readFile s.unread).1 = r.bytes := by
    rw [← hunread]
    exact List.take_of_length_le hfits
  have hplace : done ++ ((buffered ++ [r]) ++ []) = done ++ (buffered ++ [r]) := by
    rw [List.append_nil]
  refine ⟨buffered ++ [r], h.client, h.strings, by rw [hplace]; exact h.ledger, ?_, h.toServer,
    h.deliveries, h.answered, ?_, List.drop_of_length_le hfits, rfl,
    by rw [hplace]; exact h.written⟩
  · rw [hplace]
    exact h.sending
  · simp only [List.map_append, h.filled, List.map_cons, List.map_nil, hread]

/-- The completion of a read is handled: the response in its buffer is delivered. -/
theorem AsyncInv.readCompleted (h : AsyncInv s ms done buffered fresh) {k : ℕ}
    (hstep : asyncStep env c onSuccess s (.readCompleted k) = some s') :
    ∃ done' buffered', AsyncInv s' ms done' buffered' fresh := by
  simp only [asyncStep] at hstep
  split at hstep
  swap
  · cases hstep
  next data hdata =>
  obtain ⟨client, hclient, rfl⟩ := Option.map_eq_some_iff.1 hstep
  -- the buffer holds one response
  have hbytes : (buffered.map Reply.bytes)[k]? = some data.1 := by
    rw [← h.filled, List.getElem?_map, hdata]
    rfl
  rw [List.getElem?_map] at hbytes
  obtain ⟨r, hr, hdatar⟩ := Option.map_eq_some_iff.1 hbytes
  obtain ⟨hk, hrk⟩ := List.getElem?_eq_some_iff.1 hr
  have hpick : (r :: buffered.eraseIdx k).Perm buffered := by
    rw [← hrk]
    exact List.getElem_cons_eraseIdx_perm hk
  have hperm : (done ++ (buffered ++ fresh)).Perm
      ((r :: done) ++ (buffered.eraseIdx k ++ fresh)) := by
    refine ((hpick.symm.append_right fresh).append_left done).trans ?_
    exact List.perm_middle
  have hledger := h.ledger.perm hperm
  -- its request is still in the table
  have hopen : r.id ∉ s.client.answered := by
    rw [h.answered]
    have hnodup := hledger.nodup.of_append_left
    rw [List.map_append, List.map_cons] at hnodup
    exact (List.nodup_cons.1 hnodup.of_append_left).1
  have hread := hledger.reply r (List.mem_append_left _ List.mem_cons_self)
  have hlookup := h.client.lookup hread hopen
  have hdec : decodeResponse data.1 = .ok (.deliver r.id r.value) := by
    rw [← hdatar]
    exact decodeResponse_serialize r.id
      (hledger.short r (List.mem_append_left _ List.mem_cons_self))
  have hinv := h.client.step hclient
  cases clientMove_of_step hclient with
  | @arrive _ a _ hdec' =>
      rw [hdec, Except.ok.injEq] at hdec'
      subst hdec'
      have hid : r.id ∈ s.client.readIds := List.mem_map_of_mem hread
      have hclient' : s.client.answer onSuccess (.deliver r.id r.value) =
          { s.client with
            answered := r.id :: s.client.answered
            parser := s.client.parser.notify onSuccess r.id r.value } := by
        simp only [ClientRun.answer, ClientRun.record, if_pos hid, ResponseAction.perform]
      rw [hclient'] at hinv ⊢
      refine ⟨r :: done, buffered.eraseIdx k, hinv, h.strings, hledger, ?_, h.toServer, ?_, ?_, ?_,
        h.unread, h.count, h.written.trans (hperm.map Reply.bytes)⟩
      · intro id request hpc
        obtain ⟨hread', hreply, hmessage⟩ := h.sending id request hpc
        exact ⟨hread', fun hmem => hreply ((hperm.map Reply.id).mem_iff.2 hmem), hmessage⟩
      · simp only [ClientState.notify, hlookup, h.deliveries, List.map_cons]
        rfl
      · simp only [h.answered, List.map_cons]
      · rw [← List.eraseIdx_map, ← List.eraseIdx_map, h.filled]

/-- **Every step that meets the condition keeps the invariant.** -/
theorem AsyncInv.step (h : AsyncInv s ms done buffered fresh) (hone : OneResponse s i)
    (hstep : asyncStep env c onSuccess s i = some s') :
    ∃ ms' done' buffered' fresh', AsyncInv s' ms' done' buffered' fresh' := by
  cases i with
  | client i => exact ⟨_, _, _, _, h.clientEvent hstep⟩
  | send =>
      obtain ⟨ms', h'⟩ := h.send hstep
      exact ⟨_, _, _, _, h'⟩
  | otherClient m => exact ⟨_, _, _, _, h.otherClient hstep⟩
  | serve =>
      obtain ⟨ms', fresh', h'⟩ := h.serve hstep
      exact ⟨_, _, _, _, h'⟩
  | writeCompleted k => exact ⟨_, _, _, _, h.writeCompleted hstep⟩
  | readReturned =>
      obtain ⟨buffered', h'⟩ := h.readReturned hone hstep
      exact ⟨_, _, _, _, h'⟩
  | readCompleted k =>
      obtain ⟨done', buffered', h'⟩ := h.readCompleted hstep
      exact ⟨_, _, _, _, h'⟩

/-- When nothing is unread and no buffer is left, every response is delivered. -/
theorem AsyncInv.nothingLost (h : AsyncInv s ms done buffered fresh) : s.NothingLost := by
  intro hunread hfilled response hresponse
  have hfresh : fresh = [] := by
    cases fresh with
    | nil => rfl
    | cons r rest =>
        have hempty := h.unread.symm.trans hunread
        rw [List.map_cons, List.flatten_cons] at hempty
        exact absurd (List.append_eq_nil_iff.1 hempty).1 r.bytes_ne_nil
  have hbuffered : buffered = [] := by
    have hempty := h.filled
    rw [hfilled] at hempty
    exact List.map_eq_nil_iff.1 hempty.symm
  subst hfresh hbuffered
  have hmem := h.written.mem_iff.1 hresponse
  rw [List.append_nil, List.append_nil] at hmem
  obtain ⟨r, hr, rfl⟩ := List.mem_map.1 hmem
  have hledger := h.ledger
  rw [List.append_nil, List.append_nil] at hledger
  refine ⟨r.id, r.request, r.value, decodeResponse_serialize r.id (hledger.short r hr),
    hledger.reply r hr, ?_⟩
  rw [h.deliveries]
  exact filter_delivery hledger.nodup.of_append_left hr

/-- **No response is lost or merged in the runs in which every read that returns finds one
response**: once every byte the server wrote has been handed to `ParseResponse`, the value of each
response was passed exactly once to the callback of its request. -/
theorem async_nothing_lost (env : AddressText) (c : ℕ)
    (onSuccess : κ → AnyValue → ClassRepository → ClassRepository) (is : List (AsyncEvent κ))
    (s : AsyncSystem κ) (hrun : run (asyncStep env c onSuccess) .start is = some s)
    (hone : Along (asyncStep env c onSuccess) OneResponse .start is) : s.NothingLost := by
  have hinv : ∃ ms done buffered fresh, AsyncInv s ms done buffered fresh := by
    refine invariant_along (I := fun s : AsyncSystem κ =>
      ∃ ms done buffered fresh, AsyncInv s ms done buffered fresh) ?_
      ⟨_, _, _, _, asyncInv_start⟩ hone hrun
    rintro s i s' ⟨_, _, _, _, h⟩ hC hstep
    exact h.step hC hstep
  obtain ⟨_, _, _, _, h⟩ := hinv
  exact h.nothingLost

end Ledger

/-- A request that creates an object and waits for its handle. -/
def createRequest : ClientRequest Unit :=
  { data := createObjectRequest [], waitForResponse := true, successCallback := some () }

/-- Two requests are on the way before the first one is served; their responses are read one at a
time, and the completions of the reads are handled in reverse order. -/
def oneResponseEvents : List (AsyncEvent Unit) :=
  [.client (.connect true), .client (.readRequest createRequest), .send,
    .client (.readRequest createRequest), .send, .writeCompleted 0, .writeCompleted 0,
    .serve, .readReturned, .serve, .readReturned, .readCompleted 1, .readCompleted 0]

/-- Each response is read alone, and both are delivered. -/
theorem oneResponseEvents_delivered :
    ∃ s, run (asyncStep default 0 ignoreValue) .start oneResponseEvents = some s ∧
      s.written.length = 2 ∧ ∀ response ∈ s.written, s.Delivered response := by
  have hend : (run (asyncStep default 0 ignoreValue) .start oneResponseEvents).map
      (fun s => (s.written.length, s.unread, s.filled.length)) = some (2, [], 0) := by decide
  obtain ⟨s, hrun, hs⟩ := Option.map_eq_some_iff.1 hend
  simp only [Prod.mk.injEq] at hs
  obtain ⟨hwritten, hunread, hfilled⟩ := hs
  have hnone := async_nothing_lost default 0 ignoreValue _ s hrun (by decide)
  exact ⟨s, hrun, hwritten, hnone hunread (List.length_eq_zero_iff.1 hfilled)⟩

/-- Two requests are answered before the first read is issued. -/
def mergedEvents : List (AsyncEvent Unit) :=
  [.client (.connect true), .client (.readRequest createRequest), .send,
    .client (.readRequest createRequest), .send, .serve, .serve, .writeCompleted 0,
    .writeCompleted 0, .readReturned, .readCompleted 0]

/-- The read takes both responses, and the second one is lost. -/
theorem mergedResponses_lost :
    ∃ s, run (asyncStep default 0 ignoreValue) .start mergedEvents = some s ∧ ¬ s.NothingLost := by
  have hend : (run (asyncStep default 0 ignoreValue) .start mergedEvents).map
      (fun s => (s.unread, s.filled.length, s.client.parser.deliveries.map Delivery.id,
        s.written)) = some ([], 0, [1], [createRequestIdData 1 ++ serializeInt 0,
          createRequestIdData 2 ++ serializeInt 1]) := by decide
  obtain ⟨s, hrun, hs⟩ := Option.map_eq_some_iff.1 hend
  simp only [Prod.mk.injEq] at hs
  obtain ⟨hunread, hfilled, hids, hwritten⟩ := hs
  refine ⟨s, hrun, fun hnone => ?_⟩
  have hsecond : createRequestIdData 2 ++ serializeInt 1 ∈ s.written := by
    rw [hwritten]
    exact List.mem_cons_of_mem _ List.mem_cons_self
  obtain ⟨id, request, value, hdec, _, hfilter⟩ :=
    hnone hunread (List.length_eq_zero_iff.1 hfilled) _ hsecond
  have hid : id = 2 := by
    have htwo := decodeResponse_serialize 2 (v := .int 1) trivial
    rw [AnyValue.serialize] at htwo
    rw [htwo] at hdec
    cases hdec
    rfl
  have hmem : (⟨id, request, value⟩ : Delivery Unit) ∈ s.client.parser.deliveries :=
    (List.mem_filter.1 (hfilter ▸ List.mem_singleton_self _)).1
  have hone := List.mem_map_of_mem (f := Delivery.id) hmem
  rw [hids, List.mem_singleton] at hone
  rw [hid] at hone
  cases hone

end NamedPipeDemo
