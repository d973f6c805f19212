/-
**How many responses an `Async` client loses.**

A buffer is handed to `ParseResponse` as a whole, and `ParseResponse` looks at the first frame only.
So every read that returns delivers one response, and loses all the others that were written since
the last one.  This module proves the account to be exact: as long as a read finds no more than the
buffer holds, the responses written are those delivered and those that came second or later in a
buffer, and nothing is lost exactly when no read finds more than one.

The argument compares the run with an ideal one, in which every response has a buffer of its own and
the buffers of the lost ones are never handled.

Main definitions:

* `NamedPipeDemo.FitsBuffer` — a read that returns finds no more than the buffer holds;
* `NamedPipeDemo.mergedResponses` — the responses a read takes along with the first one;
* `NamedPipeDemo.LossInv` — **the invariant**: the ideal buffers, and how many are never handled.

Main results:

* `NamedPipeDemo.LossInv.step` — every step keeps the account;
* `NamedPipeDemo.async_loss_exact` — **the responses lost are exactly those merged.**
-/

import NamedPipeDemo.AsyncPipe

set_option relaxedAutoImplicit false
set_option autoImplicit false

namespace NamedPipeDemo

open LabelledRuns Segment

/-! ### What a read loses -/

section Account

variable {κ : Type}

/-- A read that returns finds no more than its buffer holds. -/
def FitsBuffer (s : AsyncSystem κ) : AsyncEvent κ → Prop
  | .readReturned => s.unread.length ≤ kBufSize
  | _ => True

instance (s : AsyncSystem κ) : ∀ i : AsyncEvent κ, Decidable (FitsBuffer s i)
  | .readReturned => inferInstanceAs (Decidable (_ ≤ _))
  | .client _ => .isTrue trivial
  | .send => .isTrue trivial
  | .otherClient _ => .isTrue trivial
  | .serve => .isTrue trivial
  | .writeCompleted _ => .isTrue trivial
  | .readCompleted _ => .isTrue trivial

/-- The responses that a read takes along with the first one. -/
def mergedResponses (s : AsyncSystem κ) : AsyncEvent κ → ℕ
  | .readReturned => s.fresh - 1
  | _ => 0

end Account

/-! ### The ideal buffers -/

section Loss

variable {κ : Type} {env : AddressText} {c : ℕ}
  {onSuccess : κ → AnyValue → ClassRepository → ClassRepository} {s s' : AsyncSystem κ}
  {i : AsyncEvent κ} {ms : List (RequestId × ClientRequest κ)}
  {done buffered fresh buffered' fresh' : List (Reply κ)} {n : ℕ}

/-- A buffer that starts with this one. -/
def StartsWith (data first : RawDataType) : Prop := ∃ rest, data.1 = first.1 ++ rest

/-- **The invariant.**  With the buffers replaced by ones that hold one response each, the first of
every buffer and `n` others that are never handled, the system is one in which nothing is lost. -/
def LossInv (n : ℕ) (s : AsyncSystem κ) : Prop :=
  ∃ firsts lost : List RawDataType, lost.length = n ∧ List.Forall₂ StartsWith s.filled firsts ∧
    ∃ ms done buffered fresh, AsyncInv { s with filled := firsts ++ lost } ms done buffered fresh

theorem lossInv_start : LossInv 0 (AsyncSystem.start : AsyncSystem κ) :=
  ⟨[], [], rfl, .nil, [], [], [], [], asyncInv_start⟩

/-- Responses move from the pipe into buffers. -/
theorem AsyncInv.rebuffer (h : AsyncInv s ms done buffered fresh)
    (hperm : (buffered ++ fresh).Perm (buffered' ++ fresh')) (hclient : s'.client = s.client)
    (hserver : s'.server = s.server) (htoServer : s'.toServer = s.toServer)
    (hwritten : s'.written = s.written)
    (hfilled : (s'.filled.map fun data : RawDataType => data.1) = buffered'.map Reply.bytes)
    (hunread : s'.unread = (fresh'.map Reply.bytes).flatten) (hcount : s'.fresh = fresh'.length) :
    AsyncInv s' ms done buffered' fresh' := by
  have hall : (done ++ (buffered ++ fresh)).Perm (done ++ (buffered' ++ fresh')) :=
    hperm.append_left done
  refine ⟨by rw [hclient]; exact h.client, by rw [hserver]; exact h.strings, ?_, ?_,
    by rw [htoServer]; exact h.toServer, by rw [hclient]; exact h.deliveries,
    by rw [hclient]; exact h.answered, hfilled, hunread, hcount, ?_⟩
  · rw [hclient]
    exact h.ledger.perm hall
  · intro id request hpc
    rw [hclient] at hpc ⊢
    obtain ⟨hread, hreply, hmessage⟩ := h.sending id request hpc
    exact ⟨hread, fun hmem => hreply ((hall.map Reply.id).mem_iff.2 hmem), hmessage⟩
  · rw [hwritten]
    exact h.written.trans (hall.map Reply.bytes)

/-- Every response of a list gets a buffer. -/
theorem exists_buffers {replies : List (Reply κ)} (h : ∀ r ∈ replies, r.bytes.length ≤ maxSize) :
    ∃ buffers : List RawDataType,
      (buffers.map fun data : RawDataType => data.1) = replies.map Reply.bytes := by
  induction replies with
  | nil => exact ⟨[], rfl⟩
  | cons r replies ih =>
      obtain ⟨buffers, hbuffers⟩ := ih fun r' hr' => h r' (List.mem_cons_of_mem _ hr')
      exact ⟨⟨r.bytes, h r List.mem_cons_self⟩ :: buffers, congrArg (List.cons r.bytes) hbuffers⟩

/-! ### Steps -/

/-- A step that is no read does not look at the buffers. -/
theorem asyncStep_filled (filled : List RawDataType) (hreturned : i ≠ .readReturned)
    (hcompleted : ∀ k, i ≠ .readCompleted k)
    (hstep : asyncStep env c onSuccess s i = some s') :
    s'.filled = s.filled ∧ asyncStep env c onSuccess { s with filled := filled } i =
      some { s' with filled := filled } := by
  cases i with
  | client i =>
      simp only [asyncStep] at hstep ⊢
      split at hstep
      swap
      · cases hstep
      next hlocal =>
      obtain ⟨client, hclient, rfl⟩ := Option.map_eq_some_iff.1 hstep
      exact ⟨rfl, by rw [if_pos hlocal, hclient]; rfl⟩
  | send =>
      simp only [asyncStep] at hstep ⊢
      split at hstep
      swap
      · cases hstep
      obtain ⟨client, hclient, rfl⟩ := Option.map_eq_some_iff.1 hstep
      exact ⟨rfl, by rw [hclient]; rfl⟩
  | otherClient m =>
      simp only [asyncStep] at hstep ⊢
      obtain ⟨w, hw, rfl⟩ := Option.map_eq_some_iff.1 hstep
      exact ⟨rfl, by rw [hw]; rfl⟩
  | serve =>
      simp only [asyncStep] at hstep ⊢
      split at hstep
      · cases hstep
      split at hstep
      · cases hstep
      next hlen =>
      split at hstep <;> cases hstep
      exact ⟨rfl, if_neg hlen⟩
  | writeCompleted k =>
      simp only [asyncStep] at hstep ⊢
      split at hstep <;> cases hstep
      exact ⟨rfl, rfl⟩
  | readReturned => exact absurd rfl hreturned
  | readCompleted k => exact absurd rfl (hcompleted k)

/-- A step that is no read keeps the ideal buffers. -/
theorem LossInv.keep (h : LossInv n s) (hstep : asyncStep env c onSuccess s i = some s')
    (hreturned : i ≠ .readReturned) (hcompleted : ∀ k, i ≠ .readCompleted k) :
    LossInv n s' := by
  obtain ⟨firsts, lost, hn, hfirsts, _, _, _, _, hinv⟩ := h
  obtain ⟨hfilled, hideal⟩ := asyncStep_filled (firsts ++ lost) hreturned hcompleted hstep
  have hone : OneResponse { s with filled := firsts ++ lost } i := by
    cases i <;> first | exact trivial | exact absurd rfl hreturned
  exact ⟨firsts, lost, hn, by rwa [hfilled], hinv.step hone hideal⟩

/-- What starts with a response is decoded as that response. -/
theorem decodeResponse_append (id : RequestId) {v : AnyValue} (hshort : v.Short) (rest : RawData) :
    decodeResponse ((createRequestIdData id ++ v.serialize) ++ rest) = .ok (.deliver id v) := by
  have hat := hasAt_self (createRequestIdData id ++ (v.serialize ++ rest))
  obtain ⟨hframe, hbehind⟩ := hasAt_append_iff.1 hat
  rw [length_createRequestIdData] at hbehind
  rw [List.append_assoc]
  exact decodeResponse_framed hframe (valueAt_of_hasAt hshort (hasAt_append_iff.1 hbehind).1)

/-- **A read returns**: its first response gets a buffer that will be handled, the others do not. -/
theorem LossInv.readReturned (h : LossInv n s) (hfits : s.unread.length ≤ kBufSize)
    (hstep : asyncStep env c onSuccess s .readReturned = some s') :
    LossInv (n + (s.fresh - 1)) s' := by
  obtain ⟨firsts, lost, hn, hfirsts, ms, done, buffered, fresh, hinv⟩ := h
  simp only [asyncStep] at hstep
  split at hstep
  · cases hstep
  next hready =>
  cases hstep
  have hunread : s.unread = (fresh.map Reply.bytes).flatten := hinv.unread
  have hcount : s.fresh = fresh.length := hinv.count
  cases fresh with
  | nil => exact absurd (Or.inr hunread) hready
  | cons r rest =>
      have hsize : ∀ r' ∈ r :: rest, r'.bytes.length ≤ maxSize := by
        intro r' hr'
        have hsub : r'.bytes.Sublist s.unread := by
          rw [hunread]
          exact List.sublist_flatten_of_mem (List.mem_map_of_mem hr')
        exact hsub.length_le.trans (hfits.trans (by decide))
      obtain ⟨buffers, hbuffers⟩ :=
        exists_buffers fun r' hr' => hsize r' (List.mem_cons_of_mem _ hr')
      have hread : (readFile s.unread).1 = r.bytes ++ (rest.map Reply.bytes).flatten := by
        rw [show (readFile s.unread).1 = s.unread from List.take_of_length_le hfits, hunread]
        rfl
      -- where the ideal buffers of the responses are
      obtain ⟨bfirsts, blost, rfl, hbfirsts, hblost⟩ :
          ∃ b₁ b₂, buffered = b₁ ++ b₂ ∧
            (firsts.map fun data : RawDataType => data.1) = b₁.map Reply.bytes ∧
            (lost.map fun data : RawDataType => data.1) = b₂.map Reply.bytes := by
        have hfilled := hinv.filled
        rw [List.map_append] at hfilled
        obtain ⟨b₁, b₂, hb, hb₁, hb₂⟩ := List.map_eq_append_iff.1 hfilled.symm
        exact ⟨b₁, b₂, hb, hb₁.symm, hb₂.symm⟩
      refine ⟨firsts ++ [⟨r.bytes, hsize r List.mem_cons_self⟩], lost ++ buffers, ?_,
        List.rel_append hfirsts (.cons ⟨_, hread⟩ .nil), ms, done,
        (bfirsts ++ [r]) ++ (blost ++ rest), [], ?_⟩
      · have hlength := congrArg List.length hbuffers
        rw [List.length_map, List.length_map] at hlength
        rw [List.length_append, hn, hlength, hcount, List.length_cons, Nat.add_sub_cancel]
      · refine hinv.rebuffer ?_ rfl rfl rfl rfl ?_ (List.drop_of_length_le hfits) rfl
        · rw [List.append_nil, List.append_assoc, List.append_assoc]
          refine List.Perm.append_left _ ?_
          rw [List.singleton_append]
          exact List.perm_middle
        · simp only [List.map_append, hbfirsts, hblost, hbuffers]
          rfl

/-- A buffer starts with the ideal one in its place. -/
theorem startsWith_of_getElem? {filled firsts : List RawDataType}
    (hfirsts : List.Forall₂ StartsWith filled firsts) {k : ℕ} {data : RawDataType}
    (hdata : filled[k]? = some data) : ∃ hk : k < firsts.length, StartsWith data firsts[k] := by
  obtain ⟨hk, hdatak⟩ := List.getElem?_eq_some_iff.1 hdata
  have hk' : k < firsts.length := by rwa [← hfirsts.length_eq]
  have hget := (List.forall₂_iff_get.1 hfirsts).2 k hk hk'
  rw [List.get_eq_getElem, List.get_eq_getElem, hdatak] at hget
  exact ⟨hk', hget⟩

/-- **The completion of a read is handled**: the first response of the buffer is delivered, as it is
from its ideal one. -/
theorem LossInv.readCompleted (h : LossInv n s) {k : ℕ}
    (hstep : asyncStep env c onSuccess s (.readCompleted k) = some s') : LossInv n s' := by
  obtain ⟨firsts, lost, hn, hfirsts, ms, done, buffered, fresh, hinv⟩ := h
  simp only [asyncStep] at hstep
  split at hstep
  swap
  · cases hstep
  next data hdata =>
  obtain ⟨client, hclient, rfl⟩ := Option.map_eq_some_iff.1 hstep
  obtain ⟨hk', rest, hrest⟩ := startsWith_of_getElem? hfirsts hdata
  have hideal : (firsts ++ lost)[k]? = some firsts[k] := by
    rw [List.getElem?_append_left hk', List.getElem?_eq_getElem hk']
  -- the ideal buffer holds one response
  obtain ⟨r, hr, hbytes⟩ : ∃ r ∈ done ++ (buffered ++ fresh), r.bytes = (firsts[k]).1 := by
    have hfilled := congrArg (fun l : List RawData => l[k]?) hinv.filled
    simp only [List.getElem?_map, hideal, Option.map_some] at hfilled
    obtain ⟨r, hr, hbytes⟩ := Option.map_eq_some_iff.1 hfilled.symm
    refine ⟨r, List.mem_append_right _ (List.mem_append_left _ ?_), hbytes⟩
    exact List.mem_of_getElem? hr
  have hshort := hinv.ledger.short r hr
  have hdecode : decodeResponse data.1 = decodeResponse (firsts[k]).1 := by
    rw [hrest, ← hbytes, Reply.bytes, decodeResponse_append r.id hshort rest]
    exact (decodeResponse_serialize r.id hshort).symm
  have hclient' : clientStep .async onSuccess s.client (.responseArrived firsts[k]) =
      some client := by
    obtain ⟨a, hd, heq⟩ := (ClientRun.handleResponse_eq_some onSuccess).1 hclient
    exact (ClientRun.handleResponse_eq_some onSuccess).2 ⟨a, hdecode ▸ hd, heq⟩
  have hstep' : asyncStep env c onSuccess { s with filled := firsts ++ lost } (.readCompleted k) =
      some { s with client := client, filled := (firsts ++ lost).eraseIdx k } := by
    simp only [asyncStep, hideal, hclient']
    rfl
  rw [List.eraseIdx_append_of_lt_length hk'] at hstep'
  obtain ⟨done', buffered', hinv'⟩ := hinv.readCompleted hstep'
  refine ⟨firsts.eraseIdx k, lost, hn, ?_, ms, done', buffered', fresh, hinv'⟩
  rw [List.eraseIdx_eq_take_drop_succ, List.eraseIdx_eq_take_drop_succ]
  exact List.rel_append (List.forall₂_take k hfirsts) (List.forall₂_drop (k + 1) hfirsts)

/-- **Every step keeps the account**: a read adds the responses it takes along to those that are
lost. -/
theorem LossInv.step (h : LossInv n s) (hfits : FitsBuffer s i)
    (hstep : asyncStep env c onSuccess s i = some s') : LossInv (n + mergedResponses s i) s' := by
  cases i with
  | readReturned => exact h.readReturned hfits hstep
  | readCompleted k => exact h.readCompleted hstep
  | client i => exact h.keep hstep nofun nofun
  | send => exact h.keep hstep nofun nofun
  | otherClient m => exact h.keep hstep nofun nofun
  | serve => exact h.keep hstep nofun nofun
  | writeCompleted k => exact h.keep hstep nofun nofun

/-- A read that returns finds a response. -/
theorem LossInv.fresh_pos (h : LossInv n s)
    (hstep : asyncStep env c onSuccess s .readReturned = some s') : 0 < s.fresh := by
  obtain ⟨firsts, lost, _, _, ms, done, buffered, fresh, hinv⟩ := h
  simp only [asyncStep] at hstep
  split at hstep
  · cases hstep
  next hready =>
  have hunread : s.unread = (fresh.map Reply.bytes).flatten := hinv.unread
  have hcount : s.fresh = fresh.length := hinv.count
  cases fresh with
  | nil => exact absurd (Or.inr hunread) hready
  | cons r rest =>
      rw [hcount]
      exact Nat.succ_pos _

/-! ### The account -/

/-- When everything has been read and handled, what was written and not delivered was lost. -/
theorem LossInv.written (h : LossInv n s) (hunread : s.unread = []) (hfilled : s.filled = []) :
    s.written.length = s.client.parser.deliveries.length + n ∧ (s.NothingLost ↔ n = 0) := by
  obtain ⟨firsts, lost, hn, hfirsts, ms, done, buffered, fresh, hinv⟩ := h
  rw [hfilled] at hfirsts
  cases hfirsts
  have hfresh : fresh = [] := by
    cases fresh with
    | nil => rfl
    | cons r rest =>
        have hempty : ((r :: rest).map Reply.bytes).flatten = [] := hinv.unread.symm.trans hunread
        rw [List.map_cons, List.flatten_cons] at hempty
        exact absurd (List.append_eq_nil_iff.1 hempty).1 r.bytes_ne_nil
  subst hfresh
  have hbuffered : buffered.length = n := by
    have hlength := congrArg List.length hinv.filled
    rw [List.length_map, List.length_map, List.nil_append] at hlength
    exact hlength.symm.trans hn
  have hdeliveries : s.client.parser.deliveries = done.map Reply.delivery := hinv.deliveries
  have hwritten : s.written.Perm ((done ++ (buffered ++ [])).map Reply.bytes) := hinv.written
  constructor
  · rw [hwritten.length_eq, hdeliveries, List.length_map, List.length_map, List.length_append,
      List.length_append, List.length_nil, hbuffered, Nat.add_zero]
  constructor
  · intro hnothing
    cases buffered with
    | nil => exact hbuffered.symm
    | cons r rest =>
        -- the response of a buffer that is never handled is not delivered
        have hr : r ∈ done ++ (r :: rest ++ []) :=
          List.mem_append_right _ List.mem_cons_self
        obtain ⟨id, request, value, hdec, _, hfilter⟩ := hnothing hunread hfilled r.bytes
          (hwritten.mem_iff.2 (List.mem_map_of_mem hr))
        have hself : decodeResponse r.bytes = .ok (.deliver r.id r.value) :=
          decodeResponse_serialize r.id (hinv.ledger.short r hr)
        rw [hself] at hdec
        cases hdec
        have hmem : (⟨r.id, request, r.value⟩ : Delivery κ) ∈ done.map Reply.delivery := by
          rw [← hdeliveries]
          exact (List.mem_filter.1 (hfilter ▸ List.mem_singleton_self _)).1
        obtain ⟨r', hr', heq⟩ := List.mem_map.1 hmem
        have hid : r'.id = r.id := congrArg Delivery.id heq
        have hnodup := hinv.ledger.nodup.of_append_left
        rw [List.map_append, List.nodup_append] at hnodup
        exact absurd hid (hnodup.2.2 _ (List.mem_map_of_mem hr') _
          (List.mem_map_of_mem List.mem_cons_self))
  · rintro rfl
    have hlost : lost = [] := List.length_eq_zero_iff.1 hn
    subst hlost
    exact fun _ _ => hinv.nothingLost hunread rfl

/-- **An `Async` client loses exactly the responses that are merged.**  In every run in which no
call fails and the reads find no more than their buffer holds, once every byte the server wrote has
been handed to `ParseResponse`: the responses written are as many as the callbacks called and the
responses that came second or later in a buffer, and nothing is lost exactly when every read found
one response. -/
theorem async_loss_exact (env : AddressText) (c : ℕ)
    (onSuccess : κ → AnyValue → ClassRepository → ClassRepository) {is : List (AsyncEvent κ)}
    (hrun : run (asyncStep env c onSuccess) .start is = some s)
    (hfits : Along (asyncStep env c onSuccess) FitsBuffer .start is) (hunread : s.unread = [])
    (hfilled : s.filled = []) :
    s.written.length = s.client.parser.deliveries.length +
        runCost (asyncStep env c onSuccess) mergedResponses .start is ∧
      (s.NothingLost ↔ Along (asyncStep env c onSuccess) OneResponse .start is) := by
  have hinv := invariant_runCost (fun _ _ _ _ h hC hstep => h.step hC hstep) lossInv_start hfits
    hrun
  rw [Nat.zero_add] at hinv
  obtain ⟨hcount, hnothing⟩ := hinv.written hunread hfilled
  refine ⟨hcount, hnothing.trans ?_⟩
  refine runCost_eq_zero_iff (I := fun s => ∃ n, LossInv n s) ?_ ?_ ⟨0, lossInv_start⟩ hfits hrun
  · rintro s i s' ⟨n, h⟩ hC hstep
    exact ⟨_, h.step hC hstep⟩
  · rintro s i s' ⟨n, h⟩ hC hstep
    cases i with
    | readReturned =>
        have hpos := h.fresh_pos hstep
        refine ⟨fun hzero => ⟨?_, hC⟩, fun hone => ?_⟩
        · have hle : s.fresh - 1 = 0 := hzero
          omega
        · exact congrArg (· - 1) hone.1
    | _ => exact ⟨fun _ => trivial, fun _ => rfl⟩

end Loss

/-- The account of the run with two responses in one buffer: two were written, one was delivered and
one was taken along. -/
theorem mergedEvents_account :
    ∃ s, run (asyncStep default 0 ignoreValue) .start mergedEvents = some s ∧
      s.written.length = s.client.parser.deliveries.length +
        runCost (asyncStep default 0 ignoreValue) mergedResponses .start mergedEvents ∧
      runCost (asyncStep default 0 ignoreValue) mergedResponses .start mergedEvents = 1 := by
  have hend : (run (asyncStep default 0 ignoreValue) .start mergedEvents).map
      (fun s => (s.unread, s.filled.length)) = some ([], 0) := by decide
  obtain ⟨s, hrun, hs⟩ := Option.map_eq_some_iff.1 hend
  simp only [Prod.mk.injEq, List.length_eq_zero_iff] at hs
  exact ⟨s, hrun, (async_loss_exact default 0 ignoreValue hrun (by decide) hs.1 hs.2).1, by decide⟩

end NamedPipeDemo
