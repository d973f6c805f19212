/-
**What the table of pending requests holds.**

The table is meant to hold the requests that are owed a response: those that wait for one, were
sent, and have not been answered.  `Client::Start` registers every request it reads, before it knows
whether the send will succeed and whether a response will come.  Between two iterations the table
therefore holds every request read and not answered, and this is the set that is owed a response
exactly when all of these wait and were sent.

Main definitions:

* `NamedPipeDemo.ClientRun.PendingExact` — the table holds exactly what is owed a response;
* `NamedPipeDemo.ClientRun.AllOwed` — every request read and not answered is owed a response;
* `NamedPipeDemo.Orderly` — a step that reads a request that waits, sends it, or receives a response
  to a request read.

Main results:

* `NamedPipeDemo.ClientInv.pendingExact_iff` — the two are the same, whatever has happened;
* `NamedPipeDemo.pendingTable_exact_iff` — **at the head of the loop, in every run.**
-/

import NamedPipeDemo.Client

set_option relaxedAutoImplicit false
set_option autoImplicit false

namespace NamedPipeDemo

open LabelledRuns

section Pending

variable {κ : Type} {policy : ExecutionPolicy}
  {onSuccess : κ → AnyValue → ClassRepository → ClassRepository} {s s' : ClientRun κ}
  {is : List (ClientEvent κ)} {i : ClientEvent κ}

/-- The ids of the requests whose send succeeded. -/
def ClientRun.sentIds (s : ClientRun κ) : List RequestId := s.accepted.map Prod.fst

/-- A response with this id has been decoded. -/
def ClientRun.Decoded (s : ClientRun κ) (r : RequestId) : Prop :=
  r ∈ s.answered ∨ r ∈ s.unsolicited

instance (s : ClientRun κ) (r : RequestId) : Decidable (s.Decoded r) :=
  inferInstanceAs (Decidable (_ ∨ _))

/-- A request with this id waits for a response, was sent, and no response to it has been
decoded. -/
def ClientRun.Owed (s : ClientRun κ) (r : RequestId) : Prop :=
  ∃ request, (r, request) ∈ s.reads ∧ request.waitForResponse = true ∧ r ∈ s.sentIds ∧
    ¬ s.Decoded r

/-- **The table holds exactly the requests that are owed a response.**  In particular it is no
larger than the list of unanswered requests that wait, and no request whose send failed is in it. -/
structure ClientRun.PendingExact (s : ClientRun κ) : Prop where
  keys : ∀ r, r ∈ s.parser.requests ↔ s.Owed r
  size : s.parser.requests.keys.card ≤
    (s.reads.filter fun x => x.2.waitForResponse && decide (¬ s.Decoded x.1)).length
  failed : ∀ r ∈ s.readIds, r ∉ s.sentIds → r ∉ s.parser.requests

/-- Every request read and not answered is owed a response. -/
def ClientRun.AllOwed (s : ClientRun κ) : Prop :=
  ∀ x ∈ s.reads, x.1 ∉ s.answered →
    x.2.waitForResponse = true ∧ x.1 ∈ s.sentIds ∧ x.1 ∉ s.unsolicited

/-- When the keys are right, the table is no larger than the list of requests that wait. -/
theorem ClientRun.card_le_of_keys (hkeys : ∀ r, r ∈ s.parser.requests → s.Owed r) :
    s.parser.requests.keys.card ≤
      (s.reads.filter fun x => x.2.waitForResponse && decide (¬ s.Decoded x.1)).length := by
  rw [← List.length_map Prod.fst]
  refine le_trans (Finset.card_le_card fun r hr => ?_) (List.toFinset_card_le _)
  obtain ⟨request, hread, hwait, _, hdecoded⟩ := hkeys r (Finmap.mem_keys.1 hr)
  rw [List.mem_toFinset, List.mem_map]
  refine ⟨(r, request), List.mem_filter.2 ⟨hread, ?_⟩, rfl⟩
  rw [hwait, Bool.true_and, decide_eq_true_eq]
  exact hdecoded

/-- **The table is exact exactly when every request read and not answered is owed a response.** -/
theorem ClientInv.pendingExact_iff (h : ClientInv s) : s.PendingExact ↔ s.AllOwed := by
  constructor
  · rintro hexact ⟨r, request⟩ hread hunanswered
    have hmem : r ∈ s.parser.requests :=
      (h.table r).2 ⟨List.mem_map_of_mem hread, hunanswered⟩
    obtain ⟨request', hread', hwait, hsent, hdecoded⟩ := (hexact.keys r).1 hmem
    rw [h.request_unique hread hread']
    exact ⟨hwait, hsent, fun hun => hdecoded (Or.inr hun)⟩
  · intro hall
    have howed : ∀ r, r ∈ s.parser.requests → s.Owed r := by
      intro r hr
      obtain ⟨hread, hunanswered⟩ := (h.table r).1 hr
      obtain ⟨⟨_, request⟩, hx, rfl⟩ := List.mem_map.1 hread
      obtain ⟨hwait, hsent, hun⟩ := hall _ hx hunanswered
      exact ⟨request, hx, hwait, hsent, fun hdec => hdec.elim hunanswered hun⟩
    refine ⟨fun r => ⟨howed r, ?_⟩, ClientRun.card_le_of_keys howed, fun r _ hunsent hr => ?_⟩
    · rintro ⟨request, hread, _, _, hdecoded⟩
      exact (h.table r).2 ⟨List.mem_map_of_mem hread, fun hans => hdecoded (Or.inl hans)⟩
    · obtain ⟨_, _, _, hsent, _⟩ := howed r hr
      exact hunsent hsent

/-! ### Orderly runs -/

/-- A response under the id of a request comes when the request has been read. -/
def Solicited (s : ClientRun κ) (response : RawDataType) : Prop :=
  ∀ id v, decodeResponse response.1 = .ok (.deliver id v) → 0 < id.toInt → id ∈ s.readIds

/-- Every request read waits for a response, no send finds the pipe closing, and no response comes
before its request. -/
def Orderly (s : ClientRun κ) : ClientEvent κ → Prop
  | .readRequest request => request.data ≠ [] → request.waitForResponse = true
  | .send outcome => outcome ≠ .noData
  | .readResponse (some response) => Solicited s response
  | .responseArrived response => Solicited s response
  | _ => True

/-- What a response says is for one of these requests, if it has a positive id. -/
def ResponseAction.isFor (ids : List RequestId) : ResponseAction → Bool
  | deliver id _ => !decide (0 < id.toInt) || ids.contains id
  | _ => true

theorem ResponseAction.isFor_deliver (ids : List RequestId) (id : RequestId) (v : AnyValue) :
    (deliver id v).isFor ids = true ↔ (0 < id.toInt → id ∈ ids) := by
  rw [isFor, Bool.or_eq_true, Bool.not_eq_true', decide_eq_false_iff_not, List.contains_iff_mem,
    imp_iff_not_or]

instance (s : ClientRun κ) (response : RawDataType) : Decidable (Solicited s response) :=
  decidable_of_iff ((decodeResponse response.1).toOption.all (·.isFor s.readIds) = true) <| by
    rw [Solicited]
    cases decodeResponse response.1 with
    | error e => exact iff_of_true rfl fun id v hd => by cases hd
    | ok a =>
        cases a with
        | deliver id v =>
            refine (ResponseAction.isFor_deliver s.readIds id v).trans
              ⟨fun h id' v' hd => ?_, fun h => h id v rfl⟩
            cases hd
            exact h
        | _ => exact iff_of_true rfl fun id v hd => by cases hd

instance (s : ClientRun κ) (i : ClientEvent κ) : Decidable (Orderly s i) := by
  unfold Orderly
  split <;> infer_instance

/-- What orderly steps keep: every request read waits, and no unsolicited id will be assigned. -/
structure OrderlyInv (s : ClientRun κ) : Prop where
  waits : ∀ x ∈ s.reads, x.2.waitForResponse = true
  unsolicited : ∀ r ∈ s.unsolicited, ¬ 0 < r.toInt

theorem OrderlyInv.answer (h : OrderlyInv s) {response : RawDataType} {a : ResponseAction}
    (hdec : decodeResponse response.1 = .ok a) (hsolicited : Solicited s response) :
    OrderlyInv (s.answer onSuccess a) := by
  cases a with
  | register handle => exact ⟨h.waits, h.unsolicited⟩
  | reject => exact ⟨h.waits, h.unsolicited⟩
  | deliver id v =>
      simp only [ClientRun.answer, ClientRun.record]
      split
      · exact ⟨h.waits, h.unsolicited⟩
      · next hid =>
          refine ⟨h.waits, fun r hr => ?_⟩
          rcases List.mem_cons.1 hr with rfl | hr
          · exact fun hpos => hid (hsolicited r v hdec hpos)
          · exact h.unsolicited r hr

/-- Every orderly step keeps them. -/
theorem OrderlyInv.step (h : OrderlyInv s) (horderly : Orderly s i)
    (hstep : clientStep policy onSuccess s i = some s') : OrderlyInv s' := by
  cases clientMove_of_step hstep with
  | register hpc hdata hcounter =>
      refine ⟨fun x hx => ?_, h.unsolicited⟩
      rcases List.mem_append.1 hx with hx | hx
      · exact h.waits x hx
      · rw [List.mem_singleton.1 hx]
        exact horderly hdata
  | @read _ _ a hpc hdec =>
      have hanswer : OrderlyInv (s.answer onSuccess a) := h.answer hdec horderly
      exact ⟨hanswer.waits, hanswer.unsolicited⟩
  | arrive hasync hdec => exact h.answer hdec horderly
  | skip hpc hdata => exact h
  | _ => exact ⟨h.waits, h.unsolicited⟩

theorem ClientInv.toInt_pos (h : ClientInv s) {r : RequestId} (hr : r ∈ s.readIds) :
    0 < r.toInt := by
  have hbounds := h.bounds hr
  have hlt := h.counter_lt
  rw [BitVec.toInt_eq_toNat_of_lt (by omega)]
  omega

/-- **The table of pending requests**, at the head of the loop in every run: it is exact exactly
when every request read and not answered is owed a response; and it is exact throughout the runs all
of whose steps are orderly. -/
theorem pendingTable_exact_iff (policy : ExecutionPolicy)
    (onSuccess : κ → AnyValue → ClassRepository → ClassRepository)
    (hasDataSource hasParser : Bool) :
    (∀ is s, run (clientStep policy onSuccess) (.start hasDataSource hasParser) is = some s →
      s.pc = .head → (s.PendingExact ↔ s.AllOwed)) ∧
    (∀ is s, run (clientStep policy onSuccess) (.start hasDataSource hasParser) is = some s →
      Along (clientStep policy onSuccess) Orderly (.start hasDataSource hasParser) is →
      s.pc = .head → s.PendingExact) := by
  refine ⟨fun is s hrun _ => (clientInv_run hrun).pendingExact_iff, ?_⟩
  intro is s hrun hAlong hhead
  have hinv := clientInv_run hrun
  have horderly : OrderlyInv s :=
    invariant_along (fun _ _ _ h hC hstep => h.step hC hstep)
      ⟨fun x hx => absurd hx List.not_mem_nil, fun r hr => absurd hr List.not_mem_nil⟩ hAlong hrun
  -- no send failed, so everything that was read has been handed over
  have hno : .send .noData ∉ is := fun hmem => by
    refine hAlong.forall_mem (P := fun i => i ≠ .send .noData) ?_ hrun _ hmem rfl
    rintro t j hC rfl
    exact hC rfl
  have hpc : s.pc ≠ .returned false := fun heq => by
    rw [hhead] at heq
    cases heq
  have hall : s.HandedOver :=
    (sendHistory_run hrun).handedOver (by rw [ClientRun.pending, hhead]) hno hpc
  refine hinv.pendingExact_iff.2 fun x hx _ => ⟨horderly.waits x hx, ?_, fun hun => ?_⟩
  · rw [ClientRun.sentIds, hall, ClientRun.frames, List.map_map]
    exact List.mem_map_of_mem hx
  · exact horderly.unsolicited x.1 hun (hinv.toInt_pos (List.mem_map_of_mem hx))

end Pending

/-- A request that creates an object and waits for its handle, and a second one, are sent; the first
one is answered. -/
def firstAnswered : List (ClientEvent Unit) :=
  let request : ClientRequest Unit := { data := createObjectRequest [], waitForResponse := true }
  [.connect true, .readRequest request, .send .success, .readRequest request, .send .success,
    .responseArrived ⟨createRequestIdData 1 ++ serializeInt 0, by decide⟩]

/-- The table holds the second one, and not the first. -/
theorem firstAnswered_exact :
    ∃ s, run (clientStep .async ignoreValue) (.start true true) firstAnswered = some s ∧
      1 ∉ s.parser.requests ∧ 2 ∈ s.parser.requests ∧ s.PendingExact := by
  have hstate : (run (clientStep .async ignoreValue) (.start true true) firstAnswered).map
      (fun s => (s.pc, decide (1 ∈ s.parser.requests), decide (2 ∈ s.parser.requests))) =
        some (.head, false, true) := rfl
  obtain ⟨s, hrun, hs⟩ := Option.map_eq_some_iff.1 hstate
  simp only [Prod.mk.injEq, decide_eq_false_iff_not, decide_eq_true_eq] at hs
  obtain ⟨hpc, hfirst, hsecond⟩ := hs
  have hexact := (pendingTable_exact_iff .async ignoreValue true true).2 firstAnswered s hrun
    (by decide) hpc
  exact ⟨s, hrun, hfirst, hsecond, hexact⟩

/-- A request that does not wait for a response is sent. -/
def fireAndForget : List (ClientEvent Unit) :=
  [.connect true, .readRequest { data := ascii "x" }, .send .success]

/-- It stays in the table. -/
theorem fireAndForget_stays :
    ∃ s, run (clientStep .sync ignoreValue) (.start true true) fireAndForget = some s ∧
      s.pc = .head ∧ ¬ s.PendingExact := by
  have hstate : (run (clientStep .sync ignoreValue) (.start true true) fireAndForget).map
      (fun s => (s.pc, s.reads, s.answered)) = some (.head, [(1, { data := ascii "x" })], []) := rfl
  obtain ⟨s, hrun, hs⟩ := Option.map_eq_some_iff.1 hstate
  simp only [Prod.mk.injEq] at hs
  obtain ⟨hpc, hreads, hanswered⟩ := hs
  refine ⟨s, hrun, hpc, fun hexact => ?_⟩
  have hall := (clientInv_run hrun).pendingExact_iff.1 hexact
  rw [ClientRun.AllOwed, hreads, hanswered] at hall
  have hwait := (hall _ (List.mem_singleton_self _) List.not_mem_nil).1
  cases hwait

end NamedPipeDemo
