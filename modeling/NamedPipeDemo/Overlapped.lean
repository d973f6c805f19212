/-
**The overlapped operations of the client: what is freed, and what is not.**

`SendDataToServerAsync` and `ReadDataFromServerAsync` make an `OVERLAPPED` and an event for each
operation and hand both to a `WriteResponseData` or a `ReadResponseData`, whose destructor frees
them.  The callback deletes that when it is done; where the wait cannot be registered, the function
that wanted to register it does.  There are as many owners under way as there are operations, and
they outlive the pipe and the client.

The ownership is a `ResourceLedger`, whose places are the main thread, the callbacks, and the
response data.  One case breaks the pattern: when `WriteFile` or `ReadFile` refuses an operation at
once, its `OVERLAPPED` is deleted and its event is not closed.

Main definitions:

* `NamedPipeDemo.PipeClient.ledger` — **who owns which operation**;
* `NamedPipeDemo.refusedOperations` — the operations that a step sees refused.

Main results:

* `NamedPipeDemo.PipeMove.effect` — what a step does to the ledger;
* `NamedPipeDemo.overlapped_freed` — **no operation is freed twice or freed while it is owned, and
  exactly the events of the operations refused at once are lost**;
* `NamedPipeDemo.destroyed_pipe_drains` — **the callbacks that are left when the pipe is destroyed
  free everything, in at most two steps each.**
-/

import Mathlib.Algebra.Order.BigOperators.Group.Finset
import NamedPipeDemo.AsyncPipe
import NamedPipeDemo.Pipe
import NamedPipeDemo.ResourceLedger

set_option relaxedAutoImplicit false
set_option autoImplicit false

namespace NamedPipeDemo

open LabelledRuns

/-! ### Owners -/

/-- What owns an operation. -/
inductive OverlappedPlace
  | main
  | callback (n : ℕ)
  | data (n : ℕ)
  deriving DecidableEq, Repr

/-- The operation the main thread has issued and not yet handed on. -/
def PipePc.operation : PipePc → Option ℕ
  | writingOverlapped n => some n
  | registering n => some n
  | _ => none

/-- The operation the callback has issued and not yet handed on. -/
def ResponseDataPc.operation : ResponseDataPc → Option ℕ
  | reading m => some m
  | registering m => some m
  | _ => none

/-- The operation a place owns.  Response data own the one they are numbered by. -/
def ownedOperation (pc : PipePc) (data : ℕ → ResponseDataPc) : OverlappedPlace → Option ℕ
  | .main => pc.operation
  | .callback n => (data n).operation
  | .data n => if data n = .absent then none else some n

section Owners

variable {pc pc' : PipePc} {data : ℕ → ResponseDataPc} {d : ResponseDataPc} {n : ℕ}

theorem ownedOperation_pc (pc : PipePc) : ownedOperation pc' data =
    Function.update (ownedOperation pc data) .main pc'.operation := by
  funext p
  cases p with
  | main => rw [Function.update_self, ownedOperation]
  | callback k => exact (Function.update_of_ne (by simp) ..).symm
  | data k => exact (Function.update_of_ne (by simp) ..).symm

/-- The callback moves on, and its data stay. -/
theorem ownedOperation_callback (hold : data n ≠ .absent) (hnew : d ≠ .absent) :
    ownedOperation pc (Function.update data n d) =
      Function.update (ownedOperation pc data) (.callback n) d.operation := by
  funext p
  cases p with
  | main => exact (Function.update_of_ne (by simp) ..).symm
  | callback k =>
      by_cases hk : k = n
      · subst hk
        rw [Function.update_self, ownedOperation, Function.update_self]
      · rw [Function.update_of_ne (mt OverlappedPlace.callback.inj hk), ownedOperation,
          Function.update_of_ne hk, ownedOperation]
  | data k =>
      have hne : OverlappedPlace.data k ≠ .callback n := by simp
      rw [Function.update_of_ne hne]
      simp only [ownedOperation]
      by_cases hk : k = n
      · subst hk
        rw [Function.update_self, if_neg hnew, if_neg hold]
      · rw [Function.update_of_ne hk]

/-- The data are made or deleted, and the callback has issued nothing. -/
theorem ownedOperation_data (hold : (data n).operation = none) (hnew : d.operation = none) :
    ownedOperation pc (Function.update data n d) =
      Function.update (ownedOperation pc data) (.data n)
        (if d = .absent then none else some n) := by
  funext p
  cases p with
  | main => exact (Function.update_of_ne (by simp) ..).symm
  | callback k =>
      have hne : OverlappedPlace.callback k ≠ .data n := by simp
      rw [Function.update_of_ne hne]
      simp only [ownedOperation]
      by_cases hk : k = n
      · subst hk
        rw [Function.update_self, hnew, hold]
      · rw [Function.update_of_ne hk]
  | data k =>
      by_cases hk : k = n
      · subst hk
        rw [Function.update_self, ownedOperation, Function.update_self]
      · rw [Function.update_of_ne (mt OverlappedPlace.data.inj hk), ownedOperation,
          Function.update_of_ne hk, ownedOperation]

end Owners

section Ledger

variable {κ : Type}

/-- **Who owns which operation**, and which operations have been freed. -/
def PipeClient.ledger (s : PipeClient κ) : ResourceLedger.Ledger OverlappedPlace where
  count := s.issued
  holds := ownedOperation s.pc s.responseData
  freed := s.freed

/-- The operations that a step sees refused at once. -/
def refusedOperations (s : PipeClient κ) : PipeEvent κ → ℕ
  | .writeFile result =>
      match s.pc with
      | .writingOverlapped _ => if result.outcome = .success then 0 else 1
      | _ => 0
  | .readFileAsync _ accepted => if accepted then 0 else 1
  | _ => 0

/-- What a step does to the ledger and to the events, when it sees `k` operations refused. -/
inductive OverlappedEffect (s s' : PipeClient κ) : ℕ → Prop
  | keeps (hledger : s'.ledger = s.ledger) (hevents : s'.closedEvents = s.closedEvents) :
      OverlappedEffect s s' 0
  | issues (p : OverlappedPlace) (hp : s.ledger.holds p = none)
      (hledger : s'.ledger = s.ledger.allocate p) (hevents : s'.closedEvents = s.closedEvents) :
      OverlappedEffect s s' 0
  | hands (p q : OverlappedPlace) (n : ℕ) (hp : s.ledger.holds p = some n)
      (hq : s.ledger.holds q = none) (hledger : s'.ledger = s.ledger.transfer p q)
      (hevents : s'.closedEvents = s.closedEvents) : OverlappedEffect s s' 0
  | deletes (p : OverlappedPlace) (n : ℕ) (hp : s.ledger.holds p = some n)
      (hledger : s'.ledger = s.ledger.release p n)
      (hevents : s'.closedEvents = n :: s.closedEvents) : OverlappedEffect s s' 0
  | refused (p : OverlappedPlace) (n : ℕ) (hp : s.ledger.holds p = some n)
      (hledger : s'.ledger = s.ledger.release p n) (hevents : s'.closedEvents = s.closedEvents) :
      OverlappedEffect s s' 1

/-- **The invariant**, when `k` operations have been refused at once. -/
structure OverlappedInv (k : ℕ) (s : PipeClient κ) : Prop where
  ledger : s.ledger.Ok
  events : s.closedEvents.Sublist s.freed
  refused : s.freed.length = s.closedEvents.length + k

variable {policy : ExecutionPolicy}
  {onSuccess : κ → AnyValue → ClassRepository → ClassRepository} {s s' : PipeClient κ}
  {i : PipeEvent κ} {k n : ℕ}

theorem PipeClient.ledger_main : s.ledger.holds .main = s.pc.operation := rfl

theorem PipeClient.ledger_callback :
    s.ledger.holds (.callback n) = (s.responseData n).operation := rfl

/-- Response data whose operation another place owns do not exist. -/
theorem PipeClient.data_absent (h : s.ledger.Ok) {p : OverlappedPlace}
    (hp : s.ledger.holds p = some n) (hne : p ≠ .data n) : s.responseData n = .absent := by
  by_contra habsent
  have hdata : s.ledger.holds (.data n) = some n := if_neg habsent
  exact hne (h.unique p (.data n) n hp hdata)

/-! ### Steps -/

/-- The main thread moves on and issues nothing. -/
theorem OverlappedEffect.of_pc (hop : s'.pc.operation = s.pc.operation)
    (hissued : s'.issued = s.issued) (hdata : s'.responseData = s.responseData)
    (hfreed : s'.freed = s.freed) (hevents : s'.closedEvents = s.closedEvents) :
    OverlappedEffect s s' 0 := by
  refine .keeps (ResourceLedger.Ledger.ext hissued ?_ hfreed) hevents
  rw [PipeClient.ledger, PipeClient.ledger, hdata]
  refine (ownedOperation_pc s.pc).trans ?_
  rw [hop]
  exact Function.update_eq_self _ _

/-- A callback that has issued nothing moves on, and its data stay. -/
theorem OverlappedEffect.of_callback {d : ResponseDataPc} (hold : s.responseData n ≠ .absent)
    (hnew : d ≠ .absent) (hop : d.operation = (s.responseData n).operation) (hpc : s'.pc = s.pc)
    (hissued : s'.issued = s.issued) (hdata : s'.responseData = Function.update s.responseData n d)
    (hfreed : s'.freed = s.freed) (hevents : s'.closedEvents = s.closedEvents) :
    OverlappedEffect s s' 0 := by
  refine .keeps (ResourceLedger.Ledger.ext hissued ?_ hfreed) hevents
  rw [PipeClient.ledger, PipeClient.ledger, hpc, hdata]
  refine (ownedOperation_callback hold hnew).trans ?_
  rw [hop]
  exact Function.update_eq_self _ _

theorem ne_absent {data : ℕ → ResponseDataPc} {d : ResponseDataPc} (hdata : data n = d)
    (hd : d ≠ .absent) : data n ≠ .absent := hdata ▸ hd

/-- **What a step does to the ledger.** -/
theorem PipeMove.effect (h : PipeMove policy onSuccess s i s') (hok : s.ledger.Ok) :
    OverlappedEffect s s' (refusedOperations s i) := by
  cases h with
  | alreadyConnected hpc hclient hopen hmove => exact .of_pc rfl rfl rfl rfl rfl
  | connect hpc hclient hopen => exact .of_pc (by rw [hpc]; rfl) rfl rfl rfl rfl
  | opened hpc hmove => exact .of_pc (by rw [hpc]; rfl) rfl rfl rfl rfl
  | pipeBusy hpc => exact .of_pc (by rw [hpc]; rfl) rfl rfl rfl rfl
  | createFailed hpc hmove => exact .of_pc (by rw [hpc]; rfl) rfl rfl rfl rfl
  | ready hpc => exact .of_pc (by rw [hpc]; rfl) rfl rfl rfl rfl
  | timeout hpc hmove => exact .of_pc (by rw [hpc]; rfl) rfl rfl rfl rfl
  | finish hpc hmove => exact .of_pc rfl rfl rfl rfl rfl
  | readRequest hpc hmove => exact .of_pc rfl rfl rfl rfl rfl
  | send hpc hclient hpolicy => exact .of_pc (by rw [hpc]; rfl) rfl rfl rfl rfl
  | sendAsync hpc hclient hpolicy =>
      exact .issues .main (by rw [PipeClient.ledger_main, hpc]; rfl)
        (ResourceLedger.Ledger.ext rfl (ownedOperation_pc s.pc) rfl) rfl
  | written hpc hresult hmove =>
      simp only [refusedOperations, hpc]
      exact .of_pc (by rw [hpc]; rfl) rfl rfl rfl rfl
  | notWritten hpc hresult hmove =>
      simp only [refusedOperations, hpc]
      refine .of_pc ?_ rfl rfl rfl rfl
      simp only [PipeClient.disconnect, hpc]
      split <;> rfl
  | @accepted result n hpc hresult =>
      simp only [refusedOperations, hpc, hresult]
      exact .of_pc (by rw [hpc]; rfl) rfl rfl rfl rfl
  | @refused result n client pc hpc hresult hnext hmove =>
      simp only [refusedOperations, hpc, hresult]
      refine .refused .main n (by rw [PipeClient.ledger_main, hpc]; rfl)
        (ResourceLedger.Ledger.ext rfl ((ownedOperation_pc s.pc).trans ?_) rfl) rfl
      have hop : pc.operation = none := by
        rw [hnext, PipeClient.disconnect]
        split_ifs <;> rfl
      rw [hop]
      rfl
  | @registered n id request client hpc hclient hmove =>
      have hmain : s.ledger.holds .main = some n := by
        rw [PipeClient.ledger_main, hpc]
        rfl
      have habsent := PipeClient.data_absent hok hmain nofun
      refine .hands .main (.data n) n hmain (if_pos habsent)
        (ResourceLedger.Ledger.ext rfl ?_ rfl) rfl
      refine (ownedOperation_pc s.pc).trans ?_
      rw [ResourceLedger.Ledger.holds_transfer, hmain, Function.update_comm (by simp)]
      exact congrArg (Function.update · _ _)
        (ownedOperation_data (by rw [habsent]; rfl) rfl)
  | @notRegistered n id request client hpc hclient hmove =>
      exact .deletes .main n (by rw [PipeClient.ledger_main, hpc]; rfl)
        (ResourceLedger.Ledger.ext rfl (ownedOperation_pc s.pc) rfl) rfl
  | read hpc hclient => exact .of_pc (by rw [hpc]; rfl) rfl rfl rfl rfl
  | readAll hpc hlen hmove => exact .of_pc (by rw [hpc]; rfl) rfl rfl rfl rfl
  | moreData hpc => exact .of_pc (by rw [hpc]; rfl) rfl rfl rfl rfl
  | readFailed hpc hmove => exact .of_pc (by rw [hpc]; rfl) rfl rfl rfl rfl
  | disconnected hpc => exact .of_pc (by rw [hpc]; rfl) rfl rfl rfl rfl
  | destroyed hpc => exact .of_pc (by rw [hpc]; rfl) rfl rfl rfl rfl
  | destroy hpc hclient hunused =>
      refine .of_pc ?_ rfl rfl rfl rfl
      simp only [PipeClient.disconnect, hpc]
      split <;> rfl
  | @startRead n pipeHandle data hdata halive =>
      refine .issues (.callback n) (by rw [PipeClient.ledger_callback, hdata]; rfl)
        (ResourceLedger.Ledger.ext rfl ?_ rfl) rfl
      exact ownedOperation_callback (d := .reading s.issued) (ne_absent hdata nofun) nofun
  | arrived hdata hmove =>
      exact .of_callback (d := .deleting) (ne_absent hdata nofun) nofun (by rw [hdata]; rfl) rfl rfl
        rfl rfl rfl
  | callbackDone hdata =>
      exact .of_callback (d := .deleting) (ne_absent hdata nofun) nofun (by rw [hdata]; rfl) rfl rfl
        rfl rfl rfl
  | @readAccepted n m hdata =>
      exact .of_callback (d := .registering m) (ne_absent hdata nofun) nofun (by rw [hdata]; rfl)
        rfl
        rfl rfl rfl rfl
  | @readRefused n m hdata =>
      refine .refused (.callback n) m (by rw [PipeClient.ledger_callback, hdata]; rfl)
        (ResourceLedger.Ledger.ext rfl ?_ rfl) rfl
      exact ownedOperation_callback (d := .deleting) (ne_absent hdata nofun) nofun
  | @readRegistered n m hdata =>
      have hcallback : s.ledger.holds (.callback n) = some m := by
        rw [PipeClient.ledger_callback, hdata]
        rfl
      have habsent := PipeClient.data_absent hok hcallback nofun
      have hne : n ≠ m := by
        rintro rfl
        rw [hdata] at habsent
        cases habsent
      refine .hands (.callback n) (.data m) m hcallback (if_pos habsent)
        (ResourceLedger.Ledger.ext rfl ?_ rfl) rfl
      have hold := ne_absent
        ((Function.update_of_ne hne (.registered .read s.pipeHandle) s.responseData).trans hdata)
        nofun
      refine (ownedOperation_callback (d := .deleting) hold nofun).trans ?_
      rw [ResourceLedger.Ledger.holds_transfer, hcallback, Function.update_comm (by simp)]
      exact congrArg (Function.update · _ _)
        (ownedOperation_data (by rw [habsent]; rfl) rfl)
  | @readNotRegistered n m hdata =>
      refine .deletes (.callback n) m (by rw [PipeClient.ledger_callback, hdata]; rfl)
        (ResourceLedger.Ledger.ext rfl ?_ rfl) rfl
      exact ownedOperation_callback (d := .deleting) (ne_absent hdata nofun) nofun
  | @deleteData n hdata =>
      have hop : (s.responseData n).operation = none := by
        rw [hdata]
        rfl
      refine .deletes (.data n) n (if_neg (ne_absent hdata nofun))
        (ResourceLedger.Ledger.ext rfl ?_ rfl) rfl
      exact ownedOperation_data (d := .absent) hop rfl

/-- Every step keeps the invariant. -/
theorem OverlappedInv.step (h : OverlappedInv k s)
    (hstep : pipeStep policy onSuccess s i = some s') :
    OverlappedInv (k + refusedOperations s i) s' := by
  have heffect := (pipeMove_of_step hstep).effect h.ledger
  revert heffect
  generalize refusedOperations s i = l
  rintro (⟨hledger, hevents⟩ | ⟨p, hp, hledger, hevents⟩ | ⟨p, q, n, hp, hq, hledger, hevents⟩ |
    ⟨p, n, hp, hledger, hevents⟩ | ⟨p, n, hp, hledger, hevents⟩)
  all_goals have hfreed : s'.freed = _ := congrArg ResourceLedger.Ledger.freed hledger
  · refine ⟨hledger ▸ h.ledger, ?_, ?_⟩ <;> rw [hfreed, hevents]
    · exact h.events
    · exact h.refused
  · refine ⟨hledger ▸ h.ledger.allocate hp, ?_, ?_⟩ <;> rw [hfreed, hevents]
    · exact h.events
    · exact h.refused
  · refine ⟨hledger ▸ h.ledger.transfer hp hq, ?_, ?_⟩ <;> rw [hfreed, hevents]
    · exact h.events
    · exact h.refused
  · refine ⟨hledger ▸ h.ledger.release hp, ?_, ?_⟩ <;> rw [hfreed, hevents]
    · exact h.events.cons_cons n
    · have hcount := h.refused
      simp only [ResourceLedger.Ledger.release, List.length_cons, PipeClient.ledger]
      omega
  · refine ⟨hledger ▸ h.ledger.release hp, ?_, ?_⟩ <;> rw [hfreed, hevents]
    · exact h.events.cons n
    · have hcount := h.refused
      simp only [ResourceLedger.Ledger.release, List.length_cons, PipeClient.ledger]
      omega

theorem overlappedInv_start : OverlappedInv 0 (.start : PipeClient κ) where
  ledger := .of_empty rfl (fun p => by cases p <;> rfl) rfl
  events := List.Sublist.refl _
  refused := rfl

/-- The invariant holds behind every run, with the operations refused in it. -/
theorem overlappedInv_run {es : List (PipeEvent κ)}
    (hrun : run (pipeStep policy onSuccess) .start es = some s) :
    OverlappedInv (runCost (pipeStep policy onSuccess) refusedOperations .start es) s := by
  have hinv := invariant_runCost (C := fun _ _ => True) (fun _ _ _ _ h _ hstep => h.step hstep)
    overlappedInv_start (Along.of_labels (fun _ _ _ => trivial) fun _ _ => trivial) hrun
  rwa [Nat.zero_add] at hinv

/-- **Every operation is freed once, and the events of those refused at once are lost.**  In every
run: no operation is freed twice or while something owns it, an event is closed with its operation
or not at all, and the events not closed are as many as the operations refused at once.  Once
nothing is under way, every operation that was issued has been freed. -/
theorem overlapped_freed {es : List (PipeEvent κ)}
    (hrun : run (pipeStep policy onSuccess) .start es = some s) :
    s.freed.Nodup ∧ s.closedEvents.Sublist s.freed ∧
      (∀ p n, s.ledger.holds p = some n → n ∉ s.freed) ∧
      s.freed.length = s.closedEvents.length +
        runCost (pipeStep policy onSuccess) refusedOperations .start es ∧
      (s.pc.operation = none → (∀ n, s.responseData n = .absent) →
        s.freed.Perm (List.range s.issued)) := by
  have h := overlappedInv_run hrun
  refine ⟨h.ledger.nodup, h.events, h.ledger.unfreed, h.refused, fun hpc hdata => ?_⟩
  refine h.ledger.perm_range fun p => ?_
  cases p with
  | main => exact hpc
  | callback n =>
      rw [PipeClient.ledger_callback, hdata]
      rfl
  | data n => exact if_pos (hdata n)

/-- A request is written and its callback begins to read the response, but the pipe refuses to
read. -/
def refusedRead : List (PipeEvent Unit) :=
  [.connect, .createFile .opened, .readRequest createRequest, .send, .writeFile .ioPending,
    .registerWait true, .getOverlappedResult 0 true ⟨[], Nat.zero_le _⟩, .readFileAsync 0 false,
    .deleteData 0]

/-- Both operations are freed, and the event of the second one is not closed. -/
theorem refusedRead_loses_event :
    ∃ s, run (pipeStep .async ignoreValue) .start refusedRead = some s ∧
      s.freed.Perm (List.range 2) ∧ s.freed.length = s.closedEvents.length + 1 := by
  obtain ⟨_, _, _, hrefused, hquiet⟩ :=
    @overlapped_freed Unit .async ignoreValue _ refusedRead rfl
  refine ⟨_, rfl, hquiet rfl fun n => ?_, hrefused⟩
  match n with
  | 0 => rfl
  | 1 => rfl
  | n + 2 => rfl

/-! ### Behind the destructor -/

/-- The pipe is being destroyed. -/
def PipeClient.IsGone (s : PipeClient κ) : Prop := s.pc = .destroying ∨ s.pc = .destroyed

/-- **No callback uses a pipe that is being destroyed.** -/
theorem PipeMove.unused (h : PipeMove policy onSuccess s i s') (hok : s.ledger.Ok)
    (hgone : s.IsGone → ∀ n, (s.responseData n).usesPipe = false) :
    s'.IsGone → ∀ n, (s'.responseData n).usesPipe = false := by
  have hcallback : ∀ {n : ℕ} {d : ResponseDataPc} {data : ℕ → ResponseDataPc},
      (∀ m, (data m).usesPipe = false) → d.usesPipe = false →
        ∀ m, (Function.update data n d m).usesPipe = false := by
    intro n d data hdata hd m
    by_cases hm : m = n
    · subst hm
      rwa [Function.update_self]
    · rw [Function.update_of_ne hm]
      exact hdata m
  have huses : ∀ {n : ℕ} {d : ResponseDataPc}, s.responseData n = d → d.usesPipe = true →
      ¬ s.IsGone := fun hdata hd hpc => by
    rw [← hdata, hgone hpc] at hd
    cases hd
  cases h with
  | alreadyConnected hpc hclient hopen hmove => exact hgone
  | finish hpc hmove => exact hgone
  | readRequest hpc hmove => exact hgone
  | destroyed hpc => exact fun _ => hgone (Or.inl hpc)
  | destroy hpc hclient hunused =>
      intro _ n
      by_contra huse
      have habsent : s.responseData n ≠ .absent := fun habsent => huse (by rw [habsent]; rfl)
      exact huse (hunused n (hok.lt (.data n) n (if_neg habsent)))
  | notWritten hpc hresult hmove =>
      rintro (hpc' | hpc') <;> simp only [PipeClient.disconnect] at hpc' <;> split at hpc' <;>
        cases hpc'
  | refused hpc hresult hnext hmove =>
      rintro (hpc' | hpc') <;> simp only [hnext, PipeClient.disconnect] at hpc' <;>
        split_ifs at hpc'
  | startRead hdata halive => exact fun hpc => absurd hpc halive
  | arrived hdata hmove => exact fun hpc => hcallback (hgone hpc) rfl
  | callbackDone hdata => exact fun hpc => hcallback (hgone hpc) rfl
  | readAccepted hdata => exact fun hpc => absurd hpc (huses hdata rfl)
  | readRefused hdata => exact fun hpc => absurd hpc (huses hdata rfl)
  | readRegistered hdata => exact fun hpc => absurd hpc (huses hdata rfl)
  | readNotRegistered hdata => exact fun hpc => absurd hpc (huses hdata rfl)
  | deleteData hdata => exact fun hpc => hcallback (hgone hpc) rfl
  | registered hpc hclient hmove => rintro (hpc' | hpc') <;> cases hpc'
  | _ hpc => rintro (hpc' | hpc') <;> cases hpc'

/-- The steps a callback has left when the pipe is gone. -/
def ResponseDataPc.remaining : ResponseDataPc → ℕ
  | registered _ _ => 2
  | deleting => 1
  | _ => 0

theorem ResponseDataPc.remaining_le (d : ResponseDataPc) : d.remaining ≤ 2 := by
  cases d with
  | registered kind pipeHandle => exact Nat.le_refl 2
  | deleting => exact Nat.le_succ 1
  | _ => exact Nat.zero_le 2

/-- The steps that are left when the pipe is gone. -/
def PipeClient.remaining (s : PipeClient κ) : ℕ :=
  ∑ n ∈ Finset.range s.issued, (s.responseData n).remaining

/-- What is left of a client whose pipe is gone. -/
structure DrainInv (N k : ℕ) (s : PipeClient κ) : Prop where
  pc : s.pc = .destroyed
  unused : ∀ n, (s.responseData n).usesPipe = false
  issued : s.issued = N
  overlapped : OverlappedInv k s

/-- A callback that moves on leaves fewer steps. -/
theorem PipeClient.remaining_lt (hok : s.ledger.Ok) {d : ResponseDataPc}
    (habsent : s.responseData n ≠ .absent) (hless : d.remaining < (s.responseData n).remaining)
    (hissued : s'.issued = s.issued)
    (hdata : s'.responseData = Function.update s.responseData n d) :
    s'.remaining < s.remaining := by
  have hn : n < s.issued := hok.lt (.data n) n (if_neg habsent)
  rw [remaining, remaining, hissued, hdata]
  refine Finset.sum_lt_sum (fun m _ => ?_) ⟨n, Finset.mem_range.2 hn, ?_⟩
  · by_cases hm : m = n
    · subst hm
      rw [Function.update_self]
      exact Nat.le_of_lt hless
    · rw [Function.update_of_ne hm]
  · rwa [Function.update_self]

/-- **Every step behind the destructor is one of the steps that are left.** -/
theorem DrainInv.lowers {N : ℕ} (h : DrainInv N k s)
    (hstep : pipeStep policy onSuccess s i = some s') :
    DrainInv N k s' ∧ s'.remaining < s.remaining := by
  have hok := h.overlapped.ledger
  have hmove := pipeMove_of_step hstep
  have hunused := hmove.unused hok fun _ => h.unused
  have hinv := h.overlapped.step hstep
  have huses : ∀ {n : ℕ} {d : ResponseDataPc}, s.responseData n = d → d.usesPipe ≠ true :=
    fun hdata hd => by
      rw [← hdata, h.unused] at hd
      cases hd
  have hpcs := h.pc
  cases hmove with
  | arrived hdata hmove =>
      exact ⟨⟨h.pc, hunused (Or.inr h.pc), h.issued, hinv⟩,
        PipeClient.remaining_lt (d := .deleting) hok (ne_absent hdata nofun)
          (by rw [hdata]; exact Nat.lt_succ_self 1) rfl rfl⟩
  | callbackDone hdata =>
      exact ⟨⟨h.pc, hunused (Or.inr h.pc), h.issued, hinv⟩,
        PipeClient.remaining_lt (d := .deleting) hok (ne_absent hdata nofun)
          (by rw [hdata]; exact Nat.lt_succ_self 1) rfl rfl⟩
  | deleteData hdata =>
      exact ⟨⟨h.pc, hunused (Or.inr h.pc), h.issued, hinv⟩,
        PipeClient.remaining_lt (d := .absent) hok (ne_absent hdata nofun)
          (by rw [hdata]; exact Nat.lt_succ_self 0) rfl rfl⟩
  | startRead hdata halive => exact absurd (Or.inr h.pc) halive
  | readAccepted hdata => exact absurd rfl (huses hdata)
  | readRefused hdata => exact absurd rfl (huses hdata)
  | readRegistered hdata => exact absurd rfl (huses hdata)
  | readNotRegistered hdata => exact absurd rfl (huses hdata)
  | registered hpc hclient hmove => rw [hpc] at hpcs; cases hpcs
  | _ hpc => rw [hpc] at hpcs; cases hpcs

/-- A callback that is left can go on. -/
theorem DrainInv.progress {N : ℕ} (h : DrainInv N k s) (habsent : s.responseData n ≠ .absent) :
    ∃ i, (pipeStep policy onSuccess s i).isSome = true := by
  have hunused := h.unused n
  cases hdata : s.responseData n with
  | absent => exact absurd hdata habsent
  | registered kind pipeHandle =>
      refine ⟨.getOverlappedResult n false ⟨[], Nat.zero_le _⟩, ?_⟩
      cases kind with
      | write waitForResponse =>
          cases waitForResponse <;> simp only [pipeStep, hdata] <;> rfl
      | read =>
          simp only [pipeStep, hdata]
          rfl
  | reading m =>
      rw [hdata] at hunused
      cases hunused
  | registering m =>
      rw [hdata] at hunused
      cases hunused
  | deleting =>
      refine ⟨.deleteData n, ?_⟩
      simp only [pipeStep, hdata]
      rfl

/-- **The callbacks that are left when the pipe is destroyed free everything.**  Behind the
destructor a run takes two steps at most for each operation, it loses no further event, and where it
cannot go on every operation the client has issued has been freed exactly once. -/
theorem destroyed_pipe_drains {es es' : List (PipeEvent κ)}
    (hrun : run (pipeStep policy onSuccess) .start es = some s) (hpc : s.pc = .destroyed)
    (hrest : run (pipeStep policy onSuccess) s es' = some s') :
    es'.length ≤ 2 * s.issued ∧
      s'.freed.length = s'.closedEvents.length +
        runCost (pipeStep policy onSuccess) refusedOperations .start es ∧
      (s'.freed.Perm (List.range s.issued) ∨
        ∃ i, (pipeStep policy onSuccess s' i).isSome = true) := by
  have hunused : s.IsGone → ∀ n, (s.responseData n).usesPipe = false := by
    refine (invariant_run (I := fun s : PipeClient κ => (∃ k, OverlappedInv k s) ∧
      (s.IsGone → ∀ n, (s.responseData n).usesPipe = false)) ?_
      ⟨⟨0, overlappedInv_start⟩, fun _ _ => rfl⟩ hrun).2
    rintro s i s' ⟨⟨k, h⟩, hgone⟩ hstep
    exact ⟨⟨_, h.step hstep⟩, (pipeMove_of_step hstep).unused h.ledger hgone⟩
  have h : DrainInv s.issued _ s := ⟨hpc, hunused (Or.inr hpc), rfl, overlappedInv_run hrun⟩
  have hbound : s.remaining ≤ 2 * s.issued := by
    refine (Finset.sum_le_card_nsmul _ _ 2 fun n _ => (s.responseData n).remaining_le).trans ?_
    rw [Finset.card_range, Nat.nsmul_eq_mul, Nat.mul_comm]
  have hlength := length_add_le_of_measure (fun s i s' (h : DrainInv _ _ s) hstep => h.lowers hstep)
    h hrest
  have h' := invariant_run (fun s i s' (h : DrainInv _ _ s) hstep => (h.lowers hstep).1) h hrest
  refine ⟨by omega, h'.overlapped.refused, ?_⟩
  by_cases hall : ∀ n, s'.responseData n = .absent
  · left
    rw [← h'.issued]
    refine h'.overlapped.ledger.perm_range fun p => ?_
    cases p with
    | main =>
        rw [PipeClient.ledger_main, h'.pc]
        rfl
    | callback n =>
        rw [PipeClient.ledger_callback, hall]
        rfl
    | data n => exact if_pos (hall n)
  · obtain ⟨n, hn⟩ := not_forall.1 hall
    exact Or.inr (h'.progress hn)

end Ledger

/-- The client is destroyed while a write is under way. -/
def destroyedEarly : List (PipeEvent Unit) :=
  [.connect, .createFile .opened, .readRequest createRequest, .send, .writeFile .ioPending,
    .registerWait true, .finish, .destroy, .closeHandle true]

/-- Its callback does not read the response, and frees what it was given. -/
theorem destroyedEarly_drains :
    ∃ s s', run (pipeStep .async ignoreValue) .start destroyedEarly = some s ∧
      run (pipeStep .async ignoreValue) s [.getOverlappedResult 0 true ⟨[], Nat.zero_le _⟩,
        .deleteData 0] = some s' ∧
      s'.freed = [0] ∧ s'.freed.length = s'.closedEvents.length ∧
      (s'.freed.Perm (List.range 1) ∨
        ∃ i, (pipeStep .async ignoreValue s' i).isSome = true) := by
  have h := @destroyed_pipe_drains Unit .async ignoreValue _ _ destroyedEarly
    [.getOverlappedResult 0 true ⟨[], Nat.zero_le _⟩, .deleteData 0] rfl rfl rfl
  exact ⟨_, _, rfl, rfl, rfl, h.2⟩

end NamedPipeDemo
