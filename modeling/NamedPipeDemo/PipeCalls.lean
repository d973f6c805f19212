/-
**The handles of the client's pipe.**

The client opens a handle whenever it connects, and closes it before it connects again and when it
is destroyed.  With the policy `Sync` one thread does all of this, and every call is made with the
handle that is open.  With `Async` it is not so.  A callback asks for the result of its operation
with the handle the operation was registered with, and reads the response with the handle the pipe
has when the callback runs; if the client has disconnected in between, the one is closed, and the
other is null or belongs to another connection.

Main definitions:

* `NamedPipeDemo.CallsOk` — every call is made with a handle that is open;
* `NamedPipeDemo.OnOpenPipe` — **the handle a callback takes is that of the pipe**, and the pipe is
  connected;
* `NamedPipeDemo.PipeInv` — the invariant of the handles.

Main results:

* `NamedPipeDemo.PipeInv.step` — every step keeps the invariant, and makes its call with an open
  handle exactly when it meets the condition;
* `NamedPipeDemo.pipe_calls_iff` — **the calls of a run are sound exactly when its callbacks find
  the pipe open**, and no handle is closed twice or left open;
* `NamedPipeDemo.sync_pipe_calls` — **with the policy `Sync` they always are.**
-/

import NamedPipeDemo.AsyncPipe
import NamedPipeDemo.Pipe

set_option relaxedAutoImplicit false
set_option autoImplicit false

namespace NamedPipeDemo

open LabelledRuns

/-! ### Handles in a list of calls -/

namespace PipeCall

/-- The handle that a call returns. -/
def opens : PipeCall → Option Handle
  | createFile handle => some handle
  | _ => none

/-- The handle that a call takes. -/
def takes : PipeCall → Option Handle
  | createFile _ => none
  | writeFile handle => some handle
  | readFile handle => some handle
  | getOverlappedResult handle => some handle
  | closeHandle handle => some handle

/-- The handle that a call closes. -/
def closes : PipeCall → Option Handle
  | closeHandle handle => some handle
  | _ => none

end PipeCall

/-- The handles that calls have returned. -/
def openedHandles (calls : List PipeCall) : List Handle := calls.filterMap PipeCall.opens

/-- The handles passed to `CloseHandle`. -/
def closedPipeHandles (calls : List PipeCall) : List Handle := calls.filterMap PipeCall.closes

/-- The handle was returned by a call, and not closed since. -/
def IsOpen (calls : List PipeCall) (handle : Handle) : Prop :=
  handle ∈ openedHandles calls ∧ handle ∉ closedPipeHandles calls

instance (calls : List PipeCall) (handle : Handle) : Decidable (IsOpen calls handle) :=
  inferInstanceAs (Decidable (_ ∧ _))

/-- **Every call is made with a handle that is open.**  The newest call stands first. -/
def CallsOk : List PipeCall → Prop
  | [] => True
  | c :: calls => (∀ handle ∈ c.takes, IsOpen calls handle) ∧ CallsOk calls

instance CallsOk.decidable : ∀ calls, Decidable (CallsOk calls)
  | [] => .isTrue trivial
  | c :: calls =>
      have := CallsOk.decidable calls
      inferInstanceAs (Decidable ((∀ handle ∈ c.takes, IsOpen calls handle) ∧ CallsOk calls))

section Calls

variable {c : PipeCall} {calls : List PipeCall} {handle h : Handle}

theorem openedHandles_of_takes (htakes : c.takes = some handle) :
    openedHandles (c :: calls) = openedHandles calls := by
  cases c <;> first | rfl | cases htakes

/-- A call that takes a handle is made with an open one. -/
theorem callsOk_cons (htakes : c.takes = some handle) :
    CallsOk (c :: calls) ↔ CallsOk calls ∧ IsOpen calls handle := by
  rw [CallsOk, htakes, and_comm]
  refine and_congr_right fun _ => ⟨fun hall => hall handle rfl, fun hopen h hh => ?_⟩
  rwa [← Option.mem_some_iff.1 hh]

/-- A call that closes nothing leaves open what is open. -/
theorem isOpen_of_takes (htakes : c.takes = some handle) (hcloses : c.closes = none) :
    IsOpen (c :: calls) h ↔ IsOpen calls h := by
  rw [IsOpen, openedHandles_of_takes htakes, closedPipeHandles, List.filterMap_cons, hcloses]
  rfl

end Calls

/-! ### The invariant -/

section Handles

variable {κ : Type}

/-- A callback that asks for its result does so while the handle recorded for its operation is the
one the pipe has; and one that reads the response does so while the pipe has a handle.  The read
takes the handle the pipe has at that moment, which can be that of a later connection. -/
def OnOpenPipe (s : PipeClient κ) : PipeEvent κ → Prop
  | .getOverlappedResult n _ _ =>
      match s.responseData n with
      | .registered _ handle => handle = s.pipeHandle ∧ handle ≠ nullHandle
      | _ => True
  | .readFileAsync _ _ => s.pipeHandle ≠ nullHandle
  | _ => True

instance OnOpenPipe.decidable (s : PipeClient κ) (i : PipeEvent κ) :
    Decidable (OnOpenPipe s i) := by
  unfold OnOpenPipe
  split
  · split <;> infer_instance
  · infer_instance
  · infer_instance

/-- Whether the pipe is connected, by where the main thread is. -/
def PipeClient.Placed (s : PipeClient κ) : Prop :=
  match s.pc, s.client.pc with
  | .creating, _ => s.pipeHandle = nullHandle ∧ ∃ n, s.client.pc = .connecting n
  | .waiting, _ => s.pipeHandle = nullHandle ∧ ∃ n, s.client.pc = .connecting n
  | .closing, _ => s.pipeHandle ≠ nullHandle ∧ ∃ n, s.client.pc = .connecting n
  | .destroying, _ => s.pipeHandle ≠ nullHandle ∧ ∃ result, s.client.pc = .returned result
  | .destroyed, _ => s.pipeHandle = nullHandle
  | .outside, .connecting _ => s.pipeHandle = nullHandle
  | .outside, .returned _ => True
  | _, _ => s.pipeHandle ≠ nullHandle

/-- **The invariant**: the handle of the pipe, if it has one, is the only one that is open. -/
structure PipeInv (s : PipeClient κ) : Prop where
  next : s.nextHandle ≠ nullHandle
  fresh : ∀ handle ∈ openedHandles s.calls, handle < s.nextHandle
  current : ∀ handle, IsOpen s.calls handle ↔ handle = s.pipeHandle ∧ handle ≠ nullHandle
  closed : ∀ handle ∈ closedPipeHandles s.calls, handle ∈ openedHandles s.calls
  once : (closedPipeHandles s.calls).Nodup
  placed : s.Placed

variable {policy : ExecutionPolicy}
  {onSuccess : κ → AnyValue → ClassRepository → ClassRepository} {s s' : PipeClient κ}
  {i : PipeEvent κ}

theorem PipeClient.isConnected_iff : s.isConnected = true ↔ s.pipeHandle ≠ nullHandle := by
  rw [isConnected, bne_iff_ne]

/-- A step that makes no call. -/
theorem PipeInv.silent (h : PipeInv s) (hcalls : s'.calls = s.calls)
    (hhandle : s'.pipeHandle = s.pipeHandle) (hnext : s'.nextHandle = s.nextHandle)
    (hplaced : s'.Placed) : PipeInv s' where
  next := by
    rw [hnext]
    exact h.next
  fresh := by
    rw [hcalls, hnext]
    exact h.fresh
  current := by
    rw [hcalls, hhandle]
    exact h.current
  closed := by
    rw [hcalls]
    exact h.closed
  once := by
    rw [hcalls]
    exact h.once
  placed := hplaced

/-- A step that reads, writes or asks for a result. -/
theorem PipeInv.use (h : PipeInv s) {c : PipeCall} {handle : Handle}
    (hcalls : s'.calls = c :: s.calls) (htakes : c.takes = some handle) (hcloses : c.closes = none)
    (hhandle : s'.pipeHandle = s.pipeHandle) (hnext : s'.nextHandle = s.nextHandle)
    (hplaced : s'.Placed) : PipeInv s' := by
  have hclosed : closedPipeHandles s'.calls = closedPipeHandles s.calls := by
    rw [hcalls, closedPipeHandles, List.filterMap_cons, hcloses]
    rfl
  have hopened : openedHandles s'.calls = openedHandles s.calls := by
    rw [hcalls, openedHandles_of_takes htakes]
  refine ⟨by rw [hnext]; exact h.next, ?_, fun h' => ?_, ?_, by rw [hclosed]; exact h.once, hplaced⟩
  · rw [hopened, hnext]
    exact h.fresh
  · rw [hcalls, isOpen_of_takes htakes hcloses, hhandle]
    exact h.current h'
  · rw [hclosed, hopened]
    exact h.closed

/-- `CreateFile` returns a handle that nobody has seen. -/
theorem PipeInv.open (h : PipeInv s) (hnull : s.pipeHandle = nullHandle)
    (hcalls : s'.calls = .createFile s.nextHandle :: s.calls)
    (hhandle : s'.pipeHandle = s.nextHandle) (hnext : s'.nextHandle = s.nextHandle + 1)
    (hplaced : s'.Placed) : PipeInv s' := by
  have hopened : openedHandles s'.calls = s.nextHandle :: openedHandles s.calls := by
    rw [hcalls]
    rfl
  have hclosed : closedPipeHandles s'.calls = closedPipeHandles s.calls := by
    rw [hcalls]
    rfl
  have hnone : ∀ handle, ¬ IsOpen s.calls handle := fun handle hopen => by
    obtain ⟨heq, hne⟩ := (h.current handle).1 hopen
    exact hne (heq.trans hnull)
  have hnew : s.nextHandle ∉ closedPipeHandles s.calls := fun hmem =>
    Nat.lt_irrefl _ (h.fresh _ (h.closed _ hmem))
  refine ⟨?_, fun handle hmem => ?_, fun handle => ?_, fun handle hmem => ?_, ?_, hplaced⟩
  · rw [hnext]
    exact Nat.succ_ne_zero _
  · rw [hopened] at hmem
    rw [hnext]
    rcases List.mem_cons.1 hmem with rfl | hmem
    · exact Nat.lt_succ_self _
    · exact Nat.lt_succ_of_lt (h.fresh handle hmem)
  · rw [IsOpen, hopened, hclosed, hhandle, List.mem_cons]
    constructor
    · rintro ⟨rfl | hmem, hnot⟩
      · exact ⟨rfl, h.next⟩
      · exact absurd ⟨hmem, hnot⟩ (hnone handle)
    · rintro ⟨rfl, _⟩
      exact ⟨Or.inl rfl, hnew⟩
  · rw [hopened]
    rw [hclosed] at hmem
    exact List.mem_cons_of_mem _ (h.closed handle hmem)
  · rw [hclosed]
    exact h.once

/-- `CloseHandle` is called with the handle that is open. -/
theorem PipeInv.close (h : PipeInv s) (hopen : s.pipeHandle ≠ nullHandle)
    (hcalls : s'.calls = .closeHandle s.pipeHandle :: s.calls)
    (hhandle : s'.pipeHandle = nullHandle) (hnext : s'.nextHandle = s.nextHandle)
    (hplaced : s'.Placed) : PipeInv s' := by
  have hopened : openedHandles s'.calls = openedHandles s.calls := by
    rw [hcalls]
    rfl
  have hclosed : closedPipeHandles s'.calls = s.pipeHandle :: closedPipeHandles s.calls := by
    rw [hcalls]
    rfl
  obtain ⟨hmem, hnot⟩ := (h.current s.pipeHandle).2 ⟨rfl, hopen⟩
  refine ⟨by rw [hnext]; exact h.next, by rw [hopened, hnext]; exact h.fresh, fun handle => ?_,
    fun handle hclose => ?_, ?_, hplaced⟩
  · rw [IsOpen, hopened, hclosed, hhandle, List.mem_cons, not_or]
    constructor
    · rintro ⟨hmem', hne, hnot'⟩
      exact absurd ((h.current handle).1 ⟨hmem', hnot'⟩).1 hne
    · rintro ⟨rfl, hne⟩
      exact absurd rfl hne
  · rw [hopened]
    rw [hclosed] at hclose
    rcases List.mem_cons.1 hclose with rfl | hclose
    · exact hmem
    · exact h.closed handle hclose
  · rw [hclosed]
    exact List.nodup_cons.2 ⟨hnot, h.once⟩

/-! ### Steps -/

/-- Outside the pipe and connected, the client is not about to connect. -/
theorem PipeClient.placed_open (hpc : s.pc = .outside) (hopen : s.pipeHandle ≠ nullHandle)
    (hclient : ∀ n, s.client.pc ≠ .connecting n) : s.Placed := by
  simp only [Placed, hpc]
  cases hc : s.client.pc with
  | connecting n => exact absurd hc (hclient n)
  | returned result => trivial
  | _ => exact hopen

/-- Outside the pipe and not connected, the client is about to connect or has returned. -/
theorem PipeClient.placed_null (hpc : s.pc = .outside) (hnull : s.pipeHandle = nullHandle)
    (hclient : (∃ n, s.client.pc = .connecting n) ∨ ∃ result, s.client.pc = .returned result) :
    s.Placed := by
  simp only [Placed, hpc]
  rcases hclient with ⟨n, hc⟩ | ⟨result, hc⟩ <;> rw [hc]
  · exact hnull
  · trivial

/-- A callback leaves the main thread where it is. -/
theorem PipeClient.Placed.congr (h : s.Placed) (hpc : s'.pc = s.pc)
    (hclient : s'.client.pc = s.client.pc) (hhandle : s'.pipeHandle = s.pipeHandle) :
    s'.Placed := by
  rw [Placed, hpc, hclient, hhandle]
  exact h

/-- The client goes on behind a connection that was made. -/
theorem pc_of_connected {c c' : ClientRun κ}
    (h : clientStep policy onSuccess c (.connect true) = some c') : ∀ n, c'.pc ≠ .connecting n := by
  cases clientMove_of_step h with
  | connect hpc => nofun

/-- The client tries again or gives up. -/
theorem pc_of_not_connected {c c' : ClientRun κ}
    (h : clientStep policy onSuccess c (.connect false) = some c') :
    (∃ n, c'.pc = .connecting n) ∨ ∃ result, c'.pc = .returned result := by
  cases clientMove_of_step h with
  | @connect _ n hpc =>
      simp only [connectToPipe, Bool.false_eq_true, if_false]
      split
      · exact Or.inr ⟨_, rfl⟩
      · exact Or.inl ⟨_, rfl⟩

/-- Behind a send that did not find the pipe closed the client does not connect. -/
theorem pc_of_send {c c' : ClientRun κ} {outcome : SendOutcome}
    (h : clientStep policy onSuccess c (.send outcome) = some c') (hne : outcome ≠ .noData) :
    ∀ n, c'.pc ≠ .connecting n := by
  cases clientMove_of_step h with
  | send hpc =>
      cases outcome with
      | success =>
          intro n hc
          simp only [ClientRun.send, afterSend] at hc
          split at hc <;> cases hc
      | noData => exact absurd rfl hne
      | failed =>
          intro n hc
          cases hc

/-- Behind a send that found the pipe closed it does. -/
theorem pc_of_noData {c c' : ClientRun κ}
    (h : clientStep policy onSuccess c (.send .noData) = some c') :
    ∃ n, c'.pc = .connecting n := by
  cases clientMove_of_step h with
  | send hpc => exact ⟨0, rfl⟩

/-- Behind a response the client is at the head of its loop. -/
theorem pc_of_readResponse {c c' : ClientRun κ} {response : Option RawDataType}
    (h : clientStep policy onSuccess c (.readResponse response) = some c') :
    ∀ n, c'.pc ≠ .connecting n := by
  cases clientMove_of_step h <;> nofun

/-- The handle of the connected pipe is open. -/
theorem PipeInv.isOpen (h : PipeInv s) (hopen : s.pipeHandle ≠ nullHandle) :
    IsOpen s.calls s.pipeHandle := (h.current _).2 ⟨rfl, hopen⟩

/-- A step of the main thread that uses the connected pipe. -/
theorem PipeInv.useOpen (h : PipeInv s) {c : PipeCall} (hopen : s.pipeHandle ≠ nullHandle)
    (hcalls : s'.calls = c :: s.calls) (htakes : c.takes = some s.pipeHandle)
    (hcloses : c.closes = none) (hhandle : s'.pipeHandle = s.pipeHandle)
    (hnext : s'.nextHandle = s.nextHandle) (hplaced : s'.Placed) :
    PipeInv s' ∧ (CallsOk s'.calls ↔ CallsOk s.calls ∧ True) := by
  refine ⟨h.use hcalls htakes hcloses hhandle hnext hplaced, ?_⟩
  rw [hcalls, callsOk_cons htakes]
  exact and_congr_right fun _ => iff_of_true (h.isOpen hopen) trivial

/-- A step that makes no call makes none with a closed handle. -/
theorem PipeInv.silentOk (h : PipeInv s) (hcalls : s'.calls = s.calls)
    (hhandle : s'.pipeHandle = s.pipeHandle) (hnext : s'.nextHandle = s.nextHandle)
    (hplaced : s'.Placed) : PipeInv s' ∧ (CallsOk s'.calls ↔ CallsOk s.calls ∧ True) := by
  refine ⟨h.silent hcalls hhandle hnext hplaced, ?_⟩
  rw [hcalls, and_true]

/-- The thread behind a failed write, which disconnects when the pipe is connected. -/
theorem PipeClient.placed_disconnect {c : ClientRun κ} (hopen : s.pipeHandle ≠ nullHandle)
    (hpc : s'.pc = s.disconnect .closing .outside) (hhandle : s'.pipeHandle = s.pipeHandle)
    (hstep : clientStep policy onSuccess s.client (.send .noData) = some c)
    (hclient : s'.client = c) : s'.Placed := by
  rw [disconnect, if_pos (isConnected_iff.2 hopen)] at hpc
  simp only [Placed, hpc, hhandle, hclient]
  exact ⟨hopen, pc_of_noData hstep⟩

/-- **Every step keeps the invariant, and makes its call with an open handle exactly when it meets
the condition.** -/
theorem PipeInv.step (h : PipeInv s) (hstep : pipeStep policy onSuccess s i = some s') :
    PipeInv s' ∧ (CallsOk s'.calls ↔ CallsOk s.calls ∧ OnOpenPipe s i) := by
  have hplaced := h.placed
  cases pipeMove_of_step hstep with
  | alreadyConnected hpc hclient hopen hmove =>
      simp only [PipeClient.Placed, hpc, hclient] at hplaced
      exact absurd hplaced (PipeClient.isConnected_iff.1 hopen)
  | @connect n hpc hclient hopen =>
      simp only [PipeClient.Placed, hpc, hclient] at hplaced
      exact h.silentOk rfl rfl rfl ⟨hplaced, n, hclient⟩
  | opened hpc hmove =>
      simp only [PipeClient.Placed, hpc] at hplaced
      refine ⟨h.open hplaced.1 rfl rfl rfl ?_, ?_⟩
      · exact PipeClient.placed_open rfl h.next (pc_of_connected hmove)
      · simp [CallsOk, PipeClient.call, PipeCall.takes, OnOpenPipe]
  | pipeBusy hpc =>
      simp only [PipeClient.Placed, hpc] at hplaced
      exact h.silentOk rfl rfl rfl hplaced
  | createFailed hpc hmove =>
      simp only [PipeClient.Placed, hpc] at hplaced
      exact h.silentOk rfl rfl rfl
        (PipeClient.placed_null rfl hplaced.1 (pc_of_not_connected hmove))
  | ready hpc =>
      simp only [PipeClient.Placed, hpc] at hplaced
      exact h.silentOk rfl rfl rfl hplaced
  | timeout hpc hmove =>
      simp only [PipeClient.Placed, hpc] at hplaced
      exact h.silentOk rfl rfl rfl
        (PipeClient.placed_null rfl hplaced.1 (pc_of_not_connected hmove))
  | finish hpc hmove =>
      refine h.silentOk rfl rfl rfl ?_
      cases clientMove_of_step hmove with
      | finish hclient =>
          simp only [PipeClient.Placed, hpc, hclient] at hplaced
          exact PipeClient.placed_open hpc hplaced nofun
  | readRequest hpc hmove =>
      refine h.silentOk rfl rfl rfl ?_
      cases clientMove_of_step hmove with
      | skip hclient hdata => exact hplaced
      | register hclient hdata hcounter =>
          simp only [PipeClient.Placed, hpc, hclient] at hplaced
          exact PipeClient.placed_open hpc hplaced nofun
  | send hpc hclient hpolicy =>
      simp only [PipeClient.Placed, hpc, hclient] at hplaced
      exact h.silentOk rfl rfl rfl hplaced
  | sendAsync hpc hclient hpolicy =>
      simp only [PipeClient.Placed, hpc, hclient] at hplaced
      exact h.silentOk rfl rfl rfl hplaced
  | written hpc hresult hmove =>
      simp only [PipeClient.Placed, hpc] at hplaced
      exact h.useOpen hplaced rfl rfl rfl rfl rfl
        (PipeClient.placed_open rfl hplaced (pc_of_send hmove hresult))
  | notWritten hpc hresult hmove =>
      simp only [PipeClient.Placed, hpc] at hplaced
      exact h.useOpen hplaced rfl rfl rfl rfl rfl
        (PipeClient.placed_disconnect hplaced rfl rfl hmove rfl)
  | accepted hpc hresult =>
      simp only [PipeClient.Placed, hpc] at hplaced
      exact h.useOpen hplaced rfl rfl rfl rfl rfl hplaced
  | @refused result n client pc hpc hresult hnext hmove =>
      simp only [PipeClient.Placed, hpc] at hplaced
      refine h.useOpen hplaced rfl rfl rfl rfl rfl ?_
      by_cases hnoData : result.outcome = .noData
      · rw [if_pos hnoData] at hnext
        exact PipeClient.placed_disconnect hplaced hnext rfl (hnoData ▸ hmove) rfl
      · rw [if_neg hnoData] at hnext
        exact PipeClient.placed_open hnext hplaced (pc_of_send hmove hnoData)
  | registered hpc hclient hmove =>
      simp only [PipeClient.Placed, hpc] at hplaced
      exact h.silentOk rfl rfl rfl
        (PipeClient.placed_open rfl hplaced (pc_of_send hmove nofun))
  | notRegistered hpc hclient hmove =>
      simp only [PipeClient.Placed, hpc] at hplaced
      exact h.silentOk rfl rfl rfl
        (PipeClient.placed_open rfl hplaced (pc_of_send hmove nofun))
  | read hpc hclient =>
      simp only [PipeClient.Placed, hpc, hclient] at hplaced
      exact h.silentOk rfl rfl rfl hplaced
  | readAll hpc hlen hmove =>
      simp only [PipeClient.Placed, hpc] at hplaced
      exact h.useOpen hplaced rfl rfl rfl rfl rfl
        (PipeClient.placed_open rfl hplaced (pc_of_readResponse hmove))
  | moreData hpc =>
      simp only [PipeClient.Placed, hpc] at hplaced
      exact h.useOpen hplaced rfl rfl rfl rfl rfl hplaced
  | readFailed hpc hmove =>
      simp only [PipeClient.Placed, hpc] at hplaced
      exact h.useOpen hplaced rfl rfl rfl rfl rfl
        (PipeClient.placed_open rfl hplaced (pc_of_readResponse hmove))
  | disconnected hpc =>
      simp only [PipeClient.Placed, hpc] at hplaced
      refine ⟨h.close hplaced.1 rfl rfl rfl
        (PipeClient.placed_null rfl rfl (Or.inl hplaced.2)), ?_⟩
      refine (callsOk_cons rfl).trans (and_congr_right fun _ => ?_)
      exact iff_of_true (h.isOpen hplaced.1) trivial
  | destroyed hpc =>
      simp only [PipeClient.Placed, hpc] at hplaced
      refine ⟨h.close hplaced.1 rfl rfl rfl rfl, ?_⟩
      refine (callsOk_cons rfl).trans (and_congr_right fun _ => ?_)
      exact iff_of_true (h.isOpen hplaced.1) trivial
  | @destroy result hpc hclient hunused =>
      refine h.silentOk rfl rfl rfl ?_
      by_cases hopen : s.isConnected = true
      · simp only [PipeClient.Placed, PipeClient.disconnect, if_pos hopen]
        exact ⟨PipeClient.isConnected_iff.1 hopen, result, hclient⟩
      · simp only [PipeClient.Placed, PipeClient.disconnect, if_neg hopen]
        exact Decidable.byContradiction fun hne => hopen (PipeClient.isConnected_iff.2 hne)
  | @startRead n pipeHandle data hdata halive =>
      refine ⟨h.use rfl rfl rfl rfl rfl (hplaced.congr rfl rfl rfl), ?_⟩
      refine (callsOk_cons rfl).trans (and_congr_right fun _ => ?_)
      simp only [OnOpenPipe, hdata]
      exact h.current pipeHandle
  | @arrived n pipeHandle data client hdata hmove =>
      have hclient : client.pc = s.client.pc := by
        cases clientMove_of_step hmove with
        | arrive hasync hdec => exact (ClientRun.frame_answer onSuccess s.client _).1
      refine ⟨h.use rfl rfl rfl rfl rfl (hplaced.congr rfl hclient rfl), ?_⟩
      refine (callsOk_cons rfl).trans (and_congr_right fun _ => ?_)
      simp only [OnOpenPipe, hdata]
      exact h.current pipeHandle
  | @callbackDone n success data kind pipeHandle hdata =>
      refine ⟨h.use rfl rfl rfl rfl rfl (hplaced.congr rfl rfl rfl), ?_⟩
      refine (callsOk_cons rfl).trans (and_congr_right fun _ => ?_)
      simp only [OnOpenPipe, hdata]
      exact h.current pipeHandle
  | readAccepted hdata =>
      refine ⟨h.use rfl rfl rfl rfl rfl (hplaced.congr rfl rfl rfl), ?_⟩
      refine (callsOk_cons rfl).trans (and_congr_right fun _ => ?_)
      rw [h.current]
      exact and_iff_right rfl
  | readRefused hdata =>
      refine ⟨h.use rfl rfl rfl rfl rfl (hplaced.congr rfl rfl rfl), ?_⟩
      refine (callsOk_cons rfl).trans (and_congr_right fun _ => ?_)
      rw [h.current]
      exact and_iff_right rfl
  | readRegistered hdata => exact h.silentOk rfl rfl rfl (hplaced.congr rfl rfl rfl)
  | readNotRegistered hdata => exact h.silentOk rfl rfl rfl (hplaced.congr rfl rfl rfl)
  | deleteData hdata => exact h.silentOk rfl rfl rfl (hplaced.congr rfl rfl rfl)

theorem pipeInv_start : PipeInv (.start : PipeClient κ) where
  next := Nat.one_ne_zero
  fresh := nofun
  current := fun _ => ⟨fun hopen => absurd hopen.1 List.not_mem_nil, fun h => absurd h.1 h.2⟩
  closed := nofun
  once := List.nodup_nil
  placed := rfl

/-! ### Runs -/

/-- **The calls of a run are sound exactly when its callbacks find the pipe open**: every call takes
a handle that was returned and not closed, unless a callback asks for its result when the handle
recorded for its operation is no longer that of the pipe, or reads when the pipe is not connected.
In every run no handle is closed twice, one at most is open at a time, and none is left open. -/
theorem pipe_calls_iff {es : List (PipeEvent κ)}
    (hrun : run (pipeStep policy onSuccess) .start es = some s) :
    (CallsOk s.calls ↔ Along (pipeStep policy onSuccess) OnOpenPipe .start es) ∧
      (closedPipeHandles s.calls).Nodup ∧
      (∀ handle ∈ openedHandles s.calls,
        handle ∈ closedPipeHandles s.calls ∨ handle = s.pipeHandle) ∧
      (s.pc = .destroyed → ∀ handle ∈ openedHandles s.calls,
        handle ∈ closedPipeHandles s.calls) := by
  have hinv : PipeInv s ∧
      (CallsOk s.calls ↔ Along (pipeStep policy onSuccess) OnOpenPipe .start es) := by
    refine invariant_history (I := fun es s => PipeInv s ∧
      (CallsOk s.calls ↔ Along (pipeStep policy onSuccess) OnOpenPipe .start es))
      ⟨pipeInv_start, Iff.rfl⟩ ?_ hrun
    rintro es i t t' ht ⟨h, hiff⟩ hstep
    obtain ⟨h', hcalls⟩ := h.step hstep
    exact ⟨h', by rw [hcalls, along_concat ht, hiff]⟩
  obtain ⟨h, hiff⟩ := hinv
  refine ⟨hiff, h.once, fun handle hmem => ?_, fun hpc handle hmem => ?_⟩
  · by_cases hclosed : handle ∈ closedPipeHandles s.calls
    · exact Or.inl hclosed
    · exact Or.inr ((h.current handle).1 ⟨hmem, hclosed⟩).1
  · by_contra hclosed
    obtain ⟨heq, hne⟩ := (h.current handle).1 ⟨hmem, hclosed⟩
    have hplaced := h.placed
    simp only [PipeClient.Placed, hpc] at hplaced
    exact hne (heq.trans hplaced)

/-- A request is written, the next write finds the pipe closed, and the client connects again before
the callback of the first one runs. -/
def lateCallback : List (PipeEvent Unit) :=
  [.connect, .createFile .opened, .readRequest createRequest, .send, .writeFile .success,
    .registerWait true, .readRequest createRequest, .send, .writeFile .noData, .closeHandle true,
    .connect, .createFile .opened, .getOverlappedResult 0 true ⟨[], Nat.zero_le _⟩]

/-- The callback asks for its result with a handle that is closed. -/
theorem lateCallback_not_ok :
    ∃ s, run (pipeStep .async ignoreValue) .start lateCallback = some s ∧ ¬ CallsOk s.calls ∧
      ¬ Along (pipeStep .async ignoreValue) OnOpenPipe .start lateCallback := by
  have hcalls : (run (pipeStep .async ignoreValue) .start lateCallback).map PipeClient.calls =
      some [.getOverlappedResult 1, .createFile 2, .closeHandle 1, .writeFile 1, .writeFile 1,
        .createFile 1] := by decide
  obtain ⟨s, hrun, hs⟩ := Option.map_eq_some_iff.1 hcalls
  have hnot : ¬ CallsOk s.calls := by
    rw [hs]
    decide
  exact ⟨s, hrun, hnot, fun hin => hnot ((pipe_calls_iff hrun).1.2 hin)⟩

/-- Nothing overlapped is under way. -/
structure NotOverlapped (s : PipeClient κ) : Prop where
  data : ∀ n, s.responseData n = .absent
  writing : ∀ n, s.pc ≠ .writingOverlapped n
  registering : ∀ n, s.pc ≠ .registering n

/-- With the policy `Sync` nothing is ever issued. -/
theorem NotOverlapped.step (h : NotOverlapped s)
    (hstep : pipeStep .sync onSuccess s i = some s') : NotOverlapped s' ∧ OnOpenPipe s i := by
  cases pipeMove_of_step hstep with
  | sendAsync hpc hclient hpolicy => cases hpolicy
  | accepted hpc hresult => exact absurd hpc (h.writing _)
  | refused hpc hresult hnext hmove => exact absurd hpc (h.writing _)
  | registered hpc hclient hmove => exact absurd hpc (h.registering _)
  | notRegistered hpc hclient hmove => exact absurd hpc (h.registering _)
  | startRead hdata halive => exact absurd hdata (by rw [h.data]; nofun)
  | arrived hdata hmove => exact absurd hdata (by rw [h.data]; nofun)
  | callbackDone hdata => exact absurd hdata (by rw [h.data]; nofun)
  | readAccepted hdata => exact absurd hdata (by rw [h.data]; nofun)
  | readRefused hdata => exact absurd hdata (by rw [h.data]; nofun)
  | readRegistered hdata => exact absurd hdata (by rw [h.data]; nofun)
  | readNotRegistered hdata => exact absurd hdata (by rw [h.data]; nofun)
  | deleteData hdata => exact absurd hdata (by rw [h.data]; nofun)
  | alreadyConnected hpc hclient hopen hmove => exact ⟨⟨h.data, h.writing, h.registering⟩, trivial⟩
  | finish hpc hmove => exact ⟨⟨h.data, h.writing, h.registering⟩, trivial⟩
  | readRequest hpc hmove => exact ⟨⟨h.data, h.writing, h.registering⟩, trivial⟩
  | notWritten hpc hresult hmove =>
      refine ⟨⟨h.data, fun n => ?_, fun n => ?_⟩, trivial⟩ <;>
        (simp only [PipeClient.disconnect]; split <;> nofun)
  | destroy hpc hclient hunused =>
      refine ⟨⟨h.data, fun n => ?_, fun n => ?_⟩, trivial⟩ <;>
        (simp only [PipeClient.disconnect]; split <;> nofun)
  | _ => exact ⟨⟨h.data, nofun, nofun⟩, trivial⟩

/-- **With the policy `Sync` every call is made with a handle that is open.** -/
theorem sync_pipe_calls {es : List (PipeEvent κ)}
    (hrun : run (pipeStep .sync onSuccess) .start es = some s) : CallsOk s.calls := by
  refine (invariant_run (I := fun s : PipeClient κ =>
    NotOverlapped s ∧ PipeInv s ∧ CallsOk s.calls) ?_ ?_ hrun).2.2
  · rintro s i s' ⟨hnone, h, hok⟩ hstep
    obtain ⟨hnone', hin⟩ := hnone.step hstep
    obtain ⟨h', hcalls⟩ := h.step hstep
    exact ⟨hnone', h', hcalls.2 ⟨hok, hin⟩⟩
  · exact ⟨⟨fun _ => rfl, nofun, nofun⟩, pipeInv_start, trivial⟩

end Handles

/-- A request is sent and answered, the response in two parts, and the client is destroyed. -/
def syncConnection : List (PipeEvent Unit) :=
  [.connect, .createFile .pipeBusy, .waitNamedPipe true, .createFile .opened,
    .readRequest createRequest, .send, .writeFile .success, .read,
    .readFile (.moreData (createRequestIdData 1)), .readFile (.success (serializeInt 0)), .finish,
    .destroy, .closeHandle true]

theorem syncConnection_ok :
    ∃ s, run (pipeStep .sync ignoreValue) .start syncConnection = some s ∧
      s.calls.length = 5 ∧ CallsOk s.calls := by
  have hlength : (run (pipeStep .sync ignoreValue) .start syncConnection).map
      (fun s => s.calls.length) = some 5 := by decide
  obtain ⟨s, hrun, hs⟩ := Option.map_eq_some_iff.1 hlength
  exact ⟨s, hrun, hs, sync_pipe_calls hrun⟩

end NamedPipeDemo
