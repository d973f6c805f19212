/-
**`Pipe`, call by call: the client at the level of the Win32 functions.**

`NamedPipeDemo.clientStep` runs the loop of the client with the calls of its pipe as labels.  This
module goes one level down and runs the pipe as well: the loop of `Connect`, the two pairs of
functions that write and read, and the callbacks that the system starts when an overlapped operation
is done.  One step is one Win32 call.  What a call comes to is in the labels.

An overlapped operation is given a number.  The number stands for its `OVERLAPPED`, for its event,
and later for the `WriteResponseData` or `ReadResponseData` that owns both.  Until that exists they
belong to the thread that issues the operation: the main thread, or the callback of a write that
reads the response.  `pipe_handle_` has no mutex, and the callbacks read it whenever they run.

Main definitions:

* `NamedPipeDemo.PipeClient`, `NamedPipeDemo.pipeStep` — **the client with its pipe, and its
  steps**;
* `NamedPipeDemo.PipeMove` — what a step can do.

Main results:

* `NamedPipeDemo.pipeMove_of_step` — every step is one of the moves;
* `NamedPipeDemo.pipe_refines_client` — **every run of the client with its pipe is a run of the loop
  of the client.**
-/

import NamedPipeDemo.Client
import NamedPipeDemo.ServerThreads

set_option relaxedAutoImplicit false
set_option autoImplicit false

namespace NamedPipeDemo

open LabelledRuns

/-! ### The calls -/

/-- What `CreateFile` comes to. -/
inductive CreateFileResult
  | opened
  /-- `ERROR_PIPE_BUSY`: all instances of the pipe are in use. -/
  | pipeBusy
  | failed
  deriving DecidableEq, Repr

/-- What `WriteFile` comes to. -/
inductive WriteFileResult
  | success
  /-- `ERROR_IO_PENDING` -/
  | ioPending
  /-- `ERROR_NO_DATA`: the pipe is being closed. -/
  | noData
  | failed
  deriving DecidableEq, Repr

/-- What `ReadFile` comes to, with the bytes it has put into the buffer. -/
inductive ReadFileResult
  | success (data : RawData)
  /-- `ERROR_MORE_DATA`: the message does not fit the buffer. -/
  | moreData (data : RawData)
  | failed
  deriving DecidableEq, Repr

/-- The calls that return a pipe handle or take one. -/
inductive PipeCall
  | createFile (handle : Handle)
  | writeFile (handle : Handle)
  | readFile (handle : Handle)
  | getOverlappedResult (handle : Handle)
  | closeHandle (handle : Handle)
  deriving DecidableEq, Repr

/-- Whether the send functions take a write for a failure. -/
def WriteFileResult.outcome : WriteFileResult → SendOutcome
  | success => .success
  | ioPending => .success
  | noData => .noData
  | failed => .failed

/-! ### The state -/

/-- Where the main thread is in the functions of `Pipe`. -/
inductive PipePc
  /-- In none of them. -/
  | outside
  /-- In `Connect`, at `CreateFile`. -/
  | creating
  /-- At `WaitNamedPipe`. -/
  | waiting
  /-- In `SendDataToServerSync`, at `WriteFile`. -/
  | writing
  /-- In `ReadDataFromServerSync`, at `ReadFile`, with what has been read. -/
  | reading (res : RawData)
  /-- In `SendDataToServerAsync`, at `WriteFile`. -/
  | writingOverlapped (n : ℕ)
  /-- At `RegisterWaitForSingleObject`. -/
  | registering (n : ℕ)
  /-- In `DisconnectFromServer`, at `CloseHandle`. -/
  | closing
  /-- In the destructor, at `CloseHandle`. -/
  | destroying
  | destroyed
  deriving DecidableEq, Repr

/-- What the callback of an operation is for. -/
inductive OverlappedKind
  | write (waitForResponse : Bool)
  | read
  deriving DecidableEq, Repr

/-- A `WriteResponseData` or a `ReadResponseData`, and where the callback is that was given it. -/
inductive ResponseDataPc
  /-- There is none. -/
  | absent
  /-- The wait is registered, and `pipe_handle` is set. -/
  | registered (kind : OverlappedKind) (pipeHandle : Handle)
  /-- In `ReadDataFromServerAsync`, at `ReadFile`. -/
  | reading (m : ℕ)
  /-- At `RegisterWaitForSingleObject`. -/
  | registering (m : ℕ)
  /-- At `delete`. -/
  | deleting
  deriving DecidableEq, Repr

/-- The callback holds a pointer to the pipe. -/
def ResponseDataPc.usesPipe : ResponseDataPc → Bool
  | reading _ => true
  | registering _ => true
  | _ => false

/-- The client with its pipe.  The last four fields are history: the operations issued, the calls
with a pipe handle, the `OVERLAPPED`s deleted and the events closed, newest first. -/
structure PipeClient (κ : Type) where
  client : ClientRun κ
  pc : PipePc := .outside
  pipeHandle : Handle := nullHandle
  nextHandle : Handle := 1
  responseData : ℕ → ResponseDataPc := fun _ => .absent
  issued : ℕ := 0
  calls : List PipeCall := []
  freed : List ℕ := []
  closedEvents : List ℕ := []

namespace PipeClient

variable {κ : Type} (policy : ExecutionPolicy)
  (onSuccess : κ → AnyValue → ClassRepository → ClassRepository) (s : PipeClient κ)

/-- `IsConnected` -/
def isConnected : Bool := s.pipeHandle != nullHandle

/-- A function of the pipe returns to the loop of the client, which goes on. -/
def return_ (i : ClientEvent κ) : Option (PipeClient κ) :=
  (clientStep policy onSuccess s.client i).map fun client => { s with client := client }

/-- A call is made. -/
def call (c : PipeCall) : PipeClient κ := { s with calls := c :: s.calls }

/-- `new OVERLAPPED` and `CreateEvent`, which is taken to succeed. -/
def issue : PipeClient κ := { s with issued := s.issued + 1 }

/-- The callback of the operation `n` moves on. -/
def setData (n : ℕ) (pc : ResponseDataPc) : PipeClient κ :=
  { s with responseData := Function.update s.responseData n pc }

/-- `delete overlapped`; the event stays open. -/
def deleteOverlapped (n : ℕ) : PipeClient κ := { s with freed := n :: s.freed }

/-- The destructor of `WriteResponseData` and of `ReadResponseData`. -/
def deleteData (n : ℕ) : PipeClient κ :=
  { s with freed := n :: s.freed, closedEvents := n :: s.closedEvents }

/-- `CloseHandle(pipe_handle_)`; the handle is forgotten whether the call succeeds or not. -/
def closeHandle : PipeClient κ :=
  { s with calls := .closeHandle s.pipeHandle :: s.calls, pipeHandle := nullHandle }

/-- Where the thread is when it has called `DisconnectFromServer`. -/
def disconnect (ifConnected otherwise : PipePc) : PipePc :=
  if s.isConnected then ifConnected else otherwise

/-- Before the first call: the client has a data source and a parser. -/
def start : PipeClient κ where
  client := .start true true

end PipeClient

/-! ### Steps -/

/-- What happens: the main thread calls a function of the pipe or a Win32 call returns, in the main
thread or in the callback of the operation `n`. -/
inductive PipeEvent (κ : Type)
  | connect
  | createFile (result : CreateFileResult)
  | waitNamedPipe (ready : Bool)
  | finish
  | readRequest (request : ClientRequest κ)
  | send
  | writeFile (result : WriteFileResult)
  | registerWait (success : Bool)
  | read
  | readFile (result : ReadFileResult)
  | closeHandle (success : Bool)
  | destroy
  | getOverlappedResult (n : ℕ) (success : Bool) (data : RawDataType)
  | readFileAsync (n : ℕ) (accepted : Bool)
  | registerRead (n : ℕ) (success : Bool)
  | deleteData (n : ℕ)

section Step

variable {κ : Type} (policy : ExecutionPolicy)
  (onSuccess : κ → AnyValue → ClassRepository → ClassRepository)

/-- **One step of the client with its pipe.** -/
def pipeStep (s : PipeClient κ) : PipeEvent κ → Option (PipeClient κ)
  | .connect =>
      match s.pc, s.client.pc with
      | .outside, .connecting _ =>
          if s.isConnected then s.return_ policy onSuccess (.connect true)
          else some { s with pc := .creating }
      | _, _ => none
  | .createFile result =>
      match s.pc, result with
      | .creating, .opened =>
          { (s.call (.createFile s.nextHandle)) with
            pipeHandle := s.nextHandle
            nextHandle := s.nextHandle + 1
            pc := .outside }.return_ policy onSuccess (.connect true)
      | .creating, .pipeBusy => some { s with pc := .waiting }
      | .creating, .failed => { s with pc := .outside }.return_ policy onSuccess (.connect false)
      | _, _ => none
  | .waitNamedPipe ready =>
      match s.pc, ready with
      | .waiting, true => some { s with pc := .creating }
      | .waiting, false => { s with pc := .outside }.return_ policy onSuccess (.connect false)
      | _, _ => none
  | .finish =>
      match s.pc with
      | .outside => s.return_ policy onSuccess .finish
      | _ => none
  | .readRequest request =>
      match s.pc with
      | .outside => s.return_ policy onSuccess (.readRequest request)
      | _ => none
  | .send =>
      match s.pc, s.client.pc, policy with
      | .outside, .sending _ _, .sync => some { s with pc := .writing }
      | .outside, .sending _ _, .async => some { s.issue with pc := .writingOverlapped s.issued }
      | _, _, _ => none
  | .writeFile result =>
      let s' := s.call (.writeFile s.pipeHandle)
      match s.pc, result.outcome with
      | .writing, .success => { s' with pc := .outside }.return_ policy onSuccess (.send .success)
      -- the client disconnects before it connects again
      | .writing, .noData =>
          { s' with pc := s.disconnect .closing .outside }.return_ policy onSuccess (.send .noData)
      | .writing, .failed => { s' with pc := .outside }.return_ policy onSuccess (.send .failed)
      | .writingOverlapped n, .success => some { s' with pc := .registering n }
      | .writingOverlapped n, .noData =>
          { s'.deleteOverlapped n with
            pc := s.disconnect .closing .outside }.return_ policy onSuccess (.send .noData)
      | .writingOverlapped n, .failed =>
          { s'.deleteOverlapped n with pc := .outside }.return_ policy onSuccess (.send .failed)
      | _, _ => none
  | .registerWait success =>
      match s.pc, s.client.pc with
      | .registering n, .sending _ request =>
          -- the send counts as successful in either case
          { (if success then s.setData n (.registered (.write request.waitForResponse) s.pipeHandle)
              else s.deleteData n) with
            pc := .outside }.return_ policy onSuccess (.send .success)
      | _, _ => none
  | .read =>
      match s.pc, s.client.pc with
      | .outside, .reading _ => some { s with pc := .reading [] }
      | _, _ => none
  | .readFile result =>
      let s' := s.call (.readFile s.pipeHandle)
      match s.pc, result with
      | .reading res, .success data =>
          if h : (res ++ data).length ≤ maxSize then
            { s' with pc := .outside }.return_ policy onSuccess
              (.readResponse (some ⟨res ++ data, h⟩))
          else none
      | .reading res, .moreData data => some { s' with pc := .reading (res ++ data) }
      -- what has been read is dropped
      | .reading _, .failed => { s' with pc := .outside }.return_ policy onSuccess
          (.readResponse none)
      | _, _ => none
  | .closeHandle _ =>
      match s.pc with
      | .closing => some { s.closeHandle with pc := .outside }
      | .destroying => some { s.closeHandle with pc := .destroyed }
      | _ => none
  | .destroy =>
      match s.pc, s.client.pc with
      | .outside, .returned _ =>
          -- the pipe is destroyed with the last pointer to it
          if ∀ n < s.issued, (s.responseData n).usesPipe = false then
            some { s with pc := s.disconnect .destroying .destroyed }
          else none
      | _, _ => none
  | .getOverlappedResult n success data =>
      match s.responseData n with
      | .registered kind pipeHandle =>
          let s' := s.call (.getOverlappedResult pipeHandle)
          match kind, success with
          | .write true, true =>
              if s.pc = .destroying ∨ s.pc = .destroyed then some (s'.setData n .deleting)
              else some (s'.issue.setData n (.reading s.issued))
          | .write false, true => some (s'.setData n .deleting)
          | .read, true => (s'.setData n .deleting).return_ policy onSuccess (.responseArrived data)
          | _, false => some (s'.setData n .deleting)
      | _ => none
  | .readFileAsync n accepted =>
      match s.responseData n with
      | .reading m =>
          let s' := s.call (.readFile s.pipeHandle)
          if accepted then some (s'.setData n (.registering m))
          else some ((s'.deleteOverlapped m).setData n .deleting)
      | _ => none
  | .registerRead n success =>
      match s.responseData n with
      | .registering m =>
          if success then
            some ((s.setData m (.registered .read s.pipeHandle)).setData n .deleting)
          else some ((s.deleteData m).setData n .deleting)
      | _ => none
  | .deleteData n =>
      match s.responseData n with
      | .deleting => some ((s.deleteData n).setData n .absent)
      | _ => none

end Step

/-! ### Moves -/

section Moves

variable {κ : Type} (policy : ExecutionPolicy)
  (onSuccess : κ → AnyValue → ClassRepository → ClassRepository)

/-- **What a step can do.**  The hypotheses named `hstep` are steps of the loop of the client. -/
inductive PipeMove (s : PipeClient κ) : PipeEvent κ → PipeClient κ → Prop
  | alreadyConnected {n : ℕ} {client : ClientRun κ} (hpc : s.pc = .outside)
      (hclient : s.client.pc = .connecting n) (hopen : s.isConnected = true)
      (hstep : clientStep policy onSuccess s.client (.connect true) = some client) :
      PipeMove s .connect { s with client := client }
  | connect {n : ℕ} (hpc : s.pc = .outside) (hclient : s.client.pc = .connecting n)
      (hopen : s.isConnected = false) : PipeMove s .connect { s with pc := .creating }
  | opened {client : ClientRun κ} (hpc : s.pc = .creating)
      (hstep : clientStep policy onSuccess s.client (.connect true) = some client) :
      PipeMove s (.createFile .opened) { (s.call (.createFile s.nextHandle)) with
        pipeHandle := s.nextHandle
        nextHandle := s.nextHandle + 1
        pc := .outside
        client := client }
  | pipeBusy (hpc : s.pc = .creating) :
      PipeMove s (.createFile .pipeBusy) { s with pc := .waiting }
  | createFailed {client : ClientRun κ} (hpc : s.pc = .creating)
      (hstep : clientStep policy onSuccess s.client (.connect false) = some client) :
      PipeMove s (.createFile .failed) { s with pc := .outside, client := client }
  | ready (hpc : s.pc = .waiting) :
      PipeMove s (.waitNamedPipe true) { s with pc := .creating }
  | timeout {client : ClientRun κ} (hpc : s.pc = .waiting)
      (hstep : clientStep policy onSuccess s.client (.connect false) = some client) :
      PipeMove s (.waitNamedPipe false) { s with pc := .outside, client := client }
  | finish {client : ClientRun κ} (hpc : s.pc = .outside)
      (hstep : clientStep policy onSuccess s.client .finish = some client) :
      PipeMove s .finish { s with client := client }
  | readRequest {request : ClientRequest κ} {client : ClientRun κ} (hpc : s.pc = .outside)
      (hstep : clientStep policy onSuccess s.client (.readRequest request) = some client) :
      PipeMove s (.readRequest request) { s with client := client }
  | send {id : RequestId} {request : ClientRequest κ} (hpc : s.pc = .outside)
      (hclient : s.client.pc = .sending id request) (hpolicy : policy = .sync) :
      PipeMove s .send { s with pc := .writing }
  | sendAsync {id : RequestId} {request : ClientRequest κ} (hpc : s.pc = .outside)
      (hclient : s.client.pc = .sending id request) (hpolicy : policy = .async) :
      PipeMove s .send { s.issue with pc := .writingOverlapped s.issued }
  | written {result : WriteFileResult} {client : ClientRun κ} (hpc : s.pc = .writing)
      (hresult : result.outcome ≠ .noData)
      (hstep : clientStep policy onSuccess s.client (.send result.outcome) = some client) :
      PipeMove s (.writeFile result) { s.call (.writeFile s.pipeHandle) with
        pc := .outside, client := client }
  | notWritten {result : WriteFileResult} {client : ClientRun κ} (hpc : s.pc = .writing)
      (hresult : result.outcome = .noData)
      (hstep : clientStep policy onSuccess s.client (.send .noData) = some client) :
      PipeMove s (.writeFile result) { s.call (.writeFile s.pipeHandle) with
        pc := s.disconnect .closing .outside, client := client }
  | accepted {result : WriteFileResult} {n : ℕ} (hpc : s.pc = .writingOverlapped n)
      (hresult : result.outcome = .success) :
      PipeMove s (.writeFile result) { s.call (.writeFile s.pipeHandle) with pc := .registering n }
  | refused {result : WriteFileResult} {n : ℕ} {client : ClientRun κ} {pc : PipePc}
      (hpc : s.pc = .writingOverlapped n) (hresult : result.outcome ≠ .success)
      (hnext : pc = if result.outcome = .noData then s.disconnect .closing .outside else .outside)
      (hstep : clientStep policy onSuccess s.client (.send result.outcome) = some client) :
      PipeMove s (.writeFile result) { (s.call (.writeFile s.pipeHandle)).deleteOverlapped n with
        pc := pc, client := client }
  | registered {n : ℕ} {id : RequestId} {request : ClientRequest κ} {client : ClientRun κ}
      (hpc : s.pc = .registering n) (hclient : s.client.pc = .sending id request)
      (hstep : clientStep policy onSuccess s.client (.send .success) = some client) :
      PipeMove s (.registerWait true)
        { s.setData n (.registered (.write request.waitForResponse) s.pipeHandle) with
          pc := .outside, client := client }
  | notRegistered {n : ℕ} {id : RequestId} {request : ClientRequest κ} {client : ClientRun κ}
      (hpc : s.pc = .registering n) (hclient : s.client.pc = .sending id request)
      (hstep : clientStep policy onSuccess s.client (.send .success) = some client) :
      PipeMove s (.registerWait false) { s.deleteData n with pc := .outside, client := client }
  | read {id : RequestId} (hpc : s.pc = .outside) (hclient : s.client.pc = .reading id) :
      PipeMove s .read { s with pc := .reading [] }
  | readAll {res data : RawData} {client : ClientRun κ} (hpc : s.pc = .reading res)
      (hlen : (res ++ data).length ≤ maxSize)
      (hstep : clientStep policy onSuccess s.client
        (.readResponse (some ⟨res ++ data, hlen⟩)) = some client) :
      PipeMove s (.readFile (.success data)) { s.call (.readFile s.pipeHandle) with
        pc := .outside, client := client }
  | moreData {res data : RawData} (hpc : s.pc = .reading res) :
      PipeMove s (.readFile (.moreData data)) { s.call (.readFile s.pipeHandle) with
        pc := .reading (res ++ data) }
  | readFailed {res : RawData} {client : ClientRun κ} (hpc : s.pc = .reading res)
      (hstep : clientStep policy onSuccess s.client (.readResponse none) = some client) :
      PipeMove s (.readFile .failed) { s.call (.readFile s.pipeHandle) with
        pc := .outside, client := client }
  | disconnected {success : Bool} (hpc : s.pc = .closing) :
      PipeMove s (.closeHandle success) { s.closeHandle with pc := .outside }
  | destroyed {success : Bool} (hpc : s.pc = .destroying) :
      PipeMove s (.closeHandle success) { s.closeHandle with pc := .destroyed }
  | destroy {result : Bool} (hpc : s.pc = .outside) (hclient : s.client.pc = .returned result)
      (hunused : ∀ n < s.issued, (s.responseData n).usesPipe = false) :
      PipeMove s .destroy { s with pc := s.disconnect .destroying .destroyed }
  | startRead {n : ℕ} {pipeHandle : Handle} {data : RawDataType}
      (hdata : s.responseData n = .registered (.write true) pipeHandle)
      (halive : ¬ (s.pc = .destroying ∨ s.pc = .destroyed)) :
      PipeMove s (.getOverlappedResult n true data)
        ((s.call (.getOverlappedResult pipeHandle)).issue.setData n (.reading s.issued))
  | arrived {n : ℕ} {pipeHandle : Handle} {data : RawDataType} {client : ClientRun κ}
      (hdata : s.responseData n = .registered .read pipeHandle)
      (hstep : clientStep policy onSuccess s.client (.responseArrived data) = some client) :
      PipeMove s (.getOverlappedResult n true data)
        { (s.call (.getOverlappedResult pipeHandle)).setData n .deleting with client := client }
  | callbackDone {n : ℕ} {success : Bool} {data : RawDataType} {kind : OverlappedKind}
      {pipeHandle : Handle} (hdata : s.responseData n = .registered kind pipeHandle) :
      PipeMove s (.getOverlappedResult n success data)
        ((s.call (.getOverlappedResult pipeHandle)).setData n .deleting)
  | readAccepted {n m : ℕ} (hdata : s.responseData n = .reading m) :
      PipeMove s (.readFileAsync n true)
        ((s.call (.readFile s.pipeHandle)).setData n (.registering m))
  | readRefused {n m : ℕ} (hdata : s.responseData n = .reading m) :
      PipeMove s (.readFileAsync n false)
        (((s.call (.readFile s.pipeHandle)).deleteOverlapped m).setData n .deleting)
  | readRegistered {n m : ℕ} (hdata : s.responseData n = .registering m) :
      PipeMove s (.registerRead n true)
        ((s.setData m (.registered .read s.pipeHandle)).setData n .deleting)
  | readNotRegistered {n m : ℕ} (hdata : s.responseData n = .registering m) :
      PipeMove s (.registerRead n false) ((s.deleteData m).setData n .deleting)
  | deleteData {n : ℕ} (hdata : s.responseData n = .deleting) :
      PipeMove s (.deleteData n) ((s.deleteData n).setData n .absent)

variable {policy onSuccess} {s s' : PipeClient κ}

/-- A function returns when the client takes its step. -/
theorem PipeClient.return_eq_some {i : ClientEvent κ} :
    s.return_ policy onSuccess i = some s' ↔
      ∃ client, clientStep policy onSuccess s.client i = some client ∧
        s' = { s with client := client } := by
  rw [return_, Option.map_eq_some_iff]
  exact exists_congr fun client => and_congr_right fun _ => eq_comm

/-- **Every step is one of the moves.** -/
theorem pipeMove_of_step {i : PipeEvent κ} (h : pipeStep policy onSuccess s i = some s') :
    PipeMove policy onSuccess s i s' := by
  cases i with
  | connect =>
      simp only [pipeStep] at h
      split at h
      · next hpc hclient =>
          split at h
          · next hopen =>
              obtain ⟨client, hstep, rfl⟩ := PipeClient.return_eq_some.1 h
              exact .alreadyConnected hpc hclient hopen hstep
          · next hopen =>
              cases h
              exact .connect hpc hclient (Bool.not_eq_true _ ▸ hopen)
      · cases h
  | createFile result =>
      simp only [pipeStep] at h
      split at h
      · next hpc =>
          obtain ⟨client, hstep, rfl⟩ := PipeClient.return_eq_some.1 h
          exact .opened hpc hstep
      · next hpc =>
          cases h
          exact .pipeBusy hpc
      · next hpc =>
          obtain ⟨client, hstep, rfl⟩ := PipeClient.return_eq_some.1 h
          exact .createFailed hpc hstep
      · cases h
  | waitNamedPipe ready =>
      simp only [pipeStep] at h
      split at h
      · next hpc =>
          cases h
          exact .ready hpc
      · next hpc =>
          obtain ⟨client, hstep, rfl⟩ := PipeClient.return_eq_some.1 h
          exact .timeout hpc hstep
      · cases h
  | finish =>
      simp only [pipeStep] at h
      split at h
      · next hpc =>
          obtain ⟨client, hstep, rfl⟩ := PipeClient.return_eq_some.1 h
          exact .finish hpc hstep
      · cases h
  | readRequest request =>
      simp only [pipeStep] at h
      split at h
      · next hpc =>
          obtain ⟨client, hstep, rfl⟩ := PipeClient.return_eq_some.1 h
          exact .readRequest hpc hstep
      · cases h
  | send =>
      simp only [pipeStep] at h
      split at h
      · next hpc hclient =>
          cases h
          exact .send hpc hclient rfl
      · next hpc hclient =>
          cases h
          exact .sendAsync hpc hclient rfl
      · cases h
  | writeFile result =>
      simp only [pipeStep] at h
      split at h
      · next hpc hresult =>
          obtain ⟨client, hstep, rfl⟩ := PipeClient.return_eq_some.1 h
          exact .written hpc (by rw [hresult]; nofun) (hresult ▸ hstep)
      · next hpc hresult =>
          obtain ⟨client, hstep, rfl⟩ := PipeClient.return_eq_some.1 h
          exact .notWritten hpc hresult hstep
      · next hpc hresult =>
          obtain ⟨client, hstep, rfl⟩ := PipeClient.return_eq_some.1 h
          exact .written hpc (by rw [hresult]; nofun) (hresult ▸ hstep)
      · next hpc hresult =>
          cases h
          exact .accepted hpc hresult
      · next hpc hresult =>
          obtain ⟨client, hstep, rfl⟩ := PipeClient.return_eq_some.1 h
          exact .refused hpc (by rw [hresult]; nofun) (if_pos hresult).symm (hresult ▸ hstep)
      · next hpc hresult =>
          obtain ⟨client, hstep, rfl⟩ := PipeClient.return_eq_some.1 h
          exact .refused hpc (by rw [hresult]; nofun) (if_neg (by rw [hresult]; nofun)).symm
            (hresult ▸ hstep)
      · cases h
  | registerWait success =>
      simp only [pipeStep] at h
      split at h
      · next hpc hclient =>
          obtain ⟨client, hstep, rfl⟩ := PipeClient.return_eq_some.1 h
          cases success with
          | true => exact .registered hpc hclient hstep
          | false => exact .notRegistered hpc hclient hstep
      · cases h
  | read =>
      simp only [pipeStep] at h
      split at h
      · next hpc hclient =>
          cases h
          exact .read hpc hclient
      · cases h
  | readFile result =>
      simp only [pipeStep] at h
      split at h
      · next hpc =>
          split at h
          · next hlen =>
              obtain ⟨client, hstep, rfl⟩ := PipeClient.return_eq_some.1 h
              exact .readAll hpc hlen hstep
          · cases h
      · next hpc =>
          cases h
          exact .moreData hpc
      · next hpc =>
          obtain ⟨client, hstep, rfl⟩ := PipeClient.return_eq_some.1 h
          exact .readFailed hpc hstep
      · cases h
  | closeHandle success =>
      simp only [pipeStep] at h
      split at h
      · next hpc =>
          cases h
          exact .disconnected hpc
      · next hpc =>
          cases h
          exact .destroyed hpc
      · cases h
  | destroy =>
      simp only [pipeStep] at h
      split at h
      · next hpc hclient =>
          split at h <;> cases h
          next hunused => exact .destroy hpc hclient hunused
      · cases h
  | getOverlappedResult n success data =>
      simp only [pipeStep] at h
      split at h
      swap
      · cases h
      next hdata =>
      split at h
      · split at h <;> cases h
        · exact .callbackDone hdata
        · next halive => exact .startRead hdata halive
      · cases h
        exact .callbackDone hdata
      · obtain ⟨client, hstep, rfl⟩ := PipeClient.return_eq_some.1 h
        exact .arrived hdata hstep
      · cases h
        exact .callbackDone hdata
  | readFileAsync n accepted =>
      simp only [pipeStep] at h
      split at h
      swap
      · cases h
      next hdata =>
      split at h <;> cases h
      · next haccepted =>
          subst haccepted
          exact .readAccepted hdata
      · next haccepted =>
          rw [Bool.not_eq_true] at haccepted
          subst haccepted
          exact .readRefused hdata
  | registerRead n success =>
      simp only [pipeStep] at h
      split at h
      swap
      · cases h
      next hdata =>
      split at h <;> cases h
      · next hsuccess =>
          subst hsuccess
          exact .readRegistered hdata
      · next hsuccess =>
          rw [Bool.not_eq_true] at hsuccess
          subst hsuccess
          exact .readNotRegistered hdata
  | deleteData n =>
      simp only [pipeStep] at h
      split at h <;> cases h
      next hdata => exact .deleteData hdata

/-! ### The loop of the client -/

/-- A step of the pipe is a step of the client, or the client does not see it. -/
theorem PipeMove.client {i : PipeEvent κ} (h : PipeMove policy onSuccess s i s') :
    s'.client = s.client ∨ ∃ j, clientStep policy onSuccess s.client j = some s'.client := by
  cases h <;> first | exact Or.inl rfl | exact Or.inr ⟨_, by assumption⟩

/-- **Every run of the client with its pipe is a run of the loop of the client.** -/
theorem pipe_refines_client {es : List (PipeEvent κ)}
    (hrun : run (pipeStep policy onSuccess) .start es = some s) :
    Reaches (clientStep policy onSuccess) (.start true true) s.client := by
  refine invariant_run (I := fun s : PipeClient κ =>
    Reaches (clientStep policy onSuccess) (.start true true) s.client) ?_ ⟨[], rfl⟩ hrun
  intro s i s' h hstep
  rcases (pipeMove_of_step hstep).client with heq | ⟨j, hj⟩
  · rwa [heq]
  · exact h.concat hj

end Moves

end NamedPipeDemo
