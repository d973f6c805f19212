/-
**The threads of the server: `Server::Start`, `Server::HandleClientConnection`, `Server::~Server`.**

`Start` waits for clients on the main thread.  For every client it puts a `PipeInstance` into the
map `pipes_` and starts a thread, which looks the instance up and then serves requests until the
client is gone or the server is closed.  The destructor runs on the main thread too: it stores the
flag `is_closed_`, moves the map out, closes every pipe in it, and joins the threads.  The map has a
mutex, and so has every instance.

The threads run in any order.  One step of the machine is one load or store of the flag, one
acquisition or release of a mutex, one use of the map, one call of `ReadFile`, `WriteFile` or
`PipeInstance::Close`, or one request parsed; the outcomes of the system calls are in the labels.
A pointer to an instance is the id of its client.  Next to its state the machine keeps a log of the
system calls that take a pipe handle; no function reads it.

Main definitions:

* `NamedPipeDemo.PipeInstance.close` — `PipeInstance::Close`;
* `NamedPipeDemo.ThreadPc`, `NamedPipeDemo.MainPc` — where a thread is;
* `NamedPipeDemo.ServerThreads`, `NamedPipeDemo.threadsStep` — **the state and its steps**;
* `NamedPipeDemo.ThreadMove`, `NamedPipeDemo.MainMove` — what a step can do;
* `NamedPipeDemo.PointerInv` — the invariant of the flag, the map and the pointers.

Main results:

* `NamedPipeDemo.threadMove_of_step`, `NamedPipeDemo.mainMove_of_step` — every step is a move;
* `NamedPipeDemo.pointerInv_reaches` — every reachable state satisfies the invariant;
* `NamedPipeDemo.no_null_dereference` — **no thread ever dereferences a null pointer.**
-/

import NamedPipeDemo.ServerRuns

set_option relaxedAutoImplicit false
set_option autoImplicit false

namespace NamedPipeDemo

open LabelledRuns

/-! ### Handles and instances -/

/-- A `HANDLE`.  Every call of `CreateNamedPipe` that succeeds returns a new one. -/
abbrev Handle := ℕ

/-- `nullptr` -/
def nullHandle : Handle := 0

/-- The system calls that take a pipe handle. -/
inductive Win32Call
  | readFile (handle : Handle)
  | writeFile (handle : Handle)
  | flushFileBuffers (handle : Handle)
  | disconnectNamedPipe (handle : Handle)
  | closeHandle (handle : Handle)
  deriving DecidableEq, Repr

/-- The handle a call is made with. -/
def Win32Call.handle : Win32Call → Handle
  | readFile h => h
  | writeFile h => h
  | flushFileBuffers h => h
  | disconnectNamedPipe h => h
  | closeHandle h => h

/-- The threads of the process. -/
inductive Agent
  | main
  | client (c : ℕ)
  deriving DecidableEq, Repr

/-- `PipeInstance`, with the thread that holds its mutex. -/
structure PipeInstance where
  pipeHandle : Handle := nullHandle
  mutex : Option Agent := none
  deriving DecidableEq, Repr

/-- `PipeInstance::Close`: its result, the calls it makes, newest first, and what it leaves of the
instance. -/
def PipeInstance.close (p : PipeInstance) (flushed disconnected : Bool) :
    Bool × List Win32Call × PipeInstance :=
  if p.pipeHandle = nullHandle then (false, [], p)
  else if flushed = false then (false, [.flushFileBuffers p.pipeHandle], p)
  else if disconnected = false then
    (false, [.disconnectNamedPipe p.pipeHandle, .flushFileBuffers p.pipeHandle], p)
  else
    (true, [.closeHandle p.pipeHandle, .disconnectNamedPipe p.pipeHandle,
      .flushFileBuffers p.pipeHandle], { p with pipeHandle := nullHandle })

/-! ### The state -/

/-- Where the thread of a client is in `HandleClientConnection`. -/
inductive ThreadPc
  | notStarted
  /-- At the check of the handle. -/
  | entry
  /-- In front of the mutex of the map. -/
  | lookupLock
  /-- At `pipe = pipes_[client_id]`. -/
  | lookupHeld
  /-- Behind it, with the mutex of the map still held. -/
  | lookupDone
  /-- At the condition of the loop. -/
  | test
  /-- In front of the mutex of the instance. -/
  | wantPipe
  /-- At `ReadFile`. -/
  | reading
  /-- At `ParseClientRequest`. -/
  | parsing (data : RawData)
  /-- At `WriteFile`. -/
  | writing (frame : RawData)
  /-- At `pipe->Close()`. -/
  | closing
  /-- At the end of the scope of the lock; the loop goes on or is left. -/
  | leaving (again : Bool)
  | returned
  /-- A null pointer was dereferenced. -/
  | crashed
  deriving DecidableEq, Repr

/-- A thread of `HandleClientConnection`: where it is, its own copy of the handle, and its copy of
the pointer from the map. -/
structure ClientThread where
  pc : ThreadPc := .notStarted
  handle : Handle := nullHandle
  pipe : Option ℕ := none

/-- An `std::unordered_map<size_t, std::shared_ptr<PipeInstance>>`. -/
abbrev PipeMap := Finmap fun _ : ℕ => Option ℕ

/-- Where the main thread is. -/
inductive MainPc
  /-- Outside `Start` and the destructor. -/
  | idle
  /-- In `Start`, at `CreateNamedPipe`. -/
  | starting
  /-- At `ConnectNamedPipe`. -/
  | connecting (h : Handle)
  /-- In front of the mutex of the map. -/
  | registering (c : ℕ) (h : Handle)
  /-- At the insertion of the new instance. -/
  | inserting (c : ℕ) (h : Handle)
  /-- Behind it, with the mutex of the map still held. -/
  | inserted (c : ℕ) (h : Handle)
  /-- At the start of the thread. -/
  | spawning (c : ℕ) (h : Handle)
  /-- In the destructor, in front of the mutex of the map. -/
  | shutting
  /-- At `pipes = std::move(pipes_)`. -/
  | moving
  /-- Behind it, with the mutex of the map still held. -/
  | moved (rest : PipeMap)
  /-- At the head of the loop over the pipes. -/
  | closing (rest : PipeMap)
  /-- In front of the mutex of an instance. -/
  | wantPipe (p : Option ℕ) (rest : PipeMap)
  /-- At `pipe_instance->Close()`. -/
  | closingPipe (c : ℕ) (rest : PipeMap)
  /-- At the end of the scope of the lock. -/
  | closedPipe (c : ℕ) (rest : PipeMap)
  /-- At the join of thread `n`. -/
  | joining (n : ℕ)
  | destroyed
  /-- A null pointer was dereferenced. -/
  | crashed

/-- The state of the server. -/
structure ServerThreads where
  isClosed : Bool := false
  clientIdsCounter : ℕ := 0
  pipesMutex : Option Agent := none
  pipes : PipeMap := ∅
  instances : ℕ → PipeInstance := fun _ => {}
  threads : ℕ → ClientThread := fun _ => {}
  main : MainPc := .idle
  nextHandle : Handle := 1
  log : List Win32Call := []
  server : ServerState := {}

namespace ServerThreads

variable (s : ServerThreads) (c : ℕ)

/-- The thread of a client moves on. -/
def setPc (pc : ThreadPc) : ServerThreads :=
  { s with threads := Function.update s.threads c { s.threads c with pc := pc } }

/-- The mutex of an instance changes hands. -/
def setMutex (holder : Option Agent) : ServerThreads :=
  { s with instances := Function.update s.instances c { s.instances c with mutex := holder } }

/-- `Close` is called on an instance. -/
def closePipe (flushed disconnected : Bool) : ServerThreads :=
  let r := (s.instances c).close flushed disconnected
  { s with instances := Function.update s.instances c r.2.2, log := r.2.1 ++ s.log }

/-- A call is made. -/
def call (w : Win32Call) : ServerThreads := { s with log := w :: s.log }

end ServerThreads

/-! ### Steps -/

/-- What the thread of a client does next. -/
inductive ThreadEvent
  | enter
  | lockPipes
  | lookup
  | unlockPipes
  | loadIsClosed
  | lockPipe
  /-- `ReadFile` returns, with these bytes. -/
  | readFile (success : Bool) (data : RawData)
  | parse
  /-- `WriteFile` returns, with this many bytes written. -/
  | writeFile (success : Bool) (bytesWritten : ℕ)
  /-- `Close`, with the outcomes of `FlushFileBuffers` and `DisconnectNamedPipe`. -/
  | close (flushed disconnected : Bool)
  | unlockPipe

/-- What the main thread does next. -/
inductive MainEvent
  | start
  | createNamedPipe (success : Bool)
  /-- `ConnectNamedPipe` returns; a client that was faster counts as connected. -/
  | connectNamedPipe (connected : Bool)
  | lockPipes
  | insertPipe
  | unlockPipes
  | spawn
  | storeIsClosed
  | movePipes
  /-- The loop of the destructor goes on with this entry; the order is not specified. -/
  | nextPipe (c : ℕ)
  | lockPipe
  | close (flushed disconnected : Bool)
  | unlockPipe
  | endPipes
  | join

/-- A step of the thread of client `c`. -/
def threadStep (env : AddressText) (s : ServerThreads) (c : ℕ) (e : ThreadEvent) :
    Option ServerThreads :=
  let t := s.threads c
  match t.pc, e with
  | .entry, .enter =>
      some (s.setPc c (if t.handle = nullHandle then .returned else .lookupLock))
  | .lookupLock, .lockPipes =>
      if s.pipesMutex = none then
        some ({ s with pipesMutex := some (.client c) }.setPc c .lookupHeld)
      else none
  | .lookupHeld, .lookup =>
      -- `operator[]` inserts a null pointer when there is no entry
      match s.pipes.lookup c with
      | some p =>
          some { s with
            threads := Function.update s.threads c { t with pc := .lookupDone, pipe := p } }
      | none =>
          some { s with
            pipes := s.pipes.insert c none
            threads := Function.update s.threads c { t with pc := .lookupDone, pipe := none } }
  | .lookupDone, .unlockPipes => some ({ s with pipesMutex := none }.setPc c .test)
  | .test, .loadIsClosed => some (s.setPc c (if s.isClosed then .returned else .wantPipe))
  | .wantPipe, .lockPipe =>
      match t.pipe with
      | none => some (s.setPc c .crashed)
      | some p =>
          if (s.instances p).mutex = none then
            some ((s.setMutex p (some (.client c))).setPc c .reading)
          else none
  | .reading, .readFile success data =>
      if data.length ≤ kBuffSize then
        some ((s.call (.readFile t.handle)).setPc c
          (if success = false ∨ data = [] then .closing else .parsing data))
      else none
  | .parsing data, .parse =>
      match (handleClientRequest c env data).run s.server with
      | .ok (some frame) w => some ({ s with server := w }.setPc c (.writing frame))
      | .ok none w => some ({ s with server := w }.setPc c (.leaving true))
      | .error _ _ => none
  | .writing frame, .writeFile success bytesWritten =>
      -- a send that fails leaves the function, not only the loop
      some ((s.call (.writeFile t.handle)).setPc c
        (.leaving (success && bytesWritten == frame.length)))
  | .closing, .close flushed disconnected =>
      match t.pipe with
      | none => some (s.setPc c .crashed)
      | some p => some ((s.closePipe p flushed disconnected).setPc c (.leaving false))
  | .leaving again, .unlockPipe =>
      match t.pipe with
      | none => none
      | some p => some ((s.setMutex p none).setPc c (if again then .test else .returned))
  | _, _ => none

/-- A step of the main thread. -/
def mainStep (s : ServerThreads) (e : MainEvent) : Option ServerThreads :=
  match s.main, e with
  | .idle, .start => some { s with main := .starting }
  | .starting, .createNamedPipe success =>
      if success then
        some { s with nextHandle := s.nextHandle + 1, main := .connecting s.nextHandle }
      else some { s with main := .idle }
  | .connecting h, .connectNamedPipe connected =>
      if connected then
        some { s with
          clientIdsCounter := s.clientIdsCounter + 1
          main := .registering s.clientIdsCounter h }
      else some { s.call (.closeHandle h) with main := .starting }
  | .registering c h, .lockPipes =>
      if s.pipesMutex = none then
        some { s with pipesMutex := some .main, main := .inserting c h }
      else none
  | .inserting c h, .insertPipe =>
      some { s with
        instances := Function.update s.instances c { pipeHandle := h }
        pipes := s.pipes.insert c (some c)
        main := .inserted c h }
  | .inserted c h, .unlockPipes => some { s with pipesMutex := none, main := .spawning c h }
  | .spawning c h, .spawn =>
      some { s with
        threads := Function.update s.threads c { pc := .entry, handle := h }
        main := .starting }
  | .idle, .storeIsClosed => some { s with isClosed := true, main := .shutting }
  | .shutting, .lockPipes =>
      if s.pipesMutex = none then some { s with pipesMutex := some .main, main := .moving }
      else none
  | .moving, .movePipes => some { s with pipes := ∅, main := .moved s.pipes }
  | .moved rest, .unlockPipes => some { s with pipesMutex := none, main := .closing rest }
  | .closing rest, .nextPipe c =>
      match rest.lookup c with
      | some p => some { s with main := .wantPipe p (rest.erase c) }
      | none => none
  | .wantPipe p rest, .lockPipe =>
      match p with
      | none => some { s with main := .crashed }
      | some c =>
          if (s.instances c).mutex = none then
            some { s.setMutex c (some .main) with main := .closingPipe c rest }
          else none
  | .closingPipe c rest, .close flushed disconnected =>
      some { s.closePipe c flushed disconnected with main := .closedPipe c rest }
  | .closedPipe c rest, .unlockPipe =>
      some { s.setMutex c none with main := .closing rest }
  | .closing rest, .endPipes => if rest = ∅ then some { s with main := .joining 0 } else none
  | .joining n, .join =>
      if s.clientIdsCounter ≤ n then some { s with main := .destroyed }
      else if (s.threads n).pc = .returned then some { s with main := .joining (n + 1) }
      else none
  | _, _ => none

/-- Any thread takes the next step. -/
inductive ServerEvent
  | main (e : MainEvent)
  | client (c : ℕ) (e : ThreadEvent)

/-- **One step of the server.** -/
def threadsStep (env : AddressText) (s : ServerThreads) : ServerEvent → Option ServerThreads
  | .main e => mainStep s e
  | .client c e => threadStep env s c e

/-! ### Moves -/

/-- What a step of the thread of client `c` can do. -/
inductive ThreadMove (env : AddressText) (s : ServerThreads) (c : ℕ) :
    ThreadEvent → ServerThreads → Prop
  | enter (hpc : (s.threads c).pc = .entry) (hnull : (s.threads c).handle ≠ nullHandle) :
      ThreadMove env s c .enter (s.setPc c .lookupLock)
  | refuse (hpc : (s.threads c).pc = .entry) (hnull : (s.threads c).handle = nullHandle) :
      ThreadMove env s c .enter (s.setPc c .returned)
  | lockPipes (hpc : (s.threads c).pc = .lookupLock) (hfree : s.pipesMutex = none) :
      ThreadMove env s c .lockPipes
        ({ s with pipesMutex := some (.client c) }.setPc c .lookupHeld)
  | found {p : Option ℕ} (hpc : (s.threads c).pc = .lookupHeld)
      (hp : s.pipes.lookup c = some p) :
      ThreadMove env s c .lookup { s with
        threads := Function.update s.threads c { s.threads c with pc := .lookupDone, pipe := p } }
  | missing (hpc : (s.threads c).pc = .lookupHeld) (hp : s.pipes.lookup c = none) :
      ThreadMove env s c .lookup { s with
        pipes := s.pipes.insert c none
        threads :=
          Function.update s.threads c { s.threads c with pc := .lookupDone, pipe := none } }
  | unlockPipes (hpc : (s.threads c).pc = .lookupDone) :
      ThreadMove env s c .unlockPipes ({ s with pipesMutex := none }.setPc c .test)
  | stop (hpc : (s.threads c).pc = .test) (hclosed : s.isClosed = true) :
      ThreadMove env s c .loadIsClosed (s.setPc c .returned)
  | goOn (hpc : (s.threads c).pc = .test) (hopen : s.isClosed = false) :
      ThreadMove env s c .loadIsClosed (s.setPc c .wantPipe)
  | lockNull (hpc : (s.threads c).pc = .wantPipe) (hp : (s.threads c).pipe = none) :
      ThreadMove env s c .lockPipe (s.setPc c .crashed)
  | lockPipe {p : ℕ} (hpc : (s.threads c).pc = .wantPipe) (hp : (s.threads c).pipe = some p)
      (hfree : (s.instances p).mutex = none) :
      ThreadMove env s c .lockPipe ((s.setMutex p (some (.client c))).setPc c .reading)
  | readFailed {success : Bool} {data : RawData} (hpc : (s.threads c).pc = .reading)
      (hfailed : success = false ∨ data = []) :
      ThreadMove env s c (.readFile success data)
        ((s.call (.readFile (s.threads c).handle)).setPc c .closing)
  | read {data : RawData} (hpc : (s.threads c).pc = .reading) (hlen : data.length ≤ kBuffSize) :
      ThreadMove env s c (.readFile true data)
        ((s.call (.readFile (s.threads c).handle)).setPc c (.parsing data))
  | answer {data frame : RawData} {w : ServerState} (hpc : (s.threads c).pc = .parsing data)
      (hrun : (handleClientRequest c env data).run s.server = .ok (some frame) w) :
      ThreadMove env s c .parse ({ s with server := w }.setPc c (.writing frame))
  | noAnswer {data : RawData} {w : ServerState} (hpc : (s.threads c).pc = .parsing data)
      (hrun : (handleClientRequest c env data).run s.server = .ok none w) :
      ThreadMove env s c .parse ({ s with server := w }.setPc c (.leaving true))
  | writeFile {frame : RawData} {success : Bool} {bytesWritten : ℕ}
      (hpc : (s.threads c).pc = .writing frame) :
      ThreadMove env s c (.writeFile success bytesWritten)
        ((s.call (.writeFile (s.threads c).handle)).setPc c
          (.leaving (success && bytesWritten == frame.length)))
  | closeNull {flushed disconnected : Bool} (hpc : (s.threads c).pc = .closing)
      (hp : (s.threads c).pipe = none) :
      ThreadMove env s c (.close flushed disconnected) (s.setPc c .crashed)
  | close {flushed disconnected : Bool} {p : ℕ} (hpc : (s.threads c).pc = .closing)
      (hp : (s.threads c).pipe = some p) :
      ThreadMove env s c (.close flushed disconnected)
        ((s.closePipe p flushed disconnected).setPc c (.leaving false))
  | unlockPipe {again : Bool} {p : ℕ} (hpc : (s.threads c).pc = .leaving again)
      (hp : (s.threads c).pipe = some p) :
      ThreadMove env s c .unlockPipe
        ((s.setMutex p none).setPc c (if again then .test else .returned))

/-- Only a thread that was started takes steps. -/
theorem ThreadMove.started {env : AddressText} {s s' : ServerThreads} {c : ℕ} {e : ThreadEvent}
    (h : ThreadMove env s c e s') : (s.threads c).pc ≠ .notStarted := by
  intro hns
  cases h with
  | _ hpc =>
      rw [hpc] at hns
      cases hns

/-- What a step of the main thread can do. -/
inductive MainMove (s : ServerThreads) : MainEvent → ServerThreads → Prop
  | start (hpc : s.main = .idle) : MainMove s .start { s with main := .starting }
  | createNamedPipe (hpc : s.main = .starting) :
      MainMove s (.createNamedPipe true)
        { s with nextHandle := s.nextHandle + 1, main := .connecting s.nextHandle }
  | createFailed (hpc : s.main = .starting) :
      MainMove s (.createNamedPipe false) { s with main := .idle }
  | connect {h : Handle} (hpc : s.main = .connecting h) :
      MainMove s (.connectNamedPipe true)
        { s with
          clientIdsCounter := s.clientIdsCounter + 1
          main := .registering s.clientIdsCounter h }
  | connectFailed {h : Handle} (hpc : s.main = .connecting h) :
      MainMove s (.connectNamedPipe false) { s.call (.closeHandle h) with main := .starting }
  | lockToInsert {c : ℕ} {h : Handle} (hpc : s.main = .registering c h)
      (hfree : s.pipesMutex = none) :
      MainMove s .lockPipes { s with pipesMutex := some .main, main := .inserting c h }
  | insertPipe {c : ℕ} {h : Handle} (hpc : s.main = .inserting c h) :
      MainMove s .insertPipe { s with
        instances := Function.update s.instances c { pipeHandle := h }
        pipes := s.pipes.insert c (some c)
        main := .inserted c h }
  | unlockInserted {c : ℕ} {h : Handle} (hpc : s.main = .inserted c h) :
      MainMove s .unlockPipes { s with pipesMutex := none, main := .spawning c h }
  | spawn {c : ℕ} {h : Handle} (hpc : s.main = .spawning c h) :
      MainMove s .spawn { s with
        threads := Function.update s.threads c { pc := .entry, handle := h }
        main := .starting }
  | storeIsClosed (hpc : s.main = .idle) :
      MainMove s .storeIsClosed { s with isClosed := true, main := .shutting }
  | lockToMove (hpc : s.main = .shutting) (hfree : s.pipesMutex = none) :
      MainMove s .lockPipes { s with pipesMutex := some .main, main := .moving }
  | movePipes (hpc : s.main = .moving) :
      MainMove s .movePipes { s with pipes := ∅, main := .moved s.pipes }
  | unlockMoved {rest : PipeMap} (hpc : s.main = .moved rest) :
      MainMove s .unlockPipes { s with pipesMutex := none, main := .closing rest }
  | nextPipe {c : ℕ} {p : Option ℕ} {rest : PipeMap} (hpc : s.main = .closing rest)
      (hp : rest.lookup c = some p) :
      MainMove s (.nextPipe c) { s with main := .wantPipe p (rest.erase c) }
  | lockNull {rest : PipeMap} (hpc : s.main = .wantPipe none rest) :
      MainMove s .lockPipe { s with main := .crashed }
  | lockPipe {c : ℕ} {rest : PipeMap} (hpc : s.main = .wantPipe (some c) rest)
      (hfree : (s.instances c).mutex = none) :
      MainMove s .lockPipe { s.setMutex c (some .main) with main := .closingPipe c rest }
  | close {c : ℕ} {rest : PipeMap} {flushed disconnected : Bool}
      (hpc : s.main = .closingPipe c rest) :
      MainMove s (.close flushed disconnected)
        { s.closePipe c flushed disconnected with main := .closedPipe c rest }
  | unlockPipe {c : ℕ} {rest : PipeMap} (hpc : s.main = .closedPipe c rest) :
      MainMove s .unlockPipe { s.setMutex c none with main := .closing rest }
  | endPipes {rest : PipeMap} (hpc : s.main = .closing rest) (hrest : rest = ∅) :
      MainMove s .endPipes { s with main := .joining 0 }
  | join {n : ℕ} (hpc : s.main = .joining n) (hreturned : (s.threads n).pc = .returned) :
      MainMove s .join { s with main := .joining (n + 1) }
  | joined {n : ℕ} (hpc : s.main = .joining n) (hall : s.clientIdsCounter ≤ n) :
      MainMove s .join { s with main := .destroyed }

/-- **Every step of a client's thread is one of its moves.** -/
theorem threadMove_of_step {env : AddressText} {s s' : ServerThreads} {c : ℕ} {e : ThreadEvent}
    (h : threadStep env s c e = some s') : ThreadMove env s c e s' := by
  simp only [threadStep] at h
  split at h
  · next hpc =>
      split at h <;> next hnull =>
      cases h
      first | exact .refuse hpc hnull | exact .enter hpc hnull
  · next hpc =>
      split at h <;> cases h
      next hfree => exact .lockPipes hpc hfree
  · next hpc =>
      split at h <;> next hp =>
      cases h
      first | exact .found hpc hp | exact .missing hpc hp
  · next hpc =>
      cases h
      exact .unlockPipes hpc
  · next hpc =>
      cases hclosed : s.isClosed <;> rw [hclosed] at h <;> cases h
      · exact .goOn hpc hclosed
      · exact .stop hpc hclosed
  · next hpc =>
      split at h
      · next hp =>
          cases h
          exact .lockNull hpc hp
      · next hp =>
          split at h <;> cases h
          next hfree => exact .lockPipe hpc hp hfree
  · next success data hpc =>
      split at h
      swap
      · cases h
      next hlen =>
      by_cases hfailed : success = false ∨ data = []
      · rw [if_pos hfailed] at h
        cases h
        exact .readFailed hpc hfailed
      · rw [if_neg hfailed] at h
        cases h
        obtain ⟨hsuccess, _⟩ := not_or.1 hfailed
        rw [Bool.not_eq_false] at hsuccess
        subst hsuccess
        exact .read hpc hlen
  · next hpc =>
      split at h <;> cases h
      · next hrun => exact .answer hpc hrun
      · next hrun => exact .noAnswer hpc hrun
  · next hpc =>
      cases h
      exact .writeFile hpc
  · next hpc =>
      split at h <;> next hp =>
      cases h
      first | exact .closeNull hpc hp | exact .close hpc hp
  · next hpc =>
      split at h <;> cases h
      next hp => exact .unlockPipe hpc hp
  · cases h

/-- **Every step of the main thread is one of its moves.** -/
theorem mainMove_of_step {s s' : ServerThreads} {e : MainEvent} (h : mainStep s e = some s') :
    MainMove s e s' := by
  simp only [mainStep] at h
  split at h
  · next hpc =>
      cases h
      exact .start hpc
  · next success hpc =>
      cases success <;> cases h
      · exact .createFailed hpc
      · exact .createNamedPipe hpc
  · next connected hpc =>
      cases connected <;> cases h
      · exact .connectFailed hpc
      · exact .connect hpc
  · next hpc =>
      split at h <;> cases h
      next hfree => exact .lockToInsert hpc hfree
  · next hpc =>
      cases h
      exact .insertPipe hpc
  · next hpc =>
      cases h
      exact .unlockInserted hpc
  · next hpc =>
      cases h
      exact .spawn hpc
  · next hpc =>
      cases h
      exact .storeIsClosed hpc
  · next hpc =>
      split at h <;> cases h
      next hfree => exact .lockToMove hpc hfree
  · next hpc =>
      cases h
      exact .movePipes hpc
  · next hpc =>
      cases h
      exact .unlockMoved hpc
  · next hpc =>
      split at h <;> cases h
      next hp => exact .nextPipe hpc hp
  · next p rest hpc =>
      cases p with
      | none =>
          cases h
          exact .lockNull hpc
      | some c =>
          simp only at h
          split at h <;> cases h
          next hfree => exact .lockPipe hpc hfree
  · next hpc =>
      cases h
      exact .close hpc
  · next hpc =>
      cases h
      exact .unlockPipe hpc
  · next hpc =>
      split at h <;> cases h
      next hrest => exact .endPipes hpc hrest
  · next hpc =>
      split at h
      · next hall =>
          cases h
          exact .joined hpc hall
      · split at h <;> cases h
        next hreturned => exact .join hpc hreturned
  · cases h

/-! ### The flag, the map and the pointers -/

namespace ThreadPc

/-- The pointer has been looked up, and the flag is tested next. -/
def lookedUp : ThreadPc → Bool
  | lookupDone => true
  | test => true
  | _ => false

/-- The body of the loop, from the acquisition of the mutex to its release. -/
def inLoop : ThreadPc → Bool
  | wantPipe => true
  | reading => true
  | parsing _ => true
  | writing _ => true
  | closing => true
  | leaving _ => true
  | _ => false

end ThreadPc

namespace MainPc

/-- The destructor has stored the flag. -/
def isShuttingDown : MainPc → Bool
  | shutting => true
  | moving => true
  | moved _ => true
  | closing _ => true
  | wantPipe _ _ => true
  | closingPipe _ _ => true
  | closedPipe _ _ => true
  | joining _ => true
  | destroyed => true
  | crashed => true
  | _ => false

/-- The destructor has moved the map out. -/
def hasMoved : MainPc → Bool
  | shutting => false
  | moving => false
  | pc => pc.isShuttingDown

/-- The entries of the map that the destructor has still to visit. -/
def rest : MainPc → PipeMap
  | moved rest => rest
  | closing rest => rest
  | wantPipe _ rest => rest
  | closingPipe _ rest => rest
  | closedPipe _ rest => rest
  | _ => ∅

/-- The main thread has neither an instance nor a map of its own. -/
def isPlain : MainPc → Bool
  | idle => true
  | starting => true
  | connecting _ => true
  | registering _ _ => true
  | inserting _ _ => true
  | shutting => true
  | moving => true
  | joining _ => true
  | destroyed => true
  | _ => false

end MainPc

/-- What is known of the thread of client `c`: as long as the map is in place, a thread that was
started has its entry; a pointer that was looked up is the right one, unless the flag is set; and
in the loop it is the right one. -/
structure ThreadOk (moved isClosed : Bool) (pipes : PipeMap) (c : ℕ) (t : ClientThread) :
    Prop where
  listed : t.pc ≠ .notStarted → moved = false → c ∈ pipes
  pointer : t.pc.lookedUp = true → t.pipe = some c ∨ isClosed = true
  inLoop : t.pc.inLoop = true → t.pipe = some c
  alive : t.pc ≠ .crashed

/-- **The invariant**: the flag is set before the map is moved; the map has the right pointers until
then; and nobody is at a null pointer. -/
structure PointerInv (s : ServerThreads) : Prop where
  flag : s.isClosed = s.main.isShuttingDown
  entries : s.main.hasMoved = false → ∀ c p, s.pipes.lookup c = some p → p = some c
  inserted : ∀ c h, s.main = .inserted c h ∨ s.main = .spawning c h → c ∈ s.pipes
  rest : ∀ c p, s.main.rest.lookup c = some p → p = some c
  wanted : ∀ rest, s.main ≠ .wantPipe none rest
  alive : s.main ≠ .crashed
  threads : ∀ c, ThreadOk s.main.hasMoved s.isClosed s.pipes c (s.threads c)

section Pointers

variable {env : AddressText} {s s' : ServerThreads} {c : ℕ}

/-- What is known of a thread stays known while the map grows or is moved. -/
theorem ThreadOk.mono {moved isClosed moved' isClosed' : Bool} {pipes pipes' : PipeMap}
    {t : ClientThread} (h : ThreadOk moved isClosed pipes c t)
    (hmoved : moved' = false → moved = false ∧ (c ∈ pipes → c ∈ pipes'))
    (hclosed : isClosed = true → isClosed' = true) : ThreadOk moved' isClosed' pipes' c t where
  listed hpc hm := (hmoved hm).2 (h.listed hpc (hmoved hm).1)
  pointer hpc := (h.pointer hpc).imp id hclosed
  inLoop := h.inLoop
  alive := h.alive

/-- A thread that was started moves on. -/
theorem ThreadOk.setPc {moved isClosed : Bool} {pipes : PipeMap} {t : ClientThread}
    (h : ThreadOk moved isClosed pipes c t) (hstarted : t.pc ≠ .notStarted) {pc : ThreadPc}
    (hpointer : pc.lookedUp = true → t.pipe = some c ∨ isClosed = true)
    (hloop : pc.inLoop = true → t.pipe = some c) (halive : pc ≠ .crashed) :
    ThreadOk moved isClosed pipes c { t with pc := pc } where
  listed _ := h.listed hstarted
  pointer := hpointer
  inLoop := hloop
  alive := halive

/-- A step that changes only the thread of one client keeps the invariant, if it does for that
thread. -/
theorem PointerInv.update (h : PointerInv s) {t : ClientThread}
    (hclosed : s'.isClosed = s.isClosed) (hmain : s'.main = s.main) (hpipes : s'.pipes = s.pipes)
    (hthreads : s'.threads = Function.update s.threads c t)
    (ht : ThreadOk s.main.hasMoved s.isClosed s.pipes c t) : PointerInv s' where
  flag := by rw [hclosed, hmain, h.flag]
  entries := by
    rw [hmain, hpipes]
    exact h.entries
  inserted := by
    rw [hmain, hpipes]
    exact h.inserted
  rest := by
    rw [hmain]
    exact h.rest
  wanted := by
    rw [hmain]
    exact h.wanted
  alive := by
    rw [hmain]
    exact h.alive
  threads := by
    rw [hclosed, hmain, hpipes, hthreads]
    exact (Function.forall_update_iff s.threads
      (ThreadOk s.main.hasMoved s.isClosed s.pipes)).2 ⟨ht, fun d _ => h.threads d⟩

/-- Once the map has been moved, the flag is set. -/
theorem PointerInv.isClosed_of_hasMoved (h : PointerInv s) (hm : s.main.hasMoved = true) :
    s.isClosed = true := by
  rw [h.flag]
  cases hpc : s.main <;> rw [hpc] at hm <;> first | rfl | cases hm

/-- A thread in its loop moves on inside it. -/
theorem PointerInv.stayInLoop (h : PointerInv s) {pc pc' : ThreadPc}
    (hpc : (s.threads c).pc = pc) (hin : pc.inLoop = true) (hin' : pc'.inLoop = true)
    (hclosed : s'.isClosed = s.isClosed) (hmain : s'.main = s.main) (hpipes : s'.pipes = s.pipes)
    (hthreads : s'.threads = Function.update s.threads c { s.threads c with pc := pc' }) :
    PointerInv s' := by
  have ht := h.threads c
  have hloop := ht.inLoop (by rw [hpc]; exact hin)
  refine h.update hclosed hmain hpipes hthreads (ht.setPc ?_ (fun _ => Or.inl hloop)
    (fun _ => hloop) ?_)
  · rintro hns
    rw [hns] at hpc
    subst hpc
    cases hin
  · rintro rfl
    cases hin'

/-- A thread that looks its pointer up after the map has been moved gets a null pointer, and leaves
an entry of its own behind. -/
theorem PointerInv.lookupMoved (h : PointerInv s) (hm : s.main.hasMoved = true) :
    PointerInv { s with
      pipes := s.pipes.insert c none
      threads := Function.update s.threads c
        { s.threads c with pc := .lookupDone, pipe := none } } where
  flag := h.flag
  entries hm' := by
    rw [hm] at hm'
    cases hm'
  inserted d a hd := by
    rcases hd with hd | hd <;> rw [hd] at hm <;> cases hm
  rest := h.rest
  wanted := h.wanted
  alive := h.alive
  threads := by
    have hkeep (d : ℕ) : ThreadOk s.main.hasMoved s.isClosed (s.pipes.insert c none) d
        (s.threads d) :=
      (h.threads d).mono (fun hm' => by rw [hm] at hm'; cases hm') id
    refine (Function.forall_update_iff s.threads
      (ThreadOk s.main.hasMoved s.isClosed (s.pipes.insert c none))).2 ⟨?_, fun d _ => hkeep d⟩
    exact {
      listed := fun _ hm' => by
        rw [hm] at hm'
        cases hm'
      pointer := fun _ => Or.inr (h.isClosed_of_hasMoved hm)
      inLoop := nofun
      alive := nofun }

/-- **Every step of a client's thread keeps the invariant.** -/
theorem PointerInv.threadMove {e : ThreadEvent} (h : PointerInv s)
    (hmove : ThreadMove env s c e s') : PointerInv s' := by
  have ht := h.threads c
  have hstarted := hmove.started
  cases hmove with
  | enter hpc _ =>
      exact h.update rfl rfl rfl rfl (ht.setPc hstarted nofun nofun nofun)
  | refuse hpc _ =>
      exact h.update rfl rfl rfl rfl (ht.setPc hstarted nofun nofun nofun)
  | lockPipes hpc _ =>
      exact h.update rfl rfl rfl rfl (ht.setPc hstarted nofun nofun nofun)
  | found hpc hp =>
      refine h.update rfl rfl rfl rfl ⟨fun _ => ht.listed hstarted, fun _ => ?_, nofun,
        nofun⟩
      -- before the map is moved the entry is the right one, and afterwards the flag is set
      cases hm : s.main.hasMoved with
      | false => exact Or.inl (h.entries hm c _ hp)
      | true => exact Or.inr (h.isClosed_of_hasMoved hm)
  | missing hpc hp =>
      -- a thread without an entry finds the map moved
      have hm : s.main.hasMoved = true := by
        by_contra hm
        have hlisted := ht.listed hstarted (Bool.not_eq_true _ ▸ hm)
        rw [← Finmap.lookup_isSome, hp] at hlisted
        cases hlisted
      exact h.lookupMoved hm
  | unlockPipes hpc =>
      refine h.update rfl rfl rfl rfl (ht.setPc hstarted (fun _ => ?_) nofun nofun)
      exact ht.pointer (by rw [hpc]; rfl)
  | stop hpc _ =>
      exact h.update rfl rfl rfl rfl (ht.setPc hstarted nofun nofun nofun)
  | goOn hpc hopen =>
      refine h.update rfl rfl rfl rfl (ht.setPc hstarted nofun (fun _ => ?_) nofun)
      -- the flag is not set, so the pointer is the right one
      rcases ht.pointer (by rw [hpc]; rfl) with hp | hclosed
      · exact hp
      · rw [hopen] at hclosed
        cases hclosed
  | lockNull hpc hp =>
      have hloop := ht.inLoop (by rw [hpc]; rfl)
      rw [hp] at hloop
      cases hloop
  | closeNull hpc hp =>
      have hloop := ht.inLoop (by rw [hpc]; rfl)
      rw [hp] at hloop
      cases hloop
  | lockPipe hpc _ _ => exact h.stayInLoop hpc rfl rfl rfl rfl rfl rfl
  | readFailed hpc _ => exact h.stayInLoop hpc rfl rfl rfl rfl rfl rfl
  | read hpc _ => exact h.stayInLoop hpc rfl rfl rfl rfl rfl rfl
  | answer hpc _ => exact h.stayInLoop hpc rfl rfl rfl rfl rfl rfl
  | noAnswer hpc _ => exact h.stayInLoop hpc rfl rfl rfl rfl rfl rfl
  | writeFile hpc => exact h.stayInLoop hpc rfl rfl rfl rfl rfl rfl
  | close hpc _ => exact h.stayInLoop hpc rfl rfl rfl rfl rfl rfl
  | unlockPipe hpc _ =>
      have hloop := ht.inLoop (by rw [hpc]; rfl)
      split
      · exact h.update rfl rfl rfl rfl
          (ht.setPc hstarted (fun _ => Or.inl hloop) nofun nofun)
      · exact h.update rfl rfl rfl rfl (ht.setPc hstarted nofun nofun nofun)

/-- What is left of a map after an entry has been erased was in it before. -/
theorem lookup_of_lookup_erase {m : PipeMap} {d : ℕ} {p : Option ℕ}
    (h : (m.erase c).lookup d = some p) : m.lookup d = some p := by
  by_cases hd : d = c
  · rw [hd, Finmap.lookup_erase] at h
    cases h
  · rwa [Finmap.lookup_erase_ne hd] at h

/-- The main thread moves on, and leaves the flag, the map and the threads alone. -/
theorem PointerInv.moveMain (h : PointerInv s) (hclosed : s'.isClosed = s.isClosed)
    (hpipes : s'.pipes = s.pipes) (hthreads : s'.threads = s.threads)
    (hshutting : s'.main.isShuttingDown = s.main.isShuttingDown)
    (hmoved : s'.main.hasMoved = s.main.hasMoved)
    (hinserted : ∀ c a, s'.main = .inserted c a ∨ s'.main = .spawning c a → c ∈ s.pipes)
    (hrest : ∀ c p, s'.main.rest.lookup c = some p → p = some c)
    (hwanted : ∀ rest, s'.main ≠ .wantPipe none rest) (halive : s'.main ≠ .crashed) :
    PointerInv s' where
  flag := by rw [hclosed, hshutting, h.flag]
  entries := by
    rw [hmoved, hpipes]
    exact h.entries
  inserted := by
    rw [hpipes]
    exact hinserted
  rest := hrest
  wanted := hwanted
  alive := halive
  threads := by
    rw [hmoved, hclosed, hpipes, hthreads]
    exact h.threads

/-- The main thread moves on to a place where it holds nothing that the invariant speaks of. -/
theorem PointerInv.moveMainPlain (h : PointerInv s) (hplain : s'.main.isPlain = true)
    (hclosed : s'.isClosed = s.isClosed) (hpipes : s'.pipes = s.pipes)
    (hthreads : s'.threads = s.threads)
    (hshutting : s'.main.isShuttingDown = s.main.isShuttingDown)
    (hmoved : s'.main.hasMoved = s.main.hasMoved) : PointerInv s' := by
  refine h.moveMain hclosed hpipes hthreads hshutting hmoved ?_ ?_ ?_ ?_
  · rintro c a (hca | hca) <;> rw [hca] at hplain <;> cases hplain
  · intro c p hp
    cases hpc : s'.main <;> rw [hpc] at hplain hp <;> cases hplain <;> cases hp
  · intro rest hpc
    rw [hpc] at hplain
    cases hplain
  · intro hpc
    rw [hpc] at hplain
    cases hplain

/-- The main thread inserts a new instance. -/
theorem PointerInv.insertPipe (h : PointerInv s) {a : Handle} (hpc : s.main = .inserting c a) :
    PointerInv { s with
      instances := Function.update s.instances c { pipeHandle := a }
      pipes := s.pipes.insert c (some c)
      main := .inserted c a } where
  flag := by rw [h.flag, hpc]; rfl
  entries _ d p hp := by
    by_cases hd : d = c
    · rw [hd, Finmap.lookup_insert, Option.some_inj] at hp
      rw [hd, ← hp]
    · rw [Finmap.lookup_insert_of_ne _ hd] at hp
      exact h.entries (by rw [hpc]; rfl) d p hp
  inserted d b hd := by
    rcases hd with hd | hd <;> cases hd
    rw [Finmap.mem_insert]
    exact Or.inl rfl
  rest _ _ hp := by cases hp
  wanted _ := nofun
  alive := nofun
  threads d := (h.threads d).mono
    (fun _ => ⟨by rw [hpc]; rfl, fun hd => Finmap.mem_insert.2 (Or.inr hd)⟩) id

/-- The main thread starts the thread of the client whose instance it has inserted. -/
theorem PointerInv.spawn (h : PointerInv s) {a : Handle} (hpc : s.main = .spawning c a) :
    PointerInv { s with
      threads := Function.update s.threads c { pc := .entry, handle := a }
      main := .starting } where
  flag := by rw [h.flag, hpc]; rfl
  entries _ := h.entries (by rw [hpc]; rfl)
  inserted d b hd := by rcases hd with hd | hd <;> cases hd
  rest _ _ hp := by cases hp
  wanted _ := nofun
  alive := nofun
  threads := by
    have hthreads := h.threads
    rw [hpc] at hthreads
    refine (Function.forall_update_iff s.threads (ThreadOk false s.isClosed s.pipes)).2
      ⟨?_, fun d _ => hthreads d⟩
    exact ⟨fun _ _ => h.inserted c a (Or.inr hpc), nofun, nofun, nofun⟩

/-- The destructor stores the flag. -/
theorem PointerInv.storeIsClosed (h : PointerInv s) (hpc : s.main = .idle) :
    PointerInv { s with isClosed := true, main := .shutting } where
  flag := rfl
  entries _ := h.entries (by rw [hpc]; rfl)
  inserted d b hd := by rcases hd with hd | hd <;> cases hd
  rest _ _ hp := by cases hp
  wanted _ := nofun
  alive := nofun
  threads d := (h.threads d).mono (fun _ => ⟨by rw [hpc]; rfl, id⟩) fun _ => rfl

/-- The destructor moves the map out; the flag is set by then. -/
theorem PointerInv.movePipes (h : PointerInv s) (hpc : s.main = .moving) :
    PointerInv { s with pipes := ∅, main := .moved s.pipes } where
  flag := by rw [h.flag, hpc]; rfl
  entries hm := by cases hm
  inserted d b hd := by rcases hd with hd | hd <;> cases hd
  rest := h.entries (by rw [hpc]; rfl)
  wanted _ := nofun
  alive := nofun
  threads d := (h.threads d).mono nofun id

/-- **Every step of the main thread keeps the invariant.** -/
theorem PointerInv.mainMove {e : MainEvent} (h : PointerInv s) (hmove : MainMove s e s') :
    PointerInv s' := by
  have hrest := h.rest
  cases hmove with
  | start hpc => exact h.moveMainPlain rfl rfl rfl rfl (by rw [hpc]; rfl) (by rw [hpc]; rfl)
  | createNamedPipe hpc =>
      exact h.moveMainPlain rfl rfl rfl rfl (by rw [hpc]; rfl) (by rw [hpc]; rfl)
  | createFailed hpc => exact h.moveMainPlain rfl rfl rfl rfl (by rw [hpc]; rfl) (by rw [hpc]; rfl)
  | connect hpc => exact h.moveMainPlain rfl rfl rfl rfl (by rw [hpc]; rfl) (by rw [hpc]; rfl)
  | connectFailed hpc =>
      exact h.moveMainPlain rfl rfl rfl rfl (by rw [hpc]; rfl) (by rw [hpc]; rfl)
  | lockToInsert hpc _ =>
      exact h.moveMainPlain rfl rfl rfl rfl (by rw [hpc]; rfl) (by rw [hpc]; rfl)
  | insertPipe hpc => exact h.insertPipe hpc
  | unlockInserted hpc =>
      refine h.moveMain rfl rfl rfl (by rw [hpc]; rfl) (by rw [hpc]; rfl) ?_ nofun nofun nofun
      rintro d b (hd | hd) <;> cases hd
      exact h.inserted _ _ (Or.inl hpc)
  | spawn hpc => exact h.spawn hpc
  | storeIsClosed hpc => exact h.storeIsClosed hpc
  | lockToMove hpc _ => exact h.moveMainPlain rfl rfl rfl rfl (by rw [hpc]; rfl) (by rw [hpc]; rfl)
  | movePipes hpc => exact h.movePipes hpc
  | unlockMoved hpc =>
      rw [hpc] at hrest
      exact h.moveMain rfl rfl rfl (by rw [hpc]; rfl) (by rw [hpc]; rfl) nofun hrest nofun nofun
  | nextPipe hpc hp =>
      rw [hpc] at hrest
      refine h.moveMain rfl rfl rfl (by rw [hpc]; rfl) (by rw [hpc]; rfl) nofun
        (fun d q hq => ?_) (fun rest hnull => ?_) nofun
      · exact hrest d q (lookup_of_lookup_erase hq)
      · cases hnull
        cases hrest _ _ hp
  | lockNull hpc => exact absurd hpc (h.wanted _)
  | lockPipe hpc _ =>
      rw [hpc] at hrest
      exact h.moveMain rfl rfl rfl (by rw [hpc]; rfl) (by rw [hpc]; rfl) nofun hrest nofun nofun
  | close hpc =>
      rw [hpc] at hrest
      exact h.moveMain rfl rfl rfl (by rw [hpc]; rfl) (by rw [hpc]; rfl) nofun hrest nofun nofun
  | unlockPipe hpc =>
      rw [hpc] at hrest
      exact h.moveMain rfl rfl rfl (by rw [hpc]; rfl) (by rw [hpc]; rfl) nofun hrest nofun nofun
  | endPipes hpc _ => exact h.moveMainPlain rfl rfl rfl rfl (by rw [hpc]; rfl) (by rw [hpc]; rfl)
  | join hpc _ => exact h.moveMainPlain rfl rfl rfl rfl (by rw [hpc]; rfl) (by rw [hpc]; rfl)
  | joined hpc _ => exact h.moveMainPlain rfl rfl rfl rfl (by rw [hpc]; rfl) (by rw [hpc]; rfl)

/-- Every step keeps the invariant. -/
theorem PointerInv.threadsStep {e : ServerEvent} (h : PointerInv s)
    (hstep : threadsStep env s e = some s') : PointerInv s' := by
  cases e with
  | main e => exact h.mainMove (mainMove_of_step hstep)
  | client c e => exact h.threadMove (threadMove_of_step hstep)

/-- Before anything has happened nobody has a pointer. -/
theorem pointerInv_init : PointerInv {} where
  flag := rfl
  entries _ _ _ hp := by cases hp
  inserted c a hc := by rcases hc with hc | hc <;> cases hc
  rest _ _ hp := by cases hp
  wanted _ := nofun
  alive := nofun
  threads _ := ⟨fun hpc => absurd rfl hpc, nofun, nofun, nofun⟩

/-- **Every reachable state satisfies the invariant.** -/
theorem pointerInv_reaches (h : Reaches (NamedPipeDemo.threadsStep env) {} s) : PointerInv s :=
  invariant_reaches (fun _ _ _ hs hstep => hs.threadsStep hstep) pointerInv_init h

end Pointers

/-! ### No null pointer is dereferenced -/

/-- **No thread ever dereferences a null pointer**, whatever the system calls return and in
whatever order the threads run. -/
theorem no_null_dereference (env : AddressText) {s : ServerThreads}
    (h : Reaches (threadsStep env) {} s) :
    s.main ≠ .crashed ∧ ∀ c, (s.threads c).pc ≠ .crashed :=
  have hinv := pointerInv_reaches h
  ⟨hinv.alive, fun c => (hinv.threads c).alive⟩

/-- A client connects, and the destructor moves the map out before the thread looks its pointer
up. -/
def lateLookup : List ServerEvent :=
  [.main .start, .main (.createNamedPipe true), .main (.connectNamedPipe true), .main .lockPipes,
    .main .insertPipe, .main .unlockPipes, .main .spawn, .main (.createNamedPipe false),
    .client 0 .enter, .main .storeIsClosed, .main .lockPipes, .main .movePipes, .main .unlockPipes,
    .client 0 .lockPipes, .client 0 .lookup, .client 0 .unlockPipes, .client 0 .loadIsClosed]

/-- The thread gets a null pointer, and stops without using it. -/
theorem lateLookup_safe :
    ∃ s, run (threadsStep default) {} lateLookup = some s ∧ (s.threads 0).pipe = none ∧
      (s.threads 0).pc = .returned ∧ s.main ≠ .crashed ∧ ∀ c, (s.threads c).pc ≠ .crashed :=
  ⟨_, rfl, rfl, rfl, no_null_dereference default ⟨lateLookup, rfl⟩⟩

end NamedPipeDemo
