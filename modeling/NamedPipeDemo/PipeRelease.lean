/-
**Handles that are used after they were closed, and handles that are never closed.**

A thread tests the flag *before* it takes the mutex of its instance, and reads with its own copy of
the handle.  That is a gap: a destructor that takes the mutex in between closes the handle, and the
thread then calls `ReadFile` with it.  The other way round, a thread whose write fails returns
without `Close`, and `Close` itself returns early when the flush or the disconnection fails: then
nobody closes the handle as long as the server runs.

Main definitions:

* `NamedPipeDemo.NoUseAfterClose` — no call is made with a handle that has been closed;
* `NamedPipeDemo.NoWaiter` — the destructor closes no pipe whose thread waits for the mutex;
* `NamedPipeDemo.UseInv` — in runs without a waiter, who may have lost the handle;
* `NamedPipeDemo.Unfailing` — no write of a client's thread fails, and no part of its `Close`.

Main results:

* `NamedPipeDemo.closed_handles_unused` — **runs without a waiter use no closed handle, and a
  waiter is all it takes**;
* `NamedPipeDemo.handle_released_iff` — **a thread that has returned has released its handle
  exactly when nothing failed.**
-/

import NamedPipeDemo.PipeHandles

set_option relaxedAutoImplicit false
set_option autoImplicit false

namespace NamedPipeDemo

open LabelledRuns

/-! ### No use after close -/

/-- No call is made with a handle that was closed before; the newest call stands first. -/
def NoUseAfterClose (log : List Win32Call) : Prop :=
  log.Pairwise fun later earlier => earlier ≠ .closeHandle later.handle

instance (log : List Win32Call) : Decidable (NoUseAfterClose log) :=
  inferInstanceAs (Decidable (log.Pairwise _))

/-- The step is not a `Close` of the destructor that succeeds while the thread of the client waits
for the mutex: that thread has tested the flag already. -/
def NoWaiter (s : ServerThreads) : ServerEvent → Prop
  | .main (.close flushed disconnected) => ∀ c rest, s.main = .closingPipe c rest →
      (s.instances c).pipeHandle ≠ nullHandle → flushed = true → disconnected = true →
        (s.threads c).pc ≠ .wantPipe
  | _ => True

/-- The client whose pipe the destructor is at. -/
def MainPc.pipeClient : MainPc → Option ℕ
  | closingPipe c _ => some c
  | _ => none

theorem MainPc.pipeClient_eq_some {pc : MainPc} {c : ℕ} :
    pc.pipeClient = some c ↔ ∃ rest, pc = closingPipe c rest := by
  constructor
  · intro h
    cases pc with
    | closingPipe c' rest =>
        cases h
        exact ⟨rest, rfl⟩
    | _ => cases h
  · rintro ⟨rest, rfl⟩
    rfl

instance (s : ServerThreads) (e : ServerEvent) : Decidable (NoWaiter s e) := by
  unfold NoWaiter
  split
  · next flushed disconnected =>
      refine decidable_of_iff (∀ c ∈ s.main.pipeClient, (s.instances c).pipeHandle ≠ nullHandle →
        flushed = true → disconnected = true → (s.threads c).pc ≠ .wantPipe) ?_
      simp only [Option.mem_def, MainPc.pipeClient_eq_some, forall_exists_index]
  · infer_instance

namespace ThreadPc

/-- The thread has left its loop. -/
def isDone : ThreadPc → Bool
  | leaving again => !again
  | returned => true
  | _ => false

/-- The thread has not tested the flag yet, or is about to test it again. -/
def beforeTest : ThreadPc → Bool
  | entry => true
  | lookupLock => true
  | lookupHeld => true
  | lookupDone => true
  | test => true
  | _ => false

end ThreadPc

/-- **The invariant of runs without a waiter**: a thread whose instance has been cleared has left
its loop, or will see the flag. -/
structure UseInv (s : ServerThreads) : Prop where
  log : NoUseAfterClose s.log
  cleared : ∀ c, (s.threads c).pc ≠ .notStarted → (s.instances c).pipeHandle = nullHandle →
    (s.threads c).pc.isDone = true ∨
      s.isClosed = true ∧ (s.threads c).pc.beforeTest = true

section Uses

variable {env : AddressText} {s s' : ServerThreads} {c : ℕ}

theorem ServerThreads.mem_closedHandles {a : Handle} :
    a ∈ s.closedHandles ↔ .closeHandle a ∈ s.log := by
  unfold closedHandles
  rw [List.mem_filterMap]
  constructor
  · rintro ⟨w, hw, ha⟩
    cases w <;> cases ha
    exact hw
  · intro ha
    exact ⟨_, ha, rfl⟩

/-- A call with an open handle. -/
theorem NoUseAfterClose.cons {log : List Win32Call} {w : Win32Call} (h : NoUseAfterClose log)
    (hopen : .closeHandle w.handle ∉ log) : NoUseAfterClose (w :: log) := by
  refine List.pairwise_cons.2 ⟨fun e he heq => ?_, h⟩
  exact hopen (heq ▸ he)

/-- Calls with an open handle that do not close it. -/
theorem NoUseAfterClose.append {log calls : List Win32Call} {a : Handle}
    (h : NoUseAfterClose log) (hopen : .closeHandle a ∉ log)
    (hcalls : ∀ w ∈ calls, w.handle = a ∧ ∀ b, w ≠ .closeHandle b) :
    NoUseAfterClose (calls ++ log) := by
  induction calls with
  | nil => exact h
  | cons w calls ih =>
      have hrest : ∀ v ∈ calls, v.handle = a ∧ ∀ b, v ≠ .closeHandle b :=
        fun v hv => hcalls v (List.mem_cons_of_mem w hv)
      refine (ih hrest).cons fun hmem => ?_
      rw [(hcalls w List.mem_cons_self).1] at hmem
      rcases List.mem_append.1 hmem with hmem | hmem
      · exact (hrest _ hmem).2 a rfl
      · exact hopen hmem

/-- A `Close` that succeeds uses an open handle, and closes it last. -/
theorem NoUseAfterClose.closed (h : NoUseAfterClose s.log)
    (hopen : (s.instances c).pipeHandle ∉ s.closedHandles) :
    NoUseAfterClose (s.closed c).log := by
  rw [ServerThreads.mem_closedHandles] at hopen
  refine NoUseAfterClose.cons (NoUseAfterClose.cons (h.cons hopen) ?_) ?_
  · simpa [Win32Call.handle] using hopen
  · simpa [Win32Call.handle] using hopen

/-- `Close` uses only the handle of its instance, which is open. -/
theorem HandleInv.closePipe_log (h : HandleInv s) (hlog : NoUseAfterClose s.log)
    (flushed disconnected : Bool) :
    NoUseAfterClose (s.closePipe c flushed disconnected).log := by
  rcases ServerThreads.closePipe_cases flushed disconnected (s := s) (c := c) with
    ⟨hopen, _, _, heq⟩ | ⟨_, calls, heq, hcalls⟩
  · rw [heq]
    exact hlog.closed (h.opened c hopen).2
  · rw [heq]
    by_cases hnull : (s.instances c).pipeHandle = nullHandle
    · cases calls with
      | nil => exact hlog
      | cons w calls => exact absurd hnull (hcalls w List.mem_cons_self).1
    · refine hlog.append ?_ fun w hw => (hcalls w hw).2
      rw [← ServerThreads.mem_closedHandles]
      exact (h.opened c hnull).2

/-- The instance of a thread that is in its loop has its handle. -/
theorem UseInv.opened (h : UseInv s) {pc : ThreadPc} (hpc : (s.threads c).pc = pc)
    (hstarted : pc ≠ .notStarted) (hdone : pc.isDone = false) (hbefore : pc.beforeTest = false) :
    (s.instances c).pipeHandle ≠ nullHandle := by
  intro hnull
  rcases h.cleared c (by rwa [hpc]) hnull with hd | ⟨_, hb⟩
  · rw [hpc, hdone] at hd
    cases hd
  · rw [hpc, hbefore] at hb
    cases hb

/-- The handle of a thread that is in its loop is open. -/
theorem UseInv.handle_open (h : UseInv s) (hh : HandleInv s) {pc : ThreadPc}
    (hpc : (s.threads c).pc = pc) (hstarted : pc ≠ .notStarted) (hdone : pc.isDone = false)
    (hbefore : pc.beforeTest = false) : .closeHandle (s.threads c).handle ∉ s.log := by
  have hopen := h.opened hpc hstarted hdone hbefore
  have heq := (hh.clients c (by rwa [hpc])).2.resolve_right fun hclosed => hopen hclosed.1
  rw [← ServerThreads.mem_closedHandles, ← heq]
  exact (hh.opened c hopen).2

/-- A step of a thread that was started. -/
theorem UseInv.update (h : UseInv s) {t : ClientThread}
    (hstarted : (s.threads c).pc ≠ .notStarted) (hclosed : s'.isClosed = s.isClosed)
    (hthreads : s'.threads = Function.update s.threads c t)
    (hpipe : ∀ d, d ≠ c → (s'.instances d).pipeHandle = (s.instances d).pipeHandle)
    (hlog : NoUseAfterClose s'.log)
    (hcleared : (s'.instances c).pipeHandle = nullHandle →
      t.pc.isDone = true ∨ s.isClosed = true ∧ t.pc.beforeTest = true) : UseInv s' where
  log := hlog
  cleared d hd hnull := by
    rw [hthreads] at hd ⊢
    rw [hclosed]
    by_cases hdc : d = c
    · subst hdc
      rw [Function.update_self]
      exact hcleared hnull
    · rw [Function.update_of_ne hdc] at hd ⊢
      rw [hpipe d hdc] at hnull
      exact h.cleared d hd hnull

/-- A thread in its loop goes on, and leaves the handles of the instances alone. -/
theorem UseInv.inLoop (h : UseInv s) {t : ClientThread} {pc : ThreadPc}
    (hpc : (s.threads c).pc = pc) (hstarted : pc ≠ .notStarted) (hdone : pc.isDone = false)
    (hbefore : pc.beforeTest = false) (hclosed : s'.isClosed = s.isClosed)
    (hthreads : s'.threads = Function.update s.threads c t)
    (hpipe : ∀ d, (s'.instances d).pipeHandle = (s.instances d).pipeHandle)
    (hlog : NoUseAfterClose s'.log) : UseInv s' := by
  have hopen := h.opened hpc hstarted hdone hbefore
  refine h.update (by rwa [hpc]) hclosed hthreads (fun d _ => hpipe d) hlog fun hnull => ?_
  rw [hpipe c] at hnull
  exact absurd hnull hopen

/-- A thread that is about to test the flag goes on. -/
theorem UseInv.toTest (h : UseInv s) {t : ClientThread} {pc : ThreadPc}
    (hpc : (s.threads c).pc = pc) (hbefore : pc.beforeTest = true) (hdone : pc.isDone = false)
    (hbefore' : t.pc.beforeTest = true) (hclosed : s'.isClosed = s.isClosed)
    (hthreads : s'.threads = Function.update s.threads c t)
    (hinstances : s'.instances = s.instances) (hlog : s'.log = s.log) : UseInv s' := by
  have hstarted : (s.threads c).pc ≠ .notStarted := by
    rw [hpc]
    rintro rfl
    cases hbefore
  refine h.update hstarted hclosed hthreads (fun d _ => by rw [hinstances]) (hlog ▸ h.log) ?_
  intro hnull
  rw [hinstances] at hnull
  rcases h.cleared c hstarted hnull with hd | ⟨hset, _⟩
  · rw [hpc, hdone] at hd
    cases hd
  · exact Or.inr ⟨hset, hbefore'⟩

/-- **Every step of a client's thread keeps the invariant.** -/
theorem UseInv.threadMove {e : ThreadEvent} (h : UseInv s) (hs : ServerInv s)
    (hmove : ThreadMove env s c e s') : UseInv s' := by
  have hstarted := hmove.started
  cases hmove with
  | enter hpc _ => exact h.toTest hpc rfl rfl rfl rfl rfl rfl rfl
  | refuse hpc _ =>
      exact h.update hstarted rfl rfl (fun _ _ => rfl) h.log fun _ => Or.inl rfl
  | lockPipes hpc _ => exact h.toTest hpc rfl rfl rfl rfl rfl rfl rfl
  | found hpc _ => exact h.toTest hpc rfl rfl rfl rfl rfl rfl rfl
  | missing hpc _ => exact h.toTest hpc rfl rfl rfl rfl rfl rfl rfl
  | unlockPipes hpc => exact h.toTest hpc rfl rfl rfl rfl rfl rfl rfl
  | stop hpc _ =>
      exact h.update hstarted rfl rfl (fun _ _ => rfl) h.log fun _ => Or.inl rfl
  | goOn hpc hopen =>
      refine h.update hstarted rfl rfl (fun _ _ => rfl) h.log fun hnull => ?_
      -- the flag is not set, so nobody but the thread itself can have cleared the instance
      rcases h.cleared c hstarted hnull with hd | ⟨hset, _⟩
      · rw [hpc] at hd
        cases hd
      · rw [hopen] at hset
        cases hset
  | lockNull hpc _ => exact h.inLoop hpc nofun rfl rfl rfl rfl (fun _ => rfl) h.log
  | lockPipe hpc hpipe _ =>
      exact h.inLoop hpc nofun rfl rfl rfl rfl (fun _ => by simp) h.log
  | readFailed hpc _ =>
      have hopen := h.handle_open hs.handles hpc nofun rfl rfl
      exact h.inLoop hpc nofun rfl rfl rfl rfl (fun _ => rfl) (h.log.cons hopen)
  | read hpc _ =>
      have hopen := h.handle_open hs.handles hpc nofun rfl rfl
      exact h.inLoop hpc nofun rfl rfl rfl rfl (fun _ => rfl) (h.log.cons hopen)
  | answer hpc _ => exact h.inLoop hpc nofun rfl rfl rfl rfl (fun _ => rfl) h.log
  | noAnswer hpc _ => exact h.inLoop hpc nofun rfl rfl rfl rfl (fun _ => rfl) h.log
  | writeFile hpc =>
      have hopen := h.handle_open hs.handles hpc nofun rfl rfl
      exact h.inLoop hpc nofun rfl rfl rfl rfl (fun _ => rfl) (h.log.cons hopen)
  | closeNull hpc _ => exact h.inLoop hpc nofun rfl rfl rfl rfl (fun _ => rfl) h.log
  | close hpc hpipe =>
      cases hs.pointers.pointer_eq hpc rfl hpipe
      refine h.update hstarted rfl rfl (fun d hd => ?_)
        (hs.handles.closePipe_log h.log _ _) fun _ => Or.inl rfl
      exact congrArg PipeInstance.pipeHandle (Function.update_of_ne hd ..)
  | unlockPipe hpc hpipe =>
      rename_i again p
      refine h.update hstarted rfl rfl (fun _ _ => by simp) h.log fun hnull => ?_
      rw [ServerThreads.setPc_instances, ServerThreads.setMutex_pipeHandle] at hnull
      cases again with
      | false => exact Or.inl rfl
      | true => exact absurd hnull (h.opened hpc nofun rfl rfl)

/-- A step of the main thread that closes no pipe. -/
theorem UseInv.moveMain (h : UseInv s) (hclosed : s.isClosed = true → s'.isClosed = true)
    (hthreads : s'.threads = s.threads)
    (hpipe : ∀ d, (s'.instances d).pipeHandle = (s.instances d).pipeHandle)
    (hlog : NoUseAfterClose s'.log) : UseInv s' where
  log := hlog
  cleared d hd hnull := by
    rw [hthreads] at hd ⊢
    rw [hpipe] at hnull
    exact (h.cleared d hd hnull).imp id fun hb => ⟨hclosed hb.1, hb.2⟩

/-- While the main thread has the mutex of an instance, a thread that does not wait for it is
outside its loop. -/
theorem ServerInv.outside (hs : ServerInv s) (hm : s.main.locked = some c)
    (hstarted : (s.threads c).pc ≠ .notStarted) (hwait : (s.threads c).pc ≠ .wantPipe) :
    (s.threads c).pc.isDone = true ∨ (s.threads c).pc.beforeTest = true := by
  have hlocked : (s.threads c).pc.isLocked = false := by
    refine hs.locks.not_isLocked ?_
    rw [hs.locks.main c hm]
    nofun
  have halive := (hs.pointers.threads c).alive
  cases hpc : (s.threads c).pc <;> rw [hpc] at hstarted hwait hlocked halive <;>
    first
    | exact Or.inl rfl
    | exact Or.inr rfl
    | exact absurd rfl hstarted
    | exact absurd rfl hwait
    | exact absurd rfl halive
    | cases hlocked

/-- The destructor closes the pipe of a thread that does not wait for it. -/
theorem UseInv.closeByMain (h : UseInv s) (hs : ServerInv s) {rest : PipeMap}
    {flushed disconnected : Bool} (hpc : s.main = .closingPipe c rest)
    (hC : NoWaiter s (.main (.close flushed disconnected))) :
    UseInv { s.closePipe c flushed disconnected with main := .closedPipe c rest } := by
  have hlog : NoUseAfterClose (s.closePipe c flushed disconnected).log :=
    hs.handles.closePipe_log h.log _ _
  rcases ServerThreads.closePipe_handles flushed disconnected (.closedPipe c rest) with
    hsame | ⟨hopen, hf, hd, heq⟩
  · exact h.moveMain id rfl hsame.pipeHandle hlog
  · have hflag : s.isClosed = true := by rw [hs.pointers.flag, hpc]; rfl
    refine ⟨hlog, fun d hstarted hnull => ?_⟩
    by_cases hdc : d = c
    · subst hdc
      refine (hs.outside (by rw [hpc]; rfl) hstarted ?_).imp id fun hb => ⟨hflag, hb⟩
      exact hC d rest hpc hopen hf hd
    · refine h.cleared d hstarted ?_
      rw [← hnull]
      exact (congrArg PipeInstance.pipeHandle (Function.update_of_ne hdc ..)).symm

/-- **Every step of the main thread that finds nobody waiting keeps the invariant.** -/
theorem UseInv.mainMove {e : MainEvent} (h : UseInv s) (hs : ServerInv s)
    (hC : NoWaiter s (.main e)) (hmove : MainMove s e s') : UseInv s' := by
  cases hmove with
  | connectFailed hpc =>
      refine h.moveMain id rfl (fun _ => rfl) (h.log.cons ?_)
      rw [Win32Call.handle, ← ServerThreads.mem_closedHandles]
      exact (hs.handles.held _ (by rw [hpc]; rfl)).2.2.1
  | insertPipe hpc =>
      rename_i c a
      refine ⟨h.log, fun d hd hnull => h.cleared d hd ?_⟩
      have hdc : d ≠ c := by
        rintro rfl
        exact hd (hs.locks.new d (by rw [hpc]; rfl)).2
      rw [← hnull]
      exact (congrArg PipeInstance.pipeHandle (Function.update_of_ne hdc ..)).symm
  | spawn hpc =>
      rename_i c a
      obtain ⟨hne, heq⟩ := hs.handles.registered c a (by rw [hpc]; rfl)
      refine ⟨h.log, fun d hd hnull => ?_⟩
      have hdc : d ≠ c := by
        rintro rfl
        exact hne (heq ▸ hnull)
      simp only [Function.update_of_ne hdc] at hd ⊢
      exact h.cleared d hd hnull
  | storeIsClosed hpc => exact h.moveMain (fun _ => rfl) rfl (fun _ => rfl) h.log
  | lockPipe hpc _ => exact h.moveMain id rfl (fun _ => by simp) h.log
  | unlockPipe hpc => exact h.moveMain id rfl (fun _ => by simp) h.log
  | close hpc => exact h.closeByMain hs hpc hC
  | _ => exact h.moveMain id rfl (fun _ => rfl) h.log

/-- Every step that finds nobody waiting keeps the invariant. -/
theorem UseInv.threadsStep {e : ServerEvent} (h : UseInv s) (hs : ServerInv s)
    (hC : NoWaiter s e) (hstep : threadsStep env s e = some s') : UseInv s' := by
  cases e with
  | main e => exact h.mainMove hs hC (mainMove_of_step hstep)
  | client c e => exact h.threadMove hs (threadMove_of_step hstep)

theorem useInv_init : UseInv {} where
  log := List.Pairwise.nil
  cleared _ hc := absurd rfl hc

/-- **Runs without a waiter satisfy the invariant.** -/
theorem useInv_along {es : List ServerEvent}
    (hC : Along (NamedPipeDemo.threadsStep env) NoWaiter {} es)
    (h : run (NamedPipeDemo.threadsStep env) {} es = some s) : UseInv s := by
  have hstep : ∀ t e t', (ServerInv t ∧ UseInv t) → NoWaiter t e →
      NamedPipeDemo.threadsStep env t e = some t' → ServerInv t' ∧ UseInv t' :=
    fun _ _ _ ht hC hstep => ⟨ht.1.threadsStep hstep, ht.2.threadsStep ht.1 hC hstep⟩
  exact (invariant_along hstep ⟨serverInv_init, useInv_init⟩ hC h).2

end Uses

/-! ### A waiter is all it takes -/

section Waiter

variable {env : AddressText} {s s' : ServerThreads} {c : ℕ}

/-- The destructor gives the mutex back to a thread that waits for it: the thread takes it, and
reads with its own copy of the handle. -/
theorem reaches_readFile {rest : PipeMap} (hmain : s.main = .closedPipe c rest)
    (hpc : (s.threads c).pc = .wantPipe) (hpipe : (s.threads c).pipe = some c) :
    ∃ s', Reaches (threadsStep env) s s' ∧
      s'.log = .readFile (s.threads c).handle :: s.log := by
  let s₁ : ServerThreads := { s.setMutex c none with main := .closing rest }
  let s₂ : ServerThreads := (s₁.setMutex c (some (.client c))).setPc c .reading
  let s₃ : ServerThreads := (s₂.call (.readFile (s.threads c).handle)).setPc c .closing
  have hunlock : threadsStep env s (.main .unlockPipe) = some s₁ := by
    simp only [threadsStep, mainStep, hmain, s₁]
  have hfree : (s₁.instances c).mutex = none := by
    simp only [s₁, ServerThreads.setMutex, Function.update_self]
  have hlock : threadsStep env s₁ (.client c .lockPipe) = some s₂ := by
    have hpc₁ : (s₁.threads c).pc = .wantPipe := hpc
    have hpipe₁ : (s₁.threads c).pipe = some c := hpipe
    simp only [threadsStep, threadStep, hpc₁, hpipe₁, hfree, if_true, s₂]
  have hread : threadsStep env s₂ (.client c (.readFile false [])) = some s₃ := by
    have hthread : s₂.threads c = { s.threads c with pc := .reading } :=
      ServerThreads.setPc_threads_self ..
    simp [threadsStep, threadStep, hthread, s₃]
  refine ⟨s₃, ⟨[.main .unlockPipe, .client c .lockPipe, .client c (.readFile false [])], ?_⟩, rfl⟩
  rw [run_cons, hunlock, Option.bind_some, run_cons, hlock, Option.bind_some, run_cons, hread]
  rfl

/-- What a step that finds a thread waiting is. -/
theorem waiter_of_not {e : ServerEvent} (hC : ¬ NoWaiter s e) :
    ∃ c rest, e = .main (.close true true) ∧ s.main = .closingPipe c rest ∧
      (s.instances c).pipeHandle ≠ nullHandle ∧ (s.threads c).pc = .wantPipe := by
  cases e with
  | client d e => exact absurd trivial hC
  | main e =>
      cases e with
      | close flushed disconnected =>
          simp only [NoWaiter, ne_eq, not_forall, not_not] at hC
          obtain ⟨c, rest, hmain, hopen, rfl, rfl, hpc⟩ := hC
          exact ⟨c, rest, rfl, hmain, hopen, hpc⟩
      | _ => exact absurd trivial hC

/-- **A destructor that closes the pipe of a waiting thread makes it read from a closed handle.** -/
theorem waiter_reads {e : ServerEvent} (hs : ServerInv s) (hC : ¬ NoWaiter s e)
    (hstep : threadsStep env s e = some s') :
    ∃ s'', Reaches (threadsStep env) s' s'' ∧ ¬ NoUseAfterClose s''.log := by
  obtain ⟨c, rest, rfl, hmain, hopen, hpc⟩ := waiter_of_not hC
  have hs' : s' = { s.closed c with main := .closedPipe c rest } := by
    rcases ServerThreads.closePipe_cases true true (s := s) (c := c) with
      ⟨_, _, _, heq⟩ | ⟨hfailed, _⟩
    · simp only [threadsStep, mainStep, hmain, heq, Option.some_inj] at hstep
      exact hstep.symm
    · rcases hfailed with hnull | hfalse | hfalse
      · exact absurd hnull hopen
      · cases hfalse
      · cases hfalse
  have hstarted : (s.threads c).pc ≠ .notStarted := by
    rw [hpc]
    intro hns
    cases hns
  have hhandle : (s.instances c).pipeHandle = (s.threads c).handle :=
    (hs.handles.clients c hstarted).2.resolve_right fun hclosed => hopen hclosed.1
  have hpipe : (s'.threads c).pipe = some c := by
    rw [hs']
    exact (hs.pointers.threads c).inLoop (by rw [hpc]; rfl)
  have hmain' : s'.main = .closedPipe c rest := by rw [hs']
  have hpc' : (s'.threads c).pc = .wantPipe := by rw [hs']; exact hpc
  obtain ⟨s'', hreach, hlog⟩ : ∃ s'', Reaches (threadsStep env) s' s'' ∧
      s''.log = .readFile (s'.threads c).handle :: s'.log := reaches_readFile hmain' hpc' hpipe
  refine ⟨s'', hreach, fun hsafe => ?_⟩
  rw [hlog] at hsafe
  refine (List.pairwise_cons.1 hsafe).1 (.closeHandle (s.threads c).handle) ?_ ?_
  · rw [hs', ← hhandle]
    exact List.mem_cons_self
  · rw [hs']
    rfl

end Waiter

/-- **No call is made with a closed handle, and no handle is closed twice, in the runs whose
destructor closes no pipe that a thread waits for; and when it does close one, the run goes on to a
`ReadFile` with the closed handle.** -/
theorem closed_handles_unused (env : AddressText) :
    (∀ es s, Along (threadsStep env) NoWaiter {} es → run (threadsStep env) {} es = some s →
      NoUseAfterClose s.log) ∧
    ∀ es s e s', run (threadsStep env) {} es = some s → ¬ NoWaiter s e →
      threadsStep env s e = some s' →
        ∃ s'', Reaches (threadsStep env) s' s'' ∧ ¬ NoUseAfterClose s''.log :=
  ⟨fun _ _ hC hrun => (useInv_along hC hrun).log,
    fun _ _ _ _ hrun hC hstep => waiter_reads (serverInv_run hrun) hC hstep⟩

/-- A client connects, and its thread looks its pointer up and tests the flag. -/
def oneClientWaits : List ServerEvent :=
  [.main .start, .main (.createNamedPipe true), .main (.connectNamedPipe true), .main .lockPipes,
    .main .insertPipe, .main .unlockPipes, .main .spawn, .client 0 .enter, .client 0 .lockPipes,
    .client 0 .lookup, .client 0 .unlockPipes, .client 0 .loadIsClosed]

/-- The thread creates an object for its client, and finds the flag set before it waits again; the
destructor then closes the pipe, whose client is still connected, and joins the thread. -/
def shutdownBehindTest : List ServerEvent :=
  oneClientWaits ++ [.client 0 .lockPipe,
    .client 0 (.readFile true (createRequestIdData 1 ++ (createCustomClassRequest ++ ascii "#c"))),
    .client 0 .parse, .client 0 (.writeFile true 12), .client 0 .unlockPipe,
    .main (.createNamedPipe false),
    .main .storeIsClosed, .client 0 .loadIsClosed, .main .lockPipes, .main .movePipes,
    .main .unlockPipes, .main (.nextPipe 0), .main .lockPipe, .main (.close true true),
    .main .unlockPipe, .main .endPipes, .main .join, .main .join]

set_option maxRecDepth 4000 in
/-- The pipe is closed once, and not used afterwards. -/
theorem shutdownBehindTest_safe :
    ∃ s, run (threadsStep default) {} shutdownBehindTest = some s ∧
      s.log = [.closeHandle 1, .disconnectNamedPipe 1, .flushFileBuffers 1, .writeFile 1,
        .readFile 1] ∧ NoUseAfterClose s.log := by
  have hlog : (run (threadsStep default) {} shutdownBehindTest).map ServerThreads.log =
      some [.closeHandle 1, .disconnectNamedPipe 1, .flushFileBuffers 1, .writeFile 1,
        .readFile 1] := by decide
  obtain ⟨s, hrun, hs⟩ := Option.map_eq_some_iff.1 hlog
  exact ⟨s, hrun, hs, (closed_handles_unused default).1 _ s (by decide) hrun⟩

/-- The destructor closes the pipe of a thread that waits for its mutex, and the thread reads from
it. -/
theorem shutdown_reads_closed :
    ¬ ∀ (env : AddressText) (es : List ServerEvent) (s : ServerThreads),
        run (threadsStep env) {} es = some s → NoUseAfterClose s.log :=
  fun h => absurd
    (h default (oneClientWaits ++ [.main (.createNamedPipe false), .main .storeIsClosed,
      .main .lockPipes, .main .movePipes, .main .unlockPipes, .main (.nextPipe 0), .main .lockPipe,
      .main (.close true true), .main .unlockPipe, .client 0 .lockPipe,
      .client 0 (.readFile false [])]) _ rfl)
    (by decide)

/-! ### Handles that are never closed -/

/-- The step is not a write of client `c` that fails or is short, and no part of its `Close` that
fails. -/
def Unfailing (c : ℕ) (s : ServerThreads) : ServerEvent → Prop
  | .client d (.writeFile success bytesWritten) => d = c →
      ∀ frame, (s.threads c).pc = .writing frame → success = true ∧ bytesWritten = frame.length
  | .client d (.close flushed disconnected) => d = c → flushed = true ∧ disconnected = true
  | _ => True

/-- **The invariant of a client's handle, while the server runs**: as long as the thread is in its
loop nothing has failed and the instance has its handle; afterwards it has been cleared exactly when
nothing failed. -/
structure ReleaseInv (env : AddressText) (c : ℕ) (es : List ServerEvent) (s : ServerThreads) :
    Prop where
  done : (s.threads c).pc.isDone = true →
    ((s.instances c).pipeHandle = nullHandle ↔ Along (threadsStep env) (Unfailing c) {} es)
  busy : (s.threads c).pc.isDone = false → Along (threadsStep env) (Unfailing c) {} es ∧
    ((s.threads c).pc ≠ .notStarted → (s.instances c).pipeHandle ≠ nullHandle)

section Release

variable {env : AddressText} {s s' : ServerThreads} {c : ℕ} {es : List ServerEvent}
  {e : ServerEvent}

/-- A step that changes neither the place of the thread in the loop nor its handle. -/
theorem ReleaseInv.keep (h : ReleaseInv env c es s) (hrun : run (threadsStep env) {} es = some s)
    (hC : Unfailing c s e) (hdone : (s'.threads c).pc.isDone = (s.threads c).pc.isDone)
    (hstarted : (s'.threads c).pc ≠ .notStarted → (s.threads c).pc ≠ .notStarted)
    (hpipe : (s'.instances c).pipeHandle = (s.instances c).pipeHandle) :
    ReleaseInv env c (es ++ [e]) s' where
  done hd := by
    rw [hdone] at hd
    rw [hpipe, h.done hd, along_concat hrun]
    exact ⟨fun hA => ⟨hA, hC⟩, And.left⟩
  busy hd := by
    rw [hdone] at hd
    rw [hpipe, along_concat hrun]
    exact ⟨⟨(h.busy hd).1, hC⟩, fun hs => (h.busy hd).2 (hstarted hs)⟩

/-- A step of the client's own thread that neither leaves the loop nor closes. -/
theorem ReleaseInv.keepThread (h : ReleaseInv env c es s)
    (hrun : run (threadsStep env) {} es = some s) {t : ClientThread} {pc : ThreadPc}
    (hC : Unfailing c s e) (hpc : (s.threads c).pc = pc) (hstarted : pc ≠ .notStarted)
    (hthreads : s'.threads = Function.update s.threads c t) (hdone : t.pc.isDone = pc.isDone)
    (hpipe : (s'.instances c).pipeHandle = (s.instances c).pipeHandle) :
    ReleaseInv env c (es ++ [e]) s' := by
  refine h.keep hrun hC ?_ (fun _ => by rwa [hpc]) hpipe
  rw [hthreads, Function.update_self, hdone, hpc]

/-- The thread is still in its loop, and its instance has its handle. -/
theorem ReleaseInv.handle_ne (h : ReleaseInv env c es s) {pc : ThreadPc}
    (hpc : (s.threads c).pc = pc) (hstarted : pc ≠ .notStarted) (hdone : pc.isDone = false) :
    (s.instances c).pipeHandle ≠ nullHandle :=
  (h.busy (by rw [hpc, hdone])).2 (by rwa [hpc])

/-- A write decides whether the thread stays in its loop: it leaves with the handle when the write
has failed. -/
theorem ReleaseInv.writeFile (h : ReleaseInv env c es s)
    (hrun : run (threadsStep env) {} es = some s) {frame : RawData} {success : Bool}
    {bytesWritten : ℕ} (hpc : (s.threads c).pc = .writing frame) :
    ReleaseInv env c (es ++ [.client c (.writeFile success bytesWritten)])
      ((s.call (.writeFile (s.threads c).handle)).setPc c
        (.leaving (success && bytesWritten == frame.length))) := by
  by_cases hgood : success = true ∧ bytesWritten = frame.length
  · refine h.keepThread hrun (fun _ f hf => ?_) hpc nofun rfl ?_ rfl
    · rw [hpc] at hf
      cases hf
      exact hgood
    · simp [hgood.1, hgood.2, ThreadPc.isDone]
  · have hfailed : (success && bytesWritten == frame.length) = false := by
      simpa using hgood
    refine ⟨fun _ => ?_, fun hd => ?_⟩
    · refine iff_of_false (h.handle_ne hpc nofun rfl) fun hA => hgood ?_
      exact ((along_concat hrun).1 hA).2 rfl frame hpc
    · rw [hfailed, ServerThreads.setPc_threads_self] at hd
      cases hd

/-- `Close` decides whether the handle is closed. -/
theorem ReleaseInv.close (h : ReleaseInv env c es s)
    (hrun : run (threadsStep env) {} es = some s) {flushed disconnected : Bool}
    (hpc : (s.threads c).pc = .closing) :
    ReleaseInv env c (es ++ [.client c (.close flushed disconnected)])
      ((s.closePipe c flushed disconnected).setPc c (.leaving false)) := by
  have hopen := h.handle_ne hpc nofun rfl
  have hA := (h.busy (by rw [hpc]; rfl)).1
  refine ⟨fun _ => ?_, fun hd => ?_⟩
  · rcases ServerThreads.closePipe_cases flushed disconnected (s := s) (c := c) with
      ⟨_, hf, hdis, heq⟩ | ⟨hfailed, calls, heq, _⟩
    · refine iff_of_true ?_ ((along_concat hrun).2 ⟨hA, fun _ => ⟨hf, hdis⟩⟩)
      simp only [heq, ServerThreads.setPc_instances, ServerThreads.closed, Function.update_self]
    · refine iff_of_false ?_ fun hA' => ?_
      · rw [heq]
        exact hopen
      · obtain ⟨hf, hdis⟩ := ((along_concat hrun).1 hA').2 rfl
        rcases hfailed with hnull | hfalse | hfalse
        · exact hopen hnull
        · rw [hf] at hfalse
          cases hfalse
        · rw [hdis] at hfalse
          cases hfalse
  · rw [ServerThreads.setPc_threads_self] at hd
    cases hd

/-- Every step of the client's own thread keeps the invariant. -/
theorem ReleaseInv.ownMove {e : ThreadEvent} (h : ReleaseInv env c es s) (hs : ServerInv s)
    (hrun : run (threadsStep env) {} es = some s) (hopen : s.isClosed = false)
    (hmove : ThreadMove env s c e s') : ReleaseInv env c (es ++ [.client c e]) s' := by
  have hstarted := hmove.started
  cases hmove with
  | enter hpc _ => exact h.keepThread hrun trivial hpc nofun rfl rfl rfl
  | refuse _ hnull => exact absurd hnull (hs.handles.clients c hstarted).1
  | lockPipes hpc _ => exact h.keepThread hrun trivial hpc nofun rfl rfl rfl
  | found hpc _ => exact h.keepThread hrun trivial hpc nofun rfl rfl rfl
  | missing hpc _ => exact h.keepThread hrun trivial hpc nofun rfl rfl rfl
  | unlockPipes hpc => exact h.keepThread hrun trivial hpc nofun rfl rfl rfl
  | stop _ hset =>
      rw [hopen] at hset
      cases hset
  | goOn hpc _ => exact h.keepThread hrun trivial hpc nofun rfl rfl rfl
  | lockNull hpc _ => exact h.keepThread hrun trivial hpc nofun rfl rfl rfl
  | lockPipe hpc _ _ => exact h.keepThread hrun trivial hpc nofun rfl rfl (by simp)
  | readFailed hpc _ => exact h.keepThread hrun trivial hpc nofun rfl rfl rfl
  | read hpc _ => exact h.keepThread hrun trivial hpc nofun rfl rfl rfl
  | answer hpc _ => exact h.keepThread hrun trivial hpc nofun rfl rfl rfl
  | noAnswer hpc _ => exact h.keepThread hrun trivial hpc nofun rfl rfl rfl
  | writeFile hpc => exact h.writeFile hrun hpc
  | closeNull hpc hpipe =>
      have hloop := (hs.pointers.threads c).inLoop (by rw [hpc]; rfl)
      rw [hpipe] at hloop
      cases hloop
  | close hpc hpipe =>
      cases hs.pointers.pointer_eq hpc rfl hpipe
      exact h.close hrun hpc
  | unlockPipe hpc _ =>
      refine h.keepThread hrun trivial hpc nofun rfl ?_ (by simp)
      split <;> next again => simp [ThreadPc.isDone, again]

/-- A step of another client's thread keeps the invariant. -/
theorem ReleaseInv.otherMove {d : ℕ} {e : ThreadEvent} (h : ReleaseInv env c es s)
    (hs : ServerInv s) (hrun : run (threadsStep env) {} es = some s) (hd : c ≠ d)
    (hmove : ThreadMove env s d e s') : ReleaseInv env c (es ++ [.client d e]) s' := by
  have hC : Unfailing c s (.client d e) := by
    unfold Unfailing
    split <;> first | exact trivial | next heq => cases heq; exact fun hdc => absurd hdc.symm hd
  have hthread : s'.threads c = s.threads c := by
    cases hmove <;> exact Function.update_of_ne hd ..
  refine h.keep hrun hC (by rw [hthread]) (by rw [hthread]; exact id) ?_
  rcases hmove.handles hs.pointers with hsame | ⟨_, _, _, rfl⟩
  · exact hsame.pipeHandle c
  · exact congrArg PipeInstance.pipeHandle (Function.update_of_ne hd ..)

/-- A step that finds the thread not started, and leaves it with its handle if it starts it. -/
theorem ReleaseInv.notStarted (h : ReleaseInv env c es s)
    (hrun : run (threadsStep env) {} es = some s) (hC : Unfailing c s e)
    (hpc : (s.threads c).pc = .notStarted) (hdone : (s'.threads c).pc.isDone = false)
    (hopen : (s'.threads c).pc ≠ .notStarted → (s'.instances c).pipeHandle ≠ nullHandle) :
    ReleaseInv env c (es ++ [e]) s' where
  done hd := by
    rw [hdone] at hd
    cases hd
  busy _ := ⟨(along_concat hrun).2 ⟨(h.busy (by rw [hpc]; rfl)).1, hC⟩, hopen⟩

/-- A step of the main thread keeps the invariant, as long as the server is not shut down. -/
theorem ReleaseInv.mainMove {e : MainEvent} (h : ReleaseInv env c es s) (hs : ServerInv s)
    (hrun : run (threadsStep env) {} es = some s) (hopen : s'.isClosed = false)
    (hmove : MainMove s e s') : ReleaseInv env c (es ++ [.main e]) s' := by
  cases hmove with
  | insertPipe hpc =>
      rename_i d a
      by_cases hd : c = d
      · subst hd
        have hnew := (hs.locks.new c (by rw [hpc]; rfl)).2
        refine h.notStarted hrun trivial hnew (by rw [hnew]; rfl) fun hstarted => ?_
        exact absurd hnew hstarted
      · exact h.keep hrun trivial rfl id
          (congrArg PipeInstance.pipeHandle (Function.update_of_ne hd ..))
  | spawn hpc =>
      rename_i d a
      by_cases hd : c = d
      · subst hd
        obtain ⟨hne, heq⟩ := hs.handles.registered c a (by rw [hpc]; rfl)
        refine h.notStarted hrun trivial (hs.locks.new c (by rw [hpc]; rfl)).2 ?_ fun _ => ?_
        · simp only [Function.update_self, ThreadPc.isDone]
        · rwa [heq]
      · have hthread := Function.update_of_ne hd ({ pc := .entry, handle := a } : ClientThread)
          s.threads
        refine h.keep hrun trivial ?_ ?_ rfl
        · simp only [hthread]
        · simp only [hthread]
          exact id
  | storeIsClosed hpc => cases hopen
  | lockPipe hpc _ => exact h.keep hrun trivial rfl id (by simp)
  | unlockPipe hpc => exact h.keep hrun trivial rfl id (by simp)
  | close hpc =>
      have hflag := hs.pointers.flag
      rw [hpc] at hflag
      cases hflag.symm.trans hopen
  | _ => exact h.keep hrun trivial rfl id rfl

/-- The flag is never cleared. -/
theorem isClosed_of_step (hstep : threadsStep env s e = some s') (hopen : s'.isClosed = false) :
    s.isClosed = false := by
  cases e with
  | main e =>
      have hmove := mainMove_of_step hstep
      cases hmove with
      | storeIsClosed _ => cases hopen
      | _ => exact hopen
  | client c e =>
      have hmove := threadMove_of_step hstep
      cases hmove <;> exact hopen

/-- **Every step keeps the invariant, as long as the server is not shut down.** -/
theorem ReleaseInv.step (h : ReleaseInv env c es s) (hs : ServerInv s)
    (hrun : run (threadsStep env) {} es = some s) (hstep : threadsStep env s e = some s')
    (hopen : s'.isClosed = false) : ReleaseInv env c (es ++ [e]) s' := by
  cases e with
  | main e => exact h.mainMove hs hrun hopen (mainMove_of_step hstep)
  | client d e =>
      by_cases hd : c = d
      · subst hd
        exact h.ownMove hs hrun (isClosed_of_step hstep hopen) (threadMove_of_step hstep)
      · exact h.otherMove hs hrun hd (threadMove_of_step hstep)

/-- **In every run of a server that is not shut down the invariant holds.** -/
theorem releaseInv_run (c : ℕ) (hrun : run (threadsStep env) {} es = some s)
    (hopen : s.isClosed = false) : ReleaseInv env c es s := by
  have hstep : ∀ es e s s', run (threadsStep env) {} es = some s →
      (s.isClosed = false → ReleaseInv env c es s) → threadsStep env s e = some s' →
        s'.isClosed = false → ReleaseInv env c (es ++ [e]) s' :=
    fun _ _ _ _ hrun h hstep hopen =>
      (h (isClosed_of_step hstep hopen)).step (serverInv_run hrun) hrun hstep hopen
  refine invariant_history (fun _ => ?_) hstep hrun hopen
  exact ⟨nofun, fun _ => ⟨trivial, fun hs => absurd rfl hs⟩⟩

end Release

/-- **When the thread of a client returns while the server is not shut down, its handle has been
passed to `CloseHandle` once and its instance has been cleared exactly when no write of the thread
failed or was short, and no part of its `Close` failed.** -/
theorem handle_released_iff (env : AddressText) (es : List ServerEvent) (s : ServerThreads)
    (c : ℕ) (hrun : run (threadsStep env) {} es = some s) (hopen : s.isClosed = false)
    (hreturned : (s.threads c).pc = .returned) :
    (s.closedHandles.count (s.threads c).handle = 1 ∧
        (s.instances c).pipeHandle = nullHandle) ↔
      Along (threadsStep env) (Unfailing c) {} es := by
  have hclients := (serverInv_run hrun).handles.clients c (by rw [hreturned]; nofun)
  rw [← (releaseInv_run c hrun hopen).done (by rw [hreturned]; rfl)]
  constructor
  · exact And.right
  · intro hnull
    refine ⟨?_, hnull⟩
    rcases hclients.2 with heq | hclosed
    · exact absurd (heq.symm.trans hnull) hclients.1
    · exact hclosed.2

/-- A request is read, and its response cannot be written. -/
def failedWrite : List ServerEvent :=
  oneClientWaits ++ [.client 0 .lockPipe,
    .client 0 (.readFile true (createRequestIdData 0 ++ (createCustomClassRequest ++ ascii "#c"))),
    .client 0 .parse, .client 0 (.writeFile false 0), .client 0 .unlockPipe]

/-- The thread returns, and nobody has closed the handle. -/
theorem failedWrite_leaks :
    ¬ ∀ (env : AddressText) (es : List ServerEvent) (s : ServerThreads) (c : ℕ),
        run (threadsStep env) {} es = some s → s.isClosed = false →
          (s.threads c).pc = .returned →
            s.closedHandles.count (s.threads c).handle = 1 ∧
              (s.instances c).pipeHandle = nullHandle :=
  fun h => absurd (h default failedWrite _ 0 rfl rfl rfl).1 (by decide)

/-- A client is gone, and its pipe is closed. -/
def clientGone : List ServerEvent :=
  oneClientWaits ++ [.client 0 .lockPipe, .client 0 (.readFile false []),
    .client 0 (.close true true), .client 0 .unlockPipe]

/-- The handle is released, so nothing has failed on the way. -/
theorem clientGone_released :
    Along (threadsStep default) (Unfailing 0) {} clientGone :=
  (handle_released_iff default clientGone _ 0 rfl rfl rfl).1 ⟨by decide, rfl⟩

end NamedPipeDemo
