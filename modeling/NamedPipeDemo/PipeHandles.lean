/-
**The pipe handles of the server: who has them, and which are open.**

A handle that `CreateNamedPipe` has returned is held by the main thread, then it is put into an
instance and given to the thread of the client.  `PipeInstance::Close` is called by that thread,
when a read fails, and by the destructor.  Both hold the mutex of the instance, and a `Close` that
succeeds leaves a null pointer behind, so that no handle is closed twice.

Main definitions:

* `NamedPipeDemo.ServerThreads.closedHandles` — the handles passed to `CloseHandle`;
* `NamedPipeDemo.LockInv` — who holds the mutex of an instance;
* `NamedPipeDemo.HandleInv` — **the invariant of the handles**.

Main results:

* `NamedPipeDemo.ThreadMove.handles`, `NamedPipeDemo.ServerThreads.closePipe_handles` — only a
  `Close` that succeeds changes the handles;
* `NamedPipeDemo.serverInv_run` — **every state that a run reaches satisfies the invariants.**
-/

import NamedPipeDemo.ServerThreads

set_option relaxedAutoImplicit false
set_option autoImplicit false

namespace NamedPipeDemo

open LabelledRuns

/-! ### What the parts of a step change -/

/-- `Close` leaves the mutex alone. -/
theorem PipeInstance.close_mutex (p : PipeInstance) (flushed disconnected : Bool) :
    (p.close flushed disconnected).2.2.mutex = p.mutex := by
  unfold PipeInstance.close
  split_ifs <;> rfl

namespace ServerThreads

/-- The handles passed to `CloseHandle`, newest first. -/
def closedHandles (s : ServerThreads) : List Handle :=
  s.log.filterMap fun
    | .closeHandle h => some h
    | _ => none

section Fields

variable (s : ServerThreads) (c d : ℕ)

@[simp] theorem setPc_threads_self (pc : ThreadPc) :
    (s.setPc c pc).threads c = { s.threads c with pc := pc } := Function.update_self ..

@[simp] theorem setPc_threads_of_ne (pc : ThreadPc) {c d : ℕ} (h : d ≠ c) :
    (s.setPc c pc).threads d = s.threads d := Function.update_of_ne h ..

@[simp] theorem setPc_instances (pc : ThreadPc) : (s.setPc c pc).instances = s.instances := rfl

@[simp] theorem setMutex_self (holder : Option Agent) :
    (s.setMutex c holder).instances c = { s.instances c with mutex := holder } :=
  Function.update_self ..

@[simp] theorem setMutex_of_ne (holder : Option Agent) {c d : ℕ} (h : d ≠ c) :
    (s.setMutex c holder).instances d = s.instances d := Function.update_of_ne h ..

@[simp] theorem setMutex_pipeHandle (holder : Option Agent) :
    ((s.setMutex c holder).instances d).pipeHandle = (s.instances d).pipeHandle := by
  by_cases h : d = c
  · rw [h, setMutex_self]
  · rw [setMutex_of_ne s holder h]

variable {s c}

/-- The state after a `Close` that succeeds. -/
def closed (s : ServerThreads) (c : ℕ) : ServerThreads :=
  { s with
    instances := Function.update s.instances c
      { s.instances c with pipeHandle := nullHandle }
    log := .closeHandle (s.instances c).pipeHandle ::
      .disconnectNamedPipe (s.instances c).pipeHandle ::
      .flushFileBuffers (s.instances c).pipeHandle :: s.log }

/-- `Close` succeeds, or leaves the instance alone and closes nothing. -/
theorem closePipe_cases (flushed disconnected : Bool) :
    ((s.instances c).pipeHandle ≠ nullHandle ∧ flushed = true ∧ disconnected = true ∧
        s.closePipe c flushed disconnected = s.closed c) ∨
      (((s.instances c).pipeHandle = nullHandle ∨ flushed = false ∨ disconnected = false) ∧
        ∃ calls, s.closePipe c flushed disconnected = { s with log := calls ++ s.log } ∧
          ∀ w ∈ calls, (s.instances c).pipeHandle ≠ nullHandle ∧
            w.handle = (s.instances c).pipeHandle ∧ ∀ h, w ≠ .closeHandle h) := by
  unfold closePipe PipeInstance.close
  by_cases hnull : (s.instances c).pipeHandle = nullHandle
  · refine Or.inr ⟨Or.inl hnull, [], ?_, fun w hw => by cases hw⟩
    simp only [if_pos hnull, Function.update_eq_self]
  · rw [if_neg hnull]
    cases flushed with
    | false =>
        refine Or.inr ⟨Or.inr (Or.inl rfl), [.flushFileBuffers (s.instances c).pipeHandle], ?_, ?_⟩
        · simp only [if_pos, Function.update_eq_self]
        · intro w hw
          rw [List.mem_singleton.1 hw]
          exact ⟨hnull, rfl, nofun⟩
    | true =>
        cases disconnected with
        | false =>
            refine Or.inr ⟨Or.inr (Or.inr rfl),
              [.disconnectNamedPipe (s.instances c).pipeHandle,
                .flushFileBuffers (s.instances c).pipeHandle], ?_, ?_⟩
            · simp only [reduceCtorEq, if_false, if_pos, Function.update_eq_self]
            · intro w hw
              rcases List.mem_pair.1 hw with rfl | rfl <;> exact ⟨hnull, rfl, nofun⟩
        | true => exact Or.inl ⟨hnull, rfl, rfl, rfl⟩

end Fields

end ServerThreads

/-! ### The mutexes -/

/-- The thread holds the mutex of its instance. -/
def ThreadPc.isLocked : ThreadPc → Bool
  | reading => true
  | parsing _ => true
  | writing _ => true
  | closing => true
  | leaving _ => true
  | _ => false

namespace MainPc

/-- The instance whose mutex the main thread holds. -/
def locked : MainPc → Option ℕ
  | closingPipe c _ => some c
  | closedPipe c _ => some c
  | _ => none

/-- The client that has an id, and no thread yet. -/
def newClient : MainPc → Option ℕ
  | registering c _ => some c
  | inserting c _ => some c
  | inserted c _ => some c
  | spawning c _ => some c
  | _ => none

end MainPc

/-- Who holds the mutex of an instance, and which threads have been started. -/
structure LockInv (s : ServerThreads) : Prop where
  threads : ∀ c, (s.threads c).pc.isLocked = true → (s.instances c).mutex = some (.client c)
  main : ∀ c, s.main.locked = some c → (s.instances c).mutex = some .main
  unused : ∀ c, s.clientIdsCounter ≤ c → (s.threads c).pc = .notStarted
  new : ∀ c, s.main.newClient = some c →
    c < s.clientIdsCounter ∧ (s.threads c).pc = .notStarted

section Locks

variable {env : AddressText} {s s' : ServerThreads} {c : ℕ}

/-- A step of a thread that was started, with what it leaves of the thread and of its instance. -/
theorem LockInv.update (h : LockInv s) {t : ClientThread} {p : PipeInstance}
    (hstarted : (s.threads c).pc ≠ .notStarted) (hmain : s'.main = s.main)
    (hcounter : s'.clientIdsCounter = s.clientIdsCounter)
    (hthreads : s'.threads = Function.update s.threads c t)
    (hinstances : s'.instances = Function.update s.instances c p)
    (hthread : t.pc.isLocked = true → p.mutex = some (.client c))
    (hkeep : s.main.locked = some c → p.mutex = some .main) : LockInv s' where
  threads d hd := by
    rw [hthreads] at hd
    rw [hinstances]
    by_cases hdc : d = c
    · subst hdc
      rw [Function.update_self] at hd ⊢
      exact hthread hd
    · rw [Function.update_of_ne hdc] at hd ⊢
      exact h.threads d hd
  main d hd := by
    rw [hmain] at hd
    rw [hinstances]
    by_cases hdc : d = c
    · subst hdc
      rw [Function.update_self]
      exact hkeep hd
    · rw [Function.update_of_ne hdc]
      exact h.main d hd
  unused d hd := by
    rw [hcounter] at hd
    have hdc : d ≠ c := by
      rintro rfl
      exact hstarted (h.unused d hd)
    rw [hthreads, Function.update_of_ne hdc]
    exact h.unused d hd
  new d hd := by
    rw [hmain] at hd
    have hdc : d ≠ c := by
      rintro rfl
      exact hstarted (h.new d hd).2
    rw [hcounter, hthreads, Function.update_of_ne hdc]
    exact h.new d hd

/-- A step of a thread that leaves the instances alone. -/
theorem LockInv.updateThread (h : LockInv s) {t : ClientThread}
    (hstarted : (s.threads c).pc ≠ .notStarted) (hmain : s'.main = s.main)
    (hcounter : s'.clientIdsCounter = s.clientIdsCounter)
    (hthreads : s'.threads = Function.update s.threads c t)
    (hinstances : s'.instances = s.instances)
    (hlocked : t.pc.isLocked = true → (s.threads c).pc.isLocked = true) : LockInv s' :=
  h.update hstarted hmain hcounter hthreads (hinstances.trans (Function.update_eq_self c _).symm)
    (fun ht => h.threads c (hlocked ht)) (h.main c)

/-- The pointer of a thread in its loop leads to the instance of its client. -/
theorem PointerInv.pointer_eq (h : PointerInv s) {p : ℕ} {pc : ThreadPc}
    (hpc : (s.threads c).pc = pc) (hin : pc.inLoop = true) (hp : (s.threads c).pipe = some p) :
    p = c := by
  have hloop := (h.threads c).inLoop (by rw [hpc]; exact hin)
  rw [hp] at hloop
  exact Option.some_inj.1 hloop

/-- Every step of a client's thread keeps the locks in order. -/
theorem LockInv.threadMove {e : ThreadEvent} (h : LockInv s) (hp : PointerInv s)
    (hmove : ThreadMove env s c e s') : LockInv s' := by
  have hstarted := hmove.started
  cases hmove with
  | enter hpc _ => exact h.updateThread hstarted rfl rfl rfl rfl nofun
  | refuse hpc _ => exact h.updateThread hstarted rfl rfl rfl rfl nofun
  | lockPipes hpc _ => exact h.updateThread hstarted rfl rfl rfl rfl nofun
  | found hpc _ => exact h.updateThread hstarted rfl rfl rfl rfl nofun
  | missing hpc _ => exact h.updateThread hstarted rfl rfl rfl rfl nofun
  | unlockPipes hpc => exact h.updateThread hstarted rfl rfl rfl rfl nofun
  | stop hpc _ => exact h.updateThread hstarted rfl rfl rfl rfl nofun
  | goOn hpc _ => exact h.updateThread hstarted rfl rfl rfl rfl nofun
  | lockNull hpc _ => exact h.updateThread hstarted rfl rfl rfl rfl nofun
  | closeNull hpc _ => exact h.updateThread hstarted rfl rfl rfl rfl nofun
  | lockPipe hpc hpipe hfree =>
      cases hp.pointer_eq hpc rfl hpipe
      refine h.update hstarted rfl rfl rfl rfl (fun _ => rfl) fun hm => ?_
      rw [h.main c hm] at hfree
      cases hfree
  | readFailed hpc _ =>
      exact h.updateThread hstarted rfl rfl rfl rfl fun _ => by rw [hpc]; rfl
  | read hpc _ =>
      exact h.updateThread hstarted rfl rfl rfl rfl fun _ => by rw [hpc]; rfl
  | answer hpc _ =>
      exact h.updateThread hstarted rfl rfl rfl rfl fun _ => by rw [hpc]; rfl
  | noAnswer hpc _ =>
      exact h.updateThread hstarted rfl rfl rfl rfl fun _ => by rw [hpc]; rfl
  | writeFile hpc =>
      exact h.updateThread hstarted rfl rfl rfl rfl fun _ => by rw [hpc]; rfl
  | close hpc hpipe =>
      cases hp.pointer_eq hpc rfl hpipe
      refine h.update hstarted rfl rfl rfl rfl (fun _ => ?_) fun hm => ?_
      · rw [PipeInstance.close_mutex, h.threads c (by rw [hpc]; rfl)]
      · rw [PipeInstance.close_mutex, h.main c hm]
  | unlockPipe hpc hpipe =>
      cases hp.pointer_eq hpc rfl hpipe
      have hmutex := h.threads c (by rw [hpc]; rfl)
      refine h.update hstarted rfl rfl rfl rfl (fun ht => ?_) fun hm => ?_
      · split at ht <;> cases ht
      · rw [h.main c hm] at hmutex
        cases hmutex

/-- The main thread moves on, and leaves the threads and the instances alone. -/
theorem LockInv.moveMain (h : LockInv s) (hthreads : s'.threads = s.threads)
    (hinstances : s'.instances = s.instances)
    (hcounter : s'.clientIdsCounter = s.clientIdsCounter)
    (hlocked : ∀ c, s'.main.locked = some c → s.main.locked = some c)
    (hnew : ∀ c, s'.main.newClient = some c → s.main.newClient = some c) : LockInv s' where
  threads := by
    rw [hthreads, hinstances]
    exact h.threads
  main c hc := by
    rw [hinstances]
    exact h.main c (hlocked c hc)
  unused := by
    rw [hcounter, hthreads]
    exact h.unused
  new c hc := by
    rw [hcounter, hthreads]
    exact h.new c (hnew c hc)

/-- The main thread moves on, changing the instance of a client: its thread does not hold the
mutex. -/
theorem LockInv.moveMainAt (h : LockInv s) {p : PipeInstance} (hthreads : s'.threads = s.threads)
    (hinstances : s'.instances = Function.update s.instances c p)
    (hcounter : s'.clientIdsCounter = s.clientIdsCounter)
    (hfree : (s.threads c).pc.isLocked = false)
    (hlocked : ∀ d, s'.main.locked = some d → d = c ∧ p.mutex = some .main)
    (hnew : ∀ d, s'.main.newClient = some d → s.main.newClient = some d) : LockInv s' where
  threads d hd := by
    rw [hthreads] at hd
    rw [hinstances]
    have hdc : d ≠ c := by
      rintro rfl
      rw [hfree] at hd
      cases hd
    rw [Function.update_of_ne hdc]
    exact h.threads d hd
  main d hd := by
    obtain ⟨rfl, hmutex⟩ := hlocked d hd
    rwa [hinstances, Function.update_self]
  unused := by
    rw [hcounter, hthreads]
    exact h.unused
  new d hd := by
    rw [hcounter, hthreads]
    exact h.new d (hnew d hd)

/-- A thread does not hold a mutex that is free or held by the main thread. -/
theorem LockInv.not_isLocked (h : LockInv s)
    (hmutex : (s.instances c).mutex ≠ some (.client c)) : (s.threads c).pc.isLocked = false := by
  by_contra hlocked
  exact hmutex (h.threads c (Bool.not_eq_false _ ▸ hlocked))

/-- The main thread starts the thread of a new client. -/
theorem LockInv.spawn (h : LockInv s) {a : Handle} (hpc : s.main = .spawning c a) :
    LockInv { s with
      threads := Function.update s.threads c { pc := .entry, handle := a }
      main := .starting } where
  threads d hd := by
    refine h.threads d ?_
    by_cases hdc : d = c
    · subst hdc
      simp only [Function.update_self] at hd
      cases hd
    · simpa only [Function.update_of_ne hdc] using hd
  main := nofun
  unused d hd := by
    have hdc : d ≠ c := Nat.ne_of_gt (lt_of_lt_of_le (h.new c (by rw [hpc]; rfl)).1 hd)
    simp only [Function.update_of_ne hdc]
    exact h.unused d hd
  new := nofun

/-- Every step of the main thread keeps the locks in order. -/
theorem LockInv.mainMove {e : MainEvent} (h : LockInv s) (hmove : MainMove s e s') :
    LockInv s' := by
  have hmain := h.main
  have hnew := h.new
  cases hmove with
  | start hpc => exact h.moveMain rfl rfl rfl nofun nofun
  | createNamedPipe hpc => exact h.moveMain rfl rfl rfl nofun nofun
  | createFailed hpc => exact h.moveMain rfl rfl rfl nofun nofun
  | connect hpc =>
      refine ⟨h.threads, nofun, fun c hc => h.unused c (Nat.le_of_succ_le hc), fun c hc => ?_⟩
      cases hc
      exact ⟨Nat.lt_succ_self _, h.unused _ le_rfl⟩
  | connectFailed hpc => exact h.moveMain rfl rfl rfl nofun nofun
  | lockToInsert hpc _ => exact h.moveMain rfl rfl rfl nofun fun c hc => by rw [hpc]; exact hc
  | insertPipe hpc =>
      refine h.moveMainAt rfl rfl rfl ?_ nofun fun d hd => by rw [hpc]; exact hd
      rw [(hnew _ (by rw [hpc]; rfl)).2]
      rfl
  | unlockInserted hpc => exact h.moveMain rfl rfl rfl nofun fun c hc => by rw [hpc]; exact hc
  | spawn hpc => exact h.spawn hpc
  | storeIsClosed hpc => exact h.moveMain rfl rfl rfl nofun nofun
  | lockToMove hpc _ => exact h.moveMain rfl rfl rfl nofun nofun
  | movePipes hpc => exact h.moveMain rfl rfl rfl nofun nofun
  | unlockMoved hpc => exact h.moveMain rfl rfl rfl nofun nofun
  | nextPipe hpc hp => exact h.moveMain rfl rfl rfl nofun nofun
  | lockNull hpc => exact h.moveMain rfl rfl rfl nofun nofun
  | lockPipe hpc hfree =>
      refine h.moveMainAt rfl rfl rfl (h.not_isLocked ?_) (fun d hd => ?_) nofun
      · rw [hfree]
        nofun
      · cases hd
        exact ⟨rfl, rfl⟩
  | close hpc =>
      have hheld := hmain _ (by rw [hpc]; rfl)
      refine h.moveMainAt rfl rfl rfl (h.not_isLocked ?_) (fun d hd => ?_) nofun
      · rw [hheld]
        nofun
      · cases hd
        exact ⟨rfl, by rw [PipeInstance.close_mutex, hheld]⟩
  | unlockPipe hpc =>
      have hheld := hmain _ (by rw [hpc]; rfl)
      refine h.moveMainAt rfl rfl rfl (h.not_isLocked ?_) nofun nofun
      rw [hheld]
      nofun
  | endPipes hpc _ => exact h.moveMain rfl rfl rfl nofun nofun
  | join hpc _ => exact h.moveMain rfl rfl rfl nofun nofun
  | joined hpc _ => exact h.moveMain rfl rfl rfl nofun nofun

/-- Every step keeps the locks in order. -/
theorem LockInv.threadsStep {e : ServerEvent} (h : LockInv s) (hp : PointerInv s)
    (hstep : threadsStep env s e = some s') : LockInv s' := by
  cases e with
  | main e => exact h.mainMove (mainMove_of_step hstep)
  | client c e => exact h.threadMove hp (threadMove_of_step hstep)

/-- Before anything has happened nobody holds a mutex. -/
theorem lockInv_init : LockInv {} where
  threads := nofun
  main := nofun
  unused _ _ := rfl
  new := nofun

end Locks

/-! ### The handles -/

namespace MainPc

/-- The handle of a pipe that no instance has yet. -/
def held : MainPc → Option Handle
  | connecting h => some h
  | registering _ h => some h
  | inserting _ h => some h
  | _ => none

/-- The client whose instance is in the map, and whose thread has not been started. -/
def registered : MainPc → Option (ℕ × Handle)
  | inserted c h => some (c, h)
  | spawning c h => some (c, h)
  | _ => none

end MainPc

/-- **The invariant of the handles.**  What is in an instance is open, and in no other instance;
the copy of a thread is what is in its instance, until `Close` has cleared that and closed the
handle, once. -/
structure HandleInv (s : ServerThreads) : Prop where
  positive : nullHandle < s.nextHandle
  fresh : ∀ h ∈ s.closedHandles, h < s.nextHandle
  opened : ∀ c, (s.instances c).pipeHandle ≠ nullHandle →
    (s.instances c).pipeHandle < s.nextHandle ∧ (s.instances c).pipeHandle ∉ s.closedHandles
  distinct : ∀ c d, (s.instances c).pipeHandle ≠ nullHandle →
    (s.instances d).pipeHandle = (s.instances c).pipeHandle → d = c
  clients : ∀ c, (s.threads c).pc ≠ .notStarted → (s.threads c).handle ≠ nullHandle ∧
    ((s.instances c).pipeHandle = (s.threads c).handle ∨
      (s.instances c).pipeHandle = nullHandle ∧
        s.closedHandles.count (s.threads c).handle = 1)
  held : ∀ h, s.main.held = some h → h ≠ nullHandle ∧ h < s.nextHandle ∧ h ∉ s.closedHandles ∧
    ∀ c, (s.instances c).pipeHandle ≠ h
  registered : ∀ c h, s.main.registered = some (c, h) →
    h ≠ nullHandle ∧ (s.instances c).pipeHandle = h

/-- A step that neither opens nor closes a pipe, and starts no thread. -/
structure SameHandles (s s' : ServerThreads) : Prop where
  pipeHandle : ∀ c, (s'.instances c).pipeHandle = (s.instances c).pipeHandle
  handle : ∀ c, (s'.threads c).handle = (s.threads c).handle
  started : ∀ c, (s'.threads c).pc ≠ .notStarted → (s.threads c).pc ≠ .notStarted
  closedHandles : s'.closedHandles = s.closedHandles
  nextHandle : s'.nextHandle = s.nextHandle

section Handles

variable {env : AddressText} {s s' : ServerThreads} {c : ℕ}

theorem HandleInv.of_same (h : HandleInv s) (hsame : SameHandles s s')
    (hheld : ∀ a, s'.main.held = some a → s.main.held = some a)
    (hregistered : ∀ d, s'.main.registered = some d → s.main.registered = some d) :
    HandleInv s' where
  positive := by
    rw [hsame.nextHandle]
    exact h.positive
  fresh := by
    rw [hsame.nextHandle, hsame.closedHandles]
    exact h.fresh
  opened d hd := by
    rw [hsame.pipeHandle] at hd ⊢
    rw [hsame.nextHandle, hsame.closedHandles]
    exact h.opened d hd
  distinct d e := by
    rw [hsame.pipeHandle, hsame.pipeHandle]
    exact h.distinct d e
  clients d hd := by
    rw [hsame.pipeHandle, hsame.handle, hsame.closedHandles]
    exact h.clients d (hsame.started d hd)
  held a ha := by
    simp only [hsame.pipeHandle, hsame.nextHandle, hsame.closedHandles]
    exact h.held a (hheld a ha)
  registered d a hd := by
    rw [hsame.pipeHandle]
    exact h.registered d a (hregistered _ hd)

/-- A `Close` that succeeds closes the handle of a thread that had it open. -/
theorem HandleInv.closed (h : HandleInv s) (hopen : (s.instances c).pipeHandle ≠ nullHandle)
    (hne : ∀ a, s.main.registered ≠ some (c, a)) : HandleInv (s.closed c) := by
  have hclosed : (s.closed c).closedHandles =
      (s.instances c).pipeHandle :: s.closedHandles := rfl
  have hself : (s.closed c).instances c = { s.instances c with pipeHandle := nullHandle } :=
    Function.update_self ..
  have hother {d : ℕ} (hd : d ≠ c) : (s.closed c).instances d = s.instances d :=
    Function.update_of_ne hd ..
  obtain ⟨hlt, hnotMem⟩ := h.opened c hopen
  refine ⟨h.positive, ?_, ?_, ?_, ?_, ?_, ?_⟩
  · intro a ha
    rcases List.mem_cons.1 (hclosed ▸ ha) with rfl | ha
    · exact hlt
    · exact h.fresh a ha
  · intro d hd
    by_cases hdc : d = c
    · rw [hdc, hself] at hd
      exact absurd rfl hd
    · rw [hother hdc] at hd ⊢
      refine ⟨(h.opened d hd).1, fun hmem => ?_⟩
      rcases List.mem_cons.1 (hclosed ▸ hmem) with heq | hmem
      · exact hdc (h.distinct c d hopen heq)
      · exact (h.opened d hd).2 hmem
  · intro d e hd heq
    by_cases hdc : d = c
    · rw [hdc, hself] at hd
      exact absurd rfl hd
    · by_cases hec : e = c
      · rw [hec, hself] at heq
        exact absurd heq.symm hd
      · rw [hother hdc] at hd heq
        rw [hother hec] at heq
        exact h.distinct d e hd heq
  · intro d hd
    obtain ⟨hnull, hstate⟩ := h.clients d hd
    refine ⟨hnull, ?_⟩
    by_cases hdc : d = c
    · subst hdc
      refine Or.inr ⟨by rw [hself], ?_⟩
      have heq := hstate.resolve_right fun hclosed' => hopen hclosed'.1
      rw [hclosed, heq]
      rw [heq] at hnotMem
      exact (List.count_cons_self ..).trans (congrArg (· + 1) (List.count_eq_zero.2 hnotMem))
    · rw [hother hdc]
      refine hstate.imp id fun hclosed' => ⟨hclosed'.1, ?_⟩
      -- the handle of the other thread is closed already, so it is not the one closed here
      rw [hclosed]
      refine (List.count_cons_of_ne fun heq => hnotMem ?_).trans hclosed'.2
      exact heq ▸ List.count_pos_iff.1 (Nat.lt_of_lt_of_eq Nat.one_pos hclosed'.2.symm)
  · intro a ha
    obtain ⟨hnull, hnext, hmem, hfree⟩ := h.held a ha
    refine ⟨hnull, hnext, fun hmem' => ?_, fun d hd => ?_⟩
    · rcases List.mem_cons.1 (hclosed ▸ hmem') with rfl | hmem'
      · exact hfree c rfl
      · exact hmem hmem'
    · by_cases hdc : d = c
      · rw [hdc, hself] at hd
        exact hnull hd.symm
      · rw [hother hdc] at hd
        exact hfree d hd
  · intro d a hd
    have hdc : d ≠ c := by
      rintro rfl
      exact hne a hd
    rw [hother hdc]
    exact h.registered d a hd

/-- A thread that was started moves on. -/
theorem SameHandles.update {t : ClientThread} (hstarted : (s.threads c).pc ≠ .notStarted)
    (hthreads : s'.threads = Function.update s.threads c t)
    (hhandle : t.handle = (s.threads c).handle)
    (hpipe : ∀ d, (s'.instances d).pipeHandle = (s.instances d).pipeHandle)
    (hclosed : s'.closedHandles = s.closedHandles) (hnext : s'.nextHandle = s.nextHandle) :
    SameHandles s s' where
  pipeHandle := hpipe
  handle d := by
    rw [hthreads]
    by_cases hdc : d = c
    · rw [hdc, Function.update_self, hhandle]
    · rw [Function.update_of_ne hdc]
  started d hd := by
    rw [hthreads] at hd
    by_cases hdc : d = c
    · rwa [hdc]
    · rwa [Function.update_of_ne hdc] at hd
  closedHandles := hclosed
  nextHandle := hnext

/-- A `Close` that fails opens and closes nothing. -/
theorem ServerThreads.closedHandles_append {calls : List Win32Call}
    (hcalls : ∀ w ∈ calls, ∀ h, w ≠ .closeHandle h) :
    ({ s with log := calls ++ s.log } : ServerThreads).closedHandles = s.closedHandles := by
  unfold closedHandles
  rw [List.filterMap_append, List.filterMap_eq_nil_iff.2, List.nil_append]
  intro w hw
  cases w with
  | closeHandle h => exact absurd rfl (hcalls _ hw h)
  | _ => rfl

/-- What a step of a client's thread does to the handles: nothing, unless it is a `Close` that
succeeds. -/
theorem ThreadMove.handles {e : ThreadEvent} (hp : PointerInv s) (hmove : ThreadMove env s c e s') :
    SameHandles s s' ∨
      e = .close true true ∧ (s.threads c).pc = .closing ∧
        (s.instances c).pipeHandle ≠ nullHandle ∧
        s' = (s.closed c).setPc c (.leaving false) := by
  have hstarted := hmove.started
  cases hmove with
  | close hpc hpipe =>
      cases hp.pointer_eq hpc rfl hpipe
      rename_i flushed disconnected
      rcases ServerThreads.closePipe_cases flushed disconnected (s := s) (c := c) with
        ⟨hopen, rfl, rfl, heq⟩ | ⟨_, calls, heq, hcalls⟩
      · exact Or.inr ⟨rfl, hpc, hopen, by rw [heq]⟩
      · rw [heq]
        exact Or.inl (.update hstarted rfl rfl (fun _ => rfl)
          (ServerThreads.closedHandles_append fun w hw => (hcalls w hw).2.2) rfl)
  | lockPipe hpc hpipe _ =>
      exact Or.inl (.update hstarted rfl rfl (fun _ => by simp) rfl rfl)
  | unlockPipe hpc hpipe =>
      exact Or.inl (.update hstarted rfl rfl (fun _ => by simp) rfl rfl)
  | _ => exact Or.inl (.update hstarted rfl rfl (fun _ => rfl) rfl rfl)

/-- A client's thread leaves the main thread where it is. -/
theorem ThreadMove.main_eq {e : ThreadEvent} (hmove : ThreadMove env s c e s') :
    s'.main = s.main := by
  cases hmove <;> rfl

/-- The thread of a client whose instance has just been inserted has not been started. -/
theorem LockInv.notStarted_of_registered (h : LockInv s) {a : Handle}
    (hm : s.main.registered = some (c, a)) : (s.threads c).pc = .notStarted := by
  refine (h.new c ?_).2
  cases hpc : s.main <;> rw [hpc] at hm <;> cases hm <;> rfl

/-- Every step of a client's thread keeps the invariant. -/
theorem HandleInv.threadMove {e : ThreadEvent} (h : HandleInv s) (hp : PointerInv s)
    (hl : LockInv s) (hmove : ThreadMove env s c e s') : HandleInv s' := by
  rcases hmove.handles hp with hsame | ⟨_, hpc, hopen, rfl⟩
  · refine h.of_same hsame (fun a ha => ?_) (fun d hd => ?_)
    · rwa [hmove.main_eq] at ha
    · rwa [hmove.main_eq] at hd
  · have hclosed := h.closed hopen fun a ha => by
      rw [hl.notStarted_of_registered ha] at hpc
      cases hpc
    exact hclosed.of_same
      (.update (by rw [ServerThreads.closed, hpc]; nofun) rfl rfl (fun _ => rfl) rfl rfl)
      (fun _ => id) fun _ => id

/-- The main thread creates a pipe. -/
theorem HandleInv.createNamedPipe (h : HandleInv s) :
    HandleInv { s with nextHandle := s.nextHandle + 1, main := .connecting s.nextHandle } where
  positive := Nat.lt_succ_of_lt h.positive
  fresh a ha := Nat.lt_succ_of_lt (h.fresh a ha)
  opened c hc := ⟨Nat.lt_succ_of_lt (h.opened c hc).1, (h.opened c hc).2⟩
  distinct := h.distinct
  clients := h.clients
  held a ha := by
    cases ha
    refine ⟨Nat.ne_of_gt h.positive, Nat.lt_succ_self _, fun hmem => ?_, fun c hc => ?_⟩
    · exact Nat.lt_irrefl _ (h.fresh _ hmem)
    · have hopen : (s.instances c).pipeHandle ≠ nullHandle := by
        rw [hc]
        exact Nat.ne_of_gt h.positive
      exact Nat.ne_of_lt (h.opened c hopen).1 hc
  registered := nofun

/-- The main thread closes a pipe that nobody has connected to. -/
theorem HandleInv.connectFailed (h : HandleInv s) {a : Handle} (hpc : s.main = .connecting a) :
    HandleInv { s.call (.closeHandle a) with main := .starting } := by
  obtain ⟨_, hnext, hopen, hfree⟩ := h.held a (by rw [hpc]; rfl)
  refine ⟨h.positive, fun b hb => ?_, fun c hc => ?_, h.distinct, fun c hc => ?_, nofun, nofun⟩
  · rcases List.mem_cons.1 hb with rfl | hb
    · exact hnext
    · exact h.fresh b hb
  · refine ⟨(h.opened c hc).1, fun hmem => ?_⟩
    rcases List.mem_cons.1 hmem with heq | hmem
    · exact hfree c heq
    · exact (h.opened c hc).2 hmem
  · refine ⟨(h.clients c hc).1, (h.clients c hc).2.imp id fun hclosed => ⟨hclosed.1, ?_⟩⟩
    refine (List.count_cons_of_ne fun heq => hopen ?_).trans hclosed.2
    exact heq ▸ List.count_pos_iff.1 (Nat.lt_of_lt_of_eq Nat.one_pos hclosed.2.symm)

/-- The main thread makes an instance of a pipe that is open. -/
theorem HandleInv.insertPipe (h : HandleInv s) (hl : LockInv s) {a : Handle}
    (hpc : s.main = .inserting c a) :
    HandleInv { s with
      instances := Function.update s.instances c { pipeHandle := a }
      pipes := s.pipes.insert c (some c)
      main := .inserted c a } := by
  obtain ⟨hnull, hnext, hopen, hfree⟩ := h.held a (by rw [hpc]; rfl)
  have hnew := (hl.new c (by rw [hpc]; rfl)).2
  have hself : (Function.update s.instances c { pipeHandle := a }) c = { pipeHandle := a } :=
    Function.update_self ..
  have hother {d : ℕ} (hd : d ≠ c) :
      (Function.update s.instances c { pipeHandle := a }) d = s.instances d :=
    Function.update_of_ne hd ..
  refine ⟨h.positive, h.fresh, fun d hd => ?_, fun d e hd heq => ?_, fun d hd => ?_, nofun,
    fun d b hd => ?_⟩
  · by_cases hdc : d = c
    · subst hdc
      simp only [hself]
      exact ⟨hnext, hopen⟩
    · simp only [hother hdc] at hd ⊢
      exact h.opened d hd
  · by_cases hdc : d = c
    · subst hdc
      by_contra hed
      simp only [hself, hother hed] at heq
      exact hfree e heq
    · by_cases hec : e = c
      · subst hec
        simp only [hself, hother hdc] at heq
        exact absurd heq.symm (hfree d)
      · simp only [hother hdc, hother hec] at hd heq
        exact h.distinct d e hd heq
  · have hdc : d ≠ c := by
      rintro rfl
      exact hd hnew
    simp only [hother hdc]
    exact h.clients d hd
  · cases hd
    simp only [hself]
    exact ⟨hnull, trivial⟩

/-- The main thread starts the thread of a client. -/
theorem HandleInv.spawn (h : HandleInv s) {a : Handle} (hpc : s.main = .spawning c a) :
    HandleInv { s with
      threads := Function.update s.threads c { pc := .entry, handle := a }
      main := .starting } where
  positive := h.positive
  fresh := h.fresh
  opened := h.opened
  distinct := h.distinct
  clients d hd := by
    by_cases hdc : d = c
    · subst hdc
      simp only [Function.update_self]
      obtain ⟨hnull, heq⟩ := h.registered d a (by rw [hpc]; rfl)
      exact ⟨hnull, Or.inl heq⟩
    · simp only [Function.update_of_ne hdc] at hd ⊢
      exact h.clients d hd
  held := nofun
  registered := nofun

/-- The main thread moves on. -/
theorem SameHandles.of_threads (hthreads : s'.threads = s.threads)
    (hpipe : ∀ d, (s'.instances d).pipeHandle = (s.instances d).pipeHandle)
    (hclosed : s'.closedHandles = s.closedHandles) (hnext : s'.nextHandle = s.nextHandle) :
    SameHandles s s' where
  pipeHandle := hpipe
  handle d := by rw [hthreads]
  started d hd := by rwa [hthreads] at hd
  closedHandles := hclosed
  nextHandle := hnext

/-- What a `Close` of the destructor does to the handles: nothing, unless it succeeds. -/
theorem ServerThreads.closePipe_handles (flushed disconnected : Bool) (pc : MainPc) :
    SameHandles s { s.closePipe c flushed disconnected with main := pc } ∨
      (s.instances c).pipeHandle ≠ nullHandle ∧ flushed = true ∧ disconnected = true ∧
        s.closePipe c flushed disconnected = s.closed c := by
  rcases ServerThreads.closePipe_cases flushed disconnected (s := s) (c := c) with
    hclosed | ⟨_, calls, heq, hcalls⟩
  · exact Or.inr hclosed
  · rw [heq]
    exact Or.inl (.of_threads rfl (fun _ => rfl)
      (ServerThreads.closedHandles_append fun w hw => (hcalls w hw).2.2) rfl)

/-- Every step of the main thread keeps the invariant. -/
theorem HandleInv.mainMove {e : MainEvent} (h : HandleInv s) (hl : LockInv s)
    (hmove : MainMove s e s') : HandleInv s' := by
  have same {s'' : ServerThreads} (hthreads : s''.threads = s.threads)
      (hpipe : ∀ d, (s''.instances d).pipeHandle = (s.instances d).pipeHandle)
      (hclosed : s''.closedHandles = s.closedHandles) (hnext : s''.nextHandle = s.nextHandle) :=
    h.of_same (.of_threads hthreads hpipe hclosed hnext)
  cases hmove with
  | start hpc => exact same rfl (fun _ => rfl) rfl rfl nofun nofun
  | createNamedPipe hpc => exact h.createNamedPipe
  | createFailed hpc => exact same rfl (fun _ => rfl) rfl rfl nofun nofun
  | connect hpc => exact same rfl (fun _ => rfl) rfl rfl (fun _ ha => by rw [hpc]; exact ha) nofun
  | connectFailed hpc => exact h.connectFailed hpc
  | lockToInsert hpc _ =>
      exact same rfl (fun _ => rfl) rfl rfl (fun _ ha => by rw [hpc]; exact ha) nofun
  | insertPipe hpc => exact h.insertPipe hl hpc
  | unlockInserted hpc =>
      exact same rfl (fun _ => rfl) rfl rfl nofun fun _ hd => by rw [hpc]; exact hd
  | spawn hpc => exact h.spawn hpc
  | close hpc =>
      rename_i d rest flushed disconnected
      rcases ServerThreads.closePipe_handles flushed disconnected (.closedPipe d rest) with
        hsame | ⟨hopen, -, -, heq⟩
      · exact h.of_same hsame nofun nofun
      · have hclosed := h.closed hopen fun a ha => by
          rw [hpc] at ha
          cases ha
        rw [heq]
        exact hclosed.of_same (.of_threads rfl (fun _ => rfl) rfl rfl) nofun nofun
  | lockPipe hpc _ => exact same rfl (fun _ => by simp) rfl rfl nofun nofun
  | unlockPipe hpc => exact same rfl (fun _ => by simp) rfl rfl nofun nofun
  | _ => exact same rfl (fun _ => rfl) rfl rfl nofun nofun

/-- Every step keeps the invariant. -/
theorem HandleInv.threadsStep {e : ServerEvent} (h : HandleInv s) (hp : PointerInv s)
    (hl : LockInv s) (hstep : threadsStep env s e = some s') : HandleInv s' := by
  cases e with
  | main e => exact h.mainMove hl (mainMove_of_step hstep)
  | client c e => exact h.threadMove hp hl (threadMove_of_step hstep)

theorem handleInv_init : HandleInv {} where
  positive := Nat.one_pos
  fresh := nofun
  opened _ hc := absurd rfl hc
  distinct _ _ hc := absurd rfl hc
  clients _ hc := absurd rfl hc
  held := nofun
  registered := nofun

/-- The three invariants of the server. -/
structure ServerInv (s : ServerThreads) : Prop where
  pointers : PointerInv s
  locks : LockInv s
  handles : HandleInv s

theorem ServerInv.threadsStep {e : ServerEvent} (h : ServerInv s)
    (hstep : threadsStep env s e = some s') : ServerInv s' where
  pointers := h.pointers.threadsStep hstep
  locks := h.locks.threadsStep h.pointers hstep
  handles := h.handles.threadsStep h.pointers h.locks hstep

theorem serverInv_init : ServerInv {} := ⟨pointerInv_init, lockInv_init, handleInv_init⟩

/-- **Every state that a run reaches satisfies the three invariants.** -/
theorem serverInv_run {es : List ServerEvent}
    (h : run (NamedPipeDemo.threadsStep env) {} es = some s) : ServerInv s :=
  invariant_run (fun _ _ _ hs hstep => hs.threadsStep hstep) serverInv_init h

end Handles

end NamedPipeDemo
