/-
**The shutdown of the server ends.**

The destructor takes every mutex there is, and then it waits for every thread.  The threads take the
same mutexes, and one of them is held while `ReadFile` waits for a client.  That it ends all the
same has two halves.  Nobody waits for ever: a mutex is held by a thread that is at a step it can
take, and the destructor joins threads that are on their way out.  And nothing goes on for ever:
once the flag is stored every thread leaves its loop the next time it tests it, so every step brings
it closer to its end.

The system calls are assumed to return.  `ReadFile` on the pipe of a client that is connected and
silent does not, and then the destructor waits with it.

Main definitions:

* `NamedPipeDemo.HolderInv` — **who holds a mutex is where it can go on**;
* `NamedPipeDemo.JoinInv` — every client has a thread, and the threads joined have returned;
* `NamedPipeDemo.ServerThreads.remaining` — a bound on the steps that are left;
* `NamedPipeDemo.ServerThreads.Destroyed`, `NamedPipeDemo.ServerThreads.Stopped` — the ways to end.

Main results:

* `NamedPipeDemo.ShutdownInv.lowers` — every step lowers the bound;
* `NamedPipeDemo.ShutdownInv.progress` — **no deadlock**: until the end some thread can take a step;
* `NamedPipeDemo.shutdown_completes` — **every schedule leads to the end of the destructor.**
-/

import NamedPipeDemo.PipeHandles
import Mathlib.Algebra.Order.BigOperators.Group.Finset

set_option relaxedAutoImplicit false
set_option autoImplicit false

namespace NamedPipeDemo

open LabelledRuns

/-! ### Who holds a mutex -/

/-- The thread holds the mutex of the map. -/
def ThreadPc.holdsPipes : ThreadPc → Bool
  | lookupHeld => true
  | lookupDone => true
  | _ => false

/-- The main thread holds the mutex of the map. -/
def MainPc.holdsPipes : MainPc → Bool
  | inserting _ _ => true
  | inserted _ _ => true
  | moving => true
  | moved _ => true
  | _ => false

/-- **A mutex is held by a thread that is where the source holds it.** -/
structure HolderInv (s : ServerThreads) : Prop where
  client : ∀ c d, (s.instances c).mutex = some (.client d) →
    d = c ∧ (s.threads c).pc.isLocked = true
  main : ∀ c, (s.instances c).mutex = some .main → s.main.locked = some c
  pipesClient : ∀ c, s.pipesMutex = some (.client c) → (s.threads c).pc.holdsPipes = true
  pipesMain : s.pipesMutex = some .main → s.main.holdsPipes = true

section Holders

variable {env : AddressText} {s s' : ServerThreads} {c : ℕ}

/-- A step of a thread, with what it leaves of its instance and of the mutex of the map. -/
theorem HolderInv.update (h : HolderInv s) {t : ClientThread} {p : PipeInstance}
    (hmain : s'.main = s.main) (hthreads : s'.threads = Function.update s.threads c t)
    (hinstances : s'.instances = Function.update s.instances c p)
    (hclient : ∀ d, p.mutex = some (.client d) → d = c ∧ t.pc.isLocked = true)
    (hkeep : p.mutex = some .main → s.main.locked = some c)
    (hpipes : ∀ d, s'.pipesMutex = some (.client d) →
      if d = c then t.pc.holdsPipes = true else s.pipesMutex = some (.client d))
    (hpipesMain : s'.pipesMutex = some .main → s.pipesMutex = some .main) : HolderInv s' where
  client d e hd := by
    rw [hinstances] at hd
    rw [hthreads]
    by_cases hdc : d = c
    · subst hdc
      rw [Function.update_self] at hd ⊢
      exact hclient e hd
    · rw [Function.update_of_ne hdc] at hd ⊢
      exact h.client d e hd
  main d hd := by
    rw [hinstances] at hd
    rw [hmain]
    by_cases hdc : d = c
    · subst hdc
      rw [Function.update_self] at hd
      exact hkeep hd
    · rw [Function.update_of_ne hdc] at hd
      exact h.main d hd
  pipesClient d hd := by
    have hcase := hpipes d hd
    rw [hthreads]
    by_cases hdc : d = c
    · rw [if_pos hdc] at hcase
      rwa [hdc, Function.update_self]
    · rw [if_neg hdc] at hcase
      rw [Function.update_of_ne hdc]
      exact h.pipesClient d hcase
  pipesMain hm := by
    rw [hmain]
    exact h.pipesMain (hpipesMain hm)

/-- A step of a thread that neither takes nor releases a mutex. -/
theorem HolderInv.stay (h : HolderInv s) {t : ClientThread} (hmain : s'.main = s.main)
    (hthreads : s'.threads = Function.update s.threads c t)
    (hmutex : ∀ d, (s'.instances d).mutex = (s.instances d).mutex)
    (hpipes : s'.pipesMutex = s.pipesMutex)
    (hlocked : (s.threads c).pc.isLocked = true → t.pc.isLocked = true)
    (hholds : (s.threads c).pc.holdsPipes = true → t.pc.holdsPipes = true) : HolderInv s' where
  client d e hd := by
    rw [hmutex] at hd
    obtain ⟨rfl, hold⟩ := h.client d e hd
    refine ⟨rfl, ?_⟩
    rw [hthreads]
    by_cases hdc : e = c
    · subst hdc
      rw [Function.update_self]
      exact hlocked hold
    · rwa [Function.update_of_ne hdc]
  main d hd := by
    rw [hmutex] at hd
    rw [hmain]
    exact h.main d hd
  pipesClient d hd := by
    rw [hpipes] at hd
    have hold := h.pipesClient d hd
    rw [hthreads]
    by_cases hdc : d = c
    · subst hdc
      rw [Function.update_self]
      exact hholds hold
    · rwa [Function.update_of_ne hdc]
  pipesMain hm := by
    rw [hpipes] at hm
    rw [hmain]
    exact h.pipesMain hm

/-- `Close` leaves every mutex alone. -/
theorem ServerThreads.closePipe_mutex (flushed disconnected : Bool) (d : ℕ) :
    ((s.closePipe c flushed disconnected).instances d).mutex = (s.instances d).mutex := by
  simp only [closePipe]
  by_cases hdc : d = c
  · subst hdc
    rw [Function.update_self, PipeInstance.close_mutex]
  · rw [Function.update_of_ne hdc]

/-- Every step of a client's thread keeps the holders in place. -/
theorem HolderInv.threadMove {e : ThreadEvent} (h : HolderInv s) (hp : PointerInv s)
    (hmove : ThreadMove env s c e s') : HolderInv s' := by
  cases hmove with
  | enter hpc _ => exact h.stay rfl rfl (fun _ => rfl) rfl (by rw [hpc]; nofun) (by rw [hpc]; nofun)
  | refuse hpc _ =>
      exact h.stay rfl rfl (fun _ => rfl) rfl (by rw [hpc]; nofun) (by rw [hpc]; nofun)
  | lockPipes hpc hfree =>
      refine h.update rfl rfl (Function.update_eq_self c _).symm (fun d hd => ?_) (h.main c)
        (fun d hd => ?_) nofun
      · obtain ⟨_, hlocked⟩ := h.client c d hd
        rw [hpc] at hlocked
        cases hlocked
      · cases hd
        rw [if_pos rfl]
        rfl
  | found hpc _ =>
      exact h.stay rfl rfl (fun _ => rfl) rfl (by rw [hpc]; nofun) fun _ => rfl
  | missing hpc _ =>
      exact h.stay rfl rfl (fun _ => rfl) rfl (by rw [hpc]; nofun) fun _ => rfl
  | unlockPipes hpc =>
      refine h.update rfl rfl (Function.update_eq_self c _).symm (fun d hd => ?_) (h.main c)
        nofun nofun
      obtain ⟨_, hlocked⟩ := h.client c d hd
      rw [hpc] at hlocked
      cases hlocked
  | stop hpc _ => exact h.stay rfl rfl (fun _ => rfl) rfl (by rw [hpc]; nofun) (by rw [hpc]; nofun)
  | goOn hpc _ => exact h.stay rfl rfl (fun _ => rfl) rfl (by rw [hpc]; nofun) (by rw [hpc]; nofun)
  | lockNull hpc _ =>
      exact h.stay rfl rfl (fun _ => rfl) rfl (by rw [hpc]; nofun) (by rw [hpc]; nofun)
  | closeNull hpc hpipe =>
      have hloop := (hp.threads c).inLoop (by rw [hpc]; rfl)
      rw [hpipe] at hloop
      cases hloop
  | lockPipe hpc hpipe hfree =>
      cases hp.pointer_eq hpc rfl hpipe
      refine h.update rfl rfl rfl (fun d hd => ?_) nofun (fun d hd => ?_) id
      · cases hd
        exact ⟨rfl, rfl⟩
      · split
        · next heq =>
            have hholds := h.pipesClient d hd
            rw [heq, hpc] at hholds
            cases hholds
        · exact hd
  | readFailed hpc _ =>
      exact h.stay rfl rfl (fun _ => rfl) rfl (fun _ => rfl) (by rw [hpc]; nofun)
  | read hpc _ => exact h.stay rfl rfl (fun _ => rfl) rfl (fun _ => rfl) (by rw [hpc]; nofun)
  | answer hpc _ => exact h.stay rfl rfl (fun _ => rfl) rfl (fun _ => rfl) (by rw [hpc]; nofun)
  | noAnswer hpc _ => exact h.stay rfl rfl (fun _ => rfl) rfl (fun _ => rfl) (by rw [hpc]; nofun)
  | writeFile hpc => exact h.stay rfl rfl (fun _ => rfl) rfl (fun _ => rfl) (by rw [hpc]; nofun)
  | close hpc _ =>
      refine h.stay rfl rfl (fun d => ?_) rfl (fun _ => rfl) (by rw [hpc]; nofun)
      exact ServerThreads.closePipe_mutex _ _ d
  | unlockPipe hpc hpipe =>
      cases hp.pointer_eq hpc rfl hpipe
      refine h.update rfl rfl rfl nofun nofun (fun d hd => ?_) id
      split
      · next heq =>
          have hholds := h.pipesClient d hd
          rw [heq, hpc] at hholds
          cases hholds
      · exact hd

/-- The main thread moves on, and neither takes nor releases a mutex. -/
theorem HolderInv.moveMain (h : HolderInv s) (hthreads : s'.threads = s.threads)
    (hmutex : ∀ d, (s'.instances d).mutex = (s.instances d).mutex)
    (hpipes : s'.pipesMutex = s.pipesMutex)
    (hlocked : ∀ d, s.main.locked = some d → s'.main.locked = some d)
    (hholds : s.main.holdsPipes = true → s'.main.holdsPipes = true) : HolderInv s' where
  client d e hd := by
    rw [hmutex] at hd
    rw [hthreads]
    exact h.client d e hd
  main d hd := by
    rw [hmutex] at hd
    exact hlocked d (h.main d hd)
  pipesClient d hd := by
    rw [hpipes] at hd
    rw [hthreads]
    exact h.pipesClient d hd
  pipesMain hm := by
    rw [hpipes] at hm
    exact hholds (h.pipesMain hm)

/-- The main thread takes or releases the mutex of the map. -/
theorem HolderInv.movePipesMutex (h : HolderInv s) (hthreads : s'.threads = s.threads)
    (hinstances : s'.instances = s.instances) (hlocked : s.main.locked = none)
    (hclient : ∀ d, s'.pipesMutex ≠ some (.client d))
    (hholds : s'.pipesMutex = some .main → s'.main.holdsPipes = true) : HolderInv s' where
  client := by
    rw [hinstances, hthreads]
    exact h.client
  main d hd := by
    rw [hinstances] at hd
    have hold := h.main d hd
    rw [hlocked] at hold
    cases hold
  pipesClient d hd := absurd hd (hclient d)
  pipesMain := hholds

/-- The main thread moves on and changes the mutex of one instance. -/
theorem HolderInv.moveMainAt (h : HolderInv s) {p : PipeInstance}
    (hthreads : s'.threads = s.threads)
    (hinstances : s'.instances = Function.update s.instances c p)
    (hpipes : s'.pipesMutex = s.pipesMutex) (hclient : ∀ d, p.mutex ≠ some (.client d))
    (hself : p.mutex = some .main → s'.main.locked = some c)
    (hother : ∀ d, s.main.locked = some d → d = c)
    (hholds : s.main.holdsPipes = true → s'.main.holdsPipes = true) : HolderInv s' where
  client d e hd := by
    rw [hinstances] at hd
    rw [hthreads]
    by_cases hdc : d = c
    · subst hdc
      rw [Function.update_self] at hd
      exact absurd hd (hclient e)
    · rw [Function.update_of_ne hdc] at hd
      exact h.client d e hd
  main d hd := by
    rw [hinstances] at hd
    by_cases hdc : d = c
    · subst hdc
      rw [Function.update_self] at hd
      exact hself hd
    · rw [Function.update_of_ne hdc] at hd
      exact absurd (hother d (h.main d hd)) hdc
  pipesClient d hd := by
    rw [hpipes] at hd
    rw [hthreads]
    exact h.pipesClient d hd
  pipesMain hm := by
    rw [hpipes] at hm
    exact hholds (h.pipesMain hm)

/-- The main thread starts a thread, which holds nothing. -/
theorem HolderInv.spawn (h : HolderInv s) (hl : LockInv s) {a : Handle}
    (hpc : s.main = .spawning c a) :
    HolderInv { s with
      threads := Function.update s.threads c { pc := .entry, handle := a }
      main := .starting } := by
  have hnew : (s.threads c).pc = .notStarted := (hl.new c (by rw [hpc]; rfl)).2
  refine ⟨fun d e hd => ?_, fun d hd => ?_, fun d hd => ?_, fun hm => ?_⟩
  · obtain ⟨rfl, hlocked⟩ := h.client d e hd
    have hne : e ≠ c := by
      rintro rfl
      rw [hnew] at hlocked
      cases hlocked
    exact ⟨rfl, by simpa only [Function.update_of_ne hne] using hlocked⟩
  · have hold := h.main d hd
    rw [hpc] at hold
    cases hold
  · have hholds := h.pipesClient d hd
    have hne : d ≠ c := by
      rintro rfl
      rw [hnew] at hholds
      cases hholds
    simpa only [Function.update_of_ne hne] using hholds
  · have hold := h.pipesMain hm
    rw [hpc] at hold
    cases hold

/-- Every step of the main thread keeps the holders in place. -/
theorem HolderInv.mainMove {e : MainEvent} (h : HolderInv s) (hl : LockInv s)
    (hmove : MainMove s e s') : HolderInv s' := by
  cases hmove with
  | start hpc => exact h.moveMain rfl (fun _ => rfl) rfl (by rw [hpc]; nofun) (by rw [hpc]; nofun)
  | createNamedPipe hpc =>
      exact h.moveMain rfl (fun _ => rfl) rfl (by rw [hpc]; nofun) (by rw [hpc]; nofun)
  | createFailed hpc =>
      exact h.moveMain rfl (fun _ => rfl) rfl (by rw [hpc]; nofun) (by rw [hpc]; nofun)
  | connect hpc =>
      exact h.moveMain rfl (fun _ => rfl) rfl (by rw [hpc]; nofun) (by rw [hpc]; nofun)
  | connectFailed hpc =>
      exact h.moveMain rfl (fun _ => rfl) rfl (by rw [hpc]; nofun) (by rw [hpc]; nofun)
  | lockToInsert hpc _ =>
      exact h.movePipesMutex rfl rfl (by rw [hpc]; rfl) nofun fun _ => rfl
  | insertPipe hpc =>
      exact h.moveMainAt rfl rfl rfl nofun nofun (by rw [hpc]; nofun) fun _ => rfl
  | unlockInserted hpc => exact h.movePipesMutex rfl rfl (by rw [hpc]; rfl) nofun nofun
  | spawn hpc => exact h.spawn hl hpc
  | storeIsClosed hpc =>
      exact h.moveMain rfl (fun _ => rfl) rfl (by rw [hpc]; nofun) (by rw [hpc]; nofun)
  | lockToMove hpc _ => exact h.movePipesMutex rfl rfl (by rw [hpc]; rfl) nofun fun _ => rfl
  | movePipes hpc =>
      exact h.moveMain rfl (fun _ => rfl) rfl (by rw [hpc]; nofun) fun _ => rfl
  | unlockMoved hpc => exact h.movePipesMutex rfl rfl (by rw [hpc]; rfl) nofun nofun
  | nextPipe hpc _ =>
      exact h.moveMain rfl (fun _ => rfl) rfl (by rw [hpc]; nofun) (by rw [hpc]; nofun)
  | lockNull hpc =>
      exact h.moveMain rfl (fun _ => rfl) rfl (by rw [hpc]; nofun) (by rw [hpc]; nofun)
  | lockPipe hpc _ =>
      exact h.moveMainAt rfl rfl rfl nofun (fun _ => rfl) (by rw [hpc]; nofun) (by rw [hpc]; nofun)
  | close hpc =>
      exact h.moveMain rfl (ServerThreads.closePipe_mutex _ _) rfl (by rw [hpc]; exact fun _ => id)
        (by rw [hpc]; nofun)
  | unlockPipe hpc =>
      refine h.moveMainAt rfl rfl rfl nofun nofun ?_ (by rw [hpc]; nofun)
      rw [hpc]
      exact fun d hd => (Option.some_inj.1 hd).symm
  | endPipes hpc _ =>
      exact h.moveMain rfl (fun _ => rfl) rfl (by rw [hpc]; nofun) (by rw [hpc]; nofun)
  | join hpc _ =>
      exact h.moveMain rfl (fun _ => rfl) rfl (by rw [hpc]; nofun) (by rw [hpc]; nofun)
  | joined hpc _ =>
      exact h.moveMain rfl (fun _ => rfl) rfl (by rw [hpc]; nofun) (by rw [hpc]; nofun)

end Holders

/-! ### The threads that are joined -/

/-- How many threads the destructor has joined, of the `n` there are. -/
def MainPc.joined (n : ℕ) : MainPc → ℕ
  | joining k => k
  | destroyed => n
  | _ => 0

/-- The steps a thread can take, once the flag is stored. -/
def ThreadPc.remaining : ThreadPc → ℕ
  | notStarted => 0
  | entry => 5
  | lookupLock => 4
  | lookupHeld => 3
  | lookupDone => 2
  | test => 1
  | wantPipe => 6
  | reading => 5
  | parsing _ => 4
  | writing _ => 3
  | closing => 3
  | leaving _ => 2
  | returned => 0
  | crashed => 0

/-- Every client has a thread, unless it is just being connected; and the threads that were joined
have returned. -/
structure JoinInv (s : ServerThreads) : Prop where
  started : ∀ c < s.clientIdsCounter, s.main.newClient ≠ some c → (s.threads c).pc ≠ .notStarted
  joined : ∀ c < s.main.joined s.clientIdsCounter, c < s.clientIdsCounter →
    (s.threads c).pc = .returned

section Join

variable {env : AddressText} {s s' : ServerThreads} {c : ℕ}

/-- What a step of a client's thread does to it, and what it leaves alone.  Once the flag is stored,
it brings the thread closer to its end. -/
theorem ThreadMove.effect {e : ThreadEvent} (hmove : ThreadMove env s c e s') :
    (s.threads c).pc ≠ .returned ∧ s'.main = s.main ∧ s'.isClosed = s.isClosed ∧
      s'.clientIdsCounter = s.clientIdsCounter ∧
      ∃ t, s'.threads = Function.update s.threads c t ∧ t.pc ≠ .notStarted ∧
        (s.isClosed = true → t.pc.remaining < (s.threads c).pc.remaining) := by
  cases hmove with
  | goOn hpc hopen =>
      refine ⟨by rw [hpc]; nofun, rfl, rfl, rfl, _, rfl, nofun, fun hclosed => ?_⟩
      rw [hopen] at hclosed
      cases hclosed
  | @unlockPipe again _ hpc _ =>
      refine ⟨by rw [hpc]; nofun, rfl, rfl, rfl, _, rfl, ?_, fun _ => ?_⟩
      · cases again <;> nofun
      · rw [hpc]
        cases again
        · exact Nat.zero_lt_two
        · exact Nat.one_lt_two
  | _ hpc =>
      refine ⟨by rw [hpc]; nofun, rfl, rfl, rfl, _, rfl, nofun, fun _ => ?_⟩
      rw [hpc]
      simp only [ThreadPc.remaining]
      decide

/-- Every step of a client's thread keeps account of the threads. -/
theorem JoinInv.threadMove {e : ThreadEvent} (h : JoinInv s) (hmove : ThreadMove env s c e s') :
    JoinInv s' := by
  obtain ⟨hreturned, hmain, _, hcounter, t, hthreads, hstarted, _⟩ := hmove.effect
  constructor
  · rw [hcounter, hmain, hthreads]
    intro d hd hnew
    by_cases hdc : d = c
    · rwa [hdc, Function.update_self]
    · rw [Function.update_of_ne hdc]
      exact h.started d hd hnew
  · rw [hcounter, hmain, hthreads]
    intro d hd hlt
    have hold := h.joined d hd hlt
    have hdc : d ≠ c := by
      rintro rfl
      exact hreturned hold
    rwa [Function.update_of_ne hdc]

/-- The main thread moves on, without connecting, starting or joining a thread. -/
theorem JoinInv.moveMain (h : JoinInv s) (hthreads : s'.threads = s.threads)
    (hcounter : s'.clientIdsCounter = s.clientIdsCounter)
    (hnew : ∀ c, s.main.newClient = some c → s'.main.newClient = some c)
    (hjoined : s'.main.joined s.clientIdsCounter ≤ s.main.joined s.clientIdsCounter) :
    JoinInv s' where
  started := by
    rw [hcounter, hthreads]
    exact fun d hd hne => h.started d hd fun hold => hne (hnew d hold)
  joined := by
    rw [hcounter, hthreads]
    exact fun d hd => h.joined d (lt_of_lt_of_le hd hjoined)

/-- Every step of the main thread keeps account of the threads. -/
theorem JoinInv.mainMove {e : MainEvent} (h : JoinInv s) (hmove : MainMove s e s') :
    JoinInv s' := by
  cases hmove with
  | connect hpc =>
      refine ⟨fun d hd hne => ?_, fun d hd => absurd hd (Nat.not_lt_zero d)⟩
      have hlt : d < s.clientIdsCounter :=
        lt_of_le_of_ne (Nat.le_of_lt_succ hd) fun heq => hne (congrArg some heq.symm)
      exact h.started d hlt (by rw [hpc]; nofun)
  | @spawn c a hpc =>
      refine ⟨fun d hd _ => ?_, fun d hd => absurd hd (Nat.not_lt_zero d)⟩
      by_cases hdc : d = c
      · subst hdc
        simp only [Function.update_self]
        nofun
      · simp only [Function.update_of_ne hdc]
        refine h.started d hd ?_
        rw [hpc]
        exact fun heq => hdc (Option.some_inj.1 heq).symm
  | @join n hpc hreturned =>
      refine ⟨fun d hd _ => h.started d hd (by rw [hpc]; nofun), fun d hd hlt => ?_⟩
      rcases Nat.lt_or_eq_of_le (Nat.le_of_lt_succ hd) with hd | rfl
      · exact h.joined d (by rw [hpc]; exact hd) hlt
      · exact hreturned
  | joined hpc hall =>
      refine ⟨fun d hd _ => h.started d hd (by rw [hpc]; nofun), fun d hd hlt => ?_⟩
      exact h.joined d (by rw [hpc]; exact lt_of_lt_of_le hd hall) hlt
  | lockToInsert hpc _ => exact h.moveMain rfl rfl (by rw [hpc]; exact fun _ => id) (Nat.zero_le _)
  | insertPipe hpc => exact h.moveMain rfl rfl (by rw [hpc]; exact fun _ => id) (Nat.zero_le _)
  | unlockInserted hpc => exact h.moveMain rfl rfl (by rw [hpc]; exact fun _ => id) (Nat.zero_le _)
  | _ hpc => exact h.moveMain rfl rfl (by rw [hpc]; nofun) (Nat.zero_le _)

end Join

/-! ### Every step brings the end closer -/

/-- The steps the main thread can take, once the flag is stored, with `size` entries in the map that
is still in place and `n` threads to join. -/
def MainPc.remaining (size n : ℕ) : MainPc → ℕ
  | shutting => 4 * size + n + 5
  | moving => 4 * size + n + 4
  | moved rest => 4 * rest.keys.card + n + 3
  | closing rest => 4 * rest.keys.card + n + 2
  | wantPipe _ rest => 4 * rest.keys.card + n + 5
  | closingPipe _ rest => 4 * rest.keys.card + n + 4
  | closedPipe _ rest => 4 * rest.keys.card + n + 3
  | joining k => n - k + 1
  | _ => 0

/-- **The steps that are left**, once the flag is stored: those of the main thread and those of
every client's thread. -/
def ServerThreads.remaining (s : ServerThreads) : ℕ :=
  s.main.remaining s.pipes.keys.card s.clientIdsCounter +
    ∑ c ∈ Finset.range s.clientIdsCounter, (s.threads c).pc.remaining

/-- The server is shutting down: the flag is stored, and everything is where it should be. -/
structure ShutdownInv (s : ServerThreads) : Prop where
  server : ServerInv s
  holders : HolderInv s
  joins : JoinInv s
  closed : s.isClosed = true

section Remaining

variable {env : AddressText} {s s' : ServerThreads} {c : ℕ}

/-- Once the destructor has moved the map out, what is put into the old one does not matter. -/
theorem MainPc.remaining_of_hasMoved {pc : MainPc} (h : pc.hasMoved = true) (size size' n : ℕ) :
    pc.remaining size n = pc.remaining size' n := by
  cases pc <;> first | rfl | cases h

/-- A thread only ever changes the map when the destructor has moved it out. -/
theorem ThreadMove.pipes {e : ThreadEvent} (hp : PointerInv s) (hmove : ThreadMove env s c e s') :
    s'.pipes = s.pipes ∨ s.main.hasMoved = true := by
  have hstarted := hmove.started
  cases hmove with
  | missing hpc hnone =>
      refine Or.inr ?_
      by_contra hm
      have hlisted := (hp.threads c).listed hstarted (Bool.not_eq_true _ ▸ hm)
      rw [← Finmap.lookup_isSome, hnone] at hlisted
      cases hlisted
  | _ => exact Or.inl rfl

/-- A step of a client's thread lowers the bound by what it takes from that thread. -/
theorem ShutdownInv.threadMove_lowers {e : ThreadEvent} (h : ShutdownInv s)
    (hmove : ThreadMove env s c e s') : s'.isClosed = true ∧ s'.remaining < s.remaining := by
  have hlt : c < s.clientIdsCounter := by
    by_contra hle
    exact hmove.started (h.server.locks.unused c (Nat.le_of_not_lt hle))
  obtain ⟨_, hmain, hclosed, hcounter, t, hthreads, _, hless⟩ := hmove.effect
  refine ⟨hclosed.trans h.closed, ?_⟩
  have hmainEq : s'.main.remaining s'.pipes.keys.card s'.clientIdsCounter =
      s.main.remaining s.pipes.keys.card s.clientIdsCounter := by
    rw [hmain, hcounter]
    rcases hmove.pipes h.server.pointers with hpipes | hmoved
    · rw [hpipes]
    · exact MainPc.remaining_of_hasMoved hmoved _ _ _
  have hsum : ∑ d ∈ Finset.range s.clientIdsCounter, (s'.threads d).pc.remaining <
      ∑ d ∈ Finset.range s.clientIdsCounter, (s.threads d).pc.remaining := by
    refine Finset.sum_lt_sum (fun d _ => ?_) ⟨c, Finset.mem_range.2 hlt, ?_⟩
    · rw [hthreads]
      by_cases hdc : d = c
      · subst hdc
        rw [Function.update_self]
        exact Nat.le_of_lt (hless h.closed)
      · rw [Function.update_of_ne hdc]
    · rw [hthreads, Function.update_self]
      exact hless h.closed
  rw [ServerThreads.remaining, ServerThreads.remaining, hmainEq, hcounter]
  exact Nat.add_lt_add_left hsum _

/-- A step of the main thread lowers its own share of the bound. -/
theorem ShutdownInv.mainMove_lowers {e : MainEvent} (h : ShutdownInv s) (hmove : MainMove s e s') :
    s'.isClosed = true ∧ s'.remaining < s.remaining := by
  have hflag : s.main.isShuttingDown = true := h.server.pointers.flag.symm.trans h.closed
  suffices hstep : s'.isClosed = s.isClosed ∧ s'.threads = s.threads ∧
      s'.clientIdsCounter = s.clientIdsCounter ∧
      s'.main.remaining s'.pipes.keys.card s.clientIdsCounter <
        s.main.remaining s.pipes.keys.card s.clientIdsCounter by
    obtain ⟨hclosed, hthreads, hcounter, hlt⟩ := hstep
    refine ⟨hclosed.trans h.closed, ?_⟩
    rw [ServerThreads.remaining, ServerThreads.remaining, hcounter, hthreads]
    exact Nat.add_lt_add_right hlt _
  cases hmove with
  | lockToMove hpc _ =>
      refine ⟨rfl, rfl, rfl, ?_⟩
      rw [hpc]
      exact Nat.lt_succ_self _
  | movePipes hpc =>
      refine ⟨rfl, rfl, rfl, ?_⟩
      rw [hpc]
      exact Nat.lt_succ_self _
  | unlockMoved hpc =>
      refine ⟨rfl, rfl, rfl, ?_⟩
      rw [hpc]
      exact Nat.lt_succ_self _
  | @nextPipe c p rest hpc hp =>
      refine ⟨rfl, rfl, rfl, ?_⟩
      have hmem : c ∈ rest.keys := by
        rw [Finmap.mem_keys, ← Finmap.lookup_isSome, hp]
        rfl
      have hcard : (rest.erase c).keys.card + 1 = rest.keys.card := by
        rw [Finmap.keys_erase, Finset.card_erase_add_one hmem]
      simp only [hpc, MainPc.remaining]
      omega
  | lockNull hpc => exact absurd hpc (h.server.pointers.wanted _)
  | lockPipe hpc _ =>
      refine ⟨rfl, rfl, rfl, ?_⟩
      rw [hpc]
      exact Nat.lt_succ_self _
  | close hpc =>
      refine ⟨rfl, rfl, rfl, ?_⟩
      rw [hpc]
      exact Nat.lt_succ_self _
  | unlockPipe hpc =>
      refine ⟨rfl, rfl, rfl, ?_⟩
      rw [hpc]
      exact Nat.lt_succ_self _
  | endPipes hpc hrest =>
      refine ⟨rfl, rfl, rfl, ?_⟩
      simp only [hpc, MainPc.remaining]
      omega
  | @join n hpc hreturned =>
      refine ⟨rfl, rfl, rfl, ?_⟩
      have hlt : n < s.clientIdsCounter := by
        by_contra hle
        rw [h.server.locks.unused n (Nat.le_of_not_lt hle)] at hreturned
        cases hreturned
      simp only [hpc, MainPc.remaining]
      omega
  | joined hpc _ =>
      refine ⟨rfl, rfl, rfl, ?_⟩
      rw [hpc]
      exact Nat.succ_pos _
  | _ hpc =>
      rw [hpc] at hflag
      cases hflag

/-- Every step keeps the holders and the joined threads in place. -/
theorem HolderInv.threadsStep {e : ServerEvent} (h : HolderInv s) (hs : ServerInv s)
    (hstep : threadsStep env s e = some s') : HolderInv s' := by
  cases e with
  | main e => exact h.mainMove hs.locks (mainMove_of_step hstep)
  | client c e => exact h.threadMove hs.pointers (threadMove_of_step hstep)

theorem JoinInv.threadsStep {e : ServerEvent} (h : JoinInv s)
    (hstep : threadsStep env s e = some s') : JoinInv s' := by
  cases e with
  | main e => exact h.mainMove (mainMove_of_step hstep)
  | client c e => exact h.threadMove (threadMove_of_step hstep)

/-- **Every step of a server that is shutting down brings its end closer.** -/
theorem ShutdownInv.lowers {e : ServerEvent} (h : ShutdownInv s)
    (hstep : NamedPipeDemo.threadsStep env s e = some s') :
    ShutdownInv s' ∧ s'.remaining < s.remaining := by
  have hless : s'.isClosed = true ∧ s'.remaining < s.remaining := by
    cases e with
    | main e => exact h.mainMove_lowers (mainMove_of_step hstep)
    | client c e => exact h.threadMove_lowers (threadMove_of_step hstep)
  exact ⟨⟨h.server.threadsStep hstep, h.holders.threadsStep h.server hstep,
    h.joins.threadsStep hstep, hless.1⟩, hless.2⟩

end Remaining

/-! ### Until the end somebody can go on -/

/-- The destructor has joined every thread, and they have all returned. -/
def ServerThreads.Destroyed (s : ServerThreads) : Prop :=
  s.main = .destroyed ∧ ∀ c < s.clientIdsCounter, (s.threads c).pc = .returned

/-- A thread has received a message that is answered with an exception.  Nobody catches it, and the
process ends. -/
def ServerThreads.Stopped (env : AddressText) (s : ServerThreads) : Prop :=
  ∃ c data fault w, (s.threads c).pc = .parsing data ∧
    (handleClientRequest c env data).run s.server = .error fault w

/-- Some thread can take a step. -/
def ServerThreads.CanStep (env : AddressText) (s : ServerThreads) : Prop :=
  ∃ e, (threadsStep env s e).isSome = true

section Progress

variable {env : AddressText} {s : ServerThreads} {c : ℕ}

theorem ServerThreads.CanStep.main {e : MainEvent} (h : (mainStep s e).isSome = true) :
    s.CanStep env :=
  ⟨.main e, h⟩

theorem ServerThreads.CanStep.client {e : ThreadEvent}
    (h : (threadStep env s c e).isSome = true) : s.CanStep env :=
  ⟨.client c e, h⟩

/-- A thread that holds the mutex of its instance can go on, or throws. -/
theorem PointerInv.locked_goesOn (h : PointerInv s) (hlocked : (s.threads c).pc.isLocked = true) :
    s.CanStep env ∨ s.Stopped env := by
  have hpipe : (s.threads c).pipe = some c := by
    refine (h.threads c).inLoop ?_
    cases hpc : (s.threads c).pc <;> rw [hpc] at hlocked <;> first | rfl | cases hlocked
  cases hpc : (s.threads c).pc with
  | reading =>
      refine Or.inl (.client (c := c) (e := .readFile false []) ?_)
      simp only [threadStep, hpc]
      rfl
  | parsing data =>
      cases hrun : (handleClientRequest c env data).run s.server with
      | error fault w => exact Or.inr ⟨c, data, fault, w, hpc, hrun⟩
      | ok response w =>
          refine Or.inl ?_
          cases response with
          | none =>
              refine .client (c := c) (e := .parse) ?_
              simp only [threadStep, hpc, hrun]
              rfl
          | some frame =>
              refine .client (c := c) (e := .parse) ?_
              simp only [threadStep, hpc, hrun]
              rfl
  | writing frame =>
      refine Or.inl (.client (c := c) (e := .writeFile true 0) ?_)
      simp only [threadStep, hpc]
      rfl
  | closing =>
      refine Or.inl (.client (c := c) (e := .close true true) ?_)
      simp only [threadStep, hpc, hpipe]
      rfl
  | leaving again =>
      refine Or.inl (.client (c := c) (e := .unlockPipe) ?_)
      simp only [threadStep, hpc, hpipe]
      rfl
  | _ =>
      rw [hpc] at hlocked
      cases hlocked

/-- A mutex of an instance that the main thread does not hold is free, or its holder can go on. -/
theorem ShutdownInv.instance_goesOn (h : ShutdownInv s) (hmain : s.main.locked = none) (d : ℕ) :
    (s.instances d).mutex = none ∨ s.CanStep env ∨ s.Stopped env := by
  cases hmutex : (s.instances d).mutex with
  | none => exact Or.inl rfl
  | some holder =>
      refine Or.inr ?_
      cases holder with
      | main =>
          have hlocked := h.holders.main d hmutex
          rw [hmain] at hlocked
          cases hlocked
      | client c =>
          obtain ⟨_, hlocked⟩ := h.holders.client d c hmutex
          exact h.server.pointers.locked_goesOn hlocked

/-- The mutex of the map, when the main thread does not hold it, is free, or its holder can go
on. -/
theorem ShutdownInv.pipes_goesOn (h : ShutdownInv s) (hmain : s.main.holdsPipes = false) :
    s.pipesMutex = none ∨ s.CanStep env := by
  cases hmutex : s.pipesMutex with
  | none => exact Or.inl rfl
  | some holder =>
      refine Or.inr ?_
      cases holder with
      | main =>
          have hholds := h.holders.pipesMain hmutex
          rw [hmain] at hholds
          cases hholds
      | client c =>
          have hholds := h.holders.pipesClient c hmutex
          cases hpc : (s.threads c).pc with
          | lookupHeld =>
              refine .client (c := c) (e := .lookup) ?_
              simp only [threadStep, hpc]
              cases s.pipes.lookup c <;> rfl
          | lookupDone =>
              refine .client (c := c) (e := .unlockPipes) ?_
              simp only [threadStep, hpc]
              rfl
          | _ =>
              rw [hpc] at hholds
              cases hholds

/-- The destructor waits for a thread, which can go on, or throws. -/
theorem ShutdownInv.thread_goesOn (h : ShutdownInv s) (hlocked : s.main.locked = none)
    (hholds : s.main.holdsPipes = false) (hstarted : (s.threads c).pc ≠ .notStarted)
    (hreturned : (s.threads c).pc ≠ .returned) : s.CanStep env ∨ s.Stopped env := by
  cases hpc : (s.threads c).pc with
  | notStarted => exact absurd hpc hstarted
  | returned => exact absurd hpc hreturned
  | crashed => exact absurd hpc (h.server.pointers.threads c).alive
  | entry =>
      refine Or.inl (.client (c := c) (e := .enter) ?_)
      simp only [threadStep, hpc]
      rfl
  | lookupLock =>
      refine Or.inl ((h.pipes_goesOn hholds).elim (fun hfree => ?_) id)
      refine .client (c := c) (e := .lockPipes) ?_
      simp only [threadStep, hpc, if_pos hfree]
      rfl
  | lookupHeld =>
      refine Or.inl (.client (c := c) (e := .lookup) ?_)
      simp only [threadStep, hpc]
      cases s.pipes.lookup c <;> rfl
  | lookupDone =>
      refine Or.inl (.client (c := c) (e := .unlockPipes) ?_)
      simp only [threadStep, hpc]
      rfl
  | test =>
      refine Or.inl (.client (c := c) (e := .loadIsClosed) ?_)
      simp only [threadStep, hpc]
      rfl
  | wantPipe =>
      have hpipe : (s.threads c).pipe = some c :=
        (h.server.pointers.threads c).inLoop (by rw [hpc]; rfl)
      rcases h.instance_goesOn hlocked c with hfree | hgo
      · refine Or.inl (.client (c := c) (e := .lockPipe) ?_)
        simp only [threadStep, hpc, hpipe, if_pos hfree]
        rfl
      · exact hgo
  | _ => exact h.server.pointers.locked_goesOn (by rw [hpc]; rfl)

/-- **No deadlock.**  A server that is shutting down is at its end, or some thread can take a step,
or a thread throws. -/
theorem ShutdownInv.progress (h : ShutdownInv s) :
    s.Destroyed ∨ s.CanStep env ∨ s.Stopped env := by
  have hflag : s.main.isShuttingDown = true := h.server.pointers.flag.symm.trans h.closed
  cases hpc : s.main with
  | shutting =>
      refine Or.inr (Or.inl ((h.pipes_goesOn (by rw [hpc]; rfl)).elim (fun hfree => ?_) id))
      refine .main (e := .lockPipes) ?_
      simp only [mainStep, hpc, if_pos hfree]
      rfl
  | moving =>
      refine Or.inr (Or.inl (.main (e := .movePipes) ?_))
      simp only [mainStep, hpc]
      rfl
  | moved rest =>
      refine Or.inr (Or.inl (.main (e := .unlockPipes) ?_))
      simp only [mainStep, hpc]
      rfl
  | closing rest =>
      refine Or.inr (Or.inl ?_)
      by_cases hrest : rest = ∅
      · refine .main (e := .endPipes) ?_
        simp only [mainStep, hpc, if_pos hrest]
        rfl
      · obtain ⟨d, p, hp⟩ : ∃ d p, rest.lookup d = some p := by
          by_contra hnone
          refine hrest (Finmap.ext_lookup fun d => ?_)
          rw [Finmap.lookup_empty]
          exact Option.eq_none_iff_forall_ne_some.2 fun p hp => hnone ⟨d, p, hp⟩
        refine .main (e := .nextPipe d) ?_
        simp only [mainStep, hpc, hp]
        rfl
  | wantPipe p rest =>
      cases p with
      | none => exact absurd hpc (h.server.pointers.wanted rest)
      | some d =>
          refine Or.inr ?_
          rcases h.instance_goesOn (by rw [hpc]; rfl) d with hfree | hgo
          · refine Or.inl (.main (e := .lockPipe) ?_)
            simp only [mainStep, hpc, if_pos hfree]
            rfl
          · exact hgo
  | closingPipe d rest =>
      refine Or.inr (Or.inl (.main (e := .close true true) ?_))
      simp only [mainStep, hpc]
      rfl
  | closedPipe d rest =>
      refine Or.inr (Or.inl (.main (e := .unlockPipe) ?_))
      simp only [mainStep, hpc]
      rfl
  | joining n =>
      refine Or.inr ?_
      by_cases hall : s.clientIdsCounter ≤ n
      · refine Or.inl (.main (e := .join) ?_)
        simp only [mainStep, hpc, if_pos hall]
        rfl
      · by_cases hreturned : (s.threads n).pc = .returned
        · refine Or.inl (.main (e := .join) ?_)
          simp only [mainStep, hpc, if_neg hall, if_pos hreturned]
          rfl
        · refine h.thread_goesOn (by rw [hpc]; rfl) (by rw [hpc]; rfl) ?_ hreturned
          refine h.joins.started n (Nat.lt_of_not_le hall) fun hnew => ?_
          rw [hpc] at hnew
          cases hnew
  | destroyed =>
      refine Or.inl ⟨hpc, fun d hd => h.joins.joined d ?_ hd⟩
      rw [hpc]
      exact hd
  | crashed => exact absurd hpc h.server.pointers.alive
  | _ =>
      rw [hpc] at hflag
      cases hflag

end Progress

/-! ### How far away the end is -/

/-- Only clients that have connected have entries. -/
structure EntriesInv (s : ServerThreads) : Prop where
  pipes : ∀ c ∈ s.pipes, c < s.clientIdsCounter
  rest : ∀ c ∈ s.main.rest, c < s.clientIdsCounter

section Bound

variable {env : AddressText} {s s' : ServerThreads} {c : ℕ}

/-- The main thread moves on, and both maps only shrink. -/
theorem EntriesInv.moveMain (h : EntriesInv s)
    (hcounter : s.clientIdsCounter ≤ s'.clientIdsCounter) (hpipes : s'.pipes = s.pipes)
    (hrest : ∀ c ∈ s'.main.rest, c ∈ s.main.rest) : EntriesInv s' where
  pipes := by
    rw [hpipes]
    exact fun c hc => lt_of_lt_of_le (h.pipes c hc) hcounter
  rest c hc := lt_of_lt_of_le (h.rest c (hrest c hc)) hcounter

/-- The map the destructor has at a place where it has none is empty. -/
theorem MainPc.rest_subset {pc : MainPc} (hpc : pc.rest = ∅) {m : PipeMap} :
    ∀ c ∈ pc.rest, c ∈ m := by
  rw [hpc]
  exact fun c hc => absurd hc Finmap.notMem_empty

theorem EntriesInv.mainMove {e : MainEvent} (h : EntriesInv s) (hl : LockInv s)
    (hmove : MainMove s e s') : EntriesInv s' := by
  cases hmove with
  | connect hpc => exact h.moveMain (Nat.le_succ _) rfl (MainPc.rest_subset rfl)
  | @insertPipe c a hpc =>
      refine ⟨fun d hd => ?_, fun d hd => absurd hd Finmap.notMem_empty⟩
      rcases Finmap.mem_insert.1 hd with rfl | hd
      · exact (hl.new d (by rw [hpc]; rfl)).1
      · exact h.pipes d hd
  | movePipes hpc => exact ⟨fun d hd => absurd hd Finmap.notMem_empty, h.pipes⟩
  | unlockMoved hpc => exact h.moveMain (Nat.le_refl _) rfl (by rw [hpc]; exact fun _ => id)
  | nextPipe hpc hp =>
      refine h.moveMain (Nat.le_refl _) rfl ?_
      rw [hpc]
      exact fun d hd => (Finmap.mem_erase.1 hd).2
  | lockPipe hpc _ => exact h.moveMain (Nat.le_refl _) rfl (by rw [hpc]; exact fun _ => id)
  | close hpc => exact h.moveMain (Nat.le_refl _) rfl (by rw [hpc]; exact fun _ => id)
  | unlockPipe hpc => exact h.moveMain (Nat.le_refl _) rfl (by rw [hpc]; exact fun _ => id)
  | _ => exact h.moveMain (Nat.le_refl _) rfl (MainPc.rest_subset rfl)

theorem EntriesInv.threadMove {e : ThreadEvent} (h : EntriesInv s) (hl : LockInv s)
    (hmove : ThreadMove env s c e s') : EntriesInv s' := by
  have hstarted := hmove.started
  cases hmove with
  | missing hpc hp =>
      refine ⟨fun d hd => ?_, h.rest⟩
      rcases Finmap.mem_insert.1 hd with rfl | hd
      · by_contra hle
        exact hstarted (hl.unused d (Nat.le_of_not_lt hle))
      · exact h.pipes d hd
  | _ => exact ⟨h.pipes, h.rest⟩

theorem EntriesInv.threadsStep {e : ServerEvent} (h : EntriesInv s) (hl : LockInv s)
    (hstep : threadsStep env s e = some s') : EntriesInv s' := by
  cases e with
  | main e => exact h.mainMove hl (mainMove_of_step hstep)
  | client c e => exact h.threadMove hl (threadMove_of_step hstep)

/-- A thread has six steps left at most. -/
theorem ThreadPc.remaining_le (pc : ThreadPc) : pc.remaining ≤ 6 := by
  cases pc <;> exact Nat.le_of_ble_eq_true rfl

/-- As many entries as clients at most. -/
theorem card_keys_le {m : PipeMap} {n : ℕ} (h : ∀ c ∈ m, c < n) : m.keys.card ≤ n := by
  refine (Finset.card_le_card fun c hc => ?_).trans (Finset.card_range n).le
  exact Finset.mem_range.2 (h c (Finmap.mem_keys.1 hc))

/-- **The end is eleven steps a client away at most**, and five of the main thread. -/
theorem EntriesInv.remaining_le (h : EntriesInv s) :
    s.remaining ≤ 11 * s.clientIdsCounter + 5 := by
  have hpipes : s.pipes.keys.card ≤ s.clientIdsCounter := card_keys_le h.pipes
  have hrest : s.main.rest.keys.card ≤ s.clientIdsCounter := card_keys_le h.rest
  have hmain : s.main.remaining s.pipes.keys.card s.clientIdsCounter ≤
      5 * s.clientIdsCounter + 5 := by
    cases hpc : s.main <;> rw [hpc] at hrest <;>
      simp only [MainPc.remaining, MainPc.rest] at hrest ⊢ <;> omega
  have hthreads : ∑ c ∈ Finset.range s.clientIdsCounter, (s.threads c).pc.remaining ≤
      s.clientIdsCounter * 6 := by
    refine (Finset.sum_le_card_nsmul _ _ 6 fun c _ => (s.threads c).pc.remaining_le).trans ?_
    rw [Finset.card_range, Nat.nsmul_eq_mul]
  rw [ServerThreads.remaining]
  omega

end Bound

/-! ### The destructor returns -/

/-- Everything there is to know of a server that runs. -/
structure RunningInv (s : ServerThreads) : Prop where
  server : ServerInv s
  holders : HolderInv s
  joins : JoinInv s
  entries : EntriesInv s

/-- Before anything has happened nobody holds a mutex, and no client has connected. -/
theorem runningInv_init : RunningInv {} where
  server := serverInv_init
  holders := ⟨nofun, nofun, nofun, nofun⟩
  joins := ⟨nofun, nofun⟩
  entries := ⟨fun _ hc => absurd hc Finmap.notMem_empty, fun _ hc => absurd hc Finmap.notMem_empty⟩

theorem RunningInv.threadsStep {env : AddressText} {s s' : ServerThreads} {e : ServerEvent}
    (h : RunningInv s) (hstep : threadsStep env s e = some s') : RunningInv s' where
  server := h.server.threadsStep hstep
  holders := h.holders.threadsStep h.server hstep
  joins := h.joins.threadsStep hstep
  entries := h.entries.threadsStep h.server.locks hstep

/-- **Every schedule leads to the end of the destructor.**  Once the flag is stored, every run ends
after eleven steps a client and five more; and where it cannot go on the destructor has returned and
so has every thread, or a thread has thrown. -/
theorem shutdown_completes (env : AddressText) {es es' : List ServerEvent} {s s' : ServerThreads}
    (h : run (threadsStep env) {} es = some s) (hclosed : s.isClosed = true)
    (h' : run (threadsStep env) s es' = some s') :
    es'.length ≤ 11 * s.clientIdsCounter + 5 ∧
      (s'.Destroyed ∨ s'.CanStep env ∨ s'.Stopped env) := by
  have hrunning : RunningInv s :=
    invariant_run (fun _ _ _ hs hstep => hs.threadsStep hstep) runningInv_init h
  have hshut : ShutdownInv s := ⟨hrunning.server, hrunning.holders, hrunning.joins, hclosed⟩
  constructor
  · have hlength := length_add_le_of_measure (fun _ _ _ hs hstep => hs.lowers hstep) hshut h'
    have hbound := hrunning.entries.remaining_le
    omega
  · have hend : ShutdownInv s' :=
      invariant_run (fun _ _ _ hs hstep => (hs.lowers hstep).1) hshut h'
    exact hend.progress

/-- A client connects and stays connected; its thread is in `ReadFile` when the flag is stored. -/
def readingAtShutdown : List ServerEvent :=
  [.main .start, .main (.createNamedPipe true), .main (.connectNamedPipe true), .main .lockPipes,
    .main .insertPipe, .main .unlockPipes, .main .spawn, .main (.createNamedPipe false),
    .client 0 .enter, .client 0 .lockPipes, .client 0 .lookup, .client 0 .unlockPipes,
    .client 0 .loadIsClosed, .client 0 .lockPipe, .main .storeIsClosed]

/-- The destructor waits for the mutex of its instance until a message is in, which has no header
and gets no answer, closes the pipe and joins the thread. -/
def shutdownAfterRead : List ServerEvent :=
  [.main .lockPipes, .main .movePipes, .main .unlockPipes, .main (.nextPipe 0),
    .client 0 (.readFile true [97]), .client 0 .parse, .client 0 .unlockPipe, .main .lockPipe,
    .main (.close true true), .main .unlockPipe, .main .endPipes, .client 0 .loadIsClosed,
    .main .join, .main .join]

/-- The server that was reading when it was shut down is destroyed. -/
theorem shutdownAfterRead_completes :
    ∃ s s', run (threadsStep default) {} readingAtShutdown = some s ∧
      run (threadsStep default) s shutdownAfterRead = some s' ∧ s'.main = .destroyed ∧
      shutdownAfterRead.length ≤ 11 * s.clientIdsCounter + 5 ∧
      (s'.Destroyed ∨ s'.CanStep default ∨ s'.Stopped default) :=
  ⟨_, _, rfl, rfl, rfl,
    @shutdown_completes default readingAtShutdown shutdownAfterRead _ _ rfl rfl rfl⟩

end NamedPipeDemo
