/-
**The repository under concurrency: a handle can be registered twice.**

`ClassRepository` is meant to be used from several threads, and each of its two members takes the
mutex whenever it touches the list.  But a call of `RegisterClassHandle` takes it twice: once to
test whether the handle is there, once to put it at the end.  Between the two it holds nothing, so
two calls for the same handle can both find nothing and then both put it there.

This is all that can go wrong.  As long as no test finds a handle absent while another call stands
between its own test and its insertion of that handle, every handle is in the list once, and the
call that put it there is the only one that reports success.

Main definitions:

* `NamedPipeDemo.RepositoryThreads`, `NamedPipeDemo.repositoryStep` — any number of threads that
  share the repository, and their steps;
* `NamedPipeDemo.RegisteredOnce` — every handle is kept once, and was reported as new once;
* `NamedPipeDemo.NoRace` — **the step is no test that finds nothing while another call is about to
  insert the handle**;
* `NamedPipeDemo.RepositoryInv` — the invariant of the runs without a race;
* `NamedPipeDemo.Doubled` — what a race leaves behind.

Main results:

* `NamedPipeDemo.RepositoryInv.step` — **steps without a race keep the invariant**;
* `NamedPipeDemo.Doubled.step` — no step undoes a race;
* `NamedPipeDemo.registeredOnce_iff` — **a run has no race exactly when every handle is kept once,
  whichever of the pending insertions are still made**;
* `NamedPipeDemo.register_alone` — a call that nobody interrupts is
  `ClassRepository.registerClassHandle`.
-/

import NamedPipeDemo.ResponseParser
import NamedPipeDemo.LabelledRuns

set_option relaxedAutoImplicit false
set_option autoImplicit false

namespace NamedPipeDemo

open LabelledRuns

/-! ### Threads that share the repository -/

/-- `ClassRepository::ContainsClassHandle` -/
def ClassRepository.containsClassHandle (repository : ClassRepository) (handle : ClassHandle) :
    Bool :=
  repository.contains handle

@[simp] theorem ClassRepository.containsClassHandle_iff {repository : ClassRepository}
    {handle : ClassHandle} : repository.containsClassHandle handle = true ↔ handle ∈ repository :=
  List.contains_iff_mem

/-- Where a thread stands in `RegisterClassHandle` or in `ContainsClassHandle`. -/
inductive RepositoryPc
  | idle
  /-- In `RegisterClassHandle`, before the test takes the mutex. -/
  | testing (handle : ClassHandle)
  /-- In `RegisterClassHandle`, behind a test that found nothing and before `push_back`. -/
  | inserting (handle : ClassHandle)
  /-- In `RegisterClassHandle`, about to return. -/
  | registered (handle : ClassHandle) (result : Bool)
  /-- In `ContainsClassHandle`, before it takes the mutex. -/
  | finding (handle : ClassHandle)
  /-- In `ContainsClassHandle`, about to return. -/
  | found (handle : ClassHandle) (result : Bool)
  deriving DecidableEq, Repr

/-- The handle that a call of `RegisterClassHandle` in progress is for. -/
def RepositoryPc.registering : RepositoryPc → Option ClassHandle
  | testing handle => some handle
  | inserting handle => some handle
  | registered handle _ => some handle
  | _ => none

/-- A step of the thread `t`. -/
inductive RepositoryEvent
  | registerClassHandle (t : ℕ) (handle : ClassHandle)
  | test (t : ℕ)
  | pushBack (t : ℕ)
  | returnRegistered (t : ℕ)
  | containsClassHandle (t : ℕ) (handle : ClassHandle)
  | find (t : ℕ)
  | returnFound (t : ℕ)
  deriving DecidableEq, Repr

/-- The event is an insertion. -/
def RepositoryEvent.isPushBack : RepositoryEvent → Bool
  | pushBack _ => true
  | _ => false

/-- The list of handles, the threads, and the calls of `RegisterClassHandle` that have returned
with their results, newest first. -/
structure RepositoryThreads where
  handles : ClassRepository := []
  threads : ℕ → RepositoryPc := fun _ => .idle
  completed : List (ClassHandle × Bool) := []

namespace RepositoryThreads

/-- The thread `t` goes on. -/
def setPc (s : RepositoryThreads) (t : ℕ) (pc : RepositoryPc) : RepositoryThreads :=
  { s with threads := Function.update s.threads t pc }

/-- `handles_.push_back(handle)` -/
def pushBack (s : RepositoryThreads) (handle : ClassHandle) : RepositoryThreads :=
  { s with handles := s.handles ++ [handle] }

/-- A call of `RegisterClassHandle` returns. -/
def complete (s : RepositoryThreads) (handle : ClassHandle) (result : Bool) : RepositoryThreads :=
  { s with completed := (handle, result) :: s.completed }

end RepositoryThreads

/-- **One step of one thread.**  Every step that reads or writes the list is a section of the source
that holds the mutex. -/
def repositoryStep (s : RepositoryThreads) : RepositoryEvent → Option RepositoryThreads
  | .registerClassHandle t handle =>
      match s.threads t with
      | .idle => some (s.setPc t (.testing handle))
      | _ => none
  | .test t =>
      match s.threads t with
      | .testing handle =>
          if s.handles.containsClassHandle handle then some (s.setPc t (.registered handle false))
          else some (s.setPc t (.inserting handle))
      | _ => none
  | .pushBack t =>
      match s.threads t with
      | .inserting handle => some ((s.pushBack handle).setPc t (.registered handle true))
      | _ => none
  | .returnRegistered t =>
      match s.threads t with
      | .registered handle result => some ((s.complete handle result).setPc t .idle)
      | _ => none
  | .containsClassHandle t handle =>
      match s.threads t with
      | .idle => some (s.setPc t (.finding handle))
      | _ => none
  | .find t =>
      match s.threads t with
      | .finding handle => some (s.setPc t (.found handle (s.handles.containsClassHandle handle)))
      | _ => none
  | .returnFound t =>
      match s.threads t with
      | .found _ _ => some (s.setPc t .idle)
      | _ => none

/-- The step of a thread as a relation: one constructor for each branch of `repositoryStep`. -/
inductive RepositoryMove (s : RepositoryThreads) : RepositoryEvent → RepositoryThreads → Prop
  | registerClassHandle {t : ℕ} {handle : ClassHandle} (hpc : s.threads t = .idle) :
      RepositoryMove s (.registerClassHandle t handle) (s.setPc t (.testing handle))
  | present {t : ℕ} {handle : ClassHandle} (hpc : s.threads t = .testing handle)
      (hmem : handle ∈ s.handles) :
      RepositoryMove s (.test t) (s.setPc t (.registered handle false))
  | absent {t : ℕ} {handle : ClassHandle} (hpc : s.threads t = .testing handle)
      (hmem : handle ∉ s.handles) :
      RepositoryMove s (.test t) (s.setPc t (.inserting handle))
  | pushBack {t : ℕ} {handle : ClassHandle} (hpc : s.threads t = .inserting handle) :
      RepositoryMove s (.pushBack t) ((s.pushBack handle).setPc t (.registered handle true))
  | returnRegistered {t : ℕ} {handle : ClassHandle} {result : Bool}
      (hpc : s.threads t = .registered handle result) :
      RepositoryMove s (.returnRegistered t) ((s.complete handle result).setPc t .idle)
  | containsClassHandle {t : ℕ} {handle : ClassHandle} (hpc : s.threads t = .idle) :
      RepositoryMove s (.containsClassHandle t handle) (s.setPc t (.finding handle))
  | find {t : ℕ} {handle : ClassHandle} (hpc : s.threads t = .finding handle) :
      RepositoryMove s (.find t)
        (s.setPc t (.found handle (s.handles.containsClassHandle handle)))
  | returnFound {t : ℕ} {handle : ClassHandle} {result : Bool}
      (hpc : s.threads t = .found handle result) :
      RepositoryMove s (.returnFound t) (s.setPc t .idle)

/-! ### What the repository promises, and when it keeps it -/

/-- **Every handle is in the list at most once, and was reported as new once**: as soon as a call
for it has returned and none is in progress, exactly one call has returned `true`. -/
structure RegisteredOnce (s : RepositoryThreads) : Prop where
  nodup : s.handles.Nodup
  once : ∀ h, (∃ r, (h, r) ∈ s.completed) → (∀ t, (s.threads t).registering ≠ some h) →
    s.completed.count (h, true) = 1

/-- The step is not a test that finds its handle absent while another thread stands between the test
and the insertion of the same handle. -/
def NoRace (s : RepositoryThreads) : RepositoryEvent → Prop
  | .test t => ∀ h u, s.threads t = .testing h → h ∉ s.handles → s.threads u ≠ .inserting h
  | _ => True

/-- Exactly one call has put the handle into the list: either it has returned `true`, or it is about
to. -/
inductive Won (s : RepositoryThreads) (h : ClassHandle) : Prop
  | returned (hcount : s.completed.count (h, true) = 1)
      (hnone : ∀ t, s.threads t ≠ .registered h true)
  | returning {t : ℕ} (hcount : s.completed.count (h, true) = 0)
      (honly : ∀ u, s.threads u = .registered h true ↔ u = t)

/-- How often the thread is about to put the handle into the list. -/
def RepositoryThreads.pending (s : RepositoryThreads) (t : ℕ) (h : ClassHandle) : ℕ :=
  if s.threads t = .inserting h then 1 else 0

/-- **The handle is in the list twice**, or will be when these two threads have gone on. -/
def Doubled (s : RepositoryThreads) (h : ClassHandle) (t u : ℕ) : Prop :=
  t ≠ u ∧ 2 ≤ s.handles.count h + s.pending t h + s.pending u h

/-- The thread that takes the step. -/
def RepositoryEvent.thread : RepositoryEvent → ℕ
  | registerClassHandle t _ => t
  | test t => t
  | pushBack t => t
  | returnRegistered t => t
  | containsClassHandle t _ => t
  | find t => t
  | returnFound t => t

/-- **The invariant of the runs without a race**: what is about to be inserted is not in the list,
and nobody else is about to insert it. -/
structure RepositoryInv (s : RepositoryThreads) : Prop where
  nodup : s.handles.Nodup
  inserting : ∀ t h, s.threads t = .inserting h → h ∉ s.handles
  alone : ∀ t u h, s.threads t = .inserting h → s.threads u = .inserting h → t = u
  registered : ∀ t h r, s.threads t = .registered h r → h ∈ s.handles
  completed : ∀ h r, (h, r) ∈ s.completed → h ∈ s.handles
  won : ∀ h ∈ s.handles, Won s h

section Repository

variable {s s' : RepositoryThreads} {e : RepositoryEvent} {t : ℕ} {h : ClassHandle}

theorem repositoryMove_of_step (hstep : repositoryStep s e = some s') : RepositoryMove s e s' := by
  cases e with
  | registerClassHandle t handle =>
      simp only [repositoryStep] at hstep
      split at hstep <;> cases hstep
      next hpc => exact .registerClassHandle hpc
  | test t =>
      simp only [repositoryStep, ClassRepository.containsClassHandle_iff] at hstep
      split at hstep
      · next hpc =>
          split at hstep <;> cases hstep
          · next hmem => exact .present hpc hmem
          · next hmem => exact .absent hpc hmem
      · cases hstep
  | pushBack t =>
      simp only [repositoryStep] at hstep
      split at hstep <;> cases hstep
      next hpc => exact .pushBack hpc
  | returnRegistered t =>
      simp only [repositoryStep] at hstep
      split at hstep <;> cases hstep
      next hpc => exact .returnRegistered hpc
  | containsClassHandle t handle =>
      simp only [repositoryStep] at hstep
      split at hstep <;> cases hstep
      next hpc => exact .containsClassHandle hpc
  | find t =>
      simp only [repositoryStep] at hstep
      split at hstep <;> cases hstep
      next hpc => exact .find hpc
  | returnFound t =>
      simp only [repositoryStep] at hstep
      split at hstep <;> cases hstep
      next hpc => exact .returnFound hpc

/-- A thread that goes on, and not to an insertion, leaves the insertions of the others. -/
theorem inserting_of_update {pc : RepositoryPc} {u : ℕ}
    (hu : Function.update s.threads t pc u = .inserting h) (hpc : ∀ h, pc ≠ .inserting h) :
    u ≠ t ∧ s.threads u = .inserting h := by
  rcases update_cases hu with ⟨_, heq⟩ | hold
  · exact absurd heq (hpc h)
  · exact hold

/-- A step that is not the end of a successful call leaves a winner alone. -/
theorem Won.update (hwon : Won s h) {pc : RepositoryPc}
    (hthreads : s'.threads = Function.update s.threads t pc)
    (hcount : s'.completed.count (h, true) = s.completed.count (h, true))
    (hold : s.threads t ≠ .registered h true) (hnew : pc ≠ .registered h true) : Won s' h := by
  have hiff : ∀ u, s'.threads u = .registered h true ↔ s.threads u = .registered h true := by
    intro u
    rw [hthreads]
    by_cases hut : u = t
    · subst hut
      rw [Function.update_self]
      exact iff_of_false hnew hold
    · rw [Function.update_of_ne hut]
  cases hwon with
  | returned hone hnone => exact .returned (hcount.trans hone) fun u hu => hnone u ((hiff u).1 hu)
  | returning hzero honly => exact .returning (hcount.trans hzero) fun u => (hiff u).trans (honly u)

namespace RepositoryInv

/-- A step that changes neither the list nor the results. -/
theorem goOn (hinv : RepositoryInv s) {pc : RepositoryPc} (hhandles : s'.handles = s.handles)
    (hcompleted : s'.completed = s.completed)
    (hthreads : s'.threads = Function.update s.threads t pc)
    (hold : ∀ h, s.threads t ≠ .registered h true) (hnew : ∀ h, pc ≠ .registered h true)
    (hinserting : ∀ h, pc = .inserting h → h ∉ s.handles ∧ ∀ u, s.threads u ≠ .inserting h)
    (hregistered : ∀ h r, pc = .registered h r → h ∈ s.handles) : RepositoryInv s' := by
  refine ⟨?_, fun u h hu => ?_, fun u v h hu hv => ?_, fun u h r hu => ?_, fun h r hmem => ?_,
    fun h hmem => ?_⟩
  · rw [hhandles]
    exact hinv.nodup
  · rw [hthreads] at hu
    rw [hhandles]
    rcases update_cases hu with ⟨_, heq⟩ | ⟨_, hu⟩
    · exact (hinserting h heq).1
    · exact hinv.inserting u h hu
  · rw [hthreads] at hu hv
    rcases update_cases hu with ⟨hut, heq⟩ | ⟨_, holdu⟩ <;>
      rcases update_cases hv with ⟨hvt, heq'⟩ | ⟨_, holdv⟩
    · rw [hut, hvt]
    · exact absurd holdv ((hinserting h heq).2 v)
    · exact absurd holdu ((hinserting h heq').2 u)
    · exact hinv.alone u v h holdu holdv
  · rw [hthreads] at hu
    rw [hhandles]
    rcases update_cases hu with ⟨_, heq⟩ | ⟨_, hu⟩
    · exact hregistered h r heq
    · exact hinv.registered u h r hu
  · rw [hcompleted] at hmem
    rw [hhandles]
    exact hinv.completed h r hmem
  · rw [hhandles] at hmem
    exact (hinv.won h hmem).update hthreads (by rw [hcompleted]) (hold h) (hnew h)

/-- **The insertion of a handle nobody else is about to insert.** -/
theorem pushBack (hinv : RepositoryInv s) (hpc : s.threads t = .inserting h) :
    RepositoryInv ((s.pushBack h).setPc t (.registered h true)) := by
  have hnew := hinv.inserting t h hpc
  refine ⟨?_, fun u h' hu hmem => ?_, fun u v h' hu hv => ?_, fun u h' r hu => ?_,
    fun h' r hmem => List.mem_append_left _ (hinv.completed h' r hmem), fun h' hmem => ?_⟩
  · exact List.nodup_append_comm.1 (List.nodup_cons.2 ⟨hnew, hinv.nodup⟩)
  · obtain ⟨hut, hold⟩ := inserting_of_update hu nofun
    rcases List.mem_append.1 hmem with hmem | hmem
    · exact hinv.inserting u h' hold hmem
    · rw [List.mem_singleton.1 hmem] at hold
      exact hut (hinv.alone u t h hold hpc)
  · exact hinv.alone u v h' (inserting_of_update hu nofun).2 (inserting_of_update hv nofun).2
  · rcases update_cases hu with ⟨_, heq⟩ | ⟨_, hu⟩
    · cases heq
      exact List.mem_append_right _ List.mem_cons_self
    · exact List.mem_append_left _ (hinv.registered u h' r hu)
  · by_cases heq : h' = h
    · -- before this call nobody has put the handle into the list
      subst heq
      refine .returning (t := t) (List.count_eq_zero.2 fun hdone => ?_) fun u => ⟨fun hu => ?_, ?_⟩
      · exact hnew (hinv.completed h' true hdone)
      · rcases update_cases hu with ⟨hut, _⟩ | ⟨_, hu⟩
        · exact hut
        · exact absurd (hinv.registered u h' true hu) hnew
      · rintro rfl
        exact Function.update_self ..
    · have hmem' : h' ∈ s.handles :=
        (List.mem_append.1 hmem).resolve_right fun hlast => heq (List.mem_singleton.1 hlast)
      refine (hinv.won h' hmem').update (t := t) rfl rfl (by rw [hpc]; nofun) fun hreg => ?_
      cases hreg
      exact heq rfl

/-- A call returns: when it is the one that put the handle into the list, it is counted now. -/
theorem complete (hinv : RepositoryInv s) {r : Bool} (hpc : s.threads t = .registered h r) :
    RepositoryInv ((s.complete h r).setPc t .idle) := by
  have hmem := hinv.registered t h r hpc
  refine ⟨hinv.nodup, fun u h' hu => ?_, fun u v h' hu hv => ?_, fun u h' r' hu => ?_,
    fun h' r' hdone => ?_, fun h' hmem' => ?_⟩
  · exact hinv.inserting u h' (inserting_of_update hu nofun).2
  · exact hinv.alone u v h' (inserting_of_update hu nofun).2 (inserting_of_update hv nofun).2
  · rcases update_cases hu with ⟨_, heq⟩ | ⟨_, hu⟩
    · cases heq
    · exact hinv.registered u h' r' hu
  · rcases List.mem_cons.1 hdone with heq | hdone
    · cases heq
      exact hmem
    · exact hinv.completed h' r' hdone
  · by_cases hlast : h = h' ∧ r = true
    · obtain ⟨rfl, rfl⟩ := hlast
      cases hinv.won h hmem with
      | returned _ hnone => exact absurd hpc (hnone t)
      | returning hzero honly =>
          refine .returned ?_ fun u hu => ?_
          · change ((h, true) :: s.completed).count (h, true) = 1
            rw [List.count_cons_self, hzero]
          · rcases update_cases hu with ⟨_, heq⟩ | ⟨hut, hu⟩
            · cases heq
            · exact hut (((honly u).1 hu).trans ((honly t).1 hpc).symm)
    · have hne : (h, r) ≠ (h', true) := fun heq => hlast (Prod.mk.inj heq)
      refine (hinv.won h' hmem').update (t := t) rfl (List.count_cons_of_ne hne) ?_ nofun
      rw [hpc]
      rintro ⟨⟩
      exact hne rfl

/-- **Every step without a race keeps the invariant.** -/
theorem step (hinv : RepositoryInv s) (hC : NoRace s e) (hstep : repositoryStep s e = some s') :
    RepositoryInv s' := by
  cases repositoryMove_of_step hstep with
  | registerClassHandle hpc =>
      exact hinv.goOn rfl rfl rfl (by rw [hpc]; nofun) nofun nofun nofun
  | present hpc hmem =>
      refine hinv.goOn rfl rfl rfl (by rw [hpc]; nofun) nofun nofun ?_
      rintro _ _ ⟨⟩
      exact hmem
  | absent hpc hmem =>
      refine hinv.goOn rfl rfl rfl (by rw [hpc]; nofun) nofun ?_ nofun
      rintro _ ⟨⟩
      exact ⟨hmem, fun u => hC _ u hpc hmem⟩
  | pushBack hpc => exact hinv.pushBack hpc
  | returnRegistered hpc => exact hinv.complete hpc
  | containsClassHandle hpc =>
      exact hinv.goOn rfl rfl rfl (by rw [hpc]; nofun) nofun nofun nofun
  | find hpc => exact hinv.goOn rfl rfl rfl (by rw [hpc]; nofun) nofun nofun nofun
  | returnFound hpc => exact hinv.goOn rfl rfl rfl (by rw [hpc]; nofun) nofun nofun nofun

/-- What the invariant says about the repository and its answers. -/
theorem registeredOnce (hinv : RepositoryInv s) : RegisteredOnce s := by
  refine ⟨hinv.nodup, fun h hdone hidle => ?_⟩
  obtain ⟨r, hr⟩ := hdone
  cases hinv.won h (hinv.completed h r hr) with
  | returned hone _ => exact hone
  | @returning t _ honly => exact absurd (by rw [(honly t).2 rfl]; rfl) (hidle t)

end RepositoryInv

/-! ### A race cannot be undone -/

/-- A step moves no other thread. -/
theorem threads_of_step (hstep : repositoryStep s e = some s') {u : ℕ} (hne : u ≠ e.thread) :
    s'.threads u = s.threads u := by
  cases repositoryMove_of_step hstep <;> exact Function.update_of_ne hne _ _

/-- No handle leaves the list. -/
theorem count_le_step (hstep : repositoryStep s e = some s') (h : ClassHandle) :
    s.handles.count h ≤ s'.handles.count h := by
  cases repositoryMove_of_step hstep with
  | pushBack hpc => exact List.Sublist.count_le h (List.sublist_append_left _ _)
  | _ => exact Nat.le_refl _

/-- A thread that is about to insert does nothing else. -/
theorem eq_of_inserting (hstep : repositoryStep s e = some s')
    (hpc : s.threads e.thread = .inserting h) :
    s' = (s.pushBack h).setPc e.thread (.registered h true) := by
  cases repositoryMove_of_step hstep with
  | pushBack hpc' =>
      cases hpc'.symm.trans hpc
      rfl
  | registerClassHandle hpc' | present hpc' _ | absent hpc' _ | returnRegistered hpc'
  | containsClassHandle hpc' | find hpc' | returnFound hpc' => cases hpc'.symm.trans hpc

/-- What a thread was about to insert, it is still about to insert, or it has inserted it. -/
theorem count_add_pending_le (hstep : repositoryStep s e = some s') (h : ClassHandle) :
    s.handles.count h + s.pending e.thread h ≤ s'.handles.count h + s'.pending e.thread h := by
  by_cases hpc : s.threads e.thread = .inserting h
  · have hcount : (s.handles ++ [h]).count h = s.handles.count h + 1 := by
      rw [List.count_append, List.count_singleton_self]
    rw [eq_of_inserting hstep hpc, RepositoryThreads.pending, if_pos hpc]
    exact hcount ▸ Nat.le_add_right _ _
  · rw [RepositoryThreads.pending, if_neg hpc]
    exact Nat.le_add_right_of_le (count_le_step hstep h)

/-- **No step undoes a race.** -/
theorem Doubled.step {u : ℕ} (hd : Doubled s h t u) (hstep : repositoryStep s e = some s') :
    Doubled s' h t u := by
  obtain ⟨hne, hcount⟩ := hd
  have hle := count_le_step hstep h
  have hown := count_add_pending_le hstep h
  have hother : ∀ v, v ≠ e.thread → s'.pending v h = s.pending v h := by
    intro v hv
    unfold RepositoryThreads.pending
    rw [threads_of_step hstep hv]
  refine ⟨hne, ?_⟩
  by_cases ht : t = e.thread
  · have hu := hother u (ht ▸ hne.symm)
    rw [← ht] at hown
    omega
  · have htt := hother t ht
    by_cases hu : u = e.thread
    · rw [← hu] at hown
      omega
    · have huu := hother u hu
      omega

/-- **A step that is a race** leaves two threads about to insert the same handle. -/
theorem doubled_of_race (hC : ¬ NoRace s e) (hstep : repositoryStep s e = some s') :
    ∃ h t u, Doubled s' h t u := by
  cases repositoryMove_of_step hstep with
  | present hpc hmem =>
      refine absurd (fun h u hpc' hnew => ?_) hC
      rw [hpc] at hpc'
      cases hpc'
      exact absurd hmem hnew
  | @absent t h hpc hmem =>
      simp only [NoRace, not_forall, not_not] at hC
      obtain ⟨h', u, hpc', _, hu⟩ := hC
      rw [hpc] at hpc'
      cases hpc'
      have hne : t ≠ u := by
        rintro rfl
        rw [hpc] at hu
        cases hu
      refine ⟨h, t, u, hne, ?_⟩
      have ht : (s.setPc t (.inserting h)).pending t h = 1 := if_pos (Function.update_self ..)
      have hu' : (s.setPc t (.inserting h)).pending u h = 1 :=
        if_pos ((Function.update_of_ne hne.symm _ _).trans hu)
      omega
  | _ => exact absurd trivial hC

/-- The thread inserts what it is about to insert, if anything. -/
theorem exists_inserted (s : RepositoryThreads) (t : ℕ) (h : ClassHandle) :
    ∃ es s', (∀ e ∈ es, e.isPushBack) ∧ run repositoryStep s es = some s' ∧
      s'.handles.count h = s.handles.count h + s.pending t h ∧
        ∀ u, u ≠ t → s'.threads u = s.threads u := by
  by_cases hpc : s.threads t = .inserting h
  · refine ⟨[.pushBack t], (s.pushBack h).setPc t (.registered h true),
      by simp [RepositoryEvent.isPushBack], ?_, ?_, fun u hu => Function.update_of_ne hu _ _⟩
    · simp only [run, repositoryStep, hpc]
      rfl
    · change (s.handles ++ [h]).count h = _
      rw [List.count_append, List.count_singleton_self, RepositoryThreads.pending, if_pos hpc]
  · refine ⟨[], s, nofun, rfl, ?_, fun _ _ => rfl⟩
    rw [RepositoryThreads.pending, if_neg hpc]
    rfl

/-- **What is left of a race is a handle that is in the list twice**, once the two threads have gone
on. -/
theorem Doubled.exists_twice {u : ℕ} (hd : Doubled s h t u) :
    ∃ es s', (∀ e ∈ es, e.isPushBack) ∧ run repositoryStep s es = some s' ∧
      2 ≤ s'.handles.count h := by
  obtain ⟨hne, hcount⟩ := hd
  obtain ⟨es₁, s₁, hpush₁, hrun₁, hcount₁, hkeep⟩ := exists_inserted s t h
  obtain ⟨es₂, s₂, hpush₂, hrun₂, hcount₂, _⟩ := exists_inserted s₁ u h
  have hu : s₁.pending u h = s.pending u h := by
    unfold RepositoryThreads.pending
    rw [hkeep u hne.symm]
  refine ⟨es₁ ++ es₂, s₂, fun e he => ?_, (run_append_eq_some _).2 ⟨s₁, hrun₁, hrun₂⟩, by omega⟩
  exact (List.mem_append.1 he).elim (hpush₁ e) (hpush₂ e)

/-! ### Runs -/

theorem repositoryInv_start : RepositoryInv {} where
  nodup := List.nodup_nil
  inserting _ _ hpc := by cases hpc
  alone _ _ _ hpc := by cases hpc
  registered _ _ _ hpc := by cases hpc
  completed _ _ hmem := by cases hmem
  won _ hmem := by cases hmem

/-- A run has no race, or it leaves what a race leaves behind. -/
theorem along_noRace_or_doubled {es : List RepositoryEvent}
    (hrun : run repositoryStep {} es = some s) :
    Along repositoryStep NoRace {} es ∨ ∃ h t u, Doubled s h t u := by
  refine invariant_history
    (I := fun (es : List RepositoryEvent) (s : RepositoryThreads) =>
      Along repositoryStep NoRace {} es ∨ ∃ h t u, Doubled s h t u) (Or.inl trivial) ?_ hrun
  intro es e r r' hprev hI hstep
  rcases hI with halong | ⟨h, t, u, hd⟩
  · by_cases hC : NoRace r e
    · exact Or.inl ((along_concat hprev).2 ⟨halong, hC⟩)
    · exact Or.inr (doubled_of_race hC hstep)
  · exact Or.inr ⟨h, t, u, hd.step hstep⟩

/-- The steps of a thread that ends where it began move no thread. -/
theorem update_idle (hidle : s.threads t = .idle) (pc : RepositoryPc) :
    Function.update (Function.update s.threads t pc) t .idle = s.threads := by
  rw [Function.update_idem, ← hidle, Function.update_eq_self]

/-- A call that nobody interrupts does what `ClassRepository.registerClassHandle` says, and reports
whether the handle was new. -/
theorem register_alone (hidle : s.threads t = .idle) (h : ClassHandle) :
    ∃ es s', run repositoryStep s (.registerClassHandle t h :: .test t :: es) = some s' ∧
      s'.handles = s.handles.registerClassHandle h ∧
      s'.completed = (h, decide (h ∉ s.handles)) :: s.completed ∧ s'.threads = s.threads := by
  by_cases hmem : h ∈ s.handles
  · refine ⟨[.returnRegistered t], s.complete h false, ?_, ?_, ?_, rfl⟩
    · simp [run, repositoryStep, hidle, RepositoryThreads.setPc, RepositoryThreads.complete,
        hmem, update_idle hidle]
    · rw [ClassRepository.registerClassHandle, if_pos hmem]
      rfl
    · rw [decide_eq_false (not_not_intro hmem)]
      rfl
  · refine ⟨[.pushBack t, .returnRegistered t], (s.pushBack h).complete h true, ?_, ?_, ?_, rfl⟩
    · simp [run, repositoryStep, hidle, RepositoryThreads.setPc, RepositoryThreads.complete,
        RepositoryThreads.pushBack, hmem, update_idle hidle]
    · rw [ClassRepository.registerClassHandle, if_neg hmem]
      rfl
    · rw [decide_eq_true hmem]
      rfl

end Repository

/-- **A run has no race exactly when every handle is registered once**, in the state it reaches and
in all those in which some of the pending insertions have been made. -/
theorem registeredOnce_iff {es : List RepositoryEvent} {s : RepositoryThreads}
    (hrun : run repositoryStep {} es = some s) :
    Along repositoryStep NoRace {} es ↔ ∀ es' s', (∀ e ∈ es', e.isPushBack) →
      run repositoryStep s es' = some s' → RegisteredOnce s' := by
  constructor
  · intro halong es' s' hpush hrun'
    have hstep : ∀ s e s', RepositoryInv s → NoRace s e → repositoryStep s e = some s' →
        RepositoryInv s' := fun _ _ _ hinv hC hstep => hinv.step hC hstep
    have hinv : RepositoryInv s := invariant_along hstep repositoryInv_start halong hrun
    have halong' : Along repositoryStep NoRace s es' := by
      refine Along.of_labels (P := fun e : RepositoryEvent => e.isPushBack) (fun r e he => ?_) hpush
      cases e <;> first | exact trivial | cases he
    exact (invariant_along hstep hinv halong' hrun').registeredOnce
  · intro hall
    refine (along_noRace_or_doubled hrun).resolve_right ?_
    rintro ⟨h, t, u, hd⟩
    obtain ⟨es', s', hpush, hrun', htwice⟩ := hd.exists_twice
    have honce := List.nodup_iff_count_le_one.1 (hall es' s' hpush hrun').nodup h
    omega

/-- Two threads register the same handle; each tests before the other inserts. -/
def crossedRegistrations : List RepositoryEvent :=
  [.registerClassHandle 0 7, .registerClassHandle 1 7, .test 0, .test 1, .pushBack 0, .pushBack 1,
    .returnRegistered 0, .returnRegistered 1]

/-- **The handle is in the list twice, and both calls report it as new.** -/
theorem crossedRegistrations_doubled :
    ¬ ∀ (es : List RepositoryEvent) (s : RepositoryThreads),
        run repositoryStep {} es = some s → RegisteredOnce s := by
  intro hall
  have honce := hall crossedRegistrations ⟨[7, 7], _, [(7, true), (7, true)]⟩ rfl
  exact absurd honce.nodup (by decide)

/-- The same two calls, one after the other. -/
def orderlyRegistrations : List RepositoryEvent :=
  [.registerClassHandle 0 7, .test 0, .pushBack 0, .registerClassHandle 1 7, .test 1,
    .returnRegistered 0, .returnRegistered 1]

/-- No thread is about to insert when the first test is made, and the second finds the handle. -/
theorem orderlyRegistrations_noRace : Along repositoryStep NoRace {} orderlyRegistrations := by
  have hfirst : NoRace (({} : RepositoryThreads).setPc 0 (.testing 7)) (.test 0) := by
    intro h u _ _ hu
    rcases update_cases hu with ⟨_, hpc⟩ | ⟨_, hpc⟩ <;> cases hpc
  refine .cons rfl trivial (.cons rfl hfirst (.cons rfl trivial (.cons rfl trivial
    (.cons rfl ?_ (.cons rfl trivial (.cons rfl trivial trivial))))))
  intro h u hpc hnew
  cases hpc
  exact absurd List.mem_cons_self hnew

theorem orderlyRegistrations_once :
    ∃ s, run repositoryStep {} orderlyRegistrations = some s ∧
      s.completed = [(7, false), (7, true)] ∧ RegisteredOnce s := by
  have hiff := registeredOnce_iff (rfl : run repositoryStep {} orderlyRegistrations = some _)
  exact ⟨_, rfl, rfl, hiff.1 orderlyRegistrations_noRace [] _ nofun rfl⟩

end NamedPipeDemo
