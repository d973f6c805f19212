/-
**The registry under concurrency: its handles are fresh, and they are permanent.**

Any number of threads of the server share one `ClassRegistry`.  A call of `Create` has two parts:
the object is made outside the lock, and under the lock the call takes the next number and enters
the object under it.  A call of `GetClassObjectByHandle` is one look under the lock.  This module
lets the threads take turns after each of these parts, in every order.

What keeps the handles apart is that the number and the entry are taken in *one* locked section.
The calls are then lined up by their locked sections, and the registry is the list of them: the
handle of a call is its place in the list, and a list that only grows forgets nothing.

An object is its address.  At every address the state keeps which call made the object there, and
with which arguments; and it keeps the calls that have passed the locked section, those whose entry
was dropped there, and those that have returned.  No thread reads any of this but the allocator,
which only hands out an address at which there is no object.

Main definitions:

* `NamedPipeDemo.ClassRegistry.objectPointer` — `GetClassObjectByHandle`, with addresses;
* `NamedPipeDemo.RegistryThreads`, `NamedPipeDemo.registryStep` — the threads, and their steps;
* `NamedPipeDemo.CallInv`, `NamedPipeDemo.PassedInv`, `NamedPipeDemo.LinedUp` — **the invariants**:
  calls are told apart, those behind the locked section return, and the registry is the list of
  them.

Main results:

* `NamedPipeDemo.LinedUp.step` — every step in range keeps the registry lined up;
* `NamedPipeDemo.handles_fresh_and_permanent` — **distinct calls get distinct handles, and a handle
  always leads to the object of the call that got it**;
* `NamedPipeDemo.create_linearizes` — the threads together do what `ClassRegistry.create` does for
  their calls one after another.
-/

import NamedPipeDemo.CustomClass
import NamedPipeDemo.LabelledRuns

set_option relaxedAutoImplicit false
set_option autoImplicit false

namespace NamedPipeDemo

open LabelledRuns

/-! ### Threads that share the registry -/

/-- The address of an object. -/
abbrev Address := ℕ

/-- `ClassRegistry::GetClassObjectByHandle`: the address of the object that the returned pointer
refers to, or nothing when the pointer is empty. -/
def ClassRegistry.objectPointer (r : ClassRegistry Address) (handle : ClassHandle) :
    Option Address :=
  r.instances.lookup handle

/-- A call of `Create` behind its locked section: its arguments, and its local variables
`instance` and `handle`.  The handle is what the call returns. -/
structure Creation (α : Type) where
  call : ℕ
  args : α
  instance_ : Address
  handle : ClassHandle
  deriving DecidableEq, Repr

/-- Where a thread stands in `Create` or in `GetClassObjectByHandle`. -/
inductive RegistryPc (α : Type)
  | idle
  /-- In `Create`, before `make_shared`. -/
  | constructing (call : ℕ) (args : α)
  /-- In `Create`, with the object made and the lock not yet taken. -/
  | locking (call : ℕ) (args : α) (instance_ : Address)
  /-- In `Create`, behind the locked section. -/
  | returning (c : Creation α)
  /-- In `GetClassObjectByHandle`, before the lock is taken. -/
  | finding (handle : ClassHandle)
  /-- In `GetClassObjectByHandle`, behind the locked section. -/
  | found (handle : ClassHandle) (pointer : Option Address)
  deriving DecidableEq, Repr

/-- A step of the thread `t`. -/
inductive RegistryEvent (α : Type)
  | create (t : ℕ) (args : α)
  | makeShared (t : ℕ) (a : Address)
  | insert (t : ℕ)
  | returnHandle (t : ℕ)
  | getClassObjectByHandle (t : ℕ) (handle : ClassHandle)
  | find (t : ℕ)
  | returnPointer (t : ℕ)
  deriving DecidableEq, Repr

/-- The event is the locked section of a `Create`. -/
def RegistryEvent.isInsert {α : Type} : RegistryEvent α → Bool
  | insert _ => true
  | _ => false

/-- The registry, the objects, and the threads. -/
structure RegistryThreads (α : Type) where
  registry : ClassRegistry Address := {}
  /-- The call that made the object at an address, and its arguments. -/
  objects : Address → Option (ℕ × α) := fun _ => none
  /-- The number of calls of `Create` so far. -/
  calls : ℕ := 0
  threads : ℕ → RegistryPc α := fun _ => .idle
  /-- The calls that have passed the locked section, in that order. -/
  created : List (Creation α) := []
  /-- The calls for which `insert` kept an entry that was there. -/
  dropped : List (Creation α) := []
  /-- The calls that have returned. -/
  returned : List (Creation α) := []

namespace RegistryThreads

variable {α : Type}

/-- The thread `t` goes on. -/
def setPc (s : RegistryThreads α) (t : ℕ) (pc : RegistryPc α) : RegistryThreads α :=
  { s with threads := Function.update s.threads t pc }

/-- A call of `Create` begins. -/
def enter (s : RegistryThreads α) : RegistryThreads α := { s with calls := s.calls + 1 }

/-- `std::make_shared<Type>(args...)` in a call, at the address `a`. -/
def makeShared (s : RegistryThreads α) (call : ℕ) (args : α) (a : Address) : RegistryThreads α :=
  { s with objects := Function.update s.objects a (some (call, args)) }

/-- The call with the handle that the locked section gives it. -/
def creation (s : RegistryThreads α) (call : ℕ) (args : α) (a : Address) : Creation α :=
  ⟨call, args, a, (s.registry.create a).1⟩

/-- The locked section of a call of `Create`. -/
def insert (s : RegistryThreads α) (call : ℕ) (args : α) (a : Address) : RegistryThreads α :=
  { s with
    registry := (s.registry.create a).2
    created := s.created ++ [s.creation call args a]
    dropped :=
      if s.registry.nextHandle ∈ s.registry.instances then s.creation call args a :: s.dropped
      else s.dropped }

/-- A call of `Create` returns and lets go of its pointer: the object stays only when the registry
has it. -/
def return_ (s : RegistryThreads α) (c : Creation α) : RegistryThreads α :=
  { s with
    objects :=
      if s.registry.objectPointer c.handle = some c.instance_ then s.objects
      else Function.update s.objects c.instance_ none
    returned := c :: s.returned }

end RegistryThreads

/-- **One step of one thread.** -/
def registryStep {α : Type} (s : RegistryThreads α) : RegistryEvent α → Option (RegistryThreads α)
  | .create t args =>
      match s.threads t with
      | .idle => some (s.enter.setPc t (.constructing s.calls args))
      | _ => none
  | .makeShared t a =>
      match s.threads t with
      | .constructing call args =>
          if (s.objects a).isNone then
            some ((s.makeShared call args a).setPc t (.locking call args a))
          else none
      | _ => none
  | .insert t =>
      match s.threads t with
      | .locking call args a =>
          some ((s.insert call args a).setPc t (.returning (s.creation call args a)))
      | _ => none
  | .returnHandle t =>
      match s.threads t with
      | .returning c => some ((s.return_ c).setPc t .idle)
      | _ => none
  | .getClassObjectByHandle t handle =>
      match s.threads t with
      | .idle => some (s.setPc t (.finding handle))
      | _ => none
  | .find t =>
      match s.threads t with
      | .finding handle => some (s.setPc t (.found handle (s.registry.objectPointer handle)))
      | _ => none
  | .returnPointer t =>
      match s.threads t with
      | .found _ _ => some (s.setPc t .idle)
      | _ => none

/-- The step of a thread as a relation: one constructor for each branch of `registryStep`. -/
inductive RegistryMove {α : Type} (s : RegistryThreads α) :
    RegistryEvent α → RegistryThreads α → Prop
  | create {t : ℕ} {args : α} (hpc : s.threads t = .idle) :
      RegistryMove s (.create t args) (s.enter.setPc t (.constructing s.calls args))
  | makeShared {t call : ℕ} {args : α} {a : Address} (hpc : s.threads t = .constructing call args)
      (hfree : s.objects a = none) :
      RegistryMove s (.makeShared t a)
        ((s.makeShared call args a).setPc t (.locking call args a))
  | insert {t call : ℕ} {args : α} {a : Address} (hpc : s.threads t = .locking call args a) :
      RegistryMove s (.insert t)
        ((s.insert call args a).setPc t (.returning (s.creation call args a)))
  | returnHandle {t : ℕ} {c : Creation α} (hpc : s.threads t = .returning c) :
      RegistryMove s (.returnHandle t) ((s.return_ c).setPc t .idle)
  | getClassObjectByHandle {t : ℕ} {handle : ClassHandle} (hpc : s.threads t = .idle) :
      RegistryMove s (.getClassObjectByHandle t handle) (s.setPc t (.finding handle))
  | find {t : ℕ} {handle : ClassHandle} (hpc : s.threads t = .finding handle) :
      RegistryMove s (.find t) (s.setPc t (.found handle (s.registry.objectPointer handle)))
  | returnPointer {t : ℕ} {handle : ClassHandle} {pointer : Option Address}
      (hpc : s.threads t = .found handle pointer) :
      RegistryMove s (.returnPointer t) (s.setPc t .idle)

section Moves

variable {α : Type} {s s' : RegistryThreads α} {e : RegistryEvent α}

theorem registryMove_of_step (h : registryStep s e = some s') : RegistryMove s e s' := by
  cases e with
  | create t args =>
      simp only [registryStep] at h
      split at h <;> cases h
      next hpc => exact .create hpc
  | makeShared t a =>
      simp only [registryStep] at h
      split at h
      · next hpc =>
          split at h <;> cases h
          next hfree => exact .makeShared hpc (Option.isNone_iff_eq_none.1 hfree)
      · cases h
  | insert t =>
      simp only [registryStep] at h
      split at h <;> cases h
      next hpc => exact .insert hpc
  | returnHandle t =>
      simp only [registryStep] at h
      split at h <;> cases h
      next hpc => exact .returnHandle hpc
  | getClassObjectByHandle t handle =>
      simp only [registryStep] at h
      split at h <;> cases h
      next hpc => exact .getClassObjectByHandle hpc
  | find t =>
      simp only [registryStep] at h
      split at h <;> cases h
      next hpc => exact .find hpc
  | returnPointer t =>
      simp only [registryStep] at h
      split at h <;> cases h
      next hpc => exact .returnPointer hpc

/-! ### The calls are told apart -/

/-- The call of `Create` in which a thread stands before the locked section. -/
def RegistryPc.pending : RegistryPc α → Option ℕ
  | constructing call _ => some call
  | locking call _ _ => some call
  | _ => none

/-- **No two calls of `Create` have the same number**, wherever they stand. -/
structure CallInv (s : RegistryThreads α) : Prop where
  pending_lt : ∀ t k, (s.threads t).pending = some k → k < s.calls
  pending_inj : ∀ t u k, (s.threads t).pending = some k → (s.threads u).pending = some k → t = u
  pending_new : ∀ t k, (s.threads t).pending = some k → ∀ c ∈ s.created, c.call ≠ k
  created_lt : ∀ c ∈ s.created, c.call < s.calls
  created : (s.created.map Creation.call).Nodup

theorem callInv_start : CallInv ({} : RegistryThreads α) where
  pending_lt _ _ h := by cases h
  pending_inj _ _ _ h := by cases h
  pending_new _ _ h := by cases h
  created_lt _ h := by cases h
  created := List.nodup_nil

/-- A thread that begins no call and passes no locked section of `Create`. -/
theorem CallInv.goOn (h : CallInv s) {t : ℕ} {pc : RegistryPc α} (hcalls : s'.calls = s.calls)
    (hcreated : s'.created = s.created) (hthreads : s'.threads = Function.update s.threads t pc)
    (hpending : ∀ k, pc.pending = some k → (s.threads t).pending = some k) : CallInv s' := by
  have hback : ∀ u k, (s'.threads u).pending = some k → (s.threads u).pending = some k := by
    intro u k hu
    rw [hthreads] at hu
    by_cases hut : u = t
    · subst hut
      rw [Function.update_self] at hu
      exact hpending k hu
    · rwa [Function.update_of_ne hut] at hu
  refine ⟨fun u k hu => ?_, fun u v k hu hv => h.pending_inj u v k (hback u k hu) (hback v k hv),
    fun u k hu => ?_, ?_, ?_⟩
  · rw [hcalls]
    exact h.pending_lt u k (hback u k hu)
  · rw [hcreated]
    exact h.pending_new u k (hback u k hu)
  · rw [hcreated, hcalls]
    exact h.created_lt
  · rw [hcreated]
    exact h.created

/-- A new call gets a new number. -/
theorem CallInv.enter (h : CallInv s) (t : ℕ) (args : α) :
    CallInv (s.enter.setPc t (.constructing s.calls args)) := by
  have hback : ∀ u k, ((Function.update s.threads t (.constructing s.calls args)) u).pending =
      some k → (u = t ∧ k = s.calls) ∨ (s.threads u).pending = some k := by
    intro u k hu
    by_cases hut : u = t
    · subst hut
      rw [Function.update_self] at hu
      exact Or.inl ⟨rfl, (Option.some_inj.1 hu).symm⟩
    · rw [Function.update_of_ne hut] at hu
      exact Or.inr hu
  refine ⟨fun u k hu => ?_, fun u v k hu hv => ?_, fun u k hu c hc => ?_, fun c hc => ?_, h.created⟩
  · rcases hback u k hu with ⟨_, rfl⟩ | hu
    · exact Nat.lt_succ_self _
    · exact Nat.lt_succ_of_lt (h.pending_lt u k hu)
  · rcases hback u k hu with ⟨hut, hk⟩ | hold <;> rcases hback v k hv with ⟨hvt, hk'⟩ | hold'
    · rw [hut, hvt]
    · exact absurd hk (Nat.ne_of_lt (h.pending_lt v k hold'))
    · exact absurd hk' (Nat.ne_of_lt (h.pending_lt u k hold))
    · exact h.pending_inj u v k hold hold'
  · rcases hback u k hu with ⟨_, rfl⟩ | hu
    · exact Nat.ne_of_lt (h.created_lt c hc)
    · exact h.pending_new u k hu c hc
  · exact Nat.lt_succ_of_lt (h.created_lt c hc)

/-- The locked section moves a call from the pending ones to those that have passed it. -/
theorem CallInv.insert (h : CallInv s) {t call : ℕ} {args : α} {a : Address}
    (hpc : s.threads t = .locking call args a) :
    CallInv ((s.insert call args a).setPc t (.returning (s.creation call args a))) := by
  have hcall : (s.threads t).pending = some call := by rw [hpc]; rfl
  have hback : ∀ u k, ((Function.update s.threads t
      (.returning (s.creation call args a))) u).pending = some k →
        u ≠ t ∧ (s.threads u).pending = some k := by
    intro u k hu
    by_cases hut : u = t
    · subst hut
      rw [Function.update_self] at hu
      cases hu
    · rw [Function.update_of_ne hut] at hu
      exact ⟨hut, hu⟩
  refine ⟨fun u k hu => h.pending_lt u k (hback u k hu).2,
    fun u v k hu hv => h.pending_inj u v k (hback u k hu).2 (hback v k hv).2,
    fun u k hu c hc => ?_, fun c hc => ?_, ?_⟩
  · obtain ⟨hut, hu⟩ := hback u k hu
    rcases List.mem_append.1 hc with hc | hc
    · exact h.pending_new u k hu c hc
    · rw [List.mem_singleton.1 hc]
      rintro rfl
      exact hut (h.pending_inj u t _ hu hcall)
  · rcases List.mem_append.1 hc with hc | hc
    · exact h.created_lt c hc
    · rw [List.mem_singleton.1 hc]
      exact h.pending_lt t call hcall
  · have hnew : call ∉ s.created.map Creation.call := by
      intro hmem
      obtain ⟨c, hc, heq⟩ := List.mem_map.1 hmem
      exact h.pending_new t call hcall c hc heq
    change ((s.created ++ [s.creation call args a]).map Creation.call).Nodup
    rw [List.map_append]
    exact List.nodup_append_comm.1 (List.nodup_cons.2 ⟨hnew, h.created⟩)

/-- **Every step tells the calls apart.** -/
theorem CallInv.step (h : CallInv s) (hstep : registryStep s e = some s') : CallInv s' := by
  cases registryMove_of_step hstep with
  | create hpc => exact h.enter _ _
  | makeShared hpc _ =>
      refine h.goOn rfl rfl rfl fun k hk => ?_
      rw [hpc]
      exact hk
  | insert hpc => exact h.insert hpc
  | returnHandle hpc => exact h.goOn rfl rfl rfl nofun
  | getClassObjectByHandle hpc => exact h.goOn rfl rfl rfl nofun
  | find hpc => exact h.goOn rfl rfl rfl nofun
  | returnPointer hpc => exact h.goOn rfl rfl rfl nofun

/-! ### The calls are accounted for -/

/-- **The calls behind the locked section** are those that have returned and those that are about
to. -/
def PassedInv (s : RegistryThreads α) : Prop :=
  ∀ c, c ∈ s.created ↔ c ∈ s.returned ∨ ∃ t, s.threads t = .returning c

theorem passedInv_start : PassedInv ({} : RegistryThreads α) := by
  intro c
  constructor
  · nofun
  · rintro (hc | ⟨t, ht⟩)
    · cases hc
    · cases ht

/-- A step of a thread that is not behind the locked section, neither before nor after. -/
theorem PassedInv.goOn (h : PassedInv s) {t : ℕ} {pc : RegistryPc α}
    (hcreated : s'.created = s.created) (hreturned : s'.returned = s.returned)
    (hthreads : s'.threads = Function.update s.threads t pc)
    (hold : ∀ c, s.threads t ≠ .returning c) (hnew : ∀ c, pc ≠ .returning c) : PassedInv s' := by
  intro c
  rw [hcreated, hreturned, hthreads, h c]
  refine or_congr_right ⟨?_, ?_⟩
  · rintro ⟨u, hu⟩
    refine ⟨u, (Function.update_of_ne ?_ _ _).trans hu⟩
    rintro rfl
    exact hold c hu
  · rintro ⟨u, hu⟩
    rcases update_cases hu with ⟨_, heq⟩ | ⟨_, hu⟩
    · exact absurd heq (hnew c)
    · exact ⟨u, hu⟩

/-- The locked section puts its call behind itself. -/
theorem PassedInv.insert (h : PassedInv s) {t call : ℕ} {args : α} {a : Address}
    (hpc : s.threads t = .locking call args a) :
    PassedInv ((s.insert call args a).setPc t (.returning (s.creation call args a))) := by
  intro c
  constructor
  · intro hc
    rcases List.mem_append.1 hc with hc | hc
    · refine ((h c).1 hc).imp_right fun ⟨u, hu⟩ => ⟨u, (Function.update_of_ne ?_ _ _).trans hu⟩
      rintro rfl
      rw [hpc] at hu
      cases hu
    · rw [List.mem_singleton.1 hc]
      exact Or.inr ⟨t, Function.update_self ..⟩
  · rintro (hc | ⟨u, hu⟩)
    · exact List.mem_append_left _ ((h c).2 (Or.inl hc))
    · rcases update_cases hu with ⟨_, heq⟩ | ⟨_, hu⟩
      · cases heq
        exact List.mem_append_right _ List.mem_cons_self
      · exact List.mem_append_left _ ((h c).2 (Or.inr ⟨u, hu⟩))

/-- A call that was about to return has returned. -/
theorem PassedInv.return_ (h : PassedInv s) {t : ℕ} {c : Creation α}
    (hpc : s.threads t = .returning c) : PassedInv ((s.return_ c).setPc t .idle) := by
  intro d
  constructor
  · intro hd
    rcases (h d).1 hd with hd | ⟨u, hu⟩
    · exact Or.inl (List.mem_cons_of_mem _ hd)
    · by_cases hut : u = t
      · rw [hut, hpc] at hu
        cases hu
        exact Or.inl List.mem_cons_self
      · exact Or.inr ⟨u, (Function.update_of_ne hut _ _).trans hu⟩
  · rintro (hd | ⟨u, hu⟩)
    · rcases List.mem_cons.1 hd with rfl | hd
      · exact (h d).2 (Or.inr ⟨t, hpc⟩)
      · exact (h d).2 (Or.inl hd)
    · rcases update_cases hu with ⟨_, heq⟩ | ⟨_, hu⟩
      · cases heq
      · exact (h d).2 (Or.inr ⟨u, hu⟩)

/-- **Every step keeps account of the calls.** -/
theorem PassedInv.step (h : PassedInv s) (hstep : registryStep s e = some s') : PassedInv s' := by
  cases registryMove_of_step hstep with
  | create hpc => exact h.goOn rfl rfl rfl (by rw [hpc]; nofun) nofun
  | makeShared hpc _ => exact h.goOn rfl rfl rfl (by rw [hpc]; nofun) nofun
  | insert hpc => exact h.insert hpc
  | returnHandle hpc => exact h.return_ hpc
  | getClassObjectByHandle hpc => exact h.goOn rfl rfl rfl (by rw [hpc]; nofun) nofun
  | find hpc => exact h.goOn rfl rfl rfl (by rw [hpc]; nofun) nofun
  | returnPointer hpc => exact h.goOn rfl rfl rfl (by rw [hpc]; nofun) nofun

/-! ### The registry is a list of calls -/

/-- **The registry is the list of the calls that have passed the locked section**: the handle of a
call is its place in the list, and it leads to the object that the call has made. -/
structure LinedUp (s : RegistryThreads α) : Prop where
  counter : s.registry.handleCounter = s.created.length
  handle : ∀ (i : ℕ) (c : Creation α), s.created[i]? = some c → c.handle.toNat = i
  pointer : ∀ h, s.registry.objectPointer h = (s.created[h.toNat]?).map Creation.instance_
  dropped : s.dropped = []
  locking : ∀ t call args a, s.threads t = .locking call args a → s.objects a = some (call, args)
  created : ∀ c ∈ s.created, s.objects c.instance_ = some (c.call, c.args)

theorem linedUp_start : LinedUp ({} : RegistryThreads α) where
  counter := rfl
  handle _ _ h := by cases h
  pointer _ := rfl
  dropped := rfl
  locking _ _ _ _ h := by cases h
  created _ h := by cases h

namespace LinedUp

/-- A lookup finds something exactly under the handles of the calls in the list. -/
theorem isSome_pointer_iff (h : LinedUp s) (handle : ClassHandle) :
    (s.registry.objectPointer handle).isSome ↔ handle.toNat < s.registry.handleCounter := by
  rw [h.pointer, h.counter, Option.isSome_map]
  simp

theorem numbered (h : LinedUp s) : s.registry.Numbered := by
  intro handle
  rw [← h.isSome_pointer_iff handle]
  exact Finmap.lookup_isSome.symm

/-- **The handle of a call leads to its object.** -/
theorem pointer_of_mem (h : LinedUp s) {c : Creation α} (hc : c ∈ s.created) :
    s.registry.objectPointer c.handle = some c.instance_ := by
  obtain ⟨i, hi⟩ := List.mem_iff_getElem?.1 hc
  rw [h.pointer, h.handle i c hi, hi]
  rfl

/-- **Calls with the same handle are the same call.** -/
theorem eq_of_handle_eq (h : LinedUp s) {c d : Creation α} (hc : c ∈ s.created)
    (hd : d ∈ s.created) (heq : c.handle = d.handle) : c = d := by
  obtain ⟨i, hi⟩ := List.mem_iff_getElem?.1 hc
  obtain ⟨j, hj⟩ := List.mem_iff_getElem?.1 hd
  have hij : i = j := by rw [← h.handle i c hi, ← h.handle j d hj, heq]
  rw [hij, hj, Option.some_inj] at hi
  exact hi.symm

/-- A handle below the counter is the handle of a call. -/
theorem isSome_pointer_iff_mem (h : LinedUp s) (handle : ClassHandle) :
    (s.registry.objectPointer handle).isSome ↔ ∃ c ∈ s.created, c.handle = handle := by
  constructor
  · intro hsome
    rw [h.isSome_pointer_iff, h.counter] at hsome
    have hget := List.getElem?_eq_getElem hsome
    exact ⟨_, List.getElem_mem hsome, BitVec.eq_of_toNat_eq (h.handle _ _ hget)⟩
  · rintro ⟨c, hc, rfl⟩
    rw [h.pointer_of_mem hc]
    rfl

/-- A step outside the locked section of `Create`. -/
theorem update (h : LinedUp s) {t : ℕ} {pc : RegistryPc α} (hregistry : s'.registry = s.registry)
    (hcreated : s'.created = s.created) (hdropped : s'.dropped = s.dropped)
    (hthreads : s'.threads = Function.update s.threads t pc)
    (hobjects : ∀ c ∈ s.created, s'.objects c.instance_ = s.objects c.instance_)
    (hothers : ∀ u call args a, s.threads u = .locking call args a → s'.objects a = s.objects a)
    (hlocking : ∀ call args a, pc = .locking call args a → s'.objects a = some (call, args)) :
    LinedUp s' where
  counter := by rw [hregistry, hcreated, h.counter]
  handle := by rw [hcreated]; exact h.handle
  pointer := by rw [hregistry, hcreated]; exact h.pointer
  dropped := hdropped.trans h.dropped
  locking u call args a hu := by
    rw [hthreads] at hu
    rcases update_cases hu with ⟨_, heq⟩ | ⟨_, hu⟩
    · exact hlocking call args a heq
    · rw [hothers u call args a hu]
      exact h.locking u call args a hu
  created c hc := by
    rw [hcreated] at hc
    rw [hobjects c hc]
    exact h.created c hc

/-- A step that leaves the registry and the objects alone. -/
theorem goOn (h : LinedUp s) {t : ℕ} {pc : RegistryPc α} (hregistry : s'.registry = s.registry)
    (hcreated : s'.created = s.created) (hdropped : s'.dropped = s.dropped)
    (hthreads : s'.threads = Function.update s.threads t pc) (hobjects : s'.objects = s.objects)
    (hlocking : ∀ call args a, pc ≠ .locking call args a) : LinedUp s' :=
  h.update hregistry hcreated hdropped hthreads (fun _ _ => by rw [hobjects])
    (fun _ _ _ _ _ => by rw [hobjects]) fun call args a hpc => absurd hpc (hlocking call args a)

/-- A new object is put where there is none. -/
theorem makeShared (h : LinedUp s) {a : Address} (hfree : s.objects a = none) (t call : ℕ)
    (args : α) : LinedUp ((s.makeShared call args a).setPc t (.locking call args a)) := by
  have hkeep : ∀ b x, s.objects b = some x →
      (Function.update s.objects a (some (call, args))) b = s.objects b := by
    intro b x hb
    refine Function.update_of_ne ?_ _ _
    rintro rfl
    rw [hfree] at hb
    cases hb
  refine h.update rfl rfl rfl rfl (fun c hc => hkeep _ _ (h.created c hc))
    (fun u call' args' b hu => hkeep _ _ (h.locking u call' args' b hu)) ?_
  rintro _ _ _ ⟨rfl, rfl, rfl⟩
  exact Function.update_self ..

/-- **The locked section puts the call at the end of the list.** -/
theorem insert (h : LinedUp s) (hlt : s.registry.handleCounter < 2 ^ 31) {t call : ℕ} {args : α}
    {a : Address} (hpc : s.threads t = .locking call args a) :
    LinedUp ((s.insert call args a).setPc t (.returning (s.creation call args a))) := by
  have hnext := ClassRegistry.toNat_nextHandle hlt
  refine ⟨?_, fun i c hi => ?_, fun handle => ?_, ?_, fun u call' args' b hu => ?_,
    fun c hc => ?_⟩
  · change s.registry.handleCounter + 1 = (s.created ++ [s.creation call args a]).length
    rw [h.counter, List.length_append, List.length_singleton]
  · change (s.created ++ [s.creation call args a])[i]? = some c at hi
    rcases Nat.lt_trichotomy i s.created.length with hlow | rfl | hhigh
    · rw [List.getElem?_append_left hlow] at hi
      exact h.handle i c hi
    · rw [List.getElem?_concat_length, Option.some_inj] at hi
      rw [← hi, ← h.counter]
      exact hnext
    · rw [List.getElem?_eq_none (by simp; omega)] at hi
      cases hi
  · change (s.registry.create a).2.instances.lookup handle =
      ((s.created ++ [s.creation call args a])[handle.toNat]?).map Creation.instance_
    rw [h.numbered.lookup_create hlt]
    split
    · next heq =>
        rw [heq, hnext, h.counter, List.getElem?_concat_length]
        rfl
    · next hne =>
        have hval : handle.toNat ≠ s.created.length := fun heq =>
          hne (BitVec.eq_of_toNat_eq (by rw [hnext, heq, h.counter]))
        rw [List.getElem?_append, List.getElem?_singleton]
        rcases Nat.lt_or_gt_of_ne hval with hlow | hhigh
        · rw [if_pos hlow]
          exact h.pointer handle
        · rw [if_neg (by omega), if_neg (by omega)]
          refine (h.pointer handle).trans ?_
          rw [List.getElem?_eq_none (by omega)]
  · change (if s.registry.nextHandle ∈ s.registry.instances then _ else s.dropped) = []
    rw [if_neg (h.numbered.nextHandle_notMem hlt), h.dropped]
  · rcases update_cases hu with ⟨_, heq⟩ | ⟨_, hu⟩
    · cases heq
    · exact h.locking u call' args' b hu
  · rcases List.mem_append.1 hc with hc | hc
    · exact h.created c hc
    · rw [List.mem_singleton.1 hc]
      exact h.locking t call args a hpc

/-- A call that returns leaves its object to the registry. -/
theorem objects_return (h : LinedUp s) {c : Creation α} (hc : c ∈ s.created) :
    (s.return_ c).objects = s.objects :=
  if_pos (h.pointer_of_mem hc)

/-- **Every step keeps the registry lined up**, as long as the counter is in range. -/
theorem step (h : LinedUp s) (hpassed : PassedInv s) (hlt : s.registry.handleCounter < 2 ^ 31)
    (hstep : registryStep s e = some s') : LinedUp s' := by
  cases registryMove_of_step hstep with
  | create hpc => exact h.goOn rfl rfl rfl rfl rfl nofun
  | makeShared hpc hfree => exact h.makeShared hfree _ _ _
  | insert hpc => exact h.insert hlt hpc
  | returnHandle hpc =>
      have hobjects := h.objects_return ((hpassed _).2 (Or.inr ⟨_, hpc⟩))
      exact h.goOn rfl rfl rfl rfl hobjects nofun
  | getClassObjectByHandle hpc => exact h.goOn rfl rfl rfl rfl rfl nofun
  | find hpc => exact h.goOn rfl rfl rfl rfl rfl nofun
  | returnPointer hpc => exact h.goOn rfl rfl rfl rfl rfl nofun

end LinedUp

/-! ### Runs -/

/-- Only the locked section of `Create` raises the counter. -/
theorem handleCounter_step (hstep : registryStep s e = some s') :
    s'.registry.handleCounter = s.registry.handleCounter + if e.isInsert then 1 else 0 := by
  cases registryMove_of_step hstep <;> rfl

/-- No call leaves the list. -/
theorem created_step (hstep : registryStep s e = some s') : s.created <+: s'.created := by
  cases registryMove_of_step hstep with
  | insert hpc => exact List.prefix_append _ _
  | _ => exact List.prefix_rfl

/-- The counter counts the locked sections of `Create`. -/
theorem handleCounter_run {es : List (RegistryEvent α)} (hrun : run registryStep {} es = some s) :
    s.registry.handleCounter = es.countP RegistryEvent.isInsert := by
  refine invariant_history
    (I := fun (es : List (RegistryEvent α)) (s : RegistryThreads α) =>
      s.registry.handleCounter = es.countP RegistryEvent.isInsert) rfl ?_ hrun
  intro es e t t' _ hcount hstep
  rw [handleCounter_step hstep, hcount, List.countP_append, List.countP_singleton]

/-- Every run tells the calls apart. -/
theorem CallInv.run {es : List (RegistryEvent α)} (hrun : run registryStep {} es = some s) :
    CallInv s :=
  invariant_run (fun _ _ _ h hstep => h.step hstep) callInv_start hrun

/-- Every run keeps account of the calls. -/
theorem PassedInv.run {es : List (RegistryEvent α)} (h : PassedInv s)
    (hrun : run registryStep s es = some s') : PassedInv s' :=
  invariant_run (fun _ _ _ h hstep => h.step hstep) h hrun

/-- **Every run whose counter is in range keeps the registry lined up.** -/
theorem LinedUp.run {es : List (RegistryEvent α)} (h : LinedUp s) (hpassed : PassedInv s)
    (hrun : run registryStep s es = some s') (hlt : s'.registry.handleCounter < 2 ^ 31) :
    LinedUp s' := by
  have hinv : PassedInv s' ∧ (s'.registry.handleCounter < 2 ^ 31 → LinedUp s') := by
    refine invariant_run (I := fun t : RegistryThreads α =>
      PassedInv t ∧ (t.registry.handleCounter < 2 ^ 31 → LinedUp t)) ?_ ⟨hpassed, fun _ => h⟩ hrun
    intro t e t' ⟨hpassed', ht⟩ hstep
    refine ⟨hpassed'.step hstep, fun hlt' => ?_⟩
    have hraise := handleCounter_step hstep
    have hlow : t.registry.handleCounter < 2 ^ 31 := by omega
    exact (ht hlow).step hpassed' hlow hstep
  exact hinv.2 hlt

/-- **The threads agree with `ClassRegistry.create`**: however they take turns, the registry and the
handles are what the calls give one after another, in the order of their locked sections. -/
theorem create_linearizes {es : List (RegistryEvent α)}
    (hrun : run registryStep {} es = some s) :
    respond ClassRegistry.create {} (s.created.map Creation.instance_) =
      (s.created.map Creation.handle, s.registry) := by
  refine invariant_run
    (I := fun s : RegistryThreads α =>
      respond ClassRegistry.create {} (s.created.map Creation.instance_) =
        (s.created.map Creation.handle, s.registry)) ?_ rfl hrun
  intro t e t' ht hstep
  cases registryMove_of_step hstep with
  | insert hpc =>
      change respond _ _ ((t.created ++ [_]).map _) = ((t.created ++ [_]).map _, _)
      rw [List.map_append, List.map_append, List.map_singleton, respond_concat, ht]
      rfl
  | _ => exact ht

/-- No run takes a call off the list. -/
theorem created_run {es : List (RegistryEvent α)} (hrun : run registryStep s es = some s') :
    s.created <+: s'.created :=
  invariant_run (I := fun t => s.created <+: t.created)
    (fun _ _ _ h hstep => h.trans (created_step hstep)) List.prefix_rfl hrun

end Moves

/-- **Handles are fresh, and they are permanent.**  In every state that any number of threads reach
with fewer than `2 ^ 31` creations, the keys of the registry are `0, …, handleCounter - 1`; no entry
was dropped; the calls that have passed the locked section are those that have returned and those
that are about to, they are different calls, and distinct calls return distinct handles; a lookup
finds something exactly under the handles of these calls; and from then on the handle of a call
leads to the object that this call has made with its arguments. -/
theorem handles_fresh_and_permanent {α : Type} {es es' : List (RegistryEvent α)}
    {s s' : RegistryThreads α} (hrun : run registryStep {} es = some s)
    (hlater : run registryStep s es' = some s')
    (hcreates : (es ++ es').countP RegistryEvent.isInsert < 2 ^ 31) :
    (∀ h, h ∈ s'.registry.instances ↔ h.toNat < s'.registry.handleCounter) ∧
    s'.dropped = [] ∧
    (∀ c, c ∈ s'.created ↔ c ∈ s'.returned ∨ ∃ t, s'.threads t = .returning c) ∧
    (s'.created.map Creation.call).Nodup ∧
    (∀ c ∈ s'.created, ∀ d ∈ s'.created, c.call ≠ d.call → c.handle ≠ d.handle) ∧
    (∀ h, (s'.registry.objectPointer h).isSome ↔ ∃ c ∈ s'.created, c.handle = h) ∧
    ∀ c ∈ s.created, s'.registry.objectPointer c.handle = some c.instance_ ∧
      s'.objects c.instance_ = some (c.call, c.args) := by
  have hall : run registryStep {} (es ++ es') = some s' :=
    (run_append_eq_some registryStep).2 ⟨s, hrun, hlater⟩
  rw [← handleCounter_run hall] at hcreates
  have hlined : LinedUp s' := linedUp_start.run passedInv_start hall hcreates
  refine ⟨hlined.numbered, hlined.dropped, passedInv_start.run hall, (CallInv.run hall).created,
    fun c hc d hd hne heq => ?_, hlined.isSome_pointer_iff_mem, fun c hc => ?_⟩
  · rw [hlined.eq_of_handle_eq hc hd heq] at hne
    exact hne rfl
  · have hmem := (created_run hlater).subset hc
    exact ⟨hlined.pointer_of_mem hmem, hlined.created c hmem⟩

/-- Two calls of `Create` whose objects are made in one order and whose locked sections are passed
in the other. -/
def crossedCreations : List (RegistryEvent ℕ) :=
  [.create 0 5, .makeShared 0 70, .create 1 6, .makeShared 1 71, .insert 1, .insert 0]

/-- Both calls return, and a third thread looks the first handle up. -/
def returnsAndLookup : List (RegistryEvent ℕ) :=
  [.getClassObjectByHandle 2 0, .returnHandle 0, .returnHandle 1, .find 2]

/-- The call that passed the locked section first got the first handle, and its object is found. -/
theorem crossedCreations_fresh :
    ∃ s s' : RegistryThreads ℕ, run registryStep {} crossedCreations = some s ∧
      run registryStep s returnsAndLookup = some s' ∧
      s.created = [⟨1, 6, 71, 0⟩, ⟨0, 5, 70, 1⟩] ∧
      (∀ h, h ∈ s'.registry.instances ↔ h.toNat < s'.registry.handleCounter) ∧
      s'.threads 2 = .found 0 (some 71) ∧
      ∀ c ∈ s.created, s'.registry.objectPointer c.handle = some c.instance_ ∧
        s'.objects c.instance_ = some (c.call, c.args) := by
  have h := handles_fresh_and_permanent (rfl : run registryStep {} crossedCreations = some _)
    (rfl : run registryStep _ returnsAndLookup = some _) (by decide)
  exact ⟨_, _, rfl, rfl, rfl, h.1, rfl, h.2.2.2.2.2.2⟩

end NamedPipeDemo
