/-
**Which instances a request touches.**

A command on an object names it by a handle right behind the class name.  The server parses that
handle and uses its value without looking at the success flag, so a handle that is missing or
malformed is taken to be the default value of an `int`, zero.  Nothing comes of it as long as no
object is registered under zero; as soon as one is, the request is served on that object.

Main definitions:

* `NamedPipeDemo.Touches` — a request calls a member on an instance or modifies it;
* `NamedPipeDemo.HandleMissing` — a command that creates nothing and has no complete handle;
* `NamedPipeDemo.ExplicitHandle` — **a request touches only what it names, and is rejected when it
  names nothing**.

Main results:

* `NamedPipeDemo.explicitHandle_iff` — **the requests for which that holds**: those that do not
  fall back on an object registered under zero.
-/

import NamedPipeDemo.RequestGrammar

set_option relaxedAutoImplicit false
set_option autoImplicit false

namespace NamedPipeDemo

open Segment

/-! ### Definitions -/

/-- Between a registry whose calls are not recorded yet and the state `w`, a member was called on
the instance under `h`, or the instance was modified. -/
def Touches (registry : ClassRegistry CustomClass) (w : ServerState) (h : ClassHandle) : Prop :=
  (∃ m, (h, m) ∈ w.calls) ∨
    (h ∈ registry.instances ∧ w.registry.instances.lookup h ≠ registry.instances.lookup h)

/-- A command that creates no object and has no complete `int` right behind the class name.  A
create command that `ParseCreateClass` turns down is one: it goes on to the commands that need a
handle, and it has none. -/
def HandleMissing (data : RawData) (n : ℕ) : Prop :=
  (∃ id, CommandAt data id n) ∧ (∀ obj, decodeCreate data n ≠ .ok (some obj)) ∧
    ∀ h, ¬ HasAt data n (serializeInt h)

/-- **A request touches only the instance it names, and is rejected when it names none**: whatever
it touches is named by a complete `int` right behind the class name, and when that `int` is missing
or malformed `ParseRequest` does not return `true`, no member is called and the registry stays as
it is. -/
def ExplicitHandle (self : RequestParser) (env : AddressText)
    (registry : ClassRegistry CustomClass) (request : RawData) : Prop :=
  let r := (self.parseRequest env request).run { registry := registry }
  (∀ h, Touches registry (endState r) h →
      ∃ id n, CommandAt request id n ∧ HasAt request n (serializeInt h)) ∧
    (∀ n, HandleMissing request n →
      (∀ response w, r ≠ .ok (true, response) w) ∧ (endState r).calls = [] ∧
        (endState r).registry = registry)

/-- The request is taken to name the object registered under zero, and no parser stops. -/
def FallsBackOnZero (registry : ClassRegistry CustomClass) (request : RawData) : Prop :=
  (∃ n, HandleMissing request n) ∧ 0 ∈ registry.instances ∧
    ¬ ∃ e t j, Due (ServerState.known { registry := registry }) request t j ∧
      FieldFault e t request j

/-! ### What an action touches -/

section Perform

variable {registry : ClassRegistry CustomClass} {h : ClassHandle}

theorem touches_create (obj : CustomClass) :
    ¬ Touches registry ((Action.create obj).perform { registry := registry }) h := by
  rintro (⟨m, hm⟩ | ⟨hmem, hne⟩)
  · exact absurd hm List.not_mem_nil
  · refine hne ?_
    -- `insert` keeps what is there, and adds something else otherwise
    simp only [Action.perform, ClassRegistry.create]
    split
    · rfl
    next hfresh =>
      refine Finmap.lookup_insert_of_ne _ ?_
      rintro rfl
      exact hfresh hmem

theorem touches_called {h' : ClassHandle} {m : Member} {obj : CustomClass}
    (ht : Touches registry (ServerState.called { registry := registry } h' m obj) h) : h = h' := by
  rcases ht with ⟨m', hm⟩ | ⟨_, hne⟩
  · simp only [ServerState.called, List.mem_singleton, Prod.mk.injEq] at hm
    exact hm.1
  · by_contra hh
    exact hne (registry.lookup_assign_of_ne obj hh)

theorem not_touches_self : ¬ Touches registry { registry := registry } h := by
  rintro (⟨m, hm⟩ | ⟨_, hne⟩)
  · exact absurd hm List.not_mem_nil
  · exact hne rfl

/-- An action touches only the instance it is about. -/
theorem target_of_touches {a : Action}
    (ht : Touches registry (a.perform { registry := registry }) h) : a.target = some h := by
  cases a with
  | create obj => exact absurd ht (touches_create obj)
  | call h' c => rw [touches_called ht]; rfl
  | get h' => rw [touches_called ht]; rfl
  | _ => exact absurd ht not_touches_self

end Perform

/-! ### Requests -/

section Request

variable {known : ClassHandle → Bool} {request : RawData} {id : RequestId} {a : Action} {n : ℕ}

/-- Without a handle, the parsers look for the command right behind the class name. -/
theorem decodeOnInstance_of_handleMissing (hmissing : HandleMissing request n)
    (hd : decodeRequest known request = .ok (id, a)) :
    decodeOnInstance known request n = .ok a := by
  obtain ⟨⟨id', hcmd⟩, hcreate, -⟩ := hmissing
  have hdec := decodeCommand_of_decodeRequest hcmd hd
  rw [decodeCommand] at hdec
  cases hc : decodeCreate request n with
  | error e => rw [hc] at hdec; cases hdec
  | ok obj =>
      cases obj with
      | none => rw [hc] at hdec; exact hdec
      | some obj => exact absurd hc (hcreate obj)

/-- Without a handle, a request that decodes is rejected exactly when there is no object under
zero. -/
theorem eq_reject_iff_of_handleMissing (hmissing : HandleMissing request n)
    (hd : decodeRequest known request = .ok (id, a)) : a = .reject ↔ known 0 = false := by
  have hdec := decodeOnInstance_of_handleMissing hmissing hd
  have hcut : ¬ IntCut request n := fun hcut => by
    rw [decodeOnInstance_of_cut hcut] at hdec
    cases hdec
  rw [decodeOnInstance_of_targetAt (.default hmissing.2.2) hcut] at hdec
  cases hzero : known 0 with
  | false =>
      rw [hzero, if_neg Bool.false_ne_true, Except.ok.injEq] at hdec
      exact iff_of_true hdec.symm rfl
  | true =>
      rw [hzero, if_pos rfl] at hdec
      exact iff_of_false (decodeOn_cases hdec).1 Bool.noConfusion

/-- The instance a request is about is named by it, unless the request names none and there is an
object under zero. -/
theorem named_of_target {h : ClassHandle} (hsize : request.length ≤ maxSize)
    (hd : decodeRequest known request = .ok (id, a)) (htarget : a.target = some h)
    (hzero : (∃ n, HandleMissing request n) → known 0 = false) :
    ∃ id n, CommandAt request id n ∧ HasAt request n (serializeInt h) := by
  obtain ⟨n, k, hcmd, ht, _, hkey, hknown, _⟩ := request_target_cases hsize hd htarget
  cases ht with
  | explicit hval => exact ⟨id, n, hcmd, hval⟩
  | default hval =>
      have hcreate : ∀ obj, decodeCreate request n ≠ .ok (some obj) := fun obj hobj => by
        rw [decodeCreate_of_not hkey] at hobj
        cases hobj
      rw [hzero ⟨n, ⟨id, hcmd⟩, hcreate, hval⟩] at hknown
      cases hknown

end Request

/-- **A request touches only the instance it names, and is rejected when it names none, exactly
when it does not fall back on an object registered under zero.** -/
theorem explicitHandle_iff (self : RequestParser) (env : AddressText)
    (registry : ClassRegistry CustomClass) (request : RawDataType) :
    ExplicitHandle self env registry request.1 ↔ ¬ FallsBackOnZero registry request.1 := by
  have hfaults : (∃ e t j, Due (ServerState.known { registry := registry }) request.1 t j ∧
      FieldFault e t request.1 j) ↔
        ∃ e, decodeRequest (ServerState.known { registry := registry }) request.1 = .error e :=
    exists_congr fun e => (decodeRequest_eq_error_iff request.2).symm
  have hknown : ServerState.known { registry := registry } 0 = true ↔ 0 ∈ registry.instances :=
    ServerState.known_eq_true
  have hrun := self.parseRequest_eq env request.1 { registry := registry }
  rw [ExplicitHandle, FallsBackOnZero, hfaults, ← hknown]
  cases hd : decodeRequest (ServerState.known { registry := registry }) request.1 with
  | error e =>
      -- a parser that stops has touched nothing
      rw [hd] at hrun
      rw [hrun]
      refine ⟨fun _ hfall => hfall.2.2 ⟨e, rfl⟩, fun _ => ⟨fun h ht => ?_, fun n _ => ?_⟩⟩
      · exact absurd ht not_touches_self
      · exact ⟨nofun, rfl, rfl⟩
  | ok r =>
      obtain ⟨id, a⟩ := r
      rw [hd] at hrun
      simp only [hrun]
      constructor
      · rintro ⟨-, hreject⟩ ⟨⟨n, hmissing⟩, hzero, -⟩
        have hne : a ≠ .reject := fun heq => by
          rw [(eq_reject_iff_of_handleMissing hmissing hd).1 heq] at hzero
          cases hzero
        refine (hreject n hmissing).1
          (a.answer env id { registry := registry }).2 (a.perform { registry := registry }) ?_
        rw [← (Action.answer_fst env id a { registry := registry }).2 hne]
      · intro hno
        have hfall : (∃ n, HandleMissing request.1 n) →
            ServerState.known { registry := registry } 0 = false := fun hmissing =>
          Bool.eq_false_iff.2 fun hzero => hno ⟨hmissing, hzero, nofun⟩
        refine ⟨fun h ht => named_of_target request.2 hd (target_of_touches ht) hfall,
          fun n hmissing => ?_⟩
        have hreject := (eq_reject_iff_of_handleMissing hmissing hd).2 (hfall ⟨n, hmissing⟩)
        subst hreject
        exact ⟨nofun, rfl, rfl⟩

/-- A registry with one object. -/
def oneObject : ClassRegistry CustomClass := (ClassRegistry.create {} {}).2

/-- `#`, the class name, and `#g`: a request for an object without a handle. -/
def getWithoutHandle : RawDataType := ⟨createCustomClassRequest ++ ascii "#g", by decide⟩

/-- **A request without a handle is served on the object under zero.** -/
theorem get_without_handle_served :
    ¬ ∀ (self : RequestParser) (env : AddressText) (registry : ClassRegistry CustomClass)
      (request : RawDataType), ExplicitHandle self env registry request.1 := by
  intro h
  have hbody : BodyAt getWithoutHandle.1 (-1) 0 := .plain fun id hid => by
    have hr := (hasAt_createRequestIdData_iff.1 hid).1
    exact absurd hr (by decide)
  have hmissing : HandleMissing getWithoutHandle.1 24 :=
    ⟨⟨-1, 0, hbody, by decide, rfl⟩, fun obj => by
        rw [decodeCreate_of_not (by decide), ne_eq, Except.ok.injEq]
        exact (Option.some_ne_none obj).symm,
      fun v hv => absurd (hasAt_cons_iff.1 hv).1 (by decide)⟩
  exact ((h ⟨0⟩ default oneObject getWithoutHandle).2 24 hmissing).1 _ _ rfl

end NamedPipeDemo
