/-
**The registry over whole runs: every change is acknowledged, every failure is atomic.**

The server handles one message after the other, and every message may be malformed.  A message can
make the parser give up half-way, be read past its end, or raise an exception; whatever happens,
the registry the next message finds is the one this message left behind.  This module follows the
registry through such runs.

Main definitions:

* `NamedPipeDemo.Incoming`, `NamedPipeDemo.serverStep` — the messages as labels of a machine;
* `NamedPipeDemo.RegistryInv` — **the invariant**: the handles are numbered without a gap, and no
  string is longer than a message;
* `NamedPipeDemo.RegistryChange` — the three ways in which a registry can change.

Main results:

* `NamedPipeDemo.registryInv_reaches` — every reachable registry satisfies the invariant;
* `NamedPipeDemo.requests_acknowledged` — **a message that is not answered changes nothing; one that
  is answered changes one thing, and the answer is accepted by the client.**
-/

import NamedPipeDemo.LabelledRuns
import NamedPipeDemo.ResponseParser

set_option relaxedAutoImplicit false
set_option autoImplicit false

namespace NamedPipeDemo

open Segment LabelledRuns

/-! ### Messages -/

/-- The size of the buffer into which `Server::HandleClientConnection` reads. -/
def kBuffSize : ℕ := 4096

/-- A message: the client it comes from, and its bytes. -/
structure Incoming where
  clientId : ℕ
  data : RawData

/-- A message that fits the buffer is parsed; the state stays as the parser leaves it, even when
the parser is stopped. -/
def serverStep (env : AddressText) (w : ServerState) (m : Incoming) : Option ServerState :=
  if m.data.length ≤ kBuffSize then
    some (endState (((RequestParser.mk m.clientId).parseRequest env m.data).run w))
  else none

/-- **The handles are numbered without a gap, and no string is longer than a message.** -/
structure RegistryInv (r : ClassRegistry CustomClass) : Prop where
  numbered : r.Numbered
  short : ∀ h obj, r.instances.lookup h = some obj → obj.str.length ≤ kBuffSize

theorem le_maxSize_of_le {data : RawData} (h : data.length ≤ kBuffSize) :
    data.length ≤ maxSize := by
  rw [kBuffSize] at h
  rw [maxSize]
  omega

/-! ### The invariant -/

theorem registryInv_empty : RegistryInv {} where
  numbered := ClassRegistry.numbered_empty
  short h obj hl := by
    rw [show ({} : ClassRegistry CustomClass).instances.lookup h = none from rfl] at hl
    cases hl

section Invariant

variable {w : ServerState} {h : ClassHandle}

/-- A known handle has an object. -/
theorem ServerState.lookup_object (hk : w.known h = true) :
    w.registry.instances.lookup h = some (w.object h) := by
  obtain ⟨obj, hobj⟩ := Option.isSome_iff_exists.1
    (Finmap.lookup_isSome.2 (ServerState.known_eq_true.1 hk))
  rw [ServerState.object, hobj]
  rfl

/-- A call that leaves the object as it is leaves the registry as it is. -/
theorem ServerState.registry_called_self (hk : w.known h = true) (m : Member) :
    (w.called h m (w.object h)).registry = w.registry :=
  ClassRegistry.assign_self (w.lookup_object hk)

theorem RegistryInv.create (hw : RegistryInv w.registry)
    (hlt : w.registry.handleCounter < 2 ^ 31) {obj : CustomClass}
    (hobj : obj.str.length ≤ kBuffSize) : RegistryInv (w.registry.create obj).2 where
  numbered := hw.numbered.create hlt obj
  short h' obj' hl := by
    rw [hw.numbered.lookup_create hlt] at hl
    split at hl
    · cases hl
      exact hobj
    · exact hw.short h' obj' hl

theorem RegistryInv.assign (hw : RegistryInv w.registry) (hk : w.known h = true)
    {obj : CustomClass} (hobj : obj.str.length ≤ kBuffSize) :
    RegistryInv (w.registry.assign h obj) where
  numbered := hw.numbered.assign (ServerState.known_eq_true.1 hk) obj
  short h' obj' hl := by
    by_cases hh : h' = h
    · subst hh
      rw [ClassRegistry.lookup_assign_self] at hl
      cases hl
      exact hobj
    · rw [ClassRegistry.lookup_assign_of_ne _ _ hh] at hl
      exact hw.short h' obj' hl

/-- **Every action a message can ask for keeps the invariant.** -/
theorem RegistryInv.perform {a : Action} (hw : RegistryInv w.registry)
    (hlt : w.registry.handleCounter < 2 ^ 31)
    (hknown : ∀ h, a.target = some h → w.known h = true)
    (hshort : a.storedString.length ≤ kBuffSize) : RegistryInv (a.perform w).registry := by
  cases a with
  | create obj => exact hw.create hlt hshort
  | call h c =>
      have hk := hknown h rfl
      have hold := hw.short h _ (w.lookup_object hk)
      cases c with
      | setStringValue str => exact hw.assign hk hshort
      | _ => exact hw.assign hk hold
  | get h =>
      have hk := hknown h rfl
      exact hw.assign hk (hw.short h _ (w.lookup_object hk))
  | _ => exact hw

end Invariant

/-- What a message that decodes asks for: its handle exists, and its string fits the buffer
together with the class name and at least eight bytes more. -/
theorem action_of_decodeRequest {w : ServerState} {request : RawData} {id : RequestId}
    {a : Action} (hlen : request.length ≤ kBuffSize)
    (hd : decodeRequest w.known request = .ok (id, a)) :
    (∀ h, a.target = some h → w.known h = true ∧
        ∃ n k, CommandAt request id n ∧ TargetAt request n h k ∧ ¬ IntCut request n) ∧
      a.storedString.length ≤ kBuffSize - 32 := by
  constructor
  · intro h htarget
    obtain ⟨n, k, hcmd, ht, hcut, _, hknown, _⟩ :=
      request_target_cases (le_maxSize_of_le hlen) hd htarget
    exact ⟨hknown, n, k, hcmd, ht, hcut⟩
  · rcases (decodeRequest_cases (le_maxSize_of_le hlen) hd).2 with rfl | rfl | ⟨n, hcmd, hdec⟩
    · exact Nat.zero_le _
    · exact Nat.zero_le _
    · have hstored := length_storedString_le (le_maxSize_of_le hlen) hdec
      obtain ⟨b, _, _, rfl⟩ := hcmd
      omega

/-- The state a message leaves behind: the state after its action, or the old state. -/
theorem endState_parseRequest (self : RequestParser) (env : AddressText) (request : RawData)
    (w : ServerState) :
    endState ((self.parseRequest env request).run w) =
      match decodeRequest w.known request with
      | .error _ => w
      | .ok (_, a) => a.perform w := by
  rw [self.parseRequest_eq]
  cases decodeRequest w.known request with
  | error e => rfl
  | ok r => rfl

theorem handleCounter_le_perform (a : Action) (w : ServerState) :
    w.registry.handleCounter ≤ (a.perform w).registry.handleCounter := by
  cases a with
  | create obj => exact Nat.le_succ _
  | _ => exact Nat.le_refl _

/-- **Every reachable registry satisfies the invariant**, as long as the counter has not left the
range of an `int`. -/
theorem registryInv_reaches {env : AddressText} {w : ServerState}
    (h : Reaches (serverStep env) {} w) (hlt : w.registry.handleCounter < 2 ^ 31) :
    RegistryInv w.registry := by
  refine invariant_reaches (I := fun w : ServerState =>
    w.registry.handleCounter < 2 ^ 31 → RegistryInv w.registry) ?_ (fun _ => registryInv_empty)
    h hlt
  intro w m w' ih hstep hlt'
  rw [serverStep] at hstep
  split at hstep
  · next hlen =>
      rw [Option.some_inj, endState_parseRequest] at hstep
      cases hd : decodeRequest w.known m.data with
      | error e =>
          rw [hd] at hstep
          subst hstep
          exact ih hlt'
      | ok r =>
          obtain ⟨id, a⟩ := r
          rw [hd] at hstep
          subst hstep
          have hcounter := (handleCounter_le_perform a w).trans_lt hlt'
          obtain ⟨htarget, hshort⟩ := action_of_decodeRequest hlen hd
          exact (ih hcounter).perform hcounter (fun h ht => (htarget h ht).1)
            (hshort.trans (Nat.sub_le _ _))
  · cases hstep

/-! ### What a message leaves behind -/

section Serve

variable {env : AddressText} {w : ServerState} {a : Action} {h : ClassHandle} {n : ℕ}

/-- No action makes a handle disappear. -/
theorem Action.known_perform (hk : w.known h = true) : (a.perform w).known h = true := by
  rw [ServerState.known_eq_true] at hk ⊢
  cases a with
  | create obj =>
      simp only [perform, ClassRegistry.create]
      split
      · exact hk
      · exact Finmap.mem_insert.2 (Or.inr hk)
  | call h' c => exact Finmap.mem_insert.2 (Or.inr hk)
  | get h' => exact Finmap.mem_insert.2 (Or.inr hk)
  | _ => exact hk

/-- The handle a response carries exists when the response is sent. -/
theorem Action.known_of_responseValue (hv : a.responseValue env w = some (.int h)) :
    (a.perform w).known h = true := by
  rw [ServerState.known_eq_true]
  cases a with
  | create obj =>
      cases hv
      simp only [perform, ClassRegistry.create]
      split
      · assumption
      · exact Finmap.mem_insert.2 (Or.inl rfl)
  | call h' c => cases c <;> cases hv
  | get h' => cases hv
  | _ => cases hv

/-- No string on the server is longer than `n`. -/
def ServerState.StringsWithin (n : ℕ) (w : ServerState) : Prop :=
  ∀ h, (w.object h).str.length ≤ n

theorem ServerState.stringsWithin_start (n : ℕ) : ({} : ServerState).StringsWithin n := fun h => by
  rw [object, show ({} : ServerState).registry.instances.lookup h = none from rfl]
  exact Nat.zero_le _

theorem ServerState.StringsWithin.called (hw : w.StringsWithin n) (h : ClassHandle) (m : Member)
    {obj : CustomClass} (hobj : obj.str.length ≤ n) : (w.called h m obj).StringsWithin n := by
  intro h'
  have hold := hw h'
  rw [ServerState.object] at hold ⊢
  by_cases hh : h' = h
  · rw [hh, ServerState.called, ClassRegistry.lookup_assign_self]
    exact hobj
  · rwa [ServerState.called, ClassRegistry.lookup_assign_of_ne _ _ hh]

/-- An action that stores no longer string keeps the bound. -/
theorem ServerState.StringsWithin.perform (hw : w.StringsWithin n)
    (ha : a.storedString.length ≤ n) : (a.perform w).StringsWithin n := by
  cases a with
  | create obj =>
      intro h'
      have hold := hw h'
      rw [ServerState.object] at hold ⊢
      simp only [Action.perform, ClassRegistry.create]
      split
      · exact hold
      · by_cases hh : h' = w.registry.nextHandle
        · rw [hh, Finmap.lookup_insert]
          exact ha
        · rwa [Finmap.lookup_insert_of_ne _ hh]
  | call h c =>
      cases c with
      | setStringValue str => exact hw.called h _ ha
      | _ => exact hw.called h _ (hw h)
  | get h => exact hw.called h _ (hw h)
  | _ => exact hw

/-- The value of a response that is not a printed form is at most 17 bytes longer than the longest
string. -/
theorem ServerState.StringsWithin.length_response_le_of_ne_print (hw : w.StringsWithin n)
    {v : AnyValue} (hv : a.responseValue env w = some v)
    (hprint : ∀ h, a ≠ .call h .printToString) : v.serialize.length ≤ n + 17 := by
  cases a with
  | create obj =>
      cases hv
      rw [AnyValue.serialize, length_serializeInt]
      omega
  | call h c =>
      cases c with
      | printToCout => cases hv
      | printToString => exact absurd rfl (hprint h)
      | setIntegerValue ival =>
          cases hv
          rw [AnyValue.serialize, length_serializeBool]
          omega
      | setStringValue str =>
          cases hv
          rw [AnyValue.serialize, length_serializeBool]
          omega
  | get h =>
      have hobj := hw h
      cases hv
      rw [AnyValue.serialize, length_serializeString, CustomClass.length_serialize]
      omega
  | _ => cases hv

/-- The value of a response is at most 92 bytes longer than the longest string. -/
theorem ServerState.StringsWithin.length_response_le (hw : w.StringsWithin n) {v : AnyValue}
    (hv : a.responseValue env w = some v) : v.serialize.length ≤ n + 92 := by
  by_cases hprint : ∃ h, a = .call h .printToString
  · obtain ⟨h, rfl⟩ := hprint
    have hobj := hw h
    cases hv
    have hlen := (w.object h).length_printToString_le (env.length_le h)
    rw [AnyValue.serialize, length_serializeString]
    omega
  · have hlen := hw.length_response_le_of_ne_print hv (not_exists.1 hprint)
    omega

/-- A value whose encoding is not too long is short. -/
theorem AnyValue.short_of_length (v : AnyValue) (h : v.serialize.length < 2 ^ 31) : v.Short := by
  cases v with
  | string value =>
      rw [serialize, length_serializeString] at h
      show value.length < 2 ^ 31
      omega
  | _ => trivial

/-- No message stores a longer string than its size allows. -/
theorem ServerState.StringsWithin.serverStep {w' : ServerState} {m : Incoming}
    (hn : kBuffSize - 32 ≤ n) (hw : w.StringsWithin n)
    (hstep : NamedPipeDemo.serverStep env w m = some w') : w'.StringsWithin n := by
  rw [NamedPipeDemo.serverStep] at hstep
  split at hstep
  swap
  · cases hstep
  next hlen =>
  rw [Option.some_inj, endState_parseRequest] at hstep
  cases hd : decodeRequest w.known m.data with
  | error e =>
      rw [hd] at hstep
      exact hstep ▸ hw
  | ok r =>
      obtain ⟨id, a⟩ := r
      rw [hd] at hstep
      exact hstep ▸ hw.perform ((action_of_decodeRequest hlen hd).2.trans hn)

/-- The response to a request that decodes is valid exactly when the action has a value to send. -/
theorem Action.isValid_answer (env : AddressText) (id : RequestId) (a : Action) (w : ServerState) :
    (a.answer env id w).2.isValid = (a.responseValue env w).isSome := by
  have hsnd := a.answer_snd env id w
  cases hv : a.responseValue env w with
  | some v =>
      rw [hv] at hsnd
      exact hsnd.2.2
  | none =>
      rw [hv] at hsnd
      exact hsnd

/-- **One round of the server**: a request that decodes is performed, and what its action answers is
written back. -/
theorem handleClientRequest_eq (c : ℕ) (env : AddressText) (data : RawData) (w : ServerState) :
    (handleClientRequest c env data).run w =
      match decodeRequest w.known data with
      | .error e => .error e w
      | .ok (id, a) =>
          .ok ((a.responseValue env w).map fun v => createRequestIdData id ++ v.serialize)
            (a.perform w) := by
  have hrun := (RequestParser.mk c).parseRequest_eq env data w
  cases hd : decodeRequest w.known data with
  | error e =>
      rw [hd] at hrun
      exact run_bind_of_error hrun
  | ok r =>
      obtain ⟨id, a⟩ := r
      rw [hd] at hrun
      have hsnd := a.answer_snd env id w
      rw [handleClientRequest, run_bind_of_ok hrun]
      generalize a.answer env id w = r at hsnd ⊢
      obtain ⟨flag, response⟩ := r
      cases hv : a.responseValue env w with
      | some v =>
          rw [hv] at hsnd
          obtain ⟨hdata, hid, hvalid⟩ := hsnd
          simp only at hdata hid hvalid
          simp only [hvalid, if_true, ServerResponse.dataToSend, hdata, hid, hv]
          rfl
      | none =>
          rw [hv] at hsnd
          simp only at hsnd
          simp only [hsnd, Bool.false_eq_true, if_false, hv]
          rfl

end Serve

/-! ### One message -/

/-- How a registry changes when `resolved` tells which handles the message resolved: not at all, by
one entry at the old counter, or in one field of one instance. -/
inductive RegistryChange (resolved : ClassHandle → Prop) (r r' : ClassRegistry CustomClass) : Prop
  | unchanged (same : r' = r)
  | created (obj : CustomClass) (fresh : r.nextHandle ∉ r.instances)
      (handle : r.nextHandle.toNat = r.handleCounter)
      (counter : r'.handleCounter = r.handleCounter + 1)
      (entries : r'.instances = r.instances.insert r.nextHandle obj)
  | ivalSet {h : ClassHandle} {obj : CustomClass} (ival : CInt) (target : resolved h)
      (old : r.instances.lookup h = some obj) (differs : ival ≠ obj.ival)
      (new : r' = r.assign h { obj with ival := ival })
  | strSet {h : ClassHandle} {obj : CustomClass} (str : RawData) (target : resolved h)
      (old : r.instances.lookup h = some obj) (differs : str ≠ obj.str)
      (new : r' = r.assign h { obj with str := str })

/-- `GetClassInstaceFromRequest`, called behind the class name, resolves this handle. -/
def Resolves (w : ServerState) (request : RawData) (h : ClassHandle) : Prop :=
  ∃ id n k, CommandAt request id n ∧
    (CustomClassParser.getClassInstaceFromRequest request n).run w = .ok ((h, some h), k) w

theorem resolves_of_targetAt {w : ServerState} {request : RawData} {id : RequestId} {n k : ℕ}
    {h : ClassHandle} (hcmd : CommandAt request id n) (ht : TargetAt request n h k)
    (hcut : ¬ IntCut request n) (hk : w.known h = true) : Resolves w request h := by
  obtain ⟨ok, hi⟩ := parseInt_of_targetAt ht hcut
  refine ⟨id, n, k, hcmd, ?_⟩
  rw [CustomClassParser.getClassInstaceFromRequest_eq, hi]
  simp only [hk, if_true]

/-- **An action changes the registry in one of the three ways.** -/
theorem RegistryInv.change {w : ServerState} {resolved : ClassHandle → Prop} {a : Action}
    (hw : RegistryInv w.registry) (hlt : w.registry.handleCounter < 2 ^ 31)
    (hknown : ∀ h, a.target = some h → w.known h = true)
    (hresolved : ∀ h, a.target = some h → resolved h) :
    RegistryChange resolved w.registry (a.perform w).registry := by
  cases a with
  | create obj =>
      have hfresh := hw.numbered.nextHandle_notMem hlt
      refine .created obj hfresh (ClassRegistry.toNat_nextHandle hlt) rfl ?_
      simp only [Action.perform, ClassRegistry.create, if_neg hfresh]
  | call h c =>
      have hk := hknown h rfl
      cases c with
      | setIntegerValue ival =>
          by_cases hne : ival = (w.object h).ival
          · refine .unchanged ?_
            rw [hne]
            exact ServerState.registry_called_self hk _
          · exact .ivalSet ival (hresolved h rfl) (w.lookup_object hk) hne rfl
      | setStringValue str =>
          by_cases hne : str = (w.object h).str
          · refine .unchanged ?_
            rw [hne]
            exact ServerState.registry_called_self hk _
          · exact .strSet str (hresolved h rfl) (w.lookup_object hk) hne rfl
      | _ => exact .unchanged (ServerState.registry_called_self hk _)
  | get h => exact .unchanged (ServerState.registry_called_self (hknown h rfl) _)
  | _ => exact .unchanged rfl

/-- An action without a value to send back leaves the registry as it is. -/
theorem Action.registry_perform_of_none (env : AddressText) {w : ServerState} {a : Action}
    (hknown : ∀ h, a.target = some h → w.known h = true)
    (hnone : a.responseValue env w = none) : (a.perform w).registry = w.registry := by
  cases a with
  | create obj => cases hnone
  | call h c =>
      cases c with
      | printToCout => exact ServerState.registry_called_self (hknown h rfl) _
      | _ => cases hnone
  | get h => cases hnone
  | _ => rfl

/-- The value of a response is short, because the strings of the registry are. -/
theorem RegistryInv.short_responseValue {env : AddressText} {w : ServerState} {a : Action}
    {v : AnyValue} (hw : RegistryInv w.registry) (hv : a.responseValue env w = some v) :
    v.Short := by
  have hstrings : w.StringsWithin kBuffSize := fun h => by
    rw [ServerState.object]
    cases hl : w.registry.instances.lookup h with
    | none => exact Nat.zero_le _
    | some obj => exact hw.short h obj hl
  have hlen := hstrings.length_response_le hv
  rw [kBuffSize] at hlen
  exact v.short_of_length (by omega)

/-- **Every failure is atomic**: an action that is refused, or whose response is not valid, leaves
the registry as it is. -/
theorem Action.registry_of_unanswered (env : AddressText) (id : RequestId) {w : ServerState}
    {a : Action} (hknown : ∀ h, a.target = some h → w.known h = true)
    (h : (a.answer env id w).1 = false ∨ (a.answer env id w).2.isValid = false) :
    (a.perform w).registry = w.registry := by
  refine registry_perform_of_none env hknown ?_
  rcases h with hrefused | hinvalid
  · have hreject : a = .reject := by
      by_contra hne
      rw [(a.answer_fst env id w).2 hne] at hrefused
      cases hrefused
    rw [hreject]
    rfl
  · rw [a.isValid_answer env id w] at hinvalid
    exact Option.isNone_iff_eq_none.1 (by rw [← Option.not_isSome, hinvalid]; rfl)

/-- **A valid response is accepted**: it carries the id of its request, and the client delivers its
value under that id. -/
theorem RegistryInv.accepted_answer (env : AddressText) {w : ServerState} {request : RawData}
    {id : RequestId} {a : Action} (hw : RegistryInv w.registry)
    (hlen : request.length ≤ kBuffSize) (hd : decodeRequest w.known request = .ok (id, a))
    (hvalid : (a.answer env id w).2.isValid = true) :
    (∃ idx, parseRequestId request 0 = .ok ((a.answer env id w).2.requestId, idx)) ∧
      ∃ v, Delivers (a.answer env id w).2.dataToSend (a.answer env id w).2.requestId v := by
  rw [a.isValid_answer env id w] at hvalid
  obtain ⟨v, hv⟩ := Option.isSome_iff_exists.1 hvalid
  obtain ⟨_, hid, hdel⟩ := Action.delivers_answer id hv (hw.short_responseValue hv)
  obtain ⟨⟨b, _, hparse⟩, _⟩ := decodeRequest_cases (le_maxSize_of_le hlen) hd
  rw [hid]
  exact ⟨⟨b, hparse⟩, v, hdel⟩

/-- **Every change is acknowledged, and every failure is atomic.**  From a registry that messages
have led to, one more message: when `ParseRequest` returns `false`, or its response is not valid,
or it is stopped, the registry is as before; in any case it changes in one of three ways; and a
valid response carries the id of the message and, framed, is accepted by the client, which delivers
it under that id. -/
theorem requests_acknowledged (env : AddressText) (w : ServerState)
    (hreach : Reaches (serverStep env) {} w) (hlt : w.registry.handleCounter < 2 ^ 31)
    (self : RequestParser) (request : RawData) (hlen : request.length ≤ kBuffSize) :
    (∀ w', ((∃ response, (self.parseRequest env request).run w = .ok (false, response) w') ∨
        (∃ flag response, (self.parseRequest env request).run w = .ok (flag, response) w' ∧
          response.isValid = false) ∨
        (∃ e, (self.parseRequest env request).run w = .error e w')) → w'.registry = w.registry) ∧
    RegistryChange (Resolves w request) w.registry
      (endState ((self.parseRequest env request).run w)).registry ∧
    (∀ flag response w', (self.parseRequest env request).run w = .ok (flag, response) w' →
      response.isValid = true →
      (∃ idx, parseRequestId request 0 = .ok (response.requestId, idx)) ∧
      ∃ v, Delivers response.dataToSend response.requestId v) := by
  have hw := registryInv_reaches hreach hlt
  have hrun := self.parseRequest_eq env request w
  cases hd : decodeRequest w.known request with
  | error e =>
      simp only [hd] at hrun
      rw [hrun]
      refine ⟨?_, .unchanged rfl, nofun⟩
      rintro w' (⟨response, h⟩ | ⟨flag, response, h, _⟩ | ⟨e', h⟩) <;> cases h
      rfl
  | ok r =>
      obtain ⟨id, a⟩ := r
      simp only [hd] at hrun
      obtain ⟨htarget, _⟩ := action_of_decodeRequest hlen hd
      have hknown := fun h ht => (htarget h ht).1
      rw [hrun]
      refine ⟨?_, ?_, ?_⟩
      · rintro w' (⟨response, h⟩ | ⟨flag, response, h, hinvalid⟩ | ⟨e', h⟩)
        · rw [EStateM.Result.ok.injEq] at h
          rw [← h.2]
          exact a.registry_of_unanswered env id hknown (Or.inl (by rw [h.1]))
        · rw [EStateM.Result.ok.injEq] at h
          rw [← h.2]
          exact a.registry_of_unanswered env id hknown (Or.inr (by rw [h.1]; exact hinvalid))
        · cases h
      · exact hw.change hlt hknown fun h ht =>
          let ⟨hk, _, _, hcmd, ht, hcut⟩ := htarget h ht
          resolves_of_targetAt hcmd ht hcut hk
      · intro flag response w' h hvalid
        rw [EStateM.Result.ok.injEq] at h
        have haccepted := hw.accepted_answer env hlen hd (by rw [h.1]; exact hvalid)
        rw [h.1] at haccepted
        exact haccepted

/-- The message that creates an object. -/
def createMessage : Incoming := ⟨0, createCustomClassRequest ++ ascii "#c"⟩

/-- The message that sets the integer of the object under zero to five, sent as request one. -/
def setMessage : RawData :=
  createRequestIdData 1 ++ (createCustomClassRequest ++ (serializeInt 0 ++ (ascii "#m" ++
    (serializeString kSetIntegerValMethodName ++ serializeInt 5))))

/-- After the first message the second one changes one field, or nothing. -/
theorem setMessage_acknowledged :
    RegistryChange (Resolves ((Action.create {}).perform {}) setMessage)
      ((Action.create {}).perform {}).registry
      (endState (((RequestParser.mk 0).parseRequest default setMessage).run
        ((Action.create {}).perform {}))).registry := by
  have hreach : Reaches (serverStep default) {} ((Action.create {}).perform {}) :=
    Reaches.single (i := createMessage) rfl
  exact (requests_acknowledged default _ hreach (by decide) ⟨0⟩ setMessage (by decide)).2.1

end NamedPipeDemo
