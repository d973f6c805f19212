/-
**The demos, as the server takes them.**

Whether a request waits for a response is decided on the client, demo by demo; whether a response
is sent is decided on the server, action by action.  Nothing in the protocol ties the two together.
This module goes through the demos and shows that the two decisions agree: each demo is decoded to
one action, the action has a value to send back exactly when the demo waits for one, and the value
has the type its callback casts to.

Main definitions:

* `NamedPipeDemo.Expects` — a request expects this value, or none;
* `NamedPipeDemo.Understood` — the server takes a request for an action whose answers it expects.

Main results:

* `NamedPipeDemo.decodeRequest_value` — plain values are taken for plain values;
* `NamedPipeDemo.DemoSimulator.readRequest_understood` — **every request of a `DemoSimulator` is
  understood.**
-/

import NamedPipeDemo.ObjectStore

set_option relaxedAutoImplicit false
set_option autoImplicit false

namespace NamedPipeDemo

open Segment

/-! ### Plain values -/

section Value

variable {known : ClassHandle → Bool} {data : RawData} {b : ℕ}

/-- The types of value a request can be. -/
def AnyValue.isBool : AnyValue → Bool
  | bool _ => true
  | _ => false

theorem decodeBody_of_valueAt {v : AnyValue} (hv : v.isBool = false) (h : ValueAt data b v) :
    decodeBody known data b = .ok .value := by
  cases h with
  | bool h => cases hv
  | int h =>
      rw [decodeBody, parseInt_of_hasAt h]
      rfl
  | double h =>
      rw [decodeBody, parseInt_of_ne (hasAt_cons_iff.1 h).1 (by decide)]
      simp only [ok_bind, Bool.false_eq_true, if_false, parseDouble_of_hasAt h]
      rfl
  | string h =>
      have htag := (hasAt_cons_iff.1 h.2).1
      rw [decodeBody_of_ne htag (by decide) (by decide), parseString_of_stringAt h]
      rfl

/-- **A framed plain value is taken for a plain value.** -/
theorem decodeRequest_value (known : ClassHandle → Bool) (id : RequestId) {v : AnyValue}
    (hv : v.isBool = false) (hshort : v.Short) :
    decodeRequest known (frameRequest id v.serialize) = .ok (id, .value) := by
  obtain ⟨hframe, hbody⟩ := hasAt_frameRequest id v.serialize
  have hid := (hasAt_createRequestIdData_iff.1 hframe).2
  rw [decodeRequest_of_bodyAt (.framed hframe) fun _ => not_intCut_of_hasAt hid,
    decodeBody_of_valueAt hv (valueAt_of_hasAt hshort hbody)]
  rfl

end Value

/-! ### Requests and their answers -/

/-- A request that waits expects a value its callback casts to; the others expect nothing. -/
def Expects (request : ClientRequest DemoCallback) : Option AnyValue → Prop
  | some v => request.waitForResponse = true ∧
      ∃ callback, request.successCallback = some callback ∧ callback.Casts v
  | none => request.waitForResponse = false

/-- The longest string a demo writes. -/
def kDemoStringSize : ℕ := 23

/-- **The server takes the request for this action**, whatever else happens on the server, the
request expects what the action answers, and its callback returns on the answer of a server whose
strings are those of the demos. -/
structure Understood (request : ClientRequest DemoCallback) (a : Action) : Prop where
  decodes : ∀ known id, (∀ h, a.target = some h → known h = true) →
    decodeRequest known (frameRequest id request.data) = .ok (id, a)
  expects : ∀ env w, Expects request (a.responseValue env w)
  returns : ∀ env w v callback, w.StringsWithin kDemoStringSize →
    a.responseValue env w = some v → request.successCallback = some callback →
      callback.returns v = true
  fits : request.data.length + 7 ≤ kBuffSize
  short : a.storedString.length ≤ kDemoStringSize

/-- A request that does not wait is not answered. -/
theorem Understood.responseValue_of_silent {request : ClientRequest DemoCallback} {a : Action}
    (h : Understood request a) (hwait : request.waitForResponse = false) (env : AddressText)
    (w : ServerState) : a.responseValue env w = none := by
  have hexpects := h.expects env w
  cases hv : a.responseValue env w with
  | none => rfl
  | some v =>
      rw [hv] at hexpects
      rw [hexpects.1] at hwait
      cases hwait

/-- A request that waits is answered with a value it expects. -/
theorem Understood.responseValue_of_waiting {request : ClientRequest DemoCallback} {a : Action}
    (h : Understood request a) (hwait : request.waitForResponse = true) (env : AddressText)
    (w : ServerState) : ∃ v, a.responseValue env w = some v ∧ Expects request (some v) := by
  have hexpects := h.expects env w
  cases hv : a.responseValue env w with
  | none =>
      rw [hv, Expects, hwait] at hexpects
      cases hexpects
  | some v =>
      rw [hv] at hexpects
      exact ⟨v, rfl, hexpects⟩

theorem length_createCallMethodRequest (h : ClassHandle) (name : RawData) (args : List AnyValue) :
    (createCallMethodRequest h name args).length =
      37 + name.length + (serializeArguments args).length := by
  have hkey : (ascii "#m").length = 2 := rfl
  simp only [createCallMethodRequest, List.length_append, length_serializeInt,
    length_serializeString, length_createCustomClassRequest, hkey]
  omega

theorem length_createRetrieveInstanceRequest (h : ClassHandle) :
    (createRetrieveInstanceRequest h).length = 31 := by
  have hkey : (ascii "#g").length = 2 := rfl
  simp only [createRetrieveInstanceRequest, List.length_append, length_serializeInt,
    length_createCustomClassRequest, hkey]

theorem understood_value {v : AnyValue} (hv : v.isBool = false) (hshort : v.Short)
    (hlen : v.serialize.length + 7 ≤ kBuffSize) : Understood { data := v.serialize } .value where
  decodes known id _ := decodeRequest_value known id hv hshort
  expects _ _ := rfl
  returns _ _ _ _ _ hv _ := by cases hv
  fits := hlen
  short := Nat.zero_le _

theorem understood_create {c : Command} {obj : CustomClass}
    (haction : ∀ known, c.action known = .create obj) (hshort : c.argument.length < 2 ^ 31)
    (hlen : c.encode.length + 7 ≤ kBuffSize) (hobj : obj.str.length ≤ kDemoStringSize) :
    Understood { data := c.encode, waitForResponse := true,
                 successCallback := some .onCustomClassCreation } (.create obj) where
  decodes known id _ := by rw [decodeRequest_encode known id hshort, haction]
  expects _ _ := ⟨rfl, _, rfl, trivial⟩
  returns _ _ _ _ _ _ hcallback := by
    cases hcallback
    exact DemoCallback.returns_of_ne fun _ => DemoCallback.noConfusion
  fits := hlen
  short := hobj

/-- A command on an object is taken for its action where the object exists. -/
theorem understood_onObject {c : Command} {a : Action} {h : ClassHandle}
    {request : ClientRequest DemoCallback} (hdata : request.data = c.encode)
    (htarget : a.target = some h) (haction : ∀ known, known h = true → c.action known = a)
    (hstored : a.storedString = c.argument) (hshort : c.argument.length ≤ kDemoStringSize)
    (hlen : c.encode.length + 7 ≤ kBuffSize)
    (hexpects : ∀ env w, Expects request (a.responseValue env w))
    (hreturns : ∀ env w v callback, w.StringsWithin kDemoStringSize →
      a.responseValue env w = some v → request.successCallback = some callback →
        callback.returns v = true) : Understood request a where
  decodes known id hknown := by
    rw [hdata, decodeRequest_encode known id (hshort.trans_lt (by decide)),
      haction known (hknown h htarget)]
  expects := hexpects
  returns := hreturns
  fits := by rwa [hdata]
  short := by rwa [hstored]

/-! ### The demos -/

namespace DemoSimulator

/-- A demo that needs no handle is understood, if it is not empty. -/
theorem plainDemo_understood (demoIndex : ℤ) :
    (plainDemo demoIndex).data = [] ∨
      ∃ a, Understood (plainDemo demoIndex) a ∧ a.target = none := by
  unfold plainDemo
  split
  · exact Or.inr ⟨_, understood_value (v := .int 42) rfl trivial (by decide), rfl⟩
  · exact Or.inr ⟨_, understood_value (v := .double 0xc0ac94506a2b1705#64) rfl trivial
      (by decide), rfl⟩
  · refine Or.inr ⟨_, understood_value (v := .string (ascii "loli PoPq !@??zz z '\\ ~")) rfl ?_
      (by decide), rfl⟩
    show (ascii "loli PoPq !@??zz z '\\ ~").length < 2 ^ 31
    decide
  · exact Or.inr ⟨_, understood_create (c := .create) (fun _ => rfl) (by decide) (by decide)
      (by decide), rfl⟩
  · exact Or.inr ⟨_, understood_create (c := .createInt 52) (fun _ => rfl) (by decide) (by decide)
      (by decide), rfl⟩
  · exact Or.inr ⟨_, understood_create (c := .createIntString 52 (ascii "Hello World"))
      (fun _ => rfl) (by decide) (by decide) (by decide), rfl⟩
  · exact Or.inl rfl

/-- A demo on an object is understood. -/
theorem handleDemo_understood {demoIndex : ℤ} {h : ClassHandle}
    {request : ClientRequest DemoCallback} (hdemo : handleDemo demoIndex h = some request) :
    ∃ a, Understood request a ∧ a.target = some h := by
  unfold handleDemo at hdemo
  split at hdemo
  · cases hdemo
    exact ⟨_, understood_onObject (c := .printToCout h) rfl rfl (fun _ hk => if_pos hk) rfl
      (Nat.zero_le _) (by rw [Command.encode, length_createCallMethodRequest]; decide)
      (fun _ _ => rfl) (fun _ _ _ _ _ hv _ => by cases hv), rfl⟩
  · cases hdemo
    exact ⟨_, understood_onObject (c := .printToString h) rfl rfl (fun _ hk => if_pos hk) rfl
      (Nat.zero_le _) (by rw [Command.encode, length_createCallMethodRequest]; decide)
      (fun _ _ => ⟨rfl, _, rfl, trivial⟩) (fun _ _ _ _ _ _ hcallback => by
        cases hcallback
        exact DemoCallback.returns_of_ne fun _ => DemoCallback.noConfusion), rfl⟩
  · cases hdemo
    exact ⟨_, understood_onObject (c := .setIntegerValue h 750) rfl rfl (fun _ hk => if_pos hk) rfl
      (Nat.zero_le _) (by rw [Command.encode, length_createCallMethodRequest]; decide)
      (fun _ _ => ⟨rfl, _, rfl, trivial⟩) (fun _ _ _ _ _ _ hcallback => by
        cases hcallback
        exact DemoCallback.returns_of_ne fun _ => DemoCallback.noConfusion), rfl⟩
  · cases hdemo
    exact ⟨_, understood_onObject (c := .setStringValue h (ascii "Hello World From Client")) rfl rfl
      (fun _ hk => if_pos hk) rfl (Nat.le_refl 23)
      (by rw [Command.encode, length_createCallMethodRequest]; decide)
      (fun _ _ => ⟨rfl, _, rfl, trivial⟩) (fun _ _ _ _ _ _ hcallback => by
        cases hcallback
        exact DemoCallback.returns_of_ne fun _ => DemoCallback.noConfusion), rfl⟩
  · cases hdemo
    exact ⟨_, understood_onObject (c := .getInstance h) rfl rfl (fun _ hk => if_pos hk) rfl
      (Nat.zero_le _) (by rw [Command.encode, length_createRetrieveInstanceRequest]; decide)
      (fun _ _ => ⟨rfl, _, rfl, trivial⟩) (fun _ w _ _ hw hv _ => by
        cases hv
        -- the server has serialized the object itself
        exact DemoCallback.returns_serialize ((hw h).trans_lt (by decide))), rfl⟩
  · cases hdemo

/-- A handle that is chosen is one of the repository, or the invalid one. -/
theorem getClassHandleAtRandom_mem {rand : ℕ} {repository : ClassRepository}
    (h : getClassHandleAtRandom rand repository ≠ kInvalidClassHandle) :
    getClassHandleAtRandom rand repository ∈ repository := by
  rw [getClassHandleAtRandom] at h ⊢
  split at h
  · exact absurd rfl h
  · next hne =>
      have hlt : rand % repository.length < repository.length :=
        Nat.mod_lt _ (Nat.pos_of_ne_zero hne)
      rw [if_neg hne, List.getElem?_eq_getElem hlt]
      exact List.getElem_mem hlt

/-- **Every request of a `DemoSimulator` is empty, or understood** and about an object whose handle
is in the repository. -/
theorem readRequest_understood (sim : DemoSimulator) (input : DemoInput)
    (repository : ClassRepository) :
    (sim.readRequest input repository).1.data = [] ∨
      ∃ a, Understood (sim.readRequest input repository).1 a ∧
        ∀ h, a.target = some h → h ∈ repository := by
  simp only [readRequest]
  split
  · next request hdemo =>
      split
      · exact Or.inl rfl
      · next hvalid =>
          obtain ⟨a, ha, htarget⟩ := handleDemo_understood hdemo
          refine Or.inr ⟨a, ha, fun h hh => ?_⟩
          rw [htarget, Option.some.injEq] at hh
          rw [← hh]
          exact getClassHandleAtRandom_mem hvalid
  · rcases plainDemo_understood (sim.getDemoIndex input) with hempty | ⟨a, ha, htarget⟩
    · exact Or.inl hempty
    · refine Or.inr ⟨a, ha, fun h hh => ?_⟩
      rw [htarget] at hh
      cases hh

end DemoSimulator

end NamedPipeDemo
