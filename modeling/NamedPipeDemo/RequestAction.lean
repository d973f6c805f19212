/-
**What a request asks for, and what the server does about it.**

The parsers of the server decide what a request means and carry it out at the same time, so a
statement about one of them is a statement about bytes, registry and response at once.  This module
separates the two halves.  *Decoding* reads the bytes and needs the registry only to know which
handles exist; *performing* changes the registry and builds the response and never sees a byte.
`NamedPipeDemo.RequestParser.parseRequest_eq` proves that the parsers of the source do exactly the
first and then the second.

Main definitions:

* `NamedPipeDemo.MethodCall`, `NamedPipeDemo.Action` — what a request can ask for;
* `NamedPipeDemo.decodeRequest` — **decoding**: the id and the action of a request;
* `NamedPipeDemo.Action.perform`, `NamedPipeDemo.Action.answer` — **performing**: the state and the
  response after an action.

Main results:

* `NamedPipeDemo.RequestParser.parseRequest_eq` — **the parsers decode and then perform**.
-/

import NamedPipeDemo.CustomClassParser

set_option relaxedAutoImplicit false
set_option autoImplicit false

namespace NamedPipeDemo

/-! ### Actions -/

/-- A method call with its arguments. -/
inductive MethodCall
  | printToCout
  | printToString
  | setIntegerValue (ival : CInt)
  | setStringValue (str : RawData)
  deriving DecidableEq, Repr

/-- What a request asks for. -/
inductive Action
  /-- Nothing the server understands, or a handle that does not exist. -/
  | reject
  /-- A plain value, which is only printed. -/
  | value
  | create (obj : CustomClass)
  | call (handle : ClassHandle) (c : MethodCall)
  /-- A method call without a readable name, or with an unknown one. -/
  | noMethod (handle : ClassHandle)
  | get (handle : ClassHandle)
  /-- A command that is neither a method call nor a request for the object. -/
  | ignore
  deriving DecidableEq, Repr

namespace MethodCall

def member : MethodCall → Member
  | printToCout => .printToCout
  | printToString => .printToString
  | setIntegerValue _ => .setIntegerValue
  | setStringValue _ => .setStringValue

/-- The object a call leaves behind. -/
def after : MethodCall → CustomClass → CustomClass
  | printToCout, c => c
  | printToString, c => c
  | setIntegerValue ival, c => { c with ival := ival }
  | setStringValue str, c => { c with str := str }

/-- The serialized return value; `PrintToCout` returns nothing. -/
def result (this : RawData) : MethodCall → CustomClass → RawData
  | printToCout, _ => []
  | printToString, c => serializeString (c.printToString this)
  | setIntegerValue ival, c => serializeBool (decide (ival ≠ c.ival))
  | setStringValue str, c => serializeBool (decide (str ≠ c.str))

/-- The method name the log mentions. -/
def loggedName : MethodCall → RawData
  | printToCout => kPrintToCoutMethodName
  | printToString => kPrintToStringMethodName
  | setIntegerValue _ => kSetIntegerValMethodName
  | setStringValue _ => kSetIntegerValMethodName

end MethodCall

namespace Action

/-- The state of the server after an action. -/
def perform : Action → ServerState → ServerState
  | create obj, w => { w with registry := (w.registry.create obj).2 }
  | call h c, w => w.called h c.member (c.after (w.object h))
  | get h, w => w.called h .serialize (w.object h)
  | _, w => w

/-- The flag `ParseRequest` returns and the response it fills in. -/
def answer (env : AddressText) (requestId : RequestId) :
    Action → ServerState → Bool × ServerResponse
  | reject, _ => (false, {})
  | value, _ => (true, {})
  | create _, w =>
      (true, { data := serializeInt w.registry.nextHandle
               callbacks := some (.onCreateClass requestId w.registry.nextHandle)
               requestId := requestId })
  | call h c, w =>
      (true, { data := c.result (env.text h) (w.object h)
               callbacks := some (.onMethodCall requestId h c.loggedName)
               requestId := requestId })
  | noMethod h, _ =>
      (true, { callbacks := some (.onMethodCall requestId h [])
               requestId := requestId })
  | get h, w =>
      (true, { data := serializeString (w.object h).serialize
               requestId := requestId })
  | ignore, _ => (true, { requestId := requestId })

/-- Every action but a rejection makes `ParseRequest` return `true`. -/
theorem answer_fst (env : AddressText) (id : RequestId) (a : Action) (w : ServerState) :
    (a.answer env id w).1 = true ↔ a ≠ .reject := by
  cases a <;> simp [answer]

end Action

/-! ### Decoding -/

/-- The object a create command asks for, if the bytes at `n` are one. -/
def decodeCreate (data : RawData) (n : ℕ) : Except Fault (Option CustomClass) := do
  if !(← hasKeyword data n (chr 'c')) then
    return none
  if data.length = n + 2 then
    return some {}
  let (ival, idx) ← parseInt data (n + 2)
  if ival.1 = false then
    return none
  if data.length = idx then
    return some { ival := ival.2 }
  let (str, idx) ← parseString data idx
  if str.1 = false then
    return none
  if data.length = idx then
    return some { ival := ival.2, str := str.2 }
  return none

/-- What the bytes at `k` say about a method call: a call, no method to call, or nothing that
stops the search, which goes on at an index. -/
inductive MethodView
  | call (c : MethodCall)
  | noMethod
  | other (idx : ℕ)
  deriving DecidableEq, Repr

/-- The method call the bytes at `k` ask for.  A setter whose argument cannot be parsed is not
taken for a method call, but the index stays behind its name. -/
def decodeMethod (data : RawData) (k : ℕ) : Except Fault MethodView := do
  if !(← hasKeyword data k (chr 'm')) then
    return .other k
  let (name, idx) ← parseString data (k + 2)
  if name.1 = false then
    return .noMethod
  if name.2 = kPrintToCoutMethodName then
    return .call .printToCout
  if name.2 = kPrintToStringMethodName then
    return .call .printToString
  if name.2 = kSetIntegerValMethodName then
    let (ival, idx) ← parseInt data idx
    return if ival.1 then .call (.setIntegerValue ival.2) else .other idx
  if name.2 = kSetStringValueMethodName then
    let (str, idx) ← parseString data idx
    return if str.1 then .call (.setStringValue str.2) else .other idx
  return .noMethod

/-- The action the bytes at `k` ask for, on the object registered under `handle`. -/
def decodeOn (handle : ClassHandle) (data : RawData) (k : ℕ) : Except Fault Action := do
  match ← decodeMethod data k with
  | .call c => return .call handle c
  | .noMethod => return .noMethod handle
  | .other idx =>
      if ← hasKeyword data idx (chr 'g') then
        return .get handle
      return .ignore

/-- The action of a command that names an object by the handle at `n`. -/
def decodeOnInstance (known : ClassHandle → Bool) (data : RawData) (n : ℕ) :
    Except Fault Action := do
  let (handle, k) ← parseInt data n
  if known handle.2 then
    decodeOn handle.2 data k
  else
    return .reject

/-- The action the bytes behind the class name ask for. -/
def decodeCommand (known : ClassHandle → Bool) (data : RawData) (n : ℕ) :
    Except Fault Action := do
  match ← decodeCreate data n with
  | some obj => return .create obj
  | none => decodeOnInstance known data n

/-- The action of a command that starts at `idx`. -/
def decodeClass (known : ClassHandle → Bool) (data : RawData) (idx : ℕ) :
    Except Fault Action := do
  let b ← readByte data idx
  if b ≠ chr '#' then
    return .reject
  let (name, idx) ← parseString data (idx + 1)
  if name.1 = false then
    return .reject
  if name.2 ≠ CustomClass.kClassName then
    return .reject
  decodeCommand known data idx

/-- The action of a request whose body starts at `idx`. -/
def decodeBody (known : ClassHandle → Bool) (data : RawData) (idx : ℕ) : Except Fault Action := do
  let (ival, idx) ← parseInt data idx
  if ival.1 then
    return .value
  let (dval, idx) ← parseDouble data idx
  if dval.1 then
    return .value
  let (sval, idx) ← parseString data idx
  if sval.1 then
    return .value
  decodeClass known data idx

/-- **The id and the action of a request**, given which handles exist. -/
def decodeRequest (known : ClassHandle → Bool) (data : RawData) :
    Except Fault (RequestId × Action) := do
  let (requestId, idx) ← parseRequestId data 0
  let action ← decodeBody known data idx
  return (requestId, action)

/-! ### The parsers decode and then perform -/

/-- The handles that exist. -/
def ServerState.known (w : ServerState) (h : ClassHandle) : Bool :=
  decide (h ∈ w.registry.instances)

theorem ServerState.known_eq_true {w : ServerState} {h : ClassHandle} :
    w.known h = true ↔ h ∈ w.registry.instances := decide_eq_true_iff

theorem run_callMember {α : Type} (h : ClassHandle) (m : Member)
    (f : CustomClass → α × CustomClass) (w : ServerState) :
    (callMember h m f).run w = .ok (f (w.object h)).1 (w.called h m (f (w.object h)).2) := rfl

namespace CustomClassParser

/-- **`ParseCreateClass` decodes a create command and creates the object.** -/
theorem parseCreateClass_eq (data : RawData) (n : ℕ) (w : ServerState) :
    (parseCreateClass data n).run w =
      match decodeCreate data n with
      | .error e => .error e w
      | .ok none => .ok (kInvalidHandlePair, n) w
      | .ok (some obj) =>
          .ok ((true, w.registry.nextHandle), data.length) ((Action.create obj).perform w) := by
  simp only [parseCreateClass, decodeCreate]
  cases hasKeyword data n (chr 'c') with
  | error e => rfl
  | ok b =>
      cases b with
      | false => rfl
      | true =>
          simp only [lift_ok_bind, ok_bind, Bool.not_true, Bool.false_eq_true, if_false]
          by_cases h₀ : data.length = n + 2
          · simp only [h₀, if_true]; rfl
          · simp only [h₀, if_false]
            cases parseInt data (n + 2) with
            | error e => rfl
            | ok i =>
                obtain ⟨⟨ok, ival⟩, idx⟩ := i
                cases ok with
                | false => rfl
                | true =>
                    simp only [lift_ok_bind, ok_bind, Bool.true_eq_false, if_false]
                    by_cases h₁ : data.length = idx
                    · simp only [h₁, if_true]; rfl
                    · simp only [h₁, if_false]
                      cases parseString data idx with
                      | error e => rfl
                      | ok s =>
                          obtain ⟨⟨ok, str⟩, idx⟩ := s
                          cases ok with
                          | false => rfl
                          | true =>
                              simp only [lift_ok_bind, ok_bind, Bool.true_eq_false, if_false]
                              by_cases h₂ : data.length = idx
                              · simp only [h₂, if_true]; rfl
                              · simp only [h₂, if_false]; rfl

/-- `ParseSetIntegerValueMethodCall` parses an `int` and calls the setter with it. -/
theorem parseSetIntegerValueMethodCall_eq (h : ClassHandle) (data : RawData) (k : ℕ)
    (w : ServerState) :
    (parseSetIntegerValueMethodCall h data k).run w =
      match parseInt data k with
      | .error e => .error e w
      | .ok ((false, _), idx) => .ok ((false, false), idx) w
      | .ok ((true, ival), idx) =>
          .ok ((true, decide (ival ≠ (w.object h).ival)), idx)
            ((Action.call h (.setIntegerValue ival)).perform w) := by
  simp only [parseSetIntegerValueMethodCall]
  cases parseInt data k with
  | error e => rfl
  | ok i =>
      obtain ⟨⟨ok, ival⟩, idx⟩ := i
      cases ok with
      | false => rfl
      | true =>
          simp only [lift_ok_bind, Bool.true_eq_false, if_false]
          rw [run_bind_of_ok (run_callMember h _ _ w), CustomClass.setIntegerValue_fst,
            CustomClass.setIntegerValue_snd]
          rfl

/-- `ParseSetStringValue` parses a string and calls the setter with it. -/
theorem parseSetStringValue_eq (h : ClassHandle) (data : RawData) (k : ℕ) (w : ServerState) :
    (parseSetStringValue h data k).run w =
      match parseString data k with
      | .error e => .error e w
      | .ok ((false, _), idx) => .ok ((false, false), idx) w
      | .ok ((true, str), idx) =>
          .ok ((true, decide (str ≠ (w.object h).str)), idx)
            ((Action.call h (.setStringValue str)).perform w) := by
  simp only [parseSetStringValue]
  cases parseString data k with
  | error e => rfl
  | ok s =>
      obtain ⟨⟨ok, str⟩, idx⟩ := s
      cases ok with
      | false => rfl
      | true =>
          simp only [lift_ok_bind, Bool.true_eq_false, if_false]
          rw [run_bind_of_ok (run_callMember h _ _ w), CustomClass.setStringValue_fst,
            CustomClass.setStringValue_snd]
          rfl

/-- **`ParseMethodCall` decodes a method call and makes it.** -/
theorem parseMethodCall_eq (env : AddressText) (h : ClassHandle) (data : RawData) (k : ℕ)
    (w : ServerState) :
    match decodeMethod data k with
    | .error e => (parseMethodCall env h data k).run w = .error e w
    | .ok (.call c) => ∃ idx, (parseMethodCall env h data k).run w =
        .ok ((true, c.result (env.text h) (w.object h), c.loggedName), idx)
          ((Action.call h c).perform w)
    | .ok .noMethod => ∃ idx, (parseMethodCall env h data k).run w = .ok ((true, [], []), idx) w
    | .ok (.other idx) => ∃ r, (parseMethodCall env h data k).run w = .ok ((false, r), idx) w := by
  simp only [parseMethodCall, decodeMethod, isMethodCall]
  cases hasKeyword data k (chr 'm') with
  | error e => rfl
  | ok b =>
      cases b with
      | false => exact ⟨_, rfl⟩
      | true =>
          simp only [lift_ok_bind, ok_bind, Bool.not_true, Bool.false_eq_true, if_false, pure,
            Except.pure, Bool.true_eq_false]
          cases parseString data (k + 2) with
          | error e => rfl
          | ok s =>
              obtain ⟨⟨ok, name⟩, idx⟩ := s
              cases ok with
              | false => exact ⟨_, rfl⟩
              | true =>
                  simp only [lift_ok_bind, ok_bind, Bool.true_eq_false, if_false]
                  by_cases h₁ : name = kPrintToCoutMethodName
                  · simp only [if_pos h₁]; exact ⟨_, rfl⟩
                  by_cases h₂ : name = kPrintToStringMethodName
                  · simp only [if_neg h₁, if_pos h₂]; exact ⟨_, rfl⟩
                  by_cases h₃ : name = kSetIntegerValMethodName
                  · simp only [if_neg h₁, if_neg h₂, if_pos h₃]
                    have hset := parseSetIntegerValueMethodCall_eq h data idx w
                    cases hp : parseInt data idx with
                    | error e =>
                        rw [hp] at hset
                        exact run_bind_of_error hset
                    | ok i =>
                        obtain ⟨⟨ok, ival⟩, idx'⟩ := i
                        rw [hp] at hset
                        cases ok with
                        | false => exact ⟨_, run_bind_of_ok hset⟩
                        | true => exact ⟨_, run_bind_of_ok hset⟩
                  by_cases h₄ : name = kSetStringValueMethodName
                  · simp only [if_neg h₁, if_neg h₂, if_neg h₃, if_pos h₄]
                    have hset := parseSetStringValue_eq h data idx w
                    cases hp : parseString data idx with
                    | error e =>
                        rw [hp] at hset
                        exact run_bind_of_error hset
                    | ok s =>
                        obtain ⟨⟨ok, str⟩, idx'⟩ := s
                        rw [hp] at hset
                        cases ok with
                        | false => exact ⟨_, run_bind_of_ok hset⟩
                        | true => exact ⟨_, run_bind_of_ok hset⟩
                  · simp only [if_neg h₁, if_neg h₂, if_neg h₃, if_neg h₄]; exact ⟨_, rfl⟩

/-- `ParseGetInstance` serializes the object when the keyword `#g` is there. -/
theorem parseGetInstance_eq (h : ClassHandle) (data : RawData) (k : ℕ) (w : ServerState) :
    (parseGetInstance h data k).run w =
      match hasKeyword data k (chr 'g') with
      | .error e => .error e w
      | .ok false => .ok ((false, []), k) w
      | .ok true => .ok ((true, serializeString (w.object h).serialize), k)
          ((Action.get h).perform w) := by
  simp only [parseGetInstance]
  cases hasKeyword data k (chr 'g') with
  | error e => rfl
  | ok b => cases b <;> rfl

/-- What `Parse` makes of a command: everything but the request id, which its caller fills in. -/
def reply (self : CustomClassParser) (env : AddressText) (a : Action) (w : ServerState) :
    Bool × ServerResponse :=
  let r := a.answer env self.requestId w
  (r.1, { r.2 with requestId := -1 })

/-- `GetClassInstaceFromRequest` looks the parsed handle up, and changes nothing. -/
theorem getClassInstaceFromRequest_eq (data : RawData) (n : ℕ) (w : ServerState) :
    (getClassInstaceFromRequest data n).run w =
      match parseInt data n with
      | .error e => .error e w
      | .ok ((_, h), k) => .ok ((h, if w.known h then some h else none), k) w := by
  simp only [getClassInstaceFromRequest]
  cases parseInt data n with
  | error e => rfl
  | ok i =>
      have hptr : w.registry.getClassObjectByHandle i.1.2 =
          if w.known i.1.2 then some i.1.2 else none := by
        simp only [ClassRegistry.getClassObjectByHandle, ServerState.known, decide_eq_true_eq]
      simp only [lift_ok_bind, ← hptr]
      rfl

/-- The second half of `Parse` finds the object and tries the method call and the request for the
object in turn. -/
theorem parseOnInstance_eq (self : CustomClassParser) (env : AddressText) (data : RawData) (n : ℕ)
    (w : ServerState) :
    match decodeOnInstance w.known data n with
    | .error e => (self.parseOnInstance env data n).run w = .error e w
    | .ok a => a ≠ .value ∧ ∃ idx, (self.parseOnInstance env data n).run w =
        .ok (self.reply env a w, idx) (a.perform w) := by
  have htarget := getClassInstaceFromRequest_eq data n w
  simp only [parseOnInstance, decodeOnInstance]
  cases hi : parseInt data n with
  | error e =>
      rw [hi] at htarget
      exact run_bind_of_error htarget
  | ok i =>
      obtain ⟨⟨_, h⟩, k⟩ := i
      rw [hi] at htarget
      simp only [ok_bind, run_bind_of_ok htarget]
      cases hknown : w.known h with
      | false => exact ⟨nofun, _, rfl⟩
      | true =>
          simp only [if_true, decodeOn]
          have hcall := parseMethodCall_eq env h data k w
          cases hm : decodeMethod data k with
          | error e =>
              rw [hm] at hcall
              exact run_bind_of_error hcall
          | ok v =>
              rw [hm] at hcall
              cases v with
              | call c =>
                  obtain ⟨idx, hcall⟩ := hcall
                  exact ⟨nofun, _, run_bind_of_ok hcall⟩
              | noMethod =>
                  obtain ⟨idx, hcall⟩ := hcall
                  exact ⟨nofun, _, run_bind_of_ok hcall⟩
              | other idx =>
                  obtain ⟨r, hcall⟩ := hcall
                  simp only [run_bind_of_ok hcall, ok_bind, Bool.false_eq_true, if_false]
                  have hget := parseGetInstance_eq h data idx w
                  cases hg : hasKeyword data idx (chr 'g') with
                  | error e =>
                      rw [hg] at hget
                      exact run_bind_of_error hget
                  | ok b =>
                      rw [hg] at hget
                      cases b with
                      | false => exact ⟨nofun, _, run_bind_of_ok hget⟩
                      | true => exact ⟨nofun, _, run_bind_of_ok hget⟩

/-- **`Parse` decodes a command and performs it.** -/
theorem parse_eq (self : CustomClassParser) (env : AddressText) {data : RawData} (hne : data ≠ [])
    (k : ℕ) (w : ServerState) :
    match decodeClass w.known data k with
    | .error e => (self.parse env data k).run w = .error e w
    | .ok a => a ≠ .value ∧ ∃ idx, (self.parse env data k).run w =
        .ok (self.reply env a w, idx) (a.perform w) := by
  have hempty : data.isEmpty = false := by simpa using hne
  simp only [parse, decodeClass, hempty, Bool.false_eq_true, if_false]
  cases readByte data k with
  | error e => rfl
  | ok b =>
      simp only [lift_ok_bind, ok_bind]
      by_cases hb : b ≠ chr '#'
      · simp only [if_pos hb]; exact ⟨nofun, _, rfl⟩
      simp only [if_neg hb]
      cases parseString data (k + 1) with
      | error e => rfl
      | ok s =>
          obtain ⟨⟨ok, name⟩, n⟩ := s
          cases ok with
          | false => exact ⟨nofun, _, rfl⟩
          | true =>
              simp only [lift_ok_bind, ok_bind, Bool.true_eq_false, if_false]
              by_cases hname : name ≠ CustomClass.kClassName
              · simp only [if_pos hname]; exact ⟨nofun, _, rfl⟩
              simp only [if_neg hname, decodeCommand]
              have hcreate := parseCreateClass_eq data n w
              cases hc : decodeCreate data n with
              | error e =>
                  rw [hc] at hcreate
                  exact run_bind_of_error hcreate
              | ok o =>
                  rw [hc] at hcreate
                  cases o with
                  | some obj => exact ⟨nofun, _, run_bind_of_ok hcreate⟩
                  | none =>
                      rw [run_bind_of_ok hcreate]
                      exact parseOnInstance_eq self env data n w

end CustomClassParser

/-- **`ParseRequest` decodes a request and performs it**; when decoding stops with a fault, the
state is the one before the request. -/
theorem RequestParser.parseRequest_eq (self : RequestParser) (env : AddressText)
    (data : RawData) (w : ServerState) :
    (self.parseRequest env data).run w =
      match decodeRequest w.known data with
      | .error e => .error e w
      | .ok (requestId, a) => .ok (a.answer env requestId w) (a.perform w) := by
  simp only [parseRequest, decodeRequest, decodeBody]
  cases parseRequestId data 0 with
  | error e => rfl
  | ok p =>
      obtain ⟨requestId, idx⟩ := p
      simp only [lift_ok_bind, ok_bind]
      cases hint : parseInt data idx with
      | error e => rfl
      | ok i =>
          -- an empty vector does not get past the first read
          have hne : data ≠ [] := by
            rintro rfl
            rw [parseInt_of_cut (Or.inl (Nat.zero_le _))] at hint
            cases hint
          obtain ⟨⟨ok, ival⟩, idx⟩ := i
          cases ok with
          | true => rfl
          | false =>
              simp only [lift_ok_bind, ok_bind, Bool.false_eq_true, if_false]
              cases parseDouble data idx with
              | error e => rfl
              | ok d =>
                  obtain ⟨⟨ok, dval⟩, idx⟩ := d
                  cases ok with
                  | true => rfl
                  | false =>
                      simp only [lift_ok_bind, ok_bind, Bool.false_eq_true, if_false]
                      cases parseString data idx with
                      | error e => rfl
                      | ok s =>
                          obtain ⟨⟨ok, sval⟩, idx⟩ := s
                          cases ok with
                          | true => rfl
                          | false =>
                              simp only [lift_ok_bind, ok_bind, Bool.false_eq_true, if_false]
                              have hparse := CustomClassParser.parse_eq
                                ⟨self.clientId, requestId⟩ env hne idx w
                              cases hd : decodeClass w.known data idx with
                              | error e =>
                                  rw [hd] at hparse
                                  exact run_bind_of_error hparse
                              | ok a =>
                                  rw [hd] at hparse
                                  obtain ⟨hvalue, idx', hparse⟩ := hparse
                                  rw [run_bind_of_ok hparse]
                                  cases a with
                                  | value => exact absurd rfl hvalue
                                  | _ => rfl

end NamedPipeDemo
