/-
**Bytes behind the last argument of a command.**

Three kinds of command change the registry: the creation of an object, and the two setters.
`ParseCreateClass` has three argument lists to choose from, and takes one only if it ends where the
message ends.  The two setters read their argument and make the call; neither looks at what stands
behind it.

So a message is carried out exactly as it is encoded, except when it is a setter with more bytes
than its argument needs: those bytes are dropped, the setter is called all the same, and the
request is answered with what the setter returns.

Main definitions:

* `NamedPipeDemo.CreateEnds`, `NamedPipeDemo.SetterEnds` — where the last argument of a creation and
  of a setter ends;
* `NamedPipeDemo.ArgumentsEnd` — **the request is this command, and its last argument ends here**;
* `NamedPipeDemo.MatchesEncoding` — nothing is changed and no setter is called, except as a command
  asks for whose last argument ends the message;
* `NamedPipeDemo.TrailingSetter` — a setter with bytes behind its argument.

Main results:

* `NamedPipeDemo.decodeCreate_eq_some_iff` — **a creation is decoded exactly when its arguments end
  the message**;
* `NamedPipeDemo.decodeMethod_eq_setter_iff` — a setter is decoded wherever its argument ends;
* `NamedPipeDemo.matchesEncoding_iff` — **a request matches its encoding to the last byte unless it
  is a setter with bytes behind its argument.**
-/

import NamedPipeDemo.Backtracking
import NamedPipeDemo.ServerRuns

set_option relaxedAutoImplicit false
set_option autoImplicit false

namespace NamedPipeDemo

open Segment

/-! ### Where the last argument ends -/

/-- The bytes at `n` are the keyword `#c` and the arguments of a constructor that makes `obj`; the
last of them ends at the last index. -/
inductive CreateEnds (data : RawData) (n : ℕ) : CustomClass → ℕ → Prop
  | none (hkey : HasAt data n [chr '#', chr 'c']) : CreateEnds data n {} (n + 2)
  | int {ival : CInt} (hkey : HasAt data n [chr '#', chr 'c'])
      (hival : HasAt data (n + 2) (serializeInt ival)) :
      CreateEnds data n { ival := ival } (n + 7)
  | intString {ival : CInt} {str : RawData} (hkey : HasAt data n [chr '#', chr 'c'])
      (hival : HasAt data (n + 2) (serializeInt ival)) (hstr : StringAt data (n + 7) str) :
      CreateEnds data n { ival := ival, str := str } (n + 13 + str.length)

/-- The bytes at `k` are the call of a setter; its argument ends at the last index. -/
inductive SetterEnds (data : RawData) (k : ℕ) : MethodCall → ℕ → Prop
  | int {ival : CInt} (hkey : HasAt data k [chr '#', chr 'm'])
      (hname : HasAt data (k + 2) (serializeString kSetIntegerValMethodName))
      (hival : HasAt data (k + 23) (serializeInt ival)) :
      SetterEnds data k (.setIntegerValue ival) (k + 28)
  | string {str : RawData} (hkey : HasAt data k [chr '#', chr 'm'])
      (hname : HasAt data (k + 2) (serializeString kSetStringValueMethodName))
      (hstr : StringAt data (k + 22) str) :
      SetterEnds data k (.setStringValue str) (k + 28 + str.length)

namespace MethodCall

/-- The call is that of a setter. -/
def isSetter : MethodCall → Bool
  | setIntegerValue _ => true
  | setStringValue _ => true
  | _ => false

end MethodCall

/-- **The request is this command, and its last argument ends here**, in a state in which the
handles `known` exist. -/
inductive ArgumentsEnd (known : ClassHandle → Bool) (data : RawData) : Action → ℕ → Prop
  | create {id : RequestId} {n : ℕ} {obj : CustomClass} {e : ℕ} (hcmd : CommandAt data id n)
      (hends : CreateEnds data n obj e) : ArgumentsEnd known data (.create obj) e
  | setter {id : RequestId} {n : ℕ} {h : ClassHandle} {k : ℕ} {c : MethodCall} {e : ℕ}
      (hcmd : CommandAt data id n) (ht : TargetAt data n h k) (hknown : known h = true)
      (hends : SetterEnds data k c e) : ArgumentsEnd known data (.call h c) e

section Ends

variable {known : ClassHandle → Bool} {data : RawData} {n k e e' : ℕ} {obj : CustomClass}
  {c c' : MethodCall} {h : ClassHandle}

theorem CreateEnds.hasKeyword (hends : CreateEnds data n obj e) :
    HasAt data n [chr '#', chr 'c'] := by
  cases hends with
  | none hkey => exact hkey
  | int hkey _ => exact hkey
  | intString hkey _ _ => exact hkey

theorem SetterEnds.isSetter (hends : SetterEnds data k c e) : c.isSetter = true := by
  cases hends with
  | int _ _ _ => rfl
  | string _ _ _ => rfl

/-- A setter has one end. -/
theorem SetterEnds.unique (hends : SetterEnds data k c e) (hends' : SetterEnds data k c e') :
    e = e' := by
  cases hends <;> cases hends' <;> rfl

/-- The argument of a setter ends within the message. -/
theorem SetterEnds.le_length (hends : SetterEnds data k c e) : e ≤ data.length := by
  cases hends with
  | int _ _ hival =>
      have hle := hival.length_le (serializeInt_ne_nil _)
      rw [length_serializeInt] at hle
      omega
  | string _ _ hstr =>
      have hle := hstr.2.length_le (serializeString_ne_nil _)
      rw [length_serializeString] at hle
      omega

/-- **A creation is decoded exactly when its arguments end the message**, whichever of the three
argument lists it has. -/
theorem decodeCreate_eq_some_iff (hsize : data.length ≤ maxSize) :
    decodeCreate data n = .ok (some obj) ↔ CreateEnds data n obj data.length := by
  constructor
  · intro hd
    by_cases hkey : HasAt data n [chr '#', chr 'c']
    swap
    · rw [decodeCreate_of_not hkey] at hd
      cases hd
    rw [decodeCreate, hasKeyword_of_hasAt hkey] at hd
    simp only [ok_bind, Bool.not_true, Bool.false_eq_true, if_false] at hd
    split at hd
    · next hlen =>
        cases hd
        exact hlen ▸ .none hkey
    obtain ⟨i, hi, hd⟩ := bind_eq_ok_iff.1 hd
    rcases parseInt_eq_ok_iff.1 hi with ⟨ival, hival, rfl⟩ | ⟨_, _, rfl⟩
    swap
    · cases hd
    simp only [Bool.true_eq_false, if_false] at hd
    split at hd
    · next hlen =>
        cases hd
        rw [hlen]
        exact .int hkey hival
    obtain ⟨s, hs, hd⟩ := bind_eq_ok_iff.1 hd
    rcases (parseString_eq_ok_iff hsize).1 hs with ⟨str, hstr, rfl⟩ | ⟨_, _, _, rfl⟩
    swap
    · cases hd
    simp only [Bool.true_eq_false, if_false] at hd
    split at hd
    · next hlen =>
        cases hd
        have hend : data.length = n + 13 + str.length := by omega
        rw [hend]
        exact .intString hkey hival hstr
    · cases hd
  · intro hends
    have hkey := hends.hasKeyword
    generalize hlen : data.length = len at hends
    rw [decodeCreate, hasKeyword_of_hasAt hkey]
    simp only [ok_bind, Bool.not_true, Bool.false_eq_true, if_false, hlen]
    cases hends with
    | none _ => rw [if_pos rfl]; rfl
    | int _ hival =>
        rw [if_neg (by omega), parseInt_of_hasAt hival]
        simp only [ok_bind, Bool.true_eq_false, if_false, if_true]
        rfl
    | @intString ival str _ hival hstr =>
        rw [if_neg (by omega), parseInt_of_hasAt hival]
        simp only [ok_bind, Bool.true_eq_false, if_false]
        rw [if_neg (by omega), parseString_of_stringAt hstr]
        simp only [ok_bind, Bool.true_eq_false, if_false, if_true]
        rfl

/-- **A setter is decoded wherever its argument ends.** -/
theorem decodeMethod_eq_setter_iff (hsize : data.length ≤ maxSize) (hc : c.isSetter = true) :
    decodeMethod data k = .ok (.call c) ↔ ∃ e, SetterEnds data k c e := by
  constructor
  · intro hd
    by_cases hkey : HasAt data k [chr '#', chr 'm']
    swap
    · rw [decodeMethod_of_not hkey] at hd
      cases hd
    rcases decodeMethod_cases hsize hkey hd with ⟨c', heq, hname⟩ | hno | ⟨_, hno, _⟩
    · cases heq
      have harg := argumentAt_of_decodeMethod hsize hkey hname hd
      cases c with
      | setIntegerValue ival => exact ⟨_, .int hkey hname harg⟩
      | setStringValue str => exact ⟨_, .string hkey hname harg⟩
      | _ => cases hc
    · cases hno
    · cases hno
  · rintro ⟨e, hends⟩
    cases hends with
    | int hkey hname hival =>
        rw [decodeMethod_of_setIntegerValue hkey hname, parseInt_of_hasAt hival]
        rfl
    | string hkey hname hstr =>
        rw [decodeMethod_of_setStringValue hkey hname, parseString_of_stringAt hstr]
        rfl

/-- **A command is decoded when its last argument ends the message**, and a setter wherever it
ends. -/
theorem ArgumentsEnd.decodeRequest (hsize : data.length ≤ maxSize) {a : Action}
    (hends : ArgumentsEnd known data a e) (hlast : a.target = none → e = data.length) :
    ∃ id, NamedPipeDemo.decodeRequest known data = .ok (id, a) := by
  cases hends with
  | @create id n obj _ hcmd hends =>
      cases hlast rfl
      have hcreate := (decodeCreate_eq_some_iff hsize).2 hends
      exact ⟨id, (decodeRequest_eq_create_iff hsize).2 ⟨n, hcmd, hcreate⟩⟩
  | @setter id n h k c _ hcmd ht hknown hends =>
      have hm := (decodeMethod_eq_setter_iff hsize hends.isSetter).2 ⟨e, hends⟩
      exact ⟨id, (decodeRequest_eq_call_iff hsize).2 ⟨n, k, hcmd, ht, hknown, hm⟩⟩

/-- What is decoded as a creation has its last argument at the end of the message. -/
theorem argumentsEnd_of_create (hsize : data.length ≤ maxSize) {id : RequestId}
    (hd : decodeRequest known data = .ok (id, .create obj)) :
    ArgumentsEnd known data (.create obj) data.length := by
  obtain ⟨n, hcmd, hcreate⟩ := (decodeRequest_eq_create_iff hsize).1 hd
  exact .create hcmd ((decodeCreate_eq_some_iff hsize).1 hcreate)

/-- What is decoded as a setter has its argument within the message. -/
theorem argumentsEnd_of_setter (hsize : data.length ≤ maxSize) {id : RequestId}
    (hd : decodeRequest known data = .ok (id, .call h c)) (hc : c.isSetter = true) :
    ∃ e ≤ data.length, ArgumentsEnd known data (.call h c) e := by
  obtain ⟨n, k, hcmd, ht, hknown, hm⟩ := (decodeRequest_eq_call_iff hsize).1 hd
  obtain ⟨e, hends⟩ := (decodeMethod_eq_setter_iff hsize hc).1 hm
  exact ⟨e, hends.le_length, .setter hcmd ht hknown hends⟩

/-- The only calls with an argument are those of setters. -/
theorem ArgumentsEnd.isSetter (hends : ArgumentsEnd known data (.call h c) e) :
    c.isSetter = true := by
  cases hends with
  | setter _ _ _ hset => exact hset.isSetter

/-- The argument of a setter ends in one place. -/
theorem ArgumentsEnd.unique (hends : ArgumentsEnd known data (.call h c) e)
    (hends' : ArgumentsEnd known data (.call h c) e') : e = e' := by
  cases hends with
  | setter hcmd ht _ hset =>
      cases hends' with
      | setter hcmd' ht' _ hset' =>
          cases hcmd.unique hcmd'
          cases (ht.unique ht').2
          exact hset.unique hset'

end Ends

/-! ### What a request changes -/

/-- The member is a setter. -/
def Member.isSetter : Member → Bool
  | .setIntegerValue => true
  | .setStringValue => true
  | _ => false

/-- The calls of setters made so far, newest first. -/
def ServerState.setterCalls (w : ServerState) : List (ClassHandle × Member) :=
  w.calls.filter fun call => call.2.isSetter

/-- **The request matches its encoding to the last byte**: it changes nothing and no setter is
called, or what happens is exactly what a command asks for whose last argument ends the message. -/
def MatchesEncoding (self : RequestParser) (env : AddressText) (w : ServerState)
    (data : RawData) : Prop :=
  let w' := endState ((self.parseRequest env data).run w)
  (w'.registry = w.registry ∧ w'.setterCalls = w.setterCalls) ∨
    ∃ a, ArgumentsEnd w.known data a data.length ∧ w' = a.perform w

/-- **The request is a setter of an object that exists, with bytes behind its argument.** -/
def TrailingSetter (w : ServerState) (data : RawData) : Prop :=
  ∃ h c e, ArgumentsEnd w.known data (.call h c) e ∧ e < data.length

section Changes

variable {w : ServerState} {data : RawData} {a : Action}

@[simp] theorem MethodCall.isSetter_member (c : MethodCall) : c.member.isSetter = c.isSetter := by
  cases c <;> rfl

/-- A call stands in front of the calls of setters if it is one. -/
theorem ServerState.setterCalls_called (w : ServerState) (h : ClassHandle) (m : Member)
    (obj : CustomClass) :
    (w.called h m obj).setterCalls =
      if m.isSetter then (h, m) :: w.setterCalls else w.setterCalls := by
  rw [setterCalls, called, List.filter_cons]
  rfl

/-- A setter that is called is one more. -/
theorem MethodCall.setterCalls_perform_ne {h : ClassHandle} {c : MethodCall}
    (hc : c.isSetter = true) :
    ((Action.call h c).perform w).setterCalls ≠ w.setterCalls := by
  intro heq
  have hlen := congrArg List.length heq
  rw [Action.perform, ServerState.setterCalls_called, c.isSetter_member, if_pos hc,
    List.length_cons] at hlen
  omega

/-- **An action that changes the registry or calls a setter** makes an object, or is the call of a
setter. -/
theorem Action.changes_cases (hknown : ∀ h, a.target = some h → w.known h = true) :
    ((a.perform w).registry = w.registry ∧ (a.perform w).setterCalls = w.setterCalls) ∨
      (∃ obj, a = .create obj) ∨ ∃ h c, a = .call h c ∧ c.isSetter = true := by
  cases a with
  | create obj => exact Or.inr (Or.inl ⟨obj, rfl⟩)
  | call h c =>
      cases hc : c.isSetter with
      | true => exact Or.inr (Or.inr ⟨h, c, rfl, hc⟩)
      | false =>
          have hself := ServerState.registry_called_self (hknown h rfl) c.member
          refine Or.inl ⟨?_, ?_⟩
          · -- the other methods leave the object as it is
            cases c with
            | printToCout => exact hself
            | printToString => exact hself
            | setIntegerValue _ => cases hc
            | setStringValue _ => cases hc
          · rw [Action.perform, ServerState.setterCalls_called, c.isSetter_member, hc,
              if_neg Bool.false_ne_true]
  | get h =>
      exact Or.inl ⟨ServerState.registry_called_self (hknown h rfl) _,
        ServerState.setterCalls_called _ _ _ _⟩
  | _ => exact Or.inl ⟨rfl, rfl⟩

/-- The target of a request that decodes exists. -/
theorem known_of_decodeRequest (hsize : data.length ≤ maxSize) {id : RequestId}
    (hd : decodeRequest w.known data = .ok (id, a)) :
    ∀ h, a.target = some h → w.known h = true := by
  intro h htarget
  obtain ⟨_, _, _, _, _, _, hknown, _⟩ := request_target_cases hsize hd htarget
  exact hknown

/-- **Such a setter is called**, and no command ends the message. -/
theorem TrailingSetter.not_matchesEncoding (hsize : data.length ≤ maxSize) (self : RequestParser)
    (env : AddressText) (h : TrailingSetter w data) : ¬ MatchesEncoding self env w data := by
  obtain ⟨h, c, e, hends, hlt⟩ := h
  obtain ⟨id, hd⟩ := hends.decodeRequest hsize nofun
  rw [MatchesEncoding, endState_parseRequest, hd]
  rintro (⟨-, hsame⟩ | ⟨a, hexact, _⟩)
  · exact MethodCall.setterCalls_perform_ne hends.isSetter hsame
  · obtain ⟨id', hd'⟩ := hexact.decodeRequest hsize fun _ => rfl
    rw [hd] at hd'
    cases hd'
    exact absurd (hends.unique hexact) (Nat.ne_of_lt hlt)

end Changes

/-- **A request matches its encoding to the last byte exactly when it is no setter with bytes
behind its argument.** -/
theorem matchesEncoding_iff (self : RequestParser) (env : AddressText) (w : ServerState)
    (data : RawDataType) :
    MatchesEncoding self env w data.1 ↔ ¬ TrailingSetter w data.1 := by
  refine ⟨fun hmatch htrail => htrail.not_matchesEncoding data.2 self env hmatch, fun hno => ?_⟩
  rw [MatchesEncoding, endState_parseRequest]
  cases hd : decodeRequest w.known data.1 with
  | error e => exact Or.inl ⟨rfl, rfl⟩
  | ok r =>
      obtain ⟨id, a⟩ := r
      rcases Action.changes_cases (known_of_decodeRequest data.2 hd) with
        hsame | ⟨obj, rfl⟩ | ⟨h, c, rfl, hc⟩
      · exact Or.inl hsame
      · exact Or.inr ⟨_, argumentsEnd_of_create data.2 hd, rfl⟩
      · obtain ⟨e, hle, hends⟩ := argumentsEnd_of_setter data.2 hd hc
        rcases Nat.lt_or_eq_of_le hle with hlt | rfl
        · exact absurd ⟨h, c, e, hends, hlt⟩ hno
        · exact Or.inr ⟨_, hends, rfl⟩

/-- `SetIntegerValue` with the argument `5`, and one byte more. -/
def trailingSet : RawData := setMessage ++ [0]

set_option maxRecDepth 4000 in
/-- **The byte is dropped, and the object is changed.** -/
theorem trailingSet_carried_out :
    ¬ ∀ (self : RequestParser) (env : AddressText) (w : ServerState) (data : RawDataType),
        MatchesEncoding self env w data.1 := by
  intro hall
  have hcmd : CommandAt trailingSet 1 31 := ⟨7, .framed (by decide), by decide, rfl⟩
  have htarget : TargetAt trailingSet 31 0 36 := .explicit (by decide)
  have hends : SetterEnds trailingSet 36 (.setIntegerValue 5) 64 :=
    .int (by decide) (by decide) (by decide)
  have htrail : TrailingSetter ((Action.create {}).perform {}) trailingSet :=
    ⟨0, .setIntegerValue 5, 64, .setter hcmd htarget (by decide) hends, by decide⟩
  have hsize : trailingSet.length ≤ maxSize := by decide
  exact htrail.not_matchesEncoding hsize ⟨0⟩ default (hall ⟨0⟩ default _ ⟨trailingSet, hsize⟩)

end NamedPipeDemo
