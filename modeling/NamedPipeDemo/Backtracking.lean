/-
**What a parsing alternative leaves behind when it fails.**

Requests are told apart by trying one alternative after another, and the next alternative starts at
the index the last one left behind.  Every function keeps the index it was given when it reports
failure, with one exception: `ParseMethodCall` moves the caller's index behind the method name
before it looks at the argument, and a setter whose argument cannot be parsed makes it report
failure with the index there.  The alternative that is tried next is `ParseGetInstance`, so a
request that starts as the call of a setter can be answered with the serialized object.

Main definitions:

* `NamedPipeDemo.Alternative`, `NamedPipeDemo.Fails`, `NamedPipeDemo.Clean` — the alternatives, how
  they report failure, and the ones that leave the index alone;
* `NamedPipeDemo.SetterWithoutArgument` — a setter is named whose argument cannot be parsed;
* `NamedPipeDemo.MethodCall.ArgumentAt` — the argument of a call in the bytes of a request;
* `NamedPipeDemo.AnsweredByMethod` — the response is empty or the result of the named method.

Main results:

* `NamedPipeDemo.decodeMethod_eq_other_iff` — when the search for a method call goes on, and where;
* `NamedPipeDemo.backtracking_iff` — **exactly when failure leaves no trace, and when a method call
  is answered as one**.
-/

import NamedPipeDemo.ValueCodec

set_option relaxedAutoImplicit false
set_option autoImplicit false

namespace NamedPipeDemo

open Segment

/-! ### Setters without an argument -/

/-- The bytes at `k` call a setter whose argument cannot be parsed, although the vector is not cut
in front of it; `j` is the index behind the method name. -/
inductive SetterWithoutArgument (data : RawData) (k : ℕ) : ℕ → Prop
  | ival (hkey : HasAt data k [chr '#', chr 'm'])
      (hname : HasAt data (k + 2) (serializeString kSetIntegerValMethodName))
      (hcut : ¬ IntCut data (k + 23)) (hval : ∀ v, ¬ HasAt data (k + 23) (serializeInt v)) :
      SetterWithoutArgument data k (k + 23)
  | str (hkey : HasAt data k [chr '#', chr 'm'])
      (hname : HasAt data (k + 2) (serializeString kSetStringValueMethodName))
      (hcut : ¬ StringCut data (k + 22)) (hneg : ¬ NegativeLength data (k + 22))
      (hstr : ∀ s, ¬ StringAt data (k + 22) s) : SetterWithoutArgument data k (k + 22)

section Method

variable {data : RawData} {k j : ℕ}

theorem SetterWithoutArgument.hasKeyword (h : SetterWithoutArgument data k j) :
    HasAt data k [chr '#', chr 'm'] := by
  cases h with
  | ival hkey _ _ _ => exact hkey
  | str hkey _ _ _ _ => exact hkey

/-- The index behind the name is not the index of the keyword. -/
theorem SetterWithoutArgument.ne (h : SetterWithoutArgument data k j) : j ≠ k := by
  cases h with
  | ival _ _ _ _ => omega
  | str _ _ _ _ _ => omega

/-- The search for a method call goes on behind the name of a setter without an argument. -/
theorem SetterWithoutArgument.decodeMethod_eq (hsize : data.length ≤ maxSize)
    (h : SetterWithoutArgument data k j) : decodeMethod data k = .ok (.other j) := by
  cases h with
  | ival hkey hname hcut hval =>
      rw [decodeMethod_of_setIntegerValue hkey hname, parseInt_of_not hcut hval]
      rfl
  | str hkey hname hcut hneg hstr =>
      rw [decodeMethod_of_setStringValue hkey hname, parseString_of_not hsize hcut hneg hstr]
      rfl

/-- **Behind the keyword `#m`** there is a method call under its name, or no method at all, or a
setter without an argument. -/
theorem decodeMethod_cases (hsize : data.length ≤ maxSize)
    (hkey : HasAt data k [chr '#', chr 'm']) {v : MethodView} (h : decodeMethod data k = .ok v) :
    (∃ c, v = .call c ∧ HasAt data (k + 2) (serializeString c.name)) ∨ v = .noMethod ∨
      ∃ j, v = .other j ∧ SetterWithoutArgument data k j := by
  have hsplit := h
  rw [decodeMethod, hasKeyword_of_hasAt hkey] at hsplit
  simp only [ok_bind, Bool.not_true, Bool.false_eq_true, if_false] at hsplit
  obtain ⟨r, hr, hrest⟩ := bind_eq_ok_iff.1 hsplit
  rcases (parseString_eq_ok_iff hsize).1 hr with ⟨name, hname, rfl⟩ | ⟨_, _, _, rfl⟩
  swap
  · cases hrest
    exact Or.inr (Or.inl rfl)
  simp only [Bool.true_eq_false, if_false] at hrest
  by_cases h₁ : name = kPrintToCoutMethodName
  · rw [if_pos h₁] at hrest
    cases hrest
    subst h₁
    exact Or.inl ⟨.printToCout, rfl, hname.2⟩
  by_cases h₂ : name = kPrintToStringMethodName
  · rw [if_neg h₁, if_pos h₂] at hrest
    cases hrest
    subst h₂
    exact Or.inl ⟨.printToString, rfl, hname.2⟩
  by_cases h₃ : name = kSetIntegerValMethodName
  · subst h₃
    rw [decodeMethod_of_setIntegerValue hkey hname.2] at h
    obtain ⟨i, hi, h⟩ := bind_eq_ok_iff.1 h
    rcases parseInt_eq_ok_iff.1 hi with ⟨v, _, rfl⟩ | ⟨hcut, hval, rfl⟩
    · cases h
      exact Or.inl ⟨.setIntegerValue v, rfl, hname.2⟩
    · cases h
      exact Or.inr (Or.inr ⟨_, rfl, .ival hkey hname.2 hcut hval⟩)
  by_cases h₄ : name = kSetStringValueMethodName
  · subst h₄
    rw [decodeMethod_of_setStringValue hkey hname.2] at h
    obtain ⟨s, hs, h⟩ := bind_eq_ok_iff.1 h
    rcases (parseString_eq_ok_iff hsize).1 hs with ⟨s, _, rfl⟩ | ⟨hcut, hneg, hstr, rfl⟩
    · cases h
      exact Or.inl ⟨.setStringValue s, rfl, hname.2⟩
    · cases h
      exact Or.inr (Or.inr ⟨_, rfl, .str hkey hname.2 hcut hneg hstr⟩)
  · rw [if_neg h₁, if_neg h₂, if_neg h₃, if_neg h₄] at hrest
    cases hrest
    exact Or.inr (Or.inl rfl)

/-- **When the search for a method call goes on, and where**: at the same index without the keyword
`#m`, and behind the name of a setter without an argument. -/
theorem decodeMethod_eq_other_iff (hsize : data.length ≤ maxSize) :
    decodeMethod data k = .ok (.other j) ↔
      (¬ HasAt data k [chr '#', chr 'm'] ∧ j = k) ∨ SetterWithoutArgument data k j := by
  constructor
  · intro h
    by_cases hkey : HasAt data k [chr '#', chr 'm']
    · rcases decodeMethod_cases hsize hkey h with ⟨c, hc, _⟩ | hno | ⟨i, hi, hset⟩
      · cases hc
      · cases hno
      · cases hi
        exact Or.inr hset
    · rw [decodeMethod_of_not hkey] at h
      cases h
      exact Or.inl ⟨hkey, rfl⟩
  · rintro (⟨hkey, rfl⟩ | hset)
    · exact decodeMethod_of_not hkey
    · exact hset.decodeMethod_eq hsize

end Method

/-! ### Alternatives -/

/-- The functions that are tried in a chain of alternatives. -/
inductive Alternative
  | value (t : FieldKind)
  | requestId
  | createClass
  | methodCall
  | getInstance
  deriving DecidableEq, Repr

/-- **The alternative, tried at `k` on the instance `h`, reports failure and leaves the index `j`
behind.**  `ParseRequestId` reports failure by returning `-1` without having read an id. -/
inductive Fails (env : AddressText) (w : ServerState) (h : ClassHandle) (data : RawData) (k : ℕ) :
    Alternative → ℕ → Prop
  | value {t : FieldKind} {v : AnyValue} {j : ℕ}
      (hr : parseValue t data k = .ok ((false, v), j)) : Fails env w h data k (.value t) j
  | requestId {id : RequestId} {j : ℕ} (hr : parseRequestId data k = .ok (id, j))
      (hno : ∀ id, ¬ HasAt data k (createRequestIdData id)) : Fails env w h data k .requestId j
  | createClass {r : ClassHandle} {j : ℕ} {w' : ServerState}
      (hr : (CustomClassParser.parseCreateClass data k).run w = .ok ((false, r), j) w') :
      Fails env w h data k .createClass j
  | methodCall {r : RawData × RawData} {j : ℕ} {w' : ServerState}
      (hr : (CustomClassParser.parseMethodCall env h data k).run w = .ok ((false, r), j) w') :
      Fails env w h data k .methodCall j
  | getInstance {r : RawData} {j : ℕ} {w' : ServerState}
      (hr : (CustomClassParser.parseGetInstance h data k).run w = .ok ((false, r), j) w') :
      Fails env w h data k .getInstance j

/-- **A failure of the alternative leaves the caller's index where it was.** -/
def Clean (env : AddressText) (w : ServerState) (h : ClassHandle) (data : RawData) (k : ℕ)
    (a : Alternative) : Prop :=
  ∀ j, Fails env w h data k a j → j = k

section Alternatives

variable {env : AddressText} {w : ServerState} {h : ClassHandle} {data : RawData} {k j : ℕ}

theorem eq_of_parseValue (hsize : data.length ≤ maxSize) {t : FieldKind} {v : AnyValue}
    (hr : parseValue t data k = .ok ((false, v), j)) : j = k := by
  cases t with
  | bool =>
      obtain ⟨r, hr, h⟩ := bind_eq_ok_iff.1 hr
      rcases bool_cases data k with hc | ⟨b, hb⟩ | ⟨hc, hb⟩
      · rw [parseBool_of_cut hc] at hr
        cases hr
      · rw [parseBool_of_hasAt hb] at hr
        cases hr
        cases h
      · rw [parseBool_of_not hc hb] at hr
        cases hr
        cases h
        rfl
  | int =>
      obtain ⟨r, hr, h⟩ := bind_eq_ok_iff.1 hr
      rcases parseInt_eq_ok_iff.1 hr with ⟨v, _, rfl⟩ | ⟨_, _, rfl⟩ <;> cases h
      rfl
  | double =>
      obtain ⟨r, hr, h⟩ := bind_eq_ok_iff.1 hr
      rcases parseDouble_eq_ok_iff.1 hr with ⟨v, _, rfl⟩ | ⟨_, _, rfl⟩ <;> cases h
      rfl
  | string =>
      obtain ⟨r, hr, h⟩ := bind_eq_ok_iff.1 hr
      rcases (parseString_eq_ok_iff hsize).1 hr with ⟨v, _, rfl⟩ | ⟨_, _, _, rfl⟩ <;> cases h
      rfl

theorem eq_of_parseRequestId {id : RequestId} (hr : parseRequestId data k = .ok (id, j))
    (hno : ∀ id, ¬ HasAt data k (createRequestIdData id)) : j = k := by
  rw [parseRequestId_eq, hasKeyword_eq, ok_bind] at hr
  split at hr
  · next hkey =>
      obtain ⟨i, hi, hr⟩ := bind_eq_ok_iff.1 hr
      rcases parseInt_eq_ok_iff.1 hi with ⟨v, hv, rfl⟩ | ⟨_, _, rfl⟩
      · exact absurd (hasAt_createRequestIdData_iff.2 ⟨of_decide_eq_true hkey, hv⟩) (hno v)
      · cases hr
        rfl
  · cases hr
    rfl

theorem eq_of_parseCreateClass {r : ClassHandle} {w' : ServerState}
    (hr : (CustomClassParser.parseCreateClass data k).run w = .ok ((false, r), j) w') :
    j = k := by
  rw [CustomClassParser.parseCreateClass_eq] at hr
  cases hc : decodeCreate data k with
  | error e =>
      rw [hc] at hr
      cases hr
  | ok o =>
      rw [hc] at hr
      cases o <;> cases hr
      rfl

theorem eq_of_parseGetInstance {r : RawData} {w' : ServerState}
    (hr : (CustomClassParser.parseGetInstance h data k).run w = .ok ((false, r), j) w') :
    j = k := by
  rw [CustomClassParser.parseGetInstance_eq, hasKeyword_eq] at hr
  cases hg : decide (HasAt data k [chr '#', chr 'g']) <;> rw [hg] at hr <;> cases hr
  rfl

/-- `ParseMethodCall` reports failure exactly when the search goes on, and leaves the index where
it goes on. -/
theorem fails_methodCall_iff :
    Fails env w h data k .methodCall j ↔ decodeMethod data k = .ok (.other j) := by
  have heq := CustomClassParser.parseMethodCall_eq env h data k w
  constructor
  · intro hfails
    cases hfails with | methodCall hr =>
    cases hm : decodeMethod data k with
    | error e =>
        rw [hm] at heq
        rw [heq] at hr
        cases hr
    | ok v =>
        rw [hm] at heq
        cases v with
        | call c =>
            obtain ⟨_, heq⟩ := heq
            rw [heq] at hr
            cases hr
        | noMethod =>
            obtain ⟨_, heq⟩ := heq
            rw [heq] at hr
            cases hr
        | other i =>
            obtain ⟨_, heq⟩ := heq
            rw [heq] at hr
            cases hr
            rfl
  · intro hm
    rw [hm] at heq
    obtain ⟨r, heq⟩ := heq
    exact .methodCall heq

/-- **Every alternative is clean, except for the method call of a setter without an argument.** -/
theorem clean_iff (hsize : data.length ≤ maxSize) {a : Alternative} :
    Clean env w h data k a ↔ ¬ (a = .methodCall ∧ ∃ j, SetterWithoutArgument data k j) := by
  constructor
  · rintro hclean ⟨rfl, j, hset⟩
    exact hset.ne (hclean j (fails_methodCall_iff.2 (hset.decodeMethod_eq hsize)))
  · intro hno j hfails
    cases a with
    | methodCall =>
        rw [fails_methodCall_iff, decodeMethod_eq_other_iff hsize] at hfails
        rcases hfails with ⟨_, hj⟩ | hset
        · exact hj
        · exact absurd ⟨rfl, j, hset⟩ hno
    | value t =>
        cases hfails with
        | value hr => exact eq_of_parseValue hsize hr
    | requestId =>
        cases hfails with
        | requestId hr hno => exact eq_of_parseRequestId hr hno
    | createClass =>
        cases hfails with
        | createClass hr => exact eq_of_parseCreateClass hr
    | getInstance =>
        cases hfails with
        | getInstance hr => exact eq_of_parseGetInstance hr

end Alternatives

/-! ### The answer to a method call -/

section Answer

variable {env : AddressText} {w : ServerState} {h : ClassHandle} {data : RawData} {n : ℕ}
  {id : RequestId}

/-- The bytes at `j` are the argument of the call. -/
def MethodCall.ArgumentAt (data : RawData) (j : ℕ) : MethodCall → Prop
  | setIntegerValue ival => HasAt data j (serializeInt ival)
  | setStringValue str => StringAt data j str
  | _ => True

/-- The response to a request whose class name ends at `n` and that calls a method on `h`: **never
the serialized object, but nothing or the result of the call that the request names, with the
argument it has, and that was made.** -/
def AnsweredByMethod (env : AddressText) (w : ServerState) (h : ClassHandle) (data : RawData)
    (n : ℕ) : Prop :=
  ∀ (self : RequestParser) (flag : Bool) (response : ServerResponse) (w' : ServerState),
    (self.parseRequest env data).run w = .ok (flag, response) w' →
    response.data ≠ serializeString (w.object h).serialize ∧
      (response.data = [] ∨ ∃ c : MethodCall, HasAt data (n + 7) (serializeString c.name) ∧
        c.ArgumentAt data (n + 7 + (serializeString c.name).length) ∧
        w' = (Action.call h c).perform w ∧
        response.data = c.result (env.text h) (w.object h))

/-- **The argument of a call that is decoded stands behind its name.** -/
theorem argumentAt_of_decodeMethod {k : ℕ} {c : MethodCall} (hsize : data.length ≤ maxSize)
    (hkey : HasAt data k [chr '#', chr 'm'])
    (hname : HasAt data (k + 2) (serializeString c.name))
    (hd : decodeMethod data k = .ok (.call c)) :
    c.ArgumentAt data (k + 2 + (serializeString c.name).length) := by
  cases c with
  | printToCout => trivial
  | printToString => trivial
  | setIntegerValue ival =>
      rw [decodeMethod_of_setIntegerValue hkey hname] at hd
      obtain ⟨i, hi, hd⟩ := bind_eq_ok_iff.1 hd
      rcases parseInt_eq_ok_iff.1 hi with ⟨v, hival, rfl⟩ | ⟨_, _, rfl⟩
      · cases hd
        exact hival
      · cases hd
  | setStringValue str =>
      rw [decodeMethod_of_setStringValue hkey hname] at hd
      obtain ⟨s, hs, hd⟩ := bind_eq_ok_iff.1 hd
      rcases (parseString_eq_ok_iff hsize).1 hs with ⟨v, hstr, rfl⟩ | ⟨_, _, _, rfl⟩
      · cases hd
        exact hstr
      · cases hd

/-- A request that names an existing object is decoded on it. -/
theorem decodeRequest_of_handle {known : ClassHandle → Bool} (hcmd : CommandAt data id n)
    (hval : HasAt data n (serializeInt h)) (hk : known h = true) :
    decodeRequest known data = do
      let a ← decodeOn h data (n + 5)
      return (id, a) := by
  rw [decodeRequest_of_commandAt hcmd, decodeCommand_of_handle hval, if_pos hk]

/-- The result of a method is not the serialized object. -/
theorem MethodCall.result_ne (this : RawData) (c : MethodCall) (obj : CustomClass) :
    c.result this obj ≠ serializeString obj.serialize := by
  cases c with
  | printToCout => exact (serializeString_ne_nil _).symm
  | printToString =>
      intro heq
      -- the printed form starts with a letter, the serialized one with the tag of an `int`
      have hbody := congrArg List.head? (serializeString_injective heq)
      rw [CustomClass.serialize, serializeInt, RawNumber.serialize_eq] at hbody
      cases hbody
  | setIntegerValue ival => exact fun heq => by cases heq
  | setStringValue str => exact fun heq => by cases heq

/-- **A method call is answered as one exactly when no setter without an argument is followed by
the keyword `#g`.** -/
theorem answeredByMethod_iff (hsize : data.length ≤ maxSize) (hcmd : CommandAt data id n)
    (hval : HasAt data n (serializeInt h)) (hk : w.known h = true)
    (hkey : HasAt data (n + 5) [chr '#', chr 'm']) :
    AnsweredByMethod env w h data n ↔
      ¬ ∃ j, SetterWithoutArgument data (n + 5) j ∧ HasAt data j [chr '#', chr 'g'] := by
  have hdec : decodeRequest w.known data = _ := decodeRequest_of_handle hcmd hval hk
  constructor
  · rintro hanswer ⟨j, hset, hget⟩
    have hrun := (RequestParser.mk 0).parseRequest_eq env data w
    rw [hdec, decodeOn, hset.decodeMethod_eq hsize] at hrun
    simp only [ok_bind, hasKeyword_of_hasAt hget] at hrun
    exact (hanswer _ _ _ _ hrun).1 rfl
  · intro hno self flag response w' hrun
    rw [self.parseRequest_eq env data w, hdec, decodeOn] at hrun
    cases hm : decodeMethod data (n + 5) with
    | error e =>
        rw [hm] at hrun
        cases hrun
    | ok v =>
        rw [hm] at hrun
        rcases decodeMethod_cases hsize hkey hm with ⟨c, rfl, hname⟩ | rfl | ⟨j, rfl, hset⟩
        · cases hrun
          have harg := argumentAt_of_decodeMethod hsize hkey hname hm
          exact ⟨c.result_ne _ _, Or.inr ⟨c, hname, harg, rfl, rfl⟩⟩
        · cases hrun
          exact ⟨(serializeString_ne_nil _).symm, Or.inl rfl⟩
        · have hget : ¬ HasAt data j [chr '#', chr 'g'] := fun hget => hno ⟨j, hset, hget⟩
          simp only [ok_bind, hasKeyword_of_not hget] at hrun
          cases hrun
          exact ⟨(serializeString_ne_nil _).symm, Or.inl rfl⟩

/-- **Exactly when failure leaves no trace, and when a method call is answered as one.**  An
alternative that reports failure leaves the index alone, unless it is the method call of a setter
whose argument cannot be parsed; and a request that calls a method on an existing object is answered
by that method or not at all, unless the keyword `#g` stands right behind the name of such a
setter. -/
theorem backtracking_iff (env : AddressText) (w : ServerState) (h : ClassHandle)
    (data : RawDataType) (k : ℕ) (a : Alternative) :
    (Clean env w h data.1 k a ↔
      ¬ (a = .methodCall ∧ ∃ j, SetterWithoutArgument data.1 k j)) ∧
    ∀ (id : RequestId) (n : ℕ), CommandAt data.1 id n → HasAt data.1 n (serializeInt h) →
      w.known h = true → HasAt data.1 (n + 5) [chr '#', chr 'm'] →
      (AnsweredByMethod env w h data.1 n ↔
        ¬ ∃ j, SetterWithoutArgument data.1 (n + 5) j ∧ HasAt data.1 j [chr '#', chr 'g']) :=
  ⟨clean_iff data.2, fun _ _ hcmd hval hk hkey => answeredByMethod_iff data.2 hcmd hval hk hkey⟩

end Answer

/-- A request that names the setter of the integer on the object under zero, and then has the
keyword `#g` where the argument is due. -/
def setterThenGet : RawData :=
  createCustomClassRequest ++ serializeInt 0 ++ ascii "#m" ++
    serializeString kSetIntegerValMethodName ++ ascii "#g"

/-- **The call of a setter without an argument moves the index, and the request is answered with
the serialized object.** -/
theorem setterThenGet_served :
    ¬ Clean default ((Action.create {}).perform {}) 0 setterThenGet 29 .methodCall ∧
      ¬ AnsweredByMethod default ((Action.create {}).perform {}) 0 setterThenGet 24 := by
  have hset : SetterWithoutArgument setterThenGet 29 52 := by
    refine .ival (by decide) (by decide) ?_ fun v hv => ?_
    · exact fun hcut => hcut.elim (by decide) fun htag => absurd htag.1 (by decide)
    · exact absurd (hasAt_cons_iff.1 hv).1 (by decide)
  have hsize : setterThenGet.length ≤ maxSize := by decide
  refine ⟨fun hclean => (clean_iff hsize).1 hclean ⟨rfl, 52, hset⟩, fun hanswer => ?_⟩
  have hcmd : CommandAt setterThenGet (-1) 24 :=
    ⟨0, .plain fun id hid => absurd (hasAt_createRequestIdData_iff.1 hid).1 (by decide),
      by decide, rfl⟩
  exact (answeredByMethod_iff hsize hcmd (h := 0) (by decide) (by decide) (by decide)).1 hanswer
    ⟨52, hset, by decide⟩

/-- The same call with its argument is clean, and answered by the setter. -/
theorem setter_answered :
    Clean default ((Action.create {}).perform {}) 0 (setterThenGet.take 52 ++ serializeInt 5) 29
        .methodCall ∧
      AnsweredByMethod default ((Action.create {}).perform {}) 0
        (setterThenGet.take 52 ++ serializeInt 5) 24 := by
  have hno : ∀ j, ¬ SetterWithoutArgument (setterThenGet.take 52 ++ serializeInt 5) 29 j := by
    intro j hset
    cases hset with
    | ival _ _ _ hval => exact absurd (show HasAt _ 52 (serializeInt 5) by decide) (hval 5)
    | str _ hname _ _ _ => exact absurd hname (by decide)
  have h := backtracking_iff default ((Action.create {}).perform {}) 0
    ⟨setterThenGet.take 52 ++ serializeInt 5, by decide⟩ 29 .methodCall
  refine ⟨h.1.2 fun hs => hs.2.elim hno, (h.2 (-1) 24 ?_ (by decide) (by decide) (by decide)).2 ?_⟩
  · exact ⟨0, .plain fun id hid => absurd (hasAt_createRequestIdData_iff.1 hid).1 (by decide),
      by decide, rfl⟩
  · rintro ⟨j, hset, _⟩
    exact hno j hset

end NamedPipeDemo
