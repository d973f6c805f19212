/-
**Requests to different instances are independent.**

Every client has a thread of its own on the server, and the threads take turns with the registry.
What a request reads of the registry is whether the handle it resolves to exists, and the object
under it; what it writes is that object, or one new entry.  So two requests that resolve to
different handles do not notice which of them came first, and neither do a request that creates an
object and one that resolves to a handle that was there before.

Main definitions:

* `NamedPipeDemo.Creates`, `NamedPipeDemo.ResolvesTo` — what a request creates, and the handle it
  resolves to, whether or not there is an object under it;
* `NamedPipeDemo.Independent` — the two requests work on different instances;
* `NamedPipeDemo.Action.after` — the object an action leaves behind.

Main results:

* `NamedPipeDemo.decodeRequest_congr` — **reading**: a request asks only for its own handle;
* `NamedPipeDemo.Action.registry_perform`, `NamedPipeDemo.Action.object_perform` — **writing**: an
  action changes only its own object;
* `NamedPipeDemo.requests_commute` — **independent requests can be served in either order**.
-/

import NamedPipeDemo.ServerRuns

set_option relaxedAutoImplicit false
set_option autoImplicit false

namespace NamedPipeDemo

open Segment LabelledRuns

/-! ### What a request works on -/

/-- `ParseCreateClass`, called behind the class name, creates an object. -/
def Creates (w : ServerState) (data : RawData) : Prop :=
  ∃ id n h j w', CommandAt data id n ∧
    (CustomClassParser.parseCreateClass data n).run w = .ok ((true, h), j) w'

/-- `ParseCreateClass` fails behind the class name, and `GetClassInstaceFromRequest` looks for the
object under this handle: the one that is given, or the default one. -/
def ResolvesTo (w : ServerState) (data : RawData) (h : ClassHandle) : Prop :=
  ∃ id n r j w' p k, CommandAt data id n ∧
    (CustomClassParser.parseCreateClass data n).run w = .ok ((false, r), j) w' ∧
    (CustomClassParser.getClassInstaceFromRequest data n).run w = .ok ((h, p), k) w

/-- **The two requests work on different instances**: neither creates an object and they do not
resolve to one handle, or one creates an object and the other resolves to no handle that is new. -/
def Independent (w : ServerState) (d₁ d₂ : RawData) : Prop :=
  (¬ Creates w d₁ ∧ ¬ Creates w d₂ ∧ ∀ h, ResolvesTo w d₁ h → ¬ ResolvesTo w d₂ h) ∨
    (Creates w d₁ ∧ ¬ Creates w d₂ ∧ ∀ h, ResolvesTo w d₂ h → h ∈ w.registry.instances) ∨
    (Creates w d₂ ∧ ¬ Creates w d₁ ∧ ∀ h, ResolvesTo w d₁ h → h ∈ w.registry.instances)

theorem Independent.symm {w : ServerState} {d₁ d₂ : RawData} (h : Independent w d₁ d₂) :
    Independent w d₂ d₁ := by
  rcases h with ⟨h₁, h₂, hdiff⟩ | h | h
  · exact Or.inl ⟨h₂, h₁, fun h hr₂ hr₁ => hdiff h hr₁ hr₂⟩
  · exact Or.inr (Or.inr h)
  · exact Or.inr (Or.inl h)

/-- The handle behind the class name, in terms of the bytes alone. -/
def NamesHandle (data : RawData) (h : ClassHandle) : Prop :=
  ∃ id n ok k, CommandAt data id n ∧ decodeCreate data n = .ok none ∧
    parseInt data n = .ok ((ok, h), k)

section Decode

variable {w : ServerState} {data : RawData} {known known' : ClassHandle → Bool}
  {id : RequestId} {a : Action} {h : ClassHandle}

theorem creates_of_decodeCreate {n : ℕ} {obj : CustomClass} (hcmd : CommandAt data id n)
    (hc : decodeCreate data n = .ok (some obj)) : Creates w data := by
  have hrun := CustomClassParser.parseCreateClass_eq data n w
  rw [hc] at hrun
  exact ⟨id, n, _, _, _, hcmd, hrun⟩

theorem resolvesTo_of_namesHandle (hn : NamesHandle data h) : ResolvesTo w data h := by
  obtain ⟨id, n, ok, k, hcmd, hc, hi⟩ := hn
  have hcreate := CustomClassParser.parseCreateClass_eq data n w
  have hget := CustomClassParser.getClassInstaceFromRequest_eq data n w
  rw [hc] at hcreate
  rw [hi] at hget
  exact ⟨id, n, _, _, _, _, _, hcmd, hcreate, hget⟩

/-- The action of a request that resolves an instance is about the handle it names. -/
theorem namesHandle_of_target (hsize : data.length ≤ maxSize)
    (hd : decodeRequest known data = .ok (id, a)) (htarget : a.target = some h) :
    NamesHandle data h ∧ known h = true := by
  obtain ⟨n, k, hcmd, ht, hcut, hkey, hknown, _⟩ := request_target_cases hsize hd htarget
  obtain ⟨ok, hi⟩ := parseInt_of_targetAt ht hcut
  exact ⟨⟨id, n, ok, k, hcmd, decodeCreate_of_not hkey, hi⟩, hknown⟩

/-- A request that asks for a new object creates one. -/
theorem creates_of_create (hsize : data.length ≤ maxSize) {obj : CustomClass}
    (hd : decodeRequest known data = .ok (id, .create obj)) : Creates w data := by
  obtain ⟨n, hcmd, hc⟩ := (decodeRequest_eq_create_iff hsize).1 hd
  exact creates_of_decodeCreate hcmd hc

/-- A command asks only whether the handle it resolves to exists. -/
theorem decodeCommand_congr {n : ℕ} (hcmd : CommandAt data id n)
    (hagree : ∀ h, NamesHandle data h → known h = known' h) :
    decodeCommand known data n = decodeCommand known' data n := by
  rw [decodeCommand, decodeCommand]
  cases hc : decodeCreate data n with
  | error e => rfl
  | ok o =>
      cases o with
      | some obj => rfl
      | none =>
          simp only [ok_bind]
          rw [decodeOnInstance, decodeOnInstance]
          cases hi : parseInt data n with
          | error e => rfl
          | ok i =>
              obtain ⟨⟨ok, h⟩, k⟩ := i
              simp only [ok_bind, hagree h ⟨id, n, ok, k, hcmd, hc, hi⟩]

/-- What is no command asks for no handle. -/
theorem decodeClass_congr (hsize : data.length ≤ maxSize) {b : ℕ}
    (hname : ¬ HasAt data b createCustomClassRequest) :
    decodeClass known data b = decodeClass known' data b := by
  rw [decodeClass, decodeClass]
  cases hb : readByte data b with
  | error e => rfl
  | ok c =>
      simp only [ok_bind]
      by_cases hc : c = chr '#'
      swap
      · rw [if_pos hc, if_pos hc]
      rw [if_neg (not_not_intro hc), if_neg (not_not_intro hc)]
      cases hs : parseString data (b + 1) with
      | error e => rfl
      | ok r =>
          rcases (parseString_eq_ok_iff hsize).1 hs with ⟨name, hat, rfl⟩ | ⟨_, _, _, rfl⟩
          swap
          · rfl
          simp only [ok_bind, Bool.true_eq_false, if_false]
          by_cases heq : name = CustomClass.kClassName
          swap
          · rw [if_pos heq, if_pos heq]
          · have hget : data[b]? = some (chr '#') := by
              rw [readByte] at hb
              split at hb <;> cases hb
              subst hc
              assumption
            subst heq
            exact absurd (hasAt_cons_iff.2 ⟨hget, hat.2⟩) hname

/-- **A request asks only whether the handle it resolves to exists.** -/
theorem decodeRequest_congr (hsize : data.length ≤ maxSize)
    (hagree : ∀ h, NamesHandle data h → known h = known' h) :
    decodeRequest known data = decodeRequest known' data := by
  obtain ⟨id, b, hb⟩ := exists_bodyAt data
  by_cases hname : HasAt data b createCustomClassRequest
  · have hcmd : CommandAt data id (b + 24) := ⟨b, hb, hname, rfl⟩
    rw [decodeRequest_of_commandAt hcmd, decodeRequest_of_commandAt hcmd,
      decodeCommand_congr hcmd hagree]
  by_cases hcut : HasAt data 0 [chr '#', chr 'r'] ∧ IntCut data 2
  · rw [decodeRequest, decodeRequest, parseRequestId_of_cut hcut.1 hcut.2]
    rfl
  have hid := fun hkey hc => hcut ⟨hkey, hc⟩
  rw [decodeRequest_of_bodyAt hb hid, decodeRequest_of_bodyAt hb hid]
  -- up to the class name the handles play no part
  have hbody : decodeBody known data b = decodeBody known' data b := by
    rw [decodeBody, decodeBody]
    cases hi : parseInt data b with
    | error e => rfl
    | ok i =>
        rcases parseInt_eq_ok_iff.1 hi with ⟨v, _, rfl⟩ | ⟨_, _, rfl⟩
        · rfl
        simp only [ok_bind, Bool.false_eq_true, if_false]
        cases hd : parseDouble data b with
        | error e => rfl
        | ok d =>
            rcases parseDouble_eq_ok_iff.1 hd with ⟨v, _, rfl⟩ | ⟨_, _, rfl⟩
            · rfl
            simp only [ok_bind, Bool.false_eq_true, if_false]
            cases hs : parseString data b with
            | error e => rfl
            | ok s =>
                rcases (parseString_eq_ok_iff hsize).1 hs with ⟨v, _, rfl⟩ | ⟨_, _, _, rfl⟩
                · rfl
                simp only [ok_bind, Bool.false_eq_true, if_false]
                exact decodeClass_congr hsize hname
  rw [hbody]

end Decode

/-! ### What an action writes -/

namespace Action

variable {w : ServerState} {a : Action} {h : ClassHandle}

/-- The object an action leaves behind; only a call changes it. -/
def after : Action → CustomClass → CustomClass
  | call _ c, obj => c.after obj
  | _, obj => obj

/-- **An action that creates nothing writes its own object, or nothing.** -/
theorem registry_perform (hcreate : ∀ obj, a ≠ create obj)
    (hknown : ∀ h, a.target = some h → w.known h = true) :
    (a.perform w).registry =
      match a.target with
      | some h => w.registry.assign h (a.after (w.object h))
      | none => w.registry := by
  cases a with
  | create obj => exact absurd rfl (hcreate obj)
  | noMethod h => exact (ClassRegistry.assign_self (w.lookup_object (hknown h rfl))).symm
  | _ => rfl

/-- A write to one object is not seen at another. -/
theorem object_of_assign {w' : ServerState} {h' : ClassHandle} {obj : CustomClass}
    (hw : w'.registry = w.registry.assign h' obj) (hne : h ≠ h') : w'.object h = w.object h := by
  rw [ServerState.object, ServerState.object, hw, ClassRegistry.lookup_assign_of_ne _ _ hne]

/-- **An action that creates nothing leaves the objects it is not about alone.** -/
theorem object_perform (hcreate : ∀ obj, a ≠ create obj)
    (hknown : ∀ h, a.target = some h → w.known h = true) (hne : a.target ≠ some h) :
    (a.perform w).object h = w.object h := by
  have hreg := registry_perform hcreate hknown
  cases ht : a.target with
  | none =>
      rw [ht] at hreg
      rw [ServerState.object, ServerState.object, hreg]
  | some h' =>
      rw [ht] at hreg
      exact object_of_assign hreg fun heq => hne (ht.trans (heq ▸ rfl))

/-- An action that creates nothing makes no handle appear. -/
theorem known_perform_eq (hcreate : ∀ obj, a ≠ create obj)
    (hknown : ∀ h, a.target = some h → w.known h = true) :
    (a.perform w).known = w.known ∧
      (a.perform w).registry.handleCounter = w.registry.handleCounter := by
  have hreg := registry_perform hcreate hknown
  cases ht : a.target with
  | none =>
      rw [ht] at hreg
      refine ⟨funext fun h => ?_, by rw [hreg]⟩
      rw [ServerState.known, ServerState.known, hreg]
  | some h' =>
      rw [ht] at hreg
      refine ⟨funext fun h => ?_, by rw [hreg]; rfl⟩
      have hmem := ServerState.known_eq_true.1 (hknown h' ht)
      rw [ServerState.known, ServerState.known, hreg, decide_eq_decide, ClassRegistry.mem_assign]
      exact ⟨fun hor => hor.elim (fun heq => heq ▸ hmem) fun hin => hin, Or.inr⟩

/-- A new object leaves the objects that are there alone. -/
theorem object_create (hw : RegistryInv w.registry) (hlt : w.registry.handleCounter < 2 ^ 31)
    (obj : CustomClass) (hk : w.known h = true) :
    h ≠ w.registry.nextHandle ∧ ((create obj).perform w).object h = w.object h := by
  have hne : h ≠ w.registry.nextHandle := fun heq =>
    hw.numbered.nextHandle_notMem hlt (heq ▸ ServerState.known_eq_true.1 hk)
  refine ⟨hne, ?_⟩
  rw [ServerState.object, ServerState.object]
  simp only [perform]
  rw [hw.numbered.lookup_create hlt, if_neg hne]

/-- What an action that creates nothing answers depends on its own object only. -/
theorem answer_congr {w' : ServerState} (env : AddressText) (id : RequestId)
    (hcreate : ∀ obj, a ≠ create obj) (hobj : ∀ h, a.target = some h → w'.object h = w.object h) :
    a.answer env id w' = a.answer env id w := by
  cases a with
  | create obj => exact absurd rfl (hcreate obj)
  | call h c => rw [answer, answer, hobj h rfl]
  | get h => rw [answer, answer, hobj h rfl]
  | _ => rfl

end Action

/-! ### Two requests -/

section Two

variable {w : ServerState} {d₁ d₂ : RawData} {id₁ id₂ : RequestId} {a₁ a₂ : Action}

/-- A request creates an object exactly when its action does. -/
theorem creates_iff {data : RawData} {known : ClassHandle → Bool} {id : RequestId} {a : Action}
    (hsize : data.length ≤ maxSize) (hd : decodeRequest known data = .ok (id, a)) :
    Creates w data ↔ ∃ obj, a = .create obj := by
  constructor
  · rintro ⟨id', n, h, j, w', hcmd, hrun⟩
    have hdec := decodeCommand_of_decodeRequest hcmd hd
    rw [CustomClassParser.parseCreateClass_eq] at hrun
    obtain ⟨o, hc, ha⟩ := bind_eq_ok_iff.1 hdec
    rw [hc] at hrun
    cases o with
    | some obj =>
        cases ha
        exact ⟨obj, rfl⟩
    | none => cases hrun
  · rintro ⟨obj, rfl⟩
    exact creates_of_create hsize hd

/-- **A request is undisturbed by an independent one that is served before it**: it decodes to the
same action, with the same answer. -/
theorem undisturbed (env : AddressText) (hw : RegistryInv w.registry)
    (hlt : w.registry.handleCounter < 2 ^ 31) (hsize₁ : d₁.length ≤ maxSize)
    (hsize₂ : d₂.length ≤ maxSize) (hind : Independent w d₁ d₂)
    (hd₁ : decodeRequest w.known d₁ = .ok (id₁, a₁))
    (hd₂ : decodeRequest w.known d₂ = .ok (id₂, a₂)) :
    decodeRequest (a₁.perform w).known d₂ = .ok (id₂, a₂) ∧
      a₂.answer env id₂ (a₁.perform w) = a₂.answer env id₂ w := by
  have ht₁ := fun h ht => namesHandle_of_target (h := h) hsize₁ hd₁ ht
  have ht₂ := fun h ht => namesHandle_of_target (h := h) hsize₂ hd₂ ht
  have hc₁ := creates_iff (w := w) hsize₁ hd₁
  have hc₂ := creates_iff (w := w) hsize₂ hd₂
  by_cases hcreate₁ : ∃ obj, a₁ = .create obj
  · rcases hind with ⟨hno, _⟩ | ⟨_, hno₂, hold⟩ | ⟨_, hno, _⟩
    · exact absurd (hc₁.2 hcreate₁) hno
    swap
    · exact absurd (hc₁.2 hcreate₁) hno
    -- the first creates, and the handle of the second is an old one
    obtain ⟨obj, rfl⟩ := hcreate₁
    refine ⟨?_, Action.answer_congr env id₂ (fun obj heq => hno₂ (hc₂.2 ⟨obj, heq⟩)) ?_⟩
    · rw [← hd₂]
      refine decodeRequest_congr hsize₂ fun h hn => ?_
      have hk := ServerState.known_eq_true.2 (hold h (resolvesTo_of_namesHandle hn))
      rw [hk, Action.known_perform hk]
    · exact fun h ht => (Action.object_create hw hlt obj (ht₂ h ht).2).2
  · have hno₁ := not_exists.1 hcreate₁
    obtain ⟨hknown, hcounter⟩ := Action.known_perform_eq hno₁ fun h ht => (ht₁ h ht).2
    refine ⟨by rw [hknown, hd₂], ?_⟩
    by_cases hcreate₂ : ∃ obj, a₂ = .create obj
    · obtain ⟨obj, rfl⟩ := hcreate₂
      rw [Action.answer, Action.answer, ClassRegistry.nextHandle, ClassRegistry.nextHandle,
        hcounter]
    · refine Action.answer_congr env id₂ (not_exists.1 hcreate₂) fun h ht => ?_
      refine Action.object_perform hno₁ (fun h ht => (ht₁ h ht).2) fun hsame => ?_
      -- both would resolve to one handle
      rcases hind with ⟨_, _, hdiff⟩ | ⟨hc, _⟩ | ⟨hc, _⟩
      · exact hdiff h (resolvesTo_of_namesHandle (ht₁ h hsame).1)
          (resolvesTo_of_namesHandle (ht₂ h ht).1)
      · exact hcreate₁ (hc₁.1 hc)
      · exact hcreate₂ (hc₂.1 hc)

/-- A creation and an action on an object that is there commute. -/
theorem Action.create_perform_comm (hw : RegistryInv w.registry)
    (hlt : w.registry.handleCounter < 2 ^ 31) (obj : CustomClass)
    (hcreate : ∀ obj, a₂ ≠ .create obj)
    (hknown : ∀ h, a₂.target = some h → w.known h = true) :
    (a₂.perform ((Action.create obj).perform w)).registry =
      ((Action.create obj).perform (a₂.perform w)).registry := by
  have hafter := registry_perform (w := (Action.create obj).perform w) hcreate
    fun h ht => known_perform (hknown h ht)
  have hbefore := registry_perform hcreate hknown
  have hright : ((Action.create obj).perform (a₂.perform w)).registry =
      ((a₂.perform w).registry.create obj).2 := rfl
  rw [hafter, hright, hbefore]
  cases ht : a₂.target with
  | none => rfl
  | some h =>
      obtain ⟨hne, hobj⟩ := object_create hw hlt obj (hknown h ht)
      simp only [hobj]
      exact (ClassRegistry.create_assign_comm (hw.numbered.nextHandle_notMem hlt) hne _ _).symm

/-- Actions on different objects commute. -/
theorem Action.perform_comm (hcreate₁ : ∀ obj, a₁ ≠ .create obj)
    (hcreate₂ : ∀ obj, a₂ ≠ .create obj) (hknown₁ : ∀ h, a₁.target = some h → w.known h = true)
    (hknown₂ : ∀ h, a₂.target = some h → w.known h = true)
    (hdiff : ∀ h, a₁.target = some h → a₂.target ≠ some h) :
    (a₂.perform (a₁.perform w)).registry = (a₁.perform (a₂.perform w)).registry := by
  have h₁₂ := registry_perform (w := a₁.perform w) hcreate₂
    fun h ht => known_perform (hknown₂ h ht)
  have h₂₁ := registry_perform (w := a₂.perform w) hcreate₁
    fun h ht => known_perform (hknown₁ h ht)
  rw [h₁₂, h₂₁, registry_perform hcreate₁ hknown₁, registry_perform hcreate₂ hknown₂]
  have hobj₁ : ∀ h, a₁.target = some h → (a₂.perform w).object h = w.object h := fun h ht =>
    object_perform hcreate₂ hknown₂ (hdiff h ht)
  have hobj₂ : ∀ h, a₂.target = some h → (a₁.perform w).object h = w.object h := fun h ht =>
    object_perform hcreate₁ hknown₁ fun heq => hdiff h heq ht
  cases ht₁ : a₁.target with
  | none =>
      cases ht₂ : a₂.target with
      | none => rfl
      | some y => simp only [hobj₂ y ht₂]
  | some x =>
      cases ht₂ : a₂.target with
      | none => simp only [hobj₁ x ht₁]
      | some y =>
          have hne : x ≠ y := fun heq => hdiff x ht₁ (heq ▸ ht₂)
          simp only [hobj₁ x ht₁, hobj₂ y ht₂]
          exact ClassRegistry.assign_assign_comm _ hne _ _

/-- **Independent requests can be served in either order.**  From a registry that messages have led
to, two requests that the parser gets through and that work on different instances: whichever is
served first, each gets the same response, with the same id, and the registry is the same in the
end. -/
theorem requests_commute (env : AddressText) (w : ServerState)
    (hreach : Reaches (serverStep env) {} w) (hlt : w.registry.handleCounter < 2 ^ 31)
    (self₁ self₂ : RequestParser) (d₁ d₂ : RawDataType) (hind : Independent w d₁.1 d₂.1)
    {r₁ r₂ : Bool × ServerResponse} {w₁ w₂ : ServerState}
    (h₁ : (self₁.parseRequest env d₁.1).run w = .ok r₁ w₁)
    (h₂ : (self₂.parseRequest env d₂.1).run w = .ok r₂ w₂) :
    ∃ w₁₂ w₂₁, (self₂.parseRequest env d₂.1).run w₁ = .ok r₂ w₁₂ ∧
      (self₁.parseRequest env d₁.1).run w₂ = .ok r₁ w₂₁ ∧ w₁₂.registry = w₂₁.registry := by
  have hw := registryInv_reaches hreach hlt
  have hrun₁ := self₁.parseRequest_eq env d₁.1 w
  have hrun₂ := self₂.parseRequest_eq env d₂.1 w
  cases hd₁ : decodeRequest w.known d₁.1 with
  | error e =>
      rw [hd₁, h₁] at hrun₁
      cases hrun₁
  | ok p₁ =>
  cases hd₂ : decodeRequest w.known d₂.1 with
  | error e =>
      rw [hd₂, h₂] at hrun₂
      cases hrun₂
  | ok p₂ =>
  obtain ⟨id₁, a₁⟩ := p₁
  obtain ⟨id₂, a₂⟩ := p₂
  rw [hd₁, h₁] at hrun₁
  rw [hd₂, h₂] at hrun₂
  cases hrun₁
  cases hrun₂
  obtain ⟨hdec₂, hans₂⟩ := undisturbed env hw hlt d₁.2 d₂.2 hind hd₁ hd₂
  obtain ⟨hdec₁, hans₁⟩ := undisturbed env hw hlt d₂.2 d₁.2 hind.symm hd₂ hd₁
  refine ⟨a₂.perform (a₁.perform w), a₁.perform (a₂.perform w), ?_, ?_, ?_⟩
  · rw [self₂.parseRequest_eq, hdec₂]
    simp only [hans₂]
  · rw [self₁.parseRequest_eq, hdec₁]
    simp only [hans₁]
  have ht₁ := fun h ht => namesHandle_of_target (h := h) d₁.2 hd₁ ht
  have ht₂ := fun h ht => namesHandle_of_target (h := h) d₂.2 hd₂ ht
  have hc₁ := creates_iff (w := w) d₁.2 hd₁
  have hc₂ := creates_iff (w := w) d₂.2 hd₂
  rcases hind with ⟨hno₁, hno₂, hdiff⟩ | ⟨hc, hno, _⟩ | ⟨hc, hno, _⟩
  · refine Action.perform_comm (fun obj heq => hno₁ (hc₁.2 ⟨obj, heq⟩))
      (fun obj heq => hno₂ (hc₂.2 ⟨obj, heq⟩)) (fun h ht => (ht₁ h ht).2)
      (fun h ht => (ht₂ h ht).2) fun h hx hy => ?_
    exact hdiff h (resolvesTo_of_namesHandle (ht₁ h hx).1)
      (resolvesTo_of_namesHandle (ht₂ h hy).1)
  · obtain ⟨obj, rfl⟩ := hc₁.1 hc
    exact Action.create_perform_comm hw hlt obj (fun obj heq => hno (hc₂.2 ⟨obj, heq⟩))
      fun h ht => (ht₂ h ht).2
  · obtain ⟨obj, rfl⟩ := hc₂.1 hc
    exact (Action.create_perform_comm hw hlt obj (fun obj heq => hno (hc₁.2 ⟨obj, heq⟩))
      fun h ht => (ht₁ h ht).2).symm

end Two

/-- Setting the integer of the first object and creating a second one can be done in either
order. -/
theorem set_create_commute :
    let w : ServerState := (Action.create {}).perform {}
    let set := (RequestParser.mk 1).parseRequest default setMessage
    let create := (RequestParser.mk 2).parseRequest default createMessage.data
    (endState (create.run (endState (set.run w)))).registry =
      (endState (set.run (endState (create.run w)))).registry := by
  intro w set create
  have hreach : Reaches (serverStep default) {} w := Reaches.single (i := createMessage) rfl
  have hset : decodeRequest w.known setMessage = .ok (1, .call 0 (.setIntegerValue 5)) := rfl
  have hcreate : decodeRequest w.known createMessage.data = .ok (-1, .create {}) := rfl
  have hbody : BodyAt setMessage 1 7 := .framed (by decide)
  have hind : Independent w setMessage createMessage.data := by
    refine Or.inr (Or.inr ⟨(creates_iff (by decide) hcreate).2 ⟨_, rfl⟩, fun hc => ?_, ?_⟩)
    · obtain ⟨obj, hobj⟩ := (creates_iff (by decide) hset).1 hc
      cases hobj
    · rintro h ⟨id, n, r, j, w', p, k, ⟨b, hb, _, rfl⟩, _, hget⟩
      obtain ⟨_, rfl⟩ := hb.unique hbody
      cases hget
      exact ServerState.known_eq_true.1 rfl
  obtain ⟨w₁₂, w₂₁, h₁₂, h₂₁, hsame⟩ := requests_commute default w hreach (by decide) ⟨1⟩ ⟨2⟩
    ⟨setMessage, by decide⟩ ⟨createMessage.data, by decide⟩ hind rfl rfl
  rw [show create.run (endState (set.run w)) = _ from h₁₂,
    show set.run (endState (create.run w)) = _ from h₂₁]
  exact hsame

end NamedPipeDemo
