/-
**Responses are matched with requests exactly, at most once, and in any order.**

A `ResponseParser` is used by two callers: the client registers each request under a fresh id
before it sends it, and hands over whatever bytes come back.  The two calls interleave in any way,
and the bytes may be anything.  This module runs the parser over such a history and shows that the
only thing that can ever happen to an entry of the table is that one response with its id, and a
value right behind the id, takes it out and hands the value to its callback.

Main definitions:

* `NamedPipeDemo.ParserCall`, `NamedPipeDemo.parserStep` — the two calls as a labelled machine;
* `NamedPipeDemo.ResponseEffect` — what a response does to the table and to the callbacks;
* `NamedPipeDemo.MatchingInv` — **the invariant** between history, table and deliveries.

Main results:

* `NamedPipeDemo.matchingInv_run` — every run keeps the invariant;
* `NamedPipeDemo.responses_matched` — **matching is exact, at most once and order-independent.**
-/

import NamedPipeDemo.LabelledRuns
import NamedPipeDemo.ResponseParser

set_option relaxedAutoImplicit false
set_option autoImplicit false

namespace NamedPipeDemo

open Segment LabelledRuns

/-! ### The two calls -/

/-- A call of a `ResponseParser`. -/
inductive ParserCall (κ : Type)
  | register (id : RequestId) (request : ClientRequest κ)
  | response (data : RawDataType)

/-- The ids under which requests are registered, in order. -/
def registeredIds {κ : Type} : List (ParserCall κ) → List RequestId
  | [] => []
  | .register id _ :: es => id :: registeredIds es
  | .response _ :: es => registeredIds es

section Matching

variable {κ : Type} (onSuccess : κ → AnyValue → ClassRepository → ClassRepository)

/-- A call changes the state; there is no step for a response on which the decoder stops. -/
def parserStep (s : ClientState κ) : ParserCall κ → Option (ClientState κ)
  | .register id request => some (s.registerRequest id request).2
  | .response data =>
      match (parseResponse onSuccess data.1).run s with
      | .ok _ s' => some s'
      | .error _ _ => none

theorem registeredIds_append (es es' : List (ParserCall κ)) :
    registeredIds (es ++ es') = registeredIds es ++ registeredIds es' := by
  induction es with
  | nil => rfl
  | cons e es ih =>
      cases e with
      | register id request => exact congrArg (id :: ·) ih
      | response data => exact ih

theorem mem_registeredIds {es : List (ParserCall κ)} {id : RequestId}
    {request : ClientRequest κ} (h : ParserCall.register id request ∈ es) :
    id ∈ registeredIds es := by
  induction es with
  | nil => exact absurd h List.not_mem_nil
  | cons e es ih =>
      rcases List.mem_cons.1 h with rfl | hmem
      · exact List.mem_cons_self
      · cases e with
        | register id' request' => exact List.mem_cons_of_mem _ (ih hmem)
        | response data => exact ih hmem

/-! ### What a response does -/

/-- What a response does after the calls `es`: it takes one registered entry out, under the id its
bytes begin with and with the value right behind the id, or it leaves the table and the callbacks
alone. -/
inductive ResponseEffect (es : List (ParserCall κ)) (data : RawData) (s s' : ClientState κ) : Prop
  | delivered {id : RequestId} {request : ClientRequest κ} {value : AnyValue}
      (registered : .register id request ∈ es)
      (frame : HasAt data 0 (createRequestIdData id)) (behind : ValueAt data 7 value)
      (entry : s.requests.lookup id = some request)
      (table : s'.requests = s.requests.erase id)
      (deliveries : s'.deliveries = ⟨id, request, value⟩ :: s.deliveries)
  | untouched (table : s'.requests = s.requests) (deliveries : s'.deliveries = s.deliveries)

/-- **What the calls so far, the table and the deliveries have to do with each other.** -/
structure MatchingInv (es : List (ParserCall κ)) (s : ClientState κ) : Prop where
  /-- Every entry was registered. -/
  entry : ∀ id request, s.requests.lookup id = some request → .register id request ∈ es
  /-- Every request whose callback was called was registered, and is no longer in the table. -/
  delivery : ∀ d ∈ s.deliveries, .register d.id d.request ∈ es ∧ d.id ∉ s.requests
  /-- No id is delivered to twice. -/
  nodup : (s.deliveries.map Delivery.id).Nodup

/-- The ids are those a client assigns: pairwise distinct and positive. -/
def FreshIds (es : List (ParserCall κ)) : Prop :=
  (registeredIds es).Nodup ∧ ∀ id ∈ registeredIds es, 0 < id.toInt

theorem FreshIds.prefix {es es' : List (ParserCall κ)} (h : FreshIds (es ++ es')) :
    FreshIds es := by
  obtain ⟨hnodup, hpos⟩ := h
  rw [registeredIds_append] at hnodup hpos
  exact ⟨hnodup.of_append_left, fun id hid => hpos id (List.mem_append_left _ hid)⟩

/-- The id of a registration is not among the earlier ones. -/
theorem FreshIds.notMem {es : List (ParserCall κ)} {id : RequestId} {request : ClientRequest κ}
    (h : FreshIds (es ++ [.register id request])) : id ∉ registeredIds es := by
  have hnodup := h.1
  rw [registeredIds_append, List.nodup_append] at hnodup
  exact fun hmem => hnodup.2.2 id hmem id (List.mem_singleton_self id) rfl

variable {onSuccess}

/-- **One response**, in a state in which every entry was registered under a positive id. -/
theorem responseEffect_of_step {es : List (ParserCall κ)} {s s' : ClientState κ}
    {data : RawDataType} (hids : FreshIds es)
    (hentry : ∀ id request, s.requests.lookup id = some request → .register id request ∈ es)
    (h : parserStep onSuccess s (.response data) = some s') :
    ResponseEffect es data.1 s s' := by
  simp only [parserStep, parseResponse_eq] at h
  cases hd : decodeResponse data.1 with
  | error e =>
      rw [hd] at h
      cases h
  | ok a =>
      rw [hd] at h
      cases h
      cases a with
      | reject => exact .untouched rfl rfl
      | register handle => exact .untouched rfl rfl
      | deliver id value =>
          simp only [ResponseAction.perform, ClientState.notify]
          cases hl : s.requests.lookup id with
          | none => exact .untouched rfl rfl
          | some request =>
              have hreg := hentry id request hl
              obtain ⟨b, hb, hv⟩ := bodyAt_of_deliver data.2 hd
              cases hb with
              | framed hframe => exact .delivered hreg hframe hv hl rfl rfl
              | plain _ =>
                  -- without a frame the id is -1, and nothing is registered under it
                  exact absurd (hids.2 _ (mem_registeredIds hreg)) (by decide)

/-- A registration under a fresh id adds its entry and calls nothing. -/
theorem requests_of_register {es : List (ParserCall κ)} {s : ClientState κ} {id : RequestId}
    {request : ClientRequest κ} (hids : FreshIds (es ++ [.register id request]))
    (hentry : ∀ id request, s.requests.lookup id = some request → .register id request ∈ es) :
    id ∉ s.requests ∧ s.registerRequest id request =
      (true, { s with requests := s.requests.insert id request }) := by
  have hnot : id ∉ s.requests := fun hmem => by
    obtain ⟨request', hl⟩ := Option.isSome_iff_exists.1 (Finmap.lookup_isSome.2 hmem)
    exact hids.notMem (mem_registeredIds (hentry id request' hl))
  exact ⟨hnot, if_neg hnot⟩

/-! ### Runs -/

theorem matchingInv_empty : MatchingInv [] ({} : ClientState κ) where
  entry id request h := by
    rw [show ({} : ClientState κ).requests.lookup id = none from rfl] at h
    cases h
  delivery d hd := absurd hd List.not_mem_nil
  nodup := List.nodup_nil

/-- A registration keeps the invariant. -/
theorem MatchingInv.register {es : List (ParserCall κ)} {s : ClientState κ} {id : RequestId}
    {request : ClientRequest κ} (hids : FreshIds (es ++ [.register id request]))
    (h : MatchingInv es s) :
    MatchingInv (es ++ [.register id request]) (s.registerRequest id request).2 := by
  obtain ⟨hnot, heq⟩ := requests_of_register hids h.entry
  rw [heq]
  constructor
  · intro id' request' hl
    by_cases hid : id' = id
    · subst hid
      rw [Finmap.lookup_insert, Option.some.injEq] at hl
      rw [hl]
      exact List.mem_append_right _ (List.mem_singleton_self _)
    · rw [Finmap.lookup_insert_of_ne _ hid] at hl
      exact List.mem_append_left _ (h.entry id' request' hl)
  · intro d hd
    obtain ⟨hreg, hgone⟩ := h.delivery d hd
    refine ⟨List.mem_append_left _ hreg, ?_⟩
    rw [Finmap.mem_insert, not_or]
    refine ⟨fun heq => ?_, hgone⟩
    exact hids.notMem (heq ▸ mem_registeredIds hreg)
  · exact h.nodup

/-- A response keeps the invariant. -/
theorem MatchingInv.response {es : List (ParserCall κ)} {s s' : ClientState κ}
    {data : RawDataType} (heffect : ResponseEffect es data.1 s s') (h : MatchingInv es s) :
    MatchingInv (es ++ [.response data]) s' := by
  cases heffect with
  | untouched table deliveries =>
      constructor
      · intro id request hl
        rw [table] at hl
        exact List.mem_append_left _ (h.entry id request hl)
      · intro d hd
        rw [deliveries] at hd
        rw [table]
        exact ⟨List.mem_append_left _ (h.delivery d hd).1, (h.delivery d hd).2⟩
      · rw [deliveries]
        exact h.nodup
  | @delivered id request value registered _ _ entry table deliveries =>
      have hmem : id ∈ s.requests := Finmap.lookup_isSome.1 (by rw [entry]; rfl)
      constructor
      · intro id' request' hl
        by_cases hid : id' = id
        · rw [table, hid, Finmap.lookup_erase] at hl
          cases hl
        · rw [table, Finmap.lookup_erase_ne hid] at hl
          exact List.mem_append_left _ (h.entry id' request' hl)
      · intro d hd
        rw [deliveries, List.mem_cons] at hd
        rw [table, Finmap.mem_erase, not_and]
        rcases hd with rfl | hd
        · exact ⟨List.mem_append_left _ registered, fun hne => absurd rfl hne⟩
        · exact ⟨List.mem_append_left _ (h.delivery d hd).1, fun _ => (h.delivery d hd).2⟩
      · rw [deliveries, List.map_cons, List.nodup_cons]
        refine ⟨fun hold => ?_, h.nodup⟩
        -- what was delivered before is no longer in the table
        obtain ⟨d, hd, heq⟩ := List.mem_map.1 hold
        exact (h.delivery d hd).2 (heq ▸ hmem)

/-- **Every run from the empty state keeps the invariant.** -/
theorem matchingInv_run {es : List (ParserCall κ)} {s : ClientState κ} (hids : FreshIds es)
    (h : run (parserStep onSuccess) {} es = some s) : MatchingInv es s := by
  refine invariant_history (I := fun es s => FreshIds es → MatchingInv es s)
    (fun _ => matchingInv_empty) ?_ h hids
  intro es e t t' _ ih hstep hfresh
  have hold := ih hfresh.prefix
  cases e with
  | register id request =>
      cases hstep
      exact hold.register hfresh
  | response data => exact hold.response (responseEffect_of_step hfresh.prefix hold.entry hstep)

/-! ### Permutations -/

/-- A response that is a frame with a positive id and a value behind it. -/
structure FramedResponse where
  id : RequestId
  value : AnyValue
  data : RawDataType
  frame : HasAt data.1 0 (createRequestIdData id)
  behind : ValueAt data.1 7 value

/-- The id and the value of a delivery. -/
def Delivery.idValue (d : Delivery κ) : RequestId × AnyValue := (d.id, d.value)

variable (onSuccess) in
/-- A framed response with a registered id is delivered. -/
theorem parserStep_framed (r : FramedResponse) {s : ClientState κ} (hmem : r.id ∈ s.requests) :
    ∃ s', parserStep onSuccess s (.response r.data) = some s' ∧
      s'.requests = s.requests.erase r.id ∧
      s'.deliveries.map Delivery.idValue =
        (r.id, r.value) :: s.deliveries.map Delivery.idValue := by
  obtain ⟨request, hl⟩ := Option.isSome_iff_exists.1 (Finmap.lookup_isSome.2 hmem)
  refine ⟨s.notify onSuccess r.id r.value, ?_, ?_, ?_⟩
  · rw [parserStep, parseResponse_eq, decodeResponse_framed r.frame r.behind]
    rfl
  · rw [ClientState.notify, hl]
  · rw [ClientState.notify, hl]
    rfl

variable (onSuccess) in
/-- **Framed responses with distinct registered ids are all delivered**, one after the other, and
only their entries go. -/
theorem run_framed {rs : List FramedResponse} (hnodup : (rs.map FramedResponse.id).Nodup) :
    ∀ {s : ClientState κ}, (∀ r ∈ rs, r.id ∈ s.requests) →
      ∃ s', run (parserStep onSuccess) s (rs.map fun r => .response r.data) = some s' ∧
        (∀ id, s'.requests.lookup id =
          if id ∈ rs.map FramedResponse.id then none else s.requests.lookup id) ∧
        s'.deliveries.map Delivery.idValue =
          (rs.map fun r => (r.id, r.value)).reverse ++ s.deliveries.map Delivery.idValue := by
  induction rs with
  | nil => exact fun _ => ⟨_, rfl, fun _ => rfl, rfl⟩
  | cons r rs ih =>
      intro s hmem
      rw [List.map_cons, List.nodup_cons] at hnodup
      obtain ⟨t, hstep, htable, hdel⟩ :=
        parserStep_framed onSuccess r (hmem r List.mem_cons_self)
      have hmem' : ∀ r' ∈ rs, r'.id ∈ t.requests := fun r' hr' => by
        rw [htable, Finmap.mem_erase]
        refine ⟨fun heq => hnodup.1 (heq ▸ List.mem_map_of_mem hr'), ?_⟩
        exact hmem r' (List.mem_cons_of_mem _ hr')
      obtain ⟨s', hrun, hlookup, hdel'⟩ := ih hnodup.2 hmem'
      refine ⟨s', (run_cons_eq_some _).2 ⟨t, hstep, hrun⟩, fun id => ?_, ?_⟩
      · rw [hlookup, htable]
        by_cases hid : id = r.id
        · subst hid
          simp [hnodup.1]
        · simp [hid]
      · rw [hdel', hdel]
        simp

/-- **Matching is exact, at most once and order-independent.**  In every run that registers distinct
positive ids: no id is delivered to twice; every response has one of the two effects, and every
registration adds its own entry and calls nothing; and framed responses with distinct registered
ids lead to one table and one set of deliveries, in whatever order they come. -/
theorem responses_matched (onSuccess : κ → AnyValue → ClassRepository → ClassRepository)
    (es : List (ParserCall κ)) (s : ClientState κ) (hids : FreshIds es)
    (hrun : run (parserStep onSuccess) {} es = some s) :
    (s.deliveries.map Delivery.id).Nodup ∧
    (∀ es₁ data es₂, es = es₁ ++ .response data :: es₂ →
      ∃ s₁ s₂, run (parserStep onSuccess) {} es₁ = some s₁ ∧
        parserStep onSuccess s₁ (.response data) = some s₂ ∧
        run (parserStep onSuccess) s₂ es₂ = some s ∧ ResponseEffect es₁ data.1 s₁ s₂) ∧
    (∀ es₁ id request es₂, es = es₁ ++ .register id request :: es₂ →
      ∃ s₁ s₂, run (parserStep onSuccess) {} es₁ = some s₁ ∧
        parserStep onSuccess s₁ (.register id request) = some s₂ ∧
        run (parserStep onSuccess) s₂ es₂ = some s ∧
        id ∉ s₁.requests ∧ s₂ = { s₁ with requests := s₁.requests.insert id request }) ∧
    (∀ rs rs' : List FramedResponse, rs.Perm rs' → (rs.map FramedResponse.id).Nodup →
      (∀ r ∈ rs, r.id ∈ s.requests) →
      ∃ t t', run (parserStep onSuccess) s (rs.map fun r => .response r.data) = some t ∧
        run (parserStep onSuccess) s (rs'.map fun r => .response r.data) = some t' ∧
        t.requests = t'.requests ∧
        (t.deliveries.map Delivery.idValue).Perm (t'.deliveries.map Delivery.idValue)) := by
  refine ⟨(matchingInv_run hids hrun).nodup, ?_, ?_, ?_⟩
  · rintro es₁ data es₂ rfl
    obtain ⟨s₁, h₁, hrest⟩ := (run_append_eq_some _).1 hrun
    obtain ⟨s₂, h₂, h₃⟩ := (run_cons_eq_some _).1 hrest
    exact ⟨s₁, s₂, h₁, h₂, h₃,
      responseEffect_of_step hids.prefix (matchingInv_run hids.prefix h₁).entry h₂⟩
  · rintro es₁ id request es₂ rfl
    obtain ⟨s₁, h₁, hrest⟩ := (run_append_eq_some _).1 hrun
    obtain ⟨s₂, h₂, h₃⟩ := (run_cons_eq_some _).1 hrest
    have hfresh : FreshIds ((es₁ ++ [.register id request]) ++ es₂) := by
      rwa [List.append_assoc]
    replace hfresh := hfresh.prefix
    obtain ⟨hnot, heq⟩ := requests_of_register hfresh (matchingInv_run hids.prefix h₁).entry
    refine ⟨s₁, s₂, h₁, h₂, h₃, hnot, ?_⟩
    rw [parserStep, heq, Option.some.injEq] at h₂
    exact h₂.symm
  · intro rs rs' hperm hnodup hmem
    have hids' := hperm.map FramedResponse.id
    obtain ⟨t, ht, htable, hdel⟩ := run_framed onSuccess hnodup hmem
    obtain ⟨t', ht', htable', hdel'⟩ := run_framed onSuccess (hids'.nodup_iff.1 hnodup)
      fun r hr => hmem r (hperm.mem_iff.2 hr)
    refine ⟨t, t', ht, ht', Finmap.ext_lookup fun id => ?_, ?_⟩
    · rw [htable, htable']
      simp only [hids'.mem_iff]
    · rw [hdel, hdel']
      refine List.Perm.append_right _ ?_
      refine (List.reverse_perm _).trans (List.Perm.trans ?_ (List.reverse_perm _).symm)
      exact hperm.map _

end Matching

/-- A request is registered, and its response `true` comes back twice. -/
def oneRequestTwoResponses : List (ParserCall Unit) :=
  [.register 1 { data := ascii "x", waitForResponse := true, successCallback := some () },
    .response ⟨createRequestIdData 1 ++ serializeBool true, by decide⟩,
    .response ⟨createRequestIdData 1 ++ serializeBool true, by decide⟩]

/-- The callback is called once, with the value of the first response. -/
theorem oneRequestTwoResponses_matched :
    ∃ s, run (parserStep fun _ _ repository => repository) {} oneRequestTwoResponses = some s ∧
      s.deliveries.map Delivery.idValue = [(1, .bool true)] ∧
      (s.deliveries.map Delivery.id).Nodup := by
  have hids : FreshIds oneRequestTwoResponses := by
    refine ⟨by decide, fun id hid => ?_⟩
    rw [List.mem_singleton.1 hid]
    decide
  have hdel : (run (parserStep fun _ _ repository => repository) {} oneRequestTwoResponses).map
      (fun s => s.deliveries.map Delivery.idValue) = some [(1, .bool true)] := by decide
  obtain ⟨s, hrun, hs⟩ := Option.map_eq_some_iff.1 hdel
  exact ⟨s, hrun, hs, (responses_matched _ oneRequestTwoResponses s hids hrun).1⟩

end NamedPipeDemo
