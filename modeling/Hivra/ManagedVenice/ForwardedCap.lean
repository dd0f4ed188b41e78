import Hivra.ManagedVenice.ChatOutputBudget

/-!
# The cap a forwarded body runs with

The worst case of a body, and what the estimator makes of the same body: the cap it
prices is that worst case, whichever cap fields were sent and whether the body was
rewritten or not.
-/

namespace Hivra.ManagedVenice

open Hivra.Library
open Hivra.Venice

def sentCaps (protocol : ChatProtocol) (body : Json) : List Nat :=
  (capFields protocol).filterMap fun field =>
    match readOutputCap body field with
    | .ok cap => cap
    | .error _ => none

def largestWithin (bound : Nat) (caps : List Nat) : Nat :=
  match caps with
  | [] => bound
  | caps => min (caps.foldr max 0) bound

/-- What a model can output at most: the maximum Venice published, else nothing bounds it
but the catalog's maximum or the context window, whichever is larger. -/
def outputBound (price : VeniceChatModelPrice) : Nat :=
  match price.maxOutputTokensSource with
  | .veniceLive => price.maxOutputTokens
  | .catalog => max price.maxOutputTokens price.contextWindow

def worstCaseCap (protocol : ChatProtocol) (body : Json) (price : VeniceChatModelPrice) : Nat :=
  largestWithin (outputBound price) (sentCaps protocol body)

theorem unpatched_price_max (price : VeniceChatModelPrice) :
    (unpatchedPrice price).maxOutputTokens = outputBound price := by
  unfold unpatchedPrice outputBound outputMaximumConfirmed
  cases price.maxOutputTokensSource with
  | veniceLive => rfl
  | catalog => rfl

variable {cap : Nat}

theorem foldr_max_of_all_same {caps : List Nat} (nonempty : caps ≠ [])
    (same : ∀ other ∈ caps, other = cap) : caps.foldr max 0 = cap := by
  induction caps with
  | nil => exact absurd rfl nonempty
  | cons first rest ih =>
    rw [List.foldr_cons, same first List.mem_cons_self]
    cases rest with
    | nil => simp
    | cons second rest =>
      rw [ih (List.cons_ne_nil _ _) fun other member =>
        same other (List.mem_cons_of_mem first member)]
      exact Nat.max_self cap

theorem largest_within_same {caps : List Nat} (nonempty : ¬ caps = [])
    (same : ∀ other ∈ caps, other = cap) (bound : Nat) :
    largestWithin bound caps = min cap bound := by
  have largest := foldr_max_of_all_same nonempty same
  cases caps with
  | nil => exact absurd rfl nonempty
  | cons first rest =>
    rw [largestWithin, largest]
    exact nonempty

variable {value : Option Json} {body : Json}

theorem read_unsent (label : String) (unsent : isSent value = false) :
    readVeniceChatPositiveInteger value label = .ok none := by
  rcases value with _ | value
  · rfl
  · cases value with
    | null => rfl
    | _ => cases unsent

theorem read_label {label : String} {cap : Option Nat} (other : String)
    (read : readVeniceChatPositiveInteger value label = .ok cap) :
    readVeniceChatPositiveInteger value other = .ok cap := by
  unfold readVeniceChatPositiveInteger at *
  split at read
  · exact read
  · exact read
  · rename_i value _
    cases whole : value.safeInteger? with
    | none => simp [whole] at read
    | some whole =>
      simp only [whole] at read ⊢
      split_ifs at read ⊢
      exact read

theorem read_same_cap {label : String} {read : Option Nat} (same : isSameCap value cap = true)
    (ok : readVeniceChatPositiveInteger value label = .ok read) : read = some cap := by
  rcases value with _ | value
  · cases same
  · cases value with
    | number amount text =>
      have amountEq : amount = (cap : Rat) := by
        simpa [isSameCap, Json.number?] using same
      subst amountEq
      have whole : (Json.number (cap : Rat) text).integer? = some (cap : Int) := by
        simp [Json.integer?]
      unfold readVeniceChatPositiveInteger at ok
      simp only [Json.safeInteger?, whole] at ok
      by_cases safe : (cap : Int).natAbs ≤ Json.maxSafeInteger
      · rw [if_pos safe] at ok
        by_cases positive : 0 < (cap : Int)
        · simp only [positive, if_true, Except.ok.injEq] at ok
          rw [← ok, Int.toNat_natCast]
        · simp only [positive, if_false, reduceCtorEq] at ok
      · simp only [safe, if_false, reduceCtorEq] at ok
    | _ => simp [isSameCap, Json.number?] at same

theorem same_cap_of_nat (cap : Nat) : isSameCap (some (.ofNat cap)) cap = true := by
  simp [isSameCap]

theorem member_apply_patch (isRecord : body.isRecord = true) (fields : List OutputCapField)
    (cap : Nat) (key : String) :
    (applyPatch body (fields.map fun field => (field, cap))).isRecord = true ∧
      (applyPatch body (fields.map fun field => (field, cap))).member? key =
        if fields.any (fun field => field.name == key) then some (.ofNat cap)
        else body.member? key := by
  induction fields generalizing body with
  | nil => exact ⟨isRecord, rfl⟩
  | cons field fields ih =>
    have setRecord : (body.set field.name (.ofNat cap)).isRecord = true := by
      rw [Json.is_record_set]
      exact isRecord
    rcases ih setRecord with ⟨record, member⟩
    constructor
    · exact record
    · rw [List.map_cons, applyPatch, List.foldl_cons, ← applyPatch, member,
        Json.member_set isRecord]
      by_cases here : key = field.name
      · simp [here]
      · have apart : ¬ field.name = key := fun same => here same.symm
        simp [here, apart]

theorem patch_fields (protocol : ChatProtocol) (body : Json) (cap : Nat)
    (price : VeniceChatModelPrice) : ∃ fields : List OutputCapField,
      managedVeniceOutputCapPatch protocol body cap price =
          fields.map (fun field => (field, cap)) ∧
        (∀ field ∈ fields, field ∈ capFields protocol) ∧
        (∀ field ∈ capFields protocol, isSent (body.member? field.name) = true →
          field ∈ fields ∨ isSameCap (body.member? field.name) cap = true) ∧
        ((∀ field ∈ capFields protocol, isSent (body.member? field.name) = false) →
          injectedField protocol ∈ fields ∨
            (fields = [] ∧ price.maxOutputTokens ≤ cap ∧ outputMaximumConfirmed price = true)) := by
  have injected : injectedField protocol ∈ capFields protocol := by
    cases protocol with
    | chat => decide
    | responses => decide
  let sent := (capFields protocol).filter fun field => isSent (body.member? field.name)
  have sentIff : ∀ field, field ∈ sent ↔
      field ∈ capFields protocol ∧ isSent (body.member? field.name) = true := by
    intro field
    exact List.mem_filter
  unfold managedVeniceOutputCapPatch
  dsimp only
  split_ifs with injects
  · simp only [Bool.and_eq_true, List.isEmpty_iff] at injects
    refine ⟨[injectedField protocol], rfl, ?_, ?_, ?_⟩
    · intro field member
      rw [List.mem_singleton.mp member]
      exact injected
    · intro field member isSentField
      have listed : field ∈ sent := (sentIff field).mpr ⟨member, isSentField⟩
      change sent = [] ∧ _ at injects
      rw [injects.1] at listed
      cases listed
    · intro _
      exact .inl (List.mem_singleton_self _)
  · refine ⟨sent.filter fun field => !isSameCap (body.member? field.name) cap, rfl, ?_, ?_, ?_⟩
    · intro field member
      exact ((sentIff field).mp (List.mem_filter.mp member).1).1
    · intro field member isSentField
      by_cases same : isSameCap (body.member? field.name) cap = true
      · exact .inr same
      · left
        apply List.mem_filter.mpr
        exact ⟨(sentIff field).mpr ⟨member, isSentField⟩, by simp [same]⟩
    · intro unsent
      have nothing : sent = [] := by
        rw [List.eq_nil_iff_forall_not_mem]
        intro field member
        rcases (sentIff field).mp member with ⟨listed, isSentField⟩
        rw [unsent field listed] at isSentField
        cases isSentField
      right
      change ¬ (sent.isEmpty && _) = true at injects
      rw [nothing] at injects ⊢
      simp only [List.isEmpty_nil, Bool.true_and, Bool.or_eq_true, decide_eq_true_eq,
        Bool.not_eq_true', not_or, Bool.not_eq_false, Nat.not_lt] at injects
      exact ⟨rfl, injects.1, injects.2⟩

theorem forwarded_fields (isRecord : body.isRecord = true) (protocol : ChatProtocol) (cap : Nat)
    (price : VeniceChatModelPrice) :
    let forwarded := applyPatch body (managedVeniceOutputCapPatch protocol body cap price)
    (∀ field ∈ capFields protocol, isSameCap (forwarded.member? field.name) cap = true ∨
        isSent (forwarded.member? field.name) = false) ∧
      ((∃ field ∈ capFields protocol, isSameCap (forwarded.member? field.name) cap = true) ∨
        (price.maxOutputTokens ≤ cap ∧ outputMaximumConfirmed price = true)) := by
  rcases patch_fields protocol body cap price with ⟨fields, patch, listed, sent, unsent⟩
  rw [patch]
  dsimp only
  have patched : ∀ field ∈ fields, isSameCap
      ((applyPatch body (fields.map fun field => (field, cap))).member? field.name) cap = true := by
    intro field member
    have any : fields.any (fun other => other.name == field.name) = true :=
      List.any_eq_true.mpr ⟨field, member, by simp⟩
    rw [(member_apply_patch isRecord fields cap field.name).2, if_pos any]
    exact same_cap_of_nat cap
  have kept : ∀ field : OutputCapField, isSameCap (body.member? field.name) cap = true → isSameCap
      ((applyPatch body (fields.map fun field => (field, cap))).member? field.name) cap = true := by
    intro field same
    rw [(member_apply_patch isRecord fields cap field.name).2]
    split_ifs
    · exact same_cap_of_nat cap
    · exact same
  constructor
  · intro field member
    cases isSentField : isSent (body.member? field.name) with
    | true =>
      rcases sent field member isSentField with inPatch | same
      · exact .inl (patched field inPatch)
      · exact .inl (kept field same)
    | false =>
      rw [(member_apply_patch isRecord fields cap field.name).2]
      split_ifs
      · exact .inl (same_cap_of_nat cap)
      · exact .inr isSentField
  · by_cases anySent : ∃ field ∈ capFields protocol, isSent (body.member? field.name) = true
    · rcases anySent with ⟨field, member, isSentField⟩
      left
      rcases sent field member isSentField with inPatch | same
      · exact ⟨field, member, patched field inPatch⟩
      · exact ⟨field, member, kept field same⟩
    · have noneSent : ∀ field ∈ capFields protocol,
          isSent (body.member? field.name) = false := by
        intro field member
        by_contra isSentField
        exact anySent ⟨field, member, by simpa using isSentField⟩
      rcases unsent noneSent with inPatch | ⟨_, atMaximum, confirmed⟩
      · exact .inl ⟨_, listed _ inPatch, patched _ inPatch⟩
      · exact .inr ⟨atMaximum, confirmed⟩

theorem find_optional_member (name key : String) (value : Option Json) :
    ((optionalMember name value).find? fun entry => entry.1 == key) =
      if name = key then value.map (fun value => (name, value)) else none := by
  cases value with
  | none => simp [optionalMember]
  | some value =>
    by_cases same : name = key
    · simp [optionalMember, same]
    · simp [optionalMember, same]

/-- The chat-shaped request of a Responses body has its cap in the one chat field, and
neither the other field nor `n`. -/
theorem responses_estimate_members (body : Json) :
    (responsesEstimate body).member? "max_completion_tokens" = body.member? "max_output_tokens" ∧
      (responsesEstimate body).member? "max_tokens" = none := by
  constructor
  · rw [responsesEstimate, Json.member_object]
    cases body.member? "max_output_tokens" with
    | none => simp [find_optional_member, List.find?_append]
    | some value => simp [find_optional_member, List.find?_append]
  · rw [responsesEstimate, Json.member_object]
    simp [find_optional_member, List.find?_append]

def capKeys : List String := ["max_completion_tokens", "max_tokens", "max_output_tokens"]

theorem field_name_mem (field : OutputCapField) : field.name ∈ capKeys := by
  cases field with
  | maxCompletionTokens => decide
  | maxTokens => decide
  | maxOutputTokens => decide

structure EstimateOf (protocol : ChatProtocol) (forwarded unpatched estimateBody : Json) : Prop where
  isRecord : estimateBody.isRecord = true
  completion : estimateBody.member? "max_completion_tokens" =
    forwarded.member? (injectedField protocol).name
  tokens : estimateBody.member? "max_tokens" =
    if protocol = .chat then forwarded.member? "max_tokens" else none
  others : ∀ key, key ∉ capKeys → estimateBody.member? key = unpatched.member? key

variable {protocol : ChatProtocol} {unpatched estimateBody : Json}

theorem estimate_of_patch {body : Json} (isRecord : body.isRecord = true)
    (fields : List OutputCapField) (cap : Nat)
    (listed : ∀ field ∈ fields, field ∈ capFields protocol)
    (plain : managedVeniceChatEstimateBody protocol body [] = .ok unpatched)
    (estimated : managedVeniceChatEstimateBody protocol body
      (fields.map fun field => (field, cap)) = .ok estimateBody) :
    EstimateOf protocol (applyPatch body (fields.map fun field => (field, cap))) unpatched
      estimateBody := by
  rcases member_apply_patch isRecord fields cap (injectedField protocol).name with ⟨record, _⟩
  have members := fun key => (member_apply_patch isRecord fields cap key).2
  have others : ∀ key, key ∉ capKeys →
      (applyPatch body (fields.map fun field => (field, cap))).member? key = body.member? key := by
    intro key apart
    rw [members key, if_neg]
    intro any
    rcases List.any_eq_true.mp any with ⟨field, _, same⟩
    rw [← beq_iff_eq.mp same] at apart
    exact apart (field_name_mem field)
  cases protocol with
  | chat =>
    cases plain
    cases estimated
    exact
      { isRecord := record
        completion := rfl
        tokens := rfl
        others }
  | responses =>
    have only : ∀ field ∈ fields, field = .maxOutputTokens := by
      intro field member
      simpa [capFields] using listed field member
    unfold managedVeniceChatEstimateBody at plain estimated
    cases accepted : responsesEstimateRequest body with
    | error message => simp [accepted, bind, Except.bind] at plain
    | ok estimate =>
      rcases responses_cap_checked accepted with ⟨_, estimateEq⟩
      subst estimateEq
      rcases responses_estimate_members body with ⟨completion, tokens⟩
      simp only [accepted, bind, Except.bind] at plain estimated
      cases plain
      cases fields with
      | nil =>
        cases estimated
        exact
          { isRecord := rfl
            completion
            tokens
            others := fun _ _ => rfl }
      | cons field fields =>
        have first := only field List.mem_cons_self
        subst first
        have isCap : OutputCapPatch.maxOutputTokens? (((OutputCapField.maxOutputTokens ::
            fields).map fun field => (field, cap)) : OutputCapPatch) = some cap := rfl
        rw [isCap] at estimated
        cases estimated
        have isEstimate : (responsesEstimate body).isRecord = true := rfl
        have changed := fun key => Json.member_set isEstimate "max_completion_tokens" key
          (.ofNat cap)
        exact
          { isRecord := rfl
            completion := by
              rw [changed, if_pos rfl, members]
              rfl
            tokens := by
              rw [changed, if_neg (by decide)]
              exact tokens
            others := by
              intro key apart
              rw [changed, if_neg]
              intro same
              subst same
              exact apart (by decide) }

variable {out : Nat} {price : VeniceChatModelPrice}

theorem worst_case_ok {request : Json}
    (worst : worstCaseVeniceChatOutputCap request price = .ok out) : ∃ completion tokens,
      readVeniceChatPositiveInteger (request.member? "max_completion_tokens")
          "max_completion_tokens" = .ok completion ∧
        readVeniceChatPositiveInteger (request.member? "max_tokens") "max_tokens" = .ok tokens ∧
        out = largestWithin price.maxOutputTokens (completion.toList ++ tokens.toList) := by
  unfold worstCaseVeniceChatOutputCap at worst
  cases completionRead : readVeniceChatPositiveInteger (request.member? "max_completion_tokens")
    "max_completion_tokens" with
  | error failure => simp [completionRead, bind, Except.bind] at worst
  | ok completion =>
    cases tokensRead : readVeniceChatPositiveInteger (request.member? "max_tokens")
      "max_tokens" with
    | error failure => simp [completionRead, tokensRead, bind, Except.bind] at worst
    | ok tokens =>
      refine ⟨completion, tokens, rfl, rfl, ?_⟩
      simp only [completionRead, tokensRead, bind, Except.bind, pure, Except.pure,
        Except.ok.injEq] at worst
      rw [← worst]
      cases completion with
      | none =>
        cases tokens with
        | none => exact Nat.min_self _
        | some tokens => simp [largestWithin]
      | some completion =>
        cases tokens with
        | none => simp [largestWithin]
        | some tokens => simp [largestWithin]

theorem worst_case_sent_caps {forwarded : Json}
    (estimateOf : EstimateOf protocol forwarded unpatched estimateBody)
    (worst : worstCaseVeniceChatOutputCap estimateBody price = .ok out) :
    (∀ field ∈ capFields protocol, ∃ cap, readOutputCap forwarded field = .ok cap) ∧
      out = largestWithin price.maxOutputTokens (sentCaps protocol forwarded) := by
  rcases worst_case_ok worst with ⟨completion, tokens, completionRead, tokensRead, outEq⟩
  rw [estimateOf.completion] at completionRead
  rw [estimateOf.tokens] at tokensRead
  cases protocol with
  | chat =>
    have first : readOutputCap forwarded .maxCompletionTokens = .ok completion := completionRead
    have second : readOutputCap forwarded .maxTokens = .ok tokens := tokensRead
    constructor
    · intro field member
      rcases List.mem_cons.mp member with isFirst | isSecond
      · exact ⟨completion, isFirst ▸ first⟩
      · exact ⟨tokens, List.mem_singleton.mp isSecond ▸ second⟩
    · have caps : sentCaps .chat forwarded = completion.toList ++ tokens.toList := by
        unfold sentCaps capFields
        cases completion with
        | none =>
          cases tokens with
          | none => simp [first, second]
          | some tokens => simp [first, second]
        | some completion =>
          cases tokens with
          | none => simp [first, second]
          | some tokens => simp [first, second]
      rw [caps]
      exact outEq
  | responses =>
    have only : readOutputCap forwarded .maxOutputTokens = .ok completion :=
      read_label "max_output_tokens" completionRead
    have nothing : tokens = none := by
      cases tokensRead
      rfl
    constructor
    · intro field member
      exact ⟨completion, List.mem_singleton.mp member ▸ only⟩
    · have caps : sentCaps .responses forwarded = completion.toList := by
        unfold sentCaps capFields
        cases completion with
        | none => simp [only]
        | some completion => simp [only]
      rw [caps, outEq, nothing, Option.toList_none, List.append_nil]

theorem patched_worst_case {body : Json} (isRecord : body.isRecord = true)
    (within : cap ≤ price.maxOutputTokens)
    (plain : managedVeniceChatEstimateBody protocol body [] = .ok unpatched)
    (estimated : managedVeniceChatEstimateBody protocol body
      (managedVeniceOutputCapPatch protocol body cap price) = .ok estimateBody)
    (worst : worstCaseVeniceChatOutputCap estimateBody price = .ok out) : out = cap ∧
      worstCaseCap protocol
        (applyPatch body (managedVeniceOutputCapPatch protocol body cap price)) price ≤ cap := by
  have estimateOf : EstimateOf protocol
      (applyPatch body (managedVeniceOutputCapPatch protocol body cap price)) unpatched
      estimateBody := by
    rcases patch_fields protocol body cap price with ⟨fields, patch, listed, _, _⟩
    rw [patch] at estimated ⊢
    exact estimate_of_patch isRecord fields cap listed plain estimated
  rcases worst_case_sent_caps estimateOf worst with ⟨reads, outEq⟩
  rcases forwarded_fields isRecord protocol cap price with ⟨fields, some⟩
  let forwarded := applyPatch body (managedVeniceOutputCapPatch protocol body cap price)
  have allCap : ∀ other ∈ sentCaps protocol forwarded, other = cap := by
    intro other member
    rcases List.mem_filterMap.mp member with ⟨field, listed, read⟩
    rcases reads field listed with ⟨value, valueRead⟩
    change readOutputCap forwarded field = .ok value at valueRead
    rw [valueRead] at read
    rcases fields field listed with same | unsent
    · have isCap := read_same_cap same valueRead
      rw [isCap] at read
      exact (Option.some.inj read).symm
    · have isNone := (read_unsent field.name unsent).symm.trans valueRead
      cases isNone
      cases read
  by_cases empty : sentCaps protocol forwarded = []
  · rcases some with ⟨field, listed, same⟩ | ⟨atMaximum, confirmed⟩
    · exfalso
      rcases reads field listed with ⟨value, valueRead⟩
      have isCap := read_same_cap same valueRead
      have member : cap ∈ sentCaps protocol forwarded := by
        apply List.mem_filterMap.mpr
        refine ⟨field, listed, ?_⟩
        change readOutputCap forwarded field = .ok value at valueRead
        rw [valueRead]
        exact isCap
      rw [empty] at member
      cases member
    · have maximum : price.maxOutputTokens = cap := Nat.le_antisymm atMaximum within
      have bound : outputBound price = cap := by
        rw [← unpatched_price_max, unpatchedPrice, if_pos confirmed, maximum]
      change out = largestWithin price.maxOutputTokens (sentCaps protocol forwarded) at outEq
      constructor
      · rw [outEq, empty]
        exact maximum
      · change largestWithin (outputBound price) (sentCaps protocol forwarded) ≤ cap
        rw [empty]
        exact Nat.le_of_eq bound
  · change out = largestWithin price.maxOutputTokens (sentCaps protocol forwarded) at outEq
    constructor
    · rw [outEq, largest_within_same empty allCap, Nat.min_eq_left within]
    · change largestWithin (outputBound price) (sentCaps protocol forwarded) ≤ cap
      rw [largest_within_same empty allCap]
      exact Nat.min_le_left _ _

theorem unpatched_worst_case (isRecord : body.isRecord = true)
    (plain : managedVeniceChatEstimateBody protocol body [] = .ok estimateBody)
    (worst : worstCaseVeniceChatOutputCap estimateBody (unpatchedPrice price) = .ok out) :
    worstCaseCap protocol body price = out := by
  have estimateOf : EstimateOf protocol body estimateBody estimateBody := by
    have nothing : ∀ field ∈ ([] : List OutputCapField), field ∈ capFields protocol :=
      fun _ impossible => by cases impossible
    exact estimate_of_patch isRecord [] 0 nothing plain plain
  rw [(worst_case_sent_caps estimateOf worst).2, unpatched_price_max]
  rfl

end Hivra.ManagedVenice
