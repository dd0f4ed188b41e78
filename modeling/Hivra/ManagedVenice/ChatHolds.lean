import Hivra.ManagedVenice.ForwardedCap
import Hivra.ManagedVenice.WalletBacking

/-!
# The hold behind a forwarded request

Whatever the database answers along the way, a reservation that is returned for a
new reference has inserted a hold, and the hold covers the input and the worst case
of the body that is forwarded.
-/

namespace Hivra.ManagedVenice

open Hivra.Library
open Hivra.Venice

def outputChoices (estimateBody : Json) : Nat :=
  match readVeniceChatPositiveInteger (estimateBody.member? "n") "n" with
  | .ok choices => choices.getD 1
  | .error _ => 1

/-- `ceil(1.1 * (input estimate + price of cap * n output tokens))` and the options. -/
def coveringHoldMicroUsd (price : VeniceChatModelPrice) (estimateBody : Json) (cap : Nat)
    (surcharge : Option SurchargePlan) : Nat :=
  multiplyMicrodollarsByRatio
      (calculateVeniceTokenCostMicroUsd (estimatedInputTokens price (estimateInput estimateBody))
          price.inputMicroUsdPerMillion +
        calculateVeniceTokenCostMicroUsd (doubleProduct cap (outputChoices estimateBody))
          price.outputMicroUsdPerMillion) 110 100 +
    surchargeHoldMicroUsd surcharge

section

variable {left right : Json} (others : ∀ key, key ∉ capKeys → left.member? key = right.member? key)
include others

theorem estimate_input_of_others : estimateInput left = estimateInput right := by
  have same : ∀ key tallyOne tally, key ∉ capKeys →
      tallyMember key left tallyOne tally = tallyMember key right tallyOne tally := by
    intro key tallyOne tally apart
    rw [tallyMember, others key apart, tallyMember]
  unfold estimateInput
  dsimp only
  rw [others "messages" (by decide), same "tools" _ _ (by decide),
    same "functions" _ _ (by decide), same "response_format" _ _ (by decide)]

theorem output_choices_of_others : outputChoices left = outputChoices right := by
  rw [outputChoices, others "n" (by decide), outputChoices]

end

variable {book : PriceBook}

theorem estimate_ok {request : Json} {estimate : ChatCostEstimate}
    (ok : estimateChatCompletionCost book request = .ok estimate) :
    ∃ price out, resolveRequestPrice book request = .ok price ∧
      worstCaseVeniceChatOutputCap request price = .ok out ∧
      ∀ surcharge, estimate.reservedCostMicroUsd + surchargeHoldMicroUsd surcharge =
        coveringHoldMicroUsd price request out surcharge := by
  unfold estimateChatCompletionCost at ok
  cases resolved : resolveRequestPrice book request with
  | error failure => simp [resolved, bind, Except.bind] at ok
  | ok price =>
    cases worst : worstCaseVeniceChatOutputCap request price with
    | error failure => simp [resolved, worst, bind, Except.bind] at ok
    | ok out =>
      cases choices : readVeniceChatPositiveInteger (request.member? "n") "n" with
      | error failure => simp [resolved, worst, choices, bind, Except.bind] at ok
      | ok choices =>
        refine ⟨price, out, rfl, worst, ?_⟩
        intro surcharge
        simp only [resolved, worst, choices, bind, Except.bind, pure, Except.pure,
          Except.ok.injEq] at ok
        rw [← ok, coveringHoldMicroUsd, outputChoices]
        simp only [choices]
        rfl

variable {early : List (Exchange Statement Turn SettlementStore)} {userId : String}
variable {share : Option Nat}

variable {referenceId : String} {amountMicroUsd cap : Nat} {reservation : ChatReservation}
  {patch : OutputCapPatch} {budgeted : BudgetedReservation}

section Runs

variable {caller : Nat}
variable {exchanges : List (Exchange Statement Turn SettlementStore)}

theorem ends_ask {statement : Statement} {answer : statement.Answer}
    (ends : Ends (performStatement caller) (ask statement) exchanges (.ok answer)) :
    ∃ turn store, exchanges = [{ request := statement, fault := turn, store }] ∧
      (performStatement caller statement turn store).2 = .ok answer := by
  rcases ends_bind ends with ⟨early, late, reply, split, requested, rest⟩
  rcases ends_request requested with ⟨turn, store, earlyEq, replyEq⟩
  cases reply with
  | error failure => exact absurd rest raise_returns_nothing
  | ok value =>
    rcases ends_ret rest with ⟨answerEq, lateEq⟩
    refine ⟨turn, store, ?_, ?_⟩
    · rw [split, earlyEq, lateEq, List.append_nil]
    · rw [Except.ok.inj answerEq]
      exact (Except.ok.inj replyEq).symm

variable {Outcome Middle Result : Type} {late : List (Exchange Statement Turn SettlementStore)}

theorem ends_of_ok {Problem : Type} {script : Except Problem Outcome → Settlement Outcome}
    (returns : ∀ outcome, script (.ok outcome) = .ret outcome)
    (raises : ∀ problem, ∃ failure, script (.error problem) = .raise failure)
    {result : Except Problem Outcome} {outcome : Outcome}
    (ends : Ends (performStatement caller) (script result) exchanges (.ok outcome)) :
    result = .ok outcome := by
  cases result with
  | error problem =>
    obtain ⟨failure, raised⟩ := raises problem
    rw [raised] at ends
    exact absurd ends raise_returns_nothing
  | ok value =>
    rw [returns] at ends
    rw [Except.ok.inj (ends_ret ends).1]

theorem ends_or_throw {result : Except VeniceError Outcome} {outcome : Outcome}
    (ends : Ends (performStatement caller) (orThrow result) exchanges (.ok outcome)) :
    result = .ok outcome :=
  ends_of_ok (fun _ => rfl) (fun _ => ⟨_, rfl⟩) ends

theorem ends_or_refuse {result : Except String Outcome} {outcome : Outcome}
    (ends : Ends (performStatement caller) (orRefuse result) exchanges (.ok outcome)) :
    result = .ok outcome :=
  ends_of_ok (fun _ => rfl) (fun _ => ⟨_, rfl⟩) ends

def ReferenceNew (userId referenceId : String)
    (exchanges : List (Exchange Statement Turn SettlementStore)) : Prop :=
  ∀ exchange ∈ exchanges, exchange.store.wallets.findReservation userId referenceId = none

def HoldInserted (caller : Nat) (userId referenceId : String) (amountMicroUsd : Nat)
    (exchanges : List (Exchange Statement Turn SettlementStore)) : Prop :=
  ∃ exchange ∈ exchanges, ∃ row,
    row ∈ (exchange.after (performStatement caller)).wallets.reservations ∧
      row.userId = userId ∧ row.referenceId = referenceId ∧ row.status = .active ∧
        row.reservedMicroUsd = amountMicroUsd

theorem reference_new_append (new : ReferenceNew userId referenceId (early ++ late)) :
    ReferenceNew userId referenceId early ∧ ReferenceNew userId referenceId late := by
  constructor
  · intro exchange member
    exact new exchange (List.mem_append_left late member)
  · intro exchange member
    exact new exchange (List.mem_append_right early member)

theorem hold_inserted_left (inserted : HoldInserted caller userId referenceId amountMicroUsd early)
    (late : List (Exchange Statement Turn SettlementStore)) :
    HoldInserted caller userId referenceId amountMicroUsd (early ++ late) := by
  rcases inserted with ⟨exchange, member, row⟩
  exact ⟨exchange, List.mem_append_left late member, row⟩

theorem hold_inserted_right (inserted : HoldInserted caller userId referenceId amountMicroUsd late)
    (early : List (Exchange Statement Turn SettlementStore)) :
    HoldInserted caller userId referenceId amountMicroUsd (early ++ late) := by
  rcases inserted with ⟨exchange, member, row⟩
  exact ⟨exchange, List.mem_append_right early member, row⟩

theorem hold_inserted_bind {Middle Result : Type} {first : Settlement Middle}
    {next : Middle → Settlement Result} {result : Result}
    (ends : Ends (performStatement caller) (first.bind next) exchanges (.ok result))
    (new : ReferenceNew userId referenceId exchanges)
    (rest : ∀ early late middle, ReferenceNew userId referenceId early →
      ReferenceNew userId referenceId late →
        Ends (performStatement caller) first early (.ok middle) →
          Ends (performStatement caller) (next middle) late (.ok result) →
            HoldInserted caller userId referenceId amountMicroUsd late) :
    HoldInserted caller userId referenceId amountMicroUsd exchanges := by
  rcases ends_bind ends with ⟨early, late, middle, split, head, tail⟩
  subst split
  rcases reference_new_append new with ⟨newEarly, newLate⟩
  exact hold_inserted_right (rest early late middle newEarly newLate head tail) early

theorem insert_row_inserts {hold : NewReservation} {receipt : ReservationReceipt}
    (ends : Ends (performStatement caller) (insertReservationRow hold) exchanges (.ok receipt)) :
    HoldInserted caller hold.userId hold.referenceId hold.reservedMicroUsd exchanges := by
  rcases ends_bind ends with ⟨early, late, reply, split, requested, rest⟩
  rcases ends_request requested with ⟨turn, store, earlyEq, replyEq⟩
  cases reply with
  | error failure =>
    cases failure <;> exact absurd rest raise_returns_nothing
  | ok row =>
    have executes := perform_statement_answer (Except.ok.inj replyEq).symm
    simp only [Statement.execute] at executes
    cases stored : insertReservation (hold.row turn.newId) store.wallets with
    | error failure => simp [stored] at executes
    | ok wallets =>
      simp only [stored, Except.ok.injEq, Prod.mk.injEq] at executes
      rcases insert_reservation_ok stored with ⟨rows, inserted, walletsEq, _⟩
      refine ⟨{ request := .insertReservation hold, fault := turn, store }, ?_,
        hold.row turn.newId, ?_, rfl, rfl, rfl, rfl⟩
      · rw [split, earlyEq]
        exact List.mem_append_left late (List.mem_singleton_self _)
      · rw [Exchange.after, ← executes.1, walletsEq]
        exact (Table.mem_insert inserted).mpr (.inr rfl)

theorem create_reservation_inserts {params : CreateReservation} {receipt : ReservationReceipt}
    (ends : Ends (performStatement caller) (createManagedVeniceReservation params) exchanges
      (.ok receipt))
    (new : ReferenceNew params.userId params.referenceId exchanges) :
    HoldInserted caller params.userId params.referenceId params.amountMicroUsd exchanges := by
  apply hold_inserted_bind ends new
  intro _ checking _ _ newChecking _ checks
  split_ifs at checks
  · exact absurd checks raise_returns_nothing
  · exact absurd checks raise_returns_nothing
  · apply hold_inserted_bind checks newChecking
    intro _ reading _ _ newReading _ reads
    apply hold_inserted_bind reads newReading
    intro loading creating existing newLoading newCreating load creates
    rcases ends_ask load with ⟨turn, store, loadedEq, answer⟩
    have absent : store.wallets.findReservation params.userId params.referenceId = none := by
      rw [loadedEq] at newLoading
      exact newLoading _ (List.mem_singleton_self _)
    have found := perform_statement_answer answer
    simp only [Statement.execute, Except.ok.injEq, Prod.mk.injEq] at found
    have isNone : existing = none := found.2.symm.trans absent
    subst isNone
    apply hold_inserted_bind creates newCreating
    intro _ funding summary _ newFunding _ funds
    dsimp only at funds
    split_ifs at funds
    · exact absurd funds raise_returns_nothing
    · apply hold_inserted_bind funds newFunding
      intro _ inserting account _ _ _ inserts
      exact insert_row_inserts inserts

theorem chat_request_inserts {hold : ChatHold}
    (ends : Ends (performStatement caller) (reserveManagedVeniceChatRequest hold) exchanges
      (.ok reservation)) (new : ReferenceNew hold.userId hold.referenceId exchanges) :
    ∃ estimate, estimateChatCompletionCost hold.book hold.requestBody = .ok estimate ∧
      HoldInserted caller hold.userId hold.referenceId
        (estimate.reservedCostMicroUsd + surchargeHoldMicroUsd hold.surcharge) exchanges := by
  rcases ends_bind ends with ⟨_, capping, estimate, split, estimated, caps⟩
  subst split
  refine ⟨estimate, ends_or_throw estimated, ?_⟩
  apply hold_inserted_right
  apply hold_inserted_bind caps (reference_new_append new).2
  intro _ pricing _ _ newPricing _ prices
  apply hold_inserted_bind prices newPricing
  intro _ creating perMillion _ newCreating _ creates
  rcases ends_bind creates with ⟨created, _, receipt, split, create, _⟩
  subst split
  apply hold_inserted_left
  exact create_reservation_inserts create (reference_new_append newCreating).1

theorem reserve_inserts {request : ChatBudget}
    (ends : Ends (performStatement caller) (reserve request patch book share) exchanges
      (.ok reservation)) (new : ReferenceNew request.userId request.referenceId exchanges) :
    ∃ estimateBody estimate,
      managedVeniceChatEstimateBody request.protocol request.body patch = .ok estimateBody ∧
        estimateChatCompletionCost book estimateBody = .ok estimate ∧
        HoldInserted caller request.userId request.referenceId
          (estimate.reservedCostMicroUsd + surchargeHoldMicroUsd request.surcharge) exchanges := by
  rcases ends_bind ends with ⟨_, reserving, estimateBody, split, estimated, reserves⟩
  subst split
  rcases chat_request_inserts reserves (reference_new_append new).2 with ⟨estimate, ok, inserted⟩
  exact ⟨estimateBody, estimate, ends_or_refuse estimated, ok, hold_inserted_right inserted _⟩

theorem reserve_or_refused_ok {request : ChatBudget}
    (ends : Ends (performStatement caller) (reserveOrRefused request patch share) exchanges
      (.ok (.ok reservation))) :
    ∃ early late, exchanges = early ++ late ∧
      Ends (performStatement caller) (reserve request patch request.book share) early
        (.ok reservation) := by
  rcases ends_handle ends with returned | ⟨_, late, failure, _, _, handled⟩
  · rcases ends_bind returned with ⟨early, late, reserved, split, reserves, rest⟩
    have same := (ends_ret rest).1
    cases same
    exact ⟨early, late, split, reserves⟩
  · exfalso
    split_ifs at handled
    · cases (ends_ret handled).1
    · exact raise_returns_nothing handled

/-- The body a patch forwards runs to no more than the cap, and a hold that covers its input
and that cap has been inserted. -/
structure Covered (caller : Nat) (request : ChatBudget) (price : VeniceChatModelPrice)
    (patch : OutputCapPatch) (cap : Nat)
    (exchanges : List (Exchange Statement Turn SettlementStore)) : Prop where
  worstCase : worstCaseCap request.protocol (applyPatch request.body patch) price ≤ cap
  held : ∃ estimateBody amountMicroUsd,
    managedVeniceChatEstimateBody request.protocol request.body [] = .ok estimateBody ∧
      coveringHoldMicroUsd price estimateBody cap request.surcharge ≤ amountMicroUsd ∧
      HoldInserted caller request.userId request.referenceId amountMicroUsd exchanges

variable {request : ChatBudget} {price : VeniceChatModelPrice}

theorem covered_left (covered : Covered caller request price patch cap early)
    (late : List (Exchange Statement Turn SettlementStore)) :
    Covered caller request price patch cap (early ++ late) := by
  constructor
  · exact covered.worstCase
  · rcases covered.held with ⟨estimateBody, amountMicroUsd, plain, enough, inserted⟩
    exact ⟨estimateBody, amountMicroUsd, plain, enough, hold_inserted_left inserted late⟩

theorem covered_right (covered : Covered caller request price patch cap late)
    (early : List (Exchange Statement Turn SettlementStore)) :
    Covered caller request price patch cap (early ++ late) := by
  constructor
  · exact covered.worstCase
  · rcases covered.held with ⟨estimateBody, amountMicroUsd, plain, enough, inserted⟩
    exact ⟨estimateBody, amountMicroUsd, plain, enough, hold_inserted_right inserted early⟩

theorem covered_bind {Middle Result : Type}
    {first : Settlement Middle} {next : Middle → Settlement Result} {result : Result}
    (ends : Ends (performStatement caller) (first.bind next) exchanges (.ok result))
    (new : ReferenceNew request.userId request.referenceId exchanges)
    (rest : ∀ late middle, ReferenceNew request.userId request.referenceId late →
      Ends (performStatement caller) (next middle) late (.ok result) →
        Covered caller request price patch cap late) :
    Covered caller request price patch cap exchanges := by
  rcases ends_bind ends with ⟨early, late, middle, split, _, tail⟩
  subst split
  exact covered_right (rest late middle (reference_new_append new).2 tail) early

theorem estimate_body_unpatched {protocol : ChatProtocol} {body estimateBody : Json}
    (estimated : managedVeniceChatEstimateBody protocol body patch = .ok estimateBody) :
    ∃ unpatched, managedVeniceChatEstimateBody protocol body [] = .ok unpatched ∧
      unpatched.member? "model" = body.member? "model" := by
  cases protocol with
  | chat => exact ⟨body, rfl, rfl⟩
  | responses =>
    unfold managedVeniceChatEstimateBody at estimated ⊢
    cases accepted : responsesEstimateRequest body with
    | error message => simp [accepted, bind, Except.bind] at estimated
    | ok estimate =>
      refine ⟨estimate, rfl, ?_⟩
      rw [(responses_cap_checked accepted).2, responsesEstimate, Json.member_object]
      cases body.member? "model" with
      | none => simp [find_optional_member, List.find?_append]
      | some model => simp [find_optional_member, List.find?_append]

theorem resolve_request_price {request body : Json}
    (model : request.member? "model" = body.member? "model")
    (resolved : resolveRequestPrice book request = .ok price) :
    resolvePrice book (memberText "model" body) = .ok price := by
  have sameText : stringMember "model" request = stringMember "model" body := by
    rw [stringMember, model, stringMember]
  unfold resolveRequestPrice at resolved
  rw [sameText] at resolved
  cases isText : stringMember "model" body with
  | none => simp [isText] at resolved
  | some text =>
    rw [member_text_of_string isText]
    simpa [isText] using resolved

section

variable (resolved : resolvePrice request.book (memberText "model" request.body) = .ok price)
include resolved

theorem patched_reserve_covers
    (within : cap ≤ price.maxOutputTokens) (ends : Ends (performStatement caller)
      (reserve request (managedVeniceOutputCapPatch request.protocol request.body cap price)
        request.book share) exchanges (.ok reservation))
    (new : ReferenceNew request.userId request.referenceId exchanges) : Covered caller request price
      (managedVeniceOutputCapPatch request.protocol request.body cap price) cap exchanges := by
  rcases reserve_inserts ends new with ⟨estimateBody, estimate, estimated, ok, inserted⟩
  rcases estimate_body_unpatched estimated with ⟨unpatched, plain, unpatchedModel⟩
  rcases estimate_ok ok with ⟨priced, out, pricedEq, worst, amount⟩
  have others : ∀ key, key ∉ capKeys → estimateBody.member? key = unpatched.member? key := by
    rcases patch_fields request.protocol request.body cap price with ⟨fields, patch, listed, _, _⟩
    rw [patch] at estimated
    exact (estimate_of_patch request.bodyIsRecord fields cap listed plain estimated).others
  have model := (others "model" (by decide)).trans unpatchedModel
  have samePrice := (resolve_request_price model pricedEq).symm.trans resolved
  rw [Except.ok.inj samePrice] at worst amount
  rcases patched_worst_case request.bodyIsRecord within plain estimated worst with ⟨outEq, bounded⟩
  constructor
  · exact bounded
  · refine ⟨unpatched, _, plain, ?_, inserted⟩
    rw [amount, outEq]
    apply Nat.le_of_eq
    rw [coveringHoldMicroUsd, coveringHoldMicroUsd, estimate_input_of_others others,
      output_choices_of_others others]

omit resolved in
theorem resolve_unpatched_pricing {model : String} {price : VeniceChatModelPrice}
    (resolved : resolvePrice book model = .ok price) :
    resolvePrice (unpatchedRequestPricing model price book) model = .ok (unpatchedPrice price) := by
  unfold unpatchedRequestPricing unpatchedPrice
  split_ifs
  · exact resolved
  · simp [resolvePrice]

omit resolved in
theorem covering_hold_unpatched (price : VeniceChatModelPrice) (estimateBody : Json) (cap : Nat)
    (surcharge : Option SurchargePlan) :
    coveringHoldMicroUsd (unpatchedPrice price) estimateBody cap surcharge =
      coveringHoldMicroUsd price estimateBody cap surcharge := by
  unfold unpatchedPrice
  split_ifs
  · rfl
  · rfl

theorem unpatched_reserve_covers
    (ends : Ends (performStatement caller) (reserveUnpatched request price) exchanges
      (.ok budgeted)) (new : ReferenceNew request.userId request.referenceId exchanges) :
    Covered caller request price budgeted.bodyPatch budgeted.outputCap exchanges := by
  rcases ends_handle ends with returned | ⟨_, _, failure, _, _, handled⟩
  · rcases ends_bind returned with ⟨reserving, _, reservation, split, reserved, rest⟩
    subst split
    apply covered_left
    have newReserving := (reference_new_append new).1
    rcases ends_bind rest with ⟨_, _, again, _, estimatedAgain, capping⟩
    rcases ends_bind capping with ⟨_, _, out, _, worstAgain, returning⟩
    have budgetedEq := Except.ok.inj (ends_ret returning).1
    rcases reserve_inserts reserved newReserving with
      ⟨estimateBody, estimate, plain, ok, inserted⟩
    have same := (ends_or_refuse estimatedAgain).symm.trans plain
    cases same
    have worst := ends_or_throw worstAgain
    rcases estimate_ok ok with ⟨priced, pricedOut, pricedEq, pricedWorst, amount⟩
    rcases estimate_body_unpatched plain with ⟨unpatched, plainAgain, unpatchedModel⟩
    have sameBody := plainAgain.symm.trans plain
    cases sameBody
    have samePrice := (resolve_request_price unpatchedModel pricedEq).symm.trans
      (resolve_unpatched_pricing resolved)
    rw [Except.ok.inj samePrice] at pricedWorst amount
    have sameOut := pricedWorst.symm.trans worst
    cases sameOut
    rw [budgetedEq]
    constructor
    · exact Nat.le_of_eq (unpatched_worst_case request.bodyIsRecord plain worst)
    · refine ⟨_, _, plain, ?_, inserted⟩
      rw [amount, covering_hold_unpatched]
  · exfalso
    split_ifs at handled
    · rcases ends_bind handled with ⟨_, _, _, _, _, estimating⟩
      rcases ends_bind estimating with ⟨_, _, _, _, _, balancing⟩
      rcases ends_bind balancing with ⟨_, _, _, _, _, refusing⟩
      exact raise_returns_nothing refusing
    · exact raise_returns_nothing handled

theorem lowered_reserve_covers {fullCap floorHoldMicroUsd : Nat}
    (within : cap ≤ price.maxOutputTokens) (ends : Ends (performStatement caller)
      (reserveLowered request price fullCap cap floorHoldMicroUsd) exchanges (.ok budgeted))
    (new : ReferenceNew request.userId request.referenceId exchanges) :
    Covered caller request price budgeted.bodyPatch budgeted.outputCap exchanges := by
  rcases ends_bind ends with ⟨trying, _, outcome, split, tried, rest⟩
  subst split
  apply covered_left
  have newTrying := (reference_new_append new).1
  cases outcome with
  | ok reservation =>
    have budgetedEq := Except.ok.inj (ends_ret rest).1
    rcases reserve_or_refused_ok tried with ⟨reserving, _, split, reserved⟩
    subst split
    apply covered_left
    rw [budgetedEq]
    exact patched_reserve_covers resolved within reserved (reference_new_append newTrying).1
  | error failure =>
    exfalso
    rcases ends_bind rest with ⟨_, _, _, _, _, refusing⟩
    exact raise_returns_nothing refusing

theorem lower_to_balance_covers
    {fullCap : Nat} {refused : SettlementError} (within : fullCap ≤ price.maxOutputTokens)
    (ends : Ends (performStatement caller) (lowerToBalance request price fullCap refused) exchanges
      (.ok budgeted)) (new : ReferenceNew request.userId request.referenceId exchanges) :
    Covered caller request price budgeted.bodyPatch budgeted.outputCap exchanges := by
  apply covered_bind ends new
  intro _ balance newEstimating estimates
  apply covered_bind estimates newEstimating
  intro _ estimateBody newFloor floors
  apply covered_bind floors newFloor
  intro _ floor newAffording affords
  apply covered_bind affords newAffording
  intro _ affordable newSharing shares
  split_ifs at shares
  · exact absurd shares raise_returns_nothing
  · apply covered_bind shares newSharing
    intro _ affordableShare newLowering lowers
    exact lowered_reserve_covers resolved (Nat.le_trans (Nat.min_le_left _ _) within) lowers
      newLowering

theorem patched_covers
    (ends : Ends (performStatement caller) (reservePatched request price) exchanges (.ok budgeted))
    (new : ReferenceNew request.userId request.referenceId exchanges) :
    Covered caller request price budgeted.bodyPatch budgeted.outputCap exchanges := by
  apply covered_bind ends new
  intro _ requested newAll tries
  have within : min (requested.getD price.maxOutputTokens) price.maxOutputTokens ≤
      price.maxOutputTokens := Nat.min_le_right _ _
  rcases ends_bind tries with ⟨trying, _, outcome, split, tried, rest⟩
  subst split
  rcases reference_new_append newAll with ⟨newTrying, newRest⟩
  cases outcome with
  | ok reservation =>
    apply covered_left
    have budgetedEq := Except.ok.inj (ends_ret rest).1
    rcases reserve_or_refused_ok tried with ⟨reserving, _, split, reserved⟩
    subst split
    apply covered_left
    rw [budgetedEq]
    exact patched_reserve_covers resolved within reserved (reference_new_append newTrying).1
  | error refused =>
    apply covered_right
    exact lower_to_balance_covers resolved within rest newRest

end

/-- Reserve what you forward: whatever the database answers, a request for a new reference
that is given a reservation forwards a body that runs to no more than its output cap,
and a hold that covers the input and that cap has been inserted. -/
theorem forwarded_request_is_held (caller : Nat) (request : ChatBudget)
    (exchanges : List (Exchange Statement Turn SettlementStore)) (budgeted : BudgetedReservation)
    (ends : Ends (performStatement caller) (reserveManagedVeniceChatWithinBalance request) exchanges
      (.ok budgeted))
    (new : ReferenceNew request.userId request.referenceId exchanges) :
    ∃ price, resolvePrice request.book (memberText "model" request.body) = .ok price ∧
      Covered caller request price budgeted.bodyPatch budgeted.outputCap exchanges := by
  rcases ends_bind ends with ⟨_, _, price, split, resolving, rest⟩
  subst split
  have resolved := ends_or_throw resolving
  refine ⟨price, resolved, ?_⟩
  apply covered_right
  have newRest := (reference_new_append new).2
  split_ifs at rest
  · exact patched_covers resolved rest newRest
  · exact unpatched_reserve_covers resolved rest newRest

end Runs

def publishedRow : VeniceChatModelPrice :=
  { cachedRateRow with maxOutputTokensSource := .veniceLive }

def publishedBook : PriceBook :=
  { catalog := fun _ => none, pricingMap := some fun _ => some publishedRow }

def cappedBody : Json :=
  .object
    [("model", .string "zai-org-glm-4.7"),
      ("messages", .array [.object [("role", .string "user"), ("content", .string "Hello")]]),
      ("max_tokens", .ofNat 20000)]

def cappedRequest (allowBodyRewrite : Bool) : ChatBudget :=
  { userId := "user"
    proxyKeyId := "key"
    walletType := .card
    referenceId := "request"
    protocol := .chat
    body := cappedBody
    bodyIsRecord := rfl
    book := publishedBook
    allowBodyRewrite
    surcharge := none
    spendCap := none
    now := 0 }

def creditedWallet (holds : List Reservation) : SettlementStore :=
  (performStatement 0 (.upsertWalletAccount .walletSummary "user") (Turn.at "account" 0)
    (.ofWallets (Wallets.empty.run
      (.creditCard
          { accountId := "account", userId := "user", amountMicroUsd := 60000, source := .stripe
            reason := .stripeTopup, referenceId := "session" } ::
        holds.map .insertReservation)))).1

def reserveAlone (request : ChatBudget) (store : SettlementStore) :
    List (Exchange Statement Turn SettlementStore) ×
      Option (Except SettlementError BudgetedReservation) :=
  traced (performStatement 0) (reserveManagedVeniceChatWithinBalance request)
    (List.replicate 16 (Turn.at "row" 1000)) store

/-- What a request for 20,000 tokens is given: half of the wallet covers 10,290. -/
def loweredReservation : BudgetedReservation :=
  { reservation :=
      { referenceId := "request"
        reservationId := "row"
        walletType := .card
        model := "zai-org-glm-4.7"
        estimatedCostMicroUsd := 27271
        reservedCostMicroUsd := 29999
        reservedMicroUsd := 29999
        discountMicroUsd := 0 }
    bodyPatch := [(.maxTokens, 10290)]
    outputCap := 10290
    modelMaxOutputTokens := 16384
    clampedToBalance := true }

theorem lowered_request_is_held :
    ∃ price, resolvePrice publishedBook (memberText "model" cappedBody) = .ok price ∧
      Covered 0 (cappedRequest true) price [(.maxTokens, 10290)] 10290
        (reserveAlone (cappedRequest true) (creditedWallet [])).1 :=
  forwarded_request_is_held 0 (cappedRequest true) _ loweredReservation
    (ends_traced (by decide +kernel)) (by unfold ReferenceNew; decide +kernel)

/-- What the request is given when its body cannot be changed, and when its reference is in
use already. -/
def fullReservation (reservationId : String) (bodyPatch : OutputCapPatch) : BudgetedReservation :=
  { reservation :=
      { referenceId := "request"
        reservationId
        walletType := .card
        model := "zai-org-glm-4.7"
        estimatedCostMicroUsd := 43420
        reservedCostMicroUsd := 47762
        reservedMicroUsd := 47762
        discountMicroUsd := 0 }
    bodyPatch
    outputCap := 16384
    modelMaxOutputTokens := 16384
    clampedToBalance := false }

/-- A body forwarded as sent keeps its cap of 20,000 though the returned cap is the
published 16,384; and a reference in use returns the hold of 400 it finds. -/
theorem sent_cap_and_used_reference : (∃ exchanges,
      Ends (performStatement 0) (reserveManagedVeniceChatWithinBalance (cappedRequest false))
          exchanges (.ok (fullReservation "row" [])) ∧
        ReferenceNew "user" "request" exchanges ∧
        sentCaps .chat (applyPatch cappedBody (fullReservation "row" []).bodyPatch) = [20000] ∧
        (fullReservation "row" []).outputCap = 16384) ∧
      ∃ exchanges,
        Ends (performStatement 0) (reserveManagedVeniceChatWithinBalance (cappedRequest true))
            exchanges (.ok (fullReservation "hold" [(.maxTokens, 16384)])) ∧
          ∀ exchange ∈ exchanges,
            (exchange.after (performStatement 0)).wallets.reservations.rows =
                [newHold "hold" "user" .card "request" 400] ∧
              400 < coveringHoldMicroUsd publishedRow cappedBody 16384 none := by
  constructor
  · exact ⟨(reserveAlone (cappedRequest false) (creditedWallet [])).1,
      ends_traced (by decide +kernel), by unfold ReferenceNew; decide +kernel, by decide +kernel,
      rfl⟩
  · exact ⟨(reserveAlone (cappedRequest true)
        (creditedWallet [newHold "hold" "user" .card "request" 400])).1,
      ends_traced (by decide +kernel), by decide +kernel⟩

end Hivra.ManagedVenice
