import Hivra.ManagedVenice.WalletTables
import Hivra.Venice.Pricing

/-!
# What a hold is charged

The chat options Venice bills on top of tokens (their hold, their charge and the
charge without evidence), and the two estimates a hold is settled by when no
usage arrived: the observed output and the pre-request estimate.
-/

namespace Hivra.ManagedVenice

open Hivra.Venice

def veniceWebSearchMicroUsd : Nat := 10000
def veniceWebScrapePerUrlMicroUsd : Nat := 10000
def veniceWebScrapeMaxUrls : Nat := 5
def veniceXSearchPerResultMicroUsd : Nat := 10000
def veniceXSearchHeldResults : Nat := 20
def veniceXSearchMaxResults : Nat := 100

def surchargeAboveCeilingReason : String := "managed_venice_surcharge_above_ceiling"
def xSearchCostUnreportedReason : String := "managed_venice_x_search_cost_unreported"

/-- `ManagedChatSurchargeEvidence`: what Venice's response said about them. -/
structure SurchargeEvidence where
  veniceCostMicroUsd : Option Nat
  webSearchCitations : Option Nat

def noSurchargeEvidence : SurchargeEvidence :=
  { veniceCostMicroUsd := none, webSearchCitations := none }

def readSurchargePlan (metadata : HoldMetadata) : Option SurchargePlan :=
  match metadata.surchargePlan with
  | none => none
  | some plan =>
    let scrapeUrls := plan.scrapeUrls.map (min · veniceWebScrapeMaxUrls)
    if plan.webSearch.isSome || scrapeUrls.isSome || plan.xSearch then
      some { plan with scrapeUrls }
    else none

/-- The most the options of a plan cost, with X search at `xSearchResults`. -/
def surchargeBoundMicroUsd (xSearchResults : Nat) (plan : SurchargePlan) : Nat :=
  (if plan.webSearch.isSome then veniceWebSearchMicroUsd else 0) +
    (if plan.scrapeUrls.isSome then veniceWebScrapeMaxUrls * veniceWebScrapePerUrlMicroUsd
      else 0) +
    (if plan.xSearch then xSearchResults * veniceXSearchPerResultMicroUsd else 0)

def surchargeHoldMicroUsd : Option SurchargePlan → Nat
  | none => 0
  | some plan => surchargeBoundMicroUsd veniceXSearchHeldResults plan

def surchargeCeilingMicroUsd (plan : SurchargePlan) : Nat :=
  surchargeBoundMicroUsd veniceXSearchMaxResults plan

inductive SurchargeSource
  | veniceCost
  | publishedRates

structure SurchargeCharge where
  surchargeMicroUsd : Nat
  source : SurchargeSource
  ceilingMicroUsd : Nat
  reconciliationReason : Option String

/-- The charge for the options: Venice's own figure less the tokens when it sent
one, clamped to the ceiling, else the published rates. -/
def settleManagedChatSurcharge
    (plan : SurchargePlan) (evidence : SurchargeEvidence) (tokenCostMicroUsd : Nat) :
    SurchargeCharge :=
  let ceilingMicroUsd := surchargeCeilingMicroUsd plan
  match evidence.veniceCostMicroUsd with
  | some veniceCost =>
    let floor := if plan.webSearch = some .on then veniceWebSearchMicroUsd else 0
    let reported := max floor (veniceCost - tokenCostMicroUsd)
    if ceilingMicroUsd < reported then
      { surchargeMicroUsd := ceilingMicroUsd
        source := .veniceCost
        ceilingMicroUsd
        reconciliationReason := some surchargeAboveCeilingReason }
    else
      { surchargeMicroUsd := reported
        source := .veniceCost
        ceilingMicroUsd
        reconciliationReason :=
          if plan.xSearch && reported == 0 then some xSearchCostUnreportedReason else none }
  | none =>
    let searched :=
      plan.webSearch == some .on ||
        (plan.webSearch == some .auto && evidence.webSearchCitations != some 0)
    { surchargeMicroUsd :=
        (if searched then veniceWebSearchMicroUsd else 0) +
          plan.scrapeUrls.getD 0 * veniceWebScrapePerUrlMicroUsd +
          (if plan.xSearch then veniceXSearchHeldResults * veniceXSearchPerResultMicroUsd else 0)
      source := .publishedRates
      ceilingMicroUsd
      reconciliationReason := if plan.xSearch then some xSearchCostUnreportedReason else none }

def surchargeFallbackChargeMicroUsd : Option SurchargePlan → Nat
  | none => 0
  | some plan => (settleManagedChatSurcharge plan noSurchargeEvidence 0).surchargeMicroUsd

/-- The input estimate recorded on a hold plus the observed output and the recorded
options; `none` for a hold from before those were recorded. -/
def observedOutputCostMicroUsd (hold : Reservation) (observedOutputTokens : Nat) : Option Nat :=
  match hold.metadata.inputEstimateMicroUsd, hold.metadata.outputMicroUsdPerMillion with
  | some input, some perMillion =>
    some (input + calculateVeniceTokenCostMicroUsd observedOutputTokens perMillion +
      hold.metadata.surchargeEstimateMicroUsd.getD 0)
  | _, _ => none

def holdEstimateMicroUsd (hold : Reservation) : Nat :=
  min hold.reservedMicroUsd
    (hold.metadata.sweepEstimateMicroUsd.getD hold.estimatedCostMicroUsd)

end Hivra.ManagedVenice
