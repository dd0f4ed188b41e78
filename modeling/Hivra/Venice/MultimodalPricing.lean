import Hivra.Library.Texts
import Hivra.Venice.Pricing

/-!
# The catalog of media prices

What a media operation costs: the price it is settled at, and the ceiling it is held at before
it runs.  Both read the same row of the catalog and the same members of the metadata; they differ
in the rate of a tier that was not sent and in how they count images.

The rows of the catalog and the reading of a numeral are parameters, since nothing depends on
them.  Amounts are exact.
-/

namespace Hivra.Venice

open Hivra.Library

inductive VeniceMultimodalUnit
  | perImage
  | perMillionCharacters
  | perRequest

inductive TierMetadataKey
  | resolution
  | scale

def TierMetadataKey.name : TierMetadataKey → String
  | .resolution => "resolution"
  | .scale => "scale"

structure VeniceMultimodalPrice where
  endpoint : String
  /-- `none` matches any model of the endpoint. -/
  model : Option String
  unit : VeniceMultimodalUnit
  microUsdPerUnit : Nat
  /-- The keys of a scale are numerals as a number prints. -/
  tiers : Option (List (String × Nat))
  tierMetadataKey : Option TierMetadataKey

structure MultimodalCatalog where
  prices : List VeniceMultimodalPrice
  casing : Casing
  /-- `Number(text)`, where that is finite. -/
  number : String → Option Rat
  /-- `resolveVeniceMultimodalMarkup`. -/
  markup : Rat

inductive MultimodalSkipReason
  | unpricedOperation
  | missingQuantity
  | invalidTier

structure MultimodalCost where
  quantity : Nat
  tier : Option String
  microUsdPerUnit : Nat
  listCostMicroUsd : Nat

def resolveVeniceMultimodalPrice (catalog : MultimodalCatalog) (endpoint model : String) :
    Option VeniceMultimodalPrice :=
  let priceOf (wanted : Option String) :=
    catalog.prices.reverse.find? fun price => price.endpoint == endpoint && price.model == wanted
  (priceOf (some model)).or (priceOf none)

inductive TierResolution
  | absent
  | tier (name : String)
  | invalid

def publishedScaleTiers (catalog : MultimodalCatalog) (tiers : List (String × Nat)) : List Rat :=
  (tiers.filterMap fun entry => catalog.number entry.1).mergeSort

/-- `value.trim().replace(/x$/i, "")`. -/
def scaleText (text : String) : String :=
  let trimmed := (trim text).toList
  match trimmed.getLast? with
  | some last => if last = 'x' ∨ last = 'X' then String.ofList trimmed.dropLast else trim text
  | none => trim text

def scaleFactor (catalog : MultimodalCatalog) : Json → Option Rat
  | .number value _ => some value
  | .string text => catalog.number (scaleText text)
  | _ => none

def resolutionTier (catalog : MultimodalCatalog) (tiers : List (String × Nat)) :
    Json → TierResolution
  | .string text =>
    let token := catalog.casing.toLowerCase (trim text)
    if tiers.any fun entry => entry.1 = token then .tier token else .invalid
  | _ => .invalid

def scaleTier (catalog : MultimodalCatalog) (tiers : List (String × Nat)) (value : Json) :
    TierResolution :=
  let published := publishedScaleTiers catalog tiers
  match scaleFactor catalog value, published with
  | some factor, lowest :: _ =>
    if factor < lowest then .invalid
    else
      match published.find? fun candidate => factor ≤ candidate with
      | none => .invalid
      | some tier =>
        match tiers.find? fun entry => catalog.number entry.1 = some tier with
        | none => .invalid
        | some entry => .tier entry.1
  | _, _ => .invalid

def isAbsentTier : Option Json → Bool
  | none => true
  | some .null => true
  | some (.string text) => trim text = ""
  | some _ => false

def resolveVeniceMultimodalTier (catalog : MultimodalCatalog) (price : VeniceMultimodalPrice)
    (value : Option Json) : TierResolution :=
  match price.tiers, price.tierMetadataKey with
  | some tiers, some key =>
    if isAbsentTier value then .absent
    else
      match key with
      | .resolution => resolutionTier catalog tiers (value.getD .null)
      | .scale => scaleTier catalog tiers (value.getD .null)
  | _, _ => .absent

/-- The rate of a row and its tier; `none` for a tier that is not published. -/
def resolveUnitRate (catalog : MultimodalCatalog) (price : VeniceMultimodalPrice)
    (metadata : Json) (whenAbsent : Nat) : Option (Nat × Option String) :=
  match price.tiers, price.tierMetadataKey with
  | some tiers, some key =>
    match resolveVeniceMultimodalTier catalog price (metadata.member? key.name) with
    | .invalid => none
    | .tier name =>
      (tiers.find? fun entry => entry.1 = name).map fun entry => (entry.2, some name)
    | .absent => some (whenAbsent, none)
  | _, _ => some (price.microUsdPerUnit, none)

def readPositiveNumber (value : Option Json) : Option Rat :=
  (value.bind Json.number?).filter fun value => decide (0 < value)

def readPositiveQuantity (catalog : MultimodalCatalog) (value : Option Json) : Option Rat :=
  match value with
  | some (.string text) =>
    if trim text = "" then none
    else (catalog.number (trim text)).filter fun value => decide (0 < value)
  | value => readPositiveNumber value

def multimodalCost (catalog : MultimodalCatalog) (whenAbsent : VeniceMultimodalPrice → Nat)
    (images : Json → Nat) (endpoint model : String) (metadata : Json) :
    Except MultimodalSkipReason MultimodalCost :=
  match resolveVeniceMultimodalPrice catalog endpoint model with
  | none => .error .unpricedOperation
  | some price =>
    match resolveUnitRate catalog price metadata (whenAbsent price) with
    | none => .error .invalidTier
    | some (microUsdPerUnit, tier) =>
      match price.unit with
      | .perImage =>
        .ok
          { quantity := images metadata
            tier
            microUsdPerUnit
            listCostMicroUsd := max 1 (images metadata * microUsdPerUnit) }
      | .perMillionCharacters =>
        match readPositiveNumber (metadata.member? "inputLength") with
        | none => .error .missingQuantity
        | some characters =>
          .ok
            { quantity := characters.ceil.toNat
              tier
              microUsdPerUnit
              listCostMicroUsd :=
                max 1
                  (calculateVeniceTokenCostMicroUsd characters.ceil.toNat
                    microUsdPerUnit) }
      | .perRequest =>
        .ok
          { quantity := 1
            tier
            microUsdPerUnit
            listCostMicroUsd := max 1 microUsdPerUnit }

def settledImages (metadata : Json) : Nat :=
  match readPositiveNumber (metadata.member? "variants") with
  | some variants => if variants.den = 1 then variants.num.toNat else 1
  | none => 1

def heldImages (catalog : MultimodalCatalog) (metadata : Json) : Nat :=
  match readPositiveQuantity catalog (metadata.member? "variants") with
  | some variants => variants.ceil.toNat
  | none => 1

def computeVeniceMultimodalCost (catalog : MultimodalCatalog) (endpoint model : String)
    (metadata : Json) : Except MultimodalSkipReason MultimodalCost :=
  multimodalCost catalog VeniceMultimodalPrice.microUsdPerUnit settledImages endpoint model metadata

def computeVeniceMultimodalHoldCost (catalog : MultimodalCatalog) (endpoint model : String)
    (metadata : Json) : Except MultimodalSkipReason MultimodalCost :=
  multimodalCost catalog
    (fun price => ((price.tiers.getD []).map Prod.snd).foldl max price.microUsdPerUnit)
    (heldImages catalog) endpoint model metadata

def applyVeniceMultimodalMarkup (catalog : MultimodalCatalog) (listCostMicroUsd : Nat) : Nat :=
  (listCostMicroUsd * catalog.markup).ceil.toNat

def pricingMembers : List String := ["variants", "inputLength", "resolution", "scale"]

theorem cost_of_pricing_members (catalog : MultimodalCatalog) (endpoint model : String)
    {left right : Json} (same : ∀ key ∈ pricingMembers, left.member? key = right.member? key) :
    computeVeniceMultimodalCost catalog endpoint model left =
      computeVeniceMultimodalCost catalog endpoint model right := by
  have variants := same "variants" (by decide)
  have characters := same "inputLength" (by decide)
  have tier : ∀ key : TierMetadataKey, left.member? key.name = right.member? key.name := by
    intro key
    cases key with
    | resolution => exact same "resolution" (by decide)
    | scale => exact same "scale" (by decide)
  have rate : ∀ (price : VeniceMultimodalPrice) (whenAbsent : Nat),
      resolveUnitRate catalog price left whenAbsent =
        resolveUnitRate catalog price right whenAbsent := by
    intro price whenAbsent
    unfold resolveUnitRate
    cases price.tiers with
    | none => rfl
    | some tiers =>
      cases price.tierMetadataKey with
      | none => rfl
      | some key => simp only [tier key]
  have images : settledImages left = settledImages right := by
    rw [settledImages, variants, settledImages]
  unfold computeVeniceMultimodalCost multimodalCost
  simp only [rate, images, characters]

end Hivra.Venice
