import Mathlib.Algebra.Order.Floor.Semiring
import Mathlib.Data.Rat.Floor
import Hivra.Library.Texts

/-!
# The median price of a pool

The reference price is the median of the closes of the last hours, one for each 5-minute bucket.
Prices and the times of candles are rationals, other times are milliseconds or seconds.
-/

namespace Hivra.Prices

open Hivra.Library

def platformPriceMedianWindowMinutes : Int := 4 * 60
def platformPriceMinHistoryMinutes : Int := platformPriceMedianWindowMinutes
def platformPriceMinTradedCandles : Nat := 24
def bucketSec : Int := 5 * 60

def nativeEthAddress : String := "0x0000000000000000000000000000000000000000"
def baseWethAddress : String := "0x4200000000000000000000000000000000000006"

def isEthQuoteAddress (address : String) : Bool :=
  let normalized := lower (trim address)
  normalized == nativeEthAddress || normalized == baseWethAddress

/-- An entry of `ohlcv_list`: none if it is no array, and in it what `Number` makes of each cell,
none if that is not finite. -/
abbrev OhlcvEntry : Type := Option (List (Option Rat))

/-- What `fetch` came back with; a list that is no array is none. -/
structure OhlcvResponse where
  status : Nat
  baseAddress : Option String
  quoteAddress : Option String
  ohlcvList : Option (List OhlcvEntry)

structure Candle where
  at_ : Rat
  close : Rat

/-- A price of none is `NaN`. -/
structure PoolReference where
  priceNative : Option Rat
  candles : Nat
  fetchedAtMs : Int

inductive ReferenceError
  | noCandle (message : String) (status : Option Nat)
  | sourceHttp (message : String) (status : Nat)
  | poolMissing (message : String) (poolId : String) (quoteAddress : Option String)
  | history (message : String) (poolId : String) (historyMinutes : Int) (tradedCandles : Nat)

/-- None for no values. -/
def median (values : List Rat) : Option Rat :=
  let sorted := values.mergeSort fun first second => decide (first ≤ second)
  let mid := sorted.length / 2
  if sorted.length % 2 = 1 then sorted[mid]?
  else
    match sorted[mid - 1]?, sorted[mid]? with
    | some low, some high => some ((low + high) / 2)
    | _, _ => none

def completedCandle (nowSec : Int) : OhlcvEntry → Option Candle
  | some (some at_ :: _ :: _ :: _ :: some close :: _) =>
    if at_ + bucketSec ≤ nowSec ∧ 0 < close then some { at_, close } else none
  | _ => none

def completedCandles (nowSec : Int) (list : List OhlcvEntry) : List Candle :=
  (list.filterMap (completedCandle nowSec)).mergeSort fun first second =>
    decide (first.at_ ≤ second.at_)

def carry (bucket : Int) : List Candle → Option Rat → Option Rat × List Candle
  | [], carried => (carried, [])
  | candle :: candles, carried =>
    if candle.at_ ≤ bucket then carry bucket candles (some candle.close)
    else (carried, candle :: candles)

/-- The loop over the buckets. -/
def closesOf : List Int → List Candle → Option Rat → List Rat
  | [], _, _ => []
  | bucket :: buckets, candles, carried =>
    let (carried, left) := carry bucket candles carried
    carried.toList ++ closesOf buckets left carried

def lastBucket (nowSec : Int) : Int := nowSec - nowSec.tmod bucketSec

def bucketCount : Nat := (platformPriceMedianWindowMinutes / 5).toNat

def firstBucket (nowSec : Int) : Int := lastBucket nowSec - (bucketCount - 1) * bucketSec

def buckets (nowSec : Int) : List Int :=
  (List.range bucketCount).map fun (index : Nat) => firstBucket nowSec + (index : Int) * bucketSec

def referenceOf (poolId : String) (nowMs : Int) (candles : List Candle) :
    Except ReferenceError PoolReference :=
  let nowSec := nowMs / 1000
  match candles.head? with
  | none => .error (.noCandle s!"GeckoTerminal has no completed candles for pool {poolId}" none)
  | some oldest =>
    let historyMinutes := ⌊(nowSec - oldest.at_) / 60⌋
    let traded := candles.length
    if historyMinutes < platformPriceMinHistoryMinutes ∨ traded < platformPriceMinTradedCandles then
      .error (.history
        (s!"Pool {poolId} has {historyMinutes} minutes of candle history in {traded} traded periods; " ++
          s!"its median is trusted from {platformPriceMinHistoryMinutes} minutes and {platformPriceMinTradedCandles} periods")
        poolId historyMinutes traded)
    else
      .ok
        { priceNative := median (closesOf (buckets nowSec) candles none)
          candles := candles.countP fun candle =>
            decide ((firstBucket nowSec : Rat) ≤ candle.at_)
          fetchedAtMs := nowMs }

def readPoolMedianCloseNative (poolId tokenAddress : String) (nowMs : Int)
    (response : OhlcvResponse) : Except ReferenceError PoolReference :=
  let status := response.status
  if status = 404 then
    .error (.noCandle s!"GeckoTerminal does not know pool {poolId} (status=404)" (some 404))
  else if ¬(200 ≤ status ∧ status ≤ 299) then
    .error (.sourceHttp s!"GeckoTerminal OHLCV fetch failed status={status}" status)
  else
    let base := (response.baseAddress.map lower).getD ""
    let quote := (response.quoteAddress.map lower).getD ""
    if base ≠ "" ∧ base ≠ lower tokenAddress then
      .error (.poolMissing s!"GeckoTerminal priced pool {poolId} for {base}, not {tokenAddress}"
        poolId none)
    else if quote ≠ "" ∧ isEthQuoteAddress quote = false then
      .error (.poolMissing s!"GeckoTerminal prices pool {poolId} in {quote}, not ETH" poolId
        (some quote))
    else referenceOf poolId nowMs (completedCandles (nowMs / 1000) (response.ohlcvList.getD []))

end Hivra.Prices
