import Mathlib.Data.List.TakeWhile
import Hivra.Prices.PoolMedian

/-!
# A pump of half the window

Each bucket of the window holds the close of the latest completed candle that started at or before
it.  The last bucket starts at the time of the read, so 24 of the 48 buckets can hold closes of
candles that started 115 minutes before it: the two middle closes are then on either side.
-/

namespace Hivra.Prices

variable {bound minutes : Rat} {bucket nowSec : Int} {candle oldest : Candle}
    {candles : List Candle}

theorem sorted_le_of_count {sorted : List Rat} {value : Rat} {index : Nat}
    (ascending : sorted.Pairwise (· ≤ ·))
    (many : index < sorted.countP fun value => decide (value ≤ bound))
    (found : sorted[index]? = some value) : value ≤ bound := by
  induction sorted generalizing index with
  | nil => cases found
  | cons first rest ih =>
    have ⟨below, ascends⟩ := List.pairwise_cons.mp ascending
    cases index with
    | zero =>
      cases found
      have ⟨low, member, within⟩ := List.countP_pos_iff.mp many
      have within : low ≤ bound := of_decide_eq_true within
      rcases List.mem_cons.mp member with own | later
      · exact own ▸ within
      · exact (below low later).trans within
    | succ index =>
      apply ih ascends _ found
      rw [List.countP_cons] at many
      split at many <;> omega

theorem sorted_by {Item : Type} (key : Item → Rat) (items : List Item) :
    (items.mergeSort fun first second => decide (key first ≤ key second)).Pairwise
      fun first second => key first ≤ key second := by
  have sorted := @List.pairwise_mergeSort Item
    (fun first second => decide (key first ≤ key second))
    (fun first second third => by simpa using le_trans)
    (fun first second => by simpa using le_total (key first) (key second)) items
  simpa using sorted

theorem median_le {values : List Rat} {result : Rat} (even : values.length % 2 = 0)
    (many : values.length / 2 < values.countP fun value => decide (value ≤ bound))
    (isMedian : median values = some result) : result ≤ bound := by
  have same := List.mergeSort_perm values fun first second => decide (first ≤ second)
  have ascending := sorted_by id values
  simp only [id] at ascending
  rw [← same.countP_eq, ← same.length_eq] at many
  rw [← same.length_eq] at even
  simp only [median, even, Nat.zero_ne_one, if_false] at isMedian
  split at isMedian
  · rename_i low high isLow isHigh
    cases isMedian
    have lowMany : (values.mergeSort fun first second => decide (first ≤ second)).length / 2 - 1 <
        (values.mergeSort fun first second => decide (first ≤ second)).countP fun value =>
          decide (value ≤ bound) := by omega
    have lowBound := sorted_le_of_count ascending lowMany isLow
    have highBound := sorted_le_of_count ascending many isHigh
    linarith
  · cases isMedian

def Candle.startsBy (bucket : Int) (candle : Candle) : Bool := decide (candle.at_ ≤ (bucket : Rat))

theorem starts_by_iff :
    candle.startsBy bucket = true ↔ candle.at_ ≤ (bucket : Rat) := decide_eq_true_iff

/-- The last of the candles, oldest first, that started at or before the bucket. -/
def latest (candles : List Candle) (bucket : Int) : Option Candle :=
  (candles.takeWhile (Candle.startsBy bucket)).getLast?

theorem carry_eq (bucket : Int) (candles : List Candle) (carried : Option Rat) :
    carry bucket candles carried =
      (((latest candles bucket).map Candle.close).or carried,
        candles.dropWhile (Candle.startsBy bucket)) := by
  induction candles generalizing carried with
  | nil => rfl
  | cons candle candles ih =>
    unfold carry latest
    by_cases reached : candle.at_ ≤ bucket
    · rw [if_pos reached, ih, latest]
      simp only [List.takeWhile_cons, List.dropWhile_cons, starts_by_iff.mpr reached, if_true,
        List.getLast?_cons]
      cases (candles.takeWhile (Candle.startsBy bucket)).getLast? <;> rfl
    · have beyond := Bool.eq_false_iff.mpr (mt starts_by_iff.mp reached)
      simp [reached, beyond]

theorem latest_later (candles : List Candle) {later : Int} (ordered : bucket ≤ later) :
    latest candles later =
      (latest (candles.dropWhile (Candle.startsBy bucket)) later).or
        (latest candles bucket) := by
  unfold latest
  conv_lhs =>
    rw [← List.takeWhile_append_dropWhile (p := Candle.startsBy bucket) (l := candles)]
  rw [List.takeWhile_append_of_pos, List.getLast?_append]
  intro candle passed
  have reached := starts_by_iff.mp (List.mem_takeWhile_imp passed)
  have ordered : (bucket : Rat) ≤ later := by exact_mod_cast ordered
  exact starts_by_iff.mpr (reached.trans ordered)

theorem closes_eq {buckets : List Int} (ascending : buckets.Pairwise (· ≤ ·))
    (candles : List Candle) (carried : Option Rat) : closesOf buckets candles carried =
      buckets.filterMap fun bucket => ((latest candles bucket).map Candle.close).or carried := by
  induction buckets generalizing candles carried with
  | nil => rfl
  | cons bucket buckets ih =>
    have ⟨before, ascends⟩ := List.pairwise_cons.mp ascending
    have later : (buckets.filterMap fun next =>
        ((latest (candles.dropWhile (Candle.startsBy bucket)) next).map Candle.close).or
          (((latest candles bucket).map Candle.close).or carried)) =
        buckets.filterMap fun next => ((latest candles next).map Candle.close).or carried := by
      apply List.filterMap_congr
      intro next member
      rw [latest_later candles (before next member), Option.map_or, Option.or_assoc]
    rw [closesOf, carry_eq]
    simp only [ih ascends, later, List.filterMap_cons]
    cases ((latest candles bucket).map Candle.close).or carried <;> rfl

def HoldsClose (candles : List Candle) (bucket : Int) (close : Rat) : Prop :=
  ∃ candle ∈ candles, candle.close = close ∧ candle.at_ ≤ bucket ∧
    ∀ other ∈ candles, other.at_ ≤ bucket → other.at_ ≤ candle.at_

theorem latest_holds (sorted : candles.Pairwise fun first second => first.at_ ≤ second.at_)
    (isLatest : latest candles bucket = some candle) : HoldsClose candles bucket candle.close := by
  have whole := List.takeWhile_append_dropWhile (p := Candle.startsBy bucket) (l := candles)
  have ⟨before, passed⟩ := List.getLast?_eq_some_iff.mp isLatest
  have member : candle ∈ candles.takeWhile (Candle.startsBy bucket) := by
    simp [passed]
  have reached := starts_by_iff.mp (List.mem_takeWhile_imp member)
  refine ⟨candle, List.takeWhile_subset _ member, rfl, reached, ?_⟩
  intro other isOther within
  rw [passed] at whole
  rw [← whole] at sorted isOther
  have ⟨passedSorted, leftSorted, _⟩ := List.pairwise_append.mp sorted
  rcases List.mem_append.mp isOther with early | left
  · rcases List.mem_append.mp early with older | own
    · exact (List.pairwise_append.mp passedSorted).2.2 other older candle (by simp)
    · rw [List.mem_singleton.mp own]
  · cases rest : candles.dropWhile (Candle.startsBy bucket) with
    | nil =>
      rw [rest] at left
      cases left
    | cons next others =>
      have beyond := List.head?_dropWhile_not (Candle.startsBy bucket) candles
      rw [rest] at left leftSorted beyond
      have beyond : bucket < next.at_ := by
        rw [← not_le, ← starts_by_iff]
        simpa using beyond
      rcases List.mem_cons.mp left with own | further
      · subst own
        exact absurd within (not_le.mpr beyond)
      · have after := (List.pairwise_cons.mp leftSorted).1 other further
        exact absurd (after.trans within) (not_le.mpr beyond)

theorem latest_some (isOldest : candles.head? = some oldest) (reached : oldest.at_ ≤ bucket) :
    ∃ candle, latest candles bucket = some candle := by
  cases candles with
  | nil => cases isOldest
  | cons first candles =>
    cases isOldest
    simp [latest, starts_by_iff.mpr reached, List.getLast?_cons]

theorem closes_hold {buckets : List Int} (ascending : buckets.Pairwise (· ≤ ·))
    (sorted : candles.Pairwise fun first second => first.at_ ≤ second.at_)
    (isOldest : candles.head? = some oldest) (reached : ∀ bucket ∈ buckets, oldest.at_ ≤ bucket) :
    List.Forall₂ (HoldsClose candles) buckets (closesOf buckets candles none) := by
  rw [closes_eq ascending]
  clear ascending
  induction buckets with
  | nil => exact .nil
  | cons bucket buckets ih =>
    have ⟨candle, isLatest⟩ := latest_some isOldest (reached bucket List.mem_cons_self)
    simp only [List.filterMap_cons, isLatest, Option.map_some, Option.some_or]
    apply List.Forall₂.cons (latest_holds sorted isLatest)
    apply ih
    intro later member
    exact reached later (List.mem_cons_of_mem bucket member)

theorem last_bucket_near (nowSec : Int) :
    nowSec - bucketSec < lastBucket nowSec ∧ lastBucket nowSec < nowSec + bucketSec := by
  have above := Int.tmod_lt_of_pos nowSec (show 0 < bucketSec by decide)
  have below := Int.lt_tmod_of_pos nowSec (show 0 < bucketSec by decide)
  unfold lastBucket
  omega

theorem first_bucket_eq (nowSec : Int) : firstBucket nowSec = lastBucket nowSec - 14100 := rfl

theorem buckets_ascending (nowSec : Int) : (buckets nowSec).Pairwise (· ≤ ·) := by
  rw [buckets, List.pairwise_map]
  apply List.pairwise_lt_range.imp
  intro first second before
  simp only [bucketSec]
  omega

theorem bucket_reached (member : bucket ∈ buckets nowSec) : firstBucket nowSec ≤ bucket := by
  simp only [buckets, List.mem_map] at member
  have ⟨index, _, isBucket⟩ := member
  rw [← isBucket, bucketSec]
  omega

/-- The completed candles of the response, oldest first. -/
def observedCandles (nowMs : Int) (response : OhlcvResponse) : List Candle :=
  completedCandles (nowMs / 1000) (response.ohlcvList.getD [])

theorem observed_sorted (nowMs : Int) (response : OhlcvResponse) :
    (observedCandles nowMs response).Pairwise fun first second => first.at_ ≤ second.at_ :=
  sorted_by Candle.at_ _

variable {poolId tokenAddress : String} {nowMs : Int} {response : OhlcvResponse}
variable {reference : PoolReference}

section

variable (isRead : readPoolMedianCloseNative poolId tokenAddress nowMs response = .ok reference)
include isRead

theorem reference_read : ∃ oldest, (observedCandles nowMs response).head? = some oldest ∧
      oldest.at_ ≤ firstBucket (nowMs / 1000) ∧
      reference.priceNative =
        median (closesOf (buckets (nowMs / 1000)) (observedCandles nowMs response) none) := by
  simp only [readPoolMedianCloseNative] at isRead
  split at isRead
  · cases isRead
  · split at isRead
    · cases isRead
    · split at isRead
      · cases isRead
      · split at isRead
        · cases isRead
        · simp only [referenceOf] at isRead
          split at isRead
          · cases isRead
          · rename_i oldest isOldest
            split at isRead
            · cases isRead
            · rename_i young
              cases isRead
              refine ⟨oldest, isOldest, ?_, rfl⟩
              have old : platformPriceMinHistoryMinutes ≤
                  ⌊((nowMs / 1000 : Int) - oldest.at_) / 60⌋ := by
                by_contra short
                exact young (.inl (not_le.mp short))
              have old := Int.le_floor.mp old
              have near : ((nowMs / 1000 : Int) : Rat) - 300 < lastBucket (nowMs / 1000) := by
                exact_mod_cast (last_bucket_near (nowMs / 1000)).1
              rw [first_bucket_eq]
              simp only [platformPriceMinHistoryMinutes, platformPriceMedianWindowMinutes] at old
              push_cast at old ⊢
              linarith

/-- The closes of the window, one for each bucket. -/
def WindowOf (nowMs : Int) (candles : List Candle) (closes : List Rat) : Prop :=
  (closes.length : Int) = platformPriceMedianWindowMinutes / 5 ∧
    ∀ (index : Nat) close, closes[index]? = some close →
      HoldsClose candles (firstBucket (nowMs / 1000) + index * bucketSec) close

theorem window_read : ∃ closes, WindowOf nowMs (observedCandles nowMs response) closes ∧
      reference.priceNative = median closes := by
  have ⟨oldest, isOldest, old, isMedian⟩ := reference_read isRead
  have held := closes_hold (buckets_ascending (nowMs / 1000)) (observed_sorted nowMs response)
    isOldest fun bucket member => by
      have reached : (firstBucket (nowMs / 1000) : Rat) ≤ bucket := by
        exact_mod_cast bucket_reached member
      exact old.trans reached
  refine ⟨_, ⟨?_, ?_⟩, isMedian⟩
  · rw [← held.length_eq]
    rfl
  · intro index close isClose
    have ⟨within, isClose⟩ := List.getElem?_eq_some_iff.mp isClose
    have bounded : index < (buckets (nowMs / 1000)).length := held.length_eq ▸ within
    have holds := (List.forall₂_iff_get.mp held).2 index bounded within
    rw [← isClose]
    simpa [buckets] using holds

end

/-- What started more than these minutes before the read has a close of at most the bound. -/
def EarlyBelow (nowMs : Int) (minutes bound : Rat) (response : OhlcvResponse) : Prop :=
  ∀ candle ∈ observedCandles nowMs response,
    candle.at_ + 60 * minutes < nowMs / 1000 → candle.close ≤ bound

/-- The 24th bucket from the end starts more than these minutes before the read. -/
def ShortPump (nowMs : Int) (minutes : Rat) : Prop :=
  (lastBucket (nowMs / 1000) : Rat) - 23 * bucketSec + 60 * minutes < nowMs / 1000

theorem many_low {closes : List Rat} {count : Nat} (enough : count ≤ closes.length)
    (low : ∀ index close, index < count → closes[index]? = some close → close ≤ bound) :
    count ≤ closes.countP fun close => decide (close ≤ bound) := by
  have all : (closes.take count).countP (fun close => decide (close ≤ bound)) = count := by
    rw [List.countP_eq_length.mpr, List.length_take, Nat.min_eq_left enough]
    intro close member
    have ⟨index, within, isClose⟩ := List.mem_iff_getElem.mp member
    rw [List.length_take] at within
    rw [List.getElem_take] at isClose
    simp only [decide_eq_true_eq]
    exact low index close (by omega) (isClose ▸ List.getElem?_eq_getElem (by omega))
  rw [← all]
  exact (List.take_sublist count closes).countP_le

theorem short_pump_bounded (short : ShortPump nowMs minutes)
    (isRead : readPoolMedianCloseNative poolId tokenAddress nowMs response = .ok reference)
    (early : EarlyBelow nowMs minutes bound response) :
    ∃ price, reference.priceNative = some price ∧ price ≤ bound := by
  have ⟨closes, ⟨size, holds⟩, isMedian⟩ := window_read isRead
  have size : closes.length = 48 := by
    have window : (platformPriceMedianWindowMinutes / 5 : Int) = 48 := rfl
    omega
  have many : 25 ≤ closes.countP fun close => decide (close ≤ bound) := by
    apply many_low (by omega)
    intro index close before isClose
    have ⟨candle, member, isCandle, reached, _⟩ := holds index close isClose
    rw [← isCandle]
    apply early candle member
    have before : (index : Rat) ≤ 24 := by exact_mod_cast Nat.lt_succ_iff.mp before
    simp only [ShortPump, first_bucket_eq, bucketSec] at short reached
    push_cast at short reached
    linarith
  cases priced : median closes with
  | some price =>
    refine ⟨price, isMedian.trans priced, ?_⟩
    exact median_le (by omega) (by omega) priced
  | none =>
    have whole := (List.mergeSort_perm closes fun first second => decide (first ≤ second)).length_eq
    simp [median, whole, size] at priced

/-- Candles of close 1 four hours before the read, and one of close 3 as old as the 24th bucket
from the end. -/
def pumpedResponse (nowMs : Int) : OhlcvResponse :=
  let entry (at_ close : Rat) : OhlcvEntry := some [some at_, none, none, none, some close]
  { status := 200
    baseAddress := none
    quoteAddress := none
    ohlcvList := some (List.replicate 24 (entry ((nowMs / 1000 : Int) - 14400) 1) ++
      [entry (lastBucket (nowMs / 1000) - 6900) 3]) }

theorem pumped_observed (nowMs : Int) : observedCandles nowMs (pumpedResponse nowMs) =
      List.replicate 24 ⟨(nowMs / 1000 : Int) - 14400, 1⟩ ++
        [⟨lastBucket (nowMs / 1000) - 6900, 3⟩] := by
  have near : ((nowMs / 1000 : Int) : Rat) - 300 < lastBucket (nowMs / 1000) := by
    exact_mod_cast (last_bucket_near (nowMs / 1000)).1
  have past : (lastBucket (nowMs / 1000) : Rat) < (nowMs / 1000 : Int) + 300 := by
    exact_mod_cast (last_bucket_near (nowMs / 1000)).2
  have oldEnded : ((nowMs / 1000 : Int) : Rat) - 14400 + 300 ≤ (nowMs / 1000 : Int) := by linarith
  have pumpEnded : (lastBucket (nowMs / 1000) : Rat) - 6900 + 300 ≤ (nowMs / 1000 : Int) := by
    linarith
  have completed : ((pumpedResponse nowMs).ohlcvList.getD []).filterMap
      (completedCandle (nowMs / 1000)) =
        List.replicate 24 ⟨(nowMs / 1000 : Int) - 14400, 1⟩ ++
          [⟨lastBucket (nowMs / 1000) - 6900, 3⟩] := by
    simp [-List.reduceReplicate, pumpedResponse, completedCandle, bucketSec, oldEnded, pumpEnded]
  rw [observedCandles, completedCandles, completed]
  apply List.mergeSort_of_pairwise
  simp only [decide_eq_true_eq, List.pairwise_append, List.pairwise_replicate]
  constructor
  · simp
  · simp
    linarith

theorem pumped_read (poolId tokenAddress : String) (nowMs : Int) : ∃ reference,
      readPoolMedianCloseNative poolId tokenAddress nowMs (pumpedResponse nowMs) =
        .ok reference := by
  have observed := pumped_observed nowMs
  rw [observedCandles] at observed
  have history : ⌊(14400 : Rat) / 60⌋ = 240 := by norm_num
  simp only [readPoolMedianCloseNative, observed, referenceOf]
  simp [pumpedResponse, history, platformPriceMinHistoryMinutes, platformPriceMedianWindowMinutes,
    platformPriceMinTradedCandles]

theorem pumped_closes {nowMs : Int} {closes : List Rat}
    (window : WindowOf nowMs (observedCandles nowMs (pumpedResponse nowMs)) closes) :
    closes = List.replicate 24 1 ++ List.replicate 24 3 := by
  have ⟨size, holds⟩ := window
  have size : closes.length = 48 := by
    have whole : (platformPriceMedianWindowMinutes / 5 : Int) = 48 := rfl
    omega
  have near : ((nowMs / 1000 : Int) : Rat) - 300 < lastBucket (nowMs / 1000) := by
    exact_mod_cast (last_bucket_near (nowMs / 1000)).1
  apply List.ext_getElem (by simp [size])
  intro index within _
  have ⟨candle, member, isClose, reached, newest⟩ :=
    holds index closes[index] (List.getElem?_eq_getElem within)
  rw [pumped_observed] at member newest
  simp only [first_bucket_eq, bucketSec] at reached newest
  push_cast at reached newest
  by_cases early : index < 24
  · have before : (index : Rat) ≤ 23 := by exact_mod_cast Nat.lt_succ_iff.mp early
    rw [List.getElem_append_left (by simpa using early), List.getElem_replicate, ← isClose]
    rcases List.mem_append.mp member with old | pump
    · rw [List.eq_of_mem_replicate old]
    · rw [List.mem_singleton.mp pump] at reached
      linarith
  · have after : (24 : Rat) ≤ index := by exact_mod_cast not_lt.mp early
    rw [List.getElem_append_right (by simpa using early), List.getElem_replicate, ← isClose]
    rcases List.mem_append.mp member with old | pump
    · have later := newest _ (List.mem_append_right _ List.mem_cons_self) (by linarith)
      rw [List.eq_of_mem_replicate old] at later
      linarith
    · rw [List.mem_singleton.mp pump]

theorem pumped_median : median (List.replicate 24 1 ++ List.replicate 24 3) = some 2 := by
  have sorted : (List.replicate 24 (1 : Rat) ++ List.replicate 24 3).mergeSort
      (fun first second => decide (first ≤ second)) =
        List.replicate 24 1 ++ List.replicate 24 3 := by
    apply List.mergeSort_of_pairwise
    simp
  simp only [median, sorted]
  norm_num

theorem pumped_price
    (isRead : readPoolMedianCloseNative poolId tokenAddress nowMs (pumpedResponse nowMs) =
      .ok reference) : reference.priceNative = some 2 := by
  have ⟨closes, window, isMedian⟩ := window_read isRead
  rw [isMedian, pumped_closes window, pumped_median]

theorem pumped_early (long : ¬ShortPump nowMs minutes) :
    EarlyBelow nowMs minutes 1 (pumpedResponse nowMs) := by
  intro candle member early
  rw [pumped_observed] at member
  rcases List.mem_append.mp member with old | pump
  · rw [List.eq_of_mem_replicate old]
  · rw [List.mem_singleton.mp pump] at early
    apply absurd _ long
    simp only [ShortPump, bucketSec]
    push_cast
    linarith

def EntryInProgress (nowSec : Int) : OhlcvEntry → Bool
  | some (some at_ :: _) => decide ((nowSec : Rat) < at_ + bucketSec)
  | _ => false

def OhlcvResponse.completedOnly (nowSec : Int) (response : OhlcvResponse) : OhlcvResponse :=
  { response with
    ohlcvList := response.ohlcvList.map (List.filter fun entry => !EntryInProgress nowSec entry) }

theorem in_progress_dropped {entry : OhlcvEntry} (running : EntryInProgress nowSec entry = true) :
    completedCandle nowSec entry = none := by
  unfold EntryInProgress at running
  split at running
  · unfold completedCandle
    split
    · rename_i same
      cases same
      have running := of_decide_eq_true running
      exact if_neg fun ended => absurd ended.1 (not_le.mpr running)
    · rfl
  · cases running

theorem completed_only_candles (nowSec : Int) (list : List OhlcvEntry) :
    completedCandles nowSec (list.filter fun entry => !EntryInProgress nowSec entry) =
      completedCandles nowSec list := by
  unfold completedCandles
  congr 1
  induction list with
  | nil => rfl
  | cons entry list ih =>
    cases running : EntryInProgress nowSec entry with
    | true => simp [running, in_progress_dropped running, ih]
    | false => simp [running, List.filterMap_cons, ih]

theorem completed_only_read (poolId tokenAddress : String) (nowMs : Int)
    (response : OhlcvResponse) : readPoolMedianCloseNative poolId tokenAddress nowMs
        (response.completedOnly (nowMs / 1000)) =
      readPoolMedianCloseNative poolId tokenAddress nowMs response := by
  have same : completedCandles (nowMs / 1000)
      ((response.ohlcvList.map
        (List.filter fun entry => !EntryInProgress (nowMs / 1000) entry)).getD []) =
      completedCandles (nowMs / 1000) (response.ohlcvList.getD []) := by
    cases response.ohlcvList with
    | none => rfl
    | some list => exact completed_only_candles (nowMs / 1000) list
  simp only [readPoolMedianCloseNative, OhlcvResponse.completedOnly, same]

/-- The median is that of one close for each bucket of the window, in-progress candles have no
effect, and it is bounded by the closes before a pump just where the pump is a short one. -/
theorem pump_bounded_iff_short (nowMs : Int) (minutes : Rat) :
    (∀ poolId tokenAddress response reference,
      readPoolMedianCloseNative poolId tokenAddress nowMs response = .ok reference →
        ∃ closes, WindowOf nowMs (observedCandles nowMs response) closes ∧
          reference.priceNative = median closes) ∧
    (∀ poolId tokenAddress response,
      readPoolMedianCloseNative poolId tokenAddress nowMs
          (response.completedOnly (nowMs / 1000)) =
        readPoolMedianCloseNative poolId tokenAddress nowMs response) ∧
      ((∀ poolId tokenAddress response reference bound,
        readPoolMedianCloseNative poolId tokenAddress nowMs response = .ok reference →
        EarlyBelow nowMs minutes bound response →
          ∃ price, reference.priceNative = some price ∧ price ≤ bound) ↔
        ShortPump nowMs minutes) := by
  constructor
  · intro poolId tokenAddress response reference isRead
    exact window_read isRead
  constructor
  · intro poolId tokenAddress response
    exact completed_only_read poolId tokenAddress nowMs response
  constructor
  · intro bounded
    by_contra long
    have ⟨reference, isRead⟩ := pumped_read "" "" nowMs
    have ⟨price, isPrice, within⟩ := bounded _ _ _ _ 1 isRead (pumped_early long)
    rw [pumped_price isRead] at isPrice
    cases isPrice
    norm_num at within
  · intro short poolId tokenAddress response reference bound isRead early
    exact short_pump_bounded short isRead early

/-- A pump of 115 minutes moves the median when the read is at the start of a bucket. -/
theorem pump_of_115_minutes : ∃ reference,
      readPoolMedianCloseNative "" "" 1800000000000 (pumpedResponse 1800000000000) =
          .ok reference ∧
        EarlyBelow 1800000000000 115 1 (pumpedResponse 1800000000000) ∧
        (115 : Rat) ≤ platformPriceMedianWindowMinutes / 2 ∧
        reference.priceNative = some 2 := by
  have ⟨reference, isRead⟩ := pumped_read "" "" 1800000000000
  have long : ¬ShortPump 1800000000000 115 := by
    have started : lastBucket (1800000000000 / 1000) = 1800000000 := by decide
    simp only [ShortPump, started, bucketSec]
    norm_num
  have half : (115 : Rat) ≤ platformPriceMedianWindowMinutes / 2 := by
    norm_num [platformPriceMedianWindowMinutes]
  exact ⟨reference, isRead, pumped_early long, half, pumped_price isRead⟩

end Hivra.Prices
