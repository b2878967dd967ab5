import DesignTokens.Color.Hsl
import DesignTokens.Proofs.Number.Interval

/-!
Colour arithmetic on doubles keeps its channels between 0 and 255, and never comes to
a number that cannot be rounded or divides by zero.
-/

namespace DesignTokens

open ColorNumber

variable {x y : Float} {number other : ℚ}

theorem Exactly.larger (first : Exactly x number) (second : Exactly y other) :
    Exactly (larger x y) (max number other) := by
  change Exactly (if decide (x < y) = true then y else x) _
  by_cases less : x < y
  · rw [decide_eq_true less, if_pos rfl, max_eq_right ((first.lt_iff second).mp less).le]
    exact second
  · have order := not_lt.mp fun more => less ((first.lt_iff second).mpr more)
    rw [decide_eq_false less, if_neg (by decide), max_eq_left order]
    exact first

theorem Exactly.smaller (first : Exactly x number) (second : Exactly y other) :
    Exactly (smaller x y) (min number other) := by
  change Exactly (if decide (y < x) = true then y else x) _
  by_cases less : y < x
  · rw [decide_eq_true less, if_pos rfl, min_eq_right ((second.lt_iff first).mp less).le]
    exact second
  · have order := not_lt.mp fun more => less ((second.lt_iff first).mpr more)
    rw [decide_eq_false less, if_neg (by decide), min_eq_left order]
    exact first

theorem clamp_between {low high : Float} {least most : ℚ} (bottom : Exactly low least)
    (top : Exactly high most) (order : least ≤ most) (x : Float) :
    Between (clamp low high x) least most := by
  by_cases below : x < high
  · have same : smaller high x = x := by
      change (if decide (x < high) = true then x else high) = x
      rw [decide_eq_true below, if_pos rfl]
    rw [clamp, same]
    by_cases above : low < x
    · rcases exists_exactly above below with ⟨number, exact⟩
      have under := ((exact.lt_iff top).mp below).le
      exact ⟨_, bottom.larger exact, le_max_left _ _, max_le order under⟩
    · have kept : larger low x = low := by
        change (if decide (low < x) = true then x else low) = low
        rw [decide_eq_false above, if_neg (by decide)]
      rw [kept]
      exact ⟨least, bottom, le_refl _, order⟩
  · have same : smaller high x = high := by
      change (if decide (x < high) = true then x else high) = high
      rw [decide_eq_false below, if_neg (by decide)]
    rw [clamp, same]
    exact ⟨_, bottom.larger top, le_max_left _ _, max_le order (le_refl _)⟩

theorem clampUnit_between (x : Float) : Between (clampUnit x) 0 1 :=
  clamp_between exactly_zero exactly_one (by norm_num) x

/-- What lies in the interval already stays there; only the sign of a zero may change. -/
theorem clampUnit_beq {factor : Float} (above : 0 ≤ factor) (below : factor ≤ 1) :
    (clampUnit factor == factor) = true := by
  have upper : Exactly 1 1 := exactly_one
  obtain ⟨number, exact, low, high⟩ := between_of_le exactly_literal_zero upper above below
  have clamped : Exactly (clampUnit factor) (max 0 (min 1 number)) :=
    exactly_zero.larger (exactly_one.smaller exact)
  rw [clamped.beq_iff exact, min_eq_right high, max_eq_right low]

/-- A point between two others stays between them, up to the error of its position. -/
theorem mixture_between {low high weight least most error : ℚ} (room : 0 ≤ error)
    (first : least ≤ low) (second : low ≤ most) (third : least ≤ high) (fourth : high ≤ most)
    (lower : -error ≤ weight) (upper : weight ≤ 1 + error) (width : most - least ≤ 2) :
    least - 4 * error ≤ low + (high - low) * weight ∧
      low + (high - low) * weight ≤ most + 4 * error := by
  have left := mul_nonneg (sub_nonneg.mpr second) (by linarith : 0 ≤ 1 + error - weight)
  have right := mul_nonneg (sub_nonneg.mpr fourth) (by linarith : 0 ≤ error + weight)
  have down := mul_nonneg (sub_nonneg.mpr first) (by linarith : 0 ≤ 1 + error - weight)
  have up := mul_nonneg (sub_nonneg.mpr third) (by linarith : 0 ≤ error + weight)
  have atLow : error * (most - low) ≤ error * 2 := mul_le_mul_of_nonneg_left (by linarith) room
  have atHigh : error * (most - high) ≤ error * 2 := mul_le_mul_of_nonneg_left (by linarith) room
  have overLow : error * (low - least) ≤ error * 2 := mul_le_mul_of_nonneg_left (by linarith) room
  have overHigh : error * (high - least) ≤ error * 2 := mul_le_mul_of_nonneg_left (by linarith) room
  constructor <;> linarith

theorem exactly_half : Exactly half (1 / 2) := by
  refine ⟨⟨false, 4503599627370496, -53⟩, rfl, ?_⟩
  norm_num [Binary.value]

theorem exactly_six : Exactly (constant 6) 6 := by
  refine ⟨⟨false, 6755399441055744, -50⟩, rfl, ?_⟩
  norm_num [Binary.value]

theorem sixth_between : Between sixth (1 / 6 - slack) (1 / 6 + slack) := by
  refine ⟨_, ⟨⟨false, 6004799503160661, -55⟩, rfl, rfl⟩, ?_, ?_⟩ <;>
    norm_num [Binary.value, slack_eq]

theorem twoThirds_between : Between twoThirds (2 / 3 - slack) (2 / 3 + slack) := by
  refine ⟨_, ⟨⟨false, 6004799503160661, -53⟩, rfl, rfl⟩, ?_, ?_⟩ <;>
    norm_num [Binary.value, slack_eq]

/-- The way from one double to another, times a part of a sixth of the circle. -/
theorem ramp_between {low high place : Float} {least most part : ℚ} (first : Exactly low least)
    (second : Exactly high most) (third : Exactly place part)
    (leastLow : -(1 / 2000) ≤ least) (leastHigh : least ≤ 1 + 1 / 2000)
    (mostLow : -(1 / 2000) ≤ most) (mostHigh : most ≤ 1 + 1 / 2000)
    (partLow : -(2 * slack) ≤ part) (partHigh : part ≤ 1 / 6 + 2 * slack) :
    Between (low + (high - low) * place * constant 6) (-(1 / 1000)) (1 + 1 / 1000) := by
  have tiny := slack_eq
  rcases second.difference first (by linarith) (by linarith) with ⟨way, exactWay, wayLow, wayHigh⟩
  have span : |way| ≤ 2 := by
    rw [abs_le]
    constructor <;> linarith
  have reach : |part| ≤ 1 := by
    rw [abs_le]
    constructor <;> linarith
  have area : |way * part| ≤ 2 * 1 := by
    rw [abs_mul]
    exact mul_le_mul span reach (abs_nonneg part) (by norm_num)
  rw [abs_le] at area span reach
  rcases exactWay.product third (by linarith) (by linarith) with
    ⟨rise, exactRise, riseLow, riseHigh⟩
  rcases exactRise.product exactly_six (by linarith) (by linarith) with
    ⟨height, exactHeight, heightLow, heightHigh⟩
  rcases first.sum exactHeight (by linarith) (by linarith) with ⟨sum, exactSum, sumLow, sumHigh⟩
  have mixed := mixture_between (by linarith : 0 ≤ 12 * slack) leastLow leastHigh mostLow mostHigh
    (by linarith : -(12 * slack) ≤ 6 * part) (by linarith) (by linarith)
  have drift : |(way - (most - least)) * part| ≤ slack * 1 := by
    have close : |way - (most - least)| ≤ slack := by
      rw [abs_le]
      constructor <;> linarith
    rw [abs_mul]
    exact mul_le_mul close (abs_le.mpr reach) (abs_nonneg part) (by linarith)
  rw [abs_le] at drift
  exact ⟨sum, exactSum, by linarith, by linarith⟩

theorem channelAt_between {low high : Float} {least most : ℚ} (first : Exactly low least)
    (second : Exactly high most) (leastLow : -(1 / 2000) ≤ least)
    (leastHigh : least ≤ 1 + 1 / 2000) (mostLow : -(1 / 2000) ≤ most)
    (mostHigh : most ≤ 1 + 1 / 2000) (turn : Float) :
    Between (channelAt low high turn) (-(1 / 1000)) (1 + 1 / 1000) := by
  have tiny := slack_eq
  have atLow : Between low (-(1 / 1000)) (1 + 1 / 1000) :=
    ⟨least, first, by linarith, by linarith⟩
  have atHigh : Between high (-(1 / 1000)) (1 + 1 / 1000) :=
    ⟨most, second, by linarith, by linarith⟩
  obtain ⟨place, named⟩ : ∃ place, flooredRemainder turn (nearestToInteger 1) = place := ⟨_, rfl⟩
  have unfolded : channelAt low high turn =
      if decide (place < sixth) = true then low + (high - low) * place * constant 6
      else if decide (place < half) = true then high
      else if decide (place < twoThirds) = true then
        low + (high - low) * (twoThirds - place) * constant 6
      else low := by
    rw [← named]
    rfl
  have placed := flooredRemainder_one turn
  rw [named] at placed
  rw [unfolded]
  rcases placed with undefined | ⟨part, exact, partLow⟩
  · rw [decide_eq_false (undefined.not_lt _), decide_eq_false (undefined.not_lt _),
      decide_eq_false (undefined.not_lt _)]
    exact atLow
  · norm_num at partLow
    by_cases early : place < sixth
    · rcases sixth_between with ⟨end1, exactEnd, _, endHigh⟩
      have below := (exact.lt_iff exactEnd).mp early
      rw [decide_eq_true early, if_pos rfl]
      exact ramp_between first second exact leastLow leastHigh mostLow mostHigh (by linarith)
        (by linarith)
    · rw [decide_eq_false early, if_neg (by decide)]
      by_cases flat : place < half
      · rw [decide_eq_true flat, if_pos rfl]
        exact atHigh
      · rw [decide_eq_false flat, if_neg (by decide)]
        have later := not_lt.mp fun less => flat ((exact.lt_iff exactly_half).mpr less)
        by_cases falling : place < twoThirds
        · rcases twoThirds_between with ⟨finish, exactFinish, finishLow, finishHigh⟩
          have below := (exact.lt_iff exactFinish).mp falling
          rcases exactFinish.difference exact (by linarith) (by linarith) with
            ⟨rest, exactRest, restLow, restHigh⟩
          rw [decide_eq_true falling, if_pos rfl]
          exact ramp_between first second exactRest leastLow leastHigh mostLow mostHigh
            (by linarith) (by linarith)
        · rw [decide_eq_false falling, if_neg (by decide)]
          exact atLow

theorem exactly_two : Exactly (constant 2) 2 := by
  refine ⟨⟨false, 4503599627370496, -51⟩, rfl, ?_⟩
  norm_num [Binary.value]

/-- The brightest and the darkest channel lie between zero and one, up to rounding. -/
theorem extremes_between {light saturation : Float} {lightness strength : ℚ}
    (first : Exactly light lightness) (second : Exactly saturation strength)
    (lightLow : -(1 / 10000) ≤ lightness) (lightHigh : lightness ≤ 1 + 1 / 10000)
    (strengthLow : -(1 / 10000) ≤ strength) (strengthHigh : strength ≤ 1 + 1 / 10000)
    {high : Float} (chosen : high = if atMost light half then light * (constant 1 + saturation)
      else light + saturation - light * saturation) :
    ∃ most least, Exactly high most ∧ Exactly (constant 2 * light - high) least ∧
      -(1 / 2000) ≤ most ∧ most ≤ 1 + 1 / 2000 ∧
      -(1 / 2000) ≤ least ∧ least ≤ 1 + 1 / 2000 := by
  have tiny := slack_eq
  have brightest : ∃ most, Exactly high most ∧ -(1 / 2000) ≤ most ∧ most ≤ 1 + 1 / 2000 ∧
      -(1 / 3000) ≤ 2 * lightness - most ∧ 2 * lightness - most ≤ 1 + 1 / 3000 := by
    by_cases dim : light ≤ half
    · have below := (first.le_iff exactly_half).mp dim
      have same : high = light * (constant 1 + saturation) := by
        rw [chosen]
        exact if_pos (decide_eq_true dim)
      rcases exactly_one.sum second (by linarith) (by linarith) with
        ⟨factor, exactFactor, factorLow, factorHigh⟩
      have beyond := mul_nonneg (by linarith : 0 ≤ 1 / 2 - lightness) (by linarith : 0 ≤ factor)
      have under := mul_nonneg (by linarith : 0 ≤ lightness + 1 / 10000) (by linarith : 0 ≤ factor)
      have restOver := mul_nonneg (by linarith : 0 ≤ 1 / 2 - lightness)
        (by linarith : 0 ≤ 2 - factor + 1 / 5000)
      have restUnder := mul_nonneg (by linarith : 0 ≤ lightness + 1 / 10000)
        (by linarith : 0 ≤ 2 - factor + 1 / 5000)
      rcases first.product exactFactor (by linarith) (by linarith) with
        ⟨most, exactMost, mostLow, mostHigh⟩
      rw [same]
      exact ⟨most, exactMost, by linarith, by linarith, by linarith, by linarith⟩
    · have above := not_le.mp fun less => dim ((first.le_iff exactly_half).mpr less)
      have same : high = light + saturation - light * saturation := by
        rw [chosen]
        exact if_neg (by rw [show atMost light half = decide (light ≤ half) from rfl,
          decide_eq_false dim]; decide)
      have beyond := mul_nonneg (by linarith : 0 ≤ lightness - 1 / 2)
        (by linarith : 0 ≤ 1 - strength + 1 / 10000)
      have under := mul_nonneg (by linarith : 0 ≤ 1 - lightness + 1 / 10000)
        (by linarith : 0 ≤ 1 - strength + 1 / 10000)
      have restOver := mul_nonneg (by linarith : 0 ≤ 1 - lightness + 1 / 10000)
        (by linarith : 0 ≤ 1 + strength)
      have restUnder := mul_nonneg (by linarith : 0 ≤ lightness - 1 / 2)
        (by linarith : 0 ≤ 1 + strength)
      rcases first.sum second (by linarith) (by linarith) with ⟨sum, exactSum, sumLow, sumHigh⟩
      rcases first.product second (by linarith) (by linarith) with
        ⟨shared, exactShared, sharedLow, sharedHigh⟩
      rcases exactSum.difference exactShared (by linarith) (by linarith) with
        ⟨most, exactMost, mostLow, mostHigh⟩
      rw [same]
      exact ⟨most, exactMost, by linarith, by linarith, by linarith, by linarith⟩
  rcases brightest with ⟨most, exactMost, mostLow, mostHigh, restLow, restHigh⟩
  rcases exactly_two.product first (by linarith) (by linarith) with
    ⟨double, exactDouble, doubleLow, doubleHigh⟩
  rcases exactDouble.difference exactMost (by linarith) (by linarith) with
    ⟨least, exactLeast, leastLow, leastHigh⟩
  exact ⟨most, least, exactMost, exactLeast, mostLow, mostHigh, by linarith, by linarith⟩

end DesignTokens
