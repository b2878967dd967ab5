import DesignTokens.Color.Reader
import DesignTokens.Value.Transformed
import DesignTokens.Proofs.Color.Range
import DesignTokens.Proofs.Computation

/-!
Colours whose channels are bytes, and that reading and adjusting a colour gives
nothing else.
-/

namespace DesignTokens

open ColorNumber

theorem nearestToInteger_between {number : Int} (low : 0 ≤ number) (high : number ≤ 1024) :
    Between (nearestToInteger number) (number - slack) (number + slack) := by
  have whole : (number.natAbs : ℚ) = number := by
    rw [← Int.cast_natCast, Int.natAbs_of_nonneg low]
  have bounded : (number : ℚ) ≤ 1024 := by exact_mod_cast high
  have near := nearestFloat_near (decide (number < 0)) number.natAbs Nat.one_pos
    (by decide : (-1022 : Int) ≤ 10) (by decide) (by rw [whole]; norm_num; linarith)
  have same : (if decide (number < 0) = true then (-1 : ℚ) else 1) * (number / (1 : Nat)) =
      number := by
    rw [decide_eq_false (not_lt.mpr low), if_neg (by decide), Nat.cast_one, div_one, one_mul]
  rw [whole, same] at near
  exact near.between

theorem exactly_byteLimit : Exactly (nearestToInteger 255) 255 := by
  refine ⟨⟨false, 8972014882652160, -45⟩, rfl, ?_⟩
  norm_num [Binary.value]

theorem channelUnit_between {channel : Int} (low : 0 ≤ channel) (high : channel ≤ 255) :
    Between (divided (nearestToInteger channel) 255) (channel / 255 - 2 * slack)
      (channel / 255 + 2 * slack) := by
  have tiny := slack_eq
  have least : (0 : ℚ) ≤ channel := by exact_mod_cast low
  have most : (channel : ℚ) ≤ 255 := by exact_mod_cast high
  rcases nearestToInteger_between low (by omega) with ⟨number, exact, below, above⟩
  rcases exact.ratio exactly_byteLimit (by norm_num) (by linarith) (by linarith) with
    ⟨part, exactPart, partLow, partHigh⟩
  exact ⟨part, exactPart, by linarith, by linarith⟩

theorem larger_eq_or (x y : Float) : larger x y = x ∨ larger x y = y := by
  unfold larger
  split
  · exact Or.inr rfl
  · exact Or.inl rfl

theorem smaller_eq_or (x y : Float) : smaller x y = x ∨ smaller x y = y := by
  unfold smaller
  split
  · exact Or.inr rfl
  · exact Or.inl rfl

theorem largest_mem (x y z : Float) : larger (larger x y) z ∈ [x, y, z] := by
  rcases larger_eq_or (larger x y) z with same | same <;> rw [same]
  · rcases larger_eq_or x y with other | other <;> rw [other] <;> simp
  · simp

theorem smallest_mem (x y z : Float) : smaller (smaller x y) z ∈ [x, y, z] := by
  rcases smaller_eq_or (smaller x y) z with same | same <;> rw [same]
  · rcases smaller_eq_or x y with other | other <;> rw [other] <;> simp
  · simp

/-- The saturation of two different extremes does not divide by zero. -/
theorem saturation_between {most least : Float} {high low : ℚ} (first : Exactly most high)
    (second : Exactly least low) (bottom : -(2 * slack) ≤ low) (apart : low + 1 / 300 ≤ high)
    (top : high ≤ 1 + 2 * slack) :
    ∃ saturation,
      checkedQuotient (most - least)
        (if atMost ((most + least) / constant 2) half then most + least
          else constant 2 - (most + least)) = .ok saturation ∧
        Between saturation (-(1 / 10000)) (1 + 1 / 10000) := by
  have tiny := slack_eq
  rcases first.sum second (by linarith) (by linarith) with ⟨sum, exactSum, sumLow, sumHigh⟩
  rcases first.difference second (by linarith) (by linarith) with
    ⟨range, exactRange, rangeLow, rangeHigh⟩
  rcases exactly_two.difference exactSum (by linarith) (by linarith) with
    ⟨rest, exactRest, restLow, restHigh⟩
  have divides : ∀ {divisor : Float} {number : ℚ}, Exactly divisor number → 1 / 400 ≤ number →
      range ≤ number + 10 * slack → ∃ saturation,
        checkedQuotient (most - least) divisor = .ok saturation ∧
          Between saturation (-(1 / 10000)) (1 + 1 / 10000) := by
    intro divisor number exact large wide
    have positive : 0 < number := by linarith
    have nonzero : equal divisor (constant 0) = false :=
      Bool.eq_false_iff.mpr fun same => positive.ne' ((exact.beq_iff exactly_zero).mp same)
    have below : range / number ≤ 1 + 4000 * slack := by
      rw [div_le_iff₀ positive, tiny]
      linarith
    have above : 0 ≤ range / number := div_nonneg (by linarith) positive.le
    rcases exactRange.ratio exact positive.ne' (by linarith) (by linarith) with
      ⟨quotient, exactQuotient, quotientLow, quotientHigh⟩
    refine ⟨(most - least) / divisor, ?_, quotient, exactQuotient, by linarith, by linarith⟩
    rw [checkedQuotient, nonzero]
    rfl
  split
  · exact divides exactSum (by linarith) (by linarith)
  · exact divides exactRest (by linarith) (by linarith)

def ChannelUnit (x : Float) : Prop :=
  ∃ channel : Int, 0 ≤ channel ∧ channel ≤ 255 ∧ x = divided (nearestToInteger channel) 255

/-- Two different bytes are at least a byte apart, up to rounding. -/
theorem channelUnit_apart {x y : Float} {high low : ℚ} (first : ChannelUnit x)
    (second : ChannelUnit y) (exact : Exactly x high) (other : Exactly y low) (order : low ≤ high)
    (differ : x ≠ y) : low + 1 / 300 ≤ high := by
  have tiny := slack_eq
  rcases first with ⟨one, oneLow, oneHigh, rfl⟩
  rcases second with ⟨two, twoLow, twoHigh, rfl⟩
  rcases channelUnit_between oneLow oneHigh with ⟨_, exactOne, oneLeast, oneMost⟩
  rcases channelUnit_between twoLow twoHigh with ⟨_, exactTwo, twoLeast, twoMost⟩
  rw [exactOne.unique exact] at oneLeast oneMost
  rw [exactTwo.unique other] at twoLeast twoMost
  rcases lt_trichotomy one two with less | same | more
  · have step : (one : ℚ) + 1 ≤ two := by exact_mod_cast less
    linarith
  · exact absurd (congrArg (fun n => divided (nearestToInteger n) 255) same) differ
  · have step : (two : ℚ) + 1 ≤ one := by exact_mod_cast more
    linarith

/-- Bytes have a saturation and a lightness between zero and one, up to rounding. -/
theorem ofUnitChannels_between {red green blue : Float} (first : ChannelUnit red)
    (second : ChannelUnit green) (third : ChannelUnit blue) :
    ∃ hsl : Hsl Float, Hsl.ofUnitChannels red green blue = .ok hsl ∧
      Between hsl.saturation (-(1 / 10000)) (1 + 1 / 10000) ∧
      Between hsl.lightness (-(1 / 10000)) (1 + 1 / 10000) := by
  have tiny := slack_eq
  have bounded : ∀ x ∈ [red, green, blue], ChannelUnit x := by
    simp only [List.mem_cons, List.not_mem_nil, or_false]
    rintro x (rfl | rfl | rfl) <;> assumption
  have exactly : ∀ {x}, ChannelUnit x → Between x (-(2 * slack)) (1 + 2 * slack) := by
    rintro x ⟨channel, low, high, rfl⟩
    have least : (0 : ℚ) ≤ channel := by exact_mod_cast low
    have most : (channel : ℚ) ≤ 255 := by exact_mod_cast high
    exact (channelUnit_between low high).mono (by linarith) (by linarith)
  have top := bounded _ (largest_mem red green blue)
  have bottom := bounded _ (smallest_mem red green blue)
  have order : ∀ {high low : ℚ}, Exactly (larger (larger red green) blue) high →
      Exactly (smaller (smaller red green) blue) low → low ≤ high := by
    intro high low exactMost exactLeast
    rcases exactly first with ⟨r, exactRed, _⟩
    rcases exactly second with ⟨g, exactGreen, _⟩
    rcases exactly third with ⟨b, exactBlue, _⟩
    rw [exactMost.unique ((exactRed.larger exactGreen).larger exactBlue),
      exactLeast.unique ((exactRed.smaller exactGreen).smaller exactBlue)]
    exact (min_le_right _ _).trans (le_max_right _ _)
  have unfolded : Hsl.ofUnitChannels red green blue =
      let most := larger (larger red green) blue
      let least := smaller (smaller red green) blue
      if equal least most then .ok ⟨constant 0, constant 0, (most + least) / constant 2⟩
      else do
        let saturation ← checkedQuotient (most - least)
          (if atMost ((most + least) / constant 2) half then most + least
            else constant 2 - (most + least))
        let turn := remainder (hueSextant red green blue most least / constant 6) 1
        return ⟨turn * constant 360, saturation, (most + least) / constant 2⟩ := rfl
  rw [unfolded]
  -- The bounds need the order and the gap of the two extremes, not which channels they are.
  generalize larger (larger red green) blue = most at *
  generalize smaller (smaller red green) blue = least at *
  rcases exactly top with ⟨high, exactMost, highLow, highHigh⟩
  rcases exactly bottom with ⟨low, exactLeast, lowLow, lowHigh⟩
  rcases exactMost.sum exactLeast (by linarith) (by linarith) with
    ⟨sum, exactSum, sumLow, sumHigh⟩
  have light : Between ((most + least) / constant 2) (-(1 / 10000)) (1 + 1 / 10000) :=
    (exactSum.ratio exactly_two (by norm_num) (by linarith) (by linarith)).mono (by linarith)
      (by linarith)
  dsimp only
  split
  · exact ⟨_, rfl, ⟨0, exactly_zero, by norm_num, by norm_num⟩, light⟩
  · rename_i differ
    have apart : least ≠ most := by
      rintro rfl
      exact differ ((exactLeast.beq_iff exactLeast).mpr rfl)
    rcases saturation_between exactMost exactLeast lowLow
      (channelUnit_apart top bottom exactMost exactLeast (order exactMost exactLeast) apart.symm)
      highHigh with ⟨saturation, quotient, between⟩
    rw [quotient]
    exact ⟨_, rfl, between, light⟩

/-- A hue, saturation and lightness give three channels between zero and one, up to rounding. -/
theorem unitChannels_between (hsl : Hsl Float)
    (first : Between hsl.saturation (-(1 / 10000)) (1 + 1 / 10000))
    (second : Between hsl.lightness (-(1 / 10000)) (1 + 1 / 10000)) :
    ∃ red green blue, hsl.unitChannels = .ok (red, green, blue) ∧
      ∀ x ∈ [red, green, blue], Between x (-(1 / 1000)) (1 + 1 / 1000) := by
  rcases hsl with ⟨hue, saturation, light⟩
  rcases first with ⟨strength, exactStrength, strengthLow, strengthHigh⟩
  rcases second with ⟨lightness, exactLight, lightLow, lightHigh⟩
  unfold Hsl.unitChannels
  dsimp only at *
  split
  · refine ⟨light, light, light, rfl, ?_⟩
    simp only [List.mem_cons, List.not_mem_nil, or_false, or_self, forall_eq]
    exact ⟨lightness, exactLight, by linarith, by linarith⟩
  · rcases extremes_between exactLight exactStrength lightLow lightHigh strengthLow strengthHigh rfl
      with ⟨most, least, exactMost, exactLeast, mostLow, mostHigh, leastLow, leastHigh⟩
    have placed := channelAt_between exactLeast exactMost leastLow leastHigh mostLow mostHigh
    refine ⟨_, _, _, rfl, ?_⟩
    simp only [List.mem_cons, List.not_mem_nil, or_false]
    rintro x (rfl | rfl | rfl)
    · exact placed _
    · exact placed _
    · exact placed _

/-- A double that is almost between 0 and 255 is rounded to a byte. -/
theorem round_byte {x : Float} (between : Between x (-(1 / 3)) (255 + 1 / 3)) :
    ∃ channel : Int, round x = .ok channel ∧ 0 ≤ channel ∧ channel ≤ 255 := by
  rcases between with ⟨number, exact, low, high⟩
  rcases exact.roundedToEven with ⟨whole, rounded, close⟩
  rw [abs_le] at close
  have result : round x = .ok whole := by
    change wholeNumberNear x = .ok whole
    rw [wholeNumberNear, rounded]
  have above : (-1 : ℚ) < whole := by linarith
  have below : (whole : ℚ) < 256 := by linarith
  have above : -1 < whole := by exact_mod_cast above
  have below : whole < 256 := by exact_mod_cast below
  exact ⟨whole, result, by omega, by omega⟩

theorem times_byte_between {x limit : Float} (exactLimit : Exactly limit 255)
    (between : Between x (-(1 / 1000)) (1 + 1 / 1000)) :
    Between (x * limit) (-(1 / 3)) (255 + 1 / 3) := by
  have tiny := slack_eq
  rcases between with ⟨number, exact, low, high⟩
  exact (exact.product exactLimit (by linarith) (by linarith)).mono (by linarith) (by linarith)

structure Color.Proper (color : Color) : Prop where
  red : 0 ≤ color.red ∧ color.red ≤ 255
  green : 0 ≤ color.green ∧ color.green ≤ 255
  blue : 0 ≤ color.blue ∧ color.blue ≤ 255

namespace Color

theorem ofHsl_proper (hue : Float) {saturation lightness : Float}
    (first : Between saturation (-(1 / 10000)) (1 + 1 / 10000))
    (second : Between lightness (-(1 / 10000)) (1 + 1 / 10000)) (alpha : Float) :
    ∃ color, ofHsl ⟨hue, saturation, lightness⟩ alpha = .ok color ∧ color.Proper := by
  rcases unitChannels_between ⟨hue, saturation, lightness⟩ first second with
    ⟨x, y, z, channels, between⟩
  have rounded : ∀ channel ∈ [x, y, z],
      ∃ whole, round (times channel 255) = .ok whole ∧ 0 ≤ whole ∧ whole ≤ 255 :=
    fun channel member => round_byte (times_byte_between exactly_byteLimit (between channel member))
  rcases rounded x (by simp) with ⟨red, redRounded, redByte⟩
  rcases rounded y (by simp) with ⟨green, greenRounded, greenByte⟩
  rcases rounded z (by simp) with ⟨blue, blueRounded, blueByte⟩
  refine ⟨⟨red, green, blue, alpha⟩, ?_, redByte, greenByte, blueByte⟩
  simp only [ofHsl, Hsl.channels, channels, redRounded, greenRounded, blueRounded, bind,
    Except.bind, pure, Except.pure]

theorem Proper.hsl {color : Color} (proper : color.Proper) :
    ∃ hsl, color.hsl = .ok hsl ∧
      Between hsl.saturation (-(1 / 10000)) (1 + 1 / 10000) ∧
      Between hsl.lightness (-(1 / 10000)) (1 + 1 / 10000) :=
  ofUnitChannels_between ⟨_, proper.red.1, proper.red.2, rfl⟩
    ⟨_, proper.green.1, proper.green.2, rfl⟩ ⟨_, proper.blue.1, proper.blue.2, rfl⟩

theorem clampUnit_almost (x : Float) : Between (clampUnit x) (-(1 / 10000)) (1 + 1 / 10000) :=
  (clampUnit_between x).mono (by norm_num) (by norm_num)

theorem Proper.adjustLightness {color : Color} (proper : color.Proper) (amount : Float) :
    ∃ adjusted, color.adjustLightness amount = .ok adjusted ∧ adjusted.Proper := by
  rcases proper.hsl with ⟨hsl, converted, saturation, _⟩
  unfold Color.adjustLightness
  rw [converted]
  exact ofHsl_proper hsl.hue saturation (clampUnit_almost (hsl.lightness + amount)) color.alpha

theorem Proper.adjustSaturation {color : Color} (proper : color.Proper) (amount : Float) :
    ∃ adjusted, color.adjustSaturation amount = .ok adjusted ∧ adjusted.Proper := by
  rcases proper.hsl with ⟨hsl, converted, _, lightness⟩
  unfold Color.adjustSaturation
  rw [converted]
  exact ofHsl_proper hsl.hue (clampUnit_almost (hsl.saturation + amount)) lightness color.alpha

theorem Proper.withAlpha {color : Color} (proper : color.Proper) (alpha : Float) :
    (color.withAlpha alpha).Proper :=
  ⟨proper.red, proper.green, proper.blue⟩

theorem named_proper : ∀ entry ∈ named, entry.2.Proper := by
  simp only [named, List.mem_cons, List.not_mem_nil, or_false]
  rintro entry (rfl | rfl | rfl | rfl | rfl | rfl | rfl | rfl) <;>
    exact ⟨by decide, by decide, by decide⟩

theorem byte_bounds {high low : Nat} (first : high < 16) (second : low < 16) :
    0 ≤ byte high low ∧ byte high low ≤ 255 := by
  rw [byte, Int.ofNat_eq_natCast]
  omega

theorem ofHexDigits_proper {digits : List Nat} {color : Color}
    (read : ofHexDigits digits = some color) (small : ∀ digit ∈ digits, digit < 16) :
    color.Proper := by
  unfold ofHexDigits at read
  split at read
  case h_5 => exact nomatch read
  all_goals
    obtain rfl := Option.some.inj read
    simp only [List.mem_cons, List.not_mem_nil, or_false, forall_eq_or_imp, forall_eq] at small
    exact ⟨byte_bounds (by tauto) (by tauto), byte_bounds (by tauto) (by tauto),
      byte_bounds (by tauto) (by tauto)⟩

theorem hexValue?_lt {c : Char} {digit : Nat} (read : hexValue? c = some digit) : digit < 16 := by
  unfold hexValue? at read
  have digits : isAsciiDigit c = true → c.toNat ≤ 57 := by
    intro decimal
    simp only [isAsciiDigit, Bool.and_eq_true, decide_eq_true_eq] at decimal
    exact decimal.2
  have lower : ('a' ≤ c && c ≤ 'f') = true → c.toNat ≤ 102 := by
    intro letter
    simp only [Bool.and_eq_true, decide_eq_true_eq] at letter
    exact letter.2
  have upper : ('A' ≤ c && c ≤ 'F') = true → c.toNat ≤ 70 := by
    intro letter
    simp only [Bool.and_eq_true, decide_eq_true_eq] at letter
    exact letter.2
  split at read
  · have := digits ‹_›
    have := Option.some.inj read
    omega
  · split at read
    · have := lower ‹_›
      have := Option.some.inj read
      omega
    · split at read
      · have := upper ‹_›
        have := Option.some.inj read
        omega
      · exact nomatch read

theorem of_mem_mapM {α β : Type} {read : α → Option β} :
    ∀ {items : List α} {results : List β}, items.mapM read = some results →
      ∀ result ∈ results, ∃ item ∈ items, read item = some result
  | [], results, all => by
      obtain rfl : [] = results := Option.some.inj all
      exact fun result member => absurd member List.not_mem_nil
  | item :: items, results, all => by
      simp only [List.mapM_cons, Option.bind_eq_bind, Option.bind_eq_some_iff, Option.pure_def,
        Option.some.injEq] at all
      rcases all with ⟨first, readFirst, rest, readRest, rfl⟩
      intro result member
      rcases List.mem_cons.mp member with rfl | later
      · exact ⟨item, List.mem_cons_self, readFirst⟩
      · rcases of_mem_mapM readRest result later with ⟨other, known, value⟩
        exact ⟨other, List.mem_cons_of_mem _ known, value⟩

theorem ofHex?_proper {text : List Char} {color : Color} (read : ofHex? text = some color) :
    color.Proper := by
  unfold ofHex? at read
  split at read
  · rcases Option.bind_eq_some_iff.mp read with ⟨digits, values, made⟩
    refine ofHexDigits_proper made fun digit member => ?_
    rcases of_mem_mapM values digit member with ⟨c, _, value⟩
    exact hexValue?_lt value
  · exact nomatch read

theorem exactly_255 : Exactly 255.0 255 := by
  refine ⟨⟨false, 8972014882652160, -45⟩, rfl, ?_⟩
  norm_num [Binary.value]

theorem exactly_zero_point : Exactly 0.0 0 :=
  exactly_pack_zero .positive

theorem rounded_byte {x : Float} {channel : Int} (read : rounded x = .ok channel)
    (between : Between x (-(1 / 3)) (255 + 1 / 3)) : 0 ≤ channel ∧ channel ≤ 255 := by
  rcases round_byte between with ⟨whole, result, byte⟩
  rw [rounded, result] at read
  obtain rfl : whole = channel := Except.ok.inj read
  exact byte

theorem channelArgument_byte {text : List Char} {channel : Int}
    (read : channelArgument text = .ok channel) : 0 ≤ channel ∧ channel ≤ 255 := by
  unfold channelArgument at read
  dsimp only at read
  split at read
  · rcases bind_eq_ok_iff.mp read with ⟨value, _, result⟩
    exact rounded_byte result (times_byte_between exactly_255
      ((clampUnit_between _).mono (by norm_num) (by norm_num)))
  · rcases bind_eq_ok_iff.mp read with ⟨value, _, result⟩
    exact rounded_byte result ((clamp_between exactly_zero_point exactly_255 (by norm_num) _).mono
      (by norm_num) (by norm_num))

theorem percentArgument_almost {text : List Char} {part : Float}
    (read : percentArgument text = .ok part) : Between part (-(1 / 10000)) (1 + 1 / 10000) := by
  rcases bind_eq_ok_iff.mp read with ⟨value, _, result⟩
  obtain rfl := Except.ok.inj result
  exact clampUnit_almost _

theorem ofArguments_proper {model : Model} {channels : List Char × List Char × List Char}
    {alpha : Option (List Char)} {color : Color}
    (read : ofArguments model channels alpha = .ok color) : color.Proper := by
  rcases channels with ⟨first, second, third⟩
  unfold ofArguments at read
  cases alpha <;> rcases bind_eq_ok_iff.mp read with ⟨opacity, _, result⟩ <;> cases model with
  | rgb =>
      rcases bind_eq_ok_iff.mp result with ⟨red, readRed, result⟩
      rcases bind_eq_ok_iff.mp result with ⟨green, readGreen, result⟩
      rcases bind_eq_ok_iff.mp result with ⟨blue, readBlue, result⟩
      obtain rfl := Except.ok.inj result
      exact ⟨channelArgument_byte readRed, channelArgument_byte readGreen,
        channelArgument_byte readBlue⟩
  | hsl =>
      rcases bind_eq_ok_iff.mp result with ⟨hue, _, result⟩
      rcases bind_eq_ok_iff.mp result with ⟨saturation, readSaturation, result⟩
      rcases bind_eq_ok_iff.mp result with ⟨lightness, readLightness, result⟩
      rcases ofHsl_proper hue (percentArgument_almost readSaturation)
        (percentArgument_almost readLightness) opacity with ⟨made, converted, proper⟩
      rw [converted] at result
      obtain rfl : made = color := Except.ok.inj result
      exact proper

theorem parse_proper {text : String} {color : Color} (read : parse text = .ok color) :
    color.Proper := by
  unfold parse at read
  dsimp only at read
  split at read
  · rename_i found
    obtain rfl := Except.ok.inj read
    rcases List.lookup_eq_some_iff.mp found with ⟨before, after, whole, _⟩
    exact named_proper (_, _) (by rw [whole]; exact List.mem_append_right _ List.mem_cons_self)
  · split at read
    · rename_i found
      obtain rfl := Except.ok.inj read
      exact ofHex?_proper found
    · split at read
      · split at read
        · exact ofArguments_proper read
        · exact nomatch read
      · exact nomatch read

end Color

theorem ColorChange.apply_proper {color : Color} (proper : color.Proper) (change : ColorChange)
    (factor : Float) : ∃ changed, change.apply factor color = .ok changed ∧ changed.Proper := by
  cases change with
  | alpha => exact ⟨_, rfl, proper.withAlpha factor⟩
  | lighten => exact proper.adjustLightness factor
  | darken => exact proper.adjustLightness (-factor)
  | saturate => exact proper.adjustSaturation factor
  | desaturate => exact proper.adjustSaturation (-factor)

end DesignTokens
