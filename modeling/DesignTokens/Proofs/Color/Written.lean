import DesignTokens.Proofs.Color.Bytes
import DesignTokens.Proofs.Number.Numeral
import DesignTokens.Proofs.Text.Blank

/-!
Colours as they are written.  Reading the hexadecimal form of a colour gives its channels back, so
that nothing is lost when a colour is kept as that form and its opacity; reading the form with
four numbers gives back the opacity that its text says.
-/

namespace DesignTokens

theorem hexValue?_hexDigit {digit : Nat} (small : digit < 16) :
    hexValue? (hexDigit digit) = some digit := by
  have each : ∀ digit < 16, hexValue? (hexDigit digit) = some digit := by decide
  exact each digit small

theorem not_isBlank_hexDigit {digit : Nat} (small : digit < 16) :
    isBlank (hexDigit digit) = false := by
  have each : ∀ digit < 16, isBlank (hexDigit digit) = false := by decide
  exact each digit small

def byteDigits (channel : Nat) : List Char :=
  [hexDigit (channel / 16), hexDigit (channel % 16)]

theorem channelDigits_byte {channel : Nat} (small : channel < 256) :
    channelDigits channel = byteDigits channel := by
  have whole : ¬ (channel : Int) < 0 := not_lt.mpr (Int.natCast_nonneg channel)
  rw [channelDigits, if_neg whole, Int.natAbs_natCast]
  by_cases short : channel < 16
  · have width : channel.log2 / 4 + 1 = 1 := by
      have bound : channel.log2 < 4 := by
        by_cases zero : channel = 0
        · rw [zero]; decide
        · exact (Nat.log2_lt zero).mpr short
      omega
    rw [width, byteDigits, Nat.div_eq_of_lt short]
    rfl
  · have width : channel.log2 / 4 + 1 = 2 := by
      have filled : channel ≠ 0 := by omega
      have least : 4 ≤ channel.log2 := (Nat.le_log2 filled).mpr (by omega)
      have most : channel.log2 < 8 := (Nat.log2_lt filled).mpr small
      omega
    have high : channel / 16 < 16 := by omega
    rw [width, byteDigits, hexDigits, hexDigits, hexDigits, Nat.mod_eq_of_lt high]
    rfl

theorem asciiLowerChar_early {c : Char} (early : c.toNat < 65) : asciiLowerChar c = c := by
  rw [asciiLowerChar, if_neg]
  simp only [isAsciiUpper, Bool.and_eq_true, decide_eq_true_eq, not_and]
  intro above
  have late : 65 ≤ c.toNat := above
  omega

theorem mem_lowerCase_early {c : Char} (early : c.toNat < 65) {text : List Char}
    (inside : c ∈ text) : c ∈ lowerCase text := by
  have lower := asciiLowerChar_early early
  have stays : ∀ {text} (afterCased : Bool), c ∈ text → c ∈ lowerCaseFrom afterCased text := by
    intro text
    induction text with
    | nil => exact fun _ inside => nomatch inside
    | cons other rest ih =>
        intro afterCased inside
        rw [lowerCaseFrom, List.mem_append]
        rcases List.mem_cons.mp inside with rfl | later
        · left
          rw [if_neg (by omega), lowerChar, if_pos (by omega), lower]
          exact List.mem_singleton_self c
        · exact Or.inr (ih _ later)
  rw [lowerCase]
  split
  · exact List.mem_map.mpr ⟨c, inside, lower⟩
  · exact stays false inside

namespace Color

theorem lookup_named_early {c : Char} (early : c.toNat < 65) {text : List Char}
    (inside : c ∈ text) : named.lookup (String.ofList (lowerCase text)) = none := by
  have names : ∀ entry ∈ named, entry.1.toList.all (65 ≤ ·.toNat) = true := by decide
  rw [List.lookup_eq_none_iff]
  intro entry listed
  rw [bne_iff_ne]
  intro same
  have late := List.all_eq_true.mp (names entry listed) c
  rw [← same, String.toList_ofList, decide_eq_true_iff] at late
  have letter := late (mem_lowerCase_early early inside)
  omega

/-- The name of a colour function stands in front of what follows it, and is no number sign. -/
theorem suffix_of_functionName? {text rest : List Char} {model : Model}
    (named : functionName? text = some (model, rest)) : rest <:+ text ∧ text.head? ≠ some '#' := by
  rcases text with _ | ⟨first, _ | ⟨second, _ | ⟨third, after⟩⟩⟩
  · cases named
  · cases named
  · cases named
  · have sharp : isFunctionLetter 'r' '#' = false ∧ isFunctionLetter 'h' '#' = false := by decide
    have other : functionName? ('#' :: second :: third :: after) = none := by
      simp [functionName?, sharp.1, sharp.2]
    have apart : first ≠ '#' := by
      rintro rfl
      rw [other] at named
      cases named
    have shorter : rest <:+ after := by
      cases after with
      | nil =>
          obtain rfl : [] = rest := by grind [functionName?]
          exact List.suffix_refl _
      | cons c others =>
          have either : rest = others ∨ rest = c :: others := by grind [functionName?]
          rcases either with rfl | rfl
          · exact List.suffix_cons _ _
          · exact List.suffix_refl _
    exact ⟨shorter.trans (List.suffix_append [first, second, third] after), by simpa using apart⟩

theorem parse_of_function? {text : String} {body : List Char} {model : Model}
    (called : function? (trim text.toList) = some (model, body)) :
    parse text =
      match arguments? body with
      | some (channels, alpha) => ofArguments model channels alpha
      | none => .error (.arguments text) := by
  obtain ⟨⟨_, rest⟩, start, inner⟩ := Option.bind_eq_some_iff.mp called
  obtain ⟨suffix, apart⟩ := suffix_of_functionName? start
  have bracket : '(' ∈ rest := by
    dsimp only at inner
    split at inner
    · exact List.mem_cons_self
    · cases inner
  have nameless :=
    lookup_named_early (by decide : '('.toNat < 65) (suffix.mem bracket)
  have hex : ofHex? (trim text.toList) = none := by
    rw [ofHex?]
    intro digits same
    rw [same] at apart
    exact apart rfl
  cases read : arguments? body with
  | none => simp only [parse, nameless, hex, called, read]
  | some found =>
      obtain ⟨channels, alpha⟩ := found
      simp only [parse, nameless, hex, called, read]

theorem ofHex?_bytes {red green blue : Nat} (first : red < 256) (second : green < 256)
    (third : blue < 256) :
    ofHex? ('#' :: (byteDigits red ++ byteDigits green ++ byteDigits blue)) =
      some ⟨red, green, blue, 1.0⟩ := by
  have whole : ∀ channel : Nat, byte (channel / 16) (channel % 16) = channel := by
    intro channel
    rw [byte, Nat.div_add_mod]
    rfl
  have high : ∀ {channel}, channel < 256 → channel / 16 < 16 := fun small => by omega
  have low : ∀ channel, channel % 16 < 16 := fun channel => Nat.mod_lt _ (by decide)
  simp only [ofHex?, byteDigits, List.cons_append, List.nil_append, List.mapM_cons, List.mapM_nil,
    hexValue?_hexDigit, high first, high second, high third, low, Option.bind_eq_bind,
    Option.bind_some, Option.pure_def, ofHexDigits, whole]

/-- The hexadecimal form of a colour is a number sign and six digits. -/
theorem Proper.hex_eq {color : Color} (proper : color.Proper) :
    ∃ red green blue : Nat, red < 256 ∧ green < 256 ∧ blue < 256 ∧
      color = ⟨red, green, blue, color.alpha⟩ ∧
      color.hex.toList = '#' :: (byteDigits red ++ byteDigits green ++ byteDigits blue) := by
  obtain ⟨red, green, blue, alpha⟩ := color
  obtain ⟨⟨redLow, redHigh⟩, ⟨greenLow, greenHigh⟩, ⟨blueLow, blueHigh⟩⟩ := proper
  lift red to ℕ using redLow
  lift green to ℕ using greenLow
  lift blue to ℕ using blueLow
  dsimp only at redHigh greenHigh blueHigh
  have first : red < 256 := by omega
  have second : green < 256 := by omega
  have third : blue < 256 := by omega
  refine ⟨red, green, blue, first, second, third, rfl, ?_⟩
  rw [hex, String.toList_ofList, channelDigits_byte first, channelDigits_byte second,
    channelDigits_byte third]
  rfl

theorem trim_bytes (red green blue : Nat) :
    trim ('#' :: (byteDigits red ++ byteDigits green ++ byteDigits blue)) =
      '#' :: (byteDigits red ++ byteDigits green ++ byteDigits blue) := by
  refine trim_eq_self (fun c first => ?_) (fun c last => ?_)
  · obtain rfl : '#' = c := Option.some.inj first
    decide
  · obtain rfl : hexDigit (blue % 16) = c := Option.some.inj last
    exact not_isBlank_hexDigit (Nat.mod_lt _ (by decide))

theorem Proper.parse_hex {color : Color} (proper : color.Proper) :
    parse color.hex = .ok { color with alpha := 1.0 } := by
  obtain ⟨red, green, blue, first, second, third, same, text⟩ := proper.hex_eq
  rw [parse, text, trim_bytes,
    lookup_named_early (by decide : '#'.toNat < 65) (List.mem_cons_self),
    ofHex?_bytes first second third, same]

theorem parse_early {c : Char} {after : List Char} (early : c.toNat < 65) (other : c ≠ '#')
    (trimmed : trim (c :: after) = c :: after) :
    parse (String.ofList (c :: after)) =
      .error (.unknown (String.ofList (c :: after))) := by
  have hex : ofHex? (c :: after) = none := by
    rw [ofHex?]
    rintro digits same
    exact other (List.cons.inj same).1
  have letterless : ∀ letter ∈ ['r', 'h'], isFunctionLetter letter c = false := by
    simp only [List.forall_mem_cons, List.not_mem_nil, false_imp_iff, implies_true, and_true]
    have differ : ∀ letter : Char, 65 ≤ letter.toNat → (c == letter) = false := by
      intro letter late
      rw [beq_eq_false_iff_ne]
      rintro rfl
      omega
    simp [isFunctionLetter, asciiLowerChar_early early, differ]
  have nameless : function? (c :: after) = none := by
    have none : functionName? (c :: after) = none := by
      match after with
      | [] => rfl
      | [second] => rfl
      | second :: third :: rest =>
          simp [functionName?, letterless 'r' (by simp), letterless 'h' (by simp)]
    rw [function?, none]
    rfl
  rw [parse, String.toList_ofList, trimmed,
    lookup_named_early early List.mem_cons_self, hex, nameless]

end Color

open Json (IsNumeral)

theorem dropTail_append (text : List Char) (c : Char) : dropTail [c] (text ++ [c]) = some text := by
  simp [dropTail, dropLead]

theorem dropTail_eq_none {c : Char} {text : List Char} (none : c ∉ text) :
    dropTail [c] text = .none := by
  rw [dropTail, List.reverse_singleton]
  cases shape : text.reverse with
  | nil => rfl
  | cons last rest =>
      have inside : last ∈ text := List.mem_reverse.mp (shape ▸ List.mem_cons_self)
      have other : c ≠ last := by
        rintro rfl
        exact none inside
      simp [dropLead, other]

theorem cutAt_append {separator : Char} {text : List Char} (none : separator ∉ text)
    (rest : List Char) :
    cutAt separator (text ++ rest) =
      (text ++ (cutAt separator rest).1, (cutAt separator rest).2) := by
  induction text with
  | nil => rfl
  | cons c text ih =>
      have other : c ≠ separator := by
        rintro rfl
        exact none List.mem_cons_self
      simp [cutAt, other, ih fun inside => none (List.mem_cons_of_mem c inside)]

theorem cutAt_eq_self {separator : Char} {text : List Char} (none : separator ∉ text) :
    cutAt separator text = (text, .none) := by
  simpa [cutAt] using cutAt_append none []

namespace Color

theorem not_isNumeral_percent : ¬ IsNumeral '%' := by
  simp [IsNumeral, Json.IsMark, isAsciiDigit]

theorem alphaArgument_eq {text : List Char} (each : ∀ c ∈ text, IsNumeral c) {x : Float}
    (read : readFloat? (String.ofList text) = some x) : alphaArgument text = .ok (clampUnit x) := by
  have plain := dropTail_eq_none fun inside => not_isNumeral_percent (each '%' inside)
  rw [alphaArgument, trim_eq_self_of_isNumeral each]
  simp only [plain, number, read]
  rfl

theorem round_eq {x : Float} {whole : Int} (between : Between x (whole - 1 / 3) (whole + 1 / 3)) :
    rounded x = .ok whole := by
  rcases between with ⟨number, exact, low, high⟩
  rcases exact.roundedToEven with ⟨result, found, close⟩
  rw [abs_le] at close
  have above : (whole : ℚ) < result + 1 := by linarith
  have below : (result : ℚ) < whole + 1 := by linarith
  have least : whole < result + 1 := by exact_mod_cast above
  have most : result < whole + 1 := by exact_mod_cast below
  obtain rfl : result = whole := by omega
  change (wholeNumberNear x).mapError ColorFault.arithmetic = .ok result
  rw [wholeNumberNear, found]
  rfl

theorem toFloat_byte {channel : Nat} (byte : channel ≤ 255) :
    Decimal.toFloat false (.ofParts (decimalDigits channel) [] 0) = nearestToInteger channel := by
  have said : Decimal.ofParts (decimalDigits channel) [] 0 = ⟨channel, 0⟩ := by
    rw [Decimal.ofParts, List.append_nil, digitsValue_decimalDigits]
    rfl
  have sign : decide ((channel : Int) < 0) = false := by
    rw [decide_eq_false_iff_not]
    omega
  rw [said, Decimal.toFloat, nearestToInteger, sign, Int.natAbs_natCast]
  rcases Nat.eq_zero_or_pos channel with rfl | some
  · rfl
  · have few : (decimalDigits channel).length < 4 := by
      have bound : 10 ^ (decimalDigits channel).length < 10 ^ 4 :=
        (pow_length_le some).trans_lt (by omega)
      exact (Nat.pow_lt_pow_iff_right (by decide)).mp bound
    simp only [Int.ofNat_eq_natCast]
    rw [if_neg (by omega), if_neg (by omega)]
    simp

theorem channelArgument_eq {channel : Nat} (byte : channel ≤ 255) :
    channelArgument (decimalDigits channel) = .ok channel := by
  have digits := Json.isDigits_decimalDigits channel
  have numeral : Numeral (.ofParts (decimalDigits channel) [] 0) (decimalDigits channel) :=
    .whole digits
  have each := numeral.isNumeral
  have plain := dropTail_eq_none fun inside => not_isNumeral_percent (each '%' inside)
  have read : readFloat? (String.ofList (decimalDigits channel)) =
      some (nearestToInteger channel) := by
    rw [← toFloat_byte byte]
    exact numeral.readFloat?_plain false
  obtain ⟨number, exact, low, high⟩ := nearestToInteger_between (Int.natCast_nonneg channel)
    (by omega : (channel : Int) ≤ 1024)
  have clamped : Exactly (clamp 0.0 255.0 (nearestToInteger channel))
      (max 0 (min 255 number)) := exactly_zero_point.larger (exactly_255.smaller exact)
  have bounds : (0 : ℚ) ≤ channel ∧ (channel : ℚ) ≤ 255 := ⟨by positivity, by exact_mod_cast byte⟩
  rw [slack_eq] at low high
  rw [channelArgument, trim_eq_self_of_isNumeral each]
  simp only [plain, DesignTokens.Color.number, read]
  refine round_eq ⟨_, clamped, ?_, ?_⟩
  · refine le_max_of_le_right (le_min ?_ ?_) <;> push_cast at low ⊢ <;> linarith
  · refine max_le ?_ (min_le_of_right_le ?_) <;> push_cast at high ⊢ <;> linarith

def isSeparator (c : Char) : Bool :=
  isBlank c || c == ','

theorem not_isSeparator_of_isNumeral {c : Char} (numeral : IsNumeral c) :
    isSeparator c = false := by
  have other : c ≠ ',' := by
    rintro rfl
    simp [IsNumeral, Json.IsMark, isAsciiDigit] at numeral
  simp [isSeparator, not_isBlank_of_isNumeral numeral, other]

def argumentText (red green blue alpha : List Char) : List Char :=
  red ++ ',' :: ' ' :: (green ++ ',' :: ' ' :: (blue ++ ',' :: ' ' :: alpha))

section

variable {red green blue alpha : List Char}

def IsArgument (text : List Char) : Prop :=
  text ≠ [] ∧ ∀ c ∈ text, IsNumeral c

theorem not_mem_argumentText (first : IsArgument red) (second : IsArgument green)
    (third : IsArgument blue) (last : IsArgument alpha) {c : Char} (other : ¬ IsNumeral c)
    (apart : c ≠ ',' ∧ c ≠ ' ') : c ∉ argumentText red green blue alpha := by
  have none : ∀ {text}, IsArgument text → c ∉ text :=
    fun argument inside => other (argument.2 c inside)
  simp [argumentText, none first, none second, none third, none last, apart]

theorem arguments?_argumentText (first : IsArgument red) (second : IsArgument green)
    (third : IsArgument blue) (last : IsArgument alpha) :
    arguments? (argumentText red green blue alpha) = some ((red, green, blue), some alpha) := by
  have slashless : '/' ∉ argumentText red green blue alpha :=
    not_mem_argumentText first second third last (by simp [IsNumeral, Json.IsMark, isAsciiDigit])
      (by decide)
  have whole : ∀ part ∈ [red, green, blue, alpha],
      part ≠ [] ∧ ∀ c ∈ part, isSeparator c = false := by
    have each : ∀ {text}, IsArgument text → text ≠ [] ∧ ∀ c ∈ text, isSeparator c = false :=
      fun argument =>
        ⟨argument.1, fun c member => not_isSeparator_of_isNumeral (argument.2 c member)⟩
    simp only [List.forall_mem_cons, List.not_mem_nil, false_imp_iff, implies_true, and_true]
    exact ⟨each first, each second, each third, each last⟩
  have parted : pieces (fun c => isBlank c || c == ',') (trim (argumentText red green blue alpha)) =
      [red, green, blue, alpha] := by
    rw [pieces_trim (fun c blank => by simp [blank])]
    have written : argumentText red green blue alpha =
        [',', ' '].intercalate [red, green, blue, alpha] := by
      simp [argumentText, List.intercalate_cons_cons]
    rw [written]
    exact pieces_intercalate (by decide) (by simp [isBlank]) whole
  rw [arguments?, splitArguments, cutAt_eq_self slashless]
  simp only [parted]

theorem trim_call (body : List Char) :
    trim ("rgba(".toList ++ body ++ [')']) = "rgba(".toList ++ body ++ [')'] := by
  refine trim_eq_self (fun c start => ?_) fun c ending => ?_
  · obtain rfl : 'r' = c := Option.some.inj start
    decide
  · rw [List.getLast?_append, List.getLast?_singleton] at ending
    obtain rfl : ')' = c := Option.some.inj ending
    decide

/-- What follows the name of a colour function is its body, if it stands in brackets on one
line. -/
theorem function?_brackets {name body : List Char} {model : Model}
    (start : functionName? (name ++ '(' :: (body ++ [')'])) = some (model, '(' :: (body ++ [')'])))
    (lineless : '\n' ∉ body) : function? (name ++ '(' :: (body ++ [')'])) = some (model, body) := by
  have line : body.contains '\n' = false := by simpa using lineless
  rw [function?, start]
  change ((dropTail [')'] (body ++ [')'])).bind fun body =>
    if body.contains '\n' then none else some (model, body)) = _
  rw [dropTail_append, Option.bind_some, line]
  rfl

/-- A colour function with four numbers is read argument by argument. -/
theorem parse_rgba (first : IsArgument red) (second : IsArgument green)
    (third : IsArgument blue) (last : IsArgument alpha) :
    parse (String.ofList ("rgba(".toList ++ argumentText red green blue alpha ++ [')'])) =
      ofArguments .rgb (red, green, blue) (some alpha) := by
  have lineless := not_mem_argumentText first second third last
    (by simp [IsNumeral, Json.IsMark, isAsciiDigit] : ¬ IsNumeral '\n') (by decide)
  have called : function? (trim (String.ofList ("rgba(".toList ++
      argumentText red green blue alpha ++ [')'])).toList) =
        some (.rgb, argumentText red green blue alpha) := by
    rw [String.toList_ofList, trim_call]
    exact @function?_brackets "rgba".toList _ .rgb rfl lineless
  rw [parse_of_function? called, arguments?_argumentText first second third last]

end

/-- The text of a colour that is not opaque is read as the colour, with the opacity moved into its
interval. -/
theorem ofArguments_rgba {red green blue : Nat} (first : red ≤ 255) (second : green ≤ 255)
    (third : blue ≤ 255) {alpha : List Char} (each : ∀ c ∈ alpha, IsNumeral c) {x : Float}
    (read : readFloat? (String.ofList alpha) = some x) :
    ofArguments .rgb (decimalDigits red, decimalDigits green, decimalDigits blue) (some alpha) =
      .ok ⟨red, green, blue, clampUnit x⟩ := by
  simp only [ofArguments, alphaArgument_eq each read, channelArgument_eq first,
    channelArgument_eq second, channelArgument_eq third]
  rfl

def rgbaText (red green blue : Nat) (alpha : List Char) : List Char :=
  "rgba(".toList ++ argumentText (decimalDigits red) (decimalDigits green) (decimalDigits blue)
    alpha ++ [')']

theorem css_veiled {red green blue : Nat} {opacity : Float} (veiled : ¬ 1.0 ≤ opacity)
    {alpha : List Char} (written : NumberLayout.compact.write opacity = String.ofList alpha) :
    css ⟨red, green, blue, opacity⟩ = String.ofList (rgbaText red green blue alpha) := by
  have digits : ∀ channel : Nat, integerText channel = String.ofList (decimalDigits channel) := by
    intro channel
    have above : ¬ (channel : Int) < 0 := by omega
    simp [integerText, above]
  rw [css, if_neg veiled, written, digits, digits, digits, ← String.toList_inj, rgbaText]
  simp [argumentText]

end Color

theorem clampUnit_cases (x : Float) :
    clampUnit x = x ∨ clampUnit x = nearestToInteger 1 ∨ clampUnit x = nearestToInteger 0 := by
  have upper := smaller_eq_or (nearestToInteger 1) x
  rcases larger_eq_or (nearestToInteger 0) (smaller (nearestToInteger 1) x) with low | inner
  · exact Or.inr (Or.inr low)
  · rcases upper with high | same
    · exact Or.inr (Or.inl (inner.trans high))
    · exact Or.inl (inner.trans same)

theorem clampUnit_beq_of_beq {x alpha : Float} {number : ℚ} (exact : Exactly alpha number)
    (above : 0 ≤ number) (below : number ≤ 1) (same : (x == alpha) = true) :
    (clampUnit x == alpha) = true := by
  have equal := exact.of_beq same
  have clamped : Exactly (clampUnit x) (max 0 (min 1 number)) :=
    exactly_zero.larger (exactly_one.smaller equal)
  rw [clamped.beq_iff exact, min_eq_right below, max_eq_right above]

/-- What is moved into the interval from zero to one comes to an end of it. -/
theorem beq_of_clampUnit_beq {x alpha : Float} {number : ℚ} (exact : Exactly alpha number)
    (above : 0 < number) (below : number < 1) (same : (clampUnit x == alpha) = true) :
    (x == alpha) = true := by
  rcases clampUnit_cases x with kept | high | low
  · rwa [kept] at same
  · rw [high, exactly_one.beq_iff exact] at same
    exact absurd same below.ne'
  · rw [low, exactly_zero.beq_iff exact] at same
    exact absurd same above.ne

end DesignTokens
