import DesignTokens.Proofs.Color.Written
import DesignTokens.Value.Literal
import DesignTokens.Value.Style

/-!
Literals there and back: which numbers, dimensions and colours are read back from the text that
a style sheet gets for them.
-/

namespace DesignTokens

/-- A text with a character that is no letter is none of the words for other literals. -/
theorem lowerCase_ne_word {c : Char} (early : c.toNat < 65) {text : List Char}
    (inside : c ∈ text) :
    ∀ word ∈ ["true", "false", "null"], (String.ofList (lowerCase text) == word) = false := by
  have words : ∀ word ∈ ["true", "false", "null"],
      word.toList.all (65 ≤ ·.toNat) = true := by decide
  intro word listed
  rw [beq_eq_false_iff_ne]
  rintro rfl
  have late := List.all_eq_true.mp (words _ listed) c
  rw [String.toList_ofList, decide_eq_true_iff] at late
  have letter := late (mem_lowerCase_early early inside)
  omega

/-- A text with a character that is no letter is read as a number, a dimension or a colour. -/
theorem ofLiteral_of_mem {text : List Char} (trimmed : trim text = text) {c : Char}
    (early : c.toNat < 65) (inside : c ∈ text) :
    Value.ofLiteral (String.ofList text) =
      match plainNumber? text with
      | some magnitude => .number magnitude
      | none =>
          match Value.dimensionOfText? text with
          | some value => value
          | none =>
              match Color.parse (String.ofList text) with
              | .ok result => .color result
              | .error _ => .string (String.ofList text) := by
  have unlike : ∀ word ∈ ["true", "false", "null"],
      ¬ (String.ofList (lowerCase text) == word) = true := by
    intro word listed
    rw [lowerCase_ne_word early inside word listed]
    exact Bool.false_ne_true
  rw [Value.ofLiteral, String.toList_ofList, trimmed]
  refine (if_neg (unlike "true" (by simp))).trans ?_
  refine (if_neg (unlike "false" (by simp))).trans ?_
  refine (if_neg (unlike "null" (by simp))).trans ?_
  cases plainNumber? text with
  | some magnitude => rfl
  | none =>
      cases Value.dimensionOfText? text with
      | some value => rfl
      | none => cases Color.parse (String.ofList text) <;> rfl

/-- A number is read with what follows it: nothing, a unit, or what makes it a mere text. -/
theorem Numeral.ofLiteral {decimal : Decimal} {body rest : List Char}
    (numeral : Numeral decimal body) (negative : Bool)
    (ends : ∀ c ∈ rest.head?, isDecimalDigit c = false) (pointless : rest.head? ≠ some '.')
    (visible : ∀ c ∈ rest, isBlank c = false) :
    Value.ofLiteral (String.ofList (signedText negative body ++ rest)) =
      if rest = [] then .number (decimal.toFloat negative)
      else ((DimensionUnit.ofName? (String.ofList rest)).map
        (Value.dimension (decimal.toFloat negative))).getD
          (.string (String.ofList (signedText negative body ++ rest))) := by
  have read := numeral.read_signed negative ends pointless
  have dark : ∀ c ∈ signedText negative body ++ rest, isBlank c = false := by
    rw [List.forall_mem_append]
    exact ⟨fun c member => not_isBlank_of_isNumeral
      (isNumeral_signedText numeral.isNumeral negative c member), visible⟩
  have trimmed : trim (signedText negative body ++ rest) = signedText negative body ++ rest :=
    trim_eq_self (fun c first => dark c (List.mem_of_mem_head? first))
      fun c last => dark c (List.mem_of_mem_getLast? last)
  obtain ⟨c, after, start, early, other⟩ : ∃ c after,
      signedText negative body ++ rest = c :: after ∧ c.toNat < 65 ∧ c ≠ '#' := by
    obtain ⟨c, after, rfl, digit⟩ := numeral.exists_digit
    have bounds := (isAsciiDigit_iff c).mp digit
    cases negative with
    | true => exact ⟨'-', c :: after ++ rest, rfl, by decide, by decide⟩
    | false =>
        refine ⟨c, after ++ rest, rfl, by omega, ?_⟩
        rintro rfl
        cases digit
  have inside : c ∈ signedText negative body ++ rest := start ▸ List.mem_cons_self
  rw [ofLiteral_of_mem trimmed early inside, plainNumber?, Value.dimensionOfText?, read]
  cases rest with
  | nil => rfl
  | cons next tail =>
      rw [if_neg (List.cons_ne_nil _ _)]
      rw [start] at trimmed ⊢
      cases unit : DimensionUnit.ofName? (String.ofList (next :: tail)) with
      | some unit =>
          simp only [Option.bind_some, unit, Option.map_some, Option.getD_some]
      | none =>
          simp only [Option.bind_some, unit, Option.map_none, Option.getD_none,
            Color.parse_early early other trimmed]

theorem ofName?_exponentText (power : Int) (rest : List Char) :
    DimensionUnit.ofName? (String.ofList (exponentText power ++ rest)) = none := by
  rw [DimensionUnit.ofName?, List.find?_eq_none]
  intro unit _ same
  have text : unit.name.toList = exponentText power ++ rest := by
    rw [eq_of_beq same, String.toList_ofList]
  have sign : (unit.name.toList.drop 1).head? = some '-' ∨
      (unit.name.toList.drop 1).head? = some '+' := by
    rw [text, exponentText]
    split
    · exact Or.inl rfl
    · exact Or.inr rfl
  cases unit <;> simp [DimensionUnit.name] at sign

structure Suffix (suffix : List Char) (make : Float → Value) : Prop where
  ends : ∀ c ∈ suffix.head?, isDecimalDigit c = false
  pointless : suffix.head? ≠ some '.'
  visible : ∀ c ∈ suffix, isBlank c = false
  reads : ∀ x other, (if suffix = [] then Value.number x
    else ((DimensionUnit.ofName? (String.ofList suffix)).map (Value.dimension x)).getD other) =
      make x

theorem suffix_nil : Suffix [] Value.number :=
  ⟨by simp, by simp, by simp, fun _ _ => rfl⟩

theorem suffix_unit (unit : DimensionUnit) :
    Suffix unit.name.toList (Value.dimension · unit) := by
  have named : DimensionUnit.ofName? unit.name = some unit := by cases unit <;> rfl
  refine ⟨?_, ?_, ?_, fun x other => ?_⟩
  · cases unit <;> simp [DimensionUnit.name] <;> rfl
  · cases unit <;> simp [DimensionUnit.name]
  · cases unit <;> simp [DimensionUnit.name, isBlank]
  · rw [if_neg (by cases unit <;> simp [DimensionUnit.name]), String.ofList_toList, named]
    rfl

/-- A finite number is read back with what stands behind it if it is legible, and otherwise it is
another number or a mere text. -/
theorem Suffix.ofLiteral {suffix : List Char} {make : Float → Value} (fits : Suffix suffix make)
    {x : Float} (finite : x.isFinite = true) :
    (∃ y, Value.ofLiteral (styleNumber x ++ String.ofList suffix) = make y ∧
      ((y == x) = true ↔ Legible x)) ∨
    (∃ text, Value.ofLiteral (styleNumber x ++ String.ofList suffix) = .string text) ∧
      ¬ Legible x := by
  rcases styleNumber_cases finite with ⟨decimal, body, negative, numeral, text, legible⟩ |
    ⟨decimal, body, power, negative, numeral, text, illegible⟩
  · refine Or.inl ⟨decimal.toFloat negative, ?_, legible⟩
    rw [text, ← String.ofList_append, numeral.ofLiteral negative fits.ends fits.pointless
      fits.visible]
    exact fits.reads _ _
  · refine Or.inr ⟨?_, illegible⟩
    have visible : ∀ c ∈ exponentText power ++ suffix, isBlank c = false := by
      rw [List.forall_mem_append]
      exact ⟨fun c member => not_isBlank_of_isNumeral (isNumeral_exponentText power c member),
        fits.visible⟩
    have ends : ∀ c ∈ (exponentText power ++ suffix).head?, isDecimalDigit c = false := by
      intro c first
      obtain rfl : 'e' = c := Option.some.inj first
      rfl
    have pointless : (exponentText power ++ suffix).head? ≠ some '.' := by
      intro first
      have mark : 'e' = '.' := Option.some.inj first
      exact absurd mark (by decide)
    rw [text, ← String.ofList_append, List.append_assoc,
      numeral.ofLiteral negative ends pointless visible, ofName?_exponentText,
      if_neg (by simp [exponentText])]
    exact ⟨_, rfl⟩

/-- A text that starts neither like a number nor like a word is read as a colour if it is one. -/
theorem ofLiteral_color {text : List Char} {color : Color} (trimmed : trim text = text)
    (numberless : leadingNumber? text = none) {c : Char} (early : c.toNat < 65)
    (inside : c ∈ text) (read : Color.parse (String.ofList text) = .ok color) :
    Value.ofLiteral (String.ofList text) = .color color := by
  rw [ofLiteral_of_mem trimmed early inside, plainNumber?, Value.dimensionOfText?, numberless,
    read]
  rfl

namespace Color

theorem Proper.ofLiteral_hex {color : Color} (proper : color.Proper) :
    Value.ofLiteral color.hex = .color { color with alpha := 1.0 } := by
  obtain ⟨red, green, blue, _, _, _, _, text⟩ := proper.hex_eq
  have read := proper.parse_hex
  have shown : color.hex =
      String.ofList ('#' :: (byteDigits red ++ byteDigits green ++ byteDigits blue)) := by
    rw [← text, String.ofList_toList]
  rw [shown] at read ⊢
  exact ofLiteral_color (trim_bytes red green blue) (leadingNumber?_eq_none (by decide) (by decide))
    (by decide : '#'.toNat < 65) List.mem_cons_self read

theorem ofLiteral_rgbaText {red green blue : Nat} (first : red ≤ 255) (second : green ≤ 255)
    (third : blue ≤ 255) {alpha : List Char} (argument : IsArgument alpha) {x : Float}
    (read : readFloat? (String.ofList alpha) = some x) :
    Value.ofLiteral (String.ofList (rgbaText red green blue alpha)) =
      .color ⟨red, green, blue, clampUnit x⟩ := by
  have digits : ∀ channel, IsArgument (decimalDigits channel) := by
    intro channel
    have each := Json.isDigits_decimalDigits channel
    exact ⟨each.1, each.isNumeral⟩
  have parsed := parse_rgba (digits red) (digits green) (digits blue) argument
  rw [ofArguments_rgba first second third argument.2 read] at parsed
  exact ofLiteral_color (trim_call _) (leadingNumber?_eq_none (by decide) (by decide))
    (by decide : '('.toNat < 65) (by simp [rgbaText]) parsed

end Color

namespace Value

def IsFiniteLiteral : Value → Prop
  | .number x => x.isFinite = true
  | .dimension x _ => x.isFinite = true
  | .color shade => shade.Proper ∧ 0 ≤ shade.alpha ∧ shade.alpha ≤ 1
  | _ => False

def Matches : Value → Value → Prop
  | .number x, .number y => (x == y) = true
  | .dimension x unit, .dimension y other => (x == y) = true ∧ unit = other
  | .color first, .color second =>
      first.red = second.red ∧ first.green = second.green ∧ first.blue = second.blue ∧
        (first.alpha == second.alpha) = true
  | _, _ => False

def IsKept : Value → Prop
  | .number x => Legible x
  | .dimension x _ => Legible x
  | .color shade => 1 ≤ shade.alpha ∨ ∃ decimal : Decimal, decimal.Names shade.alpha
  | _ => False

end Value

theorem Color.round_trip {shade : Color} (proper : shade.Proper) (above : 0 ≤ shade.alpha)
    (below : shade.alpha ≤ 1) :
    (Value.ofLiteral shade.css).Matches (.color shade) ↔ Value.IsKept (.color shade) := by
  have unit : Exactly 1.0 1 := exactly_one
  obtain ⟨number, exact, low, high⟩ := between_of_le exactly_literal_zero unit above below
  have opaque_iff : 1.0 ≤ shade.alpha ↔ 1 ≤ number := unit.le_iff exact
  by_cases solid : 1.0 ≤ shade.alpha
  · have full : (1.0 == shade.alpha) = true :=
      (unit.beq_iff exact).mpr (le_antisymm (opaque_iff.mp solid) high)
    rw [Color.css, if_pos solid, proper.ofLiteral_hex]
    exact iff_of_true ⟨rfl, rfl, rfl, full⟩ (Or.inl solid)
  · have inner : number < 1 := not_le.mp fun least => solid (opaque_iff.mpr least)
    have finite : shade.alpha.isFinite = true := by
      obtain ⟨b, parts, _⟩ := exact
      exact isFinite_iff.mpr ⟨b, parts⟩
    obtain ⟨text, x, written, some, each, read, same⟩ := exists_written finite
    obtain ⟨red, green, blue, first, second, third, equal, _⟩ := proper.hex_eq
    have shown := @Color.css_veiled red green blue _ solid _ written
    rw [← equal] at shown
    have literal := Color.ofLiteral_rgbaText (Nat.lt_succ_iff.mp first) (Nat.lt_succ_iff.mp second)
      (Nat.lt_succ_iff.mp third) ⟨some, each⟩ read
    have clamped : (clampUnit x == shade.alpha) = true ↔
        ∃ decimal : Decimal, decimal.Names shade.alpha := by
      rw [← same]
      rcases low.lt_or_eq with positive | zero
      · exact ⟨beq_of_clampUnit_beq exact positive inner, clampUnit_beq_of_beq exact low high⟩
      · have named := exists_names_zero (zero ▸ exact)
        exact iff_of_true (clampUnit_beq_of_beq exact low high (same.mpr named)) (same.mpr named)
    rw [shown, literal, Value.IsKept, or_iff_right (show ¬ 1 ≤ shade.alpha from solid), ← clamped]
    have channels : (red : Int) = shade.red ∧ (green : Int) = shade.green ∧
        (blue : Int) = shade.blue :=
      ⟨(congrArg Color.red equal).symm, (congrArg Color.green equal).symm,
        (congrArg Color.blue equal).symm⟩
    exact ⟨fun alike => alike.2.2.2, fun alike => ⟨channels.1, channels.2.1, channels.2.2, alike⟩⟩

/-- What a style sheet gets for a number, a dimension or a colour is read back as the value just
if the style sheet keeps it: whole numbers and other numbers of six digits that need no exponent,
opaque colours, and other opacities of six digits. -/
theorem Value.literal_round_trip (lead : String) {value : Value} (finite : value.IsFiniteLiteral) :
    ∃ text, value.css lead = .ok text ∧ ((Value.ofLiteral text).Matches value ↔ value.IsKept) := by
  have magnitude : ∀ {x : Float} {suffix : List Char} {make : Float → Value},
      Suffix suffix make → x.isFinite = true →
      (∀ y, (make y).Matches (make x) ↔ (y == x) = true) →
      (∀ text, ¬ (Value.string text).Matches (make x)) →
      ((Value.ofLiteral (styleNumber x ++ String.ofList suffix)).Matches (make x) ↔ Legible x) := by
    intro x suffix make fits finite same other
    rcases fits.ofLiteral finite with ⟨y, read, legible⟩ | ⟨⟨text, read⟩, illegible⟩
    · rw [read, same, legible]
    · rw [read]
      exact iff_of_false (other text) illegible
  cases value with
  | number x =>
      have kept := magnitude suffix_nil finite (fun y => Iff.rfl) fun _ => id
      rw [String.ofList_nil, String.append_empty] at kept
      exact ⟨_, rfl, kept⟩
  | dimension x unit =>
      have kept := magnitude (suffix_unit unit) finite (fun y => and_iff_left rfl) fun _ => id
      rw [String.ofList_toList] at kept
      exact ⟨_, rfl, kept⟩
  | color shade => exact ⟨_, rfl, Color.round_trip finite.1 finite.2.1 finite.2.2⟩
  | _ => exact finite.elim

theorem Value.literal_round_trip_tenth :
    (Value.dimension 0.1 .px).IsFiniteLiteral ∧
      ∃ text, (Value.dimension 0.1 .px).css "ant" = .ok text ∧
        (Value.ofLiteral text).Matches (.dimension 0.1 .px) := by
  have finite : (Value.dimension 0.1 .px).IsFiniteLiteral :=
    show (0.1 : Float).isFinite = true by decide +kernel
  obtain ⟨text, written, kept⟩ := Value.literal_round_trip "ant" finite
  have tenth : Decimal.Names ⟨1, -1⟩ 0.1 := ⟨by norm_num, by decide +kernel⟩
  have legible : Legible 0.1 := by
    refine Or.inr ⟨_, tenth, ?_, ?_⟩
    · norm_num [Decimal.value]
    · norm_num [Decimal.value]
  exact ⟨finite, text, written, kept.mpr legible⟩

/-- A style sheet gets six digits of a fraction, and an exponent that no number is read with. -/
theorem Value.literal_loses_digits :
    ((Value.number 1.2345678).IsFiniteLiteral ∧
      (Value.number 1.2345678).css "ant" = .ok "1.23457" ∧
      ¬ (Value.ofLiteral "1.23457").Matches (.number 1.2345678)) ∧
    (Value.dimension 0.00001 .px).IsFiniteLiteral ∧
      (Value.dimension 0.00001 .px).css "ant" = .ok "1e-05px" ∧
      ¬ (Value.ofLiteral "1e-05px").Matches (.dimension 0.00001 .px) := by
  have digits : styleNumber 1.2345678 = "1.23457" := by decide +kernel
  have exponent : styleNumber 0.00001 = "1e-05" := by decide +kernel
  obtain ⟨x, read, differ⟩ : ∃ x, Value.ofLiteral "1.23457" = .number x ∧
      (x == 1.2345678) = false := ⟨_, rfl, by decide +kernel⟩
  have mere : Value.ofLiteral "1e-05px" = .string "1e-05px" := rfl
  refine ⟨⟨?_, congrArg Except.ok digits, ?_⟩, ?_, ?_, ?_⟩
  · exact show (1.2345678 : Float).isFinite = true by decide +kernel
  · rw [read]
    exact fun same => Bool.noConfusion (differ.symm.trans same)
  · exact show (0.00001 : Float).isFinite = true by decide +kernel
  · rw [Value.css, dimensionText, exponent]
    rfl
  · rw [mere]
    exact id

end DesignTokens
