import DesignTokens.Proofs.Color.Written
import DesignTokens.Proofs.Text.Case

/-!
The case of letters in a colour.  Names, hexadecimal digits, functions and their arguments are
read alike in either case; only the unit of a hue has to stand in lower case, as a number that
ends in anything else is none.
-/

namespace DesignTokens

/-! ### A letter that is in no number -/

theorem mem_withoutUnderscores {c : Char} (other : c ≠ '_') {afterDigit : Bool}
    {text plain : List Char} (inside : c ∈ text)
    (read : withoutUnderscores afterDigit text = some plain) : c ∈ plain := by
  fun_induction withoutUnderscores afterDigit text generalizing plain with
  | case1 => cases inside
  | case2 afterDigit next rest digits ih =>
      obtain ⟨others, found, rfl⟩ := Option.map_eq_some_iff.mp read
      rcases List.mem_cons.mp inside with rfl | later
      · exact absurd rfl other
      · rcases List.mem_cons.mp later with rfl | later
        · exact List.mem_cons_self
        · exact List.mem_cons_of_mem _ (ih later found)
  | case3 => cases read
  | case4 => cases read
  | case5 afterDigit first rest more last ih =>
      obtain ⟨others, found, rfl⟩ := Option.map_eq_some_iff.mp read
      rcases List.mem_cons.mp inside with rfl | later
      · exact List.mem_cons_self
      · exact List.mem_cons_of_mem _ (ih later found)

theorem mem_of_leadingDecimal? {c : Char} (other : isDecimalDigit c = false) (pointless : c ≠ '.')
    {text rest : List Char} {decimal : Decimal} (inside : c ∈ text)
    (read : leadingDecimal? text = some (decimal, rest)) : c ∈ rest := by
  have later : ∀ {text : List Char}, c ∈ text → c ∈ text.drop (leadingDigits text).length := by
    intro text inside
    have split := List.prefix_iff_eq_append.mp (List.takeWhile_prefix (l := text) isDecimalDigit)
    rw [← split, List.mem_append] at inside
    rcases inside with digit | later
    · rw [List.mem_takeWhile_imp digit] at other
      cases other
    · exact later
  have start := later inside
  simp only [leadingDecimal?] at read
  split at read
  · rename_i after same
    rw [same] at start
    split at read
    · cases read
    · obtain ⟨_, rfl⟩ := Prod.mk.inj (Option.some.inj read)
      exact later ((List.mem_cons.mp start).resolve_left pointless)
  · split at read
    · cases read
    · obtain ⟨_, rfl⟩ := Prod.mk.inj (Option.some.inj read)
      exact start

theorem exponent?_of_mem_g {text : List Char} (inside : 'g' ∈ text) : exponent? text = none := by
  have digitless : ∀ {digits : List Char}, 'g' ∈ digits →
      (!digits.isEmpty && digits.all isDecimalDigit) = false := by
    intro digits inside
    rw [Bool.and_eq_false_iff, List.all_eq_false]
    exact Or.inr ⟨'g', inside, by decide⟩
  match text with
  | [] => cases inside
  | mark :: rest =>
      rcases List.mem_cons.mp inside with rfl | later
      · rfl
      · by_cases signed : ∃ sign digits, rest = sign :: digits ∧ (sign = '-' ∨ sign = '+')
        · obtain ⟨sign, digits, rfl, rfl | rfl⟩ := signed
          all_goals
            have inner : 'g' ∈ digits := (List.mem_cons.mp later).resolve_left (by decide)
            rw [exponent?]
            simp only [digitless inner]
            simp
        · rw [exponent?]
          · simp only [digitless later]
            simp
          · exact fun digits same => signed ⟨_, digits, same, Or.inl rfl⟩
          · exact fun digits same => signed ⟨_, digits, same, Or.inr rfl⟩

theorem magnitude?_of_mem_g {text : List Char} (inside : 'g' ∈ text) (negative : Bool) :
    magnitude? negative text = none := by
  rw [magnitude?]
  cases read : leadingDecimal? text with
  | some found =>
      obtain ⟨decimal, rest⟩ := found
      have later := mem_of_leadingDecimal? (by decide) (by decide) inside read
      simp only [exponent?_of_mem_g later, Option.map_none]
  | none =>
      have differ : ∀ name ∈ ["inf", "infinity", "nan"], asciiLowerCased text ≠ name := by
        have letterless : ∀ name ∈ ["inf", "infinity", "nan"], 'g' ∉ name.toList := by decide
        rintro name listed rfl
        refine letterless _ listed ?_
        rw [asciiLowerCased, String.toList_ofList]
        exact List.mem_map.mpr ⟨'g', inside, by decide⟩
      simp [differ]

theorem readFloat?_of_mem_g {text : List Char} (inside : 'g' ∈ text) :
    readFloat? (String.ofList text) = none := by
  have plain : 'g' ∈ text.map plainCharacter := List.mem_map.mpr ⟨'g', inside, by decide⟩
  have kept := mem_trimWhere (by decide : isNumberPadding 'g' = false) plain
  rw [readFloat?, String.toList_ofList, Option.bind_eq_none_iff]
  intro number read
  have left := mem_withoutUnderscores (by decide) kept read
  rw [signedNumber?.eq_def]
  split
  · exact magnitude?_of_mem_g ((List.mem_cons.mp left).resolve_left (by decide)) true
  · exact magnitude?_of_mem_g ((List.mem_cons.mp left).resolve_left (by decide)) false
  · exact magnitude?_of_mem_g left false

section

variable {fault fault' α β : Type} {first : Except fault α} {next : α → Except fault β}

theorem toOption_bind :
    (first >>= next).toOption = first.toOption.bind fun value => (next value).toOption := by
  cases first <;> rfl

theorem toOption_bind_congr {other : Except fault' α} {next' : α → Except fault' β}
    (same : first.toOption = other.toOption)
    (later : ∀ value, (next value).toOption = (next' value).toOption) :
    (first >>= next).toOption = (other >>= next').toOption := by
  rw [toOption_bind, toOption_bind, same, funext later]

end

namespace Color

/-! ### The parts of a colour in lower case -/

theorem hexValue?_asciiLowerChar (c : Char) : hexValue? (asciiLowerChar c) = hexValue? c :=
  apply_asciiLowerChar (by decide) c

theorem ofHex?_lower (text : List Char) : ofHex? (text.map asciiLowerChar) = ofHex? text := by
  have digits : ∀ text : List Char,
      (text.map asciiLowerChar).mapM hexValue? = text.mapM hexValue? := by
    intro text
    induction text with
    | nil => rfl
    | cons c rest ih =>
        rw [List.map_cons, List.mapM_cons, List.mapM_cons, hexValue?_asciiLowerChar, ih]
  by_cases sharp : ∃ digits, text = '#' :: digits
  · obtain ⟨rest, rfl⟩ := sharp
    have kept : asciiLowerChar '#' = '#' := by decide
    rw [List.map_cons, kept, ofHex?, ofHex?, digits]
  · rw [ofHex?, ofHex?]
    · exact fun digits same => sharp ⟨digits, same⟩
    · exact fun digits same => sharp (exists_of_map_lower (by decide) same)

theorem isFunctionLetter_asciiLowerChar (letter c : Char) :
    isFunctionLetter letter (asciiLowerChar c) = isFunctionLetter letter c := by
  have long : ∀ c, ((asciiLowerChar c).toNat == 0x17F) = (c.toNat == 0x17F) :=
    apply_asciiLowerChar (f := fun c => c.toNat == 0x17F) (by decide)
  rw [isFunctionLetter, asciiLowerChar_asciiLowerChar, long, isFunctionLetter]

theorem functionName?_lower (text : List Char) :
    functionName? (text.map asciiLowerChar) =
      (functionName? text).map fun (model, rest) => (model, rest.map asciiLowerChar) := by
  match text with
  | [] | [_] | [_, _] => rfl
  | first :: second :: third :: rest =>
      cases rest with
      | nil =>
          simp only [List.map_cons, List.map_nil, functionName?, isFunctionLetter_asciiLowerChar]
          split
          · rfl
          · split <;> rfl
      | cons c after =>
          simp only [List.map_cons, functionName?, isFunctionLetter_asciiLowerChar,
            asciiLowerChar_asciiLowerChar]
          by_cases optional : (asciiLowerChar c == 'a') = true
          · simp only [optional, if_true]
            split
            · rfl
            · split <;> rfl
          · simp only [optional]
            split
            · rfl
            · split <;> rfl

theorem function?_lower (text : List Char) :
    function? (text.map asciiLowerChar) =
      (function? text).map fun (model, body) => (model, body.map asciiLowerChar) := by
  have line : ∀ body : List Char, (body.map asciiLowerChar).contains '\n' = body.contains '\n' := by
    intro body
    have same := asciiLowerChar_eq_iff (by decide : isAsciiLetter '\n' = false)
    rw [Bool.eq_iff_iff, List.contains_iff_mem, List.contains_iff_mem, List.mem_map]
    simp only [same, exists_eq_right]
  have tail : ∀ c, (')' == asciiLowerChar c) = (')' == c) :=
    apply_asciiLowerChar (f := fun c => ')' == c) (by decide)
  rw [function?, function?, functionName?_lower]
  cases functionName? text with
  | none => rfl
  | some found =>
      obtain ⟨model, rest⟩ := found
      by_cases called : ∃ arguments, rest = '(' :: arguments
      · obtain ⟨arguments, rfl⟩ := called
        have kept : asciiLowerChar '(' = '(' := by decide
        simp only [Option.map_some, Option.bind_some, List.map_cons, kept]
        rw [dropTail_map tail]
        cases dropTail [')'] arguments with
        | none => rfl
        | some body =>
            simp only [Option.map_some, Option.bind_some, line]
            split <;> rfl
      · have other : ¬ ∃ arguments, rest.map asciiLowerChar = '(' :: arguments := by
          rintro ⟨_, same⟩
          exact called (exists_of_map_lower (by decide) same)
        simp only [Option.map_some, Option.bind_some]
        split
        · exact absurd ⟨_, ‹_›⟩ other
        · split
          · exact absurd ⟨_, rfl⟩ called
          · rfl

theorem arguments?_lower (body : List Char) :
    arguments? (body.map asciiLowerChar) =
      (arguments? body).map fun ((first, second, third), alpha) =>
        ((first.map asciiLowerChar, second.map asciiLowerChar, third.map asciiLowerChar),
          alpha.map (List.map asciiLowerChar)) := by
  have slash : ∀ c, (asciiLowerChar c == '/') = (c == '/') :=
    apply_asciiLowerChar (f := fun c => c == '/') (by decide)
  have gap : ∀ c, (isBlank (asciiLowerChar c) || asciiLowerChar c == ',') =
      (isBlank c || c == ',') :=
    apply_asciiLowerChar (f := fun c => isBlank c || c == ',') (by decide)
  rw [arguments?, arguments?, splitArguments, splitArguments, cutAt_map slash]
  dsimp only
  rw [trim_lower, pieces_map gap]
  generalize (cutAt '/' body).2 = alpha
  generalize pieces (fun c => isBlank c || c == ',') (trim (cutAt '/' body).1) = parts
  rcases parts with _ | ⟨_, _ | ⟨_, _ | ⟨_, _ | ⟨_, _ | _⟩⟩⟩⟩
  · rfl
  · rfl
  · rfl
  · rfl
  · cases alpha <;> rfl
  · rfl

theorem toOption_number (text : List Char) :
    (number text).toOption = readFloat? (String.ofList text) := by
  rw [number]
  cases readFloat? (String.ofList text) <;> rfl

theorem number_lower (text : List Char) :
    (number (text.map asciiLowerChar)).toOption = (number text).toOption := by
  rw [toOption_number, toOption_number, readFloat?_lower]

theorem percentTail_lower (text : List Char) :
    dropTail ['%'] (text.map asciiLowerChar) =
      (dropTail ['%'] text).map (List.map asciiLowerChar) :=
  dropTail_map (apply_asciiLowerChar (f := fun c => '%' == c) (by decide)) text

theorem alphaArgument_lower (raw : List Char) :
    (alphaArgument (raw.map asciiLowerChar)).toOption = (alphaArgument raw).toOption := by
  rw [alphaArgument, alphaArgument, trim_lower, percentTail_lower]
  cases dropTail ['%'] (trim raw) with
  | none => exact toOption_bind_congr (number_lower _) fun _ => rfl
  | some percent => exact toOption_bind_congr (number_lower _) fun _ => rfl

theorem channelArgument_lower (raw : List Char) :
    (channelArgument (raw.map asciiLowerChar)).toOption = (channelArgument raw).toOption := by
  rw [channelArgument, channelArgument, trim_lower, percentTail_lower]
  cases dropTail ['%'] (trim raw) with
  | none => exact toOption_bind_congr (number_lower _) fun _ => rfl
  | some percent => exact toOption_bind_congr (number_lower _) fun _ => rfl

theorem percentArgument_lower (text : List Char) :
    (percentArgument (text.map asciiLowerChar)).toOption = (percentArgument text).toOption := by
  have sign : ∀ c, (asciiLowerChar c == '%') = (c == '%') :=
    apply_asciiLowerChar (f := fun c => c == '%') (by decide)
  rw [percentArgument, percentArgument, trimEndWhere_map sign]
  exact toOption_bind_congr (number_lower _) fun _ => rfl

/-! ### The unit of a hue -/

def EndsInCapitalUnit (hue : List Char) : Prop :=
  ∃ front unit, hue = front ++ unit ∧ asciiLowerCased unit = "deg" ∧ unit ≠ "deg".toList

theorem length_unit {unit : List Char} (same : asciiLowerCased unit = "deg") :
    unit.length = "deg".toList.length := by
  rw [← same, asciiLowerCased, String.toList_ofList, List.length_map]

theorem dropTail_unit_lower {hue : List Char} (plain : ¬ EndsInCapitalUnit hue) :
    dropTail "deg".toList (hue.map asciiLowerChar) =
      (dropTail "deg".toList hue).map (List.map asciiLowerChar) := by
  ext front
  rw [dropTail_eq_some_iff, Option.map_eq_some_iff]
  simp only [dropTail_eq_some_iff]
  constructor
  · intro same
    obtain ⟨start, unit, rfl, rfl, ending⟩ := List.map_eq_append_iff.mp same
    by_cases lower : unit = "deg".toList
    · exact ⟨start, by rw [lower], rfl⟩
    · refine absurd ⟨start, unit, rfl, ?_, lower⟩ plain
      rw [asciiLowerCased, ending]
      rfl
  · rintro ⟨start, rfl, rfl⟩
    rw [List.map_append]
    rfl

theorem hueArgument_lower {hue : List Char} (plain : ¬ EndsInCapitalUnit hue) :
    (hueArgument (hue.map asciiLowerChar)).toOption = (hueArgument hue).toOption := by
  have same : (dropTail "deg".toList (hue.map asciiLowerChar)).getD (hue.map asciiLowerChar) =
      ((dropTail "deg".toList hue).getD hue).map asciiLowerChar := by
    rw [dropTail_unit_lower plain, Option.getD_map]
  rw [hueArgument, hueArgument, same]
  exact toOption_bind_congr (number_lower _) fun _ => rfl

/-- The unit of a hue is taken away in lower case only, and no number ends in it. -/
theorem hueArgument_of_endsInCapitalUnit {hue : List Char} (capital : EndsInCapitalUnit hue) :
    (hueArgument hue).toOption = none := by
  obtain ⟨front, unit, rfl, same, other⟩ := capital
  have kept : dropTail "deg".toList (front ++ unit) = none := by
    rw [Option.eq_none_iff_forall_ne_some]
    intro start found
    exact other (List.append_inj_right' (dropTail_eq_some_iff.mp found) (length_unit same))
  have inside : 'g' ∈ (front ++ unit).map asciiLowerChar := by
    have letters : unit.map asciiLowerChar = "deg".toList := by
      rw [← same, asciiLowerCased, String.toList_ofList]
    rw [List.map_append, letters]
    exact List.mem_append_right _ (by decide)
  rw [hueArgument, kept, Option.getD_none, toOption_bind, toOption_number, ← readFloat?_lower,
    readFloat?_of_mem_g inside, Option.bind_none]

def hueText? (text : String) : Option (List Char) :=
  (function? (trim text.toList)).bind fun (model, body) =>
    match model with
    | .rgb => none
    | .hsl => (arguments? body).map fun ((hue, _, _), _) => hue

def WritesCapitalUnit (text : String) : Prop :=
  ∃ hue ∈ hueText? text, EndsInCapitalUnit hue

def opacityArgument (alpha : Option (List Char)) : Except ColorFault Float :=
  match alpha with
  | some text => alphaArgument text
  | none => .ok 1.0

def ofChannelArguments (model : Model) (first second third : List Char) (opacity : Float) :
    Except ColorFault Color :=
  match model with
  | .rgb => do
      return ⟨← channelArgument first, ← channelArgument second, ← channelArgument third, opacity⟩
  | .hsl => do
      let hue ← hueArgument first
      let saturation ← percentArgument second
      let lightness ← percentArgument third
      (ofHsl ⟨hue, saturation, lightness⟩ opacity).mapError ColorFault.arithmetic

theorem ofArguments_eq (model : Model) (first second third : List Char)
    (alpha : Option (List Char)) :
    ofArguments model (first, second, third) alpha =
      opacityArgument alpha >>= ofChannelArguments model first second third := by
  cases alpha <;> rfl

theorem opacityArgument_lower (alpha : Option (List Char)) :
    (opacityArgument (alpha.map (List.map asciiLowerChar))).toOption =
      (opacityArgument alpha).toOption := by
  cases alpha with
  | none => rfl
  | some text => exact alphaArgument_lower text

theorem ofArguments_lower {model : Model} {first : List Char} (second third : List Char)
    (alpha : Option (List Char))
    (plain : match model with | .rgb => True | .hsl => ¬ EndsInCapitalUnit first) :
    (ofArguments model (first.map asciiLowerChar, second.map asciiLowerChar,
        third.map asciiLowerChar) (alpha.map (List.map asciiLowerChar))).toOption =
      (ofArguments model (first, second, third) alpha).toOption := by
  rw [ofArguments_eq, ofArguments_eq]
  refine toOption_bind_congr (opacityArgument_lower alpha) fun opacity => ?_
  cases model with
  | rgb =>
      refine toOption_bind_congr (channelArgument_lower first) fun _ => ?_
      refine toOption_bind_congr (channelArgument_lower second) fun _ => ?_
      exact toOption_bind_congr (channelArgument_lower third) fun _ => rfl
  | hsl =>
      refine toOption_bind_congr (hueArgument_lower plain) fun _ => ?_
      refine toOption_bind_congr (percentArgument_lower second) fun _ => ?_
      exact toOption_bind_congr (percentArgument_lower third) fun _ => rfl

/-- Reading a colour does not look at the case of letters, apart from the unit of a hue. -/
theorem parse_lower {text : String} (plain : ¬ WritesCapitalUnit text) :
    (parse (asciiLowerCased text.toList)).toOption = (parse text).toOption := by
  rw [parse, parse, asciiLowerCased, String.toList_ofList, trim_lower, lowerCase_lower,
    ofHex?_lower, function?_lower]
  dsimp only
  split
  · rfl
  · split
    · rfl
    · cases called : function? (trim text.toList) with
      | none => rfl
      | some found =>
          obtain ⟨model, body⟩ := found
          simp only [Option.map_some, arguments?_lower]
          cases listed : arguments? body with
          | none => rfl
          | some found =>
              obtain ⟨⟨first, second, third⟩, alpha⟩ := found
              refine ofArguments_lower second third alpha ?_
              cases model with
              | rgb => trivial
              | hsl =>
                  refine fun capital => plain ⟨first, ?_, capital⟩
                  simp only [hueText?, called, Option.bind_some, listed, Option.map_some,
                    Option.mem_def]

theorem parse_of_writesCapitalUnit {text : String} (capital : WritesCapitalUnit text) :
    (parse text).toOption = none := by
  obtain ⟨hue, named, ending⟩ := capital
  obtain ⟨⟨model, body⟩, called, inner⟩ := Option.bind_eq_some_iff.mp named
  cases model with
  | rgb => cases inner
  | hsl =>
      obtain ⟨⟨⟨first, second, third⟩, alpha⟩, listed, rfl⟩ := Option.map_eq_some_iff.mp inner
      have unread : ∀ opacity,
          (ofChannelArguments .hsl first second third opacity).toOption = none := by
        intro opacity
        rw [ofChannelArguments, toOption_bind, hueArgument_of_endsInCapitalUnit ending,
          Option.bind_none]
      rw [parse_of_function? called, listed]
      dsimp only
      rw [ofArguments_eq, toOption_bind, Option.bind_eq_none_iff]
      exact fun opacity _ => unread opacity

/-- Texts that differ in the case of letters only are the same colour, or none of them is one,
unless one of them is a colour and another has a unit that is not in lower case. -/
theorem toOption_parse_eq_iff {text other : String}
    (alike : asciiLowerCased text.toList = asciiLowerCased other.toList) :
    (parse text).toOption = (parse other).toOption ↔
      (WritesCapitalUnit text → (parse other).toOption = none) ∧
        (WritesCapitalUnit other → (parse text).toOption = none) := by
  constructor
  · intro same
    refine ⟨fun capital => ?_, fun capital => ?_⟩
    · rw [← same, parse_of_writesCapitalUnit capital]
    · rw [same, parse_of_writesCapitalUnit capital]
  · rintro ⟨unread, otherUnread⟩
    by_cases capital : WritesCapitalUnit text
    · rw [parse_of_writesCapitalUnit capital, unread capital]
    · by_cases otherCapital : WritesCapitalUnit other
      · rw [parse_of_writesCapitalUnit otherCapital, otherUnread otherCapital]
      · rw [← parse_lower capital, alike, parse_lower otherCapital]

theorem toOption_parse_capitals :
    asciiLowerCased "HSLA(90deg, 5E1%, 50%)".toList =
      asciiLowerCased "hsla(90deg, 5e1%, 50%)".toList ∧
    (parse "HSLA(90deg, 5E1%, 50%)").toOption = (parse "hsla(90deg, 5e1%, 50%)").toOption := by
  have alike : asciiLowerCased "HSLA(90deg, 5E1%, 50%)".toList =
      asciiLowerCased "hsla(90deg, 5e1%, 50%)".toList := by decide
  have plain : ∀ text, hueText? text = some "90deg".toList → ¬ WritesCapitalUnit text := by
    rintro text named ⟨hue, same, ending⟩
    obtain rfl : "90deg".toList = hue := Option.some.inj (named.symm.trans same)
    obtain ⟨front, unit, split, lower, other⟩ := ending
    have whole : "90".toList ++ "deg".toList = front ++ unit := split
    exact other (List.append_inj_right' whole (length_unit lower).symm).symm
  refine ⟨alike, (toOption_parse_eq_iff alike).mpr ⟨fun capital => ?_, fun capital => ?_⟩⟩
  · exact absurd capital (plain _ rfl)
  · exact absurd capital (plain _ rfl)

/-- A unit in capitals makes a colour no colour. -/
theorem toOption_parse_capitalUnit :
    ∃ text other, asciiLowerCased text.toList = asciiLowerCased other.toList ∧
      (parse text).toOption = some ⟨255, 0, 0, 1.0⟩ ∧ (parse other).toOption = none :=
  ⟨"hsl(0deg, 100%, 50%)", "hsl(0DEG, 100%, 50%)", by decide, by decide +kernel,
    by decide +kernel⟩

end Color

end DesignTokens
