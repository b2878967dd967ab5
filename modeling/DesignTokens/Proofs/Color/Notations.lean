import DesignTokens.Proofs.Color.Case

/-!
The notations of a colour function.  Commas between its arguments, blanks between them, and
blanks with a slash before the opacity all stand for the same call.
-/

namespace DesignTokens.Color

def functionNames : List String :=
  ["rgb", "rgba", "hsl", "hsla"]

def IsPiece (text : String) : Prop :=
  text ≠ "" ∧ ∀ c ∈ text.toList, isBlank c = false ∧ c ≠ ',' ∧ c ≠ '/'

def callText (name : String) (body : String) : String :=
  name ++ "(" ++ body ++ ")"

def commaCall (name : String) (arguments : List String) : String :=
  callText name (", ".intercalate arguments)

def blankCall (name : String) (arguments : List String) : String :=
  callText name (" ".intercalate arguments)

def slashCall (name : String) (channels : List String) (alpha : String) : String :=
  callText name (" ".intercalate channels ++ " / " ++ alpha)

theorem toList_callText (name body : String) :
    (callText name body).toList = name.toList ++ '(' :: (body.toList ++ [')']) := by
  simp [callText]

section Call

variable {name : String} (named : asciiLowerCased name.toList ∈ functionNames)

include named

theorem exists_functionName?_eq_some :
    ∃ model, ∀ rest, functionName? (name.toList ++ '(' :: rest) = some (model, '(' :: rest) := by
  have words : ∀ word ∈ functionNames, ∃ model, ∀ rest,
      functionName? (word.toList ++ '(' :: rest) = some (model, '(' :: rest) := by
    simp only [functionNames, List.forall_mem_cons, List.not_mem_nil, false_imp_iff, implies_true,
      and_true]
    exact ⟨⟨.rgb, fun _ => rfl⟩, ⟨.rgb, fun _ => rfl⟩, ⟨.hsl, fun _ => rfl⟩, ⟨.hsl, fun _ => rfl⟩⟩
  obtain ⟨model, lower⟩ := words _ named
  refine ⟨model, fun rest => ?_⟩
  have found := functionName?_lower (name.toList ++ '(' :: rest)
  have kept : asciiLowerChar '(' = '(' := by decide
  have same : (name.toList ++ '(' :: rest).map asciiLowerChar =
      (asciiLowerCased name.toList).toList ++ '(' :: rest.map asciiLowerChar := by
    rw [List.map_append, List.map_cons, kept, asciiLowerCased, String.toList_ofList]
  rw [same, lower] at found
  obtain ⟨⟨other, after⟩, start, equal⟩ := Option.map_eq_some_iff.mp found.symm
  obtain ⟨rfl, tail⟩ := Prod.mk.inj equal
  -- What follows the name is an end of the text as long as the bracket and what is behind it.
  have long : after.length = ('(' :: rest).length := by
    have lengths := congrArg List.length tail
    simpa using lengths
  have suffix := (suffix_of_functionName? start).1
  have other : '(' :: rest <:+ name.toList ++ '(' :: rest := List.suffix_append _ _
  have inner := List.suffix_of_suffix_length_le suffix other long.le
  rw [start, inner.eq_of_length long]

theorem trim_callText (body : String) :
    trim (callText name body).toList = (callText name body).toList := by
  have visible : ∀ word ∈ functionNames, ∀ c ∈ word.toList.head?, isBlank c = false := by
    simp [functionNames, isBlank]
  rw [toList_callText]
  refine trim_eq_self (fun c start => ?_) fun c ending => ?_
  · cases letters : name.toList with
    | nil =>
        rw [letters] at named
        exact absurd named (by decide)
    | cons first others =>
        rw [letters] at named start
        obtain rfl : first = c := Option.some.inj start
        rw [← isBlank_asciiLowerChar]
        refine visible _ named _ ?_
        rw [asciiLowerCased, String.toList_ofList]
        rfl
  · rw [← List.cons_append, ← List.append_assoc, List.getLast?_concat] at ending
    obtain rfl : ')' = c := Option.some.inj ending
    decide

theorem parse_callText :
    ∃ model, ∀ body : String, '\n' ∉ body.toList →
      parse (callText name body) =
        match arguments? body.toList with
        | some (channels, alpha) => ofArguments model channels alpha
        | none => .error (.arguments (callText name body)) := by
  obtain ⟨model, start⟩ := exists_functionName?_eq_some named
  refine ⟨model, fun body lineless => parse_of_function? ?_⟩
  rw [trim_callText named, toList_callText]
  exact function?_brackets (start _) lineless

end Call

/-! ### Arguments -/

theorem IsPiece.whole {text : String} (piece : IsPiece text) :
    text.toList ≠ [] ∧ ∀ c ∈ text.toList, isSeparator c = false := by
  refine ⟨by simpa using piece.1, fun c inside => ?_⟩
  obtain ⟨visible, other, _⟩ := piece.2 c inside
  simp [isSeparator, visible, other]

theorem IsPiece.slashless {text : String} (piece : IsPiece text) : '/' ∉ text.toList :=
  fun inside => (piece.2 '/' inside).2.2 rfl

theorem IsPiece.lineless {text : String} (piece : IsPiece text) : '\n' ∉ text.toList :=
  fun inside => nomatch (piece.2 '\n' inside).1

theorem not_mem_intercalate {c : Char} {gap : String} (apart : c ∉ gap.toList)
    {parts : List String} (others : ∀ part ∈ parts, c ∉ part.toList) :
    c ∉ (gap.intercalate parts).toList := by
  rw [String.toList_intercalate]
  induction parts with
  | nil => exact List.not_mem_nil
  | cons part parts ih =>
      obtain ⟨here, later⟩ := List.forall_mem_cons.mp others
      cases parts with
      | nil => simpa using here
      | cons next parts =>
          have rest := ih later
          rw [List.map_cons] at rest
          rw [List.map_cons, List.map_cons, List.intercalate_cons_cons]
          simp only [List.mem_append, not_or]
          exact ⟨⟨here, apart⟩, rest⟩

structure IsGap (gap : String) : Prop where
  filled : gap ≠ ""
  separators : ∀ c ∈ gap.toList, isSeparator c = true
  slashless : '/' ∉ gap.toList
  lineless : '\n' ∉ gap.toList

theorem isGap_comma : IsGap ", " :=
  ⟨by decide, by simp [isSeparator, isBlank], by decide, by decide⟩

theorem isGap_blank : IsGap " " :=
  ⟨by decide, by simp [isSeparator, isBlank], by decide, by decide⟩

section Gap

variable {gap : String} (isGap : IsGap gap) {parts : List String}
  (whole : ∀ part ∈ parts, IsPiece part)

include isGap whole

theorem IsGap.lineless_intercalate : '\n' ∉ (gap.intercalate parts).toList :=
  not_mem_intercalate isGap.lineless fun part member => (whole part member).lineless

theorem IsGap.slashless_intercalate : '/' ∉ (gap.intercalate parts).toList :=
  not_mem_intercalate isGap.slashless fun part member => (whole part member).slashless

/-- Arguments come back from the text that has gaps between them. -/
theorem IsGap.pieces_intercalate :
    pieces isSeparator (gap.intercalate parts).toList = parts.map String.toList := by
  have each : ∀ part ∈ parts.map String.toList,
      part ≠ [] ∧ ∀ c ∈ part, isSeparator c = false := by
    rintro _ listed
    obtain ⟨part, member, rfl⟩ := List.mem_map.mp listed
    exact (whole part member).whole
  have filled : gap.toList ≠ [] := by simpa using isGap.filled
  rw [String.toList_intercalate]
  exact DesignTokens.pieces_intercalate filled isGap.separators each

theorem IsGap.splitArguments_intercalate :
    splitArguments (gap.intercalate parts).toList = (parts.map String.toList, none) := by
  have arguments := isGap.pieces_intercalate whole
  rw [← pieces_trim (fun c blank => by simp [isSeparator, blank])] at arguments
  rw [splitArguments, cutAt_eq_self (isGap.slashless_intercalate whole)]
  exact congrArg (·, none) arguments

theorem IsGap.splitArguments_slash (alpha : String) :
    splitArguments (gap.intercalate parts ++ " / " ++ alpha).toList =
      (parts.map String.toList, some (' ' :: alpha.toList)) := by
  have written : (gap.intercalate parts ++ " / " ++ alpha).toList =
      (gap.intercalate parts).toList ++ (' ' :: '/' :: ' ' :: alpha.toList) := by
    simp
  have cut : cutAt '/' (' ' :: '/' :: ' ' :: alpha.toList) = ([' '], some (' ' :: alpha.toList)) :=
    rfl
  have arguments := isGap.pieces_intercalate whole
  rw [← pieces_concat (by decide : isSeparator ' ' = true),
    ← pieces_trim (fun c blank => by simp [isSeparator, blank])] at arguments
  rw [splitArguments, written, cutAt_append (isGap.slashless_intercalate whole), cut]
  exact congrArg (·, some _) arguments

end Gap

theorem ofArguments_blank (model : Model) (channels : List Char × List Char × List Char)
    (alpha : List Char) :
    ofArguments model channels (some (' ' :: alpha)) = ofArguments model channels (some alpha) :=
  rfl

theorem ofArguments_alpha {model : Model} {channels : List Char × List Char × List Char}
    {color : Color} (read : ofArguments model channels none = .ok color) : color.alpha = 1.0 := by
  obtain ⟨first, second, third⟩ := channels
  rw [ofArguments_eq] at read
  obtain ⟨opacity, whole, made⟩ := bind_eq_ok_iff.mp read
  obtain rfl : 1.0 = opacity := Except.ok.inj whole
  cases model with
  | rgb =>
      obtain ⟨red, _, made⟩ := bind_eq_ok_iff.mp made
      obtain ⟨green, _, made⟩ := bind_eq_ok_iff.mp made
      obtain ⟨blue, _, made⟩ := bind_eq_ok_iff.mp made
      obtain rfl := Except.ok.inj made
      rfl
  | hsl =>
      obtain ⟨hue, _, made⟩ := bind_eq_ok_iff.mp made
      obtain ⟨saturation, _, made⟩ := bind_eq_ok_iff.mp made
      obtain ⟨lightness, _, made⟩ := bind_eq_ok_iff.mp made
      cases converted : ofHsl ⟨hue, saturation, lightness⟩ 1.0 with
      | error fault =>
          rw [converted] at made
          cases made
      | ok result =>
          rw [converted] at made
          obtain rfl : result = color := Except.ok.inj made
          obtain ⟨bytes, _, same⟩ := bind_eq_ok_iff.mp converted
          obtain rfl := Except.ok.inj same
          rfl

/-- The notations of a colour function agree: with four arguments, commas, blanks, and blanks with
a slash before the last; with three, commas and blanks, and the colour is opaque. -/
theorem parse_notations {name : String} (named : asciiLowerCased name.toList ∈ functionNames)
    {first second third : String} (one : IsPiece first) (two : IsPiece second)
    (three : IsPiece third) :
    (∀ alpha, IsPiece alpha →
      parse (blankCall name [first, second, third, alpha]) =
        parse (commaCall name [first, second, third, alpha]) ∧
      parse (slashCall name [first, second, third] alpha) =
        parse (commaCall name [first, second, third, alpha])) ∧
    parse (blankCall name [first, second, third]) =
      parse (commaCall name [first, second, third]) ∧
    ∀ color, parse (commaCall name [first, second, third]) = .ok color → color.alpha = 1.0 := by
  obtain ⟨model, read⟩ := parse_callText named
  have channels : ∀ part ∈ [first, second, third], IsPiece part := by
    simpa using ⟨one, two, three⟩
  have reads : ∀ {gap : String}, IsGap gap →
      parse (callText name (gap.intercalate [first, second, third])) =
        ofArguments model (first.toList, second.toList, third.toList) none := by
    intro gap isGap
    rw [read _ (isGap.lineless_intercalate channels), arguments?,
      isGap.splitArguments_intercalate channels]
    rfl
  refine ⟨fun alpha last => ?_, ?_, fun color made => ?_⟩
  · have all : ∀ part ∈ [first, second, third, alpha], IsPiece part := by
      simpa using ⟨one, two, three, last⟩
    have four : ∀ {gap : String}, IsGap gap →
        parse (callText name (gap.intercalate [first, second, third, alpha])) =
          ofArguments model (first.toList, second.toList, third.toList) (some alpha.toList) := by
      intro gap isGap
      rw [read _ (isGap.lineless_intercalate all), arguments?,
        isGap.splitArguments_intercalate all]
      rfl
    refine ⟨(four isGap_blank).trans (four isGap_comma).symm, ?_⟩
    have lineless : '\n' ∉ (" ".intercalate [first, second, third] ++ " / " ++ alpha).toList := by
      simp only [String.toList_append, List.mem_append, not_or]
      exact ⟨⟨isGap_blank.lineless_intercalate channels, by decide⟩, last.lineless⟩
    rw [slashCall, read _ lineless, arguments?, isGap_blank.splitArguments_slash channels]
    exact (ofArguments_blank _ _ _).trans (four isGap_comma).symm
  · exact (reads isGap_blank).trans (reads isGap_comma).symm
  · exact ofArguments_alpha ((reads isGap_comma).symm.trans made)

theorem parse_notations_hsl :
    parse "HSL(30deg 50% 1e1% / 25%)" = parse "HSL(30deg, 50%, 1e1%, 25%)" ∧
      parse "HSL(30deg 50% 1e1%)" = parse "HSL(30deg, 50%, 1e1%)" := by
  have piece : ∀ text ∈ ["30deg", "50%", "1e1%", "25%"], IsPiece text := by
    simp [IsPiece, isBlank]
  have named : asciiLowerCased "HSL".toList ∈ functionNames := by decide
  have agree := parse_notations named (piece "30deg" (by decide)) (piece "50%" (by decide))
    (piece "1e1%" (by decide))
  exact ⟨(agree.1 "25%" (piece "25%" (by decide))).2, agree.2.1⟩

end DesignTokens.Color
