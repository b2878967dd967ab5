import Mathlib.Data.List.Chain
import DesignTokens.Proofs.Json.Numeral

/-!
From text to tokens: whatever spells some tokens is taken apart into them, as long as no two
numbers or words stand side by side.
-/

namespace DesignTokens

namespace Json

def Token.isPlain : Token → Bool
  | .plain _ => true
  | _ => false

def Lexer.finish (lexer : Lexer) : Option (List Token) :=
  match lexer.lexeme with
  | .blank => some lexer.tokens.reverse
  | .bare reversed =>
      (bareValue? reversed.reverse).map fun value => (.plain value :: lexer.tokens).reverse
  | _ => none

def readOn (tokens : List Token) (text : List Char) : Option (List Token) :=
  (text.foldlM Lexer.step ⟨tokens, .blank⟩).bind Lexer.finish

theorem tokens?_eq (text : List Char) : tokens? text = readOn [] text := rfl

theorem readOn_blank {blank : List Char} (each : IsBlank blank) (tokens : List Token)
    (rest : List Char) : readOn tokens (blank ++ rest) = readOn tokens rest := by
  induction blank with
  | nil => rfl
  | cons c blank ih =>
      have skipped : readOn tokens (c :: (blank ++ rest)) = readOn tokens (blank ++ rest) := by
        rcases each c List.mem_cons_self with rfl | rfl | rfl | rfl <;> rfl
      exact skipped.trans (ih fun other member => each other (List.mem_cons_of_mem _ member))

theorem step_bare {c : Char} (bare : isBareChar c = true) (tokens : List Token) :
    Lexer.start tokens c = some ⟨tokens, .bare [c]⟩ := by
  have other : ∀ {mark}, isBareChar mark = false → c ≠ mark := by
    rintro mark none rfl
    exact nomatch bare.symm.trans none
  unfold Lexer.start
  split
  case h_8 => simp [bare, @other ' ' rfl, @other '\n' rfl, @other '\r' rfl, @other '\t' rfl]
  all_goals exact nomatch bare

theorem foldlM_bare {text : List Char} (each : ∀ c ∈ text, isBareChar c = true)
    (tokens : List Token) (reversed : List Char) :
    text.foldlM Lexer.step ⟨tokens, .bare reversed⟩ =
      some ⟨tokens, .bare (text.reverse ++ reversed)⟩ := by
  induction text generalizing reversed with
  | nil => rfl
  | cons c text ih =>
      have bare := each c List.mem_cons_self
      have rest := ih (fun other member => each other (List.mem_cons_of_mem _ member))
        (c :: reversed)
      rw [List.foldlM_cons, Lexer.step]
      simp only [bare, if_true, Option.bind_eq_bind, Option.bind_some, rest]
      simp

/-- A number or word is read where no letter and no digit goes on with it. -/
theorem readOn_bare {text rest : List Char} {value : Json} (some : text ≠ [])
    (each : ∀ c ∈ text, isBareChar c = true) (read : bareValue? text = Option.some value)
    (ends : ∀ c ∈ rest.head?, isBareChar c = false) (tokens : List Token) :
    readOn tokens (text ++ rest) = readOn (.plain value :: tokens) rest := by
  obtain ⟨c, text, rfl⟩ := List.exists_cons_of_ne_nil some
  have first : (c :: text).foldlM Lexer.step ⟨tokens, .blank⟩ =
      Option.some ⟨tokens, .bare (c :: text).reverse⟩ := by
    have later := foldlM_bare (fun other member => each other (List.mem_cons_of_mem c member))
      tokens [c]
    rw [List.foldlM_cons, Lexer.step, step_bare (each c List.mem_cons_self), List.reverse_cons]
    exact later
  rw [readOn, List.foldlM_append, first]
  cases rest with
  | nil =>
      simp [readOn, Lexer.finish, read]
  | cons next rest =>
      have stop := ends next rfl
      simp only [Option.bind_eq_bind, Option.bind_some, List.foldlM_cons, Lexer.step, stop,
        Bool.false_eq_true, if_false, List.reverse_reverse, read, readOn]

theorem IsUnit.exists_digits {unit : Nat} {digits : List Char} (spelled : IsUnit unit digits) :
    ∃ a b c d first second third fourth, digits = [a, b, c, d] ∧ hexValue? a = some first ∧
      hexValue? b = some second ∧ hexValue? c = some third ∧ hexValue? d = some fourth ∧
      first < 16 ∧ second < 16 ∧ third < 16 ∧ fourth < 16 ∧
      unit = 16 * (16 * (16 * (16 * 0 + first) + second) + third) + fourth := by
  rcases spelled with ⟨four, value⟩
  obtain ⟨a, b, c, d, rfl⟩ : ∃ a b c d, digits = [a, b, c, d] := by
    match digits, four with
    | [a, b, c, d], _ => exact ⟨a, b, c, d, rfl⟩
  simp only [numberIn?, List.foldlM_cons, List.foldlM_nil, Option.bind_eq_bind, digitIn?,
    Option.bind_eq_some_iff, Option.map_eq_some_iff, Option.filter_eq_some_iff, Option.pure_def,
    Option.some.injEq, decide_eq_true_eq] at value
  obtain ⟨_, ⟨first, ⟨readFirst, one⟩, rfl⟩, _, ⟨second, ⟨readSecond, two⟩, rfl⟩, _,
    ⟨third, ⟨readThird, three⟩, rfl⟩, _, ⟨fourth, ⟨readFourth, last⟩, rfl⟩, rfl⟩ := value
  exact ⟨a, b, c, d, first, second, third, fourth, rfl, readFirst, readSecond, readThird,
    readFourth, one, two, three, last, rfl⟩

theorem foldlM_unit {unit : Nat} {digits : List Char} (spelled : IsUnit unit digits)
    (tokens : List Token) (reversed : List Char) (high : Option Nat) (text : List Char) :
    ('\\' :: 'u' :: (digits ++ text)).foldlM Lexer.step ⟨tokens, .text reversed high⟩ =
      (addUnit reversed high unit).bind fun lexeme => text.foldlM Lexer.step ⟨tokens, lexeme⟩ := by
  rcases spelled.exists_digits with ⟨a, b, c, d, first, second, third, fourth, rfl, readFirst,
    readSecond, readThird, readFourth, _, _, _, _, rfl⟩
  simp [Lexer.step, readFirst, readSecond, readThird, readFourth, Option.bind_map]

theorem addUnit_character (c : Char) (small : c.toNat < 0x10000) (reversed : List Char) :
    addUnit reversed none c.toNat = some (.text (c :: reversed) none) := by
  have valid : c.toNat < 0xD800 ∨ 0xDFFF < c.toNat := by
    rcases c.valid with below | above
    · exact Or.inl below
    · exact Or.inr above.1
  rw [addUnit, if_neg (by omega), if_neg (by omega), Char.ofNat_toNat]

theorem foldlM_characters {chars text : List Char} (spelled : Characters chars text)
    (tokens : List Token) (reversed : List Char) :
    text.foldlM Lexer.step ⟨tokens, .text reversed none⟩ =
      some ⟨tokens, .text (chars.reverse ++ reversed) none⟩ := by
  induction spelled generalizing reversed with
  | nil => rfl
  | @plain c chars text printable quote backslash _ ih =>
      have read : Lexer.step ⟨tokens, .text reversed none⟩ c =
          some ⟨tokens, .text (c :: reversed) none⟩ := by
        simp [Lexer.step, quote, backslash]
      rw [List.foldlM_cons, read]
      simpa using ih (c :: reversed)
  | @short letter c chars text listed _ ih =>
      have read : [ '\\', letter].foldlM Lexer.step ⟨tokens, .text reversed none⟩ =
          some ⟨tokens, .text (c :: reversed) none⟩ := by
        simp only [shortEscapes, List.mem_cons, Prod.mk.injEq, List.not_mem_nil, or_false] at listed
        rcases listed with ⟨rfl, rfl⟩ | ⟨rfl, rfl⟩ | ⟨rfl, rfl⟩ | ⟨rfl, rfl⟩ | ⟨rfl, rfl⟩ |
          ⟨rfl, rfl⟩ | ⟨rfl, rfl⟩ | ⟨rfl, rfl⟩ <;> rfl
      change ([ '\\', letter] ++ text).foldlM Lexer.step _ = _
      rw [List.foldlM_append, read]
      simpa using ih (c :: reversed)
  | @unit c digits chars text spelled _ ih =>
      have small : c.toNat < 0x10000 := by
        rcases spelled.exists_digits with ⟨_, _, _, _, first, second, third, fourth, _, _, _, _, _,
          _, _, _, _, value⟩
        omega
      rw [List.cons_append, List.cons_append, foldlM_unit spelled, addUnit_character c small]
      simpa using ih (c :: reversed)
  | @pair c high low first second chars text leads trails few less code _ ih =>
      have leading : addUnit reversed none (0xD800 + high) =
          some (.text reversed (some (0xD800 + high))) := by
        rw [addUnit, if_pos (by omega)]
      have trailing : addUnit reversed (some (0xD800 + high)) (0xDC00 + low) =
          some (.text (c :: reversed) none) := by
        have sum : 0x10000 + (0xD800 + high - 0xD800) * 0x400 + (0xDC00 + low - 0xDC00) =
            c.toNat := by omega
        simp only [addUnit]
        rw [if_pos (by omega), sum, Char.ofNat_toNat]
      rw [List.cons_append, List.cons_append, foldlM_unit leads, leading]
      simp only [Option.bind_some]
      rw [List.cons_append, List.cons_append, foldlM_unit trails, trailing]
      simpa using ih (c :: reversed)

theorem isBareChar_of_isNumeral {c : Char} (numeral : IsNumeral c) : isBareChar c = true := by
  rcases numeral with digit | (rfl | rfl) | rfl | rfl | rfl
  · simp [isBareChar, digit]
  all_goals rfl

theorem Magnitude.isBareChar {negative : Bool} {number : Json} {text : List Char}
    (spelled : Magnitude negative number text) : ∀ c ∈ text, isBareChar c = true :=
  fun c member => isBareChar_of_isNumeral (spelled.isNumeral c member)

theorem readOn_token {token : Token} {text rest : List Char} (spelled : token.Spells text)
    (ends : token.isPlain = true → ∀ c ∈ rest.head?, isBareChar c = false)
    (tokens : List Token) : readOn tokens (text ++ rest) = readOn (token :: tokens) rest := by
  cases spelled with
  | openArray => rfl
  | closeArray => rfl
  | openObject => rfl
  | closeObject => rfl
  | comma => rfl
  | colon => rfl
  | @text value inner characters =>
      have read := foldlM_characters characters tokens []
      have closed : Lexer.step ⟨tokens, .text (value.toList.reverse ++ []) none⟩ '"' =
          some ⟨.text value :: tokens, .blank⟩ := by
        simp [Lexer.step]
      rw [readOn, List.cons_append, List.cons_append, List.foldlM_cons, List.append_assoc]
      change (List.foldlM Lexer.step ⟨tokens, .text [] none⟩ (inner ++ (['"'] ++ rest))).bind _ = _
      rw [List.foldlM_append, read]
      simp only [Option.bind_eq_bind, Option.bind_some, List.cons_append, List.nil_append,
        List.foldlM_cons, closed]
      rfl
  | null => exact readOn_bare (by decide) (List.all_eq_true.mp rfl) rfl (ends rfl) tokens
  | true => exact readOn_bare (by decide) (List.all_eq_true.mp rfl) rfl (ends rfl) tokens
  | false => exact readOn_bare (by decide) (List.all_eq_true.mp rfl) rfl (ends rfl) tokens
  | positive number =>
      rcases exists_head number with ⟨c, after, rfl, _⟩
      exact readOn_bare (List.cons_ne_nil _ _) number.isBareChar (bareValue?_eq number) (ends rfl)
        tokens
  | negative number =>
      refine readOn_bare (List.cons_ne_nil _ _) ?_ (bareValue?_eq number) (ends rfl) tokens
      simp only [List.forall_mem_cons]
      exact ⟨rfl, number.isBareChar⟩

theorem head?_spells {token : Token} {text rest : List Char} (spelled : token.Spells text)
    (marked : token.isPlain = false) : ∀ c ∈ (text ++ rest).head?, isBareChar c = false := by
  intro c first
  cases spelled with
  | null => cases marked
  | true => cases marked
  | false => cases marked
  | positive _ => cases marked
  | negative _ => cases marked
  | _ => exact Option.some.inj first ▸ rfl

theorem head?_spellsAll {tokens : List Token} {text : List Char} (spelled : SpellsAll tokens text)
    (marked : ∀ token ∈ tokens.head?, token.isPlain = false) :
    ∀ c ∈ text.head?, isBareChar c = false := by
  have blanks : ∀ {blank : List Char}, IsBlank blank → ∀ rest : List Char,
      (∀ c ∈ rest.head?, isBareChar c = false) → ∀ c ∈ (blank ++ rest).head?,
        isBareChar c = false := by
    intro blank each rest later c first
    cases blank with
    | nil => exact later c first
    | cons other blank =>
        obtain rfl : other = c := Option.some.inj first
        rcases each other List.mem_cons_self with rfl | rfl | rfl | rfl <;> rfl
  cases spelled with
  | done each => simpa using blanks each [] (by simp)
  | next each token rest =>
      rw [List.append_assoc]
      exact blanks each _ (head?_spells token (marked _ rfl))

def Apart (tokens : List Token) : Prop :=
  tokens.IsChain fun first second => first.isPlain = true → second.isPlain = false

theorem readOn_spellsAll {tokens : List Token} {text : List Char} (spelled : SpellsAll tokens text)
    (apart : Apart tokens) (before : List Token) :
    readOn before text = some (before.reverse ++ tokens) := by
  induction spelled generalizing before with
  | @done blank each =>
      have read := readOn_blank each before []
      rw [List.append_nil] at read
      rw [read]
      simp [readOn, Lexer.finish]
  | @next blank token text tokens rest each first later ih =>
      -- A number or word ends here, as what follows begins with a blank or a mark.
      have ends : token.isPlain = true → ∀ c ∈ rest.head?, isBareChar c = false := by
        intro plain
        refine head?_spellsAll later fun next known => ?_
        cases tokens with
        | nil => cases known
        | cons other tokens =>
            obtain rfl : other = next := Option.some.inj known
            exact (List.isChain_cons_cons.mp apart).1 plain
      rw [List.append_assoc, readOn_blank each, readOn_token first ends, ih apart.of_cons]
      simp

end Json

end DesignTokens
