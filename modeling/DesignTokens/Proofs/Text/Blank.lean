import Mathlib.Data.List.DropRight
import Mathlib.Data.List.Induction
import DesignTokens.Text.Blank

/-!
The blank characters one by one, the ends of trimmed texts, and texts without a lead or a tail.
Texts that are split at separators: parts with any gap between them come back as they were.
-/

namespace DesignTokens

def blanks : List Char :=
  ['\t', '\n', '\x0b', '\x0c', '\r', '\x1c', '\x1d', '\x1e', '\x1f', ' ', '\u0085', '\u00a0',
    '\u1680', '\u2000', '\u2001', '\u2002', '\u2003', '\u2004', '\u2005', '\u2006', '\u2007',
    '\u2008', '\u2009', '\u200a', '\u2028', '\u2029', '\u202f', '\u205f', '\u3000']

theorem mem_blanks_of_isBlank {c : Char} (blank : isBlank c = true) : c ∈ blanks := by
  have coded : c.toNat ∈ blanks.map Char.toNat := by
    simp only [isBlank, Bool.or_eq_true, Bool.and_eq_true, decide_eq_true_eq, beq_iff_eq] at blank
    simp only [blanks, List.map_cons, List.map_nil, List.mem_cons, Char.reduceToNat]
    omega
  rcases List.mem_map.mp coded with ⟨other, member, same⟩
  rwa [← Char.toNat_inj.mp same]

theorem trim_eq_rdropWhile {text : List Char} (first : ∀ c ∈ text.head?, isBlank c = false) :
    trim text = text.rdropWhile isBlank := by
  have front : text.dropWhile isBlank = text := by
    cases text with
    | nil => rfl
    | cons c rest => exact List.dropWhile_cons_of_neg (by simp [first c rfl])
  rw [trim, trimWhere, front]
  rfl

theorem trim_prefix {text : List Char} (first : ∀ c ∈ text.head?, isBlank c = false) :
    trim text <+: text := by
  rw [trim_eq_rdropWhile first]
  exact List.rdropWhile_prefix isBlank text

theorem not_isBlank_of_mem_getLast?_trim {text : List Char} {c : Char}
    (last : c ∈ (trim text).getLast?) : isBlank c = false := by
  rcases List.mem_getLast?_eq_getLast last with ⟨filled, rfl⟩
  exact (Bool.not_eq_true _).mp (List.rdropWhile_last_not isBlank (text.dropWhile isBlank) filled)

theorem trim_eq_self {text : List Char} (first : ∀ c ∈ text.head?, isBlank c = false)
    (last : ∀ c ∈ text.getLast?, isBlank c = false) : trim text = text := by
  rw [trim_eq_rdropWhile first, List.rdropWhile_eq_self_iff]
  intro filled
  simp [last _ (List.getLast?_eq_some_getLast filled)]

theorem not_isBlank_of_mem_head?_trim {text : List Char} {c : Char}
    (first : c ∈ (trim text).head?) : isBlank c = false := by
  obtain ⟨dropped, split⟩ := List.rdropWhile_prefix isBlank (text.dropWhile isBlank)
  have start : c ∈ (text.dropWhile isBlank).head? := by
    rw [← split]
    exact List.mem_head?_append_of_mem_head? first
  have visible := List.head?_dropWhile_not isBlank text
  rw [Option.mem_def.mp start] at visible
  exact visible

theorem mem_of_mem_trim {text : List Char} {c : Char} (inside : c ∈ trim text) : c ∈ text :=
  List.dropWhile_subset isBlank ((List.rdropWhile_prefix isBlank _).subset inside)

theorem mem_trimWhere {drop : Char → Bool} {c : Char} (kept : drop c = false) {text : List Char}
    (inside : c ∈ text) : c ∈ trimWhere drop text := by
  have stays : ∀ {text : List Char}, c ∈ text → c ∈ text.dropWhile drop := by
    intro text inside
    rw [← List.takeWhile_append_dropWhile (p := drop) (l := text), List.mem_append] at inside
    rcases inside with dropped | later
    · rw [List.mem_takeWhile_imp dropped] at kept
      cases kept
    · exact later
  rw [trimWhere, trimEndWhere, List.mem_reverse]
  exact stays (List.mem_reverse.mpr (stays inside))

theorem trim_trim (text : List Char) : trim (trim text) = trim text :=
  trim_eq_self (fun _ => not_isBlank_of_mem_head?_trim) fun _ => not_isBlank_of_mem_getLast?_trim

theorem trim_between {mark : Char} (visible : isBlank mark = false) (body : List Char) :
    trim (mark :: (body ++ [mark])) = mark :: (body ++ [mark]) := by
  apply trim_eq_self
  · simpa using visible
  · simpa [List.getLast?_cons] using visible

theorem trimEndWhere_concat (drop : Char → Bool) (text : List Char) (c : Char) :
    trimEndWhere drop (text ++ [c]) =
      if drop c = true then trimEndWhere drop text else text ++ [c] := by
  by_cases dropped : drop c = true <;> simp [trimEndWhere, dropped]

/-- What no blank at either end changes is not changed when all of them are left out. -/
theorem apply_trim {α : Type} {f : List Char → α}
    (front : ∀ c text, isBlank c = true → f (c :: text) = f text)
    (back : ∀ c text, isBlank c = true → f (text ++ [c]) = f text) (text : List Char) :
    f (trim text) = f text := by
  have start : f (text.dropWhile isBlank) = f text := by
    induction text with
    | nil => rfl
    | cons c rest ih =>
        rw [List.dropWhile_cons]
        split
        · rw [ih, front c rest ‹_›]
        · rfl
  have ending : ∀ text, f (trimEndWhere isBlank text) = f text := by
    intro text
    induction text using List.reverseRecOn with
    | nil => rfl
    | append_singleton text c ih =>
        rw [trimEndWhere_concat]
        split
        · rw [ih, back c text ‹_›]
        · rfl
  rw [trim, trimWhere, ending, start]

theorem trim_cons {c : Char} (blank : isBlank c = true) (text : List Char) :
    trim (c :: text) = trim text := by
  rw [trim, trimWhere, List.dropWhile_cons_of_pos blank]
  rfl

theorem trim_concat {c : Char} (blank : isBlank c = true) (text : List Char) :
    trim (text ++ [c]) = trim text := by
  induction text with
  | nil => simp [trim, trimWhere, trimEndWhere, blank]
  | cons head rest ih =>
      by_cases leading : isBlank head = true
      · rw [List.cons_append, trim_cons leading, trim_cons leading, ih]
      · simp only [trim, trimWhere, List.cons_append, List.dropWhile_cons_of_neg leading]
        rw [← List.cons_append, trimEndWhere_concat, if_pos blank]

theorem dropLead_eq_some_iff {lead text rest : List Char} :
    dropLead lead text = some rest ↔ text = lead ++ rest := by
  induction lead generalizing text with
  | nil => exact Option.some_inj
  | cons c lead ih =>
      cases text with
      | nil => simp [dropLead]
      | cons d text =>
          by_cases same : c = d
          · simp [dropLead, same, ih]
          · simp [dropLead, same, Ne.symm same]

theorem dropTail_eq_some_iff {ending text front : List Char} :
    dropTail ending text = some front ↔ text = front ++ ending := by
  rw [dropTail, Option.map_eq_some_iff]
  constructor
  · rintro ⟨rest, found, rfl⟩
    rw [dropLead_eq_some_iff] at found
    rw [← List.reverse_reverse text, found, List.reverse_append, List.reverse_reverse]
  · rintro rfl
    refine ⟨front.reverse, ?_, List.reverse_reverse front⟩
    rw [dropLead_eq_some_iff, List.reverse_append]

/-! ### Texts split at separators -/

theorem splitWhere_ne_nil (separates : Char → Bool) (text : List Char) :
    splitWhere separates text ≠ [] := by
  cases text with
  | nil => simp [splitWhere]
  | cons c rest =>
      rw [splitWhere]
      split
      · simp
      · split <;> simp

theorem splitWhere_cons_inner (separates : Char → Bool) (c : Char) (rest : List Char)
    (inner : separates c = false) :
    ∃ part parts, splitWhere separates rest = part :: parts ∧
      splitWhere separates (c :: rest) = (c :: part) :: parts := by
  cases split : splitWhere separates rest with
  | nil => exact absurd split (splitWhere_ne_nil separates rest)
  | cons part parts => exact ⟨part, parts, rfl, by simp [splitWhere, inner, split]⟩

theorem splitWhere_concat_inner (separates : Char → Bool) (c : Char)
    (inner : separates c = false) : ∀ text,
    ∃ front last, splitWhere separates text = front ++ [last] ∧
      splitWhere separates (text ++ [c]) = front ++ [last ++ [c]] := by
  intro text
  induction text with
  | nil => exact ⟨[], [], by simp [splitWhere], by simp [splitWhere, inner]⟩
  | cons head rest ih =>
      rcases ih with ⟨front, last, before, after⟩
      by_cases separator : separates head = true
      · exact ⟨[] :: front, last, by simp [splitWhere, separator, before],
          by simp [splitWhere, separator, after]⟩
      · cases front with
        | nil =>
            exact ⟨[], head :: last, by simp [splitWhere, separator, before],
              by simp [splitWhere, separator, after]⟩
        | cons part parts =>
            exact ⟨(head :: part) :: parts, last, by simp [splitWhere, separator, before],
              by simp [splitWhere, separator, after]⟩

theorem splitWhere_concat_separator (separates : Char → Bool) (c : Char)
    (separator : separates c = true) : ∀ text,
    splitWhere separates (text ++ [c]) = splitWhere separates text ++ [[]] := by
  intro text
  induction text with
  | nil => simp [splitWhere, separator]
  | cons head rest ih =>
      by_cases other : separates head = true
      · simp [splitWhere, other, ih]
      · rcases splitWhere_cons_inner separates head rest (by simpa using other) with
          ⟨part, parts, found, _⟩
        simp [splitWhere, other, ih, found]

theorem splitWhere_eq_splitOnP (separates : Char → Bool) (text : List Char) :
    splitWhere separates text = text.splitOnP separates := by
  induction text with
  | nil => rfl
  | cons c rest ih =>
      by_cases separator : separates c = true
      · simp [splitWhere, separator, ih, List.splitOnP_cons_eq_if_modifyHead]
      · rcases splitWhere_cons_inner separates c rest (by simpa using separator) with
          ⟨part, parts, before, after⟩
        rw [after, List.splitOnP_cons_eq_if_modifyHead, if_neg separator, ← ih, before]
        rfl

theorem intercalate_splitWhere (separator : Char) (text : List Char) :
    [separator].intercalate (splitWhere (· == separator) text) = text := by
  rw [splitWhere_eq_splitOnP]
  exact List.intercalate_splitOn separator

section

variable {separates : Char → Bool}

theorem pieces_cons {c : Char} (separator : separates c = true) (rest : List Char) :
    pieces separates (c :: rest) = pieces separates rest := by
  simp [pieces, splitWhere, separator]

theorem pieces_concat {c : Char} (separator : separates c = true) (text : List Char) :
    pieces separates (text ++ [c]) = pieces separates text := by
  simp [pieces, splitWhere_concat_separator separates c separator]

theorem pieces_trim (blank : ∀ c, isBlank c = true → separates c = true) (text : List Char) :
    pieces separates (trim text) = pieces separates text :=
  apply_trim (fun c rest white => pieces_cons (blank c white) rest)
    (fun c front white => pieces_concat (blank c white) front) text

section

variable {part : List Char} (some : part ≠ []) (whole : ∀ c ∈ part, separates c = false)

include some whole

theorem pieces_singleton : pieces separates part = [part] := by
  rw [pieces, splitWhere_eq_splitOnP, List.splitOnP_eq_singleton whole]
  simp [some]

theorem pieces_append_cons {c : Char} (separator : separates c = true) (rest : List Char) :
    pieces separates (part ++ c :: rest) = part :: pieces separates rest := by
  rw [pieces, splitWhere_eq_splitOnP,
    List.splitOnP_append_cons_of_forall_mem whole c separator, ← splitWhere_eq_splitOnP]
  simp [some, pieces]

end

/-- Parts with a gap between each two of them are the pieces of the text. -/
theorem pieces_intercalate {gap : List Char} (some : gap ≠ [])
    (separator : ∀ c ∈ gap, separates c = true) {parts : List (List Char)}
    (whole : ∀ part ∈ parts, part ≠ [] ∧ ∀ c ∈ part, separates c = false) :
    pieces separates (gap.intercalate parts) = parts := by
  have skip : ∀ {gap : List Char}, (∀ c ∈ gap, separates c = true) → ∀ rest,
      pieces separates (gap ++ rest) = pieces separates rest := by
    intro gap separator rest
    induction gap with
    | nil => rfl
    | cons c gap ih =>
        obtain ⟨first, others⟩ := List.forall_mem_cons.mp separator
        rw [List.cons_append, pieces_cons first, ih others]
  induction parts with
  | nil => rfl
  | cons part parts ih =>
      obtain ⟨⟨filled, here⟩, others⟩ := List.forall_mem_cons.mp whole
      cases parts with
      | nil =>
          rw [List.intercalate_singleton]
          exact pieces_singleton filled here
      | cons next parts =>
          obtain ⟨c, gap, rfl⟩ := List.exists_cons_of_ne_nil some
          obtain ⟨first, later⟩ := List.forall_mem_cons.mp separator
          rw [List.intercalate_cons_cons, List.append_assoc, List.cons_append,
            pieces_append_cons filled here first, skip later, ih others]

end

end DesignTokens
