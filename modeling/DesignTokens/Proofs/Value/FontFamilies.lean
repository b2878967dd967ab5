import Mathlib.Data.List.Forall2
import DesignTokens.Proofs.Text.Blank
import DesignTokens.Value.Style

/-!
Lists of font families: names between commas, with quotation marks or without them.  A list is
written with the same names in the same order, unless a comma inside quotation marks divides
a name.
-/

namespace DesignTokens

/-! ### Texts between commas -/

def commaParts (text : List Char) : List (List Char) :=
  splitWhere (· == ',') text

def listedNames (text : List Char) : List (List Char) :=
  ((commaParts text).map trim).filter (!·.isEmpty)

theorem commaParts_eq_singleton {text : List Char} (whole : ',' ∉ text) :
    commaParts text = [text] := by
  rw [commaParts, splitWhere_eq_splitOnP]
  apply List.splitOnP_eq_singleton
  intro c member
  rw [beq_eq_false_iff_ne]
  rintro rfl
  exact whole member

theorem comma_not_mem_of_mem_commaParts {text part : List Char} (member : part ∈ commaParts text) :
    ',' ∉ part := by
  induction text generalizing part with
  | nil =>
      obtain rfl := List.mem_singleton.mp member
      simp
  | cons c rest ih =>
      by_cases comma : c = ','
      · subst c
        rcases List.mem_cons.mp member with rfl | later
        · simp
        · exact ih later
      · obtain ⟨first, others, before, after⟩ :=
          splitWhere_cons_inner (· == ',') c rest (by simpa using comma)
        rw [commaParts, after] at member
        rw [commaParts, before] at ih
        rcases List.mem_cons.mp member with rfl | later
        · simpa [Ne.symm comma] using @ih first List.mem_cons_self
        · exact ih (List.mem_cons_of_mem first later)

theorem commaParts_append (text rest : List Char) :
    commaParts (text ++ ',' :: rest) = commaParts text ++ commaParts rest := by
  simp only [commaParts, splitWhere_eq_splitOnP]
  exact List.splitOnP_append_cons text rest (by decide)

theorem commaParts_intercalate {texts : List (List Char)} (some : texts ≠ []) :
    commaParts ([','].intercalate texts) = texts.flatMap commaParts := by
  induction texts with
  | nil => exact absurd rfl some
  | cons text texts ih =>
      cases texts with
      | nil => simp
      | cons next texts =>
          rw [List.intercalate_cons_cons, List.append_assoc, List.singleton_append,
            commaParts_append, ih (by simp)]
          rfl

/-- A list with a space behind each comma is, with a space in front of it, a list without gaps. -/
theorem space_intercalate {texts : List (List Char)} (some : texts ≠ []) :
    ' ' :: [',', ' '].intercalate texts = [','].intercalate (texts.map (' ' :: ·)) := by
  induction texts with
  | nil => exact absurd rfl some
  | cons text texts ih =>
      cases texts with
      | nil => simp
      | cons next texts =>
          have rest := ih (by simp)
          simp only [List.map_cons, List.intercalate_cons_cons] at rest ⊢
          rw [← rest]
          simp

theorem commaParts_space_intercalate {texts : List (List Char)} (some : texts ≠ []) :
    commaParts (' ' :: [',', ' '].intercalate texts) =
      texts.flatMap fun text => commaParts (' ' :: text) := by
  rw [space_intercalate some, commaParts_intercalate (by simpa using some), List.flatMap_map]

theorem commaParts_inj {text other : List Char} (same : commaParts text = commaParts other) :
    text = other := by
  rw [← intercalate_splitWhere ',' text, ← intercalate_splitWhere ',' other]
  exact congrArg _ same

/-- Written lists are the same when they are the same between commas. -/
theorem intercalate_inj_iff {texts others : List (List Char)} (some : texts ≠ [])
    (inhabited : others ≠ []) :
    [',', ' '].intercalate texts = [',', ' '].intercalate others ↔
      (texts.flatMap fun text => commaParts (' ' :: text)) =
        others.flatMap fun text => commaParts (' ' :: text) := by
  rw [← commaParts_space_intercalate some, ← commaParts_space_intercalate inhabited]
  constructor
  · intro same
    rw [same]
  · intro same
    exact (List.cons.inj (commaParts_inj same)).2

/-! ### Blanks around the parts -/

theorem not_comma_of_isBlank {c : Char} (blank : isBlank c = true) : (c == ',') = false := by
  rw [beq_eq_false_iff_ne]
  rintro rfl
  revert blank
  decide

theorem map_trim_commaParts_cons {c : Char} (blank : isBlank c = true) (text : List Char) :
    (commaParts (c :: text)).map trim = (commaParts text).map trim := by
  obtain ⟨first, others, before, after⟩ :=
    splitWhere_cons_inner (· == ',') c text (not_comma_of_isBlank blank)
  rw [commaParts, commaParts, before, after, List.map_cons, List.map_cons, trim_cons blank]

theorem map_trim_commaParts_concat {c : Char} (blank : isBlank c = true) (text : List Char) :
    (commaParts (text ++ [c])).map trim = (commaParts text).map trim := by
  obtain ⟨front, last, before, after⟩ :=
    splitWhere_concat_inner (· == ',') c (not_comma_of_isBlank blank) text
  rw [commaParts, commaParts, before, after]
  simp [trim_concat blank]

theorem listedNames_trim (text : List Char) : listedNames (trim text) = listedNames text := by
  have same : (commaParts (trim text)).map trim = (commaParts text).map trim :=
    apply_trim (f := fun text => (commaParts text).map trim)
      (fun _ rest blank => map_trim_commaParts_cons blank rest)
      (fun _ front blank => map_trim_commaParts_concat blank front) text
  rw [listedNames, listedNames, same]

theorem listedNames_intercalate {texts : List (List Char)} (some : texts ≠ []) :
    listedNames ([','].intercalate texts) = texts.flatMap listedNames := by
  rw [listedNames, commaParts_intercalate some, List.map_flatMap, List.filter_flatMap]
  rfl

/-! ### Names -/

inductive FamilyName where
  | bare (name : List Char)
  | quoted (mark : Char) (body : List Char)

namespace FamilyName

def text : FamilyName → List Char
  | .bare name => name
  | .quoted mark body => mark :: (body ++ [mark])

def IsProper : FamilyName → Prop
  | .bare name => name ≠ [] ∧ trim name = name ∧ '"' ∉ name ∧ '\'' ∉ name ∧ ',' ∉ name
  | .quoted mark _ => mark = '"' ∨ mark = '\''

instance : DecidablePred IsProper
  | .bare name => inferInstanceAs
      (Decidable (name ≠ [] ∧ trim name = name ∧ '"' ∉ name ∧ '\'' ∉ name ∧ ',' ∉ name))
  | .quoted mark _ => inferInstanceAs (Decidable (mark = '"' ∨ mark = '\''))

def written : FamilyName → List Char
  | .bare name => if String.ofList name ∈ genericFamilies then name else '"' :: (name ++ ['"'])
  | .quoted mark body => mark :: (body ++ [mark])

structure Survives (part : List Char) : Prop where
  trimmed : trim part = part
  comma_not_mem : ',' ∉ part
  kept : String.ofList part ∈ genericFamilies ∨ part.head? = some '"' ∨ part.head? = some '\''

/-- The commas of a quoted name do not divide it: one space and no other blank stands at each of
them, and between them stands nothing that would be put between quotation marks. -/
def IsWhole : FamilyName → Prop
  | .bare _ => True
  | .quoted mark body =>
      ∃ parts, mark :: (body ++ [mark]) = [',', ' '].intercalate parts ∧
        ∀ part ∈ parts, Survives part

def items (name : FamilyName) : List (List Char) :=
  (listedNames name.text).map quotedFamily

end FamilyName

theorem quotedFamily_eq_self {name : List Char} (kept : String.ofList name ∈ genericFamilies ∨
    name.head? = some '"' ∨ name.head? = some '\'') : quotedFamily name = name := by
  unfold quotedFamily
  rcases kept with listed | marked | marked <;> simp_all

theorem quotedFamily_eq_self_or {name : List Char} :
    (quotedFamily name = name ∧ (String.ofList name ∈ genericFamilies ∨
      name.head? = some '"' ∨ name.head? = some '\'')) ∨
    quotedFamily name = '"' :: (name ++ ['"']) := by
  unfold quotedFamily
  by_cases listed : String.ofList name ∈ genericFamilies
  · simp [listed]
  · by_cases first : name.head? = some '"'
    · simp [first]
    · by_cases second : name.head? = some '\''
      · simp [second]
      · simp [listed, first, second]

theorem comma_not_mem_of_mem_listedNames {text name : List Char}
    (member : name ∈ listedNames text) : ',' ∉ name := by
  obtain ⟨part, inside, rfl⟩ := List.mem_map.mp (List.mem_filter.mp member).1
  intro comma
  exact comma_not_mem_of_mem_commaParts inside (mem_of_mem_trim comma)

theorem comma_not_mem_quotedFamily {name : List Char} (whole : ',' ∉ name) :
    ',' ∉ quotedFamily name := by
  rcases @quotedFamily_eq_self_or name with ⟨same, _⟩ | marked
  · rwa [same]
  · simp [marked, whole]

/-- Only a name that is left as it is comes back when blanks are dropped. -/
theorem survives_of_trim_quotedFamily {name : List Char} (whole : ',' ∉ name)
    (back : trim (quotedFamily name) = name) : FamilyName.Survives name := by
  rcases @quotedFamily_eq_self_or name with ⟨same, kept⟩ | marked
  · rw [same] at back
    exact ⟨back, whole, kept⟩
  · rw [marked, trim_between (by decide)] at back
    have lengths := congrArg List.length back
    simp only [List.length_cons, List.length_append, List.length_nil] at lengths
    omega

namespace FamilyName

variable {name : FamilyName}

theorem comma_not_mem_items {item : List Char} (member : item ∈ name.items) : ',' ∉ item := by
  obtain ⟨listed, inside, rfl⟩ := List.mem_map.mp member
  exact comma_not_mem_quotedFamily (comma_not_mem_of_mem_listedNames inside)

theorem items_bare {name : List Char} (proper : (bare name).IsProper) :
    (bare name).items = [(bare name).written] := by
  obtain ⟨filled, trimmed, double, single, whole⟩ := proper
  have unmarked : name.head? ≠ some '"' ∧ name.head? ≠ some '\'' := by
    cases name with
    | nil => simp
    | cons c rest =>
        simp only [List.mem_cons, not_or] at double single
        simp [Ne.symm double.1, Ne.symm single.1]
  have listed : listedNames name = [name] := by
    rw [listedNames, commaParts_eq_singleton whole]
    simp [trimmed, filled]
  rw [items, text, listed, List.map_singleton, quotedFamily, written]
  by_cases generic : String.ofList name ∈ genericFamilies <;> simp [generic, unmarked]

theorem Survives.ne_nil {part : List Char} (survives : Survives part) : part ≠ [] := by
  rintro rfl
  have kept := survives.kept
  revert kept
  decide

theorem items_quoted_of_parts {mark : Char} {body : List Char} {parts : List (List Char)}
    (same : mark :: (body ++ [mark]) = [',', ' '].intercalate parts)
    (survive : ∀ part ∈ parts, Survives part) :
    (quoted mark body).items = parts ∧
      commaParts (' ' :: (mark :: (body ++ [mark]))) = parts.map (' ' :: ·) := by
  have some : parts ≠ [] := by
    rintro rfl
    simp at same
  have apart : commaParts (' ' :: (mark :: (body ++ [mark]))) = parts.map (' ' :: ·) := by
    rw [same, commaParts_space_intercalate some, List.map_eq_flatMap]
    apply List.flatMap_congr
    intro part member
    apply commaParts_eq_singleton
    simpa using (survive part member).comma_not_mem
  refine ⟨?_, apart⟩
  have trimmed : (commaParts (mark :: (body ++ [mark]))).map trim = parts := by
    rw [← map_trim_commaParts_cons (c := ' ') (by decide), apart, List.map_map]
    refine (List.map_congr_left ?_).trans (List.map_id parts)
    intro part member
    rw [Function.comp_apply, trim_cons (by decide), (survive part member).trimmed, id]
  have filled : parts.filter (!·.isEmpty) = parts := by
    rw [List.filter_eq_self]
    intro part member
    simpa using (survive part member).ne_nil
  rw [items, text, listedNames, trimmed, filled]
  refine (List.map_congr_left ?_).trans (List.map_id parts)
  intro part member
  exact quotedFamily_eq_self (survive part member).kept

/-- If the items are what stands between the commas, then no item was changed. -/
theorem survives_of_items {mark : Char} {body item : List Char}
    (agree : (quoted mark body).items.map (' ' :: ·) =
      commaParts (' ' :: (mark :: (body ++ [mark]))))
    (member : item ∈ (quoted mark body).items) : Survives item := by
  have parts : (quoted mark body).items.map trim =
      (commaParts (mark :: (body ++ [mark]))).map trim := by
    have trimmed := congrArg (List.map trim) agree
    rw [map_trim_commaParts_cons (by decide), List.map_map] at trimmed
    rw [← trimmed]
    apply List.map_congr_left
    intro item _
    rw [Function.comp_apply, trim_cons (by decide)]
  have all : listedNames (mark :: (body ++ [mark])) =
      (commaParts (mark :: (body ++ [mark]))).map trim := by
    apply List.filter_sublist.eq_of_length
    have lengths := congrArg List.length parts
    simpa [items, text, listedNames] using lengths
  obtain ⟨listed, inside, rfl⟩ := List.mem_map.mp member
  have back : (listedNames (mark :: (body ++ [mark]))).map (trim ∘ quotedFamily) =
      (listedNames (mark :: (body ++ [mark]))).map id := by
    rw [List.map_id, ← List.map_map]
    exact parts.trans all.symm
  have same := List.map_inj_left.mp back listed inside
  have survives := survives_of_trim_quotedFamily (comma_not_mem_of_mem_listedNames inside) same
  rwa [quotedFamily_eq_self survives.kept]

theorem items_ne_nil (proper : name.IsProper) : name.items ≠ [] := by
  cases name with
  | bare name => simp [items_bare proper]
  | quoted mark body =>
      have visible : isBlank mark = false := by
        rcases proper with rfl | rfl <;> decide
      have comma : (mark == ',') = false := by
        rcases proper with rfl | rfl <;> decide
      obtain ⟨first, others, _, after⟩ :=
        splitWhere_cons_inner (· == ',') mark (body ++ [mark]) comma
      apply List.ne_nil_of_mem
      apply List.mem_map_of_mem
      apply List.mem_filter.mpr
      have member : mark ∈ trim (mark :: first) := mem_trimWhere visible List.mem_cons_self
      refine ⟨List.mem_map_of_mem (a := mark :: first) ?_, by simpa using List.ne_nil_of_mem member⟩
      rw [text, commaParts, after]
      exact List.mem_cons_self

/-- The items of a name agree with its text between the commas exactly when it is whole. -/
theorem isWhole_iff (proper : name.IsProper) :
    name.IsWhole ↔ name.items.map (' ' :: ·) = commaParts (' ' :: name.written) := by
  cases name with
  | bare name =>
      have whole : ',' ∉ (bare name).written := by
        have member : (bare name).written ∈ (bare name).items := by
          simp [items_bare proper]
        exact comma_not_mem_items member
      have alone : commaParts (' ' :: (bare name).written) = [' ' :: (bare name).written] := by
        apply commaParts_eq_singleton
        simpa using whole
      simp [IsWhole, items_bare proper, alone]
  | quoted mark body =>
      constructor
      · rintro ⟨parts, same, survive⟩
        obtain ⟨items, apart⟩ := items_quoted_of_parts same survive
        rw [items, written, apart]
      · intro agree
        refine ⟨(quoted mark body).items, ?_, fun item => survives_of_items agree⟩
        have joined := space_intercalate (items_ne_nil proper)
        rw [agree, written, commaParts, intercalate_splitWhere] at joined
        exact (List.cons.inj joined).2.symm

theorem length_items_le (proper : name.IsProper) :
    name.items.length ≤ (commaParts (' ' :: name.written)).length := by
  cases name with
  | bare name =>
      have counted : ((bare name).items.map (' ' :: ·)).length = (bare name).items.length :=
        List.length_map _
      rw [← counted, (isWhole_iff proper).mp trivial]
  | quoted mark body =>
      have same := congrArg List.length
        (map_trim_commaParts_cons (c := ' ') (by decide) (mark :: (body ++ [mark])))
      rw [List.length_map, List.length_map] at same
      rw [written, same, items, List.length_map, text, listedNames]
      exact (List.length_filter_le _ _).trans (by rw [List.length_map])

end FamilyName

theorem length_flatMap_le {α β : Type} {first second : α → List β} {values : List α}
    (short : ∀ value ∈ values, (first value).length ≤ (second value).length) :
    (values.flatMap first).length ≤ (values.flatMap second).length := by
  induction values with
  | nil => simp
  | cons value values ih =>
      obtain ⟨here, later⟩ := List.forall_mem_cons.mp short
      have rest := ih later
      simp only [List.flatMap_cons, List.length_append]
      omega

/-- Lists that are put together piece by piece agree in all pieces, if no piece of the one is
longer than that of the other. -/
theorem flatMap_eq_flatMap_iff {α β : Type} {first second : α → List β} {values : List α}
    (short : ∀ value ∈ values, (first value).length ≤ (second value).length) :
    values.flatMap first = values.flatMap second ↔ ∀ value ∈ values, first value = second value := by
  constructor
  · intro same
    induction values with
    | nil => simp
    | cons value values ih =>
        obtain ⟨here, later⟩ := List.forall_mem_cons.mp short
        have bound := length_flatMap_le later
        rw [List.flatMap_cons, List.flatMap_cons] at same
        have lengths := congrArg List.length same
        rw [List.length_append, List.length_append] at lengths
        obtain ⟨equal, others⟩ := List.append_inj same (by omega)
        exact List.forall_mem_cons.mpr ⟨equal, ih later others⟩
  · exact List.flatMap_congr

def Lists (names : List FamilyName) (families : String) : Prop :=
  ∃ parts, families.toList = [','].intercalate parts ∧
    List.Forall₂ (fun part name => trim part = FamilyName.text name) parts names

theorem flatMap_listedNames {parts : List (List Char)} {names : List FamilyName}
    (each : List.Forall₂ (fun part name => trim part = FamilyName.text name) parts names) :
    parts.flatMap listedNames = names.flatMap fun name => listedNames name.text := by
  induction each with
  | nil => rfl
  | cons here _ ih => rw [List.flatMap_cons, List.flatMap_cons, ih, ← here, listedNames_trim]

theorem Lists.listedNames_eq {names : List FamilyName} {families : String}
    (lists : Lists names families) (some : names ≠ []) :
    listedNames families.toList = names.flatMap fun name => listedNames name.text := by
  obtain ⟨parts, joined, each⟩ := lists
  have filled : parts ≠ [] := by
    rintro rfl
    exact some (List.forall₂_nil_left_iff.mp each)
  rw [joined, listedNames_intercalate filled, flatMap_listedNames each]

theorem Lists.eq_empty {families : String} (lists : Lists [] families) : families = "" := by
  obtain ⟨parts, joined, each⟩ := lists
  obtain rfl := List.forall₂_nil_right_iff.mp each
  exact String.toList_inj.mp joined

theorem toList_familyList (families : String) :
    (familyList families).toList =
      [',', ' '].intercalate ((listedNames families.toList).map quotedFamily) := by
  simp only [familyList, String.toList_intercalate, List.map_map, Function.comp_def,
    String.toList_ofList]
  rfl

section

variable {names : List FamilyName} (proper : ∀ name ∈ names, name.IsProper) (some : names ≠ [])

include proper some

theorem flatMap_items_ne_nil : names.flatMap FamilyName.items ≠ [] := by
  obtain ⟨name, rest, rfl⟩ := List.exists_cons_of_ne_nil some
  rw [List.flatMap_cons]
  exact List.append_ne_nil_of_left_ne_nil
    (FamilyName.items_ne_nil (proper name List.mem_cons_self)) _

theorem intercalate_items_iff :
    [',', ' '].intercalate (names.flatMap FamilyName.items) =
        [',', ' '].intercalate (names.map FamilyName.written) ↔
      ∀ name ∈ names, name.IsWhole := by
  have apart : ∀ name ∈ names, (name.items.flatMap fun item => commaParts (' ' :: item)) =
      name.items.map (' ' :: ·) := by
    intro name _
    rw [List.map_eq_flatMap]
    apply List.flatMap_congr
    intro item member
    apply commaParts_eq_singleton
    simpa using FamilyName.comma_not_mem_items member
  rw [intercalate_inj_iff (flatMap_items_ne_nil proper some) (by simpa using some),
    List.flatMap_assoc, List.flatMap_congr apart, List.flatMap_map, flatMap_eq_flatMap_iff]
  · constructor
    · intro agree name member
      exact (FamilyName.isWhole_iff (proper name member)).mpr (agree name member)
    · intro whole name member
      exact (FamilyName.isWhole_iff (proper name member)).mp (whole name member)
  · intro name member
    rw [List.length_map]
    exact FamilyName.length_items_le (proper name member)

theorem Lists.ne_empty {families : String} (lists : Lists names families) : families ≠ "" := by
  rintro rfl
  have items := congrArg (List.map quotedFamily) (lists.listedNames_eq some)
  rw [List.map_flatMap] at items
  exact flatMap_items_ne_nil proper some items.symm

end

/-- A list of font families is written with its names in order, those in quotation marks and the
keywords as they are and the others between quotation marks, if and only if there is a name and
no name is divided at a comma. -/
theorem fontFamilies_written {names : List FamilyName} {families : String} {style : Typography}
    (proper : ∀ name ∈ names, name.IsProper) (lists : Lists names families)
    (given : style.fontFamily = some families) (lead : String) :
    ∃ text, (Value.typography style).css lead = .ok text ∧
      (text.toList = [',', ' '].intercalate (names.map FamilyName.written) ↔
        names ≠ [] ∧ ∀ name ∈ names, name.IsWhole) := by
  by_cases some : names = []
  · subst names
    obtain rfl := lists.eq_empty
    refine ⟨"initial", ?_, by simp⟩
    rw [Value.css, given]
    rfl
  · refine ⟨familyList families, ?_, ?_⟩
    · have filled : families.isEmpty = false := by
        simpa using lists.ne_empty proper some
      rw [Value.css, given]
      simp [filled]
    · rw [toList_familyList, lists.listedNames_eq some, List.map_flatMap,
        and_iff_right some]
      exact intercalate_items_iff proper some

theorem fontFamilies_written_apart :
    ∃ text, (Value.typography ⟨some "\"A, 'B\" ,Segoe UI,\tserif", none, none, none, none⟩).css "ds" =
        .ok text ∧
      text.toList = "\"A, 'B\", \"Segoe UI\", serif".toList := by
  let names : List FamilyName :=
    [.quoted '"' "A, 'B".toList, .bare "Segoe UI".toList, .bare "serif".toList]
  have proper : ∀ name ∈ names, name.IsProper := by decide
  have lists : Lists names "\"A, 'B\" ,Segoe UI,\tserif" := by
    refine ⟨["\"A, 'B\" ".toList, "Segoe UI".toList, "\tserif".toList], by decide, ?_⟩
    simp only [names, List.forall₂_cons, List.forall₂_nil_left_iff, and_true]
    decide
  have whole : ∀ name ∈ names, name.IsWhole := by
    simp only [names, List.forall_mem_cons, FamilyName.IsWhole, true_and]
    refine ⟨⟨["\"A".toList, "'B\"".toList], by decide, ?_⟩, by simp⟩
    simp only [List.forall_mem_cons]
    exact ⟨⟨by decide, by decide, by decide⟩, ⟨by decide, by decide, by decide⟩, by simp⟩
  obtain ⟨text, css, exact⟩ := @fontFamilies_written names _
    ⟨some "\"A, 'B\" ,Segoe UI,\tserif", none, none, none, none⟩ proper lists rfl "ds"
  exact ⟨text, css, exact.mpr ⟨by simp [names], whole⟩⟩

/-- The part behind a comma is put between quotation marks of its own. -/
theorem fontFamilies_divided :
    ∃ names : List FamilyName, (∀ name ∈ names, name.IsProper) ∧
      Lists names "\"Foo, Bar\", serif" ∧
      (Value.typography ⟨some "\"Foo, Bar\", serif", none, none, none, none⟩).css "ds" =
        .ok "\"Foo, \"Bar\"\", serif" ∧
      "\"Foo, \"Bar\"\", serif".toList ≠
        [',', ' '].intercalate (names.map FamilyName.written) := by
  refine ⟨[.quoted '"' "Foo, Bar".toList, .bare "serif".toList], by decide, ?_, ?_, by decide⟩
  · refine ⟨["\"Foo, Bar\"".toList, " serif".toList], by decide, ?_⟩
    simp only [List.forall₂_cons, List.forall₂_nil_left_iff, and_true]
    decide
  · rfl

end DesignTokens
