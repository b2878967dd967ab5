import DesignTokens.Proofs.Overlay
import DesignTokens.Proofs.Path.Slot
import DesignTokens.Proofs.Stylesheet.Sheet
import DesignTokens.Stylesheet.Components

/-!
The rules of a component.  Its tokens are grouped by the text of their selector, which the
variant and the state determine and which tells both of them.
-/

namespace DesignTokens

open Stylesheet

namespace Stylesheet

def variantText : Option String → String
  | none => ""
  | some variant => "-" ++ variant

def stateText (base : String) : Option String → String
  | none => ""
  | some state =>
      if state == "disabled" then ".disabled, " ++ base ++ "[disabled]" else ":" ++ state

theorem selector_eq (component : String) (variant state : Option String) :
    selector component variant state = "." ++ component ++ variantText variant ++
      stateText ("." ++ component ++ variantText variant) state := by
  cases state with
  | none => cases variant <;> simp [selector, stateText, variantText, String.append_assoc]
  | some state =>
      by_cases disabled : state = "disabled" <;> cases variant <;>
        simp [selector, stateText, variantText, disabled, String.append_assoc]

def isSegmentPart (c : Char) : Bool :=
  isSegmentChar c || c == '\n'

theorem isSegmentPart_of_variantText {variant : Option String}
    (valid : ∀ name ∈ variant, isSegment name = true) :
    ∀ c ∈ (variantText variant).toList, isSegmentPart c = true := by
  cases variant with
  | none => simp [variantText]
  | some name =>
      intro c inside
      rw [variantText, String.toList_append, List.mem_append] at inside
      rcases inside with dash | inside
      · rw [List.mem_singleton.mp dash]
        rfl
      · have part := isSegmentChar_or_lineBreak (valid name rfl) inside
        simpa [isSegmentPart] using part

theorem takeWhile_stateText (base : String) (state : Option String) :
    (stateText base state).toList.takeWhile isSegmentPart = [] := by
  cases state with
  | none => rfl
  | some state =>
      have dot : isSegmentPart '.' = false := by decide
      have colon : isSegmentPart ':' = false := by decide
      by_cases disabled : state = "disabled" <;> simp [stateText, disabled, dot, colon]

theorem stateText_ne_empty (base state : String) : stateText base (some state) ≠ "" := by
  by_cases disabled : state = "disabled" <;> simp [stateText, disabled]

theorem variantText_inj {variant other : Option String}
    (same : variantText variant = variantText other) : variant = other := by
  have chars := congrArg String.toList same
  cases variant <;> cases other <;> simp_all [variantText]

theorem stateText_inj {base : String} {state other : Option String}
    (same : stateText base state = stateText base other) : state = other := by
  cases state with
  | none =>
      cases other with
      | none => rfl
      | some other => exact absurd same.symm (stateText_ne_empty base other)
  | some state =>
      cases other with
      | none => exact absurd same (stateText_ne_empty base state)
      | some other =>
          have chars := congrArg String.toList same
          by_cases first : state = "disabled"
          · by_cases second : other = "disabled"
            · rw [first, second]
            · simp [stateText, first, second] at chars
          · by_cases second : other = "disabled"
            · simp [stateText, first, second] at chars
            · simpa [stateText, first, second, String.toList_inj] using chars

/-- The text before a state is made of segment characters, so it ends where the state begins. -/
theorem selector_inj {component : String} {variant state variant' state' : Option String}
    (valid : ∀ name ∈ variant, isSegment name = true)
    (valid' : ∀ name ∈ variant', isSegment name = true)
    (same : selector component variant state = selector component variant' state') :
    variant = variant' ∧ state = state' := by
  rw [selector_eq, selector_eq] at same
  have chars := congrArg String.toList same
  simp only [String.toList_append, List.append_assoc, List.append_cancel_left_eq] at chars
  have front := congrArg (List.takeWhile isSegmentPart) chars
  rw [List.takeWhile_append_of_pos (isSegmentPart_of_variantText valid),
    List.takeWhile_append_of_pos (isSegmentPart_of_variantText valid'), takeWhile_stateText,
    takeWhile_stateText, List.append_nil, List.append_nil, String.toList_inj] at front
  obtain rfl := variantText_inj front
  rw [String.append_right_inj] at same
  exact ⟨rfl, stateText_inj same⟩

def ruleOf (placed : List (String × Declaration)) (selector : String) : Rule :=
  ⟨selector, (placed.filter (·.1 = selector)).map Prod.snd⟩

theorem selector_ruleOf (placed : List (String × Declaration)) (selector : String) :
    (ruleOf placed selector).selector = selector :=
  rfl

variable {placed : List (String × Declaration)} {selector : String} {declaration : Declaration}

theorem ruleOf_concat_self :
    ruleOf (placed ++ [(selector, declaration)]) selector =
      ⟨selector, (ruleOf placed selector).declarations ++ [declaration]⟩ := by
  simp [ruleOf, List.filter_append]

theorem ruleOf_concat_of_ne {other : String} (apart : selector ≠ other) :
    ruleOf (placed ++ [(selector, declaration)]) other = ruleOf placed other := by
  simp [ruleOf, List.filter_append, apart]

theorem addToRules_of_mem {names : List String} (distinct : names.Nodup)
    (known : selector ∈ names) :
    addToRules (names.map (ruleOf placed)) selector declaration =
      names.map (ruleOf (placed ++ [(selector, declaration)])) := by
  induction names with
  | nil => exact absurd known List.not_mem_nil
  | cons name names ih =>
      obtain ⟨fresh, rest⟩ := List.nodup_cons.mp distinct
      by_cases same : name = selector
      · subst same
        have others : names.map (ruleOf (placed ++ [(name, declaration)])) =
            names.map (ruleOf placed) := by
          refine List.map_congr_left fun other listed => ruleOf_concat_of_ne ?_
          rintro rfl
          exact fresh listed
        rw [List.map_cons, List.map_cons, others, ruleOf_concat_self, addToRules,
          if_pos (selector_ruleOf placed name)]
        rfl
      · have later := (List.mem_cons.mp known).resolve_left (Ne.symm same)
        rw [List.map_cons, List.map_cons, ruleOf_concat_of_ne (Ne.symm same), addToRules,
          selector_ruleOf, if_neg same, ih rest later]

theorem addToRules_of_not_mem {rules : List Rule} (fresh : selector ∉ rules.map (·.selector)) :
    addToRules rules selector declaration = rules ++ [⟨selector, [declaration]⟩] := by
  induction rules with
  | nil => rfl
  | cons rule rules ih =>
      rw [List.map_cons, List.mem_cons, not_or] at fresh
      rw [addToRules, if_neg (Ne.symm fresh.1), ih fresh.2, List.cons_append]

/-- The rules stand in the order of their first declarations, with all of their own in order. -/
theorem groupRules_eq (placed : List (String × Declaration)) :
    groupRules placed = (placed.map Prod.fst).eraseDups.map (ruleOf placed) := by
  induction placed using List.reverseRecOn with
  | nil => rfl
  | append_singleton placed last ih =>
      obtain ⟨selector, declaration⟩ := last
      have step : groupRules (placed ++ [(selector, declaration)]) =
          addToRules (groupRules placed) selector declaration := by
        simp [groupRules]
      rw [step, ih, List.map_append, List.map_singleton, eraseDups_concat]
      by_cases known : selector ∈ placed.map Prod.fst
      · rw [if_pos known, addToRules_of_mem (nodup_eraseDups _) (List.mem_eraseDups.mpr known)]
      · have fresh : selector ∉ (placed.map Prod.fst).eraseDups := fun listed =>
          known (List.mem_eraseDups.mp listed)
        have own : ruleOf placed selector = ⟨selector, []⟩ := by
          rw [ruleOf, List.filter_eq_nil_iff.mpr]
          · rfl
          · intro entry listed clash
            exact known (List.mem_map.mpr ⟨entry, listed, of_decide_eq_true clash⟩)
        have others : ∀ other ∈ (placed.map Prod.fst).eraseDups,
            ruleOf (placed ++ [(selector, declaration)]) other = ruleOf placed other := by
          intro other listed
          refine ruleOf_concat_of_ne ?_
          rintro rfl
          exact fresh listed
        rw [if_neg known, addToRules_of_not_mem, List.map_append, List.map_singleton,
          ruleOf_concat_self, own, List.map_congr_left others]
        · rfl
        · simpa [ruleOf, Function.comp_def] using fresh

theorem groupRules_ne_nil {placed : List (String × Declaration)} (some : placed ≠ []) :
    groupRules placed ≠ [] := by
  obtain ⟨entry, listed⟩ := List.exists_mem_of_ne_nil placed some
  have known := List.mem_eraseDups.mpr (List.mem_map_of_mem (f := Prod.fst) listed)
  rw [groupRules_eq]
  exact List.ne_nil_of_mem (List.mem_map_of_mem known)

/-- Declarations that are placed by a key fall into one rule for each key, if the keys have
different selectors. -/
theorem groupRules_map {ε κ : Type} [DecidableEq κ] {entries : List ε} (key : ε → κ)
    (named : κ → String) (declared : ε → Declaration)
    (apart : ∀ entry ∈ entries, ∀ other ∈ entries,
      named (key entry) = named (key other) → key entry = key other) :
    groupRules (entries.map fun entry => (named (key entry), declared entry)) =
      (entries.map key).eraseDups.map fun one =>
        ⟨named one, (entries.filter (key · = one)).map declared⟩ := by
  have names : (entries.map fun entry => (named (key entry), declared entry)).map Prod.fst =
      (entries.map key).map named := by
    simp
  have distinct : ∀ one ∈ entries.map key, ∀ other ∈ entries.map key,
      named one = named other → one = other := by
    intro one listed other again same
    obtain ⟨entry, member, rfl⟩ := List.mem_map.mp listed
    obtain ⟨next, following, rfl⟩ := List.mem_map.mp again
    exact apart entry member next following same
  rw [groupRules_eq, names, eraseDups_map distinct, List.map_map]
  refine List.map_congr_left fun one listed => ?_
  have known := List.mem_eraseDups.mp listed
  have own : entries.filter (fun entry => named (key entry) = named one) =
      entries.filter (key · = one) := by
    refine List.filter_congr fun entry member => decide_eq_decide.mpr ?_
    constructor
    · exact distinct _ (List.mem_map_of_mem member) one known
    · rintro rfl
      rfl
  simp only [Function.comp_apply, ruleOf, List.filter_map, List.map_map]
  exact congrArg (fun members => Rule.mk (named one) (List.map declared members)) own

end Stylesheet

theorem Path.Occupies.selector_eq_iff {path other : Path} {slot next : Slot}
    (occupies : path.Occupies slot) (occupied : other.Occupies next) (component : String) :
    selector component slot.variant slot.state = selector component next.variant next.state ↔
      slot.place = next.place := by
  rw [Slot.place, Slot.place, Slot.Place.mk.injEq]
  constructor
  · exact selector_inj occupies.isSegment_variant occupied.isSegment_variant
  · rintro ⟨variant, state⟩
    rw [variant, state]

namespace View

def declarationOf (text : Path → String) (entry : Path × Slot) : Declaration :=
  ⟨propertyName entry.2.property, text entry.1⟩

def arranged (component : String) (text : Path → String) (slots : List (Path × Slot)) :
    List Rule :=
  (slots.map (·.2.place)).eraseDups.map fun place =>
    ⟨selector component place.variant place.state,
      (slots.filter (·.2.place = place)).map (declarationOf text)⟩

variable {view : View} {theme : Theme} {component : String}

theorem mem_componentSlots_iff {path : Path} {slot : Slot} :
    (path, slot) ∈ view.componentSlots component theme ↔
      path ∈ view.store.visiblePaths theme ∧ path.Occupies slot ∧ slot.component = component := by
  rw [componentSlots, List.mem_filterMap]
  constructor
  · rintro ⟨other, known, found⟩
    split at found
    · rename_i slot placed
      split at found
      · rename_i named
        obtain ⟨rfl, rfl⟩ := Prod.mk.inj (Option.some.inj found)
        exact ⟨known, Path.slot?_eq_some_iff.mp placed, named⟩
      · cases found
    · cases found
  · rintro ⟨known, occupies, named⟩
    refine ⟨path, known, ?_⟩
    simp only [Path.slot?_eq_some_iff.mpr occupies, named, if_true]

theorem mem_paths_componentSlots_iff {path : Path} :
    path ∈ (view.componentSlots component theme).map Prod.fst ↔
      path ∈ view.store.visiblePaths theme ∧
        ∃ first rest, path.segments = "component" :: component :: first :: rest := by
  rw [List.mem_map, ← Path.exists_occupies_iff]
  constructor
  · rintro ⟨⟨path, slot⟩, listed, rfl⟩
    obtain ⟨known, own⟩ := mem_componentSlots_iff.mp listed
    exact ⟨known, slot, own⟩
  · rintro ⟨known, slot, own⟩
    exact ⟨(path, slot), mem_componentSlots_iff.mpr ⟨known, own⟩, rfl⟩

theorem sublist_componentSlots (view : View) (component : String) (theme : Theme) :
    ((view.componentSlots component theme).map Prod.fst).Sublist
      (view.store.visiblePaths theme) := by
  rw [componentSlots]
  generalize view.store.visiblePaths theme = paths
  induction paths with
  | nil => simp
  | cons path paths ih =>
      rw [List.filterMap_cons]
      split
      · exact ih.cons _
      · rename_i entry found
        have same : entry.1 = path := by
          split at found
          · split at found
            · rw [← Option.some.inj found]
            · cases found
          · cases found
        rw [List.map_cons, same]
        exact ih.cons_cons _

theorem groupRules_componentSlots (text : Path → String) :
    groupRules ((view.componentSlots component theme).map fun entry =>
        (selector entry.2.component entry.2.variant entry.2.state, declarationOf text entry)) =
      arranged component text (view.componentSlots component theme) := by
  have own : ∀ entry ∈ view.componentSlots component theme,
      entry.1.Occupies entry.2 ∧ entry.2.component = component := fun entry listed =>
    (mem_componentSlots_iff.mp listed).2
  have placed : (view.componentSlots component theme).map (fun entry =>
        (selector entry.2.component entry.2.variant entry.2.state, declarationOf text entry)) =
      (view.componentSlots component theme).map fun entry =>
        (selector component entry.2.place.variant entry.2.place.state, declarationOf text entry) := by
    refine List.map_congr_left fun entry listed => ?_
    rw [(own entry listed).2]
    rfl
  rw [placed]
  refine groupRules_map (·.2.place) (fun place => selector component place.variant place.state)
    (declarationOf text) fun entry listed other again same => ?_
  exact ((own entry listed).1.selector_eq_iff (own other again).1 component).mp same

theorem nodup_selectors (text : Path → String) {slots : List (Path × Slot)}
    (own : ∀ entry ∈ slots, entry.1.Occupies entry.2) :
    ((arranged component text slots).map (·.selector)).Nodup := by
  rw [arranged, List.map_map, List.nodup_map_iff_inj_on (nodup_eraseDups _)]
  intro place listed other again same
  obtain ⟨entry, member, rfl⟩ := List.mem_map.mp (List.mem_eraseDups.mp listed)
  obtain ⟨next, following, rfl⟩ := List.mem_map.mp (List.mem_eraseDups.mp again)
  exact ((own entry member).selector_eq_iff (own next following) component).mp same

theorem perm_arranged (component : String) (text : Path → String) (slots : List (Path × Slot)) :
    ((arranged component text slots).flatMap (·.declarations)).Perm
      (slots.map (declarationOf text)) := by
  have grouped := perm_flatMap_filter (fun entry : Path × Slot => entry.2.place) slots
    (nodup_eraseDups (slots.map (·.2.place)))
  have all : slots.filter (fun entry => entry.2.place ∈ (slots.map (·.2.place)).eraseDups) =
      slots := by
    refine List.filter_eq_self.mpr fun entry listed => decide_eq_true ?_
    exact List.mem_eraseDups.mpr (List.mem_map_of_mem listed)
  rw [all] at grouped
  have declared := grouped.map (declarationOf text)
  rw [List.map_flatMap] at declared
  rwa [arranged, List.flatMap_map]

theorem run_componentRules {text : Path → String}
    (only : ∀ path other, view.Renders theme path other → other = text path)
    {cache after : Cache} (sound : cache.Sound view.store) {rules : List Rule}
    (run : (view.componentRules component theme).run cache = (.ok rules, after)) :
    (∀ entry ∈ view.componentSlots component theme,
        view.Renders theme entry.1 (text entry.1)) ∧
      rules = arranged component text (view.componentSlots component theme) := by
  rcases run_bind_eq_ok run with ⟨placed, middle, first, last⟩
  rcases run_mapM_tokenText only sound first with ⟨_, renders, rfl⟩
  have grouped := Except.ok.inj (congrArg Prod.fst last)
  exact ⟨renders, grouped.symm.trans (groupRules_componentSlots text)⟩

theorem exists_run_componentSheet {cache : Cache} (sound : cache.Sound view.store)
    (each : ∀ entry ∈ view.componentSlots component theme,
      Fits view.store theme entry.1 view.allowance ∧ ∃ text, view.Renders theme entry.1 text)
    (taken : view.componentSlots component theme ≠ []) :
    ∃ css after, (view.componentSheet component theme).run cache = (.ok css, after) := by
  rcases exists_run_mapM_tokenText sound each with ⟨placed, after, run, _⟩
  have made : (view.componentRules component theme).run cache = (.ok (groupRules placed), after) := by
    rw [componentRules, run_bind_ok run]
    rfl
  rcases exists_text view theme with ⟨text, only⟩
  have grouped := (run_componentRules only sound made).2
  rw [← groupRules_componentSlots] at grouped
  rw [componentSheet, run_bind_ok made]
  split
  · rename_i empty
    exact absurd (grouped.symm.trans empty) (groupRules_ne_nil (by simpa using taken))
  · exact ⟨_, after, rfl⟩

end View

structure View.Arranges (view : View) (component : String) (theme : Theme)
    (slots : List (Path × Slot)) (text : Path → String) (rules : List Rule) : Prop where
  member : ∀ path slot, (path, slot) ∈ slots ↔
    (∃ raw, Shows view.store theme path raw) ∧ path.Occupies slot ∧ slot.component = component
  known : ∀ path, path ∈ slots.map Prod.fst ↔ (∃ raw, Shows view.store theme path raw) ∧
    ∃ first rest, path.segments = "component" :: component :: first :: rest
  ordered : (slots.map Prod.fst).Sublist (view.store.visiblePaths theme)
  once : (slots.map Prod.fst).Nodup
  renders : ∀ entry ∈ slots, view.Renders theme entry.1 (text entry.1)
  grouped : rules = arranged component text slots
  apart : (rules.map (·.selector)).Nodup
  complete : (rules.flatMap (·.declarations)).Perm (slots.map (declarationOf text))

/-- A component's sheet declares each of its tokens once and nothing else, under the selector of
the token's variant and state, which no other variant or state has. -/
theorem componentSheet_complete {view : View} {cache after : Cache}
    (memory : MemoryOf view.store cache) {component : String} {theme : Theme}
    (long : view.config.minify = false) {css : String}
    (run : (view.componentSheet component theme).run cache = (.ok css, after)) :
    ∃ text rules,
      view.Arranges component theme (view.componentSlots component theme) text rules ∧
      rules ≠ [] ∧
      css = "\n\n".intercalate (rules.map fun rule =>
        rule.selector ++ " \x7b\n" ++
          "\n".intercalate (rule.declarations.map fun declaration =>
            "  " ++ declaration.property ++ ": " ++ declaration.value ++ ";") ++ "\n\x7d") ∧
      (∀ (path other : Path) (slot next : Slot), path.Occupies slot → other.Occupies next →
        (selector component slot.variant slot.state =
            selector component next.variant next.state ↔ slot.place = next.place)) := by
  rcases View.exists_text view theme with ⟨text, only⟩
  rcases run_bind_eq_ok run with ⟨rules, middle, first, last⟩
  rcases View.run_componentRules only memory.sound first with ⟨renders, made⟩
  have own : ∀ entry ∈ view.componentSlots component theme, entry.1.Occupies entry.2 :=
    fun entry listed => (View.mem_componentSlots_iff.mp listed).2.1
  have ordered := View.sublist_componentSlots view component theme
  have arranges : view.Arranges component theme (view.componentSlots component theme) text
      rules := by
    rw [made]
    refine ⟨fun path slot => ?_, fun path => ?_, ordered, ?_, renders, rfl,
      View.nodup_selectors text own, View.perm_arranged component text _⟩
    · rw [View.mem_componentSlots_iff, Store.mem_visiblePaths_iff]
    · rw [View.mem_paths_componentSlots_iff, Store.mem_visiblePaths_iff]
    · exact (Store.nodup_visiblePaths view.store theme).sublist ordered
  refine ⟨text, rules, arranges, ?_, ?_, fun path other slot next occupies occupied =>
    occupies.selector_eq_iff occupied component⟩
  · rintro rfl
    rcases run_bind_eq_ok last with ⟨path, middle, _, failed⟩
    exact nomatch failed
  · split at last
    · rcases run_bind_eq_ok last with ⟨path, middle, _, failed⟩
      exact nomatch failed
    · have written := Except.ok.inj (congrArg Prod.fst last)
      rw [← written, finished, long, ← funext ruleText_eq]
      rfl

namespace Button

abbrev below (component : String) (rest : List String)
    (valid : ∀ segment ∈ "component" :: component :: rest, isSegment segment = true) : Path :=
  ⟨"component" :: component :: rest, List.cons_ne_nil _ _, valid⟩

abbrev height : Path := below "button" ["height"] (by decide)
abbrev fill : Path := below "button" ["primary", "background"] (by decide)
abbrev cursor : Path := below "button" ["default", "cursor"] (by decide)
abbrev faded : Path := below "button" ["primary", "disabled", "textColor"] (by decide)
abbrev field : Path := below "input" ["height"] (by decide)

def tokens : Store :=
  Store.empty.setAll [(height, .string "40px"), (fill, .string "blue"), (field, .string "30px"),
    (cursor, .string "pointer"), (faded, .string "gray")] .light

def view : View :=
  ⟨tokens, {}, .usual⟩

end Button

open Button in
theorem componentSheet_complete_button :
    ∃ css after, (view.componentSheet "button" .light).run Table.empty = (.ok css, after) ∧
      css = "\n".intercalate [
        ".button \x7b", "  height: 40px;", "  cursor: pointer;", "\x7d", "",
        ".button-primary \x7b", "  background: blue;", "\x7d", "",
        ".button-primary.disabled, .button-primary[disabled] \x7b", "  text-color: gray;", "\x7d"] := by
  have taken : view.componentSlots "button" .light =
      [(height, ⟨"button", none, none, ["height"]⟩),
        (fill, ⟨"button", some "primary", none, ["background"]⟩),
        (cursor, ⟨"button", none, none, ["cursor"]⟩),
        (faded, ⟨"button", some "primary", some "disabled", ["textColor"]⟩)] := by
    decide
  obtain ⟨fitsHeight, height⟩ := @View.renders_of_shown view .light height (.string "40px") _ rfl rfl rfl
  obtain ⟨fitsFill, fill⟩ := @View.renders_of_shown view .light fill (.string "blue") _ rfl rfl rfl
  obtain ⟨fitsCursor, cursor⟩ := @View.renders_of_shown view .light cursor (.string "pointer") _ rfl rfl rfl
  obtain ⟨fitsFaded, faded⟩ := @View.renders_of_shown view .light faded (.string "gray") _ rfl rfl rfl
  have made : ∃ css after,
      (view.componentSheet "button" .light).run Table.empty = (.ok css, after) := by
    refine View.exists_run_componentSheet (Cache.sound_empty tokens) ?_ (by rw [taken]; simp)
    rw [taken]
    simp only [List.forall_mem_cons, List.not_mem_nil, false_implies, implies_true, and_true]
    exact ⟨⟨fitsHeight, _, height⟩, ⟨fitsFill, _, fill⟩, ⟨fitsCursor, _, cursor⟩, fitsFaded, _,
      faded⟩
  rcases made with ⟨css, after, run⟩
  rcases componentSheet_complete (MemoryOf.empty tokens) rfl run with
    ⟨text, rules, arranges, _, written, _⟩
  refine ⟨css, after, run, ?_⟩
  have renders := arranges.renders
  have grouped := arranges.grouped
  rw [taken] at renders grouped
  simp only [List.forall_mem_cons] at renders
  have arranged : rules = [⟨".button", [⟨"height", text Button.height⟩, ⟨"cursor", text Button.cursor⟩]⟩,
      ⟨".button-primary", [⟨"background", text Button.fill⟩]⟩,
      ⟨".button-primary.disabled, .button-primary[disabled]",
        [⟨"text-color", text Button.faded⟩]⟩] := grouped
  rw [written, arranged, renders.1.unique height, renders.2.1.unique fill,
    renders.2.2.1.unique cursor, renders.2.2.2.1.unique faded]
  decide +kernel

end DesignTokens
