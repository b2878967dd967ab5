import DesignTokens.Proofs.Stylesheet.Families

/-!
Utility sheets.  Their rules are those of the families for what the tokens denote, and each
property of a class has one token where the tokens of a family have different names.
-/

namespace DesignTokens

open Stylesheet

namespace View

variable {view : View} {theme : Theme}

def Serves (view : View) (theme : Theme) (family : Family) (path : Path) (text : String) : Prop :=
  path.head = family.head ∧ 1 < path.size ∧
    ∃ value, Denotes view.store theme path value ∧ family.text? path value = some text

def Sets (view : View) (theme : Theme) (path : Path) (selector property text : String) : Prop :=
  ∃ family ∈ families, view.Serves theme family path text ∧
    ∃ entry ∈ family.classes, family.selector entry path = selector ∧ property ∈ entry.2

def TellsApart {κ : Type} (view : View) (theme : Theme) (family : Family) (key : Path → κ) :
    Prop :=
  ∀ path other text next, view.Serves theme family path text →
    view.Serves theme family other next → key path = key other → path = other

def below (view : View) (head : String) (theme : Theme) : List Path :=
  (view.store.visiblePaths theme).filter fun path => path.head == head && 1 < path.size

theorem mem_below_iff {head : String} {path : Path} :
    path ∈ view.below head theme ↔
      (∃ raw, Shows view.store theme path raw) ∧ path.head = head ∧ 1 < path.size := by
  rw [below, List.mem_filter, Store.mem_visiblePaths_iff]
  simp

theorem nodup_below (view : View) (head : String) (theme : Theme) :
    (view.below head theme).Nodup :=
  (Store.nodup_visiblePaths view.store theme).filter _

theorem exists_value (view : View) (theme : Theme) :
    ∃ value : Path → Value, ∀ path other, Denotes view.store theme path other →
      other = value path := by
  have each : ∀ path, ∃ value, ∀ other, Denotes view.store theme path other → other = value := by
    intro path
    by_cases known : ∃ value, Denotes view.store theme path value
    · rcases known with ⟨value, denotes⟩
      exact ⟨value, fun other again => again.unique denotes⟩
    · exact ⟨.null, fun other denotes => absurd ⟨other, denotes⟩ known⟩
  choose value only using each
  exact ⟨value, only⟩

theorem run_namespaceValues {value : Path → Value}
    (only : ∀ path other, Denotes view.store theme path other → other = value path)
    {head : String} {cache after : Cache} (sound : cache.Sound view.store)
    {values : List (Path × Value)}
    (run : (view.namespaceValues head theme).run cache = (.ok values, after)) :
    after.Sound view.store ∧
      (∀ path ∈ view.below head theme, Denotes view.store theme path (value path)) ∧
      values = (view.below head theme).map fun path => (path, value path) := by
  have resolved : ∀ {path : Path} {made : Path × Value} {state after : Cache},
      state.Sound view.store →
      (do return (path, ← view.resolve theme path) : Walk (Path × Value)).run state =
        (.ok made, after) →
      after.Sound view.store ∧ Denotes view.store theme path (value path) ∧
        made = (path, value path) := by
    intro path made state after sound run
    rcases run_bind_eq_ok run with ⟨found, middle, first, last⟩
    obtain ⟨same, rfl⟩ := Prod.mk.inj last
    obtain rfl := Except.ok.inj same
    have denotes := denotes_of_outcome sound (congrArg Prod.fst first)
    obtain rfl := only path found denotes
    have kept : Cache.Sound ((view.resolve theme path).run state).2 view.store :=
      Cache.Sound.resolve sound path
    rw [first] at kept
    exact ⟨kept, denotes, rfl⟩
  exact run_mapM_eq_ok resolved sound run

def utilityListing (view : View) (theme : Theme) (value : Path → Value) : List Rule :=
  families.flatMap fun family => family.listing value (view.below family.head theme)

theorem run_utilityRules {value : Path → Value}
    (only : ∀ path other, Denotes view.store theme path other → other = value path)
    {cache after : Cache} (sound : cache.Sound view.store) {rules : List Rule}
    (run : (view.utilityRules theme).run cache = (.ok rules, after)) :
    (∀ family ∈ families, ∀ path ∈ view.below family.head theme,
        Denotes view.store theme path (value path)) ∧
      rules = view.utilityListing theme value := by
  rcases run_bind_eq_ok run with ⟨colored, cache₁, first, run⟩
  rcases run_bind_eq_ok run with ⟨spaced, cache₂, second, run⟩
  rcases run_bind_eq_ok run with ⟨sized, cache₃, third, run⟩
  rcases run_namespaceValues only sound first with ⟨sound, colors, rfl⟩
  rcases run_namespaceValues only sound second with ⟨sound, spacing, rfl⟩
  rcases run_namespaceValues only sound third with ⟨_, sizes, rfl⟩
  refine ⟨?_, ?_⟩
  · simp only [families, List.forall_mem_cons, List.not_mem_nil, false_implies, implies_true,
      and_true]
    exact ⟨colors, spacing, sizes⟩
  · rw [← Except.ok.inj (congrArg Prod.fst run)]
    simp only [List.flatMap_map, colorRules_eq, spacingRules_eq, fontSizeRules_eq]
    simp only [utilityListing, families, List.flatMap_cons, List.flatMap_nil, List.append_nil,
      List.append_assoc]
    rfl

theorem Serves.shows {family : Family} {path : Path} {text : String}
    (serves : view.Serves theme family path text) : ∃ raw, Shows view.store theme path raw := by
  obtain ⟨_, _, value, ⟨shows, _⟩, _⟩ := serves
  exact ⟨_, shows⟩

theorem Serves.unique {family : Family} {path : Path} {text next : String}
    (serves : view.Serves theme family path text) (again : view.Serves theme family path next) :
    text = next := by
  obtain ⟨_, _, value, denotes, written⟩ := serves
  obtain ⟨_, _, other, denoted, rewritten⟩ := again
  rw [denotes.unique denoted, rewritten] at written
  exact (Option.some.inj written).symm

section Listing

variable {value : Path → Value}
  (only : ∀ path other, Denotes view.store theme path other → other = value path)
  (resolved : ∀ family ∈ families, ∀ path ∈ view.below family.head theme,
    Denotes view.store theme path (value path))

include only resolved

theorem serves_iff {family : Family} (known : family ∈ families) {path : Path} {text : String} :
    view.Serves theme family path text ↔
      path ∈ view.below family.head theme ∧ family.text? path (value path) = some text := by
  constructor
  · intro serves
    have shown := serves.shows
    obtain ⟨head, long, other, denotes, written⟩ := serves
    obtain rfl := only path other denotes
    exact ⟨mem_below_iff.mpr ⟨shown, head, long⟩, written⟩
  · rintro ⟨member, written⟩
    obtain ⟨_, head, long⟩ := mem_below_iff.mp member
    exact ⟨head, long, value path, resolved family known path member, written⟩

theorem exists_declared_iff {selector property text : String} :
    (∃ rule ∈ view.utilityListing theme value, rule.selector = selector ∧
        ⟨property, text⟩ ∈ rule.declarations) ↔
      ∃ path, view.Sets theme path selector property text := by
  constructor
  · rintro ⟨rule, listed, named, declared⟩
    obtain ⟨family, known, listed⟩ := List.mem_flatMap.mp listed
    obtain ⟨path, member, listed⟩ := List.mem_flatMap.mp listed
    obtain ⟨written, found, entry, made, rfl⟩ := Family.mem_rules_iff.mp listed
    obtain ⟨one, sets, same⟩ := List.mem_map.mp declared
    obtain ⟨rfl, rfl⟩ := Declaration.mk.inj same
    exact ⟨path, family, known, (serves_iff only resolved known).mpr ⟨member, found⟩, entry, made,
      named, sets⟩
  · rintro ⟨path, family, known, serves, entry, made, named, sets⟩
    obtain ⟨member, found⟩ := (serves_iff only resolved known).mp serves
    refine ⟨family.rule path text entry, ?_, named, List.mem_map_of_mem sets⟩
    refine List.mem_flatMap.mpr ⟨family, known, List.mem_flatMap.mpr ⟨path, member, ?_⟩⟩
    exact Family.mem_rules_iff.mpr ⟨text, found, entry, made, rfl⟩

theorem unambiguous_utilityListing_iff :
    Unambiguous (view.utilityListing theme value) ↔
      ∀ family ∈ families, view.TellsApart theme family family.name := by
  rw [utilityListing, unambiguous_families_iff]
  refine forall₂_congr fun family known => ?_
  rw [Family.unambiguous_listing_iff (nodup_below view family.head theme)]
  constructor
  · intro named path other text next serves serving same
    obtain ⟨member, found⟩ := (serves_iff only resolved known).mp serves
    obtain ⟨listed, again⟩ := (serves_iff only resolved known).mp serving
    exact named path member other listed (by simp [found]) (by simp [again]) same
  · intro apart path member other listed found again same
    obtain ⟨text, found⟩ := Option.isSome_iff_exists.mp found
    obtain ⟨next, again⟩ := Option.isSome_iff_exists.mp again
    exact apart path other text next ((serves_iff only resolved known).mpr ⟨member, found⟩)
      ((serves_iff only resolved known).mpr ⟨listed, again⟩) same

end Listing

theorem TellsApart.congr {κ κ' : Type} {family : Family} {key : Path → κ} {name : Path → κ'}
    (alike : ∀ path other text next, view.Serves theme family path text →
      view.Serves theme family other next → (key path = key other ↔ name path = name other)) :
    view.TellsApart theme family key ↔ view.TellsApart theme family name := by
  refine forall₄_congr fun path other text next => ?_
  refine forall₂_congr fun serves serving => ?_
  rw [alike path other text next serves serving]

theorem tellsApart_utilityName_iff (family : Family) :
    view.TellsApart theme family Path.utilityName ↔ view.TellsApart theme family Path.dashed :=
  TellsApart.congr fun _ _ _ _ ⟨head, longer, _⟩ ⟨heads, long, _⟩ =>
    Path.utilityName_eq_iff (head.trans heads.symm) longer long

/-- Where the names of tokens differ, a class and a property belong to one of them. -/
theorem Sets.unique (apart : ∀ family ∈ families, view.TellsApart theme family family.name)
    {path other : Path} {selector property text next : String}
    (sets : view.Sets theme path selector property text)
    (again : view.Sets theme other selector property next) : path = other ∧ text = next := by
  obtain ⟨family, known, serves, entry, made, named, inside⟩ := sets
  obtain ⟨twin, familiar, serving, repeated, formed, renamed, among⟩ := again
  obtain rfl := family_eq_of_property known familiar
    (List.mem_flatMap.mpr ⟨entry, made, inside⟩) (List.mem_flatMap.mpr ⟨repeated, formed, among⟩)
  obtain rfl := Family.entry_eq_of_property made formed inside among
  have same : family.name path = family.name other := by
    simpa [Family.selector] using named.trans renamed.symm
  obtain rfl := apart family known path other text next serves serving same
  exact ⟨rfl, serves.unique serving⟩

end View

theorem View.exists_run_namespaceValues {view : View} {theme : Theme} {head : String}
    {cache : Cache} (sound : cache.Sound view.store)
    (each : ∀ path ∈ view.below head theme, Fits view.store theme path view.allowance ∧
      ∃ value, Denotes view.store theme path value) :
    ∃ values after, (view.namespaceValues head theme).run cache = (.ok values, after) ∧
      after.Sound view.store := by
  have resolved : ∀ path ∈ view.below head theme, ∀ state : Cache, state.Sound view.store →
      ∃ made after, (do return (path, ← view.resolve theme path) : Walk (Path × Value)).run state =
        (.ok made, after) ∧ after.Sound view.store := by
    intro path member state sound
    obtain ⟨fits, value, denotes⟩ := each path member
    have found : ((view.resolve theme path).run state).1 = .ok value :=
      (outcome_eq_ok_iff sound fits).mpr denotes
    have run : (view.resolve theme path).run state =
        (.ok value, ((view.resolve theme path).run state).2) := Prod.ext found rfl
    refine ⟨(path, value), ((view.resolve theme path).run state).2, ?_,
      Cache.Sound.resolve sound path⟩
    rw [run_bind_ok run]
    rfl
  exact exists_run_mapM_eq_ok resolved sound

theorem View.exists_run_utilitySheet {view : View} {theme : Theme} {cache : Cache}
    (sound : cache.Sound view.store)
    (each : ∀ path ∈ view.store.visiblePaths theme, Fits view.store theme path view.allowance ∧
      ∃ value, Denotes view.store theme path value) :
    ∃ css after, (view.utilitySheet theme).run cache = (.ok css, after) := by
  have under : ∀ head, ∀ path ∈ view.below head theme,
      Fits view.store theme path view.allowance ∧ ∃ value, Denotes view.store theme path value :=
    fun head path member => each path (List.mem_of_mem_filter member)
  rcases View.exists_run_namespaceValues sound (under "color") with ⟨colored, _, first, sound⟩
  rcases View.exists_run_namespaceValues sound (under "spacing") with ⟨spaced, _, second, sound⟩
  rcases View.exists_run_namespaceValues sound (under "typography") with ⟨sized, after, third, _⟩
  have made : ∃ rules, (view.utilityRules theme).run cache = (.ok rules, after) := by
    rw [View.utilityRules, run_bind_ok first, run_bind_ok second, run_bind_ok third]
    exact ⟨_, rfl⟩
  rcases made with ⟨rules, run⟩
  rw [View.utilitySheet, run_bind_ok run]
  exact ⟨_, after, rfl⟩

theorem utilityText_eq (rules : List Rule) :
    "\n\n".intercalate (rules.map Rule.text ++ visibilityTexts) =
      "\n\n".intercalate (
        rules.map (fun rule => rule.selector ++ " \x7b\n" ++
          "\n".intercalate (rule.declarations.map fun declaration =>
            "  " ++ declaration.property ++ ": " ++ declaration.value ++ ";") ++ "\n\x7d") ++
        [("sm", "576px"), ("md", "768px"), ("lg", "992px"), ("xl", "1200px")].flatMap fun screen =>
          ["@media (max-width: " ++ screen.2 ++ ") \x7b\n  .hidden-" ++ screen.1 ++
            "-down \x7b\n    display: none !important;\n  \x7d\n\x7d",
          "@media (min-width: " ++ screen.2 ++ ") \x7b\n  .hidden-" ++ screen.1 ++
            "-up \x7b\n    display: none !important;\n  \x7d\n\x7d"]) := by
  rw [← funext ruleText_eq]
  have hidden : visibilityTexts =
      [("sm", "576px"), ("md", "768px"), ("lg", "992px"), ("xl", "1200px")].flatMap fun screen =>
        ["@media (max-width: " ++ screen.2 ++ ") \x7b\n  .hidden-" ++ screen.1 ++
          "-down \x7b\n    display: none !important;\n  \x7d\n\x7d",
        "@media (min-width: " ++ screen.2 ++ ") \x7b\n  .hidden-" ++ screen.1 ++
          "-up \x7b\n    display: none !important;\n  \x7d\n\x7d"] := by
    decide +kernel
  rw [hidden]

theorem View.utilityListing_eq {view : View} {theme : Theme} {colored spaced sized : List Path}
    (first : view.below colors.head theme = colored)
    (second : view.below spacing.head theme = spaced)
    (third : view.below fontSizes.head theme = sized) (value : Path → Value) :
    view.utilityListing theme value =
      colored.flatMap (fun path => colors.rules path (value path)) ++
        (spaced.flatMap (fun path => spacing.rules path (value path)) ++
          sized.flatMap fun path => fontSizes.rules path (value path)) := by
  subst first second third
  simp only [utilityListing, families, Family.listing, List.flatMap_cons, List.flatMap_nil,
    List.append_nil]

/-- The classes of a sheet are those of the tokens below three first segments.  No two of its
rules set one property of one class if and only if no two colours and no two distances become
the same word with dashes for dots, and no two font sizes keep the same name without the segments
that speak of sizes.  Then every property of a class is set by one token. -/
theorem utilitySheet_classes {view : View} {cache after : Cache}
    (memory : MemoryOf view.store cache) {theme : Theme} (long : view.config.minify = false)
    {css : String} (run : (view.utilitySheet theme).run cache = (.ok css, after)) :
    ∃ value rules,
      (∀ family ∈ families, ∀ path ∈ view.below family.head theme,
        Denotes view.store theme path (value path)) ∧
      rules = view.utilityListing theme value ∧
      css = "\n\n".intercalate (
        rules.map (fun rule => rule.selector ++ " \x7b\n" ++
          "\n".intercalate (rule.declarations.map fun declaration =>
            "  " ++ declaration.property ++ ": " ++ declaration.value ++ ";") ++ "\n\x7d") ++
        [("sm", "576px"), ("md", "768px"), ("lg", "992px"), ("xl", "1200px")].flatMap fun screen =>
          ["@media (max-width: " ++ screen.2 ++ ") \x7b\n  .hidden-" ++ screen.1 ++
            "-down \x7b\n    display: none !important;\n  \x7d\n\x7d",
          "@media (min-width: " ++ screen.2 ++ ") \x7b\n  .hidden-" ++ screen.1 ++
            "-up \x7b\n    display: none !important;\n  \x7d\n\x7d"]) ∧
      (∀ selector property text,
        (∃ rule ∈ rules, rule.selector = selector ∧ ⟨property, text⟩ ∈ rule.declarations) ↔
          ∃ path, view.Sets theme path selector property text) ∧
      (Unambiguous rules ↔ view.TellsApart theme colors Path.dashed ∧
        view.TellsApart theme spacing Path.dashed ∧
        view.TellsApart theme fontSizes Path.sizeName) ∧
      ((∀ path raw, Shows view.store theme path raw → path.Dashless) →
        (Unambiguous rules ↔ view.TellsApart theme fontSizes Path.sizeSegments)) ∧
      (Unambiguous rules → ∀ path other selector property text next,
        view.Sets theme path selector property text →
          view.Sets theme other selector property next → path = other ∧ text = next) := by
  rcases View.exists_value view theme with ⟨value, only⟩
  rcases run_bind_eq_ok run with ⟨rules, middle, first, last⟩
  rcases View.run_utilityRules only memory.sound first with ⟨resolved, rfl⟩
  have named := View.unambiguous_utilityListing_iff only resolved
  have apart : Unambiguous (view.utilityListing theme value) ↔
      view.TellsApart theme colors Path.dashed ∧ view.TellsApart theme spacing Path.dashed ∧
        view.TellsApart theme fontSizes Path.sizeName := by
    rw [named, ← View.tellsApart_utilityName_iff colors, ← View.tellsApart_utilityName_iff spacing]
    simp only [families, List.forall_mem_cons, List.not_mem_nil, false_implies, implies_true,
      and_true]
    rfl
  refine ⟨value, _, resolved, rfl, ?_, fun _ _ _ => View.exists_declared_iff only resolved, apart,
    ?_, ?_⟩
  · have written := Except.ok.inj (congrArg Prod.fst last)
    rw [← written, finished, long, ← utilityText_eq]
    rfl
  · intro dashless
    have plain : ∀ {family path text}, view.Serves theme family path text → path.Dashless := by
      intro family path text serves
      obtain ⟨raw, shows⟩ := serves.shows
      exact dashless path raw shows
    have dashed : ∀ family, view.TellsApart theme family Path.dashed :=
      fun family path other text next serves serving =>
        Path.eq_of_dashed (plain serves) (plain serving)
    rw [apart, and_iff_right (dashed colors), and_iff_right (dashed spacing)]
    exact View.TellsApart.congr fun path other text next serves serving =>
      Path.sizeName_eq_iff (plain serves) (plain serving)
  · intro clear path other selector property text next sets again
    exact sets.unique (named.mp clear) again

namespace Classes

abbrev below (head : String) (rest : List String)
    (valid : ∀ segment ∈ head :: rest, isSegment segment = true) : Path :=
  ⟨head :: rest, List.cons_ne_nil _ _, valid⟩

def red : Color := ⟨255, 0, 0, 1⟩
def blue : Color := ⟨0, 0, 255, 1⟩

def view (pairs : List (Path × Value)) : View :=
  ⟨Store.empty.setAll pairs .light, {}, .usual⟩

theorem resolved {view : View} {path : Path} {value : Value}
    (shown : view.store.visible? path .light = some value) (simple : value.isScalar = true) :
    Fits view.store .light path view.allowance ∧ ∃ value, Denotes view.store .light path value := by
  have denotes := denotes_of_visible? shown simple
  exact ⟨denotes.fits_of_isScalar simple view.allowance, value, denotes⟩

theorem valid_gap : ∀ segment ∈ ["spacing", "md"], isSegment segment = true := by decide

abbrev primary : Path := below "color" ["primary"] (by decide)
abbrev gap : Path := below "spacing" ["md"] valid_gap
abbrev large : Path := below "typography" ["font_size", "lg"] (by decide)

abbrev plain : View :=
  view [(primary, .color red), (gap, .dimension 16 .px), (large, .dimension 18 .px)]

abbrev nested : Path := below "color" ["a", "b"] (by decide)
abbrev flat : Path := below "color" ["a-b"] (by decide)
abbrev size : Path := below "typography" ["size", "lg"] (by decide)

abbrev doubled : View :=
  view [(nested, .color red), (flat, .color blue), (size, .dimension 12 .px),
    (large, .dimension 18 .px)]

end Classes

open Classes in
theorem utilitySheet_classes_plain :
    ∃ css after rules, (plain.utilitySheet .light).run Table.empty = (.ok css, after) ∧
      css = "\n\n".intercalate [
        ".text-primary \x7b\n  color: #ff0000;\n\x7d",
        ".bg-primary \x7b\n  background-color: #ff0000;\n\x7d",
        ".border-primary \x7b\n  border-color: #ff0000;\n\x7d",
        ".m-md \x7b\n  margin: 16px;\n\x7d",
        ".p-md \x7b\n  padding: 16px;\n\x7d",
        ".mx-md \x7b\n  margin-left: 16px;\n  margin-right: 16px;\n\x7d",
        ".my-md \x7b\n  margin-top: 16px;\n  margin-bottom: 16px;\n\x7d",
        ".px-md \x7b\n  padding-left: 16px;\n  padding-right: 16px;\n\x7d",
        ".py-md \x7b\n  padding-top: 16px;\n  padding-bottom: 16px;\n\x7d",
        ".text-lg \x7b\n  font-size: 18px;\n\x7d",
        "@media (max-width: 576px) \x7b\n  .hidden-sm-down \x7b\n    display: none !important;\n  \x7d\n\x7d",
        "@media (min-width: 576px) \x7b\n  .hidden-sm-up \x7b\n    display: none !important;\n  \x7d\n\x7d",
        "@media (max-width: 768px) \x7b\n  .hidden-md-down \x7b\n    display: none !important;\n  \x7d\n\x7d",
        "@media (min-width: 768px) \x7b\n  .hidden-md-up \x7b\n    display: none !important;\n  \x7d\n\x7d",
        "@media (max-width: 992px) \x7b\n  .hidden-lg-down \x7b\n    display: none !important;\n  \x7d\n\x7d",
        "@media (min-width: 992px) \x7b\n  .hidden-lg-up \x7b\n    display: none !important;\n  \x7d\n\x7d",
        "@media (max-width: 1200px) \x7b\n  .hidden-xl-down \x7b\n    display: none !important;\n  \x7d\n\x7d",
        "@media (min-width: 1200px) \x7b\n  .hidden-xl-up \x7b\n    display: none !important;\n  \x7d\n\x7d"] ∧
      rules = [⟨".text-primary", [⟨"color", "#ff0000"⟩]⟩,
        ⟨".bg-primary", [⟨"background-color", "#ff0000"⟩]⟩,
        ⟨".border-primary", [⟨"border-color", "#ff0000"⟩]⟩, ⟨".m-md", [⟨"margin", "16px"⟩]⟩,
        ⟨".p-md", [⟨"padding", "16px"⟩]⟩,
        ⟨".mx-md", [⟨"margin-left", "16px"⟩, ⟨"margin-right", "16px"⟩]⟩,
        ⟨".my-md", [⟨"margin-top", "16px"⟩, ⟨"margin-bottom", "16px"⟩]⟩,
        ⟨".px-md", [⟨"padding-left", "16px"⟩, ⟨"padding-right", "16px"⟩]⟩,
        ⟨".py-md", [⟨"padding-top", "16px"⟩, ⟨"padding-bottom", "16px"⟩]⟩,
        ⟨".text-lg", [⟨"font-size", "18px"⟩]⟩] ∧
      Unambiguous rules := by
  have visible : plain.store.visiblePaths .light = [primary, gap, large] := by decide
  have dashless : ∀ path raw, Shows plain.store .light path raw → path.Dashless := by
    intro path raw shows
    have known := Store.mem_visiblePaths_iff.mpr ⟨raw, shows⟩
    have each : ∀ path ∈ [primary, gap, large], ∀ segment ∈ path.segments,
        '-' ∉ segment.toList := by decide
    exact each path (visible ▸ known)
  have alone : plain.TellsApart .light fontSizes Path.sizeSegments := by
    have sized : plain.below fontSizes.head .light = [large] := by decide
    have only : ∀ {path text}, plain.Serves .light fontSizes path text → path = large := by
      intro path text serves
      have member := View.mem_below_iff.mpr ⟨serves.shows, serves.1, serves.2.1⟩
      rw [sized] at member
      exact List.mem_singleton.mp member
    exact fun path other text next serves serving _ => (only serves).trans (only serving).symm
  have made : ∃ css after, (plain.utilitySheet .light).run Table.empty = (.ok css, after) := by
    refine View.exists_run_utilitySheet (Cache.sound_empty plain.store) ?_
    rw [visible]
    simp only [List.forall_mem_cons, List.not_mem_nil, false_implies, implies_true, and_true]
    exact ⟨resolved rfl rfl, resolved rfl rfl, resolved rfl rfl⟩
  rcases made with ⟨css, after, run⟩
  rcases utilitySheet_classes (MemoryOf.empty plain.store) rfl run with
    ⟨value, rules, denotes, listed, written, _, _, apart, _⟩
  have colored : plain.below colors.head .light = [primary] := by decide
  have spaced : plain.below spacing.head .light = [gap] := by decide
  have sized : plain.below fontSizes.head .light = [large] := by decide
  simp only [families, List.forall_mem_cons, colored, spaced, sized] at denotes
  have red : value primary = .color red := denotes.1.1.unique (denotes_of_visible? rfl rfl)
  have wide : value gap = .dimension 16 .px := denotes.2.1.1.unique (denotes_of_visible? rfl rfl)
  have big : value large = .dimension 18 .px := denotes.2.2.1.1.unique (denotes_of_visible? rfl rfl)
  rw [View.utilityListing_eq colored spaced sized] at listed
  simp only [List.flatMap_cons, List.flatMap_nil, red, wide, big] at listed
  refine ⟨css, after, rules, run, ?_, ?_, (apart dashless).mpr alone⟩
  · rw [written, listed]
    decide +kernel
  · rw [listed]
    decide +kernel

open Classes in
/-- Two colours make the same classes, and two font sizes do, with different values. -/
theorem utilitySheet_classes_clash :
    ∃ rules after, (doubled.utilitySheet .light).run Table.empty =
        (.ok ("\n\n".intercalate ([
          ".text-a-b \x7b\n  color: #ff0000;\n\x7d",
          ".bg-a-b \x7b\n  background-color: #ff0000;\n\x7d",
          ".border-a-b \x7b\n  border-color: #ff0000;\n\x7d",
          ".text-a-b \x7b\n  color: #0000ff;\n\x7d",
          ".bg-a-b \x7b\n  background-color: #0000ff;\n\x7d",
          ".border-a-b \x7b\n  border-color: #0000ff;\n\x7d",
          ".text-lg \x7b\n  font-size: 12px;\n\x7d",
          ".text-lg \x7b\n  font-size: 18px;\n\x7d"] ++ visibilityTexts)), after) ∧
      rules = [⟨".text-a-b", [⟨"color", "#ff0000"⟩]⟩, ⟨".bg-a-b", [⟨"background-color", "#ff0000"⟩]⟩,
        ⟨".border-a-b", [⟨"border-color", "#ff0000"⟩]⟩, ⟨".text-a-b", [⟨"color", "#0000ff"⟩]⟩,
        ⟨".bg-a-b", [⟨"background-color", "#0000ff"⟩]⟩,
        ⟨".border-a-b", [⟨"border-color", "#0000ff"⟩]⟩, ⟨".text-lg", [⟨"font-size", "12px"⟩]⟩,
        ⟨".text-lg", [⟨"font-size", "18px"⟩]⟩] ∧
      ¬ Unambiguous rules := by
  have visible : doubled.store.visiblePaths .light = [nested, flat, size, large] := by decide
  have made : ∃ css after, (doubled.utilitySheet .light).run Table.empty = (.ok css, after) := by
    refine View.exists_run_utilitySheet (Cache.sound_empty doubled.store) ?_
    rw [visible]
    simp only [List.forall_mem_cons, List.not_mem_nil, false_implies, implies_true, and_true]
    exact ⟨resolved rfl rfl, resolved rfl rfl, resolved rfl rfl, resolved rfl rfl⟩
  rcases made with ⟨css, after, run⟩
  rcases View.exists_value doubled .light with ⟨value, only⟩
  rcases run_bind_eq_ok run with ⟨rules, middle, first, last⟩
  rcases View.run_utilityRules only (Cache.sound_empty doubled.store) first with ⟨_, listed⟩
  have written := Except.ok.inj (congrArg Prod.fst last)
  have colored : doubled.below colors.head .light = [nested, flat] := by decide
  have spaced : doubled.below spacing.head .light = [] := by decide
  have sized : doubled.below fontSizes.head .light = [size, large] := by decide
  have listing := View.utilityListing_eq colored spaced sized value
  simp only [List.flatMap_cons, List.flatMap_nil] at listing
  rw [← only nested _ (denotes_of_visible? rfl rfl : Denotes _ _ _ (.color red)),
    ← only flat _ (denotes_of_visible? rfl rfl : Denotes _ _ _ (.color blue)),
    ← only size _ (denotes_of_visible? rfl rfl : Denotes _ _ _ (.dimension 12 .px)),
    ← only large _ (denotes_of_visible? rfl rfl : Denotes _ _ _ (.dimension 18 .px))] at listing
  have reds : colors.rules nested (.color red) = [⟨".text-a-b", [⟨"color", "#ff0000"⟩]⟩,
      ⟨".bg-a-b", [⟨"background-color", "#ff0000"⟩]⟩,
      ⟨".border-a-b", [⟨"border-color", "#ff0000"⟩]⟩] := by decide +kernel
  have blues : colors.rules flat (.color blue) = [⟨".text-a-b", [⟨"color", "#0000ff"⟩]⟩,
      ⟨".bg-a-b", [⟨"background-color", "#0000ff"⟩]⟩,
      ⟨".border-a-b", [⟨"border-color", "#0000ff"⟩]⟩] := by decide +kernel
  have small : fontSizes.rules size (.dimension 12 .px) =
      [⟨".text-lg", [⟨"font-size", "12px"⟩]⟩] := by decide +kernel
  have big : fontSizes.rules large (.dimension 18 .px) =
      [⟨".text-lg", [⟨"font-size", "18px"⟩]⟩] := by decide +kernel
  rw [reds, blues, small, big] at listing
  refine ⟨rules, after, ?_, listed.trans listing, ?_⟩
  · rw [run, ← written, listed, listing]
    rfl
  · rw [listed, listing]
    intro clear
    refine (List.pairwise_cons.mp clear).1 ⟨".text-a-b", [⟨"color", "#0000ff"⟩]⟩ (by simp) ?_
    exact ⟨rfl, _, List.mem_singleton_self _, _, List.mem_singleton_self _, rfl⟩

end DesignTokens
