import Mathlib.Data.List.Perm.Basic
import DesignTokens.Proofs.Stylesheet.Token
import DesignTokens.Proofs.TokenSystem.Transparency
import DesignTokens.Stylesheet.Variables

/-!
What a style sheet declares: every public path of the theme once, and every public dark
value once in each of the two dark blocks, in the section of its category.
-/

namespace DesignTokens

open Stylesheet

theorem perm_flatMap_filter {α κ : Type} [DecidableEq κ] (key : α → κ) (values : List α)
    {keys : List κ} (distinct : keys.Nodup) :
    (keys.flatMap fun one => values.filter (key · = one)).Perm
      (values.filter (key · ∈ keys)) := by
  induction keys with
  | nil => simp
  | cons first rest ih =>
      have apart := List.nodup_cons.mp distinct
      have mine : (values.filter (key · ∈ first :: rest)).filter (key · = first) =
          values.filter (key · = first) := by
        rw [List.filter_filter]
        refine List.filter_congr fun value _ => ?_
        simp only [List.mem_cons, ← Bool.decide_and, decide_eq_decide]
        tauto
      have others : (values.filter (key · ∈ first :: rest)).filter
          (fun value => !decide (key value = first)) = values.filter (key · ∈ rest) := by
        rw [List.filter_filter]
        refine List.filter_congr fun value _ => ?_
        by_cases same : key value = first
        · simp [same, apart.1]
        · simp [same]
      rw [List.flatMap_cons]
      refine ((ih apart.2).append_left _).trans ?_
      rw [← mine, ← others]
      exact List.filter_append_perm _ _

theorem perm_byCategory (paths : List Path) :
    (Category.all.flatMap fun category => paths.filter (·.category = category)).Perm paths := by
  have grouped := perm_flatMap_filter Path.category paths (show Category.all.Nodup by decide)
  have all : paths.filter (fun path => path.category ∈ Category.all) = paths :=
    List.filter_eq_self.mpr fun path _ => decide_eq_true (Category.mem_all path.category)
  rwa [all] at grouped

namespace View

def listing (view : View) (text : Path → String) (paths : List Path) : List Section :=
  Category.all.map fun category =>
    ⟨category, (paths.filter (·.category = category)).map fun path =>
      ⟨view.propertyOf path, text path⟩⟩

/-- Sections that declare these paths and no others: each path once, in the section of its
category and there in their order, with its property and its text. -/
structure Declares (view : View) (theme : Theme) (paths : List Path) (sections : List Section) :
    Prop where
  once : paths.Nodup
  grouped : ∃ text : Path → String, (∀ path ∈ paths, view.Renders theme path (text path)) ∧
    sections = view.listing text paths ∧
    (sections.flatMap (·.declarations)).Perm
      (paths.map fun path => ⟨view.propertyOf path, text path⟩)

theorem perm_listing (view : View) (text : Path → String) (paths : List Path) :
    ((view.listing text paths).flatMap (·.declarations)).Perm
      (paths.map fun path => ⟨view.propertyOf path, text path⟩) := by
  have mapped := (perm_byCategory paths).map fun path => Declaration.mk (view.propertyOf path) (text path)
  rw [List.map_flatMap] at mapped
  rwa [listing, List.flatMap_map]

variable {view : View} {theme : Theme}

theorem exists_text (view : View) (theme : Theme) :
    ∃ text : Path → String, ∀ path other, view.Renders theme path other → other = text path := by
  have each : ∀ path, ∃ text, ∀ other, view.Renders theme path other → other = text := by
    intro path
    by_cases written : ∃ text, view.Renders theme path text
    · rcases written with ⟨text, renders⟩
      exact ⟨text, fun other again => again.unique renders⟩
    · exact ⟨"", fun other renders => absurd ⟨other, renders⟩ written⟩
  choose text only using each
  exact ⟨text, only⟩

theorem run_sections {text : Path → String}
    (only : ∀ path other, view.Renders theme path other → other = text path)
    {paths : List Path} {cache after : Cache} (sound : cache.Sound view.store)
    {sections : List Section} (run : (view.sections theme paths).run cache = (.ok sections, after)) :
    after.Sound view.store ∧ (∀ path ∈ paths, view.Renders theme path (text path)) ∧
      sections = view.listing text paths := by
  have grouped : ∀ {category made state after}, Cache.Sound state view.store →
      (view.sectionOf theme paths category).run state = (.ok made, after) →
      Cache.Sound after view.store ∧
        (∀ path ∈ paths.filter (·.category = category), view.Renders theme path (text path)) ∧
        made = ⟨category, (paths.filter (·.category = category)).map fun path =>
          ⟨view.propertyOf path, text path⟩⟩ := by
    intro category made state after sound run
    rcases run_bind_eq_ok run with ⟨declarations, middle, first, last⟩
    obtain ⟨same, rfl⟩ := Prod.mk.inj last
    obtain rfl := Except.ok.inj same
    rcases run_mapM_tokenText only sound first with ⟨kept, renders, rfl⟩
    exact ⟨kept, renders, rfl⟩
  rcases run_mapM_eq_ok grouped sound run with ⟨kept, renders, rfl⟩
  refine ⟨kept, fun path member => ?_, rfl⟩
  exact renders path.category (Category.mem_all _) path (List.mem_filter.mpr ⟨member, by simp⟩)

theorem exists_run_sections {paths : List Path} {cache : Cache} (sound : cache.Sound view.store)
    (each : ∀ path ∈ paths, Fits view.store theme path view.allowance ∧
      ∃ text, view.Renders theme path text) :
    ∃ sections after, (view.sections theme paths).run cache = (.ok sections, after) ∧
      after.Sound view.store := by
  refine exists_run_mapM_eq_ok (fun category _ state sound => ?_) sound
  have members : ∀ path ∈ paths.filter (·.category = category),
      Fits view.store theme path view.allowance ∧ ∃ text, view.Renders theme path text :=
    fun path member => each path (List.mem_of_mem_filter member)
  rcases exists_run_mapM_tokenText sound members with ⟨declarations, after, run, kept⟩
  refine ⟨⟨category, declarations⟩, after, ?_, kept⟩
  rw [sectionOf, run_bind_ok run]
  rfl

def ShowsDark (view : View) : Prop :=
  view.config.enableDarkTheme = true ∧
    ∃ path value, view.store.get? path .dark = some value ∧ path.isPrivate = false

def publicDarkPaths (view : View) : List Path :=
  (view.store.paths .dark).filter (!·.isPrivate)

theorem mem_publicDarkPaths_iff {path : Path} :
    path ∈ view.publicDarkPaths ↔
      (∃ value, view.store.get? path .dark = some value) ∧ path.isPrivate = false := by
  rw [publicDarkPaths, List.mem_filter, Store.mem_paths_iff]
  simp

theorem nodup_publicDarkPaths (view : View) : view.publicDarkPaths.Nodup :=
  (Store.nodup_paths view.store .dark).filter _

theorem darkPaths_eq (wanted : view.config.enableDarkTheme = true) :
    view.darkPaths = view.publicDarkPaths := by
  rw [darkPaths, if_pos wanted, publicDarkPaths]

theorem showsDark_iff : view.ShowsDark ↔ view.darkPaths.isEmpty = false := by
  by_cases wanted : view.config.enableDarkTheme = true
  · rw [darkPaths_eq wanted, List.isEmpty_eq_false_iff_exists_mem]
    simp only [ShowsDark, wanted, true_and, mem_publicDarkPaths_iff, exists_and_right]
  · simp [ShowsDark, darkPaths, wanted]

end View

/-- The lines that declare a section: its title in a comment, if it is to have one, and one line
for each property, all behind the same blanks. -/
def Stylesheet.Section.spelled (titled : Bool) (pad : String) (part : Section) : List String :=
  (if titled && !part.declarations.isEmpty then [pad ++ "/* " ++ part.category.title ++ " */"]
    else []) ++
    part.declarations.map fun declaration =>
      pad ++ declaration.property ++ ": " ++ declaration.value ++ ";"

theorem lines_eq_spelled (titled : Bool) (indent : Nat) (part : Section) :
    part.lines titled indent =
      part.spelled titled (String.ofList (List.replicate indent ' ')) := by
  have declared : ∀ (pad : String) (declaration : Declaration), pad ++ declaration.text =
      pad ++ declaration.property ++ ": " ++ declaration.value ++ ";" := by
    simp [Declaration.text, String.append_assoc]
  simp only [Section.lines, Section.spelled, declared]
  cases empty : part.declarations with
  | nil => simp
  | cons first rest => simp

theorem sectionLines_eq_spelled (config : Config) (indent : Nat) (sections : List Section) :
    sectionLines config indent sections =
      sections.flatMap (Section.spelled (!config.minify)
        (String.ofList (List.replicate indent ' '))) := by
  rw [sectionLines, funext (lines_eq_spelled (!config.minify) indent)]

theorem rootText_eq (config : Config) (sections : List Section) :
    rootText config sections =
      "\n".intercalate ([":root \x7b"] ++
        sections.flatMap (Section.spelled (!config.minify) "  ") ++ ["\x7d"]) := by
  rw [rootText, sectionLines_eq_spelled]
  rfl

theorem darkMediaText_eq (config : Config) (sections : List Section) :
    darkMediaText config sections =
      "\n".intercalate (["@media (prefers-color-scheme: dark) \x7b", "  :root \x7b"] ++
        sections.flatMap (Section.spelled (!config.minify) "    ") ++ ["  \x7d", "\x7d"]) := by
  rw [darkMediaText, sectionLines_eq_spelled]
  rfl

theorem darkClassText_eq (config : Config) (sections : List Section) :
    darkClassText config sections =
      "\n".intercalate ([".theme-dark \x7b"] ++
        sections.flatMap (Section.spelled (!config.minify) "  ") ++ ["\x7d"]) := by
  rw [darkClassText, sectionLines_eq_spelled]
  rfl

theorem ruleText_eq (rule : Rule) :
    rule.text = rule.selector ++ " \x7b\n" ++
      "\n".intercalate (rule.declarations.map fun declaration =>
        "  " ++ declaration.property ++ ": " ++ declaration.value ++ ";") ++ "\n\x7d" := by
  simp only [Rule.text, lines, Declaration.text, String.append_assoc]

theorem isEmpty_lines_cons {first : String} (visible : first.isEmpty = false)
    (rest : List String) : (lines (first :: rest)).isEmpty = false := by
  cases rest with
  | nil => simpa [lines] using visible
  | cons second others =>
      rw [lines, String.intercalate_cons_cons]
      simp_all

theorem isEmpty_header : header.isEmpty = false := by
  simp [header]

theorem isEmpty_rootText (config : Config) (sections : List Section) :
    (rootText config sections).isEmpty = false :=
  isEmpty_lines_cons (by decide) _

theorem isEmpty_darkMediaText (config : Config) (sections : List Section) :
    (darkMediaText config sections).isEmpty = false :=
  isEmpty_lines_cons (by decide) _

theorem isEmpty_darkClassText (config : Config) (sections : List Section) :
    (darkClassText config sections).isEmpty = false :=
  isEmpty_lines_cons (by decide) _

theorem isEmpty_transitionRule : transitionRule.isEmpty = false :=
  isEmpty_lines_cons (by decide) _

theorem exists_run_themeSheet {view : View} {cache : Cache} (sound : cache.Sound view.store)
    {theme : Theme}
    (rooted : ∀ path ∈ view.publicPaths theme, Fits view.store theme path view.allowance ∧
      ∃ text, view.Renders theme path text)
    (dark : ∀ path ∈ view.darkPaths, Fits view.store .dark path view.allowance ∧
      ∃ text, view.Renders .dark path text) :
    ∃ css after, (view.themeSheet theme).run cache = (.ok css, after) := by
  rcases View.exists_run_sections sound rooted with ⟨root, cache₁, first, sound⟩
  rcases View.exists_run_sections sound dark with ⟨preferred, cache₂, second, sound⟩
  rcases View.exists_run_sections sound dark with ⟨chosen, cache₃, third, sound⟩
  rw [View.themeSheet, run_bind_ok first, run_bind_ok second, run_bind_ok third]
  exact ⟨_, cache₃, rfl⟩

/-- A style sheet that is not shortened declares the public paths of its theme in its first
block, and in two more the public paths with a dark value, if it is to show them. -/
theorem themeSheet_complete {view : View} {cache after : Cache}
    (memory : MemoryOf view.store cache) {theme : Theme} (long : view.config.minify = false)
    {css : String} (run : (view.themeSheet theme).run cache = (.ok css, after)) :
    ∃ (root dark : List Section) (darkBlocks : List String),
      view.Declares theme (view.publicPaths theme) root ∧
      (∀ path, path ∈ view.publicPaths theme ↔
        (∃ raw, Shows view.store theme path raw) ∧ path.isPrivate = false) ∧
      (view.ShowsDark → view.Declares .dark view.publicDarkPaths dark ∧
        darkBlocks = [
          "\n".intercalate (["@media (prefers-color-scheme: dark) \x7b", "  :root \x7b"] ++
            dark.flatMap (Section.spelled true "    ") ++ ["  \x7d", "\x7d"]),
          "\n".intercalate ([".theme-dark \x7b"] ++
            dark.flatMap (Section.spelled true "  ") ++ ["\x7d"])]) ∧
      (∀ path, path ∈ view.publicDarkPaths ↔
        (∃ value, view.store.get? path .dark = some value) ∧ path.isPrivate = false) ∧
      (¬ view.ShowsDark → darkBlocks = []) ∧
      css = "\n\n".intercalate (
        ["/* tokenweave design tokens - auto-generated, do not edit */",
          "\n".intercalate ([":root \x7b"] ++ root.flatMap (Section.spelled true "  ") ++
            ["\x7d"])] ++
        darkBlocks ++
        ["\n".intercalate ["*, *::before, *::after \x7b",
          "  transition: color 0.2s ease, background-color 0.2s ease, border-color 0.2s ease, box-shadow 0.2s ease;",
          "\x7d"]]) ++ "\n" := by
  rcases View.exists_text view theme with ⟨text, only⟩
  rcases View.exists_text view .dark with ⟨darkText, onlyDark⟩
  rcases run_bind_eq_ok run with ⟨root, cache₁, first, run⟩
  rcases run_bind_eq_ok run with ⟨preferred, cache₂, second, run⟩
  rcases run_bind_eq_ok run with ⟨chosen, cache₃, third, run⟩
  rcases View.run_sections only memory.sound first with ⟨sound, renders, rfl⟩
  rcases View.run_sections onlyDark sound second with ⟨again, darkRenders, rfl⟩
  rcases View.run_sections onlyDark again third with ⟨_, _, rfl⟩
  have written := Except.ok.inj (congrArg Prod.fst run)
  have titled : (!view.config.minify) = true := by rw [long, Bool.not_false]
  have rootBlock := rootText_eq view.config (view.listing text (view.publicPaths theme))
  rw [titled] at rootBlock
  simp only [finished, long, Bool.false_eq_true, if_false] at written
  have rooted : view.Declares theme (view.publicPaths theme)
      (view.listing text (view.publicPaths theme)) :=
    ⟨nodup_publicPaths view theme, text, renders, rfl, view.perm_listing _ _⟩
  by_cases dark : view.ShowsDark
  · have visible := View.showsDark_iff.mp dark
    simp only [View.darkText, visible, Bool.false_eq_true, if_false] at written
    rw [View.darkPaths_eq dark.1] at written darkRenders
    have declared : view.Declares .dark view.publicDarkPaths
        (view.listing darkText view.publicDarkPaths) :=
      ⟨view.nodup_publicDarkPaths, darkText, darkRenders, rfl, view.perm_listing _ _⟩
    have media := darkMediaText_eq view.config (view.listing darkText view.publicDarkPaths)
    have byClass := darkClassText_eq view.config (view.listing darkText view.publicDarkPaths)
    rw [titled] at media byClass
    refine ⟨_, _, _, rooted, fun _ => mem_publicPaths_iff, fun _ => ⟨declared, rfl⟩,
      fun _ => View.mem_publicDarkPaths_iff, fun light => absurd dark light, ?_⟩
    rw [← written, ← rootBlock, ← media, ← byClass]
    simp only [blocksText, isEmpty_header, isEmpty_rootText, isEmpty_darkMediaText,
      isEmpty_darkClassText, isEmpty_transitionRule, Bool.not_false, List.filter_cons,
      List.filter_nil, if_true, List.cons_append, List.nil_append]
    rw [header, transitionRule, lines]
  · have hidden : view.darkPaths.isEmpty = true := by
      rw [← Bool.not_eq_false, ← View.showsDark_iff]
      exact dark
    simp only [View.darkText, hidden, if_true] at written
    refine ⟨_, [], [], rooted, fun _ => mem_publicPaths_iff, fun shown => absurd shown dark,
      fun _ => View.mem_publicDarkPaths_iff, fun _ => rfl, ?_⟩
    have blank : ("" : String).isEmpty = true := rfl
    rw [← written, ← rootBlock]
    simp only [blocksText, isEmpty_header, isEmpty_rootText, isEmpty_transitionRule, blank,
      Bool.not_false, Bool.not_true, List.filter_cons, List.filter_nil, if_true, if_false,
      Bool.false_eq_true, List.cons_append, List.nil_append]
    rw [header, transitionRule, lines]

namespace Paper

abbrev frame : Path := .single "frame" (by decide)
abbrev color : Path := .single "color" (by decide)
abbrev internal : Path := .single "internal" (by decide)

def tokens : Store :=
  (Store.empty.setAll [(frame, .null), (color, .string "white"), (internal, .null)] .light).setAll
    [(internal, .null), (color, .string "black")] .dark

def view : View :=
  ⟨tokens, {}, .unlimited⟩

theorem blank : Fits tokens .light frame view.allowance ∧ view.Renders .light frame "initial" :=
  @View.renders_of_shown view .light frame .null _ rfl rfl rfl

theorem white : Fits tokens .light color view.allowance ∧ view.Renders .light color "white" :=
  @View.renders_of_shown view .light color (.string "white") _ rfl rfl rfl

theorem black : Fits tokens .dark color view.allowance ∧ view.Renders .dark color "black" :=
  @View.renders_of_shown view .dark color (.string "black") _ rfl rfl rfl

theorem publicPaths_eq : view.publicPaths .light = [frame, color] := by
  decide

theorem rendered : ∀ path ∈ view.publicPaths .light,
    Fits tokens .light path view.allowance ∧ ∃ text, view.Renders .light path text := by
  rw [publicPaths_eq, List.forall_mem_cons, List.forall_mem_singleton]
  exact ⟨⟨blank.1, _, blank.2⟩, white.1, _, white.2⟩

theorem root_eq {root : List Section} (declared : view.Declares .light [frame, color] root) :
    root = [⟨.colors, [⟨"--ant-color", "white"⟩]⟩, ⟨.spacing, []⟩, ⟨.typography, []⟩,
      ⟨.other, [⟨"--ant-frame", "initial"⟩]⟩] := by
  obtain ⟨text, renders, listed, _⟩ := declared.grouped
  rw [List.forall_mem_cons, List.forall_mem_singleton] at renders
  rw [listed, ← renders.1.unique blank.2, ← renders.2.unique white.2]
  rfl

theorem dark_eq {dark : List Section} (declared : view.Declares .dark [color] dark) :
    dark = [⟨.colors, [⟨"--ant-color", "black"⟩]⟩, ⟨.spacing, []⟩, ⟨.typography, []⟩,
      ⟨.other, []⟩] := by
  obtain ⟨text, renders, listed, _⟩ := declared.grouped
  rw [List.forall_mem_singleton] at renders
  rw [listed, ← renders.unique black.2]
  rfl

end Paper

open Paper in
theorem themeSheet_complete_paper :
    ∃ css after root dark, (view.themeSheet .light).run Table.empty = (.ok css, after) ∧
      view.Declares .light [frame, color] root ∧ view.Declares .dark [color] dark ∧
      css = "\n".intercalate [
        "/* tokenweave design tokens - auto-generated, do not edit */", "", ":root \x7b",
        "  /* Colors */", "  --ant-color: white;", "  /* Other */", "  --ant-frame: initial;",
        "\x7d", "", "@media (prefers-color-scheme: dark) \x7b", "  :root \x7b",
        "    /* Colors */", "    --ant-color: black;", "  \x7d", "\x7d", "", ".theme-dark \x7b",
        "  /* Colors */", "  --ant-color: black;", "\x7d", "", "*, *::before, *::after \x7b",
        "  transition: color 0.2s ease, background-color 0.2s ease, border-color 0.2s ease, box-shadow 0.2s ease;",
        "\x7d", ""] := by
  have darkened : view.publicDarkPaths = [color] := by decide
  have shown : view.ShowsDark := ⟨rfl, color, .string "black", rfl, by decide⟩
  have made : ∃ css after, (view.themeSheet .light).run Table.empty = (.ok css, after) := by
    refine exists_run_themeSheet (Cache.sound_empty tokens) rendered ?_
    rw [View.darkPaths_eq rfl, darkened, List.forall_mem_singleton]
    exact ⟨black.1, _, black.2⟩
  rcases made with ⟨css, after, run⟩
  rcases themeSheet_complete (MemoryOf.empty tokens) rfl run with
    ⟨root, dark, blocks, declared, _, shows, _, _, written⟩
  rcases shows shown with ⟨darkDeclared, rfl⟩
  rw [publicPaths_eq] at declared
  rw [darkened] at darkDeclared
  refine ⟨css, after, root, dark, run, declared, darkDeclared, written.trans ?_⟩
  rw [root_eq declared, dark_eq darkDeclared]
  decide +kernel

end DesignTokens
