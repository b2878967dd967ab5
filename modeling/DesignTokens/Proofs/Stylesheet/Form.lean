import DesignTokens.Proofs.Stylesheet.Sheet
import DesignTokens.Proofs.Stylesheet.Titles

/-!
The settings that ask for short sheets.  They change the form of a sheet and nothing else: what
is made under them is the short form of what is made without, though the titles are left out
already where the lines are made.
-/

namespace DesignTokens

open Stylesheet

namespace View

def minifying (view : View) (minify : Bool) : View :=
  { view with config := { view.config with minify } }

def Tame (view : View) (theme : Theme) (paths : List Path) : Prop :=
  ∀ path ∈ paths, ∀ text, view.Renders theme path text → EndsOutside text

end View

/-- Two computations fail alike, and if the values are tame, one gives the short form of what
the other gives. -/
def Shortens (tame : Prop) (long short : Walk String) (cache : Cache) : Prop :=
  (∀ error after, short.run cache = (.error error, after) ↔
    long.run cache = (.error error, after)) ∧
  (tame → short.run cache = ((long.run cache).1.map minified, (long.run cache).2))

namespace Shortens

variable {tame : Prop}

theorem bind {α : Type} {first : Walk α} {long short : α → Walk String} {cache : Cache}
    (each : ∀ value middle, first.run cache = (.ok value, middle) →
      Shortens tame (long value) (short value) middle) :
    Shortens tame (first >>= long) (first >>= short) cache := by
  rcases run : first.run cache with ⟨result, middle⟩
  cases result with
  | error error =>
      rw [Shortens, run_bind_error run, run_bind_error run]
      exact ⟨fun _ _ => Iff.rfl, fun _ => rfl⟩
  | ok value =>
      rw [Shortens, run_bind_ok run, run_bind_ok run]
      exact each value middle run

theorem pure {css short : String} (same : tame → short = minified css) (cache : Cache) :
    Shortens tame (pure css) (pure short) cache :=
  ⟨fun _ _ => ⟨nofun, nofun⟩,
    fun calm => congrArg (fun text => (Except.ok text, cache)) (same calm)⟩

end Shortens

namespace View

variable {view : View} {theme : Theme}

theorem calm_of_run (prefixed : isSegment view.config.propertyPrefix = true) {paths : List Path}
    {cache after : Cache} (sound : cache.Sound view.store) {sections : List Section}
    (run : (view.sections theme paths).run cache = (.ok sections, after)) :
    after.Sound view.store ∧ (view.Tame theme paths → Calm sections) := by
  rcases view.exists_text theme with ⟨text, only⟩
  rcases run_sections only sound run with ⟨kept, renders, rfl⟩
  refine ⟨kept, fun tame part member declaration declared => ?_⟩
  rcases List.mem_map.mp member with ⟨category, _, rfl⟩
  rcases List.mem_map.mp declared with ⟨path, found, rfl⟩
  have path := List.mem_of_mem_filter found
  exact whole_declaration (plain_customProperty _ prefixed) (tame _ path _ (renders _ path))

def OnlyShortens (view : View) (tame : Prop) (sheet : View → Walk String) (cache : Cache) : Prop :=
  Shortens tame (sheet (view.minifying false)) (sheet (view.minifying true)) cache

theorem whole_header : Whole header := by decide

theorem whole_transitionRule : Whole transitionRule := by decide +kernel

theorem alike_darkText {text : Config → List Section → String} {sections : List Section}
    (alike : Alike (text (view.minifying false).config sections)
      (text (view.minifying true).config sections)) :
    Alike ((view.minifying false).darkText text sections)
      ((view.minifying true).darkText text sections) := by
  change Alike (if view.darkPaths.isEmpty then "" else _) (if view.darkPaths.isEmpty then "" else _)
  split
  · exact .refl (by decide)
  · exact alike

section Sheets

variable {cache : Cache} (sound : cache.Sound view.store)
  (prefixed : isSegment view.config.propertyPrefix = true)

include sound prefixed

theorem propertyList_shortens :
    view.OnlyShortens (view.Tame theme (view.publicPaths theme)) (·.propertyList theme) cache := by
  refine Shortens.bind fun sections after run => Shortens.pure (fun tame => ?_) _
  rcases calm_of_run prefixed sound run with ⟨_, calm⟩
  exact (untitled_sectionLines view.config (calm tame) 0).lines.minified.symm

theorem rootBlock_shortens :
    view.OnlyShortens (view.Tame theme (view.publicPaths theme)) (·.rootBlock theme) cache := by
  refine Shortens.bind fun sections after run => Shortens.pure (fun tame => ?_) _
  rcases calm_of_run prefixed sound run with ⟨_, calm⟩
  exact (alike_rootText view.config (calm tame)).minified.symm

theorem darkMediaBlock_shortens :
    view.OnlyShortens (view.Tame .dark view.darkPaths) (·.darkMediaBlock) cache := by
  refine Shortens.bind fun sections after run => Shortens.pure (fun tame => ?_) _
  rcases calm_of_run prefixed sound run with ⟨_, calm⟩
  exact (alike_darkText (alike_darkMediaText view.config (calm tame))).minified.symm

theorem exportedVariables_shortens :
    view.OnlyShortens (view.Tame theme (view.publicPaths theme) ∧ view.Tame .dark view.darkPaths)
      (·.exportedVariables theme) cache := by
  refine Shortens.bind fun sections middle run => Shortens.bind fun dark after runDark =>
    Shortens.pure (fun tame => ?_) _
  rcases calm_of_run prefixed sound run with ⟨kept, calm⟩
  rcases calm_of_run prefixed kept runDark with ⟨_, calmDark⟩
  have root := alike_rootText view.config (calm tame.1)
  have media := alike_darkText (alike_darkMediaText view.config (calmDark tame.2))
  have blocks := alike_blocksText (.cons (.refl whole_header) (.cons root (.cons media .nil)))
  exact blocks.minified.symm

theorem themeSheet_shortens :
    view.OnlyShortens (view.Tame theme (view.publicPaths theme) ∧ view.Tame .dark view.darkPaths)
      (·.themeSheet theme) cache := by
  refine Shortens.bind fun sections middle run => Shortens.bind fun preferred later runDark =>
    Shortens.bind fun chosen after runClass => Shortens.pure (fun tame => ?_) _
  rcases calm_of_run prefixed sound run with ⟨kept, calm⟩
  rcases calm_of_run prefixed kept runDark with ⟨again, calmDark⟩
  rcases calm_of_run prefixed again runClass with ⟨_, calmClass⟩
  have root := alike_rootText view.config (calm tame.1)
  have media := alike_darkText (alike_darkMediaText view.config (calmDark tame.2))
  have byClass := alike_darkText (alike_darkClassText view.config (calmClass tame.2))
  have blocks := alike_blocksText (.cons (.refl whole_header) (.cons root (.cons media
    (.cons byClass (.cons (.refl whole_transitionRule) .nil)))))
  exact blocks.minified.symm

end Sheets

end View

/-- Settings that ask for short sheets change neither what fails nor how, and where no value runs
on into the text behind it, each sheet that is made under them is the short form of the sheet
that is made without. -/
theorem minify_form_only {view : View} {cache : Cache} (memory : MemoryOf view.store cache)
    (prefixed : isSegment view.config.propertyPrefix = true) (theme : Theme) :
    let tame := view.Tame theme (view.publicPaths theme)
    let tameDark := view.Tame .dark view.darkPaths
    view.OnlyShortens tame (·.propertyList theme) cache ∧
      view.OnlyShortens tame (·.rootBlock theme) cache ∧
      view.OnlyShortens tameDark (·.darkMediaBlock) cache ∧
      view.OnlyShortens (tame ∧ tameDark) (·.exportedVariables theme) cache ∧
      view.OnlyShortens (tame ∧ tameDark) (·.themeSheet theme) cache :=
  ⟨View.propertyList_shortens memory.sound prefixed, View.rootBlock_shortens memory.sound prefixed,
    View.darkMediaBlock_shortens memory.sound prefixed,
    View.exportedVariables_shortens memory.sound prefixed,
    View.themeSheet_shortens memory.sound prefixed⟩

namespace Remark

abbrev remark : Path := .single "remark" (by decide)

def tokens : Store :=
  (Store.empty.setAll [(remark, .string "\"a; b\" \x7d\n// it's")] .light).setAll
    [(remark, .string "'0px' /* \" */")] .dark

def view : View :=
  ⟨tokens, {}, .unlimited⟩

theorem renders {theme : Theme} {path : Path} {text : String}
    (shown : tokens.visible? path theme = some (.string text)) :
    view.Renders theme path text :=
  .resolved (.shown (visible?_eq_some_iff.mp shown) (.scalar rfl)) rfl

theorem written {theme : Theme} {text : String}
    (shown : tokens.visible? remark theme = some (.string text)) :
    ∀ path ∈ [remark], Fits view.store theme path view.allowance ∧
      ∃ text, view.Renders theme path text := by
  intro path member
  obtain rfl := List.mem_singleton.mp member
  exact ⟨fits_unlimited remark, text, renders shown⟩

theorem tame {theme : Theme} {text : String}
    (shown : tokens.visible? remark theme = some (.string text)) (ends : EndsOutside text) :
    view.Tame theme [remark] := by
  intro path member other again
  obtain rfl := List.mem_singleton.mp member
  rw [again.unique (renders shown)]
  exact ends

end Remark

open Remark in
theorem minify_form_only_remark :
    isSegment view.config.propertyPrefix = true ∧ view.Tame .light (view.publicPaths .light) ∧
      view.Tame .dark view.darkPaths ∧
      ∃ css after, ((view.minifying false).themeSheet .light).run Table.empty = (.ok css, after) ∧
        ((view.minifying true).themeSheet .light).run Table.empty = (.ok (minified css), after) := by
  have rooted : view.publicPaths .light = [remark] := by decide
  have darkened : view.darkPaths = [remark] := by decide
  have prefixed : isSegment view.config.propertyPrefix = true := by decide
  have light : view.Tame .light (view.publicPaths .light) := rooted ▸ tame rfl (by decide)
  have dark : view.Tame .dark view.darkPaths := darkened ▸ tame rfl (by decide)
  have made : ∃ css after, (view.themeSheet .light).run Table.empty = (.ok css, after) :=
    exists_run_themeSheet (Cache.sound_empty tokens) (rooted ▸ written rfl) (darkened ▸ written rfl)
  rcases made with ⟨css, after, run⟩
  have memory : MemoryOf view.store Table.empty := MemoryOf.empty tokens
  rcases minify_form_only memory prefixed .light with ⟨_, _, _, _, _, shortens⟩
  have long : ((view.minifying false).themeSheet .light).run Table.empty = (.ok css, after) := run
  have short := shortens ⟨light, dark⟩
  rw [long] at short
  exact ⟨prefixed, light, dark, css, after, long, short⟩

end DesignTokens
