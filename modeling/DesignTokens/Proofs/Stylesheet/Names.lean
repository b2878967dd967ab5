import DesignTokens.Proofs.Dtcg.Tree
import DesignTokens.Proofs.Path.Reading
import DesignTokens.Proofs.Resolution.Settled
import DesignTokens.Proofs.Stylesheet.Sheet

/-!
The names of custom properties.  Dots and dashes of a path look alike in them, and nothing
else is lost, so two tokens share a property where their paths differ in these alone.
-/

namespace DesignTokens

open Stylesheet

namespace Path

def dashed (path : Path) : String :=
  String.ofList (path.dotted.toList.map fun c => if c = '.' then '-' else c)

def Dashless (path : Path) : Prop :=
  ∀ segment ∈ path.segments, '-' ∉ segment.toList

theorem map_intercalate (f : Char → Char) (between : List Char) (texts : List (List Char)) :
    (between.intercalate texts).map f = (between.map f).intercalate (texts.map (·.map f)) := by
  induction texts with
  | nil => rfl
  | cons first rest ih =>
      cases rest with
      | nil => simp
      | cons second rest =>
          rw [List.intercalate_cons_cons, List.map_append, List.map_append, ih]
          simp only [List.map_cons, List.intercalate_cons_cons]

theorem intercalate_dash (path : Path) : "-".intercalate path.segments = path.dashed := by
  have kept : path.segments.map (fun segment => segment.toList.map fun c =>
      if c = '.' then '-' else c) = path.segments.map String.toList := by
    refine List.map_congr_left fun segment member => ?_
    refine (List.map_congr_left fun c inside => if_neg ?_).trans (List.map_id _)
    rintro rfl
    exact dot_not_mem_of_isSegment (path.valid segment member) inside
  rw [← String.toList_inj, dashed, dotted, String.toList_ofList, String.toList_intercalate,
    String.toList_intercalate, map_intercalate, List.map_map]
  exact congrArg (List.intercalate ['-']) kept.symm

theorem customProperty_eq_iff {path other : Path} (lead : String) :
    path.customProperty lead = other.customProperty lead ↔ path.dashed = other.dashed := by
  unfold customProperty
  split <;> simp only [intercalate_dash, String.append_right_inj]

/-- Segments without dashes can be read off the word that they are joined to. -/
theorem segments_eq_of_intercalate {segments others : List String} (some : segments ≠ [])
    (inhabited : others ≠ []) (first : ∀ segment ∈ segments, '-' ∉ segment.toList)
    (second : ∀ segment ∈ others, '-' ∉ segment.toList)
    (same : "-".intercalate segments = "-".intercalate others) : segments = others := by
  have split : ∀ {segments : List String}, segments ≠ [] →
      (∀ segment ∈ segments, '-' ∉ segment.toList) →
      ("-".intercalate segments).toList.splitOn '-' = segments.map String.toList := by
    intro segments some dashless
    rw [String.toList_intercalate]
    refine List.splitOn_intercalate '-' ?_ (by simpa using some)
    intro text listed
    obtain ⟨segment, member, rfl⟩ := List.mem_map.mp listed
    exact dashless segment member
  have chars : segments.map String.toList = others.map String.toList := by
    rw [← split some first, ← split inhabited second, same]
  exact List.map_injective_iff.mpr (fun _ _ => String.toList_inj.mp) chars

theorem eq_of_dashed {path other : Path} (first : path.Dashless) (second : other.Dashless)
    (same : path.dashed = other.dashed) : path = other := by
  rw [← intercalate_dash, ← intercalate_dash] at same
  exact eq_of_segments
    (segments_eq_of_intercalate path.nonempty other.nonempty first second same)

end Path

def Stylesheet.DeclareApart (sections : List Section) : Prop :=
  ((sections.flatMap (·.declarations)).map (·.property)).Nodup

/-- A root block declares each visible path once, and its properties have different names if and
only if no two of the paths become the same word with dashes for dots.  Then each property has
the value of the one token that it is named for. -/
theorem rootBlock_names {view : View} {cache after : Cache} (memory : MemoryOf view.store cache)
    {theme : Theme} {css : String} (run : (view.rootBlock theme).run cache = (.ok css, after)) :
    ∃ root block, view.Declares theme (view.publicPaths theme) root ∧
      block = "\n".intercalate ([":root \x7b"] ++
        root.flatMap (Section.spelled (!view.config.minify) "  ") ++ ["\x7d"]) ∧
      css = (if view.config.minify then minified block else block) ∧
      (∀ path other, view.propertyOf path = view.propertyOf other ↔
        path.dashed = other.dashed) ∧
      (DeclareApart root ↔
        ∀ path ∈ view.publicPaths theme, ∀ other ∈ view.publicPaths theme,
          path.dashed = other.dashed → path = other) ∧
      ((∀ path ∈ view.publicPaths theme, path.Dashless) → DeclareApart root) ∧
      (DeclareApart root → ∀ declaration ∈ root.flatMap (·.declarations),
        ∃ path ∈ view.publicPaths theme, view.Renders theme path declaration.value ∧
          ∀ other ∈ view.publicPaths theme,
            view.propertyOf other = declaration.property ↔ other = path) := by
  rcases View.exists_text view theme with ⟨text, only⟩
  rcases run_bind_eq_ok run with ⟨root, cache₁, first, last⟩
  rcases View.run_sections only memory.sound first with ⟨_, renders, rfl⟩
  have once := nodup_publicPaths view theme
  have listed := view.perm_listing text (view.publicPaths theme)
  have named : ∀ path other, view.propertyOf path = view.propertyOf other ↔
      path.dashed = other.dashed := fun path other =>
    Path.customProperty_eq_iff view.config.propertyPrefix
  have distinct : DeclareApart (view.listing text (view.publicPaths theme)) ↔
        ∀ path ∈ view.publicPaths theme, ∀ other ∈ view.publicPaths theme,
          path.dashed = other.dashed → path = other := by
    rw [DeclareApart, (listed.map (·.property)).nodup_iff, List.map_map,
      List.nodup_map_iff_inj_on once]
    simp only [Function.comp_apply, named]
  have written := Except.ok.inj (congrArg Prod.fst last)
  rw [rootText_eq] at written
  refine ⟨_, _, ⟨once, text, renders, rfl, listed⟩, rfl, written.symm, named, distinct, ?_, ?_⟩
  · intro dashless
    rw [distinct]
    exact fun path member other known => Path.eq_of_dashed (dashless path member)
      (dashless other known)
  · intro apart declaration member
    obtain ⟨path, known, rfl⟩ := List.mem_map.mp (listed.mem_iff.mp member)
    refine ⟨path, known, renders path known, fun other visible => ?_⟩
    rw [named]
    constructor
    · exact distinct.mp apart other visible path known
    · rintro rfl
      rfl

theorem View.exists_run_rootBlock {view : View} {cache : Cache} (sound : cache.Sound view.store)
    {theme : Theme} (each : ∀ path ∈ view.publicPaths theme,
      Fits view.store theme path view.allowance ∧ ∃ text, view.Renders theme path text) :
    ∃ css after, (view.rootBlock theme).run cache = (.ok css, after) := by
  rcases View.exists_run_sections sound each with ⟨root, after, run, _⟩
  rw [View.rootBlock, run_bind_ok run]
  exact ⟨_, after, rfl⟩

open Paper in
theorem rootBlock_names_paper :
    ∃ css after root, (view.rootBlock .light).run Table.empty = (.ok css, after) ∧
      view.Declares .light [frame, color] root ∧ DeclareApart root ∧
      css = "\n".intercalate [
        ":root \x7b", "  /* Colors */", "  --ant-color: white;", "  /* Other */",
        "  --ant-frame: initial;", "\x7d"] := by
  have dashless : ∀ path ∈ view.publicPaths .light, path.Dashless := by
    rw [publicPaths_eq]
    intro path member
    rcases List.mem_pair.mp member with rfl | rfl
    · exact fun segment listed => List.mem_singleton.mp listed ▸ by decide
    · exact fun segment listed => List.mem_singleton.mp listed ▸ by decide
  have made : ∃ css after, (view.rootBlock .light).run Table.empty = (.ok css, after) :=
    View.exists_run_rootBlock (Cache.sound_empty tokens) rendered
  rcases made with ⟨css, after, run⟩
  rcases rootBlock_names (MemoryOf.empty tokens) run with
    ⟨root, block, declared, rfl, written, _, _, apart, _⟩
  have distinct := apart dashless
  rw [publicPaths_eq] at declared
  refine ⟨css, after, root, run, declared, distinct, written.trans ?_⟩
  rw [root_eq declared]
  decide +kernel

namespace Homonym

theorem nonempty : ["a", "b"] ≠ [] := by decide

theorem valid : ∀ segment ∈ ["a", "b"], isSegment segment = true := by decide

abbrev nested : Path := ⟨["a", "b"], nonempty, valid⟩

abbrev flat : Path := .single "a-b" (by decide)

def tokens : Store :=
  Store.empty.setAll [(nested, .string "x"), (flat, .string "y")] .light

def view : View :=
  ⟨tokens, {}, .usual⟩

theorem rendered {path : Path} {text : String}
    (shown : tokens.visible? path .light = some (.string text))
    (written : (Value.string text).css "ant" = .ok text) :
    Fits view.store .light path view.allowance ∧ view.Renders .light path text :=
  View.renders_of_shown shown rfl written

end Homonym

open Homonym in
/-- Two tokens of one name, each with its own declaration, so that a page takes the second. -/
theorem rootBlock_names_clash :
    nested ≠ flat ∧ nested ∈ view.publicPaths .light ∧ flat ∈ view.publicPaths .light ∧
      view.propertyOf nested = view.propertyOf flat ∧
      ∃ after, (view.rootBlock .light).run Table.empty =
        (.ok ":root \x7b\n  /* Other */\n  --ant-a-b: x;\n  --ant-a-b: y;\n\x7d", after) := by
  have rooted : view.publicPaths .light = [nested, flat] := by decide
  obtain ⟨fits, first⟩ := @rendered nested "x" rfl rfl
  obtain ⟨fitting, second⟩ := @rendered flat "y" rfl rfl
  have made : ∃ css after, (view.rootBlock .light).run Table.empty = (.ok css, after) := by
    refine View.exists_run_rootBlock (Cache.sound_empty tokens) ?_
    rw [rooted]
    intro path member
    rcases List.mem_pair.mp member with rfl | rfl
    · exact ⟨fits, _, first⟩
    · exact ⟨fitting, _, second⟩
  rcases made with ⟨css, after, run⟩
  refine ⟨by decide, by rw [rooted]; simp, by rw [rooted]; simp, by decide, after, ?_⟩
  rcases run_bind_eq_ok run with ⟨root, middle, listed, last⟩
  rcases View.exists_text view .light with ⟨text, only⟩
  rcases View.run_sections only (Cache.sound_empty tokens) listed with ⟨_, _, rfl⟩
  have listing : view.listing text [nested, flat] = [⟨.colors, []⟩, ⟨.spacing, []⟩,
      ⟨.typography, []⟩, ⟨.other, [⟨"--ant-a-b", text nested⟩, ⟨"--ant-a-b", text flat⟩]⟩] := rfl
  rw [run, ← Except.ok.inj (congrArg Prod.fst last), rooted, listing, ← only nested _ first,
    ← only flat _ second]
  rfl

end DesignTokens
