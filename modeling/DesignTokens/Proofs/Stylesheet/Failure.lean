import DesignTokens.Proofs.Stylesheet.Fallback
import DesignTokens.Proofs.Stylesheet.Sheet
import DesignTokens.Proofs.TokenSystem.Clean

/-!
When a list of properties cannot be written.  Its tokens are resolved one after another, and
the first of them that fails ends it, unless all that it fails for is a path without a value.
-/

namespace DesignTokens

section

variable {m : Type → Type} [Monad m] [LawfulMonad m] {α β : Type}

theorem discard_eq_map (first : m α) : discard first = (fun _ => PUnit.unit) <$> first := by
  rw [discard, map_const]
  rfl

theorem discard_bind_pure (first : m α) (f : α → β) :
    discard (first >>= fun value => pure (f value)) = discard first := by
  rw [bind_pure_comp, discard_eq_map, discard_eq_map, Functor.map_map]

theorem discard_mapM (f : α → m β) (values : List α) :
    discard (values.mapM f) = forM values fun value => discard (f value) := by
  induction values with
  | nil => rw [List.mapM_nil, discard_eq_map, map_pure, List.forM_nil]
  | cons value values ih =>
      rw [List.mapM_cons, List.forM_cons, ← ih]
      simp only [discard_eq_map, map_bind, bind_map_left, bind_pure_comp, Functor.map_map]

theorem forM_flatMap (f : α → List β) (g : β → m PUnit) (values : List α) :
    forM (values.flatMap f) g = forM values fun value => forM (f value) g := by
  induction values with
  | nil => rfl
  | cons value values ih => rw [List.flatMap_cons, List.forM_append, List.forM_cons, ih]

end

theorem failure?_map {σ α β : Type} (f : α → β) (first : ExceptT Error (StateM σ) α) (state : σ) :
    failure? ((f <$> first).run state).1 = failure? (first.run state).1 := by
  rcases run : first.run state with ⟨result, after⟩
  cases result with
  | ok value =>
      rw [run_map_ok f run]
      rfl
  | error error =>
      rw [run_map_error f run]
      rfl

theorem failure?_discard {σ α : Type} (first : ExceptT Error (StateM σ) α) (state : σ) :
    failure? ((discard first).run state).1 = failure? (first.run state).1 := by
  rw [discard_eq_map, failure?_map]

/-- The failure of a token that ends the writing of what it is part of: any but that a path has
no value. -/
def aborting? : Except Error Value → Option Error
  | .ok _ => none
  | .error error => if error.kind = .tokenNotFound then none else some error

namespace View

/-- The paths that a theme shows in the order in which they are written: by category, and else in
the order of the theme. -/
def emitted (view : View) (theme : Theme) : List Path :=
  Category.all.flatMap fun category => (view.publicPaths theme).filter (·.category = category)

variable {view : View} {theme : Theme}

theorem mem_emitted_iff {path : Path} :
    path ∈ view.emitted theme ↔
      (∃ raw, Shows view.store theme path raw) ∧ path.isPrivate = false := by
  rw [emitted, (perm_byCategory (view.publicPaths theme)).mem_iff, mem_publicPaths_iff]

/-- Writing the properties of a theme comes to writing one token after another. -/
theorem discard_propertyList (view : View) (theme : Theme) :
    discard (view.propertyList theme) =
      discard ((view.emitted theme).mapM (view.tokenText theme)) := by
  have grouped : ∀ category, discard (view.sectionOf theme (view.publicPaths theme) category) =
      forM ((view.publicPaths theme).filter (·.category = category))
        fun path => discard (view.tokenText theme path) := by
    intro category
    rw [sectionOf, discard_bind_pure, discard_mapM]
    simp only [discard_bind_pure]
  rw [propertyList, discard_bind_pure, sections, discard_mapM, discard_mapM, emitted, forM_flatMap]
  simp only [grouped]

/-- The failure that paths with such values end with when they are written in turn: that of the
first which has one, or the refusal of one that nests too deep before any has failed. -/
def FailsAsFirst (view : View) (theme : Theme) (value : Path → Except Error Value)
    (paths : List Path) (failure : Option Error) : Prop :=
  failure = paths.findSome? (fun path => aborting? (value path)) ∨
    ∃ before path after, paths = before ++ path :: after ∧
      (∀ earlier ∈ before, aborting? (value earlier) = none) ∧
      ¬ Fits view.store theme path view.allowance ∧ failure = some (.tooDeep path)

theorem FailsAsFirst.cons {value : Path → Except Error Value} {path : Path} {paths : List Path}
    {failure : Option Error} (harmless : aborting? (value path) = none)
    (fails : view.FailsAsFirst theme value paths failure) :
    view.FailsAsFirst theme value (path :: paths) failure := by
  rcases fails with same | ⟨before, later, after, whole, each, deep, refused⟩
  · left
    rw [same, List.findSome?_cons, harmless]
  · right
    refine ⟨path :: before, later, after, ?_, ?_, deep, refused⟩
    · rw [whole, List.cons_append]
    · exact List.forall_mem_cons.mpr ⟨harmless, each⟩

end View

namespace Jammed

abbrev loop : Path := .single "loop" (by decide)
abbrev outline : Path := .single "outline" (by decide)
abbrev ink : Path := .single "ink" (by decide)
abbrev color : Path := .single "color_palette" (by decide)

def tokens : Store :=
  Store.empty.setAll
    [(loop, .alias "loop"), (outline, .alias "gone"), (ink, .null),
      (color, .reference "ink" (some (.scale 2)))] .light

def view : View :=
  ⟨tokens, {}, .unlimited⟩

end Jammed

namespace Stilts

open Tower

abbrev color : Path := .single "semantic_colors" (by decide)

def tokens (count : Nat) : Store :=
  (store (count / 4 + 1)).set color .light (.alias (label 1))

def view (count : Nat) : View :=
  ⟨tokens count, {}, .frames count⟩

theorem label_ne {text : String} (other : text.toList.any (· != 't') = true) (level : Nat) :
    label level ≠ text := by
  rintro rfl
  obtain ⟨c, member, apart⟩ := List.any_eq_true.mp other
  rw [label, String.toList_ofList, letters, List.mem_replicate] at member
  exact bne_iff_ne.mp apart member.2

theorem category_path (level : Nat) : (path level).category = .other := by
  have heads : ∀ entry ∈ categoryHeads, entry.1.toList.any (· != 't') = true := by
    simp only [categoryHeads, List.forall_mem_cons]
    decide
  have unknown : categoryHeads.lookup (path level).head = none := by
    rw [List.lookup_eq_none_iff]
    intro entry listed
    exact bne_iff_ne.mpr (label_ne (heads entry listed) level)
  rw [Path.category, unknown]
  rfl

variable {count : Nat}

theorem color_ne_path (level : Nat) : color ≠ path level := by
  intro same
  have sections : Category.colors = .other :=
    (congrArg Path.category same).trans (category_path level)
  exact nomatch sections

theorem get?_eq (other : Path) (theme : Theme) :
    (tokens count).get? other theme =
      if (color, .light) = (other, theme) then some (.alias (label 1))
      else (store (count / 4 + 1)).get? other theme :=
  Table.find?_insert _ _ _ _

theorem stands : Stands (tokens count) .light (count / 4 + 1) := by
  intro level within
  refine Shows.own ?_
  rw [get?_eq, if_neg fun same => color_ne_path level (Prod.mk.inj same).1]
  cases shows within with
  | own found => exact found

theorem shows_color : Shows (tokens count) .light color (.alias (label 1)) := by
  refine Shows.own ?_
  rw [get?_eq, if_pos rfl]

theorem color_or_level {other : Path} {raw : Value}
    (shown : Shows (tokens count) .light other raw) :
    other = color ∨ ∃ level ≤ count / 4 + 1, other = path level := by
  cases shown with
  | own found =>
      rw [get?_eq] at found
      split at found
      · rename_i same
        exact Or.inl (Prod.mk.inj same).1.symm
      · exact Or.inr (light_of_get? found).2

theorem points_level : Points (tokens count) .light (label 1) (path 1) :=
  stands.points (by omega)

theorem denotes_color : Denotes (tokens count) .light color (value (count / 4)) :=
  .shown shows_color (.alias (.followed points_level (stands.denotes (by omega))))

theorem fits_color : Fits (tokens count) .light color (.frames count) := by
  have ahead : Fits (tokens count) .light (path 1) (.frames count) :=
    stands.fits (by omega) (by omega)
  exact ahead.of_alias shows_color points_level

structure Warmed (count : Nat) (cache : Cache) : Prop where
  sound : cache.Sound (tokens count)
  knows : cache.Knows .light (path 1)

theorem Warmed.outcome {cache : Cache} (warmed : Warmed count cache) (enough : 4 ≤ count)
    {other : Path} {raw : Value} (shown : Shows (tokens count) .light other raw) :
    ∃ value, outcome (tokens count) .light (.frames count) cache other = .ok value := by
  rcases color_or_level shown with rfl | ⟨level, within, rfl⟩
  · exact ⟨_, (outcome_eq_ok_iff warmed.sound fits_color).mpr denotes_color⟩
  · cases level with
    | zero =>
        obtain ⟨held, hit⟩ := warmed.knows
        have second : Denotes (tokens count) .light (path 1) (value (count / 4)) :=
          stands.denotes (by omega)
        rw [(warmed.sound _ _ _ hit).unique second] at hit
        exact ⟨_, stands.outcome_remembered warmed.sound enough hit⟩
    | succ level =>
        have fits : Fits (tokens count) .light (path (level + 1)) (.frames count) :=
          stands.fits within (by omega)
        have denotes : Denotes (tokens count) .light (path (level + 1))
            (value (count / 4 - level)) := stands.denotes (by omega)
        exact ⟨_, (outcome_eq_ok_iff warmed.sound fits).mpr denotes⟩

theorem exists_run_tokenText {cache : Cache} (sound : cache.Sound (tokens count)) {other : Path}
    {value : Value}
    (found : outcome (tokens count) .light (.frames count) cache other = .ok value) :
    ∃ text, ((view count).tokenText .light other).run cache =
      (.ok text, ((resolve (tokens count) .light (.frames count) other).run cache).2) := by
  obtain ⟨text, written⟩ :=
    (denotes_of_outcome sound found).concrete.exists_css (view count).config.propertyPrefix
  refine ⟨text, ?_⟩
  rw [View.run_tokenText, show (view count).store = tokens count from rfl,
    show (view count).allowance = .frames count from rfl, found, View.textOf, written]

/-- The colour is written first, and after it the second token of the tower is known. -/
theorem warmed_color : Warmed count
    ((resolve (tokens count) .light (.frames count) color).run Table.empty).2 := by
  have empty := Cache.sound_empty (tokens count)
  have found := (outcome_eq_ok_iff empty fits_color).mpr (@denotes_color count)
  have follows : Follows (tokens count) .light color (path 1) :=
    ⟨_, label 1, shows_color, List.mem_singleton_self _, points_level⟩
  exact ⟨empty.resolve color, (Cache.closed_empty _).resolve .light _ color .light color (path 1)
    ⟨_, find?_after_resolve found⟩ follows⟩

theorem emitted_eq (count : Nat) :
    ∃ rest, (view count).emitted .light = color :: rest := by
  have listed : color ∈ (view count).publicPaths .light :=
    mem_publicPaths_iff.mpr ⟨⟨_, shows_color⟩, by decide⟩
  have colors : ((view count).publicPaths .light).filter (·.category = .colors) = [color] := by
    refine List.perm_singleton.mp
      ((List.perm_ext_iff_of_nodup ?_ (List.nodup_singleton color)).mpr ?_)
    · exact (nodup_publicPaths _ _).filter _
    · intro other
      rw [List.mem_filter, List.mem_singleton, decide_eq_true_iff]
      constructor
      · rintro ⟨known, tinted⟩
        obtain ⟨⟨raw, shown⟩, _⟩ := mem_publicPaths_iff.mp known
        rcases color_or_level shown with same | ⟨level, _, rfl⟩
        · exact same
        · exact nomatch tinted.symm.trans (category_path level)
      · rintro rfl
        exact ⟨listed, rfl⟩
  rw [View.emitted, Category.all, List.flatMap_cons, colors]
  exact ⟨_, rfl⟩

theorem written (enough : 4 ≤ count) :
    ∃ css, (((view count).propertyList .light).run Table.empty).1 = .ok css := by
  obtain ⟨rest, order⟩ := emitted_eq count
  have empty := Cache.sound_empty (tokens count)
  have first := (outcome_eq_ok_iff empty fits_color).mpr (@denotes_color count)
  obtain ⟨text, run⟩ := exists_run_tokenText empty first
  have each : ∀ other ∈ rest, ∀ cache, Warmed count cache → ∃ text after,
      ((view count).tokenText .light other).run cache = (.ok text, after) ∧ Warmed count after := by
    intro other member cache warmed
    have listed : other ∈ (view count).emitted .light := by simp [order, member]
    obtain ⟨⟨raw, shown⟩, _⟩ := View.mem_emitted_iff.mp listed
    obtain ⟨value, found⟩ := warmed.outcome enough shown
    obtain ⟨text, run⟩ := exists_run_tokenText warmed.sound found
    exact ⟨text, _, run, warmed.sound.resolve other,
      knows_after_resolve warmed.knows .light _ other⟩
  obtain ⟨texts, after, others, _⟩ := exists_run_mapM_eq_ok each warmed_color
  have whole : failure? (((view count).propertyList .light).run Table.empty).1 = none := by
    rw [← failure?_discard, View.discard_propertyList, failure?_discard, order, List.mapM_cons,
      run_bind_ok run, run_bind_ok others]
    rfl
  cases made : (((view count).propertyList .light).run Table.empty).1 with
  | ok css => exact ⟨css, rfl⟩
  | error error =>
      rw [made] at whole
      exact nomatch whole

theorem refused (count : Nat) :
    Tower.path 0 ∈ (view count).emitted .light ∧
      outcome (tokens count) .light (.frames count) Table.empty (path 0) =
        .error (.tooDeep (path 0)) := by
  refine ⟨View.mem_emitted_iff.mpr ⟨⟨_, stands 0 (Nat.zero_le _)⟩, by decide⟩, ?_⟩
  have run := @Stands.refused (tokens count) .light (count / 4 + 1) 0 count stands Table.empty
    (fun _ => Table.find?_empty _) [] (by omega) (by simp)
  rw [outcome, resolve, run]
  rfl

end Stilts

end DesignTokens
