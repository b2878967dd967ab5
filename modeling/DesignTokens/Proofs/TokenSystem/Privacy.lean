import DesignTokens.Proofs.Dtcg.Document
import DesignTokens.Proofs.Resolution.Tower
import DesignTokens.Proofs.Store.Public
import DesignTokens.Proofs.Stylesheet.Settled
import DesignTokens.Proofs.TokenSystem.Transparency

/-!
Private tokens have no part in what is made from a store.  Whatever is written for a theme
owes its text to the public part, where no public token depends on a private one.
-/

namespace DesignTokens

open Stylesheet

theorem mapM_congr {α β : Type} {f g : α → Except Error β} {values : List α}
    (same : ∀ value ∈ values, f value = g value) : values.mapM f = values.mapM g := by
  induction values with
  | nil => rfl
  | cons value values ih =>
      obtain ⟨here, others⟩ := List.forall_mem_cons.mp same
      rw [List.mapM_cons, List.mapM_cons, here, ih others]

structure View.SamePublic (first second : View) : Prop where
  store : first.store.SamePublic second.store
  config : first.config = second.config
  allowance : first.allowance = second.allowance
  isolated : first.store.Sealed

namespace View.SamePublic

variable {first second : View} {theme : Theme} {path : Path}

theorem propertyOf (same : first.SamePublic second) : first.propertyOf = second.propertyOf := by
  unfold View.propertyOf
  rw [same.config]

theorem publicPaths (same : first.SamePublic second) (theme : Theme) :
    first.publicPaths theme = second.publicPaths theme :=
  same.store.visiblePaths theme

theorem darkPaths (same : first.SamePublic second) : first.darkPaths = second.darkPaths := by
  unfold View.darkPaths
  rw [same.config, same.store.paths]

theorem plainFrom (same : first.SamePublic second) (shown : path.isPrivate = false)
    (theme : Theme) :
    plainFrom first.store theme [] path = DesignTokens.plainFrom second.store theme [] path :=
  plainFrom_congr (same.store.agreeFrom same.isolated shown theme)

theorem plainText (same : first.SamePublic second) (shown : path.isPrivate = false)
    (theme : Theme) : first.plainText theme path = second.plainText theme path := by
  have text : first.textOf path = second.textOf path := by
    unfold View.textOf View.variableOf
    rw [same.config, same.propertyOf]
  rw [View.plainText, View.plainText, same.plainFrom shown, text]

theorem plainSections (same : first.SamePublic second) {paths : List Path}
    (shown : ∀ path ∈ paths, path.isPrivate = false) :
    first.plainSections theme paths = second.plainSections theme paths := by
  refine mapM_congr fun category _ => ?_
  refine congrArg (· >>= _) (mapM_congr fun path member => ?_)
  rw [same.propertyOf, same.plainText (shown path (List.mem_of_mem_filter member))]

theorem componentSlots_eq (view : View) (component : String) (theme : Theme) :
    view.componentSlots component theme = (view.publicPaths theme).filterMap fun path =>
      match path.slot? with
      | some slot => if slot.component = component then some (path, slot) else none
      | none => none := by
  rw [View.publicPaths, List.filterMap_filter]
  refine List.filterMap_congr fun path _ => ?_
  cases placed : path.slot? with
  | none => simp
  | some slot => simp [Path.not_isPrivate_of_slot placed]

theorem plainComponent (same : first.SamePublic second) (component : String) :
    first.plainComponent component theme = second.plainComponent component theme := by
  have slots : first.componentSlots component theme = second.componentSlots component theme := by
    rw [componentSlots_eq, componentSlots_eq, same.publicPaths]
  refine congrArg (· >>= _) ?_
  rw [← slots]
  refine mapM_congr fun ⟨path, slot⟩ member => ?_
  have shown := (mem_publicPaths_iff.mp (mem_publicPaths_of_slot member)).2
  dsimp only
  rw [same.plainText shown]

theorem plainValues (same : first.SamePublic second) {head : String}
    (shown : ∀ path : Path, path.head = head → path.isPrivate = false) :
    first.plainValues head theme = second.plainValues head theme := by
  have named : ∀ view : View,
      ((view.store.visiblePaths theme).filter fun path => path.head == head && 1 < path.size) =
        (view.publicPaths theme).filter fun path => path.head == head && 1 < path.size := by
    intro view
    rw [View.publicPaths, List.filter_filter]
    refine List.filter_congr fun path _ => ?_
    by_cases same : path.head = head
    · simp [shown path same]
    · simp [same]
  rw [View.plainValues, View.plainValues, named, named, same.publicPaths]
  refine mapM_congr fun path member => ?_
  rw [same.plainFrom (mem_publicPaths_iff.mp (List.mem_of_mem_filter member)).2]

theorem plainUtilities (same : first.SamePublic second) :
    first.plainUtilities theme = second.plainUtilities theme := by
  have colors := @plainValues first second theme same "color"
    fun _ named => Path.not_isPrivate_of_head named (by decide)
  have spacing := @plainValues first second theme same "spacing"
    fun _ named => Path.not_isPrivate_of_head named (by decide)
  have typography := @plainValues first second theme same "typography"
    fun _ named => Path.not_isPrivate_of_head named (by decide)
  rw [View.plainUtilities, View.plainUtilities, colors, spacing, typography]

theorem plain (same : first.SamePublic second) (theme : Theme) (sheet : Sheet) :
    sheet.plain first theme = sheet.plain second theme := by
  have sections : first.plainSections theme (first.publicPaths theme) =
      second.plainSections theme (second.publicPaths theme) := by
    rw [← same.publicPaths]
    exact same.plainSections fun path member => (mem_publicPaths_iff.mp member).2
  have dark : first.plainSections .dark first.darkPaths =
      second.plainSections .dark second.darkPaths := by
    rw [← same.darkPaths]
    exact same.plainSections fun path member =>
      (mem_publicPaths_iff.mp (mem_publicPaths_of_dark member)).2
  have darkText : first.darkText = second.darkText := by
    unfold View.darkText
    rw [same.darkPaths, same.config]
  cases sheet with
  | propertyList | rootBlock => simp only [Sheet.plain, sections, same.config]
  | darkMediaBlock => simp only [Sheet.plain, dark, darkText, same.config]
  | exportedVariables | themeSheet =>
      simp only [Sheet.plain, sections, dark, darkText, same.config]
  | component name => simp only [Sheet.plain, same.plainComponent, same.config]
  | utilities => simp only [Sheet.plain, same.plainUtilities, same.config]

theorem plainTokens (same : first.SamePublic second) (members : Dtcg.Members) {paths : List Path}
    (shown : ∀ path ∈ paths, path.isPrivate = false) :
    first.plainTokens theme members paths = second.plainTokens theme members paths := by
  induction paths generalizing members with
  | nil => rfl
  | cons path rest ih =>
      obtain ⟨here, others⟩ := List.forall_mem_cons.mp shown
      have fields : first.plainFields theme path = second.plainFields theme path := by
        rw [View.plainFields, View.plainFields, same.store.visible? here, same.plainFrom here,
          same.store.metadata path here]
      rw [View.plainTokens, View.plainTokens, fields]
      exact congrArg _ (funext fun _ => ih _ others)

theorem plainDocument (same : first.SamePublic second) (theme : Theme) :
    first.plainDocument theme = second.plainDocument theme := by
  rw [View.plainDocument, View.plainDocument, ← same.publicPaths]
  exact same.plainTokens [] fun path member => (mem_publicPaths_iff.mp member).2

end View.SamePublic

namespace Curtain

theorem nonempty_gap : ["spacing", "md"] ≠ [] := by decide

theorem valid_gap : ∀ segment ∈ ["spacing", "md"], isSegment segment = true := by decide

theorem valid_veil : isSegment "_a" = true := by decide

abbrev gap : Path := ⟨["spacing", "md"], nonempty_gap, valid_gap⟩

abbrev veil : Path := .single "_a" valid_veil

variable (height : Nat)

def bare : Store :=
  (Tower.store height).set gap .light (.array [.alias (Tower.label 0)])

def drawn : Store :=
  (bare height).set veil .light (.alias (Tower.label 0))

variable {height}

theorem same : (bare height).SamePublic (drawn height) :=
  Store.SamePublic.set (bare height) (by decide) .light _

theorem isolated : (bare height).Sealed := by
  have labels : ∀ raw ∈ (bare height).values.entries.map Prod.snd, ∀ text ∈ raw.targets,
      ∃ level, text = Tower.label level := by
    intro raw listed text mentions
    obtain ⟨entry, member, rfl⟩ := List.mem_map.mp listed
    rcases Entries.mem_insert member with old | rfl
    · obtain ⟨level, _, rfl⟩ := List.mem_map.mp old
      rw [Tower.raw] at mentions
      split at mentions
      · exact ⟨level + 1, by simpa [Value.targets, Value.targetsOfItems] using mentions⟩
      · simp [Value.targets] at mentions
    · exact ⟨0, by simpa [Value.targets, Value.targetsOfItems] using mentions⟩
  refine Store.sealed_of_targets fun raw listed text mentions target spelled => ?_
  obtain ⟨level, rfl⟩ := labels raw listed text mentions
  obtain ⟨_, parsed⟩ := ofReference?_eq_some_iff.mp spelled
  rw [Tower.parse_label] at parsed
  obtain rfl := Except.ok.inj parsed
  have first : (Tower.label level).toList.head? = some 't' := by
    simp [Tower.label, Tower.letters, List.replicate_succ]
  have other : ∀ name : String, name.toList.head? ≠ some 't' → Tower.label level ≠ name := by
    rintro name differs rfl
    exact differs first
  refine Path.not_isPrivate_of_head rfl ?_
  rw [show (Tower.path level).head = Tower.label level from rfl, first]
  simp [other "internal" (by decide), other "private" (by decide)]

def asked (count : Nat) (store : Store) : TokenSystem :=
  ((⟨.ofStore {} store (.frames count), Folder.empty⟩ : Workspace).afterAll
    [.tokens (.resolve "_a" (.given .light))]).system

variable {count : Nat}

theorem reachable (store : Store) : (asked count store).Reachable :=
  ⟨{}, store, _, Folder.empty, _, rfl⟩

def fresh (store : Store) : TokenSystem :=
  .ofStore {} store .unlimited

end Curtain

end DesignTokens
