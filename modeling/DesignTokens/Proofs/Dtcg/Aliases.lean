import DesignTokens.Proofs.Dtcg.Document
import DesignTokens.Proofs.Resolution.Validation
import DesignTokens.TokenSystem.Request

/-!
Where the aliases of a document lead.  In a system that validates without an error, a
reference to a public token leads to a token of the same document, and a reference to a
private one leads out of it.
-/

namespace DesignTokens

namespace Dtcg

theorem Lists.isToken_iff {view : View} {theme : Theme} {cache : Cache} {members : Members}
    (lists : Lists (view.Contributes theme cache) members (view.publicPaths theme)) (path : Path) :
    isToken (groupAt members path.segments) = true ↔ path ∈ view.publicPaths theme := by
  constructor
  · intro token
    rcases lists.exists_of_token (isRoute_segments path) token with ⟨other, member, same⟩
    rwa [← Path.eq_of_segments same]
  · exact fun member => View.isToken_of_contributes (lists.holds path member)

end Dtcg

/-- What a system that validates without an error exports refers to public tokens within
the document, and to private ones that are not in it. -/
theorem aliases_within_document {system : TokenSystem} (reachable : system.Reachable)
    (clean : ((Action.validate none).run system).1 = .ok []) (theme : Theme) {cache : Cache}
    (memory : MemoryOf system.store cache) :
    ∃ members after, (system.view.document theme).run cache = (.ok members, after) ∧
      ∀ path ∈ system.view.publicPaths theme, ∀ raw, Shows system.store theme path raw →
        ∀ text ∈ raw.targets, ∀ target, system.store.target? theme text = some target →
          Path.parse text = .ok target ∧
            (Dtcg.isToken (Dtcg.groupAt members target.segments) = true ↔
              target.isPrivate = false) := by
  have none : ((validate system.store system.allowance system.store.themes).run
      system.cache).1 = [] := Except.ok.inj clean
  have complete : ∀ {path raw}, Shows system.store theme path raw →
      ∃ value, Denotes system.store theme path value :=
    fun shows => denotes_of_clean reachable.sound none shows
  have contained : ∀ path ∈ system.view.publicPaths theme,
      Contained system.store theme system.allowance path := by
    intro path member
    rcases (mem_publicPaths_iff.mp member).1 with ⟨raw, shows⟩
    rcases complete shows with ⟨value, denotes⟩
    exact denotes.contained system.allowance
  rcases system.view.document_total theme memory.sound contained with
    ⟨members, after, run⟩
  refine ⟨members, after, run, ?_⟩
  intro path member raw shows text mentions target followed
  have lists := View.document_lists run
  have points := target?_eq_some_iff.mp followed
  refine ⟨points.spelled, ?_⟩
  rw [lists.isToken_iff, mem_publicPaths_iff]
  -- The walk follows the reference, so its target has a value wherever the path has one.
  rcases complete shows with ⟨value, denotes⟩
  rcases denotes.follows ⟨raw, text, shows, mentions, points⟩ with ⟨operand, reached⟩
  cases reached with
  | shown visible _ => exact ⟨fun known => known.2, fun known => ⟨⟨_, visible⟩, known⟩⟩

namespace Veiled

def path (name : String) (valid : isSegment name = true) : Path :=
  ⟨[name], List.cons_ne_nil _ _, by simp [valid]⟩

theorem valid : isSegment "a" = true := by decide

def store : Store :=
  Store.empty.setAll
    [(path "a" valid, .alias "_b"), (path "c" (by decide), .alias "a"),
      (path "d" (by decide), .alias "8px"), (path "_b" (by decide), .null)] .light

theorem shows_cases {theme : Theme} {path : Path} {raw : Value}
    (shows : Shows store theme path raw) :
    raw = .alias "_b" ∨ raw = .alias "a" ∨ raw = .alias "8px" ∨ raw = .null := by
  have listed : raw ∈ [Value.alias "_b", .alias "a", .alias "8px", .null] :=
    Store.mem_values_of_shows shows
  simpa using listed

theorem fits (theme : Theme) (path : Path) (allowance : Allowance) :
    Fits store theme path allowance := by
  refine fits_of_flat (fun path raw depth text transform shows holds => ?_) path allowance
  rcases shows_cases shows with rfl | rfl | rfl | rfl <;> cases holds <;> rfl

theorem denotes {path : Path} {raw : Value} (shows : Shows store .light path raw) :
    ∃ value, Denotes store .light path value := by
  have hidden : Points store .light "_b" (Veiled.path "_b" (by decide)) :=
    target?_eq_some_iff.mp (by decide)
  have open' : Points store .light "a" (Veiled.path "a" (by decide)) :=
    target?_eq_some_iff.mp (by decide)
  have length : Inline store .light "8px" := target?_eq_none_iff.mp (by decide)
  have bottom : Denotes store .light (Veiled.path "_b" (by decide)) .null :=
    Denotes.shown (Shows.own rfl) (Means.scalar rfl)
  have middle : Denotes store .light (Veiled.path "a" (by decide)) .null :=
    Denotes.shown (Shows.own rfl) (Means.alias (Reads.followed hidden bottom))
  rcases shows_cases shows with rfl | rfl | rfl | rfl
  · exact ⟨_, Denotes.shown shows (Means.alias (Reads.followed hidden bottom))⟩
  · exact ⟨_, Denotes.shown shows (Means.alias (Reads.followed open' middle))⟩
  · exact ⟨_, Denotes.shown shows (Means.alias (Reads.literal length rfl))⟩
  · exact ⟨_, Denotes.shown shows (Means.scalar rfl)⟩

def system : TokenSystem :=
  TokenSystem.ofStore {} store

theorem clean : ((Action.validate none).run system).1 = .ok [] := by
  have none : ((validate store system.allowance store.themes).run Table.empty).1 = [] := by
    have themes : store.themes = [.light] := by decide
    refine validate_eq_nil (Cache.sound_empty store) fun theme member path visible => ?_
    rw [themes, List.mem_singleton] at member
    subst member
    rcases Store.mem_visiblePaths_iff.mp visible with ⟨raw, shows⟩
    exact ⟨fits .light path _, denotes shows⟩
  exact congrArg Except.ok none

end Veiled

theorem aliases_within_document_veiled :
    ((Action.validate none).run Veiled.system).1 = .ok [] ∧
      ∃ members after, (Veiled.system.view.document .light).run Table.empty = (.ok members, after) ∧
        Path.parse "a" = .ok (Veiled.path "a" (by decide)) ∧
        (Dtcg.isToken (Dtcg.groupAt members ["a"]) = true ↔
          (Veiled.path "a" (by decide)).isPrivate = false) := by
  rcases aliases_within_document (TokenSystem.reachable_ofStore Veiled.store) Veiled.clean .light
    (MemoryOf.empty Veiled.store) with ⟨members, after, run, lands⟩
  have shows : Shows Veiled.store .light (Veiled.path "c" (by decide)) (.alias "a") :=
    Shows.own rfl
  have listed : Veiled.path "c" (by decide) ∈ Veiled.system.view.publicPaths .light :=
    mem_publicPaths_iff.mpr ⟨⟨_, shows⟩, by decide⟩
  exact ⟨Veiled.clean, members, after, run,
    lands _ listed (.alias "a") shows "a" List.mem_cons_self (Veiled.path "a" (by decide))
      (by decide)⟩

/-- An alias of a private token leads out of the document, and so does one of a literal. -/
theorem aliases_out_of_document :
    Veiled.system.Reachable ∧ ((Action.validate none).run Veiled.system).1 = .ok [] ∧
      ∃ members after,
        (Veiled.system.view.document .light).run Veiled.system.cache = (.ok members, after) ∧
          (Dtcg.groupAt members ["a"]).find? "$value" = some (Dtcg.aliasJson "_b") ∧
          Dtcg.isToken (Dtcg.groupAt members ["_b"]) = false ∧
          (Dtcg.groupAt members ["d"]).find? "$value" = some (Dtcg.aliasJson "8px") ∧
          Dtcg.isToken (Dtcg.groupAt members ["8px"]) = false := by
  have sound : Veiled.system.cache.Sound Veiled.system.view.store := Cache.sound_empty _
  rcases Veiled.system.view.document_total .light sound
    (fun path member => by
      rcases (mem_publicPaths_iff.mp member).1 with ⟨raw, shows⟩
      rcases Veiled.denotes shows with ⟨value, denotes⟩
      exact denotes.contained _) with ⟨members, after, run⟩
  have lists := View.document_lists run
  have written : ∀ (path : Path) {text : String}, path.isPrivate = false →
      Shows Veiled.store .light path (.alias text) →
      (Dtcg.groupAt members path.segments).find? "$value" = some (Dtcg.aliasJson text) := by
    intro path text known shows
    have listed : path ∈ Veiled.system.view.publicPaths .light :=
      mem_publicPaths_iff.mpr ⟨⟨_, shows⟩, known⟩
    rcases View.value_of_contributes (lists.holds path listed) shows with ⟨before, _, value⟩
    exact value
  have absent : ∀ path, path ∉ Veiled.system.view.publicPaths .light →
      Dtcg.isToken (Dtcg.groupAt members path.segments) = false := by
    intro path unlisted
    rw [Bool.eq_false_iff]
    exact fun token => unlisted ((lists.isToken_iff path).mp token)
  refine ⟨TokenSystem.reachable_ofStore _, Veiled.clean, members, after, run, ?_, ?_, ?_, ?_⟩
  · exact written (Veiled.path "a" (by decide)) (by decide) (Shows.own rfl)
  · exact absent (Veiled.path "_b" (by decide)) (by decide)
  · exact written (Veiled.path "d" (by decide)) (by decide) (Shows.own rfl)
  · exact absent (Veiled.path "8px" (by decide)) (by decide)

end DesignTokens
