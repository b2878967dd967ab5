import Mathlib.Data.List.Chain
import DesignTokens.Proofs.Resolution.Cycles
import DesignTokens.Proofs.TokenSystem.Transparency

/-!
What a failed resolution reports.  The paths that it names were really walked, one reference
after another, and the last of them closes a cycle or has no value.
-/

namespace DesignTokens

open Relation

inductive Walked (store : Store) (theme : Theme) (root : Path) : List Path → Path → Prop
  | start : Walked store theme root [] root
  | step {trail current next} : Walked store theme root trail current → current ∉ trail →
      Follows store theme current next → Walked store theme root (current :: trail) next

variable {store : Store} {theme : Theme} {root current : Path} {trail : List Path}

namespace Walked

theorem distinct (walked : Walked store theme root trail current) : trail.Nodup := by
  induction walked with
  | start => exact List.nodup_nil
  | step _ fresh _ ih => exact List.nodup_cons.mpr ⟨fresh, ih⟩

theorem linked (walked : Walked store theme root trail current) :
    (trail.reverse ++ [current]).IsChain (Follows store theme) := by
  have backwards : (current :: trail).IsChain fun later earlier =>
      Follows store theme earlier later := by
    induction walked with
    | start => exact List.isChain_singleton root
    | step _ _ follows ih => exact List.isChain_cons_cons.mpr ⟨follows, ih⟩
  rw [← List.reverse_cons]
  exact List.isChain_reverse.mpr backwards

theorem head?_eq (walked : Walked store theme root trail current) :
    (trail.reverse ++ [current]).head? = some root := by
  induction walked with
  | start => rfl
  | step _ _ _ ih => rw [List.reverse_cons, List.head?_append, ih, Option.some_or]

theorem reaches (walked : Walked store theme root trail current) :
    Reaches store theme root current := by
  induction walked with
  | start => exact ReflTransGen.refl
  | step _ _ follows ih => exact ih.tail follows

theorem shows_root {last : Path} (walked : Walked store theme root (last :: trail) current) :
    ∃ raw, Shows store theme root raw := by
  generalize visited : last :: trail = whole at walked
  induction walked generalizing last trail with
  | start => exact absurd visited (List.cons_ne_nil _ _)
  | step before _ follows ih =>
      obtain ⟨rfl, rfl⟩ := List.cons.inj visited
      cases before with
      | start =>
          rcases follows with ⟨raw, _, shows, _⟩
          exact ⟨raw, shows⟩
      | step _ _ _ => exact ih rfl

end Walked

inductive Halts (store : Store) (theme : Theme) (trail : List Path) (current : Path) :
    Error → Prop
  | visited : current ∈ trail → Halts store theme trail current
      (.circular (trail.reverse ++ [current]))
  | missing : (∀ raw, ¬ Shows store theme current raw) → Halts store theme trail current
      (.notFound current (absenceAfter trail))

/-- A walk that fails with anything but a transform fails where its references lead. -/
theorem exists_halts {error : Error} (walked : Walked store theme root trail current)
    (failed : plainFrom store theme trail current = .error error)
    (led : error.kind ∉ transformKinds) :
    ∃ trail' last, Walked store theme root trail' last ∧ Halts store theme trail' last error := by
  induction trail, current using plainFrom.induct store theme with
  | case1 trail current visited =>
      rw [plainFrom_visited visited] at failed
      obtain rfl := Except.error.inj failed
      exact ⟨trail, current, walked, Halts.visited visited⟩
  | case2 trail current fresh missing =>
      rw [plainFrom_missing fresh missing] at failed
      obtain rfl := Except.error.inj failed
      exact ⟨trail, current, walked, Halts.missing (visible?_eq_none_iff.mp missing)⟩
  | case3 trail current fresh raw shown ih =>
      rcases plainFrom_fails_onwards fresh shown failed led with
        ⟨text, transform, target, member, points, failed⟩
      have follows : Follows store theme current target :=
        ⟨raw, text, visible?_eq_some_iff.mp shown,
          Value.mem_targets_of_mem_references member, points⟩
      exact ih target (walked.step fresh follows) failed

/-- A chain of references as it is reported: it starts at a path, each value refers to the next
path, and none comes twice before the last one closes the cycle. -/
structure ClosesOn (store : Store) (theme : Theme) (path : Path) (chain : List Path) : Prop where
  starts : chain.head? = some path
  linked : chain.IsChain (Follows store theme)
  distinct : chain.dropLast.Nodup
  closed : ∃ looped ∈ chain.dropLast, chain.getLast? = some looped

theorem Walked.closesOn (walked : Walked store theme root trail current)
    (visited : current ∈ trail) :
    ClosesOn store theme root (trail.reverse ++ [current]) where
  starts := walked.head?_eq
  linked := walked.linked
  distinct := by
    rw [List.dropLast_concat, List.nodup_reverse]
    exact walked.distinct
  closed := by
    rw [List.dropLast_concat, List.getLast?_concat]
    exact ⟨current, List.mem_reverse.mpr visited, rfl⟩

inductive Misses (store : Store) (theme : Theme) (path : Path) : Path → Absence → Prop
  | itself : Misses store theme path path .plain
  | another {missing source} : missing ≠ path → Reaches store theme path source →
      Follows store theme source missing →
      Misses store theme path missing (.referencedFrom source)

theorem Walked.misses (walked : Walked store theme root trail current)
    (absent : ∀ raw, ¬ Shows store theme current raw) :
    Misses store theme root current (absenceAfter trail) := by
  cases walked with
  | start => exact Misses.itself
  | @step trail last _ before fresh follows =>
      obtain ⟨raw, shows⟩ := (before.step fresh follows).shows_root
      refine Misses.another ?_ before.reaches follows
      rintro rfl
      exact absent raw shows

/-- A cycle that is reported is one that the references of the path lead into, step by step,
and a path that is reported as missing has no value. -/
theorem resolution_diagnosed {cache : Cache} (memory : MemoryOf store cache) (theme : Theme)
    (allowance : Allowance) (path : Path) :
    (∀ chain, outcome store theme allowance cache path = .error (.circular chain) →
      ClosesOn store theme path chain) ∧
    ∀ missing absence,
      outcome store theme allowance cache path = .error (.notFound missing absence) →
        (∀ raw, ¬ Shows store theme missing raw) ∧ Misses store theme path missing absence := by
  have halted : ∀ error, outcome store theme allowance cache path = .error error →
      error.kind ∉ transformKinds → error ≠ .tooDeep path →
        ∃ trail last, Walked store theme path trail last ∧ Halts store theme trail last error := by
    intro error failed led shallow
    exact exists_halts Walked.start (plain_of_outcome_error memory.sound failed shallow) led
  constructor
  · intro chain failed
    rcases halted _ failed (by simp [transformKinds, Error.kind]) (by simp) with
      ⟨trail, last, walked, halts⟩
    cases halts with
    | visited visited => exact walked.closesOn visited
  · intro missing absence failed
    rcases halted _ failed (by simp [transformKinds, Error.kind]) (by simp) with
      ⟨trail, last, walked, halts⟩
    cases halts with
    | missing absent => exact ⟨absent, walked.misses absent⟩

namespace Tangle

open Tower

def tokens : Store :=
  Store.empty.setAll
    [(path 0, .array [.null, .alias (label 1)]), (path 1, .alias (label 2)),
      (path 2, .object [("twice", .reference (label 1) (some (.scale 2)))]),
      (path 3, .array [.alias (label 4)])] .light

theorem points {level : Nat} {raw : Value}
    (shown : tokens.visible? (path level) .light = some raw) :
    Points tokens .light (label level) (path level) :=
  points_of_shows (visible?_eq_some_iff.mp shown)

theorem points_missing : Points tokens .light (label 4) (path 4) :=
  target?_eq_some_iff.mp (by decide)

theorem outcome_circular :
    outcome tokens .light .unlimited Table.empty (path 0) =
      .error (.circular [path 0, path 1, path 2, path 1]) := by
  have list : tokens.visible? (path 0) .light = some (.array [.null, .alias (label 1)]) := by rfl
  have onward : tokens.visible? (path 1) .light = some (.alias (label 2)) := by rfl
  have object : tokens.visible? (path 2) .light =
      some (.object [("twice", .reference (label 1) (some (.scale 2)))]) := by rfl
  rw [outcome_eq_plain (Cache.sound_empty _) (fits_unlimited _),
    plainFrom_shown List.not_mem_nil list]
  simp only [Value.replaceReferences, Value.replaceInItems, readWith_points (points onward)]
  rw [plainFrom_shown (by decide) onward]
  simp only [Value.replaceReferences, readWith_points (points object)]
  rw [plainFrom_shown (by decide) object]
  simp only [Value.replaceReferences, Value.replaceInEntries, readWith_points (points onward)]
  rw [plainFrom_visited (by decide)]
  rfl

theorem outcome_missing :
    outcome tokens .light .unlimited Table.empty (path 3) =
      .error (.notFound (path 4) (.referencedFrom (path 3))) := by
  have list : tokens.visible? (path 3) .light = some (.array [.alias (label 4)]) := by rfl
  rw [outcome_eq_plain (Cache.sound_empty _) (fits_unlimited _),
    plainFrom_shown List.not_mem_nil list]
  simp only [Value.replaceReferences, Value.replaceInItems, readWith_points points_missing]
  rw [plainFrom_missing (by decide) (by decide)]
  rfl

end Tangle

open Tangle Tower in
theorem resolution_diagnosed_tangle :
    ClosesOn tokens .light (path 0) [path 0, path 1, path 2, path 1] ∧
      (∀ raw, ¬ Shows tokens .light (path 4) raw) ∧
      Misses tokens .light (path 3) (path 4) (.referencedFrom (path 3)) := by
  have diagnosed := resolution_diagnosed (MemoryOf.empty tokens) .light .unlimited
  exact ⟨(diagnosed (path 0)).1 _ outcome_circular, (diagnosed (path 3)).2 _ _ outcome_missing⟩

end DesignTokens
