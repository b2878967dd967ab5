import Mathlib.Data.List.Nodup
import DesignTokens.Proofs.Resolution.Cached

/-!
Towers: composites that each refer to the next one, down to a value of its own.  They
show that a limit on stack frames is felt by the first walk that goes beyond it.
-/

namespace DesignTokens

namespace Tower

def letters (level : Nat) : List Char :=
  List.replicate (level + 1) 't'

def label (level : Nat) : String :=
  String.ofList (letters level)

theorem splitWhere_letters (level : Nat) :
    splitWhere (· == '.') (letters level) = [letters level] := by
  induction level with
  | zero => rfl
  | succ level ih =>
      rcases splitWhere_cons_inner (· == '.') 't' (letters level) (by decide) with
        ⟨part, parts, before, after⟩
      rw [ih] at before
      obtain ⟨rfl, rfl⟩ := List.cons.inj before
      exact after

theorem isSegment_label (level : Nat) : isSegment (label level) = true := by
  rw [label, letters, List.replicate_succ']
  refine isSegment_of_isSegmentChar _ 't' ?_
  intro other member
  rw [← List.replicate_succ', List.mem_replicate] at member
  rw [member.2]
  decide

def path (level : Nat) : Path :=
  ⟨[label level], by simp, by simp [isSegment_label]⟩

theorem path_injective : Function.Injective path := by
  intro level other same
  have labels : label level = label other := by
    have segments := congrArg Path.segments same
    simpa [path] using segments
  have lengths := congrArg (fun text => text.toList.length) labels
  simpa [label, letters] using lengths

theorem isPathText_label (level : Nat) : isPathText (label level) = true := by
  rw [isPathText_iff, label, String.toList_ofList, Segmented, splitWhere_letters]
  intro part member
  rw [List.mem_singleton] at member
  rw [member]
  exact isSegment_label level

theorem trim_letters (level : Nat) : trim (letters level) = letters level := by
  have visible : isBlank 't' = false := by decide
  have start : (letters level).dropWhile isBlank = letters level := by
    rw [letters, List.replicate_succ, List.dropWhile_cons, visible]
    rfl
  rw [trim, trimWhere, start, letters, List.replicate_succ', trimEndWhere_concat, visible]
  rfl

theorem parse_label (level : Nat) : Path.parse (label level) = .ok (path level) := by
  have trimmedLabel : trimmed (label level) = label level := by
    rw [trimmed, label, String.toList_ofList, trim_letters]
  have nonempty : (label level).isEmpty = false := by
    simp [label, letters]
  have segments : splitAtChar '.' (label level) = [label level] := by
    rw [splitAtChar, label, String.toList_ofList, splitWhere_letters]
    rfl
  have valid : [label level] ≠ [] ∧ ∀ segment ∈ [label level], isSegment segment = true := by
    simp [isSegment_label]
  simp only [Path.parse, trimmedLabel, nonempty, segments, Path.ofSegments, dif_pos valid]
  rfl

theorem read_label (level : Nat) : Path.read (label level) = .ok (path level) := by
  rw [Path.read, parse_label]
  rfl

theorem not_isMagnitude_label (level : Nat) :
    (Value.ofLiteral (label level)).isMagnitude = false := by
  -- A number would start with a digit, a point or a dash, and a label starts with a letter.
  have noNumber : leadingNumber? (letters level) = none := by
    have noDigits : leadingDigits (letters level) = [] := by
      rw [letters, List.replicate_succ, leadingDigits, List.takeWhile_cons_of_neg (by decide)]
    have noDecimal : leadingDecimal? (letters level) = none := by
      rw [leadingDecimal?, noDigits]
      rw [letters, List.replicate_succ]
      rfl
    rw [letters, List.replicate_succ] at noDecimal ⊢
    simp [leadingNumber?, noDecimal]
  have text : trim (label level).toList = letters level := by
    rw [label, String.toList_ofList, trim_letters]
  simp only [Value.ofLiteral, text, plainNumber?, Value.dimensionOfText?, noNumber,
    Option.bind_none]
  split
  · rfl
  · split
    · rfl
    · split
      · rfl
      · split <;> rfl

def raw (height level : Nat) : Value :=
  if level < height then .array [.alias (label (level + 1))] else .null

def entries (height : Nat) : Entries (Path × Theme) Value :=
  (List.range (height + 1)).map fun level => ((path level, .light), raw height level)

theorem distinct_entries (height : Nat) : (entries height).keys.Nodup := by
  have keys : (entries height).keys =
      (List.range (height + 1)).map fun level => (path level, .light) := by
    simp [Entries.keys, entries]
  rw [keys]
  refine List.Nodup.map ?_ List.nodup_range
  intro level other same
  exact path_injective (Prod.mk.inj same).1

def store (height : Nat) : Store :=
  ⟨⟨entries height, distinct_entries height⟩, Table.empty, 1⟩

theorem shows {height level : Nat} (within : level ≤ height) :
    Shows (store height) .light (path level) (raw height level) := by
  refine Shows.own (Entries.find?_eq_some_of_mem (distinct_entries height) ?_)
  exact List.mem_map.mpr ⟨level, List.mem_range.mpr (by omega), rfl⟩

theorem light_of_get? {height : Nat} {other : Path} {theme : Theme} {held : Value}
    (found : (store height).get? other theme = some held) :
    theme = .light ∧ ∃ level ≤ height, other = path level := by
  rw [Store.get?, ← Table.mem_entries_iff] at found
  obtain ⟨level, listed, same⟩ := List.mem_map.mp found
  obtain ⟨key, _⟩ := Prod.mk.inj same
  obtain ⟨rfl, rfl⟩ := Prod.mk.inj key
  have within := List.mem_range.mp listed
  exact ⟨rfl, level, by omega, rfl⟩

theorem shows_unless_dark {height level : Nat} {theme : Theme} (lit : theme ≠ .dark)
    (within : level ≤ height) : Shows (store height) theme (path level) (raw height level) := by
  cases theme with
  | light => exact shows within
  | dark => exact absurd rfl lit
  | auto =>
      refine Shows.light ?_ ?_
      · cases held : (store height).get? (path level) .auto with
        | none => rfl
        | some other => exact absurd (light_of_get? held).1 (by decide)
      · exact Entries.find?_eq_some_of_mem (distinct_entries height)
          (List.mem_map.mpr ⟨level, List.mem_range.mpr (by omega), rfl⟩)

theorem points_of_shows {store : Store} {theme : Theme} {level : Nat} {value : Value}
    (shows : Shows store theme (path level) value) :
    Points store theme (label level) (path level) where
  shaped := isPathText_label level
  noMagnitude := not_isMagnitude_label level
  spelled := parse_label level
  named := fun _ => ⟨value, shows⟩

def Stands (tower : Store) (theme : Theme) (height : Nat) : Prop :=
  ∀ level ≤ height, Shows tower theme (path level) (raw height level)

theorem stands {height : Nat} {theme : Theme} (lit : theme ≠ .dark) :
    Stands (store height) theme height :=
  fun _ within => shows_unless_dark lit within

def value : Nat → Value
  | 0 => .null
  | below + 1 => .array [value below]

theorem of_holds_raw {height level depth : Nat} {text : String} {transform : Option Transform}
    (holds : (raw height level).Holds depth text transform) :
    level < height ∧ depth = 1 ∧ text = label (level + 1) := by
  rw [raw] at holds
  split at holds
  · rename_i below
    cases holds with
    | item listed inner =>
        obtain rfl := List.mem_singleton.mp listed
        cases inner
        exact ⟨below, rfl, rfl⟩
  · cases holds

namespace Stands

variable {tower : Store} {theme : Theme} {height level : Nat}

theorem points (stands : Stands tower theme height) (within : level ≤ height) :
    Points tower theme (label level) (path level) :=
  points_of_shows (stands level within)

theorem visible? (stands : Stands tower theme height) (below : level < height) :
    tower.visible? (path level) theme = some (.array [.alias (label (level + 1))]) := by
  have shown := visible?_eq_some_iff.mpr (stands level (Nat.le_of_lt below))
  rwa [raw, if_pos below] at shown

theorem target? (stands : Stands tower theme height) (within : level ≤ height) :
    tower.target? theme (label level) = some (path level) :=
  target?_eq_some_iff.mpr (stands.points within)

theorem denotes (stands : Stands tower theme height) {below : Nat} (whole : level + below = height) :
    Denotes tower theme (path level) (value below) := by
  induction below generalizing level with
  | zero =>
      refine Denotes.shown (stands level (by omega)) ?_
      rw [raw, if_neg (by omega)]
      exact Means.scalar rfl
  | succ below ih =>
      refine Denotes.shown (stands level (by omega)) ?_
      rw [raw, if_pos (by omega)]
      refine Means.array (MeansEach.cons (Means.alias ?_) MeansEach.nil)
      exact Reads.followed (stands.points (by omega)) (ih (by omega))

theorem leads_to_level (stands : Stands tower theme height) {frames : Nat} {last : Path}
    (within : level ≤ height) (leads : Leads tower theme (path level) frames last) :
    ∃ reached ≤ height, last = path reached ∧ frames + 4 * level = 4 * reached := by
  generalize start : path level = source at leads
  induction leads generalizing level with
  | here => exact ⟨level, within, start.symm, by omega⟩
  | step shown holds pointed _ ih =>
      subst start
      obtain rfl := shown.unique (stands level within)
      obtain ⟨below, rfl, rfl⟩ := of_holds_raw holds
      obtain ⟨reached, inside, same, sum⟩ :=
        @ih (level + 1) below ((stands.points below).unique pointed)
      refine ⟨reached, inside, same, ?_⟩
      rw [Allowance.cost]
      omega

theorem fits (stands : Stands tower theme height) {count : Nat} (within : level ≤ height)
    (enough : 4 * height ≤ 4 * level + count) :
    Fits tower theme (path level) (.frames count) := by
  intro frames last raw depth text transform leads shown holds
  obtain ⟨reached, inside, rfl, sum⟩ := stands.leads_to_level within leads
  obtain rfl := shown.unique (stands reached inside)
  obtain ⟨below, rfl, _⟩ := of_holds_raw holds
  rw [Allowance.cost]
  omega

end Stands

theorem denotes (below level : Nat) :
    Denotes (store (level + below)) .light (path level) (value below) :=
  (stands (by decide)).denotes rfl

theorem fits {height level count : Nat} (within : level ≤ height)
    (enough : 4 * height ≤ 4 * level + count) :
    Fits (store height) .light (path level) (.frames count) :=
  (stands (by decide)).fits within enough

theorem run_single_error {replace : Nat → String → Option Transform → Walk Value} {text : String}
    {error : Error} {before after : Cache}
    (run : (replace 1 text none).run before = (.error error, after)) :
    ((Value.array [.alias text]).replaceReferences replace 0).run before =
      (.error error, after) := by
  rw [Value.replaceReferences, Value.replaceInItems, Value.replaceReferences]
  exact run_bind_error (run_bind_error run)

theorem run_single_ok {replace : Nat → String → Option Transform → Walk Value} {text : String}
    {result : Value} {before after : Cache}
    (run : (replace 1 text none).run before = (.ok result, after)) :
    ((Value.array [.alias text]).replaceReferences replace 0).run before =
      (.ok (.array [result]), after) := by
  rw [Value.replaceReferences, Value.replaceInItems, Value.replaceReferences]
  have items : (do
      let first ← replace 1 text none
      let rest ← Value.replaceInItems replace 1 []
      return first :: rest : Walk (List Value)).run before = (.ok [result], after) := by
    rw [run_bind_ok run]
    rfl
  rw [run_bind_ok items]
  rfl

section Single

variable {held : Store} {theme : Theme} {count : Nat} {trail : List Path} {current next : Path}
  {text : String} {cache : Cache}

theorem within_single (enough : 4 ≤ count) :
    (Allowance.frames count).within? 1 = some (.frames (count - 4)) :=
  Allowance.within?_frames_eq_some_iff.mpr ⟨enough, rfl⟩

/-- A list of one reference is refused where the walk from there is, or where not even that walk
has the frames to begin. -/
theorem single_refused (miss : cache.find? (current, theme) = none) (fresh : current ∉ trail)
    (shown : held.visible? current theme = some (.array [.alias text]))
    (follows : held.target? theme text = some next)
    (deeper : 4 ≤ count →
      (resolveFrom held theme (.frames (count - 4)) (current :: trail) next).run cache =
        (.error (.tooDeep ((current :: trail).getLast (List.cons_ne_nil _ _))), cache)) :
    (resolveFrom held theme (.frames count) trail current).run cache =
      (.error (.tooDeep ((current :: trail).getLast (List.cons_ne_nil _ _))), cache) := by
  rw [resolveFrom_shown miss fresh shown]
  refine run_bind_error (run_single_error ?_)
  by_cases enough : 4 ≤ count
  · rw [within_single enough, readThrough, follows]
    exact run_bind_error (deeper enough)
  · have none : (Allowance.frames count).within? 1 = none := if_neg enough
    rw [none]
    rfl

/-- A list of one reference has the value of that, once this is remembered. -/
theorem single_remembered (miss : cache.find? (current, theme) = none) (fresh : current ∉ trail)
    (shown : held.visible? current theme = some (.array [.alias text]))
    (follows : held.target? theme text = some next) (enough : 4 ≤ count) {value : Value}
    (hit : cache.find? (next, theme) = some value) :
    ((resolveFrom held theme (.frames count) trail current).run cache).1 =
      .ok (.array [value]) := by
  have remembered : (resolveFrom held theme (.frames (count - 4)) (current :: trail) next).run
      cache = (.ok value, cache) := resolveFrom_remembered hit
  have member : (readThrough held theme ((Allowance.frames count).within? 1) trail current
      (fun inner target => resolveFrom held theme inner (current :: trail) target)
      text none).run cache = (.ok value, cache) := by
    rw [within_single enough, readThrough, follows]
    change (resolveFrom held theme (.frames (count - 4)) (current :: trail) next >>=
      fun operand => finish operand none current).run cache = _
    rw [run_bind_ok remembered]
    rfl
  rw [resolveFrom_shown miss fresh shown]
  exact congrArg Prod.fst (run_bind_ok (run_single_ok member))

end Single

/-- A walk that takes more frames than there are, with no level ahead remembered, ends where
they are used up. -/
theorem Stands.refused {tower : Store} {theme : Theme} {height level count : Nat}
    (stands : Stands tower theme height) {cache : Cache}
    (cold : ∀ path, cache.find? (path, theme) = none) {trail : List Path}
    (room : 4 * level + count < 4 * height) (ahead : ∀ later, level ≤ later → path later ∉ trail) :
    (resolveFrom tower theme (.frames count) trail (path level)).run cache =
      (.error (.tooDeep ((path level :: trail).getLast (List.cons_ne_nil _ _))), cache) := by
  induction count using Nat.strongRecOn generalizing level trail with
  | ind count ih =>
      refine single_refused (cold _) (ahead level (Nat.le_refl level))
        (stands.visible? (by omega)) (stands.target? (by omega)) fun enough => ?_
      have deeper := @ih (count - 4) (by omega) (level + 1) (path level :: trail) (by omega) (by
        intro later after member
        rcases List.mem_cons.mp member with same | earlier
        · have position := path_injective same
          omega
        · exact ahead later (by omega) earlier)
      rwa [List.getLast_cons (List.cons_ne_nil _ _)] at deeper

theorem outcome_refused_of_cold {height count : Nat} {theme : Theme} (lit : theme ≠ .dark)
    {cache : Cache} (cold : ∀ path, cache.find? (path, theme) = none)
    (room : count < 4 * height) :
    outcome (store height) theme (.frames count) cache (path 0) = .error (.tooDeep (path 0)) := by
  have run := @Stands.refused (store height) theme height 0 count (stands lit) cache cold []
    (by omega) (by simp)
  rw [outcome, resolve, run]
  rfl

/-- However many frames there are, a tower that takes more cannot be resolved, although its
top has a value. -/
theorem outcome_refused {height count : Nat} (room : count < 4 * height) :
    outcome (store height) .light (.frames count) Table.empty (path 0) =
      .error (.tooDeep (path 0)) :=
  outcome_refused_of_cold (by decide) (fun _ => Table.find?_empty _) room

/-- The top of a tower has its value, however high the tower is, once the next level has. -/
theorem Stands.outcome_remembered {tower : Store} {theme : Theme} {height count : Nat}
    (stands : Stands tower theme (height + 1)) {cache : Cache} (sound : cache.Sound tower)
    (enough : 4 ≤ count) (hit : cache.find? (path 1, theme) = some (value height)) :
    outcome tower theme (.frames count) cache (path 0) = .ok (value (height + 1)) := by
  cases top : cache.find? (path 0, theme) with
  | some held =>
      have whole : Denotes tower theme (path 0) (value (height + 1)) :=
        stands.denotes (Nat.zero_add _)
      rw [outcome, resolve, resolveFrom_remembered top, (sound _ _ _ top).unique whole]
  | none =>
      rw [outcome, resolve, value]
      exact single_remembered top List.not_mem_nil (stands.visible? (by omega))
        (stands.target? (by omega)) enough hit

theorem outcome_remembered {height count : Nat} {cache : Cache}
    (sound : cache.Sound (store (height + 1))) (enough : 4 ≤ count)
    (hit : cache.find? (path 1, .light) = some (value height)) :
    outcome (store (height + 1)) .light (.frames count) cache (path 0) =
      .ok (value (height + 1)) :=
  (stands (by decide)).outcome_remembered sound enough hit

end Tower

end DesignTokens
