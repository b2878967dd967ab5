import DesignTokens.Proofs.Dtcg.Document
import DesignTokens.Proofs.Json.Writer

/-!
Where the numbers of a document come from: one of them is not finite only if a token stores it,
or if a token is transformed by it or into it.
-/

namespace DesignTokens

namespace Value

mutual

def IsFinite : Value → Prop
  | .number value => value.isFinite = true
  | .array items => ItemsFinite items
  | .object entries => EntriesFinite entries
  | _ => True

def ItemsFinite : List Value → Prop
  | [] => True
  | item :: items => item.IsFinite ∧ ItemsFinite items

def EntriesFinite : List (String × Value) → Prop
  | [] => True
  | (_, value) :: entries => value.IsFinite ∧ EntriesFinite entries

end

end Value

def Transform.IsFinite : Transform → Prop
  | .adjust _ factor => factor.isFinite = true
  | .math _ operand => operand.isFinite = true
  | .scale factor => factor.isFinite = true

theorem Json.entriesFinite_iff (entries : List (String × Json)) :
    EntriesFinite entries ↔ ∀ entry ∈ entries, entry.2.IsFinite := by
  induction entries with
  | nil => simp [EntriesFinite]
  | cons entry entries ih =>
      obtain ⟨key, value⟩ := entry
      simp [EntriesFinite, ih]

namespace Dtcg

theorem numberJson_isFinite (value : Float) :
    (numberJson value).IsFinite ↔ value.isFinite = true := by
  rw [numberJson]
  split
  · rename_i number whole
    rcases Option.bind_eq_some_iff.mp whole with ⟨b, parts, _⟩
    exact iff_of_true trivial (isFinite_iff.mpr ⟨b, parts⟩)
  · exact Iff.rfl

theorem typographyJson_isFinite (style : Typography) : (typographyJson style).IsFinite := by
  refine (Json.entriesFinite_iff _).mpr fun entry member => ?_
  obtain ⟨⟨key, text⟩, _, made⟩ := List.mem_filterMap.mp member
  obtain ⟨word, _, rfl⟩ := Option.map_eq_some_iff.mp made
  trivial

theorem shadowJson_isFinite (layer : Shadow) : (shadowJson layer).IsFinite := by
  refine (Json.entriesFinite_iff _).mpr fun entry member => ?_
  simp only [List.mem_append, List.mem_cons, List.not_mem_nil, or_false, Option.mem_toList,
    Option.map_eq_some_iff] at member
  rcases member with ((rfl | rfl | rfl | rfl) | ⟨color, _, rfl⟩) | inset
  · trivial
  · trivial
  · trivial
  · trivial
  · trivial
  · split at inset
    · rw [List.mem_singleton.mp inset]
      trivial
    · exact absurd inset List.not_mem_nil

mutual

theorem valueJson_isFinite : ∀ value : Value, (valueJson value).IsFinite ↔ value.IsFinite
  | .number value => numberJson_isFinite value
  | .typography style => iff_of_true (typographyJson_isFinite style) trivial
  | .shadow layer => iff_of_true (shadowJson_isFinite layer) trivial
  | .array items => itemsJson_isFinite items
  | .object entries => entriesJson_isFinite entries
  | .string _ => Iff.rfl
  | .boolean _ => Iff.rfl
  | .null => Iff.rfl
  | .color _ => Iff.rfl
  | .dimension _ _ => Iff.rfl
  | .alias _ => Iff.rfl
  | .reference _ _ => Iff.rfl

theorem itemsJson_isFinite : ∀ items : List Value,
    Json.ItemsFinite (itemsJson items) ↔ Value.ItemsFinite items
  | [] => Iff.rfl
  | item :: items => and_congr (valueJson_isFinite item) (itemsJson_isFinite items)

theorem entriesJson_isFinite : ∀ entries : List (String × Value),
    Json.EntriesFinite (entriesJson entries) ↔ Value.EntriesFinite entries
  | [] => Iff.rfl
  | (_, value) :: entries => and_congr (valueJson_isFinite value) (entriesJson_isFinite entries)

end

theorem transformJson_isFinite (transform : Transform) :
    (transformJson transform).IsFinite ↔ transform.IsFinite := by
  cases transform <;>
    simp [transformJson, Transform.IsFinite, Json.IsFinite, Json.EntriesFinite]

def WritesFinite (raw : Value) (resolved : Option Value) : Prop :=
  match raw, resolved with
  | .reference _ (some transform), some value => value.IsFinite ∧ transform.IsFinite
  | raw, _ => raw.IsFinite

theorem valueFields_isFinite (raw : Value) (resolved : Option Value) :
    Json.EntriesFinite (valueFields raw resolved) ↔ WritesFinite raw resolved := by
  have typed : ∀ fields : Members, Json.EntriesFinite
      (((resolved.bind type?).map fun name => ("$type", Json.text name)).toList ++ fields) ↔
        Json.EntriesFinite fields := by
    intro fields
    cases resolved.bind type? with
    | none => exact Iff.rfl
    | some name => exact iff_of_eq (true_and _)
  unfold valueFields WritesFinite
  dsimp only
  split
  · rw [typed]
    simp [Json.EntriesFinite, Json.IsFinite, valueJson_isFinite, transformJson_isFinite]
  · rw [typed]
    simp [Json.EntriesFinite, valueJson_isFinite]

theorem metadataFields_isFinite (metadata : Option Metadata) :
    Json.EntriesFinite ((metadata.map metadataFields).getD []) := by
  cases metadata with
  | none => trivial
  | some metadata =>
      simp only [Option.map_some, Option.getD_some, metadataFields]
      cases metadata.description.filter (!·.isEmpty) <;> cases metadata.deprecated <;>
        simp [Json.EntriesFinite, Json.IsFinite]

theorem fields_isFinite (raw : Value) (resolved : Option Value) (metadata : Option Metadata) :
    Json.EntriesFinite (valueFields raw resolved ++ (metadata.map metadataFields).getD []) ↔
      WritesFinite raw resolved := by
  rw [← valueFields_isFinite]
  simp only [Json.entriesFinite_iff, List.forall_mem_append]
  exact and_iff_left ((Json.entriesFinite_iff _).mp (metadataFields_isFinite metadata))

theorem insert_isFinite {members : Members} {member : Json} (finite : Json.EntriesFinite members)
    (single : member.IsFinite) (key : String) :
    Json.EntriesFinite (members.insert key member) := by
  induction members with
  | nil => exact ⟨single, trivial⟩
  | cons entry rest ih =>
      obtain ⟨head, old⟩ := entry
      rw [Entries.insert]
      split
      · exact ⟨single, finite.2⟩
      · exact ⟨finite.1, ih finite.2⟩

theorem membersOf_isFinite {members : Members} (finite : Json.EntriesFinite members)
    (key : String) : Json.EntriesFinite (membersOf (members.find? key)) := by
  induction members with
  | nil => trivial
  | cons entry rest ih =>
      obtain ⟨head, member⟩ := entry
      rw [Entries.find?]
      split
      · cases member with
        | object inner => exact finite.1
        | _ => trivial
      · exact ih finite.2

theorem place_isFinite {fields : Members} (new : Json.EntriesFinite fields)
    (segments : List String) {members : Members} (finite : Json.EntriesFinite members) :
    Json.EntriesFinite (place members fields segments) := by
  induction segments generalizing members with
  | nil =>
      rw [place]
      induction fields generalizing members with
      | nil => exact finite
      | cons entry rest ih => exact ih new.2 (insert_isFinite finite new.1 entry.1)
  | cons segment rest ih =>
      have inner : (Json.object (place (membersOf (members.find? segment)) fields rest)).IsFinite :=
        ih (membersOf_isFinite finite segment)
      exact insert_isFinite finite inner segment

theorem groupAt_isFinite {members : Members} (finite : Json.EntriesFinite members)
    (route : List String) : Json.EntriesFinite (groupAt members route) := by
  induction route generalizing members with
  | nil => exact finite
  | cons key rest ih => exact ih (membersOf_isFinite finite key)

theorem ownFields_isFinite {members : Members} (finite : Json.EntriesFinite members) :
    Json.EntriesFinite (ownFields members) := by
  rw [Json.entriesFinite_iff] at finite ⊢
  exact fun entry member => finite entry (List.mem_filter.mp member).1

end Dtcg

namespace View

variable {view : View} {theme : Theme}

def WritesFinite (view : View) (theme : Theme) (path : Path) : Prop :=
  ∀ raw, Shows view.store theme path raw →
    raw.IsFinite ∧ ∀ target transform value, raw = .reference target (some transform) →
      Denotes view.store theme path value → value.IsFinite ∧ transform.IsFinite

theorem writesFinite_iff {path : Path} {raw : Value} (shows : Shows view.store theme path raw) :
    view.WritesFinite theme path ↔
      Dtcg.WritesFinite raw (plainFrom view.store theme [] path).toOption := by
  constructor
  · intro finite
    rcases finite raw shows with ⟨stored, transformed⟩
    unfold Dtcg.WritesFinite
    split
    · rename_i target transform value found
      cases plain : plainFrom view.store theme [] path with
      | error error =>
          rw [plain] at found
          cases found
      | ok held =>
          rw [plain] at found
          obtain rfl : held = value := Option.some.inj found
          exact transformed target transform held rfl (plainFrom_nil_eq_ok_iff.mp plain)
    · exact stored
  · intro written other again
    obtain rfl := shows.unique again
    constructor
    · unfold Dtcg.WritesFinite at written
      split at written
      · trivial
      · exact written
    · rintro target transform value rfl denotes
      rwa [plainFrom_nil_eq_ok_iff.mpr denotes] at written

theorem plainFields_isFinite {path : Path} {fields : Dtcg.Members}
    (made : view.plainFields theme path = .ok fields) :
    Json.EntriesFinite fields ↔ view.WritesFinite theme path := by
  rw [plainFields] at made
  cases shown : view.store.visible? path theme with
  | none =>
      rw [shown] at made
      cases made
  | some raw =>
      rw [shown] at made
      obtain rfl := Except.ok.inj made
      rw [Dtcg.fields_isFinite, writesFinite_iff (visible?_eq_some_iff.mp shown)]

theorem plainTokens_isFinite {paths : List Path} {members result : Dtcg.Members}
    (finite : Json.EntriesFinite members) (each : ∀ path ∈ paths, view.WritesFinite theme path)
    (made : view.plainTokens theme members paths = .ok result) : Json.EntriesFinite result := by
  induction paths generalizing members with
  | nil => exact Except.ok.inj made ▸ finite
  | cons path rest ih =>
      rw [plainTokens] at made
      cases first : view.plainFields theme path with
      | error error =>
          rw [first] at made
          cases made
      | ok fields =>
          rw [first] at made
          have new := (plainFields_isFinite first).mpr (each path List.mem_cons_self)
          exact ih (Dtcg.place_isFinite new path.segments finite)
            (fun other member => each other (List.mem_cons_of_mem path member)) made

theorem writesFinite_of_contributes {start : Cache} (sound : start.Sound view.store) {path : Path}
    {fields : Dtcg.Members} (contributes : view.Contributes theme start path fields)
    (finite : Json.EntriesFinite fields) : view.WritesFinite theme path := by
  rcases contributes with ⟨before, reached, made⟩
  have kept : before.Sound view.store := by
    clear made
    induction reached with
    | refl => exact sound
    | tail _ step ih =>
        rcases step with ⟨owner, other, rfl⟩
        exact ih.resolve other
  rcases tokenFields_eq made with ⟨raw, shows, rfl⟩
  rw [valueFields_outcome kept shows, Dtcg.fields_isFinite] at finite
  exact (writesFinite_iff shows).mpr finite

/-- The numbers of a document are finite if and only if those are that are written for its
tokens. -/
theorem document_isFinite {cache after : Cache} (proper : view.store.Proper)
    (sound : cache.Sound view.store) {members : Dtcg.Members}
    (run : (view.document theme).run cache = (.ok members, after)) :
    (Json.object members).IsFinite ↔
      ∀ path ∈ view.publicPaths theme, view.WritesFinite theme path := by
  constructor
  · intro finite path listed
    have own := (document_lists run).holds path listed
    exact writesFinite_of_contributes sound own
      (Dtcg.ownFields_isFinite (Dtcg.groupAt_isFinite finite path.segments))
  · intro each
    have plain : view.plainDocument theme = .ok members := by
      rcases (document_settles proper theme cache sound).2 with same | ⟨none, _⟩
      · rw [run] at same
        exact same.symm
      · exact none.elim
    have start : Json.EntriesFinite [] := trivial
    exact plainTokens_isFinite start each plain

end View

end DesignTokens
