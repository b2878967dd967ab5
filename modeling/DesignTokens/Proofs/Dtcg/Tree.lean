import DesignTokens.Dtcg.Document
import DesignTokens.Proofs.Path.Reading
import DesignTokens.Proofs.Table

/-!
The tree of a document.  Laying fields over the group at the end of a path changes the
fields of that group and of no other, and brings in one token where there was none.
-/

namespace DesignTokens

namespace Dtcg

def groupAt (members : Members) : List String → Members
  | [] => members
  | key :: rest => groupAt (membersOf (members.find? key)) rest

def ownFields (members : Members) : Members :=
  members.filter fun entry => isFieldKey entry.1

def IsRoute (keys : List String) : Prop :=
  ∀ key ∈ keys, isFieldKey key = false

theorem IsRoute.head {key : String} {rest : List String} (route : IsRoute (key :: rest)) :
    isFieldKey key = false :=
  route key List.mem_cons_self

theorem IsRoute.tail {key : String} {rest : List String} (route : IsRoute (key :: rest)) :
    IsRoute rest :=
  fun other member => route other (List.mem_cons_of_mem _ member)

theorem isFieldKey_of_isSegment {text : String} (segment : isSegment text = true) :
    isFieldKey text = false := by
  rw [Bool.eq_false_iff]
  intro field
  rw [isFieldKey, beq_iff_eq] at field
  rw [← String.ofList_toList (s := text)] at segment
  cases shape : text.toList with
  | nil => simp [shape] at field
  | cons c rest =>
      rw [shape] at field segment
      obtain rfl := Option.some.inj field
      exact absurd (isSegmentChar_head _ rest segment) (by decide)

theorem isRoute_segments (path : Path) : IsRoute path.segments :=
  fun segment member => isFieldKey_of_isSegment (path.valid segment member)

theorem find?_ownFields (members : Members) {key : String} (field : isFieldKey key = true) :
    (ownFields members).find? key = members.find? key := by
  unfold ownFields
  induction members with
  | nil => rfl
  | cons entry rest ih =>
      obtain ⟨head, member⟩ := entry
      by_cases same : head = key
      · subst same
        simp [field, Entries.find?]
      · by_cases own : isFieldKey head = true <;> simp [own, same, Entries.find?, ih]

theorem isToken_ownFields (members : Members) : isToken (ownFields members) = isToken members := by
  rw [isToken, find?_ownFields members (by decide), isToken]

theorem ownFields_insert_group (members : Members) {key : String} (group : isFieldKey key = false)
    (member : Json) : ownFields (members.insert key member) = ownFields members := by
  unfold ownFields
  induction members with
  | nil => simp [Entries.insert, group]
  | cons entry rest ih =>
      obtain ⟨head, old⟩ := entry
      by_cases same : head = key
      · subst same
        simp [Entries.insert, group]
      · by_cases field : isFieldKey head = true <;> simp [Entries.insert, same, field, ih]

theorem ownFields_insert_field (members : Members) {key : String} (field : isFieldKey key = true)
    (member : Json) :
    ownFields (members.insert key member) = (ownFields members).insert key member := by
  unfold ownFields
  induction members with
  | nil => simp [Entries.insert, field]
  | cons entry rest ih =>
      obtain ⟨head, old⟩ := entry
      by_cases same : head = key
      · subst same
        simp [Entries.insert, field]
      · by_cases own : isFieldKey head = true <;> simp [Entries.insert, same, own, ih]

theorem ownFields_insertAll {fields : Members} (each : ∀ entry ∈ fields, isFieldKey entry.1 = true)
    (members : Members) :
    ownFields (members.insertAll fields) = (ownFields members).insertAll fields := by
  induction fields generalizing members with
  | nil => rfl
  | cons entry rest ih =>
      have later := ih (fun other member => each other (List.mem_cons_of_mem _ member))
        (members.insert entry.1 entry.2)
      rw [ownFields_insert_field members (each entry List.mem_cons_self)] at later
      exact later

structure IsEntry (fields : Members) : Prop where
  marked : ∀ entry ∈ fields, isFieldKey entry.1 = true
  distinct : fields.keys.Nodup
  valued : isToken fields = true

theorem insertAll_groups {fields : Members} (each : ∀ entry ∈ fields, isFieldKey entry.1 = true)
    (members : Members) {key : String} (group : isFieldKey key = false) :
    (members.insertAll fields).find? key = members.find? key := by
  refine Entries.find?_insertAll_of_not_mem fields members key ?_
  rintro entry member rfl
  rw [each entry member] at group
  exact nomatch group

/-- The group at the end of the path has the fields laid over its own; all others have
the fields they had. -/
theorem groupAt_place {fields : Members} (each : ∀ entry ∈ fields, isFieldKey entry.1 = true)
    {segments : List String} (path : IsRoute segments) {route : List String}
    (keys : IsRoute route) (members : Members) :
    ownFields (groupAt (place members fields segments) route) =
      if route = segments then (ownFields (groupAt members route)).insertAll fields
      else ownFields (groupAt members route) := by
  induction segments generalizing members route with
  | nil =>
      cases route with
      | nil => simp [place, groupAt, ownFields_insertAll each]
      | cons key rest => simp [place, groupAt, insertAll_groups each members keys.head]
  | cons segment segments ih =>
      cases route with
      | nil => simp [place, groupAt, ownFields_insert_group members path.head]
      | cons key rest =>
          rw [place, groupAt, groupAt, Entries.find?_insert]
          by_cases same : segment = key
          · subst same
            simp [membersOf, ih path.tail keys.tail]
          · simp [same, Ne.symm same]

theorem isToken_insert_group (members : Members) {key : String} (group : isFieldKey key = false)
    (member : Json) : isToken (members.insert key member) = isToken members := by
  rw [← isToken_ownFields, ownFields_insert_group members group, isToken_ownFields]

theorem countIn_membersOf (member : Option Json) :
    countTokens (membersOf member) = (member.map countIn).getD 0 := by
  rcases member with _ | member
  · rfl
  · cases member <;> rfl

theorem countBelow_insert (members : Members) {key : String} (group : isFieldKey key = false)
    (member : Json) :
    countBelow (members.insert key member) + countTokens (membersOf (members.find? key)) =
      countBelow members + countIn member := by
  rw [countIn_membersOf]
  induction members with
  | nil => simp [Entries.insert, Entries.find?, countBelow, group]
  | cons entry rest ih =>
      obtain ⟨head, old⟩ := entry
      by_cases same : head = key
      · subst same
        simp [Entries.insert, Entries.find?, countBelow, group]
        omega
      · simp only [Entries.insert, Entries.find?, same, if_false, countBelow]
        omega

theorem countBelow_insert_field (members : Members) {key : String} (field : isFieldKey key = true)
    (member : Json) : countBelow (members.insert key member) = countBelow members := by
  induction members with
  | nil => simp [Entries.insert, countBelow, field]
  | cons entry rest ih =>
      obtain ⟨head, old⟩ := entry
      by_cases same : head = key
      · subst same
        simp [Entries.insert, countBelow, field]
      · simp [Entries.insert, same, countBelow, ih]

theorem countBelow_insertAll {fields : Members} (each : ∀ entry ∈ fields, isFieldKey entry.1 = true)
    (members : Members) : countBelow (members.insertAll fields) = countBelow members := by
  induction fields generalizing members with
  | nil => rfl
  | cons entry rest ih =>
      have later := ih (fun other member => each other (List.mem_cons_of_mem _ member))
        (members.insert entry.1 entry.2)
      rw [countBelow_insert_field members (each entry List.mem_cons_self)] at later
      exact later

theorem ownFields_place_here {fields : Members} (entry : IsEntry fields) {segments : List String}
    (path : IsRoute segments) {members : Members}
    (fresh : ownFields (groupAt members segments) = []) :
    ownFields (groupAt (place members fields segments) segments) = fields := by
  rw [groupAt_place entry.marked path path, if_pos rfl, fresh]
  exact Entries.insertAll_eq_append [] fields entry.distinct

theorem countTokens_place {fields : Members} (entry : IsEntry fields) {segments : List String}
    (path : IsRoute segments) {members : Members}
    (fresh : ownFields (groupAt members segments) = []) :
    countTokens (place members fields segments) = countTokens members + 1 := by
  induction segments generalizing members with
  | nil =>
      have before : isToken members = false := by
        rw [← isToken_ownFields, show ownFields members = [] from fresh]
        rfl
      have after : isToken (members.insertAll fields) = true := by
        rw [← isToken_ownFields, show ownFields (members.insertAll fields) = fields from
          ownFields_place_here entry path fresh]
        exact entry.valued
      simp [place, countTokens, countIn, before, after, countBelow_insertAll entry.marked]
      omega
  | cons segment segments ih =>
      have inner := ih path.tail fresh
      have below := countBelow_insert members path.head
        (.object (place (membersOf (members.find? segment)) fields segments))
      have whole : ∀ group, countIn (.object group) = countTokens group := fun _ => rfl
      simp only [place, countTokens, countIn, isToken_insert_group members path.head]
      rw [whole, inner] at below
      omega

structure Lists (entry : Path → Members → Prop) (members : Members) (paths : List Path) :
    Prop where
  holds : ∀ path ∈ paths, entry path (ownFields (groupAt members path.segments))
  nothing : ∀ route, IsRoute route → (∀ path ∈ paths, path.segments ≠ route) →
    ownFields (groupAt members route) = []
  count : countTokens members = paths.length

theorem groupAt_nil (route : List String) : groupAt [] route = [] := by
  induction route with
  | nil => rfl
  | cons key rest ih => exact ih

theorem Lists.start (entry : Path → Members → Prop) : Lists entry [] [] where
  holds := by simp
  nothing := by
    intro route _ _
    rw [groupAt_nil]
    rfl
  count := rfl

theorem Lists.place {entry : Path → Members → Prop} {members fields : Members} {paths : List Path}
    {path : Path} (lists : Lists entry members paths) (fresh : path ∉ paths)
    (shape : IsEntry fields) (mine : entry path fields) :
    Lists entry (place members fields path.segments) (paths ++ [path]) := by
  have apart : ∀ other ∈ paths, other.segments ≠ path.segments := by
    intro other member same
    rw [Path.eq_of_segments same] at member
    exact fresh member
  have empty := lists.nothing path.segments (isRoute_segments path) apart
  constructor
  · intro other member
    rcases List.mem_append.mp member with earlier | last
    · rw [groupAt_place shape.marked (isRoute_segments path) (isRoute_segments other),
        if_neg (apart other earlier)]
      exact lists.holds other earlier
    · rw [List.mem_singleton.mp last, ownFields_place_here shape (isRoute_segments path) empty]
      exact mine
  · intro route keys elsewhere
    rw [groupAt_place shape.marked (isRoute_segments path) keys,
      if_neg fun same => elsewhere path (by simp) same.symm]
    exact lists.nothing route keys fun other member => elsewhere other (by simp [member])
  · rw [countTokens_place shape (isRoute_segments path) empty, lists.count]
    simp

end Dtcg

end DesignTokens
