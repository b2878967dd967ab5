import Mathlib.Data.List.Pairwise
import DesignTokens.Proofs.Stylesheet.Names
import DesignTokens.Stylesheet.Utilities

/-!
Families of utility classes.  Tokens of different families never set one property, so a class is
in doubt only where two tokens of one family get the same name.
-/

namespace DesignTokens

open Stylesheet

namespace Stylesheet

def Rule.Clashes (rule other : Rule) : Prop :=
  rule.selector = other.selector ∧ ∃ declaration ∈ rule.declarations,
    ∃ again ∈ other.declarations, declaration.property = again.property

def Unambiguous (rules : List Rule) : Prop :=
  rules.Pairwise fun rule other => ¬ rule.Clashes other

structure Family where
  head : String
  classes : List (String × List String)
  name : Path → String
  text? : Path → Value → Option String
  inhabited : classes ≠ []
  filled : ∀ entry ∈ classes, entry.2 ≠ []
  apart : classes.Pairwise fun first second => first.2.Disjoint second.2

namespace Family

variable (family : Family)

def selector (entry : String × List String) (path : Path) : String :=
  "." ++ entry.1 ++ "-" ++ family.name path

def rule (path : Path) (text : String) (entry : String × List String) : Rule :=
  ⟨family.selector entry path, entry.2.map fun property => ⟨property, text⟩⟩

def rules (path : Path) (value : Value) : List Rule :=
  match family.text? path value with
  | some text => family.classes.map (family.rule path text)
  | none => []

def properties : List String :=
  family.classes.flatMap (·.2)

variable {family} {path other : Path} {value next : Value}

theorem mem_rules_iff {rule : Rule} :
    rule ∈ family.rules path value ↔ ∃ text, family.text? path value = some text ∧
      ∃ entry ∈ family.classes, family.rule path text entry = rule := by
  unfold rules
  cases family.text? path value with
  | none => simp
  | some text => simp

theorem entry_eq_of_property {entry again : String × List String} {property : String}
    (first : entry ∈ family.classes) (second : again ∈ family.classes)
    (sets : property ∈ entry.2) (setting : property ∈ again.2) : entry = again := by
  by_contra different
  have : Std.Symm fun first second : String × List String => first.2.Disjoint second.2 :=
    ⟨fun _ _ => List.disjoint_symm⟩
  exact family.apart.forall first second different sets setting

theorem exists_clash_iff :
    (∃ rule ∈ family.rules path value, ∃ again ∈ family.rules other next, rule.Clashes again) ↔
      (family.text? path value).isSome ∧ (family.text? other next).isSome ∧
        family.name path = family.name other := by
  constructor
  · rintro ⟨rule, listed, again, member, clash⟩
    obtain ⟨text, written, entry, first, rfl⟩ := mem_rules_iff.mp listed
    obtain ⟨later, rewritten, repeated, second, rfl⟩ := mem_rules_iff.mp member
    obtain ⟨same, declaration, inside, twin, among, property⟩ := clash
    obtain ⟨one, sets, rfl⟩ := List.mem_map.mp inside
    obtain ⟨two, setting, rfl⟩ := List.mem_map.mp among
    obtain rfl : one = two := property
    -- The property tells which class both rules are of, so that only the names can differ.
    obtain rfl := entry_eq_of_property first second sets setting
    refine ⟨by simp [written], by simp [rewritten], ?_⟩
    simpa [rule, selector] using same
  · rintro ⟨written, rewritten, same⟩
    obtain ⟨text, written⟩ := Option.isSome_iff_exists.mp written
    obtain ⟨later, rewritten⟩ := Option.isSome_iff_exists.mp rewritten
    obtain ⟨entry, known⟩ := List.exists_mem_of_ne_nil _ family.inhabited
    obtain ⟨property, sets⟩ := List.exists_mem_of_ne_nil _ (family.filled entry known)
    refine ⟨family.rule path text entry, mem_rules_iff.mpr ⟨text, written, entry, known, rfl⟩,
      family.rule other later entry, mem_rules_iff.mpr ⟨later, rewritten, entry, known, rfl⟩, ?_⟩
    refine ⟨by rw [rule, rule, selector, selector, same], ⟨property, text⟩, ?_,
      ⟨property, later⟩, ?_, rfl⟩
    · exact List.mem_map_of_mem sets
    · exact List.mem_map_of_mem sets

theorem unambiguous_rules (family : Family) (path : Path) (value : Value) :
    Unambiguous (family.rules path value) := by
  unfold rules
  cases family.text? path value with
  | none => exact List.Pairwise.nil
  | some text =>
      refine List.pairwise_map.mpr (family.apart.imp ?_)
      rintro entry again disjoint ⟨_, declaration, inside, twin, among, property⟩
      obtain ⟨one, sets, rfl⟩ := List.mem_map.mp inside
      obtain ⟨two, setting, rfl⟩ := List.mem_map.mp among
      obtain rfl : one = two := property
      exact disjoint sets setting

def listing (family : Family) (value : Path → Value) (members : List Path) : List Rule :=
  members.flatMap fun path => family.rules path (value path)

/-- The rules of a family are in no doubt if and only if its tokens have different names. -/
theorem unambiguous_listing_iff {value : Path → Value} {members : List Path}
    (once : members.Nodup) :
    Unambiguous (family.listing value members) ↔
      ∀ path ∈ members, ∀ other ∈ members, (family.text? path (value path)).isSome →
        (family.text? other (value other)).isSome → family.name path = family.name other →
          path = other := by
  have pairs : Unambiguous (family.listing value members) ↔ members.Pairwise fun path other =>
      ¬ ((family.text? path (value path)).isSome ∧ (family.text? other (value other)).isSome ∧
        family.name path = family.name other) := by
    rw [Unambiguous, listing, List.pairwise_flatMap]
    simp only [← exists_clash_iff, not_exists, not_and]
    exact and_iff_right fun path _ => unambiguous_rules family path (value path)
  have : Std.Symm fun path other => ¬ ((family.text? path (value path)).isSome ∧
      (family.text? other (value other)).isSome ∧ family.name path = family.name other) :=
    ⟨fun _ _ apart ⟨written, rewritten, same⟩ => apart ⟨rewritten, written, same.symm⟩⟩
  rw [pairs]
  constructor
  · intro apart path member other listed written rewritten same
    by_contra different
    exact apart.forall member listed different ⟨written, rewritten, same⟩
  · intro named
    refine once.pairwise_of_forall_ne fun path member other listed different => ?_
    rintro ⟨written, rewritten, same⟩
    exact different (named path member other listed written rewritten same)

theorem property_of_listing {value : Path → Value} {members : List Path} {rule : Rule}
    (listed : rule ∈ family.listing value members) {declaration : Declaration}
    (declared : declaration ∈ rule.declarations) : declaration.property ∈ family.properties := by
  obtain ⟨path, _, member⟩ := List.mem_flatMap.mp listed
  obtain ⟨text, _, entry, known, rfl⟩ := mem_rules_iff.mp member
  obtain ⟨property, sets, rfl⟩ := List.mem_map.mp declared
  exact List.mem_flatMap.mpr ⟨entry, known, sets⟩

end Family

end Stylesheet

namespace Path

def sizeSegments (path : Path) : List String :=
  match path.segments.tail.filter (!mentionsSize ·) with
  | [] => [path.name]
  | segments => segments

def utilityName (path : Path) : String :=
  joinDashes path.segments.tail

def sizeName (path : Path) : String :=
  joinDashes path.sizeSegments

variable {path other : Path}

theorem dashed_eq_append (longer : 1 < path.size) :
    path.dashed = path.head ++ "-" ++ path.utilityName := by
  rw [← intercalate_dash, utilityName, joinDashes]
  obtain ⟨segments, nonempty, valid⟩ := path
  rcases segments with _ | ⟨first, _ | ⟨second, rest⟩⟩
  · exact absurd rfl nonempty
  · simp [size] at longer
  · exact String.intercalate_cons_cons

/-- Below one first segment the name of a class tells as much as the whole path as a word. -/
theorem utilityName_eq_iff (same : path.head = other.head) (longer : 1 < path.size)
    (long : 1 < other.size) : path.utilityName = other.utilityName ↔ path.dashed = other.dashed := by
  rw [dashed_eq_append longer, dashed_eq_append long, same, String.append_right_inj]

theorem sizeSegments_ne_nil (path : Path) : path.sizeSegments ≠ [] := by
  unfold sizeSegments
  split
  · exact List.cons_ne_nil _ _
  · assumption

theorem mem_of_sizeSegments {segment : String} (listed : segment ∈ path.sizeSegments) :
    segment ∈ path.segments := by
  unfold sizeSegments at listed
  split at listed
  · rw [List.mem_singleton.mp listed]
    exact List.getLast_mem path.nonempty
  · exact List.mem_of_mem_tail (List.mem_of_mem_filter listed)

theorem sizeName_eq_iff (first : path.Dashless) (second : other.Dashless) :
    path.sizeName = other.sizeName ↔ path.sizeSegments = other.sizeSegments := by
  constructor
  · exact segments_eq_of_intercalate path.sizeSegments_ne_nil other.sizeSegments_ne_nil
      (fun segment listed => first segment (mem_of_sizeSegments listed))
      (fun segment listed => second segment (mem_of_sizeSegments listed))
  · intro same
    rw [sizeName, same, sizeName]

end Path

namespace Stylesheet

def colorText? (value : Value) : Option String :=
  match value with
  | .color color => some color.css
  | _ => none

def sizeText? (path : Path) (value : Value) : Option String :=
  if path.segments.tail.any mentionsSize then value.lengthCss? else none

def colors : Family where
  head := "color"
  classes := [("text", ["color"]), ("bg", ["background-color"]), ("border", ["border-color"])]
  name := Path.utilityName
  text? _ := colorText?
  inhabited := by simp
  filled := by simp
  apart := by simp

def spacing : Family where
  head := "spacing"
  classes := spacingClasses
  name := Path.utilityName
  text? _ := Value.lengthCss?
  inhabited := by simp [spacingClasses]
  filled := by simp [spacingClasses]
  apart := by simp [spacingClasses]

def fontSizes : Family where
  head := "typography"
  classes := [("text", ["font-size"])]
  name := Path.sizeName
  text? := sizeText?
  inhabited := by simp
  filled := by simp
  apart := by simp

def families : List Family := [colors, spacing, fontSizes]

theorem colorRules_eq (path : Path) (value : Value) :
    colorRules path value = colors.rules path value := by
  cases value with
  | color => rfl
  | _ => rfl

theorem spacingRules_eq (path : Path) (value : Value) :
    spacingRules path value = spacing.rules path value := by
  unfold spacingRules Family.rules
  change _ = match value.lengthCss? with
    | some text => _
    | none => _
  cases value.lengthCss? with
  | none => rfl
  | some text => rfl

theorem fontSizeRules_eq (path : Path) (value : Value) :
    fontSizeRules path value = fontSizes.rules path value := by
  unfold fontSizeRules Family.rules
  change _ = match sizeText? path value with
    | some text => _
    | none => _
  unfold sizeText?
  dsimp only
  split
  · cases value.lengthCss? with
    | none => rfl
    | some text => rfl
  · rfl

theorem disjoint_families :
    families.Pairwise fun first second => first.properties.Disjoint second.properties := by
  have colored : colors.properties = ["color", "background-color", "border-color"] := rfl
  have spaced : spacing.properties = ["margin", "padding", "margin-left", "margin-right",
      "margin-top", "margin-bottom", "padding-left", "padding-right", "padding-top",
      "padding-bottom"] := rfl
  have sized : fontSizes.properties = ["font-size"] := rfl
  simp [families, colored, spaced, sized]

theorem family_eq_of_property {family other : Family} {property : String}
    (first : family ∈ families) (second : other ∈ families)
    (sets : property ∈ family.properties) (setting : property ∈ other.properties) :
    family = other := by
  by_contra different
  have : Std.Symm fun first second : Family => first.properties.Disjoint second.properties :=
    ⟨fun _ _ => List.disjoint_symm⟩
  exact disjoint_families.forall first second different sets setting

theorem unambiguous_families_iff (value : Path → Value) (members : Family → List Path) :
    Unambiguous (families.flatMap fun family => family.listing value (members family)) ↔
      ∀ family ∈ families, Unambiguous (family.listing value (members family)) := by
  rw [Unambiguous, List.pairwise_flatMap]
  refine and_iff_left (disjoint_families.imp ?_)
  rintro family other disjoint rule listed again member ⟨_, declaration, inside, twin, among, same⟩
  have sets := Family.property_of_listing listed inside
  have setting := Family.property_of_listing member among
  exact disjoint sets (same ▸ setting)

end Stylesheet

end DesignTokens
