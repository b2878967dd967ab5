import Mathlib.Data.List.Basic
import DesignTokens.Config.File
import DesignTokens.Proofs.Table

/-!
Settings in files.  A file gives settings with a prefix that can stand in names, or it is refused
with an error of settings, but for what the readers of the two formats find no value for and for
names of settings that are no text.  Only YAML has such names: all keys of a TOML document are
text, at any depth, and what its reader finds no value for is a number that is too long or
nesting that is too deep.
-/

namespace DesignTokens

structure Gives {fault α : Type} (good : α → Prop) (allowed : fault → Prop)
    (reading : Except fault α) : Prop where
  fits : ∀ value, reading = .ok value → good value
  fails : ∀ error, reading = .error error → allowed error

namespace Gives

variable {fault α β : Type} {good : α → Prop} {best : β → Prop} {allowed : fault → Prop}

theorem ok {value : α} (fits : good value) : Gives good allowed (.ok value) := by
  constructor
  · intro result read
    obtain rfl := Except.ok.inj read
    exact fits
  · intro error failed
    cases failed

theorem error {error : fault} (excused : allowed error) : Gives good allowed (.error error) := by
  constructor
  · intro result read
    cases read
  · intro other failed
    obtain rfl := Except.error.inj failed
    exact excused

theorem bind {first : Except fault α} {next : α → Except fault β} (given : Gives good allowed first)
    (later : ∀ value, good value → Gives best allowed (next value)) :
    Gives best allowed (first >>= next) := by
  cases first with
  | error other => exact error (given.fails other rfl)
  | ok value => exact later value (given.fits value rfl)

theorem map {first : Except fault α} {f : α → β} (given : Gives good allowed first)
    (each : ∀ value, good value → best (f value)) : Gives best allowed (first.map f) := by
  cases first with
  | error other => exact error (given.fails other rfl)
  | ok value => exact ok (each value (given.fits value rfl))

end Gives

inductive HasTextKeys : Data → Prop
  | scalar {value} : HasTextKeys (.scalar value)
  | list {items} (each : ∀ item ∈ items, HasTextKeys item) : HasTextKeys (.list items)
  | mapping {entries} (named : ∀ entry ∈ entries, ∃ name, entry.1 = Scalar.text name)
      (each : ∀ entry ∈ entries, HasTextKeys entry.2) : HasTextKeys (.mapping entries)

namespace HasTextKeys

variable {entries : List (Scalar × Data)} {name : String} {data : Data}

theorem empty : HasTextKeys (.mapping []) :=
  mapping (fun _ member => nomatch member) fun _ member => nomatch member

theorem item {items : List Data} (keyed : HasTextKeys (.list items)) :
    ∀ item ∈ items, HasTextKeys item := by
  cases keyed with
  | list each => exact each

theorem keys (keyed : HasTextKeys (.mapping entries)) :
    ∀ entry ∈ entries, ∃ name, entry.1 = Scalar.text name := by
  cases keyed with
  | mapping named _ => exact named

theorem entry (keyed : HasTextKeys (.mapping entries))
    (found : Data.entry? entries name = some data) : HasTextKeys data := by
  cases keyed with
  | mapping _ each => exact each _ (Entries.mem_of_find?_eq_some found)

theorem insert (keyed : HasTextKeys (.mapping entries)) (value : HasTextKeys data) :
    HasTextKeys (.mapping (Entries.insert entries (.text name) data)) := by
  cases keyed with
  | mapping named each =>
      constructor
      · intro entry member
        rcases Entries.mem_insert member with old | rfl
        · exact named entry old
        · exact ⟨name, rfl⟩
      · intro entry member
        rcases Entries.mem_insert member with old | rfl
        · exact each entry old
        · exact value

end HasTextKeys

namespace Toml

inductive Refusal : ReadingFault → Prop
  | malformed : Refusal .malformed
  | tooDeep : Refusal (.data .tooDeep)
  | tooManyDigits {length} (long : digitLimit < length) :
      Refusal (.data (.tooManyDigits (some length)))

abbrev Keyed (reading : Reading (Data × List Char)) : Prop :=
  Gives (fun read => HasTextKeys read.1) Refusal reading

theorem gives_wellFormed {α : Type} (found : Option α) :
    Gives (fun value => found = some value) Refusal (wellFormed found) := by
  cases found with
  | none => exact Gives.error .malformed
  | some value => exact Gives.ok rfl

theorem keyed_wholeNumber (negative : Bool) (digits rest : List Char) :
    Keyed ((wholeNumber negative digits).map fun data => (data, rest)) := by
  unfold wholeNumber
  split
  · rename_i long
    exact Gives.error (.tooManyDigits long)
  · exact Gives.ok HasTextKeys.scalar

theorem keyed_readDecimal (negative : Bool) (text : List Char) :
    Keyed (readDecimal negative text) := by
  unfold readDecimal
  split
  split
  · exact Gives.error .malformed
  · dsimp only
    split
    · exact Gives.ok HasTextKeys.scalar
    · split
      · exact keyed_wholeNumber negative _ _
      · exact Gives.ok HasTextKeys.scalar

theorem keyed_of_readDay? {text : List Char} {result : Reading (Data × List Char)}
    (read : readDay? text = some result) : Keyed result := by
  unfold readDay? at read
  split at read
  · split at read
    · obtain rfl := Option.some.inj read
      split
      · exact Gives.error .malformed
      · exact Gives.ok HasTextKeys.scalar
      · exact Gives.ok HasTextKeys.scalar
    · cases read
  · cases read

theorem keyed_readBased (base : Nat) (text rest : List Char) :
    Keyed ((readBased? base rest).elim (readDecimal false text) .ok) := by
  cases read : readBased? base rest with
  | none => exact keyed_readDecimal false text
  | some result =>
      unfold readBased? at read
      dsimp only at read
      split at read
      · cases read
      · obtain ⟨value, _, rfl⟩ := Option.map_eq_some_iff.mp read
        exact Gives.ok HasTextKeys.scalar

theorem keyed_readPlain (text : List Char) : Keyed (readPlain text) := by
  unfold readPlain
  split
  · rename_i read
    exact keyed_of_readDay? read
  · split
    · exact Gives.ok HasTextKeys.scalar
    · split
      · exact keyed_readBased 16 _ _
      · exact keyed_readBased 2 _ _
      · exact keyed_readBased 8 _ _
      all_goals first
        | exact Gives.ok HasTextKeys.scalar
        | exact keyed_readDecimal _ _

section

variable {entries after : List (Scalar × Data)}

theorem keyed_putInline {closed : List (List String)} {value : Data} (keyed : HasTextKeys value)
    {here key : List String} (fine : HasTextKeys (.mapping entries))
    (put : putInline closed entries value here key = some after) :
    HasTextKeys (.mapping after) := by
  induction key generalizing here entries after with
  | nil =>
      rw [putInline] at put
      cases put
  | cons name rest ih =>
      unfold putInline at put
      split at put
      · cases put
      · split at put
        · cases put
        · obtain rfl := Option.some.inj put
          exact fine.insert keyed
      · rename_i same
        obtain ⟨rfl, rfl⟩ := List.cons.inj same
        dsimp only at put
        split at put
        · cases put
        · split at put
          · obtain ⟨inner, made, rfl⟩ := Option.map_eq_some_iff.mp put
            exact fine.insert (ih HasTextKeys.empty made)
          · rename_i found
            obtain ⟨inner, made, rfl⟩ := Option.map_eq_some_iff.mp put
            exact fine.insert (ih (fine.entry found) made)
          · cases put

theorem keyed_changeAt {change : List (Scalar × Data) → Option (List (Scalar × Data))}
    (changes : ∀ {entries after}, HasTextKeys (.mapping entries) → change entries = some after →
      HasTextKeys (.mapping after))
    {key : List String} (fine : HasTextKeys (.mapping entries))
    (changed : changeAt change entries key = some after) : HasTextKeys (.mapping after) := by
  induction key generalizing entries after with
  | nil =>
      rw [changeAt] at changed
      exact changes fine changed
  | cons name rest ih =>
      rw [changeAt] at changed
      split at changed
      · obtain ⟨inner, made, rfl⟩ := Option.map_eq_some_iff.mp changed
        exact fine.insert (ih HasTextKeys.empty made)
      · rename_i found
        obtain ⟨inner, made, rfl⟩ := Option.map_eq_some_iff.mp changed
        exact fine.insert (ih (fine.entry found) made)
      · rename_i items found
        split at changed
        · rename_i last earlier order
          obtain ⟨inner, made, rfl⟩ := Option.map_eq_some_iff.mp changed
          have held : ∀ item ∈ Data.mapping last :: earlier, HasTextKeys item := by
            intro item member
            rw [← order, List.mem_reverse] at member
            exact (fine.entry found).item item member
          obtain ⟨inside, others⟩ := List.forall_mem_cons.mp held
          refine fine.insert (HasTextKeys.list fun item member => ?_)
          -- Only the last table of the array was changed.
          rcases List.mem_cons.mp (List.mem_reverse.mp member) with rfl | old
          · exact ih inside made
          · exact others item old
        · cases changed
      · cases changed

theorem keyed_addElement {name : String} (fine : HasTextKeys (.mapping entries))
    (added : addElement name entries = some after) : HasTextKeys (.mapping after) := by
  unfold addElement at added
  split at added
  · obtain rfl := Option.some.inj added
    refine fine.insert (HasTextKeys.list fun item member => ?_)
    obtain rfl := List.mem_singleton.mp member
    exact HasTextKeys.empty
  · rename_i found
    obtain rfl := Option.some.inj added
    refine fine.insert (HasTextKeys.list fun item member => ?_)
    rcases List.mem_append.mp member with old | new
    · exact (fine.entry found).item item old
    · obtain rfl := List.mem_singleton.mp new
      exact HasTextKeys.empty
  · cases added

theorem keyed_setOnce {name : String} {value : Data} (keyed : HasTextKeys value)
    (fine : HasTextKeys (.mapping entries)) (set : setOnce name value entries = some after) :
    HasTextKeys (.mapping after) := by
  unfold setOnce at set
  split at set
  · obtain rfl := Option.some.inj set
    exact fine.insert keyed
  · cases set

end

-- A value may hold arrays and inline tables, and these hold values; every step inwards takes fuel.
mutual

theorem keyed_readValue (depth : Nat) : ∀ fuel text, Keyed (readValue depth fuel text)
  | 0, text => by
      rw [readValue]
      exact Gives.error .malformed
  | fuel + 1, text => by
      unfold readValue
      split
      · exact (gives_wellFormed _).map fun read _ => HasTextKeys.scalar
      · exact (gives_wellFormed _).map fun read _ => HasTextKeys.scalar
      · exact Gives.ok HasTextKeys.scalar
      · exact Gives.ok HasTextKeys.scalar
      · split
        · exact Gives.error .tooDeep
        · refine (gives_wellFormed _).bind fun rest _ => ?_
          exact keyed_readItems _ (List.forall_mem_nil HasTextKeys) fuel _
      · split
        · exact Gives.ok HasTextKeys.empty
        · split
          · exact Gives.error .tooDeep
          · exact keyed_readEntries _ _ HasTextKeys.empty fuel _
      · exact keyed_readPlain _

theorem keyed_readItems (depth : Nat) {reversed : List Data}
    (fine : ∀ item ∈ reversed, HasTextKeys item) :
    ∀ fuel text, Keyed (readItems depth reversed fuel text)
  | 0, text => by
      rw [readItems]
      exact Gives.error .malformed
  | fuel + 1, text => by
      unfold readItems
      split
      · refine Gives.ok (HasTextKeys.list ?_)
        simpa using fine
      · refine (keyed_readValue depth fuel _).bind fun read keyed => ?_
        have both : ∀ item ∈ read.1 :: reversed, HasTextKeys item :=
          List.forall_mem_cons.mpr ⟨keyed, fine⟩
        refine (gives_wellFormed _).bind fun rest _ => ?_
        split
        · refine Gives.ok (HasTextKeys.list ?_)
          intro item member
          exact both item (List.mem_reverse.mp member)
        · exact (gives_wellFormed _).bind fun rest _ => keyed_readItems depth both fuel rest
        · exact Gives.error .malformed

theorem keyed_readEntries (depth : Nat) (closed : List (List String))
    {entries : List (Scalar × Data)} (fine : HasTextKeys (.mapping entries)) :
    ∀ fuel text, Keyed (readEntries depth closed entries fuel text)
  | 0, text => by
      rw [readEntries]
      exact Gives.error .malformed
  | fuel + 1, text => by
      unfold readEntries
      refine (gives_wellFormed _).bind fun key _ => ?_
      dsimp only
      split
      · refine (keyed_readValue depth fuel _).bind fun read value => ?_
        refine (gives_wellFormed _).bind fun after put => ?_
        have keyed : HasTextKeys (.mapping after) := keyed_putInline value fine put
        split
        · exact Gives.ok keyed
        · exact keyed_readEntries depth _ keyed fuel _
        · exact Gives.error .malformed
      · exact Gives.error .malformed

end

def Line.Keyed : Line → Prop
  | .table _ => True
  | .element _ => True
  | .assignment _ value => HasTextKeys value

theorem keyed_readLine (fuel : Nat) (text : List Char) :
    Gives (fun read => Line.Keyed read.1) Refusal (readLine fuel text) := by
  unfold readLine
  split
  · refine (gives_wellFormed _).bind fun key _ => ?_
    exact (gives_wellFormed _).bind fun rest _ => Gives.ok trivial
  · refine (gives_wellFormed _).bind fun key _ => ?_
    exact (gives_wellFormed _).bind fun rest _ => Gives.ok trivial
  · refine (gives_wellFormed _).bind fun key _ => ?_
    refine (gives_wellFormed _).bind fun rest _ => ?_
    exact (keyed_readValue 0 fuel _).bind fun read keyed => Gives.ok keyed

theorem keyed_take {draft after : Draft} {line : Line} (fine : HasTextKeys (.mapping draft.root))
    (keyed : line.Keyed) (taken : draft.take line = some after) :
    HasTextKeys (.mapping after.root) := by
  cases line with
  | table key =>
      rw [Draft.take] at taken
      split at taken
      · cases taken
      · obtain ⟨root, made, rfl⟩ := Option.map_eq_some_iff.mp taken
        refine keyed_changeAt ?_ fine made
        intro entries after fine same
        obtain rfl := Option.some.inj same
        exact fine
  | element key =>
      rw [Draft.take] at taken
      split at taken
      · cases taken
      · dsimp only at taken
        split at taken
        · cases taken
        · obtain ⟨root, made, rfl⟩ := Option.map_eq_some_iff.mp taken
          exact keyed_changeAt keyed_addElement fine made
  | assignment key value =>
      rw [Draft.take] at taken
      split at taken
      · cases taken
      · split at taken
        · cases taken
        · obtain ⟨root, made, rfl⟩ := Option.map_eq_some_iff.mp taken
          exact keyed_changeAt (keyed_setOnce keyed) fine made

theorem keyed_readLines {draft : Draft} (fine : HasTextKeys (.mapping draft.root)) (fuel : Nat)
    (text : List Char) :
    Gives (fun after => HasTextKeys (.mapping after.root)) Refusal
      (readLines draft fuel text) := by
  induction fuel generalizing draft text with
  | zero =>
      rw [readLines]
      exact Gives.error .malformed
  | succ fuel ih =>
      rw [readLines]
      split
      · exact Gives.ok fine
      · exact ih fine _
      · exact (gives_wellFormed _).bind fun rest _ => ih fine rest
      · refine (keyed_readLine _ _).bind fun read keyed => ?_
        refine (gives_wellFormed _).bind fun after taken => ?_
        have kept : HasTextKeys (.mapping after.root) := keyed_take fine keyed taken
        refine (gives_wellFormed _).bind fun rest _ => ?_
        split
        · exact Gives.ok kept
        · exact ih kept _
        · exact Gives.error .malformed

/-- All keys of a TOML document are text, at any depth.  A document that keeps to the rules of
the format is refused only where it nests too deeply, or for a number that is too long. -/
theorem keyed_parse (text : String) :
    Gives (fun document => HasTextKeys (.mapping document)) Refusal (parse text) :=
  (keyed_readLines HasTextKeys.empty _ _).map fun _ keyed => keyed

end Toml

namespace Fields

variable {entries : List (Scalar × Data)}

theorem ofEntries?_text (name : String) (value : Data) :
    ofEntries? ((.text name, value) :: entries) =
      (ofEntries? entries).bind fun fields => some ((name, value) :: fields) := by
  rw [ofEntries?, List.mapM_cons]
  rfl

theorem ofEntries?_eq_none_iff :
    ofEntries? entries = none ↔ ∃ entry ∈ entries, ∀ name, entry.1 ≠ .text name := by
  induction entries with
  | nil => simp [ofEntries?]
  | cons entry rest ih =>
      obtain ⟨key, value⟩ := entry
      rw [List.exists_mem_cons_iff, ← ih]
      cases key with
      | text name => cases others : ofEntries? rest <;> simp [ofEntries?_text, others]
      | _ => simp [ofEntries?]

end Fields

namespace Config

def IsYaml (ending : String) : Prop :=
  ending = ".yaml" ∨ ending = ".yml"

instance (ending : String) : Decidable (IsYaml ending) :=
  inferInstanceAs (Decidable (_ ∨ _))

inductive Lapse (ending text : String) : Error → Prop
  | toml {fault} (format : ending = ".toml") (failed : Toml.parse text = .error (.data fault))
      (reason : Toml.Refusal (.data fault)) : Lapse ending text (.data fault)
  | yaml {fault} (format : IsYaml ending) (failed : Yaml.parse text = .error (.data fault)) :
      Lapse ending text (.data fault)
  | unnamed {entries entry} (format : IsYaml ending)
      (read : Yaml.parse text = .ok (.mapping entries)) (member : entry ∈ entries)
      (foreign : ∀ name, entry.1 ≠ .text name) : Lapse ending text .fieldNames

def Settled (result : Except Error Config) : Prop :=
  (∃ config, result = .ok config ∧ isSegment config.propertyPrefix = true) ∨
    ∃ error, result = .error error ∧ error.kind = .config

theorem prefixed_of_ofFields? {base config : Config} {fields : Fields}
    (prefixed : isSegment base.propertyPrefix = true) (read : base.ofFields? fields = some config) :
    isSegment config.propertyPrefix = true := by
  rw [ofFields?] at read
  split at read
  · cases read
  · obtain ⟨lead, found, read⟩ := Option.bind_eq_some_iff.mp read
    obtain ⟨_, _, read⟩ := Option.bind_eq_some_iff.mp read
    obtain ⟨_, _, read⟩ := Option.bind_eq_some_iff.mp read
    obtain ⟨_, _, read⟩ := Option.bind_eq_some_iff.mp read
    obtain rfl := Option.some.inj read
    rw [Fields.optional] at found
    split at found
    · exact (Option.filter_eq_some_iff.mp found).2
    · obtain rfl := Option.some.inj found
      exact prefixed

variable {name : FileName} {entries : List (Scalar × Data)} {text ending : String}

theorem Settled.error {error : Error} (own : error.kind = .config) : Settled (.error error) :=
  Or.inr ⟨error, rfl, own⟩

theorem Lapse.kind_ne {error : Error} (lapse : Lapse ending text error) : error.kind ≠ .config := by
  cases lapse <;> exact nofun

theorem settled_ofMapping (name : FileName)
    (keys : ∀ entry ∈ entries, ∃ name, entry.1 = Scalar.text name) :
    Settled (ofMapping name entries) := by
  unfold ofMapping
  split
  · rename_i unread
    obtain ⟨entry, member, foreign⟩ := Fields.ofEntries?_eq_none_iff.mp unread
    obtain ⟨name, same⟩ := keys entry member
    exact absurd same (foreign name)
  · split
    · rename_i config read
      exact Or.inl ⟨config, rfl, prefixed_of_ofFields? (by decide) read⟩
    · exact Settled.error rfl

theorem ofMapping_unnamed {entry : Scalar × Data} (member : entry ∈ entries)
    (foreign : ∀ name, entry.1 ≠ .text name) : ofMapping name entries = .error .fieldNames := by
  rw [ofMapping, Fields.ofEntries?_eq_none_iff.mpr ⟨entry, member, foreign⟩]

theorem settled_ofToml (fine : ∀ fault, Toml.Refusal (.data fault) →
      Toml.parse text ≠ .error (.data fault)) :
    Settled (ofToml name text) := by
  unfold ofToml
  cases read : Toml.parse text with
  | error fault =>
      cases fault with
      | malformed => exact Settled.error rfl
      | data fault =>
          have reason := (Toml.keyed_parse text).fails _ read
          exact absurd read (fine fault reason)
  | ok document =>
      dsimp only [Except.mapError, bind, Except.bind]
      split
      · exact settled_ofMapping name fun entry member => nomatch member
      · rename_i found
        have keyed := (Toml.keyed_parse text).fits document read
        exact settled_ofMapping name (keyed.entry found).keys
      · exact Settled.error rfl

theorem settled_ofYaml (fine : ∀ fault, Yaml.parse text ≠ .error (.data fault))
    (keys : ∀ entries, Yaml.parse text = .ok (.mapping entries) →
      ∀ entry ∈ entries, ∃ name, entry.1 = Scalar.text name) :
    Settled (ofYaml name text) := by
  unfold ofYaml
  cases read : Yaml.parse text with
  | error fault =>
      cases fault with
      | malformed => exact Settled.error rfl
      | data fault => exact absurd read (fine fault)
  | ok data =>
      dsimp only [Except.mapError, bind, Except.bind]
      split
      · exact settled_ofMapping name fun entry member => nomatch member
      · exact settled_ofMapping name (keys _ read)
      · exact Settled.error rfl

variable {folder : Folder} {content : ByteArray}

theorem has_of_read (stored : folder.read name = .ok content) : folder.has name = .ok true := by
  unfold Folder.read at stored
  split at stored
  · cases stored
  · rename_i free there
    rw [Folder.has, free]
    simp [Folder.isFile, there]
  · cases stored

theorem fileText_of_read (stored : folder.read name = .ok content)
    (decoded : Folder.textOf content = .ok text) :
    fileText folder name = .ok text := by
  rw [fileText, stored]
  exact decoded

theorem ofFile_of_read (stored : folder.read name = .ok content)
    (decoded : Folder.textOf content = .ok text) :
    ofFile folder name =
      if lowerCased name.suffix = ".toml" then ofToml name text
      else if IsYaml (lowerCased name.suffix) then ofYaml name text
      else .error (.config (.unknownFormat
        (if name.suffix.isEmpty then name.last else name.suffix))) := by
  rw [ofFile, has_of_read stored, fileText_of_read stored decoded]
  generalize lowerCased name.suffix = ending
  change (if (ending == ".toml") = true then ofToml name text
    else if (ending == ".yaml" || ending == ".yml") = true then ofYaml name text
    else _) = _
  simp only [IsYaml, Bool.or_eq_true, beq_iff_eq]
  rfl

theorem ofFile_of_lapse {error : Error} (stored : folder.read name = .ok content)
    (decoded : Folder.textOf content = .ok text)
    (lapse : Lapse (lowerCased name.suffix) text error) : ofFile folder name = .error error := by
  rw [ofFile_of_read stored decoded]
  have apart : ∀ ending, IsYaml ending → ending ≠ ".toml" := by
    rintro ending (rfl | rfl) <;> decide
  cases lapse with
  | toml format failed _ =>
      rw [if_pos format, ofToml, failed]
      rfl
  | yaml format failed =>
      rw [if_neg (apart _ format), if_pos format, ofYaml, failed]
      rfl
  | unnamed format read member foreign =>
      rw [if_neg (apart _ format), if_pos format, ofYaml, read]
      exact ofMapping_unnamed member foreign

theorem settled_ofFile (stored : folder.read name = .ok content)
    (decoded : Folder.textOf content = .ok text)
    (fine : ∀ error, ¬ Lapse (lowerCased name.suffix) text error) :
    Settled (ofFile folder name) := by
  rw [ofFile_of_read stored decoded]
  split
  · rename_i format
    exact settled_ofToml fun fault reason failed => fine _ (.toml format failed reason)
  · split
    · rename_i format
      refine settled_ofYaml (fun fault failed => fine _ (.yaml format failed)) ?_
      intro entries read entry member
      by_contra foreign
      exact fine _ (.unnamed format read member (not_exists.mp foreign))
    · exact Settled.error rfl

end Config

open Config

/-- A file with a text gives settings whose prefix can stand in names, or it is refused with an
error of settings, unless the reader of its format finds something without a value, or it is YAML
that names a setting by something that is no text.  Then it is refused with that error. -/
theorem config_ofFile_settled_iff {folder : Folder} {name : FileName} {content : ByteArray}
    {text : String} (stored : folder.read name = .ok content)
    (decoded : Folder.textOf content = .ok text) :
    (((∃ config, ofFile folder name = .ok config ∧ isSegment config.propertyPrefix = true) ∨
        ∃ error, ofFile folder name = .error error ∧ error.kind = .config) ↔
      ∀ error, ¬ Lapse (lowerCased name.suffix) text error) ∧
    ∀ error, Lapse (lowerCased name.suffix) text error → ofFile folder name = .error error := by
  refine ⟨⟨fun settled error lapse => ?_, settled_ofFile stored decoded⟩,
    fun error => ofFile_of_lapse stored decoded⟩
  have failed := ofFile_of_lapse stored decoded lapse
  rcases settled with ⟨config, read, _⟩ | ⟨other, refused, own⟩
  · rw [failed] at read
    cases read
  · rw [failed] at refused
    obtain rfl := Except.error.inj refused
    exact lapse.kind_ne own

def Folder.single (name : FileName) (content : ByteArray) : Folder :=
  ⟨[(name.place, content)], []⟩

theorem config_ofFile_settled_acme :
    ∃ config, ofFile (.single ⟨"", ["tokens.toml"]⟩ "[tokens]\nprefix = 'acme'".toUTF8)
      ⟨"", ["tokens.toml"]⟩ = .ok config ∧ isSegment config.propertyPrefix = true := by
  have stored : ∀ content,
      (Folder.single ⟨"", ["tokens.toml"]⟩ content).read ⟨"", ["tokens.toml"]⟩ = .ok content :=
    fun _ => rfl
  have decoded : Folder.textOf "[tokens]\nprefix = 'acme'".toUTF8 =
      .ok "[tokens]\nprefix = 'acme'" := by
    decide +kernel
  have format : lowerCased (FileName.suffix ⟨"", ["tokens.toml"]⟩) = ".toml" := by
    decide +kernel
  have read : (Toml.parse "[tokens]\nprefix = 'acme'").toOption.isSome = true := by
    decide +kernel
  have accepted : (ofFile (.single ⟨"", ["tokens.toml"]⟩ "[tokens]\nprefix = 'acme'".toUTF8)
      ⟨"", ["tokens.toml"]⟩).toOption.isSome = true := by
    decide +kernel
  have fine : ∀ error, ¬ Lapse (lowerCased (FileName.suffix ⟨"", ["tokens.toml"]⟩))
      "[tokens]\nprefix = 'acme'" error := by
    rw [format]
    intro error lapse
    cases lapse with
    | toml _ failed _ =>
        rw [failed] at read
        cases read
    | yaml other _ | unnamed other _ _ _ => exact absurd other (by decide)
  rcases (config_ofFile_settled_iff (stored _) decoded).1.mpr fine with settled | ⟨error, failed, _⟩
  · exact settled
  · rw [failed] at accepted
    cases accepted

def Data.leadingKey? : Data → Option Scalar
  | .mapping (entry :: _) => some entry.1
  | _ => none

/-- A setting that is named by a number is refused, and not with an error of settings. -/
theorem config_ofFile_number :
    ofFile (.single ⟨"", ["tokens.yaml"]⟩ "1: x".toUTF8) ⟨"", ["tokens.yaml"]⟩ =
        .error .fieldNames ∧
      Error.fieldNames.kind ≠ .config := by
  have decoded : Folder.textOf "1: x".toUTF8 = .ok "1: x" := by decide +kernel
  have format : lowerCased (FileName.suffix ⟨"", ["tokens.yaml"]⟩) = ".yaml" := by decide +kernel
  have numbered : (Yaml.parse "1: x").toOption.bind Data.leadingKey? = some (.integer 1) := by
    decide +kernel
  refine ⟨ofFile_of_lapse rfl decoded ?_, by decide⟩
  rw [format]
  cases read : Yaml.parse "1: x" with
  | error fault =>
      rw [read] at numbered
      cases numbered
  | ok data =>
      rw [read] at numbered
      change data.leadingKey? = some (.integer 1) at numbered
      unfold Data.leadingKey? at numbered
      split at numbered
      · have foreign := Option.some.inj numbered
        refine .unnamed (Or.inl rfl) read List.mem_cons_self fun name same => ?_
        rw [foreign] at same
        cases same
      · cases numbered

end DesignTokens
