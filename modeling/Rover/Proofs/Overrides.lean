import Mathlib.Data.List.Nodup
import Rover.Proofs.Encoding
import Rover.Settings.File

/-!
# Settings given in part

An object need not name all settings.  It may name any of them, each once, in any
order and among members with other names; a setting that it leaves out keeps its
standard value.  The settings of a run stand in an object of their own, which
may be left out too.  Reading fails only if a name of a setting stands twice or
its value is not one that the setting can have.

Settings are read from JSON and from YAML.  `Medium` says what texts, quantities
and records are in either, and all else is said of any medium.
-/

namespace Rover

/-! ## Single settings -/

/-- A setting that can be given without the others. -/
inductive Setting where
  | robotName
  | prompt
  | itemIndent
  | lineSeparator
  | initialFuel
  | moveCost
  | turnCost
  deriving DecidableEq, Repr

namespace Setting

/-- What a setting is set to. -/
inductive Value where
  | text (value : String)
  | quantity (value : Quantity)
  deriving DecidableEq, Repr

/-- The name under which a setting is given. -/
def name : Setting → String
  | robotName => "robot_name"
  | prompt => "prompt"
  | itemIndent => "item_indent"
  | lineSeparator => "line_separator"
  | initialFuel => "initial_fuel"
  | moveCost => "move_cost"
  | turnCost => "turn_cost"

/-- The settings of the console. -/
def ofConsole : List Setting :=
  [robotName, prompt, itemIndent, lineSeparator]

/-- The settings of a run, which are given together. -/
def ofEngine : List Setting :=
  [initialFuel, moveCost, turnCost]

theorem name_injective : Function.Injective name := by
  intro left right
  cases left <;> cases right <;> simp [name]

end Setting

/-- What a setting is set to in the settings of a game. -/
def Settings.valueOf (settings : Settings) : Setting → Setting.Value
  | .robotName => .text settings.robotName
  | .prompt => .text settings.prompt
  | .itemIndent => .text settings.itemIndent
  | .lineSeparator => .text settings.lineSeparator
  | .initialFuel => .quantity settings.engine.initialFuel
  | .moveCost => .quantity settings.engine.moveCost
  | .turnCost => .quantity settings.engine.turnCost

/-- The settings of a game of which the chosen ones are given and the others standard. -/
def Settings.overriding (given : Settings) (chosen : Setting → Bool) : Settings where
  robotName := if chosen .robotName then given.robotName else standard.robotName
  prompt := if chosen .prompt then given.prompt else standard.prompt
  itemIndent := if chosen .itemIndent then given.itemIndent else standard.itemIndent
  lineSeparator := if chosen .lineSeparator then given.lineSeparator else standard.lineSeparator
  engine :=
    { initialFuel :=
        if chosen .initialFuel then given.engine.initialFuel else standard.engine.initialFuel
      moveCost := if chosen .moveCost then given.engine.moveCost else standard.engine.moveCost
      turnCost := if chosen .turnCost then given.engine.turnCost else standard.engine.turnCost }

theorem Settings.valueOf_overriding (given : Settings) (chosen : Setting → Bool)
    (setting : Setting) :
    (given.overriding chosen).valueOf setting =
      if chosen setting then given.valueOf setting else standard.valueOf setting := by
  cases setting <;> simp only [overriding, valueOf] <;> split <;> rfl

theorem Settings.engine_overriding_of_silent (given : Settings) {chosen : Setting → Bool}
    (silent : ∀ setting ∈ Setting.ofEngine, chosen setting = false) :
    (given.overriding chosen).engine = EngineSettings.standard := by
  simp only [Setting.ofEngine, List.forall_mem_cons] at silent
  simp [overriding, silent, standard]

/-! ## Media -/

/-- What is a text, a quantity, an object with some members, or a record without names. -/
structure Medium (α : Type) where
  IsText : String → α → Prop
  IsQuantity : Quantity → α → Prop
  IsObject : List (String × α) → α → Prop
  /-- A value is a list of the first fields of a record in their order. -/
  IsRow : List α → α → Prop

namespace Medium

variable {α : Type} (medium : Medium α) (given : Settings) (chosen : Setting → Bool)

/-- A value writes what a setting is set to. -/
def Writes : Setting.Value → α → Prop
  | .text value => medium.IsText value
  | .quantity value => medium.IsQuantity value

/-- Some members name some settings, one each, with the given values. -/
def Names (named : List Setting) (known : List (String × α)) : Prop :=
  List.Forall₂
    (fun setting member =>
      member.1 = setting.name ∧ medium.Writes (given.valueOf setting) member.2) named known

/-- Members name the chosen settings of a run, in any order and among others. -/
inductive NamesEngine : List (String × α) → Prop
  | intro {known others members : List (String × α)}
      (names : medium.Names given (Setting.ofEngine.filter chosen) known)
      (unknown : ∀ other ∈ others, other.1 ∉ Setting.ofEngine.map Setting.name)
      (order : members.Perm (known ++ others)) : NamesEngine members

/-- The name of the member that holds the settings of a run. -/
def engineName : String := "engine"

/--
Members name the chosen settings of a game, in any order and among others.  Those
of a run stand in an object under a name of their own, which may be missing if
none of them is chosen.
-/
inductive NamesGame : List (String × α) → Prop
  | withoutEngine {known others members : List (String × α)}
      (silent : ∀ setting ∈ Setting.ofEngine, chosen setting = false)
      (names : medium.Names given (Setting.ofConsole.filter chosen) known)
      (unknown : ∀ other ∈ others, other.1 ∉ engineName :: Setting.ofConsole.map Setting.name)
      (order : members.Perm (known ++ others)) : NamesGame members
  | withEngine {known others inner members : List (String × α)} {engine : α}
      (object : medium.IsObject inner engine) (engineNames : medium.NamesEngine given chosen inner)
      (names : medium.Names given (Setting.ofConsole.filter chosen) known)
      (unknown : ∀ other ∈ others, other.1 ∉ engineName :: Setting.ofConsole.map Setting.name)
      (order : members.Perm ((engineName, engine) :: known ++ others)) : NamesGame members

/-- A setting stands twice among some members, or with a value that it cannot have. -/
inductive Spoils (setting : Setting) (members : List (String × α)) : Prop
  | twice (again : 2 ≤ members.countP fun member => member.1 == setting.name)
  | unfit {value : α} (present : (setting.name, value) ∈ members)
      (strange : ∀ settings : Settings, ¬ medium.Writes (settings.valueOf setting) value)

/-- A value does not give the settings of a run. -/
inductive IsFlawedEngine (value : α) : Prop
  | shapeless (noObject : ∀ members, ¬ medium.IsObject members value)
      (noRow : ∀ items, ¬ medium.IsRow items value)
  | spoilt {members : List (String × α)} {setting : Setting}
      (object : medium.IsObject members value) (inEngine : setting ∈ Setting.ofEngine)
      (spoils : medium.Spoils setting members)
  | tooLong {items : List α} (row : medium.IsRow items value)
      (beyond : Setting.ofEngine.length < items.length)
  | unfit {items : List α} {item : α} (row : medium.IsRow items value) (inside : item ∈ items)
      (strange : ∀ quantity, ¬ medium.IsQuantity quantity item)

/-- Members do not give the settings of a game. -/
inductive IsFlawed (members : List (String × α)) : Prop
  | spoilt {setting : Setting} (inConsole : setting ∈ Setting.ofConsole)
      (spoils : medium.Spoils setting members)
  | engineTwice (again : 2 ≤ members.countP fun member => member.1 == engineName)
  | engineFlawed {value : α} (present : (engineName, value) ∈ members)
      (flawed : medium.IsFlawedEngine value)

end Medium

/-- JSON as a medium. -/
def Json.medium : Medium Json where
  IsText text json := json = .string text
  IsQuantity quantity json := json = .integer quantity.value
  IsObject members json := json = .record members
  IsRow items json := json = .array items

namespace Yaml.Node

/-- A node is a mapping with scalars for keys, or nothing at all. -/
inductive IsObject : List (String × Node) → Node → Prop
  | nothing : IsObject [] nothing
  | mapping {members : List (String × Node)} {entries : List (Node × Node)}
      (written : List.Forall₂
        (fun entry member => (∃ isPlain, entry.1 = .scalar isPlain member.1) ∧ entry.2 = member.2)
        entries members) : IsObject members (.mapping entries)

/-- YAML as a medium; a sequence is no record there. -/
def medium : Medium Node where
  IsText text node := ∃ isPlain, node = .scalar isPlain text
  IsQuantity quantity node :=
    ∃ text, node = .scalar true text ∧ whole? text.toList = some quantity.value
  IsObject := IsObject
  IsRow _ _ := False

end Yaml.Node

/-! ## Members by name -/

section

variable {α β γ : Type} {members known others : List (String × α)} {name : String} {value : α}
  {read? : α → Option β} {standard : β}

/-- What the one member of a name is read as, or a standard value if there is none. -/
def member? (members : List (String × α)) (name : String) (read? : α → Option β)
    (standard : β) : Option β :=
  match members.filter fun member => member.1 == name with
  | [] => some standard
  | [member] => read? member.2
  | _ => none

theorem filter_eq_singleton_iff_mem {found : String × α}
    (only : members.filter (fun member => member.1 == name) = [found]) :
    (name, value) ∈ members ↔ value = found.2 := by
  have mem : (name, value) ∈ members ↔
      (name, value) ∈ members.filter fun member => member.1 == name := by
    simp
  have named : found.1 = name := by
    have inside : found ∈ members.filter fun member => member.1 == name := by simp [only]
    simpa using (List.mem_filter.mp inside).2
  rw [mem, only, List.mem_singleton, Prod.ext_iff]
  simp [named]

theorem member?_eq_none_iff :
    member? members name read? standard = none ↔
      2 ≤ (members.countP fun member => member.1 == name) ∨
        ∃ value, (name, value) ∈ members ∧ read? value = none := by
  have absent : members.filter (fun member => member.1 == name) = [] →
      ∀ value, (name, value) ∉ members := by
    intro none value present
    exact List.filter_eq_nil_iff.mp none _ present (beq_self_eq_true name)
  rw [member?, List.countP_eq_length_filter]
  cases found : members.filter fun member => member.1 == name with
  | nil => simp [absent found]
  | cons first rest =>
      cases rest with
      | nil => simp [filter_eq_singleton_iff_mem found]
      | cons second rest => simp

/-- Reading may be followed by a change of what is read. -/
theorem member?_map (change : β → γ) :
    member? members name (fun value => (read? value).map change) (change standard) =
      (member? members name read? standard).map change := by
  rw [member?, member?]
  split <;> rfl

theorem member?_of_mem (distinct : (known.map Prod.fst).Nodup)
    (unknown : ∀ other ∈ others, other.1 ≠ name) (order : members.Perm (known ++ others))
    (present : (name, value) ∈ known) : member? members name read? standard = read? value := by
  have missing : others.filter (fun member => member.1 == name) = [] :=
    List.filter_eq_nil_iff.mpr fun other inOthers same =>
      unknown other inOthers (beq_iff_eq.mp same)
  have found := order.filter fun member => member.1 == name
  rw [List.filter_append, Json.eq_singleton_of_filter distinct present, missing,
    List.append_nil] at found
  rw [member?, List.perm_singleton.mp found]

theorem member?_of_missing (absent : ∀ member ∈ known, member.1 ≠ name)
    (unknown : ∀ other ∈ others, other.1 ≠ name) (order : members.Perm (known ++ others)) :
    member? members name read? standard = some standard := by
  have missing : members.filter (fun member => member.1 == name) = [] := by
    refine List.filter_eq_nil_iff.mpr fun member inMembers same => ?_
    rcases List.mem_append.mp (order.mem_iff.mp inMembers) with inKnown | inOthers
    · exact absent member inKnown (beq_iff_eq.mp same)
    · exact unknown member inOthers (beq_iff_eq.mp same)
  rw [member?, missing]

end

namespace Medium

variable {α : Type} {medium : Medium α} {given settings : Settings} {chosen : Setting → Bool}
  {members known others : List (String × α)} {named : List Setting} {setting : Setting}
  {value : α}

/-! ## What is named -/

theorem Names.map_fst (names : medium.Names given named known) :
    known.map Prod.fst = named.map Setting.name :=
  List.forall₂_eq_eq_eq ▸ List.forall₂_map_left_iff.mpr
    (List.forall₂_map_right_iff.mpr (names.flip.imp fun _ _ both => both.1))

theorem Names.nodup (names : medium.Names given (named.filter chosen) known)
    (distinct : named.Nodup) : (known.map Prod.fst).Nodup :=
  names.map_fst ▸ List.Nodup.map Setting.name_injective (distinct.filter chosen)

theorem Names.exists_mem (names : medium.Names given named known) (inNamed : setting ∈ named) :
    ∃ value, (setting.name, value) ∈ known ∧ medium.Writes (given.valueOf setting) value := by
  induction names with
  | nil => cases inNamed
  | @cons first member rest others both _ ih =>
      rcases List.mem_cons.mp inNamed with rfl | later
      · exact ⟨member.2, both.1 ▸ List.mem_cons_self, both.2⟩
      · rcases ih later with ⟨value, present, writes⟩
        exact ⟨value, List.mem_cons_of_mem _ present, writes⟩

theorem Names.exists_setting {member : String × α} (names : medium.Names given named known)
    (inKnown : member ∈ known) : ∃ setting ∈ named, setting.name = member.1 :=
  List.mem_map.mp (names.map_fst ▸ List.mem_map_of_mem inKnown)

theorem name_ne_engineName (setting : Setting) : setting.name ≠ engineName := by
  cases setting <;> decide

theorem Names.ne_engineName {member : String × α} (names : medium.Names given named known)
    (inKnown : member ∈ known) : member.1 ≠ engineName := by
  rcases names.exists_setting inKnown with ⟨setting, -, isName⟩
  exact isName ▸ name_ne_engineName setting

theorem ne_name_of_not_mem {name : String} (unknown : name ∉ named.map Setting.name)
    (inNamed : setting ∈ named) : name ≠ setting.name :=
  fun same => unknown (List.mem_map.mpr ⟨setting, inNamed, same.symm⟩)

theorem apart_of_unknown
    (unknown : ∀ other ∈ others, other.1 ∉ engineName :: named.map Setting.name) :
    (∀ other ∈ others, other.1 ≠ engineName) ∧
      ∀ setting ∈ named, ∀ other ∈ others, other.1 ≠ setting.name :=
  ⟨fun other inOthers => List.ne_of_not_mem_cons (unknown other inOthers),
    fun _ inNamed other inOthers =>
      ne_name_of_not_mem (List.not_mem_of_not_mem_cons (unknown other inOthers)) inNamed⟩

/-! ## Reading -/

/-- What reads the texts and the quantities of a medium. -/
structure Reading (medium : Medium α) where
  text? : α → Option String
  quantity? : α → Option Quantity
  text?_eq_some_iff : ∀ {text value}, text? value = some text ↔ medium.IsText text value
  quantity?_eq_some_iff :
    ∀ {quantity value}, quantity? value = some quantity ↔ medium.IsQuantity quantity value

namespace Reading

variable (reading : medium.Reading)

/-- What a setting is set to by a value. -/
def value? : Setting → α → Option Setting.Value
  | .robotName | .prompt | .itemIndent | .lineSeparator =>
      fun value => (reading.text? value).map .text
  | .initialFuel | .moveCost | .turnCost => fun value => (reading.quantity? value).map .quantity

/-- What a setting is set to by some members. -/
def setting? (members : List (String × α)) (setting : Setting) : Option Setting.Value :=
  member? members setting.name (reading.value? setting) (Settings.standard.valueOf setting)

/-- The settings of a run that some members give. -/
def engine? (members : List (String × α)) : Option EngineSettings := do
  some
    { initialFuel :=
        ← member? members "initial_fuel" reading.quantity? EngineSettings.standard.initialFuel
      moveCost := ← member? members "move_cost" reading.quantity? EngineSettings.standard.moveCost
      turnCost := ← member? members "turn_cost" reading.quantity? EngineSettings.standard.turnCost }

/-- The settings of a game that some members give. -/
def game? (readEngine? : α → Option EngineSettings) (members : List (String × α)) :
    Option Settings := do
  some
    { robotName := ← member? members "robot_name" reading.text? Settings.standard.robotName
      prompt := ← member? members "prompt" reading.text? Settings.standard.prompt
      itemIndent := ← member? members "item_indent" reading.text? Settings.standard.itemIndent
      lineSeparator :=
        ← member? members "line_separator" reading.text? Settings.standard.lineSeparator
      engine := ← member? members "engine" readEngine? Settings.standard.engine }

variable {reading}

theorem value?_of_writes (writes : medium.Writes (given.valueOf setting) value) :
    reading.value? setting value = some (given.valueOf setting) := by
  cases setting with
  | robotName | prompt | itemIndent | lineSeparator =>
      simp only [value?, reading.text?_eq_some_iff.mpr writes]
      rfl
  | initialFuel | moveCost | turnCost =>
      simp only [value?, reading.quantity?_eq_some_iff.mpr writes]
      rfl

theorem text?_eq_none (noText : ∀ text, ¬ medium.IsText text value) :
    (reading.text? value).map Setting.Value.text = none := by
  rw [Option.map_eq_none_iff, Option.eq_none_iff_forall_ne_some]
  exact fun text read => noText text (reading.text?_eq_some_iff.mp read)

theorem quantity?_eq_none (noQuantity : ∀ quantity, ¬ medium.IsQuantity quantity value) :
    (reading.quantity? value).map Setting.Value.quantity = none := by
  rw [Option.map_eq_none_iff, Option.eq_none_iff_forall_ne_some]
  exact fun quantity read => noQuantity quantity (reading.quantity?_eq_some_iff.mp read)

theorem value?_eq_none_iff :
    reading.value? setting value = none ↔
      ∀ settings : Settings, ¬ medium.Writes (settings.valueOf setting) value := by
  constructor
  · intro unread settings writes
    rw [value?_of_writes writes] at unread
    cases unread
  · intro strange
    let standard := Settings.standard
    cases setting with
    | robotName => exact text?_eq_none fun text => strange { standard with robotName := text }
    | prompt => exact text?_eq_none fun text => strange { standard with prompt := text }
    | itemIndent => exact text?_eq_none fun text => strange { standard with itemIndent := text }
    | lineSeparator =>
        exact text?_eq_none fun text => strange { standard with lineSeparator := text }
    | initialFuel =>
        exact quantity?_eq_none fun quantity =>
          strange { standard with engine := { standard.engine with initialFuel := quantity } }
    | moveCost =>
        exact quantity?_eq_none fun quantity =>
          strange { standard with engine := { standard.engine with moveCost := quantity } }
    | turnCost =>
        exact quantity?_eq_none fun quantity =>
          strange { standard with engine := { standard.engine with turnCost := quantity } }

theorem setting?_eq_none_iff :
    reading.setting? members setting = none ↔ medium.Spoils setting members := by
  rw [setting?, member?_eq_none_iff]
  constructor
  · rintro (again | ⟨value, present, unread⟩)
    · exact .twice again
    · exact .unfit present (value?_eq_none_iff.mp unread)
  · rintro (again | ⟨present, strange⟩)
    · exact Or.inl again
    · exact Or.inr ⟨_, present, value?_eq_none_iff.mpr strange⟩

theorem setting?_of_names (names : medium.Names given (named.filter chosen) known)
    (distinct : named.Nodup) (inNamed : setting ∈ named)
    (unknown : ∀ other ∈ others, other.1 ≠ setting.name)
    (order : members.Perm (known ++ others)) :
    reading.setting? members setting = some ((given.overriding chosen).valueOf setting) := by
  rw [Settings.valueOf_overriding]
  cases isChosen : chosen setting with
  | true =>
      rcases names.exists_mem (List.mem_filter.mpr ⟨inNamed, isChosen⟩) with
        ⟨value, present, writes⟩
      rw [setting?, member?_of_mem (names.nodup distinct) unknown order present,
        value?_of_writes writes]
      rfl
  | false =>
      refine member?_of_missing (fun member inKnown same => ?_) unknown order
      rcases names.exists_setting inKnown with ⟨other, inFilter, isName⟩
      cases Setting.name_injective (isName.trans same)
      exact Bool.false_ne_true (isChosen ▸ (List.mem_filter.mp inFilter).2)

/-! ## Reading all settings of an object -/

theorem engine?_eq_some_iff :
    reading.engine? members = some settings.engine ↔
      ∀ setting ∈ Setting.ofEngine,
        reading.setting? members setting = some (settings.valueOf setting) := by
  rcases settings with ⟨_, _, _, _, fuel, move, turn⟩
  simp [engine?, Option.bind_eq_some_iff, Setting.ofEngine, setting?, value?, member?_map,
    Settings.valueOf, Setting.name, Settings.standard]

theorem engine?_eq_none_iff :
    reading.engine? members = none ↔
      ∃ setting ∈ Setting.ofEngine, reading.setting? members setting = none := by
  simp only [Setting.ofEngine, List.mem_cons, List.not_mem_nil, or_false, exists_eq_or_imp,
    exists_eq_left, setting?, value?, Settings.valueOf, member?_map, Option.map_eq_none_iff,
    Setting.name, engine?, Settings.standard]
  cases member? members "initial_fuel" reading.quantity? EngineSettings.standard.initialFuel <;>
    cases member? members "move_cost" reading.quantity? EngineSettings.standard.moveCost <;>
    cases member? members "turn_cost" reading.quantity? EngineSettings.standard.turnCost <;> simp

theorem game?_eq_some_iff {readEngine? : α → Option EngineSettings} :
    reading.game? readEngine? members = some settings ↔
      (∀ setting ∈ Setting.ofConsole,
        reading.setting? members setting = some (settings.valueOf setting)) ∧
      member? members engineName readEngine? EngineSettings.standard = some settings.engine := by
  rcases settings with ⟨robotName, prompt, itemIndent, lineSeparator, engine⟩
  simp [game?, Option.bind_eq_some_iff, Setting.ofConsole, setting?, value?, member?_map,
    Settings.valueOf, Setting.name, Settings.standard, engineName, and_assoc]

theorem game?_eq_none_iff {readEngine? : α → Option EngineSettings} :
    reading.game? readEngine? members = none ↔
      (∃ setting ∈ Setting.ofConsole, reading.setting? members setting = none) ∨
        member? members engineName readEngine? EngineSettings.standard = none := by
  simp only [Setting.ofConsole, List.mem_cons, List.not_mem_nil, or_false, exists_eq_or_imp,
    exists_eq_left, setting?, value?, Settings.valueOf, member?_map, Option.map_eq_none_iff,
    Setting.name, game?, Settings.standard, engineName]
  rcases member? members "robot_name" reading.text? _ with _ | robotName
  · simp
  rcases member? members "prompt" reading.text? _ with _ | prompt
  · simp
  rcases member? members "item_indent" reading.text? _ with _ | itemIndent
  · simp
  rcases member? members "line_separator" reading.text? _ with _ | lineSeparator
  · simp
  rcases member? members "engine" readEngine? _ with _ | engine <;> simp

/-! ## Objects that name the chosen settings -/

theorem engine?_of_namesEngine (names : medium.NamesEngine given chosen members) :
    reading.engine? members = some (given.overriding chosen).engine := by
  cases names with
  | intro named unknown order =>
      refine engine?_eq_some_iff.mpr fun setting inEngine => ?_
      exact setting?_of_names named (by decide) inEngine
        (fun other inOthers => ne_name_of_not_mem (unknown other inOthers) inEngine) order

/-- Settings of a run are read off the members of an object; only flawed values fail. -/
structure ReadsEngine (reading : medium.Reading) (readEngine? : α → Option EngineSettings) :
    Prop where
  object : ∀ {members value}, medium.IsObject members value →
    readEngine? value = reading.engine? members
  flawed : ∀ {value}, readEngine? value = none ↔ medium.IsFlawedEngine value

theorem game?_of_namesGame {readEngine? : α → Option EngineSettings}
    (reads : reading.ReadsEngine readEngine?) (names : medium.NamesGame given chosen members) :
    reading.game? readEngine? members = some (given.overriding chosen) := by
  rw [game?_eq_some_iff]
  cases names with
  | @withoutEngine known others _ silent named unknown order =>
      have ⟨noEngine, noSetting⟩ := apart_of_unknown unknown
      constructor
      · intro setting inConsole
        exact setting?_of_names named (by decide) inConsole (noSetting setting inConsole) order
      · rw [given.engine_overriding_of_silent silent]
        exact member?_of_missing (fun _ => named.ne_engineName) noEngine order
  | @withEngine known others inner _ engine object engineNames named unknown order =>
      have ⟨noEngine, noSetting⟩ := apart_of_unknown unknown
      constructor
      · intro setting inConsole
        -- For the settings of the console, the member of the engine is one of the others.
        have moved : members.Perm (known ++ (engineName, engine) :: others) :=
          order.trans List.perm_middle.symm
        have unnamed : ∀ other ∈ (engineName, engine) :: others, other.1 ≠ setting.name :=
          List.forall_mem_cons.mpr
            ⟨(name_ne_engineName setting).symm, noSetting setting inConsole⟩
        exact setting?_of_names named (by decide) inConsole unnamed moved
      · have fresh : engineName ∉ known.map Prod.fst := by
          intro inNames
          rcases List.mem_map.mp inNames with ⟨member, inKnown, same⟩
          exact named.ne_engineName inKnown same
        have distinct : (((engineName, engine) :: known).map Prod.fst).Nodup :=
          List.nodup_cons.mpr ⟨fresh, named.nodup (by decide)⟩
        rw [member?_of_mem distinct noEngine order List.mem_cons_self, reads.object object,
          engine?_of_namesEngine engineNames]

theorem game?_eq_none_iff_isFlawed {readEngine? : α → Option EngineSettings}
    (reads : reading.ReadsEngine readEngine?) :
    reading.game? readEngine? members = none ↔ medium.IsFlawed members := by
  rw [game?_eq_none_iff, member?_eq_none_iff]
  constructor
  · rintro (⟨setting, inConsole, failed⟩ | again | ⟨value, present, failed⟩)
    · exact .spoilt inConsole (setting?_eq_none_iff.mp failed)
    · exact .engineTwice again
    · exact .engineFlawed present (reads.flawed.mp failed)
  · rintro (⟨inConsole, spoils⟩ | again | ⟨present, flawed⟩)
    · exact Or.inl ⟨_, inConsole, setting?_eq_none_iff.mpr spoils⟩
    · exact Or.inr (Or.inl again)
    · exact Or.inr (Or.inr ⟨_, present, reads.flawed.mpr flawed⟩)

/-- The settings of a run that an object gives are none exactly if the object spoils one of them. -/
theorem engine?_eq_none_iff_isFlawedEngine (object : medium.IsObject members value)
    (unique : ∀ others, medium.IsObject others value → others = members)
    (noRow : ∀ items, ¬ medium.IsRow items value) :
    reading.engine? members = none ↔ medium.IsFlawedEngine value := by
  rw [engine?_eq_none_iff]
  constructor
  · rintro ⟨setting, inEngine, failed⟩
    exact .spoilt object inEngine (setting?_eq_none_iff.mp failed)
  · rintro (⟨noObject, -⟩ | ⟨otherObject, inEngine, spoils⟩ | ⟨row, -⟩ | ⟨row, -, -⟩)
    · exact absurd object (noObject members)
    · cases unique _ otherObject
      exact ⟨_, inEngine, setting?_eq_none_iff.mpr spoils⟩
    · exact absurd row (noRow _)
    · exact absurd row (noRow _)

end Reading

end Medium

/-! ## Settings from JSON -/

namespace Json

theorem text?_eq_some_iff {text : String} {json : Json} :
    json.text? = some text ↔ json = .string text := by
  cases json <;> simp [text?, string]

theorem quantity?_eq_some_iff {quantity : Quantity} {json : Json} :
    json.quantity? = some quantity ↔ json = .integer quantity.value := by
  cases json with
  | integer value =>
      rw [quantity?, Quantity.ofInt?_eq_some_iff, Json.integer.injEq]
      exact eq_comm
  | _ => simp [quantity?]

/-- What reads texts and quantities of JSON. -/
def reading : medium.Reading where
  text? := text?
  quantity? := quantity?
  text?_eq_some_iff := text?_eq_some_iff
  quantity?_eq_some_iff := quantity?_eq_some_iff

theorem record_injective {first second : List (String × Json)}
    (same : record first = record second) : first = second := by
  have pairs := Json.object.inj same
  refine (List.map_inj_right fun left right samePair => ?_).mp pairs
  have ⟨sameName, sameValue⟩ := Prod.mk.inj samePair
  exact Prod.ext (Option.some.inj sameName) sameValue

theorem exists_record {members : List (Option String × Json)}
    (named : ∀ member ∈ members, member.1.isSome = true) :
    ∃ record : List (String × Json), Json.object members = .record record := by
  induction members with
  | nil => exact ⟨[], rfl⟩
  | cons first rest ih =>
      have ⟨firstNamed, restNamed⟩ := List.forall_mem_cons.mp named
      rcases Option.isSome_iff_exists.mp firstNamed with ⟨name, isName⟩
      rcases ih restNamed with ⟨others, same⟩
      refine ⟨(name, first.2) :: others, congrArg Json.object ?_⟩
      rw [List.map_cons, ← Json.object.inj same, ← isName]

theorem single?_bind_orElse {β : Type} (name : String) (members : List (String × Json))
    (read? : Json → Option β) (standard : β) :
    (single? name (members.map fun member => (some member.1, member.2))).bind
        (orElse read? standard) =
      member? members name read? standard := by
  rw [single?_record, member?]
  cases members.filter fun member => member.1 == name with
  | nil => rfl
  | cons first rest => cases rest <;> rfl

theorem engineSettings_record (members : List (String × Json)) :
    EngineSettings.ofJson? (.record members) = reading.engine? members := by
  rw [EngineSettings.ofJson?, fields?_record, Medium.Reading.engine?]
  simp only [← single?_bind_orElse, List.mapM_cons, List.mapM_nil]
  cases single? "initial_fuel" _ <;> cases single? "move_cost" _ <;>
    cases single? "turn_cost" _ <;> simp [reading]

theorem settings_record (members : List (String × Json)) :
    Settings.ofJson? (.record members) =
      reading.game? EngineSettings.ofJson? members := by
  rw [Settings.ofJson?, fields?_record, Medium.Reading.game?]
  simp only [← single?_bind_orElse, List.mapM_cons, List.mapM_nil]
  rcases single? "robot_name" _ with _ | robotName
  · simp
  rcases single? "prompt" _ with _ | prompt
  · simp
  rcases single? "item_indent" _ with _ | itemIndent
  · simp
  rcases single? "line_separator" _ with _ | lineSeparator
  · simp
  rcases single? "engine" _ with _ | engine <;> simp [reading]

theorem engineSettings_array_eq_none_iff {items : List Json} :
    EngineSettings.ofJson? (.array items) = none ↔
      Setting.ofEngine.length < items.length ∨ ∃ item ∈ items, item.quantity? = none := by
  match items with
  | [] => simp [EngineSettings.ofJson?, fields?, orElse, Setting.ofEngine]
  | [fuel] =>
      cases read : fuel.quantity? <;>
        simp [EngineSettings.ofJson?, fields?, orElse, Setting.ofEngine, read]
  | [fuel, move] =>
      cases read : fuel.quantity? <;> cases readMove : move.quantity? <;>
        simp [EngineSettings.ofJson?, fields?, orElse, Setting.ofEngine, read, readMove]
  | [fuel, move, turn] =>
      cases read : fuel.quantity? <;> cases readMove : move.quantity? <;>
        cases readTurn : turn.quantity? <;>
          simp [EngineSettings.ofJson?, fields?, orElse, Setting.ofEngine, read, readMove, readTurn]
  | _ :: _ :: _ :: _ :: rest => simp [EngineSettings.ofJson?, fields?, Setting.ofEngine]

theorem quantity?_eq_none_iff {json : Json} :
    json.quantity? = none ↔ ∀ quantity, ¬ medium.IsQuantity quantity json := by
  rw [Option.eq_none_iff_forall_ne_some]
  exact forall_congr' fun quantity => not_congr quantity?_eq_some_iff

theorem engineSettings_object_of_unnamed {members : List (Option String × Json)}
    (unnamed : ¬ ∀ member ∈ members, member.1.isSome = true) :
    EngineSettings.ofJson? (.object members) = none := by
  rw [EngineSettings.ofJson?, fields?, if_neg (mt List.all_eq_true.mp unnamed)]
  rfl

theorem engineSettings_eq_none_iff {json : Json} :
    EngineSettings.ofJson? json = none ↔ medium.IsFlawedEngine json := by
  cases json with
  | null | boolean | integer | real | text =>
      exact ⟨fun _ => .shapeless nofun nofun, fun _ => rfl⟩
  | array items =>
      rw [engineSettings_array_eq_none_iff]
      constructor
      · rintro (beyond | ⟨item, inside, unread⟩)
        · exact .tooLong rfl beyond
        · exact .unfit rfl inside (quantity?_eq_none_iff.mp unread)
      · rintro (⟨-, noRow⟩ | ⟨object, -, -⟩ | ⟨row, beyond⟩ | ⟨row, inside, strange⟩)
        · exact absurd rfl (noRow items)
        · cases object
        · cases row
          exact Or.inl beyond
        · cases row
          exact Or.inr ⟨_, inside, quantity?_eq_none_iff.mpr strange⟩
  | object members =>
      by_cases named : ∀ member ∈ members, member.1.isSome = true
      · rcases exists_record named with ⟨record, same⟩
        rw [same, engineSettings_record]
        exact Medium.Reading.engine?_eq_none_iff_isFlawedEngine rfl
          (fun _ other => (record_injective other).symm) nofun
      · have noRecord : ∀ record, ¬ medium.IsObject record (.object members) := by
          rintro record same
          cases same
          refine named fun member inside => ?_
          rcases List.mem_map.mp inside with ⟨_, -, rfl⟩
          rfl
        exact ⟨fun _ => .shapeless noRecord nofun,
          fun _ => engineSettings_object_of_unnamed named⟩

theorem readsEngine : reading.ReadsEngine EngineSettings.ofJson? where
  object := by
    rintro members _ rfl
    exact engineSettings_record members
  flawed := engineSettings_eq_none_iff

end Json

/-! ## Settings from YAML -/

namespace Yaml.Node

theorem text?_eq_some_iff {text : String} {node : Node} :
    node.text? = some text ↔ ∃ isPlain, node = .scalar isPlain text := by
  cases node <;> simp [text?]

theorem quantity?_eq_some_iff {quantity : Quantity} {node : Node} :
    node.quantity? = some quantity ↔
      ∃ text, node = .scalar true text ∧ whole? text.toList = some quantity.value := by
  cases node with
  | scalar isPlain text =>
      cases isPlain <;> simp [quantity?, Option.bind_eq_some_iff, Quantity.ofInt?_eq_some_iff]
  | sequence items => simp [quantity?]
  | mapping entries => simp [quantity?]

/-- What reads texts and quantities of YAML. -/
def reading : medium.Reading where
  text? := text?
  quantity? := quantity?
  text?_eq_some_iff := text?_eq_some_iff
  quantity?_eq_some_iff := quantity?_eq_some_iff

theorem entry?_eq_some_iff {entry : Node × Node} {member : String × Node} :
    (entry.1.text?.map fun key => (key, entry.2)) = some member ↔
      (∃ isPlain, entry.1 = .scalar isPlain member.1) ∧ entry.2 = member.2 := by
  rw [Option.map_eq_some_iff, ← text?_eq_some_iff]
  constructor
  · rintro ⟨key, read, rfl⟩
    exact ⟨read, rfl⟩
  · rintro ⟨read, same⟩
    exact ⟨member.1, read, Prod.ext rfl same⟩

theorem entries?_eq_some_iff {members : List (String × Node)} {node : Node} :
    node.entries? = some members ↔ IsObject members node := by
  constructor
  · intro read
    unfold entries? at read
    split at read
    · cases read
      exact .nothing
    · refine .mapping ((Json.mapM_eq_some_iff.mp read).imp fun _ _ found => ?_)
      exact entry?_eq_some_iff.mp found
    · cases read
  · intro object
    cases object with
    | nothing => rfl
    | mapping written =>
        exact Json.mapM_eq_some_iff.mpr
          (written.imp fun _ _ found => entry?_eq_some_iff.mpr found)

/-- Members with plain scalars for keys. -/
theorem isObject_plain (members : List (String × Node)) :
    IsObject members (.mapping (members.map fun member => (.scalar true member.1, member.2))) :=
  .mapping (List.forall₂_map_left_iff.mpr (List.forall₂_same.mpr fun _ _ => ⟨⟨true, rfl⟩, rfl⟩))

theorem field?_eq_member? {β : Type} (entries : List (String × Node)) (key : String)
    (read? : Node → Option β) (standard : β) :
    field? entries key read? standard = member? entries key read? standard := by
  rw [field?, member?]
  cases entries.filter fun entry => entry.1 == key with
  | nil => rfl
  | cons first rest => cases rest <;> rfl

theorem engineSettings_of_isObject {members : List (String × Node)} {node : Node}
    (object : IsObject members node) :
    EngineSettings.ofNode? node = reading.engine? members := by
  rw [EngineSettings.ofNode?, entries?_eq_some_iff.mpr object]
  simp only [field?_eq_member?]
  rfl

theorem settings_of_isObject {members : List (String × Node)} {node : Node}
    (object : IsObject members node) :
    Settings.ofNode? node = reading.game? EngineSettings.ofNode? members := by
  rw [Settings.ofNode?, entries?_eq_some_iff.mpr object]
  simp only [field?_eq_member?]
  rfl

theorem engineSettings_eq_none_iff {node : Node} :
    EngineSettings.ofNode? node = none ↔ medium.IsFlawedEngine node := by
  cases read : node.entries? with
  | none =>
      have noObject : ∀ members, ¬ medium.IsObject members node := by
        intro members object
        cases read.symm.trans (entries?_eq_some_iff.mpr object)
      refine ⟨fun _ => .shapeless noObject nofun, fun _ => ?_⟩
      rw [EngineSettings.ofNode?, read]
      rfl
  | some members =>
      have object : IsObject members node := entries?_eq_some_iff.mp read
      rw [engineSettings_of_isObject object]
      refine Medium.Reading.engine?_eq_none_iff_isFlawedEngine object (fun others other => ?_) nofun
      exact Option.some.inj ((entries?_eq_some_iff.mpr other).symm.trans read)

theorem readsEngine : reading.ReadsEngine EngineSettings.ofNode? where
  object := engineSettings_of_isObject
  flawed := engineSettings_eq_none_iff

end Yaml.Node

/--
Settings given in part override the standard ones that they name, and only those,
in JSON and in YAML.  Reading an object of settings fails exactly if it has the
name of a setting twice or a value that the setting cannot have.
-/
theorem partial_settings_override_what_they_name :
    ((∀ given chosen json members, Json.medium.IsObject members json →
        Json.medium.NamesGame given chosen members →
          ∃ settings, Settings.ofJson? json = some settings ∧
            ∀ setting, settings.valueOf setting =
              if chosen setting then given.valueOf setting
              else Settings.standard.valueOf setting) ∧
      ∀ json members, Json.medium.IsObject members json →
        (Settings.ofJson? json = none ↔ Json.medium.IsFlawed members)) ∧
    (∀ given chosen node members, Yaml.Node.medium.IsObject members node →
        Yaml.Node.medium.NamesGame given chosen members →
          ∃ settings, Settings.ofNode? node = some settings ∧
            ∀ setting, settings.valueOf setting =
              if chosen setting then given.valueOf setting
              else Settings.standard.valueOf setting) ∧
      ∀ node members, Yaml.Node.medium.IsObject members node →
        (Settings.ofNode? node = none ↔ Yaml.Node.medium.IsFlawed members) := by
  refine ⟨⟨?_, ?_⟩, ?_, ?_⟩
  · rintro given chosen _ members rfl names
    refine ⟨given.overriding chosen, ?_, given.valueOf_overriding chosen⟩
    rw [Json.settings_record, Medium.Reading.game?_of_namesGame Json.readsEngine names]
  · rintro _ members rfl
    rw [Json.settings_record]
    exact Medium.Reading.game?_eq_none_iff_isFlawed Json.readsEngine
  · intro given chosen node members object names
    refine ⟨given.overriding chosen, ?_, given.valueOf_overriding chosen⟩
    rw [Yaml.Node.settings_of_isObject object,
      Medium.Reading.game?_of_namesGame Yaml.Node.readsEngine names]
  · intro node members object
    rw [Yaml.Node.settings_of_isObject object]
    exact Medium.Reading.game?_eq_none_iff_isFlawed Yaml.Node.readsEngine

/-- Settings with a prompt and a price of turns of their own. -/
def Settings.terse : Settings :=
  { Settings.standard with
    prompt := "> "
    engine := { EngineSettings.standard with turnCost := .one } }

/--
A prompt and a price of turns are read, and members that mean nothing where they stand are
not; a prompt given twice fails, and so does a price beyond the range.
-/
theorem terse_settings_override_two :
    (∃ settings,
      Settings.ofJson? (.record
        [("prompt", .string "> "),
          ("engine", .record [("colour", .null), ("turn_cost", .integer 1)]),
          ("initial_fuel", .integer 3), ("colour", .string "red")]) = some settings ∧
      ∀ setting, settings.valueOf setting =
        if [Setting.prompt, .turnCost].contains setting then Settings.terse.valueOf setting
        else Settings.standard.valueOf setting) ∧
    Settings.ofJson? (.record [("prompt", .string "> "), ("prompt", .string "> ")]) = none ∧
    (∃ settings,
      Settings.ofNode? (.mapping
        [(.scalar true "prompt", .scalar false "> "),
          (.scalar true "engine", .mapping [(.scalar true "turn_cost", .scalar true "1")]),
          (.scalar true "initial_fuel", .sequence [])]) = some settings ∧
      ∀ setting, settings.valueOf setting =
        if [Setting.prompt, .turnCost].contains setting then Settings.terse.valueOf setting
        else Settings.standard.valueOf setting) ∧
    Settings.ofNode? (.mapping [(.scalar true "engine",
      .mapping [(.scalar true "move_cost", .scalar true "2147483648")])]) = none := by
  rcases partial_settings_override_what_they_name with ⟨⟨json, noJson⟩, node, noNode⟩
  have jsonTurn : Json.medium.Names .terse [.turnCost] [("turn_cost", .integer 1)] :=
    .cons ⟨rfl, rfl⟩ .nil
  have jsonPrompt : Json.medium.Names .terse [.prompt] [("prompt", .string "> ")] :=
    .cons ⟨rfl, rfl⟩ .nil
  have nodeTurn : Yaml.Node.medium.Names .terse [.turnCost] [("turn_cost", .scalar true "1")] :=
    .cons ⟨rfl, "1", rfl, by decide⟩ .nil
  have nodePrompt : Yaml.Node.medium.Names .terse [.prompt] [("prompt", .scalar false "> ")] :=
    .cons ⟨rfl, false, rfl⟩ .nil
  have beyond : Yaml.Node.medium.Spoils .moveCost [("move_cost", .scalar true "2147483648")] := by
    refine .unfit (List.mem_singleton_self _)
      (@Medium.Reading.value?_eq_none_iff _ _ _ _ Yaml.Node.reading |>.mp ?_)
    decide
  refine ⟨json .terse [Setting.prompt, .turnCost].contains _ _ rfl ?_, (noJson _ _ rfl).mpr ?_,
    node .terse [Setting.prompt, .turnCost].contains _
      [("prompt", _), ("engine", _), ("initial_fuel", _)] (Yaml.Node.isObject_plain _) ?_,
    (noNode _ [("engine", _)] (Yaml.Node.isObject_plain _)).mpr ?_⟩
  · have engine : Json.medium.NamesEngine .terse [Setting.prompt, .turnCost].contains
        [("colour", .null), ("turn_cost", .integer 1)] :=
      .intro jsonTurn (List.forall_mem_singleton.mpr (by decide)) (.swap _ _ _)
    refine .withEngine rfl engine jsonPrompt ?_ (.swap _ _ _)
    exact List.forall_mem_cons.mpr ⟨by decide, List.forall_mem_singleton.mpr (by decide)⟩
  · exact .spoilt (by decide : Setting.prompt ∈ Setting.ofConsole) (.twice (by decide))
  · refine .withEngine (Yaml.Node.isObject_plain [("turn_cost", _)])
      (.intro nodeTurn (List.forall_mem_nil _) (.refl _)) nodePrompt ?_ (.swap _ _ _)
    exact List.forall_mem_singleton.mpr (by decide)
  · exact .engineFlawed (List.mem_singleton_self _)
      (.spoilt (Yaml.Node.isObject_plain [("move_cost", _)]) (by decide) beyond)

end Rover
