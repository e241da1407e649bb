import Mathlib.Data.List.Basic
import Mathlib.Data.List.Forall2
import Rover.Json.Codec

/-!
# Values written as JSON and read back

A value that is written as JSON is read back as it was.  It is also read from
other JSON: a record of it may have its fields in any order and other members
among them, or be an array of its fields as they are declared.  This goes for
every record inside a value, one independently of the other, and for what comes
with the case of an item.  Texts, quantities and the names of cases have one
form only.

`IsRecordOf` says which JSON writes a record, given what may stand in each
field; what reads a record finds in all of them the same values.
-/

namespace Rover

namespace Json

/--
A value writes a record with the given fields, each with what may stand in it.
It is an object with these fields and others, all in any order, or an array with
these fields in the given order.
-/
inductive IsRecordOf (fields : List (String × (Json → Prop))) : Json → Prop
  | object {known others members : List (String × Json)}
      (written : List.Forall₂ (fun field member => member.1 = field.1 ∧ field.2 member.2)
        fields known)
      (unknown : ∀ other ∈ others, other.1 ∉ fields.map Prod.fst)
      (order : members.Perm (known ++ others)) : IsRecordOf fields (.record members)
  | array {items : List Json} (written : List.Forall₂ (fun field item => field.2 item) fields items) :
      IsRecordOf fields (.array items)

/-- A value names a case, with another value for what comes with it. -/
def IsCaseOf (name : String) (payload : Json → Prop) (json : Json) : Prop :=
  ∃ value, json = .record [(name, value)] ∧ payload value

/-! ## Members of objects -/

variable {fields : List (String × (Json → Prop))} {known others members : List (String × Json)}
  {name : String} {value : Json}

theorem eq_singleton_of_filter {α : Type} {known : List (String × α)} {value : α}
    (distinct : (known.map Prod.fst).Nodup) (member : (name, value) ∈ known) :
    known.filter (fun member => member.1 == name) = [(name, value)] := by
  induction known with
  | nil => cases member
  | cons first rest ih =>
      have ⟨fresh, distinctRest⟩ := List.nodup_cons.mp distinct
      rcases List.mem_cons.mp member with rfl | later
      · have missing : rest.filter (fun member => member.1 == name) = [] := by
          refine List.filter_eq_nil_iff.mpr fun other inRest same => fresh ?_
          exact List.mem_map.mpr ⟨other, inRest, beq_iff_eq.mp same⟩
        have first : ((name, value).1 == name) = true := beq_self_eq_true name
        rw [List.filter_cons, if_pos first, missing]
      · have different : ¬(first.1 == name) = true := by
          intro same
          exact fresh (List.mem_map.mpr ⟨(name, value), later, (beq_iff_eq.mp same).symm⟩)
        rw [List.filter_cons, if_neg different, ih distinctRest later]

theorem fields?_record (names : List String) (members : List (String × Json)) :
    (Json.record members).fields? names =
      names.mapM fun name => single? name (members.map fun member => (some member.1, member.2)) := by
  rw [record, fields?, if_pos (by simp)]

theorem single?_record (name : String) (members : List (String × Json)) :
    single? name (members.map fun member => (some member.1, member.2)) =
      match members.filter fun member => member.1 == name with
      | [] => some none
      | [member] => some (some member.2)
      | _ => none := by
  have sameName : ((fun member : Option String × Json => member.1 == some name) ∘
      fun member : String × Json => (some member.1, member.2)) =
        fun member => member.1 == name := rfl
  rw [single?, List.filter_map, sameName]
  cases members.filter fun member => member.1 == name with
  | nil => rfl
  | cons first rest => cases rest <;> rfl

/-- In an object with distinct fields and other members, each field has its own value. -/
theorem single?_of_mem (distinct : (known.map Prod.fst).Nodup)
    (unknown : ∀ other ∈ others, other.1 ∉ known.map Prod.fst)
    (order : members.Perm (known ++ others)) (member : (name, value) ∈ known) :
    single? name (members.map fun member => (some member.1, member.2)) = some (some value) := by
  have missing : others.filter (fun member => member.1 == name) = [] := by
    refine List.filter_eq_nil_iff.mpr fun other inOthers same => unknown other inOthers ?_
    exact List.mem_map.mpr ⟨(name, value), member, (beq_iff_eq.mp same).symm⟩
  have found := order.filter fun member => member.1 == name
  rw [List.filter_append, eq_singleton_of_filter distinct member, missing,
    List.append_nil] at found
  rw [single?_record, List.perm_singleton.mp found]

/-! ## Records -/

theorem mapM_eq_some_iff {α β : Type} {read? : α → Option β} {given : List α} {found : List β} :
    given.mapM read? = some found ↔
      List.Forall₂ (fun one other => read? one = some other) given found := by
  induction given generalizing found with
  | nil => simp [eq_comm]
  | cons first rest ih =>
      simp only [List.mapM_cons, Option.bind_eq_bind, Option.bind_eq_some_iff, Option.pure_def,
        Option.some.injEq, List.forall₂_cons_left_iff, ih]
      constructor
      · rintro ⟨value, read, values, reads, rfl⟩
        exact ⟨value, values, read, reads, rfl⟩
      · rintro ⟨value, values, read, reads, rfl⟩
        exact ⟨value, read, values, reads, rfl⟩

theorem mapM_eq_some_of_forall₂ {α β γ : Type} {read? : α → Option β} {result : γ → β}
    {given : List α} {found : List γ}
    (reads : List.Forall₂ (fun one other => read? one = some (result other)) given found) :
    given.mapM read? = some (found.map result) :=
  mapM_eq_some_iff.mpr (List.forall₂_map_right_iff.mpr reads)

/-- The values of a record are found by the names of its fields, however it is written. -/
theorem IsRecordOf.exists_fields? {json : Json} (distinct : (fields.map Prod.fst).Nodup)
    (record : IsRecordOf fields json) :
    ∃ values, List.Forall₂ (fun field value => field.2 value) fields values ∧
      json.fields? (fields.map Prod.fst) = some (values.map some) := by
  cases record with
  | @object known others members written unknown order =>
      have names : known.map Prod.fst = fields.map Prod.fst :=
        List.forall₂_eq_eq_eq ▸ List.forall₂_map_left_iff.mpr
          (List.forall₂_map_right_iff.mpr (written.flip.imp fun _ _ both => both.1))
      refine ⟨known.map Prod.snd, ?_, ?_⟩
      · exact List.forall₂_map_right_iff.mpr (written.imp fun _ _ both => both.2)
      · rw [← names] at distinct unknown
        have reads : List.Forall₂ (fun name (member : String × Json) =>
            single? name (members.map fun member => (some member.1, member.2)) =
              some (some member.2)) (known.map Prod.fst) known := by
          refine List.forall₂_map_left_iff.mpr (List.forall₂_same.mpr fun member inKnown => ?_)
          exact single?_of_mem distinct unknown order inKnown
        rw [fields?_record, ← names, mapM_eq_some_of_forall₂ reads, List.map_map]
        rfl
  | @array items written =>
      refine ⟨items, written, ?_⟩
      have sameLength : items.length = (fields.map Prod.fst).length := by
        rw [List.length_map, written.length_eq]
      rw [fields?, if_pos (Nat.le_of_eq sameLength), sameLength, Nat.sub_self, List.replicate_zero,
        List.append_nil]

/-- The plain object with some fields is a record of them. -/
theorem isRecordOf_record
    (written : List.Forall₂ (fun field member => member.1 = field.1 ∧ field.2 member.2)
      fields known) : IsRecordOf fields (.record known) :=
  .object written (List.forall_mem_nil _) (by rw [List.append_nil])

theorem texts?_ofTexts (texts : List String) : (ofTexts texts).texts? = some texts := by
  rw [ofTexts, texts?, List.mapM_map]
  have reads : List.Forall₂ (fun text other => (string text).text? = some (id other)) texts texts :=
    List.forall₂_same.mpr fun _ _ => rfl
  have found := mapM_eq_some_of_forall₂ reads
  rwa [List.map_id] at found

end Json

theorem Quantity.quantity?_toJson (quantity : Quantity) : quantity.toJson.quantity? = some quantity :=
  quantity.ofInt?_value

theorem PlaceId.index?_toJson {place : PlaceId} (fits : place < UInt64.size) :
    (PlaceId.toJson place).index? = some place :=
  if_pos fits

/-! ## Values and what writes them -/

theorem Direction.ofJson?_toJson (direction : Direction) :
    Direction.ofJson? direction.toJson = some direction := by
  cases direction <;> rfl

theorem Rotation.ofJson?_toJson (rotation : Rotation) :
    Rotation.ofJson? rotation.toJson = some rotation := by
  cases rotation <;> rfl

/-- What writes the view of a place. -/
def PlaceView.IsWrittenBy (view : PlaceView) : Json → Prop :=
  Json.IsRecordOf
    [("name", (· = .string view.name)), ("description", (· = .string view.description)),
      ("is_spaceship", (· = .boolean view.isSpaceship)), ("items", (· = .ofTexts view.items))]

theorem PlaceView.isWrittenBy_toJson (view : PlaceView) : view.IsWrittenBy view.toJson :=
  Json.isRecordOf_record (by simp)

theorem PlaceView.IsWrittenBy.ofJson? {view : PlaceView} {json : Json}
    (written : view.IsWrittenBy json) : PlaceView.ofJson? json = some view := by
  rcases Json.IsRecordOf.exists_fields? (by simp) written with ⟨values, hold, found⟩
  rcases hold with _ | ⟨rfl, _ | ⟨rfl, _ | ⟨rfl, _ | ⟨rfl, _ | _⟩⟩⟩⟩
  simp only [List.map_cons, List.map_nil] at found
  simp only [PlaceView.ofJson?, found]
  simp [Json.string, Json.text?, Json.boolean?, Json.texts?_ofTexts]

/-- What writes a street. -/
def Street.IsWrittenBy (street : Street) : Json → Prop :=
  Json.IsRecordOf
    [("source", (· = PlaceId.toJson street.source)), ("direction", (· = street.direction.toJson)),
      ("target", (· = PlaceId.toJson street.target)), ("open", (· = .boolean street.isOpen)),
      ("code", (· = .string street.code))]

theorem Street.isWrittenBy_toJson (street : Street) : street.IsWrittenBy street.toJson :=
  Json.isRecordOf_record (by simp)

theorem Street.IsWrittenBy.ofJson? {street : Street} {json : Json}
    (written : street.IsWrittenBy json) (source : street.source < UInt64.size)
    (target : street.target < UInt64.size) : Street.ofJson? json = some street := by
  rcases Json.IsRecordOf.exists_fields? (by simp) written with ⟨values, hold, found⟩
  rcases hold with _ | ⟨rfl, _ | ⟨rfl, _ | ⟨rfl, _ | ⟨rfl, _ | ⟨rfl, _ | _⟩⟩⟩⟩⟩
  simp only [List.map_cons, List.map_nil] at found
  simp only [Street.ofJson?, found]
  simp [PlaceId.index?_toJson source, PlaceId.index?_toJson target, Direction.ofJson?_toJson,
    Json.string, Json.text?, Json.boolean?]

/-- What writes the kind of an item. -/
def ItemKind.IsWrittenBy : ItemKind → Json → Prop
  | .fuel power times =>
      Json.IsCaseOf "Fuel"
        (Json.IsRecordOf [("power", (· = power.toJson)), ("times", (· = times.toJson))])
  | .garbage material times =>
      Json.IsCaseOf "Garbage"
        (Json.IsRecordOf
          [("recycled_material", (· = material.toJson)), ("times", (· = times.toJson))])
  | .codeCard code =>
      Json.IsCaseOf "CodeCard" (Json.IsRecordOf [("code", (· = .string code))])
  | .generic => (· = .string "Generic")

theorem ItemKind.isWrittenBy_toJson (kind : ItemKind) : kind.IsWrittenBy kind.toJson := by
  cases kind with
  | fuel power times => exact ⟨_, rfl, Json.isRecordOf_record (by simp)⟩
  | garbage material times => exact ⟨_, rfl, Json.isRecordOf_record (by simp)⟩
  | codeCard code => exact ⟨_, rfl, Json.isRecordOf_record (by simp)⟩
  | generic => rfl

theorem ItemKind.IsWrittenBy.ofJson? {kind : ItemKind} {json : Json}
    (written : kind.IsWrittenBy json) : ItemKind.ofJson? json = some kind := by
  cases kind with
  | fuel power times =>
      rcases written with ⟨payload, rfl, written⟩
      rcases Json.IsRecordOf.exists_fields? (by simp) written with ⟨values, hold, found⟩
      rcases hold with _ | ⟨rfl, _ | ⟨rfl, _ | _⟩⟩
      simp only [List.map_cons, List.map_nil] at found
      simp [ItemKind.ofJson?, Json.record, Json.variant?, found, Quantity.quantity?_toJson]
  | garbage material times =>
      rcases written with ⟨payload, rfl, written⟩
      rcases Json.IsRecordOf.exists_fields? (by simp) written with ⟨values, hold, found⟩
      rcases hold with _ | ⟨rfl, _ | ⟨rfl, _ | _⟩⟩
      simp only [List.map_cons, List.map_nil] at found
      simp [ItemKind.ofJson?, Json.record, Json.variant?, found, Quantity.quantity?_toJson]
  | codeCard code =>
      rcases written with ⟨payload, rfl, written⟩
      rcases Json.IsRecordOf.exists_fields? (by simp) written with ⟨values, hold, found⟩
      rcases hold with _ | ⟨rfl, _ | _⟩
      simp only [List.map_cons, List.map_nil] at found
      simp [ItemKind.ofJson?, Json.record, Json.variant?, found, Json.string, Json.text?]
  | generic =>
      cases written
      rfl

/-- What writes an item. -/
def Item.IsWrittenBy (item : Item) : Json → Prop :=
  Json.IsRecordOf
    [("id", (· = .string item.id)), ("description", (· = .string item.description)),
      ("kind", item.kind.IsWrittenBy)]

theorem Item.isWrittenBy_toJson (item : Item) : item.IsWrittenBy item.toJson :=
  Json.isRecordOf_record (by simp [ItemKind.isWrittenBy_toJson])

theorem Item.IsWrittenBy.ofJson? {item : Item} {json : Json} (written : item.IsWrittenBy json) :
    Item.ofJson? json = some item := by
  rcases Json.IsRecordOf.exists_fields? (by simp) written with ⟨values, hold, found⟩
  rcases hold with _ | ⟨rfl, _ | ⟨rfl, _ | ⟨kindWritten, _ | _⟩⟩⟩
  simp only [List.map_cons, List.map_nil] at found
  simp only [Item.ofJson?, found]
  simp [Json.string, Json.text?, ItemKind.IsWrittenBy.ofJson? kindWritten]

/-- What writes a help text. -/
def HelpText.IsWrittenBy (help : HelpText) : Json → Prop :=
  Json.IsRecordOf [("header", (· = .string help.header)), ("lines", (· = .ofTexts help.lines))]

theorem HelpText.isWrittenBy_toJson (help : HelpText) : help.IsWrittenBy help.toJson :=
  Json.isRecordOf_record (by simp)

theorem HelpText.IsWrittenBy.ofJson? {help : HelpText} {json : Json}
    (written : help.IsWrittenBy json) : HelpText.ofJson? json = some help := by
  rcases Json.IsRecordOf.exists_fields? (by simp) written with ⟨values, hold, found⟩
  rcases hold with _ | ⟨rfl, _ | ⟨rfl, _ | _⟩⟩
  simp only [List.map_cons, List.map_nil] at found
  simp only [HelpText.ofJson?, found]
  simp [Json.string, Json.text?, Json.texts?_ofTexts]

/-- What writes the settings of an engine in full. -/
def EngineSettings.IsWrittenBy (settings : EngineSettings) : Json → Prop :=
  Json.IsRecordOf
    [("initial_fuel", (· = settings.initialFuel.toJson)),
      ("move_cost", (· = settings.moveCost.toJson)), ("turn_cost", (· = settings.turnCost.toJson))]

theorem EngineSettings.isWrittenBy_toJson (settings : EngineSettings) :
    settings.IsWrittenBy settings.toJson :=
  Json.isRecordOf_record (by simp)

theorem EngineSettings.IsWrittenBy.ofJson? {settings : EngineSettings} {json : Json}
    (written : settings.IsWrittenBy json) : EngineSettings.ofJson? json = some settings := by
  rcases Json.IsRecordOf.exists_fields? (by simp) written with ⟨values, hold, found⟩
  rcases hold with _ | ⟨rfl, _ | ⟨rfl, _ | ⟨rfl, _ | _⟩⟩⟩
  simp only [List.map_cons, List.map_nil] at found
  simp only [EngineSettings.ofJson?, found]
  simp [Json.orElse, Quantity.quantity?_toJson]

/-- What writes the settings of a game in full. -/
def Settings.IsWrittenBy (settings : Settings) : Json → Prop :=
  Json.IsRecordOf
    [("robot_name", (· = .string settings.robotName)), ("prompt", (· = .string settings.prompt)),
      ("item_indent", (· = .string settings.itemIndent)),
      ("line_separator", (· = .string settings.lineSeparator)),
      ("engine", settings.engine.IsWrittenBy)]

theorem Settings.isWrittenBy_toJson (settings : Settings) : settings.IsWrittenBy settings.toJson :=
  Json.isRecordOf_record (by simp [EngineSettings.isWrittenBy_toJson])

theorem Settings.IsWrittenBy.ofJson? {settings : Settings} {json : Json}
    (written : settings.IsWrittenBy json) : Settings.ofJson? json = some settings := by
  rcases Json.IsRecordOf.exists_fields? (by simp) written with ⟨values, hold, found⟩
  rcases hold with _ | ⟨rfl, _ | ⟨rfl, _ | ⟨rfl, _ | ⟨rfl, _ | ⟨engineWritten, _ | _⟩⟩⟩⟩⟩
  simp only [List.map_cons, List.map_nil] at found
  simp only [Settings.ofJson?, found]
  simp [Json.orElse, Json.string, Json.text?, EngineSettings.IsWrittenBy.ofJson? engineWritten]

/--
Every value is read back from the JSON that it is written as, and a value made
of records from all other JSON that writes these records: with their fields in
any order and others among them, or as arrays.  Numbers of places have 64 bits.
-/
theorem values_survive_json :
    (∀ direction : Direction, Direction.ofJson? direction.toJson = some direction) ∧
    (∀ rotation : Rotation, Rotation.ofJson? rotation.toJson = some rotation) ∧
    (∀ place : PlaceId, place < UInt64.size → (PlaceId.toJson place).index? = some place) ∧
    (∀ view : PlaceView, view.IsWrittenBy view.toJson ∧
      ∀ json, view.IsWrittenBy json → PlaceView.ofJson? json = some view) ∧
    (∀ street : Street, street.source < UInt64.size → street.target < UInt64.size →
      street.IsWrittenBy street.toJson ∧
        ∀ json, street.IsWrittenBy json → Street.ofJson? json = some street) ∧
    (∀ kind : ItemKind, kind.IsWrittenBy kind.toJson ∧
      ∀ json, kind.IsWrittenBy json → ItemKind.ofJson? json = some kind) ∧
    (∀ item : Item, item.IsWrittenBy item.toJson ∧
      ∀ json, item.IsWrittenBy json → Item.ofJson? json = some item) ∧
    (∀ help : HelpText, help.IsWrittenBy help.toJson ∧
      ∀ json, help.IsWrittenBy json → HelpText.ofJson? json = some help) ∧
    (∀ settings : EngineSettings, settings.IsWrittenBy settings.toJson ∧
      ∀ json, settings.IsWrittenBy json → EngineSettings.ofJson? json = some settings) ∧
    ∀ settings : Settings, settings.IsWrittenBy settings.toJson ∧
      ∀ json, settings.IsWrittenBy json → Settings.ofJson? json = some settings := by
  refine ⟨Direction.ofJson?_toJson, Rotation.ofJson?_toJson, fun _ => PlaceId.index?_toJson,
    ?_, ?_, ?_, ?_, ?_, ?_, ?_⟩
  · exact fun view => ⟨view.isWrittenBy_toJson, fun _ written => written.ofJson?⟩
  · exact fun street source target =>
      ⟨street.isWrittenBy_toJson, fun _ written => written.ofJson? source target⟩
  · exact fun kind => ⟨kind.isWrittenBy_toJson, fun _ written => written.ofJson?⟩
  · exact fun item => ⟨item.isWrittenBy_toJson, fun _ written => written.ofJson?⟩
  · exact fun help => ⟨help.isWrittenBy_toJson, fun _ written => written.ofJson?⟩
  · exact fun settings => ⟨settings.isWrittenBy_toJson, fun _ written => written.ofJson?⟩
  · exact fun settings => ⟨settings.isWrittenBy_toJson, fun _ written => written.ofJson?⟩

/-- A cell as an array, its kind with the fields the other way round and a strange one among them. -/
def cellJson : Json :=
  .array
    [.string "cell", .string "Spare",
      .record [("Fuel", .record [("times", .integer 2), ("colour", .null), ("power", .integer (-5))])]]

/-- A street to the last place that can have a number, as an array. -/
def longRoadJson : Json :=
  .array [.integer 0, .string "West", .integer 18446744073709551615, .boolean false, .string "gate"]

/-- The cell and the street are read as what they write. -/
theorem cell_and_longRoad_are_read :
    Item.IsWrittenBy ⟨"cell", "Spare", .fuel (.nearest (-5)) (.nearest 2)⟩ cellJson ∧
    Item.ofJson? cellJson = some ⟨"cell", "Spare", .fuel (.nearest (-5)) (.nearest 2)⟩ ∧
    18446744073709551615 < UInt64.size ∧
    Street.IsWrittenBy ⟨0, .west, 18446744073709551615, false, "gate"⟩ longRoadJson ∧
    Street.ofJson? longRoadJson = some ⟨0, .west, 18446744073709551615, false, "gate"⟩ := by
  have order : [("times", Json.integer 2), ("colour", .null), ("power", .integer (-5))].Perm
      [("power", .integer (-5)), ("times", .integer 2), ("colour", .null)] :=
    List.perm_append_singleton ("power", Json.integer (-5)) [_, _]
  have turned : Json.IsRecordOf
      [("power", (· = (Quantity.nearest (-5)).toJson)), ("times", (· = (Quantity.nearest 2).toJson))]
      (.record [("times", .integer 2), ("colour", .null), ("power", .integer (-5))]) :=
    @Json.IsRecordOf.object _ [("power", .integer (-5)), ("times", .integer 2)] [("colour", .null)] _
      (.cons ⟨rfl, rfl⟩ (.cons ⟨rfl, rfl⟩ .nil)) (by simp) order
  have cell : Item.IsWrittenBy ⟨"cell", "Spare", .fuel (.nearest (-5)) (.nearest 2)⟩ cellJson :=
    .array (.cons rfl (.cons rfl (.cons ⟨_, rfl, turned⟩ .nil)))
  have road : Street.IsWrittenBy ⟨0, .west, 18446744073709551615, false, "gate"⟩ longRoadJson :=
    .array (.cons rfl (.cons rfl (.cons rfl (.cons rfl (.cons rfl .nil)))))
  have fits : 18446744073709551615 < UInt64.size := by decide
  have near : 0 < UInt64.size := by decide
  rcases values_survive_json with ⟨-, -, -, -, streets, -, items, -⟩
  exact ⟨cell, (items _).2 _ cell, fits, road, (streets _ near fits).2 _ road⟩

end Rover
