import Rover.Proofs.Edits

/-!
# Maps laid out anew

Rows that are the same but for layout are read alike one after the other: they
are the same markers, and records of the same contents, with their keywords at
the same places.  So a map that is laid out anew makes the same city, or fails
with an error of the same kind.
-/

namespace Rover

namespace Atlas

/-! ## Verdicts -/

/-- The kinds of errors. -/
inductive MapError.Variant where
  | unreadable
  | missingHeader
  | unexpectedEnd
  | unknownSection
  | malformed
  | outOfSequence
  | unknownPlace
  | unknownDirection
  | duplicateItem
  | noPlaces
  deriving DecidableEq, Repr

/-- The kind of an error, whatever line and words it tells of. -/
def MapError.variant : MapError → Variant
  | .unreadable _ => .unreadable
  | .missingHeader _ => .missingHeader
  | .unexpectedEnd _ _ => .unexpectedEnd
  | .unknownSection _ _ => .unknownSection
  | .malformed _ _ _ => .malformed
  | .outOfSequence _ _ _ _ => .outOfSequence
  | .unknownPlace _ _ => .unknownPlace
  | .unknownDirection _ _ => .unknownDirection
  | .duplicateItem _ _ _ => .duplicateItem
  | .noPlaces => .noPlaces

/-- Both come to the same value, or both fail with errors of one kind. -/
def SameVerdict {α : Type} (tried other : Except MapError α) : Prop :=
  tried.mapError MapError.variant = other.mapError MapError.variant

namespace SameVerdict

variable {α β : Type} {tried other : Except MapError α}

theorem refl (tried : Except MapError α) : SameVerdict tried tried :=
  rfl

theorem error {cause twin : MapError} (same : cause.variant = twin.variant) :
    SameVerdict (.error cause : Except MapError α) (.error twin) :=
  congrArg Except.error same

theorem cases (same : SameVerdict tried other) :
    (∃ value, tried = .ok value ∧ other = .ok value) ∨
      ∃ cause twin, tried = .error cause ∧ other = .error twin ∧
        cause.variant = twin.variant := by
  cases tried with
  | ok value =>
      cases other with
      | ok twin =>
          cases same
          exact Or.inl ⟨value, rfl, rfl⟩
      | error twin => cases same
  | error cause =>
      cases other with
      | ok twin => cases same
      | error twin => exact Or.inr ⟨cause, twin, rfl, rfl, Except.error.inj same⟩

theorem bind (first : SameVerdict tried other) {next more : α → Except MapError β}
    (second : ∀ value, SameVerdict (next value) (more value)) :
    SameVerdict (tried >>= next) (other >>= more) := by
  rcases first.cases with ⟨value, rfl, rfl⟩ | ⟨cause, twin, rfl, rfl, same⟩
  · exact second value
  · exact error same

theorem map (same : SameVerdict tried other) (change : α → β) :
    SameVerdict (tried.map change) (other.map change) := by
  rcases same.cases with ⟨value, rfl, rfl⟩ | ⟨cause, twin, rfl, rfl, kind⟩
  · exact refl _
  · exact error kind

theorem ite {condition : Prop} [Decidable condition] {yes alsoYes no alsoNo : Except MapError α}
    (whenTrue : condition → SameVerdict yes alsoYes)
    (whenFalse : ¬ condition → SameVerdict no alsoNo) :
    SameVerdict (if condition then yes else no) (if condition then alsoYes else alsoNo) := by
  split
  · exact whenTrue ‹_›
  · exact whenFalse ‹_›

end SameVerdict

/-! ## Keywords -/

theorem recordWords_differ : ∀ row ∈ recordWords, ∀ other ∈ recordWords,
    AlikeButCase row.1.toList other.1.toList → row = other := by
  decide

theorem Field.alikeButCase_of_is {field : Field} {keyword : String} (is : field.is keyword = true) :
    AlikeButCase keyword.toList field.text :=
  isKeyword_iff.mp (Bool.and_eq_true_iff.mp is).2

/-- The word that a record begins with tells where its keywords are. -/
theorem keywordPlaces_eq {word : Field} {row : String × List Nat} (listed : row ∈ recordWords)
    (is : word.is row.1 = true) (rest : List Field) : keywordPlaces (word :: rest) = row.2 := by
  have found : recordWords.find? (fun other => word.is other.1) = some row := by
    cases first : recordWords.find? fun other => word.is other.1 with
    | none => exact absurd is (List.find?_eq_none.mp first row listed)
    | some other =>
        have also : word.is other.1 = true := by
          simpa using List.find?_some first
        rw [recordWords_differ row listed other (List.mem_of_find?_eq_some first)
          ((Field.alikeButCase_of_is is).trans (Field.alikeButCase_of_is also).symm)]
  rw [keywordPlaces, List.head?_cons, Option.bind_some, found]

theorem SameRecord.content {word : Field} {rest others : List Field}
    (same : SameRecord (word :: rest) others) (row : String × List Nat)
    (listed : row ∈ recordWords) (is : word.is row.1 = true) :
    ∀ index, index ∉ row.2 → (word :: rest)[index]? = others[index]? := by
  intro index content
  rw [← keywordPlaces_eq listed is rest] at content
  exact same.kept index content

/-- Two fields differ in the case of letters at most. -/
def Field.Alike (field other : Field) : Prop :=
  field.mapText Char.toLower = other.mapText Char.toLower

theorem Field.Alike.is_eq {field other : Field} (alike : field.Alike other) (keyword : String) :
    other.is keyword = field.is keyword := by
  have ⟨texts, quotes⟩ := Field.mk.inj alike
  rw [Field.is, Field.is, quotes, AlikeButCase.isKeyword_eq texts]

theorem SameRecord.forall₂ {fields others : List Field} (same : SameRecord fields others) :
    List.Forall₂ Field.Alike fields others := by
  have pairs : List.Forall₂ Eq (fields.map (Field.mapText Char.toLower))
      (others.map (Field.mapText Char.toLower)) := by
    rw [same.folded, List.forall₂_eq_eq_eq]
  rw [List.forall₂_map_left_iff, List.forall₂_map_right_iff] at pairs
  exact pairs

/-! ## Records -/

namespace Draft

variable {line otherLine : Nat} {subject : Subject} {draft : Draft}

theorem sameVerdict_index (field : Field) :
    SameVerdict (index line subject field) (index otherLine subject field) := by
  unfold index
  cases Text.index? field.text with
  | none => exact .error rfl
  | some found => exact .refl _

theorem sameVerdict_quantity (field : Field) :
    SameVerdict (quantity line subject field) (quantity otherLine subject field) := by
  unfold quantity
  cases (Text.whole? field.text).bind Quantity.ofInt? with
  | none => exact .error rfl
  | some found => exact .refl _

theorem sameVerdict_inSequence (field : Field) (expected : Nat) :
    SameVerdict (inSequence line subject field expected)
      (inSequence otherLine subject field expected) :=
  (sameVerdict_index field).bind fun _ => .ite (fun _ => .refl _) fun _ => .error rfl

theorem sameVerdict_placeNumber (field : Field) :
    SameVerdict (draft.placeNumber line field) (draft.placeNumber otherLine field) := by
  refine (sameVerdict_index field).bind fun place => ?_
  cases draft.numbers[place]? with
  | none => exact .error rfl
  | some number => exact .refl _

theorem sameVerdict_layItem (item : Item) {word twin : Field}
    (same : word.is "place" = twin.is "place") (field : Field) :
    SameVerdict (draft.layItem line item word field) (draft.layItem otherLine item twin field) := by
  unfold layItem
  rw [same]
  refine .ite (fun _ => .error rfl) fun _ => ?_
  exact (sameVerdict_placeNumber field).bind fun place =>
    .ite (fun _ => .error rfl) fun _ => .refl _

theorem sameVerdict_place {fields others : List Field} (same : SameRecord fields others) :
    SameVerdict (draft.place line fields) (draft.place otherLine others) := by
  rcases same.forall₂ with
    _ | ⟨words, _ | ⟨_, _ | ⟨_, _ | ⟨_, _ | ⟨ships, _ | ⟨_, _⟩⟩⟩⟩⟩⟩
  -- A record of another length is malformed whatever its fields are.
  any_goals exact .error rfl
  unfold place
  dsimp only
  rw [words.is_eq, ships.is_eq, ships.is_eq]
  refine .ite (fun _ => .error rfl) fun is => ?_
  -- Only now is it known where the keywords are, and that the other fields are the same.
  have content := same.content ("place", [0, 4]) (by decide) (by simpa using is)
  obtain rfl := Option.some.inj (content 1 (by decide))
  obtain rfl := Option.some.inj (content 2 (by decide))
  obtain rfl := Option.some.inj (content 3 (by decide))
  exact (sameVerdict_inSequence _ _).bind fun _ =>
    .ite (fun _ => .refl _) fun _ => .ite (fun _ => .refl _) fun _ => .error rfl

/-- Two records of streets agree but for the case of their keywords. -/
structure StreetRecord.Alike (record twin : StreetRecord) : Prop where
  word : record.word.Alike twin.word
  fromWord : record.fromWord.Alike twin.fromWord
  direction : record.direction.Alike twin.direction
  toWord : record.toWord.Alike twin.toWord
  door : record.door.Alike twin.door
  content : record.word.is "street" = true → record.number = twin.number ∧
    record.source = twin.source ∧ record.target = twin.target ∧ record.code? = twin.code?

theorem sameStreetRecord {fields others : List Field} (same : SameRecord fields others) :
    Option.Rel StreetRecord.Alike (StreetRecord.ofFields? fields)
      (StreetRecord.ofFields? others) := by
  rcases same.forall₂ with
    _ | ⟨words, _ | ⟨_, _ | ⟨fromWords, _ | ⟨_, _ | ⟨directions, _ | ⟨toWords, _ | ⟨_, _ | ⟨doors,
      _ | ⟨_, _ | ⟨_, _⟩⟩⟩⟩⟩⟩⟩⟩⟩⟩
  any_goals exact .none
  · refine .some ⟨words, fromWords, directions, toWords, doors, fun is => ?_⟩
    have content := same.content ("street", [0, 2, 4, 5, 7]) (by decide) is
    exact ⟨Option.some.inj (content 1 (by decide)), Option.some.inj (content 3 (by decide)),
      Option.some.inj (content 6 (by decide)), rfl⟩
  · refine .some ⟨words, fromWords, directions, toWords, doors, fun is => ?_⟩
    have content := same.content ("street", [0, 2, 4, 5, 7]) (by decide) is
    exact ⟨Option.some.inj (content 1 (by decide)), Option.some.inj (content 3 (by decide)),
      Option.some.inj (content 6 (by decide)), content 8 (by decide)⟩

theorem StreetRecord.Alike.doorAndCode?_eq {record twin : StreetRecord}
    (alike : record.Alike twin) (codes : record.code? = twin.code?) :
    twin.doorAndCode? = record.doorAndCode? := by
  unfold StreetRecord.doorAndCode?
  rw [codes, alike.door.is_eq, alike.door.is_eq]

theorem sameVerdict_street {fields others : List Field} (same : SameRecord fields others) :
    SameVerdict (draft.street line fields) (draft.street otherLine others) := by
  unfold street
  match StreetRecord.ofFields? fields, StreetRecord.ofFields? others, sameStreetRecord same with
  | _, _, .none => exact .error rfl
  | some record, some twin, .some alike =>
      dsimp only
      rw [alike.word.is_eq, alike.fromWord.is_eq, alike.toWord.is_eq]
      refine .ite (fun _ => .error rfl) fun is => ?_
      simp only [Bool.not_eq_true', Bool.not_eq_false, Bool.and_eq_true] at is
      have ⟨numbers, sources, targets, codes⟩ := alike.content is.1.1
      have directions := AlikeButCase.parse_eq (Field.mk.inj alike.direction).1
      rw [alike.doorAndCode?_eq codes, ← numbers, ← sources, ← targets, ← directions]
      match record.doorAndCode? with
      | none => exact .error rfl
      | some (isOpen, code) =>
          refine (sameVerdict_inSequence _ _).bind fun _ => (sameVerdict_placeNumber _).bind
            fun source => (sameVerdict_placeNumber _).bind fun target => ?_
          cases Direction.parse record.direction.text with
          | unknown => exact .error rfl
          | _ => exact .refl _

theorem sameVerdict_item {fields others : List Field} (same : SameRecord fields others) :
    SameVerdict (draft.item line fields) (draft.item otherLine others) := by
  rcases same.forall₂ with
    _ | @⟨kind, _, _, _, kinds, _ | ⟨_, _ | ⟨_, _ | ⟨_, _ | ⟨_, _ | ⟨sixth, _ | ⟨seventh,
      _ | ⟨_, _ | ⟨_, _⟩⟩⟩⟩⟩⟩⟩⟩⟩
  any_goals exact .error rfl
  -- Seven fields are garbage or a card, which have their keywords at the same places.
  · unfold item
    dsimp only
    rw [kinds.is_eq, kinds.is_eq]
    by_cases known : kind.is "garbage" = true ∨ kind.is "codecard" = true
    · have content := known.elim (same.content ("garbage", [0, 5]) (by decide))
        (same.content ("codecard", [0, 5]) (by decide))
      obtain rfl := Option.some.inj (content 1 (by decide))
      obtain rfl := Option.some.inj (content 2 (by decide))
      obtain rfl := Option.some.inj (content 3 (by decide))
      obtain rfl := Option.some.inj (content 4 (by decide))
      obtain rfl := Option.some.inj (content 6 (by decide))
      refine .ite (fun _ => ?_) fun _ => .ite (fun _ => ?_) fun _ => .error rfl
      · exact (sameVerdict_inSequence _ _).bind fun _ => (sameVerdict_quantity _).bind fun _ =>
          sameVerdict_layItem _ (sixth.is_eq _).symm _
      · exact (sameVerdict_inSequence _ _).bind fun _ =>
          sameVerdict_layItem _ (sixth.is_eq _).symm _
    · have ⟨noGarbage, noCard⟩ := not_or.mp known
      rw [if_neg noGarbage, if_neg noGarbage, if_neg noCard, if_neg noCard]
      exact .error rfl
  · unfold item
    dsimp only
    rw [kinds.is_eq]
    refine .ite (fun _ => .error rfl) fun is => ?_
    have content := same.content ("fuel", [0, 6]) (by decide) (by simpa using is)
    obtain rfl := Option.some.inj (content 1 (by decide))
    obtain rfl := Option.some.inj (content 2 (by decide))
    obtain rfl := Option.some.inj (content 3 (by decide))
    obtain rfl := Option.some.inj (content 4 (by decide))
    obtain rfl := Option.some.inj (content 5 (by decide))
    obtain rfl := Option.some.inj (content 7 (by decide))
    exact (sameVerdict_inSequence _ _).bind fun _ => (sameVerdict_quantity _).bind fun _ =>
      (sameVerdict_quantity _).bind fun _ => sameVerdict_layItem _ (seventh.is_eq _).symm _

theorem sameVerdict_add (part : Part) {row other : List Char} (same : SameRow row other) :
    SameVerdict (draft.add part line row) (draft.add part otherLine other) := by
  unfold add
  match Field.split row, Field.split other, same.fields with
  | _, _, .none => exact .error rfl
  | some fields, some others, .some same =>
      cases part with
      | places => exact sameVerdict_place same
      | streets => exact sameVerdict_street same
      | items => exact sameVerdict_item same

end Draft

/-! ## Maps -/

theorem begunBy?_eq {row other : List Char} (same : SameRow row other) :
    Part.begunBy? other = Part.begunBy? row := by
  have opens (part : Part) :
      Text.isKeyword part.opener row = Text.isKeyword part.opener other :=
    same.marker part.opener (by cases part <;> decide)
  unfold Part.begunBy?
  simp only [opens]

theorem readFrom_inside (count : Nat) (part : Part) (draft : Draft) (record : Record)
    (rest : List Record) : readFrom count (.inside part) draft (record :: rest) =
      if Text.isKeyword part.closer record.text then readFrom count .outside draft rest
      else draft.add part record.line record.text >>= fun next =>
        readFrom count (.inside part) next rest := by
  rw [readFrom]
  cases draft.add part record.line record.text <;> rfl

/-- Rows that are the same but for layout are read alike, wherever they stand. -/
theorem sameVerdict_readFrom {records others : List Record}
    (same : List.Forall₂ (fun record other => SameRow record.text other.text) records others)
    (count otherCount : Nat) (position : Position) (draft : Draft) :
    SameVerdict (readFrom count position draft records)
      (readFrom otherCount position draft others) := by
  induction same generalizing position draft with
  | nil =>
      rw [readFrom, readFrom]
      cases position <;> exact .error rfl
  | @cons record other records others row rest ih =>
      cases position with
      | start =>
          rw [readFrom, readFrom, ← row.marker "BeginCity" (by decide)]
          exact .ite (fun _ => ih _ _) fun _ => .error rfl
      | outside =>
          rw [readFrom, readFrom, begunBy?_eq row, ← row.marker "EndCity" (by decide)]
          cases Part.begunBy? record.text with
          | some part => exact ih _ _
          | none =>
              exact .ite (fun _ => .refl _) fun _ => .error rfl
      | inside part =>
          rw [readFrom_inside, readFrom_inside,
            ← row.marker part.closer (by cases part <;> decide)]
          refine .ite (fun _ => ih _ _) fun _ => ?_
          exact (Draft.sameVerdict_add part row).bind fun next => ih _ next

theorem map_text_recordsFrom (first : Nat) (lines : List (List Char)) :
    (recordsFrom first lines).map Record.text =
      (lines.map Text.trim).filter fun row => !row.isEmpty := by
  induction lines generalizing first with
  | nil => rfl
  | cons line rest ih =>
      rw [recordsFrom]
      split
      · rename_i blank
        rw [ih, List.map_cons, List.filter_cons_of_neg (by simp [blank])]
      · rename_i written
        rw [List.map_cons, ih, List.map_cons, List.filter_cons_of_pos (by simp [written])]

/-- The records of a map are its rows with their numbers. -/
theorem map_text_records (map : List Char) :
    (recordsFrom 1 (Text.lines map)).map Record.text = rows map := by
  rw [map_text_recordsFrom, Text.lines, rows]
  generalize Text.pieces (· == '\n') map = cut
  split
  · -- What follows a last line feed is no line, and it is blank.
    rename_i closed
    have parted : cut.dropLast ++ [[]] = cut :=
      List.dropLast_append_getLast? [] (beq_iff_eq.mp closed)
    conv_rhs => rw [← parted, List.map_append, List.filter_append]
    exact (List.append_nil _).symm
  · rfl

theorem Edit.sameVerdict {map other : List Char} (edit : Edit map other) :
    SameVerdict (read (String.ofList map)) (read (String.ofList other)) := by
  have same : List.Forall₂ (fun record other => SameRow record.text other.text)
      (recordsFrom 1 (Text.lines map)) (recordsFrom 1 (Text.lines other)) := by
    have rows := edit.sameRows
    rw [← map_text_records, ← map_text_records, List.forall₂_map_left_iff,
      List.forall₂_map_right_iff] at rows
    exact rows
  rw [read, read, load, load, String.toList_ofList, String.toList_ofList]
  exact (sameVerdict_readFrom same _ _ _ _).map Loaded.city

theorem Relaid.sameVerdict {map other : List Char} (relaid : Relaid map other) :
    SameVerdict (read (String.ofList map)) (read (String.ofList other)) := by
  induction relaid with
  | rel map other edit => exact edit.sameVerdict
  | refl map => exact .refl _
  | symm map other _ ih => exact ih.symm
  | trans map middle other _ _ first second => exact first.trans second

/--
The layout of a map does not change it.  Laid out anew it makes the same city,
and if it fails, it fails still, with an error of the same kind.
-/
theorem layout_never_changes_a_map {map other : String}
    (relaid : Relaid map.toList other.toList) :
    (∀ city, read map = .ok city ↔ read other = .ok city) ∧
    ∀ error, read map = .error error →
      ∃ twin, read other = .error twin ∧ error.variant = twin.variant := by
  have same := relaid.sameVerdict
  rw [String.ofList_toList, String.ofList_toList] at same
  rcases same.cases with ⟨value, first, second⟩ | ⟨cause, twin, first, second, kind⟩
  · rw [first, second]
    exact ⟨fun city => Iff.rfl, nofun⟩
  · rw [first, second]
    refine ⟨fun city => ⟨nofun, nofun⟩, ?_⟩
    rintro _ ⟨⟩
    exact ⟨twin, rfl, kind⟩

/-- The lines of a map of two places. -/
def plainLines : List (List Char) :=
  ["BeginCity".toList, "BeginPlaces".toList, "place 0 Sol sun noSpaceShip".toList,
    "place 1 Bar \"Cold beer\" spaceShip".toList, "EndPlaces".toList, "EndCity".toList]

/-- The same lines with other blanks around and between fields, and with other letters. -/
def ornateLines : List (List Char) :=
  ["BeginCity\r".toList, "beginPLACES".toList, "PLACE 0 Sol sun NoSpaceShip".toList,
    "place 1 Bar\t \"Cold beer\" spaceShip".toList, "  EndPlaces".toList, "EndCity".toList]

/-- With a blank line in front, these lines make the same city as the plain ones. -/
theorem ornate_is_read_like_plain :
    Relaid (plainLines.flatMap fun line => line ++ ['\n'])
      (" \n".toList ++ ornateLines.flatMap fun line => line ++ ['\n']) ∧
    ∃ city, read (String.ofList (plainLines.flatMap fun line => line ++ ['\n'])) = .ok city ∧
      read (String.ofList (" \n".toList ++ ornateLines.flatMap fun line => line ++ ['\n'])) =
        .ok city := by
  have blank : Edit (plainLines.flatMap fun line => line ++ ['\n'])
      (" \n".toList ++ plainLines.flatMap fun line => line ++ ['\n']) :=
    @Edit.blankLine [] [' '] _ (.inl rfl) (by decide) (by decide)
  have edits : List.Forall₂
      (fun line other => '\n' ∉ line ∧ '\n' ∉ other ∧ LineEdit line other)
      plainLines ornateLines := by
    refine .cons ⟨by decide, by decide, ?_⟩ <| .cons ⟨by decide, by decide, ?_⟩ <|
      .cons ⟨by decide, by decide, ?_⟩ <| .cons ⟨by decide, by decide, ?_⟩ <|
      .cons ⟨by decide, by decide, ?_⟩ <| .cons ⟨by decide, by decide, ?_⟩ .nil
    · exact @LineEdit.ends [] ['\r'] _ (by decide) (by decide)
    · exact .case (by decide) (by decide)
    · exact .case (by decide) (by decide)
    · exact @LineEdit.gap "place 1 Bar".toList [' '] ['\t', ' '] "\"Cold beer\" spaceShip".toList
        (by decide) (by decide) (by decide) (by decide) (by decide)
    · exact @LineEdit.ends [' ', ' '] [] _ (by decide) (by decide)
    · exact @LineEdit.ends [] [] _ (by decide) (by decide)
  have relaid := Relation.EqvGen.trans _ _ _ (.rel _ _ blank)
    (relaid_flatMap edits (.inr ⟨" ".toList, rfl⟩))
  have known : read (String.ofList (plainLines.flatMap fun line => line ++ ['\n'])) =
      .ok ⟨[⟨"Sol", "sun", false, .empty⟩, ⟨"Bar", "Cold beer", true, .empty⟩], []⟩ := by
    rw [read, load, String.toList_ofList]
    rfl
  refine ⟨relaid, _, known, ?_⟩
  apply ((layout_never_changes_a_map _).1 _).mp known
  rw [String.toList_ofList, String.toList_ofList]
  exact relaid

end Atlas

end Rover
