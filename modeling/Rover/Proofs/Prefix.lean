import Rover.Atlas.Reader
import Rover.Breakdown

/-!
# The line that decides a map

A map is read record by record.  A record lets the reading go on or settles
it: with an error of its own line, or as the `EndCity` that closes the map.  So
a map is settled by one of its lines and by those before it, whatever stands
behind; or no line settles it, and it has ended too early.

Which position a record is read at depends on the markers alone, so the
`EndCity` that closes a map is the first one that stands between sections.
-/

namespace Rover.Atlas

/-! ## Errors of a record -/

/-- An error is about a line that has been read. -/
structure MapError.IsAt (error : MapError) (line : Nat) : Prop where
  line? : error.line? = some line
  isRead : ∀ number inside, error ≠ .unexpectedEnd number inside

/-- Whatever goes wrong is about a line. -/
def FailsAt {α : Type} (line : Nat) (tried : Except MapError α) : Prop :=
  ∀ error, tried = .error error → error.IsAt line

namespace FailsAt

variable {α β : Type} {line : Nat}

theorem ok (value : α) : FailsAt line (.ok value) :=
  nofun

theorem error {cause : MapError} (isAt : cause.IsAt line) :
    FailsAt line (.error cause : Except MapError α) := by
  rintro _ ⟨⟩
  exact isAt

theorem bind {tried : Except MapError α} {next : α → Except MapError β}
    (first : FailsAt line tried) (second : ∀ value, FailsAt line (next value)) :
    FailsAt line (tried >>= next) := by
  intro error failed
  rcases bind_eq_error_iff.mp failed with failed | ⟨value, -, failed⟩
  · exact first error failed
  · exact second value error failed

end FailsAt

namespace Draft

variable {line : Nat} {subject : Subject} {field : Field} {draft : Draft}

theorem failsAt_index : FailsAt line (index line subject field) := by
  unfold index
  split
  · exact .ok _
  · exact .error ⟨rfl, nofun⟩

theorem failsAt_quantity : FailsAt line (quantity line subject field) := by
  unfold quantity
  split
  · exact .ok _
  · exact .error ⟨rfl, nofun⟩

theorem failsAt_inSequence {expected : Nat} :
    FailsAt line (inSequence line subject field expected) := by
  refine failsAt_index.bind fun found => ?_
  split
  · exact .ok _
  · exact .error ⟨rfl, nofun⟩

theorem failsAt_placeNumber : FailsAt line (draft.placeNumber line field) := by
  refine failsAt_index.bind fun place => ?_
  split
  · exact .ok _
  · exact .error ⟨rfl, nofun⟩

theorem failsAt_place {fields : List Field} : FailsAt line (draft.place line fields) := by
  unfold place
  split
  · dsimp only
    split
    · exact .error ⟨rfl, nofun⟩
    · refine failsAt_inSequence.bind fun _ => ?_
      split
      · exact .ok _
      · split
        · exact .ok _
        · exact .error ⟨rfl, nofun⟩
  · exact .error ⟨rfl, nofun⟩

theorem failsAt_street {fields : List Field} : FailsAt line (draft.street line fields) := by
  unfold street
  split
  · exact .error ⟨rfl, nofun⟩
  · dsimp only
    split
    · exact .error ⟨rfl, nofun⟩
    · split
      · exact .error ⟨rfl, nofun⟩
      · refine failsAt_inSequence.bind fun _ => failsAt_placeNumber.bind fun _ =>
          failsAt_placeNumber.bind fun _ => ?_
        split
        · exact .error ⟨rfl, nofun⟩
        · exact .ok _

theorem failsAt_layItem {item : Item} {word number : Field} :
    FailsAt line (draft.layItem line item word number) := by
  unfold layItem
  dsimp only
  split
  · exact .error ⟨rfl, nofun⟩
  · refine failsAt_placeNumber.bind fun place => ?_
    split
    · exact .error ⟨rfl, nofun⟩
    · exact .ok _

theorem failsAt_item {fields : List Field} : FailsAt line (draft.item line fields) := by
  unfold item
  split
  · dsimp only
    split
    · exact .error ⟨rfl, nofun⟩
    · exact failsAt_inSequence.bind fun _ => failsAt_quantity.bind fun _ =>
        failsAt_quantity.bind fun _ => failsAt_layItem
  · split
    · exact failsAt_inSequence.bind fun _ => failsAt_quantity.bind fun _ => failsAt_layItem
    · split
      · exact failsAt_inSequence.bind fun _ => failsAt_layItem
      · exact .error ⟨rfl, nofun⟩
  · exact .error ⟨rfl, nofun⟩

/-- What is wrong with a record of a section is wrong with its line. -/
theorem failsAt_add (part : Part) (record : List Char) :
    FailsAt line (draft.add part line record) := by
  unfold add
  split
  · exact .error ⟨rfl, nofun⟩
  · cases part with
    | places => exact failsAt_place
    | streets => exact failsAt_street
    | items => exact failsAt_item

end Draft

/-! ## Positions -/

/-- Where the next record stands if this one lets the reading go on. -/
def Position.after? : Position → List Char → Option Position
  | .start, record => if Text.isKeyword "BeginCity" record then some .outside else none
  | .outside, record => (Part.begunBy? record).map .inside
  | .inside part, record =>
      if Text.isKeyword part.closer record then some .outside else some (.inside part)

/-- The marker that has to come before a map may end. -/
def Position.marker : Position → String
  | .start => "BeginCity"
  | .outside => "EndCity"
  | .inside part => part.closer

/-- Where the next record stands after some records that let the reading go on. -/
def positionAfter? : Position → List Record → Option Position
  | position, [] => some position
  | position, record :: rest =>
      (position.after? record.text).bind fun next => positionAfter? next rest

theorem positionAfter?_append (position : Position) (before after : List Record) :
    positionAfter? position (before ++ after) =
      (positionAfter? position before).bind fun next => positionAfter? next after := by
  induction before generalizing position with
  | nil => rfl
  | cons record rest ih =>
      simp only [List.cons_append, positionAfter?, ih, Option.bind_assoc]

theorem Position.after?_ne_start (position : Position) (record : List Char) :
    position.after? record ≠ some .start := by
  cases position with
  | start => simp [after?]
  | outside => simp [after?]
  | inside part =>
      rw [after?]
      split <;> nofun

/-- Nothing but an empty map ends where it started. -/
theorem eq_nil_of_positionAfter?_start {position : Position} {records : List Record}
    (stayed : positionAfter? position records = some .start) : records = [] := by
  induction records generalizing position with
  | nil => rfl
  | cons record rest ih =>
      rcases Option.bind_eq_some_iff.mp stayed with ⟨next, went, stayed⟩
      cases ih stayed
      cases stayed
      exact absurd went (position.after?_ne_start record.text)

/-- No section begins where the map is closed. -/
theorem begunBy?_of_endCity {record : List Char}
    (closes : Text.isKeyword "EndCity" record = true) : Part.begunBy? record = none := by
  have other (part : Part) : Text.isKeyword part.opener record = false := by
    apply Bool.eq_false_iff.mpr
    intro opens
    have same := (beq_iff_eq.mp opens).trans (beq_iff_eq.mp closes).symm
    revert same
    cases part <;> decide
  simp [Part.begunBy?, other]

/-! ## Records -/

/-- A record settles what a map comes to: by an error of its line, or as its last record. -/
inductive Settles {α : Type} : Position → Record → Except MapError α → Prop
  | error {position : Position} {record : Record} {error : MapError}
      (isAt : error.IsAt record.line) : Settles position record (.error error)
  | closed {record : Record} {made : α}
      (closes : Text.isKeyword "EndCity" record.text = true) : Settles .outside record (.ok made)
  | noPlaces {record : Record} (closes : Text.isKeyword "EndCity" record.text = true) :
      Settles .outside record (.error .noPlaces)

theorem Settles.map {α β : Type} {position : Position} {record : Record}
    {verdict : Except MapError α} (settles : Settles position record verdict) (change : α → β) :
    Settles position record (verdict.map change) := by
  cases settles with
  | error isAt => exact .error isAt
  | closed closes => exact .closed closes
  | noPlaces closes => exact .noPlaces closes

/-- A record lets the reading go on, or settles it whatever comes behind. -/
theorem readFrom_cons_cases (position : Position) (draft : Draft) (record : Record) :
    (∃ next drawn, position.after? record.text = some next ∧ ∀ count rest,
      readFrom count position draft (record :: rest) = readFrom count next drawn rest) ∨
    ∃ verdict, Settles position record verdict ∧ ∀ count rest,
      readFrom count position draft (record :: rest) = verdict := by
  cases position with
  | start =>
      by_cases begins : Text.isKeyword "BeginCity" record.text = true
      · exact Or.inl ⟨.outside, draft, by simp [Position.after?, begins],
          fun count rest => by simp [readFrom, begins]⟩
      · exact Or.inr ⟨.error (.missingHeader record.line), .error ⟨rfl, nofun⟩,
          fun count rest => by rw [readFrom, if_neg begins]⟩
  | outside =>
      cases begun : Part.begunBy? record.text with
      | some part =>
          exact Or.inl ⟨.inside part, draft, by simp [Position.after?, begun],
            fun count rest => by simp [readFrom, begun]⟩
      | none =>
          by_cases closes : Text.isKeyword "EndCity" record.text = true
          · cases first : draft.numbers.head? with
            | none =>
                exact Or.inr ⟨_, .noPlaces closes, fun count rest => by
                  simp [readFrom, begun, closes, first]⟩
            | some start =>
                exact Or.inr ⟨.ok ⟨draft.city, start⟩, .closed closes, fun count rest => by
                  simp [readFrom, begun, closes, first]⟩
          · exact Or.inr ⟨.error (.unknownSection record.line record.text),
              .error ⟨rfl, nofun⟩, fun count rest => by simp [readFrom, begun, closes]⟩
  | inside part =>
      by_cases closes : Text.isKeyword part.closer record.text = true
      · exact Or.inl ⟨.outside, draft, by simp [Position.after?, closes],
          fun count rest => by rw [readFrom, if_pos closes]⟩
      · cases added : draft.add part record.line record.text with
        | ok drawn =>
            exact Or.inl ⟨.inside part, drawn, by simp [Position.after?, closes],
              fun count rest => by rw [readFrom, if_neg closes, added]⟩
        | error error =>
            have isAt := Draft.failsAt_add part record.text error added
            exact Or.inr ⟨.error error, .error isAt,
              fun count rest => by rw [readFrom, if_neg closes, added]⟩

/--
No record settles the reading, and the map has ended where the markers have
led; or one of them does, whatever comes behind and however many lines there are.
-/
theorem readFrom_cases (count : Nat) (position : Position) (draft : Draft)
    (records : List Record) :
    (∃ last, positionAfter? position records = some last ∧
      readFrom count position draft records = .error (endedAt count last)) ∨
    ∃ before record after last, records = before ++ record :: after ∧
      positionAfter? position before = some last ∧
      Settles last record (readFrom count position draft records) ∧
      ∀ other more, readFrom other position draft (before ++ record :: more) =
        readFrom count position draft records := by
  induction records generalizing position draft with
  | nil => exact Or.inl ⟨position, rfl, by rw [readFrom]⟩
  | cons record rest ih =>
      rcases readFrom_cons_cases position draft record with
        ⟨next, drawn, went, reads⟩ | ⟨verdict, settles, reads⟩
      · rw [reads]
        rcases ih next drawn with
          ⟨last, led, ended⟩ | ⟨before, settling, after, last, rfl, led, settles, same⟩
        · exact Or.inl ⟨last, by rw [positionAfter?, went]; exact led, ended⟩
        · refine Or.inr ⟨record :: before, settling, after, last, rfl, ?_, settles, ?_⟩
          · rw [positionAfter?, went]
            exact led
          · intro other more
            rw [List.cons_append, reads]
            exact same other more
      · refine Or.inr ⟨[], record, rest, position, rfl, rfl, ?_, ?_⟩
        · rw [reads]
          exact settles
        · intro other more
          rw [List.nil_append, reads, reads]

/-! ## Lines -/

/-- The blanks around lines do not matter. -/
theorem recordsFrom_congr {first : Nat} {lines others : List (List Char)}
    (same : lines.map Text.trim = others.map Text.trim) :
    recordsFrom first lines = recordsFrom first others := by
  induction lines generalizing first others with
  | nil =>
      cases List.map_eq_nil_iff.mp same.symm
      rfl
  | cons line rest ih =>
      cases others with
      | nil => cases same
      | cons other more =>
          rcases List.cons.inj same with ⟨sameLine, sameRest⟩
          rw [recordsFrom, recordsFrom, sameLine, ih sameRest]

/-- A record is a line that is not blank, and the records before it are the lines before it. -/
theorem exists_line_of_recordsFrom {first : Nat} {lines : List (List Char)}
    {before after : List Record} {record : Record}
    (parted : recordsFrom first lines = before ++ record :: after) :
    ∃ earlier line later, lines = earlier ++ line :: later ∧ Text.trim line ≠ [] ∧
      recordsFrom first earlier = before ∧ record = ⟨earlier.length + first, Text.trim line⟩ := by
  induction lines generalizing first before with
  | nil => simp [recordsFrom] at parted
  | cons line rest ih =>
      by_cases blank : Text.trim line = []
      · rw [recordsFrom, if_pos (by simp [blank])] at parted
        rcases ih parted with ⟨earlier, found, later, rfl, some, rfl, rfl⟩
        refine ⟨line :: earlier, found, later, rfl, some, ?_, ?_⟩
        · rw [recordsFrom, if_pos (by simp [blank])]
        · rw [List.length_cons, Nat.add_assoc, Nat.add_comm 1 first]
      · rw [recordsFrom_cons_of_ne_nil blank] at parted
        cases before with
        | nil =>
            cases parted
            exact ⟨[], line, rest, rfl, blank, rfl, by rw [List.length_nil, Nat.zero_add]⟩
        | cons opening others =>
            rcases List.cons.inj parted with ⟨rfl, onward⟩
            rcases ih onward with ⟨earlier, found, later, rfl, some, rfl, rfl⟩
            refine ⟨line :: earlier, found, later, rfl, some, ?_, ?_⟩
            · exact recordsFrom_cons_of_ne_nil blank first earlier
            · rw [List.length_cons, Nat.add_assoc, Nat.add_comm 1 first]

/-! ## Maps -/

/-- How many lines a map has. -/
def lineCount (map : String) : Nat :=
  (Text.lines map.toList).length

/-- The line of a map with a number; the first line has the number 1. -/
def lineAt? (map : String) : Nat → Option (List Char)
  | 0 => none
  | index + 1 => (Text.lines map.toList)[index]?

/-- Two maps have the same lines up to one, if not the same blanks around them. -/
def SameUpTo (number : Nat) (map other : String) : Prop :=
  ((Text.lines map.toList).take number).map Text.trim =
    ((Text.lines other.toList).take number).map Text.trim

/-- Where the markers lead to before a line, unless they stop the reading. -/
def positionBefore? (map : String) (number : Nat) : Option Position :=
  positionAfter? .start (recordsFrom 1 ((Text.lines map.toList).take (number - 1)))

/-- A line reads `EndCity` and stands between sections. -/
structure EndsCityAt (map : String) (number : Nat) : Prop where
  isOutside : positionBefore? map number = some .outside
  closes : ∃ line, lineAt? map number = some line ∧
    Text.isKeyword "EndCity" (Text.trim line) = true

variable {map other : String} {number : Nat}

/-- The records up to a line are the first ones of every map that is the same up to it. -/
theorem SameUpTo.exists_recordsFrom (same : SameUpTo number map other) : ∃ more,
    recordsFrom 1 (Text.lines other.toList) =
      recordsFrom 1 ((Text.lines map.toList).take number) ++ more := by
  have parts := recordsFrom_append 1 ((Text.lines other.toList).take number)
    ((Text.lines other.toList).drop number)
  rw [List.take_append_drop, ← recordsFrom_congr same] at parts
  exact ⟨_, parts⟩

/-- A map has ended where its markers have led, or is settled by a line and those before it. -/
theorem read_cases (map : String) :
    (∃ last, positionBefore? map (lineCount map + 1) = some last ∧
      read map = .error (endedAt (lineCount map) last)) ∨
    ∃ number line last, lineAt? map number = some line ∧ Text.trim line ≠ [] ∧
      positionBefore? map number = some last ∧
      Settles last ⟨number, Text.trim line⟩ (read map) ∧
      ∀ other, SameUpTo number map other → read other = read map := by
  rcases readFrom_cases (lineCount map) .start .empty (recordsFrom 1 (Text.lines map.toList)) with
    ⟨last, led, ended⟩ | ⟨before, record, after, last, parted, led, settles, decided⟩
  · refine Or.inl ⟨last, ?_, congrArg (Except.map Loaded.city) ended⟩
    rw [positionBefore?, Nat.add_sub_cancel, lineCount, List.take_length]
    exact led
  · rcases exists_line_of_recordsFrom parted with
      ⟨earlier, line, later, whole, some, rfl, rfl⟩
    refine Or.inr ⟨earlier.length + 1, line, last, ?_, some, ?_, settles.map _, ?_⟩
    · simp [lineAt?, whole]
    · rw [positionBefore?, Nat.add_sub_cancel, whole, List.take_left]
      exact led
    · intro other same
      rcases same.exists_recordsFrom with ⟨more, begun⟩
      have known : (Text.lines map.toList).take (earlier.length + 1) = earlier ++ [line] := by
        rw [whole, List.append_cons]
        exact List.take_left' List.length_append
      rw [known, recordsFrom_append, recordsFrom_cons_of_ne_nil some, List.append_assoc] at begun
      refine congrArg (Except.map Loaded.city) ?_
      rw [load, begun, Nat.add_comm 1]
      exact decided _ _

/-- The markers of a map lead no further than to the line that closes it. -/
theorem EndsCityAt.le_of_positionBefore? {closing : Nat} {last : Position}
    (ends : EndsCityAt map closing) (led : positionBefore? map number = some last) :
    number ≤ closing := by
  rcases ends with ⟨isOutside, line, found, closes⟩
  cases closing with
  | zero => cases found
  | succ index =>
      refine Nat.le_of_not_lt fun later => ?_
      have some : Text.trim line ≠ [] := by
        intro blank
        rw [blank] at closes
        cases closes
      -- The lines before `number` are those before the closing line, that line and others.
      have known : ((Text.lines map.toList).take (number - 1)).take index =
          (Text.lines map.toList).take index := by
        rw [List.take_take, Nat.min_eq_left (by omega)]
      have next : ((Text.lines map.toList).take (number - 1))[index]? = .some line := by
        rw [List.getElem?_take, if_pos (by omega)]
        exact found
      rw [positionBefore?, Nat.add_sub_cancel] at isOutside
      rw [positionBefore?, ← List.take_append_drop index (List.take _ _), known,
        List.drop_eq_getElem?_toList_append, next, recordsFrom_append, positionAfter?_append,
        isOutside] at led
      have stopped : Position.outside.after? (Text.trim line) = none := by
        rw [Position.after?, begunBy?_of_endCity closes, Option.map_none]
      simp [recordsFrom_cons_of_ne_nil some, positionAfter?, stopped] at led

/-- A line of a map has a number from 1 up to the count of lines. -/
theorem bounds_of_lineAt? {line : List Char} (found : lineAt? map number = some line) :
    1 ≤ number ∧ number ≤ lineCount map := by
  cases number with
  | zero => cases found
  | succ index =>
      rcases List.getElem?_eq_some_iff.mp found with ⟨inside, -⟩
      exact ⟨Nat.le_add_left 1 index, inside⟩

/-- The markers of a map that is not blank lead away from the start. -/
theorem ne_start_of_written (written : ∃ line ∈ Text.lines map.toList, Text.trim line ≠ [])
    {last : Position} (led : positionBefore? map (lineCount map + 1) = some last) :
    last ≠ .start := by
  rintro rfl
  rw [positionBefore?, Nat.add_sub_cancel, lineCount, List.take_length] at led
  rcases written with ⟨line, member, some⟩
  rcases List.append_of_mem member with ⟨before, after, whole⟩
  have blank := eq_nil_of_positionAfter?_start led
  rw [whole, recordsFrom_append, recordsFrom_cons_of_ne_nil some] at blank
  simp at blank

/-- An error is about a line of the map, and is the error of all maps that begin like this one. -/
theorem decided_by_line_of_error (written : ∃ line ∈ Text.lines map.toList, Text.trim line ≠ [])
    {error : MapError} (failed : read map = .error error) (isAt : error.IsAt number) :
    (∃ line, lineAt? map number = some line ∧ Text.trim line ≠ []) ∧
      ∀ other, SameUpTo number map other → read other = .error error := by
  rcases read_cases map with
    ⟨last, led, ended⟩ | ⟨settled, line, last, found, some, -, settles, decided⟩
  · exfalso
    cases failed.symm.trans ended
    cases last with
    | start => exact ne_start_of_written written led rfl
    | outside => exact isAt.isRead _ _ rfl
    | inside part => exact isAt.isRead _ _ rfl
  · rw [failed] at settles decided
    cases settles with
    | error settlesAt =>
        cases settlesAt.line?.symm.trans isAt.line?
        exact ⟨⟨line, found, some⟩, decided⟩
    | noPlaces => cases isAt.line?

/-- A map that is read to its end is closed by the first line that can close it. -/
theorem decided_by_endCity (finished : (∃ city, read map = .ok city) ∨ read map = .error .noPlaces) :
    ∃ number, EndsCityAt map number ∧
      (∀ closing, EndsCityAt map closing → number ≤ closing) ∧
      ∀ other, SameUpTo number map other → read other = read map := by
  rcases read_cases map with
    ⟨last, -, ended⟩ | ⟨number, line, last, found, -, led, settles, decided⟩
  · exfalso
    rw [ended] at finished
    rcases finished with ⟨city, ⟨⟩⟩ | same
    cases last <;> cases same
  · have closes : last = .outside ∧ Text.isKeyword "EndCity" (Text.trim line) = true := by
      rcases finished with ⟨city, done⟩ | none
      · rw [done] at settles
        cases settles with
        | closed closes => exact ⟨rfl, closes⟩
      · rw [none] at settles
        cases settles with
        | error isAt => cases isAt.line?
        | noPlaces closes => exact ⟨rfl, closes⟩
    rcases closes with ⟨rfl, closes⟩
    exact ⟨number, ⟨led, line, found, closes⟩, fun _ ends => ends.le_of_positionBefore? led,
      decided⟩

/-- A map that has ended too early is told to miss the marker that comes next. -/
theorem marker_of_unexpectedEnd {inside : Option Part}
    (failed : read map = .error (.unexpectedEnd number inside)) :
    number = lineCount map + 1 ∧
      ∃ position, positionBefore? map number = some position ∧ position ≠ .start ∧
        (MapError.unexpectedEnd number inside).message =
          MapError.atLine number ++ "map ended before " ++ position.marker := by
  rcases read_cases map with ⟨last, led, ended⟩ | ⟨_, _, _, -, -, -, settles, -⟩
  · cases last with
    | start => cases failed.symm.trans ended
    | outside =>
        cases failed.symm.trans ended
        refine ⟨rfl, .outside, led, nofun, ?_⟩
        show MapError.atLine _ ++ "map ended before EndCity" =
          MapError.atLine _ ++ "map ended before " ++ "EndCity"
        rw [String.append_assoc]
        rfl
    | inside part =>
        cases failed.symm.trans ended
        exact ⟨rfl, .inside part, led, nofun, rfl⟩
  · rw [failed] at settles
    cases settles with
    | error isAt => exact absurd rfl (isAt.isRead number inside)

/--
A map that is not blank is decided by its first lines.  An error is about a line
of the map that is not blank, and that line and those before it make every map
fail with it.  A map that is read to its end, if only to find no places, is
closed by the first `EndCity` between sections, whatever comes behind.  A map that
has ended too early is said to miss the marker that its last section, or the
city, needs, one line after its last.
-/
theorem maps_are_decided_by_their_first_lines (map : String)
    (written : ∃ line ∈ Text.lines map.toList, Text.trim line ≠ []) :
    (∀ error number, read map = .error error → error.IsAt number →
      1 ≤ number ∧ number ≤ lineCount map ∧
      (∃ line, lineAt? map number = some line ∧ Text.trim line ≠ []) ∧
      ∀ other, SameUpTo number map other → read other = .error error) ∧
    ((∃ city, read map = .ok city) ∨ read map = .error .noPlaces →
      ∃ number, EndsCityAt map number ∧
        (∀ closing, EndsCityAt map closing → number ≤ closing) ∧
        ∀ other, SameUpTo number map other → read other = read map) ∧
    (∀ number inside, read map = .error (.unexpectedEnd number inside) →
      number = lineCount map + 1 ∧
      ∃ position, positionBefore? map number = some position ∧ position ≠ .start ∧
        (MapError.unexpectedEnd number inside).message =
          MapError.atLine number ++ "map ended before " ++ position.marker) := by
  refine ⟨?_, decided_by_endCity, fun _ _ => marker_of_unexpectedEnd⟩
  intro error number failed isAt
  rcases decided_by_line_of_error written failed isAt with ⟨⟨line, found, some⟩, decided⟩
  have bounds := bounds_of_lineAt? found
  exact ⟨bounds.1, bounds.2, ⟨line, found, some⟩, decided⟩

/-- A map whose only place has the wrong number. -/
def misnumbered : String :=
  "BeginCity\nBeginPlaces\nplace 1 Sol sun spaceShip\n"

/-- A map without places, and a line behind it. -/
def deserted : String :=
  "BeginCity\n\nEndCity\nBeginPlaces\n"

/-- A map that has lost its end. -/
def torn : String :=
  "BeginCity\nBeginPlaces\n"

/-- The first map is decided by its third line, the second by its `EndCity`, the third by its end. -/
theorem misnumbered_deserted_and_torn :
    ((∃ line ∈ Text.lines misnumbered.toList, Text.trim line ≠ []) ∧
      ∀ other, SameUpTo 3 misnumbered other →
        read other = .error (.outOfSequence 3 .place 0 1)) ∧
    ((∃ line ∈ Text.lines deserted.toList, Text.trim line ≠ []) ∧
      ∃ number, EndsCityAt deserted number ∧
        ∀ other, SameUpTo number deserted other → read other = .error .noPlaces) ∧
    ((∃ line ∈ Text.lines torn.toList, Text.trim line ≠ []) ∧
      3 = lineCount torn + 1 ∧ ∃ position, positionBefore? torn 3 = some position) := by
  have writtenFirst : ∃ line ∈ Text.lines misnumbered.toList, Text.trim line ≠ [] := by decide
  have writtenSecond : ∃ line ∈ Text.lines deserted.toList, Text.trim line ≠ [] := by decide
  have writtenThird : ∃ line ∈ Text.lines torn.toList, Text.trim line ≠ [] := by decide
  have misread : read misnumbered = .error (.outOfSequence 3 .place 0 1) := by rfl
  have bare : read deserted = .error .noPlaces := by rfl
  have short : read torn = .error (.unexpectedEnd 3 (some .places)) := by rfl
  refine ⟨⟨writtenFirst, ?_⟩, ⟨writtenSecond, ?_⟩, ⟨writtenThird, ?_⟩⟩
  · have law := (maps_are_decided_by_their_first_lines misnumbered writtenFirst).1
    exact (law _ _ misread ⟨rfl, nofun⟩).2.2.2
  · have law := (maps_are_decided_by_their_first_lines deserted writtenSecond).2.1
    rcases law (Or.inr bare) with ⟨number, ends, -, decided⟩
    exact ⟨number, ends, fun other same => (decided other same).trans bare⟩
  · have law := (maps_are_decided_by_their_first_lines torn writtenThird).2.2
    rcases law 3 (some .places) short with ⟨last, position, led, -, -⟩
    exact ⟨last, position, led⟩

end Rover.Atlas
