import Rover.Atlas.Error
import Rover.Atlas.Field
import Rover.City
import Rover.Text.Bytes
import Rover.Text.Numeral

/-!
# Maps

Reads a city from a map, a text of records in sections:

    BeginCity
    BeginPlaces
    place 0 Sol Puerta_del_Sol noSpaceShip
    place 1 Callao "Cinemas and shops" spaceShip
    EndPlaces
    BeginStreets
    street 0 place 0 west place 1 closed opensesame
    EndStreets
    BeginItems
    fuel 0 Battery to_get_cracking 10 1 place 0
    codecard 1 Card The_key_is_too_easy opensesame place 0
    EndItems
    EndCity

Sections come in any order and as often as they like.  Places, streets and
items are each numbered from 0 without gaps, and the first place is where a
robot starts.  Blank lines and the blanks around a line do not matter, and
neither does anything after `EndCity`.

A map is read line by line, and the first line with an error decides.
-/

namespace Rover.Atlas

/--
What has been read of a city: its places and streets so far, the numbers that the
places have in the order of their records, and how many items lie there.
-/
structure Draft where
  city : City
  numbers : List PlaceId
  itemCount : Nat
  numbered : numbers = List.range city.places.length

namespace Draft

/-- Nothing read yet. -/
def empty : Draft := ⟨.empty, [], 0, rfl⟩

/-- The draft with a place more, which has the number of places before it. -/
def addPlace (draft : Draft) (place : Place) : Draft where
  city := draft.city.addPlace place
  numbers := draft.numbers ++ [draft.city.places.length]
  itemCount := draft.itemCount
  numbered := by
    rw [draft.numbered, City.addPlace, List.length_append, List.length_singleton,
      List.range_succ]

/-- The draft with a street more. -/
def addStreet (draft : Draft) (street : Street) : Draft where
  city := draft.city.addStreet street
  numbers := draft.numbers
  itemCount := draft.itemCount
  numbered := draft.numbered

/-- The draft with an item more at a place. -/
def addItem (draft : Draft) (place : PlaceId) (item : Item) : Draft where
  city := draft.city.changeItems place fun items => items.add item
  numbers := draft.numbers
  itemCount := draft.itemCount + 1
  numbered := by
    rw [City.length_places_changeItems]
    exact draft.numbered

@[ext]
theorem ext {draft other : Draft} (city : draft.city = other.city)
    (itemCount : draft.itemCount = other.itemCount) : draft = other := by
  rcases draft with ⟨_, _, _, rfl⟩
  rcases other with ⟨_, _, _, rfl⟩
  cases city
  cases itemCount
  rfl

@[simp]
theorem length_numbers (draft : Draft) : draft.numbers.length = draft.city.places.length := by
  rw [draft.numbered, List.length_range]

theorem numbers_getElem? (draft : Draft) (place : PlaceId) :
    draft.numbers[place]? = if place < draft.city.places.length then some place else none := by
  rw [draft.numbered]
  split
  · exact List.getElem?_range ‹_›
  · rename_i outside
    exact List.getElem?_eq_none (by simpa using outside)

/-- The place that comes first has the number 0. -/
theorem head?_numbers (draft : Draft) :
    draft.numbers.head? = if draft.city.places.isEmpty then none else some 0 := by
  rw [draft.numbered]
  cases draft.city.places with
  | nil => rfl
  | cons first rest =>
      rw [List.length_cons, List.range_succ_eq_map]
      rfl

/-- The number in a field. -/
def index (line : Nat) (subject : Subject) (field : Field) : Except MapError Nat :=
  match Text.index? field.text with
  | some number => .ok number
  | none => .error (.malformed line subject (.notNumber field.text))

/-- The quantity in a field. -/
def quantity (line : Nat) (subject : Subject) (field : Field) : Except MapError Quantity :=
  match (Text.whole? field.text).bind Quantity.ofInt? with
  | some quantity => .ok quantity
  | none => .error (.malformed line subject (.notNumber field.text))

/-- The check that a record has the number that is next. -/
def inSequence (line : Nat) (subject : Subject) (field : Field) (expected : Nat) :
    Except MapError Unit := do
  let found ← index line subject field
  if found = expected then
    return ()
  else
    throw (.outOfSequence line subject expected found)

/-- The place that a field refers to. -/
def placeNumber (draft : Draft) (line : Nat) (field : Field) : Except MapError PlaceId := do
  let place ← index line .placeReference field
  match draft.numbers[place]? with
  | some number => return number
  | none => throw (.unknownPlace line place)

/-- The draft after the record of a place. -/
def place (draft : Draft) (line : Nat) (fields : List Field) : Except MapError Draft :=
  match fields with
  | [word, number, name, description, ship] => do
      if !word.is "place" then
        throw (.malformed line .place .placeWord)
      inSequence line .place number draft.numbers.length
      let isSpaceship ←
        if ship.is "spaceShip" then
          pure true
        else if ship.is "noSpaceShip" then
          pure false
        else
          throw (.malformed line .place .shipWord)
      let place : Place :=
        { name := name.content
          description := description.description
          isSpaceship
          items := .empty }
      return draft.addPlace place
  | _ => throw (.malformed line .place .placeFields)

/-- The fields of the record of a street, by their role. -/
structure StreetRecord where
  word : Field
  number : Field
  fromWord : Field
  source : Field
  direction : Field
  toWord : Field
  target : Field
  door : Field
  code? : Option Field

/-- The fields of the record of a street; the code of the door may be left out. -/
def StreetRecord.ofFields? : List Field → Option StreetRecord
  | [word, number, fromWord, source, direction, toWord, target, door] =>
      some ⟨word, number, fromWord, source, direction, toWord, target, door, none⟩
  | [word, number, fromWord, source, direction, toWord, target, door, code] =>
      some ⟨word, number, fromWord, source, direction, toWord, target, door, some code⟩
  | _ => none

/-- Whether the door of a street is open, and its code: an open door has none. -/
def StreetRecord.doorAndCode? (record : StreetRecord) : Option (Bool × String) :=
  match record.code? with
  | none => if record.door.is "open" then some (true, "") else none
  | some code => if record.door.is "closed" then some (false, code.content) else none

/-- The draft after the record of a street. -/
def street (draft : Draft) (line : Nat) (fields : List Field) : Except MapError Draft :=
  match StreetRecord.ofFields? fields with
  | none => throw (.malformed line .street .streetFields)
  | some record => do
      if !(record.word.is "street" && record.fromWord.is "place" && record.toWord.is "place") then
        throw (.malformed line .street .streetWords)
      match record.doorAndCode? with
      | none => throw (.malformed line .street .doorWords)
      | some (isOpen, code) => do
          inSequence line .street record.number draft.city.streets.length
          let source ← draft.placeNumber line record.source
          let target ← draft.placeNumber line record.target
          match Direction.parse record.direction.text with
          | .unknown => throw (.unknownDirection line record.direction.text)
          | direction =>
              return draft.addStreet { source, direction, target, isOpen, code }

/-- The draft after an item is laid down where two fields say. -/
def layItem (draft : Draft) (line : Nat) (item : Item) (word number : Field) :
    Except MapError Draft := do
  if !word.is "place" then
    throw (.malformed line .item .itemPlace)
  let place ← draft.placeNumber line number
  if (draft.city.place? place).any fun found => found.items.contains item.id then
    throw (.duplicateItem line place item.id)
  return draft.addItem place item

/-- The draft after the record of an item. -/
def item (draft : Draft) (line : Nat) (fields : List Field) : Except MapError Draft :=
  match fields with
  | [kind, number, id, description, power, times, word, place] => do
      if !kind.is "fuel" then
        throw (.malformed line .item .itemFields)
      inSequence line .item number draft.itemCount
      let power ← quantity line .fuel power
      let times ← quantity line .fuel times
      draft.layItem line ⟨id.content, description.description, .fuel power times⟩ word place
  | [kind, number, id, description, detail, word, place] => do
      if kind.is "garbage" then
        inSequence line .item number draft.itemCount
        let material ← quantity line .garbage detail
        draft.layItem line ⟨id.content, description.description, .garbage material .one⟩
          word place
      else if kind.is "codecard" then
        inSequence line .item number draft.itemCount
        draft.layItem line ⟨id.content, description.description, .codeCard detail.content⟩
          word place
      else
        throw (.malformed line .item .itemFields)
  | _ => throw (.malformed line .item .itemFields)

/-- The draft after a record of a section. -/
def add (draft : Draft) (part : Part) (line : Nat) (record : List Char) :
    Except MapError Draft :=
  match Field.split record with
  | none => throw (.malformed line .map .openQuote)
  | some fields =>
      match part with
      | .places => draft.place line fields
      | .streets => draft.street line fields
      | .items => draft.item line fields

end Draft

/-- Where in a map the next line stands. -/
inductive Position where
  | start
  /-- Between the sections. -/
  | outside
  | inside (part : Part)
  deriving DecidableEq, Repr

/-- The section that a line begins. -/
def Part.begunBy? (line : List Char) : Option Part :=
  [Part.places, .streets, .items].find? fun part => Text.isKeyword part.opener line

/-- A line of a map, with its number and without the blanks around it. -/
structure Record where
  line : Nat
  text : List Char
  deriving DecidableEq, Repr

/-- The lines that are not blank, the first of all having a given number. -/
def recordsFrom (first : Nat) : List (List Char) → List Record
  | [] => []
  | line :: rest =>
      let text := Text.trim line
      if text.isEmpty then
        recordsFrom (first + 1) rest
      else
        ⟨first, text⟩ :: recordsFrom (first + 1) rest

theorem recordsFrom_cons_of_ne_nil {line : List Char} (some : Text.trim line ≠ []) (first : Nat)
    (rest : List (List Char)) :
    recordsFrom first (line :: rest) = ⟨first, Text.trim line⟩ :: recordsFrom (first + 1) rest := by
  rw [recordsFrom, if_neg (by simpa using some)]

theorem recordsFrom_append (first : Nat) (before after : List (List Char)) :
    recordsFrom first (before ++ after) =
      recordsFrom first before ++ recordsFrom (first + before.length) after := by
  induction before generalizing first with
  | nil => rfl
  | cons line rest ih =>
      have moved : first + 1 + rest.length = first + (rest.length + 1) := by omega
      simp only [List.cons_append, recordsFrom, ih, List.length_cons, moved]
      split <;> rfl

/-- The error of a map of `count` lines that ends at a position. -/
def endedAt (count : Nat) : Position → MapError
  | .start => .missingHeader 1
  | .outside => .unexpectedEnd (count + 1) none
  | .inside part => .unexpectedEnd (count + 1) (some part)

/-- A city from a map, and the place in it where a robot starts. -/
structure Loaded where
  city : City
  start : PlaceId
  deriving DecidableEq

/-- What a map of `count` lines makes, from a position and a draft on. -/
def readFrom (count : Nat) : Position → Draft → List Record → Except MapError Loaded
  | position, _, [] => .error (endedAt count position)
  | .start, draft, record :: rest =>
      if Text.isKeyword "BeginCity" record.text then
        readFrom count .outside draft rest
      else
        .error (.missingHeader record.line)
  | .outside, draft, record :: rest =>
      match Part.begunBy? record.text with
      | some part => readFrom count (.inside part) draft rest
      | none =>
          if Text.isKeyword "EndCity" record.text then
            match draft.numbers.head? with
            | none => .error .noPlaces
            | some start => .ok { city := draft.city, start }
          else
            .error (.unknownSection record.line record.text)
  | .inside part, draft, record :: rest =>
      if Text.isKeyword part.closer record.text then
        readFrom count .outside draft rest
      else
        match draft.add part record.line record.text with
        | .error error => .error error
        | .ok draft => readFrom count (.inside part) draft rest

/-- The city that a map makes, and where a robot starts in it. -/
def load (map : String) : Except MapError Loaded :=
  let lines := Text.lines map.toList
  readFrom lines.length .start .empty (recordsFrom 1 lines)

/-- The city that a map makes. -/
def read (map : String) : Except MapError City :=
  (load map).map Loaded.city

/-- What a map makes, given the bytes of its file or why they cannot be had. -/
def loadFile (file : Except ReadFailure (List UInt8)) : Except MapError Loaded :=
  match file with
  | .error failure => .error (.unreadable failure)
  | .ok bytes =>
      match Text.decode? bytes with
      | some map => load map
      | none => .error (.unreadable .notText)

/-- The city that a file makes. -/
def ofFile (file : Except ReadFailure (List UInt8)) : Except MapError City :=
  (loadFile file).map Loaded.city

/-- The number of the place where a robot starts in a city from a map. -/
def firstPlace : PlaceId := 0

end Rover.Atlas
