import Rover.Json.Token

/-!
# Reading JSON

Puts the tokens of a JSON text together.  The arrays and objects that have not
ended yet wait on a stack, innermost first.
-/

namespace Rover.Json

/-- An array or object that has not ended, with its entries so far, last one first. -/
inductive Frame where
  | array (reversed : List Json)
  | object (reversed : List (Option String × Json)) (name : Option String)

/-- What may come next. -/
inductive Expected where
  | value
  /-- The first value of an array, or the end of it. -/
  | itemOrEnd
  | name
  /-- The first name of an object, or the end of it. -/
  | nameOrEnd
  | colon
  /-- A comma, or the end of the innermost array or object. -/
  | commaOrEnd

/-- The value that a token is by itself. -/
def ofToken? : Token → Option Json
  | .null => some .null
  | .boolean value => some (.boolean value)
  | .integer value => some (.integer value)
  | .real written => some (.real written)
  | .text value => some (.text value)
  | _ => none

/-- The frame that a token opens, and what may come first in it. -/
def opening? : Token → Option (Frame × Expected)
  | .openArray => some (.array [], .itemOrEnd)
  | .openObject => some (.object [] none, .nameOrEnd)
  | _ => none

/-- The innermost frame with a value put into it. -/
def Frame.put (value : Json) : Frame → Frame
  | .array reversed => .array (value :: reversed)
  | .object reversed name => .object ((name, value) :: reversed) none

/-- The value of a frame that a token ends. -/
def Frame.end? : Frame → Token → Option Json
  | .array reversed, .closeArray => some (.array reversed.reverse)
  | .object reversed _, .closeObject => some (.object reversed.reverse)
  | _, _ => none

/-- What may come after a comma in a frame. -/
def Frame.afterComma : Frame → Expected
  | .array _ => .value
  | .object _ _ => .name

/-- The value that the rest of the tokens makes, from what may come next and the open frames on. -/
def build? : Expected → List Frame → List Token → Option Json
  | _, _, [] => none
  | expected, [], token :: rest =>
      match expected, opening? token, ofToken? token with
      | .value, some (frame, first), _ => build? first [frame] rest
      | .value, none, some value => if rest.isEmpty then some value else none
      | _, _, _ => none
  | expected, frame :: outer, token :: rest =>
      let ended (value : Json) : Option Json :=
        match outer with
        | [] => if rest.isEmpty then some value else none
        | next :: others => build? .commaOrEnd (next.put value :: others) rest
      let started : Option Json :=
        match opening? token, ofToken? token with
        | some (inner, first), _ => build? first (inner :: frame :: outer) rest
        | none, some value => build? .commaOrEnd (frame.put value :: outer) rest
        | none, none => none
      match expected with
      | .value => started
      | .itemOrEnd =>
          match frame.end? token with
          | some value => ended value
          | none => started
      | .name | .nameOrEnd =>
          match frame, token, expected with
          | .object reversed _, .text name, _ =>
              build? .colon (.object reversed name :: outer) rest
          | .object _ _, .closeObject, .nameOrEnd =>
              match frame.end? token with
              | some value => ended value
              | none => none
          | _, _, _ => none
      | .colon =>
          match token with
          | .colon => build? .value (frame :: outer) rest
          | _ => none
      | .commaOrEnd =>
          match token with
          | .comma => build? frame.afterComma (frame :: outer) rest
          | _ =>
              match frame.end? token with
              | some value => ended value
              | none => none

/-- The value that a text writes. -/
def parse? (text : String) : Option Json :=
  (Token.all? text).bind (build? .value [])

end Rover.Json
