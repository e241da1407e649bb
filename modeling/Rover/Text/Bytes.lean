/-!
# Texts as bytes

Files and input are rows of bytes.  A row of bytes is a text if it is valid
UTF-8.  Input is cut into lines before it is decoded, so that a line which is
no text leaves the lines before it alone.
-/

namespace Rover.Text

/-- The text that some bytes encode. -/
def decode? (bytes : List UInt8) : Option String :=
  String.fromUTF8? bytes.toByteArray

/-- The rows of bytes that end with a line feed, and the row after the last of them. -/
def byteLines : List UInt8 → List (List UInt8)
  | [] => []
  | byte :: rest =>
      if byte = 10 then
        [] :: byteLines rest
      else
        match byteLines rest with
        | [] => [[byte]]
        | first :: others => (byte :: first) :: others

/-- The lines of some input, each a text or not. -/
def inputLines (bytes : List UInt8) : List (Option String) :=
  (byteLines bytes).map decode?

end Rover.Text
