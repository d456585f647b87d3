import LineFill.Filler.Basic

/-!
Elements in a stream of bytes: one on each line. A line ends with a line feed, or with a carriage
return and a line feed; the last one may end with the stream.
-/
namespace LineFill.Stream

def lineFeed : UInt8 := 10

def carriageReturn : UInt8 := 13

/-- The lines of a stream, of which the first has begun with the given bytes, the latest first. -/
def linesFrom (begun : List UInt8) : List UInt8 → List (List UInt8)
  | [] => if begun.isEmpty then [] else [begun.reverse]
  | b :: bytes =>
    if b = lineFeed then begun.reverse :: linesFrom [] bytes else linesFrom (b :: begun) bytes

def dropReturn (line : List UInt8) : List UInt8 :=
  if line.getLast? = some carriageReturn then line.dropLast else line

def elements (bytes : List UInt8) : List (List UInt8) := (linesFrom [] bytes).map dropReturn

def terminated (line : List UInt8) : List UInt8 := line ++ [lineFeed]

/-- The lines that a filled element takes in the output; an absent one takes none. -/
def outputLines : Filled → List (List UInt8)
  | .lines lines => lines.map Text.encode
  | .verbatim bytes => [bytes]
  | .absent => []

def write (items : List Filled) : List UInt8 := (items.flatMap outputLines).flatMap terminated

end LineFill.Stream
