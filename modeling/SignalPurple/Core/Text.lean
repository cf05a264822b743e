import Mathlib.Data.List.Infix

/-! # Text

The string functions of the standard library that the core uses, on the characters of a
string.
-/

namespace SignalPurple

def containsText (text pattern : String) : Bool :=
  decide (pattern.toList <:+: text.toList)

def toAsciiLowercase (text : String) : String :=
  String.ofList (text.toList.map Char.toLower)

def eqIgnoreAsciiCase (left right : String) : Bool :=
  toAsciiLowercase left == toAsciiLowercase right

/-- An optional text, unless it is empty. -/
def nonempty (text : Option String) : Option String := text.filter (· ≠ "")

/-- What follows the last separator; the whole text if there is none. -/
def lastComponent (isSeparator : Char → Bool) (text : List Char) : List Char :=
  (text.reverse.takeWhile (!isSeparator ·)).reverse

/-- What precedes the last separator, if there is one. -/
def beforeLast (isSeparator : Char → Bool) (text : List Char) : Option (List Char) :=
  match text.reverse.dropWhile (!isSeparator ·) with
  | [] => none
  | _ :: stem => some stem.reverse

/-- A line without the carriage return that may end it. -/
def withoutReturn (line : List Char) : List Char :=
  if line.getLast? = some '\r' then line.dropLast else line

/-- `str::lines`: a line feed ends a line, and the text after the last one is a line only
if it is not empty. `current` holds the characters of the line that is being read. -/
def linesFrom (current : List Char) : List Char → List (List Char)
  | [] => if current = [] then [] else [current]
  | '\n' :: rest => withoutReturn current :: linesFrom [] rest
  | character :: rest => linesFrom (current ++ [character]) rest

def lines (text : String) : List String := (linesFrom [] text.toList).map String.ofList

end SignalPurple
