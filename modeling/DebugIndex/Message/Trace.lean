import DebugIndex.Message.Basic

/-!
# Trace texts

A trace is put together from values.  Four byte strings are marks: they are not
shown, but say how the number that follows is written.
-/

namespace DebugIndex

/-- How a number in a trace is written. -/
inductive NumberStyle
  | decimal
  | hex
  | hexOfFour
  | hexOfEight
  deriving DecidableEq

namespace NumberStyle

def mark : NumberStyle → List UInt8
  | .decimal => [0x00, 0xff, 0x0a]
  | .hex => [0x00, 0xff, 0x10]
  | .hexOfFour => [0x00, 0xff, 0x10, 0x04]
  | .hexOfEight => [0x00, 0xff, 0x10, 0x08]

def ofMark? (bytes : List UInt8) : Option NumberStyle :=
  [decimal, hex, hexOfFour, hexOfEight].find? fun style => style.mark = bytes

def text : NumberStyle → Int → String
  | .decimal, number => Numeral.decimal number
  | .hex, number => Numeral.hex number
  | .hexOfFour, number => Numeral.hexPadded 4 number
  | .hexOfEight, number => Numeral.hexPadded 8 number

end NumberStyle

namespace Trace

/-- The text of one value that is no mark, after the style asked for, if any. -/
def part (style : Option NumberStyle) (value : Value) : String :=
  match style, value.whole? with
  | some asked, some number => asked.text number
  | _, _ => value.plain

/-- The text of values, the first of which comes after a style asked for, if any. -/
def textFrom : Option NumberStyle → List Value → String
  | _, [] => ""
  | style, value :: rest =>
      match value with
      | .bytes content =>
          match NumberStyle.ofMark? content with
          | some asked => textFrom (some asked) rest
          | none => part style value ++ textFrom none rest
      | _ => part style value ++ textFrom none rest

def text (values : List Value) : String :=
  textFrom none values

end Trace
end DebugIndex
