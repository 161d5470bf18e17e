/-
  This file defines white space of all scripts, and how it is
  cut from the ends of a text.

  Key definitions include:
    * `isSpace`
    * `trimSpace`
-/

namespace TracePlayer

/- Whether a character has the property White_Space. -/
def isSpace (c : Char) : Bool :=
  let n := c.toNat
  (0x09 ≤ n && n ≤ 0x0D) || n = 0x20 || n = 0x85 ||
    n = 0xA0 || n = 0x1680 || (0x2000 ≤ n && n ≤ 0x200A) ||
    n = 0x2028 || n = 0x2029 || n = 0x202F || n = 0x205F ||
    n = 0x3000

/- A text without the white space at its ends. -/
def trimSpace (text : String) : String :=
  String.ofList
    ((text.toList.dropWhile isSpace).reverse.dropWhile
      isSpace).reverse

end TracePlayer
