/-! # Blank characters

Two classes of blanks meet here. `isBlank` is the wide class by which sources, tokens and commands
of pasted bots are split; `isScriptBlank` is the class by which the script language splits. They
differ on the information separators, on the next-line control and on the byte-order mark. -/

namespace BotBench.Text

/-- Blanks common to both classes: tab to carriage return, the space and the spaces of other
scripts. -/
def isSharedBlank (c : Char) : Bool :=
  let code := c.toNat
  (9 ≤ code && code ≤ 13) || code == 32 || code == 0xA0 || code == 0x1680 ||
    (0x2000 ≤ code && code ≤ 0x200A) || code == 0x2028 || code == 0x2029 || code == 0x202F ||
    code == 0x205F || code == 0x3000

/-- A blank character: a shared blank, an information separator or the next-line control. -/
def isBlank (c : Char) : Bool :=
  let code := c.toNat
  isSharedBlank c || (0x1C ≤ code && code ≤ 0x1F) || code == 0x85

/-- A blank of the script language: a shared blank or the byte-order mark. -/
def isScriptBlank (c : Char) : Bool :=
  isSharedBlank c || c.toNat == 0xFEFF

/-- Text without the blanks at its two ends. -/
def trimBlanks (cs : List Char) : List Char :=
  ((cs.dropWhile isBlank).reverse.dropWhile isBlank).reverse

/-- Whether text is empty or blank throughout. -/
def isAllBlank (s : String) : Bool :=
  s.toList.all isBlank

end BotBench.Text
