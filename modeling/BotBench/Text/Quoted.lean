import BotBench.Text.Printable

/-! # Quoted text

How a message shows a piece of text in quotes. Single quotes are used unless the text holds a single
quote and no double quote; backslashes and the chosen quote are escaped, the common controls get
their letter, and characters that do not show are written by their code in two, four or eight
hexadecimal digits. -/

namespace BotBench.Text

/-- A number in lower-case hexadecimal, padded with zeros to `width` digits. -/
def hexadecimal (width : Nat) (n : Nat) : List Char :=
  let digits := Nat.toDigits 16 n
  List.replicate (width - digits.length) '0' ++ digits

/-- One character as it is written between `quote`s. -/
def escapeQuoted (quote : Char) (c : Char) : List Char :=
  if c == quote || c == '\\' then ['\\', c]
  else if c == '\n' then ['\\', 'n']
  else if c == '\r' then ['\\', 'r']
  else if c == '\t' then ['\\', 't']
  else if isPrintable c then [c]
  else if c.toNat < 0x100 then '\\' :: 'x' :: hexadecimal 2 c.toNat
  else if c.toNat < 0x10000 then '\\' :: 'u' :: hexadecimal 4 c.toNat
  else '\\' :: 'U' :: hexadecimal 8 c.toNat

/-- The quote that a text is shown in. -/
def quoteFor (cs : List Char) : Char :=
  if cs.contains '\'' && !cs.contains '"' then '"' else '\''

/-- A text in quotes. -/
def quoted (s : String) : String :=
  let cs := s.toList
  let quote := quoteFor cs
  String.ofList (quote :: cs.flatMap (escapeQuoted quote) ++ [quote])

/-- The first two hundred characters of a text in quotes. -/
def shortQuoted (s : String) : String := String.ofList ((quoted s).toList.take 200)

/-- Bytes in quotes: what is no ASCII is written by its code. -/
def quotedBytes (bytes : List UInt8) : String :=
  let cs := bytes.map fun byte => Char.ofNat byte.toNat
  let quote := quoteFor cs
  let escape (c : Char) : List Char :=
    if c.toNat < 0x80 then escapeQuoted quote c else '\\' :: 'x' :: hexadecimal 2 c.toNat
  String.ofList ('b' :: quote :: cs.flatMap escape ++ [quote])

end BotBench.Text
