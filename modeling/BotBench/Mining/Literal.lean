import BotBench.Text.Blank

/-! # String literals of pasted sources

A literal stands between two equal quotes on one line. A backslash takes the next character with it:
the letters `n`, `t` and `r` stand for control characters, every other character for itself. -/

namespace BotBench.Mining

/-- The raw characters of a literal behind its opening quote, up to the first closing quote that no
backslash takes, and the text behind it. A newline ends the line before the literal is closed. -/
def rawLiteral (quote : Char) : List Char → Option (List Char × List Char)
  | [] => none
  | '\\' :: c :: rest =>
      if c == '\n' then none
      else (rawLiteral quote rest).map fun (raw, after) => ('\\' :: c :: raw, after)
  | c :: rest =>
      if c == quote then some ([], rest)
      else if c == '\n' || c == '\\' then none
      else (rawLiteral quote rest).map fun (raw, after) => (c :: raw, after)

/-- What a character stands for behind a backslash. -/
def unescape (c : Char) : Char :=
  if c == 'n' then '\n' else if c == 't' then '\t' else if c == 'r' then '\r' else c

/-- The text of a literal from its raw characters. -/
def decodeLiteral : List Char → List Char
  | '\\' :: c :: rest => unescape c :: decodeLiteral rest
  | c :: rest => c :: decodeLiteral rest
  | [] => []

/-- Read a literal in either kind of quotes: its text, and what stands behind it. -/
def readLiteral : List Char → Option (List Char × List Char)
  | [] => none
  | c :: rest =>
      if c == '"' || c == '\'' then
        (rawLiteral c rest).map fun (raw, after) => (decodeLiteral raw, after)
      else none

/-- One character as it is written in a literal: the backslash, the quote and the three controls are
escaped. -/
def escapeChar (quote c : Char) : List Char :=
  if c == '\\' || c == quote then ['\\', c]
  else if c == '\n' then ['\\', 'n']
  else if c == '\t' then ['\\', 't']
  else if c == '\r' then ['\\', 'r']
  else [c]

/-- A text written as a literal. -/
def quoteLiteral (quote : Char) (text : List Char) : List Char :=
  quote :: (text.flatMap (escapeChar quote) ++ [quote])

/-- A character that is no backslash closes the literal, ends the line or is kept. -/
theorem rawLiteral_cons {quote c : Char} (hc : c ≠ '\\') (rest : List Char) :
    rawLiteral quote (c :: rest) =
      if c = quote then some ([], rest)
      else if c = '\n' then none
      else (rawLiteral quote rest).map fun (raw, after) => (c :: raw, after) := by
  cases rest <;> simp [rawLiteral, hc]

end BotBench.Mining
