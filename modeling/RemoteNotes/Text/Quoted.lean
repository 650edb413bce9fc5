import RemoteNotes.Text.Unprintable
import RemoteNotes.Text.Extending

/-!
# Quoted text

The diagnostic form of a text: in double quotes, with every character that could be
misread written as an escape.
-/

namespace RemoteNotes.Text

def hexDigit (n : Nat) : Char :=
  Char.ofNat (if n < 10 then 0x30 + n else 0x57 + n)

/-- The digits of a number in base sixteen, without leading zeros. -/
def hexDigits (n : Nat) : List Char :=
  if n < 16 then [hexDigit n] else hexDigits (n / 16) ++ [hexDigit (n % 16)]

/-- Whether an apostrophe is escaped too. -/
inductive QuoteStyle
  | text
  | path
  deriving DecidableEq

def apostrophe : Char := Char.ofNat 0x27

def escapeByNumber (c : Char) : List Char :=
  ['\\', 'u', '\x7b'] ++ hexDigits c.toNat ++ ['\x7d']

def escapeChar (style : QuoteStyle) (c : Char) : List Char :=
  if c = '\x00' then ['\\', '0']
  else if c = '\t' then ['\\', 't']
  else if c = '\r' then ['\\', 'r']
  else if c = '\n' then ['\\', 'n']
  else if c = '\\' then ['\\', '\\']
  else if c = '"' then ['\\', '"']
  else if c = apostrophe ∧ style = .path then ['\\', apostrophe]
  else if extendsPrevious c || !isPrintable c then escapeByNumber c
  else [c]

def quoteWith (style : QuoteStyle) (s : String) : String :=
  String.ofList ('"' :: s.toList.flatMap (escapeChar style) ++ ['"'])

/-- The diagnostic form of a text. -/
def quote (s : String) : String := quoteWith .text s

end RemoteNotes.Text
