import OutlineMarkup.Text.Basic

/-! Texts as JSON string literals. -/
namespace OutlineMarkup.Text

def hexDigit (n : Nat) : Char := Nat.digitChar (n % 16)

/-- How a character is written in a JSON string: the quote, the backslash and the controls are
escaped, all else stands for itself. -/
def jsonChar (c : Char) : Text :=
  if c = '"' then ['\\', '"']
  else if c = '\\' then ['\\', '\\']
  else if c = '\n' then ['\\', 'n']
  else if c = '\r' then ['\\', 'r']
  else if c = '\t' then ['\\', 't']
  else if c.toNat = 0x08 then ['\\', 'b']
  else if c.toNat = 0x0c then ['\\', 'f']
  else if c.toNat < 0x20 then ['\\', 'u', '0', '0', hexDigit (c.toNat / 16), hexDigit c.toNat]
  else [c]

def json (t : Text) : Text := '"' :: t.flatMap jsonChar ++ ['"']

example : json ['a', '"', '\x1f'] = "\"a\\\"\\u001f\"".toList := by decide

end OutlineMarkup.Text
