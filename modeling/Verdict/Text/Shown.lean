import Verdict.Unicode.Property

/-!
# Texts as a log shows them

A text is shown in quotes, with every character that would not be seen as itself escaped.
-/

namespace Verdict.Text

/-- The characters that show nothing of their own: controls, formats, blanks other than the plain
    one, and codes without a character. -/
def unseenSet : Unicode.Ranges :=
  Unicode.categoriesRanges ["cc", "cf", "cn", "co", "zl", "zp", "zs"]

/-- The characters that change the one before them. -/
def attachedSet : Unicode.CharSet :=
  (Unicode.property? "grext").getD default

/-- Whether a character is shown by its code. -/
def isUnseen (c : Char) : Bool :=
  if c.toNat < 0x7f then c.toNat < 0x20 else attachedSet.has c || unseenSet.has c

/-- A character as it is shown. -/
def shownChar (c : Char) : List Char :=
  match c with
  | '\x00' => ['\\', '0']
  | '\t' => ['\\', 't']
  | '\r' => ['\\', 'r']
  | '\n' => ['\\', 'n']
  | '\\' => ['\\', '\\']
  | '"' => ['\\', '"']
  | c =>
      if isUnseen c then ['\\', 'u', '\x7b'] ++ Nat.toDigits 16 c.toNat ++ ['\x7d'] else [c]

/-- A text as it is shown. -/
def shown (s : String) : String :=
  String.ofList ('"' :: s.toList.flatMap shownChar ++ ['"'])

/-- Several texts as they are shown. -/
def shownList (ss : List String) : String :=
  "[" ++ ", ".intercalate (ss.map shown) ++ "]"

end Verdict.Text
