import ClusterMember.Text.Hexadecimal
import ClusterMember.Text.Hidden

/-!
# Quoted debug text

A text between double quotes in which every character can be seen: the quote and the backslash are
escaped by a backslash, the common controls by a letter, and every other hidden character by its
code point in lower-case hexadecimal.
-/

namespace ClusterMember
namespace Text

/-- The form of one character inside a quoted text. -/
def escape (c : Char) : List Char :=
  match c with
  | '\x00' => ['\\', '0']
  | '\t' => ['\\', 't']
  | '\r' => ['\\', 'r']
  | '\n' => ['\\', 'n']
  | '"' => ['\\', '"']
  | '\\' => ['\\', '\\']
  | _ => if isHidden c then ['\\', 'u', '\x7b'] ++ hexDigits c.toNat ++ ['\x7d'] else [c]

/-- A text in double quotes, with everything escaped that would not show. -/
def quoted (s : String) : String :=
  String.ofList ('"' :: (s.toList.flatMap escape ++ ['"']))

end Text
end ClusterMember
