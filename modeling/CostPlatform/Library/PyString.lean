import Mathlib.Data.List.Infix
import Mathlib.Tactic.Common
import Mathlib.Tactic.Lemma

/-!
# Python strings

The string operations the services rely on: `str.strip`, `str.upper`, `str.lower`, `str.replace`
on characters, substring search, and the truth value of an optional string, under which both `None`
and `""` count as absent.

`upper` and `lower` map the letters of ASCII, Latin-1, Greek and Cyrillic, and every letter whose
image has a character in ASCII (the dotless i, the long s, the sharp s and the Latin ligatures;
the dotted I and the Kelvin sign).  Letters of other alphabets are left as they are, and the final
sigma is not told apart.
-/

namespace PyString

/-- `str.isspace` on one character. -/
def isSpace (c : Char) : Bool :=
  let n := c.toNat
  (9 ≤ n && n ≤ 13) || (28 ≤ n && n ≤ 32) || n == 0x85 || n == 0xA0 || n == 0x1680
    || (0x2000 ≤ n && n ≤ 0x200A) || n == 0x2028 || n == 0x2029 || n == 0x202F || n == 0x205F
    || n == 0x3000

def strip (s : String) : String :=
  String.ofList ((s.toList.dropWhile isSpace).reverse.dropWhile isSpace).reverse

/-- Upper case of one character, which may be several. -/
def upperChar (c : Char) : List Char :=
  let n := c.toNat
  if 0x61 ≤ n && n ≤ 0x7A then [Char.ofNat (n - 32)]
  else if n == 0xDF then ['S', 'S']
  else if n == 0xB5 then [Char.ofNat 0x39C]
  else if 0xE0 ≤ n && n ≤ 0xFE && n != 0xF7 then [Char.ofNat (n - 32)]
  else if n == 0xFF then [Char.ofNat 0x178]
  else if n == 0x131 then ['I']
  else if n == 0x17F then ['S']
  else if n == 0x3C2 then [Char.ofNat 0x3A3]
  else if 0x3B1 ≤ n && n ≤ 0x3C9 then [Char.ofNat (n - 32)]
  else if 0x430 ≤ n && n ≤ 0x44F then [Char.ofNat (n - 32)]
  else if 0x450 ≤ n && n ≤ 0x45F then [Char.ofNat (n - 80)]
  else if n == 0xFB00 then ['F', 'F']
  else if n == 0xFB01 then ['F', 'I']
  else if n == 0xFB02 then ['F', 'L']
  else if n == 0xFB03 then ['F', 'F', 'I']
  else if n == 0xFB04 then ['F', 'F', 'L']
  else if n == 0xFB05 || n == 0xFB06 then ['S', 'T']
  else [c]

def upper (s : String) : String := String.ofList (s.toList.flatMap upperChar)

/-- Lower case of one character, which may be several. -/
def lowerChar (c : Char) : List Char :=
  let n := c.toNat
  if 0x41 ≤ n && n ≤ 0x5A then [Char.ofNat (n + 32)]
  else if 0xC0 ≤ n && n ≤ 0xDE && n != 0xD7 then [Char.ofNat (n + 32)]
  else if n == 0x130 then ['i', Char.ofNat 0x307]
  else if n == 0x178 then [Char.ofNat 0xFF]
  else if 0x391 ≤ n && n ≤ 0x3A9 && n != 0x3A2 then [Char.ofNat (n + 32)]
  else if 0x410 ≤ n && n ≤ 0x42F then [Char.ofNat (n + 32)]
  else if 0x400 ≤ n && n ≤ 0x40F then [Char.ofNat (n + 80)]
  else if n == 0x212A then ['k']
  else if n == 0x212B then [Char.ofNat 0xE5]
  else [c]

def lower (s : String) : String := String.ofList (s.toList.flatMap lowerChar)

/-- `str.replace` of one character by another. -/
def replace (s : String) (old new : Char) : String :=
  String.ofList (s.toList.map fun c => if c = old then new else c)

/-- `needle in haystack`. -/
def contains (haystack needle : String) : Bool := needle.toList <:+: haystack.toList

/-- What an optional string contributes where the code tests its truth value. -/
def truthy (s : Option String) : Option String := s.filter (· ≠ "")

lemma truthy_eq_some {s : Option String} {t : String} :
    truthy s = some t ↔ s = some t ∧ t ≠ "" := by
  simp [truthy, Option.filter_eq_some_iff]

/-- Padding and case are both removed. -/
example : upper (strip " usd\n") = "USD" := by decide

end PyString
