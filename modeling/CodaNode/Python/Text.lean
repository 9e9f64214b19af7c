/-
Module: CodaNode.Python.Text
Layer: Python (library)
Purpose: The operations on strings that the language provides. `int` follows the language reference:
  surrounding white space, one sign, decimal digits of any script, single underscores between digits,
  and the limit on the number of digits.
Imports: none
Main exports: Python.int, Python.contains, Python.take, Python.fsencode, Python.universalNewlines
-/

namespace Python

/-- The code points `str.isspace` accepts. -/
def isSpace (char : Char) : Bool :=
  let code := char.toNat
  (0x9 ≤ code && code ≤ 0xd) || (0x1c ≤ code && code ≤ 0x20) || code == 0x85 || code == 0xa0 ||
    code == 0x1680 || (0x2000 ≤ code && code ≤ 0x200a) || code == 0x2028 || code == 0x2029 ||
    code == 0x202f || code == 0x205f || code == 0x3000

/-- The white space `int` skips. The four separators U+001C to U+001F are none of it: `int` looks at ASCII
characters one by one and takes only U+0009 to U+000D and the blank. -/
def isIntSpace (char : Char) : Bool :=
  isSpace char && !(0x1c ≤ char.toNat && char.toNat ≤ 0x1f)

/-- The code points of the digit zero in each script, in increasing order. The other nine digits of
a script follow its zero. The table is that of Unicode 15.0, the database of Python 3.12, which
`.python-version` pins. -/
def decimalZeros : List Nat :=
  [0x30, 0x660, 0x6f0, 0x7c0, 0x966, 0x9e6, 0xa66, 0xae6, 0xb66, 0xbe6, 0xc66, 0xce6, 0xd66, 0xde6,
    0xe50, 0xed0, 0xf20, 0x1040, 0x1090, 0x17e0, 0x1810, 0x1946, 0x19d0, 0x1a80, 0x1a90, 0x1b50,
    0x1bb0, 0x1c40, 0x1c50, 0xa620, 0xa8d0, 0xa900, 0xa9d0, 0xa9f0, 0xaa50, 0xabf0, 0xff10, 0x104a0,
    0x10d30, 0x11066, 0x110f0, 0x11136, 0x111d0, 0x112f0, 0x11450, 0x114d0, 0x11650, 0x116c0,
    0x11730, 0x118e0, 0x11950, 0x11c50, 0x11d50, 0x11da0, 0x11f50, 0x16a60, 0x16ac0, 0x16b50, 0x1d7ce,
    0x1d7d8, 0x1d7e2, 0x1d7ec, 0x1d7f6, 0x1e140, 0x1e2f0, 0x1e4f0, 0x1e950, 0x1fbf0]

/-- The value of a decimal digit. -/
def decimalValue (char : Char) : Option Nat :=
  (decimalZeros.find? fun first => first ≤ char.toNat && char.toNat < first + 10).map
    fun first => char.toNat - first

/-- A non-empty run of digits in which single underscores may stand between two digits. -/
def digitRun : List Char → Option (List Nat)
  | [] => none
  | [char] => (decimalValue char).map fun digit => [digit]
  | char :: '_' :: rest => do
      let digit ← decimalValue char
      let digits ← digitRun rest
      return digit :: digits
  | char :: next :: rest => do
      let digit ← decimalValue char
      let digits ← digitRun (next :: rest)
      return digit :: digits

/-- `sys.int_info.default_max_str_digits`. -/
def maxStrDigits : Nat := 4300

/-- The number a run of digits denotes. -/
def magnitude (chars : List Char) : Option Nat := do
  let digits ← digitRun chars
  if digits.length ≤ maxStrDigits then
    return digits.foldl (fun number digit => 10 * number + digit) 0
  else none

/-- The characters without the white ones around them. -/
def trim (white : Char → Bool) (chars : List Char) : List Char :=
  ((chars.dropWhile white).reverse.dropWhile white).reverse

/-- `text.strip()`. -/
def strip (chars : List Char) : List Char := trim isSpace chars

/-- `int(text)`; `none` stands for the `ValueError`. -/
def int (text : String) : Option Int :=
  match trim isIntSpace text.toList with
  | '-' :: chars => (magnitude chars).map fun number => -(number : Int)
  | '+' :: chars => (magnitude chars).map fun number => (number : Int)
  | chars => (magnitude chars).map fun number => (number : Int)

/-- A code point in the encoding of file names, UTF-8. A byte that was no UTF-8 is a surrogate from U+DC80 to U+DCFF;
the other surrogates have no encoding. -/
def fsencodePoint (point : Nat) : Option (List Nat) :=
  if point < 0x80 then some [point]
  else if point < 0x800 then some [0xc0 + point / 64, 0x80 + point % 64]
  else if 0xdc80 ≤ point ∧ point ≤ 0xdcff then some [point - 0xdc00]
  else if 0xd800 ≤ point ∧ point ≤ 0xdfff then none
  else if point < 0x10000 then some [0xe0 + point / 4096, 0x80 + point / 64 % 64, 0x80 + point % 64]
  else some [0xf0 + point / 262144, 0x80 + point / 4096 % 64, 0x80 + point / 64 % 64, 0x80 + point % 64]

/-- `os.fsencode(text)`; `none` stands for the `UnicodeEncodeError`. -/
def fsencode : List Nat → Option (List Nat)
  | [] => some []
  | point :: points => do
      let bytes ← fsencodePoint point
      let more ← fsencode points
      return bytes ++ more

/-- What the text mode reads: a carriage return, alone or in front of a line feed, counts as a line feed. -/
def universalNewlines : List Char → List Char
  | [] => []
  | '\r' :: '\n' :: rest => '\n' :: universalNewlines rest
  | char :: rest => (if char = '\r' then '\n' else char) :: universalNewlines rest

theorem return_not_mem_universalNewlines (text : List Char) : '\r' ∉ universalNewlines text := by
  induction text using universalNewlines.induct with
  | case1 => exact List.not_mem_nil
  | case2 rest ih =>
      rw [universalNewlines, List.mem_cons, not_or]
      exact ⟨by decide, ih⟩
  | case3 char rest pair ih =>
      rw [universalNewlines, List.mem_cons, not_or]
      · refine ⟨?_, ih⟩
        split
        · decide
        · next other => exact fun same => other same.symm
      · exact pair

theorem universalNewlines_of_plain {text : List Char} (plain : '\r' ∉ text) : universalNewlines text = text := by
  induction text using universalNewlines.induct with
  | case1 => rfl
  | case2 rest ih => exact absurd List.mem_cons_self plain
  | case3 char rest pair ih =>
      rw [List.mem_cons, not_or] at plain
      rw [universalNewlines, ih plain.2, if_neg (Ne.symm plain.1)]
      exact pair

theorem return_not_mem_digits (value : Nat) : '\r' ∉ Nat.toDigits 10 value := by
  intro inside
  exact absurd (Nat.isDigit_of_mem_toDigits (by decide) (by decide) inside) (by decide)

/-- Whether `part` begins one of the tails of `chars`. -/
def isInfix (part : List Char) : List Char → Bool
  | [] => part.isEmpty
  | char :: rest => part.isPrefixOf (char :: rest) || isInfix part rest

/-- `part in text`. -/
def contains (text part : String) : Bool :=
  isInfix part.toList text.toList

/-- `text[:length]`. -/
def take (text : String) (length : Nat) : String :=
  String.ofList (text.toList.take length)

example : int " -1_024\n" = some (-1024) := by decide +kernel

example : int "1__0" = none := by decide +kernel

example : int "7\u001c" = none := by decide +kernel

end Python
