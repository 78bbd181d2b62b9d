import ResilientHttp.Compression.Brotli.Dictionary

/-! The variants of a dictionary word: cut, capitalized, or with text around it. -/
namespace ResilientHttp.Compression.Brotli

inductive Change
  | whole
  | omitFirst (count : Nat)
  | omitLast (count : Nat)
  | raiseFirst
  | raiseAll
deriving Repr, DecidableEq

/-- The number of bytes in the character that a byte begins, as far as raising is concerned. -/
def characterSize (b : UInt8) : Nat := if b < 0xC0 then 1 else if b < 0xE0 then 2 else 3

/-- Raises the character in front: exactly for ASCII, otherwise by flipping bits of its last
byte. -/
def raiseFirst : List UInt8 → List UInt8
  | [] => []
  | a :: rest =>
    if a < 0xC0 then (if 0x61 ≤ a && a ≤ 0x7A then a ^^^ 32 else a) :: rest
    else if a < 0xE0 then
      match rest with
      | b :: rest => a :: (b ^^^ 32) :: rest
      | [] => [a]
    else
      match rest with
      | b :: c :: rest => a :: b :: (c ^^^ 5) :: rest
      | rest => a :: rest

def raiseAll : (fuel : Nat) → List UInt8 → List UInt8
  | 0, bs => bs
  | _ + 1, [] => []
  | fuel + 1, a :: rest =>
    let raised := raiseFirst (a :: rest)
    let size := characterSize a
    raised.take size ++ raiseAll fuel (raised.drop size)

def Change.apply (bs : List UInt8) : Change → List UInt8
  | whole => bs
  | omitFirst count => bs.drop count
  | omitLast count => bs.take (bs.length - count)
  | raiseFirst => Brotli.raiseFirst bs
  | raiseAll => Brotli.raiseAll bs.length bs

/-- The text in front, the change of the word, and the text behind, for each variant. -/
def variants : List (String × Change × String) :=
  [("", .whole, ""), ("", .whole, " "), (" ", .whole, " "), ("", .omitFirst 1, ""),
    ("", .raiseFirst, " "), ("", .whole, " the "), (" ", .whole, ""), ("s ", .whole, " "),
    ("", .whole, " of "), ("", .raiseFirst, ""), ("", .whole, " and "), ("", .omitFirst 2, ""),
    ("", .omitLast 1, ""), (", ", .whole, " "), ("", .whole, ", "), (" ", .raiseFirst, " "),
    ("", .whole, " in "), ("", .whole, " to "), ("e ", .whole, " "), ("", .whole, "\""),
    ("", .whole, "."), ("", .whole, "\">"), ("", .whole, "\n"), ("", .omitLast 3, ""),
    ("", .whole, "]"), ("", .whole, " for "), ("", .omitFirst 3, ""), ("", .omitLast 2, ""),
    ("", .whole, " a "), ("", .whole, " that "), (" ", .raiseFirst, ""), ("", .whole, ". "),
    (".", .whole, ""), (" ", .whole, ", "), ("", .omitFirst 4, ""), ("", .whole, " with "),
    ("", .whole, "'"), ("", .whole, " from "), ("", .whole, " by "), ("", .omitFirst 5, ""),
    ("", .omitFirst 6, ""), (" the ", .whole, ""), ("", .omitLast 4, ""), ("", .whole, ". The "),
    ("", .raiseAll, ""), ("", .whole, " on "), ("", .whole, " as "), ("", .whole, " is "),
    ("", .omitLast 7, ""), ("", .omitLast 1, "ing "), ("", .whole, "\n\t"), ("", .whole, ":"),
    (" ", .whole, ". "), ("", .whole, "ed "), ("", .omitFirst 9, ""), ("", .omitFirst 7, ""),
    ("", .omitLast 6, ""), ("", .whole, "("), ("", .raiseFirst, ", "), ("", .omitLast 8, ""),
    ("", .whole, " at "), ("", .whole, "ly "), (" the ", .whole, " of "), ("", .omitLast 5, ""),
    ("", .omitLast 9, ""), (" ", .raiseFirst, ", "), ("", .raiseFirst, "\""), (".", .whole, "("),
    ("", .raiseAll, " "), ("", .raiseFirst, "\">"), ("", .whole, "=\""), (" ", .whole, "."),
    (".com/", .whole, ""), (" the ", .whole, " of the "), ("", .raiseFirst, "'"),
    ("", .whole, ". This "), ("", .whole, ","), (".", .whole, " "), ("", .raiseFirst, "("),
    ("", .raiseFirst, "."), ("", .whole, " not "), (" ", .whole, "=\""), ("", .whole, "er "),
    (" ", .raiseAll, " "), ("", .whole, "al "), (" ", .raiseAll, ""), ("", .whole, "='"),
    ("", .raiseAll, "\""), ("", .raiseFirst, ". "), (" ", .whole, "("), ("", .whole, "ful "),
    (" ", .raiseFirst, ". "), ("", .whole, "ive "), ("", .whole, "less "), ("", .raiseAll, "'"),
    ("", .whole, "est "), (" ", .raiseFirst, "."), ("", .raiseAll, "\">"), (" ", .whole, "='"),
    ("", .raiseFirst, ","), ("", .whole, "ize "), ("", .raiseAll, "."), ("\u00a0", .whole, ""),
    (" ", .whole, ","), ("", .raiseFirst, "=\""), ("", .raiseAll, "=\""), ("", .whole, "ous "),
    ("", .raiseAll, ", "), ("", .raiseFirst, "='"), (" ", .raiseFirst, ","),
    (" ", .raiseAll, "=\""), (" ", .raiseAll, ", "), ("", .raiseAll, ","), ("", .raiseAll, "("),
    ("", .raiseAll, ". "), (" ", .raiseAll, "."), ("", .raiseAll, "='"), (" ", .raiseAll, ". "),
    (" ", .raiseFirst, "=\""), (" ", .raiseAll, "='"), (" ", .raiseFirst, "='")]

def wordVariant? (length number variant : Nat) : Option (List UInt8) :=
  variants[variant]?.map fun (front, change, behind) =>
    front.toUTF8.data.toList ++ change.apply (word length number) ++ behind.toUTF8.data.toList

end ResilientHttp.Compression.Brotli
