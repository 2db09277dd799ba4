import Flattener.Encoding.Utf8
import Flattener.Text.Quoted

/-!
# Encodings

How text is stored in files: as UTF-8, with or without a signature at the start, or with one
byte for each character of a small range. These are the encodings that the program itself knows; a
run works with any codec (`Codec`).

* `Encoding.ofName?` is the encoding with the given name.
* `Encoding.decode` and `Encoding.encode` read and write bytes.
-/

namespace Flattener

/-- An encoding of text as bytes. -/
inductive Encoding where
  | utf8
  /-- UTF-8 with a byte order mark that is written first and skipped on reading. -/
  | utf8Signed
  | latin1
  | ascii
  deriving DecidableEq, Repr

/-- Bytes that are no text: where, which and how many, and what is wrong with them. -/
structure DecodeFault where
  codec : Text
  offset : Nat
  byte : UInt8
  count : Nat
  reason : Text
  deriving DecidableEq, Repr

/-- Characters that have no bytes: a run of `count` from `offset` on, which starts with `first`, and
what is wrong with them. -/
structure EncodeFault where
  codec : Text
  offset : Nat
  first : Char
  count : Nat
  reason : Text
  deriving DecidableEq, Repr

/-- One offset, or the first and last one of a run. -/
def offsetRange (offset count : Nat) : Text :=
  if count ≤ 1 then Text.ofNat offset
  else Text.ofNat offset ++ '-' :: Text.ofNat (offset + count - 1)

/-- What is said about bytes that are no text. -/
def DecodeFault.message (e : DecodeFault) : Text :=
  '\'' :: (e.codec ++ "' codec can't decode byte".toList ++
    (if e.count ≤ 1 then " 0x".toList ++ Text.hex 2 e.byte.toNat else ['s']) ++
    " in position ".toList ++ offsetRange e.offset e.count ++ ": ".toList ++ e.reason)

/-- What is said about characters that have no bytes. -/
def EncodeFault.message (e : EncodeFault) : Text :=
  '\'' :: (e.codec ++ "' codec can't encode character".toList ++
    (if e.count ≤ 1 then " '".toList ++ Text.codePoint e.first ++ ['\''] else ['s']) ++
    " in position ".toList ++ offsetRange e.offset e.count ++ ": ".toList ++ e.reason)

namespace Encoding

/-- The proper names of the encodings. -/
def names : List (Text × Encoding) :=
  [("utf_8", utf8), ("utf_8_sig", utf8Signed), ("latin_1", latin1),
    ("ascii", ascii)].map fun n => (n.1.toList, n.2)

/-- The other names of the encodings. -/
def aliases : List (Text × Encoding) :=
  [("utf8", utf8), ("u8", utf8), ("utf", utf8), ("utf8_ucs2", utf8), ("utf8_ucs4", utf8),
    ("cp65001", utf8), ("latin1", latin1), ("latin", latin1), ("l1", latin1), ("8859", latin1),
    ("iso8859", latin1), ("iso8859_1", latin1), ("iso_8859_1", latin1),
    ("iso_8859_1_1987", latin1), ("iso_ir_100", latin1), ("csisolatin1", latin1),
    ("cp819", latin1), ("ibm819", latin1), ("us_ascii", ascii), ("us", ascii), ("646", ascii),
    ("ansi_x3.4_1968", ascii), ("ansi_x3_4_1968", ascii), ("ansi_x3.4_1986", ascii),
    ("cp367", ascii), ("ibm367", ascii), ("csascii", ascii), ("iso646_us", ascii),
    ("iso_646.irv_1991", ascii), ("iso_ir_6", ascii)].map fun n => (n.1.toList, n.2)

/-- The name of an encoding in its plain form: small letters, digits and points, with single
underscores in place of everything else between them. -/
def plainName (name : Text) : Text :=
  let parts := (name.splitOnP fun c => !(c.isAlphanum || c = '.')).filter fun p => !p.isEmpty
  (['_'].intercalate parts).map Char.toLower

/-- The encoding with the given name. In other names a point may stand for an underscore. -/
def ofName? (name : Text) : Option Encoding :=
  let n := plainName name
  (aliases.lookup n).or ((aliases.lookup (n.map fun c => if c = '.' then '_' else c)).or
    (names.lookup n))

/-- The byte order mark in UTF-8. -/
def signature : List UInt8 := [0xEF, 0xBB, 0xBF]

/-- The words for what is wrong with bytes that are not UTF-8. -/
def reasonText : Utf8.Reason → Text
  | .startByte => "invalid start byte".toList
  | .continuationByte => "invalid continuation byte".toList
  | .endOfData => "unexpected end of data".toList

/-- Reads bytes as UTF-8. -/
def decodeUtf8 (bytes : List UInt8) : Except DecodeFault Text :=
  (Utf8.decode bytes).mapError fun f =>
    ⟨"utf-8".toList, f.offset, f.byte, f.count, reasonText f.reason⟩

/-- Reads bytes below `0x80`, of which the first has the given offset. -/
def decodeAscii (offset : Nat) : List UInt8 → Except DecodeFault Text
  | [] => .ok []
  | b :: bs =>
    if b < 0x80 then (decodeAscii (offset + 1) bs).map (Char.ofNat b.toNat :: ·)
    else .error ⟨"ascii".toList, offset, b, 1, "ordinal not in range(128)".toList⟩

/-- The bytes after a byte order mark; one that is cut off by the end counts as well. -/
def dropSignature (bytes : List UInt8) : List UInt8 :=
  if signature.isPrefixOf bytes || bytes.isPrefixOf signature then bytes.drop 3 else bytes

/-- Reads bytes as text. -/
def decode : Encoding → List UInt8 → Except DecodeFault Text
  | utf8, bytes => decodeUtf8 bytes
  | utf8Signed, bytes => decodeUtf8 (dropSignature bytes)
  | latin1, bytes => .ok (bytes.map fun b => Char.ofNat b.toNat)
  | ascii, bytes => decodeAscii 0 bytes

/-- What is wrong with a character that is not below `limit`. -/
def rangeReason (limit : Nat) : Text :=
  "ordinal not in range(".toList ++ Text.ofNat limit ++ [')']

/-- Writes characters below `limit` as one byte each; the first has the given offset. -/
def encodeBelow (codec : Text) (limit offset : Nat) : Text → Except EncodeFault (List UInt8)
  | [] => .ok []
  | c :: t =>
    if c.toNat < limit then
      (encodeBelow codec limit (offset + 1) t).map (UInt8.ofNat c.toNat :: ·)
    else
      .error ⟨codec, offset, c, 1 + (t.takeWhile fun d => limit ≤ d.toNat).length,
        rangeReason limit⟩

/-- Writes text as bytes. -/
def encode : Encoding → Text → Except EncodeFault (List UInt8)
  | utf8, t => .ok (Utf8.encode t)
  | utf8Signed, t => .ok (signature ++ Utf8.encode t)
  | latin1, t => encodeBelow "latin-1".toList 256 0 t
  | ascii, t => encodeBelow "ascii".toList 128 0 t

end Encoding

end Flattener
