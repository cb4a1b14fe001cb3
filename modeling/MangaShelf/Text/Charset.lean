import MangaShelf.Text.Search
import MangaShelf.Text.Units
import MangaShelf.Text.Utf8

/-!
# Character sets

How the bytes of a document are read as text: by the character set that its content type names, or
for a JSON text by the look of its first bytes. The Unicode and Latin sets are defined here; all
others, with the tables that they need, are left open.
-/

namespace MangaShelf.Text

/-- A way to read bytes as characters. -/
inductive Charset where
  | utf8
  /-- UTF-8, a mark at the beginning left out. -/
  | utf8Marked
  | ascii
  | latin1
  | windows1252
  /-- UTF-16 in a given order, or in the order that a mark at the beginning shows. -/
  | utf16 (order : Option ByteOrder)
  | utf32 (order : Option ByteOrder)
  deriving DecidableEq, Repr

namespace Charset

/-- The characters of the bytes 128 to 159 where they are no control characters. -/
def windowsHigh : List Nat :=
  [0x20AC, 0, 0x201A, 0x192, 0x201E, 0x2026, 0x2020, 0x2021, 0x2C6, 0x2030, 0x160, 0x2039, 0x152, 0,
    0x17D, 0, 0, 0x2018, 0x2019, 0x201C, 0x201D, 0x2022, 0x2013, 0x2014, 0x2DC, 0x2122, 0x161,
    0x203A, 0x153, 0, 0x17E, 0x178]

/-- The character of a byte of Windows text. -/
def windowsChar? (b : UInt8) : Option Char :=
  if 128 ≤ b.toNat ∧ b.toNat < 160 then
    match windowsHigh.getD (b.toNat - 128) 0 with
    | 0 => none
    | n => some (Char.ofNat n)
  else some (Char.ofNat b.toNat)

/-- The characters of some bytes; `none` marks what stands for no character. -/
def scan : Charset → List UInt8 → List (Option Char)
  | .utf8, bs => utf8Scan none (bs.map UInt8.toNat)
  | .utf8Marked, bs =>
    utf8Scan none ((if [0xEF, 0xBB, 0xBF].isPrefixOf bs then bs.drop 3 else bs).map UInt8.toNat)
  | .ascii, bs => bs.map fun b => if b.toNat < 128 then some (Char.ofNat b.toNat) else none
  | .latin1, bs => bs.map fun b => some (Char.ofNat b.toNat)
  | .windows1252, bs => bs.map windowsChar?
  | .utf16 (some order), bs => utf16Scan order bs
  | .utf16 none, bs =>
    if [0xFE, 0xFF].isPrefixOf bs then utf16Scan .bigFirst (bs.drop 2)
    else if [0xFF, 0xFE].isPrefixOf bs then utf16Scan .littleFirst (bs.drop 2)
    else utf16Scan .littleFirst bs
  | .utf32 (some order), bs => utf32Scan order bs
  | .utf32 none, bs =>
    if [0, 0, 0xFE, 0xFF].isPrefixOf bs then utf32Scan .bigFirst (bs.drop 4)
    else if [0xFF, 0xFE, 0, 0].isPrefixOf bs then utf32Scan .littleFirst (bs.drop 4)
    else utf32Scan .littleFirst bs

/-- Bytes in an order that a mark at the beginning has to show, and no mark shows it. -/
def lacksMark : Charset → List UInt8 → Bool
  | .utf16 none, bs =>
    2 ≤ bs.length && !([0xFE, 0xFF].isPrefixOf bs || [0xFF, 0xFE].isPrefixOf bs)
  | .utf32 none, bs =>
    4 ≤ bs.length && !([0, 0, 0xFE, 0xFF].isPrefixOf bs || [0xFF, 0xFE, 0, 0].isPrefixOf bs)
  | _, _ => false

/-- The text of some bytes, if all of them stand for characters. -/
def read? (c : Charset) (bytes : List UInt8) : Option String :=
  ((c.scan bytes).mapM id).map String.ofList

/-- The text of some bytes, with replacement characters for what stands for none. -/
def readLenient (c : Charset) (bytes : List UInt8) : String :=
  String.ofList ((c.scan bytes).map (·.getD '\uFFFD'))

/-- The character set of a JSON text, by the zeros and marks among its first bytes. -/
def ofJsonBytes (bytes : List UInt8) : Charset :=
  if [0, 0, 0xFE, 0xFF].isPrefixOf bytes || [0xFF, 0xFE, 0, 0].isPrefixOf bytes then .utf32 none
  else if [0xFE, 0xFF].isPrefixOf bytes || [0xFF, 0xFE].isPrefixOf bytes then .utf16 none
  else if [0xEF, 0xBB, 0xBF].isPrefixOf bytes then .utf8Marked
  else
    match bytes with
    | [a, b] =>
      if a = 0 then .utf16 (some .bigFirst)
      else if b = 0 then .utf16 (some .littleFirst)
      else .utf8
    | a :: b :: c :: d :: _ =>
      if a = 0 then if b = 0 then .utf32 (some .bigFirst) else .utf16 (some .bigFirst)
      else if b = 0 then
        if c = 0 ∧ d = 0 then .utf32 (some .littleFirst) else .utf16 (some .littleFirst)
      else .utf8
    | _ => .utf8

/-- The name of a character set with one spelling for all separators. -/
def plainName (s : String) : String :=
  String.ofList (List.intercalate ['_']
    ((pieces (fun c => !(c.isAlphanum || c == '.')) (lowerAscii s).toList).filter (!·.isEmpty)))

/-- The names of the character sets. -/
def names : List (Charset × List String) :=
  [(.utf8, ["utf_8", "utf8", "u8", "utf", "utf8_ucs2", "utf8_ucs4", "cp65001"]),
    (.utf8Marked, ["utf_8_sig"]),
    (.ascii, ["ascii", "us_ascii", "646", "us", "ansi_x3.4_1968", "ansi_x3_4_1968",
      "ansi_x3.4_1986", "cp367", "csascii", "ibm367", "iso646_us", "iso_646.irv_1991", "iso_ir_6"]),
    (.latin1, ["iso_8859_1", "iso8859_1", "latin_1", "latin1", "latin", "l1", "8859", "cp819",
      "csisolatin1", "ibm819", "iso8859", "iso_8859_1_1987", "iso_ir_100"]),
    (.windows1252, ["cp1252", "1252", "windows_1252"]),
    (.utf16 none, ["utf_16", "utf16", "u16"]),
    (.utf16 (some .littleFirst), ["utf_16_le", "utf_16le", "unicodelittleunmarked"]),
    (.utf16 (some .bigFirst), ["utf_16_be", "utf_16be", "unicodebigunmarked"]),
    (.utf32 none, ["utf_32", "utf32", "u32"]),
    (.utf32 (some .littleFirst), ["utf_32_le", "utf_32le"]),
    (.utf32 (some .bigFirst), ["utf_32_be", "utf_32be"])]

/-- The character set of a name. -/
def ofName? (s : String) : Option Charset :=
  (names.find? fun (_, known) => known.contains (plainName s)).map (·.1)

end Charset

/-- Why bytes cannot be read as text at all, not even with replacement characters. -/
inductive CharsetFault where
  /-- The name is that of a coding of bytes. -/
  | codingOfBytes
  /-- The name is that of a coding of text. -/
  | codingOfText
  /-- The name is that of a coding without replacement characters. -/
  | codingWithoutReplacement
  /-- The name is that of the coding that reads nothing. -/
  | undefined
  /-- The name has a null character. -/
  | nullInName
  /-- No mark shows the order of the bytes. -/
  | noMark (c : Charset)
  /-- A fault of one of the other character sets, with its kind. -/
  | other (kind text : String)
  deriving DecidableEq, Repr

namespace CharsetFault

/-- The wording of a fault in a character set. -/
def message : CharsetFault → String
  | .codingOfBytes => ""
  | .codingOfText => "descriptor 'translate' for 'str' objects doesn't apply to a 'bytes' object"
  | .codingWithoutReplacement => "Unsupported error handling: replace"
  | .undefined => "undefined encoding"
  | .nullInName => "embedded null character"
  | .noMark (.utf32 _) =>
    "'utf-32' codec can't decode bytes in position 0-3: Stream does not start with BOM"
  | .noMark _ => "'utf-16' codec can't decode bytes in position 0-1: Stream does not start with BOM"
  | .other _ text => text

/-- The names of codings that read no bytes as text. -/
def names : List (CharsetFault × List String) :=
  [(.codingOfBytes, ["base64", "base_64", "base64_codec", "bz2", "bz2_codec", "hex", "hex_codec",
      "quopri", "quoted_printable", "quotedprintable", "quopri_codec", "uu", "uu_codec", "zip",
      "zlib", "zlib_codec"]),
    (.codingOfText, ["rot13", "rot_13"]),
    (.codingWithoutReplacement, ["idna"]),
    (.undefined, ["undefined"])]

/-- What keeps a name from being that of a character set. An unknown name is no fault. -/
def ofName? (s : String) : Option CharsetFault :=
  if s.toList.contains '\x00' then some .nullInName
  else (names.find? fun (_, known) => known.contains (Charset.plainName s)).map (·.1)

end CharsetFault

/-- How the character sets that are not defined here read bytes, by name; nothing for a name that
no character set has. -/
abbrev OtherCharsets := String → Option (List UInt8 → Except CharsetFault String)

/-- The text of some bytes in the character set of a name. Bytes in an unknown one are read as
UTF-8. -/
def readNamed (others : OtherCharsets) (name : String) (bytes : List UInt8) :
    Except CharsetFault String :=
  match CharsetFault.ofName? name with
  | some fault => .error fault
  | none =>
    match Charset.ofName? name with
    | some c => if c.lacksMark bytes then .error (.noMark c) else .ok (c.readLenient bytes)
    | none =>
      match others name with
      | some read => read bytes
      | none => .ok (Charset.utf8.readLenient bytes)

end MangaShelf.Text
