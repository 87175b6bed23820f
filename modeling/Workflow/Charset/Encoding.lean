import Workflow.Charset.Chinese
import Workflow.Charset.Designated
import Workflow.Charset.Escaped
import Workflow.Charset.Name
import Workflow.Charset.Punycode
import Workflow.Charset.Seven

/-!
# Character sets

A character set says how bytes are decoded.  `decode` gives the places of a text, with `none` where
nothing can be decoded; `exact` gives the text of bytes that can be decoded as a whole.
-/

namespace Workflow.Charset

/-- The text of places all of which could be decoded. -/
def wholeText? (places : Except Error Places) : Option String :=
  match places with
  | .ok ps => if ps.all (·.isSome) then some (String.ofList (ps.filterMap id)) else none
  | .error _ => none

/-- A character set. -/
structure Encoding where
  /-- The places of a text. -/
  decode : List UInt8 → Except Error Places
  /-- The text of bytes that can be decoded as a whole. -/
  exact : List UInt8 → Option String := fun bytes => wholeText? (decode bytes)

namespace Encoding

/-- The character set of a decoder. -/
def ofDecoder (decode : List UInt8 → Except Error Places) : Encoding := { decode }

/-- The character set of a decoder that never fails. -/
def ofPlaces (places : List UInt8 → Places) : Encoding := ofDecoder fun bytes => .ok (places bytes)

/-- The character set in which every byte has a character or none. -/
def ofBytes (char? : UInt8 → Option Char) : Encoding := ofPlaces (·.map char?)

/-- The character set in which no two pieces depend on each other. -/
def ofFront (front : List UInt8 → Front) : Encoding := ofDecoder (decodeEach front)

/-- The character set with designations. -/
def ofScheme (scheme : Scheme) : Encoding := ofDecoder (decodeWith scheme.front {})

/-- A name under which nothing can be decoded. -/
def refusing (e : Error) : Encoding := ⟨fun _ => .error e, fun _ => none⟩

/-- ASCII. -/
def ascii : Encoding := ofBytes fun b => if b < 0x80 then some (Char.ofNat b.toNat) else none

/-- The first 256 characters. -/
def latin1 : Encoding := ofBytes fun b => some (Char.ofNat b.toNat)

/-- Unicode in units of one byte. -/
def utf8 : Encoding := ofPlaces Utf8.decode

/-- The text of bytes behind a mark, or of all bytes in the order that is read without a mark. -/
def exactMarked (marked unmarked : List UInt8 → Except Error Places) (bytes : List UInt8) :
    Option String :=
  match marked bytes with
  | .error (.noMark _) => wholeText? (unmarked bytes)
  | places => wholeText? places

/-- The character sets by name, code pages apart. -/
def known : List (String × Encoding) := [
  ("ascii", ascii), ("latin_1", latin1), ("iso8859_1", latin1), ("charmap", latin1),
  ("utf_8", utf8), ("utf_8_sig", ofPlaces decodeSigned),
  ("utf_16", ⟨decodeMarkedPairs, exactMarked decodeMarkedPairs (decodePairs .little)⟩),
  ("utf_16_le", ofDecoder (decodePairs .little)), ("utf_16_be", ofDecoder (decodePairs .big)),
  ("utf_32", ⟨decodeMarkedQuads, exactMarked decodeMarkedQuads (decodeQuads .little)⟩),
  ("utf_32_le", ofDecoder (decodeQuads .little)), ("utf_32_be", ofDecoder (decodeQuads .big)),
  ("utf_7", ofPlaces decodeSeven),
  ("unicode_escape", ofDecoder (decodePatiently escapedFront)),
  ("raw_unicode_escape", ofDecoder (decodePatiently rawFront)),
  ("punycode", ofDecoder decodePunycode),
  ("gb2312", ofFront gb2312), ("gbk", ofFront gbk), ("gb18030", ofFront gb18030),
  ("hz", ofDecoder (decodeWith hz false)),
  ("big5", ofFront big5), ("cp950", ofFront cp950), ("big5hkscs", ofFront big5Hkscs),
  ("euc_kr", ofFront eucKr), ("cp949", ofFront cp949), ("johab", ofFront johab),
  ("euc_jp", ofFront eucJp), ("euc_jis_2004", ofFront (eucJis .second)),
  ("euc_jisx0213", ofFront (eucJis .first)),
  ("shift_jis", ofFront shiftJis), ("shift_jis_2004", ofFront (shiftJisX .second)),
  ("shift_jisx0213", ofFront (shiftJisX .first)), ("cp932", ofFront cp932),
  ("iso2022_kr", ofScheme .korean), ("iso2022_jp", ofScheme .japanese),
  ("iso2022_jp_1", ofScheme .japanese1), ("iso2022_jp_2", ofScheme .japanese2),
  ("iso2022_jp_3", ofScheme .japanese3), ("iso2022_jp_2004", ofScheme .japanese2004),
  ("iso2022_jp_ext", ofScheme .japaneseKana),
  ("undefined", refusing .undefined), ("rot_13", refusing .textOnly),
  ("idna", ⟨fun _ => .error .strictOnly, ascii.exact⟩),
  ("base64_codec", refusing .bytesOnly), ("bz2_codec", refusing .bytesOnly),
  ("hex_codec", refusing .bytesOnly), ("quopri_codec", refusing .bytesOnly),
  ("uu_codec", refusing .bytesOnly), ("zlib_codec", refusing .bytesOnly)]

/-- The character set of a plain name. -/
def ofPlainName? (name : String) : Option Encoding :=
  match known.lookup name with
  | some encoding => some encoding
  | none => (Page.ofName? name).map fun page => ofPlaces page.decode

/-- The character set of a name, if it has one. -/
def ofName? (name : String) : Except Error (Option Encoding) :=
  if name.contains '\x00' then .error .nameWithZero
  else .ok ((candidateNames name).findSome? ofPlainName?)

/-- The text of bytes, with a mark where nothing can be decoded.  No bytes are the empty text in
every character set. -/
def text (encoding : Encoding) (bytes : List UInt8) : Except Error String :=
  if bytes.isEmpty then .ok ""
  else (encoding.decode bytes).map fun places =>
    String.ofList (places.map (·.getD Utf8.replacement))

end Encoding

end Workflow.Charset
