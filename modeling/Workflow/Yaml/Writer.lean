import Workflow.Decimal.Layout
import Workflow.Text.Base64
import Workflow.Text.Quoted
import Workflow.Value.Basic
import Workflow.Yaml.Style

/-!
# Writing YAML

The YAML text of a value in block style: the fields of a record and the items of a list stand on
lines of their own, a list under a field is not indented further, and empty records and lists are
written in brackets.  Long texts are broken at single spaces behind column `bestWidth`.
-/

namespace Workflow.Yaml

/-- The column behind which texts are broken. -/
def bestWidth : Nat := 80

/-- The number of columns by which inner parts are indented. -/
def bestIndent : Nat := 2

/-- What has been written and where the writer stands. -/
structure Page where
  /-- The characters, last one first. -/
  reversed : List Char := []
  /-- The number of characters on the current line. -/
  column : Nat := 0
  /-- Whether white space or a line break was written last. -/
  spaced : Bool := true
  /-- Whether only indentation and indicators stand on the line. -/
  indenting : Bool := true

namespace Page

/-- Writes a character. -/
def put (p : Page) (c : Char) : Page :=
  { p with reversed := c :: p.reversed, column := p.column + 1 }

/-- Writes characters. -/
def puts (p : Page) (cs : List Char) : Page := cs.foldl put p

/-- Starts a line with a character that ends one. -/
def breakWith (p : Page) (c : Char) : Page := { p with reversed := c :: p.reversed, column := 0 }

/-- Goes to an indentation, on a new line unless the line holds nothing beyond it. -/
def indentTo (p : Page) (indent : Nat) : Page :=
  let fresh :=
    if !p.indenting || indent < p.column || (p.column == indent && !p.spaced) then p.breakWith '\n'
    else p
  { fresh.puts (List.replicate (indent - fresh.column) ' ') with spaced := true, indenting := true }

/-- Writes an indicator, behind a space if it needs one. -/
def indicator (p : Page) (cs : List Char) (needsSpace isSpace isIndent : Bool) : Page :=
  let p' := if needsSpace && !p.spaced then p.put ' ' else p
  { p'.puts cs with spaced := isSpace, indenting := p'.indenting && isIndent }

end Page

/-! ### Scalars -/

/-- Whether the next character is a space. -/
def spaceNext : List Char → Bool
  | ' ' :: _ => true
  | _ => false

/-- Writes the characters of a plain scalar.  `foldable` if it may be broken, and `afterSpace` if a
space was written last. -/
def writePlain (indent : Nat) (foldable : Bool) (afterSpace : Bool) (p : Page) :
    List Char → Page
  | [] => p
  | c :: rest =>
    if c == ' ' then
      if foldable && !afterSpace && bestWidth < p.column && !spaceNext rest then
        writePlain indent foldable true (p.indentTo indent) rest
      else writePlain indent foldable true (p.put c) rest
    else writePlain indent foldable false { p.put c with indenting := false } rest

/-- Writes the characters of a scalar in single quotes.  `first` at the start of the text, and
`breaks` if a line break was written last. -/
def writeSingle (indent : Nat) (foldable : Bool) (first afterSpace breaks : Bool) (p : Page) :
    List Char → Page
  | [] => if breaks then p.indentTo indent else p
  | c :: rest =>
    if c == ' ' then
      if foldable && !afterSpace && bestWidth < p.column && !first && !rest.isEmpty
          && !spaceNext rest then
        writeSingle indent foldable false true breaks (p.indentTo indent) rest
      else writeSingle indent foldable false true breaks (p.put c) rest
    else if isBreak c then
      let p' := if !breaks && c == '\n' then p.breakWith '\n' else p
      writeSingle indent foldable false afterSpace true
        { p'.breakWith c with indenting := true } rest
    else
      let p' := if breaks then p.indentTo indent else p
      let quoted := if c == '\'' then p'.put '\'' else p'
      writeSingle indent foldable false false false
        { quoted.put c with indenting := false } rest

/-- The short escapes in double quotes. -/
def shortEscapes : List (Nat × Char) := [
  (0x00, '0'), (0x07, 'a'), (0x08, 'b'), (0x09, 't'), (0x0A, 'n'), (0x0B, 'v'), (0x0C, 'f'),
  (0x0D, 'r'), (0x1B, 'e'), (0x22, '"'), (0x5C, '\\'), (0x85, 'N'), (0xA0, '_'), (0x2028, 'L'),
  (0x2029, 'P')]

/-- The escape of a character in double quotes. -/
def doubleEscape (c : Char) : List Char :=
  let n := c.toNat
  match shortEscapes.lookup n with
  | some e => ['\\', e]
  | none =>
    let upper (cs : List Char) : List Char := cs.map Char.toUpper
    if n ≤ 0xFF then '\\' :: 'x' :: upper (Quoted.hexCode 2 n)
    else if n ≤ 0xFFFF then '\\' :: 'u' :: upper (Quoted.hexCode 4 n)
    else '\\' :: 'U' :: upper (Quoted.hexCode 8 n)

/-- Writes the characters of a scalar in double quotes. -/
def writeDouble (indent : Nat) (foldable : Bool) (first afterSpace : Bool) (p : Page) :
    List Char → Page
  | [] => p
  | c :: rest =>
    if !isVerbatim c || isBreak c || c == '"' || c == '\\' then
      writeDouble indent foldable false false (p.puts (doubleEscape c)) rest
    else if c == ' ' then
      if foldable && !afterSpace && bestWidth < p.column && !first && !rest.isEmpty then
        let p' := p.indentTo indent
        writeDouble indent foldable false true (if spaceNext rest then p'.put '\\' else p') rest
      else writeDouble indent foldable false true (p.put c) rest
    else writeDouble indent foldable false false (p.put c) rest

/-- Writes a text whose further lines have an indentation; `asKey` if it stands on one line in
front of a colon. -/
def writeText (indent : Nat) (asKey : Bool) (p : Page) (s : String) : Page :=
  let cs := s.toList
  match styleOf asKey s with
  | .plain =>
    let p' := if !p.spaced && !cs.isEmpty then p.put ' ' else p
    { writePlain indent (!asKey) false { p' with spaced := false, indenting := false } cs with
      spaced := false, indenting := false }
  | .single =>
    (writeSingle indent (!asKey) true false false (p.indicator ['\''] true false false)
      cs).indicator ['\''] false false false
  | .double =>
    (writeDouble indent (!asKey) true false (p.indicator ['"'] true false false) cs).indicator
      ['"'] false false false

/-- Writes a scalar that is not a text. -/
def writeWord (p : Page) (s : String) : Page :=
  let p' := if !p.spaced then p.put ' ' else p
  { p'.puts s.toList with spaced := false, indenting := false }

/-! ### Records and lists -/

/-- The indentation of the parts inside a part; nothing is outside of the whole. -/
def deeper (flush : Bool) : Option Nat → Nat
  | none => 0
  | some n => if flush then n else n + bestIndent

/-- The indentation of the further lines of a scalar. -/
def scalarIndent : Option Nat → Nat
  | none => bestIndent
  | some n => n + bestIndent

/-- The greatest number of bytes of a key that stands on one line with its value. -/
def keyLimit : Nat := 128

/-- Whether a key stands on one line with its value. -/
def isSimpleKey (s : String) : Bool := !isMultiline s.toList && s.utf8ByteSize ≤ keyLimit

/-- Writes a key and the colon behind it. -/
def writeKey (indent : Nat) (p : Page) (s : String) : Page :=
  let start := p.indentTo indent
  if isSimpleKey s then
    (writeText (scalarIndent (some indent)) true start s).indicator [':'] false false false
  else
    let written := writeText (scalarIndent (some indent)) false
      (start.indicator ['?'] true false true) s
    (written.indentTo indent).indicator [':'] true false true

/-- Writes a key that is no text and the colon behind it. -/
def writeWordKey (indent : Nat) (p : Page) (s : String) : Page :=
  let start := p.indentTo indent
  if isSimpleKey s then (writeWord start s).indicator [':'] false false false
  else
    let written := writeWord (start.indicator ['?'] true false true) s
    (written.indentTo indent).indicator [':'] true false true

/-- The text of a value that is written as a single word. -/
def word? : Value → Option String
  | .null => some "null"
  | .bool b => some (if b then "true" else "false")
  | .int n => some (toString n)
  | .float x => some (Decimal.Layout.yaml.write x)
  | _ => none

/-- Writes a key of a table and the colon behind it, if the key is a scalar or empty. -/
def writeRowKey? (indent : Nat) (p : Page) (key : Value) : Option Page :=
  match key with
  | .text s => some (writeKey indent p s)
  | .bytes b => some (writeKey indent p (Base64.encode b))
  | .tuple [] =>
    some (((p.indentTo indent).indicator ['[', ']'] true false false).indicator [':'] false false
      false)
  | _ => (word? key).map (writeWordKey indent p)

mutual

/-- Writes a value inside a part with the given indentation; `inRecord` if it is the value of a
field. -/
def writeValue (indent : Option Nat) (inRecord : Bool) (p : Page) (v : Value) : Page :=
  match v with
  | .null => writeWord p "null"
  | .bool b => writeWord p (if b then "true" else "false")
  | .int n => writeWord p (toString n)
  | .float x => writeWord p (Decimal.Layout.yaml.write x)
  | .text s => writeText (scalarIndent indent) false p s
  | .bytes b => writeText (scalarIndent indent) false p (Base64.encode b)
  | .list vs =>
    if vs.isEmpty then p.indicator ['[', ']'] true false false
    else writeItems (deeper (inRecord && !p.indenting) indent) p vs
  | .tuple vs =>
    if vs.isEmpty then p.indicator ['[', ']'] true false false
    else writeItems (deeper (inRecord && !p.indenting) indent) p vs
  | .record fs =>
    if fs.isEmpty then p.indicator ['\x7b', '\x7d'] true false false
    else writeFields (deeper false indent) p fs
  | .table rows =>
    if rows.isEmpty then p.indicator ['\x7b', '\x7d'] true false false
    else writeRows (deeper false indent) p rows
  | .struct _ _ wire => writeValue indent inRecord p wire
termination_by structural v

/-- Writes items at an indentation. -/
def writeItems (indent : Nat) (p : Page) (vs : List Value) : Page :=
  match vs with
  | [] => p
  | v :: vs =>
    let marked := (p.indentTo indent).indicator ['-'] true false true
    writeItems indent (writeValue (some indent) false marked v) vs
termination_by structural vs

/-- Writes fields at an indentation. -/
def writeFields (indent : Nat) (p : Page) (fs : List (String × Value)) : Page :=
  match fs with
  | [] => p
  | (name, v) :: fs =>
    writeFields indent (writeValue (some indent) true (writeKey indent p name) v) fs
termination_by structural fs

/-- Writes the rows of a table at an indentation. -/
def writeRows (indent : Nat) (p : Page) (rows : List (Value × Value)) : Page :=
  match rows with
  | [] => p
  | (key, v) :: rows =>
    let keyed := match writeRowKey? indent p key with
      | some written => written
      | none =>
        let marked := (p.indentTo indent).indicator ['?'] true false true
        ((writeValue (some indent) true marked key).indentTo indent).indicator [':'] true false
          true
    writeRows indent (writeValue (some indent) true keyed v) rows
termination_by structural rows

end

/-- The YAML text of a value. -/
def encode (v : Value) : String :=
  String.ofList ((writeValue none false {} v).breakWith '\n').reversed.reverse

end Workflow.Yaml
