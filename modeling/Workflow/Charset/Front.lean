import Workflow.Charset.Error

/-!
# Decoding from the front

A decoder looks at the front of a byte string and says what stands there: characters, a flaw, or a
piece that the text ends in the middle of.  `decodeWith` goes on from there to the end; a flaw and a
broken end are one undecodable place each.
-/

namespace Workflow.Charset

/-- What stands at the front of a byte string. -/
inductive Front where
  /-- Characters, written with some bytes. -/
  | chars (cs : List Char) (length : Nat)
  /-- Some bytes that have no meaning. -/
  | flawed (length : Nat)
  /-- A piece whose end is missing. -/
  | short
  deriving Repr

/-- A single character. -/
def Front.char (c : Char) (length : Nat) : Front := .chars [c] length

/-- A character, or a single byte without a meaning. -/
def Front.ofChar? (c? : Option Char) (length : Nat) : Front :=
  match c? with
  | some c => .char c length
  | none => .flawed 1

/-- What stands at the front where ASCII characters have one byte and all other ones have two. -/
def doubleByte (char? : Nat → Nat → Option Char) : List UInt8 → Front
  | [] => .short
  | a :: rest =>
    if a < 0x80 then .char (Char.ofNat a.toNat) 1
    else match rest with
      | [] => .short
      | b :: _ => .ofChar? (char? a.toNat b.toNat) 2

/-- The places of a text, `none` where nothing can be decoded. -/
abbrev Places := List (Option Char)

/-- Decodes from a state on.  At most `patience` bytes may wait for the end of a piece, and `steps`
bounds the number of steps. -/
def decodeFrom {σ : Type} (front : σ → List UInt8 → Front × σ) (patience : Nat) :
    Nat → σ → List UInt8 → Except Error Places
  | 0, _, _ => .ok []
  | _, _, [] => .ok []
  | steps + 1, state, bytes =>
    match front state bytes with
    | (.chars cs length, state') =>
      (decodeFrom front patience steps state' (bytes.drop length)).map (cs.map some ++ ·)
    | (.flawed length, state') =>
      (decodeFrom front patience steps state' (bytes.drop length)).map (none :: ·)
    | (.short, _) => if patience < bytes.length then .error .pending else .ok [none]

/-- The number of bytes that may wait for the end of a character. -/
def pendingLimit : Nat := 8

/-- Decodes a byte string from a state on. -/
def decodeWith {σ : Type} (front : σ → List UInt8 → Front × σ) (start : σ) (bytes : List UInt8) :
    Except Error Places :=
  decodeFrom front pendingLimit bytes.length start bytes

/-- Decodes a byte string where nothing need be remembered. -/
def decodeEach (front : List UInt8 → Front) (bytes : List UInt8) : Except Error Places :=
  decodeWith (fun () bs => (front bs, ())) () bytes

/-- Decodes a byte string where nothing need be remembered and any number of bytes may wait. -/
def decodePatiently (front : List UInt8 → Front) (bytes : List UInt8) : Except Error Places :=
  decodeFrom (fun () bs => (front bs, ())) bytes.length bytes.length () bytes

end Workflow.Charset
