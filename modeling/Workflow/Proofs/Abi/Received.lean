import Workflow.Proofs.Abi.Encodings

/-!
# What the receiver of a call gets

A value is not told by its encoding alone: bytes of a fixed size are filled up with zeros, and a
decimal, an address or a sequence may be given as values of more than one kind.  `Codec.received`
is the value that the encoding stands for.  Of two values that are written alike it is the same one
(`Codec.received_eq_of_encode`), and it is written as they are (`Codec.encode_received`).  Nothing
else is lost (`Codec.encode_eq_iff`).

The main step goes through the places of the parts: parts of varying length are told apart by their
offsets, and the others by their lengths, which a codec says.
-/

namespace Workflow

theorem Utf8.encode_inj {s t : String} (h : Utf8.encode s = Utf8.encode t) : s = t := by
  have hbytes : ∀ s : String, s.toByteArray = (Utf8.encode s).toByteArray := by
    intro s
    rw [← String.ofList_toList (s := s), String.toByteArray_ofList, String.ofList_toList]
    rfl
  rw [← String.toByteArray_inj, hbytes, hbytes, h]

namespace Abi

open Outcome

/-! ### What is received -/

mutual

/-- The value that the receiver of a value gets: bytes of a fixed size are filled up, a truth value
for a decimal is its number, an address is a text with lower-case digits, and sequences are lists
for arrays and tuples for tuples. -/
def Codec.received (codec : Codec) (value : Value) : Value :=
  match codec with
  | .ufixed _ _ => (fixedNumber? value).elim value .int
  | .fixed _ _ => (fixedNumber? value).elim value .int
  | .address => (addressBytes? value).elim value fun bs => .text (Hex.ofBytes bs)
  | .fixedBytes size =>
    match value with
    | .bytes bs => .bytes (fill size bs)
    | v => v
  | .sizedArray item _ => value.items?.elim value fun vs => .list (vs.map fun v => item.received v)
  | .openArray item => value.items?.elim value fun vs => .list (vs.map fun v => item.received v)
  | .tuple components => value.items?.elim value fun vs => .tuple (receivedEach components vs)
  | _ => value
termination_by structural codec

/-- The values that the receiver of some values gets. -/
def receivedEach (codecs : List Codec) (values : List Value) : List Value :=
  match codecs with
  | [] => values
  | c :: cs =>
    match values with
    | [] => []
    | v :: vs => c.received v :: receivedEach cs vs
termination_by structural codecs

end

/-! ### Telling values apart -/

theorem fill_inj {size more : Nat} (hle : size ≤ more) {bs bs' : List UInt8}
    (h : bs.length ≤ size) (h' : bs'.length ≤ size) (heq : fill more bs = fill more bs') :
    fill size bs = fill size bs' := by
  rw [← fill_fill h hle, ← fill_fill h' hle] at heq
  exact (List.append_inj heq ((length_fill h).trans (length_fill h').symm)).1

theorem prefixed_inj {data data' bs : List UInt8} (h : prefixed data = .ok bs)
    (h' : prefixed data' = .ok bs) : data = data' := by
  obtain ⟨hlt, rfl⟩ := prefixed_eq_ok_iff.mp h
  obtain ⟨hlt', heq⟩ := prefixed_eq_ok_iff.mp h'
  obtain ⟨hword, hpadded⟩ := List.append_inj heq (by rw [length_word, length_word])
  exact (List.append_inj hpadded (word_inj hlt' hlt hword)).1.symm

theorem inUnits_inj {places : Nat} {m n : Int} (h : inUnits m places = inUnits n places) :
    m = n := by
  rw [inUnits, inUnits, Nat.pow_eq] at h
  exact Int.eq_of_mul_eq_mul_right (by positivity) h

/-- Values with the same encodings are received alike. -/
theorem map_received_eq {item : Codec} {vs ws : List Value} {parts : List (List UInt8)}
    (hitem : ∀ v w bs, item.encode v = .ok bs → item.encode w = .ok bs →
      item.received v = item.received w)
    (h : vs.mapM item.encode = .ok parts) (h' : ws.mapM item.encode = .ok parts) :
    vs.map item.received = ws.map item.received := by
  have hall := mapM_eq_ok_iff.mp h
  have hall' := mapM_eq_ok_iff.mp h'
  clear h h'
  induction hall generalizing ws with
  | nil =>
    obtain rfl := List.forall₂_nil_right_iff.mp hall'
    rfl
  | cons hv _ ih =>
    obtain ⟨w, ws, hw, hws, rfl⟩ := List.forall₂_cons_right_iff.mp hall'
    rw [List.map_cons, List.map_cons, hitem _ _ _ hv hw, ih hws]

theorem itemParts_inj {item : Codec} {parts parts' : List (List UInt8)}
    (h : itemParts item parts = itemParts item parts') : parts = parts' :=
  List.map_injective_iff.mpr (fun _ _ heq => (Prod.mk.inj heq).2) h

section

variable {item : Codec} {v : Value} {vs : List Value}

theorem received_sizedArray (length : Nat) (h : v.items? = some vs) :
    (Codec.sizedArray item length).received v = .list (vs.map item.received) := by
  rw [Codec.received, h]
  rfl

theorem received_openArray (h : v.items? = some vs) :
    (Codec.openArray item).received v = .list (vs.map item.received) := by
  rw [Codec.received, h]
  rfl

theorem received_tuple {components : List Codec} (h : v.items? = some vs) :
    (Codec.tuple components).received v = .tuple (receivedEach components vs) := by
  rw [Codec.received, h]
  rfl

theorem received_ufixed (bits places : Nat) {n : Int} (h : fixedNumber? v = some n) :
    (Codec.ufixed bits places).received v = .int n := by
  rw [Codec.received, h]
  rfl

theorem received_fixed (bits places : Nat) {n : Int} (h : fixedNumber? v = some n) :
    (Codec.fixed bits places).received v = .int n := by
  rw [Codec.received, h]
  rfl

theorem received_address {bs : List UInt8} (h : addressBytes? v = some bs) :
    Codec.address.received v = .text (Hex.ofBytes bs) := by
  rw [Codec.received, h]
  rfl

end

/-- The bounds of the integers of some width without sign lie in one window of a word. -/
theorem window_of_unsigned {bits : Nat} (hbits : bits ≤ 256) {n : Int}
    (h : 0 ≤ n ∧ n ≤ greatestUnsigned bits) : (0 : Int) ≤ n ∧ n < 0 + 2 ^ 256 := by
  have hle : (2 : Int) ^ bits ≤ 2 ^ 256 := pow_le_pow_right₀ (by norm_num) hbits
  have hgreatest : greatestUnsigned bits = 2 ^ bits - 1 := by
    rw [greatestUnsigned, Nat.pow_eq]
    push_cast
    rfl
  omega

theorem window_of_signed {bits : Nat} (hbits : bits ≤ 256) {n : Int}
    (h : leastSigned bits ≤ n ∧ n ≤ greatestSigned bits) :
    -(2 : Int) ^ 255 ≤ n ∧ n < -2 ^ 255 + 2 ^ 256 := by
  have hle : (2 : Int) ^ (bits - 1) ≤ 2 ^ 255 := pow_le_pow_right₀ (by norm_num) (by omega)
  have hleast : leastSigned bits = -2 ^ (bits - 1) := by
    rw [leastSigned, Nat.pow_eq]
    push_cast
    rfl
  have hgreatest : greatestSigned bits = 2 ^ (bits - 1) - 1 := by
    rw [greatestSigned, Nat.pow_eq]
    push_cast
    rfl
  omega

mutual

/-- What is written says what is received. -/
theorem Codec.received_eq_of_encode (codec : Codec) (hcodec : codec.Bounded) {v w : Value}
    {bs : List UInt8} (h : codec.encode v = .ok bs) (h' : codec.encode w = .ok bs) :
    codec.received v = codec.received w := by
  match codec, hcodec with
  | .uint _, .uint hbits =>
    obtain ⟨m, rfl, hm, rfl⟩ := encode_uint_eq_ok_iff.mp h
    obtain ⟨n, rfl, hn, heq⟩ := encode_uint_eq_ok_iff.mp h'
    rw [signedWord_inj (window_of_unsigned hbits hn) (window_of_unsigned hbits hm) heq]
  | .int _, .int hbits =>
    obtain ⟨m, rfl, hm, rfl⟩ := encode_int_eq_ok_iff.mp h
    obtain ⟨n, rfl, hn, heq⟩ := encode_int_eq_ok_iff.mp h'
    rw [signedWord_inj (window_of_signed hbits hn) (window_of_signed hbits hm) heq]
  | .ufixed bits places, .ufixed hbits =>
    obtain ⟨m, hv, hm, rfl⟩ := encode_ufixed_eq_ok_iff.mp h
    obtain ⟨n, hw, hn, heq⟩ := encode_ufixed_eq_ok_iff.mp h'
    have hunits := signedWord_inj (window_of_unsigned hbits hn) (window_of_unsigned hbits hm) heq
    rw [received_ufixed bits places hv, received_ufixed bits places hw, inUnits_inj hunits]
  | .fixed bits places, .fixed hbits =>
    obtain ⟨m, hv, hm, rfl⟩ := encode_fixed_eq_ok_iff.mp h
    obtain ⟨n, hw, hn, heq⟩ := encode_fixed_eq_ok_iff.mp h'
    have hunits := signedWord_inj (window_of_signed hbits hn) (window_of_signed hbits hm) heq
    rw [received_fixed bits places hv, received_fixed bits places hw, inUnits_inj hunits]
  | .bool, _ =>
    obtain ⟨a, rfl, rfl⟩ := encode_bool_eq_ok_iff.mp h
    obtain ⟨b, rfl, heq⟩ := encode_bool_eq_ok_iff.mp h'
    have hlt : ∀ b : Bool, (if b then 1 else 0) < 2 ^ 256 := by decide
    have hnumbers : ∀ a b : Bool, (if b then 1 else 0) = (if a then 1 else 0) → a = b := by decide
    rw [hnumbers a b (word_inj (hlt b) (hlt a) heq)]
  | .address, _ =>
    obtain ⟨data, hv, rfl⟩ := encode_address_eq_ok_iff.mp h
    obtain ⟨data', hw, heq⟩ := encode_address_eq_ok_iff.mp h'
    rw [received_address hv, received_address hw, List.append_cancel_left heq]
  | .fixedBytes size, .fixedBytes hsize =>
    obtain ⟨data, rfl, hle, rfl⟩ := encode_fixedBytes_eq_ok_iff.mp h
    obtain ⟨data', rfl, hle', heq⟩ := encode_fixedBytes_eq_ok_iff.mp h'
    exact congrArg Value.bytes (fill_inj hsize hle hle' heq.symm)
  | .bytes, _ =>
    obtain ⟨data, rfl, h⟩ := encode_byteString_eq_ok_iff.mp h
    obtain ⟨data', rfl, h'⟩ := encode_byteString_eq_ok_iff.mp h'
    rw [prefixed_inj h h']
  | .string, _ =>
    obtain ⟨s, rfl, h⟩ := encode_string_eq_ok_iff.mp h
    obtain ⟨t, rfl, h'⟩ := encode_string_eq_ok_iff.mp h'
    rw [Utf8.encode_inj (prefixed_inj h h')]
  | .sizedArray item length, .sizedArray hitem =>
    obtain ⟨vs, parts, hv, hparts, hlength, h⟩ := encode_sizedArray_eq_ok_iff.mp h
    obtain ⟨ws, parts', hw, hparts', hlength', h'⟩ := encode_sizedArray_eq_ok_iff.mp h'
    -- The numbers of items agree, so the parts have the same places and can be told apart.
    have hlayout := sameLayout_itemParts
      (fun hstatic _ _ _ _ => item.length_eq_of_static hitem hstatic)
      (hlength.trans hlength'.symm) hparts hparts'
    obtain rfl := itemParts_inj (assemble_inj hlayout h h')
    rw [received_sizedArray length hv, received_sizedArray length hw,
      map_received_eq (fun _ _ _ => item.received_eq_of_encode hitem) hparts hparts']
  | .openArray item, .openArray hitem =>
    obtain ⟨vs, parts, rest, hv, hparts, hlt, hrest, rfl⟩ := encode_openArray_eq_ok_iff.mp h
    obtain ⟨ws, parts', rest', hw, hparts', hlt', hrest', heq⟩ := encode_openArray_eq_ok_iff.mp h'
    -- Here it is the first word that gives the number of items.
    obtain ⟨hcount, rfl⟩ := List.append_inj heq (by rw [length_word, length_word])
    have hlayout := sameLayout_itemParts
      (fun hstatic _ _ _ _ => item.length_eq_of_static hitem hstatic)
      (word_inj hlt hlt' hcount.symm) hparts hparts'
    obtain rfl := itemParts_inj (assemble_inj hlayout hrest hrest')
    rw [received_openArray hv, received_openArray hw,
      map_received_eq (fun _ _ _ => item.received_eq_of_encode hitem) hparts hparts']
  | .tuple components, .tuple hcomponents =>
    obtain ⟨vs, parts, hv, hlength, hparts, h⟩ := encode_tuple_eq_ok_iff.mp h
    obtain ⟨ws, parts', hw, hlength', hparts', h'⟩ := encode_tuple_eq_ok_iff.mp h'
    have hlayout := sameLayout_of_encodeEach components hcomponents hlength hlength' hparts hparts'
    obtain rfl := assemble_inj hlayout h h'
    rw [received_tuple hv, received_tuple hw,
      receivedEach_eq_of_encodeEach components hcomponents hlength hlength' hparts hparts']

theorem receivedEach_eq_of_encodeEach (codecs : List Codec) (hcodecs : ∀ c ∈ codecs, c.Bounded)
    {vs ws : List Value} {parts : List (Bool × List UInt8)} (hlength : vs.length = codecs.length)
    (hlength' : ws.length = codecs.length) (h : encodeEach codecs vs = .ok parts)
    (h' : encodeEach codecs ws = .ok parts) : receivedEach codecs vs = receivedEach codecs ws := by
  match codecs, vs, ws with
  | [], [], [] => rfl
  | c :: cs, v :: vs, w :: ws =>
    obtain ⟨hc, hcs⟩ := List.forall_mem_cons.mp hcodecs
    obtain ⟨bs, rest, hv, hvs, rfl⟩ := encodeEach_cons_eq_ok_iff.mp h
    obtain ⟨bs', rest', hw, hws, heq⟩ := encodeEach_cons_eq_ok_iff.mp h'
    obtain ⟨hfirst, rfl⟩ := List.cons.inj heq
    obtain ⟨-, rfl⟩ := Prod.mk.inj hfirst
    rw [receivedEach, receivedEach, c.received_eq_of_encode hc hv hw,
      receivedEach_eq_of_encodeEach cs hcs (Nat.succ.inj hlength) (Nat.succ.inj hlength') hvs hws]

end

/-! ### Writing what is received -/

theorem addressBytes?_ofBytes {bs : List UInt8} (h : bs.length = 20) :
    addressBytes? (.text (Hex.ofBytes bs)) = some bs := by
  have hdigits : Hex.unmarked (Hex.ofBytes bs).toList = Hex.encode bs := by
    rw [Hex.toList_ofBytes, Hex.unmarked_marked]
  have haddress : HasAddressDigits (Hex.ofBytes bs) := by
    rw [hasAddressDigits_iff, hdigits]
    exact ⟨by rw [Hex.length_encode, h], Hex.arePairs_encode bs⟩
  refine addressBytes?_text_eq_some_iff.mpr ⟨haddress, ?_⟩
  rw [Hex.bytesIn, Hex.toBytes_ofBytes]
  rfl

theorem mapM_encode_received {item : Codec} {vs : List Value} {parts : List (List UInt8)}
    (hitem : ∀ v bs, item.encode v = .ok bs → item.encode (item.received v) = .ok bs)
    (h : vs.mapM item.encode = .ok parts) :
    (vs.map item.received).mapM item.encode = .ok parts := by
  rw [mapM_eq_ok_iff] at h ⊢
  exact List.forall₂_map_left_iff.mpr (h.imp fun v bs hv => hitem v bs hv)

theorem length_receivedEach (codecs : List Codec) (vs : List Value) :
    (receivedEach codecs vs).length = vs.length := by
  induction codecs generalizing vs with
  | nil => rfl
  | cons c cs ih =>
    cases vs with
    | nil => rfl
    | cons v vs => rw [receivedEach, List.length_cons, List.length_cons, ih]

mutual

/-- What is received is written as the value that it comes from. -/
theorem Codec.encode_received (codec : Codec) (hcodec : codec.Bounded) {v : Value}
    {bs : List UInt8} (h : codec.encode v = .ok bs) : codec.encode (codec.received v) = .ok bs := by
  -- By recursion on the codec.  Numbers with places, addresses and padded bytes are what changes on
  -- the way; arrays and tuples pass on what changes in their items.
  match codec, hcodec with
  | .uint _, _ => exact h
  | .int _, _ => exact h
  | .bool, _ => exact h
  | .bytes, _ => exact h
  | .string, _ => exact h
  | .ufixed bits places, _ =>
    obtain ⟨n, hv, hn⟩ := encode_ufixed_eq_ok_iff.mp h
    rw [received_ufixed bits places hv]
    exact encode_ufixed_eq_ok_iff.mpr ⟨n, rfl, hn⟩
  | .fixed bits places, _ =>
    obtain ⟨n, hv, hn⟩ := encode_fixed_eq_ok_iff.mp h
    rw [received_fixed bits places hv]
    exact encode_fixed_eq_ok_iff.mpr ⟨n, rfl, hn⟩
  | .address, _ =>
    obtain ⟨data, hv, rfl⟩ := encode_address_eq_ok_iff.mp h
    rw [received_address hv]
    exact encode_address_eq_ok_iff.mpr
      ⟨data, addressBytes?_ofBytes (length_of_addressBytes hv), rfl⟩
  | .fixedBytes size, .fixedBytes hsize =>
    obtain ⟨data, rfl, hle, rfl⟩ := encode_fixedBytes_eq_ok_iff.mp h
    exact encode_fixedBytes_eq_ok_iff.mpr
      ⟨fill size data, rfl, (length_fill hle).le, fill_fill hle hsize⟩
  | .sizedArray item length, .sizedArray hitem =>
    obtain ⟨vs, parts, hv, hparts, hlength, hbs⟩ := encode_sizedArray_eq_ok_iff.mp h
    rw [received_sizedArray length hv]
    refine encode_sizedArray_eq_ok_iff.mpr ⟨_, parts, rfl, ?_, ?_, hbs⟩
    · exact mapM_encode_received (fun _ _ => item.encode_received hitem) hparts
    · rw [List.length_map, hlength]
  | .openArray item, .openArray hitem =>
    obtain ⟨vs, parts, rest, hv, hparts, hlt, hrest, rfl⟩ := encode_openArray_eq_ok_iff.mp h
    rw [received_openArray hv]
    refine encode_openArray_eq_ok_iff.mpr ⟨_, parts, rest, rfl, ?_, ?_, hrest, ?_⟩
    · exact mapM_encode_received (fun _ _ => item.encode_received hitem) hparts
    · rwa [List.length_map]
    · rw [List.length_map]
  | .tuple components, .tuple hcomponents =>
    obtain ⟨vs, parts, hv, hlength, hparts, hbs⟩ := encode_tuple_eq_ok_iff.mp h
    rw [received_tuple hv]
    refine encode_tuple_eq_ok_iff.mpr ⟨_, parts, rfl, ?_, ?_, hbs⟩
    · rw [length_receivedEach, hlength]
    · exact encodeEach_receivedEach components hcomponents hparts

theorem encodeEach_receivedEach (codecs : List Codec) (hcodecs : ∀ c ∈ codecs, c.Bounded)
    {vs : List Value} {parts : List (Bool × List UInt8)} (h : encodeEach codecs vs = .ok parts) :
    encodeEach codecs (receivedEach codecs vs) = .ok parts := by
  match codecs, vs with
  | [], _ => exact h
  | _ :: _, [] => exact h
  | c :: cs, v :: vs =>
    obtain ⟨hc, hcs⟩ := List.forall_mem_cons.mp hcodecs
    obtain ⟨bs, rest, hv, hvs, rfl⟩ := encodeEach_cons_eq_ok_iff.mp h
    exact encodeEach_cons_eq_ok_iff.mpr
      ⟨bs, rest, c.encode_received hc hv, encodeEach_receivedEach cs hcs hvs, rfl⟩

end

/-- Two values are written alike exactly if they are received alike. -/
theorem Codec.encode_eq_iff (codec : Codec) (hcodec : codec.Bounded) {v w : Value}
    {bs bs' : List UInt8} (h : codec.encode v = .ok bs) (h' : codec.encode w = .ok bs') :
    bs = bs' ↔ codec.received v = codec.received w := by
  constructor
  · rintro rfl
    exact codec.received_eq_of_encode hcodec h h'
  · intro heq
    have hv := codec.encode_received hcodec h
    rw [heq, codec.encode_received hcodec h'] at hv
    exact (Except.ok.inj hv).symm

end Abi

end Workflow
