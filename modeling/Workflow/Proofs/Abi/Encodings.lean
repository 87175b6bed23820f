import Workflow.Proofs.Abi.Layout
import Workflow.Proofs.Call.Bytes

/-!
# What codecs write

The sizes in a codec that a type text names are bounded (`bounded_of_ofText`).  A codec writes the
values that it takes and refuses all others: for each kind of codec there is a lemma that says which
values these are and what is written.  Of a bounded codec whose length does not vary, all values are
written to the same number of bytes (`Codec.length_eq_of_static`), so that values of the same codecs
are written to the same places (`sameLayout_of_encodeEach`).
-/

namespace Workflow.Abi

open Outcome

/-! ### Bytes of a fixed size -/

/-- Bytes filled up with zeros to a size. -/
def fill (size : Nat) (bs : List UInt8) : List UInt8 :=
  bs ++ List.replicate (size - bs.length) 0

theorem length_fill {size : Nat} {bs : List UInt8} (h : bs.length ≤ size) :
    (fill size bs).length = size := by
  rw [fill, List.length_append, List.length_replicate]
  omega

/-- Bytes may be filled up in two steps. -/
theorem fill_fill {size more : Nat} {bs : List UInt8} (h : bs.length ≤ size) (hle : size ≤ more) :
    fill more (fill size bs) = fill more bs := by
  have hzeros : more - bs.length = (size - bs.length) + (more - size) := by omega
  rw [fill, length_fill h, fill, fill, hzeros, List.replicate_add, List.append_assoc]

/-! ### Addresses -/

theorem addressDigits?_eq_some_iff {s : String} {digits : List Char} :
    addressDigits? s = some digits ↔ HasAddressDigits s ∧ Hex.unmarked s.toList = digits := by
  have hvalid : ((Hex.unmarked s.toList).length == 40 && (Hex.unmarked s.toList).all Hex.isDigit)
      = true ↔ HasAddressDigits s := by
    rw [Bool.and_eq_true, beq_iff_eq, List.all_eq_true, hasAddressDigits_iff]
    exact and_congr_right fun hlen => ⟨fun hall => ⟨by rw [hlen], hall⟩, fun hpairs => hpairs.2⟩
  rw [addressDigits?, ← hvalid]
  split_ifs with h
  · rw [Option.some.injEq]
    exact (and_iff_right h).symm
  · exact iff_of_false (by rintro ⟨⟩) fun hdigits => h hdigits.1

theorem addressBytes?_text_eq_some_iff {s : String} {bs : List UInt8} :
    addressBytes? (.text s) = some bs ↔ HasAddressDigits s ∧ Hex.bytesIn s = bs := by
  rw [addressBytes?, Option.bind_eq_some_iff]
  constructor
  · rintro ⟨digits, hdigits, hbytes⟩
    obtain ⟨h, rfl⟩ := addressDigits?_eq_some_iff.mp hdigits
    have hread : Hex.decode (Hex.unmarked s.toList) = _ := Hex.toBytes_of_arePairs h.arePairs
    rw [hread] at hbytes
    exact ⟨h, Option.some.inj hbytes⟩
  · rintro ⟨h, rfl⟩
    have hread : Hex.decode (Hex.unmarked s.toList) = _ := Hex.toBytes_of_arePairs h.arePairs
    exact ⟨_, addressDigits?_eq_some_iff.mpr ⟨h, rfl⟩, by rw [hread]; rfl⟩

theorem encode_address_eq_ok_iff {v : Value} {part : List UInt8} :
    Codec.address.encode v = .ok part ↔
      ∃ bs, addressBytes? v = some bs ∧ List.replicate 12 0 ++ bs = part := by
  rw [Codec.encode]
  cases addressBytes? v with
  | none =>
    constructor
    · intro h
      cases h
    · rintro ⟨_, h, -⟩
      cases h
  | some bs =>
    constructor
    · exact fun h => ⟨bs, rfl, Except.ok.inj h⟩
    · rintro ⟨bs', hbs, rfl⟩
      obtain rfl := Option.some.inj hbs
      rfl

theorem length_of_addressBytes {v : Value} {bs : List UInt8} (h : addressBytes? v = some bs) :
    bs.length = 20 := by
  cases v with
  | text s =>
    obtain ⟨hdigits, rfl⟩ := addressBytes?_text_eq_some_iff.mp h
    exact hdigits.length_bytesIn
  | bytes data =>
    rw [addressBytes?] at h
    split_ifs at h with hlength
    rwa [← Option.some.inj h]
  | _ => cases h

/-! ### Bounds -/

/-- A codec whose numbers and bytes of a fixed size do not go beyond a word. -/
inductive Codec.Bounded : Codec → Prop where
  | uint {bits : Nat} (h : bits ≤ 256) : Bounded (.uint bits)
  | int {bits : Nat} (h : bits ≤ 256) : Bounded (.int bits)
  | ufixed {bits places : Nat} (h : bits ≤ 256) : Bounded (.ufixed bits places)
  | fixed {bits places : Nat} (h : bits ≤ 256) : Bounded (.fixed bits places)
  | bool : Bounded .bool
  | address : Bounded .address
  | fixedBytes {size : Nat} (h : size ≤ 32) : Bounded (.fixedBytes size)
  | bytes : Bounded .bytes
  | string : Bounded .string
  | sizedArray {item : Codec} {length : Nat} (h : item.Bounded) : Bounded (.sizedArray item length)
  | openArray {item : Codec} (h : item.Bounded) : Bounded (.openArray item)
  | tuple {components : List Codec} (h : ∀ c ∈ components, c.Bounded) :
    Bounded (.tuple components)

theorem Codec.Bounded.withDims {codec : Codec} (h : codec.Bounded) (dims : List Dimension) :
    (codec.withDims dims).Bounded := by
  induction dims generalizing codec with
  | nil => exact h
  | cons dimension dims ih =>
    cases dimension with
    | sized n => exact ih (.sizedArray h)
    | «open» => exact ih (.openArray h)

theorem le_of_bounds {n : Nat} {rule : SizeRule} {more : Option SizeRule}
    (h : (if n < 8 || 256 < n then some rule else more) = none) : n ≤ 256 := by
  split_ifs at h with hbounds
  rw [Bool.or_eq_true, decide_eq_true_eq, decide_eq_true_eq, not_or] at hbounds
  omega

/-- A base whose size passes the check has a bounded codec, if any. -/
theorem bounded_of_baseCodec {base : String} {size : Size} {codec : Codec}
    (hsize : brokenRule? base size = none) (h : baseCodec base size = .ok codec) :
    codec.Bounded := by
  unfold baseCodec at h
  split at h
  · obtain rfl := Except.ok.inj h
    exact .uint (le_of_bounds hsize)
  · obtain rfl := Except.ok.inj h
    exact .int (le_of_bounds hsize)
  · obtain rfl := Except.ok.inj h
    exact .ufixed (le_of_bounds hsize)
  · obtain rfl := Except.ok.inj h
    exact .fixed (le_of_bounds hsize)
  · obtain rfl := Except.ok.inj h
    exact .address
  · obtain rfl := Except.ok.inj h
    exact .bool
  · obtain rfl := Except.ok.inj h
    exact .string
  · obtain rfl := Except.ok.inj h
    exact .bytes
  · next n =>
    obtain rfl := Except.ok.inj h
    have hsize : (if 32 < n then some SizeRule.bytesMaximum else none) = none := hsize
    split_ifs at hsize with hlimit
    exact .fixedBytes (Nat.not_lt.mp hlimit)
  · cases h
  · cases h

mutual

theorem Ty.bounded_of_codec (t : Ty) {whole : String} {column : Nat} {codec : Codec}
    (hsizes : t.checkSizes whole column = .ok ()) (h : t.codec = .ok codec) : codec.Bounded := by
  match t with
  | .basic base size dims =>
    rw [Ty.checkSizes] at hsizes
    split at hsizes
    · cases hsizes
    · next hrule =>
      obtain ⟨c, hc, rfl⟩ := map_eq_ok_iff.mp h
      exact (bounded_of_baseCodec hrule hc).withDims dims
  | .tuple components dims =>
    obtain ⟨cs, hcs, rfl⟩ := map_eq_ok_iff.mp h
    exact (Codec.Bounded.tuple (bounded_of_codecs components hsizes hcs)).withDims dims

theorem bounded_of_codecs (ts : List Ty) {whole : String} {column : Nat} {cs : List Codec}
    (hsizes : checkSizesAll whole column ts = .ok ()) (h : codecs ts = .ok cs) :
    ∀ c ∈ cs, c.Bounded := by
  match ts with
  | [] =>
    obtain rfl := Except.ok.inj h
    exact fun c hc => absurd hc List.not_mem_nil
  | t :: ts =>
    rw [checkSizesAll] at hsizes
    rw [codecs] at h
    split at hsizes
    · cases hsizes
    · next hfirst =>
      split at h
      · cases h
      · next c hc =>
        obtain ⟨rest, hrest, rfl⟩ := map_eq_ok_iff.mp h
        exact List.forall_mem_cons.mpr
          ⟨t.bounded_of_codec hfirst hc, bounded_of_codecs ts hsizes hrest⟩

end

theorem Codec.ofTy_eq_ok {t : Ty} {codec : Codec} (h : Codec.ofTy t = .ok codec) :
    t.checkSizes t.render 1 = .ok () ∧ t.codec = .ok codec := by
  rw [Codec.ofTy] at h
  split at h
  · cases h
  · split at h
    · cases h
    · next hsizes => exact ⟨hsizes, h⟩

theorem Codec.ofText_eq_ok {s : String} {codec : Codec} (h : Codec.ofText s = .ok codec) :
    ∃ t, Ty.parse s = .ok t ∧ Codec.ofTy t.full = .ok codec := by
  rw [Codec.ofText] at h
  split at h
  · cases h
  · next t ht => exact ⟨t, ht, h⟩

theorem bounded_of_ofText {s : String} {codec : Codec} (h : Codec.ofText s = .ok codec) :
    codec.Bounded := by
  obtain ⟨t, -, ht⟩ := Codec.ofText_eq_ok h
  obtain ⟨hsizes, hcodec⟩ := Codec.ofTy_eq_ok ht
  exact t.full.bounded_of_codec hsizes hcodec

theorem codecsOfTexts_eq_ok_iff {types : List String} {codecs : List Codec} :
    codecsOfTexts types = .ok codecs ↔
      List.Forall₂ (fun type codec => Codec.ofText type = .ok codec) types codecs := by
  induction types generalizing codecs with
  | nil =>
    rw [codecsOfTexts, List.forall₂_nil_left_iff, Except.ok.injEq]
    exact eq_comm
  | cons type types ih =>
    rw [codecsOfTexts, bind_eq_ok_iff, List.forall₂_cons_left_iff]
    constructor
    · rintro ⟨c, hc, h⟩
      obtain ⟨cs, hcs, h⟩ := bind_eq_ok_iff.mp h
      exact ⟨c, cs, hc, ih.mp hcs, (Except.ok.inj h).symm⟩
    · rintro ⟨c, cs, hc, hcs, rfl⟩
      exact ⟨c, hc, bind_eq_ok_iff.mpr ⟨cs, ih.mpr hcs, rfl⟩⟩

theorem length_codecsOfTexts {types : List String} {codecs : List Codec}
    (h : codecsOfTexts types = .ok codecs) : codecs.length = types.length :=
  (codecsOfTexts_eq_ok_iff.mp h).length_eq.symm

theorem bounded_of_codecsOfTexts {types : List String} {codecs : List Codec}
    (h : codecsOfTexts types = .ok codecs) : ∀ c ∈ codecs, c.Bounded := by
  intro c hc
  obtain ⟨i, hi, rfl⟩ := List.mem_iff_getElem.mp hc
  have hall := codecsOfTexts_eq_ok_iff.mp h
  exact bounded_of_ofText (hall.get (by rw [hall.length_eq]; exact hi) hi)

/-! ### Values and their encodings -/

theorem refuse_ne_ok {α : Type} {v : Value} {e : ValueError} {a : α} : refuse v e ≠ .ok a := by
  intro h
  cases h

section

variable {v : Value} {bs : List UInt8}

/-- A number within bounds is written, and no other one is. -/
theorem map_checkBounds_eq_ok_iff {n lower upper : Int} {encoder : String} {bits places : Nat}
    {w : List UInt8} :
    ((checkBounds v n lower upper encoder bits places).map fun _ => w) = .ok bs ↔
      (lower ≤ n ∧ n ≤ upper) ∧ w = bs := by
  rw [map_eq_ok_iff, ← checkBounds_eq_ok_iff]
  constructor
  · rintro ⟨_, h⟩
    exact h
  · exact fun h => ⟨(), h⟩

theorem encode_uint_eq_ok_iff {bits : Nat} :
    (Codec.uint bits).encode v = .ok bs ↔
      ∃ n, v = .int n ∧ (0 ≤ n ∧ n ≤ greatestUnsigned bits) ∧ signedWord n = bs := by
  cases v with
  | int n =>
    rw [Codec.encode, map_checkBounds_eq_ok_iff]
    simp only [Value.int.injEq, exists_eq_left']
  | _ => exact iff_of_false refuse_ne_ok (by rintro ⟨_, ⟨⟩, -⟩)

theorem encode_uint_of_lt {n : Nat} (h : n < 2 ^ 256) :
    (Codec.uint 256).encode (.int n) = .ok (word n) :=
  encode_uint_eq_ok_iff.mpr ⟨n, rfl, (le_greatestUnsigned_iff n).mpr h, signedWord_natCast h⟩

theorem encode_int_eq_ok_iff {bits : Nat} :
    (Codec.int bits).encode v = .ok bs ↔
      ∃ n, v = .int n ∧ (leastSigned bits ≤ n ∧ n ≤ greatestSigned bits) ∧ signedWord n = bs := by
  cases v with
  | int n =>
    rw [Codec.encode, map_checkBounds_eq_ok_iff]
    simp only [Value.int.injEq, exists_eq_left']
  | _ => exact iff_of_false refuse_ne_ok (by rintro ⟨_, ⟨⟩, -⟩)

theorem encode_ufixed_eq_ok_iff {bits places : Nat} :
    (Codec.ufixed bits places).encode v = .ok bs ↔
      ∃ n, fixedNumber? v = some n ∧
        (0 ≤ inUnits n places ∧ inUnits n places ≤ greatestUnsigned bits) ∧
        signedWord (inUnits n places) = bs := by
  rw [Codec.encode]
  cases fixedNumber? v with
  | some n => simp only [map_checkBounds_eq_ok_iff, Option.some.injEq, exists_eq_left']
  | none => exact iff_of_false refuse_ne_ok (by rintro ⟨_, ⟨⟩, -⟩)

theorem encode_fixed_eq_ok_iff {bits places : Nat} :
    (Codec.fixed bits places).encode v = .ok bs ↔
      ∃ n, fixedNumber? v = some n ∧
        (leastSigned bits ≤ inUnits n places ∧ inUnits n places ≤ greatestSigned bits) ∧
        signedWord (inUnits n places) = bs := by
  rw [Codec.encode]
  cases fixedNumber? v with
  | some n => simp only [map_checkBounds_eq_ok_iff, Option.some.injEq, exists_eq_left']
  | none => exact iff_of_false refuse_ne_ok (by rintro ⟨_, ⟨⟩, -⟩)

theorem encode_bool_eq_ok_iff :
    Codec.bool.encode v = .ok bs ↔ ∃ b, v = .bool b ∧ word (if b then 1 else 0) = bs := by
  cases v with
  | bool b =>
    rw [Codec.encode, Except.ok.injEq]
    simp only [Value.bool.injEq, exists_eq_left']
  | _ => exact iff_of_false refuse_ne_ok (by rintro ⟨_, ⟨⟩, -⟩)

theorem encode_fixedBytes_eq_ok_iff {size : Nat} :
    (Codec.fixedBytes size).encode v = .ok bs ↔
      ∃ data, v = .bytes data ∧ data.length ≤ size ∧
        fill 32 data = bs := by
  cases v with
  | bytes data =>
    rw [Codec.encode]
    simp only [Value.bytes.injEq, exists_eq_left']
    split_ifs with hlength
    · exact iff_of_false refuse_ne_ok fun h => absurd h.1 (Nat.not_le.mpr hlength)
    · rw [Except.ok.injEq]
      exact (and_iff_right (Nat.not_lt.mp hlength)).symm
  | _ => exact iff_of_false refuse_ne_ok (by rintro ⟨_, ⟨⟩, -⟩)

theorem prefixed_eq_ok_iff {data : List UInt8} :
    prefixed data = .ok bs ↔
      data.length < 2 ^ 256 ∧ word data.length ++ padRight data = bs := by
  rw [prefixed, map_eq_ok_iff]
  constructor
  · rintro ⟨length, hlength, rfl⟩
    obtain ⟨hlt, rfl⟩ := sizeWord_eq_ok_iff.mp hlength
    exact ⟨hlt, rfl⟩
  · rintro ⟨hlt, rfl⟩
    exact ⟨_, sizeWord_eq_ok_iff.mpr ⟨hlt, rfl⟩, rfl⟩

theorem encode_byteString_eq_ok_iff :
    Codec.bytes.encode v = .ok bs ↔ ∃ data, v = .bytes data ∧ prefixed data = .ok bs := by
  cases v with
  | bytes data =>
    rw [Codec.encode]
    simp only [Value.bytes.injEq, exists_eq_left']
  | _ => exact iff_of_false refuse_ne_ok (by rintro ⟨_, ⟨⟩, -⟩)

theorem encode_bytes_eq_ok_iff {data : List UInt8} :
    Codec.bytes.encode (.bytes data) = .ok bs ↔
      data.length < 2 ^ 256 ∧ word data.length ++ padRight data = bs := by
  rw [Codec.encode, prefixed_eq_ok_iff]

theorem encode_string_eq_ok_iff :
    Codec.string.encode v = .ok bs ↔ ∃ s, v = .text s ∧ prefixed (Utf8.encode s) = .ok bs := by
  cases v with
  | text s =>
    rw [Codec.encode]
    simp only [Value.text.injEq, exists_eq_left']
  | _ => exact iff_of_false refuse_ne_ok (by rintro ⟨_, ⟨⟩, -⟩)

/-- The parts of an array. -/
def itemParts (item : Codec) (parts : List (List UInt8)) : List (Bool × List UInt8) :=
  parts.map (item.isDynamic, ·)

theorem encode_sizedArray_eq_ok_iff {item : Codec} {length : Nat} :
    (Codec.sizedArray item length).encode v = .ok bs ↔
      ∃ vs parts, v.items? = some vs ∧ vs.mapM item.encode = .ok parts ∧ vs.length = length ∧
        assemble (itemParts item parts) = .ok bs := by
  rw [Codec.encode]
  cases v.items? with
  | none => exact iff_of_false refuse_ne_ok (by rintro ⟨_, _, ⟨⟩, -⟩)
  | some vs =>
    simp only [Option.some.injEq, exists_and_left, exists_eq_left']
    cases vs.mapM item.encode with
    | error e => exact iff_of_false (by rintro ⟨⟩) (by rintro ⟨_, ⟨⟩, -⟩)
    | ok parts =>
      simp only [Except.ok.injEq, exists_eq_left']
      split_ifs with hlength
      · exact (and_iff_right hlength).symm
      · exact iff_of_false refuse_ne_ok fun h => hlength h.1

theorem encode_openArray_eq_ok_iff {item : Codec} :
    (Codec.openArray item).encode v = .ok bs ↔
      ∃ vs parts rest, v.items? = some vs ∧ vs.mapM item.encode = .ok parts ∧
        vs.length < 2 ^ 256 ∧ assemble (itemParts item parts) = .ok rest ∧
        word vs.length ++ rest = bs := by
  rw [Codec.encode]
  cases v.items? with
  | none => exact iff_of_false refuse_ne_ok (by rintro ⟨_, _, _, ⟨⟩, -⟩)
  | some vs =>
    simp only [Option.some.injEq, exists_and_left, exists_eq_left']
    cases vs.mapM item.encode with
    | error e => exact iff_of_false (by rintro ⟨⟩) (by rintro ⟨_, ⟨⟩, -⟩)
    | ok parts =>
      simp only [Except.ok.injEq, exists_eq_left', bind_eq_ok_iff]
      constructor
      · rintro ⟨count, hcount, rest, hrest, h⟩
        obtain ⟨hlt, rfl⟩ := sizeWord_eq_ok_iff.mp hcount
        exact ⟨hlt, rest, hrest, Except.ok.inj h⟩
      · rintro ⟨hlt, rest, hrest, rfl⟩
        exact ⟨_, sizeWord_eq_ok_iff.mpr ⟨hlt, rfl⟩, rest, hrest, rfl⟩

theorem encode_tuple_eq_ok_iff {components : List Codec} :
    (Codec.tuple components).encode v = .ok bs ↔
      ∃ vs parts, v.items? = some vs ∧ vs.length = components.length ∧
        encodeEach components vs = .ok parts ∧ assemble parts = .ok bs := by
  rw [Codec.encode]
  cases v.items? with
  | none => exact iff_of_false refuse_ne_ok (by rintro ⟨_, _, ⟨⟩, -⟩)
  | some vs =>
    simp only [Option.some.injEq, exists_and_left, exists_eq_left']
    split_ifs with hlength
    · simp only [hlength, true_and]
      exact bind_eq_ok_iff
    · exact iff_of_false refuse_ne_ok fun h => hlength h.1

end

theorem encodeEach_cons_eq_ok_iff {c : Codec} {cs : List Codec} {v : Value} {vs : List Value}
    {parts : List (Bool × List UInt8)} :
    encodeEach (c :: cs) (v :: vs) = .ok parts ↔
      ∃ bs rest, c.encode v = .ok bs ∧ encodeEach cs vs = .ok rest
        ∧ (c.isDynamic, bs) :: rest = parts := by
  rw [encodeEach]
  cases c.encode v with
  | error e =>
    exact iff_of_false (by rintro ⟨⟩) (by rintro ⟨_, _, ⟨⟩, -⟩)
  | ok bs =>
    show (encodeEach cs vs).map ((c.isDynamic, bs) :: ·) = .ok parts ↔ _
    rw [map_eq_ok_iff]
    constructor
    · rintro ⟨rest, hrest, rfl⟩
      exact ⟨bs, rest, rfl, hrest, rfl⟩
    · rintro ⟨bs', rest, hbs, hrest, rfl⟩
      obtain rfl := Except.ok.inj hbs
      exact ⟨rest, hrest, rfl⟩

theorem encode_eq_of_codecsOfTexts {types : List String} {codecs : List Codec}
    (h : codecsOfTexts types = .ok codecs) (values : List Value) :
    encode types values = ((encodeEach codecs values).bind assemble).mapError .value := by
  rw [encode, h]

/-! ### Lengths -/

theorem static_of_itemParts {item : Codec} (hitem : item.isDynamic = false)
    {parts : List (List UInt8)} : ∀ part ∈ itemParts item parts, part.1 = false := by
  intro part hpart
  obtain ⟨bs, -, rfl⟩ := List.mem_map.mp hpart
  exact hitem

theorem static_of_encodeEach {codecs : List Codec} (hcodecs : anyDynamic codecs = false)
    {vs : List Value} {parts : List (Bool × List UInt8)} (h : encodeEach codecs vs = .ok parts) :
    ∀ part ∈ parts, part.1 = false := by
  induction codecs generalizing vs parts with
  | nil =>
    obtain rfl := Except.ok.inj h
    exact fun part hpart => absurd hpart List.not_mem_nil
  | cons c cs ih =>
    rw [anyDynamic, Bool.or_eq_false_iff] at hcodecs
    cases vs with
    | nil =>
      obtain rfl := Except.ok.inj h
      exact fun part hpart => absurd hpart List.not_mem_nil
    | cons v vs =>
      obtain ⟨bs, rest, -, hrest, rfl⟩ := encodeEach_cons_eq_ok_iff.mp h
      exact List.forall_mem_cons.mpr ⟨hcodecs.1, ih hcodecs.2 hrest⟩

/-- The items of two arrays of one length are written to the same places. -/
theorem sameLayout_itemParts {item : Codec} {vs ws : List Value} {parts parts' : List (List UInt8)}
    (hitem : item.isDynamic = false → ∀ v w bs bs', item.encode v = .ok bs →
      item.encode w = .ok bs' → bs.length = bs'.length)
    (hlength : vs.length = ws.length) (h : vs.mapM item.encode = .ok parts)
    (h' : ws.mapM item.encode = .ok parts') :
    SameLayout (itemParts item parts) (itemParts item parts') := by
  have hall := mapM_eq_ok_iff.mp h
  have hall' := mapM_eq_ok_iff.mp h'
  -- The two hypotheses are about the whole lists and would stand in the way of the induction.
  clear h h'
  induction hall generalizing ws parts' with
  | nil =>
    obtain rfl := List.length_eq_zero_iff.mp hlength.symm
    obtain rfl := List.forall₂_nil_left_iff.mp hall'
    exact .nil
  | cons hv _ ih =>
    obtain ⟨w, ws, rfl⟩ := List.exists_cons_of_length_eq_add_one hlength.symm
    obtain ⟨bs', rest', hw, hrest', rfl⟩ := List.forall₂_cons_left_iff.mp hall'
    refine .cons ⟨rfl, fun hstatic => hitem hstatic _ _ _ _ hv hw⟩ ?_
    exact ih (Nat.succ.inj hlength) hrest'

mutual

/-- Where the length does not vary, it is the same for all values. -/
theorem Codec.length_eq_of_static (codec : Codec) (hcodec : codec.Bounded)
    (hstatic : codec.isDynamic = false) {v w : Value} {bs bs' : List UInt8}
    (h : codec.encode v = .ok bs) (h' : codec.encode w = .ok bs') : bs.length = bs'.length := by
  match codec, hcodec with
  | .uint _, _ =>
    obtain ⟨_, -, -, rfl⟩ := encode_uint_eq_ok_iff.mp h
    obtain ⟨_, -, -, rfl⟩ := encode_uint_eq_ok_iff.mp h'
    rw [length_signedWord, length_signedWord]
  | .int _, _ =>
    obtain ⟨_, -, -, rfl⟩ := encode_int_eq_ok_iff.mp h
    obtain ⟨_, -, -, rfl⟩ := encode_int_eq_ok_iff.mp h'
    rw [length_signedWord, length_signedWord]
  | .ufixed _ _, _ =>
    obtain ⟨_, -, -, rfl⟩ := encode_ufixed_eq_ok_iff.mp h
    obtain ⟨_, -, -, rfl⟩ := encode_ufixed_eq_ok_iff.mp h'
    rw [length_signedWord, length_signedWord]
  | .fixed _ _, _ =>
    obtain ⟨_, -, -, rfl⟩ := encode_fixed_eq_ok_iff.mp h
    obtain ⟨_, -, -, rfl⟩ := encode_fixed_eq_ok_iff.mp h'
    rw [length_signedWord, length_signedWord]
  | .bool, _ =>
    obtain ⟨_, -, rfl⟩ := encode_bool_eq_ok_iff.mp h
    obtain ⟨_, -, rfl⟩ := encode_bool_eq_ok_iff.mp h'
    rw [length_word, length_word]
  | .address, _ =>
    obtain ⟨_, haddress, rfl⟩ := encode_address_eq_ok_iff.mp h
    obtain ⟨_, haddress', rfl⟩ := encode_address_eq_ok_iff.mp h'
    rw [List.length_append, List.length_append, length_of_addressBytes haddress,
      length_of_addressBytes haddress']
  | .fixedBytes _, .fixedBytes hsize =>
    obtain ⟨data, -, hle, rfl⟩ := encode_fixedBytes_eq_ok_iff.mp h
    obtain ⟨data', -, hle', rfl⟩ := encode_fixedBytes_eq_ok_iff.mp h'
    exact (length_fill (hle.trans hsize)).trans (length_fill (hle'.trans hsize)).symm
  | .bytes, _ => cases hstatic
  | .string, _ => cases hstatic
  | .openArray _, _ => cases hstatic
  | .sizedArray item length, .sizedArray hitem =>
    obtain ⟨vs, parts, -, hparts, hlength, h⟩ := encode_sizedArray_eq_ok_iff.mp h
    obtain ⟨ws, parts', -, hparts', hlength', h'⟩ := encode_sizedArray_eq_ok_iff.mp h'
    -- Nothing stands behind the first parts, and these have the same places.
    have hlayout := sameLayout_itemParts
      (fun hstatic _ _ _ _ => item.length_eq_of_static hitem hstatic)
      (hlength.trans hlength'.symm) hparts hparts'
    exact hlayout.length_assemble_eq (static_of_itemParts hstatic) h h'
  | .tuple components, .tuple hcomponents =>
    obtain ⟨vs, parts, -, hlength, hparts, h⟩ := encode_tuple_eq_ok_iff.mp h
    obtain ⟨ws, parts', -, hlength', hparts', h'⟩ := encode_tuple_eq_ok_iff.mp h'
    have hlayout := sameLayout_of_encodeEach components hcomponents hlength hlength' hparts hparts'
    exact hlayout.length_assemble_eq (static_of_encodeEach hstatic hparts) h h'

/-- Values of the same codecs are written to the same places. -/
theorem sameLayout_of_encodeEach (codecs : List Codec) (hcodecs : ∀ c ∈ codecs, c.Bounded)
    {vs ws : List Value} {parts parts' : List (Bool × List UInt8)}
    (hlength : vs.length = codecs.length) (hlength' : ws.length = codecs.length)
    (h : encodeEach codecs vs = .ok parts) (h' : encodeEach codecs ws = .ok parts') :
    SameLayout parts parts' := by
  match codecs, vs, ws with
  | [], [], [] =>
    obtain rfl := Except.ok.inj h
    obtain rfl := Except.ok.inj h'
    exact .nil
  | c :: cs, v :: vs, w :: ws =>
    obtain ⟨hc, hcs⟩ := List.forall_mem_cons.mp hcodecs
    obtain ⟨bs, rest, hv, hvs, rfl⟩ := encodeEach_cons_eq_ok_iff.mp h
    obtain ⟨bs', rest', hw, hws, rfl⟩ := encodeEach_cons_eq_ok_iff.mp h'
    refine .cons ⟨rfl, fun hstatic => c.length_eq_of_static hc hstatic hv hw⟩ ?_
    exact sameLayout_of_encodeEach cs hcs (Nat.succ.inj hlength) (Nat.succ.inj hlength') hvs hws

end

end Workflow.Abi
