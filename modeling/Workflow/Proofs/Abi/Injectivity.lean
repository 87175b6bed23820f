import Mathlib
import Workflow.Proofs.Abi.ByName
import Workflow.Proofs.Abi.Received
import Workflow.Proofs.Abi.TypeTexts

/-!
# Call data determine the arguments

The call data of two calls of one function are equal exactly if the same values are received
(`calldata_eq_iff`).  Of a function whose types are put together from those of the components, as
every declaration has them, the receiver gets the arguments as they were converted, up to the zeros
behind bytes of a fixed size and to the number for a truth value that is given for a decimal
(`Codec.filled`).  Where no type fills anything, call data are equal only for equal arguments.
-/

namespace Workflow.Abi

open Outcome

/-! ### What is filled up -/

mutual

/-- A value with its bytes of a fixed size filled up and with numbers for its decimals. -/
def Codec.filled (codec : Codec) (value : Value) : Value :=
  match codec with
  | .ufixed _ _ => (fixedNumber? value).elim value .int
  | .fixed _ _ => (fixedNumber? value).elim value .int
  | .fixedBytes size =>
    match value with
    | .bytes bs => .bytes (fill size bs)
    | v => v
  | .sizedArray item _ =>
    match value with
    | .list vs => .list (vs.map fun v => item.filled v)
    | v => v
  | .openArray item =>
    match value with
    | .list vs => .list (vs.map fun v => item.filled v)
    | v => v
  | .tuple components =>
    match value with
    | .tuple vs => .tuple (filledEach components vs)
    | v => v
  | _ => value
termination_by structural codec

/-- Some values with their bytes of a fixed size filled up and with numbers for their decimals. -/
def filledEach (codecs : List Codec) (values : List Value) : List Value :=
  match codecs with
  | [] => values
  | c :: cs =>
    match values with
    | [] => []
    | v :: vs => c.filled v :: filledEach cs vs
termination_by structural codecs

end

theorem receivedEach_eq_filledEach {codecs : List Codec} {vs : List Value}
    (h : ∀ (i : Nat) c v, codecs[i]? = some c → vs[i]? = some v → c.received v = c.filled v) :
    receivedEach codecs vs = filledEach codecs vs := by
  induction codecs generalizing vs with
  | nil => rfl
  | cons c cs ih =>
    cases vs with
    | nil => rfl
    | cons v vs =>
      rw [receivedEach, filledEach, h 0 c v rfl rfl, ih fun i => h (i + 1)]

/-- An address that has been converted is received as it is. -/
theorem received_address_lower {s : String} (h : isAddress s = true) :
    Codec.address.received (.text (Text.lower s)) = .text (Text.lower s) := by
  cases hbytes : addressBytes? (.text (Text.lower s)) with
  | none =>
    rw [Codec.received, hbytes]
    rfl
  | some bs =>
    obtain ⟨hdigits, rfl⟩ := addressBytes?_text_eq_some_iff.mp hbytes
    have hplain := (hasAddressDigits_iff_of_isAddress h).mp (hasAddressDigits_lower_iff.mp hdigits)
    rw [received_address hbytes, bytesIn_lower (hasAddressDigits_lower_iff.mp hdigits),
      ← lower_of_isPlainAddress hplain]

theorem map_received_eq_map_filled {R : Value → Value → Prop} {codec : Codec}
    (hitem : ∀ {v w}, R v w → codec.received w = codec.filled w) {vs ws : List Value}
    (h : List.Forall₂ R vs ws) : ws.map codec.received = ws.map codec.filled := by
  induction h with
  | nil => rfl
  | cons hvw _ ih => rw [List.map_cons, List.map_cons, hitem hvw, ih]

/-- A converted argument is received filled up, and as it is otherwise. -/
theorem Codec.Of.received_eq_filled {components : List Parameter} {type : String} {codec : Codec}
    (hcodec : Codec.Of components type codec) {v w : Value} (h : Shaped components type v w) :
    codec.received w = codec.filled w := by
  induction hcodec generalizing v w with
  | sized length hdigits _ ih =>
    obtain ⟨vs, ws, -, hall, rfl⟩ := (shaped_array_iff hdigits).mp h
    rw [received_sizedArray length rfl, Codec.filled, map_received_eq_map_filled ih hall]
  | «open» hdigits _ ih =>
    obtain ⟨vs, ws, -, hall, rfl⟩ := (shaped_array_iff hdigits).mp h
    rw [received_openArray rfl, Codec.filled, map_received_eq_map_filled ih hall]
  | tuple hlength _ ih =>
    obtain ⟨vs, ws, hvs, ⟨hcount, hall⟩, rfl⟩ := shaped_tuple_iff.mp h
    rw [received_tuple rfl, Codec.filled, receivedEach_eq_filledEach fun i c w hc hw => ?_]
    obtain ⟨p, hp⟩ := exists_getElem?_of_length_eq hlength.symm hc
    obtain ⟨v, hv⟩ := exists_getElem?_of_length_eq (hvs.length_eq.trans hcount.symm) hw
    exact ih i p c hp hc (hall i p v w hp hv hw)
  | @single components type codec htype hsequence haddress =>
    have hconverted := (shaped_elementary_iff htype).mp h
    -- An address is the only one where being received does not just fill up.
    cases codec with
    | address =>
      obtain rfl := haddress rfl
      obtain ⟨s, hs, rfl⟩ := hconverted.of_address
      exact received_address_lower hs
    | sizedArray => cases hsequence
    | openArray => cases hsequence
    | tuple => cases hsequence
    | _ => rfl

/-! ### Nothing to fill up -/

mutual

/-- Whether nothing is filled up: there are no bytes of a fixed size and no decimals. -/
def Codec.isExact : Codec → Bool
  | .ufixed _ _ => false
  | .fixed _ _ => false
  | .fixedBytes _ => false
  | .sizedArray item _ => item.isExact
  | .openArray item => item.isExact
  | .tuple components => allExact components
  | _ => true
termination_by structural codec => codec

/-- Whether nothing is filled up for any of some codecs. -/
def allExact : List Codec → Bool
  | [] => true
  | c :: cs => c.isExact && allExact cs
termination_by structural codecs => codecs

end

mutual

theorem Codec.filled_of_isExact (codec : Codec) (h : codec.isExact = true) (v : Value) :
    codec.filled v = v := by
  match codec with
  | .sizedArray item _ =>
    cases v with
    | list vs =>
      exact congrArg Value.list (List.map_id'' (item.filled_of_isExact h) vs)
    | _ => rfl
  | .openArray item =>
    cases v with
    | list vs =>
      exact congrArg Value.list (List.map_id'' (item.filled_of_isExact h) vs)
    | _ => rfl
  | .tuple components =>
    cases v with
    | tuple vs => exact congrArg Value.tuple (filledEach_of_allExact components h vs)
    | _ => rfl
  -- These are filled up, so they are not exact.
  | .ufixed _ _ => cases h
  | .fixed _ _ => cases h
  | .fixedBytes _ => cases h
  | .uint _ | .int _ | .bool | .address | .bytes | .string => rfl

theorem filledEach_of_allExact (codecs : List Codec) (h : allExact codecs = true)
    (vs : List Value) : filledEach codecs vs = vs := by
  match codecs, vs with
  | [], _ => rfl
  | _ :: _, [] => rfl
  | c :: cs, v :: vs =>
    rw [allExact, Bool.and_eq_true] at h
    rw [filledEach, c.filled_of_isExact h.1, filledEach_of_allExact cs h.2]

end

/-! ### Calls -/

section

variable {f : Function} {args : Value} {vs : List Value}

theorem Function.length_of_orderArguments (h : f.orderArguments args = .ok vs) :
    vs.length = f.inputs.length := by
  rw [Function.orderArguments] at h
  split at h
  · exact (orderFrom_eq_ok_iff.mp h).1
  · split_ifs at h with hnone
    obtain rfl := Except.ok.inj h
    exact (List.length_eq_zero_iff.mpr (List.isEmpty_iff.mp hnone)).symm

/-- Each value in order is an argument that has been converted for its parameter. -/
theorem Function.exists_coerce_of_orderArguments (h : f.orderArguments args = .ok vs) {i : Nat}
    {p : Parameter} {w : Value} (hp : f.inputs[i]? = some p) (hw : vs[i]? = some w) :
    ∃ label v, p.coerce label v = .ok w := by
  rw [Function.orderArguments] at h
  split at h
  · obtain ⟨-, hall⟩ := orderFrom_eq_ok_iff.mp h
    exact ⟨_, _, (hall i p w hp hw).2⟩
  · split_ifs at h with hnone
    rw [List.isEmpty_iff.mp hnone] at hp
    cases hp

theorem receivedEach_eq_of_orderArguments {codecs : List Codec}
    (hcodecs : codecsOfTexts (f.inputs.map (·.type)) = .ok codecs)
    (htyped : ∀ p ∈ f.inputs, p.Typed) (h : f.orderArguments args = .ok vs) :
    receivedEach codecs vs = filledEach codecs vs := by
  refine receivedEach_eq_filledEach fun i c w hc hw => ?_
  obtain ⟨p, hp⟩ := exists_getElem?_of_length_eq (f.length_of_orderArguments h).symm hw
  obtain ⟨label, v, hv⟩ := f.exists_coerce_of_orderArguments h hp hw
  obtain ⟨-, hall⟩ := forall₂_iff_getElem?.mp (codecsOfTexts_eq_ok_iff.mp hcodecs)
  have hp' := htyped p (List.mem_of_getElem? hp)
  have hcodec := hall i p.type c (by rw [List.getElem?_map, hp]; rfl) hc
  exact (hp'.codec_of hcodec).received_eq_filled ((p.coerce_eq_ok_iff hp').mp hv)

/-- Call data are the selector and the tuple of the arguments. -/
theorem exists_of_calldata {fragment selector : Value} {text : String}
    (h : calldata fragment args selector = .ok text) :
    ∃ f vs codecs bs, Function.ofFragment fragment = .ok f ∧ f.orderArguments args = .ok vs ∧
      codecsOfTexts (f.inputs.map (·.type)) = .ok codecs ∧
      (Codec.tuple codecs).encode (.tuple vs) = .ok bs ∧
      text = Hex.ofBytes (f.selectorBytes ++ bs) := by
  rw [calldata] at h
  obtain ⟨f, hf, h⟩ := bind_eq_ok_iff.mp h
  obtain ⟨_, -, h⟩ := bind_eq_ok_iff.mp h
  obtain ⟨call, hcall, h⟩ := bind_eq_ok_iff.mp h
  obtain rfl := Except.ok.inj h
  obtain ⟨vs, hvs, hencoded⟩ := bind_eq_ok_iff.mp hcall
  split at hencoded
  · next bs hbs =>
    obtain rfl := Except.ok.inj hencoded
    rw [encode] at hbs
    split at hbs
    · cases hbs
    · next codecs hcodecs =>
      obtain ⟨parts, hparts, hassemble⟩ := bind_eq_ok_iff.mp (mapError_eq_ok_iff.mp hbs)
      have hlength : vs.length = codecs.length := by
        rw [f.length_of_orderArguments hvs, length_codecsOfTexts hcodecs, List.length_map]
      exact ⟨f, vs, codecs, bs, hf, hvs, hcodecs,
        encode_tuple_eq_ok_iff.mpr ⟨vs, parts, rfl, hlength, hparts, hassemble⟩, rfl⟩
  · cases hencoded

end

/-- When two calls of a function with the converted arguments `vs` and `ws` are the same. -/
structure Function.ToldApart (f : Function) (codecs : List Codec) (vs ws : List Value)
    (same : Prop) : Prop where
  /-- The receiver gets the same values. -/
  received : same ↔ receivedEach codecs vs = receivedEach codecs ws
  /-- Where types are put together from those of components, the receiver gets the arguments with
  bytes of a fixed size filled up and numbers for decimals. -/
  filled : (∀ p ∈ f.inputs, p.Typed) → (same ↔ filledEach codecs vs = filledEach codecs ws)
  /-- Where there are no such types, the receiver gets the arguments. -/
  plain : (∀ p ∈ f.inputs, p.Typed) → allExact codecs = true → (same ↔ vs = ws)

/-- **Call data determine the arguments**, up to what is filled up.  For any two calls of a function
whose call data can be formed, and whatever its types are, the call data are equal exactly if the
receiver gets the same values.  By the types of a declaration it gets the converted arguments, with
zeros behind bytes of a fixed size that are too few and with numbers for truth values that are given
for decimals; where there are no bytes of a fixed size and no decimals, it gets the converted
arguments themselves. -/
theorem calldata_eq_iff {fragment args args' selector selector' : Value} {text text' : String}
    (h : calldata fragment args selector = .ok text)
    (h' : calldata fragment args' selector' = .ok text') :
    ∃ f codecs vs ws, Function.ofFragment fragment = .ok f ∧
      codecsOfTexts (f.inputs.map (·.type)) = .ok codecs ∧ f.orderArguments args = .ok vs ∧
      f.orderArguments args' = .ok ws ∧ f.ToldApart codecs vs ws (text = text') := by
  obtain ⟨f, vs, codecs, bs, hf, hvs, hcodecs, hbs, rfl⟩ := exists_of_calldata h
  obtain ⟨f', ws, codecs', bs', hf', hws, hcodecs', hbs', rfl⟩ := exists_of_calldata h'
  obtain rfl := Except.ok.inj (hf.symm.trans hf')
  obtain rfl := Except.ok.inj (hcodecs.symm.trans hcodecs')
  have hbounded : (Codec.tuple codecs).Bounded := .tuple (bounded_of_codecsOfTexts hcodecs)
  have hreceived : Hex.ofBytes (f.selectorBytes ++ bs) = Hex.ofBytes (f.selectorBytes ++ bs') ↔
      receivedEach codecs vs = receivedEach codecs ws := by
    -- The selector is that of one function, so only the tuples of the arguments are compared.
    have hsame := (Codec.tuple codecs).encode_eq_iff hbounded hbs hbs'
    rw [received_tuple rfl, received_tuple rfl, Value.tuple.injEq] at hsame
    rw [← hsame]
    exact ⟨fun heq => List.append_cancel_left (Hex.ofBytes_inj heq), fun heq => by rw [heq]⟩
  have hfilled : (∀ p ∈ f.inputs, p.Typed) →
      (Hex.ofBytes (f.selectorBytes ++ bs) = Hex.ofBytes (f.selectorBytes ++ bs') ↔
        filledEach codecs vs = filledEach codecs ws) := by
    intro htyped
    rw [hreceived, receivedEach_eq_of_orderArguments hcodecs htyped hvs,
      receivedEach_eq_of_orderArguments hcodecs htyped hws]
  refine ⟨f, codecs, vs, ws, hf, hcodecs, hvs, hws, hreceived, hfilled, fun htyped hexact => ?_⟩
  rw [hfilled htyped, filledEach_of_allExact codecs hexact, filledEach_of_allExact codecs hexact]

theorem calldata_of_encode {fragment args : Value} {f : Function} {vs : List Value}
    {bs : List UInt8} (hf : Function.ofFragment fragment = .ok f)
    (hvs : f.orderArguments args = .ok vs) (hbs : encode (f.inputs.map (·.type)) vs = .ok bs) :
    calldata fragment args .null = .ok (Hex.ofBytes (f.selectorBytes ++ bs)) := by
  have hcall : f.encodeCall args = .ok (f.selectorBytes ++ bs) := by
    rw [Function.encodeCall, hvs, ok_bind, hbs]
    rfl
  rw [calldata_of_described hf, Function.checkSelector, ok_bind, hcall, ok_bind]

/-- Orders with the same amounts, each of them in an order of its own. -/
def movedOrders : Value :=
  .list [.tuple [.text "0x00000000000000000000000000000000000000aa", .list [.int 7]],
    .tuple [.text "0x00000000000000000000000000000000000000bb", .list [.int 8]]]

theorem codecsOfTexts_orders : codecsOfTexts ["(address,uint256[])[2]"]
    = .ok [.sizedArray (.tuple [.address, .openArray (.uint 256)]) 2] := by
  cbv

theorem exists_encode_orders (orders : Value)
    (h : (encodeEach [.sizedArray (.tuple [.address, .openArray (.uint 256)]) 2] [orders]
      >>= assemble).isOk = true) : ∃ bs, encode ["(address,uint256[])[2]"] [orders] = .ok bs := by
  rw [encode_eq_of_codecsOfTexts codecsOfTexts_orders]
  obtain ⟨bs, hbs⟩ := not_fails_iff.mp (not_fails_of_isOk h)
  exact ⟨bs, mapError_eq_ok_iff.mpr hbs⟩

/-- Amounts that move from one order to another one change the call data. -/
theorem calldata_eq_iff_orders :
    ∃ text text',
      calldata (.text ordersText) (.record [("orders", givenOrders)]) .null = .ok text ∧
      calldata (.text ordersText) (.record [("orders", movedOrders)]) .null = .ok text' ∧
      (∃ f codecs, Function.ofFragment (.text ordersText) = .ok f ∧
        codecsOfTexts (f.inputs.map (·.type)) = .ok codecs ∧
        f.ToldApart codecs [settledOrders] [movedOrders] (text = text')) ∧ text ≠ text' := by
  obtain ⟨f, hf, hinputs⟩ := exists_ofDeclaration_orders
  have hfragment : Function.ofFragment (.text ordersText) = .ok f := by
    have hplain : trimmed ordersText = ordersText := by decide +kernel
    have hjson : ¬ looksLikeJson ordersText.toList = true := by decide +kernel
    rw [Function.ofFragment, hplain, if_neg hjson, hf]
  have htypes : f.inputs.map (·.type) = ["(address,uint256[])[2]"] := by
    rw [hinputs]
    rfl
  have hgiven : f.orderArguments (.record [("orders", givenOrders)]) = .ok [settledOrders] := by
    rw [f.orderArguments_of_named rfl, hinputs]
    rfl
  have hmoved : f.orderArguments (.record [("orders", movedOrders)]) = .ok [movedOrders] := by
    rw [f.orderArguments_of_named rfl, hinputs]
    rfl
  obtain ⟨bs, hbs⟩ := exists_encode_orders settledOrders (by decide +kernel)
  obtain ⟨bs', hbs'⟩ := exists_encode_orders movedOrders (by decide +kernel)
  have htext := calldata_of_encode hfragment hgiven (htypes ▸ hbs)
  have htext' := calldata_of_encode hfragment hmoved (htypes ▸ hbs')
  refine ⟨_, _, htext, htext', ?_⟩
  obtain ⟨f', codecs, vs, ws, hf', hcodecs, hvs, hws, htold⟩ := calldata_eq_iff htext htext'
  obtain rfl := Except.ok.inj (hfragment.symm.trans hf')
  obtain rfl := Except.ok.inj (hgiven.symm.trans hvs)
  obtain rfl := Except.ok.inj (hmoved.symm.trans hws)
  refine ⟨⟨f, codecs, hfragment, hcodecs, htold⟩, fun heq => ?_⟩
  rw [htypes, codecsOfTexts_orders] at hcodecs
  obtain rfl := Except.ok.inj hcodecs
  have hsame := (htold.plain (typed_of_ofDeclaration hf) rfl).mp heq
  cases hsame

/-- Bytes that are too few are filled up: two arguments that are converted to different bytes have
the same call data. -/
theorem short_bytes_share_calldata :
    ¬ ∀ (fragment args args' : Value) (text : String) (f : Function) (vs ws : List Value),
      calldata fragment args .null = .ok text → calldata fragment args' .null = .ok text →
      Function.ofFragment fragment = .ok f → f.orderArguments args = .ok vs →
      f.orderArguments args' = .ok ws → vs = ws := by
  intro htold
  obtain ⟨f, hf, hinputs⟩ : ∃ f, Function.ofFragment (.text "function f(bytes4 x)") = .ok f ∧
      f.inputs = [⟨"x", "bytes4", []⟩] := exists_ok_of_only_input (by decide +kernel)
  have hshort : f.orderArguments (.record [("x", .text "0xab")]) = .ok [.bytes [0xab]] := by
    rw [f.orderArguments_of_named rfl, hinputs]
    rfl
  have hlong : f.orderArguments (.record [("x", .text "0xab00")]) = .ok [.bytes [0xab, 0]] := by
    rw [f.orderArguments_of_named rfl, hinputs]
    rfl
  have htypes : codecsOfTexts (f.inputs.map (·.type)) = .ok [.fixedBytes 4] := by
    rw [hinputs]
    cbv
  obtain ⟨bs, hbs⟩ : ∃ bs, encode (f.inputs.map (·.type)) [.bytes [0xab]] = .ok bs := by
    rw [encode_eq_of_codecsOfTexts htypes]
    exact ⟨_, rfl⟩
  have hbs' : encode (f.inputs.map (·.type)) [.bytes [0xab, 0]] = .ok bs := by
    rw [encode_eq_of_codecsOfTexts htypes] at hbs ⊢
    exact hbs
  have hsame := htold _ _ _ _ f _ _ (calldata_of_encode hf hshort hbs)
    (calldata_of_encode hf hlong hbs') hf hshort hlong
  cases hsame

end Workflow.Abi
