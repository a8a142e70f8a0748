import Iso15118.Library.Base64
import Iso15118.Library.Effect
import Iso15118.Shared.Exceptions
import Mathlib.Data.Rat.Defs

/-!
# The JSON layer of the EXI codec

A message goes to the EXI codec as JSON text and comes back as JSON text. The text itself is not
modelled: the `json` module reads back the tree that it wrote. What the two classes of
`shared/exi_codec.py` add is here, the Base64 texts that stand for byte strings.
-/

namespace Iso15118.Shared

/-- What a message model is dumped to. JSON has all of it but the byte strings. -/
inductive JsonValue where
  | object (fields : List (String × JsonValue))
  | list (items : List JsonValue)
  | text (string : String)
  | bytes (content : List UInt8)
  | integer (value : Int)
  | float (value : ℚ)
  | boolean (value : Bool)
  | null

namespace JsonValue

def isInt : JsonValue → Bool
  | .integer _ => true
  -- `bool` is a subclass of `int`
  | .boolean _ => true
  | _ => false

/-- A string that is taken for an eMAID. -/
def isShortText : JsonValue → Bool
  | .text string => decide (string.length ≤ 15)
  | _ => false

end JsonValue

def b64encode (bytes : List UInt8) : String :=
  String.ofList (Base64.encode bytes)

def b64decodeChars (chars : List Char) : Except PyError JsonValue :=
  match Base64.decode chars with
  | some bytes => .ok (.bytes bytes)
  | none => .error .valueError

def b64decode : JsonValue → Except PyError JsonValue
  | .text string =>
      if string.toList.all fun char => char.toNat < 128 then
        b64decodeChars string.toList
      else
        .error .valueError
  | .bytes content => b64decodeChars (content.map fun byte => Char.ofNat byte.toNat)
  | _ => .error .typeError

namespace CustomJSONEncoder

mutual

/-- The tree of the text that `json.dumps` writes with this encoder. -/
def dumps : JsonValue → JsonValue
  | .object fields => .object (dumpsFields fields)
  | .list items => .list (dumpsItems items)
  | .bytes content => .text (b64encode content)
  | .text string => .text string
  | .integer value => .integer value
  | .float value => .float value
  | .boolean value => .boolean value
  | .null => .null

def dumpsFields : List (String × JsonValue) → List (String × JsonValue)
  | [] => []
  | (field, value) :: rest => (field, dumps value) :: dumpsFields rest

def dumpsItems : List JsonValue → List JsonValue
  | [] => []
  | item :: rest => dumps item :: dumpsItems rest

end

end CustomJSONEncoder

namespace CustomJSONDecoder

def base64EncodedFieldsSet : List String :=
  ["Certificate", "DHPublicKey", "GenChallenge", "MeterSignature", "OEMProvisioningCert",
    "SECP521_EncryptedPrivateKey", "SigMeterReading", "TPM_EncryptedPrivateKey", "Value", "value",
    "X448_EncryptedPrivateKey", "DigestValue"]

/-- What `object_hook` puts in the place of one value. -/
def hookValue (field : String) (value : JsonValue) : Except PyError JsonValue :=
  if field ∉ base64EncodedFieldsSet then
    .ok value
  else if field ∈ ["Value", "value"] ∧ value.isInt then
    .ok value
  else if field ∈ ["Value", "value"] ∧ value.isShortText then
    .ok value
  else
    match value with
    | .list items =>
        if field = "Certificate" then
          (items.mapM b64decode).map .list
        else
          b64decode (.list items)
    | value => b64decode value

def objectHook : List (String × JsonValue) → Except PyError (List (String × JsonValue))
  | [] => .ok []
  | (field, value) :: rest => do
      let value ← hookValue field value
      let rest ← objectHook rest
      return (field, value) :: rest

mutual

/-- What `json.loads` makes of the text of a tree with this decoder. -/
def loads : JsonValue → Except PyError JsonValue
  | .object fields => do
      let fields ← loadsFields fields
      let fields ← objectHook fields
      return .object fields
  | .list items => do
      let items ← loadsItems items
      return .list items
  | .bytes content => .ok (.bytes content)
  | .text string => .ok (.text string)
  | .integer value => .ok (.integer value)
  | .float value => .ok (.float value)
  | .boolean value => .ok (.boolean value)
  | .null => .ok .null

def loadsFields : List (String × JsonValue) → Except PyError (List (String × JsonValue))
  | [] => .ok []
  | (field, value) :: rest => do
      let value ← loads value
      let rest ← loadsFields rest
      return (field, value) :: rest

def loadsItems : List JsonValue → Except PyError (List JsonValue)
  | [] => .ok []
  | item :: rest => do
      let item ← loads item
      let rest ← loadsItems rest
      return item :: rest

end

end CustomJSONDecoder

namespace JsonValue

/-- A value under one of the names that the decoder knows comes back. A short Base64 text is
taken for an eMAID under `value`, and a text is taken for Base64 elsewhere. -/
def SurvivesUnder (field : String) : JsonValue → Prop
  | .object _ => False
  | .list items => field = "Certificate" ∧ ∀ item ∈ items, ∃ content, item = .bytes content
  | .text string => field ∈ ["Value", "value"] ∧ string.length ≤ 15
  | .bytes content => field ∈ ["Value", "value"] → 10 ≤ content.length
  | .integer _ => field ∈ ["Value", "value"]
  | .float _ => False
  | .boolean _ => field ∈ ["Value", "value"]
  | .null => False

mutual

/-- A tree in which no value is mistaken. -/
def Survives : JsonValue → Prop
  | .object fields => FieldsSurvive fields
  | .list items => ItemsSurvive items
  | .bytes _ => False
  | .text _ => True
  | .integer _ => True
  | .float _ => True
  | .boolean _ => True
  | .null => True

def FieldsSurvive : List (String × JsonValue) → Prop
  | [] => True
  | (field, value) :: rest =>
      (if field ∈ CustomJSONDecoder.base64EncodedFieldsSet then
          SurvivesUnder field value
        else
          Survives value) ∧
        FieldsSurvive rest

def ItemsSurvive : List JsonValue → Prop
  | [] => True
  | item :: rest => Survives item ∧ ItemsSurvive rest

end

end JsonValue

open CustomJSONEncoder CustomJSONDecoder JsonValue Effect

theorem b64decode_b64encode (content : List UInt8) :
    b64decode (.text (b64encode content)) = .ok (.bytes content) := by
  have ascii : (b64encode content).toList.all fun char => char.toNat < 128 := by
    simpa [b64encode] using fun char member => Base64.ascii_of_mem_encode member
  rw [b64decode, if_pos ascii, b64decodeChars, b64encode, String.toList_ofList,
    Base64.decode_encode]

theorem b64encode_short_iff (content : List UInt8) :
    (b64encode content).length ≤ 15 ↔ content.length < 10 := by
  rw [b64encode, String.length_ofList, Base64.length_encode]
  omega

theorem eq_bytes_of_b64decodeChars {chars : List Char} {decoded : JsonValue}
    (ran : b64decodeChars chars = .ok decoded) : ∃ content, decoded = .bytes content := by
  unfold b64decodeChars at ran
  split at ran
  · exact ⟨_, (Except.ok.inj ran).symm⟩
  · cases ran

/-- Whatever is decoded from Base64 is a byte string. -/
theorem eq_bytes_of_b64decode {value decoded : JsonValue} (ran : b64decode value = .ok decoded) :
    ∃ content, decoded = .bytes content := by
  cases value with
  | text string =>
      rw [b64decode] at ran
      split at ran
      · exact eq_bytes_of_b64decodeChars ran
      · cases ran
  | bytes content => exact eq_bytes_of_b64decodeChars ran
  | object fields => cases ran
  | list items => cases ran
  | integer value => cases ran
  | float value => cases ran
  | boolean value => cases ran
  | null => cases ran

theorem loads_object_eq_ok_iff {fields decoded : List (String × JsonValue)} :
    loads (.object fields) = .ok (.object decoded) ↔
      (loadsFields fields >>= objectHook) = .ok decoded := by
  rw [loads, bind_eq_ok_iff, bind_eq_ok_iff]
  simp only [bind_eq_ok_iff, pure, Except.pure, Except.ok.injEq, JsonValue.object.injEq,
    exists_eq_right]

theorem loads_list_eq_ok_iff {items decoded : List JsonValue} :
    loads (.list items) = .ok (.list decoded) ↔ loadsItems items = .ok decoded := by
  rw [loads, bind_eq_ok_iff]
  simp only [pure, Except.pure, Except.ok.injEq, JsonValue.list.injEq, exists_eq_right]

theorem objectHook_cons_eq_ok_iff {field : String} {value decoded : JsonValue}
    {rest decodedRest : List (String × JsonValue)} :
    objectHook ((field, value) :: rest) = .ok ((field, decoded) :: decodedRest) ↔
      hookValue field value = .ok decoded ∧ objectHook rest = .ok decodedRest := by
  rw [objectHook, bind_eq_ok_iff]
  simp only [bind_eq_ok_iff, pure, Except.pure, Except.ok.injEq, List.cons.injEq, Prod.mk.injEq,
    true_and]
  constructor
  · rintro ⟨_, hooked, _, hookedRest, rfl, rfl⟩
    exact ⟨hooked, hookedRest⟩
  · rintro ⟨hooked, hookedRest⟩
    exact ⟨decoded, hooked, decodedRest, hookedRest, rfl, rfl⟩

theorem loadsFields_cons_eq_ok_iff {field : String} {value : JsonValue}
    {rest loaded : List (String × JsonValue)} :
    loadsFields ((field, value) :: rest) = .ok loaded ↔
      ∃ value' rest', loads value = .ok value' ∧ loadsFields rest = .ok rest' ∧
        (field, value') :: rest' = loaded := by
  rw [loadsFields, bind_eq_ok_iff]
  simp only [bind_eq_ok_iff, pure, Except.pure, Except.ok.injEq]
  constructor
  · rintro ⟨value', loadedValue, rest', loadedRest, same⟩
    exact ⟨value', rest', loadedValue, loadedRest, same⟩
  · rintro ⟨value', rest', loadedValue, loadedRest, same⟩
    exact ⟨value', loadedValue, rest', loadedRest, same⟩

theorem loadsItems_cons_eq_ok_iff {item : JsonValue} {rest loaded : List JsonValue} :
    loadsItems (item :: rest) = .ok loaded ↔
      ∃ item' rest', loads item = .ok item' ∧ loadsItems rest = .ok rest' ∧
        item' :: rest' = loaded := by
  rw [loadsItems, bind_eq_ok_iff]
  simp only [bind_eq_ok_iff, pure, Except.pure, Except.ok.injEq]
  constructor
  · rintro ⟨item', loadedItem, rest', loadedRest, same⟩
    exact ⟨item', rest', loadedItem, loadedRest, same⟩
  · rintro ⟨item', rest', loadedItem, loadedRest, same⟩
    exact ⟨item', loadedItem, rest', loadedRest, same⟩

/-- The fields of an object are decoded one by one. -/
theorem loads_fields_cons_iff {field : String} {value decoded : JsonValue}
    {rest decodedRest : List (String × JsonValue)} :
    (loadsFields ((field, value) :: rest) >>= objectHook) = .ok ((field, decoded) :: decodedRest) ↔
      (loads value >>= hookValue field) = .ok decoded ∧
        (loadsFields rest >>= objectHook) = .ok decodedRest := by
  simp only [bind_eq_ok_iff, loadsFields_cons_eq_ok_iff]
  constructor
  · rintro ⟨_, ⟨value', rest', loaded, loadedRest, rfl⟩, hooked⟩
    obtain ⟨hookedValue, hookedRest⟩ := objectHook_cons_eq_ok_iff.mp hooked
    exact ⟨⟨value', loaded, hookedValue⟩, rest', loadedRest, hookedRest⟩
  · rintro ⟨⟨value', loaded, hookedValue⟩, rest', loadedRest, hookedRest⟩
    exact ⟨_, ⟨value', rest', loaded, loadedRest, rfl⟩,
      objectHook_cons_eq_ok_iff.mpr ⟨hookedValue, hookedRest⟩⟩

theorem mapM_b64decode_cons_iff {item decoded : JsonValue} {rest decodedRest : List JsonValue} :
    (item :: rest).mapM b64decode = .ok (decoded :: decodedRest) ↔
      b64decode item = .ok decoded ∧ rest.mapM b64decode = .ok decodedRest := by
  rw [List.mapM_cons, bind_eq_ok_iff]
  simp only [bind_eq_ok_iff, pure, Except.pure, Except.ok.injEq, List.cons.injEq]
  constructor
  · rintro ⟨_, ran, _, ranRest, rfl, rfl⟩
    exact ⟨ran, ranRest⟩
  · rintro ⟨ran, ranRest⟩
    exact ⟨decoded, ran, decodedRest, ranRest, rfl, rfl⟩

theorem eq_bytes_of_mapM_b64decode {items decoded : List JsonValue}
    (ran : items.mapM b64decode = .ok decoded) :
    ∀ item ∈ decoded, ∃ content, item = .bytes content := by
  induction items generalizing decoded with
  | nil =>
      cases ran
      simp
  | cons item rest ih =>
      cases decoded with
      | nil => simp
      | cons first decodedRest =>
          obtain ⟨ranItem, ranRest⟩ := mapM_b64decode_cons_iff.mp ran
          simp only [List.forall_mem_cons]
          exact ⟨eq_bytes_of_b64decode ranItem, ih ranRest⟩

/-- Certificates in a list come back. -/
theorem loadsItems_certificates {items : List JsonValue}
    (certificates : ∀ item ∈ items, ∃ content, item = .bytes content) :
    ∃ loaded, loadsItems (dumpsItems items) = .ok loaded ∧ loaded.mapM b64decode = .ok items := by
  induction items with
  | nil => exact ⟨[], rfl, rfl⟩
  | cons item rest ih =>
      simp only [List.forall_mem_cons] at certificates
      obtain ⟨⟨content, rfl⟩, restCertificates⟩ := certificates
      obtain ⟨loaded, loadedRest, decodedRest⟩ := ih restCertificates
      refine ⟨.text (b64encode content) :: loaded, ?_, ?_⟩
      · exact loadsItems_cons_eq_ok_iff.mpr ⟨_, _, rfl, loadedRest, rfl⟩
      · exact mapM_b64decode_cons_iff.mpr ⟨b64decode_b64encode content, decodedRest⟩

section Hook

variable {field : String}

theorem hookValue_text (known : field ∈ base64EncodedFieldsSet) (string : String) :
    hookValue field (.text string) =
      if field ∈ ["Value", "value"] ∧ string.length ≤ 15 then .ok (.text string)
      else b64decode (.text string) := by
  simp [hookValue, known, isInt, isShortText]

/-- A text or a byte string under a known name. -/
theorem hookValue_text_eq_text_iff (known : field ∈ base64EncodedFieldsSet) (string : String) :
    hookValue field (.text string) = .ok (.text string) ↔
      field ∈ ["Value", "value"] ∧ string.length ≤ 15 := by
  rw [hookValue_text known]
  split
  · rename_i short
    exact ⟨fun _ => short, fun _ => rfl⟩
  · rename_i long
    constructor
    · intro ran
      obtain ⟨content, same⟩ := eq_bytes_of_b64decode ran
      cases same
    · exact fun short => absurd short long

theorem hookValue_encoded_eq_bytes_iff (known : field ∈ base64EncodedFieldsSet)
    (content : List UInt8) :
    hookValue field (.text (b64encode content)) = .ok (.bytes content) ↔
      (field ∈ ["Value", "value"] → 10 ≤ content.length) := by
  rw [hookValue_text known, b64decode_b64encode]
  split
  · rename_i mistaken
    have short := (b64encode_short_iff content).mp mistaken.2
    constructor
    · intro same
      cases same
    · intro long
      have := long mistaken.1
      omega
  · rename_i decoded
    constructor
    · intro _ number
      by_contra short
      exact decoded ⟨number, (b64encode_short_iff content).mpr (by omega)⟩
    · exact fun _ => rfl

/-- A value that is no string goes through as an integer or not at all. -/
theorem hookValue_eq_self_iff (known : field ∈ base64EncodedFieldsSet) {value : JsonValue}
    (refused : b64decode value = .error .typeError) (noList : ∀ items, value ≠ .list items) :
    hookValue field value = .ok value ↔ field ∈ ["Value", "value"] ∧ value.isInt := by
  have noText : value.isShortText = false := by
    cases value with
    | text string =>
        rw [b64decode] at refused
        split at refused
        · unfold b64decodeChars at refused
          split at refused <;> cases refused
        · cases refused
    | _ => rfl
  have hook : hookValue field value =
      if field ∈ ["Value", "value"] ∧ value.isInt then .ok value else .error .typeError := by
    unfold hookValue
    rw [if_neg (not_not.mpr known)]
    split
    · rfl
    · rw [if_neg (by simp [noText])]
      split
      · exact absurd rfl (noList _)
      · exact refused
  rw [hook]
  split
  · rename_i integer
    exact ⟨fun _ => integer, fun _ => rfl⟩
  · rename_i other
    constructor
    · intro same
      cases same
    · exact fun integer => absurd integer other

/-- Nothing but certificates comes back from a list under a known name. -/
theorem hookValue_loads_list_iff (known : field ∈ base64EncodedFieldsSet)
    (items : List JsonValue) :
    (loads (dumps (.list items)) >>= hookValue field) = .ok (.list items) ↔
      field = "Certificate" ∧ ∀ item ∈ items, ∃ content, item = .bytes content := by
  have hook : ∀ loaded, hookValue field (.list loaded) =
      if field = "Certificate" then (loaded.mapM b64decode).map .list
      else .error .typeError := by
    intro loaded
    simp [hookValue, known, isInt, isShortText, b64decode]
  simp only [dumps, loads, bind_eq_ok_iff, pure, Except.pure, Except.ok.injEq]
  constructor
  · rintro ⟨_, ⟨loaded, _, rfl⟩, hooked⟩
    rw [hook] at hooked
    split at hooked
    · rename_i certificate
      cases decoded : loaded.mapM b64decode with
      | error error =>
          rw [decoded] at hooked
          cases hooked
      | ok decodedItems =>
          rw [decoded] at hooked
          cases hooked
          exact ⟨certificate, eq_bytes_of_mapM_b64decode decoded⟩
    · cases hooked
  · rintro ⟨certificate, certificates⟩
    obtain ⟨loaded, loadedItems, decoded⟩ := loadsItems_certificates certificates
    refine ⟨_, ⟨loaded, loadedItems, rfl⟩, ?_⟩
    rw [hook, if_pos certificate, decoded]
    rfl

/-- One value under a known name. -/
theorem hookValue_loads_iff (known : field ∈ base64EncodedFieldsSet) (value : JsonValue) :
    (loads (dumps value) >>= hookValue field) = .ok value ↔ value.SurvivesUnder field := by
  cases value with
  | object fields =>
      simp only [SurvivesUnder, iff_false, bind_eq_ok_iff, dumps, loads]
      rintro ⟨_, ⟨loaded, _, decoded, hookedFields, same⟩, hooked⟩
      cases same
      have refused : hookValue field (.object decoded) = .error .typeError := by
        simp [hookValue, known, isInt, isShortText, b64decode]
      rw [refused] at hooked
      cases hooked
  | list items => exact hookValue_loads_list_iff known items
  | text string => exact hookValue_text_eq_text_iff known string
  | bytes content => exact hookValue_encoded_eq_bytes_iff known content
  | integer value =>
      show hookValue field (.integer value) = _ ↔ _
      rw [hookValue_eq_self_iff known rfl (by simp)]
      simp [isInt, SurvivesUnder]
  | float value =>
      show hookValue field (.float value) = _ ↔ _
      rw [hookValue_eq_self_iff known rfl (by simp)]
      simp [isInt, SurvivesUnder]
  | boolean value =>
      show hookValue field (.boolean value) = _ ↔ _
      rw [hookValue_eq_self_iff known rfl (by simp)]
      simp [isInt, SurvivesUnder]
  | null =>
      show hookValue field .null = _ ↔ _
      rw [hookValue_eq_self_iff known rfl (by simp)]
      simp [isInt, SurvivesUnder]

end Hook

mutual

/-- What was dumped is loaded again exactly if no value in it is mistaken. -/
theorem loads_dumpsTree_iff (tree : JsonValue) : loads (dumps tree) = .ok tree ↔ tree.Survives := by
  cases tree with
  | object fields =>
      rw [dumps, loads_object_eq_ok_iff, Survives]
      exact loads_dumpsFields_iff fields
  | list items =>
      rw [dumps, loads_list_eq_ok_iff, Survives]
      exact loads_dumpsItems_iff items
  | text string => simp [dumps, loads, Survives]
  | bytes content => simp [dumps, loads, Survives]
  | integer value => simp [dumps, loads, Survives]
  | float value => simp [dumps, loads, Survives]
  | boolean value => simp [dumps, loads, Survives]
  | null => simp [dumps, loads, Survives]

theorem loads_dumpsFields_iff (fields : List (String × JsonValue)) :
    (loadsFields (dumpsFields fields) >>= objectHook) = .ok fields ↔ FieldsSurvive fields := by
  match fields with
  | [] => simp [dumpsFields, loadsFields, objectHook, FieldsSurvive, bind, Except.bind]
  | (field, value) :: rest =>
      rw [dumpsFields, loads_fields_cons_iff, FieldsSurvive, loads_dumpsFields_iff rest]
      split
      · rename_i known
        rw [hookValue_loads_iff known]
      · rename_i unknown
        rw [← loads_dumpsTree_iff value, bind_eq_ok_iff]
        simp [hookValue, unknown]

theorem loads_dumpsItems_iff (items : List JsonValue) :
    loadsItems (dumpsItems items) = .ok items ↔ ItemsSurvive items := by
  match items with
  | [] => simp [dumpsItems, loadsItems, ItemsSurvive]
  | item :: rest =>
      rw [dumpsItems, loadsItems_cons_eq_ok_iff, ItemsSurvive, ← loads_dumpsTree_iff item,
        ← loads_dumpsItems_iff rest]
      constructor
      · rintro ⟨_, _, loaded, loadedRest, same⟩
        cases same
        exact ⟨loaded, loadedRest⟩
      · rintro ⟨loaded, loadedRest⟩
        exact ⟨item, rest, loaded, loadedRest, rfl⟩

end

/-- A byte string with an identifier for its signature. -/
structure IdentifiedBytes (maxLength : Nat) where
  id : String
  value : List UInt8
  max_length : value.length ≤ maxLength

def IdentifiedBytes.dict {maxLength : Nat} (element : IdentifiedBytes maxLength) : JsonValue :=
  .object [("Id", .text element.id), ("value", .bytes element.value)]

abbrev EncryptedPrivateKey := IdentifiedBytes 48

abbrev DHPublicKey := IdentifiedBytes 65

theorem IdentifiedBytes.recovered_iff {maxLength : Nat} (element : IdentifiedBytes maxLength) :
    loads (dumps element.dict) = .ok element.dict ↔ 10 ≤ element.value.length := by
  rw [loads_dumpsTree_iff]
  simp [dict, Survives, FieldsSurvive, SurvivesUnder, base64EncodedFieldsSet]

structure EMAID where
  id : String
  value : String
  min_length : 14 ≤ value.length
  max_length : value.length ≤ 15

def EMAID.dict (emaid : EMAID) : JsonValue :=
  .object [("Id", .text emaid.id), ("value", .text emaid.value)]

theorem EMAID.recovered (emaid : EMAID) : loads (dumps emaid.dict) = .ok emaid.dict := by
  rw [loads_dumpsTree_iff]
  simp [dict, Survives, FieldsSurvive, SurvivesUnder, base64EncodedFieldsSet, emaid.max_length]

/-- `ContractAuthenticationReq` of DIN SPEC 70121, whose challenge is a text. -/
structure DinContractAuthentication where
  genChallenge : Option String
  id : Option String

def DinContractAuthentication.dict (request : DinContractAuthentication) : JsonValue :=
  .object
    ((request.genChallenge.map fun challenge => ("GenChallenge", .text challenge)).toList ++
      (request.id.map fun id => ("Id", .text id)).toList)

theorem DinContractAuthentication.recovered_iff (request : DinContractAuthentication) :
    loads (dumps request.dict) = .ok request.dict ↔ request.genChallenge = none := by
  obtain ⟨genChallenge, id⟩ := request
  rw [loads_dumpsTree_iff]
  cases genChallenge with
  | none => cases id <;> simp [dict, Survives, FieldsSurvive, base64EncodedFieldsSet]
  | some challenge =>
      simp [dict, Survives, FieldsSurvive, SurvivesUnder, base64EncodedFieldsSet]

/-- What the encoder wrote is decoded to the same tree. -/
theorem json_roundTrip_iff (tree : JsonValue) :
    CustomJSONDecoder.loads (CustomJSONEncoder.dumps tree) = .ok tree ↔ tree.Survives :=
  loads_dumpsTree_iff tree

def shortKey : DHPublicKey where
  id := "id1"
  value := [1]
  max_length := by decide

theorem shortKey_not_recovered :
    loads (dumps shortKey.dict) =
        .ok (.object [("Id", .text "id1"), ("value", .text "AQ==")]) ∧
      loads (dumps shortKey.dict) ≠ .ok shortKey.dict := by
  have loaded : loads (dumps shortKey.dict) =
      .ok (.object [("Id", .text "id1"), ("value", .text "AQ==")]) := rfl
  rw [loaded]
  simp [IdentifiedBytes.dict]

end Iso15118.Shared
