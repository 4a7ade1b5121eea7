/-
Canonical digests: `digests.py`.

A digest is the SHA-256 of the canonical JSON of a value. Two values with one
digest are equal up to key order, unless their canonical texts are a SHA-256
collision; `Collision` names that case wherever an argument meets it.
-/
import AppContracts.Python
import AppContracts.Lib.Sha256

set_option autoImplicit false

namespace AppContracts

/-- A `bytes` value. -/
abbrev Bytes : Type := List UInt8

/-- The values of bytes. -/
def octets (value : Bytes) : List ℕ := value.map UInt8.toNat

/-- `text.encode("utf-8")`. -/
def encode_utf8 (text : String) : Bytes := text.toByteArray.data.toList

/-- The UTF-8 bytes of a text. -/
def utf8_bytes (text : String) : List ℕ := text.toByteArray.data.toList.map UInt8.toNat

theorem octets_encode (text : String) : octets (encode_utf8 text) = utf8_bytes text := rfl

theorem octets_inj {a b : Bytes} (h : octets a = octets b) : a = b :=
  List.map_injective_iff.mpr (fun _ _ => UInt8.toNat_inj.mp) h

/-- `value.decode("utf-8")`, `none` when it raises. -/
def decode_utf8 (value : Bytes) : Option String := String.fromUTF8? (ByteArray.mk value.toArray)

/-- UTF-8 text has one encoding. -/
theorem decode_utf8_some {value : Bytes} {text : String} :
    decode_utf8 value = some text ↔ value = encode_utf8 text := by
  rw [decode_utf8, String.fromUTF8?]
  constructor
  · intro h
    split_ifs at h with hvalid
    rw [← Option.some.inj h]
    rfl
  · rintro rfl
    have hbytes : ByteArray.mk (encode_utf8 text).toArray = text.toByteArray := by
      rw [encode_utf8, Array.toArray_toList]
    rw [hbytes, dif_pos text.isValidUTF8]
    rfl

/-- `canonical_json(value)`. -/
def canonical_json (value : Json) : Except Exn (List ℕ) :=
  match value.dumps false with
  | some text => .ok (utf8_bytes text)
  | none => .error ⟨.ValueError, "canonical JSON is not encodable"⟩

/-- `"sha256:" + hashlib.sha256(value).hexdigest()` of the bytes `value`. -/
def sha256_bytes (value : List ℕ) : String := "sha256:" ++ Sha256.hexdigest value

/-- `sha256_digest(value)`. -/
def sha256_digest (value : Json) : Except Exn String :=
  match canonical_json value with
  | .ok bytes => .ok (sha256_bytes bytes)
  | .error e => .error e

/-- Two different byte strings with one SHA-256 digest. -/
def Collision (a b : List ℕ) : Prop := a ≠ b ∧ sha256_bytes a = sha256_bytes b

theorem utf8_bytes_inj {s t : String} (h : utf8_bytes s = utf8_bytes t) : s = t := by
  have hbytes : s.toByteArray.data.toList = t.toByteArray.data.toList :=
    List.map_injective_iff.mpr (fun _ _ => UInt8.toNat_inj.mp) h
  have harray : s.toByteArray.data = t.toByteArray.data := Array.toList_inj.mp hbytes
  exact String.toByteArray_inj.mp (ByteArray.ext harray)

/-- UTF-8 encodes a text character by character. -/
theorem utf8_bytes_chars (text : String) :
    utf8_bytes text =
      text.toList.flatMap fun c => (String.utf8EncodeChar c).map UInt8.toNat := by
  have hencode : text.toByteArray = text.toList.utf8Encode := String.utf8Encode_toList.symm
  rw [utf8_bytes, hencode, List.utf8Encode, List.data_toByteArray, List.map_flatMap]

/-- The bytes of a character beyond ASCII are beyond ASCII. -/
theorem utf8EncodeChar_ascii {c : Char} {b : ℕ} (hb : b < 0x80)
    (h : b ∈ (String.utf8EncodeChar c).map UInt8.toNat) : c.toNat = b := by
  have hval : c.toNat = c.val.toNat := rfl
  unfold String.utf8EncodeChar at h
  simp only at h
  split_ifs at h <;> simp only [List.map_cons, List.map_nil, List.mem_cons, List.not_mem_nil,
    or_false, UInt8.toNat_ofNat'] at h <;> omega

/-- A byte of the ASCII range in a text's encoding is a character of the text. -/
theorem ascii_of_mem_utf8 {text : String} {b : ℕ} (hb : b < 0x80) (h : b ∈ utf8_bytes text) :
    ∃ c ∈ text.toList, c.toNat = b := by
  rw [utf8_bytes_chars, List.mem_flatMap] at h
  obtain ⟨c, hc, hmem⟩ := h
  exact ⟨c, hc, utf8EncodeChar_ascii hb hmem⟩

/-- The canonical bytes of an encodable value. -/
def canonical_bytes (value : Json) : List ℕ :=
  utf8_bytes (String.ofList (value.norm.print false))

theorem canonical_json_ok {value : Json} {bytes : List ℕ} :
    canonical_json value = .ok bytes ↔
      value.encodable false = true ∧ bytes = canonical_bytes value := by
  unfold canonical_json Json.dumps
  by_cases h : value.encodable false = true
  · simp only [h, if_true, canonical_bytes, Except.ok.injEq, true_and]
    exact eq_comm
  · simp [h]

theorem sha256_digest_ok {value : Json} {digest : String} :
    sha256_digest value = .ok digest ↔
      value.encodable false = true ∧ digest = sha256_bytes (canonical_bytes value) := by
  unfold sha256_digest canonical_json Json.dumps
  by_cases h : value.encodable false = true
  · simp only [h, if_true, canonical_bytes, Except.ok.injEq, true_and]
    exact eq_comm
  · simp [h]

/-- A value that is not encodable has no digest. -/
theorem sha256_digest_error {value : Json} (h : value.encodable false = false) :
    sha256_digest value = .error ⟨.ValueError, "canonical JSON is not encodable"⟩ := by
  simp [sha256_digest, canonical_json, Json.dumps, h]

/-- Sorting the keys does not change the digest. -/
@[simp] theorem sha256_digest_norm (value : Json) :
    sha256_digest value.norm = sha256_digest value := by
  simp only [sha256_digest, canonical_json, Json.dumps, Json.encodable_norm, Json.norm_norm]

/-- Canonical bytes determine a value up to key order. -/
theorem canonical_bytes_inj {j k : Json} (hj : j.wf ∧ j.plain) (hk : k.wf ∧ k.plain)
    (ej : j.encodable false = true) (ek : k.encodable false = true)
    (h : canonical_bytes j = canonical_bytes k) : j.norm = k.norm := by
  have htext := utf8_bytes_inj h
  refine Json.dumps_inj hj hk (t := String.ofList (j.norm.print false)) ?_ ?_
  · rw [Json.dumps, if_pos ej]
  · rw [Json.dumps, if_pos ek, htext]

/-- **Digests determine values**: two values with one digest are equal up to
key order, or their canonical bytes collide. -/
theorem sha256_digest_inj {j k : Json} (hj : j.wf ∧ j.plain) (hk : k.wf ∧ k.plain)
    {digest : String} (dj : sha256_digest j = .ok digest) (dk : sha256_digest k = .ok digest) :
    j.norm = k.norm ∨ Collision (canonical_bytes j) (canonical_bytes k) := by
  obtain ⟨ej, rfl⟩ := sha256_digest_ok.mp dj
  obtain ⟨ek, heq⟩ := sha256_digest_ok.mp dk
  by_cases h : canonical_bytes j = canonical_bytes k
  · exact .inl (canonical_bytes_inj hj hk ej ek h)
  · exact .inr ⟨h, heq⟩

end AppContracts
