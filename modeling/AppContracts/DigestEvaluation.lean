/-
Digests of concrete values.

The kernel takes long to find the characters of a string literal, and little to find its
bytes. For a value whose strings are ASCII, `ascii_bytes` computes the canonical bytes
from the bytes of the strings, and `Lib/Sha256Numbers` computes their digest.
-/
import AppContracts.Digests
import AppContracts.Lib.Sha256Numbers

set_option autoImplicit false

namespace AppContracts

/-! ## Strings -/

/-- The bytes of an ASCII string, which are its code points. -/
def byte_codes : PyStr → List ℕ
  | .text s => utf8_bytes s
  | .surrogates codes _ => codes

/-- A string of ASCII bytes. -/
def ascii_str : PyStr → Bool
  | .text s => (utf8_bytes s).all (· < 128)
  | .surrogates _ _ => false

theorem ascii_encode {c : Char} (h : c.toNat < 128) :
    (String.utf8EncodeChar c).map UInt8.toNat = [c.toNat] := by
  have hval : c.toNat = c.val.toNat := rfl
  have hmod : c.val.toNat % 2 ^ 8 = c.val.toNat := Nat.mod_eq_of_lt (by omega)
  rw [String.utf8EncodeChar, if_pos (by omega), List.map_cons, List.map_nil, UInt8.toNat_ofNat', hmod,
    hval]

theorem codes_ascii {s : PyStr} (h : ascii_str s = true) : s.codes = byte_codes s := by
  match s, h with
  | .text s, h =>
    rw [PyStr.codes, byte_codes, utf8_bytes_chars]
    rw [ascii_str, utf8_bytes_chars, List.all_eq_true] at h
    -- the first byte of a character beyond ASCII is beyond ASCII
    have hascii : ∀ c ∈ s.toList, c.toNat < 128 := by
      intro c hc
      obtain ⟨b, hb⟩ := List.exists_mem_of_ne_nil _ (List.map_eq_nil_iff.not.mpr
        (List.ne_nil_of_length_pos (String.length_utf8EncodeChar c ▸ Char.utf8Size_pos c)))
      have hlt := of_decide_eq_true (h b (List.mem_flatMap.mpr ⟨c, hc, hb⟩))
      rwa [utf8EncodeChar_ascii hlt hb]
    clear h
    generalize s.toList = cs at hascii ⊢
    induction cs with
    | nil => rfl
    | cons c rest ih =>
      rw [List.map_cons, List.flatMap_cons, ascii_encode (hascii c List.mem_cons_self),
        ih fun d hd => hascii d (List.mem_cons_of_mem _ hd)]
      rfl

/-! ## Values -/

namespace Json

mutual

/-- Every string of the value is ASCII. -/
def ascii : Json → Bool
  | .str s => ascii_str s
  | .arr items => ascii_items items
  | .obj fields => ascii_fields fields
  | _ => true

/-- Every string of the items is ASCII. -/
def ascii_items : List Json → Bool
  | [] => true
  | j :: rest => ascii j && ascii_items rest

/-- Every string of the fields is ASCII. -/
def ascii_fields : List (PyStr × Json) → Bool
  | [] => true
  | (k, j) :: rest => ascii_str k && ascii j && ascii_fields rest

end

/-- The order of keys by their bytes. -/
def key_le (a b : PyStr × Json) : Prop := byte_codes a.1 ≤ byte_codes b.1

instance : DecidableRel key_le := fun a b =>
  inferInstanceAs (Decidable (byte_codes a.1 ≤ byte_codes b.1))

mutual

/-- `norm`, with keys compared by their bytes. -/
def ascii_norm : Json → Json
  | .arr items => .arr (ascii_norm_items items)
  | .obj fields => .obj ((ascii_norm_fields fields).insertionSort key_le)
  | j => j

/-- `ascii_norm` of every item. -/
def ascii_norm_items : List Json → List Json
  | [] => []
  | j :: rest => ascii_norm j :: ascii_norm_items rest

/-- `ascii_norm` of every field's value. -/
def ascii_norm_fields : List (PyStr × Json) → List (PyStr × Json)
  | [] => []
  | (k, j) :: rest => (k, ascii_norm j) :: ascii_norm_fields rest

end

/-- A string literal, from the bytes of the string. -/
def ascii_text_str (s : PyStr) : List Char :=
  '"' :: ((byte_codes s).flatMap (escape false) ++ ['"'])

mutual

/-- `print`, with strings read by their bytes. -/
def ascii_text : Json → List Char
  | .str s => ascii_text_str s
  | .arr items => '[' :: (ascii_text_items items ++ [']'])
  | .obj fields => '{' :: (ascii_text_fields fields ++ ['}'])
  | j => j.print false

/-- `print_items`. -/
def ascii_text_items : List Json → List Char
  | [] => []
  | [j] => ascii_text j
  | j :: k :: rest => ascii_text j ++ ',' :: ascii_text_items (k :: rest)

/-- `print_fields`. -/
def ascii_text_fields : List (PyStr × Json) → List Char
  | [] => []
  | [(k, j)] => ascii_text_str k ++ ':' :: ascii_text j
  | (k, j) :: f :: rest =>
    ascii_text_str k ++ ':' :: (ascii_text j ++ ',' :: ascii_text_fields (f :: rest))

end

variable {j : Json} {items : List Json} {fields : List (PyStr × Json)}

theorem ascii_of_mem (h : ascii_fields fields = true) : ∀ f ∈ fields, ascii_str f.1 = true := by
  induction fields with
  | nil => exact List.forall_mem_nil _
  | cons f rest ih =>
    simp only [ascii_fields, Bool.and_eq_true] at h
    exact List.forall_mem_cons.mpr ⟨h.1.1, ih h.2⟩

theorem keys_norm : (norm_fields fields).map Prod.fst = fields.map Prod.fst := by
  induction fields with
  | nil => rfl
  | cons f rest ih => rw [norm_fields, List.map_cons, List.map_cons, ih]

mutual

theorem norm_ascii : (j : Json) → j.ascii = true → j.norm = j.ascii_norm
  | .arr items, h => by rw [norm, ascii_norm, norm_items_ascii items h]
  | .obj fields, h => by
    have hkeys : ∀ f ∈ ascii_norm_fields fields, ascii_str f.1 = true := by
      intro f hf
      rw [← norm_fields_ascii fields h] at hf
      have hmem : f.1 ∈ fields.map Prod.fst := keys_norm ▸ List.mem_map_of_mem hf
      obtain ⟨g, hg, heq⟩ := List.mem_map.mp hmem
      exact heq ▸ ascii_of_mem h g hg
    have hsort := List.map_insertionSort (fun a b => a.1.le b.1) key_le id (ascii_norm_fields fields)
      fun a ha b hb => by rw [id, id, PyStr.le, key_le, codes_ascii (hkeys a ha), codes_ascii (hkeys b hb)]
    rw [List.map_id, List.map_id] at hsort
    rw [norm, ascii_norm, norm_fields_ascii fields h, sort_fields, hsort]
  | .null, _ | .bool _, _ | .int _, _ | .float _, _ | .str _, _ | .number _, _ | .other _ _, _ => rfl

theorem norm_items_ascii : (items : List Json) → ascii_items items = true →
    norm_items items = ascii_norm_items items
  | [], _ => rfl
  | j :: rest, h => by
    simp only [ascii_items, Bool.and_eq_true] at h
    rw [norm_items, ascii_norm_items, norm_ascii j h.1, norm_items_ascii rest h.2]

theorem norm_fields_ascii : (fields : List (PyStr × Json)) → ascii_fields fields = true →
    norm_fields fields = ascii_norm_fields fields
  | [], _ => rfl
  | (k, j) :: rest, h => by
    simp only [ascii_fields, Bool.and_eq_true] at h
    rw [norm_fields, ascii_norm_fields, norm_ascii j h.1.2, norm_fields_ascii rest h.2]

end

theorem print_str_ascii {s : PyStr} (h : ascii_str s = true) : print_str false s = ascii_text_str s := by
  rw [print_str, codes_ascii h, ascii_text_str]

mutual

theorem print_ascii : (j : Json) → j.ascii = true → j.print false = j.ascii_text
  | .str s, h => by rw [print, print_str_ascii h, ascii_text]
  | .arr items, h => by rw [print, print_items_ascii items h, ascii_text]
  | .obj fields, h => by rw [print, print_fields_ascii fields h, ascii_text]
  | .null, _ | .bool _, _ | .int _, _ | .float _, _ | .number _, _ | .other _ _, _ => by
    rw [ascii_text] <;> nofun

theorem print_items_ascii : (items : List Json) → ascii_items items = true →
    print_items false items = ascii_text_items items
  | [], _ => rfl
  | [j], h => by
    simp only [ascii_items, Bool.and_eq_true] at h
    rw [print_items, ascii_text_items, print_ascii j h.1]
  | j :: k :: rest, h => by
    rw [ascii_items, Bool.and_eq_true] at h
    rw [print_items, ascii_text_items, print_ascii j h.1, print_items_ascii (k :: rest) h.2]

theorem print_fields_ascii : (fields : List (PyStr × Json)) → ascii_fields fields = true →
    print_fields false fields = ascii_text_fields fields
  | [], _ => rfl
  | [(k, j)], h => by
    simp only [ascii_fields, Bool.and_eq_true] at h
    rw [print_fields, ascii_text_fields, print_str_ascii h.1.1, print_ascii j h.1.2]
  | (k, j) :: f :: rest, h => by
    rw [ascii_fields, Bool.and_eq_true, Bool.and_eq_true] at h
    rw [print_fields, ascii_text_fields, print_str_ascii h.1.1, print_ascii j h.1.2,
      print_fields_ascii (f :: rest) h.2]

end

/-- Every string of the value is ASCII, and its numbers have texts. -/
def plain_ascii (j : Json) : Bool := j.encodable false && j.ascii && j.ascii_norm.ascii

/-- The canonical bytes, from the bytes of the strings. -/
def ascii_bytes (j : Json) : List ℕ :=
  j.ascii_norm.ascii_text.flatMap fun c => (String.utf8EncodeChar c).map UInt8.toNat

theorem canonical_bytes_ascii (h : j.plain_ascii = true) : canonical_bytes j = j.ascii_bytes := by
  simp only [plain_ascii, Bool.and_eq_true] at h
  rw [canonical_bytes, norm_ascii j h.1.2, print_ascii _ h.2, utf8_bytes_chars, String.toList_ofList,
    ascii_bytes]

end Json

/-! ## Digests -/

/-- The digest of some bytes, from its digits. -/
theorem sha256_bytes_of {value : List ℕ} {digits : List Char}
    (h : Sha256.number_digits value = digits) :
    sha256_bytes value = String.ofList ('s' :: 'h' :: 'a' :: '2' :: '5' :: '6' :: ':' :: digits) := by
  have hprefix : "sha256:" = String.ofList ['s', 'h', 'a', '2', '5', '6', ':'] := rfl
  rw [sha256_bytes, Sha256.hexdigest_eq, h, hprefix, ← String.ofList_append]
  rfl

/-- The digest of an ASCII value, from its digits. -/
theorem sha256_digest_of {j : Json} {digits : List Char} (hj : j.plain_ascii = true)
    (h : Sha256.number_digits j.ascii_bytes = digits) :
    sha256_digest j =
      .ok (String.ofList ('s' :: 'h' :: 'a' :: '2' :: '5' :: '6' :: ':' :: digits)) := by
  have hencodable : j.encodable false = true := by
    simp only [Json.plain_ascii, Bool.and_eq_true] at hj
    exact hj.1.1
  exact sha256_digest_ok.mpr ⟨hencodable, by rw [Json.canonical_bytes_ascii hj, sha256_bytes_of h]⟩

end AppContracts
