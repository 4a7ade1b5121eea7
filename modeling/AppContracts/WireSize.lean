/-
How long a canonical encoding is.

Bounds on the encoding of a dict from bounds on its fields; texts of printable
ASCII without quotes and backslashes take a byte a character.
-/
import AppContracts.DigestEvaluation
import AppContracts.SnapshotContents
import AppContracts.Wire

set_option autoImplicit false

namespace AppContracts

/-- The bytes of a text in UTF-8. -/
def width (cs : List Char) : ℕ := (cs.map Char.utf8Size).sum

theorem length_encode_utf8 (text : String) : (encode_utf8 text).length = width text.toList := by
  have hencode : text.toByteArray = text.toList.utf8Encode := String.utf8Encode_toList.symm
  have hlength : ∀ cs : List Char, (cs.flatMap String.utf8EncodeChar).length = width cs := by
    intro cs
    rw [List.length_flatMap, width]
    exact congrArg List.sum (List.map_congr_left fun c _ => String.length_utf8EncodeChar c)
  rw [encode_utf8, hencode, List.utf8Encode, List.data_toByteArray, hlength]

@[simp] theorem width_nil : width [] = 0 := rfl

@[simp] theorem width_cons (c : Char) (cs : List Char) : width (c :: cs) = c.utf8Size + width cs := rfl

@[simp] theorem width_append (cs ds : List Char) : width (cs ++ ds) = width cs + width ds := by
  rw [width, List.map_append, List.sum_append]
  rfl

theorem length_le_width (cs : List Char) : cs.length ≤ width cs := by
  induction cs with
  | nil => exact Nat.le_refl 0
  | cons c rest ih =>
    have hsize := c.utf8Size_pos
    rw [width_cons, List.length_cons]
    omega

theorem width_le (cs : List Char) : width cs ≤ 4 * cs.length := by
  induction cs with
  | nil => exact Nat.le_refl 0
  | cons c rest ih =>
    have hsize := c.utf8Size_le_four
    rw [width_cons, List.length_cons]
    omega

/-- The bytes of a value's canonical encoding. -/
def json_width (j : Json) : ℕ := width (j.norm.print false)

/-- The bytes of an ASCII value's encoding, counted without its strings' characters. -/
theorem json_width_ascii {j : Json} (h : j.plain_ascii = true) :
    json_width j = width j.ascii_norm.ascii_text := by
  simp only [Json.plain_ascii, Bool.and_eq_true] at h
  rw [json_width, Json.norm_ascii j h.1.2, Json.print_ascii _ h.2]

theorem length_encoding {j : Json} {bytes : Bytes} (h : canonical_encoding j = some bytes) :
    bytes.length = json_width j := by
  rw [(canonical_encoding_some.mp h).2, length_encode_utf8, String.toList_ofList]
  rfl

/-- The encoding of a dict is not empty. -/
theorem encoding_ne_nil {fields : List (PyStr × Json)} {bytes : Bytes}
    (h : canonical_encoding (.obj fields) = some bytes) : bytes ≠ [] := by
  rintro rfl
  have hlength := length_encoding h
  have hopen : 1 ≤ Char.utf8Size '\x7b' := by decide
  rw [json_width, Json.norm, Json.print, width_cons, List.length_nil] at hlength
  omega

/-! ## Texts -/

/-- Printable ASCII that a JSON string holds as it is. -/
def is_bare (c : Char) : Bool :=
  0x20 ≤ c.toNat && c.toNat < 0x7f && c.toNat != 0x22 && c.toNat != 0x5c

theorem utf8Size_bare {c : Char} (h : is_bare c = true) : c.utf8Size = 1 := by
  simp only [is_bare, Bool.and_eq_true, decide_eq_true_eq, bne_iff_ne, ne_eq] at h
  obtain ⟨⟨⟨-, hhigh⟩, -⟩, -⟩ := h
  have hval : c.val.toNat ≤ 0x7f := Nat.le_of_lt hhigh
  rw [Char.utf8Size, if_pos (UInt32.le_iff_toNat_le.mpr hval)]

/-- Bare characters take a byte each. -/
theorem width_bare {cs : List Char} (h : cs.all is_bare = true) : width cs = cs.length := by
  induction cs with
  | nil => rfl
  | cons c rest ih =>
    rw [List.all_cons, Bool.and_eq_true] at h
    rw [width_cons, utf8Size_bare h.1, ih h.2, List.length_cons, Nat.add_comm]

theorem width_escape_bare {c : Char} (h : is_bare c = true) : width (Json.escape false c.toNat) = 1 := by
  have hsize := utf8Size_bare h
  simp only [is_bare, Bool.and_eq_true, decide_eq_true_eq, bne_iff_ne, ne_eq] at h
  obtain ⟨⟨⟨hlow, hhigh⟩, hquote⟩, hback⟩ := h
  have hescape : Json.escape false c.toNat = [Char.ofNat c.toNat] := by
    unfold Json.escape
    rw [if_neg hquote, if_neg hback, if_neg (by omega), if_neg (by omega), if_neg (by omega),
      if_neg (by omega), if_neg (by omega), if_neg (by simp; omega)]
  rw [hescape, Char.ofNat_toNat, width_cons, width_nil, hsize]

/-- A bare text takes a byte a character, and its quotes. -/
theorem width_print_bare {s : String} (h : s.toList.all is_bare = true) :
    width (Json.print_str false (.text s)) = s.length + 2 := by
  have hbody : ∀ cs : List Char, cs.all is_bare = true →
      width ((cs.map Char.toNat).flatMap (Json.escape false)) = cs.length := by
    intro cs hcs
    induction cs with
    | nil => rfl
    | cons c rest ih =>
      rw [List.all_cons, Bool.and_eq_true] at hcs
      rw [List.map_cons, List.flatMap_cons, width_append, width_escape_bare hcs.1, ih hcs.2,
        List.length_cons]
      omega
  have hquote : Char.utf8Size '"' = 1 := by decide
  rw [Json.print_str, PyStr.codes, width_cons, width_append, hbody s.toList h, width_cons, width_nil, hquote,
    String.length_toList]
  omega

theorem json_width_text {s : String} (h : s.toList.all is_bare = true) :
    json_width (.str (.text s)) = s.length + 2 := width_print_bare h

/-! Facts about literals are decided on their bytes: the kernel takes long to find the
characters of a literal. -/

/-- `is_bare` of a byte. -/
def bare_byte (b : ℕ) : Bool := 0x20 ≤ b && b < 0x7f && b != 0x22 && b != 0x5c

theorem bare_of_bytes {s : String} (h : (utf8_bytes s).all bare_byte = true) :
    s.toList.all is_bare = true := by
  have hascii : ascii_str (.text s) = true := by
    refine List.all_eq_true.mpr fun b hb => decide_eq_true ?_
    have hbare := List.all_eq_true.mp h b hb
    simp only [bare_byte, Bool.and_eq_true, decide_eq_true_eq] at hbare
    omega
  have hcodes := codes_ascii hascii
  rw [PyStr.codes, byte_codes] at hcodes
  rw [← hcodes, List.all_map] at h
  exact h

theorem length_le_bytes (s : String) : s.length ≤ (utf8_bytes s).length := by
  have hwidth : ∀ cs : List Char, cs.length ≤ width cs := by
    intro cs
    induction cs with
    | nil => exact Nat.le_refl 0
    | cons c rest ih =>
      have hsize := c.utf8Size_pos
      rw [width_cons, List.length_cons]
      omega
  rw [utf8_bytes, List.length_map, ← String.length_toList]
  exact (hwidth s.toList).trans_eq (length_encode_utf8 s).symm

/-- Names, and how long they are together. -/
theorem bare_names {names : List String} (h : (names.all fun s => (utf8_bytes s).all bare_byte) = true) :
    (names.all fun key => key.toList.all is_bare) = true :=
  List.all_eq_true.mpr fun s hs => bare_of_bytes (List.all_eq_true.mp h s hs)

theorem names_length_le {names : List String} {n : ℕ}
    (h : (names.map fun s => (utf8_bytes s).length).sum ≤ n) : (names.map String.length).sum ≤ n := by
  refine le_trans ?_ h
  clear h
  induction names with
  | nil => exact Nat.le_refl 0
  | cons s rest ih => exact Nat.add_le_add (length_le_bytes s) ih

/-! ## Containers -/

/-- A dict is as wide as its fields, each with a colon and a comma. -/
theorem width_print_fields (fields : List (PyStr × Json)) :
    width (Json.print_fields false fields) ≤
      (fields.map fun f => width (Json.print_str false f.1) + width (f.2.print false) + 2).sum := by
  have hcolon : Char.utf8Size ':' = 1 := by decide
  have hcomma : Char.utf8Size ',' = 1 := by decide
  induction fields with
  | nil => exact Nat.le_refl 0
  | cons f rest ih =>
    obtain ⟨k, j⟩ := f
    cases rest with
    | nil =>
      simp only [Json.print_fields, width_append, width_cons, hcolon, List.map_cons, List.map_nil,
        List.sum_cons, List.sum_nil]
      omega
    | cons g rest =>
      simp only [Json.print_fields, width_append, width_cons, hcolon, hcomma, List.map_cons,
        List.sum_cons] at ih ⊢
      omega

/-- **A record is no wider than its fields**: each takes its key, its value and
four more bytes. -/
theorem json_width_record {fields : List (String × Json)}
    (hkeys : (fields.map Prod.fst).all (fun key => key.toList.all is_bare) = true) :
    json_width (.record fields) ≤ (fields.map fun f => f.1.length + json_width f.2 + 4).sum + 2 := by
  have hopen : Char.utf8Size '\x7b' = 1 ∧ Char.utf8Size '\x7d' = 1 := by decide
  generalize hnormal : Json.norm_fields (fields.map fun f => (PyStr.text f.1, f.2)) = normal
  have hsorted : ((Json.sort_fields normal).map fun f =>
        width (Json.print_str false f.1) + width (f.2.print false) + 2).sum =
      (normal.map fun f => width (Json.print_str false f.1) + width (f.2.print false) + 2).sum :=
    ((Json.sort_fields_perm normal).map _).sum_eq
  have hsum : (normal.map fun f => width (Json.print_str false f.1) + width (f.2.print false) + 2).sum =
      (fields.map fun f => f.1.length + json_width f.2 + 4).sum := by
    rw [← hnormal, Json.norm_fields_eq, List.map_map, List.map_map]
    refine congrArg List.sum (List.map_congr_left fun f hf => ?_)
    have hkey := List.all_eq_true.mp hkeys f.1 (List.mem_map_of_mem hf)
    simp only [Function.comp_apply, width_print_bare hkey, json_width]
    omega
  have hwidth := width_print_fields (Json.sort_fields normal)
  rw [hsorted, hsum] at hwidth
  rw [json_width, Json.record, Json.norm, hnormal, Json.print, width_cons, width_append, width_cons,
    width_nil, hopen.1, hopen.2]
  omega

/-- A record whose values are bounded. -/
theorem json_width_bounded {fields : List (String × Json)} {n : ℕ}
    (hkeys : (fields.map Prod.fst).all (fun key => key.toList.all is_bare) = true)
    (hvalues : ∀ f ∈ fields, json_width f.2 ≤ n) :
    json_width (.record fields) ≤
      ((fields.map Prod.fst).map String.length).sum + (n + 4) * fields.length + 2 := by
  refine (json_width_record hkeys).trans ?_
  clear hkeys
  induction fields with
  | nil => exact Nat.le_refl 2
  | cons f rest ih =>
    have hfirst := hvalues f List.mem_cons_self
    have hrest := ih fun g hg => hvalues g (List.mem_cons_of_mem _ hg)
    simp only [List.map_cons, List.sum_cons, List.length_cons, Nat.mul_succ]
    omega

/-- An array is no wider than its items, each with a comma. -/
theorem json_width_arr (items : List Json) :
    json_width (.arr items) ≤ (items.map fun j => json_width j + 1).sum + 2 := by
  have hcomma : Char.utf8Size ',' = 1 := by decide
  have hopen : Char.utf8Size '[' = 1 ∧ Char.utf8Size ']' = 1 := by decide
  have hitems : ∀ items : List Json, width (Json.print_items false (items.map Json.norm)) ≤
      (items.map fun j => json_width j + 1).sum := by
    intro items
    induction items with
    | nil => exact Nat.le_refl 0
    | cons j rest ih =>
      cases rest with
      | nil =>
        simp only [List.map_cons, List.map_nil, Json.print_items, List.sum_cons, List.sum_nil, json_width]
        omega
      | cons k rest =>
        simp only [List.map_cons, Json.print_items, width_append, width_cons, hcomma, List.sum_cons,
          json_width] at ih ⊢
        omega
  have := hitems items
  rw [json_width, Json.norm, Json.norm_items_eq, Json.print, width_cons, width_append, width_cons, width_nil,
    hopen.1, hopen.2]
  omega

/-! ## Bare texts -/

theorem bare_of_hex_digit {c : Char} (h : GitHubSnapshot.is_oid_digit c = true) : is_bare c = true := by
  simp only [GitHubSnapshot.is_oid_digit, Char.isDigit, Bool.or_eq_true, Bool.and_eq_true,
    decide_eq_true_eq] at h
  have hrange : 48 ≤ c.val.toNat ∧ c.val.toNat ≤ 57 ∨ 97 ≤ c.val.toNat ∧ c.val.toNat ≤ 102 := by
    rcases h with h | h
    · exact .inl ⟨UInt32.le_iff_toNat_le.mp h.1, UInt32.le_iff_toNat_le.mp h.2⟩
    · exact .inr ⟨UInt32.le_iff_toNat_le.mp h.1, UInt32.le_iff_toNat_le.mp h.2⟩
  have hval : c.toNat = c.val.toNat := rfl
  simp only [is_bare, hval, Bool.and_eq_true, decide_eq_true_eq, bne_iff_ne, ne_eq]
  omega

theorem bare_hex {n : ℕ} {text : String} (h : is_hex n text = true) :
    text.toList.all is_bare = true ∧ text.length = n := by
  rw [is_hex, Bool.and_eq_true, beq_iff_eq, String.length_toList] at h
  exact ⟨List.all_eq_true.mpr fun c hc => bare_of_hex_digit (List.all_eq_true.mp h.2 c hc), h.1⟩

theorem bare_b64encode (value : Bytes) : (b64encode value).toList.all is_bare = true := by
  have halphabet : ∀ c ∈ Base64.alphabet, is_bare c = true := List.all_eq_true.mp (by decide +kernel)
  have hdigit : ∀ v, is_bare (Base64.digit v) = true := by
    intro v
    rw [Base64.digit, List.getD_eq_getElem?_getD]
    rcases hv : Base64.alphabet[v]? with _ | c
    · rfl
    · exact halphabet c (List.mem_of_getElem? hv)
  have hpad : is_bare '=' = true := by decide
  rw [b64encode, String.toList_ofList]
  fun_induction Base64.encode value with
  | case1 => rfl
  | case2 x => simp [hdigit, hpad]
  | case3 x y => simp [hdigit, hpad]
  | case4 x y z rest ih => simp [hdigit, ih]

theorem bare_digest {text : String} (h : GitHubSnapshot.is_digest text = true) :
    text.toList.all is_bare = true ∧ text.length = 71 := by
  simp only [GitHubSnapshot.is_digest, Bool.and_eq_true, beq_iff_eq] at h
  obtain ⟨⟨hscheme, hlength⟩, hdigits⟩ := h
  obtain ⟨digits, hdigits'⟩ := List.isPrefixOf_iff_prefix.mp hscheme
  have hdrop : text.toList.drop "sha256:".length = digits := by
    rw [← hdigits']
    exact List.drop_left
  rw [hdrop] at hlength hdigits
  constructor
  · rw [← hdigits', List.all_append, Bool.and_eq_true]
    refine ⟨by decide, List.all_eq_true.mpr fun c hc => bare_of_hex_digit (List.all_eq_true.mp hdigits c hc)⟩
  · rw [← String.length_toList, ← hdigits', List.length_append, hlength]
    rfl

end AppContracts
