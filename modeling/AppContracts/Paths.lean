/-
POSIX paths as text: splitting, joining, and what the readers of snapshots and
manifests take for a safe path.

A path is split at every slash, so `join_path` undoes `split_path`. A safe tree
path has none of the parts that normalization removes, and keeps its text.
-/
import AppContracts.Python
import Mathlib.Data.List.Infix

set_option autoImplicit false

namespace AppContracts

/-! ## Splitting -/

/-- `path.split("/")`. -/
def split_path (path : String) : List String := (path.toList.splitOn '/').map String.ofList

/-- `"/".join(parts)`. -/
def join_path (parts : List String) : String :=
  String.ofList (['/'].intercalate (parts.map String.toList))

/-- `path.rpartition("/")[0]`. -/
def parent_path (path : String) : String := join_path (split_path path).dropLast

/-- `path.rpartition("/")[2]`. -/
def base_name (path : String) : String := (split_path path).getLastD ""

/-- `path.count("/")`. -/
def slashes (path : String) : ℕ := path.toList.count '/'

theorem split_path_ne_nil (path : String) : split_path path ≠ [] := by
  simp [split_path, List.splitOn_ne_nil]

/-- Splitting and joining. -/
@[simp] theorem join_split_path (path : String) : join_path (split_path path) = path := by
  rw [join_path, split_path, List.map_map]
  have hid : String.toList ∘ String.ofList = id := funext fun _ => String.toList_ofList
  rw [hid, List.map_id, List.intercalate_splitOn, String.ofList_toList]

/-- Joining and splitting names that contain no slash. -/
theorem split_join_path {parts : List String} (h : ∀ p ∈ parts, '/' ∉ p.toList) (hne : parts ≠ []) :
    split_path (join_path parts) = parts := by
  rw [split_path, join_path, String.toList_ofList,
    List.splitOn_intercalate '/' (by simpa using h) (by simpa using hne), List.map_map]
  have hid : String.ofList ∘ String.toList = id := funext fun _ => String.ofList_toList
  rw [hid, List.map_id]

theorem split_path_inj {a b : String} (h : split_path a = split_path b) : a = b := by
  rw [← join_split_path a, h, join_split_path]

/-- No part of a split text contains the separator. -/
theorem not_mem_of_mem_splitOn {c : Char} {cs part : List Char} (h : part ∈ cs.splitOn c) :
    c ∉ part := by
  induction cs generalizing part with
  | nil => simp_all
  | cons x cs ih =>
    rw [List.splitOn_cons_eq_if_modifyHead] at h
    split_ifs at h with hx
    · rcases List.mem_cons.mp h with rfl | h
      · simp
      · exact ih h
    · obtain ⟨first, rest, heq⟩ := List.exists_cons_of_ne_nil (List.splitOn_ne_nil c cs)
      rw [heq, List.modifyHead_cons] at h
      rcases List.mem_cons.mp h with rfl | h
      · have hfirst := ih (heq ▸ List.mem_cons_self)
        have hne : ¬ c = x := fun heq => hx (by simp [heq])
        simp [hne, hfirst]
      · exact ih (heq ▸ List.mem_cons_of_mem _ h)

/-- The parts of a split text consist of its characters. -/
theorem mem_of_mem_splitOn {c d : Char} {cs part : List Char} (h : part ∈ cs.splitOn c)
    (hd : d ∈ part) : d ∈ cs := by
  induction cs generalizing part with
  | nil => simp_all
  | cons x cs ih =>
    rw [List.splitOn_cons_eq_if_modifyHead] at h
    split_ifs at h with hx
    · rcases List.mem_cons.mp h with rfl | h
      · exact absurd hd List.not_mem_nil
      · exact List.mem_cons_of_mem _ (ih h hd)
    · obtain ⟨first, rest, heq⟩ := List.exists_cons_of_ne_nil (List.splitOn_ne_nil c cs)
      rw [heq, List.modifyHead_cons] at h
      rcases List.mem_cons.mp h with rfl | h
      · rcases List.mem_cons.mp hd with rfl | hd
        · exact List.mem_cons_self
        · exact List.mem_cons_of_mem _ (ih (heq ▸ List.mem_cons_self) hd)
      · exact List.mem_cons_of_mem _ (ih (heq ▸ List.mem_cons_of_mem _ h) hd)

/-- The parts of a path consist of its characters. -/
theorem mem_of_mem_part {path p : String} {c : Char} (h : p ∈ split_path path)
    (hc : c ∈ p.toList) : c ∈ path.toList := by
  obtain ⟨cs, hcs, rfl⟩ := List.mem_map.mp h
  rw [String.toList_ofList] at hc
  exact mem_of_mem_splitOn hcs hc

/-- A joined path consists of slashes and of the characters of its parts. -/
theorem mem_join_path {parts : List String} {c : Char} (h : c ∈ (join_path parts).toList) :
    c = '/' ∨ ∃ p ∈ parts, c ∈ p.toList := by
  rw [join_path, String.toList_ofList] at h
  induction parts with
  | nil => simp at h
  | cons p parts ih =>
    by_cases hnil : parts = []
    · rw [hnil] at h
      simp only [List.map_cons, List.map_nil, List.intercalate_singleton] at h
      exact .inr ⟨p, List.mem_cons_self, h⟩
    · obtain ⟨q, rest, rfl⟩ := List.exists_cons_of_ne_nil hnil
      rw [List.map_cons, List.map_cons, List.intercalate_cons_cons, ← List.map_cons, List.mem_append,
        List.mem_append, List.mem_singleton] at h
      rcases h with (h | h) | h
      · exact .inr ⟨p, List.mem_cons_self, h⟩
      · exact .inl h
      · exact (ih h).imp_right fun ⟨r, hr, hc⟩ => ⟨r, List.mem_cons_of_mem _ hr, hc⟩

/-- A path has one part more than slashes. -/
theorem length_split_path (path : String) : (split_path path).length = slashes path + 1 := by
  rw [split_path, List.length_map, slashes]
  induction path.toList with
  | nil => simp
  | cons x cs ih =>
    rw [List.splitOn_cons_eq_if_modifyHead, List.count_cons]
    split_ifs with hx
    · rw [List.length_cons, ih]
    · rw [List.length_modifyHead, ih]

/-- No part of a split path contains a slash. -/
theorem no_slash_of_mem_split {path p : String} (h : p ∈ split_path path) : '/' ∉ p.toList := by
  obtain ⟨cs, hcs, rfl⟩ := List.mem_map.mp h
  rw [String.toList_ofList]
  exact not_mem_of_mem_splitOn hcs

/-! ## Normalization -/

/-- The loop of `posixpath.normpath` over the parts of a path. -/
def norm_parts (absolute : Bool) : List String → List String → List String
  | [], new => new
  | part :: rest, new =>
    if part = "" ∨ part = "." then norm_parts absolute rest new
    else if part ≠ ".." ∨ (absolute = false ∧ new = []) ∨ new.getLast? = some ".." then
      norm_parts absolute rest (new ++ [part])
    else norm_parts absolute rest new.dropLast

/-- `posixpath.normpath(path)`. -/
def normpath (path : String) : String :=
  let slashes := if "/".toList.isPrefixOf path.toList then
      if "//".toList.isPrefixOf path.toList && !"///".toList.isPrefixOf path.toList then 2 else 1
    else 0
  let parts := norm_parts (slashes != 0) (split_path path) []
  let text := String.ofList (List.replicate slashes '/') ++ join_path parts
  if path = "" ∨ text = "" then "." else text

/-- A part that normalization keeps. -/
def plain_part (part : String) : Bool := part ≠ "" && part ≠ "." && part ≠ ".."

theorem norm_parts_plain {parts : List String} (h : parts.all plain_part = true) (absolute : Bool)
    (new : List String) : norm_parts absolute parts new = new ++ parts := by
  induction parts generalizing new with
  | nil => simp [norm_parts]
  | cons part rest ih =>
    simp only [List.all_cons, Bool.and_eq_true, plain_part, decide_eq_true_eq] at h
    have hkeep : ¬ (part = "" ∨ part = ".") := not_or.mpr h.1.1
    rw [norm_parts, if_neg hkeep, if_pos (.inl h.1.2), ih h.2]
    simp

/-- **A path of plain parts is normalized already.** -/
theorem normpath_plain {path : String} (h : (split_path path).all plain_part = true) :
    normpath path = path := by
  have hne : path ≠ "" := by
    rintro rfl
    exact absurd h (by decide)
  have hstart : "/".toList.isPrefixOf path.toList = false := by
    by_contra hcon
    simp only [Bool.not_eq_false] at hcon
    obtain ⟨rest, hrest⟩ := List.isPrefixOf_iff_prefix.mp hcon
    have hfirst : "" ∈ split_path path := by
      rw [split_path, ← hrest]
      simp [List.splitOn_cons_eq_if_modifyHead]
    have hplain := List.all_eq_true.mp h _ hfirst
    simp [plain_part] at hplain
  simp only [normpath, hstart, Bool.false_eq_true, if_false]
  rw [norm_parts_plain h, List.nil_append, join_split_path]
  simp [hne]

/-! ## Whitespace -/

/-- `str.isspace` of one code point. -/
def is_space_code (n : ℕ) : Bool :=
  (9 ≤ n && n ≤ 13) || (28 ≤ n && n ≤ 32) || n == 0x85 || n == 0xa0 || n == 0x1680 ||
    (0x2000 ≤ n && n ≤ 0x200a) || n == 0x2028 || n == 0x2029 || n == 0x202f || n == 0x205f ||
    n == 0x3000

/-- `str.isspace` of one character. -/
def is_space (c : Char) : Bool := is_space_code c.toNat

/-- `value.strip()`. -/
def strip (value : String) : String :=
  String.ofList ((value.toList.dropWhile is_space).reverse.dropWhile is_space).reverse

/-- `value.strip()`, for the code points of a string. -/
def strip_codes (codes : List ℕ) : List ℕ :=
  ((codes.dropWhile is_space_code).reverse.dropWhile is_space_code).reverse

/-! ## Letters -/

theorem alpha_eq (c : Char) : c.isAlpha = (c.isUpper || c.isLower) := rfl

theorem upper_eq (c : Char) : c.isUpper = decide (c.val ≥ 'A'.val ∧ c.val ≤ 'Z'.val) := rfl

theorem lower_eq (c : Char) :
    c.isLower = (decide (c.val ≥ 'a'.val) && decide (c.val ≤ 'z'.val)) := rfl

/-- `ord(character) < 32 or ord(character) == 127`. -/
def is_control (c : Char) : Bool := c.toNat < 32 || c.toNat == 127

end AppContracts
