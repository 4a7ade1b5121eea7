/-
JSON as Python's `json` module writes and reads it.

`Json` is a Python value as far as `json.dumps` and a schema check can tell
values apart: the JSON kinds, strings with lone surrogates, which are strings
no UTF-8 text holds, and the objects of other types. `Json.print` writes the
compact text of `json.dumps(.., separators=(",", ":"))` with or without
`ensure_ascii`; `Json.norm` is what `sort_keys=True` does first; `Json.loads`
is the reader. The reading inverts the writing: see `JsonRoundTrip`.

A float is carried by the text `float.__repr__` gives it, and its number is the
double that text is read as (`Binary64`): a reader that meets another spelling,
`1.50` or `1E5`, keeps the `repr` of what it read, as `json.loads` does.
-/
import Mathlib.Data.List.Sort
import Mathlib.Algebra.GroupWithZero.Nat
import Mathlib.Data.List.Lex
import Mathlib.Data.Rat.Defs
import AppContracts.Lib.Binary64

set_option autoImplicit false

namespace AppContracts

/-! ## Strings -/

/-- A UTF-16 surrogate code point. -/
def is_surrogate (code : ℕ) : Bool := 0xd800 ≤ code && code ≤ 0xdfff

/-- A Python `str`: Unicode text, or a sequence of code points with a lone
surrogate among them, which no encoding accepts. -/
inductive PyStr : Type
  | text (s : String)
  | surrogates (codes : List ℕ) (lone : codes.any is_surrogate = true)
  deriving DecidableEq

namespace PyStr

/-- The code points of a string: what `len`, `re` and `<` see. -/
def codes : PyStr → List ℕ
  | text s => s.toList.map Char.toNat
  | surrogates codes _ => codes

/-- The string of a sequence of code points. -/
def of_codes (codes : List ℕ) : PyStr :=
  if h : codes.any is_surrogate then surrogates codes h
  else text (String.ofList (codes.map Char.ofNat))

/-- Python compares strings by code point. -/
def le (a b : PyStr) : Prop := a.codes ≤ b.codes

instance : DecidableRel le := fun a b => inferInstanceAs (Decidable (a.codes ≤ b.codes))

instance : IsTrans PyStr le := ⟨fun _ _ _ h₁ h₂ => le_trans (α := List ℕ) h₁ h₂⟩

instance : Std.Total le := ⟨fun a b => le_total (α := List ℕ) a.codes b.codes⟩

end PyStr

/-- No character is a surrogate. -/
theorem is_surrogate_toNat (c : Char) : is_surrogate c.toNat = false := by
  have h := c.valid
  have hn : c.toNat = c.val.toNat := rfl
  simp only [UInt32.isValidChar, Nat.isValidChar] at h
  simp only [is_surrogate, hn]
  grind

/-- Text survives the passage through code points. -/
@[simp] theorem PyStr.of_codes_text (s : String) :
    PyStr.of_codes (PyStr.text s).codes = .text s := by
  have hs : ¬ (s.toList.map Char.toNat).any is_surrogate = true := by
    simp [is_surrogate_toNat]
  have hid : Char.ofNat ∘ Char.toNat = id := funext Char.ofNat_toNat
  rw [PyStr.of_codes, PyStr.codes, dif_neg hs, List.map_map, hid, List.map_id,
    String.ofList_toList]

/-- A string is its code points. -/
theorem PyStr.codes_inj {a b : PyStr} (h : a.codes = b.codes) : a = b := by
  have hclean : ∀ s : String, (s.toList.map Char.toNat).any is_surrogate = false := by
    simp [is_surrogate_toNat]
  cases a with
  | text s =>
    cases b with
    | text t =>
      have hof : PyStr.of_codes (PyStr.text s).codes = PyStr.of_codes (PyStr.text t).codes := by rw [h]
      rwa [of_codes_text, of_codes_text] at hof
    | surrogates codes lone =>
      rw [← show (PyStr.text s).codes = codes from h, PyStr.codes, hclean] at lone
      cases lone
  | surrogates codes lone =>
    cases b with
    | text t =>
      rw [show codes = (PyStr.text t).codes from h, PyStr.codes, hclean] at lone
      cases lone
    | surrogates codes' lone' =>
      obtain rfl : codes = codes' := h
      rfl

/-! ## Values -/

/-- A Python value as JSON code sees it. -/
inductive Json : Type
  | null
  | bool (b : Bool)
  | int (n : ℤ)
  /-- A finite float, by its `repr`. -/
  | float (repr : String)
  | str (s : PyStr)
  | arr (items : List Json)
  /-- A dict with string keys, in insertion order. -/
  | obj (fields : List (PyStr × Json))
  /-- A number of a type `json.dumps` refuses, equal to the int `n`. -/
  | number (n : ℤ)
  /-- Any other object, floats that are not finite among them: whether it is a
  dict, and the text `json.dumps` writes for it, if it writes one. -/
  | other (dict : Bool) (text : Option String)

namespace Json

/-- `j.get(k)` of a dict. -/
def get? (j : Json) (k : String) : Option Json :=
  match j with
  | .obj fields => fields.lookup (.text k)
  | _ => none

@[simp] theorem get?_obj_nil (k : String) : (Json.obj []).get? k = none := rfl

/-- Looking a key up, one field at a time. -/
@[simp] theorem get?_obj_cons (k k' : String) (v : Json) (fields : List (PyStr × Json)) :
    (Json.obj ((.text k', v) :: fields)).get? k =
      if k = k' then some v else (Json.obj fields).get? k := by
  by_cases h : k = k'
  · simp [get?, h]
  · have hb : (PyStr.text k == PyStr.text k') = false := by simpa using h
    simp [get?, List.lookup_cons, h, hb]

/-- The text of a string value. -/
def text? : Json → Option String
  | .str (.text s) => some s
  | _ => none

/-- `isinstance(j, dict)`. -/
def is_dict : Json → Bool
  | .obj _ => true
  | .other dict _ => dict
  | _ => false

/-! ## Numbers -/

/-- The digits of a natural number, as `str` gives them. -/
def digits (n : ℕ) : List Char := Nat.toDigits 10 n

/-- `int.__repr__`. -/
def print_int : ℤ → List Char
  | .ofNat n => digits n
  | .negSucc n => '-' :: digits (n + 1)

/-- `sys.int_info.default_max_str_digits`: ints with more digits have no text. -/
def max_str_digits : ℕ := 4300

/-- `0|[1-9][0-9]*` at the start of a text. -/
def scan_nat : List Char → Option (List Char × List Char)
  | [] => none
  | c :: rest =>
    if c = '0' then some (['0'], rest)
    else if c.isDigit then some (c :: rest.takeWhile Char.isDigit, rest.dropWhile Char.isDigit)
    else none

/-- `-?(0|[1-9][0-9]*)` at the start of a text. -/
def scan_int : List Char → Option (List Char × List Char)
  | '-' :: rest => (scan_nat rest).map fun p => ('-' :: p.1, p.2)
  | cs => scan_nat cs

/-- `(\.[0-9]+)?` at the start of a text. -/
def scan_fraction : List Char → List Char × List Char
  | '.' :: rest =>
    match rest.takeWhile Char.isDigit with
    | [] => ([], '.' :: rest)
    | ds => ('.' :: ds, rest.dropWhile Char.isDigit)
  | cs => ([], cs)

/-- The sign of an exponent, `[-+]?`. -/
def scan_sign : List Char → List Char × List Char
  | '-' :: rest => (['-'], rest)
  | '+' :: rest => (['+'], rest)
  | cs => ([], cs)

/-- `([eE][-+]?[0-9]+)?` at the start of a text. -/
def scan_exponent (cs : List Char) : List Char × List Char :=
  match cs with
  | c :: rest =>
    if c = 'e' ∨ c = 'E' then
      match (scan_sign rest).2.takeWhile Char.isDigit with
      | [] => ([], cs)
      | ds => (c :: (scan_sign rest).1 ++ ds, (scan_sign rest).2.dropWhile Char.isDigit)
    else ([], cs)
  | [] => ([], [])

/-- The int a text of `scan_int` denotes. -/
def int_of_text : List Char → ℤ
  | '-' :: ds => -(Nat.ofDigitChars 10 ds 0 : ℤ)
  | ds => (Nat.ofDigitChars 10 ds 0 : ℤ)

/-- The magnitude of `float(text)`, of a text in its three parts. -/
def float_magnitude (whole fraction exponent : List Char) : ℕ :=
  Binary64.of_decimal (Nat.ofDigitChars 10 ((whole ++ fraction).filter Char.isDigit) 0)
    (int_of_text ((exponent.drop 1).filter (· ≠ '+')) - (fraction.length - 1 : ℕ))

/-- `repr(float(text))`, of a text in its three parts; `none` where the float is
infinite. -/
def float_repr (whole fraction exponent : List Char) : Option String :=
  if float_magnitude whole fraction exponent < Binary64.overflow then
    (Binary64.repr (float_magnitude whole fraction exponent)).map fun text =>
      String.ofList (if whole.head? = some '-' then '-' :: text else text)
  else none

/-- The number of a text in its three parts. A fraction or an exponent makes it a
float, an infinite one past the doubles; an int text that is too long is refused. -/
def number_of (whole fraction exponent : List Char) : Option Json :=
  if fraction = [] ∧ exponent = [] then
    if (whole.filter Char.isDigit).length ≤ max_str_digits then some (.int (int_of_text whole))
    else none
  else
    match float_repr whole fraction exponent with
    | some repr => some (.float repr)
    | none => some (.other false none)

/-- A JSON number at the start of a text. -/
def parse_number (cs : List Char) : Option (Json × List Char) := do
  let (whole, rest) ← scan_int cs
  let (fraction, rest) := scan_fraction rest
  let (exponent, rest) := scan_exponent rest
  (number_of whole fraction exponent).map fun number => (number, rest)

/-- The texts `float.__repr__` gives for finite floats: those that are read as
floats whose `repr` they are. -/
def is_float_repr (repr : String) : Bool :=
  match scan_int repr.toList with
  | none => false
  | some (whole, rest) =>
    let (fraction, rest) := scan_fraction rest
    let (exponent, rest) := scan_exponent rest
    rest.isEmpty && !(fraction.isEmpty && exponent.isEmpty) &&
      float_repr whole fraction exponent == some repr

/-- The number a float is: the double its text is read as. -/
def float_value (repr : String) : ℚ :=
  match scan_int repr.toList with
  | none => 0
  | some (whole, rest) =>
    let (fraction, rest) := scan_fraction rest
    let magnitude := float_magnitude whole fraction (scan_exponent rest).1
    mkRat (if whole.head? = some '-' then -magnitude else magnitude) Binary64.one

/-- The number a value is, if it is one; `True` is `1`. -/
def number? : Json → Option ℚ
  | .bool b => some (if b then 1 else 0)
  | .int n => some n
  | .float repr => some (float_value repr)
  | .number n => some n
  | _ => none

/-! ## Writing -/

/-- The UTF-16 code units of a code point. -/
def utf16 (code : ℕ) : List ℕ :=
  if code < 0x10000 then [code]
  else [0xd800 + (code - 0x10000) / 0x400, 0xdc00 + (code - 0x10000) % 0x400]

/-- `\uXXXX`. -/
def unicode_escape (u : ℕ) : List Char :=
  ['\\', 'u', (u / 0x1000 % 16).digitChar, (u / 0x100 % 16).digitChar,
    (u / 0x10 % 16).digitChar, (u % 16).digitChar]

/-- One code point of a string literal. -/
def escape (ascii : Bool) (code : ℕ) : List Char :=
  if code = 0x22 then ['\\', '"']
  else if code = 0x5c then ['\\', '\\']
  else if code = 0x0a then ['\\', 'n']
  else if code = 0x0d then ['\\', 'r']
  else if code = 0x09 then ['\\', 't']
  else if code = 0x0c then ['\\', 'f']
  else if code = 0x08 then ['\\', 'b']
  else if code < 0x20 ∨ (ascii = true ∧ 0x7e < code) then (utf16 code).flatMap unicode_escape
  else [Char.ofNat code]

/-- A string literal. -/
def print_str (ascii : Bool) (s : PyStr) : List Char :=
  '"' :: (s.codes.flatMap (escape ascii) ++ ['"'])

mutual

/-- The text of a value, without white space. -/
def print (ascii : Bool) : Json → List Char
  | .null => ['n', 'u', 'l', 'l']
  | .bool true => ['t', 'r', 'u', 'e']
  | .bool false => ['f', 'a', 'l', 's', 'e']
  | .int n => print_int n
  | .float repr => repr.toList
  | .str s => print_str ascii s
  | .arr items => '[' :: (print_items ascii items ++ [']'])
  | .obj fields => '{' :: (print_fields ascii fields ++ ['}'])
  | .number _ => []
  | .other _ text => (text.getD "").toList

/-- The items of an array, separated by commas. -/
def print_items (ascii : Bool) : List Json → List Char
  | [] => []
  | [j] => print ascii j
  | j :: k :: rest => print ascii j ++ ',' :: print_items ascii (k :: rest)

/-- The fields of an object, separated by commas. -/
def print_fields (ascii : Bool) : List (PyStr × Json) → List Char
  | [] => []
  | [(k, j)] => print_str ascii k ++ ':' :: print ascii j
  | (k, j) :: f :: rest =>
    print_str ascii k ++ ':' :: (print ascii j ++ ',' :: print_fields ascii (f :: rest))

end

/-- `sort_keys=True` of one dict. -/
def sort_fields (fields : List (PyStr × Json)) : List (PyStr × Json) :=
  fields.insertionSort (fun a b => a.1.le b.1)

mutual

/-- `sort_keys=True`: the value with the fields of every dict in key order. -/
def norm : Json → Json
  | .arr items => .arr (norm_items items)
  | .obj fields => .obj (sort_fields (norm_fields fields))
  | .null => .null
  | .bool b => .bool b
  | .int n => .int n
  | .float repr => .float repr
  | .str s => .str s
  | .number n => .number n
  | .other dict text => .other dict text

/-- `norm` of every item. -/
def norm_items : List Json → List Json
  | [] => []
  | j :: rest => norm j :: norm_items rest

/-- `norm` of every field's value. -/
def norm_fields : List (PyStr × Json) → List (PyStr × Json)
  | [] => []
  | (k, j) :: rest => (k, norm j) :: norm_fields rest

end

/-- A string an encoder accepts: with `ensure_ascii` every string, otherwise
only text. -/
def encodable_str (ascii : Bool) : PyStr → Bool
  | .text _ => true
  | .surrogates _ _ => ascii

mutual

/-- `json.dumps` accepts the value. -/
def encodable (ascii : Bool) : Json → Bool
  | .int n => (digits n.natAbs).length ≤ max_str_digits
  | .str s => encodable_str ascii s
  | .arr items => encodable_items ascii items
  | .obj fields => encodable_fields ascii fields
  | .number _ => false
  | .other _ text => text.isSome
  | .null => true
  | .bool _ => true
  | .float _ => true

/-- Every item is encodable. -/
def encodable_items (ascii : Bool) : List Json → Bool
  | [] => true
  | j :: rest => encodable ascii j && encodable_items ascii rest

/-- Every key and value is encodable. -/
def encodable_fields (ascii : Bool) : List (PyStr × Json) → Bool
  | [] => true
  | (k, j) :: rest => encodable_str ascii k && encodable ascii j && encodable_fields ascii rest

end

/-- `json.dumps(j, ensure_ascii=ascii, sort_keys=True, separators=(",", ":"))`,
`none` when it raises. -/
def dumps (ascii : Bool) (j : Json) : Option String :=
  if j.encodable ascii then some (String.ofList (j.norm.print ascii)) else none

/-! ## Reading -/

/-- JSON white space. -/
def skip_ws (cs : List Char) : List Char :=
  cs.dropWhile fun c => c = ' ' || c = '\t' || c = '\n' || c = '\r'

/-- The value of a hexadecimal digit. -/
def hex_digit? (c : Char) : Option ℕ :=
  if c.isDigit then some (c.toNat - 0x30)
  else if 'a' ≤ c ∧ c ≤ 'f' then some (c.toNat - 0x57)
  else if 'A' ≤ c ∧ c ≤ 'F' then some (c.toNat - 0x37)
  else none

/-- The code of a two-character escape. -/
def unescape : Char → Option ℕ
  | '"' => some 0x22
  | '\\' => some 0x5c
  | '/' => some 0x2f
  | 'b' => some 0x08
  | 'f' => some 0x0c
  | 'n' => some 0x0a
  | 'r' => some 0x0d
  | 't' => some 0x09
  | _ => none

/-- The four digits of `\uXXXX`. -/
def hex4 (a b c d : Char) : Option ℕ := do
  some (0x1000 * (← hex_digit? a) + 0x100 * (← hex_digit? b) + 0x10 * (← hex_digit? c) +
    (← hex_digit? d))

/-- The body of a string literal up to its closing quote, one code for every
character or escape. -/
def scan_string : List Char → Option (List ℕ × List Char)
  | [] => none
  | c :: rest =>
    if c = '"' then some ([], rest)
    else if c = '\\' then
      match rest with
      | 'u' :: h₁ :: h₂ :: h₃ :: h₄ :: rest =>
        match hex4 h₁ h₂ h₃ h₄ with
        | none => none
        | some u => (scan_string rest).map fun p => (u :: p.1, p.2)
      | e :: rest =>
        match unescape e with
        | none => none
        | some u => (scan_string rest).map fun p => (u :: p.1, p.2)
      | [] => none
    else if c.toNat < 0x20 then none
    else (scan_string rest).map fun p => (c.toNat :: p.1, p.2)

/-- A high surrogate followed by a low one is the character they encode. -/
def join_surrogates : List ℕ → List ℕ
  | hi :: lo :: rest =>
    if (0xd800 ≤ hi ∧ hi ≤ 0xdbff) ∧ 0xdc00 ≤ lo ∧ lo ≤ 0xdfff then
      (0x10000 + (hi - 0xd800) * 0x400 + (lo - 0xdc00)) :: join_surrogates rest
    else hi :: join_surrogates (lo :: rest)
  | cs => cs

/-- A string literal after its opening quote. -/
def parse_string (cs : List Char) : Option (PyStr × List Char) :=
  (scan_string cs).map fun p => (PyStr.of_codes (join_surrogates p.1), p.2)

/-- A constant or a number. -/
def parse_atom : List Char → Option (Json × List Char)
  | 'n' :: 'u' :: 'l' :: 'l' :: rest => some (.null, rest)
  | 't' :: 'r' :: 'u' :: 'e' :: rest => some (.bool true, rest)
  | 'f' :: 'a' :: 'l' :: 's' :: 'e' :: rest => some (.bool false, rest)
  | 'N' :: 'a' :: 'N' :: rest => some (.other false none, rest)
  | 'I' :: 'n' :: 'f' :: 'i' :: 'n' :: 'i' :: 't' :: 'y' :: rest => some (.other false none, rest)
  | '-' :: 'I' :: 'n' :: 'f' :: 'i' :: 'n' :: 'i' :: 't' :: 'y' :: rest =>
    some (.other false none, rest)
  | cs => parse_number cs

/-- `d[k] = v`: a known key keeps its place. -/
def set_field (k : PyStr) (v : Json) : List (PyStr × Json) → List (PyStr × Json)
  | [] => [(k, v)]
  | (k', v') :: rest => if k' = k then (k, v) :: rest else (k', v') :: set_field k v rest

/-- `dict(pairs)`. -/
def dict_of_pairs (pairs : List (PyStr × Json)) : List (PyStr × Json) :=
  pairs.foldl (fun fields p => set_field p.1 p.2 fields) []

mutual

/-- One value at the start of a text. Every call reads a character, so the
length of the text is fuel enough. -/
def parse_value : ℕ → List Char → Option (Json × List Char)
  | 0, _ => none
  | n + 1, cs =>
    match cs with
    | '"' :: rest => (parse_string rest).map fun p => (.str p.1, p.2)
    | '[' :: rest =>
      match skip_ws rest with
      | ']' :: rest => some (.arr [], rest)
      | rest => (parse_items n rest).map fun p => (.arr p.1, p.2)
    | '{' :: rest =>
      match skip_ws rest with
      | '}' :: rest => some (.obj [], rest)
      | rest => (parse_fields n rest).map fun p => (.obj (dict_of_pairs p.1), p.2)
    | cs => parse_atom cs

/-- The items of an array up to its closing bracket. -/
def parse_items : ℕ → List Char → Option (List Json × List Char)
  | 0, _ => none
  | n + 1, cs =>
    match parse_value n cs with
    | none => none
    | some (j, rest) =>
      match skip_ws rest with
      | ',' :: rest => (parse_items n (skip_ws rest)).map fun p => (j :: p.1, p.2)
      | ']' :: rest => some ([j], rest)
      | _ => none

/-- The fields of an object up to its closing brace. -/
def parse_fields : ℕ → List Char → Option (List (PyStr × Json) × List Char)
  | 0, _ => none
  | n + 1, cs =>
    match cs with
    | '"' :: rest =>
      match parse_string rest with
      | none => none
      | some (k, rest) =>
        match skip_ws rest with
        | ':' :: rest =>
          match parse_value n (skip_ws rest) with
          | none => none
          | some (j, rest) =>
            match skip_ws rest with
            | ',' :: rest => (parse_fields n (skip_ws rest)).map fun p => ((k, j) :: p.1, p.2)
            | '}' :: rest => some ([(k, j)], rest)
            | _ => none
        | _ => none
    | _ => none

end

/-- `json.loads`, `none` when it raises. -/
def loads (text : String) : Option Json :=
  match parse_value (text.toList.length + 1) (skip_ws text.toList) with
  | some (j, rest) => if skip_ws rest = [] then some j else none
  | none => none

/-! ## Reading with hooks -/

/-- The hooks of `json.loads`: `object_pairs_hook`, the dict of an object's pairs,
and whether `parse_constant` lets the constants pass that no JSON text has. -/
structure Hooks : Type where
  object_pairs : List (PyStr × Json) → Option (List (PyStr × Json))
  constants : Bool

/-- The hooks of a plain `json.loads`. -/
def plain_hooks : Hooks := ⟨fun pairs => some (dict_of_pairs pairs), true⟩

/-- The hooks that raise on a repeated key and on a constant. -/
def strict_hooks : Hooks :=
  ⟨fun pairs => if (pairs.map Prod.fst).Nodup then some pairs else none, false⟩

/-- `NaN`, `Infinity` or `-Infinity` at the start of a text. A number too large
for a float is not one: the hook never sees it. -/
def is_constant : List Char → Bool
  | 'N' :: 'a' :: 'N' :: _ => true
  | 'I' :: 'n' :: 'f' :: 'i' :: 'n' :: 'i' :: 't' :: 'y' :: _ => true
  | '-' :: 'I' :: 'n' :: 'f' :: 'i' :: 'n' :: 'i' :: 't' :: 'y' :: _ => true
  | _ => false

/-- A constant or a number, as the hooks have it. -/
def parse_atom_with (hooks : Hooks) (cs : List Char) : Option (Json × List Char) :=
  if hooks.constants || !is_constant cs then parse_atom cs else none

mutual

/-- One value at the start of a text. -/
def parse_value_with (hooks : Hooks) : ℕ → List Char → Option (Json × List Char)
  | 0, _ => none
  | n + 1, cs =>
    match cs with
    | '"' :: rest => (parse_string rest).map fun p => (.str p.1, p.2)
    | '[' :: rest =>
      match skip_ws rest with
      | ']' :: rest => some (.arr [], rest)
      | rest => (parse_items_with hooks n rest).map fun p => (.arr p.1, p.2)
    | '{' :: rest =>
      match skip_ws rest with
      | '}' :: rest => (hooks.object_pairs []).map fun fields => (.obj fields, rest)
      | rest => (parse_fields_with hooks n rest).bind fun p =>
          (hooks.object_pairs p.1).map fun fields => (.obj fields, p.2)
    | cs => parse_atom_with hooks cs

/-- The items of an array up to its closing bracket. -/
def parse_items_with (hooks : Hooks) : ℕ → List Char → Option (List Json × List Char)
  | 0, _ => none
  | n + 1, cs =>
    match parse_value_with hooks n cs with
    | none => none
    | some (j, rest) =>
      match skip_ws rest with
      | ',' :: rest => (parse_items_with hooks n (skip_ws rest)).map fun p => (j :: p.1, p.2)
      | ']' :: rest => some ([j], rest)
      | _ => none

/-- The fields of an object up to its closing brace. -/
def parse_fields_with (hooks : Hooks) : ℕ → List Char → Option (List (PyStr × Json) × List Char)
  | 0, _ => none
  | n + 1, cs =>
    match cs with
    | '"' :: rest =>
      match parse_string rest with
      | none => none
      | some (k, rest) =>
        match skip_ws rest with
        | ':' :: rest =>
          match parse_value_with hooks n (skip_ws rest) with
          | none => none
          | some (j, rest) =>
            match skip_ws rest with
            | ',' :: rest =>
              (parse_fields_with hooks n (skip_ws rest)).map fun p => ((k, j) :: p.1, p.2)
            | '}' :: rest => some ([(k, j)], rest)
            | _ => none
        | _ => none
    | _ => none

end

/-- `json.loads` with hooks, `none` when it raises. -/
def loads_with (hooks : Hooks) (text : String) : Option Json :=
  match parse_value_with hooks (text.toList.length + 1) (skip_ws text.toList) with
  | some (j, rest) => if skip_ws rest = [] then some j else none
  | none => none

/-! ## Well-formed values -/

mutual

/-- No dict of the value repeats a key, as no Python dict does, and every float
is a float's `repr`. -/
def wf : Json → Prop
  | .float repr => is_float_repr repr = true
  | .arr items => wf_items items
  | .obj fields => (fields.map Prod.fst).Nodup ∧ wf_fields fields
  | .null => True
  | .bool _ => True
  | .int _ => True
  | .str _ => True
  | .number _ => True
  | .other _ _ => True

/-- Every item is well formed. -/
def wf_items : List Json → Prop
  | [] => True
  | j :: rest => wf j ∧ wf_items rest

/-- Every field's value is well formed. -/
def wf_fields : List (PyStr × Json) → Prop
  | [] => True
  | (_, j) :: rest => wf j ∧ wf_fields rest

end

mutual

/-- The value is built from the JSON kinds only. -/
def plain : Json → Prop
  | .arr items => plain_items items
  | .obj fields => plain_fields fields
  | .number _ => False
  | .other _ _ => False
  | .null => True
  | .bool _ => True
  | .int _ => True
  | .str _ => True
  | .float _ => True

/-- Every item is plain. -/
def plain_items : List Json → Prop
  | [] => True
  | j :: rest => plain j ∧ plain_items rest

/-- Every field's value is plain. -/
def plain_fields : List (PyStr × Json) → Prop
  | [] => True
  | (_, j) :: rest => plain j ∧ plain_fields rest

end

end Json

/-- A well-formed value: what a Python caller can pass. -/
def PyValue : Type := { j : Json // j.wf }

end AppContracts
