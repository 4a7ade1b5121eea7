/-
Reading back what was written.

`loads (dumps j)` is `j` with its keys sorted, for every encodable plain value
(`loads_dumps`), whichever way non-ASCII text is written. So the text
determines the value up to the order of its keys (`dumps_inj`), which is what
makes a digest of the text a digest of the value.

The argument follows the reader: numbers, then string literals one code point
at a time, then values by structural recursion. The fuel is measured by the
length of the text.
-/
import AppContracts.Lib.Json

set_option autoImplicit false

namespace AppContracts.Json

/-! ## Numbers -/

/-- What may follow a value inside an array or object, or nothing. -/
def ends_value (rest : List Char) : Prop :=
  ∀ c, rest.head? = some c → c = ',' ∨ c = ']' ∨ c = '}'

theorem ends_value_nil : ends_value [] := by simp [ends_value]

theorem ends_value_cons {c : Char} {rest : List Char} (h : c = ',' ∨ c = ']' ∨ c = '}') :
    ends_value (c :: rest) := by
  simpa [ends_value] using h

/-- A value's text is followed by nothing a number could go on with. -/
theorem ends_value.not_digit {rest : List Char} (h : ends_value rest) :
    rest.takeWhile Char.isDigit = [] ∧ rest.dropWhile Char.isDigit = rest := by
  cases rest with
  | nil => simp
  | cons c rest =>
    have hc : c.isDigit = false := by
      rcases h c rfl with rfl | rfl | rfl <;> decide
    simp [hc]

theorem scan_fraction_end {rest : List Char} (h : ends_value rest) :
    scan_fraction rest = ([], rest) := by
  cases rest with
  | nil => rfl
  | cons c rest => rcases h c rfl with rfl | rfl | rfl <;> rfl

theorem scan_exponent_end {rest : List Char} (h : ends_value rest) :
    scan_exponent rest = ([], rest) := by
  cases rest with
  | nil => rfl
  | cons c rest => rcases h c rfl with rfl | rfl | rfl <;> simp [scan_exponent]

/-- What follows a value takes no part in a run of digits before it. -/
theorem takeWhile_digit_append (cs : List Char) {rest : List Char} (h : ends_value rest) :
    (cs ++ rest).takeWhile Char.isDigit = cs.takeWhile Char.isDigit ∧
      (cs ++ rest).dropWhile Char.isDigit = cs.dropWhile Char.isDigit ++ rest := by
  induction cs with
  | nil => simpa using h.not_digit
  | cons c cs ih =>
    by_cases hc : c.isDigit = true
    · simp [hc, ih]
    · simp [hc]

theorem digits_isDigit (n : ℕ) : ∀ c ∈ digits n, c.isDigit = true :=
  fun _ hc => Nat.isDigit_of_mem_toDigits (by omega) (by omega) hc

/-- Only zero is written with a leading zero. -/
theorem digits_head {n : ℕ} (hn : 0 < n) :
    ∃ c rest, digits n = c :: rest ∧ c ≠ '0' ∧ c.isDigit = true := by
  induction n using Nat.strong_induction_on with
  | _ n ih =>
    by_cases hlt : n < 10
    · have hd : digits n = [n.digitChar] := Nat.toDigits_of_lt_base hlt
      have hne : ∀ d < 10, 0 < d → d.digitChar ≠ '0' := by decide
      exact ⟨n.digitChar, [], hd, hne n hlt hn, digits_isDigit n _ (by simp [hd])⟩
    · obtain ⟨c, rest, hq, hc, hdig⟩ := ih (n / 10) (by omega) (by omega)
      have hd : digits n = digits (n / 10) ++ [(n % 10).digitChar] :=
        Nat.toDigits_of_base_le (by omega) (by omega)
      exact ⟨c, rest ++ [(n % 10).digitChar], by rw [hd, hq]; rfl, hc, hdig⟩

theorem scan_nat_digits (n : ℕ) {rest : List Char} (h : ends_value rest) :
    scan_nat (digits n ++ rest) = some (digits n, rest) := by
  rcases Nat.eq_zero_or_pos n with rfl | hn
  · rfl
  · obtain ⟨c, ds, hd, hc, hdig⟩ := digits_head hn
    have hall : ∀ x ∈ ds, x.isDigit = true := fun x hx =>
      digits_isDigit n x (by simp [hd, hx])
    have htake : (ds ++ rest).takeWhile Char.isDigit = ds := by
      rw [List.takeWhile_append_of_pos hall, h.not_digit.1, List.append_nil]
    have hdrop : (ds ++ rest).dropWhile Char.isDigit = rest := by
      rw [List.dropWhile_append_of_pos hall, h.not_digit.2]
    simp [hd, scan_nat, hc, hdig, htake, hdrop]

theorem scan_int_print_int (n : ℤ) {rest : List Char} (h : ends_value rest) :
    scan_int (print_int n ++ rest) = some (print_int n, rest) := by
  cases n with
  | ofNat n =>
    have hne : ∀ cs, digits n ++ rest ≠ '-' :: cs := by
      intro cs hcs
      rcases Nat.eq_zero_or_pos n with rfl | hn
      · simp [digits, Nat.toDigits_zero] at hcs
      · obtain ⟨c, ds, hd, -, hdig⟩ := digits_head hn
        rw [hd, List.cons_append, List.cons.injEq] at hcs
        rw [hcs.1] at hdig
        exact absurd hdig (by decide)
    rw [print_int, scan_int.eq_def]
    split
    · rename_i hcs
      exact absurd hcs (hne _)
    · exact scan_nat_digits n h
  | negSucc n => simp [print_int, scan_int, scan_nat_digits (n + 1) h]

theorem int_of_text_print_int (n : ℤ) : int_of_text (print_int n) = n := by
  cases n with
  | ofNat n =>
    have hne : ∀ cs, digits n ≠ '-' :: cs := by
      intro cs hcs
      have := digits_isDigit n '-' (by simp [hcs])
      exact absurd this (by decide)
    rw [print_int, int_of_text.eq_def]
    split
    · rename_i hcs
      exact absurd hcs (hne _)
    · simp [digits, Nat.ofDigitChars_ten_toDigits]
  | negSucc n =>
    simp only [print_int, int_of_text, digits, Nat.ofDigitChars_ten_toDigits]
    rfl

theorem filter_print_int (n : ℤ) :
    (print_int n).filter Char.isDigit = digits n.natAbs := by
  have hall (m : ℕ) : (digits m).filter Char.isDigit = digits m :=
    List.filter_eq_self.mpr (digits_isDigit m)
  cases n with
  | ofNat n => exact hall n
  | negSucc n => simpa [print_int] using hall (n + 1)

/-- A number, by its three parts. -/
theorem parse_number_parts {cs whole fraction exponent rest tail last : List Char}
    (hwhole : scan_int cs = some (whole, rest)) (hfraction : scan_fraction rest = (fraction, tail))
    (hexponent : scan_exponent tail = (exponent, last)) :
    parse_number cs = (number_of whole fraction exponent).map fun number => (number, last) := by
  simp only [parse_number, hwhole, hfraction, hexponent, Option.bind_eq_bind, Option.bind_some]

/-- A number without a fraction and an exponent is an int. -/
theorem number_of_int {whole : List Char}
    (h : (whole.filter Char.isDigit).length ≤ max_str_digits) :
    number_of whole [] [] = some (.int (int_of_text whole)) := by
  rw [number_of, if_pos ⟨rfl, rfl⟩, if_pos h]

/-- One with either is a float. -/
theorem number_of_float {whole fraction exponent : List Char} {repr : String}
    (hparts : ¬ (fraction = [] ∧ exponent = []))
    (hrepr : float_repr whole fraction exponent = some repr) :
    number_of whole fraction exponent = some (.float repr) := by
  rw [number_of, if_neg hparts, hrepr]

/-- A text that starts with no digit and no sign is no number. -/
theorem parse_number_none {cs : List Char} (h : scan_int cs = none) : parse_number cs = none := by
  rw [parse_number, h, Option.bind_eq_bind, Option.bind_none]

/-- An int with few enough digits is read back. -/
theorem parse_number_int {n : ℤ} (hn : (digits n.natAbs).length ≤ max_str_digits)
    {rest : List Char} (h : ends_value rest) :
    parse_number (print_int n ++ rest) = some (.int n, rest) := by
  rw [parse_number_parts (scan_int_print_int n h) (scan_fraction_end h) (scan_exponent_end h),
    number_of_int (by rwa [filter_print_int]), int_of_text_print_int, Option.map_some]

theorem scan_nat_append {cs w r : List Char} (hw : scan_nat cs = some (w, r))
    {rest : List Char} (h : ends_value rest) : scan_nat (cs ++ rest) = some (w, r ++ rest) := by
  cases cs with
  | nil => simp [scan_nat] at hw
  | cons c cs =>
    obtain ⟨htake, hdrop⟩ := takeWhile_digit_append cs h
    simp only [List.cons_append, scan_nat, htake, hdrop] at hw ⊢
    split_ifs at hw ⊢ <;> simp_all

theorem scan_int_append {cs w r : List Char} (hw : scan_int cs = some (w, r))
    {rest : List Char} (h : ends_value rest) : scan_int (cs ++ rest) = some (w, r ++ rest) := by
  cases cs with
  | nil => simp [scan_int, scan_nat] at hw
  | cons c cs =>
    by_cases hc : c = '-'
    · subst hc
      simp only [scan_int, Option.map_eq_some_iff, Prod.exists, Prod.mk.injEq] at hw
      obtain ⟨w', r', hs, rfl, rfl⟩ := hw
      simp [scan_int, scan_nat_append hs h]
    · rw [scan_int.eq_2 _ (by simpa using hc)] at hw
      rw [scan_int.eq_2 _ (by simpa using hc)]
      exact scan_nat_append hw h

theorem scan_fraction_append (cs : List Char) {rest : List Char} (h : ends_value rest) :
    scan_fraction (cs ++ rest) = ((scan_fraction cs).1, (scan_fraction cs).2 ++ rest) := by
  cases cs with
  | nil => simpa [scan_fraction] using scan_fraction_end h
  | cons c cs =>
    by_cases hc : c = '.'
    · subst hc
      obtain ⟨htake, hdrop⟩ := takeWhile_digit_append cs h
      simp only [List.cons_append, scan_fraction, htake, hdrop]
      split <;> simp
    · rw [scan_fraction.eq_2 _ (by simpa using hc),
        scan_fraction.eq_2 _ (by simpa using hc)]

theorem scan_sign_append (cs : List Char) {rest : List Char} (h : ends_value rest) :
    scan_sign (cs ++ rest) = ((scan_sign cs).1, (scan_sign cs).2 ++ rest) := by
  cases cs with
  | nil =>
    cases rest with
    | nil => rfl
    | cons c rest => rcases h c rfl with rfl | rfl | rfl <;> rfl
  | cons c cs =>
    simp only [List.cons_append, scan_sign.eq_def]
    split <;> simp_all

theorem scan_exponent_append (cs : List Char) {rest : List Char} (h : ends_value rest) :
    scan_exponent (cs ++ rest) = ((scan_exponent cs).1, (scan_exponent cs).2 ++ rest) := by
  cases cs with
  | nil => simpa [scan_exponent] using scan_exponent_end h
  | cons c cs =>
    have hsign := scan_sign_append cs h
    obtain ⟨htake, hdrop⟩ := takeWhile_digit_append (scan_sign cs).2 h
    simp only [List.cons_append, scan_exponent, hsign, htake, hdrop]
    split_ifs
    · split <;> simp
    · simp

/-- A float's text is read back. -/
theorem parse_number_float {repr : String} (hr : is_float_repr repr = true)
    {rest : List Char} (h : ends_value rest) :
    parse_number (repr.toList ++ rest) = some (.float repr, rest) := by
  simp only [is_float_repr] at hr
  split at hr
  · cases hr
  · rename_i whole tail hscan
    simp only [Bool.and_eq_true, Bool.not_eq_true', List.isEmpty_iff, beq_iff_eq,
      Bool.and_eq_false_iff, List.isEmpty_eq_false_iff] at hr
    obtain ⟨⟨hnil, hfloat⟩, hrepr⟩ := hr
    have hne : ¬ ((scan_fraction tail).1 = [] ∧
        (scan_exponent (scan_fraction tail).2).1 = []) := fun hboth =>
      hfloat.elim (fun hne => hne hboth.1) fun hne => hne hboth.2
    rw [parse_number_parts (scan_int_append hscan h) (scan_fraction_append tail h)
      (scan_exponent_append _ h), number_of_float hne hrepr, hnil, List.nil_append, Option.map_some]

/-! ## Strings -/

theorem hex_digit_digitChar {d : ℕ} (hd : d < 16) : hex_digit? d.digitChar = some d :=
  (by decide : ∀ d < 16, hex_digit? (Nat.digitChar d) = some d) d hd

/-- A `\uXXXX` escape is one code. -/
theorem scan_string_unicode_escape {u : ℕ} (hu : u < 0x10000) (rest : List Char) :
    scan_string (unicode_escape u ++ rest) =
      (scan_string rest).map fun p => (u :: p.1, p.2) := by
  have hhex : hex4 (u / 0x1000 % 16).digitChar (u / 0x100 % 16).digitChar
      (u / 0x10 % 16).digitChar (u % 16).digitChar = some u := by
    have hsum : 0x1000 * (u / 0x1000 % 16) + 0x100 * (u / 0x100 % 16) +
        0x10 * (u / 0x10 % 16) + u % 16 = u := by omega
    rw [hex4, hex_digit_digitChar (Nat.mod_lt _ (by omega)),
      hex_digit_digitChar (Nat.mod_lt _ (by omega)),
      hex_digit_digitChar (Nat.mod_lt _ (by omega)),
      hex_digit_digitChar (Nat.mod_lt _ (by omega))]
    exact congrArg some hsum
  simp [unicode_escape, scan_string, hhex]

/-- The codes a literal's character is read as, before surrogates are joined. -/
def units (ascii : Bool) (code : ℕ) : List ℕ :=
  if ascii = true ∧ 0x7e < code then utf16 code else [code]

theorem utf16_lt {code : ℕ} (h : code < 0x110000) : ∀ u ∈ utf16 code, u < 0x10000 := by
  intro u hu
  simp only [utf16] at hu
  split_ifs at hu <;> simp at hu <;> omega

theorem scan_string_utf16 {code : ℕ} (h : code < 0x110000) (rest : List Char) :
    scan_string ((utf16 code).flatMap unicode_escape ++ rest) =
      (scan_string rest).map fun p => (utf16 code ++ p.1, p.2) := by
  have hlt := utf16_lt h
  generalize utf16 code = us at hlt
  induction us with
  | nil => simp
  | cons u us ih =>
    have hu := hlt u (by simp)
    rw [List.flatMap_cons, List.append_assoc, scan_string_unicode_escape hu,
      ih fun v hv => hlt v (by simp [hv])]
    simp [Option.map_map, Function.comp_def]

theorem toNat_lt (c : Char) : c.toNat < 0x110000 := by
  have h := c.valid
  have hn : c.toNat = c.val.toNat := rfl
  simp only [UInt32.isValidChar, Nat.isValidChar] at h
  omega

/-- One escaped character is read as its code units. -/
theorem scan_string_escape (ascii : Bool) (c : Char) (rest : List Char) :
    scan_string (escape ascii c.toNat ++ rest) =
      (scan_string rest).map fun p => (units ascii c.toNat ++ p.1, p.2) := by
  by_cases hshort : c.toNat ∈ [0x22, 0x5c, 0x0a, 0x0d, 0x09, 0x0c, 0x08]
  · -- The seven characters with a two-character escape.
    have hunits : units ascii c.toNat = [c.toNat] := by
      simp only [List.mem_cons, List.not_mem_nil, or_false] at hshort
      exact if_neg (by omega)
    rw [hunits]
    simp only [List.mem_cons, List.not_mem_nil, or_false] at hshort
    rcases hshort with h | h | h | h | h | h | h <;>
      simp [h, escape, scan_string, unescape]
  · simp only [List.mem_cons, List.not_mem_nil, or_false, not_or] at hshort
    obtain ⟨h1, h2, h3, h4, h5, h6, h7⟩ := hshort
    by_cases hlong : c.toNat < 0x20 ∨ (ascii = true ∧ 0x7e < c.toNat)
    · have hunits : units ascii c.toNat = utf16 c.toNat := by
        rcases hlong with hlt | hgt
        · have hs : utf16 c.toNat = [c.toNat] := if_pos (by omega)
          rw [hs, units, if_neg fun h => absurd h.2 (by omega)]
        · exact if_pos hgt
      rw [hunits, escape, if_neg h1, if_neg h2, if_neg h3, if_neg h4, if_neg h5, if_neg h6,
        if_neg h7, if_pos hlong]
      exact scan_string_utf16 (toNat_lt c) rest
    · have hunits : units ascii c.toNat = [c.toNat] := if_neg fun h => hlong (.inr h)
      have hq : c ≠ '"' := fun h => h1 (by rw [h]; rfl)
      have hb : c ≠ '\\' := fun h => h2 (by rw [h]; rfl)
      have hlow : ¬ c.toNat < 0x20 := fun h => hlong (.inl h)
      rw [hunits, escape, if_neg h1, if_neg h2, if_neg h3, if_neg h4, if_neg h5, if_neg h6,
        if_neg h7, if_neg hlong, Char.ofNat_toNat, List.singleton_append, scan_string.eq_def]
      simp only [if_neg hq, if_neg hb, if_neg hlow]
      rfl

theorem scan_string_body (ascii : Bool) (cs : List Char) (rest : List Char) :
    scan_string ((cs.map Char.toNat).flatMap (escape ascii) ++ '"' :: rest) =
      some ((cs.map Char.toNat).flatMap (units ascii), rest) := by
  induction cs with
  | nil =>
    rw [scan_string.eq_def]
    simp
  | cons c cs ih =>
    rw [List.map_cons, List.flatMap_cons, List.append_assoc, scan_string_escape, ih]
    rfl

/-- Joining surrogates undoes the split into code units. -/
theorem join_surrogates_units (ascii : Bool) (cs : List Char) :
    join_surrogates ((cs.map Char.toNat).flatMap (units ascii)) = cs.map Char.toNat := by
  induction cs with
  | nil => rfl
  | cons c cs ih =>
    have hlt := toNat_lt c
    have hs := is_surrogate_toNat c
    simp only [is_surrogate, Bool.and_eq_false_iff, decide_eq_false_iff_not] at hs
    rw [List.map_cons, List.flatMap_cons]
    by_cases hpair : ascii = true ∧ 0x7e < c.toNat ∧ 0x10000 ≤ c.toNat
    · have hunits : units ascii c.toNat = [0xd800 + (c.toNat - 0x10000) / 0x400,
          0xdc00 + (c.toNat - 0x10000) % 0x400] := by
        rw [units, if_pos ⟨hpair.1, hpair.2.1⟩, utf16, if_neg (by omega)]
      have hjoin : 0x10000 + (0xd800 + (c.toNat - 0x10000) / 0x400 - 0xd800) * 0x400 +
          (0xdc00 + (c.toNat - 0x10000) % 0x400 - 0xdc00) = c.toNat := by omega
      rw [hunits, List.cons_append, List.singleton_append, join_surrogates, if_pos (by omega),
        ih, hjoin]
    · have hunits : units ascii c.toNat = [c.toNat] := by
        rw [units]
        split_ifs with h
        · exact if_pos (not_le.mp fun h' => hpair ⟨h.1, h.2, h'⟩)
        · rfl
      rw [hunits, List.singleton_append]
      -- `c` is not a surrogate, so it is not joined with what follows.
      cases hrest : (cs.map Char.toNat).flatMap (units ascii) with
      | nil =>
        rw [hrest] at ih
        rw [← ih]
        rfl
      | cons u us =>
        rw [join_surrogates, if_neg (by omega), ← hrest, ih]

/-- A string literal is read back. -/
theorem parse_string_print (ascii : Bool) (s : String) (rest : List Char) :
    parse_string ((PyStr.text s).codes.flatMap (escape ascii) ++ '"' :: rest) =
      some (.text s, rest) := by
  rw [parse_string, PyStr.codes, scan_string_body, Option.map_some, join_surrogates_units]
  exact congrArg (fun k => some (k, rest)) (PyStr.of_codes_text s)

/-! ## Values -/

theorem set_field_append {k : PyStr} {v : Json} {fields : List (PyStr × Json)}
    (hk : k ∉ fields.map Prod.fst) : set_field k v fields = fields ++ [(k, v)] := by
  induction fields with
  | nil => rfl
  | cons f fields ih =>
    simp only [List.map_cons, List.mem_cons, not_or] at hk
    simp [set_field, Ne.symm hk.1, ih hk.2]

/-- Pairs with distinct keys are a dict as they stand. -/
theorem dict_of_pairs_nodup {pairs : List (PyStr × Json)} (h : (pairs.map Prod.fst).Nodup) :
    dict_of_pairs pairs = pairs := by
  suffices hgen : ∀ rest fields : List (PyStr × Json), ((fields ++ rest).map Prod.fst).Nodup →
      rest.foldl (fun fields p => set_field p.1 p.2 fields) fields = fields ++ rest from
    hgen pairs [] h
  intro rest
  induction rest with
  | nil => simp
  | cons p rest ih =>
    intro fields hn
    have hp : p.1 ∉ fields.map Prod.fst := by
      rw [List.map_append, List.nodup_append] at hn
      intro hmem
      exact hn.2.2 _ hmem _ (by simp) rfl
    rw [List.foldl_cons, set_field_append hp, ih]
    · simp
    · simpa using hn

theorem skip_ws_cons {c : Char} (hc : c ≠ ' ' ∧ c ≠ '\t' ∧ c ≠ '\n' ∧ c ≠ '\r')
    (rest : List Char) : skip_ws (c :: rest) = c :: rest := by
  simp [skip_ws, hc]

/-- The characters a value's text can start with. -/
def starts_value (cs : List Char) : Prop :=
  ∃ c rest, cs = c :: rest ∧
    (c = '"' ∨ c = '[' ∨ c = '{' ∨ c = 'n' ∨ c = 't' ∨ c = 'f' ∨ c = '-' ∨ c.isDigit = true)

/-- A text that starts a value starts with no white space and closes nothing. -/
theorem starts_value.append {cs : List Char} (h : starts_value cs) (rest : List Char) :
    skip_ws (cs ++ rest) = cs ++ rest ∧ (∀ r, cs ++ rest ≠ ']' :: r) ∧
      ∀ r, cs ++ rest ≠ '}' :: r := by
  obtain ⟨c, cs', rfl, hc⟩ := h
  have hne : c ≠ ' ' ∧ c ≠ '\t' ∧ c ≠ '\n' ∧ c ≠ '\r' ∧ c ≠ ']' ∧ c ≠ '}' := by
    refine ⟨?_, ?_, ?_, ?_, ?_, ?_⟩ <;> rintro rfl <;> simp at hc
  obtain ⟨h1, h2, h3, h4, h5, h6⟩ := hne
  refine ⟨skip_ws_cons ⟨h1, h2, h3, h4⟩ _, ?_, ?_⟩
  · intro r hr
    exact h5 (List.cons.inj hr).1
  · intro r hr
    exact h6 (List.cons.inj hr).1

theorem scan_int_start {cs w r : List Char} (h : scan_int cs = some (w, r)) :
    ∃ c rest, cs = c :: rest ∧ (c = '-' ∨ c.isDigit = true) := by
  cases cs with
  | nil => simp [scan_int, scan_nat] at h
  | cons c cs =>
    refine ⟨c, cs, rfl, ?_⟩
    by_cases hc : c = '-'
    · exact .inl hc
    · rw [scan_int.eq_2 _ (by simpa using hc), scan_nat] at h
      split_ifs at h with h0 hd
      · exact .inr (by rw [h0]; decide)
      · exact .inr hd

/-- A number's text is read by `parse_number`. -/
theorem parse_number_atom {cs : List Char} {j : Json} {rest : List Char}
    (h : parse_number cs = some (j, rest)) : parse_atom cs = some (j, rest) := by
  have hstart : ∃ c r, cs = c :: r ∧ (c = '-' ∨ c.isDigit = true) := by
    cases hs : scan_int cs with
    | none => rw [parse_number_none hs] at h; cases h
    | some p => exact scan_int_start hs
  obtain ⟨c, r, rfl, hc⟩ := hstart
  rw [parse_atom.eq_def]
  split
  case h_7 => exact h
  case h_6 heq =>
    rw [heq, parse_number_none rfl] at h
    cases h
  all_goals
    rename_i heq
    rw [(List.cons.inj heq).1] at hc
    simp at hc

section Hooks

variable {hooks : Hooks}

/-- A value that starts with none of the three brackets is an atom. -/
theorem parse_value_atom {n : ℕ} {c : Char} {cs : List Char}
    (hc : c ≠ '"' ∧ c ≠ '[' ∧ c ≠ '{') :
    parse_value_with hooks (n + 1) (c :: cs) = parse_atom_with hooks (c :: cs) := by
  obtain ⟨h1, h2, h3⟩ := hc
  rw [parse_value_with.eq_def]
  simp only
  split <;> simp_all

/-- An atom that is no constant is read by every reader. -/
theorem parse_atom_ok {cs : List Char} {result : Option (Json × List Char)}
    (h : parse_atom cs = result) (hc : is_constant cs = false) :
    parse_atom_with hooks cs = result := by
  rw [parse_atom_with, hc, h]
  simp

/-- A number is no constant. -/
theorem parse_number_constant {cs rest : List Char} {j : Json}
    (h : parse_number cs = some (j, rest)) : is_constant cs = false := by
  unfold is_constant
  split
  · rw [parse_number_none rfl] at h
    cases h
  · rw [parse_number_none rfl] at h
    cases h
  · rw [parse_number_none rfl] at h
    cases h
  · rfl

theorem parse_value_number {n : ℕ} {cs : List Char} {j : Json} {rest : List Char}
    (h : parse_number cs = some (j, rest)) : parse_value_with hooks (n + 1) cs = some (j, rest) := by
  have hstart : ∃ c r, cs = c :: r ∧ (c = '-' ∨ c.isDigit = true) := by
    cases hs : scan_int cs with
    | none => rw [parse_number_none hs] at h; cases h
    | some p => exact scan_int_start hs
  obtain ⟨c, r, rfl, hc⟩ := hstart
  rw [parse_value_atom, parse_atom_ok (parse_number_atom h) (parse_number_constant h)]
  refine ⟨?_, ?_, ?_⟩ <;> rintro rfl <;> simp at hc

end Hooks

theorem print_int_start (n : ℤ) : starts_value (print_int n) := by
  have h := scan_int_print_int n ends_value_nil
  rw [List.append_nil] at h
  obtain ⟨c, rest, hcs, hc⟩ := scan_int_start h
  exact ⟨c, rest, hcs, by tauto⟩

theorem float_repr_start {repr : String} (h : is_float_repr repr = true) :
    starts_value repr.toList := by
  simp only [is_float_repr] at h
  split at h
  · cases h
  · rename_i hs
    obtain ⟨c, rest, hcs, hc⟩ := scan_int_start hs
    exact ⟨c, rest, hcs, by tauto⟩

/-- Every value's text starts a value. -/
theorem print_start (ascii : Bool) {j : Json} (hw : j.wf) (hp : j.plain) :
    starts_value (j.print ascii) := by
  cases j with
  | null => exact ⟨'n', _, rfl, by simp⟩
  | bool b => cases b <;> exact ⟨_, _, rfl, by simp⟩
  | int n => exact print_int_start n
  | float repr => exact float_repr_start hw
  | str s => exact ⟨'"', _, rfl, by simp⟩
  | arr items => exact ⟨'[', _, rfl, by simp⟩
  | obj fields => exact ⟨'{', _, rfl, by simp⟩
  | number n => exact hp.elim
  | other d t => exact hp.elim

theorem print_items_start (ascii : Bool) {j : Json} {items : List Json} (hw : wf_items (j :: items))
    (hp : plain_items (j :: items)) : starts_value (print_items ascii (j :: items)) := by
  obtain ⟨c, rest, hc, hs⟩ := print_start ascii hw.1 hp.1
  cases items with
  | nil => exact ⟨c, rest, by rw [print_items, hc], hs⟩
  | cons k items => exact ⟨c, _, by rw [print_items, hc, List.cons_append], hs⟩

theorem print_fields_start (ascii : Bool) (f : PyStr × Json) (fields : List (PyStr × Json)) :
    starts_value (print_fields ascii (f :: fields)) := by
  cases fields with
  | nil => exact ⟨'"', _, rfl, by simp⟩
  | cons g fields => exact ⟨'"', _, rfl, by simp⟩

/-- The hooks make a dict of pairs with distinct keys. -/
def Hooks.Keeps (hooks : Hooks) : Prop :=
  ∀ pairs, (pairs.map Prod.fst).Nodup → hooks.object_pairs pairs = some pairs

/-! ## Members -/

/-- Induction over a value: the leaves, and arrays and dicts from their
members. -/
@[elab_as_elim]
theorem induction_on {motive : Json → Prop} (j : Json)
    (leaf : ∀ j, (∀ items, j ≠ .arr items) → (∀ fields, j ≠ .obj fields) → motive j)
    (arr : ∀ items, (∀ j ∈ items, motive j) → motive (.arr items))
    (obj : ∀ fields, (∀ f ∈ fields, motive f.2) → motive (.obj fields)) : motive j := by
  refine Json.rec (motive_1 := motive) (motive_2 := fun items => ∀ j ∈ items, motive j)
    (motive_3 := fun fields => ∀ f ∈ fields, motive f.2) (motive_4 := fun f => motive f.2)
    ?_ ?_ ?_ ?_ ?_ arr obj ?_ ?_ (by simp) ?_ (by simp) ?_ (fun _ _ h => h) j
  · exact leaf _ (by simp) (by simp)
  · exact fun b => leaf _ (by simp) (by simp)
  · exact fun n => leaf _ (by simp) (by simp)
  · exact fun repr => leaf _ (by simp) (by simp)
  · exact fun s => leaf _ (by simp) (by simp)
  · exact fun n => leaf _ (by simp) (by simp)
  · exact fun d t => leaf _ (by simp) (by simp)
  · exact fun j items hj hitems => List.forall_mem_cons.mpr ⟨hj, hitems⟩
  · exact fun f fields hf hfields => List.forall_mem_cons.mpr ⟨hf, hfields⟩

theorem wf_items_iff {items : List Json} : wf_items items ↔ ∀ j ∈ items, j.wf := by
  induction items with
  | nil => simp [wf_items]
  | cons j items ih => simp [wf_items, ih]

theorem wf_fields_iff {fields : List (PyStr × Json)} :
    wf_fields fields ↔ ∀ f ∈ fields, f.2.wf := by
  induction fields with
  | nil => simp [wf_fields]
  | cons f fields ih => simp [wf_fields, ih]

theorem plain_items_iff {items : List Json} : plain_items items ↔ ∀ j ∈ items, j.plain := by
  induction items with
  | nil => simp [plain_items]
  | cons j items ih => simp [plain_items, ih]

theorem plain_fields_iff {fields : List (PyStr × Json)} :
    plain_fields fields ↔ ∀ f ∈ fields, f.2.plain := by
  induction fields with
  | nil => simp [plain_fields]
  | cons f fields ih => simp [plain_fields, ih]

theorem encodable_items_iff {ascii : Bool} {items : List Json} :
    encodable_items ascii items = true ↔ ∀ j ∈ items, j.encodable ascii = true := by
  induction items with
  | nil => simp [encodable_items]
  | cons j items ih => simp [encodable_items, ih]

theorem encodable_fields_iff {ascii : Bool} {fields : List (PyStr × Json)} :
    encodable_fields ascii fields = true ↔
      ∀ f ∈ fields, encodable_str ascii f.1 = true ∧ f.2.encodable ascii = true := by
  induction fields with
  | nil => simp [encodable_fields]
  | cons f fields ih => simp [encodable_fields, ih]

/-! ## Reading what was printed -/

section Reads

variable {hooks : Hooks} {ascii : Bool}

/-- The text of a value is read back, whatever follows it, with its length as
fuel. -/
def Reads (hooks : Hooks) (ascii : Bool) (j : Json) : Prop :=
  ∀ (n : ℕ) (rest : List Char), ends_value rest → (j.print ascii).length ≤ n →
    parse_value_with hooks (n + 1) (j.print ascii ++ rest) = some (j, rest)

theorem reads_items {items : List Json} (hw : wf_items items) (hp : plain_items items)
    (h : ∀ j ∈ items, Reads hooks ascii j) (hne : items ≠ []) (n : ℕ) (rest : List Char)
    (hn : (print_items ascii items).length ≤ n) :
    parse_items_with hooks (n + 2) (print_items ascii items ++ ']' :: rest) = some (items, rest) := by
  induction items generalizing n with
  | nil => exact absurd rfl hne
  | cons j items ih =>
    cases items with
    | nil =>
      have hj := h j List.mem_cons_self n (']' :: rest) (ends_value_cons (by simp)) hn
      rw [print_items, parse_items_with, hj]
      simp only [skip_ws_cons (c := ']') (by decide)]
    | cons k items =>
      cases n with
      | zero => simp [print_items] at hn
      | succ n =>
        simp only [print_items, List.length_cons, List.length_append] at hn
        have hj := h j List.mem_cons_self (n + 1) (',' :: (print_items ascii (k :: items) ++ ']' :: rest))
          (ends_value_cons (by simp)) (by omega)
        have hitems := ih hw.2 hp.2 (fun other hother => h other (List.mem_cons_of_mem _ hother))
          (by simp) n (by omega)
        have hstart := (print_items_start ascii hw.2 hp.2).append (']' :: rest)
        rw [print_items, List.append_assoc, List.cons_append, parse_items_with, hj]
        simp only [skip_ws_cons (c := ',') (by decide), hstart.1, hitems, Option.map_some]

theorem reads_fields {fields : List (PyStr × Json)} (hw : wf_fields fields) (hp : plain_fields fields)
    (h : ∀ f ∈ fields, encodable_str false f.1 = true ∧ Reads hooks ascii f.2) (hne : fields ≠ []) (n : ℕ)
    (rest : List Char) (hn : (print_fields ascii fields).length ≤ n) :
    parse_fields_with hooks (n + 2) (print_fields ascii fields ++ '}' :: rest) = some (fields, rest) := by
  -- on the fields; the fuel covers the text that is printed
  induction fields generalizing n with
  | nil => exact absurd rfl hne
  | cons f fields ih =>
    obtain ⟨k, j⟩ := f
    have hkey : encodable_str false k = true := (h _ List.mem_cons_self).1
    have hvalue : Reads hooks ascii j := (h _ List.mem_cons_self).2
    cases k with
    | surrogates codes lone => simp [encodable_str] at hkey
    | text k =>
      cases fields with
      | nil =>
        simp only [print_fields, print_str, List.length_append, List.length_cons] at hn
        have hj := hvalue n ('}' :: rest) (ends_value_cons (by simp)) (by omega)
        have hk := parse_string_print ascii k (':' :: (j.print ascii ++ '}' :: rest))
        have hstart := (print_start ascii hw.1 hp.1).append ('}' :: rest)
        simp only [print_fields, print_str, List.cons_append, List.append_assoc, List.nil_append]
        rw [parse_fields_with]
        simp only [hk, skip_ws_cons (c := ':') (by decide), hstart.1, hj,
          skip_ws_cons (c := '}') (by decide)]
      | cons g fields =>
        cases n with
        | zero => simp [print_fields, print_str] at hn
        | succ n =>
          simp only [print_fields, print_str, List.length_append, List.length_cons] at hn
          have hj := hvalue (n + 1) (',' :: (print_fields ascii (g :: fields) ++ '}' :: rest))
            (ends_value_cons (by simp)) (by omega)
          have hk := parse_string_print ascii k
            (':' :: (j.print ascii ++ ',' :: (print_fields ascii (g :: fields) ++ '}' :: rest)))
          have hfields := ih hw.2 hp.2 (fun other hother => h other (List.mem_cons_of_mem _ hother))
            (by simp) n (by omega)
          have hstart := (print_start ascii hw.1 hp.1).append
            (',' :: (print_fields ascii (g :: fields) ++ '}' :: rest))
          have hstart' := (print_fields_start ascii g fields).append ('}' :: rest)
          simp only [print_fields, print_str, List.cons_append, List.append_assoc, List.nil_append]
          rw [parse_fields_with]
          simp only [hk, skip_ws_cons (c := ':') (by decide), hstart.1, hj,
            skip_ws_cons (c := ',') (by decide), hstart'.1, hfields, Option.map_some]

theorem Reads.arr {items : List Json} (hw : wf_items items) (hp : plain_items items)
    (h : ∀ j ∈ items, Reads hooks ascii j) : Reads hooks ascii (.arr items) := by
  intro n rest _ hn
  cases items with
  | nil => simp [print, print_items, parse_value_with, skip_ws]
  | cons j items =>
    match n, hn with
    | 0, hn => simp [print] at hn
    | 1, hn => simp [print] at hn
    | n + 2, hn =>
      have hstart := (print_items_start ascii hw hp).append (']' :: rest)
      have hitems := reads_items hw hp h (by simp) n rest
        (by simp only [print, List.length_cons, List.length_append] at hn; omega)
      simp only [print, List.cons_append, List.append_assoc, List.nil_append]
      rw [parse_value_with.eq_def]
      simp only [hstart.1]
      split
      · rename_i heq
        exact absurd heq (hstart.2.1 _)
      · rw [hitems, Option.map_some]

theorem Reads.obj {fields : List (PyStr × Json)} (hdict : hooks.Keeps)
    (hnodup : (fields.map Prod.fst).Nodup) (hw : wf_fields fields) (hp : plain_fields fields)
    (h : ∀ f ∈ fields, encodable_str false f.1 = true ∧ Reads hooks ascii f.2) :
    Reads hooks ascii (.obj fields) := by
  intro n rest _ hn
  cases fields with
  | nil => simp [print, print_fields, parse_value_with, skip_ws, hdict [] List.nodup_nil]
  | cons f fields =>
    match n, hn with
    | 0, hn => simp [print] at hn
    | 1, hn => simp [print] at hn
    | n + 2, hn =>
      have hstart := (print_fields_start ascii f fields).append ('}' :: rest)
      have hfields := reads_fields hw hp h (by simp) n rest
        (by simp only [print, List.length_cons, List.length_append] at hn; omega)
      simp only [print, List.cons_append, List.append_assoc, List.nil_append]
      rw [parse_value_with.eq_def]
      simp only [hstart.1]
      split
      · rename_i heq
        exact absurd heq (hstart.2.2 _)
      · rw [hfields, Option.bind_some, hdict _ hnodup, Option.map_some]

/-- **An encodable value is read back.** -/
theorem reads_encodable (hdict : hooks.Keeps) {j : Json} (hw : j.wf) (hp : j.plain)
    (he : j.encodable false = true) : Reads hooks ascii j := by
  -- on the value: an atom ends where the next character cannot continue it
  induction j using induction_on with
  | leaf j harr hobj =>
    intro n rest hr _
    cases j with
    | null =>
      rw [print, List.cons_append, parse_value_atom (by decide)]
      exact parse_atom_ok rfl rfl
    | bool b =>
      cases b
      · rw [print, List.cons_append, parse_value_atom (by decide)]
        exact parse_atom_ok rfl rfl
      · rw [print, List.cons_append, parse_value_atom (by decide)]
        exact parse_atom_ok rfl rfl
    | int i =>
      rw [encodable, decide_eq_true_eq] at he
      exact parse_value_number (parse_number_int he hr)
    | float repr => exact parse_value_number (parse_number_float hw hr)
    | str s =>
      cases s with
      | surrogates codes lone => simp [encodable, encodable_str] at he
      | text s =>
        have hs := parse_string_print ascii s rest
        simp only [print, print_str, List.cons_append, List.append_assoc, List.nil_append,
          parse_value_with, hs, Option.map_some]
    | arr items => exact absurd rfl (harr items)
    | obj fields => exact absurd rfl (hobj fields)
    | number i => exact hp.elim
    | other d t => exact hp.elim
  | arr items ih =>
    have he' := encodable_items_iff.mp he
    exact Reads.arr hw hp fun j hj =>
      ih j hj (wf_items_iff.mp hw j hj) (plain_items_iff.mp hp j hj) (he' j hj)
  | obj fields ih =>
    have he' := encodable_fields_iff.mp he
    exact Reads.obj hdict hw.1 hw.2 hp fun f hf =>
      ⟨(he' f hf).1, ih f hf (wf_fields_iff.mp hw.2 f hf) (plain_fields_iff.mp hp f hf) (he' f hf).2⟩

end Reads

theorem norm_items_eq (items : List Json) : norm_items items = items.map norm := by
  induction items with
  | nil => rfl
  | cons j items ih => simp [norm_items, ih]

theorem norm_fields_eq (fields : List (PyStr × Json)) :
    norm_fields fields = fields.map fun f => (f.1, f.2.norm) := by
  induction fields with
  | nil => rfl
  | cons f fields ih => simp [norm_fields, ih]

/-! ## Key order -/

theorem sort_fields_perm (fields : List (PyStr × Json)) :
    (sort_fields fields).Perm fields := List.perm_insertionSort _ _

theorem mem_sort_fields {fields : List (PyStr × Json)} {f : PyStr × Json} :
    f ∈ sort_fields fields ↔ f ∈ fields := (sort_fields_perm fields).mem_iff

/-- The fields of a sorted dict. -/
theorem mem_norm_fields {fields : List (PyStr × Json)} {f : PyStr × Json} :
    f ∈ sort_fields (norm_fields fields) ↔ ∃ g ∈ fields, (g.1, g.2.norm) = f := by
  rw [mem_sort_fields, norm_fields_eq, List.mem_map]

/-- Sorting the keys keeps them. -/
theorem norm_fields_keys (fields : List (PyStr × Json)) :
    ((sort_fields (norm_fields fields)).map Prod.fst).Perm (fields.map Prod.fst) := by
  refine ((sort_fields_perm _).map _).trans ?_
  simp [norm_fields_eq, Function.comp_def]

theorem norm_leaf {j : Json} (ha : ∀ items, j ≠ .arr items) (ho : ∀ fields, j ≠ .obj fields) :
    j.norm = j := by
  cases j with
  | arr items => exact absurd rfl (ha items)
  | obj fields => exact absurd rfl (ho fields)
  | _ => rfl

theorem wf_norm {j : Json} : j.wf → j.norm.wf := by
  induction j using induction_on with
  | leaf j ha ho => rw [norm_leaf ha ho]; exact id
  | arr items ih =>
    simp only [norm, wf, wf_items_iff, norm_items_eq, List.mem_map]
    rintro h _ ⟨j, hj, rfl⟩
    exact ih j hj (h j hj)
  | obj fields ih =>
    simp only [norm, wf, wf_fields_iff]
    rintro ⟨hn, h⟩
    refine ⟨(norm_fields_keys fields).nodup_iff.mpr hn, ?_⟩
    intro f hf
    obtain ⟨g, hg, rfl⟩ := mem_norm_fields.mp hf
    exact ih g hg (h g hg)

theorem plain_norm {j : Json} : j.plain → j.norm.plain := by
  induction j using induction_on with
  | leaf j ha ho => rw [norm_leaf ha ho]; exact id
  | arr items ih =>
    simp only [norm, plain, plain_items_iff, norm_items_eq, List.mem_map]
    rintro h _ ⟨j, hj, rfl⟩
    exact ih j hj (h j hj)
  | obj fields ih =>
    simp only [norm, plain, plain_fields_iff]
    intro h f hf
    obtain ⟨g, hg, rfl⟩ := mem_norm_fields.mp hf
    exact ih g hg (h g hg)

theorem encodable_norm {ascii : Bool} {j : Json} :
    j.norm.encodable ascii = j.encodable ascii := by
  induction j using induction_on with
  | leaf j ha ho => rw [norm_leaf ha ho]
  | arr items ih =>
    rw [Bool.eq_iff_iff]
    simp only [norm, encodable, encodable_items_iff, norm_items_eq, List.forall_mem_map]
    exact forall₂_congr fun j hj => by rw [ih j hj]
  | obj fields ih =>
    rw [Bool.eq_iff_iff]
    simp only [norm, encodable, encodable_fields_iff, mem_norm_fields]
    constructor
    · intro h f hf
      have := h _ ⟨f, hf, rfl⟩
      rwa [ih f hf] at this
    · rintro h _ ⟨f, hf, rfl⟩
      rw [ih f hf]
      exact h f hf

/-- What canonical JSON can write, `ensure_ascii` can. -/
theorem encodable_ascii {j : Json} : j.encodable false = true → j.encodable true = true := by
  induction j using induction_on with
  | leaf j ha ho =>
    cases j with
    | arr items => exact absurd rfl (ha items)
    | obj fields => exact absurd rfl (ho fields)
    | str s => exact fun _ => by cases s <;> rfl
    | _ => exact id
  | arr items ih =>
    simp only [encodable, encodable_items_iff]
    exact fun h j hj => ih j hj (h j hj)
  | obj fields ih =>
    simp only [encodable, encodable_fields_iff]
    refine fun h f hf => ⟨?_, ih f hf (h f hf).2⟩
    cases f.1 <;> rfl

/-- Sorting is done once. -/
theorem norm_norm (j : Json) : j.norm.norm = j.norm := by
  induction j using induction_on with
  | leaf j ha ho => rw [norm_leaf ha ho, norm_leaf ha ho]
  | arr items ih =>
    simp only [norm, norm_items_eq, List.map_map]
    exact congrArg _ (List.map_congr_left ih)
  | obj fields ih =>
    have hsame : norm_fields (sort_fields (norm_fields fields)) =
        sort_fields (norm_fields fields) := by
      rw [norm_fields_eq]
      refine (List.map_congr_left (g := id) ?_).trans (List.map_id _)
      intro f hf
      obtain ⟨g, hg, rfl⟩ := mem_norm_fields.mp hf
      simp [ih g hg]
    have hsorted : List.Pairwise (fun a b : PyStr × Json => a.1.le b.1)
        (sort_fields (norm_fields fields)) := by
      have : Std.Total (fun a b : PyStr × Json => a.1.le b.1) :=
        ⟨fun a b => Std.Total.total a.1 b.1⟩
      have : IsTrans (PyStr × Json) (fun a b => a.1.le b.1) :=
        ⟨fun a b c => IsTrans.trans a.1 b.1 c.1⟩
      exact List.pairwise_insertionSort _ _
    rw [norm, norm, hsame]
    exact congrArg _ hsorted.insertionSort_eq

/-- Looking a key up in a dict is finding its pair. -/
theorem lookup_iff_mem {fields : List (PyStr × Json)} (hn : (fields.map Prod.fst).Nodup)
    (k : PyStr) (v : Json) : fields.lookup k = some v ↔ (k, v) ∈ fields := by
  induction fields with
  | nil => simp
  | cons f fields ih =>
    obtain ⟨k', v'⟩ := f
    rw [List.map_cons, List.nodup_cons] at hn
    by_cases hk : k = k'
    · subst hk
      have hnot : (k, v) ∉ fields := fun h => hn.1 (List.mem_map.mpr ⟨_, h, rfl⟩)
      simp [hnot, eq_comm]
    · have hb : (k == k') = false := by simpa using hk
      rw [List.lookup_cons, hb]
      simp [ih hn.2, hk]

/-- A key has the same value after sorting. -/
theorem get?_norm {j : Json} (hw : j.wf) (k : String) : j.norm.get? k = (j.get? k).map norm := by
  cases j with
  | obj fields =>
    have hn : ((sort_fields (norm_fields fields)).map Prod.fst).Nodup :=
      (norm_fields_keys fields).nodup_iff.mpr hw.1
    refine Option.ext fun v => ?_
    simp only [norm, get?, Option.map_eq_some_iff]
    rw [lookup_iff_mem hn, mem_norm_fields]
    constructor
    · rintro ⟨⟨k', v'⟩, hg, heq⟩
      obtain ⟨rfl, rfl⟩ := Prod.mk.inj heq
      exact ⟨v', (lookup_iff_mem hw.1 _ _).mpr hg, rfl⟩
    · rintro ⟨v', hv, rfl⟩
      exact ⟨_, (lookup_iff_mem hw.1 _ _).mp hv, rfl⟩
  | _ => rfl

/-! ## The round trip -/

mutual

/-- Without hooks the reader is the plain one. -/
theorem parse_value_plain : ∀ (n : ℕ) (cs : List Char),
    parse_value_with plain_hooks n cs = parse_value n cs
  | 0, cs => rfl
  | n + 1, cs => by
    have hitems := parse_items_plain n
    have hfields := parse_fields_plain n
    have hdict : ∀ pairs, plain_hooks.object_pairs pairs = some (dict_of_pairs pairs) := fun _ => rfl
    rw [parse_value_with.eq_def, parse_value.eq_def]
    simp only [hitems, hfields, hdict, Option.map_some]
    split <;> try rfl
    · split
      · rfl
      · rw [Option.map_eq_bind]
        rfl

theorem parse_items_plain : ∀ (n : ℕ) (cs : List Char),
    parse_items_with plain_hooks n cs = parse_items n cs
  | 0, cs => rfl
  | n + 1, cs => by
    have hitems := parse_items_plain n
    rw [parse_items_with, parse_items, parse_value_plain n]
    simp only [hitems]

theorem parse_fields_plain : ∀ (n : ℕ) (cs : List Char),
    parse_fields_with plain_hooks n cs = parse_fields n cs
  | 0, cs => rfl
  | n + 1, cs => by
    have hvalue := parse_value_plain n
    have hfields := parse_fields_plain n
    rw [parse_fields_with.eq_def, parse_fields.eq_def]
    simp only [hvalue, hfields]

end

theorem loads_plain (text : String) : loads_with plain_hooks text = loads text := by
  rw [loads_with, loads, parse_value_plain]

/-- A text that is read back is the whole text of its value. -/
theorem loads_with_reads {hooks : Hooks} {ascii : Bool} {j : Json} (hw : j.wf) (hp : j.plain)
    (h : Reads hooks ascii j) : loads_with hooks (String.ofList (j.print ascii)) = some j := by
  have hparse := h (j.print ascii).length [] ends_value_nil le_rfl
  have hstart := ((print_start ascii hw hp).append []).1
  rw [List.append_nil] at hparse hstart
  rw [loads_with, String.toList_ofList, hstart, hparse]
  rfl

/-- **Reading what was written gives the value with its keys sorted**, with
either treatment of non-ASCII text and whatever the hooks, as long as they keep
dicts. -/
theorem loads_with_print (ascii : Bool) {hooks : Hooks} (hdict : hooks.Keeps) {j : Json} (hw : j.wf) (hp : j.plain) (he : j.encodable false = true) :
    loads_with hooks (String.ofList (j.norm.print ascii)) = some j.norm :=
  loads_with_reads (wf_norm hw) (plain_norm hp)
    (reads_encodable hdict (wf_norm hw) (plain_norm hp) (by rwa [encodable_norm]))

theorem loads_print (ascii : Bool) {j : Json} (hw : j.wf) (hp : j.plain)
    (he : j.encodable false = true) :
    loads (String.ofList (j.norm.print ascii)) = some j.norm := by
  rw [← loads_plain]
  exact loads_with_print ascii (fun _ h => congrArg some (dict_of_pairs_nodup h)) hw hp he

/-- The strict reader reads what was written. -/
theorem loads_strict_print (ascii : Bool) {j : Json} (hw : j.wf) (hp : j.plain)
    (he : j.encodable false = true) :
    loads_with strict_hooks (String.ofList (j.norm.print ascii)) = some j.norm :=
  loads_with_print ascii (fun _ h => if_pos h) hw hp he

/-- Canonical text determines a value up to the order of its keys. -/
theorem dumps_inj {j k : Json} (hj : j.wf ∧ j.plain) (hk : k.wf ∧ k.plain) {t : String}
    (h₁ : j.dumps false = some t) (h₂ : k.dumps false = some t) : j.norm = k.norm := by
  simp only [dumps, Option.ite_none_right_eq_some, Option.some.injEq] at h₁ h₂
  have h := loads_print false hj.1 hj.2 h₁.1
  rw [h₁.2, ← h₂.2, loads_print false hk.1 hk.2 h₂.1] at h
  exact (Option.some.inj h).symm

end AppContracts.Json
