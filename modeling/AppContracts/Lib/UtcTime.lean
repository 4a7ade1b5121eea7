/-
UTC timestamps as text: `isoformat()` with `Z` for the offset, and back.

The reader is lenient, so the code that stores timestamps writes what it read and
compares. `parse_utc` is that reader; it reads back every timestamp that was
written (`parse_format`).
-/
import AppContracts.Lib.Datetime

set_option autoImplicit false

namespace AppContracts

namespace Datetime

/-! ## Writing -/

/-- A decimal digit. -/
def digit (n : ℕ) : Char := (n % 10).digitChar

/-- `"%02d" % n`. -/
def two (n : ℕ) : List Char := [digit (n / 10), digit n]

/-- `"%04d" % n`. -/
def four (n : ℕ) : List Char := [digit (n / 1000), digit (n / 100), digit (n / 10), digit n]

/-- `"%06d" % n`. -/
def six (n : ℕ) : List Char :=
  [digit (n / 100000), digit (n / 10000), digit (n / 1000), digit (n / 100), digit (n / 10), digit n]

/-- The date and time of `isoformat()`; a fraction is left out if it is zero. -/
def stamp (d : Datetime) : List Char :=
  four d.year ++ '-' :: two d.month ++ '-' :: two d.day ++ 'T' :: two d.hour ++ ':' :: two d.minute ++
    ':' :: two d.second ++ if d.microsecond = 0 then [] else '.' :: six d.microsecond

/-- `value.isoformat().replace("+00:00", "Z")` of a UTC value. -/
def format_utc (d : Datetime) : String := String.ofList (d.stamp ++ ['Z'])

/-- A UTC value: its fields are in range and its offset is zero. -/
structure IsUtc (d : Datetime) : Prop where
  in_range : d.in_range = true
  microsecond : d.microsecond < 1000000
  offset : d.offset = some 0

instance (d : Datetime) : Decidable d.IsUtc :=
  decidable_of_iff (d.in_range = true ∧ d.microsecond < 1000000 ∧ d.offset = some 0)
    ⟨fun h => ⟨h.1, h.2.1, h.2.2⟩, fun h => ⟨h.in_range, h.microsecond, h.offset⟩⟩

/-! ## Reading -/

/-- `datetime.fromisoformat(value[:-1] + "+00:00")`, for a text that ends in `Z`. -/
def from_zulu (value : String) : Option Datetime :=
  if value.toList.getLast? = some 'Z' then
    fromisoformat ((value.toList.dropLast ++ "+00:00".toList).map Char.toNat)
  else none

/-- `_parse_utc(value)`: a UTC time that is written as it was read. -/
def parse_utc (value : String) : Option Datetime :=
  (from_zulu value).filter fun d => d.IsUtc ∧ d.format_utc = value

theorem parse_utc_some {value : String} {d : Datetime} :
    parse_utc value = some d ↔ from_zulu value = some d ∧ d.IsUtc ∧ d.format_utc = value := by
  rw [parse_utc, Option.filter_eq_some_iff]
  simp

/-! ### Digits -/

/-- The codes of a text. -/
def codes (cs : List Char) : List ℕ := cs.map Char.toNat

theorem digit_code (n : ℕ) : (digit n).toNat = 48 + n % 10 := by
  have hlt : n % 10 < 10 := Nat.mod_lt _ (by decide)
  rw [digit]
  generalize n % 10 = k at hlt
  revert k
  decide

/-- One more digit of a number. -/
theorem digits_snoc {cs : List ℕ} {v k : ℕ} (h : digits? cs = some v) (hk : k < 10) :
    digits? (cs ++ [48 + k]) = some (10 * v + k) := by
  have hstep : 48 ≤ 48 + k ∧ 48 + k ≤ 57 := by omega
  rw [digits?, List.foldl_append, ← digits?, h, List.foldl_cons, List.foldl_nil, Option.bind_some,
    if_pos hstep]
  congr 1
  omega

theorem digits_two (n : ℕ) (h : n < 100) : digits? (codes (two n)) = some n := by
  have hfirst := @digits_snoc [] 0 _ rfl (Nat.mod_lt (n / 10) (by decide : 0 < 10))
  have hsecond := digits_snoc hfirst (Nat.mod_lt n (by decide : 0 < 10))
  simp only [codes, two, List.map_cons, List.map_nil, digit_code]
  refine hsecond.trans (congrArg some ?_)
  omega

theorem digits_four (n : ℕ) (h : n < 10000) : digits? (codes (four n)) = some n := by
  have h1 := @digits_snoc [] 0 _ rfl (Nat.mod_lt (n / 1000) (by decide : 0 < 10))
  have h2 := digits_snoc h1 (Nat.mod_lt (n / 100) (by decide : 0 < 10))
  have h3 := digits_snoc h2 (Nat.mod_lt (n / 10) (by decide : 0 < 10))
  have h4 := digits_snoc h3 (Nat.mod_lt n (by decide : 0 < 10))
  simp only [codes, four, List.map_cons, List.map_nil, digit_code]
  refine h4.trans (congrArg some ?_)
  omega

theorem digits_six (n : ℕ) (h : n < 1000000) : digits? (codes (six n)) = some n := by
  have h1 := @digits_snoc [] 0 _ rfl (Nat.mod_lt (n / 100000) (by decide : 0 < 10))
  have h2 := digits_snoc h1 (Nat.mod_lt (n / 10000) (by decide : 0 < 10))
  have h3 := digits_snoc h2 (Nat.mod_lt (n / 1000) (by decide : 0 < 10))
  have h4 := digits_snoc h3 (Nat.mod_lt (n / 100) (by decide : 0 < 10))
  have h5 := digits_snoc h4 (Nat.mod_lt (n / 10) (by decide : 0 < 10))
  have h6 := digits_snoc h5 (Nat.mod_lt n (by decide : 0 < 10))
  simp only [codes, six, List.map_cons, List.map_nil, digit_code]
  refine h6.trans (congrArg some ?_)
  omega

/-- Digits in front of a text. -/
theorem take_digits_append {n v : ℕ} {ds : List ℕ} (hlength : ds.length = n) (hv : digits? ds = some v)
    (rest : List ℕ) : take_digits n (ds ++ rest) = some (v, rest) := by
  rw [take_digits, if_neg (by rw [List.length_append]; omega), List.take_append_of_le_length (by omega),
    List.take_of_length_le (by omega), List.drop_append_of_le_length (by omega),
    List.drop_of_length_le (by omega), hv]
  rfl

/-! ### Reading what was written -/

theorem ascii_digits {cs : List Char} (h : ∀ c ∈ cs, ∃ n, c = digit n) :
    ∀ code ∈ cs.map Char.toNat, 48 ≤ code ∧ code ≤ 57 := by
  rintro _ hcode
  obtain ⟨c, hc, rfl⟩ := List.mem_map.mp hcode
  obtain ⟨n, rfl⟩ := h c hc
  have hlt : n % 10 < 10 := Nat.mod_lt _ (by decide)
  rw [digit_code]
  omega

/-- An ASCII text is its own UTF-8 encoding. -/
theorem ascii_text {cs : List ℕ} (h : ∀ c ∈ cs, c < 128) :
    sanitize cs = cs ∧ cs.flatMap utf8 = cs ∧ cs.any is_surrogate = false := by
  have hsurrogate : ∀ c, c < 128 → is_surrogate c = false := by
    intro c hc
    rw [is_surrogate, Bool.and_eq_false_iff]
    exact .inl (decide_eq_false (by omega))
  refine ⟨?_, ?_, ?_⟩
  · have hget : ∀ i, is_surrogate (cs.getD i 0) = false := by
      intro i
      rw [List.getD_eq_getElem?_getD]
      rcases hi : cs[i]? with _ | c
      · rfl
      · exact hsurrogate c (h c (List.mem_of_getElem? hi))
    have hfind : [7, 8, 10].find? (fun i => is_surrogate (cs.getD i 0)) = none :=
      List.find?_eq_none.mpr fun i _ => by rw [hget i]; exact Bool.false_ne_true
    rw [sanitize, hfind]
  · induction cs with
    | nil => rfl
    | cons c rest ih =>
      rw [List.flatMap_cons, ih fun d hd => h d (List.mem_cons_of_mem _ hd), utf8,
        if_pos (h c List.mem_cons_self)]
      rfl
  · rw [List.any_eq_false]
    intro c hc
    rw [hsurrogate c (h c hc)]
    exact Bool.false_ne_true

/-- A written date. -/
theorem parse_date_stamp {year month day : ℕ} (hy : year < 10000) (hm : month < 100) (hd : day < 100) :
    parse_date (codes (four year) ++ 45 :: codes (two month) ++ 45 :: codes (two day)) =
      some (year, month, day) := by
  have hyear := take_digits_append (n := 4) (by rfl) (digits_four year hy)
    (45 :: codes (two month) ++ 45 :: codes (two day))
  have hmonth := take_digits_append (n := 2) (by rfl) (digits_two month hm) (45 :: codes (two day))
  have hday := take_digits_append (n := 2) (by rfl) (digits_two day hd) []
  have hweek : (codes (two month)).head?.getD 45 ≠ 87 := by
    simp only [codes, two, List.map_cons, digit_code, List.head?_cons, Option.getD_some]
    omega
  rw [List.append_nil] at hday
  have hcodes : codes (four year) ++ 45 :: codes (two month) ++ 45 :: codes (two day) =
      codes (four year) ++ (45 :: codes (two month) ++ 45 :: codes (two day)) := List.append_assoc _ _ _
  rw [hcodes, parse_date, hyear]
  simp [hmonth, hday, hweek]

/-- The fraction of a written time. -/
def fraction (microsecond : ℕ) : List ℕ :=
  if microsecond = 0 then [] else 46 :: codes (six microsecond)

/-- The seconds of a written time and what follows them. -/
theorem parse_seconds {second microsecond : ℕ} (hs : second < 100) (hus : microsecond < 1000000) :
    parse_fields 43 1 true (codes (two second) ++ fraction microsecond) =
      some ([second], microsecond, true) := by
  rw [parse_fields, take_digits_append (n := 2) (by rfl) (digits_two second hs)]
  by_cases hzero : microsecond = 0
  · subst hzero
    rfl
  · have hsix := take_digits_append (n := 6) (by rfl) (digits_six microsecond hus) []
    rw [List.append_nil] at hsix
    have hlength : (codes (six microsecond)).length = 6 := rfl
    have hparse : parse_fraction (codes (six microsecond)) 43 = some (microsecond, true) := by
      rw [parse_fraction, hlength]
      simp [hsix]
    simp [fraction, hzero, hlength, hparse]

/-- A written time. -/
theorem parse_stamp_time {hour minute second microsecond : ℕ} (hh : hour < 100) (hm : minute < 100)
    (hs : second < 100) (hus : microsecond < 1000000) :
    parse_hh_mm_ss_ff (codes (two hour) ++ 58 :: (codes (two minute) ++ 58 ::
      (codes (two second) ++ fraction microsecond))) 43 =
      some ((hour, minute, second, microsecond), true) := by
  have hlength : ∀ n, (codes (two n)).length = 2 := fun _ => rfl
  have hminutes : parse_fields 43 2 true (codes (two minute) ++ 58 ::
      (codes (two second) ++ fraction microsecond)) = some ([minute, second], microsecond, true) := by
    rw [parse_fields, take_digits_append (n := 2) (by rfl) (digits_two minute hm)]
    simp [parse_seconds hs hus, hlength]
  rw [parse_hh_mm_ss_ff, parse_fields, take_digits_append (n := 2) (by rfl) (digits_two hour hh)]
  simp [hminutes, hlength]

/-- A written time with the offset of UTC. -/
theorem parse_time_stamp {hour minute second microsecond : ℕ} (hh : hour < 100) (hm : minute < 100)
    (hs : second < 100) (hus : microsecond < 1000000) :
    parse_time ((codes (two hour) ++ 58 :: (codes (two minute) ++ 58 ::
      (codes (two second) ++ fraction microsecond))) ++ codes "+00:00".toList) =
      some ((hour, minute, second, microsecond), some 0) := by
  -- no character of the time itself starts a zone, so the text is split at the offset
  have hzone : ∀ code ∈ codes (two hour) ++ 58 :: (codes (two minute) ++ 58 ::
      (codes (two second) ++ fraction microsecond)),
      (!(decide (code = 0x2b) || decide (code = 0x2d) || decide (code = 0x5a))) = true := by
    have hdigits : ∀ cs : List Char, (∀ c ∈ cs, ∃ n, c = digit n) → ∀ code ∈ codes cs,
        ¬ (code = 0x2b ∨ code = 0x2d ∨ code = 0x5a) := by
      intro cs hcs code hcode
      have := ascii_digits hcs code hcode
      omega
    have htwo : ∀ n, ∀ c ∈ two n, ∃ k, c = digit k := by simp [two]
    have hsix : ∀ n, ∀ c ∈ six n, ∃ k, c = digit k := by simp [six]
    have hfraction : ∀ code ∈ fraction microsecond, ¬ (code = 0x2b ∨ code = 0x2d ∨ code = 0x5a) := by
      intro code hcode
      unfold fraction at hcode
      split_ifs at hcode
      · cases hcode
      · rcases List.mem_cons.mp hcode with rfl | hcode
        · decide
        · exact hdigits _ (hsix _) code hcode
    intro code hcode
    simp only [List.mem_append, List.mem_cons] at hcode
    simp only [Bool.not_eq_true', Bool.or_eq_false_iff, decide_eq_false_iff_not, ← not_or, or_assoc]
    rcases hcode with hcode | rfl | hcode | rfl | hcode | hcode
    · exact hdigits _ (htwo _) code hcode
    · decide
    · exact hdigits _ (htwo _) code hcode
    · decide
    · exact hdigits _ (htwo _) code hcode
    · exact hfraction code hcode
  have hoffset : parse_hh_mm_ss_ff [48, 48, 58, 48, 48] 0 = some ((0, 0, 0, 0), false) := by decide
  have htail : codes "+00:00".toList = 43 :: [48, 48, 58, 48, 48] := by decide
  rw [parse_time, List.dropWhile_append_of_pos hzone, List.takeWhile_append_of_pos hzone, htail]
  simp [parse_stamp_time hh hm hs hus, hoffset]

/-- Every code of a written date and time is a digit or a separator. -/
theorem stamp_ascii (d : Datetime) : ∀ code ∈ codes (d.stamp ++ "+00:00".toList), code < 128 := by
  have hdigits : ∀ cs : List Char, (∀ c ∈ cs, ∃ n, c = digit n) → ∀ c ∈ cs, c.toNat < 128 := by
    intro cs hcs c hc
    have := ascii_digits hcs c.toNat (List.mem_map_of_mem hc)
    omega
  have htwo : ∀ n, ∀ c ∈ two n, c.toNat < 128 := fun n => hdigits _ (by simp [two])
  have hfour : ∀ n, ∀ c ∈ four n, c.toNat < 128 := fun n => hdigits _ (by simp [four])
  have hsix : ∀ n, ∀ c ∈ six n, c.toNat < 128 := fun n => hdigits _ (by simp [six])
  have hsep : ∀ c ∈ ['-', 'T', ':', '.', '+', '0'], c.toNat < 128 := by simp
  rintro _ hcode
  obtain ⟨c, hc, rfl⟩ := List.mem_map.mp hcode
  have hfraction : c ∈ (if d.microsecond = 0 then [] else '.' :: six d.microsecond) → c.toNat < 128 := by
    intro hc
    split_ifs at hc
    · cases hc
    · rcases List.mem_cons.mp hc with rfl | hc
      · decide
      · exact hsix _ c hc
  have hoffset : c ∈ "+00:00".toList → c.toNat < 128 := fun hc =>
    (by simp : ∀ c ∈ "+00:00".toList, c.toNat < 128) c hc
  simp only [stamp, List.mem_append, List.mem_cons] at hc
  rcases hc with (((((((hc | rfl | hc) | rfl | hc) | rfl | hc) | rfl | hc) | rfl | hc) | hc)) | hc
  · exact hfour _ c hc
  · decide
  · exact htwo _ c hc
  · decide
  · exact htwo _ c hc
  · decide
  · exact htwo _ c hc
  · decide
  · exact htwo _ c hc
  · decide
  · exact htwo _ c hc
  · exact hfraction hc
  · exact hoffset hc

/-- Where the date of a written value ends. -/
theorem separator_stamp (year month day : ℕ) (rest : List ℕ) :
    separator_location (codes (four year) ++ 45 :: codes (two month) ++ 45 :: codes (two day) ++
      84 :: rest) = some 10 := by
  have hlength : (codes (four year) ++ 45 :: codes (two month) ++ 45 :: codes (two day) ++
      84 :: rest).length = 11 + rest.length := by
    simp [codes, four, two]
    omega
  have hdash : (codes (four year) ++ 45 :: codes (two month) ++ 45 :: codes (two day) ++
      84 :: rest).getD 4 0 = 45 := rfl
  have hmonth : (codes (four year) ++ 45 :: codes (two month) ++ 45 :: codes (two day) ++
      84 :: rest).getD 5 0 ≠ 87 := by
    have hcode : (codes (four year) ++ 45 :: codes (two month) ++ 45 :: codes (two day) ++
        84 :: rest).getD 5 0 = (digit (month / 10)).toNat := rfl
    rw [hcode, digit_code]
    omega
  rw [separator_location, hlength, if_neg (by omega), if_pos hdash, if_neg hmonth]

/-- **A UTC value is read back from its text.** -/
theorem fromisoformat_stamp {d : Datetime} (h : d.IsUtc) :
    fromisoformat (codes (d.stamp ++ "+00:00".toList)) = some d := by
  have hrange := h.in_range
  simp only [in_range, Bool.and_eq_true, decide_eq_true_eq] at hrange
  obtain ⟨⟨⟨⟨⟨⟨⟨⟨hy, hy'⟩, hm⟩, hm'⟩, hday⟩, hday'⟩, hh⟩, hi⟩, hs⟩ := hrange
  have hmonth_days : d.day < 100 := by
    have hle : days_in_month d.year d.month ≤ 31 := by
      have hall : ∀ n ∈ month_lengths d.year, n ≤ 31 := by
        unfold month_lengths
        split_ifs <;> decide
      rw [days_in_month, List.getD_eq_getElem?_getD]
      rcases hget : (month_lengths d.year)[d.month - 1]? with _ | n
      · exact Nat.zero_le _
      · exact hall n (List.mem_of_getElem? hget)
    omega
  obtain ⟨hsanitize, hutf8, hsurrogate⟩ := ascii_text d.stamp_ascii
  have hdate := @parse_date_stamp d.year d.month d.day (by omega) (by omega) hmonth_days
  have htime := @parse_time_stamp d.hour d.minute d.second _ (by omega) (by omega) (by omega) h.microsecond
  have hcodes : codes (d.stamp ++ "+00:00".toList) =
      (codes (four d.year) ++ 45 :: codes (two d.month) ++ 45 :: codes (two d.day)) ++
        84 :: ((codes (two d.hour) ++ 58 :: (codes (two d.minute) ++ 58 ::
          (codes (two d.second) ++ fraction d.microsecond))) ++ codes "+00:00".toList) := by
    have hfraction : fraction d.microsecond =
        codes (if d.microsecond = 0 then [] else '.' :: six d.microsecond) := by
      unfold fraction
      split_ifs <;> rfl
    rw [hfraction]
    simp [stamp, codes]
  have hten : (codes (four d.year) ++ 45 :: codes (two d.month) ++ 45 :: codes (two d.day)).length = 10 :=
    rfl
  have hvalue : (⟨d.year, d.month, d.day, d.hour, d.minute, d.second, d.microsecond, some 0⟩ : Datetime) =
      d := by
    rw [← h.offset]
  rw [fromisoformat, hsanitize, hutf8, hsurrogate]
  have hsep := separator_stamp d.year d.month d.day ((codes (two d.hour) ++ 58 ::
    (codes (two d.minute) ++ 58 :: (codes (two d.second) ++ fraction d.microsecond))) ++
      codes "+00:00".toList)
  rw [hcodes]
  -- the two halves are opaque from here on: only their lengths matter
  generalize htail : (codes (two d.hour) ++ 58 :: (codes (two d.minute) ++ 58 ::
    (codes (two d.second) ++ fraction d.microsecond))) ++ codes "+00:00".toList = tail at htime hsep ⊢
  generalize hhead : codes (four d.year) ++ 45 :: codes (two d.month) ++ 45 :: codes (two d.day) = head
    at hdate hten hsep ⊢
  have hget : (head ++ 84 :: tail).getD 10 0 = 84 := by
    rw [List.getD_eq_getElem?_getD, List.getElem?_append_right (by omega), hten, Nat.sub_self]
    rfl
  have htake : (head ++ 84 :: tail).take 10 = head := by rw [← hten, List.take_left]
  have hdrop : (head ++ 84 :: tail).drop 11 = tail := by
    rw [← List.drop_drop (i := 1) (j := 10), ← hten, List.drop_left]
    rfl
  have hlength : ¬ (head ++ 84 :: tail).length < 7 ∧ ¬ (head ++ 84 :: tail).length ≤ 10 := by
    rw [List.length_append, List.length_cons, hten]
    omega
  clear hhead htail
  generalize head ++ 84 :: tail = cs at hsep hget htake hdrop hlength ⊢
  have hchar : cs.drop (10 + char_length (cs.getD 10 0)) = tail := by
    rw [hget]
    exact hdrop
  simp only [hlength.1, hlength.2, Bool.false_eq_true, or_self, if_false, hsep, Option.bind_eq_bind,
    Option.bind_some, htake, hdate, hchar, htime, hvalue, h.in_range, if_true]

/-- A UTC value's text is a text that ends in `Z`. -/
theorem from_zulu_format {d : Datetime} (h : d.IsUtc) : from_zulu d.format_utc = some d := by
  have hlast : d.format_utc.toList.getLast? = some 'Z' := by
    rw [format_utc, String.toList_ofList, List.getLast?_append]
    rfl
  have hinit : d.format_utc.toList.dropLast = d.stamp := by
    rw [format_utc, String.toList_ofList, List.dropLast_concat]
  rw [from_zulu, if_pos hlast, hinit]
  exact fromisoformat_stamp h

/-- **Timestamps round trip.** -/
theorem parse_format {d : Datetime} (h : d.IsUtc) : parse_utc d.format_utc = some d :=
  parse_utc_some.mpr ⟨from_zulu_format h, h, rfl⟩

/-! ## Arithmetic -/

/-- `datetime.min`, in microseconds. -/
def MIN_MICROSECONDS : ℤ := 86400000000

/-- `datetime.max`, in microseconds. -/
def MAX_MICROSECONDS : ℤ := 3652059 * 86400000000 + 86399999999

/-- `value + timedelta(seconds=seconds)` as an instant, `none` for its
`OverflowError`. -/
def shifted (d : Datetime) (seconds : ℤ) : Option ℤ :=
  let t := d.local_microseconds + seconds * 1000000
  if MIN_MICROSECONDS ≤ t ∧ t ≤ MAX_MICROSECONDS then some t else none

theorem shifted_some {d : Datetime} {seconds t : ℤ} : d.shifted seconds = some t ↔
    t = d.local_microseconds + seconds * 1000000 ∧ MIN_MICROSECONDS ≤ t ∧ t ≤ MAX_MICROSECONDS := by
  rw [shifted]
  constructor
  · intro h
    split_ifs at h with hrange
    obtain rfl := Option.some.inj h
    exact ⟨rfl, hrange⟩
  · rintro ⟨rfl, hrange⟩
    exact if_pos hrange

/-- `value.replace(microsecond=0)`. -/
def whole_second (d : Datetime) : Datetime := { d with microsecond := 0 }

theorem IsUtc.whole_second {d : Datetime} (h : d.IsUtc) : d.whole_second.IsUtc :=
  ⟨h.in_range, Nat.zero_lt_succ _, h.offset⟩

/-- Truncation goes back by less than a second. -/
theorem whole_second_micros {d : Datetime} (h : d.IsUtc) :
    d.whole_second.local_microseconds ≤ d.local_microseconds ∧
      d.local_microseconds < d.whole_second.local_microseconds + 1000000 := by
  have hus := h.microsecond
  simp only [whole_second, local_microseconds]
  omega

/-- An instant of a UTC value is its local time. -/
theorem IsUtc.instant_eq {d : Datetime} (h : d.IsUtc) : d.instant = some d.local_microseconds := by
  rw [instant, h.offset, Option.map_some, Int.sub_zero]

example : (⟨1, 1, 1, 0, 0, 0, 0, some 0⟩ : Datetime).local_microseconds = MIN_MICROSECONDS ∧
    (⟨9999, 12, 31, 23, 59, 59, 999999, some 0⟩ : Datetime).local_microseconds = MAX_MICROSECONDS := by
  decide

end Datetime

end AppContracts
