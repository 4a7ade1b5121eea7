/-
The regular expressions of schema patterns, and `re.search`.

A repetition is of one character class, as in every pattern of a schema, so the
matcher is a plain recursion: `ends` lists what can remain of a text after a
match at its start. `Matches` is the language it decides.

Everything works on code points, as `re` does.
-/
import Mathlib.Data.List.Infix

set_option autoImplicit false

namespace AppContracts

/-- A character class: the code points in one of the ranges, or in none. -/
structure CharClass : Type where
  ranges : List (ℕ × ℕ)
  negated : Bool := false
  deriving DecidableEq

/-- Whether a code point is in the class. -/
def CharClass.mem (c : CharClass) (code : ℕ) : Bool :=
  (c.ranges.any fun r => r.1 ≤ code && code ≤ r.2) != c.negated

/-- A regular expression. -/
inductive Regex : Type
  | lit (text : String)
  /-- A class repeated at least `min` times, and at most `max` if there is a
  bound. -/
  | cls (c : CharClass) (min : ℕ) (max : Option ℕ)
  | seq (a b : Regex)
  | alt (a b : Regex)

namespace Regex

/-- The code points of a text. -/
def text_codes (s : String) : List ℕ := s.toList.map Char.toNat

/-- What can remain of a text after `min` to `max` characters of the class. -/
def cls_ends (c : CharClass) : ℕ → Option ℕ → List ℕ → List (List ℕ)
  | min, _, [] => if min = 0 then [[]] else []
  | min, max, code :: rest =>
    (if min = 0 then [code :: rest] else []) ++
      if max ≠ some 0 ∧ c.mem code = true then cls_ends c (min - 1) (max.map (· - 1)) rest else []

/-- What can remain of a text after a match at its start. -/
def ends : Regex → List ℕ → List (List ℕ)
  | lit s, cs =>
    if (text_codes s).isPrefixOf cs then [cs.drop (text_codes s).length] else []
  | cls c min max, cs => cls_ends c min max cs
  | seq a b, cs => (a.ends cs).flatMap b.ends
  | alt a b, cs => a.ends cs ++ b.ends cs

/-- The texts an expression matches as a whole. -/
def Matches : Regex → List ℕ → Prop
  | lit s, w => w = text_codes s
  | cls c min max, w => (∀ code ∈ w, c.mem code = true) ∧ min ≤ w.length ∧ ∀ n ∈ max, w.length ≤ n
  | seq a b, w => ∃ u v, w = u ++ v ∧ a.Matches u ∧ b.Matches v
  | alt a b, w => a.Matches w ∨ b.Matches w

theorem mem_cls_ends {c : CharClass} {min : ℕ} {max : Option ℕ} {cs rest : List ℕ} :
    rest ∈ cls_ends c min max cs ↔ ∃ w, cs = w ++ rest ∧ (cls c min max).Matches w := by
  induction cs generalizing min max with
  | nil =>
    by_cases hmin : min = 0 <;> simp [cls_ends, Matches, hmin]
  | cons code cs ih =>
    simp only [cls_ends, List.mem_append, Matches]
    constructor
    · rintro (h | h)
      · -- Stop before the character.
        split at h
        · rename_i hmin
          obtain rfl := List.mem_singleton.mp h
          exact ⟨[], rfl, by simp [hmin]⟩
        · simp at h
      · -- Take the character.
        split at h
        · rename_i hc
          obtain ⟨w, rfl, hw, hmin, hmax⟩ := ih.mp h
          refine ⟨code :: w, rfl, ?_, ?_, ?_⟩
          · simpa [hc.2] using hw
          · simp only [List.length_cons]
            omega
          · intro n hn
            have hn' : n - 1 ∈ max.map (· - 1) := Option.mem_map_of_mem _ hn
            have hpos : n ≠ 0 := fun h0 => hc.1 (by rw [← h0]; exact hn)
            have := hmax _ hn'
            simp only [List.length_cons]
            omega
        · simp at h
    · rintro ⟨w, hw, hmem, hmin, hmax⟩
      cases w with
      | nil =>
        left
        have hmin : min = 0 := by simpa using hmin
        rw [if_pos hmin, List.nil_append] at *
        exact List.mem_singleton.mpr hw.symm
      | cons code' w =>
        right
        obtain ⟨rfl, rfl⟩ := List.cons_eq_cons.mp hw
        have hc : max ≠ some 0 ∧ c.mem code = true := by
          refine ⟨fun h0 => ?_, hmem code (by simp)⟩
          have := hmax 0 h0
          simp at this
        rw [if_pos hc]
        refine ih.mpr ⟨w, rfl, fun x hx => hmem x (by simp [hx]), ?_, ?_⟩
        · simp only [List.length_cons] at hmin
          omega
        · intro n hn
          obtain ⟨m, hm, rfl⟩ := Option.map_eq_some_iff.mp hn
          have := hmax m hm
          simp only [List.length_cons] at this
          omega

/-- The matcher decides the language. -/
theorem mem_ends {r : Regex} {cs rest : List ℕ} :
    rest ∈ r.ends cs ↔ ∃ w, cs = w ++ rest ∧ r.Matches w := by
  -- on the pattern; a class is a run of characters, of which every long enough beginning ends it
  induction r generalizing cs rest with
  | lit s =>
    simp only [ends, Matches]
    constructor
    · intro h
      split at h
      · rename_i hp
        obtain ⟨t, rfl⟩ := List.isPrefixOf_iff_prefix.mp hp
        rw [List.drop_left, List.mem_singleton] at h
        exact ⟨_, by rw [h], rfl⟩
      · simp at h
    · rintro ⟨_, rfl, rfl⟩
      rw [if_pos (List.isPrefixOf_iff_prefix.mpr (List.prefix_append _ _)), List.drop_left]
      exact List.mem_singleton.mpr rfl
  | cls c min max => exact mem_cls_ends
  | seq a b iha ihb =>
    simp only [ends, List.mem_flatMap, iha, ihb, Matches]
    constructor
    · rintro ⟨_, ⟨u, rfl, hu⟩, v, rfl, hv⟩
      exact ⟨u ++ v, (List.append_assoc _ _ _).symm, u, v, rfl, hu, hv⟩
    · rintro ⟨_, rfl, u, v, rfl, hu, hv⟩
      exact ⟨v ++ rest, ⟨u, List.append_assoc _ _ _, hu⟩, v, rfl, hv⟩
  | alt a b iha ihb =>
    simp only [ends, List.mem_append, iha, ihb, Matches, and_or_left, exists_or]

/-- Every match contains another character than the given ones. -/
def needs_other (codes : List ℕ) : Regex → Bool
  | lit s => (text_codes s).any fun c => !codes.contains c
  | cls c min _ => decide (1 ≤ min) && codes.all fun code => !c.mem code
  | seq a b => a.needs_other codes || b.needs_other codes
  | alt a b => a.needs_other codes && b.needs_other codes

theorem Matches.has_other {r : Regex} {codes : List ℕ} {w : List ℕ} (h : r.Matches w)
    (hr : r.needs_other codes = true) : ∃ c ∈ w, c ∉ codes := by
  induction r generalizing w with
  | lit s =>
    rw [needs_other, List.any_eq_true] at hr
    obtain ⟨c, hc, hne⟩ := hr
    exact ⟨c, h ▸ hc, by simpa using hne⟩
  | cls c min max =>
    rw [needs_other, Bool.and_eq_true, decide_eq_true_eq, List.all_eq_true] at hr
    obtain ⟨hmem, hmin, -⟩ := h
    have hpos : 0 < w.length := by omega
    obtain ⟨x, hx⟩ := List.exists_mem_of_length_pos hpos
    refine ⟨x, hx, fun hcode => ?_⟩
    have hnot := hr.2 x hcode
    rw [hmem x hx] at hnot
    exact absurd hnot (by decide)
  | seq a b iha ihb =>
    obtain ⟨u, v, rfl, hu, hv⟩ := h
    rw [needs_other, Bool.or_eq_true] at hr
    rcases hr with hr | hr
    · obtain ⟨c, hc, hne⟩ := iha hu hr
      exact ⟨c, List.mem_append_left _ hc, hne⟩
    · obtain ⟨c, hc, hne⟩ := ihb hv hr
      exact ⟨c, List.mem_append_right _ hc, hne⟩
  | alt a b iha ihb =>
    rw [needs_other, Bool.and_eq_true] at hr
    exact h.elim (fun h => iha h hr.1) fun h => ihb h hr.2

end Regex

/-- A pattern: an expression, perhaps anchored with `^` and `$`. -/
structure Pattern : Type where
  body : Regex
  start : Bool := true
  finish : Bool := true

namespace Pattern

/-- `$` also matches before a newline that ends the text. -/
def at_end (rest : List ℕ) : Bool := rest == [] || rest == [0x0a]

/-- `re.search(pattern, text) is not None`. -/
def search (p : Pattern) (cs : List ℕ) : Bool :=
  (if p.start then [cs] else cs.tails).any fun suffix =>
    (p.body.ends suffix).any fun rest => !p.finish || at_end rest

/-- A search finds a match among the characters of the text. -/
theorem search_has_other {p : Pattern} {cs codes : List ℕ} (h : p.search cs = true)
    (hp : p.body.needs_other codes = true) : ∃ c ∈ cs, c ∉ codes := by
  rw [search, List.any_eq_true] at h
  obtain ⟨suffix, hsuffix, h⟩ := h
  obtain ⟨rest, hrest, -⟩ := List.any_eq_true.mp h
  obtain ⟨w, rfl, hw⟩ := Regex.mem_ends.mp hrest
  obtain ⟨c, hc, hne⟩ := hw.has_other hp
  refine ⟨c, ?_, hne⟩
  split at hsuffix
  · obtain rfl := List.mem_singleton.mp hsuffix
    exact List.mem_append_left _ hc
  · exact ((List.mem_tails _ _).mp hsuffix).mem (List.mem_append_left _ hc)

end Pattern

end AppContracts
