import Lathe.Program.Numeral
import Mathlib.Data.List.Infix

/-!
# The grammar of numerals

A numeral is a sign or none and a magnitude: digits, or a point with digits before it, behind it or
on both sides. Many texts begin with several numerals, such as `1`, `12` and `12.` in `12.X`. The
one that is read is the longest.

* `Numeral.longest_scan`: a numeral is read only where there is one, and then the longest;
* `Numeral.scan_eq_iff`: that determines what is read.
-/

namespace Lathe.Numeral

/-- Digits of any script and nothing else. -/
def Digits (cs : List Char) : Prop :=
  ∀ c ∈ cs, Text.isDigit c = true

/-- The numerals without a sign. -/
inductive Magnitude : List Char → Prop
  /-- Digits. -/
  | whole {ds : List Char} (hne : ds ≠ []) (hds : Digits ds) : Magnitude ds
  /-- A point, and digits before or behind it. -/
  | pointed {ds es : List Char} (hne : ds ++ es ≠ []) (hds : Digits ds) (hes : Digits es) :
      Magnitude (ds ++ '.' :: es)

/-- The numerals. -/
inductive IsNumeral : List Char → Prop
  /-- A magnitude alone. -/
  | unsigned {cs : List Char} (h : Magnitude cs) : IsNumeral cs
  /-- A sign and a magnitude. -/
  | signed {sign : Char} {cs : List Char} (hsign : isSign sign = true) (h : Magnitude cs) :
      IsNumeral (sign :: cs)

/-- `numeral` is the longest numeral at the start of `cs`; it is empty if there is none. -/
structure Longest (numeral cs : List Char) : Prop where
  /-- It stands at the start. -/
  starts : numeral <+: cs
  /-- It is a numeral, or empty. -/
  isNumeral : numeral = [] ∨ IsNumeral numeral
  /-- No numeral at the start is longer. -/
  length_le : ∀ other, other <+: cs → IsNumeral other → other.length ≤ numeral.length

variable {cs ds rest numeral other : List Char}

/-! ## Characters -/

theorem Magnitude.ne_nil (h : Magnitude cs) : cs ≠ [] := by
  cases h with
  | whole hne _ => exact hne
  | pointed => simp

theorem IsNumeral.ne_nil (h : IsNumeral cs) : cs ≠ [] := by
  cases h with
  | unsigned h => exact h.ne_nil
  | signed => simp

theorem Magnitude.of_mem (h : Magnitude cs) {c : Char} (hc : c ∈ cs) :
    c = '.' ∨ Text.isDigit c = true := by
  cases h with
  | whole _ hds => exact .inr (hds c hc)
  | pointed _ hds hes =>
    rcases List.mem_append.mp hc with hc | hc
    · exact .inr (hds c hc)
    · exact (List.mem_cons.mp hc).imp_right (hes c)

theorem eq_of_isSign {c : Char} (h : isSign c = true) : c = '+' ∨ c = '-' := by
  simpa [isSign] using h

/-- The characters that numerals are made of. -/
theorem IsNumeral.of_mem (h : IsNumeral cs) {c : Char} (hc : c ∈ cs) :
    c = '+' ∨ c = '-' ∨ c = '.' ∨ Text.isDigit c = true := by
  cases h with
  | unsigned h => exact .inr (.inr (h.of_mem hc))
  | signed hsign h =>
    rcases List.mem_cons.mp hc with rfl | hc
    · exact (eq_of_isSign hsign).imp_right .inl
    · exact .inr (.inr (h.of_mem hc))

theorem isSign_eq_false_of_isDigit {c : Char} (h : Text.isDigit c = true) : isSign c = false := by
  rw [Bool.eq_false_iff]
  intro hsign
  rcases eq_of_isSign hsign with rfl | rfl <;> exact absurd h (by decide)

theorem Magnitude.isSign_eq_false (h : Magnitude cs) {c : Char} (hc : c ∈ cs) :
    isSign c = false := by
  rcases h.of_mem hc with rfl | hdigit
  · rfl
  · exact isSign_eq_false_of_isDigit hdigit

/-- A magnitude is digits, and nothing behind them or a point and more. -/
theorem Magnitude.exists_eq (h : Magnitude cs) :
    ∃ whole rest, cs = whole ++ rest ∧ Digits whole ∧
      (rest = [] ∨ ∃ fraction, rest = '.' :: fraction) := by
  cases h with
  | whole _ hds => exact ⟨cs, [], (List.append_nil cs).symm, hds, .inl rfl⟩
  | pointed _ hds _ => exact ⟨_, _, rfl, hds, .inr ⟨_, rfl⟩⟩

/-! ## What is read without a sign -/

theorem takeWhile_of_point (hds : Digits ds) :
    (ds ++ '.' :: rest).takeWhile Text.isDigit = ds := by
  rw [List.takeWhile_append_of_pos hds, List.takeWhile_cons_of_neg (by decide), List.append_nil]

theorem dropWhile_of_point (hds : Digits ds) :
    (ds ++ '.' :: rest).dropWhile Text.isDigit = '.' :: rest := by
  rw [List.dropWhile_append_of_pos hds, List.dropWhile_cons_of_neg (by decide)]

/-- Where a point stands behind the digits, the numeral goes on to the end of the digits behind it,
unless there are no digits on either side. -/
theorem scanUnsigned_of_point (hds : Digits ds) :
    scanUnsigned (ds ++ '.' :: rest) =
      if ds.isEmpty && (rest.takeWhile Text.isDigit).isEmpty then []
      else ds ++ '.' :: rest.takeWhile Text.isDigit := by
  simp only [scanUnsigned, takeWhile_of_point hds, dropWhile_of_point hds]

theorem digits_takeWhile (cs : List Char) : Digits (cs.takeWhile Text.isDigit) :=
  List.all_eq_true.mp List.all_takeWhile

theorem scanUnsigned_cases (cs : List Char) :
    scanUnsigned cs = cs.takeWhile Text.isDigit ∨
      ∃ rest, cs = cs.takeWhile Text.isDigit ++ '.' :: rest := by
  have hcs : cs = cs.takeWhile Text.isDigit ++ cs.dropWhile Text.isDigit :=
    List.takeWhile_append_dropWhile.symm
  unfold scanUnsigned
  dsimp only
  split
  next rest hrest => exact .inr ⟨rest, hrest ▸ hcs⟩
  next => exact .inl rfl

/-- What is read without a sign stands at the start, and is a magnitude if there is any. -/
theorem scanUnsigned_sound (cs : List Char) :
    scanUnsigned cs <+: cs ∧ (scanUnsigned cs = [] ∨ Magnitude (scanUnsigned cs)) := by
  rcases scanUnsigned_cases cs with hwhole | ⟨rest, hcs⟩
  · rw [hwhole]
    refine ⟨List.takeWhile_prefix _, or_iff_not_imp_left.mpr fun hne => ?_⟩
    exact .whole hne (digits_takeWhile cs)
  · rw [hcs, scanUnsigned_of_point (digits_takeWhile cs)]
    split
    · exact ⟨List.nil_prefix, .inl rfl⟩
    next hdigits =>
      refine ⟨?_, .inr (.pointed ?_ (digits_takeWhile cs) (digits_takeWhile rest))⟩
      · rw [List.prefix_append_right_inj, List.cons_prefix_cons]
        exact ⟨rfl, List.takeWhile_prefix _⟩
      · simpa using hdigits

/-- No magnitude at the start is longer than what is read. -/
theorem Magnitude.length_le_scanUnsigned (h : Magnitude other) (hother : other <+: cs) :
    other.length ≤ (scanUnsigned cs).length := by
  obtain ⟨rest, rfl⟩ := hother
  cases h with
  | whole hne hds =>
    have htake : (other ++ rest).takeWhile Text.isDigit = other ++ rest.takeWhile Text.isDigit :=
      List.takeWhile_append_of_pos hds
    -- the digits that are read go on where those of `other` end, and a point adds to them
    rcases scanUnsigned_cases (other ++ rest) with hwhole | ⟨behind, hcs⟩
    · rw [hwhole, htake]
      exact (List.prefix_append _ _).length_le
    · rw [hcs, scanUnsigned_of_point (digits_takeWhile _), htake, if_neg (by simp [hne])]
      simp only [List.length_append]
      omega
  | @pointed ds es hne hds hes =>
    -- the point is the first character that is no digit, so the scan comes to it as well
    have hcs : ds ++ '.' :: es ++ rest = ds ++ '.' :: (es ++ rest) := by simp
    have hdigits :
        ¬(ds.isEmpty && (es ++ rest.takeWhile Text.isDigit).isEmpty) = true := by
      intro hempty
      simp only [Bool.and_eq_true, List.isEmpty_iff, List.append_eq_nil_iff] at hempty
      exact hne (List.append_eq_nil_iff.mpr ⟨hempty.1, hempty.2.1⟩)
    rw [hcs, scanUnsigned_of_point hds, List.takeWhile_append_of_pos hes, if_neg hdigits]
    simp only [List.length_append, List.length_cons]
    omega

/-! ## What is read -/

theorem scan_of_isSign {sign : Char} (hsign : isSign sign = true) :
    scan (sign :: rest) =
      if (scanUnsigned rest).isEmpty then [] else sign :: scanUnsigned rest := by
  rw [scan, if_pos hsign]

theorem scan_of_not_isSign {c : Char} (hc : isSign c = false) :
    scan (c :: rest) = scanUnsigned (c :: rest) := by
  rw [scan, if_neg (by simp [hc])]

/-- A numeral is read only where there is one. -/
theorem scan_sound (cs : List Char) :
    scan cs <+: cs ∧ (scan cs = [] ∨ IsNumeral (scan cs)) := by
  cases cs with
  | nil => exact ⟨List.nil_prefix, .inl rfl⟩
  | cons c rest =>
    cases hsign : isSign c with
    | false =>
      rw [scan_of_not_isSign hsign]
      exact (scanUnsigned_sound (c :: rest)).imp_right (Or.imp_right .unsigned)
    | true =>
      obtain ⟨hstarts, hmagnitude⟩ := scanUnsigned_sound rest
      rw [scan_of_isSign hsign]
      split
      · exact ⟨List.nil_prefix, .inl rfl⟩
      next hne =>
        have hread : Magnitude (scanUnsigned rest) :=
          hmagnitude.resolve_left (by simpa using hne)
        exact ⟨List.cons_prefix_cons.mpr ⟨rfl, hstarts⟩, .inr (.signed hsign hread)⟩

/-- No numeral at the start is longer than the one that is read. -/
theorem IsNumeral.length_le_scan (h : IsNumeral other) (hother : other <+: cs) :
    other.length ≤ (scan cs).length := by
  cases cs with
  | nil => simp [List.prefix_nil.mp hother, scan]
  | cons c rest =>
    cases h with
    | unsigned h =>
      -- a magnitude does not begin with a sign, so the text does not either
      obtain ⟨d, others, rfl⟩ := List.exists_cons_of_ne_nil h.ne_nil
      obtain ⟨rfl, -⟩ := List.cons_prefix_cons.mp hother
      rw [scan_of_not_isSign (h.isSign_eq_false List.mem_cons_self)]
      exact h.length_le_scanUnsigned hother
    | @signed sign magnitude hsign h =>
      obtain ⟨rfl, hrest⟩ := List.cons_prefix_cons.mp hother
      have hlength := h.length_le_scanUnsigned hrest
      -- a sign is given up only where no magnitude is behind it
      have hne : scanUnsigned rest ≠ [] := by
        intro hnil
        rw [hnil] at hlength
        exact h.ne_nil (List.length_eq_zero_iff.mp (Nat.le_zero.mp hlength))
      rw [scan_of_isSign hsign, if_neg (by simpa using hne)]
      exact Nat.succ_le_succ hlength

/-- What is read at the start of a text is the longest numeral there. -/
theorem longest_scan (cs : List Char) : Longest (scan cs) cs where
  starts := (scan_sound cs).1
  isNumeral := (scan_sound cs).2
  length_le _ hother h := h.length_le_scan hother

theorem Longest.length_le_of_longest (h : Longest numeral cs) (hother : Longest other cs) :
    numeral.length ≤ other.length := by
  rcases h.isNumeral with rfl | hnumeral
  · exact Nat.zero_le _
  · exact hother.length_le numeral h.starts hnumeral

/-- There is only one longest numeral. -/
theorem scan_eq_iff : scan cs = numeral ↔ Longest numeral cs := by
  constructor
  · rintro rfl
    exact longest_scan cs
  · intro h
    have hlength : (scan cs).length = numeral.length :=
      Nat.le_antisymm ((longest_scan cs).length_le_of_longest h)
        (h.length_le_of_longest (longest_scan cs))
    -- two prefixes of the same length are equal
    have hshorter := List.prefix_of_prefix_length_le (longest_scan cs).starts h.starts hlength.le
    exact hshorter.eq_of_length hlength

end Lathe.Numeral
