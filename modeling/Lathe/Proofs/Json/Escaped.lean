import Lathe.Json.Printer
import Lathe.Json.Reader
import Mathlib

/-!
# Escaped strings

A string is written with escaped code units for all but the plain characters, and read back from
them. A code point beyond the first plane is written as a surrogate pair, and a pair is read as one
code point: so a string in which the two halves of a pair stand next to each other as two code
points is read as another string. All other strings are read as they were.

* `readString_escaped`: one character is read as it was written;
* `readString_points`: so is a string without such halves.
-/

namespace Lathe.Json

open Text

variable {n : Nat} {done points : List Nat} {fuel : Nat} {tail rest : List Char}

/-! ## Code units -/

/-- The first half of a surrogate pair. -/
def IsHigh (n : Nat) : Prop :=
  0xd800 ≤ n ∧ n < 0xdc00

/-- The second half of a surrogate pair. -/
def IsLow (n : Nat) : Prop :=
  0xdc00 ≤ n ∧ n < 0xe000

instance : DecidablePred IsHigh := fun n => inferInstanceAs (Decidable (_ ≤ n ∧ n < _))

instance : DecidablePred IsLow := fun n => inferInstanceAs (Decidable (_ ≤ n ∧ n < _))

theorem hexValue?_digitChar {d : Nat} (hd : d < 16) : hexValue? d.digitChar = some d := by
  have hdigits : ∀ d < 16, hexValue? (Nat.digitChar d) = some d := by decide
  exact hdigits d hd

theorem hexDigits_four (n : Nat) :
    hexDigits 4 n = [(n / 4096 % 16).digitChar, (n / 256 % 16).digitChar, (n / 16 % 16).digitChar,
      (n / 1 % 16).digitChar] := rfl

theorem readUnit_hexDigits (hn : n < 0x10000) (tail : List Char) :
    readUnit (hexDigits 4 n ++ tail) = some (n, tail) := by
  have hdigit : ∀ k, hexValue? (Nat.digitChar (k % 16)) = some (k % 16) := fun k =>
    hexValue?_digitChar (Nat.mod_lt _ (by decide))
  simp only [hexDigits_four, List.cons_append, List.nil_append, readUnit, hdigit,
    Option.bind_eq_bind, Option.bind_some, Option.some.injEq, Prod.mk.injEq, and_true]
  omega

/-- A text does not begin with the escaped second half of a surrogate pair. -/
def NoLow (cs : List Char) : Prop :=
  ∀ more unit after, cs = '\\' :: 'u' :: more → readUnit more = some (unit, after) → ¬IsLow unit

theorem readEscapedUnit_append (hn : n < 0x10000) (h : IsHigh n → NoLow tail) :
    readEscapedUnit (hexDigits 4 n ++ tail) = some (n, tail) := by
  rw [readEscapedUnit, readUnit_hexDigits hn, Option.bind_eq_bind, Option.bind_some]
  dsimp only
  split
  next more =>
    split
    next unit after hunit =>
      rw [if_neg]
      rintro ⟨hlow, hhigh, hpair⟩
      exact h ⟨hlow, hhigh⟩ more unit after rfl hunit hpair
    next => rfl
  next => rfl

theorem readEscapedUnit_pair (hn : n < 0x100000) :
    readEscapedUnit (hexDigits 4 (0xd800 + n / 0x400) ++
      (escapedUnit (0xdc00 + n % 0x400) ++ tail)) = some (0x10000 + n, tail) := by
  rw [readEscapedUnit, readUnit_hexDigits (by omega), Option.bind_eq_bind, Option.bind_some]
  simp only [escapedUnit, List.cons_append]
  rw [readUnit_hexDigits (by omega)]
  dsimp only
  rw [if_pos (by omega), Option.some.injEq, Prod.mk.injEq]
  exact ⟨by omega, rfl⟩

/-! ## Code points -/

theorem readString_unicode (cs : List Char) : readString done (fuel + 1) ('\\' :: 'u' :: cs) =
    (readEscapedUnit cs).bind fun (point, rest) => readString (point :: done) fuel rest :=
  rfl

theorem readString_unit (hn : n < 0x10000) (h : IsHigh n → NoLow tail) :
    readString done (fuel + 1) (escapedUnit n ++ tail) = readString (n :: done) fuel tail := by
  rw [escapedUnit, List.cons_append, List.cons_append, readString_unicode,
    readEscapedUnit_append hn h, Option.bind_some]

/-- A character is written with a letter that stands for it, as it is, as one code unit, or as a
surrogate pair. -/
theorem escaped_cases (c : Char) :
    (∃ e, e ≠ 'u' ∧ escape? e = some c ∧ escaped c = ['\\', e]) ∨
      (c ≠ '"' ∧ c ≠ '\\' ∧ ¬c.toNat < 0x20 ∧ escaped c = [c]) ∨
      (c.toNat < 0x10000 ∧ escaped c = escapedUnit c.toNat) ∨
      0x10000 ≤ c.toNat ∧ escaped c = escapedUnit (0xd800 + (c.toNat - 0x10000) / 0x400) ++
        escapedUnit (0xdc00 + (c.toNat - 0x10000) % 0x400) := by
  have htext := escaped.eq_1 c
  generalize escaped c = text at *
  split_ifs at htext with hquote hnewline hreturn htab hpage hback hplain hunit
  · exact .inl ⟨c, by rcases hquote with rfl | rfl <;> decide,
      by rcases hquote with rfl | rfl <;> decide, htext⟩
  · exact .inl ⟨'n', by decide, hnewline ▸ rfl, htext⟩
  · exact .inl ⟨'r', by decide, hreturn ▸ rfl, htext⟩
  · exact .inl ⟨'t', by decide, htab ▸ rfl, htext⟩
  · exact .inl ⟨'f', by decide, hpage ▸ rfl, htext⟩
  · exact .inl ⟨'b', by decide, hback ▸ rfl, htext⟩
  · rw [not_or] at hquote
    exact .inr (.inl ⟨hquote.1, hquote.2, by omega, htext⟩)
  · exact .inr (.inr (.inl ⟨hunit, htext⟩))
  · exact .inr (.inr (.inr ⟨by omega, htext⟩))

/-- One character is read as it was written. -/
theorem readString_escaped (c : Char) :
    readString done (fuel + 1) (escaped c ++ tail) = readString (c.toNat :: done) fuel tail := by
  have hscalar : c.toNat.isValidChar := c.valid
  obtain ⟨e, he, hescape, heq⟩ | ⟨hquote, hslash, hplain, heq⟩ | ⟨hunit, heq⟩ | ⟨hpair, heq⟩ :=
    escaped_cases c
  · -- a letter after a backslash
    rw [heq, List.cons_append, List.singleton_append, readString.eq_5 _ _ _ _ he, hescape]
    rfl
  · -- the character itself
    rw [heq, List.singleton_append, readString.eq_6 _ _ _ _ hquote (fun _ h _ => hslash h)
      (fun _ _ h _ => hslash h), if_neg (not_or.mpr ⟨hplain, hslash⟩)]
  · -- a character is no half of a pair, so its code unit is not joined with the next one
    rw [heq]
    apply readString_unit hunit
    rintro ⟨hlow, hhigh⟩
    omega
  · rw [heq, List.append_assoc, escapedUnit, List.cons_append, List.cons_append,
      readString_unicode, readEscapedUnit_pair (by omega), Nat.add_sub_of_le hpair,
      Option.bind_some]

theorem noLow_of_ne {c : Char} (h : c ≠ '\\') : NoLow (c :: tail) := by
  rintro more unit after heq
  exact absurd (List.cons.inj heq).1 h

theorem noLow_unit (hn : n < 0x10000) (hlow : ¬IsLow n) : NoLow (escapedUnit n ++ tail) := by
  rintro more unit after heq hunit
  obtain rfl : hexDigits 4 n ++ tail = more := (List.cons.inj (List.cons.inj heq).2).2
  rw [readUnit_hexDigits hn, Option.some.injEq, Prod.mk.injEq] at hunit
  rwa [← hunit.1]

theorem noLow_escaped (c : Char) : NoLow (escaped c ++ tail) := by
  have hscalar : c.toNat.isValidChar := c.valid
  obtain ⟨e, he, hescape, heq⟩ | ⟨hquote, hslash, hplain, heq⟩ | ⟨hunit, heq⟩ | ⟨hpair, heq⟩ :=
    escaped_cases c
  · rw [heq]
    rintro more unit after heq
    exact absurd (List.cons.inj (List.cons.inj heq).2).1 he
  · rw [heq]
    exact noLow_of_ne hslash
  · rw [heq]
    apply noLow_unit hunit
    rintro ⟨hlow, hhigh⟩
    omega
  · rw [heq, List.append_assoc]
    apply noLow_unit (by omega)
    rintro ⟨hlow, hhigh⟩
    omega

/-! ## Strings -/

/-- The code points of a string that is read as it was written: no two of them are the halves of a
surrogate pair. -/
@[mk_iff]
structure Joined (points : List Nat) : Prop where
  lt : ∀ n ∈ points, n < 0x110000
  unpaired : points.IsChain fun high low => ¬(IsHigh high ∧ IsLow low)

instance : DecidablePred Joined := fun points => decidable_of_iff _ (joined_iff points).symm

theorem escapedPoint_toNat (c : Char) : escapedPoint c.toNat = escaped c := by
  have hvalid : c.toNat.isValidChar := c.valid
  rw [escapedPoint, if_pos hvalid, Char.ofNat_toNat]

theorem readString_escapedPoint (hn : n < 0x110000) (h : IsHigh n → NoLow tail) :
    readString done (fuel + 1) (escapedPoint n ++ tail) = readString (n :: done) fuel tail := by
  rw [escapedPoint]
  split_ifs with hvalid
  · rw [readString_escaped, Char.toNat_ofNat, if_pos hvalid]
  · have : ¬(n < 0xd800 ∨ 0xdfff < n ∧ n < 0x110000) := hvalid
    exact readString_unit (by omega) h

theorem noLow_escapedPoint (hn : n < 0x110000) (hlow : ¬IsLow n) :
    NoLow (escapedPoint n ++ tail) := by
  rw [escapedPoint]
  split_ifs with hvalid
  · exact noLow_escaped _
  · have : ¬(n < 0xd800 ∨ 0xdfff < n ∧ n < 0x110000) := hvalid
    exact noLow_unit (by omega) hlow

/-- A string is read as it was written. The fuel is for its code points and the quote after them. -/
theorem readString_points (h : Joined points) (hfuel : points.length < fuel) :
    readString done fuel (points.flatMap escapedPoint ++ '"' :: rest) =
      some (done.reverse ++ points, rest) := by
  induction points generalizing done fuel with
  | nil =>
    obtain ⟨fuel, rfl⟩ : ∃ k, fuel = k + 1 := ⟨fuel - 1, by simp at hfuel; omega⟩
    rw [List.append_nil]
    rfl
  | cons n points ih =>
    obtain ⟨fuel, rfl⟩ : ∃ k, fuel = k + 1 := ⟨fuel - 1, by omega⟩
    obtain ⟨hn, hlt⟩ := List.forall_mem_cons.mp h.lt
    -- the next code point does not complete a pair, nor does the quote at the end
    have hnext : IsHigh n → NoLow (points.flatMap escapedPoint ++ '"' :: rest) := by
      intro hhigh
      cases points with
      | nil => exact noLow_of_ne (by decide)
      | cons m points =>
        rw [List.flatMap_cons, List.append_assoc]
        have hunpaired := (List.isChain_cons_cons.mp h.unpaired).1
        exact noLow_escapedPoint (hlt m List.mem_cons_self) fun hlow => hunpaired ⟨hhigh, hlow⟩
    rw [List.flatMap_cons, List.append_assoc, readString_escapedPoint hn hnext,
      ih ⟨hlt, h.unpaired.tail⟩ (by simpa using hfuel), List.reverse_cons, List.append_assoc,
      List.singleton_append]

theorem escapedPoint_ne_nil (n : Nat) : escapedPoint n ≠ [] := by
  rw [escapedPoint]
  split_ifs
  · obtain ⟨e, -, -, heq⟩ | ⟨-, -, -, heq⟩ | ⟨-, heq⟩ | ⟨-, heq⟩ := escaped_cases (Char.ofNat n)
    all_goals rw [heq]; exact List.cons_ne_nil _ _
  · exact List.cons_ne_nil _ _

theorem length_le_flatMap_escapedPoint (points : List Nat) :
    points.length ≤ (points.flatMap escapedPoint).length := by
  induction points with
  | nil => exact Nat.le_refl _
  | cons n points ih =>
    have hpos := List.length_pos_iff.mpr (escapedPoint_ne_nil n)
    rw [List.flatMap_cons, List.length_append, List.length_cons]
    omega

theorem exists_readString_pointsText (h : Joined points) (hfuel : (pointsText points).length ≤ fuel)
    (rest : List Char) :
    ∃ cs, (pointsText points).toList ++ rest = '"' :: cs ∧
      readString [] fuel cs = some (points, rest) := by
  have hlength := length_le_flatMap_escapedPoint points
  rw [pointsText, String.length_ofList, List.length_append, List.length_cons] at hfuel
  refine ⟨points.flatMap escapedPoint ++ '"' :: rest, ?_, readString_points h (by omega)⟩
  rw [pointsText, String.toList_ofList, List.append_assoc, List.cons_append, List.singleton_append]

/-! ## Texts -/

/-- The code points of a text. -/
def pointsOf (s : String) : List Nat :=
  s.toList.map Char.toNat

theorem stringText_eq (s : String) : stringText s = pointsText (pointsOf s) := by
  rw [stringText, pointsText, pointsOf, List.flatMap_map]
  simp only [escapedPoint_toNat]

theorem isValidChar_of_mem {s : String} (h : n ∈ pointsOf s) : n.isValidChar := by
  obtain ⟨c, -, rfl⟩ := List.mem_map.mp h
  exact c.valid

theorem joined_pointsOf (s : String) : Joined (pointsOf s) := by
  constructor
  · intro n hn
    have := isValidChar_of_mem hn
    omega
  · apply List.Pairwise.isChain
    apply List.pairwise_of_forall_mem_list
    rintro n hn - - ⟨⟨hlow, hhigh⟩, -⟩
    have := isValidChar_of_mem hn
    omega

theorem ofPoints_pointsOf (s : String) : ofPoints (pointsOf s) = .str s := by
  rw [ofPoints, if_pos (List.all_eq_true.mpr fun n hn => decide_eq_true (isValidChar_of_mem hn)),
    pointsOf, List.map_map, List.map_id'', String.ofList_toList]
  exact Char.ofNat_toNat

theorem nameOf_pointsOf (s : String) : nameOf (pointsOf s) = s := by
  rw [nameOf, pointsOf, List.map_map, List.map_id'', String.ofList_toList]
  intro c
  have hvalid : c.toNat.isValidChar := c.valid
  rw [Function.comp_apply, if_pos hvalid, Char.ofNat_toNat]

theorem ofPoints_of_not_valid (h : ∃ n ∈ points, ¬n.isValidChar) :
    ofPoints points = .units points := by
  rw [ofPoints, if_neg]
  simpa using h

end Lathe.Json
