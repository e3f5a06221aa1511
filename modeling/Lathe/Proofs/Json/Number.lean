import Lathe.Json.Printer
import Lathe.Json.Reader
import Lathe.Proofs.Number.Shortest

/-!
# Numbers in texts

The text of a number is read as that number, whatever follows it, unless what follows could be more
of the same number. A number with a fraction is written with the fewest digits that are nearest to
no other number, set out in one of four ways; each of them is read as a decimal of the same value.

* `Denotes`: a text is read as the number nearest to a rational number;
* `denotes_write`: however a decimal is set out, its text denotes it;
* `readSimple_int`, `readSimple_float`: integers and numbers with a fraction are read as they were.
-/

namespace Lathe.Json

open Number Text

variable {whole fraction ds rest : List Char}

/-! ## Parts of numbers -/

/-- Digits and nothing else. -/
def Digits (ds : List Char) : Prop :=
  ∀ c ∈ ds, c.isDigit = true

/-- Digits without a superfluous zero in front. -/
structure Whole (ds : List Char) : Prop where
  ne_nil : ds ≠ []
  digits : Digits ds
  eq_zero : ds.head? = some '0' → ds = ['0']

/-- A text does not begin with a digit. -/
def EndsDigits (rest : List Char) : Prop :=
  ∀ c ∈ rest.head?, c.isDigit = false

/-- A text does not begin with what could be part of a number. -/
structure EndsNumber (rest : List Char) : Prop where
  endsDigits : EndsDigits rest
  no_point : rest.head? ≠ some '.'
  no_exponent : ∀ c ∈ rest.head?, ¬(c = 'e' ∨ c = 'E')

theorem spanDigits_append (hds : Digits ds) (hrest : EndsDigits rest) :
    spanDigits (ds ++ rest) = (ds, rest) := by
  rw [spanDigits, List.span_eq_takeWhile_dropWhile, List.takeWhile_append_of_pos hds,
    List.dropWhile_append_of_pos hds]
  cases rest with
  | nil => simp
  | cons c rest =>
    have hc : ¬c.isDigit = true := Bool.eq_false_iff.mp (hrest c rfl)
    rw [List.takeWhile_cons_of_neg hc, List.dropWhile_cons_of_neg hc, List.append_nil]

theorem readWhole_eq_spanDigits {cs : List Char} (h : cs.head? ≠ some '0') :
    readWhole cs = spanDigits cs := by
  rw [readWhole.eq_2]
  rintro more rfl
  exact h rfl

theorem readWhole_append (hwhole : Whole whole) (hrest : EndsDigits rest) :
    readWhole (whole ++ rest) = (whole, rest) := by
  by_cases hzero : whole.head? = some '0'
  · rw [hwhole.eq_zero hzero]
    rfl
  · rw [readWhole_eq_spanDigits, spanDigits_append hwhole.digits hrest]
    rwa [List.head?_append_of_ne_nil _ hwhole.ne_nil]

theorem pointed_nil : pointed [] = [] := rfl

theorem pointed_of_ne_nil (h : fraction ≠ []) : pointed fraction = '.' :: fraction := by
  rw [pointed, if_neg (by simpa using h)]

theorem readFraction_eq_nil {cs : List Char} (h : cs.head? ≠ some '.') :
    readFraction cs = ([], cs) := by
  rw [readFraction.eq_2]
  rintro more rfl
  exact h rfl

theorem readFraction_append (hfraction : Digits fraction) (hrest : EndsDigits rest)
    (hpoint : rest.head? ≠ some '.') :
    readFraction (pointed fraction ++ rest) = (fraction, rest) := by
  by_cases hne : fraction = []
  · rw [hne, pointed_nil, List.nil_append, readFraction_eq_nil hpoint]
  · rw [pointed_of_ne_nil hne, List.cons_append, readFraction, spanDigits_append hfraction hrest]
    exact if_neg (by simpa using hne)

theorem digits_toDigits (n : Nat) : Digits (Nat.toDigits 10 n) :=
  fun _ hc => Nat.isDigit_of_mem_toDigits (by decide) le_rfl hc

theorem digits_replicate_zero (n : Nat) : Digits (List.replicate n '0') := by
  intro c hc
  rw [List.eq_of_mem_replicate hc]
  rfl

theorem Digits.append (hds : Digits ds) (hrest : Digits rest) : Digits (ds ++ rest) := by
  intro c hc
  exact (List.mem_append.mp hc).elim (hds c) (hrest c)

theorem whole_toDigits (n : Nat) : Whole (Nat.toDigits 10 n) := by
  refine ⟨Nat.toDigits_ne_nil, digits_toDigits n, fun hzero => ?_⟩
  by_cases hn : n = 0
  · rw [hn]
    rfl
  · exact absurd hzero (head?_toDigits_ne_zero (Nat.pos_of_ne_zero hn))

theorem digitsValue_zeroFilled (width n : Nat) : digitsValue (zeroFilled width n) = n := by
  rw [zeroFilled, digitsValue_zeros_append, digitsValue_toDigits]

theorem signed_natAbs (n : Int) : signed (decide (n < 0)) n.natAbs = n := by
  unfold signed
  split_ifs with h
  · have := of_decide_eq_true h
    omega
  · have : ¬n < 0 := fun hn => h (decide_eq_true hn)
    omega

theorem splitSign_mark (e : Int) (cs : List Char) :
    splitSign ((if e < 0 then '-' else '+') :: cs) = (decide (e < 0), cs) := by
  by_cases he : e < 0
  · rw [if_pos he, decide_eq_true he]
    rfl
  · rw [if_neg he, decide_eq_false he]
    rfl

theorem readExponent_append (e : Int) (hrest : EndsDigits rest) :
    readExponent (exponentMark e ++ rest) = some (e, rest) := by
  have hdigits : Digits (zeroFilled 2 e.natAbs) :=
    (digits_replicate_zero _).append (digits_toDigits _)
  have hne : ¬(zeroFilled 2 e.natAbs).isEmpty = true := by
    simp [zeroFilled, Nat.toDigits_ne_nil]
  rw [exponentMark, List.cons_append, List.cons_append, readExponent, if_pos (.inl rfl),
    splitSign_mark]
  dsimp only
  rw [spanDigits_append hdigits hrest]
  dsimp only
  rw [if_neg hne, digitsValue_zeroFilled, signed_natAbs]

theorem readExponent_eq_none (hrest : ∀ c ∈ rest.head?, ¬(c = 'e' ∨ c = 'E')) :
    readExponent rest = none := by
  cases rest with
  | nil => rfl
  | cons c rest => rw [readExponent, if_neg (hrest c rfl)]

/-! ## Numbers -/

variable (negative : Bool)

theorem readMagnitude_of_whole (hwhole : Whole whole) (hlength : whole.length ≤ mostDigits)
    (hrest : EndsNumber rest) :
    readMagnitude negative (whole ++ rest) =
      some (.int (signed negative (digitsValue whole)), rest) := by
  rw [readMagnitude, readWhole_append hwhole hrest.endsDigits]
  dsimp only
  rw [if_neg (by simp [hwhole.ne_nil]), readFraction_eq_nil hrest.no_point]
  dsimp only
  rw [readExponent_eq_none hrest.no_exponent, List.append_nil]
  exact if_neg (Nat.not_lt.mpr hlength)

theorem readMagnitude_of_fraction (hwhole : Whole whole) (hne : fraction ≠ [])
    (hfraction : Digits fraction) (hrest : EndsNumber rest) :
    readMagnitude negative (whole ++ pointed fraction ++ rest) =
      some (.float (ofDecimal negative (digitsValue (whole ++ fraction)) (-fraction.length)),
        rest) := by
  have hpoint : EndsDigits (pointed fraction ++ rest) := by
    rw [pointed_of_ne_nil hne]
    rintro c ⟨⟩
    rfl
  rw [readMagnitude, List.append_assoc, readWhole_append hwhole hpoint]
  dsimp only
  rw [if_neg (by simp [hwhole.ne_nil]),
    readFraction_append hfraction hrest.endsDigits hrest.no_point]
  dsimp only
  rw [readExponent_eq_none hrest.no_exponent]
  cases fraction with
  | nil => exact absurd rfl hne
  | cons d ds => rfl

theorem readMagnitude_of_exponent (hwhole : Whole whole) (hfraction : Digits fraction) (e : Int)
    (hrest : EndsDigits rest) :
    readMagnitude negative (whole ++ pointed fraction ++ exponentMark e ++ rest) =
      some (.float (ofDecimal negative (digitsValue (whole ++ fraction)) (e - fraction.length)),
        rest) := by
  have hmark : EndsDigits (exponentMark e ++ rest) := by
    rintro c ⟨⟩
    rfl
  have hpoint : EndsDigits (pointed fraction ++ (exponentMark e ++ rest)) := by
    by_cases hne : fraction = []
    · rwa [hne, pointed_nil, List.nil_append]
    · rw [pointed_of_ne_nil hne]
      rintro c ⟨⟩
      rfl
  rw [readMagnitude, List.append_assoc, List.append_assoc, readWhole_append hwhole hpoint]
  dsimp only
  rw [if_neg (by simp [hwhole.ne_nil]), readFraction_append hfraction hmark (by rintro ⟨⟩)]
  dsimp only
  rw [readExponent_append e hrest]
  cases fraction with
  | nil => rfl
  | cons d ds => rfl

/-! ## Decimals -/

section Decimal

variable {d : Decimal}

/-- The digits of a decimal with zeros appended denote it at a lower power of ten. -/
theorem mul_pow_eq_value {c n : Nat} {k : Int} (hc : c = digitsValue d.digits * 10 ^ n)
    (hk : k + n = d.exponent - d.digits.length + 1) : (c * 10 ^ k : ℚ) = d.value := by
  rw [Decimal.value, ← hk, zpow_add₀ (by norm_num), zpow_natCast, hc]
  push_cast
  ring

/-- The first digits of a decimal with zeros appended are a whole number. -/
theorem whole_take_append (hd : d.Proper) {count : Nat} (hcount : 0 < count) (n : Nat) :
    Whole (d.digits.take count ++ List.replicate n '0') := by
  have hne : d.digits.take count ≠ [] := by
    rw [Ne, List.take_eq_nil_iff, not_or]
    exact ⟨hcount.ne', hd.ne_nil⟩
  refine ⟨List.append_ne_nil_of_left_ne_nil hne _, ?_, fun hhead => ?_⟩
  · have hdigits : Digits (d.digits.take count) :=
      fun c hc => hd.isDigit c (List.mem_of_mem_take hc)
    exact hdigits.append (digits_replicate_zero n)
  · rw [List.head?_append_of_ne_nil _ hne, List.head?_take, if_neg hcount.ne'] at hhead
    exact absurd hhead hd.head_ne

theorem digits_drop (hd : d.Proper) (count : Nat) : Digits (d.digits.drop count) :=
  fun c hc => hd.isDigit c (List.mem_of_mem_drop hc)

/-- A text is read as the number nearest to `q`, or its negative. -/
def Denotes (text : List Char) (q : ℚ) : Prop :=
  ∀ (negative : Bool) (rest : List Char), EndsNumber rest →
    ∃ (c : Nat) (k : Int), c * 10 ^ k = q ∧
      readMagnitude negative (text ++ rest) = some (.float (ofDecimal negative c k), rest)

/-- Zeros stand between the point and the digits. -/
theorem denotes_below_one (hd : d.Proper) (hexponent : d.exponent < 0) :
    Denotes ('0' :: '.' :: (List.replicate (-d.exponent - 1).toNat '0' ++ d.digits)) d.value := by
  intro negative rest hrest
  have hne : List.replicate (-d.exponent - 1).toNat '0' ++ d.digits ≠ [] :=
    List.append_ne_nil_of_right_ne_nil _ hd.ne_nil
  have hread := readMagnitude_of_fraction negative (whole_toDigits 0) hne
    ((digits_replicate_zero _).append hd.isDigit) hrest
  rw [pointed_of_ne_nil hne] at hread
  refine ⟨_, _, mul_pow_eq_value (n := 0) ?_ ?_, hread⟩
  · rw [← List.append_assoc, Nat.toDigits_zero, ← List.replicate_one, ← List.replicate_add,
      digitsValue_zeros_append, pow_zero, mul_one]
  · rw [List.length_append, List.length_replicate]
    omega

/-- The digits end before the point, which is followed by a zero. -/
theorem denotes_integral (hd : d.Proper) {count : Nat} (hcount : (count : Int) = d.exponent + 1)
    (hpos : 0 < count) (hshort : d.digits.length ≤ count) :
    Denotes (d.digits.take count ++ List.replicate (count - d.digits.length) '0' ++ pointed ['0'])
      d.value := by
  intro negative rest hrest
  refine ⟨_, _, mul_pow_eq_value (n := count - d.digits.length + 1) ?_ ?_,
    readMagnitude_of_fraction negative (whole_take_append hd hpos _) (List.cons_ne_nil '0' [])
      (digits_replicate_zero 1) hrest⟩
  · rw [List.take_of_length_le hshort, ← List.replicate_one, List.append_assoc,
      ← List.replicate_add, digitsValue_append_zeros]
  · rw [List.length_singleton]
    omega

/-- The point stands between two digits. -/
theorem denotes_between (hd : d.Proper) {count : Nat} (hcount : (count : Int) = d.exponent + 1)
    (hpos : 0 < count) (hlong : count < d.digits.length) :
    Denotes (d.digits.take count ++ List.replicate (count - d.digits.length) '0' ++
      pointed (d.digits.drop count)) d.value := by
  intro negative rest hrest
  have hne : d.digits.drop count ≠ [] := by
    rw [Ne, List.drop_eq_nil_iff]
    exact Nat.not_le.mpr hlong
  refine ⟨_, _, mul_pow_eq_value (n := 0) ?_ ?_,
    readMagnitude_of_fraction negative (whole_take_append hd hpos _) hne (digits_drop hd count)
      hrest⟩
  · rw [Nat.sub_eq_zero_of_le hlong.le, List.replicate_zero, List.append_nil,
      List.take_append_drop, pow_zero, mul_one]
  · rw [List.length_drop]
    omega

/-- The point stands after the first digit, if there is another one. -/
theorem denotes_scientific (hd : d.Proper) :
    Denotes (d.digits.take 1 ++ pointed (d.digits.drop 1) ++ exponentMark d.exponent) d.value := by
  intro negative rest hrest
  have hwhole := whole_take_append hd Nat.one_pos 0
  rw [List.replicate_zero, List.append_nil] at hwhole
  refine ⟨_, _, mul_pow_eq_value (n := 0) ?_ ?_,
    readMagnitude_of_exponent negative hwhole (digits_drop hd 1) _ hrest.endsDigits⟩
  · rw [List.take_append_drop, pow_zero, mul_one]
  · have hlength : 0 < d.digits.length := List.length_pos_iff.mpr hd.ne_nil
    rw [List.length_drop]
    omega

/-- The text of a positive decimal is read as the number nearest to it. -/
theorem denotes_write (hd : d.Proper) : Denotes (Layout.shortest.write d) d.value := by
  rw [Layout.write]
  split_ifs with hpositional hbelow
  · exact denotes_below_one hd hbelow
  · have hcount : ((d.exponent.toNat + 1 : Nat) : Int) = d.exponent + 1 := by omega
    dsimp only
    by_cases hshort : d.digits.length ≤ d.exponent.toNat + 1
    · rw [List.drop_of_length_le hshort, if_pos ⟨rfl, rfl⟩]
      exact denotes_integral hd hcount (Nat.succ_pos _) hshort
    · have hne : ¬(d.digits.drop (d.exponent.toNat + 1)).isEmpty = true := by
        rwa [List.isEmpty_iff, List.drop_eq_nil_iff]
      rw [if_neg fun h => hne h.1]
      exact denotes_between hd hcount (Nat.succ_pos _) (Nat.not_le.mp hshort)
  · exact denotes_scientific hd

end Decimal

/-! ## Values -/

/-- What is read where neither a string nor a collection begins. -/
def readSimple (cs : List Char) : Option (Json × List Char) :=
  (readLiteral cs).orElse fun _ => readNumber cs

/-- A text after a sign. -/
def withSign (negative : Bool) (cs : List Char) : List Char :=
  if negative then '-' :: cs else cs

variable {negative : Bool} {cs : List Char}

theorem exists_digit_of_readMagnitude {result : Json × List Char}
    (h : readMagnitude negative cs = some result) : ∃ c more, cs = c :: more ∧ c.isDigit := by
  cases cs with
  | nil => nomatch h
  | cons c more =>
    refine ⟨c, more, rfl, ?_⟩
    by_contra hc
    have hwhole : readWhole (c :: more) = ([], c :: more) := by
      have hends : EndsDigits (c :: more) := by
        rintro d ⟨⟩
        exact Bool.eq_false_iff.mpr hc
      rw [readWhole_eq_spanDigits]
      · exact @spanDigits_append [] (c :: more) nofun hends
      · rintro ⟨⟩
        exact hc rfl
    rw [readMagnitude, hwhole] at h
    nomatch h

theorem readLiteral_withSign {c : Char} (hc : c.isDigit) :
    readLiteral (withSign negative (c :: cs)) = none := by
  have hne : ∀ d ∈ ['n', 't', 'f', 'N', 'I', '-'], d ≠ c := by
    rintro d hd rfl
    have hletters : ∀ d ∈ ['n', 't', 'f', 'N', 'I', '-'], d.isDigit = false := by
      simp [Char.isDigit]
    exact Bool.eq_false_iff.mp (hletters d hd) hc
  simp only [List.forall_mem_cons] at hne
  cases negative <;> simp [readLiteral, literals, withSign, hne]

theorem readSimple_withSign {result : Json × List Char}
    (h : readMagnitude negative (cs ++ rest) = some result) :
    readSimple (withSign negative cs ++ rest) = some result := by
  obtain ⟨c, more, heq, hc⟩ := exists_digit_of_readMagnitude h
  have htext : withSign negative cs ++ rest = withSign negative (c :: more) := by
    rw [← heq]
    cases negative <;> rfl
  rw [readSimple, htext, readLiteral_withSign hc, Option.orElse_none]
  rw [heq] at h
  cases negative with
  | true => exact h
  | false =>
    rw [withSign, if_neg Bool.false_ne_true, readNumber.eq_2, h]
    rintro rest ⟨⟩
    nomatch hc

/-! ## Integers -/

theorem toList_toString (n : Int) :
    (toString n).toList = withSign (decide (n < 0)) (Nat.toDigits 10 n.natAbs) := by
  cases n with
  | ofNat n => exact Nat.toList_repr
  | negSucc n =>
    rw [decide_eq_true (Int.negSucc_lt_zero n)]
    change ("-" ++ (n + 1).repr).toList = _
    rw [String.toList_append, Nat.toList_repr]
    rfl

/-- The text of an integer is read as that integer, if it has not too many digits. -/
theorem readSimple_int {n : Int} (hlength : decimalLength n.natAbs ≤ mostDigits)
    (hrest : EndsNumber rest) :
    readSimple ((toString n).toList ++ rest) = some (.int n, rest) := by
  rw [toList_toString]
  apply readSimple_withSign
  rw [readMagnitude_of_whole _ (whole_toDigits _) hlength hrest, digitsValue_toDigits,
    signed_natAbs]

/-! ## Floating-point numbers -/

theorem toList_numberText {x : Float} {m : Nat} {e : Int} (h : exact x = .finite negative m e) :
    (numberText x).toList = withSign negative (if m = 0 then ['0', '.', '0']
      else Layout.shortest.write (Decimal.shortest m e)) := by
  rw [numberText, h]
  dsimp only
  rw [shortestText, textWith, String.toList_ofList, h]
  rfl

theorem readSimple_float {x : Float} (hnan : exact x ≠ .nan) (hrest : EndsNumber rest) :
    readSimple ((numberText x).toList ++ rest) = some (.float x, rest) := by
  cases h : exact x with
  | nan => exact absurd h hnan
  | infinite negative =>
    rw [numberText, h, eq_infinity_of_exact h]
    cases negative <;> simp [readSimple, readLiteral, literals]
  | finite negative m e =>
    rw [toList_numberText h]
    apply readSimple_withSign
    by_cases hm : m = 0
    · subst hm
      have hread := readMagnitude_of_fraction negative (whole_toDigits 0) (List.cons_ne_nil '0' [])
        (digits_toDigits 0) hrest
      have hzero : digitsValue (Nat.toDigits 10 0 ++ ['0']) = 0 := by decide
      rw [hzero, ofDecimal_zero h] at hread
      exact hread
    · rw [if_neg hm]
      have hproper := Decimal.proper_shortest (legal_of_exact h) (Nat.pos_of_ne_zero hm)
      obtain ⟨c, k, hvalue, hread⟩ := denotes_write hproper negative rest hrest
      rw [hread, ofDecimal_shortest h (Nat.pos_of_ne_zero hm) hvalue]

end Lathe.Json
