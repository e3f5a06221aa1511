import Lathe.Proofs.Json.RoundTrip

/-!
# What can be written

An integer is read only if it has not too many digits, and it is written only then. So what was read
from a text can be written: no step of the reader makes an integer longer than its text.

* `readValue_cases`, `readItems_cases`, `readMembers_cases`: what the reader does in one step;
* `isWritable_of_readMagnitude`: a number that is read has no more digits than its text;
* `isWritable_of_readValue`: so a value that is read can be written, as can its items and members;
* `isWritable_of_read`: what a text is read as can be written.
-/

namespace Lathe.Json

open Number Text

variable {value : Json} {result : Json × List Char} {room fuel : Nat} {cs : List Char}

/-! ## Collections that can be written -/

theorem isWritable_arr_iff {items : List Json} :
    (arr items).isWritable = true ↔ ∀ item ∈ items, item.isWritable = true := by
  rw [isWritable]
  induction items with
  | nil => exact iff_of_true rfl nofun
  | cons item items ih => rw [isWritableItems, Bool.and_eq_true, ih, List.forall_mem_cons]

theorem isWritable_obj_iff {members : List (String × Json)} :
    (obj members).isWritable = true ↔ ∀ member ∈ members, member.2.isWritable = true := by
  rw [isWritable]
  induction members with
  | nil => exact iff_of_true rfl nofun
  | cons member members ih => rw [isWritableMembers, Bool.and_eq_true, ih, List.forall_mem_cons]

theorem forall_isWritable_put (key : String) {done : List (String × Json)}
    (hvalue : value.isWritable = true) (hdone : ∀ member ∈ done, member.2.isWritable = true) :
    ∀ member ∈ Association.put key value done, member.2.isWritable = true := by
  intro member hmember
  rcases Association.mem_put hmember with rfl | hold
  · exact hvalue
  · exact hdone member hold

/-! ## Simple values -/

theorem natAbs_signed (negative : Bool) (m : Nat) : (signed negative m).natAbs = m := by
  cases negative <;> simp [signed]

/-- A number that is read has no more digits than its text. -/
theorem isWritable_of_readMagnitude {negative : Bool}
    (h : readMagnitude negative cs = some result) : result.1.isWritable = true := by
  unfold readMagnitude at h
  dsimp only at h
  split at h
  · nomatch h
  next hwhole =>
    split at h
    next hfraction _ =>
      split at h
      · nomatch h
      next hlength =>
        obtain rfl := Option.some.inj h
        have hpos : 0 < (readWhole cs).1.length :=
          List.length_pos_iff.mpr (by simpa using hwhole)
        have hlt := digitsValue_lt (readWhole cs).1
        rw [isWritable, natAbs_signed, List.isEmpty_iff.mp hfraction, List.append_nil,
          decide_eq_true_eq]
        exact ((Nat.length_toDigits_le_iff (by decide) hpos).mpr hlt).trans (Nat.not_lt.mp hlength)
    -- with a fraction or an exponent it is no integer
    · obtain rfl := Option.some.inj h
      rfl
    · obtain rfl := Option.some.inj h
      rfl

theorem isWritable_of_readLiteral (h : readLiteral cs = some result) :
    result.1.isWritable = true := by
  obtain ⟨literal, hmem, hsome⟩ := List.exists_of_findSome?_eq_some h
  have hliterals : ∀ literal ∈ literals, literal.2.isWritable = true := by
    simp [literals, isWritable]
  dsimp only at hsome
  split at hsome
  · rw [← Option.some.inj hsome]
    exact hliterals literal hmem
  · nomatch hsome

theorem isWritable_of_readSimple (h : readSimple cs = some result) :
    result.1.isWritable = true := by
  unfold readSimple at h
  cases hliteral : readLiteral cs with
  | some read =>
    rw [hliteral] at h
    obtain rfl := Option.some.inj h
    exact isWritable_of_readLiteral hliteral
  | none =>
    rw [hliteral, Option.orElse_none] at h
    unfold readNumber at h
    split at h <;> exact isWritable_of_readMagnitude h

theorem isWritable_ofPoints (points : List Nat) : (ofPoints points).isWritable = true := by
  unfold ofPoints
  split <;> rfl

/-! ## Steps of the reader -/

theorem eq_some_of_required {α : Type} {answer : Option α} {a : α} (h : required answer = .ok a) :
    answer = some a := by
  cases answer with
  | none => cases h
  | some b => exact congrArg some (Except.ok.inj h)

/-- What is read as a value is a string, a collection or a simple value. -/
theorem readValue_cases (h : readValue room (fuel + 1) cs = .ok result) :
    (∃ points, result.1 = ofPoints points) ∨ result.1 = .arr [] ∨ result.1 = .obj [] ∨
      (∃ room items, readItems room [] fuel items = .ok result) ∨
      (∃ room members, readMembers room [] fuel members = .ok result) ∨
      readSimple cs = some result := by
  rw [readValue.eq_def] at h
  split at h
  next heq => cases heq
  next heq =>
    obtain ⟨⟨points, after⟩, -, rfl⟩ := Option.map_eq_some_iff.mp (eq_some_of_required h)
    exact .inl ⟨points, rfl⟩
  next heq =>
    obtain rfl := Nat.succ.inj heq
    split at h
    · cases h
    · obtain rfl := Except.ok.inj h
      exact .inr (.inl rfl)
    · exact .inr (.inr (.inr (.inl ⟨_, _, h⟩)))
  next heq =>
    obtain rfl := Nat.succ.inj heq
    split at h
    · cases h
    · obtain rfl := Except.ok.inj h
      exact .inr (.inr (.inl rfl))
    · exact .inr (.inr (.inr (.inr (.inl ⟨_, _, h⟩))))
  next => exact .inr (.inr (.inr (.inr (.inr (eq_some_of_required h)))))

/-- An item is read, and then the next one, unless the list ends with it. -/
theorem readItems_cases {done : List Json} (h : readItems room done (fuel + 1) cs = .ok result) :
    ∃ item rest, readValue room fuel cs = .ok (item, rest) ∧
      ((∃ more, readItems room (item :: done) fuel more = .ok result) ∨
        result.1 = .arr (item :: done).reverse) := by
  rw [readItems] at h
  cases hitem : readValue room fuel cs with
  | error fault =>
    rw [hitem] at h
    cases h
  | ok read =>
    simp only [hitem, bind, Except.bind] at h
    refine ⟨read.1, read.2, rfl, ?_⟩
    split at h
    · exact .inl ⟨_, h⟩
    · obtain rfl := Except.ok.inj h
      exact .inr rfl
    · cases h

/-- A member is read, and then the next one, unless the object ends with it. -/
theorem readMembers_cases {done : List (String × Json)}
    (h : readMembers room done (fuel + 1) cs = .ok result) :
    ∃ key valueText value rest, readValue room fuel valueText = .ok (value, rest) ∧
      ((∃ more, readMembers room (Association.put key value done) fuel more = .ok result) ∨
        result.1 = .obj (Association.put key value done)) := by
  rw [readMembers.eq_def] at h
  split at h
  next heq => cases heq
  next fuel' quoted heq =>
    obtain rfl := Nat.succ.inj heq
    cases hkey : readString [] fuel quoted with
    | none =>
      rw [hkey] at h
      cases h
    | some key =>
      simp only [hkey, required, bind, Except.bind] at h
      split at h
      next more _ =>
        cases hvalue : readValue room fuel (skipSpace more) with
        | error fault =>
          rw [hvalue] at h
          cases h
        | ok read =>
          simp only [hvalue] at h
          refine ⟨nameOf key.1, skipSpace more, read.1, read.2, hvalue, ?_⟩
          split at h
          · exact .inl ⟨_, h⟩
          · obtain rfl := Except.ok.inj h
            exact .inr rfl
          · cases h
      · cases h
  · cases h

/-! ## What is read -/

-- The recursion is on the fuel; of a collection, what was read before can be written.
mutual

/-- A value that is read can be written. -/
theorem isWritable_of_readValue : ∀ (fuel : Nat) {room : Nat} {cs : List Char}
    {result : Json × List Char}, readValue room fuel cs = .ok result → result.1.isWritable = true
  | 0, _, _, _, h => nomatch h
  | fuel + 1, _, _, _, h => by
    rcases readValue_cases h with
      ⟨points, heq⟩ | heq | heq | ⟨room, items, hread⟩ | ⟨room, members, hread⟩ | hread
    · rw [heq]
      exact isWritable_ofPoints points
    · rw [heq]
      rfl
    · rw [heq]
      rfl
    · exact isWritable_of_readItems fuel (List.forall_mem_nil _) hread
    · exact isWritable_of_readMembers fuel (List.forall_mem_nil _) hread
    · exact isWritable_of_readSimple hread

theorem isWritable_of_readItems : ∀ (fuel : Nat) {room : Nat} {cs : List Char} {done : List Json}
    {result : Json × List Char}, (∀ item ∈ done, item.isWritable = true) →
    readItems room done fuel cs = .ok result → result.1.isWritable = true
  | 0, _, _, _, _, _, h => nomatch h
  | fuel + 1, _, _, done, _, hdone, h => by
    obtain ⟨item, rest, hread, hends⟩ := readItems_cases h
    have hitems : ∀ other ∈ item :: done, other.isWritable = true :=
      List.forall_mem_cons.mpr ⟨isWritable_of_readValue fuel hread, hdone⟩
    rcases hends with ⟨more, hmore⟩ | heq
    · exact isWritable_of_readItems fuel hitems hmore
    · rw [heq, isWritable_arr_iff]
      exact fun other hother => hitems other (List.mem_reverse.mp hother)

theorem isWritable_of_readMembers : ∀ (fuel : Nat) {room : Nat} {cs : List Char}
    {done : List (String × Json)} {result : Json × List Char},
    (∀ member ∈ done, member.2.isWritable = true) →
    readMembers room done fuel cs = .ok result → result.1.isWritable = true
  | 0, _, _, _, _, _, h => nomatch h
  | fuel + 1, _, _, _, _, hdone, h => by
    obtain ⟨key, valueText, value, rest, hread, hends⟩ := readMembers_cases h
    have hmembers := forall_isWritable_put key (isWritable_of_readValue fuel hread) hdone
    rcases hends with ⟨more, hmore⟩ | heq
    · exact isWritable_of_readMembers fuel hmembers hmore
    · rw [heq, isWritable_obj_iff]
      exact hmembers

end

/-- What a text is read as can be written. -/
theorem isWritable_of_read {text : String} (h : read text = .ok value) :
    value.isWritable = true := by
  unfold read at h
  dsimp only at h
  cases hread : readValue deepest (text.toList.length + 1) (skipSpace text.toList) with
  | error fault =>
    rw [hread] at h
    nomatch h
  | ok result =>
    simp only [hread, bind, Except.bind] at h
    split at h
    · rw [← Except.ok.inj h]
      exact isWritable_of_readValue _ hread
    · nomatch h

end Lathe.Json
