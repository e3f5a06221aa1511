import Lathe.Proofs.Json.Escaped
import Lathe.Proofs.Json.Number

/-!
# Reading what was written

A value is written as a text and read from it again. The text of a value that stands within another
one is followed by more text, and the reader is given room and fuel; so the invariant is that the
value is read from its text whatever follows, as long as a number could not go on there, with room
for its depth and fuel for its length.

* `ReadsBack`: this invariant; `readsBack_arr` and `readsBack_obj`: collections keep it;
* `Readable`: integers are not too long, numbers are numbers, no string has the two halves of a
  surrogate pair next to each other, and no object has a name twice;
* `read_write`: a readable value is read as it was written.
-/

namespace Lathe.Json

variable {style : Style} {room fuel depth : Nat} {cs blank rest after more : List Char}
variable {value item : Json}

/-! ## Space -/

/-- Nothing but space. -/
def Blank (cs : List Char) : Prop :=
  ∀ c ∈ cs, isSpace c = true

theorem skipSpace_append (hblank : Blank blank) (hcs : skipSpace cs = cs) :
    skipSpace (blank ++ cs) = cs := by
  rw [skipSpace, List.dropWhile_append_of_pos hblank]
  exact hcs

/-- How values may be set out: with space, and with a comma and a colon before it. -/
structure Style.Spaced (style : Style) : Prop where
  lead : ∀ depth, Blank (style.lead depth).toList
  between : ∀ depth, ∃ blank, (style.between depth).toList = ',' :: blank ∧ Blank blank
  colon : ∃ blank, style.colon.toList = ':' :: blank ∧ Blank blank

theorem blank_newline (depth : Nat) : Blank (newline depth).toList := by
  intro c hc
  rw [newline, String.toList_append, List.mem_append] at hc
  rcases hc with hc | hc
  · rw [List.mem_singleton.mp hc]
    rfl
  · rw [String.toList_ofList] at hc
    rw [List.eq_of_mem_replicate hc]
    rfl

theorem spaced_indented : Style.indented.Spaced where
  lead := blank_newline
  between depth := ⟨(newline depth).toList, String.toList_append, blank_newline depth⟩
  colon := ⟨[' '], rfl, List.forall_mem_singleton.mpr rfl⟩

theorem endsNumber_cons {c : Char} (hc : isSpace c = true ∨ c ∈ [',', ']', '\x7d']) :
    EndsNumber (c :: cs) := by
  have hmem : c ∈ [' ', '\t', '\n', '\r', ',', ']', '\x7d'] := by
    simpa [isSpace, or_assoc] using hc
  have hends : ∀ c ∈ [' ', '\t', '\n', '\r', ',', ']', '\x7d'],
      c.isDigit = false ∧ c ≠ '.' ∧ ¬(c = 'e' ∨ c = 'E') := by simp [Char.isDigit]
  obtain ⟨hdigit, hpoint, hexponent⟩ := hends c hmem
  refine ⟨?_, ?_, ?_⟩
  · rintro d ⟨⟩
    exact hdigit
  · rintro ⟨⟩
    exact hpoint rfl
  · rintro d ⟨⟩
    exact hexponent

theorem endsNumber_append (hblank : Blank blank) {c : Char} (hc : c ∈ [',', ']', '\x7d']) :
    EndsNumber (blank ++ c :: cs) := by
  cases blank with
  | nil => exact endsNumber_cons (.inr hc)
  | cons b blank => exact endsNumber_cons (.inl (hblank b List.mem_cons_self))

/-! ## Steps of the reader -/

/-- Where neither a string nor a collection begins, a simple value is read. -/
theorem readValue_eq_readSimple (hstring : ∀ more, cs ≠ '"' :: more)
    (hlist : ∀ more, cs ≠ '[' :: more) (hobject : ∀ more, cs ≠ '\x7b' :: more) :
    readValue room (fuel + 1) cs = required (readSimple cs) :=
  readValue.eq_9 room cs fuel hstring hlist hobject

theorem readValue_list_nil (h : skipSpace cs = ']' :: after) :
    readValue (room + 1) (fuel + 1) ('[' :: cs) = .ok (.arr [], after) :=
  readValue.eq_4 fuel cs room after h

theorem readValue_list_cons (h : ∀ after, skipSpace cs ≠ ']' :: after) :
    readValue (room + 1) (fuel + 1) ('[' :: cs) = readItems room [] fuel (skipSpace cs) :=
  readValue.eq_5 fuel cs room h

theorem readValue_object_nil (h : skipSpace cs = '\x7d' :: after) :
    readValue (room + 1) (fuel + 1) ('\x7b' :: cs) = .ok (.obj [], after) :=
  readValue.eq_7 fuel cs room after h

theorem readValue_object_cons (h : ∀ after, skipSpace cs ≠ '\x7d' :: after) :
    readValue (room + 1) (fuel + 1) ('\x7b' :: cs) = readMembers room [] fuel (skipSpace cs) :=
  readValue.eq_8 fuel cs room h

theorem readValue_misplaced {c : Char} (hc : isSpace c = true ∨ c = ']') :
    readValue room fuel (c :: cs) = .error .malformed := by
  cases fuel with
  | zero => rfl
  | succ fuel =>
    have hmem : c = ' ' ∨ c = '\t' ∨ c = '\n' ∨ c = '\r' ∨ c = ']' := by
      simpa [isSpace, or_assoc] using hc
    rcases hmem with rfl | rfl | rfl | rfl | rfl
    all_goals
      rw [readValue_eq_readSimple (by simp) (by simp) (by simp)]
      rfl

/-- What is read as a value begins neither with space nor with a closing bracket. -/
theorem skipSpace_of_readValue {result : Json × List Char}
    (h : readValue room fuel cs = .ok result) :
    skipSpace cs = cs ∧ ∀ after, cs ≠ ']' :: after := by
  cases cs with
  | nil => exact ⟨rfl, nofun⟩
  | cons c cs =>
    constructor
    · apply List.dropWhile_cons_of_neg
      intro hc
      rw [readValue_misplaced (.inl hc)] at h
      nomatch h
    · rintro after ⟨⟩
      rw [readValue_misplaced (.inr rfl)] at h
      nomatch h

theorem readValue_of_readSimple (h : readSimple cs = some (value, rest)) :
    readValue room (fuel + 1) cs = .ok (value, rest) := by
  rw [readValue_eq_readSimple, h]
  · rfl
  all_goals
    rintro more rfl
    nomatch h

theorem skipSpace_of_readItems {done : List Json} {result : Json × List Char}
    (h : readItems room done fuel cs = .ok result) :
    skipSpace cs = cs ∧ ∀ after, cs ≠ ']' :: after := by
  cases fuel with
  | zero => nomatch h
  | succ fuel =>
    rw [readItems] at h
    cases hvalue : readValue room fuel cs with
    | error e =>
      rw [hvalue] at h
      nomatch h
    | ok result => exact skipSpace_of_readValue hvalue

theorem readItems_last {done : List Json} (hitem : readValue room fuel cs = .ok (item, rest))
    (hrest : skipSpace rest = ']' :: after) :
    readItems room done (fuel + 1) cs = .ok (.arr (item :: done).reverse, after) := by
  rw [readItems, hitem]
  simp only [bind, Except.bind, hrest]

theorem readItems_more {done : List Json} (hitem : readValue room fuel cs = .ok (item, rest))
    (hrest : skipSpace rest = ',' :: more) :
    readItems room done (fuel + 1) cs = readItems room (item :: done) fuel (skipSpace more) := by
  rw [readItems, hitem]
  simp only [bind, Except.bind, hrest]

section Members

variable {done : List (String × Json)} {points : List Nat} {valueText : List Char}

theorem skipSpace_of_readMembers {result : Json × List Char}
    (h : readMembers room done fuel cs = .ok result) :
    skipSpace cs = cs ∧ ∀ after, cs ≠ '\x7d' :: after := by
  cases fuel with
  | zero => nomatch h
  | succ fuel =>
    by_cases hquote : ∃ more, cs = '"' :: more
    · obtain ⟨more, rfl⟩ := hquote
      exact ⟨rfl, nofun⟩
    · rw [readMembers.eq_3 _ _ _ _ fun more hcs => hquote ⟨more, hcs⟩] at h
      nomatch h

theorem readMembers_last (hkey : readString [] fuel cs = some (points, ':' :: valueText))
    (hvalue : readValue room fuel (skipSpace valueText) = .ok (value, rest))
    (hrest : skipSpace rest = '\x7d' :: after) :
    readMembers room done (fuel + 1) ('"' :: cs) =
      .ok (.obj (Association.put (nameOf points) value done), after) := by
  rw [readMembers, hkey]
  have hcolon : skipSpace (':' :: valueText) = ':' :: valueText := rfl
  simp only [required, bind, Except.bind, hcolon, hvalue, hrest]

theorem readMembers_more (hkey : readString [] fuel cs = some (points, ':' :: valueText))
    (hvalue : readValue room fuel (skipSpace valueText) = .ok (value, rest))
    (hrest : skipSpace rest = ',' :: more) :
    readMembers room done (fuel + 1) ('"' :: cs) =
      readMembers room (Association.put (nameOf points) value done) fuel (skipSpace more) := by
  rw [readMembers, hkey]
  have hcolon : skipSpace (':' :: valueText) = ':' :: valueText := rfl
  simp only [required, bind, Except.bind, hcolon, hvalue, hrest]

end Members

/-! ## Collections -/

/-- A value is read as it was, wherever its text stands. -/
def ReadsBack (style : Style) (value : Json) : Prop :=
  ∀ (depth room fuel : Nat) (rest : List Char), value.depth ≤ room →
    (write style depth value).toList.length < fuel → EndsNumber rest →
      readValue room fuel ((write style depth value).toList ++ rest) = .ok (value, rest)

/-- The text of some items. -/
def itemsText (style : Style) (depth : Nat) (items : List Json) : List Char :=
  (style.between depth).toList.intercalate ((writeItems style depth items).map String.toList)

theorem itemsText_singleton (item : Json) :
    itemsText style depth [item] = (write style depth item).toList :=
  List.intercalate_singleton

theorem itemsText_cons_cons (item next : Json) (items : List Json) :
    itemsText style depth (item :: next :: items) =
      (write style depth item).toList ++ (style.between depth).toList ++
        itemsText style depth (next :: items) :=
  List.intercalate_cons_cons

theorem depth_le_of_mem {items : List Json} (h : item ∈ items) :
    item.depth ≤ depthOfItems items := by
  induction items with
  | nil => nomatch h
  | cons first items ih =>
    rw [depthOfItems]
    rcases List.mem_cons.mp h with rfl | h
    · exact Nat.le_max_left _ _
    · exact (ih h).trans (Nat.le_max_right _ _)

theorem readItems_itemsText (hstyle : style.Spaced) {items : List Json} (depth fuel : Nat)
    (done : List Json) (rest : List Char) (hne : items ≠ [])
    (h : ∀ item ∈ items, ReadsBack style item) (hroom : depthOfItems items ≤ room)
    (hfuel : (itemsText style depth items).length + 1 < fuel) (hblank : Blank blank) :
    readItems room done fuel (itemsText style depth items ++ (blank ++ ']' :: rest)) =
      .ok (.arr (done.reverse ++ items), rest) := by
  obtain ⟨gap, hbetween, hgap⟩ := hstyle.between depth
  -- Each item takes one step, and the comma before the next one pays for it.
  induction items generalizing done fuel with
  | nil => exact absurd rfl hne
  | cons item items ih =>
    obtain ⟨fuel, rfl⟩ : ∃ k, fuel = k + 1 := ⟨fuel - 1, by omega⟩
    have hdepth := (depth_le_of_mem List.mem_cons_self).trans hroom
    cases items with
    | nil =>
      rw [itemsText_singleton] at hfuel ⊢
      have hread := h item List.mem_cons_self depth room fuel (blank ++ ']' :: rest) hdepth
        (by omega) (endsNumber_append hblank (by simp))
      rw [readItems_last hread (skipSpace_append hblank rfl), List.reverse_cons]
    | cons next items =>
      rw [itemsText_cons_cons, hbetween] at hfuel ⊢
      simp only [List.length_append, List.length_cons] at hfuel
      simp only [List.append_assoc, List.cons_append]
      obtain ⟨hitem, hitems⟩ := List.forall_mem_cons.mp h
      have htail : depthOfItems (next :: items) ≤ room := (Nat.le_max_right _ _).trans hroom
      have hread := hitem depth room fuel (',' :: (gap ++
        (itemsText style depth (next :: items) ++ (blank ++ ']' :: rest)))) hdepth (by omega)
        (endsNumber_cons (.inr (by simp)))
      have hrest := ih fuel (item :: done) (List.cons_ne_nil _ _) hitems htail (by omega)
      rw [readItems_more hread rfl, skipSpace_append hgap (skipSpace_of_readItems hrest).1, hrest,
        List.reverse_cons, List.append_assoc, List.singleton_append]

/-- The text of a member. -/
def memberText (style : Style) (depth : Nat) (member : String × Json) : List Char :=
  (stringText member.1).toList ++ style.colon.toList ++ (write style depth member.2).toList

/-- The text of some members. -/
def membersText (style : Style) (depth : Nat) (members : List (String × Json)) : List Char :=
  (style.between depth).toList.intercalate ((writeMembers style depth members).map String.toList)

theorem map_toList_writeMembers (members : List (String × Json)) :
    (writeMembers style depth members).map String.toList =
      members.map (memberText style depth) := by
  induction members with
  | nil => rfl
  | cons member members ih =>
    rw [writeMembers, List.map_cons, List.map_cons, ih, String.toList_append, String.toList_append]
    rfl

theorem membersText_singleton (member : String × Json) :
    membersText style depth [member] = memberText style depth member := by
  rw [membersText, map_toList_writeMembers, List.map_singleton, List.intercalate_singleton]

theorem membersText_cons_cons (member next : String × Json) (members : List (String × Json)) :
    membersText style depth (member :: next :: members) =
      memberText style depth member ++ (style.between depth).toList ++
        membersText style depth (next :: members) := by
  simp only [membersText, map_toList_writeMembers, List.map_cons]
  exact List.intercalate_cons_cons

theorem exists_readMember (hstyle : style.Spaced) (h : ReadsBack style value) (key : String)
    (depth fuel : Nat) (hroom : value.depth ≤ room)
    (hfuel : (memberText style depth (key, value)).length < fuel)
    (hrest : EndsNumber rest) :
    ∃ cs valueText, memberText style depth (key, value) ++ rest = '"' :: cs ∧
      readString [] fuel cs = some (pointsOf key, ':' :: valueText) ∧
      readValue room fuel (skipSpace valueText) = .ok (value, rest) := by
  obtain ⟨gap, hcolon, hgap⟩ := hstyle.colon
  have hlength : (pointsText (pointsOf key)).toList.length + style.colon.toList.length +
      (write style depth value).toList.length < fuel := by
    rwa [memberText, List.length_append, List.length_append, stringText_eq] at hfuel
  have hread := h depth room fuel rest hroom (by omega) hrest
  have hquoted : (pointsText (pointsOf key)).length ≤ fuel := by
    rw [← String.length_toList]
    omega
  obtain ⟨cs, htext, hkey⟩ := exists_readString_pointsText (joined_pointsOf key) hquoted
    (':' :: (gap ++ ((write style depth value).toList ++ rest)))
  refine ⟨cs, _, ?_, hkey, ?_⟩
  · rw [← htext, memberText, stringText_eq, hcolon]
    simp only [List.append_assoc, List.cons_append]
  · rw [skipSpace_append hgap (skipSpace_of_readValue hread).1, hread]

theorem readMembers_membersText (hstyle : style.Spaced) {members : List (String × Json)}
    (depth fuel : Nat) (done : List (String × Json)) (rest : List Char) (hne : members ≠ [])
    (h : ∀ member ∈ members, ReadsBack style member.2)
    (hnodup : ((done ++ members).map Prod.fst).Nodup) (hroom : depthOfMembers members ≤ room)
    (hfuel : (membersText style depth members).length + 1 < fuel) (hblank : Blank blank) :
    readMembers room done fuel (membersText style depth members ++ (blank ++ '\x7d' :: rest)) =
      .ok (.obj (done ++ members), rest) := by
  obtain ⟨gap, hbetween, hgap⟩ := hstyle.between depth
  induction members generalizing done fuel with
  | nil => exact absurd rfl hne
  | cons member members ih =>
    obtain ⟨key, value⟩ := member
    obtain ⟨fuel, rfl⟩ : ∃ k, fuel = k + 1 := ⟨fuel - 1, by omega⟩
    have hvalue : ReadsBack style value := h _ List.mem_cons_self
    have hdepth : value.depth ≤ room := (Nat.le_max_left _ _).trans hroom
    -- The name is new, so the reader puts the member after those that it has.
    have hnew : key ∉ done.map Prod.fst := by
      intro hmem
      rw [List.map_append, List.map_cons, List.nodup_append] at hnodup
      exact hnodup.2.2 key hmem key List.mem_cons_self rfl
    cases members with
    | nil =>
      rw [membersText_singleton] at hfuel ⊢
      have hends : EndsNumber (blank ++ '\x7d' :: rest) := endsNumber_append hblank (by simp)
      obtain ⟨cs, valueText, htext, hkey, hread⟩ :=
        exists_readMember hstyle hvalue key depth fuel hdepth (by omega) hends
      rw [htext, readMembers_last hkey hread (skipSpace_append hblank rfl), nameOf_pointsOf,
        Association.put_of_not_mem hnew]
    | cons next members =>
      rw [membersText_cons_cons, hbetween] at hfuel ⊢
      simp only [List.length_append, List.length_cons] at hfuel
      simp only [List.append_assoc, List.cons_append]
      have htail : depthOfMembers (next :: members) ≤ room := (Nat.le_max_right _ _).trans hroom
      have hends : EndsNumber (',' :: (gap ++ (membersText style depth (next :: members) ++
          (blank ++ '\x7d' :: rest)))) := endsNumber_cons (.inr (by simp))
      obtain ⟨cs, valueText, htext, hkey, hread⟩ :=
        exists_readMember hstyle hvalue key depth fuel hdepth (by omega) hends
      have hrest := ih fuel (done ++ [(key, value)]) (List.cons_ne_nil _ _)
        (fun member hmember => h member (List.mem_cons_of_mem _ hmember))
        (by rwa [List.append_assoc, List.singleton_append]) htail (by omega)
      rw [htext, readMembers_more hkey hread rfl, nameOf_pointsOf, Association.put_of_not_mem hnew,
        skipSpace_append hgap (skipSpace_of_readMembers hrest).1, hrest, List.append_assoc,
        List.singleton_append]

/-! ## Values -/

theorem toList_enclose_nil (opening closing : String) :
    (style.enclose depth opening closing []).toList = opening.toList ++ closing.toList :=
  String.toList_append

theorem toList_enclose (opening closing text : String) (texts : List String) :
    (style.enclose depth opening closing (text :: texts)).toList =
      opening.toList ++ ((style.lead (depth + 1)).toList ++
        ((style.between (depth + 1)).toList.intercalate ((text :: texts).map String.toList) ++
          ((style.lead depth).toList ++ closing.toList))) := by
  rw [Style.enclose, if_neg (by simp)]
  simp only [String.toList_append, String.toList_intercalate, List.append_assoc]

theorem readsBack_of_readSimple (h : ∀ depth rest, EndsNumber rest →
    readSimple ((write style depth value).toList ++ rest) = some (value, rest)) :
    ReadsBack style value := by
  intro depth room fuel rest _ hfuel hrest
  obtain ⟨fuel, rfl⟩ : ∃ k, fuel = k + 1 := ⟨fuel - 1, by omega⟩
  exact readValue_of_readSimple (h depth rest hrest)

theorem readsBack_of_points {points : List Nat} (hpoints : Joined points)
    (hvalue : ofPoints points = value)
    (htext : ∀ depth, write style depth value = pointsText points) : ReadsBack style value := by
  intro depth room fuel rest _ hfuel _
  obtain ⟨fuel, rfl⟩ : ∃ k, fuel = k + 1 := ⟨fuel - 1, by omega⟩
  rw [htext, String.length_toList] at hfuel
  obtain ⟨cs, hcs, hread⟩ := exists_readString_pointsText hpoints (Nat.le_of_lt_succ hfuel) rest
  rw [htext, hcs, readValue, hread, Option.map_some, ← hvalue]
  rfl

theorem readsBack_arr (hstyle : style.Spaced) {items : List Json}
    (h : ∀ item ∈ items, ReadsBack style item) : ReadsBack style (.arr items) := by
  intro depth room fuel rest hroom hfuel _
  obtain ⟨fuel, rfl⟩ : ∃ k, fuel = k + 1 := ⟨fuel - 1, by omega⟩
  rw [Json.depth] at hroom
  obtain ⟨room, rfl⟩ : ∃ k, room = k + 1 := ⟨room - 1, by omega⟩
  cases items with
  | nil =>
    rw [write, writeItems, toList_enclose_nil]
    exact readValue_list_nil rfl
  | cons item items =>
    have htext : (write style depth (.arr (item :: items))).toList =
        '[' :: ((style.lead (depth + 1)).toList ++ (itemsText style (depth + 1) (item :: items) ++
          ((style.lead depth).toList ++ [']']))) := toList_enclose _ _ _ _
    rw [htext] at hfuel ⊢
    simp only [List.length_append, List.length_cons, List.length_nil] at hfuel
    simp only [List.append_assoc, List.cons_append, List.nil_append]
    have hread := readItems_itemsText hstyle (depth + 1) fuel [] rest
      (List.cons_ne_nil item items) h (Nat.le_of_succ_le_succ hroom) (by omega)
      (hstyle.lead depth)
    -- The items are read from here, so there is neither space nor the bracket that ends them.
    obtain ⟨hspace, hbracket⟩ := skipSpace_of_readItems hread
    have hskip := skipSpace_append (hstyle.lead (depth + 1)) hspace
    rw [readValue_list_cons (by rwa [hskip]), hskip, hread]
    rfl

theorem readsBack_obj (hstyle : style.Spaced) {members : List (String × Json)}
    (hnodup : (members.map Prod.fst).Nodup) (h : ∀ member ∈ members, ReadsBack style member.2) :
    ReadsBack style (.obj members) := by
  intro depth room fuel rest hroom hfuel _
  obtain ⟨fuel, rfl⟩ : ∃ k, fuel = k + 1 := ⟨fuel - 1, by omega⟩
  rw [Json.depth] at hroom
  obtain ⟨room, rfl⟩ : ∃ k, room = k + 1 := ⟨room - 1, by omega⟩
  cases members with
  | nil =>
    rw [write, writeMembers, toList_enclose_nil]
    exact readValue_object_nil rfl
  | cons member members =>
    have htext : (write style depth (.obj (member :: members))).toList =
        '\x7b' :: ((style.lead (depth + 1)).toList ++
          (membersText style (depth + 1) (member :: members) ++
            ((style.lead depth).toList ++ ['\x7d']))) := toList_enclose _ _ _ _
    rw [htext] at hfuel ⊢
    simp only [List.length_append, List.length_cons, List.length_nil] at hfuel
    simp only [List.append_assoc, List.cons_append, List.nil_append]
    have hread := readMembers_membersText hstyle (depth + 1) fuel [] rest
      (List.cons_ne_nil member members) h hnodup (Nat.le_of_succ_le_succ hroom) (by omega)
      (hstyle.lead depth)
    obtain ⟨hspace, hbracket⟩ := skipSpace_of_readMembers hread
    have hskip := skipSpace_append (hstyle.lead (depth + 1)) hspace
    rw [readValue_object_cons (by rwa [hskip]), hskip, hread]
    rfl

mutual

/-- A value that is read as it was written. -/
def Readable : Json → Prop
  | .int n => Number.decimalLength n.natAbs ≤ Number.mostDigits
  | .float x => Number.exact x ≠ .nan
  | .units points => Joined points ∧ ∃ n ∈ points, ¬n.isValidChar
  | .arr items => ReadableItems items
  | .obj members => (members.map Prod.fst).Nodup ∧ ReadableMembers members
  | _ => True

/-- Values that are read as they were written. -/
def ReadableItems : List Json → Prop
  | [] => True
  | item :: rest => Readable item ∧ ReadableItems rest

/-- Named values that are read as they were written. -/
def ReadableMembers : List (String × Json) → Prop
  | [] => True
  | (_, value) :: rest => Readable value ∧ ReadableMembers rest

end

mutual

instance decidableReadable : DecidablePred Readable
  | .int n => inferInstanceAs (Decidable (Number.decimalLength n.natAbs ≤ Number.mostDigits))
  | .float x => inferInstanceAs (Decidable (Number.exact x ≠ .nan))
  | .units points => inferInstanceAs (Decidable (Joined points ∧ ∃ n ∈ points, ¬n.isValidChar))
  | .arr items => decidableReadableItems items
  | .obj members => @instDecidableAnd _ _ _ (decidableReadableMembers members)
  | .null | .bool _ | .str _ => .isTrue trivial

instance decidableReadableItems : DecidablePred ReadableItems
  | [] => .isTrue trivial
  | item :: rest => @instDecidableAnd _ _ (decidableReadable item) (decidableReadableItems rest)

instance decidableReadableMembers : DecidablePred ReadableMembers
  | [] => .isTrue trivial
  | (_, value) :: rest =>
    @instDecidableAnd _ _ (decidableReadable value) (decidableReadableMembers rest)

end

mutual

theorem readsBack_of_readable (hstyle : style.Spaced) :
    ∀ value : Json, value.Readable → ReadsBack style value
  | .null, _ =>
    readsBack_of_readSimple fun _ _ _ => by simp [readSimple, readLiteral, literals, write]
  | .bool true, _ =>
    readsBack_of_readSimple fun _ _ _ => by simp [readSimple, readLiteral, literals, write]
  | .bool false, _ =>
    readsBack_of_readSimple fun _ _ _ => by simp [readSimple, readLiteral, literals, write]
  | .int _, h => readsBack_of_readSimple fun _ _ hrest => readSimple_int h hrest
  | .float _, h => readsBack_of_readSimple fun _ _ hrest => readSimple_float h hrest
  | .str s, _ =>
    readsBack_of_points (joined_pointsOf s) (ofPoints_pointsOf s) fun _ => stringText_eq s
  | .units _, h => readsBack_of_points h.1 (ofPoints_of_not_valid h.2) fun _ => rfl
  | .arr items, h => readsBack_arr hstyle (readsBack_of_readableItems hstyle items h)
  | .obj members, h => readsBack_obj hstyle h.1 (readsBack_of_readableMembers hstyle members h.2)

theorem readsBack_of_readableItems (hstyle : style.Spaced) :
    ∀ items : List Json, ReadableItems items → ∀ item ∈ items, ReadsBack style item
  | [], _ => nofun
  | item :: items, h =>
    List.forall_mem_cons.mpr
      ⟨readsBack_of_readable hstyle item h.1, readsBack_of_readableItems hstyle items h.2⟩

theorem readsBack_of_readableMembers (hstyle : style.Spaced) :
    ∀ members : List (String × Json), ReadableMembers members →
      ∀ member ∈ members, ReadsBack style member.2
  | [], _ => nofun
  | (_, value) :: members, h =>
    List.forall_mem_cons.mpr
      ⟨readsBack_of_readable hstyle value h.1, readsBack_of_readableMembers hstyle members h.2⟩

end

/-- However it is set out, the text of a value is read as that value. -/
theorem read_write (hstyle : style.Spaced) (hvalue : value.Readable)
    (hdepth : value.depth ≤ deepest) : read (write style 0 value) = .ok value := by
  have hends : EndsNumber [] := ⟨nofun, nofun, nofun⟩
  have hread := readsBack_of_readable hstyle value hvalue 0 deepest
    ((write style 0 value).toList.length + 1) [] hdepth (Nat.lt_succ_self _) hends
  rw [List.append_nil] at hread
  rw [read]
  dsimp only
  rw [(skipSpace_of_readValue hread).1, hread]
  rfl

theorem read_indented (hvalue : value.Readable) (hdepth : value.depth ≤ deepest) :
    read value.indented = .ok value :=
  read_write spaced_indented hvalue hdepth

end Lathe.Json
