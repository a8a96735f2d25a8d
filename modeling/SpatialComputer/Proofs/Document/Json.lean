import SpatialComputer.Proofs.Document.Numerals

/-!
# JSON reads back

Every tree is read back from its text, with the strings that hold an unpaired surrogate and the numerals that no double is near to. The text is a single line: control characters are escaped, and nothing is written between the tokens.
-/

namespace SpatialComputer.Json

open Binary64

/-! ### Strings -/

private theorem hexValue_hexDigit : ∀ n < 16, hexValue (hexDigit n) = some n := by decide

private theorem readString_escaped (read : List Char) (fuel : Nat) (c : Char) (rest : List Char) :
    readString (some read) (fuel + 1) (escaped c ++ rest) =
      readString (some (c :: read)) fuel rest := by
  unfold escaped
  split
  case h_8 _ hquote hbackslash _ _ _ _ _ =>
    split
    · rename_i hcontrol
      have hhigh := hexValue_hexDigit (c.toNat / 16) (by omega)
      have hlow := hexValue_hexDigit (c.toNat % 16) (by omega)
      have hzero : hexValue '0' = some 0 := rfl
      have hunit : c.toNat / 16 * 16 + c.toNat % 16 = c.toNat := Nat.div_add_mod' _ _
      have hhighSurrogate : isHighSurrogate c.toNat = false := by
        simp [isHighSurrogate]
        omega
      have hlowSurrogate : isLowSurrogate c.toNat = false := by
        simp [isLowSurrogate]
        omega
      simp [readString, readHex4, hzero, hhigh, hlow, hunit, hhighSurrogate, hlowSurrogate]
    · rename_i hplain
      rw [List.singleton_append, readString]
      · simp [hplain]
      · exact hquote
      · exact fun _ h _ => hbackslash h
      · exact fun _ _ h _ => hbackslash h
  all_goals simp [readString, simpleEscape]

private theorem readString_flatMap (text rest : List Char) : ∀ (read : List Char) (fuel : Nat),
    text.length < fuel → readString (some read) fuel (text.flatMap escaped ++ '"' :: rest) =
      some (some (.ofList (read.reverse ++ text)), rest) := by
  induction text with
  | nil =>
    intro read fuel hfuel
    obtain ⟨fuel, rfl⟩ := Nat.exists_eq_add_one.mpr hfuel
    simp [readString]
  | cons c text ih =>
    intro read fuel hfuel
    obtain ⟨fuel, rfl⟩ := Nat.exists_eq_add_one.mpr (Nat.zero_lt_of_lt hfuel)
    rw [List.flatMap_cons, List.append_assoc, readString_escaped,
      ih (c :: read) fuel (Nat.lt_of_succ_lt_succ hfuel)]
    simp

private theorem length_le_flatMap_escaped (text : List Char) :
    text.length ≤ (text.flatMap escaped).length := by
  induction text with
  | nil => exact le_rfl
  | cons c text ih =>
    have hescaped : 1 ≤ (escaped c).length := by
      unfold escaped
      split
      case h_8 => split <;> exact Nat.succ_pos _
      all_goals exact Nat.succ_pos _
    rw [List.flatMap_cons, List.length_append, List.length_cons]
    omega

theorem readString_stringText (s : Option String) (rest : List Char) :
    ∃ body, stringText s = '"' :: body ∧
      readString (some []) ((body ++ rest).length + 1) (body ++ rest) = some (s, rest) := by
  cases s with
  | none =>
    refine ⟨['\\', 'u', 'd', '8', '0', '0', '"'], by decide, ?_⟩
    have hunit : readHex4 ('d' :: '8' :: '0' :: '0' :: '"' :: rest) = some (0xd800, '"' :: rest) := by
      have hd : hexValue 'd' = some 13 := rfl
      have height : hexValue '8' = some 8 := rfl
      have hzero : hexValue '0' = some 0 := rfl
      simp [readHex4, hd, height, hzero]
    have hhigh : isHighSurrogate 0xd800 = true := by decide
    simp [readString, hunit, hhigh]
  | some text =>
    refine ⟨text.toList.flatMap escaped ++ ['"'], rfl, ?_⟩
    have hlength := length_le_flatMap_escaped text.toList
    rw [List.append_assoc, List.singleton_append, readString_flatMap]
    · simp
    · rw [List.length_append]
      omega

/-! ### Values -/

/-- Whether a text starts like that of a value, and not like the end of a list. -/
def OpensValue (text : List Char) : Prop :=
  ∃ c cs, text = c :: cs ∧ isBlank c = false ∧ c ≠ ']'

private theorem skipBlanks_cons {c : Char} (cs : List Char) (hc : isBlank c = false) :
    skipBlanks (c :: cs) = c :: cs := by
  simp [skipBlanks, hc]

private theorem opens_number {c : Char} (hc : c = '-' ∨ c.isDigit = true) :
    isBlank c = false ∧ c ∉ ['n', 't', 'f', '"', '[', ']', '\x7b'] := by
  have hdigit : c.isDigit = true → ∀ c', c'.isDigit = false → c ≠ c' := by
    rintro h c' h' rfl
    rw [h] at h'
    cases h'
  rcases hc with rfl | hc
  · decide
  · have h := hdigit hc
    simp [isBlank, h ' ' rfl, h '\n' rfl, h '\t' rfl, h '\r' rfl, h 'n' rfl, h 't' rfl, h 'f' rfl,
      h '"' rfl, h '[' rfl, h ']' rfl, h '\x7b' rfl]

theorem opensValue_text (j : Json) : OpensValue j.text := by
  cases j with
  | null => exact ⟨_, _, rfl, by decide, by decide⟩
  | bool b => cases b <;> exact ⟨_, _, rfl, by decide, by decide⟩
  | number n =>
    obtain ⟨c, cs, htext, hc⟩ := exists_numeral_text true n
    obtain ⟨hblank, hnot⟩ := opens_number hc
    exact ⟨c, cs, htext, hblank, fun h => hnot (by simp [h])⟩
  | string s => cases s <;> exact ⟨_, _, rfl, by decide, by decide⟩
  | array items => cases items <;> exact ⟨_, _, rfl, by decide, by decide⟩
  | object members =>
    rcases members with _ | ⟨⟨key, value⟩, members⟩ <;> exact ⟨_, _, rfl, by decide, by decide⟩

theorem length_text_pos (j : Json) : 0 < j.text.length := by
  obtain ⟨c, cs, htext, -⟩ := opensValue_text j
  rw [htext]
  exact Nat.succ_pos _

theorem endsNumber_itemsText (items : List Json) (rest : List Char) :
    EndsNumber (itemsText items ++ rest) := by
  intro c hc
  cases items <;> simp [itemsText] at hc <;> rw [← hc] <;> decide

theorem endsNumber_membersText (members : List (Option String × Json)) (rest : List Char) :
    EndsNumber (membersText members ++ rest) := by
  intro c hc
  rcases members with _ | ⟨⟨key, value⟩, members⟩ <;> simp [membersText] at hc <;> rw [← hc] <;> decide

private theorem readValue_number (plusSign : Bool) (n : Numeral) {rest : List Char} (fuel : Nat)
    (hrest : EndsNumber rest) :
    readValue (fuel + 1) (n.text plusSign ++ rest) = some (number n, rest) := by
  have hread := readNumber_text plusSign n hrest
  obtain ⟨c, cs, htext, hc⟩ := exists_numeral_text plusSign n
  rw [htext, List.cons_append] at hread ⊢
  obtain ⟨hblank, hnot⟩ := opens_number hc
  simp only [List.mem_cons, List.not_mem_nil, or_false, not_or] at hnot
  rw [readValue, skipBlanks_cons _ hblank]
  simp [hnot, hread]

private theorem readValue_array {text rest rest' : List Char} {fuel : Nat} {item : Json}
    {items : List Json} (hopens : OpensValue text) (hitem : readValue fuel text = some (item, rest))
    (hitems : readItems fuel rest = some (items, rest')) :
    readValue (fuel + 1) ('[' :: text) = some (array (item :: items), rest') := by
  rw [readValue, skipBlanks_cons _ (by decide)]
  obtain ⟨c, cs, rfl, hblank, hbracket⟩ := hopens
  simp [skipBlanks_cons cs hblank, hbracket, hitem, hitems]

private theorem readItems_cons {text rest rest' : List Char} {fuel : Nat} {item : Json}
    {items : List Json} (hitem : readValue fuel text = some (item, rest))
    (hitems : readItems fuel rest = some (items, rest')) :
    readItems (fuel + 1) (',' :: text) = some (item :: items, rest') := by
  rw [readItems, skipBlanks_cons _ (by decide)]
  simp [hitem, hitems]

private theorem readMember_text {text rest : List Char} {fuel : Nat} {value : Json}
    (key : Option String) (hvalue : readValue fuel text = some (value, rest)) :
    readMember (fuel + 1) (stringText key ++ ':' :: text) = some ((key, value), rest) := by
  obtain ⟨body, hbody, hread⟩ := readString_stringText key (':' :: text)
  rw [hbody, List.cons_append, readMember, skipBlanks_cons _ (by decide)]
  simp only [hread, Option.bind_eq_bind, Option.bind_some]
  rw [skipBlanks_cons _ (by decide)]
  simp [hvalue]

private theorem readValue_object {text rest rest' : List Char} {fuel : Nat} {key : Option String}
    {value : Json} {members : List (Option String × Json)}
    (hmember : readMember fuel (stringText key ++ text) = some ((key, value), rest))
    (hmembers : readMembers fuel rest = some (members, rest')) :
    readValue (fuel + 1) ('\x7b' :: (stringText key ++ text)) =
      some (object ((key, value) :: members), rest') := by
  obtain ⟨body, hbody, -⟩ := readString_stringText key text
  rw [readValue, skipBlanks_cons _ (by decide)]
  rw [hbody, List.cons_append] at hmember ⊢
  simp [skipBlanks_cons (body ++ text) (by decide : isBlank '"' = false), hmember, hmembers]

private theorem readMembers_cons {text rest rest' : List Char} {fuel : Nat}
    {member : Option String × Json} {members : List (Option String × Json)}
    (hmember : readMember fuel text = some (member, rest))
    (hmembers : readMembers fuel rest = some (members, rest')) :
    readMembers (fuel + 1) (',' :: text) = some (member :: members, rest') := by
  rw [readMembers, skipBlanks_cons _ (by decide)]
  simp [hmember, hmembers]

mutual

/-- A value is read back from its text, up to where it ends. -/
theorem readValue_text (j : Json) {fuel : Nat} {rest : List Char} (hfuel : j.text.length ≤ fuel)
    (hrest : EndsNumber rest) : readValue fuel (j.text ++ rest) = some (j, rest) := by
  -- Every value takes up a character, so the fuel suffices for what is inside.
  obtain ⟨fuel, rfl⟩ := Nat.exists_eq_add_one.mpr ((length_text_pos j).trans_le hfuel)
  cases j with
  | null => rfl
  | bool b => cases b <;> rfl
  | number n => exact readValue_number true n fuel hrest
  | string s =>
    obtain ⟨body, hbody, hread⟩ := readString_stringText s rest
    rw [text, hbody, List.cons_append, readValue, skipBlanks_cons _ (by decide)]
    simp only [hread, Option.bind_eq_bind, Option.bind_some]
    rfl
  | array items =>
    cases items with
    | nil => rfl
    | cons item items =>
      simp only [text, List.cons_append, List.append_assoc, List.length_cons, List.length_append] at *
      obtain ⟨c, cs, htext, hopens⟩ := opensValue_text item
      exact readValue_array ⟨c, _, by rw [htext, List.cons_append], hopens⟩
        (readValue_text item (by omega) (endsNumber_itemsText items rest))
        (readItems_itemsText items (by omega))
  | object members =>
    match members with
    | [] => rfl
    | (key, value) :: members =>
      simp only [text, List.cons_append, List.append_assoc, List.length_cons, List.length_append] at *
      have hkey : 0 < fuel := by omega
      obtain ⟨fuel, rfl⟩ := Nat.exists_eq_add_one.mpr hkey
      exact readValue_object
        (readMember_text key (readValue_text value (by omega) (endsNumber_membersText members rest)))
        (readMembers_membersText members (by omega))

theorem readItems_itemsText (items : List Json) {fuel : Nat} {rest : List Char}
    (hfuel : (itemsText items).length ≤ fuel) :
    readItems fuel (itemsText items ++ rest) = some (items, rest) := by
  cases items with
  | nil =>
    obtain ⟨fuel, rfl⟩ := Nat.exists_eq_add_one.mpr hfuel
    rfl
  | cons item items =>
    simp only [itemsText, List.cons_append, List.append_assoc, List.length_cons,
      List.length_append] at *
    obtain ⟨fuel, rfl⟩ := Nat.exists_eq_add_one.mpr (Nat.zero_lt_of_lt hfuel)
    exact readItems_cons (readValue_text item (by omega) (endsNumber_itemsText items rest))
      (readItems_itemsText items (by omega))

theorem readMembers_membersText (members : List (Option String × Json)) {fuel : Nat}
    {rest : List Char} (hfuel : (membersText members).length ≤ fuel) :
    readMembers fuel (membersText members ++ rest) = some (members, rest) := by
  match members with
  | [] =>
    obtain ⟨fuel, rfl⟩ := Nat.exists_eq_add_one.mpr hfuel
    rfl
  | (key, value) :: members =>
    simp only [membersText, List.cons_append, List.append_assoc, List.length_cons,
      List.length_append] at *
    obtain ⟨fuel, rfl⟩ : ∃ n, fuel = n + 2 := ⟨fuel - 2, by omega⟩
    exact readMembers_cons
      (readMember_text key (readValue_text value (by omega) (endsNumber_membersText members rest)))
      (readMembers_membersText members (by omega))

end

theorem ofText?_text (j : Json) : ofText? j.text = some j := by
  have hread : readValue (2 * j.text.length + 2) (j.text ++ []) = some (j, []) :=
    readValue_text j (by omega) (by rintro _ ⟨⟩)
  rw [List.append_nil] at hread
  rw [ofText?, hread]
  rfl

/-! ### One line -/

def isControl (c : Char) : Bool := c.toNat < 0x20

/-- Whether a text holds no control character, and so no line break either. -/
def IsLine (text : List Char) : Prop := text.all (!isControl ·) = true

theorem isLine_iff {text : List Char} : IsLine text ↔ ∀ c ∈ text, isControl c = false := by
  simp [IsLine]

theorem IsLine.newline_notMem {text : List Char} (h : IsLine text) : '\n' ∉ text :=
  fun hmem => absurd (isLine_iff.mp h _ hmem) (by decide)

private theorem isLine_cons {c : Char} {text : List Char} (hc : isControl c = false)
    (htext : IsLine text) : IsLine (c :: text) := by
  rw [IsLine, List.all_cons, hc, Bool.not_false, Bool.true_and]
  exact htext

private theorem IsLine.append {text text' : List Char} (h : IsLine text) (h' : IsLine text') :
    IsLine (text ++ text') := by
  rw [IsLine, List.all_append, h, h', Bool.and_self]

private theorem isControl_of_isDigit {c : Char} (hc : c.isDigit = true) : isControl c = false := by
  simp only [Char.isDigit, Bool.and_eq_true, decide_eq_true_eq, isControl, decide_eq_false_iff_not,
    UInt32.le_iff_toNat_le] at *
  change '0'.toNat ≤ c.toNat ∧ _ at hc
  have hzero : '0'.toNat = 48 := rfl
  omega

private theorem isControl_hexDigit : ∀ n < 16, isControl (hexDigit n) = false := by decide

private theorem isLine_numeral (plusSign : Bool) (n : Numeral) : IsLine (n.text plusSign) := by
  refine isLine_iff.mpr fun c hc => ?_
  have hnumeral := isNumeralChar_of_mem_text hc
  rw [isNumeralChar, Bool.or_eq_true] at hnumeral
  rcases hnumeral with hdigit | hother
  · exact isControl_of_isDigit hdigit
  · simp only [List.mem_cons, List.not_mem_nil, or_false, decide_eq_true_eq] at hother
    rcases hother with rfl | rfl | rfl | rfl <;> decide

private theorem isLine_escaped (c : Char) : IsLine (escaped c) := by
  unfold escaped
  split
  case h_8 =>
    split
    · rename_i hcontrol
      have hhigh := isControl_hexDigit (c.toNat / 16) (by omega)
      have hlow := isControl_hexDigit (c.toNat % 16) (by omega)
      exact isLine_cons rfl (isLine_cons rfl (isLine_cons rfl (isLine_cons rfl
        (isLine_cons hhigh (isLine_cons hlow rfl)))))
    · rename_i hplain
      exact isLine_cons (decide_eq_false hplain) rfl
  all_goals rfl

private theorem isLine_stringText (s : Option String) : IsLine (stringText s) := by
  cases s with
  | none => rfl
  | some text =>
    refine isLine_cons rfl (.append (isLine_iff.mpr fun c hc => ?_) rfl)
    obtain ⟨c', -, hc⟩ := List.mem_flatMap.mp hc
    exact isLine_iff.mp (isLine_escaped c') c hc

mutual

theorem isLine_text (j : Json) : IsLine j.text := by
  cases j with
  | null => rfl
  | bool b => cases b <;> rfl
  | number n => exact isLine_numeral true n
  | string s => exact isLine_stringText s
  | array items =>
    cases items with
    | nil => rfl
    | cons item items =>
      exact .append (isLine_cons rfl (isLine_text item)) (isLine_itemsText items)
  | object members =>
    match members with
    | [] => rfl
    | (key, value) :: members =>
      exact .append (isLine_cons rfl (.append (isLine_stringText key)
        (isLine_cons rfl (isLine_text value)))) (isLine_membersText members)

theorem isLine_itemsText (items : List Json) : IsLine (itemsText items) := by
  cases items with
  | nil => rfl
  | cons item items =>
    exact .append (isLine_cons rfl (isLine_text item)) (isLine_itemsText items)

theorem isLine_membersText (members : List (Option String × Json)) :
    IsLine (membersText members) := by
  match members with
  | [] => rfl
  | (key, value) :: members =>
    exact .append (isLine_cons rfl (.append (isLine_stringText key)
      (isLine_cons rfl (isLine_text value)))) (isLine_membersText members)

end

end SpatialComputer.Json
