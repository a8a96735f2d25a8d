import SpatialComputer.Proofs.Binary64.ReadBack
import SpatialComputer.Proofs.Document.Numerals
import SpatialComputer.Settings.Fingerprint

/-!
# The identity text identifies a configuration

The sections of a configuration follow one another in its identity text without anything in between, so a text must not only say what a value is but also where it stops. Numbers and names stop at a delimiter, everything else stops by itself; from this the texts of two values, each with anything behind it, are cancelled part by part.
-/

namespace SpatialComputer

open Binary64 Json

/-! ### Texts and their ends -/

/-- Two texts, followed by whatever `ends` allows, come to the same only if `same` holds and they stop at the same place. -/
def Tells (ends : List Char → Prop) (same : Prop) (text text' : String) : Prop :=
  ∀ rest rest', ends rest → ends rest' → text.toList ++ rest = text'.toList ++ rest' →
    same ∧ rest = rest'

/-- The text of a value tells the value, and where the text stops. -/
def Legible {α : Type} (ends : List Char → Prop) (text : α → String) : Prop :=
  ∀ x y, Tells ends (x = y) (text x) (text y)

def isDelimiter (c : Char) : Bool := c ∈ [',', ' ', ')', ']']

def EndsWord (rest : List Char) : Prop := ∀ c ∈ rest.head?, isDelimiter c = true

section

variable {ends : List Char → Prop} {same same' : Prop} {text text' : String}

theorem Tells.imp (h : Tells ends same text text') (himp : same → same') :
    Tells ends same' text text' :=
  fun rest rest' hrest hrest' heq => (h rest rest' hrest hrest' heq).imp_left himp

theorem tells_self : Tells ends True text text :=
  fun _ _ _ _ heq => ⟨trivial, List.append_cancel_left heq⟩

theorem tells_of_head (c c' : Char) (hc : text.toList.head? = some c)
    (hc' : text'.toList.head? = some c') (hne : c ≠ c') : Tells ends same text text' := by
  intro rest rest' _ _ heq
  have hhead := congrArg List.head? heq
  rw [List.head?_append, List.head?_append, hc, hc'] at hhead
  exact absurd (Option.some.inj hhead) hne

theorem tells_of_word (h : ∀ c ∈ text.toList, isDelimiter c = false)
    (h' : ∀ c ∈ text'.toList, isDelimiter c = false) : Tells EndsWord (text = text') text text' := by
  intro rest rest' hrest hrest' heq
  have hcut {text : String} {rest : List Char} (h : ∀ c ∈ text.toList, isDelimiter c = false)
      (hrest : EndsWord rest) : (text.toList ++ rest).takeWhile (!isDelimiter ·) = text.toList := by
    rw [List.takeWhile_append_of_pos fun c hc => by rw [h c hc, Bool.not_false]]
    cases rest with
    | nil => exact List.append_nil _
    | cons c rest => simp [hrest c rfl]
  have hsame : text.toList = text'.toList := by
    rw [← hcut h hrest, heq, hcut h' hrest']
  exact ⟨String.toList_inj.mp hsame, List.append_cancel_left (hsame ▸ heq)⟩

theorem Legible.of_words {α : Type} {text : α → String}
    (hword : ∀ x, ∀ c ∈ (text x).toList, isDelimiter c = false)
    (hinjective : Function.Injective text) : Legible EndsWord text :=
  fun x y => (tells_of_word (hword x) (hword y)).imp fun h => hinjective h

end

theorem endsWord_cons {c : Char} (hc : isDelimiter c = true) (rest : List Char) :
    EndsWord (c :: rest) := by
  rintro _ ⟨⟩
  exact hc

theorem endsWord_append {text : String} {c : Char} (htext : text.toList.head? = some c)
    (hc : isDelimiter c = true) (rest : List Char) : EndsWord (text.toList ++ rest) := by
  obtain ⟨cs, hcs⟩ := List.head?_eq_some_iff.mp htext
  rw [hcs]
  exact endsWord_cons hc _

theorem Legible.part {α : Type} {text : α → String} (h : Legible EndsWord text) {x y : α}
    {opening closing : String} {c : Char} {rest rest' : List Char}
    (hclosing : closing.toList.head? = some c) (hc : isDelimiter c = true)
    (heq : opening.toList ++ ((text x).toList ++ (closing.toList ++ rest)) =
      opening.toList ++ ((text y).toList ++ (closing.toList ++ rest'))) :
    x = y ∧ closing.toList ++ rest = closing.toList ++ rest' :=
  h x y _ _ (endsWord_append hclosing hc rest) (endsWord_append hclosing hc rest')
    (List.append_cancel_left heq)

/-! ### Words -/

theorem boolText_legible : Legible EndsWord boolText := by
  refine .of_words (fun b => ?_) (by decide)
  cases b <;> simp [boolText, isDelimiter]

private theorem isDelimiter_of_isNumeralChar {c : Char} (hc : isNumeralChar c = true) :
    isDelimiter c = false := by
  rw [isDelimiter, decide_eq_false_iff_not]
  simp only [List.mem_cons, List.not_mem_nil, or_false]
  rintro (rfl | rfl | rfl | rfl) <;> exact absurd hc (by decide)

theorem natText_legible : Legible EndsWord (toString : Nat → String) := by
  refine .of_words (fun n c hc => ?_) fun n m h => ?_
  · rw [Nat.toString_eq_ofList_toDigits, String.toList_ofList] at hc
    exact isDelimiter_of_isNumeralChar (isNumeralChar_of_isDigit (isDigit_of_mem_toDigits hc))
  · simp only [Nat.toString_eq_ofList_toDigits] at h
    have hdigits := congrArg digitsValue (String.ofList_inj.mp h)
    simpa only [digitsValue_toDigits] using hdigits

/-- The values that are written as names. -/
private def named : List (Value × String) :=
  [(.nan, "NaN"), (.infinite true, "-inf"), (.infinite false, "inf")]

private theorem numeral_or_named (x : Float) :
    (∃ n : Numeral, literalText x = .ofList (n.text false) ∧ n.toFloat? = some x) ∨
      (value x, literalText x) ∈ named := by
  cases hvalue : value x with
  | nan => exact .inr (by simp [named, literalText, Layout.text, hvalue])
  | infinite negative =>
    cases negative <;> exact .inr (by simp [named, literalText, Layout.text, hvalue])
  | finite negative mantissa exponent =>
    refine .inl ⟨_, ?_, Layout.literal.toFloat?_numeral hvalue⟩
    rw [literalText, Layout.text, hvalue]
    rfl

private theorem exists_not_isNumeralChar :
    ∀ entry ∈ named, ∃ c ∈ entry.2.toList, isNumeralChar c = false := by
  simp [named, isNumeralChar]

private theorem named_injective : ∀ entry ∈ named, ∀ entry' ∈ named, entry.2 = entry'.2 →
    entry.1 = entry'.1 := by
  decide

private theorem numeral_ne_named {n : Numeral} {entry : Value × String} (hentry : entry ∈ named) :
    String.ofList (n.text false) ≠ entry.2 := by
  intro h
  obtain ⟨c, hc, hnot⟩ := exists_not_isNumeralChar entry hentry
  rw [← h, String.toList_ofList] at hc
  rw [isNumeralChar_of_mem_text hc] at hnot
  cases hnot

private theorem numeral_text_injective {n n' : Numeral} (h : n.text false = n'.text false) :
    n = n' := by
  have hread : readNumber (n.text false ++ []) = some (n, []) :=
    readNumber_text false n (by rintro _ ⟨⟩)
  rw [h, readNumber_text false n' (by rintro _ ⟨⟩)] at hread
  exact (Prod.mk.inj (Option.some.inj hread)).1.symm

theorem literalText_injective : Function.Injective literalText := by
  intro x y h
  rcases numeral_or_named x with ⟨n, hn, hx⟩ | hx <;> rcases numeral_or_named y with ⟨n', hn', hy⟩ | hy
  · rw [hn, hn'] at h
    rw [numeral_text_injective (String.ofList_inj.mp h), hy] at hx
    exact (Option.some.inj hx).symm
  · exact absurd (hn ▸ h) (numeral_ne_named hy)
  · exact absurd (hn' ▸ h.symm) (numeral_ne_named hx)
  · exact value_injective (named_injective _ hx _ hy h)

theorem literalText_legible : Legible EndsWord literalText := by
  refine .of_words (fun x c hc => ?_) literalText_injective
  rcases numeral_or_named x with ⟨n, hn, -⟩ | hx
  · rw [hn, String.toList_ofList] at hc
    exact isDelimiter_of_isNumeralChar (isNumeralChar_of_mem_text hc)
  · have hnamed : ∀ entry ∈ named, ∀ c ∈ entry.2.toList, isDelimiter c = false := by
      simp [named, isDelimiter]
    exact hnamed _ hx c hc

/-! ### Options and lists -/

section

variable {α : Type} {ends : List Char → Prop} {text : α → String}

theorem Legible.option (h : Legible EndsWord text) : Legible ends (optionText text)
  | none, none => tells_self.imp fun _ => rfl
  | none, some _ =>
    tells_of_head 'N' 'S' (by simp [optionText]) (by simp [optionText]) (by decide)
  | some _, none =>
    tells_of_head 'S' 'N' (by simp [optionText]) (by simp [optionText]) (by decide)
  | some x, some y => by
    intro rest rest' _ _ heq
    simp only [optionText, String.toList_append, List.append_assoc] at heq
    obtain ⟨hxy, hrest⟩ := h.part rfl rfl heq
    exact ⟨congrArg some hxy, List.append_cancel_left hrest⟩

theorem intercalate_cons (separator first : List Char) (texts : List (List Char)) :
    List.intercalate separator (first :: texts) = first ++ texts.flatMap (separator ++ ·) := by
  induction texts generalizing first with
  | nil => simp
  | cons second texts ih =>
    rw [List.intercalate_cons_cons, ih, List.flatMap_cons]
    simp only [List.append_assoc]

def tailText (text : α → String) (items : List α) : List Char :=
  items.flatMap fun x => ", ".toList ++ (text x).toList

theorem toList_intercalate_cons (text : α → String) (first : α) (items : List α) :
    (String.intercalate ", " ((first :: items).map text)).toList =
      (text first).toList ++ tailText text items := by
  rw [String.toList_intercalate, List.map_cons, List.map_cons, intercalate_cons, List.map_map,
    tailText, List.flatMap_map]
  rfl

theorem endsWord_tailText (items : List α) {rest : List Char} (hrest : EndsWord rest) :
    EndsWord (tailText text items ++ rest) := by
  cases items with
  | nil => exact hrest
  | cons x items => simp [tailText, EndsWord, isDelimiter]

private theorem tailText_cancel (h : Legible EndsWord text) (rest rest' : List Char) :
    ∀ xs ys : List α, tailText text xs ++ ']' :: rest = tailText text ys ++ ']' :: rest' →
      xs = ys ∧ rest = rest'
  | [], [], heq => ⟨rfl, List.tail_eq_of_cons_eq heq⟩
  | [], _ :: _, heq => by simp [tailText] at heq
  | _ :: _, [], heq => by simp [tailText] at heq
  | x :: xs, y :: ys, heq => by
    simp only [tailText, List.flatMap_cons, List.append_assoc] at heq
    obtain ⟨rfl, htail⟩ := h x y _ _ (endsWord_tailText xs (endsWord_cons (by decide) rest))
      (endsWord_tailText ys (endsWord_cons (by decide) rest')) (List.append_cancel_left heq)
    obtain ⟨rfl, hrest⟩ := tailText_cancel h rest rest' xs ys htail
    exact ⟨rfl, hrest⟩

private theorem toList_listText_cons (text : α → String) (x : α) (xs : List α) :
    (listText text (x :: xs)).toList = '[' :: ((text x).toList ++ (tailText text xs ++ [']'])) := by
  rw [listText, String.toList_append, String.toList_append, toList_intercalate_cons,
    List.append_assoc, List.append_assoc]
  rfl

/-- A list is legible if its items are and none of them looks like the end of the list. -/
theorem Legible.list (h : Legible EndsWord text)
    (hopens : ∀ x, ∃ c ≠ ']', (text x).toList.head? = some c) : Legible ends (listText text) := by
  have hsecond (x : α) (xs : List α) (rest rest' : List Char) :
      (listText text []).toList ++ rest ≠ (listText text (x :: xs)).toList ++ rest' := by
    obtain ⟨c, hne, hhead⟩ := hopens x
    intro heq
    rw [toList_listText_cons, List.cons_append, List.append_assoc] at heq
    have hempty : (listText text []).toList = ['[', ']'] := by simp [listText]
    rw [hempty] at heq
    have hsame := congrArg List.head? (List.tail_eq_of_cons_eq heq)
    rw [List.head?_append, hhead] at hsame
    exact hne (Option.some.inj hsame).symm
  intro xs ys rest rest' _ _ heq
  match xs, ys with
  | [], [] => exact ⟨rfl, List.append_cancel_left heq⟩
  | [], y :: ys => exact absurd heq (hsecond y ys rest rest')
  | x :: xs, [] => exact absurd heq.symm (hsecond x xs rest' rest)
  | x :: xs, y :: ys =>
    simp only [toList_listText_cons, List.cons_append, List.append_assoc, List.nil_append] at heq
    obtain ⟨rfl, htail⟩ := h x y _ _ (endsWord_tailText xs (endsWord_cons (by decide) rest))
      (endsWord_tailText ys (endsWord_cons (by decide) rest')) (List.tail_eq_of_cons_eq heq)
    obtain ⟨rfl, hrest⟩ := tailText_cancel h rest rest' xs ys htail
    exact ⟨rfl, hrest⟩

end

/-! ### Records -/

def fieldText : String × String → String
  | (name, text) => name ++ ": " ++ text

/-- Two lists of the same fields, whose texts tell whether `same` holds. -/
inductive Alike : Prop → List (String × String) → List (String × String) → Prop where
  | nil : Alike True [] []
  | cons {same same' : Prop} {name text text' : String} {fields fields' : List (String × String)}
      (h : Tells EndsWord same text text') (hs : Alike same' fields fields') :
      Alike (same ∧ same') ((name, text) :: fields) ((name, text') :: fields')

section

variable {ends : List Char → Prop} {same : Prop} {fields fields' : List (String × String)}

theorem tells_fieldText {name text text' : String} (h : Tells EndsWord same text text') :
    Tells EndsWord same (fieldText (name, text)) (fieldText (name, text')) := by
  intro rest rest' hrest hrest' heq
  simp only [fieldText, String.toList_append, List.append_assoc] at heq
  exact h rest rest' hrest hrest' (List.append_cancel_left (List.append_cancel_left heq))

private theorem endsWord_fields (fields : List (String × String)) (rest : List Char) :
    EndsWord (tailText fieldText fields ++ ' ' :: rest) :=
  endsWord_tailText fields (endsWord_cons (by decide) rest)

private theorem Alike.tail_cancel (h : Alike same fields fields') {rest rest' : List Char}
    (heq : tailText fieldText fields ++ ' ' :: rest = tailText fieldText fields' ++ ' ' :: rest') :
    same ∧ rest = rest' := by
  induction h with
  | nil => exact ⟨trivial, List.tail_eq_of_cons_eq heq⟩
  | @cons _ _ name text text' fields fields' h hs ih =>
    simp only [tailText, List.flatMap_cons, List.append_assoc] at heq
    obtain ⟨hsame, htail⟩ := tells_fieldText h _ _ (endsWord_fields fields rest)
      (endsWord_fields fields' rest') (List.append_cancel_left heq)
    obtain ⟨hsame', hrest⟩ := ih htail
    exact ⟨⟨hsame, hsame'⟩, hrest⟩

private theorem toList_recordText_cons (name : String) (field : String × String)
    (fields : List (String × String)) (rest : List Char) :
    (recordText name (field :: fields)).toList ++ rest =
      (name ++ " \x7b ").toList ++
        ((fieldText field).toList ++ (tailText fieldText fields ++ ' ' :: '\x7d' :: rest)) := by
  have hfields : (fieldsText (field :: fields)).toList =
      (fieldText field).toList ++ tailText fieldText fields :=
    toList_intercalate_cons fieldText field fields
  have hclosing : " \x7d".toList = [' ', '\x7d'] := by decide
  rw [recordText, String.toList_append, String.toList_append, hfields, hclosing]
  simp only [List.append_assoc, List.cons_append, List.nil_append]

/-- Two records with the same name and the same fields tell whether their fields agree; they stop at their closing brace, whatever follows. -/
theorem Alike.record (name : String) (h : Alike same fields fields') :
    Tells ends same (recordText name fields) (recordText name fields') := by
  intro rest rest' _ _ heq
  cases h with
  | nil => exact ⟨trivial, List.append_cancel_left heq⟩
  | @cons _ _ _ _ _ fields fields' h hs =>
    rw [toList_recordText_cons, toList_recordText_cons] at heq
    obtain ⟨hsame, htail⟩ := tells_fieldText h _ _ (endsWord_fields fields _)
      (endsWord_fields fields' _) (List.append_cancel_left heq)
    obtain ⟨hsame', hrest⟩ := hs.tail_cancel htail
    exact ⟨⟨hsame, hsame'⟩, List.tail_eq_of_cons_eq hrest⟩

end

/-! ### Sections -/

section

variable {ends : List Char → Prop}

theorem Vec3.legible : Legible ends literal := by
  intro a b rest rest' _ _ heq
  -- The equation lemma of `literal` would compare its pieces of text with one another.
  delta literal at heq
  simp only [String.toList_append, List.append_assoc] at heq
  obtain ⟨hx, heq⟩ := literalText_legible.part rfl rfl heq
  obtain ⟨hy, heq⟩ := literalText_legible.part rfl rfl heq
  obtain ⟨hz, heq⟩ := literalText_legible.part rfl rfl heq
  exact ⟨Vec3.ext hx hy hz, List.append_cancel_left heq⟩

theorem Volume.legible : Legible ends literal := by
  intro a b rest rest' _ _ heq
  delta literal at heq
  simp only [String.toList_append, List.append_assoc] at heq
  obtain ⟨hmin, heq⟩ := Vec3.legible.part rfl rfl heq
  obtain ⟨hmax, heq⟩ := Vec3.legible.part rfl rfl heq
  refine ⟨?_, List.append_cancel_left heq⟩
  cases a
  cases b
  exact congr (congrArg _ hmin) hmax

private theorem points_legible : Legible EndsWord (listText Vec3.literal) :=
  Vec3.legible.list fun v => ⟨'V', by decide, by delta Vec3.literal; simp⟩

def Distribution.initial : Distribution → Char
  | uniformRandom => 'U'
  | fixedPoints _ => 'F'
  | grid => 'G'
  | xGrid => 'X'
  | cylinder => 'C'
  | explicit _ => 'E'

theorem Distribution.head?_literal (d : Distribution) : d.literal.toList.head? = some d.initial := by
  cases d <;> simp [literal, initial, recordText]

private theorem listed_tells (name : String) (points points' : List Vec3) :
    Tells ends (points = points') (recordText name [("points", listText Vec3.literal points)])
      (recordText name [("points", listText Vec3.literal points')]) :=
  (Alike.record name (.cons (points_legible points points') .nil)).imp And.left

theorem Distribution.legible : Legible ends literal := by
  intro a b
  by_cases hinitial : a.initial = b.initial
  · cases a <;> cases b <;> simp [initial] at hinitial
    case fixedPoints.fixedPoints points points' =>
      exact (listed_tells "FixedPoints" points points').imp (congrArg _)
    case explicit.explicit points points' =>
      exact (listed_tells "Explicit" points points').imp (congrArg _)
    all_goals exact tells_self.imp fun _ => rfl
  · exact tells_of_head _ _ a.head?_literal b.head?_literal hinitial

theorem TimerPolicy.legible : Legible ends literal
  | fixed p, fixed q =>
    (Alike.record "Fixed" (.cons (literalText_legible p q) .nil)).imp fun ⟨h, _⟩ => congrArg _ h
  | jittered p v, jittered q w =>
    (Alike.record "Jittered" (.cons (literalText_legible p q) (.cons (literalText_legible v w)
      .nil))).imp fun ⟨h, h', _⟩ => congr (congrArg _ h) h'
  | fixed _, jittered _ _ =>
    tells_of_head 'F' 'J' (by simp [literal, recordText]) (by simp [literal, recordText]) (by decide)
  | jittered _ _, fixed _ =>
    tells_of_head 'J' 'F' (by simp [literal, recordText]) (by simp [literal, recordText]) (by decide)

theorem ClockSettings.legible : Legible ends literal := by
  intro a b
  refine (Alike.record "EngineConfig" (.cons (literalText_legible a.stepSize b.stepSize)
    (.cons (literalText_legible a.startTime b.startTime)
    (.cons (boolText_legible a.startPaused b.startPaused)
    (.cons (natText_legible.option a.seed b.seed)
    (.cons (boolText_legible a.parallelCompute b.parallelCompute)
    (.cons (literalText_legible.option a.stopAt b.stopAt)
    (.cons (natText_legible a.logInterval b.logInterval) .nil)))))))).imp ?_
  rintro ⟨h₁, h₂, h₃, h₄, h₅, h₆, h₇, -⟩
  cases a
  cases b
  simp only [ClockSettings.mk.injEq]
  exact ⟨h₁, h₂, h₃, h₄, h₅, h₆, h₇⟩

theorem PopulationSettings.legible : Legible ends literal := by
  intro a b
  refine (Alike.record "PopulationConfig" (.cons (natText_legible a.size b.size)
    (.cons (literalText_legible a.radius b.radius)
    (.cons (Volume.legible a.volume b.volume)
    (.cons (Distribution.legible a.distribution b.distribution) .nil))))).imp ?_
  rintro ⟨h₁, h₂, h₃, h₄, -⟩
  cases a
  cases b
  simp only [PopulationSettings.mk.injEq]
  exact ⟨h₁, h₂, h₃, h₄⟩

theorem ScheduleSettings.legible : Legible ends literal := by
  intro a b
  refine (Alike.record "ScheduleConfig" (.cons (TimerPolicy.legible a.transmit b.transmit)
    (.cons (TimerPolicy.legible a.compute b.compute)
    (.cons (boolText_legible a.sync b.sync) .nil)))).imp ?_
  rintro ⟨h₁, h₂, h₃, -⟩
  cases a
  cases b
  simp only [ScheduleSettings.mk.injEq]
  exact ⟨h₁, h₂, h₃⟩

theorem DynamicsSettings.legible : Legible ends literal := by
  intro a b
  refine (Alike.record "DynamicsConfig" (.cons (literalText_legible.option a.speedLimit b.speedLimit)
    (.cons (boolText_legible a.bounded b.bounded) .nil))).imp ?_
  rintro ⟨h₁, h₂, -⟩
  cases a
  cases b
  simp only [DynamicsSettings.mk.injEq]
  exact ⟨h₁, h₂⟩

theorem LifecycleSettings.legible : Legible ends literal := by
  intro a b
  refine (Alike.record "LifecycleConfig" (.cons (literalText_legible a.cloneOffset b.cloneOffset)
    (.cons (natText_legible.option a.maxPopulation b.maxPopulation)
    (.cons (literalText_legible a.cloneDelay b.cloneDelay) .nil)))).imp ?_
  rintro ⟨h₁, h₂, h₃, -⟩
  cases a
  cases b
  simp only [LifecycleSettings.mk.injEq]
  exact ⟨h₁, h₂, h₃⟩

end

/-! ### Configurations -/

/-- Two messages that only seem to be the same by their digests. -/
def Digest.Collision (message message' : List UInt8) : Prop :=
  message ≠ message' ∧ sha256 message = sha256 message'

private theorem toList_loop (bytes : ByteArray) (i : Nat) (read : List UInt8) :
    ByteArray.toList.loop bytes i read = read.reverse ++ bytes.data.toList.drop i := by
  fun_induction ByteArray.toList.loop bytes i read with
  | case1 i read hi ih =>
    have hi' : i < bytes.data.toList.length := by simpa using hi
    rw [ih, List.reverse_cons, List.append_assoc, List.singleton_append,
      List.drop_eq_getElem_cons hi']
    simp [ByteArray.get!, hi]
  | case2 i read hi =>
    have hend : bytes.data.toList.length ≤ i := by simpa using hi
    rw [List.drop_eq_nil_of_le hend, List.append_nil]

private theorem toUTF8_injective {text text' : String}
    (h : text.toUTF8.toList = text'.toUTF8.toList) : text = text' := by
  rw [ByteArray.toList, ByteArray.toList, toList_loop, toList_loop] at h
  exact String.toByteArray_inj.mp (ByteArray.ext (Array.toList_inj.mp h))

namespace Settings

/-- Whether two configurations agree in every section but the index. Doubles agree if all their bits do. -/
structure SameSimulation (a b : Settings) : Prop where
  engine : a.engine = b.engine
  population : a.population = b.population
  schedule : a.schedule = b.schedule
  dynamics : a.dynamics = b.dynamics
  lifecycle : a.lifecycle = b.lifecycle

/-- The message that is digested to the fingerprint. -/
def identityBytes (s : Settings) : List UInt8 := s.identityText.toUTF8.toList

theorem sameSimulation_of_identityText {a b : Settings} (h : a.identityText = b.identityText) :
    a.SameSimulation b := by
  have heq := congrArg (String.toList · ++ []) h
  simp only [identityText, String.toList_append, List.append_assoc] at heq
  have cancel {α : Type} {text : α → String} (h : Legible (fun _ => True) text) {x y : α}
      {rest rest' : List Char} (heq : (text x).toList ++ rest = (text y).toList ++ rest') :
      x = y ∧ rest = rest' := h x y rest rest' trivial trivial heq
  obtain ⟨hengine, heq⟩ := cancel ClockSettings.legible heq
  obtain ⟨hpopulation, heq⟩ := cancel PopulationSettings.legible heq
  obtain ⟨hschedule, heq⟩ := cancel ScheduleSettings.legible heq
  obtain ⟨hdynamics, heq⟩ := cancel DynamicsSettings.legible heq
  obtain ⟨hlifecycle, -⟩ := cancel LifecycleSettings.legible heq
  exact ⟨hengine, hpopulation, hschedule, hdynamics, hlifecycle⟩

theorem SameSimulation.identityText {a b : Settings} (h : a.SameSimulation b) :
    a.identityText = b.identityText := by
  rw [Settings.identityText, h.engine, h.population, h.schedule, h.dynamics, h.lifecycle,
    ← Settings.identityText]

/-- Two configurations have the same identity text if and only if they agree in every section but the index; and then, but for collisions of the digest, if and only if they have the same fingerprint. The index never enters it. -/
theorem fingerprint_identifies (a b : Settings) :
    (a.identityText = b.identityText ↔ a.SameSimulation b) ∧
      (a.fingerprint = b.fingerprint ↔
        a.SameSimulation b ∨ Digest.Collision a.identityBytes b.identityBytes) ∧
      ∀ index : IndexSettings, ({ a with index := index } : Settings).fingerprint = a.fingerprint := by
  refine ⟨⟨sameSimulation_of_identityText, SameSimulation.identityText⟩, ⟨fun h => ?_, ?_⟩,
    fun _ => rfl⟩
  · by_cases hbytes : a.identityBytes = b.identityBytes
    · exact .inl (sameSimulation_of_identityText (toUTF8_injective hbytes))
    · exact .inr ⟨hbytes, h⟩
  · rintro (h | ⟨-, h⟩)
    · rw [fingerprint, fingerprint, h.identityText]
    · exact h

end Settings

end SpatialComputer
