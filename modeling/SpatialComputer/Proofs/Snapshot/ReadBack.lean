import SpatialComputer.Proofs.Binary64.ReadBack
import SpatialComputer.Proofs.Document.Json
import SpatialComputer.Snapshot.Json

/-!
# Dump lines read back

A snapshot reads back bit for bit from the line it was written as, if and only if its numbers can be written down: counts and ids fit in a word, and doubles are finite. Whatever reads as a snapshot is of this kind, so writing what was read settles after one round.
-/

namespace SpatialComputer

open Binary64

namespace Json

/-- What is written of a valid value reads back as this value, and nothing else than valid values is ever read. -/
structure ReadsBack {α : Type} (encode : α → Json) (decode : Json → Option α) (valid : α → Prop) :
    Prop where
  decode_encode : ∀ a, valid a → decode (encode a) = some a
  valid_of_decode : ∀ j a, decode j = some a → valid a

variable {α : Type} {encode : α → Json} {decode : Json → Option α} {valid : α → Prop}

theorem ReadsBack.decode_encode_iff (h : ReadsBack encode decode valid) (a : α) :
    decode (encode a) = some a ↔ valid a :=
  ⟨h.valid_of_decode _ a, h.decode_encode a⟩

/-! ### Parts -/

theorem readsBack_nat : ReadsBack ofNat toNat? (· < wordBound) where
  decode_encode n hn := by simp [ofNat, toNat?, Numeral.isIntegral, word?, hn]
  valid_of_decode j n h := by
    unfold toNat? at h
    split at h
    · split_ifs at h
      unfold word? at h
      split_ifs at h with hbound
      exact Option.some.inj h ▸ hbound
    · cases h

theorem ofFloat_eq {x : Float} (hx : x.isFinite = true) :
    ∃ n : Numeral, ofFloat x = number n ∧ n.toFloat? = some x := by
  obtain ⟨negative, mantissa, exponent, hvalue⟩ := isFinite_iff.mp hx
  exact ⟨_, by rw [ofFloat, hvalue], Layout.dump.toFloat?_numeral hvalue⟩

theorem readsBack_float : ReadsBack ofFloat toFloat? (·.isFinite = true) where
  decode_encode x hx := by
    obtain ⟨n, hn, hread⟩ := ofFloat_eq hx
    rw [hn]
    exact hread
  valid_of_decode j x h := by
    unfold toFloat? at h
    split at h
    · exact Numeral.isFinite_of_toFloat? h
    · cases h

theorem readsBack_bool : ReadsBack bool toBool? (fun _ => True) where
  decode_encode _ _ := rfl
  valid_of_decode _ _ _ := trivial

theorem readsBack_string : ReadsBack (fun s => string (some s)) toString? (fun _ => True) where
  decode_encode _ _ := rfl
  valid_of_decode _ _ _ := trivial

theorem toOption?_of_ne_null {j : Json} (hj : j ≠ null) :
    toOption? decode j = (decode j).map some := by
  cases j <;> first | rfl | exact absurd rfl hj

theorem ReadsBack.option (h : ReadsBack encode decode valid) (hnull : ∀ a, valid a → encode a ≠ null) :
    ReadsBack (ofOption encode) (toOption? decode) (∀ a ∈ ·, valid a) where
  decode_encode value hvalue := by
    cases value with
    | none => rfl
    | some a =>
      rw [ofOption, toOption?_of_ne_null (hnull a (hvalue a rfl)), h.decode_encode a (hvalue a rfl)]
      rfl
  valid_of_decode j value hvalue := by
    rintro a rfl
    by_cases hj : j = null
    · subst hj
      cases hvalue
    · rw [toOption?_of_ne_null hj, Option.map_eq_some_iff] at hvalue
      obtain ⟨a', ha', heq⟩ := hvalue
      exact Option.some.inj heq ▸ h.valid_of_decode j a' ha'

theorem ReadsBack.list (h : ReadsBack encode decode valid) :
    ReadsBack (fun items => array (items.map encode)) (toList? decode) (∀ a ∈ ·, valid a) where
  decode_encode items hitems := by
    rw [toList?]
    induction items with
    | nil => rfl
    | cons a items ih =>
      rw [List.forall_mem_cons] at hitems
      simp [h.decode_encode a hitems.1, ih hitems.2]
  valid_of_decode j items hread a ha := by
    unfold toList? at hread
    split at hread
    · rename_i raw
      induction raw generalizing items with
      | nil =>
        cases hread
        cases ha
      | cons j raw ih =>
        simp only [List.mapM_cons, Option.bind_eq_bind, Option.bind_eq_some_iff, Option.pure_def,
          Option.some.injEq] at hread
        obtain ⟨a', ha', items', hitems', rfl⟩ := hread
        rcases List.mem_cons.mp ha with rfl | ha
        · exact h.valid_of_decode j a ha'
        · exact ih items' ha hitems'
    · cases hread

/-! ### Records -/

private def membersOf (fields : List (String × Json)) : List (Option String × Json) :=
  fields.map fun field => (some field.1, field.2)

private theorem knownKeys?_membersOf {fields : List (String × Json)}
    (hnames : (fields.map Prod.fst).Nodup) :
    knownKeys? (fields.map Prod.fst) (membersOf fields) = some () := by
  have hkeys : (membersOf fields).mapM Prod.fst = some (fields.map Prod.fst) := by
    rw [membersOf, List.mapM_map]
    exact List.mapM_pure
  have hcount : (fields.map Prod.fst).all (fun name => (fields.map Prod.fst).count name ≤ 1) = true :=
    List.all_eq_true.mpr fun name _ => decide_eq_true (List.nodup_iff_count_le_one.mp hnames name)
  rw [knownKeys?]
  change ((membersOf fields).mapM Prod.fst).bind _ = _
  rw [hkeys, Option.bind_some, hcount]
  rfl

private theorem find?_membersOf {fields : List (String × Json)}
    (hnames : (fields.map Prod.fst).Nodup) {field : String × Json} (hfield : field ∈ fields) :
    (membersOf fields).find? (fun member => member.1 = some field.1) =
      some (some field.1, field.2) := by
  induction fields with
  | nil => cases hfield
  | cons first fields ih =>
    rw [List.map_cons, List.nodup_cons] at hnames
    rw [membersOf, List.map_cons, ← membersOf]
    rcases List.mem_cons.mp hfield with rfl | hfield
    · simp
    · have hne : first.1 ≠ field.1 := fun h => hnames.1 (h ▸ List.mem_map_of_mem hfield)
      rw [List.find?_cons_of_neg (by simpa using hne)]
      exact ih hnames.2 hfield

theorem toFields?_ofFields {names : List String} {fields : List (String × Json)}
    (hnames : fields.map Prod.fst = names) (hnodup : names.Nodup) :
    (ofFields fields).toFields? names = some (fields.map fun field => some field.2) := by
  subst hnames
  change (knownKeys? _ (membersOf fields)).bind _ = _
  rw [knownKeys?_membersOf hnodup, Option.bind_some, List.map_map]
  refine congrArg some (List.map_congr_left fun field hfield => ?_)
  exact congrArg (Option.map Prod.snd) (find?_membersOf hnodup hfield)

end Json

open Json

theorem Vec3.readsBack : ReadsBack toJson ofJson? (·.isFinite = true) where
  decode_encode v hv := by
    obtain ⟨hx, hy, hz⟩ := v.isFinite_iff.mp hv
    rw [ofJson?, toJson, toFields?_ofFields]
    · simp [readsBack_float.decode_encode, hx, hy, hz]
    · rfl
    · decide
  valid_of_decode j v h := by
    simp only [ofJson?, Option.bind_eq_bind, Option.bind_eq_some_iff] at h
    obtain ⟨fields, -, h⟩ := h
    split at h
    · simp only [Option.bind_eq_some_iff, Option.pure_def, Option.some.injEq] at h
      obtain ⟨x, hx, y, hy, z, hz, rfl⟩ := h
      exact (isFinite_iff _).mpr ⟨readsBack_float.valid_of_decode _ _ hx,
        readsBack_float.valid_of_decode _ _ hy, readsBack_float.valid_of_decode _ _ hz⟩
    · cases h

def Color.isFinite (c : Color) : Bool :=
  c.red.isFinite && c.green.isFinite && c.blue.isFinite

theorem Color.isFinite_iff (c : Color) : c.isFinite = true ↔
    c.red.isFinite = true ∧ c.green.isFinite = true ∧ c.blue.isFinite = true := by
  simp only [isFinite, Bool.and_eq_true, and_assoc]

theorem Color.readsBack : ReadsBack toJson ofJson? (·.isFinite = true) where
  decode_encode c hc := by
    obtain ⟨hred, hgreen, hblue⟩ := c.isFinite_iff.mp hc
    rw [ofJson?, toJson, toFields?_ofFields]
    · simp [readsBack_float.decode_encode, hred, hgreen, hblue]
    · rfl
    · decide
  valid_of_decode j c h := by
    simp only [ofJson?, Option.bind_eq_bind, Option.bind_eq_some_iff] at h
    obtain ⟨fields, -, h⟩ := h
    split at h
    · simp only [Option.bind_eq_some_iff, Option.pure_def, Option.some.injEq] at h
      obtain ⟨red, hred, green, hgreen, blue, hblue, rfl⟩ := h
      exact (isFinite_iff _).mpr ⟨readsBack_float.valid_of_decode _ _ hred,
        readsBack_float.valid_of_decode _ _ hgreen, readsBack_float.valid_of_decode _ _ hblue⟩
    · cases h

theorem LifecycleRequests.readsBack : ReadsBack toJson ofJson? (fun _ => True) where
  decode_encode r _ := by
    rw [ofJson?, toJson, toFields?_ofFields]
    · simp [readsBack_bool.decode_encode]
    · rfl
    · decide
  valid_of_decode _ _ _ := trivial

structure DeviceSnapshot.Recordable (d : DeviceSnapshot) : Prop where
  id : d.id < wordBound
  parent : ∀ id ∈ d.parent, id < wordBound
  position : d.position.isFinite = true
  radius : d.radius.isFinite = true
  color : d.color.isFinite = true
  nextTransmitTime : d.nextTransmitTime.isFinite = true
  nextComputeTime : d.nextComputeTime.isFinite = true
  lastComputeTime : ∀ time ∈ d.lastComputeTime, time.isFinite = true
  cloneTimer : d.cloneTimer.isFinite = true

private theorem readsBack_parent :
    ReadsBack (ofOption ofNat) (toOption? toNat?) (∀ id ∈ ·, id < wordBound) :=
  readsBack_nat.option (by rintro _ _ ⟨⟩)

private theorem readsBack_lastComputeTime :
    ReadsBack (ofOption ofFloat) (toOption? Json.toFloat?) (∀ time ∈ ·, time.isFinite = true) :=
  readsBack_float.option fun x hx h => by
    obtain ⟨n, hn, -⟩ := ofFloat_eq hx
    rw [hn] at h
    cases h

private theorem readsBack_sensors :
    ReadsBack (fun sensors => .array (sensors.map .bool)) (toList? toBool?) (∀ lit ∈ ·, True) :=
  readsBack_bool.list

theorem DeviceSnapshot.readsBack : ReadsBack toJson ofJson? Recordable where
  decode_encode d hd := by
    rw [ofJson?, toJson, toFields?_ofFields]
    · simp only [List.map, Option.bind_eq_bind, Option.bind_some, Option.getD_some,
        readsBack_nat.decode_encode _ hd.id,
        readsBack_parent.decode_encode _ hd.parent,
        Vec3.readsBack.decode_encode _ hd.position,
        readsBack_float.decode_encode _ hd.radius,
        Color.readsBack.decode_encode _ hd.color,
        readsBack_sensors.decode_encode d.sensors fun _ _ => trivial,
        readsBack_float.decode_encode _ hd.nextTransmitTime,
        readsBack_float.decode_encode _ hd.nextComputeTime,
        readsBack_lastComputeTime.decode_encode _ hd.lastComputeTime,
        LifecycleRequests.readsBack.decode_encode d.requests trivial,
        readsBack_float.decode_encode _ hd.cloneTimer]
      rfl
    · rfl
    · decide
  valid_of_decode j d h := by
    obtain ⟨fields, -, h⟩ := Option.bind_eq_some_iff.mp h
    split at h
    · obtain ⟨id, hid, h⟩ := Option.bind_eq_some_iff.mp h
      obtain ⟨parent, hparent, h⟩ := Option.bind_eq_some_iff.mp h
      obtain ⟨position, hposition, h⟩ := Option.bind_eq_some_iff.mp h
      obtain ⟨radius, hradius, h⟩ := Option.bind_eq_some_iff.mp h
      obtain ⟨color, hcolor, h⟩ := Option.bind_eq_some_iff.mp h
      obtain ⟨sensors, -, h⟩ := Option.bind_eq_some_iff.mp h
      obtain ⟨nextTransmit, hnextTransmit, h⟩ := Option.bind_eq_some_iff.mp h
      obtain ⟨nextCompute, hnextCompute, h⟩ := Option.bind_eq_some_iff.mp h
      obtain ⟨lastCompute, hlastCompute, h⟩ := Option.bind_eq_some_iff.mp h
      obtain ⟨requests, -, h⟩ := Option.bind_eq_some_iff.mp h
      obtain ⟨cloneTimer, hcloneTimer, h⟩ := Option.bind_eq_some_iff.mp h
      obtain rfl := Option.some.inj h
      exact {
        id := readsBack_nat.valid_of_decode _ _ hid
        parent := readsBack_parent.valid_of_decode _ _ hparent
        position := Vec3.readsBack.valid_of_decode _ _ hposition
        radius := readsBack_float.valid_of_decode _ _ hradius
        color := Color.readsBack.valid_of_decode _ _ hcolor
        nextTransmitTime := readsBack_float.valid_of_decode _ _ hnextTransmit
        nextComputeTime := readsBack_float.valid_of_decode _ _ hnextCompute
        lastComputeTime := readsBack_lastComputeTime.valid_of_decode _ _ hlastCompute
        cloneTimer := readsBack_float.valid_of_decode _ _ hcloneTimer }
    · cases h

/-- Whether the numbers of a snapshot can be written down. -/
structure PopulationSnapshot.Recordable (s : PopulationSnapshot) : Prop where
  tick : s.tick < wordBound
  time : s.time.isFinite = true
  devices : ∀ d ∈ s.devices, d.Recordable

theorem PopulationSnapshot.readsBack : ReadsBack toJson ofJson? Recordable where
  decode_encode s hs := by
    have hfingerprint := readsBack_string.decode_encode s.fingerprint trivial
    have hdevices := DeviceSnapshot.readsBack.list.decode_encode s.devices hs.devices
    rw [ofJson?, toJson, toFields?_ofFields]
    · simp [readsBack_nat.decode_encode, readsBack_float.decode_encode, hfingerprint, hdevices,
        hs.tick, hs.time]
    · rfl
    · decide
  valid_of_decode j s h := by
    simp only [ofJson?, Option.bind_eq_bind, Option.bind_eq_some_iff] at h
    obtain ⟨fields, -, h⟩ := h
    split at h
    · simp only [Option.bind_eq_some_iff, Option.pure_def, Option.some.injEq] at h
      obtain ⟨tick, htick, time, htime, fingerprint, -, devices, hdevices, rfl⟩ := h
      exact {
        tick := readsBack_nat.valid_of_decode _ _ htick
        time := readsBack_float.valid_of_decode _ _ htime
        devices := DeviceSnapshot.readsBack.list.valid_of_decode _ _ hdevices }
    · cases h

/-! ### Lines -/

namespace PopulationSnapshot

theorem ofLine?_text (j : Json) : ofLine? (.ofList j.text) = ofJson? j := by
  rw [ofLine?, String.toList_ofList, ofText?_text]
  rfl

theorem recordable_of_ofLine? {text : String} {s : PopulationSnapshot} (h : ofLine? text = some s) :
    s.Recordable := by
  obtain ⟨j, -, hj⟩ := Option.bind_eq_some_iff.mp h
  exact readsBack.valid_of_decode j s hj

/-- The line of a snapshot reads back as this snapshot if and only if its numbers can be written down. Hence the line written of whatever was read reads as the same snapshot again. -/
theorem lines_read_back :
    (∀ s : PopulationSnapshot, ofLine? s.line = some s ↔ s.Recordable) ∧
      ∀ (text : String) (s : PopulationSnapshot), ofLine? text = some s → ofLine? s.line = some s := by
  have hiff (s : PopulationSnapshot) : ofLine? s.line = some s ↔ s.Recordable := by
    rw [line, ofLine?_text]
    exact readsBack.decode_encode_iff s
  exact ⟨hiff, fun _ s h => (hiff s).mpr (recordable_of_ofLine? h)⟩

/-- A snapshot at the edges of what can be written down: the greatest words, a negative zero, the least and the greatest double, and a text that has to be escaped. -/
def extreme : PopulationSnapshot where
  tick := wordBound - 1
  time := 1e22
  fingerprint := "\t\"é\""
  devices := [{
    id := wordBound - 1
    parent := some (wordBound - 2)
    position := ⟨.ofBits 0x8000000000000000, .ofBits 1, .ofBits 0x7fefffffffffffff⟩
    radius := 0.1
    color := {}
    sensors := [true, false]
    nextTransmitTime := 0.25
    nextComputeTime := 1e-7
    lastComputeTime := some (.ofBits 0x8000000000000000)
    requests := {}
    cloneTimer := 3 }]

/-- A document that no snapshot is written as: its fields are in another order, one is not known, and a time is an integer. -/
def foreign : Json :=
  .object [
    (some "note", .null),
    (some "devices", .array []),
    (some "fingerprint", .string (some "")),
    (some "time", .number ⟨true, 0, 0, none⟩),
    (some "tick", .number ⟨false, 7, 0, none⟩)]

theorem lines_read_back_extreme :
    ofLine? extreme.line = some extreme ∧
      ofLine? (.ofList foreign.text) = some ⟨7, .ofBits 0x8000000000000000, "", []⟩ ∧
      ofLine? (line ⟨7, .ofBits 0x8000000000000000, "", []⟩) =
        some ⟨7, .ofBits 0x8000000000000000, "", []⟩ := by
  have hdevices : ∀ d ∈ extreme.devices, d.Recordable :=
    List.forall_mem_singleton.mpr (by constructor <;> decide +kernel)
  have hforeign : ofLine? (.ofList foreign.text) = some ⟨7, .ofBits 0x8000000000000000, "", []⟩ := by
    rw [ofLine?_text]
    decide +kernel
  exact ⟨(lines_read_back.1 extreme).mpr ⟨by decide, by decide +kernel, hdevices⟩, hforeign,
    lines_read_back.2 _ _ hforeign⟩

end PopulationSnapshot

end SpatialComputer
