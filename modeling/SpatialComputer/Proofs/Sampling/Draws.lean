import SpatialComputer.Sampling.Draw

/-!
# Draws that succeed

A draw yields a property if it succeeds, wherever the stream under a key stands, with a value that has the property. Stated for every place at once, draws are put together without following the stream from one place to the next.

A uniform draw is repeated until a value fits, and the stream goes round after `Keystream.period` values. So a single value that always fits ends such a draw from everywhere.

A draw takes nothing if it leaves the stream where it stands and comes out the same from everywhere.
-/

namespace SpatialComputer.Sampling

namespace Keystream

/-- A value of the stream depends only on where its place lies within the period. -/
theorem valueAt_congr (key : Vector UInt32 8) {place place' : Nat}
    (h : place % period = place' % period) : valueAt key place = valueAt key place' := by
  simp only [period] at h
  have hlane : place % 8 = place' % 8 := by omega
  have hnumber : UInt64.ofNat (place / 8) = UInt64.ofNat (place' / 8) := by
    apply UInt64.toNat.inj
    rw [UInt64.toNat_ofNat', UInt64.toNat_ofNat']
    omega
  unfold valueAt
  simp only [hlane, hnumber]

/-- An eighth of all 64-bit values lie below this one. -/
def lowBound : Nat := 0x2000000000000000

/-- Whether one of the values under a key is in the lowest eighth of their range. -/
def ReachesLow (key : Vector UInt32 8) : Prop :=
  ∃ place, (valueAt key place).toNat < lowBound

/-- A low value is never further ahead than a period. -/
theorem ReachesLow.exists_ahead {key : Vector UInt32 8} (low : ReachesLow key) (start : Nat) :
    ∃ ahead < period, (valueAt key (start + ahead)).toNat < lowBound := by
  obtain ⟨place, hplace⟩ := low
  refine ⟨(place + period - start % period) % period, Nat.mod_lt _ (by decide), ?_⟩
  have hplace' : (start + (place + period - start % period) % period) % period = place % period := by
    simp only [period]
    omega
  rwa [valueAt_congr key hplace']

end Keystream

/-! ### Draws in two steps -/

section

variable {ε α β : Type} {draw : ExceptT ε (StateM Keystream) α} {next : α → ExceptT ε (StateM Keystream) β}
  {s s' s'' : Keystream}

theorem run_bind_of_ok {a : α} (h : draw.run.run s = (.ok a, s')) :
    (draw >>= next).run.run s = (next a).run.run s' := by
  have hrun : draw.run.run s = (pure (.ok a, s') : Id _) := h
  rw [ExceptT.run_bind, StateT.run_bind, hrun, pure_bind]

theorem run_bind_of_error {cause : ε} (h : draw.run.run s = (.error cause, s')) :
    (draw >>= next).run.run s = (.error cause, s') := by
  have hrun : draw.run.run s = (pure (.error cause, s') : Id _) := h
  rw [ExceptT.run_bind, StateT.run_bind, hrun, pure_bind]
  rfl

theorem run_bind_eq_ok {b : β} (h : (draw >>= next).run.run s = (.ok b, s'')) :
    ∃ a s', draw.run.run s = (.ok a, s') ∧ (next a).run.run s' = (.ok b, s'') := by
  rcases hdraw : draw.run.run s with ⟨_ | a, s'⟩
  · rw [run_bind_of_error hdraw] at h
    cases h
  · rw [run_bind_of_ok hdraw] at h
    exact ⟨a, s', rfl, h⟩

end

/-! ### Draws that succeed -/

/-- Whether a draw succeeds with a value that has the property, wherever the stream under a key stands. -/
def Yields {ε α : Type} (key : Vector UInt32 8) (draw : ExceptT ε (StateM Keystream) α)
    (holds : α → Prop) : Prop :=
  ∀ s : Keystream, s.key = key → ∃ a s', draw.run.run s = (.ok a, s') ∧ s'.key = key ∧ holds a

namespace Yields

variable {ε α β : Type} {key : Vector UInt32 8} {draw : ExceptT ε (StateM Keystream) α}
  {q q' : α → Prop}

theorem mono (h : Yields key draw q) (himp : ∀ a, q a → q' a) :
    Yields key draw q' := by
  intro s hs
  obtain ⟨a, s', hrun, hs', ha⟩ := h s hs
  exact ⟨a, s', hrun, hs', himp a ha⟩

theorem pure {a : α} (ha : q a) :
    Yields key (Pure.pure a : ExceptT ε (StateM Keystream) α) q :=
  fun s hs => ⟨a, s, rfl, hs, ha⟩

theorem bind {next : α → ExceptT ε (StateM Keystream) β} {after : β → Prop}
    (h : Yields key draw q) (hnext : ∀ a, q a → Yields key (next a) after) :
    Yields key (draw >>= next) after := by
  intro s hs
  obtain ⟨a, s', hrun, hs', ha⟩ := h s hs
  obtain ⟨b, s'', hrun', hs'', hb⟩ := hnext a ha s' hs'
  exact ⟨b, s'', (run_bind_of_ok hrun).trans hrun', hs'', hb⟩

theorem modifyGet {take : Keystream → α × Keystream} (hkey : ∀ s, (take s).2.key = s.key)
    (htake : ∀ s, q (take s).1) :
    Yields key (MonadState.modifyGet take : ExceptT ε (StateM Keystream) α) q :=
  fun s hs => ⟨(take s).1, (take s).2, rfl, (hkey s).trans hs, htake s⟩

theorem check {condition : Bool} {fault : ε} (h : condition = true)
    (hdraw : Yields key draw q) :
    Yields key (do
      unless condition do throw fault
      draw) q := by
  subst h
  exact hdraw

end Yields

theorem of_run_check {ε α : Type} {condition : Bool} {fault : ε}
    {draw : ExceptT ε (StateM Keystream) α} {s s' : Keystream} {a : α}
    (h : (do
      unless condition do throw fault
      draw : ExceptT ε (StateM Keystream) α).run.run s = (.ok a, s')) :
    condition = true ∧ draw.run.run s = (.ok a, s') := by
  cases condition with
  | true => exact ⟨rfl, h⟩
  | false => cases h

/-! ### Draws that take nothing -/

/-- Whether a draw comes out the same wherever the stream stands, and leaves it there. -/
def TakesNothing {ε α : Type} (draw : ExceptT ε (StateM Keystream) α) : Prop :=
  ∃ outcome, ∀ s, draw.run.run s = (outcome, s)

namespace TakesNothing

variable {ε α β : Type} {draw : ExceptT ε (StateM Keystream) α}

theorem pure (a : α) : TakesNothing (Pure.pure a : ExceptT ε (StateM Keystream) α) :=
  ⟨.ok a, fun _ => rfl⟩

theorem bind {next : α → ExceptT ε (StateM Keystream) β} (h : TakesNothing draw)
    (hnext : ∀ a, TakesNothing (next a)) : TakesNothing (draw >>= next) := by
  obtain ⟨outcome, hdraw⟩ := h
  cases outcome with
  | error cause => exact ⟨.error cause, fun s => run_bind_of_error (hdraw s)⟩
  | ok a =>
    obtain ⟨outcome, hrest⟩ := hnext a
    exact ⟨outcome, fun s => (run_bind_of_ok (hdraw s)).trans (hrest s)⟩

theorem check (condition : Bool) (fault : ε) (hdraw : TakesNothing draw) :
    TakesNothing (do
      unless condition do throw fault
      draw) := by
  cases condition with
  | true => exact hdraw
  | false => exact ⟨.error fault, fun _ => rfl⟩

end TakesNothing

end SpatialComputer.Sampling
