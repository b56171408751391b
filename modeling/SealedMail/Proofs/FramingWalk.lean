import Mathlib
import SealedMail.Proofs.FramingGuard

/-! # The framing guard on every input

The framing guard (`Header.checkFraming`) reads one header after another from the start of its
input, steps over each body with a fixed length and fails where such a body runs past the end.
This holds on every byte string, written by the packet writer or not.

A header with a fixed length takes two bytes at least (`Header.two_le_of_fixedFrame?`) and lies
wholly inside the input (`Header.fixedFrame?_le_size`): the room the guard measures after a
header never underflows, and each step moves the walk on by two bytes or more. The positions the
walk reaches are the start and the end of each fixed-length packet that fits (`Header.WalksTo`).
So the walk ends within half as many steps as the input has bytes, and with that much fuel the
guard fails, always with an incomplete packet, exactly when the walk reaches a fixed-length header
whose body runs past the end (`Header.checkFraming_go_eq`, `Header.framing_guard_total`).
-/

namespace SealedMail

namespace Header

/-! ## Header sizes -/

/-- A body length takes one byte at least. -/
theorem one_le_newLength {b : ByteArray} {i : Nat} {r : BodyLength × Nat} (present : newLength b i = some r) :
    1 ≤ r.2 := by
  cases first : b[i]? with
  | none => simp [newLength, first] at present
  | some y =>
    -- the first length byte is followed by nothing, one byte or four
    cases second : b[i + 1]? <;> cases word : numberAt b (i + 1) 4 <;>
      simp only [newLength, first, second, word, Option.map_some, Option.map_none, Option.bind_eq_bind,
        Option.bind_some, Option.bind_none] at present <;>
      split_ifs at present <;> cases present <;> simp

/-- A header with a fixed length takes two bytes at least: its first byte and a length byte. -/
theorem two_le_of_fixedFrame? {b : ByteArray} {i size n : Nat} (framed : fixedFrame? b i = some (size, n)) :
    2 ≤ size := by
  obtain ⟨f, t, ok⟩ := fixedFrame?_eq_some_iff.mp framed
  unfold read at ok
  dsimp only at ok
  split_ifs at ok
  · cases length : newLength b (i + 1) with
    | none => rw [length] at ok; cases ok
    | some r =>
      rw [length] at ok
      obtain ⟨-, -, -, rfl⟩ := Header.mk.inj (Except.ok.inj ok)
      have := one_le_newLength length
      omega
  · -- the old format has one, two or four length bytes, or none for a length to the end
    split at ok
    case h_4 =>
      obtain ⟨-, -, length, -⟩ := Header.mk.inj (Except.ok.inj ok)
      cases length
    all_goals
      split at ok
      · obtain ⟨-, -, -, rfl⟩ := Header.mk.inj (Except.ok.inj ok)
        decide
      · cases ok

/-! ## The walk -/

/-- The walk of the framing guard over `b` goes from position `p` to position `q`: `q` is `p`,
or the packet at `p` has a fixed-length header and a body that ends inside `b`, and the walk goes
on from the end of that body. -/
inductive WalksTo (b : ByteArray) : Nat → Nat → Prop
  | here (p : Nat) : WalksTo b p p
  | step {p q size n : Nat} (framed : fixedFrame? b p = some (size, n)) (fits : p + size + n ≤ b.size)
      (rest : WalksTo b (p + size + n) q) : WalksTo b p q

/-- Whether the walk from `p` reaches a fixed-length header whose body runs past the end of `b`. -/
def OverrunFrom (b : ByteArray) (p : Nat) : Prop :=
  ∃ q size n, WalksTo b p q ∧ fixedFrame? b q = some (size, n) ∧ b.size < q + size + n

/-- The walk only moves forward. -/
theorem WalksTo.le {b : ByteArray} {p q : Nat} (walk : WalksTo b p q) : p ≤ q := by
  induction walk with
  | here => exact le_rfl
  | step _ _ _ ih => omega

/-- Past the end of the input there is no header to read. -/
theorem not_overrunFrom_of_size_le {b : ByteArray} {p : Nat} (past : b.size ≤ p) : ¬ OverrunFrom b p := by
  rintro ⟨q, size, n, walk, framed, -⟩
  have inside := fixedFrame?_le_size framed
  have header := two_le_of_fixedFrame? framed
  have := walk.le
  omega

/-- Where no fixed-length header stands, the walk stops. -/
theorem not_overrunFrom_of_none {b : ByteArray} {p : Nat} (none : fixedFrame? b p = none) : ¬ OverrunFrom b p := by
  rintro ⟨q, size, n, walk, framed, -⟩
  cases walk with
  | here => rw [none] at framed; cases framed
  | step framed' => rw [none] at framed'; cases framed'

/-- At a fixed-length header the walk overruns the input here, or steps over the body and
overruns it later. -/
theorem overrunFrom_of_frame {b : ByteArray} {p size n : Nat} (framed : fixedFrame? b p = some (size, n)) :
    OverrunFrom b p ↔ b.size < p + size + n ∨ (p + size + n ≤ b.size ∧ OverrunFrom b (p + size + n)) := by
  constructor
  · rintro ⟨q, size', n', walk, framed', past⟩
    cases walk with
    | here =>
      rw [framed] at framed'
      obtain ⟨rfl, rfl⟩ := Prod.mk.inj (Option.some.inj framed')
      exact .inl past
    | step first fits rest =>
      rw [framed] at first
      obtain ⟨rfl, rfl⟩ := Prod.mk.inj (Option.some.inj first)
      exact .inr ⟨fits, q, size', n', rest, framed', past⟩
  · rintro (past | ⟨fits, q, size', n', rest, framed', past⟩)
    · exact ⟨p, size, n, .here p, framed, past⟩
    · exact ⟨q, size', n', .step framed fits rest, framed', past⟩

/-! ## The guard follows the walk -/

open scoped Classical in
/-- With fuel for half the bytes left, the guard's walk from `p` fails exactly when it reaches a
fixed-length header whose body runs past the end. Each step takes one unit of fuel and two
bytes at least, so the fuel never runs out first. -/
theorem checkFraming_go_eq {b : ByteArray} {p fuel : Nat} (enough : b.size ≤ p + 2 * fuel) :
    checkFraming.go b p fuel = if OverrunFrom b p then .error .packetIncomplete else .ok () := by
  -- induction on the fuel, from any position: the invariant is that half the bytes left is enough
  induction fuel generalizing p with
  | zero =>
    rw [if_neg (not_overrunFrom_of_size_le (by omega))]
    exact checkFraming_go_of_size_le (by omega) 0
  | succ fuel ih =>
    by_cases past : b.size ≤ p
    · rw [if_neg (not_overrunFrom_of_size_le past)]
      exact checkFraming_go_of_size_le past _
    cases framed : fixedFrame? b p with
    | none =>
      rw [if_neg (not_overrunFrom_of_none framed)]
      exact checkFraming_go_of_none framed fuel
    | some frame =>
      obtain ⟨size, n⟩ := frame
      have header := two_le_of_fixedFrame? framed
      rw [checkFraming_go_of_frame framed, if_congr (overrunFrom_of_frame framed) rfl rfl]
      by_cases runsPast : b.size < p + size + n
      · rw [if_pos runsPast, if_pos (.inl runsPast)]
      · -- the body fits: the walk goes on after it with one unit of fuel less
        have later : b.size < p + size + n ∨ (p + size + n ≤ b.size ∧ OverrunFrom b (p + size + n)) ↔
            OverrunFrom b (p + size + n) := by
          rw [or_iff_right runsPast, and_iff_right (by omega)]
        rw [if_neg runsPast, if_congr later rfl rfl]
        exact ih (by omega)

/-- The walk ends within half as many steps as the input has bytes: with that much fuel or more
the guard gives the same answer. -/
theorem checkFraming_go_fuel {b : ByteArray} {fuel : Nat} (enough : b.size ≤ 2 * fuel) :
    checkFraming.go b 0 fuel = checkFraming b := by
  rw [checkFraming, checkFraming_go_eq (by omega), checkFraming_go_eq (by omega)]

open scoped Classical in
theorem checkFraming_eq (b : ByteArray) :
    checkFraming b = if OverrunFrom b 0 then .error .packetIncomplete else .ok () :=
  checkFraming_go_eq (by omega)

/-- The guard is total and safe on every input. Its walk ends within half as many steps as the
input has bytes, more fuel changing nothing. At every position the walk reaches, a fixed-length
header takes two bytes or more, all inside the input, so the room left after it never
underflows; when the body fits that room, the walk moves strictly forward to the body's end,
inside the input. And the guard fails, always with an incomplete packet, exactly when the walk
from the start reaches a fixed-length header whose body runs past the end; otherwise it passes. -/
theorem framing_guard_total (b : ByteArray) :
    (∀ fuel, b.size ≤ 2 * fuel → checkFraming.go b 0 fuel = checkFraming b) ∧
    (∀ q size n, WalksTo b 0 q → fixedFrame? b q = some (size, n) →
      2 ≤ size ∧ q + size ≤ b.size ∧ (n ≤ b.size - (q + size) → q < q + size + n ∧ q + size + n ≤ b.size)) ∧
    (checkFraming b = .error .packetIncomplete ↔ OverrunFrom b 0) ∧
    (checkFraming b = .ok () ↔ ¬ OverrunFrom b 0) := by
  classical
  refine ⟨fun fuel enough => checkFraming_go_fuel enough, fun q size n _ framed => ?_, ?_, ?_⟩
  · have header := two_le_of_fixedFrame? framed
    have inside := fixedFrame?_le_size framed
    exact ⟨header, inside, fun room => ⟨by omega, by omega⟩⟩
  · rw [checkFraming_eq]
    split_ifs with overrun <;> simp [overrun]
  · rw [checkFraming_eq]
    split_ifs with overrun <;> simp [overrun]

end Header

end SealedMail
