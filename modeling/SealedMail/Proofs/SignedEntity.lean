import Mathlib
import SealedMail.Mime.Walk
import SealedMail.Proofs.ArmorReading

/-! # The signed entity of a `multipart/signed` body

RFC 3156 signs the first body part exactly as its bytes stand between the first delimiter line
and the next one, without the line break that belongs to the second delimiter. The body is
searched by byte offsets: a delimiter counts only where it opens a line (`Mime.OpensLine`), the
entity starts after the first line feed that follows the first delimiter, and at its end one
line feed and then one carriage return are given back to the delimiter.

`Mime.signedEntity_layout` reads the entity back from every body laid out that way, and
`Mime.signedEntity_eq_none_iff` says exactly when there is none: no line opens with the
delimiter, or the first such line never ends, or no line after it opens with the delimiter.
Both rest on the two searches (`findDelimiter_eq_some_iff`, `indexOfFrom_eq_some_iff`) and on
one fact about prefixes: a delimiter, which holds neither a line feed nor a carriage return,
that starts before such a byte ends before it (`prefix_of_prefix_append_cons`).
-/

namespace SealedMail

/-! ## Prefixes that stop at a byte they do not hold -/

/-- A prefix of `u ++ y :: w` that does not hold `y` is a prefix of `u`. -/
theorem prefix_of_prefix_append_cons {d u w : List UInt8} {y : UInt8} (pre : d <+: u ++ y :: w)
    (absent : y ∉ d) : d <+: u := by
  have stops : u ++ [y] <+: u ++ y :: w := by simp
  rcases List.prefix_or_prefix_of_prefix pre stops with shorter | longer
  · rcases List.prefix_concat_iff.mp shorter with whole | inside
    · exact absurd (by simp [whole]) absent
    · exact inside
  · exact absurd (longer.subset (by simp)) absent

namespace Bytes

theorem get!_eq_iff {t : ByteArray} {j : Nat} (inside : j < t.size) {x : UInt8} :
    t.get! j = x ↔ t.data.toList[j]? = some x := by
  rw [get!_eq_getElem inside, List.getElem?_eq_getElem (by simpa using inside), Option.some.injEq]
  exact Iff.rfl

/-- The first position at or after `s` that holds `x`. -/
theorem indexOfFrom_eq_some_iff {b : ByteArray} {x : UInt8} {s j : Nat} :
    indexOfFrom b x s = some j ↔
      s ≤ j ∧ j < b.size ∧ b.get! j = x ∧ ∀ m, s ≤ m → m < j → b.get! m ≠ x := by
  -- the search runs `b.size - s` steps; each step either finds `x` or moves on
  have search : ∀ k i, indexOfFrom.go b x i k = some j ↔
      i ≤ j ∧ j < i + k ∧ b.get! j = x ∧ ∀ m, i ≤ m → m < j → b.get! m ≠ x := by
    intro k
    induction k with
    | zero => intro i; simp only [indexOfFrom.go, reduceCtorEq, false_iff]; omega
    | succ k ih =>
      intro i
      by_cases here : b.get! i = x
      · simp only [indexOfFrom.go, here, beq_self_eq_true, if_true, Option.some.injEq]
        constructor
        · rintro rfl
          exact ⟨le_rfl, by omega, here, fun m lo hi => absurd hi (by omega)⟩
        · rintro ⟨lo, -, found, before⟩
          by_contra moved
          exact before i le_rfl (by omega) here
      · simp only [indexOfFrom.go, beq_iff_eq, here, if_false, ih]
        constructor
        · rintro ⟨lo, hi, found, before⟩
          refine ⟨by omega, by omega, found, fun m lo' hi' => ?_⟩
          rcases Nat.eq_or_lt_of_le lo' with rfl | later
          · exact here
          · exact before m later hi'
        · rintro ⟨lo, hi, found, before⟩
          have moved : i ≠ j := fun same => here (same ▸ found)
          exact ⟨by omega, by omega, found, fun m lo' hi' => before m (by omega) hi'⟩
  rw [indexOfFrom, search]
  constructor
  · rintro ⟨lo, hi, found, before⟩
    exact ⟨lo, by omega, found, before⟩
  · rintro ⟨lo, hi, found, before⟩
    exact ⟨lo, by omega, found, before⟩

/-- A byte among those from `s` on stands at some position from `s` on. -/
theorem mem_drop_iff {b : ByteArray} {x : UInt8} {s : Nat} :
    x ∈ b.data.toList.drop s ↔ ∃ m, s ≤ m ∧ m < b.size ∧ b.get! m = x := by
  rw [List.mem_iff_getElem]
  constructor
  · rintro ⟨j, within, rfl⟩
    simp only [List.length_drop, length_toList] at within
    refine ⟨s + j, by omega, by omega, ?_⟩
    rw [get!_eq_getElem (by omega), List.getElem_drop]
    rfl
  · rintro ⟨m, lo, hi, rfl⟩
    refine ⟨m - s, by simp; omega, ?_⟩
    rw [List.getElem_drop, get!_eq_getElem hi]
    simp only [show s + (m - s) = m by omega]
    rfl

/-- The search finds nothing exactly when no byte from `s` on is `x`. -/
theorem indexOfFrom_eq_none_iff {b : ByteArray} {x : UInt8} {s : Nat} :
    indexOfFrom b x s = none ↔ x ∉ b.data.toList.drop s := by
  have search : ∀ k i, indexOfFrom.go b x i k = none ↔ ∀ m, i ≤ m → m < i + k → b.get! m ≠ x := by
    intro k
    induction k with
    | zero => intro i; simp only [indexOfFrom.go, true_iff]; omega
    | succ k ih =>
      intro i
      by_cases here : b.get! i = x
      · simp only [indexOfFrom.go, here, beq_self_eq_true, if_true, reduceCtorEq, false_iff, not_forall]
        exact ⟨i, le_rfl, by omega, fun different => different here⟩
      · simp only [indexOfFrom.go, beq_iff_eq, here, if_false, ih]
        constructor
        · intro later m lo hi
          rcases Nat.eq_or_lt_of_le lo with rfl | after
          · exact here
          · exact later m after (by omega)
        · exact fun all m lo hi => all m (by omega) (by omega)
  rw [indexOfFrom, search, mem_drop_iff]
  constructor
  · rintro none ⟨m, lo, hi, found⟩
    exact none m lo (by omega) found
  · intro absent m lo hi found
    exact absent ⟨m, lo, by omega, found⟩

/-- When the bytes from `s` on are `u`, then `x`, and `u` does not hold `x`, the search for `x`
from `s` stops right after `u`. -/
theorem indexOfFrom_of_drop {b : ByteArray} {x : UInt8} {s : Nat} {u w : List UInt8}
    (rest : b.data.toList.drop s = u ++ x :: w) (absent : x ∉ u) :
    indexOfFrom b x s = some (s + u.length) := by
  have found : b.data.toList.drop (s + u.length) = x :: w := by
    rw [drop_add_of_drop rest]
  refine indexOfFrom_eq_some_iff.mpr ⟨by omega, (get!_of_drop found).1, (get!_of_drop found).2, ?_⟩
  intro m lo hi
  obtain ⟨n, rfl⟩ := Nat.exists_eq_add_of_le lo
  rw [get!_of_drop_append rest (by omega)]
  exact fun same => absent (same ▸ List.getElem_mem _)

end Bytes

namespace Mime

/-! ## Lines that open with a delimiter -/

/-- `delim` opens a line of `t` at `i`: `i` is the start of `t` or follows a line feed, and the
bytes of `t` from `i` on begin with `delim`. -/
def OpensLine (t delim : ByteArray) (i : Nat) : Prop :=
  (i = 0 ∨ t.data.toList[i - 1]? = some 10) ∧ delim.data.toList <+: t.data.toList.drop i

instance (t delim : ByteArray) (i : Nat) : Decidable (OpensLine t delim i) :=
  inferInstanceAs (Decidable ((i = 0 ∨ t.data.toList[i - 1]? = some 10) ∧ delim.data.toList <+: t.data.toList.drop i))

theorem OpensLine.lt_size {t delim : ByteArray} {i : Nat} (opens : OpensLine t delim i)
    (nonempty : 0 < delim.size) : i < t.size := by
  have room := opens.2.length_le
  simp only [List.length_drop, Bytes.length_toList] at room
  omega

/-- Only the positions inside a text can open a line with a delimiter. -/
theorem not_opensLine_of_bounded {t delim : ByteArray} (nonempty : 0 < delim.size)
    (none : ∀ i < t.size, ¬ OpensLine t delim i) (i : Nat) : ¬ OpensLine t delim i :=
  fun opens => none i (opens.lt_size nonempty) opens

/-- The test the search makes at each position is `OpensLine`. -/
theorem opensLine_test {t delim : ByteArray} {i : Nat} (inside : i < t.size) (nonempty : 0 < delim.size) :
    ((i == 0 || t.get! (i - 1) == 10) && Bytes.matchesAt t delim i) = true ↔ OpensLine t delim i := by
  rw [Bool.and_eq_true, Bool.or_eq_true, beq_iff_eq, beq_iff_eq, Bytes.matchesAt_iff nonempty, OpensLine,
    Bytes.get!_eq_iff (by omega)]

/-- The first position at or after `i` where `delim` opens a line. -/
theorem findDelimiter_eq_some_iff {data delim : ByteArray} (nonempty : 0 < delim.size) {i j : Nat} :
    findDelimiter data delim i = some j ↔
      i ≤ j ∧ OpensLine data delim j ∧ ∀ k, i ≤ k → k < j → ¬ OpensLine data delim k := by
  fun_induction findDelimiter data delim i with
  | case1 i inside opens =>
    rw [opensLine_test inside nonempty] at opens
    simp only [Option.some.injEq]
    constructor
    · rintro rfl
      exact ⟨le_rfl, opens, fun k lo hi => absurd hi (by omega)⟩
    · rintro ⟨lo, -, before⟩
      by_contra moved
      exact before i le_rfl (by omega) opens
  | case2 i inside closed ih =>
    rw [Bool.not_eq_true, ← Bool.not_eq_true, opensLine_test inside nonempty] at closed
    rw [ih]
    constructor
    · rintro ⟨lo, opens, before⟩
      refine ⟨by omega, opens, fun k lo' hi' => ?_⟩
      rcases Nat.eq_or_lt_of_le lo' with rfl | later
      · exact closed
      · exact before k later hi'
    · rintro ⟨lo, opens, before⟩
      have moved : i ≠ j := fun same => closed (same ▸ opens)
      exact ⟨by omega, opens, fun k lo' hi' => before k (by omega) hi'⟩
  | case3 i outside =>
    simp only [reduceCtorEq, false_iff, not_and]
    intro lo opens
    exact absurd (opens.lt_size nonempty) (by omega)

/-- No position at or after `i` opens a line with `delim`. -/
theorem findDelimiter_eq_none_iff {data delim : ByteArray} (nonempty : 0 < delim.size) {i : Nat} :
    findDelimiter data delim i = none ↔ ∀ k, i ≤ k → ¬ OpensLine data delim k := by
  fun_induction findDelimiter data delim i with
  | case1 i inside opens =>
    rw [opensLine_test inside nonempty] at opens
    simp only [reduceCtorEq, false_iff, not_forall, not_not]
    exact ⟨i, le_rfl, opens⟩
  | case2 i inside closed ih =>
    rw [Bool.not_eq_true, ← Bool.not_eq_true, opensLine_test inside nonempty] at closed
    rw [ih]
    constructor
    · intro later k lo
      rcases Nat.eq_or_lt_of_le lo with rfl | after
      · exact closed
      · exact later k after
    · exact fun all k lo => all k (by omega)
  | case3 i outside =>
    simp only [true_iff]
    intro k lo opens
    exact absurd (opens.lt_size nonempty) (by omega)

/-- A delimiter line that starts inside `u`, in bytes `x ++ u ++ y :: w` where the delimiter does
not hold `y`, ends inside `u` and is a delimiter line of `u`. -/
theorem opens_inner {l x u w d : List UInt8} {y : UInt8} {k : Nat} (layout : l = x ++ (u ++ y :: w))
    (absent : y ∉ d) (lo : x.length ≤ k) (hi : k < x.length + u.length)
    (opens : (k = 0 ∨ l[k - 1]? = some 10) ∧ d <+: l.drop k) :
    (k - x.length = 0 ∨ u[k - x.length - 1]? = some 10) ∧ d <+: u.drop (k - x.length) := by
  obtain ⟨n, rfl⟩ := Nat.exists_eq_add_of_le lo
  rw [Nat.add_sub_cancel_left]
  obtain ⟨lineStart, pre⟩ := opens
  rw [layout, ← List.drop_drop, List.drop_left, List.drop_append_of_le_length (by omega)] at pre
  refine ⟨?_, prefix_of_prefix_append_cons pre absent⟩
  rcases Nat.eq_zero_or_pos n with first | later
  · exact .inl first
  · rcases lineStart with zero | lf
    · omega
    · right
      rw [layout, show x.length + n - 1 = x.length + (n - 1) by omega, List.getElem?_append_right (by omega),
        Nat.add_sub_cancel_left, List.getElem?_append_left (by omega)] at lf
      exact lf

/-- A delimiter line of `u` is one of `u ++ v`. -/
theorem opens_append {u v d : List UInt8} {k : Nat} (within : k ≤ u.length)
    (opens : (k = 0 ∨ u[k - 1]? = some 10) ∧ d <+: u.drop k) :
    (k = 0 ∨ (u ++ v)[k - 1]? = some 10) ∧ d <+: (u ++ v).drop k := by
  refine ⟨?_, ?_⟩
  · rcases opens.1 with zero | lf
    · exact .inl zero
    · rcases Nat.eq_zero_or_pos k with zero | pos
      · exact .inl zero
      · exact .inr (by rw [List.getElem?_append_left (by omega), lf])
  · rw [List.drop_append_of_le_length within]
    exact opens.2.trans (List.prefix_append _ _)

/-- No delimiter line starts at a byte that the delimiter does not hold. -/
theorem not_opensLine_of_head {t delim : ByteArray} {k : Nat} {y : UInt8} {w : List UInt8}
    (rest : t.data.toList.drop k = y :: w) (absent : y ∉ delim.data.toList) (nonempty : 0 < delim.size) :
    ¬ OpensLine t delim k := by
  intro opens
  have pre : delim.data.toList <+: [] ++ y :: w := by rw [List.nil_append, ← rest]; exact opens.2
  have empty := List.prefix_nil.mp (prefix_of_prefix_append_cons pre absent)
  simp only [← Bytes.length_toList delim, empty, List.length_nil] at nonempty
  exact absurd nonempty (Nat.lt_irrefl 0)

/-- The first delimiter line of bytes that open with `pre` and then the delimiter, when `pre` is
empty or ends a line and no line of it opens with the delimiter: a delimiter line inside `pre`
would be one of `pre`, and none opens at the line feed that ends it. -/
theorem findDelimiter_after_pre {raw pre delim : ByteArray} {w : List UInt8} (nonempty : 0 < delim.size)
    (noLf : (10 : UInt8) ∉ delim.data.toList) (layout : raw.data.toList = pre.data.toList ++ (delim.data.toList ++ w))
    (preEnds : pre.size = 0 ∨ pre.data.toList.getLast? = some 10) (preFree : ∀ i, ¬ OpensLine pre delim i) :
    findDelimiter raw delim 0 = some pre.size := by
  refine (findDelimiter_eq_some_iff nonempty).mpr ⟨Nat.zero_le _, ⟨?_, ?_⟩, ?_⟩
  · rcases preEnds with empty | ends
    · exact .inl empty
    · have within : pre.size - 1 < pre.data.toList.length := by
        have := List.length_pos_of_ne_nil (List.ne_nil_of_mem (List.mem_of_getLast? ends))
        simp only [Bytes.length_toList] at this ⊢
        omega
      right
      rw [layout, List.getElem?_append_left within, ← ends, List.getLast?_eq_getElem?, Bytes.length_toList]
  · rw [layout, List.drop_left' (Bytes.length_toList pre)]
    exact List.prefix_append _ _
  · intro k _ before opens
    rcases preEnds with empty | ends
    · omega
    obtain ⟨body, shape⟩ := List.getLast?_eq_some_iff.mp ends
    have sizes : pre.size = body.length + 1 := by rw [← Bytes.length_toList, shape]; simp
    have whole : raw.data.toList = [] ++ (body ++ 10 :: (delim.data.toList ++ w)) := by
      rw [layout, shape]; simp
    rcases Nat.lt_or_ge k body.length with inside | last
    · -- a line of `pre` itself
      have inner := opens_append (v := [10]) (by omega)
        (opens_inner whole noLf (Nat.zero_le k) (by simpa using inside) opens)
      rw [List.length_nil, Nat.sub_zero, ← shape] at inner
      exact preFree k inner
    · -- the line feed that ends `pre`
      have there : raw.data.toList.drop k = 10 :: (delim.data.toList ++ w) := by
        rw [whole, List.nil_append, List.drop_append_of_le_length (by omega),
          List.drop_eq_nil_of_le (by omega), List.nil_append]
      exact not_opensLine_of_head there noLf nonempty opens

/-- The delimiter line after an entity: from `start` stand the entity, a line break the
delimiter does not touch, and the delimiter. A delimiter line inside the entity would be one of
the entity, and none starts inside the line break. -/
theorem findDelimiter_after_entity {raw entity delim : ByteArray} {start : Nat} {s w : List UInt8}
    (nonempty : 0 < delim.size) (inside : start ≤ raw.size)
    (rest : raw.data.toList.drop start = entity.data.toList ++ (s ++ (delim.data.toList ++ w)))
    (breakEnds : s.getLast? = some 10) (apart : ∀ y ∈ s, y ∉ delim.data.toList)
    (entityFree : ∀ i, ¬ OpensLine entity delim i) :
    findDelimiter raw delim start = some (start + entity.size + s.length) := by
  obtain ⟨y, s', rfl⟩ := List.exists_cons_of_ne_nil (List.ne_nil_of_mem (List.mem_of_getLast? breakEnds))
  have whole : raw.data.toList = raw.data.toList.take start ++ (entity.data.toList ++ y :: (s' ++ (delim.data.toList ++ w))) := by
    rw [← List.cons_append, ← rest, List.take_append_drop]
  have taken : (raw.data.toList.take start).length = start := by simp [inside]
  refine (findDelimiter_eq_some_iff nonempty).mpr ⟨by omega, ⟨.inr ?_, ?_⟩, ?_⟩
  · -- the line break ends with a line feed right before the delimiter
    have last : (y :: s')[s'.length]? = some 10 := by
      rw [← breakEnds, List.getLast?_eq_getElem?, List.length_cons, Nat.add_sub_cancel]
    rw [show start + entity.size + (y :: s').length - 1 = start + (entity.data.toList.length + s'.length) by simp; omega,
      ← List.getElem?_drop, rest, List.getElem?_append_right (by omega), Nat.add_sub_cancel_left,
      List.getElem?_append_left (by simp), last]
  · rw [show start + entity.size + (y :: s').length = start + (entity.data.toList ++ (y :: s')).length by simp; omega,
      ← List.drop_drop, rest, ← List.append_assoc, List.drop_left]
    exact List.prefix_append _ _
  · intro k lo hi opens
    by_cases early : k < start + entity.size
    · have inner := opens_inner whole (apart y (by simp)) (by omega) (by simp [taken]; omega) opens
      rw [taken] at inner
      exact entityFree (k - start) inner
    · -- a byte of the line break is where the line would open
      obtain ⟨j, rfl⟩ := Nat.exists_eq_add_of_le (Nat.le_of_not_lt early)
      have within : j < (y :: s').length := by simp at hi ⊢; omega
      have there : raw.data.toList.drop (start + entity.size + j) =
          (y :: s')[j] :: ((y :: s').drop (j + 1) ++ (delim.data.toList ++ w)) := by
        rw [show start + entity.size + j = start + (entity.data.toList.length + j) by simp; omega,
          ← List.drop_drop, rest, ← List.drop_drop, List.drop_left, List.drop_append_of_le_length (by omega),
          List.drop_eq_getElem_cons within, List.cons_append]
      exact not_opensLine_of_head there (apart _ (List.getElem_mem _)) nonempty opens

theorem delimiter_toList (b : ByteArray) : (delimiter b).data.toList = 45 :: 45 :: b.data.toList := by
  rw [delimiter, ByteArray.data_append, Array.toList_append]
  rfl

/-- A byte other than a dash is in a delimiter only when it is in the boundary. -/
theorem not_mem_delimiter {b : ByteArray} {x : UInt8} (dash : x ≠ 45) (absent : x ∉ b.data.toList) :
    x ∉ (delimiter b).data.toList := by
  rw [delimiter_toList, List.mem_cons, List.mem_cons, not_or, not_or]
  exact ⟨dash, dash, absent⟩

/-! ## The entity of a laid-out body -/

/-- One step of giving a line break back to the delimiter: the byte before `stop` is dropped
when it is `x` and lies after `start`. -/
def giveBack (raw : ByteArray) (start stop : Nat) (x : UInt8) : Nat :=
  if start < stop ∧ raw.get! (stop - 1) = x then stop - 1 else stop

theorem giveBack_eq {raw : ByteArray} {start stop : Nat} {x : UInt8} :
    (if (decide (stop > start) && raw.get! (stop - 1) == x) = true then stop - 1 else stop) =
      giveBack raw start stop x := by
  simp only [giveBack, gt_iff_lt, Bool.and_eq_true, decide_eq_true_eq, beq_iff_eq]

/-- Giving back the line break before the second delimiter line comes back to the end of the
entity: a CR LF break is given back whole, and an LF break after an entity that does not end in
CR leaves the entity whole too. -/
theorem giveBack_lineBreak {raw entity sep : ByteArray} {start : Nat} {w : List UInt8}
    (entityAt : raw.data.toList.drop start = entity.data.toList ++ (sep.data.toList ++ w))
    (lineBreak : sep.data.toList = [13, 10] ∨ sep.data.toList = [10] ∧ entity.data.toList.getLast? ≠ some 13) :
    giveBack raw start (giveBack raw start (start + entity.size + sep.data.toList.length) 10) 13 =
      start + entity.size := by
  have breakAt := Bytes.drop_add_of_drop entityAt
  rw [Bytes.length_toList] at breakAt
  rcases lineBreak with sepIs | ⟨sepIs, noCrEnd⟩
  · -- CR LF: one step gives back the line feed, the next the carriage return
    rw [sepIs, List.cons_append, List.cons_append, List.nil_append] at breakAt
    have lf := (Bytes.get!_of_drop (Bytes.drop_succ_of_drop breakAt)).2
    have cr := (Bytes.get!_of_drop breakAt).2
    have lfBack : giveBack raw start (start + entity.size + 2) 10 = start + entity.size + 1 := by
      rw [giveBack, if_pos ⟨by omega, lf⟩]
      omega
    rw [sepIs, List.length_cons, List.length_cons, List.length_nil, lfBack, giveBack, if_pos ⟨by omega, cr⟩,
      Nat.add_sub_cancel]
  · -- LF alone: the carriage return test finds the last byte of the entity, or nothing
    rw [sepIs, List.cons_append, List.nil_append] at breakAt
    have lf := (Bytes.get!_of_drop breakAt).2
    have lfBack : giveBack raw start (start + entity.size + 1) 10 = start + entity.size := by
      rw [giveBack, if_pos ⟨by omega, lf⟩, Nat.add_sub_cancel]
    rw [sepIs, List.length_singleton, lfBack, giveBack]
    rcases Nat.eq_zero_or_pos entity.size with empty | some
    · rw [if_neg (by omega)]
    · have last : raw.get! (start + entity.size - 1) ≠ 13 := by
        rw [show start + entity.size - 1 = start + (entity.size - 1) by omega,
          Bytes.get!_of_drop_append entityAt (by simp; omega)]
        intro isCr
        apply noCrEnd
        rw [List.getLast?_eq_getElem?, Bytes.length_toList, List.getElem?_eq_getElem (by simp; omega), isCr]
      rw [if_neg (fun both => last both.2)]

/-- A body laid out as RFC 3156 describes gives back its signed entity: text `pre` that is empty
or ends a line and in which no line opens with the delimiter, the first delimiter line (the
delimiter and the rest of its line), the entity, in which no line opens with the delimiter
either, the line break of the second delimiter (CR LF, or LF after an entity that does not end
in CR), the second delimiter and anything after it. -/
theorem signedEntity_layout {boundary : String} (noLf : (10 : UInt8) ∉ boundary.toUTF8.data.toList)
    (noCr : (13 : UInt8) ∉ boundary.toUTF8.data.toList) {pre rest entity sep tail : ByteArray}
    (preEnds : pre.size = 0 ∨ pre.data.toList.getLast? = some 10)
    (preFree : ∀ i, ¬ OpensLine pre (delimiter boundary.toUTF8) i)
    (restLine : (10 : UInt8) ∉ rest.data.toList)
    (entityFree : ∀ i, ¬ OpensLine entity (delimiter boundary.toUTF8) i)
    (lineBreak : sep.data.toList = [13, 10] ∨ sep.data.toList = [10] ∧ entity.data.toList.getLast? ≠ some 13) :
    signedEntity (pre ++ delimiter boundary.toUTF8 ++ rest ++ ByteArray.mk #[10] ++ entity ++ sep ++
      delimiter boundary.toUTF8 ++ tail) boundary = some entity := by
  have dList := delimiter_toList boundary.toUTF8
  have nonempty : 0 < (delimiter boundary.toUTF8).size := by
    rw [← Bytes.length_toList, dList]; simp
  have dNoLf := not_mem_delimiter (by decide) noLf
  have dNoCr := not_mem_delimiter (by decide) noCr
  have layout : (pre ++ delimiter boundary.toUTF8 ++ rest ++ ByteArray.mk #[10] ++ entity ++ sep ++
      delimiter boundary.toUTF8 ++ tail).data.toList = pre.data.toList ++
        ((delimiter boundary.toUTF8).data.toList ++ (rest.data.toList ++ 10 :: (entity.data.toList ++
          (sep.data.toList ++ ((delimiter boundary.toUTF8).data.toList ++ tail.data.toList))))) := by
    simp [ByteArray.data_append, Array.toList_append]
  generalize pre ++ delimiter boundary.toUTF8 ++ rest ++ ByteArray.mk #[10] ++ entity ++ sep ++
    delimiter boundary.toUTF8 ++ tail = raw at layout ⊢
  -- the first delimiter line opens right after `pre`
  have first := findDelimiter_after_pre nonempty dNoLf layout preEnds preFree
  -- the first delimiter line ends at the first line feed after it
  have ends : Bytes.indexOfFrom raw 10 pre.size =
      some (pre.size + ((delimiter boundary.toUTF8).data.toList ++ rest.data.toList).length) := by
    refine Bytes.indexOfFrom_of_drop (w := entity.data.toList ++ (sep.data.toList ++
      ((delimiter boundary.toUTF8).data.toList ++ tail.data.toList))) ?_ ?_
    · rw [layout, List.drop_left' (Bytes.length_toList pre), List.append_assoc]
    · rw [List.mem_append, not_or]
      exact ⟨dNoLf, restLine⟩
  -- the entity starts after that line feed and runs to the next delimiter line
  have entityAt : raw.data.toList.drop (pre.size + ((delimiter boundary.toUTF8).data.toList ++
      rest.data.toList).length + 1) = entity.data.toList ++ (sep.data.toList ++
        ((delimiter boundary.toUTF8).data.toList ++ tail.data.toList)) := by
    have shape : raw.data.toList = (pre.data.toList ++ ((delimiter boundary.toUTF8).data.toList ++
        (rest.data.toList ++ [10]))) ++ (entity.data.toList ++ (sep.data.toList ++
          ((delimiter boundary.toUTF8).data.toList ++ tail.data.toList))) := by
      rw [layout]
      simp only [List.append_assoc, List.singleton_append]
    rw [shape, List.drop_left']
    simp only [List.length_append, List.length_singleton, Bytes.length_toList]
    omega
  have sizes : raw.size = pre.size + ((delimiter boundary.toUTF8).data.toList ++ rest.data.toList).length + 1 +
      (entity.data.toList ++ (sep.data.toList ++ ((delimiter boundary.toUTF8).data.toList ++ tail.data.toList))).length := by
    rw [← Bytes.length_toList raw, layout]
    simp only [List.length_append, List.length_cons, Bytes.length_toList]
    omega
  have apart : ∀ y ∈ sep.data.toList, y ∉ (delimiter boundary.toUTF8).data.toList := by
    intro y member
    rcases lineBreak with sepIs | ⟨sepIs, -⟩ <;> rw [sepIs] at member <;>
      simp only [List.mem_cons, List.not_mem_nil, or_false] at member
    · rcases member with rfl | rfl
      · exact dNoCr
      · exact dNoLf
    · rw [member]
      exact dNoLf
  have second := findDelimiter_after_entity nonempty (by omega) entityAt
    (by rcases lineBreak with sepIs | ⟨sepIs, -⟩ <;> rw [sepIs] <;> rfl) apart entityFree
  simp only [signedEntity, first, ends, second, Option.bind_eq_bind, Option.bind_some]
  generalize pre.size + ((delimiter boundary.toUTF8).data.toList ++ rest.data.toList).length + 1 = start
    at entityAt sizes ⊢
  -- the entity is the bytes from `start` up to the line break, which both steps give back
  have taken : raw.extract start (start + entity.size) = entity := by
    apply Bytes.eq_of_toList
    rw [Bytes.toList_extract, entityAt, Nat.add_sub_cancel_left, ← Bytes.length_toList entity, List.take_left]
  simp only [giveBack_eq]
  rw [giveBack_lineBreak entityAt lineBreak, taken]
  rfl

/-! ## When there is no entity -/

/-- The first line that opens with the delimiter. -/
def FirstOpening (t delim : ByteArray) (i : Nat) : Prop :=
  OpensLine t delim i ∧ ∀ k, k < i → ¬ OpensLine t delim k

theorem FirstOpening.unique {t delim : ByteArray} {i j : Nat} (first : FirstOpening t delim i)
    (other : FirstOpening t delim j) : i = j := by
  by_contra apart
  rcases Nat.lt_or_gt_of_ne apart with before | after
  · exact other.2 i before first.1
  · exact first.2 j after other.1

/-- A line that opens after the first one starts after the line feed that ends the first one. -/
theorem OpensLine.after_lineEnd {raw delim : ByteArray} {first lineEnd k : Nat}
    (ends : Bytes.indexOfFrom raw 10 first = some lineEnd) (later : first < k) (opens : OpensLine raw delim k) :
    lineEnd + 1 ≤ k := by
  obtain ⟨lo, hi, -, before⟩ := Bytes.indexOfFrom_eq_some_iff.mp ends
  rcases opens.1 with zero | lf
  · omega
  · by_contra early
    have inside : k - 1 < raw.size := by omega
    exact before (k - 1) (by omega) (by omega) ((Bytes.get!_eq_iff inside).mpr lf)

/-- There is no signed entity exactly when no line opens with the delimiter, or the first such
line has no line feed after it, or no line after it opens with the delimiter. -/
theorem signedEntity_eq_none_iff {raw : ByteArray} {boundary : String} :
    signedEntity raw boundary = none ↔
      (∀ i, ¬ OpensLine raw (delimiter boundary.toUTF8) i) ∨
      (∃ i, FirstOpening raw (delimiter boundary.toUTF8) i ∧ (10 : UInt8) ∉ raw.data.toList.drop i) ∨
      (∃ i, FirstOpening raw (delimiter boundary.toUTF8) i ∧
        ∀ k, i < k → ¬ OpensLine raw (delimiter boundary.toUTF8) k) := by
  have nonempty : 0 < (delimiter boundary.toUTF8).size := by
    rw [← Bytes.length_toList, delimiter_toList]; simp
  cases found : findDelimiter raw (delimiter boundary.toUTF8) 0 with
  | none =>
    -- no line opens with the delimiter at all
    simp only [signedEntity, found, Option.bind_eq_bind, Option.bind_none, true_iff]
    exact .inl fun i => (findDelimiter_eq_none_iff nonempty).mp found i (Nat.zero_le i)
  | some first =>
    obtain ⟨-, opens, before⟩ := (findDelimiter_eq_some_iff nonempty).mp found
    have isFirst : FirstOpening raw (delimiter boundary.toUTF8) first :=
      ⟨opens, fun k early => before k (Nat.zero_le k) early⟩
    have notNone : ¬ ∀ i, ¬ OpensLine raw (delimiter boundary.toUTF8) i := fun none => none first opens
    cases ends : Bytes.indexOfFrom raw 10 first with
    | none =>
      -- the first delimiter line never ends
      simp only [signedEntity, found, ends, Option.bind_eq_bind, Option.bind_some, Option.bind_none, true_iff]
      exact .inr (.inl ⟨first, isFirst, Bytes.indexOfFrom_eq_none_iff.mp ends⟩)
    | some lineEnd =>
      obtain ⟨lo, hi, lf, -⟩ := Bytes.indexOfFrom_eq_some_iff.mp ends
      have fed : (10 : UInt8) ∈ raw.data.toList.drop first := Bytes.mem_drop_iff.mpr ⟨lineEnd, lo, hi, lf⟩
      cases again : findDelimiter raw (delimiter boundary.toUTF8) (lineEnd + 1) with
      | none =>
        -- no line after the first delimiter line opens with the delimiter
        simp only [signedEntity, found, ends, again, Option.bind_eq_bind, Option.bind_some, Option.bind_none,
          true_iff]
        refine .inr (.inr ⟨first, isFirst, fun k later opensK => ?_⟩)
        exact (findDelimiter_eq_none_iff nonempty).mp again k (opensK.after_lineEnd ends later) opensK
      | some next =>
        -- a second delimiter line follows: there is an entity, and none of the three cases holds
        obtain ⟨after, opensNext, -⟩ := (findDelimiter_eq_some_iff nonempty).mp again
        simp only [signedEntity, found, ends, again, Option.bind_eq_bind, Option.bind_some, reduceCtorEq,
          false_iff, not_or, not_exists, not_and]
        refine ⟨notNone, fun i other => ?_, fun i other => ?_⟩
        · rw [← isFirst.unique other]
          exact fun absent => absent fed
        · rw [← isFirst.unique other]
          exact fun none => none next (by omega) opensNext

/-! ## The signed entity, exactly -/

/-- A body laid out as RFC 3156 describes gives back its signed entity, and a body gives none
exactly when no line opens with the delimiter, or the first such line does not end, or no later
line opens with it. -/
theorem signedEntity_exact {boundary : String} (noLf : (10 : UInt8) ∉ boundary.toUTF8.data.toList)
    (noCr : (13 : UInt8) ∉ boundary.toUTF8.data.toList) {pre rest entity sep tail : ByteArray}
    (preEnds : pre.size = 0 ∨ pre.data.toList.getLast? = some 10)
    (preFree : ∀ i, ¬ OpensLine pre (delimiter boundary.toUTF8) i)
    (restLine : (10 : UInt8) ∉ rest.data.toList)
    (entityFree : ∀ i, ¬ OpensLine entity (delimiter boundary.toUTF8) i)
    (lineBreak : sep.data.toList = [13, 10] ∨ sep.data.toList = [10] ∧ entity.data.toList.getLast? ≠ some 13) :
    signedEntity (pre ++ delimiter boundary.toUTF8 ++ rest ++ ByteArray.mk #[10] ++ entity ++ sep ++
      delimiter boundary.toUTF8 ++ tail) boundary = some entity ∧
    ∀ raw, signedEntity raw boundary = none ↔
      (∀ i, ¬ OpensLine raw (delimiter boundary.toUTF8) i) ∨
      (∃ i, FirstOpening raw (delimiter boundary.toUTF8) i ∧ (10 : UInt8) ∉ raw.data.toList.drop i) ∨
      (∃ i, FirstOpening raw (delimiter boundary.toUTF8) i ∧
        ∀ k, i < k → ¬ OpensLine raw (delimiter boundary.toUTF8) k) :=
  ⟨signedEntity_layout noLf noCr preEnds preFree restLine entityFree lineBreak, fun _ => signedEntity_eq_none_iff⟩

/-- The signed part of a body with a preamble, CR LF line breaks and a signature part. -/
theorem preamble_body_gives_signed_part :
    signedEntity ("preamble\r\n".toUTF8 ++ delimiter "xyz".toUTF8 ++ "\r".toUTF8 ++ ByteArray.mk #[10] ++
      "Content-Type: text/plain\r\n\r\nbody".toUTF8 ++ "\r\n".toUTF8 ++ delimiter "xyz".toUTF8 ++
      "\r\nsig\r\n--xyz--\r\n".toUTF8) "xyz" = some "Content-Type: text/plain\r\n\r\nbody".toUTF8 :=
  (signedEntity_exact (by decide) (by decide) (.inr (by decide))
    (not_opensLine_of_bounded (by decide) (by decide)) (by decide)
    (not_opensLine_of_bounded (by decide) (by decide)) (.inl (by decide))).1

end Mime

end SealedMail
