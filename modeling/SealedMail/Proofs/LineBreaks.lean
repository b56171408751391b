import Mathlib
import SealedMail.Text.Lines
import SealedMail.Proofs.ByteStrings

/-! # Line endings over lists of bytes

Both line-ending loops are byte loops over arrays with a little state: `canonicalizeFrom`
carries the last byte it read, `normalizeBreaks` the position it reached. Each is equal to a
recursive function over the list of its bytes (`canonicalizeFrom_eq`, `normalizeBreaks_eq`),
and the facts about line endings are proved there.

Canonical form splits at any point once the byte before the split is known
(`canonicalList_append`), which is what lets it be computed chunk by chunk: a normalizer that
carries the last byte of each chunk into the next writes the canonical form of the chunks
joined (`Normalizer.feedAll_eq`). Canonical form is stable, because the CR it writes stands
right before the LF that asked for it (`canonicalList_canonicalList`). Writing every line
break as CR LF changes nothing in a canonical text whose carriage returns all stand before
line feeds (`normalizeBreaks_canonicalize`); a lone carriage return is the one thing the two
forms treat apart.
-/

namespace SealedMail

namespace Lines

/-! ## Canonical form over lists -/

/-- Canonical form of bytes that follow the byte `prev`: a CR before every LF that does not
already follow one. -/
def canonicalList (prev : UInt8) : List UInt8 → List UInt8
  | [] => []
  | b :: rest => (if b = 10 ∧ prev ≠ 13 then [13, b] else [b]) ++ canonicalList b rest

/-- One pass of the canonicalizing loop: the output so far and the last byte read. -/
def canonStep (s : ByteArray × UInt8) (b : UInt8) : ByteArray × UInt8 :=
  if b == 10 && s.2 != 13 then ((s.1.push 13).push b, b) else (s.1.push b, b)

theorem canonicalizeFrom_eq_foldl (prev : UInt8) (data : ByteArray) :
    canonicalizeFrom prev data =
      (data.data.toList.foldl canonStep (ByteArray.emptyWithCapacity (data.size + data.size / 32), prev)).1 := by
  unfold canonicalizeFrom
  simp only [Id.run]
  have body : (fun b (s : ByteArray × UInt8) =>
      if (b == 10 && s.2 != 13) = true then (pure (ForInStep.yield ((s.1.push 13).push b, b)) : Id _)
      else pure (ForInStep.yield (s.1.push b, b))) = fun b s => ForInStep.yield (canonStep s b) := by
    funext b s
    unfold canonStep
    split <;> rfl
  rw [body, Bytes.forIn_yield]
  rfl

theorem foldl_canonStep (prev : UInt8) (l : List UInt8) (out : ByteArray) :
    l.foldl canonStep (out, prev) = (out ++ (canonicalList prev l).toByteArray, l.getLastD prev) := by
  induction l generalizing out prev with
  | nil => simp [canonicalList]
  | cons b rest ih =>
    rw [List.foldl_cons, List.getLastD_cons]
    by_cases bare : b = 10 ∧ prev ≠ 13
    · have step : canonStep (out, prev) b = ((out.push 13).push b, b) := by
        simp [canonStep, bare.1, bare.2]
      rw [step, ih, Bytes.push_append_toByteArray, Bytes.push_append_toByteArray]
      simp [canonicalList, bare]
    · have step : canonStep (out, prev) b = (out.push b, b) := by
        simp only [canonStep]
        rw [if_neg]
        simpa using bare
      rw [step, ih, Bytes.push_append_toByteArray]
      simp [canonicalList, bare]

/-- The canonicalizing loop writes the canonical form of the list of its bytes. -/
theorem canonicalizeFrom_eq (prev : UInt8) (data : ByteArray) :
    canonicalizeFrom prev data = (canonicalList prev data.data.toList).toByteArray := by
  rw [canonicalizeFrom_eq_foldl, foldl_canonStep, Bytes.emptyWithCapacity_eq, ByteArray.empty_append]

/-- Canonical form splits anywhere: the second part follows the last byte of the first. -/
theorem canonicalList_append (prev : UInt8) (a b : List UInt8) :
    canonicalList prev (a ++ b) = canonicalList prev a ++ canonicalList (a.getLastD prev) b := by
  induction a generalizing prev with
  | nil => simp [canonicalList]
  | cons x rest ih => simp only [List.cons_append, canonicalList, ih, List.getLastD_cons, List.append_assoc]

/-- Canonical form of a byte array: that of its bytes, with nothing before them. -/
theorem canonicalize_eq (data : ByteArray) :
    canonicalize data = (canonicalList 0 data.data.toList).toByteArray :=
  canonicalizeFrom_eq 0 data

/-- A bare LF is written after an inserted CR. -/
theorem canonicalList_bare_lf {prev : UInt8} (notCr : prev ≠ 13) (rest : List UInt8) :
    canonicalList prev (10 :: rest) = 13 :: 10 :: canonicalList 10 rest := by
  simp [canonicalList, notCr]

/-- Any other byte is written as it is. -/
theorem canonicalList_kept {prev b : UInt8} (kept : ¬(b = 10 ∧ prev ≠ 13)) (rest : List UInt8) :
    canonicalList prev (b :: rest) = b :: canonicalList b rest := by
  rw [canonicalList, if_neg kept]
  rfl

/-- Canonical form is stable: a CR it writes stands right before its LF, so a second pass
inserts nothing. -/
theorem canonicalList_canonicalList (prev : UInt8) (l : List UInt8) :
    canonicalList prev (canonicalList prev l) = canonicalList prev l := by
  induction l generalizing prev with
  | nil => rfl
  | cons b rest ih =>
    by_cases bare : b = 10 ∧ prev ≠ 13
    · -- the second pass keeps the inserted CR, and the LF now follows it
      obtain ⟨rfl, notCr⟩ := bare
      rw [canonicalList_bare_lf notCr, canonicalList_kept (by simp), canonicalList_kept (by simp), ih]
    · rw [canonicalList_kept bare, canonicalList_kept bare, ih]

/-- In canonical form every LF has a CR right before it, counting `prev` as the byte before
the first. -/
theorem canonicalList_cr_before_lf (prev : UInt8) (l : List UInt8) :
    ∀ i : Nat, (canonicalList prev l)[i]? = some 10 → (prev :: canonicalList prev l)[i]? = some 13 := by
  induction l generalizing prev with
  | nil => simp [canonicalList]
  | cons b rest ih =>
    intro i lf
    by_cases bare : b = 10 ∧ prev ≠ 13
    · obtain ⟨rfl, notCr⟩ := bare
      rw [canonicalList_bare_lf notCr] at lf ⊢
      -- the inserted CR, the LF after it, or a byte of the rest after that LF
      rcases i with _ | _ | i
      · simp at lf
      · rfl
      · simpa using ih 10 i (by simpa using lf)
    · rw [canonicalList_kept bare] at lf ⊢
      cases i with
      | zero =>
        -- an LF left as it is follows a CR already
        have lfFirst : b = 10 := by simpa using lf
        simp only [lfFirst, ne_eq, true_and, not_not] at bare
        simp [bare]
      | succ i => simpa using ih b i (by simpa using lf)

/-! ## Canonical form chunk by chunk -/

namespace Normalizer

/-- Chunks fed one after another, the canonical bytes of each appended to `out`. -/
def feedAll (n : Normalizer) (out : ByteArray) : List ByteArray → ByteArray × Normalizer
  | [] => (out, n)
  | chunk :: rest => (n.feed chunk).2.feedAll (out ++ (n.feed chunk).1) rest

/-- A chunk gives its canonical form after the byte last seen, and leaves its own last byte. -/
theorem feed_eq (n : Normalizer) (chunk : ByteArray) :
    n.feed chunk = ((canonicalList n.last chunk.data.toList).toByteArray,
      ⟨chunk.data.toList.getLastD n.last⟩) := by
  have last := Bytes.getLastD_append_data [] chunk n.last
  rw [List.nil_append, List.getLastD_nil] at last
  rw [feed, canonicalizeFrom_eq, last]

/-- Chunks fed in order add the canonical form of the chunks joined, after the byte last seen;
the last byte is the one state carried from chunk to chunk. -/
theorem feedAll_eq (n : Normalizer) (out : ByteArray) (chunks : List ByteArray) :
    n.feedAll out chunks = (out ++ (canonicalList n.last (Bytes.concat chunks).data.toList).toByteArray,
      ⟨(Bytes.concat chunks).data.toList.getLastD n.last⟩) := by
  induction chunks generalizing n out with
  | nil => simp [feedAll, canonicalList]
  | cons chunk rest ih =>
    rw [feedAll, ih, feed_eq, Bytes.concat_cons, ByteArray.data_append, Array.toList_append,
      canonicalList_append, List.toByteArray_append, ByteArray.append_assoc]
    simp [List.getLastD_eq_getLast?, List.getLast?_append]

/-- A CR that ends one chunk covers the LF that starts the next. -/
example : (({} : Normalizer).feedAll ByteArray.empty [⟨#[111, 110, 101, 13]⟩, ⟨#[10, 116, 119, 111, 10]⟩]).1 =
    ⟨#[111, 110, 101, 13, 10, 116, 119, 111, 13, 10]⟩ := by
  decide

end Normalizer

/-- A fresh normalizer fed any chunks appends the canonical form of the chunks joined, wherever
they are cut, a CR LF pair split between two chunks included. Canonical form is stable, and in
it every LF has a CR right before it. -/
theorem canonical_form_streams_and_is_stable :
    (∀ (chunks : List ByteArray) (out : ByteArray),
      (({} : Normalizer).feedAll out chunks).1 = out ++ canonicalize (Bytes.concat chunks)) ∧
    (∀ data : ByteArray, canonicalize (canonicalize data) = canonicalize data) ∧
    (∀ (data : ByteArray) (i : Nat), (canonicalize data)[i]? = some 10 →
      ∃ j, i = j + 1 ∧ (canonicalize data)[j]? = some 13) := by
  refine ⟨fun chunks out => ?_, fun data => ?_, fun data i lf => ?_⟩
  · rw [Normalizer.feedAll_eq, canonicalize_eq]
  · rw [canonicalize_eq, canonicalize_eq, Bytes.toByteArray_data_toList, canonicalList_canonicalList]
  · rw [canonicalize_eq, Bytes.getElem?_toByteArray] at lf
    rw [canonicalize_eq]
    have cr := canonicalList_cr_before_lf 0 _ i lf
    -- the byte before the first is the zero byte, no CR, so the LF is not first
    cases i with
    | zero => simp at cr
    | succ j => exact ⟨j, rfl, by simpa [Bytes.getElem?_toByteArray] using cr⟩

/-! ## Line breaks over lists -/

/-- Every line break of a list of bytes written as CR LF: a CR LF pair stays, and a CR or LF
alone becomes the pair. -/
def breaks : List UInt8 → List UInt8
  | [] => []
  | [b] => if b = 13 ∨ b = 10 then [13, 10] else [b]
  | b :: c :: rest =>
    if b = 13 ∧ c = 10 then 13 :: 10 :: breaks rest
    else if b = 13 ∨ b = 10 then 13 :: 10 :: breaks (c :: rest)
    else b :: breaks (c :: rest)

@[simp] theorem breaks_nil : breaks [] = [] := rfl

@[simp] theorem breaks_cr_lf (rest : List UInt8) : breaks (13 :: 10 :: rest) = 13 :: 10 :: breaks rest := by
  simp [breaks]

theorem breaks_cr (rest : List UInt8) (alone : rest.head? ≠ some 10) :
    breaks (13 :: rest) = 13 :: 10 :: breaks rest := by
  cases rest with
  | nil => simp [breaks]
  | cons c rest => simp_all [breaks]

@[simp] theorem breaks_lf (rest : List UInt8) : breaks (10 :: rest) = 13 :: 10 :: breaks rest := by
  cases rest <;> simp [breaks]

theorem breaks_other {b : UInt8} (notCr : b ≠ 13) (notLf : b ≠ 10) (rest : List UInt8) :
    breaks (b :: rest) = b :: breaks rest := by
  cases rest <;> simp [breaks, notCr, notLf]

/-- One pass of the line-break loop: the output so far and the position reached. -/
def breakStep (data : ByteArray) (s : ByteArray × Nat) : ByteArray × Nat :=
  if s.2 < data.size then
    if data.get! s.2 == 13 then
      ((s.1.push 13).push 10, if s.2 + 1 < data.size && data.get! (s.2 + 1) == 10 then s.2 + 2 else s.2 + 1)
    else if data.get! s.2 == 10 then ((s.1.push 13).push 10, s.2 + 1)
    else (s.1.push (data.get! s.2), s.2 + 1)
  else s

theorem normalizeBreaks_eq_foldl (data : ByteArray) :
    normalizeBreaks data = ((List.range' 0 data.size).foldl (fun s _ => breakStep data s)
      (ByteArray.emptyWithCapacity (data.size + data.size / 32), 0)).1 := by
  unfold normalizeBreaks
  have body : (fun (_ : Nat) (s : ByteArray × Nat) =>
      if s.2 < data.size then
        if (data.get! s.2 == 13) = true then
          (pure (ForInStep.yield ((s.1.push 13).push 10,
            if (decide (s.2 + 1 < data.size) && data.get! (s.2 + 1) == 10) = true then s.2 + 2 else s.2 + 1)) : Id _)
        else if (data.get! s.2 == 10) = true then pure (ForInStep.yield ((s.1.push 13).push 10, s.2 + 1))
        else pure (ForInStep.yield (s.1.push (data.get! s.2), s.2 + 1))
      else pure (ForInStep.yield (s.1, s.2))) = fun _ s => pure (ForInStep.yield (breakStep data s)) := by
    funext _ s
    unfold breakStep
    split_ifs <;> rfl
  simp only [Id.run, bind]
  rw [body]
  simp
  rfl

/-- From position `i` on, with passes enough left, the loop appends the line-break form of the
rest of the bytes. -/
theorem foldl_breakStep (data : ByteArray) (n : Nat) :
    ∀ (k i : Nat) (out : ByteArray), data.size - i ≤ n →
      ((List.range' k n).foldl (fun s _ => breakStep data s) (out, i)).1 =
        out ++ (breaks (data.data.toList.drop i)).toByteArray := by
  induction n with
  | zero =>
    intro k i out done
    simp [List.drop_of_length_le (show data.data.toList.length ≤ i by simp; omega)]
  | succ n ih =>
    intro k i out left
    rw [List.range'_succ, List.foldl_cons]
    by_cases inside : i < data.size
    · rw [Bytes.drop_eq_get!_cons inside]
      -- one pass reads a CR LF pair, a lone CR, a lone LF or another byte
      by_cases cr : data.get! i = 13
      · by_cases pair : i + 1 < data.size ∧ data.get! (i + 1) = 10
        · have step : breakStep data (out, i) = ((out.push 13).push 10, i + 2) := by
            simp [breakStep, inside, cr, pair.1, pair.2]
          rw [step, ih (k + 1) (i + 2) _ (by omega), cr, Bytes.drop_eq_get!_cons pair.1, pair.2,
            breaks_cr_lf, Bytes.push_append_toByteArray, Bytes.push_append_toByteArray]
        · have step : breakStep data (out, i) = ((out.push 13).push 10, i + 1) := by
            simp only [not_and] at pair
            simpa [breakStep, inside, cr] using pair
          have alone : (data.data.toList.drop (i + 1)).head? ≠ some 10 := by
            by_cases more : i + 1 < data.size
            · rw [Bytes.drop_eq_get!_cons more]
              simpa using fun lf => pair ⟨more, lf⟩
            · rw [List.drop_of_length_le (by simp; omega)]
              simp
          rw [step, ih (k + 1) (i + 1) _ (by omega), cr, breaks_cr _ alone,
            Bytes.push_append_toByteArray, Bytes.push_append_toByteArray]
      · by_cases lf : data.get! i = 10
        · have step : breakStep data (out, i) = ((out.push 13).push 10, i + 1) := by
            simp [breakStep, inside, lf]
          rw [step, ih (k + 1) (i + 1) _ (by omega), lf, breaks_lf,
            Bytes.push_append_toByteArray, Bytes.push_append_toByteArray]
        · have step : breakStep data (out, i) = (out.push (data.get! i), i + 1) := by
            simp [breakStep, inside, cr, lf]
          rw [step, ih (k + 1) (i + 1) _ (by omega), breaks_other cr lf, Bytes.push_append_toByteArray]
    · have stay : breakStep data (out, i) = (out, i) := by simp [breakStep, inside]
      rw [stay, ih (k + 1) i out (by omega)]

/-- The line-break loop writes the line-break form of the list of its bytes. -/
theorem normalizeBreaks_eq (data : ByteArray) :
    normalizeBreaks data = (breaks data.data.toList).toByteArray := by
  rw [normalizeBreaks_eq_foldl, foldl_breakStep data data.size 0 0 _ (by omega), Bytes.emptyWithCapacity_eq,
    ByteArray.empty_append, List.drop_zero]

/-- Every carriage return of a list of bytes is followed by a line feed. -/
def NoLoneCr (l : List UInt8) : Prop := ∀ i (h : i < l.length), l[i] = 13 → l[i + 1]? = some 10

instance : DecidablePred NoLoneCr := fun l =>
  inferInstanceAs (Decidable (∀ i (h : i < l.length), l[i] = 13 → l[i + 1]? = some 10))

theorem NoLoneCr.tail {b : UInt8} {rest : List UInt8} (paired : NoLoneCr (b :: rest)) : NoLoneCr rest := by
  intro i inside cr
  simpa using paired (i + 1) (by simp; omega) (by simpa using cr)

theorem NoLoneCr.lf_after {rest : List UInt8} (paired : NoLoneCr (13 :: rest)) : rest.head? = some 10 := by
  rw [List.head?_eq_getElem?]
  simpa using paired 0 (by simp) rfl

/-- Bytes whose carriage returns all stand before line feeds have, once canonical, no line break
left to rewrite. -/
theorem breaks_canonicalList (l : List UInt8) :
    ∀ prev : UInt8, prev ≠ 13 → NoLoneCr l → breaks (canonicalList prev l) = canonicalList prev l := by
  -- a CR is taken together with the LF after it, so the induction steps over one byte or two
  induction l using List.twoStepInduction with
  | nil => intro prev _ _; rfl
  | singleton x =>
    intro prev notCr paired
    have alone : x ≠ 13 := by
      rintro rfl
      simpa using paired.lf_after
    by_cases lf : x = 10
    · subst lf
      simp [canonicalList, notCr]
    · simp [canonicalList, lf, breaks_other alone lf]
  | cons_cons x y xs pairs next =>
    intro prev notCr paired
    by_cases cr : x = 13
    · subst cr
      have lf : y = 10 := by simpa using paired.lf_after
      subst lf
      rw [canonicalList_kept (by simp), canonicalList_kept (by simp), breaks_cr_lf,
        pairs 10 (by decide) paired.tail.tail]
    · by_cases lf : x = 10
      · subst lf
        rw [canonicalList_bare_lf notCr, breaks_cr_lf, next y 10 (by decide) paired.tail]
      · rw [canonicalList_kept (fun bare => lf bare.1), breaks_other cr lf, next y x cr paired.tail]

/-- Canonical bytes whose carriage returns all stand before line feeds are fixed by writing
every line break as CR LF. -/
theorem normalizeBreaks_canonicalize {l : List UInt8} (paired : NoLoneCr l) :
    normalizeBreaks (canonicalize l.toByteArray) = canonicalize l.toByteArray := by
  rw [canonicalize_eq, normalizeBreaks_eq, Bytes.toByteArray_data_toList, Bytes.toByteArray_data_toList,
    breaks_canonicalList l 0 (by decide) paired]

end Lines

end SealedMail
