import Mathlib
import SealedMail.Bytes.Basic

/-! # Byte strings

The library reads and writes byte strings position by position (`get!`, `[i]?`), through
folds (`ByteArray.foldl`, `ByteArray.toList`) and through big-endian numbers (`toNatBE`,
`ofNatBE`). The lemmas here turn all of these into statements about the list of bytes, so
that reading a written form back reduces to list and arithmetic facts: a byte read at an
offset into a concatenation is a byte of the part it falls in, the folds are list folds, and
a number written to `w` bytes reads back modulo `256 ^ w`.
-/

namespace SealedMail

namespace Bytes

/-! ## Bytes by position -/

@[simp] theorem size_singleton (x : UInt8) : (ByteArray.mk #[x]).size = 1 := rfl

@[simp] theorem size_pair (x y : UInt8) : (ByteArray.mk #[x, y]).size = 2 := rfl

theorem get!_eq_getElem {b : ByteArray} {i : Nat} (h : i < b.size) : b.get! i = b[i] := by
  obtain ⟨data⟩ := b
  simp only [ByteArray.get!, ByteArray.getElem_eq_getElem_data]
  exact getElem!_pos data i h

/-- Past the end a byte reads as zero. -/
theorem get!_of_size_le {b : ByteArray} {i : Nat} (h : b.size ≤ i) : b.get! i = 0 := by
  obtain ⟨data⟩ := b
  have outside : ¬ i < data.size := by simp only [ByteArray.size] at h; omega
  simp only [ByteArray.get!]
  exact getElem!_neg data i outside

theorem get!_toByteArray {l : List UInt8} {i : Nat} (h : i < l.length) :
    l.toByteArray.get! i = l[i] := by
  rw [get!_eq_getElem (by simpa using h), List.getElem_toByteArray]

theorem getElem?_toByteArray (l : List UInt8) (i : Nat) : l.toByteArray[i]? = l[i]? := by
  simp [getElem?_def]

theorem get!_append_left {a b : ByteArray} {i : Nat} (h : i < a.size) : (a ++ b).get! i = a.get! i := by
  rw [get!_eq_getElem h, get!_eq_getElem (by simp [ByteArray.size_append]; omega),
    ByteArray.getElem_append_left h]

theorem get!_append_right {a b : ByteArray} {i : Nat} (h : a.size ≤ i) (lt : i < (a ++ b).size) :
    (a ++ b).get! i = b.get! (i - a.size) := by
  rw [ByteArray.size_append] at lt
  rw [get!_eq_getElem (by simp [ByteArray.size_append]; omega), get!_eq_getElem (by omega),
    ByteArray.getElem_append_right h]

/-- A byte read past a prefix is the byte of what follows it, inside or past its end. -/
theorem get!_append_size_add (a b : ByteArray) (j : Nat) : (a ++ b).get! (a.size + j) = b.get! j := by
  by_cases inside : j < b.size
  · rw [get!_append_right (by omega) (by simp [ByteArray.size_append]; omega), Nat.add_sub_cancel_left]
  · rw [get!_of_size_le (by simp [ByteArray.size_append]; omega), get!_of_size_le (by omega)]

theorem getElem?_append_size_add (a b : ByteArray) (j : Nat) : (a ++ b)[a.size + j]? = b[j]? := by
  by_cases inside : j < b.size
  · rw [getElem?_pos (a ++ b) (a.size + j) (by simp [ByteArray.size_append]; omega),
      getElem?_pos b j inside, ByteArray.getElem_append_right (by omega)]
    simp
  · rw [getElem?_neg (a ++ b) (a.size + j) (by simp [ByteArray.size_append]; omega),
      getElem?_neg b j inside]

theorem getElem?_append_left {a b : ByteArray} {i : Nat} (h : i < a.size) : (a ++ b)[i]? = a[i]? := by
  rw [getElem?_pos (a ++ b) i (by simp [ByteArray.size_append]; omega), getElem?_pos a i h,
    ByteArray.getElem_append_left h]

/-- A range that ends inside the first part is a range of the first part. -/
theorem extract_append_of_le {a b : ByteArray} {i j : Nat} (h : j ≤ a.size) :
    (a ++ b).extract i j = a.extract i j := by
  have rest : b.extract (i - a.size) 0 = ByteArray.empty :=
    ByteArray.extract_eq_empty_iff.mpr (by omega)
  rw [ByteArray.extract_append, show j - a.size = 0 by omega, rest, ByteArray.append_empty]

/-- The middle part of a concatenation, taken by its place. -/
theorem extract_middle (a b c : ByteArray) : (a ++ (b ++ c)).extract a.size (a.size + b.size) = b := by
  have shifted := @ByteArray.extract_append_size_add a (b ++ c) 0 b.size
  rw [Nat.add_zero] at shifted
  rw [shifted, extract_append_of_le (Nat.le_refl _), ByteArray.extract_zero_size]

/-! ## Folds over the bytes -/

/-- The bytes in order, as the folds see them. -/
theorem toList_eq (b : ByteArray) : b.toList = b.data.toList := by
  -- the loop conses byte `i` for every `i` from its start on and reverses at the end
  have loop : ∀ (k i : Nat) (r : List UInt8), b.size - i = k →
      ByteArray.toList.loop b i r = r.reverse ++ b.data.toList.drop i := by
    intro k
    induction k with
    | zero =>
      intro i r done
      rw [ByteArray.toList.loop, if_neg (by omega)]
      simp [List.drop_eq_nil_of_le (show b.data.toList.length ≤ i by simp; omega)]
    | succ k ih =>
      intro i r left
      rw [ByteArray.toList.loop, if_pos (by omega), ih (i + 1) _ (by omega)]
      have inside : i < b.data.toList.length := by simp; omega
      rw [List.drop_eq_getElem_cons inside, get!_eq_getElem (by omega)]
      simp [ByteArray.getElem_eq_getElem_data]
  show ByteArray.toList.loop b 0 [] = _
  simpa using loop b.size 0 [] (by omega)

theorem foldl_eq {β : Type} (f : β → UInt8 → β) (init : β) (b : ByteArray) :
    b.foldl f init = b.data.toList.foldl f init := by
  -- the loop runs `i` more steps from position `j`, and `j + i` is the size
  have loop : ∀ (i j : Nat) (acc : β), j + i = b.size →
      ByteArray.foldlM.loop (m := Id) (fun x y => pure (f x y)) b b.size (Nat.le_refl _) i j acc =
        (b.data.toList.drop j).foldl f acc := by
    intro i
    induction i with
    | zero =>
      intro j acc done
      rw [ByteArray.foldlM.loop]
      split <;> (rw [List.drop_eq_nil_of_le (by simp; omega)]; rfl)
    | succ i ih =>
      intro j acc left
      have inside : j < b.size := by omega
      have step : ByteArray.foldlM.loop (m := Id) (fun x y => pure (f x y)) b b.size (Nat.le_refl _)
          (i + 1) j acc = ByteArray.foldlM.loop (m := Id) (fun x y => pure (f x y)) b b.size
            (Nat.le_refl _) i (j + 1) (f acc b[j]) := by
        rw [ByteArray.foldlM.loop, dif_pos inside]
        rfl
      rw [step, ih (j + 1) _ (by omega),
        List.drop_eq_getElem_cons (show j < b.data.toList.length by simp; omega), List.foldl_cons]
      simp [ByteArray.getElem_eq_getElem_data]
  simp only [ByteArray.foldl, ByteArray.foldlM, Id.run, dif_pos (Nat.le_refl b.size)]
  simpa using loop b.size 0 init (by omega)

/-- A loop over the bytes that never stops early is a fold over them. -/
theorem forIn_yield {β : Type} (f : UInt8 → β → β) (init : β) (b : ByteArray) :
    forIn (m := Id) b init (fun x s => ForInStep.yield (f x s)) =
      b.data.toList.foldl (fun s x => f x s) init := by
  -- the loop counts `i` down to zero and reads byte `size - i` on the way
  have loop : ∀ (i : Nat) (h : i ≤ b.size) (acc : β),
      ByteArray.forIn.loop (m := Id) b (fun x s => ForInStep.yield (f x s)) i h acc =
        (b.data.toList.drop (b.size - i)).foldl (fun s x => f x s) acc := by
    intro i
    induction i with
    | zero =>
      intro h acc
      simp [ByteArray.forIn.loop, List.drop_of_length_le]
      rfl
    | succ i ih =>
      intro h acc
      rw [ByteArray.forIn.loop]
      show ByteArray.forIn.loop b _ i _ (f b[b.size - 1 - i] acc) = _
      have inside : b.size - (i + 1) < b.data.toList.length := by simp; omega
      have next : b.size - (i + 1) + 1 = b.size - i := by omega
      have index : b.size - 1 - i = b.size - (i + 1) := by omega
      rw [ih, List.drop_eq_getElem_cons inside, List.foldl_cons, next]
      simp only [index, ByteArray.getElem_eq_getElem_data, Array.getElem_toList]
  show ByteArray.forIn.loop b _ b.size _ init = _
  rw [loop, Nat.sub_self, List.drop_zero]

/-! ## Byte strings built from lists -/

theorem emptyWithCapacity_eq (n : Nat) : ByteArray.emptyWithCapacity n = ByteArray.empty := rfl

theorem toByteArray_data_toList (l : List UInt8) : l.toByteArray.data.toList = l := by
  simp [List.data_toByteArray]

/-- Pushing a byte and then appending a list is appending the list with the byte in front. -/
theorem push_append_toByteArray (out : ByteArray) (x : UInt8) (l : List UInt8) :
    out.push x ++ l.toByteArray = out ++ (x :: l).toByteArray := by
  rw [← ByteArray.append_toByteArray_singleton, ByteArray.append_assoc, ← List.toByteArray_append]
  rfl

/-- The bytes from a position inside the array on: the byte there, then the bytes after it. -/
theorem drop_eq_get!_cons {data : ByteArray} {i : Nat} (inside : i < data.size) :
    data.data.toList.drop i = data.get! i :: data.data.toList.drop (i + 1) := by
  rw [List.drop_eq_getElem_cons (by simpa using inside), get!_eq_getElem inside]
  simp [ByteArray.getElem_eq_getElem_data]

/-- The last byte after appending an array's bytes: the array's last byte, unless it is empty. -/
theorem getLastD_append_data (seen : List UInt8) (data : ByteArray) (d : UInt8) :
    (seen ++ data.data.toList).getLastD d =
      if data.size = 0 then seen.getLastD d else data.get! (data.size - 1) := by
  by_cases empty : data.size = 0
  · have none : data.data.toList = [] := List.eq_nil_of_length_eq_zero (by simpa using empty)
    simp [empty, none]
  · have inside : data.size - 1 < data.data.size := by simp only [ByteArray.size_data]; omega
    rw [if_neg empty, get!_eq_getElem (by omega), List.getLastD_eq_getLast?, List.getLast?_append,
      List.getLast?_eq_getElem?]
    simp [ByteArray.getElem_eq_getElem_data, Array.getElem?_eq_getElem inside]

/-! ## Concatenation -/

@[simp] theorem concat_nil : concat [] = ByteArray.empty := rfl

theorem concat_cons (x : ByteArray) (xs : List ByteArray) : concat (x :: xs) = x ++ concat xs := by
  -- a fold of appends from any start is that start followed by the fold from empty
  have shift : ∀ (start : ByteArray) (ys : List ByteArray),
      ys.foldl (· ++ ·) start = start ++ ys.foldl (· ++ ·) ByteArray.empty := by
    intro start ys
    induction ys generalizing start with
    | nil => simp [ByteArray.append_empty]
    | cons y ys ih =>
      simp only [List.foldl_cons]
      rw [ih, ih (ByteArray.empty ++ y), ByteArray.empty_append, ByteArray.append_assoc]
  simp only [concat, List.foldl_cons, ByteArray.empty_append]
  exact shift x xs

theorem concat_append (xs ys : List ByteArray) : concat (xs ++ ys) = concat xs ++ concat ys := by
  induction xs with
  | nil => simp [ByteArray.empty_append]
  | cons x xs ih => rw [List.cons_append, concat_cons, concat_cons, ih, ByteArray.append_assoc]

theorem size_concat (xs : List ByteArray) : (concat xs).size = (xs.map ByteArray.size).sum := by
  induction xs with
  | nil => rfl
  | cons x xs ih => simp [concat_cons, ByteArray.size_append, ih]

/-! ## Equality test -/

@[simp] theorem equal_iff {a b : ByteArray} : equal a b = true ↔ a = b := by
  simp [equal, ByteArray.ext_iff]

/-! ## Big-endian numbers -/

theorem toNatBE_eq (b : ByteArray) :
    toNatBE b = b.data.toList.foldl (fun acc x => acc * 256 + x.toNat) 0 := by
  rw [toNatBE, foldl_eq]

@[simp] theorem size_ofNatBE (n w : Nat) : (ofNatBE n w).size = w := by
  simp [ofNatBE, ByteArray.size]

theorem foldl_digits (acc : Nat) (l : List UInt8) :
    l.foldl (fun a x => a * 256 + x.toNat) acc =
      acc * 256 ^ l.length + l.foldl (fun a x => a * 256 + x.toNat) 0 := by
  induction l generalizing acc with
  | nil => simp
  | cons x l ih =>
    simp only [List.foldl_cons, List.length_cons]
    rw [ih, ih (0 * 256 + x.toNat)]
    ring

theorem toNatBE_append (a b : ByteArray) : toNatBE (a ++ b) = toNatBE a * 256 ^ b.size + toNatBE b := by
  rw [toNatBE_eq, toNatBE_eq, toNatBE_eq, ByteArray.data_append, Array.toList_append, List.foldl_append,
    foldl_digits, Array.length_toList]
  rfl

/-- The number a byte string denotes fits in as many bytes. -/
theorem toNatBE_lt (b : ByteArray) : toNatBE b < 256 ^ b.size := by
  rw [toNatBE_eq]
  have bound : ∀ l : List UInt8, l.foldl (fun a x => a * 256 + x.toNat) 0 < 256 ^ l.length := by
    intro l
    induction l using List.reverseRecOn with
    | nil => simp
    | append_singleton l x ih =>
      rw [List.foldl_append, List.length_append, List.length_singleton, pow_succ]
      simp only [List.foldl_cons, List.foldl_nil]
      have := x.toNat_lt
      nlinarith
  have := bound b.data.toList
  rwa [Array.length_toList] at this

theorem ofNatBE_succ (n w : Nat) :
    ofNatBE n (w + 1) = ByteArray.mk #[((n >>> (8 * w)) % 256).toUInt8] ++ ofNatBE n w := by
  apply ByteArray.ext
  simp [ofNatBE, List.range_succ]

/-- A number written to `w` bytes reads back modulo `256 ^ w`. -/
theorem toNatBE_ofNatBE (n w : Nat) : toNatBE (ofNatBE n w) = n % 256 ^ w := by
  induction w with
  | zero =>
    rw [Nat.pow_zero, Nat.mod_one]
    rfl
  | succ w ih =>
    rw [ofNatBE_succ, toNatBE_append, ih, size_ofNatBE, toNatBE_eq]
    simp only [List.foldl_cons, List.foldl_nil]
    rw [Nat.shiftRight_eq_div_pow, show 2 ^ (8 * w) = 256 ^ w by rw [pow_mul]; norm_num, Nat.mod_pow_succ]
    simp
    ring

end Bytes

end SealedMail
