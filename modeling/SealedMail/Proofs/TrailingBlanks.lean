import Mathlib
import SealedMail.Text.Lines

/-! # Trailing blanks

`trimLines` cuts a text at its line feeds, strips the spaces and tabs from the end of each
piece and joins the pieces again. Read one character at a time this is `trimChars`: a blank
goes exactly when the rest of its line, up to the next line feed or the end of the text, is
blank too (`trimLines_toList`). The laws of trimming are then proved of `trimChars`, each by
one induction over the text: every line feed stays, a blank that stays has a character other
than a line feed after it, and trimming twice is trimming once, because trimming keeps whether
a line is blank to its end (`restBlank_trimChars`). The characters that go are exactly the
trailing blanks (`trimChars_eq_filter`). A carriage return is not blank, so it ends no run of
blanks: a line ending in CR LF keeps its blanks.
-/

namespace SealedMail.Lines

/-! ## Blanks and the rest of a line -/

theorem ne_lf_of_isBlank {c : Char} (blank : isBlank c = true) : c ≠ '\n' := by
  rintro rfl
  simp [isBlank] at blank

/-- Whether the rest of a line, up to the next line feed or the end of the text, holds only
spaces and tabs. -/
def restBlank (l : List Char) : Bool := (l.takeWhile (· != '\n')).all isBlank

@[simp] theorem restBlank_nil : restBlank [] = true := rfl

theorem restBlank_cons (c : Char) (l : List Char) :
    restBlank (c :: l) = (c == '\n' || isBlank c && restBlank l) := by
  by_cases lf : c = '\n' <;> simp [restBlank, lf]

/-- After a line with no line feed in it, the rest of a line that starts at a line feed (or
at the end) adds nothing. -/
theorem restBlank_append {x t : List Char} (noLf : '\n' ∉ x) (lineStart : ∀ c ∈ t.head?, c = '\n') :
    restBlank (x ++ t) = x.all isBlank := by
  induction x with
  | nil =>
    cases t with
    | nil => rfl
    | cons c t => simp [restBlank_cons, lineStart c rfl]
  | cons c x ih =>
    have notLf : c ≠ '\n' := fun lf => noLf (lf ▸ List.mem_cons_self ..)
    rw [List.cons_append, restBlank_cons, ih (fun m => noLf (List.mem_cons_of_mem _ m))]
    simp [notLf]

/-- A line that does not end blank starts with a character other than a line feed. -/
theorem exists_cons_of_restBlank_eq_false {l : List Char} (h : restBlank l = false) :
    ∃ c rest, l = c :: rest ∧ c ≠ '\n' := by
  cases l with
  | nil => simp at h
  | cons c rest =>
    refine ⟨c, rest, rfl, fun lf => ?_⟩
    simp [restBlank_cons, lf] at h

/-! ## Trimming one line -/

theorem trimEnd_eq_nil_iff {l : List Char} : trimEnd l = [] ↔ l.all isBlank := by
  simp [trimEnd]

theorem trimEnd_cons (c : Char) (l : List Char) :
    trimEnd (c :: l) = if isBlank c && l.all isBlank then [] else c :: trimEnd l := by
  -- the last character of the reversed line is `c`: it goes only once all of `l` has gone
  by_cases blankRest : l.all isBlank
  · have gone : trimEnd l = [] := trimEnd_eq_nil_iff.2 blankRest
    have dropped : l.reverse.dropWhile isBlank = [] := by simpa [trimEnd] using gone
    by_cases blank : isBlank c <;> simp [trimEnd, List.dropWhile_append, dropped, blank, blankRest]
  · have kept : (l.reverse.dropWhile isBlank).isEmpty = false := by
      simpa [trimEnd] using blankRest
    simp [trimEnd, List.dropWhile_append, kept, blankRest]

/-! ## Trimming character by character -/

/-- Trailing blanks deleted one character at a time: a space or tab goes exactly when the rest
of its line holds only spaces and tabs. -/
def trimChars : List Char → List Char
  | [] => []
  | c :: rest => if isBlank c && restBlank rest then trimChars rest else c :: trimChars rest

@[simp] theorem trimChars_nil : trimChars [] = [] := rfl

theorem trimChars_cons (c : Char) (rest : List Char) :
    trimChars (c :: rest) = if isBlank c && restBlank rest then trimChars rest else c :: trimChars rest :=
  rfl

@[simp] theorem trimChars_lf (rest : List Char) : trimChars ('\n' :: rest) = '\n' :: trimChars rest := by
  simp [trimChars_cons, isBlank]

/-- A line followed by a line feed, or by nothing, is trimmed on its own. -/
theorem trimChars_append_line {x t : List Char} (noLf : '\n' ∉ x) (lineStart : ∀ c ∈ t.head?, c = '\n') :
    trimChars (x ++ t) = trimEnd x ++ trimChars t := by
  induction x with
  | nil => rfl
  | cons c x ih =>
    have rest : '\n' ∉ x := fun m => noLf (List.mem_cons_of_mem _ m)
    rw [List.cons_append, trimChars_cons, restBlank_append rest lineStart, ih rest, trimEnd_cons]
    by_cases deleted : (isBlank c && x.all isBlank) = true
    · have gone : trimEnd x = [] := trimEnd_eq_nil_iff.2 (by simp_all)
      rw [if_pos deleted, if_pos deleted, gone, List.nil_append]
    · rw [if_neg deleted, if_neg deleted, List.cons_append]

/-- Lines joined by line feeds are trimmed line by line. -/
theorem trimChars_intercalate {ls : List (List Char)} (noLf : ∀ x ∈ ls, '\n' ∉ x) (lines : ls ≠ []) :
    trimChars (['\n'].intercalate ls) = ['\n'].intercalate (ls.map trimEnd) := by
  induction ls with
  | nil => contradiction
  | cons x rest ih =>
    cases rest with
    | nil => simpa using trimChars_append_line (t := []) (noLf x (by simp)) (by simp)
    | cons y rest =>
      have later := ih (fun z m => noLf z (List.mem_cons_of_mem _ m)) (by simp)
      rw [List.map_cons, List.map_cons, List.intercalate_cons_cons, List.intercalate_cons_cons,
        List.append_assoc, List.append_assoc, List.singleton_append, List.singleton_append,
        trimChars_append_line (noLf x (by simp)) (by simp), trimChars_lf, later, List.map_cons]

/-- No piece of a text cut at its line feeds holds a line feed. -/
theorem lf_not_mem_of_mem_splitOn {l w : List Char} (piece : w ∈ l.splitOn '\n') : '\n' ∉ w := by
  induction l generalizing w with
  | nil => simp_all [List.splitOn_nil]
  | cons c l ih =>
    rw [List.splitOn_cons_eq_if_modifyHead] at piece
    by_cases lf : c = '\n'
    · -- a line feed starts a new, empty piece
      rw [if_pos (by simp [lf])] at piece
      rcases List.mem_cons.1 piece with rfl | later
      · simp
      · exact ih later
    · -- any other character joins the first piece of the rest
      rw [if_neg (by simp [lf])] at piece
      obtain ⟨first, others, cut⟩ := List.exists_cons_of_ne_nil (List.splitOn_ne_nil '\n' l)
      rw [cut, List.modifyHead_cons] at piece
      rcases List.mem_cons.1 piece with rfl | later
      · have : '\n' ∉ first := ih (cut ▸ List.mem_cons_self ..)
        simp [this, Ne.symm lf]
      · exact ih (cut ▸ List.mem_cons_of_mem _ later)

/-- Trimming line by line is trimming character by character. -/
theorem trimLines_toList (s : String) : (trimLines s).toList = trimChars s.toList := by
  have pieces : (s.split '\n').toList.map (fun l => String.ofList (trimEnd l.copy.toList)) =
      (s.toList.splitOn '\n').map (fun l => String.ofList (trimEnd l)) := by
    have cut := congrArg (List.map fun l : String => String.ofList (trimEnd l.toList))
      (String.toList_split_char (s := s) (c := '\n'))
    simpa [List.map_map, Function.comp_def] using cut
  rw [trimLines, String.toList_intercalate, pieces, List.map_map]
  have whole : ['\n'].intercalate (s.toList.splitOn '\n') = s.toList := List.intercalate_splitOn '\n'
  conv_rhs => rw [← whole]
  rw [trimChars_intercalate (fun _ => lf_not_mem_of_mem_splitOn) (List.splitOn_ne_nil _ _)]
  simp [Function.comp_def]

/-! ## What trimming keeps -/

/-- Line feeds are no blanks, so every one of them stays. -/
theorem count_lf_trimChars (l : List Char) : (trimChars l).count '\n' = l.count '\n' := by
  fun_induction trimChars l with
  | case1 => rfl
  | case2 c rest deleted ih =>
    have notLf : c ≠ '\n' := ne_lf_of_isBlank (Bool.and_eq_true_iff.1 deleted).1
    rw [ih, List.count_cons_of_ne notLf]
  | case3 c rest kept ih => rw [List.count_cons, List.count_cons, ih]

/-- Trimming keeps whether a text starts with a line that is blank to its end. -/
theorem restBlank_trimChars (l : List Char) : restBlank (trimChars l) = restBlank l := by
  fun_induction trimChars l with
  | case1 => rfl
  | case2 c rest deleted ih =>
    rw [ih, restBlank_cons]
    simp_all
  | case3 c rest kept ih => rw [restBlank_cons, restBlank_cons, ih]

/-- Trimming twice is trimming once: what stays of a line's end is not blank to its end. -/
theorem trimChars_trimChars (l : List Char) : trimChars (trimChars l) = trimChars l := by
  fun_induction trimChars l with
  | case1 => rfl
  | case2 c rest deleted ih => exact ih
  | case3 c rest kept ih => rw [trimChars_cons, restBlank_trimChars, if_neg kept, ih]

/-- A blank that stays has, right after it, a character other than a line feed. -/
theorem trimChars_blank_followed (l : List Char) :
    ∀ (i : Nat) (h : i < (trimChars l).length), isBlank (trimChars l)[i] = true →
      ∃ c, (trimChars l)[i + 1]? = some c ∧ c ≠ '\n' := by
  fun_induction trimChars l with
  | case1 => simp
  | case2 c rest deleted ih => exact ih
  | case3 c rest kept ih =>
    intro i inside blank
    cases i with
    | zero =>
      -- `c` is a blank that stays, so the rest of its line is not blank
      have notBlank : restBlank (trimChars rest) = false := by
        rw [restBlank_trimChars]
        simp_all
      obtain ⟨d, more, first, notLf⟩ := exists_cons_of_restBlank_eq_false notBlank
      exact ⟨d, by simp [first], notLf⟩
    | succ i => simpa using ih i (by simpa using inside) (by simpa using blank)

/-! ## Which characters go -/

/-- Position `i` of a text holds a space or tab from which the rest of its line holds only
spaces and tabs: a blank of the run that ends its line, at a line feed or at the end of the
text. -/
def trailingBlank (l : List Char) (i : Nat) : Bool := l[i]?.any isBlank && restBlank (l.drop i)

@[simp] theorem trailingBlank_zero (c : Char) (rest : List Char) :
    trailingBlank (c :: rest) 0 = (isBlank c && restBlank rest) := by
  by_cases blank : isBlank c = true
  · simp [trailingBlank, restBlank_cons, blank, ne_lf_of_isBlank blank]
  · simp [trailingBlank, blank]

@[simp] theorem trailingBlank_succ (c : Char) (rest : List Char) (i : Nat) :
    trailingBlank (c :: rest) (i + 1) = trailingBlank rest i := by
  simp [trailingBlank]

/-- Trimming deletes exactly the trailing blanks and keeps every other character in order. -/
theorem trimChars_eq_filter (l : List Char) :
    trimChars l = (l.zipIdx.filter fun p => !trailingBlank l p.2).map Prod.fst := by
  -- the positions of the rest of a text are those of the rest alone, one further on
  fun_induction trimChars l with
  | case1 => rfl
  | case2 c rest deleted ih => simp [ih, deleted, List.zipIdx_succ, List.filter_map, Function.comp_def]
  | case3 c rest kept ih => simp [ih, kept, List.zipIdx_succ, List.filter_map, Function.comp_def]

/-- A line that reaches a carriage return before any line feed is not blank to its end. -/
theorem restBlank_eq_false_of_cr {l : List Char} {i : Nat} (cr : l[i]? = some '\r')
    (sameLine : ∀ k < i, l[k]? ≠ some '\n') : restBlank l = false := by
  induction l generalizing i with
  | nil => simp at cr
  | cons c rest ih =>
    cases i with
    | zero =>
      have : c = '\r' := by simpa using cr
      simp [restBlank_cons, this, isBlank]
    | succ i =>
      have notLf : c ≠ '\n' := by simpa using sameLine 0 (by omega)
      have later : restBlank rest = false :=
        ih (by simpa using cr) (fun k lt => by simpa using sameLine (k + 1) (by omega))
      simp [restBlank_cons, notLf, later]

/-- No character from which a carriage return is reached before any line feed is a trailing
blank: the blanks before the CR of a CR LF stay, and so does the CR. -/
theorem trailingBlank_before_cr {l : List Char} {i j : Nat} (cr : l[i]? = some '\r') (le : j ≤ i)
    (sameLine : ∀ k, j ≤ k → k < i → l[k]? ≠ some '\n') : trailingBlank l j = false := by
  have notBlank : restBlank (l.drop j) = false := by
    refine restBlank_eq_false_of_cr (i := i - j) (by simpa [le] using cr) (fun k lt => ?_)
    simpa using sameLine (j + k) (by omega) (by omega)
  simp [trailingBlank, notBlank]

/-- Trimming deletes exactly the spaces and tabs of the runs that end lines, keeps every line
feed, leaves no blank before a line feed or at the end, and changes nothing a second time; a
carriage return ends no run, so the blanks before it stay. -/
theorem trimLines_deletes_trailing_blanks (s : String) :
    trimLines (trimLines s) = trimLines s ∧
    (∀ (i : Nat) (h : i < (trimLines s).toList.length), isBlank (trimLines s).toList[i] = true →
      ∃ c, (trimLines s).toList[i + 1]? = some c ∧ c ≠ '\n') ∧
    (trimLines s).toList.count '\n' = s.toList.count '\n' ∧
    (trimLines s).toList = (s.toList.zipIdx.filter fun p => !trailingBlank s.toList p.2).map Prod.fst ∧
    (∀ i j : Nat, s.toList[i]? = some '\r' → j ≤ i → (∀ k, j ≤ k → k < i → s.toList[k]? ≠ some '\n') →
      trailingBlank s.toList j = false) := by
  refine ⟨?_, ?_, ?_, ?_, fun i j cr le sameLine => trailingBlank_before_cr cr le sameLine⟩
  · rw [← String.toList_inj, trimLines_toList, trimLines_toList, trimChars_trimChars]
  · rw [trimLines_toList]
    exact trimChars_blank_followed s.toList
  · rw [trimLines_toList, count_lf_trimChars]
  · rw [trimLines_toList, trimChars_eq_filter]

/-- The tab before a CR LF stays; the space at the end goes. -/
example : trimLines "a\t\r\nb " = "a\t\r\nb" := by
  rw [← String.toList_inj, trimLines_toList]
  decide

end SealedMail.Lines
