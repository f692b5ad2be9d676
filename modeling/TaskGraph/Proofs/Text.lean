import Mathlib.Data.List.TakeWhile
import TaskGraph.Text.Basic

/-! Texts cut by kinds of characters. A text starts with a longest run of characters of one kind, and
what trimming leaves has a blank at neither end. -/

namespace TaskGraph.Text

variable {p : Char → Bool} {s run rest : List Char} {text core : String}

/-- A text is cut after its longest start of characters of one kind. -/
structure Cut (p : Char → Bool) (s run rest : List Char) : Prop where
  parts : s = run ++ rest
  all : ∀ c ∈ run, p c = true
  stops : ∀ c, rest.head? = some c → p c = false

theorem cut_span (p : Char → Bool) (s : List Char) : Cut p s (s.takeWhile p) (s.dropWhile p) where
  parts := List.takeWhile_append_dropWhile.symm
  all := List.all_eq_true.1 List.all_takeWhile
  stops c first := by
    have stop := List.head?_dropWhile_not p s
    rwa [first] at stop

theorem Cut.takeWhile_eq (cut : Cut p s run rest) : s.takeWhile p = run := by
  rw [cut.parts, List.takeWhile_append_of_pos cut.all]
  cases rest with
  | nil => exact List.append_nil run
  | cons c rest => rw [List.takeWhile_cons_of_neg (by simp [cut.stops c rfl]), List.append_nil]

theorem Cut.dropWhile_eq (cut : Cut p s run rest) : s.dropWhile p = rest := by
  rw [cut.parts, List.dropWhile_append_of_pos cut.all]
  cases rest with
  | nil => rfl
  | cons c rest => rw [List.dropWhile_cons_of_neg (by simp [cut.stops c rfl])]

/-- Where a text ends earlier, it is cut at the same place. -/
theorem Cut.shorten {more : List Char} (cut : Cut p s run (rest ++ more)) :
    Cut p (run ++ rest) run rest where
  parts := rfl
  all := cut.all
  stops c first := cut.stops c (by rw [List.head?_append, first, Option.some_or])

/-- Dropping characters at the end leaves a text that does not end with one of them. -/
theorem dropEnd_spec (p : Char → Bool) (s : List Char) :
    ∃ tail, s = dropEnd p s ++ tail ∧ (∀ c ∈ tail, p c = true) ∧
      ∀ c, (dropEnd p s).getLast? = some c → p c = false := by
  have cut := cut_span p s.reverse
  refine ⟨(s.reverse.takeWhile p).reverse, ?_, ?_, ?_⟩
  · rw [dropEnd, ← List.reverse_append, ← cut.parts, List.reverse_reverse]
  · intro c member
    exact cut.all c (List.mem_reverse.1 member)
  · intro c last
    rw [dropEnd, List.getLast?_reverse] at last
    exact cut.stops c last

theorem dropEnd_append {tail : List Char} (all : ∀ c ∈ tail, p c = true)
    (stops : ∀ c, s.getLast? = some c → p c = false) : dropEnd p (s ++ tail) = s := by
  have cut : Cut p (s ++ tail).reverse tail.reverse s.reverse := by
    refine ⟨List.reverse_append, fun c member => all c (List.mem_reverse.1 member), fun c first => ?_⟩
    rw [List.head?_reverse] at first
    exact stops c first
  rw [dropEnd, cut.dropWhile_eq, List.reverse_reverse]

theorem isBlank_eq_false {c : Char} (above : 0x20 < c.toNat) (below : c.toNat < 0x85) :
    Unicode.isBlank c = false := by
  simp only [Unicode.isBlank, Unicode.blanks, Unicode.within]
  rw [if_neg (by omega), if_neg (by omega), if_neg (by omega), if_neg (by omega), if_pos below]
  rfl

theorem isBlank_of_isDigit {c : Char} (digit : c.isDigit) : Unicode.isBlank c = false := by
  obtain ⟨atLeast, atMost⟩ := Char.isDigit_iff_toNat.1 digit
  exact isBlank_eq_false (lt_of_lt_of_le (by decide) atLeast) (lt_of_le_of_lt atMost (by decide))

/-- A text without the blanks at its ends. -/
structure Trims (text core : String) : Prop where
  parts : ∃ before after, text.toList = before ++ core.toList ++ after ∧
    (∀ c ∈ before, Unicode.isBlank c = true) ∧ ∀ c ∈ after, Unicode.isBlank c = true
  first : ∀ c, core.toList.head? = some c → Unicode.isBlank c = false
  last : ∀ c, core.toList.getLast? = some c → Unicode.isBlank c = false

theorem trims_trim (text : String) : Trims text (trim text) := by
  have cut := cut_span Unicode.isBlank text.toList
  obtain ⟨after, parts, blank, last⟩ := dropEnd_spec Unicode.isBlank (trimStart text.toList)
  constructor
  · refine ⟨_, after, ?_, cut.all, blank⟩
    rw [trim, String.toList_ofList, trimEnd, List.append_assoc, ← parts]
    exact cut.parts
  · intro c first
    rw [trim, String.toList_ofList, trimEnd] at first
    apply cut.stops c
    change (trimStart text.toList).head? = some c
    rw [parts, List.head?_append, first]
    rfl
  · intro c final
    rw [trim, String.toList_ofList] at final
    exact last c final

/-- A text can be trimmed in one way only. -/
theorem Trims.eq_trim (trims : Trims text core) : core = trim text := by
  obtain ⟨before, after, parts, blankBefore, blankAfter⟩ := trims.parts
  by_cases empty : core.toList = []
  · have blank : ∀ c ∈ text.toList, Unicode.isBlank c = true := by
      intro c member
      rw [parts, empty, List.append_nil, List.mem_append] at member
      exact member.elim (blankBefore c) (blankAfter c)
    have nothing : trimStart text.toList = [] := List.dropWhile_eq_nil_iff.2 blank
    rw [trim, nothing, ← String.ofList_toList (s := core), empty]
    rfl
  · have cut : Cut Unicode.isBlank text.toList before (core.toList ++ after) := by
      refine ⟨by rw [parts, List.append_assoc], blankBefore, fun c first => trims.first c ?_⟩
      obtain ⟨lead, others, form⟩ := List.exists_cons_of_ne_nil empty
      rw [form] at first ⊢
      exact first
    have started : trimStart text.toList = core.toList ++ after := cut.dropWhile_eq
    rw [trim, started, trimEnd, dropEnd_append blankAfter trims.last, String.ofList_toList]

theorem trims_iff : Trims text core ↔ core = trim text :=
  ⟨Trims.eq_trim, fun same => same ▸ trims_trim text⟩

theorem trims_self (first : ∀ c, text.toList.head? = some c → Unicode.isBlank c = false)
    (last : ∀ c, text.toList.getLast? = some c → Unicode.isBlank c = false) : Trims text text :=
  ⟨⟨[], [], by simp, by simp, by simp⟩, first, last⟩

theorem trim_eq_self (solid : ∀ c ∈ text.toList, Unicode.isBlank c = false) : trim text = text :=
  (trims_self (fun c first => solid c (List.mem_of_head? first))
    fun c last => solid c (List.mem_of_getLast? last)).eq_trim.symm

/-- A text that has been trimmed is not changed again. -/
theorem trim_trim (text : String) : trim (trim text) = trim text :=
  have trims := trims_trim text
  (trims_self trims.first trims.last).eq_trim.symm

end TaskGraph.Text
