import TaskGraph.Placeholder

/-! Placeholders in texts. They are searched from left to right with the shortest possible name, and
a text stands for an input parameter if one is found. What is around it, and what stands for the
points in it, is not looked at. -/

namespace TaskGraph.Placeholder

/-- What ends the name in a placeholder. -/
def close : List Char := ['\'', ']']

/-- A placeholder with the characters `a` and `b` for the points. -/
def form (a b : Char) (name : List Char) : List Char :=
  '$' :: a :: ("inputs".toList ++ b :: ("parameters['".toList ++ (name ++ close)))

/-- A name that is found: it is not empty, does not leave its line, and ends before the first closing
after its first character. -/
structure IsName (name : List Char) : Prop where
  nonempty : name ≠ []
  line : '\n' ∉ name
  shortest : ¬ close <:+: name.tail

/-- A placeholder that is found. -/
structure Taken (a b : Char) (name : List Char) : Prop where
  left : a ≠ '\n'
  right : b ≠ '\n'
  named : IsName name

/-- A text that starts with a placeholder. -/
def Leads (s : List Char) : Prop := ∃ a b name after, Taken a b name ∧ s = form a b name ++ after

/-- A text without placeholders. -/
def Free (s : List Char) : Prop := ∀ t, t <:+ s → ¬ Leads t

/-- The first placeholder of a text, with what stands before and after it. -/
structure First (s before : List Char) (a b : Char) (name after : List Char) : Prop where
  taken : Taken a b name
  parts : s = before ++ (form a b name ++ after)
  none_earlier : ∀ u v, before = u ++ v → v ≠ [] → ¬ Leads (v ++ (form a b name ++ after))

/-- The only placeholder of a text. -/
structure Sole (s before : List Char) (a b : Char) (name after : List Char) : Prop extends
    First s before a b name after where
  none_later : Free after

variable {s rest name after : List Char} {a b c : Char}

/-! ### One placeholder -/

theorem afterLead?_eq_some_iff {lead : List Char} :
    afterLead? lead s = some rest ↔ s = lead ++ rest := by
  simp only [afterLead?, List.isPrefixOf_iff_prefix]
  constructor
  · intro h
    split at h
    · rename_i leads
      obtain ⟨tail, rfl⟩ := leads
      simp at h
      rw [h]
    · cases h
  · rintro rfl
    simp

theorem afterSeparator?_eq_some_iff :
    afterSeparator? s = some rest ↔ ∃ c, c ≠ '\n' ∧ s = c :: rest := by
  cases s with
  | nil => simp [afterSeparator?]
  | cons c tail =>
    by_cases line : c = '\n'
    · simp only [afterSeparator?, if_pos line]
      refine iff_of_false nofun ?_
      rintro ⟨_, other, ⟨⟩⟩
      exact other line
    · simp only [afterSeparator?, if_neg line]
      constructor
      · rintro ⟨⟩
        exact ⟨c, line, rfl⟩
      · rintro ⟨_, _, ⟨⟩⟩
        rfl

theorem isName_cons : IsName (c :: name) ↔ c ≠ '\n' ∧ '\n' ∉ name ∧ ¬ close <:+: name := by
  constructor
  · intro h
    have line := h.line
    rw [List.mem_cons, not_or] at line
    exact ⟨Ne.symm line.1, line.2, h.shortest⟩
  · rintro ⟨other, line, shortest⟩
    exact ⟨List.cons_ne_nil _ _, by simp [Ne.symm other, line], shortest⟩

/-- If a text starts with a closing, a name in front of another closing contains it. -/
theorem close_infix_of_append {t : List Char} (nonempty : name ≠ [])
    (h : close ++ t = name ++ (close ++ rest)) : close <:+: name := by
  cases name with
  | nil => exact absurd rfl nonempty
  | cons c name =>
    cases name with
    | nil => simp [close] at h
    | cons d name =>
      simp only [close, List.cons_append, List.nil_append, List.cons.injEq] at h
      obtain ⟨rfl, rfl, -⟩ := h
      exact ⟨[], name, rfl⟩

theorem nameBeforeClose?_eq_some_iff :
    nameBeforeClose? s = some (name, after) ↔ s = name ++ (close ++ after) ∧ IsName name := by
  fun_induction nameBeforeClose? s generalizing name after with
  | case1 =>
    refine iff_of_false nofun ?_
    rintro ⟨split, -⟩
    simp [close] at split
  | case2 rest =>
    refine iff_of_false nofun ?_
    rintro ⟨split, named⟩
    cases name with
    | nil => exact named.nonempty rfl
    | cons c name =>
      obtain ⟨rfl, -⟩ := List.cons.inj split
      exact named.line List.mem_cons_self
  | case3 c other tail =>
    -- A closing right here ends the name, since a longer one would contain it.
    constructor
    · rintro ⟨⟩
      exact ⟨rfl, isName_cons.2 ⟨other, List.not_mem_nil, by simp [close]⟩⟩
    · rintro ⟨split, named⟩
      cases name with
      | nil => exact absurd rfl named.nonempty
      | cons d name =>
        obtain ⟨rfl, closed⟩ := List.cons.inj split
        by_cases empty : name = []
        · subst empty
          obtain ⟨⟩ := closed
          rfl
        · exact absurd (close_infix_of_append empty closed) (isName_cons.1 named).2.2
  | case4 c rest other apart ih =>
    have unclosed (t : List Char) : rest ≠ close ++ t := apart t
    simp only [Option.map_eq_some_iff, Prod.exists, Prod.mk.injEq, ih]
    constructor
    · rintro ⟨name, after, ⟨rfl, named⟩, rfl, rfl⟩
      refine ⟨rfl, isName_cons.2 ⟨other, named.line, fun closed => ?_⟩⟩
      cases name with
      | nil => exact named.nonempty rfl
      | cons d name =>
        rcases List.infix_cons_iff.1 closed with ⟨t, leads⟩ | inside
        · exact unclosed (t ++ (close ++ after)) (by rw [← leads, List.append_assoc])
        · exact named.shortest inside
    · rintro ⟨split, named⟩
      cases name with
      | nil => exact absurd rfl named.nonempty
      | cons d name =>
        obtain ⟨rfl, rfl⟩ := List.cons.inj split
        obtain ⟨-, line, shortest⟩ := isName_cons.1 named
        refine ⟨name, after, ⟨rfl, ?_, line, fun closed => ?_⟩, rfl, rfl⟩
        · rintro rfl
          exact unclosed after rfl
        · exact shortest (closed.trans (List.tail_suffix name).isInfix)

theorem form_append : form a b name ++ rest =
    ['$'] ++ (a :: ("inputs".toList ++ (b :: ("parameters['".toList ++ (name ++ (close ++ rest)))))) := by
  simp [form]

theorem channelAtStart?_eq_some_iff :
    channelAtStart? s = some (name, after) ↔
      ∃ a b, Taken a b name ∧ s = form a b name ++ after := by
  simp only [channelAtStart?, Option.bind_eq_bind, Option.bind_eq_some_iff, afterLead?_eq_some_iff,
    afterSeparator?_eq_some_iff, nameBeforeClose?_eq_some_iff, form_append]
  constructor
  · rintro ⟨_, rfl, _, ⟨a, left, rfl⟩, _, rfl, _, ⟨b, right, rfl⟩, _, rfl, rfl, named⟩
    exact ⟨a, b, ⟨left, right, named⟩, rfl⟩
  · rintro ⟨a, b, ⟨left, right, named⟩, rfl⟩
    exact ⟨_, rfl, _, ⟨a, left, rfl⟩, _, rfl, _, ⟨b, right, rfl⟩, _, rfl, rfl, named⟩

theorem channelAtStart?_form (taken : Taken a b name) (after : List Char) :
    channelAtStart? (form a b name ++ after) = some (name, after) :=
  channelAtStart?_eq_some_iff.2 ⟨a, b, taken, rfl⟩

theorem channelAtStart?_eq_none_iff : channelAtStart? s = none ↔ ¬ Leads s := by
  rw [Option.eq_none_iff_forall_not_mem]
  constructor
  · rintro absent ⟨a, b, name, after, taken, rfl⟩
    exact absent (name, after) (channelAtStart?_form taken after)
  · rintro absent ⟨name, after⟩ found
    obtain ⟨a, b, taken, rfl⟩ := channelAtStart?_eq_some_iff.1 found
    exact absent ⟨a, b, name, after, taken, rfl⟩

/-! ### All placeholders -/

theorem channelsFrom_eq (skip : Nat) (s : List Char) :
    channelsFrom skip s = channelsFrom 0 (s.drop skip) := by
  induction s generalizing skip with
  | nil => cases skip <;> rfl
  | cons c rest ih =>
    cases skip with
    | zero => rfl
    | succ skip => exact ih skip

/-- The search goes on after the placeholder that was found. -/
theorem channelsFrom_form (taken : Taken a b name) (after : List Char) :
    channelsFrom 0 (form a b name ++ after) = name :: channelsFrom 0 after := by
  have found := channelAtStart?_form taken after
  obtain ⟨inner, split⟩ : ∃ inner, form a b name = '$' :: inner := ⟨_, rfl⟩
  rw [split, List.cons_append] at found ⊢
  rw [channelsFrom, found]
  simp only
  rw [channelsFrom_eq, List.length_append, Nat.add_sub_cancel, List.drop_left]

theorem channelsFrom_cons (free : ¬ Leads (c :: rest)) :
    channelsFrom 0 (c :: rest) = channelsFrom 0 rest := by
  rw [channelsFrom, channelAtStart?_eq_none_iff.2 free]

theorem Leads.mem (leads : Leads s) : '$' ∈ s := by
  obtain ⟨a, b, name, after, -, rfl⟩ := leads
  exact List.mem_cons_self

theorem Leads.head (leads : Leads (c :: rest)) : c = '$' := by
  obtain ⟨a, b, name, after, -, split⟩ := leads
  exact (List.cons.inj split).1

theorem free_of_not_mem (plain : '$' ∉ s) : Free s :=
  fun _ suffix leads => plain (suffix.subset leads.mem)

theorem free_cons : Free (c :: rest) ↔ ¬ Leads (c :: rest) ∧ Free rest := by
  constructor
  · intro free
    exact ⟨free _ List.suffix_rfl, fun t suffix => free t (suffix.trans (List.suffix_cons c rest))⟩
  · rintro ⟨here, free⟩ t suffix
    rcases List.suffix_cons_iff.1 suffix with rfl | suffix
    · exact here
    · exact free t suffix

theorem channelsFrom_eq_nil_iff : channelsFrom 0 s = [] ↔ Free s := by
  induction s with
  | nil => exact iff_of_true rfl (free_of_not_mem List.not_mem_nil)
  | cons c rest ih =>
    by_cases leads : Leads (c :: rest)
    · refine iff_of_false ?_ fun free => free _ List.suffix_rfl leads
      obtain ⟨a, b, name, after, taken, split⟩ := leads
      rw [split, channelsFrom_form taken]
      exact List.cons_ne_nil _ _
    · rw [channelsFrom_cons leads, ih, free_cons, and_iff_right leads]

namespace First

variable {before : List Char}

theorem leads (first : First s before a b name after) : Leads (form a b name ++ after) :=
  ⟨a, b, name, after, first.taken, rfl⟩

/-- A text without dollar signs may stand before a placeholder. -/
theorem of_plain (taken : Taken a b name) (plain : '$' ∉ before) (after : List Char) :
    First (before ++ (form a b name ++ after)) before a b name after where
  taken := taken
  parts := rfl
  none_earlier := by
    rintro u v rfl nonempty leads
    cases v with
    | nil => exact nonempty rfl
    | cons c v =>
      rw [List.cons_append] at leads
      exact plain (List.mem_append_right u (leads.head ▸ List.mem_cons_self))

/-- Where a text starts with a placeholder, this is the first one. -/
theorem before_eq_nil (first : First s before a b name after) (leads : Leads s) : before = [] := by
  by_cases empty : before = []
  · exact empty
  · rw [first.parts] at leads
    exact absurd leads (first.none_earlier [] before rfl empty)

theorem cons (first : First s before a b name after) (free : ¬ Leads (c :: s)) :
    First (c :: s) (c :: before) a b name after where
  taken := first.taken
  parts := congrArg (c :: ·) first.parts
  none_earlier := by
    rintro u v split nonempty leads
    cases u with
    | nil =>
      rw [List.nil_append] at split
      rw [← split, List.cons_append, ← first.parts] at leads
      exact free leads
    | cons d u => exact first.none_earlier u v (List.cons.inj split).2 nonempty leads

theorem tail (first : First (c :: s) (d :: before) a b name after) :
    First s before a b name after where
  taken := first.taken
  parts := (List.cons.inj first.parts).2
  none_earlier := fun u v split => first.none_earlier (d :: u) v (congrArg (d :: ·) split)

end First

/-- The names of the placeholders are the name of the first one and those after it. -/
theorem channelsFrom_eq_cons_iff {names : List (List Char)} :
    channelsFrom 0 s = name :: names ↔
      ∃ before a b after, First s before a b name after ∧ channelsFrom 0 after = names := by
  induction s with
  | nil =>
    refine iff_of_false nofun ?_
    rintro ⟨before, a, b, after, first, -⟩
    simpa [form] using first.parts
  | cons c rest ih =>
    -- Either the first placeholder is here, or the search goes on behind one character.
    by_cases leads : Leads (c :: rest)
    · obtain ⟨a, b, name', after', taken, split⟩ := leads
      rw [split, channelsFrom_form taken]
      constructor
      · rintro ⟨⟩
        exact ⟨[], a, b, after', .of_plain taken List.not_mem_nil after', rfl⟩
      · rintro ⟨before, a', b', after, first, rfl⟩
        obtain rfl := first.before_eq_nil ⟨a, b, name', after', taken, rfl⟩
        rw [← channelsFrom_form taken, first.parts, List.nil_append, channelsFrom_form first.taken]
    · rw [channelsFrom_cons leads, ih]
      constructor
      · rintro ⟨before, a, b, after, first, rfl⟩
        exact ⟨c :: before, a, b, after, first.cons leads, rfl⟩
      · rintro ⟨before, a, b, after, first, rfl⟩
        cases before with
        | nil =>
          rw [first.parts] at leads
          exact absurd first.leads leads
        | cons d before => exact ⟨before, a, b, after, first.tail, rfl⟩

/-- A text stands for an input parameter if it has one placeholder. -/
theorem channel?_eq_some_iff {text name : String} :
    channel? text = some name ↔
      ∃ before a b after, Sole text.toList before a b name.toList after := by
  have single : channel? text = some name ↔ channelsFrom 0 text.toList = [name.toList] := by
    unfold channel?
    split
    · rename_i found eq
      rw [eq, Option.some.injEq, List.cons.injEq, and_iff_left rfl]
      constructor
      · rintro rfl
        rw [String.toList_ofList]
      · rintro rfl
        rw [String.ofList_toList]
    · rename_i other
      exact iff_of_false nofun (other name.toList)
  simp only [single, channelsFrom_eq_cons_iff, channelsFrom_eq_nil_iff]
  constructor
  · rintro ⟨before, a, b, after, first, free⟩
    exact ⟨before, a, b, after, first, free⟩
  · rintro ⟨before, a, b, after, first, free⟩
    exact ⟨before, a, b, after, first, free⟩

/-! ### Exact placeholders -/

/-- A name that can be written in a placeholder. -/
structure Nameable (name : String) : Prop where
  nonempty : name ≠ ""
  line : '\n' ∉ name.toList
  unclosed : ¬ close <:+: name.toList

/-- The placeholder for an input parameter. -/
def written (name : String) : String := "$.inputs.parameters['" ++ name ++ "']"

def braced (text : String) : String := "\x7b\x7b" ++ text ++ "\x7d\x7d"

/-- A text that is the placeholder for an input parameter and nothing else, but for braces. -/
structure Exact (text name : String) : Prop where
  nameable : Nameable name
  whole : text = written name ∨ text = braced (written name)

theorem toList_written (name : String) : (written name).toList = form '.' '.' name.toList := by
  have lead : "$.inputs.parameters['".toList =
      '$' :: '.' :: ("inputs".toList ++ '.' :: "parameters['".toList) := by decide
  have tail : "']".toList = close := by decide
  unfold written form
  simp only [String.toList_append, lead, tail, List.cons_append, List.append_assoc]

theorem toList_braced (name : String) :
    (braced (written name)).toList = ['{', '{'] ++ (form '.' '.' name.toList ++ ['}', '}']) := by
  unfold braced
  rw [String.toList_append, String.toList_append, toList_written, List.append_assoc]
  rfl

theorem Nameable.taken {name : String} (h : Nameable name) : Taken '.' '.' name.toList where
  left := by decide
  right := by decide
  named := by
    refine ⟨fun empty => h.nonempty (String.toList_eq_nil_iff.1 empty), h.line, fun closed => ?_⟩
    exact h.unclosed (closed.trans (List.tail_suffix _).isInfix)

theorem form_append_inj {a' b' : Char} {rest' : List Char}
    (h : form a b name ++ rest = form a' b' name ++ rest') : a = a' ∧ b = b' ∧ rest = rest' := by
  rw [form_append, form_append] at h
  obtain ⟨first, h⟩ := List.cons.inj (List.append_cancel_left h)
  obtain ⟨second, h⟩ := List.cons.inj (List.append_cancel_left h)
  have rest := List.append_cancel_left (List.append_cancel_left (List.append_cancel_left h))
  exact ⟨first, second, rest⟩

/-- A text has one first placeholder. -/
theorem First.unique {before before' name' after' : List Char} {a' b' : Char}
    (first : First s before a b name after) (first' : First s before' a' b' name' after') :
    before = before' ∧ a = a' ∧ b = b' ∧ name = name' ∧ after = after' := by
  -- One of the two begins no later, and the other has none before it.
  have same : before = before' := by
    rcases List.append_eq_append_iff.1 (first.parts.symm.trans first'.parts) with
      ⟨v, rfl, split⟩ | ⟨v, rfl, split⟩
    · by_cases empty : v = []
      · simp [empty]
      · exact absurd (split ▸ first.leads) (first'.none_earlier before v rfl empty)
    · by_cases empty : v = []
      · simp [empty]
      · exact absurd (split ▸ first'.leads) (first.none_earlier before' v rfl empty)
  subst same
  have parts := List.append_cancel_left (first.parts.symm.trans first'.parts)
  have found := channelAtStart?_form first.taken after
  rw [parts, channelAtStart?_form first'.taken] at found
  obtain ⟨⟩ := found
  obtain ⟨rfl, rfl, -⟩ := form_append_inj parts
  exact ⟨rfl, rfl, rfl, rfl, rfl⟩

theorem Exact.sole {text name : String} (h : Exact text name) :
    Sole text.toList [] '.' '.' name.toList [] ∨
      Sole text.toList ['{', '{'] '.' '.' name.toList ['}', '}'] := by
  have taken := h.nameable.taken
  rcases h.whole with rfl | rfl
  · have plain : '$' ∉ ([] : List Char) := List.not_mem_nil
    have first := First.of_plain taken plain []
    rw [List.nil_append, List.append_nil, ← toList_written] at first
    exact .inl ⟨first, free_of_not_mem List.not_mem_nil⟩
  · have plain : '$' ∉ ['{', '{'] := by decide
    have first := First.of_plain taken plain ['}', '}']
    rw [← toList_braced] at first
    exact .inr ⟨first, free_of_not_mem (by decide)⟩

/-- What a text with one placeholder needs to be exact. -/
theorem Sole.exact_iff {text name : String} {before after : List Char}
    (sole : Sole text.toList before a b name.toList after) :
    Exact text name ↔ a = '.' ∧ b = '.' ∧ ¬ close <:+: name.toList ∧
      (before = [] ∧ after = [] ∨ before = ['{', '{'] ∧ after = ['}', '}']) := by
  constructor
  · intro exact
    rcases exact.sole with plain | braced
    · obtain ⟨rfl, rfl, rfl, -, rfl⟩ := sole.toFirst.unique plain.toFirst
      exact ⟨rfl, rfl, exact.nameable.unclosed, .inl ⟨rfl, rfl⟩⟩
    · obtain ⟨rfl, rfl, rfl, -, rfl⟩ := sole.toFirst.unique braced.toFirst
      exact ⟨rfl, rfl, exact.nameable.unclosed, .inr ⟨rfl, rfl⟩⟩
  · rintro ⟨rfl, rfl, unclosed, around⟩
    have named := sole.taken.named
    refine ⟨⟨fun empty => ?_, named.line, unclosed⟩, ?_⟩
    · exact named.nonempty (String.toList_eq_nil_iff.2 empty)
    · rcases around with ⟨rfl, rfl⟩ | ⟨rfl, rfl⟩
      · left
        apply String.toList_inj.1
        rw [sole.parts, toList_written, List.nil_append, List.append_nil]
      · right
        apply String.toList_inj.1
        rw [sole.parts, toList_braced]

theorem Exact.channel? {text name : String} (h : Exact text name) : channel? text = some name := by
  rcases h.sole with plain | braced
  · exact channel?_eq_some_iff.2 ⟨_, _, _, _, plain⟩
  · exact channel?_eq_some_iff.2 ⟨_, _, _, _, braced⟩

/-! ### What placeholders stand for -/

/-- The text of a value in the place of a placeholder. Only a text has one. -/
def fieldText : Json → String
  | .str s => s
  | _ => ""

/-- What a text stands for: itself, or the value of the input parameter that it names. -/
def value? (inputs : ExecutorInputs) (text : String) : Option Json :=
  match channel? text with
  | none => some (.str text)
  | some name => inputs.parameters.get? name

theorem value?_of_channel {inputs : ExecutorInputs} {text name : String}
    (found : channel? text = some name) : value? inputs text = inputs.parameters.get? name := by
  rw [value?, found]

theorem value?_of_absent {inputs : ExecutorInputs} {text : String} (absent : channel? text = none) :
    value? inputs text = some (.str text) := by
  rw [value?, absent]

theorem resolve_eq (inputs : ExecutorInputs) (text : String) :
    resolve inputs text = match value? inputs text with
      | some j => .ok (fieldText j)
      | none => .fail .missingChannelParameter := by
  unfold resolve value?
  cases channel? text with
  | none => rfl
  | some name =>
    simp only
    cases inputs.parameters.get? name with
    | none => rfl
    | some j => cases j <;> rfl

theorem resolve_eq_ok_iff {inputs : ExecutorInputs} {field text : String} :
    resolve inputs field = .ok text ↔ ∃ j, value? inputs field = some j ∧ text = fieldText j := by
  rw [resolve_eq]
  cases value? inputs field with
  | none => simp [Result.fail]
  | some j => simp [eq_comm]

theorem resolve_of_channel {inputs : ExecutorInputs} {text name : String} {j : Json}
    (found : channel? text = some name) (here : inputs.parameters.get? name = some j) :
    resolve inputs text = .ok (fieldText j) := by
  rw [resolve_eq, value?_of_channel found, here]

/-- A text stands for an input parameter exactly if one placeholder is found in it. What is around
the placeholder is lost, and it is exact if nothing but braces is around it, its points are points
and its name has no closing. A text that stands for no input parameter stays as it is. -/
theorem placeholder_recognized (inputs : ExecutorInputs) (text : String) :
    (∀ name, channel? text = some name ↔
      ∃ before a b after, Sole text.toList before a b name.toList after) ∧
    (∀ name, Exact text name → channel? text = some name) ∧
    (∀ before a b name after, Sole text.toList before a b name.toList after →
      (Exact text name ↔ a = '.' ∧ b = '.' ∧ ¬ close <:+: name.toList ∧
        (before = [] ∧ after = [] ∨ before = ['{', '{'] ∧ after = ['}', '}']))) ∧
    (channel? text = none → resolve inputs text = .ok text) ∧
    ∀ name, channel? text = some name →
      (∀ j, inputs.parameters.get? name = some j → resolve inputs text = .ok (fieldText j)) ∧
      (inputs.parameters.get? name = none →
        resolve inputs text = .fail .missingChannelParameter) := by
  refine ⟨fun name => channel?_eq_some_iff, fun name exact => exact.channel?,
    fun before a b name after sole => sole.exact_iff, fun absent => ?_,
    fun name found => ⟨fun j here => resolve_of_channel found here, ?_⟩⟩
  · rw [resolve_eq, value?_of_absent absent]
    rfl
  · intro missing
    rw [resolve_eq, value?_of_channel found, missing]

/-! A tag for an image. -/

namespace Tagged

def inputs : ExecutorInputs where
  parameters := .ofList [("tag", .str "2"), ("tries", .int 3)]

def tag : String := "\x7b\x7b$.inputs.parameters['tag']\x7d\x7d"

def image : String := "registry/python:" ++ tag ++ "-slim"

theorem tag_exact : Exact tag "tag" := ⟨⟨by decide, by decide, by decide⟩, .inr (by decide)⟩

theorem image_sole : Sole image.toList "registry/python:\x7b\x7b".toList '.' '.' "tag".toList
    "\x7d\x7d-slim".toList := by
  have plain : '$' ∉ "registry/python:\x7b\x7b".toList := by decide
  have first := First.of_plain tag_exact.nameable.taken plain "\x7d\x7d-slim".toList
  exact ⟨first, free_of_not_mem (by decide)⟩

end Tagged

/-- The tag is put in the place of its placeholder, which is exact only by itself. -/
theorem placeholder_recognized_tag :
    channel? Tagged.tag = some "tag" ∧ resolve Tagged.inputs Tagged.tag = .ok "2" ∧
    channel? Tagged.image = some "tag" ∧ ¬ Exact Tagged.image "tag" ∧
    resolve Tagged.inputs "python:3" = .ok "python:3" ∧
    resolve Tagged.inputs (written "tries") = .ok "" ∧
    resolve Tagged.inputs (written "gone") = .fail .missingChannelParameter := by
  obtain ⟨-, recognized, -, -, stands⟩ := placeholder_recognized Tagged.inputs Tagged.tag
  obtain ⟨found, -, exact, -, -⟩ := placeholder_recognized Tagged.inputs Tagged.image
  obtain ⟨-, -, -, plain, -⟩ := placeholder_recognized Tagged.inputs "python:3"
  obtain ⟨-, -, -, -, tries⟩ := placeholder_recognized Tagged.inputs (written "tries")
  obtain ⟨-, -, -, -, gone⟩ := placeholder_recognized Tagged.inputs (written "gone")
  have tag := recognized "tag" Tagged.tag_exact
  refine ⟨tag, (stands "tag" tag).1 (.str "2") (by rfl),
    (found "tag").2 ⟨_, _, _, _, Tagged.image_sole⟩, fun whole => ?_, plain (by decide),
    (tries "tries" (by decide)).1 (.int 3) (by rfl), (gone "gone" (by decide)).2 (by rfl)⟩
  rcases ((exact _ _ _ _ _ Tagged.image_sole).1 whole).2.2.2 with ⟨before, -⟩ | ⟨before, -⟩
  · exact absurd before (by decide)
  · exact absurd before (by decide)

/-- Text around a placeholder is lost, other characters pass for points, and a name may be a
closing. -/
theorem surroundings_lost :
    channel? Tagged.image = some "tag" ∧ ¬ Exact Tagged.image "tag" ∧
    resolve Tagged.inputs Tagged.image = .ok "2" ∧
    channel? "$-inputs-parameters['tag']" = some "tag" ∧
    ¬ Exact "$-inputs-parameters['tag']" "tag" ∧
    channel? "$.inputs.parameters['']']" = some "']" ∧
    ¬ Exact "$.inputs.parameters['']']" "']" := by
  refine ⟨by decide, ?_, by rfl, by decide, ?_, by decide, ?_⟩
  · rintro ⟨-, plain | braced⟩
    · exact absurd plain (by decide)
    · exact absurd braced (by decide)
  · rintro ⟨-, plain | braced⟩
    · exact absurd plain (by decide)
    · exact absurd braced (by decide)
  · intro exact
    exact exact.nameable.unclosed (by decide)

end TaskGraph.Placeholder
