import TaskGraph.Json.Parser
import TaskGraph.Proofs.Json.Text
import TaskGraph.Proofs.Text

/-! Reading what was written. In front of a comma or a closing bracket the text of a value without
floats is read as that value, with its fields in their order, and what follows is left. -/

namespace TaskGraph.Json

/-- Values without floats, with integers of 64 bits only, whose arrays and objects nest at most so
many levels. -/
inductive Plain : Nat → Json → Prop
  | null (levels : Nat) : Plain levels .null
  | bool (levels : Nat) (b : Bool) : Plain levels (.bool b)
  | int (levels : Nat) {n : Int} : IsJsonInteger n → Plain levels (.int n)
  | str (levels : Nat) (s : String) : Plain levels (.str s)
  | arr {levels : Nat} {items : List Json} : (∀ j ∈ items, Plain levels j) →
      Plain (levels + 1) (.arr items)
  | obj {levels : Nat} {fields : List (String × Json)} :
      (∀ field ∈ fields, Plain levels field.2) → Plain (levels + 1) (.obj fields)

variable {c close : Char} {s rest : List Char} {n : Int} {fuel depth : Nat} {j : Json}

section Numbers

theorem head_toDigits {n : Nat} (positive : 0 < n) : (Nat.toDigits 10 n).head? ≠ some '0' := by
  induction n using Nat.strongRecOn with
  | ind n ih =>
    by_cases single : n < 10
    · have first : ∀ n < 10, 0 < n → Nat.digitChar n ≠ '0' := by decide
      rw [Nat.toDigits_of_lt_base single]
      exact fun same => first n single positive (Option.some.inj same)
    · rw [Nat.toDigits_of_base_le (by decide) (by omega), List.head?_append_of_ne_nil]
      · exact ih (n / 10) (by omega) (by omega)
      · exact Nat.toDigits_ne_nil

/-- Digits are read up to what is no digit; the first of several is not a zero. -/
theorem wholePart_toDigits (n : Nat) (stops : ∀ c, rest.head? = some c → c.isDigit = false) :
    wholePart (Nat.toDigits 10 n ++ rest) = some (Nat.toDigits 10 n, rest) := by
  have cut : Text.Cut Char.isDigit (Nat.toDigits 10 n ++ rest) (Nat.toDigits 10 n) rest :=
    ⟨rfl, fun c member => Nat.isDigit_of_mem_toDigits (by decide) (by decide) member, stops⟩
  rcases Nat.eq_zero_or_pos n with rfl | positive
  · have noDigit : rest.head?.any Char.isDigit = false := by
      cases first : rest.head? with
      | none => rfl
      | some c => exact stops c first
    simp [wholePart, noDigit]
  · rw [wholePart.eq_def]
    split
    · rename_i tail form
      obtain ⟨c, digits, first, -⟩ := toDigits_cons n
      rw [first, List.cons_append] at form
      exact absurd (by rw [first, (List.cons.inj form).1]; rfl) (head_toDigits positive)
    · simp [cut.takeWhile_eq, cut.dropWhile_eq, Nat.toDigits_ne_nil]

theorem Ends.head_cases (ends : Ends rest) :
    rest = [] ∨ ∃ tail, rest = ',' :: tail ∨ rest = ']' :: tail ∨ rest = '}' :: tail := by
  cases rest with
  | nil => exact .inl rfl
  | cons c tail =>
    have closes := ends c tail rfl
    simp only [List.mem_cons, List.not_mem_nil, or_false] at closes
    rcases closes with rfl | rfl | rfl
    · exact .inr ⟨tail, .inl rfl⟩
    · exact .inr ⟨tail, .inr (.inl rfl)⟩
    · exact .inr ⟨tail, .inr (.inr rfl)⟩

/-- The text of an integer has a sign and digits, and no fraction or exponent after them. -/
theorem numberText?_intChars (n : Int) (ends : Ends rest) :
    numberText? (intChars n ++ rest) =
      some (⟨n < 0, Nat.toDigits 10 n.natAbs, [], none⟩, rest) := by
  have stop := ends.head_cases
  have whole : wholePart (Nat.toDigits 10 n.natAbs ++ rest) = some (_, rest) :=
    wholePart_toDigits n.natAbs (by rcases stop with rfl | ⟨tail, rfl | rfl | rfl⟩ <;> simp)
  unfold intChars
  split_ifs with negative
  · rw [List.cons_append, numberText?, whole, decide_eq_true negative]
    rcases stop with rfl | ⟨tail, rfl | rfl | rfl⟩ <;> rfl
  · have unsigned (tail : List Char) : Nat.toDigits 10 n.natAbs ++ rest ≠ '-' :: tail := by
      obtain ⟨c, digits, form, digit⟩ := toDigits_cons n.natAbs
      rw [form, List.cons_append]
      rintro ⟨⟩
      cases digit
    rw [numberText?, whole, decide_eq_false negative]
    · rcases stop with rfl | ⟨tail, rfl | rfl | rfl⟩ <;> rfl
    · exact unsigned

theorem value?_int (integer : IsJsonInteger n) :
    NumberText.value? ⟨n < 0, Nat.toDigits 10 n.natAbs, [], none⟩ = some (.int n) := by
  obtain ⟨atLeast, below⟩ := integer
  have exact : integer? (n < 0) n.natAbs = some n := by
    unfold integer?
    by_cases negative : n < 0
    · rw [decide_eq_true negative, if_pos rfl, if_pos (by omega)]
      exact congrArg some (by omega)
    · rw [decide_eq_false negative, if_neg (by decide), if_pos (by omega)]
      exact congrArg some (by omega)
  simp [NumberText.value?, digitsValue_toDigits, exact]

theorem scalar_intChars (integer : IsJsonInteger n) (ends : Ends rest) :
    scalar (intChars n ++ rest) = some (.int n, rest) := by
  have lead {c : Char} {tail : List Char} (form : intChars n ++ rest = c :: tail) :
      isNumberLead c := by
    obtain ⟨d, digits, first, lead⟩ := (isNumberText_int n).lead
    rw [first, List.cons_append] at form
    exact (List.cons.inj form).1 ▸ lead
  unfold scalar
  split
  · cases lead ‹_›
  · cases lead ‹_›
  · cases lead ‹_›
  · cases lead ‹_›
  · simp [numberText?_intChars n ends, value?_int integer, int]

end Numbers

section Joined

variable {α : Type} {f : α → List Char} {part : Nat → List Char → Option (α × List Char)}

/-- A part is read back from its text, up to a comma or a closing bracket. As many steps as the text
has characters are enough. -/
def ReadsBack (f : α → List Char) (part : Nat → List Char → Option (α × List Char)) (x : α) :
    Prop :=
  ∀ {fuel rest}, (f x).length ≤ fuel → Ends rest → part fuel (f x ++ rest) = some (x, rest)

/-- Joined parts are read back by a reader that reads one part after another, if each part is. -/
theorem parts_joined (parts : Nat → List Char → Option (List α × List Char))
    (closes : close ∈ [']', '}'])
    (comma : ∀ {fuel s x tail}, part fuel s = some (x, ',' :: tail) →
      parts (fuel + 1) s = (parts fuel tail).map fun (xs, r) => (x :: xs, r))
    (last : ∀ {fuel s x tail}, part fuel s = some (x, close :: tail) →
      parts (fuel + 1) s = some ([x], tail))
    {xs : List α} (nonempty : xs ≠ []) (each : ∀ x ∈ xs, ReadsBack f part x)
    (enough : (joined f xs).length < fuel) :
    parts fuel (joined f xs ++ close :: rest) = some (xs, rest) := by
  -- a step costs one and takes at least a comma, so that the other parts have fuel for their length
  induction xs generalizing fuel with
  | nil => exact absurd rfl nonempty
  | cons x xs ih =>
    obtain ⟨first, others⟩ := List.forall_mem_cons.1 each
    obtain ⟨fuel, rfl⟩ := Nat.exists_eq_add_one_of_ne_zero (Nat.ne_zero_of_lt enough)
    cases xs with
    | nil =>
      rw [joined_cons]
      exact last (first (Nat.le_of_lt_succ enough) (ends_afterPart closes []))
    | cons y ys =>
      have split : joined f (x :: y :: ys) = f x ++ ',' :: joined f (y :: ys) := rfl
      rw [split, List.length_append, List.length_cons] at enough
      have head : part fuel (f x ++ afterPart f close rest (y :: ys)) =
          some (x, ',' :: (joined f (y :: ys) ++ close :: rest)) :=
        first (by omega) (ends_afterPart closes (y :: ys))
      rw [joined_cons, comma head, ih (List.cons_ne_nil y ys) others (by omega)]
      rfl

end Joined

/-- One field and what follows it. -/
def field (fuel depth : Nat) (s : List Char) : Option ((String × Json) × List Char) := do
  let (key, rest) ← key s
  let rest ← colon rest
  let (j, rest) ← value fuel depth rest
  return ((key, j), rest)

theorem isBlank_of_kindOfLead {kind : Kind} (lead : kindOfLead c = some kind) :
    isBlank c = false := by
  by_contra blank
  simp only [isBlank, Bool.or_eq_true, decide_eq_true_eq, Bool.not_eq_false] at blank
  rcases blank with ((rfl | rfl) | rfl) | rfl <;> cases lead

theorem skipBlank_cons (text : isBlank c = false) (s : List Char) :
    skipBlank (c :: s) = c :: s :=
  List.dropWhile_cons_of_neg (by simp [text])

theorem skipBlank_chars (j : Json) (rest : List Char) :
    skipBlank (j.chars ++ rest) = j.chars ++ rest := by
  obtain ⟨c, tail, form, lead⟩ := j.chars_lead
  rw [form, List.cons_append, skipBlank_cons (isBlank_of_kindOfLead lead)]

/-- The items of a list are read up to the closing bracket. -/
theorem items_joined {js : List Json} (nonempty : js ≠ [])
    (each : ∀ j ∈ js, ReadsBack chars (value · depth) j)
    (enough : (joined chars js).length < fuel) :
    items fuel depth (joined chars js ++ ']' :: rest) = some (js, rest) := by
  refine parts_joined (fun fuel => items fuel depth) (by decide) ?_ ?_ nonempty each enough
  · intro fuel s x tail read
    simp [items, read, skipBlank, isBlank]
  · intro fuel s x tail read
    simp [items, read, skipBlank, isBlank]

theorem field_eq_some {f : String × Json} {tail : List Char}
    (read : field fuel depth s = some (f, tail)) :
    ∃ named apart, key s = some (f.1, named) ∧ colon named = some apart ∧
      value fuel depth apart = some (f.2, tail) := by
  simp only [field, Option.bind_eq_bind, Option.bind_eq_some_iff] at read
  obtain ⟨⟨name, named⟩, reads, apart, separated, ⟨j, _⟩, valued, same⟩ := read
  cases same
  exact ⟨named, apart, reads, separated, valued⟩

/-- The fields of an object are read up to the closing brace. -/
theorem fields_joined {fs : List (String × Json)} (nonempty : fs ≠ [])
    (each : ∀ f ∈ fs, ReadsBack fieldChars (field · depth) f)
    (enough : (joined fieldChars fs).length < fuel) :
    fields fuel depth (joined fieldChars fs ++ '}' :: rest) = some (fs, rest) := by
  refine parts_joined (fun fuel => fields fuel depth) (by decide) ?_ ?_ nonempty each enough
  · intro fuel s x tail read
    obtain ⟨named, apart, reads, separated, valued⟩ := field_eq_some read
    simp [fields, reads, separated, valued, skipBlank, isBlank]
  · intro fuel s x tail read
    obtain ⟨named, apart, reads, separated, valued⟩ := field_eq_some read
    simp [fields, reads, separated, valued, skipBlank, isBlank]

/-- A field is read back if its value is. -/
theorem field_fieldChars {f : String × Json} (read : ReadsBack chars (value · depth) f.2) :
    ReadsBack fieldChars (field · depth) f := by
  intro fuel rest enough ends
  have name : key (fieldChars f ++ rest) = some (f.1, ':' :: (f.2.chars ++ rest)) := by
    rw [fieldChars, List.append_assoc, stringChars_append]
    simp [key, skipBlank, isBlank, stringBody_escape]
  have value : value fuel depth (f.2.chars ++ rest) = some (f.2, rest) := by
    rw [fieldChars, List.length_append, List.length_cons] at enough
    exact read (by omega) ends
  simp [field, name, colon, skipBlank, isBlank, value]

/-- A value that is no container is read as a scalar. -/
theorem value_scalar (single : j.kind ∉ [.list, .struct]) (enough : j.chars.length ≤ fuel) :
    value fuel depth (j.chars ++ rest) = scalar (j.chars ++ rest) := by
  obtain ⟨c, tail, form, lead⟩ := j.chars_lead
  rw [form, List.length_cons] at enough
  obtain ⟨fuel, rfl⟩ := Nat.exists_eq_add_one_of_ne_zero (Nat.ne_zero_of_lt enough)
  rw [value, skipBlank_chars, form, List.cons_append]
  split
  · rename_i same
    rw [(List.cons.inj same).1] at lead
    exact absurd (Option.some.inj lead) (fun list => single (by simp [← list]))
  · rename_i same
    rw [(List.cons.inj same).1] at lead
    exact absurd (Option.some.inj lead) (fun struct => single (by simp [← struct]))
  · rfl

theorem value_bracket (fuel depth : Nat) (s : List Char) :
    value (fuel + 1) (depth + 1) ('[' :: s) =
      match skipBlank s with
      | ']' :: rest => some (.arr [], rest)
      | _ => (items fuel depth s).map fun (js, r) => (.arr js, r) := by
  rw [value, skipBlank_cons rfl]
  rfl

theorem value_brace (fuel depth : Nat) (s : List Char) :
    value (fuel + 1) (depth + 1) ('{' :: s) =
      match skipBlank s with
      | '}' :: rest => some (.obj [], rest)
      | _ => (fields fuel depth s).map fun (fs, r) => (.obj fs, r) := by
  rw [value, skipBlank_cons rfl]
  rfl

/-- A list is read if its items are. -/
theorem value_arr {js : List Json} (each : ∀ j ∈ js, ReadsBack chars (value · depth) j) :
    ReadsBack chars (value · (depth + 1)) (.arr js) := by
  intro fuel rest enough _
  have length : (Json.arr js).chars.length = (joined chars js).length + 2 := by
    simp [chars, itemsChars_eq]
  obtain ⟨fuel, rfl⟩ := Nat.exists_eq_add_one_of_ne_zero (Nat.ne_zero_of_lt (length ▸ enough))
  rw [chars_arr_append]
  refine (value_bracket ..).trans ?_
  cases js with
  | nil => rfl
  | cons j js =>
    have read : items fuel depth (joined chars (j :: js) ++ ']' :: rest) = some (j :: js, rest) :=
      items_joined (List.cons_ne_nil j js) each (by omega)
    have notClose (tail : List Char) :
        skipBlank (joined chars (j :: js) ++ ']' :: rest) ≠ ']' :: tail := by
      obtain ⟨c, text, form, other⟩ := lead_ne (show kindOfLead ']' = none by decide) j
      rw [joined_cons, skipBlank_chars, form, List.cons_append]
      exact fun same => other (List.cons.inj same).1
    split
    · rename_i same
      exact absurd same (notClose _)
    · rw [read]
      rfl

/-- An object is read if its fields are. -/
theorem value_obj {fs : List (String × Json)}
    (each : ∀ f ∈ fs, ReadsBack chars (value · depth) f.2) :
    ReadsBack chars (value · (depth + 1)) (.obj fs) := by
  intro fuel rest enough _
  have length : (Json.obj fs).chars.length = (joined fieldChars fs).length + 2 := by
    simp [chars, fieldsChars_eq]
  obtain ⟨fuel, rfl⟩ := Nat.exists_eq_add_one_of_ne_zero (Nat.ne_zero_of_lt (length ▸ enough))
  rw [chars_obj_append]
  refine (value_brace ..).trans ?_
  cases fs with
  | nil => rfl
  | cons f fs =>
    have read : fields fuel depth (joined fieldChars (f :: fs) ++ '}' :: rest) =
        some (f :: fs, rest) :=
      fields_joined (List.cons_ne_nil f fs) (fun f member => field_fieldChars (each f member))
        (by omega)
    rw [read, joined_cons, fieldChars, List.append_assoc, stringChars_append, skipBlank_cons rfl]
    rfl

/-- In front of a comma or a closing bracket a value is read back from its text. -/
theorem value_chars {levels : Nat} (plain : Plain levels j) (deep : levels ≤ depth) :
    ReadsBack chars (value · depth) j := by
  induction plain generalizing depth with
  | null =>
    intro fuel rest enough _
    exact value_scalar (by simp [kind]) enough
  | bool _ b =>
    intro fuel rest enough _
    cases b <;> exact value_scalar (by simp [kind]) enough
  | int _ integer =>
    intro fuel rest enough ends
    exact (value_scalar (by simp [kind, int]) enough).trans (scalar_intChars integer ends)
  | str _ s =>
    intro fuel rest enough _
    refine (value_scalar (by simp [kind]) enough).trans ?_
    rw [chars, stringChars_append]
    simp [scalar, stringBody_escape]
  | arr _ ih =>
    obtain ⟨depth, rfl⟩ := Nat.exists_eq_add_one_of_ne_zero (Nat.ne_zero_of_lt deep)
    exact value_arr fun j member => ih j member (Nat.le_of_succ_le_succ deep)
  | obj _ ih =>
    obtain ⟨depth, rfl⟩ := Nat.exists_eq_add_one_of_ne_zero (Nat.ne_zero_of_lt deep)
    exact value_obj fun field member => ih field member (Nat.le_of_succ_le_succ deep)

/-- A whole text is read back as it was written. -/
theorem document?_text (plain : Plain maxDepth j) : document? j.text = some j := by
  have read : value (2 * j.chars.length + 2) maxDepth (j.chars ++ []) = some (j, []) :=
    value_chars plain le_rfl (by omega) ends_nil
  rw [List.append_nil] at read
  simp [document?, text, read, skipBlank]

end TaskGraph.Json
