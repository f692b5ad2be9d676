import TaskGraph.Proofs.Json.Same
import TaskGraph.Proofs.Json.Strings

/-! Unique texts. In front of a comma or a closing bracket the text of a value can be
read in one way only, so two values have the same text exactly if they are alike. -/

namespace TaskGraph.Json

/-- Induction over a value, with what holds of its items and of the values of its fields. -/
theorem induct {motive : Json → Prop} (null : motive .null) (bool : ∀ b, motive (.bool b))
    (num : ∀ n, motive (.num n)) (str : ∀ s, motive (.str s))
    (arr : ∀ items, (∀ j ∈ items, motive j) → motive (.arr items))
    (obj : ∀ fields, (∀ field ∈ fields, motive field.2) → motive (.obj fields)) (j : Json) :
    motive j :=
  @Json.rec motive (fun items => ∀ j ∈ items, motive j)
    (fun fields => ∀ field ∈ fields, motive field.2) (fun field => motive field.2)
    null bool num str arr obj
    (fun _ member => absurd member List.not_mem_nil)
    (fun _ _ first rest => List.forall_mem_cons.2 ⟨first, rest⟩)
    (fun _ member => absurd member List.not_mem_nil)
    (fun _ _ first rest => List.forall_mem_cons.2 ⟨first, rest⟩)
    (fun _ _ value => value) j

/-- What may follow a value inside a text. -/
def Ends (s : List Char) : Prop := ∀ c rest, s = c :: rest → c ∈ [',', ']', '}']

theorem ends_nil : Ends [] := nofun

theorem ends_cons {c : Char} (member : c ∈ [',', ']', '}']) (rest : List Char) :
    Ends (c :: rest) := by
  rintro _ _ ⟨⟩
  exact member

theorem Ends.not_numeric {c : Char} {rest : List Char} (ends : Ends (c :: rest)) :
    ¬ isNumeric c := by
  have delimiters : ∀ c ∈ [',', ']', '}'], ¬ isNumeric c := by simp [isNumeric]
  exact delimiters c (ends c rest rfl)

/-- A number ends where the next character is none of a number. -/
theorem numeric_append_inj {xs ys rest rest' : List Char} (left : ∀ c ∈ xs, isNumeric c)
    (right : ∀ c ∈ ys, isNumeric c) (ends : Ends rest) (ends' : Ends rest')
    (h : xs ++ rest = ys ++ rest') : xs = ys ∧ rest = rest' := by
  induction xs generalizing ys with
  | nil =>
    cases ys with
    | nil => exact ⟨rfl, h⟩
    | cons c ys =>
      rw [List.nil_append, List.cons_append] at h
      exact absurd (right c List.mem_cons_self) (h ▸ ends).not_numeric
  | cons c xs ih =>
    cases ys with
    | nil =>
      rw [List.nil_append, List.cons_append] at h
      exact absurd (left c List.mem_cons_self) (h ▸ ends').not_numeric
    | cons d ys =>
      obtain ⟨rfl, tail⟩ := List.cons.inj h
      obtain ⟨same, rest⟩ := ih (List.forall_mem_cons.1 left).2 (List.forall_mem_cons.1 right).2 tail
      exact ⟨congrArg _ same, rest⟩

/-- The kind of a value, by the first character of its text. -/
def kindOfLead : Char → Option Kind
  | 'n' => some .null
  | 't' | 'f' => some .bool
  | '"' => some .string
  | '[' => some .list
  | '{' => some .struct
  | c => if isNumberLead c then some .number else none

theorem kindOfLead_number {c : Char} (lead : isNumberLead c) : kindOfLead c = some .number := by
  unfold kindOfLead
  split
  · cases lead
  · cases lead
  · cases lead
  · cases lead
  · cases lead
  · cases lead
  · rw [if_pos lead]

theorem chars_lead (j : Json) : ∃ c rest, j.chars = c :: rest ∧ kindOfLead c = some j.kind := by
  cases j with
  | null => exact ⟨'n', _, rfl, rfl⟩
  | bool b => cases b with
    | true => exact ⟨'t', _, rfl, rfl⟩
    | false => exact ⟨'f', _, rfl, rfl⟩
  | num n =>
    obtain ⟨c, rest, form, lead⟩ := (isNumberText_numberChars n).lead
    exact ⟨c, rest, form, kindOfLead_number lead⟩
  | str s => exact ⟨'"', _, rfl, rfl⟩
  | arr items => exact ⟨'[', _, rfl, rfl⟩
  | obj fields => exact ⟨'{', _, rfl, rfl⟩

theorem text_ne_empty (j : Json) : j.text ≠ "" := by
  obtain ⟨c, rest, form, _⟩ := j.chars_lead
  intro empty
  have none := congrArg String.toList empty
  simp [text, form] at none

theorem kind_eq_of_append {a b : Json} {rest rest' : List Char}
    (h : a.chars ++ rest = b.chars ++ rest') : a.kind = b.kind := by
  obtain ⟨c, tail, form, kind⟩ := a.chars_lead
  obtain ⟨c', tail', form', kind'⟩ := b.chars_lead
  rw [form, form'] at h
  rw [(List.cons.inj h).1, kind'] at kind
  exact (Option.some.inj kind).symm

section Joined

variable {α : Type} {f : α → List Char} {related : α → α → Prop} {close : Char}
  {rest rest' : List Char}

/-- Parts with commas between them. -/
def joined (f : α → List Char) : List α → List Char
  | [] => []
  | [x] => f x
  | x :: xs => f x ++ ',' :: joined f xs

/-- What follows a part: the closing bracket, or a comma and the other parts. -/
def afterPart (f : α → List Char) (close : Char) (rest : List Char) : List α → List Char
  | [] => close :: rest
  | xs => ',' :: (joined f xs ++ close :: rest)

theorem joined_cons (x : α) (xs : List α) :
    joined f (x :: xs) ++ close :: rest = f x ++ afterPart f close rest xs := by
  cases xs <;> simp [joined, afterPart]

theorem ends_afterPart (closes : close ∈ [']', '}']) (xs : List α) :
    Ends (afterPart f close rest xs) := by
  cases xs with
  | nil => exact ends_cons (List.mem_cons_of_mem _ closes) _
  | cons x xs => exact ends_cons List.mem_cons_self _

/-- Joined parts can be read in one way if each part can. -/
theorem joined_append_inj (closes : close ∈ [']', '}'])
    (lead : ∀ x, ∃ c tail, f x = c :: tail ∧ c ≠ close) {xs ys : List α}
    (each : ∀ x ∈ xs, ∀ y rest rest', Ends rest → Ends rest' → f x ++ rest = f y ++ rest' →
      related x y ∧ rest = rest')
    (h : joined f xs ++ close :: rest = joined f ys ++ close :: rest') :
    List.Forall₂ related xs ys ∧ rest = rest' := by
  have notComma : close ≠ ',' := by
    rintro rfl
    exact absurd closes (by decide)
  have notEmpty (x : α) (xs : List α) {r r' : List Char} :
      close :: r ≠ joined f (x :: xs) ++ close :: r' := by
    obtain ⟨c, tail, form, other⟩ := lead x
    rw [joined_cons, form]
    exact fun same => other (List.cons.inj same).1.symm
  induction xs generalizing ys with
  | nil =>
    cases ys with
    | nil => exact ⟨.nil, (List.cons.inj h).2⟩
    | cons y ys => exact absurd h (notEmpty y ys)
  | cons x xs ih =>
    obtain ⟨first, others⟩ := List.forall_mem_cons.1 each
    cases ys with
    | nil => exact absurd h.symm (notEmpty x xs)
    | cons y ys =>
      rw [joined_cons, joined_cons] at h
      obtain ⟨same, after⟩ := first y _ _ (ends_afterPart closes xs) (ends_afterPart closes ys) h
      cases xs with
      | nil =>
        cases ys with
        | nil => exact ⟨.cons same .nil, (List.cons.inj after).2⟩
        | cons y' ys => exact absurd (List.cons.inj after).1 notComma
      | cons x' xs =>
        cases ys with
        | nil => exact absurd (List.cons.inj after).1.symm notComma
        | cons y' ys =>
          obtain ⟨tail, rest⟩ := ih others (List.cons.inj after).2
          exact ⟨.cons same tail, rest⟩

theorem joined_congr {xs ys : List α} (same : List.Forall₂ (fun x y => f x = f y) xs ys) :
    joined f xs = joined f ys := by
  induction same with
  | nil => rfl
  | @cons x y xs ys first rest ih =>
    cases rest with
    | nil => exact first
    | cons => simp only [joined, first, ih]

end Joined

def fieldChars (field : String × Json) : List Char := stringChars field.1 ++ ':' :: field.2.chars

theorem itemsChars_eq (items : List Json) : itemsChars items = joined chars items := by
  induction items with
  | nil => rfl
  | cons j rest ih => cases rest <;> simp_all [itemsChars, joined]

theorem fieldsChars_eq (fields : List (String × Json)) :
    fieldsChars fields = joined fieldChars fields := by
  induction fields with
  | nil => rfl
  | cons field rest ih => cases rest <;> simp_all [fieldsChars, joined, fieldChars]

theorem chars_arr_append (items : List Json) (rest : List Char) :
    (Json.arr items).chars ++ rest = '[' :: (joined chars items ++ ']' :: rest) := by
  simp [chars, itemsChars_eq]

theorem chars_obj_append (fields : List (String × Json)) (rest : List Char) :
    (Json.obj fields).chars ++ rest = '{' :: (joined fieldChars fields ++ '}' :: rest) := by
  simp [chars, fieldsChars_eq]

theorem lead_ne {close : Char} (foreign : kindOfLead close = none) (j : Json) :
    ∃ c tail, j.chars = c :: tail ∧ c ≠ close := by
  obtain ⟨c, tail, form, kind⟩ := j.chars_lead
  refine ⟨c, tail, form, ?_⟩
  rintro rfl
  rw [foreign] at kind
  cases kind

theorem fieldChars_append_inj {a b : String × Json} {rest rest' : List Char}
    (value : ∀ {b : Json} {rest rest' : List Char}, Ends rest → Ends rest' →
      a.2.chars ++ rest = b.chars ++ rest' → a.2.kind = b.kind → Alike a.2 b ∧ rest = rest')
    (ends : Ends rest) (ends' : Ends rest') (h : fieldChars a ++ rest = fieldChars b ++ rest') :
    (a.1 = b.1 ∧ Alike a.2 b.2) ∧ rest = rest' := by
  simp only [fieldChars, List.append_assoc] at h
  obtain ⟨key, after⟩ := stringChars_append_inj h
  have values : a.2.chars ++ rest = b.2.chars ++ rest' := (List.cons.inj after).2
  obtain ⟨same, rest⟩ := value ends ends' values (kind_eq_of_append values)
  exact ⟨⟨key, same⟩, rest⟩

/-- In front of a comma or a closing bracket a text can be read in one way. -/
theorem chars_append_inj {a b : Json} {rest rest' : List Char} (ends : Ends rest)
    (ends' : Ends rest') (h : a.chars ++ rest = b.chars ++ rest') : Alike a b ∧ rest = rest' := by
  have sameKind := kind_eq_of_append h
  induction a using induct generalizing b rest rest' with
  | null =>
    cases b with
    | null => exact ⟨trivial, List.append_cancel_left h⟩
    | _ => cases sameKind
  | bool x =>
    cases b with
    | bool y =>
      have same : x = y := by
        cases x <;> cases y
        · rfl
        · cases (List.cons.inj h).1
        · cases (List.cons.inj h).1
        · rfl
      subst same
      exact ⟨rfl, List.append_cancel_left h⟩
    | _ => cases sameKind
  | num n =>
    cases b with
    | num m =>
      obtain ⟨same, rest⟩ := numeric_append_inj (isNumberText_numberChars n).numeric
        (isNumberText_numberChars m).numeric ends ends' h
      exact ⟨numberChars_eq_iff.1 same, rest⟩
    | _ => cases sameKind
  | str s =>
    cases b with
    | str t => exact stringChars_append_inj h
    | _ => cases sameKind
  | arr items ih =>
    cases b with
    | arr items' =>
      rw [chars_arr_append, chars_arr_append] at h
      obtain ⟨same, rest⟩ := joined_append_inj (by decide) (lead_ne (by decide))
        (fun x member y r r' ends ends' h => ih x member ends ends' h (kind_eq_of_append h))
        (List.cons.inj h).2
      exact ⟨alikeItems_iff.2 same, rest⟩
    | _ => cases sameKind
  | obj fields ih =>
    cases b with
    | obj fields' =>
      rw [chars_obj_append, chars_obj_append] at h
      obtain ⟨same, rest⟩ := joined_append_inj (by decide)
        (fun field => ⟨'"', _, rfl, by decide⟩)
        (fun x member y r r' ends ends' h => fieldChars_append_inj (ih x member) ends ends' h)
        (List.cons.inj h).2
      exact ⟨alikeFields_iff.2 same, rest⟩
    | _ => cases sameKind

theorem Alike.chars_eq {a b : Json} (alike : Alike a b) : a.chars = b.chars := by
  induction a using Json.induct generalizing b with
  | null =>
    cases b with
    | null => rfl
    | _ => exact alike.elim
  | bool x =>
    cases b with
    | bool y => exact congrArg (fun b => (Json.bool b).chars) alike
    | _ => exact alike.elim
  | num n =>
    cases b with
    | num m => exact numberChars_eq_iff.2 alike
    | _ => exact alike.elim
  | str s =>
    cases b with
    | str t => exact congrArg stringChars alike
    | _ => exact alike.elim
  | arr items ih =>
    cases b with
    | arr items' =>
      have parts : List.Forall₂ (fun x y => x.chars = y.chars) items items' :=
        ((List.forall₂_and_left _ _).2 ⟨ih, alikeItems_iff.1 alike⟩).imp fun x y h => h.1 h.2
      rw [chars, chars, itemsChars_eq, itemsChars_eq, joined_congr parts]
    | _ => exact alike.elim
  | obj fields ih =>
    cases b with
    | obj fields' =>
      have parts : List.Forall₂ (fun x y => fieldChars x = fieldChars y) fields fields' := by
        refine ((List.forall₂_and_left _ _).2 ⟨ih, alikeFields_iff.1 alike⟩).imp fun x y h => ?_
        rw [fieldChars, fieldChars, h.2.1, h.1 h.2.2]
      rw [chars, chars, fieldsChars_eq, fieldsChars_eq, joined_congr parts]
    | _ => exact alike.elim

/-- Two values have the same text exactly if they are alike. -/
theorem text_eq_iff {a b : Json} : a.text = b.text ↔ Alike a b := by
  constructor
  · intro h
    have same : a.chars ++ [] = b.chars ++ [] := by
      rw [List.append_nil, List.append_nil]
      exact String.ofList_injective h
    exact (chars_append_inj ends_nil ends_nil same).1
  · exact fun alike => congrArg String.ofList alike.chars_eq

end TaskGraph.Json
