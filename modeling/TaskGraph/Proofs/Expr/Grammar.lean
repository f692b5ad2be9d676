import TaskGraph.Expr.Parser

/-! The grammar of expressions, said without a parser. A binary operator takes
operands of the next tighter level on its right and of its own level on its left,
so that equal operators nest to the left. -/

namespace TaskGraph.Expr

inductive Literal : Token → Expr → Prop where
  | null : Literal .null .null
  | true : Literal .true (.bool Bool.true)
  | false : Literal .false (.bool Bool.false)
  | int (n : Int) : Literal (.int n) (.int n)
  | double (x : Float) : Literal (.double x) (.double x)
  | string (s : String) : Literal (.string s) (.string s)

inductive Prefix : Token → UnaryOp → Prop where
  | not : Prefix .not .not
  | minus : Prefix .minus .neg

inductive MapKey : Token → String → Prop where
  | string (s : String) : MapKey (.string s) s
  | identifier (s : String) : MapKey (.identifier s) s

/-- The binary operators of each level, from the loosest level to the tightest. -/
def operators : List (List (Token × BinaryOp)) :=
  [[(.or, .or)],
    [(.and, .and)],
    [(.eq, .eq), (.ne, .ne)],
    [(.lt, .lt), (.le, .le), (.gt, .gt), (.ge, .ge), (.in, .in)],
    [(.plus, .add), (.minus, .sub)],
    [(.star, .mul), (.slash, .div), (.percent, .mod)]]

def Operator (level : Nat) (t : Token) (op : BinaryOp) : Prop :=
  ∃ row, operators[level]? = some row ∧ (t, op) ∈ row

inductive Symbol where
  | conditional
  /-- The operands of the operators of the level before, and what these operators make of them. -/
  | level (k : Nat)
  | unary
  /-- A primary and the accesses after it. -/
  | accessed
  | primary
  /-- One or more expressions with commas between them. -/
  | items
  /-- What stands between brackets: items and possibly a comma after the last one, or nothing. -/
  | sequence
  | entries
  | fields

/-- What a symbol of the grammar is read as. -/
abbrev Symbol.Tree : Symbol → Type
  | .items | .sequence => List Expr
  | .entries | .fields => List (String × Expr)
  | _ => Expr

inductive Derives : (s : Symbol) → List Token → s.Tree → Prop where
  | plain : Derives (.level 0) ts e → Derives .conditional ts e
  | ternary : Derives (.level 0) ts condition → Derives .conditional us yes →
      Derives .conditional vs no →
      Derives .conditional (ts ++ .question :: us ++ .colon :: vs) (.ternary condition yes no)
  | tighter : k < operators.length → Derives (.level (k + 1)) ts e → Derives (.level k) ts e
  | binary : Derives (.level k) ts left → Operator k t op → Derives (.level (k + 1)) us right →
      Derives (.level k) (ts ++ t :: us) (.binary op left right)
  | operand : Derives .unary ts e → Derives (.level operators.length) ts e
  | unary : Prefix t op → Derives .unary ts e → Derives .unary (t :: ts) (.unary op e)
  | unprefixed : Derives .accessed ts e → Derives .unary ts e
  | object : Derives .primary ts e → Derives .accessed ts e
  | member : Derives .accessed ts e →
      Derives .accessed (ts ++ [.dot, .identifier name]) (.member e name)
  | method : Derives .accessed ts e → Derives .sequence us args →
      Derives .accessed (ts ++ .dot :: .identifier name :: .openParen :: us ++ [.closeParen])
        (.call name (e :: args))
  | index : Derives .accessed ts e → Derives .conditional us subscript →
      Derives .accessed (ts ++ .openBracket :: us ++ [.closeBracket]) (.index e subscript)
  | literal : Literal t e → Derives .primary [t] e
  | ident : Derives .primary [.identifier name] (.ident name)
  | call : Derives .sequence ts args →
      Derives .primary (.identifier name :: .openParen :: ts ++ [.closeParen]) (.call name args)
  | group : Derives .conditional ts e → Derives .primary (.openParen :: ts ++ [.closeParen]) e
  | list : Derives .sequence ts items →
      Derives .primary (.openBracket :: ts ++ [.closeBracket]) (.list items)
  | map : Derives .fields ts fields →
      Derives .primary (.openBrace :: ts ++ [.closeBrace]) (.map fields)
  | item : Derives .conditional ts e → Derives .items ts [e]
  | items : Derives .conditional ts e → Derives .items us es →
      Derives .items (ts ++ .comma :: us) (e :: es)
  | none : Derives .sequence [] []
  | all : Derives .items ts es → Derives .sequence ts es
  | trailing : Derives .items ts es → Derives .sequence (ts ++ [.comma]) es
  | entry : MapKey t key → Derives .conditional ts e →
      Derives .entries (t :: .colon :: ts) [(key, e)]
  | entries : MapKey t key → Derives .conditional ts e → Derives .entries us es →
      Derives .entries (t :: .colon :: ts ++ .comma :: us) ((key, e) :: es)
  | noFields : Derives .fields [] []
  | allFields : Derives .entries ts es → Derives .fields ts es
  | trailingField : Derives .entries ts es → Derives .fields (ts ++ [.comma]) es

theorem literal?_eq_some_iff {t : Token} {e : Expr} : literal? t = some e ↔ Literal t e := by
  constructor
  · intro h
    cases t <;> cases h <;> constructor
  · rintro ⟨⟩ <;> rfl

theorem prefixOp?_eq_some_iff {t : Token} {op : UnaryOp} :
    prefixOp? t = some op ↔ Prefix t op := by
  constructor
  · intro h
    cases t <;> cases h <;> constructor
  · rintro ⟨⟩ <;> rfl

theorem mapKey?_eq_some_iff {t : Token} {key : String} : mapKey? t = some key ↔ MapKey t key := by
  constructor
  · intro h
    cases t <;> cases h <;> constructor
  · rintro ⟨⟩ <;> rfl

theorem operator?_eq_some_iff {k : Nat} {t : Token} {op : BinaryOp} :
    operator? k t = some op ↔ Operator k t op := by
  constructor
  · intro h
    unfold operator? at h
    split at h <;> cases h <;> exact ⟨_, rfl, by decide⟩
  · rintro ⟨row, found, member⟩
    have bound := (List.getElem?_eq_some_iff.1 found).1
    have rows : ∀ k < operators.length, ∀ row, operators[k]? = some row →
        ∀ entry ∈ row, operator? k entry.1 = some entry.2 := by
      intro k bound
      have : k = 0 ∨ k = 1 ∨ k = 2 ∨ k = 3 ∨ k = 4 ∨ k = 5 := by
        simp only [operators, List.length_cons, List.length_nil] at bound
        omega
      rcases this with rfl | rfl | rfl | rfl | rfl | rfl <;> rintro _ ⟨⟩ <;> decide
    exact rows k bound row found _ member

/-- An item in front of a sequence, which may be empty. -/
theorem Derives.cons {ts us : List Token} {e : Expr} {es : List Expr}
    (first : Derives .conditional ts e) (others : Derives .sequence us es) :
    Derives .sequence (ts ++ .comma :: us) (e :: es) := by
  cases others with
  | none => exact .trailing (.item first)
  | all items => exact .all (.items first items)
  | @trailing us _ items =>
    have whole := Derives.trailing (.items first items)
    rwa [List.append_assoc, List.cons_append] at whole

theorem Derives.consField {t : Token} {ts us : List Token} {key : String} {e : Expr}
    {es : List (String × Expr)} (named : MapKey t key) (first : Derives .conditional ts e)
    (others : Derives .fields us es) :
    Derives .fields (t :: .colon :: ts ++ .comma :: us) ((key, e) :: es) := by
  cases others with
  | noFields => exact .trailingField (.entry named first)
  | allFields entries => exact .allFields (.entries named first entries)
  | @trailingField us _ entries =>
    have whole := Derives.trailingField (.entries named first entries)
    rwa [List.append_assoc, List.cons_append] at whole

/-- The tokens with which a primary starts. -/
def isPrimaryLead : Token → Bool
  | .null | .true | .false | .int _ | .double _ | .string _ | .identifier _ => true
  | .openParen | .openBracket | .openBrace => true
  | _ => false

/-- The tokens with which an expression starts. -/
def isLead (t : Token) : Bool := isPrimaryLead t || t = .not || t = .minus

theorem isLead_of_primary {t : Token} (h : isPrimaryLead t) : isLead t := by
  simp [isLead, h]

theorem Literal.lead {t : Token} {e : Expr} (h : Literal t e) : isPrimaryLead t := by
  cases h <;> rfl

theorem MapKey.lead {t : Token} {key : String} (h : MapKey t key) : isPrimaryLead t := by
  cases h <;> rfl

theorem Prefix.lead {t : Token} {op : UnaryOp} (h : Prefix t op) : isLead t := by
  cases h <;> rfl

theorem MapKey.ne_eof {t : Token} {key : String} (h : MapKey t key) : t ≠ .eof := by
  cases h <;> simp

theorem Literal.ne_eof {t : Token} {e : Expr} (h : Literal t e) : t ≠ .eof := by
  cases h <;> simp

theorem Prefix.ne_eof {t : Token} {op : UnaryOp} (h : Prefix t op) : t ≠ .eof := by
  cases h <;> simp

theorem Operator.ne_eof {k : Nat} {t : Token} {op : BinaryOp} (h : Operator k t op) :
    t ≠ .eof := by
  rintro rfl
  rw [← operator?_eq_some_iff] at h
  simp [operator?] at h

theorem Operator.level_lt {k : Nat} {t : Token} {op : BinaryOp} (h : Operator k t op) :
    k < operators.length := by
  obtain ⟨row, found, _⟩ := h
  exact (List.getElem?_eq_some_iff.1 found).1

def StartsWith (p : Token → Bool) (ts : List Token) : Prop := ∃ t us, ts = t :: us ∧ p t

theorem StartsWith.append {p : Token → Bool} {ts : List Token} (h : StartsWith p ts)
    (us : List Token) : StartsWith p (ts ++ us) := by
  obtain ⟨t, rest, rfl, lead⟩ := h
  exact ⟨t, _, rfl, lead⟩

theorem StartsWith.imp {p q : Token → Bool} {ts : List Token} (h : StartsWith p ts)
    (weaker : ∀ t, p t → q t) : StartsWith q ts := by
  obtain ⟨t, rest, rfl, lead⟩ := h
  exact ⟨t, _, rfl, weaker t lead⟩

/-- What a symbol other than an empty sequence starts with. -/
def Symbol.Leads : Symbol → List Token → Prop
  | .sequence | .fields => fun _ => True
  | .accessed | .primary | .entries => StartsWith isPrimaryLead
  | _ => StartsWith isLead

theorem Derives.leads {s : Symbol} {ts : List Token} {x : s.Tree} (h : Derives s ts x) :
    s.Leads ts := by
  induction h with
  | plain _ ih => exact ih
  | ternary _ _ _ ih => exact (ih.append _).append _
  | tighter _ _ ih => exact ih
  | binary _ _ _ ih => exact ih.append _
  | operand _ ih => exact ih
  | unary op _ _ => exact ⟨_, _, rfl, op.lead⟩
  | unprefixed _ ih => exact ih.imp fun _ => isLead_of_primary
  | object _ ih => exact ih
  | member _ ih => exact ih.append _
  | method _ _ ih => exact (ih.append _).append _
  | index _ _ ih => exact (ih.append _).append _
  | literal l => exact ⟨_, _, rfl, l.lead⟩
  | ident => exact ⟨_, _, rfl, rfl⟩
  | call => exact ⟨_, _, rfl, rfl⟩
  | group => exact ⟨_, _, rfl, rfl⟩
  | list => exact ⟨_, _, rfl, rfl⟩
  | map => exact ⟨_, _, rfl, rfl⟩
  | item _ ih => exact ih
  | items _ _ ih => exact ih.append _
  | entry key => exact ⟨_, _, rfl, key.lead⟩
  | entries key => exact ⟨_, _, rfl, key.lead⟩
  | _ => trivial

/-- The end of the input is part of no expression. -/
theorem Derives.eof_notMem {s : Symbol} {ts : List Token} {x : s.Tree} (h : Derives s ts x) :
    .eof ∉ ts := by
  induction h with
  | binary _ op => simp_all [op.ne_eof.symm]
  | unary op => cases op <;> simp_all
  | literal l => cases l <;> simp
  | entry key => cases key <;> simp_all
  | entries key => cases key <;> simp_all
  | _ => simp_all

end TaskGraph.Expr
