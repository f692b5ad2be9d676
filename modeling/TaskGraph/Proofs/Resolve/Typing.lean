import TaskGraph.Proofs.Resolve.Parameters

/-! Types of resolved inputs. The check of a declared parameter looks at its value only and
leaves a value of the declared type, so what is handed to a task is well typed and would
pass the check again. -/

namespace TaskGraph

/-- The values of a declared type. The types that are not listed have none. -/
inductive ParameterType.Admits : ParameterType → Json → Prop where
  | string (text : String) : Admits .string (.str text)
  | numberDouble (n : JsonNumber) : Admits .numberDouble (.num n)
  | numberInteger (n : JsonNumber) : Admits .numberInteger (.num n)
  | boolean (b : Bool) : Admits .boolean (.bool b)
  | list (items : List Json) : Admits .list (.arr items)
  | struct (fields : List (String × Json)) : Admits .struct (.obj fields)

/-- The parameters that are not checked: the item where there is no iteration, and the list of
items in one. -/
def TaskSpec.Exempts (task : TaskSpec) (iteration : Bool) (name : String) : Prop :=
  ∃ i, task.parameterIterator = some i ∧
    if iteration then i.items.inputParameter = some name else i.itemInput = name

theorem isExempt_iff {task : TaskSpec} {iteration : Bool} {name : String} :
    isExempt task iteration name = true ↔ task.Exempts iteration name := by
  unfold isExempt TaskSpec.Exempts
  cases task.parameterIterator <;> cases iteration <;> simp

/-- What the check leaves of a declared parameter. -/
inductive InputParameterDefinition.Checks (d : InputParameterDefinition) :
    Option Json → Option Json → Prop where
  | absent : d.isOptional = true ∨ d.defaultValue.isSome = true → Checks d none none
  | present {value value' : Json} : d.type.Admits value' →
      value.HandedOn (d.type = .string) value' → Checks d (some value) (some value')

variable {task : TaskSpec} {component : ComponentSpec} {iteration : Bool} {name : String}
  {definition : InputParameterDefinition} {before after : Dict Json}

theorem ParameterType.accepts_iff {type : ParameterType} {value : Json} (other : type ≠ .string) :
    type.accepts value.kind = true ↔ type.Admits value := by
  constructor
  · intro h
    cases type <;> cases value <;> first | constructor | exact absurd rfl other | cases h
  · intro admits
    cases admits <;> rfl

theorem checkValue_ok_iff {type : ParameterType} {value value' : Json} :
    checkValue name type value = .ok value' ↔
      type.Admits value' ∧ value.HandedOn (type = .string) value' := by
  constructor
  · intro h
    refine ⟨?_, checkValue_handedOn h⟩
    unfold checkValue at h
    split at h
    · rename_i text
      obtain ⟨⟩ := h
      exact text ▸ .string _
    · rename_i other
      split at h
      · cases h
      · split at h
        · rename_i accepted
          obtain ⟨⟩ := h
          exact (ParameterType.accepts_iff other).1 accepted
        · cases h
  · rintro ⟨admits, rfl | ⟨rfl, rfl⟩⟩
    · cases admits <;> rfl
    · rfl

/-- Where each step of a fold is about one key and no key occurs twice, every key is met by its own
step only. -/
theorem foldlM_each_key {α β ε : Type} {f : Dict α → String × β → Except ε (Dict α)}
    {R : String → β → Option α → Option α → Prop}
    (step : ∀ m k x m', f m (k, x) = .ok m' →
      R k x (m.get? k) (m'.get? k) ∧ ∀ l, l ≠ k → m'.get? l = m.get? l)
    {es : List (String × β)} (distinct : es.Pairwise (fun a b => a.1 ≠ b.1)) {m m' : Dict α}
    (h : es.foldlM f m = .ok m') :
    (∀ k x, (k, x) ∈ es → R k x (m.get? k) (m'.get? k)) ∧
      ∀ l, (∀ e ∈ es, l ≠ e.1) → m'.get? l = m.get? l := by
  induction es generalizing m with
  | nil =>
    obtain ⟨⟩ := h
    simp
  | cons e rest ih =>
    obtain ⟨k, x⟩ := e
    obtain ⟨apart, distinct⟩ := List.pairwise_cons.1 distinct
    rw [List.foldlM_cons] at h
    obtain ⟨middle, first, h⟩ := bind_eq_ok_iff.1 h
    obtain ⟨own, others⟩ := step m k x middle first
    obtain ⟨later, kept⟩ := ih distinct h
    constructor
    · intro k' x' member
      rcases List.mem_cons.1 member with here | member
      · obtain ⟨rfl, rfl⟩ := Prod.mk.inj here
        rw [kept _ apart]
        exact own
      · rw [← others _ (apart _ member).symm]
        exact later k' x' member
    · intro l absent
      obtain ⟨here, absent⟩ := List.forall_mem_cons.1 absent
      rw [kept l absent, others l here]

/-- Such a fold succeeds if each step accepts what its key holds at first. -/
theorem foldlM_each_key_total {α β ε : Type} {f : Dict α → String × β → Except ε (Dict α)}
    {A : String → β → Option α → Prop}
    (step : ∀ m k x, A k x (m.get? k) →
      ∃ m', f m (k, x) = .ok m' ∧ ∀ l, l ≠ k → m'.get? l = m.get? l)
    {es : List (String × β)} (distinct : es.Pairwise (fun a b => a.1 ≠ b.1)) {m : Dict α}
    (accepted : ∀ k x, (k, x) ∈ es → A k x (m.get? k)) : ∃ m', es.foldlM f m = .ok m' := by
  induction es generalizing m with
  | nil => exact ⟨m, rfl⟩
  | cons e rest ih =>
    obtain ⟨k, x⟩ := e
    obtain ⟨apart, distinct⟩ := List.pairwise_cons.1 distinct
    obtain ⟨middle, first, others⟩ := step m k x (accepted k x List.mem_cons_self)
    have later (k' : String) (x' : β) (member : (k', x') ∈ rest) : A k' x' (middle.get? k') := by
      rw [others k' (apart _ member).symm]
      exact accepted k' x' (List.mem_cons_of_mem _ member)
    obtain ⟨m', done⟩ := ih distinct later
    exact ⟨m', by rw [List.foldlM_cons, first, ok_bind, done]⟩

theorem checkParameter_ok (h : checkParameter before name definition = .ok after) :
    definition.Checks (before.get? name) (after.get? name) ∧
      ∀ other, other ≠ name → after.get? other = before.get? other := by
  unfold checkParameter at h
  split at h
  · rename_i value found
    obtain ⟨value', passes, done⟩ := bind_eq_ok_iff.1 h
    obtain ⟨⟩ := done
    obtain ⟨admits, handedOn⟩ := checkValue_ok_iff.1 passes
    rw [found, SortedMap.get?_insert_self]
    refine ⟨.present admits handedOn, fun other apart => ?_⟩
    rw [SortedMap.get?_insert, if_neg apart]
  · rename_i missing
    split at h
    · rename_i leaves
      obtain ⟨⟩ := h
      rw [missing]
      exact ⟨.absent (by simpa using leaves), fun _ _ => rfl⟩
    · cases h

theorem checkParameter_total {left? : Option Json}
    (checks : definition.Checks (before.get? name) left?) :
    ∃ after, checkParameter before name definition = .ok after := by
  unfold checkParameter
  generalize before.get? name = value? at checks
  cases checks with
  | absent leaves => exact ⟨before, by simp [leaves, pure, Except.pure]⟩
  | @present value value' admits handedOn =>
    refine ⟨before.insert name value', ?_⟩
    dsimp only
    rw [checkValue_ok_iff.2 ⟨admits, handedOn⟩]
    rfl

/-- Each declared parameter is checked by itself, unless it is exempt; the others are left. -/
theorem checkParameters_ok (h : checkParameters task component iteration before = .ok after) :
    (∀ name definition, component.inputs.parameters.get? name = some definition →
      ¬ task.Exempts iteration name → definition.Checks (before.get? name) (after.get? name)) ∧
    ∀ name, (∀ definition, component.inputs.parameters.get? name = some definition →
      task.Exempts iteration name) → after.get? name = before.get? name := by
  have step (ps : Dict Json) (name : String) (definition : InputParameterDefinition)
      (ps' : Dict Json) (h : (if isExempt task iteration name then .ok ps
        else checkParameter ps name definition) = .ok ps') :
      ((task.Exempts iteration name → ps'.get? name = ps.get? name) ∧
        (¬ task.Exempts iteration name → definition.Checks (ps.get? name) (ps'.get? name))) ∧
      ∀ other, other ≠ name → ps'.get? other = ps.get? other := by
    rw [← isExempt_iff]
    split at h
    · rename_i exempt
      obtain ⟨⟩ := h
      exact ⟨⟨fun _ => rfl, fun checked => absurd exempt checked⟩, fun _ _ => rfl⟩
    · rename_i checked
      obtain ⟨checks, kept⟩ := checkParameter_ok h
      exact ⟨⟨fun exempt => absurd exempt checked, fun _ => checks⟩, kept⟩
  obtain ⟨declared, others⟩ := foldlM_each_key (R := fun name definition x y =>
    (task.Exempts iteration name → y = x) ∧ (¬ task.Exempts iteration name → definition.Checks x y))
    step component.inputs.parameters.distinct h
  constructor
  · intro name definition found
    exact (declared name definition (SortedMap.get?_eq_some_iff.1 found)).2
  · intro name exempt
    cases found : component.inputs.parameters.get? name with
    | none =>
      refine others name fun e member same => ?_
      rw [same, SortedMap.get?_eq_some_iff.2 member] at found
      cases found
    | some definition =>
      exact (declared name definition (SortedMap.get?_eq_some_iff.1 found)).1
        (exempt definition found)

/-- The check passes exactly if it does for each declared parameter by itself. -/
theorem checkParameters_passes_iff :
    (∃ after, checkParameters task component iteration before = .ok after) ↔
      ∀ name definition, component.inputs.parameters.get? name = some definition →
        ¬ task.Exempts iteration name → ∃ left?, definition.Checks (before.get? name) left? := by
  constructor
  · rintro ⟨after, h⟩ name definition declared checked
    exact ⟨_, (checkParameters_ok h).1 name definition declared checked⟩
  · intro accepted
    refine foldlM_each_key_total (A := fun name definition value? =>
      ¬ task.Exempts iteration name → ∃ left?, definition.Checks value? left?)
      (fun ps name definition accepts => ?_) component.inputs.parameters.distinct
      fun name definition member => accepted name definition (SortedMap.get?_eq_some_iff.2 member)
    dsimp only
    split
    · exact ⟨ps, rfl, fun _ _ => rfl⟩
    · rename_i checked
      obtain ⟨left?, checks⟩ := accepts fun exempt => checked (isExempt_iff.2 exempt)
      obtain ⟨ps', passes⟩ := checkParameter_total checks
      exact ⟨ps', passes, (checkParameter_ok passes).2⟩

/-- A parameter that was checked passes again as it is. -/
theorem checkParameter_again {value? : Option Json}
    (checks : definition.Checks value? (after.get? name)) :
    checkParameter after name definition = .ok after := by
  unfold checkParameter
  generalize found : after.get? name = value'? at checks
  cases checks with
  | absent leaves => simp [leaves, pure, Except.pure]
  | present admits _ =>
    have same : after.insert name _ = after := SortedMap.insert_of_get? found
    simp [checkValue_ok_iff.2 ⟨admits, .refl _ _⟩, bind, Except.bind, pure, Except.pure, same]

theorem foldlM_fixed {α β ε : Type} {f : β → α → Except ε β} {xs : List α} {b : β}
    (fixed : ∀ x ∈ xs, f b x = .ok b) : xs.foldlM f b = .ok b := by
  induction xs with
  | nil => rfl
  | cons x rest ih =>
    obtain ⟨first, fixed⟩ := List.forall_mem_cons.1 fixed
    rw [List.foldlM_cons, first, ok_bind]
    exact ih fixed

theorem checkParameters_again (h : checkParameters task component iteration before = .ok after) :
    checkParameters task component iteration after = .ok after := by
  refine foldlM_fixed fun ⟨name, definition⟩ member => ?_
  dsimp only
  split
  · rfl
  · rename_i checked
    refine checkParameter_again ((checkParameters_ok h).1 name definition
      (SortedMap.get?_eq_some_iff.2 member) fun exempt => ?_)
    exact checked (isExempt_iff.2 exempt)

/-- Every parameter of one map is in the other as it is, or as text where the component takes texts;
no parameter is added. -/
def OnlyTexts (component : ComponentSpec) (before after : Dict Json) : Prop :=
  ∀ name, after.get? name = before.get? name ∨
    ∃ definition value, component.inputs.parameters.get? name = some definition ∧
      definition.type = .string ∧ before.get? name = some value ∧ value.kind ≠ .string ∧
      after.get? name = some (.str value.plainText)

namespace InputParameterDefinition.Checks

variable {value? value'? : Option Json}

theorem absent_or_typed (checks : definition.Checks value? value'?) :
    (value'? = none ∧ (definition.isOptional = true ∨ definition.defaultValue.isSome = true)) ∨
      ∃ value, value'? = some value ∧ definition.type.Admits value := by
  cases checks with
  | absent leaves => exact .inl ⟨rfl, leaves⟩
  | present admits _ => exact .inr ⟨_, rfl, admits⟩

theorem same_or_text (checks : definition.Checks value? value'?) : value'? = value? ∨
      ∃ value, definition.type = .string ∧ value? = some value ∧ value.kind ≠ .string ∧
        value'? = some (.str value.plainText) := by
  cases checks with
  | absent => exact .inl rfl
  | @present value _ _ handedOn =>
    rcases handedOn with rfl | ⟨text, rfl⟩
    · exact .inl rfl
    · cases value with
      | str => exact .inl rfl
      | _ => exact .inr ⟨_, text, rfl, by simp [Json.kind], rfl⟩

end InputParameterDefinition.Checks

theorem onlyTexts_of_checkParameters
    (h : checkParameters task component iteration before = .ok after) :
    OnlyTexts component before after := by
  intro name
  obtain ⟨checked, others⟩ := checkParameters_ok h
  by_cases plain : ∀ definition, component.inputs.parameters.get? name = some definition →
      task.Exempts iteration name
  · exact .inl (others name plain)
  · obtain ⟨definition, declared, notExempt⟩ : ∃ definition,
        component.inputs.parameters.get? name = some definition ∧ ¬ task.Exempts iteration name := by
      simpa using plain
    rcases (checked name definition declared notExempt).same_or_text with
      same | ⟨value, text, found, other, taken⟩
    · exact .inl same
    · exact .inr ⟨definition, value, declared, text, found, other, taken⟩

variable {s : Services} {w w' : World}

/-- What a task is handed has passed the check. -/
theorem TaskScope.inputs_checked {scope : TaskScope} {inputs : ExecutorInputs}
    (known : scope.options.task = some task) (described : scope.options.component = some component)
    (h : scope.inputs.run s w = (.ok inputs, w')) :
    ∃ before, checkParameters task component scope.options.iteration?.isSome before =
      .ok inputs.parameters := by
  obtain ⟨_, _, selected, _, _, _, _, passes, _⟩ := TaskScope.inputs_ok known described h
  exact ⟨selected, passes⟩

/-- A declared parameter that a task is handed has a value of its type, and one that it is not handed
may be left out. The check passes exactly if each declared parameter does by itself; it only takes
texts of values, and it changes nothing the second time. -/
theorem resolved_inputs_typed (task : TaskSpec) (component : ComponentSpec) :
    (∀ (scope : TaskScope) s w inputs w', scope.options.task = some task →
      scope.options.component = some component → scope.inputs.run s w = (.ok inputs, w') →
      (∃ before, checkParameters task component scope.options.iteration?.isSome before =
        .ok inputs.parameters) ∧
      ∀ name definition, component.inputs.parameters.get? name = some definition →
        ¬ task.Exempts scope.options.iteration?.isSome name →
        (inputs.parameters.get? name = none ∧
          (definition.isOptional = true ∨ definition.defaultValue.isSome = true)) ∨
        ∃ value, inputs.parameters.get? name = some value ∧ definition.type.Admits value) ∧
    ∀ iteration before,
      ((∃ after, checkParameters task component iteration before = .ok after) ↔
        ∀ name definition, component.inputs.parameters.get? name = some definition →
          ¬ task.Exempts iteration name → ∃ left?, definition.Checks (before.get? name) left?) ∧
      ∀ after, checkParameters task component iteration before = .ok after →
        OnlyTexts component before after ∧
        (∀ name, task.Exempts iteration name → after.get? name = before.get? name) ∧
        checkParameters task component iteration after = .ok after := by
  constructor
  · intro scope s w inputs w' known described h
    obtain ⟨before, passed⟩ := TaskScope.inputs_checked known described h
    refine ⟨⟨before, passed⟩, fun name definition declared checked => ?_⟩
    exact ((checkParameters_ok passed).1 name definition declared checked).absent_or_typed
  · intro iteration before
    refine ⟨checkParameters_passes_iff, fun after h => ?_⟩
    exact ⟨onlyTexts_of_checkParameters h,
      fun name exempt => (checkParameters_ok h).2 name fun _ _ => exempt, checkParameters_again h⟩

namespace Typed

/-- A flag, a list that is taken as text, an input that is left out and the item of a fan-out. -/
def takes : ComponentSpec where
  inputs := {
    parameters := .ofList [("flag", { type := .boolean }), ("config", { type := .string }),
      ("maybe", { type := .struct, isOptional := true }), ("item", { type := .list })] }

def input (name : String) : InputParameterSpec := { source := some (.componentInput name) }

def each : TaskSpec where
  name := "each"
  inputs := {
    parameters := .ofList [("flag", input "flag"), ("config", input "numbers"),
      ("maybe", input "nothing")] }
  parameterIterator := some { items := { inputParameter := some "config" }, itemInput := "item" }

def scope : TaskScope where
  dag := {
    type := dagType
    inputParameters := .ofList [("flag", .bool true), ("numbers", .arr [.int 1]),
      ("nothing", .null)] }
  pipeline := {}
  options := { task := some each, component := some takes }

def handed : ExecutorInputs where
  parameters := .ofList [("flag", .bool true), ("config", .str "[1]")]

end Typed

/-- The list is handed on as text; `maybe` is left out, and `item` is not asked for. -/
theorem resolved_inputs_typed_text :
    Typed.scope.inputs.run {} {} = (.ok Typed.handed, {}) ∧
    (∀ name definition, Typed.takes.inputs.parameters.get? name = some definition →
      ¬ Typed.each.Exempts false name →
      (Typed.handed.parameters.get? name = none ∧
        (definition.isOptional = true ∨ definition.defaultValue.isSome = true)) ∨
      ∃ value, Typed.handed.parameters.get? name = some value ∧ definition.type.Admits value) ∧
    checkParameters Typed.each Typed.takes false Typed.handed.parameters =
      .ok Typed.handed.parameters := by
  have run : Typed.scope.inputs.run {} {} = (.ok Typed.handed, {}) := rfl
  obtain ⟨typed, check⟩ := resolved_inputs_typed Typed.each Typed.takes
  obtain ⟨⟨before, passed⟩, declared⟩ := typed Typed.scope _ _ _ _ rfl rfl run
  exact ⟨run, declared, ((check false before).2 _ passed).2.2⟩

end TaskGraph
