import DeviceConfig.Snippet.Params
import DeviceConfig.Snippet.Script

/-!
Templates: a fixed list of parameters, read in order, and what is made of their values. A script that fills a template
reads no other parameters and in no other order, wherever between its reads it puts something out.
-/

namespace DeviceConfig.Snippet

/-- How a template reads one parameter. -/
inductive Parameter : Type → Type where
  | required (key : String) : Parameter String
  | optional (key : String) : Parameter (Option String)
  | withDefault (key default : String) : Parameter String
  | vlanId (key : String) : Parameter Nat
  | list (key : String) : Parameter (List String)
  | optionalList (key : String) : Parameter (List String)

namespace Parameter

def key {α : Type} : Parameter α → String
  | .required key => key
  | .optional key => key
  | .withDefault key _ => key
  | .vlanId key => key
  | .list key => key
  | .optionalList key => key

def readValue {α : Type} : Parameter α → Option Json → Except SnippetError α
  | .required key, none => .error (.missingParam key)
  | .required key, some value => readScalar key value
  | .optional _, none => .ok none
  | .optional key, some value => (readScalar key value).map some
  | .withDefault _ default, none => .ok default
  | .withDefault key _, some value => readScalar key value
  | .vlanId key, none => .error (.missingParam key)
  | .vlanId key, some value =>
    (vlanId? value).elim (.error (.invalidParam key "a VLAN id between 1 and 4094")) .ok
  | .list key, none => .error (.missingParam key)
  | .list key, some value => readList key value
  | .optionalList _, none => .ok []
  | .optionalList key, some value => readList key value

def read {α : Type} (parameter : Parameter α) (params : Params) : Except SnippetError α :=
  parameter.readValue (params.present? parameter.key)

end Parameter

/-- The parameters of a template, in the order in which they are read. -/
inductive Parameters : Type → Type 1 where
  | done : Parameters Unit
  | also {α more : Type} (first : Parameter α) (rest : Parameters more) : Parameters (α × more)

namespace Parameters

def read {values : Type} : Parameters values → Params → Except SnippetError values
  | .done, _ => .ok ()
  | .also first rest, params => do return (← first.read params, ← rest.read params)

variable {more : Type}

def required (key : String) (rest : Parameters more) : Parameters (String × more) :=
  .also (.required key) rest

def optional (key : String) (rest : Parameters more) : Parameters (Option String × more) :=
  .also (.optional key) rest

def withDefault (key default : String) (rest : Parameters more) : Parameters (String × more) :=
  .also (.withDefault key default) rest

def vlanId (key : String) (rest : Parameters more) : Parameters (Nat × more) :=
  .also (.vlanId key) rest

def list (key : String) (rest : Parameters more) : Parameters (List String × more) :=
  .also (.list key) rest

def optionalList (key : String) (rest : Parameters more) : Parameters (List String × more) :=
  .also (.optionalList key) rest

end Parameters

structure Template where
  {Values : Type}
  parameters : Parameters Values
  lines : Values → List String

def Template.fill (template : Template) (params : Params) : Except SnippetError (List String) :=
  (template.parameters.read params).map template.lines

/-! ### Reads -/

namespace Parameter

variable (params : Params) (key : String)

@[simp] theorem read_required : (required key).read params = params.required key := by
  rw [read, Params.required, Parameter.key]
  cases params.present? key <;> rfl

@[simp] theorem read_optional : (optional key).read params = params.optional key := by
  rw [read, Params.optional, Parameter.key]
  cases params.present? key <;> rfl

@[simp] theorem read_withDefault (default : String) :
    (withDefault key default).read params = params.withDefault key default := by
  rw [read, Params.withDefault, Params.optional, Parameter.key]
  cases params.present? key with
  | none => rfl
  | some value =>
    simp only [readValue]
    cases readScalar key value <;> rfl

@[simp] theorem read_vlanId : (vlanId key).read params = params.vlanId key := by
  rw [read, Params.vlanId, Parameter.key]
  cases params.present? key <;> rfl

@[simp] theorem read_list : (list key).read params = params.list key := by
  rw [read, Params.list, Parameter.key]
  cases params.present? key <;> rfl

@[simp] theorem read_optionalList : (optionalList key).read params = params.optionalList key := by
  rw [read, Params.optionalList, Parameter.key]
  cases params.present? key <;> rfl

end Parameter

namespace Parameters

variable {more : Type} (rest : Parameters more) (params : Params) (key : String)

@[simp] theorem read_done : done.read params = pure () := rfl

@[simp] theorem read_required : (required key rest).read params = do
    return (← params.required key, ← rest.read params) := by
  rw [required, read, Parameter.read_required]

@[simp] theorem read_optional : (optional key rest).read params = do
    return (← params.optional key, ← rest.read params) := by
  rw [optional, read, Parameter.read_optional]

@[simp] theorem read_withDefault (default : String) : (withDefault key default rest).read params = do
    return (← params.withDefault key default, ← rest.read params) := by
  rw [withDefault, read, Parameter.read_withDefault]

@[simp] theorem read_vlanId : (vlanId key rest).read params = do
    return (← params.vlanId key, ← rest.read params) := by
  rw [vlanId, read, Parameter.read_vlanId]

@[simp] theorem read_list : (list key rest).read params = do
    return (← params.list key, ← rest.read params) := by
  rw [list, read, Parameter.read_list]

@[simp] theorem read_optionalList : (optionalList key rest).read params = do
    return (← params.optionalList key, ← rest.read params) := by
  rw [optionalList, read, Parameter.read_optionalList]

end Parameters

/-! ### Scripts -/

section
variable {Item values : Type}

@[simp] theorem run_emit (item : Item) (before : List Item) :
    (emit item).run before = pure ((), before ++ [item]) := rfl

@[simp] theorem run_emitAll (items before : List Item) :
    (emitAll items).run before = pure ((), before ++ items) := rfl

theorem run_for {α : Type} {body : α → PUnit → Script Item (ForInStep PUnit)} {items : α → List Item}
    (each : ∀ value before, (body value ⟨⟩).run before = pure (.yield ⟨⟩, before ++ items value))
    (values : List α) (before : List Item) :
    (forIn values PUnit.unit body : Script Item PUnit).run before = pure (⟨⟩, before ++ values.flatMap items) := by
  induction values generalizing before with
  | nil => simp
  | cons value values ih =>
    rw [List.forIn_cons, StateT.run_bind, each, pure_bind, List.flatMap_cons, ← List.append_assoc]
    exact ih _

/-- The script reads the parameters, in order, and puts out what is made of their values. -/
def Fills (script : Params → Script Item Unit) (parameters : Parameters values) (items : values → List Item) : Prop :=
  ∀ params before, (script params).run before = do
    let found ← parameters.read params
    return ((), before ++ items found)

theorem Fills.output {script : Params → Script Item Unit} {parameters : Parameters values}
    {items : values → List Item} (fills : Fills script parameters items) (params : Params) :
    (script params).output = (parameters.read params).map items := by
  rw [Script.output, fills]
  cases parameters.read params <;> rfl

end

end DeviceConfig.Snippet
