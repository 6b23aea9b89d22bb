/-
  Eag.Foundation.JsonSchema

  The part of JSON Schema that closed record types need: strings with a least length,
  a set of values or one value, numbers in a range, arrays of one item type, and
  objects with the listed properties and no others.
-/

import Mathlib.Algebra.Group.Int.Defs
import Mathlib.Algebra.Group.Nat.Defs
import Eag.Foundation.JsonObjects

namespace Eag.Foundation

/-! ## Schemas -/

mutual

/-- A schema. An object schema forbids additional properties. -/
inductive JsonSchema where
  | string (minLength : Nat) (enum : Option (List String)) (const : Option String)
  | number (minimum maximum : Int)
  | array (minItems : Nat) (maxItems : Option Nat) (items : JsonSchema)
  | object (properties : SchemaProperties) (required : List String)

/-- The properties of an object schema. -/
inductive SchemaProperties where
  | nil
  | cons (name : String) (schema : JsonSchema) (rest : SchemaProperties)

end

/-- The properties of a list. -/
def SchemaProperties.ofList : List (String × JsonSchema) → SchemaProperties
  | [] => .nil
  | (name, schema) :: rest => .cons name schema (ofList rest)

/-- The names of the properties. -/
def SchemaProperties.names : SchemaProperties → List String
  | .nil => []
  | .cons name _ rest => name :: rest.names

theorem SchemaProperties.names_ofList (properties : List (String × JsonSchema)) :
    (SchemaProperties.ofList properties).names = properties.map (·.1) := by
  induction properties with
  | nil => rfl
  | cons property rest ih =>
      rw [SchemaProperties.ofList, SchemaProperties.names, ih]
      rfl

/-! ## Numbers -/

namespace PyFloat

/-- `bound ≤ x`, compared as the decimal fraction that the literal writes. -/
def atLeast (bound : Int) : PyFloat → Bool
  | .decimal negative digits exponent =>
      bound * 10 ^ (-exponent).toNat ≤
        (if negative then -1 else 1) * (digits * 10 ^ exponent.toNat : Nat)
  | _ => false

/-- `x ≤ bound`, compared in the same way. -/
def atMost (bound : Int) : PyFloat → Bool
  | .decimal negative digits exponent =>
      (if negative then -1 else 1) * (digits * 10 ^ exponent.toNat : Nat) ≤
        bound * 10 ^ (-exponent).toNat
  | _ => false

end PyFloat

/-! ## Acceptance -/

mutual

/-- The value satisfies the schema. The words that are no JSON numbers satisfy none. -/
def JsonSchema.accepts : JsonSchema → PyValue → Bool
  | .string minLength enum const, .str text =>
      minLength ≤ text.length &&
        enum.all (fun options => decide (text ∈ options.map PyText.ofString)) &&
        const.all fun value => decide (text = .ofString value)
  | .number minimum maximum, .int n => minimum ≤ n && n ≤ maximum
  | .number minimum maximum, .float x => x.atLeast minimum && x.atMost maximum
  | .array minItems maxItems schema, .list items =>
      minItems ≤ items.toList.length &&
        maxItems.all (fun bound => decide (items.toList.length ≤ bound)) &&
        items.toList.all schema.accepts
  | .object properties required, .dict entries =>
      required.all (fun field => decide (PyText.ofString field ∈ entries.keys)) &&
        entries.keys.all (fun key => decide (key ∈ properties.names.map PyText.ofString)) &&
        properties.accepts entries
  | _, _ => false

/-- Every property that is there satisfies its schema. -/
def SchemaProperties.accepts : SchemaProperties → PyEntries → Bool
  | .nil, _ => true
  | .cons name schema rest, entries =>
      (entries.get? (.ofString name)).all schema.accepts && rest.accepts entries

end

theorem SchemaProperties.accepts_ofList (properties : List (String × JsonSchema))
    (entries : PyEntries) :
    (SchemaProperties.ofList properties).accepts entries = true ↔
      ∀ property ∈ properties, ∀ value,
        entries.get? (.ofString property.1) = some value → property.2.accepts value = true := by
  induction properties with
  | nil => simp [SchemaProperties.ofList, SchemaProperties.accepts]
  | cons property rest ih =>
      rw [SchemaProperties.ofList, SchemaProperties.accepts, Bool.and_eq_true, ih,
        List.forall_mem_cons, Option.all_eq_true]

namespace JsonSchema

variable {value : PyValue}

/-- What an object schema says of a value. -/
theorem accepts_object {properties : List (String × JsonSchema)} {required : List String} :
    (JsonSchema.object (.ofList properties) required).accepts value = true ↔
      ∃ entries, value = .dict entries ∧
        (∀ field ∈ required, PyText.ofString field ∈ entries.keys) ∧
        (∀ key ∈ entries.keys, key ∈ (properties.map (·.1)).map PyText.ofString) ∧
        ∀ property ∈ properties, ∀ v,
          entries.get? (.ofString property.1) = some v → property.2.accepts v = true := by
  cases value with
  | dict entries =>
      simp only [accepts, SchemaProperties.names_ofList, Bool.and_eq_true, List.all_eq_true,
        decide_eq_true_eq, SchemaProperties.accepts_ofList, PyValue.dict.injEq,
        exists_eq_left', and_assoc]
  | _ => simp [accepts]

theorem accepts_string {minLength : Nat} {enum : Option (List String)}
    {const : Option String} :
    (JsonSchema.string minLength enum const).accepts value = true ↔
      ∃ text, value = .str text ∧ minLength ≤ text.length ∧
        (∀ options, enum = some options → text ∈ options.map PyText.ofString) ∧
        ∀ v, const = some v → text = .ofString v := by
  cases value with
  | str text =>
      simp only [accepts, Bool.and_eq_true, decide_eq_true_eq, Option.all_eq_true,
        PyValue.str.injEq, exists_eq_left', and_assoc]
  | _ => simp [accepts]

theorem accepts_array {minItems : Nat} {maxItems : Option Nat} {schema : JsonSchema} :
    (JsonSchema.array minItems maxItems schema).accepts value = true ↔
      ∃ items, value = .list items ∧ minItems ≤ items.toList.length ∧
        (∀ bound, maxItems = some bound → items.toList.length ≤ bound) ∧
        ∀ item ∈ items.toList, schema.accepts item = true := by
  cases value with
  | list items =>
      simp only [accepts, Bool.and_eq_true, decide_eq_true_eq, Option.all_eq_true,
        List.all_eq_true, PyValue.list.injEq, exists_eq_left', and_assoc]
  | _ => simp [accepts]

end JsonSchema

end Eag.Foundation
