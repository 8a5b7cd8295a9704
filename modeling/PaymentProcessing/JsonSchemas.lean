import Mathlib.Data.Rat.Cast.Defs

/-!
Flat JSON schemas: objects with declared properties, some of them required. What
the schema admits is computed; a reader of an admitted body gets each field as
the type and the range that its property declares. The validator itself may
repair a body first, as long as what it hands on is admitted. A body is what
JSON.parse makes of the text, so its numbers are doubles.
-/
namespace JsonSchemas

/-- Whether a finite double has this value: at most 53 significant bits, the
    exponent in range. -/
def isDouble (q : Rat) : Bool :=
  let top := q.num.natAbs.log2
  let scale := q.den.log2
  q.num.natAbs % 2 ^ (top - 52) == 0 && decide (top < 1024) &&
    q.den == 2 ^ scale && decide (scale ≤ 1074)

abbrev Double := { q : Rat // isDouble q = true }

/-- Among them are the integers that JavaScript calls safe. -/
theorem safe_isDouble {n : Int} (safe : n.natAbs < 2 ^ 53) : isDouble n = true := by
  have top : n.natAbs.log2 < 53 := by
    by_cases zero : n.natAbs = 0
    · simp [zero]
    · exact (Nat.log2_lt zero).mpr safe
  have exponent : n.natAbs.log2 - 52 = 0 := by omega
  have range : n.natAbs.log2 < 1024 := by omega
  have unit : Nat.log2 1 = 0 := by decide
  simp only [isDouble, Rat.num_intCast, Rat.den_intCast, exponent, unit, pow_zero, Nat.mod_one,
    range, Nat.zero_le, decide_true, beq_self_eq_true, Bool.and_self]

example : isDouble ((2 ^ 53 + 1 : Int) : Rat) = false := by decide

inductive Json where
  | null
  | boolean (b : Bool)
  | number (x : Double)
  | string (s : String)
  | array (items : List Json)
  | object (fields : List (String × Json))

def Json.get (body : Json) (name : String) : Option Json :=
  match body with
  | .object fields => fields.lookup name
  | _ => none

def Json.asInteger : Json → Option Int
  | .number x => if x.val.den = 1 then some x.val.num else none
  | _ => none

def Json.asString : Json → Option String
  | .string s => some s
  | _ => none

/-- The JSON form of an integer; there is none for one that no double holds. -/
def Json.integer (n : Int) : Json :=
  if held : isDouble n = true then .number ⟨n, held⟩ else .null

inductive PropSchema where
  | integer (minimum : Option Int)
  | string (minLength maxLength : Option Nat) (values : Option (List String))
  deriving DecidableEq, Repr

def PropSchema.admits : PropSchema → Json → Bool
  | .integer minimum, .number x =>
    x.val.den == 1 && minimum.all (fun least => decide (least ≤ x.val.num))
  | .string minLength maxLength values, .string s =>
    minLength.all (fun least => decide (least ≤ s.length)) &&
      maxLength.all (fun most => decide (s.length ≤ most)) &&
      values.all (fun listed => listed.contains s)
  | _, _ => false

structure ObjectSchema where
  props : List (String × PropSchema)
  required : List String
  additionalProperties : Bool
  deriving DecidableEq, Repr

def ObjectSchema.admits (schema : ObjectSchema) : Json → Bool
  | .object fields =>
    schema.required.all (fun name => (fields.lookup name).isSome) &&
      schema.props.all (fun prop => (fields.lookup prop.1).all prop.2.admits) &&
      (schema.additionalProperties ||
        fields.all (fun field => (schema.props.lookup field.1).isSome))
  | _ => false

abbrev Admitted (schema : ObjectSchema) : Type := { body : Json // schema.admits body = true }

/-- A validator may coerce values and drop properties; it passes on only what the
    schema admits, leaves alone what the schema admits already and a string where
    one is declared, and adds no property. -/
structure Validator where
  check : (schema : ObjectSchema) → Json → Except String (Admitted schema)
  complete : ∀ (schema : ObjectSchema) (body : Admitted schema),
    check schema body.val = .ok body
  strings : ∀ {schema : ObjectSchema} {body : Json} {out : Admitted schema} {name text : String}
    {minLength maxLength : Option Nat} {values : Option (List String)},
    check schema body = .ok out → (name, .string minLength maxLength values) ∈ schema.props →
    body.get name = some (.string text) → out.val.get name = some (.string text)
  addsNone : ∀ {schema : ObjectSchema} {body : Json} {out : Admitted schema} {name : String},
    check schema body = .ok out → body.get name = none → out.val.get name = none

def checkStrictly (schema : ObjectSchema) (body : Json) : Except String (Admitted schema) :=
  if admitted : schema.admits body = true then .ok ⟨body, admitted⟩
  else .error "body must match the schema"

theorem checkStrictly_ok {schema : ObjectSchema} {body : Json} {out : Admitted schema}
    (h : checkStrictly schema body = .ok out) : out.val = body := by
  unfold checkStrictly at h
  split at h
  · cases h
    rfl
  · cases h

def Validator.strict : Validator where
  check := checkStrictly
  complete := fun _ body => dif_pos body.property
  strings := by
    intro schema body out name text minLength maxLength values checked _ found
    rw [checkStrictly_ok checked, found]
  addsNone := by
    intro schema body out name checked absent
    rw [checkStrictly_ok checked, absent]

variable {schema : ObjectSchema} {body : Json} {name : String}

theorem admits_parts (h : schema.admits body = true) :
    (∀ name ∈ schema.required, (body.get name).isSome) ∧
      ∀ prop ∈ schema.props, ∀ value, body.get prop.1 = some value → prop.2.admits value = true := by
  cases body with
  | object fields =>
    simp only [ObjectSchema.admits, Bool.and_eq_true] at h
    obtain ⟨⟨required, declared⟩, -⟩ := h
    refine ⟨fun name needed => List.all_eq_true.mp required name needed, ?_⟩
    intro prop listed value found
    have fits := List.all_eq_true.mp declared prop listed
    rw [show fields.lookup prop.1 = some value from found] at fits
    exact fits
  | _ => simp [ObjectSchema.admits] at h

theorem required_field (h : schema.admits body = true) (needed : name ∈ schema.required)
    {prop : PropSchema} (declared : (name, prop) ∈ schema.props) :
    ∃ value, body.get name = some value ∧ prop.admits value = true := by
  obtain ⟨required, fits⟩ := admits_parts h
  obtain ⟨value, found⟩ := Option.isSome_iff_exists.mp (required name needed)
  exact ⟨value, found, fits _ declared value found⟩

theorem integer_admitted {minimum : Option Int} {value : Json}
    (h : (PropSchema.integer minimum).admits value = true) :
    ∃ n, value.asInteger = some n ∧ isDouble n = true ∧ ∀ least ∈ minimum, least ≤ n := by
  cases value with
  | number x =>
    simp only [PropSchema.admits, Bool.and_eq_true, beq_iff_eq] at h
    have whole : (x.val.num : Rat) = x.val := Rat.coe_int_num_of_den_eq_one h.1
    refine ⟨x.val.num, if_pos h.1, ?_, ?_⟩
    · rw [whole]
      exact x.property
    · rintro least rfl
      simpa using h.2
  | _ => simp [PropSchema.admits] at h

theorem string_admitted {minLength maxLength : Option Nat} {values : Option (List String)}
    {value : Json} (h : (PropSchema.string minLength maxLength values).admits value = true) :
    ∃ s, value.asString = some s ∧ (∀ least ∈ minLength, least ≤ s.length) ∧
      (∀ most ∈ maxLength, s.length ≤ most) ∧ ∀ listed ∈ values, s ∈ listed := by
  cases value with
  | string s =>
    simp only [PropSchema.admits, Bool.and_eq_true] at h
    obtain ⟨⟨long, short⟩, among⟩ := h
    refine ⟨s, rfl, ?_, ?_, ?_⟩
    · rintro least rfl
      simpa using long
    · rintro most rfl
      simpa using short
    · rintro listed rfl
      simpa using among
  | _ => simp [PropSchema.admits] at h

theorem required_integer (h : schema.admits body = true) (needed : name ∈ schema.required)
    {minimum : Option Int} (declared : (name, .integer minimum) ∈ schema.props) :
    ∃ n, (body.get name).bind Json.asInteger = some n ∧ isDouble n = true ∧
      ∀ least ∈ minimum, least ≤ n := by
  obtain ⟨value, found, fits⟩ := required_field h needed declared
  obtain ⟨n, read, bounds⟩ := integer_admitted fits
  exact ⟨n, by rw [found, Option.bind_some, read], bounds⟩

theorem required_string (h : schema.admits body = true) (needed : name ∈ schema.required)
    {minLength maxLength : Option Nat} {values : Option (List String)}
    (declared : (name, .string minLength maxLength values) ∈ schema.props) :
    ∃ s, (body.get name).bind Json.asString = some s ∧ (∀ least ∈ minLength, least ≤ s.length) ∧
      (∀ most ∈ maxLength, s.length ≤ most) ∧ ∀ listed ∈ values, s ∈ listed := by
  obtain ⟨value, found, fits⟩ := required_field h needed declared
  obtain ⟨s, read, bounds⟩ := string_admitted fits
  exact ⟨s, by rw [found, Option.bind_some, read], bounds⟩

def Admitted.integer (body : Admitted schema) (name : String) {minimum : Option Int}
    (needed : name ∈ schema.required) (declared : (name, .integer minimum) ∈ schema.props) : Int :=
  ((body.val.get name).bind Json.asInteger).get (by
    obtain ⟨n, read, -⟩ := required_integer body.property needed declared
    rw [read]
    rfl)

def Admitted.string (body : Admitted schema) (name : String) {minLength maxLength : Option Nat}
    {values : Option (List String)} (needed : name ∈ schema.required)
    (declared : (name, .string minLength maxLength values) ∈ schema.props) : String :=
  ((body.val.get name).bind Json.asString).get (by
    obtain ⟨s, read, -⟩ := required_string body.property needed declared
    rw [read]
    rfl)

variable {minimum : Option Int} {minLength maxLength : Option Nat} {values : Option (List String)}

@[simp] theorem admits_string (minLength maxLength : Option Nat) (values : Option (List String))
    (s : String) :
    (PropSchema.string minLength maxLength values).admits (.string s) =
      (minLength.all (fun least => decide (least ≤ s.length)) &&
        maxLength.all (fun most => decide (s.length ≤ most)) &&
        values.all (fun listed => listed.contains s)) :=
  rfl

end JsonSchemas
