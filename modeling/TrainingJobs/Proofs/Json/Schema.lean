import TrainingJobs.Json.Schema
import TrainingJobs.Proofs.Json.Merge

/-!
# What a published schema means

A schema is published as a JSON object of keywords, and whoever reads it there looks at the keywords
one by one (`conforms`). That is what the schema accepts (`Schema.conforms_toJson`). So readers and
schemas can be compared by the parts of a schema: a schema `Fits` a reader that reads whatever the
schema accepts.
-/

namespace TrainingJobs

open Document

namespace Json

/-! ## Keywords -/

def typeName : Json → String
  | null => "null"
  | bool _ => "boolean"
  | int _ => "integer"
  | real _ => "number"
  | str _ => "string"
  | arr _ => "array"
  | obj _ => "object"

def items : Json → List Json
  | arr items => items
  | _ => []

def sameText : Json → Json → Bool
  | str a, str b => a == b
  | _, _ => false

/-- The value is of the type that the keyword names. -/
def hasType : Json → Json → Bool
  | str name, value => value.typeName == name
  | _, _ => true

/-- A whole number is of the format that the keyword names. -/
def hasFormat : Json → Json → Bool
  | str name, int n =>
    if name = "int32" then (Text.int32? n).isSome
    else if name = "int64" then (Text.int64? n).isSome
    else true
  | _, _ => true

/-- The value is one of the texts of the keyword. -/
def isOption : Json → Json → Bool
  | arr options, value => options.any fun option => sameText option value
  | _, _ => true

/-- An object has the members that the keyword names. -/
def hasRequired : Json → Json → Bool
  | arr names, obj ms => names.all fun name => ms.any fun m => sameText name (str m.1)
  | _, _ => true

/-- What a keyword without schemas inside says of a value. All others say nothing. -/
def meetsLeaf (name : String) (keyword value : Json) : Bool :=
  if name = "type" then hasType keyword value
  else if name = "format" then hasFormat keyword value
  else if name = "enum" then isOption keyword value
  else if name = "required" then hasRequired keyword value
  else true

/-- The keyword allows what is null. -/
def allowsNull (keyword : String × Json) : Bool :=
  keyword.1 == "nullable" && match keyword.2 with
    | bool allowed => allowed
    | _ => false

mutual

/-- Whether a value may stand where a published schema is. -/
def conforms : Json → Json → Bool
  | obj keywords, value =>
    (value.typeName == "null" && keywords.any allowsNull) || meets keywords value
  | _, _ => true
termination_by structural x => x

/-- Whether a value meets all keywords of a schema. -/
def meets : List (String × Json) → Json → Bool
  | [], _ => true
  | (name, keyword) :: rest, value =>
    (if name = "properties" then holdsFields keyword value
      else if name = "items" then value.items.all fun item => keyword.conforms item
      else if name = "additionalProperties" then
        value.members.all fun m => keyword.conforms m.2
      else meetsLeaf name keyword value) && meets rest value

/-- Whether the members of a value that have a schema of their own conform to it. -/
def holdsFields : Json → Json → Bool
  | obj schemas, value => conformFields schemas value
  | _, _ => true

/-- Whether the members of a value conform to the schema of their name, if there is one. -/
def conformFields : List (String × Json) → Json → Bool
  | [], _ => true
  | (name, schema) :: rest, value =>
    (value.members.all fun m => m.1 != name || schema.conforms m.2) && conformFields rest value

end

section Keywords

variable (v keyword : Json) (l l' : List (String × Json))

attribute [local simp] member meets meetsLeaf

theorem meets_append : meets (l ++ l') v = (meets l v && meets l' v) := by
  induction l with
  | nil => simp
  | cons k l ih =>
    obtain ⟨name, keyword⟩ := k
    rw [List.cons_append, meets, meets, ih, Bool.and_assoc]

theorem meets_format : meets (member "format" keyword) v = hasFormat keyword v := by
  simp

theorem meets_enum : meets (member "enum" keyword) v = isOption keyword v := by
  simp

theorem meets_required : meets (member "required" keyword) v = hasRequired keyword v := by
  simp

theorem meets_items : meets (member "items" keyword) v = v.items.all keyword.conforms := by
  simp

theorem meets_additionalProperties :
    meets (member "additionalProperties" keyword) v =
      v.members.all fun m => keyword.conforms m.2 := by
  simp

theorem meets_properties : meets (member "properties" keyword) v = holdsFields keyword v := by
  simp

end Keywords

end Json

open Json

namespace Schema

theorem conforms_typeMember {keywords : List (String × Json)}
    (h : keywords.any allowsNull = false) (name : String) (v : Json) :
    (obj (typeMember name ++ keywords)).conforms v = (v.typeName == name && meets keywords v) := by
  rw [conforms, List.any_append, h, meets_append]
  simp [typeMember, member, allowsNull, meets, meetsLeaf, hasType]

/-- A note says nothing of a value but whether it may be null. -/
theorem meets_note (n : SchemaNote) (v : Json) : meets n.members v = true := by
  obtain ⟨description, default, nullable⟩ := n
  cases description <;> cases default <;> cases nullable <;>
    simp [SchemaNote.members, optionalMember, member, meets, meetsLeaf]

theorem any_allowsNull_note (n : SchemaNote) : n.members.any allowsNull = n.nullable := by
  obtain ⟨description, default, nullable⟩ := n
  cases description <;> cases default <;> cases nullable <;>
    simp [SchemaNote.members, optionalMember, member, allowsNull]

theorem isOption_ofList (texts : List String) (t : String) :
    isOption (ofList str texts) (str t) = texts.contains t := by
  simp only [ofList, isOption, List.any_map, List.contains_eq_any_beq, Function.comp_def, sameText,
    BEq.comm]

theorem hasRequired_ofList (names : List String) (ms : List (String × Json)) :
    hasRequired (ofList str names) (obj ms) =
      names.all fun name => ms.any fun m => m.1 == name := by
  simp only [ofList, hasRequired, List.all_map, Function.comp_def, sameText, BEq.comm]

theorem hasFormat_name (format : IntegerFormat) (n : Int) :
    hasFormat (str format.name) (int n) = format.holds n := by
  cases format <;> rfl

mutual

/-- What is published means what the schema accepts. -/
theorem conforms_toJson : ∀ (s : Schema) (v : Json), s.toJson.conforms v = s.accepts v
  | text, v => by
    rw [toJson, members, ← List.append_nil (typeMember "string"), conforms_typeMember rfl]
    cases v <;> simp [typeName, meets, accepts]
  | integer format, v => by
    rw [toJson, members, conforms_typeMember rfl, meets_format]
    cases v <;> simp [typeName, accepts, hasFormat_name]
  | oneOf texts, v => by
    rw [toJson, members, conforms_typeMember rfl, meets_enum]
    cases v <;> simp [typeName, accepts, isOption_ofList]
  | list items, v => by
    have hitems : (obj items.members).conforms = items.accepts := funext (conforms_toJson items)
    rw [toJson, members, conforms_typeMember rfl, meets_items, hitems]
    cases v <;> simp [typeName, accepts, Json.items]
  | dictionary values, v => by
    have hvalues : (obj values.members).conforms = values.accepts :=
      funext (conforms_toJson values)
    rw [toJson, members, conforms_typeMember rfl, meets_additionalProperties, hvalues]
    cases v <;> simp [typeName, accepts, Json.members]
  | record fields required, v => by
    have hnull : (member "properties" (obj (fieldMembers fields)) ++ (if required.isEmpty then []
        else member "required" (ofList str required))).any allowsNull = false := by
      cases required <;> rfl
    have hrequired : ∀ ms, meets (if required.isEmpty then []
        else member "required" (ofList str required)) (obj ms) =
          required.all fun name => ms.any fun m => m.1 == name := by
      intro ms
      cases required with
      | nil => rw [List.isEmpty_nil, if_pos rfl, meets, List.all_nil]
      | cons name more =>
        rw [List.isEmpty_cons, if_neg Bool.false_ne_true, meets_required, hasRequired_ofList]
    have hfields : ∀ ms, holdsFields (obj (fieldMembers fields)) (obj ms) =
        acceptsFields fields ms := by
      intro ms
      rw [holdsFields, conformFields_fieldMembers fields ms]
    rw [toJson, members, List.append_assoc, conforms_typeMember hnull, meets_append,
      meets_properties]
    cases v with
    | obj ms =>
      simp only [typeName, hrequired, hfields, accepts, BEq.rfl, Bool.true_and, Bool.and_comm]
    | _ => simp [typeName, accepts]
  | anyObject, v => by
    rw [toJson, members, conforms_typeMember rfl]
    cases v <;> simp [typeName, meets, meetsLeaf, member, accepts]
  | noted note schema, v => by
    have hschema : (obj schema.members).conforms v = schema.accepts v := conforms_toJson schema v
    -- the keywords of the note stand before those of the schema, in one object
    rw [conforms] at hschema
    rw [toJson, members, conforms, meets_append, meets_note, List.any_append, any_allowsNull_note,
      Bool.true_and]
    cases v <;> simp_all [accepts, typeName, Bool.or_assoc]

theorem conformFields_fieldMembers :
    ∀ (fields : List (String × Schema)) (ms : List (String × Json)),
      conformFields (fieldMembers fields) (obj ms) = acceptsFields fields ms
  | [], ms => by rw [fieldMembers, conformFields, acceptsFields]
  | (name, schema) :: rest, ms => by
    have hschema : (obj schema.members).conforms = schema.accepts := funext (conforms_toJson schema)
    rw [fieldMembers, conformFields, acceptsFields, hschema, conformFields_fieldMembers rest ms]
    rfl

end

/-! ## Accepting -/

section Accepting

variable {s : Schema} {v : Json} {ms : List (String × Json)}

@[simp] theorem accepts_described (s : Schema) (description : String) (v : Json) :
    (s.described description).accepts v = s.accepts v := by
  cases v <;> simp [described, accepts]

@[simp] theorem accepts_withDefault (s : Schema) (value v : Json) :
    (s.withDefault value).accepts v = s.accepts v := by
  cases v <;> simp [withDefault, accepts]

@[simp] theorem accepts_nullable (s : Schema) (v : Json) :
    s.nullable.accepts v = (isNull v || s.accepts v) := by
  cases v with
  | null => simp [nullable, accepts, Document.isNull]
  | _ => simp [nullable, accepts, Document.isNull]

theorem acceptsFields_iff {fields : List (String × Schema)} :
    acceptsFields fields ms = true ↔
      ∀ f ∈ fields, ∀ m ∈ ms, m.1 = f.1 → f.2.accepts m.2 = true := by
  induction fields with
  | nil => simp [acceptsFields]
  | cons f fields ih =>
    obtain ⟨name, schema⟩ := f
    rw [acceptsFields, Bool.and_eq_true, ih, List.forall_mem_cons, List.all_eq_true]
    refine and_congr_left fun _ => forall₂_congr fun m _ => ?_
    rw [Bool.or_eq_true, bne_iff_ne, ← imp_iff_not_or]

theorem accepts_record {fields : List (String × Schema)} {required : List String} :
    (record fields required).accepts (obj ms) =
      ((required.all fun name => ms.any fun m => m.1 == name) && acceptsFields fields ms) := by
  rw [accepts]

theorem accepts_record_iff {fields : List (String × Schema)} {required : List String} :
    (record fields required).accepts (obj ms) = true ↔
      (∀ name ∈ required, ∃ m ∈ ms, m.1 = name) ∧
        ∀ f ∈ fields, ∀ m ∈ ms, m.1 = f.1 → f.2.accepts m.2 = true := by
  rw [accepts_record, Bool.and_eq_true, acceptsFields_iff, List.all_eq_true]
  simp only [List.any_eq_true, beq_iff_eq]

theorem accepts_list_iff {items : Schema} {vs : List Json} :
    (list items).accepts (arr vs) = true ↔ ∀ v ∈ vs, items.accepts v = true := by
  rw [accepts, List.all_eq_true]

theorem accepts_dictionary_iff {values : Schema} :
    (dictionary values).accepts (obj ms) = true ↔ ∀ m ∈ ms, values.accepts m.2 = true := by
  rw [accepts, List.all_eq_true]

end Accepting

end Schema

/-! ## Values without repeated names -/

namespace Json

mutual

/-- No object in the value has two members of one name, as in what a server stores. -/
def unrepeated : Json → Bool
  | arr items => unrepeatedItems items
  | obj members => decide (members.map (·.1)).Nodup && unrepeatedMembers members
  | _ => true

def unrepeatedItems : List Json → Bool
  | [] => true
  | item :: rest => item.unrepeated && unrepeatedItems rest

def unrepeatedMembers : List (String × Json) → Bool
  | [] => true
  | (_, value) :: rest => value.unrepeated && unrepeatedMembers rest

end

theorem unrepeated_arr_iff {items : List Json} :
    (arr items).unrepeated = true ↔ ∀ v ∈ items, v.unrepeated = true := by
  rw [unrepeated]
  induction items with
  | nil => simp [unrepeatedItems]
  | cons v items ih => rw [unrepeatedItems, Bool.and_eq_true, ih, List.forall_mem_cons]

theorem unrepeated_obj_iff {ms : List (String × Json)} :
    (obj ms).unrepeated = true ↔ (ms.map (·.1)).Nodup ∧ ∀ m ∈ ms, m.2.unrepeated = true := by
  have hmembers : unrepeatedMembers ms = true ↔ ∀ m ∈ ms, m.2.unrepeated = true := by
    induction ms with
    | nil => simp [unrepeatedMembers]
    | cons m ms ih =>
      obtain ⟨name, value⟩ := m
      rw [unrepeatedMembers, Bool.and_eq_true, ih, List.forall_mem_cons]
  rw [unrepeated, Bool.and_eq_true, decide_eq_true_eq, hmembers]

end Json

/-! ## Readers that a schema fits -/

namespace Schema

variable {α : Type} {s : Schema} {read : Json → Option α} {v : Json} {field : Option Json}

/-- Whatever the schema accepts is read, if no name is repeated in it. -/
def Fits (s : Schema) (read : Json → Option α) : Prop :=
  ∀ v : Json, v.unrepeated = true → s.accepts v = true → ∃ x, read v = some x

theorem fits_text : text.Fits text? := by
  intro v _ h
  cases v with
  | str t => exact ⟨t, rfl⟩
  | _ => simp [accepts] at h

theorem fits_int32 : int32.Fits int32? := by
  intro v _ h
  cases v with
  | int n =>
    rw [int32, accepts] at h
    exact Option.isSome_iff_exists.1 h
  | _ => simp [int32, accepts] at h

theorem fits_int64 : int64.Fits int64? := by
  intro v _ h
  cases v with
  | int n =>
    rw [int64, accepts] at h
    exact Option.isSome_iff_exists.1 h
  | _ => simp [int64, accepts] at h

theorem fits_oneOf (name : α → String) (alternatives : List α) :
    (oneOf (alternatives.map name)).Fits (oneOf? (alternatives.map fun x => (name x, x))) := by
  intro v _ h
  cases v with
  | str t =>
    rw [accepts, List.contains_eq_mem, decide_eq_true_eq] at h
    obtain ⟨x, hx, rfl⟩ := List.mem_map.1 h
    have hfound : ((alternatives.map fun y => (name y, y)).find?
        fun a => a.1 == name x).isSome = true :=
      List.find?_isSome.2 ⟨(name x, x), List.mem_map_of_mem hx, beq_self_eq_true _⟩
    obtain ⟨a, ha⟩ := Option.isSome_iff_exists.1 hfound
    have hvariant : variant? (str (name x)) = some (name x) := rfl
    refine ⟨a.2, ?_⟩
    rw [oneOf?, hvariant]
    exact congrArg (Option.map (·.2)) ha
  | _ => simp [accepts] at h

theorem Fits.list (h : s.Fits read) : (list s).Fits (list? read) := by
  intro v hv haccepts
  cases v with
  | arr vs =>
    exact exists_mapM_iff.2 fun w hw =>
      h w (unrepeated_arr_iff.1 hv w hw) (accepts_list_iff.1 haccepts w hw)
  | _ => simp [accepts] at haccepts

theorem Fits.dictionary (h : s.Fits read) : (dictionary s).Fits (dict? read) := by
  intro v hv haccepts
  cases v with
  | obj ms =>
    refine exists_dict?_iff.2 fun m hm => ?_
    exact h m.2 ((unrepeated_obj_iff.1 hv).2 m hm) (accepts_dictionary_iff.1 haccepts m hm)
  | _ => simp [accepts] at haccepts

theorem Fits.described (h : s.Fits read) (description : String) :
    (s.described description).Fits read := by
  intro v hv haccepts
  exact h v hv ((accepts_described s description v).symm.trans haccepts)

theorem Fits.withDefault (h : s.Fits read) (value : Json) : (s.withDefault value).Fits read := by
  intro v hv haccepts
  exact h v hv ((accepts_withDefault s value v).symm.trans haccepts)

theorem Fits.nullable (h : s.Fits read) : s.nullable.Fits (nullable? read) := by
  intro v hv haccepts
  rw [accepts_nullable, Bool.or_eq_true] at haccepts
  rw [nullable?]
  split
  next => exact ⟨none, rfl⟩
  next hnull =>
    obtain ⟨x, hx⟩ := h v hv (haccepts.resolve_left hnull)
    exact ⟨some x, by rw [hx, Option.map_some]⟩

/-! ### Fields -/

/-- A field may have a value of the schema. -/
def Admits (s : Schema) (field : Option Json) : Prop :=
  ∀ v ∈ field, v.unrepeated = true ∧ s.accepts v = true

theorem Fits.required (h : s.Fits read) (hfield : s.Admits field) (hthere : field.isSome = true) :
    ∃ x, required read field = some x := by
  obtain ⟨v, rfl⟩ := Option.isSome_iff_exists.1 hthere
  exact h v (hfield v rfl).1 (hfield v rfl).2

theorem Fits.defaulted (h : s.Fits read) (hfield : s.Admits field) (missing : α) :
    ∃ x, defaulted missing read field = some x := by
  cases field with
  | none => exact ⟨missing, rfl⟩
  | some v => exact h v (hfield v rfl).1 (hfield v rfl).2

theorem Fits.optional (h : s.Fits (nullable? read)) (hfield : s.Admits field) :
    ∃ x, optional read field = some x := by
  cases field with
  | none => exact ⟨none, rfl⟩
  | some v => exact h v (hfield v rfl).1 (hfield v rfl).2

/-- What a record accepts is an object, and its fields have what their schemas accept. -/
theorem fields_of_accepts {fields : List (String × Schema)} {needed : List String}
    (hv : v.unrepeated = true) (h : (record fields needed).accepts v = true) :
    ∃ ms, v = obj ms ∧ (∀ known, strictFields? known v = some (fieldIn ms)) ∧
      (∀ name ∈ needed, (fieldIn ms name).isSome = true) ∧
      ∀ f ∈ fields, f.2.Admits (fieldIn ms f.1) := by
  cases v with
  | obj ms =>
    obtain ⟨hnames, hvalues⟩ := unrepeated_obj_iff.1 hv
    obtain ⟨hneeded, hfields⟩ := accepts_record_iff.1 h
    refine ⟨ms, rfl, fun known => strictFields?_obj hnames, fun name hname => ?_,
      fun f hf w hw => ?_⟩
    · obtain ⟨m, hm, rfl⟩ := hneeded name hname
      rw [Option.isSome_iff_ne_none, Ne, fieldIn_eq_none_iff, not_not]
      exact List.mem_map_of_mem hm
    · have hmem := mem_of_fieldIn hw
      exact ⟨hvalues _ hmem, hfields f hf _ hmem rfl⟩
  | _ => simp [accepts] at h

end Schema

end TrainingJobs
