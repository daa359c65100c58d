import AccessControl.Scope.Value
import Mathlib.Data.List.Basic
/-!
# The wire form of a value

The two ways to take a value from JSON accept the same data and differ in texts that spell an
identifier, at whatever depth: on the wire such a text is the identifier, in the data of a request
it stays a text. What is written on the wire is read there up to this recognition, and a value that
has once been read there is read as itself from then on.
-/
namespace AccessControl

/-- The data has no value in a filter: it is null, an object, a number that is no integer of
64 bits, or an array with such an item. -/
inductive Json.HasNoValue : Json → Prop
  | null : HasNoValue .null
  | object (members : List (String × Json)) : HasNoValue (.obj members)
  | real (x : Float) : HasNoValue (.real x)
  | outOfRange {i : Int} (h : i < Int64.minValue.toInt ∨ Int64.maxValue.toInt < i) :
      HasNoValue (.int i)
  | item {item : Json} {items : List Json} (hmem : item ∈ items) (h : HasNoValue item) :
      HasNoValue (.arr items)

lemma Json.hasNoValue_arr_iff {items : List Json} :
    (arr items).HasNoValue ↔ ∃ item ∈ items, item.HasNoValue := by
  constructor
  · rintro (_ | _ | _ | _ | ⟨hmem, h⟩)
    exact ⟨_, hmem, h⟩
  · rintro ⟨item, hmem, h⟩
    exact .item hmem h

namespace ScopeValue

mutual

/-- The value with an identifier for every text in it, at any depth, that spells one. -/
def recognised : ScopeValue → ScopeValue
  | .str s =>
    match Uuid.ofText? s with
    | some u => .uuid u
    | none => .str s
  | .list items => .list (recognisedItems items)
  | v => v

/-- The values with an identifier for every text in them that spells one. -/
def recognisedItems : List ScopeValue → List ScopeValue
  | [] => []
  | v :: vs => recognised v :: recognisedItems vs

end

mutual

/-- The value with its text for every identifier in it, at any depth. -/
def spelled : ScopeValue → ScopeValue
  | .uuid u => .str u.text
  | .list items => .list (spelledItems items)
  | v => v

/-- The values with its text for every identifier in them. -/
def spelledItems : List ScopeValue → List ScopeValue
  | [] => []
  | v :: vs => spelled v :: spelledItems vs

end

/-! ### Identifiers and their texts -/

lemma recognised_str_text (u : Uuid) : (str u.text).recognised = uuid u := by
  rw [recognised, Uuid.ofText?_text]

/-- A text stays what recognition has made of it. -/
lemma recognised_recognised_str (s : String) :
    (str s).recognised.recognised = (str s).recognised := by
  cases h : Uuid.ofText? s with
  | some u =>
    have hread : (str s).recognised = uuid u := by rw [recognised, h]
    rw [hread]
    rfl
  | none =>
    have hself : (str s).recognised = str s := by rw [recognised, h]
    rw [hself, hself]

mutual

lemma recognised_spelled : ∀ v : ScopeValue, v.spelled.recognised = v.recognised
  | .uuid u => recognised_str_text u
  | .str _ | .int _ | .bool _ => rfl
  | .list items => congrArg list (recognisedItems_spelledItems items)

lemma recognisedItems_spelledItems :
    ∀ vs : List ScopeValue, recognisedItems (spelledItems vs) = recognisedItems vs
  | [] => rfl
  | v :: vs => congrArg₂ List.cons (recognised_spelled v) (recognisedItems_spelledItems vs)

end

mutual

lemma recognised_recognised : ∀ v : ScopeValue, v.recognised.recognised = v.recognised
  | .str s => recognised_recognised_str s
  | .uuid _ | .int _ | .bool _ => rfl
  | .list items => congrArg list (recognisedItems_recognisedItems items)

lemma recognisedItems_recognisedItems :
    ∀ vs : List ScopeValue, recognisedItems (recognisedItems vs) = recognisedItems vs
  | [] => rfl
  | v :: vs => congrArg₂ List.cons (recognised_recognised v) (recognisedItems_recognisedItems vs)

end

/-! ### What is read -/

section Read

variable {ofString : String → ScopeValue} {j : Json} {js : List Json}

lemma readItems?_eq_mapM : readItems? ofString js = js.mapM (read? ofString) := by
  induction js with
  | nil => rfl
  | cons j js ih => rw [readItems?, ih, List.mapM_cons]

lemma readItems?_cons_eq_none_iff :
    readItems? ofString (j :: js) = none ↔
      read? ofString j = none ∨ readItems? ofString js = none := by
  rw [readItems?]
  cases read? ofString j with
  | none => exact iff_of_true rfl (Or.inl rfl)
  | some v => cases readItems? ofString js <;> simp

lemma int64?_eq_none_iff {i : Int} :
    (Json.int i).int64? = none ↔ i < Int64.minValue.toInt ∨ Int64.maxValue.toInt < i := by
  rw [Json.int64?, Option.map_eq_none_iff, Json.intBetween?]
  split_ifs with h
  · exact iff_of_false nofun (by omega)
  · exact iff_of_true rfl (by omega)

lemma int64?_toInt (n : Int64) : (Json.int n.toInt).int64? = some n := by
  rw [Json.int64?, Json.intBetween?, if_pos ⟨n.minValue_le_toInt, n.toInt_le⟩, Option.map_some,
    Int64.ofInt_toInt]

end Read

mutual

/-- On the wire a value is read as in a request, up to the identifiers that its texts spell. -/
lemma decode?_eq_map : ∀ j : Json, decode? j = (ofJson? j).map recognised
  | .null | .bool _ | .real _ | .str _ | .obj _ => rfl
  | .int i => by
    show (Json.int i).int64?.map int = ((Json.int i).int64?.map int).map recognised
    cases (Json.int i).int64? <;> rfl
  | .arr items => by
    show (readItems? ofWireText items).map list = ((readItems? str items).map list).map recognised
    rw [readItems?_eq_map items, Option.map_map, Option.map_map]
    rfl

lemma readItems?_eq_map :
    ∀ js : List Json, readItems? ofWireText js = (readItems? str js).map recognisedItems
  | [] => rfl
  | j :: js => by
    have hj : read? ofWireText j = (read? str j).map recognised := decode?_eq_map j
    rw [readItems?, readItems?, hj, readItems?_eq_map js]
    cases read? str j with
    | none => rfl
    | some v => cases readItems? str js <;> rfl

end

mutual

/-- Data are turned down for what they hold at some depth. -/
lemma ofJson?_eq_none_iff : ∀ j : Json, ofJson? j = none ↔ j.HasNoValue
  | .null => iff_of_true rfl .null
  | .obj members => iff_of_true rfl (.object members)
  | .real x => iff_of_true rfl (.real x)
  | .bool _ | .str _ => iff_of_false nofun nofun
  | .int i => by
    show (Json.int i).int64?.map int = none ↔ _
    rw [Option.map_eq_none_iff, int64?_eq_none_iff]
    exact ⟨.outOfRange, fun | .outOfRange h => h⟩
  | .arr items => by
    show (readItems? str items).map list = none ↔ _
    rw [Option.map_eq_none_iff, readItems?_eq_none_iff items, Json.hasNoValue_arr_iff]

lemma readItems?_eq_none_iff :
    ∀ js : List Json, readItems? str js = none ↔ ∃ j ∈ js, j.HasNoValue
  | [] => iff_of_false nofun nofun
  | j :: js => by
    have hj : read? str j = none ↔ j.HasNoValue := ofJson?_eq_none_iff j
    rw [readItems?_cons_eq_none_iff, hj, readItems?_eq_none_iff js, List.exists_mem_cons_iff]

end

/-! ### What is written -/

mutual

/-- In the data of a request a written value is read with its identifiers as texts. -/
lemma ofJson?_toJson : ∀ v : ScopeValue, ofJson? v.toJson = some v.spelled
  | .uuid _ | .str _ | .bool _ => rfl
  | .int n => by
    show (Json.int n.toInt).int64?.map int = some (int n)
    rw [int64?_toInt, Option.map_some]
  | .list items => by
    show (readItems? str (itemsToJson items)).map list = some (list (spelledItems items))
    rw [readItems?_itemsToJson items, Option.map_some]

lemma readItems?_itemsToJson :
    ∀ vs : List ScopeValue, readItems? str (itemsToJson vs) = some (spelledItems vs)
  | [] => rfl
  | v :: vs => by
    have hv : read? str v.toJson = some v.spelled := ofJson?_toJson v
    rw [itemsToJson, readItems?, hv, readItems?_itemsToJson vs]
    rfl

end

lemma decode?_toJson (v : ScopeValue) : decode? v.toJson = some v.recognised := by
  rw [decode?_eq_map, ofJson?_toJson, Option.map_some, recognised_spelled]

/-! ### The kinds of value -/

/-- How a wire form is read as a value of each kind: an identifier, a text, an integer, a truth
value, a list. -/
def kinds : List (Json → Option ScopeValue) :=
  [fun j => (j.str?.bind Uuid.ofText?).map uuid, fun j => j.str?.map str,
    fun j => j.int64?.map int, fun j => j.bool?.map bool, fun j => (j.list? decode?).map list]

/-- A wire form holds a value of the first kind that it can be read as. -/
lemma decode?_eq_findSome? (j : Json) : decode? j = kinds.findSome? fun read => read j := by
  cases j with
  | null | bool b | real x | obj members => rfl
  | int i =>
    show (Json.int i).int64?.map int = _
    cases h : (Json.int i).int64? <;> simp [kinds, Json.str?, Json.bool?, Json.list?, h]
  | str s =>
    show some (ofWireText s) = _
    cases h : Uuid.ofText? s <;> simp [kinds, Json.str?, ofWireText, h]
  | arr items =>
    have hitems : readItems? ofWireText items = items.mapM decode? := readItems?_eq_mapM
    show (readItems? ofWireText items).map list = _
    rw [hitems]
    cases h : items.mapM decode? <;>
      simp [kinds, Json.str?, Json.int64?, Json.intBetween?, Json.bool?, Json.list?, h]

/-- Both ways to take a value from JSON accept the data in which nothing is without a value, and
their results differ in the identifiers that texts spell; the wire form holds a value of the first
kind that it can be read as. A written value is read on the wire with its texts recognised and in a
request with its identifiers spelled, and what has been read on the wire once is read again. -/
theorem wire_form_stable :
    (∀ j, decode? j = (ofJson? j).map recognised ∧ (ofJson? j = none ↔ j.HasNoValue) ∧
      decode? j = kinds.findSome? fun read => read j) ∧
    ∀ v : ScopeValue, decode? v.toJson = some v.recognised ∧ ofJson? v.toJson = some v.spelled ∧
      decode? v.recognised.toJson = some v.recognised := by
  refine ⟨fun j => ⟨decode?_eq_map j, ofJson?_eq_none_iff j, decode?_eq_findSome? j⟩,
    fun v => ⟨decode?_toJson v, ofJson?_toJson v, ?_⟩⟩
  rw [decode?_toJson, recognised_recognised]

end ScopeValue

end AccessControl
