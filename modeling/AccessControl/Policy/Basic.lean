import AccessControl.Json.Shape
/-!
# Effects and priorities

The two effects that a policy rule can have, and the named priorities by which rules and policies
are ordered. A priority that is missing or unknown counts as the normal one.
-/
namespace AccessControl

/-- What a policy rule does with the permissions that it covers. -/
inductive Effect where
  | allow | deny
  deriving DecidableEq, Repr

namespace Effect

/-- The label of an effect. -/
def label : Effect → String
  | allow => "allow"
  | deny => "deny"

/-- The effect with a label. -/
def ofLabel? (s : String) : Option Effect :=
  if s = "allow" then some allow else if s = "deny" then some deny else none

/-- Whether the effect is to allow. -/
def isAllow (e : Effect) : Bool := e = allow

end Effect

/-- How early a rule or policy is asked. -/
inductive Priority where
  | low | normal | high | critical
  deriving DecidableEq, Repr

namespace Priority

/-- All priorities, the lowest first. -/
def all : List Priority := [low, normal, high, critical]

/-- The label of a priority. -/
def label : Priority → String
  | low => "low"
  | normal => "normal"
  | high => "high"
  | critical => "critical"

/-- The number by which priorities are ordered. -/
def score : Priority → Nat
  | low => 10
  | normal => 50
  | high => 100
  | critical => 1000

instance : LT Priority := ⟨fun p q => p.score < q.score⟩

instance (p q : Priority) : Decidable (p < q) := inferInstanceAs (Decidable (p.score < q.score))

/-- The numbers rise from the lowest priority to the highest. -/
theorem all_pairwise_lt : all.Pairwise (· < ·) := by decide

theorem score_inj {p q : Priority} : p.score = q.score ↔ p = q := by
  cases p <;> cases q <;> decide

/-- The priority with a label. -/
def ofLabel? (s : String) : Option Priority := all.find? fun p => p.label = s

@[simp] theorem ofLabel?_label (p : Priority) : ofLabel? p.label = some p := by
  cases p <;> decide

theorem ofLabel?_eq_some_iff {s : String} {p : Priority} : ofLabel? s = some p ↔ s = p.label := by
  constructor
  · intro h
    have hlabel : p.label = s := by simpa using List.find?_some h
    exact hlabel.symm
  · rintro rfl
    exact ofLabel?_label p

/-- The priority that a label stands for; none and an unknown one stand for the normal one. -/
def ofLabel (label : Option String) : Priority := (label.bind ofLabel?).getD normal

/-- A label stands for the priority that has it, and where no priority has it, as where there is
none, for the normal one. -/
theorem ofLabel_eq_iff {label : Option String} {p : Priority} :
    ofLabel label = p ↔
      label = some p.label ∨ p = normal ∧ ∀ q : Priority, label ≠ some q.label := by
  cases hlabel : label.bind ofLabel? with
  | some q =>
    obtain ⟨s, rfl, hs⟩ := Option.bind_eq_some_iff.1 hlabel
    obtain rfl := ofLabel?_eq_some_iff.1 hs
    have hinj : q.label = p.label ↔ q = p := by
      rw [← ofLabel?_eq_some_iff, ofLabel?_label, Option.some_inj]
    rw [ofLabel, hlabel, Option.getD_some, Option.some_inj, hinj]
    exact ⟨Or.inl, fun h => h.resolve_right fun hnone => hnone.2 q rfl⟩
  | none =>
    have hunknown : ∀ q : Priority, label ≠ some q.label := by
      rintro q rfl
      simp at hlabel
    rw [ofLabel, hlabel, Option.getD_none]
    constructor
    · rintro rfl
      exact Or.inr ⟨rfl, hunknown⟩
    · rintro (h | ⟨rfl, -⟩)
      · exact absurd h (hunknown p)
      · rfl

end Priority

end AccessControl
