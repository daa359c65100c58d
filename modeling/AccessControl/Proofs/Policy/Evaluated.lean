import AccessControl.Proofs.Policy.Order
import Mathlib.Data.List.Forall2
/-!
# Which conditions are evaluated

Rules are asked in their order up to the first that applies, or all of them if none does. Of the
rules asked only those about the code have conditions evaluated, in order and up to the first that
is not answered with yes. So neither the rules after the one that decides nor the conditions of
rules about other codes matter, and it makes no difference whether a condition cannot be answered or
is answered with no.
-/
namespace AccessControl

/-- The members of a list up to the first of a kind, that one included, and which one it is; or all
members, if none is of the kind. -/
inductive UpToFirst {α : Type} (kind : α → Prop) : List α → List α → Option α → Prop
  | nil : UpToFirst kind [] [] none
  | first {x : α} {xs : List α} (hx : kind x) : UpToFirst kind (x :: xs) [x] (some x)
  | other {x : α} {xs front : List α} {found : Option α} (hx : ¬kind x)
      (h : UpToFirst kind xs front found) : UpToFirst kind (x :: xs) (x :: front) found

lemma exists_upToFirst {α : Type} (kind : α → Prop) (xs : List α) :
    ∃ front found, UpToFirst kind xs front found := by
  induction xs with
  | nil => exact ⟨[], none, .nil⟩
  | cons x xs ih =>
    obtain ⟨front, found, h⟩ := ih
    by_cases hx : kind x
    · exact ⟨[x], some x, .first hx⟩
    · exact ⟨x :: front, found, .other hx h⟩

variable {code : String} {ctx : CheckContext}

/-! ### Conditions -/

namespace Condition

/-- The condition is not answered with yes: its answer is no, or it has none. -/
def Fails (ctx : CheckContext) (c : Condition) : Prop := c.holds ctx ≠ .ok true

/-- The second condition is the first, or the first cannot be answered and the second is answered
with no in its place. -/
inductive Mends (ctx : CheckContext) (c : Condition) : Condition → Prop
  | same : Mends ctx c c
  | no {c' : Condition} {e : AccessError} (hc : c.holds ctx = .error e)
      (hname : c'.name = c.name) (hc' : c'.holds ctx = .ok false) : Mends ctx c c'

lemma passes_iff_not_fails {c : Condition} : c.passes ctx = true ↔ ¬c.Fails ctx := by
  rw [passes_iff, Fails, not_not]

lemma Mends.passes_eq {c c' : Condition} (h : c.Mends ctx c') : c'.passes ctx = c.passes ctx := by
  cases h with
  | same => rfl
  | no hc _ hc' => simp only [passes, hc, hc']

lemma map_name_of_mends {cs cs' : List Condition} (h : List.Forall₂ (Mends ctx) cs cs') :
    cs'.map name = cs.map name := by
  induction h with
  | nil => rfl
  | cons hc _ ih =>
    rw [List.map_cons, List.map_cons, ih]
    cases hc with
    | same => rfl
    | no _ hname _ => rw [hname]

end Condition

lemma evaluateConditions_upToFirst (ctx : CheckContext) (cs : List Condition) :
    ∃ failed, UpToFirst (Condition.Fails ctx) cs (evaluateConditions ctx cs).2 failed := by
  induction cs with
  | nil => exact ⟨none, .nil⟩
  | cons c cs ih =>
    obtain ⟨failed, h⟩ := ih
    rw [evaluateConditions]
    by_cases hc : c.Fails ctx
    · rw [if_neg (mt Condition.passes_iff_not_fails.1 (not_not.2 hc))]
      exact ⟨some c, .first hc⟩
    · rw [if_pos (Condition.passes_iff_not_fails.2 hc)]
      exact ⟨failed, .other hc h⟩

/-- Where all conditions hold, all are evaluated. -/
lemma evaluateConditions_of_forall {cs : List Condition} (h : ∀ c ∈ cs, c.holds ctx = .ok true) :
    evaluateConditions ctx cs = (true, cs) := by
  induction cs with
  | nil => rfl
  | cons c cs ih =>
    obtain ⟨hc, hcs⟩ := List.forall_mem_cons.1 h
    rw [evaluateConditions, if_pos (Condition.passes_iff.2 hc), ih hcs]

lemma evaluateConditions_mends {cs cs' : List Condition}
    (h : List.Forall₂ (Condition.Mends ctx) cs cs') :
    (evaluateConditions ctx cs').1 = (evaluateConditions ctx cs).1 ∧
      List.Forall₂ (Condition.Mends ctx) (evaluateConditions ctx cs).2
        (evaluateConditions ctx cs').2 := by
  induction h with
  | nil => exact ⟨rfl, .nil⟩
  | @cons c c' cs cs' hc _ ih =>
    rw [evaluateConditions, evaluateConditions, hc.passes_eq]
    by_cases hpasses : c.passes ctx = true
    · rw [if_pos hpasses, if_pos hpasses]
      exact ⟨ih.1, .cons hc ih.2⟩
    · rw [if_neg hpasses, if_neg hpasses]
      exact ⟨rfl, .cons hc .nil⟩

/-! ### Rules -/

namespace CompiledRule

/-- One of the permissions of the rule covers the code. -/
def IsAbout (code : String) (r : CompiledRule) : Prop :=
  ∃ pattern ∈ r.permissions, Covers pattern code

/-- The rule is about the code, and all its conditions hold. -/
def Applies (code : String) (ctx : CheckContext) (r : CompiledRule) : Prop :=
  r.IsAbout code ∧ ∀ c ∈ r.conditions, c.holds ctx = .ok true

lemma coversCode_iff {r : CompiledRule} : r.coversCode code = true ↔ r.IsAbout code := anyCovers_iff

instance (code : String) (r : CompiledRule) : Decidable (r.IsAbout code) :=
  decidable_of_iff _ coversCode_iff

/-- The second rule is the first, or the first is about other codes and the second differs from it
in its conditions. -/
inductive SameFor (code : String) (r : CompiledRule) : CompiledRule → Prop
  | same : SameFor code r r
  | conditions (cs : List Condition) (hr : ¬r.IsAbout code) :
      SameFor code r { r with conditions := cs }

/-- The second rule is the first with some of its conditions mended. -/
inductive Mends (ctx : CheckContext) (r : CompiledRule) : CompiledRule → Prop
  | conditions {cs : List Condition} (h : List.Forall₂ (Condition.Mends ctx) r.conditions cs) :
      Mends ctx r { r with conditions := cs }

end CompiledRule

/-- The second policy is the first with some conditions of its rules mended. -/
inductive CompiledPolicy.Mends (ctx : CheckContext) (p : CompiledPolicy) : CompiledPolicy → Prop
  | rules {rs : List CompiledRule} (h : List.Forall₂ (CompiledRule.Mends ctx) p.rules rs) :
      Mends ctx p { p with rules := rs }

/-- The decision of a rule, or the one when no rule decides. -/
def PolicyDecision.ofRule? : Option (String × CompiledRule) → PolicyDecision
  | some (policy, rule) => ⟨rule.effect, some (policy, rule.index)⟩
  | none => .byDefault

/-! ### Rules one by one -/

variable {policy : String} {rule : CompiledRule} {rules rest : List (String × CompiledRule)}

lemma scan_of_not_isAbout (h : ¬rule.IsAbout code) :
    scan code ctx ((policy, rule) :: rest) = scan code ctx rest := by
  rw [scan, if_neg (mt CompiledRule.coversCode_iff.1 h)]

lemma scan_of_applies (h : rule.Applies code ctx) :
    scan code ctx ((policy, rule) :: rest) =
      ⟨⟨rule.effect, some (policy, rule.index)⟩, rule.conditions⟩ := by
  rw [scan, if_pos (CompiledRule.coversCode_iff.2 h.1)]
  simp only [evaluateConditions_of_forall h.2, if_true]

lemma scan_of_fails (habout : rule.IsAbout code) (h : ¬rule.Applies code ctx) :
    scan code ctx ((policy, rule) :: rest) =
      ⟨(scan code ctx rest).decision,
        (evaluateConditions ctx rule.conditions).2 ++ (scan code ctx rest).evaluated⟩ := by
  have hfails : (evaluateConditions ctx rule.conditions).1 ≠ true :=
    fun hall => h ⟨habout, evaluateConditions_fst_iff.1 hall⟩
  rw [scan, if_pos (CompiledRule.coversCode_iff.2 habout)]
  simp only [if_neg hfails]

section Asked

variable {asked : List (String × CompiledRule)} {deciding : Option (String × CompiledRule)}

/-- Of each rule that is asked and about the code, conditions are evaluated up to the first that
fails. -/
lemma scan_evaluated (h : UpToFirst (fun r => r.2.Applies code ctx) rules asked deciding) :
    ∃ parts, List.Forall₂
        (fun r part => ∃ failed, UpToFirst (Condition.Fails ctx) r.2.conditions part failed)
        (asked.filter fun r => r.2.IsAbout code) parts ∧
      (scan code ctx rules).evaluated = parts.flatten := by
  induction h with
  | nil => exact ⟨[], .nil, rfl⟩
  | @first r rest hr =>
    have hpart := evaluateConditions_upToFirst ctx r.2.conditions
    rw [evaluateConditions_of_forall hr.2] at hpart
    refine ⟨[r.2.conditions], ?_, ?_⟩
    · simp only [List.filter_cons, hr.1, decide_true, if_true]
      exact .cons hpart .nil
    · rw [scan_of_applies hr]
      simp
  | @other r rest front found hr _ ih =>
    obtain ⟨parts, hparts, hevaluated⟩ := ih
    by_cases habout : r.2.IsAbout code
    · refine ⟨(evaluateConditions ctx r.2.conditions).2 :: parts, ?_, ?_⟩
      · simp only [List.filter_cons, habout, decide_true, if_true]
        exact .cons (evaluateConditions_upToFirst ctx r.2.conditions) hparts
      · rw [scan_of_fails habout hr, hevaluated, List.flatten_cons]
    · refine ⟨parts, ?_, ?_⟩
      · simpa only [List.filter_cons, habout, decide_false, Bool.false_eq_true, if_false]
          using hparts
      · rw [scan_of_not_isAbout habout, hevaluated]

/-- The first rule that applies decides. -/
lemma scan_decision_of_upToFirst
    (h : UpToFirst (fun r => r.2.Applies code ctx) rules asked deciding) :
    (scan code ctx rules).decision = .ofRule? deciding := by
  induction h with
  | nil => rfl
  | first hr =>
    rw [scan_of_applies hr]
    rfl
  | @other r rest front found hr _ ih =>
    by_cases habout : r.2.IsAbout code
    · rw [scan_of_fails habout hr, ih]
    · rw [scan_of_not_isAbout habout, ih]

/-- Nothing depends on the conditions of rules about other codes, nor on what comes after the rule
that decides. -/
lemma scan_congr {asked' rest' : List (String × CompiledRule)}
    (h : UpToFirst (fun r => r.2.Applies code ctx) rules asked deciding)
    (hasked : List.Forall₂ (fun r r' => r'.1 = r.1 ∧ r.2.SameFor code r'.2) asked asked')
    (hrest : deciding = none → rest' = []) :
    scan code ctx (asked' ++ rest') = scan code ctx rules := by
  induction h generalizing asked' with
  | nil =>
    cases hasked
    rw [hrest rfl]
    rfl
  | @first r rest hr =>
    obtain ⟨policy, rule⟩ := r
    cases hasked with
    | @cons _ r' _ _ hfirst hnil =>
      obtain ⟨policy', rule'⟩ := r'
      obtain ⟨rfl : policy' = policy, hsame⟩ := hfirst
      cases hnil
      cases hsame with
      | same => rw [List.cons_append, scan_of_applies hr, scan_of_applies hr]
      | conditions cs hother => exact absurd hr.1 hother
  | @other r rest front found hr _ ih =>
    obtain ⟨policy, rule⟩ := r
    cases hasked with
    | @cons _ r' _ front' hfirst hfront =>
      obtain ⟨policy', rule'⟩ := r'
      obtain ⟨rfl : policy' = policy, hsame⟩ := hfirst
      have hscan := ih hfront hrest
      rw [List.cons_append]
      cases hsame with
      | same =>
        by_cases habout : rule.IsAbout code
        · rw [scan_of_fails habout hr, scan_of_fails habout hr, hscan]
        · rw [scan_of_not_isAbout habout, scan_of_not_isAbout habout, hscan]
      | conditions cs hother =>
        have hother' : ¬({ rule with conditions := cs } : CompiledRule).IsAbout code := hother
        rw [scan_of_not_isAbout hother, ← hscan]
        exact scan_of_not_isAbout hother'

end Asked

/-! ### Mended conditions -/

lemma scan_mends {rules' : List (String × CompiledRule)}
    (h : List.Forall₂ (fun r r' => r'.1 = r.1 ∧ r.2.Mends ctx r'.2) rules rules') :
    (scan code ctx rules').decision = (scan code ctx rules).decision ∧
      List.Forall₂ (Condition.Mends ctx) (scan code ctx rules).evaluated
        (scan code ctx rules').evaluated := by
  induction h with
  | nil => exact ⟨rfl, .nil⟩
  | @cons r r' rules rules' hr _ ih =>
    obtain ⟨policy, rule⟩ := r
    obtain ⟨policy', rule'⟩ := r'
    obtain ⟨rfl : policy' = policy, hmends⟩ := hr
    cases hmends with
    | @conditions cs hconditions =>
      obtain ⟨hhold, hevaluated⟩ := evaluateConditions_mends hconditions
      have hcovers : ({ rule with conditions := cs } : CompiledRule).coversCode code =
          rule.coversCode code := rfl
      dsimp only at hhold hevaluated
      rw [scan, scan, hcovers]
      by_cases habout : rule.coversCode code = true
      · simp only [if_pos habout, hhold]
        by_cases hall : (evaluateConditions ctx rule.conditions).1 = true
        · simp only [if_pos hall]
          exact ⟨trivial, hevaluated⟩
        · simp only [if_neg hall]
          exact ⟨ih.1, List.rel_append hevaluated ih.2⟩
      · simp only [if_neg habout]
        exact ih

lemma rulesInOrder_mends {policies policies' : List CompiledPolicy}
    (h : List.Forall₂ (CompiledPolicy.Mends ctx) policies policies') :
    List.Forall₂ (fun r r' => r'.1 = r.1 ∧ r.2.Mends ctx r'.2) (rulesInOrder policies)
      (rulesInOrder policies') := by
  induction h with
  | nil => exact .nil
  | @cons p p' policies policies' hp _ ih =>
    cases hp with
    | @rules rs hrules =>
      refine List.rel_append ?_ ih
      rw [List.forall₂_map_left_iff, List.forall₂_map_right_iff]
      exact hrules.imp fun _ _ hr => ⟨rfl, hr⟩

/-- What is evaluated is, for each rule about the code up to and including the one that decides, its
conditions up to and including the first that fails. So the verdict stays the same whatever
conditions rules about other codes have, and whatever rules come after the one that decides. Where
conditions that cannot be answered are answered with no instead, the decision stays the same, and so
does what is evaluated, with the mended conditions in their places. -/
theorem evaluates_only_needed (code : String) (ctx : CheckContext)
    (policies : List CompiledPolicy) :
    ∃ (asked : List (String × CompiledRule)) (deciding : Option (String × CompiledRule))
      (parts : List (List Condition)),
      UpToFirst (fun r => r.2.Applies code ctx) (rulesInOrder policies) asked deciding ∧
      (evaluate code ctx policies).decision = .ofRule? deciding ∧
      List.Forall₂
        (fun r part => ∃ failed, UpToFirst (Condition.Fails ctx) r.2.conditions part failed)
        (asked.filter fun r => r.2.IsAbout code) parts ∧
      (evaluate code ctx policies).evaluated = parts.flatten ∧
      (∀ policies' asked' rest', rulesInOrder policies' = asked' ++ rest' →
        List.Forall₂ (fun r r' => r'.1 = r.1 ∧ r.2.SameFor code r'.2) asked asked' →
        (deciding = none → rest' = []) →
          evaluate code ctx policies' = evaluate code ctx policies) ∧
      ∀ policies', List.Forall₂ (CompiledPolicy.Mends ctx) policies policies' →
        (evaluate code ctx policies').decision = (evaluate code ctx policies).decision ∧
          List.Forall₂ (Condition.Mends ctx) (evaluate code ctx policies).evaluated
            (evaluate code ctx policies').evaluated := by
  obtain ⟨asked, deciding, hasked⟩ := exists_upToFirst
    (fun r : String × CompiledRule => r.2.Applies code ctx) (rulesInOrder policies)
  obtain ⟨parts, hparts, hevaluated⟩ := scan_evaluated hasked
  refine ⟨asked, deciding, parts, hasked, scan_decision_of_upToFirst hasked, hparts, hevaluated,
    fun policies' asked' rest' hrules hsame hrest => ?_, fun policies' hmends => ?_⟩
  · rw [evaluate, hrules]
    exact scan_congr hasked hsame hrest
  · exact scan_mends (rulesInOrder_mends hmends)

/-! A rule with a condition that cannot be answered, one about other codes, one that decides, and
one that comes after it. -/

def brokenClock : Condition :=
  .providedAttributeEquals (fun _ _ => .error (.attributeUnavailable "clock")) "hour" (.int 9)

def stoppedClock : Condition := { brokenClock with holds := fun _ => .ok false }

def shopRule (index : Nat) (pattern : String) (effect : Effect) (conditions : List Condition) :
    CompiledRule where
  index := index
  permissions := .ofList [pattern]
  effect := effect
  conditions := conditions
  priority := .ofLabel none
  description := none

def shopPolicy (clock : Condition) : CompiledPolicy where
  id := "shop"
  priority := .ofLabel none
  rules := [shopRule 0 "order:*" .allow [clock, .resourceIdPresent],
    shopRule 1 "report:*" .allow [.resourceIdPresent],
    shopRule 2 "order:read" .deny [.subjectHasRole "clerk"],
    shopRule 3 "*" .allow [clock]]

def readByRole : CheckContext where
  request := {
    tenant := { id := "t" }
    subject := { id := "u", kind := .user, roles := ["clerk"] } }
  resource := "order"
  action := "read"

theorem evaluated_past_broken_clock :
    List.Forall₂ (CompiledPolicy.Mends readByRole) [shopPolicy brokenClock]
        [shopPolicy stoppedClock] ∧
      (evaluate "order:read" readByRole [shopPolicy brokenClock]).evaluated.map Condition.name =
        ["provided_attribute_equals(hour)", "subject_has_role(clerk)"] ∧
      (evaluate "order:read" readByRole [shopPolicy stoppedClock]).evaluated.map Condition.name =
        ["provided_attribute_equals(hour)", "subject_has_role(clerk)"] ∧
      (evaluate "order:read" readByRole [shopPolicy stoppedClock]).decision =
        ⟨.deny, some ("shop", 2)⟩ := by
  have hclock : brokenClock.Mends readByRole stoppedClock := .no rfl rfl rfl
  have hsame : ∀ c : Condition, c.Mends readByRole c := fun c => .same
  have hmends : List.Forall₂ (CompiledPolicy.Mends readByRole) [shopPolicy brokenClock]
      [shopPolicy stoppedClock] := by
    refine .cons (.rules (.cons ?_ (.cons ?_ (.cons ?_ (.cons ?_ .nil))))) .nil
    · exact .conditions (.cons hclock (.cons (hsame _) .nil))
    · exact .conditions (.cons (hsame _) .nil)
    · exact .conditions (.cons (hsame _) .nil)
    · exact .conditions (.cons hclock .nil)
  have hevaluated : (evaluate "order:read" readByRole [shopPolicy brokenClock]).evaluated.map
      Condition.name = ["provided_attribute_equals(hour)", "subject_has_role(clerk)"] := by
    decide
  have hdecision : (evaluate "order:read" readByRole [shopPolicy brokenClock]).decision =
      ⟨.deny, some ("shop", 2)⟩ := by
    decide
  obtain ⟨-, -, -, -, -, -, -, -, hmended⟩ :=
    evaluates_only_needed "order:read" readByRole [shopPolicy brokenClock]
  obtain ⟨hsameDecision, hsameEvaluated⟩ := hmended _ hmends
  exact ⟨hmends, hevaluated, (Condition.map_name_of_mends hsameEvaluated).trans hevaluated,
    hsameDecision.trans hdecision⟩

end AccessControl
