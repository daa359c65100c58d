import AccessControl.Policy.Verdict
import AccessControl.Proofs.Permission.Coverage
import AccessControl.Proofs.Sequences
/-!
# The order of policy rules

A rule of some definitions has two places: that of its policy among the definitions, and its own
within the policy. Compiling puts the rules into one order: by the priorities of their policies, the
greatest first, then by the places of the policies, then by the priorities of the rules themselves
and their own places. What is evaluated is decided by the first rule in this order that covers the
code and whose conditions all hold.
-/
namespace AccessControl

/-- The number by which a rule is ordered within its policy. -/
def PolicyRule.score (rule : PolicyRule) : Nat := (Priority.ofLabel rule.priority).score

/-- The number by which a policy is ordered. -/
def PolicyDefinition.score (d : PolicyDefinition) : Nat := (Priority.ofLabel d.priority).score

/-- A rule with its places. -/
structure PlacedRule where
  policy : PolicyDefinition
  /-- The place of the policy among the definitions. -/
  place : Nat
  rule : PolicyRule
  /-- The place of the rule in its policy. -/
  index : Nat

namespace PlacedRule

/-- The rule stands at its places in these definitions. -/
def IsIn (p : PlacedRule) (definitions : List PolicyDefinition) : Prop :=
  definitions[p.place]? = some p.policy ∧ p.policy.rules[p.index]? = some p.rule

/-- The first rule is asked before the second: its policy has the greater score, or as great a score
and the earlier place; or both are in one policy, and this holds of the rules themselves. -/
def Before (p q : PlacedRule) : Prop :=
  q.policy.score < p.policy.score ∨
    q.policy.score = p.policy.score ∧
      (p.place < q.place ∨
        p.place = q.place ∧
          (q.rule.score < p.rule.score ∨ q.rule.score = p.rule.score ∧ p.index < q.index))

/-- One of the permissions of the rule covers the code, and all its conditions hold. -/
def Applies (p : PlacedRule) (code : String) (ctx : CheckContext) : Prop :=
  (∃ pattern ∈ p.rule.permissions, Covers pattern code) ∧
    ∀ c ∈ p.rule.conditions, c.holds ctx = .ok true

/-- The rule applies, and is before all others that do. -/
structure Wins (p : PlacedRule) (definitions : List PolicyDefinition) (code : String)
    (ctx : CheckContext) : Prop where
  isIn : p.IsIn definitions
  applies : p.Applies code ctx
  first : ∀ q : PlacedRule, q.IsIn definitions → q.Applies code ctx → q = p ∨ p.Before q

variable {p q : PlacedRule}

lemma Before.asymm (h : p.Before q) : ¬q.Before p := by
  unfold Before at *
  omega

/-- Which of two rules is asked first, said by the priorities that their labels stand for. -/
lemma before_iff :
    p.Before q ↔
      Priority.ofLabel q.policy.priority < Priority.ofLabel p.policy.priority ∨
        Priority.ofLabel q.policy.priority = Priority.ofLabel p.policy.priority ∧
          (p.place < q.place ∨
            p.place = q.place ∧
              (Priority.ofLabel q.rule.priority < Priority.ofLabel p.rule.priority ∨
                Priority.ofLabel q.rule.priority = Priority.ofLabel p.rule.priority ∧
                  p.index < q.index)) := by
  simp only [Before, PolicyDefinition.score, PolicyRule.score, Priority.score_inj]
  rfl

/-- Wherever the policies stand, the rules of one that is labelled with a greater priority are asked
first. A policy without a label, or with one that no priority has, counts as a normal one. -/
lemma before_of_label_lt {greater lesser : Priority} (hlt : lesser < greater)
    (hp : p.policy.priority = some greater.label)
    (hq : q.policy.priority = some lesser.label ∨
      lesser = .normal ∧ ∀ other : Priority, q.policy.priority ≠ some other.label) :
    p.Before q := by
  have hgreater := Priority.ofLabel_eq_iff.2 (Or.inl hp)
  have hlesser := Priority.ofLabel_eq_iff.2 hq
  rw [before_iff, hgreater, hlesser]
  exact Or.inl hlt

end PlacedRule

/-! ### The compiled form of rules and policies -/

/-- The compiled form of a rule whose effect is known. -/
def PolicyRule.compiledAt (rule : PolicyRule) (index : Nat) : CompiledRule where
  index := index
  permissions := .ofList rule.permissions
  effect := (Effect.ofLabel? rule.effect).getD .deny
  conditions := rule.conditions
  priority := .ofLabel rule.priority
  description := rule.description

/-- The compiled form of a policy whose rules can be compiled. -/
def PolicyDefinition.compiled (d : PolicyDefinition) : CompiledPolicy where
  id := d.trimmedId
  priority := .ofLabel d.priority
  rules := (byScore PolicyRule.score d.rules).map fun r => r.1.compiledAt r.2

/-- The rule as it is asked, with the id of its policy. -/
def PlacedRule.compiled (p : PlacedRule) : String × CompiledRule :=
  (p.policy.trimmedId, p.rule.compiledAt p.index)

/-- All rules of some definitions in the order in which they are asked. -/
def placedRules (definitions : List PolicyDefinition) : List PlacedRule :=
  (byScore PolicyDefinition.score definitions).flatMap fun d =>
    (byScore PolicyRule.score d.1.rules).map fun r => ⟨d.1, d.2, r.1, r.2⟩

namespace PolicyRule

lemma compile_eq_ok {rule : PolicyRule} {index : Nat} {c : CompiledRule}
    (h : rule.compile index = .ok c) :
    c = rule.compiledAt index ∧ ∃ effect, Effect.ofLabel? rule.effect = some effect := by
  unfold compile at h
  split at h
  · cases h
  · cases heffect : Effect.ofLabel? rule.effect with
    | none => simp [heffect] at h
    | some effect =>
      cases hpatterns : checkPatterns rule.permissions with
      | error e => simp [heffect, hpatterns] at h
      | ok _ =>
        simp only [heffect, hpatterns, Except.ok.injEq] at h
        exact ⟨by rw [← h, compiledAt, heffect, Option.getD_some], effect, rfl⟩

lemma compileFrom_eq_ok {rules : List PolicyRule} {index : Nat} {cs : List CompiledRule}
    (h : compileFrom index rules = .ok cs) :
    cs = (rules.zipIdx index).map (fun r => r.1.compiledAt r.2) ∧
      ∀ rule ∈ rules, ∃ effect, Effect.ofLabel? rule.effect = some effect := by
  induction rules generalizing index cs with
  | nil =>
    cases h
    exact ⟨rfl, by simp⟩
  | cons rule rules ih =>
    simp only [compileFrom, bind, Except.bind] at h
    cases hrule : rule.compile index with
    | error e => simp [hrule] at h
    | ok c =>
      cases hrules : compileFrom (index + 1) rules with
      | error e => simp [hrule, hrules] at h
      | ok rest =>
        -- Both have been compiled, the first at its index and the others from the next one on.
        simp only [hrule, hrules, pure, Except.pure, Except.ok.injEq] at h
        obtain ⟨hc, heffect⟩ := compile_eq_ok hrule
        obtain ⟨hrest, heffects⟩ := ih hrules
        refine ⟨by rw [← h, hc, hrest, List.zipIdx_cons, List.map_cons], ?_⟩
        rintro r hr
        rcases List.mem_cons.1 hr with rfl | hr
        · exact heffect
        · exact heffects r hr

end PolicyRule

namespace PolicyDefinition

lemma compile_eq_ok {d : PolicyDefinition} {c : CompiledPolicy} (h : d.compile = .ok c) :
    c = d.compiled ∧ ∀ rule ∈ d.rules, ∃ effect, Effect.ofLabel? rule.effect = some effect := by
  unfold compile compileRules at h
  split at h
  · cases h
  · rename_i rules hrules
    split at hrules
    · cases hrules
    · split at hrules
      · cases hrules
      · cases hfrom : PolicyRule.compileFrom 0 d.rules with
        | error e => simp [hfrom, Except.map] at hrules
        | ok cs =>
          simp only [hfrom, Except.map, Except.ok.injEq] at hrules h
          obtain ⟨hcs, heffects⟩ := PolicyRule.compileFrom_eq_ok hfrom
          refine ⟨?_, heffects⟩
          rw [← h, ← hrules, hcs, compiled]
          congr 1
          exact mergeSort_map_zipIdx PolicyRule.score d.rules fun _ _ => rfl

lemma compileAll_eq_ok {definitions : List PolicyDefinition} {policies : List CompiledPolicy}
    (h : compileAll definitions = .ok policies) :
    policies = (byScore score definitions).map (fun d => d.1.compiled) ∧
      ∀ d ∈ definitions, ∀ rule ∈ d.rules, ∃ effect, Effect.ofLabel? rule.effect = some effect := by
  unfold compileAll at h
  cases hall : definitions.mapM compile with
  | error e => simp [hall, Except.map] at h
  | ok cs =>
    simp only [hall, Except.map, Except.ok.injEq] at h
    have hcs := eq_map_of_mapM_eq_ok hall fun d c hd => (compile_eq_ok hd).1
    constructor
    · have hplaces : definitions.map compiled =
          definitions.zipIdx.map fun d => d.1.compiled := by
        conv_lhs => rw [← List.zipIdx_map_fst 0 definitions, List.map_map]
        rfl
      rw [← h, hcs, hplaces]
      exact mergeSort_map_zipIdx score definitions fun _ _ => rfl
    · intro d hd
      obtain ⟨c, hc⟩ := exists_of_mapM_eq_ok hall hd
      exact (compile_eq_ok hc).2

end PolicyDefinition

/-! ### The order in which rules are asked -/

lemma mem_placedRules {definitions : List PolicyDefinition} {p : PlacedRule} :
    p ∈ placedRules definitions ↔ p.IsIn definitions := by
  simp only [placedRules, List.mem_flatMap, List.mem_map, Prod.exists, mem_byScore]
  constructor
  · rintro ⟨d, i, hd, r, j, hr, rfl⟩
    exact ⟨hd, hr⟩
  · rintro ⟨hd, hr⟩
    exact ⟨p.policy, p.place, hd, p.rule, p.index, hr, rfl⟩

lemma placedRules_pairwise (definitions : List PolicyDefinition) :
    (placedRules definitions).Pairwise PlacedRule.Before := by
  rw [placedRules, List.pairwise_flatMap]
  -- First the rules of one policy, then the rules of two.
  constructor
  · rintro ⟨d, i⟩ -
    refine List.pairwise_map.2 ((byScore_pairwise PolicyRule.score d.rules).imp ?_)
    intro a b hab
    exact Or.inr ⟨rfl, Or.inr ⟨rfl, hab⟩⟩
  · refine (byScore_pairwise PolicyDefinition.score definitions).imp ?_
    intro a b hab p hp q hq
    obtain ⟨r, -, rfl⟩ := List.mem_map.1 hp
    obtain ⟨s, -, rfl⟩ := List.mem_map.1 hq
    exact hab.imp_right fun h => ⟨h.1, Or.inl h.2⟩

lemma rulesInOrder_compileAll {definitions : List PolicyDefinition} {policies : List CompiledPolicy}
    (h : PolicyDefinition.compileAll definitions = .ok policies) :
    rulesInOrder policies = (placedRules definitions).map PlacedRule.compiled := by
  rw [(PolicyDefinition.compileAll_eq_ok h).1, rulesInOrder, placedRules, List.flatMap_map,
    List.map_flatMap]
  simp only [PolicyDefinition.compiled, List.map_map]
  rfl

/-! ### What decides -/

lemma Condition.passes_iff {c : Condition} {ctx : CheckContext} :
    c.passes ctx = true ↔ c.holds ctx = .ok true := by
  unfold passes
  cases c.holds ctx <;> simp

lemma evaluateConditions_fst_iff {ctx : CheckContext} {cs : List Condition} :
    (evaluateConditions ctx cs).1 = true ↔ ∀ c ∈ cs, c.holds ctx = .ok true := by
  induction cs with
  | nil => simp [evaluateConditions]
  | cons c cs ih =>
    rw [evaluateConditions, List.forall_mem_cons, ← Condition.passes_iff]
    cases hc : c.passes ctx with
    | false => simp
    | true => simpa using ih

/-- Whether a rule, as it is asked, decides. -/
def decides (code : String) (ctx : CheckContext) (entry : String × CompiledRule) : Bool :=
  entry.2.coversCode code && entry.2.passes ctx

lemma decides_compiled_iff {p : PlacedRule} {code : String} {ctx : CheckContext} :
    decides code ctx p.compiled = true ↔ p.Applies code ctx := by
  unfold decides CompiledRule.coversCode CompiledRule.passes
  rw [Bool.and_eq_true, anyCovers_iff, evaluateConditions_fst_iff, PlacedRule.Applies]
  refine and_congr_left fun _ => exists_congr fun pattern => and_congr_left fun _ => ?_
  exact PermissionSet.mem_ofList

/-- The first rule that covers the code and whose conditions hold decides. -/
lemma scan_decision (code : String) (ctx : CheckContext) (rules : List (String × CompiledRule)) :
    (scan code ctx rules).decision =
      match rules.find? (decides code ctx) with
      | some (policy, rule) => ⟨rule.effect, some (policy, rule.index)⟩
      | none => .byDefault := by
  induction rules with
  | nil => rfl
  | cons entry rest ih =>
    obtain ⟨policy, rule⟩ := entry
    rw [scan, List.find?_cons]
    cases hcover : rule.coversCode code with
    | false => simpa [decides, hcover] using ih
    | true =>
      cases hpass : (evaluateConditions ctx rule.conditions).1 with
      | false => simpa [decides, hcover, CompiledRule.passes, hpass] using ih
      | true => simp [decides, hcover, CompiledRule.passes, hpass]

section Evaluate

variable {definitions : List PolicyDefinition} {policies : List CompiledPolicy} {code : String}
  {ctx : CheckContext}

/-- The rule that is before all others that apply decides. -/
lemma evaluate_of_wins (h : PolicyDefinition.compileAll definitions = .ok policies)
    {p : PlacedRule} (hp : p.Wins definitions code ctx) :
    ∃ effect, Effect.ofLabel? p.rule.effect = some effect ∧
      (evaluate code ctx policies).decision = ⟨effect, some (p.policy.trimmedId, p.index)⟩ := by
  have hfound : (placedRules definitions).find? (decides code ctx ∘ PlacedRule.compiled) =
      some p := by
    refine find?_eq_some_of_first (placedRules_pairwise definitions)
      (fun _ _ hab => hab.asymm) (mem_placedRules.2 hp.isIn) (decides_compiled_iff.2 hp.applies) ?_
    intro q hq hpass
    exact hp.first q (mem_placedRules.1 hq) (decides_compiled_iff.1 hpass)
  obtain ⟨effect, heffect⟩ := (PolicyDefinition.compileAll_eq_ok h).2 p.policy
    (List.mem_of_getElem? hp.isIn.1) p.rule (List.mem_of_getElem? hp.isIn.2)
  refine ⟨effect, heffect, ?_⟩
  rw [evaluate, scan_decision, rulesInOrder_compileAll h, List.find?_map, hfound]
  simp [PlacedRule.compiled, PolicyRule.compiledAt, heffect]

/-- Without a rule that applies nothing is decided. -/
lemma evaluate_of_forall_not (h : PolicyDefinition.compileAll definitions = .ok policies)
    (hnone : ∀ q : PlacedRule, q.IsIn definitions → ¬q.Applies code ctx) :
    (evaluate code ctx policies).decision = .byDefault := by
  have hfound :
      (placedRules definitions).find? (decides code ctx ∘ PlacedRule.compiled) = none := by
    refine List.find?_eq_none.2 fun q hq hpass => ?_
    exact hnone q (mem_placedRules.1 hq) (decides_compiled_iff.1 hpass)
  rw [evaluate, scan_decision, rulesInOrder_compileAll h, List.find?_map, hfound]
  rfl

/-- If a rule applies, one wins. -/
lemma exists_wins {q : PlacedRule} (hq : q.IsIn definitions) (happlies : q.Applies code ctx) :
    ∃ p : PlacedRule, p.Wins definitions code ctx := by
  have hpasses : ∃ q ∈ placedRules definitions, (decides code ctx ∘ PlacedRule.compiled) q = true :=
    ⟨q, mem_placedRules.2 hq, decides_compiled_iff.2 happlies⟩
  obtain ⟨p, hp, hpass, hfirst⟩ := exists_first (placedRules_pairwise definitions) hpasses
  refine ⟨p, mem_placedRules.1 hp, decides_compiled_iff.1 hpass, fun b hb hb' => ?_⟩
  exact hfirst b (mem_placedRules.2 hb) (decides_compiled_iff.2 hb')

end Evaluate

end AccessControl
