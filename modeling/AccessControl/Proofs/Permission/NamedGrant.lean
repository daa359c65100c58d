import AccessControl.Proofs.Permission.Codec
import AccessControl.Proofs.Sequences
import Mathlib.Data.List.Find
/-!
# Which member of a set grants a code

A set is searched in the order of its members, and the four texts that cover a code stand in that
order as well: the wildcard comes before the separator, and both come before every letter. So the
member that is found to grant a code is the first of the four texts that belongs to the set,
whatever else is in it.

The test that reports malformed texts and the one that takes them for no match agree on all others.
-/
namespace AccessControl

/-- Two segments with a colon between them. -/
def IsConcrete (code : String) : Prop :=
  ∃ resource action, IsSegment resource ∧ IsSegment action ∧ code = resource ++ ":" ++ action

/-- Whether a text belongs to a set can be decided. -/
instance (x : String) (set : PermissionSet) : Decidable (x ∈ set) :=
  inferInstanceAs (Decidable (x ∈ set.toList))

namespace Permission

variable {p : Permission} {code pattern : String}

lemma text_eq (resource action : String) :
    text ⟨resource, action⟩ = resource ++ ":" ++ action := rfl

/-- The texts that cover a code, written out. -/
lemma coveringTexts_eq (resource action : String) :
    coveringTexts ⟨resource, action⟩ =
      ["*", "*:" ++ action, resource ++ ":*", resource ++ ":" ++ action] := by
  have haction : encode wildcard action = "*:" ++ action := rfl
  have hresource : encode resource wildcard = resource ++ ":*" := by
    show resource ++ ":" ++ "*" = resource ++ ":*"
    rw [String.append_assoc]
    rfl
  rw [coveringTexts, haction, hresource, text_eq, wildcard]

lemma exists_parseConcrete_iff : (∃ p, parseConcrete code = .ok p) ↔ IsConcrete code := by
  constructor
  · rintro ⟨p, hp⟩
    obtain ⟨htext, hr, ha⟩ := ofConcrete_eq_ok_iff.1 (parseConcrete_eq_ok_iff.1 hp)
    exact ⟨p.resource, p.action, hr, ha, htext⟩
  · rintro ⟨resource, action, hr, ha, rfl⟩
    rw [← text_eq]
    exact ⟨_, parseConcrete_text hr ha⟩

/-! ### The order of the texts that cover a code -/

/-- Letters come after the separator, and with it after the wildcard. -/
lemma separator_lt_of_isAlpha {c : Char} (hc : c.isAlpha = true) :
    separator.toNat < c.toNat := by
  have hvalue : 'A'.val ≤ c.val := by
    rcases Bool.or_eq_true_iff.1 hc with hupper | hlower
    · exact (of_decide_eq_true hupper).1
    · have hle : 'a'.val ≤ c.val := of_decide_eq_true (Bool.and_eq_true_iff.1 hlower).1
      exact UInt32.le_trans (by decide) hle
  exact lt_of_lt_of_le (by decide) (UInt32.le_iff_toNat_le.1 hvalue)

/-- What begins with the separator or the wildcard comes before every segment. -/
lemma cons_lt_of_isSegment {c : Char} {cs : List Char} {s : String} {rest : List Char}
    (hc : c.toNat ≤ separator.toNat) (hs : IsSegment s) : c :: cs < s.toList ++ rest := by
  obtain ⟨d, ds, htoList, hd, -⟩ := hs
  have hlt : c.toNat < d.toNat := lt_of_le_of_lt hc (separator_lt_of_isAlpha hd)
  rw [htoList, List.cons_append, List.cons_lt_cons_iff]
  exact Or.inl hlt

/-- The texts that cover a code are in the order of their code points. -/
lemma coveringTexts_pairwise (hr : IsSegment p.resource) (ha : IsSegment p.action) :
    p.coveringTexts.Pairwise (· < ·) := by
  have hwildcard : wildcard < encode wildcard p.action := by
    rw [String.lt_iff, toList_encode]
    show ['*'] < '*' :: separator :: p.action.toList
    simp
  have hresource : encode wildcard p.action < encode p.resource wildcard := by
    rw [String.lt_iff, toList_encode, toList_encode]
    exact cons_lt_of_isSegment (by decide) hr
  have haction : encode p.resource wildcard < p.text := by
    rw [String.lt_iff, text, toList_encode, toList_encode]
    refine List.append_left_lt (List.cons_lt_cons_iff.2 (Or.inr ⟨rfl, ?_⟩))
    rw [← List.append_nil p.action.toList]
    exact cons_lt_of_isSegment (by decide) ha
  rw [coveringTexts, ← List.isChain_iff_pairwise]
  exact .cons_cons hwildcard (.cons_cons hresource (.cons_cons haction (.singleton _)))

/-! ### Matching -/

/-- The test of a pattern has no answer exactly when the pattern is malformed. -/
lemma exists_coveredBy_eq_ok_iff :
    (∃ covered, p.coveredBy pattern = .ok covered) ↔
      pattern = wildcard ∨ ∃ q, parse pattern = .ok q := by
  unfold coveredBy
  by_cases hwild : pattern = wildcard
  · simp [hwild]
  · rw [if_neg hwild, or_iff_right hwild]
    cases parse pattern with
    | error e => simp [bind, Except.bind]
    | ok q => simp [bind, Except.bind, pure, Except.pure]

end Permission

open Permission

variable {code pattern : String}

lemma exists_tryMatches_eq_ok_iff :
    (∃ covered, tryMatches code pattern = .ok covered) ↔
      IsConcrete code ∧ (pattern = wildcard ∨ ∃ q, parse pattern = .ok q) := by
  unfold tryMatches
  rw [← exists_parseConcrete_iff]
  cases parseConcrete code with
  | error e => simp [bind, Except.bind]
  | ok p => simpa [bind, Except.bind] using exists_coveredBy_eq_ok_iff

/-- The test that may fail does so unless the code is concrete and the pattern well formed. -/
lemma exists_tryMatches_eq_error_iff :
    (∃ e, tryMatches code pattern = .error e) ↔
      ¬(IsConcrete code ∧ (pattern = wildcard ∨ ∃ q, parse pattern = .ok q)) := by
  rw [← exists_tryMatches_eq_ok_iff]
  cases tryMatches code pattern <;> simp

/-- Both tests look at the code first and then at the pattern. -/
lemma covers_eq_anyCovers : covers pattern code = anyCovers [pattern] code := by
  unfold covers tryMatches anyCovers firstCovering
  cases parseConcrete code with
  | error e => rfl
  | ok p =>
    show p.isCoveredBy pattern = ([pattern].find? p.isCoveredBy).isSome
    rw [List.find?_singleton]
    cases p.isCoveredBy pattern <;> rfl

lemma covers_iff : covers pattern code = true ↔ Covers pattern code := by
  rw [covers_eq_anyCovers, anyCovers_iff]
  simp

/-! ### Grants -/

/-- In a set the first of the texts that cover a code is found. -/
lemma PermissionSet.grantFor_text {p : Permission} (set : PermissionSet)
    (hr : IsSegment p.resource) (ha : IsSegment p.action) :
    set.grantFor p.text = p.coveringTexts.find? (· ∈ set) := by
  have hasymm : ∀ a b : String, a < b → ¬b < a := fun _ _ => String.lt_asymm
  have hcovered : ∀ x ∈ set.toList, p.isCoveredBy x = decide (x ∈ p.coveringTexts) := by
    intro x _
    rw [← Bool.coe_iff_coe, isCoveredBy_iff hr ha, decide_eq_true_iff]
  rw [grantFor, firstCovering, parseConcrete_text hr ha]
  show set.toList.find? p.isCoveredBy = _
  rw [List.find?_congr hcovered]
  exact find?_mem_comm set.sorted (coveringTexts_pairwise hr ha) hasymm

lemma PermissionSet.grantFor_of_not_concrete (set : PermissionSet) (h : ¬IsConcrete code) :
    set.grantFor code = none := by
  rw [grantFor, firstCovering]
  cases hcode : parseConcrete code with
  | error e => rfl
  | ok p => exact absurd (exists_parseConcrete_iff.1 ⟨p, hcode⟩) h

/-- A text matches a code when the code is two segments with a colon between them and the text is
the wildcard, the code, or the code with one of the segments replaced by the wildcard. The test that
may fail does so exactly when the code is not concrete or the pattern is malformed, and otherwise
says the same. What a set is found to grant a code by is the first of the four texts that belongs to
the set, and nothing if none does or the code is not concrete; a search through its members finds
the same. -/
theorem grant_is_first_covering_text :
    (∀ code pattern, covers pattern code = true ↔
        ∃ resource action, IsSegment resource ∧ IsSegment action ∧
          code = resource ++ ":" ++ action ∧
            pattern ∈ ["*", "*:" ++ action, resource ++ ":*", resource ++ ":" ++ action]) ∧
      (∀ code pattern,
        ((∃ e, tryMatches code pattern = .error e) ↔
          ¬IsConcrete code ∨ pattern ≠ "*" ∧ ∀ p, parse pattern ≠ .ok p) ∧
        ∀ covered, tryMatches code pattern = .ok covered → covered = covers pattern code) ∧
      (∀ (set : PermissionSet) (resource action : String), IsSegment resource → IsSegment action →
        set.grantFor (resource ++ ":" ++ action) =
          ["*", "*:" ++ action, resource ++ ":*", resource ++ ":" ++ action].find? (· ∈ set)) ∧
      (∀ (set : PermissionSet) (code : String), ¬IsConcrete code → set.grantFor code = none) ∧
      ∀ (set : PermissionSet) (code : String),
        firstCovering set.toList code = set.grantFor code := by
  refine ⟨fun code pattern => ?_, fun code pattern => ⟨?_, fun covered h => ?_⟩,
    fun set resource action hr ha => ?_, fun set code h => set.grantFor_of_not_concrete h,
    fun set code => rfl⟩
  · rw [covers_iff]
    constructor
    · rintro ⟨⟨resource, action⟩, hcode, hr, ha, hmem⟩
      rw [coveringTexts_eq] at hmem
      exact ⟨resource, action, hr, ha, hcode, hmem⟩
    · rintro ⟨resource, action, hr, ha, hcode, hmem⟩
      rw [← coveringTexts_eq] at hmem
      exact ⟨⟨resource, action⟩, hcode, hr, ha, hmem⟩
  · rw [exists_tryMatches_eq_error_iff, not_and_or, not_or, not_exists]
    rfl
  · rw [covers, h]
  · rw [← coveringTexts_eq, ← text_eq]
    exact set.grantFor_text hr ha

/-- Grants of orders and of reading, a malformed text, and a part of a code. -/
def mixedGrants : PermissionSet := .ofList ["order", "order:*", "*:read", "*:*"]

/-- Reading orders is granted by the pattern for reading, which comes before the one for orders;
texts that are malformed are in the set and are passed over. Approving orders is granted by the
pattern for orders, and a code with a wildcard by nothing. -/
theorem grantFor_mixedGrants :
    IsSegment "order" ∧ IsSegment "read" ∧ IsSegment "approve" ∧ ¬IsConcrete "order:*" ∧
      mixedGrants.grantFor "order:read" = some "*:read" ∧
      mixedGrants.grantFor "order:approve" = some "order:*" ∧
      mixedGrants.grantFor "order:*" = none := by
  obtain ⟨-, -, hgrant, hnone, -⟩ := grant_is_first_covering_text
  have horder : IsSegment "order" := isSegment_iff.1 (by decide)
  have hread : IsSegment "read" := isSegment_iff.1 (by decide)
  have happrove : IsSegment "approve" := isSegment_iff.1 (by decide)
  have hstar : ¬IsConcrete "order:*" := by
    rw [← exists_parseConcrete_iff]
    rintro ⟨p, hp⟩
    have herror : parseConcrete "order:*" = .error (.invalidCode "order:*" _) := rfl
    rw [herror] at hp
    cases hp
  refine ⟨horder, hread, happrove, hstar, ?_, ?_, hnone mixedGrants "order:*" hstar⟩
  · have h := hgrant mixedGrants "order" "read" horder hread
    exact h.trans (by decide)
  · have h := hgrant mixedGrants "order" "approve" horder happrove
    exact h.trans (by decide)

end AccessControl
