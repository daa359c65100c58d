import AccessControl.Proofs.Permission.Grammar
/-!
# What covers a code

A concrete code is covered by four texts: the wildcard, the two patterns with a wildcard for one of
the parts, and the code itself. Whatever else stands in a list or a set of grants covers nothing.
-/
namespace AccessControl

namespace Permission

variable {p : Permission}

/-- The texts that cover a code, in the order of their code points. -/
def coveringTexts (p : Permission) : List String :=
  [wildcard, encode wildcard p.action, encode p.resource wildcard, p.text]

lemma parse_eq_ok_iff {code : String} : parse code = .ok p ↔ ofText code = .ok p := by
  unfold parse
  cases ofText code <;> simp [Except.mapError]

lemma parseConcrete_eq_ok_iff {code : String} :
    parseConcrete code = .ok p ↔ ofConcrete code = .ok p := by
  unfold parseConcrete
  cases ofConcrete code <;> simp [Except.mapError]

lemma parseConcrete_text (hr : IsSegment p.resource) (ha : IsSegment p.action) :
    parseConcrete p.text = .ok p :=
  parseConcrete_eq_ok_iff.2 (ofConcrete_eq_ok_iff.2 ⟨rfl, hr, ha⟩)

/-- The text of two parts can be read as a concrete code exactly when both are segments. -/
lemma parseConcrete_encode_iff {resource action : String} :
    (∃ p, parseConcrete (encode resource action) = .ok p) ↔
      IsSegment resource ∧ IsSegment action := by
  constructor
  · rintro ⟨p, hp⟩
    obtain ⟨htext, hr, ha⟩ := ofConcrete_eq_ok_iff.1 (parseConcrete_eq_ok_iff.1 hp)
    obtain ⟨rfl, rfl⟩ := encode_inj hr.separator_not_mem ha.separator_not_mem htext
    exact ⟨hr, ha⟩
  · rintro ⟨hr, ha⟩
    exact ⟨⟨resource, action⟩, parseConcrete_text (p := ⟨resource, action⟩) hr ha⟩

/-- What is no concrete code is an invalid code. -/
lemma parseConcrete_eq_error {code : String} {e : AccessError}
    (h : parseConcrete code = .error e) : ∃ reason, e = .invalidCode code reason := by
  unfold parseConcrete at h
  cases hc : ofConcrete code with
  | ok p => simp [hc, Except.mapError] at h
  | error fault =>
    simp only [hc, Except.mapError, Except.error.injEq] at h
    exact ⟨fault.reason, h.symm⟩

/-! ### Patterns that cover a code -/

lemma isCoveredBy_wildcard : p.isCoveredBy wildcard = true := by
  simp [isCoveredBy, coveredBy]

/-- A pattern with two parts covers a code when each part is the wildcard or agrees. -/
lemma isCoveredBy_of_parse {q : Permission} {pattern : String} (hne : pattern ≠ wildcard)
    (hq : parse pattern = .ok q) :
    p.isCoveredBy pattern = true ↔
      if q.action = wildcard then q.resource = p.resource
      else if q.resource = wildcard then q.action = p.action
      else q = p := by
  unfold isCoveredBy coveredBy
  rw [if_neg hne, hq]
  simp only [bind, Except.bind, pure, Except.pure]
  split <;> [skip; split] <;> simp

lemma isCoveredBy_of_parse_error {pattern : String} {e : AccessError} (hne : pattern ≠ wildcard)
    (he : parse pattern = .error e) : p.isCoveredBy pattern = false := by
  simp [isCoveredBy, coveredBy, hne, he, bind, Except.bind]

/-- The texts with two parts that cover a concrete code can all be read. -/
lemma exists_ofText_of_mem_coveringTexts {pattern : String} (hr : IsSegment p.resource)
    (ha : IsSegment p.action) (hne : pattern ≠ wildcard) (h : pattern ∈ p.coveringTexts) :
    ∃ q, ofText pattern = .ok q := by
  simp only [coveringTexts, List.mem_cons, List.not_mem_nil, or_false] at h
  rcases h with h | h | h | h
  · exact absurd h hne
  · exact ⟨⟨wildcard, p.action⟩, ofText_eq_ok_iff.2
      ⟨h, Or.inr rfl, Or.inl ha, fun hboth => ha.ne_wildcard hboth.2⟩⟩
  · exact ⟨⟨p.resource, wildcard⟩, ofText_eq_ok_iff.2
      ⟨h, Or.inl hr, Or.inr rfl, fun hboth => hr.ne_wildcard hboth.1⟩⟩
  · exact ⟨p, ofText_eq_ok_iff.2 ⟨h, Or.inl hr, Or.inl ha, fun hboth => hr.ne_wildcard hboth.1⟩⟩

/-- Of the texts with two parts those cover a concrete code whose parts agree, or of which one
agrees and the other is the wildcard. -/
lemma text_mem_coveringTexts_iff {q : Permission} (hr : IsSegment p.resource)
    (ha : IsSegment p.action) (hne : q.text ≠ wildcard) :
    q.text ∈ p.coveringTexts ↔
      (q.resource = wildcard ∧ q.action = p.action) ∨
        (q.resource = p.resource ∧ q.action = wildcard) ∨
          q.resource = p.resource ∧ q.action = p.action := by
  have hparts : ∀ {resource action : String}, separator ∉ resource.toList →
      separator ∉ action.toList →
      (q.text = encode resource action ↔ q.resource = resource ∧ q.action = action) := by
    intro resource action hres hact
    exact ⟨encode_inj hres hact, fun h => by rw [text, h.1, h.2]⟩
  have hstar := separator_not_mem_wildcard
  have hresource := hr.separator_not_mem
  have haction := ha.separator_not_mem
  rw [coveringTexts, List.mem_cons, List.mem_cons, List.mem_cons, List.mem_singleton,
    hparts hstar haction, hparts hresource hstar, text.eq_def p, hparts hresource haction]
  exact or_iff_right hne

/-- Four texts cover a concrete code, and no others. -/
lemma isCoveredBy_iff {pattern : String} (hr : IsSegment p.resource) (ha : IsSegment p.action) :
    p.isCoveredBy pattern = true ↔ pattern ∈ p.coveringTexts := by
  by_cases hwild : pattern = wildcard
  · subst hwild
    simp [isCoveredBy_wildcard, coveringTexts]
  cases hparse : parse pattern with
  | error e =>
    -- What cannot be read is none of the texts that cover a code.
    rw [isCoveredBy_of_parse_error hwild hparse]
    refine iff_of_false Bool.false_ne_true fun h => ?_
    obtain ⟨q, hq⟩ := exists_ofText_of_mem_coveringTexts hr ha hwild h
    rw [parse_eq_ok_iff.2 hq] at hparse
    cases hparse
  | ok q =>
    obtain ⟨rfl, hqr, hqa, hnot⟩ := ofText_eq_ok_iff.1 (parse_eq_ok_iff.1 hparse)
    rw [isCoveredBy_of_parse hwild hparse, text_mem_coveringTexts_iff hr ha hwild]
    have hrw := hr.ne_wildcard
    have haw := ha.ne_wildcard
    obtain ⟨resource, action⟩ := p
    obtain ⟨qr, qa⟩ := q
    simp only [mk.injEq] at *
    split
    · grind
    · split <;> grind

end Permission

/-- The code is a concrete one, and the pattern is one of the four texts that cover it. -/
def Covers (pattern code : String) : Prop :=
  ∃ p : Permission, code = p.text ∧ IsSegment p.resource ∧ IsSegment p.action ∧
    pattern ∈ p.coveringTexts

/-- What covers the text of two segments is one of the four texts for these segments. -/
lemma covers_text_iff {p : Permission} {pattern : String} (hr : IsSegment p.resource)
    (ha : IsSegment p.action) : Covers pattern p.text ↔ pattern ∈ p.coveringTexts := by
  constructor
  · rintro ⟨q, htext, hqr, hqa, hmem⟩
    obtain ⟨hres, hact⟩ := Permission.encode_inj hqr.separator_not_mem hqa.separator_not_mem htext
    rwa [show p = q from congrArg₂ Permission.mk hres hact]
  · exact fun h => ⟨p, rfl, hr, ha, h⟩

/-- The member that is found to cover a code does. -/
lemma covers_of_firstCovering {patterns : List String} {pattern code : String}
    (h : firstCovering patterns code = some pattern) :
    pattern ∈ patterns ∧ Covers pattern code := by
  unfold firstCovering at h
  cases hcode : Permission.parseConcrete code with
  | error e => simp [hcode] at h
  | ok p =>
    obtain ⟨rfl, hr, ha⟩ :=
      Permission.ofConcrete_eq_ok_iff.1 (Permission.parseConcrete_eq_ok_iff.1 hcode)
    simp only [hcode] at h
    exact ⟨List.mem_of_find?_eq_some h, p, rfl, hr, ha,
      (Permission.isCoveredBy_iff hr ha).1 (List.find?_some h)⟩

/-- A list covers a code when one of its members does. -/
lemma anyCovers_iff {patterns : List String} {code : String} :
    anyCovers patterns code = true ↔ ∃ pattern ∈ patterns, Covers pattern code := by
  unfold anyCovers firstCovering
  cases hcode : Permission.parseConcrete code with
  | error e =>
    constructor
    · intro h; cases h
    · rintro ⟨-, -, p, rfl, hr, ha, -⟩
      rw [Permission.parseConcrete_text hr ha] at hcode
      cases hcode
  | ok p =>
    obtain ⟨rfl, hr, ha⟩ :=
      Permission.ofConcrete_eq_ok_iff.1 (Permission.parseConcrete_eq_ok_iff.1 hcode)
    simp only [List.find?_isSome, Permission.isCoveredBy_iff hr ha, covers_text_iff hr ha]

/-- A set grants a code when one of its members covers the code. -/
lemma PermissionSet.grantFor_isSome_iff {set : PermissionSet} {code : String} :
    (set.grantFor code).isSome = true ↔ ∃ pattern ∈ set, Covers pattern code :=
  anyCovers_iff

end AccessControl
