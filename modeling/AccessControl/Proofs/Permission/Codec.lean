import AccessControl.Proofs.Permission.Coverage
/-!
# Reading back what was written

A text with two parts is read exactly when it was written from two parts that may stand there, and
it is read as these parts: no part that holds a separator is ever cut at it, because then the text
has too many of them. The readers of concrete codes and of grants accept the texts of the same
grammar, the former less its patterns, the latter with the wildcard alone.
-/
namespace AccessControl

namespace Permission

variable {p : Permission} {code resource action : String}

/-- Each part is a segment or the wildcard, and not both are the wildcard. -/
structure WellFormed (p : Permission) : Prop where
  resource : IsSegment p.resource ∨ p.resource = wildcard
  action : IsSegment p.action ∨ p.action = wildcard
  not_both : ¬(p.resource = wildcard ∧ p.action = wildcard)

/-- Neither part of a well-formed permission has a separator in it. -/
lemma WellFormed.separator_not_mem (h : p.WellFormed) :
    separator ∉ p.resource.toList ∧ separator ∉ p.action.toList := by
  have hpart : ∀ part : String, IsSegment part ∨ part = wildcard → separator ∉ part.toList := by
    rintro part (hsegment | rfl)
    · exact hsegment.separator_not_mem
    · exact separator_not_mem_wildcard
  exact ⟨hpart p.resource h.resource, hpart p.action h.action⟩

/-- A text is read as the well-formed permission whose text it is. -/
lemma parse_eq_ok_iff_text : parse code = .ok p ↔ p.WellFormed ∧ code = p.text := by
  rw [parse_eq_ok_iff, ofText_eq_ok_iff]
  constructor
  · rintro ⟨hcode, hresource, haction, hboth⟩
    exact ⟨⟨hresource, haction, hboth⟩, hcode⟩
  · rintro ⟨⟨hresource, haction, hboth⟩, hcode⟩
    exact ⟨hcode, hresource, haction, hboth⟩

lemma isPattern_eq_false_iff :
    p.isPattern = false ↔ p.resource ≠ wildcard ∧ p.action ≠ wildcard := by
  simp [isPattern]

/-- A concrete code is a text that is read as a permission without wildcards. -/
lemma parseConcrete_eq_ok_iff_parse :
    parseConcrete code = .ok p ↔ parse code = .ok p ∧ p.isPattern = false := by
  rw [parseConcrete_eq_ok_iff, ofConcrete_eq_ok_iff, parse_eq_ok_iff_text, isPattern_eq_false_iff]
  constructor
  · rintro ⟨hcode, hresource, haction⟩
    have hne : p.resource ≠ wildcard ∧ p.action ≠ wildcard :=
      ⟨hresource.ne_wildcard, haction.ne_wildcard⟩
    exact ⟨⟨⟨Or.inl hresource, Or.inl haction, fun hboth => hne.1 hboth.1⟩, hcode⟩, hne⟩
  · rintro ⟨⟨hwell, hcode⟩, hresource, haction⟩
    exact ⟨hcode, hwell.resource.resolve_right hresource, hwell.action.resolve_right haction⟩

/-- A text that was written from two parts is read as these, or not at all. -/
lemma eq_of_parse_encode (h : parse (encode resource action) = .ok p) : p = ⟨resource, action⟩ := by
  obtain ⟨hwell, htext⟩ := parse_eq_ok_iff_text.1 h
  obtain ⟨hresource, haction⟩ := hwell.separator_not_mem
  obtain ⟨rfl, rfl⟩ := encode_inj hresource haction htext
  rfl

lemma exists_parse_encode_iff :
    (∃ p, parse (encode resource action) = .ok p) ↔ WellFormed ⟨resource, action⟩ := by
  constructor
  · rintro ⟨p, hp⟩
    obtain rfl := eq_of_parse_encode hp
    exact (parse_eq_ok_iff_text.1 hp).1
  · intro hwell
    exact ⟨⟨resource, action⟩, parse_eq_ok_iff_text.2 ⟨hwell, rfl⟩⟩

end Permission

open Permission

/-- A grant is the wildcard alone, or a text that is read as a permission. -/
lemma checkPattern_eq_ok_iff {pattern : String} :
    checkPattern pattern = .ok () ↔ pattern = wildcard ∨ ∃ p, parse pattern = .ok p := by
  unfold checkPattern
  by_cases hwild : pattern = wildcard
  · simp [hwild]
  · rw [if_neg hwild, or_iff_right hwild]
    cases parse pattern <;> simp [Except.map]

/-- A text is read as two parts exactly when it consists of these with a colon between them, each is
a segment or the wildcard, and not both are the wildcard; what is read gives the text back. Concrete
codes are read alike where there is no wildcard, and grants may also be the wildcard alone. Of two
texts with a colon put between them, what is read is these two or nothing. -/
theorem parse_exactly_written :
    (∀ code p, parse code = .ok p ↔ p.WellFormed ∧ code = p.resource ++ ":" ++ p.action) ∧
      (∀ code p, parseConcrete code = .ok p ↔ parse code = .ok p ∧ p.isPattern = false) ∧
      (∀ code, checkPattern code = .ok () ↔ code = "*" ∨ ∃ p, parse code = .ok p) ∧
      (∀ code p, parse code = .ok p → p.text = code ∧ encode p.resource p.action = code) ∧
      ∀ resource action,
        ((∃ p, parse (encode resource action) = .ok p) ↔ WellFormed ⟨resource, action⟩) ∧
          ∀ p, parse (encode resource action) = .ok p → p = ⟨resource, action⟩ := by
  refine ⟨fun code p => parse_eq_ok_iff_text, fun code p => parseConcrete_eq_ok_iff_parse,
    fun code => checkPattern_eq_ok_iff, fun code p h => ?_,
    fun resource action => ⟨exists_parse_encode_iff, fun p => eq_of_parse_encode⟩⟩
  obtain ⟨-, rfl⟩ := parse_eq_ok_iff_text.1 h
  exact ⟨rfl, rfl⟩

/-- A pattern for all actions on orders is read and written back, and is no concrete code. A part
with a colon in it is not read as two parts. -/
theorem parse_orders_any_action :
    parse "order:*" = .ok ⟨"order", "*"⟩ ∧ Permission.text ⟨"order", "*"⟩ = "order:*" ∧
      (∀ p, parseConcrete "order:*" ≠ .ok p) ∧ ∀ p, parse (encode "order:line" "read") ≠ .ok p := by
  obtain ⟨-, hconcrete, -, hback, hencode⟩ := parse_exactly_written
  have hread : parse "order:*" = .ok ⟨"order", "*"⟩ := rfl
  refine ⟨hread, (hback _ _ hread).1, fun p hp => ?_, fun p hp => ?_⟩
  · obtain ⟨hparse, hpattern⟩ := (hconcrete _ _).1 hp
    rw [hread] at hparse
    cases hparse
    exact absurd hpattern (by decide)
  · obtain ⟨hresource, -, -⟩ := (hencode "order:line" "read").1.1 ⟨p, hp⟩
    revert hresource
    rw [← isSegment_iff]
    decide

end AccessControl
