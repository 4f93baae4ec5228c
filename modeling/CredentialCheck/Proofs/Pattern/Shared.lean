import CredentialCheck.Identifier

/-!
# The shared cells and the tests of identifiers

Whether the pattern of a shared cell has been compiled already makes no difference to the answer: a
cell that holds nothing but the pattern of its own expression tests values as the expression does,
and is such a cell afterwards. So the tests that make use of the cells give the same answers as the
plain ones.

* `Cell.For` and `Shared.Sound` are the invariants.
* `Shared.Sound.isUri`, `Shared.Sound.isLegacy` and `Shared.Sound.isIdentifier` are the tests.
-/

namespace CredentialCheck.Pattern

/-- A cell for an expression: if it holds a pattern, that is the one compiled from it. -/
structure Cell.For (c : Cell) (expression : String) (flags : Flags) : Prop where
  expression_eq : c.expression = .string expression
  flags_eq : c.flags = flags
  compiled_eq : ∀ p, c.compiled = some p → compile (.string expression) flags = .ok p

theorem Cell.for_fresh (expression : String) (flags : Flags) :
    (Cell.fresh (.string expression) flags).For expression flags :=
  ⟨rfl, rfl, fun _ hp => nomatch hp⟩

variable {c : Cell} {expression : String} {flags : Flags}

/-- A use of a cell gives what the expression gives, and leaves a cell for the expression. -/
theorem Cell.For.get (h : c.For expression flags) :
    c.get.1 = compile (.string expression) flags ∧ c.get.2.1.For expression flags := by
  obtain ⟨source, cflags, compiled⟩ := c
  obtain ⟨rfl, rfl, hcompiled⟩ := h
  cases compiled with
  | some p => exact ⟨(hcompiled p rfl).symm, rfl, rfl, hcompiled⟩
  | none =>
    unfold Cell.get
    cases hcompile : compile (.string expression) cflags with
    | error f => exact ⟨rfl, rfl, rfl, fun _ hp => nomatch hp⟩
    | ok p =>
      refine ⟨rfl, rfl, rfl, fun q hq => ?_⟩
      cases hq
      exact hcompile

theorem Cell.For.fullmatch (h : c.For expression flags) (s : String) :
    Shared.matched (c.fullmatch (.string s)).1 = Identifier.fits expression flags (.string s) ∧
      (c.fullmatch (.string s)).2.1.For expression flags := by
  obtain ⟨hresult, hcell⟩ := h.get
  unfold Cell.fullmatch Identifier.fits
  rw [← hresult]
  generalize c.get = used at hcell
  obtain ⟨result, cell, log⟩ := used
  cases result with
  | error f => exact ⟨rfl, hcell⟩
  | ok p =>
    refine ⟨?_, hcell⟩
    simp only [Compiled.fullmatch]
    cases p.expression.matchesWhole p.flags s.toList <;> rfl

/-- Nothing but a text fits. -/
theorem fits_eq_false {v : Value} (h : v.kind ≠ .string) :
    Identifier.fits expression flags v = false := by
  unfold Identifier.fits
  cases v with
  | string s => exact absurd rfl h
  | _ => cases compile (.string expression) flags <;> rfl

namespace Shared

/-- The shared cells hold nothing but the patterns of their expressions. -/
structure Sound (s : Shared) : Prop where
  uri : s.uri.For uriExpression uriFlags
  legacy : s.legacy.For legacyExpression .none

theorem sound_fresh : fresh.Sound := ⟨Cell.for_fresh _ _, Cell.for_fresh _ _⟩

variable {s : Shared}

theorem Sound.isUri (h : s.Sound) (v : Value) :
    (s.isUri v).1 = Identifier.isUri v ∧ (s.isUri v).2.1.Sound := by
  cases v with
  | string t =>
    obtain ⟨hfits, hcell⟩ := h.uri.fullmatch t
    exact ⟨hfits, hcell, h.legacy⟩
  | _ => exact ⟨(fits_eq_false (by simp [Value.kind])).symm, h⟩

theorem Sound.isLegacy (h : s.Sound) (v : Value) :
    (s.isLegacy v).1 = Identifier.isLegacy v ∧ (s.isLegacy v).2.1.Sound := by
  cases v with
  | string t =>
    obtain ⟨hfits, hcell⟩ := h.legacy.fullmatch t
    exact ⟨hfits, h.uri, hcell⟩
  | _ => exact ⟨(fits_eq_false (by simp [Value.kind])).symm, h⟩

theorem Sound.isIdentifier (h : s.Sound) (v : Value) :
    (s.isIdentifier v).1 = Identifier.isIdentifier v ∧ (s.isIdentifier v).2.1.Sound := by
  obtain ⟨huri, hsound⟩ := h.isUri v
  unfold Shared.isIdentifier Identifier.isIdentifier
  rw [← huri]
  generalize s.isUri v = used at hsound
  obtain ⟨found, next, log⟩ := used
  cases found with
  | true => exact ⟨rfl, hsound⟩
  | false => exact hsound.isLegacy v

end Shared

end CredentialCheck.Pattern
