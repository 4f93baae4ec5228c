import CredentialCheck.Proofs.Template.Filling

/-!
# Templates with one field at the end

The messages of the program name what is wrong and then show the value: their templates are a text
without braces and a pair of braces behind it. Such a template is filled in without a fault if the
value can be shown, as every text can.

* `fill_trailing` is the statement.
-/

namespace CredentialCheck.Template

/-- A text without braces stands for itself. -/
theorem fillPieces_text {args : Arguments} {n : Numbering}
    {fillSpec : Numbering → List Char → Except Fault (List Char × Numbering)} {text : List Char}
    (h : ∀ c ∈ text, c ≠ '{' ∧ c ≠ '}') (s : List Char) :
    fillPieces args fillSpec n (scan (text ++ s)) =
      (fillPieces args fillSpec n (scan s)).map (putBefore text) := by
  induction text with
  | nil =>
    rw [List.nil_append]
    cases fillPieces args fillSpec n (scan s) <;> rfl
  | cons c text ih =>
    obtain ⟨hopen, hclose⟩ := h c List.mem_cons_self
    rw [List.cons_append, fillPieces_plain hopen hclose,
      ih fun d hd => h d (List.mem_cons_of_mem c hd)]
    cases fillPieces args fillSpec n (scan s) <;> rfl

/-- **A text with one field behind it, filled in**: the value stands behind the text. -/
theorem fill_trailing {template text : String}
    (htemplate : template.toList = text.toList ++ ['{', '}'])
    (h : ∀ c ∈ text.toList, c ≠ '{' ∧ c ≠ '}') {v : Value} (hv : v.isShowable = true) :
    fill ⟨[v], []⟩ template = .ok (text ++ v.display) := by
  have hformat : format v [] = .ok v.display.toList := by
    change (shown v Value.display).map String.toList = _
    rw [shown, if_pos hv]
    rfl
  have hfield : fillPieces ⟨[v], []⟩ (fillTo ⟨[v], []⟩ 1) .undecided (scan ['{', '}']) =
      .ok (v.display.toList ++ [], .automatic 1) := by
    change ((format v []).bind fun text => .ok (text, Numbering.automatic 1)).bind _ = _
    rw [hformat]
    rfl
  rw [fill, htemplate, fillTo, fillPieces_text h]
  simp only [hfield, Except.map, putBefore, List.append_nil, String.ofList_append,
    String.ofList_toList]

end CredentialCheck.Template
