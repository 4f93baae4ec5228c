import CredentialCheck.Text.LineEnding

/-!
# Texts with the same lines

Two texts have the same lines if they differ at most in how their lines end. What unifying the line
endings makes of a text has the lines of the text.

A text can be taken apart, and its parts be found in any text with the same lines, everywhere but
inside a line ending (`SameLines.split`).
-/

namespace CredentialCheck.Text

/-- The ways in which a line ends. -/
def lineEndings : List (List Char) := [['\n'], ['\r'], ['\r', '\n']]

/-- A character of a line ending. -/
def EndsLine (c : Char) : Prop := c = '\n' ∨ c = '\r'

instance (c : Char) : Decidable (EndsLine c) := inferInstanceAs (Decidable (_ ∨ _))

/-- The text has no line ending. -/
def OneLine (s : List Char) : Prop := ∀ c ∈ s, ¬ EndsLine c

instance (s : List Char) : Decidable (OneLine s) :=
  List.decidableBAll (¬ EndsLine ·) s

/-- The texts differ at most in how their lines end. -/
inductive SameLines : List Char → List Char → Prop
  | nil : SameLines [] []
  | cons {c : Char} {s t : List Char} (hc : ¬ EndsLine c) (h : SameLines s t) :
    SameLines (c :: s) (c :: t)
  | ending {e f s t : List Char} (he : e ∈ lineEndings) (hf : f ∈ lineEndings)
    (h : SameLines s t) : SameLines (e ++ s) (f ++ t)

variable {s t : List Char}

theorem SameLines.symm (h : SameLines s t) : SameLines t s := by
  induction h with
  | nil => exact .nil
  | cons hc _ ih => exact .cons hc ih
  | ending he hf _ ih => exact .ending hf he ih

theorem sameLines_unifyLineEndings (s : List Char) : SameLines s (unifyLineEndings s) := by
  fun_induction unifyLineEndings s with
  | case1 => exact .nil
  | case2 s ih => exact .ending (e := ['\r', '\n']) (f := ['\n']) (by decide) (by decide) ih
  | case3 s _ ih => exact .ending (e := ['\r']) (f := ['\n']) (by decide) (by decide) ih
  | case4 c s hpair hreturn ih =>
    by_cases hc : c = '\n'
    · rw [hc]
      exact .ending (e := ['\n']) (f := ['\n']) (by decide) (by decide) ih
    · exact .cons (not_or.2 ⟨hc, hreturn⟩) ih

/-- The characters of a line ending. -/
theorem endsLine_of_mem_lineEndings {e : List Char} (he : e ∈ lineEndings) :
    ∀ c ∈ e, EndsLine c := by
  simp only [lineEndings, List.mem_cons, List.not_mem_nil, or_false] at he
  rcases he with rfl | rfl | rfl <;> simp [EndsLine]

/-- Nothing but line endings is new in a text with the same lines. -/
theorem SameLines.mem_or (h : SameLines s t) : ∀ c ∈ t, c ∈ s ∨ EndsLine c := by
  induction h with
  | nil => exact fun c hc => nomatch hc
  | cons _ _ ih =>
    intro c hc
    rcases List.mem_cons.1 hc with rfl | hc
    · exact .inl List.mem_cons_self
    · exact (ih c hc).imp_left (List.mem_cons_of_mem _)
  | ending _ hf _ ih =>
    intro c hc
    rcases List.mem_append.1 hc with hc | hc
    · exact .inr (endsLine_of_mem_lineEndings hf c hc)
    · exact (ih c hc).imp_left (List.mem_append_right _)

/-- A cut that does not go through a line ending has the ending wholly behind it, or wholly in front
of it. -/
theorem eq_nil_or_exists_append {e x y : List Char} (he : e ∈ lineEndings) (hs : x ++ y = e ++ s)
    (hcut : ¬ (x.getLast? = some '\r' ∧ y.head? = some '\n')) :
    x = [] ∨ ∃ x₀, x = e ++ x₀ ∧ x₀ ++ y = s := by
  rcases List.append_eq_append_iff.1 hs with ⟨others, hx, hy⟩ | ⟨x₀, hx, hy⟩
  · cases x with
    | nil => exact .inl rfl
    | cons c x =>
      refine .inr ?_
      cases others with
      | nil => exact ⟨[], by rw [hx, List.append_nil, List.append_nil], hy⟩
      | cons d others =>
        -- only the pair of characters can have been cut
        have hpair : x = [] ∧ c = '\r' ∧ d = '\n' := by
          simp only [lineEndings, List.mem_cons, List.not_mem_nil, or_false] at he
          rcases he with rfl | rfl | rfl
          · simp at hx
          · simp at hx
          · cases x with
            | nil =>
              simp only [List.cons_append, List.nil_append, List.cons.injEq] at hx
              exact ⟨rfl, hx.1.symm, hx.2.1.symm⟩
            | cons b x => simp at hx
        obtain ⟨rfl, rfl, rfl⟩ := hpair
        exact absurd ⟨rfl, by rw [hy]; rfl⟩ hcut
  · exact .inr ⟨x₀, hx, hy.symm⟩

/-- The parts of a text are found in any text with the same lines, unless the cut goes through a
line ending. -/
theorem SameLines.split {x y : List Char} (h : SameLines (x ++ y) t)
    (hcut : ¬ (x.getLast? = some '\r' ∧ y.head? = some '\n')) :
    ∃ x' y', t = x' ++ y' ∧ SameLines x x' ∧ SameLines y y' := by
  generalize hs : x ++ y = s at h
  induction h generalizing x with
  | nil =>
    obtain ⟨rfl, rfl⟩ := List.append_eq_nil_iff.1 hs
    exact ⟨[], [], rfl, .nil, .nil⟩
  | @cons c s t hc h ih =>
    cases x with
    | nil =>
      cases hs
      exact ⟨[], c :: t, rfl, .nil, .cons hc h⟩
    | cons d x =>
      obtain ⟨rfl, rfl⟩ := List.cons.inj hs
      have hcut' : ¬ (x.getLast? = some '\r' ∧ y.head? = some '\n') := by
        rintro ⟨hlast, hhead⟩
        exact hcut ⟨by rw [List.getLast?_cons, hlast]; rfl, hhead⟩
      obtain ⟨x', y', rfl, hx, hy⟩ := ih hcut' rfl
      exact ⟨d :: x', y', rfl, .cons hc hx, hy⟩
  | @ending e f s t he hf h ih =>
    rcases eq_nil_or_exists_append he hs hcut with rfl | ⟨x₀, rfl, hbehind⟩
    · cases hs
      exact ⟨[], f ++ t, rfl, .nil, .ending he hf h⟩
    · have hcut' : ¬ (x₀.getLast? = some '\r' ∧ y.head? = some '\n') := by
        rintro ⟨hlast, hhead⟩
        exact hcut ⟨by rw [List.getLast?_append, hlast]; rfl, hhead⟩
      obtain ⟨x', y', rfl, hx, hy⟩ := ih hcut' hbehind
      exact ⟨f ++ x', y', (List.append_assoc ..).symm, .ending he hf hx, hy⟩

/-- A character that ends no line stays at the front. -/
theorem SameLines.exists_cons {c : Char} (h : SameLines (c :: s) t) (hc : ¬ EndsLine c) :
    ∃ t', t = c :: t' ∧ SameLines s t' := by
  generalize hs : c :: s = s' at h
  cases h with
  | nil => cases hs
  | cons _ h =>
    cases hs
    exact ⟨_, rfl, h⟩
  | @ending e _ _ _ he _ _ =>
    cases e with
    | nil => exact absurd he (by decide)
    | cons d e =>
      have heq : c = d := (List.cons.inj hs).1
      exact absurd (heq ▸ endsLine_of_mem_lineEndings he d List.mem_cons_self) hc

/-! ## Texts of one line -/

theorem oneLine_nil : OneLine [] := fun _ hc => nomatch hc

theorem OneLine.cons {c : Char} (hc : ¬ EndsLine c) (hs : OneLine s) : OneLine (c :: s) :=
  List.forall_mem_cons.2 ⟨hc, hs⟩

theorem OneLine.append (hs : OneLine s) (ht : OneLine t) : OneLine (s ++ t) :=
  List.forall_mem_append.2 ⟨hs, ht⟩

/-- A text of one line stays as it is. -/
theorem OneLine.eq_of_sameLines (hs : OneLine s) (h : SameLines s t) : t = s := by
  induction s generalizing t with
  | nil =>
    generalize hnil : [] = s at h
    cases h with
    | nil => rfl
    | cons _ _ => cases hnil
    | @ending e _ _ _ he _ _ =>
      cases (List.append_eq_nil_iff.1 hnil.symm).1
      exact absurd he (by decide)
  | cons c s ih =>
    obtain ⟨t', rfl, htail⟩ := h.exists_cons (hs c List.mem_cons_self)
    rw [ih (fun d hd => hs d (List.mem_cons_of_mem c hd)) htail]

/-! ## Cuts around marks -/

/-- A text can be cut at a character that ends no line. -/
theorem SameLines.exists_append_cons {c : Char} {x y : List Char} (h : SameLines (x ++ c :: y) t)
    (hc : ¬ EndsLine c) : ∃ x' y', t = x' ++ c :: y' ∧ SameLines x x' ∧ SameLines y y' := by
  have hcut : ¬ (x.getLast? = some '\r' ∧ (c :: y).head? = some '\n') := fun hcut =>
    hc (.inl (Option.some.inj hcut.2))
  obtain ⟨x', z, rfl, hx, hz⟩ := h.split hcut
  obtain ⟨y', rfl, hy⟩ := hz.exists_cons hc
  exact ⟨x', y', rfl, hx, hy⟩

/-- What stands between two marks. -/
theorem SameLines.exists_enclosed {c d : Char} (h : SameLines (c :: s ++ [d]) t)
    (hc : ¬ EndsLine c) (hd : ¬ EndsLine d) : ∃ s', t = c :: s' ++ [d] ∧ SameLines s s' := by
  obtain ⟨x, y, rfl, hx, hy⟩ := h.exists_append_cons hd
  obtain ⟨s', rfl, hs⟩ := hx.exists_cons hc
  exact ⟨s', by rw [oneLine_nil.eq_of_sameLines hy], hs⟩

/-- The text begins and ends inside a line. -/
structure Solid (s : List Char) : Prop where
  begins : ∃ c tail, s = c :: tail ∧ ¬ EndsLine c
  ends : ∃ front c, s = front ++ [c] ∧ ¬ EndsLine c

theorem OneLine.solid (hs : OneLine s) (hne : s ≠ []) : Solid s := by
  constructor
  · obtain ⟨c, tail, rfl⟩ := List.exists_cons_of_ne_nil hne
    exact ⟨c, tail, rfl, hs c List.mem_cons_self⟩
  · exact ⟨s.dropLast, s.getLast hne, (List.dropLast_concat_getLast hne).symm,
      hs _ (List.getLast_mem hne)⟩

theorem solid_enclosed {c d : Char} (hc : ¬ EndsLine c) (hd : ¬ EndsLine d) (s : List Char) :
    Solid (c :: s ++ [d]) :=
  ⟨⟨c, s ++ [d], rfl, hc⟩, ⟨c :: s, d, rfl, hd⟩⟩

/-- A text can be cut in front of a solid part and behind it. -/
theorem SameLines.exists_around {a b : List Char} (h : SameLines (a ++ s ++ b) t) (hs : Solid s) :
    ∃ a' s' b', t = a' ++ s' ++ b' ∧ SameLines a a' ∧ SameLines s s' ∧ SameLines b b' := by
  obtain ⟨⟨c, tail, hbegins, hc⟩, ⟨front, d, hends, hd⟩⟩ := hs
  have hbehind : ¬ ((a ++ s).getLast? = some '\r' ∧ b.head? = some '\n') := by
    rintro ⟨hlast, -⟩
    rw [hends, ← List.append_assoc, List.getLast?_concat] at hlast
    exact hd (.inr (Option.some.inj hlast))
  have hfront : ¬ (a.getLast? = some '\r' ∧ s.head? = some '\n') := by
    rintro ⟨-, hhead⟩
    rw [hbegins] at hhead
    exact hc (.inl (Option.some.inj hhead))
  obtain ⟨x, b', rfl, hx, hb⟩ := h.split hbehind
  obtain ⟨a', s', rfl, ha, hs'⟩ := hx.split hfront
  exact ⟨a', s', b', rfl, ha, hs', hb⟩

end CredentialCheck.Text
