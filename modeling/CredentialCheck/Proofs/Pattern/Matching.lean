import CredentialCheck.Pattern.Expression

/-!
# What an expression leaves over

The rests behind the beginnings that an expression describes, said without lists of lists: which
texts are among them. A repeated test takes up a stretch of characters that all pass it, as long as
its bounds allow.

* `matchesWhole_iff`: a whole text is described when nothing is among the rests.
* `mem_rests_char`, `mem_rests_seq` and `mem_rests_repeated_char` are the rests by the form of the
  expression.
-/

namespace CredentialCheck.Pattern

variable {flags : Flags} {test : CharTest} {s r : List Char}

theorem matchesWhole_iff {e : Expression} :
    e.matchesWhole flags s = true ↔ [] ∈ e.rests flags s := by
  simp only [Expression.matchesWhole, List.any_eq_true, List.isEmpty_iff]
  exact ⟨fun ⟨r, hr, hempty⟩ => hempty ▸ hr, fun h => ⟨[], h, rfl⟩⟩

theorem mem_rests_char :
    r ∈ (Expression.char test).rests flags s ↔ ∃ c, test.admits flags c = true ∧ s = c :: r := by
  cases s with
  | nil => simp [Expression.rests]
  | cons c s =>
    rw [Expression.rests]
    by_cases h : test.admits flags c = true
    · rw [if_pos h, List.mem_singleton]
      constructor
      · rintro rfl
        exact ⟨c, h, rfl⟩
      · rintro ⟨d, -, heq⟩
        exact (List.cons.inj heq).2.symm
    · rw [if_neg h]
      refine ⟨fun hr => absurd hr List.not_mem_nil, fun ⟨d, hd, heq⟩ => ?_⟩
      rw [(List.cons.inj heq).1] at h
      exact absurd hd h

theorem mem_rests_seq {first second : Expression} :
    r ∈ (first.seq second).rests flags s ↔
      ∃ t ∈ first.rests flags s, r ∈ second.rests flags t := by
  rw [Expression.rests, List.mem_flatMap]

/-! ## Repeated tests -/

/-- After `n` steps of a test, `n` characters that pass it are gone. -/
theorem mem_exactly_char (n : Nat) {rests : List (List Char)} :
    r ∈ exactly ((Expression.char test).rests flags) n rests ↔
      ∃ p, p.length = n ∧ (∀ c ∈ p, test.admits flags c = true) ∧ p ++ r ∈ rests := by
  induction n generalizing rests with
  | zero =>
    constructor
    · exact fun h => ⟨[], rfl, fun c hc => absurd hc List.not_mem_nil, h⟩
    · rintro ⟨p, hlength, -, h⟩
      rwa [List.length_eq_zero_iff.1 hlength] at h
  | succ n ih =>
    rw [exactly, ih]
    simp only [List.mem_flatMap, mem_rests_char]
    constructor
    · rintro ⟨p, hlength, hp, t, ht, c, hc, rfl⟩
      refine ⟨c :: p, by rw [List.length_cons, hlength], fun d hd => ?_, ht⟩
      rcases List.mem_cons.1 hd with rfl | hd
      · exact hc
      · exact hp d hd
    · rintro ⟨p, hlength, hp, h⟩
      obtain ⟨c, p, rfl⟩ := List.exists_cons_of_length_eq_add_one hlength
      exact ⟨p, by simpa using hlength, fun d hd => hp d (List.mem_cons_of_mem c hd), _, h, c,
        hp c List.mem_cons_self, rfl⟩

theorem exactly_nil (step : List Char → List (List Char)) (n : Nat) : exactly step n [] = [] := by
  induction n with
  | zero => rfl
  | succ n ih => exact ih

/-- At most so many steps are some number of steps up to there. -/
theorem mem_atMost {step : List Char → List (List Char)} (n : Nat) {rests : List (List Char)} :
    r ∈ atMost step n rests ↔ ∃ k ≤ n, r ∈ exactly step k rests := by
  induction n generalizing rests with
  | zero =>
    rw [atMost]
    constructor
    · exact fun h => ⟨0, Nat.le_refl 0, h⟩
    · rintro ⟨k, hk, h⟩
      rwa [Nat.le_zero.1 hk] at h
  | succ n ih =>
    cases rests with
    | nil => simp only [atMost, exactly_nil, List.not_mem_nil, and_false, exists_false]
    | cons t rests =>
      rw [atMost, List.mem_append, ih]
      · constructor
        · rintro (h | ⟨k, hk, h⟩)
          · exact ⟨0, Nat.zero_le _, h⟩
          · exact ⟨k + 1, Nat.succ_le_succ hk, h⟩
        · rintro ⟨k, hk, h⟩
          cases k with
          | zero => exact .inl h
          | succ k => exact .inr ⟨k, Nat.le_of_succ_le_succ hk, h⟩
      · exact fun h => nomatch h

/-- A repeated test takes up a stretch of characters that pass it. -/
theorem mem_rests_repeated_char {least : Nat} {most : Option Nat} :
    r ∈ (Expression.repeated (.char test) least most).rests flags s ↔
      ∃ p, s = p ++ r ∧ (∀ c ∈ p, test.admits flags c = true) ∧ least ≤ p.length ∧
        ∀ m ∈ most, p.length ≤ max least m := by
  have hstep (more : Nat) :
      r ∈ atMost ((Expression.char test).rests flags) more
          (exactly ((Expression.char test).rests flags) least [s]) ↔
        ∃ p, s = p ++ r ∧ (∀ c ∈ p, test.admits flags c = true) ∧ least ≤ p.length ∧
          p.length ≤ least + more := by
    simp only [mem_atMost, mem_exactly_char, List.mem_singleton]
    constructor
    · rintro ⟨k, hk, p, hp, hpass, q, hq, hqpass, rfl⟩
      refine ⟨q ++ p, by rw [List.append_assoc], fun c hc => ?_, ?_, ?_⟩
      · rcases List.mem_append.1 hc with hc | hc
        · exact hqpass c hc
        · exact hpass c hc
      all_goals
        rw [List.length_append]
        omega
    · rintro ⟨p, rfl, hpass, hleast, hmost⟩
      refine ⟨p.length - least, by omega, p.drop least, List.length_drop .., fun c hc =>
        hpass c (List.mem_of_mem_drop hc), p.take least, List.length_take_of_le hleast, fun c hc =>
        hpass c (List.mem_of_mem_take hc), ?_⟩
      rw [← List.append_assoc, List.take_append_drop]
  simp only [Expression.rests, Expression.mayBeEmpty, Bool.false_eq_true, if_false, hstep]
  cases most with
  | none =>
    refine exists_congr fun p => and_congr_right fun hs => and_congr_right fun _ =>
      and_congr_right fun _ => ?_
    have hlength : p.length ≤ s.length := by
      rw [hs, List.length_append]
      omega
    simp only [Option.not_mem_none, false_implies, implies_true, iff_true]
    omega
  | some m =>
    simp only [Option.mem_some_iff, forall_eq']
    refine exists_congr fun p => and_congr_right fun _ => and_congr_right fun _ =>
      and_congr_right fun _ => ?_
    omega

end CredentialCheck.Pattern
