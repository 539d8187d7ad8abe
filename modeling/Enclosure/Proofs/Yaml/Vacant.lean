import Enclosure.Yaml.Document
import Mathlib.Data.List.Basic

/-!
# Texts without a document

A text of blanks, comments and line ends has no tokens, so there is no document in it and its value
is null.
-/

set_option autoImplicit false

namespace Enclosure.Yaml

/-- Blanks and perhaps a comment, within one line. -/
inductive Idle : List Char → Prop
  | blanks (n : Nat) : Idle (List.replicate n ' ')
  | comment (n : Nat) {words : List Char} : (∀ c ∈ words, Cursor.isBreak c = false) →
      Idle (List.replicate n ' ' ++ '#' :: words)

/-- Lines with nothing but blanks and comments. -/
inductive Vacant : List Char → Prop
  | last {line : List Char} : Idle line → Vacant line
  | line {line rest : List Char} {b : Char} : Idle line → Cursor.isBreak b = true →
      Vacant rest → Vacant (line ++ b :: rest)

namespace Cursor

variable (c : Cursor)

/-- After one step the rest is without its first character. -/
theorem rest_step : c.step.rest = c.rest.tail := by
  unfold step
  split
  · next h => rw [h, List.tail_nil]
  · next ch rest h =>
    dsimp only
    split
    · rw [h, List.tail_cons]
    · split <;> rw [h, List.tail_cons]

/-- A step changes nothing in how the text ends. -/
theorem ending_step : c.step.ending = c.ending := by
  unfold step
  split
  · rfl
  · dsimp only
    split
    · rfl
    · split <;> rfl

/-- After some steps the rest is without as many characters. -/
theorem rest_skip (n : Nat) : (c.skip n).rest = c.rest.drop n := by
  induction n generalizing c with
  | zero => rfl
  | succ n ih => rw [skip, ih, rest_step, List.drop_tail]

/-- Some steps change nothing in how the text ends. -/
theorem ending_skip (n : Nat) : (c.skip n).ending = c.ending := by
  induction n generalizing c with
  | zero => rfl
  | succ n ih => rw [skip, ih, ending_step]

/-- Skipping characters leaves the rest from the first other one on. -/
theorem rest_skipWhile (test : Char → Bool) :
    (c.skipWhile test).rest = c.rest.dropWhile test := by
  unfold skipWhile span
  rw [rest_skip]
  nth_rewrite 2 [← List.takeWhile_append_dropWhile (p := test) (l := c.rest)]
  exact List.drop_left

/-- Skipping characters changes nothing in how the text ends. -/
theorem ending_skipWhile (test : Char → Bool) : (c.skipWhile test).ending = c.ending :=
  ending_skip c _

end Cursor

/-- Of two parts, the first is dropped if it is to be dropped and the second does not start so. -/
theorem dropWhile_append_of_head? {p : Char → Bool} {body rest : List Char}
    (hbody : ∀ c ∈ body, p c = true) (hrest : ∀ c ∈ rest.head?, p c = false) :
    (body ++ rest).dropWhile p = rest := by
  rw [List.dropWhile_append_of_pos hbody]
  cases rest with
  | nil => rfl
  | cons c rest => simp [hrest c rfl]

/-- Where a line goes on, past its blanks and a comment. -/
def Cursor.pastIdle (c : Cursor) : Cursor :=
  let c := c.skipWhile (· = ' ')
  if c.next = some '#' then c.skipWhile fun ch => !Cursor.isBreak ch else c

/-- Going past blanks and a comment leads to the end of the line. -/
theorem Cursor.rest_pastIdle {c : Cursor} {line tail : List Char} (hline : Idle line)
    (hrest : c.rest = line ++ tail) (htail : ∀ b ∈ tail.head?, isBreak b = true) :
    c.pastIdle.rest = tail := by
  have hblanks (n : Nat) {rest : List Char} (h : ∀ b ∈ rest.head?, decide (b = ' ') = false) :
      (List.replicate n ' ' ++ rest).dropWhile (· = ' ') = rest := by
    apply dropWhile_append_of_head? _ h
    intro a ha
    exact decide_eq_true (List.eq_of_mem_replicate ha)
  have hpast := c.rest_skipWhile (· = ' ')
  unfold pastIdle
  cases hline with
  | blanks n =>
    have htailNot (a : Char) (ha : isBreak a = false) : tail.head? ≠ some a := by
      intro h
      rw [htail a h] at ha
      cases ha
    rw [hrest, hblanks n fun b hb => decide_eq_false ?_] at hpast
    · have hnext : (c.skipWhile (· = ' ')).next ≠ some '#' := by
        rw [next, hpast]
        exact htailNot '#' (by decide)
      dsimp only
      rw [if_neg hnext, hpast]
    · rintro rfl
      exact htailNot ' ' (by decide) hb
  | @comment n words hwords =>
    rw [hrest, List.append_assoc, hblanks n (by simp)] at hpast
    have hnext : (c.skipWhile (· = ' ')).next = some '#' := by
      rw [next, hpast]
      rfl
    dsimp only
    rw [if_pos hnext, rest_skipWhile, hpast]
    apply dropWhile_append_of_head?
    · intro a ha
      rcases List.mem_cons.mp ha with rfl | ha
      · decide
      · rw [hwords a ha]
        rfl
    · intro b hb
      rw [htail b hb]
      rfl

/-- Going past blanks and a comment changes nothing in how the text ends. -/
theorem Cursor.ending_pastIdle (c : Cursor) : c.pastIdle.ending = c.ending := by
  unfold pastIdle
  dsimp only
  split
  · rw [ending_skipWhile, ending_skipWhile]
  · exact ending_skipWhile c _

namespace TokenState

/-- The next token is found behind blanks, a comment and line breaks. -/
theorem skipToToken_succ (fuel : Nat) (s : TokenState) :
    skipToToken (fuel + 1) s = match s.cursor.pastIdle.lineBreak? with
      | some (_, c) =>
        skipToToken fuel { s with cursor := c, keyAllowed := s.flowLevel = 0 || s.keyAllowed }
      | none => { s with cursor := s.cursor.pastIdle } :=
  rfl

/-- In a text without a document there is no next token: the search for it ends with the text. -/
theorem skipToToken_of_vacant {fuel : Nat} {s : TokenState} (h : Vacant s.cursor.rest)
    (hfuel : s.cursor.rest.length < fuel) :
    ∃ c keyAllowed, skipToToken fuel s = { s with cursor := c, keyAllowed := keyAllowed } ∧
      c.rest = [] ∧ c.ending = s.cursor.ending := by
  induction fuel generalizing s with
  | zero => exact absurd hfuel (Nat.not_lt_zero _)
  | succ fuel ih =>
    rw [skipToToken_succ]
    generalize hcs : s.cursor.rest = cs at h hfuel
    cases h with
    | last hline =>
      have hrest : s.cursor.pastIdle.rest = [] :=
        Cursor.rest_pastIdle hline (by rw [hcs, List.append_nil]) (by simp)
      have hbreak : s.cursor.pastIdle.lineBreak? = none := by
        unfold Cursor.lineBreak? Cursor.next
        rw [hrest]
        rfl
      rw [hbreak]
      exact ⟨_, _, rfl, hrest, Cursor.ending_pastIdle _⟩
    | @line line rest b hline hb hvacant =>
      have hrest : s.cursor.pastIdle.rest = b :: rest :=
        Cursor.rest_pastIdle hline hcs (by simpa using hb)
      have hbreak : ∃ ch, s.cursor.pastIdle.lineBreak? = some (ch, s.cursor.pastIdle.step) := by
        unfold Cursor.lineBreak? Cursor.next
        rw [hrest]
        dsimp only [List.head?_cons]
        rw [if_pos hb]
        exact ⟨_, rfl⟩
      obtain ⟨ch, hbreak⟩ := hbreak
      have hstep : s.cursor.pastIdle.step.rest = rest := by
        rw [Cursor.rest_step, hrest, List.tail_cons]
      have hlength : rest.length < fuel := by
        rw [List.length_append, List.length_cons] at hfuel
        omega
      rw [hbreak]
      dsimp only
      obtain ⟨c, keyAllowed, hskip, hend, hending⟩ := ih
        (s := { s with cursor := s.cursor.pastIdle.step,
                       keyAllowed := s.flowLevel = 0 || s.keyAllowed })
        (by rw [hstep]; exact hvacant) (by rw [hstep]; exact hlength)
      refine ⟨c, keyAllowed, hskip, hend, ?_⟩
      rw [hending, Cursor.ending_step, Cursor.ending_pastIdle]

/-- A state without blocks, brackets and keys takes its last step where nothing is left. -/
theorem advance_of_next_eq_none {fuel : Nat} {s t : TokenState} (hskip : skipToToken fuel s = t)
    (hcheck : t.cursor.endingHere? = none) (hnext : t.cursor.next = none)
    (hstale : t.dropStale = .ok t) (hunwind : ∀ column, t.unwind column = t)
    (hkey : t.dropKeyStart = .ok t) : advance fuel s = .ok (t, false) := by
  unfold advance checkEnding
  simp only [hskip, hcheck, hstale, hunwind, hnext, hkey, bind, Except.bind]
  rfl

/-- There are no tokens in a text of blanks, comments and line breaks. -/
theorem run_start_of_vacant {c : Cursor} {fuel : Nat} (h : Vacant c.rest)
    (hending : c.ending = none) (hfuel : c.rest.length < fuel) :
    (start c).run (fuel + 1) = ⟨[], none⟩ := by
  obtain ⟨after, keyAllowed, hskip, hrest, hafter⟩ :=
    skipToToken_of_vacant (s := start c) h hfuel
  have hcheck : after.endingHere? = none := by
    unfold Cursor.endingHere?
    rw [hrest, hafter]
    exact hending
  have hnext : after.next = none := by
    rw [Cursor.next, hrest]
    rfl
  have hadvance := advance_of_next_eq_none hskip hcheck hnext rfl (fun _ => rfl) rfl
  rw [run, hadvance]
  rfl

end TokenState

/-- A text with nothing but blanks, comments and line ends, after a byte order mark or without
one. -/
def HasNoDocument (cs : List Char) : Prop :=
  Vacant cs ∨ ∃ rest, cs = '\uFEFF' :: rest ∧ Vacant rest

/-- A vacant text starts with no byte order mark. -/
theorem Vacant.head?_ne_mark {cs : List Char} (h : Vacant cs) : cs.head? ≠ some '\uFEFF' := by
  have hidle {line : List Char} (hline : Idle line) (tail : List Char)
      (htail : tail.head? ≠ some '\uFEFF') : (line ++ tail).head? ≠ some '\uFEFF' := by
    cases hline with
    | blanks n =>
      cases n with
      | zero => exact htail
      | succ n => simp [List.replicate_succ]
    | comment n hwords =>
      cases n with
      | zero => simp
      | succ n => simp [List.replicate_succ]
  cases h with
  | last hline =>
    rw [← List.append_nil cs]
    exact hidle hline [] (by simp)
  | line hline hb hrest =>
    apply hidle hline
    rintro h
    obtain rfl := Option.some.inj h
    revert hb
    decide

/-- The value of a text without a document is null. -/
theorem ofSource_of_hasNoDocument {cs : List Char} (h : HasNoDocument cs) (frames : Nat) :
    ofSource frames ⟨cs, none⟩ = .ok .null := by
  have htokens : TokenList.ofSource ⟨cs, none⟩ = ⟨[], none⟩ := by
    unfold TokenList.ofSource
    rcases h with hvacant | ⟨rest, rfl, hvacant⟩
    · have hmark : ¬ (Cursor.start cs none).next = some '\uFEFF' := hvacant.head?_ne_mark
      dsimp only
      rw [if_neg hmark]
      exact TokenState.run_start_of_vacant hvacant rfl (Nat.lt_succ_self _)
    · have hmark : (Cursor.start ('\uFEFF' :: rest) none).next = some '\uFEFF' := rfl
      dsimp only
      rw [if_pos hmark]
      apply TokenState.run_start_of_vacant
      · rw [Cursor.rest_step]
        exact hvacant
      · rw [Cursor.ending_step]
        rfl
      · rw [Cursor.rest_step]
        exact Nat.lt_add_of_pos_right (by decide : 0 < 2)
  unfold ofSource
  rw [htokens]
  rfl

end Enclosure.Yaml
