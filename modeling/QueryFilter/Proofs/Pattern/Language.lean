import QueryFilter.Pattern.Match

/-!
# Languages of matchers

What a matcher finds is told by the words it reads: a matcher *recognises* a language if
a search through it succeeds exactly when some word of the language stands at the place
of the search and the rest of the search succeeds after that word
(`Matcher.Recognises`). Sets of characters, sequences and greedy repetitions recognise
the languages one expects.

* `recognises_set`, `Matcher.Recognises.seq`, `Matcher.Recognises.iterate`: how the
  language of a pattern comes from those of its parts;
* `finds_textStart_iff`: a pattern that begins at the start of a text is found only there.
-/

namespace QueryFilter

/-- The place after `word`, with `rest` behind it. -/
def Spot.after (s : Spot) (word rest : List Char) : Spot :=
  { s with before := word.reverse ++ s.before, rest := rest }

/-- How far on it is. -/
theorem Spot.position_after (s : Spot) (word rest : List Char) :
    (s.after word rest).position = s.position + word.length := by
  simp [Spot.position, Spot.after, Nat.add_comm]

/-- Reading nothing does not change the place. -/
theorem Spot.after_nil (s : Spot) : s.after [] s.rest = s := rfl

/-- Reading one character. -/
theorem Spot.after_singleton (s : Spot) (c : Char) (rest : List Char) :
    s.after [c] rest = s.advance c rest := rfl

/-- Reading two words one after the other. -/
theorem Spot.after_after (s : Spot) (u v rest rest' : List Char) :
    (s.after u rest').after v rest = s.after (u ++ v) rest := by
  simp [Spot.after]

namespace Matcher

/-- A matcher recognises a language if it reads exactly the words of it, in some order. -/
def Recognises (m : Matcher) (L : List Char → Prop) : Prop :=
  ∀ (s : Spot) (k : Continuation), (m s k).isSome = true ↔
    ∃ word rest, s.rest = word ++ rest ∧ L word ∧ (k (s.after word rest)).isSome = true

variable {m m' : Matcher} {L L' : List Char → Prop}

/-- The language matters, not how it is said. -/
theorem Recognises.congr (h : m.Recognises L) (e : ∀ w, L w ↔ L' w) : m.Recognises L' := by
  intro s k
  rw [h s k]
  simp only [e]

/-- One matcher after another recognises the words of the one followed by those of the
    other. -/
theorem Recognises.seq (h : m.Recognises L) (h' : m'.Recognises L') :
    Recognises (fun s k => m s fun t => m' t k) fun w => ∃ u v, L u ∧ L' v ∧ u ++ v = w := by
  intro s k
  rw [h]
  constructor
  · rintro ⟨u, rest', hs, hu, hk⟩
    obtain ⟨v, rest, hr, hv, hk⟩ := (h' _ _).1 hk
    refine ⟨u ++ v, rest, ?_, ⟨u, v, hu, hv, rfl⟩, s.after_after u v rest rest' ▸ hk⟩
    rw [hs, List.append_assoc, ← hr]
    rfl
  · rintro ⟨_, rest, hs, ⟨u, v, hu, hv, rfl⟩, hk⟩
    refine ⟨u, v ++ rest, by rw [hs, List.append_assoc], hu, (h' _ _).2 ⟨v, rest, rfl, hv, ?_⟩⟩
    rwa [Spot.after_after]

/-- Up to `n` iterations of a matcher that reads no empty word recognise the words that
    are put together from at most `n` words of its language. -/
theorem Recognises.iterate (h : m.Recognises L) (hL : ¬L []) (n : Nat) :
    Recognises (upTo m false n) fun w =>
      ∃ ws : List (List Char), ws.length ≤ n ∧ (∀ v ∈ ws, L v) ∧ ws.flatten = w := by
  induction n with
  | zero =>
    intro s k
    constructor
    · exact fun hk => ⟨[], s.rest, rfl, ⟨[], Nat.le_refl 0, by simp, rfl⟩, hk⟩
    · rintro ⟨_, rest, hs, ⟨ws, hn, -, rfl⟩, hk⟩
      rw [List.eq_nil_of_length_eq_zero (Nat.le_zero.1 hn)] at hs hk
      rw [List.flatten_nil, List.nil_append] at hs
      rwa [List.flatten_nil, ← hs, Spot.after_nil] at hk
  | succ n ih =>
    -- The first iteration is greedy: a word is read if the search succeeds after it.
    intro s k
    have hstep : (upTo m false (n + 1) s k).isSome = true ↔
        (m s fun t => if t.position = s.position then k t else upTo m false n t k).isSome = true ∨
          (k s).isSome = true := by
      simp only [upTo, Bool.false_eq_true, if_false, Option.orElse_eq_or, Option.isSome_or,
        Bool.or_eq_true]
    rw [hstep, h]
    constructor
    · rintro (⟨v, rest', hs, hv, hk⟩ | hk)
      · -- A word of the language is not empty, so the search has moved on.
        have hne : v.length ≠ 0 := fun e => hL (List.eq_nil_of_length_eq_zero e ▸ hv)
        rw [if_neg (by simpa [Spot.position_after] using hne)] at hk
        obtain ⟨_, rest, hr, ⟨ws, hn, hws, rfl⟩, hk⟩ := (ih _ _).1 hk
        refine ⟨v ++ ws.flatten, rest, ?_, ⟨v :: ws, by simpa using hn, ?_, rfl⟩,
          s.after_after v _ rest rest' ▸ hk⟩
        · rw [hs, List.append_assoc, ← hr]
          rfl
        · exact fun u hu => (List.mem_cons.1 hu).elim (fun e => e ▸ hv) (hws u)
      · exact ⟨[], s.rest, rfl, ⟨[], Nat.zero_le _, by simp, rfl⟩, hk⟩
    · rintro ⟨_, rest, hs, ⟨ws, hn, hws, rfl⟩, hk⟩
      cases ws with
      | nil =>
        rw [List.flatten_nil, List.nil_append] at hs
        rw [List.flatten_nil, ← hs, Spot.after_nil] at hk
        exact .inr hk
      | cons v ws =>
        have hv : L v := hws v List.mem_cons_self
        have hne : v.length ≠ 0 := fun e => hL (List.eq_nil_of_length_eq_zero e ▸ hv)
        rw [List.flatten_cons, List.append_assoc] at hs
        refine .inl ⟨v, ws.flatten ++ rest, hs, hv, ?_⟩
        rw [if_neg (by simpa [Spot.position_after] using hne)]
        refine (ih _ _).2 ⟨_, rest, rfl, ⟨ws, Nat.le_of_succ_le_succ hn, ?_, rfl⟩, ?_⟩
        · exact fun u hu => hws u (List.mem_cons_of_mem _ hu)
        · rwa [Spot.after_after]

end Matcher

/-- A set of characters recognises the words of one character of it. -/
theorem recognises_set (chars : CharSet) :
    (Node.set chars).run.Recognises fun w => ∃ c, w = [c] ∧ chars.contains c = true := by
  intro s k
  simp only [Node.run]
  refine ⟨?_, ?_⟩
  · intro hk
    split at hk
    · simp at hk
    next c rest hs =>
      split at hk
      next hc => exact ⟨[c], rest, hs, ⟨c, rfl, hc⟩, hk⟩
      · simp at hk
  · rintro ⟨_, rest, hs, ⟨c, rfl, hc⟩, hk⟩
    rw [List.cons_append, List.nil_append] at hs
    rw [Spot.after_singleton] at hk
    simpa only [hs, hc, if_true] using hk

namespace Pattern

/-- A pattern that begins at the start of a text is not found after a character. -/
theorem findsFrom_textStart (node : Node) (c : Char) (before cs : List Char) :
    findsFrom (.seq (.anchor .textStart) node) (c :: before) cs = false := by
  induction cs generalizing c before with
  | nil => simp [findsFrom, Node.run, Spot.meets, Spot.between]
  | cons d cs ih => simp [findsFrom, Node.run, Spot.meets, Spot.between, ih]

/-- A pattern that begins at the start of a text is found only there. -/
theorem finds_textStart_iff {p : Pattern} {node : Node}
    (hp : p.node = .seq (.anchor .textStart) node) (cs : List Char) :
    p.finds cs = true ↔ (node.run (.start cs) some).isSome = true := by
  rw [finds, hp]
  cases cs with
  | nil => simp [findsFrom, Node.run, Spot.meets, Spot.start, Spot.between]
  | cons c cs =>
    rw [findsFrom, findsFrom_textStart, Bool.or_false]
    simp [Node.run, Spot.meets, Spot.start, Spot.between]

end Pattern

end QueryFilter
