import QueryFilter.Pattern.Match
import QueryFilter.Pattern.Reader
import QueryFilter.Pattern.Standard
import Mathlib.Data.Nat.Notation
import Mathlib.Data.Option.Basic
import Mathlib.Tactic.SplitIfs

/-!
# Groups that nothing asks for

The groups of a pattern are kept for what asks for their text or for whether they have one. In a
pattern where nothing does, they may be left out (`Node.withoutGroups`). All places that are reached
are then the same up to where groups have begun and ended (`Spot.Same`); this is carried through the
matchers by the rest of the search, which finds the same from places that are the same
(`Matcher.Same`).

So the standard patterns, which have no groups, are those that their texts denote.

* `same_run_withoutGroups`: the matchers of both patterns;
* `finds_withoutGroups`, `remove_withoutGroups`: what they find and remove;
* `exists_read_standard`: the texts of the standard patterns.
-/

namespace QueryFilter

/-! ## Nodes -/

namespace Node

/-- Whether something in a pattern asks for a group. -/
def asks : Node → Bool
  | .empty | .set _ | .any _ | .anchor _ => false
  | .seq first second | .alt first second => first.asks || second.asks
  | .rep body _ _ _ | .atomic body | .look body _ _ | .group _ body => body.asks
  | .again _ _ | .cond _ _ _ => true

/-- A pattern whose groups are not kept. -/
def withoutGroups : Node → Node
  | .seq first second => .seq first.withoutGroups second.withoutGroups
  | .alt first second => .alt first.withoutGroups second.withoutGroups
  | .rep body least most greed => .rep body.withoutGroups least most greed
  | .atomic body => .atomic body.withoutGroups
  | .look body back negated => .look body.withoutGroups back negated
  | .group _ body => body.withoutGroups
  | node => node

end Node

/-! ## Places -/

/-- Whether places are the same up to where groups have begun and ended. -/
structure Spot.Same (s t : Spot) : Prop where
  before : s.before = t.before
  rest : s.rest = t.rest

namespace Spot.Same

variable {s t : Spot}

/-- Every place is the same as itself. -/
@[refl] theorem refl (s : Spot) : s.Same s := ⟨rfl, rfl⟩

/-- Such places have the same position. -/
theorem position (h : s.Same t) : s.position = t.position :=
  congrArg List.length h.before

/-- They meet the same conditions. -/
theorem meets (h : s.Same t) (a : Anchor) : s.meets a = t.meets a := by
  cases a <;> simp only [Spot.meets, Spot.atWordEdge, h.before, h.rest]

/-- The places after the next character are the same. -/
theorem advance (h : s.Same t) (c : Char) (rest : List Char) :
    (s.advance c rest).Same (t.advance c rest) :=
  ⟨congrArg (c :: ·) h.before, rfl⟩

/-- So are the places before. -/
theorem back? (h : s.Same t) (n : ℕ) : Option.Rel Spot.Same (s.back? n) (t.back? n) := by
  induction n generalizing s t with
  | zero => exact .some h
  | succ n ih =>
    rw [Spot.back?, Spot.back?, h.before]
    split
    next => exact .none
    next c before _ => exact ih ⟨rfl, congrArg (c :: ·) h.rest⟩

end Spot.Same

/-! ## Matchers -/

/-- Whether the rest of a search finds the same from places that are the same. -/
def Continuation.Same (k k' : Continuation) : Prop :=
  ∀ ⦃s t⦄, s.Same t → Option.Rel Spot.Same (k s) (k' t)

/-- Whether matchers find the same from places that are the same, if the rest of the search does. -/
def Matcher.Same (m m' : Matcher) : Prop :=
  ∀ ⦃s t⦄, s.Same t → ∀ ⦃k k'⦄, Continuation.Same k k' → Option.Rel Spot.Same (m s k) (m' t k')

namespace Matcher.Same

variable {x x' y y' : Option Spot} {k k' : Continuation} {m m' after after' : Matcher}

/-- The first of two ends. -/
theorem orElse (hx : Option.Rel Spot.Same x x') (hy : Option.Rel Spot.Same y y') :
    Option.Rel Spot.Same (x.orElse fun _ => y) (x'.orElse fun _ => y') := by
  cases hx with
  | some h => exact .some h
  | none => exact hy

/-- The rest of a search after a match. -/
theorem bind (hx : Option.Rel Spot.Same x x') (hk : Continuation.Same k k') :
    Option.Rel Spot.Same (x.bind k) (x'.bind k') := by
  cases hx with
  | some h => exact hk h
  | none => exact .none

/-- Iterations. -/
theorem times (hm : Same m m') (hafter : Same after after') (count : ℕ) :
    Same (Matcher.times m after count) (Matcher.times m' after' count) := by
  induction count with
  | zero => exact hafter
  | succ count ih => exact fun s t hs k k' hk => hm hs fun s t hs => ih hs hk

/-- Iterations up to a number. -/
theorem upTo (hm : Same m m') (lazy : Bool) (count : ℕ) :
    Same (Matcher.upTo m lazy count) (Matcher.upTo m' lazy count) := by
  induction count with
  | zero => exact fun s t hs k k' hk => hk hs
  | succ count ih =>
    intro s t hs k k' hk
    have hfurther : Continuation.Same
        (fun u => if u.position = s.position then k u else Matcher.upTo m lazy count u k)
        (fun u => if u.position = t.position then k' u else Matcher.upTo m' lazy count u k') := by
      intro u v hu
      simp only [hu.position, hs.position]
      split_ifs
      · exact hk hu
      · exact ih hu hk
    have hmore := hm hs hfurther
    cases lazy with
    | true => exact orElse (hk hs) hmore
    | false => exact orElse hmore (hk hs)

/-- Any number of iterations. -/
theorem many (hm : Same m m') (lazy : Bool) (most : Option ℕ) :
    Same (Matcher.many m lazy most) (Matcher.many m' lazy most) := by
  intro s t hs k k' hk
  rw [Matcher.many, Matcher.many, Matcher.room, Matcher.room, hs.rest]
  exact upTo hm lazy _ hs hk

/-- First matches, one after another. -/
theorem firsts (hm : Same m m') (count : ℕ) :
    Continuation.Same (Matcher.firsts m count) (Matcher.firsts m' count) := by
  induction count with
  | zero => exact fun s t hs => .some hs
  | succ count ih => exact fun s t hs => bind (hm hs fun s t hs => .some hs) ih

/-- As many first matches as there are. -/
theorem allFirsts (hm : Same m m') (count : ℕ) {s t : Spot} (hs : s.Same t) :
    (Matcher.allFirsts m count s).Same (Matcher.allFirsts m' count t) := by
  induction count generalizing s t with
  | zero => exact hs
  | succ count ih =>
    have hfirst : Option.Rel Spot.Same (m s some) (m' t some) := hm hs fun s t hs => .some hs
    rw [Matcher.allFirsts, Matcher.allFirsts]
    generalize m s some = x at hfirst ⊢
    generalize m' t some = x' at hfirst ⊢
    cases hfirst with
    | none => exact hs
    | @some u v hu =>
      simp only [hu.position, hs.position]
      split_ifs
      · exact hu
      · exact ih hu

/-- Iterations that are not tried in another way. -/
theorem possessive (hm : Same m m') (least : ℕ) (most : Option ℕ) :
    Same (Matcher.possessive m least most) (Matcher.possessive m' least most) := by
  intro s t hs k k' hk
  refine bind (firsts hm least hs) fun u v hu => ?_
  rw [Matcher.room, Matcher.room, hu.rest]
  exact hk (allFirsts hm _ hu)

end Matcher.Same

/-- Without the groups that nothing asks for, a pattern has the same matches. -/
theorem same_run_withoutGroups {node : Node} (h : node.asks = false) :
    Matcher.Same node.run node.withoutGroups.run := by
  induction node with
  | empty => exact fun s t hs k k' hk => hk hs
  | set chars =>
    intro s t hs k k' hk
    simp only [Node.withoutGroups, Node.run, hs.rest]
    split
    next => exact .none
    next c rest _ =>
      split_ifs
      · exact hk (hs.advance c rest)
      · exact .none
  | any lineFeed =>
    intro s t hs k k' hk
    simp only [Node.withoutGroups, Node.run, hs.rest]
    split
    next => exact .none
    next c rest _ =>
      split_ifs
      · exact hk (hs.advance c rest)
      · exact .none
  | anchor a =>
    intro s t hs k k' hk
    simp only [Node.withoutGroups, Node.run, hs.meets]
    split_ifs
    · exact hk hs
    · exact .none
  | seq first second ihfirst ihsecond =>
    obtain ⟨hfirst, hsecond⟩ := Bool.or_eq_false_iff.1 h
    exact fun s t hs k k' hk => ihfirst hfirst hs fun s t hs => ihsecond hsecond hs hk
  | alt first second ihfirst ihsecond =>
    obtain ⟨hfirst, hsecond⟩ := Bool.or_eq_false_iff.1 h
    exact fun s t hs k k' hk => Matcher.Same.orElse (ihfirst hfirst hs hk) (ihsecond hsecond hs hk)
  | rep body least most greed ih =>
    cases greed with
    | greedy => exact (ih h).times ((ih h).many false _) least
    | lazy => exact (ih h).times ((ih h).many true _) least
    | possessive => exact (ih h).possessive least _
  | atomic body ih =>
    exact fun s t hs k k' hk => Matcher.Same.bind (ih h hs fun s t hs => .some hs) hk
  | look body back negated ih =>
    intro s t hs k k' hk
    have hbody := Matcher.Same.bind (hs.back? back) fun s t hs =>
      ih h hs fun s t hs => .some hs
    simp only [Node.withoutGroups, Node.run]
    generalize (s.back? back).bind (fun u => body.run u some) = x at hbody ⊢
    generalize (t.back? back).bind (fun u => body.withoutGroups.run u some) = x' at hbody ⊢
    cases hbody with
    | none =>
      cases negated with
      | true => exact hk hs
      | false => exact .none
    | some _ =>
      cases negated with
      | true => exact .none
      | false => exact hk ⟨hs.before, hs.rest⟩
  | group number body ih =>
    intro s t hs k k' hk
    have henter : (s.enter number).Same t := ⟨hs.before, hs.rest⟩
    exact ih h henter fun u v hu => hk (⟨hu.before, hu.rest⟩ : (u.leave number).Same v)
  | again number letters => cases h
  | cond number yes no => cases h

namespace Pattern

variable {node : Node}

/-- Without its groups a pattern is found in the same texts. -/
theorem finds_withoutGroups (text : String) (h : node.asks = false) (cs : List Char) :
    finds ⟨text, node⟩ cs = finds ⟨text, node.withoutGroups⟩ cs := by
  have hfound (before rest : List Char) :
      (node.run (.between before rest) some).isSome =
        (node.withoutGroups.run (.between before rest) some).isSome := by
    have hsame : Option.Rel Spot.Same (node.run (.between before rest) some)
        (node.withoutGroups.run (.between before rest) some) :=
      same_run_withoutGroups h (.refl _) fun s t hs => .some hs
    generalize node.run _ some = x at hsame ⊢
    generalize node.withoutGroups.run _ some = x' at hsame ⊢
    cases hsame <;> rfl
  have hfrom (before : List Char) :
      findsFrom node before cs = findsFrom node.withoutGroups before cs := by
    induction cs generalizing before with
    | nil => exact hfound before []
    | cons c cs ih => rw [findsFrom, findsFrom, hfound, ih]
  exact hfrom []

/-- The first match that is not empty ends at the same position. -/
theorem matchEnd?_withoutGroups (h : node.asks = false) (s : Spot) :
    matchEnd? node s = matchEnd? node.withoutGroups s := by
  have hlonger : Continuation.Same (fun t => if t.position = s.position then none else some t)
      (fun t => if t.position = s.position then none else some t) := by
    intro u v hu
    simp only [hu.position]
    split_ifs
    · exact .none
    · exact .some hu
  have hsame := same_run_withoutGroups h (.refl s) hlonger
  rw [matchEnd?, matchEnd?]
  generalize node.run s _ = x at hsame ⊢
  generalize node.withoutGroups.run s _ = x' at hsame ⊢
  cases hsame with
  | none => rfl
  | some hu => exact congrArg some hu.position

/-- The same characters are outside all matches. -/
theorem remove_withoutGroups (text : String) (h : node.asks = false) (cs : List Char) :
    remove ⟨text, node⟩ cs = remove ⟨text, node.withoutGroups⟩ cs := by
  have hfrom (skip : ℕ) (before : List Char) :
      removeFrom node skip before cs = removeFrom node.withoutGroups skip before cs := by
    induction cs generalizing skip before with
    | nil => cases skip <;> rfl
    | cons c cs ih =>
      cases skip with
      | succ skip => exact ih skip (c :: before)
      | zero => simp only [removeFrom, matchEnd?_withoutGroups h, ih]
  exact hfrom 0 []

/-- A pattern that differs from another one only in groups that nothing asks for finds and removes
    the same. -/
theorem same_of_withoutGroups {p q : Pattern} (h : p.node.asks = false)
    (hnode : p.node.withoutGroups = q.node) (cs : List Char) :
    p.finds cs = q.finds cs ∧ p.remove cs = q.remove cs := by
  obtain ⟨text, node⟩ := p
  obtain ⟨text', node'⟩ := q
  cases hnode
  exact ⟨finds_withoutGroups text h cs, remove_withoutGroups text h cs⟩

/-- The pattern that the text of `arrayKey` denotes: its brackets are a group. -/
def groupedArrayKey : Node :=
  .seq (.anchor .textStart)
    (.seq nameNode (.seq (.rep (.group 1 bracketsNode) 0 (some 1) .greedy) (.anchor .textEnd)))

/-- The texts of the standard patterns, in either case of letters, denote these patterns. -/
theorem exists_read_standard (names : CharNames) {p : Pattern}
    (h : p ∈ [key, arrayKey, unsafeChars]) :
    ∃ q, read names ("(?i)" ++ p.text) = .ok q ∧
      ∀ cs, q.finds cs = p.finds cs ∧ q.remove cs = p.remove cs := by
  simp only [List.mem_cons, List.not_mem_nil, or_false] at h
  obtain rfl | rfl | rfl := h
  · exact ⟨⟨_, key.node⟩, rfl, same_of_withoutGroups rfl rfl⟩
  · exact ⟨⟨_, groupedArrayKey⟩, rfl, same_of_withoutGroups rfl rfl⟩
  · exact ⟨⟨_, unsafeChars.node⟩, rfl, same_of_withoutGroups rfl rfl⟩

end Pattern

end QueryFilter
