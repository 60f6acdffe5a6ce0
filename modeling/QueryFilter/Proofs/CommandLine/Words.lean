import QueryFilter.CommandLine.Arguments

/-!
# Words of a command line

What the arguments of a command line hold (`Arguments.Collects`): for each option that has values
all values that the words give to it (`Word.valuesOf`), in their order, and whether the words have
the options without a value. The words are gone through one by one, and each of them adds its own
part (`Arguments.Adds`).

* `addValue_adds`, `addSwitch_adds`: what one option adds;
* `readWords_collects`: what all words add;
* `collects_of_read`: the arguments of a command line.
-/

namespace QueryFilter.CommandLine

/-- The options that collect their values. -/
def OptionName.collected : List OptionName :=
  [.alias, .blacklist, .whitelist, .custom]

/-- The value that a word gives to an option, with the words after it: one that is attached, or the
    next word. -/
def Word.value? (name : OptionName) : Word → List Word → Option String
  | .option other (some value), _ => if other = name then some value else none
  | .option other none, .plain s :: _ => if other = name then some s else none
  | _, _ => none

/-- The values that words give to an option, in order. -/
def Word.valuesOf (name : OptionName) : List Word → List String
  | [] => []
  | w :: rest => (w.value? name rest).toList ++ valuesOf name rest

namespace Arguments

/-- The values that an option has collected. -/
def items (a : Arguments) : OptionName → List String
  | .alias => a.aliases
  | .blacklist => a.blacklist
  | .whitelist => a.whitelist
  | .custom => a.custom
  | _ => []

/-- What a word adds to arguments, with the words after it. -/
structure Adds (w : Word) (rest : List Word) (a a' : Arguments) : Prop where
  items : ∀ name ∈ OptionName.collected, a'.items name = a.items name ++ (w.value? name rest).toList
  noToBoolean : a'.noToBoolean = true ↔ a.noToBoolean = true ∨ .option .noToBoolean none = w
  noToNumber : a'.noToNumber = true ↔ a.noToNumber = true ∨ .option .noToNumber none = w

/-- What words add to arguments. -/
structure CollectsFrom (a : Arguments) (words : List Word) (a' : Arguments) : Prop where
  items : ∀ name ∈ OptionName.collected, a'.items name = a.items name ++ Word.valuesOf name words
  noToBoolean : a'.noToBoolean = true ↔ a.noToBoolean = true ∨ .option .noToBoolean none ∈ words
  noToNumber : a'.noToNumber = true ↔ a.noToNumber = true ∨ .option .noToNumber none ∈ words

/-- Whether arguments hold what the words of a command line give to its options. -/
structure Collects (words : List Word) (a : Arguments) : Prop where
  aliases : a.aliases = Word.valuesOf .alias words
  blacklist : a.blacklist = Word.valuesOf .blacklist words
  whitelist : a.whitelist = Word.valuesOf .whitelist words
  custom : a.custom = Word.valuesOf .custom words
  noToBoolean : a.noToBoolean = true ↔ .option .noToBoolean none ∈ words
  noToNumber : a.noToNumber = true ↔ .option .noToNumber none ∈ words

variable {a a₁ a' : Arguments} {w : Word} {words rest : List Word} {name : OptionName} {s : String}

/-! ## One word -/

/-- A word that is no option adds nothing. -/
theorem adds_of_ne_option (hw : ∀ name value, w ≠ .option name value) (hitems : a₁.items = a.items)
    (hboolean : a₁.noToBoolean = a.noToBoolean) (hnumber : a₁.noToNumber = a.noToNumber) :
    Adds w rest a a₁ := by
  have hvalue : ∀ name, w.value? name rest = none := by
    intro name
    cases w with
    | option other value => exact absurd rfl (hw other value)
    | _ => rfl
  refine ⟨fun name _ => ?_, ?_, ?_⟩
  · rw [hvalue, hitems, Option.toList_none, List.append_nil]
  · rw [hboolean, or_iff_left (hw _ _).symm]
  · rw [hnumber, or_iff_left (hw _ _).symm]

/-- An option with a value adds the value. -/
theorem addValue_adds {value : Option String} (h : a.addValue name s = .ok a₁)
    (hname : name.takesValue = true)
    (hvalue : ∀ other, (Word.option name value).value? other rest =
      if name = other then some s else none) :
    Adds (.option name value) rest a a₁ := by
  have hboolean : .option .noToBoolean none ≠ Word.option name value := by
    rintro ⟨⟩
    cases hname
  have hnumber : .option .noToNumber none ≠ Word.option name value := by
    rintro ⟨⟩
    cases hname
  have hadded : (∀ other ∈ OptionName.collected, a₁.items other =
        a.items other ++ (if name = other then some s else none).toList) ∧
      a₁.noToBoolean = a.noToBoolean ∧ a₁.noToNumber = a.noToNumber := by
    cases name with
    | indent =>
      simp only [addValue] at h
      split at h <;> cases h
      simp [OptionName.collected, items]
    | help | noToBoolean | noToNumber => cases hname
    | _ => cases h; simp [OptionName.collected, items]
  refine ⟨fun other hother => ?_, ?_, ?_⟩
  · rw [hvalue, hadded.1 other hother]
  · rw [hadded.2.1, or_iff_left hboolean]
  · rw [hadded.2.2, or_iff_left hnumber]

/-- An option without a value is noted. -/
theorem addSwitch_adds (hname : name.takesValue = false) (hhelp : (a.addSwitch name).help = false) :
    Adds (.option name none) rest a (a.addSwitch name) := by
  have hvalue : ∀ other ∈ OptionName.collected,
      (Word.option name none).value? other rest = none := by
    intro other hother
    have hne : name ≠ other := by
      rintro rfl
      revert hname hother
      cases name <;> decide
    cases rest with
    | nil => rfl
    | cons w rest => cases w <;> simp [Word.value?, hne]
  cases name with
  | help => cases hhelp
  | noToBoolean | noToNumber =>
    refine ⟨fun other hother => ?_, by simp [addSwitch], by simp [addSwitch]⟩
    rw [hvalue other hother, Option.toList_none, List.append_nil]
    cases other <;> rfl
  | _ => cases hname

/-! ## All words -/

/-- No words add nothing. -/
theorem CollectsFrom.nil : CollectsFrom a [] a :=
  ⟨fun _ _ => (List.append_nil _).symm, by simp, by simp⟩

/-- Words add what the first of them adds, and then what the others do. -/
theorem CollectsFrom.cons (hw : Adds w rest a a₁) (hrest : CollectsFrom a₁ rest a') :
    CollectsFrom a (w :: rest) a' := by
  refine ⟨fun name hname => ?_, ?_, ?_⟩
  · rw [hrest.items name hname, hw.items name hname, Word.valuesOf, List.append_assoc]
  · rw [hrest.noToBoolean, hw.noToBoolean, List.mem_cons, or_assoc]
  · rw [hrest.noToNumber, hw.noToNumber, List.mem_cons, or_assoc]

/-- Words that are no options add nothing. -/
theorem CollectsFrom.skip (hrest : CollectsFrom a₁ rest a')
    (hw : ∀ name value, w ≠ .option name value) (hitems : a₁.items = a.items)
    (hboolean : a₁.noToBoolean = a.noToBoolean) (hnumber : a₁.noToNumber = a.noToNumber) :
    CollectsFrom a (w :: rest) a' :=
  .cons (adds_of_ne_option hw hitems hboolean hnumber) hrest

/-- Arguments that are read from words hold what the words give to the options. -/
theorem readWords_collects (h : readWords a words = .ok a') (hhelp : a'.help = false) :
    CollectsFrom a words a' := by
  -- An option with the value after it takes two words, and the second adds nothing by itself.
  fun_induction readWords a words with
  | case1 a => cases h; exact .nil
  | case2 a s rest _ ih | case3 a s rest _ ih =>
    exact .skip (.skip (ih h) nofun rfl rfl rfl) nofun rfl rfl rfl
  | case4 a s rest _ _ ih | case5 a s rest _ _ ih => exact .skip (ih h) nofun rfl rfl rfl
  | case6 a rest _ ih | case7 a rest _ ih => exact .skip (ih h) nofun rfl rfl rfl
  | case8 a s rest ih => exact .skip (ih h) nofun rfl rfl rfl
  | case10 a name value rest hname a₁ hadd ih =>
    exact .cons (addValue_adds hadd hname fun _ => rfl) (ih h)
  | case13 a name hname s rest a₁ hadd ih =>
    exact .cons (addValue_adds hadd hname fun _ => rfl) (.skip (ih h) nofun rfl rfl rfl)
  | case15 a name rest _ _ hcalled =>
    injection h with h
    rw [h, hhelp] at hcalled
    cases hcalled
  | case16 a name rest hname _ hcalled ih =>
    exact .cons (addSwitch_adds (eq_false_of_ne_true hname) (eq_false_of_ne_true hcalled)) (ih h)
  | _ => cases h

/-- The arguments of a command line that is no call for help have a query, and hold what its words
    give to the options. -/
theorem collects_of_read {args : List String} (h : read args = .ok a) (hhelp : a.help = false) :
    (∃ query, a.query = some query) ∧
      ∃ words, Word.ofTexts args = .ok words ∧ Collects words a := by
  unfold read at h
  split at h
  · cases h
  · rename_i words hwords
    split at h
    · cases h
    · rename_i read hread
      obtain ⟨rfl, hquery⟩ : read = a ∧ a.query.isNone = false := by
        grind
      refine ⟨Option.isSome_iff_exists.mp (by simpa using hquery), words, hwords, ?_⟩
      have hcollects := readWords_collects hread hhelp
      exact {
        aliases := by simpa [items, empty] using hcollects.items .alias (by decide)
        blacklist := by simpa [items, empty] using hcollects.items .blacklist (by decide)
        whitelist := by simpa [items, empty] using hcollects.items .whitelist (by decide)
        custom := by simpa [items, empty] using hcollects.items .custom (by decide)
        noToBoolean := by simpa [empty] using hcollects.noToBoolean
        noToNumber := by simpa [empty] using hcollects.noToNumber
      }

end Arguments

end QueryFilter.CommandLine
