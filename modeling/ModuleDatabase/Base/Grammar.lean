import Mathlib.Data.List.Basic

namespace ModuleDatabase

/-!
# Phrases

A phrase is a part of a text that stands for a value.  It is written, and it is
read from the beginning of a text, which leaves the rest.

Two obligations are kept apart.  A phrase is sound if whatever is read is what
would have been written; so a value can be read from one text only.  It is
complete if whatever is written is read again; this depends on the value, which
must not hold what ends the phrase, and on the rest of the text, which must not
go on with it.  Both are proved for each way to put phrases together, so a
grammar has them because its parts do.
-/

/-- How a value is written, and how it is read from the beginning of a text. -/
structure Phrase (α β : Type) where
  write : β → List α
  read : List α → Option (β × List α)

namespace Phrase

variable {α β γ : Type}

/-- What is read is what is written. -/
def Sound (phrase : Phrase α β) : Prop :=
  ∀ text value rest, phrase.read text = some (value, rest) → text = phrase.write value ++ rest

/-- What is written is read, for good values, and if the rest does not go on. -/
def Complete (phrase : Phrase α β) (good : β → Prop) (stops : List α → Prop) : Prop :=
  ∀ value rest, good value → stops rest →
    phrase.read (phrase.write value ++ rest) = some (value, rest)

/-- The text is this phrase, and nothing else. -/
def whole (phrase : Phrase α β) (text : List α) : Option β :=
  match phrase.read text with
  | some (value, []) => some value
  | _ => none

theorem Sound.eq_write {phrase : Phrase α β} (sound : phrase.Sound) {text : List α} {value : β}
    (reads : phrase.whole text = some value) : text = phrase.write value := by
  unfold whole at reads
  split at reads
  · rename_i found here
    cases reads
    simpa using sound text value [] here
  · cases reads

theorem Complete.whole_write {phrase : Phrase α β} {good : β → Prop} {stops : List α → Prop}
    (complete : phrase.Complete good stops) {value : β} (isGood : good value) (ends : stops []) :
    phrase.whole (phrase.write value) = some value := by
  have reads := complete value [] isGood ends
  rw [List.append_nil] at reads
  rw [whole, reads]

theorem Complete.mono {phrase : Phrase α β} {good fewer : β → Prop} {stops less : List α → Prop}
    (complete : phrase.Complete good stops) (values : ∀ value, fewer value → good value)
    (rests : ∀ rest, less rest → stops rest) : phrase.Complete fewer less :=
  fun value rest isFewer isLess => complete value rest (values value isFewer) (rests rest isLess)

/-! ## Values of another type -/

/-- The same phrase, for values of another type. -/
def via (phrase : Phrase α β) (into : β → γ) (back : γ → β) : Phrase α γ where
  write := fun value => phrase.write (back value)
  read := fun text => (phrase.read text).map fun found => (into found.1, found.2)

theorem Sound.via {phrase : Phrase α β} (sound : phrase.Sound) {into : β → γ} {back : γ → β}
    (inverse : ∀ value, back (into value) = value) : (phrase.via into back).Sound := by
  intro text value rest reads
  rcases Option.map_eq_some_iff.mp reads with ⟨⟨found, more⟩, here, same⟩
  cases same
  simpa [Phrase.via, inverse] using sound text found more here

theorem Complete.via {phrase : Phrase α β} {good : β → Prop} {stops : List α → Prop}
    (complete : phrase.Complete good stops) {into : β → γ} {back : γ → β}
    (inverse : ∀ value, into (back value) = value) :
    (phrase.via into back).Complete (fun value => good (back value)) stops := by
  intro value rest isGood ends
  simp [Phrase.via, complete (back value) rest isGood ends, inverse]

section Patterns

variable [DecidableEq α]

/-- The text behind a pattern, if it begins with it. -/
def behind (pattern text : List α) : Option (List α) :=
  if pattern.isPrefixOf text then some (text.drop pattern.length) else none

theorem behind_append (pattern text : List α) : behind pattern (pattern ++ text) = some text := by
  simp [behind]

theorem eq_append_of_behind {pattern text rest : List α} (found : behind pattern text = some rest) :
    text = pattern ++ rest := by
  unfold behind at found
  split at found
  · rename_i begins
    cases found
    exact (List.prefix_iff_eq_append.mp (List.isPrefixOf_iff_prefix.mp begins)).symm
  · cases found

theorem behind_eq_none {pattern text : List α} (differs : ¬ pattern <+: text) :
    behind pattern text = none := by
  simp [behind, differs]

/-! ## Fixed texts -/

/-- A phrase behind a fixed text. -/
def after (pattern : List α) (phrase : Phrase α β) : Phrase α β where
  write := fun value => pattern ++ phrase.write value
  read := fun text => (behind pattern text).bind phrase.read

theorem Sound.after {phrase : Phrase α β} (sound : phrase.Sound) (pattern : List α) :
    (phrase.after pattern).Sound := by
  intro text value rest reads
  rcases Option.bind_eq_some_iff.mp reads with ⟨middle, begins, here⟩
  rw [eq_append_of_behind begins, sound middle value rest here, Phrase.after, List.append_assoc]

theorem Complete.after {phrase : Phrase α β} {good : β → Prop} {stops : List α → Prop}
    (complete : phrase.Complete good stops) (pattern : List α) :
    (phrase.after pattern).Complete good stops := by
  intro value rest isGood ends
  simp [Phrase.after, List.append_assoc, behind_append, complete value rest isGood ends]

/-- A phrase in front of a fixed text. -/
def before (pattern : List α) (phrase : Phrase α β) : Phrase α β where
  write := fun value => phrase.write value ++ pattern
  read := fun text => (phrase.read text).bind fun found =>
    (behind pattern found.2).map fun rest => (found.1, rest)

theorem Sound.before {phrase : Phrase α β} (sound : phrase.Sound) (pattern : List α) :
    (phrase.before pattern).Sound := by
  intro text value rest reads
  rcases Option.bind_eq_some_iff.mp reads with ⟨⟨found, middle⟩, here, closes⟩
  rcases Option.map_eq_some_iff.mp closes with ⟨last, ends, same⟩
  cases same
  have closed : middle = pattern ++ rest := eq_append_of_behind ends
  rw [sound text found middle here, closed]
  simp [Phrase.before]

/-- Nothing is asked of the rest behind a fixed text. -/
theorem Complete.before {phrase : Phrase α β} {good : β → Prop} {stops : List α → Prop}
    (complete : phrase.Complete good stops) {pattern : List α}
    (closes : ∀ rest, stops (pattern ++ rest)) :
    (phrase.before pattern).Complete good fun _ => True := by
  intro value rest isGood _
  simp [Phrase.before, List.append_assoc, complete value (pattern ++ rest) isGood (closes rest),
    behind_append]

end Patterns

/-- Nothing, for the only value. -/
def nothing : Phrase α Unit where
  write := fun _ => []
  read := fun text => some ((), text)

theorem sound_nothing : (nothing : Phrase α Unit).Sound := by
  intro text value rest reads
  cases reads
  rfl

theorem complete_nothing :
    (nothing : Phrase α Unit).Complete (fun _ => True) fun _ => True := fun _ _ _ _ => rfl

/-! ## Words -/

/-- The longest stretch of letters that pass a test; there is one at least. -/
def word (test : α → Bool) : Phrase α (List α) where
  write := id
  read := fun text =>
    if (text.takeWhile test).isEmpty then none
    else some (text.takeWhile test, text.dropWhile test)

/-- The text does not begin with a letter that passes the test. -/
def Ends (test : α → Bool) (text : List α) : Prop := ∀ c ∈ text.head?, test c = false

theorem Ends.cons {test : α → Bool} {c : α} (fails : test c = false) (text : List α) :
    Ends test (c :: text) := by
  intro d first
  cases first
  exact fails

theorem sound_word (test : α → Bool) : (word test).Sound := by
  intro text value rest reads
  simp only [word] at reads
  split at reads
  · cases reads
  · cases reads
    exact List.takeWhile_append_dropWhile.symm

theorem complete_word (test : α → Bool) :
    (word test).Complete (fun value => value ≠ [] ∧ ∀ c ∈ value, test c = true) (Ends test) := by
  rintro value rest ⟨nonempty, passes⟩ ends
  have taken : (value ++ rest).takeWhile test = value := by
    rw [List.takeWhile_append_of_pos passes]
    cases rest with
    | nil => simp
    | cons c more => simp [ends c rfl]
  have dropped : (value ++ rest).dropWhile test = rest := by
    rw [List.dropWhile_append_of_pos passes]
    cases rest with
    | nil => simp
    | cons c more => simp [ends c rfl]
  have read : ¬ value.isEmpty = true := fun empty => nonempty (List.isEmpty_iff.mp empty)
  simp only [word, id_eq, taken, dropped, if_neg read]

/-! ## One phrase and another -/

/-- A phrase, and one that may depend on its value. -/
def andThen (first : Phrase α β) (second : β → Phrase α γ) : Phrase α (β × γ) where
  write := fun values => first.write values.1 ++ (second values.1).write values.2
  read := fun text => (first.read text).bind fun found =>
    ((second found.1).read found.2).map fun other => ((found.1, other.1), other.2)

theorem Sound.andThen {first : Phrase α β} {second : β → Phrase α γ} (sound : first.Sound)
    (also : ∀ value, (second value).Sound) : (first.andThen second).Sound := by
  intro text values rest reads
  rcases Option.bind_eq_some_iff.mp reads with ⟨⟨value, middle⟩, here, more⟩
  rcases Option.map_eq_some_iff.mp more with ⟨⟨other, last⟩, there, same⟩
  cases same
  rw [sound text value middle here, also value middle other last there, Phrase.andThen,
    List.append_assoc]

theorem Complete.andThen {first : Phrase α β} {second : β → Phrase α γ} {good : β → Prop}
    {fine : β → γ → Prop} {stops last : List α → Prop} (complete : first.Complete good stops)
    (also : ∀ value, good value → (second value).Complete (fine value) last)
    (apart : ∀ value other rest, good value → fine value other → last rest →
      stops ((second value).write other ++ rest)) :
    (first.andThen second).Complete (fun values => good values.1 ∧ fine values.1 values.2)
      last := by
  rintro ⟨value, other⟩ rest ⟨isGood, isFine⟩ ends
  have here := complete value _ isGood (apart value other rest isGood isFine ends)
  simp [Phrase.andThen, List.append_assoc, here, also value isGood other rest isFine ends]

/-! ## Lists -/

section Lists

variable [DecidableEq α]

/-- Further items, each behind a separator; at most so many. -/
def readFollowing (separator : List α) (item : Phrase α β) :
    Nat → List α → Option (List β × List α)
  | 0, text => some ([], text)
  | fuel + 1, text =>
      match behind separator text with
      | none => some ([], text)
      | some next =>
          (item.read next).bind fun found =>
            (readFollowing separator item fuel found.2).map fun others =>
              (found.1 :: others.1, others.2)

/-- Items behind separators. -/
def following (separator : List α) (item : Phrase α β) : Phrase α (List β) where
  write := List.flatMap (item.after separator).write
  read := fun text => readFollowing separator item text.length text

theorem Sound.following {item : Phrase α β} (sound : item.Sound) (separator : List α) :
    (following separator item).Sound := by
  have general : ∀ fuel text values rest,
      readFollowing separator item fuel text = some (values, rest) →
      text = values.flatMap (item.after separator).write ++ rest := by
    intro fuel
    induction fuel with
    | zero =>
        intro text values rest reads
        cases reads
        rfl
    | succ fuel ih =>
        intro text values rest reads
        rw [readFollowing] at reads
        cases begins : behind separator text with
        | none =>
            rw [begins] at reads
            cases reads
            rfl
        | some next =>
            rw [begins] at reads
            rcases Option.bind_eq_some_iff.mp reads with ⟨⟨value, middle⟩, here, more⟩
            rcases Option.map_eq_some_iff.mp more with ⟨⟨others, last⟩, later, same⟩
            cases same
            rw [eq_append_of_behind begins, sound next value middle here,
              ih middle others last later]
            simp [Phrase.after, List.append_assoc]
  intro text values rest reads
  exact general text.length text values rest reads

/-- A list ends where no separator stands. -/
theorem Complete.following {item : Phrase α β} {good : β → Prop} {stops : List α → Prop}
    (complete : item.Complete good stops) {separator : List α} (nonempty : separator ≠ [])
    (apart : ∀ rest, stops (separator ++ rest)) :
    (following separator item).Complete (fun values => ∀ value ∈ values, good value)
      fun rest => stops rest ∧ ¬ separator <+: rest := by
  have general : ∀ (values : List β) fuel rest, (∀ value ∈ values, good value) →
      stops rest → ¬ separator <+: rest → values.length ≤ fuel →
      readFollowing separator item fuel (values.flatMap (item.after separator).write ++ rest) =
        some (values, rest) := by
    intro values
    induction values with
    | nil =>
        intro fuel rest _ _ closed _
        cases fuel with
        | zero => rfl
        | succ fuel => simp [readFollowing, behind_eq_none closed]
    | cons value others ih =>
        intro fuel rest isGood ends closed enough
        cases fuel with
        | zero => exact absurd enough (Nat.not_succ_le_zero _)
        | succ fuel =>
            have later := ih fuel rest
              (fun other member => isGood other (List.mem_cons_of_mem _ member)) ends closed
              (Nat.le_of_succ_le_succ enough)
            have separated : stops (others.flatMap (item.after separator).write ++ rest) := by
              cases others with
              | nil => exact ends
              | cons other more =>
                  simp only [List.flatMap_cons, Phrase.after, List.append_assoc]
                  exact apart _
            have here := complete value _ (isGood value List.mem_cons_self) separated
            simp only [List.flatMap_cons, Phrase.after, List.append_assoc] at here later ⊢
            simp [readFollowing, behind_append, here, later]
  rintro values rest isGood ⟨ends, closed⟩
  apply general values _ rest isGood ends closed
  have longer : ∀ values : List β,
      values.length ≤ (values.flatMap (item.after separator).write).length := by
    intro values
    have positive := List.length_pos_iff.mpr nonempty
    induction values with
    | nil => exact Nat.le_refl _
    | cons value others ih =>
        simp only [List.flatMap_cons, List.length_append, List.length_cons, Phrase.after]
        simp only [Phrase.after] at ih
        omega
  have here := longer values
  simp only [Phrase.following, List.length_append]
  omega

/-- Items between separators; there is one at least. -/
def separated (separator : List α) (item : Phrase α β) : Phrase α (List β) where
  write
    | [] => []
    | value :: others => item.write value ++ (following separator item).write others
  read := fun text => ((item.andThen fun _ => following separator item).read text).map fun found =>
    (found.1.1 :: found.1.2, found.2)

theorem Sound.separated {item : Phrase α β} (sound : item.Sound) (separator : List α) :
    (separated separator item).Sound := by
  intro text values rest reads
  rcases Option.map_eq_some_iff.mp reads with ⟨⟨⟨value, others⟩, last⟩, here, same⟩
  cases same
  exact (sound.andThen fun _ => sound.following separator) text (value, others) last here

theorem Complete.separated {item : Phrase α β} {good : β → Prop} {stops : List α → Prop}
    (complete : item.Complete good stops) {separator : List α} (nonempty : separator ≠ [])
    (apart : ∀ rest, stops (separator ++ rest)) :
    (separated separator item).Complete (fun values => values ≠ [] ∧ ∀ value ∈ values, good value)
      fun rest => stops rest ∧ ¬ separator <+: rest := by
  rintro values rest ⟨filled, isGood⟩ ends
  cases values with
  | nil => exact absurd rfl filled
  | cons value others =>
      have both := complete.andThen (fun _ _ => complete.following nonempty apart)
        (by
          rintro first more rest - - ⟨ends, -⟩
          cases more with
          | nil => exact ends
          | cons second third =>
              simp only [Phrase.following, List.flatMap_cons, Phrase.after, List.append_assoc]
              exact apart _)
        (value, others) rest
        ⟨isGood value List.mem_cons_self,
          fun other member => isGood other (List.mem_cons_of_mem _ member)⟩ ends
      have written : (item.andThen fun _ => Phrase.following separator item).write (value, others) =
          (Phrase.separated separator item).write (value :: others) := rfl
      rw [← written]
      simp only [Phrase.separated, both, Option.map_some]

/-- Items with separators between them are joined. -/
theorem separated_write (separator : List α) (item : Phrase α β) (values : List β) :
    (separated separator item).write values = separator.intercalate (values.map item.write) := by
  have general : ∀ value others, item.write value ++
      others.flatMap (item.after separator).write =
        separator.intercalate ((value :: others).map item.write) := by
    intro value others
    induction others generalizing value with
    | nil => simp
    | cons other more ih =>
        simp only [List.map_cons] at ih ⊢
        rw [List.intercalate_cons_cons, ← ih other]
        simp [Phrase.after, List.append_assoc]
  cases values with
  | nil => rfl
  | cons value others => exact general value others

/-- A clause that is left out if its list is empty. -/
def clause (opening : List α) (items : Phrase α (List β)) : Phrase α (List β) where
  write := fun values => if values.isEmpty then [] else opening ++ items.write values
  read := fun text =>
    match behind opening text with
    | none => some ([], text)
    | some rest => items.read rest

@[simp] theorem clause_write_nil (opening : List α) (items : Phrase α (List β)) :
    (clause opening items).write [] = [] := rfl

theorem clause_write (opening : List α) (items : Phrase α (List β)) {values : List β}
    (filled : values ≠ []) :
    (clause opening items).write values = opening ++ items.write values := by
  cases values with
  | nil => exact absurd rfl filled
  | cons value others => rfl

theorem Complete.clause {items : Phrase α (List β)} {good : List β → Prop}
    {stops : List α → Prop} (complete : items.Complete good stops) (opening : List α) :
    (clause opening items).Complete (fun values => values ≠ [] → good values)
      fun rest => stops rest ∧ ¬ opening <+: rest := by
  rintro values rest isGood ⟨ends, closed⟩
  cases values with
  | nil => simp [Phrase.clause, behind_eq_none closed]
  | cons value others =>
      have here := complete (value :: others) rest (isGood (List.cons_ne_nil _ _)) ends
      simp [Phrase.clause, List.append_assoc, behind_append, here]

/-- A clause does not begin with a text that begins otherwise than its opening. -/
theorem clause_apart {first second : α} (differs : first ≠ second) (pattern opening : List α)
    (items : Phrase α (List β)) (values : List β) :
    ¬ first :: pattern <+: (clause (second :: opening) items).write values := by
  cases values with
  | nil => simp
  | cons value others =>
      rw [clause_write _ _ (List.cons_ne_nil value others)]
      simp [List.cons_prefix_cons, differs]

end Lists

end Phrase

end ModuleDatabase
