import Mathlib.Data.List.Infix

namespace ModuleDatabase
namespace Pieces

/-!
# Pieces between separators

What `splitOn` gives, in terms of where a piece stands: it is free of the
separator, a separator or the beginning stands before it, and a separator or
the end behind it.
-/

variable {α : Type*}

/-- A piece can begin behind this. -/
def Opens (separator : α) (before : List α) : Prop :=
  before = [] ∨ ∃ earlier, before = earlier ++ [separator]

/-- A piece can end before this. -/
def Closes (separators : List α) (behind : List α) : Prop :=
  behind = [] ∨ ∃ separator ∈ separators, ∃ rest, behind = separator :: rest

theorem Closes.mono {few many : List α} {behind : List α} (closes : Closes few behind)
    (subset : few ⊆ many) : Closes many behind := by
  rcases closes with ended | ⟨separator, member, rest, shape⟩
  · exact Or.inl ended
  · exact Or.inr ⟨separator, subset member, rest, shape⟩

/-- What ends both the first and the second part ends the two together. -/
theorem Closes.append {few many : List α} {first second : List α} (closes : Closes few first)
    (continues : Closes many second) (subset : few ⊆ many) : Closes many (first ++ second) := by
  rcases closes with ended | ⟨separator, member, rest, shape⟩
  · rw [ended, List.nil_append]
    exact continues
  · exact Or.inr ⟨separator, subset member, rest ++ second, by rw [shape, List.cons_append]⟩

theorem Opens.append {separator : α} {earlier : List α} (opens : Opens separator earlier)
    (first : List α) : Opens separator (first ++ separator :: earlier) := by
  rcases opens with empty | ⟨before, shape⟩
  · exact Or.inr ⟨first, by rw [empty]⟩
  · exact Or.inr ⟨first ++ separator :: before, by rw [shape, List.append_assoc]; rfl⟩

/-- A list is free of the separator, or it has a first piece. -/
theorem induction_on (separator : α) {motive : List α → Prop}
    (last : ∀ text, separator ∉ text → motive text)
    (first : ∀ piece rest, separator ∉ piece → motive rest → motive (piece ++ separator :: rest))
    (text : List α) : motive text := by
  by_cases member : separator ∈ text
  · rcases List.eq_append_cons_of_mem member with ⟨piece, rest, split, free⟩
    have shorter : rest.length < text.length := by
      rw [split, List.length_append, List.length_cons]
      omega
    rw [split]
    exact first piece rest free (induction_on separator last first rest)
  · exact last text member
termination_by text.length

/-- Two ways to cut a text: what is free of the separator lies within what stands
before one. -/
theorem prefix_of_cut {separator : α} {first rest left right : List α} (free : separator ∉ left)
    (same : first ++ separator :: rest = left ++ right) :
    ∃ middle, first = left ++ middle ∧ right = middle ++ separator :: rest := by
  rcases List.append_eq_append_iff.mp same with ⟨middle, within, behind⟩ |
    ⟨middle, within, behind⟩
  · cases middle with
    | nil => exact ⟨[], by rw [within, List.append_nil, List.append_nil], behind.symm⟩
    | cons c others =>
        rw [List.cons_append, List.cons.injEq] at behind
        rw [within, ← behind.1] at free
        exact absurd (List.mem_append_right _ List.mem_cons_self) free
  · exact ⟨middle, within, behind⟩

/-- A later piece than the first one begins behind the first separator. -/
theorem Opens.cases {separator : α} {piece rest before tail : List α} (free : separator ∉ piece)
    (same : piece ++ separator :: rest = before ++ tail) (opens : Opens separator before) :
    before = [] ∨ ∃ earlier, before = piece ++ separator :: earlier ∧ Opens separator earlier ∧
      rest = earlier ++ tail := by
  rcases opens with empty | ⟨ahead, shape⟩
  · exact Or.inl empty
  · right
    rw [shape, List.append_assoc] at same
    rcases prefix_of_cut free same.symm with ⟨middle, longer, behind⟩
    rw [shape, longer]
    cases middle with
    | nil =>
        rw [List.nil_append, List.cons.injEq] at behind
        exact ⟨[], by rw [List.append_nil], Or.inl rfl, behind.2⟩
    | cons c others =>
        rw [List.cons_append, List.cons.injEq] at behind
        refine ⟨others ++ [separator], ?_, Or.inr ⟨others, rfl⟩, ?_⟩
        · rw [← behind.1, List.append_assoc]
          rfl
        · rw [behind.2, List.append_assoc]
          rfl

section Split

variable [BEq α] [LawfulBEq α] {separator : α}

/-- The first piece, and what closes it. -/
theorem splitOn_append {piece behind : List α} (free : separator ∉ piece)
    (closes : Closes [separator] behind) :
    ∃ rest, (piece ++ behind).splitOn separator = piece :: rest := by
  rcases closes with ended | ⟨other, member, rest, shape⟩
  · rw [ended, List.append_nil, List.splitOn_eq_singleton free]
    exact ⟨[], rfl⟩
  · rw [shape, List.mem_singleton.mp member, List.splitOn_append_cons_self_of_not_mem free]
    exact ⟨_, rfl⟩

theorem exists_first (separator : α) (text : List α) :
    ∃ piece behind, text = piece ++ behind ∧ separator ∉ piece ∧ Closes [separator] behind := by
  by_cases member : separator ∈ text
  · rcases List.eq_append_cons_of_mem member with ⟨piece, rest, split, free⟩
    exact ⟨piece, separator :: rest, split, free,
      Or.inr ⟨separator, List.mem_singleton_self _, rest, rfl⟩⟩
  · exact ⟨text, [], (List.append_nil text).symm, member, Or.inl rfl⟩

theorem mem_splitOn_iff {text piece : List α} :
    piece ∈ text.splitOn separator ↔ separator ∉ piece ∧
      ∃ before behind, text = before ++ piece ++ behind ∧ Opens separator before ∧
        Closes [separator] behind := by
  constructor
  · induction text using induction_on separator with
    | last text free =>
        rw [List.splitOn_eq_singleton free, List.mem_singleton]
        intro same
        rw [same]
        exact ⟨free, [], [], by rw [List.append_nil, List.nil_append], Or.inl rfl, Or.inl rfl⟩
    | first head rest free ih =>
        rw [List.splitOn_append_cons_self_of_not_mem free, List.mem_cons]
        intro member
        rcases member with same | later
        · rw [same]
          exact ⟨free, [], separator :: rest, rfl, Or.inl rfl,
            Or.inr ⟨separator, List.mem_singleton_self _, rest, rfl⟩⟩
        · rcases ih later with ⟨apart, before, behind, split, opens, closes⟩
          refine ⟨apart, head ++ separator :: before, behind, ?_, opens.append head, closes⟩
          rw [split]
          simp only [List.append_assoc, List.cons_append]
  · rintro ⟨free, before, behind, split, opens, closes⟩
    rcases splitOn_append free closes with ⟨rest, pieces⟩
    rcases opens with empty | ⟨earlier, shape⟩
    · rw [split, empty, List.nil_append, pieces]
      exact List.mem_cons_self
    · have cut : text = earlier ++ separator :: (piece ++ behind) := by
        rw [split, shape, List.append_assoc, List.append_assoc]
        rfl
      rw [cut, List.splitOn_append_cons_self, pieces]
      exact List.mem_append_right _ List.mem_cons_self

end Split

end Pieces
end ModuleDatabase
