import Mathlib.Data.List.Basic

namespace ModuleDatabase

/-!
# Nested blocks

A block is opened, may be marked, and is closed; between the two other blocks are opened
and closed inside it.  A block succeeds if it was marked, was not interrupted, and every
block inside it succeeds.

A program that only has to know whether a block succeeds needs no tree: it keeps two flags
for each block that is open, and a block that fails sets a flag of the block around it.
-/

namespace Nesting

inductive Block where
  | closed (marked interrupted : Bool) (inner : List Block)

mutual

def Block.succeeds : Block → Bool
  | .closed marked interrupted inner => marked && !interrupted && allSucceed inner

def allSucceed : List Block → Bool
  | [] => true
  | block :: rest => block.succeeds && allSucceed rest

end

/-- A block that is open, with the blocks that were closed inside it. -/
structure Frame where
  marked : Bool
  inner : List Block

/-- What is kept of a block that is open. -/
structure Flags where
  marked : Bool
  failed : Bool
  deriving DecidableEq, Repr

def Frame.fresh : Frame := ⟨false, []⟩

def Frame.mark (frame : Frame) : Frame := { frame with marked := true }

def Frame.close (interrupted : Bool) (frame : Frame) : Block :=
  .closed frame.marked interrupted frame.inner

/-- A block is closed inside this one. -/
def Frame.enclose (block : Block) (frame : Frame) : Frame :=
  { frame with inner := frame.inner ++ [block] }

/-- The flags are those of the block. -/
structure Mirrors (flags : Flags) (frame : Frame) : Prop where
  marked : flags.marked = frame.marked
  failed : flags.failed = !allSucceed frame.inner

theorem allSucceed_append (first second : List Block) :
    allSucceed (first ++ second) = (allSucceed first && allSucceed second) := by
  induction first with
  | nil => rw [List.nil_append, allSucceed, Bool.true_and]
  | cons block rest ih => rw [List.cons_append, allSucceed, ih, allSucceed, Bool.and_assoc]

section Mirrored

variable {flags : Flags} {frame : Frame}

theorem mirrors_fresh : Mirrors ⟨false, false⟩ Frame.fresh := ⟨rfl, rfl⟩

theorem Mirrors.mark (mirrors : Mirrors flags frame) :
    Mirrors { flags with marked := true } frame.mark := ⟨rfl, mirrors.failed⟩

/-- The flags tell whether the block succeeds when it is closed. -/
theorem Mirrors.succeeds (mirrors : Mirrors flags frame) (interrupted : Bool) :
    (frame.close interrupted).succeeds = (flags.marked && !flags.failed && !interrupted) := by
  rw [Frame.close, Block.succeeds, mirrors.marked, mirrors.failed, Bool.not_not,
    Bool.and_right_comm]

theorem Mirrors.enclose (mirrors : Mirrors flags frame) (block : Block) :
    Mirrors { flags with failed := flags.failed || !block.succeeds } (frame.enclose block) := by
  refine ⟨mirrors.marked, ?_⟩
  rw [Frame.enclose, allSucceed_append, allSucceed, allSucceed, Bool.and_true, Bool.not_and,
    mirrors.failed]

end Mirrored

end Nesting

end ModuleDatabase
