import BuildTree.Config.Snapshot
import BuildTree.Proofs.Text.Integer
import Mathlib.Tactic.Tauto

/-!
# What a snapshot can hold

Writing a snapshot ends without a fault just if every whole number in it is short, every key is a text, a short number or
nothing, nothing stands in itself, and there is room for how deep lists and records nest. Empty ones need no room.
-/

namespace BuildTree

/-- A key that is written. -/
def Key.Writable : Key → Prop
  | .int i => Text.Short i
  | .other _ _ => False
  | _ => True

namespace Value
variable {ρ : Type}

mutual

/-- A value that is written if there is room for it. -/
def Writable : Value ρ → Prop
  | .int i => Text.Short i
  | .list items => WritableItems items
  | .record entries => WritableEntries entries
  | .again _ => False
  | _ => True

def WritableItems : List (Value ρ) → Prop
  | [] => True
  | item :: rest => item.Writable ∧ WritableItems rest

def WritableEntries : List (Key × Value ρ) → Prop
  | [] => True
  | (key, value) :: rest => key.Writable ∧ value.Writable ∧ WritableEntries rest

end

mutual

/-- How many lists and records that are not empty stand one in another. -/
def nesting : Value ρ → Nat
  | .list items => nestingItems items
  | .record entries => nestingEntries entries
  | _ => 0

def nestingItems : List (Value ρ) → Nat
  | [] => 0
  | item :: rest => max (item.nesting + 1) (nestingItems rest)

def nestingEntries : List (Key × Value ρ) → Nat
  | [] => 0
  | (_, value) :: rest => max (value.nesting + 1) (nestingEntries rest)

end

end Value

namespace Config
variable {ρ : Type} (describe : ρ → String)

theorem stopped_append (first next : Written) :
    (first ++ next).stopped = none ↔ first.stopped = none ∧ next.stopped = none := by
  show (first.andThen next).stopped = none ↔ _
  unfold Written.andThen
  cases h : first.stopped <;> simp [h]

theorem stopped_done (chars : List Char) : (Written.done chars).stopped = none := rfl

theorem stopped_stop (f : WriteFault) : (Written.stop f).stopped ≠ none := nofun

theorem stopped_writeInteger_iff (i : Int) : (writeInteger i).stopped = none ↔ Text.Short i := by
  rw [← not_iff_not, ← Text.writeInteger?_eq_none_iff, writeInteger]
  cases Text.writeInteger? i with
  | none => exact iff_of_true (stopped_stop _) rfl
  | some text => exact iff_of_false (not_not_intro (stopped_done _)) nofun

theorem stopped_writeKey_iff (separator : List Char) (key : Key) :
    (writeKey separator key).stopped = none ↔ key.Writable := by
  cases key with
  | text s => exact iff_of_true (stopped_done _) trivial
  | null => exact iff_of_true (stopped_done _) trivial
  | other kind shown => exact iff_of_false (stopped_stop _) id
  | int i =>
    rw [Key.Writable, ← not_iff_not, ← Text.writeInteger?_eq_none_iff, writeKey]
    cases Text.writeInteger? i with
    | none => exact iff_of_true (stopped_stop _) rfl
    | some text => exact iff_of_false (not_not_intro (stopped_done _)) nofun

theorem stopped_behind_iff (separator : List Char) (item : Value ρ) (written : Written) :
    (behind separator item written).stopped = none ↔ written.stopped = none := by
  unfold behind
  split
  next h => exact iff_of_false (stopped_stop _) (by rw [h]; nofun)
  · rw [stopped_append, and_iff_right (stopped_done _)]

mutual

theorem stopped_write_iff (value : Value ρ) (room depth : Nat) :
    (write describe room depth value).stopped = none ↔ value.Writable ∧ value.nesting ≤ room := by
  cases value with
  | int i => simp [write, stopped_writeInteger_iff, Value.Writable, Value.nesting]
  | again isRecord => simp [write, stopped_stop, Value.Writable]
  | list items =>
    cases items with
    | nil => simp [write, stopped_done, Value.Writable, Value.WritableItems, Value.nesting, Value.nestingItems]
    | cons item rest =>
      cases room with
      | zero => simp [write, stopped_stop, Value.nesting, Value.nestingItems]
      | succ room =>
        have hitem := stopped_write_iff item room (depth + 1)
        have hrest := stopped_writeItems_iff rest room (depth + 1)
        simp only [write, stopped_append, stopped_behind_iff, hitem, hrest, stopped_done, Value.Writable,
          Value.WritableItems, Value.nesting, Value.nestingItems, Nat.max_le, Nat.succ_le_succ_iff, and_true]
        tauto
  | record entries =>
    cases entries with
    | nil => simp [write, stopped_done, Value.Writable, Value.WritableEntries, Value.nesting, Value.nestingEntries]
    | cons entry rest =>
      obtain ⟨key, value⟩ := entry
      cases room with
      | zero => simp [write, stopped_stop, Value.nesting, Value.nestingEntries]
      | succ room =>
        have hvalue := stopped_write_iff value room (depth + 1)
        have hrest := stopped_writeEntries_iff rest room (depth + 1)
        simp only [write, stopped_append, stopped_writeKey_iff, hvalue, hrest, stopped_done, Value.Writable,
          Value.WritableEntries, Value.nesting, Value.nestingEntries, Nat.max_le, Nat.succ_le_succ_iff, and_true,
          true_and]
        tauto
  | bool b => cases b <;> simp [write, stopped_done, Value.Writable, Value.nesting]
  | _ => simp [write, stopped_done, Value.Writable, Value.nesting]

theorem stopped_writeItems_iff : ∀ (items : List (Value ρ)) (room depth : Nat),
    (writeItems describe room depth items).stopped = none ↔
      Value.WritableItems items ∧ Value.nestingItems items ≤ room + 1
  | [], _, _ => by simp [writeItems, stopped_done, Value.WritableItems, Value.nestingItems]
  | item :: rest, room, depth => by
    have hitem := stopped_write_iff item room depth
    have hrest := stopped_writeItems_iff rest room depth
    simp only [writeItems, stopped_append, stopped_behind_iff, hitem, hrest, Value.WritableItems, Value.nestingItems,
      Nat.max_le, Nat.succ_le_succ_iff]
    tauto

theorem stopped_writeEntries_iff : ∀ (entries : List (Key × Value ρ)) (room depth : Nat),
    (writeEntries describe room depth entries).stopped = none ↔
      Value.WritableEntries entries ∧ Value.nestingEntries entries ≤ room + 1
  | [], _, _ => by simp [writeEntries, stopped_done, Value.WritableEntries, Value.nestingEntries]
  | (key, value) :: rest, room, depth => by
    have hvalue := stopped_write_iff value room depth
    have hrest := stopped_writeEntries_iff rest room depth
    simp only [writeEntries, stopped_append, stopped_writeKey_iff, hvalue, hrest, Value.WritableEntries,
      Value.nestingEntries, Nat.max_le, Nat.succ_le_succ_iff]
    tauto

end

/-- A snapshot is complete just if it can hold the configuration and there is room for it. -/
theorem stopped_snapshot_iff (room : Nat) (config : Value ρ) :
    (snapshot room describe config).stopped = none ↔ config.Writable ∧ config.nesting ≤ room := by
  rw [snapshot, stopped_append, stopped_write_iff, and_iff_left (stopped_done _)]

end Config
end BuildTree
