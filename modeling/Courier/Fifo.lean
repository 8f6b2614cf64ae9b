/-!
# First in, first out

A queue kept in two lists, the second one backwards, so that both ends are reached in
constant time on average.
-/

namespace Courier

/-- A queue whose elements are those of `front` followed by those of `back` reversed. -/
structure Fifo (α : Type) where
  front : List α := []
  back : List α := []
  size : Nat := 0
  size_eq : size = front.length + back.length := by rfl

namespace Fifo

variable {α : Type}

/-- The elements, the oldest first. -/
def toList (q : Fifo α) : List α := q.front ++ q.back.reverse

/-- The queue without elements. -/
def empty : Fifo α := {}

instance : Inhabited (Fifo α) := ⟨empty⟩

/-- Whether there are no elements. -/
def isEmpty (q : Fifo α) : Bool := q.size = 0

/-- Appends an element. -/
def push (q : Fifo α) (a : α) : Fifo α where
  front := q.front
  back := a :: q.back
  size := q.size + 1
  size_eq := by simp [q.size_eq]; omega

/-- Takes the oldest element. -/
def pop? (q : Fifo α) : Option (α × Fifo α) :=
  match hf : q.front with
  | a :: rest =>
    some (a, ⟨rest, q.back, q.size - 1, by have := q.size_eq; simp [hf] at this; omega⟩)
  | [] =>
    match hb : q.back.reverse with
    | a :: rest =>
      some (a, ⟨rest, [], q.size - 1, by
        have := q.size_eq
        have := congrArg List.length hb
        simp [hf] at *
        omega⟩)
    | [] => none

@[simp] theorem toList_empty : (empty : Fifo α).toList = [] := rfl

@[simp] theorem toList_push (q : Fifo α) (a : α) : (q.push a).toList = q.toList ++ [a] := by
  simp [toList, push]

@[simp] theorem length_toList (q : Fifo α) : q.toList.length = q.size := by
  simp [toList, q.size_eq]

/-- Taking an element splits the list of elements at its head. -/
theorem toList_of_pop? {q rest : Fifo α} {a : α} (h : q.pop? = some (a, rest)) :
    q.toList = a :: rest.toList := by
  unfold pop? at h
  unfold toList
  split at h
  · next a' front hf =>
    simp only [Option.some.injEq, Prod.mk.injEq] at h
    obtain ⟨rfl, rfl⟩ := h
    simp [hf]
  · next hf =>
    split at h
    · next a' front hb =>
      simp only [Option.some.injEq, Prod.mk.injEq] at h
      obtain ⟨rfl, rfl⟩ := h
      simp [hf, hb]
    · simp at h

/-- Only the queue without elements has nothing to take. -/
theorem pop?_eq_none_iff {q : Fifo α} : q.pop? = none ↔ q.toList = [] := by
  unfold pop? toList
  split
  · next hf => simp [hf]
  · next hf =>
    split
    · next hb => simp [hf, hb]
    · next hb => simpa [hf] using hb

end Fifo

end Courier
