/-
  Things under numbers. A thing gets the next number when it is added and keeps it for good, so
  two things that look alike can be told apart, and a number names the same thing for ever.
-/

namespace FieldGateway

structure Numbered (α : Type) where
  items : Array α

namespace Numbered

variable {α : Type}

instance : EmptyCollection (Numbered α) := ⟨⟨#[]⟩⟩

instance : Inhabited (Numbered α) := ⟨∅⟩

/-- The number of the thing that is added next. -/
def next (t : Numbered α) : Nat := t.items.size

def add (t : Numbered α) (x : α) : Numbered α := ⟨t.items.push x⟩

def get? (t : Numbered α) (i : Nat) : Option α := t.items[i]?

def modify (t : Numbered α) (i : Nat) (f : α → α) : Numbered α := ⟨t.items.modify i f⟩

def toList (t : Numbered α) : List α := t.items.toList

@[simp] theorem next_add (t : Numbered α) (x : α) : (t.add x).next = t.next + 1 := by
  simp [next, add]

@[simp] theorem next_modify (t : Numbered α) (i : Nat) (f : α → α) :
    (t.modify i f).next = t.next := by
  simp [next, modify]

theorem get?_add (t : Numbered α) (x : α) (i : Nat) :
    (t.add x).get? i = if i = t.next then some x else t.get? i := by
  by_cases h : i = t.items.size <;> simp [get?, add, next, Array.getElem?_push, h]

theorem get?_modify (t : Numbered α) (i j : Nat) (f : α → α) :
    (t.modify i f).get? j = if i = j then (t.get? j).map f else t.get? j := by
  simp [get?, modify, Array.getElem?_modify]

end Numbered

end FieldGateway
