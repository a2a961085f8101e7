/-!
What a reading step leaves of a list: always shorter than what it was given, or
at least not longer if the step may read nothing.
-/

namespace FlowGraph.Text

abbrev Unread {α : Type} (l : List α) := { rest : List α // rest.length < l.length }

abbrev Left {α : Type} (l : List α) := { rest : List α // rest.length ≤ l.length }

variable {α : Type}

theorem length_le_self (l : List α) : l.length ≤ l.length :=
  Nat.le_refl _

theorem length_lt_cons (a : α) (l : List α) : l.length < (a :: l).length :=
  Nat.lt_succ_self _

theorem length_le_cons (a : α) (l : List α) : l.length ≤ (a :: l).length :=
  Nat.le_succ _

theorem length_lt_cons_of_le {l rest : List α} (a : α) (h : rest.length ≤ l.length) :
    rest.length < (a :: l).length :=
  Nat.lt_succ_of_le h

theorem length_lt_cons_of_lt {l rest : List α} (a : α) (h : rest.length < l.length) :
    rest.length < (a :: l).length :=
  Nat.lt_succ_of_lt h

theorem length_le_cons_of_le {l rest : List α} (a : α) (h : rest.length ≤ l.length) :
    rest.length ≤ (a :: l).length :=
  Nat.le_succ_of_le h

theorem length_le_of_le {l middle rest : List α} (h : middle.length ≤ l.length)
    (h' : rest.length ≤ middle.length) : rest.length ≤ l.length :=
  Nat.le_trans h' h

theorem length_le_cons_of_lt {l rest : List α} (a : α) (h : rest.length < l.length) :
    rest.length ≤ (a :: l).length :=
  Nat.le_of_lt (length_lt_cons_of_lt a h)

namespace Left

/-- Nothing has been read. -/
def all (l : List α) : Left l :=
  ⟨l, length_le_self l⟩

/-- The first element has been read, or none had to be. -/
def tail (a : α) (l : List α) : Left (a :: l) :=
  ⟨l, length_le_cons a l⟩

def push (a : α) {l : List α} : Left l → Left (a :: l)
  | ⟨rest, h⟩ => ⟨rest, length_le_cons_of_le a h⟩

/-- What a second step leaves of what a first one left. -/
def after {l : List α} (first : Left l) : Left first.val → Left l
  | ⟨rest, h⟩ => ⟨rest, length_le_of_le first.property h⟩

end Left

namespace Unread

def tail (a : α) (l : List α) : Unread (a :: l) :=
  ⟨l, length_lt_cons a l⟩

def push (a : α) {l : List α} : Unread l → Unread (a :: l)
  | ⟨rest, h⟩ => ⟨rest, length_lt_cons_of_lt a h⟩

/-- What a step leaves that need not read, after a first element. -/
def pushLeft (a : α) {l : List α} : Left l → Unread (a :: l)
  | ⟨rest, h⟩ => ⟨rest, length_lt_cons_of_le a h⟩

/-- Forgets that something has been read. -/
def toLeft (a : α) {l : List α} : Unread l → Left (a :: l)
  | ⟨rest, h⟩ => ⟨rest, length_le_cons_of_lt a h⟩

end Unread

end FlowGraph.Text
