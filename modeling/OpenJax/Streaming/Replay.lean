set_option autoImplicit false

namespace OpenJax.Streaming

structure ReplayWindowError where
  requestedAfterSeq : Nat
  minAllowed : Nat
  deriving DecidableEq, Repr

structure ReplayBuffer (α : Type) where
  capacity : Nat
  nextSeq : Nat
  entries : List (Nat × α)

namespace ReplayBuffer

variable {α : Type}

def withCapacity (capacity : Nat) : ReplayBuffer α :=
  { capacity := max capacity 1, nextSeq := 1, entries := [] }

def push (buffer : ReplayBuffer α) (item : α) : ReplayBuffer α :=
  let kept :=
    if buffer.capacity ≤ buffer.entries.length then buffer.entries.tail else buffer.entries
  { buffer with
    nextSeq := buffer.nextSeq + 1
    entries := kept ++ [(buffer.nextSeq, item)] }

def replayFrom (buffer : ReplayBuffer α) (afterSeq : Option Nat) :
    Except ReplayWindowError (List (Nat × α)) :=
  let minAllowed := (buffer.entries.head?.map fun entry => entry.1 - 1).getD 0
  let selected := buffer.entries.filter fun entry => afterSeq.all fun after => after < entry.1
  match afterSeq with
  | some requested =>
      if requested < minAllowed then .error ⟨requested, minAllowed⟩ else .ok selected
  | none => .ok selected

end ReplayBuffer

end OpenJax.Streaming
