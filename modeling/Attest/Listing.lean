import Attest.Failure.Basic

/-!
# Listings that end in a fault

References come in documents of any shape. A listing holds the entries that can be read from the
front of a document, and the fault at which reading stops if it does. Going through a listing meets
the entries first and its fault only after them, as if each entry were read when its turn comes.
-/
namespace Attest

/-- Entries read in order, and the fault at which reading stopped. -/
structure Listing (α : Type) where
  /-- The entries before the fault. -/
  entries : List α
  /-- The fault. -/
  fault : Option Fault := none

namespace Listing

variable {α β : Type}

/-- No entries. -/
def empty : Listing α := ⟨[], none⟩

/-- One listing after another. -/
def append (first second : Listing α) : Listing α :=
  match first.fault with
  | some fault => ⟨first.entries, some fault⟩
  | none => ⟨first.entries ++ second.entries, second.fault⟩

/-- The listings of items, one after another. -/
def collect (read : β → Listing α) : List β → Listing α
  | [] => empty
  | item :: rest => (read item).append (collect read rest)

/-- One entry, if it can be read. -/
def one (entry : Except Fault α) : Listing α :=
  match entry with
  | .ok entry => ⟨[entry], none⟩
  | .error fault => ⟨[], some fault⟩

/-- The listing of what has to be read first. -/
def after (source : Except Fault β) (read : β → Listing α) : Listing α :=
  match source with
  | .ok found => read found
  | .error fault => ⟨[], some fault⟩

/-- The result of going through all entries, unless the listing ends in a fault. -/
def settle (listing : Listing α) (result : β) : Except Failure β :=
  match listing.fault with
  | none => .ok result
  | some fault => .error (.fault fault)

end Listing

end Attest
